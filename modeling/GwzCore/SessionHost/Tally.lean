import GwzCore.SessionHost.Invariant

/-!
# Running slots, running records and exclusion

The slots of `running` and of the workspaces' counts are compared with the records
that run. They agree as long as no worker reports while the queue still names a
settled record. Close leaves such names behind: it settles the calls that wait for a
slot and keeps the queue, and a worker that reports afterwards runs the scan, which
takes a slot for a settled record and never gives it back. Lost slots only block
more, so the exclusion of writes and pushes needs no such condition.
-/
namespace GwzCore.SessionHost
open SessionContract List FiniteMap Nat
variable {F : Type}

attribute [local simp] Record.slots Record.slot

namespace Table
variable {inner : Inner F} {ctx : Context} {t u : Table F} {out : List Outgoing}
  {started : List Start}

/-- No slot is lost, and settled records are queued only after close has settled
every call that had not started. -/
structure Exact (t : Table F) : Prop where
  tallied : t.Tallied 0
  steady : t.Stale → t.closing = true ∧ t.Settled 2

namespace Exact

/-- While nothing settled is queued, a section outside close's settling loses no slot. -/
lemma acts (h : t.Exact) (hsound : t.Sound inner) (hctx : ctx.closing = false)
    (hfresh : ¬ t.Stale) (hacts : Acts inner ctx t out started u) : u.Exact ∧ ¬ u.Stale := by
  obtain ⟨_, htallied, hfresh'⟩ := hsound.tallied_acts h.tallied (.inr hfresh) hacts
  have hnot : ¬ u.Stale := hfresh'.resolve_left (by simp [hctx])
  exact ⟨⟨htallied, fun hstale => absurd hstale hnot⟩, hnot⟩

/-- Acts that no context restricts run no scan. -/
lemma actsAnywhere (h : t.Exact) (hsound : t.Sound inner)
    (hacts : ∀ ctx, ∃ started, Acts inner ctx t out started u) : u.Exact := by
  obtain ⟨_, hclosing⟩ := hacts ⟨fun _ => False, true, fun _ => False, fun _ => False⟩
  obtain ⟨_, hopen⟩ := hacts ⟨fun _ => False, false, fun _ => False, fun _ => False⟩
  refine ⟨(hsound.tallied_acts h.tallied (.inl rfl) hclosing).2.1, fun hstale => ?_⟩
  by_cases hfresh : t.Stale
  · obtain ⟨hflag, hsettled⟩ := h.steady hfresh
    exact ⟨(closing_acts hclosing).trans hflag, hsettled.acts (by decide) hsound hflag hclosing⟩
  · exact absurd hstale (h.acts hsound rfl hfresh hopen).2

lemma of_eq (h : t.Exact) (hrecords : u.records = t.records) (hrunning : u.running = t.running)
    (hbusy : u.busy = t.busy) (hqueue : u.queue = t.queue) (hclosing : u.closing = t.closing) :
    u.Exact := by
  have hslots : u.slots = t.slots := by rw [slots, slots, hrecords]
  constructor
  · rw [Tallied, hslots, hrunning, hbusy]
    exact h.tallied
  · rw [Stale, Settled, hrecords, hqueue, hclosing]
    exact h.steady

end Exact
end Table

section Turns
variable {inner : Inner F} {s s' : State F} {thread next : Thread F}

/-- A turn loses no slot, unless a worker reports while a settled record is queued. -/
lemma Turn.exact (hturn : Turn inner s thread s' next) (hsound : s.table.Sound inner)
    (hstarted : ∀ replies next, thread = .runClose replies .settling next →
      s.table.closing = true)
    (hfresh : ∀ start outcome, thread = .reporting start outcome → ¬ s.table.Stale)
    (h : s.table.Exact) : s'.table.Exact := by
  have hkept : s'.slotted = s.slotted → s'.table.closing = s.table.closing → s'.table.Exact := by
    intro hsame hclosing
    simp only [State.slotted, Prod.mk.injEq] at hsame
    exact h.of_eq hsame.1 hsame.2.1 hsame.2.2.1 hsame.2.2.2 hclosing
  have hflag : ∀ {ctx : Context} {s₀ : State F} {out : List Outgoing}, s₀.table = s.table →
      Section inner ctx s₀ out s' → s'.table.closing = s.table.closing := by
    intro ctx s₀ out hsame hsection
    obtain ⟨starts, hacts, _⟩ := hsection.acts
    rw [Table.closing_acts hacts, hsame]
  -- a section of the table: either nothing settled is queued, or it leaves the slots alone
  have hreads : ∀ {frees : ℕ → Prop} {s₀ : State F} {out : List Outgoing},
      Section inner (s.context frees) s₀ out s' → s₀.table = s.table →
      (s.table.Stale → s'.slotted = s.slotted) → s'.table.Exact := by
    intro frees s₀ out hsection hsame hidle
    by_cases hstale : s.table.Stale
    · exact hkept (hidle hstale) (hflag hsame hsection)
    · obtain ⟨starts, hacts, _⟩ := hsection.acts
      rw [hsame] at hacts
      exact (h.acts hsound rfl hstale hacts).1
  have hanywhere : ∀ {s₀ : State F} {out : List Outgoing},
      (∀ ctx, Section inner ctx s₀ out s') → s₀.table = s.table → s'.table.Exact := by
    intro s₀ out hsection hsame
    have hacts : ∀ ctx, ∃ started, Acts inner ctx s.table out started s'.table := by
      intro ctx
      obtain ⟨starts, hacts, _⟩ := (hsection ctx).acts
      rw [hsame] at hacts
      exact ⟨starts, hacts⟩
    exact h.actsAnywhere hsound hacts
  cases hturn with
  | receives call batch hsection hclosed | closes call hsection hclosed =>
    exact hreads hsection rfl fun hstale => hclosed (h.steady hstale).1
  | admits callId call cancelled batch hsection hidle =>
    refine hreads hsection rfl fun hstale => ?_
    rw [hidle fun id record hrecord => le_trans (by decide) ((h.steady hstale).2 id record hrecord)]
    rfl
  | spools call lane hid hopen htable =>
    rw [htable]
    exact { h with }
  | spooled =>
    rw [answeredOn_table]
    exact { h with }
  | startsClose | runsClose =>
    exact ⟨h.tallied, fun hstale => ⟨rfl, (h.steady hstale).2⟩⟩
  | marks batch next hsection | reads batch next hsection | leaves hsection
  | detaches replies next deadline batch hsection =>
    exact hanywhere hsection rfl
  | sends reply rest next htable | admission next htable =>
    rw [htable]
    exact h
  | calls | abandons => exact { h with }
  | @reports mid _ start outcome batch more hsettle hthreads hsettled hschedule =>
    obtain ⟨_, hacts, _⟩ := hsettle.acts
    obtain ⟨hmid, hfresh'⟩ := h.acts hsound rfl (hfresh start outcome rfl) hacts
    obtain ⟨_, hacts', _⟩ := hschedule.acts
    exact (hmid.acts (hsound.acts hacts) rfl hfresh' hacts').1
  | takes start hacts =>
    exact h.actsAnywhere hsound fun ctx => ⟨_, hacts ctx⟩
  | settles replies next batch hsection hsettled =>
    obtain ⟨_, hacts, _⟩ := hsection.acts
    have htallied := (hsound.tallied_acts h.tallied (.inl rfl) hacts).2.1
    have hclosing := (Table.closing_acts hacts).trans (hstarted replies next rfl)
    exact ⟨htallied, fun _ => ⟨hclosing, hsettled⟩⟩
  | answers =>
    rw [answeredAll_table]
    exact { h with }
  | _ => exact h

end Turns

/-- A worker reports only while the queue names no settled record. -/
def reportsFresh (s : State F) : Label F → Bool
  | .advance index _ =>
    match s.threads[index]? with
    | some (.reporting _ _) => s.queue.all fun id =>
        match s.records[id]? with
        | some record => decide (record.phase ≠ .terminal)
        | none => true
    | _ => true
  | _ => true

lemma not_stale_of_reportsFresh {s : State F} {index : ℕ} {env : Env F} {start : Start}
    {outcome : Outcome F} (hget : s.threads[index]? = some (.reporting start outcome))
    (hfresh : reportsFresh s (.advance index env) = true) : ¬ s.table.Stale := by
  rintro ⟨id, hid, record, hrecord, hterminal⟩
  simp only [reportsFresh, hget, all_eq_true] at hfresh
  have hlive := hfresh id hid
  rw [show s.records[id]? = some record from hrecord] at hlive
  simp [hterminal] at hlive

lemma Table.Exact.step {inner : Inner F} {s : State F} (hinv : Invariant inner s) {label : Label F}
    (hfresh : reportsFresh s label = true) (h : s.table.Exact) :
    (step inner s label).table.Exact := by
  rcases hinv.step_turn label with htable | ⟨index, env, thread, u, next, rfl, hget, hturn, hstep⟩
  · rw [htable]
    exact h
  · rw [hstep]
    refine hturn.exact hinv.lawful.sound ?_ ?_ h
    · rintro replies next rfl
      rw [hinv.closing.flag, (hinv.runsClose (mem_of_getElem? hget)).started]
    · rintro start outcome rfl
      exact not_stale_of_reportsFresh hget hfresh

/-- In a run whose reports meet no settled queue entry, no slot is lost. -/
lemma exact_run {inner : Inner F} {labels : List (Label F)}
    (hmeets : Steps.Meets (fun s label => reportsFresh s label = true) (step inner) {} labels) :
    (run inner labels).table.Exact := by
  have hinit : Invariant inner {} ∧ Table.Exact (State.table ({} : State F)) := by
    refine ⟨.init inner, .init, ?_⟩
    rintro ⟨id, hid, _⟩
    exact absurd hid not_mem_nil
  have hboth := Steps.run_induction_of_meets (P := fun s => Invariant inner s ∧ s.table.Exact) hinit
    (fun s label hfresh ⟨hinv, hexact⟩ => ⟨hinv.step label, hexact.step hinv hfresh⟩) hmeets
  exact hboth.2

/-! ### The tally in terms of records -/

/-- The record is of an operation that runs. -/
def Record.runs (record : Record F) : Bool :=
  decide (record.phase = .running) && record.operation.isSome

/-- The record is of an operation of the class that runs on the workspace. -/
def Record.runsOn (record : Record F) (workspace : String) (cls : Class) : Bool :=
  decide (record.phase = .running) && decide (record.operation.map Prod.snd = some cls) &&
    decide (record.resolved.map Resolved.workspace = some workspace)

/-- How many operations run. -/
def State.operationsRunning (s : State F) : ℕ := s.records.toList.countP fun entry => entry.2.runs

/-- How many operations of a class run on a workspace. -/
def State.operationsOn (s : State F) (workspace : String) (cls : Class) : ℕ :=
  s.records.toList.countP fun entry => entry.2.runsOn workspace cls

lemma Record.WF.card_slots {record : Record F} (h : record.WF) :
    record.slots.card = if record.runs then 1 else 0 := by
  by_cases hphase : record.phase = .running
  · have hresolved := h.resolved.mpr (by simp [hphase])
    obtain ⟨resolved, hresolved⟩ := Option.isSome_iff_exists.mp hresolved
    cases hop : record.operation with
    | none | some => simp [Record.runs, hphase, hop, hresolved]
  · simp [Record.runs, hphase]

lemma Record.count_slots (record : Record F) (workspace : String) (cls : Class) :
    record.slots.count (workspace, cls) = if record.runsOn workspace cls then 1 else 0 := by
  by_cases hphase : record.phase = .running
  · cases hop : record.operation with
    | none => simp [Record.runsOn, hphase, hop]
    | some operation =>
      cases hresolved : record.resolved with
      | none => simp [Record.runsOn, hphase, hop, hresolved]
      | some resolved =>
        have hslots : record.slots = {(resolved.workspace, operation.2)} := by
          simp [hphase, hop, hresolved]
        have hsame : (workspace, cls) = (resolved.workspace, operation.2) ↔
            record.runsOn workspace cls = true := by
          simp only [Record.runsOn, hphase, hop, hresolved, Option.map_some, Option.some.injEq,
            Bool.and_eq_true, decide_eq_true_eq, true_and, Prod.mk.injEq]
          exact ⟨fun h => ⟨h.2.symm, h.1.symm⟩, fun h => ⟨h.2.symm, h.1.symm⟩⟩
        rw [hslots, Multiset.count_singleton]
        exact if_congr hsame rfl rfl
  · simp [Record.runsOn, hphase]

lemma card_slots {s : State F} (hshape : s.table.Shape) :
    s.table.slots.card = s.operationsRunning := by
  have hcard := map_total Multiset.cardHom (fun _ (record : Record F) => record.slots)
    s.records
  have hones : total (fun _ (record : Record F) => record.slots.card) s.records =
      total (fun _ (record : Record F) => if record.runs then 1 else 0) s.records :=
    total_congr fun id record hrecord => (hshape.wf id record hrecord).card_slots
  exact hcard.trans (hones.trans (total_indicator (fun _ record => record.runs) s.records))

lemma Table.count_slots (t : Table F) (workspace : String) (cls : Class) :
    t.slots.count (workspace, cls) = total
      (fun _ (record : Record F) => if record.runsOn workspace cls then 1 else 0) t.records := by
  have hcount := map_total (Multiset.countAddMonoidHom (workspace, cls))
    (fun _ (record : Record F) => record.slots) t.records
  exact hcount.trans (total_congr fun _ record _ => record.count_slots workspace cls)

lemma count_slots (s : State F) (workspace : String) (cls : Class) :
    s.table.slots.count (workspace, cls) = s.operationsOn workspace cls :=
  (s.table.count_slots workspace cls).trans
    (total_indicator (fun _ record => record.runsOn workspace cls) s.records)

/-- In every run whose workers report only while no settled record is queued,
`running` and the busy counts are those of the running records, `running` keeps its
limit, and every running record has a worker that has yet to report. -/
theorem running_tally (inner : Inner F) (labels : List (Label F))
    (hmeets : Steps.Meets (fun s label => reportsFresh s label = true) (step inner) {} labels) :
    (run inner labels).running = (run inner labels).operationsRunning ∧
    (∀ workspace cls, ((run inner labels).busyOn workspace).count cls =
      (run inner labels).operationsOn workspace cls) ∧
    (run inner labels).running ≤ inner.limits.runningOperations ∧
    ∀ id record, (run inner labels).records[id]? = some record → record.phase = .running →
      ∃ thread ∈ (run inner labels).threads, id ∈ thread.working := by
  have hinv := Invariant.run inner labels
  obtain ⟨hrunning, hbusy⟩ := (exact_run hmeets).tallied
  rw [add_zero] at hrunning hbusy
  refine ⟨?_, fun workspace cls => ?_, hinv.lawful.sound.limited.running, ?_⟩
  · rw [← card_slots hinv.lawful.sound.shape]
    exact hrunning
  · rw [← count_slots]
    exact hbusy workspace cls
  · intro id record hrecord hphase
    exact Pool.exists_of_mem_total (hinv.attended.manned id ⟨record, hrecord, hphase⟩)

/-- A write is admitted and runs, and a second one waits for it. -/
def sampleWrites : List (Label String) :=
  [.opens, .frame [1, 0], .advance 2 (sampleEnv "r1" 0), .advance 0 (sampleEnv "r1" 0),
    .advance 0 (sampleEnv "r1" 0), .advance 0 (sampleEnv "r1" 0), .advance 0 (sampleEnv "r1" 0),
    .advance 0 (sampleEnv "r1" 0), .frame [2, 0], .advance 4 (sampleEnv "r2" 0),
    .advance 0 (sampleEnv "r2" 0), .advance 0 (sampleEnv "r2" 0)]

/-- The first write's worker runs its handler and reports. -/
def sampleReport : List (Label String) :=
  [.advance 3 (sampleEnv "r1" 0), .advance 3 (sampleEnv "r1" 0), .advance 3 (sampleEnv "r1" 0)]

set_option maxRecDepth 10000 in
/-- The report settles the first write and starts the second. -/
theorem running_tally_of_writes :
    let s := run sampleInner (sampleWrites ++ sampleReport)
    s.running = s.operationsRunning ∧ s.running = 1 ∧
    (s.busyOn "w").writes = s.operationsOn "w" .write ∧
    (s.records[1]?.map Record.phase, s.records[2]?.map Record.phase) =
      (some .terminal, some .running) := by
  have hmeets : Steps.Meets (fun s label => reportsFresh s label = true) (step sampleInner) {}
      (sampleWrites ++ sampleReport) := Steps.Meets.of_meets (by decide)
  obtain ⟨hrunning, hbusy, _⟩ := running_tally sampleInner (sampleWrites ++ sampleReport) hmeets
  exact ⟨hrunning, by decide, hbusy "w" .write, by decide⟩

/-- Close settles the write that waits, and then the first one's worker reports. -/
def sampleLeak : List (Label String) :=
  sampleWrites ++ [.frame [3, 1], .advance 5 (sampleEnv "r1" 0), .advance 5 (sampleEnv "r1" 0),
    .advance 6 (sampleEnv "r1" 0)] ++ sampleReport

set_option maxRecDepth 10000 in
/-- The scan after the report takes a slot for the settled write: no operation runs
and one slot is taken. -/
theorem running_tally_fails : (run sampleInner sampleLeak).running = 1 ∧
    (run sampleInner sampleLeak).operationsRunning = 0 ∧
    ((run sampleInner sampleLeak).busyOn "w").writes = 1 ∧
    (run sampleInner sampleLeak).operationsOn "w" .write = 0 := by
  decide

/-! ### Exclusion on a workspace -/

lemma Table.Tallied.total_le {t : Table F} {leaked : Multiset (String × Class)}
    (h : t.Tallied leaked) (workspace : String) (cls : Class) :
    total (fun _ (record : Record F) => if record.runsOn workspace cls then 1 else 0)
      t.records ≤ (t.busyOn workspace).count cls := by
  rw [← t.count_slots, Table.busyOn, h.busy, Multiset.count_add]
  exact le_add_right _ _

section Exclusion
variable {inner : Inner F} {s : State F} {workspace : String} {cls : Class} {id other : ℕ}
  {record found : Record F}

lemma Invariant.count_pos (h : Invariant inner s) (hrecord : s.records[id]? = some record)
    (hruns : record.runsOn workspace cls = true) : 0 < (s.busyOn workspace).count cls := by
  obtain ⟨leaked, htallied⟩ := h.lawful.sound.tallied
  have hone := le_total
    (w := fun _ (record : Record F) => if record.runsOn workspace cls then 1 else 0) hrecord
  rw [if_pos hruns] at hone
  exact le_trans hone (htallied.total_le workspace cls)

section

variable (h : Invariant inner s) (hne : id ≠ other) (hrecord : s.records[id]? = some record)
  (hfound : s.records[other]? = some found)
include h hne hrecord hfound

lemma Invariant.one_lt_count
    (hruns : record.runsOn workspace cls = true) (hbeside : found.runsOn workspace cls = true) :
    1 < (s.busyOn workspace).count cls := by
  obtain ⟨leaked, htallied⟩ := h.lawful.sound.tallied
  have htwo := add_le_total
    (w := fun _ (record : Record F) => if record.runsOn workspace cls then 1 else 0) hne hrecord
    hfound
  rw [if_pos hruns, if_pos hbeside] at htwo
  exact le_trans htwo (htallied.total_le workspace cls)

/-- A write runs alone. -/
lemma Invariant.write_alone
    (hruns : record.runsOn workspace .write = true) : found.runsOn workspace cls = false := by
  have hexcludes := h.lawful.sound.limited.busy workspace
  have hwrites : 0 < (s.busyOn workspace).writes := h.count_pos hrecord hruns
  obtain ⟨hpushes, hfetches⟩ := hexcludes.alone hwrites
  by_contra hbeside
  rw [Bool.not_eq_false] at hbeside
  have hcount := h.count_pos hfound hbeside
  cases cls with
  | fetch => exact absurd hfetches (pos_iff_ne_zero.mp hcount)
  | push => exact absurd hpushes (pos_iff_ne_zero.mp hcount)
  | write =>
    have htwo : 1 < (s.busyOn workspace).writes := h.one_lt_count hne hrecord hfound hruns hbeside
    have hone : (s.busyOn workspace).writes ≤ 1 := hexcludes.writes
    omega

end

/-- One push runs. -/
lemma Invariant.push_one (h : Invariant inner s) (hrecord : s.records[id]? = some record)
    (hfound : s.records[other]? = some found) (hruns : record.runsOn workspace .push = true)
    (hbeside : found.runsOn workspace .push = true) : id = other := by
  by_contra hne
  have htwo : 1 < (s.busyOn workspace).pushes := h.one_lt_count hne hrecord hfound hruns hbeside
  have hone : (s.busyOn workspace).pushes ≤ 1 := (h.lawful.sound.limited.busy workspace).pushes
  omega

end Exclusion

/-- In every state of every run: on one workspace a write runs beside no other
operation and at most one push runs. No step from such a state starts a write or a
push on a workspace where a detached worker still runs. -/
theorem workspace_exclusion (inner : Inner F) (labels : List (Label F)) (workspace : String) :
    (∀ (id other : ℕ) (record found : Record F) cls, id ≠ other →
      (run inner labels).records[id]? = some record →
      (run inner labels).records[other]? = some found → record.runsOn workspace .write = true →
        found.runsOn workspace cls = false) ∧
    (∀ (id other : ℕ) (record found : Record F), (run inner labels).records[id]? = some record →
      (run inner labels).records[other]? = some found → record.runsOn workspace .push = true →
        found.runsOn workspace .push = true → id = other) ∧
    ∀ label events callId cls,
      (step inner (run inner labels) label).trace = (run inner labels).trace ++ events →
        Event.started callId workspace (some cls) ∈ events → cls.exclusive = true →
          ¬ (run inner labels).occupied workspace := by
  have hinv := Invariant.run inner labels
  refine ⟨?_, ?_, ?_⟩
  · intro id other record found cls hne hrecord hfound hruns
    exact hinv.write_alone hne hrecord hfound hruns
  · intro id other record found hrecord hfound hruns hbeside
    exact hinv.push_one hrecord hfound hruns hbeside
  · intro label events callId cls htrace hevent hexclusive
    obtain ⟨noted, hnoted, hexcluded, _⟩ := hinv.step_events label
    rw [append_cancel_left (htrace.symm.trans hnoted)] at hevent
    exact hexcluded callId workspace cls hevent hexclusive

end GwzCore.SessionHost
