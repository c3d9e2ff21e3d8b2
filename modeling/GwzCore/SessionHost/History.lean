import GwzCore.SessionHost.Replies

/-!
# The history of operations

A record's phase only moves forward, so what the history has seen of a call
bounds its phase: a call that started is running or past it, a settled one is
terminal or gone. Hence no call starts twice or after its settlement. On each
workspace the starts and then the operations still queued are a subsequence of
the entries into the queue, which is the order the scan keeps.
-/
namespace GwzCore.SessionHost
open SessionContract List FiniteMap Option Nat Event List.Sublist Record Table
variable {F : Type}

/-- How far a call has come. -/
def Phase.rank : Phase → ℕ
  | .received => 0
  | .queued | .directWaiting => 1
  | .running => 2
  | .terminal => 3

attribute [local simp] Phase.rank

namespace Table
variable {inner : Inner F} {ctx : Context} {t u : Table F} {out : List Outgoing}
  {started : List Start} {callId id : ℕ} {record : Record F} {rank : ℕ}

/-- What an act makes of the record of one call. -/
inductive Fate (ctx : Context) (t : Table F) (out : List Outgoing) (started : List Start)
    (revoked : Finset ℕ) (id : ℕ) : Option (Record F) → Prop
  | kept : Fate ctx t out started revoked id t.records[id]?
  | created (record : Record F) (hid : t.highestCall < id) (hopen : t.closing = false)
      (hphase : record.phase = .received) : Fate ctx t out started revoked id (some record)
  /-- The record is written where it stands. -/
  | written (record record' : Record F) (hrecord : t.records[id]? = some record)
      (hphase : record'.phase = record.phase) : Fate ctx t out started revoked id (some record')
  | admitted (record record' : Record F) (hrecord : t.records[id]? = some record)
      (hphase : record.phase = .received) (hrank : record'.phase.rank = 1) :
      Fate ctx t out started revoked id (some record')
  | taken (record : Record F) (hrecord : t.records[id]? = some record) (hgate : record.gate = true)
      (hstarted : id ∈ started.map Start.callId) :
      Fate ctx t out started revoked id (some record.taken)
  | freed (record : Record F) (hrecord : t.records[id]? = some record)
      (hphase : record.phase = .terminal) (hfrees : ctx.frees id) :
      Fate ctx t out started revoked id none
  /-- The record is settled, and kept or answered. -/
  | settled (record : Record F) (after : Option (Record F)) (hrecord : t.records[id]? = some record)
      (hphase : record.phase ≠ .terminal)
      (hworker : record.phase = .running → ctx.reports id ∨ id ∈ revoked)
      (hafter : ∀ record' ∈ after, record'.phase = .terminal)
      (hgone : after = none → (id, Lane.call) ∈ out.map Outgoing.answer) :
      Fate ctx t out started revoked id after

/-- A settlement decides the fate of its own record only. -/
lemma Fate.settle {v : Table F} {revoked : Finset ℕ} {written : Record F} (outcome : Outcome F)
    (hothers : ∀ id, id ≠ callId → v.records[id]? = t.records[id]?) (hwf : written.WF)
    (hrecord : t.records[callId]? = some record) (hphase : record.phase ≠ .terminal)
    (hworker : record.phase = .running → ctx.reports callId ∨ callId ∈ revoked) (id : ℕ) :
    Fate ctx t (settleReplies inner callId written outcome) started revoked id
      (v.settle callId written outcome).records[id]? := by
  by_cases hid : id = callId
  · subst hid
    refine .settled record _ hrecord hphase hworker ?_ ?_
    all_goals
      rw [settle_get_self]
      cases hkeeps : written.keeps
    · simp
    · simp [Record.settled]
    · intro _
      rw [answers_settleReplies]
      simp [Record.answers, hkeeps, hwf.lane]
    · simp
  · rw [settle_get_of_ne _ _ _ hid, hothers id hid]
    exact .kept

lemma fate_act (hact : Act inner ctx t out started u) (hshape : t.Shape)
    (hindexed : t.Indexed inner) (id : ℕ) : Fate ctx t out started u.revoked id u.records[id]? := by
  have hinsert : ∀ {callId : ℕ} {new : Record F} {out : List Outgoing} {started : List Start},
      (callId = id → Fate ctx t out started t.revoked id (some new)) →
        Fate ctx t out started t.revoked id (t.records.insert callId new)[id]? := by
    intro callId new out started hnew
    by_cases hid : callId = id
    · rw [hid, get_insert_self]
      exact hnew hid
    · rw [get_insert_of_ne _ _ hid]
      exact .kept
  have herase : ∀ {callId : ℕ} {found : Record F}, t.records[callId]? = some found →
      found.phase = .terminal → ctx.frees callId →
        Fate ctx t [] [] t.revoked id (t.records.erase callId)[id]? := by
    intro callId found hfound hphase hfrees
    by_cases hid : callId = id
    · subst hid
      rw [get_erase_self]
      exact .freed found hfound hphase hfrees
    · rw [get_erase_of_ne _ hid]
      exact .kept
  -- an operation that is taken and has no worker is settled
  have hfailed : ∀ {v : Table F} {callId : ℕ} {found : Record F} {resolved : Resolved}
      (outcome : Outcome F), v.records = t.records.insert callId found.taken →
      t.records[callId]? = some found → found.gate = true → found.resolved = some resolved →
        Fate ctx t (settleReplies inner callId found.taken outcome) [] t.revoked id
          (v.settle callId found.taken outcome).records[id]? := by
    intro v callId found resolved outcome hv hfound hgate hresolved
    have hwf := hshape.wf callId found hfound
    refine .settle outcome ?_ (hwf.taken hgate (by simp [hresolved])) hfound (hwf.gate.mp hgate).2
      (fun hrunning => absurd hrunning (hwf.gate.mp hgate).1) id
    intro other hne
    rw [hv, get_insert_of_ne _ _ hne.symm]
  cases hact with
  | create call cls hid hopen => exact hinsert fun heq => .created _ (heq ▸ hid) hopen rfl
  | wait callId target record waiter hid hrecord =>
    exact hinsert fun heq => .written record _ (heq ▸ hrecord) (by cases waiter <;> rfl)
  | deliver callId record view hrecord =>
    exact hinsert fun heq => .written record _ (heq ▸ hrecord) (by cases view <;> rfl)
  | admitDirect callId record resolved hrecord hphase
  | enqueue callId record operationId cls resolved out hrecord hphase =>
    exact hinsert fun heq => .admitted record _ (heq ▸ hrecord) hphase rfl
  | ungateDirect callId record rest hqueue hrecord =>
    exact hinsert fun heq => .written record _ (heq ▸ hrecord) rfl
  | start callId record operationId cls resolved before after hqueue hrecord hop hresolved hgate
  | startDirect callId record resolved rest hqueue hrecord hresolved hgate =>
    exact hinsert fun heq => .taken record (heq ▸ hrecord) hgate (by simp [heq])
  | evict callId record before after hretained hrecord hdelivered hfrees =>
    obtain ⟨found, hfound, hphase⟩ := (hindexed.retained callId).mp (by simp [hretained])
    exact herase hfound hphase hfrees
  | release callId record hrecord hphase hfrees => exact herase hrecord hphase hfrees
  | startFailed callId record operationId cls resolved outcome before after hqueue hrecord hop
      hresolved hgate => exact hfailed outcome rfl hrecord hgate hresolved
  | startDirectFailed callId record resolved outcome rest hqueue hrecord hresolved hgate =>
    exact hfailed outcome rfl hrecord hgate hresolved
  | settle callId record outcome queue directQueue revoked hrecord hphase hqueue hothers hgone
      hdirect hrevoked hkept hworker =>
    refine .settle outcome (fun _ _ => rfl) (hshape.wf callId record hrecord) hrecord hphase ?_ id
    intro hrunning
    rcases hworker hrunning with hreports | hgate | hqueued
    · exact .inl hreports
    · exact .inr hgate
    · rcases hshape.queuePhase callId hqueued record hrecord with hcase | hcase <;>
        simp [hrunning] at hcase
  | _ => exact .kept

lemma highestCall_act (hact : Act inner ctx t out started u) : t.highestCall ≤ u.highestCall := by
  cases hact with
  | arrive callId lane out hid | reply callId lane reply hid
  | lost callId target operationId hid | create call cls hid | hold callId hid
  | wait callId target record waiter hid | closer callId hid =>
    exact hid.le
  | _ => exact le_rfl

/-- The call was received, and its record has come at least as far as `rank`. -/
def Past (t : Table F) (rank id : ℕ) : Prop :=
  id ≤ t.highestCall ∧
    ∀ record : Record F, t.records[id]? = some record → rank ≤ record.phase.rank

lemma Past.not_of_rank (hrecord : t.records[id]? = some record)
    (hrank : record.phase.rank < rank) : ¬ t.Past rank id := by
  rintro ⟨_, hpast⟩
  exact absurd (hpast record hrecord) (not_le.mpr hrank)

/-- A settled call is past everything. -/
lemma past_settle (outcome : Outcome F) (hid : callId ≤ u.highestCall)
    (hrecords : u.records = (t.settle callId record outcome).records) : u.Past 3 callId := by
  refine ⟨hid, ?_⟩
  intro found hfound
  rw [hrecords, settle_get_self] at hfound
  split at hfound
  · cases hfound
    exact le_rfl
  · simp at hfound

lemma rank_of_gate (hshape : t.Shape) (hrecord : t.records[callId]? = some record)
    (hgate : record.gate = true) : record.phase.rank < 2 := by
  have hphase := (hshape.wf _ _ hrecord).gate.mp hgate
  cases hcase : record.phase <;> simp_all

/-- No act takes a call back. -/
lemma Past.act (h : t.Past rank id) (hrank : rank ≤ 3) (hshape : t.Shape)
    (hindexed : t.Indexed inner) (hact : Act inner ctx t out started u) : u.Past rank id := by
  refine ⟨h.1.trans (highestCall_act hact), ?_⟩
  have hfate := fate_act hact hshape hindexed id
  generalize u.records[id]? = after at hfate
  intro found hfound
  cases hfate with
  | kept => exact h.2 found hfound
  | created record hid => exact absurd h.1 (not_le.mpr hid)
  | written record record' hrecord hphase =>
    cases hfound
    exact hphase ▸ h.2 record hrecord
  | admitted record record' hrecord hphase hone =>
    cases hfound
    have hold := h.2 record hrecord
    simp only [hphase, Phase.rank] at hold
    omega
  | taken record hrecord hgate =>
    cases hfound
    exact (h.2 record hrecord).trans (rank_of_gate hshape hrecord hgate).le
  | freed => cases hfound
  | settled record after hrecord hphase hworker hafter =>
    rw [hafter found hfound]
    exact hrank

/-- Every record has come at least as far as `rank`. -/
def Settled (t : Table F) (rank : ℕ) : Prop :=
  ∀ (id : ℕ) (record : Record F), t.records[id]? = some record → rank ≤ record.phase.rank

/-- Once the session closes, no record is created. -/
lemma exists_of_act (hclosing : t.closing = true) (hshape : t.Shape) (hindexed : t.Indexed inner)
    (hact : Act inner ctx t out started u) (hrecord : u.records[id]? = some record) :
    ∃ former : Record F, t.records[id]? = some former := by
  have hfate := fate_act hact hshape hindexed id
  generalize u.records[id]? = after at hfate hrecord
  cases hfate with
  | kept => exact ⟨record, hrecord⟩
  | created _ _ hopen => simp [hclosing] at hopen
  | written former _ hformer | admitted former _ hformer | taken former hformer
  | freed former hformer | settled former _ hformer =>
    exact ⟨former, hformer⟩

/-- Once the session closes, its records only come further. -/
lemma Settled.acts (h : t.Settled rank) (hrank : rank ≤ 3) (hsound : t.Sound inner)
    (hclosing : t.closing = true) (hacts : Acts inner ctx t out started u) : u.Settled rank := by
  have hall := hacts.induction_on
    (P := fun v => v.Sound inner ∧ v.closing = true ∧ v.Settled rank) ⟨hsound, hclosing, h⟩ ?_
  · exact hall.2.2
  · intro a b out started hact ⟨hsound, hclosing, hsettled⟩
    refine ⟨hsound.act hact, (closing_act hact).trans hclosing, ?_⟩
    intro id record hrecord
    obtain ⟨former, hformer⟩ := exists_of_act hclosing hsound.shape hsound.indexed hact hrecord
    have hpast : a.Past rank id :=
      ⟨hsound.shape.bound id former hformer, fun found hfound => hsettled id found hfound⟩
    exact (hpast.act hrank hsound.shape hsound.indexed hact).2 record hrecord

/-- The call's worker runs. -/
def Running (t : Table F) (id : ℕ) : Prop :=
  ∃ record : Record F, t.records[id]? = some record ∧ record.phase = .running

lemma Running.phase (h : t.Running id) (hrecord : t.records[id]? = some record) :
    record.phase = .running := by
  obtain ⟨found, hfound, hrunning⟩ := h
  rw [hrecord] at hfound
  cases hfound
  exact hrunning

/-- Gates are revoked for good. -/
lemma revoked_act (hact : Act inner ctx t out started u) : t.revoked ⊆ u.revoked := by
  cases hact with
  | settle callId record outcome queue directQueue revoked hrecord hphase hqueue hothers hgone
    hdirect hrevoked hkept =>
    exact hkept
  | _ => exact Finset.Subset.refl _

/-- A running call runs on until its worker reports or its gate is revoked. -/
lemma Running.act (h : t.Running id) (hshape : t.Shape) (hindexed : t.Indexed inner)
    (hact : Act inner ctx t out started u) : u.Running id ∨ id ∈ u.revoked ∨ ctx.reports id := by
  obtain ⟨running, hrunning, hphase⟩ := h
  have hsame : ∀ {record : Record F}, t.records[id]? = some record → record.phase = .running := by
    intro record hrecord
    rw [hrunning] at hrecord
    cases hrecord
    exact hphase
  have hfate := fate_act hact hshape hindexed id
  rw [Running]
  generalize u.records[id]? = after at hfate
  cases hfate with
  | kept => exact .inl ⟨running, hrunning, hphase⟩
  | created _ hid => exact absurd (hshape.bound _ _ hrunning) (not_le.mpr hid)
  | written record record' hrecord hwritten =>
    exact .inl ⟨record', rfl, hwritten.trans (hsame hrecord)⟩
  | admitted record record' hrecord hreceived => simp [hsame hrecord] at hreceived
  | taken record => exact .inl ⟨record.taken, rfl, rfl⟩
  | freed record hrecord hterminal => simp [hsame hrecord] at hterminal
  | settled record after hrecord _ hworker =>
    exact .inr (hworker (hsame hrecord)).symm

/-- A call that runs after an act ran before it, or the act started its worker. -/
lemma running_of_act (h : u.Running id) (hshape : t.Shape) (hindexed : t.Indexed inner)
    (hact : Act inner ctx t out started u) : t.Running id ∨ id ∈ started.map Start.callId := by
  obtain ⟨running, hrunning, hphase⟩ := h
  have hfate := fate_act hact hshape hindexed id
  generalize u.records[id]? = after at hfate hrunning
  cases hfate with
  | kept => exact .inl ⟨running, hrunning, hphase⟩
  | created record _ _ hreceived =>
    cases hrunning
    simp [hreceived] at hphase
  | written record record' hrecord hwritten =>
    cases hrunning
    exact .inl ⟨record, hrecord, hwritten.symm.trans hphase⟩
  | admitted record record' _ _ hrank =>
    cases hrunning
    simp [hphase] at hrank
  | taken _ _ _ hstarted => exact .inr hstarted
  | freed => cases hrunning
  | settled record after _ _ _ hafter => simp [hafter running hrunning] at hphase

/-- Over a whole section, a call runs only if it ran or its worker was started. -/
lemma running_of_acts (hsound : t.Sound inner) (hacts : Acts inner ctx t out started u)
    (h : u.Running id) : t.Running id ∨ id ∈ started.map Start.callId := by
  induction hacts with
  | refl => exact .inl h
  | tail chain hact ih =>
    have hmid := hsound.acts chain
    rw [map_append, mem_append]
    rcases running_of_act h hmid.shape hmid.indexed hact with hbefore | hstarted
    · rcases ih hbefore with hold | hstarted
      · exact .inl hold
      · exact .inr (.inl hstarted)
    · exact .inr (.inr hstarted)

/-- Over a whole section, a worker that still reports keeps a running record or
a revoked gate. -/
lemma Running.acts (hsound : t.Sound inner) (h : t.Running id ∨ id ∈ t.revoked)
    (hreports : ¬ ctx.reports id) (hacts : Acts inner ctx t out started u) :
    u.Running id ∨ id ∈ u.revoked := by
  have hboth := hacts.induction_on
    (P := fun v => v.Sound inner ∧ (v.Running id ∨ id ∈ v.revoked)) ⟨hsound, h⟩ ?_
  · exact hboth.2
  · intro a b out started hact ⟨hsound, hold⟩
    refine ⟨hsound.act hact, ?_⟩
    rcases hold with hrunning | hrevoked
    · rcases hrunning.act hsound.shape hsound.indexed hact with hkept | hgate | hreported
      · exact .inl hkept
      · exact .inr hgate
      · exact absurd hreported hreports
    · exact .inr (revoked_act hact hrevoked)

lemma started_act (hact : Act inner ctx t out started u) :
    ∀ start ∈ started, u.Running start.callId := by
  cases hact with
  | start callId record | startDirect callId record =>
    intro start hstart
    rw [mem_singleton.mp hstart]
    exact ⟨record.taken, get_insert_self _ _ _, rfl⟩
  | _ => simp

/-- A section's new workers have running records when it ends. -/
lemma started_acts (hsound : t.Sound inner) (hreports : ∀ id, ¬ ctx.reports id)
    (hacts : Acts inner ctx t out started u) :
    ∀ start ∈ started, u.Running start.callId ∨ start.callId ∈ u.revoked := by
  induction hacts with
  | refl => simp
  | tail chain hact ih =>
    intro start hstart
    rcases mem_append.mp hstart with hold | hnew
    · exact Running.acts (hsound.acts chain) (ih start hold) (hreports _) (.single hact)
    · exact .inl (started_act hact start hnew)

end Table

namespace Event

/-- The call whose worker starts. -/
def starts : Event → Option ℕ
  | .started callId _ _ => some callId
  | _ => none

/-- The call whose handler is called. -/
def runs : Event → Option ℕ
  | .ran callId => some callId
  | _ => none

def settles : Event → Option ℕ
  | .settled callId => some callId
  | _ => none

def enters : Event → Option ℕ
  | .entered callId _ => some callId
  | _ => none

/-- The operation that enters the queue for `workspace`. -/
def entersOn (workspace : String) : Event → Option ℕ
  | .entered callId on => if on = workspace then some callId else none
  | _ => none

/-- The operation that starts on `workspace`. -/
def startsOn (workspace : String) : Event → Option ℕ
  | .started callId on (some _) => if on = workspace then some callId else none
  | _ => none

end Event

/-- The workspace a record is queued for. -/
def Record.waitsOn (record : Record F) : Option String :=
  if record.phase = .queued then record.resolved.map Resolved.workspace else none

/-- The queue's entries that wait to start on `workspace`. -/
def Table.waitingOn (t : Table F) (workspace : String) : List ℕ :=
  t.queue.filter fun id => decide (t.records[id]?.bind Record.waitsOn = some workspace)

/-- Nothing starts or is settled twice, nothing starts after its settlement, and
each workspace's starts keep the order of its queue entries. -/
structure Table.History (t : Table F) : Prop where
  starts : ∀ id ∈ t.trace.filterMap Event.starts, t.Past 2 id
  settles : ∀ id ∈ t.trace.filterMap Event.settles, t.Past 3 id
  enters : ∀ id ∈ t.trace.filterMap Event.enters, t.Past 1 id
  startsNodup : (t.trace.filterMap Event.starts).Nodup
  settlesNodup : (t.trace.filterMap Event.settles).Nodup
  entersNodup : (t.trace.filterMap Event.enters).Nodup
  before : ∀ past event rest, t.trace = past ++ event :: rest → ∀ id, event.starts = some id →
    id ∉ past.filterMap Event.settles
  order : ∀ workspace, (t.trace.filterMap (Event.startsOn workspace) ++
    t.waitingOn workspace).Sublist (t.trace.filterMap (Event.entersOn workspace))

namespace Table.History
variable {inner : Inner F} {ctx : Context} {t u : Table F} {out : List Outgoing}
  {started : List Start} {callId id : ℕ} {record : Record F} {event : Event} {f : Event → Option ℕ}

/-- The history stays, and no entry begins to wait. -/
lemma quiet (h : t.History) (htrace : u.trace = t.trace)
    (hpast : ∀ rank ≤ 3, ∀ id, t.Past rank id → u.Past rank id)
    (hwaiting : ∀ workspace, (u.waitingOn workspace).Sublist (t.waitingOn workspace)) :
    u.History where
  starts := by
    rw [htrace]
    exact fun id hid => hpast 2 (by decide) id (h.starts id hid)
  settles := by
    rw [htrace]
    exact fun id hid => hpast 3 le_rfl id (h.settles id hid)
  enters := by
    rw [htrace]
    exact fun id hid => hpast 1 (by decide) id (h.enters id hid)
  startsNodup := htrace ▸ h.startsNodup
  settlesNodup := htrace ▸ h.settlesNodup
  entersNodup := htrace ▸ h.entersNodup
  before := htrace ▸ h.before
  order := by
    rw [htrace]
    exact fun workspace => (append_left (hwaiting workspace) _).trans (h.order workspace)

lemma filterMap_concat (f : Event → Option ℕ) (trace : List Event) (event : Event) :
    (trace ++ [event]).filterMap f = trace.filterMap f ++ (f event).toList := by
  cases hevent : f event <;> simp [hevent]

section

variable {rank : ℕ} (h : ∀ id ∈ t.trace.filterMap f, t.Past rank id)
  (htrace : u.trace = t.trace ++ [event])
  (hevent : ∀ id, f event = some id → ¬ t.Past rank id ∧ u.Past rank id)
include h htrace hevent

lemma past_concat (hpast : ∀ id, t.Past rank id → u.Past rank id) :
    ∀ id ∈ u.trace.filterMap f, u.Past rank id := by
  intro id hid
  rw [htrace, filterMap_concat, mem_append, mem_toList] at hid
  rcases hid with hold | hnew
  · exact hpast id (h id hold)
  · exact (hevent id hnew).2

lemma nodup_concat (hnodup : (t.trace.filterMap f).Nodup) : (u.trace.filterMap f).Nodup := by
  rw [htrace, filterMap_concat]
  cases hcase : f event with
  | none => simpa using hnodup
  | some id => exact nodup_append_one hnodup fun hmem => (hevent id hcase).1 (h id hmem)

end

/-- One more event that nothing in the history contradicts. -/
lemma append (h : t.History) (htrace : u.trace = t.trace ++ [event])
    (hpast : ∀ rank ≤ 3, ∀ id, t.Past rank id → u.Past rank id)
    (hstarts : ∀ id, event.starts = some id → ¬ t.Past 2 id ∧ u.Past 2 id)
    (hsettles : ∀ id, event.settles = some id → ¬ t.Past 3 id ∧ u.Past 3 id)
    (henters : ∀ id, event.enters = some id → ¬ t.Past 1 id ∧ u.Past 1 id)
    (horder : ∀ workspace, ((event.startsOn workspace).toList ++ u.waitingOn workspace).Sublist
      (t.waitingOn workspace ++ (event.entersOn workspace).toList)) : u.History where
  starts := past_concat h.starts htrace hstarts (hpast 2 (by decide))
  settles := past_concat h.settles htrace hsettles (hpast 3 le_rfl)
  enters := past_concat h.enters htrace henters (hpast 1 (by decide))
  startsNodup := nodup_concat h.starts htrace hstarts h.startsNodup
  settlesNodup := nodup_concat h.settles htrace hsettles h.settlesNodup
  entersNodup := nodup_concat h.enters htrace henters h.entersNodup
  before := by
    intro past event' rest hsplit id hid
    rw [htrace] at hsplit
    rcases eq_nil_or_concat rest with rfl | ⟨init, last, rfl⟩
    · -- the new event itself: a settled call is past running
      obtain ⟨rfl, heq⟩ := append_inj' hsplit rfl
      cases heq
      intro hmem
      have hsettled := h.settles id hmem
      exact (hstarts id hid).1
        ⟨hsettled.1, fun record hrecord => (by decide : 2 ≤ 3).trans (hsettled.2 record hrecord)⟩
    · rw [concat_eq_append, ← cons_append, ← append_assoc] at hsplit
      exact h.before past event' init (append_inj_left' hsplit rfl) id hid
  order := by
    intro workspace
    rw [htrace, filterMap_concat, filterMap_concat, append_assoc]
    refine (append_left (horder workspace) _).trans ?_
    rw [← append_assoc]
    exact append_right (h.order workspace) _

section

variable (hqueue : u.queue.Sublist t.queue)
include hqueue

/-- The entries that wait afterwards waited before. -/
lemma waiting_sublist
    (hwaits : ∀ id ∈ u.queue, ∀ workspace, u.records[id]?.bind waitsOn = some workspace →
      t.records[id]?.bind waitsOn = some workspace) (workspace : String) :
    (u.waitingOn workspace).Sublist (t.waitingOn workspace) := by
  unfold waitingOn
  have hfilter : (u.queue.filter fun id =>
        decide (u.records[id]?.bind waitsOn = some workspace)) =
      (u.queue.filter fun id => decide (u.records[id]?.bind waitsOn = some workspace)).filter
        fun id => decide (t.records[id]?.bind waitsOn = some workspace) := by
    symm
    rw [filter_eq_self]
    intro id hid
    obtain ⟨hmem, hcase⟩ := mem_filter.mp hid
    simpa using hwaits id hmem workspace (by simpa using hcase)
  rw [hfilter]
  exact (filter_sublist.trans hqueue).filter _

/-- A write to a record that is not queued afterwards, or waits as it did. -/
lemma waiting_insert (record' : Record F) (hrecords : u.records = t.records.insert callId record')
    (hwaits : record'.waitsOn = none ∨ ∃ record : Record F, t.records[callId]? = some record ∧
      record'.waitsOn = record.waitsOn) (workspace : String) :
    (u.waitingOn workspace).Sublist (t.waitingOn workspace) := by
  refine waiting_sublist hqueue ?_ workspace
  intro id _ on hon
  rw [hrecords] at hon
  by_cases hid : callId = id
  · subst hid
    rw [get_insert_self] at hon
    rcases hwaits with hnone | ⟨record, hrecord, hsame⟩
    · simp [hnone] at hon
    · rw [hrecord]
      exact hsame.symm.trans hon
  · rwa [get_insert_of_ne _ _ hid] at hon

lemma waiting_erase (hrecords : u.records = t.records.erase callId) (workspace : String) :
    (u.waitingOn workspace).Sublist (t.waitingOn workspace) := by
  refine waiting_sublist hqueue ?_ workspace
  intro id _ on hon
  rw [hrecords] at hon
  by_cases hid : callId = id
  · subst hid
    simp at hon
  · rwa [get_erase_of_ne _ hid] at hon

lemma waiting_settle (outcome : Outcome F)
    (hrecords : u.records = (t.settle callId record outcome).records) (workspace : String) :
    (u.waitingOn workspace).Sublist (t.waitingOn workspace) := by
  by_cases hkeeps : record.keeps = true
  · exact waiting_insert hqueue (record.settled outcome)
      (by simpa [settle, hkeeps] using hrecords) (.inl rfl) workspace
  · exact waiting_erase hqueue (by simpa [settle, hkeeps] using hrecords) workspace

lemma waiting_taken_settle (outcome : Outcome F)
    (hrecords : u.records = t.records.insert callId record.taken) (workspace : String) :
    ((u.settle callId record.taken outcome).waitingOn workspace).Sublist
      (t.waitingOn workspace) := by
  have hsettled : ((u.settle callId record.taken outcome).waitingOn workspace).Sublist
      (u.waitingOn workspace) :=
    waiting_settle (t := u) (u := u.settle callId record.taken outcome) (.refl _)
      outcome rfl workspace
  exact hsettled.trans (waiting_insert hqueue record.taken hrecords (.inl rfl) workspace)

end

/-- A settlement, of a call that was not settled before. -/
lemma settle (h : t.History) (hrecord : t.records[callId]? = some record)
    (hphase : record.phase ≠ .terminal) (htrace : u.trace = t.trace ++ [Event.settled callId])
    (hpast : ∀ rank ≤ 3, ∀ id, t.Past rank id → u.Past rank id) (hsettled : u.Past 3 callId)
    (hwaiting : ∀ workspace, (u.waitingOn workspace).Sublist (t.waitingOn workspace)) :
    u.History := by
  refine h.append htrace hpast (by simp [Event.starts]) ?_ (by simp [Event.enters]) ?_
  · intro id hid
    cases hid
    refine ⟨Past.not_of_rank hrecord ?_, hsettled⟩
    cases hcase : record.phase <;> simp_all
  · intro workspace
    simpa [Event.startsOn, Event.entersOn] using hwaiting workspace

section

variable (h : t.History) (hshape : t.Shape)
include h hshape

/-- An operation enters the queue behind the others. -/
lemma enqueue (hrecord : t.records[callId]? = some record)
    (hphase : record.phase = .received) (resolved : Resolved)
    (hpast : ∀ rank ≤ 3, ∀ id, t.Past rank id → (t.enqueue callId record resolved).Past rank id) :
    (t.enqueue callId record resolved).History := by
  have hnot : callId ∉ t.queue := by
    intro hmem
    rcases hshape.queuePhase callId hmem record hrecord with hcase | hcase <;>
      simp [hphase] at hcase
  have hget : (t.enqueue callId record resolved).records[callId]? =
      some (record.admitted resolved) := get_insert_self _ _ _
  refine h.append rfl hpast (by simp [Event.starts]) (by simp [Event.settles]) ?_ ?_
  · intro id hid
    cases hid
    refine ⟨Past.not_of_rank hrecord (by simp [hphase]),
      hshape.bound callId record hrecord, ?_⟩
    intro found hfound
    rw [hget] at hfound
    cases hfound
    exact le_rfl
  · intro workspace
    have hothers : ∀ id ∈ t.queue, (t.enqueue callId record resolved).records[id]? =
        t.records[id]? := fun id hid =>
      get_insert_of_ne _ _ fun heq => hnot (heq ▸ hid)
    have hold : (t.queue.filter fun id => decide
          ((t.enqueue callId record resolved).records[id]?.bind waitsOn = some workspace)) =
        t.waitingOn workspace :=
      filter_congr fun id hid => by rw [hothers id hid]
    show ([] ++ (t.queue ++ [callId]).filter _).Sublist _
    rw [nil_append, filter_append, hold]
    refine append_left ?_ _
    by_cases hon : resolved.workspace = workspace
    · simp only [Event.entersOn, hon, if_true]
      exact filter_sublist
    · have hwaits : (record.admitted resolved).waitsOn = some resolved.workspace := rfl
      simp [hget, hwaits, hon]

section

variable {resolved : Resolved} (hrecord : t.records[callId]? = some record)
  (hgate : record.gate = true) (hrecords : u.records = t.records.insert callId record.taken)
  (hid : callId ≤ u.highestCall) (hpast : ∀ rank ≤ 3, ∀ id, t.Past rank id → u.Past rank id)
include hrecord hgate hrecords hid hpast

/-- A call that its gate is taken of starts for the first time. -/
lemma begins {cls : Option Class}
    (htrace : u.trace = t.trace ++ [Event.started callId resolved.workspace cls])
    (horder : ∀ workspace, (((Event.started callId resolved.workspace cls).startsOn
      workspace).toList ++ u.waitingOn workspace).Sublist (t.waitingOn workspace)) : u.History := by
  refine h.append htrace hpast ?_ (by simp [Event.settles]) (by simp [Event.enters]) ?_
  · intro id heq
    cases heq
    refine ⟨Past.not_of_rank hrecord (rank_of_gate hshape hrecord hgate), hid, ?_⟩
    intro found hfound
    rw [hrecords, get_insert_self] at hfound
    cases hfound
    exact le_rfl
  · intro workspace
    simpa [Event.entersOn] using horder workspace

/-- The first entry of its workspace starts. -/
lemma start {before after : List ℕ} {cls : Class} (hqueue : t.queue = before ++ callId :: after)
    (hresolved : record.resolved = some resolved)
    (hfirst : ∀ id ∈ before, ∀ other, t.records[id]? = some other → ∀ found,
      other.resolved = some found → found.workspace ≠ resolved.workspace)
    (htrace : u.trace = t.trace ++ [Event.started callId resolved.workspace (some cls)])
    (hqueue' : u.queue = before ++ after) : u.History := by
  refine h.begins hshape hrecord hgate hrecords hid hpast htrace fun workspace => ?_
  set waits := fun id : ℕ => decide (t.records[id]?.bind waitsOn = some workspace) with hwaits
  have hrest : (u.waitingOn workspace).Sublist (before.filter waits ++ after.filter waits) := by
    rw [← filter_append]
    exact waiting_insert (t := { t with queue := before ++ after }) (by rw [hqueue']) record.taken
      hrecords (.inl rfl) workspace
  have hsplit : t.waitingOn workspace = before.filter waits ++ (callId :: after).filter waits := by
    rw [waitingOn, hqueue, filter_append]
  rw [hsplit]
  by_cases hon : resolved.workspace = workspace
  · -- the scan passed no entry of this workspace
    have hnone : before.filter waits = [] := by
      rw [filter_eq_nil_iff]
      intro id hid hwaiting
      simp only [hwaits, decide_eq_true_eq, bind_eq_some_iff] at hwaiting
      obtain ⟨other, hother, hwaiting⟩ := hwaiting
      simp only [waitsOn] at hwaiting
      split at hwaiting
      · obtain ⟨found, hfound, hworkspace⟩ := map_eq_some_iff.mp hwaiting
        exact hfirst id hid other hother found hfound (hworkspace.trans hon.symm)
      · simp at hwaiting
    have hqueued : record.phase = .queued := by
      rcases hshape.queuePhase callId (by simp [hqueue]) record hrecord with hcase | hcase
      · exact hcase
      · exact absurd hcase ((hshape.wf _ _ hrecord).gate.mp hgate).2
    have hself : waits callId = true := by
      simp [hwaits, hrecord, waitsOn, hqueued, hresolved, hon]
    simp only [hnone, nil_append] at hrest ⊢
    simp only [Event.startsOn, hon, if_true, toList_some]
    rw [filter_cons_of_pos hself]
    exact List.Sublist.cons_cons _ hrest
  · simp only [Event.startsOn, hon, if_false, toList_none, nil_append]
    refine hrest.trans (List.Sublist.append_left (List.Sublist.filter _ ?_) _)
    exact sublist_cons_self _ _

/-- A direct call's worker starts. -/
lemma startDirect (htrace : u.trace = t.trace ++ [Event.started callId resolved.workspace none])
    (hqueue : u.queue = t.queue) : u.History := by
  refine h.begins hshape hrecord hgate hrecords hid hpast htrace fun workspace => ?_
  simpa [Event.startsOn] using
    waiting_insert (hqueue ▸ .refl _) record.taken hrecords (.inl rfl) workspace

end

/-- Every act keeps the history consistent. -/
lemma act (hindexed : t.Indexed inner) (hact : Act inner ctx t out started u) : u.History := by
  have hpast : ∀ rank ≤ 3, ∀ id, t.Past rank id → u.Past rank id :=
    fun rank hrank id hid => hid.act hrank hshape hindexed hact
  have hshorter : ∀ {callId : ℕ} {before after : List ℕ}, t.queue = before ++ callId :: after →
      (before ++ after).Sublist t.queue := by
    intro callId before after hqueue
    rw [hqueue]
    exact append_left (sublist_cons_self _ _) _
  have hgated : ∀ {callId : ℕ} {record : Record F}, t.records[callId]? = some record →
      record.gate = true → record.phase ≠ .terminal :=
    fun hrecord hgate => ((hshape.wf _ _ hrecord).gate.mp hgate).2
  have hsame : u.queue = t.queue → u.records = t.records → ∀ workspace,
      (u.waitingOn workspace).Sublist (t.waitingOn workspace) := by
    intro hqueue hrecords workspace
    rw [waitingOn, hqueue, hrecords]
    exact .refl _
  cases hact with
  | create =>
    exact h.quiet rfl hpast (waiting_insert (.refl _) _ rfl (.inl rfl))
  | wait callId target record waiter hid hrecord =>
    exact h.quiet rfl hpast (waiting_insert (.refl _) _ rfl
      (.inr ⟨record, hrecord, by cases waiter <;> rfl⟩))
  | deliver callId record view hrecord =>
    exact h.quiet rfl hpast (waiting_insert (.refl _) _ rfl
      (.inr ⟨record, hrecord, by cases view <;> rfl⟩))
  | admitDirect callId record resolved =>
    exact h.quiet rfl hpast (waiting_insert (.refl _) (record.awaiting resolved) rfl
      (.inl rfl))
  | ungateDirect callId record rest hqueue hrecord =>
    exact h.quiet rfl hpast (waiting_insert (.refl _) { record with gate := false } rfl
      (.inr ⟨record, hrecord, rfl⟩))
  | evict | release =>
    exact h.quiet rfl hpast (waiting_erase (.refl _) rfl)
  | dequeue callId before after hqueue
  | leak callId record operationId cls resolved before after hctx hqueue =>
    exact h.quiet rfl hpast (waiting_sublist (hshorter hqueue) fun _ _ _ hon => hon)
  | enqueue callId record operationId cls resolved out hrecord hphase =>
    exact h.enqueue hshape hrecord hphase resolved hpast
  | start callId record operationId cls resolved before after hqueue hrecord hop hresolved hgate
      hrunning hadmits hfree hfirst =>
    exact h.start hshape hrecord hgate rfl (hshape.bound callId record hrecord) hpast hqueue
      hresolved hfirst rfl rfl
  | startDirect callId record resolved rest hqueue hrecord hresolved hgate =>
    have hop : record.operation = none := (hshape.wf _ _ hrecord).directWaiting
      (hshape.directPhase _ (by simp [hqueue]) _ hrecord)
    have htrace : t.trace ++ [started callId resolved.workspace (record.operation.map Prod.snd)] =
        t.trace ++ [started callId resolved.workspace none] := by simp [hop]
    exact h.startDirect hshape hrecord hgate rfl
      (hshape.bound callId record hrecord) hpast htrace rfl
  | startFailed callId record operationId cls resolved outcome before after hqueue hrecord hop
      hresolved hgate =>
    refine h.settle hrecord (hgated hrecord hgate) rfl hpast
      (past_settle outcome (hshape.bound callId record hrecord) rfl) ?_
    exact waiting_taken_settle (hshorter hqueue) outcome rfl
  | startDirectFailed callId record resolved outcome rest hqueue hrecord hresolved hgate =>
    refine h.settle hrecord (hgated hrecord hgate) rfl hpast
      (past_settle outcome (hshape.bound callId record hrecord) rfl) ?_
    refine waiting_taken_settle (u := { t with directQueue := rest }.take callId record)
      ?_ outcome rfl
    exact .refl _
  | settle callId record outcome queue directQueue revoked hrecord hphase hqueue =>
    exact h.settle hrecord hphase rfl hpast
      (past_settle outcome (hshape.bound callId record hrecord) rfl)
        (waiting_settle hqueue outcome rfl)
  | _ => exact h.quiet rfl hpast (hsame rfl rfl)

end

lemma acts (h : t.History) (hsound : t.Sound inner) (hacts : Acts inner ctx t out started u) :
    u.History := by
  have hboth := hacts.induction_on (P := fun v => v.Sound inner ∧ v.History) ⟨hsound, h⟩
    fun hact hv => ⟨hv.1.act hact, hv.2.act hv.1.shape hv.1.indexed hact⟩
  exact hboth.2

end Table.History

/-- What a section adds to the history: a start for each of its new workers, none
of a write or a push beside a detached worker, and no call of a handler. -/
structure Traced (ctx : Context) (started : List Start) (events : List Event) : Prop where
  starts : events.filterMap Event.starts = started.map Start.callId
  runs : events.filterMap Event.runs = []
  exclusive : ∀ callId workspace cls, Event.started callId workspace (some cls) ∈ events →
    cls.exclusive = true → ¬ ctx.occupied workspace

namespace Traced
variable {inner : Inner F} {ctx : Context} {t u : Table F} {out : List Outgoing}
  {started workers : List Start} {events more : List Event}

lemma nil : Traced ctx [] [] := ⟨rfl, rfl, by simp⟩

lemma append (h : Traced ctx started events) (h' : Traced ctx workers more) :
    Traced ctx (started ++ workers) (events ++ more) where
  starts := by rw [filterMap_append, map_append, h.starts, h'.starts]
  runs := by rw [filterMap_append, h.runs, h'.runs, append_nil]
  exclusive := by
    intro callId workspace cls hmem
    rcases mem_append.mp hmem with hmem | hmem
    · exact h.exclusive callId workspace cls hmem
    · exact h'.exclusive callId workspace cls hmem

lemma act (hshape : t.Shape) (hact : Act inner ctx t out started u) :
    ∃ events, u.trace = t.trace ++ events ∧ Traced ctx started events := by
  have hquiet : ∃ events, t.trace = t.trace ++ events ∧ Traced ctx [] events :=
    ⟨[], (append_nil _).symm, nil⟩
  have hone : ∀ {event : Event}, event.starts = none → event.runs = none →
      Traced ctx [] [event] := by
    intro event hstarts hruns
    refine ⟨by simp [hstarts], by simp [hruns], ?_⟩
    intro callId workspace cls hmem
    rw [← mem_singleton.mp hmem] at hstarts
    simp [Event.starts] at hstarts
  cases hact with
  | enqueue | startFailed | settle => exact ⟨_, rfl, hone rfl rfl⟩
  | start callId record operationId cls resolved before after hqueue hrecord hop hresolved hgate
      hrunning hadmits hfree =>
    refine ⟨_, rfl, rfl, rfl, ?_⟩
    intro id workspace cls' hmem hexclusive
    cases mem_singleton.mp hmem
    exact hfree hexclusive
  | startDirect callId record resolved rest hqueue hrecord =>
    have hop : record.operation = none := (hshape.wf _ _ hrecord).directWaiting
      (hshape.directPhase _ (by simp [hqueue]) _ hrecord)
    refine ⟨_, rfl, rfl, rfl, ?_⟩
    intro id workspace cls hmem
    simp [hop] at hmem
  | startDirectFailed =>
    exact ⟨_, rfl, hone rfl rfl⟩
  | _ => exact hquiet

lemma acts (hsound : t.Sound inner) (hacts : Acts inner ctx t out started u) :
    ∃ events, u.trace = t.trace ++ events ∧ Traced ctx started events := by
  induction hacts with
  | refl => exact ⟨[], (append_nil _).symm, nil⟩
  | tail chain hact ih =>
    obtain ⟨events, htrace, hevents⟩ := ih
    obtain ⟨more, htrace', hmore⟩ := act (hsound.acts chain).shape hact
    exact ⟨events ++ more, by rw [htrace', htrace, append_assoc], hevents.append hmore⟩

end Traced
end GwzCore.SessionHost
