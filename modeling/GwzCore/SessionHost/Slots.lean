import GwzCore.SessionHost.Indexes

/-!
# Running slots

`running` and the busy counts of each workspace tally the slots that running
operations take. A slot taken for a record that close settled in the queue is
never given back; such slots are the leaked ones, and without them the tally is
exact. The classes exclude each other on the tally, leaked slots included.
-/
namespace GwzCore.SessionHost
open SessionContract List FiniteMap Option Record Table
variable {F : Type} {cls : Class} {operationId workspace : String} {resolved : Resolved}
  {started : List Start}

namespace Busy

lemma count_change_self (busy : Busy) (cls : Class) (up : Bool) :
    (busy.change cls up).count cls = if up then busy.count cls + 1 else busy.count cls - 1 := by
  cases cls <;> rfl

lemma count_change_of_ne (busy : Busy) {other : Class} (up : Bool) (h : other ≠ cls) :
    (busy.change cls up).count other = busy.count other := by
  cases cls <;> cases other <;> first | rfl | exact absurd rfl h

/-- A write runs alone, and at most one push runs. -/
structure Excludes (busy : Busy) : Prop where
  writes : busy.writes ≤ 1
  pushes : busy.pushes ≤ 1
  alone : 0 < busy.writes → busy.pushes = 0 ∧ busy.fetches = 0

lemma Excludes.up {busy : Busy} (h : busy.Excludes) (hadmits : busy.admits cls = true) :
    (busy.change cls true).Excludes := by
  obtain ⟨hwrites, hpushes, halone⟩ := h
  cases cls with
  | fetch =>
    simp only [admits, beq_iff_eq] at hadmits
    exact ⟨hwrites, hpushes, by simp [change, hadmits]⟩
  | push =>
    simp only [admits, Bool.and_eq_true, beq_iff_eq] at hadmits
    exact ⟨hwrites, by simp [change, hadmits.2], by simp [change, hadmits.1]⟩
  | write =>
    simp only [admits, Bool.and_eq_true, beq_iff_eq] at hadmits
    exact ⟨by simp [change, hadmits.1.1], hpushes, fun _ => ⟨hadmits.1.2, hadmits.2⟩⟩

lemma Excludes.down {busy : Busy} (h : busy.Excludes) (cls : Class) :
    (busy.change cls false).Excludes := by
  obtain ⟨hwrites, hpushes, halone⟩ := h
  cases cls with
  | fetch =>
    refine ⟨hwrites, hpushes, fun hpos => ?_⟩
    obtain ⟨hnoPush, hnoFetch⟩ := halone hpos
    exact ⟨hnoPush, by simp [change, hnoFetch]⟩
  | push =>
    refine ⟨hwrites, by simp only [change]; simp; omega, fun hpos => ?_⟩
    obtain ⟨hnoPush, hnoFetch⟩ := halone hpos
    exact ⟨by simp [change, hnoPush], hnoFetch⟩
  | write =>
    refine ⟨by simp only [change]; simp; omega, hpushes, fun hpos => ?_⟩
    simp only [change, Bool.false_eq_true, if_false] at hpos
    omega

end Busy

/-- The counters tally a multiset of slots. -/
structure Tallies (running : ℕ) (busy : FiniteMap String Busy) (slots : Multiset (String × Class)) :
    Prop where
  running : running = slots.card
  busy : ∀ workspace cls, (busy[workspace]?.getD {}).count cls = slots.count (workspace, cls)

namespace Tallies
variable {running : ℕ} {busy : FiniteMap String Busy} {slots : Multiset (String × Class)}

lemma count_insert (busy : FiniteMap String Busy) (up : Bool) (workspace' : String) (cls' : Class) :
    ((busy.insert workspace ((busy[workspace]?.getD {}).change cls up))[workspace']?.getD {}).count
        cls' =
      if (workspace, cls) = (workspace', cls') then
        if up then (busy[workspace']?.getD {}).count cls' + 1
        else (busy[workspace']?.getD {}).count cls' - 1
      else (busy[workspace']?.getD {}).count cls' := by
  by_cases hworkspace : workspace = workspace'
  · subst hworkspace
    rw [get_insert_self, getD_some]
    by_cases hcls : cls' = cls
    · subst hcls
      rw [Busy.count_change_self, if_pos rfl]
    · rw [Busy.count_change_of_ne _ _ hcls, if_neg (by simp [Ne.symm hcls])]
  · rw [get_insert_of_ne _ _ hworkspace, if_neg (by simp [hworkspace])]

/-- A slot is taken. -/
lemma up (h : Tallies running busy slots) :
    Tallies (running + 1)
      (busy.insert workspace ((busy[workspace]?.getD {}).change cls true))
      ((workspace, cls) ::ₘ slots) where
  running := by rw [h.running, Multiset.card_cons]
  busy := by
    intro workspace' cls'
    rw [count_insert, h.busy, Multiset.count_cons]
    split_ifs <;> simp_all

/-- A slot is given back. -/
lemma down (h : Tallies running busy ((workspace, cls) ::ₘ slots)) :
    Tallies (running - 1)
      (busy.insert workspace ((busy[workspace]?.getD {}).change cls false)) slots where
  running := by rw [h.running, Multiset.card_cons, Nat.add_sub_cancel]
  busy := by
    intro workspace' cls'
    rw [count_insert, h.busy, Multiset.count_cons]
    by_cases heq : (workspace, cls) = (workspace', cls')
    · simp [heq]
    · simp [heq, Ne.symm heq]

end Tallies

/-- The slot of a record, as a multiset. -/
def Record.slots (record : Record F) : Multiset (String × Class) :=
  (record.slot.toList : Multiset _)

attribute [local simp] Record.slots

/-- The slots that running operations take. -/
def Table.slots (t : Table F) : Multiset (String × Class) :=
  FiniteMap.total (fun _ record => record.slots) t.records

/-- The counters tally the running operations and the leaked slots. -/
def Table.Tallied (t : Table F) (leaked : Multiset (String × Class)) : Prop :=
  Tallies t.running t.busy (t.slots + leaked)

/-- The queue names a record that close settled. -/
def Table.Stale (t : Table F) : Prop :=
  ∃ id ∈ t.queue, ∃ record : Record F, t.records[id]? = some record ∧ record.phase = .terminal

namespace Table.Tallied
variable {inner : Inner F} {t u : Table F} {callId : ℕ} {record : Record F}
  {leaked : Multiset (String × Class)}

/-- A record changes and takes the slot it took. -/
lemma update (h : t.Tallied leaked) (hrecord : t.records[callId]? = some record)
    (record' : Record F) (hslots : record'.slots = record.slots) :
    Table.Tallied { t with records := t.records.insert callId record' } leaked := by
  have htotal : total (fun _ record => record.slots) (t.records.insert callId record') =
      total (fun _ record => record.slots) t.records :=
    total_insert_of_weight_eq hrecord hslots
  rw [Table.Tallied, slots, htotal]
  exact h

lemma slots_of_get (hrecord : t.records[callId]? = some record) :
    t.slots = record.slots + total (fun _ record => record.slots)
      (t.records.erase callId) :=
  total_of_get (fun (_ : ℕ) (record : Record F) => record.slots) hrecord

/-- A record without a slot goes. -/
lemma erase (h : t.Tallied leaked) (hrecord : t.records[callId]? = some record)
    (hslot : record.slot = none) : (t.discard callId record).Tallied leaked := by
  have hslots : record.slots = 0 := by simp [hslot]
  rw [Table.Tallied, slots_of_get hrecord, hslots, zero_add] at h
  exact h

lemma slot_of_phase (hphase : record.phase ≠ .running) : record.slot = none := by
  simp [slot, hphase]

lemma slot_taken (hop : record.operation = some (operationId, cls))
    (hresolved : record.resolved = some resolved) :
    record.taken.slot = some (resolved.workspace, cls) := by
  simp [slot, taken, hop, hresolved]

lemma slot_taken_direct (hop : record.operation = none) : record.taken.slot = none := by
  simp [slot, taken, hop]

/-- An operation that held no slot is taken with one. -/
lemma take (h : t.Tallied leaked) (hrecord : t.records[callId]? = some record)
    (hphase : record.phase ≠ .running) (hop : record.operation = some (operationId, cls))
    (hresolved : record.resolved = some resolved) :
    ((t.occupy resolved.workspace cls).take callId record).Tallied leaked := by
  have hold : record.slots = 0 := by simp [slot_of_phase hphase]
  have hnew : record.taken.slots = {(resolved.workspace, cls)} := by
    simp [slot_taken hop hresolved]
  have htotal := slots_of_get hrecord
  rw [hold, zero_add] at htotal
  have hslots : (t.take callId record).slots = (resolved.workspace, cls) ::ₘ t.slots := by
    rw [slots, Table.take, total_insert, htotal, hnew, Multiset.singleton_add]
  have hup : Tallies _ _ ((resolved.workspace, cls) ::ₘ _) := h.up
  rw [← Multiset.cons_add, ← hslots] at hup
  exact hup

/-- A settled record gives back the slot it took. -/
lemma settle (h : t.Tallied leaked) (hrecord : t.records[callId]? = some record)
    (outcome : Outcome F) : (t.settle callId record outcome).Tallied leaked := by
  have hsettled : (record.settled outcome).slots = 0 := by
    simp [slot, settled]
  have hrest : (t.settle callId record outcome).slots = total (fun _ record => record.slots)
      (t.records.erase callId) := by
    simp only [Table.slots, Table.settle]
    split
    · rw [total_insert, hsettled, zero_add]
    · rfl
  rw [Table.Tallied, slots_of_get hrecord, ← hrest] at h
  rw [Table.Tallied]
  cases hslot : record.slot with
  | none =>
    have hnone : record.slots = 0 := by simp [hslot]
    simp only [Table.settle, hslot]
    rw [hnone, zero_add] at h
    exact h
  | some slot =>
    have hsome : record.slots = {slot} := by simp [hslot]
    simp only [Table.settle, hslot, isSome_some, if_true]
    rw [hsome, Multiset.singleton_add, Multiset.cons_add] at h
    exact h.down

/-- Every act keeps the tally, except that one may leak a slot to a settled
record the queue still names. -/
lemma act {ctx : Context} {out : List Outgoing} (h : t.Tallied leaked) (hshape : t.Shape)
    (hindexed : t.Indexed inner) (hact : Act inner ctx t out started u) :
    u.Tallied leaked ∨
      ctx.closing = false ∧ t.Stale ∧ ∃ slot, u.Tallied (slot ::ₘ leaked) := by
  have hwaits : ∀ {id : ℕ} {record : Record F}, t.records[id]? = some record →
      record.gate = true → record.phase ≠ .running :=
    fun hrecord hgate => ((hshape.wf _ _ hrecord).gate.mp hgate).1
  have hdirect : ∀ {id : ℕ} {rest : List ℕ} {record : Record F}, t.directQueue = id :: rest →
      t.records[id]? = some record → record.operation = none :=
    fun hqueue hrecord => (hshape.wf _ _ hrecord).directWaiting
      (hshape.directPhase _ (by simp [hqueue]) _ hrecord)
  cases hact with
  | create call cls hid =>
    left
    have hfresh := hshape.fresh hid
    have hslots : (t.create call cls).slots = t.slots := by
      show total _ (t.records.insert _ _) = _
      rw [total_insert_of_get_none _ _ hfresh]
      simp [slot, received, Table.slots]
    rw [Table.Tallied, hslots]
    exact h
  | wait callId target record waiter hid hrecord =>
    exact .inl (h.update hrecord _ (by cases waiter <;> rfl))
  | deliver callId record view hrecord =>
    exact .inl (h.update hrecord _ (by cases view <;> rfl))
  | admitDirect callId record resolved hrecord hphase =>
    refine .inl (h.update hrecord (record.awaiting resolved) ?_)
    simp [slot, awaiting, hphase]
  | enqueue callId record operationId cls resolved out hrecord hphase =>
    refine .inl (h.update hrecord (record.admitted resolved) ?_)
    simp [slot, admitted, hphase]
  | ungateDirect callId record rest hqueue hrecord =>
    exact .inl (h.update hrecord { record with gate := false } rfl)
  | evict callId record before after hretained hrecord =>
    have hphase := hindexed.terminal (by simp [hretained]) hrecord
    exact .inl (h.erase hrecord (slot_of_phase (by simp [hphase])))
  | release callId record hrecord hphase =>
    exact .inl (h.erase hrecord (slot_of_phase (by simp [hphase])))
  | start callId record operationId cls resolved before after hqueue hrecord hop hresolved hgate =>
    exact .inl (h.take hrecord (hwaits hrecord hgate) hop hresolved)
  | startFailed callId record operationId cls resolved outcome before after hqueue hrecord hop
      hresolved hgate =>
    have htaken : (Table.take { t.occupy resolved.workspace cls with queue := before ++ after }
        callId record).Tallied leaked :=
      h.take hrecord (hwaits hrecord hgate) hop hresolved
    exact .inl (htaken.settle (get_insert_self _ _ _) outcome)
  | leak callId record operationId cls resolved before after hctx hqueue hrecord hop hresolved hgate
      =>
    refine .inr ⟨hctx, ⟨callId, by simp [hqueue], record, hrecord, ?_⟩,
      (resolved.workspace, cls), ?_⟩
    · -- without its gate a queue entry's record is settled
      have hwf := hshape.wf callId record hrecord
      have hgone := mt hwf.gate.mpr (by simp [hgate])
      rcases hshape.queuePhase callId (by simp [hqueue]) record hrecord with hqueued | hterminal
      · exact absurd (by simp [hqueued]) hgone
      · exact hterminal
    · show Tallies _ _ (t.slots + _)
      rw [Multiset.add_cons]
      exact Tallies.up h
  | startDirect callId record resolved rest hqueue hrecord hresolved hgate =>
    refine .inl (h.update hrecord record.taken ?_)
    simp [slot_taken_direct (hdirect hqueue hrecord),
      slot_of_phase (hwaits hrecord hgate)]
  | startDirectFailed callId record resolved outcome rest hqueue hrecord hresolved hgate =>
    have htaken : (Table.take { t with directQueue := rest } callId record).Tallied leaked := by
      refine h.update hrecord record.taken ?_
      simp [slot_taken_direct (hdirect hqueue hrecord),
        slot_of_phase (hwaits hrecord hgate)]
    exact .inl (htaken.settle (get_insert_self _ _ _) outcome)
  | settle callId record outcome queue directQueue revoked hrecord =>
    exact .inl (h.settle hrecord outcome)
  | _ => exact .inl h

end Table.Tallied

/-- Within the limits: the running slots, and each workspace's classes. -/
structure Table.Limited (inner : Inner F) (t : Table F) : Prop where
  running : t.running ≤ inner.limits.runningOperations
  busy : ∀ workspace, (t.busyOn workspace).Excludes

namespace Table.Limited
variable {inner : Inner F} {t u : Table F}

lemma busyOn_insert {busy : FiniteMap String Busy} {value : Busy}
    (hothers : ∀ workspace : String, Busy.Excludes (busy[workspace]?.getD {}))
    (hvalue : value.Excludes) (other : String) :
    Busy.Excludes ((busy.insert workspace value)[other]?.getD {}) := by
  by_cases hworkspace : workspace = other
  · subst hworkspace
    rw [get_insert_self]
    exact hvalue
  · rw [get_insert_of_ne _ _ hworkspace]
    exact hothers other

lemma occupy (h : t.Limited inner) (hrunning : t.running < inner.limits.runningOperations)
    (hadmits : (t.busyOn workspace).admits cls = true) :
    (t.occupy workspace cls).Limited inner where
  running := hrunning
  busy := busyOn_insert h.busy ((h.busy workspace).up hadmits)

lemma settle (h : t.Limited inner) (callId : ℕ) (record : Record F) (outcome : Outcome F) :
    (t.settle callId record outcome).Limited inner where
  running := by
    have hle := h.running
    simp only [Table.settle]
    split <;> omega
  busy := by
    simp only [busyOn, Table.settle]
    split
    · exact busyOn_insert h.busy ((h.busy _).down _)
    · exact h.busy

lemma act {ctx : Context} {out : List Outgoing} (h : t.Limited inner)
    (hact : Act inner ctx t out started u) : u.Limited inner := by
  cases hact with
  | start callId record operationId cls resolved before after hqueue hrecord hop hresolved hgate
      hrunning hadmits =>
    exact { h.occupy hrunning hadmits with }
  | startFailed callId record operationId cls resolved outcome before after hqueue hrecord hop
      hresolved hgate hrunning hadmits =>
    have htaken : (take { t.occupy resolved.workspace cls with queue := before ++ after }
        callId record).Limited inner :=
      { h.occupy hrunning hadmits with }
    exact htaken.settle callId record.taken outcome
  | leak callId record operationId cls resolved before after hctx hqueue hrecord hop hresolved hgate
      hrunning hadmits =>
    exact { h.occupy hrunning hadmits with }
  | startDirectFailed callId record resolved outcome rest =>
    have htaken : (take { t with directQueue := rest } callId record).Limited inner :=
      { h with }
    exact htaken.settle callId record.taken outcome
  | settle callId record outcome =>
    exact { h.settle callId record outcome with }
  | _ => exact { h with }

end Table.Limited

namespace Table
variable {inner : Inner F} {t u : Table F} {ctx : Context} {out : List Outgoing}

section
variable {callId : ℕ} {record : Record F} (h : ¬ t.Stale) (hqueue : ∀ id ∈ u.queue, id ∈ t.queue)
include h hqueue

/-- The entries that remain queued keep records that are not settled. -/
lemma not_stale_of_sub (hphase : ∀ id ∈ u.queue, ∀ record : Record F, u.records[id]? = some record →
      record.phase = .terminal →
        ∃ former : Record F, t.records[id]? = some former ∧ former.phase = .terminal) :
    ¬ u.Stale := by
  rintro ⟨id, hid, record, hrecord, hterminal⟩
  obtain ⟨former, hformer, hphase⟩ := hphase id hid record hrecord hterminal
  exact h ⟨id, hqueue id hid, former, hformer, hphase⟩

/-- A write to one record that settles nothing makes no entry stale. -/
lemma not_stale_of_write (hrecords : u.records = t.records.insert callId record)
    (hphase : record.phase = .terminal →
      ∃ former : Record F, t.records[callId]? = some former ∧ former.phase = .terminal) :
    ¬ u.Stale := by
  refine not_stale_of_sub h hqueue ?_
  intro id _ found hfound hterminal
  rw [hrecords, get_insert_eq_some] at hfound
  rcases hfound with ⟨rfl, rfl⟩ | ⟨_, hold⟩
  · exact hphase hterminal
  · exact ⟨found, hold, hterminal⟩

/-- A settlement makes no entry stale if the record leaves the queue. -/
lemma not_stale_settle (outcome : Outcome F) (hgone : callId ∉ u.queue)
    (hrecords : u.records = (t.settle callId record outcome).records) : ¬ u.Stale := by
  refine not_stale_of_sub h hqueue ?_
  intro id hid found hfound hterminal
  have hne : id ≠ callId := fun heq => hgone (heq ▸ hid)
  rw [hrecords, settle_get_of_ne _ _ _ hne] at hfound
  exact ⟨found, hfound, hterminal⟩

end

/-- Outside close's settling, no act makes an entry stale. -/
lemma not_stale_act (h : ¬ t.Stale) (hshape : t.Shape) (hctx : ctx.closing = false)
    (hact : Act inner ctx t out started u) : ¬ u.Stale := by
  have hkept : ∀ {callId : ℕ} {before after : List ℕ}, t.queue = before ++ callId :: after →
      ∀ id ∈ before ++ after, id ∈ t.queue := by
    intro callId before after hqueue id hid
    rw [hqueue]
    simp only [mem_append, mem_cons] at hid ⊢
    tauto
  cases hact with
  | create call cls hid =>
    exact not_stale_of_write h (fun _ hid => hid) rfl (by simp [received])
  | wait callId target record waiter hid hrecord =>
    exact not_stale_of_write h (fun _ hid => hid) rfl
      fun hterminal => ⟨record, hrecord, by cases waiter <;> exact hterminal⟩
  | deliver callId record view hrecord =>
    exact not_stale_of_write h (fun _ hid => hid) rfl
      fun hterminal => ⟨record, hrecord, by cases view <;> exact hterminal⟩
  | admitDirect =>
    exact not_stale_of_write h (fun _ hid => hid) rfl (by simp [awaiting])
  | ungateDirect callId record rest hqueue hrecord =>
    exact not_stale_of_write h (fun _ hid => hid) rfl
      fun hterminal => ⟨record, hrecord, hterminal⟩
  | startDirect callId record =>
    exact not_stale_of_write h (fun _ hid => hid) rfl (by simp [taken])
  | start callId record operationId cls resolved before after hqueue =>
    exact not_stale_of_write h (hkept hqueue) rfl (by simp [taken])
  | enqueue callId record operationId cls resolved =>
    rintro ⟨id, hid, found, hfound, hterminal⟩
    have hfound : (t.records.insert callId (record.admitted resolved))[id]? = some found := hfound
    rw [get_insert_eq_some] at hfound
    rcases hfound with ⟨rfl, rfl⟩ | ⟨hne, hold⟩
    · simp [admitted] at hterminal
    · have hid : id ∈ t.queue ++ [callId] := hid
      simp only [mem_append, mem_singleton] at hid
      rcases hid with hid | rfl
      · exact h ⟨id, hid, found, hold, hterminal⟩
      · exact hne rfl
  | evict | release =>
    refine not_stale_of_sub h (fun _ hid => hid) fun id _ found hfound hterminal => ?_
    exact ⟨found, (get_erase_eq_some.mp hfound).2, hterminal⟩
  | dequeue callId before after hqueue
  | leak callId record operationId cls resolved before after hctx hqueue =>
    exact not_stale_of_sub h (hkept hqueue) fun id _ found hfound hterminal =>
      ⟨found, hfound, hterminal⟩
  | startFailed callId record operationId cls resolved outcome before after hqueue =>
    have htaken : ¬ (take { t.occupy resolved.workspace cls with queue := before ++ after }
        callId record).Stale :=
      not_stale_of_write h (hkept hqueue) rfl (by simp [taken])
    exact not_stale_settle htaken (fun _ hid => hid) outcome (hshape.entry hqueue).1 rfl
  | startDirectFailed callId record resolved outcome rest hqueue hrecord =>
    have htaken : ¬ (take { t with directQueue := rest } callId record).Stale :=
      not_stale_of_write h (fun _ hid => hid) rfl (by simp [taken])
    refine not_stale_settle htaken (fun _ hid => hid) outcome ?_ rfl
    intro hid
    have hwaits := hshape.directPhase callId (by simp [hqueue]) record hrecord
    rcases hshape.queuePhase callId hid record hrecord with hphase | hphase <;>
      simp [hwaits] at hphase
  | settle callId record outcome queue directQueue revoked hrecord hphase hqueue hothers hgone =>
    refine not_stale_settle h (fun _ hid => hqueue.subset hid) outcome ?_ rfl
    intro hid
    rcases hshape.queuePhase callId (hqueue.subset hid) record hrecord with hqueued | hterminal
    · rcases hgone hqueued hshape.queueNodup with hnot | hclosing
      · exact hnot hid
      · simp [hctx] at hclosing
    · exact hphase hterminal
  | _ => exact h

lemma closing_act (hact : Act inner ctx t out started u) : u.closing = t.closing := by
  cases hact <;> rfl

lemma closing_acts (hacts : Acts inner ctx t out started u) : u.closing = t.closing :=
  hacts.induction_on (P := fun v => v.closing = t.closing) rfl fun hact h =>
    (closing_act hact).trans h

end Table

/-- What holds of every table of a run, whatever its interleaving. -/
structure Table.Sound (inner : Inner F) (t : Table F) : Prop where
  shape : t.Shape
  indexed : t.Indexed inner
  limited : t.Limited inner
  tallied : ∃ leaked, t.Tallied leaked

namespace Table.Sound
variable {inner : Inner F} {t u : Table F} {ctx : Context} {out : List Outgoing}

lemma act (h : t.Sound inner) (hact : Act inner ctx t out started u) : u.Sound inner where
  shape := h.shape.act hact
  indexed := h.indexed.act h.shape hact
  limited := h.limited.act hact
  tallied := by
    obtain ⟨leaked, htallied⟩ := h.tallied
    rcases htallied.act h.shape h.indexed hact with hkept | ⟨_, _, slot, hleak⟩
    · exact ⟨leaked, hkept⟩
    · exact ⟨slot ::ₘ leaked, hleak⟩

lemma acts (h : t.Sound inner) (hacts : Acts inner ctx t out started u) : u.Sound inner :=
  hacts.induction_on h fun hact hsound => hsound.act hact

/-- A section leaks no slot in close's settling, nor where no entry is stale. -/
lemma tallied_acts (h : t.Sound inner) {leaked : Multiset (String × Class)}
    (htallied : t.Tallied leaked) (hfresh : ctx.closing = true ∨ ¬ t.Stale)
    (hacts : Acts inner ctx t out started u) :
    u.Sound inner ∧ u.Tallied leaked ∧ (ctx.closing = true ∨ ¬ u.Stale) := by
  refine hacts.induction_on
    (P := fun v => v.Sound inner ∧ v.Tallied leaked ∧ (ctx.closing = true ∨ ¬ v.Stale))
    ⟨h, htallied, hfresh⟩ ?_
  intro a b out started hact ⟨hsound, htallied, hfresh⟩
  refine ⟨hsound.act hact, ?_, ?_⟩
  · rcases htallied.act hsound.shape hsound.indexed hact with hkept | ⟨hctx, hstale, _⟩
    · exact hkept
    · rcases hfresh with hclosing | hnot
      · simp [hctx] at hclosing
      · exact absurd hstale hnot
  · by_cases hclosing : ctx.closing = true
    · exact .inl hclosing
    · refine .inr (not_stale_act (hfresh.resolve_left hclosing) hsound.shape ?_ hact)
      simpa using hclosing

end Table.Sound
end GwzCore.SessionHost
