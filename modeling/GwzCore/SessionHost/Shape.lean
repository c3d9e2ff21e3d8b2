import GwzCore.SessionHost.Sections

/-!
# The shape of the table

What a record's phase says about its other fields, and what the queues hold.
Every act keeps it; the other invariants rest on it.
-/
namespace GwzCore.SessionHost
open SessionContract List FiniteMap Nat Record
variable {F : Type}

lemma nodup_append_one {ids : List ℕ} {id : ℕ} (h : ids.Nodup) (hnot : id ∉ ids) :
    (ids ++ [id]).Nodup := by
  simpa using h.concat hnot

/-- What the phase of a record says about the rest of it. -/
structure Record.WF (record : Record F) : Prop where
  lane : record.lane = .call
  gate : record.gate = true ↔ record.phase ≠ .running ∧ record.phase ≠ .terminal
  resolved : record.resolved.isSome = true ↔ record.phase ≠ .received
  inTable : record.inTable = true ↔ record.operation.isSome = true ∧ record.phase ≠ .received
  accepted : record.accepted = true ↔ record.inTable = true ∧ record.call.mode = .submit
  outcome : record.outcome.isSome = true ↔ record.phase = .terminal
  queued : record.phase = .queued → record.operation.isSome = true
  directWaiting : record.phase = .directWaiting → record.operation = none
  terminal : record.phase = .terminal → record.accepted = true ∧ record.cancels = [] ∧
    record.results = [] ∧ record.responses = []

namespace Record.WF
variable {record : Record F}

lemma received (call : Call) (operationId : String) (cls : Option (Class × Bool)) :
    (Record.received call operationId cls : Record F).WF := by
  constructor <;> simp [Record.received]

section

variable (h : record.WF)
include h

lemma awaiting (hphase : record.phase = .received)
    (hop : record.operation = none) (resolved : Resolved) : (record.awaiting resolved).WF := by
  have hin := h.inTable
  have haccepted := h.accepted
  have houtcome := h.outcome
  have hgate := h.gate
  constructor <;> simp_all [Record.awaiting, h.lane]

lemma admitted (hphase : record.phase = .received)
    (hop : record.operation.isSome = true) (resolved : Resolved) :
    (record.admitted resolved).WF := by
  have houtcome := h.outcome
  have hgate := h.gate
  constructor <;> simp_all [Record.admitted, h.lane]

lemma taken (hgate : record.gate = true)
    (hresolved : record.resolved.isSome = true) : record.taken.WF := by
  have hphase := h.gate.mp hgate
  have hreceived := h.resolved.mp hresolved
  have hin := h.inTable
  have haccepted := h.accepted
  have houtcome := h.outcome
  constructor <;> simp_all [Record.taken, h.lane]

lemma wait (hphase : record.phase ≠ .terminal) (callId : ℕ) (waiter : Waiter) :
    (record.wait callId waiter).WF := by
  cases waiter <;> exact { h with terminal := fun hterminal => absurd hterminal hphase }

lemma deliver (view : View) : (record.deliver view).WF := by
  cases view <;> exact { h with }

/-- Settlement keeps exactly the records whose acceptance was sent. -/
lemma keeps_iff : record.keeps = true ↔ record.accepted = true := by
  have hin := h.inTable
  have haccepted := h.accepted
  unfold keeps
  cases haccept : record.accepted <;> simp_all

lemma settled (hkeeps : record.keeps = true) (outcome : Outcome F) :
    (record.settled outcome).WF := by
  have haccept := h.keeps_iff.mp hkeeps
  have hin := h.accepted.mp haccept
  have hop := h.inTable.mp hin.1
  have hresolved := h.resolved.mpr hop.2
  constructor <;> simp_all [Record.settled, h.lane]

end

end Record.WF

/-- Records are well formed and numbered by calls received, queue entries are
queued operations or settled ones close left behind, waiting direct calls wait,
and a revoked worker's record is settled. -/
structure Table.Shape (t : Table F) : Prop where
  wf : ∀ (id : ℕ) (record : Record F), t.records[id]? = some record → record.WF
  bound : ∀ (id : ℕ) (record : Record F), t.records[id]? = some record → id ≤ t.highestCall
  queueNodup : t.queue.Nodup
  queueBound : ∀ id ∈ t.queue, id ≤ t.highestCall
  queuePhase : ∀ id ∈ t.queue, ∀ record : Record F, t.records[id]? = some record →
    record.phase = .queued ∨ record.phase = .terminal
  queued : ∀ (id : ℕ) (record : Record F), t.records[id]? = some record →
    record.phase = .queued → id ∈ t.queue
  directNodup : t.directQueue.Nodup
  directBound : ∀ id ∈ t.directQueue, id ≤ t.highestCall
  directPhase : ∀ id ∈ t.directQueue, ∀ record : Record F, t.records[id]? = some record →
    record.phase = .directWaiting
  revoked : ∀ id ∈ t.revoked, id ≤ t.highestCall ∧
    ∀ record : Record F, t.records[id]? = some record → record.phase = .terminal

/-- What the phase of a record says about its places in the queues. -/
structure Table.Places (t : Table F) (id : ℕ) (record : Record F) : Prop where
  queue : id ∈ t.queue → record.phase = .queued ∨ record.phase = .terminal
  queued : record.phase = .queued → id ∈ t.queue
  direct : id ∈ t.directQueue → record.phase = .directWaiting
  revoked : id ∈ t.revoked → record.phase = .terminal

namespace Table.Shape
variable {t u : Table F} {callId : ℕ} {record record' : Record F}

section

variable (h : t.Shape)
include h

lemma places (hrecord : t.records[callId]? = some record) : t.Places callId record where
  queue hmem := h.queuePhase callId hmem record hrecord
  queued := h.queued callId record hrecord
  direct hmem := h.directPhase callId hmem record hrecord
  revoked hmem := (h.revoked callId hmem).2 record hrecord

/-- A call not received yet has no record. -/
lemma fresh (hid : t.highestCall < callId) : t.records[callId]? = none := by
  by_contra hsome
  obtain ⟨record, hrecord⟩ := Option.ne_none_iff_exists'.mp hsome
  exact absurd (h.bound callId record hrecord) (not_le.mpr hid)

/-- Calls may be received while the records and queues stay. -/
lemma rises {highest : ℕ} (hle : t.highestCall ≤ highest) :
    Table.Shape { t with highestCall := highest } :=
  { h with
    bound := fun id record hrecord => (h.bound id record hrecord).trans hle
    queueBound := fun id hmem => (h.queueBound id hmem).trans hle
    directBound := fun id hmem => (h.directBound id hmem).trans hle
    revoked := fun id hmem => ⟨(h.revoked id hmem).1.trans hle, (h.revoked id hmem).2⟩ }

/-- One record changes or goes, and with it at most its own places in the
queues and its own revocation. -/
lemma change (callId : ℕ) (hhigh : u.highestCall = t.highestCall) (hid : callId ≤ t.highestCall)
    (hothers : ∀ id, id ≠ callId → u.records[id]? = t.records[id]?)
    (hwf : ∀ record, u.records[callId]? = some record → record.WF) (hnodup : u.queue.Nodup)
    (hqueue : ∀ id, id ≠ callId → (id ∈ u.queue ↔ id ∈ t.queue))
    (hself : ∀ record, u.records[callId]? = some record → u.Places callId record)
    (hdirectNodup : u.directQueue.Nodup)
    (hdirect : ∀ id ∈ u.directQueue, id ≠ callId → id ∈ t.directQueue)
    (hrevoked : ∀ id ∈ u.revoked, id ≠ callId → id ∈ t.revoked) : u.Shape where
  wf := by
    intro id found hfound
    by_cases heq : id = callId
    · exact hwf found (heq ▸ hfound)
    · exact h.wf id found (hothers id heq ▸ hfound)
  bound := by
    intro id found hfound
    by_cases heq : id = callId
    · exact hhigh ▸ heq ▸ hid
    · exact (h.bound id found (hothers id heq ▸ hfound)).trans hhigh.ge
  queueNodup := hnodup
  queueBound := by
    intro id hmem
    by_cases heq : id = callId
    · exact hhigh ▸ heq ▸ hid
    · exact (h.queueBound id ((hqueue id heq).mp hmem)).trans hhigh.ge
  queuePhase := by
    intro id hmem found hfound
    by_cases heq : id = callId
    · subst heq
      exact (hself found hfound).queue hmem
    · exact h.queuePhase id ((hqueue id heq).mp hmem) found (hothers id heq ▸ hfound)
  queued := by
    intro id found hfound hphase
    by_cases heq : id = callId
    · subst heq
      exact (hself found hfound).queued hphase
    · exact (hqueue id heq).mpr (h.queued id found (hothers id heq ▸ hfound) hphase)
  directNodup := hdirectNodup
  directBound := by
    intro id hmem
    by_cases heq : id = callId
    · exact hhigh ▸ heq ▸ hid
    · exact (h.directBound id (hdirect id hmem heq)).trans hhigh.ge
  directPhase := by
    intro id hmem found hfound
    by_cases heq : id = callId
    · subst heq
      exact (hself found hfound).direct hmem
    · exact h.directPhase id (hdirect id hmem heq) found (hothers id heq ▸ hfound)
  revoked := by
    intro id hmem
    by_cases heq : id = callId
    · subst heq
      exact ⟨hid.trans hhigh.ge, fun found hfound => (hself found hfound).revoked hmem⟩
    · obtain ⟨hle, hterminal⟩ := h.revoked id (hrevoked id hmem heq)
      exact ⟨hle.trans hhigh.ge, fun found hfound => hterminal found (hothers id heq ▸ hfound)⟩

/-- A record that has its gate is neither running, settled nor revoked. -/
lemma not_revoked (hrecord : t.records[callId]? = some record)
    (hphase : record.phase ≠ .terminal) : callId ∉ t.revoked :=
  fun hmem => hphase ((h.revoked callId hmem).2 record hrecord)

/-- A record is stored, and with it its places. -/
lemma put {queue directQueue : List ℕ} (hid : callId ≤ t.highestCall) (hwf : record'.WF)
    (hnodup : queue.Nodup) (hqueue : ∀ id, id ≠ callId → (id ∈ queue ↔ id ∈ t.queue))
    (hdirectNodup : directQueue.Nodup)
    (hdirect : ∀ id ∈ directQueue, id ≠ callId → id ∈ t.directQueue)
    (hplaces : Table.Places { t with queue := queue, directQueue := directQueue } callId record') :
    Table.Shape { t with
      records := t.records.insert callId record', queue := queue, directQueue := directQueue } := by
  have hget : ∀ {found}, (t.records.insert callId record')[callId]? = some found →
      record' = found := by
    rw [get_insert_self]
    exact fun h => Option.some.inj h
  refine h.change callId rfl hid (fun id hne => get_insert_of_ne _ _ hne.symm)
    (fun found hfound => hget hfound ▸ hwf) hnodup hqueue (fun found hfound => ?_) hdirectNodup
    hdirect (fun _ hmem _ => hmem)
  obtain rfl := hget hfound
  exact { hplaces with }

section

variable (hrecord : t.records[callId]? = some record)
include hrecord

/-- A record changes and keeps its phase. -/
lemma update (hwf : record'.WF) (hphase : record'.phase = record.phase) :
    Table.Shape { t with records := t.records.insert callId record' } := by
  obtain ⟨hqueue, hqueued, hdirect, hrevoked⟩ := h.places hrecord
  rw [← hphase] at hqueue hqueued hdirect hrevoked
  exact h.put (h.bound callId record hrecord) hwf h.queueNodup (fun _ _ => Iff.rfl) h.directNodup
    (fun _ hmem _ => hmem) ⟨hqueue, hqueued, hdirect, hrevoked⟩

/-- A record goes. -/
lemma discard : (t.discard callId record).Shape := by
  have hget : (t.discard callId record).records[callId]? = none := get_erase_self _ _
  exact h.change callId rfl (h.bound callId record hrecord)
    (fun id hne => get_erase_of_ne _ hne.symm) (by simp [hget]) h.queueNodup (fun _ _ => Iff.rfl)
    (by simp [hget]) h.directNodup (fun _ hmem _ => hmem) (fun _ hmem _ => hmem)

/-- A worker takes a waiting record, which leaves the queues. -/
lemma take {queue directQueue : List ℕ} (hgate : record.gate = true)
    (hresolved : record.resolved.isSome = true) (hnodup : queue.Nodup)
    (hqueue : ∀ id, id ≠ callId → (id ∈ queue ↔ id ∈ t.queue)) (hnot : callId ∉ queue)
    (hdirectNodup : directQueue.Nodup)
    (hdirect : ∀ id ∈ directQueue, id ≠ callId → id ∈ t.directQueue)
    (hdirectNot : callId ∉ directQueue) :
    Table.Shape { t.take callId record with queue := queue, directQueue := directQueue } := by
  have hwf := h.wf callId record hrecord
  have hrevoked := h.not_revoked hrecord (hwf.gate.mp hgate).2
  exact h.put (h.bound callId record hrecord) (hwf.taken hgate hresolved) hnodup hqueue hdirectNodup
    hdirect ⟨fun hmem => absurd hmem hnot, by simp [taken],
      fun hmem => absurd hmem hdirectNot, fun hmem => absurd hmem hrevoked⟩

/-- A record is settled. -/
lemma settle (outcome : Outcome F) {queue directQueue : List ℕ} {revoked : Finset ℕ}
    (hqueue : queue.Sublist t.queue) (hothers : ∀ id ∈ t.queue, id ≠ callId → id ∈ queue)
    (hdirect : directQueue.Sublist t.directQueue)
    (hrevoked : ∀ id ∈ revoked, id ∈ t.revoked ∨ id = callId) :
    Table.Shape { t.settle callId record outcome with
      queue := queue, directQueue := directQueue, revoked := revoked } := by
  have hwf := h.wf callId record hrecord
  have hkept : ∀ found, (t.settle callId record outcome).records[callId]? = some found →
      record.keeps = true ∧ found = record.settled outcome := by
    intro found hfound
    rw [settle_get_self] at hfound
    split at hfound
    · rename_i hkeeps
      cases hfound
      exact ⟨hkeeps, rfl⟩
    · cases hfound
  refine h.change callId rfl (h.bound callId record hrecord)
    (fun id hne => settle_get_of_ne t record outcome hne) ?_ (hqueue.nodup h.queueNodup) ?_ ?_
    (hdirect.nodup h.directNodup) (fun id hmem _ => hdirect.subset hmem) ?_
  · intro found hfound
    obtain ⟨hkeeps, rfl⟩ := hkept found hfound
    exact hwf.settled hkeeps outcome
  · exact fun id hne => ⟨fun hmem => hqueue.subset hmem, fun hmem => hothers id hmem hne⟩
  · intro found hfound
    obtain ⟨hkeeps, rfl⟩ := hkept found hfound
    refine ⟨fun _ => .inr rfl, by simp [settled], fun hmem => ?_, fun _ => rfl⟩
    have hwaiting := h.directPhase callId (hdirect.subset hmem) record hrecord
    have hnone := hwf.directWaiting hwaiting
    simp [keeps, hnone] at hkeeps
  · intro id hmem hne
    exact (hrevoked id hmem).resolve_right hne

end

/-- The entry of a queue split at it is nowhere else in the queue. -/
lemma entry {before after : List ℕ} (hqueue : t.queue = before ++ callId :: after) :
    callId ∉ before ++ after ∧ (before ++ after).Nodup ∧
      ∀ id, id ≠ callId → (id ∈ before ++ after ↔ id ∈ t.queue) := by
  have hnodup := h.queueNodup
  rw [hqueue, nodup_middle, nodup_cons] at hnodup
  refine ⟨hnodup.1, hnodup.2, fun id hne => ?_⟩
  rw [hqueue]
  simp [hne]

/-- An operation that holds its gate is not among the waiting direct calls. -/
lemma not_direct (hrecord : t.records[callId]? = some record)
    (hop : record.operation.isSome = true) : callId ∉ t.directQueue := by
  intro hmem
  have hnone :=
    (h.wf callId record hrecord).directWaiting (h.directPhase callId hmem record hrecord)
  simp [hnone] at hop

lemma directEntry {rest : List ℕ} (hqueue : t.directQueue = callId :: rest) :
    callId ∉ rest ∧ rest.Nodup ∧ ∀ id ∈ rest, id ∈ t.directQueue := by
  have hnodup := h.directNodup
  rw [hqueue, nodup_cons] at hnodup
  exact ⟨hnodup.1, hnodup.2, fun id hmem => by simp [hqueue, hmem]⟩

/-- A call is received and has its record. -/
lemma create {call : Call} {operationId : String} (cls : Option (Class × Bool))
    (hid : t.highestCall < call.callId) :
    Table.Shape { t with
      highestCall := call.callId
      records := t.records.insert call.callId (Record.received call operationId cls) } := by
  have hfresh : ∀ ids : List ℕ, (∀ id ∈ ids, id ≤ t.highestCall) → call.callId ∉ ids :=
    fun ids hle hmem => absurd (hle _ hmem) (not_le.mpr hid)
  have hrevoked : call.callId ∉ t.revoked :=
    fun hmem => absurd (h.revoked _ hmem).1 (not_le.mpr hid)
  exact (h.rises hid.le).put le_rfl (Record.WF.received call operationId cls) h.queueNodup
    (fun _ _ => Iff.rfl) h.directNodup (fun _ hmem _ => hmem)
    ⟨fun hmem => absurd hmem (hfresh _ h.queueBound), by simp [received],
      fun hmem => absurd hmem (hfresh _ h.directBound), fun hmem => absurd hmem hrevoked⟩

section

variable (hrecord : t.records[callId]? = some record)
include hrecord

/-- A call waits for a record that is not settled. -/
lemma wait {waiting : ℕ} (waiter : Waiter) (hid : t.highestCall < waiting)
    (hlive : record.outcome = none ∨ record.phase ≠ .terminal) :
    Table.Shape { t with
      highestCall := waiting
      records := t.records.insert callId (record.wait waiting waiter) } := by
  have hwf := h.wf callId record hrecord
  have hphase : record.phase ≠ .terminal := by
    rcases hlive with hnone | hphase
    · intro hterminal
      have hsome := hwf.outcome.mpr hterminal
      simp [hnone] at hsome
    · exact hphase
  exact (h.rises hid.le).update hrecord (hwf.wait hphase waiting waiter) (by cases waiter <;> rfl)

/-- A received record is in no queue and its worker is not revoked. -/
lemma unplaced (hphase : record.phase = .received) :
    callId ∉ t.queue ∧ callId ∉ t.directQueue ∧ callId ∉ t.revoked := by
  obtain ⟨hqueue, -, hdirect, hrevoked⟩ := h.places hrecord
  simp only [hphase, reduceCtorEq, or_self, imp_false] at hqueue hdirect hrevoked
  exact ⟨hqueue, hdirect, hrevoked⟩

/-- A direct call waits for its worker. -/
lemma admitDirect (hphase : record.phase = .received) (hop : record.operation = none)
    (resolved : Resolved) :
    Table.Shape { t with
      records := t.records.insert callId (record.awaiting resolved)
      directQueue := t.directQueue ++ [callId] } := by
  obtain ⟨hqueue, hdirect, hrevoked⟩ := h.unplaced hrecord hphase
  refine h.put (h.bound callId record hrecord)
    ((h.wf callId record hrecord).awaiting hphase hop resolved) h.queueNodup (fun _ _ => Iff.rfl)
    (nodup_append_one h.directNodup hdirect) ?_
    ⟨fun hmem => absurd hmem hqueue, by simp [awaiting], fun _ => rfl,
      fun hmem => absurd hmem hrevoked⟩
  intro id hmem hne
  simpa [hne] using hmem

lemma enqueue (hphase : record.phase = .received) (hop : record.operation.isSome = true)
    (resolved : Resolved) :
    Table.Shape { t with
      records := t.records.insert callId (record.admitted resolved)
      queue := t.queue ++ [callId] } := by
  obtain ⟨hqueue, hdirect, hrevoked⟩ := h.unplaced hrecord hphase
  exact h.put (h.bound callId record hrecord)
    ((h.wf callId record hrecord).admitted hphase hop resolved)
    (nodup_append_one h.queueNodup hqueue) (fun id hne => by simp [hne]) h.directNodup
    (fun _ hmem _ => hmem)
    ⟨fun _ => .inl rfl, fun _ => by simp, fun hmem => absurd hmem hdirect,
      fun hmem => absurd hmem hrevoked⟩

/-- A worker takes a queued operation. -/
lemma takeQueued {before after : List ℕ} (hqueue : t.queue = before ++ callId :: after)
    (hop : record.operation.isSome = true) (hgate : record.gate = true)
    (hresolved : record.resolved.isSome = true) :
    Table.Shape { t.take callId record with queue := before ++ after } := by
  obtain ⟨hnot, hnodup, hiff⟩ := h.entry hqueue
  exact h.take hrecord hgate hresolved hnodup hiff hnot h.directNodup (fun _ hmem _ => hmem)
    (h.not_direct hrecord hop)

/-- A direct worker takes the first waiting call. -/
lemma takeDirect {rest : List ℕ} (hqueue : t.directQueue = callId :: rest)
    (hgate : record.gate = true) (hresolved : record.resolved.isSome = true) :
    Table.Shape { t.take callId record with directQueue := rest } := by
  obtain ⟨hnot, hnodup, hsub⟩ := h.directEntry hqueue
  have hphase := h.directPhase callId (by simp [hqueue]) record hrecord
  have hqueueNot : callId ∉ t.queue := fun hmem => by
    simpa [hphase] using (h.places hrecord).queue hmem
  exact h.take hrecord hgate hresolved h.queueNodup (fun _ _ => Iff.rfl) hqueueNot hnodup
    (fun id hmem _ => hsub id hmem) hnot

end

/-- An entry leaves the queue whose record, if any, does not wait in it. -/
lemma dequeue {before after : List ℕ} (hqueue : t.queue = before ++ callId :: after)
    (hphase : ∀ record, t.records[callId]? = some record → record.phase ≠ .queued) :
    Table.Shape { t with queue := before ++ after } := by
  obtain ⟨hnot, hnodup, hiff⟩ := h.entry hqueue
  refine h.change callId rfl (h.queueBound callId (by simp [hqueue])) (fun _ _ => rfl)
    (h.wf callId) hnodup hiff ?_ h.directNodup (fun _ hmem _ => hmem) (fun _ hmem _ => hmem)
  intro found hfound
  have hplaces := h.places hfound
  exact ⟨fun hmem => absurd hmem hnot, fun hqueued => absurd hqueued (hphase found hfound),
    hplaces.direct, hplaces.revoked⟩

/-- The first waiting direct call is passed over. -/
lemma passDirect {rest : List ℕ} (hqueue : t.directQueue = callId :: rest) :
    Table.Shape { t with directQueue := rest } := by
  obtain ⟨hnot, hnodup, hsub⟩ := h.directEntry hqueue
  refine h.change callId rfl (h.directBound callId (by simp [hqueue])) (fun _ _ => rfl)
    (h.wf callId) h.queueNodup (fun _ _ => Iff.rfl) ?_ hnodup (fun id hmem _ => hsub id hmem)
    (fun _ hmem _ => hmem)
  intro found hfound
  have hplaces := h.places hfound
  exact ⟨hplaces.queue, hplaces.queued, fun hmem => absurd hmem hnot, hplaces.revoked⟩

/-- A queued record has an operation, was resolved and holds its gate. -/
lemma queued_spec (hrecord : t.records[callId]? = some record) (hphase : record.phase = .queued) :
    record.operation.isSome = true ∧ record.resolved.isSome = true ∧ record.gate = true := by
  have hwf := h.wf callId record hrecord
  exact ⟨hwf.queued hphase, hwf.resolved.mpr (by simp [hphase]), hwf.gate.mpr (by simp [hphase])⟩

lemma act {inner : Inner F} {ctx : Context} {out : List Outgoing} {started : List Start}
    (hact : Act inner ctx t out started u) : u.Shape := by
  cases hact with
  | arrive callId lane out hid | reply callId lane reply hid
  | lost callId target operationId hid | hold callId hid | closer callId hid =>
    exact { h.rises hid.le with }
  | reads => exact { h with }
  | create call cls hid => exact { h.create cls hid with }
  | wait callId target record waiter hid hrecord hlive =>
    exact { h.wait hrecord waiter hid hlive with }
  | deliver callId record view hrecord =>
    exact h.update hrecord ((h.wf callId record hrecord).deliver view) (by cases view <;> rfl)
  | evict callId record before after hretained hrecord => exact h.discard hrecord
  | release callId record hrecord => exact h.discard hrecord
  | settle callId record outcome queue directQueue revoked hrecord hphase hqueue hothers hgone
      hdirect hrevoked =>
    exact h.settle hrecord outcome hqueue hothers hdirect hrevoked
  | admitDirect callId record resolved hrecord hphase hop =>
    exact h.admitDirect hrecord hphase hop resolved
  | enqueue callId record operationId cls resolved out hrecord hphase hop =>
    exact { h.enqueue hrecord hphase (by simp [hop]) resolved with }
  | dequeue callId before after hqueue hrecord =>
    refine h.dequeue hqueue fun record hfound hphase => ?_
    obtain ⟨hop, hresolved, -⟩ := h.queued_spec hfound hphase
    rcases hrecord record hfound with hnone | hnone | hterminal
    · simp [hnone] at hop
    · simp [hnone] at hresolved
    · simp [hphase] at hterminal
  | start callId record operationId cls resolved before after hqueue hrecord hop hresolved hgate =>
    exact { h.takeQueued hrecord hqueue (by simp [hop]) hgate (by simp [hresolved]) with }
  | startFailed callId record operationId cls resolved outcome before after hqueue hrecord hop
      hresolved hgate =>
    have htaken := h.takeQueued hrecord hqueue (by simp [hop]) hgate (by simp [hresolved])
    have hsettled := htaken.settle (get_insert_self _ _ _) outcome (.refl _) (fun _ hmem _ => hmem)
      (.refl _) (fun _ hmem => .inl hmem)
    exact { hsettled with }
  | leak callId record operationId cls resolved before after hctx hqueue hrecord hop hresolved hgate
      =>
    refine { h.dequeue hqueue fun found hfound hphase => ?_ with }
    obtain rfl := Option.some.inj (hrecord.symm.trans hfound)
    have hspec := h.queued_spec hfound hphase
    simp [hgate] at hspec
  | passDirect callId rest hqueue => exact h.passDirect hqueue
  | ungateDirect callId record rest hqueue hrecord hresolved =>
    -- a waiting direct call was resolved
    have hphase := h.directPhase callId (by simp [hqueue]) record hrecord
    have hsome := (h.wf callId record hrecord).resolved.mpr (by simp [hphase])
    simp [hresolved] at hsome
  | startDirect callId record resolved rest hqueue hrecord hresolved hgate =>
    exact { h.takeDirect hrecord hqueue hgate (by simp [hresolved]) with }
  | startDirectFailed callId record resolved outcome rest hqueue hrecord hresolved hgate =>
    have htaken := h.takeDirect hrecord hqueue hgate (by simp [hresolved])
    exact htaken.settle (get_insert_self _ _ _) outcome (.refl _) (fun _ hmem _ => hmem) (.refl _)
      (fun _ hmem => .inl hmem)

end

end Table.Shape
end GwzCore.SessionHost
