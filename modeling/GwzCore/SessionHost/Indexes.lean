import GwzCore.Lib.Index
import GwzCore.SessionHost.Shape

/-!
# The indexes of the table

The entry counter counts the records in the table, `operations` and `requests`
find records by operation id and by live request id, and `retained` lists the
settled ones. Every act keeps all four exact and within the limits.
-/
namespace GwzCore.SessionHost
open SessionContract List FiniteMap Option Record Table
variable {F : Type}

attribute [local simp] Record.received

namespace Record

/-- The entry a record takes of the operation table. -/
def entry (record : Record F) : ℕ := if record.inTable then 1 else 0

def operationId (record : Record F) : Option String := record.operation.map Prod.fst

/-- The request id of an admitted operation that has not settled. -/
def liveRequest (record : Record F) : Option String :=
  if record.phase = .terminal then none
  else match record.operation, record.resolved with
    | some _, some resolved => some resolved.requestId
    | _, _ => none

end Record

lemma operationName_inj {m n : ℕ} (h : operationName m = operationName n) : m = n :=
  Nat.repr_inj.mp ((String.append_right_inj "op-").mp h)

structure Table.Indexed (inner : Inner F) (t : Table F) : Prop where
  entries : t.tableEntries = FiniteMap.total (fun _ record => record.entry) t.records
  entriesLe : t.tableEntries ≤ inner.limits.operationTable
  queueLe : t.queue.length ≤ inner.limits.queuedOperations
  operations : FiniteMap.Indexes t.operations t.records Record.operationId
  serial : ∀ (id : ℕ) (record : Record F) (name : String), t.records[id]? = some record →
    record.operationId = some name → ∃ n < t.nextOperation, name = operationName n
  requests : FiniteMap.Indexes t.requests t.records Record.liveRequest
  retainedNodup : t.retained.Nodup
  retained : ∀ id, id ∈ t.retained ↔
    ∃ record : Record F, t.records[id]? = some record ∧ record.phase = .terminal

namespace Table.Indexed
variable {inner : Inner F} {t u : Table F} {callId : ℕ} {record : Record F}

section

variable (h : t.Indexed inner)
include h

lemma terminal (hmem : callId ∈ t.retained)
    (hrecord : t.records[callId]? = some record) : record.phase = .terminal := by
  obtain ⟨found, hfound, hphase⟩ := (h.retained callId).mp hmem
  rw [hrecord] at hfound
  exact Option.some.inj hfound ▸ hphase

/-- A record that is written settled only where a settled one stood. -/
lemma retained_insert {record' : Record F} (hphase : record'.phase = .terminal ↔
      ∃ found : Record F, t.records[callId]? = some found ∧ found.phase = .terminal) (id : ℕ) :
    id ∈ t.retained ↔ ∃ found : Record F,
      (t.records.insert callId record')[id]? = some found ∧ found.phase = .terminal := by
  rw [h.retained id, exists_get_insert]
  by_cases hid : callId = id
  · subst hid
    simp [hphase]
  · simp [hid]

lemma serial_insert (hrecord : t.records[callId]? = some record)
    {record' : Record F} (hop : record'.operationId = record.operationId) (id : ℕ)
    (found : Record F) (name : String)
    (hfound : (t.records.insert callId record')[id]? = some found)
    (hname : found.operationId = some name) : ∃ n < t.nextOperation, name = operationName n := by
  rcases get_insert_eq_some.mp hfound with ⟨rfl, rfl⟩ | ⟨-, hfound⟩
  · exact h.serial callId record name hrecord (hop.symm.trans hname)
  · exact h.serial id found name hfound hname

/-- A record changes in nothing the indexes look at. -/
lemma update (hrecord : t.records[callId]? = some record)
    (record' : Record F) (hentry : record'.entry = record.entry)
    (hop : record'.operationId = record.operationId)
    (hreq : record'.liveRequest = record.liveRequest)
    (hphase : record'.phase = .terminal ↔ record.phase = .terminal) :
    Table.Indexed inner { t with records := t.records.insert callId record' } :=
  { h with
    entries := h.entries.trans (total_insert_of_weight_eq hrecord hentry).symm
    operations := h.operations.update hrecord hop
    serial := h.serial_insert hrecord hop
    requests := h.requests.update hrecord hreq
    retained := h.retained_insert (by simp [hrecord, hphase]) }

/-- The operation index without a record that goes. -/
lemma operations_erase (hrecord : t.records[callId]? = some record) :
    FiniteMap.Indexes (match record.operation with
        | some (operationId, _) => t.operations.erase operationId
        | none => t.operations) (t.records.erase callId) operationId := by
  cases hop : record.operation with
  | none => exact h.operations.erase_none hrecord (by simp [operationId, hop])
  | some operation => exact h.operations.erase hrecord (by simp [operationId, hop])

lemma serial_erase (id : ℕ) (found : Record F) (name : String)
    (hfound : (t.records.erase callId)[id]? = some found) (hname : found.operationId = some name) :
    ∃ n < t.nextOperation, name = operationName n :=
  h.serial id found name (get_erase_eq_some.mp hfound).2 hname

/-- The entries left when a record goes. -/
lemma entries_erase (hrecord : t.records[callId]? = some record) :
    (if record.inTable then t.tableEntries - 1 else t.tableEntries) =
      total (fun _ record => record.entry) (t.records.erase callId) := by
  have htotal : total (fun _ record => record.entry) t.records =
      record.entry + total (fun _ record => record.entry) (t.records.erase callId) :=
    total_of_get _ hrecord
  rw [h.entries, htotal]
  by_cases hin : record.inTable = true
  · simp [entry, hin]
  · simp [entry, hin]

/-- The retained list without a record that goes. -/
lemma retained_erase (id : ℕ) :
    id ∈ t.retained.filter (· ≠ callId) ↔ ∃ found : Record F,
      (t.records.erase callId)[id]? = some found ∧ found.phase = .terminal := by
  rw [exists_get_erase, mem_filter, h.retained id, and_comm, decide_eq_true_eq,
    ne_comm]

/-- A settled record goes. -/
lemma discard (hrecord : t.records[callId]? = some record)
    (hphase : record.phase = .terminal) : (t.discard callId record).Indexed inner where
  entries := h.entries_erase hrecord
  entriesLe := by
    have hle := h.entriesLe
    simp only [Table.discard]
    split <;> omega
  queueLe := h.queueLe
  operations := h.operations_erase hrecord
  serial := h.serial_erase
  requests := h.requests.erase_none hrecord (by simp [liveRequest, hphase])
  retainedNodup := h.retainedNodup.filter _
  retained := h.retained_erase

lemma create (hshape : t.Shape) {call : Call}
    (hid : t.highestCall < call.callId) (cls : Option (Class × Bool)) :
    (t.create call cls).Indexed inner := by
  have hfresh := hshape.fresh hid
  have hnone : ∀ (old : Record F) (α : Type) (key : Record F → Option α),
      t.records[call.callId]? = some old → key old = none := by
    intro old α key hold
    rw [hfresh] at hold
    cases hold
  have hunused : t.operations[operationName t.nextOperation]? = none := by
    cases hfound : t.operations[operationName t.nextOperation]? with
    | none => rfl
    | some id =>
      obtain ⟨found, hget, hname⟩ := (h.operations _ id).mp hfound
      obtain ⟨n, hlt, heq⟩ := h.serial id found _ hget hname
      exact absurd (operationName_inj heq) (by omega)
  refine ⟨?_, h.entriesLe, h.queueLe, ?_, ?_, ?_, h.retainedNodup, ?_⟩
  · show t.tableEntries = _
    rw [Table.create, total_insert_of_get_none _ _ hfresh, h.entries]
    simp [entry]
  · cases cls with
    | none => exact h.operations.insert_none (fun old hold => hnone old _ _ hold) rfl
    | some cls => exact h.operations.insert hunused (fun old hold => hnone old _ _ hold) rfl
  · intro id found name hfound hname
    have hle : t.nextOperation ≤ (t.create call cls).nextOperation := by
      simp only [Table.create]
      split <;> omega
    rcases get_insert_eq_some.mp hfound with ⟨rfl, rfl⟩ | ⟨-, hfound⟩
    · cases cls with
      | none => simp [operationId] at hname
      | some cls =>
        simp only [operationId, received, map_some, Option.some.injEq] at hname
        exact ⟨t.nextOperation, by simp [Table.create], hname.symm⟩
    · obtain ⟨n, hlt, heq⟩ := h.serial id found name hfound hname
      exact ⟨n, by omega, heq⟩
  · refine h.requests.insert_none (fun old hold => hnone old _ _ hold) ?_
    cases cls <;> simp [liveRequest]
  · exact h.retained_insert (by simp [hfresh])

lemma enqueue (hshape : t.Shape)
    (hrecord : t.records[callId]? = some record) (hphase : record.phase = .received)
    (hop : record.operation.isSome = true) {resolved : Resolved}
    (hrequest : t.requests[resolved.requestId]? = none)
    (hqueue : t.queue.length < inner.limits.queuedOperations)
    (hentries : t.tableEntries < inner.limits.operationTable) :
    (t.enqueue callId record resolved).Indexed inner := by
  have hwf := hshape.wf callId record hrecord
  have hout : record.inTable = false := by
    have hiff := hwf.inTable
    simpa [hphase] using hiff
  have hunresolved : record.resolved = none := by
    have hiff := hwf.resolved
    simpa [hphase] using hiff
  obtain ⟨operation, hoperation⟩ := isSome_iff_exists.mp hop
  refine ⟨?_, hentries, ?_, ?_, ?_, ?_, h.retainedNodup, ?_⟩
  · show t.tableEntries + 1 = total _ (t.records.insert callId (record.admitted resolved))
    have htotal : total (fun _ record => record.entry) t.records =
        record.entry + total (fun _ record => record.entry) (t.records.erase callId) :=
      total_of_get _ hrecord
    rw [total_insert, h.entries, htotal]
    simp [entry, admitted, hout, Nat.add_comm]
  · show (t.queue ++ [callId]).length ≤ _
    rw [length_append, length_singleton]
    exact hqueue
  · exact h.operations.update hrecord rfl
  · exact h.serial_insert hrecord rfl
  · refine h.requests.insert hrequest ?_ ?_
    · intro old hold
      rw [hrecord] at hold
      cases hold
      simp [liveRequest, hoperation, hunresolved]
    · simp [liveRequest, admitted, hoperation]
  · exact h.retained_insert (by simp [hrecord, hphase, admitted])

section

variable (hrecord : t.records[callId]? = some record) (hphase : record.phase ≠ .terminal)
  (outcome : Outcome F)
include hrecord hphase

/-- The request index without a record that settles. -/
lemma requests_settle :
    FiniteMap.Indexes (t.settle callId record outcome).requests
      (t.settle callId record outcome).records liveRequest := by
  have hgone : ∀ request, t.requests[request]? = some callId ↔
      record.liveRequest = some request := by
    intro request
    rw [h.requests request callId]
    constructor
    · rintro ⟨found, hfound, hlive⟩
      rw [hrecord] at hfound
      cases hfound
      exact hlive
    · exact fun hlive => ⟨record, hrecord, hlive⟩
  have hsettled : (record.settled outcome).liveRequest = none := by
    simp [liveRequest, settled]
  cases hlive : record.liveRequest with
  | none =>
    -- the record held no request id, so no entry of the index goes
    have hsame : (t.settle callId record outcome).requests = t.requests := by
      simp only [settle]
      split
      · rename_i resolved _
        rw [if_neg]
        rw [hgone, hlive]
        simp
      · rfl
    rw [hsame]
    simp only [settle]
    split
    · exact h.requests.update hrecord (hsettled.trans hlive.symm)
    · exact h.requests.erase_none hrecord hlive
  | some request =>
    have herased : (t.settle callId record outcome).requests = t.requests.erase request := by
      simp only [settle]
      unfold liveRequest at hlive
      rw [if_neg hphase] at hlive
      split at hlive
      · rename_i resolved hop hresolved
        cases hlive
        rw [hresolved]
        simp only
        rw [if_pos]
        rw [hgone]
        simp [liveRequest, hphase, hop, hresolved]
      · cases hlive
    rw [herased]
    simp only [settle]
    split
    · exact h.requests.drop hrecord hlive hsettled
    · exact h.requests.erase hrecord hlive

lemma settle : (t.settle callId record outcome).Indexed inner := by
  have hnot : callId ∉ t.retained := fun hmem => hphase (h.terminal hmem hrecord)
  have hrequests := h.requests_settle hrecord hphase outcome
  by_cases hkeeps : record.keeps = true
  · have hrecords : (t.settle callId record outcome).records =
        t.records.insert callId (record.settled outcome) := by simp [Table.settle, hkeeps]
    refine ⟨?_, ?_, h.queueLe, ?_, ?_, hrequests, ?_, ?_⟩
    · have htotal : total (fun _ record => record.entry)
          (t.records.insert callId (record.settled outcome)) =
          total (fun _ record => record.entry) t.records :=
        total_insert_of_weight_eq hrecord rfl
      rw [hrecords, htotal]
      simp [Table.settle, hkeeps, h.entries]
    · simp [Table.settle, hkeeps, h.entriesLe]
    · rw [hrecords]
      simp only [Table.settle, hkeeps, if_true]
      exact h.operations.update hrecord rfl
    · rw [hrecords]
      exact h.serial_insert hrecord rfl
    · simp only [Table.settle, hkeeps, if_true]
      exact nodup_append_one h.retainedNodup hnot
    · intro id
      rw [hrecords, exists_get_insert, ← h.retained id]
      simp only [Table.settle, hkeeps, if_true, mem_append, mem_singleton]
      by_cases hid : callId = id
      · simp [hid, settled]
      · simp [hid, Ne.symm hid]
  · have hrecords : (t.settle callId record outcome).records = t.records.erase callId := by
      simp [Table.settle, hkeeps]
    have hentries : (t.settle callId record outcome).tableEntries =
        if record.inTable then t.tableEntries - 1 else t.tableEntries := by
      simp [Table.settle, hkeeps]
    refine ⟨?_, ?_, h.queueLe, ?_, ?_, hrequests, ?_, ?_⟩
    · rw [hrecords, hentries]
      exact h.entries_erase hrecord
    · have hle := h.entriesLe
      rw [hentries]
      split <;> omega
    · rw [hrecords]
      simp only [Table.settle, hkeeps]
      exact h.operations_erase hrecord
    · rw [hrecords]
      exact h.serial_erase
    · simp only [Table.settle, hkeeps]
      exact h.retainedNodup.filter _
    · rw [hrecords]
      simp only [Table.settle, hkeeps]
      exact h.retained_erase

end

/-- A worker takes a record, which stays indexed as it was. -/
lemma take (hshape : t.Shape) (hrecord : t.records[callId]? = some record)
    (hgate : record.gate = true) : (t.take callId record).Indexed inner := by
  have hphase := ((hshape.wf callId record hrecord).gate.mp hgate).2
  refine h.update hrecord record.taken rfl rfl ?_ ?_
  · simp [liveRequest, taken, hphase]
  · simp [taken, hphase]

lemma act {ctx : Context} {out : List Outgoing} {started : List Start}
    (hshape : t.Shape) (hact : Act inner ctx t out started u) : u.Indexed inner := by
  have hshorter : ∀ {before after : List ℕ} {id : ℕ}, t.queue = before ++ id :: after →
      (before ++ after).length ≤ inner.limits.queuedOperations := by
    intro before after id hqueue
    refine le_trans ?_ h.queueLe
    rw [hqueue]
    simp
  cases hact with
  | dequeue callId before after hqueue
  | leak callId record operationId cls resolved before after hctx hqueue =>
    exact { h with queueLe := hshorter hqueue }
  | create call cls hid => exact h.create hshape hid cls
  | wait callId target record waiter hid hrecord =>
    have hwritten := h.update hrecord (record.wait callId waiter)
    exact { hwritten (by cases waiter <;> rfl) (by cases waiter <;> rfl) (by cases waiter <;> rfl)
      (by cases waiter <;> rfl) with }
  | deliver callId record view hrecord =>
    exact h.update hrecord _ (by cases view <;> rfl) (by cases view <;> rfl)
      (by cases view <;> rfl) (by cases view <;> rfl)
  | admitDirect callId record resolved hrecord hphase hop =>
    have hwritten := h.update hrecord (record.awaiting resolved) rfl rfl
      (by simp [liveRequest, awaiting, hop]) (by simp [awaiting, hphase])
    exact { hwritten with }
  | ungateDirect callId record rest hqueue hrecord =>
    exact { h.update hrecord { record with gate := false } rfl rfl rfl Iff.rfl with }
  | evict callId record before after hretained hrecord =>
    exact h.discard hrecord (h.terminal (by simp [hretained]) hrecord)
  | release callId record hrecord hphase => exact h.discard hrecord hphase
  | enqueue callId record operationId cls resolved out hrecord hphase hop hrequest hqueue hentries
      =>
    exact h.enqueue hshape hrecord hphase (by simp [hop]) hrequest hqueue hentries
  | start callId record operationId cls resolved before after hqueue hrecord hop hresolved hgate =>
    exact { h.take hshape hrecord hgate with queueLe := hshorter hqueue }
  | startDirect callId record resolved rest hqueue hrecord hresolved hgate =>
    exact { h.take hshape hrecord hgate with }
  | startFailed callId record operationId cls resolved outcome before after hqueue hrecord hop
      hresolved hgate =>
    have htaken : (Table.take { t.occupy resolved.workspace cls with queue := before ++ after }
        callId record).Indexed inner :=
      { h.take hshape hrecord hgate with queueLe := hshorter hqueue }
    exact htaken.settle (get_insert_self _ _ _) (taken_phase_ne record) outcome
  | startDirectFailed callId record resolved outcome rest hqueue hrecord hresolved hgate =>
    have htaken : (Table.take { t with directQueue := rest } callId record).Indexed inner :=
      { h.take hshape hrecord hgate with }
    exact htaken.settle (get_insert_self _ _ _) (taken_phase_ne record) outcome
  | settle callId record outcome queue directQueue revoked hrecord hphase hqueue =>
    exact { h.settle hrecord hphase outcome with queueLe := hqueue.length_le.trans h.queueLe }
  | _ => exact { h with }

/-- What admission asks of the records it may evict. -/
lemma evictsEntries (hshape : t.Shape) : t.EvictsEntries inner.limits.operationTable := by
  intro id record hmem hrecord
  have hphase := h.terminal hmem hrecord
  have hwf := hshape.wf id record hrecord
  have hin := (hwf.accepted.mp (hwf.terminal hphase).1).1
  refine ⟨hphase, hin, ?_, h.entriesLe⟩
  have hle : record.entry ≤ total (fun _ record => record.entry) t.records :=
    le_total (w := fun _ record => record.entry) hrecord
  rw [h.entries]
  simp only [entry, hin, if_true] at hle
  exact hle

end

end Table.Indexed
end GwzCore.SessionHost
