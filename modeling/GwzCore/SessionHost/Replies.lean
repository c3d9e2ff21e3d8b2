import GwzCore.Lib.Ledger
import GwzCore.SessionHost.Slots

/-!
# Every call is answered at most once

The calls the table owes an answer are those that wait on a record, the record's
own unless its acceptance answered it, the held reads and the closes that wait
for their report. Every act keeps the ledger of these: what it takes from the
owed calls it returns as replies, and the two counters hold what is owed.
-/
namespace GwzCore.SessionHost
open SessionContract List FiniteMap Table Record
variable {F : Type} {callId : ℕ} {record : Record F} {started : List Start}

namespace Table

/-- The calls the table owes an answer. -/
def owed (t : Table F) : Multiset (ℕ × Lane) :=
  FiniteMap.total (fun id record => (record.answers id : Multiset (ℕ × Lane))) t.records +
    (t.held.map fun id => (id, Lane.call) : List (ℕ × Lane)) +
    (t.closers.map fun id => (id, Lane.control) : List (ℕ × Lane))

/-- The ledger of the table, with the answers given so far and the calls owed an
answer by others than the table. -/
def Answers (t : Table F) (answered beyond : Multiset (ℕ × Lane)) : Prop :=
  Ledger (t.counted : Multiset (ℕ × Lane)) answered (t.owed + beyond) t.highestCall t.unanswered

variable {t u : Table F}

/-- What the records other than `callId`'s, the held reads and the closes are owed. -/
def owedBeside (t : Table F) (callId : ℕ) : Multiset (ℕ × Lane) :=
  FiniteMap.total (fun id record => (record.answers id : Multiset (ℕ × Lane)))
      (t.records.erase callId) +
    (t.held.map fun id => (id, Lane.call) : List (ℕ × Lane)) +
    (t.closers.map fun id => (id, Lane.control) : List (ℕ × Lane))

lemma owed_of_get (hrecord : t.records[callId]? = some record) :
    t.owed = record.answers callId + t.owedBeside callId := by
  have htotal := total_of_get
    (fun (id : ℕ) (record : Record F) => (record.answers id : Multiset (ℕ × Lane))) hrecord
  rw [owed, owedBeside, htotal]
  simp only [add_assoc]

lemma owed_insert (t : Table F) (callId : ℕ) (record : Record F) :
    owed { t with records := t.records.insert callId record } =
      record.answers callId + t.owedBeside callId := by
  rw [owed, owedBeside, total_insert]
  simp only [add_assoc]

lemma owedBeside_of_none (hrecord : t.records[callId]? = none) : t.owedBeside callId = t.owed := by
  rw [owed, owedBeside, erase_of_get_none hrecord]

/-- A settled record is owed nothing. -/
lemma owed_settle (t : Table F) (callId : ℕ) (record : Record F) (outcome : Outcome F) :
    (t.settle callId record outcome).owed = t.owedBeside callId := by
  by_cases hkeeps : record.keeps = true
  · have hsettled : (record.settled outcome).answers callId = [] := by
      have hkeeps' : (record.settled outcome).keeps = true := hkeeps
      rw [answers, hkeeps']
      rfl
    have howed := owed_insert t callId (record.settled outcome)
    rw [hsettled, Multiset.coe_nil, zero_add] at howed
    rw [← howed]
    simp [owed, settle, answer, hkeeps]
  · simp [owed, owedBeside, settle, answer, hkeeps]

end Table

namespace Record

lemma answers_received (call : Call) (operationId : String) (cls : Option (Class × Bool)) :
    (received call operationId cls : Record F).answers call.callId =
      [(call.callId, Lane.call)] := by
  simp [answers, received, keeps]

lemma answers_of_terminal (h : record.WF) (hphase : record.phase = .terminal) (callId : ℕ) :
    record.answers callId = [] := by
  obtain ⟨haccepted, hcancels, hresults, hresponses⟩ := h.terminal hphase
  have hkeeps := h.keeps_iff.mpr haccepted
  simp [answers, hkeeps, hcancels, hresults, hresponses]

/-- A call that begins to wait on a record is owed an answer beside the others. -/
lemma answers_wait (record : Record F) (callId waiting : ℕ) (waiter : Waiter) :
    ((record.wait waiting waiter).answers callId : Multiset (ℕ × Lane)) =
      record.answers callId + {(waiting, waiter.lane)} := by
  have hkeeps : (record.wait waiting waiter).keeps = record.keeps := by cases waiter <;> rfl
  have hlane : (record.wait waiting waiter).lane = record.lane := by cases waiter <;> rfl
  unfold answers
  rw [hkeeps, hlane]
  cases waiter
  all_goals
    simp only [wait, Waiter.lane, map_append, map_cons, map_nil,
      ← Multiset.coe_add, ← Multiset.coe_singleton]
    simp only [add_assoc, add_left_comm, add_comm]

/-- A received operation is admitted, and a submit is owed nothing more itself. -/
lemma answers_admitted (h : record.WF) (hphase : record.phase = .received)
    (hop : record.operation.isSome = true) (callId : ℕ) (resolved : Resolved) :
    (record.answers callId : Multiset (ℕ × Lane)) =
      ((if record.call.mode = .submit then [(callId, Lane.call)] else [] : List (ℕ × Lane)) :
        Multiset (ℕ × Lane)) + (record.admitted resolved).answers callId := by
  have haccepted : record.accepted = false := by
    have hin := h.inTable
    have haccepted := h.accepted
    simp_all
  have hkeeps : record.keeps = false := by simp [keeps, haccepted]
  have hadmitted : (record.admitted resolved).keeps = decide (record.call.mode = .submit) := by
    cases hsubmit : decide (record.call.mode = .submit) <;>
      simp_all [keeps, admitted]
  unfold answers
  rw [hkeeps, hadmitted, h.lane]
  by_cases hsubmit : record.call.mode = .submit
  · simp only [hsubmit, decide_true, if_true, Bool.false_eq_true, if_false, ← Multiset.coe_add]
    simp only [admitted, Multiset.coe_nil, add_zero]
    exact add_comm _ _
  · simp [hsubmit, admitted, h.lane]

end Record

namespace Table.Answers
variable {inner : Inner F} {t u : Table F} {answered beyond owed : Multiset (ℕ × Lane)}

section

variable (h : t.Answers answered beyond)
include h

lemma enters (lane : Lane) (hid : t.highestCall < callId)
    (howed : owed = t.owed + {(callId, lane)}) :
    Ledger (t.count callId lane).counted answered (owed + beyond) callId
      (t.count callId lane).unanswered := by
  rw [howed, add_right_comm]
  exact Ledger.enter h lane hid fun _ => rfl

lemma replies (replied : List (ℕ × Lane)) (howed : t.owed = replied + owed) :
    Ledger t.counted (answered + (replied : Multiset (ℕ × Lane))) (owed + beyond) t.highestCall
      (t.answer replied).unanswered := by
  rw [Table.Answers, howed, add_assoc] at h
  exact h.answer fun _ => rfl

section

variable (hrecord : t.records[callId]? = some record)
include hrecord

/-- A record that changes without its waiters noticing keeps the ledger. -/
lemma update (record' : Record F) (hanswers : record'.answers callId = record.answers callId) :
    Table.Answers { t with records := t.records.insert callId record' } answered beyond := by
  rw [Table.Answers, owed_insert, hanswers, ← owed_of_get hrecord]
  exact h

lemma settle (outcome : Outcome F) : (t.settle callId record outcome).Answers
    (answered + ((settleReplies inner callId record outcome).map Outgoing.answer :
      List (ℕ × Lane))) beyond := by
  rw [answers_settleReplies]
  refine h.replies _ ?_
  rw [owed_settle]
  exact owed_of_get hrecord

/-- A terminal record goes. -/
lemma erase (hwf : record.WF) (hphase : record.phase = .terminal) :
    (t.discard callId record).Answers answered beyond := by
  rw [Table.Answers, owed_of_get hrecord, record.answers_of_terminal hwf hphase callId,
    Multiset.coe_nil, zero_add] at h
  exact h

end

/-- Every act keeps the ledger and adds its replies to the answers. -/
lemma act {ctx : Context} {out : List Outgoing}
    (hshape : t.Shape) (hindexed : t.Indexed inner) (hact : Act inner ctx t out started u) :
    u.Answers (answered + (out.map Outgoing.answer : List (ℕ × Lane))) beyond := by
  have hquiet : ∀ {v : Table F}, v.Answers answered beyond →
      v.Answers
        (answered + (([] : List Outgoing).map Outgoing.answer : List (ℕ × Lane))) beyond := by
    intro v hv
    simpa using hv
  cases hact with
  | arrive callId lane out hid hout =>
    rcases hout with hout | hout
    · rw [hout]
      simpa [Table.Answers, owed] using h.raise hid.le
    · rw [hout]
      exact Ledger.refuse h lane hid
  | reply callId lane reply hid hreply =>
    have hentered : Ledger _ answered _ callId (t.count callId lane).unanswered :=
      Ledger.enter h lane hid fun l => rfl
    rw [add_comm (t.owed + beyond)] at hentered
    rw [map_singleton, hreply]
    exact hentered.answer fun l => rfl
  | lost callId target operationId hid hop hrecord =>
    obtain ⟨record, hfound, _⟩ := (hindexed.operations operationId target).mp hop
    simp [hrecord] at hfound
  | create call cls hid =>
    refine hquiet (h.enters .call hid ((owed_insert t _ _).trans ?_))
    rw [owedBeside_of_none (hshape.fresh hid), answers_received, add_comm]
    rfl
  | hold callId hid =>
    refine hquiet (h.enters .call hid ?_)
    simp only [owed, count, map_append, ← Multiset.coe_add, map_cons,
      map_nil, Multiset.coe_singleton]
    simp only [add_assoc, add_left_comm, add_comm]
  | wait callId target record waiter hid hrecord =>
    refine hquiet (h.enters waiter.lane hid ((owed_insert t _ _).trans ?_))
    rw [record.answers_wait, owed_of_get hrecord, add_right_comm]
  | closer callId hid =>
    refine hquiet (h.enters .control hid ?_)
    simp only [owed, count, map_append, ← Multiset.coe_add]
    simp only [add_assoc]
    rfl
  | admitDirect callId record resolved hrecord =>
    exact hquiet (h.update hrecord (record.awaiting resolved) rfl)
  | evict callId record before after hretained hrecord =>
    have hphase := hindexed.terminal (by simp [hretained]) hrecord
    exact hquiet (h.erase hrecord (hshape.wf callId record hrecord) hphase)
  | enqueue callId record operationId cls resolved out hrecord hphase hop hrequest hqueue hentries
      hout =>
    rw [hout]
    refine h.replies _ ((owed_of_get hrecord).trans ?_)
    rw [record.answers_admitted (hshape.wf callId record hrecord) hphase (by simp [hop]) callId
      resolved, add_assoc]
    exact congrArg _ (owed_insert t callId (record.admitted resolved)).symm
  | dequeue | leak | passDirect => exact hquiet h
  | start callId record operationId cls resolved before after hqueue hrecord
  | startDirect callId record resolved rest hqueue hrecord =>
    exact hquiet (h.update hrecord record.taken rfl)
  | startFailed callId record operationId cls resolved outcome before after hqueue hrecord =>
    have htaken : (take { t.occupy resolved.workspace cls with queue := before ++ after }
        callId record).Answers answered beyond :=
      h.update hrecord record.taken rfl
    exact htaken.settle (get_insert_self _ _ _) outcome
  | ungateDirect callId record rest hqueue hrecord =>
    exact hquiet (h.update hrecord { record with gate := false } rfl)
  | startDirectFailed callId record resolved outcome rest hqueue hrecord =>
    have htaken : (take { t with directQueue := rest } callId record).Answers answered
        beyond := h.update hrecord record.taken rfl
    exact htaken.settle (get_insert_self _ _ _) outcome
  | settle callId record outcome queue directQueue revoked hrecord =>
    exact h.settle hrecord outcome
  | deliver callId record view hrecord =>
    refine hquiet (h.update hrecord (record.deliver view) ?_)
    cases view <;> rfl
  | release callId record hrecord hphase =>
    exact hquiet (h.erase hrecord (hshape.wf callId record hrecord) hphase)
  | reads kept answered out hheld hout =>
    rw [hout]
    refine h.replies _ ?_
    have hperm : (t.held : Multiset ℕ) = kept + answered := by
      rw [Multiset.coe_add]
      exact (Multiset.coe_eq_coe.mpr hheld).symm
    simp only [owed, answer, ← Multiset.map_coe, hperm, Multiset.map_add]
    simp only [add_assoc, add_left_comm, add_comm]

lemma acts {ctx : Context} {out : List Outgoing}
    (hsound : t.Sound inner) (hacts : Acts inner ctx t out started u) :
    u.Answers (answered + (out.map Outgoing.answer : List (ℕ × Lane))) beyond := by
  induction hacts with
  | refl => simpa using h
  | tail chain hact ih =>
    have hmid := hsound.acts chain
    rw [map_append, ← Multiset.coe_add, ← add_assoc]
    exact ih.act hmid.shape hmid.indexed hact

end

end Table.Answers
end GwzCore.SessionHost
