import GwzCore.Merge.Effects
import GwzCore.Merge.Valid

/-!
# The order of the operation's states

A record in recovery is still in the state it was interrupted in, so the order is one of
effective states: forward work leads anywhere, preservation only to rollback, rollback only
to the end, and the two terminal states only to themselves. Every transition of the reducer
follows that order, and so does every run.
-/
namespace GwzCore.Merge
open FiniteMap Steps OperationState Std.ExtTreeMap

open Checks

variable {env : Artifacts} {current : StoredV1Record env} {transition : V1Transition}
  {rewrite : PreparedV1Rewrite} {next old : MergeOperationRecordV1}

/-! ## The order -/

/-- The states an operation in the first state can still reach. -/
def OperationState.leadsTo : OperationState → OperationState → Bool
  | .completed, later => later == .completed
  | .aborted, later => later == .aborted
  | .rollingBack, later => later == .rollingBack || later == .aborted
  | .preserving, later => later == .preserving || later == .rollingBack || later == .aborted
  | _, _ => true

lemma leadsTo_refl (state : OperationState) : state.leadsTo state = true := by
  cases state <;> rfl

lemma leadsTo_trans {a b c : OperationState} (hab : a.leadsTo b = true)
    (hbc : b.leadsTo c = true) : a.leadsTo c = true := by
  cases a <;> cases b <;> simp only [leadsTo, beq_iff_eq, Bool.or_eq_true, reduceCtorEq] at * <;>
    grind

/-- A transition that leaves the state and the recovery alone. -/
lemma leadsTo_of_same {new : MergeOperationRecordV1} (hstate : new.state = old.state)
    (hcontext : new.recoveryContext = old.recoveryContext) :
    (effective old).leadsTo (effective new) = true := by
  rw [effective_congr hstate hcontext]
  exact leadsTo_refl _

/-- Forward work leads anywhere. -/
lemma leadsTo_of_isForward (h : old.state.isForward = true) (later : OperationState) :
    (effective old).leadsTo later = true := by
  have hne : old.state ≠ .recoveryRequired := by
    intro hstate
    rw [hstate] at h
    cases h
  rw [effective_of_ne hne]
  cases hstate : old.state <;> rw [hstate] at h <;> first | rfl | cases h

lemma isForward_of_running {record : MergeOperationRecordV1}
    (h : record.state = .executing ∨ record.state = .halted) : record.state.isForward = true := by
  rcases h with h | h <;> rw [h] <;> rfl

/-! ## Transitions follow the order -/

section

/-- Besides forward work, only preservation and rollback move the operation on. -/
lemma reduceOperation_cases {transition : OperationTransition}
    (h : reduceOperation current transition = .ok next) :
    current.record.state.isForward = true
      ∨ (current.record.state = .preserving ∧ next = { current.record with state := .rollingBack })
      ∨ (current.record.state = .rollingBack ∧
        next = { current.record with state := .aborted }) := by
  cases transition with
  | beginExecution =>
    simp only [reduceOperation, require_bind_eq_ok, Bool.or_eq_true, beq_iff_eq] at h
    obtain ⟨hstate, _⟩ := h
    left
    rcases hstate with hstate | hstate <;> rw [hstate] <;> rfl
  | awaitResolution | halt =>
    simp only [reduceOperation, require_bind_eq_ok, Bool.and_eq_true, beq_iff_eq] at h
    exact .inl (by rw [h.1.1]; rfl)
  | enterFinalizing | completeOperation =>
    simp only [reduceOperation, require_bind_eq_ok, Bool.and_eq_true, beq_iff_eq] at h
    exact .inl (by rw [h.1.1.1]; rfl)
  | beginPreservation =>
    simp only [reduceOperation, require_bind_eq_ok] at h
    exact .inl h.1
  | beginRollback entry =>
    simp only [reduceOperation, require_bind_eq_ok, Bool.or_eq_true, beq_iff_eq] at h
    obtain ⟨hforward | hstate, _, _, _, _, _, h⟩ := h
    · exact .inl hforward
    · refine .inr (.inl ⟨hstate, ?_⟩)
      cases horigin : entry.origin <;> simp only [horigin, require_bind_eq_ok] at h <;>
        · obtain ⟨_, h⟩ := h
          cases h
          rfl
  | abortOperation =>
    simp only [reduceOperation, require_bind_eq_ok, Bool.and_eq_true, beq_iff_eq,
      Except.ok.injEq] at h
    obtain ⟨⟨hstate, _⟩, _, rfl⟩ := h
    exact .inr (.inr ⟨hstate, rfl⟩)

lemma reduceOperation_leadsTo {transition : OperationTransition}
    (h : reduceOperation current transition = .ok next) :
    (effective current.record).leadsTo (effective next) = true := by
  rcases reduceOperation_cases h with hforward | ⟨hstate, rfl⟩ | ⟨hstate, rfl⟩
  · exact leadsTo_of_isForward hforward _
  · rw [effective_of_ne (by simp [hstate]), effective_of_ne (by simp), hstate]
    rfl
  · rw [effective_of_ne (by simp [hstate]), effective_of_ne (by simp), hstate]
    rfl

/-- Rows change forward, while the operation executes or is halted, or they become aborted
in a rollback. -/
lemma reduceParticipant_cases {transition : ParticipantTransition}
    (h : reduceParticipant current transition = .ok next) :
    (current.record.state = .executing ∨ current.record.state = .halted)
      ∨ ∃ memberId row, next = withRow current.record memberId row
        ∧ current.record.state = .rollingBack := by
  cases transition with
  | prepare =>
    simp only [reduceParticipant, require_bind_eq_ok, Bool.and_eq_true, beq_iff_eq] at h
    exact .inl (.inl h.1.1)
  | recordOutcome =>
    obtain ⟨written, hwritten, _⟩ := bind_eq_ok.mp h
    simp only [recordOutcome, require_bind_eq_ok, Bool.or_eq_true, beq_iff_eq] at hwritten
    exact .inl hwritten.1
  | recordHaltedOutcomeAndResumeExecution | recordHaltedOutcomeAndBeginRollback
  | recordHaltedOutcomeAndBeginPreservation =>
    simp only [reduceParticipant, require_bind_eq_ok, beq_iff_eq] at h
    exact .inl (.inr h.1)
  | abandonNotStartedAndBeginRollback | abandonNotStartedAndBeginPreservation =>
    obtain ⟨written, hwritten, _⟩ := bind_eq_ok.mp h
    simp only [abandon, require_bind_eq_ok, Bool.or_eq_true, beq_iff_eq] at hwritten
    exact .inl hwritten.1
  | recordPreparationFailureAndHalt | recordOwnedRetryFailureAndHalt
  | recordOwnedResolutionFailureAndHalt =>
    obtain ⟨written, hwritten, _⟩ := bind_eq_ok.mp h
    simp only [failureBatch, require_bind_eq_ok, beq_iff_eq] at hwritten
    exact .inl (.inl hwritten.1)
  | recordNoMutationAbort =>
    simp only [reduceParticipant, require_bind_eq_ok, orRefuse_bind_eq_ok, beq_iff_eq,
      Except.ok.injEq] at h
    obtain ⟨_, hstate, row, _, _, rfl⟩ := h
    exact .inr ⟨_, _, rfl, hstate⟩

lemma reduceParticipant_leadsTo {transition : ParticipantTransition}
    (h : reduceParticipant current transition = .ok next) :
    (effective current.record).leadsTo (effective next) = true := by
  rcases reduceParticipant_cases h with hrunning | ⟨memberId, row, rfl, _⟩
  · exact leadsTo_of_isForward (isForward_of_running hrunning) _
  · exact leadsTo_of_same rfl rfl

/-- Entering recovery keeps the state as the origin, and resuming gives it back. -/
lemma reduceRecovery_cases {transition : RecoveryTransition}
    (h : reduceRecovery current transition = .ok next) :
    (∃ origin, recoveryOrigin current.record.state = some origin
      ∧ next = { current.record with
        state := .recoveryRequired, recoveryContext := some ⟨origin⟩ })
      ∨ ∃ context, current.record.state = .recoveryRequired
        ∧ current.record.recoveryContext = some context
        ∧ next = { current.record with
          state := context.originState.operationState, recoveryContext := none } := by
  cases transition with
  | enter =>
    simp only [reduceRecovery, orRefuse_bind_eq_ok, require_bind_eq_ok, Except.ok.injEq] at h
    obtain ⟨origin, horigin, _, _, _, rfl⟩ := h
    exact .inl ⟨origin, horigin, rfl⟩
  | resume =>
    simp only [reduceRecovery, orRefuse_bind_eq_ok, require_bind_eq_ok, beq_iff_eq,
      Except.ok.injEq] at h
    obtain ⟨hstate, context, hcontext, _, _, rfl⟩ := h
    exact .inr ⟨context, hstate, hcontext, rfl⟩

lemma reduceRecovery_effective {transition : RecoveryTransition}
    (h : reduceRecovery current transition = .ok next) :
    effective next = effective current.record := by
  rcases reduceRecovery_cases h with ⟨origin, horigin, rfl⟩ | ⟨context, hstate, hcontext, rfl⟩
  · have hne : current.record.state ≠ .recoveryRequired := by
      intro hstate
      rw [hstate] at horigin
      cases horigin
    rw [effective_of_ne hne]
    exact operationState_of_recoveryOrigin horigin
  · rw [effective_of_recovery hstate hcontext]
    exact effective_of_ne (RecoveryOriginStateV1.operationState_ne _)

lemma reduce_leadsTo (h : reduce current transition = .ok next) :
    (effective current.record).leadsTo (effective next) = true := by
  cases transition with
  | operation => exact reduceOperation_leadsTo h
  | participant => exact reduceParticipant_leadsTo h
  | acceptance value =>
    obtain ⟨accepted⟩ := value
    simp only [reduce, reduceAcceptance, require_bind_eq_ok, Bool.and_eq_true, beq_iff_eq] at h
    exact leadsTo_of_isForward (by rw [h.1.1]; rfl) _
  | publication =>
    simp only [reduce, reducePublication, require_bind_eq_ok, beq_iff_eq] at h
    exact leadsTo_of_isForward (by rw [h.1]; rfl) _
  | recovery =>
    rw [reduceRecovery_effective h]
    exact leadsTo_refl _
  | preservation =>
    rw [(reducePreservation_writes h).2]
    exact leadsTo_of_same rfl rfl
  | rollback =>
    rw [(reduceRollback_writes h).2]
    exact leadsTo_of_same rfl rfl
  | drift =>
    rcases reduceDrift_cases h with ⟨_, _, _, _, rfl⟩ | ⟨_, rfl⟩ <;> exact leadsTo_of_same rfl rfl

end

/-! ## Terminal states -/

/-- The record without what an observer may note on it at any time, and without the version
of its writer. -/
def withoutDrift (record : MergeOperationRecordV1) : MergeOperationRecordV1 :=
  { record with
    writerVersion := ""
    operationDrift := []
    participants := record.participants.map fun _ row => { row with drift := [] } }

/-- The operation has ended. -/
def isTerminal (record : MergeOperationRecordV1) : Bool :=
  record.state == .completed || record.state == .aborted

lemma withoutDrift_withRow {record : MergeOperationRecordV1} {memberId : String}
    {row : MergeParticipantRecord} (hrow : record.participants[memberId]? = some row)
    (drift : List ParticipantDrift) :
    withoutDrift (withRow record memberId { row with drift := drift }) = withoutDrift record := by
  have hrows : (record.participants.insert memberId { row with drift := drift }).map
      (fun _ row => { row with drift := [] })
      = record.participants.map fun _ row => { row with drift := [] } := by
    apply ext_getElem?
    intro id
    rw [getElem?_map, getElem?_map]
    by_cases hid : memberId = id
    · subst hid
      rw [get_insert_self, hrow]
      rfl
    · rw [get_insert_of_ne _ _ hid]
  unfold withoutDrift withRow
  rw [hrows]

lemma reduceDrift_withoutDrift {transition : DriftTransition}
    (h : reduceDrift current transition = .ok next) :
    withoutDrift next = withoutDrift current.record := by
  rcases reduceDrift_cases h with ⟨_, _, drift, hrow, rfl⟩ | ⟨_, rfl⟩
  · exact withoutDrift_withRow hrow drift
  · rfl

/-- A terminal record takes drift and nothing else. -/
lemma reduce_of_terminal (hterminal : isTerminal current.record = true)
    (h : reduce current transition = .ok next) :
    withoutDrift next = withoutDrift current.record := by
  simp only [isTerminal, Bool.or_eq_true, beq_iff_eq] at hterminal
  have hstate : ∀ {state : OperationState}, current.record.state = state →
      state = .completed ∨ state = .aborted := by
    rintro _ rfl
    exact hterminal
  have hrunning : ¬ (current.record.state = .executing ∨ current.record.state = .halted) := by
    rcases hterminal with hterminal | hterminal <;> rw [hterminal] <;> decide
  cases transition with
  | operation =>
    rcases reduceOperation_cases h with hforward | ⟨h, _⟩ | ⟨h, _⟩
    · rcases hterminal with hterminal | hterminal <;> rw [hterminal] at hforward <;> cases hforward
    · exact absurd (hstate h) (by decide)
    · exact absurd (hstate h) (by decide)
  | participant =>
    rcases reduceParticipant_cases h with h | ⟨_, _, _, h⟩
    · exact absurd h hrunning
    · exact absurd (hstate h) (by decide)
  | acceptance value =>
    obtain ⟨accepted⟩ := value
    simp only [reduce, reduceAcceptance, require_bind_eq_ok, Bool.and_eq_true, beq_iff_eq] at h
    exact absurd (hstate h.1.1) (by decide)
  | publication =>
    simp only [reduce, reducePublication, require_bind_eq_ok, beq_iff_eq] at h
    exact absurd (hstate h.1) (by decide)
  | recovery =>
    rcases reduceRecovery_cases h with ⟨origin, horigin, _⟩ | ⟨_, h, _⟩
    · rcases hterminal with hterminal | hterminal <;> rw [hterminal] at horigin <;> cases horigin
    · exact absurd (hstate h) (by decide)
  | preservation => exact absurd (hstate (reducePreservation_writes h).1) (by decide)
  | rollback => exact absurd (hstate (reduceRollback_writes h).1) (by decide)
  | drift => exact reduceDrift_withoutDrift h

/-! ## Runs -/

section
variable {lease : V1MutationLease} (h : prepare lease current transition = .ok rewrite)
include h

lemma prepare_reduce :
    ∃ written, reduce current transition = .ok written ∧ rewrite.next = stamp written := by
  obtain ⟨_, hnext, _⟩ := prepare_eq_ok.mp h
  obtain ⟨written, hwritten, hstamp, _⟩ := applyTransition_eq_ok.mp hnext
  exact ⟨written, hwritten, hstamp⟩

lemma prepare_leadsTo : (effective current.record).leadsTo (effective rewrite.next) = true := by
  obtain ⟨written, hwritten, hstamp⟩ := prepare_reduce h
  rw [hstamp]
  have horder := reduce_leadsTo hwritten
  exact horder

lemma prepare_of_terminal (hterminal : isTerminal current.record = true) :
    withoutDrift rewrite.next = withoutDrift current.record := by
  obtain ⟨written, hwritten, hstamp⟩ := prepare_reduce h
  rw [hstamp]
  have hsame := reduce_of_terminal hterminal hwritten
  exact hsame

end

lemma run_leadsTo (current : StoredV1Record env) (moves : List Move) :
    (effective current.record).leadsTo (effective (run step current moves).record) = true :=
  run_rel (P := fun old new => (effective old).leadsTo (effective new) = true)
    (fun _ => leadsTo_refl _) (fun _ _ _ _ => prepare_leadsTo) current
    (fun _ _ _ => leadsTo_trans) moves

lemma run_of_terminal (current : StoredV1Record env) (moves : List Move) :
    isTerminal current.record = true →
      withoutDrift (run step current moves).record = withoutDrift current.record := by
  apply run_rel (P := fun old new => isTerminal old = true → withoutDrift new = withoutDrift old)
  · exact fun _ _ => rfl
  · exact fun _ _ _ _ => prepare_of_terminal
  · intro a b c hab hbc ha
    have hstate : (withoutDrift b).state = (withoutDrift a).state := by rw [hab ha]
    have hb : isTerminal b = true := by
      unfold isTerminal at ha ⊢
      rw [show b.state = a.state from hstate]
      exact ha
    rw [hbc hb, hab ha]

/-- The order of a run from any stored record: nothing but drift is written once the
operation has ended, rollback never turns forward, preservation only goes on to rollback,
and a completed operation has published. -/
theorem run_never_turns_back (current : StoredV1Record env) (before after : List Move) :
    (isTerminal (Steps.run step current before).record = true →
      withoutDrift (Steps.run step current (before ++ after)).record
        = withoutDrift (Steps.run step current before).record)
    ∧ (isEffectively (Steps.run step current before).record .rollingBack = true →
      isEffectively (Steps.run step current (before ++ after)).record .rollingBack = true
        ∨ (Steps.run step current (before ++ after)).record.state = .aborted)
    ∧ (isEffectively (Steps.run step current before).record .preserving = true →
      isEffectively (Steps.run step current (before ++ after)).record .preserving = true
        ∨ isEffectively (Steps.run step current (before ++ after)).record .rollingBack = true
        ∨ (Steps.run step current (before ++ after)).record.state = .aborted)
    ∧ ((Steps.run step current before).record.state = .completed →
      (Steps.run step current before).record.acceptedWorkspace.isSome = true
        ∧ ∃ publication, (Steps.run step current before).record.publication = some publication
          ∧ publication.step = .complete
          ∧ (publication.candidate.isSome = true → publication.evidenceRolledBack = false)
          ∧ (publication.candidate = none →
            publicationRequired (Steps.run step current before).record = false)) := by
  rw [Steps.run_append]
  generalize Steps.run step current before = reached
  have horder := run_leadsTo reached after
  refine ⟨run_of_terminal reached after, ?_, ?_, completed_is_published reached.valid⟩
  · rw [isEffectively_iff, isEffectively_iff]
    intro heffective
    rw [heffective] at horder
    simp only [RecoveryOriginStateV1.operationState, OperationState.leadsTo, Bool.or_eq_true,
      beq_iff_eq] at horder ⊢
    exact horder.imp_right state_of_effective_aborted
  · rw [isEffectively_iff, isEffectively_iff, isEffectively_iff]
    intro heffective
    rw [heffective] at horder
    simp only [RecoveryOriginStateV1.operationState, OperationState.leadsTo, Bool.or_eq_true,
      beq_iff_eq, or_assoc] at horder ⊢
    exact horder.imp_right (Or.imp_right state_of_effective_aborted)

namespace Sample

def completed : StoredV1Record artifacts :=
  ⟨{ record .completed (upToDateRow "a") (upToDateRow "b") with
      acceptedWorkspace := some accepted
      publication := some (emptyProgress .complete) }, "0", location, by decide +kernel⟩

def rollingBack : StoredV1Record artifacts :=
  ⟨record .rollingBack (row "a") (row "b"), "0", location, by decide +kernel⟩

def preserving : StoredV1Record artifacts :=
  ⟨{ record .preserving (row "a") (row "b") with
      preservationPublicationHandoff := some .noCandidate }, "0", location, by decide +kernel⟩

/-- Moves that are offered in turn, each bound to the record that is then stored. -/
def following (current : StoredV1Record artifacts) :
    List (StoredV1Record artifacts → Move) → List Move
  | [] => []
  | move :: rest => move current :: following (step current (move current)) rest

/-- The moves that record a drift, abort both members and end the rollback. -/
def offered (current : StoredV1Record artifacts) : List Move :=
  following current
    [fun current => ⟨lease, .drift (.recordOperation (.new current "@operation" "record_drift"
        "observed" ⟨.baselineLockChanged, "lock"⟩)), "1"⟩,
      fun current => ⟨lease, .participant (.recordNoMutationAbort (.new current "mem_b"
        "record_no_mutation_abort" "cursor_verified" "mem_b")), "2"⟩,
      fun current => ⟨lease, .participant (.recordNoMutationAbort (.new current "mem_a"
        "record_no_mutation_abort" "cursor_verified" "mem_a")), "3"⟩,
      fun current => ⟨lease, .operation (.abortOperation (.new current "@operation"
        "rollback_exhausted" "cursor_verified" ⟨none, none⟩)), "4"⟩]

end Sample

/-- The drift is recorded in each of the three, and the rollback ends. -/
theorem sample_runs_never_turn_back :
    let published := Steps.run step Sample.completed (Sample.offered Sample.completed)
    let reset := Steps.run step Sample.rollingBack (Sample.offered Sample.rollingBack)
    let saved := Steps.run step Sample.preserving (Sample.offered Sample.preserving)
    (withoutDrift published.record = withoutDrift Sample.completed.record
      ∧ published.record.operationDrift.length = 1
      ∧ Sample.completed.record.acceptedWorkspace.isSome = true)
    ∧ ((isEffectively reset.record .rollingBack = true ∨ reset.record.state = .aborted)
      ∧ (reset.record.state, reset.sourceDigest) = (.aborted, "4"))
    ∧ (isEffectively saved.record .preserving = true
        ∨ isEffectively saved.record .rollingBack = true ∨ saved.record.state = .aborted)
      ∧ saved.record.operationDrift.length = 1 := by
  obtain ⟨hdrift, _, _, hpublished⟩ :=
    run_never_turns_back Sample.completed [] (Sample.offered Sample.completed)
  obtain ⟨_, hrolling, _⟩ :=
    run_never_turns_back Sample.rollingBack [] (Sample.offered Sample.rollingBack)
  obtain ⟨_, _, hpreserving, _⟩ :=
    run_never_turns_back Sample.preserving [] (Sample.offered Sample.preserving)
  exact ⟨⟨hdrift (by decide +kernel), by decide +kernel, (hpublished (by decide +kernel)).1⟩,
    ⟨hrolling (by decide +kernel), by decide +kernel⟩,
    hpreserving (by decide +kernel), by decide +kernel⟩

end GwzCore.Merge
