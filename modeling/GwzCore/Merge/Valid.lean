import GwzCore.Merge.Runs

/-!
# What a valid record satisfies

The checks of a record read as propositions, group by group. A check refuses with a text
that names the record, so the texts are dropped here and only the conditions are kept.
-/
namespace GwzCore.Merge
open FiniteMap RecoveryOriginStateV1

open Checks

variable {env : Artifacts} {record : MergeOperationRecordV1} {origin : RecoveryOriginStateV1}
  {state : OperationState}

lemma mem_rows {row : MergeParticipantRecord} :
    row ∈ rows record ↔ ∃ id : String, record.participants[id]? = some row := by
  simp only [rows, List.mem_map, Prod.exists]
  constructor
  · rintro ⟨id, value, hmem, rfl⟩
    exact ⟨id, mem_toList.mp hmem⟩
  · rintro ⟨id, h⟩
    exact ⟨id, row, mem_toList.mpr h, rfl⟩

lemma validateV1Record_eq_ok :
    validateV1Record env record = .ok () ↔
      validateCommonV1Record env record = .ok () ∧ validateV1Actions record = .ok ()
        ∧ validateV1Lifecycle record = .ok () ∧ validateV1Acceptance env record = .ok ()
        ∧ validateV1Publication env record = .ok () ∧ validateV1Journal env record = .ok () := by
  simp [validateV1Record, bind_unit_eq_ok]

/-! ## Effective states -/

/-- The state of the operation, or the one it was interrupted in. -/
def effective (record : MergeOperationRecordV1) : OperationState :=
  match record.state, record.recoveryContext with
  | .recoveryRequired, some context => context.originState.operationState
  | state, _ => state

lemma effective_of_ne (h : record.state ≠ .recoveryRequired) : effective record = record.state := by
  unfold effective
  split
  · rename_i hstate _
    exact absurd hstate h
  · rfl

lemma effective_congr {old new : MergeOperationRecordV1} (hstate : new.state = old.state)
    (hcontext : new.recoveryContext = old.recoveryContext) : effective new = effective old := by
  unfold effective
  rw [hstate, hcontext]

lemma RecoveryOriginStateV1.operationState_ne (origin : RecoveryOriginStateV1) :
    origin.operationState ≠ .recoveryRequired := by
  cases origin <;> simp [operationState]

/-- In recovery the effective state is the recorded origin. -/
lemma effective_of_recovery {context : RecoveryContextV1}
    (hstate : record.state = .recoveryRequired) (hcontext : record.recoveryContext = some context) :
    effective record = context.originState.operationState := by
  unfold effective
  rw [hstate, hcontext]

lemma operationState_of_recoveryOrigin (h : recoveryOrigin state = some origin) :
    origin.operationState = state := by
  cases state <;> simp only [recoveryOrigin, Option.some.injEq, reduceCtorEq] at h <;>
    · subst h
      rfl

lemma isEffectively_iff :
    isEffectively record origin = true ↔ effective record = origin.operationState := by
  unfold isEffectively
  by_cases hstate : record.state = .recoveryRequired
  · rcases hcontext : record.recoveryContext with _ | context
    · have heffective : effective record = .recoveryRequired := by
        unfold effective
        rw [hstate, hcontext]
      rw [heffective, hstate]
      cases origin <;> decide
    · rw [effective_of_recovery hstate hcontext, hstate]
      rcases context with ⟨recorded⟩
      cases origin <;> cases recorded <;> decide
  · rw [effective_of_ne hstate]
    simp [hstate]

/-- No recovery has the aborted state as its origin. -/
lemma state_of_effective_aborted (h : effective record = .aborted) : record.state = .aborted := by
  unfold effective at h
  split at h
  · rename_i context _ _
    rcases context with ⟨origin⟩
    cases origin <;> cases h
  · exact h

lemma effectiveState_eq_ok :
    effectiveState record = .ok state ↔
      effective record = state ∧ effective record ≠ .recoveryRequired := by
  unfold effectiveState
  by_cases hstate : record.state = .recoveryRequired
  · rcases hcontext : record.recoveryContext with _ | context
    · simp [effective, hstate, hcontext]
    · rw [effective_of_recovery hstate hcontext]
      simp [hstate, operationState_ne]
  · simp [hstate, effective_of_ne hstate]

/-! ## Lifecycle -/

/-- The result, the conflict fields and the error of a row fit its state. -/
def rowShape (row : MergeParticipantRecord) : Bool :=
  resultIsLegal row && conflictFieldsAreLegal row && errorIsLegal row

lemma validateV1Lifecycle_eq_ok :
    validateV1Lifecycle record = .ok () ↔
      (∀ row ∈ rows record, rowShape row = true)
        ∧ ∃ effective, effectiveState record = .ok effective
          ∧ participantStatesAreLegal record effective = true
          ∧ forwardPendingIsLegal record effective = true
          ∧ reversePendingIsLegal record effective = true := by
  simp only [validateV1Lifecycle, bind_unit_eq_ok, checkAll_eq_ok, validateParticipantShape,
    require_eq_ok, rowShape]
  apply and_congr_right
  intro _
  rw [bind_eq_ok]
  simp [require_bind_eq_ok, require_eq_ok]

/-! ## Publication -/

/-- The checks of a publication that has been decided on. -/
lemma validateV1Publication_some {publication : PublicationProgress}
    (hpublication : record.publication = some publication) :
    validateV1Publication env record = .ok () ↔
      (!(record.state == .aborted
          && (record.pendingRollback.isSome || record.pendingPreservation.isSome))) = true
        ∧ publication.preservationPrefix.isNone = true
        ∧ (match publication.candidate with
          | none => validateNoCandidate record publication
          | some _ => validateCandidateProgress env record publication) = .ok ()
        ∧ validateTerminal env record publication = .ok () := by
  unfold validateV1Publication
  rw [hpublication, require_bind_eq_ok]
  simp only [require_bind_eq_ok]
  cases publication.candidate <;> simp [bind_unit_eq_ok]

lemma validateV1Publication_none (hpublication : record.publication = none) :
    validateV1Publication env record = .ok () ↔
      (!(record.state == .aborted
          && (record.pendingRollback.isSome || record.pendingPreservation.isSome))) = true
        ∧ record.state ≠ .completed := by
  unfold validateV1Publication
  rw [hpublication, require_bind_eq_ok]
  simp

/-- A valid completed record has frozen its workspace and published what had to be. -/
lemma completed_is_published (hvalid : validateV1Record env record = .ok ())
    (hstate : record.state = .completed) :
    record.acceptedWorkspace.isSome = true ∧ ∃ publication, record.publication = some publication
      ∧ publication.step = .complete
      ∧ (publication.candidate.isSome = true → publication.evidenceRolledBack = false)
      ∧ (publication.candidate = none → publicationRequired record = false) := by
  obtain ⟨_, _, _, _, hpublished, _⟩ := validateV1Record_eq_ok.mp hvalid
  rcases hpublication : record.publication with _ | publication
  · exact absurd hstate ((validateV1Publication_none hpublication).mp hpublished).2
  · obtain ⟨_, _, _, hterminal⟩ := (validateV1Publication_some hpublication).mp hpublished
    obtain ⟨composition, _, hterminal⟩ := bind_eq_ok.mp hterminal
    obtain ⟨_, hexact⟩ := require_bind_eq_ok.mp hterminal
    rw [hstate] at hexact
    simp only [require_eq_ok, completedIsExact, Bool.and_eq_true, beq_iff_eq] at hexact
    obtain ⟨⟨haccepted, hstep⟩, hdone⟩ := hexact
    refine ⟨haccepted, publication, rfl, hstep, ?_, ?_⟩
    · intro hcandidate
      simpa [hcandidate] using hdone
    · intro hcandidate
      simpa [hcandidate] using hdone

/-! ## The parts that do not depend on the state -/

lemma validateCommonV1Record_eq_ok :
    validateCommonV1Record env record = .ok () ↔
      validateEnvelope record = .ok () ∧ validateTargets record = .ok ()
        ∧ (∀ (id : String) row, record.participants[id]? = some row →
          validateParticipant record id row = .ok ())
        ∧ validateV1Baseline env record = .ok () ∧ validateAcceptedTexts record = .ok ()
        ∧ (∀ publication, record.publication = some publication →
          validatePreservationEvidence record publication.rootPreservation = .ok ())
        ∧ validatePreservationObjectIds record = .ok () := by
  unfold validateCommonV1Record
  simp only [bind_unit_eq_ok, checkAll_eq_ok, Prod.forall, mem_toList]
  cases record.publication with
  | none => simp
  | some publication => simp [bind_unit_eq_ok]

end GwzCore.Merge
