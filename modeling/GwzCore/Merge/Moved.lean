import GwzCore.Merge.Valid

/-!
# Validity when only the state moves

Most checks do not read the operation's state, its recovery or the version of its writer.
The record with those three replaced passes them as it did before. Only the lifecycle, the
terminal evidence, the journals and the lifetime of the accepted workspace are left to
check, and of the accepted workspace only whether the operation is being rolled back.
-/
namespace GwzCore.Merge

open Checks OperationState

variable {env : Artifacts} {state : OperationState}

/-- The record in another state, stamped by this program. -/
def moved (record : MergeOperationRecordV1) (state : OperationState)
    (context : Option RecoveryContextV1) : MergeOperationRecordV1 :=
  stamp { record with state := state, recoveryContext := context }

variable {record : MergeOperationRecordV1} {context : Option RecoveryContextV1}

/-! ## Envelope and rows -/

lemma packageVersion_isText : isBlank packageVersion = false := by decide +kernel

lemma validateEnvelope_moved (h : validateEnvelope record = .ok ()) :
    validateEnvelope (moved record state context) = .ok () := by
  simp only [validateEnvelope, bind_unit_eq_ok] at h ⊢
  obtain ⟨h1, h2, h3, h4, _, h6⟩ := h
  refine ⟨h1, h2, h3, h4, ?_, h6⟩
  exact require_eq_ok.mpr (by rw [show (moved record state context).writerVersion =
    packageVersion from rfl, packageVersion_isText]; rfl)

lemma validateSelectedTargets_moved (targets selected : List String) :
    validateSelectedTargets (moved record state context) targets selected
      = validateSelectedTargets record targets selected := by
  induction targets generalizing selected with
  | nil => rfl
  | cons target rest ih =>
    unfold validateSelectedTargets
    rw [ih]
    rfl

lemma validateTargets_moved :
    validateTargets (moved record state context) = validateTargets record := by
  unfold validateTargets
  rw [validateSelectedTargets_moved]
  rfl

lemma validateCommon_moved (h : validateCommonV1Record env record = .ok ()) :
    validateCommonV1Record env (moved record state context) = .ok () := by
  obtain ⟨henvelope, htargets, h⟩ := validateCommonV1Record_eq_ok.mp h
  refine validateCommonV1Record_eq_ok.mpr ⟨validateEnvelope_moved henvelope, ?_, h⟩
  rw [validateTargets_moved]
  exact htargets

/-! ## The accepted workspace and its publication -/

lemma changedTargets_moved (targets : List String) :
    changedTargets (moved record state context) targets = changedTargets record targets := by
  induction targets with
  | nil => rfl
  | cons target rest ih =>
    unfold changedTargets
    rw [ih]
    rfl

lemma validateCandidateSemantics_moved :
    validateCandidateSemantics env (moved record state context)
      = validateCandidateSemantics env record := by
  unfold validateCandidateSemantics
  rw [show (moved record state context).selectedTargets = record.selectedTargets from rfl,
    changedTargets_moved]
  rfl

section

variable (h : isRollbackLifecycle (moved record state context) = isRollbackLifecycle record)
include h

lemma acceptedResultStateIsLegal_moved :
    acceptedResultStateIsLegal (moved record state context)
      = acceptedResultStateIsLegal record := by
  funext row
  unfold acceptedResultStateIsLegal
  rw [h]

lemma validateAudit_moved (accepted : AcceptedWorkspaceV1) (lock : LockArtifact)
    (lockRows : FiniteMap String AcceptedLockMemberV1) :
    validateAudit env (moved record state context) accepted lock lockRows
      = validateAudit env record accepted lock lockRows := by
  have hselected : selectedRowIsExact (moved record state context) = selectedRowIsExact record := by
    funext participant inputs memberId integration finalCheckout lockMember
    unfold selectedRowIsExact
    rw [acceptedResultStateIsLegal_moved h]
    rfl
  have haudit : validateMemberAudit (moved record state context) = validateMemberAudit record := by
    funext inputs memberId audit
    unfold validateMemberAudit
    rw [hselected]
    rfl
  unfold validateAudit
  rw [haudit]
  rfl

lemma validateRoot_moved (accepted : AcceptedWorkspaceV1) :
    validateRoot (moved record state context) accepted = validateRoot record accepted := by
  unfold validateRoot
  rw [acceptedResultStateIsLegal_moved h]
  rfl

end

lemma validateCandidate_moved (accepted : AcceptedWorkspaceV1) :
    validateCandidate env (moved record state context) accepted
      = validateCandidate env record accepted := by
  unfold validateCandidate
  rw [validateCandidateSemantics_moved]
  rfl

/-- The accepted workspace stays exact as long as the operation stays on its side of the
rollback. -/
lemma validateV1Acceptance_moved
    (h : isRollbackLifecycle (moved record state context) = isRollbackLifecycle record)
    (hlifetime : validateLifetime (moved record state context) = .ok ())
    (hvalid : validateV1Acceptance env record = .ok ()) :
    validateV1Acceptance env (moved record state context) = .ok () := by
  unfold validateV1Acceptance at hvalid ⊢
  refine bind_unit_eq_ok.mpr ⟨hlifetime, ?_⟩
  obtain ⟨_, hvalid⟩ := bind_unit_eq_ok.mp hvalid
  rw [show (moved record state context).acceptedWorkspace = record.acceptedWorkspace from rfl]
  cases haccepted : record.acceptedWorkspace with
  | none => rfl
  | some accepted =>
    rw [haccepted] at hvalid
    simp only [validateAudit_moved h, validateRoot_moved h, validateCandidate_moved]
    exact hvalid

lemma validateCandidateProgress_moved (publication : PublicationProgress) :
    validateCandidateProgress env (moved record state context) publication
      = validateCandidateProgress env record publication := by
  unfold validateCandidateProgress
  rw [validateCandidateSemantics_moved]
  rfl

/-- The operation has not ended. -/
def OperationState.isOpen : OperationState → Bool
  | .completed | .aborted => false
  | _ => true

lemma ne_of_isOpen (h : state.isOpen = true) :
    state ≠ .completed ∧ state ≠ .aborted := by
  constructor <;>
    · rintro rfl
      cases h

lemma validateTerminal_of_isOpen {publication : PublicationProgress}
    (hopen : record.state.isOpen = true) :
    validateTerminal env record publication = .ok () ↔
      ∃ composition, compositionShape env record publication = .ok composition
        ∧ (!(publication.evidenceRolledBack && !(composition == .complete))) = true
        ∧ (!(publication.evidenceRolledBack && !isRollingBack record)) = true := by
  unfold validateTerminal
  rw [bind_eq_ok]
  apply exists_congr
  intro composition
  rw [require_bind_eq_ok]
  cases hstate : record.state <;> rw [hstate] at hopen <;>
    first | exact absurd hopen (by decide) | simp only [require_eq_ok]

/-- An open publication is checked alike in every state that is rolling back, and in every
state that is not. -/
lemma validateV1Publication_moved (hold : record.state.isOpen = true) (hnew : state.isOpen = true)
    (h : isRollingBack (moved record state context) = isRollingBack record)
    (hvalid : validateV1Publication env record = .ok ()) :
    validateV1Publication env (moved record state context) = .ok () := by
  have hnotAborted : (!(state == .aborted
      && (record.pendingRollback.isSome || record.pendingPreservation.isSome))) = true := by
    simp [(ne_of_isOpen hnew).2]
  cases hpublication : record.publication with
  | none =>
    have hmoved : (moved record state context).publication = none := hpublication
    exact (validateV1Publication_none hmoved).mpr
      ⟨hnotAborted, (ne_of_isOpen hnew).1⟩
  | some publication =>
    obtain ⟨_, hprefix, hprogress, hterminal⟩ := (validateV1Publication_some hpublication).mp hvalid
    have hmoved : (moved record state context).publication = some publication := hpublication
    refine (validateV1Publication_some hmoved).mpr ⟨hnotAborted, hprefix, ?_, ?_⟩
    · cases hcandidate : publication.candidate with
      | none =>
        rw [hcandidate] at hprogress
        exact hprogress
      | some candidate =>
        rw [hcandidate] at hprogress
        simp only [validateCandidateProgress_moved]
        exact hprogress
    · obtain ⟨composition, hshape, hcomplete, hrolled⟩ :=
        (validateTerminal_of_isOpen hold).mp hterminal
      refine (validateTerminal_of_isOpen hnew).mpr ⟨composition, hshape, hcomplete, ?_⟩
      rw [h]
      exact hrolled

/-! ## Journals -/

lemma validateV1Journal_eq_ok :
    validateV1Journal env record = .ok () ↔
      validateRecoveryContext record = .ok ()
        ∧ (!(record.pendingRollback.isSome && record.pendingPreservation.isSome)) = true
        ∧ pendingIsAllowed record = true
        ∧ (∀ action, record.pendingRollback = some action →
          validateRollback env record action = .ok ())
        ∧ validateDurableHandoff record = .ok () ∧ validateAllEvidence record = .ok ()
        ∧ ∀ action, record.pendingPreservation = some action →
          validatePreservationAction record action = .ok () := by
  simp only [validateV1Journal, validatePendingLegality, validateV1Preservation, bind_unit_eq_ok,
    require_eq_ok]
  cases record.pendingRollback <;> cases record.pendingPreservation <;>
    simp [bind_unit_eq_ok]

lemma isRollbackLifecycle_of_isOpen (h : record.state.isOpen = true) :
    isRollbackLifecycle record = isRollingBack record := by
  have hnot : (record.state == .aborted) = false :=
    beq_eq_false_iff_ne.mpr (ne_of_isOpen h).2
  simp [isRollbackLifecycle, isRollingBack, hnot]

lemma handoffIsPermitted_of_isOpen (h : record.state.isOpen = true) :
    handoffIsPermitted record = (handoffIsRequired record || isRollingBack record) := by
  have hrolling : isEffectively record .rollingBack = isRollingBack record := rfl
  simp [handoffIsPermitted, (ne_of_isOpen h).2, hrolling]

/-! ## The whole record -/

/-- An open record that is moved stays valid if its rows and journals fit the new effective
state, and if it stays on its side of the preservation and of the rollback. -/
lemma validateV1Record_of_moved {next : OperationState}
    (hvalid : validateV1Record env record = .ok ())
    (hold : record.state.isOpen = true) (hnew : state.isOpen = true)
    (hrequired : handoffIsRequired (moved record state context) = handoffIsRequired record)
    (hrolling : isRollingBack (moved record state context) = isRollingBack record)
    (hlifetime : validateLifetime (moved record state context) = .ok ())
    (hcontext : validateRecoveryContext (moved record state context) = .ok ())
    (hpending : pendingIsAllowed (moved record state context) = true)
    (hnext : effectiveState (moved record state context) = .ok next)
    (hstates : participantStatesAreLegal record next = true)
    (hforward : forwardPendingIsLegal record next = true)
    (hreverse : reversePendingIsLegal record next = true) :
    validateV1Record env (moved record state context) = .ok () := by
  obtain ⟨hcommon, hactions, hlifecycle, hacceptance, hpublication, hjournal⟩ :=
    validateV1Record_eq_ok.mp hvalid
  obtain ⟨hshapes, _⟩ := validateV1Lifecycle_eq_ok.mp hlifecycle
  obtain ⟨_, hexclusive, _, hrollback, hhandoff, hevidence, haction⟩ :=
    validateV1Journal_eq_ok.mp hjournal
  have hopen : (moved record state context).state.isOpen = true := hnew
  have hlifecycles : isRollbackLifecycle (moved record state context)
      = isRollbackLifecycle record := by
    rw [isRollbackLifecycle_of_isOpen hold, isRollbackLifecycle_of_isOpen hopen, hrolling]
  have hhandoffs : validateDurableHandoff (moved record state context) = .ok () := by
    have hpermitted : handoffIsPermitted (moved record state context)
        = handoffIsPermitted record := by
      rw [handoffIsPermitted_of_isOpen hold, handoffIsPermitted_of_isOpen hopen, hrequired,
        hrolling]
    unfold validateDurableHandoff at hhandoff ⊢
    rw [hpermitted, hrequired]
    exact hhandoff
  exact validateV1Record_eq_ok.mpr ⟨validateCommon_moved hcommon, hactions,
    validateV1Lifecycle_eq_ok.mpr ⟨hshapes, next, hnext, hstates, hforward, hreverse⟩,
    validateV1Acceptance_moved hlifecycles hlifetime hacceptance,
    validateV1Publication_moved hold hnew hrolling hpublication, validateV1Journal_eq_ok.mpr
      ⟨hcontext, hexclusive, hpending, hrollback, hhandoffs, hevidence, haction⟩⟩

/-- An open record moved between states with the same effective state stays valid, if its
accepted workspace may stand there and its recovery and journals fit. -/
lemma validateV1Record_moved (hvalid : validateV1Record env record = .ok ())
    (hold : record.state.isOpen = true) (hnew : state.isOpen = true)
    (hcontext : validateRecoveryContext (moved record state context) = .ok ())
    (hpending : pendingIsAllowed (moved record state context) = true)
    (heffective : effective (moved record state context) = effective record)
    (hlifetime : validateLifetime (moved record state context) = .ok ()) :
    validateV1Record env (moved record state context) = .ok () := by
  obtain ⟨_, _, hlifecycle, _⟩ := validateV1Record_eq_ok.mp hvalid
  obtain ⟨_, next, hnext, hstates, hforward, hreverse⟩ := validateV1Lifecycle_eq_ok.mp hlifecycle
  have hsame : ∀ origin, isEffectively (moved record state context) origin
      = isEffectively record origin := by
    intro origin
    rw [Bool.eq_iff_iff, isEffectively_iff, isEffectively_iff, heffective]
  refine validateV1Record_of_moved hvalid hold hnew (hsame .preserving) (hsame .rollingBack)
    hlifetime hcontext hpending ?_ hstates hforward hreverse
  rw [effectiveState_eq_ok] at hnext ⊢
  rw [heffective]
  exact hnext

/-! ## Records that still integrate -/

/-- The states in which rows are integrated: no workspace has been accepted yet. -/
def OperationState.isIntegrating : OperationState → Bool
  | .executing | .awaitingResolution | .halted => true
  | _ => false

/-- What a valid record has not got while its rows are integrated. -/
structure Integrating (record : MergeOperationRecordV1) : Prop where
  state : record.state.isIntegrating = true
  acceptedWorkspace : record.acceptedWorkspace = none
  publication : record.publication = none
  recoveryContext : record.recoveryContext = none
  pendingRollback : record.pendingRollback = none
  pendingPreservation : record.pendingPreservation = none
  handoff : record.preservationPublicationHandoff = none

lemma cases_of_isIntegrating (h : state.isIntegrating = true) :
    state = .executing ∨ state = .awaitingResolution ∨ state = .halted := by
  cases state <;> first | exact absurd h (by decide) | simp

lemma isOpen_of_isIntegrating (h : state.isIntegrating = true) :
    state.isOpen = true := by
  rcases cases_of_isIntegrating h with rfl | rfl | rfl <;> rfl

lemma effective_of_isIntegrating (h : record.state.isIntegrating = true) :
    effective record = record.state := by
  apply effective_of_ne
  rcases cases_of_isIntegrating h with h | h | h <;> simp [h]

lemma not_isEffectively_of_isIntegrating (h : record.state.isIntegrating = true)
    {origin : RecoveryOriginStateV1} (horigin : origin.operationState.isIntegrating = false) :
    isEffectively record origin = false := by
  rw [Bool.eq_false_iff, ne_eq, isEffectively_iff, effective_of_isIntegrating h]
  intro heq
  rw [heq, horigin] at h
  cases h

lemma validateRecoveryContext_none (hne : record.state ≠ .recoveryRequired) :
    validateRecoveryContext record = .ok () ↔ record.recoveryContext = none := by
  unfold validateRecoveryContext
  cases hstate : record.state <;> first | exact absurd hstate hne | skip
  all_goals cases record.recoveryContext <;> simp

/-- The rows and the journals are as the effective state allows. -/
lemma states_of_valid (hvalid : validateV1Record env record = .ok ()) :
    participantStatesAreLegal record (effective record) = true
      ∧ forwardPendingIsLegal record (effective record) = true
      ∧ reversePendingIsLegal record (effective record) = true := by
  obtain ⟨_, _, hlifecycle, _⟩ := validateV1Record_eq_ok.mp hvalid
  obtain ⟨_, state, heffective, hallowed⟩ := validateV1Lifecycle_eq_ok.mp hlifecycle
  obtain ⟨rfl, _⟩ := effectiveState_eq_ok.mp heffective
  exact hallowed

lemma integrating_of_valid (hvalid : validateV1Record env record = .ok ())
    (hstate : record.state.isIntegrating = true) : Integrating record := by
  obtain ⟨_, _, _, hacceptance, _, hjournal⟩ := validateV1Record_eq_ok.mp hvalid
  obtain ⟨_, _, hreverse⟩ := states_of_valid hvalid
  obtain ⟨hcontext, _, _, _, hhandoff, _, _⟩ := validateV1Journal_eq_ok.mp hjournal
  obtain ⟨hlifetime, _⟩ := bind_unit_eq_ok.mp hacceptance
  simp only [validateLifetime, require_bind_eq_ok, require_eq_ok] at hlifetime
  obtain ⟨hbefore, hafter⟩ := hlifetime
  rw [effective_of_isIntegrating hstate] at hreverse
  have haccepted : record.acceptedWorkspace = none := by
    rcases cases_of_isIntegrating hstate with h | h | h <;> simpa [h] using hbefore
  have hpending : record.pendingRollback = none ∧ record.pendingPreservation = none := by
    rcases cases_of_isIntegrating hstate with h | h | h <;>
      simpa [h, reversePendingIsLegal] using hreverse
  have hne : record.state ≠ .recoveryRequired := by
    rcases cases_of_isIntegrating hstate with h | h | h <;> simp [h]
  refine ⟨hstate, haccepted, ?_, (validateRecoveryContext_none hne).mp hcontext, hpending.1,
    hpending.2, ?_⟩
  · simpa [haccepted] using hafter
  · cases h : record.preservationPublicationHandoff with
    | none => rfl
    | some handoff =>
      have hnotAborted : (record.state == .aborted) = false := beq_eq_false_iff_ne.mpr
        (ne_of_isOpen (isOpen_of_isIntegrating hstate)).2
      have hpreserving : isEffectively record .preserving = false :=
        not_isEffectively_of_isIntegrating hstate rfl
      have hrolling : isEffectively record .rollingBack = false :=
        not_isEffectively_of_isIntegrating hstate rfl
      simp [validateDurableHandoff, h, handoffIsPermitted, handoffIsRequired, hpreserving,
        hrolling, hnotAborted] at hhandoff

/-- A record that still integrates may move to any such state that its rows allow. -/
lemma validateV1Record_moved_integrating (hvalid : validateV1Record env record = .ok ())
    (hold : record.state.isIntegrating = true) (hnew : state.isIntegrating = true)
    (hstates : participantStatesAreLegal record state = true)
    (hforward : forwardPendingIsLegal record state = true) :
    validateV1Record env (moved record state none) = .ok () := by
  have h := integrating_of_valid hvalid hold
  have hmoved : (moved record state none).state.isIntegrating = true := hnew
  have hne : state ≠ .recoveryRequired := by
    rintro rfl
    cases hnew
  have hsame : ∀ origin, origin.operationState.isIntegrating = false →
      isEffectively (moved record state none) origin = isEffectively record origin := by
    intro origin horigin
    rw [not_isEffectively_of_isIntegrating hmoved horigin,
      not_isEffectively_of_isIntegrating hold horigin]
  refine validateV1Record_of_moved hvalid (isOpen_of_isIntegrating hold)
    (isOpen_of_isIntegrating hnew) (hsame .preserving rfl) (hsame .rollingBack rfl) ?_
    ((validateRecoveryContext_none hne).mpr rfl) ?_ ?_ hstates hforward ?_
  · simp [validateLifetime, require_bind_eq_ok, moved, stamp, h.acceptedWorkspace, h.publication]
  · rcases cases_of_isIntegrating hnew with rfl | rfl | rfl <;>
      simp [pendingIsAllowed, moved, stamp, h.pendingRollback, h.pendingPreservation]
  · rw [effectiveState_eq_ok, effective_of_isIntegrating hmoved]
    exact ⟨rfl, hne⟩
  · rcases cases_of_isIntegrating hnew with rfl | rfl | rfl <;>
      simp [reversePendingIsLegal, h.pendingRollback, h.pendingPreservation]

end GwzCore.Merge
