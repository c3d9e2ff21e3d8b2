import GwzCore.Merge.Authority

/-!
# Transitions and their effects

The transitions of a merge record, in the eight groups the reducer handles, each with the
tokens that authorize it. A transition's effect names its kind and its subject, which fix
the fields that may change.
-/
namespace GwzCore.Merge

inductive OperationTransition where
  | beginExecution
  | awaitResolution
  | halt
  | enterFinalizing (proof : BoundValue Unit)
  | beginPreservation (entry : PreparedPreservationEntry)
  | beginRollback (entry : PreparedRollbackEntry)
  | completeOperation (proof : BoundValue Unit)
  | abortOperation (proof : BoundValue RollbackExhaustedPayload)

inductive ParticipantTransition where
  | prepare (intent : BoundValue ParticipantActionPayload)
  | recordOutcome (proof : BoundValue ParticipantActionPayload)
  | recordHaltedOutcomeAndResumeExecution (proof : BoundValue ParticipantActionPayload)
  | recordHaltedOutcomeAndBeginRollback (proof : BoundValue ParticipantActionPayload)
      (entry : PreparedRollbackEntry)
  | recordHaltedOutcomeAndBeginPreservation (proof : BoundValue ParticipantActionPayload)
      (entry : PreparedPreservationEntry)
  | abandonNotStartedAndBeginRollback (proof : BoundValue String) (entry : PreparedRollbackEntry)
  | abandonNotStartedAndBeginPreservation (proof : BoundValue String)
      (entry : PreparedPreservationEntry)
  | recordPreparationFailureAndHalt (batch : BoundValue ParticipantFailurePayload)
  | recordOwnedRetryFailureAndHalt (batch : BoundValue ParticipantFailurePayload)
  | recordOwnedResolutionFailureAndHalt (batch : BoundValue ParticipantFailurePayload)
  | recordNoMutationAbort (proof : BoundValue String)

inductive AcceptanceTransition where
  | freeze (accepted : BoundValue AcceptedWorkspaceV1)

inductive PublicationTransition where
  | classifyRequired (decision : BoundValue Bool)
  | classifyNone (decision : BoundValue Bool)
  | beginMigratedValidation
  | classifyMigratedRequired (proof : BoundValue Bool)
  | classifyMigratedNone (proof : BoundValue Bool)
  | recordCandidate (candidate : BoundValue CandidatePayload)
  | beginEvidence (intent : BoundValue Unit)
  | recordEvidence (proof : BoundValue EvidencePayload)
  | beginCandidatePublication (intent : BoundValue Unit)
  | recordCandidatePublished (proof : BoundValue Unit)
  | recordPublicationVerified (proof : BoundValue Unit)

inductive RecoveryTransition where
  | enter (ambiguity : BoundValue RecoveryOriginStateV1)
  | resume (proof : BoundValue RecoveryOriginStateV1)

inductive PreservationTransition where
  | beginBackupRef (intent : PreservationToken)
  | finishBackupRef (proof : PreservationToken)
  | beginStash (intent : PreservationToken)
  | advanceStash (proof : PreservationToken)
  | finishStash (proof : PreservationToken)
  | beginResetAttachedRef (intent : PreservationToken)
  | advanceResetAttachedRef (proof : PreservationToken)
  | finishResetAttachedRef (proof : PreservationToken)
  | recordArtifactNoop (proof : PreservationToken)
  | recordResetNoop (proof : PreservationToken)

inductive RollbackTransition where
  | beginParticipant (intent : BoundValue PendingRollbackActionV1)
  | finishParticipant (proof : BoundValue ParticipantActionPayload)
  | beginEvidence (intent : BoundValue PendingRollbackActionV1)
  | advanceEvidence (proof : BoundValue PendingRollbackActionV1)
  | finishEvidence (proof : BoundValue Unit)
  | beginSelectedRoot (intent : BoundValue PendingRollbackActionV1)
  | advanceSelectedRoot (proof : BoundValue PendingRollbackActionV1)
  | finishSelectedRoot (proof : BoundValue Unit)

inductive DriftTransition where
  | recordParticipant (fact : BoundValue ParticipantDriftPayload)
  | clearParticipant (proof : BoundValue ParticipantDriftPayload)
  | recordOperation (fact : BoundValue OperationDrift)
  | clearOperation (proof : BoundValue OperationDrift)

inductive V1Transition where
  | operation (value : OperationTransition)
  | participant (value : ParticipantTransition)
  | acceptance (value : AcceptanceTransition)
  | publication (value : PublicationTransition)
  | recovery (value : RecoveryTransition)
  | preservation (value : PreservationTransition)
  | rollback (value : RollbackTransition)
  | drift (value : DriftTransition)

/-! ## Effects -/

inductive EffectKind where
  | beginExecution | awaitResolution | halt | enterFinalizing | beginPreservation | beginRollback
  | completeOperation | abortOperation
  | prepareParticipant | recordParticipantOutcome | recordHaltedOutcomeAndResumeExecution
  | recordHaltedOutcomeAndBeginRollback | recordHaltedOutcomeAndBeginPreservation
  | abandonNotStartedAndBeginRollback | abandonNotStartedAndBeginPreservation
  | recordPreparationFailureAndHalt | recordOwnedRetryFailureAndHalt
  | recordOwnedResolutionFailureAndHalt | recordNoMutationAbort
  | freezeAcceptance
  | classifyPublicationRequired | classifyNoPublication | beginMigratedValidation
  | classifyMigratedPublicationRequired | classifyMigratedNoPublication | recordCandidate
  | beginEvidence | recordEvidence | beginCandidatePublication | recordCandidatePublished
  | recordPublicationVerified
  | enterRecovery | resumeRecovery
  | beginBackupRef | finishBackupRef | beginStash | advanceStash | finishStash
  | beginResetAttachedRef | advanceResetAttachedRef | finishResetAttachedRef | recordArtifactNoop
  | recordResetNoop
  | beginParticipantRollback | finishParticipantRollback | beginEvidenceRollback
  | advanceEvidenceRollback | finishEvidenceRollback | beginSelectedRootRollback
  | advanceSelectedRootRollback | finishSelectedRootRollback
  | recordParticipantDrift | clearParticipantDrift | recordOperationDrift | clearOperationDrift
  deriving DecidableEq

inductive EffectSubject where
  | none
  | participant (memberId : String)
  | failure (primaryMemberId : String) (laterUnattempted : List String)
  | preservation (owner : PreservationOwnerV1)
  | participantDrift (memberId : String) (identity : ParticipantDriftIdentity)
  | operationDrift (kind : OperationDriftKind)
  deriving DecidableEq

structure TransitionEffect where
  kind : EffectKind
  subject : EffectSubject
  deriving DecidableEq

def OperationTransition.effect : OperationTransition → TransitionEffect
  | .beginExecution => ⟨.beginExecution, .none⟩
  | .awaitResolution => ⟨.awaitResolution, .none⟩
  | .halt => ⟨.halt, .none⟩
  | .enterFinalizing _ => ⟨.enterFinalizing, .none⟩
  | .beginPreservation _ => ⟨.beginPreservation, .none⟩
  | .beginRollback _ => ⟨.beginRollback, .none⟩
  | .completeOperation _ => ⟨.completeOperation, .none⟩
  | .abortOperation _ => ⟨.abortOperation, .none⟩

/-- The subject of a failure batch: the row that failed and those it leaves unattempted. -/
def ParticipantFailurePayload.subject (payload : ParticipantFailurePayload) : EffectSubject :=
  .failure payload.memberId payload.laterUnattempted

def ParticipantTransition.effect : ParticipantTransition → TransitionEffect
  | .prepare intent => ⟨.prepareParticipant, .participant intent.value.memberId⟩
  | .recordOutcome proof => ⟨.recordParticipantOutcome, .participant proof.value.memberId⟩
  | .recordHaltedOutcomeAndResumeExecution proof =>
    ⟨.recordHaltedOutcomeAndResumeExecution, .participant proof.value.memberId⟩
  | .recordHaltedOutcomeAndBeginRollback proof _ =>
    ⟨.recordHaltedOutcomeAndBeginRollback, .participant proof.value.memberId⟩
  | .recordHaltedOutcomeAndBeginPreservation proof _ =>
    ⟨.recordHaltedOutcomeAndBeginPreservation, .participant proof.value.memberId⟩
  | .abandonNotStartedAndBeginRollback proof _ =>
    ⟨.abandonNotStartedAndBeginRollback, .participant proof.value⟩
  | .abandonNotStartedAndBeginPreservation proof _ =>
    ⟨.abandonNotStartedAndBeginPreservation, .participant proof.value⟩
  | .recordPreparationFailureAndHalt batch =>
    ⟨.recordPreparationFailureAndHalt, batch.value.subject⟩
  | .recordOwnedRetryFailureAndHalt batch =>
    ⟨.recordOwnedRetryFailureAndHalt, batch.value.subject⟩
  | .recordOwnedResolutionFailureAndHalt batch =>
    ⟨.recordOwnedResolutionFailureAndHalt, batch.value.subject⟩
  | .recordNoMutationAbort proof => ⟨.recordNoMutationAbort, .participant proof.value⟩

def PublicationTransition.effect : PublicationTransition → TransitionEffect
  | .classifyRequired _ => ⟨.classifyPublicationRequired, .none⟩
  | .classifyNone _ => ⟨.classifyNoPublication, .none⟩
  | .beginMigratedValidation => ⟨.beginMigratedValidation, .none⟩
  | .classifyMigratedRequired _ => ⟨.classifyMigratedPublicationRequired, .none⟩
  | .classifyMigratedNone _ => ⟨.classifyMigratedNoPublication, .none⟩
  | .recordCandidate _ => ⟨.recordCandidate, .none⟩
  | .beginEvidence _ => ⟨.beginEvidence, .none⟩
  | .recordEvidence _ => ⟨.recordEvidence, .none⟩
  | .beginCandidatePublication _ => ⟨.beginCandidatePublication, .none⟩
  | .recordCandidatePublished _ => ⟨.recordCandidatePublished, .none⟩
  | .recordPublicationVerified _ => ⟨.recordPublicationVerified, .none⟩

def RecoveryTransition.effect : RecoveryTransition → TransitionEffect
  | .enter _ => ⟨.enterRecovery, .none⟩
  | .resume _ => ⟨.resumeRecovery, .none⟩

def PreservationTransition.token : PreservationTransition → PreservationToken
  | .beginBackupRef token | .finishBackupRef token | .beginStash token | .advanceStash token
  | .finishStash token | .beginResetAttachedRef token | .advanceResetAttachedRef token
  | .finishResetAttachedRef token | .recordArtifactNoop token | .recordResetNoop token => token

def PreservationTransition.kind : PreservationTransition → EffectKind
  | .beginBackupRef _ => .beginBackupRef
  | .finishBackupRef _ => .finishBackupRef
  | .beginStash _ => .beginStash
  | .advanceStash _ => .advanceStash
  | .finishStash _ => .finishStash
  | .beginResetAttachedRef _ => .beginResetAttachedRef
  | .advanceResetAttachedRef _ => .advanceResetAttachedRef
  | .finishResetAttachedRef _ => .finishResetAttachedRef
  | .recordArtifactNoop _ => .recordArtifactNoop
  | .recordResetNoop _ => .recordResetNoop

def PreservationTransition.effect (transition : PreservationTransition) : TransitionEffect :=
  ⟨transition.kind, .preservation transition.token.value.owner⟩

/-- The participant a pending rollback belongs to. -/
def PendingRollbackActionV1.participantOwner : PendingRollbackActionV1 → Option String
  | .participant memberId _ _ => some memberId
  | .publicationEvidence _ | .selectedRootMetadata _ => none

def RollbackTransition.effect : RollbackTransition → TransitionEffect
  -- the reducer refuses an intent without a participant, so its subject is never reported
  | .beginParticipant intent => ⟨.beginParticipantRollback,
      (intent.value.participantOwner.map .participant).getD .none⟩
  | .finishParticipant proof => ⟨.finishParticipantRollback, .participant proof.value.memberId⟩
  | .beginEvidence _ => ⟨.beginEvidenceRollback, .none⟩
  | .advanceEvidence _ => ⟨.advanceEvidenceRollback, .none⟩
  | .finishEvidence _ => ⟨.finishEvidenceRollback, .none⟩
  | .beginSelectedRoot _ => ⟨.beginSelectedRootRollback, .none⟩
  | .advanceSelectedRoot _ => ⟨.advanceSelectedRootRollback, .none⟩
  | .finishSelectedRoot _ => ⟨.finishSelectedRootRollback, .none⟩

def DriftTransition.effect : DriftTransition → TransitionEffect
  | .recordParticipant fact =>
    ⟨.recordParticipantDrift, .participantDrift fact.value.memberId fact.value.identity⟩
  | .clearParticipant proof =>
    ⟨.clearParticipantDrift, .participantDrift proof.value.memberId proof.value.identity⟩
  | .recordOperation fact => ⟨.recordOperationDrift, .operationDrift fact.value.kind⟩
  | .clearOperation proof => ⟨.clearOperationDrift, .operationDrift proof.value.kind⟩

def V1Transition.effect : V1Transition → TransitionEffect
  | .operation value => value.effect
  | .participant value => value.effect
  | .acceptance (.freeze _) => ⟨.freezeAcceptance, .none⟩
  | .publication value => value.effect
  | .recovery value => value.effect
  | .preservation value => value.effect
  | .rollback value => value.effect
  | .drift value => value.effect

def effectError (detail : String) : ModelError :=
  ⟨.mergeRecoveryRequired, "v1 transition effect rejected: " ++ detail⟩

def badSubject : ModelError := effectError "transition effect has the wrong typed subject"

end GwzCore.Merge
