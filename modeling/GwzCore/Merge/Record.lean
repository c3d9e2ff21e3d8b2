import GwzCore.Lib.FiniteMap
import GwzCore.Merge.Text

/-!
# The merge operation record

The durable record of a workspace merge: one row for each selected target, the journals of
reverse work in progress, the accepted workspace and the progress of its publication. The
unknown fields of a container are its `extensions`.
-/
namespace GwzCore.Merge

inductive ErrorCode where
  | ok | invalidRequest | workspaceNotFound | workspaceAlreadyExists | nestedWorkspace
  | manifestNotFound | manifestInvalid | schemaUnsupported | memberNotFound | memberInactive
  | pathEscape | pathCollision | pathReserved | unsupportedSourceKind | unsupportedOperation
  | dirtyMember | divergedMember | missingRemote | snapshotNotFound | lockNotFound | tagNotFound
  | tagInvalid | remoteRejected | gitCommandFailed | externalToolMissing | operationNotFound
  | attributionDenied | permissionDenied | ioError | internalError | branchDetachedHead
  | branchUnbornHead | branchMixed | stashNotFound | stashIncomplete | stashConflict
  | sourceIdentityMismatch | deprecatedOperation | mergeValidationFailed | mergeIdMismatch
  | mergeDrift | openOperation | mergeRecoveryRequired | mergePhaseUnsupported
  | rootMergeNotYetSupported | mergeRecordUnreadable | unsupportedRecordVersion
  | unsupportedLegacyMode | archivedRecordUnreadable | unexpectedAcceptanceEvidence
  | acceptanceInputDrift | candidateIntegrityMismatch | ambiguousEvidenceCommit
  | recordedEvidenceDrift | publicationPrefixMismatch | publishedCandidateMismatch
  | preservationEvidenceMismatch | rollbackEvidenceMismatch | unexpectedPublicationEvidence
  | terminalEvidenceMismatch | recoveryEvidenceMismatch | terminalRollbackMismatch | unknownLocal
  | unsupportedSourceLayout | copyFailed | sourceDrift | destinationIncomplete | pairingMismatch
  | importIncomplete | unwaivedHazard | unknownEvidence | disposalIncomplete
  | urlSchemeUnavailable | transportSessionFull | operationExpired | cancelled
  | credentialHelperTimeout | capacity
  deriving DecidableEq

structure ModelError where
  code : ErrorCode
  message : String
  deriving DecidableEq

abbrev ModelResult (α : Type) := Except ModelError α

abbrev Extensions := FiniteMap String Yaml

/-! ## Shared vocabulary -/

inductive MergeExecutionMode where
  | normal | ffOnly | noFf
  deriving DecidableEq

inductive MergeTargetKind where
  | member | root
  deriving DecidableEq

inductive ParticipantState where
  | planned | upToDate | fastForwarded | merged | conflicted | failed | unattempted | continued
  | aborted | rolledBack
  deriving DecidableEq

inductive OperationState where
  | executing | awaitingResolution | halted | finalizing | preserving | rollingBack | completed
  | aborted | recoveryRequired
  deriving DecidableEq

inductive PublicationStep where
  | notStarted | validatingResults | preparingCandidate | committingEvidence
  | publishingCandidate | verifyingPublication | complete
  deriving DecidableEq

structure MergeBaseline where
  lockSha256 : String
  manifestSha256 : String
  lockYaml : Option String
  manifestYaml : Option String
  lockCommitSha256 : Option String
  manifestCommitSha256 : Option String
  rootHead : Option String
  rootBranch : Option String
  extensions : Extensions
  deriving DecidableEq

structure ConflictFileEvidence where
  path : String
  sha256 : String
  deriving DecidableEq

inductive PendingMergeExpectedResult where
  | unchanged | fastForward | expectedConflict | commit
  deriving DecidableEq

inductive PendingMergeActionKind where
  | verifyUpToDate | fastForward | trueMerge | resolveConflict
  deriving DecidableEq

structure PendingGitSignature where
  name : String
  email : String
  timeSeconds : Int
  timezoneOffsetMinutes : Int
  extensions : Extensions
  deriving DecidableEq

structure PendingCommitSpec where
  treeOid : String
  author : PendingGitSignature
  committer : PendingGitSignature
  extensions : Extensions
  deriving DecidableEq

/-- Durable intent written before one participant's Git action. -/
structure PendingMergeAction where
  kind : PendingMergeActionKind
  targetBranch : String
  beforeCommit : String
  sourceCommit : String
  commitMessage : String
  expectedResult : Option PendingMergeExpectedResult
  commitSpec : Option PendingCommitSpec
  extensions : Extensions
  deriving DecidableEq

structure MergeRecordError where
  code : ErrorCode
  message : String
  detail : Option String
  deriving DecidableEq

structure PreservationEvidence where
  backupRef : Option String
  backupCommit : Option String
  stashId : Option String
  stashObjectId : Option String
  noopCommit : Option String
  resetCommit : Option String
  deriving DecidableEq

inductive ParticipantDriftKind where
  | branchChanged | headAdvanced | headRewound | headDiverged | objectMissing | targetRefChanged
  | worktreeModified | indexModified | mergeStateMissing | mergeHeadChanged | newIntegrationState
  | foreignIntegrationState | pendingActionAmbiguous | repositoryMissing
  deriving DecidableEq

structure ParticipantDrift where
  kind : ParticipantDriftKind
  message : String
  expectedBranch : Option String
  liveBranch : Option String
  expectedHead : Option String
  liveHead : Option String
  expectedMergeHead : Option String
  liveMergeHead : Option String
  deriving DecidableEq

inductive OperationDriftKind where
  | baselineLockChanged | baselineManifestChanged | rootCandidateMetadataInvalid
  | rootCandidateStateChanged | recordUnreadable
  deriving DecidableEq

structure OperationDrift where
  kind : OperationDriftKind
  message : String
  deriving DecidableEq

structure MergeParticipantRecord where
  path : String
  targetKind : MergeTargetKind
  targetBranch : String
  beforeCommit : String
  sourceCommit : String
  commitMessage : String
  state : ParticipantState
  resultingCommit : Option String
  expectedMergeHead : Option String
  conflictPaths : List String
  conflictSnapshot : List ConflictFileEvidence
  error : Option MergeRecordError
  pendingAction : Option PendingMergeAction
  preservation : List PreservationEvidence
  drift : List ParticipantDrift
  extensions : Extensions
  deriving DecidableEq

structure ConfIntegrityPublication where
  baseline : Option (List UInt8)
  yaml : String
  extensions : Extensions
  deriving DecidableEq

structure PublicationCandidate where
  markerId : String
  rootBranch : String
  actorId : String
  confIntegrity : Option ConfIntegrityPublication
  baselineLockYaml : String
  lockYaml : String
  markerYaml : String
  baselineBoundaryText : String
  boundaryText : String
  baselineBoundarySha256 : String
  markerSha256 : String
  boundarySha256 : String
  extensions : Extensions
  deriving DecidableEq

structure PublicationCandidateHash where
  path : String
  sha256 : String
  deriving DecidableEq

structure PublicationProgress where
  step : PublicationStep
  candidateLockSha256 : Option String
  candidateMarkerPath : Option String
  rootMergeCommit : Option String
  compositionCommit : Option String
  compositionTree : Option String
  candidateHashes : List PublicationCandidateHash
  candidate : Option PublicationCandidate
  evidenceRolledBack : Bool
  rootPreservation : List PreservationEvidence
  preservationPrefix : Option String
  deriving DecidableEq

/-! ## The accepted workspace -/

inductive ArtifactSourceKind where
  | git | archive | package | local | generated
  deriving DecidableEq

inductive AcceptedMetadataSourceV1 where
  | operationBaseline
  | selectedRootResult (commit : String)
  deriving DecidableEq

structure AcceptedMetadataBaseV1 where
  source : AcceptedMetadataSourceV1
  manifestExactYaml : String
  manifestSha256 : String
  lockExactYaml : String
  lockSha256 : String
  deriving DecidableEq

structure AcceptedLockV1 where
  exactYaml : String
  sha256 : String
  deriving DecidableEq

structure AcceptedIntegrationRefV1 where
  branch : String
  beforeCommit : String
  resultingCommit : String
  deriving DecidableEq

structure AcceptedAttachedCheckoutV1 where
  branch : String
  commit : String
  deriving DecidableEq

structure AcceptedLockMemberV1 where
  path : String
  sourceId : String
  sourceKind : ArtifactSourceKind
  commit : Option String
  branch : Option String
  detached : Option Bool
  upstream : Option String
  dirty : Option Bool
  materialized : Option Bool
  extensions : Extensions
  deriving DecidableEq

inductive MemberAcceptanceV1 where
  | selected (integration : AcceptedIntegrationRefV1)
      (finalCheckout : AcceptedAttachedCheckoutV1) (lockMember : AcceptedLockMemberV1)
  | unselectedPresent (lockMember : AcceptedLockMemberV1)
  | absent
  deriving DecidableEq

inductive AcceptedRootBaseV1 where
  | bornAttached (commit symbolicBranch : String)
  | bornDetached (commit : String)
  | unbornAttached (symbolicBranch : String)
  deriving DecidableEq

structure RootArtifactHashesV1 where
  lockWorktreeSha256 : String
  manifestWorktreeSha256 : String
  lockCommitSha256 : Option String
  manifestCommitSha256 : Option String
  deriving DecidableEq

structure RootPublicationInputV1 where
  base : AcceptedRootBaseV1
  publicationBranch : Option String
  baselineArtifactHashes : RootArtifactHashesV1
  deriving DecidableEq

structure AcceptedWorkspaceV1 where
  operationBaselineLockSha256 : String
  metadataBase : AcceptedMetadataBaseV1
  lock : AcceptedLockV1
  memberAudit : FiniteMap String MemberAcceptanceV1
  root : RootPublicationInputV1
  deriving DecidableEq

/-! ## Journals of reverse work -/

inductive RecoveryOriginStateV1 where
  | executing | awaitingResolution | halted | finalizing | preserving | rollingBack
  deriving DecidableEq

structure RecoveryContextV1 where
  originState : RecoveryOriginStateV1
  deriving DecidableEq

inductive ParticipantRollbackKindV1 where
  | abortConflict | resetIntegrated
  deriving DecidableEq

inductive EvidenceRollbackStepV1 where
  | evidenceCommit | boundary | lock | marker | index | complete
  deriving DecidableEq

inductive RootMetadataRollbackStepV1 where
  | manifest | lock | complete
  deriving DecidableEq

inductive PendingRollbackActionV1 where
  | participant (memberId : String) (action : ParticipantRollbackKindV1)
      (terminalState : ParticipantState)
  | publicationEvidence (nextStep : EvidenceRollbackStepV1)
  | selectedRootMetadata (nextStep : RootMetadataRollbackStepV1)
  deriving DecidableEq

inductive PreservationOwnerV1 where
  | participant (memberId : String)
  | publicationRoot
  deriving DecidableEq

inductive PreservationStashPhaseV1 where
  | normalizeParent | normalizeMarker | normalizeLock | normalizeIndex | createStash
  | restoreIndex | restoreLock | restoreParent | restoreMarker | writeBundle | complete
  deriving DecidableEq

inductive PreservationRefResetPhaseV1 where
  | prepareParent | prepareMarker | prepareLock | prepareIndex | resetRef
  | restoreIndex | restoreLock | restoreParent | restoreMarker | complete
  deriving DecidableEq

inductive GitObjectAlgorithmV1 where
  | sha1 | sha256
  deriving DecidableEq

structure GitObjectIdV1 where
  algorithm : GitObjectAlgorithmV1
  digestHex : String
  deriving DecidableEq

inductive PublicationPrefixV1 where
  | baseline | marker | lock | boundary
  deriving DecidableEq

inductive PublicationIndexFormV1 where
  | pre | staged
  deriving DecidableEq

structure PreservationPublicationCandidateV1 where
  publicationPrefix : PublicationPrefixV1
  index : PublicationIndexFormV1
  deriving DecidableEq

inductive PreservationPublicationHandoffV1 where
  | noCandidate
  | evidencePending
  | candidate (pair : PreservationPublicationCandidateV1)
  deriving DecidableEq

/-- The candidate pair a handoff carries, if it carries one. -/
def PreservationPublicationHandoffV1.candidatePair :
    PreservationPublicationHandoffV1 → Option PreservationPublicationCandidateV1
  | .candidate pair => some pair
  | .noCandidate | .evidencePending => none

inductive PendingPreservationActionV1 where
  | backupRef (owner : PreservationOwnerV1) (name targetCommit : String)
  | stash (owner : PreservationOwnerV1) (phase : PreservationStashPhaseV1)
      (stashId : Option String) (stashObjectId : Option GitObjectIdV1)
      (message headCommit preimageSha256 : String)
      (rootPublicationHandoff : Option PreservationPublicationCandidateV1)
  | resetAttachedRef (owner : PreservationOwnerV1) (branch expectedCommit restoreCommit : String)
      (phase : PreservationRefResetPhaseV1)
      (rootPublicationHandoff : Option PreservationPublicationCandidateV1)
  deriving DecidableEq

/-! ## The record -/

def mergeRecordSchemaV1 : String := "gwz.merge-operation/v1"

def mergeRecordSchemaVersionV1 : Nat := 1

/-- The version this program writes into a record. -/
def packageVersion : String := "1.0.18"

structure MergeOperationRecordV1 where
  schema : String
  recordSchemaVersion : Nat
  writerVersion : String
  workspaceId : String
  mergeId : String
  operationId : String
  state : OperationState
  sourceRef : String
  mode : MergeExecutionMode
  createdAt : String
  baseline : MergeBaseline
  selectedTargets : List String
  participants : FiniteMap String MergeParticipantRecord
  publication : Option PublicationProgress
  operationDrift : List OperationDrift
  acceptedWorkspace : Option AcceptedWorkspaceV1
  recoveryContext : Option RecoveryContextV1
  pendingRollback : Option PendingRollbackActionV1
  pendingPreservation : Option PendingPreservationActionV1
  preservationPublicationHandoff : Option PreservationPublicationHandoffV1
  extensions : Extensions
  deriving DecidableEq

end GwzCore.Merge
