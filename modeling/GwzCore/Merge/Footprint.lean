import GwzCore.Merge.Reduce

/-!
# Footprints

A transition's effect declares which known fields it changes. Before a rewrite is prepared
the fields that did change are computed from the two records and must be exactly the
declared ones, the writer version apart.
-/
namespace GwzCore.Merge

open Checks

inductive ParticipantField where
  | pendingAction | outcome | error | preservation | drift
  deriving DecidableEq

inductive PublicationField where
  | decision | candidate | evidence | step | preservation | evidenceRollback
  deriving DecidableEq

inductive KnownField where
  | writerVersion
  | operationState
  | recoveryContext
  | acceptance
  | pendingRollback
  | pendingPreservation
  | preservationPublicationHandoff
  | participant (memberId : String) (field : ParticipantField)
  | publication (field : PublicationField)
  | operationDrift
  deriving DecidableEq

/-- The fields marked as changed. -/
def changedFields (marks : List (Bool × KnownField)) : Finset KnownField :=
  ((marks.filter (·.1)).map (·.2)).toFinset

lemma mem_changedFields {marks : List (Bool × KnownField)} {field : KnownField} :
    field ∈ changedFields marks ↔ (true, field) ∈ marks := by
  simp [changedFields]

/-! ## The computed difference -/

section

variable (old new : MergeOperationRecordV1)

/-- What no transition may change. -/
def sameImmutableData : Bool :=
  old.schema == new.schema && old.recordSchemaVersion == new.recordSchemaVersion
    && old.workspaceId == new.workspaceId && old.mergeId == new.mergeId
    && old.operationId == new.operationId && old.sourceRef == new.sourceRef
    && old.mode == new.mode && old.createdAt == new.createdAt && old.baseline == new.baseline
    && old.selectedTargets == new.selectedTargets && old.extensions == new.extensions
    && old.participants.keys == new.participants.keys

def operationMarks : List (Bool × KnownField) :=
  [(old.writerVersion != new.writerVersion, .writerVersion),
    (old.state != new.state, .operationState),
    (old.recoveryContext != new.recoveryContext, .recoveryContext),
    (old.acceptedWorkspace != new.acceptedWorkspace, .acceptance),
    (old.pendingRollback != new.pendingRollback, .pendingRollback),
    (old.pendingPreservation != new.pendingPreservation, .pendingPreservation),
    (old.operationDrift != new.operationDrift, .operationDrift)]

end

/-- What no transition may change in a row. -/
def sameImmutableRow (before after : MergeParticipantRecord) : Bool :=
  before.path == after.path && before.targetKind == after.targetKind
    && before.targetBranch == after.targetBranch && before.beforeCommit == after.beforeCommit
    && before.sourceCommit == after.sourceCommit && before.commitMessage == after.commitMessage
    && before.extensions == after.extensions

def outcomeDiffers (before after : MergeParticipantRecord) : Bool :=
  before.state != after.state || before.resultingCommit != after.resultingCommit
    || before.expectedMergeHead != after.expectedMergeHead
    || before.conflictPaths != after.conflictPaths
    || before.conflictSnapshot != after.conflictSnapshot

def rowMarks (memberId : String) (before after : MergeParticipantRecord) :
    List (Bool × KnownField) :=
  [(before.pendingAction != after.pendingAction, .participant memberId .pendingAction),
    (outcomeDiffers before after, .participant memberId .outcome),
    (before.error != after.error, .participant memberId .error),
    (before.preservation != after.preservation, .participant memberId .preservation),
    (before.drift != after.drift, .participant memberId .drift)]

/-- The marks of the rows, which both records have under the same keys. -/
def rowsMarks (new : MergeOperationRecordV1) :
    List (String × MergeParticipantRecord) → ModelResult (List (Bool × KnownField))
  | [] => .ok []
  | (memberId, before) :: rest => do
    let after ← orRefuse new.participants[memberId]? (effectError "immutable record data changed")
    require (sameImmutableRow before after) (effectError "immutable participant data changed")
    let later ← rowsMarks new rest
    .ok (rowMarks memberId before after ++ later)

def publicationMarks : Option PublicationProgress → Option PublicationProgress →
    List (Bool × KnownField)
  | none, none => []
  | some before, some after =>
    [(before.step != after.step, .publication .step),
      (before.candidate != after.candidate
        || before.candidateMarkerPath != after.candidateMarkerPath
        || before.candidateLockSha256 != after.candidateLockSha256, .publication .candidate),
      (before.compositionCommit != after.compositionCommit
        || before.compositionTree != after.compositionTree
        || before.rootMergeCommit != after.rootMergeCommit
        || before.candidateHashes != after.candidateHashes, .publication .evidence),
      (before.rootPreservation != after.rootPreservation
        || before.preservationPrefix != after.preservationPrefix, .publication .preservation),
      (before.evidenceRolledBack != after.evidenceRolledBack, .publication .evidenceRollback)]
  | _, _ => [(true, .publication .decision)]

def knownDiff (old new : MergeOperationRecordV1) : ModelResult (Finset KnownField) := do
  require (sameImmutableData old new) (effectError "immutable record data changed")
  let rowMarks ← rowsMarks new old.participants.toList
  .ok (changedFields
    (operationMarks old new ++ rowMarks ++ publicationMarks old.publication new.publication))

/-- The difference a footprint is compared with: the known one and the handoff, without the
writer version. -/
def actualDiff (old new : MergeOperationRecordV1) : ModelResult (Finset KnownField) := do
  let known ← knownDiff old new
  let handoff := changedFields
    [(old.preservationPublicationHandoff != new.preservationPublicationHandoff,
      .preservationPublicationHandoff)]
  .ok ((known ∪ handoff).erase .writerVersion)

/-! ## The declared difference -/

def preservationOwnerField : PreservationOwnerV1 → KnownField
  | .participant memberId => .participant memberId .preservation
  | .publicationRoot => .publication .preservation

def PendingPreservationActionV1.isOf (action : PendingPreservationActionV1)
    (kind : PreservationAction) (owner : PreservationOwnerV1) : Bool :=
  action.kind == kind && action.owner == owner

def preservationShapeIsValid (kind : EffectKind) (owner : PreservationOwnerV1)
    (before after : Option PendingPreservationActionV1) : Bool :=
  match kind with
  | .beginBackupRef => before.isNone && after.any (·.isOf .backup owner)
  | .finishBackupRef => before.any (·.isOf .backup owner) && after.isNone
  | .beginStash => before.isNone && after.any (·.isOf .stash owner)
  | .advanceStash => before.any (·.isOf .stash owner) && after.any (·.isOf .stash owner)
  | .finishStash => before.any (fun action => action.isOf .stash owner
      && action.position == .stash .complete) && after.isNone
  | .beginResetAttachedRef => before.isNone && after.any (·.isOf .reset owner)
  | .advanceResetAttachedRef =>
    before.any (·.isOf .reset owner) && after.any (·.isOf .reset owner)
  | .finishResetAttachedRef => before.any (fun action => action.isOf .reset owner
      && action.position == .resetAttachedRef .complete) && after.isNone
  | .recordArtifactNoop | .recordResetNoop => before.isNone && after.isNone
  | _ => false

/-- The fields of a preservation effect: its journal, its owner's evidence row, or both. -/
def preservationFields (kind : EffectKind) (owner : PreservationOwnerV1)
    (before : Option PendingPreservationActionV1) : Finset KnownField :=
  match kind with
  | .recordArtifactNoop | .recordResetNoop => {preservationOwnerField owner}
  | .finishBackupRef | .finishResetAttachedRef =>
    {.pendingPreservation, preservationOwnerField owner}
  | .advanceStash =>
    if before.any (·.position == .stash .createStash) then
      {.pendingPreservation, preservationOwnerField owner}
    else {.pendingPreservation}
  | _ => {.pendingPreservation}

section

variable (old new : MergeOperationRecordV1)

def preservationDiff (kind : EffectKind) (owner : PreservationOwnerV1) :
    ModelResult (Finset KnownField) := do
  require (preservationShapeIsValid kind owner old.pendingPreservation new.pendingPreservation)
    (effectError "preservation effect does not match its typed owner or phase")
  .ok (preservationFields kind owner old.pendingPreservation)

/-- The error of a row may only be cleared; the field it then adds. -/
def errorRetirement (before after : MergeParticipantRecord) (memberId what : String) :
    ModelResult (Finset KnownField) :=
  if before.error == after.error then .ok ∅
  else if before.error.isSome && after.error.isNone then .ok {.participant memberId .error}
  else .error (effectError
    ("participant " ++ what ++ " may only clear the participant's existing error"))

def participantResultFields (memberId : String) : Finset KnownField :=
  {.participant memberId .pendingAction, .participant memberId .outcome}
    ∪ (if old.state != new.state then {.operationState} else ∅)

def participantResultWithErrorRetirement (memberId : String) :
    ModelResult (Finset KnownField) := do
  let before ← orRefuse old.participants[memberId]? badSubject
  let after ← orRefuse new.participants[memberId]? badSubject
  let error ← errorRetirement before after memberId "outcome"
  .ok (participantResultFields old new memberId ∪ error)

def rollbackParticipantResult (memberId : String) : ModelResult (Finset KnownField) := do
  let before ← orRefuse old.participants[memberId]? badSubject
  let after ← orRefuse new.participants[memberId]? badSubject
  let error ← errorRetirement before after memberId "rollback"
  .ok ({.pendingRollback, .participant memberId .outcome} ∪ error)

def failureFields (primaryMemberId : String) (laterUnattempted : List String)
    (allowOutcome : Bool) : ModelResult (Finset KnownField) := do
  let before ← orRefuse old.participants[primaryMemberId]? badSubject
  let after ← orRefuse new.participants[primaryMemberId]? badSubject
  require (allowOutcome || !outcomeDiffers before after)
    (effectError "owned resolution failure may not change participant outcome fields")
  .ok (changedFields [(true, .operationState),
      (before.error != after.error, .participant primaryMemberId .error),
      (outcomeDiffers before after, .participant primaryMemberId .outcome)]
    ∪ (laterUnattempted.map fun member => .participant member .outcome).toFinset)

def expectedDiff (effect : TransitionEffect) : ModelResult (Finset KnownField) :=
  match effect.kind, effect.subject with
  | .beginExecution, .none | .awaitResolution, .none | .halt, .none | .enterFinalizing, .none
  | .beginRollback, .none | .completeOperation, .none | .abortOperation, .none =>
    .ok {.operationState}
  | .beginPreservation, .none => .ok {.operationState, .preservationPublicationHandoff}
  | .prepareParticipant, .participant memberId => .ok {.participant memberId .pendingAction}
  | .recordParticipantOutcome, .participant memberId
  | .recordHaltedOutcomeAndResumeExecution, .participant memberId
  | .recordHaltedOutcomeAndBeginRollback, .participant memberId =>
    participantResultWithErrorRetirement old new memberId
  | .recordHaltedOutcomeAndBeginPreservation, .participant memberId => do
    let fields ← participantResultWithErrorRetirement old new memberId
    .ok (insert .preservationPublicationHandoff fields)
  | .abandonNotStartedAndBeginRollback, .participant memberId =>
    .ok {.participant memberId .pendingAction, .operationState}
  | .abandonNotStartedAndBeginPreservation, .participant memberId =>
    .ok {.participant memberId .pendingAction, .operationState, .preservationPublicationHandoff}
  | .recordPreparationFailureAndHalt, .failure primary later
  | .recordOwnedRetryFailureAndHalt, .failure primary later =>
    failureFields old new primary later true
  | .recordOwnedResolutionFailureAndHalt, .failure primary later =>
    failureFields old new primary later false
  | .recordNoMutationAbort, .participant memberId => .ok {.participant memberId .outcome}
  | .freezeAcceptance, .none => .ok {.acceptance}
  | .classifyPublicationRequired, .none | .classifyNoPublication, .none =>
    .ok {.publication .decision}
  | .beginMigratedValidation, .none | .classifyMigratedPublicationRequired, .none
  | .classifyMigratedNoPublication, .none | .beginEvidence, .none
  | .beginCandidatePublication, .none | .recordCandidatePublished, .none
  | .recordPublicationVerified, .none => .ok {.publication .step}
  | .recordCandidate, .none => .ok {.publication .candidate}
  | .recordEvidence, .none => .ok {.publication .evidence}
  | .enterRecovery, .none | .resumeRecovery, .none => .ok {.operationState, .recoveryContext}
  | .beginBackupRef, .preservation owner | .finishBackupRef, .preservation owner
  | .beginStash, .preservation owner | .advanceStash, .preservation owner
  | .finishStash, .preservation owner | .beginResetAttachedRef, .preservation owner
  | .advanceResetAttachedRef, .preservation owner | .finishResetAttachedRef, .preservation owner
  | .recordArtifactNoop, .preservation owner | .recordResetNoop, .preservation owner =>
    preservationDiff old new effect.kind owner
  | .beginParticipantRollback, .participant _ | .beginEvidenceRollback, .none
  | .advanceEvidenceRollback, .none | .beginSelectedRootRollback, .none
  | .advanceSelectedRootRollback, .none | .finishSelectedRootRollback, .none =>
    .ok {.pendingRollback}
  | .finishParticipantRollback, .participant memberId => rollbackParticipantResult old new memberId
  | .finishEvidenceRollback, .none => .ok {.pendingRollback, .publication .evidenceRollback}
  | .recordParticipantDrift, .participantDrift memberId _
  | .clearParticipantDrift, .participantDrift memberId _ => .ok {.participant memberId .drift}
  | .recordOperationDrift, .operationDrift _ | .clearOperationDrift, .operationDrift _ =>
    .ok {.operationDrift}
  | _, _ => .error badSubject

/-- The refusal of a footprint; the two sets it would print are left out. -/
def footprintMismatch : ModelError := effectError "transition effect mismatch"

def verifyFootprint (effect : TransitionEffect) : ModelResult Unit := do
  let actual ← actualDiff old new
  let expected ← expectedDiff old new effect
  require (actual == expected) footprintMismatch

def verifyKnownDiff (effect : TransitionEffect) : ModelResult Unit := do
  require (new.writerVersion == packageVersion)
    (effectError "transition did not install the current writer version")
  verifyFootprint old new effect

end

/-! ## Prepared rewrites -/

structure PreparedV1Rewrite where
  baseDigest : RecordDigest
  next : MergeOperationRecordV1
  effect : TransitionEffect
  deriving DecidableEq

def transitionError (detail : String) : ModelError :=
  ⟨.mergeRecoveryRequired, "v1 transition rejected: " ++ detail⟩

def prepare {env : Artifacts} (lease : V1MutationLease) (current : StoredV1Record env)
    (transition : V1Transition) : ModelResult PreparedV1Rewrite := do
  require (lease.covers current.location)
    (transitionError "mutation lease does not cover the checked record")
  let next ← applyTransition current transition
  verifyKnownDiff current.record next transition.effect
  .ok ⟨current.sourceDigest, next, transition.effect⟩

end GwzCore.Merge
