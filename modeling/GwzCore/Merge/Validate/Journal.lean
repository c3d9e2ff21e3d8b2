import GwzCore.Merge.Validate.Acceptance

/-!
# The journals of reverse work

A record in recovery names the state it was interrupted in, and that state must be the one
its rows, journals and publication determine. A pending rollback must be the one the
rollback cursor stands at. A pending preservation must fit the evidence row of its owner.
The six groups of checks together are `validateV1Record`.
-/
namespace GwzCore.Merge

open Checks

variable (env : Artifacts) (record : MergeOperationRecordV1)

/-! ## Recovery -/

def recoveryError : ModelError :=
  typedError record .recoveryEvidenceMismatch "recovery evidence is invalid"
    "recovery evidence does not match any legal origin"

def rollbackError : ModelError :=
  typedError record .rollbackEvidenceMismatch "rollback evidence is invalid"
    "rollback evidence has no unique owner or action step"

def rollbackResultError : ModelError :=
  typedError record .rollbackEvidenceMismatch "rollback evidence is invalid"
    "participant, evidence, or selected-root rollback result is not exact"

/-- The operation can be finalized: it is finalizing or completed, in recovery or not. -/
def finalizationNextActionIsOk : Bool :=
  let state := if record.state == .recoveryRequired
      && record.recoveryContext.any (·.originState == .finalizing) then .finalizing
    else record.state
  state == .completed || state == .finalizing

def finalizationResumeIsUnique : Bool :=
  let basePhaseIsExact := match record.publication with
    | none => true
    | some publication =>
      if publication.candidate.isNone then
        match publication.step with
        | .notStarted | .validatingResults | .preparingCandidate | .complete => true
        | _ => false
      else if publication.compositionCommit.isNone then
        match publication.step with
        | .preparingCandidate | .committingEvidence => true
        | _ => false
      else
        match publication.step with
        | .committingEvidence | .publishingCandidate | .verifyingPublication | .complete => true
        | _ => false
  basePhaseIsExact && finalizationNextActionIsOk record

/-- The state an interrupted operation was in, as the rest of its record determines it. -/
def derivedOrigin : Option RecoveryOriginStateV1 :=
  if record.pendingPreservation.isSome then some .preserving
  else if record.pendingRollback.isSome then some .rollingBack
  else if (rows record).any (·.isHaltCause) then some .halted
  else if (rows record).any (·.pendingAction.isSome) then some .executing
  else if (rows record).any (·.state == .conflicted) then some .awaitingResolution
  else if record.acceptedWorkspace.isSome || record.publication.isSome
      || (!(rows record).isEmpty && (rows record).all (·.state.isSuccessful)) then
    if finalizationResumeIsUnique record then some .finalizing else none
  else some .executing

def validateRecoveryContext : ModelResult Unit :=
  match record.state, record.recoveryContext with
  | .recoveryRequired, some context =>
    require (derivedOrigin record == some context.originState) (recoveryError record)
  | .recoveryRequired, none => .error (recoveryError record)
  | _, none => .ok ()
  | _, some _ => .error (recoveryError record)

def pendingIsAllowed : Bool :=
  match record.state with
  | .rollingBack => record.pendingPreservation.isNone && record.recoveryContext.isNone
  | .preserving => record.pendingRollback.isNone && record.recoveryContext.isNone
  | .recoveryRequired => record.recoveryContext.any fun context =>
    match context.originState with
    | .rollingBack => record.pendingRollback.isSome && record.pendingPreservation.isNone
    | .preserving => record.pendingPreservation.isSome && record.pendingRollback.isNone
    | _ => record.pendingRollback.isNone && record.pendingPreservation.isNone
  | _ => record.pendingRollback.isNone && record.pendingPreservation.isNone

def validatePendingLegality : ModelResult Unit := do
  require (!(record.pendingRollback.isSome && record.pendingPreservation.isSome))
    (recoveryError record)
  require (pendingIsAllowed record) (recoveryError record)

/-! ## Rollback -/

inductive RollbackCursor where
  | publicationEvidence
  | participant (memberId : String) (action : ParticipantRollbackKindV1)
      (terminalState : ParticipantState)
  | noMutationParticipant (memberId : String)
  | selectedRootMetadata
  | complete
  deriving DecidableEq

/-- The evidence of a publication that has not been rolled back yet. -/
def evidenceOutstanding : Bool :=
  record.publication.any fun publication =>
    publication.candidate.isSome && publication.compositionCommit.isSome
      && !publication.evidenceRolledBack

/-- What a row still needs before it is terminal. -/
def participantCursor (memberId : String) : ParticipantState → Option RollbackCursor
  | .conflicted => some (.participant memberId .abortConflict .aborted)
  | .fastForwarded | .merged | .continued =>
    some (.participant memberId .resetIntegrated .rolledBack)
  | .planned | .upToDate | .failed | .unattempted => some (.noMutationParticipant memberId)
  | .aborted | .rolledBack => none

def rollbackCursorAt (memberId : String) : Option RollbackCursor :=
  match record.participants[memberId]? with
  | none => some (.noMutationParticipant memberId)
  | some participant => participantCursor memberId participant.state

def rollbackCursor : RollbackCursor :=
  if evidenceOutstanding record then .publicationEvidence
  else match record.selectedTargets.reverse.findSome? (rollbackCursorAt record) with
    | some cursor => cursor
    | none =>
      if record.selectedTargets.contains "@root" then .selectedRootMetadata else .complete

def PendingRollbackActionV1.standsAt : PendingRollbackActionV1 → RollbackCursor → Bool
  | .participant memberId action terminalState, cursor =>
    cursor == .participant memberId action terminalState
  | .publicationEvidence _, cursor => cursor == .publicationEvidence
  | .selectedRootMetadata _, cursor => cursor == .selectedRootMetadata

def participantRollbackIsValid (memberId : String) (action : ParticipantRollbackKindV1)
    (terminalState : ParticipantState) : Bool :=
  match record.participants[memberId]? with
  | none => false
  | some participant =>
    match action with
    | .abortConflict => terminalState == .aborted && participant.state == .conflicted
    | .resetIntegrated => terminalState == .rolledBack
        && (participant.state == .fastForwarded || participant.state == .merged
          || participant.state == .continued)
        && participant.resultingCommit.isSome

/-- Complete evidence, not rolled back, at a step that owns it. -/
def evidenceRollbackIsExact (publication : PublicationProgress) : Bool :=
  publication.candidate.isSome && compositionIsComplete publication
    && !publication.evidenceRolledBack
    && (publication.step == .committingEvidence || publication.step == .publishingCandidate
      || publication.step == .verifyingPublication || publication.step == .complete)

def rootMetadataRollbackIsExact : Bool :=
  record.selectedTargets.contains "@root" && record.participants.contains "@root"
    && record.acceptedWorkspace.all (fun accepted =>
      match accepted.metadataBase.source with
      | .selectedRootResult _ => true
      | .operationBaseline => false)
    && baselineIsExact env record
    && record.publication.all (fun publication =>
      publication.candidate.isNone || publication.evidenceRolledBack)

def validateRollback (action : PendingRollbackActionV1) : ModelResult Unit := do
  require (action.standsAt (rollbackCursor record)) (rollbackError record)
  match action with
  | .participant memberId action terminalState =>
    require (participantRollbackIsValid record memberId action terminalState)
      (rollbackError record)
  | .publicationEvidence _ =>
    match record.publication with
    | none => .error (rollbackError record)
    | some publication =>
      require (evidenceRollbackIsExact publication) (rollbackResultError record)
  | .selectedRootMetadata _ =>
    require (rootMetadataRollbackIsExact env record) (rollbackResultError record)

/-! ## Preservation -/

def preservationTypedError (reason : String) : ModelError :=
  typedError record .preservationEvidenceMismatch "preservation evidence is invalid" reason

def preservationError : ModelError :=
  preservationTypedError record "preservation evidence has no unique owner or action step"

def preservationExactnessError : ModelError :=
  preservationTypedError record
    "preservation ref, stash, root handoff, bundle, or branch result is not exact"

/-- The operation is in the given reverse state, or in recovery from it. -/
def isEffectively (origin : RecoveryOriginStateV1) : Bool :=
  record.state == origin.operationState
    || (record.state == .recoveryRequired && record.recoveryContext.any (·.originState == origin))

def handoffIsRequired : Bool := isEffectively record .preserving

def handoffIsPermitted : Bool :=
  handoffIsRequired record || isEffectively record .rollingBack || record.state == .aborted

def validateDurableHandoff : ModelResult Unit :=
  match record.preservationPublicationHandoff with
  | none => require (!handoffIsRequired record) (preservationExactnessError record)
  | some handoff =>
    require (handoffIsPermitted record && preservationHandoffIsCompatible record handoff)
      (preservationExactnessError record)

def PreservationOwnerV1.isRoot : PreservationOwnerV1 → Bool
  | .participant memberId => memberId == "@root"
  | .publicationRoot => true

def PreservationOwnerV1.key : PreservationOwnerV1 → String
  | .participant memberId => if memberId == "@root" then "root" else memberId
  | .publicationRoot => "root"

def compositionCommit : Option String := record.publication.bind (·.compositionCommit)

def participantResult (memberId : String) : Option String :=
  record.participants[memberId]?.bind (·.resultingCommit)

def ownerAnchor : PreservationOwnerV1 → Option String
  | .participant memberId =>
    if memberId == "@root" then (compositionCommit record).or (participantResult record memberId)
    else participantResult record memberId
  | .publicationRoot => compositionCommit record

def ownerBranch : PreservationOwnerV1 → Option String
  | .participant memberId => record.participants[memberId]?.map (·.targetBranch)
  | .publicationRoot => (record.publication.bind (·.candidate)).map (·.rootBranch)

def ownerIsValid (owner : PreservationOwnerV1) : Bool :=
  (ownerAnchor record owner).isSome
    && match owner with
      | .participant memberId => record.participants.contains memberId
      | .publicationRoot => !record.participants.contains "@root"
          && (record.publication.bind (·.candidate)).isSome

/-- The evidence rows of an owner. -/
def ownerRows : PreservationOwnerV1 → Option (List PreservationEvidence)
  | .participant memberId => record.participants[memberId]?.map (·.preservation)
  | .publicationRoot => record.publication.map (·.rootPreservation)

def ownerEvidence (owner : PreservationOwnerV1) : Option PreservationEvidence :=
  match ownerRows record owner with
  | some [row] => some row
  | _ => none

def canonicalRef (owner : PreservationOwnerV1) : String :=
  "refs/gwz/merge/" ++ record.mergeId ++ "/" ++ owner.key ++ "/head"

def stashIdentity : String := "stash_" ++ record.mergeId

def recordedBackupTarget (owner : PreservationOwnerV1) : Option String :=
  match ownerEvidence record owner with
  | none => none
  | some row => if row.backupRef == some (canonicalRef record owner) then row.backupCommit else none

def expectedRootHandoff (owner : PreservationOwnerV1) :
    Option PreservationPublicationCandidateV1 :=
  if owner.isRoot then record.preservationPublicationHandoff.bind (·.candidatePair) else none

def hasNoopMarker (owner : PreservationOwnerV1) : Bool :=
  (ownerEvidence record owner).any (·.noopCommit.isSome)

/-- Whether the row carries a backup pair; a pair that is not the owner's is refused. -/
def backupPair (owner : PreservationOwnerV1) (evidence : PreservationEvidence) :
    ModelResult Bool :=
  match evidence.backupRef, evidence.backupCommit with
  | none, none => .ok false
  | some name, some commit =>
    if name == canonicalRef record owner && isOid commit && (ownerAnchor record owner).isSome then
      .ok true
    else .error (preservationExactnessError record)
  | _, _ => .error (preservationExactnessError record)

/-- Whether the row carries a stash pair; a pair that is not the merge's is refused. -/
def stashPair (evidence : PreservationEvidence) : ModelResult Bool :=
  match evidence.stashId, evidence.stashObjectId with
  | none, none => .ok false
  | some stashId, some objectId =>
    if stashId == stashIdentity record && isOid objectId then .ok true
    else .error (preservationExactnessError record)
  | _, _ => .error (preservationExactnessError record)

def markersAreExact (owner : PreservationOwnerV1) (evidence : PreservationEvidence)
    (backup stash : Bool) : Bool :=
  -- a stash contradicts that no artifact was needed
  !(stash && evidence.noopCommit.isSome)
    -- a reset needs the artifact pass complete on its own row
    && !(evidence.resetCommit.isSome && !(evidence.noopCommit.isSome || stash))
    && evidence.noopCommit.all (fun noop => isOid noop
      && some noop == (if backup then evidence.backupCommit else ownerAnchor record owner))
    && evidence.resetCommit.all fun reset => isOid reset && some reset == ownerAnchor record owner

def validateOwnerEvidence (owner : PreservationOwnerV1) (evidence : List PreservationEvidence) :
    ModelResult Unit :=
  match evidence with
  | [] => .ok ()
  | [row] => do
    require (ownerIsValid record owner) (preservationError record)
    let backup ← backupPair record owner row
    let stash ← stashPair record row
    require (backup || stash || row.noopCommit.isSome || row.resetCommit.isSome)
      (preservationExactnessError record)
    require (markersAreExact record owner row backup stash) (preservationExactnessError record)
  | _ => .error (preservationError record)

def rootEvidence : List PreservationEvidence :=
  (record.publication.map (·.rootPreservation)).getD []

def validateAllEvidence : ModelResult Unit := do
  checkAll (fun row => validateOwnerEvidence record (.participant row.1) row.2.preservation)
    record.participants.toList
  validateOwnerEvidence record .publicationRoot (rootEvidence record)
  require (!(record.participants["@root"]?.any (!·.preservation.isEmpty)
      && !(rootEvidence record).isEmpty)) (preservationError record)

def stashPhaseIsValid (owner : PreservationOwnerV1) (phase : PreservationStashPhaseV1)
    (stashId : Option String) (stashObjectId : Option GitObjectIdV1)
    (rootHandoff : Option PreservationPublicationCandidateV1) : Bool :=
  let idsAbsent := stashId.isNone && stashObjectId.isNone
  let idsPresent := stashId == some (stashIdentity record) && stashObjectId.isSome
  let recorded := ownerEvidence record owner
  let recordedIdsAbsent := recorded.all fun evidence =>
    evidence.stashId.isNone && evidence.stashObjectId.isNone
  let recordedIdsMatch := recorded.any fun evidence =>
    evidence.stashId == stashId && evidence.stashObjectId == stashObjectId.map (·.digestHex)
  match phase with
  | .normalizeParent | .normalizeMarker | .normalizeLock | .normalizeIndex =>
    rootHandoff.isSome && idsAbsent && recordedIdsAbsent
  | .createStash => idsAbsent && recordedIdsAbsent
  | .restoreIndex | .restoreLock | .restoreParent | .restoreMarker =>
    rootHandoff.isSome && idsPresent && recordedIdsMatch
  | .writeBundle | .complete => idsPresent && recordedIdsMatch

def resetPhaseIsValid (phase : PreservationRefResetPhaseV1)
    (rootHandoff : Option PreservationPublicationCandidateV1) : Bool :=
  match phase with
  | .resetRef | .complete => true
  | .prepareParent | .prepareMarker | .prepareLock | .prepareIndex | .restoreIndex | .restoreLock
  | .restoreParent | .restoreMarker => rootHandoff.isSome

def validatePreservationAction (action : PendingPreservationActionV1) : ModelResult Unit :=
  match action with
  | .backupRef owner name targetCommit =>
    require (ownerIsValid record owner && name == canonicalRef record owner && isOid targetCommit
        && (ownerAnchor record owner).isSome && (recordedBackupTarget record owner).isNone
        && !hasNoopMarker record owner) (preservationError record)
  | .stash owner phase stashId stashObjectId message headCommit preimageSha256 rootHandoff =>
    require (ownerIsValid record owner && !hasNoopMarker record owner
        && (recordedBackupTarget record owner).or (ownerAnchor record owner) == some headCommit
        && message == "gwz:" ++ stashIdentity record ++ ": merge preservation"
        && isOid headCommit && isSha256 preimageSha256
        && rootHandoff == expectedRootHandoff record owner
        && stashPhaseIsValid record owner phase stashId stashObjectId rootHandoff)
      (preservationExactnessError record)
  | .resetAttachedRef owner branch expectedCommit restoreCommit phase rootHandoff =>
    require (ownerIsValid record owner && ownerBranch record owner == some branch
        && recordedBackupTarget record owner == some expectedCommit
        && ownerAnchor record owner == some restoreCommit
        && rootHandoff == expectedRootHandoff record owner && resetPhaseIsValid phase rootHandoff
        && !(ownerEvidence record owner).any (·.resetCommit.isSome))
      (preservationExactnessError record)

def validateV1Preservation : ModelResult Unit := do
  validateDurableHandoff record
  validateAllEvidence record
  match record.pendingPreservation with
  | none => .ok ()
  | some action => validatePreservationAction record action

def validateV1Journal : ModelResult Unit := do
  validateRecoveryContext record
  validatePendingLegality record
  match record.pendingRollback with
  | none => pure ()
  | some action => validateRollback env record action
  validateV1Preservation record

/-! ## The whole record -/

def validateV1Record : ModelResult Unit := do
  validateCommonV1Record env record
  validateV1Actions record
  validateV1Lifecycle record
  validateV1Acceptance env record
  validateV1Publication env record
  validateV1Journal env record

end GwzCore.Merge
