import GwzCore.Merge.Validate.Common

/-!
# The accepted workspace and its publication

Once every row is integrated the record freezes the workspace it accepts and then
publishes it. The checks here tie the accepted workspace to the baseline and to the rows'
results, the publication candidate to the accepted workspace, and the progress of the
publication to the evidence recorded for it.
-/
namespace GwzCore.Merge

open Checks

variable (env : Artifacts) (record : MergeOperationRecordV1)

/-! ## Errors -/

def typedError (code : ErrorCode) (what reason : String) : ModelError :=
  ⟨code, "merge record '" ++ record.mergeId ++ "' " ++ what ++ ": " ++ reason⟩

def unexpectedAcceptance (reason : String) : ModelError :=
  typedError record .unexpectedAcceptanceEvidence "has unexpected acceptance evidence" reason

def acceptanceInputError : ModelError :=
  typedError record .acceptanceInputDrift "acceptance input changed"
    "the accepted metadata base cannot be verified from its recorded source"

def selectedResultError : ModelError :=
  typedError record .acceptanceInputDrift "acceptance input changed"
    "a selected participant result no longer matches its durable result"

def candidateBytesError : ModelError :=
  typedError record .candidateIntegrityMismatch "candidate integrity check failed"
    "candidate bytes or digest do not match accepted workspace"

def candidateProgressError : ModelError :=
  typedError record .candidateIntegrityMismatch "candidate integrity check failed"
    "candidate cross-field identity or hash validation failed"

def recordedEvidenceError : ModelError :=
  typedError record .recordedEvidenceDrift "recorded evidence changed"
    "recorded composition commit, tree, parent, message, files, or hashes changed"

def unexpectedPublication : ModelError :=
  typedError record .unexpectedPublicationEvidence "has unexpected publication evidence"
    ("no-publication completion contains candidate, composition, hash, or published-prefix "
      ++ "evidence")

def terminalError : ModelError :=
  typedError record .terminalEvidenceMismatch "terminal evidence is invalid"
    "completed record is not published or no-publication-complete"

def terminalRollbackError : ModelError :=
  typedError record .terminalRollbackMismatch "terminal rollback evidence is invalid"
    "aborted record retains an incomplete or contradictory rollback action"

/-! ## Candidate semantics -/

/-- The row's recorded result is not the commit it started from. -/
def MergeParticipantRecord.changed (participant : MergeParticipantRecord) : Bool :=
  participant.resultingCommit.any (· != participant.beforeCommit)

def publicationRequired : Bool := (rows record).any (·.changed)

def selectedRoot : Option MergeParticipantRecord :=
  if record.selectedTargets.contains "@root" then record.participants["@root"]? else none

def selectedRootResult : Option String := (selectedRoot record).bind (·.resultingCommit)

def acceptedResult (target : String) : ModelResult String :=
  match record.acceptedWorkspace with
  | none => .error (candidateBytesError record)
  | some accepted =>
    if target == "@root" then
      match accepted.metadataBase.source with
      | .selectedRootResult commit => .ok commit
      | .operationBaseline => .error (candidateBytesError record)
    else
      match accepted.memberAudit[target]? with
      | some (.selected integration _ _) => .ok integration.resultingCommit
      | _ => .error (candidateBytesError record)

/-- The selected targets whose accepted result is not the commit they started from. -/
def changedTargets : List String → ModelResult (List String)
  | [] => .ok []
  | target :: rest => do
    let row ← orRefuse record.participants[target]? (candidateBytesError record)
    let result ← acceptedResult record target
    let later ← changedTargets rest
    .ok (if result != row.beforeCommit then target :: later else later)

def withRoot (targets : List String) : List String :=
  if targets.contains "@root" then targets else targets ++ ["@root"]

def markerRowIsExact (merge : MarkerMergeArtifact) (target : String) : Bool :=
  match record.participants[target]?, acceptedResult record target, merge.participants[target]? with
  | some durable, .ok result, some row =>
    row.targetKind == (if target == "@root" then .root else .member)
      && row.targetBranch == durable.targetBranch && row.beforeCommit == durable.beforeCommit
      && row.sourceCommit == durable.sourceCommit && row.resultingCommit == result
  | _, _, _ => false

/-- The accepted result of the root, when the root is a selected target. -/
def markerRootResult : Option String :=
  if record.selectedTargets.contains "@root" then (acceptedResult record "@root").toOption
  else none

def markerMergeIsExact (marker : MarkerArtifact) : Bool :=
  match marker.merge with
  | none => false
  | some merge =>
    merge.mergeId == record.mergeId && merge.operationId == record.operationId
      && merge.sourceRef == record.sourceRef && merge.selectedTargets == record.selectedTargets
      && merge.participants.size == record.selectedTargets.length
      && record.selectedTargets.all (markerRowIsExact record merge)
      && merge.rootMergeCommit == markerRootResult record

def AcceptedRootBaseV1.commit? : AcceptedRootBaseV1 → Option String
  | .bornAttached commit _ => some commit
  | .bornDetached commit => some commit
  | .unbornAttached _ => none

def compositionIsComplete (publication : PublicationProgress) : Bool :=
  publication.compositionCommit.isSome && publication.compositionTree.isSome
    && !publication.candidateHashes.isEmpty

def compositionIsAbsent (publication : PublicationProgress) : Bool :=
  publication.compositionCommit.isNone && publication.compositionTree.isNone
    && publication.candidateHashes.isEmpty

/-- The digests a candidate carries are those of its bytes. -/
def candidateDigestsAreExact (publication : PublicationProgress)
    (candidate : PublicationCandidate) : Bool :=
  publication.candidateLockSha256 == some (env.digest candidate.lockYaml)
    && publication.candidateMarkerPath == some (markerDir ++ "/" ++ candidate.markerId ++ ".yaml")
    && publication.rootMergeCommit ==
      (if compositionIsComplete publication then selectedRootResult record else none)
    && ((selectedRootResult record).isSome
      || env.digest candidate.baselineLockYaml == record.baseline.lockSha256)
    && candidate.baselineBoundarySha256 == env.digest candidate.baselineBoundaryText
    && candidate.markerSha256 == env.digest candidate.markerYaml
    && candidate.boundarySha256 == env.digest candidate.boundaryText
    && record.acceptedWorkspace.bind (·.root.publicationBranch) == some candidate.rootBranch

def markerIsExact (candidate : PublicationCandidate) (accepted : AcceptedWorkspaceV1)
    (committedTargets : List String) (baselineLock lock : LockArtifact) (marker : MarkerArtifact) :
    Bool :=
  candidate.baselineLockYaml == accepted.metadataBase.lockExactYaml
    && candidate.lockYaml == accepted.lock.exactYaml
    && baselineLock.workspaceId == record.workspaceId
    && lock.workspaceId == record.workspaceId
    && marker.workspaceId == record.workspaceId
    && marker.gwzCommitId == candidate.markerId
    && marker.originUrlHash.isNone
    && marker.createdAt == record.createdAt
    && marker.createdByActorId == candidate.actorId
    && marker.root.path == "."
    && marker.root.beforeCommit == accepted.root.base.commit?
    && marker.root.branch == some candidate.rootBranch
    && marker.selectedTargets == record.selectedTargets
    && marker.committedTargets == committedTargets
    && marker.members == lock.members
    && markerMergeIsExact record marker

def validateCandidateSemantics : ModelResult Unit := do
  let publication ← orRefuse record.publication (candidateBytesError record)
  let candidate ← orRefuse publication.candidate (candidateBytesError record)
  require (candidateDigestsAreExact env record publication candidate) (candidateBytesError record)
  let baselineLock ← orRefuse (env.lock candidate.baselineLockYaml) (candidateBytesError record)
  let lock ← orRefuse (env.lock candidate.lockYaml) (candidateBytesError record)
  let marker ← orRefuse (env.marker candidate.markerYaml) (candidateBytesError record)
  let accepted ← orRefuse record.acceptedWorkspace (candidateBytesError record)
  match candidate.confIntegrity with
  | none => pure ()
  | some integrity => do
    let yaml ← env.confIntegrityForBytes accepted.metadataBase.manifestExactYaml candidate.lockYaml
    require (integrity.yaml == yaml) (candidateBytesError record)
  let committedTargets ← changedTargets record record.selectedTargets
  require (markerIsExact record candidate accepted (withRoot committedTargets) baselineLock lock
    marker) (candidateBytesError record)

/-- Whether a check passes. -/
def passes {α : Type} (result : ModelResult α) : Bool :=
  match result with
  | .ok _ => true
  | .error _ => false

/-! ## The accepted workspace -/

def baselineIsExact : Bool :=
  record.baseline.manifestYaml.any (fun yaml => env.digest yaml == record.baseline.manifestSha256)
    && record.baseline.lockYaml.any fun yaml => env.digest yaml == record.baseline.lockSha256

def validateLifetime : ModelResult Unit := do
  require (!(record.acceptedWorkspace.isSome && (record.state == .executing
      || record.state == .awaitingResolution || record.state == .halted)))
    (unexpectedAcceptance record
      "accepted workspace is present before complete participant validation")
  -- acceptance precedes even an empty progress object
  require (!(record.acceptedWorkspace.isNone && record.publication.isSome))
    (unexpectedAcceptance record "publication evidence exists without accepted workspace")

def validateMetadataSource (accepted : AcceptedWorkspaceV1) : ModelResult Unit :=
  match accepted.metadataBase.source, selectedRoot record with
  | .operationBaseline, none =>
    require (record.baseline.manifestYaml == some accepted.metadataBase.manifestExactYaml
        && record.baseline.lockYaml == some accepted.metadataBase.lockExactYaml
        && record.baseline.manifestSha256 == accepted.metadataBase.manifestSha256
        && record.baseline.lockSha256 == accepted.metadataBase.lockSha256)
      (acceptanceInputError record)
  | .selectedRootResult commit, some root =>
    require (root.resultingCommit == some commit) (selectedResultError record)
  | _, _ => .error (acceptanceInputError record)

def validateMetadataBase (accepted : AcceptedWorkspaceV1) : ModelResult Unit := do
  require (accepted.operationBaselineLockSha256 == record.baseline.lockSha256
      && env.digest accepted.metadataBase.manifestExactYaml == accepted.metadataBase.manifestSha256
      && env.digest accepted.metadataBase.lockExactYaml == accepted.metadataBase.lockSha256)
    (acceptanceInputError record)
  let manifest ← orRefuse (env.manifest accepted.metadataBase.manifestExactYaml)
    (acceptanceInputError record)
  let lock ← orRefuse (env.lock accepted.metadataBase.lockExactYaml) (acceptanceInputError record)
  require (manifest.workspaceId == record.workspaceId && lock.workspaceId == record.workspaceId)
    (acceptanceInputError record)
  validateMetadataSource record accepted

/-- The operation is being rolled back, or has been. -/
def isRollbackLifecycle : Bool :=
  record.state == .rollingBack || record.state == .aborted
    || (record.state == .recoveryRequired
      && record.recoveryContext.any (·.originState == .rollingBack))

def acceptedResultStateIsLegal (participant : MergeParticipantRecord) : Bool :=
  match participant.state with
  | .upToDate => !participant.changed
  | .fastForwarded | .merged | .continued => participant.changed
  | .aborted => isRollbackLifecycle record
      && participant.resultingCommit == some participant.beforeCommit
  | .rolledBack => isRollbackLifecycle record && participant.changed
  | _ => false

def manifestIdentityMatches (manifest : ManifestArtifact) (memberId : String)
    (lockMember : AcceptedLockMemberV1) : Bool :=
  match manifest.members.find? (·.id == memberId) with
  | none => true
  | some member => member.path == lockMember.path && member.sourceId == lockMember.sourceId
      && member.sourceKind == lockMember.sourceKind

def rowIdentityMatches (row : Option AcceptedLockMemberV1) (lockMember : AcceptedLockMemberV1) :
    Bool :=
  match row with
  | none => true
  | some member => member.path == lockMember.path && member.sourceId == lockMember.sourceId
      && member.sourceKind == lockMember.sourceKind

/-- What the audit of the members is compared with. -/
structure AuditInputs where
  manifest : ManifestArtifact
  metadataRows : FiniteMap String AcceptedLockMemberV1
  baselineManifest : ManifestArtifact
  baselineRows : FiniteMap String AcceptedLockMemberV1
  acceptedRows : FiniteMap String AcceptedLockMemberV1

def selectedRowIsExact (participant : MergeParticipantRecord) (inputs : AuditInputs)
    (memberId : String) (integration : AcceptedIntegrationRefV1)
    (finalCheckout : AcceptedAttachedCheckoutV1) (lockMember : AcceptedLockMemberV1) : Bool :=
  (selectedMembers record).contains memberId
    && acceptedResultStateIsLegal record participant
    && integration.branch == participant.targetBranch
    && integration.beforeCommit == participant.beforeCommit
    && participant.resultingCommit == some integration.resultingCommit
    && finalCheckout.branch == integration.branch
    && finalCheckout.commit == integration.resultingCommit
    && inputs.acceptedRows[memberId]? == some lockMember
    && lockMember.path == participant.path
    && lockMember.commit == participant.resultingCommit
    && lockMember.branch == some participant.targetBranch
    && lockMember.detached == some false
    && lockMember.dirty == some false
    && lockMember.materialized == some true

def memberIdentityMatches (inputs : AuditInputs) (memberId : String)
    (lockMember : AcceptedLockMemberV1) : Bool :=
  ((inputs.baselineManifest.members.find? (·.id == memberId)).isSome
      || inputs.baselineRows[memberId]?.isSome)
    && manifestIdentityMatches inputs.baselineManifest memberId lockMember
    && rowIdentityMatches inputs.baselineRows[memberId]? lockMember
    && manifestIdentityMatches inputs.manifest memberId lockMember

def validateMemberAudit (inputs : AuditInputs) (memberId : String) (audit : MemberAcceptanceV1) :
    ModelResult Unit :=
  match audit with
  | .selected integration finalCheckout lockMember => do
    let participant ← orRefuse record.participants[memberId]? (selectedResultError record)
    require (selectedRowIsExact record participant inputs memberId integration finalCheckout
      lockMember) (selectedResultError record)
    require (memberIdentityMatches inputs memberId lockMember) (acceptanceInputError record)
  | .unselectedPresent lockMember =>
    require (!(selectedMembers record).contains memberId
        && inputs.metadataRows[memberId]? == some lockMember
        && inputs.acceptedRows[memberId]? == some lockMember) (acceptanceInputError record)
  | .absent =>
    require (!(selectedMembers record).contains memberId
        && !inputs.acceptedRows.contains memberId && !inputs.metadataRows.contains memberId)
      (acceptanceInputError record)

def sameKeys (left right : List String) : Bool :=
  left.all right.contains && right.all left.contains

def MemberAcceptanceV1.isPresent : MemberAcceptanceV1 → Bool
  | .selected _ _ _ | .unselectedPresent _ => true
  | .absent => false

def validateAudit (accepted : AcceptedWorkspaceV1) (acceptedLock : LockArtifact)
    (acceptedRows : FiniteMap String AcceptedLockMemberV1) : ModelResult Unit := do
  require (acceptedLock.workspaceId == record.workspaceId) (acceptanceInputError record)
  let manifest ← orRefuse (env.manifest accepted.metadataBase.manifestExactYaml)
    (acceptanceInputError record)
  let metadataLock ← orRefuse (env.lock accepted.metadataBase.lockExactYaml)
    (acceptanceInputError record)
  let metadataRows ← orRefuse (env.lockRows accepted.metadataBase.lockExactYaml)
    (acceptanceInputError record)
  let baselineManifestYaml ← orRefuse record.baseline.manifestYaml (acceptanceInputError record)
  let baselineManifest ← orRefuse (env.manifest baselineManifestYaml) (acceptanceInputError record)
  let baselineLockYaml ← orRefuse record.baseline.lockYaml (acceptanceInputError record)
  let baselineRows ← orRefuse (env.lockRows baselineLockYaml) (acceptanceInputError record)
  let domain := metadataLock.members.keys
    ++ (manifest.members.filter (·.active)).map (·.id) ++ selectedMembers record
  require (sameKeys accepted.memberAudit.keys domain) (acceptanceInputError record)
  let inputs : AuditInputs := ⟨manifest, metadataRows, baselineManifest, baselineRows, acceptedRows⟩
  checkAll (fun row => validateMemberAudit record inputs row.1 row.2) accepted.memberAudit.toList
  let expectedLockKeys := (accepted.memberAudit.toList.filter (·.2.isPresent)).map (·.1)
  require (sameKeys acceptedRows.keys expectedLockKeys) (acceptanceInputError record)

def selectedRootBaseIsExact (accepted : AcceptedWorkspaceV1) (root : MergeParticipantRecord) :
    Bool :=
  match accepted.root.base with
  | .bornAttached commit symbolicBranch =>
    some commit == root.resultingCommit && symbolicBranch == root.targetBranch
  | _ => false

def unselectedRootBaseIsExact (accepted : AcceptedWorkspaceV1) : Bool :=
  match accepted.root.base with
  | .bornAttached commit symbolicBranch =>
    record.baseline.rootHead == some commit && record.baseline.rootBranch == some symbolicBranch
      && accepted.root.publicationBranch == some symbolicBranch
  | .bornDetached commit =>
    record.baseline.rootHead == some commit && record.baseline.rootBranch.isNone
      && accepted.root.publicationBranch.isNone && !publicationRequired record
  | .unbornAttached symbolicBranch =>
    record.baseline.rootHead.isNone && record.baseline.rootBranch == some symbolicBranch
      && accepted.root.publicationBranch == some symbolicBranch

def validateRoot (accepted : AcceptedWorkspaceV1) : ModelResult Unit := do
  let hashes := accepted.root.baselineArtifactHashes
  require (hashes.lockWorktreeSha256 == record.baseline.lockSha256
      && hashes.manifestWorktreeSha256 == record.baseline.manifestSha256
      && hashes.lockCommitSha256 == record.baseline.lockCommitSha256
      && hashes.manifestCommitSha256 == record.baseline.manifestCommitSha256)
    (acceptanceInputError record)
  match selectedRoot record with
  | some root =>
    require (acceptedResultStateIsLegal record root && selectedRootBaseIsExact accepted root
        && accepted.root.publicationBranch == some root.targetBranch
        && hashes.lockCommitSha256.isSome && hashes.manifestCommitSha256.isSome)
      (acceptanceInputError record)
  | none => require (unselectedRootBaseIsExact record accepted) (acceptanceInputError record)

def validateCandidate (accepted : AcceptedWorkspaceV1) : ModelResult Unit :=
  match record.publication.bind (·.candidate), record.publication with
  | some candidate, some publication =>
    require (candidate.lockYaml == accepted.lock.exactYaml
        && publication.candidateLockSha256 == some accepted.lock.sha256
        && candidate.baselineLockYaml == accepted.metadataBase.lockExactYaml
        && accepted.root.publicationBranch == some candidate.rootBranch
        && passes (validateCandidateSemantics env record)) (candidateBytesError record)
  | _, _ => .ok ()

def validateV1Acceptance : ModelResult Unit := do
  validateLifetime record
  match record.acceptedWorkspace with
  | none => .ok ()
  | some accepted => do
    require (baselineIsExact env record) (acceptanceInputError record)
    validateMetadataBase env record accepted
    let acceptedLock ← orRefuse (env.lock accepted.lock.exactYaml) (acceptanceInputError record)
    require (env.digest accepted.lock.exactYaml == accepted.lock.sha256)
      (acceptanceInputError record)
    let acceptedRows ← orRefuse (env.lockRows accepted.lock.exactYaml)
      (acceptanceInputError record)
    validateAudit env record accepted acceptedLock acceptedRows
    validateRoot record accepted
    validateCandidate env record accepted

/-! ## The progress of the publication -/

def outputsPresent (publication : PublicationProgress) : Bool :=
  publication.candidateLockSha256.isSome || publication.candidateMarkerPath.isSome
    || publication.rootMergeCommit.isSome || publication.compositionCommit.isSome
    || publication.compositionTree.isSome || !publication.candidateHashes.isEmpty
    || publication.evidenceRolledBack || !publication.rootPreservation.isEmpty
    || publication.preservationPrefix.isSome

/-- The steps a publication without a candidate may be at, by the decision they record. -/
def noCandidateStepIsValid (step : PublicationStep) : Bool :=
  match step with
  | .notStarted | .validatingResults => true
  | .preparingCandidate => publicationRequired record
  | .complete => !publicationRequired record
  | .committingEvidence | .publishingCandidate | .verifyingPublication => false

def validateNoCandidate (publication : PublicationProgress) : ModelResult Unit :=
  require (!outputsPresent publication && noCandidateStepIsValid record publication.step)
    (unexpectedPublication record)

inductive CompositionShape where
  | absent | complete
  deriving DecidableEq

def insertByPath (entry : String × String) : List (String × String) → List (String × String)
  | [] => [entry]
  | head :: rest =>
    if entry.1 < head.1 then entry :: head :: rest else head :: insertByPath entry rest

/-- A stable sort by path. -/
def sortByPath (entries : List (String × String)) : List (String × String) :=
  entries.foldl (fun sorted entry => insertByPath entry sorted) []

def expectedHashes (candidate : PublicationCandidate) (markerPath : String) :
    List (String × String) :=
  let integrity := match candidate.confIntegrity with
    | none => []
    | some integrity => [(confIntegrityMarkerPath, env.digest integrity.yaml)]
  sortByPath ([(lockPath, env.digest candidate.lockYaml),
    (markerPath, env.digest candidate.markerYaml)] ++ integrity)

def candidateHashesAreExact (publication : PublicationProgress) : Bool :=
  match publication.candidate, publication.candidateMarkerPath with
  | some candidate, some markerPath =>
    publication.candidateHashes.map (fun row => (row.path, row.sha256))
      == expectedHashes env candidate markerPath
  | _, _ => false

def compositionShape (publication : PublicationProgress) : ModelResult CompositionShape :=
  if compositionIsAbsent publication then .ok .absent
  else match publication.compositionCommit, publication.compositionTree with
    | some commit, some tree =>
      if isOid commit && isOid tree && candidateHashesAreExact env publication then .ok .complete
      else .error (recordedEvidenceError record)
    | _, _ => .error (recordedEvidenceError record)

def phaseIsValid (step : PublicationStep) (composition : CompositionShape) : Bool :=
  match step with
  | .preparingCandidate => composition == .absent
  | .committingEvidence => true
  | .publishingCandidate | .verifyingPublication | .complete => composition == .complete
  | .notStarted | .validatingResults => false

def validateCandidateProgress (publication : PublicationProgress) : ModelResult Unit := do
  require (publicationRequired record && publication.step != .notStarted
      && publication.step != .validatingResults
      && passes (validateCandidateSemantics env record)) (candidateProgressError record)
  let composition ← compositionShape env record publication
  require (phaseIsValid publication.step composition) (recordedEvidenceError record)

/-- Rolled-back evidence belongs to a rollback that is still under way. -/
def isRollingBack : Bool :=
  record.state == .rollingBack
    || (record.state == .recoveryRequired
      && record.recoveryContext.any (·.originState == .rollingBack))

def completedIsExact (publication : PublicationProgress) : Bool :=
  record.acceptedWorkspace.isSome && publication.step == .complete
    && (if publication.candidate.isSome then !publication.evidenceRolledBack
      else !publicationRequired record)

def validateTerminal (publication : PublicationProgress) : ModelResult Unit := do
  let composition ← compositionShape env record publication
  let completeEvidence := composition == .complete
  require (!(publication.evidenceRolledBack && !completeEvidence)) (recordedEvidenceError record)
  match record.state with
  | .aborted =>
    require (!(publication.candidate.isSome && publication.evidenceRolledBack != completeEvidence))
      (terminalRollbackError record)
  | .completed => require (completedIsExact record publication) (terminalError record)
  | _ =>
    require (!(publication.evidenceRolledBack && !isRollingBack record))
      (recordedEvidenceError record)

def validateV1Publication : ModelResult Unit := do
  require (!(record.state == .aborted
      && (record.pendingRollback.isSome || record.pendingPreservation.isSome)))
    (terminalRollbackError record)
  match record.publication with
  | none => require (record.state != .completed) (terminalError record)
  | some publication => do
    require publication.preservationPrefix.isNone (unexpectedPublication record)
    match publication.candidate with
    | none => validateNoCandidate record publication
    | some _ => validateCandidateProgress env record publication
    validateTerminal env record publication

/-! ## The handoff of a publication to preservation -/

def candidatePairIsCompatible (publication : PublicationProgress)
    (handoff : PreservationPublicationHandoffV1) (completeOnly : Bool) : Bool :=
  match handoff, publication.candidate with
  | .candidate ⟨publicationPrefix, index⟩, some candidate =>
    match publicationPrefix, index with
    | .marker, .staged => candidate.lockYaml == candidate.baselineLockYaml
        && candidate.boundaryText == candidate.baselineBoundaryText
    | .boundary, .staged => true
    | _, .pre => !completeOnly
    | .baseline, .staged | .lock, .staged => false
  | _, _ => false

def preservationHandoffIsCompatible (handoff : PreservationPublicationHandoffV1) : Bool :=
  match record.publication with
  | none => handoff == .noCandidate
  | some publication =>
    match publication.step with
    | .notStarted | .validatingResults => handoff == .noCandidate
    | .preparingCandidate =>
      if publication.candidate.isNone then handoff == .noCandidate
      else handoff == .candidate ⟨.baseline, .pre⟩
    | .committingEvidence =>
      if compositionIsAbsent publication then handoff == .evidencePending
      else compositionIsComplete publication && handoff == .candidate ⟨.baseline, .pre⟩
    | .publishingCandidate =>
      publication.candidate.isSome && candidatePairIsCompatible publication handoff false
    | .verifyingPublication | .complete =>
      if publication.candidate.isNone then handoff == .noCandidate
      else candidatePairIsCompatible publication handoff true

end GwzCore.Merge
