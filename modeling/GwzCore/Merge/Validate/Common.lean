import GwzCore.Lib.Checks
import GwzCore.Merge.Artifacts
import GwzCore.Merge.Integration

/-!
# Envelope, rows and lifecycle of a record

The checks of a record that concern its own texts, its frozen baseline, the pending
actions of its rows, and the agreement of the operation's state with the states of its
rows.
-/
namespace GwzCore.Merge

open Checks

variable (env : Artifacts) (record : MergeOperationRecordV1)

/-! ## Texts and identities -/

def unreadable (reason : String) : ModelError :=
  ⟨.mergeRecordUnreadable, "merge record '" ++ record.mergeId ++ "' is unreadable: " ++ reason⟩

def validatePortableId (field start value : String) : ModelResult Unit :=
  require (isPortableId start value)
    (unreadable record (field ++ " is not a portable " ++ start ++ " identifier"))

def validateTargetId (field value : String) : ModelResult Unit :=
  if value == "@root" then .ok () else validatePortableId record field "mem_" value

def validateSlug (field value : String) : ModelResult Unit :=
  require (isSlug value) (unreadable record (field ++ " is not a portable slug"))

def requireText (field value : String) : ModelResult Unit :=
  require (!isBlank value) (unreadable record (field ++ " is empty"))

def validateSha256 (field value : String) : ModelResult Unit :=
  require (isSha256 value) (unreadable record (field ++ " is not a lowercase SHA-256"))

def validateOid (field value : String) : ModelResult Unit :=
  require (isOid value) (unreadable record (field ++ " is not a lowercase Git object id"))

def validateShortBranch (field branch : String) : ModelResult Unit :=
  require (isShortBranch branch)
    (unreadable record (field ++ " is not a canonical short local branch"))

/-- A check of a value that may be absent. -/
def optionally (check : String → String → ModelResult Unit) (field : String) :
    Option String → ModelResult Unit
  | none => .ok ()
  | some value => check field value

def validatePreservationEvidence (evidence : List PreservationEvidence) : ModelResult Unit :=
  checkAll (fun row => do
    optionally (requireText record) "preservation backup ref" row.backupRef
    optionally (validateOid record) "preservation backup commit" row.backupCommit
    optionally (requireText record) "preservation stash id" row.stashId
    optionally (validateOid record) "preservation stash object id" row.stashObjectId) evidence

def validatePending (targetId : String) (pending : PendingMergeAction) : ModelResult Unit := do
  validateShortBranch record "pending target branch" pending.targetBranch
  validateOid record "pending before commit" pending.beforeCommit
  validateOid record "pending source commit" pending.sourceCommit
  optionally (validateOid record) "pending tree oid" (pending.commitSpec.map (·.treeOid))
  requireText record ("participants." ++ targetId ++ ".pending_action.commit_message")
    pending.commitMessage

def validateCommitMessage (message : String) : ModelResult Unit :=
  require (isCanonicalCommitMessage record.mergeId record.operationId message)
    (unreadable record "participant commit message is not canonical")

def validateMemberPath (what path : String) : ModelResult Unit :=
  match memberPathError path with
  | none => .ok ()
  | some message => .error (unreadable record (what ++ " path is invalid: " ++ message))

def validateLockMember (member : AcceptedLockMemberV1) : ModelResult Unit := do
  validateMemberPath record "accepted lock member" member.path
  validatePortableId record "accepted lock member source_id" "src_" member.sourceId
  optionally (validateOid record) "accepted lock member commit" member.commit
  optionally (validateShortBranch record) "accepted lock member branch" member.branch

def validatePreservationObjectIds : ModelResult Unit :=
  match record.pendingPreservation with
  | some (.stash _ _ _ (some objectId) _ _ _ _) =>
    let expected := match objectId.algorithm with
      | .sha1 => 40
      | .sha256 => 64
    require (objectId.digestHex.utf8ByteSize == expected && isLowerHex objectId.digestHex)
      (unreadable record "pending preservation object id is inconsistent with its algorithm")
  | _ => .ok ()

/-- The selected targets in order, each new among those before it and with a row. -/
def validateSelectedTargets : List String → List String → ModelResult Unit
  | [], _ => .ok ()
  | target :: rest, selected => do
    validateTargetId record "selected target" target
    require (!selected.contains target)
      (unreadable record ("selected target '" ++ target ++ "' is duplicated"))
    require (record.participants.contains target)
      (unreadable record ("selected target '" ++ target ++ "' has no participant"))
    validateSelectedTargets rest (target :: selected)

def validateTargetIdentity (targetId : String) (participant : MergeParticipantRecord) :
    ModelResult Unit :=
  match participant.targetKind with
  | .root =>
    require (targetId == "@root" && participant.path == ".")
      (unreadable record ("participant '" ++ targetId ++ "' target identity is inconsistent"))
  | .member =>
    if targetId != "@root" then
      validateMemberPath record ("participant '" ++ targetId ++ "'") participant.path
    else
      .error
        (unreadable record ("participant '" ++ targetId ++ "' target identity is inconsistent"))

def validateParticipant (targetId : String) (participant : MergeParticipantRecord) :
    ModelResult Unit := do
  validateTargetId record "participant id" targetId
  require (record.selectedTargets.contains targetId)
    (unreadable record ("participant '" ++ targetId ++ "' is not selected"))
  validateTargetIdentity record targetId participant
  let field name := "participants." ++ targetId ++ "." ++ name
  validateShortBranch record (field "target_branch") participant.targetBranch
  validateOid record (field "before_commit") participant.beforeCommit
  validateOid record (field "source_commit") participant.sourceCommit
  validateCommitMessage record participant.commitMessage
  optionally (validateOid record) (field "resulting_commit") participant.resultingCommit
  optionally (validateOid record) (field "expected_merge_head") participant.expectedMergeHead
  checkAll (fun evidence => do
    requireText record "conflict path" evidence.path
    validateSha256 record "conflict evidence sha256" evidence.sha256) participant.conflictSnapshot
  match participant.pendingAction with
  | none => pure ()
  | some pending => validatePending record targetId pending
  validatePreservationEvidence record participant.preservation

def validateMemberAcceptance (memberId : String) (audit : MemberAcceptanceV1) :
    ModelResult Unit := do
  validatePortableId record "accepted member id" "mem_" memberId
  match audit with
  | .selected integration finalCheckout lockMember => do
    validateShortBranch record "accepted integration branch" integration.branch
    validateOid record "accepted before commit" integration.beforeCommit
    validateOid record "accepted resulting commit" integration.resultingCommit
    validateShortBranch record "accepted checkout branch" finalCheckout.branch
    validateOid record "accepted checkout commit" finalCheckout.commit
    validateLockMember record lockMember
  | .unselectedPresent lockMember => validateLockMember record lockMember
  | .absent => .ok ()

def validateAcceptedTexts : ModelResult Unit :=
  match record.acceptedWorkspace with
  | none => .ok ()
  | some accepted => do
    validateSha256 record "accepted_workspace.operation_baseline_lock_sha256"
      accepted.operationBaselineLockSha256
    validateSha256 record "accepted_workspace.metadata_base.manifest_sha256"
      accepted.metadataBase.manifestSha256
    validateSha256 record "accepted_workspace.metadata_base.lock_sha256"
      accepted.metadataBase.lockSha256
    validateSha256 record "accepted_workspace.lock.sha256" accepted.lock.sha256
    checkAll (fun row => validateMemberAcceptance record row.1 row.2) accepted.memberAudit.toList

/-- The schema, the ids and the texts of the record itself and of its baseline. -/
def validateEnvelope : ModelResult Unit := do
  require (record.schema == mergeRecordSchemaV1
      && record.recordSchemaVersion == mergeRecordSchemaVersionV1)
    (unreadable record "the v1 envelope is inconsistent")
  validatePortableId record "workspace_id" "ws_" record.workspaceId
  validatePortableId record "operation_id" "op_" record.operationId
  validateSlug record "merge_id" record.mergeId
  requireText record "writer_version" record.writerVersion
  requireText record "source_ref" record.sourceRef
  requireText record "created_at" record.createdAt
  validateSha256 record "baseline.lock_sha256" record.baseline.lockSha256
  validateSha256 record "baseline.manifest_sha256" record.baseline.manifestSha256
  optionally (validateSha256 record) "baseline.lock_commit_sha256" record.baseline.lockCommitSha256
  optionally (validateSha256 record) "baseline.manifest_commit_sha256"
    record.baseline.manifestCommitSha256
  optionally (validateOid record) "baseline.root_head" record.baseline.rootHead
  optionally (validateShortBranch record) "baseline.root_branch" record.baseline.rootBranch

/-- The selected targets and the keys of the rows are one set, with the root last. -/
def validateTargets : ModelResult Unit := do
  validateSelectedTargets record record.selectedTargets []
  require (!record.selectedTargets.isEmpty) (unreadable record "selected target set is empty")
  require ((record.selectedTargets.findIdx? (· == "@root")).all
      (· + 1 == record.selectedTargets.length))
    (unreadable record "selected root is not the final target")
  -- the targets are distinct here, so the size of their set is the length of their list
  require (record.participants.size == record.selectedTargets.length)
    (unreadable record "participant keys do not equal selected targets")

/-! ## The frozen baseline -/

/-- The selected targets that are members, in selection order. -/
def selectedMembers : List String := record.selectedTargets.filter (· != "@root")

def lockIdentityMatches (lock : LockArtifact) (member : ManifestMember) : Bool :=
  match lock.members[member.id]? with
  | none => true
  | some row => row.path == member.path && row.sourceId == some member.sourceId
      && row.sourceKind == member.sourceKind

/-- The row of a selected member has its baseline path. The row exists: the targets were
checked before the baseline. -/
def validateBaselineMember (lock : LockArtifact) (member : ManifestMember) : ModelResult Unit :=
  require ((record.participants[member.id]?).any (·.path == member.path)
      && lockIdentityMatches lock member)
    (unreadable record "selected member baseline identity changed")

def validateBaselineRoot : ModelResult Unit :=
  match record.participants["@root"]? with
  | some root =>
    require (record.baseline.rootHead == some root.beforeCommit
        && record.baseline.rootBranch == some root.targetBranch
        && record.baseline.lockCommitSha256.isSome && record.baseline.manifestCommitSha256.isSome)
      (unreadable record "selected root baseline checkout changed")
  | none =>
    require (record.baseline.rootHead.isSome || record.baseline.rootBranch.isSome)
      (unreadable record "baseline root checkout is neither born nor unborn-attached")

/-- The value, or the refusal that it is missing. -/
def orRefuse {α : Type} (value : Option α) (error : ModelError) : ModelResult α :=
  match value with
  | some value => .ok value
  | none => .error error

def validateV1Baseline : ModelResult Unit := do
  let manifestYaml ← orRefuse record.baseline.manifestYaml
    (unreadable record "baseline manifest bytes are missing")
  let lockYaml ← orRefuse record.baseline.lockYaml
    (unreadable record "baseline lock bytes are missing")
  require (env.digest manifestYaml == record.baseline.manifestSha256
      && env.digest lockYaml == record.baseline.lockSha256)
    (unreadable record "baseline bytes do not match their digests")
  let manifest ← orRefuse (env.manifest manifestYaml)
    (unreadable record "baseline manifest bytes are invalid")
  let lock ← orRefuse (env.lock lockYaml) (unreadable record "baseline lock bytes are invalid")
  require (manifest.workspaceId == record.workspaceId && lock.workspaceId == record.workspaceId)
    (unreadable record "baseline workspace identity changed")
  let ordered := manifest.members.filter fun member =>
    member.active && (selectedMembers record).contains member.id
  require (ordered.map (·.id) == selectedMembers record)
    (unreadable record "selected members are not active baseline members in manifest order")
  checkAll (validateBaselineMember record lock) ordered
  validateBaselineRoot record

def validateCommonV1Record : ModelResult Unit := do
  validateEnvelope record
  validateTargets record
  checkAll (fun row => validateParticipant record row.1 row.2) record.participants.toList
  validateV1Baseline env record
  validateAcceptedTexts record
  match record.publication with
  | none => pure ()
  | some publication => validatePreservationEvidence record publication.rootPreservation
  validatePreservationObjectIds record

/-! ## Pending actions of the rows -/

def actionError (targetId reason : String) : ModelError :=
  ⟨.mergeRecordUnreadable, "merge record '" ++ record.mergeId ++ "' participant '" ++ targetId
    ++ "' action is invalid: " ++ reason⟩

def validateIntent (targetId : String) (participant : MergeParticipantRecord)
    (pending : PendingMergeAction) : ModelResult Unit :=
  match decodeForParticipant pending participant with
  | .ok _ => .ok ()
  | .error _ => .error (actionError record targetId
      "pending integration intent does not equal the frozen participant")

def exactShape (pending : PendingMergeAction) : Bool :=
  match pending.kind, pending.expectedResult, pending.commitSpec with
  | .verifyUpToDate, some .unchanged, none => true
  | .fastForward, some .fastForward, none => true
  | .trueMerge, some .expectedConflict, none => true
  | .trueMerge, some .commit, some _ => true
  | .resolveConflict, some .commit, some _ => true
  | _, _, _ => false

def modeAllows (mode : MergeExecutionMode) (kind : PendingMergeActionKind) : Bool :=
  match mode with
  | .normal => true
  | .ffOnly => kind == .verifyUpToDate || kind == .fastForward
  | .noFf => kind != .fastForward

def stateAllows (state : ParticipantState) (kind : PendingMergeActionKind) : Bool :=
  match kind with
  | .resolveConflict => state == .conflicted
  | .verifyUpToDate | .fastForward | .trueMerge =>
    state == .planned || state == .failed || state == .unattempted

def validateMatrix (targetId : String) (state : ParticipantState) (pending : PendingMergeAction) :
    ModelResult Unit :=
  require (exactShape pending && modeAllows record.mode pending.kind
      && stateAllows state pending.kind)
    (actionError record targetId
      "pending action violates the frozen mode, result, commit-spec, or state matrix")

def validSignature (signature : PendingGitSignature) : Bool :=
  !isBlank signature.name && !isBlank signature.email
    && !containsAny signature.name ['\x00', '\n', '\r']
    && !containsAny signature.email ['\x00', '\n', '\r']
    && decide (-1440 ≤ signature.timezoneOffsetMinutes)
    && decide (signature.timezoneOffsetMinutes ≤ 1440)

def validateCommitSpec (targetId : String) (spec : PendingCommitSpec) : ModelResult Unit :=
  require (isOid spec.treeOid && validSignature spec.author && validSignature spec.committer)
    (actionError record targetId "pending commit specification is not canonical")

def validateAction (targetId : String) (participant : MergeParticipantRecord) : ModelResult Unit :=
  match participant.pendingAction with
  | none => .ok ()
  | some pending => do
    validateIntent record targetId participant pending
    validateMatrix record targetId participant.state pending
    match pending.commitSpec with
    | none => pure ()
    | some spec => validateCommitSpec record targetId spec

def validateV1Actions : ModelResult Unit :=
  checkAll (fun row => validateAction record row.1 row.2) record.participants.toList

/-! ## The operation's state against its rows -/

def ParticipantState.isSuccessful : ParticipantState → Bool
  | .upToDate | .fastForwarded | .merged | .continued => true
  | _ => false

def ParticipantState.isRollbackTerminal : ParticipantState → Bool
  | .aborted | .rolledBack => true
  | _ => false

/-- A row that stops the operation: it failed, or its conflict carries an error. -/
def MergeParticipantRecord.isHaltCause (participant : MergeParticipantRecord) : Bool :=
  participant.state == .failed || (participant.state == .conflicted && participant.error.isSome)

def lifecycleError : ModelError :=
  let (code, reason) : ErrorCode × String := match record.state with
    | .completed => (.terminalEvidenceMismatch,
        "completed record retains an unfinished participant or action")
    | .aborted => (.terminalRollbackMismatch,
        "aborted record retains an unfinished participant or action")
    | .recoveryRequired => (.recoveryEvidenceMismatch,
        "recovery origin does not match participant or action state")
    | _ => (.mergeRecordUnreadable, "operation state does not match participant or action state")
  ⟨code, "merge record '" ++ record.mergeId ++ "' is invalid: " ++ reason⟩

def RecoveryOriginStateV1.operationState : RecoveryOriginStateV1 → OperationState
  | .executing => .executing
  | .awaitingResolution => .awaitingResolution
  | .halted => .halted
  | .finalizing => .finalizing
  | .preserving => .preserving
  | .rollingBack => .rollingBack

def effectiveState : ModelResult OperationState :=
  if record.state != .recoveryRequired then .ok record.state
  else match record.recoveryContext with
    | none => .error (lifecycleError record)
    | some context => .ok context.originState.operationState

def resultIsLegal (participant : MergeParticipantRecord) : Bool :=
  match participant.state with
  | .planned | .conflicted | .failed | .unattempted => participant.resultingCommit.isNone
  | .upToDate => participant.resultingCommit == some participant.beforeCommit
  | .fastForwarded | .merged | .continued | .rolledBack =>
    participant.resultingCommit.any (· != participant.beforeCommit)
  | .aborted => participant.resultingCommit.isNone
      || participant.resultingCommit == some participant.beforeCommit

def noConflictFields (participant : MergeParticipantRecord) : Bool :=
  participant.expectedMergeHead.isNone && participant.conflictPaths.isEmpty
    && participant.conflictSnapshot.isEmpty

def conflictFieldsAreLegal (participant : MergeParticipantRecord) : Bool :=
  match participant.state with
  | .conflicted => participant.expectedMergeHead == some participant.sourceCommit
  | .aborted => participant.expectedMergeHead == some participant.sourceCommit
      || noConflictFields participant
  | _ => noConflictFields participant

def errorIsLegal (participant : MergeParticipantRecord) : Bool :=
  match participant.state with
  | .failed => participant.error.isSome
  | .conflicted | .aborted => true
  | _ => participant.error.isNone

def validateParticipantShape (participant : MergeParticipantRecord) : ModelResult Unit :=
  require (resultIsLegal participant && conflictFieldsAreLegal participant
    && errorIsLegal participant) (lifecycleError record)

/-- The rows of the record, in the order of their keys. -/
def rows : List MergeParticipantRecord := record.participants.toList.map (·.2)

def participantStatesAreLegal (effective : OperationState) : Bool :=
  match effective with
  | .executing | .preserving => (rows record).all fun row => !row.state.isRollbackTerminal
  | .awaitingResolution =>
    (rows record).any (·.state == .conflicted) && (rows record).all (·.error.isNone)
      && (rows record).all fun row => row.state.isSuccessful || row.state == .conflicted
  | .halted =>
    (rows record).any (·.isHaltCause) && (rows record).all fun row =>
      row.state.isSuccessful || row.state == .conflicted || row.state == .failed
        || row.state == .unattempted
  | .finalizing | .completed => (rows record).all (·.state.isSuccessful)
  | .rollingBack => true
  | .aborted => (rows record).all (·.state.isRollbackTerminal)
  -- the effective state is never a recovery
  | .recoveryRequired => false

def forwardPendingCount : Nat := (rows record).countP (·.pendingAction.isSome)

def forwardPendingIsLegal (effective : OperationState) : Bool :=
  decide (forwardPendingCount record ≤ 1)
    && (forwardPendingCount record == 0 || effective == .executing || effective == .halted)

def reversePendingIsLegal (effective : OperationState) : Bool :=
  match effective with
  | .rollingBack => record.pendingPreservation.isNone
  | .preserving => record.pendingRollback.isNone
  | _ => record.pendingRollback.isNone && record.pendingPreservation.isNone

def validateV1Lifecycle : ModelResult Unit := do
  checkAll (validateParticipantShape record) (rows record)
  let effective ← effectiveState record
  require (participantStatesAreLegal record effective) (lifecycleError record)
  require (forwardPendingIsLegal record effective) (lifecycleError record)
  require (reversePendingIsLegal record effective) (lifecycleError record)

end GwzCore.Merge
