import GwzCore.Merge.Transition

/-!
# The reducer

A transition is applied to a copy of the stored record: the guards of its kind are checked
against the stored record, its tokens are compared with it, and the fields it owns are
written. The result carries this program's version and is validated as a whole.
-/
namespace GwzCore.Merge

open Checks

variable {env : Artifacts}

/-! ## Guards -/

def rejected : ModelError :=
  ⟨.mergeRecoveryRequired, "v1 transition predecessor or authority mismatch"⟩

def publicationRejected : ModelError :=
  ⟨.mergeRecoveryRequired, "v1 publication transition predecessor or authority mismatch"⟩

def journalRejected : ModelError :=
  ⟨.mergeRecoveryRequired, "v1 journal transition predecessor or authority mismatch"⟩

def preservationRejected : ModelError :=
  ⟨.mergeRecoveryRequired, "v1 preservation transition predecessor or authority mismatch"⟩

section

variable (record : MergeOperationRecordV1)

def allSuccess : Bool :=
  !record.selectedTargets.isEmpty && record.selectedTargets.all fun id =>
    record.participants[id]?.any (·.state.isSuccessful)

def hasHaltCause : Bool := (rows record).any (·.isHaltCause)

def noForward : Bool := (rows record).all (·.pendingAction.isNone)

def noJournals : Bool := record.pendingRollback.isNone && record.pendingPreservation.isNone

def noActions : Bool := noForward record && noJournals record

/-- The record with one row replaced. -/
def withRow (memberId : String) (row : MergeParticipantRecord) : MergeOperationRecordV1 :=
  { record with participants := record.participants.insert memberId row }

end

def recoveryOrigin : OperationState → Option RecoveryOriginStateV1
  | .executing => some .executing
  | .awaitingResolution => some .awaitingResolution
  | .halted => some .halted
  | .finalizing => some .finalizing
  | .preserving => some .preserving
  | .rollingBack => some .rollingBack
  | .completed | .aborted | .recoveryRequired => none

def installPreservationHandoff (record : MergeOperationRecordV1)
    (handoff : PublicationHandoffFact) : ModelResult MergeOperationRecordV1 := do
  require record.preservationPublicationHandoff.isNone rejected
  require (preservationHandoffIsCompatible record handoff) rejected
  .ok { record with preservationPublicationHandoff := some handoff }

/-! ## Operation -/

def awaitingRowIsLegal (row : MergeParticipantRecord) : Bool :=
  row.pendingAction.isNone && row.error.isNone
    && (row.state.isSuccessful || row.state == .conflicted)

/-- The states from which reverse work may be entered directly. -/
def OperationState.isForward : OperationState → Bool
  | .executing | .awaitingResolution | .halted | .finalizing => true
  | _ => false

def reduceOperation (current : StoredV1Record env) (transition : OperationTransition) :
    ModelResult MergeOperationRecordV1 :=
  let record := current.record
  match transition with
  | .beginExecution => do
    require (record.state == .awaitingResolution || record.state == .halted) rejected
    require (noJournals record) rejected
    .ok { record with state := .executing }
  | .awaitResolution => do
    require (record.state == .executing && noJournals record) rejected
    require ((rows record).any (·.state == .conflicted)) rejected
    require ((rows record).all awaitingRowIsLegal) rejected
    .ok { record with state := .awaitingResolution }
  | .halt => do
    require (record.state == .executing && hasHaltCause record) rejected
    .ok { record with state := .halted }
  | .enterFinalizing proof => do
    require (record.state == .executing && allSuccess record && noActions record) rejected
    require (proof.matches current "@operation" "enter_finalizing" "executing") rejected
    .ok { record with state := .finalizing }
  | .beginPreservation entry => do
    require record.state.isForward rejected
    require (noActions record) rejected
    require (entry.matches current "@operation" "begin_preservation" "preflight") rejected
    require (entry.anticipatedModelMatches env record) rejected
    let next ← installPreservationHandoff record entry.publicationHandoff
    .ok { next with state := .preserving }
  | .beginRollback entry => do
    require (record.state.isForward || record.state == .preserving) rejected
    require (noForward record) rejected
    require (noJournals record) rejected
    require (entry.matches current "@operation" "begin_rollback" "preflight") rejected
    require (entry.anticipatedModelMatches env record) rejected
    require ((record.state == .preserving) == (entry.origin == .fromPreserving)) rejected
    match entry.origin with
    | .direct => require record.preservationPublicationHandoff.isNone rejected
    | .fromPreserving =>
      require (record.preservationPublicationHandoff == some entry.publicationHandoff) rejected
    .ok { record with state := .rollingBack }
  | .completeOperation proof => do
    require (record.state == .finalizing && record.acceptedWorkspace.isSome && noActions record)
      rejected
    require (proof.matches current "@operation" "publication_complete" "verified") rejected
    .ok { record with state := .completed }
  | .abortOperation proof => do
    require (record.state == .rollingBack && noActions record) rejected
    require (proof.matches current "@operation" "rollback_exhausted" "cursor_verified") rejected
    .ok { record with state := .aborted }

/-! ## Participants -/

def isSuccessfulOrConflicted (state : ParticipantState) : Bool :=
  state.isSuccessful || state == .conflicted

def recordOutcome (current : StoredV1Record env) (proof : BoundValue ParticipantActionPayload)
    (halted : Bool) : ModelResult MergeOperationRecordV1 := do
  let record := current.record
  let payload := proof.value
  require (record.state == .executing || record.state == .halted) rejected
  require (!halted || record.state == .halted) rejected
  require (proof.matches current payload.memberId "participant_outcome" "completed") rejected
  let old ← orRefuse record.participants[payload.memberId]? rejected
  require old.pendingAction.isSome rejected
  require (payload.row.pendingAction.isNone && isSuccessfulOrConflicted payload.row.state) rejected
  .ok (withRow record payload.memberId payload.row)

def abandon (current : StoredV1Record env) (proof : BoundValue String) :
    ModelResult MergeOperationRecordV1 := do
  let record := current.record
  require (record.state == .executing || record.state == .halted) rejected
  require (proof.matches current proof.value "participant_action" "not_started") rejected
  let row ← orRefuse record.participants[proof.value]? rejected
  require row.pendingAction.isSome rejected
  .ok (withRow record proof.value { row with pendingAction := none })

/-- The targets after `primary`, if it is a target. -/
def laterTargets (primary : String) : List String → Option (List String)
  | [] => none
  | target :: rest => if target == primary then some rest else laterTargets primary rest

/-- The later targets that are still planned. -/
def laterPlanned (record : MergeOperationRecordV1) (primary : String) : Option (List String) :=
  (laterTargets primary record.selectedTargets).map
    (·.filter fun member => record.participants[member]?.any (·.state == .planned))

def exactLaterPlanned (record : MergeOperationRecordV1) (primary : String) (actual : List String) :
    Bool :=
  laterPlanned record primary == some actual

/-- Every listed row becomes unattempted. -/
def markUnattempted : List String → MergeOperationRecordV1 → ModelResult MergeOperationRecordV1
  | [], record => .ok record
  | member :: rest, record => do
    let row ← orRefuse record.participants[member]? rejected
    markUnattempted rest (withRow record member { row with state := .unattempted })

def failureRowIsExact (old : MergeParticipantRecord) (row : MergeParticipantRecord)
    (pendingRequired resolution : Bool) : Bool :=
  if resolution then
    old.state == .conflicted && row.state == .conflicted && row.pendingAction == old.pendingAction
  else
    row.state == .failed && row.pendingAction == old.pendingAction
      && (pendingRequired || row.pendingAction.isNone)

def failureBatch (current : StoredV1Record env) (payload : ParticipantFailurePayload)
    (pendingRequired resolution : Bool) : ModelResult MergeOperationRecordV1 := do
  let record := current.record
  require (record.state == .executing) rejected
  let old ← orRefuse record.participants[payload.memberId]? rejected
  require (old.pendingAction.isSome == pendingRequired && payload.row.error.isSome) rejected
  require (failureRowIsExact old payload.row pendingRequired resolution) rejected
  require (exactLaterPlanned record payload.memberId payload.laterUnattempted) rejected
  let next ← markUnattempted payload.laterUnattempted (withRow record payload.memberId payload.row)
  .ok { next with state := .halted }

def isPreparable (state : ParticipantState) : Bool :=
  state == .planned || state == .failed || state == .unattempted || state == .conflicted

def isNoMutation (state : ParticipantState) : Bool :=
  state == .planned || state == .upToDate || state == .failed || state == .unattempted

def reduceParticipant (current : StoredV1Record env) (transition : ParticipantTransition) :
    ModelResult MergeOperationRecordV1 :=
  let record := current.record
  match transition with
  | .prepare intent => do
    require (record.state == .executing && noForward record) rejected
    let payload := intent.value
    require (intent.matches current payload.memberId "prepare_participant" "prepared") rejected
    let old ← orRefuse record.participants[payload.memberId]? rejected
    require (old.pendingAction.isNone && payload.row.pendingAction.isSome) rejected
    require (isPreparable old.state) rejected
    .ok (withRow record payload.memberId payload.row)
  | .recordOutcome proof => do
    let next ← recordOutcome current proof false
    require (record.state != .halted || hasHaltCause next) rejected
    .ok next
  | .recordHaltedOutcomeAndResumeExecution proof => do
    require (record.state == .halted) rejected
    let next ← recordOutcome current proof true
    require (!hasHaltCause next) rejected
    .ok { next with state := .executing }
  | .recordHaltedOutcomeAndBeginRollback proof entry => do
    require (record.state == .halted) rejected
    let next ← recordOutcome current proof true
    require (entry.origin == .direct) rejected
    require (entry.anticipatedModelMatches env next) rejected
    require (entry.matches current "@operation" "begin_rollback" "preflight") rejected
    .ok { next with state := .rollingBack }
  | .recordHaltedOutcomeAndBeginPreservation proof entry => do
    require (record.state == .halted) rejected
    let next ← recordOutcome current proof true
    require (entry.anticipatedModelMatches env next) rejected
    require (entry.matches current "@operation" "begin_preservation" "preflight") rejected
    let next ← installPreservationHandoff next entry.publicationHandoff
    .ok { next with state := .preserving }
  | .abandonNotStartedAndBeginRollback proof entry => do
    let next ← abandon current proof
    require (entry.origin == .direct) rejected
    require (entry.anticipatedModelMatches env next) rejected
    require (entry.matches current "@operation" "begin_rollback" "preflight") rejected
    .ok { next with state := .rollingBack }
  | .abandonNotStartedAndBeginPreservation proof entry => do
    let next ← abandon current proof
    require (entry.anticipatedModelMatches env next) rejected
    require (entry.matches current "@operation" "begin_preservation" "preflight") rejected
    let next ← installPreservationHandoff next entry.publicationHandoff
    .ok { next with state := .preserving }
  | .recordPreparationFailureAndHalt batch => do
    let next ← failureBatch current batch.value false false
    require (batch.matches current batch.value.memberId "preparation_failure" "verified") rejected
    .ok next
  | .recordOwnedRetryFailureAndHalt batch => do
    let next ← failureBatch current batch.value true false
    require (batch.matches current batch.value.memberId "owned_retry_failure" "verified") rejected
    .ok next
  | .recordOwnedResolutionFailureAndHalt batch => do
    let next ← failureBatch current batch.value true true
    require (batch.matches current batch.value.memberId "owned_resolution_failure" "verified")
      rejected
    .ok next
  | .recordNoMutationAbort proof => do
    require (proof.matches current proof.value "record_no_mutation_abort" "cursor_verified")
      rejected
    require (record.state == .rollingBack) rejected
    let row ← orRefuse record.participants[proof.value]? rejected
    require (isNoMutation row.state) rejected
    .ok (withRow record proof.value { row with state := .aborted })

/-! ## Acceptance and publication -/

def reduceAcceptance (current : StoredV1Record env) (accepted : BoundValue AcceptedWorkspaceV1) :
    ModelResult MergeOperationRecordV1 := do
  let record := current.record
  require (record.state == .finalizing && allSuccess record) rejected
  require (record.acceptedWorkspace.isNone && record.publication.isNone && noActions record)
    rejected
  require (accepted.matches current "@operation" "freeze_acceptance" "prepared") rejected
  .ok { record with acceptedWorkspace := some accepted.value }

def emptyProgress (step : PublicationStep) : PublicationProgress where
  step := step
  candidateLockSha256 := none
  candidateMarkerPath := none
  rootMergeCommit := none
  compositionCommit := none
  compositionTree := none
  candidateHashes := []
  candidate := none
  evidenceRolledBack := false
  rootPreservation := []
  preservationPrefix := none

def completeEvidence (publication : PublicationProgress) : Bool :=
  publication.candidate.isSome && compositionIsComplete publication

/-- What a publication transition does to the progress, once the operation is finalizing an
accepted workspace. -/
def progressAfter (current : StoredV1Record env) (transition : PublicationTransition) :
    ModelResult PublicationProgress :=
  let publication := current.record.publication
  let bound {α : Type} (token : BoundValue α) (action phase : String) : ModelResult Unit :=
    require (token.matches current "@publication" action phase) publicationRejected
  match transition with
  | .classifyRequired decision => do
    require (publication.isNone && decision.value) publicationRejected
    bound decision "classify_publication" "required"
    .ok (emptyProgress .preparingCandidate)
  | .classifyNone decision => do
    require (publication.isNone && !decision.value) publicationRejected
    bound decision "classify_publication" "none"
    .ok (emptyProgress .complete)
  | .beginMigratedValidation => do
    let old ← orRefuse publication publicationRejected
    require (old.step == .notStarted) publicationRejected
    .ok { old with step := .validatingResults }
  | .classifyMigratedRequired proof => do
    let old ← orRefuse publication publicationRejected
    require (old.step == .validatingResults && proof.value) publicationRejected
    bound proof "validate_migrated_results" "publication_required"
    .ok { old with step := .preparingCandidate }
  | .classifyMigratedNone proof => do
    let old ← orRefuse publication publicationRejected
    require (old.step == .validatingResults && !proof.value) publicationRejected
    bound proof "validate_migrated_results" "no_publication"
    .ok { old with step := .complete }
  | .recordCandidate candidate => do
    let old ← orRefuse publication publicationRejected
    require (old.step == .preparingCandidate && old.candidate.isNone) publicationRejected
    bound candidate "prepare_candidate" "prepared"
    .ok { old with
      candidate := some candidate.value.candidate
      candidateMarkerPath := some candidate.value.markerPath
      candidateLockSha256 := some candidate.value.lockSha256 }
  | .beginEvidence intent => do
    let old ← orRefuse publication publicationRejected
    require (old.step == .preparingCandidate && old.candidate.isSome) publicationRejected
    require old.compositionCommit.isNone publicationRejected
    bound intent "begin_evidence" "preflight"
    .ok { old with step := .committingEvidence }
  | .recordEvidence proof => do
    let old ← orRefuse publication publicationRejected
    require (old.step == .committingEvidence && old.compositionCommit.isNone) publicationRejected
    bound proof "record_evidence" "completed"
    .ok { old with
      compositionCommit := some proof.value.compositionCommit
      compositionTree := some proof.value.compositionTree
      rootMergeCommit := proof.value.rootMergeCommit
      candidateHashes := proof.value.candidateHashes }
  | .beginCandidatePublication intent => do
    let old ← orRefuse publication publicationRejected
    require (old.step == .committingEvidence && completeEvidence old) publicationRejected
    bound intent "begin_candidate_publication" "preflight"
    .ok { old with step := .publishingCandidate }
  | .recordCandidatePublished proof => do
    let old ← orRefuse publication publicationRejected
    require (old.step == .publishingCandidate) publicationRejected
    bound proof "candidate_publication" "completed"
    .ok { old with step := .verifyingPublication }
  | .recordPublicationVerified proof => do
    let old ← orRefuse publication publicationRejected
    require (old.step == .verifyingPublication) publicationRejected
    bound proof "publication" "verified"
    .ok { old with step := .complete }

def reducePublication (current : StoredV1Record env) (transition : PublicationTransition) :
    ModelResult MergeOperationRecordV1 := do
  let record := current.record
  require (record.state == .finalizing) publicationRejected
  require record.acceptedWorkspace.isSome publicationRejected
  let publication ← progressAfter current transition
  .ok { record with publication := some publication }

/-! ## Recovery -/

/-- Reverse work enters recovery only with its journal pending. -/
def journalIsPending (record : MergeOperationRecordV1) : Bool :=
  match record.state with
  | .preserving => record.pendingPreservation.isSome
  | .rollingBack => record.pendingRollback.isSome
  | _ => true

def reduceRecovery (current : StoredV1Record env) (transition : RecoveryTransition) :
    ModelResult MergeOperationRecordV1 :=
  let record := current.record
  match transition with
  | .enter ambiguity => do
    let origin ← orRefuse (recoveryOrigin record.state) rejected
    require (ambiguity.value == origin) rejected
    require (ambiguity.matches current "@operation" "enter_recovery" "ambiguous") rejected
    require (journalIsPending record) rejected
    .ok { record with state := .recoveryRequired, recoveryContext := some ⟨origin⟩ }
  | .resume proof => do
    require (record.state == .recoveryRequired) rejected
    let context ← orRefuse record.recoveryContext rejected
    require (proof.value == context.originState) rejected
    require (proof.matches current "@operation" "resume_recovery" "verified") rejected
    .ok { record with state := context.originState.operationState, recoveryContext := none }

/-! ## Preservation -/

inductive PreservationAction where
  | backup | stash | reset
  deriving DecidableEq

inductive PreservationMarker where
  | artifact | reset
  deriving DecidableEq

def PendingPreservationActionV1.owner : PendingPreservationActionV1 → PreservationOwnerV1
  | .backupRef owner _ _ => owner
  | .stash owner _ _ _ _ _ _ _ => owner
  | .resetAttachedRef owner _ _ _ _ _ => owner

def PendingPreservationActionV1.kind : PendingPreservationActionV1 → PreservationAction
  | .backupRef _ _ _ => .backup
  | .stash _ _ _ _ _ _ _ _ => .stash
  | .resetAttachedRef _ _ _ _ _ _ => .reset

/-- Where a pending action stands. -/
def PendingPreservationActionV1.position :
    PendingPreservationActionV1 → PreservationCursorPosition
  | .backupRef _ _ _ => .backupRef
  | .stash _ phase _ _ _ _ _ _ => .stash phase
  | .resetAttachedRef _ _ _ _ phase _ => .resetAttachedRef phase

def PendingPreservationActionV1.rootHandoff :
    PendingPreservationActionV1 → Option PreservationPublicationCandidateV1
  | .backupRef _ _ _ => none
  | .stash _ _ _ _ _ _ _ handoff => handoff
  | .resetAttachedRef _ _ _ _ _ handoff => handoff

def PendingPreservationActionV1.hasRootHandoff (action : PendingPreservationActionV1) : Bool :=
  action.rootHandoff.isSome

def actionMatches (action : PendingPreservationActionV1) (owner : PreservationOwnerV1)
    (expected : PreservationAction) : Bool :=
  action.kind == expected && action.owner == owner

/-- Where an action of its kind begins: the root's actions have a handoff to prepare. -/
def beginPosition (action : PendingPreservationActionV1) : Option PreservationCursorPosition :=
  match action.position, action.hasRootHandoff with
  | .backupRef, _ => some .backupRef
  | .stash .normalizeParent, true => some (.stash .normalizeParent)
  | .stash .createStash, false => some (.stash .createStash)
  | .resetAttachedRef .prepareParent, true => some (.resetAttachedRef .prepareParent)
  | .resetAttachedRef .resetRef, false => some (.resetAttachedRef .resetRef)
  | _, _ => none

def nextStash : PreservationStashPhaseV1 → Bool → Option PreservationStashPhaseV1
  | .normalizeParent, true => some .normalizeMarker
  | .normalizeMarker, true => some .normalizeLock
  | .normalizeLock, true => some .normalizeIndex
  | .normalizeIndex, true => some .createStash
  | .createStash, true => some .restoreIndex
  | .createStash, false => some .writeBundle
  | .restoreIndex, true => some .restoreLock
  | .restoreLock, true => some .restoreParent
  | .restoreParent, true => some .restoreMarker
  | .restoreMarker, true => some .writeBundle
  | .writeBundle, _ => some .complete
  | _, _ => none

def nextReset : PreservationRefResetPhaseV1 → Bool → Option PreservationRefResetPhaseV1
  | .prepareParent, true => some .prepareMarker
  | .prepareMarker, true => some .prepareLock
  | .prepareLock, true => some .prepareIndex
  | .prepareIndex, true => some .resetRef
  | .resetRef, true => some .restoreIndex
  | .resetRef, false => some .complete
  | .restoreIndex, true => some .restoreLock
  | .restoreLock, true => some .restoreParent
  | .restoreParent, true => some .restoreMarker
  | .restoreMarker, true => some .complete
  | _, _ => none

/-- An advance keeps what the action was begun with; a stash learns its ids when created. -/
def progressMatches : PendingPreservationActionV1 → PendingPreservationActionV1 → Bool
  | .stash owner phase stashId objectId message head preimage handoff,
    .stash owner' _ stashId' objectId' message' head' preimage' handoff' =>
    owner == owner' && message == message' && head == head' && preimage == preimage'
      && handoff == handoff'
      && (phase == .createStash || (stashId == stashId' && objectId == objectId'))
  | .resetAttachedRef owner branch expected restore _ handoff,
    .resetAttachedRef owner' branch' expected' restore' _ handoff' =>
    owner == owner' && branch == branch' && expected == expected' && restore == restore'
      && handoff == handoff'
  | _, _ => false

/-- The step an advance takes, and the evidence it carries. -/
def advanceIsLegal (old new : PendingPreservationActionV1)
    (evidence : Option PreservationEvidence) : Bool :=
  match old.position, new.position with
  | .stash oldPhase, .stash newPhase =>
    nextStash oldPhase old.hasRootHandoff == some newPhase
      && evidence.isSome == (oldPhase == .createStash)
  | .resetAttachedRef oldPhase, .resetAttachedRef newPhase =>
    nextReset oldPhase old.hasRootHandoff == some newPhase && evidence.isNone
  | _, _ => false

/-- What an action must have reached, and the evidence its finish carries. -/
def finishIsLegal (old : PendingPreservationActionV1) (evidence : Option PreservationEvidence) :
    Bool :=
  match old.position with
  | .backupRef => evidence.isSome
  | .stash phase => phase == .complete && evidence.isNone
  | .resetAttachedRef phase => phase == .complete && evidence.any (·.resetCommit.isSome)

def PreservationOwnerV1.id : PreservationOwnerV1 → String
  | .participant memberId => memberId
  | .publicationRoot => "@publication-root"

def immutableMarker (previous next : Option String) : Bool :=
  previous.all fun value => next == some value

/-- A marker write keeps the four inherited fields and every marker already there. -/
def markerWritePreservesPriorRow (previous : Option PreservationEvidence)
    (next : PreservationEvidence) : Bool :=
  match previous with
  | none => next.backupRef.isNone && next.backupCommit.isNone && next.stashId.isNone
      && next.stashObjectId.isNone
  | some previous =>
    previous.backupRef == next.backupRef && previous.backupCommit == next.backupCommit
      && previous.stashId == next.stashId && previous.stashObjectId == next.stashObjectId
      && immutableMarker previous.noopCommit next.noopCommit
      && immutableMarker previous.resetCommit next.resetCommit

/-- The evidence replaces the owner's row, or becomes its first. -/
def replaceEvidence (evidence : PreservationEvidence) :
    List PreservationEvidence → ModelResult (List PreservationEvidence)
  | [] => .ok [evidence]
  | [_] => .ok [evidence]
  | _ => .error preservationRejected

def setEvidence (record : MergeOperationRecordV1) (owner : PreservationOwnerV1)
    (evidence : PreservationEvidence) : ModelResult MergeOperationRecordV1 :=
  match owner with
  | .participant memberId => do
    let row ← orRefuse record.participants[memberId]? preservationRejected
    let preservation ← replaceEvidence evidence row.preservation
    .ok (withRow record memberId { row with preservation := preservation })
  | .publicationRoot => do
    let publication ← orRefuse record.publication preservationRejected
    let preservation ← replaceEvidence evidence publication.rootPreservation
    .ok { record with publication := some { publication with rootPreservation := preservation } }

def setEvidenceIfAny (record : MergeOperationRecordV1) (owner : PreservationOwnerV1) :
    Option PreservationEvidence → ModelResult MergeOperationRecordV1
  | none => .ok record
  | some evidence => setEvidence record owner evidence

def PreservationAction.beginName : PreservationAction → String
  | .backup => "begin_backup_ref"
  | .stash => "begin_stash"
  | .reset => "begin_reset_attached_ref"

def PreservationAction.finishName : PreservationAction → String
  | .backup => "finish_backup_ref"
  | .stash => "finish_stash"
  | .reset => "finish_reset_attached_ref"

/-- A backup has one step, so it is never advanced. -/
def PreservationAction.advanceName : PreservationAction → String
  | .backup => ""
  | .stash => "advance_stash"
  | .reset => "advance_reset_attached_ref"

def PreservationMarker.name : PreservationMarker → String
  | .artifact => "record_artifact_noop"
  | .reset => "record_reset_noop"

def PreservationMarker.position : PreservationMarker → PreservationCursorPosition
  | .artifact => .stash .complete
  | .reset => .resetAttachedRef .complete

def PreservationMarker.isInstalled (marker : PreservationMarker)
    (evidence : PreservationEvidence) : Bool :=
  match marker with
  | .artifact => evidence.noopCommit.isSome
  | .reset => evidence.resetCommit.isSome

def beginPreservation (current : StoredV1Record env) (token : PreservationToken)
    (action : PreservationAction) : ModelResult MergeOperationRecordV1 := do
  let record := current.record
  let payload := token.value
  require (record.pendingPreservation.isNone && payload.evidence.isNone) preservationRejected
  let pending ← orRefuse payload.pending preservationRejected
  require (actionMatches pending payload.owner action) preservationRejected
  require (beginPosition pending == some payload.observedPosition) preservationRejected
  require (token.matches current payload.owner.id action.beginName "cursor_checked")
    preservationRejected
  .ok { record with pendingPreservation := some pending }

def advancePreservation (current : StoredV1Record env) (token : PreservationToken)
    (action : PreservationAction) : ModelResult MergeOperationRecordV1 := do
  let record := current.record
  let payload := token.value
  let old ← orRefuse record.pendingPreservation preservationRejected
  let new ← orRefuse payload.pending preservationRejected
  require (actionMatches old payload.owner action && actionMatches new payload.owner action)
    preservationRejected
  require (progressMatches old new) preservationRejected
  require (old.position == payload.observedPosition) preservationRejected
  require (advanceIsLegal old new payload.evidence) preservationRejected
  require (token.matches current payload.owner.id action.advanceName "completed")
    preservationRejected
  setEvidenceIfAny { record with pendingPreservation := some new } payload.owner payload.evidence

def finishPreservation (current : StoredV1Record env) (token : PreservationToken)
    (action : PreservationAction) : ModelResult MergeOperationRecordV1 := do
  let record := current.record
  let payload := token.value
  let old ← orRefuse record.pendingPreservation preservationRejected
  require (actionMatches old payload.owner action) preservationRejected
  require (old.position == payload.observedPosition) preservationRejected
  require (finishIsLegal old payload.evidence) preservationRejected
  -- only the finish of a reset compares its evidence with the row before it
  require (action != .reset || payload.evidence.any
    (markerWritePreservesPriorRow (ownerEvidence record payload.owner))) preservationRejected
  require (token.matches current payload.owner.id action.finishName "completed")
    preservationRejected
  setEvidenceIfAny { record with pendingPreservation := none } payload.owner payload.evidence

def recordMarker (current : StoredV1Record env) (token : PreservationToken)
    (marker : PreservationMarker) : ModelResult MergeOperationRecordV1 := do
  let record := current.record
  let payload := token.value
  require record.pendingPreservation.isNone preservationRejected
  require payload.pending.isNone preservationRejected
  let evidence ← orRefuse payload.evidence preservationRejected
  require (payload.observedPosition == marker.position) preservationRejected
  require (marker.isInstalled evidence) preservationRejected
  require (markerWritePreservesPriorRow (ownerEvidence record payload.owner) evidence)
    preservationRejected
  require (token.matches current payload.owner.id marker.name "recorded") preservationRejected
  setEvidence record payload.owner evidence

def reducePreservation (current : StoredV1Record env) (transition : PreservationTransition) :
    ModelResult MergeOperationRecordV1 := do
  require (current.record.state == .preserving) preservationRejected
  match transition with
  | .beginBackupRef intent => beginPreservation current intent .backup
  | .finishBackupRef proof => finishPreservation current proof .backup
  | .beginStash intent => beginPreservation current intent .stash
  | .advanceStash proof => advancePreservation current proof .stash
  | .finishStash proof => finishPreservation current proof .stash
  | .beginResetAttachedRef intent => beginPreservation current intent .reset
  | .advanceResetAttachedRef proof => advancePreservation current proof .reset
  | .finishResetAttachedRef proof => finishPreservation current proof .reset
  | .recordArtifactNoop proof => recordMarker current proof .artifact
  | .recordResetNoop proof => recordMarker current proof .reset

/-! ## Rollback -/

def evidenceStep : Option PendingRollbackActionV1 → ModelResult EvidenceRollbackStepV1
  | some (.publicationEvidence step) => .ok step
  | _ => .error journalRejected

def rootStep : Option PendingRollbackActionV1 → ModelResult RootMetadataRollbackStepV1
  | some (.selectedRootMetadata step) => .ok step
  | _ => .error journalRejected

def nextEvidence : EvidenceRollbackStepV1 → Option EvidenceRollbackStepV1
  | .evidenceCommit => some .boundary
  | .boundary => some .lock
  | .lock => some .marker
  | .marker => some .index
  | .index => some .complete
  | .complete => none

def nextRoot : RootMetadataRollbackStepV1 → Option RootMetadataRollbackStepV1
  | .manifest => some .lock
  | .lock => some .complete
  | .complete => none

def phaseEvidence : EvidenceRollbackStepV1 → String
  | .evidenceCommit => "evidence_commit"
  | .boundary => "boundary"
  | .lock => "lock"
  | .marker => "marker"
  | .index => "index"
  | .complete => "complete"

def phaseRoot : RootMetadataRollbackStepV1 → String
  | .manifest => "manifest"
  | .lock => "lock"
  | .complete => "complete"

def reduceRollback (current : StoredV1Record env) (transition : RollbackTransition) :
    ModelResult MergeOperationRecordV1 := do
  let record := current.record
  require (record.state == .rollingBack) journalRejected
  match transition with
  | .beginParticipant intent => do
    require record.pendingRollback.isNone journalRejected
    let memberId ← orRefuse intent.value.participantOwner journalRejected
    require (intent.matches current memberId "begin_participant_rollback" "prepared")
      journalRejected
    .ok { record with pendingRollback := some intent.value }
  | .finishParticipant proof => do
    let payload := proof.value
    require (record.pendingRollback.any (·.participantOwner == some payload.memberId))
      journalRejected
    require (proof.matches current payload.memberId "finish_participant_rollback" "completed")
      journalRejected
    .ok (withRow { record with pendingRollback := none } payload.memberId payload.row)
  | .beginEvidence intent => do
    require record.pendingRollback.isNone journalRejected
    require (intent.value == .publicationEvidence .evidenceCommit) journalRejected
    require (intent.matches current "@publication" "begin_evidence_rollback" "prepared")
      journalRejected
    .ok { record with pendingRollback := some intent.value }
  | .advanceEvidence proof => do
    let old ← evidenceStep record.pendingRollback
    let new ← evidenceStep (some proof.value)
    require (nextEvidence old == some new) journalRejected
    require (proof.matches current "@publication" "advance_evidence_rollback" (phaseEvidence old))
      journalRejected
    .ok { record with pendingRollback := some proof.value }
  | .finishEvidence proof => do
    let old ← evidenceStep record.pendingRollback
    require (old == .complete) journalRejected
    require (proof.matches current "@publication" "finish_evidence_rollback" "complete")
      journalRejected
    let publication ← orRefuse record.publication journalRejected
    .ok { record with
      pendingRollback := none
      publication := some { publication with evidenceRolledBack := true } }
  | .beginSelectedRoot intent => do
    require record.pendingRollback.isNone journalRejected
    require (intent.value == .selectedRootMetadata .manifest) journalRejected
    require (intent.matches current "@root" "begin_root_metadata_rollback" "prepared")
      journalRejected
    .ok { record with pendingRollback := some intent.value }
  | .advanceSelectedRoot proof => do
    let old ← rootStep record.pendingRollback
    let new ← rootStep (some proof.value)
    require (nextRoot old == some new) journalRejected
    require (proof.matches current "@root" "advance_root_metadata_rollback" (phaseRoot old))
      journalRejected
    .ok { record with pendingRollback := some proof.value }
  | .finishSelectedRoot proof => do
    let old ← rootStep record.pendingRollback
    require (old == .complete) journalRejected
    require (proof.matches current "@root" "finish_root_metadata_rollback" "complete")
      journalRejected
    .ok { record with pendingRollback := none }

/-! ## Drift -/

/-- Puts `value` in place of the `n`th row that matches, or after all rows if exactly `n` do. -/
def recordParticipantDrift (identity : ParticipantDriftIdentity) (value : ParticipantDrift) :
    Nat → List ParticipantDrift → Option (List ParticipantDrift)
  | 0, [] => some [value]
  | _ + 1, [] => none
  | n, row :: rest =>
    if identity.matches row then
      match n with
      | 0 => some (value :: rest)
      | n + 1 => (recordParticipantDrift identity value n rest).map (row :: ·)
    else (recordParticipantDrift identity value n rest).map (row :: ·)

/-- Removes the `n`th row that matches. -/
def removeParticipantDrift (identity : ParticipantDriftIdentity) :
    Nat → List ParticipantDrift → Option (List ParticipantDrift)
  | _, [] => none
  | n, row :: rest =>
    if identity.matches row then
      match n with
      | 0 => some rest
      | n + 1 => (removeParticipantDrift identity n rest).map (row :: ·)
    else (removeParticipantDrift identity n rest).map (row :: ·)

/-- Replaces the first drift of the value's kind, or adds the value. -/
def replaceOrPush (value : OperationDrift) : List OperationDrift → List OperationDrift
  | [] => [value]
  | row :: rest => if row.kind == value.kind then value :: rest else row :: replaceOrPush value rest

def removeExact (expected : OperationDrift) (rows : List OperationDrift) :
    Option (List OperationDrift) :=
  if rows.contains expected then some (rows.erase expected) else none

def reduceDrift (current : StoredV1Record env) (transition : DriftTransition) :
    ModelResult MergeOperationRecordV1 :=
  let record := current.record
  match transition with
  | .recordParticipant fact => do
    let payload := fact.value
    require (fact.matches current payload.memberId "record_drift" "observed") rejected
    require (payload.identity.matches payload.drift) rejected
    let row ← orRefuse record.participants[payload.memberId]? rejected
    let drift ← orRefuse (recordParticipantDrift payload.identity payload.drift
      payload.identity.occurrence row.drift) rejected
    .ok (withRow record payload.memberId { row with drift := drift })
  | .clearParticipant proof => do
    let payload := proof.value
    require (proof.matches current payload.memberId "clear_drift" "verified") rejected
    require (payload.identity.matches payload.drift) rejected
    let row ← orRefuse record.participants[payload.memberId]? rejected
    let drift ← orRefuse (removeParticipantDrift payload.identity payload.identity.occurrence
      row.drift) rejected
    .ok (withRow record payload.memberId { row with drift := drift })
  | .recordOperation fact => do
    require (fact.matches current "@operation" "record_drift" "observed") rejected
    .ok { record with operationDrift := replaceOrPush fact.value record.operationDrift }
  | .clearOperation proof => do
    require (proof.matches current "@operation" "clear_drift" "verified") rejected
    let drift ← orRefuse (removeExact proof.value record.operationDrift) rejected
    .ok { record with operationDrift := drift }

/-! ## One transition -/

/-- The fields a transition writes, before the result is stamped and validated. -/
def reduce (current : StoredV1Record env) (transition : V1Transition) :
    ModelResult MergeOperationRecordV1 :=
  match transition with
  | .operation value => reduceOperation current value
  | .participant value => reduceParticipant current value
  | .acceptance (.freeze accepted) => reduceAcceptance current accepted
  | .publication value => reducePublication current value
  | .recovery value => reduceRecovery current value
  | .preservation value => reducePreservation current value
  | .rollback value => reduceRollback current value
  | .drift value => reduceDrift current value

/-- The record stamped with the version of this program. -/
def stamp (record : MergeOperationRecordV1) : MergeOperationRecordV1 :=
  { record with writerVersion := packageVersion }

def applyTransition (current : StoredV1Record env) (transition : V1Transition) :
    ModelResult MergeOperationRecordV1 := do
  let next ← reduce current transition
  validateV1Record env (stamp next)
  .ok (stamp next)

end GwzCore.Merge
