import GwzCore.Merge.Footprint

/-!
# The dispatcher

What a lifecycle request does next with a stored record: observe something of the
workspace, apply a transition at once, answer, or refuse. An invocation remembers which
participants it has prepared; its own dispatch skips a conflicted participant that it has
already visited.
-/
namespace GwzCore.Merge

/-! ## Observations -/

inductive ObservationKind where
  | participantPreparation (memberId : String)
  | participantAction (memberId : String)
  | participantsComplete
  | acceptance
  | publication
  | preservationEntry
  | preservationCursor
  | rollbackEntry
  | rollbackCursor
  | recovery
  | archive
  deriving DecidableEq

structure ObservationKey where
  request : V1LifecycleRequest
  kind : ObservationKind
  owner : String
  deriving DecidableEq

structure BoundObservationRequest where
  bound : BoundValue ObservationKey
  deriving DecidableEq

def observationOwner : ObservationKind → String
  | .participantPreparation memberId | .participantAction memberId => memberId
  | .acceptance | .participantsComplete | .preservationEntry | .rollbackEntry | .recovery
  | .archive => "@operation"
  | .publication => "@publication"
  | .preservationCursor => "@preservation"
  | .rollbackCursor => "@rollback"

inductive V1ResponseDisposition where
  | status
  | stopped (state : OperationState)
  | terminal (state : OperationState)
  | archiveReady
  deriving DecidableEq

inductive V1NextAction where
  | observe (request : BoundObservationRequest)
  | apply (transition : V1Transition)
  | respond (disposition : V1ResponseDisposition)
  | reject (error : ModelError)

def dispatchError (detail : String) : ModelError :=
  ⟨.mergeRecoveryRequired, "v1 lifecycle dispatch rejected: " ++ detail⟩

section

variable {env : Artifacts} (current : StoredV1Record env)

def BoundObservationRequest.issue (request : V1LifecycleRequest) (kind : ObservationKind) :
    BoundObservationRequest :=
  ⟨BoundValue.new current (observationOwner kind) "observe" "requested"
    ⟨request, kind, observationOwner kind⟩⟩

def BoundObservationRequest.kind (observation : BoundObservationRequest) : ObservationKind :=
  observation.bound.value.kind

end

/-! ## Dispatch of a record -/

section

variable {env : Artifacts} (current : StoredV1Record env)

def observe (request : V1LifecycleRequest) (kind : ObservationKind) : ModelResult V1NextAction :=
  .ok (.observe (.issue current request kind))

def reject (detail : String) : ModelResult V1NextAction :=
  .ok (.reject (dispatchError detail))

def applyOperation (transition : OperationTransition) : ModelResult V1NextAction :=
  .ok (.apply (.operation transition))

/-- The first row, in the order of the keys, with a pending action. -/
def pendingParticipant (record : MergeOperationRecordV1) : Option String :=
  (record.participants.toList.find? (·.2.pendingAction.isSome)).map (·.1)

/-- A row that forward work still has to prepare. -/
def isForwardCandidate (request : V1LifecycleRequest) (row : MergeParticipantRecord) : Bool :=
  row.state == .planned || row.state == .failed || row.state == .unattempted
    || (request == .continue && row.state == .conflicted)

def nextForwardParticipant (record : MergeOperationRecordV1) (request : V1LifecycleRequest) :
    Option String :=
  record.selectedTargets.find? fun id =>
    record.participants[id]?.any (isForwardCandidate request)

def executing (request : V1LifecycleRequest) : ModelResult V1NextAction :=
  let record := current.record
  match request with
  | .abort => observe current request .rollbackEntry
  | .preserve => observe current request .preservationEntry
  | .archive => reject "an open merge cannot be archived"
  -- a status request is answered before any dispatch
  | .status => reject "unreachable"
  | .resumeStart | .continue =>
    match nextForwardParticipant record request with
    | some memberId => observe current request (.participantPreparation memberId)
    | none =>
      if (rows record).any (·.state == .conflicted) then applyOperation .awaitResolution
      else if hasHaltCause record then applyOperation .halt
      else observe current request .participantsComplete

/-- A merge that waits for a resolution or is halted. -/
def stopped (request : V1LifecycleRequest) : ModelResult V1NextAction :=
  let record := current.record
  match request with
  | .resumeStart => .ok (.respond (.stopped record.state))
  | .continue =>
    if record.state == .awaitingResolution then
      match record.selectedTargets.find? fun id =>
          record.participants[id]?.any (·.state == .conflicted) with
      | some memberId => observe current request (.participantPreparation memberId)
      | none => .error (dispatchError "awaiting-resolution has no conflicted owner")
    else applyOperation .beginExecution
  | .abort => observe current request .rollbackEntry
  | .preserve => observe current request .preservationEntry
  | .status | .archive => reject "request is not legal while the merge is stopped"

def finalizing (request : V1LifecycleRequest) : ModelResult V1NextAction :=
  match request with
  | .archive => reject "an open merge cannot be archived"
  | .abort => observe current request .rollbackEntry
  | .preserve => observe current request .preservationEntry
  | .resumeStart | .continue | .status =>
    observe current request
      (if current.record.acceptedWorkspace.isNone then .acceptance else .publication)

def nextAction (request : V1LifecycleRequest) : ModelResult V1NextAction :=
  let record := current.record
  if request == .status then .ok (.respond .status)
  else if record.state == .completed || record.state == .aborted then
    if request == .archive then observe current request .archive
    else .ok (.respond (.terminal record.state))
  else if record.state == .recoveryRequired then observe current request .recovery
  else if record.pendingPreservation.isSome then observe current request .preservationCursor
  else if record.pendingRollback.isSome then observe current request .rollbackCursor
  else match pendingParticipant record with
    | some memberId => observe current request (.participantAction memberId)
    | none =>
      match record.state with
      | .executing => executing current request
      | .awaitingResolution | .halted => stopped current request
      | .finalizing => finalizing current request
      | .preserving => observe current request .preservationCursor
      | .rollingBack => observe current request .rollbackCursor
      -- answered above
      | .completed | .aborted | .recoveryRequired => reject "unreachable"

end

/-! ## The memory of one invocation -/

structure V1Invocation where
  preparationOwners : List String

namespace V1Invocation

def new : V1Invocation := ⟨[]⟩

variable {env : Artifacts} (invocation : V1Invocation) (current : StoredV1Record env)

def visited (memberId : String) : Bool := invocation.preparationOwners.contains memberId

def isUnvisitedCandidate (record : MergeOperationRecordV1) (target : String)
    (request : V1LifecycleRequest) : Bool :=
  record.participants[target]?.any fun row =>
    row.state == .planned || row.state == .failed || row.state == .unattempted
      || (request == .continue && row.state == .conflicted && !invocation.visited target)

/-- A conflicted owner that was already visited gives way to a later one. -/
def skip (request : V1LifecycleRequest) (memberId : String) (action : V1NextAction) :
    ModelResult V1NextAction :=
  let record := current.record
  match record.participants[memberId]? with
  | none => .error (dispatchError "preparation owner is missing from the record")
  | some row =>
    if row.state != .conflicted then .ok action
    else
      match ((laterTargets memberId record.selectedTargets).getD []).find?
          fun target => invocation.isUnvisitedCandidate record target request with
      | some next => Merge.observe current request (.participantPreparation next)
      | none => applyOperation .awaitResolution

def nextAction (request : V1LifecycleRequest) : ModelResult V1NextAction := do
  let action ← Merge.nextAction current request
  match action with
  | .observe requested =>
    match requested.kind with
    | .participantPreparation memberId =>
      if invocation.visited memberId then invocation.skip current request memberId action
      else .ok action
    | _ => .ok action
  | _ => .ok action

end V1Invocation

end GwzCore.Merge
