import GwzCore.Merge.Validate.Journal

/-!
# Stored records and the tokens bound to them

A stored record is a valid record together with the digest of its bytes and the place they
were read from. Every value an observer hands to the reducer is bound to the stored record
it was observed on, to an owner, an action and a phase. A binding also holds the hash of
its value; a bound value is never changed, so that hash always agrees and is left out.
-/
namespace GwzCore.Merge

abbrev RecordDigest := String

/-- Paths are lists of components. -/
structure OpenRecordLocation where
  root : List String
  path : List String
  deriving DecidableEq

structure StoredV1Record (env : Artifacts) where
  record : MergeOperationRecordV1
  sourceDigest : RecordDigest
  location : OpenRecordLocation
  valid : validateV1Record env record = .ok ()

/-- The mutation lease of a workspace. -/
structure V1MutationLease where
  workspaceRoot : List String
  deriving DecidableEq

def V1MutationLease.covers (lease : V1MutationLease) (location : OpenRecordLocation) : Bool :=
  lease.workspaceRoot == location.root && lease.workspaceRoot.isPrefixOf location.path

structure BoundValue (α : Type) where
  sourceDigest : RecordDigest
  sourceLocation : OpenRecordLocation
  workspaceId : String
  mergeId : String
  operationId : String
  owner : String
  action : String
  phase : String
  value : α
  deriving DecidableEq

section

variable {env : Artifacts} {α : Type}

def BoundValue.new (current : StoredV1Record env) (owner action phase : String) (value : α) :
    BoundValue α where
  sourceDigest := current.sourceDigest
  sourceLocation := current.location
  workspaceId := current.record.workspaceId
  mergeId := current.record.mergeId
  operationId := current.record.operationId
  owner := owner
  action := action
  phase := phase
  value := value

def BoundValue.sameRecord (token : BoundValue α) (current : StoredV1Record env) : Bool :=
  token.sourceDigest == current.sourceDigest && token.sourceLocation == current.location
    && token.workspaceId == current.record.workspaceId && token.mergeId == current.record.mergeId
    && token.operationId == current.record.operationId

def BoundValue.matches (token : BoundValue α) (current : StoredV1Record env)
    (owner action phase : String) : Bool :=
  token.sameRecord current && token.owner == owner && token.action == action
    && token.phase == phase

end

/-! ## Entry into reverse work -/

inductive V1LifecycleRequest where
  | resumeStart | «continue» | abort | preserve | status | archive
  deriving DecidableEq

inductive ReverseEntryKind where
  | preservation | directRollback | exhaustedRollback
  deriving DecidableEq

/-- The handoff an observer found. It is the same data as the handoff a record keeps. -/
abbrev PublicationHandoffFact := PreservationPublicationHandoffV1

structure ReverseEntryAuthorityPayload where
  request : V1LifecycleRequest
  kind : ReverseEntryKind
  anticipatedModelSha256 : String
  publication : PublicationHandoffFact
  deriving DecidableEq

inductive RollbackAggregatePosition where
  | reverseEntry
  | evidencePending (step : EvidenceRollbackStepV1)
  | betweenParticipants (memberId : String)
  | participantPending (memberId : String) (kind : ParticipantRollbackKindV1)
  | noMutationParticipant (memberId : String)
  | selectedRootMetadataPending (step : RootMetadataRollbackStepV1)
  | exhaustion
  | recoveryPending (pending : PendingRollbackActionV1)
  deriving DecidableEq

structure RollbackAggregatePayload where
  position : RollbackAggregatePosition
  completedParticipants : List String
  publicationEvidenceComplete : Bool
  selectedRootProjection : Option RootMetadataRollbackStepV1
  projectionSha256 : String
  deriving DecidableEq

abbrev VerifiedRollbackPrefix := BoundValue RollbackAggregatePayload

abbrev VerifiedPublicationHandoff := BoundValue ReverseEntryAuthorityPayload

abbrev VerifiedPreservationEntryPreflight := BoundValue ReverseEntryAuthorityPayload

structure VerifiedRollbackEntryPreflight where
  bound : BoundValue ReverseEntryAuthorityPayload
  rollbackPrefix : VerifiedRollbackPrefix
  deriving DecidableEq

inductive RollbackEntryOrigin where
  | direct | fromPreserving
  deriving DecidableEq

structure EntryPayload where
  origin : RollbackEntryOrigin
  authority : ReverseEntryAuthorityPayload
  deriving DecidableEq

structure PreparedPreservationEntry where
  bound : BoundValue EntryPayload
  handoff : VerifiedPublicationHandoff
  preflight : VerifiedPreservationEntryPreflight
  deriving DecidableEq

structure PreparedRollbackEntry where
  bound : BoundValue EntryPayload
  handoff : VerifiedPublicationHandoff
  preflight : VerifiedRollbackEntryPreflight
  preservationExhausted : Option (BoundValue Unit)
  deriving DecidableEq

section

variable {env : Artifacts} (current : StoredV1Record env)

def VerifiedRollbackPrefix.matchesRecord (token : VerifiedRollbackPrefix) : Bool :=
  BoundValue.matches token current "@operation" "rollback_prefix" "aggregate_verified"

def VerifiedRollbackEntryPreflight.matches (preflight : VerifiedRollbackEntryPreflight)
    (owner action phase : String) : Bool :=
  preflight.bound.matches current owner action phase
    && VerifiedRollbackPrefix.matchesRecord current preflight.rollbackPrefix

def PreparedPreservationEntry.matches (entry : PreparedPreservationEntry)
    (owner action phase : String) : Bool :=
  entry.bound.matches current owner action phase
    && entry.handoff.matches current "@publication" "handoff" "verified"
    && entry.preflight.matches current "@operation" "preservation_entry_preflight" "verified"
    && entry.bound.value.authority == entry.handoff.value
    && entry.handoff.value == entry.preflight.value

def PreparedRollbackEntry.origin (entry : PreparedRollbackEntry) : RollbackEntryOrigin :=
  entry.bound.value.origin

def PreparedRollbackEntry.matches (entry : PreparedRollbackEntry) (owner action phase : String) :
    Bool :=
  entry.bound.matches current owner action phase
    && entry.handoff.matches current "@publication" "handoff" "verified"
    && entry.preflight.matches current "@operation" "rollback_entry_preflight" "verified"
    && entry.bound.value.authority == entry.handoff.value
    && entry.handoff.value == entry.preflight.bound.value
    && match entry.origin with
      | .direct => entry.preservationExhausted.isNone
      | .fromPreserving => entry.preservationExhausted.any
          (·.matches current "@operation" "preservation_exhausted" "verified")

end

def PreparedPreservationEntry.anticipatedModelMatches (env : Artifacts)
    (entry : PreparedPreservationEntry) (model : MergeOperationRecordV1) : Bool :=
  entry.bound.value.authority.anticipatedModelSha256 == env.payloadHash model

def PreparedPreservationEntry.publicationHandoff (entry : PreparedPreservationEntry) :
    PublicationHandoffFact :=
  entry.bound.value.authority.publication

def PreparedRollbackEntry.anticipatedModelMatches (env : Artifacts)
    (entry : PreparedRollbackEntry) (model : MergeOperationRecordV1) : Bool :=
  entry.bound.value.authority.anticipatedModelSha256 == env.payloadHash model

def PreparedRollbackEntry.publicationHandoff (entry : PreparedRollbackEntry) :
    PublicationHandoffFact :=
  entry.bound.value.authority.publication

/-! ## Payloads -/

structure ParticipantActionPayload where
  memberId : String
  row : MergeParticipantRecord
  deriving DecidableEq

structure ParticipantFailurePayload where
  memberId : String
  row : MergeParticipantRecord
  laterUnattempted : List String
  deriving DecidableEq

structure CandidatePayload where
  candidate : PublicationCandidate
  markerPath : String
  lockSha256 : String
  deriving DecidableEq

structure EvidencePayload where
  compositionCommit : String
  compositionTree : String
  rootMergeCommit : Option String
  candidateHashes : List PublicationCandidateHash
  deriving DecidableEq

structure RollbackExhaustedPayload where
  selectedRootManifestSha256 : Option String
  selectedRootLockSha256 : Option String
  deriving DecidableEq

inductive PreservationCursorPosition where
  | backupRef
  | stash (phase : PreservationStashPhaseV1)
  | resetAttachedRef (phase : PreservationRefResetPhaseV1)
  deriving DecidableEq

structure PreservationPayload where
  owner : PreservationOwnerV1
  observedPosition : PreservationCursorPosition
  pending : Option PendingPreservationActionV1
  evidence : Option PreservationEvidence
  publicationPrefix : Option String
  deriving DecidableEq

structure PreservationCursorPrefix where
  owner : PreservationOwnerV1
  position : PreservationCursorPosition
  deriving DecidableEq

/-- A preservation payload with the proof that the cursor stands at its position. -/
structure PreservationToken where
  bound : BoundValue PreservationPayload
  cursorPrefix : BoundValue PreservationCursorPrefix
  deriving DecidableEq

def PreservationToken.value (token : PreservationToken) : PreservationPayload := token.bound.value

def PreservationToken.matches {env : Artifacts} (token : PreservationToken)
    (current : StoredV1Record env) (owner action phase : String) : Bool :=
  token.bound.matches current owner action phase
    && token.cursorPrefix.matches current owner "preservation_cursor" "prefix_verified"
    && token.cursorPrefix.value.owner == token.bound.value.owner
    && token.cursorPrefix.value.position == token.bound.value.observedPosition

structure ParticipantDriftIdentity where
  kind : ParticipantDriftKind
  expectedBranch : Option String
  liveBranch : Option String
  expectedHead : Option String
  liveHead : Option String
  expectedMergeHead : Option String
  liveMergeHead : Option String
  occurrence : Nat
  deriving DecidableEq

def ParticipantDriftIdentity.matches (identity : ParticipantDriftIdentity)
    (drift : ParticipantDrift) : Bool :=
  identity.kind == drift.kind && identity.expectedBranch == drift.expectedBranch
    && identity.liveBranch == drift.liveBranch && identity.expectedHead == drift.expectedHead
    && identity.liveHead == drift.liveHead
    && identity.expectedMergeHead == drift.expectedMergeHead
    && identity.liveMergeHead == drift.liveMergeHead

structure ParticipantDriftPayload where
  memberId : String
  identity : ParticipantDriftIdentity
  drift : ParticipantDrift
  deriving DecidableEq

end GwzCore.Merge
