import GwzCore.Merge.Record

/-!
# What the bytes of a record mean

A merge record freezes the bytes of manifests, locks and markers next to their digests.
Their decoders and the digest function are given to the validators from outside.
-/
namespace GwzCore.Merge

structure ManifestMember where
  id : String
  path : String
  sourceKind : ArtifactSourceKind
  sourceId : String
  active : Bool
  deriving DecidableEq

structure ManifestArtifact where
  workspaceId : String
  members : List ManifestMember
  deriving DecidableEq

structure ResolvedMemberArtifact where
  path : String
  sourceId : Option String
  sourceKind : ArtifactSourceKind
  commit : Option String
  branch : Option String
  detached : Option Bool
  upstream : Option String
  dirty : Option Bool
  materialized : Option Bool
  deriving DecidableEq

structure LockArtifact where
  workspaceId : String
  members : FiniteMap String ResolvedMemberArtifact
  deriving DecidableEq

structure MarkerRootArtifact where
  path : String
  beforeCommit : Option String
  branch : Option String
  deriving DecidableEq

structure MarkerMergeParticipantArtifact where
  targetKind : MergeTargetKind
  targetBranch : String
  beforeCommit : String
  sourceCommit : String
  resultingCommit : String
  deriving DecidableEq

structure MarkerMergeArtifact where
  mergeId : String
  operationId : String
  sourceRef : String
  selectedTargets : List String
  participants : FiniteMap String MarkerMergeParticipantArtifact
  rootMergeCommit : Option String
  deriving DecidableEq

structure MarkerArtifact where
  gwzCommitId : String
  workspaceId : String
  originUrlHash : Option String
  createdAt : String
  createdByActorId : String
  root : MarkerRootArtifact
  selectedTargets : List String
  committedTargets : List String
  members : FiniteMap String ResolvedMemberArtifact
  merge : Option MarkerMergeArtifact
  deriving DecidableEq

def lockPath : String := "gwz.conf/gwz.lock.yml"

def markerDir : String := "gwz.conf/markers"

def confIntegrityMarkerPath : String := "gwz.conf/markers/conf-integrity.yml"

/-- The decoders and the digest the validators call. -/
structure Artifacts where
  digest : String → String
  manifest : String → Option ManifestArtifact
  lock : String → Option LockArtifact
  lockRows : String → Option (FiniteMap String AcceptedLockMemberV1)
  marker : String → Option MarkerArtifact
  confIntegrityForBytes : (manifest lock : String) → ModelResult String
  /-- The digest that binds an entry into reverse work to the record it anticipates. -/
  payloadHash : MergeOperationRecordV1 → String

end GwzCore.Merge
