import GwzCore.FamilyModel.Transition
import GwzCore.Lib.HostPath
import GwzCore.Lib.Stopping
import GwzCore.WorkDetector

/-!
# What disposal consults

The held family session and the disposal ports as they answer, whatever they answer: each
call moves a state of the host's own and is kept with its answer. A disposal is a
computation over that host which reports its effects and may stop with an error.
-/
namespace GwzCore.LocalDisposal
open FamilyModel HistoryCheck HostPath WorkDetector

/-! ### The family store -/

inductive StoreOperation where
  | readIndex
  | readPointer
  | readMarker
  | lock
  | writeIndex
  | removeIndex
  | writePointer
  | removePointer
  | writeMarker
  | removeMarker
  deriving DecidableEq

/-- One completed metadata effect. -/
inductive MetadataEffect where
  | indexWritten
  | indexRemoved
  | pointerWritten (workspace : Path)
  | pointerRemoved (workspace : Path)
  | markerWritten (workspace : Path)
  | markerRemoved (workspace : Path)
  deriving DecidableEq

inductive StoreError where
  | busy (lockPath : Path)
  | lockingUnsupported (detail : String)
  | malformed (path : Path) (detail : String)
  | oversize (path : Path) (bytes limit : ℕ)
  | conflictingMetadata (workspace : Path)
  | pointerTargetInvalid (pointer root : Path) (detail : String)
  | noFamily (workspace : Path)
  | refused (refusal : Refusal)
  | io (operation : StoreOperation) (path : Path) (detail : String)
  /-- A failure after some effects of the operation completed. -/
  | partialEffects (operation : StoreOperation) (completed : List MetadataEffect) (path : Path)
      (detail : String)
  | pointerStillInstalled (member : String) (workspace : Path)
  | pathMismatch (member : String) (recorded requested : Path)
  | unimplemented (operation : StoreOperation)
  deriving DecidableEq

structure AppliedChange where
  effects : List MetadataEffect
  view : Option FamilyView

/-! ### Hazards and findings -/

inductive HazardWaiver where
  | openMerge
  | dirty
  | unpreservedHistory
  deriving DecidableEq

namespace HazardWaiver

def all : List HazardWaiver := [.openMerge, .dirty, .unpreservedHistory]

def asStr : HazardWaiver → String
  | .openMerge => "open-merge"
  | .dirty => "dirty"
  | .unpreservedHistory => "unpreserved-history"

def parse (name : String) : Option HazardWaiver := all.find? fun waiver => waiver.asStr = name

end HazardWaiver

/-- One repository's refusal under one waiver name. -/
structure HazardFinding where
  waiver : HazardWaiver
  repository : RepoKey
  hazards : List Hazard
  detail : Option String
  deriving DecidableEq

def HazardFinding.refuses (finding : HazardFinding) : Bool :=
  finding.detail.isSome || finding.hazards.any fun hazard => hazard.provenance.refuses

/-! ### The disposal ports -/

/-- The resolved directories of a repository; its other facts are not read here. -/
structure RepositoryInfo where
  path : Path
  gitDir : Path
  commonDir : Path
  deriving DecidableEq

structure RepositoryEvidence where
  key : RepoKey
  info : RepositoryInfo
  work : Observation WorkObservation
  gwz : GwzEvidence
  history : Observation ProtectedRoots

structure CopiedRepository where
  key : RepoKey
  baseline : CopyBaseline

structure CopyWitness where
  repositories : List CopiedRepository

def CopyWitness.baseline (witness : CopyWitness) (key : RepoKey) : Option CopyBaseline :=
  (witness.repositories.find? fun repository => repository.key = key).map CopiedRepository.baseline

structure TargetEvidence where
  target : TargetObservation
  repositories : List RepositoryEvidence
  copy : Option CopyWitness
  unknown : List LocatedReason

structure HistoryQuery where
  target : RepoKey
  protectedRoots : ProtectedRoots
  deriving DecidableEq

inductive HistoryAnswer where
  | preserved
  | unpreserved (detail : String)
  | unknown (reasons : List LocatedReason)
  deriving DecidableEq

inductive PortError where
  | evidence (detail : String)
  | removal (path : Path) (detail : String)
  | unimplemented (operation : String)
  deriving DecidableEq

def PortError.display : PortError → String
  | .evidence detail => s!"evidence: {detail}"
  | .removal path detail => s!"{HostPath.display path}: {detail}"
  | .unimplemented operation => s!"{operation} is not implemented"

structure RemovalFailure where
  error : PortError
  remaining : List Path
  deriving DecidableEq

/-! ### The request and its outcome -/

inductive DisposePolicy where
  | keep
  | delete (waivers : List HazardWaiver)
  deriving DecidableEq

structure DisposeRequest where
  name : MemberName
  policy : DisposePolicy
  /-- The registering root. -/
  root : Path
  /-- The working directory of the invoking process. -/
  cwd : Path

inductive DisposeEffect where
  | pointerRemoved
  | rowDetached
  | rowDisposing
  | directoryRemoved
  | rowRemoved
  deriving DecidableEq

inductive DisposeError where
  | refused (refusal : Refusal)
  | rootImmutable
  | targetContainsCwd (target : Path)
  | pathMismatch (expected : Path) (observed : String)
  | hazards (findings : List HazardFinding)
  | unknown (reasons : List LocatedReason)
  | store (error : StoreError)
  | port (error : PortError)
  | removalStopped (remaining : List Path) (detail : String)
  deriving DecidableEq

structure DisposeReport where
  effects : List DisposeEffect
  waived : List HazardFinding
  deriving DecidableEq

structure DisposeFailure where
  error : DisposeError
  effects : List DisposeEffect
  deriving DecidableEq

/-! ### The host -/

/-- The session and the ports, over a state of their own. -/
structure Host (σ : Type) where
  root : Path
  reread : σ → Except StoreError (Option FamilyView) × σ
  apply : FamilyChange → σ → Except StoreError AppliedChange × σ
  removePointer : MemberName → σ → Except StoreError AppliedChange × σ
  observeTarget : Path → σ → Except PortError TargetEvidence × σ
  checkHistory : HistoryQuery → σ → HistoryAnswer × σ
  removeDirectory : Path → σ → Except RemovalFailure Unit × σ

/-- A call and its answer. -/
inductive Call where
  | reread (answer : Except StoreError (Option FamilyView))
  | apply (change : FamilyChange) (answer : Except StoreError AppliedChange)
  | removePointer (name : MemberName) (answer : Except StoreError AppliedChange)
  | observeTarget (target : Path) (answer : Except PortError TargetEvidence)
  | checkHistory (query : HistoryQuery) (answer : HistoryAnswer)
  | removeDirectory (target : Path) (answer : Except RemovalFailure Unit)

structure World (σ : Type) where
  host : σ
  /-- The calls made, in order. -/
  calls : List Call
  /-- The effects to report, in order. -/
  effects : List DisposeEffect

abbrev Disposing (σ : Type) := EStateM DisposeError (World σ)

section Calls
variable {σ α : Type}

/-- A call of the host, kept with its answer. -/
def ask (call : σ → α × σ) (kept : α → Call) : Disposing σ α := fun world =>
  let answer := call world.host
  .ok answer.1 { world with host := answer.2, calls := world.calls ++ [kept answer.1] }

/-- The answer of a store operation, or its error. -/
def storeAnswer (answer : Except StoreError α) : Disposing σ α :=
  match answer with
  | .ok value => pure value
  | .error error => throw (.store error)

def reread (host : Host σ) : Disposing σ (Except StoreError (Option FamilyView)) :=
  ask host.reread .reread

def applyChange (host : Host σ) (change : FamilyChange) :
    Disposing σ (Except StoreError AppliedChange) :=
  ask (host.apply change) (.apply change)

def removePointer (host : Host σ) (name : MemberName) :
    Disposing σ (Except StoreError AppliedChange) :=
  ask (host.removePointer name) (.removePointer name)

def observeTarget (host : Host σ) (target : Path) : Disposing σ (Except PortError TargetEvidence) :=
  ask (host.observeTarget target) (.observeTarget target)

def checkHistory (host : Host σ) (query : HistoryQuery) : Disposing σ HistoryAnswer :=
  ask (host.checkHistory query) (.checkHistory query)

def removeDirectory (host : Host σ) (target : Path) : Disposing σ (Except RemovalFailure Unit) :=
  ask (host.removeDirectory target) (.removeDirectory target)

def report (effect : DisposeEffect) : Disposing σ Unit :=
  modify fun world => { world with effects := world.effects ++ [effect] }

end Calls

end GwzCore.LocalDisposal
