import GwzCore.HistoryCheck.Contract

/-!
# Unsaved work

The work observed in one repository and the decoded records beside it, classified into
hazards and unknown reasons. The classifier reads nothing: what the caller could not
establish is an unknown reason, and an uninterpretable record is a hazard and a reason.
-/
namespace GwzCore.WorkDetector
open HistoryCheck List

abbrev BytePath := List UInt8

/-- A reason with the entry it concerns, when there is one. -/
structure LocatedReason extends UnknownReason where
  path : Option BytePath
  deriving DecidableEq

def LocatedReason.new (kind : UnknownKind) (detail : String) : LocatedReason :=
  ⟨⟨kind, detail⟩, none⟩

inductive Observation (α : Type) where
  | known (value : α)
  | unknown (reasons : List LocatedReason)
  deriving DecidableEq

inductive WorkKind where
  | staged
  | unstaged
  | untracked
  | ignored
  | conflict
  | modeChange
  | linkChange
  | renamed
  | deleted
  deriving DecidableEq

structure WorkEntry where
  path : BytePath
  kind : WorkKind
  binary : Option Bool
  deriving DecidableEq

inductive SuppressionFlag where
  | assumeUnchanged
  | skipWorktree
  | other
  deriving DecidableEq

inductive PhysicalState where
  | matchesIndex
  | differs
  | absent
  | unobservable
  deriving DecidableEq

structure SuppressedEntry where
  path : BytePath
  flag : SuppressionFlag
  physical : PhysicalState
  deriving DecidableEq

inductive NativeOperation where
  | merge
  | rebase
  | cherryPick
  | revert
  | bisect
  | applyMailbox
  | other
  deriving DecidableEq

structure WorkObservation where
  entries : List WorkEntry
  suppressed : List SuppressedEntry
  sparseAbsent : List BytePath
  nativeOperation : Option NativeOperation
  stashEntries : ℕ
  /-- Entries the observer could not establish. -/
  unknown : List LocatedReason
  deriving DecidableEq

inductive EvidenceState where
  | none
  | open (detail : String)
  | unknown (detail : String)
  deriving DecidableEq

structure EvidenceItem where
  kind : String
  state : EvidenceState
  deriving DecidableEq

structure GwzEvidence where
  merge : EvidenceState
  stash : EvidenceState
  other : List EvidenceItem
  deriving DecidableEq

/-! ### Provenance -/

inductive Provenance where
  | unique
  | unchangedCopy
  | changedCopy
  | regenerable
  deriving DecidableEq

/-- Only what the clone alone holds refuses. -/
def Provenance.refuses : Provenance → Bool
  | .unique | .changedCopy => true
  | .unchangedCopy | .regenerable => false

structure CopyBaseline where
  entries : FiniteMap BytePath Provenance
  stash : Provenance

def CopyBaseline.default : CopyBaseline := ⟨∅, .unique⟩

def CopyBaseline.entry (baseline : CopyBaseline) (path : BytePath) : Provenance :=
  baseline.entries[path]?.getD .unique

/-! ### Hazards -/

inductive WorkVerdict where
  | clean
  | dirty
  | unknown
  deriving DecidableEq

inductive HazardKind where
  | work (kind : WorkKind)
  | suppressed
  | openNativeOperation
  | openGwzMerge
  | openGwzStash
  | uninterpretableEvidence
  | nativeStash
  | openGwzRecord
  deriving DecidableEq

/-- The name that waives a hazard; none for one that arrives with an unknown reason. -/
def HazardKind.forceName : HazardKind → Option String
  | .work _ | .suppressed | .nativeStash => some "dirty"
  | .openNativeOperation | .openGwzMerge | .openGwzStash | .openGwzRecord => some "open-merge"
  | .uninterpretableEvidence => none

structure Hazard where
  kind : HazardKind
  path : Option BytePath
  detail : String
  provenance : Provenance
  deriving DecidableEq

def workDetail (kind : WorkKind) (binary : Option Bool) : String :=
  let cause := match kind with
    | .staged => "staged change"
    | .unstaged => "unstaged change"
    | .untracked => "untracked file"
    | .ignored => "ignored user data (ignored does not mean disposable)"
    | .conflict => "conflict stages in the index"
    | .modeChange => "file mode change"
    | .linkChange => "symbolic link change"
    | .renamed => "rename"
    | .deleted => "deletion"
  match binary with
  | some true => s!"{cause}, binary content"
  | some false => s!"{cause}, text content"
  | none => cause

def nativeOperationDetail : NativeOperation → String
  | .merge => "unfinished native git merge"
  | .rebase => "unfinished native git rebase"
  | .cherryPick => "unfinished native git cherry-pick"
  | .revert => "unfinished native git revert"
  | .bisect => "unfinished native git bisect"
  | .applyMailbox => "unfinished native git mailbox application"
  | .other => "unfinished native git operation"

def flagName : SuppressionFlag → String
  | .assumeUnchanged => "assume-unchanged"
  | .skipWorktree => "skip-worktree"
  | .other => "uninterpreted index flag"

/-! ### Classification -/

/-- What the classifier notes, in order. -/
inductive Note where
  | hazard (hazard : Hazard)
  | unknown (reason : LocatedReason)

def Note.hazard? : Note → Option Hazard
  | .hazard found => some found
  | .unknown _ => none

def Note.unknown? : Note → Option LocatedReason
  | .hazard _ => none
  | .unknown reason => some reason

/-- A status-suppressed tracked path is classified from its physical state. -/
def suppressed (entry : SuppressedEntry) (sparse : List BytePath) : List Note :=
  let name := flagName entry.flag
  let uninterpreted := decide (entry.flag = .other)
  let hazard detail := [Note.hazard ⟨.suppressed, some entry.path, detail, .unique⟩]
  let unknown kind detail := [Note.unknown ⟨⟨kind, detail⟩, some entry.path⟩]
  match entry.physical with
  | .unobservable => unknown .unreadable s!"{name} path: the worktree bytes could not be observed"
  | .differs => hazard s!"{name} path: the worktree bytes differ from the index"
  | .matchesIndex =>
    if uninterpreted then unknown .unsupportedIndexFlag
      s!"{name}: the bytes match the index, but what else the flag suppresses is not interpreted"
    else []
  | .absent =>
    if uninterpreted then unknown .unsupportedIndexFlag
      s!"{name}: the path is absent and the flag is not interpreted"
    else if sparse.contains entry.path then []
    else if entry.flag = .assumeUnchanged then hazard s!"{name} path: absent from the worktree"
    else unknown .unsupportedIndexFlag
      s!"{name} path: absent with no recorded valid sparse absence"

attribute [local simp] suppressed

def stashNotes (count : ℕ) (baseline : CopyBaseline) : List Note :=
  let plural := if count = 1 then "y" else "ies"
  if 0 < count then
    [.hazard ⟨.nativeStash, none, s!"{count} native stash entr{plural}", baseline.stash⟩]
  else []

def observationNotes (observation : WorkObservation) (baseline : CopyBaseline) : List Note :=
  (observation.entries.map fun entry => Note.hazard ⟨.work entry.kind, some entry.path,
      workDetail entry.kind entry.binary, baseline.entry entry.path⟩) ++
    (observation.suppressed.flatMap fun entry => suppressed entry observation.sparseAbsent) ++
    (observation.nativeOperation.toList.map fun operation =>
      Note.hazard ⟨.openNativeOperation, none, nativeOperationDetail operation, .unique⟩) ++
    stashNotes observation.stashEntries baseline ++
    observation.unknown.map Note.unknown

/-- One decoded record. -/
def recordNotes (label : String) (opened : HazardKind) : EvidenceState → List Note
  | .none => []
  | .open detail => [.hazard ⟨opened, none, s!"{label}: {detail}", .unique⟩]
  | .unknown detail =>
    [.hazard ⟨.uninterpretableEvidence, none, s!"{label}: {detail}", .unique⟩,
      .unknown (.new .unsupportedEvidence s!"{label}: {detail}")]

def evidenceNotes (evidence : GwzEvidence) : List Note :=
  recordNotes "gwz merge record" .openGwzMerge evidence.merge ++
    recordNotes "gwz stash record" .openGwzStash evidence.stash ++
    evidence.other.flatMap fun item => recordNotes item.kind .openGwzRecord item.state

structure WorkReport where
  verdict : WorkVerdict
  hazards : List Hazard
  unknown : List LocatedReason
  truncated : Bool
  deriving DecidableEq

def maxDetailedEntries : ℕ := 128

/-- Diagnostic text past the bound is cut; every entry stays. -/
def dropDetails {α : Type} (clear : α → α) (items : List α) : List α × Bool :=
  if items.length ≤ maxDetailedEntries then (items, false)
  else (items.take maxDetailedEntries ++ (items.drop maxDetailedEntries).map clear, true)

def finish (notes : List Note) : WorkReport :=
  let (hazards, hazardsCut) :=
    dropDetails (fun hazard : Hazard => { hazard with detail := "" }) (notes.filterMap Note.hazard?)
  let (unknown, unknownCut) :=
    dropDetails (fun reason : LocatedReason => { reason with detail := "" })
      (notes.filterMap Note.unknown?)
  let verdict : WorkVerdict :=
    if unknown = [] then
      if hazards.any fun hazard => hazard.provenance.refuses then .dirty else .clean
    else .unknown
  ⟨verdict, hazards, unknown, hazardsCut || unknownCut⟩

def classifyWorkAgainst (observation : WorkObservation) (evidence : GwzEvidence)
    (baseline : CopyBaseline) : WorkReport :=
  finish (observationNotes observation baseline ++ evidenceNotes evidence)

def classifyObservedWorkAgainst (observation : Observation WorkObservation)
    (evidence : GwzEvidence) (baseline : CopyBaseline) : WorkReport :=
  match observation with
  | .known known => classifyWorkAgainst known evidence baseline
  | .unknown reasons => finish (reasons.map Note.unknown ++ evidenceNotes evidence)

/-! ### What a report without unknown reasons establishes -/

lemma dropDetails_eq_nil {α : Type} {clear : α → α} {items : List α} :
    (dropDetails clear items).1 = [] ↔ items = [] := by
  unfold dropDetails
  split_ifs with h
  · rfl
  · constructor
    · intro hnil
      obtain ⟨htake, -⟩ := append_eq_nil_iff.mp hnil
      rw [take_eq_nil_iff] at htake
      exact htake.resolve_left (by decide)
    · rintro rfl
      exact absurd (Nat.zero_le _) h

lemma finish_unknown_eq_nil {notes : List Note} :
    (finish notes).unknown = [] ↔ ∀ note ∈ notes, note.unknown? = none := by
  have h : (finish notes).unknown = [] ↔ notes.filterMap Note.unknown? = [] := dropDetails_eq_nil
  rw [h, filterMap_eq_nil_iff]

/-- The physical state of a suppressed path settles what the flag hides. -/
def SuppressedEntry.Settled (entry : SuppressedEntry) (sparse : List BytePath) : Prop :=
  match entry.physical with
  | .unobservable => False
  | .differs => True
  | .matchesIndex => entry.flag ≠ .other
  | .absent => entry.flag ≠ .other ∧ (entry.path ∈ sparse ∨ entry.flag = .assumeUnchanged)

lemma suppressed_settled {entry : SuppressedEntry} {sparse : List BytePath}
    (h : ∀ note ∈ suppressed entry sparse, note.unknown? = none) : entry.Settled sparse := by
  obtain ⟨path, flag, physical⟩ := entry
  cases physical with
  | differs => trivial
  | unobservable => simp [Note.unknown?] at h
  | matchesIndex =>
    rintro rfl
    simp [Note.unknown?] at h
  | absent =>
    by_cases hother : flag = .other
    · simp [hother, Note.unknown?] at h
    · refine ⟨hother, ?_⟩
      by_contra hneither
      push Not at hneither
      simp [hother, hneither, Note.unknown?] at h

def EvidenceState.Interpreted (state : EvidenceState) : Prop := ∀ detail, state ≠ .unknown detail

lemma recordNotes_interpreted {label : String} {opened : HazardKind} {state : EvidenceState}
    (h : ∀ note ∈ recordNotes label opened state, note.unknown? = none) : state.Interpreted := by
  rintro detail rfl
  simp [recordNotes, Note.unknown?] at h

/-- Everything the observer and the records could have left unknown is established. -/
structure Established (observation : WorkObservation) (evidence : GwzEvidence) : Prop where
  entries : observation.unknown = []
  suppressed : ∀ entry ∈ observation.suppressed, entry.Settled observation.sparseAbsent
  merge : evidence.merge.Interpreted
  stash : evidence.stash.Interpreted
  other : ∀ item ∈ evidence.other, item.state.Interpreted

lemma established_of_unknown_eq_nil {observation : WorkObservation} {evidence : GwzEvidence}
    {baseline : CopyBaseline}
    (h : (classifyWorkAgainst observation evidence baseline).unknown = []) :
    Established observation evidence := by
  rw [classifyWorkAgainst, finish_unknown_eq_nil] at h
  simp only [observationNotes, evidenceNotes, mem_append, or_imp, forall_and] at h
  obtain ⟨⟨⟨⟨⟨-, hsuppressed⟩, -⟩, -⟩, hentries⟩, ⟨hmerge, hstash⟩, hother⟩ := h
  refine ⟨?_, ?_, recordNotes_interpreted hmerge, recordNotes_interpreted hstash, ?_⟩
  · rw [eq_nil_iff_forall_not_mem]
    intro reason hreason
    have hnone := hentries _ (mem_map_of_mem hreason)
    cases hnone
  · intro entry hentry
    exact suppressed_settled fun note hnote => hsuppressed note (mem_flatMap_of_mem hentry hnote)
  · intro item hitem
    exact recordNotes_interpreted fun note hnote => hother note (mem_flatMap_of_mem hitem hnote)

end GwzCore.WorkDetector
