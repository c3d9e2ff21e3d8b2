import GwzCore.Lib.FiniteMap
import GwzCore.FamilyModel.Path

/-!
# The family index

A family is one root workspace and its named local clones. Names, ids and owner
tokens are checked once, when they are made, and the index maps each name to the row
of its clone.
-/
namespace GwzCore.FamilyModel
open Lines (isWhitespace)

/-! ### Names -/

/-- Names a clone may never take. -/
def reservedNames : List String := ["root", "origin", "HEAD", "FETCH_HEAD"]

/-- Directory shorthands, refused with the reserved names. -/
def reservedDirectoryNames : List String := [".", ".."]

inductive NameError where
  | empty
  | blank
  | surroundingWhitespace
  | control (c : Char)
  | separator (c : Char)
  | reserved (name : String)
  deriving DecidableEq

/-- The first rule of names that `name` breaks. -/
def nameError (name : String) : Option NameError :=
  if name = "" then some .empty
  else if name.toList.all isWhitespace then some .blank
  else if name.toList.head?.any isWhitespace ∨ name.toList.getLast?.any isWhitespace then
    some .surroundingWhitespace
  else match name.toList.find? isControl with
    | some c => some (.control c)
    | none =>
      match name.toList.find? fun c => decide (c = '/') || decide (c = ':') with
      | some c => some (.separator c)
      | none =>
        if name ∈ reservedNames ∨ name ∈ reservedDirectoryNames then some (.reserved name)
        else none

/-- A validated clone name. -/
structure MemberName where
  asStr : String
  valid : nameError asStr = none
  deriving DecidableEq

def MemberName.parse (name : String) : Except NameError MemberName :=
  match h : nameError name with
  | some error => .error error
  | none => .ok ⟨name, h⟩

/-- Names are compared as strings, exactly. -/
instance : Ord MemberName := ⟨compareOn MemberName.asStr⟩

instance : Std.TransOrd MemberName :=
  inferInstanceAs (Std.TransCmp (compareOn MemberName.asStr))

instance : Std.LawfulEqOrd MemberName where
  eq_of_compare {a b} h := by
    have hsame : a.asStr = b.asStr := Std.LawfulEqOrd.eq_of_compare h
    cases a
    cases b
    cases hsame
    rfl

/-! ### Ids and rows -/

inductive IdError where
  | empty
  deriving DecidableEq

/-- The core-minted identity of a family. -/
structure FamilyId where
  asStr : String
  nonblank : asStr.toList.all isWhitespace = false
  deriving DecidableEq

def FamilyId.new (id : String) : Except IdError FamilyId :=
  if h : id.toList.all isWhitespace = false then .ok ⟨id, h⟩ else .error .empty

/-- The allocation marker value of one destination. -/
structure AllocationId where
  asStr : String
  nonblank : asStr.toList.all isWhitespace = false
  deriving DecidableEq

def AllocationId.new (id : String) : Except IdError AllocationId :=
  if h : id.toList.all isWhitespace = false then .ok ⟨id, h⟩ else .error .empty

/-- Largest owner token, in bytes. -/
def maxOwnerTokenBytes : ℕ := 128

inductive OwnerError where
  | empty
  | tooLong (bytes : ℕ)
  | character (c : Char)
  deriving DecidableEq

def isAdmitted (c : Char) : Bool :=
  c.isAlphanum || decide (c = '.') || decide (c = '_') || decide (c = ':') || decide (c = '-')

def ownerError (value : String) : Option OwnerError :=
  if value = "" then some .empty
  else if value.utf8ByteSize > maxOwnerTokenBytes then some (.tooLong value.utf8ByteSize)
  else (value.toList.find? fun c => !isAdmitted c).map .character

/-- An opaque caller identity recorded on a row. -/
structure OwnerToken where
  asStr : String
  valid : ownerError asStr = none
  deriving DecidableEq

inductive MemberKind where
  | checkout
  | bare
  deriving DecidableEq

/-- A row's recorded lifecycle state. -/
inductive MemberState where
  | creating
  | ready
  | disposing
  deriving DecidableEq

def MemberState.asStr : MemberState → String
  | .creating => "creating"
  | .ready => "ready"
  | .disposing => "disposing"

inductive CloneMode where
  | verbatim
  | clean
  | bare
  deriving DecidableEq

/-- One clone's row in the index. -/
structure MemberRow where
  path : String
  kind : MemberKind
  state : MemberState
  allocationId : AllocationId
  sourcePath : String
  mode : CloneMode
  lastError : Option String
  owner : Option OwnerToken
  deriving DecidableEq

/-- The root's own entry. -/
structure RootEntry where
  allocationId : AllocationId
  deriving DecidableEq

/-- A decoded family index. -/
structure FamilyView where
  familyId : FamilyId
  root : RootEntry
  members : FiniteMap MemberName MemberRow

/-- The index of a family that has just been founded. -/
def FamilyView.founded (familyId : FamilyId) (rootAllocation : AllocationId) : FamilyView :=
  ⟨familyId, ⟨rootAllocation⟩, ∅⟩

/-! ### What stands at a recorded path -/

inductive PointerObservation where
  | «matches»
  | absent
  | otherFamily
  | isIndex
  | malformed
  deriving DecidableEq

inductive MarkerObservation where
  | «matches»
  | absent
  | mismatch
  | malformed
  deriving DecidableEq

inductive TargetObservation where
  | present (pointer : PointerObservation) (marker : MarkerObservation)
  | missing
  | malformed (detail : String)
  deriving DecidableEq

/-- The state a listing reports for a row. -/
inductive ListState where
  | ready
  | incomplete
  | interruptedDisposal
  | missing
  | pointerRemoved
  | mismatched
  | malformed
  | unobserved
  deriving DecidableEq

/-- Classifies a recorded row against its observed target. -/
def classifyTarget (row : MemberRow) : Option TargetObservation → ListState
  | none => .unobserved
  | some .missing => .missing
  | some (.malformed _) => .malformed
  | some (.present pointer marker) =>
    match row.state with
    | .creating => .incomplete
    | .disposing => .interruptedDisposal
    | .ready =>
      match pointer, marker with
      | .matches, .matches => .ready
      | .absent, .matches | .absent, .absent => .pointerRemoved
      | _, _ => .mismatched

/-- The root's own name. -/
def rootName : String := "root"

/-- The root's own root-relative path. -/
def rootPath : String := "."

end GwzCore.FamilyModel
