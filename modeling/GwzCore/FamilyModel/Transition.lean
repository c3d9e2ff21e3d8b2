import GwzCore.Lib.Checks
import GwzCore.FamilyModel.View

/-!
# Index transitions

A change is validated against the index and produces the next one. Each change has
its own refusals; a whole decoded index is checked by `validateView`, row by row in
name order.
-/
namespace GwzCore.FamilyModel
open Checks

inductive RemovalReason where
  | disposed
  | keep
  | stale
  deriving DecidableEq

/-- One change of the root index. -/
inductive FamilyChange where
  | allocate (name : MemberName) (row : MemberRow)
  | recordError (name : MemberName) (lastError : String)
  | markReady (name : MemberName) (expectedAllocation : AllocationId)
  | markDisposing (name : MemberName) (expectedAllocation : AllocationId)
  | removeRow (name : MemberName) (reason : RemovalReason)
  | disband
  deriving DecidableEq

/-- Why a change or a decoded index is refused. -/
inductive Refusal where
  | nameCollision (name : MemberName) (holderPath : String) (holderOwner : Option OwnerToken)
  | pathNotNormalised (name : MemberName) (path normalised : String)
  | allocationCollision (name : MemberName) (holder : String)
  | pathCollision (path holder : String)
  | nestedPath (path other : String)
  | invalidRow (name : MemberName) (detail : String)
  | notFound (name : MemberName)
  | wrongState (name : MemberName) (expected actual : MemberState)
  | allocationMismatch (name : MemberName) (expected actual : AllocationId)
  | notDisposing (name : MemberName) (actual : MemberState)
  deriving DecidableEq

/-- A change the model accepted, with the index it produces. -/
structure ValidatedChange where
  change : FamilyChange
  next : FamilyView

/-! ### Checks -/

/-- Being the root, inside it or an ancestor of it is a nesting refusal that names the
root; every other rejected spelling is an invalid row. -/
def pathRefusal (name : MemberName) (path : String) : PathError → Refusal
  | .rootItself _ | .insideRoot _ _ | .containsRoot _ _ => .nestedPath path rootPath
  | .notNormalised _ normalised => .pathNotNormalised name path normalised
  | error => .invalidRow name error.display

/-- A recorded member path: normalised, root-relative, and outside the root. -/
def validateRowPath (name : MemberName) (path : String) : Except Refusal MemberPath :=
  (validate path).mapError (pathRefusal name path)

/-- The source is the root or another member's path. -/
def validateSourcePath (name : MemberName) (row : MemberRow) (path : MemberPath) :
    Except Refusal Unit :=
  if row.sourcePath = rootPath then .ok ()
  else
    match validate row.sourcePath with
    | .error error => .error (.invalidRow name ("source " ++ error.display))
    | .ok source =>
      if relate source path = .same then
        .error (.invalidRow name
          ("member path `" ++ path.asStr ++ "` is also its own source path"))
      else .ok ()

/-- A taken name refuses naming its holder. -/
def checkNameAvailable (view : FamilyView) (name : MemberName) : Except Refusal Unit :=
  match view.members[name]? with
  | some holder => .error (.nameCollision name holder.path holder.owner)
  | none => .ok ()

/-- Refuses a path that overlaps a recorded one. -/
def checkApart (path : MemberPath) (otherName : MemberName) (other : MemberPath) :
    Except Refusal Unit :=
  match relate path other with
  | .same => .error (.pathCollision path.asStr otherName.asStr)
  | .inside | .contains => .error (.nestedPath path.asStr other.asStr)
  | .disjoint => .ok ()

/-- Refuses a path that overlaps a row's. A row whose own path does not validate
refuses, naming that row. -/
def checkPathAvailable (view : FamilyView) (path : MemberPath) : Except Refusal Unit :=
  view.members.toList |> checkAll fun (otherName, other) => do
    let recorded ← validateRowPath otherName other.path
    checkApart path otherName recorded

/-- One marker value identifies one destination; the root's is taken too. -/
def checkAllocationAvailable (view : FamilyView) (name : MemberName) (allocation : AllocationId) :
    Except Refusal Unit :=
  if view.root.allocationId = allocation then .error (.allocationCollision name rootName)
  else
    match view.members.toList.find? fun entry =>
      decide (entry.1 ≠ name) && decide (entry.2.allocationId = allocation) with
    | some (otherName, _) => .error (.allocationCollision name otherName.asStr)
    | none => .ok ()

def require (view : FamilyView) (name : MemberName) : Except Refusal MemberRow :=
  match view.members[name]? with
  | some row => .ok row
  | none => .error (.notFound name)

def expectState (name : MemberName) (row : MemberRow) (expected : MemberState) :
    Except Refusal Unit :=
  if row.state ≠ expected then .error (.wrongState name expected row.state) else .ok ()

def expectAllocation (name : MemberName) (row : MemberRow) (expected : AllocationId) :
    Except Refusal Unit :=
  if row.allocationId ≠ expected then
    .error (.allocationMismatch name expected row.allocationId)
  else .ok ()

/-! ### Transitions -/

/-- The index with one row written. -/
def FamilyView.write (view : FamilyView) (name : MemberName) (row : MemberRow) : FamilyView :=
  { view with members := view.members.insert name row }

/-- The index after an accepted change. -/
def transition (view : FamilyView) : FamilyChange → Except Refusal FamilyView
  | .allocate name row => do
    if row.state ≠ .creating then
      .error (.invalidRow name ("an allocation must be creating, not " ++ row.state.asStr))
    let path ← validateRowPath name row.path
    validateSourcePath name row path
    checkNameAvailable view name
    checkPathAvailable view path
    checkAllocationAvailable view name row.allocationId
    return view.write name row
  | .recordError name lastError => do
    let row ← require view name
    expectState name row .creating
    return view.write name { row with lastError := some lastError }
  | .markReady name expectedAllocation => do
    let row ← require view name
    expectState name row .creating
    expectAllocation name row expectedAllocation
    return view.write name { row with state := .ready, lastError := none }
  | .markDisposing name expectedAllocation => do
    let row ← require view name
    expectState name row .ready
    expectAllocation name row expectedAllocation
    return view.write name { row with state := .disposing }
  | .removeRow name reason => do
    let row ← require view name
    if reason = .disposed ∧ row.state ≠ .disposing then .error (.notDisposing name row.state)
    return { view with members := view.members.erase name }
  | .disband => return { view with members := ∅ }

/-- Validates `change` against `view` and produces the next view. -/
def validateTransition (view : FamilyView) (change : FamilyChange) :
    Except Refusal ValidatedChange :=
  (transition view change).map fun next => ⟨change, next⟩

/-- Validates one recorded row, up to its place among the others' paths. -/
def validateRow (view : FamilyView) (entry : MemberName × MemberRow) :
    Except Refusal (MemberName × MemberPath) := do
  let path ← validateRowPath entry.1 entry.2.path
  validateSourcePath entry.1 entry.2 path
  checkAllocationAvailable view entry.1 entry.2.allocationId
  return (entry.1, path)

/-- Validates a whole decoded index: the rows in name order, each against the paths
admitted before it. -/
def validateView (view : FamilyView) : Except Refusal Unit :=
  admitAll (validateRow view) (fun entry other => checkApart entry.2 other.1 other.2)
    view.members.toList []

end GwzCore.FamilyModel
