import GwzCore.HistoryCheck.Contract
import GwzCore.Lib.Search

/-!
# The history verifier

One invocation walks a witness's object store from its eligible retained roots, depth
first and with an explicit stack, and decides for every object it reaches whether all of
its subgraph is there. It accounts for its own bookkeeping, polls for cancellation before
each read and stops at the first thing it cannot establish.

The walk is total by a number of rounds it may take. The reads it makes are listed in the
order they are made.
-/
namespace GwzCore.HistoryCheck

def u64Max : ℕ := 2 ^ 64 - 1

structure Witness where
  repository : RepoKey
  label : String
  deriving DecidableEq

structure Limits where
  maxRoots : ℕ
  maxBookkeepingBytes : ℕ
  reads : ReadLimits
  deriving DecidableEq

/-- The cancellation port: the answer to each poll, by its number. -/
abbrev Cancellation := ℕ → Bool

/-- The sizes of the verifier's own values in memory. -/
structure Layout where
  objectId : ℕ
  protectedRoot : ℕ
  frame : ℕ
  nodeState : ℕ
  usize : ℕ
  deriving DecidableEq

structure RootCoverage where
  root : ProtectedRoot
  witness : Option RepoKey
  witnessRoot : ProtectedRoot
  deriving DecidableEq

structure Coverage where
  rootsChecked : ℕ
  objectsVisited : ℕ
  witnessesUsed : List RepoKey
  bookkeepingBytes : ℕ
  covered : List RootCoverage
  deriving DecidableEq

def Coverage.default : Coverage := ⟨0, 0, [], 0, []⟩

structure UnpreservedItem where
  root : ProtectedRoot
  missing : Option ObjectId
  detail : String
  deriving DecidableEq

inductive HistoryOutcome where
  | verified (coverage : Coverage)
  | unpreserved (items : List UnpreservedItem)
  | unknown (reasons : List UnknownReason)
  deriving DecidableEq

/-! ### Eligible witness roots -/

inductive WitnessPolicy where
  | durable
  | identicalCopy
  deriving DecidableEq

def operationPseudoRefs : List String :=
  ["ORIG_HEAD", "MERGE_HEAD", "CHERRY_PICK_HEAD", "REVERT_HEAD", "REBASE_HEAD", "BISECT_HEAD",
    "FETCH_HEAD", "AUTO_MERGE"]

def operationNamespaces : List String := ["refs/bisect/", "refs/rewritten/", "refs/gwz/"]

/-- Import refs are durable; every other GWZ namespace and the native operation
pseudo-refs are not. -/
def isTemporaryOperationRef (name : String) : Bool :=
  if name.startsWith "refs/gwz/local-imports/" then false
  else operationPseudoRefs.contains name || operationNamespaces.any fun space =>
    name.startsWith space

def isEligibleWitnessRoot : RootSource → Bool
  | .head | .annotatedTag _ => true
  | .ref name => !isTemporaryOperationRef name
  | .reflog .. | .stash _ | .coordinationRecord .. | .other _ => false

def isEligibleWitnessRootUnder (source : RootSource) (policy : WitnessPolicy) : Bool :=
  match policy, source with
  | .identicalCopy, .reflog .. => true
  | .identicalCopy, .stash _ => true
  | _, source => isEligibleWitnessRoot source

/-! ### Bookkeeping -/

def mapEntryOverhead : ℕ := 48

def oidBytes (layout : Layout) (oid : ObjectId) : ℕ := layout.objectId + oid.bytes.length

def rootBytes (layout : Layout) (root : ProtectedRoot) : ℕ :=
  let name := match root.source with
    | .ref name | .annotatedTag name => name.utf8ByteSize
    | .reflog reference _ => reference.utf8ByteSize
    | .coordinationRecord record object => record.utf8ByteSize + object.utf8ByteSize
    | .other detail => detail.utf8ByteSize
    | .head | .stash _ => 0
  layout.protectedRoot + name + oidBytes layout root.oid

def cancelled : UnknownReason :=
  ⟨.cancelled, "history verification was cancelled before it completed"⟩

def readReason (error : ReadError) : UnknownReason :=
  let kind := match error with
    | .limitExceeded .. => .limitExceeded
    | .unimplemented _ => .unimplemented
    | _ => .unreadable
  ⟨kind, error.display⟩

inductive NodeState where
  | inProgress
  | complete
  | incomplete
  deriving DecidableEq

structure Frame where
  oid : ObjectId
  edges : List ObjectId
  next : ℕ
  complete : Bool
  missing : Option ObjectId
  charged : ℕ
  deriving DecidableEq

def Frame.taint (frame : Frame) (missing : Option ObjectId) : Frame :=
  { frame with complete := false, missing := frame.missing.or missing }

/-- The verifier's own bookkeeping bound, in saturating machine integers. -/
structure Budget where
  used : ℕ
  peak : ℕ
  limit : ℕ
  deriving DecidableEq

def Budget.new (limit : ℕ) : Budget := ⟨0, 0, limit⟩

/-- The account after `bytes` more. -/
def Budget.add (budget : Budget) (bytes : ℕ) : Budget :=
  let used := min (budget.used + bytes) u64Max
  { budget with used, peak := max budget.peak used }

def Budget.overdrawn (budget : Budget) : UnknownReason :=
  ⟨.limitExceeded, s!"history verification bookkeeping reached {budget.used} bytes, above the {budget.limit} byte limit"⟩

def Budget.release (budget : Budget) (bytes : ℕ) : Budget :=
  { budget with used := budget.used - bytes }

/-! ### The walk -/

/-- What an invocation reads from and may not change. -/
structure Check where
  reader : ObjectReader
  cancellation : Cancellation
  limits : Limits
  layout : Layout

structure Verifier where
  budget : Budget
  state : FiniteMap ObjectId NodeState
  firstMissing : FiniteMap ObjectId ObjectId
  targets : FiniteMap ObjectId Unit
  origin : FiniteMap ObjectId ℕ
  objectsVisited : ℕ
  currentRoot : ℕ
  /-- The polls of the cancellation port, the one before the walk included. -/
  polls : ℕ
  /-- The objects asked of the reader, the last one first. -/
  reads : List ObjectId

def Verifier.new (limits : Limits) : Verifier :=
  ⟨.new limits.maxBookkeepingBytes, ∅, ∅, ∅, ∅, 0, 0, 1, []⟩

/-- A computation of the verifier: it changes the bookkeeping and may stop the check. -/
abbrev Checking := EStateM UnknownReason Verifier

namespace Verifier

def charge (bytes : ℕ) : Checking Unit := do
  modify fun v => { v with budget := v.budget.add bytes }
  let budget := (← get).budget
  if budget.limit < budget.used then throw budget.overdrawn

def release (bytes : ℕ) : Checking Unit :=
  modify fun v => { v with budget := v.budget.release bytes }

/-- Asks the cancellation port. -/
def poll (check : Check) : Checking Unit := do
  let number := (← get).polls
  modify fun v => { v with polls := number + 1 }
  if check.cancellation number then throw cancelled

/-- Asks the reader for an object. -/
def readObject (check : Check) (oid : ObjectId) : Checking (Except ReadError ObjectRecord) := do
  modify fun v => { v with reads := oid :: v.reads }
  return check.reader.readObject oid check.limits.reads

def setState (oid : ObjectId) (state : NodeState) : Checking Unit :=
  modify fun v => { v with state := v.state.insert oid state }

def setFirstMissing (oid missing : ObjectId) : Checking Unit :=
  modify fun v => { v with firstMissing := v.firstMissing.insert oid missing }

/-- The first eligible root that reaches a protected object is its origin. -/
def recordOrigin (check : Check) (oid : ObjectId) : Checking Unit := do
  let v ← get
  if v.targets.contains oid && !v.origin.contains oid then
    charge (oidBytes check.layout oid + check.layout.usize + mapEntryOverhead)
    modify fun v => { v with origin := v.origin.insert oid v.currentRoot }

/-- Reads one object that is not decided yet. Nothing is returned for an object the witness
does not have: a conclusion, and not a failure of the check. -/
def «open» (check : Check) (oid : ObjectId) : Checking (Option Frame) := do
  poll check
  charge (oidBytes check.layout oid + check.layout.nodeState + mapEntryOverhead)
  match ← readObject check oid with
  | .ok record =>
    modify fun v => { v with objectsVisited := v.objectsVisited + 1 }
    setState oid .inProgress
    recordOrigin check oid
    let charged := check.layout.frame + (record.edges.map (oidBytes check.layout)).sum
    charge charged
    return some ⟨oid, record.edges, 0, true, none, charged⟩
  | .error (.missing _) =>
    setState oid .incomplete
    charge (2 * oidBytes check.layout oid + mapEntryOverhead)
    setFirstMissing oid oid
    return none
  | .error error => throw (readReason error)

/-- The next edge of the top frame. -/
def follow (check : Check) (top : Frame) (below : List Frame) (child : ObjectId) :
    Checking (List Frame) := do
  let moved := { top with next := top.next + 1 }
  let v ← get
  match v.state[child]? with
  | some .complete | some .inProgress => return moved :: below
  | some .incomplete => return moved.taint (v.firstMissing[child]?.or (some child)) :: below
  | none =>
    match ← Verifier.open check child with
    | some frame => return frame :: moved :: below
    | none => return moved.taint (some child) :: below

/-- The top frame has no edge left. -/
def finish (check : Check) (top : Frame) (below : List Frame) : Checking (List Frame) := do
  release top.charged
  if top.complete then
    setState top.oid .complete
    return below
  else
    setState top.oid .incomplete
    match top.missing with
    | some missing =>
      charge (oidBytes check.layout missing + oidBytes check.layout top.oid + mapEntryOverhead)
      setFirstMissing top.oid missing
    | none => pure ()
    return below.modifyHead fun parent => parent.taint top.missing

/-- One round of the loop. -/
def round (check : Check) (top : Frame) (below : List Frame) : Checking (List Frame) :=
  match top.edges[top.next]? with
  | some child => follow check top below child
  | none => finish check top below

/-- The rounds until the stack is empty; `false` when they are not enough. -/
def loop (check : Check) : ℕ → List Frame → Checking Bool
  | _, [] => return true
  | 0, _ :: _ => return false
  | rounds + 1, top :: below => do
    let stack ← round check top below
    loop check rounds stack

def walk (check : Check) (rounds : ℕ) (start : ObjectId) : Checking Bool := do
  if (← get).state.contains start then return true
  match ← Verifier.open check start with
  | none => return true
  | some frame => loop check rounds [frame]

/-- The walks from the eligible roots, `index` the number of the first. -/
def walkAll (check : Check) (rounds : ℕ) : ℕ → List ProtectedRoot → Checking Bool
  | _, [] => return true
  | index, root :: rest => do
    modify fun v => { v with currentRoot := index }
    if ← walk check rounds root.oid then walkAll check rounds (index + 1) rest
    else return false

def addTarget (check : Check) (root : ProtectedRoot) : Checking Unit := do
  charge (oidBytes check.layout root.oid + mapEntryOverhead)
  modify fun v => { v with targets := v.targets.insert root.oid () }

def run (check : Check) (rounds : ℕ) (protectedRoots : ProtectedRoots)
    (eligible : List ProtectedRoot) : Checking Bool := do
  protectedRoots.roots.forM (addTarget check)
  eligible.forM fun root => charge (rootBytes check.layout root)
  walkAll check rounds 0 eligible

end Verifier

/-! ### The answer -/

/-- What a protected root comes to once the walks are over. -/
def Verifier.concludeRoot (v : Verifier) (attribution : Option RepoKey)
    (eligible : List ProtectedRoot) (root : ProtectedRoot) : RootCoverage ⊕ UnpreservedItem :=
  match v.state[root.oid]? with
  | some .complete =>
    match v.origin[root.oid]?.bind fun index => eligible[index]? with
    | some witnessRoot => .inl ⟨root, attribution, witnessRoot⟩
    | none =>
      .inr ⟨root, none, s!"coverage of {root.oid.toHex} could not be attributed to a witness root"⟩
  | some _ =>
    .inr ⟨root, v.firstMissing[root.oid]?,
      s!"the witness graph below {root.oid.toHex} is incomplete; the history is not self-contained there"⟩
  | none => .inr ⟨root, none, s!"no eligible retained witness root reaches {root.oid.toHex}"⟩

/-- A single witness is the one that covers. -/
def attributedTo : List Witness → Option RepoKey
  | [only] => some only.repository
  | _ => none

def Verifier.conclude (v : Verifier) (protectedRoots : ProtectedRoots) (witnesses : List Witness)
    (eligible : List ProtectedRoot) : HistoryOutcome :=
  let answers := protectedRoots.roots.map (v.concludeRoot (attributedTo witnesses) eligible)
  let unpreserved := answers.filterMap Sum.getRight?
  if unpreserved ≠ [] then .unpreserved unpreserved
  else .verified
    ⟨protectedRoots.roots.length, v.objectsVisited, witnesses.map Witness.repository, v.budget.peak,
      answers.filterMap Sum.getLeft?⟩

/-- What an invocation comes to: its answer, the objects it asked for and the most bytes it
accounted for. -/
structure Report where
  outcome : HistoryOutcome
  reads : List ObjectId
  peak : ℕ
  deriving DecidableEq

/-- An answer given before the walk. -/
def Report.early (outcome : HistoryOutcome) : Report := ⟨outcome, [], 0⟩

def unsupported (protectedRoots : ProtectedRoots) : List UnknownReason :=
  protectedRoots.roots.filterMap fun root => match root.source with
    | .other detail => some ⟨.unsupportedEvidence,
        s!"protected root {root.oid.toHex} is evidence this verifier does not interpret: {detail}"⟩
    | _ => none

def eligibleRoots (policy : WitnessPolicy) (retained : ProtectedRoots) : List ProtectedRoot :=
  retained.roots.filter fun root => isEligibleWitnessRootUnder root.source policy

/-- The walk and its conclusion; nothing when `rounds` are not enough for the walk. -/
def verify (check : Check) (rounds : ℕ) (protectedRoots : ProtectedRoots)
    (witnesses : List Witness) (eligible : List ProtectedRoot) : Option Report :=
  match Verifier.run check rounds protectedRoots eligible (.new check.limits) with
  | .error reason v => some ⟨.unknown [reason], v.reads, v.budget.peak⟩
  | .ok true v => some ⟨v.conclude protectedRoots witnesses eligible, v.reads, v.budget.peak⟩
  | .ok false _ => none

/-- Checks that every protected root is preserved by the witnesses through the reader. -/
def checkHistoryUnder (check : Check) (rounds : ℕ) (protectedRoots : ProtectedRoots)
    (witnesses : List Witness) (policy : WitnessPolicy) : Option Report :=
  let count := protectedRoots.roots.length
  let limit := check.limits.maxRoots
  if check.cancellation 0 then some (.early (.unknown [cancelled]))
  else if limit < count then
    some (.early
      (.unknown [⟨.limitExceeded, s!"{count} protected roots exceed the {limit} root limit"⟩]))
  else if unsupported protectedRoots ≠ [] then
    some (.early (.unknown (unsupported protectedRoots)))
  else if protectedRoots.roots = [] then some (.early (.verified .default))
  else if witnesses = [] then
    some (.early (.unpreserved (protectedRoots.roots.map fun root =>
      ⟨root, none, s!"no surviving witness repository was offered for {root.oid.toHex}"⟩)))
  else
    match check.reader.retainedRoots with
    | .error error => some (.early (.unknown [readReason error]))
    | .ok retained =>
      let eligible := eligibleRoots policy retained
      let kept := eligible.length
      if limit < count + kept then
        some (.early (.unknown [⟨.limitExceeded,
          s!"{count} protected and {kept} witness roots exceed the {limit} root limit"⟩]))
      else verify check rounds protectedRoots witnesses eligible

/-- The durable policy. -/
def checkHistory (check : Check) (rounds : ℕ) (protectedRoots : ProtectedRoots)
    (witnesses : List Witness) : Option Report :=
  checkHistoryUnder check rounds protectedRoots witnesses .durable

end GwzCore.HistoryCheck
