import GwzCore.FamilyModel.Resolution
import GwzCore.FamilyModel.Validity
import GwzCore.LocalDisposal.Ports

/-!
# The validated target

The one decision made without a port: the row of the request, the directory it names, and
that deleting this directory deletes neither the root nor the working directory nor, as far
as the recorded paths tell, another member. The guard against other members compares the
recorded spellings. It is exact for paths that climb alike; a path that climbs further may
name back the directories it climbed out of, and then two spellings that part at once can
be one directory.
-/
namespace GwzCore.LocalDisposal
open Checks FamilyModel HostPath Stopping List

variable {request : DisposeRequest} {path : String} {σ : Type} {names : List Component}
  {plan : Plan} {world next : World σ}

/-- The row of the request and its recorded path resolved against the root. -/
structure Plan where
  row : MemberRow
  target : Path

def memberPathError (name : MemberName) : PathError → DisposeError
  | .rootItself _ | .containsRoot _ _ => .rootImmutable
  | .notNormalised path normalised => .refused (.pathNotNormalised name path normalised)
  | other => .refused (.invalidRow name other.display)

def memberPath (name : MemberName) (path : String) : Except DisposeError MemberPath :=
  (FamilyModel.validate path).mapError (memberPathError name)

/-- Another member's recorded path does not overlap the target's. -/
def checkMember (request : DisposeRequest) (row : MemberRow) (recorded : MemberPath)
    (entry : MemberName × MemberRow) : Except DisposeError Unit :=
  if entry.1 = request.name then .ok ()
  else do
    let otherPath ← memberPath entry.1 entry.2.path
    if relate recorded otherPath ≠ .disjoint then
      .error (.refused (.nestedPath row.path entry.2.path))
    else .ok ()

/-- The plan of a request in a reread index. -/
def planIn (request : DisposeRequest) (view : FamilyView) : Except DisposeError Plan := do
  let root := resolve request.root
  match view.members[request.name]? with
  | none => .error (.refused (.notFound request.name))
  | some row =>
    let recorded ← memberPath request.name row.path
    let target := directoryOf request.root recorded.asStr
    if target = root ∨ startsWith root target then .error .rootImmutable
    else if startsWith target root then .error (.refused (.nestedPath row.path rootPath))
    else if startsWith (resolve request.cwd) target then .error (.targetContainsCwd target)
    else
      checkAll (checkMember request row recorded) view.members.toList
      return ⟨row, target⟩

def validate {σ : Type} (host : Host σ) (request : DisposeRequest) : Disposing σ Plan := do
  if resolve request.root ≠ resolve host.root then
    throw (.pathMismatch request.root
      s!"the family lock is held on {display host.root}, not this root")
  match ← storeAnswer (← reread host) with
  | none => throw (.store (.noFamily request.root))
  | some view =>
    match planIn request view with
    | .error error => throw error
    | .ok plan => return plan

/-! ### What a plan is -/

lemma memberPath_eq_ok {name : MemberName} {member : MemberPath} :
    memberPath name path = .ok member ↔ FamilyModel.validate path = .ok member := by
  unfold memberPath
  cases FamilyModel.validate path <;> simp [Except.mapError]

lemma checkMember_eq_ok {row : MemberRow} {recorded : MemberPath}
    {entry : MemberName × MemberRow} (hne : entry.1 ≠ request.name) :
    checkMember request row recorded entry = .ok () ↔
      ∃ path, FamilyModel.validate entry.2.path = .ok path ∧ relate recorded path = .disjoint := by
  rw [checkMember, if_neg hne, Checks.bind_eq_ok]
  refine exists_congr fun path => ?_
  rw [memberPath_eq_ok]
  by_cases hapart : relate recorded path = .disjoint <;> simp [hapart]

/-- What the validated target stands for. -/
structure Planned (request : DisposeRequest) (view : FamilyView) (plan : Plan) : Prop where
  row : view.members[request.name]? = some plan.row
  recorded : ∃ recorded, FamilyModel.validate plan.row.path = .ok recorded ∧
    plan.target = directoryOf request.root recorded.asStr ∧
    ∀ (other : MemberName) (found : MemberRow), view.members[other]? = some found →
      other ≠ request.name →
        ∃ path, FamilyModel.validate found.path = .ok path ∧ relate recorded path = .disjoint
  /-- The target is neither the root nor above it nor below it. -/
  root : Apart plan.target (resolve request.root)
  /-- The working directory is not in the target. -/
  cwd : ¬ plan.target <+: resolve request.cwd

lemma planIn_eq_ok {view : FamilyView} (h : planIn request view = .ok plan) :
    Planned request view plan := by
  unfold planIn at h
  cases hrow : view.members[request.name]? with
  | none => simp [hrow] at h
  | some row =>
    simp only [hrow, Checks.bind_eq_ok, memberPath_eq_ok] at h
    obtain ⟨recorded, hrecorded, h⟩ := h
    split_ifs at h with hroot hnested hcwd
    rw [bind_unit_eq_ok, checkAll_eq_ok] at h
    obtain ⟨hmembers, h⟩ := h
    cases h
    simp only [startsWith_iff, not_or] at hroot hnested hcwd
    refine ⟨hrow, ⟨recorded, hrecorded, rfl, ?_⟩, ⟨hroot.2, hnested⟩, hcwd⟩
    intro other found hfound hne
    exact (checkMember_eq_ok hne).mp (hmembers (other, found) (FiniteMap.mem_toList.mpr hfound))

/-- The target of a plan is where the row's path leads. -/
lemma Planned.target {view : FamilyView} (h : Planned request view plan) :
    plan.target = directoryOf request.root plan.row.path := by
  obtain ⟨recorded, hrecorded, htarget, -⟩ := h.recorded
  rw [htarget, validate_asStr hrecorded]

lemma storeAnswer_ok {α : Type} {answer : Except StoreError α} {value : α} :
    storeAnswer answer world = .ok value next ↔ answer = .ok value ∧ next = world := by
  cases answer <;> simp [storeAnswer, eq_comm]

/-- An accepted target comes from one reread of the index. -/
lemma validate_ok {host : Host σ} (h : validate host request world = .ok plan next) :
    ∃ view, (host.reread world.host).1 = .ok (some view) ∧ Planned request view plan ∧
      next = { world with
        host := (host.reread world.host).2
        calls := world.calls ++ [.reread (.ok (some view))] } := by
  unfold validate at h
  split_ifs at h with hroot
  · cases h
  · simp only [Stopping.bind_eq_ok, reread, ask, EStateM.Result.ok.injEq] at h
    obtain ⟨_, _, ⟨rfl, rfl⟩, read, _, hstore, h⟩ := h
    obtain ⟨hread, rfl⟩ := storeAnswer_ok.mp hstore
    cases read with
    | none => cases h
    | some view =>
      cases hplan : planIn request view with
      | error => simp [hplan] at h
      | ok =>
        simp only [hplan, pure_eq_ok] at h
        obtain ⟨rfl, rfl⟩ := h
        exact ⟨view, hread, planIn_eq_ok hplan, by rw [hread]⟩

/-! ### Spellings and directories -/

/-- The names of a resolved path. -/
def namesOf (path : Path) : List Component :=
  path.filterMap fun part => match part with
    | .normal name => some name
    | _ => none

lemma namesOf_absolute (names : List Component) : namesOf (absolute names) = names := by
  simp [namesOf, absolute, filterMap_map]

/-- If `leaving` climbs further than `staying`, then what it names is apart from the
directories it climbed out of on the way to `staying`. -/
def Leaves (root : List Component) (staying leaving : String) : Prop :=
  climbs staying < climbs leaving →
    let stays := passed root (climbs staying) (climbs leaving) ++ named staying
    ¬ stays <+: named leaving ∧ ¬ named leaving <+: stays

/-- The spellings of two recorded paths tell their directories apart. -/
def Comparable (root : List Component) (path other : String) : Prop :=
  Leaves root path other ∧ Leaves root other path

instance (root : List Component) (staying leaving : String) :
    Decidable (Leaves root staying leaving) :=
  inferInstanceAs (Decidable (_ → ¬ _ <+: _ ∧ ¬ _ <+: _))

instance (root : List Component) (path other : String) : Decidable (Comparable root path other) :=
  inferInstanceAs (Decidable (Leaves root path other ∧ Leaves root other path))

lemma leaves_of_le {staying leaving : String} (h : climbs leaving ≤ climbs staying) :
    Leaves names staying leaving :=
  fun hlt => absurd hlt h.not_gt

lemma apart_iff_leaves {staying leaving : String} (h : climbs staying < climbs leaving) :
    HostPath.Apart (absolute (climb names (climbs staying) (named staying)))
        (absolute (climb names (climbs leaving) (named leaving))) ↔
      Leaves names staying leaving := by
  rw [climb_of_le h.le, climb_apart_iff]
  exact ⟨fun hapart _ => hapart, fun hleaves => hleaves h⟩

/-- Two spellings that are apart name directories that are apart just when they can be
compared. -/
lemma directories_apart_iff {root : Path} {other : String} (hroot : resolve root = absolute names)
    (hpath : Escapes (components path)) (hother : Escapes (components other))
    (hapart : FamilyModel.Apart path other) :
    HostPath.Apart (directoryOf root path) (directoryOf root other) ↔
      Comparable names path other := by
  rw [directoryOf_eq hroot hpath, directoryOf_eq hroot hother, Comparable]
  rcases lt_trichotomy (climbs path) (climbs other) with hlt | heq | hgt
  · rw [apart_iff_leaves hlt, and_iff_left (leaves_of_le hlt.le)]
  · rw [FamilyModel.Apart, (components_eq_climbs hpath).1, (components_eq_climbs hother).1, heq,
      prefix_append_right_inj, prefix_append_right_inj] at hapart
    rw [heq, climb_apart_iff]
    exact iff_of_true hapart ⟨leaves_of_le heq.ge, leaves_of_le heq.le⟩
  · rw [and_iff_right (leaves_of_le hgt.le), ← apart_iff_leaves hgt]
    exact ⟨.symm, .symm⟩

/-- Deleting an accepted target deletes no other member just when the member's recorded path
can be compared with the target's by spelling. -/
theorem validate_spares_members (host : Host σ) (request : DisposeRequest) (world next : World σ)
    (plan : Plan) (view : FamilyView) (haccepted : validate host request world = .ok plan next)
    (habsolute : request.root.head? = some .rootDir)
    (hview : (host.reread world.host).1 = .ok (some view)) (other : MemberName) (row : MemberRow)
    (hother : view.members[other]? = some row) (hne : other ≠ request.name) :
    HostPath.Apart plan.target (directoryOf request.root row.path) ↔
      Comparable (namesOf (resolve request.root)) plan.row.path row.path := by
  obtain ⟨view', hview', hplanned, -⟩ := validate_ok haccepted
  cases Option.some.inj (Except.ok.inj (hview.symm.trans hview'))
  obtain ⟨names, hroot⟩ := resolve_absolute habsolute
  obtain ⟨recorded, hrecorded, htarget, hmembers⟩ := hplanned.recorded
  obtain ⟨path, hpath, hdisjoint⟩ := hmembers other row hother hne
  rw [relate_eq_disjoint] at hdisjoint
  rw [hroot, namesOf_absolute, htarget, ← validate_asStr hrecorded, ← validate_asStr hpath]
  exact directories_apart_iff hroot recorded.escapes path.escapes hdisjoint

/-! ### Two members of a small family -/

namespace Sample

def laneA : MemberName := ⟨"A", by decide⟩

def laneB : MemberName := ⟨"B", by decide⟩

def row (path allocation : String)
    (h : allocation.toList.all Lines.isWhitespace = false) : MemberRow :=
  ⟨path, .checkout, .ready, ⟨allocation, h⟩, ".", .verbatim, none, none⟩

/-- The index with the two members at the given paths. -/
def family (pathA pathB : String) : FamilyView :=
  ⟨⟨"family", by decide⟩, ⟨⟨"root", by decide⟩⟩,
    ((∅ : FiniteMap MemberName MemberRow).insert laneA (row pathA "alloc-A" (by decide))).insert
      laneB (row pathB "alloc-B" (by decide))⟩

/-- The root `/a/b/root`. -/
def root : Path := absolute [['a'], ['b'], ['r', 'o', 'o', 't']]

/-- A host that only has an index. -/
def indexOnly (view : FamilyView) : Host Unit where
  root := root
  reread := fun _ => (.ok (some view), ())
  apply := fun _ _ => (.error (.unimplemented .writeIndex), ())
  removePointer := fun _ _ => (.error (.unimplemented .removePointer), ())
  observeTarget := fun _ _ => (.error (.unimplemented "observe_target"), ())
  checkHistory := fun _ _ => (.unknown [], ())
  removeDirectory := fun _ _ => (.error ⟨.unimplemented "remove_directory", []⟩, ())

def disposeA (policy : DisposePolicy) : DisposeRequest := ⟨laneA, policy, root, root⟩

end Sample

/-- A sibling of the root and a directory reached by naming the root's parent back are told
apart. -/
theorem validate_spares_cousin :
    HostPath.Apart (directoryOf Sample.root "../ws-A") (directoryOf Sample.root "../../b/ws-C") :=
  (validate_spares_members (Sample.indexOnly (Sample.family "../ws-A" "../../b/ws-C"))
    (Sample.disposeA .keep) ⟨(), [], []⟩ _ ⟨Sample.row "../ws-A" "alloc-A" (by decide), _⟩
    (Sample.family "../ws-A" "../../b/ws-C") rfl rfl rfl Sample.laneB
    (Sample.row "../../b/ws-C" "alloc-B" (by decide)) rfl (by decide)).mpr (by decide +kernel)

/-- A second row of a valid index that climbs past the root's parent and names it back is the
directory of the first, and the first is accepted. -/
theorem validate_accepts_shared_directory :
    (validateView (Sample.family "../ws-A" "../../b/ws-A")).isOk = true ∧
    ∃ plan next,
      validate (Sample.indexOnly (Sample.family "../ws-A" "../../b/ws-A"))
        (Sample.disposeA (.delete [])) ⟨(), [], []⟩ = .ok plan next ∧
      plan.target = directoryOf Sample.root "../../b/ws-A" :=
  ⟨by decide +kernel, _, _, rfl, by decide +kernel⟩

end GwzCore.LocalDisposal
