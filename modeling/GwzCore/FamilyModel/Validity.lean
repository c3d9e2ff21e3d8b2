import GwzCore.FamilyModel.Transition

/-!
# Valid indexes

A valid index says what its checks are for: every row stands alone, with a member path
outside the root, another source and an allocation that is not the root's, and two rows
never share an allocation or a directory. The whole-index check decides exactly this,
each accepted change keeps it, and an allocation is accepted exactly when the index with
the row added has it.
-/
namespace GwzCore.FamilyModel
open Checks List FiniteMap

variable {view : FamilyView} {change : FamilyChange}

/-- Neither path is the other or inside it. -/
def Apart (path other : String) : Prop :=
  ¬ components path <+: components other ∧ ¬ components other <+: components path

lemma Apart.symm {path other : String} (h : Apart path other) : Apart other path :=
  ⟨h.2, h.1⟩

/-- What a row needs whatever the other rows are. -/
structure RowAlone (root : RootEntry) (row : MemberRow) : Prop where
  path : ∃ path, validate row.path = .ok path
  source : row.sourcePath = rootPath ∨
    (∃ source, validate row.sourcePath = .ok source) ∧ row.sourcePath ≠ row.path
  allocation : root.allocationId ≠ row.allocationId

/-- What two rows need of each other. -/
structure RowsApart (row other : MemberRow) : Prop where
  allocation : row.allocationId ≠ other.allocationId
  paths : Apart row.path other.path

lemma RowsApart.symm {row other : MemberRow} (h : RowsApart row other) : RowsApart other row :=
  ⟨h.allocation.symm, h.paths.symm⟩

structure ValidView (view : FamilyView) : Prop where
  alone : ∀ (name : MemberName) (row : MemberRow), view.members[name]? = some row →
    RowAlone view.root row
  apart : ∀ (name other : MemberName) (row found : MemberRow), view.members[name]? = some row →
    view.members[other]? = some found → name ≠ other → RowsApart row found

/-! ### What each check decides -/

section Checks
variable {name : MemberName} {row : MemberRow} {path : MemberPath}

lemma validateRowPath_eq_ok {text : String} :
    validateRowPath name text = .ok path ↔ validate text = .ok path := by
  unfold validateRowPath
  cases validate text <;> simp [Except.mapError]

lemma validateSourcePath_eq_ok (hpath : validate row.path = .ok path) :
    validateSourcePath name row path = .ok () ↔ row.sourcePath = rootPath ∨
      (∃ source, validate row.sourcePath = .ok source) ∧ row.sourcePath ≠ row.path := by
  unfold validateSourcePath
  by_cases hroot : row.sourcePath = rootPath
  · simp [hroot]
  · cases hsource : validate row.sourcePath with
    | error => simp [hroot]
    | ok source =>
      have hsame : relate source path = .same ↔ row.sourcePath = row.path := by
        rw [relate_eq_same, validate_asStr hsource, validate_asStr hpath]
      simp [hroot, hsame]

lemma checkNameAvailable_eq_ok :
    checkNameAvailable view name = .ok () ↔ view.members[name]? = none := by
  unfold checkNameAvailable
  cases view.members[name]? <;> simp

lemma checkApart_eq_ok {otherName : MemberName} {other : MemberPath} :
    checkApart path otherName other = .ok () ↔ Apart path.asStr other.asStr := by
  rw [Apart, ← relate_eq_disjoint]
  unfold checkApart
  cases relate path other <;> simp

lemma checkPathAvailable_eq_ok : checkPathAvailable view path = .ok () ↔
    ∀ (other : MemberName) (found : MemberRow), view.members[other]? = some found →
      (∃ recorded, validate found.path = .ok recorded) ∧ Apart path.asStr found.path := by
  rw [checkPathAvailable, checkAll_eq_ok]
  constructor
  · intro h other found hfound
    have hentry := h (other, found) (mem_toList.mpr hfound)
    rw [bind_eq_ok] at hentry
    obtain ⟨recorded, hrecorded, hapart⟩ := hentry
    rw [validateRowPath_eq_ok] at hrecorded
    rw [checkApart_eq_ok, validate_asStr hrecorded] at hapart
    exact ⟨⟨recorded, hrecorded⟩, hapart⟩
  · rintro h ⟨other, found⟩ hentry
    obtain ⟨⟨recorded, hrecorded⟩, hapart⟩ := h other found (mem_toList.mp hentry)
    rw [bind_eq_ok]
    refine ⟨recorded, validateRowPath_eq_ok.mpr hrecorded, ?_⟩
    rw [checkApart_eq_ok, validate_asStr hrecorded]
    exact hapart

lemma checkAllocationAvailable_eq_ok {allocation : AllocationId} :
    checkAllocationAvailable view name allocation = .ok () ↔
      view.root.allocationId ≠ allocation ∧
        ∀ (other : MemberName) (found : MemberRow), view.members[other]? = some found →
          other ≠ name → found.allocationId ≠ allocation := by
  unfold checkAllocationAvailable
  by_cases hroot : view.root.allocationId = allocation
  · simp [hroot]
  · simp only [hroot, if_false, ne_eq, not_false_eq_true, true_and]
    cases hfind : view.members.toList.find? fun entry =>
        decide (entry.1 ≠ name) && decide (entry.2.allocationId = allocation) with
    | none =>
      simp only [true_iff]
      intro other found hfound hne hsame
      have hnone := find?_eq_none.mp hfind (other, found) (mem_toList.mpr hfound)
      simp [hne, hsame] at hnone
    | some entry =>
      have hmem := mem_toList.mp (mem_of_find?_eq_some hfind)
      have hholds := find?_some hfind
      simp only [ne_eq, Bool.and_eq_true, decide_eq_true_eq] at hholds
      simp only [reduceCtorEq, false_iff]
      intro hall
      exact hall entry.1 entry.2 hmem hholds.1 hholds.2

lemma expectState_eq_ok {expected : MemberState} :
    expectState name row expected = .ok () ↔ row.state = expected := by
  unfold expectState
  split_ifs with h <;> simp_all

lemma expectAllocation_eq_ok {expected : AllocationId} :
    expectAllocation name row expected = .ok () ↔ row.allocationId = expected := by
  unfold expectAllocation
  split_ifs with h <;> simp_all

lemma require_eq_ok : require view name = .ok row ↔ view.members[name]? = some row := by
  unfold require
  cases view.members[name]? <;> simp

end Checks

/-! ### The whole-index check -/

lemma validateRow_eq_ok {entry : MemberName × MemberRow} {admitted : MemberName × MemberPath} :
    validateRow view entry = .ok admitted ↔
      admitted.1 = entry.1 ∧ validate entry.2.path = .ok admitted.2 ∧
        RowAlone view.root entry.2 ∧
        ∀ (other : MemberName) (found : MemberRow), view.members[other]? = some found →
          other ≠ entry.1 → found.allocationId ≠ entry.2.allocationId := by
  unfold validateRow
  rw [bind_eq_ok]
  simp only [bind_unit_eq_ok, validateRowPath_eq_ok, checkAllocationAvailable_eq_ok]
  constructor
  · rintro ⟨path, hpath, hsource, ⟨hroot, hothers⟩, heq⟩
    rw [validateSourcePath_eq_ok hpath] at hsource
    cases heq
    exact ⟨rfl, hpath, ⟨⟨path, hpath⟩, hsource, hroot⟩, hothers⟩
  · rintro ⟨hname, hpath, halone, hothers⟩
    refine ⟨admitted.2, hpath, (validateSourcePath_eq_ok hpath).mpr halone.source,
      ⟨halone.allocation, hothers⟩, ?_⟩
    rw [← hname]
    rfl

/-- The whole-index check decides validity. -/
lemma validateView_eq_ok : validateView view = .ok () ↔ ValidView view := by
  have happart : ∀ (entry other : MemberName × MemberRow) (path recorded : MemberName × MemberPath),
      validateRow view entry = .ok path → validateRow view other = .ok recorded →
        (checkApart path.2 recorded.1 recorded.2 = .ok () ↔ Apart entry.2.path other.2.path) := by
    intro entry other path recorded hpath hrecorded
    rw [checkApart_eq_ok, validate_asStr (validateRow_eq_ok.mp hpath).2.1,
      validate_asStr (validateRow_eq_ok.mp hrecorded).2.1]
  rw [validateView, admitAll_eq_ok happart]
  constructor
  · rintro ⟨hrows, hpairs⟩
    have hrow : ∀ (name : MemberName) (row : MemberRow), view.members[name]? = some row →
        ∃ path, validateRow view (name, row) = .ok path :=
      fun name row hget => hrows (name, row) (mem_toList.mpr hget)
    have : Std.Symm fun earlier later : MemberName × MemberRow =>
        Apart later.2.path earlier.2.path := ⟨fun _ _ h => h.symm⟩
    constructor
    · intro name row hget
      obtain ⟨path, hpath⟩ := hrow name row hget
      exact (validateRow_eq_ok.mp hpath).2.2.1
    · intro name other row found hget hfound hne
      obtain ⟨path, hpath⟩ := hrow other found hfound
      refine ⟨(validateRow_eq_ok.mp hpath).2.2.2 name row hget hne, ?_⟩
      have hmem : (name, row) ∈ view.members.toList := mem_toList.mpr hget
      have hmem' : (other, found) ∈ view.members.toList := mem_toList.mpr hfound
      exact hpairs.forall hmem' hmem fun heq => hne (congrArg Prod.fst heq).symm
  · intro hvalid
    constructor
    · rintro ⟨name, row⟩ hmem
      have hget := mem_toList.mp hmem
      have halone := hvalid.alone name row hget
      obtain ⟨path, hpath⟩ := halone.path
      refine ⟨(name, path), validateRow_eq_ok.mpr ⟨rfl, hpath, halone, ?_⟩⟩
      intro other found hfound hne
      exact (hvalid.apart other name found row hfound hget hne).allocation
    · refine (toList_nodup view.members).pairwise_of_forall_ne ?_
      rintro ⟨name, row⟩ hmem ⟨other, found⟩ hmem' hne
      have hget := mem_toList.mp hmem
      have hfound := mem_toList.mp hmem'
      refine (hvalid.apart other name found row hfound hget ?_).paths
      rintro rfl
      exact hne (Prod.ext rfl (Option.some.inj (hget.symm.trans hfound)))

/-! ### Accepted changes -/

/-- What each change needs of the index, and the index it leaves. -/
inductive Accepts (view : FamilyView) : FamilyChange → FamilyView → Prop
  | allocate (name : MemberName) (row : MemberRow) (hstate : row.state = .creating)
      (hfree : view.members[name]? = none) (halone : RowAlone view.root row)
      (hothers : ∀ (other : MemberName) (found : MemberRow), view.members[other]? = some found →
        (∃ path, validate found.path = .ok path) ∧ RowsApart row found) :
      Accepts view (.allocate name row) (view.write name row)
  | recordError (name : MemberName) (row : MemberRow) (lastError : String)
      (hrow : view.members[name]? = some row) (hstate : row.state = .creating) :
      Accepts view (.recordError name lastError)
        (view.write name { row with lastError := some lastError })
  | markReady (name : MemberName) (row : MemberRow) (hrow : view.members[name]? = some row)
      (hstate : row.state = .creating) :
      Accepts view (.markReady name row.allocationId)
        (view.write name { row with state := .ready, lastError := none })
  | markDisposing (name : MemberName) (row : MemberRow) (hrow : view.members[name]? = some row)
      (hstate : row.state = .ready) :
      Accepts view (.markDisposing name row.allocationId)
        (view.write name { row with state := .disposing })
  | removeRow (name : MemberName) (row : MemberRow) (reason : RemovalReason)
      (hrow : view.members[name]? = some row)
      (hdisposed : reason = .disposed → row.state = .disposing) :
      Accepts view (.removeRow name reason) { view with members := view.members.erase name }
  | disband : Accepts view .disband { view with members := ∅ }

/-- Everything an accepted change can do. -/
lemma transition_eq_ok {next : FamilyView} :
    transition view change = .ok next ↔ Accepts view change next := by
  cases change with
  | allocate name row =>
    by_cases hstate : row.state = .creating
    · have hpass : transition view (.allocate name row) =
        (validateRowPath name row.path >>= fun path =>
          validateSourcePath name row path >>= fun _ => checkNameAvailable view name >>= fun _ =>
            checkPathAvailable view path >>= fun _ =>
              checkAllocationAvailable view name row.allocationId >>= fun _ =>
                .ok (view.write name row)) := by
        simp only [transition, hstate, ne_eq, not_true_eq_false, if_false]
        rfl
      rw [hpass, bind_eq_ok]
      simp only [validateRowPath_eq_ok, bind_unit_eq_ok, checkNameAvailable_eq_ok,
        checkPathAvailable_eq_ok, checkAllocationAvailable_eq_ok]
      constructor
      · rintro ⟨path, hpath, hsource, hfree, hapart, ⟨hroot, hothers⟩, heq⟩
        cases heq
        rw [validateSourcePath_eq_ok hpath] at hsource
        rw [validate_asStr hpath] at hapart
        refine .allocate name row hstate hfree ⟨⟨path, hpath⟩, hsource, hroot⟩ ?_
        intro other found hfound
        obtain ⟨hrecorded, hpaths⟩ := hapart other found hfound
        refine ⟨hrecorded, ⟨fun hsame => ?_, hpaths⟩⟩
        have hne : other ≠ name := by
          rintro rfl
          rw [hfree] at hfound
          cases hfound
        exact hothers other found hfound hne hsame.symm
      · rintro (⟨_, _, _, hfree, halone, hothers⟩)
        obtain ⟨path, hpath⟩ := halone.path
        refine ⟨path, hpath, (validateSourcePath_eq_ok hpath).mpr halone.source, hfree, ?_,
          ⟨halone.allocation, ?_⟩, rfl⟩
        · intro other found hfound
          rw [validate_asStr hpath]
          exact ⟨(hothers other found hfound).1, (hothers other found hfound).2.paths⟩
        · intro other found hfound _
          exact (hothers other found hfound).2.allocation.symm
    · constructor
      · intro h
        simp only [transition, hstate, ne_eq, not_false_eq_true, if_true] at h
        cases h
      · rintro (⟨_, _, hcreating, _, _, _⟩)
        exact absurd hcreating hstate
  | recordError name lastError =>
    rw [transition, bind_eq_ok]
    simp only [require_eq_ok, bind_unit_eq_ok, expectState_eq_ok]
    constructor
    · rintro ⟨row, hrow, hstate, heq⟩
      cases heq
      exact .recordError name row lastError hrow hstate
    · rintro (_ | ⟨_, row, _, hrow, hstate⟩)
      exact ⟨row, hrow, hstate, rfl⟩
  | markReady name =>
    rw [transition, bind_eq_ok]
    simp only [require_eq_ok, bind_unit_eq_ok, expectState_eq_ok, expectAllocation_eq_ok]
    constructor
    · rintro ⟨row, hrow, hstate, rfl, heq⟩
      cases heq
      exact .markReady name row hrow hstate
    · rintro (_ | _ | ⟨_, row, hrow, hstate⟩)
      exact ⟨row, hrow, hstate, rfl, rfl⟩
  | markDisposing name =>
    rw [transition, bind_eq_ok]
    simp only [require_eq_ok, bind_unit_eq_ok, expectState_eq_ok, expectAllocation_eq_ok]
    constructor
    · rintro ⟨row, hrow, hstate, rfl, heq⟩
      cases heq
      exact .markDisposing name row hrow hstate
    · rintro (_ | _ | _ | ⟨_, row, hrow, hstate⟩)
      exact ⟨row, hrow, hstate, rfl, rfl⟩
  | removeRow name reason =>
    rw [transition, bind_eq_ok]
    simp only [require_eq_ok]
    constructor
    · rintro ⟨row, hrow, hremove⟩
      split_ifs at hremove with hrefused
      · cases hremove
      · cases hremove
        exact .removeRow name row reason hrow fun hreason => by
          by_contra hstate
          exact hrefused ⟨hreason, hstate⟩
    · rintro (_ | _ | _ | _ | ⟨_, row, _, hrow, hdisposed⟩)
      refine ⟨row, hrow, ?_⟩
      rw [if_neg fun hrefused => hrefused.2 (hdisposed hrefused.1)]
      rfl
  | disband =>
    constructor
    · intro h
      cases h
      exact .disband
    · rintro ⟨⟩
      rfl

namespace ValidView
variable {next : FamilyView} {name : MemberName} {row : MemberRow}

lemma founded (familyId : FamilyId) (rootAllocation : AllocationId) :
    ValidView (.founded familyId rootAllocation) where
  alone := by simp [FamilyView.founded]
  apart := by simp [FamilyView.founded]

/-- A row may be written that stands alone and is apart from the others. -/
lemma write (h : ValidView view) (halone : RowAlone view.root row)
    (hothers : ∀ (other : MemberName) (found : MemberRow), view.members[other]? = some found →
      other ≠ name → RowsApart row found) : ValidView (view.write name row) where
  alone := by
    intro other found hfound
    rcases get_insert_eq_some.mp hfound with ⟨_, rfl⟩ | ⟨_, hold⟩
    · exact halone
    · exact h.alone other found hold
  apart := by
    intro first second one two hone htwo hne
    rcases get_insert_eq_some.mp hone with ⟨rfl, rfl⟩ | ⟨hfirst, hone'⟩
    · rcases get_insert_eq_some.mp htwo with ⟨rfl, _⟩ | ⟨hsecond, htwo⟩
      · exact absurd rfl hne
      · exact hothers second two htwo hsecond.symm
    · rcases get_insert_eq_some.mp htwo with ⟨rfl, rfl⟩ | ⟨_, htwo⟩
      · exact (hothers first one hone' hfirst.symm).symm
      · exact h.apart first second one two hone' htwo hne

/-- A row may be rewritten with its path, source and allocation. -/
lemma update (h : ValidView view) (hrow : view.members[name]? = some row) (row' : MemberRow)
    (hpath : row'.path = row.path) (hsource : row'.sourcePath = row.sourcePath)
    (hallocation : row'.allocationId = row.allocationId) : ValidView (view.write name row') := by
  refine h.write ?_ ?_
  · obtain ⟨halone, hsources, hroot⟩ := h.alone name row hrow
    rw [← hpath] at halone hsources
    rw [← hsource] at hsources
    rw [← hallocation] at hroot
    exact ⟨halone, hsources, hroot⟩
  · intro other found hfound hne
    obtain ⟨hdistinct, hpaths⟩ := h.apart name other row found hrow hfound hne.symm
    rw [← hallocation] at hdistinct
    rw [← hpath] at hpaths
    exact ⟨hdistinct, hpaths⟩

/-- Fewer rows are valid too. -/
lemma of_members (h : ValidView view) (hroot : next.root = view.root)
    (hmembers : ∀ (name : MemberName) (row : MemberRow), next.members[name]? = some row →
      view.members[name]? = some row) : ValidView next where
  alone := by
    intro name row hrow
    rw [hroot]
    exact h.alone name row (hmembers name row hrow)
  apart := by
    intro name other row found hrow hfound hne
    exact h.apart name other row found (hmembers name row hrow) (hmembers other found hfound) hne

/-- Every accepted change keeps the index valid. -/
lemma accepts (h : ValidView view) (hchange : Accepts view change next) : ValidView next := by
  cases hchange with
  | allocate name row hstate hfree halone hothers =>
    exact h.write halone fun other found hfound _ => (hothers other found hfound).2
  | recordError name row lastError hrow | markReady name row hrow | markDisposing name row hrow =>
    exact h.update hrow _ rfl rfl rfl
  | removeRow =>
    refine h.of_members rfl ?_
    intro other found hfound
    exact (get_erase_eq_some.mp hfound).2
  | disband =>
    refine h.of_members rfl ?_
    intro other found hfound
    simp at hfound

end ValidView

/-! ### Runs of changes -/

/-- The index after a run of changes, each validated against the one before it. -/
def runChanges (view : FamilyView) : List FamilyChange → Except Refusal FamilyView
  | [] => .ok view
  | change :: rest => do
    let validated ← validateTransition view change
    runChanges validated.next rest

lemma validateTransition_eq_ok {validated : ValidatedChange} :
    validateTransition view change = .ok validated ↔
      validated.change = change ∧ Accepts view change validated.next := by
  rw [← transition_eq_ok, validateTransition]
  cases transition view change with
  | error => simp [Except.map]
  | ok =>
    simp only [Except.map, Except.ok.injEq]
    constructor
    · rintro rfl
      exact ⟨rfl, rfl⟩
    · rintro ⟨rfl, rfl⟩
      rfl

/-- The invariant rule for runs of accepted changes. -/
lemma runChanges_induction {P : FamilyView → Prop}
    (hstep : ∀ view change next, Accepts view change next → P view → P next) {final : FamilyView}
    {changes : List FamilyChange} (hrun : runChanges view changes = .ok final) (hview : P view) :
    P final := by
  induction changes generalizing view with
  | nil =>
    cases hrun
    exact hview
  | cons change rest ih =>
    obtain ⟨validated, hchange, hrest⟩ := bind_eq_ok.mp hrun
    exact ih hrest (hstep view change _ (validateTransition_eq_ok.mp hchange).2 hview)

/-- What validity is for, said of the recorded strings alone. -/
structure WellPlaced (view : FamilyView) : Prop where
  outside : ∀ (name : MemberName) (row : MemberRow), view.members[name]? = some row →
    Escapes (components row.path)
  apart : ∀ (name other : MemberName) (row found : MemberRow), view.members[name]? = some row →
    view.members[other]? = some found → name ≠ other →
      row.path ≠ found.path ∧ ¬ components row.path <+: components found.path
  allocations : ∀ (name other : MemberName) (row found : MemberRow),
    view.members[name]? = some row → view.members[other]? = some found → name ≠ other →
      row.allocationId ≠ found.allocationId
  root : ∀ (name : MemberName) (row : MemberRow), view.members[name]? = some row →
    row.allocationId ≠ view.root.allocationId
  source : ∀ (name : MemberName) (row : MemberRow), view.members[name]? = some row →
    row.sourcePath ≠ row.path

lemma ValidView.wellPlaced (h : ValidView view) : WellPlaced view where
  outside := by
    intro name row hrow
    obtain ⟨path, hpath⟩ := (h.alone name row hrow).path
    rw [← validate_asStr hpath]
    exact path.escapes
  apart := by
    intro name other row found hrow hfound hne
    have hpaths := (h.apart name other row found hrow hfound hne).paths
    refine ⟨fun hsame => hpaths.1 ?_, hpaths.1⟩
    rw [hsame]
  allocations := fun name other row found hrow hfound hne =>
    (h.apart name other row found hrow hfound hne).allocation
  root := fun name row hrow => (h.alone name row hrow).allocation.symm
  source := by
    intro name row hrow hsame
    rcases (h.alone name row hrow).source with hroot | ⟨_, hne⟩
    · -- a member path climbs, so it is not the root's
      obtain ⟨path, hpath⟩ := (h.alone name row hrow).path
      rw [← hsame, hroot] at hpath
      exact absurd hpath
        (by simp [show validate rootPath = .error (.rootItself ".") from by decide])
    · exact hne hsame

/-- Accepted changes keep every valid index valid; so every run from a founded family
keeps its rows well placed; and an allocation is accepted exactly when the row is
creating, its name is free and the index with the row added is valid. -/
theorem changes_keep_valid :
    (∀ view change validated, validateView view = .ok () →
      validateTransition view change = .ok validated → validateView validated.next = .ok ()) ∧
    (∀ familyId rootAllocation changes final,
      runChanges (.founded familyId rootAllocation) changes = .ok final →
        validateView final = .ok () ∧ WellPlaced final) ∧
    ∀ view name row, validateView view = .ok () →
      ((∃ validated, validateTransition view (.allocate name row) = .ok validated) ↔
        row.state = .creating ∧ view.members[name]? = none ∧
          validateView (view.write name row) = .ok ()) := by
  simp only [validateView_eq_ok]
  refine ⟨?_, ?_, ?_⟩
  · intro view change validated hvalid hchange
    exact hvalid.accepts (validateTransition_eq_ok.mp hchange).2
  · intro familyId rootAllocation changes final hrun
    have hvalid : ValidView final :=
      runChanges_induction (fun _ _ _ hchange h => h.accepts hchange) hrun (.founded _ _)
    exact ⟨hvalid, hvalid.wellPlaced⟩
  · intro view name row hvalid
    constructor
    · rintro ⟨validated, hchange⟩
      obtain ⟨_, haccepts⟩ := validateTransition_eq_ok.mp hchange
      have hnext := hvalid.accepts haccepts
      generalize validated.next = next at haccepts hnext
      cases haccepts with
      | allocate _ _ hstate hfree => exact ⟨hstate, hfree, hnext⟩
    · rintro ⟨hstate, hfree, hnext⟩
      have hnew : (view.write name row).members[name]? = some row := by
        simp [FamilyView.write]
      refine ⟨⟨_, view.write name row⟩, validateTransition_eq_ok.mpr ⟨rfl, ?_⟩⟩
      refine .allocate name row hstate hfree (hnext.alone name row hnew) ?_
      intro other found hfound
      have hne : name ≠ other := by
        rintro rfl
        rw [hfree] at hfound
        cases hfound
      have hkept : (view.write name row).members[other]? = some found := by
        rw [FamilyView.write, get_insert_of_ne _ _ hne]
        exact hfound
      exact ⟨(hvalid.alone other found hfound).path,
        hnext.apart name other row found hnew hkept hne⟩

namespace Sample

def founded : FamilyView := .founded ⟨"f", by decide⟩ ⟨"r", by decide⟩

def name : MemberName := ⟨"ws-A", by decide⟩

def row : MemberRow :=
  ⟨"../ws-A", .checkout, .creating, ⟨"a", by decide⟩, rootPath, .clean, none, none⟩

/-- A clone is allocated, and its destination is published. -/
def published : List FamilyChange := [.allocate name row, .markReady name row.allocationId]

/-- Then it is disposed of, and its row goes. -/
def disposed : List FamilyChange :=
  [.markDisposing name row.allocationId, .removeRow name .disposed]

end Sample

open Sample in
theorem sample_changes_keep_valid :
    ∃ ready final, runChanges founded published = .ok ready
      ∧ ready.members[name]?.map MemberRow.state = some .ready
      ∧ validateView ready = .ok () ∧ WellPlaced ready
      ∧ runChanges founded (published ++ disposed) = .ok final ∧ final.members[name]? = none
      ∧ validateView final = .ok () ∧ WellPlaced final := by
  obtain ⟨ready, hready, hrow⟩ : ∃ ready, runChanges founded published = .ok ready
      ∧ ready.members[name]?.map MemberRow.state = some .ready := ⟨_, rfl, by decide +kernel⟩
  obtain ⟨final, hfinal, hgone⟩ : ∃ final, runChanges founded (published ++ disposed) = .ok final
      ∧ final.members[name]? = none := ⟨_, rfl, by decide +kernel⟩
  obtain ⟨_, hruns, _⟩ := changes_keep_valid
  obtain ⟨hvalid, hplaced⟩ := hruns _ _ _ _ hready
  exact ⟨ready, final, hready, hrow, hvalid, hplaced, hfinal, hgone, hruns _ _ _ _ hfinal⟩

end GwzCore.FamilyModel
