import GwzCore.FamilyModel.Path
import GwzCore.Lib.HostPath

/-!
# Member paths and directories

What a recorded path means: the directory it names when it is resolved against the root. What
the strings cannot see are the root's own names, so comparing two of them is exact only for
paths that climb alike.
-/
namespace GwzCore.FamilyModel
open HostPath List

variable {path : String} {names : List Component} {acc : Collapsed} {root : Path}

attribute [local simp] relateComponents

/-- The directory a recorded path names. -/
def directoryOf (root : Path) (path : String) : Path := resolve (join root (ofRelative path))

/-! ### What the loop of the components means -/

/-- The directory of the components kept so far, under a root with these names. -/
def Collapsed.directory (acc : Collapsed) (root : List Component) : List Component :=
  climb root acc.leadingUp (acc.parts.drop acc.leadingUp)

lemma Collapsed.leadingUp_le_add (h : acc.leadingUp ≤ acc.parts.length) (part : Component) :
    (acc.add part).leadingUp ≤ (acc.add part).parts.length := by
  unfold Collapsed.add
  split_ifs with hskip hup hlonger
  · exact h
  · simp only [length_dropLast]
    omega
  · simpa using h
  · simp only [length_append]
    omega

/-- One component does to the directory what it does to the components kept. -/
lemma Collapsed.followPart_directory (h : acc.leadingUp ≤ acc.parts.length)
    (root : List Component) (part : Component) :
    followPart (absolute (acc.directory root)) part =
      absolute ((acc.add part).directory root) := by
  unfold followPart Collapsed.add Collapsed.directory climb
  rw [← up]
  split_ifs with hskip hup hlonger
  · rfl
  · -- a name is there to take back
    have hne : acc.parts.drop acc.leadingUp ≠ [] := by simpa using hlonger
    rw [resolveStep_parentDir, dropLast_append_of_ne_nil hne,
      dropLast_drop_eq_drop_dropLast]
  · have hnone : acc.parts.drop acc.leadingUp = [] := by simpa using hlonger
    have hnone' : (acc.parts ++ [up]).drop (acc.leadingUp + 1) = [] := by simp; omega
    rw [resolveStep_parentDir, hnone, hnone', append_nil, append_nil,
      dropLast_eq_take, take_take, length_take]
    congr 2
    dsimp only
    omega
  · rw [drop_append_of_le_length h, ← append_assoc]
    exact (absolute_append _ [part]).symm

lemma collapse_append (parts rest : List Component) :
    collapse (parts ++ rest) = rest.foldl Collapsed.add (collapse parts) :=
  foldl_append

lemma follow_directory (root : List Component) (parts : List Component)
    (h : acc.leadingUp ≤ acc.parts.length) :
    follow (absolute (acc.directory root)) parts =
      absolute ((parts.foldl Collapsed.add acc).directory root) := by
  induction parts generalizing acc with
  | nil => rfl
  | cons part rest ih =>
    rw [follow, foldl_cons, acc.followPart_directory h]
    exact ih (acc.leadingUp_le_add h part)

lemma follow_collapse (root : List Component) (parts : List Component) :
    follow (absolute root) parts = absolute ((collapse parts).directory root) := by
  have hstart : root = (⟨[], 0⟩ : Collapsed).directory root := by
    simp [Collapsed.directory, climb]
  nth_rewrite 1 [hstart]
  exact follow_directory root parts le_rfl

lemma directoryOf_collapse (hroot : resolve root = absolute names) (text : String) :
    directoryOf root text = absolute ((collapse (components text)).directory names) := by
  have hne : root ≠ [] := by
    rintro rfl
    cases hroot
  rw [directoryOf, resolve_join_ofRelative hne, hroot]
  exact follow_collapse names (components text)

/-! ### Normalised paths -/

/-- A normalised list of components is kept as it is. -/
lemma collapse_climbs (ups : ℕ) (hnames : ∀ part ∈ names, Ordinary part) :
    collapse (replicate ups up ++ names) = ⟨replicate ups up ++ names, ups⟩ := by
  have hups : collapse (replicate ups up) = ⟨replicate ups up, ups⟩ := by
    induction ups with
    | zero => rfl
    | succ ups ih =>
      rw [replicate_succ', collapse_append, ih]
      simp [Collapsed.add, up]
  rw [collapse_append, hups]
  generalize replicate ups up = start
  induction names generalizing start with
  | nil => simp
  | cons part rest ih =>
    have hpart := hnames part mem_cons_self
    rw [foldl_cons, Collapsed.add, if_neg (by simp [hpart.nonempty, hpart.notHere]),
      if_neg hpart.notUp]
    simpa using ih (fun other hother => hnames other (mem_cons_of_mem _ hother))
      (start ++ [part])

/-- How far a recorded path climbs. -/
def climbs (path : String) : ℕ := ((components path).takeWhile (· == up)).length

/-- The directories a recorded path names after climbing. -/
def named (path : String) : List Component := (components path).dropWhile (· == up)

lemma climbs_named {ups : ℕ} (hparts : components path = replicate ups up ++ names)
    (hnames : ∀ part ∈ names.head?, part ≠ up) : climbs path = ups ∧ named path = names := by
  have hstop : names.takeWhile (· == up) = [] ∧ names.dropWhile (· == up) = names := by
    cases names with
    | nil => exact ⟨rfl, rfl⟩
    | cons part =>
      have hpart := hnames part rfl
      exact ⟨by simp [hpart], by simp [hpart]⟩
  constructor
  · rw [climbs, hparts, takeWhile_append_of_pos (by simp), hstop.1]
    simp
  · rw [named, hparts, dropWhile_append_of_pos (by simp), hstop.2]

lemma components_eq_climbs (h : Escapes (components path)) :
    components path = replicate (climbs path) up ++ named path ∧ named path ≠ [] ∧
      ∀ part ∈ named path, Ordinary part := by
  obtain ⟨ups, names, hparts, hne, hnames⟩ := h
  obtain ⟨hclimbs, hnamed⟩ :=
    climbs_named hparts fun part hpart => (hnames part (mem_of_mem_head? hpart)).notUp
  rw [hclimbs, hnamed]
  exact ⟨hparts, hne, hnames⟩

lemma directoryOf_eq (hroot : resolve root = absolute names) (h : Escapes (components path)) :
    directoryOf root path = absolute (climb names (climbs path) (named path)) := by
  obtain ⟨hparts, -, hnames⟩ := components_eq_climbs h
  rw [directoryOf_collapse hroot, hparts, collapse_climbs _ hnames, Collapsed.directory,
    drop_left' (length_replicate ..)]

/-! ### Two member paths -/

lemma relateComponents_eq_inside (left right : List Component) :
    relateComponents left right = .inside ↔ right <+: left ∧ right ≠ left := by
  induction left generalizing right with
  | nil => cases right <;> simp
  | cons one left ih =>
    cases right with
    | nil => simp
    | cons other =>
      by_cases heq : one = other
      · simp [heq, ih]
      · simp [heq, Ne.symm heq]

lemma relateComponents_eq_contains (left right : List Component) :
    relateComponents left right = .contains ↔ left <+: right ∧ left ≠ right := by
  induction left generalizing right with
  | nil => cases right <;> simp
  | cons one left ih =>
    cases right with
    | nil => simp
    | cons other => by_cases heq : one = other <;> simp [heq, ih]

/-- A path whose components go on where another's end names a directory inside the other's. -/
lemma directoryOf_within (hroot : resolve root = absolute names)
    {a b : MemberPath} (h : components a.asStr <+: components b.asStr) :
    directoryOf root a.asStr <+: directoryOf root b.asStr := by
  obtain ⟨hparts, hne, hnames⟩ := components_eq_climbs a.escapes
  obtain ⟨rest, hrest⟩ := h
  rw [hparts, append_assoc] at hrest
  obtain ⟨hclimbs, hnamed⟩ := climbs_named hrest.symm fun part hpart => by
    rw [head?_append_of_ne_nil _ hne] at hpart
    exact (hnames part (mem_of_mem_head? hpart)).notUp
  rw [directoryOf_eq hroot a.escapes, directoryOf_eq hroot b.escapes, absolute_prefix_iff,
    hclimbs, hnamed, climb, climb, ← append_assoc]
  exact prefix_append _ rest

/-- Comparing two member paths: an order on their spellings that is containment of the
directories under every root, and exact for paths that climb alike. -/
theorem relate_directories (a b c : MemberPath) :
    (relate a b = .same ↔ a = b) ∧
    (relate a b = .inside ↔ relate b a = .contains) ∧
    (relate a b = .inside → relate b c = .inside → relate a c = .inside) ∧
    (relate a b ≠ .disjoint → ∀ root : Path, root.head? = some .rootDir →
      directoryOf root a.asStr <+: directoryOf root b.asStr ∨
        directoryOf root b.asStr <+: directoryOf root a.asStr) ∧
    (climbs a.asStr = climbs b.asStr → relate a b = .disjoint →
      ∀ root : Path, root.head? = some .rootDir →
        HostPath.Apart (directoryOf root a.asStr) (directoryOf root b.asStr)) := by
  refine ⟨?_, ?_, fun hab hbc => ?_, fun hnear root hroot => ?_,
    fun hclimbs hapart root hroot => ?_⟩
  · rw [relate_eq_same]
    exact ⟨fun h => by cases a; cases b; cases h; rfl, fun h => h ▸ rfl⟩
  · rw [relate, relate, relateComponents_eq_inside, relateComponents_eq_contains]
  · rw [relate, relateComponents_eq_inside] at hab hbc ⊢
    refine ⟨hbc.1.trans hab.1, fun heq => hab.2 ?_⟩
    -- the path between is then both as well
    exact hab.1.eq_of_length_le (heq ▸ hbc.1.length_le)
  · obtain ⟨names, hnames⟩ := resolve_absolute hroot
    rw [Ne, relate_eq_disjoint, not_and_or, not_not, not_not] at hnear
    exact hnear.imp (directoryOf_within hnames) (directoryOf_within hnames)
  · obtain ⟨names, hnames⟩ := resolve_absolute hroot
    rw [directoryOf_eq hnames a.escapes, directoryOf_eq hnames b.escapes, hclimbs]
    rw [relate_eq_disjoint, (components_eq_climbs a.escapes).1, (components_eq_climbs b.escapes).1,
      hclimbs, prefix_append_right_inj, prefix_append_right_inj] at hapart
    exact (climb_apart_iff _).mpr hapart

/-- The member path that climbs once and then names directories. -/
def below (names : List Component) (h : names ≠ [] ∧ ∀ part ∈ names, Ordinary part) :
    MemberPath where
  asStr := joined (up :: names)
  escapes := by
    have hkept : (⟨up :: names, 1⟩ : Collapsed).Kept := ⟨names, rfl, h.2⟩
    rw [hkept.components_joined (by simp)]
    exact ⟨0, names, rfl, h.1, h.2⟩

/-- Three directories inside one another, and two siblings. -/
theorem relate_directories_nested :
    let root := absolute [['r']]
    let a := below [['x'], ['y'], ['z']] (by decide)
    let b := below [['x'], ['y']] (by decide)
    relate a (below [['x']] (by decide)) = .inside ∧
    (directoryOf root a.asStr <+: directoryOf root b.asStr ∨
      directoryOf root b.asStr <+: directoryOf root a.asStr) ∧
    HostPath.Apart (directoryOf root b.asStr)
      (directoryOf root (below [['w']] (by decide)).asStr) := by
  refine ⟨(relate_directories _ (below [['x'], ['y']] (by decide)) _).2.2.1 (by decide) (by decide),
    (relate_directories _ _ (below [['x']] (by decide))).2.2.2.1 (by decide) _ rfl,
    (relate_directories _ _ (below [['x']] (by decide))).2.2.2.2 (by decide) (by decide) _ rfl⟩

end GwzCore.FamilyModel
