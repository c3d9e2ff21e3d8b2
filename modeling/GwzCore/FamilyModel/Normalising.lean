import GwzCore.FamilyModel.Resolution

/-!
# Normalising keeps the directory

The loop over the components is right for every root: what it keeps resolves to the directory
the text resolves to, and its count of leading `..` is how far the text climbs out of the root.
What a string cannot see are the root's own names: a text that climbs and names its way back
to the root is not told from one that leads elsewhere.
-/
namespace GwzCore.FamilyModel
open HostPath Lines List

variable {path : String} {names : List Component} {acc : Collapsed}

/-! ### What becomes of a text -/

/-- A text with `/` for `\`. -/
def slashed (path : String) : String :=
  String.ofList (path.toList.map fun c => if c = '\\' then '/' else c)

/-- A text that is not empty, has no control character, and is neither absolute nor
drive-qualified. -/
def Relative (path : String) : Prop :=
  path ≠ "" ∧ path.toList.any isControl = false ∧ (slashed path).toList.head? ≠ some '/' ∧
    hasDrivePrefix (slashed path).toList = false

instance (path : String) : Decidable (Relative path) := inferInstanceAs (Decidable (_ ∧ _))

/-- What becomes of a relative text, by the components its loop keeps. -/
lemma normalize_of_relative (h : Relative path)
    (hacc : collapse (components (slashed path)) = acc) :
    (acc.parts = [] ∧ normalize path = .error (.rootItself path)) ∨
    (acc.parts ≠ [] ∧ acc.leadingUp = 0 ∧
      normalize path = .error (.insideRoot path (joined acc.parts))) ∨
    (acc.parts.length = acc.leadingUp ∧ acc.leadingUp ≠ 0 ∧
      normalize path = .error (.containsRoot path (joined acc.parts))) ∨
    (acc.parts.length ≠ acc.leadingUp ∧ acc.leadingUp ≠ 0 ∧
      ∃ hescapes, normalize path = .ok ⟨joined acc.parts, hescapes⟩) := by
  obtain ⟨hempty, hcontrol, hslash, hdrive⟩ := h
  rw [slashed, String.toList_ofList] at hslash hdrive
  rw [components, slashed, String.toList_ofList] at hacc
  subst hacc
  unfold normalize
  rw [if_neg hempty, if_neg (by simp [hcontrol])]
  dsimp only
  rw [if_neg (not_or.mpr ⟨hslash, by simp [hdrive]⟩)]
  split_ifs with hnone hup hlength
  · exact .inl ⟨hnone, rfl⟩
  · exact .inr (.inl ⟨hnone, hup, rfl⟩)
  · exact .inr (.inr (.inl ⟨hlength, hup, rfl⟩))
  · exact .inr (.inr (.inr ⟨hlength, hup, escapes_of_collapse rfl hup hlength, rfl⟩))

lemma leadingUp_le_length (parts : List Component) :
    (collapse parts).leadingUp ≤ (collapse parts).parts.length := by
  induction parts using List.reverseRecOn with
  | nil => exact le_rfl
  | append_singleton parts next ih =>
    rw [collapse_append]
    exact (collapse parts).leadingUp_le_add ih next

/-- The characters of a joined path are those of its components and the separator. -/
lemma forall_mem_intercalate {P : Char → Prop} (hslash : P '/') (parts : List Component) :
    (∀ c ∈ ['/'].intercalate parts, P c) ↔ ∀ part ∈ parts, ∀ c ∈ part, P c := by
  induction parts with
  | nil => simp
  | cons part rest ih =>
    cases rest with
    | nil => simp
    | cons next rest =>
      rw [intercalate_cons_cons]
      simp only [mem_append, or_imp, forall_and, ih, forall_mem_cons, mem_singleton,
        forall_eq, hslash, and_true]

/-- What holds of `..` and of every component holds of those the loop keeps. -/
lemma forall_mem_collapse {P : Component → Prop} (hup : P up) {parts : List Component}
    (h : ∀ part ∈ parts, P part) : ∀ part ∈ (collapse parts).parts, P part := by
  induction parts using List.reverseRecOn with
  | nil => simp [collapse]
  | append_singleton parts next ih =>
    rw [forall_mem_append] at h
    have hkept := ih h.1
    rw [collapse_append, foldl_cons, foldl_nil, Collapsed.add]
    split_ifs
    · exact hkept
    · exact fun part hpart => hkept part (mem_of_mem_dropLast hpart)
    · exact forall_mem_append.mpr ⟨hkept, by simpa using hup⟩
    · exact forall_mem_append.mpr ⟨hkept, h.2⟩

section Accepted

variable {member : MemberPath} (h : normalize path = .ok member)
include h

lemma relative_of_normalize : Relative path := by
  unfold normalize at h
  split at h
  · cases h
  · rename_i hempty
    split at h
    · cases h
    · rename_i hcontrol
      dsimp only at h
      split at h
      · cases h
      · rename_i habsolute
        rw [not_or] at habsolute
        rw [Relative, slashed, String.toList_ofList]
        exact ⟨hempty, by simpa using hcontrol, habsolute.1, by simpa using habsolute.2⟩

lemma asStr_of_normalize :
    member.asStr = joined (collapse (components (slashed path))).parts ∧
      (collapse (components (slashed path))).parts ≠ [] := by
  have hcases := normalize_of_relative (relative_of_normalize h) rfl
  simp only [h, reduceCtorEq, and_false, false_or, Except.ok.injEq] at hcases
  obtain ⟨-, hup, hescapes, rfl⟩ := hcases
  refine ⟨rfl, fun hnone => hup ?_⟩
  simpa [hnone] using leadingUp_le_length (components (slashed path))

/-- A normalised text is collapsed to the components its own text was. -/
lemma collapse_normalized :
    collapse (components member.asStr) = collapse (components (slashed path)) := by
  have hkept : (collapse (components (slashed path))).Kept :=
    collapse_kept fun part hpart => not_mem_of_mem_splitOn hpart
  obtain ⟨hjoined, hne⟩ := asStr_of_normalize h
  rw [hjoined, hkept.components_joined hne]
  obtain ⟨names, hparts, hnames⟩ := hkept
  nth_rewrite 1 [hparts]
  rw [collapse_climbs _ hnames, ← hparts]

/-- No control character and no `\` comes with normalising. -/
lemma plain_normalized : ∀ c ∈ member.asStr.toList, isControl c = false ∧ c ≠ '\\' := by
  have hrelative := relative_of_normalize h
  have hplain : ∀ c ∈ (slashed path).toList, isControl c = false ∧ c ≠ '\\' := by
    rw [slashed, String.toList_ofList]
    intro c hc
    obtain ⟨old, hold, rfl⟩ := mem_map.mp hc
    split_ifs with hback
    · decide
    · exact ⟨by simpa using any_eq_false.mp hrelative.2.1 old hold, hback⟩
  rw [(asStr_of_normalize h).1, joined, String.toList_ofList, forall_mem_intercalate (by decide)]
  refine forall_mem_collapse (by simpa [up] using by decide) ?_
  rwa [← forall_mem_intercalate (by decide), components, intercalate_splitOn]

/-- A normalised path is its own normal form. -/
lemma normalize_normalized : normalize member.asStr = .ok member := by
  have hplain := plain_normalized h
  obtain ⟨ups, names, hparts, hne, hnames⟩ := member.escapes
  have hslashed : slashed member.asStr = member.asStr := by
    rw [slashed, map_congr_left fun c hc => if_neg (hplain c hc).2, map_id',
      String.ofList_toList]
  have hjoined : joined (components member.asStr) = member.asStr := by
    rw [joined, components, intercalate_splitOn, String.ofList_toList]
  have hstart : ∃ rest, member.asStr.toList = '.' :: '.' :: rest := by
    rw [← hjoined, joined, String.toList_ofList, hparts, replicate_succ, cons_append,
      intercalate_cons_of_ne_nil (by simp [hne])]
    exact ⟨_, rfl⟩
  obtain ⟨rest, hstart⟩ := hstart
  have hrelative : Relative member.asStr := by
    rw [Relative, hslashed, hstart]
    refine ⟨fun hempty => ?_, ?_, by simp, rfl⟩
    · simp [hempty] at hstart
    · rw [any_eq_false, ← hstart]
      exact fun c hc => by simp [(hplain c hc).1]
  have hacc : collapse (components (slashed member.asStr)) =
      ⟨components member.asStr, ups + 1⟩ := by
    rw [hslashed, hparts, collapse_climbs _ hnames]
  have hcases := normalize_of_relative hrelative hacc
  simp only [hjoined] at hcases
  rcases hcases with ⟨hnone, -⟩ | ⟨-, hzero, -⟩ | ⟨hlength, -⟩ | ⟨-, -, _, hok⟩
  · simp [hparts] at hnone
  · cases hzero
  · simp [hparts, hne] at hlength
  · exact hok

end Accepted

/-! ### Refusals -/

lemma leadingUp_mono (rest : List Component) (acc : Collapsed) :
    acc.leadingUp ≤ (rest.foldl Collapsed.add acc).leadingUp := by
  induction rest generalizing acc with
  | nil => exact le_rfl
  | cons part rest ih =>
    refine le_trans ?_ (ih (acc.add part))
    unfold Collapsed.add
    split_ifs <;> simp

/-- A text none of whose starts leads out of the root does not climb. -/
lemma leadingUp_eq_zero (hpos : 0 < names.length) {parts : List Component}
    (h : ∀ start, start <+: parts → names <+: (collapse start).directory names) :
    (collapse parts).leadingUp = 0 := by
  induction parts using List.reverseRecOn with
  | nil => rfl
  | append_singleton parts next ih =>
    have hzero := ih fun start hstart => h start (hstart.trans (prefix_append ..))
    have hlength := (h _ prefix_rfl).length_le
    rw [collapse_append, foldl_cons, foldl_nil, Collapsed.add] at hlength ⊢
    split_ifs at hlength ⊢ with hskip hup hlonger
    · exact hzero
    · exact hzero
    · have hnone : (collapse parts).parts = [] := by simpa [hzero] using hlonger
      simp [Collapsed.directory, climb, hnone, hzero] at hlength
      omega
    · exact hzero

/-- A root directory with at least as many names as the text has components. -/
def Root (names : List Component) (path : String) : Prop :=
  (∀ name ∈ names, Ordinary name) ∧ (components (slashed path)).length ≤ names.length

instance (names : List Component) (path : String) : Decidable (Root names path) :=
  inferInstanceAs (Decidable (_ ∧ _))

lemma Root.pos (h : Root names path) : 0 < names.length :=
  (length_pos_iff.mpr (splitOn_ne_nil _ _)).trans_le h.2

/-- A root made of one name. -/
lemma root_replicate (path : String) {name : Component} (h : Ordinary name) :
    Root (List.replicate (components (slashed path)).length name) path :=
  ⟨fun _ hother => eq_of_mem_replicate hother ▸ h, by simp⟩

lemma Collapsed.directory_of_zero (h : acc.leadingUp = 0) (names : List Component) :
    acc.directory names = names ++ acc.parts := by
  simp [Collapsed.directory, climb, h]

/-- A text that only climbs leads to the root if it does not climb. -/
lemma Collapsed.directory_eq_iff (h : acc.parts.drop acc.leadingUp = []) (hpos : 0 < names.length) :
    acc.directory names = names ↔ acc.leadingUp = 0 := by
  rw [Collapsed.directory, climb, h, append_nil, take_eq_self_iff]
  omega

/-- A text that leads to every root or above it names no directory after climbing. -/
lemma drop_eq_nil_of_within (h : ∀ names, Root names path → acc.directory names <+: names) :
    acc.parts.drop acc.leadingUp = [] := by
  -- roots made of one name, with two different names
  have hname : ∀ name, Ordinary name → ∀ part ∈ acc.parts.drop acc.leadingUp, part = name := by
    intro name hname part hpart
    exact eq_of_mem_replicate
      ((h _ (root_replicate path hname)).subset (mem_append_right _ hpart))
  refine eq_nil_iff_forall_not_mem.mpr fun part hpart => ?_
  have ha := hname ['a'] (by decide) part hpart
  have hb := hname ['b'] (by decide) part hpart
  cases ha.symm.trans hb

lemma rootItself_iff : acc.parts.drop acc.leadingUp = [] ∧ acc.leadingUp = 0 ↔
    ∀ names, Root names path → acc.directory names = names := by
  constructor
  · rintro ⟨hdrop, hzero⟩ names hroot
    exact (acc.directory_eq_iff hdrop hroot.pos).mpr hzero
  · intro h
    have hdrop := drop_eq_nil_of_within fun names hroot => by rw [h names hroot]
    have hroot := root_replicate path (show Ordinary ['a'] by decide)
    exact ⟨hdrop, (acc.directory_eq_iff hdrop hroot.pos).mp (h _ hroot)⟩

lemma containsRoot_iff : acc.parts.drop acc.leadingUp = [] ∧ acc.leadingUp ≠ 0 ↔
    ∀ names, Root names path → acc.directory names <+: names ∧ acc.directory names ≠ names := by
  constructor
  · rintro ⟨hdrop, hup⟩ names hroot
    refine ⟨by simp [Collapsed.directory, climb, hdrop, take_prefix], ?_⟩
    rwa [Ne, acc.directory_eq_iff hdrop hroot.pos]
  · intro h
    have hdrop := drop_eq_nil_of_within fun names hroot => (h names hroot).1
    have hroot := root_replicate path (show Ordinary ['a'] by decide)
    exact ⟨hdrop, fun hzero => (h _ hroot).2 ((acc.directory_eq_iff hdrop hroot.pos).mpr hzero)⟩

section Refused

variable (hacc : collapse (components (slashed path)) = acc)
include hacc

lemma directoryOf_slashed (names : List Component) :
    directoryOf (absolute names) (slashed path) = absolute (acc.directory names) := by
  rw [directoryOf_collapse (resolve_absolute_names names), hacc]

/-- The refusals of a relative text, by the components its loop keeps. -/
lemma refused_iff (h : Relative path) :
    (normalize path = .error (.rootItself path) ↔
      acc.parts.drop acc.leadingUp = [] ∧ acc.leadingUp = 0) ∧
    ((∃ normalised, normalize path = .error (.insideRoot path normalised)) ↔
      acc.parts ≠ [] ∧ acc.leadingUp = 0) ∧
    ((∃ normalised, normalize path = .error (.containsRoot path normalised)) ↔
      acc.parts.drop acc.leadingUp = [] ∧ acc.leadingUp ≠ 0) := by
  have hle : acc.leadingUp ≤ acc.parts.length := hacc ▸ leadingUp_le_length _
  rcases normalize_of_relative h hacc with
    ⟨hnone, hr⟩ | ⟨hsome, hzero, hr⟩ | ⟨hlength, hup, hr⟩ | ⟨hlength, hup, hescapes, hr⟩
  · have hzero : acc.leadingUp = 0 := by simpa [hnone] using hle
    simp [hr, hnone, hzero]
  · simp [hr, hsome, hzero]
  · have hsome : acc.parts ≠ [] := by
      rintro hnone
      exact hup (by simpa [hnone] using hlength.symm)
    simp [hr, hsome, hup, hlength]
  · have hsome : acc.parts ≠ [] := by
      rintro hnone
      exact hup (by simpa [hnone] using hle)
    have hlonger : ¬ acc.parts.length ≤ acc.leadingUp := by omega
    simp [hr, hsome, hup, hlonger]

lemma insideRoot_iff (hroot : Root names path) : acc.parts ≠ [] ∧ acc.leadingUp = 0 ↔
    acc.directory names ≠ names ∧ ∀ start, start <+: components (slashed path) →
      names <+: (collapse start).directory names := by
  constructor
  · rintro ⟨hsome, hzero⟩
    refine ⟨by simp [acc.directory_of_zero hzero, hsome], ?_⟩
    rintro start ⟨rest, hrest⟩
    -- the count of leading `..` only grows
    have hmono := leadingUp_mono rest (collapse start)
    rw [← collapse_append, hrest, hacc, hzero] at hmono
    rw [(collapse start).directory_of_zero (Nat.le_zero.mp hmono)]
    exact prefix_append ..
  · rintro ⟨hne, hstays⟩
    have hzero : acc.leadingUp = 0 := hacc ▸ leadingUp_eq_zero hroot.pos hstays
    exact ⟨fun hnone => hne (by simp [acc.directory_of_zero hzero, hnone]), hzero⟩

end Refused

lemma validate_isOk_iff (path : String) : (validate path).isOk = true ↔
    ∃ other member, normalize other = .ok member ∧ member.asStr = path := by
  unfold validate
  constructor
  · intro h
    cases hnormal : normalize path with
    | error => simp [hnormal, Except.isOk, Except.toBool] at h
    | ok member =>
      refine ⟨path, member, hnormal, ?_⟩
      by_contra hne
      simp [hnormal, hne, Except.isOk, Except.toBool] at h
  · rintro ⟨other, member, hnormal, rfl⟩
    rw [normalize_normalized hnormal]
    simp [Except.isOk, Except.toBool]

/-- Normalising keeps the directory under every root and is idempotent, `validate` accepts its
results and nothing else, and a relative text is refused by where it leads: to every root, into
the root without leaving it, or above every root. -/
theorem normalize_directory (path : String) :
    (∀ member, normalize path = .ok member →
      (∀ root : Path, root.head? = some .rootDir →
        directoryOf root (slashed path) = directoryOf root member.asStr) ∧
      Escapes (components member.asStr) ∧ normalize member.asStr = .ok member) ∧
    ((validate path).isOk = true ↔
      ∃ other member, normalize other = .ok member ∧ member.asStr = path) ∧
    (Relative path →
      (normalize path = .error (.rootItself path) ↔
        ∀ names, Root names path → directoryOf (absolute names) (slashed path) = absolute names) ∧
      (∀ names, Root names path →
        ((∃ normalised, normalize path = .error (.insideRoot path normalised)) ↔
          directoryOf (absolute names) (slashed path) ≠ absolute names ∧
          ∀ start, start <+: components (slashed path) →
            absolute names <+: follow (absolute names) start)) ∧
      ((∃ normalised, normalize path = .error (.containsRoot path normalised)) ↔
        ∀ names, Root names path →
          directoryOf (absolute names) (slashed path) <+: absolute names ∧
          directoryOf (absolute names) (slashed path) ≠ absolute names)) := by
  refine ⟨fun member h => ⟨fun root hroot => ?_, member.escapes, normalize_normalized h⟩,
    validate_isOk_iff path, fun hrelative => ?_⟩
  · obtain ⟨names, hnames⟩ := resolve_absolute hroot
    rw [directoryOf_collapse hnames, directoryOf_collapse hnames, collapse_normalized h]
  · obtain ⟨hitself, hinside, hcontains⟩ := refused_iff rfl hrelative
    simp only [directoryOf_slashed rfl, absolute_inj, absolute_prefix_iff, follow_collapse, ne_eq]
    refine ⟨hitself.trans rootItself_iff, fun names hroot => ?_, hcontains.trans containsRoot_iff⟩
    exact hinside.trans (insideRoot_iff rfl hroot)

/-- A sibling by a detour, a way to the root, into it and above it. -/
theorem normalize_directory_sibling :
    directoryOf (absolute [['r']]) (slashed "..\\x/../ws-A") =
      directoryOf (absolute [['r']]) "../ws-A" ∧
    directoryOf (absolute [['r'], ['s']]) (slashed "x/..") = absolute [['r'], ['s']] ∧
    absolute [['r']] <+: follow (absolute [['r']]) [['x']] ∧
    directoryOf (absolute [['r']]) (slashed "..") ≠ absolute [['r']] := by
  have hroot : ∀ path, (components (slashed path)).length ≤ 1 → Root [['r']] path :=
    fun path h => ⟨by decide, h⟩
  refine ⟨?_, ?_, ?_, ?_⟩
  · exact ((normalize_directory "..\\x/../ws-A").1 (below [['w', 's', '-', 'A']] (by decide))
      (by decide)).1 _ rfl
  · exact ((normalize_directory "x/..").2.2 (by decide)).1.mp (by decide) _ ⟨by decide, by decide⟩
  · exact (((normalize_directory "x").2.2 (by decide)).2.1 _ (hroot _ (by decide))).mp
      ⟨_, rfl⟩ |>.2 _ (by decide)
  · exact (((normalize_directory "..").2.2 (by decide)).2.2.mp ⟨_, rfl⟩ _ (hroot _ (by decide))).2

/-- A text that climbs and names the root itself is accepted, and the empty text, which
resolves to every root, is refused as empty. -/
theorem normalize_accepts_root :
    (Relative "../r" ∧ Root [['a'], ['r']] "../r" ∧
      directoryOf (absolute [['a'], ['r']]) (slashed "../r") = absolute [['a'], ['r']] ∧
      (normalize "../r").isOk = true) ∧
    directoryOf (absolute [['r']]) (slashed "") = absolute [['r']] ∧
      normalize "" = .error .empty := by
  decide

end GwzCore.FamilyModel
