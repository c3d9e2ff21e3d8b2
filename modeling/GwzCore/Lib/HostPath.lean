import Mathlib

/-!
# Host paths

A path of the host as the sequence of its components, which is how paths are compared, and
its lexical resolution, which opens nothing: `.` goes, and `..` takes the name before it.
-/
namespace GwzCore.HostPath
open List

variable {names other more : List (List Char)}

inductive Part where
  | rootDir
  | curDir
  | parentDir
  | normal (name : List Char)
  deriving DecidableEq

abbrev Path := List Part

/-- The parts of a relative text: empty parts and every `.` but a leading one are no
components. -/
def ofRelative (text : String) : Path :=
  let parts := text.toList.splitOn '/'
  let kept := parts.filterMap fun part =>
    if part = [] ∨ part = ['.'] then none
    else if part = ['.', '.'] then some .parentDir
    else some (.normal part)
  if parts.head? = some ['.'] then .curDir :: kept else kept

/-- The parts of a text. -/
def ofText (text : String) : Path :=
  if text.toList.head? = some '/' then .rootDir :: ofRelative text else ofRelative text

/-- An absolute path replaces what it is joined to. -/
def join (path other : Path) : Path :=
  if other.head? = some .rootDir then other
  else if path = [] then other
  else path ++ other.filter fun part => decide (part ≠ .curDir)

def Part.text : Part → List Char
  | .rootDir => []
  | .curDir => ['.']
  | .parentDir => ['.', '.']
  | .normal name => name

def display (path : Path) : String :=
  match path with
  | [.rootDir] => "/"
  | path => String.ofList (['/'].intercalate (path.map Part.text))

/-- `base` is the path or contains it. -/
def startsWith (path base : Path) : Bool := base.isPrefixOf path

lemma startsWith_iff {path base : Path} : startsWith path base = true ↔ base <+: path :=
  isPrefixOf_iff_prefix

/-! ### Resolution -/

/-- One component: `..` takes a name with it, stays at the root and is kept elsewhere. -/
def resolveStep (resolved : Path) : Part → Path
  | .curDir => resolved
  | .parentDir =>
    match resolved.getLast? with
    | some (.normal _) => resolved.dropLast
    | some .rootDir => resolved
    | _ => resolved ++ [.parentDir]
  | .rootDir => [.rootDir]
  | .normal name => resolved ++ [.normal name]

def resolve (path : Path) : Path := path.foldl resolveStep []

/-- The absolute path with these names. -/
def absolute (names : List (List Char)) : Path := .rootDir :: names.map .normal

lemma absolute_append (names more : List (List Char)) :
    absolute (names ++ more) = absolute names ++ more.map .normal := by
  simp [absolute]

lemma resolveStep_parentDir (names : List (List Char)) :
    resolveStep (absolute names) .parentDir = absolute names.dropLast := by
  induction names using List.reverseRecOn with
  | nil => rfl
  | append_singleton =>
    rw [absolute_append, dropLast_concat]
    simp [resolveStep]

lemma resolveStep_absolute (names : List (List Char)) (part : Part) :
    ∃ names', resolveStep (absolute names) part = absolute names' := by
  cases part with
  | rootDir => exact ⟨[], rfl⟩
  | curDir => exact ⟨names, rfl⟩
  | normal name => exact ⟨names ++ [name], by simp [resolveStep, absolute]⟩
  | parentDir => exact ⟨names.dropLast, resolveStep_parentDir names⟩

/-- An absolute path resolves to names under the root. -/
lemma resolve_absolute {path : Path} (h : path.head? = some .rootDir) :
    ∃ names, resolve path = absolute names := by
  have hloop : ∀ (rest : Path) names,
      ∃ names', rest.foldl resolveStep (absolute names) = absolute names' := by
    intro rest
    induction rest with
    | nil => exact fun names => ⟨names, rfl⟩
    | cons part rest ih =>
      intro names
      obtain ⟨next, hnext⟩ := resolveStep_absolute names part
      rw [foldl_cons, hnext]
      exact ih next
  cases path with
  | nil => cases h
  | cons part rest =>
    cases h
    exact hloop rest []

lemma resolve_absolute_names (names : List (List Char)) :
    resolve (absolute names) = absolute names := by
  induction names using List.reverseRecOn with
  | nil => rfl
  | append_singleton names name ih =>
    rw [absolute_append, resolve, foldl_append, ← resolve, ih]
    rfl

/-- Climbing `n` times from `names`, as far as the root, and then naming `more`. -/
def climb (names : List (List Char)) (n : ℕ) (more : List (List Char)) : List (List Char) :=
  names.take (names.length - n) ++ more

/-- What one part of a text does to a resolved path. -/
def followPart (resolved : Path) (part : List Char) : Path :=
  if part = [] ∨ part = ['.'] then resolved
  else if part = ['.', '.'] then resolveStep resolved .parentDir
  else resolveStep resolved (.normal part)

/-- The parts of a text, followed one after the other. -/
def follow (resolved : Path) (parts : List (List Char)) : Path := parts.foldl followPart resolved

/-- Resolving a joined text follows its parts. -/
lemma resolve_join_ofRelative {path : Path} (hpath : path ≠ []) (text : String) :
    resolve (join path (ofRelative text)) = follow (resolve path) (text.toList.splitOn '/') := by
  set kept := (text.toList.splitOn '/').filterMap fun part =>
    if part = [] ∨ part = ['.'] then none
    else if part = ['.', '.'] then some Part.parentDir
    else some (.normal part) with hkept
  have hmem : ∀ part ∈ kept, part ≠ .curDir ∧ part ≠ .rootDir := by
    intro part hpart
    obtain ⟨one, -, hone⟩ := mem_filterMap.mp hpart
    split_ifs at hone <;> cases hone <;> simp
  have hself : kept.filter (fun part => decide (part ≠ .curDir)) = kept :=
    filter_eq_self.mpr fun part hpart => by simp [(hmem part hpart).1]
  have hjoin : join path (ofRelative text) = path ++ kept := by
    unfold join ofRelative
    simp only [← hkept]
    split_ifs with hdot hroot hroot
    · cases hroot
    · rw [filter_cons_of_neg (by simp), hself]
    · exact absurd rfl (hmem _ (mem_of_mem_head? hroot)).2
    · rw [hself]
  rw [hjoin, resolve, foldl_append, hkept, foldl_filterMap]
  refine foldl_ext _ _ _ fun resolved part _ => ?_
  unfold followPart
  split_ifs <;> rfl

/-! ### Directories apart -/

/-- Neither is the other or inside it. -/
def Apart (path other : Path) : Prop := ¬ path <+: other ∧ ¬ other <+: path

lemma Apart.symm {path other : Path} (h : Apart path other) : Apart other path := ⟨h.2, h.1⟩

lemma absolute_prefix_iff : absolute names <+: absolute other ↔ names <+: other := by
  rw [absolute, absolute, cons_prefix_cons]
  simp only [true_and]
  exact prefix_map_iff_of_injective fun a b h => Part.normal.inj h

lemma absolute_inj : absolute names = absolute other ↔ names = other := by
  rw [absolute, absolute, cons_inj_right]
  exact (map_injective_iff.mpr fun a b h => Part.normal.inj h).eq_iff

lemma climb_apart_iff (n : ℕ) :
    Apart (absolute (climb names n more)) (absolute (climb names n other)) ↔
      ¬ more <+: other ∧ ¬ other <+: more := by
  simp only [Apart, absolute_prefix_iff, climb, prefix_append_right_inj]

/-- What climbing `m` times leaves behind of the names that climbing `n` times keeps. -/
def passed (names : List (List Char)) (n m : ℕ) : List (List Char) :=
  (names.take (names.length - n)).drop (names.length - m)

/-- A path that climbs less is one that climbs further and comes back by what it passed. -/
lemma climb_of_le {n m : ℕ} (h : n ≤ m) :
    climb names n more = climb names m (passed names n m ++ more) := by
  have hless : min (names.length - m) (names.length - n) = names.length - m := by omega
  rw [climb, climb, passed, ← append_assoc, ← hless, ← take_take, hless, take_append_drop]

end GwzCore.HostPath
