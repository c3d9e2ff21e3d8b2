import GwzCore.Lib.Lines

/-!
# Root-relative member paths

The location of one clone relative to the root, as the index records it. A path is
decided from its string alone: it is normalised, it climbs out of the root by a
leading run of `..` and then names at least one directory. Two paths are compared
component by component.
-/
namespace GwzCore.FamilyModel
open Lines List

/-- A control character: the C0 and C1 ranges and delete. -/
def isControl (c : Char) : Bool :=
  decide (c.val < 0x20) || (decide (0x7f ≤ c.val) && decide (c.val ≤ 0x9f))

/-- One component of a path, as its characters. -/
abbrev Component := List Char

/-- The component that climbs. -/
def up : Component := ['.', '.']

/-- The components of a path, in order. -/
def components (path : String) : List Component := path.toList.splitOn '/'

/-- The path with these components. -/
def joined (parts : List Component) : String := String.ofList (['/'].intercalate parts)

/-- A component that names a directory. -/
structure Ordinary (part : Component) : Prop where
  nonempty : part ≠ []
  notHere : part ≠ ['.']
  notUp : part ≠ up
  noSeparator : '/' ∉ part

instance (part : Component) : Decidable (Ordinary part) :=
  decidable_of_iff (part ≠ [] ∧ part ≠ ['.'] ∧ part ≠ up ∧ '/' ∉ part)
    ⟨fun ⟨hnonempty, hhere, hup, hslash⟩ => ⟨hnonempty, hhere, hup, hslash⟩,
      fun h => ⟨h.nonempty, h.notHere, h.notUp, h.noSeparator⟩⟩

/-- Normalised and outside the root: a leading run of `..`, at least one, and then
directory names, at least one. -/
def Escapes (parts : List Component) : Prop :=
  ∃ ups names, parts = List.replicate (ups + 1) up ++ names ∧ names ≠ [] ∧
    ∀ part ∈ names, Ordinary part

/-- A normalised, root-relative, root-escaping member path. -/
structure MemberPath where
  asStr : String
  escapes : Escapes (components asStr)
  deriving DecidableEq

/-- Why a recorded path is not a usable member path. -/
inductive PathError where
  | empty
  | absolute (path : String)
  | controlCharacter (path : String)
  | rootItself (path : String)
  | insideRoot (path normalised : String)
  | containsRoot (path normalised : String)
  | notNormalised (path normalised : String)
  deriving DecidableEq

/-- The message of a path error. -/
def PathError.display : PathError → String
  | .empty => "a member path must not be empty"
  | .absolute path => "member path `" ++ path ++ "` must be root-relative, not absolute"
  | .controlCharacter path => "member path `" ++ path ++ "` contains a control character"
  | .rootItself path => "member path `" ++ path ++ "` is the root itself"
  | .insideRoot path normalised =>
    "member path `" ++ path ++ "` (`" ++ normalised ++ "`) is inside the root"
  | .containsRoot path normalised =>
    "member path `" ++ path ++ "` (`" ++ normalised ++ "`) contains the root"
  | .notNormalised path normalised =>
    "member path `" ++ path ++ "` is not normalised (`" ++ normalised ++ "`)"

/-- How two member paths sit relative to each other. -/
inductive PathRelation where
  | same
  | inside
  | contains
  | disjoint
  deriving DecidableEq

/-- Relates two paths by their components. -/
def relateComponents : List Component → List Component → PathRelation
  | [], [] => .same
  | _ :: _, [] => .inside
  | [], _ :: _ => .contains
  | one :: left, other :: right =>
    if one = other then relateComponents left right else .disjoint

attribute [local simp] relateComponents

def relate (a b : MemberPath) : PathRelation :=
  relateComponents (components a.asStr) (components b.asStr)

/-! ### Normalisation -/

/-- The components kept so far and how many of them are the leading `..`. -/
structure Collapsed where
  parts : List Component
  leadingUp : ℕ

/-- One component of the split: `.` and empty components go, and `..` takes the last
directory name with it, or climbs if there is none. -/
def Collapsed.add (acc : Collapsed) (part : Component) : Collapsed :=
  if part = [] ∨ part = ['.'] then acc
  else if part = up then
    if acc.leadingUp < acc.parts.length then { acc with parts := acc.parts.dropLast }
    else ⟨acc.parts ++ [up], acc.leadingUp + 1⟩
  else { acc with parts := acc.parts ++ [part] }

def collapse (parts : List Component) : Collapsed := parts.foldl Collapsed.add ⟨[], 0⟩

/-- What the loop of the components keeps. -/
def Collapsed.Kept (acc : Collapsed) : Prop :=
  ∃ names, acc.parts = List.replicate acc.leadingUp up ++ names ∧ ∀ part ∈ names, Ordinary part

variable {acc : Collapsed}

lemma Collapsed.Kept.add (h : acc.Kept) {part : Component}
    (hpart : '/' ∉ part) : (acc.add part).Kept := by
  obtain ⟨names, hparts, hnames⟩ := h
  unfold Collapsed.add
  split_ifs with hskip hup hlonger
  · exact ⟨names, hparts, hnames⟩
  · -- a name is there to take back, so the run of `..` is untouched
    have hne : names ≠ [] := by
      rintro rfl
      simp [hparts] at hlonger
    refine ⟨names.dropLast, ?_, fun other hother => hnames other (mem_of_mem_dropLast hother)⟩
    rw [hparts, dropLast_append_of_ne_nil hne]
  · have hnone : names = [] := by
      rw [hparts, length_append, length_replicate] at hlonger
      exact length_eq_zero_iff.mp (by omega)
    refine ⟨[], ?_, by simp⟩
    rw [hparts, hnone, append_nil, append_nil, replicate_succ']
  · refine ⟨names ++ [part], by rw [hparts, append_assoc], ?_⟩
    intro other hother
    rcases mem_append.mp hother with hold | hnew
    · exact hnames other hold
    · rw [mem_singleton.mp hnew]
      push Not at hskip
      exact ⟨hskip.1, hskip.2, hup, hpart⟩

lemma collapse_kept {parts : List Component} (hparts : ∀ part ∈ parts, '/' ∉ part) :
    (collapse parts).Kept := by
  have hloop : ∀ acc : Collapsed, acc.Kept → (parts.foldl Collapsed.add acc).Kept := by
    induction parts with
    | nil => exact fun acc hacc => hacc
    | cons part rest ih =>
      intro acc hacc
      refine ih (fun other hother => hparts other (by simp [hother])) (acc.add part) ?_
      exact hacc.add (hparts part (by simp))
  exact hloop ⟨[], 0⟩ ⟨[], rfl, by simp⟩

lemma Collapsed.Kept.components_joined (h : acc.Kept) (hne : acc.parts ≠ []) :
    components (joined acc.parts) = acc.parts := by
  obtain ⟨names, hparts, hnames⟩ := h
  have hup : '/' ∉ up := by decide
  rw [components, joined, String.toList_ofList]
  refine splitOn_intercalate _ (fun part hpart => ?_) hne
  rw [hparts] at hpart
  rcases mem_append.mp hpart with hclimb | hname
  · rw [eq_of_mem_replicate hclimb]
    exact hup
  · exact (hnames part hname).noSeparator

/-- What is left of a collapsed path that climbs and then names a directory. -/
lemma escapes_of_collapse {text : List Char}
    (hacc : collapse (text.splitOn '/') = acc) (hup : acc.leadingUp ≠ 0)
    (hlength : acc.parts.length ≠ acc.leadingUp) : Escapes (components (joined acc.parts)) := by
  have hkept : acc.Kept := hacc ▸ collapse_kept fun part hpart => not_mem_of_mem_splitOn hpart
  obtain ⟨names, hparts, hnames⟩ := id hkept
  have hne : names ≠ [] := by
    rintro rfl
    simp [hparts] at hlength
  refine ⟨acc.leadingUp - 1, names, ?_, hne, hnames⟩
  rw [hkept.components_joined (by simp [hparts, hne]), Nat.sub_add_cancel (Nat.pos_of_ne_zero hup),
    hparts]

/-- A drive-qualified path. -/
def hasDrivePrefix : List Char → Bool
  | first :: second :: _ => first.isAlpha && decide (second = ':')
  | _ => false

/-- Normalises any spelling of a root-relative member path. -/
def normalize (path : String) : Except PathError MemberPath :=
  if path = "" then .error .empty
  else if path.toList.any isControl then .error (.controlCharacter path)
  else
    let unified := path.toList.map fun c => if c = '\\' then '/' else c
    if unified.head? = some '/' ∨ hasDrivePrefix unified then .error (.absolute path)
    else
      match hacc : collapse (unified.splitOn '/') with
      | acc =>
        if acc.parts = [] then .error (.rootItself path)
        else if hup : acc.leadingUp = 0 then .error (.insideRoot path (joined acc.parts))
        else if hlength : acc.parts.length = acc.leadingUp then
          .error (.containsRoot path (joined acc.parts))
        else .ok ⟨joined acc.parts, escapes_of_collapse hacc hup hlength⟩

/-- `normalize`, and the path is spelled the way the index records it. -/
def validate (path : String) : Except PathError MemberPath :=
  match normalize path with
  | .error error => .error error
  | .ok member =>
    if member.asStr ≠ path then .error (.notNormalised path member.asStr) else .ok member

lemma validate_asStr {path : String} {member : MemberPath} (h : validate path = .ok member) :
    member.asStr = path := by
  unfold validate at h
  split at h
  · cases h
  · split at h
    · cases h
    · cases h
      rename_i hne
      exact not_not.mp hne

example : (validate "../ws-A").isOk = true := by decide
example : (normalize "../other/../ws-A").map MemberPath.asStr = .ok "../ws-A" := by decide

/-! ### Relations -/

lemma relateComponents_eq_disjoint (left right : List Component) :
    relateComponents left right = .disjoint ↔ ¬ left <+: right ∧ ¬ right <+: left := by
  induction left generalizing right with
  | nil => cases right <;> simp
  | cons one left ih =>
    cases right with
    | nil => simp
    | cons other =>
      simp only [relateComponents, cons_prefix_cons]
      by_cases heq : one = other
      · simp [heq, ih]
      · simp [heq, Ne.symm heq]

lemma relateComponents_eq_same (left right : List Component) :
    relateComponents left right = .same ↔ left = right := by
  induction left generalizing right with
  | nil => cases right <;> simp
  | cons one left ih =>
    cases right with
    | nil => simp
    | cons other =>
      by_cases heq : one = other <;> simp [heq, ih]

lemma components_injective : Function.Injective components := by
  intro path other h
  have hjoin := congrArg (fun parts => ['/'].intercalate parts) h
  simp only [components, intercalate_splitOn] at hjoin
  exact String.toList_inj.mp hjoin

/-- Neither path is the other or inside it. -/
lemma relate_eq_disjoint (a b : MemberPath) : relate a b = .disjoint ↔
    ¬ components a.asStr <+: components b.asStr ∧ ¬ components b.asStr <+: components a.asStr :=
  relateComponents_eq_disjoint _ _

lemma relate_eq_same (a b : MemberPath) : relate a b = .same ↔ a.asStr = b.asStr :=
  (relateComponents_eq_same _ _).trans components_injective.eq_iff

end GwzCore.FamilyModel
