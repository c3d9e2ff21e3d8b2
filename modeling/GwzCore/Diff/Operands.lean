import GwzCore.Lib.Checks
import GwzCore.Merge.Record

/-!
# Bare operands of a diff

An operand before `--` is a revision or a pathspec, and which of the two is decided from left
to right: the syntax of ranges and of snapshots is a revision at once, and for anything else
the repositories and the file system are asked. Ranges are read off the text alone. A path
that holds two dots is therefore a revision, and the paths of the parent directory are among
these.
-/
namespace GwzCore.Diff
open List Merge

variable {operand command : String} {operands : List String} {zone : Bool}

/-! ### Range syntax -/

/-- The text before the first `separator` and the text after it. -/
def splitOnce (separator : List Char) : List Char → Option (List Char × List Char)
  | [] => none
  | first :: rest =>
    if separator.isPrefixOf (first :: rest) then some ([], (first :: rest).drop separator.length)
    else (splitOnce separator rest).map fun (left, right) => (first :: left, right)

/-- The ends of `A..B` or `A...B`, and whether there are three dots. Three are looked for
first, and a stray fourth dot is no range. -/
def splitRange (token : String) : Option (String × String × Bool) :=
  let three := (splitOnce ['.', '.', '.'] token.toList).filter fun (_, right) =>
    right.head? ≠ some '.'
  let two := (splitOnce ['.', '.'] token.toList).filter fun (left, right) =>
    right.head? ≠ some '.' ∧ left.getLast? ≠ some '.'
  (three.map fun (left, right) => (String.ofList left, String.ofList right, true)).or
    (two.map fun (left, right) => (String.ofList left, String.ofList right, false))

def isNeverPathOperand (token : String) : Bool :=
  token.toList.head? = some '+' || (splitRange token).isSome

/-! ### Classification -/

/-- The workspace and the candidate repositories as the operands ask them. -/
structure RevContext where
  /-- The operand, from the caller's directory, stays in the physical workspace root. -/
  contained : String → Bool
  /-- Its normalised path names an existing entry. -/
  present : String → Bool
  /-- It is a revision in some candidate repository. -/
  resolve : String → ModelResult Bool

structure ClassifiedOperands where
  revisions : List String
  pathspecs : List String
  deriving DecidableEq

variable {ctx : RevContext} {out next : ClassifiedOperands}

/-- What leaves the workspace is no path. -/
def operandIsExistingPath (operand : String) (ctx : RevContext) : Bool :=
  ctx.contained operand && ctx.present operand

def ambiguousArgument (detail operand command : String) : ModelError :=
  ⟨.invalidRequest, s!"ambiguous argument '{operand}': {detail}. Use '--' to separate paths from revisions, like this:\n'{command} [<revision>...] -- [<file>...]'"⟩

def ambiguous : String → String → ModelError :=
  ambiguousArgument "both a revision and a path exist"

def ambiguousAfterPath : String → String → ModelError :=
  ambiguousArgument "a revision cannot follow a path operand"

def unknownRevOrPath : String → String → ModelError :=
  ambiguousArgument "unknown revision or path not in the working tree"

/-- One operand; the flag says that a pathspec came before. -/
def classifyOperand (ctx : RevContext) (command : String) :
    ClassifiedOperands × Bool → String → ModelResult (ClassifiedOperands × Bool)
  | (out, zone), operand =>
    let revision := ({ out with revisions := out.revisions ++ [operand] }, false)
    let pathspec := ({ out with pathspecs := out.pathspecs ++ [operand] }, true)
    if isNeverPathOperand operand then
      if zone then .error (ambiguousAfterPath operand command) else .ok revision
    else
      let isPath := operandIsExistingPath operand ctx
      if zone then
        if isPath then .ok pathspec
        else do
          let isRev ← ctx.resolve operand
          if isRev then .error (ambiguousAfterPath operand command) else .ok pathspec
      else do
        let isRev ← ctx.resolve operand
        match isRev, isPath with
        | true, false => .ok revision
        | false, true => .ok pathspec
        | true, true => .error (ambiguous operand command)
        | false, false => .error (unknownRevOrPath operand command)

def classifyOperandsForCommand (operands : List String) (ctx : RevContext) (command : String) :
    ModelResult ClassifiedOperands := do
  let (out, _) ← operands.foldlM (classifyOperand ctx command) (⟨[], []⟩, false)
  return out

def classifyOperands (operands : List String) (ctx : RevContext) : ModelResult ClassifiedOperands :=
  classifyOperandsForCommand operands ctx "gwz diff"

/-! ### The split -/

/-- An operand is a revision by its syntax, or because a repository knows it. -/
def IsRevision (ctx : RevContext) (operand : String) : Prop :=
  isNeverPathOperand operand = true ∨ ctx.resolve operand = .ok true

/-- The step lemma: an operand joins the revisions, while no pathspec has come, or the
pathspecs. -/
lemma classifyOperand_cases {zone' : Bool}
    (h : classifyOperand ctx command (out, zone) operand = .ok (next, zone')) :
    (zone = false ∧ zone' = false ∧ next = { out with revisions := out.revisions ++ [operand] } ∧
      IsRevision ctx operand) ∨
    (zone' = true ∧ next = { out with pathspecs := out.pathspecs ++ [operand] }) := by
  simp only [classifyOperand] at h
  split_ifs at h with hnever hzone hzone
  · cases h
    exact .inl ⟨by simpa using hzone, rfl, rfl, .inl hnever⟩
  · cases h
    exact .inr ⟨rfl, rfl⟩
  · obtain ⟨isRev, -, h⟩ := Checks.bind_eq_ok.mp h
    split_ifs at h
    cases h
    exact .inr ⟨rfl, rfl⟩
  · obtain ⟨isRev, hrev, h⟩ := Checks.bind_eq_ok.mp h
    cases isRev <;> cases hpath : operandIsExistingPath operand ctx <;> rw [hpath] at h <;> cases h
    · exact .inr ⟨rfl, rfl⟩
    · exact .inl ⟨by simpa using hzone, rfl, rfl, .inr hrev⟩

/-- The run lemma: the operands are cut in two, and not at all once a pathspec has come. -/
lemma foldlM_classify {zone' : Bool}
    (h : operands.foldlM (classifyOperand ctx command) (out, zone) = .ok (next, zone')) :
    ∃ revisions pathspecs, operands = revisions ++ pathspecs ∧
      next = ⟨out.revisions ++ revisions, out.pathspecs ++ pathspecs⟩ ∧
      (zone = true → revisions = []) ∧ (zone' = true ↔ zone = true ∨ pathspecs ≠ []) ∧
      ∀ operand ∈ revisions, IsRevision ctx operand := by
  induction operands generalizing out zone with
  | nil =>
    cases h
    exact ⟨[], [], rfl, by simp, fun _ => rfl, by simp, by simp⟩
  | cons operand rest ih =>
    rw [foldlM_cons, Checks.bind_eq_ok] at h
    obtain ⟨⟨mid, _⟩, hstep, hrest⟩ := h
    obtain ⟨revisions, pathspecs, rfl, rfl, hnone, hzone, hrevisions⟩ := ih hrest
    rcases classifyOperand_cases hstep with ⟨rfl, rfl, rfl, hrevision⟩ | ⟨rfl, rfl⟩
    · refine ⟨operand :: revisions, pathspecs, rfl, by simp, by simp, hzone, ?_⟩
      intro other hother
      rcases mem_cons.mp hother with rfl | hother
      · exact hrevision
      · exact hrevisions other hother
    · obtain rfl := hnone rfl
      exact ⟨[], operand :: pathspecs, rfl, by simp, fun _ => rfl, by simp [hzone], by simp⟩

namespace Sample

/-- A workspace where everything exists and only `main` is a revision. -/
def context : RevContext :=
  ⟨fun _ => true, fun text => text != "main", fun text => .ok (text == "main")⟩

end Sample

end GwzCore.Diff
