import Mathlib

/-!
# Texts as lines

A text over any alphabet is cut into lines at a separator. An empty line is a boundary, and what
follows the last one is the last paragraph of the text. White space is Unicode's.
-/
namespace GwzCore.Lines
open List

/-- A character of the `White_Space` property. -/
def isWhitespace (c : Char) : Bool :=
  (decide (0x09 ≤ c.val) && decide (c.val ≤ 0x0d)) || decide (c.val = 0x20) ||
    decide (c.val = 0x85) || decide (c.val = 0xa0) || decide (c.val = 0x1680) ||
    (decide (0x2000 ≤ c.val) && decide (c.val ≤ 0x200a)) || decide (c.val = 0x2028) ||
    decide (c.val = 0x2029) || decide (c.val = 0x202f) || decide (c.val = 0x205f) ||
    decide (c.val = 0x3000)

variable {α : Type*} [DecidableEq α] {sep : α} {text line x y : List α} {lines : List (List α)}

lemma not_mem_of_mem_splitOn (hline : line ∈ text.splitOn sep) : sep ∉ line := by
  induction text generalizing line with
  | nil =>
    rw [splitOn_nil, mem_singleton] at hline
    simp [hline]
  | cons c rest ih =>
    rw [splitOn_cons_eq_if_modifyHead] at hline
    split_ifs at hline with hc
    · rcases mem_cons.mp hline with rfl | hrest
      · simp
      · exact ih hrest
    · cases hsplit : rest.splitOn sep with
      | nil => exact absurd hsplit (splitOn_ne_nil _ _)
      | cons =>
        rw [hsplit, modifyHead_cons] at hline
        rw [hsplit] at ih
        rcases mem_cons.mp hline with rfl | hothers
        · simp only [mem_cons, not_or]
          exact ⟨fun heq => hc (by simp [← heq]), ih mem_cons_self⟩
        · exact ih (mem_cons_of_mem _ hothers)

lemma splitOn_append_cons (x y : List α) :
    (x ++ sep :: y).splitOn sep = x.splitOn sep ++ y.splitOn sep :=
  splitOnP_append_cons x y (beq_self_eq_true sep)

/-- What follows the last two separators in a row. -/
def afterBoundary (sep : α) : List α → Option (List α)
  | [] => none
  | first :: rest =>
    (afterBoundary sep rest).or
      (if first = sep ∧ rest.head? = some sep then some rest.tail else none)

lemma eq_append_of_afterBoundary (h : afterBoundary sep text = some y) :
    ∃ x, text = x ++ sep :: sep :: y := by
  induction text with
  | nil => cases h
  | cons first rest ih =>
    rcases Option.or_eq_some_iff.mp h with hrest | ⟨-, hhere⟩
    · obtain ⟨x, rfl⟩ := ih hrest
      exact ⟨first :: x, rfl⟩
    · split_ifs at hhere with hboundary
      obtain ⟨rfl, hhead⟩ := hboundary
      cases rest with
      | nil => cases hhead
      | cons second rest =>
        cases hhead
        cases hhere
        exact ⟨[], rfl⟩

/-- The last paragraph is what follows a boundary that no other follows. -/
lemma afterBoundary_append (hy : afterBoundary sep y = none) (hhead : y.head? ≠ some sep) :
    afterBoundary sep (x ++ sep :: sep :: y) = some y := by
  induction x with
  | nil => simp [afterBoundary, hy, hhead]
  | cons first rest ih => simp [afterBoundary, ih]

lemma afterBoundary_line (hline : sep ∉ line) :
    afterBoundary sep (line ++ y) = afterBoundary sep y := by
  induction line with
  | nil => rfl
  | cons c rest ih =>
    obtain ⟨hc, hrest⟩ := not_or.mp (mem_cons.not.mp hline)
    simp [afterBoundary, ih hrest, Ne.symm hc]

/-- Lines none of which is empty have no boundary between them, nor one after the last. -/
lemma afterBoundary_intercalate (hlines : ∀ line ∈ lines, line ≠ [] ∧ sep ∉ line)
    (hy : y = [] ∨ y = [sep]) : afterBoundary sep ([sep].intercalate lines ++ y) = none := by
  have hfinal : afterBoundary sep y = none := by
    rcases hy with rfl | rfl <;> simp [afterBoundary]
  induction lines with
  | nil => simpa using hfinal
  | cons line rest ih =>
    obtain ⟨hline, hrest⟩ := forall_mem_cons.mp hlines
    cases rest with
    | nil => rw [intercalate_singleton, afterBoundary_line hline.2, hfinal]
    | cons next rest =>
      obtain ⟨c, next, rfl⟩ := exists_cons_of_ne_nil (hrest _ mem_cons_self).1
      have hc : c ≠ sep := fun hc => (hrest _ mem_cons_self).2 (hc ▸ mem_cons_self)
      rw [intercalate_cons_cons, append_assoc, append_assoc, afterBoundary_line hline.2]
      cases rest <;> simp_all [afterBoundary, intercalate_cons_cons]

/-- Nothing is cut off the last of the lines. -/
lemma intercalate_ne_concat (hlines : ∀ line ∈ lines, line ≠ [] ∧ sep ∉ line) :
    [sep].intercalate lines ≠ x ++ [sep] := by
  intro heq
  cases lines with
  | nil => simp at heq
  | cons line rest =>
    have hsplit := splitOn_intercalate sep (fun line hline => (hlines line hline).2)
      (cons_ne_nil line rest)
    rw [heq, splitOn_append_cons, splitOn_nil] at hsplit
    exact (hlines [] (hsplit ▸ by simp)).1 rfl

end GwzCore.Lines
