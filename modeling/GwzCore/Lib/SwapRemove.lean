import Mathlib

/-!
# Removal by swapping with the last

A vector whose order carries no meaning removes an entry by putting its last one
in the entry's place. What is left is a permutation of the list without the entry.
-/
namespace GwzCore
open List

variable {α : Type*} {l : List α} {p : α → Bool}

/-- The list with its entry at `i` replaced by the last one, which leaves the end. -/
def swapRemove (l : List α) (i : ℕ) : List α :=
  match l.getLast? with
  | none => []
  | some last => (l.set i last).dropLast

/-- The first entry that meets `p`, and the list after its removal. -/
def takeFirst (p : α → Bool) (l : List α) : Option α × List α :=
  match l.findIdx? p with
  | none => (none, l)
  | some i => (l[i]?, swapRemove l i)

lemma perm_cons_swapRemove {i : ℕ} (h : i < l.length) : l.Perm (l[i] :: swapRemove l i) := by
  obtain rfl | ⟨init, last, rfl⟩ := eq_nil_or_concat l
  · simp at h
  · simp only [concat_eq_append, length_append, length_singleton] at h
    by_cases hi : i < init.length
    · have hrest : swapRemove (init.concat last) i = init.set i last := by
        simp [swapRemove, set_append_left i last hi]
      rw [hrest]
      simp only [concat_eq_append, getElem_append_left hi]
      calc (init ++ [last]).Perm (last :: init) := perm_append_singleton last init
        _ |>.Perm (last :: init[i] :: init.eraseIdx i) :=
            (getElem_cons_eraseIdx_perm hi).symm.cons last
        _ |>.Perm (init[i] :: last :: init.eraseIdx i) := List.Perm.swap _ _ _
        _ |>.Perm (init[i] :: init.set i last) :=
            (set_perm_cons_eraseIdx hi last).symm.cons _
    · have hlast : i = init.length := by omega
      subst hlast
      simp [swapRemove, set_append_right]

lemma takeFirst_eq_none (h : (takeFirst p l).1 = none) :
    takeFirst p l = (none, l) ∧ ∀ x ∈ l, p x = false := by
  unfold takeFirst at h ⊢
  split
  · rename_i hidx
    refine ⟨rfl, ?_⟩
    simpa using hidx
  · rename_i i hidx
    obtain ⟨hlt, -⟩ := findIdx?_eq_some_iff_getElem.mp hidx
    simp [hidx, hlt] at h

/-- The entry taken is the first that meets `p`, and with the rest makes the list. -/
lemma takeFirst_eq_some {x : α} (h : (takeFirst p l).1 = some x) :
    l.find? p = some x ∧ l.Perm (x :: (takeFirst p l).2) := by
  unfold takeFirst at h ⊢
  split at h
  · simp at h
  · rename_i i hidx
    obtain ⟨hlt, hp, hbefore⟩ := findIdx?_eq_some_iff_getElem.mp hidx
    have hx : l[i] = x := by simpa [hlt] using h
    subst hx
    refine ⟨?_, perm_cons_swapRemove hlt⟩
    rw [find?_eq_some_iff_getElem]
    exact ⟨hp, i, hlt, rfl, fun j hj => by simpa using hbefore j hj⟩

lemma takeFirst_fst (p : α → Bool) (l : List α) : (takeFirst p l).1 = l.find? p := by
  cases htaken : (takeFirst p l).1 with
  | none =>
    have hnone := (takeFirst_eq_none htaken).2
    symm
    rw [find?_eq_none]
    intro x hx
    simp [hnone x hx]
  | some x => exact (takeFirst_eq_some htaken).1.symm

/-- An entry that does not meet `p` is not the one taken. -/
lemma mem_takeFirst {x : α} (hmem : x ∈ l) (hp : p x = false) : x ∈ (takeFirst p l).2 := by
  cases htaken : (takeFirst p l).1 with
  | none =>
    rw [(takeFirst_eq_none htaken).1]
    exact hmem
  | some y =>
    obtain ⟨hfind, hperm⟩ := takeFirst_eq_some htaken
    obtain rfl | hrest := mem_cons.mp (hperm.mem_iff.mp hmem)
    · have := find?_some hfind
      simp [hp] at this
    · exact hrest

end GwzCore
