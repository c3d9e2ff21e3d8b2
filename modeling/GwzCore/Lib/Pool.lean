import Mathlib

/-!
# Pools of threads

A pool is a list of threads that advance one at a time. A weight in an additive
commutative monoid gives the pool a total: natural numbers count, multisets
collect. Advancing one thread replaces its weight by that of what it became, and
new threads add their own.
-/
namespace GwzCore.Pool
open List

variable {α M : Type*} [AddCommMonoid M] {pool : List α} {index : ℕ} {old : α}

/-- The sum of the threads' weights. -/
def total (w : α → M) (pool : List α) : M := (pool.map w).sum

@[simp] lemma total_nil (w : α → M) : total w [] = 0 := rfl

lemma total_append (w : α → M) (pool started : List α) :
    total w (pool ++ started) = total w pool + total w started := by
  simp [total]

lemma total_eq_zero {w : α → M} (h : ∀ thread ∈ pool, w thread = 0) : total w pool = 0 := by
  apply sum_eq_zero
  intro x hx
  obtain ⟨thread, hthread, rfl⟩ := mem_map.mp hx
  exact h thread hthread

/-- Apart from one thread, the pool has a weight that its advance does not touch. -/
lemma exists_rest (w : α → M) (h : pool[index]? = some old) :
    ∃ rest, total w pool = w old + rest ∧
      ∀ new started, total w ((pool ++ started).set index new) =
        w new + rest + total w started := by
  obtain ⟨hlt, hget⟩ := List.getElem?_eq_some_iff.mp h
  refine ⟨total w (pool.take index) + total w (pool.drop (index + 1)), ?_, ?_⟩
  · have hsplit : pool = pool.take index ++ old :: pool.drop (index + 1) := by
      rw [← hget, cons_getElem_drop_succ, take_append_drop]
    conv_lhs => rw [hsplit]
    simp only [total, map_append, map_cons, sum_append, sum_cons]
    exact add_left_comm _ _ _
  · intro new started
    rw [set_append_left _ _ hlt, total_append, set_eq_take_append_cons_drop, if_pos hlt]
    simp only [total, map_append, map_cons, sum_append, sum_cons]
    rw [add_left_comm]

lemma le_total {w : α → ℕ} {thread : α} (h : thread ∈ pool) : w thread ≤ total w pool :=
  single_le_sum (by simp) _ (mem_map_of_mem h)

lemma exists_of_mem_total {β : Type*} {w : α → Multiset β} {b : β} (h : b ∈ total w pool) :
    ∃ thread ∈ pool, b ∈ w thread := by
  induction pool with
  | nil => simp at h
  | cons thread rest ih =>
    rw [total, map_cons, sum_cons, Multiset.mem_add] at h
    rcases h with hhere | hrest
    · exact ⟨thread, mem_cons_self, hhere⟩
    · obtain ⟨found, hfound, hb⟩ := ih hrest
      exact ⟨found, mem_cons_of_mem _ hfound, hb⟩

end GwzCore.Pool
