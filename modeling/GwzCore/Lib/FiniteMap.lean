import Mathlib

/-!
# Finite maps and their totals

Ordered maps are extensional tree maps. A total adds one weight for each entry
in any additive commutative monoid: natural numbers count entries, multisets
collect what entries carry. Replacing or erasing one entry moves a total by
exactly that entry's weight, so counters kept beside a map are compared with
the map one entry at a time.
-/
namespace GwzCore
open List

abbrev FiniteMap (κ α : Type*) [Ord κ] [Std.TransOrd κ] := Std.ExtTreeMap κ α

namespace FiniteMap

variable {κ α M : Type*} [Ord κ] [Std.TransOrd κ] [Std.LawfulEqOrd κ] [AddCommMonoid M]
  {m : FiniteMap κ α} {k : κ} {w : κ → α → ℕ}

lemma mem_toList {p : κ × α} : p ∈ m.toList ↔ m[p.1]? = some p.2 := by
  obtain ⟨k, v⟩ := p
  exact Std.ExtTreeMap.mem_toList_iff_getElem?_eq_some

lemma toList_nodup (m : FiniteMap κ α) : m.toList.Nodup := by
  refine m.ordered_keys_toList.imp ?_
  intro p q hlt hpq
  subst hpq
  simp at hlt

/-- Keys are listed in order, so maps with the same keys list them alike. -/
lemma keys_eq_of_mem_iff {m n : FiniteMap κ α} (h : ∀ k, k ∈ m ↔ k ∈ n) : m.keys = n.keys := by
  have hperm : m.keys.Perm n.keys := by
    refine (perm_ext_iff_of_nodup m.nodup_keys n.nodup_keys).mpr ?_
    intro k
    rw [Std.ExtTreeMap.mem_keys, Std.ExtTreeMap.mem_keys, h k]
  refine hperm.eq_of_pairwise ?_ m.ordered_keys n.ordered_keys
  intro a b _ _ hab hba
  have heq := Std.OrientedCmp.gt_of_lt hab
  rw [hba] at heq
  cases heq

lemma get_erase_self (m : FiniteMap κ α) (k : κ) : (m.erase k)[k]? = none := by simp

lemma get_erase_of_ne (m : FiniteMap κ α) {k j : κ} (h : k ≠ j) : (m.erase k)[j]? = m[j]? := by
  simp [Std.ExtTreeMap.getElem?_erase, h]

lemma get_insert_self (m : FiniteMap κ α) (k : κ) (v : α) : (m.insert k v)[k]? = some v := by simp

lemma get_insert_of_ne (m : FiniteMap κ α) {k j : κ} (v : α) (h : k ≠ j) :
    (m.insert k v)[j]? = m[j]? := by
  simp [Std.ExtTreeMap.getElem?_insert, h]

lemma get_insert_eq_some {k j : κ} {v u : α} :
    (m.insert k v)[j]? = some u ↔ (k = j ∧ u = v) ∨ (k ≠ j ∧ m[j]? = some u) := by
  by_cases h : k = j
  · subst h
    simp [eq_comm]
  · simp [get_insert_of_ne m v h, h]

lemma get_erase_eq_some {k j : κ} {u : α} : (m.erase k)[j]? = some u ↔ k ≠ j ∧ m[j]? = some u := by
  by_cases h : k = j
  · subst h
    simp
  · simp [get_erase_of_ne m h, h]

/-- An entry may be listed first: the rest is the map without its key. -/
lemma toList_perm_cons_erase {v : α} (h : m[k]? = some v) :
    m.toList.Perm ((k, v) :: (m.erase k).toList) := by
  have hnot : (k, v) ∉ (m.erase k).toList := by
    rw [mem_toList]
    simp
  refine (perm_ext_iff_of_nodup (toList_nodup m) (nodup_cons.mpr
    ⟨hnot, toList_nodup (m.erase k)⟩)).mpr ?_
  rintro ⟨j, w⟩
  rw [mem_toList, mem_cons, mem_toList]
  by_cases hkj : k = j
  · subst hkj
    simp [h, eq_comm]
  · rw [get_erase_of_ne m hkj]
    simp [Ne.symm hkj]

lemma erase_insert_self (m : FiniteMap κ α) (k : κ) (v : α) :
    (m.insert k v).erase k = m.erase k := by
  apply Std.ExtTreeMap.ext_getElem?
  intro j
  by_cases hkj : k = j <;> simp [Std.ExtTreeMap.getElem?_erase, Std.ExtTreeMap.getElem?_insert, hkj]

lemma erase_of_get_none (h : m[k]? = none) : m.erase k = m := by
  apply Std.ExtTreeMap.ext_getElem?
  intro j
  by_cases hkj : k = j
  · subst hkj
    simp [h]
  · exact get_erase_of_ne m hkj

/-- The sum of one weight for each entry. -/
def total (w : κ → α → M) (m : FiniteMap κ α) : M := (m.toList.map fun p => w p.1 p.2).sum

lemma total_of_get {v : α} (w : κ → α → M) (h : m[k]? = some v) :
    total w m = w k v + total w (m.erase k) := by
  unfold total
  rw [((toList_perm_cons_erase h).map _).sum_eq]
  simp

/-- Writing one key replaces its old weight, which is zero if the key was free. -/
lemma total_insert (w : κ → α → M) (m : FiniteMap κ α) (k : κ) (v : α) :
    total w (m.insert k v) = w k v + total w (m.erase k) := by
  have h : (m.insert k v)[k]? = some v := by simp
  rw [total_of_get w h, erase_insert_self]

lemma total_insert_of_get_none (w : κ → α → M) (v : α)
    (h : m[k]? = none) : total w (m.insert k v) = w k v + total w m := by
  rw [total_insert, erase_of_get_none h]

/-- A write that keeps the entry's weight keeps the total. -/
lemma total_insert_of_weight_eq {w : κ → α → M} {a v : α}
    (h : m[k]? = some a) (hw : w k v = w k a) : total w (m.insert k v) = total w m := by
  rw [total_insert, total_of_get w h, hw]

lemma total_eq_zero {w : κ → α → M} (h : ∀ k v, m[k]? = some v → w k v = 0) : total w m = 0 := by
  apply sum_eq_zero
  intro x hx
  obtain ⟨p, hp, rfl⟩ := mem_map.mp hx
  exact h p.1 p.2 (mem_toList.mp hp)

@[simp] lemma total_empty (w : κ → α → M) : total w (∅ : FiniteMap κ α) = 0 := by
  apply total_eq_zero
  intro k v h
  simp at h

/-- Only entries of the map contribute, so weights need only agree on them. -/
lemma total_congr {w w' : κ → α → M}
    (h : ∀ k v, m[k]? = some v → w k v = w' k v) : total w m = total w' m := by
  unfold total
  congr 1
  apply map_congr_left
  intro p hp
  exact h p.1 p.2 (mem_toList.mp hp)

omit [Std.LawfulEqOrd κ] in
lemma map_total {N : Type*} [AddCommMonoid N] (f : M →+ N) (w : κ → α → M)
    (m : FiniteMap κ α) : f (total w m) = total (fun k v => f (w k v)) m := by
  unfold total
  rw [map_list_sum, map_map]
  rfl

omit [Std.LawfulEqOrd κ] in
/-- A total of ones counts entries. -/
lemma total_indicator (p : κ → α → Bool) (m : FiniteMap κ α) :
    total (fun k v => if p k v then 1 else 0) m =
      m.toList.countP fun entry => p entry.1 entry.2 := by
  unfold total
  induction m.toList with
  | nil => rfl
  | cons entry rest ih =>
    rw [map_cons, sum_cons, ih, countP_cons, add_comm]

lemma le_total {v : α} (h : m[k]? = some v) : w k v ≤ total w m := by
  rw [total_of_get w h]
  exact Nat.le_add_right _ _

/-- Two different keys contribute both of their weights. -/
lemma add_le_total {k j : κ} {v u : α} (hkj : k ≠ j)
    (hk : m[k]? = some v) (hj : m[j]? = some u) : w k v + w j u ≤ total w m := by
  rw [total_of_get w hk]
  have hrest : (m.erase k)[j]? = some u := by rw [get_erase_of_ne m hkj, hj]
  exact Nat.add_le_add_left (le_total hrest) _

/-- The keys of the entries that meet `p`. -/
def keysWhere [DecidableEq κ] (p : α → Bool) (m : FiniteMap κ α) : Finset κ :=
  ((m.toList.filter fun entry => p entry.2).map Prod.fst).toFinset

lemma mem_map_filter (p : α → Bool) :
    k ∈ (m.toList.filter fun entry => p entry.2).map Prod.fst ↔
      ∃ v, m[k]? = some v ∧ p v = true := by
  simp only [mem_map, mem_filter]
  constructor
  · rintro ⟨entry, ⟨hmem, hp⟩, rfl⟩
    exact ⟨entry.2, mem_toList.mp hmem, hp⟩
  · rintro ⟨v, hget, hp⟩
    exact ⟨(k, v), ⟨mem_toList.mpr hget, hp⟩, rfl⟩

lemma mem_keysWhere [DecidableEq κ] {p : α → Bool} :
    k ∈ keysWhere p m ↔ ∃ v, m[k]? = some v ∧ p v = true := by
  rw [keysWhere, mem_toFinset, mem_map_filter]

/-- The number of entries that meet `p`. -/
def countWhere (p : α → Bool) (m : FiniteMap κ α) : ℕ := m.toList.countP fun entry => p entry.2

end FiniteMap
end GwzCore
