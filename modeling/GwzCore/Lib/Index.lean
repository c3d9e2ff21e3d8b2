import GwzCore.Lib.FiniteMap

/-!
# Secondary indexes of a finite map

A map from some of its entries' keys to the entries: `index` finds, for a key,
the one entry that has it. Each change of an entry is paired with the change of
the index that keeps it exact.
-/
namespace GwzCore.FiniteMap

variable {κ ι α : Type*} [Ord κ] [Std.TransOrd κ] [Ord ι] [Std.TransOrd ι]
  {index : FiniteMap κ ι} {entries : FiniteMap ι α} {key : α → Option κ} {id : ι}
  {old new : α} {k : κ}

/-- The index finds exactly the entries that have a key, each by its own. -/
def Indexes (index : FiniteMap κ ι) (entries : FiniteMap ι α) (key : α → Option κ) : Prop :=
  ∀ k id, index[k]? = some id ↔ ∃ entry, entries[id]? = some entry ∧ key entry = some k

lemma exists_get_insert [Std.LawfulEqOrd ι] {P : α → Prop} {id' : ι} :
    (∃ entry, (entries.insert id new)[id']? = some entry ∧ P entry) ↔
      id = id' ∧ P new ∨ id ≠ id' ∧ ∃ entry, entries[id']? = some entry ∧ P entry := by
  by_cases hid : id = id'
  · subst hid
    simp
  · simp [get_insert_of_ne _ _ hid, hid]

lemma exists_get_erase [Std.LawfulEqOrd ι] {P : α → Prop} {id' : ι} :
    (∃ entry, (entries.erase id)[id']? = some entry ∧ P entry) ↔
      id ≠ id' ∧ ∃ entry, entries[id']? = some entry ∧ P entry := by
  simp [get_erase_eq_some, and_assoc]

namespace Indexes

lemma empty : Indexes (∅ : FiniteMap κ ι) (∅ : FiniteMap ι α) key := by
  intro k id
  simp

/-- Two entries with one key are one entry. -/
lemma unique (h : Indexes index entries key) {id' : ι} {entry entry' : α}
    (hentry : entries[id]? = some entry) (hkey : key entry = some k)
    (hentry' : entries[id']? = some entry') (hkey' : key entry' = some k) : id = id' := by
  have hfirst := (h k id).mpr ⟨entry, hentry, hkey⟩
  have hsecond := (h k id').mpr ⟨entry', hentry', hkey'⟩
  rw [hfirst] at hsecond
  exact Option.some.inj hsecond

variable [Std.LawfulEqOrd ι]

section

variable (h : Indexes index entries key)
include h

/-- An entry is written with the key that stood there. -/
lemma write (hkey : ∀ k, key new = some k ↔ ∃ old, entries[id]? = some old ∧ key old = some k) :
    Indexes index (entries.insert id new) key := by
  intro k' id'
  rw [h k' id', exists_get_insert]
  by_cases hid : id = id'
  · subst hid
    simp [hkey]
  · simp [hid]

/-- An entry that is written with the key it had. -/
lemma update (hold : entries[id]? = some old)
    (hkey : key new = key old) : Indexes index (entries.insert id new) key :=
  h.write (by simp [hold, hkey])

/-- An entry without a key is written where none had one. -/
lemma insert_none (hold : ∀ old, entries[id]? = some old → key old = none) (hkey : key new = none) :
    Indexes index (entries.insert id new) key := by
  refine h.write fun k => ?_
  simp only [hkey, reduceCtorEq, false_iff]
  rintro ⟨old, hentry, hk⟩
  simp [hold old hentry] at hk

/-- An entry without a key goes. -/
lemma erase_none (hold : entries[id]? = some old)
    (hkey : key old = none) : Indexes index (entries.erase id) key := by
  intro k' id'
  rw [h k' id', exists_get_erase, iff_and_self]
  rintro ⟨entry, hentry, hk⟩ rfl
  simp_all

end

variable [Std.LawfulEqOrd κ]

/-- An entry that had no key is written with a free one. -/
lemma insert (h : Indexes index entries key) (hfree : index[k]? = none)
    (hold : ∀ old, entries[id]? = some old → key old = none) (hkey : key new = some k) :
    Indexes (index.insert k id) (entries.insert id new) key := by
  intro k' id'
  rw [exists_get_insert, get_insert_eq_some, h k' id', hkey, Option.some.injEq]
  constructor
  · rintro (⟨rfl, rfl⟩ | ⟨-, entry, hentry, hk⟩)
    · exact .inl ⟨rfl, rfl⟩
    · refine .inr ⟨?_, entry, hentry, hk⟩
      rintro rfl
      simp [hold entry hentry] at hk
  · rintro (⟨rfl, rfl⟩ | ⟨-, entry, hentry, hk⟩)
    · exact .inl ⟨rfl, rfl⟩
    · refine .inr ⟨?_, entry, hentry, hk⟩
      rintro rfl
      have hfound := (h k id').mpr ⟨entry, hentry, hk⟩
      simp [hfree] at hfound

section

variable (h : Indexes index entries key) (hold : entries[id]? = some old)
  (hkey : key old = some k)
include h hold hkey

/-- An entry goes with its key. -/
lemma erase : Indexes (index.erase k) (entries.erase id) key := by
  intro k' id'
  rw [get_erase_eq_some, h k' id', exists_get_erase, and_congr_left_iff]
  rintro ⟨entry, hentry, hk⟩
  refine not_congr ⟨?_, ?_⟩
  · rintro rfl
    exact h.unique hold hkey hentry hk
  · rintro rfl
    simp_all

/-- An entry stays and loses its key. -/
lemma drop (hnew : key new = none) : Indexes (index.erase k) (entries.insert id new) key := by
  intro k' id'
  rw [h.erase hold hkey k' id', exists_get_erase, exists_get_insert]
  simp [hnew]

end

end Indexes
end GwzCore.FiniteMap
