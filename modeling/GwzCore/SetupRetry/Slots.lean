import GwzCore.SetupRetry.GovernorCalls

/-!
# The slots of the book

The sites an operation has touched, each with its machine's hold. This view of the
book says all that the laws about holds and about the pool's numbers need, and each
move of a call acts on it in one way.
-/
namespace GwzCore.SetupRetry
open List FiniteMap Function Book

variable {f : ∀ {C : ℕ}, Slot C → Slot C} {scope : Scope} {book' : Book}

def Scope.holds (scope : Scope) : List (Site × Hold) :=
  scope.slots.map fun slot => (slot.site, slot.limit.hold)

namespace Book

variable {book : Book} {operation other : Operation} {site place : Site} {now : ℕ} {hold : Hold}

/-- The sites an operation has touched and the holds of its machines there. -/
def holds (book : Book) (operation : Operation) : List (Site × Hold) :=
  match book.scopes[operation]? with
  | none => []
  | some scope => scope.holds

lemma holds_of_get (h : book.scopes[operation]? = some scope) :
    book.holds operation = scope.holds := by
  simp [holds, h]

lemma holds_congr (h : book'.scopes = book.scopes) (operation : Operation) :
    book'.holds operation = book.holds operation := by
  simp [holds, h]

lemma holds_insert (scopes : FiniteMap Operation Scope) (scope : Scope) (other : Operation)
    (hscopes : book.scopes = scopes.insert operation scope) :
    book.holds other = if other = operation then scope.holds else
      match scopes[other]? with
      | none => []
      | some scope => scope.holds := by
  by_cases h : other = operation
  · subst h
    simp [holds, hscopes]
  · have hne : operation ≠ other := fun heq => h heq.symm
    simp [holds, hscopes, get_insert_of_ne, hne, h]

lemma hasSlot_iff : scope.hasSlot site = true ↔ ∃ hold, (site, hold) ∈ scope.holds := by
  simp only [Scope.hasSlot, Scope.holds, any_eq_true, decide_eq_true_eq, mem_map,
    Prod.mk.injEq]
  constructor
  · rintro ⟨slot, hmem, hsite⟩
    exact ⟨slot.limit.hold, slot, hmem, hsite, rfl⟩
  · rintro ⟨hold, slot, hmem, hsite, -⟩
    exact ⟨slot, hmem, hsite⟩

lemma touched_iff : book.touched site = true ↔
    ∃ operation hold, (site, hold) ∈ book.holds operation := by
  unfold touched
  rw [any_eq_true]
  constructor
  · rintro ⟨entry, hmem, hslot⟩
    obtain ⟨hold, hhold⟩ := hasSlot_iff.mp hslot
    exact ⟨entry.1, hold, by rwa [holds_of_get (mem_toList.mp hmem)]⟩
  · rintro ⟨operation, hold, hmem⟩
    unfold holds at hmem
    split at hmem
    · cases hmem
    · rename_i scope hget
      exact ⟨(operation, scope), mem_toList.mpr hget, hasSlot_iff.mpr ⟨hold, hmem⟩⟩

lemma not_mem_holds_of_untouched (h : book.touched site = false) (operation : Operation)
    (hold : Hold) : (site, hold) ∉ book.holds operation := by
  intro hmem
  have := touched_iff.mpr ⟨operation, hold, hmem⟩
  simp [h] at this

/-! ## The moves -/

lemma holds_note (notes : List Note) (other : Operation) :
    (book.note operation site notes).holds other = book.holds other := by
  unfold note
  split
  · rfl
  · rename_i scope hget
    rw [holds_insert book.scopes _ other rfl]
    split
    · rename_i heq
      rw [heq, holds_of_get hget]
      rfl
    · rfl

/-- The hold a new machine inherits. -/
def inherited (book : Book) (site : Site) (now : ℕ) : Hold :=
  ((book.liveHold site now).or
    ((takeFirst (isLeft site now) book.heldOver).1.map Prod.snd)).getD {}

lemma hold_newLimit (scope : Scope) :
    (book.newLimit site now scope).hold = book.inherited site now := by
  unfold newLimit inherited
  split
  · rename_i hnone
    rw [hnone]
    rfl
  · rename_i hold hsome
    rw [hsome]
    rfl

/-- A slot is made only for a live operation that has none on the site. -/
lemma slot_cases (book : Book) (operation : Operation) (site : Site) (now : ℕ) :
    book.slot operation site now = book ∨
      (∀ hold, (site, hold) ∉ book.holds operation) ∧
        (book.slot operation site now).heldOver = (takeFirst (isLeft site now) book.heldOver).2 ∧
        ∀ other, (book.slot operation site now).holds other =
          if other = operation then book.holds operation ++ [(site, book.inherited site now)]
          else book.holds other := by
  unfold slot
  split
  · exact .inl rfl
  · rename_i scope hget
    split
    · exact .inl rfl
    · rename_i hnone
      refine .inr ⟨?_, rfl, ?_⟩
      · intro hold hmem
        rw [holds_of_get hget] at hmem
        exact hnone (hasSlot_iff.mpr ⟨hold, hmem⟩)
      intro other
      rw [holds_insert book.scopes _ other rfl]
      split
      · rw [holds_of_get hget]
        simp [Scope.holds, hold_newLimit]
      · rfl

lemma isLive_iff : book.isLive operation = true ↔
    ∃ scope, book.scopes[operation]? = some scope := by
  rw [isLive, Std.ExtTreeMap.contains_eq_isSome_getElem?, Option.isSome_iff_exists]

/-- A live operation has a slot on the site once it was asked for. -/
lemma mem_holds_slot (hlive : book.isLive operation = true) :
    ∃ hold, (site, hold) ∈ (book.slot operation site now).holds operation := by
  obtain ⟨scope, hget⟩ := isLive_iff.mp hlive
  cases hslot : scope.hasSlot site with
  | true =>
    have hsame : book.slot operation site now = book := by simp [slot, hget, hslot]
    rw [hsame, holds_of_get hget]
    exact hasSlot_iff.mp hslot
  | false =>
    have hmade : (book.slot operation site now).holds operation =
        book.holds operation ++ [(site, book.inherited site now)] := by
      unfold slot
      simp only [hget, hslot, Bool.false_eq_true, if_false]
      rw [holds_insert book.scopes _ operation rfl, if_pos rfl, holds_of_get hget]
      simp [Scope.holds, hold_newLimit]
    rw [hmade]
    exact ⟨book.inherited site now, by simp⟩

section Update

lemma holds_update (hf : ∀ {C : ℕ} (slot : Slot C), (f slot).site = slot.site) (other : Operation) :
    ((book.update operation site f).holds other).map Prod.fst =
      (book.holds other).map Prod.fst := by
  unfold update
  split
  · rfl
  · rename_i scope hget
    rw [holds_insert book.scopes _ other rfl]
    split
    · rename_i heq
      rw [heq, holds_of_get hget]
      simp only [Scope.holds, Scope.update, map_map]
      apply map_congr_left
      intro slot _
      simp only [comp_apply]
      split
      · exact hf slot
      · rfl
    · rfl

/-- Every hold after an update is one before it, or `f`'s of one there. -/
lemma mem_holds_update (hf : ∀ {C : ℕ} (slot : Slot C), slot.Moves now (f slot))
    (hmem : (place, hold) ∈ (book.update operation site f).holds other) :
    ∃ before, (place, before) ∈ book.holds other ∧
      ∀ time, now < time → before.Lasts time → hold.Lasts time := by
  unfold update at hmem
  split at hmem
  · exact ⟨hold, hmem, fun _ _ h => h⟩
  · rename_i scope hget
    rw [holds_insert book.scopes _ other rfl] at hmem
    split at hmem
    · rename_i heq
      simp only [Scope.holds, Scope.update, map_map, mem_map, comp_apply,
        Prod.mk.injEq] at hmem
      obtain ⟨slot, hslot, hsite, hhold⟩ := hmem
      refine ⟨slot.limit.hold, ?_, ?_⟩
      · rw [heq, holds_of_get hget]
        simp only [Scope.holds, mem_map, Prod.mk.injEq]
        refine ⟨slot, hslot, ?_, rfl⟩
        rw [← hsite]
        split
        · exact (hf slot).1.symm
        · rfl
      · intro time htime hlasts
        rw [← hhold]
        split
        · exact (hf slot).2 time htime hlasts
        · exact hlasts
    · exact ⟨hold, hmem, fun _ _ h => h⟩

/-- After an update, a hold of the operation on the site is `f`'s. -/
lemma mem_holds_update_self (hmem : (site, hold) ∈ (book.update operation site f).holds operation) :
    ∃ scope, book.scopes[operation]? = some scope ∧
      ∃ slot ∈ scope.slots, slot.site = site ∧ hold = (f slot).limit.hold := by
  unfold update at hmem
  split at hmem
  · rename_i hnone
    simp [holds, hnone] at hmem
  · rename_i scope hget
    rw [holds_insert book.scopes _ operation rfl, if_pos rfl] at hmem
    simp only [Scope.holds, Scope.update, map_map, mem_map, comp_apply,
      Prod.mk.injEq] at hmem
    obtain ⟨slot, hslot, hsite, hhold⟩ := hmem
    have hplace : slot.site = site := by
      by_contra hne
      rw [if_neg hne] at hsite
      exact hne hsite
    rw [if_pos hplace] at hhold
    exact ⟨scope, hget, slot, hslot, hplace, hhold.symm⟩

end Update

lemma mem_holds_of_slot {slot : Slot scope.ceiling}
    (hget : book.scopes[operation]? = some scope) (hslot : slot ∈ scope.slots) :
    (slot.site, slot.limit.hold) ∈ book.holds operation := by
  rw [holds_of_get hget]
  exact mem_map.mpr ⟨slot, hslot, rfl⟩

/-- The operation's slot on the site, when it has one. -/
lemma onSlot_of_mem (h : ∃ hold, (site, hold) ∈ book.holds operation) :
    ∃ scope, book.scopes[operation]? = some scope ∧
      ∃ slot ∈ scope.slots, slot.site = site ∧
        ∀ {α : Type} (f : ∀ {C : ℕ}, Slot C → α), book.onSlot operation site f = some (f slot) := by
  obtain ⟨hold, hmem⟩ := h
  unfold holds at hmem
  split at hmem
  · cases hmem
  · rename_i scope hget
    obtain ⟨slot, hslot, heq⟩ := mem_map.mp hmem
    cases heq
    cases hfind : scope.slotOn slot.site with
    | none =>
      have := find?_eq_none.mp hfind slot hslot
      simp at this
    | some found =>
      refine ⟨scope, hget, found, mem_of_find?_eq_some hfind,
        by simpa using find?_some hfind, ?_⟩
      intro α f
      simp [onSlot, hget, hfind]

lemma mem_holds_of_onSlot {α : Type} {f : ∀ {C : ℕ}, Slot C → α} {a : α}
    (h : book.onSlot operation site f = some a) : ∃ hold, (site, hold) ∈ book.holds operation := by
  unfold onSlot at h
  split at h
  · cases h
  · rename_i scope hget
    obtain ⟨slot, hfind, -⟩ := Option.map_eq_some_iff.mp h
    have hsite : slot.site = site := by simpa using find?_some hfind
    exact ⟨slot.limit.hold, hsite ▸ mem_holds_of_slot hget (mem_of_find?_eq_some hfind)⟩

/-- Whether a site is touched depends on which sites the operations have slots on. -/
lemma touched_congr
    (h : ∀ operation, (book'.holds operation).map Prod.fst = (book.holds operation).map Prod.fst)
    (site : Site) : book'.touched site = book.touched site := by
  have hiff : ∀ b : Book, b.touched site = true ↔
      ∃ operation, site ∈ (b.holds operation).map Prod.fst := by
    intro b
    rw [touched_iff]
    simp
  rw [Bool.eq_iff_iff, hiff, hiff]
  simp only [h]

lemma touched_of_scopes (h : book'.scopes = book.scopes) (site : Site) :
    book'.touched site = book.touched site := by
  simp [touched, h]

lemma touched_slot (h : book.touched place = true) :
    (book.slot operation site now).touched place = true := by
  obtain hsame | ⟨-, -, hholds⟩ := slot_cases book operation site now
  · rwa [hsame]
  · obtain ⟨other, hold, hmem⟩ := touched_iff.mp h
    refine touched_iff.mpr ⟨other, hold, ?_⟩
    rw [hholds]
    split
    · rename_i heq
      exact mem_append_left _ (heq ▸ hmem)
    · exact hmem

lemma touched_update (hf : ∀ {C : ℕ} (slot : Slot C), (f slot).site = slot.site) (place : Site) :
    (book.update operation site f).touched place = book.touched place :=
  touched_congr (holds_update hf) place

lemma touched_note (notes : List Note) (place : Site) :
    (book.note operation site notes).touched place = book.touched place :=
  touched_congr (fun other => by rw [holds_note]) place

/-- Without an operation, the sites that only it has touched are untouched. -/
lemma holds_erase (book : Book) (operation other : Operation) :
    ({ book with scopes := book.scopes.erase operation } : Book).holds other =
      if other = operation then [] else book.holds other := by
  unfold holds
  by_cases h : other = operation
  · subst h
    simp
  · have hne : operation ≠ other := fun heq => h heq.symm
    simp [get_erase_of_ne, hne, h]

lemma applied_slot : (book.slot operation site now).applied = book.applied := by
  unfold slot
  split
  · rfl
  · split <;> rfl

lemma applied_update : (book.update operation site f).applied = book.applied := by
  unfold update
  split <;> rfl

lemma applied_note (notes : List Note) :
    (book.note operation site notes).applied = book.applied := by
  unfold note
  split <;> rfl

lemma applied_holdOver {C : ℕ} (slot : Slot C) :
    (book.holdOver now slot).applied = book.applied := by
  unfold holdOver
  split <;> rfl

lemma scopes_holdOver {C : ℕ} (slot : Slot C) : (book.holdOver now slot).scopes = book.scopes := by
  unfold holdOver
  split <;> rfl

lemma heldOver_update : (book.update operation site f).heldOver = book.heldOver := by
  unfold update
  split <;> rfl

lemma heldOver_note (notes : List Note) :
    (book.note operation site notes).heldOver = book.heldOver := by
  unfold note
  split <;> rfl

/-- The machines of a site want numbers exactly when there is one. -/
lemma wanted_eq_none : book.wanted site = none ↔ book.touched site = false := by
  unfold wanted
  simp only
  split
  · rename_i hnil
    simp only [true_iff]
    rw [flatMap_eq_nil_iff] at hnil
    unfold touched
    rw [any_eq_false]
    intro entry hmem
    have := hnil entry hmem
    simpa [Scope.hasSlot, filter_eq_nil_iff] using this
  · rename_i first rest hcons
    simp only [reduceCtorEq, false_iff, Bool.not_eq_false]
    have hfirst : first ∈ first :: rest := mem_cons_self
    rw [← hcons, mem_flatMap] at hfirst
    obtain ⟨entry, hmem, hwant⟩ := hfirst
    obtain ⟨slot, hslot, -⟩ := mem_map.mp hwant
    obtain ⟨hin, hsite⟩ := mem_filter.mp hslot
    exact any_eq_true.mpr ⟨entry, hmem, any_eq_true.mpr ⟨slot, hin, hsite⟩⟩

/-! ## Reading the notes -/

lemma holds_update_eq (hf : ∀ {C : ℕ} (slot : Slot C),
      (f slot).site = slot.site ∧ (f slot).limit.hold = slot.limit.hold)
    (other : Operation) : (book.update operation site f).holds other = book.holds other := by
  unfold update
  split
  · rfl
  · rename_i scope hget
    rw [holds_insert book.scopes _ other rfl]
    split
    · rename_i heq
      rw [heq, holds_of_get hget]
      simp only [Scope.holds, Scope.update, map_map]
      apply map_congr_left
      intro slot _
      simp only [comp_apply]
      split
      · rw [(hf slot).1, (hf slot).2]
      · rfl
    · rfl

lemma drainSlots_frame (book : Book) :
    (∀ operation, book.drainSlots.holds operation = book.holds operation) ∧
      book.drainSlots.applied = book.applied ∧ book.drainSlots.heldOver = book.heldOver := by
  refine Steps.foldl_induction (P := fun drained : Book =>
    (∀ operation, drained.holds operation = book.holds operation) ∧
      drained.applied = book.applied ∧ drained.heldOver = book.heldOver)
    ⟨fun _ => rfl, rfl, rfl⟩ ?_ book.slotNames
  rintro drained name ⟨hholds, happlied, hheld⟩
  refine ⟨fun operation => ?_, applied_update.trans happlied, heldOver_update.trans hheld⟩
  rw [holds_update_eq (f := fun slot => { slot with limit := slot.limit.drainNotes.2 })
    fun slot => ⟨rfl, rfl⟩]
  exact hholds operation

end Book

namespace Governor

variable (governor : Governor) (site : Site)

/-- Draining the notes leaves the slots, what the pool was told, and the holds left. -/
lemma drainAllNotes_frame :
    (∀ operation, governor.drainAllNotes.2.book.holds operation = governor.book.holds operation) ∧
      governor.drainAllNotes.2.book.applied = governor.book.applied ∧
      governor.drainAllNotes.2.book.heldOver = governor.book.heldOver := by
  obtain ⟨hholds, happlied, hheld⟩ := governor.book.drainSlots_frame
  refine ⟨fun operation => ?_, happlied, hheld⟩
  rw [← hholds operation]
  simp only [drainAllNotes, onBook, holds, Std.ExtTreeMap.getElem?_map]
  cases governor.book.drainSlots.scopes[operation]? <;> rfl

lemma reconcile_scopes : (governor.reconcile site).book.scopes = governor.book.scopes := by
  unfold reconcile
  split
  · split <;> rfl
  · rfl
  · rfl
  · rfl

lemma reconcile_heldOver : (governor.reconcile site).book.heldOver = governor.book.heldOver := by
  unfold reconcile
  split
  · split <;> rfl
  · rfl
  · rfl
  · rfl

/-- What is said of the slots alone is kept when making and replacing slots keep it. -/
lemma Rule.of_holds {Q : (Operation → List (Site × Hold)) → Prop} (now : ℕ) (place : Site)
    (hslot : ∀ (book : Book) (operation : Operation), Q book.holds →
      Q (book.slot operation place now).holds)
    (hupdate : ∀ (book : Book) (operation : Operation) (f : ∀ {C : ℕ}, Slot C → Slot C),
      (∀ {C : ℕ} (slot : Slot C), slot.Moves now (f slot)) → Q book.holds →
      Q (book.update operation place f).holds) :
    Rule now place fun governor => Q governor.book.holds where
  slot operation h := hslot _ operation h
  update operation f hf h := hupdate _ operation f hf h
  note {governor} operation notes h := by
    have hsame : (governor.book.note operation place notes).holds = governor.book.holds :=
      funext fun other => holds_note notes other
    exact hsame ▸ h
  setSite state h := h
  reconcile {governor} h := by
    have hsame : (governor.reconcile place).book.holds = governor.book.holds :=
      funext fun other => holds_congr (reconcile_scopes governor place) other
    exact hsame ▸ h

/-! ## Operations end and begin -/

variable (operation : Operation) (now : ℕ)

lemma leave_scopes {C : ℕ} (slot : Slot C) :
    (governor.leave now slot).book.scopes = governor.book.scopes :=
  (reconcile_scopes _ _).trans (scopes_holdOver slot)

lemma dropScope_scopes :
    (governor.dropScope operation now).book.scopes = governor.book.scopes.erase operation := by
  unfold dropScope
  simp only
  split
  · rename_i hnone
    exact (erase_of_get_none hnone).symm
  · rename_i scope hget
    exact Steps.foldl_induction
      (P := fun left : Governor => left.book.scopes = governor.book.scopes.erase operation) rfl
      (fun left slot hleft => (left.leave_scopes now slot).trans hleft) scope.slots

lemma holds_dropScope (other : Operation) :
    (governor.dropScope operation now).book.holds other =
      if other = operation then [] else governor.book.holds other := by
  rw [← holds_erase]
  exact holds_congr (governor.dropScope_scopes operation now) other

/-- An operation begins without slots. -/
lemma holds_beginOperation {ceiling : ℕ} {positive : 1 ≤ ceiling} {adaptive : Bool}
    (other : Operation) :
    (governor.beginOperation operation now ceiling positive adaptive).book.holds other =
      (governor.dropScope operation now).book.holds other := by
  unfold beginOperation
  rw [holds_insert (governor.dropScope operation now).book.scopes _ other rfl]
  split
  · rename_i heq
    rw [holds_dropScope, if_pos heq]
    rfl
  · rfl

end Governor

end GwzCore.SetupRetry
