import Mathlib

/-!
# Checks in order

A check passes or refuses. `checkAll` runs one check over a list and stops at the first
refusal. `admitAll` admits the elements of a list one by one, each of them compared with
those admitted before it: it passes exactly when every element is admitted and the
admitted ones are pairwise apart.
-/
namespace GwzCore.Checks
open List List.Forall₂

variable {α β : Type} {ε : Type*} {admitted : List β} {b : β} {l : List α} {f : Unit → Except ε β}

lemma bind_eq_ok {x : Except ε α} {f : α → Except ε β} :
    (x >>= f) = .ok b ↔ ∃ a, x = .ok a ∧ f a = .ok b := by
  cases x with
  | error =>
    constructor
    · intro h
      cases h
    · rintro ⟨a, h, _⟩
      cases h
  | ok a =>
    constructor
    · exact fun h => ⟨a, rfl, h⟩
    · rintro ⟨_, h, hf⟩
      cases h
      exact hf

/-- A check of nothing but its refusal. -/
lemma bind_unit_eq_ok {x : Except ε Unit} : (x >>= f) = .ok b ↔ x = .ok () ∧ f () = .ok b := by
  rw [bind_eq_ok]
  exact ⟨fun ⟨_, hx, hf⟩ => ⟨hx, hf⟩, fun ⟨hx, hf⟩ => ⟨(), hx, hf⟩⟩

/-- Passes when the condition holds, and refuses with the given error otherwise. -/
def require (condition : Bool) (error : ε) : Except ε Unit :=
  if condition then .ok () else .error error

@[simp] lemma require_eq_ok {condition : Bool} {error : ε} :
    require condition error = .ok () ↔ condition = true := by
  cases condition <;> simp [require]

lemma require_bind_eq_ok {condition : Bool} {error : ε} :
    (require condition error >>= f) = .ok b ↔ condition = true ∧ f () = .ok b := by
  rw [bind_unit_eq_ok, require_eq_ok]

/-- The first refusal of `check` along the list. -/
def checkAll (check : α → Except ε Unit) : List α → Except ε Unit
  | [] => .ok ()
  | a :: rest => do
    check a
    checkAll check rest

lemma checkAll_eq_ok {check : α → Except ε Unit} :
    checkAll check l = .ok () ↔ ∀ a ∈ l, check a = .ok () := by
  induction l with
  | nil => simp [checkAll]
  | cons a rest ih =>
    rw [checkAll, bind_unit_eq_ok, ih, forall_mem_cons]

lemma exists_of_checkAll_eq_error {check : α → Except ε Unit} {error : ε}
    (h : checkAll check l = .error error) : ∃ a ∈ l, check a = .error error := by
  induction l with
  | nil => cases h
  | cons a rest ih =>
    cases hcheck : check a with
    | error =>
      rw [checkAll, hcheck] at h
      exact ⟨a, mem_cons_self, hcheck.trans h⟩
    | ok =>
      rw [checkAll, hcheck] at h
      obtain ⟨b, hb, herror⟩ := ih h
      exact ⟨b, mem_cons_of_mem a hb, herror⟩

/-- Admits the elements in order, each apart from those admitted before it. -/
def admitAll (accept : α → Except ε β) (apart : β → β → Except ε Unit) :
    List α → List β → Except ε Unit
  | [], _ => .ok ()
  | a :: rest, admitted => do
    let b ← accept a
    checkAll (apart b) admitted
    admitAll accept apart rest (admitted ++ [b])

lemma admitAll_cons_eq_ok {accept : α → Except ε β} {apart : β → β → Except ε Unit} {a : α}
    {rest : List α} :
    admitAll accept apart (a :: rest) admitted = .ok () ↔
      ∃ b, accept a = .ok b ∧ (∀ earlier ∈ admitted, apart b earlier = .ok ()) ∧
        admitAll accept apart rest (admitted ++ [b]) = .ok () := by
  rw [admitAll, bind_eq_ok]
  simp only [bind_unit_eq_ok, checkAll_eq_ok]

section Apart
variable {accept : α → Except ε β} {apart : β → β → Except ε Unit} {R : α → α → Prop}

/-- The elements admitted before are as far apart as what they were admitted as. -/
lemma forall_apart_iff {a : α} {before : List α}
    (hR : ∀ a a' b b', accept a = .ok b → accept a' = .ok b' → (apart b b' = .ok () ↔ R a a'))
    (hb : accept a = .ok b) (hbefore : List.Forall₂ (fun a b => accept a = .ok b) before admitted) :
    (∀ earlier ∈ admitted, apart b earlier = .ok ()) ↔ ∀ earlier ∈ before, R a earlier := by
  induction hbefore with
  | nil => simp
  | cons hfirst _ ih => rw [forall_mem_cons, forall_mem_cons, ih, hR _ _ _ _ hb hfirst]

section

variable
  (hR : ∀ a a' b b', accept a = .ok b → accept a' = .ok b' → (apart b b' = .ok () ↔ R a a'))
include hR

lemma admitAll_after_eq_ok {before : List α}
    (hbefore : List.Forall₂ (fun a b => accept a = .ok b) before admitted) :
    admitAll accept apart l admitted = .ok () ↔
      (∀ a ∈ l, ∃ b, accept a = .ok b) ∧ l.Pairwise (fun earlier later => R later earlier) ∧
        ∀ a ∈ l, ∀ earlier ∈ before, R a earlier := by
  induction l generalizing before admitted with
  | nil => simp [admitAll]
  | cons a rest ih =>
    rw [admitAll_cons_eq_ok]
    constructor
    · rintro ⟨b, hb, hearlier, hrest⟩
      have hlonger := rel_append hbefore (cons hb nil)
      obtain ⟨hadmitted, hpairs, hapart⟩ := (ih hlonger).mp hrest
      rw [forall_apart_iff hR hb hbefore] at hearlier
      refine ⟨forall_mem_cons.mpr ⟨⟨b, hb⟩, hadmitted⟩, pairwise_cons.mpr ⟨?_, hpairs⟩,
        forall_mem_cons.mpr ⟨hearlier, ?_⟩⟩
      · exact fun later hlater => hapart later hlater a (by simp)
      · exact fun later hlater earlier hmem => hapart later hlater earlier (by simp [hmem])
    · rintro ⟨hadmitted, hpairs, hapart⟩
      obtain ⟨⟨b, hb⟩, hadmitted⟩ := forall_mem_cons.mp hadmitted
      obtain ⟨hfirst, hpairs⟩ := pairwise_cons.mp hpairs
      obtain ⟨hearlier, hapart⟩ := forall_mem_cons.mp hapart
      have hlonger := rel_append hbefore (cons hb nil)
      refine ⟨b, hb, (forall_apart_iff hR hb hbefore).mpr hearlier,
        (ih hlonger).mpr ⟨hadmitted, hpairs, ?_⟩⟩
      intro later hlater earlier hmem
      rcases mem_append.mp hmem with hold | hnew
      · exact hapart later hlater earlier hold
      · rw [mem_singleton.mp hnew]
        exact hfirst later hlater

/-- Everything is admitted, and each element is apart from those before it. -/
lemma admitAll_eq_ok :
    admitAll accept apart l [] = .ok () ↔
      (∀ a ∈ l, ∃ b, accept a = .ok b) ∧ l.Pairwise fun earlier later => R later earlier := by
  rw [admitAll_after_eq_ok hR nil]
  simp

end

end Apart
end GwzCore.Checks
