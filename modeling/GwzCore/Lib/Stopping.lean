import Mathlib

/-!
# Computations that may stop

A computation changes a state and either returns or stops with a reason; the state it
stopped in is kept. What a sequence of computations did is read off its parts.
-/
namespace GwzCore.Stopping
open List

variable {ε σ α β : Type} {f : α → EStateM ε σ β} {x : EStateM ε σ α} {g : α → EStateM ε σ PUnit}

lemma bind_eq_ok {s s'' : σ} {b : β} :
    (x >>= f) s = .ok b s'' ↔ ∃ a s', x s = .ok a s' ∧ f a s' = .ok b s'' := by
  change (EStateM.bind x f) s = _ ↔ _
  unfold EStateM.bind
  cases hx : x s with
  | ok a s' =>
    constructor
    · exact fun h => ⟨a, s', rfl, h⟩
    · rintro ⟨_, _, h, hf⟩
      cases h
      exact hf
  | error => simp

lemma bind_eq_error {s s'' : σ} {e : ε} :
    (x >>= f) s = .error e s'' ↔
      x s = .error e s'' ∨ ∃ a s', x s = .ok a s' ∧ f a s' = .error e s'' := by
  change (EStateM.bind x f) s = _ ↔ _
  unfold EStateM.bind
  cases hx : x s with
  | ok a s' =>
    constructor
    · exact fun h => .inr ⟨a, s', rfl, h⟩
    · rintro (h | ⟨_, _, h, hf⟩)
      · cases h
      · cases h
        exact hf
  | error => simp

lemma bind_of_ok {s s' : σ} {a : α} (h : x s = .ok a s') : (x >>= f) s = f a s' := by
  change (EStateM.bind x f) s = _
  unfold EStateM.bind
  rw [h]

lemma forM_cons (f : α → EStateM ε σ PUnit) (a : α) (rest : List α) :
    (a :: rest).forM f = f a >>= fun _ => rest.forM f := rfl

@[simp] lemma pure_apply (a : α) (s : σ) : (pure a : EStateM ε σ α) s = .ok a s := rfl

lemma pure_eq_ok {a b : α} {s s' : σ} : (pure a : EStateM ε σ α) s = .ok b s' ↔ a = b ∧ s = s' := by
  rw [pure_apply, EStateM.Result.ok.injEq]

@[simp] lemma throw_apply (e : ε) (s : σ) : (throw e : EStateM ε σ α) s = .error e s := rfl

/-! ### Pre- and postconditions -/

/-- From every state with `P` the computation returns with `Q` or stops with `R`. -/
def Triple (P : σ → Prop) (x : EStateM ε σ α) (Q : α → σ → Prop) (R : ε → σ → Prop) : Prop :=
  ∀ s, P s → (∀ a s', x s = .ok a s' → Q a s') ∧ ∀ e s', x s = .error e s' → R e s'

namespace Triple

variable {P P' : σ → Prop} {Q Q' : α → σ → Prop} {S : β → σ → Prop} {R : ε → σ → Prop}

lemma weaken (h : Triple P x Q R) (hpre : ∀ s, P' s → P s) (hpost : ∀ a s, Q a s → Q' a s) :
    Triple P' x Q' R := by
  intro s hs
  obtain ⟨hok, herror⟩ := h s (hpre s hs)
  exact ⟨fun a s' hx => hpost a s' (hok a s' hx), herror⟩

/-- A triple holds from the states of `P` when it holds from each of them. -/
lemma of_state (h : ∀ s₀, P s₀ → Triple (fun s => s = s₀) x Q R) : Triple P x Q R :=
  fun s hs => h s hs s rfl

protected lemma and (h : Triple P x Q R) (h' : Triple P' x Q' R) :
    Triple (fun s => P s ∧ P' s) x (fun a s => Q a s ∧ Q' a s) R := by
  intro s hs
  obtain ⟨hok, herror⟩ := h s hs.1
  obtain ⟨hok', _⟩ := h' s hs.2
  exact ⟨fun a s' hx => ⟨hok a s' hx, hok' a s' hx⟩, herror⟩

lemma bind (hx : Triple P x Q R) (hf : ∀ a, Triple (Q a) (f a) S R) : Triple P (x >>= f) S R := by
  intro s hs
  obtain ⟨hok, herror⟩ := hx s hs
  constructor
  · intro b s'' h
    obtain ⟨a, s', hxs, hfs⟩ := bind_eq_ok.mp h
    exact (hf a s' (hok a s' hxs)).1 b s'' hfs
  · intro e s'' h
    rcases bind_eq_error.mp h with hxs | ⟨a, s', hxs, hfs⟩
    · exact herror e s'' hxs
    · exact (hf a s' (hok a s' hxs)).2 e s'' hfs

/-- What follows may use the state it starts from. -/
lemma bind_state (hx : Triple P x Q R) (hf : ∀ a s₀, Q a s₀ → Triple (fun s => s = s₀) (f a) S R) :
    Triple P (x >>= f) S R :=
  hx.bind fun a => of_state (hf a)

/-- A computation that returns, from a known state. -/
lemma step {s₀ s₁ : σ} {a : α} (hx : x s₀ = .ok a s₁) (hf : Triple (fun s => s = s₁) (f a) S R) :
    Triple (fun s => s = s₀) (x >>= f) S R := by
  rintro _ rfl
  rw [bind_of_ok hx]
  exact hf s₁ rfl

lemma pure {a : α} (h : ∀ s, P s → Q a s) : Triple P (Pure.pure a) Q R := by
  intro s hs
  constructor
  · intro b s' hb
    cases hb
    exact h s hs
  · intro e s' he
    cases he

lemma done {a : α} {s₀ : σ} (h : Q a s₀) : Triple (fun s => s = s₀) (Pure.pure a) Q R := by
  apply pure
  rintro _ rfl
  exact h

lemma modify {g : σ → σ} {Q : PUnit → σ → Prop} (h : ∀ s, P s → Q ⟨⟩ (g s)) :
    Triple P (modify g) Q R := by
  intro s hs
  constructor
  · intro b s' hb
    cases hb
    exact h s hs
  · intro e s' he
    cases he

lemma throw {e : ε} (h : ∀ s, P s → R e s) : Triple P (throw e) Q R := by
  intro s hs
  constructor
  · intro b s' hb
    cases hb
  · intro e' s' he
    cases he
    exact h s hs

lemma stop {e : ε} {s₀ : σ} (h : R e s₀) : Triple (fun s => s = s₀) (MonadExcept.throw e) Q R := by
  apply throw
  rintro _ rfl
  exact h

lemma ite {c : Prop} [Decidable c] {y : EStateM ε σ α} (hx : c → Triple P x Q R)
    (hy : ¬ c → Triple P y Q R) : Triple P (if c then x else y) Q R := by
  split_ifs with hc
  · exact hx hc
  · exact hy hc

/-- A check that stops comes before what it guards. -/
lemma guard {c : Prop} [Decidable c] {e : ε} {g : PUnit → EStateM ε σ β}
    (hstop : c → ∀ s, P s → R e s) (hgo : ¬ c → Triple P (g ⟨⟩) S R) :
    Triple P (if c then MonadExcept.throw e >>= g else g ⟨⟩) S R := by
  refine ite (fun hc => ?_) hgo
  exact bind (Q := fun _ _ => False) (throw (hstop hc)) fun _ _ hfalse => hfalse.elim

/-- A loop over a list keeps what each of its rounds keeps. -/
lemma forM {l : List α} (h : ∀ a ∈ l, Triple P (g a) (fun _ => P) R) :
    Triple P (l.forM g) (fun _ => P) R := by
  induction l with
  | nil => exact pure fun _ hs => hs
  | cons a rest ih =>
    rw [forM_cons]
    refine bind (h a mem_cons_self) fun _ => ?_
    exact ih fun b hb => h b (mem_cons_of_mem a hb)

/-- A loop over a list whose rounds add to what is known of the elements done. -/
lemma forM_done {l : List α} {I : List α → σ → Prop}
    (h : ∀ done a rest, l = done ++ a :: rest →
      Triple (I done) (g a) (fun _ => I (done ++ [a])) R) :
    Triple (I []) (l.forM g) (fun _ => I l) R := by
  have hfrom : ∀ rest done, l = done ++ rest → Triple (I done) (rest.forM g) (fun _ => I l) R := by
    intro rest
    induction rest with
    | nil =>
      intro done hl
      rw [append_nil] at hl
      subst hl
      exact pure fun _ hs => hs
    | cons a rest ih =>
      intro done hl
      rw [forM_cons]
      refine bind (h done a rest hl) fun _ => ?_
      apply ih (done ++ [a])
      rw [hl]
      simp
  exact hfrom l [] rfl

end Triple

end GwzCore.Stopping
