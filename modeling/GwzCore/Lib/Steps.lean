import Mathlib

/-!
# Runs of a step function

A system is a step function on its states, one label a step; a run is a list of
labels. What holds of the first state and survives every step holds after every
run, and a condition that each step meets in the state it is taken from can be
used by the step.
-/
namespace GwzCore.Steps
open List

variable {σ ℓ : Type*} (step : σ → ℓ → σ) {allowed : σ → ℓ → Prop} {labels : List ℓ} {s : σ}
  {P : σ → Prop}

/-- The state after the labels, from `s`. -/
def run (s : σ) (labels : List ℓ) : σ := labels.foldl step s

@[simp] lemma run_nil (s : σ) : run step s [] = s := rfl

@[simp] lemma run_cons (s : σ) (label : ℓ) (labels : List ℓ) :
    run step s (label :: labels) = run step (step s label) labels := rfl

lemma run_append (s : σ) (labels more : List ℓ) :
    run step s (labels ++ more) = run step (run step s labels) more := by
  simp [run]

lemma run_concat (s : σ) (labels : List ℓ) (label : ℓ) :
    run step s (labels ++ [label]) = step (run step s labels) label := by
  simp [run]

variable {step}

/-- The invariant rule. -/
lemma run_induction (hinit : P s) (hstep : ∀ s label, P s → P (step s label)) (labels : List ℓ) :
    P (run step s labels) := by
  induction labels using List.reverseRecOn with
  | nil => exact hinit
  | append_singleton labels label ih =>
    rw [run_concat]
    exact hstep _ _ ih

/-- The invariant rule for a loop over a list. -/
lemma foldl_induction {f : σ → ℓ → σ} (hinit : P s) (hstep : ∀ s label, P s → P (f s label))
    (labels : List ℓ) : P (labels.foldl f s) :=
  run_induction hinit hstep labels

/-- The labels of a run each meet `allowed` in the state they are taken from. -/
def Meets (allowed : σ → ℓ → Prop) (step : σ → ℓ → σ) (s : σ) (labels : List ℓ) : Prop :=
  ∀ before label after, labels = before ++ label :: after → allowed (run step s before) label

lemma Meets.of_concat {label : ℓ} (h : Meets allowed step s (labels ++ [label])) :
    Meets allowed step s labels ∧ allowed (run step s labels) label := by
  refine ⟨?_, h labels label [] rfl⟩
  intro before next after heq
  apply h before next (after ++ [label])
  rw [heq]
  simp

/-- The rest of a run meets the condition from the state it starts in. -/
lemma Meets.of_append {more : List ℓ} (h : Meets allowed step s (labels ++ more)) :
    Meets allowed step (run step s labels) more := by
  intro before label after heq
  rw [← run_append]
  apply h (labels ++ before) label after
  rw [heq, append_assoc]

/-- Whether the labels meet a condition that can be evaluated. -/
def meets (allowed : σ → ℓ → Bool) (step : σ → ℓ → σ) : σ → List ℓ → Bool
  | _, [] => true
  | s, label :: rest => allowed s label && meets allowed step (step s label) rest

lemma Meets.of_meets {allowed : σ → ℓ → Bool} (h : meets allowed step s labels = true) :
    Meets (fun s label => allowed s label = true) step s labels := by
  intro before label after heq
  induction before generalizing s labels with
  | nil =>
    subst heq
    simp only [nil_append, meets, Bool.and_eq_true] at h
    exact h.1
  | cons first rest ih =>
    subst heq
    simp only [cons_append, meets, Bool.and_eq_true] at h
    exact ih h.2 rfl

section

variable (hinit : P s) (hstep : ∀ s label, allowed s label → P s → P (step s label))
  (hmeets : Meets allowed step s labels)
include hinit hstep hmeets

/-- The invariant rule for runs whose steps meet a condition. -/
lemma run_induction_of_meets : P (run step s labels) := by
  induction labels using List.reverseRecOn with
  | nil => exact hinit
  | append_singleton labels label ih =>
    obtain ⟨hbefore, hlast⟩ := hmeets.of_concat
    rw [run_concat]
    exact hstep _ _ hlast (ih hbefore)

/-- The steps of a run that meet a condition also meet an invariant it keeps. -/
lemma Meets.and_invariant : Meets (fun s label => allowed s label ∧ P s) step s labels := by
  intro before label after heq
  refine ⟨hmeets before label after heq, run_induction_of_meets hinit hstep ?_⟩
  intro first next rest hbefore
  apply hmeets first next (rest ++ label :: after)
  rw [heq, hbefore]
  simp

end

lemma Meets.mono {allowed' : σ → ℓ → Prop}
    (hmono : ∀ s label, allowed s label → allowed' s label) (hmeets : Meets allowed step s labels) :
    Meets allowed' step s labels :=
  fun before label after heq => hmono _ _ (hmeets before label after heq)

/-! ### Histories -/

/-- Every event of a history had its grounds in what came before it. -/
def Grounded (grounds : List ℓ → ℓ → Prop) (history : List ℓ) : Prop :=
  ∀ before event after, history = before ++ event :: after → grounds before event

lemma grounded_nil (grounds : List ℓ → ℓ → Prop) : Grounded grounds [] := by
  intro before event after h
  simp at h

lemma Grounded.concat {grounds : List ℓ → ℓ → Prop} {history : List ℓ} {event : ℓ}
    (h : Grounded grounds history) (hevent : grounds history event) :
    Grounded grounds (history ++ [event]) := by
  intro before other after heq
  rcases eq_nil_or_concat after with rfl | ⟨rest, last, rfl⟩
  · obtain ⟨rfl, hlast⟩ := append_inj' heq rfl
    cases hlast
    exact hevent
  · apply h before other rest
    have heq' : history ++ [event] = (before ++ other :: rest) ++ [last] := by
      rw [heq]
      simp
    exact (append_inj' heq' rfl).1

end GwzCore.Steps
