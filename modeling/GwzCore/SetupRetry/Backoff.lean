import GwzCore.SetupRetry.Machine

/-!
# The bound on the waits

What a budget of attempts waits at most is computed in closed form, since the waits reach their cap
with the sixth. It is what the waits and the most jitter for each add up to.
-/
namespace GwzCore.SetupRetry
open Finset Nat

/-- Jitter is drawn from below this. -/
def jitterMs : ℕ := 250

/-- A product in a `u64` that saturates. -/
def satMul (a b : ℕ) : ℕ := min (a * b) u64Max

/-- The most that the waits of `maxRetries` attempts add, jitter included. -/
def waitBoundMs (maxRetries : ℕ) : ℕ :=
  let doubling := min maxRetries 5
  let doubled := ∑ attempt ∈ Icc 1 doubling, waitMs attempt
  let capped := satMul (maxRetries - doubling) maxWaitMs
  satAdd (satAdd doubled capped) (satMul maxRetries jitterMs)

/-- The jitter of a wait, when its source gives `value`. -/
def draw (value : ℕ) : ℕ := min value (jitterMs - 1)

lemma waitMs_eq (attempt : ℕ) : waitMs attempt = min (1000 * 2 ^ (attempt - 1)) 30000 := by
  simp only [waitMs]
  split_ifs with h
  · rfl
  · have hpow : 2 ^ 15 ≤ 2 ^ (attempt - 1) := Nat.pow_le_pow_right (by decide) (by omega)
    simp only [maxWaitMs]
    omega

lemma waitMs_of_six_le {attempt : ℕ} (h : 6 ≤ attempt) : waitMs attempt = maxWaitMs := by
  have hpow : 2 ^ 5 ≤ 2 ^ (attempt - 1) := Nat.pow_le_pow_right (by decide) (by omega)
  rw [waitMs_eq, maxWaitMs]
  omega

lemma waitMs_mono : Monotone waitMs := by
  intro a b hab
  have hpow : 2 ^ (a - 1) ≤ 2 ^ (b - 1) := Nat.pow_le_pow_right (by decide) (by omega)
  rw [waitMs_eq, waitMs_eq]
  omega

lemma waitMs_le (attempt : ℕ) : waitMs attempt ≤ maxWaitMs := waitMs_eq attempt ▸ min_le_right ..

lemma sum_waitMs (budget : ℕ) :
    ∑ attempt ∈ Icc 1 budget, waitMs attempt =
      ∑ attempt ∈ Icc 1 (min budget 5), waitMs attempt + (budget - min budget 5) * maxWaitMs := by
  induction budget with
  | zero => rfl
  | succ budget ih =>
    rcases lt_or_ge budget 5 with hfew | hmany
    · simp [min_eq_left (succ_le_of_lt hfew)]
    · rw [sum_Icc_succ_top (by omega), ih, waitMs_of_six_le (by omega), min_eq_right hmany,
        min_eq_right (by omega), succ_sub hmany, succ_mul, add_assoc]

/-- The bound is what the waits and the most jitter for each add up to, and the waits with what is
drawn never pass it. The waits never decrease and never pass thirty seconds. -/
theorem waitBoundMs_exact (maxRetries : UInt32) :
    waitBoundMs maxRetries.toNat =
        ∑ attempt ∈ Icc 1 maxRetries.toNat, waitMs attempt + maxRetries.toNat * jitterMs ∧
      (∀ source : ℕ → ℕ, ∑ attempt ∈ Icc 1 maxRetries.toNat,
        (waitMs attempt + draw (source attempt)) ≤ waitBoundMs maxRetries.toNat) ∧
      Monotone waitMs ∧ ∀ attempt, waitMs attempt ≤ 30000 := by
  have hbudget := maxRetries.toNat_lt
  generalize maxRetries.toNat = budget at *
  have hexact : waitBoundMs budget =
      ∑ attempt ∈ Icc 1 budget, waitMs attempt + budget * jitterMs := by
    -- a budget of `u32` stays far below what a `u64` holds
    have hwaits : ∑ attempt ∈ Icc 1 budget, waitMs attempt ≤ budget * maxWaitMs := by
      simpa using sum_le_card_nsmul (Icc 1 budget) waitMs maxWaitMs fun attempt _ =>
        waitMs_le attempt
    have hsum := sum_waitMs budget
    simp only [waitBoundMs, satAdd, satMul, u64Max, maxWaitMs, jitterMs] at hwaits hsum ⊢
    omega
  refine ⟨hexact, fun source => ?_, waitMs_mono, waitMs_le⟩
  have hdrawn := sum_le_card_nsmul (Icc 1 budget) (fun attempt => draw (source attempt)) jitterMs
    fun attempt _ => (min_le_right ..).trans (by decide)
  rw [hexact, sum_add_distrib]
  simpa using hdrawn

end GwzCore.SetupRetry
