import GwzCore.SetupRetry.Machine

/-!
# Generations of attempts

Attempts end in any order after the key has moved on. What relates each flight to
the state: a key that left Cold or Healthy has at most one attempt of its own
generation, its probe or its retest; a retest is of the generation that went Down;
and no flight counts past the budget.
-/
namespace GwzCore.SetupRetry.Machine
open List Nat

variable {M F : Type} {machine : Machine M F} {flight : Flight M} {member : M}

attribute [local simp] State.calm

/-- The attempts of the current generation in flight. -/
def currentFlights (machine : Machine M F) : ℕ :=
  machine.flights.countP fun flight => flight.generation = machine.generation

/-- No flight is a retest. -/
def Untested (machine : Machine M F) : Prop := ∀ flight ∈ machine.flights, flight.retest = false

/-- What each state says about the count and the flights. -/
def Shape (machine : Machine M F) : Prop :=
  match machine.state with
  | .cold | .healthy => machine.attempts = 0 ∧ machine.Untested
  | .waiting _ =>
    machine.attempts ≤ machine.maxRetries ∧ machine.currentFlights = 0 ∧ machine.Untested
  | .degraded probe =>
    machine.attempts ≤ machine.maxRetries ∧ machine.currentFlights ≤ probe.toNat ∧ machine.Untested
  | .down down =>
    machine.currentFlights ≤ 1 ∧
      (∀ flight ∈ machine.flights, flight.retest = true ↔ flight.generation = machine.generation) ∧
      down.last.attempt ≤ down.last.attempts
  | .closed last => machine.currentFlights = 0 ∧ last.attempt ≤ last.attempts

structure Sound (machine : Machine M F) : Prop where
  born : ∀ flight ∈ machine.flights, flight.generation ≤ machine.generation
  budget : ∀ flight ∈ machine.flights, flight.attempt ≤ u32Succ machine.maxRetries
  attempts : machine.attempts ≤ machine.maxRetries + 1
  shape : machine.Shape

lemma u32Succ_le (n : ℕ) : u32Succ n ≤ n + 1 := min_le_left _ _

lemma u32Succ_mono {m n : ℕ} (h : m ≤ n) : u32Succ m ≤ u32Succ n := by
  unfold u32Succ
  omega

lemma currentFlights_eq_zero :
    machine.currentFlights = 0 ↔
      ∀ flight ∈ machine.flights, flight.generation ≠ machine.generation := by
  simp [currentFlights, countP_eq_zero]

lemma sound_new (maxRetries : ℕ) : (new maxRetries : Machine M F).Sound where
  born := by simp [new]
  budget := by simp [new]
  attempts := zero_le _
  shape := by simp [new, Shape, Untested]

namespace Sound

/-- Once the key left Cold or Healthy, only its probe or its retest is current. -/
lemma currentFlights_le_one (h : machine.Sound) (hcalm : machine.state.calm = false) :
    machine.currentFlights ≤ 1 := by
  have hshape := h.shape
  unfold Shape at hshape
  split at hshape
  · simp_all
  · simp_all
  · omega
  · rename_i probe _
    have := probe.toNat_le
    omega
  · exact hshape.1
  · omega

lemma current_kind (h : machine.Sound) (hcalm : machine.state.calm = false)
    (hmem : flight ∈ machine.flights) (hcurrent : flight.generation = machine.generation) :
    (machine.state = .degraded true ∧ flight.retest = false) ∨
      (machine.state.isDown = true ∧ flight.retest = true) := by
  have hpos : machine.currentFlights ≠ 0 :=
    fun hzero => currentFlights_eq_zero.mp hzero _ hmem hcurrent
  have hshape := h.shape
  unfold Shape at hshape
  split at hshape
  · simp_all
  · simp_all
  · exact absurd hshape.2.1 hpos
  · rename_i probe hstate
    cases probe with
    | false => exact absurd (le_zero.mp hshape.2.1) hpos
    | true => exact .inl ⟨hstate, hshape.2.2 flight hmem⟩
  · rename_i hstate
    refine .inr ⟨by rw [hstate]; rfl, (hshape.2.1 flight hmem).mpr hcurrent⟩
  · exact absurd hshape.1 hpos

end Sound

/-! ## Calls that report no attempt -/

lemma sound_wake (h : machine.Sound) (now : ℕ) : (machine.wake now).Sound := by
  unfold wake
  split
  · rename_i hstate
    have hshape := h.shape
    simp only [Shape, hstate] at hshape
    split
    · refine ⟨h.born, h.budget, h.attempts, ?_⟩
      exact ⟨hshape.1, le_of_eq hshape.2.1, hshape.2.2⟩
    · exact h
  · exact h

/-- A state in which a `decide` answers Start. -/
def Startable (machine : Machine M F) : Prop :=
  match machine.state with
  | .cold | .healthy | .degraded false => True
  | .down _ => machine.Untested
  | _ => False

lemma startable_of_answer {now : ℕ} (h : machine.answer now = .start) : machine.Startable := by
  unfold answer at h
  unfold Startable
  cases hstate : machine.state with
  | cold | healthy => trivial
  | waiting | closed => simp [hstate] at h
  | degraded probe => cases probe <;> simp_all
  | down =>
    simp only [hstate] at h
    split at h
    · cases h
    · rename_i hany
      intro flight hmem
      by_contra hretest
      exact hany (any_eq_true.mpr ⟨flight, hmem, by simpa using hretest⟩)

lemma currentFlights_start (machine : Machine M F) (member : M) :
    (machine.start member).currentFlights = machine.currentFlights + 1 := by
  simp only [currentFlights, start, countP_append]
  congr 1
  simp

lemma mem_start_flights {f : Flight M} (hmem : f ∈ (machine.start member).flights) :
    f ∈ machine.flights ∨
      f = ⟨member, machine.generation,
        if machine.state.isDown then 0 else u32Succ machine.attempts, machine.state.isDown⟩ := by
  simpa [start] using hmem

lemma untested_start (h : machine.Untested) (hdown : machine.state.isDown = false) :
    (machine.start member).Untested := by
  intro f hmem
  obtain hold | rfl := mem_start_flights hmem
  · exact h f hold
  · exact hdown

lemma sound_start (h : machine.Sound) (hstart : machine.Startable) :
    (machine.start member).Sound := by
  have hshape := h.shape
  have hleft : machine.state.isDown = false → machine.attempts ≤ machine.maxRetries := by
    unfold Startable at hstart
    unfold Shape at hshape
    intro hdown
    cases hstate : machine.state with
    | down => simp [hstate, State.isDown] at hdown
    | waiting | closed => simp [hstate] at hstart
    | degraded | cold | healthy => simp_all
  refine ⟨?_, ?_, h.attempts, ?_⟩
  · intro f hmem
    obtain hold | rfl := mem_start_flights hmem
    · exact h.born f hold
    · exact le_refl _
  · intro f hmem
    obtain hold | rfl := mem_start_flights hmem
    · exact h.budget f hold
    · cases hdown : machine.state.isDown with
      | true => simp
      | false =>
        rw [if_neg Bool.false_ne_true]
        exact u32Succ_mono (hleft hdown)
  · have hcurrent := currentFlights_start machine member
    unfold Startable at hstart
    unfold Shape at hshape
    cases hstate : machine.state with
    | waiting | closed => simp [hstate] at hstart
    | cold =>
      simp only [hstate] at hshape
      have hstarted : (machine.start member).state = .cold := by simp [start, hstate]
      simp only [Shape, hstarted]
      exact ⟨hshape.1, untested_start hshape.2 (by rw [hstate]; rfl)⟩
    | healthy =>
      simp only [hstate] at hshape
      have hstarted : (machine.start member).state = .healthy := by simp [start, hstate]
      simp only [Shape, hstarted]
      exact ⟨hshape.1, untested_start hshape.2 (by rw [hstate]; rfl)⟩
    | degraded probe =>
      cases probe with
      | true => simp [hstate] at hstart
      | false =>
        simp only [hstate, Bool.toNat_false] at hshape
        have hstarted : (machine.start member).state = .degraded true := by simp [start, hstate]
        simp only [Shape, hstarted, hcurrent, Bool.toNat_true]
        exact ⟨hshape.1, by omega, untested_start hshape.2.2 (by rw [hstate]; rfl)⟩
    | down down =>
      simp only [hstate] at hshape hstart
      have hstarted : (machine.start member).state = .down down := by simp [start, hstate]
      have hnone : machine.currentFlights = 0 := by
        rw [currentFlights_eq_zero]
        intro f hmem hgen
        have := (hshape.2.1 f hmem).mpr hgen
        simp [hstart f hmem] at this
      simp only [Shape, hstarted, hcurrent]
      refine ⟨by omega, ?_, hshape.2.2⟩
      intro f hmem
      obtain hold | rfl := mem_start_flights hmem
      · exact hshape.2.1 f hold
      · simp [hstate, State.isDown, start]

/-! ## The attempt a report is about -/

/-- A machine that `flight` has just left. -/
structure Took (machine : Machine M F) (flight : Flight M) : Prop extends Sound machine where
  born' : flight.generation ≤ machine.generation
  budget' : flight.attempt ≤ u32Succ machine.maxRetries
  /-- Outside Cold and Healthy, a current flight was the only one. -/
  alone : machine.state.calm = false → flight.generation = machine.generation →
    machine.currentFlights = 0
  retest : machine.state.isDown = true →
    (flight.retest = true ↔ flight.generation = machine.generation)

/-- Fewer flights keep the invariant. -/
lemma Sound.of_perm {flights : List (Flight M)} (h : machine.Sound)
    (hperm : machine.flights.Perm (flight :: flights)) : Took { machine with flights } flight := by
  have hsub : ∀ f ∈ flights, f ∈ machine.flights :=
    fun f hmem => hperm.mem_iff.mpr (mem_cons_of_mem _ hmem)
  have hself : flight ∈ machine.flights := hperm.mem_iff.mpr mem_cons_self
  have hcount : machine.currentFlights = currentFlights { machine with flights } +
      if flight.generation = machine.generation then 1 else 0 := by
    simp only [currentFlights, hperm.countP_eq, countP_cons, decide_eq_true_eq]
  refine ⟨⟨fun f hmem => h.born f (hsub f hmem), fun f hmem => h.budget f (hsub f hmem),
    h.attempts, ?_⟩, h.born flight hself, h.budget flight hself, ?_, ?_⟩
  · have hshape := h.shape
    have huntested : machine.Untested → Untested { machine with flights } :=
      fun hnone f hmem => hnone f (hsub f hmem)
    unfold Shape at hshape ⊢
    cases hstate : machine.state with
    | cold | healthy => simp only [hstate] at hshape ⊢; exact ⟨hshape.1, huntested hshape.2⟩
    | waiting | degraded =>
      simp only [hstate] at hshape hcount ⊢
      exact ⟨hshape.1, by omega, huntested hshape.2.2⟩
    | down =>
      simp only [hstate] at hshape hcount ⊢
      exact ⟨by omega, fun f hmem => hshape.2.1 f (hsub f hmem), hshape.2.2⟩
    | closed =>
      simp only [hstate] at hshape hcount ⊢
      exact ⟨by omega, hshape.2⟩
  · intro hcalm hcurrent
    have hle := h.currentFlights_le_one hcalm
    rw [hcount, if_pos hcurrent] at hle
    omega
  · intro hdown
    have hshape := h.shape
    unfold Shape at hshape
    cases hstate : machine.state with
    | down =>
      simp only [hstate] at hshape
      exact hshape.2.1 flight hself
    | _ => simp [hstate, State.isDown] at hdown

section Reports

variable [DecidableEq M]

lemma take_perm (h : (machine.take member).1 = some flight) :
    machine.flights.Perm (flight :: (machine.take member).2.flights) := (takeFirst_eq_some h).2

lemma take_isSome (h : machine.flights.any fun flight => flight.member = member) :
    ∃ flight, (machine.take member).1 = some flight := by
  cases htake : (machine.take member).1 with
  | some flight => exact ⟨flight, rfl⟩
  | none =>
    obtain ⟨flight, hmem, hmember⟩ := any_eq_true.mp h
    have := (takeFirst_eq_none htake).2 flight hmem
    rw [hmember] at this
    cases this

lemma Sound.took (h : machine.Sound) (htake : (machine.take member).1 = some flight) :
    Took (machine.take member).2 flight := h.of_perm (take_perm htake)

end Reports

namespace Took

/-- A current flight leaves no retest behind, unless the key is Closed. -/
lemma untested (h : machine.Took flight) (hcurrent : flight.generation = machine.generation)
    (hopen : ∀ last, machine.state ≠ .closed last) : machine.Untested := by
  have hshape := h.shape
  unfold Shape at hshape
  cases hstate : machine.state with
  | cold | healthy => simp only [hstate] at hshape; exact hshape.2
  | waiting | degraded => simp only [hstate] at hshape; exact hshape.2.2
  | closed last => exact absurd hstate (hopen last)
  | down =>
    simp only [hstate] at hshape
    have hnone := currentFlights_eq_zero.mp (h.alone (by rw [hstate]; rfl) hcurrent)
    intro f hmem
    by_contra hretest
    exact hnone f hmem ((hshape.2.1 f hmem).mp (by simpa using hretest))

lemma sound_release (h : machine.Took flight) : (machine.release flight).Sound := by
  unfold release
  split
  · rename_i hcurrent
    split
    · rename_i probe hstate
      have hshape := h.shape
      simp only [Shape, hstate] at hshape
      refine ⟨h.born, h.budget, h.attempts, hshape.1, ?_, hshape.2.2⟩
      exact le_of_eq (h.alone (by rw [hstate]; rfl) hcurrent)
    · exact h.toSound
  · exact h.toSound

/-- A fresh success of the current generation makes the key Healthy. -/
lemma sound_healthy (h : machine.Took flight) (hcurrent : flight.generation = machine.generation)
    (hopen : ∀ last, machine.state ≠ .closed last) (change : Option Change) :
    ({ machine with state := .healthy, attempts := 0, change } : Machine M F).Sound :=
  ⟨h.born, h.budget, zero_le _, rfl, h.untested hcurrent hopen⟩

lemma not_current_of_lt {generation : ℕ} (h : ∀ f ∈ machine.flights, f.generation < generation) :
    currentFlights { machine with generation } = 0 := by
  rw [currentFlights_eq_zero]
  intro f hmem
  have := h f hmem
  exact Nat.ne_of_lt this

section

variable (h : machine.Took flight)
include h

lemma sound_close (failure : F) : (machine.close failure flight.attempt).2.Sound := by
  have hborn : ∀ f ∈ machine.flights, f.generation < machine.generation + 1 :=
    fun f hmem => lt_succ_of_le (h.born f hmem)
  exact ⟨fun f hmem => le_of_lt (hborn f hmem), h.budget, h.attempts, not_current_of_lt hborn,
    h.budget'⟩

/-- A counted failure leaves no current flight, whether it moved the generation or
was the only one of it. -/
lemma sound_counted (hcurrent : flight.generation = machine.generation)
    (hopen : ∀ last, machine.state ≠ .closed last) (failure : F) (now jitter : ℕ) :
    (machine.counted failure flight.attempt now jitter).2.Sound := by
  have huntested := h.untested hcurrent hopen
  have hbudget : flight.attempt ≤ machine.maxRetries + 1 := le_trans h.budget' (u32Succ_le _)
  have hleft : ∃ generation, machine.generation ≤ generation ∧
      (∀ f ∈ machine.flights, f.generation < generation + 1) ∧
      currentFlights { machine with generation } = 0 ∧
      ∃ change, (if machine.state.calm = true then
          { machine with generation := machine.generation + 1, change := some .left }
        else machine) = { machine with generation, change } := by
    cases hcalm : machine.state.calm with
    | true =>
      have hborn : ∀ f ∈ machine.flights, f.generation < machine.generation + 1 :=
        fun f hmem => lt_succ_of_le (h.born f hmem)
      exact ⟨machine.generation + 1, le_succ _, fun f hmem => lt_succ_of_lt (hborn f hmem),
        not_current_of_lt hborn, _, rfl⟩
    | false =>
      exact ⟨machine.generation, le_refl _, fun f hmem => lt_succ_of_le (h.born f hmem),
        h.alone hcalm hcurrent, machine.change, rfl⟩
  obtain ⟨generation, hle, hborn, hnone, change, hmoved⟩ := hleft
  unfold counted
  simp only [hmoved]
  split
  · rename_i hattempt
    exact ⟨fun f hmem => le_of_lt_succ (hborn f hmem), h.budget, hbudget, hattempt, hnone,
      huntested⟩
  · refine ⟨fun f hmem => le_of_lt (hborn f hmem), h.budget, hbudget, ?_, ?_, h.budget'⟩
    · have hzero : currentFlights { machine with generation := generation + 1 } = 0 :=
        not_current_of_lt hborn
      exact le_trans (le_of_eq hzero) (zero_le 1)
    · intro f hmem
      have hgen : f.generation ≠ generation + 1 := Nat.ne_of_lt (hborn f hmem)
      have hretest : f.retest = false := huntested f hmem
      simp [hretest, goDown, hgen]

lemma sound_retested {down : Down F}
    (hstate : machine.state = .down down) (failure : F) (retest : Bool) (now : ℕ) :
    (machine.retested down failure retest now).2.Sound := by
  have hshape := h.shape
  simp only [Shape, hstate] at hshape
  unfold retested
  split
  · exact ⟨h.born, h.budget, h.attempts, hshape.1, hshape.2.1, zero_le _⟩
  · exact h.toSound

lemma sound_judged {verdict : Verdict}
    (hopen : ∀ last, machine.state ≠ .closed last) (failure : F) (now jitter : ℕ) :
    (machine.judged verdict failure flight.attempt
      (flight.generation = machine.generation) now jitter).2.Sound := by
  unfold judged
  cases verdict with
  | retry =>
    by_cases hcurrent : flight.generation = machine.generation
    · simpa [hcurrent] using h.sound_counted hcurrent hopen failure now jitter
    · simpa [hcurrent] using h.toSound
  | close | returned => exact h.sound_close failure

end

end Took

section Reports

variable [DecidableEq M]

/-- A report finds its member's flight, or changes nothing. -/
lemma Sound.take_cases (h : machine.Sound) (member : M) :
    machine.take member = (none, machine) ∨
      ∃ flight rest, machine.take member = (some flight, rest) ∧ rest.Took flight := by
  cases htake : (machine.take member).1 with
  | none =>
    have hrest := (takeFirst_eq_none htake).1
    left
    unfold take
    rw [hrest]
  | some flight => exact .inr ⟨flight, (machine.take member).2, by rw [← htake], h.took htake⟩

lemma sound_succeeded (h : machine.Sound) (member : M) (fresh : Bool) :
    (machine.succeeded member fresh).2.Sound := by
  unfold succeeded
  obtain htake | ⟨flight, rest, htake, htook⟩ := h.take_cases member
  · simpa [htake] using h
  · simp only [htake]
    by_cases hcurrent : flight.generation = rest.generation
    · cases hstate : rest.state with
      | cold | healthy =>
        cases fresh with
        | true => simpa [hcurrent] using htook.sound_healthy hcurrent (by simp [hstate]) rest.change
        | false => simpa [hcurrent] using htook.toSound
      | waiting | closed => exact htook.toSound
      | degraded probe =>
        cases probe with
        | false => exact htook.toSound
        | true =>
          cases fresh with
          | true =>
            simpa [hcurrent] using htook.sound_healthy hcurrent (by simp [hstate]) (some .healed)
          | false => simpa [release, hstate, hcurrent] using htook.sound_release
      | down =>
        cases hretest : flight.retest && fresh with
        | true =>
          simpa [hcurrent, hretest] using
            htook.sound_healthy hcurrent (by simp [hstate]) (some .healed)
        | false => simpa [hcurrent, hretest] using htook.toSound
    · -- a stale success matches no arm
      cases rest.state with
      | degraded probe => cases probe <;> simpa [hcurrent] using htook.toSound
      | _ => simpa [hcurrent] using htook.toSound

/-- A failure of an attempt in flight, read on the machine the flight has left. -/
lemma failed_of_take {rest : Machine M F} (htake : machine.take member = (some flight, rest))
    (verdict : Verdict) (failure : F) (now jitter : ℕ) :
    machine.failed member verdict failure now jitter =
      if verdict = .returned then (.returned, rest.release flight)
      else match rest.state with
        | .closed last =>
          (.finish (if verdict = .retry then last else rest.last failure flight.attempt), rest)
        | .down down =>
          if verdict = .retry then rest.retested down failure flight.retest now
          else
            rest.judged verdict failure flight.attempt
              (flight.generation = rest.generation) now jitter
        | _ =>
          rest.judged verdict failure flight.attempt
            (flight.generation = rest.generation) now jitter := by
  unfold failed
  generalize machine.take member = taken at htake ⊢
  subst htake
  rfl

lemma sound_failed (h : machine.Sound) {verdict : Verdict}
    (hflight : machine.flights.any fun flight => flight.member = member) (failure : F)
    (now jitter : ℕ) : (machine.failed member verdict failure now jitter).2.Sound := by
  obtain ⟨flight, htake⟩ := take_isSome hflight
  have htook := h.took htake
  have hpair : machine.take member = (some flight, (machine.take member).2) := by rw [← htake]
  rw [failed_of_take hpair]
  generalize (machine.take member).2 = rest at htook
  split
  · exact htook.sound_release
  · cases hstate : rest.state with
    | closed => exact htook.toSound
    | down =>
      simp only
      split
      · exact htook.sound_retested hstate failure flight.retest now
      · exact htook.sound_judged (by simp [hstate]) failure now jitter
    | _ => exact htook.sound_judged (by simp [hstate]) failure now jitter

lemma sound_abandoned (h : machine.Sound) (member : M) : (machine.abandoned member).Sound := by
  unfold abandoned
  obtain htake | ⟨flight, rest, htake, htook⟩ := h.take_cases member
  · simpa [htake] using h
  · simpa [htake] using htook.sound_release

lemma sound_retestRefused (h : machine.Sound) (member : M) (now : ℕ) :
    (machine.retestRefused member now).Sound := by
  unfold retestRefused
  obtain htake | ⟨flight, rest, htake, htook⟩ := h.take_cases member
  · simpa [htake] using h
  · simp only [htake]
    cases hstate : rest.state with
    | down =>
      have hshape := htook.shape
      simp only [Shape, hstate] at hshape
      simp only
      split
      · exact ⟨htook.born, htook.budget, htook.attempts, hshape⟩
      · exact htook.sound_release
    | _ => exact htook.sound_release

end Reports

end GwzCore.SetupRetry.Machine
