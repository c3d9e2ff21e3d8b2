import GwzCore.SetupRetry.Generations

/-!
# Attempts that outlive their generation

What each report may do to the key, whichever generation its attempt is of, and the
law of every run that an endpoint drives as the machine asks it to.
-/
namespace GwzCore.SetupRetry.Machine

variable {M F : Type} {machine : Machine M F} {flight : Flight M} {member : M} {call : Call M F}
  {last : Final F}

attribute [local simp] Call.reported step

section Reports

variable [DecidableEq M]

/-! ## What a report does -/

lemma succeeded_of_stale {rest : Machine M F} (htake : machine.take member = (some flight, rest))
    (hstale : flight.generation ≠ rest.generation) (fresh : Bool) :
    (machine.succeeded member fresh).2 = rest := by
  simp only [succeeded, htake]
  cases hstate : rest.state with
  | degraded probe => cases probe <;> simp [hstale]
  | _ => simp [hstale]

omit [DecidableEq M] in
lemma release_of_stale (hstale : flight.generation ≠ machine.generation) :
    machine.release flight = machine := by
  simp [release, hstale]

/-- What a report of an attempt from a generation the key has left may do: take the
attempt away, or close the key. -/
lemma stale_report (h : machine.Sound) (hreported : call.reported = some member)
    (htake : (machine.take member).1 = some flight)
    (hstale : flight.generation ≠ machine.generation) :
    (machine.step call).attempts = machine.attempts ∧
      ((machine.step call).state = machine.state ∨
        ∃ last, (machine.step call).state = .closed last) := by
  have htook := h.took htake
  have hpair : machine.take member = (some flight, (machine.take member).2) := by rw [← htake]
  have hattempts : (machine.take member).2.attempts = machine.attempts := rfl
  have hstate : (machine.take member).2.state = machine.state := rfl
  have hgeneration : flight.generation ≠ (machine.take member).2.generation := hstale
  generalize (machine.take member).2 = rest at *
  suffices hrest : machine.step call = rest ∨
      ∃ failure, machine.step call = (rest.close failure flight.attempt).2 by
    obtain heq | ⟨failure, heq⟩ := hrest
    · rw [heq]
      exact ⟨hattempts, .inl hstate⟩
    · rw [heq]
      exact ⟨hattempts, .inr ⟨_, rfl⟩⟩
  cases call with
  | decide | start | takeChange | takeDown => simp at hreported
  | succeeded reported fresh =>
    obtain rfl : reported = member := by simpa using hreported
    exact .inl (succeeded_of_stale hpair hgeneration fresh)
  | abandoned reported =>
    obtain rfl : reported = member := by simpa using hreported
    left
    simp only [step, abandoned, hpair, release_of_stale hgeneration]
  | retestRefused reported =>
    obtain rfl : reported = member := by simpa using hreported
    left
    simp only [step, retestRefused, hpair, release_of_stale hgeneration]
    cases rest.state <;> simp [hgeneration]
  | failed reported verdict failure =>
    obtain rfl : reported = member := by simpa using hreported
    simp only [step, failed_of_take hpair]
    cases verdict with
    | returned => exact .inl (release_of_stale hgeneration)
    | close =>
      cases hopen : rest.state with
      | closed => exact .inl rfl
      | _ => exact .inr ⟨failure, rfl⟩
    | retry =>
      left
      cases hopen : rest.state with
      | closed => rfl
      | down =>
        have hretest : flight.retest = false := by
          by_contra hretest
          exact hgeneration ((htook.retest (by rw [hopen]; rfl)).mp (by simpa using hretest))
        simp [retested, hretest]
      | _ => simp [judged, hgeneration]

omit [DecidableEq M] in
lemma release_state (hstate : ∀ probe, machine.state ≠ .degraded probe) :
    machine.release flight = machine := by
  unfold release
  split
  · split
    · rename_i hdegraded
      exact absurd hdegraded (hstate _)
    · rfl
  · rfl

attribute [local simp] release_state

/-- A Closed key keeps its final failure. -/
lemma isClosed_step (hstate : machine.state = .closed last) (call : Call M F) :
    (machine.step call).state = .closed last := by
  have htaken : ∀ {member taken rest}, machine.take member = (taken, rest) →
      rest.state = .closed last := by
    intro member taken rest htake
    have hrest : (machine.take member).2.state = .closed last := hstate
    rwa [htake] at hrest
  cases call with
  | decide => simp [decide, wake, hstate]
  | start => simp [start, hstate]
  | takeChange | takeDown => exact hstate
  | succeeded member =>
    rcases htake : machine.take member with ⟨taken, rest⟩
    have hrest := htaken htake
    cases taken <;> simp [succeeded, htake, hrest]
  | abandoned member =>
    rcases htake : machine.take member with ⟨taken, rest⟩
    have hrest := htaken htake
    cases taken <;> simp [abandoned, htake, hrest]
  | retestRefused member =>
    rcases htake : machine.take member with ⟨taken, rest⟩
    have hrest := htaken htake
    cases taken <;> simp [retestRefused, htake, hrest]
  | failed member verdict =>
    rcases htake : machine.take member with ⟨taken, rest⟩
    have hrest := htaken htake
    cases verdict <;> cases taken <;> simp [failed, htake, hrest]

/-- A Down key heals only by a fresh success of its own retest. -/
lemma healed_of_down (hdown : machine.state.isDown = true)
    (hhealthy : (machine.step call).state = .healthy) :
    ∃ member flight, call = .succeeded member true ∧ (machine.take member).1 = some flight ∧
      flight.retest = true ∧ flight.generation = machine.generation := by
  obtain ⟨down, hstate⟩ : ∃ down, machine.state = .down down := by
    cases hstate : machine.state with
    | down down => exact ⟨down, rfl⟩
    | _ => simp [hstate, State.isDown] at hdown
  have htaken : ∀ {member taken rest}, machine.take member = (taken, rest) →
      rest.state = .down down ∧ rest.generation = machine.generation := by
    intro member taken rest htake
    have hrest : (machine.take member).2.state = .down down ∧
      (machine.take member).2.generation = machine.generation := ⟨hstate, rfl⟩
    rwa [htake] at hrest
  cases call with
  | decide => simp [decide, wake, hstate] at hhealthy
  | start => simp [start, hstate] at hhealthy
  | takeChange => simp [takeChange, hstate] at hhealthy
  | takeDown => simp [takeDown, hstate] at hhealthy
  | succeeded member =>
    rcases htake : machine.take member with ⟨taken, rest⟩
    obtain ⟨hrest, hgeneration⟩ := htaken htake
    cases taken with
    | none => simp [succeeded, htake, hrest] at hhealthy
    | some flight =>
      simp only [step, succeeded, htake, hrest] at hhealthy
      split at hhealthy
      · rename_i hall
        simp only [Bool.and_eq_true, decide_eq_true_eq] at hall
        obtain ⟨⟨hcurrent, hretest⟩, rfl⟩ := hall
        exact ⟨member, flight, rfl, by rw [htake], hretest, hcurrent.trans hgeneration⟩
      · simp [hrest] at hhealthy
  | abandoned member =>
    rcases htake : machine.take member with ⟨taken, rest⟩
    obtain ⟨hrest, -⟩ := htaken htake
    cases taken <;> simp [abandoned, htake, hrest] at hhealthy
  | retestRefused member =>
    rcases htake : machine.take member with ⟨taken, rest⟩
    obtain ⟨hrest, -⟩ := htaken htake
    cases taken with
    | none => simp [retestRefused, htake, hrest] at hhealthy
    | some flight =>
      simp only [step, retestRefused, htake, hrest] at hhealthy
      split at hhealthy
      · cases hhealthy
      · simp [hrest] at hhealthy
  | failed member verdict =>
    rcases htake : machine.take member with ⟨taken, rest⟩
    obtain ⟨hrest, -⟩ := htaken htake
    cases verdict with
    | returned => cases taken <;> simp [failed, htake, hrest] at hhealthy
    | close => cases taken <;> simp [failed, htake, hrest, judged, close] at hhealthy
    | retry =>
      simp only [step, failed, htake, hrest, retested] at hhealthy
      cases taken with
      | none => simp [hrest] at hhealthy
      | some flight => cases hretest : flight.retest <;> simp [hretest, hrest] at hhealthy

omit [DecidableEq M] in
lemma answer_attempt_le (h : machine.Sound) {now : ℕ}
    (hanswer : machine.answer now = .finish last) : last.attempt ≤ last.attempts := by
  have hshape := h.shape
  unfold answer at hanswer
  unfold Shape at hshape
  cases hstate : machine.state with
  | cold | healthy | waiting => simp [hstate] at hanswer
  | degraded probe => cases probe <;> simp [hstate] at hanswer
  | closed =>
    simp only [hstate, Decision.finish.injEq] at hanswer hshape
    exact hanswer ▸ hshape.2
  | down =>
    simp only [hstate] at hanswer
    split at hanswer
    · cases hanswer
    · split at hanswer
      · cases hanswer
      · split at hanswer
        · cases hanswer
          exact Nat.zero_le _
        · cases hanswer

omit [DecidableEq M] in
/-- What a judged failure hands out counts as its flight does. -/
lemma Took.judged_attempt_le (h : machine.Took flight) {verdict : Verdict} {failure : F}
    {now jitter : ℕ} {current : Bool}
    (hjudged : (machine.judged verdict failure flight.attempt current now jitter).1 = .finish last ∨
      (machine.judged verdict failure flight.attempt current now jitter).1 = .sweep last) :
    last.attempt ≤ last.attempts := by
  have hlast : machine.last failure flight.attempt = last → last.attempt ≤ last.attempts :=
    fun heq => heq ▸ h.budget'
  cases verdict with
  | close | returned => exact hlast (by simpa [judged, close] using hjudged)
  | retry =>
    cases current with
    | false => simp [judged] at hjudged
    | true =>
      simp only [judged, if_true, counted] at hjudged
      cases hcalm : machine.state.calm
      all_goals
        simp only [hcalm, if_true, if_false, Bool.false_eq_true] at hjudged
        split at hjudged
        · simp at hjudged
        · exact hlast (by simpa [goDown, Machine.last] using hjudged)

/-- No failure handed to a member counts past its number of attempts. -/
lemma handed_attempt_le (h : machine.Sound) (hflight : ∀ member, call.reported = some member →
      machine.flights.any fun flight => flight.member = member)
    (hhanded : machine.handed call = some last) : last.attempt ≤ last.attempts := by
  cases call with
  | decide now =>
    simp only [handed, decide] at hhanded
    split at hhanded
    · rename_i final hanswer
      cases hhanded
      exact answer_attempt_le (sound_wake h now) hanswer
    · cases hhanded
  | failed member verdict failure now jitter =>
    obtain ⟨flight, htake⟩ := take_isSome (hflight member rfl)
    have htook := h.took htake
    have hpair : machine.take member = (some flight, (machine.take member).2) := by rw [← htake]
    generalize (machine.take member).2 = rest at *
    have hout : (machine.failed member verdict failure now jitter).1 = .finish last ∨
        (machine.failed member verdict failure now jitter).1 = .sweep last := by
      simp only [handed] at hhanded
      split at hhanded <;> simp_all
    rw [failed_of_take hpair] at hout
    split at hout
    · simp at hout
    · have hshape := htook.shape
      unfold Shape at hshape
      cases hstate : rest.state with
      | closed =>
        simp only [hstate, Outcome.finish.injEq, reduceCtorEq, or_false] at hout hshape
        rw [← hout]
        split
        · exact hshape.2
        · exact htook.budget'
      | down =>
        simp only [hstate] at hout
        split at hout
        · unfold retested at hout
          split at hout
          · simp only [reduceCtorEq, Outcome.sweep.injEq, false_or] at hout
            rw [← hout]
            exact Nat.zero_le _
          · simp at hout
        · exact htook.judged_attempt_le hout
      | _ =>
        simp only [hstate] at hout
        exact htook.judged_attempt_le hout
  | _ => simp [handed] at hhanded

end Reports

/-! ## The budget -/

lemma maxRetries_release (machine : Machine M F) (flight : Flight M) :
    (machine.release flight).maxRetries = machine.maxRetries := by
  unfold release
  split
  · split <;> rfl
  · rfl

lemma maxRetries_judged (machine : Machine M F) (verdict : Verdict) (failure : F) (attempt : ℕ)
    (current : Bool) (now jitter : ℕ) :
    (machine.judged verdict failure attempt current now jitter).2.maxRetries =
      machine.maxRetries := by
  cases verdict with
  | retry =>
    cases current with
    | true =>
      simp only [judged, counted, goDown, if_true]
      split <;> split <;> rfl
    | false => rfl
  | close | returned => rfl

lemma maxRetries_retested (machine : Machine M F) (down : Down F) (failure : F) (retest : Bool)
    (now : ℕ) : (machine.retested down failure retest now).2.maxRetries = machine.maxRetries := by
  unfold retested
  split <;> rfl

lemma maxRetries_step [DecidableEq M] (machine : Machine M F) (call : Call M F) :
    (machine.step call).maxRetries = machine.maxRetries := by
  have htake : ∀ member, (machine.take member).2.maxRetries = machine.maxRetries := fun _ => rfl
  cases call with
  | decide =>
    simp only [step, decide, wake]
    split
    · split <;> rfl
    · rfl
  | start | takeChange | takeDown => rfl
  | succeeded => grind [step, succeeded]
  | failed =>
    grind [step, failed, maxRetries_release, maxRetries_judged, maxRetries_retested]
  | abandoned => grind [step, abandoned, maxRetries_release]
  | retestRefused => grind [step, retestRefused, maxRetries_release]

/-! ## Whole runs -/

namespace Asked

variable [DecidableEq M] {asked : Asked M F}

/-- The machine's invariant, and that a start that may come now is allowed by the state. -/
structure Good (asked : Asked M F) : Prop where
  sound : asked.machine.Sound
  startable : asked.mayStart = true → asked.machine.Startable

lemma flight_of_used (hused : asked.used call = true) (member : M)
    (hreported : call.reported = some member) :
    asked.machine.flights.any fun flight => flight.member = member := by
  cases call <;> simp_all [used]

lemma good_step (hused : asked.used call = true) (h : asked.Good) : (asked.step call).Good := by
  have hflight := flight_of_used hused
  refine ⟨?_, ?_⟩
  · cases call with
    | decide now => exact sound_wake h.sound now
    | start => exact sound_start h.sound (h.startable hused)
    | succeeded member fresh => exact sound_succeeded h.sound member fresh
    | failed member verdict failure now jitter =>
      exact sound_failed h.sound (hflight member rfl) failure now jitter
    | abandoned member => exact sound_abandoned h.sound member
    | retestRefused member now => exact sound_retestRefused h.sound member now
    | takeChange | takeDown => exact ⟨h.sound.born, h.sound.budget, h.sound.attempts, h.sound.shape⟩
  · intro hmay
    cases call with
    | decide =>
      simp only [step] at hmay
      split at hmay
      · rename_i hanswer
        exact startable_of_answer hanswer
      · cases hmay
    | _ => cases hmay

lemma good_run {maxRetries : ℕ} {calls : List (Call M F)}
    (hused : Steps.Meets (fun asked call => used asked call = true) step
      ⟨Machine.new maxRetries, false⟩ calls) : (run maxRetries calls).Good :=
  Steps.run_induction_of_meets ⟨sound_new maxRetries, fun h => by cases h⟩
    (fun _ _ hcall h => good_step hcall h) hused

end Asked

end GwzCore.SetupRetry.Machine
