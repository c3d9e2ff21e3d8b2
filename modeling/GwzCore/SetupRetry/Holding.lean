import GwzCore.SetupRetry.Calls

/-!
# What a call does to the hold

A key's hold is set by a refusal that names a wait and by `setHold`, and looked at
by `tick`; no other call of an operation touches it. So until a hold's end has
passed, every call keeps it at least as long.
-/
namespace GwzCore.SetupRetry.Limit

variable {C : ℕ} (limit : Limit C) (conn : ConnId) (attempt : AttemptId) (kind : AttemptKind)
  (own : Own) (closed : ClosedWindow) (target stored now : ℕ) {a b : Limit C}
  {closed : ClosedWindow}

/-! ## Calls that leave it -/

lemma hold_setupWindowResolved : (limit.setupWindowResolved now).hold = limit.hold := by
  unfold setupWindowResolved
  split
  · rfl
  · split <;> rfl

@[simp] lemma hold_conn (event : ConnEvent) : (limit.conn conn event now).hold = limit.hold := by
  unfold Limit.conn
  simp only
  split
  · rfl
  · exact hold_setupWindowResolved _ now

@[simp] lemma hold_gateOpen : (limit.gateOpen now).2.hold = limit.hold := by
  unfold gateOpen
  simp only
  split
  · rfl
  · split <;> rfl

@[simp] lemma hold_closesSuppressed : (limit.closesSuppressed now).2.hold = limit.hold := by
  unfold closesSuppressed
  simp only
  split <;> rfl

lemma hold_took : (limit.took attempt kind own).hold = limit.hold := by
  cases kind <;> rfl

@[simp] lemma hold_beginAttempt (clocked : Bool) :
    (limit.beginAttempt attempt kind target own clocked now).2.hold = limit.hold := by
  unfold beginAttempt
  split
  · rfl
  · split
    · rfl
    · cases own with
      | new | leased => simp [hold_took]

@[simp] lemma hold_beginArmed (clocked : Bool) :
    (limit.beginArmed attempt own clocked now).2.hold = limit.hold := by
  unfold beginArmed takeArmed
  cases limit.armed <;> simp

@[simp] lemma hold_armTest (carrierFinal : Bool) :
    (limit.armTest carrierFinal now).2.hold = limit.hold := by
  unfold armTest
  simp only
  split <;> rfl

@[simp] lemma hold_disarm (arm : ℕ) : (limit.disarm arm).hold = limit.hold := by
  unfold disarm
  split
  · rfl
  · split
    · split <;> rfl
    · rfl

@[simp] lemma hold_setDemand (needingNew nonFinal : ℕ) :
    (limit.setDemand needingNew nonFinal now).hold = limit.hold := by
  unfold setDemand
  simp only
  split <;> rfl

@[simp] lemma hold_recovered : (limit.recovered now).hold = limit.hold := by
  unfold recovered
  simp only
  split
  · rfl
  · split <;> rfl

lemma hold_settled (before : ℕ × Fsm.State) : (limit.settled before now).hold = limit.hold := by
  unfold settled
  simp only [flushNotes]
  split <;> split <;> rfl

@[simp] lemma hold_observedSuccess : (limit.observedSuccess now).hold = limit.hold := by
  unfold observedSuccess
  rw [hold_settled]
  rfl

lemma hold_restoreProgress (refused : Bool) :
    (limit.restoreProgress attempt kind refused now).hold = limit.hold := by
  unfold restoreProgress
  split
  · rfl
  · split
    · rfl
    · simp only
      split
      · rfl
      · split <;> rfl

/-! ## Calls that set it -/

/-- The hold a result leaves: a refusal other than a setup's sets it for what it asks. -/
def holdAfter (hold : Hold) (outcome : Outcome) (now : ℕ) : Hold :=
  match outcome with
  | .refused .setupDrop _ _ => hold
  | .refused _ (some ms) post => (hold.set ms (if post then .post else .discovery) now).2
  | _ => hold

lemma NRuled.hold {outcome : Outcome} {now : ℕ} {ruling : Ruling}
    (h : NRuled closed outcome now ruling a b) : b.hold = a.hold := by
  cases h <;> rfl

lemma SRuled.hold {now : ℕ} {ruling : Ruling} (h : SRuled closed now ruling a b) :
    b.hold = a.hold := by
  cases h with
  | dropped => exact hold_setupWindowResolved _ now
  | _ => rfl

lemma hold_ruled (outcome : Outcome) :
    (limit.ruled closed stored outcome now).2.hold = holdAfter limit.hold outcome now := by
  obtain ⟨notes, mid, hn, hs⟩ := ruled_spec limit closed stored outcome now
  rw [hs.hold, hn.hold]
  cases outcome with
  | refused signal retryAfterMs => cases signal <;> cases retryAfterMs <;> rfl
  | _ => rfl

/-- A result that has a ruling leaves the hold its outcome asks for, and one that
has none leaves it alone. -/
lemma hold_result (outcome : Outcome) :
    (limit.result attempt outcome now).2.hold =
      if (limit.result attempt outcome now).1.isSome then holdAfter limit.hold outcome now
      else limit.hold := by
  unfold result
  cases hwindow : (limit.advance now).windows[attempt]? with
  | none =>
    simp only [hwindow]
    rfl
  | some window =>
    cases htarget : (limit.advance now).targets[attempt]? with
    | none =>
      simp only [hwindow, htarget]
      rfl
    | some stored =>
      simp only [hwindow, htarget, Option.isSome_some, if_true, hold_settled,
        hold_restoreProgress, hold_ruled]
      rfl

lemma hold_setHold (retryAfterMs : ℕ) (post : Bool) :
    (limit.setHold retryAfterMs post now).hold =
      (limit.hold.set retryAfterMs (if post then .post else .discovery) now).2 := rfl

/-! ## Until the end of the hold -/

/-- Until it ends, the hold of `a` lasts as long in `b`. -/
def Keeps (now : ℕ) (a b : Limit C) : Prop :=
  ∀ time, now < time → a.hold.Lasts time → b.hold.Lasts time

variable {limit now}

lemma Keeps.of_eq (h : b.hold = a.hold) : Keeps now a b := by
  intro time _ hlasts
  rwa [h]

lemma Keeps.trans {c : Limit C} (h : Keeps now a b) (h' : Keeps now b c) : Keeps now a c :=
  fun time htime hlasts => h' time htime (h time htime hlasts)

lemma lasts_holdAfter {hold : Hold} {time : ℕ} (htime : now < time) (h : hold.Lasts time)
    (outcome : Outcome) : (holdAfter hold outcome now).Lasts time := by
  unfold holdAfter
  split
  · exact h
  · exact h.set htime _ _
  · exact h

lemma keeps_result (outcome : Outcome) : Keeps now limit (limit.result attempt outcome now).2 := by
  intro time htime hlasts
  rw [hold_result]
  split
  · exact lasts_holdAfter htime hlasts outcome
  · exact hlasts

lemma keeps_setHold (retryAfterMs : ℕ) (post : Bool) :
    Keeps now limit (limit.setHold retryAfterMs post now) := by
  intro time htime hlasts
  rw [hold_setHold]
  exact hlasts.set htime _ _

/-- Time brought forward does not ask for the discard before the hold's end. -/
lemma tick_of_lasts {time : ℕ} (htime : now < time) (h : limit.hold.Lasts time) :
    (limit.tick now).1 = false ∧ (limit.tick now).2.hold = limit.hold := by
  have hdue := h.discardDue htime
  have hadvance : (limit.advance now).hold = limit.hold := rfl
  constructor
  · simp [tick, hadvance, hdue]
  · simp [tick, flushNotes, hadvance, hdue]

/-- A refusal that asks for a wait, judged, holds the key for it. -/
lemma lasts_refused {signal : Signal} (hsignal : signal ≠ .setupDrop) (ms : ℕ) (post : Bool)
    (hruled : (limit.result attempt (.refused signal (some ms) post) now).1.isSome = true) :
    (limit.result attempt (.refused signal (some ms) post) now).2.hold.Lasts
      (satAdd now (min ms holdCapMs)) := by
  rw [hold_result, if_pos hruled]
  cases signal with
  | setupDrop => exact absurd rfl hsignal
  | throttle | suspect => exact Hold.set_untilMs _ _ _ _

end GwzCore.SetupRetry.Limit
