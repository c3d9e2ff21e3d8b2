import GwzCore.SetupRetry.Calls

/-!
# The limit given to the pool

The pool's limit is the target of the test of `N` in flight or armed, else the
restore step's target, else `N`. A probe's target is one above an `N` that is
below the ceiling, and a step's target is bounded by the good `N`; a confirming
test's target is one above what is connected, which nothing bounds. The restore
step and the machine's state are kept apart, and agree unless a success finds the
machine restoring.
-/
namespace GwzCore.SetupRetry.Limit
open FiniteMap Limit AttemptKind

variable {C : ℕ} {limit : Limit C} {attempt : AttemptId} {now : ℕ} {kind : AttemptKind} {target : ℕ}

attribute [local simp] Limit.new AttemptKind.isTest seed

/-! ## The slot -/

/-- Targets and windows are of the same attempts, the slot is a test's in flight,
and what is armed is a test. -/
structure Slotted (limit : Limit C) : Prop where
  matched : ∀ attempt, limit.targets[attempt]?.isSome = (limit.kinds attempt).isSome
  slot : ∀ attempt, limit.testSlot = some attempt → ∃ kind, limit.kinds attempt = some kind ∧
    kind.isTest = true ∧ (kind = .setupProbe → limit.setups.test = some attempt)
  armed : ∀ kind target arm, limit.armed = some (kind, target, arm) → kind.isTest = true

lemma startablePlan_isTest {carrierFinal : Bool} {plan : TestPlan}
    (h : limit.startablePlan carrierFinal now = some plan) : plan.kind.isTest = true := by
  rcases startablePlan_cases h with hdue | hsetup
  · obtain ⟨-, -, ⟨-, hkind, -⟩ | ⟨hkind, -⟩⟩ := duePlan_spec hdue
    · rw [hkind]
      rfl
    · rw [hkind]
      rfl
  · obtain ⟨-, -, -, hkind, -⟩ := setupPlan_spec hsetup
    rw [hkind]
    rfl

namespace Slotted

lemma opened (h : Slotted limit) (target : ℕ) (own : Own) (hfree : limit.Free attempt) :
    Slotted (limit.opened attempt kind target own) where
  matched other := by
    rw [kinds_opened, opened_targets]
    by_cases heq : attempt = other
    · subst heq
      simp
    · rw [if_neg heq, get_insert_of_ne _ _ heq]
      exact h.matched other
  slot other hslot := by
    rw [opened_testSlot] at hslot
    rw [kinds_opened, opened_test]
    split at hslot
    · rename_i htest
      obtain rfl := Option.some.inj hslot
      exact ⟨kind, by simp, htest, fun hprobe => by simp [hprobe]⟩
    · rename_i hplain
      obtain ⟨held, hheld, htest, hprobe⟩ := h.slot other hslot
      have hne : attempt ≠ other := by
        rintro rfl
        simp [hfree.kinds] at hheld
      have hkind : kind ≠ .setupProbe := by
        rintro rfl
        simp at hplain
      rw [if_neg hne, if_neg hkind]
      exact ⟨held, hheld, htest, hprobe⟩
  armed kind target arm harmed := h.armed kind target arm (by simpa using harmed)

/-- Without a target an attempt has no window to lose. -/
lemma kinds_lost (h : Slotted limit) (htarget : limit.targets[attempt]? = none) :
    kinds { limit with windows := limit.windows.erase attempt } = limit.kinds := by
  have hnone : limit.kinds attempt = none := by
    have := h.matched attempt
    rw [htarget] at this
    simpa using this.symm
  funext other
  rw [kinds_erase]
  split
  · rename_i heq
    rw [← heq, hnone]
  · rfl

lemma unarmed (h : Slotted limit) : Slotted { limit with armed := none } :=
  { h with armed := by simp }

lemma of_frame {a b : Limit C} (h : Slotted a) (hframe : Frame a b) : Slotted b where
  matched := by
    rw [hframe.targets, hframe.kinds]
    exact h.matched
  slot := by
    rw [hframe.testSlot, hframe.kinds, hframe.test]
    exact h.slot
  armed := by
    rw [hframe.armed]
    exact h.armed

/-- The slot and the setup test of an attempt that leaves are its own to clear. -/
lemma retire (h : Slotted limit) (attempt : AttemptId) : Slotted (limit.retire attempt) where
  matched other := by
    have hkinds : (limit.retire attempt).kinds other = _ := kinds_erase limit attempt other
    rw [hkinds]
    by_cases heq : attempt = other
    · subst heq
      simp [Limit.retire]
    · rw [if_neg heq]
      exact (congrArg Option.isSome (get_erase_of_ne _ heq)).trans (h.matched other)
  slot other hother := by
    have hkinds : (limit.retire attempt).kinds other = _ := kinds_erase limit attempt other
    have htest : (limit.retire attempt).setups.test =
        if limit.setups.test = some attempt then none else limit.setups.test := rfl
    simp only [Limit.retire] at hother
    split at hother
    · simp at hother
    · rename_i hfree
      have hne : attempt ≠ other := fun heq => hfree (heq ▸ hother)
      obtain ⟨kind, hkind, htests, hprobe⟩ := h.slot other hother
      refine ⟨kind, by rw [hkinds, if_neg hne, hkind], htests, fun hkindEq => ?_⟩
      rw [htest, hprobe hkindEq, if_neg (by simpa using Ne.symm hne)]
  armed := h.armed

lemma with_restore (h : Slotted limit) (restore : Option Restore) :
    Slotted { limit with restore := restore } :=
  { h with }

end Slotted

lemma rule_slotted : StepRule (C := C) (fun _ _ => True) Slotted where
  quiet hquiet h := by
    refine ⟨?_, ?_, ?_⟩
    · rw [hquiet.targets, hquiet.kinds]
      exact h.matched
    · rw [hquiet.testSlot, hquiet.kinds, hquiet.setups]
      exact h.slot
    · rw [hquiet.armed]
      exact h.armed
  conn id event now h := by
    refine ⟨?_, ?_, ?_⟩
    · rw [conn_targets, conn_kinds]
      exact h.matched
    · rw [conn_testSlot, conn_kinds, conn_test]
      exact h.slot
    · rw [conn_armed]
      exact h.armed
  plain target own _ hfree h := h.opened target own hfree
  given _ _ hfree h := h.opened _ _ hfree
  due _ hfree _ _ h := h.opened _ _ ⟨hfree.target, hfree.window⟩
  setup hfree _ h := h.opened _ _ hfree
  taken _ hfree h := h.unarmed.opened _ _ ⟨hfree.target, hfree.window⟩
  arm _ hplan h := by
    refine ⟨h.matched, h.slot, ?_⟩
    rintro _ _ _ ⟨⟩
    exact startablePlan_isTest hplan
  unarm h := h.unarmed
  disarmProbe _ h := { h with armed := by simp [rearm] }
  disarmSetup _ h := { h with armed := by simp [setupTestRearm] }
  endRestore now _ _ h := { h with }
  observed {limit now} _ h :=
    (show Slotted (limit.advance now) from { h with }).of_frame (frame_observedSuccess limit now)
  outage h := { h with }
  cleared h := { h with }
  restores _ _ _ _ h := { h with }
  lost htarget h := by
    have hkinds := h.kinds_lost htarget
    refine ⟨?_, ?_, h.armed⟩
    · rw [hkinds]
      exact h.matched
    · rw [hkinds]
      exact h.slot
  judged {limit attempt window stored outcome now} _ _ _ h := by
    have hretired := (show Slotted (limit.advance now) from { h with }).retire attempt
    exact (hretired.with_restore _).of_frame (frame_judged limit attempt window stored outcome now)

lemma slotted_new (h1 : 1 ≤ C) (adaptive : Bool) (spread : Spread) (table : Table) :
    Slotted ((new h1 adaptive spread).seed table) where
  matched attempt := by simp [kinds]
  slot attempt h := by simp at h
  armed kind target arm h := by simp at h

/-! ## The good `N` and the step's target -/

/-- The good `N` of an outage or a restore is at most the ceiling, and so is the
step's target. -/
structure Good (limit : Limit C) : Prop where
  lastGood : limit.lastGood ≤ C
  outage : ∀ good, limit.outage = some good → good ≤ C
  restore : ∀ restore, limit.restore = some restore →
    restore.good ≤ C ∧ 1 ≤ restore.target ∧ restore.target ≤ C

/-- A step's target is between `N` and the larger of `N` and the good one. -/
lemma stepTarget_bounds (limit : Limit C) (good : ℕ) :
    limit.fsm.n ≤ limit.stepTarget good ∧ limit.stepTarget good ≤ max limit.fsm.n good := by
  unfold stepTarget
  omega

lemma stepTarget_le {good : ℕ} (h : good ≤ C) :
    1 ≤ limit.stepTarget good ∧ limit.stepTarget good ≤ C := by
  have := stepTarget_bounds limit good
  have := limit.fsm.pos
  have := limit.fsm.le
  omega

lemma NRuled.lastGood {closed : ClosedWindow} {outcome : Outcome} {ruling : Ruling} {a b : Limit C}
    (h : NRuled closed outcome now ruling a b) (hgood : a.lastGood ≤ C) : b.lastGood ≤ C := by
  cases h with
  | raised _ _ _ _ _ _ hle | passed _ _ _ hle => exact hle hgood
  | _ => exact hgood

/-- A fresh success keeps its `N` as the last good one; nothing else changes it. -/
lemma lastGood_ruled (limit : Limit C) (closed : ClosedWindow) (now stored : ℕ) (outcome : Outcome)
    (h : limit.lastGood ≤ C) : (limit.ruled closed stored outcome now).2.lastGood ≤ C := by
  obtain ⟨notes, mid, hn, hs⟩ := ruled_spec limit closed stored outcome now
  exact le_trans (le_of_eq (congrArg Core.lastGood hs.core)) (hn.lastGood h)

lemma lastGood_settled (limit : Limit C) (before : ℕ × Fsm.State) (now : ℕ) :
    (limit.settled before now).lastGood = limit.lastGood := by
  unfold settled
  simp only
  split <;> split <;> rfl

namespace Good

lemma opened (h : Good limit) (target : ℕ) (own : Own) :
    Good (limit.opened attempt kind target own) where
  lastGood := by simpa using h.lastGood
  outage := by simpa using h.outage
  restore restore hrestore := by
    rw [opened_restore] at hrestore
    split at hrestore
    · obtain ⟨before, hbefore, rfl⟩ := Option.map_eq_some_iff.mp hrestore
      exact h.restore before hbefore
    · exact h.restore restore hrestore

lemma ruled (h : Good limit) (closed : ClosedWindow) (stored : ℕ) (outcome : Outcome) (now : ℕ) :
    Good (limit.ruled closed stored outcome now).2 := by
  have hframe := frame_ruled limit closed stored outcome now
  refine ⟨lastGood_ruled limit closed now stored outcome h.lastGood, ?_, ?_⟩
  · rw [hframe.outage]
    exact h.outage
  · rw [hframe.restore]
    exact h.restore

/-- The restore's progress keeps its good `N`, and a new step is bounded by it. -/
lemma restoreProgress (h : Good limit) (attempt : AttemptId) (kind : AttemptKind) (refused : Bool)
    (now : ℕ) : Good (limit.restoreProgress attempt kind refused now) := by
  have hprogressed := progressed limit attempt kind refused now
  generalize limit.restoreProgress attempt kind refused now = after at hprogressed ⊢
  cases hprogressed with
  | left => exact { h with restore := by simp }
  | idle => exact h
  | waits restore _ hrestore =>
    refine { h with restore := ?_ }
    rintro _ ⟨⟩
    simpa using h.restore restore hrestore
  | ends => exact { h with restore := by simp [endRestore, armTimer] }
  | doubles restore next _ hrestore _ _ hgood htarget =>
    refine { h with restore := ?_ }
    rintro _ ⟨⟩
    have hle := (h.restore restore hrestore).1
    rw [hgood, htarget]
    exact ⟨hle, stepTarget_le hle⟩

lemma settled (h : Good limit) (before : ℕ × Fsm.State) (now : ℕ) :
    Good (limit.settled before now) := by
  have hframe := frame_settled limit before now
  refine ⟨?_, ?_, ?_⟩
  · rw [lastGood_settled]
    exact h.lastGood
  · rw [hframe.outage]
    exact h.outage
  · rw [hframe.restore]
    exact h.restore

end Good

lemma rule_good : StepRule (C := C) (fun _ _ => True) Good where
  quiet hquiet h := by
    refine ⟨?_, ?_, ?_⟩
    · rw [hquiet.lastGood]
      exact h.lastGood
    · rw [hquiet.outage]
      exact h.outage
    · rw [hquiet.restore]
      exact h.restore
  conn id event now h := by
    refine ⟨?_, ?_, ?_⟩
    · rw [conn_lastGood]
      exact h.lastGood
    · rw [conn_outage]
      exact h.outage
    · rw [conn_restore]
      exact h.restore
  plain target own _ _ h := h.opened target own
  given _ _ _ h := h.opened _ _
  due _ _ _ _ h := h.opened _ _
  setup _ _ h := h.opened _ _
  taken {limit attempt kind target arm own} _ _ h :=
    (show Good { limit with armed := none } from { h with }).opened target own
  arm _ hplan h := { h with }
  unarm h := { h with }
  disarmProbe _ h := { h with }
  disarmSetup _ h := { h with }
  endRestore now _ _ h := { h with restore := by simp [endRestore, armTimer] }
  observed {limit now} _ h := by
    have hsuccess : Good { limit.advance now with
          fsm := limit.fsm.success (limit.table.advance now).connected
          lastGood := (limit.fsm.success (limit.table.advance now).connected).n } :=
      { h with lastGood := Fsm.le _ }
    exact hsuccess.settled (limit.fsm.n, limit.fsm.state) now
  outage {limit} h := by
    refine { h with outage := ?_ }
    rintro good ⟨⟩
    cases houtage : limit.outage with
    | none => exact h.lastGood
    | some good => exact h.outage good houtage
  cleared h := { h with outage := by simp }
  restores houtage _ _ _ h := by
    refine { h with outage := by simp [restoring], restore := ?_ }
    rintro _ ⟨⟩
    exact ⟨h.outage _ houtage, stepTarget_le (h.outage _ houtage)⟩
  lost _ h := { h with }
  judged {limit attempt window stored outcome now} _ _ _ h := by
    have hretired : Good ((limit.advance now).retire attempt) := { h with }
    have hruled := hretired.ruled window.close stored outcome now
    exact (hruled.restoreProgress attempt window.kind (Outcome.isRefused outcome) now).settled _ now

lemma good_new (h1 : 1 ≤ C) (adaptive : Bool) (spread : Spread) (table : Table) :
    Good ((new h1 adaptive spread).seed table) where
  lastGood := le_refl _
  outage good h := by simp at h
  restore restore h := by simp at h

/-! ## Targets of the tests of `N` -/

/-- Every test of `N` in flight or armed has a target between one and the ceiling. -/
structure TestsFit (limit : Limit C) : Prop where
  inFlight : ∀ attempt kind target, limit.kinds attempt = some kind → kind.isNTest = true →
    limit.targets[attempt]? = some target → 1 ≤ target ∧ target ≤ C
  armed : ∀ kind target arm, limit.armed = some (kind, target, arm) → kind.isNTest = true →
    1 ≤ target ∧ target ≤ C

/-- A confirming test finds room below the ceiling, and a test of `N` that the
caller begins itself has a target between one and the ceiling. -/
def confirmsBelowCeiling (limit : Limit C) (timed : TimedCall) : Bool :=
  match timed.call with
  | .beginAttempt _ kind target _ _ => !kind.isNTest || (1 ≤ target && target ≤ C)
  | .admitAttempt _ .confirming _ _ | .armTest _ =>
    !limit.confirmation || (limit.table.advance timed.now).connected < C
  | _ => true

attribute [local simp] confirmsBelowCeiling

/-- A probe is due below the ceiling; a confirming test fits if what is connected does. -/
lemma duePlan_target {plan : TestPlan} (h : limit.duePlan now = some plan)
    (hroom : plan.kind = .confirming → limit.confirmation = true → limit.table.connected < C) :
    1 ≤ plan.target ∧ plan.target ≤ C := by
  obtain ⟨-, -, ⟨hconfirmation, hkind, htarget⟩ | ⟨-, htarget, hstate⟩⟩ := duePlan_spec h
  · have := hroom hkind hconfirmation
    omega
  · have hsaturated := limit.fsm.saturated_iff
    have hle := limit.fsm.le
    have hn : limit.fsm.n ≠ C := by
      intro heq
      rcases hstate with hstate | hstate <;> simp [hstate, heq] at hsaturated
    omega

namespace TestsFit

lemma opened (h : TestsFit limit) (own : Own)
    (hfits : kind.isNTest = true → 1 ≤ target ∧ target ≤ C) :
    TestsFit (limit.opened attempt kind target own) where
  inFlight other held given hheld htest hgiven := by
    rw [kinds_opened] at hheld
    rw [opened_targets] at hgiven
    by_cases heq : attempt = other
    · subst heq
      simp only [if_true, Option.some.injEq] at hheld
      have hgiven : target = given := by simpa using hgiven
      subst hheld hgiven
      exact hfits htest
    · rw [if_neg heq] at hheld
      rw [get_insert_of_ne _ _ heq] at hgiven
      exact h.inFlight other held given hheld htest hgiven
  armed := by simpa using h.armed

end TestsFit

lemma rule_testsFit :
    StepRule (C := C) (fun limit timed => confirmsBelowCeiling limit timed = true) TestsFit where
  quiet hquiet h := by
    refine ⟨?_, ?_⟩
    · rw [hquiet.kinds, hquiet.targets]
      exact h.inFlight
    · rw [hquiet.armed]
      exact h.armed
  conn id event now h := by
    refine ⟨?_, ?_⟩
    · rw [conn_kinds, conn_targets]
      exact h.inFlight
    · rw [conn_armed]
      exact h.armed
  plain target own hplain _ h := h.opened own fun htest => by
    simp [isNTest_of_plain hplain] at htest
  given hallowed _ _ h := h.opened _ fun htest => by
    simpa [htest] using hallowed
  due {limit attempt start own clocked now plan} hallowed _ hplan hstart h := by
    refine h.opened own fun _ => duePlan_target hplan fun hkind hconfirmation => ?_
    obtain rfl := hstart hkind
    have hconfirmation : limit.confirmation = true := hconfirmation
    simpa [hconfirmation, advance] using hallowed
  setup _ _ h := h.opened _ fun htest => by simp [isNTest] at htest
  taken {limit attempt kind target arm own} harmed _ h := by
    have hunarmed : TestsFit { limit with armed := none } := { h with armed := by simp }
    exact hunarmed.opened own (h.armed kind target arm harmed)
  arm {limit carrierFinal now plan} hallowed hplan h := by
    refine { h with armed := ?_ }
    rintro _ _ _ ⟨⟩ htest
    rcases startablePlan_cases hplan with hdue | hsetup
    · refine duePlan_target hdue fun _ hconfirmation => ?_
      have hconfirmation : limit.confirmation = true := hconfirmation
      simpa [hconfirmation, advance] using hallowed
    · obtain ⟨-, -, -, hkind, -⟩ := setupPlan_spec hsetup
      simp [hkind, isNTest] at htest
  unarm h := { h with armed := by simp }
  disarmProbe _ h := { h with armed := by simp [rearm] }
  disarmSetup _ h := { h with armed := by simp [setupTestRearm] }
  endRestore now _ _ h := { h with }
  observed {limit now} _ h := by
    have hframe := frame_observedSuccess limit now
    refine ⟨?_, ?_⟩
    · rw [hframe.kinds, hframe.targets]
      exact h.inFlight
    · rw [hframe.armed]
      exact h.armed
  outage h := { h with }
  cleared h := { h with }
  restores _ _ _ _ h := { h with }
  lost {limit attempt} _ h := by
    refine { h with inFlight := fun other kind target hkind => ?_ }
    rw [kinds_erase] at hkind
    split at hkind
    · simp at hkind
    · exact h.inFlight other kind target hkind
  judged {limit attempt window stored outcome now} _ _ _ h := by
    refine ⟨fun other kind target hkind htest htarget => ?_, ?_⟩
    · rw [kinds_judged] at hkind
      rw [targets_judged] at htarget
      split at hkind
      · simp at hkind
      · rename_i hne
        rw [if_neg hne] at htarget
        exact h.inFlight other kind target hkind htest htarget
    · rw [(frame_judged limit attempt window stored outcome now).armed]
      exact h.armed

lemma testsFit_new (h1 : 1 ≤ C) (adaptive : Bool) (spread : Spread) (table : Table) :
    TestsFit ((new h1 adaptive spread).seed table) where
  inFlight attempt kind target h := by simp [kinds] at h
  armed kind target arm h := by simp at h

/-! ## The pool's limit over every run -/

lemma roomTarget_bounds (h : Good limit) : 1 ≤ limit.roomTarget ∧ limit.roomTarget ≤ C := by
  unfold roomTarget
  split
  · exact ⟨limit.fsm.pos, limit.fsm.le⟩
  · rename_i restore hrestore
    exact (h.restore restore hrestore).2

/-- The slot's target is that of a test of `N` in flight. -/
lemma slotTarget_of_test (h : Slotted limit) (hslot : limit.slotTarget = some target) :
    ∃ attempt kind, limit.kinds attempt = some kind ∧ kind.isNTest = true ∧
      limit.targets[attempt]? = some target := by
  unfold slotTarget at hslot
  split at hslot
  · simp at hslot
  · rename_i attempt hattempt
    obtain ⟨kind, hkind, htest, hprobe⟩ := h.slot attempt hattempt
    split at hslot
    · simp at hslot
    · rename_i hother
      refine ⟨attempt, kind, hkind, ?_, hslot⟩
      cases kind with
      | setupProbe => exact absurd (hprobe rfl) hother
      | probe | confirming => rfl
      | ordinary | restore => simp at htest

lemma armedTarget_of_test (h : Slotted limit) (harmed : limit.armedTarget = some target) :
    ∃ kind arm, limit.armed = some (kind, target, arm) ∧ kind.isNTest = true := by
  unfold armedTarget at harmed
  split at harmed
  · simp at harmed
  · rename_i kind given arm hgiven
    have htest := h.armed kind given arm hgiven
    split at harmed
    · simp at harmed
    · rename_i hkind
      obtain rfl := Option.some.inj harmed
      refine ⟨kind, arm, hgiven, ?_⟩
      cases kind with
      | setupProbe => exact absurd rfl hkind
      | probe | confirming => rfl
      | ordinary | restore => simp at htest

/-- The pool's limit is the target of a test of `N`, or the room target when none
is in flight or armed. -/
lemma poolLimit_cases (limit : Limit C) :
    (∃ target, limit.slotTarget = some target ∧ limit.poolLimit = target) ∨
      (∃ target, limit.armedTarget = some target ∧ limit.poolLimit = target) ∨
      limit.poolLimit = limit.roomTarget := by
  unfold poolLimit
  cases limit.slotTarget with
  | some target => exact .inl ⟨target, rfl, rfl⟩
  | none =>
    cases limit.armedTarget with
    | some target => exact .inr (.inl ⟨target, rfl, rfl⟩)
    | none => exact .inr (.inr rfl)

/-- In every run whose confirming tests find room below the ceiling, the limit the
pool is given is at least one and at most the ceiling in every state. -/
theorem poolLimit_between_one_and_ceiling (h1 : 1 ≤ C) (adaptive : Bool) (spread : Spread)
    (table : Table) (calls : List TimedCall)
    (hmeets : Steps.Meets (fun limit timed => confirmsBelowCeiling limit timed = true) Limit.step
      ((Limit.new h1 adaptive spread).seed table) calls) :
    1 ≤ (Limit.run h1 adaptive spread table calls).poolLimit ∧
      (Limit.run h1 adaptive spread table calls).poolLimit ≤ C := by
  have hslotted := rule_slotted.run_all (slotted_new h1 adaptive spread table) calls
  have hgood := rule_good.run_all (good_new h1 adaptive spread table) calls
  have hfit := rule_testsFit.run (testsFit_new h1 adaptive spread table) hmeets
  rcases poolLimit_cases (Limit.run h1 adaptive spread table calls) with
    ⟨target, hslot, heq⟩ | ⟨target, harmed, heq⟩ | heq
  · obtain ⟨attempt, kind, hkind, htest, htarget⟩ := slotTarget_of_test hslotted hslot
    rw [heq]
    exact hfit.inFlight attempt kind target hkind htest htarget
  · obtain ⟨kind, arm, hgiven, htest⟩ := armedTarget_of_test hslotted harmed
    rw [heq]
    exact hfit.armed kind target arm hgiven htest
  · rw [heq]
    exact roomTarget_bounds hgood

/-- A suspected refusal with two connections in flight asks for a confirmation at a
ceiling of two; both slots are then connected when the confirming test is armed. -/
def confirmAtCeiling : List TimedCall :=
  [⟨.beginAttempt 1 .ordinary 2 (.new 1) true, 0⟩,
    ⟨.beginAttempt 2 .ordinary 2 (.new 2) true, 1⟩,
    ⟨.conn 1 .setupEnded, 2⟩,
    ⟨.result 1 (.refused .suspect none false), 2⟩,
    ⟨.conn 2 .connected, 3⟩,
    ⟨.result 2 (.succeeded true), 3⟩,
    ⟨.conn 3 (.started true), 4⟩,
    ⟨.conn 3 .connected, 5⟩,
    ⟨.setDemand 1 1, 6⟩,
    ⟨.armTest false, 7⟩]

/-- The confirming test is armed at one above the ceiling. -/
theorem confirming_exceeds_ceiling :
    (Limit.run (C := 2) (by decide) true ⟨fun _ => 1000, 0⟩ {} confirmAtCeiling).poolLimit = 3 := by
  decide +kernel

/-- A refused start, then a probe of the limit it left, armed and begun. -/
def probeBelowCeiling : List TimedCall :=
  [⟨.beginAttempt 1 .ordinary 3 (.new 1) true, 0⟩,
    ⟨.conn 1 .connected, 1⟩,
    ⟨.beginAttempt 2 .ordinary 3 (.new 2) true, 2⟩,
    ⟨.conn 2 .setupEnded, 3⟩,
    ⟨.result 2 (.refused .throttle none false), 3⟩,
    ⟨.setDemand 1 1, 4⟩,
    ⟨.armTest false, 2000⟩,
    ⟨.beginArmed 3 (.new 3) true, 2001⟩]

/-- Below the ceiling the confirming test is armed, and a probe begun, within it. -/
theorem poolLimit_of_tests_at_three :
    let confirmed := Limit.run (C := 3) (by decide) true ⟨fun _ => 1000, 0⟩ {} confirmAtCeiling
    let probed := Limit.run (C := 3) (by decide) true ⟨fun _ => 1000, 0⟩ {} probeBelowCeiling
    (confirmed.confirmation = true ∧ confirmed.armed.map Prod.fst = some .confirming ∧
      1 ≤ confirmed.poolLimit ∧ confirmed.poolLimit ≤ 3) ∧
    probed.poolLimit = 2 ∧ 1 ≤ probed.poolLimit ∧ probed.poolLimit ≤ 3 :=
  ⟨⟨by decide +kernel, by decide +kernel,
    poolLimit_between_one_and_ceiling (by decide) true ⟨fun _ => 1000, 0⟩ {} confirmAtCeiling
      (Steps.Meets.of_meets (by decide +kernel))⟩, by decide +kernel,
    poolLimit_between_one_and_ceiling (by decide) true ⟨fun _ => 1000, 0⟩ {} probeBelowCeiling
      (Steps.Meets.of_meets (by decide +kernel))⟩

end GwzCore.SetupRetry.Limit
