import GwzCore.SetupRetry.PoolLimit

/-!
# The restore step and the machine's state

A restore step is held exactly while the machine is restoring, and its target is
between `N` and the larger of `N` and the good one. The result of an attempt keeps
this: a result that leaves the restore drops the step. A success that another
operation's connection reports does not look at the step, so the agreement holds
in the runs whose successes find no more connected than the step's target.
-/
namespace GwzCore.SetupRetry.Limit
open Option Fsm Limit

variable {C : ℕ} {limit : Limit C} {attempt : AttemptId} {now : ℕ} {a b : Limit C}

attribute [local simp] Limit.endRestore armTimer

/-! ## What a ruling does to the machine -/

/-- The machine after a ruling, as the restore sees it: where it was, raised by a
success, or out of the restore. -/
inductive Seen (connected : ℕ) (outcome : Outcome) (a b : Fsm C) : Prop where
  | kept (hn : b.n = a.n) (hstate : b.state = .restoring ↔ a.state = .restoring)
  | raised (fresh : Bool) (houtcome : outcome = .succeeded fresh)
      (hn : b.n = (a.success connected).n)
      (hstate : b.state = .restoring ↔ (a.success connected).state = .restoring)
  | left (hstate : b.state ≠ .restoring)

lemma Seen.refl (connected : ℕ) (outcome : Outcome) (a : Fsm C) : Seen connected outcome a a :=
  .kept rfl Iff.rfl

lemma NRuled.seen {closed : ClosedWindow} {outcome : Outcome} {ruling : Ruling}
    (h : NRuled closed outcome now ruling a b) : Seen a.table.connected outcome a.fsm b.fsm := by
  cases h with
  | again => exact .kept n_testInconclusive testInconclusive_restoring
  | raised fresh _ _ houtcome => exact .raised fresh houtcome rfl Iff.rfl
  | passed _ _ houtcome =>
    exact .raised true houtcome (n_testSucceeded _ _) (testPassed_restoring _)
  | overloaded =>
    refine .left fun hstate => ?_
    rcases a.fsm.state_overload a.table.connected closed.hi with h | h
    · simp [h] at hstate
    · simp [h] at hstate
  | refused => exact .kept n_probeRefused probeRefused_restoring
  | _ => exact .refl _ _ _

lemma seen_ruled (limit : Limit C) (closed : ClosedWindow) (stored : ℕ) (outcome : Outcome)
    (now : ℕ) :
    Seen limit.table.connected outcome limit.fsm (limit.ruled closed stored outcome now).2.fsm := by
  obtain ⟨notes, mid, hn, hs⟩ := ruled_spec limit closed stored outcome now
  have hfsm : (limit.ruled closed stored outcome now).2.fsm = mid.fsm := congrArg Core.fsm hs.core
  rw [hfsm]
  exact hn.seen

lemma fsm_settled (limit : Limit C) (before : ℕ × Fsm.State) (now : ℕ) :
    (limit.settled before now).fsm = limit.fsm := by
  unfold settled
  simp only
  split <;> split <;> rfl

lemma setups_settled (limit : Limit C) (before : ℕ × Fsm.State) (now : ℕ) :
    (limit.settled before now).setups = limit.setups := by
  unfold settled
  simp only
  split <;> split <;> rfl

/-! ## The agreement -/

/-- The step is held exactly while restoring, with a target between `N` and the
larger of `N` and the good one. -/
structure Agrees (limit : Limit C) : Prop extends Good limit where
  held : limit.restore.isSome = true ↔ limit.fsm.state = .restoring
  covers : ∀ restore, limit.restore = some restore →
    limit.fsm.n ≤ restore.target ∧ restore.target ≤ max limit.fsm.n restore.good

/-- A success while a step is held finds no more connected than the step's target;
another operation's also leaves the ceiling unreached. -/
def stepCoversSuccess (limit : Limit C) (timed : TimedCall) : Bool :=
  match timed.call, limit.restore with
  | .observedSuccess, some restore =>
    let connected := (limit.table.advance timed.now).connected
    connected ≤ restore.target && connected < C
  | .result _ (.succeeded _), some restore =>
    let connected := (limit.table.advance timed.now).connected
    connected ≤ restore.target || C ≤ connected
  | _, _ => true

namespace Agrees

/-- The agreement speaks of the step, the machine and the good `N` only. -/
lemma of_eq (h : Agrees a) (hgood : Good b) (hrestore : b.restore = a.restore)
    (hn : b.fsm.n = a.fsm.n) (hstate : b.fsm.state = .restoring ↔ a.fsm.state = .restoring) :
    Agrees b where
  toGood := hgood
  held := by
    rw [hrestore, hstate]
    exact h.held
  covers := by
    rw [hrestore, hn]
    exact h.covers

lemma opened (h : Agrees limit) {kind : AttemptKind} (target : ℕ) (own : Own) :
    Agrees (limit.opened attempt kind target own) where
  toGood := h.toGood.opened target own
  held := by
    have hstate : (limit.opened attempt kind target own).fsm.state = .restoring ↔
        limit.fsm.state = .restoring := by
      rw [opened_fsm]
      split
      · exact testStarted_restoring
      · rfl
    rw [hstate, opened_restore]
    split
    · simpa using h.held
    · exact h.held
  covers restore hrestore := by
    rw [opened_restore] at hrestore
    rw [opened_n]
    split at hrestore
    · obtain ⟨before, hbefore, rfl⟩ := map_eq_some_iff.mp hrestore
      exact h.covers before hbefore
    · exact h.covers restore hrestore

/-- A result keeps the agreement: out of the restore the step goes, and in it `N` is
below the step's target, which the success did not pass. -/
lemma progressed (h : Agrees a) (hgood : Good b) (hrestore : b.restore = a.restore)
    {connected : ℕ} {outcome : Outcome} (hseen : Seen connected outcome a.fsm b.fsm)
    (hcovers : ∀ fresh restore, outcome = .succeeded fresh → a.restore = some restore →
      connected ≤ restore.target ∨ C ≤ connected)
    (attempt : AttemptId) (kind : AttemptKind) (refused : Bool) (now : ℕ) :
    Agrees (b.restoreProgress attempt kind refused now) := by
  have hafter := hgood.restoreProgress attempt kind refused now
  -- while the machine still restores, `N` has risen no further than the step's target
  have hstep : b.fsm.state = .restoring → ∀ restore, b.restore = some restore →
      b.fsm.n ≤ restore.target ∧ restore.target ≤ max b.fsm.n restore.good := by
    intro hstate restore hheld
    rw [hrestore] at hheld
    have hbefore := h.covers restore hheld
    cases hseen with
    | kept hn =>
      rw [hn]
      exact hbefore
    | raised fresh houtcome hn hraised =>
      obtain ⟨-, hlt⟩ := (success_restoring connected).mp (hraised.mp hstate)
      have hreach := hcovers fresh restore houtcome hheld
      rw [hn]
      rw [n_success] at hlt ⊢
      omega
    | left hout => exact absurd hstate hout
  have hidle : b.fsm.state = .restoring → b.restore ≠ none := by
    intro hstate hnone
    have hbefore : a.fsm.state = .restoring := by
      cases hseen with
      | kept _ hkept => exact hkept.mp hstate
      | raised _ _ _ hraised => exact ((success_restoring connected).mp (hraised.mp hstate)).1
      | left hout => exact absurd hstate hout
    have hsome := h.held.mpr hbefore
    rw [← hrestore, hnone] at hsome
    simp at hsome
  have hprogressed := Limit.progressed b attempt kind refused now
  generalize b.restoreProgress attempt kind refused now = after at hprogressed hafter ⊢
  refine { hafter with held := ?_, covers := ?_ }
  · cases hprogressed with
    | left hstate | waits restore hstate | doubles restore next hstate => simp [hstate]
    | idle hstate hnone => exact absurd hnone (hidle hstate)
    | ends =>
      have hout := b.fsm.endRestore_ne_restoring
      simp [hout]
  · cases hprogressed with
    | left => simp
    | idle hstate => exact hstep hstate
    | waits restore hstate hheld =>
      rintro _ ⟨⟩
      simpa using hstep hstate restore hheld
    | ends => simp
    | doubles restore next hstate hheld _ _ hgood htarget =>
      rintro _ ⟨⟩
      rw [hgood, htarget]
      exact stepTarget_bounds b restore.good

lemma settled (h : Agrees limit) (before : ℕ × Fsm.State) (now : ℕ) :
    Agrees (limit.settled before now) :=
  h.of_eq (h.toGood.settled before now) (frame_settled limit before now).restore
    (by rw [fsm_settled]) (by rw [fsm_settled])

/-- A success that another operation reports keeps the agreement if the step's target
and the ceiling are above what is connected. -/
lemma observedSuccess (h : Agrees limit) {connected : ℕ}
    (hcovers : ∀ restore, limit.restore = some restore → connected ≤ restore.target ∧ connected < C)
    (hgood : Good { limit with
      fsm := limit.fsm.success connected, lastGood := (limit.fsm.success connected).n }) :
    Agrees { limit with
      fsm := limit.fsm.success connected, lastGood := (limit.fsm.success connected).n } := by
  have hn := limit.fsm.n_success connected
  refine { hgood with held := ?_, covers := ?_ }
  · simp only [success_restoring]
    cases hrestore : limit.restore with
    | none =>
      have hstate : limit.fsm.state ≠ .restoring := by simpa [hrestore] using h.held
      simp [hstate]
    | some restore =>
      have hstate : limit.fsm.state = .restoring := h.held.mp (by simp [hrestore])
      have hlt : limit.fsm.n < C := by
        refine lt_of_le_of_ne limit.fsm.le fun heq => ?_
        simp [limit.fsm.saturated_iff.mpr heq] at hstate
      have := (hcovers restore hrestore).2
      simp only [hstate, true_and, isSome_some, true_iff]
      omega
  · intro restore hrestore
    have hbefore := h.covers restore hrestore
    have := hcovers restore hrestore
    have := limit.fsm.le
    simp only [hn]
    omega

end Agrees

lemma rule_agrees :
    StepRule (C := C) (fun limit timed => stepCoversSuccess limit timed = true) Agrees where
  quiet hquiet h :=
    h.of_eq (rule_good.quiet hquiet h.toGood) hquiet.restore (by rw [hquiet.fsm])
      (by rw [hquiet.fsm])
  conn id event now h :=
    h.of_eq (rule_good.conn id event now h.toGood) (by simp) (by simp) (by simp)
  plain target own _ _ h := h.opened target own
  given _ _ _ h := h.opened _ _
  due _ _ _ _ h := h.opened _ _
  setup _ _ h := h.opened _ _
  taken {limit attempt kind target arm own} _ _ h :=
    (h.of_eq (rule_good.unarm h.toGood) rfl rfl Iff.rfl).opened target own
  arm _ _ h := h.of_eq { h.toGood with } rfl rfl Iff.rfl
  unarm h := h.of_eq (rule_good.unarm h.toGood) rfl rfl Iff.rfl
  disarmProbe harmed h :=
    h.of_eq (rule_good.disarmProbe harmed h.toGood) rfl n_testInconclusive
      testInconclusive_restoring
  disarmSetup harmed h := h.of_eq (rule_good.disarmSetup harmed h.toGood) rfl rfl Iff.rfl
  endRestore {limit restore} now hrestore hempty h := by
    have hout := limit.fsm.endRestore_ne_restoring
    refine { rule_good.endRestore now hrestore hempty h.toGood with held := ?_, covers := ?_ }
    · simp [hout]
    · simp
  observed {limit now} hallowed h := by
    have hadvance : Agrees (limit.advance now) := h.of_eq { h.toGood with } rfl rfl Iff.rfl
    have hcovers : ∀ restore, limit.restore = some restore →
        (limit.table.advance now).connected ≤ restore.target ∧
          (limit.table.advance now).connected < C := by
      intro restore hrestore
      simpa [stepCoversSuccess, hrestore] using hallowed
    have hsuccess := hadvance.observedSuccess hcovers { h.toGood with lastGood := le _ }
    exact hsuccess.settled (limit.fsm.n, limit.fsm.state) now
  outage h := h.of_eq (rule_good.outage h.toGood) rfl rfl Iff.rfl
  cleared h := h.of_eq (rule_good.cleared h.toGood) rfl rfl Iff.rfl
  restores {limit good} houtage hadaptive hn hnone h := by
    have hlt : limit.fsm.n < C := lt_of_lt_of_le hn (h.outage good houtage)
    refine { rule_good.restores houtage hadaptive hn hnone h.toGood with held := ?_, covers := ?_ }
    · simp [restoring, beginRestore_restoring hlt]
    · rintro _ ⟨⟩
      exact stepTarget_bounds { limit with fsm := limit.fsm.beginRestore, outage := none } good
  lost htarget h := h.of_eq { h.toGood with } rfl rfl Iff.rfl
  judged {limit attempt window stored outcome now} hallowed hwindow htarget h := by
    have hframe := frame_ruled ((limit.advance now).retire attempt) window.close stored outcome now
    have hretired : Agrees ((limit.advance now).retire attempt) :=
      h.of_eq { h.toGood with } rfl rfl Iff.rfl
    have hgood := hretired.toGood.ruled window.close stored outcome now
    have hcovers : ∀ fresh restore, outcome = .succeeded fresh → limit.restore = some restore →
        (limit.table.advance now).connected ≤ restore.target ∨
          C ≤ (limit.table.advance now).connected := by
      rintro fresh restore rfl hrestore
      simpa [stepCoversSuccess, hrestore] using hallowed
    have hprogressed := hretired.progressed hgood hframe.restore
      (seen_ruled ((limit.advance now).retire attempt) window.close stored outcome now)
        hcovers attempt
      window.kind (Outcome.isRefused outcome) now
    exact hprogressed.settled (limit.fsm.n, limit.fsm.state) now

lemma agrees_new (h1 : 1 ≤ C) (adaptive : Bool) (spread : Spread) (table : Table) :
    Agrees ((new h1 adaptive spread).seed table) where
  toGood := good_new h1 adaptive spread table
  held := by simp [new, Fsm.new, seed]
  covers restore h := by simp [new, seed] at h

/-- With no test of `N` in flight or armed the pool's limit is the room target. -/
lemma poolLimit_of_no_test (h : Slotted limit)
    (hflight : ∀ attempt kind, limit.kinds attempt = some kind → kind.isNTest = false)
    (harmed : ∀ kind target arm, limit.armed = some (kind, target, arm) → kind.isNTest = false) :
    limit.poolLimit = limit.roomTarget := by
  rcases poolLimit_cases limit with ⟨target, hslot, -⟩ | ⟨target, hgiven, -⟩ | heq
  · obtain ⟨attempt, kind, hkind, htest, -⟩ := slotTarget_of_test h hslot
    simp [hflight attempt kind hkind] at htest
  · obtain ⟨kind, arm, hgiven, htest⟩ := armedTarget_of_test h hgiven
    simp [harmed kind target arm hgiven] at htest
  · exact heq

/-- In every run whose successes a held step covers, the step is held exactly while
the machine restores; and with no test of `N` armed or in flight the pool's limit is
the ceiling when saturated, the step's target when restoring, between `N` and the
larger of `N` and the good one, and `N` otherwise. -/
theorem restore_held_iff_restoring (h1 : 1 ≤ C) (adaptive : Bool) (spread : Spread) (table : Table)
    (calls : List TimedCall)
    (hmeets : Steps.Meets (fun limit timed => stepCoversSuccess limit timed = true) Limit.step
      ((Limit.new h1 adaptive spread).seed table) calls) :
    let limit := Limit.run h1 adaptive spread table calls
    (limit.restore.isSome = true ↔ limit.fsm.state = .restoring) ∧
    ((∀ attempt kind, limit.kinds attempt = some kind → kind.isNTest = false) →
      (∀ kind target arm, limit.armed = some (kind, target, arm) → kind.isNTest = false) →
      (limit.fsm.state = .saturated → limit.poolLimit = C) ∧
      (limit.fsm.state ≠ .restoring → limit.poolLimit = limit.fsm.n) ∧
      (∀ restore, limit.restore = some restore → limit.poolLimit = restore.target ∧
        limit.fsm.n ≤ restore.target ∧ restore.target ≤ max limit.fsm.n restore.good)) := by
  intro limit
  have hslotted : Slotted limit := rule_slotted.run_all (slotted_new h1 adaptive spread table) calls
  have hagrees : Agrees limit := rule_agrees.run (agrees_new h1 adaptive spread table) hmeets
  refine ⟨hagrees.held, fun hflight harmed => ?_⟩
  have hpool := poolLimit_of_no_test hslotted hflight harmed
  have hout : limit.fsm.state ≠ .restoring → limit.poolLimit = limit.fsm.n := by
    intro hstate
    have hnone : limit.restore = none := by
      have := mt hagrees.held.mp hstate
      simpa using this
    rw [hpool, roomTarget, hnone]
  refine ⟨fun hstate => ?_, hout, fun restore hrestore => ?_⟩
  · rw [hout (by simp [hstate]), limit.fsm.saturated_iff.mp hstate]
  · refine ⟨?_, hagrees.covers restore hrestore⟩
    rw [hpool, roomTarget, hrestore]

/-- A key that was refused at two connections during an outage, recovers and begins
to restore, with a first step to two. -/
def restoringToThree : List TimedCall :=
  [⟨.beginAttempt 1 .ordinary 3 (.new 1) true, 0⟩,
    ⟨.conn 1 .connected, 1⟩,
    ⟨.result 1 (.succeeded true), 1⟩,
    ⟨.beginOutage, 2⟩,
    ⟨.beginAttempt 2 .ordinary 3 (.new 2) true, 2⟩,
    ⟨.conn 2 .setupEnded, 3⟩,
    ⟨.result 2 (.refused .throttle none false), 3⟩,
    ⟨.recovered, 4⟩]

/-- Another operation connects two more before its success is reported. -/
def restoredByAnother : List TimedCall :=
  restoringToThree ++
    [⟨.conn 3 (.started true), 5⟩,
      ⟨.conn 3 .connected, 6⟩,
      ⟨.conn 4 (.started true), 7⟩,
      ⟨.conn 4 .connected, 8⟩,
      ⟨.observedSuccess, 9⟩]

/-- The machine is saturated with the step still held, and the pool keeps the step's
target as its limit. -/
theorem observed_success_strands_step :
    let limit := Limit.run (C := 3) (by decide) true ⟨fun _ => 1000, 0⟩ {} restoredByAnother
    limit.fsm.state = .saturated ∧ limit.restore.isSome = true ∧ limit.windows.isEmpty = true ∧
      limit.armed = none ∧ limit.poolLimit = 2 := by
  decide +kernel

/-- Another operation connects one more, as many as the step aims at. -/
def coveredByStep : List TimedCall :=
  restoringToThree ++
    [⟨.conn 3 (.started true), 5⟩, ⟨.conn 3 .connected, 6⟩, ⟨.observedSuccess, 7⟩]

/-- The success raises `N` to the step's target, and the restore goes on. -/
theorem restore_held_iff_restoring_to_three :
    let limit := Limit.run (C := 3) (by decide) true ⟨fun _ => 1000, 0⟩ {} coveredByStep
    limit.fsm.state = .restoring ∧ limit.fsm.n = 2 ∧
      (limit.restore.isSome = true ↔ limit.fsm.state = .restoring) :=
  ⟨by decide +kernel, by decide +kernel,
    (restore_held_iff_restoring (by decide) true ⟨fun _ => 1000, 0⟩ {} coveredByStep
      (Steps.Meets.of_meets (by decide +kernel))).1⟩

end GwzCore.SetupRetry.Limit
