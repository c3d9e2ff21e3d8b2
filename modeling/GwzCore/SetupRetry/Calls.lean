import GwzCore.SetupRetry.Control

/-!
# What a call may do

Most calls on a key only bring its table forward, move its hold or its notes:
they keep its core, the fields that the machines, the tests and the restore are
made of. The rest open a window, close one with a result, arm or disarm a test,
or move a machine. `StepRule` lists these once, and an invariant that has each of
them survives every call.
-/
namespace GwzCore.SetupRetry
open FiniteMap Option Limit

variable {outcome : Outcome} {plan : TestPlan} {own : Own} {carrierFinal : Bool}

/-- The fields of a key its invariants are about; of a window, its attempt's kind. -/
structure Core (C : ℕ) where
  adaptive : Bool
  fsm : Fsm C
  timer : Timer
  targets : FiniteMap AttemptId ℕ
  kinds : AttemptId → Option AttemptKind
  testSlot : Option AttemptId
  armed : Option (AttemptKind × ℕ × ℕ)
  confirmation : Bool
  lastGood : ℕ
  outage : Option ℕ
  restore : Option Restore
  setups : SetupLimit C

namespace Limit

variable {C : ℕ} {limit : Limit C} {attempt : AttemptId} {now : ℕ}

/-- The kind of the attempt's window, if it is in flight. -/
def kinds (limit : Limit C) (attempt : AttemptId) : Option AttemptKind :=
  limit.windows[attempt]?.map (·.kind)

def core (limit : Limit C) : Core C where
  adaptive := limit.adaptive
  fsm := limit.fsm
  timer := limit.timer
  targets := limit.targets
  kinds := limit.kinds
  testSlot := limit.testSlot
  armed := limit.armed
  confirmation := limit.confirmation
  lastGood := limit.lastGood
  outage := limit.outage
  restore := limit.restore
  setups := limit.setups

/-- Nothing of the core moves, nor any setup that has a clock. -/
structure Quiet (a b : Limit C) : Prop where
  core : b.core = a.core
  clocked : ∀ conn, b.table.isClockedSetup conn = a.table.isClockedSetup conn

namespace Quiet

variable {a b c : Limit C}

section

variable (h : Quiet a b)
include h

lemma trans (h' : Quiet b c) : Quiet a c :=
  ⟨h'.core.trans h.core, fun conn => (h'.clocked conn).trans (h.clocked conn)⟩

lemma adaptive : b.adaptive = a.adaptive := congrArg Core.adaptive h.core

lemma fsm : b.fsm = a.fsm := congrArg Core.fsm h.core

lemma timer : b.timer = a.timer := congrArg Core.timer h.core

lemma targets : b.targets = a.targets := congrArg Core.targets h.core

lemma kinds : b.kinds = a.kinds := congrArg Core.kinds h.core

lemma testSlot : b.testSlot = a.testSlot := congrArg Core.testSlot h.core

lemma armed : b.armed = a.armed := congrArg Core.armed h.core

lemma confirmation : b.confirmation = a.confirmation :=
  congrArg Core.confirmation h.core

lemma lastGood : b.lastGood = a.lastGood := congrArg Core.lastGood h.core

lemma outage : b.outage = a.outage := congrArg Core.outage h.core

lemma restore : b.restore = a.restore := congrArg Core.restore h.core

lemma setups : b.setups = a.setups := congrArg Core.setups h.core

end

end Quiet

/-! ## Calls that keep the core -/

section

variable (limit : Limit C)

lemma quiet_advance (now : ℕ) : Quiet limit (limit.advance now) :=
  ⟨rfl, fun conn => Table.isClockedSetup_advance limit.table now conn⟩

lemma quiet_freeze (attempt : AttemptId) : Quiet limit (limit.freeze attempt) := by
  refine ⟨?_, fun _ => rfl⟩
  have hkinds : (limit.freeze attempt).kinds = limit.kinds := by
    funext other
    simp only [kinds, freeze, Windows.get_freeze, map_map]
    congr 1
    funext window
    split <;> rfl
  simp only [core, hkinds]
  rfl

lemma quiet_gateOpen (now : ℕ) : Quiet limit (limit.gateOpen now).2 := by
  have hadvance := quiet_advance limit now
  unfold gateOpen
  simp only
  split
  · exact hadvance
  · split
    · exact hadvance
    · exact hadvance.trans ⟨rfl, fun _ => rfl⟩

lemma quiet_tick (now : ℕ) : Quiet limit (limit.tick now).2 :=
  (quiet_advance limit now).trans ⟨rfl, fun _ => rfl⟩

lemma quiet_admitsOrdinary (now : ℕ) : Quiet limit (limit.admitsOrdinary now).2 :=
  quiet_gateOpen limit now

lemma quiet_closesSuppressed (now : ℕ) : Quiet limit (limit.closesSuppressed now).2 := by
  have hadvance := quiet_advance limit now
  unfold closesSuppressed testDue
  simp only
  split <;> exact hadvance

lemma quiet_admitted (start : Start) (own : Own) (now : ℕ) :
    Quiet limit (limit.admitted start own now).2 := by
  cases start with
  | ordinary =>
    unfold admitted
    cases own.isNew
    · exact quiet_advance limit now
    · exact quiet_admitsOrdinary limit now
  | _ => exact quiet_advance limit now

end

/-! ## Windows opening -/

/-- The attempt is not in flight. -/
structure Free (limit : Limit C) (attempt : AttemptId) : Prop where
  target : limit.targets[attempt]? = none
  window : limit.windows[attempt]? = none

lemma Free.kinds (h : limit.Free attempt) : limit.kinds attempt = none := by
  simp [Limit.kinds, h.window]

/-- The key with `attempt`'s window open, before its connection is in the table. -/
def opened (limit : Limit C) (attempt : AttemptId) (kind : AttemptKind) (target : ℕ) (own : Own) :
    Limit C :=
  took
    { limit with
      windows := limit.windows.insert attempt (Window.opened kind own limit.table)
      targets := limit.targets.insert attempt target } attempt kind own

/-- A begin changes nothing, or opens the attempt's window and starts its connection. -/
lemma beginAttempt_cases (limit : Limit C) (attempt : AttemptId) (kind : AttemptKind) (target : ℕ)
    (own : Own) (clocked : Bool) (now : ℕ) :
    (limit.beginAttempt attempt kind target own clocked now).2 = limit ∨
      limit.Free attempt ∧
        ((limit.beginAttempt attempt kind target own clocked now).2 =
            limit.opened attempt kind target own ∨
          ∃ conn, own = .new conn ∧
            (limit.beginAttempt attempt kind target own clocked now).2 =
              (limit.opened attempt kind target own).conn conn (.started clocked) now) := by
  unfold beginAttempt Windows.openWindow
  by_cases htarget : limit.targets.contains attempt = true
  · simp [htarget]
  by_cases hwindow : limit.windows.contains attempt = true
  · simp [htarget, hwindow]
  right
  refine ⟨⟨?_, ?_⟩, ?_⟩
  · simpa using htarget
  · simpa using hwindow
  · cases own with
    | new conn => exact .inr ⟨conn, rfl, by simp [htarget, hwindow, opened]⟩
    | leased => exact .inl (by simp [htarget, hwindow, opened])

/-! ## What opening a window and a connection's report leave alone -/

section Untouched

variable (limit : Limit C) (attempt : AttemptId) (kind : AttemptKind) (target : ℕ) (own : Own)
  (id : ConnId) (event : ConnEvent) (now : ℕ)

@[simp] lemma opened_targets :
    (limit.opened attempt kind target own).targets = limit.targets.insert attempt target := by
  cases kind <;> rfl

@[simp] lemma opened_windows :
    (limit.opened attempt kind target own).windows =
      limit.windows.insert attempt (Window.opened kind own limit.table) := by
  cases kind <;> rfl

@[simp] lemma opened_table : (limit.opened attempt kind target own).table = limit.table := by
  cases kind <;> rfl

@[simp] lemma opened_adaptive :
    (limit.opened attempt kind target own).adaptive = limit.adaptive := by
  cases kind <;> rfl

@[simp] lemma opened_timer : (limit.opened attempt kind target own).timer = limit.timer := by
  cases kind <;> rfl

@[simp] lemma opened_armed : (limit.opened attempt kind target own).armed = limit.armed := by
  cases kind <;> rfl

@[simp] lemma opened_confirmation :
    (limit.opened attempt kind target own).confirmation = limit.confirmation := by
  cases kind <;> rfl

@[simp] lemma opened_lastGood :
    (limit.opened attempt kind target own).lastGood = limit.lastGood := by
  cases kind <;> rfl

@[simp] lemma opened_outage : (limit.opened attempt kind target own).outage = limit.outage := by
  cases kind <;> rfl

@[simp] lemma opened_setupWindow :
    (limit.opened attempt kind target own).setups.window = limit.setups.window := by
  cases kind <;> rfl

@[simp] lemma opened_setupTimer :
    (limit.opened attempt kind target own).setups.timer = limit.setups.timer := by
  cases kind <;> rfl

@[simp] lemma opened_n : (limit.opened attempt kind target own).fsm.n = limit.fsm.n := by
  cases kind with
  | probe => exact Fsm.n_testStarted
  | _ => rfl

@[simp] lemma opened_setupN :
    (limit.opened attempt kind target own).setups.fsm.n = limit.setups.fsm.n := by
  cases kind with
  | setupProbe => exact Fsm.n_testStarted
  | _ => rfl

lemma opened_fsm :
    (limit.opened attempt kind target own).fsm =
      if kind = .probe then limit.fsm.testStarted else limit.fsm := by
  cases kind <;> rfl

lemma opened_setupFsm :
    (limit.opened attempt kind target own).setups.fsm =
      if kind = .setupProbe then limit.setups.fsm.testStarted else limit.setups.fsm := by
  cases kind <;> rfl

lemma opened_testSlot :
    (limit.opened attempt kind target own).testSlot =
      if kind.isTest then some attempt else limit.testSlot := by
  cases kind <;> rfl

lemma opened_test :
    (limit.opened attempt kind target own).setups.test =
      if kind = .setupProbe then some attempt else limit.setups.test := by
  cases kind <;> rfl

lemma opened_restore :
    (limit.opened attempt kind target own).restore =
      if kind = .restore then limit.restore.map fun restore => Restore.join restore attempt own
      else limit.restore := by
  cases kind <;> rfl

lemma kinds_opened (other : AttemptId) :
    (limit.opened attempt kind target own).kinds other =
      if attempt = other then some kind else limit.kinds other := by
  simp only [kinds, opened_windows]
  by_cases heq : attempt = other
  · subst heq
    simp [Window.opened]
  · simp only [heq, if_false]
    rw [get_insert_of_ne _ _ heq]

lemma core_setupWindowResolved :
    (limit.setupWindowResolved now).core =
      { limit.core with setups := (limit.setupWindowResolved now).setups } := by
  unfold setupWindowResolved
  split
  · rfl
  · split <;> rfl

/-- A connection's report moves only the setup machine, beside the table and the
windows' sets. -/
lemma core_conn :
    (limit.conn id event now).core =
      { limit.core with setups := (limit.conn id event now).setups } := by
  unfold conn
  split
  · rfl
  · rename_i change _
    have hkinds : kinds { limit with windows := limit.windows.observe change } = limit.kinds := by
      funext other
      simp only [kinds, Windows.get_observe, map_map]
      congr 1
      funext window
      exact Window.observe_kind window change
    have hresolved := core_setupWindowResolved { limit with
        table := (limit.table.apply id event now).2
        windows := limit.windows.observe change
        setups := { limit.setups with
          window := limit.setups.window.map fun window => SetupWindow.changed window change } } now
    refine hresolved.trans ?_
    simp only [core]
    congr 1

lemma conn_table : (limit.conn id event now).table = (limit.table.apply id event now).2 := by
  unfold conn
  split
  · rfl
  · simp only [setupChanged, setupWindowResolved]
    split
    · rfl
    · split <;> rfl

@[simp] lemma conn_adaptive : (limit.conn id event now).adaptive = limit.adaptive :=
  congrArg Core.adaptive (core_conn limit id event now)

@[simp] lemma conn_fsm : (limit.conn id event now).fsm = limit.fsm :=
  congrArg Core.fsm (core_conn limit id event now)

@[simp] lemma conn_timer : (limit.conn id event now).timer = limit.timer :=
  congrArg Core.timer (core_conn limit id event now)

@[simp] lemma conn_targets : (limit.conn id event now).targets = limit.targets :=
  congrArg Core.targets (core_conn limit id event now)

@[simp] lemma conn_kinds : (limit.conn id event now).kinds = limit.kinds :=
  congrArg Core.kinds (core_conn limit id event now)

@[simp] lemma conn_testSlot : (limit.conn id event now).testSlot = limit.testSlot :=
  congrArg Core.testSlot (core_conn limit id event now)

@[simp] lemma conn_armed : (limit.conn id event now).armed = limit.armed :=
  congrArg Core.armed (core_conn limit id event now)

@[simp] lemma conn_confirmation : (limit.conn id event now).confirmation = limit.confirmation :=
  congrArg Core.confirmation (core_conn limit id event now)

@[simp] lemma conn_lastGood : (limit.conn id event now).lastGood = limit.lastGood :=
  congrArg Core.lastGood (core_conn limit id event now)

@[simp] lemma conn_outage : (limit.conn id event now).outage = limit.outage :=
  congrArg Core.outage (core_conn limit id event now)

@[simp] lemma conn_restore : (limit.conn id event now).restore = limit.restore :=
  congrArg Core.restore (core_conn limit id event now)

/-- The setups once the window resolved: `Ns` is what the window counted. -/
def resolved (limit : Limit C) (window : SetupWindow) (now : ℕ) : SetupLimit C :=
  { limit.setups with
    window := none
    fsm := limit.setups.fsm.overload window.succeeded u64Max
    timer := limit.setups.timer.reset.arm limit.spread.draw.1 now }

lemma setups_setupWindowResolved :
    (limit.setupWindowResolved now).setups = limit.setups ∧
        (∀ window, limit.setups.window = some window → window.pending.Nonempty) ∨
      ∃ window, limit.setups.window = some window ∧ window.pending = ∅ ∧
        (limit.setupWindowResolved now).setups = limit.resolved window now := by
  unfold setupWindowResolved
  cases hwindow : limit.setups.window with
  | none => exact .inl ⟨rfl, by simp⟩
  | some window =>
    by_cases hpending : window.pending = ∅
    · exact .inr ⟨window, rfl, hpending, by simp [hpending]; rfl⟩
    · refine .inl ⟨by simp [hpending], ?_⟩
      rintro _ ⟨⟩
      exact Finset.nonempty_iff_ne_empty.mpr hpending

/-- A report reaches the setup machine as a change of the open window, which may
then resolve. -/
lemma setups_conn :
    (limit.table.apply id event now).1 = none ∧ (limit.conn id event now).setups = limit.setups ∨
      ∃ change, (limit.table.apply id event now).1 = some change ∧
        (limit.conn id event now).setups = (setupChanged limit change now).setups := by
  unfold conn
  cases (limit.table.apply id event now).1 with
  | none => exact .inl ⟨rfl, rfl⟩
  | some change =>
    refine .inr ⟨change, rfl, ?_⟩
    simp only [setupChanged, setupWindowResolved]
    cases limit.setups.window with
    | none => rfl
    | some window =>
      simp only [map_some]
      split <;> rfl

@[simp] lemma conn_test : (limit.conn id event now).setups.test = limit.setups.test := by
  rcases setups_conn limit id event now with ⟨-, hsame⟩ | ⟨change, -, hchanged⟩
  · rw [hsame]
  · rw [hchanged, setupChanged]
    rcases setups_setupWindowResolved { limit with
        setups := { limit.setups with
          window := limit.setups.window.map fun window => SetupWindow.changed window change } }
      now with ⟨hsame, -⟩ | ⟨_, -, -, hresolved⟩
    · rw [hsame]
    · rw [hresolved]
      rfl

lemma setupChanged_with_table (table : Table) (change : Change) :
    (setupChanged { limit with table := table } change now).setups =
      (setupChanged limit change now).setups := by
  simp only [setupChanged, setupWindowResolved]
  cases limit.setups.window with
  | none => rfl
  | some window =>
    simp only [map_some]
    split <;> rfl

lemma setupChanged_of_none (change : Change) (h : limit.setups.window = none) :
    (setupChanged limit change now).setups = limit.setups := by
  simp only [setupChanged, setupWindowResolved, h, map_none]
  rw [← h]

end Untouched

/-- What an admission found: a plain start, or the test that was due on the key
brought forward. -/
inductive Admitted (limit : Limit C) (start : Start) (now : ℕ) :
    AttemptKind → ℕ → Limit C → Prop where
  | plain (kind : AttemptKind) (target : ℕ) (after : Limit C) (hplain : kind.isTest = false) :
      Admitted limit start now kind target after
  | due (plan : TestPlan) (hplan : (limit.advance now).duePlan now = some plan)
      (hstart : plan.kind = .confirming → start = .confirming) :
      Admitted limit start now plan.kind plan.target (limit.advance now)
  | setup (plan : TestPlan) (hplan : (limit.advance now).setupPlan now = some plan) :
      Admitted limit start now .setupProbe plan.target (limit.advance now)

lemma admitted_source {start : Start} {kind : AttemptKind} {target : ℕ}
    (h : (limit.admitted start own now).1 = some (kind, target)) :
    Admitted limit start now kind target (limit.admitted start own now).2 := by
  cases start with
  | ordinary | restore =>
    simp only [admitted, ite_none_right_eq_some, Option.some.injEq, Prod.mk.injEq] at h
    obtain ⟨-, rfl, -⟩ := h
    exact .plain _ _ _ rfl
  | probe | confirming =>
    obtain ⟨plan, hplan, heq⟩ := map_eq_some_iff.mp h
    obtain ⟨hdue, hready⟩ := filter_eq_some_iff.mp hplan
    simp only [Bool.and_eq_true, decide_eq_true_eq, Prod.mk.injEq] at hready heq
    rw [← heq.1, ← heq.2, ← hready.1.1]
    exact .due plan hdue (by simp [hready.1.1])
  | setupProbe =>
    obtain ⟨plan, hplan, heq⟩ := map_eq_some_iff.mp h
    obtain ⟨hdue, -⟩ := filter_eq_some_iff.mp hplan
    simp only [Prod.mk.injEq] at heq
    rw [← heq.1, ← heq.2]
    exact .setup plan hdue

/-! ## Tests that are due -/

/-- What a plan was found on: the slot free and nothing armed; then a confirmation
that waits, or a machine that may probe. -/
lemma duePlan_spec (h : limit.duePlan now = some plan) :
    limit.testSlot = none ∧ limit.armed = none ∧
      (limit.confirmation = true ∧ plan.kind = .confirming ∧
          plan.target = limit.table.connected + 1 ∨
        plan.kind = .probe ∧ plan.target = limit.fsm.n + 1 ∧
          (limit.fsm.state = .discovering ∨ limit.fsm.state = .stable)) := by
  unfold duePlan at h
  split at h
  · simp at h
  · rename_i hfree
    simp only [Bool.or_eq_true, not_or, not_isSome_iff_eq_none] at hfree
    refine ⟨hfree.1.1, hfree.1.2, ?_⟩
    split at h
    · rename_i hconfirmation
      simp only [ite_none_right_eq_some, Option.some.injEq] at h
      obtain ⟨-, rfl⟩ := h
      exact .inl ⟨hconfirmation, rfl, rfl⟩
    · simp only [ite_none_right_eq_some, Bool.and_eq_true, Option.some.injEq] at h
      obtain ⟨⟨hdue, -⟩, rfl⟩ := h
      refine .inr ⟨rfl, rfl, ?_⟩
      cases hstate : limit.fsm.state <;> simp_all

lemma setupPlan_spec (h : limit.setupPlan now = some plan) :
    limit.testSlot = none ∧ limit.armed = none ∧ limit.setups.window = none ∧
      plan.kind = .setupProbe ∧
      (limit.setups.fsm.state = .discovering ∨ limit.setups.fsm.state = .stable) := by
  unfold setupPlan at h
  split at h
  · simp at h
  · rename_i hfree
    simp only [Bool.or_eq_true, not_or, not_isSome_iff_eq_none, SetupLimit.holds] at hfree
    simp only [ite_none_right_eq_some, Bool.and_eq_true, Option.some.injEq] at h
    obtain ⟨⟨hdue, -⟩, rfl⟩ := h
    refine ⟨hfree.1.1.1.1, hfree.1.1.1.2, hfree.1.2, rfl, ?_⟩
    cases hstate : limit.setups.fsm.state <;> simp_all

/-- What a carrier may start is the test of `N` that is due, or the setup test. -/
lemma startablePlan_cases (h : limit.startablePlan carrierFinal now = some plan) :
    limit.duePlan now = some plan ∨ limit.setupPlan now = some plan := by
  unfold startablePlan at h
  split at h
  · rename_i due hdue
    obtain rfl := Option.some.inj h
    exact .inl (filter_eq_some_iff.mp hdue).1
  · exact .inr (filter_eq_some_iff.mp h).1

/-! ## Results -/

/-- What a ruling never touches: the connections, the windows, the tests, the outage
and the restore. -/
structure Fixed where
  table : Table
  windows : Windows
  targets : FiniteMap AttemptId ℕ
  testSlot : Option AttemptId
  armed : Option (AttemptKind × ℕ × ℕ)
  adaptive : Bool
  outage : Option ℕ
  restore : Option Restore
  test : Option AttemptId

def fixed (limit : Limit C) : Fixed where
  table := limit.table
  windows := limit.windows
  targets := limit.targets
  testSlot := limit.testSlot
  armed := limit.armed
  adaptive := limit.adaptive
  outage := limit.outage
  restore := limit.restore
  test := limit.setups.test

def Frame (a b : Limit C) : Prop := b.fixed = a.fixed

namespace Frame

variable {a b c : Limit C}

section

variable (h : Frame a b)
include h

lemma trans (h' : Frame b c) : Frame a c := Eq.trans h' h

lemma table : b.table = a.table := congrArg Fixed.table h

lemma windows : b.windows = a.windows := congrArg Fixed.windows h

lemma targets : b.targets = a.targets := congrArg Fixed.targets h

lemma testSlot : b.testSlot = a.testSlot := congrArg Fixed.testSlot h

lemma armed : b.armed = a.armed := congrArg Fixed.armed h

lemma adaptive : b.adaptive = a.adaptive := congrArg Fixed.adaptive h

lemma outage : b.outage = a.outage := congrArg Fixed.outage h

lemma restore : b.restore = a.restore := congrArg Fixed.restore h

lemma test : b.setups.test = a.setups.test := congrArg Fixed.test h

lemma kinds : b.kinds = a.kinds := by
  funext attempt
  simp only [Limit.kinds, h.windows]

lemma with_restore {restore restore' : Option Restore} (heq : restore' = restore) :
    Frame { a with restore := restore } { b with restore := restore' } := by
  subst heq
  exact congrArg (fun fixed : Fixed => { fixed with restore := restore' }) h

end

end Frame

/-- What the restore makes of a result. -/
inductive Progressed (limit : Limit C) (attempt : AttemptId) (kind : AttemptKind) (refused : Bool)
    (now : ℕ) : Limit C → Prop where
  | left (hstate : limit.fsm.state ≠ .restoring) :
      Progressed limit attempt kind refused now { limit with restore := none }
  | idle (hstate : limit.fsm.state = .restoring) (hnone : limit.restore = none) :
      Progressed limit attempt kind refused now limit
  | waits (restore : Restore) (hstate : limit.fsm.state = .restoring)
      (hrestore : limit.restore = some restore)
      (hwaits : restore.started = false ∨ (stepResult restore attempt kind refused).step.Nonempty) :
      Progressed limit attempt kind refused now
        { limit with restore := some (stepResult restore attempt kind refused) }
  | ends (restore : Restore) (hstate : limit.fsm.state = .restoring)
      (hrestore : limit.restore = some restore) :
      Progressed limit attempt kind refused now (limit.endRestore now)
  | doubles (restore next : Restore) (hstate : limit.fsm.state = .restoring)
      (hrestore : limit.restore = some restore) (hempty : next.step = ∅)
      (hstarted : next.started = false) (hgood : next.good = restore.good)
      (htarget : next.target = limit.stepTarget restore.good)
      (hquota : next.quota = limit.stepQuota next.target) :
      Progressed limit attempt kind refused now { limit with restore := some next }

section

variable (restore : Restore) (attempt : AttemptId) (kind : AttemptKind) (refused : Bool)

@[simp] lemma stepResult_started :
    (stepResult restore attempt kind refused).started = restore.started := by
  unfold stepResult
  split <;> rfl

@[simp] lemma stepResult_good : (stepResult restore attempt kind refused).good = restore.good := by
  unfold stepResult
  split <;> rfl

@[simp] lemma stepResult_target :
    (stepResult restore attempt kind refused).target = restore.target := by
  unfold stepResult
  split <;> rfl

@[simp] lemma stepResult_quota :
    (stepResult restore attempt kind refused).quota = restore.quota := by
  unfold stepResult
  split <;> rfl

end

section

variable (limit : Limit C) (attempt : AttemptId) (kind : AttemptKind) (refused : Bool) (now : ℕ)

lemma progressed :
    Progressed limit attempt kind refused now (limit.restoreProgress attempt kind refused now) := by
  unfold restoreProgress
  split
  · rename_i hstate
    exact .left hstate
  · rename_i hstate
    have hstate : limit.fsm.state = .restoring := not_not.mp hstate
    split
    · rename_i hnone
      exact .idle hstate hnone
    · rename_i restore hrestore
      simp only [Bool.or_eq_true, Bool.not_eq_true', decide_eq_true_eq, stepResult_started]
      split
      · rename_i hwaits
        exact .waits restore hstate hrestore hwaits
      · rename_i hjudged
        split
        · exact .ends restore hstate hrestore
        · refine .doubles restore _ hstate hrestore ?_ rfl ?_ ?_ rfl
          · exact Finset.not_nonempty_iff_eq_empty.mp fun hstep => hjudged (.inr hstep)
          · exact stepResult_good restore attempt kind refused
          · simp

/-- The restore aside, its progress keeps the frame. -/
lemma frame_restoreProgress :
    Frame { limit with restore := (limit.restoreProgress attempt kind refused now).restore }
      (limit.restoreProgress attempt kind refused now) := by
  have hprogressed := progressed limit attempt kind refused now
  generalize limit.restoreProgress attempt kind refused now = after at hprogressed ⊢
  cases hprogressed <;> rfl

end

lemma frame_settled (limit : Limit C) (before : ℕ × Fsm.State) (now : ℕ) :
    Frame limit (limit.settled before now) := by
  unfold settled
  simp only
  split <;> split <;> rfl

lemma frame_setupWindowResolved (limit : Limit C) (now : ℕ) :
    Frame limit (limit.setupWindowResolved now) := by
  unfold setupWindowResolved
  split
  · rfl
  · split <;> rfl

/-- The key with the wait a refusal asked for. -/
def asked (limit : Limit C) (outcome : Outcome) (now : ℕ) : Limit C :=
  match outcome with
  | .refused .setupDrop _ _ => limit
  | .refused _ retryAfterMs post => limit.holdForAsked retryAfterMs post now
  | _ => limit

/-- A success of an attempt is a test of `N` that an idle connection served. -/
def Served (closed : ClosedWindow) (outcome : Outcome) : Prop :=
  ∀ fresh, outcome = .succeeded fresh → fresh = false ∧ closed.kind.isNTest = true

/-- What a ruling does to the machine of `N`, its timer and the confirmation. -/
inductive NRuled (closed : ClosedWindow) (outcome : Outcome) (now : ℕ) (ruling : Ruling)
    (limit : Limit C) : Limit C → Prop where
  | kept (confirmation : Bool) (barrier : Finset ConnId) (hserved : Served closed outcome)
      (hprobe : closed.kind = .probe → limit.adaptive = false)
      (hclear : limit.confirmation = false → confirmation = false) :
      NRuled closed outcome now ruling limit { limit with confirmation, barrier }
  | confirms (hserved : Served closed outcome)
      (hprobe : closed.kind = .probe → limit.adaptive = false) (hbudget : limit.adaptive = true)
      (hruling : ruling = .confirmation) :
      NRuled closed outcome now ruling limit { limit with confirmation := true }
  | again (hserved : Served closed outcome) :
      NRuled closed outcome now ruling limit (limit.rearm now)
  | raised (fresh confirmation : Bool) (lastGood : ℕ) (houtcome : outcome = .succeeded fresh)
      (hkind : closed.kind ≠ .probe) (hclear : limit.confirmation = false → confirmation = false)
      (hgood : limit.lastGood ≤ C → lastGood ≤ C) :
      NRuled closed outcome now ruling limit
        { limit with fsm := limit.fsm.success limit.table.connected, confirmation, lastGood }
  | passed (fair : Bool) (lastGood : ℕ) (houtcome : outcome = .succeeded true)
      (hgood : limit.lastGood ≤ C → lastGood ≤ C) :
      NRuled closed outcome now ruling limit
        { limit with
          fsm := limit.fsm.testSucceeded limit.table.connected fair
          timer := if fair then limit.timer.reset else limit.timer.makeDue now
          lastGood }
  | overloaded (n : ℕ) (hserved : Served closed outcome)
      (hbudget : limit.adaptive = false → closed.kind = .confirming)
      (hruling : ruling = .overload n) :
      NRuled closed outcome now ruling limit
        (armTimer
          { limit with
            fsm := limit.fsm.overload limit.table.connected closed.hi
            confirmation := false
            timer := limit.timer.reset
            notes := limit.notes.overload } now)
  | refused (hserved : Served closed outcome) :
      NRuled closed outcome now ruling limit
        (armTimer
          { limit with
            fsm := limit.fsm.probeRefused.2
            timer := limit.timer.refused limit.fsm.probeRefused.1 } now)

/-- What a ruling does to the setup limit. -/
inductive SRuled (closed : ClosedWindow) (now : ℕ) (ruling : Ruling) (limit : Limit C) :
    Limit C → Prop where
  | kept (hprobe : closed.kind = .setupProbe → limit.adaptive = false) :
      SRuled closed now ruling limit limit
  | again : SRuled closed now ruling limit (limit.setupTestRearm now)
  | raised (hkind : closed.kind ≠ .setupProbe) :
      SRuled closed now ruling limit
        { limit with
          setups := { limit.setups with fsm := limit.setups.fsm.success (closed.loS.card + 1) } }
  | passed (fair : Bool) :
      SRuled closed now ruling limit
        { limit with
          setups := { limit.setups with
            fsm := limit.setups.fsm.testSucceeded (closed.loS.card + 1) fair
            timer := if fair then limit.setups.timer.reset else limit.setups.timer.makeDue now } }
  | refused :
      SRuled closed now ruling limit
        (armSetupTimer
          { limit with
            setups := { limit.setups with
              fsm := limit.setups.fsm.probeRefused.2
              timer := limit.setups.timer.refused limit.setups.fsm.probeRefused.1 } } now)
  | dropped (window : SetupWindow) (hkind : closed.kind ≠ .setupProbe)
      (hclocked : ∀ conn ∈ window.pending, limit.table.isClockedSetup conn = true)
      (hbudget : limit.adaptive = true) (hruling : ruling = .setupLimit) :
      SRuled closed now ruling limit
        (setupWindowResolved
          { limit with setups := { limit.setups with window := some window } } now)

/-- A ruling sets the hold, then moves `N`'s machine, then the setup limit's. -/
def Ruled (closed : ClosedWindow) (outcome : Outcome) (now : ℕ) (a : Limit C)
    (b : Ruling × Limit C) : Prop :=
  ∃ notes mid, NRuled closed outcome now b.1
      { a with hold := (a.asked outcome now).hold, notes } mid ∧ SRuled closed now b.1 mid b.2

lemma Ruled.of_asked {closed : ClosedWindow} {a : Limit C} {b : Ruling × Limit C}
    (h : ∃ mid, NRuled closed outcome now b.1 (a.asked outcome now) mid ∧
      SRuled closed now b.1 mid b.2) : Ruled closed outcome now a b := by
  obtain ⟨mid, hn, hs⟩ := h
  refine ⟨(a.asked outcome now).notes, mid, ?_, hs⟩
  convert hn using 1
  unfold asked
  split
  · rfl
  · rename_i retryAfterMs _ _
    cases retryAfterMs <;> rfl
  · rfl

section

variable (limit : Limit C) (closed : ClosedWindow)

lemma ruled_endedAs (ruling : Ruling) (now : ℕ) (hserved : Served closed outcome) :
    ∃ mid, NRuled closed outcome now ruling limit mid ∧
      SRuled closed now ruling mid (limit.endedAs closed.kind now) := by
  cases hkind : closed.kind with
  | probe | confirming => exact ⟨_, .again hserved, .kept (by simp [hkind])⟩
  | setupProbe => exact ⟨_, .kept _ _ hserved (by simp [hkind]) id, .again⟩
  | ordinary | restore => exact ⟨_, .kept _ _ hserved (by simp [hkind]) id, .kept (by simp [hkind])⟩

lemma sruled_setupDropped (target now : ℕ) :
    SRuled closed now (limit.setupDropped closed target now).1 limit
      (limit.setupDropped closed target now).2 := by
  unfold setupDropped
  split
  · rename_i hbudget
    exact .kept fun _ => by simpa using hbudget
  · rename_i hbudget
    split
    · split
      · exact .again
      · exact .refused
    · rename_i hkind
      split
      · exact .kept fun heq => absurd heq hkind
      · split
        · exact .kept fun heq => absurd heq hkind
        · refine .dropped _ hkind (fun conn hconn => ?_) (by simpa using hbudget) rfl
          exact (Finset.mem_filter.mp hconn).2

lemma sruled_setupSucceeded (target now : ℕ) (ruling : Ruling) :
    SRuled closed now ruling limit (limit.setupSucceeded closed target now).2 := by
  unfold setupSucceeded
  simp only
  split
  · rename_i hkind
    exact .raised hkind
  · split
    · exact .passed true
    · exact .passed false

lemma nruled_succeededAs (target : ℕ) (fresh : Bool) (now : ℕ) (ruling : Ruling) :
    NRuled closed (.succeeded fresh) now ruling limit
      (if fresh then
        { (limit.succeededAs closed target fresh now).2 with
          lastGood := (limit.succeededAs closed target fresh now).2.fsm.n }
      else (limit.succeededAs closed target fresh now).2) := by
  have hserved : closed.kind.isNTest = true → Served closed (.succeeded false) := by
    rintro htest _ ⟨⟩
    exact ⟨rfl, htest⟩
  unfold succeededAs
  cases fresh with
  | false =>
    cases hkind : closed.kind with
    | probe => exact .again (hserved (by simp [hkind, AttemptKind.isNTest]))
    | confirming =>
      exact .kept _ _ (hserved (by simp [hkind, AttemptKind.isNTest])) (by simp [hkind]) id
    | _ => exact .raised false _ _ rfl (by simp [hkind]) id id
  | true =>
    cases hkind : closed.kind with
    | probe =>
      simp only [Bool.not_true, Bool.false_eq_true, if_false, if_true]
      split
      · exact .passed true _ rfl fun _ => Fsm.le _
      · exact .passed false _ rfl fun _ => Fsm.le _
    | confirming => exact .raised true _ _ rfl (by simp [hkind]) (fun _ => rfl) fun _ => Fsm.le _
    | _ => exact .raised true _ _ rfl (by simp [hkind]) id fun _ => Fsm.le _

lemma nruled_refused (refusal : Refusal) (now : ℕ)
    (hserved : Served closed outcome) (hkind : refusal.kind = closed.kind)
    (hadaptive : refusal.adaptive = limit.adaptive) (hsignal : refusal.signal ≠ .setupDrop) :
    NRuled closed outcome now (limit.refused (evidence refusal) closed now).1 limit
      (limit.refused (evidence refusal) closed now).2 := by
  -- with a budget a refused probe is a test that ran fair or unfair
  have hprobe (hother : evidence refusal ≠ .unfairTest ∧ evidence refusal ≠ .refusedTest)
      (hprobe : closed.kind = .probe) : limit.adaptive = false := by
    by_contra hbudget
    rcases evidence_of_probe refusal (hkind.trans hprobe)
      (hadaptive.trans (by simpa using hbudget)) hsignal with heq | heq
    · exact hother.1 heq
    · exact hother.2 heq
  cases hevidence : evidence refusal with
  | retryMachine => exact .kept _ _ hserved (hprobe (by simp [hevidence])) (by simp_all)
  | inconclusive =>
    simp only [refused]
    split <;> exact .kept _ _ hserved (hprobe (by simp [hevidence])) id
  | holdOnly => exact .kept _ _ hserved (hprobe (by simp [hevidence])) id
  | overload =>
    refine .overloaded _ hserved (fun hbudget => ?_) rfl
    exact hkind ▸ evidence_overload_of_not_adaptive (hadaptive.trans hbudget) hevidence
  | confirm =>
    simp only [refused]
    split
    · exact .kept _ _ hserved (hprobe (by simp [hevidence])) id
    · refine .confirms hserved (hprobe (by simp [hevidence])) ?_ rfl
      by_contra hbudget
      exact evidence_ne_confirm_of_not_adaptive (hadaptive.trans (by simpa using hbudget)) hevidence
  | unfairTest => exact .again hserved
  | refusedTest => exact .refused hserved

end

/-- A refusal leaves the setup limit alone, so its test may be due again before or after. -/
lemma refused_setupTestRearm (limit : Limit C) (evidence : Evidence) (closed : ClosedWindow)
    (now : ℕ) :
    (limit.setupTestRearm now).refused evidence closed now =
      ((limit.refused evidence closed now).1,
        (limit.refused evidence closed now).2.setupTestRearm now) := by
  cases evidence with
  | inconclusive =>
    cases hbudget : limit.adaptive <;> simp [refused, setupTestRearm, hbudget]
  | confirm =>
    cases hconfirms : limit.confirmation <;> simp [refused, setupTestRearm, hconfirms]
  | _ => rfl

lemma ruled_spec (limit : Limit C) (closed : ClosedWindow) (stored : ℕ) (outcome : Outcome)
    (now : ℕ) : Ruled closed outcome now limit (limit.ruled closed stored outcome now) := by
  apply Ruled.of_asked
  unfold ruled
  simp only
  split
  · exact ruled_endedAs limit closed _ now (by simp [Served])
  · rename_i fresh
    have hn := nruled_succeededAs limit closed
      (if closed.kind = .ordinary ∨ closed.kind = .setupProbe then limit.fsm.n else stored)
      fresh now
    unfold succeeded
    cases fresh with
    | true => exact ⟨_, hn _, sruled_setupSucceeded _ closed stored now _⟩
    | false =>
      simp only [Bool.false_eq_true, if_false] at hn ⊢
      split
      · exact ⟨_, hn _, .again⟩
      · rename_i hkind
        exact ⟨_, hn _, .kept fun heq => absurd heq hkind⟩
  · have hdropped := sruled_setupDropped
      (if closed.kind = .setupProbe then limit else limit.endedAs closed.kind now) closed stored now
    refine ⟨_, ?_, hdropped⟩
    cases hkind : closed.kind with
    | probe | confirming => exact .again (by simp [Served])
    | _ => exact .kept _ _ (by simp [Served]) (by simp [hkind]) id
  · rename_i signal retryAfterMs post hsignal
    have hasked : limit.asked (.refused signal retryAfterMs post) now =
        limit.holdForAsked retryAfterMs post now := by
      cases signal <;> simp_all [asked]
    have hserved : Served closed (.refused signal retryAfterMs post) := by simp [Served]
    have hn := nruled_refused (limit.holdForAsked retryAfterMs post now) closed
      ⟨closed.kind, signal,
        if closed.kind = .ordinary ∨ closed.kind = .setupProbe then limit.fsm.n else stored,
        closed.lo, closed.hi, (limit.holdForAsked retryAfterMs post now).adaptive⟩
      now hserved rfl rfl hsignal
    rw [hasked]
    split
    · rw [refused_setupTestRearm]
      exact ⟨_, hn, .again⟩
    · rename_i hkind
      exact ⟨_, hn, .kept fun heq => absurd heq hkind⟩

section Ruled

variable {closed : ClosedWindow} {ruling : Ruling} {a b : Limit C}

lemma NRuled.frame (h : NRuled closed outcome now ruling a b) : Frame a b := by
  cases h <;> rfl

lemma SRuled.frame (h : SRuled closed now ruling a b) : Frame a b := by
  cases h with
  | dropped => exact frame_setupWindowResolved _ now
  | _ => rfl

lemma NRuled.setups (h : NRuled closed outcome now ruling a b) : b.setups = a.setups := by
  cases h <;> rfl

lemma SRuled.core (h : SRuled closed now ruling a b) :
    b.core = { a.core with setups := b.setups } := by
  cases h with
  | dropped => exact core_setupWindowResolved _ now
  | _ => rfl

end Ruled

lemma frame_ruled (limit : Limit C) (closed : ClosedWindow) (stored : ℕ) (outcome : Outcome)
    (now : ℕ) : Frame limit (limit.ruled closed stored outcome now).2 := by
  obtain ⟨notes, mid, hn, hs⟩ := ruled_spec limit closed stored outcome now
  exact hn.frame.trans hs.frame

/-- A result in flight, once its window is closed: the ruling, then the restore,
then the notes. -/
def judged (limit : Limit C) (attempt : AttemptId) (window : Window) (stored : ℕ)
    (outcome : Outcome) (now : ℕ) : Ruling × Limit C :=
  let retired := (limit.advance now).retire attempt
  let ruled := retired.ruled window.close stored outcome now
  (ruled.1, (ruled.2.restoreProgress attempt window.kind (Outcome.isRefused outcome) now).settled
    (limit.fsm.n, limit.fsm.state) now)

lemma result_of_inFlight {window : Window} {stored : ℕ} (outcome : Outcome)
    (hwindow : limit.windows[attempt]? = some window)
    (htarget : limit.targets[attempt]? = some stored) : limit.result attempt outcome now =
      (some (limit.judged attempt window stored outcome now).1,
        (limit.judged attempt window stored outcome now).2) := by
  have hwindow' : (limit.advance now).windows[attempt]? = some window := hwindow
  have htarget' : (limit.advance now).targets[attempt]? = some stored := htarget
  simp only [result, hwindow', htarget']
  rfl

/-- A result is of an attempt in flight, or only brings the table forward; an attempt
with a window and no target would lose its window. -/
lemma result_cases (limit : Limit C) (attempt : AttemptId) (outcome : Outcome) (now : ℕ) :
    (limit.windows[attempt]? = none ∧
      limit.result attempt outcome now = (none, limit.advance now)) ∨
    (limit.targets[attempt]? = none ∧ limit.windows[attempt]? ≠ none ∧
      limit.result attempt outcome now =
        (none, { limit.advance now with windows := limit.windows.erase attempt })) ∨
    ∃ window stored, limit.windows[attempt]? = some window ∧ limit.targets[attempt]? = some stored ∧
      limit.result attempt outcome now =
        (some (limit.judged attempt window stored outcome now).1,
          (limit.judged attempt window stored outcome now).2) := by
  cases hwindow : limit.windows[attempt]? with
  | none =>
    have hwindow' : (limit.advance now).windows[attempt]? = none := hwindow
    exact .inl ⟨rfl, by simp [result, hwindow']⟩
  | some window =>
    cases htarget : limit.targets[attempt]? with
    | none =>
      have hwindow' : (limit.advance now).windows[attempt]? = some window := hwindow
      have htarget' : (limit.advance now).targets[attempt]? = none := htarget
      refine .inr (.inl ⟨rfl, by simp, ?_⟩)
      simp only [result, hwindow', htarget']
      rfl
    | some stored =>
      exact .inr (.inr ⟨window, stored, rfl, rfl, result_of_inFlight outcome hwindow htarget⟩)

/-- A judged attempt leaves the windows, the targets and the slot; the restore aside,
the rest is as the ruling found it. -/
lemma frame_judged (limit : Limit C) (attempt : AttemptId) (window : Window) (stored : ℕ)
    (outcome : Outcome) (now : ℕ) :
    Frame
      { (limit.advance now).retire attempt with
        restore := (limit.judged attempt window stored outcome now).2.restore }
      (limit.judged attempt window stored outcome now).2 := by
  have hruled := frame_ruled ((limit.advance now).retire attempt) window.close stored outcome now
  have hprogress := frame_restoreProgress
    (((limit.advance now).retire attempt).ruled window.close stored outcome now).2
      attempt window.kind
    (Outcome.isRefused outcome) now
  have hsettled := frame_settled
    ((((limit.advance now).retire attempt).ruled window.close stored outcome now).2.restoreProgress
      attempt window.kind (Outcome.isRefused outcome) now) (limit.fsm.n, limit.fsm.state) now
  refine Frame.trans ?_ (hprogress.trans hsettled)
  exact Frame.with_restore hruled hsettled.restore.symm

lemma frame_observedSuccess (limit : Limit C) (now : ℕ) :
    Frame (limit.advance now) (limit.observedSuccess now) :=
  frame_settled _ _ now

/-- The kinds once an attempt's window has closed. -/
lemma kinds_erase (limit : Limit C) (attempt other : AttemptId) :
    kinds { limit with windows := limit.windows.erase attempt } other =
      if attempt = other then none else limit.kinds other := by
  simp only [kinds]
  by_cases heq : attempt = other
  · subst heq
    simp
  · simp only [heq, if_false]
    rw [get_erase_of_ne _ heq]

section

variable (limit : Limit C) (attempt : AttemptId) (window : Window) (stored : ℕ)
  (outcome : Outcome)

lemma kinds_judged (now : ℕ) (other : AttemptId) :
    (limit.judged attempt window stored outcome now).2.kinds other =
      if attempt = other then none else limit.kinds other := by
  rw [(frame_judged limit attempt window stored outcome now).kinds]
  exact kinds_erase limit attempt other

lemma targets_judged (now : ℕ) (other : AttemptId) :
    (limit.judged attempt window stored outcome now).2.targets[other]? =
      if attempt = other then none else limit.targets[other]? := by
  rw [(frame_judged limit attempt window stored outcome now).targets]
  by_cases heq : attempt = other
  · subst heq
    simp [retire]
  · rw [if_neg heq]
    exact get_erase_of_ne _ heq

end

/-! ## Recoveries -/

/-- A key whose restore begins: the first step doubles toward `good`. -/
def restoring (limit : Limit C) (good : ℕ) : Limit C :=
  let limit := { limit with fsm := limit.fsm.beginRestore, outage := none }
  let target := limit.stepTarget good
  { limit with restore := some ⟨good, target, ∅, false, false, limit.stepQuota target⟩ }

/-- A recovery ends the outage, and begins a restore when the budget allows one and
`N` is below the good one. -/
lemma recovered_cases (limit : Limit C) (now : ℕ) :
    Quiet limit (limit.recovered now) ∨ Quiet { limit with outage := none } (limit.recovered now) ∨
      ∃ good, limit.outage = some good ∧ limit.adaptive = true ∧ limit.fsm.n < good ∧
        limit.restore = none ∧
        limit.recovered now =
          restoring { limit.advance now with notes := limit.notes.healthy } good := by
  unfold recovered
  cases houtage : limit.outage with
  | none =>
    refine .inl ⟨?_, fun _ => rfl⟩
    simp only [core, houtage]
    rfl
  | some good =>
    simp only [Bool.or_eq_true, Bool.not_eq_true', decide_eq_true_eq]
    split
    · exact .inr (.inl ⟨rfl, fun _ => rfl⟩)
    · rename_i hrestores
      simp only [not_or, Bool.not_eq_false, not_le, not_isSome_iff_eq_none] at hrestores
      exact .inr (.inr ⟨good, rfl, hrestores.1.1, hrestores.1.2, hrestores.2, rfl⟩)

/-! ## The rule -/

/-- What an invariant of a key needs, once for everything a call may do. The
condition `allowed` is on the call and the state it is made in. -/
structure StepRule (allowed : Limit C → TimedCall → Prop) (P : Limit C → Prop) : Prop where
  quiet : ∀ {a b : Limit C}, Quiet a b → P a → P b
  conn : ∀ {limit : Limit C} (id : ConnId) (event : ConnEvent) (now : ℕ), P limit →
    P (limit.conn id event now)
  plain : ∀ {limit : Limit C} {attempt : AttemptId} {kind : AttemptKind} (target : ℕ) (own : Own),
    kind.isTest = false → limit.Free attempt → P limit → P (limit.opened attempt kind target own)
  given : ∀ {limit : Limit C} {attempt : AttemptId} {kind : AttemptKind} {target : ℕ} {own : Own}
    {clocked : Bool} {now : ℕ},
    allowed limit ⟨.beginAttempt attempt kind target own clocked, now⟩ → kind.isTest = true →
    limit.Free attempt → P limit → P (limit.opened attempt kind target own)
  due : ∀ {limit : Limit C} {attempt : AttemptId} {start : Start} {own : Own} {clocked : Bool}
    {now : ℕ} {plan : TestPlan},
    allowed limit ⟨.admitAttempt attempt start own clocked, now⟩ → limit.Free attempt →
    (limit.advance now).duePlan now = some plan → (plan.kind = .confirming → start = .confirming) →
    P (limit.advance now) → P ((limit.advance now).opened attempt plan.kind plan.target own)
  setup : ∀ {limit : Limit C} {attempt : AttemptId} {own : Own} {now : ℕ} {plan : TestPlan},
    limit.Free attempt → limit.setupPlan now = some plan →
    P limit → P (limit.opened attempt .setupProbe plan.target own)
  taken :
    ∀ {limit : Limit C} {attempt : AttemptId} {kind : AttemptKind} {target arm : ℕ} {own : Own},
    limit.armed = some (kind, target, arm) → limit.Free attempt → P limit →
    P (opened { limit with armed := none } attempt kind target own)
  arm : ∀ {limit : Limit C} {carrierFinal : Bool} {now : ℕ} {plan : TestPlan},
    allowed limit ⟨.armTest carrierFinal, now⟩ →
    (limit.advance now).startablePlan carrierFinal now = some plan → P limit →
    P { limit.advance now with
      arms := limit.arms + 1, armed := some (plan.kind, plan.target, limit.arms + 1) }
  unarm : ∀ {limit : Limit C}, P limit → P { limit with armed := none }
  disarmProbe : ∀ {limit : Limit C} {target arm : ℕ}, limit.armed = some (.probe, target, arm) →
    P limit → P (rearm { limit with armed := none } 0)
  disarmSetup :
    ∀ {limit : Limit C} {target arm : ℕ}, limit.armed = some (.setupProbe, target, arm) →
    P limit → P (setupTestRearm { limit with armed := none } 0)
  lost : ∀ {limit : Limit C} {attempt : AttemptId}, limit.targets[attempt]? = none → P limit →
    P { limit with windows := limit.windows.erase attempt }
  judged :
    ∀ {limit : Limit C} {attempt : AttemptId} {window : Window} {stored : ℕ} {outcome : Outcome}
    {now : ℕ}, allowed limit ⟨.result attempt outcome, now⟩ →
    limit.windows[attempt]? = some window → limit.targets[attempt]? = some stored → P limit →
    P (limit.judged attempt window stored outcome now).2
  endRestore : ∀ {limit : Limit C} {restore : Restore} (now : ℕ), limit.restore = some restore →
    restore.step = ∅ → P limit → P (limit.endRestore now)
  observed : ∀ {limit : Limit C} {now : ℕ}, allowed limit ⟨.observedSuccess, now⟩ → P limit →
    P (limit.observedSuccess now)
  outage : ∀ {limit : Limit C}, P limit → P limit.beginOutage
  cleared : ∀ {limit : Limit C}, P limit → P { limit with outage := none }
  restores : ∀ {limit : Limit C} {good : ℕ}, limit.outage = some good → limit.adaptive = true →
    limit.fsm.n < good → limit.restore = none → P limit → P (limit.restoring good)

namespace StepRule

variable {allowed : Limit C → TimedCall → Prop} {P : Limit C → Prop}

section

variable (rule : StepRule allowed P)
include rule

/-- A begin that changes nothing keeps the invariant; one that opens the window
keeps it if opening does. -/
lemma begun {kind : AttemptKind} {target : ℕ} (clocked : Bool) (now : ℕ) (h : P limit)
    (hopen : limit.Free attempt → P (limit.opened attempt kind target own)) :
    P (limit.beginAttempt attempt kind target own clocked now).2 := by
  rcases beginAttempt_cases limit attempt kind target own clocked now with
    heq | ⟨hfree, heq | ⟨conn, -, heq⟩⟩
  · rwa [heq]
  · rw [heq]
    exact hopen hfree
  · rw [heq]
    exact rule.conn conn (.started clocked) now (hopen hfree)

lemma admitAttempt {start : Start} {clocked : Bool}
    (hallowed : allowed limit ⟨.admitAttempt attempt start own clocked, now⟩) (h : P limit) :
    P (limit.admitAttempt attempt start own clocked now).2 := by
  have hafter := rule.quiet (quiet_admitted limit start own now) h
  unfold Limit.admitAttempt
  split
  · exact h
  · cases hadmitted : limit.admitted start own now with
    | mk found after =>
      rw [hadmitted] at hafter
      cases found with
      | none => exact hafter
      | some found =>
        obtain ⟨kind, target⟩ := found
        have hfound : (limit.admitted start own now).1 = some (kind, target) := by rw [hadmitted]
        have hsource := admitted_source hfound
        rw [hadmitted] at hsource
        refine rule.begun clocked now hafter fun hfree => ?_
        cases hsource with
        | plain kind target after hplain => exact rule.plain _ own hplain hfree hafter
        | due plan hplan hstart =>
          exact rule.due hallowed ⟨hfree.target, hfree.window⟩ hplan hstart hafter
        | setup plan hplan => exact rule.setup hfree hplan hafter

lemma beginArmed (own : Own) (clocked : Bool) (h : P limit) :
    P (limit.beginArmed attempt own clocked now).2 := by
  unfold Limit.beginArmed takeArmed
  cases harmed : limit.armed with
  | some armed =>
    obtain ⟨kind, target, arm⟩ := armed
    refine rule.begun clocked now (rule.unarm h) fun hfree => ?_
    exact rule.taken harmed ⟨hfree.target, hfree.window⟩ h
  | none =>
    have hsame : ({ limit with armed := none } : Limit C) = limit := by rw [← harmed]
    simp only [map_none, hsame]
    refine rule.begun clocked now h fun hfree => ?_
    refine rule.plain _ own ?_ hfree h
    unfold startKind
    split <;> rfl

lemma armTest (hallowed : allowed limit ⟨.armTest carrierFinal, now⟩) (h : P limit) :
    P (limit.armTest carrierFinal now).2 := by
  unfold Limit.armTest
  simp only
  cases hplan : (limit.advance now).startablePlan carrierFinal now with
  | none => exact rule.quiet (quiet_advance limit now) h
  | some plan => exact rule.arm hallowed hplan h

lemma disarm (arm : ℕ) (h : P limit) : P (limit.disarm arm) := by
  unfold Limit.disarm
  cases harmed : limit.armed with
  | none => exact h
  | some armed =>
    obtain ⟨kind, target, number⟩ := armed
    simp only
    split
    · cases kind with
      | probe => exact rule.disarmProbe harmed h
      | setupProbe => exact rule.disarmSetup harmed h
      | _ => exact rule.unarm h
    · exact h

lemma setDemand (needingNew nonFinal now : ℕ) (h : P limit) :
    P (limit.setDemand needingNew nonFinal now) := by
  have hdemand : P { limit with needingNew, nonFinal } :=
    rule.quiet (a := limit) ⟨rfl, fun _ => rfl⟩ h
  unfold Limit.setDemand
  simp only
  split
  · rename_i hidle
    obtain ⟨restore, hrestore, hempty⟩ :
        ∃ restore, limit.restore = some restore ∧ restore.step = ∅ := by
      cases hrestore : limit.restore with
      | none => simp [hrestore] at hidle
      | some restore => exact ⟨restore, rfl, by simpa [hrestore] using hidle.2.2⟩
    exact rule.endRestore now hrestore hempty hdemand
  · exact hdemand

lemma result (hallowed : allowed limit ⟨.result attempt outcome, now⟩) (h : P limit) :
    P (limit.result attempt outcome now).2 := by
  have hadvance := rule.quiet (quiet_advance limit now) h
  rcases result_cases limit attempt outcome now with
    ⟨-, heq⟩ | ⟨htarget, -, heq⟩ | ⟨window, stored, hwindow, htarget, heq⟩
  · rwa [heq]
  · rw [heq]
    have htarget : (limit.advance now).targets[attempt]? = none := htarget
    exact rule.lost htarget hadvance
  · rw [heq]
    exact rule.judged hallowed hwindow htarget h

lemma recovered (now : ℕ) (h : P limit) : P (limit.recovered now) := by
  rcases recovered_cases limit now with
    hquiet | hquiet | ⟨good, houtage, hadaptive, hn, hrestore, heq⟩
  · exact rule.quiet hquiet h
  · exact rule.quiet hquiet (rule.cleared h)
  · rw [heq]
    refine rule.restores houtage hadaptive hn hrestore ?_
    exact rule.quiet ((quiet_advance limit now).trans ⟨rfl, fun _ => rfl⟩) h

/-- The step lemma: what has the rule survives every allowed call. -/
lemma step (timed : TimedCall) (hallowed : allowed limit timed)
    (h : P limit) : P (limit.step timed) := by
  obtain ⟨call, now⟩ := timed
  cases call with
  | conn id event => exact rule.conn id event now h
  | connectTime | takeHold | restoreHold | idleDiscarded | down | drainNotes =>
    exact rule.quiet (a := limit) ⟨rfl, fun _ => rfl⟩ h
  | gateOpen => exact rule.quiet (quiet_gateOpen limit now) h
  | admitsOrdinary => exact rule.quiet (quiet_admitsOrdinary limit now) h
  | admitsFirstExchange | admitsContinuing | testDue | setupTest =>
    exact rule.quiet (quiet_advance limit now) h
  | closesSuppressed => exact rule.quiet (quiet_closesSuppressed limit now) h
  | admitAttempt => exact rule.admitAttempt hallowed h
  | beginAttempt attempt kind target own clocked =>
    refine rule.begun clocked now h fun hfree => ?_
    cases hkind : kind.isTest with
    | false => exact rule.plain target own hkind hfree h
    | true => exact rule.given hallowed hkind hfree h
  | beginArmed attempt own clocked => exact rule.beginArmed own clocked h
  | armTest => exact rule.armTest hallowed h
  | takeArmed => exact rule.unarm h
  | disarm arm => exact rule.disarm arm h
  | freeze attempt => exact rule.quiet (quiet_freeze limit attempt) h
  | result => exact rule.result hallowed h
  | setDemand needingNew nonFinal => exact rule.setDemand needingNew nonFinal now h
  | observedSuccess => exact rule.observed hallowed h
  | beginOutage => exact rule.outage h
  | recovered => exact rule.recovered now h
  | setHold =>
    exact rule.quiet ((quiet_advance limit now).trans ⟨rfl, fun _ => rfl⟩) h
  | tick => exact rule.quiet (quiet_tick limit now) h

end

/-- The run lemma, for what needs no condition. -/
lemma run_all (rule : StepRule (fun _ _ => True) P) {h1 : 1 ≤ C} {adaptive : Bool} {spread : Spread}
    {table : Table} (hinit : P ((new h1 adaptive spread).seed table)) (calls : List TimedCall) :
    P (run h1 adaptive spread table calls) :=
  Steps.run_induction hinit (fun _ timed h => rule.step timed trivial h) calls

/-- The run lemma. -/
lemma run (rule : StepRule allowed P) {h1 : 1 ≤ C} {adaptive : Bool} {spread : Spread}
    {table : Table} (hinit : P ((Limit.new h1 adaptive spread).seed table)) {calls : List TimedCall}
    (hmeets : Steps.Meets allowed Limit.step ((Limit.new h1 adaptive spread).seed table) calls) :
    P (Limit.run h1 adaptive spread table calls) :=
  Steps.run_induction_of_meets hinit (fun _ timed hallowed h => rule.step timed hallowed h) hmeets

end StepRule

end Limit

end GwzCore.SetupRetry
