import GwzCore.Lib.Steps
import GwzCore.SetupRetry.Fsm
import GwzCore.SetupRetry.Hold

/-!
# One key's limit discovery

The state table, the windows, the machine of `N` and its timer, the hold, the
confirmation, the test slot, the restore step and the setup limit `Ns`, behind
the calls an endpoint makes. Time is a number the caller supplies. The ceiling is
the key's for the whole operation, so it is an index of the type.
-/
namespace GwzCore.SetupRetry

/-- What an admitted attempt is. -/
inductive Start where
  | ordinary
  | probe
  | confirming
  | restore (target : ℕ)
  | setupProbe
  deriving DecidableEq

/-- How an attempt ended. -/
inductive Outcome where
  /-- `fresh` is false when the pool leased an idle connection: no setup. -/
  | succeeded (fresh : Bool)
  | refused (signal : Signal) (retryAfterMs : Option ℕ) (post : Bool)
  | ended
  deriving DecidableEq

/-- What a result was to the machine. -/
inductive Ruling where
  | succeeded
  | refuted
  | unfair
  | ended
  | retryMachine
  | inconclusive
  | holdOnly
  | overload (n : ℕ)
  | confirmation
  | refusedTest
  | setupLimit
  deriving DecidableEq

/-- A test that is due: what it is, its admission target, and whether it can start. -/
structure TestPlan where
  kind : AttemptKind
  target : ℕ
  ready : Bool
  deriving DecidableEq

/-- A restore step: a judged doubling toward the good `N`. -/
structure Restore where
  good : ℕ
  target : ℕ
  /-- The step's starts that have no result yet. -/
  step : Finset AttemptId
  started : Bool
  refused : Bool
  /-- The new connections the step may still start. -/
  quota : ℕ
  deriving DecidableEq

/-- The co-setups of a conclusive drop, awaited. -/
structure SetupWindow where
  pending : Finset ConnId
  succeeded : ℕ
  deriving DecidableEq

/-- `Ns`, its machine and its timer, and the setup test in flight. -/
structure SetupLimit (ceiling : ℕ) where
  fsm : Fsm ceiling
  timer : Timer := {}
  window : Option SetupWindow := none
  test : Option AttemptId := none

namespace SetupLimit

variable {C : ℕ}

/-- A test that said nothing is due again. -/
def rearm (setups : SetupLimit C) (now : ℕ) : SetupLimit C :=
  { setups with fsm := setups.fsm.testInconclusive, timer := setups.timer.makeDue now }

/-- A window is open: new setups are held until it resolves. -/
def holds (setups : SetupLimit C) : Bool := setups.window.isSome

end SetupLimit

/-- One key. `armed` is a test started for a carrier whose connection has not yet
begun, with the number of its arming. -/
structure Limit (ceiling : ℕ) where
  adaptive : Bool
  table : Table := {}
  windows : Windows := ∅
  fsm : Fsm ceiling
  timer : Timer := {}
  spread : Spread
  hold : Hold := {}
  notes : Notes := {}
  targets : FiniteMap AttemptId ℕ := ∅
  testSlot : Option AttemptId := none
  armed : Option (AttemptKind × ℕ × ℕ) := none
  arms : ℕ := 0
  confirmation : Bool := false
  barrier : Finset ConnId := ∅
  needingNew : ℕ := 0
  nonFinal : ℕ := 0
  lastGood : ℕ := ceiling
  outage : Option ℕ := none
  restore : Option Restore := none
  setups : SetupLimit ceiling

namespace Limit

variable {C : ℕ}

def new (h : 1 ≤ C) (adaptive : Bool) (spread : Spread) : Limit C where
  adaptive
  fsm := Fsm.new h
  spread
  setups := { fsm := Fsm.new h }

/-- Starts from the table of connections the site already has. -/
def seed (limit : Limit C) (table : Table) : Limit C := { limit with table }

def advance (limit : Limit C) (now : ℕ) : Limit C := { limit with table := limit.table.advance now }

def flushNotes (limit : Limit C) (now : ℕ) : Limit C :=
  { limit with
    notes := limit.notes.flush now limit.fsm.n C (limit.table.setupsInFlight = 0) }

/-- The next expiry of `N`'s timer is drawn. -/
def armTimer (limit : Limit C) (now : ℕ) : Limit C :=
  { limit with
    timer := limit.timer.arm limit.spread.draw.1 now
    spread := limit.spread.draw.2 }

/-- The next expiry of `Ns`'s timer is drawn, from the same source. -/
def armSetupTimer (limit : Limit C) (now : ℕ) : Limit C :=
  { limit with
    setups := { limit.setups with timer := limit.setups.timer.arm limit.spread.draw.1 now }
    spread := limit.spread.draw.2 }

/-! ## The restore step -/

/-- The retry machine left Cold or Healthy: the good `N` is kept for the outage. -/
def beginOutage (limit : Limit C) : Limit C :=
  { limit with outage := some (limit.outage.getD limit.lastGood) }

def stepTarget (limit : Limit C) (good : ℕ) : ℕ :=
  max limit.fsm.n (min good (2 * max limit.table.connected 1))

/-- The starts a step takes: the room below its target now, and at least one. -/
def stepQuota (limit : Limit C) (target : ℕ) : ℕ := max (target - limit.table.possible) 1

/-- The retry machine is healthy again: when the outage left `N` below the good
one, a restore begins. -/
def recovered (limit : Limit C) (now : ℕ) : Limit C :=
  let limit := { limit with notes := limit.notes.healthy }
  match limit.outage with
  | none => limit
  | some good =>
    let limit := { limit with outage := none }
    if !limit.adaptive || good ≤ limit.fsm.n || limit.restore.isSome then limit
    else
      let limit := limit.advance now
      let limit := { limit with fsm := limit.fsm.beginRestore }
      let target := limit.stepTarget good
      { limit with restore := some ⟨good, target, ∅, false, false, limit.stepQuota target⟩ }

/-- The restore is over, at the current `N`. -/
def endRestore (limit : Limit C) (now : ℕ) : Limit C :=
  armTimer
    { limit with restore := none, fsm := limit.fsm.endRestore, timer := limit.timer.reset } now

/-- The step with the result of one of its starts, if the attempt was one. -/
def stepResult (restore : Restore) (attempt : AttemptId) (kind : AttemptKind) (refused : Bool) :
    Restore :=
  if kind = .restore then
    { restore with step := restore.step.erase attempt, refused := restore.refused || refused }
  else restore

/-- A result, seen by the restore: when every start of the step has one, a refusal
or reaching the good `N` ends it, and otherwise the next step doubles. -/
def restoreProgress (limit : Limit C) (attempt : AttemptId) (kind : AttemptKind) (refused : Bool)
    (now : ℕ) : Limit C :=
  if limit.fsm.state ≠ .restoring then { limit with restore := none }
  else
    match limit.restore with
    | none => limit
    | some restore =>
      let restore := stepResult restore attempt kind refused
      if !restore.started || restore.step.Nonempty then { limit with restore := some restore }
      else if restore.refused || restore.good ≤ limit.fsm.n then
        endRestore { limit with restore := some restore } now
      else
        let target := limit.stepTarget restore.good
        { limit with
          restore := some
            { restore with target, started := false, quota := limit.stepQuota target } }

/-! ## Room and the pool's limit -/

/-- Whether the restore step in progress may still start a connection. -/
def stepHasStarts (limit : Limit C) : Bool :=
  match limit.restore with
  | none => true
  | some restore => 0 < restore.quota

/-- How many connections may be possible before ordinary starts stop. -/
def roomTarget (limit : Limit C) : ℕ :=
  match limit.restore with
  | none => limit.fsm.n
  | some restore => restore.target

def nRoom (limit : Limit C) : Bool :=
  match limit.fsm.state with
  | .saturated => limit.table.held < C
  | _ => limit.table.possible < limit.roomTarget && limit.stepHasStarts

/-- Whether another setup may be in flight. -/
def setupRoom (limit : Limit C) : Bool :=
  limit.setups.fsm.state = .saturated || limit.table.settingUp < limit.setups.fsm.n

/-- Whether the site has room for one more connection of this operation. -/
def hasRoom (limit : Limit C) : Bool :=
  (limit.fsm.state = .saturated ||
    (limit.table.possible < limit.roomTarget && limit.stepHasStarts)) && limit.setupRoom

/-- The target of the test of `N` in flight. A setup test counts setups, not
connections. -/
def slotTarget (limit : Limit C) : Option ℕ :=
  match limit.testSlot with
  | none => none
  | some attempt => if limit.setups.test = some attempt then none else limit.targets[attempt]?

/-- The target of the armed test of `N`. -/
def armedTarget (limit : Limit C) : Option ℕ :=
  match limit.armed with
  | none => none
  | some (kind, target, _) => if kind = .setupProbe then none else some target

/-- The number of connections the pool may hold on the key. -/
def poolLimit (limit : Limit C) : ℕ :=
  ((limit.slotTarget).or limit.armedTarget).getD limit.roomTarget

/-- How long the pool holds a freed slot of the key. -/
def settleMs (limit : Limit C) : ℕ :=
  if limit.fsm.state = .saturated then 0 else limit.table.settle.ts

/-- How many setups may be in flight. -/
def setupAllowance (limit : Limit C) : ℕ :=
  if limit.setups.fsm.state = .saturated then u64Max
  else
    let testing := limit.setups.test.isSome ||
      match limit.armed with
      | none => false
      | some (kind, _, _) => kind = .setupProbe
    limit.setups.fsm.n + (if testing then 1 else 0)

/-- What a new connection that is not a test starts as. -/
def startKind (limit : Limit C) : AttemptKind × ℕ :=
  match limit.restore with
  | some restore => (.restore, restore.target)
  | none => (.ordinary, limit.poolLimit)

/-! ## The setup limit -/

def setupTestRearm (limit : Limit C) (now : ℕ) : Limit C :=
  { limit with setups := limit.setups.rearm now }

/-- `Ns` becomes the number of co-setups that succeeded, once none is awaited. -/
def setupWindowResolved (limit : Limit C) (now : ℕ) : Limit C :=
  match limit.setups.window with
  | none => limit
  | some window =>
    if window.pending = ∅ then
      armSetupTimer
        { limit with
          setups := { limit.setups with
            window := none
            fsm := limit.setups.fsm.overload window.succeeded u64Max
            timer := limit.setups.timer.reset } } now
    else limit

/-- The open window with a setup's change of state. -/
def SetupWindow.changed (window : SetupWindow) (change : Change) : SetupWindow :=
  if change.source = some .settingUp ∧ change.conn ∈ window.pending then
    ⟨window.pending.erase change.conn,
      if change.target = .connected then window.succeeded + 1 else window.succeeded⟩
  else window

/-- A setup left its state: the window counts it, and resolves when it can. -/
def setupChanged (limit : Limit C) (change : Change) (now : ℕ) : Limit C :=
  setupWindowResolved
    { limit with
      setups := { limit.setups with
        window := limit.setups.window.map fun window => SetupWindow.changed window change } } now

/-- A fresh success beside setups that stayed in progress: the server held that many. -/
def setupSucceeded (limit : Limit C) (closed : ClosedWindow) (target now : ℕ) : Ruling × Limit C :=
  let others := closed.loS.card
  if closed.kind ≠ .setupProbe then
    (.succeeded,
      { limit with setups := { limit.setups with fsm := limit.setups.fsm.success (others + 1) } })
  else if fair target others then
    (.succeeded, { limit with
      setups := { limit.setups with
        fsm := limit.setups.fsm.testSucceeded (others + 1) true
        timer := limit.setups.timer.reset } })
  else
    (.unfair, { limit with
      setups := { limit.setups with
        fsm := limit.setups.fsm.testSucceeded (others + 1) false
        timer := limit.setups.timer.makeDue now } })

/-- A drop before authentication. `target` is the setup test's. -/
def setupDropped (limit : Limit C) (closed : ClosedWindow) (target now : ℕ) : Ruling × Limit C :=
  if !limit.adaptive then (.retryMachine, limit)
  else if closed.kind = .setupProbe then
    if !fair target closed.loS.card then (.unfair, limit.setupTestRearm now)
    else
      (.refusedTest, armSetupTimer
        { limit with
          setups := { limit.setups with
            fsm := limit.setups.fsm.probeRefused.2
            timer := limit.setups.timer.refused limit.setups.fsm.probeRefused.1 } } now)
  else if closed.hiS = 0 then (.retryMachine, limit)
  else if limit.setups.fsm.n ≤ closed.hiS || limit.setups.holds then (.inconclusive, limit)
  else
    let pending := closed.loS.filter fun conn => limit.table.isClockedSetup conn
    let succeeded := (closed.loS.filter fun conn => limit.table.phase conn = some .connected).card
    (.setupLimit, setupWindowResolved
      { limit with setups := { limit.setups with window := some ⟨pending, succeeded⟩ } } now)

/-! ## Connections, the gate and the tests -/

/-- Reports a connection's state change, in the order it happened. -/
def conn (limit : Limit C) (id : ConnId) (event : ConnEvent) (now : ℕ) : Limit C :=
  let limit' := { limit with table := (limit.table.apply id event now).2 }
  match (limit.table.apply id event now).1 with
  | none => limit'.flushNotes now
  | some change =>
    (setupChanged { limit' with windows := limit'.windows.observe change } change
      now).flushNotes now

def connectTime (limit : Limit C) (ms : ℕ) : Limit C :=
  { limit with table := { limit.table with settle := limit.table.settle.observeConnect ms } }

/-- Whether new connections may start at all. -/
def gateOpen (limit : Limit C) (now : ℕ) : Bool × Limit C :=
  let limit := limit.advance now
  if limit.hold.inForce now || limit.confirmation || limit.setups.holds || limit.testSlot.isSome ||
      limit.armed.isSome then (false, limit)
  else if limit.table.anyWindingDown limit.barrier then (false, limit)
  else (true, { limit with barrier := ∅ })

/-- Whether an ordinary start on a new connection may begin now. -/
def admitsOrdinary (limit : Limit C) (now : ℕ) : Bool × Limit C :=
  let (gate, limit) := limit.gateOpen now
  (gate && limit.nRoom && limit.setupRoom, limit)

/-- Whether an open may begin its first exchange on a leased connection. -/
def admitsFirstExchange (limit : Limit C) (now : ℕ) : Bool × Limit C :=
  (!limit.hold.inForce now, limit.advance now)

/-- Whether a member past its discovery may send its next exchange. -/
def admitsContinuing (limit : Limit C) (now : ℕ) : Bool × Limit C :=
  (!limit.hold.blocksContinuing now, limit.advance now)

/-- The test of `N` that is due, on a table brought forward. -/
def duePlan (limit : Limit C) (now : ℕ) : Option TestPlan :=
  if limit.testSlot.isSome || limit.armed.isSome || limit.hold.inForce now then none
  else if limit.confirmation then
    if 0 < limit.needingNew then
      some ⟨.confirming, limit.table.connected + 1, limit.table.isQuiet⟩
    else none
  else
    let due := match limit.fsm.state with
      | .discovering => true
      | .stable => limit.timer.expired now
      | .probing | .saturated | .restoring => false
    if due && 0 < limit.nonFinal then
      some ⟨.probe, limit.fsm.n + 1, limit.table.isQuiet && limit.table.connected = limit.fsm.n⟩
    else none

def testDue (limit : Limit C) (now : ℕ) : Option TestPlan × Limit C :=
  let limit := limit.advance now
  (limit.duePlan now, limit)

/-- The setup test that is due, on a table brought forward. -/
def setupPlan (limit : Limit C) (now : ℕ) : Option TestPlan :=
  if limit.testSlot.isSome || limit.armed.isSome || limit.confirmation || limit.setups.holds ||
      limit.hold.inForce now then none
  else
    let due := match limit.setups.fsm.state with
      | .discovering => true
      | .stable => limit.setups.timer.expired now
      | .probing | .saturated | .restoring => false
    if due && 0 < limit.nonFinal then
      some ⟨.setupProbe, limit.setups.fsm.n + 1,
        limit.table.settingUp = limit.setups.fsm.n && limit.nRoom⟩
    else none

def setupTest (limit : Limit C) (now : ℕ) : Option TestPlan × Limit C :=
  let limit := limit.advance now
  (limit.setupPlan now, limit)

/-- The test a carrier may start: `N`'s first, then the setup limit's. -/
def startablePlan (limit : Limit C) (carrierFinal : Bool) (now : ℕ) : Option TestPlan :=
  match (limit.duePlan now).filter fun plan =>
      plan.ready && !(carrierFinal && plan.kind = .probe) with
  | some plan => some plan
  | none => (limit.setupPlan now).filter fun plan => plan.ready && !carrierFinal

/-- Starts the due test for a carrier: the next connection on the site is the test.
Returns the admission target and the number of the arming. -/
def armTest (limit : Limit C) (carrierFinal : Bool) (now : ℕ) : Option (ℕ × ℕ) × Limit C :=
  let limit := limit.advance now
  match limit.startablePlan carrierFinal now with
  | none => (none, limit)
  | some plan =>
    let limit := { limit with
      arms := limit.arms + 1
      armed := some (plan.kind, plan.target, limit.arms + 1) }
    (some (limit.poolLimit, limit.arms), limit)

/-- The connection the host has begun is the armed test. -/
def takeArmed (limit : Limit C) : Option (AttemptKind × ℕ) × Limit C :=
  (limit.armed.map fun armed => (armed.1, armed.2.1), { limit with armed := none })

/-- A test that said nothing is due again when the key is next quiet. -/
def rearm (limit : Limit C) (now : ℕ) : Limit C :=
  { limit with fsm := limit.fsm.testInconclusive, timer := limit.timer.makeDue now }

/-- The carrier of arming `arm` ended with no connection of its own. -/
def disarm (limit : Limit C) (arm : ℕ) : Limit C :=
  match limit.armed with
  | none => limit
  | some (kind, _, armed) =>
    if armed = arm then
      match kind with
      | .setupProbe => setupTestRearm { limit with armed := none } 0
      | .probe => rearm { limit with armed := none } 0
      | _ => { limit with armed := none }
    else limit

/-- Whether the client must close and evict nothing on the key. -/
def closesSuppressed (limit : Limit C) (now : ℕ) : Bool × Limit C :=
  let (plan, limit) := limit.testDue now
  match plan with
  | none => (false, limit)
  | some plan =>
    let baseFailed := limit.table.isQuiet && limit.table.connected ≠ limit.fsm.n
    (!plan.ready &&
      (plan.kind = .confirming || (limit.fsm.n ≤ limit.table.possible && !baseFailed)), limit)

/-! ## Attempts -/

/-- A restore step with one more start. -/
def Restore.join (restore : Restore) (attempt : AttemptId) (own : Own) : Restore :=
  { restore with
    step := insert attempt restore.step
    started := true
    quota := if own.isNew then restore.quota - 1 else restore.quota }

/-- What a begun attempt's kind does to the machines and the restore. -/
def took (limit : Limit C) (attempt : AttemptId) (kind : AttemptKind) (own : Own) : Limit C :=
  match kind with
  | .ordinary => limit
  | .probe => { limit with testSlot := some attempt, fsm := limit.fsm.testStarted }
  | .confirming => { limit with testSlot := some attempt }
  | .setupProbe =>
    { limit with
      testSlot := some attempt
      setups := { limit.setups with test := some attempt, fsm := limit.setups.fsm.testStarted } }
  | .restore =>
    { limit with restore := limit.restore.map fun restore => Restore.join restore attempt own }

/-- Opens `attempt`'s window, and starts its connection in the table when it is
new, without asking admission again. False, changing nothing, if the attempt is
already in flight. -/
def beginAttempt (limit : Limit C) (attempt : AttemptId) (kind : AttemptKind)
    (target : ℕ) (own : Own) (clocked : Bool) (now : ℕ) : Bool × Limit C :=
  if limit.targets.contains attempt then (false, limit)
  else
    match limit.windows.openWindow attempt kind own limit.table with
    | (false, _) => (false, limit)
    | (true, windows) =>
      let limit := took
        { limit with windows, targets := limit.targets.insert attempt target } attempt kind own
      match own with
      | .new conn => (true, limit.conn conn (.started clocked) now)
      | .leased _ => (true, limit)

/-- The kind and target a start is admitted with, if the rules admit it. -/
def admitted (limit : Limit C) (start : Start) (own : Own) (now : ℕ) :
    Option (AttemptKind × ℕ) × Limit C :=
  match start with
  | .ordinary =>
    let (admitted, limit) :=
      if own.isNew then limit.admitsOrdinary now else limit.admitsFirstExchange now
    let target := if limit.fsm.state = .saturated then C else limit.fsm.n
    (if admitted then some (.ordinary, target) else none, limit)
  | .probe =>
    let (plan, limit) := limit.testDue now
    ((plan.filter fun plan => plan.kind = .probe && plan.ready && own.isNew).map
      fun plan => (.probe, plan.target), limit)
  | .confirming =>
    let (plan, limit) := limit.testDue now
    ((plan.filter fun plan => plan.kind = .confirming && plan.ready && own.isNew).map
      fun plan => (.confirming, plan.target), limit)
  | .setupProbe =>
    let (plan, limit) := limit.setupTest now
    ((plan.filter fun plan => plan.ready && own.isNew).map
      fun plan => (.setupProbe, plan.target), limit)
  | .restore target =>
    let (admitted, limit) := limit.admitsFirstExchange now
    (if admitted then some (.restore, target) else none, limit)

/-- Admits an attempt and begins it. Returns the admission target. -/
def admitAttempt (limit : Limit C) (attempt : AttemptId) (start : Start) (own : Own)
    (clocked : Bool) (now : ℕ) : Option ℕ × Limit C :=
  if limit.targets.contains attempt then (none, limit)
  else
    match limit.admitted start own now with
    | (none, limit) => (none, limit)
    | (some (kind, target), limit) =>
      let (began, limit) := limit.beginAttempt attempt kind target own clocked now
      (if began then some target else none, limit)

/-- The attempt's connection ended: its window stops observing. -/
def freeze (limit : Limit C) (attempt : AttemptId) : Limit C :=
  { limit with windows := limit.windows.freeze attempt }

/-! ## Results -/

/-- Notes what a result did to `N` and the state, and flushes the notes. -/
def settled (limit : Limit C) (before : ℕ × Fsm.State) (now : ℕ) : Limit C :=
  let limit := if limit.fsm.n = before.1 then limit
    else { limit with notes := limit.notes.nChanged limit.fsm.n }
  let limit := if limit.fsm.state = .saturated ∧ before.2 ≠ .saturated then
      { limit with timer := limit.timer.disarm, notes := limit.notes.saturated C }
    else limit
  limit.flushNotes now

def endedAs (limit : Limit C) (kind : AttemptKind) (now : ℕ) : Limit C :=
  match kind with
  | .probe | .confirming => limit.rearm now
  | .setupProbe => limit.setupTestRearm now
  | .ordinary | .restore => limit

def succeededAs (limit : Limit C) (closed : ClosedWindow) (target : ℕ) (fresh : Bool) (now : ℕ) :
    Ruling × Limit C :=
  let connected := limit.table.connected
  match closed.kind with
  | .probe =>
    if !fresh then (.unfair, limit.rearm now)
    else if fair target closed.lo then
      (.succeeded,
        { limit with fsm := limit.fsm.testSucceeded connected true, timer := limit.timer.reset })
    else
      (.unfair, { limit with
        fsm := limit.fsm.testSucceeded connected false
        timer := limit.timer.makeDue now })
  | .confirming =>
    if !fresh then (.unfair, limit)
    else (.refuted, { limit with fsm := limit.fsm.success connected, confirmation := false })
  | .ordinary | .restore | .setupProbe =>
    (.succeeded, { limit with fsm := limit.fsm.success connected })

def succeeded (limit : Limit C) (closed : ClosedWindow) (target stored : ℕ) (fresh : Bool)
    (now : ℕ) : Ruling × Limit C :=
  let (ruling, limit) := limit.succeededAs closed target fresh now
  if fresh then
    let (setup, limit) := setupSucceeded { limit with lastGood := limit.fsm.n } closed stored now
    (if closed.kind = .setupProbe then setup else ruling, limit)
  else if closed.kind = .setupProbe then (.unfair, limit.setupTestRearm now)
  else (ruling, limit)

def refused (limit : Limit C) (evidence : Evidence) (closed : ClosedWindow) (now : ℕ) :
    Ruling × Limit C :=
  match evidence with
  | .retryMachine =>
    (.retryMachine,
      { limit with confirmation := limit.confirmation && closed.kind ≠ .confirming })
  | .inconclusive =>
    (.inconclusive,
      if limit.adaptive then { limit with barrier := limit.barrier ∪ closed.windingDown }
      else limit)
  | .holdOnly => (.holdOnly, limit)
  | .overload =>
    let limit := armTimer
      { limit with
        fsm := limit.fsm.overload limit.table.connected closed.hi
        confirmation := false
        timer := limit.timer.reset
        notes := limit.notes.overload } now
    (.overload limit.fsm.n, limit)
  | .confirm =>
    if limit.confirmation then (.inconclusive, limit)
    else (.confirmation, { limit with confirmation := true })
  | .unfairTest => (.unfair, limit.rearm now)
  | .refusedTest =>
    (.refusedTest, armTimer
      { limit with
        fsm := limit.fsm.probeRefused.2
        timer := limit.timer.refused limit.fsm.probeRefused.1 } now)

/-- A `Retry-After` sets the hold, with its note. -/
def holdFor (limit : Limit C) (retryAfterMs : ℕ) (post : Bool) (now : ℕ) : Limit C :=
  let set := limit.hold.set retryAfterMs (if post then .post else .discovery) now
  { limit with
    hold := set.2
    notes := match set.1 with
      | none => limit.notes
      | some wait => limit.notes.hold wait }

def holdForAsked (limit : Limit C) (retryAfterMs : Option ℕ) (post : Bool) (now : ℕ) : Limit C :=
  match retryAfterMs with
  | none => limit
  | some ms => limit.holdFor ms post now

/-- What an outcome does to the machines, for an attempt whose window has closed. -/
def ruled (limit : Limit C) (closed : ClosedWindow) (stored : ℕ) (outcome : Outcome) (now : ℕ) :
    Ruling × Limit C :=
  -- an ordinary refusal is judged against the `N` in force at its result
  let target := if closed.kind = .ordinary ∨ closed.kind = .setupProbe then limit.fsm.n else stored
  match outcome with
  | .ended => (.ended, limit.endedAs closed.kind now)
  | .succeeded fresh => limit.succeeded closed target stored fresh now
  | .refused .setupDrop _ _ =>
    let limit := if closed.kind = .setupProbe then limit else limit.endedAs closed.kind now
    limit.setupDropped closed stored now
  | .refused signal retryAfterMs post =>
    let limit := limit.holdForAsked retryAfterMs post now
    let refusal : Refusal := ⟨closed.kind, signal, target, closed.lo, closed.hi, limit.adaptive⟩
    let limit := if closed.kind = .setupProbe then limit.setupTestRearm now else limit
    limit.refused (evidence refusal) closed now

def Outcome.isRefused : Outcome → Bool
  | .refused _ _ _ => true
  | _ => false

/-- The attempt is in flight no more. -/
def retire (limit : Limit C) (attempt : AttemptId) : Limit C :=
  { limit with
    windows := limit.windows.erase attempt
    targets := limit.targets.erase attempt
    testSlot := if limit.testSlot = some attempt then none else limit.testSlot
    setups := { limit.setups with
      test := if limit.setups.test = some attempt then none else limit.setups.test } }

/-- An attempt's result. None if the attempt is not in flight. -/
def result (limit : Limit C) (attempt : AttemptId) (outcome : Outcome) (now : ℕ) :
    Option Ruling × Limit C :=
  let limit := limit.advance now
  match limit.windows[attempt]? with
  | none => (none, limit)
  | some window =>
    match limit.targets[attempt]? with
    | none => (none, { limit with windows := limit.windows.erase attempt })
    | some stored =>
      let limit := limit.retire attempt
      let before := (limit.fsm.n, limit.fsm.state)
      let (ruling, limit) := limit.ruled window.close stored outcome now
      let limit := limit.restoreProgress attempt window.kind (Outcome.isRefused outcome) now
      (some ruling, limit.settled before now)

/-! ## Demand, other operations, holds and time -/

/-- The queued members that need a new connection, and how many of them are not on
their final attempt. With none to carry a restore step, the restore ends. -/
def setDemand (limit : Limit C) (needingNew nonFinal now : ℕ) : Limit C :=
  let limit := { limit with needingNew, nonFinal }
  let idle := match limit.restore with
    | none => false
    | some restore => restore.step = ∅
  if 0 < needingNew ∧ nonFinal = 0 ∧ idle = true then limit.endRestore now else limit

/-- Another operation's connection was answered: the server held every connection
now connected at once. -/
def observedSuccess (limit : Limit C) (now : ℕ) : Limit C :=
  let before := (limit.fsm.n, limit.fsm.state)
  let limit := limit.advance now
  let limit := { limit with fsm := limit.fsm.success limit.table.connected }
  settled { limit with lastGood := limit.fsm.n } before now

def holding (limit : Limit C) (now : ℕ) : Bool := limit.hold.inForce now

/-- The hold, if one is in force: what a machine of the same key inherits. -/
def holdInForce (limit : Limit C) (now : ℕ) : Option Hold :=
  if limit.hold.inForce now then some limit.hold else none

def takeHold (limit : Limit C) : Hold × Limit C := (limit.hold, { limit with hold := {} })

def restoreHold (limit : Limit C) (hold : Hold) : Limit C := { limit with hold }

/-- A `Retry-After` that came with no attempt in flight. -/
def setHold (limit : Limit C) (retryAfterMs : ℕ) (post : Bool) (now : ℕ) : Limit C :=
  ((limit.advance now).holdFor retryAfterMs post now).flushNotes now

def idleDiscarded (limit : Limit C) (now : ℕ) : Limit C :=
  flushNotes { limit with hold := limit.hold.idleDiscarded } now

/-- Advances time. True asks the endpoint to discard the key's idle connections. -/
def tick (limit : Limit C) (now : ℕ) : Bool × Limit C :=
  let limit := limit.advance now
  let (due, hold) := limit.hold.discardDue now
  (due, flushNotes { limit with hold } now)

def down (limit : Limit C) (now : ℕ) : Limit C :=
  flushNotes { limit with notes := limit.notes.down } now

def drainNotes (limit : Limit C) : List Note × Limit C :=
  (limit.notes.drain.1, { limit with notes := limit.notes.drain.2 })

end Limit

/-! ## Runs of calls -/

/-- A call on one key that may change it. -/
inductive Call where
  | conn (id : ConnId) (event : ConnEvent)
  | connectTime (ms : ℕ)
  | gateOpen
  | admitsOrdinary
  | admitsFirstExchange
  | admitsContinuing
  | testDue
  | setupTest
  | closesSuppressed
  | admitAttempt (attempt : AttemptId) (start : Start) (own : Own) (clocked : Bool)
  | beginAttempt (attempt : AttemptId) (kind : AttemptKind) (target : ℕ) (own : Own)
    (clocked : Bool)
  | beginArmed (attempt : AttemptId) (own : Own) (clocked : Bool)
  | armTest (carrierFinal : Bool)
  | takeArmed
  | disarm (arm : ℕ)
  | freeze (attempt : AttemptId)
  | result (attempt : AttemptId) (outcome : Outcome)
  | setDemand (needingNew nonFinal : ℕ)
  | observedSuccess
  | beginOutage
  | recovered
  | setHold (retryAfterMs : ℕ) (post : Bool)
  | takeHold
  | restoreHold (hold : Hold)
  | idleDiscarded
  | tick
  | down
  | drainNotes

/-- A call and its time. -/
structure TimedCall where
  call : Call
  now : ℕ

namespace Limit

variable {C : ℕ}

/-- A connection begins as the test armed for it, or else as an ordinary start or
a restore step's: what an observed start of the operation's own is. -/
def beginArmed (limit : Limit C) (attempt : AttemptId) (own : Own) (clocked : Bool) (now : ℕ) :
    Bool × Limit C :=
  match limit.takeArmed with
  | (some (kind, target), limit) => limit.beginAttempt attempt kind target own clocked now
  | (none, limit) =>
    limit.beginAttempt attempt limit.startKind.1 limit.startKind.2 own clocked now

def step (limit : Limit C) (timed : TimedCall) : Limit C :=
  let now := timed.now
  match timed.call with
  | .conn id event => limit.conn id event now
  | .connectTime ms => limit.connectTime ms
  | .gateOpen => (limit.gateOpen now).2
  | .admitsOrdinary => (limit.admitsOrdinary now).2
  | .admitsFirstExchange => (limit.admitsFirstExchange now).2
  | .admitsContinuing => (limit.admitsContinuing now).2
  | .testDue => (limit.testDue now).2
  | .setupTest => (limit.setupTest now).2
  | .closesSuppressed => (limit.closesSuppressed now).2
  | .admitAttempt attempt start own clocked => (limit.admitAttempt attempt start own clocked now).2
  | .beginAttempt attempt kind target own clocked =>
    (limit.beginAttempt attempt kind target own clocked now).2
  | .beginArmed attempt own clocked => (limit.beginArmed attempt own clocked now).2
  | .armTest carrierFinal => (limit.armTest carrierFinal now).2
  | .takeArmed => limit.takeArmed.2
  | .disarm arm => limit.disarm arm
  | .freeze attempt => limit.freeze attempt
  | .result attempt outcome => (limit.result attempt outcome now).2
  | .setDemand needingNew nonFinal => limit.setDemand needingNew nonFinal now
  | .observedSuccess => limit.observedSuccess now
  | .beginOutage => limit.beginOutage
  | .recovered => limit.recovered now
  | .setHold retryAfterMs post => limit.setHold retryAfterMs post now
  | .takeHold => limit.takeHold.2
  | .restoreHold hold => limit.restoreHold hold
  | .idleDiscarded => limit.idleDiscarded now
  | .tick => (limit.tick now).2
  | .down => limit.down now
  | .drainNotes => limit.drainNotes.2

/-- A new key, seeded with the connections its site already has, after the calls. -/
def run (h : 1 ≤ C) (adaptive : Bool) (spread : Spread) (table : Table) (calls : List TimedCall) :
    Limit C :=
  Steps.run step ((Limit.new h adaptive spread).seed table) calls

end Limit

end GwzCore.SetupRetry
