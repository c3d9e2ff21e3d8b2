import GwzCore.Lib.Steps
import GwzCore.Lib.SwapRemove
import GwzCore.SetupRetry.Table

/-!
# One pool key's retry machine

The machine opens nothing itself: an endpoint asks it, for each member that wants
a connection, whether that member may start an attempt, and tells it how each
attempt ended. Attempts of several generations overlap: the generation moves on
whenever the key leaves Cold or Healthy, and when it goes Down or closes. Members
and failures are of any type.
-/
namespace GwzCore.SetupRetry

def u32Max : ℕ := 2 ^ 32 - 1

/-- One more, in a `u32` that saturates. -/
def u32Succ (n : ℕ) : ℕ := min (n + 1) u32Max

def firstWaitMs : ℕ := 1000

def maxWaitMs : ℕ := 30000

/-- The wait after attempt `attempt` fails: one second, doubling, capped. -/
def waitMs (attempt : ℕ) : ℕ :=
  let doublings := attempt - 1
  if doublings ≤ 14 then min (firstWaitMs * 2 ^ doublings) maxWaitMs else maxWaitMs

/-- What a failed open does to its member and its key. -/
inductive Verdict where
  | retry
  | close
  | returned
  deriving DecidableEq

namespace Machine

/-- The failure that finished a member, as attempt `attempt` of `attempts`. -/
structure Final (F : Type) where
  failure : F
  attempt : ℕ
  attempts : ℕ
  deriving DecidableEq

/-- Whether a member that wants a connection may start an attempt now. -/
inductive Decision (F : Type) where
  | start
  | wait
  | finish (last : Final F)
  deriving DecidableEq

/-- What a failed attempt does to its member; a sweep finishes every member queued
on the key too. -/
inductive Outcome (F : Type) where
  | retry
  | finish (last : Final F)
  | sweep (last : Final F)
  | returned
  deriving DecidableEq

/-- What a call changed about the key's health. -/
inductive Change where
  | left
  | healed
  | down
  deriving DecidableEq

/-- Milliseconds between a Down key's retests. -/
def retestMs : ℕ := 30000

/-- Failed retests in a row after which arrivals finish at once. -/
def giveUpAfter : ℕ := 2

structure Down (F : Type) where
  last : Final F
  retestAt : ℕ
  failedRetests : ℕ
  deriving DecidableEq

inductive State (F : Type) where
  | cold
  | healthy
  | waiting (untilMs : ℕ)
  | degraded (probe : Bool)
  | down (down : Down F)
  | closed (last : Final F)
  deriving DecidableEq

namespace State

variable {F : Type}

/-- Cold or Healthy: attempts start in parallel. -/
def calm : State F → Bool
  | .cold | .healthy => true
  | _ => false

def isDown : State F → Bool
  | .down _ => true
  | _ => false

end State

/-- A started attempt: its member, the generation it started in, the attempt it
counts as if it fails retriably, and whether it is a Down key's retest. -/
structure Flight (M : Type) where
  member : M
  generation : ℕ
  attempt : ℕ
  retest : Bool
  deriving DecidableEq

end Machine

/-- One pool key's retry machine within one operation. -/
structure Machine (M F : Type) where
  maxRetries : ℕ
  state : Machine.State F := .cold
  generation : ℕ := 0
  attempts : ℕ := 0
  flights : List (Machine.Flight M) := []
  change : Option Machine.Change := none
  wentDown : Bool := false
  deriving DecidableEq

namespace Machine

variable {M F : Type}

def new (maxRetries : ℕ) : Machine M F := { maxRetries }

/-- What the last calls changed about the key's health, once. -/
def takeChange (machine : Machine M F) : Option Change × Machine M F :=
  (machine.change, { machine with change := none })

/-- Whether the key went Down since the last call, once per episode. -/
def takeDown (machine : Machine M F) : Bool × Machine M F :=
  (machine.wentDown, { machine with wentDown := false })

/-- Past its wake, a waiting key admits one probe. -/
def wake (machine : Machine M F) (now : ℕ) : Machine M F :=
  match machine.state with
  | .waiting untilMs => if untilMs ≤ now then { machine with state := .degraded false } else machine
  | _ => machine

/-- The answer of a key that has been woken. -/
def answer (machine : Machine M F) (now : ℕ) : Decision F :=
  match machine.state with
  | .cold | .healthy | .degraded false => .start
  | .waiting _ | .degraded true => .wait
  | .down down =>
    if machine.flights.any (·.retest) then .wait
    else if down.retestAt ≤ now then .start
    else if giveUpAfter ≤ down.failedRetests then .finish { down.last with attempt := 0 }
    else .wait
  | .closed last => .finish last

/-- Whether a member that wants a connection at `now` may start an attempt. -/
def decide (machine : Machine M F) (now : ℕ) : Decision F × Machine M F :=
  ((machine.wake now).answer now, machine.wake now)

/-- Records the attempt `member` starts. A retest is no attempt of its member's. -/
def start (machine : Machine M F) (member : M) : Machine M F :=
  let state := match machine.state with
    | .degraded _ => .degraded true
    | state => state
  let retest := machine.state.isDown
  { machine with
    state
    flights := machine.flights ++ [{
      member
      generation := machine.generation
      attempt := if retest then 0 else u32Succ machine.attempts
      retest }] }

/-- A probe that ended without a verdict frees the key for the next. -/
def release (machine : Machine M F) (flight : Flight M) : Machine M F :=
  if flight.generation = machine.generation then
    match machine.state with
    | .degraded _ => { machine with state := .degraded false }
    | _ => machine
  else machine

def last (machine : Machine M F) (failure : F) (attempt : ℕ) : Final F :=
  ⟨failure, attempt, u32Succ machine.maxRetries⟩

/-- The retriable budget is spent: the key is Down, its first retest 30 s on. -/
def goDown (machine : Machine M F) (failure : F) (attempt now : ℕ) : Final F × Machine M F :=
  (machine.last failure attempt,
    { machine with
      generation := machine.generation + 1
      wentDown := true
      state := .down ⟨machine.last failure attempt, satAdd now retestMs, 0⟩ })

/-- Closes the key for the rest of the operation with `failure`. -/
def close (machine : Machine M F) (failure : F) (attempt : ℕ) : Final F × Machine M F :=
  (machine.last failure attempt,
    { machine with
      generation := machine.generation + 1
      state := .closed (machine.last failure attempt) })

/-- A counted failure: the key waits when attempts are left, and goes Down otherwise. -/
def counted (machine : Machine M F) (failure : F) (attempt now jitter : ℕ) :
    Outcome F × Machine M F :=
  let machine := if machine.state.calm then
      { machine with generation := machine.generation + 1, change := some .left }
    else machine
  let machine := { machine with attempts := attempt }
  if attempt ≤ machine.maxRetries then
    (.retry, { machine with state := .waiting (satAdd (satAdd now (waitMs attempt)) jitter) })
  else
    let (last, machine) := machine.goDown failure attempt now
    (.sweep last, machine)

section Members

variable [DecidableEq M]

/-- The flight of `member`, which leaves the machine. -/
def take (machine : Machine M F) (member : M) : Option (Flight M) × Machine M F :=
  let taken := takeFirst (fun flight => flight.member = member) machine.flights
  (taken.1, { machine with flights := taken.2 })

/-- `member`'s attempt has a session. `fresh` is false when it leased an idle
connection. Returns whether the session is admitted for reuse. -/
def succeeded (machine : Machine M F) (member : M) (fresh : Bool) : Bool × Machine M F :=
  match machine.take member with
  | (none, machine) => (true, machine)
  | (some flight, machine) =>
    let current : Bool := flight.generation = machine.generation
    (current || !fresh,
      match machine.state with
      | .cold | .healthy =>
        if current && fresh then { machine with state := .healthy, attempts := 0 } else machine
      | .degraded true =>
        if current then
          if fresh then
            { machine with state := .healthy, attempts := 0, change := some .healed }
          else { machine with state := .degraded false }
        else machine
      | .down _ =>
        if current && flight.retest && fresh then
          { machine with state := .healthy, attempts := 0, change := some .healed }
        else machine
      | _ => machine)

/-- A failure's verdict on a key that is neither Closed nor Down with a failure to
retry. -/
def judged (machine : Machine M F) (verdict : Verdict) (failure : F) (attempt : ℕ)
    (current : Bool) (now jitter : ℕ) : Outcome F × Machine M F :=
  match verdict with
  | .retry => if current then machine.counted failure attempt now jitter else (.retry, machine)
  | _ =>
    let (last, machine) := machine.close failure attempt
    (.finish last, machine)

/-- A Down key's attempt to retry: only its retest counts. -/
def retested (machine : Machine M F) (down : Down F) (failure : F) (retest : Bool) (now : ℕ) :
    Outcome F × Machine M F :=
  if retest then
    let last : Final F := ⟨failure, 0, u32Succ machine.maxRetries⟩
    (.sweep last,
      { machine with state := .down ⟨last, satAdd now retestMs, down.failedRetests + 1⟩ })
  else (.retry, machine)

/-- `member`'s attempt failed with `verdict`. -/
def failed (machine : Machine M F) (member : M) (verdict : Verdict) (failure : F)
    (now jitter : ℕ) : Outcome F × Machine M F :=
  let (flight, machine) := machine.take member
  if verdict = .returned then
    (.returned, match flight with
      | none => machine
      | some flight => machine.release flight)
  else
    let attempt := match flight with
      | none => u32Succ machine.attempts
      | some flight => flight.attempt
    let current : Bool := match flight with
      | none => false
      | some flight => flight.generation = machine.generation
    let retest : Bool := match flight with
      | none => false
      | some flight => flight.retest
    match machine.state with
    | .closed last =>
      (.finish (if verdict = .retry then last else machine.last failure attempt), machine)
    | .down down =>
      if verdict = .retry then machine.retested down failure retest now
      else machine.judged verdict failure attempt current now jitter
    | _ => machine.judged verdict failure attempt current now jitter

/-- `member`'s attempt ended without a verdict. -/
def abandoned (machine : Machine M F) (member : M) : Machine M F :=
  match machine.take member with
  | (none, machine) => machine
  | (some flight, machine) => machine.release flight

/-- `member`'s attempt was refused as evidence for the site's limit machine. A Down
key's retest that ends so counts as a failed retest. -/
def retestRefused (machine : Machine M F) (member : M) (now : ℕ) : Machine M F :=
  match machine.take member with
  | (none, machine) => machine
  | (some flight, machine) =>
    match machine.state with
    | .down down =>
      if flight.retest && flight.generation = machine.generation then
        { machine with
          state := .down { down with
            failedRetests := down.failedRetests + 1
            retestAt := satAdd now retestMs } }
      else machine.release flight
    | _ => machine.release flight

end Members

/-! ## Runs of calls -/

inductive Call (M F : Type) where
  | decide (now : ℕ)
  | start (member : M)
  | succeeded (member : M) (fresh : Bool)
  | failed (member : M) (verdict : Verdict) (failure : F) (now jitter : ℕ)
  | abandoned (member : M)
  | retestRefused (member : M) (now : ℕ)
  | takeChange
  | takeDown

/-- The member whose attempt a call reports. -/
def Call.reported : Call M F → Option M
  | .succeeded member _ => some member
  | .failed member _ _ _ _ => some member
  | .abandoned member => some member
  | .retestRefused member _ => some member
  | _ => none

variable [DecidableEq M]

def step (machine : Machine M F) (call : Call M F) : Machine M F :=
  match call with
  | .decide now => (machine.decide now).2
  | .start member => machine.start member
  | .succeeded member fresh => (machine.succeeded member fresh).2
  | .failed member verdict failure now jitter =>
    (machine.failed member verdict failure now jitter).2
  | .abandoned member => machine.abandoned member
  | .retestRefused member now => machine.retestRefused member now
  | .takeChange => machine.takeChange.2
  | .takeDown => machine.takeDown.2

/-- The failure a call hands to the member it is about. -/
def handed (machine : Machine M F) (call : Call M F) : Option (Final F) :=
  match call with
  | .decide now =>
    match (machine.decide now).1 with
    | .finish last => some last
    | _ => none
  | .failed member verdict failure now jitter =>
    match (machine.failed member verdict failure now jitter).1 with
    | .finish last | .sweep last => some last
    | _ => none
  | _ => none

/-- A machine and whether the call before was a `decide` that answered Start. -/
structure Asked (M F : Type) where
  machine : Machine M F
  mayStart : Bool := false

namespace Asked

def step (asked : Asked M F) (call : Call M F) : Asked M F where
  machine := asked.machine.step call
  mayStart := match call with
    | .decide now =>
      match (asked.machine.decide now).1 with
      | .start => true
      | _ => false
    | _ => false

/-- How an endpoint uses the machine: a start directly follows a `decide` that
answered Start, and a reported member has a flight. -/
def used (asked : Asked M F) (call : Call M F) : Bool :=
  match call with
  | .start _ => asked.mayStart
  | call =>
    match call.reported with
    | none => true
    | some member => asked.machine.flights.any fun flight => flight.member = member

/-- A new machine after the calls. -/
def run (maxRetries : ℕ) (calls : List (Call M F)) : Asked M F :=
  Steps.run step ⟨Machine.new maxRetries, false⟩ calls

end Asked

end Machine

end GwzCore.SetupRetry
