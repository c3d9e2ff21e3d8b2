import GwzCore.Lib.Steps
import GwzCore.SessionHost.Table

/-!
# The service's threads and their interleavings

Each thread advances one section at a time, and any thread may advance next:
the reading threads, the admission thread, the read thread, the workers, the
close thread, and the flushes of each of them. What a section learns from
outside the session (time, resolution, a handler's outcome, whether a thread
could be created, what the channel said to a reply) is an input of its step, so
a run is a list of labels and every interleaving is one.
-/
namespace GwzCore.SessionHost
open SessionContract
variable {F : Type}

/-- What the channel said to a reply. -/
inductive Sent where
  | ok
  | full
  | closed
  deriving DecidableEq

/-- The environment's answers during one section. `outcome` is `none` when the
handler panicked. -/
structure Env (F : Type) where
  now : ℕ := 0
  spawn : Spawn := fun _ => none
  closeThread : Bool := true
  resolved : Except F Resolved
  spooled : Except F Bytes := .ok []
  outcome : Option (Outcome F) := none
  sent : Sent := .ok

/-- The first received record of the pending calls, which admission takes on. -/
def popPending : List ℕ → State F → State F × Option (ℕ × Call × Bool)
  | [], s => ({ s with pending := [] }, none)
  | callId :: rest, s =>
    match s.records[callId]? with
    | none => popPending rest s
    | some record =>
      if record.phase = .received then
        ({ s with pending := rest }, some (callId, record.call, decide (callId ∈ s.cancelled)))
      else popPending rest s

/-- The outcome of a handler, or the one its panic is reported as. -/
def handlerOutcome (inner : Inner F) (start : Start) : Option (Outcome F) → Outcome F
  | some outcome => outcome
  | none =>
    let failure := inner.ports.failure
      ⟨.internal, "the handler panicked; its cleanup is unconfirmed"⟩
    ⟨.failed failure, match start.operationId with
      | some operationId => inner.ports.settledResult start.call operationId failure
      | none => [], {}⟩

/-- The read thread's pass: each held read is answered or kept. -/
def answerHeld (inner : Inner F) (ready : Held → EventsBatch → Bool) :
    List Held → State F → State F × List Outgoing
  | [], s => (s, [])
  | held :: rest, s =>
    let batch := s.readLog inner held.log held.read
    if ready held batch then
      let (s, replies) := answerHeld inner ready rest (s.answered held.callId)
      (s, inner.reply held.callId .call (inner.ports.events held.read batch) :: replies)
    else
      let (s, replies) := answerHeld inner ready rest s
      ({ s with held := held :: s.held }, replies)

/-- Whether the read thread answers a held read now. -/
def readReady (s : State F) (now : ℕ) (held : Held) (batch : EventsBatch) : Bool :=
  !batch.records.isEmpty || batch.complete || s.closing || s.ended || decide (now ≥ held.deadline)

/-- Close's second step: settles each call that has not started. -/
def settleNotStarted (inner : Inner F) : List ℕ → State F → State F × List Outgoing
  | [], s => (s, [])
  | callId :: rest, s =>
    match s.records[callId]? with
    | none => settleNotStarted inner rest s
    | some record =>
      let (s, replies) := settle inner (s.cancelToken callId) callId
        (cancelledBeforeStart inner record.call record.operation)
      let (s, more) := settleNotStarted inner rest s
      (s, replies ++ more)

/-- Records a running record's worker as detached, if it has one. -/
def State.detachWorker (s : State F) (callId : ℕ) (record : Record F) : State F :=
  match record.alive, record.resolved with
  | true, some resolved => s.recordDetached resolved.workspace callId
  | _, _ => s

/-- Close's fifth step: revokes, records and settles each worker that still runs. -/
def detachRunning (inner : Inner F) : List ℕ → State F → State F × List Outgoing
  | [], s => (s, [])
  | callId :: rest, s =>
    match s.records[callId]? with
    | none => detachRunning inner rest s
    | some record =>
      let s := (s.revoke callId).detachWorker callId record
      let (failure, result) := inner.ports.detached record.call (record.operation.map Prod.fst)
      let s := { s with detachedCount := min (s.detachedCount + 1) State.u32Max }
      let (s, replies) := settle inner s callId ⟨.cancelled failure, result, {}⟩
      let (s, more) := detachRunning inner rest s
      (s, replies ++ more)

/-- One section of `run_close`. A stage that waits leaves everything as it is. -/
def closeSection (inner : Inner F) (env : Env F) (s : State F) (replies : Bool) (next : Thread F) :
    CloseStage → State F × Thread F
  | .settling =>
    let s := { s with unflushed := s.unflushed + 1, pending := [] }
    let (s, batch) := settleNotStarted inner s.notStarted s
    let s := { s with directQueue := [] }
    let s := { s with cancelled := s.cancelled ∪ s.runningCalls.toFinset }
    (s, .flush batch (.runClose replies .timing next))
  | .timing => (s, .runClose replies (.waiting (env.now + inner.limits.closeWait)) next)
  | .waiting deadline =>
    if s.runningCalls ≠ [] ∧ env.now < deadline then (s, .runClose replies (.waiting deadline) next)
    else
      let (s, batch) := detachRunning inner s.runningCalls s
      let (s, reads) := answerHeld inner (fun _ _ => true) s.held { s with held := [] }
      ({ s with unflushed := s.unflushed + 1 },
        .flush (batch ++ reads) (.runClose replies .releasing next))
  | .releasing => (s, .runClose replies .reporting next)
  | .reporting =>
    if s.unflushed > 0 then (s, .runClose replies .reporting next)
    else
      let report := s.closeReport
      let closers := s.closers
      let s := { s with report := some report, closers := [], unflushed := s.unflushed + 1 }
      if replies then
        (s.answeredAll closers .control,
          .flush (closers.map fun callId => closeReply inner callId report)
            (.runClose replies .draining next))
      else
        ({ s with abandoned := s.abandoned ++ closers },
          .flush [] (.runClose replies .draining next))
  | .draining =>
    if s.unflushed > 0 then (s, .runClose replies .draining next)
    else (s, .runClose replies .closing next)
  | .closing => ({ s with channelClosed := true }, .runClose replies .ending next)
  | .ending => ({ s with ended := true }, next)

/-- One section of a thread: the state after it and what the thread does next. -/
def advance (inner : Inner F) (env : Env F) (s : State F) : Thread F → State F × Thread F
  | .reader call =>
    match receive inner env.spawn env.now s call with
    | (s, .replies batch) => (s, .flush batch .done)
    | (s, .spool lane) => (s, .spooling call lane)
    | (s, .close) => (s, .startClose true (.flush [] .done))
    | (s, .protocol error) => (s, .flush [] (.refused error))
  | .spooling call lane =>
    (s.answeredOn call.callId lane, .flush [match env.spooled with
      | .ok body => inner.reply call.callId lane body
      | .error failure => inner.error call.callId lane failure] .done)
  | .startClose replies next =>
    if s.closeStarted then (s, next)
    else
      let s := { s with closeStarted := true, closing := true }
      if env.closeThread then
        ({ s with threads := s.threads ++ [.runClose replies .settling .done] }, next)
      else (s, .runClose replies .settling next)
  | .flush batch next => (s.markDelivered (batch.filterMap Outgoing.delivers), .sending batch next)
  | .sending [] next => ({ s with unflushed := s.unflushed - 1 }, next)
  | .sending (reply :: rest) next =>
    let s := { s with sent := s.sent ++ [reply] }
    let s := match env.sent with
      | .ok => s
      | .full => { s with channelClosed := true }
      | .closed => { s with dropped := s.dropped + 1 }
    (s, .sending rest next)
  | .admission =>
    if s.ended then (s, .done)
    else
      match popPending s.pending s with
      | (s, some (callId, call, cancelled)) => (s, .resolving callId call cancelled)
      | (s, none) => (s, .admission)
  | .resolving callId _ cancelled =>
    let (s, batch) := admitCall inner env.spawn { s with unflushed := s.unflushed + 1 } callId
      (if cancelled then none else some env.resolved)
    (s, .flush batch .admission)
  | .reads =>
    let s := { s with unflushed := s.unflushed + 1 }
    let (s, batch) := answerHeld inner (readReady s env.now) s.held { s with held := [] }
    (s, .flush batch (if s.ended then .done else .reads))
  | .spawned start => ({ s with trace := s.trace ++ [.ran start.callId] }, .handling start)
  | .handling start =>
    -- the report crosses the worker's gate, apart from the table lock
    if start.callId ∈ s.revoked then (s, .ending start)
    else (s, .reporting start (handlerOutcome inner start env.outcome))
  | .reporting start outcome =>
    let (s, batch) := settle inner { s with unflushed := s.unflushed + 1 } start.callId outcome
    let (s, more) := schedule inner env.spawn s
    (s, .flush (batch ++ more) (.ending start))
  | .ending start => (s, if start.direct then .nextDirect else .done)
  | .nextDirect =>
    match nextDirect s with
    | (s, some start) => ({ s with trace := s.trace ++ [startedEvent s start] }, .spawned start)
    | (s, none) => ({ s with directRunning := s.directRunning - 1 }, .done)
  | .runClose replies stage next => closeSection inner env s replies next stage
  | .refused error => (s, .refused error)
  | .done => (s, .done)

/-- What may happen next: a thread's section, or something from outside. -/
inductive Label (F : Type) where
  | opens
  | frame (body : Bytes)
  | channelEnds
  | advance (index : ℕ) (env : Env F)
  | appends (callId : ℕ) (payload : Bytes)
  | otherDetached (workspace : String) (worker : ℕ)
  | otherEnded (worker : ℕ)

/-- Whether the handler of `callId` runs, so that it may append events. -/
def State.handles (s : State F) (callId : ℕ) : Bool :=
  s.threads.any fun thread => match thread with
    | .handling start => decide (start.callId = callId) && start.operationId.isSome
    | _ => false

/-- One step. A label whose thread or condition is not there changes nothing. -/
def step (inner : Inner F) (s : State F) : Label F → State F
  | .opens => { s with opened := true }
  | .frame body =>
    if s.opened then
      match inner.ports.decode body with
      | .ok call => { s with unflushed := s.unflushed + 1, threads := s.threads ++ [.reader call] }
      | .error _ => s
    else s
  | .channelEnds => { s with threads := s.threads ++ [.startClose false .done] }
  | .advance index env =>
    match s.threads[index]? with
    | none => s
    | some thread =>
      let (s, next) := advance inner env s thread
      { s with threads := s.threads.set index next }
  | .appends callId payload =>
    if s.handles callId ∧ callId ∉ s.cancelled ∧ callId ∉ s.revoked then
      match s.logs[callId]? with
      | some log => { s with logs := s.logs.insert callId (log.push payload) }
      | none => s
    else s
  | .otherDetached workspace worker =>
    if s.detached.all fun entry => decide (entry.2 ≠ .other worker) then
      { s with
        detached := s.detached ++ [(workspace, .other worker)]
        foreign := insert worker s.foreign }
    else s
  | .otherEnded worker => { s with foreign := s.foreign.erase worker }

/-- The state after a run from a fresh table. -/
def run (inner : Inner F) (labels : List (Label F)) : State F := Steps.run (step inner) {} labels

/-! ### A small instance

Ports over two-byte calls, a call id and a method, on which runs can be evaluated. -/

def sampleMethod : ℕ → String
  | 0 => "workspace.write"
  | 1 => "session.close"
  | 2 => "operation.release"
  | 3 => "operation.result"
  | _ => "workspace.read"

def sampleClassify (call : Call) : Except HostError Request :=
  if call.method = "session.close" then .ok .close
  else if call.method = "workspace.write" then .ok (.operation .write false)
  else if call.method = "operation.release" then .ok (.release "op-1")
  else if call.method = "operation.result" then .ok (.result "op-1")
  else .ok .direct

def samplePorts : HostPorts String where
  decode := fun body =>
    match body with
    | [callId, method] => .ok ⟨callId.toNat, sampleMethod method.toNat, .submit, [], none⟩
    | _ => .error ⟨"a call has two bytes"⟩
  lane := fun method => if method = "session.close" then .control else .call
  classify := sampleClassify
  failure := fun error => error.message
  settledResult := fun _ _ _ => []
  detached := fun _ _ => ("detached", [])
  accepted := fun _ _ _ => []
  resetEvent := fun _ => []
  events := fun _ _ => []
  eventsEnded := fun _ _ => []
  cleanup := fun _ => []
  released := []
  reply := fun callId body => ⟨2, callId.toUInt8 :: body⟩
  error := fun callId _ => ⟨2, [callId.toUInt8]⟩
  lane_of_classify := by
    intro call request h
    unfold sampleClassify at h
    split_ifs at h <;> cases h <;> simp_all [Request.lane]

def sampleInner : Inner String := ⟨samplePorts, {}⟩

/-- Answers from outside that resolve every request to one workspace, at a time. -/
def sampleEnv (requestId : String) (now : ℕ) : Env String :=
  { resolved := .ok ⟨"w", requestId⟩, now := now }

end GwzCore.SessionHost
