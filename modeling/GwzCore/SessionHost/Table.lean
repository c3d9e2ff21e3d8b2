import GwzCore.SessionHost.State

/-!
# The table's operations

Receipt, admission, scheduling, settlement, cancellation, views and release,
each as one section under the table lock. A section returns the next state and
the replies it built. Whether a worker thread can be created is an answer of
the environment: `spawn` gives, for a call, the error text of a failed creation.
-/
namespace GwzCore.SessionHost
open SessionContract
variable {F : Type}

/-- The environment's answer to each thread creation of a section. -/
abbrev Spawn := ℕ → Option String

namespace Thread

/-- The worker marker a thread holds, until it has dropped its worker. -/
def marker : Thread F → Option ℕ
  | spawned start | handling start | reporting start _ | ending start => some start.callId
  | flush _ next | sending _ next | startClose _ next | runClose _ _ next => next.marker
  | _ => none

end Thread

namespace State

/-- Whether a worker's marker is still held, so that the worker still runs. -/
def strong (s : State F) : Marker → Bool
  | .own callId => s.threads.any fun thread => decide (thread.marker = some callId)
  | .other worker => decide (worker ∈ s.foreign)

def liveDetached (s : State F) : List (String × Marker) :=
  s.detached.filter fun entry => s.strong entry.2

/-- Whether a detached worker still runs on `workspace`; the record drops ended
workers as it looks. -/
def runningOn (s : State F) (workspace : String) : State F × Bool :=
  ({ s with detached := s.liveDetached }, s.liveDetached.any fun entry => entry.1 == workspace)

/-- Records a worker detached on `workspace`, until its thread ends. -/
def recordDetached (s : State F) (workspace : String) (callId : ℕ) : State F :=
  { s with detached := s.liveDetached ++ [(workspace, .own callId)] }

def cancelToken (s : State F) (callId : ℕ) : State F :=
  { s with cancelled := insert callId s.cancelled }

/-- Cancels the token, then revokes the gate. -/
def revoke (s : State F) (callId : ℕ) : State F :=
  { s.cancelToken callId with revoked := insert callId s.revoked }

def completeLog (s : State F) : Option ℕ → State F
  | none => s
  | some log =>
    match s.logs[log]? with
    | none => s
    | some events => { s with logs := s.logs.insert log { events with complete := true } }

end State

/-- The reply to a view of `owner`'s terminal, which delivers that view once it
is handed over. -/
def viewReply (inner : Inner F) (owner callId : ℕ) (outcome : Outcome F) (result : Bool) :
    Outgoing :=
  if result then
    { inner.reply callId .call outcome.result with delivers := some (owner, .result) }
  else
    match outcome.terminal with
    | .completed response =>
      { inner.reply callId .call response with delivers := some (owner, .response) }
    | .cancelled failure | .failed failure =>
      { inner.error callId .call failure with delivers := some (owner, .response) }

/-- The record as settlement leaves it: its gate and its marker dropped, its
waiters taken. -/
def Record.settled (record : Record F) (outcome : Outcome F) : Record F :=
  { record with
    phase := .terminal, gate := false, alive := false
    cancels := [], results := [], responses := []
    outcome := some outcome }

/-- Whether settlement keeps the record: a submit whose acceptance was sent. -/
def Record.keeps (record : Record F) : Bool :=
  decide (record.call.mode = .submit) && record.operation.isSome && record.accepted

def waiterReplies (inner : Inner F) (callId : ℕ) (record : Record F) (outcome : Outcome F) :
    List Outgoing :=
  record.cancels.map
    (fun cancel => inner.reply cancel .control (inner.ports.cleanup outcome.cleanup)) ++
    record.results.map (fun waiter => viewReply inner callId waiter outcome true) ++
    record.responses.map (fun waiter => viewReply inner callId waiter outcome false)

def ownReply (inner : Inner F) (callId : ℕ) (record : Record F) (outcome : Outcome F) : Outgoing :=
  match outcome.terminal with
  | .completed response => inner.reply callId record.lane response
  | .cancelled failure | .failed failure => inner.error callId record.lane failure

namespace State

def answeredAll (s : State F) (callIds : List ℕ) (lane : Lane) : State F :=
  callIds.foldl (fun s callId => s.answeredOn callId lane) s

/-- Gives back the request id and, if the operation ran, its running slot. -/
def releaseSlot (s : State F) (callId : ℕ) (record : Record F) : State F :=
  match record.resolved with
  | none => s
  | some resolved =>
    let s := if s.requests[resolved.requestId]? = some callId then
        { s with requests := s.requests.erase resolved.requestId }
      else s
    match record.operation with
    | some (_, cls) =>
      if record.phase = .running then
        { s with
          running := s.running - 1
          busy := s.busy.insert resolved.workspace
            ((s.busyOn resolved.workspace).change cls false) }
      else s
    | none => s

/-- Settlement up to the record's own fate: its terminal is set, what waited on
it is answered, and what it held is given back. -/
def terminate (s : State F) (callId : ℕ) (record : Record F) (outcome : Outcome F) : State F :=
  let s := { s.completeLog record.events with
    records := s.records.insert callId (record.settled outcome)
    cleanupPending := min (s.cleanupPending + outcome.cleanup.pendingLocalWork) u32Max
    cleanupConfirmed := s.cleanupConfirmed || outcome.cleanup.peerCleanupConfirmed
    trace := s.trace ++ [Event.settled callId] }
  let s := s.answeredAll record.cancels .control
  let s := s.answeredAll (record.results ++ record.responses) .call
  s.releaseSlot callId record

end State

/-- Settles a call with `outcome` and answers what waited on it. Settling twice
changes nothing. -/
def settle (inner : Inner F) (s : State F) (callId : ℕ) (outcome : Outcome F) :
    State F × List Outgoing :=
  match s.records[callId]? with
  | none => (s, [])
  | some record =>
    if record.phase = .terminal then (s, [])
    else
      let replies := waiterReplies inner callId record outcome
      let s := s.terminate callId record outcome
      if record.keeps then ({ s with retained := s.retained ++ [callId] }, replies)
      else
        ((s.answeredOn callId record.lane).discard callId,
          replies ++ [ownReply inner callId record outcome])

/-- The terminal of a call that ended without running its handler. -/
def notRun (inner : Inner F) (call : Call) (operation : Option (String × Class)) (failure : F)
    (terminal : Terminal F) : Outcome F :=
  ⟨terminal, match operation with
    | some (operationId, _) => inner.ports.settledResult call operationId failure
    | none => [], {}⟩

/-- The terminal of a call refused before it ran: `Failed`, no effect. -/
def failedBeforeStart (inner : Inner F) (call : Call) (operation : Option (String × Class))
    (failure : F) : Outcome F := notRun inner call operation failure (.failed failure)

/-- The terminal of a call settled before it ran: `Cancelled`, no effect. -/
def cancelledBeforeStart (inner : Inner F) (call : Call) (operation : Option (String × Class)) :
    Outcome F :=
  let failure := inner.ports.failure ⟨.cancelled, "cancelled before it started"⟩
  notRun inner call operation failure (.cancelled failure)

/-- The record as its worker leaves it: running, its gate and marker handed over. -/
def Record.taken (record : Record F) : Record F :=
  { record with gate := false, phase := .running, alive := true }

/-- Takes a record's gate and marks it running. -/
def take (s : State F) (callId : ℕ) (direct : Bool) : State F × Option Start :=
  match s.records[callId]? with
  | none => (s, none)
  | some record =>
    if record.gate then
      match record.resolved with
      | none => ({ s with records := s.records.insert callId { record with gate := false } }, none)
      | some resolved =>
        ({ s with records := s.records.insert callId record.taken },
          some ⟨callId, record.call, resolved, record.operation.map Prod.fst, direct⟩)
    else (s, none)

def spawnFailed (inner : Inner F) (s : State F) (callId : ℕ) (error : String) :
    State F × List Outgoing :=
  let failure := inner.ports.failure ⟨.internal, "no worker thread could be created: " ++ error⟩
  match s.records[callId]? with
  | some record =>
    settle inner s callId (notRun inner record.call record.operation failure (.failed failure))
  | none => settle inner s callId ⟨.failed failure, [], {}⟩

/-- What the history notes when a worker starts on a taken record. -/
def startedEvent (s : State F) (start : Start) : Event :=
  .started start.callId start.resolved.workspace
    ((s.records[start.callId]?.bind Record.operation).map Prod.snd)

/-- A worker thread exists from here on. -/
def spawnWorker (s : State F) (start : Start) : State F :=
  { s with
    threads := s.threads ++ [.spawned start]
    trace := s.trace ++ [startedEvent s start] }

/-- Starts a queued operation on a thread of its own. -/
def startOperation (inner : Inner F) (spawn : Spawn) (s : State F) (callId : ℕ) :
    State F × List Outgoing :=
  match take s callId false with
  | (s, none) => (s, [])
  | (s, some start) =>
    match spawn callId with
    | none => (spawnWorker s start, [])
    | some error => spawnFailed inner s callId error

/-- The next waiting direct call that can still be taken. -/
def nextDirectFrom : List ℕ → State F → State F × Option Start
  | [], s => ({ s with directQueue := [] }, none)
  | callId :: rest, s =>
    match take { s with directQueue := rest } callId true with
    | (s, some start) => (s, some start)
    | (s, none) => nextDirectFrom rest s

def nextDirect (s : State F) : State F × Option Start := nextDirectFrom s.directQueue s

/-- Starts a direct worker, which the caller has counted in `directRunning`. -/
def startDirect (inner : Inner F) (spawn : Spawn) (s : State F) : State F × List Outgoing :=
  match nextDirect s with
  | (s, none) => ({ s with directRunning := s.directRunning - 1 }, [])
  | (s, some first) =>
    match spawn first.callId with
    | none => (spawnWorker s first, [])
    | some error =>
      spawnFailed inner { s with directRunning := s.directRunning - 1 } first.callId error

def detachedRefusal : HostError :=
  ⟨.workspaceBusy, "a worker detached at a session's close bound still runs on this workspace"⟩

/-- Writes and pushes are refused beside a detached worker, fetches are not. -/
def Class.exclusive : Class → Bool
  | .write | .push => true
  | .fetch => false

/-- Whether a class is refused on `workspace` for a detached worker. -/
def State.besideDetached (s : State F) (cls : Class) (workspace : String) : State F × Bool :=
  if cls.exclusive then s.runningOn workspace else (s, false)

/-- One turn of the queue's scan at `index`: the entry is dropped, refused,
passed over, or started. -/
def scheduleEntry (inner : Inner F) (spawn : Spawn) (s : State F) (blocked : List String)
    (index callId : ℕ) : State F × List String × ℕ × List Outgoing :=
  match s.records[callId]? with
  | none => ({ s with queue := s.queue.eraseIdx index }, blocked, index, [])
  | some record =>
    match record.operation, record.resolved with
    | some (_, cls), some resolved =>
      let workspace := resolved.workspace
      let (s, busy) := s.besideDetached cls workspace
      if busy then
        -- a worker another session detached since admission: refused, not run beside it
        let failure := inner.ports.failure detachedRefusal
        let outcome := failedBeforeStart inner record.call record.operation failure
        let (s, replies) := settle inner { s with queue := s.queue.eraseIdx index } callId outcome
        (s, blocked, index, replies)
      else if workspace ∈ blocked ∨ ¬ (s.busyOn workspace).admits cls then
        (s, workspace :: blocked, index + 1, [])
      else
        let s := { s with
          queue := s.queue.eraseIdx index
          running := s.running + 1
          busy := s.busy.insert workspace ((s.busyOn workspace).change cls true) }
        let (s, replies) := startOperation inner spawn s callId
        (s, blocked, index, replies)
    | _, _ => ({ s with queue := s.queue.eraseIdx index }, blocked, index, [])

/-- The queue's scan. Every turn removes the entry at `index` or passes it, so
the queue's length is fuel enough. -/
def scheduleQueue (inner : Inner F) (spawn : Spawn) :
    ℕ → State F → List String → ℕ → State F × List Outgoing
  | 0, s, _, _ => (s, [])
  | fuel + 1, s, blocked, index =>
    match s.queue[index]? with
    | none => (s, [])
    | some callId =>
      if s.running < inner.limits.runningOperations then
        let (s, blocked, index, replies) := scheduleEntry inner spawn s blocked index callId
        let (s, more) := scheduleQueue inner spawn fuel s blocked index
        (s, replies ++ more)
      else (s, [])

/-- Every turn takes at least one waiting call from the direct queue. -/
def scheduleDirect (inner : Inner F) (spawn : Spawn) : ℕ → State F → State F × List Outgoing
  | 0, s => (s, [])
  | fuel + 1, s =>
    if s.directRunning < inner.limits.directWorkers ∧ s.directQueue ≠ [] then
      let (s, replies) := startDirect inner spawn { s with directRunning := s.directRunning + 1 }
      let (s, more) := scheduleDirect inner spawn fuel s
      (s, replies ++ more)
    else (s, [])

/-- Starts what the limits and classes allow: queued operations in queue order
per workspace, and direct calls on free direct workers. -/
def schedule (inner : Inner F) (spawn : Spawn) (s : State F) : State F × List Outgoing :=
  let (s, replies) := scheduleQueue inner spawn s.queue.length s [] 0
  let (s, more) := scheduleDirect inner spawn s.directQueue.length s
  (s, replies ++ more)

/-- Why a resolved operation cannot be queued, with the table after an eviction
made room for it. -/
def admissionRefusal (inner : Inner F) (s : State F) (cls : Class) (resolved : Resolved) :
    State F × Option HostError :=
  if s.requests.contains resolved.requestId then
    (s, some ⟨.invalidRequest,
      "request_id " ++ resolved.requestId ++ " matches a live operation's"⟩)
  else
    let (s, busy) := s.besideDetached cls resolved.workspace
    if busy then (s, some detachedRefusal)
    else if s.queue.length ≥ inner.limits.queuedOperations then
      (s, some ⟨.sessionFull, "the session's operation queue is full"⟩)
    else if s.tableEntries ≥ inner.limits.operationTable then
      match s.evict with
      | (s, true) => (s, none)
      | (s, false) =>
        (s, some ⟨.sessionFull, "the session's operation table holds no record it can evict"⟩)
    else (s, none)

/-- The record of an admitted operation. -/
def Record.admitted (record : Record F) (resolved : Resolved) : Record F :=
  { record with
    inTable := true, resolved := some resolved, phase := .queued
    accepted := decide (record.call.mode = .submit) }

/-- The record of a direct call that waits for a direct worker. -/
def Record.awaiting (record : Record F) (resolved : Resolved) : Record F :=
  { record with resolved := some resolved, phase := .directWaiting }

/-- An operation enters the table and the queue; a submit's acceptance is sent. -/
def enqueue (inner : Inner F) (s : State F) (callId : ℕ) (record : Record F)
    (operationId : String) (resolved : Resolved) : State F × List Outgoing :=
  let submit := decide (record.call.mode = .submit)
  let s := { s with
    tableEntries := s.tableEntries + 1
    requests := s.requests.insert resolved.requestId callId
    records := s.records.insert callId (record.admitted resolved)
    trace := s.trace ++ [Event.entered callId resolved.workspace] }
  let s := if submit then s.answeredOn callId .call else s
  ({ s with queue := s.queue ++ [callId] },
    if submit then
      [inner.reply callId .call (inner.ports.accepted record.call resolved operationId)]
    else [])

/-- Admits a resolved call, or settles it. -/
def admitCall (inner : Inner F) (spawn : Spawn) (s : State F) (callId : ℕ)
    (resolved : Option (Except F Resolved)) : State F × List Outgoing :=
  match s.records[callId]? with
  | none => (s, [])
  | some record =>
    if record.phase ≠ .received then (s, [])
    else
      match resolved, decide (callId ∈ s.cancelled) with
      | some (.ok resolved), false =>
        match record.operation with
        | none =>
          let s := { s with
            records := s.records.insert callId (record.awaiting resolved)
            directQueue := s.directQueue ++ [callId] }
          schedule inner spawn s
        | some (operationId, cls) =>
          match admissionRefusal inner s cls resolved with
          | (s, some error) =>
            settle inner s callId
              (failedBeforeStart inner record.call record.operation (inner.ports.failure error))
          | (s, none) =>
            let (s, replies) := enqueue inner s callId record operationId resolved
            let (s, more) := schedule inner spawn s
            (s, replies ++ more)
      | some (.error failure), false =>
        settle inner s callId (failedBeforeStart inner record.call record.operation failure)
      | _, _ => settle inner s callId (cancelledBeforeStart inner record.call record.operation)

/-- The call a cancel addresses, or its refusal. -/
def cancelTarget (s : State F) (callId : ℕ) : CancelTarget → Except HostError ℕ
  | .call target =>
    if target ≥ callId then
      .error ⟨.operationNotFound, "this session received no call " ++ toString target⟩
    else if target ∈ s.others then
      .error ⟨.invalidRequest, "call " ++ toString target ++ " is a read, result or control call"⟩
    else if s.records.contains target then .ok target
    else .error ⟨.operationExpired,
      "call " ++ toString target ++ " has already been answered or released"⟩
  | .operation operationId => s.operation operationId

/-- A call that waits for a record's terminal, by what it asked. -/
inductive Waiter where
  | cancel
  | result
  | response
  deriving DecidableEq

/-- The record with one more call waiting for its terminal. -/
def Record.wait (record : Record F) (callId : ℕ) : Waiter → Record F
  | .cancel => { record with cancels := record.cancels ++ [callId] }
  | .result => { record with results := record.results ++ [callId] }
  | .response => { record with responses := record.responses ++ [callId] }

/-- A call that still waits is settled by its cancel, and its place taken. -/
def cancelWaiting (inner : Inner F) (spawn : Spawn) (s : State F) (target : ℕ)
    (outcome : Outcome F) : State F × List Outgoing :=
  let s := { s with
    queue := s.queue.filter (· ≠ target)
    directQueue := s.directQueue.filter (· ≠ target) }
  let (s, replies) := settle inner s target outcome
  let (s, more) := schedule inner spawn s
  (s, replies ++ more)

/-- `operation.cancel`, on the reading thread. -/
def cancel (inner : Inner F) (spawn : Spawn) (s : State F) (callId : ℕ) (target : CancelTarget) :
    State F × List Outgoing :=
  match cancelTarget s callId target with
  | .error error => (s.answeredOn callId .control, [inner.refuse callId .control error])
  | .ok target =>
    let s := { s with others := insert callId s.others }
    match s.records[target]? with
    | none => (s, [])
    | some record =>
      let waiting := { s.cancelToken target with
        records := s.records.insert target (record.wait callId .cancel) }
      match record.phase with
      | .terminal =>
        let cleanup := (record.outcome.map Outcome.cleanup).getD {}
        (s.answeredOn callId .control, [inner.reply callId .control (inner.ports.cleanup cleanup)])
      | .received | .running => (waiting, [])
      | .queued | .directWaiting =>
        cancelWaiting inner spawn waiting target
          (cancelledBeforeStart inner record.call record.operation)

/-- `operation.result` (`result` true) or `operation.response`. -/
def view (inner : Inner F) (s : State F) (callId : ℕ) (operationId : String) (result : Bool) :
    State F × List Outgoing :=
  match s.operation operationId with
  | .error error => (s.answeredOn callId .call, [inner.refuse callId .call error])
  | .ok owner =>
    match s.records[owner]? with
    | none => (s.answeredOn callId .call,
        [inner.refuse callId .call ⟨.operationExpired, "the operation's record is gone"⟩])
    | some record =>
      match record.outcome with
      | some outcome =>
        (s.answeredOn callId .call, [viewReply inner owner callId outcome result])
      | none =>
        let record := record.wait callId (if result then .result else .response)
        ({ s with records := s.records.insert owner record, others := insert callId s.others }, [])

/-- `operation.release`. -/
def release (inner : Inner F) (s : State F) (callId : ℕ) (operationId : String) :
    State F × List Outgoing :=
  let s := s.answeredOn callId .call
  match s.operation operationId with
  | .error error => (s, [inner.refuse callId .call error])
  | .ok owner =>
    if (s.records[owner]?.map Record.phase) = some .terminal then
      (s.discard owner, [inner.reply callId .call inner.ports.released])
    else (s, [inner.refuse callId .call
      ⟨.openOperation, "operation " ++ operationId ++ " is still live"⟩])

/-- A call's record at receipt. -/
def Record.received (call : Call) (operationId : String) (cls : Option (Class × Bool)) : Record F :=
  { call := call, lane := .call, operation := cls.map fun cls => (operationId, cls.1)
    gate := true, resolved := none, phase := .received, events := cls.map fun _ => call.callId
    outcome := none, cancels := [], results := [], responses := [], accepted := false
    responseView := (cls.map Prod.snd).getD false, resultDelivered := false
    responseDelivered := false, inTable := false, alive := false }

/-- The id of a session's operation by its serial number. -/
def operationName (serial : ℕ) : String := "op-" ++ toString serial

/-- Creates a direct or operation call's record, token and gate at receipt and
queues it for admission. -/
def create (inner : Inner F) (s : State F) (call : Call) (cls : Option (Class × Bool)) : State F :=
  let operationId := operationName s.nextOperation
  let record := Record.received call operationId cls
  let s := match cls with
    | none => s
    | some _ =>
      { s with
        nextOperation := s.nextOperation + 1
        operations := s.operations.insert operationId call.callId
        logs := s.logs.insert call.callId
          (EventLog.new inner.limits.eventLog (inner.ports.resetEvent operationId)) }
  { s with records := s.records.insert call.callId record, pending := s.pending ++ [call.callId] }

def State.readLog (s : State F) (inner : Inner F) (log : ℕ) (read : EventsRead) : EventsBatch :=
  (s.logs[log]?.getD (EventLog.new 0 [])).read read inner.limits.readBytes

/-- An `events.subscribe` call, on the reading thread at time `now`. -/
def readEvents (inner : Inner F) (s : State F) (now callId : ℕ) (events : EventsCall) :
    State F × List Outgoing :=
  let operationId := match events with
    | .read read => read.operationId
    | .endStream operationId _ => operationId
  match s.operation operationId with
  | .error error => (s.answeredOn callId .call, [inner.refuse callId .call error])
  | .ok owner =>
    match s.records[owner]?.bind Record.events with
    | none => (s.answeredOn callId .call,
        [inner.refuse callId .call ⟨.invalidRequest, "the call has no event log"⟩])
    | some log =>
      match events with
      | .endStream operationId streamId =>
        (s.answeredOn callId .call,
          [inner.reply callId .call (inner.ports.eventsEnded operationId streamId)])
      | .read read =>
        let batch := s.readLog inner log read
        let wait := readWait read.wait
        if batch.records ≠ [] ∨ batch.complete ∨ wait = 0 then
          (s.answeredOn callId .call, [inner.reply callId .call (inner.ports.events read batch)])
        else
          ({ s with
            others := insert callId s.others
            held := s.held ++ [⟨callId, read, log, now + wait⟩] }, [])

/-- The close report's reply: ordinary class, on the control lane. -/
def closeReply (inner : Inner F) (callId : ℕ) (report : Cleanup) : Outgoing :=
  ⟨inner.ports.reply callId (inner.ports.cleanup report), .control, callId, false, none⟩

/-- What the reading thread does after it has read a call. -/
inductive Reading where
  | replies (replies : List Outgoing)
  | spool (lane : Lane)
  | close
  | protocol (error : ProtocolError)

/-- Counts a call on its lane. -/
def State.count (s : State F) (callId : ℕ) (lane : Lane) : State F :=
  let s := { s with counted := s.counted ++ [(callId, lane)] }
  match lane with
  | .call => { s with outstanding := s.outstanding + 1 }
  | .control => { s with controls := s.controls + 1 }

def State.full (s : State F) (limits : Limits) : Lane → Bool
  | .call => decide (s.outstanding ≥ limits.outstandingCalls)
  | .control => decide (s.controls ≥ limits.controlReserve)

/-- A `session.close` call: its report, or its place among those who wait for it. -/
def receiveClose (inner : Inner F) (s : State F) (callId : ℕ) : State F × Reading :=
  let s := { s with others := insert callId s.others }
  match s.report with
  | some report => (s.answeredOn callId .control, .replies [closeReply inner callId report])
  | none =>
    ({ s with closers := s.closers ++ [callId] }, if s.closeStarted then .replies [] else .close)

/-- What a counted call's request does. -/
def handle (inner : Inner F) (spawn : Spawn) (now : ℕ) (s : State F) (call : Call) (lane : Lane) :
    Request → State F × Reading
  | .direct => (create inner s call none, .replies [])
  | .operation cls responseView => (create inner s call (some (cls, responseView)), .replies [])
  | .events events =>
    let (s, replies) := readEvents inner s now call.callId events
    (s, .replies replies)
  | .spool => (s, .spool lane)
  | .result operationId =>
    let (s, replies) := view inner s call.callId operationId true
    (s, .replies replies)
  | .response operationId =>
    let (s, replies) := view inner s call.callId operationId false
    (s, .replies replies)
  | .cancel target =>
    let (s, replies) := cancel inner spawn s call.callId target
    (s, .replies replies)
  | .release operationId =>
    let (s, replies) := release inner s call.callId operationId
    (s, .replies replies)
  | .close => receiveClose inner s call.callId

/-- Reads one call: creates its record, answers what never waits, and queues the
rest for admission. -/
def receive (inner : Inner F) (spawn : Spawn) (now : ℕ) (s : State F) (call : Call) :
    State F × Reading :=
  if call.callId ≤ s.highestCall then
    (s, .protocol ⟨"call_id " ++ toString call.callId ++ " is not greater than " ++
      toString s.highestCall ++ ", the highest received"⟩)
  else
    let s := { s with highestCall := call.callId }
    let lane := inner.ports.lane call.method
    if s.ended then (s, .replies [])
    else
      match inner.ports.classify call with
      | .error error => (s, .replies [inner.refuse call.callId lane error])
      | .ok request =>
        if s.closing ∧ request ≠ .close then
          (s, .replies [inner.refuse call.callId lane ⟨.invalidRequest, "session closing"⟩])
        else if s.full inner.limits lane then
          (s, .replies [inner.refuse call.callId lane
            ⟨.sessionFull, "the session's outstanding calls are at their limit"⟩])
        else handle inner spawn now (s.count call.callId lane) call lane request

end GwzCore.SessionHost
