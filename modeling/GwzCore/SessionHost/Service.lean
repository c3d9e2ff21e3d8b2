import GwzCore.SessionContract

/-!
# The vocabulary of the session host

Calls, requests, outcomes and replies of one session's operation service, and
the ports core supplies. Bodies are bytes the host never looks into. The ports
that answer from outside the session, resolution, the handler and the spools,
are not functions here: their answers are inputs of the steps that ask them.
-/
namespace GwzCore.SessionHost
open SessionContract

/-- How an operation method replies: with its final response, or as soon as it
is admitted. -/
inductive Mode where
  | unary
  | submit
  deriving DecidableEq

inductive Verb where
  | read
  | endStream
  deriving DecidableEq

/-- One decoded call. -/
structure Call where
  callId : ℕ
  method : String
  mode : Mode
  request : Bytes
  verb : Option Verb
  deriving DecidableEq

/-- An operation method's class: fetches run side by side and beside one push
for each workspace, and a write runs beside nothing but direct calls. -/
inductive Class where
  | fetch
  | push
  | write
  deriving DecidableEq

/-- A read of an operation's event log: the records after `cursor`. -/
structure EventsRead where
  operationId : String
  streamId : String
  cursor : Option ℕ
  maxRecords : Option ℕ
  maxBytes : Option ℕ
  wait : ℕ
  deriving DecidableEq

inductive EventsCall where
  | read (read : EventsRead)
  | endStream (operationId streamId : String)
  deriving DecidableEq

/-- The target of `operation.cancel`. -/
inductive CancelTarget where
  | call (callId : ℕ)
  | operation (operationId : String)
  deriving DecidableEq

/-- What a call asks of the host, as core's method registry classifies it. -/
inductive Request where
  | direct
  | operation (cls : Class) (responseView : Bool)
  | events (events : EventsCall)
  | spool
  | result (operationId : String)
  | response (operationId : String)
  | cancel (target : CancelTarget)
  | release (operationId : String)
  | close
  deriving DecidableEq

/-- The lane of a request: `operation.cancel` and `session.close` are control
calls, every other call travels on the call lane. -/
def Request.lane : Request → Lane
  | .cancel _ | .close => .control
  | _ => .call

/-- What an events read returns. -/
structure EventsBatch where
  records : List (ℕ × Bytes)
  nextCursor : ℕ
  complete : Bool
  deriving DecidableEq

/-- What resolution found: the workspace a request acts on and its request id. -/
structure Resolved where
  workspace : String
  requestId : String
  deriving DecidableEq

structure Cleanup where
  pendingLocalWork : ℕ := 0
  peerCleanupConfirmed : Bool := false
  deriving DecidableEq

/-- How a call ended. -/
inductive Terminal (F : Type) where
  | completed (response : Bytes)
  | cancelled (failure : F)
  | failed (failure : F)

/-- What a worker reports through its gate, once. -/
structure Outcome (F : Type) where
  terminal : Terminal F
  result : Bytes
  cleanup : Cleanup

/-- The kinds of refusal the host itself produces. -/
inductive Code where
  | invalidRequest
  | operationNotFound
  | openOperation
  | operationExpired
  | sessionFull
  | cancelled
  | internal
  | workspaceBusy
  deriving DecidableEq

structure HostError where
  code : Code
  message : String
  deriving DecidableEq

/-- A frame the session cannot accept. No reply is attributed to it. -/
structure ProtocolError where
  text : String
  deriving DecidableEq

/-- A view of an operation's terminal. -/
inductive View where
  | result
  | response
  deriving DecidableEq

/-- A reply to send once the table lock is released. -/
structure Outgoing where
  frame : Frame
  lane : Lane
  target : ℕ
  control : Bool
  delivers : Option (ℕ × View)
  deriving DecidableEq

/-- The session limits the table enforces. -/
structure Limits where
  runningOperations : ℕ := 8
  queuedOperations : ℕ := 64
  operationTable : ℕ := 128
  directWorkers : ℕ := 8
  eventLog : ℕ := 4096
  outstandingCalls : ℕ := 1024
  controlReserve : ℕ := 64
  readBytes : ℕ := 1024 * 1024
  closeWait : ℕ := 60 * 1000
  deriving DecidableEq

/-- The longest a held read waits, in milliseconds. -/
def maxReadWait : ℕ := 30 * 1000

/-- What core implements for the host. The last field is the lane rule the
trait states: a method's lane is decided from its name alone, and only
`operation.cancel` and `session.close` travel on the control lane. -/
structure HostPorts (F : Type) where
  decode : Bytes → Except ProtocolError Call
  lane : String → Lane
  classify : Call → Except HostError Request
  failure : HostError → F
  settledResult : Call → String → F → Bytes
  detached : Call → Option String → F × Bytes
  accepted : Call → Resolved → String → Bytes
  resetEvent : String → Bytes
  events : EventsRead → EventsBatch → Bytes
  eventsEnded : String → String → Bytes
  cleanup : Cleanup → Bytes
  released : Bytes
  reply : ℕ → Bytes → Frame
  error : ℕ → F → Frame
  lane_of_classify : ∀ call request, classify call = .ok request → lane call.method = request.lane

/-- The parts of the service that no step changes. -/
structure Inner (F : Type) where
  ports : HostPorts F
  limits : Limits

namespace Inner
variable {F : Type} (inner : Inner F)

/-- A reply carrying `body` to `callId`. -/
def reply (callId : ℕ) (lane : Lane) (body : Bytes) : Outgoing :=
  ⟨inner.ports.reply callId body, lane, callId, decide (lane = .control), none⟩

/-- An error reply carrying `failure` to `callId`. -/
def error (callId : ℕ) (lane : Lane) (failure : F) : Outgoing :=
  ⟨inner.ports.error callId failure, lane, callId, decide (lane = .control), none⟩

/-- An error reply for a host refusal. -/
def refuse (callId : ℕ) (lane : Lane) (refusal : HostError) : Outgoing :=
  inner.error callId lane (inner.ports.failure refusal)

end Inner

def readWait (asked : ℕ) : ℕ := min asked maxReadWait

/-- The call a reply answers and the lane it takes. -/
def Outgoing.answer (reply : Outgoing) : ℕ × Lane := (reply.target, reply.lane)

section Answers
variable {F : Type} (inner : Inner F)

@[simp] lemma answer_reply (callId : ℕ) (lane : Lane) (body : Bytes) :
    (inner.reply callId lane body).answer = (callId, lane) := rfl

@[simp] lemma answer_refuse (callId : ℕ) (lane : Lane) (refusal : HostError) :
    (inner.refuse callId lane refusal).answer = (callId, lane) := rfl

end Answers

end GwzCore.SessionHost
