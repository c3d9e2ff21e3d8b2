import GwzCore.Lib.FiniteMap
import GwzCore.SessionHost.Service

/-!
# The table, its records and the threads around it

`State` holds everything the table lock guards. Beside it stand the cells that
records share with their workers (tokens, gates and event logs, all named by
the call that created them), the host's record of detached workers, the threads
of the service with what each does next, and the replies handed to the sink.
The last fields are history variables: no function reads them.
-/
namespace GwzCore.SessionHost
open SessionContract

structure Entry where
  seq : ℕ
  payload : Bytes
  reset : Bool
  deriving DecidableEq

/-- One operation's event log: a ring whose dropped history one reset stands for. -/
structure EventLog where
  capacity : ℕ
  nextSeq : ℕ
  entries : List Entry
  reset : Bytes
  complete : Bool
  deriving DecidableEq

namespace EventLog

def new (capacity : ℕ) (reset : Bytes) : EventLog := ⟨max capacity 2, 1, [], reset, false⟩

/-- Makes room for `keep` entries and remembers the last number it dropped. -/
def dropOldest (keep : ℕ) (last : ℕ) : List Entry → ℕ × List Entry
  | [] => (last, [])
  | entry :: rest =>
    if rest.length + 1 > keep then dropOldest keep entry.seq rest else (last, entry :: rest)

def push (log : EventLog) (payload : Bytes) : EventLog :=
  if log.complete then log
  else
    let entries := log.entries ++ [⟨log.nextSeq, payload, false⟩]
    if entries.length > log.capacity then
      -- an earlier reset goes first, and its number stands in for what it stood for
      let (last, entries) := match entries with
        | entry :: rest => if entry.reset then (entry.seq, rest) else (0, entries)
        | [] => (0, [])
      let (last, entries) := dropOldest (log.capacity - 1) last entries
      { log with nextSeq := log.nextSeq + 1, entries := ⟨last, log.reset, true⟩ :: entries }
    else { log with nextSeq := log.nextSeq + 1, entries := entries }

/-- The records a read takes from the entries after its cursor: always one, and
more while both limits allow. -/
def collect (maxRecords maxBytes : ℕ) :
    List Entry → List (ℕ × Bytes) → ℕ → ℕ → List (ℕ × Bytes) × ℕ
  | [], records, _, cursor => (records, cursor)
  | entry :: rest, records, used, cursor =>
    let size := entry.payload.length
    let past :=
      decide (records.length ≥ maxRecords) || decide (min (used + size) usizeMax > maxBytes)
    if past && !records.isEmpty then (records, cursor)
    else
      let records := records ++ [(entry.seq, entry.payload)]
      if past then (records, entry.seq)
      else collect maxRecords maxBytes rest records (min (used + size) usizeMax) entry.seq

/-- The records after `read.cursor`, within its limits and `bytes`. -/
def read (log : EventLog) (read : EventsRead) (bytes : ℕ) : EventsBatch :=
  let after := read.cursor.getD 0
  let maxRecords := max (read.maxRecords.getD usizeMax) 1
  let maxBytes := min (read.maxBytes.getD bytes) bytes
  let (records, cursor) :=
    collect maxRecords maxBytes (log.entries.filter fun entry => entry.seq > after) [] 0 after
  ⟨records, cursor, log.complete && !log.entries.any fun entry => decide (entry.seq > cursor)⟩

end EventLog

/-- Where a record is. -/
inductive Phase where
  | received
  | queued
  | directWaiting
  | running
  | terminal
  deriving DecidableEq

/-- A direct or operation call's record. `gate` says whether the record still
holds its gate, `alive` whether it holds its running worker's marker. -/
structure Record (F : Type) where
  call : Call
  lane : Lane
  operation : Option (String × Class)
  gate : Bool
  resolved : Option Resolved
  phase : Phase
  events : Option ℕ
  outcome : Option (Outcome F)
  cancels : List ℕ
  results : List ℕ
  responses : List ℕ
  accepted : Bool
  responseView : Bool
  resultDelivered : Bool
  responseDelivered : Bool
  inTable : Bool
  alive : Bool

/-- Whether every view the method declares has been handed over. -/
def Record.delivered {F : Type} (record : Record F) : Bool :=
  record.resultDelivered && (!record.responseView || record.responseDelivered)

/-- The record with one of its views handed over. -/
def Record.deliver {F : Type} (record : Record F) : View → Record F
  | .result => { record with resultDelivered := true }
  | .response => { record with responseDelivered := true }

/-- How many operations of each class run on one workspace. -/
structure Busy where
  fetches : ℕ := 0
  pushes : ℕ := 0
  writes : ℕ := 0
  deriving DecidableEq

namespace Busy

def admits (busy : Busy) : Class → Bool
  | .fetch => busy.writes == 0
  | .push => busy.writes == 0 && busy.pushes == 0
  | .write => busy.writes == 0 && busy.pushes == 0 && busy.fetches == 0

def change (busy : Busy) (cls : Class) (up : Bool) : Busy :=
  let moved := fun count : ℕ => if up then count + 1 else count - 1
  match cls with
  | .fetch => { busy with fetches := moved busy.fetches }
  | .push => { busy with pushes := moved busy.pushes }
  | .write => { busy with writes := moved busy.writes }

def count (busy : Busy) : Class → ℕ
  | .fetch => busy.fetches
  | .push => busy.pushes
  | .write => busy.writes

end Busy

/-- A read held until it has something to return. -/
structure Held where
  callId : ℕ
  read : EventsRead
  log : ℕ
  deadline : ℕ
  deriving DecidableEq

/-- What a worker thread needs, taken from its record under the table lock. The
gate, the token and the log it holds are those of `callId`; `direct` says which
of the two thread bodies runs it. -/
structure Start where
  callId : ℕ
  call : Call
  resolved : Resolved
  operationId : Option String
  direct : Bool
  deriving DecidableEq

/-- The stages of `run_close`, between its sections. -/
inductive CloseStage where
  | settling
  | timing
  | waiting (deadline : ℕ)
  | releasing
  | reporting
  | draining
  | closing
  | ending
  deriving DecidableEq

/-- A thread of the service by what it does next. `flush` and `sending` carry
what follows the batch, and a close run on its caller's thread what follows it. -/
inductive Thread (F : Type) where
  | reader (call : Call)
  | spooling (call : Call) (lane : Lane)
  | startClose (replies : Bool) (next : Thread F)
  | flush (batch : List Outgoing) (next : Thread F)
  | sending (batch : List Outgoing) (next : Thread F)
  | admission
  | resolving (callId : ℕ) (call : Call) (cancelled : Bool)
  | reads
  | spawned (start : Start)
  | handling (start : Start)
  | reporting (start : Start) (outcome : Outcome F)
  | ending (start : Start)
  | nextDirect
  | runClose (replies : Bool) (stage : CloseStage) (next : Thread F)
  | refused (error : ProtocolError)
  | done

/-- A worker as the record of detached workers sees it: one of this session, or
one of another session of the host. -/
inductive Marker where
  | own (callId : ℕ)
  | other (worker : ℕ)
  deriving DecidableEq

/-- What the history remembers of operations: entering the queue, the start of
a worker, the handler's call on it, and settlement. -/
inductive Event where
  | entered (callId : ℕ) (workspace : String)
  | started (callId : ℕ) (workspace : String) (cls : Option Class)
  | ran (callId : ℕ)
  | settled (callId : ℕ)
  deriving DecidableEq

structure State (F : Type) where
  highestCall : ℕ := 0
  nextOperation : ℕ := 1
  closing : Bool := false
  ended : Bool := false
  outstanding : ℕ := 0
  controls : ℕ := 0
  records : FiniteMap ℕ (Record F) := ∅
  operations : FiniteMap String ℕ := ∅
  requests : FiniteMap String ℕ := ∅
  others : Finset ℕ := ∅
  pending : List ℕ := []
  queue : List ℕ := []
  directQueue : List ℕ := []
  directRunning : ℕ := 0
  running : ℕ := 0
  busy : FiniteMap String Busy := ∅
  tableEntries : ℕ := 0
  retained : List ℕ := []
  held : List Held := []
  closers : List ℕ := []
  report : Option Cleanup := none
  closeStarted : Bool := false
  cleanupPending : ℕ := 0
  cleanupConfirmed : Bool := false
  detachedCount : ℕ := 0
  unflushed : ℕ := 0
  -- shared with the workers
  cancelled : Finset ℕ := ∅
  revoked : Finset ℕ := ∅
  logs : FiniteMap ℕ EventLog := ∅
  -- shared with the host's other sessions
  detached : List (String × Marker) := []
  foreign : Finset ℕ := ∅
  -- the service around the table
  opened : Bool := false
  threads : List (Thread F) := [.admission, .reads]
  sent : List Outgoing := []
  dropped : ℕ := 0
  channelClosed : Bool := false
  -- history
  counted : List (ℕ × Lane) := []
  abandoned : List ℕ := []
  trace : List Event := []

namespace State
variable {F : Type}

/-- A reply to a call on `lane` has been sent: the call is no longer outstanding. -/
def answeredOn (s : State F) (callId : ℕ) (lane : Lane) : State F :=
  let s := { s with others := s.others.erase callId }
  match lane with
  | .call => { s with outstanding := s.outstanding - 1 }
  | .control => { s with controls := s.controls - 1 }

/-- A held read's reply has been sent. -/
def answered (s : State F) (callId : ℕ) : State F := s.answeredOn callId .call

def deliver (s : State F) (callId : ℕ) (view : View) : State F :=
  match s.records[callId]? with
  | none => s
  | some record => { s with records := s.records.insert callId (record.deliver view) }

/-- Marks the views whose replies were handed over. -/
def markDelivered (s : State F) (delivered : List (ℕ × View)) : State F :=
  delivered.foldl (fun s view => s.deliver view.1 view.2) s

/-- Decimal digits with an optional plus sign, within 64 bits. -/
def parseU64 (text : List Char) : Option ℕ :=
  let digits := match text with
    | '+' :: rest => rest
    | _ => text
  if digits.isEmpty || !digits.all Char.isDigit then none
  else
    let value := digits.foldl (fun acc digit => 10 * acc + (digit.toNat - '0'.toNat)) 0
    if value < 2 ^ 64 then some value else none

/-- Whether `operationId` is one this session issued. -/
def issued (s : State F) (operationId : String) : Bool :=
  match operationId.toList with
  | 'o' :: 'p' :: '-' :: serial =>
    match parseU64 serial with
    | some serial => decide (serial ≥ 1) && decide (serial < s.nextOperation)
    | none => false
  | _ => false

/-- The call that created `operationId`'s record, or the refusal for an
operation the session never issued or no longer holds. -/
def operation (s : State F) (operationId : String) : Except HostError ℕ :=
  match s.operations[operationId]? with
  | some callId => .ok callId
  | none =>
    if s.issued operationId then
      .error ⟨.operationExpired, "operation " ++ operationId ++ " was released or evicted"⟩
    else .error ⟨.operationNotFound, "this session issued no operation " ++ operationId⟩

/-- The running operations and direct calls. -/
def runningCalls (s : State F) : List ℕ :=
  (s.records.toList.filter fun entry => decide (entry.2.phase = .running)).map Prod.fst

/-- The calls that have not started. -/
def notStarted (s : State F) : List ℕ :=
  (s.records.toList.filter fun entry => decide (entry.2.phase = .received) ||
    decide (entry.2.phase = .queued) || decide (entry.2.phase = .directWaiting)).map Prod.fst

def u32Max : ℕ := 2 ^ 32 - 1

def closeReport (s : State F) : Cleanup :=
  ⟨min (s.cleanupPending + s.detachedCount) u32Max, s.cleanupConfirmed && s.detachedCount == 0⟩

/-- Removes a record and what indexes it. -/
def discard (s : State F) (callId : ℕ) : State F :=
  match s.records[callId]? with
  | none => s
  | some record =>
    { s with
      records := s.records.erase callId
      operations := match record.operation with
        | some (operationId, _) => s.operations.erase operationId
        | none => s.operations
      tableEntries := if record.inTable then s.tableEntries - 1 else s.tableEntries
      retained := s.retained.filter (· ≠ callId) }

/-- Whether a retained call's record has had all its views handed over. -/
def isDelivered (s : State F) (callId : ℕ) : Bool :=
  match s.records[callId]? with
  | some record => record.delivered
  | none => false

/-- Evicts the oldest delivered terminal record, if there is one. -/
def evict (s : State F) : State F × Bool :=
  match s.retained.findIdx? s.isDelivered with
  | none => (s, false)
  | some index =>
    match s.retained[index]? with
    | some callId => ({ s with retained := s.retained.eraseIdx index }.discard callId, true)
    | none => (s, true)

/-- The busy counts of a workspace, all zero before its first operation. -/
def busyOn (s : State F) (workspace : String) : Busy := s.busy[workspace]?.getD {}

end State
end GwzCore.SessionHost
