import GwzCore.SessionHost.Host

/-!
# What a section can do to the table

A section of the service is a chain of acts on the table: a call arrives, waits
or is answered, a record moves from phase to phase, a slot is taken or given
back. `Act` lists them all with the guards under which the code performs them
and the replies and workers they produce, so an invariant of the table is
proved once for each act. The table here is the part of the state that
invariants speak of, with the two counters of unanswered calls read by lane.
-/
namespace GwzCore.SessionHost
open SessionContract
variable {F : Type}

structure Table (F : Type) where
  highestCall : ℕ
  nextOperation : ℕ
  closing : Bool
  report : Option Cleanup
  unanswered : Lane → ℕ
  records : FiniteMap ℕ (Record F)
  operations : FiniteMap String ℕ
  requests : FiniteMap String ℕ
  queue : List ℕ
  directQueue : List ℕ
  running : ℕ
  busy : FiniteMap String Busy
  tableEntries : ℕ
  retained : List ℕ
  held : List ℕ
  closers : List ℕ
  revoked : Finset ℕ
  counted : List (ℕ × Lane)
  trace : List Event

/-- The counter of a lane's unanswered calls. -/
def State.unanswered (s : State F) : Lane → ℕ
  | .call => s.outstanding
  | .control => s.controls

def State.table (s : State F) : Table F where
  highestCall := s.highestCall
  nextOperation := s.nextOperation
  closing := s.closing
  report := s.report
  unanswered := s.unanswered
  records := s.records
  operations := s.operations
  requests := s.requests
  queue := s.queue
  directQueue := s.directQueue
  running := s.running
  busy := s.busy
  tableEntries := s.tableEntries
  retained := s.retained
  held := s.held.map Held.callId
  closers := s.closers
  revoked := s.revoked
  counted := s.counted
  trace := s.trace

namespace Record

/-- The running slot a record takes: its workspace and class while it runs. -/
def slot (record : Record F) : Option (String × Class) :=
  if record.phase = .running then
    match record.operation, record.resolved with
    | some (_, cls), some resolved => some (resolved.workspace, cls)
    | _, _ => none
  else none

/-- The calls a settlement answers: those that wait on the record, and the
record's own unless its acceptance answered it. -/
def answers (callId : ℕ) (record : Record F) : List (ℕ × Lane) :=
  record.cancels.map (fun waiter => (waiter, Lane.control)) ++
    (record.results ++ record.responses).map (fun waiter => (waiter, Lane.call)) ++
    if record.keeps then [] else [(callId, record.lane)]

end Record

/-- The lane of a waiting call. -/
def Waiter.lane : Waiter → Lane
  | .cancel => .control
  | .result | .response => .call

/-- The replies of a settlement. -/
def settleReplies (inner : Inner F) (callId : ℕ) (record : Record F) (outcome : Outcome F) :
    List Outgoing :=
  waiterReplies inner callId record outcome ++
    if record.keeps then [] else [ownReply inner callId record outcome]

namespace Table

def busyOn (t : Table F) (workspace : String) : Busy := t.busy[workspace]?.getD {}

/-- A call is received, counted on its lane and left to be answered. -/
def count (t : Table F) (callId : ℕ) (lane : Lane) : Table F :=
  { t with
    highestCall := callId
    counted := t.counted ++ [(callId, lane)]
    unanswered := fun l => t.unanswered l + if l = lane then 1 else 0 }

/-- Counted calls are answered. -/
def answer (t : Table F) (answers : List (ℕ × Lane)) : Table F :=
  { t with unanswered := fun l => t.unanswered l - answers.countP fun a => decide (a.2 = l) }

def create (t : Table F) (call : Call) (cls : Option (Class × Bool)) : Table F :=
  { t.count call.callId .call with
    nextOperation := if cls.isSome then t.nextOperation + 1 else t.nextOperation
    operations := if cls.isSome then
        t.operations.insert (operationName t.nextOperation) call.callId
      else t.operations
    records := t.records.insert call.callId
      (Record.received call (operationName t.nextOperation) cls) }

def enqueue (t : Table F) (callId : ℕ) (record : Record F) (resolved : Resolved) : Table F :=
  { t.answer (if record.call.mode = .submit then [(callId, Lane.call)] else []) with
    tableEntries := t.tableEntries + 1
    requests := t.requests.insert resolved.requestId callId
    records := t.records.insert callId (record.admitted resolved)
    trace := t.trace ++ [Event.entered callId resolved.workspace]
    queue := t.queue ++ [callId] }

/-- A running slot is counted on `workspace`. -/
def occupy (t : Table F) (workspace : String) (cls : Class) : Table F :=
  { t with
    running := t.running + 1
    busy := t.busy.insert workspace ((t.busyOn workspace).change cls true) }

/-- A record's worker takes it. -/
def take (t : Table F) (callId : ℕ) (record : Record F) : Table F :=
  { t with records := t.records.insert callId record.taken }

def discard (t : Table F) (callId : ℕ) (record : Record F) : Table F :=
  { t with
    records := t.records.erase callId
    operations := match record.operation with
      | some (operationId, _) => t.operations.erase operationId
      | none => t.operations
    tableEntries := if record.inTable then t.tableEntries - 1 else t.tableEntries
    retained := t.retained.filter (· ≠ callId) }

/-- A record is settled, and kept or discarded; what it held is given back. -/
def settle (t : Table F) (callId : ℕ) (record : Record F) (outcome : Outcome F) : Table F :=
  { t.answer (record.answers callId) with
    records := if record.keeps then t.records.insert callId (record.settled outcome)
      else t.records.erase callId
    operations := if record.keeps then t.operations
      else match record.operation with
        | some (operationId, _) => t.operations.erase operationId
        | none => t.operations
    requests := match record.resolved with
      | some resolved =>
        if t.requests[resolved.requestId]? = some callId then t.requests.erase resolved.requestId
        else t.requests
      | none => t.requests
    running := if record.slot.isSome then t.running - 1 else t.running
    busy := match record.slot with
      | some (workspace, cls) => t.busy.insert workspace ((t.busyOn workspace).change cls false)
      | none => t.busy
    tableEntries := if !record.keeps && record.inTable then t.tableEntries - 1 else t.tableEntries
    retained := if record.keeps then t.retained ++ [callId] else t.retained.filter (· ≠ callId)
    trace := t.trace ++ [Event.settled callId] }

end Table

/-- What a section runs under: the workspaces with a live detached worker, whether
it is the settling section of close, the terminal records it may free, and the
record whose worker reports in it. -/
structure Context where
  occupied : String → Prop
  closing : Bool
  frees : ℕ → Prop
  reports : ℕ → Prop

/-- One act on the table, with the replies and the workers it produces. -/
inductive Act (inner : Inner F) (ctx : Context) :
    Table F → List Outgoing → List Start → Table F → Prop
  /-- A call is refused uncounted, or read after the session ended. -/
  | arrive {t : Table F} (callId : ℕ) (lane : Lane) (out : List Outgoing)
      (hid : t.highestCall < callId)
      (hout : out.map Outgoing.answer = [] ∨ out.map Outgoing.answer = [(callId, lane)]) :
      Act inner ctx t out [] { t with highestCall := callId }
  /-- A call is counted and answered at once. -/
  | reply {t : Table F} (callId : ℕ) (lane : Lane) (reply : Outgoing)
      (hid : t.highestCall < callId) (hreply : reply.answer = (callId, lane)) :
      Act inner ctx t [reply] [] ((t.count callId lane).answer [(callId, lane)])
  /-- A cancel whose operation is indexed and has no record. -/
  | lost {t : Table F} (callId target : ℕ) (operationId : String) (hid : t.highestCall < callId)
      (hop : t.operations[operationId]? = some target) (hrecord : t.records[target]? = none) :
      Act inner ctx t [] [] (t.count callId .control)
  | create {t : Table F} (call : Call) (cls : Option (Class × Bool))
      (hid : t.highestCall < call.callId) (hopen : t.closing = false) :
      Act inner ctx t [] [] (t.create call cls)
  | hold {t : Table F} (callId : ℕ) (hid : t.highestCall < callId) (hopen : t.closing = false) :
      Act inner ctx t [] [] { t.count callId .call with held := t.held ++ [callId] }
  | wait {t : Table F} (callId target : ℕ) (record : Record F) (waiter : Waiter)
      (hid : t.highestCall < callId) (hrecord : t.records[target]? = some record)
      (hlive : record.outcome = none ∨ record.phase ≠ .terminal) :
      Act inner ctx t [] []
        { t.count callId waiter.lane with
          records := t.records.insert target (record.wait callId waiter) }
  | closer {t : Table F} (callId : ℕ) (hid : t.highestCall < callId) (hreport : t.report = none) :
      Act inner ctx t [] [] { t.count callId .control with closers := t.closers ++ [callId] }
  | admitDirect {t : Table F} (callId : ℕ) (record : Record F) (resolved : Resolved)
      (hrecord : t.records[callId]? = some record) (hphase : record.phase = .received)
      (hop : record.operation = none) :
      Act inner ctx t [] []
        { t with
          records := t.records.insert callId (record.awaiting resolved)
          directQueue := t.directQueue ++ [callId] }
  /-- The oldest delivered terminal record goes. -/
  | evict {t : Table F} (callId : ℕ) (record : Record F) (before after : List ℕ)
      (hretained : t.retained = before ++ callId :: after)
      (hrecord : t.records[callId]? = some record) (hdelivered : record.delivered = true)
      (hfrees : ctx.frees callId) :
      Act inner ctx t [] [] (t.discard callId record)
  | enqueue {t : Table F} (callId : ℕ) (record : Record F) (operationId : String) (cls : Class)
      (resolved : Resolved) (out : List Outgoing)
      (hrecord : t.records[callId]? = some record) (hphase : record.phase = .received)
      (hop : record.operation = some (operationId, cls))
      (hrequest : t.requests[resolved.requestId]? = none)
      (hqueue : t.queue.length < inner.limits.queuedOperations)
      (hentries : t.tableEntries < inner.limits.operationTable)
      (hout : out.map Outgoing.answer =
        if record.call.mode = .submit then [(callId, Lane.call)] else []) :
      Act inner ctx t out [] (t.enqueue callId record resolved)
  /-- A queue entry whose record is gone, settled, or holds no operation to start. -/
  | dequeue {t : Table F} (callId : ℕ) (before after : List ℕ)
      (hqueue : t.queue = before ++ callId :: after)
      (hrecord : ∀ record, t.records[callId]? = some record →
        record.operation = none ∨ record.resolved = none ∨ record.phase = .terminal) :
      Act inner ctx t [] [] { t with queue := before ++ after }
  /-- A queued operation starts on a worker of its own. -/
  | start {t : Table F} (callId : ℕ) (record : Record F) (operationId : String) (cls : Class)
      (resolved : Resolved) (before after : List ℕ)
      (hqueue : t.queue = before ++ callId :: after)
      (hrecord : t.records[callId]? = some record)
      (hop : record.operation = some (operationId, cls))
      (hresolved : record.resolved = some resolved) (hgate : record.gate = true)
      (hrunning : t.running < inner.limits.runningOperations)
      (hadmits : (t.busyOn resolved.workspace).admits cls = true)
      (hfree : cls.exclusive = true → ¬ ctx.occupied resolved.workspace)
      (hfirst : ∀ id ∈ before, ∀ other, t.records[id]? = some other → ∀ found,
        other.resolved = some found → found.workspace ≠ resolved.workspace) :
      Act inner ctx t [] [⟨callId, record.call, resolved, some operationId, false⟩]
        { (t.occupy resolved.workspace cls).take callId record with
          queue := before ++ after
          trace := t.trace ++ [Event.started callId resolved.workspace (some cls)] }
  /-- A queued operation is taken and no worker can be created for it. -/
  | startFailed {t : Table F} (callId : ℕ) (record : Record F) (operationId : String) (cls : Class)
      (resolved : Resolved) (outcome : Outcome F) (before after : List ℕ)
      (hqueue : t.queue = before ++ callId :: after)
      (hrecord : t.records[callId]? = some record)
      (hop : record.operation = some (operationId, cls))
      (hresolved : record.resolved = some resolved) (hgate : record.gate = true)
      (hrunning : t.running < inner.limits.runningOperations)
      (hadmits : (t.busyOn resolved.workspace).admits cls = true) :
      Act inner ctx t (settleReplies inner callId record.taken outcome) []
        (({ t.occupy resolved.workspace cls with
          queue := before ++ after }.take callId record).settle callId record.taken outcome)
  /-- A slot is taken for a record that has lost its gate. -/
  | leak {t : Table F} (callId : ℕ) (record : Record F) (operationId : String) (cls : Class)
      (resolved : Resolved) (before after : List ℕ) (hctx : ctx.closing = false)
      (hqueue : t.queue = before ++ callId :: after)
      (hrecord : t.records[callId]? = some record)
      (hop : record.operation = some (operationId, cls))
      (hresolved : record.resolved = some resolved) (hgate : record.gate = false)
      (hrunning : t.running < inner.limits.runningOperations)
      (hadmits : (t.busyOn resolved.workspace).admits cls = true) :
      Act inner ctx t [] []
        { t.occupy resolved.workspace cls with queue := before ++ after }
  /-- A waiting direct call that can no longer be taken. -/
  | passDirect {t : Table F} (callId : ℕ) (rest : List ℕ) (hqueue : t.directQueue = callId :: rest)
      (hrecord : ∀ record, t.records[callId]? = some record → record.gate = false) :
      Act inner ctx t [] [] { t with directQueue := rest }
  | ungateDirect {t : Table F} (callId : ℕ) (record : Record F) (rest : List ℕ)
      (hqueue : t.directQueue = callId :: rest) (hrecord : t.records[callId]? = some record)
      (hresolved : record.resolved = none) :
      Act inner ctx t [] []
        { t with
          directQueue := rest
          records := t.records.insert callId { record with gate := false } }
  | startDirect {t : Table F} (callId : ℕ) (record : Record F) (resolved : Resolved)
      (rest : List ℕ) (hqueue : t.directQueue = callId :: rest)
      (hrecord : t.records[callId]? = some record) (hresolved : record.resolved = some resolved)
      (hgate : record.gate = true) :
      Act inner ctx t []
        [⟨callId, record.call, resolved, record.operation.map Prod.fst, true⟩]
        { t.take callId record with
          directQueue := rest
          trace := t.trace ++
            [Event.started callId resolved.workspace (record.operation.map Prod.snd)] }
  | startDirectFailed {t : Table F} (callId : ℕ) (record : Record F) (resolved : Resolved)
      (outcome : Outcome F) (rest : List ℕ) (hqueue : t.directQueue = callId :: rest)
      (hrecord : t.records[callId]? = some record) (hresolved : record.resolved = some resolved)
      (hgate : record.gate = true) :
      Act inner ctx t (settleReplies inner callId record.taken outcome) []
        (({ t with directQueue := rest }.take callId record).settle callId record.taken outcome)
  /-- A record is settled. Only its own queue entries go, and outside close a
  queued record's entry does. A running record is settled by its worker's report
  or at the close bound, which revokes its gate. -/
  | settle {t : Table F} (callId : ℕ) (record : Record F) (outcome : Outcome F)
      (queue directQueue : List ℕ) (revoked : Finset ℕ)
      (hrecord : t.records[callId]? = some record) (hphase : record.phase ≠ .terminal)
      (hqueue : queue.Sublist t.queue) (hothers : ∀ id ∈ t.queue, id ≠ callId → id ∈ queue)
      (hgone : record.phase = .queued → t.queue.Nodup → callId ∉ queue ∨ ctx.closing = true)
      (hdirect : directQueue.Sublist t.directQueue)
      (hrevoked : ∀ id ∈ revoked, id ∈ t.revoked ∨ id = callId) (hkept : t.revoked ⊆ revoked)
      (hworker : record.phase = .running →
        ctx.reports callId ∨ callId ∈ revoked ∨ callId ∈ t.queue) :
      Act inner ctx t (settleReplies inner callId record outcome) []
        { t.settle callId record outcome with
          queue := queue, directQueue := directQueue, revoked := revoked }
  | deliver {t : Table F} (callId : ℕ) (record : Record F) (view : View)
      (hrecord : t.records[callId]? = some record) :
      Act inner ctx t [] [] { t with records := t.records.insert callId (record.deliver view) }
  | release {t : Table F} (callId : ℕ) (record : Record F)
      (hrecord : t.records[callId]? = some record) (hphase : record.phase = .terminal)
      (hfrees : ctx.frees callId) :
      Act inner ctx t [] [] (t.discard callId record)
  /-- Held reads are answered and the others kept. -/
  | reads {t : Table F} (kept answered : List ℕ) (out : List Outgoing)
      (hheld : (kept ++ answered).Perm t.held)
      (hout : out.map Outgoing.answer = answered.map fun callId => (callId, Lane.call)) :
      Act inner ctx t out []
        { t.answer (answered.map fun callId => (callId, Lane.call)) with held := kept }

/-- A chain of acts, with all it produced. -/
inductive Acts (inner : Inner F) (ctx : Context) (t : Table F) :
    List Outgoing → List Start → Table F → Prop
  | refl : Acts inner ctx t [] [] t
  | tail {out more : List Outgoing} {started workers : List Start} {u v : Table F}
      (chain : Acts inner ctx t out started u) (act : Act inner ctx u more workers v) :
      Acts inner ctx t (out ++ more) (started ++ workers) v

namespace Acts
variable {inner : Inner F} {ctx : Context} {t u v : Table F} {out more : List Outgoing}
  {started workers : List Start}

lemma single (act : Act inner ctx t out started u) : Acts inner ctx t out started u := by
  simpa using Acts.refl.tail act

lemma trans (first : Acts inner ctx t out started u) (second : Acts inner ctx u more workers v) :
    Acts inner ctx t (out ++ more) (started ++ workers) v := by
  induction second with
  | refl => simpa using first
  | tail _ act ih =>
    rw [← List.append_assoc, ← List.append_assoc]
    exact ih.tail act

/-- What each act keeps, a chain keeps. -/
lemma induction_on {P : Table F → Prop} (h : Acts inner ctx t out started u) (hinit : P t)
    (hact : ∀ {a b : Table F} {out : List Outgoing} {started : List Start},
      Act inner ctx a out started b → P a → P b) : P u := by
  induction h with
  | refl => exact hinit
  | tail _ act ih => exact hact act ih

end Acts

end GwzCore.SessionHost
