import GwzCore.Lib.Pool
import GwzCore.SessionHost.Departures

/-!
# The turns of a thread

A thread's turn is one of these: a section of the table whose replies it then
sends, a reply handed over, a stage of close, a worker's handler. `Turn` lists
them with what each needs from the state before it and leaves after it, and
every advance of a thread is one. The invariants of the service are proved once
for each turn.
-/
namespace GwzCore.SessionHost
open SessionContract
variable {F : Type} {inner : Inner F} {s : State F}

attribute [local simp] Phase.rank

namespace State

/-- The context of a section that settles nothing for close and reports nothing. -/
def context (s : State F) (frees : ℕ → Prop) : Context := ⟨s.occupied, false, frees, fun _ => False⟩

/-- The terminal records that a call releases. -/
def released (s : State F) (inner : Inner F) (call : Call) (owner : ℕ) : Prop :=
  ∃ operationId record, inner.ports.classify call = .ok (.release operationId) ∧
    s.table.operations[operationId]? = some owner ∧ s.table.records[owner]? = some record ∧
    record.phase = .terminal

/-- A section counts its batch before it leaves the table lock. -/
def counting (s : State F) : State F := { s with unflushed := s.unflushed + 1 }

/-- The close flag is set by the first close. -/
def startClosing (s : State F) : State F := { s with closeStarted := true, closing := true }

/-- What the running slots and the queue are read from. -/
def slotted (s : State F) : FiniteMap ℕ (Record F) × ℕ × FiniteMap String Busy × List ℕ :=
  (s.records, s.running, s.busy, s.queue)

end State

/-- One turn: the state after it, before the thread is put back, and what the
thread does next. -/
inductive Turn (inner : Inner F) (s : State F) : Thread F → State F → Thread F → Prop
  /-- A call is received and answered, or begins to wait. A closing session's
  table keeps its records and queue. -/
  | receives {s' : State F} (call : Call) (batch : List Outgoing)
      (hsection : Section inner (s.context (s.released inner call)) s batch s')
      (hclosed : s.closing = true → s'.slotted = s.slotted) :
      Turn inner s (.reader call) s' (.flush batch .done)
  | spools {s' : State F} (call : Call) (lane : Lane) (hid : s.table.highestCall < call.callId)
      (hopen : s.closing = false) (htable : s'.table = s.table.count call.callId lane)
      (houter : s'.outer = s.outer) :
      Turn inner s (.reader call) s' (.spooling call lane)
  /-- The first close call. -/
  | closes {s' : State F} (call : Call)
      (hsection : Section inner (s.context (s.released inner call)) s [] s')
      (hclosed : s.closing = true → s'.slotted = s.slotted) :
      Turn inner s (.reader call) s' (.startClose true (.flush [] .done))
  | protocol (call : Call) (error : ProtocolError) :
      Turn inner s (.reader call) s (.flush [] (.refused error))
  | spooled (call : Call) (lane : Lane) (reply : Outgoing)
      (hreply : reply.answer = (call.callId, lane)) :
      Turn inner s (.spooling call lane) (s.answeredOn call.callId lane) (.flush [reply] .done)
  | joins (replies : Bool) (next : Thread F) (hstarted : s.closeStarted = true) :
      Turn inner s (.startClose replies next) s next
  | startsClose (replies : Bool) (next : Thread F) (hstarted : s.closeStarted = false) :
      Turn inner s (.startClose replies next)
        { s.startClosing with threads := s.threads ++ [.runClose replies .settling .done] } next
  | runsClose (replies : Bool) (next : Thread F) (hstarted : s.closeStarted = false) :
      Turn inner s (.startClose replies next) s.startClosing (.runClose replies .settling next)
  | marks {s' : State F} (batch : List Outgoing) (next : Thread F)
      (hsection : ∀ ctx, Section inner ctx s [] s') :
      Turn inner s (.flush batch next) s' (.sending batch next)
  | flushed (next : Thread F) :
      Turn inner s (.sending [] next) { s with unflushed := s.unflushed - 1 } next
  | sends {s' : State F} (reply : Outgoing) (rest : List Outgoing) (next : Thread F)
      (htable : s'.table = s.table)
      (houter : s'.outer = { s with sent := s.sent ++ [reply] }.outer) :
      Turn inner s (.sending (reply :: rest) next) s' (.sending rest next)
  | admission {s' : State F} (next : Thread F) (htable : s'.table = s.table)
      (houter : s'.outer = s.outer)
      (hnext : next = .done ∨ next = .admission ∨ ∃ callId call cancelled,
        next = .resolving callId call cancelled) :
      Turn inner s .admission s' next
  /-- A call is admitted or settled. Nothing happens unless its record waits for it. -/
  | admits {s' : State F} (callId : ℕ) (call : Call) (cancelled : Bool) (batch : List Outgoing)
      (hsection : Section inner (s.context s.table.Evictable) s.counting batch s')
      (hidle : s.table.Settled 1 → s' = s.counting) :
      Turn inner s (.resolving callId call cancelled) s' (.flush batch .admission)
  | reads {s' : State F} (batch : List Outgoing) (next : Thread F)
      (hsection : ∀ ctx, Section inner ctx s.counting batch s')
      (hnext : next = .done ∨ next = .reads) : Turn inner s .reads s' (.flush batch next)
  | calls (start : Start) :
      Turn inner s (.spawned start) { s with trace := s.trace ++ [.ran start.callId] }
        (.handling start)
  | revoked (start : Start) (hrevoked : start.callId ∈ s.revoked) :
      Turn inner s (.handling start) s (.ending start)
  | returns (start : Start) (outcome : Outcome F) (hgate : start.callId ∉ s.revoked) :
      Turn inner s (.handling start) s (.reporting start outcome)
  /-- A worker settles its call, and then the scan starts what can start. -/
  | reports {mid s' : State F} (start : Start) (outcome : Outcome F) (batch more : List Outgoing)
      (hsettle : Section inner { s.context (fun _ => False) with reports := (· = start.callId) }
        s.counting batch mid)
      (hthreads : mid.threads = s.threads)
      (hsettled : ∀ record, mid.table.records[start.callId]? = some record →
        record.phase = .terminal)
      (hschedule : Section inner (s.context fun _ => False) mid more s') :
      Turn inner s (.reporting start outcome) s' (.flush (batch ++ more) (.ending start))
  | ends (start : Start) (next : Thread F) (hnext : next = .nextDirect ∨ next = .done) :
      Turn inner s (.ending start) s next
  /-- A direct worker takes the next waiting call and starts it on its own thread. -/
  | takes {s' : State F} (start : Start)
      (hacts : ∀ ctx, Acts inner ctx s.table [] [start] s'.table)
      (houter : s'.outer = s.outer) :
      Turn inner s .nextDirect s' (.spawned start)
  | leaves {s' : State F} (hsection : ∀ ctx, Section inner ctx s [] s') :
      Turn inner s .nextDirect s' .done
  /-- Close settles every call that has not started. -/
  | settles {s' : State F} (replies : Bool) (next : Thread F) (batch : List Outgoing)
      (hsection : Section inner { s.context (fun _ => False) with closing := true }
        s.counting batch s')
      (hsettled : s'.table.Settled 2) :
      Turn inner s (.runClose replies .settling next) s'
        (.flush batch (.runClose replies .timing next))
  | times (replies : Bool) (next : Thread F) (deadline : ℕ) :
      Turn inner s (.runClose replies .timing next) s (.runClose replies (.waiting deadline) next)
  /-- At the close bound, or when nothing runs any more, close detaches what runs
  and answers every held read. -/
  | detaches {s' : State F} (replies : Bool) (next : Thread F) (deadline : ℕ)
      (batch : List Outgoing)
      (hsection : ∀ ctx, Section inner ctx s.counting batch s')
      (hsettled : s.table.Settled 2 → s'.table.Settled 3) (hheld : s'.table.held = []) :
      Turn inner s (.runClose replies (.waiting deadline) next) s'
        (.flush batch (.runClose replies .releasing next))
  | releases (replies : Bool) (next : Thread F) :
      Turn inner s (.runClose replies .releasing next) s (.runClose replies .reporting next)
  /-- Close answers every close call that waits for its report. -/
  | answers (next : Thread F) (report : Cleanup) (hflushed : s.unflushed = 0) :
      Turn inner s (.runClose true .reporting next)
        (State.answeredAll { s.counting with report := some report, closers := [] }
          s.closers .control)
        (.flush (s.closers.map fun callId => closeReply inner callId report)
          (.runClose true .draining next))
  /-- The channel has ended, so the close calls are left without their report. -/
  | abandons (next : Thread F) (report : Cleanup) (hflushed : s.unflushed = 0) :
      Turn inner s (.runClose false .reporting next)
        { s.counting with
          report := some report, closers := [], abandoned := s.abandoned ++ s.closers }
        (.flush [] (.runClose false .draining next))
  | drains (replies : Bool) (next : Thread F) (hflushed : s.unflushed = 0) :
      Turn inner s (.runClose replies .draining next) s (.runClose replies .closing next)
  | closesChannel (replies : Bool) (next : Thread F) :
      Turn inner s (.runClose replies .closing next) { s with channelClosed := true }
        (.runClose replies .ending next)
  | endsSession (replies : Bool) (next : Thread F) :
      Turn inner s (.runClose replies .ending next) { s with ended := true } next
  | stays (thread : Thread F) : Turn inner s thread s thread

/-! ### Every advance is a turn -/

lemma clearDirect_section (inner : Inner F) (ctx : Context) (ids : List ℕ) (s : State F)
    (hqueue : s.directQueue = ids)
    (hgates : ∀ id ∈ ids, ∀ record, s.table.records[id]? = some record → record.gate = false) :
    Section inner ctx s [] { s with directQueue := [] } := by
  induction ids generalizing s with
  | nil =>
    refine .quiet ?_ rfl
    have hempty : s.table.directQueue = [] := hqueue
    show { s.table with directQueue := [] } = s.table
    rw [← hempty]
  | cons id rest ih =>
    have hpass : Section inner ctx s [] { s with directQueue := rest } :=
      .of_act (.passDirect id rest hqueue (hgates id (by simp))) rfl
    exact hpass.trans (ih { s with directQueue := rest } rfl
      fun other hother => hgates other (by simp [hother]))

lemma receive_closed (inner : Inner F) (spawn : Spawn) (now : ℕ) (s : State F) (call : Call)
    (hclosing : s.closing = true) : (receive inner spawn now s call).1.slotted = s.slotted := by
  unfold receive
  split
  · rfl
  · simp only
    split
    · rfl
    · cases hclassify : inner.ports.classify call with
      | error => rfl
      | ok request =>
        simp only [hclosing, true_and]
        by_cases hclose : request = .close
        · subst hclose
          simp only [ne_eq, not_true_eq_false, if_false]
          split
          · rfl
          · cases inner.ports.lane call.method <;>
              simp only [State.count] <;> cases s.report <;> rfl
        · simp only [ne_eq, hclose, not_false_eq_true, if_true]
          rfl

lemma reader_turn (inner : Inner F) (env : Env F) (s : State F) (call : Call) :
    Turn inner s (.reader call) (advance inner env s (.reader call)).1
      (advance inner env s (.reader call)).2 := by
  have hclosed := receive_closed inner env.spawn env.now s call
  have hreads : ReadsAs inner (s.context (s.released inner call)) s call
      (receive inner env.spawn env.now s call) := by
    refine receive_section env.spawn env.now ⟨rfl, fun _ h => h⟩ ?_
    intro operationId owner record hclassify hop hrecord hphase
    exact ⟨operationId, record, hclassify, hop, hrecord, hphase⟩
  cases hresult : receive inner env.spawn env.now s call with
  | mk s' reading =>
    rw [hresult] at hclosed hreads
    cases reading with
    | replies batch =>
      simp only [advance, hresult]
      exact .receives call batch hreads hclosed
    | spool lane =>
      obtain ⟨hid, hopen, htable, houter⟩ := hreads
      simp only [advance, hresult]
      exact .spools call lane hid hopen htable houter
    | close =>
      simp only [advance, hresult]
      exact .closes call hreads.1 hclosed
    | protocol error =>
      simp only [advance, hresult]
      rw [show s' = s from hreads]
      exact .protocol call error

lemma popPending_spec (ids : List ℕ) (s : State F) :
    (popPending ids s).1.table = s.table ∧ (popPending ids s).1.outer = s.outer := by
  induction ids with
  | nil => exact ⟨rfl, rfl⟩
  | cons id rest ih =>
    unfold popPending
    split
    · exact ih
    · split
      · exact ⟨rfl, rfl⟩
      · exact ih

lemma admission_turn (inner : Inner F) (env : Env F) (s : State F) :
    Turn inner s .admission (advance inner env s .admission).1
      (advance inner env s .admission).2 := by
  obtain ⟨htable, houter⟩ := popPending_spec s.pending s
  simp only [advance]
  split
  · exact .admission .done rfl rfl (.inl rfl)
  · cases hresult : popPending s.pending s with
    | mk s' found =>
      rw [hresult] at htable houter
      cases found with
      | none => exact .admission _ htable houter (.inr (.inl rfl))
      | some found => exact .admission _ htable houter (.inr (.inr ⟨_, _, _, rfl⟩))

lemma admitCall_idle (inner : Inner F) (spawn : Spawn) (s : State F) (callId : ℕ)
    (resolved : Option (Except F Resolved)) (hsettled : s.table.Settled 1) :
    admitCall inner spawn s callId resolved = (s, []) := by
  unfold admitCall
  cases hrecord : s.records[callId]? with
  | none => rfl
  | some record =>
    have hrank := hsettled callId record hrecord
    have hphase : record.phase ≠ .received := by
      intro hphase
      simp [hphase] at hrank
    simp [hphase]

lemma resolving_turn (env : Env F) (hsound : s.table.Sound inner) (callId : ℕ) (call : Call)
    (cancelled : Bool) :
    Turn inner s (.resolving callId call cancelled)
      (advance inner env s (.resolving callId call cancelled)).1
      (advance inner env s (.resolving callId call cancelled)).2 := by
  refine .admits callId call cancelled _ ?_ fun hsettled => ?_
  · refine admitCall_section ?_ ?_ callId _ ?_
    · exact fun _ h => h
    · exact hsound.indexed.evictsEntries hsound.shape
    · exact ⟨rfl, fun _ h => h⟩
  · exact congrArg Prod.fst (admitCall_idle inner env.spawn s.counting callId
      (if cancelled then none else some env.resolved) hsettled)

lemma reads_turn (inner : Inner F) (env : Env F) (s : State F) :
    Turn inner s .reads (advance inner env s .reads).1 (advance inner env s .reads).2 := by
  refine .reads _ _ (fun ctx => answerHeld_section inner ctx (readReady s.counting env.now)
    s.counting) ?_
  split
  · exact .inl rfl
  · exact .inr rfl

lemma reporting_turn (env : Env F) (hshape : s.table.Shape) (start : Start) (outcome : Outcome F)
    (hworker : s.table.Running start.callId ∨ start.callId ∈ s.table.revoked) :
    Turn inner s (.reporting start outcome) (advance inner env s (.reporting start outcome)).1
      (advance inner env s (.reporting start outcome)).2 := by
  have hrunning : ∀ record, s.table.records[start.callId]? = some record →
      record.phase ≠ .terminal → record.phase = .running := by
    intro record hrecord hphase
    rcases hworker with hrunning | hrevoked
    · exact hrunning.phase hrecord
    · exact absurd ((hshape.revoked _ hrevoked).2 record hrecord) hphase
  have hsettle : ∀ ctx : Context, ctx.reports start.callId →
      Performs inner ctx s.counting (settle inner s.counting start.callId outcome) := by
    intro ctx hreports
    refine settle_performs inner outcome fun record hrecord hphase => ⟨?_, fun _ => hreports⟩
    simp [hrunning record hrecord hphase]
  refine .reports start outcome _ _ (hsettle _ rfl) ?_ ?_ ?_
  · exact congrArg Prod.fst (settle_outer inner s.counting start.callId outcome)
  · intro record hrecord
    by_contra hphase
    exact (settle_live hrecord hphase).1 rfl
  · exact schedule_section ⟨rfl, (hsettle
      { s.context (fun _ => False) with reports := (· = start.callId) } rfl).occupied⟩

lemma nextDirect_turn (inner : Inner F) (env : Env F) (s : State F) :
    Turn inner s .nextDirect (advance inner env s .nextDirect).1
      (advance inner env s .nextDirect).2 := by
  have hnext := fun ctx => nextDirectFrom_spec inner ctx s.directQueue s rfl
  unfold advance nextDirect
  rcases hpair : nextDirectFrom s.directQueue s with ⟨s', _ | start⟩
  · refine .leaves fun ctx => ?_
    have htaken := hnext ctx
    rw [hpair] at htaken
    exact .of_outer htaken.1 htaken.2
  · refine .takes start (fun ctx => ?_) ?_
    · have htaken := hnext ctx
      rw [hpair] at htaken
      obtain ⟨t, callId, record, resolved, rest, hacts, hqueue, hrecord, hresolved, hgate, htable,
        houter, rfl⟩ := htaken
      have htrace : State.table { s' with trace := s'.trace ++ [startedEvent s'
            ⟨callId, record.call, resolved, record.operation.map Prod.fst, true⟩] } =
          { s'.table with trace := s'.table.trace ++ [startedEvent s'
            ⟨callId, record.call, resolved, record.operation.map Prod.fst, true⟩] } := rfl
      rw [htrace, startedEvent_taken htable, htable]
      exact hacts.trans
        (.single (.startDirect callId record resolved rest hqueue hrecord hresolved hgate))
    · have htaken := hnext (s.context fun _ => False)
      rw [hpair] at htaken
      obtain ⟨t, callId, record, resolved, rest, hacts, hqueue, hrecord, hresolved, hgate, htable,
        houter, rfl⟩ := htaken
      exact houter

/-- Close's settling leaves no call that could still start. -/
lemma settleNotStarted_started (inner : Inner F) (s : State F) {id : ℕ} {record : Record F}
    (hrecord : (settleNotStarted inner s.notStarted s).1.table.records[id]? = some record) :
    record.phase = .running ∨ record.phase = .terminal := by
  by_cases hterminal : record.phase = .terminal
  · exact .inr hterminal
  · obtain ⟨hnot, hbefore⟩ := settleNotStarted_live s.notStarted s hrecord hterminal
    left
    by_contra hrunning
    refine hnot (mem_notStarted.mpr ⟨record, hbefore, ?_⟩)
    cases hcase : record.phase <;> simp_all

lemma settling_section {ctx : Context} (hctx : ctx.closing = true) (hsound : s.table.Sound inner) :
    Section inner ctx s (settleNotStarted inner s.notStarted s).2
      { (settleNotStarted inner s.notStarted s).1 with directQueue := [] } := by
  have hsettle : Section inner ctx s (settleNotStarted inner s.notStarted s).2
      (settleNotStarted inner s.notStarted s).1 := by
    refine settleNotStarted_section hctx _ _ ?_
    intro id hid record hrecord hrunning
    obtain ⟨found, hfound, hphase⟩ := mem_notStarted.mp hid
    rw [hrecord] at hfound
    cases hfound
    simp [hrunning] at hphase
  obtain ⟨started, hacts, _⟩ := hsettle.acts
  have hsound' := hsound.acts hacts
  have hclear := clearDirect_section inner ctx _ (settleNotStarted inner s.notStarted s).1 rfl (by
      intro id _ record hrecord
      have hwf := hsound'.shape.wf id record hrecord
      cases hgate : record.gate with
      | false => rfl
      | true =>
        have hphase := hwf.gate.mp hgate
        rcases settleNotStarted_started inner s hrecord with hcase | hcase
        all_goals simp [hcase] at hphase)
  have hboth := hsettle.trans hclear
  rwa [List.append_nil] at hboth

lemma settling_turn (env : Env F) (hsound : s.table.Sound inner) (replies : Bool)
    (next : Thread F) :
    Turn inner s (.runClose replies .settling next)
      (advance inner env s (.runClose replies .settling next)).1
      (advance inner env s (.runClose replies .settling next)).2 := by
  have hsection : Section inner { s.context (fun _ => False) with closing := true }
      { s.counting with pending := [] } _ _ := settling_section rfl hsound
  refine .settles replies next _ ⟨hsection.acts, hsection.occupied, hsection.frame⟩ ?_
  intro id record hrecord
  rcases settleNotStarted_started inner { s.counting with pending := [] } hrecord with hcase | hcase
    <;> simp [hcase]

lemma Section.counting {ctx : Context} {s' : State F} {out : List Outgoing}
    (h : Section inner ctx s out s') : Section inner ctx s.counting out s'.counting where
  acts := h.acts
  occupied := h.occupied
  frame := by
    have hframe := h.frame
    simp only [State.frame, Prod.mk.injEq] at hframe
    simp [State.frame, State.counting, hframe]

lemma answerHeld_all (inner : Inner F) (reads : List Held) (s : State F) :
    (answerHeld inner (fun _ _ => true) reads s).1.held = s.held := by
  induction reads generalizing s with
  | nil => rfl
  | cons held rest ih =>
    exact ih (s.answered held.callId)

/-- Close at its bound: what runs is detached, and the held reads are answered. -/
lemma detaching_turn (inner : Inner F) (s : State F) (replies : Bool) (next : Thread F)
    (deadline : ℕ) {s₁ s₂ : State F} {batch reads : List Outgoing}
    (hdetach : detachRunning inner s.runningCalls s = (s₁, batch))
    (hreads : answerHeld inner (fun _ _ => true) s₁.held { s₁ with held := [] } = (s₂, reads)) :
    Turn inner s (.runClose replies (.waiting deadline) next) s₂.counting
      (.flush (batch ++ reads) (.runClose replies .releasing next)) := by
  have hsection : ∀ ctx, Section inner ctx s (batch ++ reads) s₂ := by
    intro ctx
    have hfirst := detachRunning_section inner ctx s.runningCalls s (runningCalls_nodup s)
      fun id hid => mem_runningCalls.mp hid
    have hsecond := answerHeld_section inner ctx (fun _ _ => true) s₁
    rw [hdetach] at hfirst
    rw [hreads] at hsecond
    exact hfirst.trans hsecond
  refine .detaches replies next deadline _ (fun ctx => (hsection ctx).counting) ?_ ?_
  · intro hsettled id record hrecord
    obtain ⟨kept, answered, _, htable, _, _⟩ :=
      answerHeld_spec inner (fun _ _ => true) s₁.held { s₁ with held := [] }
    rw [hreads] at htable
    have hbefore : (detachRunning inner s.runningCalls s).1.table.records[id]? = some record := by
      rw [hdetach]
      have hrecords : s₂.table.records = s₁.table.records := by rw [htable]; rfl
      rw [← hrecords]
      exact hrecord
    by_cases hterminal : record.phase = .terminal
    · simp [hterminal]
    · -- what is neither running nor terminal would not have started
      obtain ⟨hnot, hold⟩ := detachRunning_live s.runningCalls s hbefore hterminal
      have hrank := hsettled id record hold
      refine absurd (mem_runningCalls.mpr ⟨record, hold, ?_⟩) hnot
      cases hcase : record.phase <;> simp_all
  · have hheld := answerHeld_all inner s₁.held { s₁ with held := [] }
    rw [hreads] at hheld
    show s₂.held.map Held.callId = []
    rw [hheld]
    rfl

lemma closeSection_turn (env : Env F) (hsound : s.table.Sound inner) (replies : Bool)
    (stage : CloseStage) (next : Thread F) :
    Turn inner s (.runClose replies stage next)
      (advance inner env s (.runClose replies stage next)).1
      (advance inner env s (.runClose replies stage next)).2 := by
  cases stage with
  | settling => exact settling_turn env hsound replies next
  | timing => exact .times replies next _
  | waiting deadline =>
    simp only [advance, closeSection]
    split
    · exact .stays _
    · exact detaching_turn inner s replies next deadline rfl rfl
  | releasing => exact .releases replies next
  | reporting =>
    simp only [advance, closeSection]
    split
    · exact .stays _
    · have hzero : s.unflushed = 0 := by omega
      cases replies with
      | true => exact .answers next _ hzero
      | false => exact .abandons next _ hzero
  | draining =>
    simp only [advance, closeSection]
    split
    · exact .stays _
    · exact .drains replies next (by omega)
  | closing => exact .closesChannel replies next
  | ending => exact .endsSession replies next

/-- Every advance of a thread is a turn, if a worker that reports still has its
record running or its gate revoked. -/
lemma advance_turn (env : Env F) (hsound : s.table.Sound inner) (thread : Thread F)
    (hworker : ∀ start outcome, thread = .reporting start outcome →
      s.table.Running start.callId ∨ start.callId ∈ s.table.revoked) :
    Turn inner s thread (advance inner env s thread).1 (advance inner env s thread).2 := by
  cases thread with
  | reader call => exact reader_turn inner env s call
  | spooling call lane =>
    refine .spooled call lane _ ?_
    cases env.spooled <;> rfl
  | startClose replies next =>
    simp only [advance]
    by_cases hstarted : s.closeStarted = true
    · rw [if_pos hstarted]
      exact .joins replies next hstarted
    · rw [if_neg hstarted]
      have hfalse : s.closeStarted = false := by simpa using hstarted
      split
      · exact .startsClose replies next hfalse
      · exact .runsClose replies next hfalse
  | flush batch next =>
    exact .marks batch next fun ctx => markDelivered_section inner ctx _ s
  | sending batch next =>
    cases batch with
    | nil => exact .flushed next
    | cons reply rest =>
      simp only [advance]
      cases env.sent
      all_goals exact .sends reply rest next rfl rfl
  | admission => exact admission_turn inner env s
  | resolving callId call cancelled => exact resolving_turn env hsound callId call cancelled
  | reads => exact reads_turn inner env s
  | spawned start => exact .calls start
  | handling start =>
    simp only [advance]
    by_cases hrevoked : start.callId ∈ s.revoked
    · rw [if_pos hrevoked]
      exact .revoked start hrevoked
    · rw [if_neg hrevoked]
      exact .returns start _ hrevoked
  | reporting start outcome =>
    exact reporting_turn env hsound.shape start outcome (hworker start outcome rfl)
  | ending start =>
    refine .ends start _ ?_
    simp only [advance]
    split
    · exact .inl rfl
    · exact .inr rfl
  | nextDirect => exact nextDirect_turn inner env s
  | runClose replies stage next => exact closeSection_turn env hsound replies stage next
  | refused | done => exact .stays _

end GwzCore.SessionHost
