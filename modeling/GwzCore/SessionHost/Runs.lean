import GwzCore.SessionHost.Turns

/-!
# Invariants of the service

Each invariant of the table is kept by every turn of every thread, and beside
them stand those that tie the table to its threads: a batch is counted until it
is sent, a running record has the one worker that will report it, and close
finds the table as its stages left it. Together they hold after every run.
-/
namespace GwzCore.SessionHost
open SessionContract List Option Thread Event State Outgoing Pool Table.Answers
variable {F : Type} {s s' : State F} {inner : Inner F} {out : List Outgoing}
  {answered beyond : Multiset (ℕ × Lane)} {thread next : Thread F} {callId : ℕ} {ctx : Context}
  {starts : List Start} {started : List (Thread F)}

/-- What holds of the table after every run. -/
structure Table.Lawful (inner : Inner F) (t : Table F) : Prop where
  sound : t.Sound inner
  history : t.History
  aged : t.Aged

namespace Table.Lawful
variable {t u : Table F} {started : List Start}

lemma acts (h : t.Lawful inner) (hacts : Acts inner ctx t out started u) : u.Lawful inner :=
  ⟨h.sound.acts hacts, h.history.acts h.sound hacts, h.aged.acts hacts⟩

/-- Calls may come and be answered, and close goes on, while the records, queues and
slots stay. -/
lemma quiet (h : t.Lawful inner) {highest : ℕ} {unanswered : Lane → ℕ} {closing : Bool}
    {report : Option Cleanup} {closers : List ℕ} {counted : List (ℕ × Lane)}
    (hle : t.highestCall ≤ highest) :
    Table.Lawful inner { t with
      highestCall := highest, unanswered := unanswered, counted := counted, closing := closing
      report := report, closers := closers } := by
  obtain ⟨⟨hshape, hindexed, hlimited, htallied⟩, hhistory, haged⟩ := h
  refine ⟨⟨{ hshape.rises hle with }, { hindexed with }, { hlimited with }, htallied⟩, ?_, haged⟩
  exact hhistory.quiet rfl (fun _ _ _ hpast => ⟨hpast.1.trans hle, hpast.2⟩) fun _ => .refl _

lemma ofSection (h : s.table.Lawful inner) (hsection : Section inner ctx s out s') :
    s'.table.Lawful inner := by
  obtain ⟨started, hacts, _⟩ := hsection.acts
  exact h.acts hacts

end Table.Lawful

namespace Thread

/-- How many batches the thread has counted and not yet sent. -/
def weight : Thread F → ℕ
  | reader _ | spooling _ _ => 1
  | flush _ next | sending _ next => next.weight + 1
  | startClose _ next | runClose _ _ next => next.weight
  | _ => 0

/-- The calls whose replies the thread is about to send. -/
def replies : Thread F → Multiset (ℕ × Lane)
  | flush batch next | sending batch next =>
    (batch.map Outgoing.answer : List (ℕ × Lane)) + next.replies
  | startClose _ next | runClose _ _ next => next.replies
  | _ => 0

/-- The call whose spool the thread answers. -/
def spools : Thread F → Multiset (ℕ × Lane)
  | spooling call lane => {(call.callId, lane)}
  | flush _ next | sending _ next | startClose _ next | runClose _ _ next => next.spools
  | _ => 0

/-- The call whose worker has yet to report. -/
def working : Thread F → Multiset ℕ
  | spawned start | handling start | reporting start _ => {start.callId}
  | flush _ next | sending _ next | startClose _ next | runClose _ _ next => next.working
  | _ => 0

/-- The call whose handler the thread is about to call. -/
def toCall : Thread F → Multiset ℕ
  | spawned start => {start.callId}
  | flush _ next | sending _ next | startClose _ next | runClose _ _ next => next.toCall
  | _ => 0

lemma mem_working_of_mem_toCall {id : ℕ} (thread : Thread F) (h : id ∈ thread.toCall) :
    id ∈ thread.working := by
  induction thread with
  | spawned => exact h
  | flush batch next ih | sending batch next ih | startClose replies next ih
  | runClose replies stage next ih =>
    exact ih h
  | _ => exact absurd h (Multiset.notMem_zero _)

/-- The close that the thread runs: whether it replies, and its stage. -/
def closes : Thread F → Multiset (Bool × CloseStage)
  | runClose replies stage next => {(replies, stage)} + next.closes
  | flush _ next | sending _ next | startClose _ next => next.closes
  | _ => 0

/-- A thread that has sent all it counted holds no reply and no spool. -/
lemma eq_zero_of_weight (thread : Thread F) (h : thread.weight = 0) :
    thread.replies = 0 ∧ thread.spools = 0 := by
  induction thread with
  | reader | spooling | flush | sending => simp [weight] at h
  | startClose replies next ih | runClose replies stage next ih => exact ih h
  | _ => exact ⟨rfl, rfl⟩

end Thread

/-- The threads that turns start: workers, and the thread of close. -/
inductive Thread.Fresh : Thread F → Prop
  | spawned (start : Start) : Fresh (.spawned start)
  | closing (replies : Bool) : Fresh (.runClose replies .settling .done)

lemma Section.exists_started (h : Section inner ctx s out s') :
    ∃ started, s'.threads = s.threads ++ started ∧ ∀ thread ∈ started, thread.Fresh := by
  obtain ⟨starts, _, hthreads⟩ := h.acts
  refine ⟨_, hthreads, ?_⟩
  intro thread hthread
  obtain ⟨start, _, rfl⟩ := mem_map.mp hthread
  exact .spawned start

/-- What a turn does to the records and to the workers: most turns leave both alone,
or are one section of the table that reports nothing. -/
inductive Effect (inner : Inner F) (s : State F) : Thread F → State F → Thread F → Prop
  | quiet {thread next : Thread F} {s' : State F}
      (hhigh : s.table.highestCall ≤ s'.table.highestCall)
      (htable : s'.table = { s.table with
        highestCall := s'.table.highestCall, unanswered := s'.table.unanswered
        counted := s'.table.counted, closing := s'.table.closing, report := s'.table.report
        closers := s'.table.closers })
      (hthreads : s'.threads = s.threads) (hworking : next.working = thread.working)
      (hcalling : next.toCall = thread.toCall) : Effect inner s thread s' next
  | acts {thread next : Thread F} {ctx : Context} {s₀ s' : State F} {batch : List Outgoing}
      (hsection : Section inner ctx s₀ batch s') (htable : s₀.table = s.table)
      (hthreads : s₀.threads = s.threads) (hoccupied : ctx.occupied = s.occupied)
      (hreports : ∀ id, ¬ ctx.reports id) (hworking : next.working = thread.working)
      (hcalling : next.toCall = thread.toCall)
      (hfrees : ∀ id, ctx.frees id → s.table.Evictable id ∨
        ∃ call, thread = .reader call ∧ s.released inner call id)
      (hsent : ∀ answer ∈ batch.map Outgoing.answer, answer ∈ next.replies) :
      Effect inner s thread s' next
  | startsClose (replies : Bool) (next : Thread F) (hstarted : s.closeStarted = false) :
      Effect inner s (.startClose replies next)
        { s.startClosing with threads := s.threads ++ [.runClose replies .settling .done] } next
  | calls (start : Start) :
      Effect inner s (.spawned start) { s with trace := s.trace ++ [.ran start.callId] }
        (.handling start)
  | revoked (start : Start) (hrevoked : start.callId ∈ s.revoked) :
      Effect inner s (.handling start) s (.ending start)
  | reports {mid s' : State F} (start : Start) (outcome : Outcome F) (batch more : List Outgoing)
      (hsettle : Section inner { s.context (fun _ => False) with reports := (· = start.callId) }
        s.counting batch mid)
      (hthreads : mid.threads = s.threads)
      (hsettled : ∀ record, mid.table.records[start.callId]? = some record →
        record.phase = .terminal)
      (hschedule : Section inner (s.context fun _ => False) mid more s') :
      Effect inner s (.reporting start outcome) s' (.flush (batch ++ more) (.ending start))
  | takes {s' : State F} (start : Start)
      (hacts : Acts inner (s.context fun _ => False) s.table [] [start] s'.table)
      (hthreads : s'.threads = s.threads) : Effect inner s .nextDirect s' (.spawned start)

lemma Turn.effect (hturn : Turn inner s thread s' next) : Effect inner s thread s' next := by
  have hnever : ∀ id : ℕ, ¬ (s.context fun _ => False).reports id := fun _ h => h
  have hkeeps : ∀ id, (s.context fun _ => False).frees id → s.table.Evictable id ∨
      ∃ call, thread = .reader call ∧ s.released inner call id := fun _ h => h.elim
  have hflush : ∀ (batch : List Outgoing) (next : Thread F),
      ∀ answer ∈ batch.map Outgoing.answer, answer ∈ (flush batch next).replies :=
    fun _ _ _ h => Multiset.mem_add.mpr (.inl (Multiset.mem_coe.mpr h))
  cases hturn with
  | receives call batch hsection =>
    exact .acts hsection rfl rfl rfl hnever rfl rfl (fun _ h => .inr ⟨call, rfl, h⟩) (hflush _ _)
  | spools call lane hid hopen htable houter =>
    refine .quiet ?_ ?_ (congrArg Prod.fst houter) rfl rfl <;> rw [htable]
    · exact hid.le
    · rfl
  | closes call hsection =>
    exact .acts hsection rfl rfl rfl hnever rfl rfl (fun _ h => .inr ⟨call, rfl, h⟩) (by simp)
  | spooled call lane =>
    refine .quiet ?_ ?_ (congrArg Prod.fst (answeredOn_outer s call.callId lane)) rfl rfl <;>
      rw [answeredOn_table]
    · exact le_rfl
    · rfl
  | startsClose replies next hstarted => exact .startsClose replies next hstarted
  | marks batch next hsection =>
    exact .acts (hsection _) rfl rfl rfl hnever rfl rfl hkeeps (by simp)
  | sends reply rest next htable houter =>
    refine .quiet ?_ ?_ (congrArg Prod.fst houter) rfl rfl <;> rw [htable]
  | admission next htable houter hnext =>
    have hidle : next.working = 0 ∧ next.toCall = 0 := by
      rcases hnext with rfl | rfl | ⟨_, _, _, rfl⟩ <;> exact ⟨rfl, rfl⟩
    refine .quiet ?_ ?_ (congrArg Prod.fst houter) hidle.1 hidle.2 <;> rw [htable]
  | admits callId call cancelled batch hsection =>
    exact .acts hsection rfl rfl rfl hnever rfl rfl (fun _ h => .inl h) (hflush _ _)
  | reads batch next hsection hnext =>
    rcases hnext with rfl | rfl <;>
      exact .acts (hsection _) rfl rfl rfl hnever rfl rfl hkeeps (hflush _ _)
  | calls start => exact .calls start
  | revoked start hrevoked => exact .revoked start hrevoked
  | reports start outcome batch more hsettle hthreads hsettled hschedule =>
    exact .reports start outcome batch more hsettle hthreads hsettled hschedule
  | ends start next hnext => rcases hnext with rfl | rfl <;> exact .quiet le_rfl rfl rfl rfl rfl
  | takes start hacts houter => exact .takes start (hacts _) (congrArg Prod.fst houter)
  | leaves hsection => exact .acts (hsection _) rfl rfl rfl hnever rfl rfl hkeeps (by simp)
  | settles replies next batch hsection =>
    exact .acts hsection rfl rfl rfl hnever rfl rfl hkeeps (hflush _ _)
  | detaches replies next deadline batch hsection =>
    exact .acts (hsection _) rfl rfl rfl hnever rfl rfl hkeeps (hflush _ _)
  | answers =>
    refine .quiet ?_ ?_ (congrArg Prod.fst (answeredAll_outer _ s.closers .control)) rfl rfl <;>
      rw [answeredAll_table]
    · exact le_rfl
    · rfl
  | _ => exact .quiet le_rfl rfl rfl rfl rfl

/-- Every turn keeps the table's invariants. -/
lemma Turn.lawful (hturn : Turn inner s thread s' next) (h : s.table.Lawful inner) :
    s'.table.Lawful inner := by
  cases hturn.effect with
  | quiet hhigh htable =>
    rw [htable]
    exact h.quiet hhigh
  | acts hsection hsame => exact (hsame ▸ h).ofSection hsection
  | startsClose => exact h.quiet le_rfl
  | calls start =>
    obtain ⟨⟨hshape, hindexed, hlimited, htallied⟩, hhistory, haged⟩ := h
    refine ⟨⟨{ hshape with }, { hindexed with }, { hlimited with }, htallied⟩, ?_, ?_⟩
    · refine hhistory.append (u := table { s with trace := s.trace ++ [.ran start.callId] })
        rfl (fun _ _ _ hpast => hpast) (by simp [Event.starts])
        (by simp [Event.settles]) (by simp [Event.enters]) fun workspace => ?_
      simp only [Event.startsOn, Event.entersOn, toList_none, nil_append,
        append_nil]
      exact .refl _
    · show s.retained.Sublist ((s.trace ++ [Event.ran start.callId]).filterMap Event.settles)
      have hnone : (Event.ran start.callId).settles = none := rfl
      rw [Table.History.filterMap_concat, hnone, toList_none, append_nil]
      exact haged
  | revoked => exact h
  | reports start outcome batch more hsettle hthreads hsettled hschedule =>
    exact (Table.Lawful.ofSection (s := s.counting) h hsettle).ofSection hschedule
  | takes start hacts => exact h.acts hacts

/-- A turn adds threads to the pool, and only fresh ones. -/
lemma Turn.exists_started (hturn : Turn inner s thread s' next) :
    ∃ started, s'.threads = s.threads ++ started ∧ ∀ thread ∈ started, thread.Fresh := by
  have hnone : ∀ {u : State F}, u.threads = s.threads →
      ∃ started, u.threads = s.threads ++ started ∧ ∀ thread ∈ started, thread.Fresh :=
    fun h => ⟨[], by simp [h], by simp⟩
  cases hturn.effect with
  | quiet _ _ hthreads | takes start hacts hthreads => exact hnone hthreads
  | acts hsection _ hthreads => exact hthreads ▸ hsection.exists_started
  | startsClose replies =>
    refine ⟨_, rfl, ?_⟩
    intro thread hthread
    rw [mem_singleton.mp hthread]
    exact .closing replies
  | reports start outcome batch more hsettle hthreads hsettled hschedule =>
    exact hthreads ▸ hschedule.exists_started
  | _ => exact hnone rfl

lemma Section.unflushed_eq (h : Section inner ctx s out s') : s'.unflushed = s.unflushed :=
  congrArg Prod.fst h.frame

lemma unflushed_of_outer (h : s'.outer = s.outer) :
    s'.unflushed = s.unflushed := congrArg (fun outer => outer.2.2.1) h

/-- A turn counts the batches that it leaves to be sent. -/
lemma Turn.unflushed (hturn : Turn inner s thread s' next) (h : thread.weight ≤ s.unflushed) :
    s'.unflushed + thread.weight = s.unflushed + next.weight := by
  cases hturn with
  | receives call batch hsection | closes call hsection
  | admits callId call cancelled batch hsection =>
    rw [hsection.unflushed_eq]; rfl
  | spools call lane hid hopen htable houter | sends reply rest next htable houter
  | takes start hacts houter =>
    rw [unflushed_of_outer houter]; rfl
  | spooled call lane =>
    rw [unflushed_of_outer (answeredOn_outer s call.callId lane)]
    rfl
  | marks batch next hsection | leaves hsection =>
    rw [(hsection (s.context fun _ => False)).unflushed_eq]
    rfl
  | flushed =>
    simp only [weight] at h ⊢
    omega
  | admission next htable houter hnext =>
    rw [unflushed_of_outer houter]
    rcases hnext with rfl | rfl | ⟨_, _, _, rfl⟩ <;> rfl
  | reads batch next hsection hnext =>
    rw [(hsection (s.context fun _ => False)).unflushed_eq]
    rcases hnext with rfl | rfl <;> rfl
  | reports start outcome batch more hsettle hthreads hsettled hschedule =>
    rw [hschedule.unflushed_eq, hsettle.unflushed_eq]
    rfl
  | ends start next hnext => rcases hnext with rfl | rfl <;> rfl
  | settles replies next batch hsection =>
    rw [hsection.unflushed_eq]
    simp only [counting, weight]
    omega
  | detaches replies next deadline batch hsection =>
    rw [(hsection (s.context fun _ => False)).unflushed_eq]
    simp only [counting, weight]
    omega
  | answers =>
    rw [unflushed_of_outer (answeredAll_outer _ s.closers .control)]
    simp only [counting, weight]
    omega
  | abandons =>
    simp only [counting, weight]
    omega
  | _ => rfl

namespace Table.Answers
variable {t : Table F}

/-- A counted call whose answer a spool gives. -/
lemma spool (h : t.Answers answered beyond) (lane : Lane) (hid : t.highestCall < callId) :
    (t.count callId lane).Answers answered ({(callId, lane)} + beyond) := by
  have hentered : Ledger _ answered _ callId (t.count callId lane).unanswered :=
    Ledger.enter h lane hid fun l => rfl
  rw [add_assoc, add_comm beyond] at hentered
  exact hentered

lemma spooled {lane : Lane} (h : t.Answers answered ({(callId, lane)} + beyond)) :
    (t.answer [(callId, lane)]).Answers (answered + {(callId, lane)}) beyond := by
  rw [Table.Answers, ← add_assoc, add_comm t.owed, add_assoc] at h
  exact Ledger.answer h fun l => rfl

/-- The close calls that wait are answered with the report. -/
lemma answerClosers (h : t.Answers answered beyond) (report : Option Cleanup) :
    (Table.answer { t with report := report, closers := [] }
      (t.closers.map fun callId => (callId, Lane.control))).Answers
        (answered + (t.closers.map fun callId => (callId, Lane.control) : List (ℕ × Lane)))
        beyond := by
  refine h.replies _ ?_
  simp only [Table.owed, Table.answer, map_nil, Multiset.coe_nil, add_zero]
  exact add_comm _ _

/-- The close calls that wait are left. -/
lemma abandonClosers (h : t.Answers answered beyond) (report : Option Cleanup) :
    Table.Answers { t with report := report, closers := [] } answered
      (beyond + (t.closers.map fun callId => (callId, Lane.control) : List (ℕ × Lane))) := by
  have howed : t.owed + beyond = Table.owed { t with report := report, closers := [] } +
      (beyond + (t.closers.map fun callId => (callId, Lane.control) : List (ℕ × Lane))) := by
    simp only [Table.owed, map_nil, Multiset.coe_nil, add_zero]
    rw [add_assoc, add_comm beyond]
  rw [Table.Answers, ← howed]
  exact h

end Table.Answers

namespace State

/-- The calls whose replies were handed to the sink. -/
def sentCalls (s : State F) : Multiset (ℕ × Lane) := (s.sent.map Outgoing.answer : List (ℕ × Lane))

/-- The close calls left without their report. -/
def abandonedCalls (s : State F) : Multiset (ℕ × Lane) :=
  (s.abandoned.map fun callId => (callId, Lane.control) : List (ℕ × Lane))

/-- The ledger of a state, with the answers given and the calls owed elsewhere
than at the sink, the table and the abandoned closes. -/
def Owes (s : State F) (answered beyond : Multiset (ℕ × Lane)) : Prop :=
  s.table.Answers (s.sentCalls + answered) (beyond + s.abandonedCalls)

lemma owes_of_outer (houter : s'.outer = s.outer)
    (h : s'.table.Answers (s.sentCalls + answered) (beyond + s.abandonedCalls)) :
    s'.Owes answered beyond := by
  have hsent : s'.sent = s.sent := congrArg (fun outer => outer.2.2.2.1) houter
  have habandoned : s'.abandoned = s.abandoned := congrArg (fun outer => outer.2.2.2.2.2.2.1) houter
  rw [Owes, sentCalls, hsent, abandonedCalls, habandoned]
  exact h

end State

lemma Acts.owes {started : List Start} (hacts : Acts inner ctx s.table out started s'.table)
    (hframe : s'.frame = s.frame) (hsound : s.table.Sound inner) (h : s.Owes answered beyond) :
    s'.Owes ((out.map answer : List (ℕ × Lane)) + answered) beyond := by
  have hsent : s'.sent = s.sent := congrArg (fun frame => frame.2.1) hframe
  have habandoned : s'.abandoned = s.abandoned := congrArg (fun frame => frame.2.2.2.2.1) hframe
  rw [State.Owes, sentCalls, hsent, abandonedCalls, habandoned, add_comm
    (out.map answer : Multiset (ℕ × Lane)), ← add_assoc]
  exact acts h hsound hacts

lemma Section.owes (hsection : Section inner ctx s out s') (hsound : s.table.Sound inner)
    (h : s.Owes answered beyond) :
    s'.Owes ((out.map answer : List (ℕ × Lane)) + answered) beyond := by
  obtain ⟨started, hacts, _⟩ := hsection.acts
  exact hacts.owes hsection.frame hsound h

/-- A turn answers what it sends next, and owes what it spools next. -/
lemma Turn.owes (hturn : Turn inner s thread s' next) (hsound : s.table.Sound inner)
    (h : s.Owes (thread.replies + answered) (thread.spools + beyond)) :
    s'.Owes (next.replies + answered) (next.spools + beyond) := by
  cases hturn with
  | receives call batch hsection | closes call hsection
  | admits callId call cancelled batch hsection =>
    have hafter := hsection.owes hsound h
    simpa [Thread.replies, Thread.spools] using hafter
  | spools call lane hid hopen htable houter =>
    refine owes_of_outer houter ?_
    rw [htable]
    have hafter := spool h lane hid
    simpa [Thread.replies, Thread.spools, add_assoc] using hafter
  | spooled call lane reply hreply =>
    refine owes_of_outer (answeredOn_outer s call.callId lane) ?_
    rw [answeredOn_table]
    have hbefore : s.table.Answers (s.sentCalls + answered)
        ({(call.callId, lane)} + (beyond + s.abandonedCalls)) := by
      simpa [State.Owes, Thread.replies, Thread.spools, add_assoc] using h
    have hafter := hbefore.spooled
    rw [add_assoc, add_comm answered] at hafter
    simpa [Thread.replies, Thread.spools, hreply] using hafter
  | sends reply rest next htable houter =>
    have hsame : State.Owes { s with sent := s.sent ++ [reply] }
        ((Thread.sending rest next).replies + answered) (next.spools + beyond) := by
      have hsent : sentCalls { s with sent := s.sent ++ [reply] } =
          s.sentCalls + {reply.answer} := by
        simp only [sentCalls, map_append, ← Multiset.coe_add]
        rfl
      have hcons : (Thread.sending (reply :: rest) next).replies =
          {reply.answer} + (Thread.sending rest next).replies := by
        simp only [Thread.replies, map_cons, ← Multiset.cons_coe, ← Multiset.singleton_add,
          add_assoc]
      rw [State.Owes, hsent, add_assoc, ← add_assoc ({reply.answer} : Multiset (ℕ × Lane)), ← hcons]
      exact h
    exact owes_of_outer houter (htable ▸ hsame)
  | marks batch next hsection | leaves hsection =>
    have hafter := (hsection (s.context fun _ => False)).owes hsound h
    simpa [Thread.replies, Thread.spools] using hafter
  | admission next htable houter hnext =>
    have hafter : s'.Owes (0 + answered) (0 + beyond) :=
      owes_of_outer houter (htable ▸ h)
    rcases hnext with rfl | rfl | ⟨_, _, _, rfl⟩ <;> exact hafter
  | reads batch next hsection hnext =>
    have hafter := (hsection (s.context fun _ => False)).owes hsound h
    rcases hnext with rfl | rfl <;> simpa [Thread.replies, Thread.spools] using hafter
  | reports start outcome batch more hsettle hthreads hsettled hschedule =>
    have hmid := hsettle.owes hsound h
    obtain ⟨started, hacts, _⟩ := hsettle.acts
    have hafter := hschedule.owes (hsound.acts hacts) hmid
    rw [← add_assoc, Multiset.coe_add, ← Multiset.coe_eq_coe.mpr perm_append_comm,
      ← map_append] at hafter
    simpa [Thread.replies, Thread.spools] using hafter
  | ends start next hnext => rcases hnext with rfl | rfl <;> exact h
  | takes start hacts houter =>
    have hafter := (hacts (s.context fun _ => False)).owes
      (congrArg (fun outer => outer.2.2) houter) hsound h
    simpa [Thread.replies, Thread.spools] using hafter
  | settles replies next batch hsection =>
    have hafter := hsection.owes hsound h
    rw [← add_assoc] at hafter
    exact hafter
  | detaches replies next deadline batch hsection =>
    have hafter := (hsection (s.context fun _ => False)).owes hsound h
    rw [← add_assoc] at hafter
    exact hafter
  | answers next report =>
    refine owes_of_outer (s := s.counting) (answeredAll_outer _ s.closers .control) ?_
    rw [answeredAll_table]
    have hafter := answerClosers h (some report)
    have hreplies : (s.closers.map fun callId => closeReply inner callId report).map
        answer = s.closers.map fun callId => (callId, Lane.control) := by
      simp [Function.comp_def]
    have hsum : s.sentCalls + (next.replies + answered) +
          (s.closers.map fun callId => (callId, Lane.control) : List (ℕ × Lane)) =
        s.sentCalls + ((s.closers.map fun callId => (callId, Lane.control) : List (ℕ × Lane)) +
          next.replies + answered) := by
      rw [add_assoc s.sentCalls, add_comm (next.replies + answered), add_assoc _ next.replies]
    rw [Thread.replies, Thread.replies, hreplies]
    exact hsum ▸ hafter
  | abandons next report =>
    have hafter := abandonClosers h (some report)
    have habandoned : abandonedCalls { s.counting with
        report := some report, closers := [], abandoned := s.abandoned ++ s.closers } =
          s.abandonedCalls +
            (s.closers.map fun callId => (callId, Lane.control) : List (ℕ × Lane)) := by
      simp [abandonedCalls]
    have hreplies : (Thread.flush [] (.runClose false .draining next)).replies = next.replies :=
      zero_add _
    rw [State.Owes, habandoned, hreplies, ← add_assoc (_ + beyond)]
    exact hafter
  | flushed next =>
    have hsame : s.Owes (next.replies + answered) (next.spools + beyond) := by
      simpa [Thread.replies, Thread.spools] using h
    exact hsame
  | protocol => simpa [Thread.replies, Thread.spools] using h
  | _ => exact h

/-- What a turn does with workers: each start it records is a thread it starts or
becomes, and each handler's call one that waited to be made. No write or push
starts beside a detached worker. -/
structure Worked (s : State F) (thread next : Thread F) (started : List (Thread F))
    (events : List Event) : Prop where
  working : ∃ gone, (events.filterMap Event.starts : Multiset ℕ) + thread.working =
    next.working + Pool.total Thread.working started + gone
  calling : (events.filterMap Event.runs : Multiset ℕ) + next.toCall +
    Pool.total Thread.toCall started = (events.filterMap Event.starts : Multiset ℕ) + thread.toCall
  called : ∀ id ∈ events.filterMap Event.runs, id ∈ thread.toCall
  exclusive : ∀ callId workspace cls, Event.started callId workspace (some cls) ∈ events →
    cls.exclusive = true → ¬ s.occupied workspace

lemma total_spawned {w : Thread F → Multiset ℕ} (h : ∀ start, w (.spawned start) = {start.callId})
    (starts : List Start) : total w (starts.map .spawned) = (starts.map Start.callId : List ℕ) := by
  induction starts with
  | nil => rfl
  | cons start rest ih =>
    rw [map_cons, total, map_cons, sum_cons, ← total, ih, h]
    rfl

namespace Worked
variable {s₀ : State F} (hworking : ∃ gone, thread.working = next.working + gone)
  (hcalling : next.toCall = thread.toCall)
include hworking hcalling

lemma quiet : Worked s thread next [] [] where
  working := by
    obtain ⟨gone, hgone⟩ := hworking
    exact ⟨gone, by simpa using hgone⟩
  calling := by simp [hcalling]
  called := by simp
  exclusive := by simp

lemma of_traced {events : List Event} (htraced : Traced ctx starts events)
    (hoccupied : ∀ workspace, s.occupied workspace → ctx.occupied workspace) :
    Worked s thread next (starts.map Thread.spawned) events where
  working := by
    obtain ⟨gone, hgone⟩ := hworking
    refine ⟨gone, ?_⟩
    rw [htraced.starts, total_spawned (w := Thread.working) fun _ => rfl, hgone, ← add_assoc,
      add_comm next.working]
  calling := by
    rw [htraced.runs, htraced.starts, total_spawned (w := Thread.toCall) fun _ => rfl, hcalling,
      Multiset.coe_nil, zero_add]
    exact add_comm _ _
  called := by simp [htraced.runs]
  exclusive := fun callId workspace cls hmem hexclusive hoccupied' =>
    htraced.exclusive callId workspace cls hmem hexclusive (hoccupied workspace hoccupied')

/-- A section whose workers are the threads it started. -/
lemma of_section (hsection : Section inner ctx s₀ out s') (hsound : s₀.table.Sound inner)
    (hthreads : s₀.threads = s.threads) (htrace : s₀.trace = s.trace)
    (hoccupied : ∀ workspace, s.occupied workspace → ctx.occupied workspace) :
    ∃ started events, s'.threads = s.threads ++ started ∧ s'.trace = s.trace ++ events ∧
      Worked s thread next started events := by
  obtain ⟨starts, hacts, hafter⟩ := hsection.acts
  obtain ⟨events, hevents, htraced⟩ := Traced.acts hsound hacts
  refine ⟨_, events, hthreads ▸ hafter, ?_, of_traced hworking hcalling htraced hoccupied⟩
  rw [← htrace]
  exact hevents

end Worked

/-- What every turn does with workers. -/
lemma Turn.worked (hturn : Turn inner s thread s' next) (hsound : s.table.Sound inner) :
    ∃ started events, s'.threads = s.threads ++ started ∧ s'.trace = s.trace ++ events ∧
      Worked s thread next started events := by
  have hnone : s'.threads = s.threads → s'.trace = s.trace →
      (∃ gone, thread.working = next.working + gone) → next.toCall = thread.toCall →
        ∃ started events, s'.threads = s.threads ++ started ∧ s'.trace = s.trace ++ events ∧
          Worked s thread next started events :=
    fun hthreads htrace hworking hcalling =>
      ⟨[], [], by simp [hthreads], by simp [htrace], .quiet hworking hcalling⟩
  cases hturn.effect with
  | quiet _ htable hthreads hworking hcalling =>
    exact hnone hthreads (congrArg Table.trace htable) ⟨0, by simp [hworking]⟩ hcalling
  | acts hsection htable hthreads hoccupied _ hworking hcalling =>
    exact Worked.of_section ⟨0, by simp [hworking]⟩ hcalling hsection (htable ▸ hsound) hthreads
      (congrArg Table.trace htable) fun _ h => hoccupied ▸ h
  | startsClose =>
    refine ⟨_, [], rfl, by simp [startClosing], ⟨0, ?_⟩, ?_, by simp, by simp⟩
    · simp [total, working]
    · simp [total, toCall]
  | calls start =>
    refine ⟨[], [.ran start.callId], by simp, rfl, ⟨0, ?_⟩, ?_, ?_, by simp⟩
    · simp [working, starts]
    · simp [toCall, starts, runs]
    · simp [toCall, runs]
  | revoked start => exact hnone rfl rfl ⟨{start.callId}, rfl⟩ rfl
  | reports start outcome batch more hsettle hthreads hsettled hschedule =>
    obtain ⟨none, hfirst, hsettlers⟩ := hsettle.acts
    obtain ⟨starts, hsecond, hstarted⟩ := hschedule.acts
    obtain ⟨events, hevents, htraced⟩ := Traced.acts hsound hfirst
    obtain ⟨later, hlater, htraced'⟩ := Traced.acts (hsound.acts hfirst) hsecond
    have hempty : none = [] := by
      have hboth : s.threads ++ none.map spawned = s.threads := hsettlers.symm.trans hthreads
      simpa using hboth
    subst hempty
    have hquiet : Traced (s.context fun _ => False) [] events :=
      ⟨htraced.starts, htraced.runs, htraced.exclusive⟩
    refine ⟨_, events ++ later, hthreads ▸ hstarted, ?_,
      .of_traced ⟨{start.callId}, rfl⟩ (by rfl) (hquiet.append htraced') fun _ h => h⟩
    rw [← append_assoc]
    exact hlater.trans (congrArg (· ++ later) hevents)
  | takes start hacts hthreads =>
    obtain ⟨events, hevents, htraced⟩ := Traced.acts hsound hacts
    refine ⟨[], events, by simp [hthreads], hevents, ⟨0, ?_⟩, ?_, ?_, htraced.exclusive⟩
    · rw [htraced.starts]
      simp [working]
    · rw [htraced.starts, htraced.runs]
      simp [toCall]
    · simp [htraced.runs]

/-- Workers that have yet to report have running records or revoked gates, and
every running record has such a worker. -/
structure Table.Attended (t : Table F) (workers : Multiset ℕ) : Prop where
  live : ∀ id ∈ workers, t.Running id ∨ id ∈ t.revoked
  manned : ∀ id, t.Running id → id ∈ workers

namespace Table.Attended
variable {t u : Table F} {workers : Multiset ℕ}

/-- A section that reports nothing adds its own workers. -/
lemma acts (h : t.Attended workers) (hsound : t.Sound inner) (hreports : ∀ id, ¬ ctx.reports id)
    (hacts : Acts inner ctx t out starts u) :
    u.Attended (workers + (starts.map Start.callId : List ℕ)) where
  live := by
    intro id hid
    rcases Multiset.mem_add.mp hid with hold | hnew
    · exact Running.acts hsound (h.live id hold) (hreports id) hacts
    · obtain ⟨start, hstart, rfl⟩ := mem_map.mp (Multiset.mem_coe.mp hnew)
      exact started_acts hsound hreports hacts start hstart
  manned := by
    intro id hid
    rw [Multiset.mem_add, Multiset.mem_coe]
    exact (running_of_acts hsound hacts hid).imp_left (h.manned id)

lemma ofSection (h : s.table.Attended workers) (hsound : s.table.Sound inner)
    (hreports : ∀ id, ¬ ctx.reports id) (hsection : Section inner ctx s out s')
    (hthreads : s'.threads = s.threads ++ started) :
    s'.table.Attended (workers + total working started) := by
  obtain ⟨starts, hacts, hafter⟩ := hsection.acts
  have hstarted : started = starts.map spawned :=
    append_cancel_left (hthreads.symm.trans hafter)
  rw [hstarted, total_spawned (w := working) fun _ => rfl]
  exact h.acts hsound hreports hacts

/-- A worker whose gate is revoked leaves. -/
lemma revoke (h : t.Attended ({callId} + workers)) (hshape : t.Shape)
    (hrevoked : callId ∈ t.revoked) : t.Attended workers where
  live := fun id hid => h.live id (by simp [hid])
  manned := by
    intro id hid
    have hmem := h.manned id hid
    rw [Multiset.mem_add, Multiset.mem_singleton] at hmem
    rcases hmem with rfl | hmem
    · obtain ⟨record, hrecord, hphase⟩ := hid
      simp [(hshape.revoked id hrevoked).2 record hrecord] at hphase
    · exact hmem

/-- A worker settles its record and leaves. -/
lemma report (h : t.Attended ({callId} + workers)) (hnot : callId ∉ workers)
    (hsound : t.Sound inner) (hreports : ∀ id, ctx.reports id → id = callId)
    (hacts : Acts inner ctx t out starts u) (hstarts : starts = [])
    (hsettled : ∀ record : Record F, u.records[callId]? = some record →
      record.phase = .terminal) : u.Attended workers where
  live := by
    intro id hid
    refine Running.acts hsound (h.live id (by simp [hid])) ?_ hacts
    intro hreported
    exact hnot (hreports id hreported ▸ hid)
  manned := by
    intro id hid
    have hne : id ≠ callId := by
      rintro rfl
      obtain ⟨record, hrecord, hphase⟩ := hid
      simp [hsettled record hrecord] at hphase
    rcases running_of_acts hsound hacts hid with hold | hnew
    · have hmem := h.manned id hold
      simpa [hne] using hmem
    · simp [hstarts] at hnew

end Table.Attended

/-- Every turn keeps the table and its workers together. -/
lemma Turn.attended {others : Multiset ℕ} (hturn : Turn inner s thread s' next)
    (hsound : s.table.Sound inner) (hthreads : s'.threads = s.threads ++ started)
    (hnodup : (thread.working + others).Nodup) (h : s.table.Attended (thread.working + others)) :
    s'.table.Attended (next.working + others + total working started) := by
  have hnone : s'.threads = s.threads → total working started = 0 := by
    intro hsame
    have hnil : started = [] := by simpa [hthreads] using hsame
    rw [hnil, total_nil]
  have hnever : ∀ id : ℕ, ¬ (s.context fun _ => False).reports id := fun _ h => h
  cases hturn.effect with
  | quiet _ htable hsame hworking =>
    rw [hnone hsame, add_zero, hworking, htable]
    exact { h with }
  | @acts _ _ _ s₀ _ _ hsection htable hequal _ hreports hworking =>
    rw [hworking]
    exact Table.Attended.ofSection (s := s₀) (htable ▸ h) (htable ▸ hsound) hreports hsection
      (hequal ▸ hthreads)
  | startsClose replies =>
    have hone : started = [.runClose replies .settling .done] :=
      (append_cancel_left hthreads).symm
    have hzero : total working started = 0 := by
      rw [hone]
      rfl
    rw [hzero, add_zero]
    exact { h with }
  | calls =>
    rw [hnone rfl, add_zero]
    exact { h with }
  | revoked start hrevoked =>
    have hafter : s.table.Attended others := h.revoke hsound.shape hrevoked
    rw [hnone rfl, add_zero]
    rwa [← zero_add others] at hafter
  | @reports mid _ start outcome batch more hsettle hequal hsettled hschedule =>
    obtain ⟨none, hacts, hsettlers⟩ := hsettle.acts
    have hempty : none = [] := by
      have hboth : s.threads ++ none.map spawned = s.threads := hsettlers.symm.trans hequal
      simpa using hboth
    have hnot : start.callId ∉ others := by
      rw [working, Multiset.singleton_add, Multiset.nodup_cons] at hnodup
      exact hnodup.1
    have hmid : mid.table.Attended others :=
      h.report hnot hsound (fun _ hid => hid) hacts hempty hsettled
    have hafter := hmid.ofSection (hsound.acts hacts) hnever hschedule (hequal ▸ hthreads)
    rwa [← zero_add others] at hafter
  | takes start hacts hsame =>
    have hafter := h.acts hsound hnever hacts
    rw [hnone hsame, add_zero, add_comm]
    simpa [working, add_comm] using hafter

end GwzCore.SessionHost
