import GwzCore.SessionHost.Runs

/-!
# The stages of close

At most one close runs. What its stages have done stays done while other threads
take their turns: nothing that could start is left after the first, nothing runs
and no read is held after the bound, and once the report is out no close waits
for it and no spool is answered.
-/
namespace GwzCore.SessionHost
open SessionContract List Multiset CloseStage Thread Table State Pool
variable {F : Type} {others rest : Multiset (Bool × CloseStage)} {stage : CloseStage}
  {replies : Bool} {out : List Outgoing} {s s' : State F} {started : List (Thread F)}

/-- The order of close's stages, by what they have left behind. -/
def CloseStage.rank : CloseStage → ℕ
  | .settling => 0
  | .timing | .waiting _ => 1
  | .releasing | .reporting => 2
  | .draining => 3
  | .closing => 4
  | .ending => 5

/-- What holds when close has reached `stage`. -/
structure State.Reached (s : State F) (replies : Bool) (stage : CloseStage) : Prop where
  started : s.closeStarted = true
  settled : 1 ≤ stage.rank → s.table.Settled 2
  detached : 2 ≤ stage.rank → s.table.Settled 3 ∧ s.table.held = []
  reported : 3 ≤ stage.rank → s.table.report ≠ none ∧ s.table.closers = []
  pending : stage.rank < 3 → s.table.report = none ∧ s.abandoned = []
  replied : replies = true → s.abandoned = []

/-- Close as its threads and its flags have it. `closes` are the closes that
threads run, `spools` the calls that threads answer from a spool. -/
structure State.Closing (s : State F) (closes : Multiset (Bool × CloseStage))
    (spools : Multiset (ℕ × Lane)) : Prop where
  flag : s.table.closing = s.closeStarted
  idle : s.closeStarted = false → closes = 0 ∧ s.table.report = none ∧ s.abandoned = []
  one : closes.card ≤ 1
  reached : ∀ close ∈ closes, s.Reached close.1 close.2
  spooled : s.table.report ≠ none → spools = 0
  ended : s.ended = true → closes = 0 ∧ s.table.Settled 3 ∧ s.table.held = [] ∧
    s.table.closers = [] ∧ s.table.report ≠ none ∧ s.closeStarted = true

/-- What close reads of the table. -/
def Table.closeView (t : Table F) :
    Bool × FiniteMap ℕ (Record F) × List ℕ × List ℕ × Option Cleanup :=
  (t.closing, t.records, t.held, t.closers, t.report)

/-- What close reads. -/
def State.closeView (s : State F) :
    (Bool × FiniteMap ℕ (Record F) × List ℕ × List ℕ × Option Cleanup) × Bool × List ℕ × Bool :=
  (s.table.closeView, s.closeStarted, s.abandoned, s.ended)

namespace State.Closing
variable {inner : Inner F} {ctx : Context} {closes : Multiset (Bool × CloseStage)}
  {spools : Multiset (ℕ × Lane)}

section

variable (h : s.Closing closes spools)
include h

/-- A chain of acts leaves what close has reached, and may come further. -/
lemma acts {started : List Start} (hsound : s.table.Sound inner)
    (hacts : Acts inner ctx s.table out started s'.table) (hframe : s'.frame = s.frame) :
    s'.Closing closes spools := by
  simp only [frame, Prod.mk.injEq] at hframe
  obtain ⟨_, _, hended, hstarted, habandoned, _⟩ := hframe
  have hflag := closing_acts hacts
  have hreport := report_acts hacts
  have hclosed : s.closeStarted = true → s.table.closing = true := fun h' => h.flag.trans h'
  constructor
  · rw [hflag, hstarted]
    exact h.flag
  · rw [hstarted, hreport, habandoned]
    exact h.idle
  · exact h.one
  · intro close hclose
    obtain ⟨hstart, hsettled, hdetached, hreported, hpending, hreplied⟩ := h.reached close hclose
    have hclosing := hclosed hstart
    refine ⟨hstarted.trans hstart, ?_, ?_, ?_, ?_, ?_⟩
    · exact fun hrank => (hsettled hrank).acts (by decide) hsound hclosing hacts
    · intro hrank
      obtain ⟨hterminal, hheld⟩ := hdetached hrank
      exact ⟨hterminal.acts le_rfl hsound hclosing hacts, held_acts hclosing hheld hacts⟩
    · intro hrank
      obtain ⟨hsome, hclosers⟩ := hreported hrank
      exact ⟨hreport ▸ hsome, closers_acts hsome hclosers hacts⟩
    · rw [hreport, habandoned]
      exact hpending
    · rw [habandoned]
      exact hreplied
  · rw [hreport]
    exact h.spooled
  · intro hend
    obtain ⟨hnone, hterminal, hheld, hclosers, hsome, hstart⟩ := h.ended (hended ▸ hend)
    have hclosing := hclosed hstart
    exact ⟨hnone, hterminal.acts le_rfl hsound hclosing hacts,
      held_acts hclosing hheld hacts, closers_acts hsome hclosers hacts,
      hreport ▸ hsome, hstarted.trans hstart⟩

lemma ofSection (hsound : s.table.Sound inner)
    (hsection : Section inner ctx s out s') : s'.Closing closes spools := by
  obtain ⟨started, hacts, _⟩ := hsection.acts
  exact h.acts hsound hacts hsection.frame

/-- Nothing that close reads has changed. -/
lemma of_view (hview : s'.closeView = s.closeView) : s'.Closing closes spools := by
  simp only [closeView, Table.closeView, Prod.mk.injEq] at hview
  obtain ⟨⟨hclosing, hrecords, hheld, hclosers, hreport⟩, hstarted, habandoned, hended⟩ := hview
  have hsettled : ∀ rank, s'.table.Settled rank ↔ s.table.Settled rank := by
    intro rank
    rw [Table.Settled, Table.Settled, hrecords]
  refine ⟨by rw [hclosing, hstarted, h.flag], by rw [hstarted, hreport, habandoned]; exact h.idle,
    h.one, ?_, hreport ▸ h.spooled, ?_⟩
  · intro close hclose
    obtain ⟨hstart, hwaits, hdetached, hreported, hpending, hreplied⟩ := h.reached close hclose
    refine ⟨hstarted.trans hstart, ?_, ?_, ?_, ?_, ?_⟩
    · rwa [hsettled]
    · rwa [hsettled, hheld]
    · rwa [hreport, hclosers]
    · rwa [hreport, habandoned]
    · rwa [habandoned]
  · rw [hended, hsettled, hheld, hclosers, hreport, hstarted]
    exact h.ended

lemma of_outer (htable : s'.table.closeView = s.table.closeView)
    (houter : s'.outer = s.outer) : s'.Closing closes spools := by
  simp only [outer, frame, Prod.mk.injEq] at houter
  obtain ⟨_, _, _, _, hended, hstarted, habandoned, _⟩ := houter
  exact h.of_view (by rw [closeView, htable, hstarted, habandoned, hended]; rfl)

end

/-- Only one close runs: with its thread, no other runs one. -/
lemma alone {close : Bool × CloseStage} (h : s.Closing ({close} + rest + others) spools) :
    (∀ close' : Bool × CloseStage, {close'} + rest + others = {close'}) ∧
      s.Closing {close} spools ∧ s.Reached close.1 close.2 := by
  have hone := h.one
  rw [card_add, card_add, card_singleton] at hone
  have hrest : rest = 0 := card_eq_zero.mp (by omega)
  have hothers : others = 0 := card_eq_zero.mp (by omega)
  subst hrest hothers
  have hsame : ∀ close' : Bool × CloseStage, {close'} + 0 + 0 = ({close'} : Multiset _) := by simp
  rw [hsame] at h
  exact ⟨hsame, h, h.reached close (Multiset.mem_singleton_self close)⟩

/-- Close comes to its next stage. -/
lemma advance {next : CloseStage} (h : s.Closing {(replies, stage)} spools)
    (hnext : s.Reached replies next) : s.Closing {(replies, next)} spools where
  flag := h.flag
  idle := by
    intro hidle
    simp [hnext.started] at hidle
  one := by simp
  reached := by
    intro close hclose
    rw [Multiset.mem_singleton.mp hclose]
    exact hnext
  spooled := h.spooled
  ended := fun hend => absurd (h.ended hend).1 (by simp)

/-- What spools owe may change until the report is out. -/
lemma respool (h : s.Closing closes spools) {spools' : Multiset (ℕ × Lane)}
    (hspools : s.table.report ≠ none → spools' = 0) : s.Closing closes spools' :=
  ⟨h.flag, h.idle, h.one, h.reached, hspools, h.ended⟩

/-- The first close starts. -/
lemma starts (h : s.Closing closes spools) (hidle : s.closeStarted = false) (replies : Bool)
    (htable : s'.table = { s.table with closing := true }) (hstarted : s'.closeStarted = true)
    (habandoned : s'.abandoned = s.abandoned) (hended : s'.ended = s.ended) :
    s'.Closing {(replies, .settling)} spools := by
  obtain ⟨_, hreport, hnone⟩ := h.idle hidle
  refine ⟨by rw [htable, hstarted], by simp [hstarted], by simp, ?_, ?_, ?_⟩
  · intro close hclose
    rw [Multiset.mem_singleton.mp hclose]
    refine ⟨hstarted, by simp [rank], by simp [rank],
      by simp [rank], fun _ => ⟨?_, habandoned.trans hnone⟩,
      fun _ => habandoned.trans hnone⟩
    rw [htable]
    exact hreport
  · rw [htable]
    exact h.spooled
  · intro hend
    have hstart := (h.ended (hended ▸ hend)).2.2.2.2.2
    simp [hidle] at hstart

/-- The report is out, and no close waits for it any more. -/
lemma reports (h : s.Closing {(replies, stage)} spools) (report : Cleanup) {abandoned : List ℕ}
    (hrank : stage.rank = 2) (habandoned : replies = true → abandoned = []) (hspools : spools = 0) :
    State.Closing { s with report := some report, closers := [], abandoned := abandoned }
      {(replies, .draining)} spools := by
  have hreached := h.reached _ (Multiset.mem_singleton_self _)
  obtain ⟨hstart, hsettled, hdetached, _, _, _⟩ := hreached
  refine ⟨h.flag, ?_, by simp, ?_, fun _ => hspools, ?_⟩
  · intro hidle
    have hfalse : s.closeStarted = false := hidle
    simp [hstart] at hfalse
  · intro close hclose
    rw [Multiset.mem_singleton.mp hclose]
    exact ⟨hstart, fun _ => hsettled (by simp [hrank]), fun _ => hdetached (by simp [hrank]),
      fun _ => ⟨by simp [table], rfl⟩, by simp [rank], habandoned⟩
  · intro hend
    exact absurd (h.ended hend).1 (by simp)

end State.Closing

/-- Stages that leave the same behind are reached together. -/
lemma State.Reached.move {next : CloseStage} (h : s.Reached replies stage)
    (hrank : next.rank = stage.rank ∨ 3 ≤ stage.rank ∧ 3 ≤ next.rank) : s.Reached replies next := by
  obtain ⟨hstart, hsettled, hdetached, hreported, hpending, hreplied⟩ := h
  rcases hrank with hrank | ⟨hstage, hnext⟩
  · exact ⟨hstart, hrank ▸ hsettled, hrank ▸ hdetached, hrank ▸ hreported, hrank ▸ hpending,
      hreplied⟩
  · exact ⟨hstart, fun _ => hsettled (by omega), fun _ => hdetached (by omega),
      fun _ => hreported hstage, fun hlt => absurd hlt (by omega), hreplied⟩

/-! ### The stages of the one close -/

namespace State.Closing
variable {inner : Inner F} {ctx : Context} {spools : Multiset (ℕ × Lane)}

/-- It comes to a stage that leaves no more behind. -/
lemma moves (next : CloseStage) (h : s.Closing ({(replies, stage)} + rest + others) spools)
    (hrank : next.rank = stage.rank ∨ 3 ≤ stage.rank ∧ 3 ≤ next.rank) :
    s.Closing ({(replies, next)} + rest + others) spools := by
  obtain ⟨hsole, hclose, hreached⟩ := h.alone
  rw [hsole]
  exact hclose.advance (hreached.move hrank)

/-- It has settled every call that had not started. -/
lemma settles (h : s.Closing ({(replies, .settling)} + rest + others) spools)
    (hsound : s.table.Sound inner) (hsection : Section inner ctx s out s')
    (hsettled : s'.table.Settled 2) : s'.Closing ({(replies, .timing)} + rest + others) spools := by
  obtain ⟨hsole, hclose, _⟩ := h.alone
  have hafter := hclose.ofSection hsound hsection
  have hreached := hafter.reached _ (Multiset.mem_singleton_self _)
  rw [hsole]
  exact hafter.advance ⟨hreached.started, fun _ => hsettled, by simp [rank], by simp [rank],
    fun _ => hreached.pending (by simp [rank]), hreached.replied⟩

/-- It has detached what ran and answered every held read. -/
lemma detaches {deadline : ℕ}
    (h : s.Closing ({(replies, .waiting deadline)} + rest + others) spools)
    (hsound : s.table.Sound inner) (hsection : Section inner ctx s out s')
    (hsettled : s.table.Settled 2 → s'.table.Settled 3) (hheld : s'.table.held = []) :
    s'.Closing ({(replies, .releasing)} + rest + others) spools := by
  obtain ⟨hsole, hclose, hbefore⟩ := h.alone
  have hafter := hclose.ofSection hsound hsection
  have hreached := hafter.reached _ (Multiset.mem_singleton_self _)
  have hterminal := hsettled (hbefore.settled (by simp [rank]))
  rw [hsole]
  exact hafter.advance ⟨hreached.started, fun _ => hreached.settled (by simp [rank]),
    fun _ => ⟨hterminal, hheld⟩, by simp [rank], fun _ => hreached.pending (by simp [rank]),
    hreached.replied⟩

/-- It has ended the session, and no thread runs a close. -/
lemma endsSession (h : s.Closing ({(replies, .ending)} + rest + others) spools) :
    State.Closing { s with ended := true } (rest + others) spools := by
  obtain ⟨hsole, hclose, hreached⟩ := h.alone
  have hnone : rest + others = 0 := by
    have hsum := hsole (replies, .ending)
    rw [add_assoc] at hsum
    exact add_left_cancel (hsum.trans (add_zero _).symm)
  obtain ⟨hterminal, hheld⟩ := hreached.detached (by simp [rank])
  obtain ⟨hreport, hclosers⟩ := hreached.reported (by simp [rank])
  rw [hnone]
  refine ⟨hclose.flag, ?_, by simp, by simp, hclose.spooled, fun _ =>
    ⟨rfl, hterminal, hheld, hclosers, hreport, hreached.started⟩⟩
  intro hidle
  have hstarted : s.closeStarted = false := hidle
  simp [hreached.started] at hstarted

end State.Closing

/-! ### Every turn -/

lemma Section.total_closes {inner : Inner F} {ctx : Context}
    (hsection : Section inner ctx s out s') (hthreads : s'.threads = s.threads ++ started) :
    total closes started = 0 := by
  obtain ⟨starts, _, hafter⟩ := hsection.acts
  rw [append_cancel_left (hthreads.symm.trans hafter)]
  apply total_eq_zero
  intro thread hthread
  obtain ⟨start, _, rfl⟩ := mem_map.mp hthread
  rfl

section

variable {inner : Inner F} {thread next : Thread F} {elsewhere : Multiset (ℕ × Lane)}

/-- The threads that a turn starts run no close, unless it starts the first. -/
lemma Turn.total_closes (hturn : Turn inner s thread s' next)
    (hthreads : s'.threads = s.threads ++ started) :
    total Thread.closes started = 0 ∨ ∃ replies, thread = .startClose replies next ∧
      s.closeStarted = false ∧ total Thread.closes started = {(replies, .settling)} ∧
      s'.closeView = s.startClosing.closeView := by
  have hnone : s'.threads = s.threads → total Thread.closes started = 0 := by
    intro hsame
    have hnil : started = [] := by simpa [hthreads] using hsame
    rw [hnil, total_nil]
  cases hturn.effect with
  | quiet _ _ hsame | takes start hacts hsame => exact .inl (hnone hsame)
  | acts hsection _ hequal => exact .inl (hsection.total_closes (hequal ▸ hthreads))
  | startsClose replies next hstarted =>
    refine .inr ⟨replies, rfl, hstarted, ?_, rfl⟩
    rw [← append_cancel_left hthreads]
    rfl
  | reports start outcome batch more hsettle hequal hsettled hschedule =>
    exact .inl (hschedule.total_closes (hequal ▸ hthreads))
  | _ => exact .inl (hnone rfl)

/-- Every turn keeps what close has reached, and close's own turns come further. -/
lemma Turn.closing (hturn : Turn inner s thread s' next) (hsound : s.table.Sound inner)
    (hthreads : s'.threads = s.threads ++ started)
    (hflushed : s.unflushed = 0 → thread.spools + elsewhere = 0)
    (h : s.Closing (thread.closes + others) (thread.spools + elsewhere)) :
    s'.Closing (next.closes + others + total Thread.closes started)
      (next.spools + elsewhere) := by
  rcases hturn.total_closes hthreads with hzero | ⟨replies, rfl, hstarted, hone, hview⟩
  swap
  · rw [hone, show next.closes + others = 0 from (h.idle hstarted).1, zero_add]
    have hstarts : s.startClosing.Closing {(replies, .settling)} (next.spools + elsewhere) :=
      h.starts hstarted replies rfl rfl rfl rfl
    exact hstarts.of_view hview
  rw [hzero, add_zero]
  have hcounting : s.counting.Closing (thread.closes + others) (thread.spools + elsewhere) :=
    h.of_view rfl
  cases hturn with
  | receives call batch hsection | closes call hsection => exact h.ofSection hsound hsection
  | spools call lane hid hopen htable houter =>
    have hafter : s'.Closing (0 + others) (0 + elsewhere) :=
      h.of_outer (by rw [htable]; rfl) houter
    refine hafter.respool fun hreport => absurd ?_ hreport
    rw [htable]
    exact (h.idle (h.flag.symm.trans hopen)).2.1
  | spooled call lane =>
    have hafter : (s.answeredOn call.callId lane).Closing (0 + others)
        ({(call.callId, lane)} + elsewhere) :=
      h.of_outer (by rw [answeredOn_table]; rfl) (answeredOn_outer s call.callId lane)
    refine hafter.respool fun hreport => ?_
    have hzero := hafter.spooled hreport
    simp at hzero
  | startsClose replies next =>
    rw [← append_cancel_left hthreads] at hzero
    simp [total, Thread.closes] at hzero
  | runsClose replies next hstarted =>
    have hidle : next.closes + others = 0 := (h.idle hstarted).1
    rw [Thread.closes, add_assoc, hidle, add_zero]
    exact h.starts hstarted replies rfl rfl rfl rfl
  | marks batch next hsection | leaves hsection =>
    exact h.ofSection hsound (hsection (s.context fun _ => False))
  | flushed | calls => exact h.of_view rfl
  | sends reply rest next htable houter =>
    have hsent : State.Closing { s with sent := s.sent ++ [reply] } (next.closes + others)
        (next.spools + elsewhere) := h.of_view rfl
    exact hsent.of_outer (by rw [htable]; rfl) houter
  | admission next htable houter hnext =>
    have hafter : s'.Closing (0 + others) (0 + elsewhere) := h.of_outer (by rw [htable]) houter
    rcases hnext with rfl | rfl | ⟨_, _, _, rfl⟩ <;> exact hafter
  | admits callId call cancelled batch hsection => exact hcounting.ofSection hsound hsection
  | reads batch next hsection hnext =>
    have hafter := hcounting.ofSection hsound (hsection (s.context fun _ => False))
    rcases hnext with rfl | rfl <;> exact hafter
  | reports start outcome batch more hsettle hequal hsettled hschedule =>
    obtain ⟨none, hacts, _⟩ := hsettle.acts
    exact (hcounting.ofSection hsound hsettle).ofSection (hsound.acts hacts) hschedule
  | ends start next hnext => rcases hnext with rfl | rfl <;> exact h
  | takes start hacts houter =>
    exact h.acts hsound (hacts (s.context fun _ => False))
      (congrArg (fun outer => outer.2.2) houter)
  | settles replies next batch hsection hsettled =>
    exact hcounting.settles hsound hsection hsettled
  | times | releases => exact h.moves _ (.inl rfl)
  | detaches replies next deadline batch hsection hsettled hheld =>
    exact hcounting.detaches hsound (hsection (s.context fun _ => False)) hsettled hheld
  | answers next report hempty =>
    obtain ⟨hsole, hclose, hreached⟩ := hcounting.alone
    have hreports := hclose.reports report rfl hreached.replied (hflushed hempty)
    rw [Thread.closes, Thread.closes, hsole]
    exact hreports.of_outer (by rw [answeredAll_table]; rfl)
      (answeredAll_outer _ s.closers .control)
  | abandons next report hempty =>
    obtain ⟨hsole, hclose, hreached⟩ := hcounting.alone
    rw [Thread.closes, Thread.closes, hsole]
    exact hclose.reports report rfl (by simp) (hflushed hempty)
  | drains => exact h.moves _ (.inr (by simp [rank]))
  | closesChannel replies next =>
    have hafter : State.Closing { s with channelClosed := true }
        ((Thread.runClose replies .closing next).closes + others) (next.spools + elsewhere) :=
      h.of_view rfl
    exact hafter.moves _ (.inr (by simp [rank]))
  | endsSession replies next => exact h.endsSession
  | _ => exact h

end

end GwzCore.SessionHost
