import GwzCore.SessionHost.Invariant

/-!
# Answered once

Over every run, each call id gets at most one answer, whichever thread gives it, and
the two counters are the counted calls that have none. A close that replies leaves no
counted call without its answer: those it waits for are with the sink when it closes
the channel.
-/
namespace GwzCore.SessionHost
open SessionContract List Thread State
variable {F : Type}

namespace State

/-- The calls that have an answer: with the sink, or in a batch that a thread is
about to send. -/
def replied (s : State F) : Multiset (ℕ × Lane) :=
  s.sentCalls + Pool.total Thread.replies s.threads

/-- How many answers a call id has. -/
def answersTo (s : State F) (callId : ℕ) : ℕ := (s.replied.map Prod.fst).count callId

/-- The counted calls of a lane that have no answer. -/
def unansweredOn (s : State F) (lane : Lane) : List (ℕ × Lane) :=
  s.counted.filter fun call => decide (s.answersTo call.1 = 0) && decide (call.2 = lane)

/-- The counted calls of a lane that have one. -/
def answeredCalls (s : State F) (lane : Lane) : List (ℕ × Lane) :=
  s.counted.filter fun call => decide (s.answersTo call.1 ≠ 0) && decide (call.2 = lane)

/-- The counter of a lane. -/
def waitingOn (s : State F) : Lane → ℕ
  | .call => s.outstanding
  | .control => s.controls

/-- Every call is answered at most once, each counter is the counted calls of its
lane without an answer, and a close that replies answers all of them. -/
structure AnsweredOnce (s : State F) : Prop where
  once : ∀ callId, s.answersTo callId ≤ 1
  waiting : ∀ lane, s.waitingOn lane = (s.unansweredOn lane).length
  -- nothing is lost to a subtraction that stops at zero
  balance : ∀ lane, s.waitingOn lane + (s.answeredCalls lane).length =
    (s.counted.filter fun call => decide (call.2 = lane)).length
  -- the channel closes only after the sink has every answer
  drained : ∀ next, Thread.runClose true .draining next ∈ s.threads → s.unflushed = 0 →
    ∀ call ∈ s.counted, (s.sent.map Outgoing.target).count call.1 = 1
  completes : ∀ next, Thread.runClose true .ending next ∈ s.threads →
    ∀ call ∈ s.counted, s.answersTo call.1 = 1
  ended : s.ended = true → s.abandoned = [] → ∀ call ∈ s.counted, s.answersTo call.1 = 1

end State

namespace Invariant
variable {inner : Inner F} {s : State F}

section

variable (h : Invariant inner s)
include h

lemma replied_nodup : (s.replied.map Prod.fst).Nodup :=
  Ledger.answered_nodup h.owes

lemma waiting_eq (lane : Lane) : s.waitingOn lane = (s.unansweredOn lane).length := by
  have hledger := Ledger.waiting_eq h.owes lane
  have hwaiting : s.table.unanswered lane = s.waitingOn lane := by cases lane <;> rfl
  rw [Multiset.filter_coe, Multiset.coe_card, hwaiting] at hledger
  rw [hledger, unansweredOn]
  congr 1
  apply filter_congr
  intro call _
  rw [← Bool.decide_and, decide_eq_decide, answersTo, Multiset.count_eq_zero, and_comm]
  rfl

/-- Where nothing is owed, every counted call has one answer. -/
lemma answersTo_eq_one (howed : s.table.owed = 0)
    (hspools : Pool.total spools s.threads = 0) (habandoned : s.abandoned = []) :
    ∀ call ∈ s.counted, s.answersTo call.1 = 1 := by
  intro call hcall
  apply Multiset.count_eq_one_of_mem h.replied_nodup
  rcases Ledger.mem_answered h.owes hcall with hanswered | hnone
  · exact Multiset.mem_map_of_mem _ hanswered
  · rw [howed, hspools, abandonedCalls, habandoned] at hnone
    simp at hnone

/-- Replies that are not with the sink yet are counted as not flushed. -/
lemma replied_of_flushed (hflushed : s.unflushed = 0) : s.replied = s.sentCalls := by
  have hzero : Pool.total replies s.threads = 0 := by
    apply Pool.total_eq_zero
    intro thread hthread
    refine (thread.eq_zero_of_weight ?_).1
    have hle := Pool.le_total (w := weight) hthread
    rw [← h.flushes, hflushed] at hle
    omega
  rw [replied, hzero, add_zero]

/-- From the report on, a close that replies has left no counted call without an answer. -/
lemma answersTo_of_close {stage : CloseStage} {next : Thread F}
    (hrank : 3 ≤ stage.rank) (hmem : runClose true stage next ∈ s.threads) :
    ∀ call ∈ s.counted, s.answersTo call.1 = 1 := by
  obtain ⟨_, _, hdetached, hreported, _, hreplied⟩ := h.runsClose hmem
  obtain ⟨hsettled, hheld⟩ := hdetached (Nat.le_of_succ_le hrank)
  obtain ⟨hreport, hclosers⟩ := hreported hrank
  exact h.answersTo_eq_one (Table.owed_eq_zero h.lawful.sound.shape hsettled hheld hclosers)
    (h.closing.spooled hreport) (hreplied rfl)

lemma balance (lane : Lane) :
    s.waitingOn lane + (s.answeredCalls lane).length =
      (s.counted.filter fun call => decide (call.2 = lane)).length := by
  have hsplit := length_eq_length_filter_add
    (l := s.counted.filter fun call => decide (call.2 = lane))
    fun call => decide (s.answersTo call.1 = 0)
  simp only [filter_filter] at hsplit
  rw [h.waiting_eq lane, unansweredOn, answeredCalls, hsplit]
  simp only [decide_not]

end

end Invariant

/-- Every state of every run has its calls answered once. -/
theorem answered_once (inner : Inner F) (labels : List (Label F)) :
    (run inner labels).AnsweredOnce := by
  have hinv := Invariant.run inner labels
  constructor
  · intro callId
    exact Multiset.nodup_iff_count_le_one.mp hinv.replied_nodup callId
  · exact hinv.waiting_eq
  · exact hinv.balance
  · intro next hmem hflushed call hcall
    have hone := hinv.answersTo_of_close (by decide) hmem call hcall
    rw [State.answersTo, hinv.replied_of_flushed hflushed, State.sentCalls, Multiset.map_coe,
      map_map, Multiset.coe_count] at hone
    exact hone
  · intro next hmem
    exact hinv.answersTo_of_close (by decide) hmem
  · intro hended habandoned
    obtain ⟨_, hsettled, hheld, hclosers, hreport, _⟩ := hinv.closing.ended hended
    exact hinv.answersTo_eq_one (Table.owed_eq_zero hinv.lawful.sound.shape hsettled hheld hclosers)
      (hinv.closing.spooled hreport) habandoned

end GwzCore.SessionHost
