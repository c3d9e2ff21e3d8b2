import GwzCore.SessionHost.Closing

/-!
# The invariant of every run

All that holds of the table and its threads after any interleaving, from a fresh
session: the step lemma for a thread's turn, for the labels from outside, and
the run lemma.
-/
namespace GwzCore.SessionHost
open SessionContract List FiniteMap Nat Thread Pool Event State
variable {F : Type}

attribute [local simp] State.table

structure Invariant (inner : Inner F) (s : State F) : Prop where
  lawful : s.table.Lawful inner
  flushes : s.unflushed = Pool.total Thread.weight s.threads
  owes : s.Owes (Pool.total Thread.replies s.threads) (Pool.total Thread.spools s.threads)
  attended : s.table.Attended (Pool.total Thread.working s.threads)
  started : ∃ reported, (s.trace.filterMap Event.starts : Multiset ℕ) =
    reported + Pool.total Thread.working s.threads
  called : (s.trace.filterMap Event.runs : Multiset ℕ) + Pool.total Thread.toCall s.threads =
    (s.trace.filterMap Event.starts : Multiset ℕ)
  closing : s.Closing (Pool.total Thread.closes s.threads) (Pool.total Thread.spools s.threads)

lemma Table.Tallied.init : (table ({} : State F)).Tallied 0 := by
  have hslots : Table.slots (table ({} : State F)) = 0 := total_empty _
  rw [Table.Tallied, hslots]
  exact ⟨rfl, fun workspace cls => by cases cls <;> simp [Busy.count]⟩

lemma Table.Lawful.init (inner : Inner F) : (table ({} : State F)).Lawful inner where
  sound := {
    shape := by constructor <;> simp
    indexed := by
      constructor
      · exact (total_empty _).symm
      · exact zero_le _
      · exact zero_le _
      · exact .empty
      · simp
      · exact .empty
      · exact nodup_nil
      · simp
    limited := ⟨zero_le _, fun workspace => by
      have hempty : Table.busyOn (table ({} : State F)) workspace = {} := by
        simp [Table.busyOn]
      rw [hempty]
      exact ⟨zero_le _, zero_le _, fun h => absurd h (lt_irrefl 0)⟩⟩
    tallied := ⟨0, .init⟩ }
  history := by
    constructor <;> simp
    simp [Table.waitingOn]
  aged := .refl _

namespace Invariant
variable {inner : Inner F} {s s' : State F}

lemma init (inner : Inner F) : Invariant inner {} where
  lawful := .init inner
  flushes := rfl
  owes := by
    have howed : Table.owed (table ({} : State F)) = 0 := by
      rw [Table.owed, show (table ({} : State F)).records = ∅ from rfl, total_empty]
      rfl
    rw [State.Owes, Table.Answers, howed]
    have hempty : Ledger (0 : Multiset (ℕ × Lane)) 0 0 0 fun _ => 0 := .empty
    have hzero : (table ({} : State F)).unanswered = fun _ => 0 := by
      funext lane
      cases lane <;> rfl
    rw [hzero]
    exact hempty
  attended := by
    constructor
    · intro id hid
      simp [Pool.total, working] at hid
    · rintro id ⟨record, hrecord, _⟩
      simp at hrecord
  started := ⟨0, rfl⟩
  called := rfl
  closing := by
    refine ⟨rfl, fun _ => ⟨rfl, rfl, rfl⟩, ?_, ?_, ?_, ?_⟩
    · simp [Pool.total, closes]
    · simp [Pool.total, closes]
    · exact fun h => absurd rfl h
    · simp

section

variable (h : Invariant inner s)
include h

/-- A worker that is about to report has its record running or its gate revoked. -/
lemma reporting {index : ℕ} {start : Start} {outcome : Outcome F}
    (hget : s.threads[index]? = some (.reporting start outcome)) :
    s.table.Running start.callId ∨ start.callId ∈ s.table.revoked := by
  obtain ⟨rest, htotal, _⟩ := exists_rest working hget
  apply h.attended.live
  rw [htotal]
  simp [working]

/-- No two threads have the same call to report. -/
lemma working_nodup : (total working s.threads).Nodup := by
  obtain ⟨reported, hstarts⟩ := h.started
  have hnodup : (s.trace.filterMap starts : Multiset ℕ).Nodup :=
    h.lawful.history.startsNodup
  rw [hstarts] at hnodup
  exact Multiset.nodup_of_le (Multiset.le_add_left _ _) hnodup

lemma spools_eq_zero (hflushed : s.unflushed = 0) : Pool.total spools s.threads = 0 := by
  apply Pool.total_eq_zero
  intro thread hthread
  refine (thread.eq_zero_of_weight ?_).2
  have hle := Pool.le_total (w := weight) hthread
  rw [← h.flushes, hflushed] at hle
  omega

/-- A thread's turn keeps the invariant. -/
lemma turn {index : ℕ} {thread next : Thread F}
    (hget : s.threads[index]? = some thread) (hturn : Turn inner s thread s' next) :
    Invariant inner { s' with threads := s'.threads.set index next } := by
  have hsound := h.lawful.sound
  obtain ⟨started, events, hthreads, htrace, hworked⟩ := hturn.worked hsound
  have hfresh : ∀ thread ∈ started, thread.Fresh := by
    obtain ⟨others, hothers, hfresh⟩ := hturn.exists_started
    rw [append_cancel_left (hthreads.symm.trans hothers)]
    exact hfresh
  have hzero : total Thread.weight started = 0 ∧ total Thread.replies started = 0 ∧
      total Thread.spools started = 0 := by
    refine ⟨total_eq_zero ?_, total_eq_zero ?_, total_eq_zero ?_⟩
    all_goals
      intro thread hthread
      cases hfresh thread hthread <;> rfl
  -- the rest of the pool, by each of its weights
  obtain ⟨weight, hweight, hweight'⟩ := exists_rest Thread.weight hget
  obtain ⟨replies, hreplies, hreplies'⟩ := exists_rest Thread.replies hget
  obtain ⟨spools, hspools, hspools'⟩ := exists_rest Thread.spools hget
  obtain ⟨working, hworking, hworking'⟩ := exists_rest Thread.working hget
  obtain ⟨toCall, htoCall, htoCall'⟩ := exists_rest Thread.toCall hget
  obtain ⟨closes, hcloses, hcloses'⟩ := exists_rest Thread.closes hget
  have hpool : ∀ {M : Type} [AddCommMonoid M] (w : Thread F → M),
      total w (s'.threads.set index next) =
        total w ((s.threads ++ started).set index next) := by
    intro M _ w
    rw [hthreads]
  constructor
  · exact hturn.lawful h.lawful
  · have hcounted := hturn.unflushed (by
      rw [h.flushes, hweight]
      exact le_add_right _ _)
    show s'.unflushed = total Thread.weight (s'.threads.set index next)
    rw [hpool, hweight', hzero.1]
    rw [h.flushes, hweight] at hcounted
    omega
  · have howes := h.owes
    rw [hreplies, hspools] at howes
    have hafter := hturn.owes hsound howes
    show s'.Owes (total Thread.replies (s'.threads.set index next))
      (total Thread.spools (s'.threads.set index next))
    rw [hpool, hpool, hreplies', hspools', hzero.2.1, hzero.2.2, add_zero, add_zero]
    exact hafter
  · have hattended := h.attended
    have hnodup := h.working_nodup
    rw [hworking] at hattended hnodup
    show s'.table.Attended (total Thread.working (s'.threads.set index next))
    rw [hpool, hworking']
    exact hturn.attended hsound hthreads hnodup hattended
  · obtain ⟨reported, hstarts⟩ := h.started
    obtain ⟨gone, hgone⟩ := hworked.working
    refine ⟨reported + gone, ?_⟩
    show (s'.trace.filterMap starts : Multiset ℕ) =
      reported + gone + total Thread.working (s'.threads.set index next)
    rw [hpool, hworking', htrace, filterMap_append, ← Multiset.coe_add, hstarts, hworking]
    calc reported + (thread.working + working) + (events.filterMap starts : Multiset ℕ)
        = reported + working + ((events.filterMap starts : Multiset ℕ) + thread.working) := by
          simp only [add_assoc, add_comm, add_left_comm]
      _ = reported + gone + (next.working + working + total Thread.working started) := by
          rw [hgone]
          simp only [add_assoc, add_comm, add_left_comm]
  · show (s'.trace.filterMap runs : Multiset ℕ) +
      total Thread.toCall (s'.threads.set index next) = (s'.trace.filterMap starts : Multiset ℕ)
    have hcalled := h.called
    have hcalling := hworked.calling
    rw [htoCall] at hcalled
    rw [hpool, htoCall', htrace, filterMap_append, filterMap_append, ← Multiset.coe_add,
      ← Multiset.coe_add, ← hcalled]
    calc (s.trace.filterMap runs : Multiset ℕ) + (events.filterMap runs : Multiset ℕ) +
          (next.toCall + toCall + total Thread.toCall started)
        = (s.trace.filterMap runs : Multiset ℕ) + toCall +
            ((events.filterMap runs : Multiset ℕ) + next.toCall +
              total Thread.toCall started) := by
          simp only [add_assoc, add_comm, add_left_comm]
      _ = (s.trace.filterMap runs : Multiset ℕ) + (thread.toCall + toCall) +
            (events.filterMap starts : Multiset ℕ) := by
          rw [hcalling]
          simp only [add_assoc, add_comm, add_left_comm]
  · have hclosing := h.closing
    rw [hcloses, hspools] at hclosing
    have hafter := hturn.closing hsound hthreads (fun hflushed => by
      rw [← hspools]
      exact h.spools_eq_zero hflushed) hclosing
    have hmoved : State.Closing { s' with threads := s'.threads.set index next }
        (next.closes + closes + total Thread.closes started) (next.spools + spools) :=
      hafter.of_view rfl
    show State.Closing _ (total Thread.closes (s'.threads.set index next))
      (total Thread.spools (s'.threads.set index next))
    rw [hpool, hpool, hcloses', hspools', hzero.2.2, add_zero]
    exact hmoved

/-- A label from outside may add a thread that has done nothing yet. -/
lemma outside (added : List (Thread F)) (htable : s'.table = s.table)
    (hthreads : s'.threads = s.threads ++ added)
    (hunflushed : s'.unflushed = s.unflushed + total weight added)
    (hsent : s'.sent = s.sent) (habandoned : s'.abandoned = s.abandoned)
    (hstarted : s'.closeStarted = s.closeStarted) (hended : s'.ended = s.ended)
    (hidle : ∀ thread ∈ added, thread.replies = 0 ∧ thread.spools = 0 ∧ thread.working = 0 ∧
      thread.toCall = 0 ∧ thread.closes = 0) : Invariant inner s' := by
  have htrace : s'.trace = s.trace := congrArg Table.trace htable
  have hsame : ∀ {M : Type} [AddCommMonoid M] (w : Thread F → M), (∀ thread ∈ added, w thread = 0) →
      total w s'.threads = total w s.threads := by
    intro M _ w hzero
    rw [hthreads, total_append, total_eq_zero hzero, add_zero]
  have hreplies := hsame replies fun thread hthread => (hidle thread hthread).1
  have hspools := hsame spools fun thread hthread => (hidle thread hthread).2.1
  have hworking := hsame working fun thread hthread => (hidle thread hthread).2.2.1
  have htoCall := hsame toCall fun thread hthread => (hidle thread hthread).2.2.2.1
  have hcloses := hsame closes fun thread hthread => (hidle thread hthread).2.2.2.2
  constructor
  · rw [htable]
    exact h.lawful
  · rw [hunflushed, h.flushes, hthreads, total_append]
  · rw [hreplies, hspools, State.Owes, htable, sentCalls, hsent, abandonedCalls,
      habandoned]
    exact h.owes
  · rw [hworking, htable]
    exact h.attended
  · rw [hworking, htrace]
    exact h.started
  · rw [htoCall, htrace]
    exact h.called
  · rw [hcloses, hspools]
    exact h.closing.of_view (by
      rw [closeView, htable, hstarted, habandoned, hended]
      rfl)

/-- Every step keeps the invariant. -/
lemma step (label : Label F) : Invariant inner (step inner s label) := by
  have hquiet : ∀ {u : State F}, u.table = s.table → u.outer.1 = s.threads →
      u.frame.1 = s.unflushed → u.sent = s.sent → u.abandoned = s.abandoned →
      u.closeStarted = s.closeStarted → u.ended = s.ended → Invariant inner u :=
    fun htable hthreads hunflushed hsent habandoned hstarted hended =>
      h.outside [] htable (by rw [append_nil]; exact hthreads) hunflushed hsent habandoned
        hstarted hended (by simp)
  cases label with
  | opens | otherEnded => exact hquiet rfl rfl rfl rfl rfl rfl rfl
  | frame body =>
    simp only [SessionHost.step]
    split
    · cases inner.ports.decode body with
      | error => exact h
      | ok call =>
        refine h.outside [.reader call] rfl rfl rfl rfl rfl rfl rfl ?_
        intro thread hthread
        rw [mem_singleton.mp hthread]
        exact ⟨rfl, rfl, rfl, rfl, rfl⟩
    · exact h
  | channelEnds =>
    refine h.outside [.startClose false .done] rfl rfl rfl rfl rfl rfl rfl ?_
    intro thread hthread
    rw [mem_singleton.mp hthread]
    exact ⟨rfl, rfl, rfl, rfl, rfl⟩
  | advance index env =>
    simp only [SessionHost.step]
    cases hget : s.threads[index]? with
    | none => exact h
    | some thread =>
      refine h.turn hget (advance_turn env h.lawful.sound thread ?_)
      rintro start outcome rfl
      exact h.reporting hget
  | appends =>
    simp only [SessionHost.step]
    split
    · split
      · exact hquiet rfl rfl rfl rfl rfl rfl rfl
      · exact h
    · exact h
  | otherDetached =>
    simp only [SessionHost.step]
    split
    · exact hquiet rfl rfl rfl rfl rfl rfl rfl
    · exact h

/-- The close that a thread runs has reached its stage. -/
lemma runsClose {replies : Bool} {stage : CloseStage} {next : Thread F}
    (hmem : runClose replies stage next ∈ s.threads) : s.Reached replies stage := by
  obtain ⟨index, hget⟩ := mem_iff_getElem?.mp hmem
  obtain ⟨rest, htotal, _⟩ := exists_rest closes hget
  apply h.closing.reached (replies, stage)
  rw [htotal]
  simp [closes]

/-- A step is a thread's turn, or leaves the table alone. -/
lemma step_turn (label : Label F) :
    (SessionHost.step inner s label).table = s.table ∨
      ∃ index env thread u next, label = .advance index env ∧ s.threads[index]? = some thread ∧
        Turn inner s thread u next ∧
        SessionHost.step inner s label = { u with threads := u.threads.set index next } := by
  cases label with
  | advance index env =>
    cases hget : s.threads[index]? with
    | none =>
      left
      simp [SessionHost.step, hget]
    | some thread =>
      right
      have hturn := advance_turn env h.lawful.sound thread (by
        rintro start outcome rfl
        exact h.reporting hget)
      refine ⟨index, env, thread, _, _, rfl, hget, hturn, ?_⟩
      simp [SessionHost.step, hget]
  | frame body =>
    left
    simp only [SessionHost.step]
    split
    · cases inner.ports.decode body <;> rfl
    · rfl
  | appends =>
    left
    simp only [SessionHost.step]
    split
    · split <;> rfl
    · rfl
  | otherDetached =>
    left
    simp only [SessionHost.step]
    split <;> rfl
  | _ => exact .inl rfl

/-- What a step adds to the history: no start of a write or a push beside a detached
worker, and only handler calls of workers that have yet to report. -/
lemma step_events (label : Label F) :
    ∃ events, (SessionHost.step inner s label).trace = s.trace ++ events ∧
      (∀ callId workspace cls, Event.started callId workspace (some cls) ∈ events →
        cls.exclusive = true → ¬ s.occupied workspace) ∧
      ∀ id ∈ events.filterMap Event.runs, s.table.Running id ∨ id ∈ s.revoked := by
  rcases h.step_turn label with htable | ⟨index, env, thread, u, next, _, hget, hturn, hstep⟩
  · have htrace : (SessionHost.step inner s label).trace = s.trace := congrArg Table.trace htable
    exact ⟨[], by rw [htrace, append_nil], by simp, by simp⟩
  · obtain ⟨_, events, _, htrace, hworked⟩ := hturn.worked h.lawful.sound
    refine ⟨events, by rw [hstep]; exact htrace, hworked.exclusive, fun id hid => ?_⟩
    obtain ⟨rest, htotal, _⟩ := exists_rest working hget
    apply h.attended.live
    rw [htotal]
    exact Multiset.mem_add.mpr (.inl (thread.mem_working_of_mem_toCall (hworked.called id hid)))

end

/-- The invariant holds after every run. -/
lemma run (inner : Inner F) (labels : List (Label F)) : Invariant inner (run inner labels) :=
  Steps.run_induction (.init inner) (fun _ label h => h.step label) labels

end Invariant
end GwzCore.SessionHost
