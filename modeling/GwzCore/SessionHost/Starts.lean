import GwzCore.SessionHost.Invariant

/-!
# Starts

Over every run a worker starts at most once for a call, never for a settled one, and
on one workspace in the order of the queue. Its thread calls the handler later, once.
Close can settle the call in between: at its bound it revokes the gates of the workers
that still run and settles their calls, whether or not the handler was called yet.
-/
namespace GwzCore.SessionHost
open SessionContract Multiset Event
variable {F : Type}

/-- What the history of a state says of starts. -/
structure State.Started (inner : Inner F) (s : State F) : Prop where
  once : (s.trace.filterMap Event.starts).Nodup
  unsettled : ∀ past event rest, s.trace = past ++ event :: rest →
    ∀ id, event.starts = some id → id ∉ past.filterMap Event.settles
  calledOnce : (s.trace.filterMap Event.runs).Nodup
  called : ∀ id ∈ s.trace.filterMap Event.runs, id ∈ s.trace.filterMap Event.starts
  -- a handler called after its call was settled reports to a revoked gate
  calledLate : ∀ label events, (step inner s label).trace = s.trace ++ events →
    ∀ id ∈ events.filterMap Event.runs, id ∈ s.trace.filterMap Event.settles → id ∈ s.revoked
  entersOnce : (s.trace.filterMap Event.enters).Nodup
  order : ∀ workspace, (s.trace.filterMap (Event.startsOn workspace)).Sublist
    (s.trace.filterMap (Event.entersOn workspace))

namespace Invariant
variable {inner : Inner F} {s : State F}

/-- Every handler call is one of a started worker. -/
lemma runs_le_starts (h : Invariant inner s) :
    (s.trace.filterMap runs : Multiset ℕ) ≤ s.trace.filterMap starts := by
  rw [← h.called]
  exact le_add_right _ _

/-- A settled call does not run. -/
lemma not_running_of_settled (h : Invariant inner s) {id : ℕ}
    (hsettled : id ∈ s.trace.filterMap settles) : ¬ s.table.Running id := by
  rintro ⟨record, hrecord, hphase⟩
  have hrank := (h.lawful.history.settles id hsettled).2 record hrecord
  rw [hphase] at hrank
  exact absurd hrank (by decide)

end Invariant

/-- In every state of every run: a worker starts at most once for a call and not after
its settlement, its handler is called at most once and after the settlement only with a
revoked gate, and starts on one workspace keep the order of the queue. -/
theorem starts_in_order (inner : Inner F) (labels : List (Label F)) :
    (run inner labels).Started inner := by
  have hinv := Invariant.run inner labels
  have hhistory := hinv.lawful.history
  constructor
  · exact hhistory.startsNodup
  · exact hhistory.before
  · exact coe_nodup.mp
      (nodup_of_le hinv.runs_le_starts (coe_nodup.mpr hhistory.startsNodup))
  · intro id hid
    exact mem_coe.mp (mem_of_le hinv.runs_le_starts (mem_coe.mpr hid))
  · intro label events htrace id hran hsettled
    obtain ⟨noted, hnoted, _, hworker⟩ := hinv.step_events label
    rw [List.append_cancel_left (htrace.symm.trans hnoted)] at hran
    exact (hworker id hran).resolve_left (hinv.not_running_of_settled hsettled)
  · exact hhistory.entersNodup
  · intro workspace
    exact (List.sublist_append_left _ _).trans (hhistory.order workspace)

/-- A write starts, close comes to its bound before the worker's thread has called the
handler, and then the thread calls it. -/
def sampleLate : List (Label String) :=
  [.opens, .frame [1, 0], .advance 2 (sampleEnv "r1" 0), .advance 0 (sampleEnv "r1" 0),
    .advance 0 (sampleEnv "r1" 0), .frame [2, 1], .advance 4 (sampleEnv "r1" 0),
    .advance 4 (sampleEnv "r1" 0), .advance 5 (sampleEnv "r1" 0), .advance 5 (sampleEnv "r1" 0),
    .advance 5 (sampleEnv "r1" 0), .advance 5 (sampleEnv "r1" 0), .advance 5 (sampleEnv "r1" 60000),
    .advance 3 (sampleEnv "r1" 60000)]

set_option maxRecDepth 10000 in
/-- The handler is called after close has settled its operation. -/
theorem called_after_settled : ¬ ∀ past id rest,
    (run sampleInner sampleLate).trace = past ++ Event.ran id :: rest →
      id ∉ past.filterMap Event.settles := by
  have htrace : (run sampleInner sampleLate).trace =
      [.entered 1 "w", .started 1 "w" (some .write), .settled 1] ++ [.ran 1] := by
    decide
  intro hnever
  exact hnever _ 1 [] htrace (by decide)

end GwzCore.SessionHost
