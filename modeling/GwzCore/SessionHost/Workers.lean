import GwzCore.SessionHost.Invariant

/-!
# Workers and phases

Over every run the threads and the records agree: each running call has one worker, an ended
session has only workers that close revoked, and no call goes back to an earlier phase.
-/
namespace GwzCore.SessionHost
open SessionContract List Thread Pool
variable {F : Type} (labels before after : List (Label F))

/-- Each running call has one worker. No other call has one, but those that close revoked, whose
records are settled; and each started worker has called its handler or is about to. -/
theorem workers_accounted (inner : Inner F) :
    let s := run inner labels
    (total working s.threads).Nodup ∧ (∀ id, s.table.Running id → id ∈ total working s.threads) ∧
    (∀ id ∈ total working s.threads, s.table.Running id ∨ id ∈ s.revoked ∧ s.table.Past 3 id) ∧
    (s.trace.filterMap Event.runs : Multiset ℕ) + total toCall s.threads =
      s.trace.filterMap Event.starts := by
  intro s
  have hinv := Invariant.run inner labels
  refine ⟨hinv.working_nodup, hinv.attended.manned, fun id hid => ?_, hinv.called⟩
  refine (hinv.attended.live id hid).imp_right fun hrevoked => ⟨hrevoked, ?_⟩
  obtain ⟨hbound, hterminal⟩ := hinv.lawful.sound.shape.revoked id hrevoked
  refine ⟨hbound, fun record hrecord => ?_⟩
  rw [hterminal record hrecord]
  rfl

/-- At most one close runs. When it has ended the session, every record is settled, no read and
no close call waits, and the workers that still run are revoked. -/
theorem ended_session_is_idle (inner : Inner F) :
    let s := run inner labels
    (total closes s.threads).card ≤ 1 ∧ (s.ended = true →
      total closes s.threads = 0 ∧ s.table.Settled 3 ∧ s.held = [] ∧ s.closers = [] ∧
      total spools s.threads = 0 ∧ ∀ id ∈ total working s.threads, id ∈ s.revoked) := by
  intro s
  have hinv := Invariant.run inner labels
  refine ⟨hinv.closing.one, fun hended => ?_⟩
  obtain ⟨hnone, hsettled, hheld, hclosers, hreport, _⟩ := hinv.closing.ended hended
  refine ⟨hnone, hsettled, map_eq_nil_iff.mp hheld, hclosers, hinv.closing.spooled hreport, ?_⟩
  intro id hid
  refine (hinv.attended.live id hid).resolve_left ?_
  rintro ⟨record, hrecord, hphase⟩
  have hrank := hsettled id record hrecord
  rw [hphase] at hrank
  exact absurd hrank (by decide)

/-- From any state of a run on, the history only grows, a running call never waits again, and a
settled one stays settled until its record goes. -/
theorem calls_go_forward (inner : Inner F) :
    let s := run inner before
    let later := run inner (before ++ after)
    s.trace <+: later.trace ∧ (∀ id, s.table.Running id → later.table.Past 2 id) ∧
      ∀ id ∈ s.retained, later.table.Past 3 id := by
  intro s later
  have hinv := Invariant.run inner before
  have hhistory := (Invariant.run inner (before ++ after)).lawful.history
  have hgrows : s.trace <+: later.trace := by
    have hlater : later = Steps.run (step inner) s after := Steps.run_append _ _ _ _
    rw [hlater]
    refine (Steps.run_induction (P := fun u => Invariant inner u ∧ s.trace <+: u.trace)
      ⟨hinv, prefix_rfl⟩ (fun u label h => ⟨h.1.step label, ?_⟩) after).2
    obtain ⟨events, htrace, _⟩ := h.1.step_events label
    exact htrace ▸ h.2.trans (prefix_append _ _)
  refine ⟨hgrows, fun id hrunning => hhistory.starts id ?_, fun id hid => hhistory.settles id ?_⟩
  · obtain ⟨reported, hstarts⟩ := hinv.started
    refine (hgrows.filterMap _).subset (Multiset.mem_coe.mp ?_)
    rw [hstarts]
    exact Multiset.mem_add.mpr (.inr (hinv.attended.manned id hrunning))
  · exact (hgrows.filterMap _).subset (hinv.lawful.aged.subset hid)

end GwzCore.SessionHost
