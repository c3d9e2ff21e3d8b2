import GwzCore.Merge.Frame

/-!
# What the parts of the reducer write

One lemma for each function the reducer is built from: the record it answers with is the
stored one with the named fields replaced.
-/
namespace GwzCore.Merge

open Checks

variable {env : Artifacts} {next record : MergeOperationRecordV1} {current : StoredV1Record env}
  {action : PreservationAction} {token : PreservationToken} {marker : PreservationMarker}
  {owner : PreservationOwnerV1}

/-! ## Preservation -/

/-- Writing an evidence row changes a row of the participants or the publication. -/
lemma setEvidence_frame {evidence : PreservationEvidence}
    (h : setEvidence record owner evidence = .ok next) :
    next = { record with participants := next.participants, publication := next.publication } := by
  cases owner with
  | participant =>
    simp only [setEvidence, bind_eq_ok, Except.ok.injEq] at h
    obtain ⟨row, _, preservation, _, rfl⟩ := h
    rfl
  | publicationRoot =>
    simp only [setEvidence, bind_eq_ok, Except.ok.injEq] at h
    obtain ⟨publication, _, preservation, _, rfl⟩ := h
    rfl

lemma setEvidenceIfAny_frame {evidence : Option PreservationEvidence}
    (h : setEvidenceIfAny record owner evidence = .ok next) :
    next = { record with participants := next.participants, publication := next.publication } := by
  cases evidence with
  | none =>
    cases h
    rfl
  | some evidence => exact setEvidence_frame h

/-! ## Frames of the groups -/

/-- Only evidence rows and the journal of preservation are written. -/
def WritesPreservation (old new : MergeOperationRecordV1) : Prop :=
  new = { old with
    participants := new.participants
    publication := new.publication
    pendingPreservation := new.pendingPreservation }

lemma beginPreservation_writes (h : beginPreservation current token action = .ok next) :
    WritesPreservation current.record next := by
  simp only [beginPreservation, require_bind_eq_ok, orRefuse_bind_eq_ok, Except.ok.injEq] at h
  obtain ⟨_, _, _, _, _, _, rfl⟩ := h
  rfl

lemma advancePreservation_writes (h : advancePreservation current token action = .ok next) :
    WritesPreservation current.record next := by
  simp only [advancePreservation, require_bind_eq_ok, orRefuse_bind_eq_ok] at h
  obtain ⟨_, _, _, _, _, _, _, _, _, h⟩ := h
  unfold WritesPreservation
  rw [setEvidenceIfAny_frame h]

lemma finishPreservation_writes (h : finishPreservation current token action = .ok next) :
    WritesPreservation current.record next := by
  simp only [finishPreservation, require_bind_eq_ok, orRefuse_bind_eq_ok] at h
  obtain ⟨_, _, _, _, _, _, _, h⟩ := h
  unfold WritesPreservation
  rw [setEvidenceIfAny_frame h]

lemma recordMarker_writes (h : recordMarker current token marker = .ok next) :
    WritesPreservation current.record next := by
  simp only [recordMarker, require_bind_eq_ok, orRefuse_bind_eq_ok] at h
  obtain ⟨_, _, _, _, _, _, _, _, h⟩ := h
  unfold WritesPreservation
  rw [setEvidence_frame h]

lemma reducePreservation_writes {transition : PreservationTransition}
    (h : reducePreservation current transition = .ok next) :
    current.record.state = .preserving ∧ WritesPreservation current.record next := by
  simp only [reducePreservation, require_bind_eq_ok, beq_iff_eq] at h
  obtain ⟨hstate, h⟩ := h
  refine ⟨hstate, ?_⟩
  cases transition with
  | beginBackupRef | beginStash | beginResetAttachedRef => exact beginPreservation_writes h
  | finishBackupRef | finishStash | finishResetAttachedRef => exact finishPreservation_writes h
  | advanceStash | advanceResetAttachedRef => exact advancePreservation_writes h
  | recordArtifactNoop | recordResetNoop => exact recordMarker_writes h

/-- Rollback writes a row, the publication and its journal. -/
lemma reduceRollback_writes {transition : RollbackTransition}
    (h : reduceRollback current transition = .ok next) :
    current.record.state = .rollingBack ∧ next = { current.record with
      participants := next.participants, publication := next.publication,
      pendingRollback := next.pendingRollback } := by
  simp only [reduceRollback, require_bind_eq_ok, beq_iff_eq] at h
  obtain ⟨hstate, h⟩ := h
  refine ⟨hstate, ?_⟩
  cases transition with
  | beginParticipant =>
    simp only [require_bind_eq_ok, orRefuse_bind_eq_ok, Except.ok.injEq] at h
    obtain ⟨_, _, _, _, rfl⟩ := h
    rfl
  | finishParticipant =>
    simp only [require_bind_eq_ok, Except.ok.injEq] at h
    obtain ⟨_, _, rfl⟩ := h
    rfl
  | beginEvidence | beginSelectedRoot =>
    simp only [require_bind_eq_ok, Except.ok.injEq] at h
    obtain ⟨_, _, _, rfl⟩ := h
    rfl
  | advanceEvidence | finishEvidence | advanceSelectedRoot =>
    simp only [bind_eq_ok, Except.ok.injEq] at h
    obtain ⟨_, _, _, _, _, _, _, _, rfl⟩ := h
    rfl
  | finishSelectedRoot =>
    simp only [bind_eq_ok, Except.ok.injEq] at h
    obtain ⟨_, _, _, _, _, _, rfl⟩ := h
    rfl

/-- Drift is written to a row or to the operation. -/
lemma reduceDrift_cases {transition : DriftTransition}
    (h : reduceDrift current transition = .ok next) :
    (∃ memberId row drift, current.record.participants[memberId]? = some row
      ∧ next = withRow current.record memberId { row with drift := drift })
      ∨ ∃ drift, next = { current.record with operationDrift := drift } := by
  cases transition with
  | recordParticipant | clearParticipant =>
    simp only [reduceDrift, require_bind_eq_ok, orRefuse_bind_eq_ok, Except.ok.injEq] at h
    obtain ⟨_, _, row, hrow, drift, _, rfl⟩ := h
    exact .inl ⟨_, row, drift, hrow, rfl⟩
  | recordOperation =>
    simp only [reduceDrift, require_bind_eq_ok, Except.ok.injEq] at h
    obtain ⟨_, rfl⟩ := h
    exact .inr ⟨_, rfl⟩
  | clearOperation =>
    simp only [reduceDrift, require_bind_eq_ok, orRefuse_bind_eq_ok, Except.ok.injEq] at h
    obtain ⟨_, drift, _, rfl⟩ := h
    exact .inr ⟨drift, rfl⟩

end GwzCore.Merge
