import GwzCore.Merge.Frame
import GwzCore.Merge.Moved

/-!
# Which transitions are prepared

A transition is prepared if the lease covers the record, the reducer writes a record that
is valid once stamped, and the footprint of its effect lists exactly the fields that then
differ. The computed difference exists whenever the frozen data is the same, so it need not
be computed again.
-/
namespace GwzCore.Merge
open FiniteMap Finset

open Checks

variable {env : Artifacts} {new old written : MergeOperationRecordV1} {state : OperationState}
  {current : StoredV1Record env} {transition : V1Transition} {lease : V1MutationLease}
  {context : Option RecoveryContextV1} {fields : Finset KnownField}

lemma rowsMarks_of_frozen {rows : List (String × MergeParticipantRecord)}
    (h : ∀ id before, (id, before) ∈ rows →
      ∃ after, new.participants[id]? = some after ∧ FrozenRow before after) :
    ∃ marks, rowsMarks new rows = .ok marks := by
  induction rows with
  | nil => exact ⟨[], rfl⟩
  | cons row rest ih =>
    obtain ⟨memberId, before⟩ := row
    obtain ⟨after, hafter, hfrozen⟩ := h memberId before List.mem_cons_self
    obtain ⟨later, hlater⟩ := ih fun id row hmem => h id row (List.mem_cons_of_mem _ hmem)
    refine ⟨rowMarks memberId before after ++ later, ?_⟩
    simp only [rowsMarks, orRefuse_bind_eq_ok, require_bind_eq_ok, sameImmutableRow_iff]
    exact ⟨after, hafter, hfrozen, bind_eq_ok.mpr ⟨later, hlater, rfl⟩⟩

lemma sameImmutableData_of_frozen (h : Frozen old new) : sameImmutableData old new = true := by
  simp only [sameImmutableData, Bool.and_eq_true, beq_iff_eq]
  exact ⟨⟨⟨⟨⟨⟨⟨⟨⟨⟨⟨h.schema, h.recordSchemaVersion⟩, h.workspaceId⟩, h.mergeId⟩, h.operationId⟩,
    h.sourceRef⟩, h.mode⟩, h.createdAt⟩, h.baseline⟩, h.selectedTargets⟩, h.extensions⟩,
    keys_eq_of_mem_iff h.keys⟩

lemma actualDiff_of_frozen (h : Frozen old new) : ∃ changed, actualDiff old new = .ok changed := by
  obtain ⟨marks, hmarks⟩ : ∃ marks, rowsMarks new old.participants.toList = .ok marks := by
    apply rowsMarks_of_frozen
    intro id before hmem
    have hbefore := mem_toList.mp hmem
    obtain ⟨after, hafter⟩ := mem_participants_iff.mp
      ((h.keys id).mp (mem_participants_iff.mpr ⟨before, hbefore⟩))
    exact ⟨after, hafter, h.rows id before after hbefore hafter⟩
  have hknown : knownDiff old new = .ok (changedFields
      (operationMarks old new ++ marks ++ publicationMarks old.publication new.publication)) := by
    simp only [knownDiff, require_bind_eq_ok]
    exact ⟨sameImmutableData_of_frozen h, bind_eq_ok.mpr ⟨marks, hmarks, rfl⟩⟩
  exact ⟨_, bind_eq_ok.mpr ⟨_, hknown, rfl⟩⟩

/-! ## A move of the state -/

lemma frozen_moved (record : MergeOperationRecordV1) (state : OperationState)
    (context : Option RecoveryContextV1) : Frozen record (moved record state context) :=
  ⟨rfl, rfl, rfl, rfl, rfl, rfl, rfl, rfl, rfl, rfl, rfl, fun _ => Iff.rfl,
    (Frozen.refl record).rows⟩

/-- A move changes the state and the recovery only, the writer version apart. -/
lemma sameIn_moved {record : MergeOperationRecordV1} (field : KnownField)
    (hwriter : field ≠ .writerVersion) (hstate : field ≠ .operationState)
    (hcontext : field ≠ .recoveryContext) : field.SameIn record (moved record state context) := by
  cases field with
  | writerVersion => exact absurd rfl hwriter
  | operationState => exact absurd rfl hstate
  | recoveryContext => exact absurd rfl hcontext
  | participant id field =>
    intro before after hbefore hafter
    cases hbefore.symm.trans hafter
    cases field <;> rfl
  | publication field =>
    cases field with
    | decision => rfl
    | _ =>
      intro before after hbefore hafter
      cases hbefore.symm.trans hafter
      simp [PublicationField.SameIn]
  | _ => rfl

/-- A transition that moves the state is prepared if the record it gives is valid. -/
lemma prepare_of_moved (hcovers : lease.covers current.location = true)
    (hwritten : reduce current transition
      = .ok { current.record with state := state, recoveryContext := context })
    (hvalid : validateV1Record env (moved current.record state context) = .ok ())
    (hexpected : expectedDiff current.record (moved current.record state context) transition.effect
      = .ok fields)
    (hstate : current.record.state ≠ state)
    (hfields : ∀ field, field ∈ fields ↔ field = .operationState
      ∨ field = .recoveryContext ∧ current.record.recoveryContext ≠ context) :
    ∃ rewrite, prepare lease current transition = .ok rewrite
      ∧ rewrite.next = moved current.record state context := by
  obtain ⟨changed, hchanged⟩ := actualDiff_of_frozen (frozen_moved current.record state context)
  have heq : changed = fields := by
    ext field
    rw [(actualDiff_spec hchanged).2 field, hfields]
    by_cases hsame : field = .writerVersion ∨ field = .operationState ∨ field = .recoveryContext
    · rcases hsame with rfl | rfl | rfl <;> simp [KnownField.SameIn, moved, stamp, hstate]
    · push Not at hsame
      simp [hsame, sameIn_moved field hsame.1 hsame.2.1 hsame.2.2]
  subst heq
  refine ⟨⟨current.sourceDigest, moved current.record state context, transition.effect⟩,
    prepare_eq_ok.mpr ⟨hcovers, applyTransition_eq_ok.mpr ⟨_, hwritten, rfl, hvalid⟩, ?_, rfl, rfl⟩,
    rfl⟩
  exact verifyKnownDiff_eq_ok.mpr ⟨rfl, changed, hchanged, hexpected⟩

end GwzCore.Merge
