import GwzCore.Merge.Runs

/-!
# Exact footprints and frozen data

What it means for a known field to be the same in two records is said here field by field,
apart from the comparison the reducer runs. The computed difference contains a field
exactly when it is not the same, and records with the same fields and the same frozen data
are equal. So an accepted transition changes exactly the fields of its footprint, and the
frozen data stays along every run.
-/
namespace GwzCore.Merge
open List FiniteMap Std.ExtTreeMap MergeParticipantRecord

open Checks

variable {new old : MergeOperationRecordV1} {before after : MergeParticipantRecord}
  {marks : List (Bool × KnownField)}

attribute [local simp] publicationMarks

/-! ## Frozen data -/

/-- The planned fields of a row and its unknown fields. -/
structure FrozenRow (before after : MergeParticipantRecord) : Prop where
  path : before.path = after.path
  targetKind : before.targetKind = after.targetKind
  targetBranch : before.targetBranch = after.targetBranch
  beforeCommit : before.beforeCommit = after.beforeCommit
  sourceCommit : before.sourceCommit = after.sourceCommit
  commitMessage : before.commitMessage = after.commitMessage
  extensions : before.extensions = after.extensions

/-- The ids, the mode, the baseline, the targets, the keys of the rows with what each row
was planned with, and the unknown fields of the record. -/
structure Frozen (old new : MergeOperationRecordV1) : Prop where
  schema : old.schema = new.schema
  recordSchemaVersion : old.recordSchemaVersion = new.recordSchemaVersion
  workspaceId : old.workspaceId = new.workspaceId
  mergeId : old.mergeId = new.mergeId
  operationId : old.operationId = new.operationId
  sourceRef : old.sourceRef = new.sourceRef
  mode : old.mode = new.mode
  createdAt : old.createdAt = new.createdAt
  baseline : old.baseline = new.baseline
  selectedTargets : old.selectedTargets = new.selectedTargets
  extensions : old.extensions = new.extensions
  keys : ∀ id : String, id ∈ old.participants ↔ id ∈ new.participants
  rows : ∀ (id : String) before after, old.participants[id]? = some before →
    new.participants[id]? = some after → FrozenRow before after

lemma FrozenRow.refl (row : MergeParticipantRecord) : FrozenRow row row :=
  ⟨rfl, rfl, rfl, rfl, rfl, rfl, rfl⟩

lemma FrozenRow.trans {a b c : MergeParticipantRecord} (hab : FrozenRow a b)
    (hbc : FrozenRow b c) : FrozenRow a c where
  path := hab.path.trans hbc.path
  targetKind := hab.targetKind.trans hbc.targetKind
  targetBranch := hab.targetBranch.trans hbc.targetBranch
  beforeCommit := hab.beforeCommit.trans hbc.beforeCommit
  sourceCommit := hab.sourceCommit.trans hbc.sourceCommit
  commitMessage := hab.commitMessage.trans hbc.commitMessage
  extensions := hab.extensions.trans hbc.extensions

lemma mem_participants_iff {record : MergeOperationRecordV1} {id : String} :
    id ∈ record.participants ↔ ∃ row, record.participants[id]? = some row := by
  constructor
  · intro h
    exact ⟨record.participants[id], getElem?_eq_some_getElem h⟩
  · rintro ⟨row, h⟩
    exact mem_iff_isSome_getElem?.mpr (by rw [h]; rfl)

lemma Frozen.refl (record : MergeOperationRecordV1) : Frozen record record := by
  refine ⟨rfl, rfl, rfl, rfl, rfl, rfl, rfl, rfl, rfl, rfl, rfl, fun _ => Iff.rfl, ?_⟩
  intro id before after hbefore hafter
  rw [hbefore] at hafter
  cases hafter
  exact FrozenRow.refl before

lemma Frozen.trans {a b c : MergeOperationRecordV1} (hab : Frozen a b) (hbc : Frozen b c) :
    Frozen a c where
  schema := hab.schema.trans hbc.schema
  recordSchemaVersion := hab.recordSchemaVersion.trans hbc.recordSchemaVersion
  workspaceId := hab.workspaceId.trans hbc.workspaceId
  mergeId := hab.mergeId.trans hbc.mergeId
  operationId := hab.operationId.trans hbc.operationId
  sourceRef := hab.sourceRef.trans hbc.sourceRef
  mode := hab.mode.trans hbc.mode
  createdAt := hab.createdAt.trans hbc.createdAt
  baseline := hab.baseline.trans hbc.baseline
  selectedTargets := hab.selectedTargets.trans hbc.selectedTargets
  extensions := hab.extensions.trans hbc.extensions
  keys id := (hab.keys id).trans (hbc.keys id)
  rows := by
    intro id before after hbefore hafter
    have hmem : id ∈ b.participants := (hab.keys id).mp (mem_participants_iff.mpr ⟨_, hbefore⟩)
    obtain ⟨middle, hmiddle⟩ := mem_participants_iff.mp hmem
    exact (hab.rows id before middle hbefore hmiddle).trans
      (hbc.rows id middle after hmiddle hafter)

lemma sameImmutableRow_iff : sameImmutableRow before after = true ↔ FrozenRow before after := by
  simp only [sameImmutableRow, Bool.and_eq_true, beq_iff_eq]
  constructor
  · rintro ⟨⟨⟨⟨⟨⟨h1, h2⟩, h3⟩, h4⟩, h5⟩, h6⟩, h7⟩
    exact ⟨h1, h2, h3, h4, h5, h6, h7⟩
  · rintro ⟨h1, h2, h3, h4, h5, h6, h7⟩
    exact ⟨⟨⟨⟨⟨⟨h1, h2⟩, h3⟩, h4⟩, h5⟩, h6⟩, h7⟩

/-! ## The same field in two records -/

/-- The outcome fields of a row. -/
structure Outcome where
  state : ParticipantState
  resultingCommit : Option String
  expectedMergeHead : Option String
  conflictPaths : List String
  conflictSnapshot : List ConflictFileEvidence

def MergeParticipantRecord.outcome (row : MergeParticipantRecord) : Outcome :=
  ⟨row.state, row.resultingCommit, row.expectedMergeHead, row.conflictPaths,
    row.conflictSnapshot⟩

def ParticipantField.SameIn (before after : MergeParticipantRecord) : ParticipantField → Prop
  | .pendingAction => before.pendingAction = after.pendingAction
  | .outcome => before.outcome = after.outcome
  | .error => before.error = after.error
  | .preservation => before.preservation = after.preservation
  | .drift => before.drift = after.drift

attribute [local simp] ParticipantField.SameIn

/-- The fields of a publication progress that both records have. -/
def PublicationField.SameIn (before after : PublicationProgress) : PublicationField → Prop
  | .decision => True
  | .candidate => before.candidate = after.candidate
      ∧ before.candidateMarkerPath = after.candidateMarkerPath
      ∧ before.candidateLockSha256 = after.candidateLockSha256
  | .evidence => before.compositionCommit = after.compositionCommit
      ∧ before.compositionTree = after.compositionTree
      ∧ before.rootMergeCommit = after.rootMergeCommit
      ∧ before.candidateHashes = after.candidateHashes
  | .step => before.step = after.step
  | .preservation => before.rootPreservation = after.rootPreservation
      ∧ before.preservationPrefix = after.preservationPrefix
  | .evidenceRollback => before.evidenceRolledBack = after.evidenceRolledBack

/-- A known field is the same in both records. The decision is whether there is a
publication at all; it stands for the whole progress when there was none before. -/
def KnownField.SameIn (old new : MergeOperationRecordV1) : KnownField → Prop
  | .writerVersion => old.writerVersion = new.writerVersion
  | .operationState => old.state = new.state
  | .recoveryContext => old.recoveryContext = new.recoveryContext
  | .acceptance => old.acceptedWorkspace = new.acceptedWorkspace
  | .pendingRollback => old.pendingRollback = new.pendingRollback
  | .pendingPreservation => old.pendingPreservation = new.pendingPreservation
  | .preservationPublicationHandoff =>
    old.preservationPublicationHandoff = new.preservationPublicationHandoff
  | .operationDrift => old.operationDrift = new.operationDrift
  | .participant id field => ∀ before after, old.participants[id]? = some before →
      new.participants[id]? = some after → field.SameIn before after
  | .publication .decision => old.publication.isSome = new.publication.isSome
  | .publication field => ∀ before after, old.publication = some before →
      new.publication = some after → field.SameIn before after

/-- A row is its frozen data and its five fields. -/
lemma row_eq_of_same (hfrozen : FrozenRow before after)
    (hsame : ∀ field : ParticipantField, field.SameIn before after) : before = after := by
  have hpending := hsame .pendingAction
  have houtcome := hsame .outcome
  have herror := hsame .error
  have hpreservation := hsame .preservation
  have hdrift := hsame .drift
  obtain ⟨h1, h2, h3, h4, h5, h6, h7⟩ := hfrozen
  cases before
  cases after
  simp_all [MergeParticipantRecord.outcome]

lemma publication_eq_of_same {before after : PublicationProgress}
    (hsame : ∀ field : PublicationField, field.SameIn before after) : before = after := by
  have hcandidate := hsame .candidate
  have hevidence := hsame .evidence
  have hstep := hsame .step
  have hpreservation := hsame .preservation
  have hrollback := hsame .evidenceRollback
  cases before
  cases after
  simp_all [PublicationField.SameIn]

section
variable (hsame : ∀ field : KnownField, field.SameIn old new)
include hsame

lemma participants_eq_of_same (hfrozen : Frozen old new) : old.participants = new.participants := by
  apply Std.ExtTreeMap.ext_getElem?
  intro id
  rcases hbefore : old.participants[id]? with _ | before
  · rcases hafter : new.participants[id]? with _ | after
    · rfl
    · obtain ⟨row, hrow⟩ := mem_participants_iff.mp
        ((hfrozen.keys id).mpr (mem_participants_iff.mpr ⟨after, hafter⟩))
      rw [hbefore] at hrow
      cases hrow
  · obtain ⟨after, hafter⟩ := mem_participants_iff.mp
      ((hfrozen.keys id).mp (mem_participants_iff.mpr ⟨before, hbefore⟩))
    rw [hafter]
    congr 1
    apply row_eq_of_same (hfrozen.rows id before after hbefore hafter)
    intro field
    exact hsame (.participant id field) before after hbefore hafter

lemma publications_eq_of_same : old.publication = new.publication := by
  have hdecision : old.publication.isSome = new.publication.isSome := hsame (.publication .decision)
  rcases hbefore : old.publication with _ | before
  · rcases hafter : new.publication with _ | after
    · rfl
    · simp [hbefore, hafter] at hdecision
  · rcases hafter : new.publication with _ | after
    · simp [hbefore, hafter] at hdecision
    · congr 1
      apply publication_eq_of_same
      intro field
      have hfield := hsame (.publication field)
      cases field with
      | decision => trivial
      | candidate | evidence | step | preservation | evidenceRollback =>
        exact hfield before after hbefore hafter

/-- The known fields and the frozen data are the whole record. -/
lemma eq_of_same (hfrozen : Frozen old new) : old = new := by
  have hparticipants := participants_eq_of_same hsame hfrozen
  have hpublication := publications_eq_of_same hsame
  have hwriter := hsame .writerVersion
  have hstate := hsame .operationState
  have hrecovery := hsame .recoveryContext
  have hacceptance := hsame .acceptance
  have hrollback := hsame .pendingRollback
  have hpreservation := hsame .pendingPreservation
  have hhandoff := hsame .preservationPublicationHandoff
  have hdrift := hsame .operationDrift
  obtain ⟨h1, h2, h3, h4, h5, h6, h7, h8, h9, h10, h11, -, -⟩ := hfrozen
  cases old
  cases new
  simp_all only [KnownField.SameIn]

end

/-! ## The computed difference is the difference -/

lemma outcomeDiffers_iff : outcomeDiffers before after = true ↔ before.outcome ≠ after.outcome := by
  simp only [outcomeDiffers, Bool.or_eq_true, bne_iff_ne, MergeParticipantRecord.outcome, ne_eq,
    Outcome.mk.injEq]
  tauto

lemma mem_rowMarks {id memberId : String} {field : ParticipantField} :
    (true, KnownField.participant id field) ∈ rowMarks memberId before after ↔
      id = memberId ∧ ¬ field.SameIn before after := by
  cases field with
  | outcome => simp [rowMarks, ← outcomeDiffers_iff, and_comm]
  | pendingAction | error | preservation | drift =>
    simp [rowMarks, and_comm]

/-- Every row of the old record is in the new one with its frozen data, and a row field is
marked exactly when it is not the same in the two rows. -/
lemma rowsMarks_spec {rows : List (String × MergeParticipantRecord)}
    (h : rowsMarks new rows = .ok marks) :
    (∀ id before, (id, before) ∈ rows →
      ∃ after, new.participants[id]? = some after ∧ FrozenRow before after)
      ∧ ∀ known, (true, known) ∈ marks ↔ ∃ id field before after, known = .participant id field
        ∧ (id, before) ∈ rows ∧ new.participants[id]? = some after
        ∧ ¬ field.SameIn before after := by
  induction rows generalizing marks with
  | nil =>
    cases h
    simp
  | cons row rest ih =>
    obtain ⟨memberId, row⟩ := row
    unfold rowsMarks at h
    obtain ⟨after, hafter, h⟩ := bind_eq_ok.mp h
    obtain ⟨hfrozen, h⟩ := bind_unit_eq_ok.mp h
    obtain ⟨later, hlater, h⟩ := bind_eq_ok.mp h
    cases h
    have hafter := orRefuse_eq_ok.mp hafter
    have hfrozen := sameImmutableRow_iff.mp (require_eq_ok.mp hfrozen)
    obtain ⟨hrest, hmarks⟩ := ih hlater
    constructor
    · intro id before hmem
      rcases mem_cons.mp hmem with heq | hmem
      · cases heq
        exact ⟨after, hafter, hfrozen⟩
      · exact hrest id before hmem
    · intro known
      rw [mem_append, hmarks]
      constructor
      · rintro (hknown | ⟨id, field, before, other, rfl, hmem, hother, hdiffers⟩)
        · -- a mark of this row names this row
          obtain ⟨field, rfl⟩ : ∃ field, known = .participant memberId field := by
            simp only [rowMarks, mem_cons, Prod.mk.injEq, not_mem_nil, or_false] at hknown
            rcases hknown with ⟨_, h⟩ | ⟨_, h⟩ | ⟨_, h⟩ | ⟨_, h⟩ | ⟨_, h⟩ <;> exact ⟨_, h⟩
          exact ⟨memberId, field, row, after, rfl, mem_cons_self, hafter,
            (mem_rowMarks.mp hknown).2⟩
        · exact ⟨id, field, before, other, rfl, mem_cons_of_mem _ hmem, hother, hdiffers⟩
      · rintro ⟨id, field, before, other, rfl, hmem, hother, hdiffers⟩
        rcases mem_cons.mp hmem with heq | hmem
        · cases heq
          rw [hafter] at hother
          cases hother
          exact .inl (mem_rowMarks.mpr ⟨rfl, hdiffers⟩)
        · exact .inr ⟨id, field, before, other, rfl, hmem, hother, hdiffers⟩

lemma mem_publicationMarks {old new : Option PublicationProgress} {known : KnownField} :
    (true, known) ∈ publicationMarks old new ↔
      (known = .publication .decision ∧ old.isSome ≠ new.isSome)
        ∨ ∃ field before after, known = .publication field ∧ old = some before
          ∧ new = some after ∧ ¬ field.SameIn before after := by
  rcases old with _ | before <;> rcases new with _ | after
  · simp
  · simp
  · simp
  · constructor
    · intro h
      simp only [publicationMarks, mem_cons, Prod.mk.injEq, not_mem_nil, or_false,
        eq_comm (a := true), Bool.or_eq_true, bne_iff_ne] at h
      right
      rcases h with ⟨h, rfl⟩ | ⟨h, rfl⟩ | ⟨h, rfl⟩ | ⟨h, rfl⟩ | ⟨h, rfl⟩
      · exact ⟨.step, before, after, rfl, rfl, rfl, h⟩
      · exact ⟨.candidate, before, after, rfl, rfl, rfl, by
          simp only [PublicationField.SameIn]; tauto⟩
      · exact ⟨.evidence, before, after, rfl, rfl, rfl, by
          simp only [PublicationField.SameIn]; tauto⟩
      · exact ⟨.preservation, before, after, rfl, rfl, rfl, by
          simp only [PublicationField.SameIn]; tauto⟩
      · exact ⟨.evidenceRollback, before, after, rfl, rfl, rfl, h⟩
    · rintro (⟨rfl, h⟩ | ⟨field, _, _, rfl, hbefore, hafter, hdiffers⟩)
      · simp at h
      · cases hbefore
        cases hafter
        cases field with
        | decision => exact absurd trivial hdiffers
        | candidate | evidence | preservation =>
          simp only [PublicationField.SameIn] at hdiffers
          simp
          tauto
        | step | evidenceRollback =>
          simpa [PublicationField.SameIn] using hdiffers

lemma frozen_of_knownDiff (hdata : sameImmutableData old new = true)
    (hrows : rowsMarks new old.participants.toList = .ok marks) : Frozen old new := by
  simp only [sameImmutableData, Bool.and_eq_true, beq_iff_eq] at hdata
  obtain ⟨⟨⟨⟨⟨⟨⟨⟨⟨⟨⟨h1, h2⟩, h3⟩, h4⟩, h5⟩, h6⟩, h7⟩, h8⟩, h9⟩, h10⟩, h11⟩, hkeys⟩ := hdata
  refine ⟨h1, h2, h3, h4, h5, h6, h7, h8, h9, h10, h11, ?_, ?_⟩
  · intro id
    rw [← Std.ExtTreeMap.mem_keys, hkeys, Std.ExtTreeMap.mem_keys]
  · intro id before after hbefore hafter
    obtain ⟨other, hother, hfrozen⟩ :=
      (rowsMarks_spec hrows).1 id before (mem_toList.mpr hbefore)
    rw [hafter] at hother
    cases hother
    exact hfrozen

/-- The computed difference holds exactly the fields that are not the same, the writer
version apart, and it is computed only of records with the same frozen data. -/
lemma actualDiff_spec {changed : Finset KnownField} (h : actualDiff old new = .ok changed) :
    Frozen old new
      ∧ ∀ field, field ∈ changed ↔ field ≠ .writerVersion ∧ ¬ field.SameIn old new := by
  unfold actualDiff at h
  obtain ⟨known, hknown, h⟩ := bind_eq_ok.mp h
  cases h
  unfold knownDiff at hknown
  obtain ⟨hdata, hknown⟩ := bind_unit_eq_ok.mp hknown
  obtain ⟨marks, hmarks, hknown⟩ := bind_eq_ok.mp hknown
  cases hknown
  refine ⟨frozen_of_knownDiff (require_eq_ok.mp hdata) hmarks, ?_⟩
  intro field
  simp only [Finset.mem_erase, Finset.mem_union, mem_changedFields, mem_append,
    (rowsMarks_spec hmarks).2, mem_publicationMarks, mem_toList]
  apply and_congr_right
  intro hfield
  cases field with
  | writerVersion => exact absurd rfl hfield
  | operationState | recoveryContext | acceptance | pendingRollback | pendingPreservation
  | preservationPublicationHandoff | operationDrift | participant =>
    simp [operationMarks, KnownField.SameIn]
  | publication field =>
    cases field <;> simp [operationMarks, KnownField.SameIn, PublicationField.SameIn]

/-- A difference without fields leaves nothing but the writer version to differ. -/
lemma eq_of_actualDiff_empty (h : actualDiff old new = .ok ∅) :
    { old with writerVersion := new.writerVersion } = new := by
  obtain ⟨hfrozen, hfields⟩ := actualDiff_spec h
  have hsame : ∀ field : KnownField, field ≠ .writerVersion → field.SameIn old new := by
    intro field hfield
    by_contra hdiffers
    exact absurd ((hfields field).mpr ⟨hfield, hdiffers⟩) (Finset.notMem_empty field)
  apply eq_of_same
  · intro field
    by_cases hfield : field = .writerVersion
    · subst hfield
      rfl
    · have hsame := hsame field hfield
      cases field with
      | writerVersion => exact absurd rfl hfield
      | publication field => cases field <;> exact hsame
      | _ => exact hsame
  · exact { hfrozen with }

/-! ## Accepted transitions -/

lemma verifyKnownDiff_eq_ok {effect : TransitionEffect} :
    verifyKnownDiff old new effect = .ok () ↔
      new.writerVersion = packageVersion ∧ ∃ changed, actualDiff old new = .ok changed
        ∧ expectedDiff old new effect = .ok changed := by
  unfold verifyKnownDiff verifyFootprint
  rw [bind_unit_eq_ok, require_eq_ok, beq_iff_eq]
  apply and_congr_right
  intro _
  constructor
  · intro h
    obtain ⟨actual, hactual, h⟩ := bind_eq_ok.mp h
    obtain ⟨expected, hexpected, h⟩ := bind_eq_ok.mp h
    rw [require_eq_ok, beq_iff_eq] at h
    subst h
    exact ⟨actual, hactual, hexpected⟩
  · rintro ⟨changed, hactual, hexpected⟩
    exact bind_eq_ok.mpr ⟨changed, hactual, bind_eq_ok.mpr
      ⟨changed, hexpected, require_eq_ok.mpr (beq_iff_eq.mpr rfl)⟩⟩

lemma prepare_frozen {env : Artifacts} {lease : V1MutationLease} {current : StoredV1Record env}
    {transition : V1Transition} {rewrite : PreparedV1Rewrite}
    (h : prepare lease current transition = .ok rewrite) : Frozen current.record rewrite.next := by
  obtain ⟨_, _, hdiff, _⟩ := prepare_eq_ok.mp h
  obtain ⟨_, changed, hactual, _⟩ := verifyKnownDiff_eq_ok.mp hdiff
  exact (actualDiff_spec hactual).1

lemma run_frozen {env : Artifacts} (current : StoredV1Record env) (moves : List Move) :
    Frozen current.record (Steps.run step current moves).record :=
  run_rel Frozen.refl (fun _ _ _ _ h => prepare_frozen h) current (fun _ _ _ => Frozen.trans) moves

/-! ## Outcomes -/

/-- The outcome a transition records. -/
def ParticipantTransition.outcome :
    ParticipantTransition → Option (BoundValue ParticipantActionPayload)
  | .recordOutcome proof | .recordHaltedOutcomeAndResumeExecution proof
  | .recordHaltedOutcomeAndBeginRollback proof _
  | .recordHaltedOutcomeAndBeginPreservation proof _ => some proof
  | _ => none

section

variable {env : Artifacts} {current : StoredV1Record env} {transition : ParticipantTransition}
  {proof : BoundValue ParticipantActionPayload} (h : transition.outcome = some proof)
include h

lemma recordOutcome_of_reduce {written : MergeOperationRecordV1}
    (hreduce : reduceParticipant current transition = .ok written) :
    ∃ halted next, recordOutcome current proof halted = .ok next
      ∧ written.participants = next.participants := by
  cases transition <;> cases h <;>
    simp only [reduceParticipant, installPreservationHandoff, bind_eq_ok, Except.ok.injEq]
      at hreduce
  · obtain ⟨next, hnext, _, _, rfl⟩ := hreduce
    exact ⟨_, next, hnext, rfl⟩
  · obtain ⟨_, _, next, hnext, _, _, rfl⟩ := hreduce
    exact ⟨_, next, hnext, rfl⟩
  · obtain ⟨_, _, next, hnext, _, _, _, _, _, _, rfl⟩ := hreduce
    exact ⟨_, next, hnext, rfl⟩
  · obtain ⟨_, _, next, hnext, _, _, _, _, _, ⟨_, _, _, _, rfl⟩, rfl⟩ := hreduce
    exact ⟨_, next, hnext, rfl⟩

/-- An accepted outcome retires the pending action of its row. -/
lemma outcome_retires {lease : V1MutationLease} {rewrite : PreparedV1Rewrite}
    (hprepare : prepare lease current (.participant transition) = .ok rewrite) :
    ∃ before after, current.record.participants[proof.value.memberId]? = some before
      ∧ before.pendingAction ≠ none
      ∧ rewrite.next.participants[proof.value.memberId]? = some after
      ∧ after.pendingAction = none := by
  obtain ⟨_, hnext, _⟩ := prepare_eq_ok.mp hprepare
  obtain ⟨written, hwritten, hstamp, _⟩ := applyTransition_eq_ok.mp hnext
  obtain ⟨_, next, hrecorded, hparticipants⟩ := recordOutcome_of_reduce h hwritten
  simp only [recordOutcome, require_bind_eq_ok, orRefuse_bind_eq_ok, Bool.and_eq_true,
    Except.ok.injEq] at hrecorded
  obtain ⟨_, _, _, before, hbefore, hpending, ⟨hnone, _⟩, rfl⟩ := hrecorded
  refine ⟨before, proof.value.row, hbefore, Option.isSome_iff_ne_none.mp hpending, ?_,
    Option.isNone_iff_eq_none.mp hnone⟩
  rw [hstamp, stamp, hparticipants]
  exact get_insert_self _ _ _

end

/-- An accepted transition changes exactly the fields of its footprint and nothing else:
the known fields and the frozen data are the whole record, and two records without a
computed difference are equal up to the writer version. So the frozen data is the same
after every run. An accepted outcome leaves nothing of the pending action it retires. -/
theorem accepted_changes_exactly_footprint (env : Artifacts) :
    (∀ (lease : V1MutationLease) (current : StoredV1Record env) transition rewrite,
      prepare lease current transition = .ok rewrite →
        ∃ expected, expectedDiff current.record rewrite.next transition.effect = .ok expected
          ∧ (∀ field, field ∈ expected ↔
            field ≠ .writerVersion ∧ ¬ field.SameIn current.record rewrite.next)
          ∧ Frozen current.record rewrite.next)
      ∧ (∀ old new, Frozen old new → (∀ field : KnownField, field.SameIn old new) → old = new)
      ∧ (∀ old new, actualDiff old new = .ok ∅ →
        { old with writerVersion := new.writerVersion } = new)
      ∧ (∀ (current : StoredV1Record env) (moves : List Move),
        Frozen current.record (Steps.run step current moves).record)
      ∧ ∀ (lease : V1MutationLease) (current : StoredV1Record env) transition proof rewrite,
        transition.outcome = some proof →
        prepare lease current (.participant transition) = .ok rewrite →
          ∃ before after, current.record.participants[proof.value.memberId]? = some before
            ∧ before.pendingAction ≠ none
            ∧ rewrite.next.participants[proof.value.memberId]? = some after
            ∧ after.pendingAction = none := by
  refine ⟨?_, fun _ _ hfrozen hsame => eq_of_same hsame hfrozen, fun _ _ => eq_of_actualDiff_empty,
    run_frozen, fun _ _ _ _ _ h hprepare => outcome_retires h hprepare⟩
  intro lease current transition rewrite h
  obtain ⟨_, _, hdiff, _⟩ := prepare_eq_ok.mp h
  obtain ⟨_, changed, hactual, hexpected⟩ := verifyKnownDiff_eq_ok.mp hdiff
  obtain ⟨hfrozen, hfields⟩ := actualDiff_spec hactual
  exact ⟨changed, hexpected, hfields, hfrozen⟩

namespace Sample

/-- A row with an intent that carries an unknown field. -/
def extendedRow : MergeParticipantRecord :=
  { row "a" with
    pendingAction := some { pending with extensions := .ofList [("note", Yaml.scalar .null)] } }

/-- The same row once it is fast-forwarded. -/
def forwardedRow : MergeParticipantRecord :=
  { row "a" with state := .fastForwarded, resultingCommit := some (oid 'b') }

def extended : StoredV1Record artifacts :=
  ⟨record .executing extendedRow (row "b"), "0", location, by decide +kernel⟩

def outcomeOfExtended : V1Transition :=
  .participant (.recordOutcome (BoundValue.new extended "mem_a" "participant_outcome" "completed"
    ⟨"mem_a", forwardedRow⟩))

end Sample

/-- Recording the outcome of the extended row changes its pending action and its outcome. -/
theorem outcomeOfExtended_footprint :
    ∃ rewrite, prepare Sample.lease Sample.extended Sample.outcomeOfExtended = .ok rewrite
      ∧ (∀ field : KnownField, field ∈ ({.participant "mem_a" .pendingAction,
          .participant "mem_a" .outcome} : Finset KnownField) ↔
        field ≠ .writerVersion ∧ ¬ field.SameIn Sample.extended.record rewrite.next)
      ∧ Frozen Sample.extended.record rewrite.next := by
  have hprepared : prepare Sample.lease Sample.extended Sample.outcomeOfExtended =
      .ok ⟨"0", Sample.record .executing Sample.forwardedRow (Sample.row "b"),
        Sample.outcomeOfExtended.effect⟩ := by decide +kernel
  obtain ⟨expected, hexpected, hfields, hfrozen⟩ :=
    (accepted_changes_exactly_footprint Sample.artifacts).1 _ _ _ _ hprepared
  have hlisted : expectedDiff Sample.extended.record
      (Sample.record .executing Sample.forwardedRow (Sample.row "b"))
      Sample.outcomeOfExtended.effect =
      .ok {.participant "mem_a" .pendingAction, .participant "mem_a" .outcome} := by
    decide +kernel
  rw [hlisted] at hexpected
  cases hexpected
  exact ⟨_, hprepared, hfields, hfrozen⟩

/-- The known difference alone misses the handoff to preservation, and an accepted outcome
retires the unknown fields of the pending action it completes. -/
theorem knownDiff_misses_handoff_and_outcome_drops_extensions :
    (∃ old new : MergeOperationRecordV1, knownDiff old new = .ok ∅
      ∧ { old with writerVersion := new.writerVersion } ≠ new)
      ∧ ∃ rewrite, prepare Sample.lease Sample.extended Sample.outcomeOfExtended = .ok rewrite
        ∧ (Sample.extended.record.participants["mem_a"]?.bind (·.pendingAction)).any
          (fun action => action.extensions.contains "note") = true
        ∧ (rewrite.next.participants["mem_a"]?.bind (·.pendingAction)) = none := by
  refine ⟨⟨Sample.record .preserving (Sample.row "a") (Sample.row "b"),
    { Sample.record .preserving (Sample.row "a") (Sample.row "b") with
      preservationPublicationHandoff := some .noCandidate }, ?_, ?_⟩, ?_⟩
  · decide +kernel
  · decide +kernel
  · refine ⟨⟨"0", Sample.record .executing Sample.forwardedRow (Sample.row "b"),
      Sample.outcomeOfExtended.effect⟩, ?_, ?_, ?_⟩
    · decide +kernel
    · decide +kernel
    · decide +kernel

end GwzCore.Merge
