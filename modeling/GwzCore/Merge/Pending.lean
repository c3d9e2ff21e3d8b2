import GwzCore.Merge.Ambiguity

/-!
# Pending work

A record journals what it is about to do: a forward action in a participant's row, a step of
the rollback, or a step of the preservation. The validators let one kind of work be pending at
a time and only in the states whose transitions finish it. Once the work stands at its last
phase, the reducer accepts the transition that finishes it, with tokens bound to the record.
-/
namespace GwzCore.Merge
open FiniteMap

open Checks

inductive PendingWork where
  | forward
  | rollback
  | preservation
  deriving DecidableEq

/-- Work of this kind is pending in the record. -/
def PendingWork.isPending (record : MergeOperationRecordV1) : PendingWork → Bool
  | .forward => (rows record).any (·.pendingAction.isSome)
  | .rollback => record.pendingRollback.isSome
  | .preservation => record.pendingPreservation.isSome

attribute [local simp] PendingWork.isPending

/-- The states in which work of this kind may be pending. -/
def PendingWork.isAllowedIn : PendingWork → OperationState → Bool
  | .forward, .executing | .forward, .halted => true
  | .rollback, .rollingBack => true
  | .preservation, .preserving => true
  | _, _ => false

attribute [local simp] PendingWork.isAllowedIn

/-- The journals stand at their last phase. A forward action, the rollback of a participant and
a backup have one phase only. -/
def isAtLastPhase (record : MergeOperationRecordV1) : Bool :=
  (record.pendingRollback.all fun
    | .participant _ _ _ => true
    | .publicationEvidence step => step == .complete
    | .selectedRootMetadata step => step == .complete)
  && record.pendingPreservation.all fun action =>
    match action.position with
    | .backupRef => true
    | .stash phase => phase == .complete
    | .resetAttachedRef phase => phase == .complete

/-- The transition that finishes a preservation of this kind. -/
def PreservationAction.finish : PreservationAction → PreservationToken → PreservationTransition
  | .backup => .finishBackupRef
  | .stash => .finishStash
  | .reset => .finishResetAttachedRef

/-- The transition is the one that finishes what is pending. -/
def PendingWork.IsFinishedBy (record : MergeOperationRecordV1) (transition : V1Transition) :
    PendingWork → Prop
  | .forward => ∃ proof : BoundValue ParticipantActionPayload,
      transition = .participant (.recordOutcome proof)
      ∧ (record.participants[proof.value.memberId]?.any (·.pendingAction.isSome)) = true
  | .rollback => match record.pendingRollback with
    | none => False
    | some (.participant memberId _ terminal) => ∃ proof : BoundValue ParticipantActionPayload,
        transition = .rollback (.finishParticipant proof) ∧ proof.value.memberId = memberId
        ∧ proof.value.row.state = terminal
    | some (.publicationEvidence _) => ∃ proof, transition = .rollback (.finishEvidence proof)
    | some (.selectedRootMetadata _) =>
        ∃ proof, transition = .rollback (.finishSelectedRoot proof)
  | .preservation => ∃ action token, record.pendingPreservation = some action
      ∧ transition = .preservation (action.kind.finish token) ∧ token.value.owner = action.owner

/-- The reducer accepts the transition that finishes the work, with tokens bound to the record,
and nothing is pending afterwards. -/
def PendingWork.IsFinishable {env : Artifacts} (work : PendingWork)
    (current : StoredV1Record env) : Prop :=
  ∃ transition written, work.IsFinishedBy current.record transition
    ∧ reduce current transition = .ok written ∧ noActions written = true

/-- Every record in this state with work of this kind in its last phase can finish it. -/
def PendingWork.IsFinishedIn (work : PendingWork) (state : OperationState) : Prop :=
  ∀ (env : Artifacts) (current : StoredV1Record env), current.record.state = state →
    work.isPending current.record = true → isAtLastPhase current.record = true →
    work.IsFinishable current

variable {env : Artifacts} {record written : MergeOperationRecordV1} {work : PendingWork}
  {current : StoredV1Record env} {state : OperationState} {id memberId : String}
  {row before : MergeParticipantRecord} {owner : PreservationOwnerV1}
  {action : PendingPreservationActionV1}

/-! ## What a valid record has pending -/

section

variable (hvalid : validateV1Record env record = .ok ())
include hvalid

lemma isAllowedIn_of_pending (h : work.isPending record = true) :
    work.isAllowedIn (effective record) = true := by
  obtain ⟨_, hforward, hreverse⟩ := states_of_valid hvalid
  cases work with
  | forward =>
    have hcount : forwardPendingCount record ≠ 0 := by
      rw [forwardPendingCount, ne_eq, List.countP_eq_zero]
      simpa [Option.isSome_iff_ne_none] using h
    simp only [forwardPendingIsLegal, Bool.and_eq_true, Bool.or_eq_true, beq_iff_eq, hcount,
      false_or] at hforward
    rcases hforward.2 with hstate | hstate <;> rw [hstate] <;> rfl
  | rollback =>
    have hpending : record.pendingRollback.isNone = false := by simpa using h
    cases hstate : effective record <;> simp_all [reversePendingIsLegal]
  | preservation =>
    cases hstate : effective record <;> simp_all [reversePendingIsLegal]

lemma pending_unique {other : PendingWork} (h : work.isPending record = true)
    (hother : other.isPending record = true) : work = other := by
  have hwork := isAllowedIn_of_pending hvalid h
  have hstate := isAllowedIn_of_pending hvalid hother
  cases work <;> cases other <;> cases heffective : effective record <;>
    simp_all

lemma forwardPendingCount_le_one : forwardPendingCount record ≤ 1 := by
  obtain ⟨_, hforward, _⟩ := states_of_valid hvalid
  simp only [forwardPendingIsLegal, Bool.and_eq_true, decide_eq_true_eq] at hforward
  exact hforward.1

/-- One row at most is pending. -/
lemma not_pending_of_ne (hbefore : record.participants[memberId]? = some before)
    (hpending : before.pendingAction.isSome = true) (hne : id ≠ memberId)
    (hrow : record.participants[id]? = some row) : row.pendingAction = none := by
  have hcount := forwardPendingCount_le_one hvalid
  rw [forwardPendingCount, rows, List.countP_map] at hcount
  have hrest : (record.participants.toList.erase (memberId, before)).countP
      (·.2.pendingAction.isSome) = 0 := by
    rw [List.countP_erase, if_pos ⟨mem_toList.mpr hbefore, hpending⟩]
    exact Nat.sub_eq_zero_of_le hcount
  have hother : (id, row) ∈ record.participants.toList.erase (memberId, before) :=
    (List.mem_erase_of_ne (by simp [hne])).mpr (mem_toList.mpr hrow)
  simpa using List.countP_eq_zero.mp hrest _ hother

/-- While one kind of work is pending, the others are not. -/
lemma not_pending_of_pending (other : PendingWork) (h : work.isPending record = true)
    (hne : work ≠ other) : other.isPending record = false := by
  rw [← Bool.not_eq_true]
  exact fun hother => hne (pending_unique hvalid h hother)

lemma row_not_pending (h : work.isPending record = true) (hne : work ≠ .forward)
    (hrow : record.participants[id]? = some row) : row.pendingAction = none := by
  have hnone := List.any_eq_false.mp (not_pending_of_pending hvalid _ h hne)
  simpa using hnone row (mem_rows.mpr ⟨id, hrow⟩)

end

lemma noActions_of (hrows : ∀ (id : String) row, written.participants[id]? = some row →
      row.pendingAction = none) (hrollback : written.pendingRollback = none)
    (hpreservation : written.pendingPreservation = none) : noActions written = true := by
  simp only [noActions, noForward, noJournals, hrollback, hpreservation, Bool.and_eq_true,
    List.all_eq_true, Option.isNone_none, and_self, and_true, Option.isNone_iff_eq_none]
  intro row hrow
  obtain ⟨id, hget⟩ := mem_rows.mp hrow
  exact hrows id row hget

/-- Nothing is pending once the one row that may be is replaced. -/
lemma noActions_withRow (hrow : row.pendingAction = none)
    (hothers : ∀ (id : String) other, id ≠ memberId → record.participants[id]? = some other →
      other.pendingAction = none) (hrollback : record.pendingRollback = none)
    (hpreservation : record.pendingPreservation = none) :
    noActions (withRow record memberId row) = true := by
  refine noActions_of (fun id other hget => ?_) hrollback hpreservation
  rcases get_insert_eq_some.mp hget with ⟨_, rfl⟩ | ⟨hne, hother⟩
  · exact hrow
  · exact hothers id other (Ne.symm hne) hother

lemma matches_new {α : Type} (phase name : String) (value : α) :
    (BoundValue.new current id name phase value).matches current id name phase = true := by
  simp [BoundValue.matches, BoundValue.sameRecord, BoundValue.new]

/-! ## Forward actions -/

/-- The row of a participant whose action met a conflict. -/
def MergeParticipantRecord.inConflict (row : MergeParticipantRecord) : MergeParticipantRecord :=
  { row with
    state := .conflicted
    expectedMergeHead := some row.sourceCommit
    conflictPaths := row.path :: row.conflictPaths
    pendingAction := none }

section

variable (hrow : current.record.participants[memberId]? = some row)
include hrow

/-- A conflict keeps the error of its row, so what halted the operation halts it still. -/
lemma hasHaltCause_inConflict (hstate : current.record.state = .halted) :
    hasHaltCause (withRow current.record memberId row.inConflict) = true := by
  have hstates := (states_of_valid current.valid).1
  rw [effective_of_ne (by simp [hstate]), hstate] at hstates
  simp only [participantStatesAreLegal, Bool.and_eq_true, List.any_eq_true] at hstates
  obtain ⟨cause, hmem, hcause⟩ := hstates.1
  obtain ⟨id, hget⟩ := mem_rows.mp hmem
  refine List.any_eq_true.mpr ?_
  by_cases heq : memberId = id
  · subst heq
    rw [hrow] at hget
    cases hget
    refine ⟨row.inConflict, mem_rows.mpr ⟨memberId, get_insert_self _ _ _⟩, ?_⟩
    have hshape := rowShape_of_row current.valid hrow
    simp only [rowShape, errorIsLegal, Bool.and_eq_true] at hshape
    simp only [MergeParticipantRecord.isHaltCause, Bool.or_eq_true, Bool.and_eq_true,
      beq_iff_eq] at hcause
    rcases hcause with hfailed | ⟨_, herror⟩ <;>
      simp_all [MergeParticipantRecord.isHaltCause, MergeParticipantRecord.inConflict]
  · exact ⟨cause, mem_rows.mpr ⟨id, (get_insert_of_ne _ _ heq).trans hget⟩, hcause⟩

lemma forward_finished (hpending : row.pendingAction.isSome = true)
    (hstate : current.record.state = .executing ∨ current.record.state = .halted) :
    PendingWork.forward.IsFinishable current := by
  have h := integrating_of_valid current.valid (by rcases hstate with h | h <;> rw [h] <;> rfl)
  let proof : BoundValue ParticipantActionPayload :=
    .new current memberId "participant_outcome" "completed" ⟨memberId, row.inConflict⟩
  have hrecorded : recordOutcome current proof false
      = .ok (withRow current.record memberId row.inConflict) := by
    simp only [recordOutcome, require_bind_eq_ok, orRefuse_bind_eq_ok]
    exact ⟨by rcases hstate with h | h <;> simp [h], rfl, matches_new .., row, hrow, hpending, rfl,
      rfl⟩
  refine ⟨_, _, ⟨proof, rfl, ?_⟩, bind_eq_ok.mpr ⟨_, hrecorded, require_bind_eq_ok.mpr ⟨?_, rfl⟩⟩,
    noActions_withRow rfl (fun id other => not_pending_of_ne current.valid hrow hpending)
      h.pendingRollback h.pendingPreservation⟩
  · simp [proof, BoundValue.new, hrow, hpending]
  · rcases hstate with hstate | hstate
    · simp [hstate]
    · simp [hasHaltCause_inConflict hrow hstate]

end

/-! ## Rollback -/

lemma rollback_finished (hstate : current.record.state = .rollingBack)
    (hpending : current.record.pendingRollback.isSome = true)
    (hlast : isAtLastPhase current.record = true) : PendingWork.rollback.IsFinishable current := by
  have hrolling : (current.record.state == .rollingBack) = true := beq_iff_eq.mpr hstate
  have hwork : PendingWork.rollback.isPending current.record = true := hpending
  have hrows : ∀ (id : String) row, current.record.participants[id]? = some row →
      row.pendingAction = none := fun _ _ => row_not_pending current.valid hwork (by simp)
  have hpreservation : current.record.pendingPreservation = none := by
    simpa using not_pending_of_pending current.valid .preservation hwork (by simp)
  obtain ⟨_, _, _, _, _, hjournal⟩ := validateV1Record_eq_ok.mp current.valid
  obtain ⟨action, haction⟩ := Option.isSome_iff_exists.mp hpending
  have hchecked := (bind_unit_eq_ok.mp
    ((validateV1Journal_eq_ok.mp hjournal).2.2.2.1 action haction)).2
  simp only [isAtLastPhase, haction, Option.all_some, Bool.and_eq_true] at hlast
  simp only [PendingWork.IsFinishable, PendingWork.IsFinishedBy, haction]
  cases action with
  | participant memberId action terminal =>
    cases hrow : current.record.participants[memberId]? with
    | none => simp [participantRollbackIsValid, hrow] at hchecked
    | some row =>
      have hwritten : reduce current (.rollback (.finishParticipant (.new current memberId
            "finish_participant_rollback" "completed" ⟨memberId, { row with state := terminal }⟩)))
          = .ok (withRow { current.record with pendingRollback := none } memberId
            { row with state := terminal }) := by
        simp only [reduce, reduceRollback, haction, require_bind_eq_ok]
        exact ⟨hrolling, beq_self_eq_true _, matches_new .., rfl⟩
      exact ⟨_, _, ⟨_, rfl, rfl, rfl⟩, hwritten, noActions_withRow (hrows memberId row hrow)
        (fun id other _ => hrows id other) rfl hpreservation⟩
  | publicationEvidence step =>
    obtain rfl : step = .complete := by simpa using hlast.1
    cases hpublication : current.record.publication with
    | none =>
      rw [hpublication] at hchecked
      cases hchecked
    | some publication =>
      have hwritten : reduce current (.rollback (.finishEvidence (.new current "@publication"
            "finish_evidence_rollback" "complete" ())))
          = .ok { current.record with
            publication := some { publication with evidenceRolledBack := true }
            pendingRollback := none } := by
        simp only [reduce, reduceRollback, haction, evidenceStep, require_bind_eq_ok]
        refine ⟨hrolling, bind_eq_ok.mpr ⟨_, rfl, require_bind_eq_ok.mpr ⟨rfl,
          require_bind_eq_ok.mpr ⟨matches_new .., ?_⟩⟩⟩⟩
        exact orRefuse_bind_eq_ok.mpr ⟨publication, hpublication, rfl⟩
      exact ⟨_, _, ⟨_, rfl⟩, hwritten, noActions_of hrows rfl hpreservation⟩
  | selectedRootMetadata step =>
    obtain rfl : step = .complete := by simpa using hlast.1
    have hwritten : reduce current (.rollback (.finishSelectedRoot (.new current "@root"
          "finish_root_metadata_rollback" "complete" ())))
        = .ok { current.record with pendingRollback := none } := by
      simp only [reduce, reduceRollback, haction, rootStep, require_bind_eq_ok]
      exact ⟨hrolling, bind_eq_ok.mpr ⟨_, rfl, require_bind_eq_ok.mpr ⟨rfl,
        require_bind_eq_ok.mpr ⟨matches_new .., rfl⟩⟩⟩⟩
    exact ⟨_, _, ⟨_, rfl⟩, hwritten, noActions_of hrows rfl hpreservation⟩

/-! ## Preservation -/

section

variable (hvalid : validateV1Record env record = .ok ())
include hvalid

/-- An owner has one row of evidence at most, so new evidence takes its place. -/
lemma replaceEvidence_of_valid (howner : ownerIsValid record owner = true)
    (evidence : PreservationEvidence) :
    ∃ rows, ownerRows record owner = some rows
      ∧ replaceEvidence evidence rows = .ok [evidence] := by
  obtain ⟨_, _, _, _, _, hjournal⟩ := validateV1Record_eq_ok.mp hvalid
  have hevidence := (validateV1Journal_eq_ok.mp hjournal).2.2.2.2.2.1
  simp only [validateAllEvidence, bind_unit_eq_ok, checkAll_eq_ok] at hevidence
  obtain ⟨rows, hrows, hexact⟩ : ∃ rows, ownerRows record owner = some rows
      ∧ validateOwnerEvidence record owner rows = .ok () := by
    simp only [ownerIsValid, Bool.and_eq_true] at howner
    cases owner with
    | participant memberId =>
      obtain ⟨row, hrow⟩ := mem_participants_iff.mp (Std.ExtTreeMap.contains_iff_mem.mp howner.2)
      exact ⟨row.preservation, by simp [ownerRows, hrow],
        hevidence.1 (memberId, row) (mem_toList.mpr hrow)⟩
    | publicationRoot =>
      have hroot := hevidence.2.1
      cases hpublication : record.publication with
      | none => simp [hpublication] at howner
      | some publication =>
        rw [rootEvidence, hpublication] at hroot
        exact ⟨publication.rootPreservation, by simp [ownerRows, hpublication], hroot⟩
  refine ⟨rows, hrows, ?_⟩
  rcases rows with _ | ⟨row, _ | ⟨_, _⟩⟩ <;> first | rfl | cases hexact

lemma action_of_valid (hpending : record.pendingPreservation = some action) :
    validatePreservationAction record action = .ok () := by
  obtain ⟨_, _, _, _, _, hjournal⟩ := validateV1Record_eq_ok.mp hvalid
  exact (validateV1Journal_eq_ok.mp hjournal).2.2.2.2.2.2 action hpending

/-- The owner of a pending preservation can be preserved. -/
lemma ownerIsValid_of_pending (hpending : record.pendingPreservation = some action) :
    ownerIsValid record action.owner = true := by
  have hchecked := action_of_valid hvalid hpending
  cases action <;>
    simp only [validatePreservationAction, require_eq_ok, Bool.and_eq_true] at hchecked <;>
    simp only [PendingPreservationActionV1.owner, hchecked]

end

/-- The evidence with which an action is finished: that of the row before it and what the action
has done. A reset that no stash precedes marks that none was needed. -/
def PendingPreservationActionV1.finishedEvidence (record : MergeOperationRecordV1) :
    PendingPreservationActionV1 → Option PreservationEvidence
  | .backupRef owner name targetCommit => some
      { (ownerEvidence record owner).getD ⟨none, none, none, none, none, none⟩ with
        backupRef := some name
        backupCommit := some targetCommit }
  | .stash _ _ _ _ _ _ _ _ => none
  | .resetAttachedRef owner _ expectedCommit restoreCommit _ _ =>
    (ownerEvidence record owner).map fun row => { row with
      noopCommit := row.noopCommit.or (if row.stashId.isSome then none else some expectedCommit)
      resetCommit := some restoreCommit }

attribute [local simp] PendingPreservationActionV1.owner PendingPreservationActionV1.position
  PendingPreservationActionV1.finishedEvidence

/-- The finished evidence is what the reducer asks for. -/
lemma finishedEvidence_of_valid (hvalid : validateV1Record env record = .ok ())
    (hpending : record.pendingPreservation = some action) (hlast : isAtLastPhase record = true) :
    finishIsLegal action (action.finishedEvidence record) = true
      ∧ (action.kind = .reset → (action.finishedEvidence record).any
        (markerWritePreservesPriorRow (ownerEvidence record action.owner)) = true) := by
  have hchecked := action_of_valid hvalid hpending
  simp only [isAtLastPhase, hpending, Option.all_some, Bool.and_eq_true] at hlast
  cases action with
  | backupRef owner name target => exact ⟨rfl, nofun⟩
  | stash owner phase stashId objectId message head preimage handoff =>
    exact ⟨by simpa [finishIsLegal] using hlast.2, nofun⟩
  | resetAttachedRef owner branch expected restore phase handoff =>
    simp only [validatePreservationAction, require_eq_ok, Bool.and_eq_true, beq_iff_eq,
      Bool.not_eq_true'] at hchecked
    obtain ⟨⟨⟨⟨⟨_, hbackup⟩, _⟩, _⟩, _⟩, hreset⟩ := hchecked
    cases hrow : ownerEvidence record owner with
    | none => simp [recordedBackupTarget, hrow] at hbackup
    | some row =>
      have hnone : row.resetCommit = none := by simpa [hrow] using hreset
      refine ⟨by simpa [finishIsLegal, hrow] using hlast.2, fun _ => ?_⟩
      cases hnoop : row.noopCommit <;>
        simp [hrow, hnone, hnoop, markerWritePreservesPriorRow, immutableMarker]

/-- The evidence is written in place of the one row of its owner, or as its first. -/
lemma setEvidence_of_owner (hvalid : validateV1Record env record = .ok ())
    (howner : ownerIsValid record owner = true)
    (hrows : ∀ (id : String) row, record.participants[id]? = some row → row.pendingAction = none)
    (hrollback : record.pendingRollback = none) (evidence : Option PreservationEvidence) :
    ∃ written, setEvidenceIfAny { record with pendingPreservation := none } owner evidence
      = .ok written ∧ noActions written = true := by
  cases evidence with
  | none => exact ⟨_, rfl, noActions_of hrows hrollback rfl⟩
  | some evidence =>
    obtain ⟨rows, hrows', hreplace⟩ := replaceEvidence_of_valid hvalid howner evidence
    cases owner with
    | participant memberId =>
      obtain ⟨row, hrow, rfl⟩ := Option.map_eq_some_iff.mp hrows'
      exact ⟨_, orRefuse_bind_eq_ok.mpr ⟨row, hrow, bind_eq_ok.mpr ⟨_, hreplace, rfl⟩⟩,
        noActions_withRow (hrows memberId row hrow) (fun id other _ => hrows id other) hrollback
          rfl⟩
    | publicationRoot =>
      obtain ⟨publication, hpublication, rfl⟩ := Option.map_eq_some_iff.mp hrows'
      exact ⟨_, orRefuse_bind_eq_ok.mpr ⟨publication, hpublication, bind_eq_ok.mpr
        ⟨_, hreplace, rfl⟩⟩, noActions_of hrows hrollback rfl⟩

lemma preservation_finished (hstate : current.record.state = .preserving)
    (hpending : current.record.pendingPreservation = some action)
    (hlast : isAtLastPhase current.record = true) :
    PendingWork.preservation.IsFinishable current := by
  have hwork : PendingWork.preservation.isPending current.record = true := by simp [hpending]
  have hrollback := not_pending_of_pending current.valid .rollback hwork (by simp)
  obtain ⟨hlegal, hpreserves⟩ := finishedEvidence_of_valid current.valid hpending hlast
  obtain ⟨written, hwritten, hdone⟩ := setEvidence_of_owner current.valid
    (ownerIsValid_of_pending current.valid hpending)
    (fun _ _ => row_not_pending current.valid hwork (by simp)) (by simpa using hrollback)
    (action.finishedEvidence current.record)
  let token : PreservationToken :=
    ⟨.new current action.owner.id action.kind.finishName "completed"
      ⟨action.owner, action.position, none, action.finishedEvidence current.record, none⟩,
    .new current action.owner.id "preservation_cursor" "prefix_verified"
      ⟨action.owner, action.position⟩⟩
  have hfinished : finishPreservation current token action.kind = .ok written := by
    simp only [finishPreservation, orRefuse_bind_eq_ok, require_bind_eq_ok]
    refine ⟨action, hpending,
      by simp [actionMatches, token, PreservationToken.value, BoundValue.new],
      beq_self_eq_true _, hlegal, ?_, ?_, hwritten⟩
    · cases hkind : action.kind <;> first | rfl | exact hpreserves hkind
    · simp only [PreservationToken.matches, Bool.and_eq_true]
      exact ⟨⟨⟨matches_new .., matches_new ..⟩, beq_self_eq_true _⟩, beq_self_eq_true _⟩
  refine ⟨_, written, ⟨action, token, hpending, rfl, rfl⟩, ?_, hdone⟩
  cases hkind : action.kind <;> rw [hkind] at hfinished <;>
    exact bind_unit_eq_ok.mpr ⟨require_eq_ok.mpr (beq_iff_eq.mpr hstate), hfinished⟩

/-! ## Pending work -/

lemma PendingWork.isFinishedIn (work : PendingWork) (hne : state ≠ .recoveryRequired) :
    work.IsFinishedIn state := by
  rintro env current rfl h hlast
  have hallowed := isAllowedIn_of_pending current.valid h
  rw [effective_of_ne hne] at hallowed
  cases work with
  | forward =>
    obtain ⟨row, hrow, hpending⟩ := List.any_eq_true.mp h
    obtain ⟨memberId, hget⟩ := mem_rows.mp hrow
    exact forward_finished hget hpending (by cases hstate : current.record.state <;> simp_all)
  | rollback =>
    exact rollback_finished (by cases hstate : current.record.state <;> simp_all) h hlast
  | preservation =>
    obtain ⟨action, haction⟩ := Option.isSome_iff_exists.mp h
    exact preservation_finished (by cases hstate : current.record.state <;> simp_all) haction hlast

namespace Sample

/-- The first member is about to be reset, after the second. -/
def resetting : StoredV1Record artifacts :=
  ⟨{ Sample.record .rollingBack forwardedRow { Sample.row "b" with state := .aborted } with
      pendingRollback := some (.participant "mem_a" .resetIntegrated .rolledBack) },
    "0", location, by decide +kernel⟩

/-- The first member is about to be backed up. -/
def backingUp : StoredV1Record artifacts :=
  ⟨{ Sample.record .preserving forwardedRow (Sample.row "b") with
      preservationPublicationHandoff := some .noCandidate
      pendingPreservation := some (.backupRef (.participant "mem_a") "refs/gwz/merge/m/mem_a/head"
        (oid 'b')) },
    "0", location, by decide +kernel⟩

end Sample

end GwzCore.Merge
