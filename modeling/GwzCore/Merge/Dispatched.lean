import GwzCore.Merge.Dispatch
import GwzCore.Merge.Moved
import GwzCore.Merge.Prepared

/-!
# What the dispatcher applies at once

The dispatcher chooses a transition from the states of the rows in target order; the
reducer checks every row, its error and its pending action. The two agree on a halted
record, on an executing record in which no conflicted row carries an error, and on no other
record for which a transition is answered.
-/
namespace GwzCore.Merge
open List V1Invocation

open Checks

variable {env : Artifacts} {transition : V1Transition} {id : String}
  {requested : BoundObservationRequest} {invocation : V1Invocation}

attribute [local simp] isForwardCandidate

/-! ## Rows of a valid record -/

section

variable {record : MergeOperationRecordV1} {row : MergeParticipantRecord}

section

variable (hvalid : validateV1Record env record = .ok ())
include hvalid

/-- Every row belongs to a selected target. -/
lemma selected_of_row (hrow : record.participants[id]? = some row) :
    id ∈ record.selectedTargets := by
  obtain ⟨hcommon, _⟩ := validateV1Record_eq_ok.mp hvalid
  have hparticipant := (validateCommonV1Record_eq_ok.mp hcommon).2.2.1 id row hrow
  simp only [validateParticipant, bind_unit_eq_ok, require_eq_ok] at hparticipant
  simpa using hparticipant.2.1

lemma rowShape_of_row (hrow : record.participants[id]? = some row) : rowShape row = true := by
  obtain ⟨_, _, hlifecycle, _⟩ := validateV1Record_eq_ok.mp hvalid
  exact (validateV1Lifecycle_eq_ok.mp hlifecycle).1 row (mem_rows.mpr ⟨id, hrow⟩)

end

lemma pendingParticipant_eq_none :
    pendingParticipant record = none ↔ ∀ row ∈ rows record, row.pendingAction = none := by
  simp only [pendingParticipant, Option.map_eq_none_iff, find?_eq_none, rows, mem_map,
    Prod.exists, Prod.forall, Bool.not_eq_true, Option.isSome_eq_false_iff,
      Option.isNone_iff_eq_none]
  constructor
  · rintro h row ⟨id, _, hmem, rfl⟩
    exact h id _ hmem
  · intro h id row hmem
    exact h row ⟨id, row, hmem, rfl⟩

lemma forwardPendingCount_eq_zero (h : ∀ row ∈ rows record, row.pendingAction = none) :
    forwardPendingCount record = 0 := by
  rw [forwardPendingCount, countP_eq_zero]
  intro row hrow
  simp [h row hrow]

/-- A row that is neither terminal nor a forward candidate has been integrated or waits for
a resolution; only a conflict may carry an error. -/
lemma awaitingRowIsLegal_of (hshape : rowShape row = true)
    (hterminal : row.state.isRollbackTerminal = false) (hpending : row.pendingAction = none)
    (hcandidate : isForwardCandidate .resumeStart row = false)
    (herror : row.state = .conflicted → row.error = none) : awaitingRowIsLegal row = true := by
  simp only [rowShape, errorIsLegal, Bool.and_eq_true] at hshape
  obtain ⟨_, hlegal⟩ := hshape
  simp only [awaitingRowIsLegal, hpending]
  cases hstate : row.state <;> rw [hstate] at hterminal hlegal <;>
    simp_all [ParticipantState.isRollbackTerminal,
      ParticipantState.isSuccessful]

end

/-! ## Transitions of the state alone -/

section

variable {current : StoredV1Record env} {lease : V1MutationLease}

lemma noJournals_of_integrating (h : Integrating current.record) :
    noJournals current.record = true := by
  simp [noJournals, h.pendingRollback, h.pendingPreservation]

/-- A transition that only moves the state of a record that still integrates is prepared if
the rows allow the new state. -/
lemma prepare_of_integrating {state : OperationState}
    (hcovers : lease.covers current.location = true)
    (hold : current.record.state.isIntegrating = true) (hnew : state.isIntegrating = true)
    (hwritten : reduce current transition = .ok { current.record with state := state })
    (hstate : current.record.state ≠ state)
    (hexpected : expectedDiff current.record (stamp { current.record with state := state })
      transition.effect = .ok {.operationState})
    (hstates : participantStatesAreLegal current.record state = true)
    (hforward : forwardPendingIsLegal current.record state = true) :
    ∃ rewrite, prepare lease current transition = .ok rewrite := by
  have hmoved := validateV1Record_moved_integrating current.valid hold hnew hstates hforward
  rw [← (integrating_of_valid current.valid hold).recoveryContext] at hmoved
  obtain ⟨rewrite, hrewrite, _⟩ :=
    prepare_of_moved hcovers hwritten hmoved hexpected hstate (by simp)
  exact ⟨rewrite, hrewrite⟩

lemma awaitResolution_accepted (hcovers : lease.covers current.location = true)
    (hstate : current.record.state = .executing)
    (hconflict : ∃ row ∈ rows current.record, row.state = .conflicted)
    (hrows : ∀ row ∈ rows current.record, awaitingRowIsLegal row = true) :
    ∃ rewrite, prepare lease current (.operation .awaitResolution) = .ok rewrite := by
  have hintegrating := integrating_of_valid current.valid (by rw [hstate]; rfl)
  have hall : ∀ row ∈ rows current.record, (row.pendingAction = none ∧ row.error = none)
      ∧ (row.state.isSuccessful = true ∨ row.state = .conflicted) := by
    intro row hrow
    simpa [awaitingRowIsLegal] using hrows row hrow
  have hwritten : reduce current (.operation .awaitResolution)
      = .ok { current.record with state := .awaitingResolution } := by
    simp only [reduce, reduceOperation, require_bind_eq_ok, Bool.and_eq_true, beq_iff_eq,
      any_eq_true, all_eq_true]
    exact ⟨⟨hstate, noJournals_of_integrating hintegrating⟩, hconflict, hrows, trivial⟩
  refine prepare_of_integrating hcovers hintegrating.state rfl hwritten (by simp [hstate]) rfl ?_ ?_
  · simp only [participantStatesAreLegal, Bool.and_eq_true, any_eq_true, all_eq_true,
      beq_iff_eq, Bool.or_eq_true, Option.isNone_iff_eq_none]
    exact ⟨⟨hconflict, fun row hrow => (hall row hrow).1.2⟩, fun row hrow => (hall row hrow).2⟩
  · have hcount := forwardPendingCount_eq_zero fun row hrow => (hall row hrow).1.1
    simp [forwardPendingIsLegal, hcount]

lemma beginExecution_accepted (hcovers : lease.covers current.location = true)
    (hstate : current.record.state = .halted) :
    ∃ rewrite, prepare lease current (.operation .beginExecution) = .ok rewrite := by
  have hintegrating := integrating_of_valid current.valid (by rw [hstate]; rfl)
  obtain ⟨hstates, hforward, _⟩ := states_of_valid current.valid
  rw [effective_of_isIntegrating hintegrating.state, hstate] at hstates hforward
  have hwritten : reduce current (.operation .beginExecution)
      = .ok { current.record with state := .executing } := by
    simp only [reduce, reduceOperation, require_bind_eq_ok, Bool.or_eq_true, beq_iff_eq]
    exact ⟨.inr hstate, noJournals_of_integrating hintegrating, trivial⟩
  refine prepare_of_integrating hcovers hintegrating.state rfl hwritten (by simp [hstate]) rfl ?_ ?_
  · simp only [participantStatesAreLegal, Bool.and_eq_true, all_eq_true] at hstates ⊢
    intro row hrow
    have hlegal := hstates.2 row hrow
    cases hrowState : row.state <;> rw [hrowState] at hlegal <;>
      first | rfl | exact absurd hlegal (by decide)
  · simp only [forwardPendingIsLegal, Bool.and_eq_true] at hforward ⊢
    exact ⟨hforward.1, by simp⟩

end

/-! ## What the dispatcher answers -/

section

variable {current : StoredV1Record env} {request : V1LifecycleRequest} {kind : ObservationKind}

/-- The requests that drive the merge forward. -/
def V1LifecycleRequest.isForward : V1LifecycleRequest → Bool
  | .resumeStart | .continue => true
  | _ => false

lemma executing_of_isForward (h : request.isForward = true) :
    executing current request =
      match nextForwardParticipant current.record request with
      | some memberId => observe current request (.participantPreparation memberId)
      | none =>
        if (rows current.record).any (·.state == .conflicted) then applyOperation .awaitResolution
        else if hasHaltCause current.record then applyOperation .halt
        else observe current request .participantsComplete := by
  cases request <;> first | rfl | cases h

lemma executing_apply (h : executing current request = .ok (.apply transition)) :
    nextForwardParticipant current.record request = none
      ∧ ((∃ row ∈ rows current.record, row.state = .conflicted)
          ∧ transition = .operation .awaitResolution
        ∨ (¬ ∃ row ∈ rows current.record, row.state = .conflicted)
          ∧ hasHaltCause current.record = true ∧ transition = .operation .halt) := by
  have hforward : request.isForward = true := by
    cases request <;> first | rfl | cases h
  rw [executing_of_isForward hforward] at h
  cases hnext : nextForwardParticipant current.record request with
  | some memberId =>
    rw [hnext] at h
    cases h
  | none =>
    rw [hnext] at h
    refine ⟨rfl, ?_⟩
    simp only [any_eq_true, beq_iff_eq] at h
    split_ifs at h with hconflict hhalt
    · cases h
      exact .inl ⟨hconflict, rfl⟩
    · cases h
      exact .inr ⟨hconflict, hhalt, rfl⟩
    · cases h

lemma stopped_apply (h : stopped current request = .ok (.apply transition)) :
    current.record.state ≠ .awaitingResolution ∧ transition = .operation .beginExecution := by
  cases request with
  | «continue» =>
    simp only [stopped, beq_iff_eq] at h
    split_ifs at h with hstate
    · split at h <;> cases h
    · cases h
      exact ⟨hstate, rfl⟩
  | _ => cases h

/-- The dispatcher applies a transition at once only while it executes with nothing left to
prepare, or to leave a halt. -/
lemma nextAction_apply (h : nextAction current request = .ok (.apply transition)) :
    (current.record.state = .executing ∧ pendingParticipant current.record = none
      ∧ executing current request = .ok (.apply transition))
    ∨ (current.record.state = .halted ∧ transition = .operation .beginExecution) := by
  unfold nextAction at h
  simp only [beq_iff_eq] at h
  split_ifs at h <;> try cases h
  cases hpending : pendingParticipant current.record with
  | some memberId =>
    rw [hpending] at h
    cases h
  | none =>
    rw [hpending] at h
    cases hstate : current.record.state <;> rw [hstate] at h <;> simp only at h
    · exact .inl ⟨rfl, rfl, h⟩
    · exact absurd hstate (stopped_apply h).1
    · exact .inr ⟨rfl, (stopped_apply h).2⟩
    · cases request <;> cases h
    all_goals cases h

lemma observe_kind
    (h : observe current request kind = .ok (.observe requested)) : requested.kind = kind := by
  cases h
  rfl

section

variable {memberId : String} (hkind : requested.kind = .participantPreparation memberId)

include hkind

lemma not_observe_of_kind (hne : kind ≠ .participantPreparation memberId) :
    observe current request kind ≠ .ok (.observe requested) := by
  intro h
  exact hne ((observe_kind h).symm.trans hkind)

lemma executing_prepares (h : executing current request = .ok (.observe requested)) :
    nextForwardParticipant current.record request = some memberId := by
  have hforward : request.isForward = true := by
    cases request with
    | abort | preserve => exact absurd h (not_observe_of_kind hkind (by simp))
    | status | archive => cases h
    | resumeStart | «continue» => rfl
  rw [executing_of_isForward hforward] at h
  cases hnext : nextForwardParticipant current.record request with
  | some id =>
    rw [hnext] at h
    cases (observe_kind h).symm.trans hkind
    rfl
  | none =>
    rw [hnext] at h
    simp only at h
    split_ifs at h
    · cases h
    · cases h
    · exact absurd h (not_observe_of_kind hkind (by simp))

lemma stopped_prepares (h : stopped current request = .ok (.observe requested)) :
    current.record.state = .awaitingResolution := by
  cases request with
  | «continue» =>
    simp only [stopped, beq_iff_eq] at h
    split_ifs at h with hstate
    · exact hstate
    · cases h
  | abort | preserve => exact absurd h (not_observe_of_kind hkind (by simp))
  | resumeStart | status | archive => cases h

lemma not_finalizing_prepares : finalizing current request ≠ .ok (.observe requested) := by
  intro h
  cases request with
  | archive => cases h
  | abort | preserve => exact not_observe_of_kind hkind (by simp) h
  | _ => exact not_observe_of_kind hkind (by split <;> simp) h

/-- A preparation is observed of the first forward candidate while executing, or of a
conflicted row while a resolution is awaited. -/
lemma nextAction_prepares (h : nextAction current request = .ok (.observe requested)) :
    (current.record.state = .executing ∧ pendingParticipant current.record = none
      ∧ nextForwardParticipant current.record request = some memberId)
    ∨ current.record.state = .awaitingResolution := by
  unfold nextAction at h
  simp only at h
  split_ifs at h
  · cases h
  · exact absurd h (not_observe_of_kind hkind (by simp))
  · cases h
  · exact absurd h (not_observe_of_kind hkind (by simp))
  · exact absurd h (not_observe_of_kind hkind (by simp))
  · exact absurd h (not_observe_of_kind hkind (by simp))
  cases hpending : pendingParticipant current.record with
  | some id =>
    rw [hpending] at h
    exact absurd h (not_observe_of_kind hkind (by simp))
  | none =>
    rw [hpending] at h
    cases hstate : current.record.state <;> rw [hstate] at h <;> simp only at h
    · exact .inl ⟨rfl, rfl, executing_prepares hkind h⟩
    · exact .inr rfl
    · have hawaiting := stopped_prepares hkind h
      rw [hstate] at hawaiting
      cases hawaiting
    · exact absurd h (not_finalizing_prepares hkind)
    · exact absurd h (not_observe_of_kind hkind (by simp))
    · exact absurd h (not_observe_of_kind hkind (by simp))
    · cases h
    · cases h
    · cases h

end

lemma skip_apply {memberId : String}
    (h : invocation.skip current request memberId (.observe requested) = .ok (.apply transition)) :
    (∃ row, current.record.participants[memberId]? = some row ∧ row.state = .conflicted)
      ∧ (∀ target ∈ (laterTargets memberId current.record.selectedTargets).getD [],
        invocation.isUnvisitedCandidate current.record target request = false)
      ∧ transition = .operation .awaitResolution := by
  unfold skip at h
  simp only at h
  cases hrow : current.record.participants[memberId]? with
  | none =>
    rw [hrow] at h
    cases h
  | some row =>
    rw [hrow] at h
    simp only [bne_iff_ne] at h
    split_ifs at h with hstate
    · cases h
    · cases hfind : List.find? (fun target =>
        invocation.isUnvisitedCandidate current.record target request)
        ((laterTargets memberId current.record.selectedTargets).getD []) with
      | some next =>
        rw [hfind] at h
        cases h
      | none =>
        rw [hfind] at h
        cases h
        refine ⟨⟨row, rfl, by simpa using hstate⟩, ?_, rfl⟩
        intro target htarget
        simpa using find?_eq_none.mp hfind target htarget

lemma invocation_nextAction_apply
    (h : invocation.nextAction current request = .ok (.apply transition)) :
    nextAction current request = .ok (.apply transition)
      ∨ ∃ requested memberId, nextAction current request = .ok (.observe requested)
        ∧ requested.kind = .participantPreparation memberId
        ∧ invocation.visited memberId = true
        ∧ invocation.skip current request memberId (.observe requested)
          = .ok (.apply transition) := by
  obtain ⟨action, haction, h⟩ := bind_eq_ok.mp h
  cases action with
  | observe requested =>
    simp only at h
    split at h
    · rename_i memberId hkind
      split_ifs at h with hvisited
      · exact .inr ⟨requested, memberId, haction, hkind, hvisited, h⟩
      · cases h
    · cases h
  | apply =>
    cases h
    exact .inl haction
  | respond | reject => cases h

end

/-! ## Agreement with the reducer -/

lemma laterTargets_append {primary : String} {before after : List String}
    (h : primary ∉ before) : laterTargets primary (before ++ primary :: after) = some after := by
  induction before with
  | nil => simp [laterTargets]
  | cons target rest ih =>
    rw [mem_cons, not_or] at h
    simp [laterTargets, Ne.symm h.1, ih h.2]

/-- The merge does not already wait for a resolution, and while it executes no conflicted
row carries an error. -/
def agreesWithReducer (record : MergeOperationRecordV1) : Bool :=
  record.state != .awaitingResolution && (record.state != .executing
    || (rows record).all fun row => row.state != .conflicted || row.error.isNone)

lemma agreesWithReducer_executing {record : MergeOperationRecordV1}
    (hstate : record.state = .executing) : agreesWithReducer record = true ↔
      ∀ row ∈ rows record, row.state = .conflicted → row.error = none := by
  simp [agreesWithReducer, hstate, imp_iff_not_or]

section

variable {current : StoredV1Record env} {request : V1LifecycleRequest}
  {row : MergeParticipantRecord}

/-- While it executes with no row left to prepare, the merge may wait for its conflicts. -/
lemma awaitResolution_of_candidates {lease : V1MutationLease}
    (hcovers : lease.covers current.location = true)
    (hclean : agreesWithReducer current.record = true)
    (hstate : current.record.state = .executing)
    (hpending : pendingParticipant current.record = none)
    (hconflict : ∃ row ∈ rows current.record, row.state = .conflicted)
    (hrows : ∀ (id : String) row, current.record.participants[id]? = some row →
      isForwardCandidate .resumeStart row = false) :
    ∃ rewrite, prepare lease current (.operation .awaitResolution) = .ok rewrite := by
  apply awaitResolution_accepted hcovers hstate hconflict
  intro row hrow
  obtain ⟨id, hget⟩ := mem_rows.mp hrow
  obtain ⟨hstates, _⟩ := states_of_valid current.valid
  rw [effective_of_ne (by simp [hstate]), hstate] at hstates
  simp only [participantStatesAreLegal, all_eq_true] at hstates
  refine awaitingRowIsLegal_of (rowShape_of_row current.valid hget) ?_
    (pendingParticipant_eq_none.mp hpending row hrow) (hrows id row hget)
    ((agreesWithReducer_executing hstate).mp hclean row hrow)
  simpa using hstates row hrow

/-- A wait is refused unless the merge executes and the reducer agrees to it. -/
lemma agreesWithReducer_of_awaitResolution {lease : V1MutationLease} {rewrite : PreparedV1Rewrite}
    (h : prepare lease current (.operation .awaitResolution) = .ok rewrite) :
    agreesWithReducer current.record = true := by
  obtain ⟨_, hnext, _⟩ := prepare_eq_ok.mp h
  obtain ⟨_, hwritten, _⟩ := applyTransition_eq_ok.mp hnext
  simp only [reduce, reduceOperation, require_bind_eq_ok, Bool.and_eq_true, beq_iff_eq,
    all_eq_true] at hwritten
  obtain ⟨⟨hstate, _⟩, _, hrows, _⟩ := hwritten
  refine (agreesWithReducer_executing hstate).mpr ?_
  intro row hrow _
  have hlegal := hrows row hrow
  simp only [awaitingRowIsLegal, Bool.and_eq_true, Option.isNone_iff_eq_none] at hlegal
  exact hlegal.1.2

lemma not_candidate_of_next_none (h : nextForwardParticipant current.record request = none)
    (hrow : current.record.participants[id]? = some row) :
    isForwardCandidate request row = false := by
  have hnone := find?_eq_none.mp h id (selected_of_row current.valid hrow)
  simpa [hrow] using hnone

lemma isForwardCandidate_of_resumeStart
    (h : isForwardCandidate request row = false) : isForwardCandidate .resumeStart row = false := by
  simp only [isForwardCandidate, Bool.or_eq_false_iff] at h ⊢
  exact ⟨h.1, rfl⟩

/-- A halt is never answered: a row that failed is still to be prepared, and a conflict is
waited for. -/
lemma not_hasHaltCause_of_next_none (h : nextForwardParticipant current.record request = none)
    (hconflict : ¬ ∃ row ∈ rows current.record, row.state = .conflicted) :
    hasHaltCause current.record = false := by
  rw [Bool.eq_false_iff]
  intro hhalt
  obtain ⟨row, hrow, hcause⟩ := any_eq_true.mp hhalt
  obtain ⟨id, hget⟩ := mem_rows.mp hrow
  have hcandidate := not_candidate_of_next_none h hget
  simp only [MergeParticipantRecord.isHaltCause, Bool.or_eq_true, Bool.and_eq_true,
    beq_iff_eq] at hcause
  rcases hcause with hfailed | ⟨hconflicted, _⟩
  · simp [hfailed] at hcandidate
  · exact hconflict ⟨row, hrow, hconflicted⟩

/-- Once every candidate has been visited, no row is left to prepare. -/
lemma not_candidate_of_skip {memberId : String}
    (hnext : nextForwardParticipant current.record request = some memberId)
    (hmember : ∃ row, current.record.participants[memberId]? = some row
      ∧ row.state = .conflicted)
    (hlater : ∀ target ∈ (laterTargets memberId current.record.selectedTargets).getD [],
      invocation.isUnvisitedCandidate current.record target request = false)
    (hrow : current.record.participants[id]? = some row) :
    isForwardCandidate .resumeStart row = false := by
  obtain ⟨hcandidate, before, after, htargets, hbefore⟩ := find?_eq_some_iff_append.mp hnext
  have hnotBefore : memberId ∉ before := by
    intro hmem
    have hnot := hbefore memberId hmem
    simp [hcandidate] at hnot
  have hselected := selected_of_row current.valid hrow
  rw [htargets, laterTargets_append hnotBefore] at hlater
  rw [htargets, mem_append, mem_cons] at hselected
  -- the row is before the visited conflict, the conflict itself, or after it
  rcases hselected with hid | rfl | hid
  · have hnot := hbefore id hid
    simp only [hrow, Option.any_some, Bool.not_eq_true'] at hnot
    exact isForwardCandidate_of_resumeStart hnot
  · obtain ⟨other, hother, hconflicted⟩ := hmember
    rw [hrow] at hother
    cases hother
    simp [hconflicted]
  · have hnot := hlater id hid
    simp only [isUnvisitedCandidate, hrow, Option.any_some,
      Bool.or_eq_false_iff] at hnot
    simp only [isForwardCandidate, Bool.or_eq_false_iff]
    exact ⟨hnot.1, rfl⟩

end

/-- What the dispatcher applies at once: the end of a halt; or a wait, which the reducer
accepts if it agrees to it. -/
lemma applied_cases {current : StoredV1Record env} {request : V1LifecycleRequest}
    {lease : V1MutationLease} (hcovers : lease.covers current.location = true)
    (h : invocation.nextAction current request = .ok (.apply transition)) :
    (current.record.state = .halted ∧ transition = .operation .beginExecution)
      ∨ transition = .operation .awaitResolution
        ∧ (agreesWithReducer current.record = true →
          ∃ rewrite, prepare lease current transition = .ok rewrite) := by
  rcases invocation_nextAction_apply h with
    h | ⟨requested, memberId, hobserve, hkind, hvisited, hskip⟩
  · rcases nextAction_apply h with ⟨hstate, hpending, h⟩ | ⟨hstate, rfl⟩
    · obtain ⟨hnext, ⟨hconflict, rfl⟩ | ⟨hconflict, hhalt, _⟩⟩ := executing_apply h
      · refine .inr ⟨rfl, fun hclean => ?_⟩
        refine awaitResolution_of_candidates hcovers hclean hstate hpending hconflict ?_
        intro id row hrow
        exact isForwardCandidate_of_resumeStart (not_candidate_of_next_none hnext hrow)
      · rw [not_hasHaltCause_of_next_none hnext hconflict] at hhalt
        cases hhalt
    · exact .inl ⟨hstate, rfl⟩
  · obtain ⟨⟨row, hrow, hconflicted⟩, hlater, rfl⟩ := skip_apply hskip
    rcases nextAction_prepares hkind hobserve with ⟨hstate, hpending, hnext⟩ | hstate
    · refine .inr ⟨rfl, fun hclean => ?_⟩
      refine awaitResolution_of_candidates hcovers hclean hstate hpending
        ⟨row, mem_rows.mpr ⟨memberId, hrow⟩, hconflicted⟩ ?_
      intro id row hget
      exact not_candidate_of_skip hnext ⟨_, hrow, hconflicted⟩ hlater hget
    · refine .inr ⟨rfl, fun hclean => ?_⟩
      simp [agreesWithReducer, hstate] at hclean

/-- The reducer and the validators accept a transition the dispatcher applies at once exactly
if the merge does not already wait and, while it executes, no conflicted row carries an
error. -/
theorem dispatched_transition_accepted_iff (current : StoredV1Record env)
    (request : V1LifecycleRequest) (invocation : V1Invocation) (lease : V1MutationLease)
    (transition : V1Transition) (hcovers : lease.covers current.location = true)
    (h : invocation.nextAction current request = .ok (.apply transition)) :
    (∃ rewrite, prepare lease current transition = .ok rewrite)
      ↔ agreesWithReducer current.record = true := by
  rcases applied_cases hcovers h with ⟨hstate, rfl⟩ | ⟨rfl, haccepted⟩
  · exact iff_of_true (beginExecution_accepted hcovers hstate)
      (by simp [agreesWithReducer, hstate])
  · constructor
    · rintro ⟨rewrite, hrewrite⟩
      exact agreesWithReducer_of_awaitResolution hrewrite
    · exact haccepted

namespace Sample

/-- A row whose merge stopped at a conflict. -/
def conflictedRow (path : String) : MergeParticipantRecord :=
  { row path with state := .conflicted, expectedMergeHead := some (oid 'b') }

/-- A conflicted row whose resolution failed. -/
def failedResolutionRow (path : String) : MergeParticipantRecord :=
  { conflictedRow path with error := some ⟨.mergeDrift, "drift", none⟩ }

def conflicted : StoredV1Record artifacts :=
  ⟨record .executing (conflictedRow "a") (upToDateRow "b"), "0", location, by decide +kernel⟩

def failedResolution : StoredV1Record artifacts :=
  ⟨record .executing (failedResolutionRow "a") (upToDateRow "b"), "0", location,
    by decide +kernel⟩

/-- The same failure once it has halted the merge. -/
def haltedResolution : StoredV1Record artifacts :=
  ⟨record .halted (failedResolutionRow "a") (upToDateRow "b"), "0", location, by decide +kernel⟩

def awaiting : StoredV1Record artifacts :=
  ⟨record .awaitingResolution (conflictedRow "a") (upToDateRow "b"), "0", location,
    by decide +kernel⟩

end Sample

/-- With a conflict and everything else integrated, a resumed start is made to wait; a halt is
left although its conflict carries an error. -/
theorem dispatches_accepted :
    (V1Invocation.new.nextAction Sample.conflicted .resumeStart
        = .ok (.apply (.operation .awaitResolution))
      ∧ ∃ rewrite, prepare Sample.lease Sample.conflicted (.operation .awaitResolution)
        = .ok rewrite)
    ∧ (V1Invocation.new.nextAction Sample.haltedResolution .continue
        = .ok (.apply (.operation .beginExecution))
      ∧ ∃ rewrite, prepare Sample.lease Sample.haltedResolution (.operation .beginExecution)
        = .ok rewrite) := by
  have hconflicted : V1Invocation.new.nextAction Sample.conflicted .resumeStart
      = .ok (.apply (.operation .awaitResolution)) := by
    rfl
  have hhalted : V1Invocation.new.nextAction Sample.haltedResolution .continue
      = .ok (.apply (.operation .beginExecution)) := by
    rfl
  refine ⟨⟨hconflicted, ?_⟩, hhalted, ?_⟩
  · exact (dispatched_transition_accepted_iff Sample.conflicted .resumeStart .new Sample.lease _
      (by decide +kernel) hconflicted).mpr (by decide +kernel)
  · exact (dispatched_transition_accepted_iff Sample.haltedResolution .continue .new Sample.lease _
      (by decide +kernel) hhalted).mpr (by decide +kernel)

/-- A conflict with an error is answered by a wait that the reducer refuses. -/
theorem refused_dispatch :
    V1Invocation.new.nextAction Sample.failedResolution .resumeStart
        = .ok (.apply (.operation .awaitResolution))
      ∧ prepare Sample.lease Sample.failedResolution (.operation .awaitResolution)
        = .error rejected :=
  ⟨rfl, by decide +kernel⟩

end GwzCore.Merge
