import GwzCore.Merge.Dispatched

/-!
# Ambiguous observations

An ambiguity is answered by a durable transition: a halt when the execution has a cause to
halt, and otherwise the recovery of the current state. The validator derives the
interrupted state from the rest of the record, so the recovery is accepted where that
derivation gives back the state. Resuming then gives back the record.
-/
namespace GwzCore.Merge
open List ParticipantState

open Checks

variable {env : Artifacts} {origin : RecoveryOriginStateV1}

/-! ## The answer -/

inductive ResolvedV1Action where
  | apply (transition : V1Transition)
  | respond (disposition : V1ResponseDisposition)
  | reject (error : ModelError)
  -- commit the transition, then answer the error
  | recordAndReject (transition : V1Transition) (error : ModelError)

def authorityMismatch : ModelError :=
  dispatchError "observation authority does not match the checked record or request"

def rejectResolved (detail : String) : ModelResult ResolvedV1Action :=
  .ok (.reject (dispatchError detail))

def op (transition : OperationTransition) : ModelResult ResolvedV1Action :=
  .ok (.apply (.operation transition))

/-- Ambiguity enters recovery, or halts an execution that has a cause to halt. -/
def ambiguous (current : StoredV1Record env) (proof : BoundValue RecoveryOriginStateV1) :
    ModelResult ResolvedV1Action := do
  require (proof.matches current "@operation" "enter_recovery" "ambiguous") authorityMismatch
  let record := current.record
  if record.state == .executing && hasHaltCause record then op .halt
  else
    let owned := match record.state with
      | .preserving => record.pendingPreservation.isSome
      | .rollingBack => record.pendingRollback.isSome
      | .executing | .awaitingResolution | .halted | .finalizing => true
      | .completed | .aborted | .recoveryRequired => false
    if owned then .ok (.apply (.recovery (.enter proof)))
    else rejectResolved "ambiguity has no representable recovery origin and persisted owner"

attribute [local simp] RecoveryOriginStateV1.operationState

/-! ## The derived origin -/

section

variable {record : MergeOperationRecordV1} {state : OperationState}

/-- The state a record would be recovered to, once it is in recovery from `origin`. -/
abbrev recovering (record : MergeOperationRecordV1) (origin : RecoveryOriginStateV1) :
    MergeOperationRecordV1 :=
  moved record .recoveryRequired (some ⟨origin⟩)

/-- While its rows are integrated a record has no journal and no accepted workspace, so the
rows alone determine the origin. -/
lemma derivedOrigin_integrating (h : Integrating record) (origin : RecoveryOriginStateV1) :
    derivedOrigin (recovering record origin) =
      if (rows record).any (·.isHaltCause) then some .halted
      else if (rows record).any (·.pendingAction.isSome) then some .executing
      else if (rows record).any (·.state == .conflicted) then some .awaitingResolution
      else if !(rows record).isEmpty && (rows record).all (·.state.isSuccessful) then
        if finalizationResumeIsUnique (recovering record origin) then some .finalizing else none
      else some .executing := by
  have hrows : rows (recovering record origin) = rows record := rfl
  simp only [derivedOrigin, hrows]
  simp [moved, stamp, h.pendingRollback, h.pendingPreservation, h.acceptedWorkspace, h.publication]

/-- The rows of an executing record tell its state: with a cause to halt no row is still
planned; without one, some row is pending, or none is in conflict and not all are
integrated. -/
def ambiguityIsRepresentable (record : MergeOperationRecordV1) : Bool :=
  record.state != .executing
    || (if hasHaltCause record then (rows record).all (·.state != .planned)
      else (rows record).any (·.pendingAction.isSome)
        || ((rows record).all (·.state != .conflicted)
          && (rows record).any fun row => !row.state.isSuccessful))

/-- Only an executing or a halted record has a row with its action pending. -/
lemma no_pending (hforward : forwardPendingIsLegal record state = true)
    (hexecuting : state ≠ .executing) (hhalted : state ≠ .halted) :
    (rows record).any (·.pendingAction.isSome) = false := by
  simp only [forwardPendingIsLegal, Bool.and_eq_true, Bool.or_eq_true, beq_iff_eq, hexecuting,
    hhalted, or_false] at hforward
  rw [any_eq_false]
  exact countP_eq_zero.mp hforward.2

lemma derivedOrigin_preserving (hpending : record.pendingPreservation.isSome = true) :
    derivedOrigin (recovering record .preserving) = some .preserving := by
  simp [derivedOrigin, moved, stamp, hpending]

lemma derivedOrigin_rollingBack (hnone : record.pendingPreservation = none)
    (hpending : record.pendingRollback.isSome = true) :
    derivedOrigin (recovering record .rollingBack) = some .rollingBack := by
  simp [derivedOrigin, moved, stamp, hnone, hpending]

/-- The state a recovery interrupts is open, and is no recovery itself. -/
lemma isOpen_of_recoveryOrigin (h : recoveryOrigin state = some origin) :
    state.isOpen = true ∧ state ≠ .recoveryRequired := by
  rw [← operationState_of_recoveryOrigin h]
  cases origin <;> simp [OperationState.isOpen]

variable (hvalid : validateV1Record env record = .ok ())

include hvalid

lemma rows_ne_nil : rows record ≠ [] := by
  obtain ⟨hcommon, _⟩ := validateV1Record_eq_ok.mp hvalid
  have htargets := (validateCommonV1Record_eq_ok.mp hcommon).2.1
  simp only [validateTargets, bind_unit_eq_ok, require_eq_ok] at htargets
  obtain ⟨_, hnonempty, _, hsize⟩ := htargets
  intro hnil
  have hlength : record.participants.toList.length = 0 := by
    simpa [rows] using congrArg length hnil
  simp at hsize hnonempty
  rw [Std.ExtTreeMap.length_toList] at hlength
  rw [hlength] at hsize
  exact hnonempty (length_eq_zero_iff.mp hsize.symm)

lemma derivedOrigin_executing (hstate : record.state = .executing)
    (hhalt : hasHaltCause record = false)
    (hrepresentable : ambiguityIsRepresentable record = true) :
    derivedOrigin (recovering record .executing) = some .executing := by
  have hintegrating := integrating_of_valid hvalid (by rw [hstate]; rfl)
  rw [derivedOrigin_integrating hintegrating]
  have hnoCause : (rows record).any (·.isHaltCause) = false := hhalt
  simp only [ambiguityIsRepresentable, hstate, hhalt, bne_self_eq_false, Bool.false_or,
    Bool.false_eq_true, if_false, Bool.or_eq_true, Bool.and_eq_true] at hrepresentable
  simp only [hnoCause, Bool.false_eq_true, if_false]
  rcases hrepresentable with hpending | ⟨hconflict, hunfinished⟩
  · rw [if_pos hpending]
  · have hnoConflict : (rows record).any (·.state == .conflicted) = false := by
      simpa using hconflict
    have hnotAll : (rows record).all (·.state.isSuccessful) = false := by
      simpa using hunfinished
    simp [hnoConflict, hnotAll]

lemma derivedOrigin_awaitingResolution (hstate : record.state = .awaitingResolution) :
    derivedOrigin (recovering record .awaitingResolution) = some .awaitingResolution := by
  have hintegrating := integrating_of_valid hvalid (by rw [hstate]; rfl)
  obtain ⟨hstates, hforward, _⟩ := states_of_valid hvalid
  rw [effective_of_isIntegrating hintegrating.state, hstate] at hstates hforward
  simp only [participantStatesAreLegal, Bool.and_eq_true, all_eq_true] at hstates
  obtain ⟨⟨hconflict, herrors⟩, hlegal⟩ := hstates
  rw [derivedOrigin_integrating hintegrating]
  have hnoCause : (rows record).any (·.isHaltCause) = false := by
    rw [any_eq_false]
    intro row hrow
    have hrowState := hlegal row hrow
    cases hs : row.state <;> rw [hs] at hrowState <;>
      simp_all [MergeParticipantRecord.isHaltCause, isSuccessful]
  have hnoPending := no_pending hforward (by simp) (by simp)
  simp [hnoCause, hnoPending, hconflict]

lemma derivedOrigin_halted (hstate : record.state = .halted) :
    derivedOrigin (recovering record .halted) = some .halted := by
  have hintegrating := integrating_of_valid hvalid (by rw [hstate]; rfl)
  obtain ⟨hstates, _⟩ := states_of_valid hvalid
  rw [effective_of_isIntegrating hintegrating.state, hstate] at hstates
  simp only [participantStatesAreLegal, Bool.and_eq_true] at hstates
  rw [derivedOrigin_integrating hintegrating, if_pos hstates.1]

/-- The step of a publication in progress always has one continuation. -/
lemma finalizationResumeIsUnique_of_valid :
    finalizationResumeIsUnique (recovering record .finalizing) = true := by
  obtain ⟨_, _, _, _, hpublished, _⟩ := validateV1Record_eq_ok.mp hvalid
  have hnext : finalizationNextActionIsOk (recovering record .finalizing) = true := rfl
  have hpublication' : (recovering record .finalizing).publication = record.publication := rfl
  unfold finalizationResumeIsUnique
  rw [hnext, hpublication']
  cases hpublication : record.publication with
  | none => rfl
  | some publication =>
    obtain ⟨_, _, hprogress, _⟩ := (validateV1Publication_some hpublication).mp hpublished
    cases hcandidate : publication.candidate with
    | none =>
      simp only [validateNoCandidate] at hprogress
      cases hstep : publication.step <;> simp_all [noCandidateStepIsValid]
    | some candidate =>
      rw [hcandidate] at hprogress
      simp only [validateCandidateProgress, require_bind_eq_ok, Bool.and_eq_true,
        bne_iff_ne] at hprogress
      obtain ⟨⟨⟨⟨_, hstarted⟩, hvalidated⟩, _⟩, hprogress⟩ := hprogress
      obtain ⟨composition, hshape, hphase⟩ := bind_eq_ok.mp hprogress
      cases hcommit : publication.compositionCommit with
      | none =>
        have habsent : composition = .absent := by
          simp only [compositionShape, hcommit] at hshape
          split_ifs at hshape
          cases hshape
          rfl
        cases hstep : publication.step <;> simp_all [phaseIsValid]
      | some commit =>
        have hcomplete : composition = .complete := by
          simp only [compositionShape, hcommit, compositionIsAbsent] at hshape
          cases htree : publication.compositionTree <;> simp [htree] at hshape
          split_ifs at hshape
          cases hshape
          rfl
        cases hstep : publication.step <;> simp_all [phaseIsValid]

lemma derivedOrigin_finalizing (hstate : record.state = .finalizing) :
    derivedOrigin (recovering record .finalizing) = some .finalizing := by
  have heffective : effective record = .finalizing := by
    rw [effective_of_ne (by simp [hstate]), hstate]
  obtain ⟨hstates, hforward, hreverse⟩ := states_of_valid hvalid
  rw [heffective] at hstates hforward hreverse
  simp only [participantStatesAreLegal] at hstates
  have hall := all_eq_true.mp hstates
  simp only [reversePendingIsLegal, Bool.and_eq_true, Option.isNone_iff_eq_none] at hreverse
  have hrow : ∀ row ∈ rows record, row.isHaltCause = false ∧ row.state ≠ .conflicted := by
    intro row hrow
    have hrowState := hall row hrow
    cases hs : row.state <;> rw [hs] at hrowState <;>
      simp_all [MergeParticipantRecord.isHaltCause, isSuccessful]
  have hnoCause : (rows record).any (·.isHaltCause) = false :=
    any_eq_false.mpr fun row hmem => by simp [hrow row hmem]
  have hnoPending := no_pending hforward (by simp) (by simp)
  have hnoConflict : (rows record).any (·.state == .conflicted) = false :=
    any_eq_false.mpr fun row hmem => by simp [hrow row hmem]
  have hrows : rows (recovering record .finalizing) = rows record := rfl
  have hnonempty : (rows record).isEmpty = false := by
    simpa using rows_ne_nil hvalid
  simp only [derivedOrigin, hrows, hnoCause, hnoPending, hnoConflict, hstates, hnonempty,
    finalizationResumeIsUnique_of_valid hvalid]
  simp [moved, stamp, hreverse.1, hreverse.2]

/-! ## Entering recovery -/

section Entering

variable (horigin : recoveryOrigin record.state = some origin)
  (hjournal : journalIsPending record = true)

include horigin hjournal

lemma derivedOrigin_recovering (hhalt : (record.state == .executing && hasHaltCause record) = false)
    (hrepresentable : ambiguityIsRepresentable record = true) :
    derivedOrigin (recovering record origin) = some origin := by
  have hstate := (operationState_of_recoveryOrigin horigin).symm
  have hne := (isOpen_of_recoveryOrigin horigin).2
  cases origin with
  | executing =>
    refine derivedOrigin_executing hvalid hstate ?_ hrepresentable
    simpa [hstate] using hhalt
  | awaitingResolution => exact derivedOrigin_awaitingResolution hvalid hstate
  | halted => exact derivedOrigin_halted hvalid hstate
  | finalizing => exact derivedOrigin_finalizing hvalid hstate
  | preserving =>
    rw [journalIsPending, hstate] at hjournal
    exact derivedOrigin_preserving hjournal
  | rollingBack =>
    obtain ⟨_, _, hreverse⟩ := states_of_valid hvalid
    rw [effective_of_ne hne, hstate] at hreverse
    rw [journalIsPending, hstate] at hjournal
    exact derivedOrigin_rollingBack (Option.isNone_iff_eq_none.mp hreverse) hjournal

lemma pendingIsAllowed_recovering : pendingIsAllowed (recovering record origin) = true := by
  have hstate := (operationState_of_recoveryOrigin horigin).symm
  obtain ⟨_, _, hreverse⟩ := states_of_valid hvalid
  rw [effective_of_ne (isOpen_of_recoveryOrigin horigin).2, hstate] at hreverse
  rw [journalIsPending, hstate] at hjournal
  cases origin <;>
    simp_all [pendingIsAllowed, moved, stamp, reversePendingIsLegal]

/-- A recovery changes nothing a valid record depends on, but for the derived origin. -/
lemma validateV1Record_recovering
    (hderived : derivedOrigin (recovering record origin) = some origin) :
    validateV1Record env (recovering record origin) = .ok () := by
  obtain ⟨hopen, hne⟩ := isOpen_of_recoveryOrigin horigin
  refine validateV1Record_moved hvalid hopen rfl (require_eq_ok.mpr (beq_iff_eq.mpr hderived))
    (pendingIsAllowed_recovering hvalid horigin hjournal) ?_ ?_
  · rw [effective_of_ne hne, ← operationState_of_recoveryOrigin horigin]
    exact effective_of_recovery rfl rfl
  · obtain ⟨_, _, _, hacceptance, _⟩ := validateV1Record_eq_ok.mp hvalid
    obtain ⟨hlifetime, _⟩ := bind_unit_eq_ok.mp hacceptance
    simp only [validateLifetime, require_bind_eq_ok, require_eq_ok] at hlifetime ⊢
    exact ⟨by simp [moved, stamp], hlifetime.2⟩

end Entering

lemma validateV1Record_stamp (hopen : record.state.isOpen = true) :
    validateV1Record env (stamp record) = .ok () := by
  obtain ⟨_, _, _, hacceptance, _, hjournal⟩ := validateV1Record_eq_ok.mp hvalid
  obtain ⟨hcontext, _, hpending, _⟩ := validateV1Journal_eq_ok.mp hjournal
  obtain ⟨hlifetime, _⟩ := bind_unit_eq_ok.mp hacceptance
  exact validateV1Record_moved hvalid hopen hopen hcontext hpending rfl hlifetime

end

/-! ## Accepted answers -/

section

variable {current : StoredV1Record env} {lease : V1MutationLease}
  {proof : BoundValue RecoveryOriginStateV1}

lemma recoveryContext_eq_none (hne : current.record.state ≠ .recoveryRequired) :
    current.record.recoveryContext = none := by
  obtain ⟨_, _, _, _, _, hjournal⟩ := validateV1Record_eq_ok.mp current.valid
  exact (validateRecoveryContext_none hne).mp (validateV1Journal_eq_ok.mp hjournal).1

/-- A halt with its cause is accepted exactly if no row is still planned. -/
lemma halt_accepted_iff (hcovers : lease.covers current.location = true)
    (hstate : current.record.state = .executing) (hhalt : hasHaltCause current.record = true) :
    (∃ rewrite, prepare lease current (.operation .halt) = .ok rewrite)
      ↔ ∀ row ∈ rows current.record, row.state ≠ .planned := by
  have hintegrating := integrating_of_valid current.valid (by rw [hstate]; rfl)
  have hwritten : reduce current (.operation .halt)
      = .ok { current.record with state := .halted } := by
    simp only [reduce, reduceOperation, require_bind_eq_ok, Bool.and_eq_true, beq_iff_eq]
    exact ⟨⟨hstate, hhalt⟩, trivial⟩
  obtain ⟨hstates, hforward, _⟩ := states_of_valid current.valid
  rw [effective_of_isIntegrating hintegrating.state, hstate] at hstates hforward
  simp only [participantStatesAreLegal, all_eq_true] at hstates
  have hlegal : participantStatesAreLegal current.record .halted = true
      ↔ ∀ row ∈ rows current.record, row.state ≠ .planned := by
    have hcause : (rows current.record).any (·.isHaltCause) = true := hhalt
    simp only [participantStatesAreLegal, hcause, Bool.true_and, all_eq_true]
    refine forall₂_congr fun row hrow => ?_
    -- an executing record has no row that is already rolled back
    have hrowState := hstates row hrow
    cases hs : row.state <;> rw [hs] at hrowState <;>
      simp_all [isSuccessful, isRollbackTerminal]
  constructor
  · rintro ⟨rewrite, hrewrite⟩
    obtain ⟨hhalted, _⟩ :=
      states_of_valid (prepare_next hrewrite hwritten ▸ prepare_valid hrewrite)
    exact hlegal.mp hhalted
  · intro hplanned
    refine prepare_of_integrating hcovers hintegrating.state rfl hwritten (by simp [hstate]) rfl
      (hlegal.mpr hplanned) ?_
    simp only [forwardPendingIsLegal, Bool.and_eq_true] at hforward ⊢
    exact ⟨hforward.1, by simp⟩

/-- The transition that answers an ambiguous observation. -/
def ambiguityTransition (record : MergeOperationRecordV1)
    (proof : BoundValue RecoveryOriginStateV1) : V1Transition :=
  if record.state == .executing && hasHaltCause record then .operation .halt
  else .recovery (.enter proof)

section Answer

variable (hcovers : lease.covers current.location = true)
  (hmatches : proof.matches current "@operation" "enter_recovery" "ambiguous")
  (horigin : recoveryOrigin current.record.state = some proof.value)
  (hjournal : journalIsPending current.record = true)

include hmatches horigin hjournal

lemma enter_written : reduce current (.recovery (.enter proof)) = .ok { current.record with
      state := .recoveryRequired, recoveryContext := some ⟨proof.value⟩ } := by
  simp only [reduce, reduceRecovery, orRefuse_bind_eq_ok, require_bind_eq_ok]
  exact ⟨proof.value, horigin, beq_self_eq_true _, hmatches, hjournal, rfl⟩

include hcovers in
/-- Entering recovery is accepted exactly if the derivation gives back the state. -/
lemma enter_accepted_iff :
    (∃ rewrite, prepare lease current (.recovery (.enter proof)) = .ok rewrite)
      ↔ derivedOrigin (recovering current.record proof.value) = some proof.value := by
  have hwritten := enter_written hmatches horigin hjournal
  constructor
  · rintro ⟨rewrite, hrewrite⟩
    have hvalid := prepare_next hrewrite hwritten ▸ prepare_valid hrewrite
    obtain ⟨_, _, _, _, _, hjournals⟩ := validateV1Record_eq_ok.mp hvalid
    exact beq_iff_eq.mp (require_eq_ok.mp (validateV1Journal_eq_ok.mp hjournals).1)
  · intro hderived
    have hne := (isOpen_of_recoveryOrigin horigin).2
    obtain ⟨rewrite, hrewrite, _⟩ := prepare_of_moved hcovers hwritten
      (validateV1Record_recovering current.valid horigin hjournal hderived) rfl hne
      (by simp [recoveryContext_eq_none hne])
    exact ⟨rewrite, hrewrite⟩

lemma ambiguous_eq :
    ambiguous current proof = .ok (.apply (ambiguityTransition current.record proof)) := by
  simp only [ambiguous, ambiguityTransition, require_bind_eq_ok]
  refine ⟨hmatches, ?_⟩
  cases hhalt : current.record.state == .executing && hasHaltCause current.record with
  | true => rfl
  | false =>
    unfold journalIsPending at hjournal
    cases hstate : current.record.state <;> rw [hstate] at horigin hjournal <;>
      simp_all [recoveryOrigin]

include hcovers in
lemma ambiguity_accepted_iff :
    (∃ rewrite, prepare lease current (ambiguityTransition current.record proof) = .ok rewrite)
      ↔ ambiguityIsRepresentable current.record = true := by
  unfold ambiguityTransition
  cases hhalt : current.record.state == .executing && hasHaltCause current.record with
  | true =>
    simp only [Bool.and_eq_true, beq_iff_eq] at hhalt
    obtain ⟨hstate, hcause⟩ := hhalt
    rw [if_pos rfl, halt_accepted_iff hcovers hstate hcause]
    simp [ambiguityIsRepresentable, hstate, hcause]
  | false =>
    rw [if_neg (by simp), enter_accepted_iff hcovers hmatches horigin hjournal]
    constructor
    · intro hderived
      by_cases hstate : current.record.state = .executing
      · have hcause : hasHaltCause current.record = false := by simpa [hstate] using hhalt
        have hvalue : proof.value = .executing := by
          rw [hstate] at horigin
          exact (Option.some.inj horigin).symm
        have hintegrating := integrating_of_valid current.valid (by rw [hstate]; rfl)
        rw [hvalue, derivedOrigin_integrating hintegrating] at hderived
        have hnoCause : (rows current.record).any (·.isHaltCause) = false := hcause
        simp only [hnoCause, Bool.false_eq_true, if_false] at hderived
        simp only [ambiguityIsRepresentable, hstate, hcause, bne_self_eq_false, Bool.false_or,
          Bool.false_eq_true, if_false, Bool.or_eq_true, Bool.and_eq_true]
        split_ifs at hderived with hpending hconflict hall hunique
        · exact .inl hpending
        · cases hderived
        · cases hderived
        · refine .inr ⟨by simpa using hconflict, ?_⟩
          have hnonempty : (rows current.record).isEmpty = false := by
            simpa using rows_ne_nil current.valid
          simpa [hnonempty] using hall
      · simp [ambiguityIsRepresentable, hstate]
    · exact derivedOrigin_recovering current.valid horigin hjournal hhalt

end Answer

/-- Resuming gives back the record, in the words of this program's version. -/
lemma resume_restores {entered : StoredV1Record env} {resume : BoundValue RecoveryOriginStateV1}
    (hopen : recoveryOrigin current.record.state = some proof.value)
    (hentered : entered.record = recovering current.record proof.value)
    (hcovers : lease.covers entered.location = true) (hvalue : resume.value = proof.value)
    (hmatches : resume.matches entered "@operation" "resume_recovery" "verified") :
    ∃ restored, prepare lease entered (.recovery (.resume resume)) = .ok restored
      ∧ restored.next = stamp current.record := by
  obtain ⟨hisOpen, hne⟩ := isOpen_of_recoveryOrigin hopen
  have hstate := operationState_of_recoveryOrigin hopen
  have hcontext := recoveryContext_eq_none hne
  have henteredState : entered.record.state = .recoveryRequired := by rw [hentered]; rfl
  have henteredContext : entered.record.recoveryContext = some ⟨proof.value⟩ := by
    rw [hentered]; rfl
  have hback : stamp { entered.record with
      state := proof.value.operationState, recoveryContext := none } = stamp current.record := by
    rw [hentered, hstate, ← hcontext]
    rfl
  have hwritten : reduce entered (.recovery (.resume resume)) = .ok { entered.record with
      state := proof.value.operationState, recoveryContext := none } := by
    simp only [reduce, reduceRecovery, orRefuse_bind_eq_ok, require_bind_eq_ok, beq_iff_eq]
    exact ⟨henteredState, ⟨proof.value⟩, henteredContext, hvalue, hmatches, rfl⟩
  have hvalid := validateV1Record_stamp current.valid hisOpen
  rw [← hback] at hvalid
  obtain ⟨restored, hrestored, hnext⟩ := prepare_of_moved hcovers hwritten hvalid rfl
    (by rw [henteredState]; exact (RecoveryOriginStateV1.operationState_ne _).symm)
    (by simp [henteredContext])
  exact ⟨restored, hrestored, hnext.trans hback⟩

end

/-- For every record that may be interrupted, the answer to an ambiguity is accepted exactly
if its rows tell the state; and every recovery that is entered is resumed to the record it
interrupted, the version of the writer apart. -/
theorem ambiguity_is_durable_and_resumed (current : StoredV1Record env) (lease : V1MutationLease)
    (proof : BoundValue RecoveryOriginStateV1) (hcovers : lease.covers current.location = true)
    (hmatches : proof.matches current "@operation" "enter_recovery" "ambiguous")
    (horigin : recoveryOrigin current.record.state = some proof.value)
    (hjournal : journalIsPending current.record = true) :
    ambiguous current proof = .ok (.apply (ambiguityTransition current.record proof))
      ∧ ((∃ rewrite, prepare lease current (ambiguityTransition current.record proof)
          = .ok rewrite) ↔ ambiguityIsRepresentable current.record = true)
      ∧ ∀ rewrite, prepare lease current (.recovery (.enter proof)) = .ok rewrite →
        ∀ entered : StoredV1Record env, entered.record = rewrite.next →
        ∀ (lease : V1MutationLease) (resume : BoundValue RecoveryOriginStateV1),
          lease.covers entered.location = true → resume.value = proof.value →
          resume.matches entered "@operation" "resume_recovery" "verified" →
          ∃ restored, prepare lease entered (.recovery (.resume resume)) = .ok restored
            ∧ restored.next = stamp current.record := by
  refine ⟨ambiguous_eq hmatches horigin hjournal,
    ambiguity_accepted_iff hcovers hmatches horigin hjournal, ?_⟩
  intro rewrite hrewrite entered hentered lease resume hlease hvalue hresume
  have hnext := prepare_next hrewrite (enter_written hmatches horigin hjournal)
  exact resume_restores horigin (hentered.trans hnext) hlease hvalue hresume

namespace Sample

/-- The proof that an observation of the record is ambiguous. -/
def ambiguity (current : StoredV1Record artifacts) (origin : RecoveryOriginStateV1) :
    BoundValue RecoveryOriginStateV1 :=
  BoundValue.new current "@operation" "enter_recovery" "ambiguous" origin

def recoveringAwaiting : StoredV1Record artifacts :=
  ⟨recovering awaiting.record .awaitingResolution, "1", location, by decide +kernel⟩

def verified : BoundValue RecoveryOriginStateV1 :=
  BoundValue.new recoveringAwaiting "@operation" "resume_recovery" "verified" .awaitingResolution

/-- The merge of the second member is being prepared after the first met a conflict. -/
def conflictedAndPlanned : StoredV1Record artifacts :=
  ⟨record .executing (conflictedRow "a") (row "b"), "0", location, by decide +kernel⟩

def allUpToDate : StoredV1Record artifacts :=
  ⟨record .executing (upToDateRow "a") (upToDateRow "b"), "0", location, by decide +kernel⟩

/-- A resolution failed before the second member was reached. -/
def failedAndPlanned : StoredV1Record artifacts :=
  ⟨record .executing (failedResolutionRow "a") (row "b"), "0", location, by decide +kernel⟩

end Sample

/-- A merge that waits for a resolution is interrupted and taken up where it was. -/
theorem awaiting_ambiguity_is_resumed :
    ambiguityIsRepresentable Sample.awaiting.record = true
      ∧ ambiguous Sample.awaiting (Sample.ambiguity Sample.awaiting .awaitingResolution)
        = .ok (.apply (.recovery (.enter (Sample.ambiguity Sample.awaiting .awaitingResolution))))
      ∧ ∃ rewrite restored,
        prepare Sample.lease Sample.awaiting
            (.recovery (.enter (Sample.ambiguity Sample.awaiting .awaitingResolution)))
          = .ok rewrite
        ∧ prepare Sample.lease Sample.recoveringAwaiting (.recovery (.resume Sample.verified))
          = .ok restored
        ∧ restored.next = stamp Sample.awaiting.record := by
  have hrepresentable : ambiguityIsRepresentable Sample.awaiting.record = true := by
    decide +kernel
  obtain ⟨hanswer, haccepted, hresumed⟩ := ambiguity_is_durable_and_resumed Sample.awaiting
    Sample.lease (Sample.ambiguity Sample.awaiting .awaitingResolution) (by decide +kernel)
    (by decide +kernel) (by decide +kernel) (by decide +kernel)
  obtain ⟨rewrite, hrewrite⟩ := haccepted.mpr hrepresentable
  have hentered : Sample.recoveringAwaiting.record = rewrite.next :=
    (prepare_next hrewrite rfl).symm
  obtain ⟨restored, hrestored, hback⟩ := hresumed rewrite hrewrite Sample.recoveringAwaiting
    hentered Sample.lease Sample.verified (by decide +kernel) rfl (by decide +kernel)
  exact ⟨hrepresentable, hanswer, rewrite, restored, hrewrite, hrestored, hback⟩

/-- An ambiguity is refused while a conflict stands and a row is still planned, once every
row is integrated, and when a failed resolution leaves a row planned. -/
theorem refused_ambiguities :
    (∀ current ∈ [Sample.conflictedAndPlanned, Sample.allUpToDate],
      ambiguous current (Sample.ambiguity current .executing)
          = .ok (.apply (.recovery (.enter (Sample.ambiguity current .executing))))
        ∧ prepare Sample.lease current (.recovery (.enter (Sample.ambiguity current .executing)))
          = .error (recoveryError current.record))
    ∧ (ambiguous Sample.failedAndPlanned (Sample.ambiguity Sample.failedAndPlanned .executing)
          = .ok (.apply (.operation .halt))
        ∧ prepare Sample.lease Sample.failedAndPlanned (.operation .halt)
          = .error (lifecycleError Sample.failedAndPlanned.record)) := by
  refine ⟨?_, rfl, by decide +kernel⟩
  intro current hcurrent
  simp only [mem_cons, not_mem_nil, or_false] at hcurrent
  rcases hcurrent with rfl | rfl
  · exact ⟨rfl, by decide +kernel⟩
  · exact ⟨rfl, by decide +kernel⟩

end GwzCore.Merge
