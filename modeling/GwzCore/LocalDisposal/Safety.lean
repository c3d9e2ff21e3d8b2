import GwzCore.LocalDisposal.Protocol

/-!
# What a disposal guarantees

The directory goes at most once, and only after everything that permits it was found; keep
touches no port; the pointer goes before the row and the row after the directory; and the
effects reported are those that happened. Two answers are outside of this. An unknown that
carries no reason is counted as nothing, so that a target whose history was never
established is removed. And the effects that a store operation completed before it failed
are left out of the report.
-/
namespace GwzCore.LocalDisposal
open FamilyModel HistoryCheck HostPath WorkDetector List Nat Call

variable {reason : RemovalReason} {name : MemberName} {answer : Except StoreError AppliedChange}
  {waivers : List HazardWaiver}

/-! ### The answers of the host -/

/-- What is unknown has a reason. -/
def Reasoned {α : Type} : Observation α → Bool
  | .known _ => true
  | .unknown reasons => !reasons.isEmpty

/-- Every unknown that a port answers has a reason. -/
def Call.reasoned : Call → Bool
  | .observeTarget _ (.ok evidence) =>
    evidence.repositories.all fun repository =>
      Reasoned repository.work && Reasoned repository.history
  | .checkHistory _ (.unknown reasons) => !reasons.isEmpty
  | _ => true

/-- A store operation that fails has completed nothing. -/
def Call.whole : Call → Bool
  | .apply _ (.error (.partialEffects ..)) | .removePointer _ (.error (.partialEffects ..)) => false
  | _ => true

/-- The metadata effects of a store operation, whether or not it failed. -/
def completed : Except StoreError AppliedChange → List MetadataEffect
  | .ok applied => applied.effects
  | .error (.partialEffects _ effects _ _) => effects
  | .error _ => []

/-- The index was written. -/
def written : Except StoreError AppliedChange → Bool
  | .ok _ => true
  | .error error => (completed (.error error)).contains .indexWritten

/-- What a call did to the member. -/
def happened : Call → List DisposeEffect
  | .apply (.markDisposing ..) answer => if written answer then [.rowDisposing] else []
  | .apply (.removeRow _ reason) answer => if written answer then [rowEffect reason] else []
  | .removePointer _ answer =>
    if (completed answer).any MetadataEffect.removesPointer then [.pointerRemoved] else []
  | .removeDirectory _ (.ok _) => [.directoryRemoved]
  | _ => []

def Call.isRemoval : Call → Bool
  | .removeDirectory .. => true
  | _ => false

/-! ### The guarantees -/

/-- Nothing of a repository is unknown, it lies in the target, and every loss is waived. -/
structure Settled (target : Path) (evidence : TargetEvidence) (waivers : List HazardWaiver)
    (before : List Call) (repository : RepositoryEvidence) : Prop where
  inside : ∀ directory ∈ repository.info.directories, target <+: resolve directory.2
  work : ∃ observation, repository.work = .known observation ∧
    Established observation repository.gwz
  hazards : ∀ hazard ∈ (workReport evidence repository).hazards, hazard.provenance.refuses = true →
    ∃ waiver ∈ waivers, waiverOf hazard = some waiver
  history : ∃ protectedRoots answer, repository.history = .known protectedRoots ∧
    Call.checkHistory ⟨repository.key, protectedRoots⟩ answer ∈ before ∧
    (answer = .preserved ∨
      ∃ detail, answer = .unpreserved detail ∧ HazardWaiver.unpreservedHistory ∈ waivers)

/-- What permits the removal of a directory: the calls before it. -/
structure Removable (request : DisposeRequest) (target : Path) (before : List Call)
    (waivers : List HazardWaiver) (row : MemberRow) (evidence : TargetEvidence) : Prop where
  policy : request.policy = .delete waivers
  recorded : ∃ view, Call.reread (.ok (some view)) ∈ before ∧
    view.members[request.name]? = some row
  ready : row.state = .ready
  directory : target = directoryOf request.root row.path
  root : HostPath.Apart target (resolve request.root)
  cwd : ¬ target <+: resolve request.cwd
  observed : Call.observeTarget target (.ok evidence) ∈ before
  matching : evidence.target = .present .matches .matches
  known : evidence.unknown = []
  repositories : evidence.repositories ≠ []
  settled : ∀ repository ∈ evidence.repositories, Settled target evidence waivers before repository
  marked : ∃ applied,
    before.getLast? = some (.apply (.markDisposing request.name row.allocationId) (.ok applied))

structure Guarded (request : DisposeRequest) (calls : List Call) (effects : List DisposeEffect) :
    Prop where
  once : calls.countP Call.isRemoval ≤ 1
  removal :
    ∀ before after target answer, calls = before ++ .removeDirectory target answer :: after →
    ∃ waivers row evidence, Removable request target before waivers row evidence
  keep : request.policy = .keep → ∀ call ∈ calls, call.isPort = false
  row : ∀ before after name reason answer,
    calls = before ++ .apply (.removeRow name reason) answer :: after →
      name = request.name ∧
      (∃ applied, before.getLast? = some (.removePointer request.name (.ok applied))) ∧
      (request.policy ≠ .keep → (∃ target, Call.removeDirectory target (.ok ()) ∈ before) ∨
        ∃ target evidence, Call.observeTarget target (.ok evidence) ∈ before ∧
          evidence.target = .missing)
  effects : effects = calls.flatMap happened

/-! ### Positions in a sequence -/

section Sequences
variable {request : DisposeRequest} {calls before after : List Call} {effects : List DisposeEffect}
  {call : Call}

/-- A call that does not read stands after the readings. -/
lemma split_reads {tail : List Call} (h : calls ++ tail = before ++ call :: after)
    (hreads : ∀ other ∈ calls, other.reads = true) (hcall : call.reads = false) :
    ∃ middle, before = calls ++ middle ∧ tail = middle ++ call :: after := by
  rcases append_eq_append_iff.mp h with ⟨middle, hbefore, htail⟩ | ⟨middle, hcalls, hrest⟩
  · exact ⟨middle, hbefore, htail⟩
  · cases middle with
    | nil =>
      rw [append_nil] at hcalls
      exact ⟨[], by rw [hcalls, append_nil], hrest.symm⟩
    | cons =>
      obtain ⟨rfl, -⟩ := cons.inj hrest
      have hread := hreads call (by simp [hcalls])
      rw [hcall] at hread
      cases hread

lemma Detached.no_removal (h : Detached name reason calls effects) :
    ∀ other ∈ calls, other.isRemoval = false := by
  cases h <;> simp [isRemoval]

/-- The row of a detachment goes right after its pointer. -/
lemma Detached.row_call {other : MemberName} {given : RemovalReason}
    (h : Detached name reason (before ++ .apply (.removeRow other given) answer :: after) effects) :
    other = name ∧ ∃ applied, before = [.removePointer name (.ok applied)] := by
  generalize hcalls : before ++ .apply (.removeRow other given) answer :: after = calls at h
  cases h with
  | pointer =>
    cases before with
    | nil | cons => simp at hcalls
  | row applied | done applied =>
    cases before with
    | nil => simp at hcalls
    | cons first rest =>
      cases rest with
      | nil =>
        simp only [cons_append, nil_append, cons.injEq, apply.injEq,
          FamilyChange.removeRow.injEq] at hcalls
        exact ⟨hcalls.2.1.1.1, applied, by rw [hcalls.1]⟩
      | cons => simp at hcalls

lemma countP_reads (h : ∀ other ∈ calls, other.reads = true) : calls.countP isRemoval = 0 := by
  rw [countP_eq_zero]
  intro other hother
  have hread := h other hother
  cases other <;> simp_all [reads, isRemoval]

lemma Detached.countP_eq (h : Detached name reason calls effects) :
    calls.countP isRemoval = 0 := by
  rw [countP_eq_zero]
  intro other hother
  simp [h.no_removal other hother]

lemma Disposal.once (h : Disposal request calls effects) : calls.countP isRemoval ≤ 1 := by
  cases h with
  | refused _ hreads => rw [countP_reads hreads]; exact zero_le 1
  | kept view after _ _ hafter => rw [countP_cons, hafter.countP_eq]; exact zero_le 1
  | stale calls after _ _ _ hreads _ hafter =>
    rw [countP_append, countP_reads hreads, hafter.countP_eq]
    exact zero_le 1
  | unmarked calls _ _ _ hcleared =>
    rw [countP_append, countP_reads hcleared.reads]
    exact zero_le 1
  | unremoved calls _ _ _ _ hcleared =>
    rw [countP_append, countP_reads hcleared.reads]
    exact le_rfl
  | removed calls after _ _ _ _ hcleared hafter =>
    rw [countP_append, countP_reads hcleared.reads, countP_cons, countP_cons,
      hafter.countP_eq]
    exact le_rfl

/-- What was cleared is settled, when every unknown has a reason. -/
lemma Passed.settled {plan : Plan} {evidence : TargetEvidence} {repository : RepositoryEvidence}
    (h : Passed plan evidence waivers calls repository) (hwork : Reasoned repository.work = true)
    (hhistory : Reasoned repository.history = true)
    (hanswers : ∀ other ∈ calls, other.reasoned = true) {later : List Call}
    (hlater : calls ⊆ later) : Settled plan.target evidence waivers later repository where
  inside := h.inside
  work := by
    have hnone := h.work
    rw [workReport] at hnone
    cases hobserved : repository.work with
    | known observation =>
      rw [hobserved] at hnone
      exact ⟨observation, rfl, established_of_unknown_eq_nil hnone⟩
    | unknown reasons =>
      rw [hobserved] at hnone hwork
      rw [classifyObservedWorkAgainst, finish_unknown_eq_nil] at hnone
      obtain ⟨reason, hreason⟩ := exists_mem_of_ne_nil reasons (by simpa [Reasoned] using hwork)
      have hreported := hnone (.unknown reason)
        (mem_append_left _ (mem_map_of_mem hreason))
      cases hreported
  hazards := h.hazards
  history := by
    cases hobserved : repository.history with
    | unknown reasons =>
      rw [hobserved, h.unknown reasons hobserved] at hhistory
      cases hhistory
    | known protectedRoots =>
      obtain ⟨answer, hasked, hunpreserved, hunknown⟩ := h.history protectedRoots hobserved
      refine ⟨protectedRoots, answer, rfl, hlater hasked, ?_⟩
      cases answer with
      | preserved => exact .inl rfl
      | unpreserved detail => exact .inr ⟨detail, rfl, hunpreserved detail rfl⟩
      | unknown reasons =>
        have hreasoned := hanswers _ hasked
        rw [hunknown reasons rfl] at hreasoned
        cases hreasoned

lemma Cleared.removable {plan : Plan} (h : Cleared request waivers plan calls)
    (hanswers : ∀ other ∈ calls, other.reasoned = true) (marked : AppliedChange) :
    ∃ evidence, Removable request plan.target
      (calls ++ [.apply (mark request plan) (.ok marked)]) waivers plan.row evidence := by
  obtain ⟨view, hread, hplanned⟩ := h.planned
  obtain ⟨evidence, hobserved, htarget, hknown, hsome, hpassed⟩ := h.observed
  refine ⟨evidence, h.policy, ⟨view, mem_append_left _ hread, hplanned.row⟩, h.ready,
    hplanned.target, hplanned.root, hplanned.cwd, mem_append_left _ hobserved, htarget,
    hknown, hsome, ?_, marked, getLast?_concat⟩
  intro repository hrepository
  have hreasoned := hanswers _ hobserved
  simp only [reasoned, all_eq_true, Bool.and_eq_true] at hreasoned
  obtain ⟨hwork, hhistory⟩ := hreasoned repository hrepository
  exact (hpassed repository hrepository).settled hwork hhistory hanswers (subset_append_left _ _)

lemma Disposal.removal (h : Disposal request calls effects)
    (hanswers : ∀ other ∈ calls, other.reasoned = true) {target : Path}
    {answer : Except RemovalFailure Unit}
    (hcalls : calls = before ++ .removeDirectory target answer :: after) :
    ∃ waivers row evidence, Removable request target before waivers row evidence := by
  cases h with
  | refused _ hreads =>
    have hread := hreads (.removeDirectory target answer) (by simp [hcalls])
    cases hread
  | kept view later _ _ hlater =>
    cases before with
    | nil => simp at hcalls
    | cons =>
      have hnone := hlater.no_removal (.removeDirectory target answer)
        (by rw [(cons.inj hcalls).2]; simp)
      cases hnone
  | stale calls later _ _ _ hreads _ hlater =>
    obtain ⟨middle, -, htail⟩ := split_reads hcalls hreads rfl
    have hnone := hlater.no_removal (.removeDirectory target answer) (by simp [htail])
    cases hnone
  | unmarked calls _ plan error hcleared =>
    obtain ⟨middle, -, htail⟩ := split_reads hcalls hcleared.reads rfl
    cases middle <;> simp at htail
  | unremoved calls waivers plan marked failure hcleared =>
    obtain ⟨middle, rfl, htail⟩ := split_reads hcalls hcleared.reads rfl
    rcases middle with _ | ⟨first, _ | ⟨second, rest⟩⟩
    · simp at htail
    · simp only [cons_append, nil_append, cons.injEq, removeDirectory.injEq]
        at htail
      obtain ⟨rfl, ⟨rfl, -⟩, -⟩ := htail
      obtain ⟨evidence, hremovable⟩ := hcleared.removable
        (fun other hother => hanswers other (mem_append_left _ hother)) marked
      exact ⟨waivers, plan.row, evidence, hremovable⟩
    · simp at htail
  | removed calls later _ waivers plan marked hcleared hlater =>
    obtain ⟨middle, rfl, htail⟩ := split_reads hcalls hcleared.reads rfl
    rcases middle with _ | ⟨first, _ | ⟨second, rest⟩⟩
    · simp at htail
    · simp only [cons_append, nil_append, cons.injEq, removeDirectory.injEq]
        at htail
      obtain ⟨rfl, ⟨rfl, -⟩, -⟩ := htail
      obtain ⟨evidence, hremovable⟩ := hcleared.removable
        (fun other hother => hanswers other (mem_append_left _ hother)) marked
      exact ⟨waivers, plan.row, evidence, hremovable⟩
    · simp only [cons_append, cons.injEq] at htail
      have hnone := hlater.no_removal (.removeDirectory target answer) (by simp [htail.2.2])
      cases hnone

lemma Disposal.keep (h : Disposal request calls effects) (hpolicy : request.policy = .keep) :
    ∀ other ∈ calls, other.isPort = false := by
  have hdelete : ∀ waivers, request.policy ≠ .delete waivers := by
    intro waivers hdelete
    cases hpolicy.symm.trans hdelete
  cases h with
  | refused _ _ hkeep => exact hkeep hpolicy
  | kept view later _ _ hlater => cases hlater <;> simp [isPort]
  | stale _ _ _ waivers hother => exact absurd hother (hdelete waivers)
  | unmarked _ waivers _ _ hcleared | unremoved _ waivers _ _ _ hcleared
  | removed _ _ _ waivers _ _ hcleared =>
    exact absurd hcleared.policy (hdelete waivers)

lemma Disposal.row (h : Disposal request calls effects)
    (hcalls : calls = before ++ .apply (.removeRow name reason) answer :: after) :
    name = request.name ∧
    (∃ applied, before.getLast? = some (.removePointer request.name (.ok applied))) ∧
    (request.policy ≠ .keep → (∃ target, Call.removeDirectory target (.ok ()) ∈ before) ∨
      ∃ target evidence, Call.observeTarget target (.ok evidence) ∈ before ∧
        evidence.target = .missing) := by
  cases h with
  | refused _ hreads =>
    have hread := hreads (.apply (.removeRow name reason) answer) (by simp [hcalls])
    cases hread
  | kept view later _ hpolicy hlater =>
    cases before with
    | nil => simp at hcalls
    | cons =>
      rw [(cons.inj hcalls).2] at hlater
      obtain ⟨rfl, applied, rfl⟩ := hlater.row_call
      exact ⟨rfl, ⟨applied, rfl⟩, fun hne => absurd hpolicy hne⟩
  | stale calls later _ _ _ hreads hmissing hlater =>
    obtain ⟨middle, rfl, rfl⟩ := split_reads hcalls hreads rfl
    obtain ⟨rfl, applied, rfl⟩ := hlater.row_call
    obtain ⟨target, evidence, hobserved, hgone⟩ := hmissing
    exact ⟨rfl, ⟨applied, getLast?_concat⟩,
      fun _ => .inr ⟨target, evidence, mem_append_left _ hobserved, hgone⟩⟩
  | unmarked calls _ plan error hcleared =>
    obtain ⟨middle, -, htail⟩ := split_reads hcalls hcleared.reads rfl
    cases middle <;> simp [mark] at htail
  | unremoved calls _ plan marked failure hcleared =>
    obtain ⟨middle, -, htail⟩ := split_reads hcalls hcleared.reads rfl
    rcases middle with _ | ⟨first, _ | ⟨second, rest⟩⟩ <;> simp [mark] at htail
  | removed calls later _ waivers plan marked hcleared hlater =>
    obtain ⟨middle, rfl, htail⟩ := split_reads hcalls hcleared.reads rfl
    rcases middle with _ | ⟨first, _ | ⟨second, rest⟩⟩
    · simp [mark] at htail
    · simp at htail
    · simp only [cons_append, cons.injEq] at htail
      obtain ⟨rfl, rfl, rfl⟩ := htail
      obtain ⟨rfl, applied, rfl⟩ := hlater.row_call
      refine ⟨rfl, ⟨applied, ?_⟩, fun _ => .inl ⟨plan.target, ?_⟩⟩
      · simp
      · simp

/-! ### Effects -/

lemma happened_reads (h : ∀ other ∈ calls, other.reads = true) : calls.flatMap happened = [] := by
  rw [flatMap_eq_nil_iff]
  intro other hother
  have hread := h other hother
  cases other with
  | reread | observeTarget | checkHistory => rfl
  | apply | removePointer | removeDirectory => cases hread

@[simp] lemma completed_ok (applied : AppliedChange) :
    completed (.ok applied) = applied.effects := rfl

lemma completed_error (error : StoreError) (h : ∀ operation effects path detail,
    error ≠ .partialEffects operation effects path detail) : completed (.error error) = [] := by
  cases error with
  | partialEffects operation effects path detail =>
    exact absurd rfl (h operation effects path detail)
  | _ => rfl

lemma Detached.effects_eq (h : Detached name reason calls effects)
    (hwhole : ∀ other ∈ calls, other.whole = true) : effects = calls.flatMap happened := by
  cases h with
  | pointer error =>
    have hcall := hwhole _ mem_cons_self
    have hempty := completed_error error (by rintro _ _ _ _ rfl; cases hcall)
    simp [happened, hempty]
  | row applied error =>
    have hcall := hwhole (.apply (.removeRow name reason) (.error error)) (by simp)
    have hempty := completed_error error (by rintro _ _ _ _ rfl; cases hcall)
    simp [happened, written, hempty, pointerEffects]
  | done => simp [happened, written, pointerEffects]

lemma Disposal.effects_eq (h : Disposal request calls effects)
    (hwhole : ∀ other ∈ calls, other.whole = true) : effects = calls.flatMap happened := by
  cases h with
  | refused _ hreads => exact (happened_reads hreads).symm
  | kept view later _ _ hlater =>
    have hrest := hlater.effects_eq fun other hother => hwhole other (mem_cons_of_mem _ hother)
    rw [hrest]
    rfl
  | stale calls later _ _ _ hreads _ hlater =>
    have hrest := hlater.effects_eq fun other hother => hwhole other (mem_append_right _ hother)
    rw [hrest, flatMap_append, happened_reads hreads, nil_append]
  | unmarked calls _ plan error hcleared =>
    have hcall := hwhole (.apply (mark request plan) (.error error)) (by simp)
    have hempty := completed_error error (by rintro _ _ _ _ rfl; cases hcall)
    rw [flatMap_append, happened_reads hcleared.reads]
    simp [happened, written, hempty, mark]
  | unremoved calls _ plan marked failure hcleared =>
    rw [flatMap_append, happened_reads hcleared.reads]
    rfl
  | removed calls later _ waivers plan marked hcleared hlater =>
    have hrest := hlater.effects_eq fun other hother => hwhole other (by simp [hother])
    rw [hrest, flatMap_append, happened_reads hcleared.reads]
    rfl

end Sequences

namespace Sample

/-- Evidence of one repository in `/a/b/ws-A` without unsaved work. -/
def evidence (history : Observation ProtectedRoots) : TargetEvidence :=
  let directory := directoryOf root "../ws-A"
  ⟨.present .matches .matches,
    [⟨.root, ⟨directory, directory, directory⟩, .known ⟨[], [], [], none, 0, []⟩,
      ⟨.none, .none, []⟩, history⟩], none, []⟩

/-- A host where everything works, up to what it says of the history and of the pointer. -/
def scripted (history : Observation ProtectedRoots) (pointer : Except StoreError AppliedChange) :
    Host Unit where
  root := root
  reread := fun _ => (.ok (some (family "../ws-A" "../ws-B")), ())
  apply := fun _ _ => (.ok ⟨[.indexWritten], none⟩, ())
  removePointer := fun _ _ => (pointer, ())
  observeTarget := fun _ _ => (.ok (evidence history), ())
  checkHistory := fun _ _ => (.preserved, ())
  removeDirectory := fun _ _ => (.ok (), ())

/-- The pointer is removed and the marker is not. -/
def markerStays : StoreError :=
  .partialEffects .removeMarker [.pointerRemoved (directoryOf root "../ws-A")]
    (directoryOf root "../ws-A") "permission denied"

end Sample

end GwzCore.LocalDisposal
