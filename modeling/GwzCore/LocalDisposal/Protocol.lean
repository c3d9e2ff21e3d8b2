import GwzCore.LocalDisposal.Dispose

/-!
# The disposal protocol

What the calls of a disposal look like from outside, whatever the host answers: readings of
the index and of the evidence, and after them, if everything needed was found, the mark,
the one removal and the detachment, cut short where a call fails. `Disposal` says which
sequences of calls there are and which effects are reported with each, and `dispose` only
makes these. The guarantees of a disposal are then read off the sequences.
-/
namespace GwzCore.LocalDisposal
open FamilyModel HistoryCheck HostPath Stopping WorkDetector List Triple

variable {evidence : TargetEvidence} {repository : RepositoryEvidence} {plan : Plan}
  {waivers : List HazardWaiver} {found : Findings} {p : List Call → List DisposeEffect → Prop}
  {target : TargetObservation}

/-! ### Sequences of calls -/

/-- A call that reads. -/
def Call.reads : Call → Bool
  | .reread _ | .observeTarget .. | .checkHistory .. => true
  | .apply .. | .removePointer .. | .removeDirectory .. => false

/-- A call of a disposal port. -/
def Call.isPort : Call → Bool
  | .observeTarget .. | .checkHistory .. | .removeDirectory .. => true
  | .reread _ | .apply .. | .removePointer .. => false

/-- What a repository inside the target had to satisfy: its directories lie in the target,
its work has no unknown reason and no refusing hazard without its waiver, and so its history. -/
structure Passed (plan : Plan) (evidence : TargetEvidence) (waivers : List HazardWaiver)
    (calls : List Call) (repository : RepositoryEvidence) : Prop where
  inside : ∀ directory ∈ repository.info.directories, plan.target <+: resolve directory.2
  work : (workReport evidence repository).unknown = []
  hazards : ∀ hazard ∈ (workReport evidence repository).hazards, hazard.provenance.refuses = true →
    ∃ waiver ∈ waivers, waiverOf hazard = some waiver
  unknown : ∀ reasons, repository.history = .unknown reasons → reasons = []
  history : ∀ protectedRoots, repository.history = .known protectedRoots →
    ∃ answer, Call.checkHistory ⟨repository.key, protectedRoots⟩ answer ∈ calls ∧
      (∀ detail, answer = .unpreserved detail → HazardWaiver.unpreservedHistory ∈ waivers) ∧
      ∀ reasons, answer = .unknown reasons → reasons = []

/-- The readings before a removal. -/
structure Cleared (request : DisposeRequest) (waivers : List HazardWaiver) (plan : Plan)
    (calls : List Call) : Prop where
  policy : request.policy = .delete waivers
  reads : ∀ call ∈ calls, call.reads = true
  planned : ∃ view, Call.reread (.ok (some view)) ∈ calls ∧ Planned request view plan
  ready : plan.row.state = .ready
  observed : ∃ evidence, Call.observeTarget plan.target (.ok evidence) ∈ calls ∧
    evidence.target = .present .matches .matches ∧ evidence.unknown = [] ∧
    evidence.repositories ≠ [] ∧
    ∀ repository ∈ evidence.repositories, Passed plan evidence waivers calls repository

/-- The effect of a pointer removal that succeeded. -/
def pointerEffects (applied : AppliedChange) : List DisposeEffect :=
  if applied.effects.any MetadataEffect.removesPointer then [.pointerRemoved] else []

/-- The detachment of a row, with the effects reported for it. -/
inductive Detached (name : MemberName) (reason : RemovalReason) :
    List Call → List DisposeEffect → Prop where
  | pointer (error : StoreError) : Detached name reason [.removePointer name (.error error)] []
  | row (applied : AppliedChange) (error : StoreError) :
      Detached name reason
        [.removePointer name (.ok applied), .apply (.removeRow name reason) (.error error)]
        (pointerEffects applied)
  | done (applied removed : AppliedChange) :
      Detached name reason
        [.removePointer name (.ok applied), .apply (.removeRow name reason) (.ok removed)]
        (pointerEffects applied ++ [rowEffect reason])

/-- The mark of a row that is about to go. -/
def mark (request : DisposeRequest) (plan : Plan) : FamilyChange :=
  .markDisposing request.name plan.row.allocationId

/-- The calls of a disposal and the effects reported for them. -/
inductive Disposal (request : DisposeRequest) : List Call → List DisposeEffect → Prop where
  | refused (calls : List Call) (hreads : ∀ call ∈ calls, call.reads = true)
      (hkeep : request.policy = .keep → ∀ call ∈ calls, call.isPort = false) :
      Disposal request calls []
  | kept (view : FamilyView) (after : List Call) (effects : List DisposeEffect)
      (hpolicy : request.policy = .keep) (hafter : Detached request.name .keep after effects) :
      Disposal request (.reread (.ok (some view)) :: after) effects
  | stale (calls after : List Call) (effects : List DisposeEffect) (waivers : List HazardWaiver)
      (hpolicy : request.policy = .delete waivers) (hreads : ∀ call ∈ calls, call.reads = true)
      (hmissing : ∃ plan evidence, Call.observeTarget plan (.ok evidence) ∈ calls ∧
        evidence.target = .missing)
      (hafter : Detached request.name .stale after effects) :
      Disposal request (calls ++ after) effects
  | unmarked (calls : List Call) (waivers : List HazardWaiver) (plan : Plan) (error : StoreError)
      (hcleared : Cleared request waivers plan calls) :
      Disposal request (calls ++ [.apply (mark request plan) (.error error)]) []
  | unremoved (calls : List Call) (waivers : List HazardWaiver) (plan : Plan)
      (marked : AppliedChange) (failure : RemovalFailure)
      (hcleared : Cleared request waivers plan calls) :
      Disposal request
        (calls ++ [.apply (mark request plan) (.ok marked),
          .removeDirectory plan.target (.error failure)])
        [.rowDisposing]
  | removed (calls after : List Call) (effects : List DisposeEffect) (waivers : List HazardWaiver)
      (plan : Plan) (marked : AppliedChange) (hcleared : Cleared request waivers plan calls)
      (hafter : Detached request.name .disposed after effects) :
      Disposal request
        (calls ++ (.apply (mark request plan) (.ok marked) ::
          .removeDirectory plan.target (.ok ()) :: after))
        ([.rowDisposing, .directoryRemoved] ++ effects)

/-! ### The calls that are made -/

section Calls
variable {σ α : Type} {host : Host σ} {request : DisposeRequest} {calls : List Call}
  {effects : List DisposeEffect} {R : DisposeError → World σ → Prop}

/-- The calls made and the effects noted so far. -/
def Noted (calls : List Call) (effects : List DisposeEffect) (world : World σ) : Prop :=
  world.calls = calls ∧ world.effects = effects

/-- The calls and effects satisfy `p`. -/
def NotedSome (p : List Call → List DisposeEffect → Prop) (world : World σ) : Prop :=
  p world.calls world.effects

lemma ask_noted {call : σ → α × σ} {kept : α → Call} :
    Triple (Noted calls effects) (ask call kept)
      (fun answer => Noted (calls ++ [kept answer]) effects) R := by
  intro world hworld
  constructor
  · intro answer next hask
    cases hask
    exact ⟨by rw [← hworld.1], hworld.2⟩
  · intro error next hask
    cases hask

lemma report_noted {effect : DisposeEffect} :
    Triple (Noted calls effects : World σ → Prop) (report effect)
      (fun _ => Noted calls (effects ++ [effect])) R :=
  modify fun world hworld => ⟨hworld.1, by rw [← hworld.2]⟩

/-- A call of the store goes on with its answer or stops with its error. -/
lemma store_noted {β : Type} {Q : β → World σ → Prop} {call : σ → Except StoreError α × σ}
    {kept : Except StoreError α → Call} {f : α → Disposing σ β}
    (herror : ∀ error, p (calls ++ [kept (.error error)]) effects)
    (hok : ∀ value, Triple (Noted (calls ++ [kept (.ok value)]) effects) (f value) Q
      fun _ => NotedSome p) :
    Triple (Noted calls effects) (ask call kept >>= fun answer => storeAnswer answer >>= f) Q
      fun _ => NotedSome p := by
  refine bind ask_noted fun answer => ?_
  cases answer with
  | ok value => simpa [storeAnswer] using hok value
  | error error =>
    refine bind (throw fun world hworld => ?_) fun value => hok value
    rw [NotedSome, hworld.1, hworld.2]
    exact herror error

/-- A detachment makes its calls in order. -/
lemma detach_noted (reason : RemovalReason)
    (hp : ∀ after more, Detached request.name reason after more →
      p (calls ++ after) (effects ++ more)) :
    Triple (Noted calls effects) (detach host request reason) (fun _ => NotedSome p)
      fun _ => NotedSome p := by
  refine store_noted (fun error => ?_) fun applied => ?_
  · have hdetached := hp _ _ (.pointer error)
    rwa [append_nil] at hdetached
  -- what follows the pointer is the same whether or not its removal is an effect
  have hrow : Triple (Noted (calls ++ [.removePointer request.name (.ok applied)])
      (effects ++ pointerEffects applied) : World σ → Prop)
      (applyChange host (.removeRow request.name reason) >>= fun answer =>
        storeAnswer answer >>= fun _ => report (rowEffect reason))
      (fun _ => NotedSome p) fun _ => NotedSome p := by
    refine store_noted (fun error => ?_) fun removed => ?_
    · rw [append_assoc]
      exact hp _ _ (.row applied error)
    · refine report_noted.weaken (fun _ h => h) fun _ world hworld => ?_
      rw [NotedSome, hworld.1, hworld.2, append_assoc, append_assoc]
      exact hp _ _ (.done applied removed)
  refine ite (fun hremoved => ?_) (fun hkept => ?_)
  · rw [pointerEffects, if_pos hremoved] at hrow
    exact bind report_noted fun _ => hrow
  · rw [pointerEffects, if_neg hkept, append_nil] at hrow
    exact hrow

/-- The mark, the removal and the detachment. -/
lemma remove_noted (hcleared : Cleared request waivers plan calls) :
    Triple (Noted calls []) (remove host request plan) (fun _ => NotedSome (Disposal request))
      fun _ => NotedSome (Disposal request) := by
  refine store_noted (fun error => .unmarked calls waivers plan error hcleared) fun marked => ?_
  refine bind report_noted fun _ => ?_
  refine bind ask_noted fun answer => ?_
  cases answer with
  | error failure =>
    refine throw fun world hworld => ?_
    rw [NotedSome, hworld.1, hworld.2, append_assoc]
    exact .unremoved calls waivers plan marked failure hcleared
  | ok removed =>
    refine bind report_noted fun _ => detach_noted _ fun after more hafter => ?_
    rw [append_assoc, append_assoc]
    exact .removed calls after more waivers plan marked hcleared hafter

/-! ### Inspection -/

/-- What a repository brings to the findings, whatever the history port answers. -/
structure Inspected (plan : Plan) (evidence : TargetEvidence) (calls : List Call) (found : Findings)
    (repository : RepositoryEvidence) : Prop where
  inside : ∀ directory ∈ repository.info.directories, plan.target <+: resolve directory.2
  work : (workFindings repository.key (workReport evidence repository)).unknown ⊆ found.unknown ∧
    (workFindings repository.key (workReport evidence repository)).findings ⊆ found.findings
  unknown : ∀ reasons, repository.history = .unknown reasons → reasons ⊆ found.unknown
  history : ∀ protectedRoots, repository.history = .known protectedRoots →
    ∃ answer, Call.checkHistory ⟨repository.key, protectedRoots⟩ answer ∈ calls ∧
      (historyFindings repository.key answer).unknown ⊆ found.unknown ∧
      (historyFindings repository.key answer).findings ⊆ found.findings

lemma checkInside_eq_ok :
    checkInside plan repository = .ok () ↔
      ∀ directory ∈ repository.info.directories, plan.target <+: resolve directory.2 := by
  rw [checkInside, Checks.checkAll_eq_ok]
  refine forall₂_congr fun directory _ => ?_
  rw [← startsWith_iff]
  simp only
  split_ifs with h <;> simp [h]

/-- Findings only grow. -/
lemma Inspected.mono {more : List Call} {later : Findings}
    (h : Inspected plan evidence calls found repository) (hcalls : calls ⊆ more)
    (hunknown : found.unknown ⊆ later.unknown) (hfindings : found.findings ⊆ later.findings) :
    Inspected plan evidence more later repository where
  inside := h.inside
  work := ⟨fun _ hr => hunknown (h.work.1 hr), fun _ hf => hfindings (h.work.2 hf)⟩
  unknown := fun reasons hreasons _ hr => hunknown (h.unknown reasons hreasons hr)
  history := by
    intro protectedRoots hknown
    obtain ⟨answer, hasked, hr, hf⟩ := h.history protectedRoots hknown
    exact ⟨answer, hcalls hasked, fun _ hm => hunknown (hr hm), fun _ hm => hfindings (hf hm)⟩

/-- Everything inspected so far, with nothing but readings made. -/
structure Inspecting (plan : Plan) (evidence : TargetEvidence) (start : List Call)
    (done : List RepositoryEvidence) (found : Findings) (calls : List Call)
    (effects : List DisposeEffect) : Prop where
  reads : ∀ call ∈ calls, call.reads = true
  kept : start ⊆ calls
  effects : effects = []
  inspected : ∀ repository ∈ done, Inspected plan evidence calls found repository

/-- A refusal while nothing but readings was made. -/
def Refused (calls : List Call) (effects : List DisposeEffect) : Prop :=
  (∀ call ∈ calls, call.reads = true) ∧ effects = []

lemma inspectRepository_noted {start : List Call} {done : List RepositoryEvidence} :
    Triple (NotedSome (Inspecting plan evidence start done found) : World σ → Prop)
      (inspectRepository host plan evidence found repository)
      (fun found => NotedSome (Inspecting plan evidence start (done ++ [repository]) found))
      fun _ => NotedSome Refused := by
  refine of_state fun world ⟨hreads, hkept, heffects, hinspected⟩ => ?_
  unfold inspectRepository
  cases hinside : checkInside plan repository with
  | error => exact stop ⟨hreads, heffects⟩
  | ok _ =>
    have hinside := checkInside_eq_ok.mp hinside
    -- what was found before and the work's own findings stay among all of them
    have hfound : ∀ {α : Type} {before work history : List α}, before ⊆ before ++ work ++ history ∧
        work ⊆ before ++ work ++ history := by
      simp [subset_append_of_subset_left]
    cases hhistory : repository.history with
    | unknown =>
      refine Triple.done ⟨hreads, hkept, heffects, ?_⟩
      intro other hother
      rcases mem_append.mp hother with hbefore | hlast
      · exact (hinspected other hbefore).mono (List.Subset.refl _) hfound.1 hfound.1
      · rw [mem_singleton.mp hlast]
        refine ⟨hinside, ⟨hfound.2, hfound.2⟩, ?_, by simp [hhistory]⟩
        intro given hgiven
        cases hhistory.symm.trans hgiven
        exact fun _ hm => mem_append_right _ hm
    | known =>
      refine step rfl (Triple.done ⟨?_, fun _ hm => mem_append_left _ (hkept hm), heffects, ?_⟩)
      · intro call hcall
        rcases mem_append.mp hcall with hbefore | hlast
        · exact hreads call hbefore
        · rw [mem_singleton.mp hlast]
          rfl
      intro other hother
      rcases mem_append.mp hother with hbefore | hlast
      · exact (hinspected other hbefore).mono (subset_append_left _ _) hfound.1 hfound.1
      · rw [mem_singleton.mp hlast]
        refine ⟨hinside, ⟨hfound.2, hfound.2⟩, by simp [hhistory], ?_⟩
        intro given hgiven
        cases hhistory.symm.trans hgiven
        exact ⟨_, mem_append_right _ (mem_singleton.mpr rfl),
          fun _ hm => mem_append_right _ hm, fun _ hm => mem_append_right _ hm⟩

lemma inspectAll_noted (start : List Call) (done rest : List RepositoryEvidence)
    (found : Findings) :
    Triple (NotedSome (Inspecting plan evidence start done found) : World σ → Prop)
      (inspectAll host plan evidence rest found)
      (fun found => NotedSome (Inspecting plan evidence start (done ++ rest) found))
      fun _ => NotedSome Refused := by
  induction rest generalizing done found with
  | nil =>
    rw [append_nil]
    exact pure fun _ h => h
  | cons repository rest ih =>
    refine bind inspectRepository_noted fun later => ?_
    have hrest := ih (done ++ [repository]) later
    rwa [append_assoc] at hrest

lemma eq_nil_of_subset {α : Type} {l m : List α} (h : l ⊆ m) (hm : m = []) : l = [] := by
  rw [hm] at h
  exact eq_nil_of_subset_nil h

/-- A repository that was inspected passed, when nothing is unknown and every refusing
finding is waived. -/
lemma Inspected.passed (h : Inspected plan evidence calls found repository)
    (hunknown : found.unknown = [])
    (hwaived : ∀ finding ∈ found.findings, finding.refuses = true → finding.waiver ∈ waivers) :
    Passed plan evidence waivers calls repository where
  inside := h.inside
  work := by
    have hnone := eq_nil_of_subset h.work.1 hunknown
    simp only [workFindings, append_eq_nil_iff] at hnone
    exact hnone.1.2
  hazards := by
    intro hazard hhazard hrefuses
    have hnone := eq_nil_of_subset h.work.1 hunknown
    simp only [workFindings, append_eq_nil_iff, filterMap_eq_nil_iff] at hnone
    have hcovered := hnone.2 hazard hhazard
    cases hwaiver : waiverOf hazard with
    | none => simp [hwaiver] at hcovered
    | some waiver =>
      refine ⟨waiver, ?_, rfl⟩
      -- the hazard stands in the group of its waiver, which refuses with it
      have hmem : hazard ∈ (workReport evidence repository).hazards.filter
          fun other => waiverOf other = some waiver := by
        rw [mem_filter]
        exact ⟨hhazard, by simp [hwaiver]⟩
      have hall : waiver ∈ HazardWaiver.all := by cases waiver <;> decide
      refine hwaived ⟨waiver, repository.key, (workReport evidence repository).hazards.filter
        fun other => waiverOf other = some waiver, none⟩ ?_ ?_
      · refine h.work.2 (mem_filterMap.mpr ⟨waiver, hall, ?_⟩)
        rw [if_neg (ne_nil_of_mem hmem)]
      · rw [HazardFinding.refuses, Bool.or_eq_true, any_eq_true]
        exact .inr ⟨hazard, hmem, hrefuses⟩
  unknown := fun reasons hreasons => eq_nil_of_subset (h.unknown reasons hreasons) hunknown
  history := by
    intro protectedRoots hknown
    obtain ⟨answer, hasked, hreasons, hfindings⟩ := h.history protectedRoots hknown
    refine ⟨answer, hasked, ?_, ?_⟩
    · rintro detail rfl
      exact hwaived _ (hfindings (mem_singleton.mpr rfl)) rfl
    · rintro reasons rfl
      exact eq_nil_of_subset hreasons hunknown

lemma inspect_noted (hreads : ∀ call ∈ calls, call.reads = true) :
    Triple (Noted calls [] : World σ → Prop) (inspect host plan evidence waivers)
      (fun _ => NotedSome fun later effects => effects = [] ∧ calls ⊆ later ∧
        (∀ call ∈ later, call.reads = true) ∧ evidence.repositories ≠ [] ∧
        ∀ repository ∈ evidence.repositories, Passed plan evidence waivers later repository)
      fun _ => NotedSome Refused := by
  have hrefused : ∀ world : World σ, Noted calls [] world → NotedSome Refused world :=
    fun world hworld => ⟨by rw [hworld.1]; exact hreads, hworld.2⟩
  unfold inspect
  refine guard (fun _ => hrefused) fun hsome => ?_
  have hsome : evidence.repositories ≠ [] := by simpa using hsome
  refine bind ((inspectAll_noted calls [] _ _).weaken (fun world hworld => ?_)
    fun _ _ h => h) fun found => ?_
  · rw [NotedSome, hworld.1, hworld.2]
    exact ⟨hreads, List.Subset.refl _, rfl, by simp⟩
  refine guard (fun _ world hworld => ⟨hworld.reads, hworld.effects⟩) fun hunknown => ?_
  refine guard (fun _ world hworld => ⟨hworld.reads, hworld.effects⟩) fun hwaived => ?_
  refine pure fun world hworld => ⟨hworld.effects, hworld.kept, hworld.reads, hsome, ?_⟩
  intro repository hrepository
  refine (hworld.inspected repository hrepository).passed (not_not.mp hunknown) ?_
  intro finding hfinding hrefuses
  by_contra hnamed
  exact hwaived (any_eq_true.mpr ⟨finding, mem_filter.mpr ⟨hfinding, by simpa using hnamed⟩,
    hrefuses⟩)

/-! ### The whole sequence -/

lemma classifyTarget_ready {row : MemberRow} (h : classifyTarget row (some target) = .ready) :
    row.state = .ready ∧ target = .present .matches .matches := by
  cases target with
  | missing | malformed => cases h
  | present pointer marker =>
    cases hstate : row.state <;> simp only [classifyTarget, hstate, reduceCtorEq] at h
    cases pointer <;> cases marker <;> first | exact ⟨rfl, rfl⟩ | cases h

lemma classifyTarget_missing {row : MemberRow} (h : classifyTarget row (some target) = .missing) :
    target = .missing := by
  cases target with
  | missing => rfl
  | malformed => cases h
  | present pointer marker =>
    cases hstate : row.state <;> simp only [classifyTarget, hstate, reduceCtorEq] at h
    cases pointer <;> cases marker <;> cases h

section Delete

/-- Refusing after readings is a disposal without effects. -/
lemma Refused.disposal (hpolicy : request.policy = .delete waivers) {world : World σ}
    (h : NotedSome Refused world) : NotedSome (Disposal request) world := by
  obtain ⟨hreads, heffects⟩ := h
  rw [NotedSome, heffects]
  refine .refused _ hreads fun hkeep => ?_
  rw [hpolicy] at hkeep
  cases hkeep

lemma refused_disposal {Q : α → World σ → Prop} {P : World σ → Prop} {x : Disposing σ α}
    (hpolicy : request.policy = .delete waivers) (h : Triple P x Q fun _ => NotedSome Refused) :
    Triple P x Q fun _ => NotedSome (Disposal request) := by
  intro world hworld
  obtain ⟨hok, herror⟩ := h world hworld
  exact ⟨hok, fun error next hx => Refused.disposal hpolicy (herror error next hx)⟩

section

variable (hpolicy : request.policy = .delete waivers) (hreads : ∀ call ∈ calls, call.reads = true)
  (hplanned : ∃ view, Call.reread (.ok (some view)) ∈ calls ∧ Planned request view plan)
include hpolicy hreads hplanned

lemma disposeObserved_noted (hobserved : Call.observeTarget plan.target (.ok evidence) ∈ calls) :
    Triple (Noted calls []) (disposeObserved host request waivers plan evidence)
      (fun _ => NotedSome (Disposal request)) fun _ => NotedSome (Disposal request) := by
  have hrefused : ∀ world : World σ, Noted calls [] world → NotedSome (Disposal request) world :=
    fun world hworld => Refused.disposal hpolicy ⟨by rw [hworld.1]; exact hreads, hworld.2⟩
  unfold disposeObserved
  refine guard (fun _ => hrefused) fun hunknown => ?_
  cases hstate : classifyTarget plan.row (some evidence.target) with
  | ready =>
    obtain ⟨hready, htarget⟩ := classifyTarget_ready hstate
    refine bind (refused_disposal hpolicy (inspect_noted hreads)) fun waived => ?_
    intro world ⟨heffects, hkept, hlater, hsome, hpassed⟩
    have hcleared : Cleared request waivers plan world.calls := by
      obtain ⟨view, hread, hplan⟩ := hplanned
      exact ⟨hpolicy, hlater, ⟨view, hkept hread, hplan⟩, hready,
        evidence, hkept hobserved, htarget, not_not.mp hunknown, hsome, hpassed⟩
    have hremove : Triple (Noted world.calls []) (remove host request plan >>= fun _ => pure waived)
        (fun _ => NotedSome (Disposal request)) fun _ => NotedSome (Disposal request) :=
      bind (remove_noted hcleared) fun _ => pure fun _ h => h
    exact hremove world ⟨rfl, heffects⟩
  | missing =>
    refine guard (fun _ => hrefused) fun _ => ?_
    refine bind (detach_noted _ fun after more hafter => ?_) fun _ => pure fun _ h => h
    exact .stale calls after more waivers hpolicy hreads
      ⟨plan.target, evidence, hobserved, classifyTarget_missing hstate⟩ hafter
  | incomplete | interruptedDisposal | pointerRemoved | mismatched | malformed | unobserved =>
    exact throw hrefused

lemma delete_noted :
    Triple (Noted calls []) (delete host request waivers plan)
      (fun _ => NotedSome (Disposal request)) fun _ => NotedSome (Disposal request) := by
  refine bind ask_noted fun answer => ?_
  have hreads' : ∀ call ∈ calls ++ [Call.observeTarget plan.target answer], call.reads = true := by
    intro call hcall
    rcases mem_append.mp hcall with hbefore | hlast
    · exact hreads call hbefore
    · rw [mem_singleton.mp hlast]
      rfl
  cases answer with
  | error =>
    refine throw fun world hworld => Refused.disposal hpolicy ?_
    exact ⟨by rw [hworld.1]; exact hreads', hworld.2⟩
  | ok =>
    obtain ⟨view, hread, hplan⟩ := hplanned
    exact disposeObserved_noted hpolicy hreads' ⟨view, mem_append_left _ hread, hplan⟩
      (mem_append_right _ (mem_singleton.mpr rfl))

end

end Delete

/-- Readings of the index and no effect. -/
def OnlyReread (calls : List Call) (effects : List DisposeEffect) : Prop :=
  (∀ call ∈ calls, call.reads = true ∧ call.isPort = false) ∧ effects = []

lemma onlyReread_singleton (answer : Except StoreError (Option FamilyView)) :
    OnlyReread [.reread answer] [] := by
  refine ⟨?_, rfl⟩
  intro call hcall
  rw [mem_singleton.mp hcall]
  exact ⟨rfl, rfl⟩

/-- Validation makes at most one call, a reading of the index. -/
lemma validate_noted :
    Triple (Noted [] []) (validate host request)
      (fun plan world => ∃ view, Planned request view plan ∧
        Noted [.reread (.ok (some view))] [] world)
      fun _ => NotedSome OnlyReread := by
  unfold validate
  refine guard (fun _ world hworld => ?_) fun _ => ?_
  · rw [NotedSome, hworld.1, hworld.2]
    exact ⟨by simp, rfl⟩
  refine store_noted (fun error => onlyReread_singleton _) fun read => ?_
  have hstop : ∀ world : World σ, Noted [Call.reread (.ok read)] [] world →
      NotedSome OnlyReread world := by
    intro world hworld
    rw [NotedSome, hworld.1, hworld.2]
    exact onlyReread_singleton _
  cases read with
  | none => exact throw hstop
  | some view =>
    cases hplan : planIn request view with
    | error =>
      simp only [hplan]
      exact throw hstop
    | ok =>
      simp only [hplan]
      exact pure fun _ hworld => ⟨view, planIn_eq_ok hplan, hworld⟩

lemma run_noted :
    Triple (Noted [] []) (run host request) (fun _ => NotedSome (Disposal request))
      fun _ => NotedSome (Disposal request) := by
  have hvalidate : Triple (Noted [] []) (validate host request)
      (fun plan world => ∃ view, Planned request view plan ∧
        Noted [.reread (.ok (some view))] [] world) fun _ => NotedSome (Disposal request) := by
    intro world hworld
    obtain ⟨hok, herror⟩ := validate_noted world hworld
    refine ⟨hok, fun error next hrun => ?_⟩
    obtain ⟨hcalls, heffects⟩ := herror error next hrun
    rw [NotedSome, heffects]
    exact .refused _ (fun call hcall => (hcalls call hcall).1) fun _ call hcall =>
      (hcalls call hcall).2
  unfold run
  cases hpolicy : request.policy with
  | keep =>
    refine bind hvalidate fun plan => ?_
    intro world ⟨view, hplanned, hworld⟩
    have hdetach : Triple (Noted [.reread (.ok (some view))] [])
        (detach host request .keep >>= fun _ => pure ([] : List HazardFinding))
        (fun _ => NotedSome (Disposal request)) fun _ => NotedSome (Disposal request) :=
      bind (detach_noted _ fun after more hafter => .kept view after more hpolicy hafter)
        fun _ => pure fun _ h => h
    exact hdetach world hworld
  | delete =>
    refine guard (fun _ world hworld => ?_) fun _ => ?_
    · refine Refused.disposal hpolicy ⟨?_, hworld.2⟩
      rw [hworld.1]
      simp
    · refine bind hvalidate fun plan => ?_
      intro world ⟨view, hplanned, hworld⟩
      refine delete_noted hpolicy ?_ ⟨view, mem_singleton.mpr rfl, hplanned⟩ world hworld
      intro call hcall
      rw [mem_singleton.mp hcall]
      rfl

end Calls

/-- A disposal makes the calls of the protocol and reports its effects. -/
lemma dispose_disposal {σ : Type} (host : Host σ) (request : DisposeRequest) (start : σ) :
    Disposal request (dispose host request start).2 (reported (dispose host request start).1) := by
  have hnoted : Triple (Noted [] []) (run host request) (fun _ => NotedSome (Disposal request))
      fun _ => NotedSome (Disposal request) := run_noted
  obtain ⟨hok, herror⟩ := hnoted ⟨start, [], []⟩ ⟨rfl, rfl⟩
  unfold dispose
  cases hrun : run host request ⟨start, [], []⟩ with
  | ok waived world => exact hok waived world hrun
  | error error world => exact herror error world hrun

end GwzCore.LocalDisposal
