import GwzCore.LocalDisposal.Safety

/-!
# What the waivers change

An inspection collects what it finds without looking at the waivers and asks for them at its
end. A refusal therefore names what is missing: with the waivers its findings require the
inspection passes, and none of them can be spared. No waiver reaches a reason that something
is unknown, and what is unknown without a reason no waiver is needed for.
-/
namespace GwzCore.LocalDisposal
open List FamilyModel HistoryCheck HostPath Stopping WorkDetector

/-- The waiver names that must be given to delete despite the findings, each once. -/
def requiredWaivers (findings : List HazardFinding) : List HazardWaiver :=
  HazardWaiver.all.filter fun waiver =>
    findings.any fun finding => finding.waiver = waiver && finding.refuses

section Inspection
variable {σ : Type} {host : Host σ} {plan : Plan} {evidence : TargetEvidence} {start : σ}
  {waivers : List HazardWaiver} {found : Findings} {world later : World σ}
  {findings : List HazardFinding}

/-- The inspection of the evidence passes, from a state of the host. -/
def Passes (host : Host σ) (plan : Plan) (evidence : TargetEvidence) (start : σ)
    (waivers : List HazardWaiver) : Prop :=
  ∃ waived later, inspect host plan evidence waivers ⟨start, [], []⟩ = .ok waived later

/-- Something of the target was not established: there is no repository, or the work or the
history of one is unknown, or a question about a history was answered so. -/
def Unestablished (evidence : TargetEvidence) (calls : List Call) : Prop :=
  evidence.repositories = [] ∨
  (∃ repository ∈ evidence.repositories,
    (¬ ∃ observation, repository.work = .known observation ∧
      Established observation repository.gwz) ∨
    ∃ reasons, repository.history = .unknown reasons) ∨
  ∃ query reasons, Call.checkHistory query (.unknown reasons) ∈ calls

/-- The repositories lie inside the target and nothing gives a reason that something is
unknown: not the work of one, not its history, not what the host answers about the history,
asked from a state of the host. -/
def Silent (host : Host σ) (plan : Plan) (evidence : TargetEvidence) :
    σ → List RepositoryEvidence → Prop
  | _, [] => True
  | state, repository :: rest =>
    (∀ directory ∈ repository.info.directories, plan.target <+: resolve directory.2) ∧
    (workFindings repository.key (workReport evidence repository)).unknown = [] ∧
    match repository.history with
    | .unknown reasons => reasons = [] ∧ Silent host plan evidence state rest
    | .known protectedRoots =>
      let asked := host.checkHistory ⟨repository.key, protectedRoots⟩ state
      (historyFindings repository.key asked.1).unknown = [] ∧
        Silent host plan evidence asked.2 rest

/-! ### The waivers that are required -/

lemma HazardWaiver.mem_all (waiver : HazardWaiver) : waiver ∈ HazardWaiver.all := by
  cases waiver <;> decide

lemma mem_requiredWaivers {waiver : HazardWaiver} :
    waiver ∈ requiredWaivers findings ↔
      ∃ finding ∈ findings, finding.waiver = waiver ∧ finding.refuses = true := by
  simp [requiredWaivers, waiver.mem_all]

lemma nodup_requiredWaivers : (requiredWaivers findings).Nodup :=
  Nodup.filter _ (by decide)

/-! ### The repositories -/

/-- Reasons that were told stay, and every history answered unknown adds its own. -/
structure Told (found next : Findings) (before after : List Call) : Prop where
  kept : found.unknown ⊆ next.unknown
  answers : ∀ query reasons, Call.checkHistory query (.unknown reasons) ∈ after →
    Call.checkHistory query (.unknown reasons) ∈ before ∨ reasons ⊆ next.unknown

/-- A repository lies outside of the target, or what is unknown of it is told. -/
lemma inspectRepository_cases (repository : RepositoryEvidence) :
    (∃ path observed, inspectRepository host plan evidence found repository world =
      .error (.pathMismatch path observed) world) ∨
    ∃ next later, inspectRepository host plan evidence found repository world = .ok next later ∧
      Told found next world.calls later.calls := by
  unfold inspectRepository
  cases hinside : checkInside plan repository with
  | error error =>
    obtain ⟨directory, -, hdirectory⟩ := Checks.exists_of_checkAll_eq_error hinside
    simp only at hdirectory
    split_ifs at hdirectory
    cases hdirectory
    exact .inl ⟨_, _, rfl⟩
  | ok =>
    right
    cases hhistory : repository.history with
    | unknown reasons => exact ⟨_, _, rfl, by simp [Findings.append], fun _ _ hmem => .inl hmem⟩
    | known roots =>
      refine ⟨_, _, rfl, by simp [Findings.append], fun query reasons hmem => ?_⟩
      rcases mem_append.mp hmem with hbefore | hlast
      · exact .inl hbefore
      · rw [← (Call.checkHistory.inj (mem_singleton.mp hlast)).2]
        exact .inr (subset_append_right _ _)

lemma inspectAll_cases (rest : List RepositoryEvidence) :
    (∃ path observed later, inspectAll host plan evidence rest found world =
      .error (.pathMismatch path observed) later) ∨
    ∃ next later, inspectAll host plan evidence rest found world = .ok next later ∧
      Told found next world.calls later.calls := by
  induction rest generalizing found world with
  | nil => exact .inr ⟨found, world, rfl, Subset.refl _, fun _ _ hmem => .inl hmem⟩
  | cons repository rest ih =>
    rw [inspectAll]
    rcases inspectRepository_cases repository with
      ⟨path, observed, herror⟩ | ⟨next, later, hok, htold⟩
    · exact .inl ⟨path, observed, world, bind_eq_error.mpr (.inl herror)⟩
    rw [bind_of_ok hok]
    rcases ih with herror | ⟨last, final, hlast, hrest⟩
    · exact .inl herror
    refine .inr
      ⟨last, final, hlast, fun _ hr => hrest.kept (htold.kept hr), fun query reasons hmem => ?_⟩
    rcases hrest.answers query reasons hmem with hbetween | hreasons
    · rcases htold.answers query reasons hbetween with hbefore | hreasons
      · exact .inl hbefore
      · exact .inr fun _ hr => hrest.kept (hreasons hr)
    · exact .inr hreasons

lemma inspectAll_silent (rest : List RepositoryEvidence) :
    (∃ next later, inspectAll host plan evidence rest found world = .ok next later ∧
      next.unknown = []) ↔ found.unknown = [] ∧ Silent host plan evidence world.host rest := by
  induction rest generalizing found world with
  | nil => simp [inspectAll, Silent]
  | cons repository rest ih =>
    rw [inspectAll, Silent, ← checkInside_eq_ok]
    cases hinside : checkInside plan repository with
    | error error =>
      have herror : inspectRepository host plan evidence found repository world =
          .error error world := by simp [inspectRepository, hinside]
      simp [bind_eq_error.mpr (.inl herror)]
    | ok =>
      simp only [inspectRepository, hinside]
      cases hhistory : repository.history with
      | unknown reasons =>
        refine (@ih ((found.append _).append ⟨reasons, []⟩) world).trans ?_
        simp [Findings.append, and_assoc]
      | known roots =>
        refine (@ih ((found.append _).append (historyFindings _ _))
          { world with host := _, calls := _ }).trans ?_
        simp [Findings.append, and_assoc]

/-! ### The decision -/

/-- The repositories were inspected and nothing is unknown. -/
structure Collected (host : Host σ) (plan : Plan) (evidence : TargetEvidence) (world : World σ)
    (found : Findings) (later : World σ) : Prop where
  some : evidence.repositories ≠ []
  shown : inspectAll host plan evidence evidence.repositories ⟨[], []⟩ world = .ok found later
  known : found.unknown = []

lemma Collected.told (h : Collected host plan evidence world found later) :
    Told ⟨[], []⟩ found world.calls later.calls := by
  rcases inspectAll_cases evidence.repositories with ⟨_, _, _, herror⟩ | ⟨_, _, hok, htold⟩
  · cases h.shown.symm.trans herror
  · obtain ⟨rfl, rfl⟩ := EStateM.Result.ok.inj (h.shown.symm.trans hok)
    exact htold

/-- Only then are the waivers asked for. -/
lemma Collected.inspect_eq (h : Collected host plan evidence world found later) :
    inspect host plan evidence waivers world =
      let unwaived := found.findings.filter fun finding => !waivers.contains finding.waiver
      if unwaived.any HazardFinding.refuses then .error (.hazards unwaived) later
      else .ok (found.findings.filter fun finding => waivers.contains finding.waiver) later := by
  unfold inspect
  rw [if_neg (by simpa using h.some)]
  refine (bind_of_ok h.shown).trans ?_
  simp only
  rw [if_neg (by simp [h.known])]
  split_ifs <;> rfl

/-- Every other inspection stops with something else than hazards. -/
lemma exists_collected (waivers : List HazardWaiver)
    (h : ∀ error later, inspect host plan evidence waivers world = .error error later →
      ∃ findings, error = .hazards findings) :
    ∃ found later, Collected host plan evidence world found later := by
  unfold inspect at h
  split_ifs at h with hempty
  · obtain ⟨findings, hfalse⟩ := h _ _ rfl
    cases hfalse
  rcases inspectAll_cases evidence.repositories with
    ⟨path, observed, later, herror⟩ | ⟨found, later, hfound, -⟩
  · obtain ⟨findings, hfalse⟩ := h _ later (bind_eq_error.mpr (.inl herror))
    cases hfalse
  refine ⟨found, later, by simpa using hempty, hfound, by_contra fun hunknown => ?_⟩
  obtain ⟨findings, hfalse⟩ := h (.unknown found.unknown) later <| by
    refine (bind_of_ok hfound).trans ?_
    simp only
    rw [if_pos hunknown]
    rfl
  cases hfalse

lemma Collected.of_passes (h : Passes host plan evidence start waivers) :
    ∃ found later, Collected host plan evidence ⟨start, [], []⟩ found later := by
  obtain ⟨waived, later, hok⟩ := h
  refine exists_collected waivers fun error other herror => ?_
  cases hok.symm.trans herror

lemma Collected.passes_iff (h : Collected host plan evidence ⟨start, [], []⟩ found later) :
    Passes host plan evidence start waivers ↔
      ∀ finding ∈ found.findings, finding.refuses = true → finding.waiver ∈ waivers := by
  rw [Passes, h.inspect_eq]
  simp only
  split_ifs with hany
  · simp only [exists_false, false_iff, not_forall]
    obtain ⟨finding, hmem, hrefuses⟩ := any_eq_true.mp hany
    rw [mem_filter] at hmem
    exact ⟨finding, hmem.1, hrefuses, by simpa using hmem.2⟩
  · refine iff_of_true ⟨_, _, rfl⟩ fun finding hmem hrefuses => by_contra fun hnot => hany ?_
    exact any_eq_true.mpr ⟨finding, mem_filter.mpr ⟨hmem, by simpa using hnot⟩, hrefuses⟩

/-- Some waivers pass just when there are repositories, inside the target, and nothing gives a
reason. -/
lemma passes_some_iff :
    (∃ waivers, Passes host plan evidence start waivers) ↔
      evidence.repositories ≠ [] ∧ Silent host plan evidence start evidence.repositories := by
  constructor
  · rintro ⟨waivers, hpasses⟩
    obtain ⟨found, later, h⟩ := Collected.of_passes hpasses
    exact ⟨h.some, ((inspectAll_silent _).mp ⟨found, later, h.shown, h.known⟩).2⟩
  · rintro ⟨hsome, hsilent⟩
    obtain ⟨found, later, hshown, hknown⟩ : ∃ found later,
        inspectAll host plan evidence evidence.repositories ⟨[], []⟩ ⟨start, [], []⟩ =
          .ok found later ∧ found.unknown = [] :=
      (inspectAll_silent _).mpr ⟨rfl, hsilent⟩
    refine ⟨HazardWaiver.all, (Collected.passes_iff ⟨hsome, hshown, hknown⟩).mpr ?_⟩
    exact fun finding _ _ => finding.waiver.mem_all

/-- The waivers that a refusal requires suffice, and each of them is needed. -/
lemma Collected.required (h : Collected host plan evidence ⟨start, [], []⟩ found later) :
    let required := requiredWaivers
      (found.findings.filter fun finding => !waivers.contains finding.waiver)
    Passes host plan evidence start (waivers ++ required) ∧
    ∀ more, Passes host plan evidence start more →
      ∀ waiver ∈ required, waiver ∈ more ∧ waiver ∉ waivers := by
  constructor
  · rw [h.passes_iff]
    intro finding hmem hrefuses
    by_cases hwaived : finding.waiver ∈ waivers
    · exact mem_append_left _ hwaived
    · exact mem_append_right _ (mem_requiredWaivers.mpr
        ⟨finding, mem_filter.mpr ⟨hmem, by simpa using hwaived⟩, rfl, hrefuses⟩)
  · intro more hpasses waiver hwaiver
    obtain ⟨finding, hmem, rfl, hrefuses⟩ := mem_requiredWaivers.mp hwaiver
    rw [mem_filter] at hmem
    exact ⟨h.passes_iff.mp hpasses finding hmem.1 hrefuses, by simpa using hmem.2⟩

end Inspection

/-- What a refusal requires is what has to be added to the waivers, no less; waivers that are
added do not refuse; some waivers pass just when there are repositories, inside the target,
and nothing gives a reason that something is unknown; so what is unknown for a reason passes
with no waivers. -/
theorem inspect_waivers {σ : Type} (host : Host σ) (plan : Plan) (evidence : TargetEvidence)
    (start : σ) :
    (∀ waivers findings later,
      inspect host plan evidence waivers ⟨start, [], []⟩ = .error (.hazards findings) later →
      Passes host plan evidence start (waivers ++ requiredWaivers findings) ∧
      ∀ more, waivers ⊆ more → Passes host plan evidence start more →
        (requiredWaivers findings).length ≤ (more.toFinset \ waivers.toFinset).card) ∧
    (∀ waivers more, waivers ⊆ more → Passes host plan evidence start waivers →
      Passes host plan evidence start more) ∧
    ((∃ waivers, Passes host plan evidence start waivers) ↔
      evidence.repositories ≠ [] ∧ Silent host plan evidence start evidence.repositories) ∧
    ∀ waivers waived later,
      inspect host plan evidence waivers ⟨start, [], []⟩ = .ok waived later →
      (∀ repository ∈ evidence.repositories,
        Reasoned repository.work = true ∧ Reasoned repository.history = true) →
      (∀ call ∈ later.calls, call.reasoned = true) → ¬ Unestablished evidence later.calls := by
  refine ⟨fun waivers findings later h => ?_, fun waivers more hmore hpasses => ?_,
    passes_some_iff, ?_⟩
  · obtain ⟨found, last, hcollected⟩ := exists_collected waivers fun error other herror => by
      cases h.symm.trans herror
      exact ⟨findings, rfl⟩
    have hfindings := h.symm.trans hcollected.inspect_eq
    simp only at hfindings
    split_ifs at hfindings
    cases hfindings
    obtain ⟨hpasses, hneeded⟩ := hcollected.required
    refine ⟨hpasses, fun more _ hother => ?_⟩
    rw [← toFinset_card_of_nodup nodup_requiredWaivers]
    refine Finset.card_le_card fun waiver hwaiver => ?_
    have hboth := hneeded more hother waiver (mem_toFinset.mp hwaiver)
    simpa using hboth
  · obtain ⟨found, last, hcollected⟩ := Collected.of_passes hpasses
    rw [hcollected.passes_iff] at hpasses ⊢
    exact fun finding hmem hrefuses => hmore (hpasses finding hmem hrefuses)
  · intro waivers waived later h hevidence hanswers hunestablished
    obtain ⟨-, -, -, hsome, hpassed⟩ := (inspect_noted (by simp) _ ⟨rfl, rfl⟩).1 _ _ h
    rcases hunestablished with
      hnone | ⟨repository, hrepository, hunknown⟩ | ⟨query, reasons, hasked⟩
    · exact hsome hnone
    · obtain ⟨hwork, hhistory⟩ := hevidence repository hrepository
      have hsettled :=
        (hpassed repository hrepository).settled hwork hhistory hanswers (Subset.refl _)
      rcases hunknown with hwork | ⟨reasons, hhistory⟩
      · exact hwork hsettled.work
      · obtain ⟨roots, answer, hknown, -⟩ := hsettled.history
        cases hhistory.symm.trans hknown
    · obtain ⟨found, last, hcollected⟩ := Collected.of_passes ⟨waived, later, h⟩
      have hsame := h.symm.trans hcollected.inspect_eq
      simp only at hsame
      split_ifs at hsame
      obtain ⟨rfl, rfl⟩ := EStateM.Result.ok.inj hsame
      have hreasoned := hanswers _ hasked
      rcases hcollected.told.answers query reasons hasked with hbefore | htold
      · cases hbefore
      · rw [hcollected.known] at htold
        rw [eq_nil_of_subset_nil htold] at hreasoned
        cases hreasoned

namespace Sample

/-- A host that gives one answer about every history. -/
def answering (answer : HistoryAnswer) : Host Unit :=
  { scripted (.known ⟨[], []⟩) (.ok ⟨[], none⟩) with checkHistory := fun _ _ => (answer, ()) }

lemma allocated : "alloc-A".toList.all Lines.isWhitespace = false := by decide

def planA : Plan := ⟨row "../ws-A" "alloc-A" allocated, directoryOf root "../ws-A"⟩

/-- The inspection of the member, whose history is asked for. -/
def passesA (answer : HistoryAnswer) : List HazardWaiver → Prop :=
  Passes (answering answer) planA (evidence (.known ⟨[], []⟩)) ()

end Sample

/-- A history that is not preserved needs its waiver, and no other one. -/
theorem inspect_waivers_unpreserved :
    let passes := Sample.passesA (.unpreserved "1 commit")
    passes [.unpreservedHistory] ∧ (∀ more, passes more → 1 ≤ more.toFinset.card) ∧
      passes [.dirty, .unpreservedHistory] ∧
      ¬ Unestablished (Sample.evidence (.known ⟨[], []⟩))
        [.checkHistory ⟨.root, ⟨[], []⟩⟩ (.unpreserved "1 commit")] := by
  have h := inspect_waivers (Sample.answering (.unpreserved "1 commit")) Sample.planA
    (Sample.evidence (.known ⟨[], []⟩)) ()
  obtain ⟨hpasses, hleast⟩ := h.1 [] [⟨.unpreservedHistory, .root, [], some "1 commit"⟩] _ rfl
  refine ⟨hpasses, fun more hmore => ?_, h.2.1 [.unpreservedHistory] _ (by decide) hpasses,
    h.2.2.2 [.unpreservedHistory] _ _ rfl (by simp [Sample.evidence, Reasoned]) (by decide)⟩
  have hone : 1 ≤ _ := hleast more (nil_subset _) hmore
  simpa using hone

/-- A history that was never established passes without any waiver, when no reason is given. -/
theorem inspect_passes_unknown :
    Passes (Sample.scripted (.unknown []) (.ok ⟨[], none⟩)) Sample.planA
      (Sample.evidence (.unknown []))
      () [] ∧ Unestablished (Sample.evidence (.unknown [])) [] ∧ Sample.passesA (.unknown []) [] :=
  ⟨⟨[], _, rfl⟩, .inr (.inl ⟨_, mem_cons_self, .inr ⟨[], rfl⟩⟩), [], _, rfl⟩

end GwzCore.LocalDisposal
