import GwzCore.HistoryCheck.Walk

/-!
# What the history check answers

Over a finite store without cycles the walks from the eligible roots end. They leave every
object below those roots decided, and decided rightly, so that the answer is exact: a root
is called preserved when an eligible root reaches it and all below it is there, and any
other is named, with an absent object below it where one is given.
-/
namespace GwzCore.HistoryCheck
open Stopping List Option Triple Search Verifier

variable {rest : List ProtectedRoot}

/-- The store is finite and its objects do not contain themselves. -/
structure Served (check : Check) : Prop where
  finite : {oid | ∃ record, check.reader.readObject oid check.limits.reads = .ok record}.Finite
  acyclic : Search.Acyclic check.edges

/-- An eligible root reaches the protected one and nothing below that is missing. -/
def Covered (check : Check) (eligible : List ProtectedRoot) (root : ProtectedRoot) : Prop :=
  (∃ witness ∈ eligible, check.Below witness.oid root.oid) ∧ Search.Whole check.edges root.oid

namespace Verifier

variable {check : Check} {v v' : Verifier} {eligible : List ProtectedRoot} {root : ProtectedRoot}

/-- The state between two walks. -/
structure Resting (check : Check) (eligible : List ProtectedRoot) (v : Verifier) : Prop where
  side : Side check eligible v
  search : ∀ start, Search.Inv check.edges start (v.view [])

/-- What walks leave: the check at rest again, with everything met before still met. -/
structure Rested (check : Check) (eligible : List ProtectedRoot) (v v' : Verifier) : Prop where
  resting : Resting check eligible v'
  targets : v'.targets = v.targets
  limit : v'.budget.limit = v.budget.limit
  met : ∀ oid : ObjectId, v.state[oid]? ≠ none → v'.state[oid]? ≠ none

lemma Resting.done (h : Resting check eligible v) : Rested check eligible v v :=
  ⟨h, rfl, rfl, fun _ hmet => hmet⟩

lemma Rested.trans {v'' : Verifier} (h : Rested check eligible v v')
    (h' : Rested check eligible v' v'') : Rested check eligible v v'' :=
  ⟨h'.resting, h'.targets.trans h.targets, h'.limit.trans h.limit,
    fun oid hmet => h'.met oid (h.met oid hmet)⟩

lemma Resting.at (h : Resting check eligible v) (index : ℕ) :
    Resting check eligible { v with currentRoot := index } where
  side := ⟨h.side.reads, h.side.answered, h.side.decided, h.side.origin, h.side.attributed,
    h.side.fits⟩
  search := h.search

lemma Walked.rested (h : Walked check eligible root v v') : Rested check eligible v v' where
  resting := ⟨h.walking.side, fun _ => h.walking.search.restart rfl⟩
  targets := h.fixed.targets
  limit := h.fixed.limit
  met := h.met

section Walks
variable {nodes : Finset ObjectId} {rounds : ℕ}

section
variable (h : Resting check eligible v) (hcurrent : eligible[v.currentRoot]? = some root)
include h hcurrent

lemma Entered.walking {frame : Frame} (hnew : v.state[root.oid]? = none)
    (hentered : Entered check root.oid v frame v') : Walking check eligible root v' [frame] where
  side := hentered.side h.side hnew hcurrent .refl
  current := by
    rw [hentered.currentRoot]
    exact hcurrent
  search := by
    rw [hentered.view_eq]
    exact (h.search root.oid).begin rfl (by simp [view, hnew])

/-- The walk from a root ends with the root met. -/
lemma Resting.walk (hlog : Logged check v) (hacyclic : Search.Acyclic check.edges)
    (hnodes : ∀ a b, Search.Edge check.edges a b → b ∈ nodes) (hroot : root.oid ∈ nodes)
    (hrounds : ∑ a ∈ nodes, (((check.edges a).getD []).length + 2) ≤ rounds) :
    Goes check eligible v (walk check rounds root.oid) fun ended v' =>
      ended = true ∧ Rested check eligible v v' ∧ v'.state[root.oid]? ≠ none := by
  refine step rfl (ite (fun hmet => Triple.done ⟨hlog, rfl, h.done, ?_⟩) fun hnew => ?_)
  · rw [← isSome_iff_ne_none]
    simpa using hmet
  have hnew : v.state[root.oid]? = none := by simpa using hnew
  have hreads : (root.oid :: v.reads).Nodup :=
    nodup_cons.mpr ⟨fun hmem => h.side.decided _ hmem hnew, h.side.reads⟩
  refine bind_state (open_goes hlog hreads ⟨root, mem_of_getElem? hcurrent, .refl⟩) ?_
  rintro opened between ⟨hlog, hopened⟩
  have hbegin : ∀ stack, between.view stack = (v.view []).visit check.edges root.oid →
      between.state[root.oid]? ≠ none ∧
        (∀ oid : ObjectId, v.state[oid]? ≠ none → between.state[oid]? ≠ none) ∧
        weight check.edges nodes (between.view stack) ≤ rounds := by
    intro stack hview
    refine ⟨?_, ?_, ?_⟩
    · rw [← view_met between stack, hview]
      exact visit_met _ _ (.inr rfl)
    · intro oid hmet
      rw [← view_met between stack, hview]
      exact visit_met _ _ (.inl ((view_met v [] oid).mpr hmet))
    · rw [hview]
      have hvisit : weight check.edges nodes ((v.view []).visit check.edges root.oid) ≤
          weight check.edges nodes (v.view []) :=
        weight_visit_le hroot (by simp [view, hnew])
      have hwhole : weight check.edges nodes (v.view []) ≤ _ := weight_le rfl
      omega
  rcases hopened with ⟨frame, rfl, hentered⟩ | ⟨rfl, hmissed⟩
  · obtain ⟨hmet, hkept, hweight⟩ := hbegin [frame] hentered.view_eq
    refine ((hentered.walking h hcurrent hnew).loop hacyclic hnodes rounds hlog hweight).weaken
      (fun _ hs => hs) ?_
    rintro _ v' ⟨hlog, hended, hwalked⟩
    have hopened : Rested check eligible between v' := hwalked.rested
    exact ⟨hlog, hended, ⟨hopened.resting, hopened.targets.trans hentered.targets,
      hopened.limit.trans hentered.limit, fun oid hoid => hopened.met oid (hkept oid hoid)⟩,
      hwalked.met _ hmet⟩
  · obtain ⟨hmet, hkept, -⟩ := hbegin [] hmissed.view_eq
    refine Triple.done
      ⟨hlog, rfl, ⟨⟨hmissed.side h.side hnew, ?_⟩, hmissed.targets, hmissed.limit, hkept⟩,
      hmet⟩
    intro start
    rw [hmissed.view_eq]
    have hbegun : Search.Inv check.edges root.oid ((v.view []).visit check.edges root.oid) :=
      (h.search root.oid).begin rfl (by simp [view, hnew])
    refine hbegun.restart ?_
    rw [← hmissed.view_eq]
    rfl

end

/-- The walks from the roots end with all of them met. -/
lemma Resting.walkAll (hacyclic : Search.Acyclic check.edges)
    (hnodes : ∀ a b, Search.Edge check.edges a b → b ∈ nodes)
    (hrounds : ∑ a ∈ nodes, (((check.edges a).getD []).length + 2) ≤ rounds) (index : ℕ)
    (hrest : eligible.drop index = rest) (hroots : ∀ root ∈ rest, root.oid ∈ nodes)
    (hlog : Logged check v) (h : Resting check eligible v) :
    Goes check eligible v (walkAll check rounds index rest) fun ended v' =>
      ended = true ∧ Rested check eligible v v' ∧ ∀ root ∈ rest, v'.state[root.oid]? ≠ none := by
  induction rest generalizing index v with
  | nil => exact Triple.done ⟨hlog, rfl, h.done, by simp⟩
  | cons root rest ih =>
    have hcurrent : eligible[index]? = some root := by
      rw [← head?_drop, hrest]
      rfl
    have hnext : eligible.drop (index + 1) = rest := by
      rw [← tail_drop, hrest]
      rfl
    refine step rfl (bind_state ((h.at index).walk hcurrent ?_ hacyclic hnodes
      (hroots root (by simp)) hrounds) ?_)
    · exact ⟨hlog.polls, hlog.decided, hlog.limit⟩
    rintro _ between ⟨hlog, rfl, hrested, hmet⟩
    refine (ih (index + 1) hnext (fun root hmem => hroots root (by simp [hmem])) hlog
      hrested.resting).weaken (fun _ hs => hs) ?_
    rintro _ v' ⟨hlog, hended, hothers, hmets⟩
    refine ⟨hlog, hended, ?_, ?_⟩
    · have hall : Rested check eligible { v with currentRoot := index } v' := hrested.trans hothers
      exact ⟨hall.resting, hall.targets, hall.limit, hall.met⟩
    · intro other hmem
      rcases mem_cons.mp hmem with rfl | hmem
      · exact hothers.met _ hmet
      · exact hmets other hmem

end Walks

/-! ### Before the walks -/

/-- The account and the targets are all that changed. -/
structure Prepared (v v' : Verifier) : Prop where
  rest : v' = { v with budget := v'.budget, targets := v'.targets }
  limit : v'.budget.limit = v.budget.limit
  fits : v.budget.Fits → v'.budget.Fits

lemma Prepared.refl (v : Verifier) : Prepared v v := ⟨rfl, rfl, id⟩

lemma Prepared.trans {v'' : Verifier} (h : Prepared v v') (h' : Prepared v' v'') :
    Prepared v v'' where
  rest := by
    rw [h'.rest, h.rest]
  limit := h'.limit.trans h.limit
  fits := fun hfit => h'.fits (h.fits hfit)

lemma Charged.prepared (h : Charged v v') : Prepared v v' ∧ v'.targets = v.targets := by
  have htargets : v'.targets = v.targets := by rw [h.rest]
  refine ⟨⟨?_, h.limit, h.fits⟩, htargets⟩
  rw [htargets]
  exact h.rest

lemma Prepared.reads (h : Prepared v v') : v'.reads = v.reads := by
  rw [h.rest]

section
variable (hlog : Logged check v) (hreads : v.reads.Nodup) (roots : List ProtectedRoot)
include hlog hreads

lemma addTargets_goes :
    Goes check eligible v (roots.forM (addTarget check)) fun _ v' =>
      Prepared v v' ∧ ∀ root ∈ roots, v'.targets.contains root.oid = true := by
  refine (forM_done (I := fun done v' => Logged check v' ∧ Prepared v v' ∧
    ∀ root ∈ done, v'.targets.contains root.oid = true) ?_).weaken ?_ fun _ _ hpost => hpost
  · intro before root _ _
    refine of_state fun between hbetween => ?_
    obtain ⟨hlog, hprepared, hadded⟩ := hbetween
    refine bind_state (charge_goes hlog (by rw [hprepared.reads]; exact hreads) _) ?_
    rintro _ charged ⟨hlog, hcharged⟩
    refine modify ?_
    rintro _ rfl
    obtain ⟨hprepared', htargets⟩ := hcharged.prepared
    obtain ⟨hrest, hlimit, hfits⟩ := hprepared.trans hprepared'
    refine ⟨⟨hlog.polls, hlog.decided, hlog.limit⟩, ⟨?_, hlimit, hfits⟩, ?_⟩
    · rw [hrest]
    · intro other hother
      rcases mem_append.mp hother with hmem | hmem
      · simp [htargets, hadded other hmem]
      · simp [mem_singleton.mp hmem]
  · rintro _ rfl
    exact ⟨hlog, .refl _, by simp⟩

lemma chargeRoots_goes :
    Goes check eligible v (roots.forM fun root => charge (rootBytes check.layout root)) fun _ v' =>
      Prepared v v' ∧ v'.targets = v.targets := by
  refine (Triple.forM (P := fun v' => Logged check v' ∧ Prepared v v' ∧ v'.targets = v.targets)
    fun root _ => of_state fun between hbetween => ?_).weaken ?_ fun _ _ hpost => hpost
  · obtain ⟨hlog, hprepared, htargets⟩ := hbetween
    refine (charge_goes hlog (by rw [hprepared.reads]; exact hreads) _).weaken (fun _ hs => hs) ?_
    rintro _ v' ⟨hlog, hcharged⟩
    obtain ⟨hprepared', htargets'⟩ := hcharged.prepared
    exact ⟨hlog, hprepared.trans hprepared', htargets'.trans htargets⟩
  · rintro _ rfl
    exact ⟨hlog, .refl _, rfl⟩

end

/-! ### The whole run -/

lemma fits_new (limits : Limits) : (new limits).budget.Fits :=
  ⟨le_rfl, Nat.zero_le _⟩

/-- The walks begin at rest. -/
lemma Prepared.resting {limits : Limits} (h : Prepared (.new limits) v) :
    Resting check eligible v := by
  have hstate : v.state = ∅ := by rw [h.rest]; rfl
  have horigin : v.origin = ∅ := by rw [h.rest]; rfl
  refine ⟨⟨?_, ?_, ?_, ?_, ?_, h.fits (fits_new limits)⟩, ?_⟩
  · rw [h.reads]
    exact nodup_nil
  · simp [hstate]
  · rw [h.reads]
    simp [new]
  · simp [horigin]
  · simp [hstate]
  · intro start
    have hview : v.view [] = ⟨fun _ => none, fun oid => v.firstMissing[oid]?, []⟩ := by
      simp [view, hstate]
    rw [hview]
    exact .init start _

/-- The state a run ends in: everything below the eligible roots is decided. -/
structure Ended (check : Check) (eligible : List ProtectedRoot) (protectedRoots : ProtectedRoots)
    (v : Verifier) : Prop where
  resting : Resting check eligible v
  limit : v.budget.limit = check.limits.maxBookkeepingBytes
  targets : ∀ root ∈ protectedRoots.roots, v.targets.contains root.oid = true
  met : ∀ root ∈ eligible, v.state[root.oid]? ≠ none

lemma logged_new (hcancellation : check.cancellation 0 = false) :
    Logged check (.new check.limits) where
  polls := by
    intro number hnumber
    rw [Nat.lt_one_iff.mp hnumber]
    exact hcancellation
  decided := by simp [new]
  limit := rfl

lemma run_goes (protectedRoots : ProtectedRoots) {nodes : Finset ObjectId} {rounds : ℕ}
    (hcancellation : check.cancellation 0 = false) (hacyclic : Search.Acyclic check.edges)
    (hnodes : ∀ a b, Search.Edge check.edges a b → b ∈ nodes)
    (hrounds : ∑ a ∈ nodes, (((check.edges a).getD []).length + 2) ≤ rounds)
    (hroots : ∀ root ∈ eligible, root.oid ∈ nodes) :
    Goes check eligible (.new check.limits) (run check rounds protectedRoots eligible)
      fun ended v => ended = true ∧ Ended check eligible protectedRoots v := by
  refine bind_state (addTargets_goes (logged_new hcancellation) nodup_nil _) ?_
  rintro _ targeted ⟨hlog, hprepared, hadded⟩
  refine bind_state (chargeRoots_goes hlog (by rw [hprepared.reads]; exact nodup_nil) _) ?_
  rintro _ charged ⟨hlog, hprepared', hkept⟩
  have hready := hprepared.trans hprepared'
  refine (hready.resting.walkAll hacyclic hnodes hrounds 0 drop_zero hroots hlog).weaken
    (fun _ hs => hs) ?_
  rintro _ v ⟨hlog, hended, hrested, hmet⟩
  refine ⟨hlog, hended, hrested.resting, hrested.limit.trans hready.limit, ?_, hmet⟩
  intro root hmem
  rw [hrested.targets, hkept]
  exact hadded root hmem

/-! ### The conclusion -/

section Conclusion
variable {protectedRoots : ProtectedRoots}

section

variable (h : Ended check eligible protectedRoots v)
include h

lemma Ended.mark_met {oid : ObjectId} (hreach : ∃ witness ∈ eligible, check.Below witness.oid oid) :
    (v.view []).mark oid ≠ none := by
  obtain ⟨witness, hmem, hbelow⟩ := hreach
  have hwitness := (view_met v [] witness.oid).mpr (h.met witness hmem)
  exact (h.resting.search witness.oid).met_below rfl hwitness hbelow

/-- A complete object of a protected root has its origin. -/
lemma Ended.origin (hroot : root ∈ protectedRoots.roots)
    (hcomplete : v.state[root.oid]? = some .complete) :
    ∃ index witness, v.origin[root.oid]? = some index ∧ eligible[index]? = some witness ∧
      check.Below witness.oid root.oid := by
  have hside := h.resting.side
  have horigin := hside.attributed root.oid (h.targets root hroot) (.inr hcomplete)
  have hsome : v.origin[root.oid]?.isSome = true := by simpa using horigin
  obtain ⟨index, hindex⟩ := isSome_iff_exists.mp hsome
  obtain ⟨witness, hwitness, hbelow⟩ := hside.origin root.oid index hindex
  exact ⟨index, witness, hindex, hwitness, hbelow⟩

lemma Ended.complete_iff (hroot : root ∈ protectedRoots.roots) :
    v.state[root.oid]? = some .complete ↔ Covered check eligible root := by
  have hsearch := h.resting.search root.oid
  constructor
  · intro hcomplete
    obtain ⟨index, witness, -, hwitness, hbelow⟩ := h.origin hroot hcomplete
    have hmark : (v.view []).mark root.oid = some .complete := mark_eq.mpr hcomplete
    exact ⟨⟨witness, mem_of_getElem? hwitness, hbelow⟩, hsearch.decided.whole hmark⟩
  · rintro ⟨hreach, hwhole⟩
    exact mark_eq.mp ((hsearch.complete_iff rfl (h.mark_met hreach)).mpr hwhole)

/-- A covered root is attributed to an eligible root above it. -/
lemma Ended.conclude_covered (attribution : Option RepoKey)
    (hroot : root ∈ protectedRoots.roots) (hcovered : Covered check eligible root) :
    ∃ witness ∈ eligible, check.Below witness.oid root.oid ∧
      v.concludeRoot attribution eligible root = .inl ⟨root, attribution, witness⟩ := by
  have hcomplete := (h.complete_iff hroot).mpr hcovered
  obtain ⟨index, witness, hindex, hwitness, hbelow⟩ := h.origin hroot hcomplete
  exact ⟨witness, mem_of_getElem? hwitness, hbelow,
    by simp [concludeRoot, hcomplete, hindex, hwitness]⟩

end

/-- The object named for a root is absent and lies below it. -/
def Absent (check : Check) (item : UnpreservedItem) : Prop :=
  ∀ missing, item.missing = some missing →
    (∃ absent, check.reader.readObject missing check.limits.reads = .error (.missing absent)) ∧
      check.Below item.root.oid missing

/-- What is missing below an object the walks decided is absent from the store. -/
lemma Resting.absent (h : Resting check eligible v) {oid missing : ObjectId}
    (hincomplete : v.state[oid]? = some .incomplete)
    (hmissing : v.firstMissing[oid]? = some missing) :
    (∃ absent, check.reader.readObject missing check.limits.reads = .error (.missing absent)) ∧
      check.Below oid missing := by
  have hsearch := h.search oid
  have hmark : (v.view []).mark oid = some .incomplete := mark_eq.mpr hincomplete
  obtain ⟨m, hm, hnone, hbelow⟩ := hsearch.decided.incomplete hmark
  have hsame : missing = m := Option.some.inj (hmissing.symm.trans hm)
  subst hsame
  have hmet := hsearch.met_below rfl (by simp [hmark]) hbelow
  refine ⟨?_, hbelow⟩
  rcases h.side.answered missing ((view_met v [] missing).mp hmet) with ⟨record, hread⟩ | hread
  · simp [Check.edges, hread] at hnone
  · exact hread

lemma Ended.conclude_uncovered (h : Ended check eligible protectedRoots v)
    (attribution : Option RepoKey)
    (hroot : root ∈ protectedRoots.roots) (huncovered : ¬ Covered check eligible root) :
    ∃ item, v.concludeRoot attribution eligible root = .inr item ∧ item.root = root ∧
      Absent check item := by
  have hincomplete : v.state[root.oid]? ≠ some .complete := mt (h.complete_iff hroot).mp huncovered
  cases hstate : v.state[root.oid]? with
  | none =>
    simp only [concludeRoot, hstate]
    refine ⟨_, rfl, rfl, ?_⟩
    intro missing hmissing
    cases hmissing
  | some node =>
    have hmark : (v.view []).mark root.oid ≠ none := (view_met v [] root.oid).mpr (by simp [hstate])
    have hsettled := (h.resting.search root.oid).settled rfl hmark
    cases node with
    | complete => exact absurd hstate hincomplete
    | inProgress => simp [view, hstate, NodeState.mark] at hsettled
    | incomplete =>
      simp only [concludeRoot, hstate]
      refine ⟨_, rfl, rfl, ?_⟩
      intro missing hmissing
      exact h.resting.absent hstate hmissing

end Conclusion

end Verifier
end GwzCore.HistoryCheck
