import GwzCore.HistoryCheck.Exact

/-!
# Connectivity

Whether every protected root of one repository is self-contained in that repository's own
store. The same walk starts at the protected roots themselves, so what it needs is already
decided when it ends; what hindered it is read off the polls, the reads and the account.
-/
namespace GwzCore.HistoryCheck
open Verifier List Nat

structure ConnectivityCoverage where
  rootsChecked : ℕ
  objectsVisited : ℕ
  bookkeepingBytes : ℕ
  deriving DecidableEq

def ConnectivityCoverage.default : ConnectivityCoverage := ⟨0, 0, 0⟩

structure MissingObject where
  root : ProtectedRoot
  missing : ObjectId
  deriving DecidableEq

inductive ConnectivityOutcome where
  | complete (coverage : ConnectivityCoverage)
  | incomplete (missing : List MissingObject)
  | unknown (reasons : List UnknownReason)
  deriving DecidableEq

/-- The answer with the objects asked for, the most bytes accounted for and the number of
polls of the cancellation port. -/
structure ConnectivityReport where
  outcome : ConnectivityOutcome
  reads : List ObjectId
  peak : ℕ
  polls : ℕ
  deriving DecidableEq

/-- An answer given before the walk, after the one poll. -/
def ConnectivityReport.early (outcome : ConnectivityOutcome) : ConnectivityReport :=
  ⟨outcome, [], 0, 1⟩

/-- The row of a root whose object is not complete. -/
def Verifier.missingObject (v : Verifier) (root : ProtectedRoot) : Option MissingObject :=
  match v.state[root.oid]? with
  | some .complete => none
  | _ => some ⟨root, v.firstMissing[root.oid]?.getD root.oid⟩

def Verifier.concludeConnectivity (v : Verifier) (protectedRoots : ProtectedRoots) :
    ConnectivityOutcome :=
  let missing := protectedRoots.roots.filterMap v.missingObject
  if missing ≠ [] then .incomplete missing
  else .complete ⟨protectedRoots.roots.length, v.objectsVisited, v.budget.peak⟩

/-- Nothing when `rounds` are not enough for the walk. -/
def checkConnectivity (check : Check) (rounds : ℕ) (protectedRoots : ProtectedRoots) :
    Option ConnectivityReport :=
  let count := protectedRoots.roots.length
  let limit := check.limits.maxRoots
  if check.cancellation 0 then some (.early (.unknown [cancelled]))
  else if protectedRoots.unknown ≠ [] then some (.early (.unknown protectedRoots.unknown))
  else if limit < count then
    some (.early
      (.unknown [⟨.limitExceeded, s!"{count} protected roots exceed the {limit} root limit"⟩]))
  else if unsupported protectedRoots ≠ [] then
    some (.early (.unknown (unsupported protectedRoots)))
  else if protectedRoots.roots = [] then some (.early (.complete .default))
  else
    match Verifier.run check rounds protectedRoots protectedRoots.roots (.new check.limits) with
    | .error reason v => some ⟨.unknown [reason], v.reads, v.budget.peak, v.polls⟩
    | .ok true v => some ⟨v.concludeConnectivity protectedRoots, v.reads, v.budget.peak, v.polls⟩
    | .ok false _ => none

/-! ### The answer -/

/-- Something other than an absent object kept the check from its answer: a cancellation it
saw, an incomplete inventory, a limit, a root it does not interpret, an unreadable object. -/
def Hindered (check : Check) (protectedRoots : ProtectedRoots) (report : ConnectivityReport) :
    Prop :=
  (∃ number < report.polls, check.cancellation number = true) ∨
    protectedRoots.unknown ≠ [] ∨
    check.limits.maxRoots < protectedRoots.roots.length ∨
    (∃ root ∈ protectedRoots.roots, ∃ detail, root.source = .other detail) ∨
    check.limits.maxBookkeepingBytes < report.peak ∨
    ∃ oid ∈ report.reads, Unreadable check oid

/-- The store does not have the object. -/
def Lacks (check : Check) (oid : ObjectId) : Prop :=
  ∃ absent, check.reader.readObject oid check.limits.reads = .error (.missing absent)

/-- Everything below the root was asked for and is there. -/
def ReadWhole (check : Check) (reads : List ObjectId) (root : ProtectedRoot) : Prop :=
  ∀ oid, check.Below root.oid oid →
    oid ∈ reads ∧ ∃ record, check.reader.readObject oid check.limits.reads = .ok record

/-- The root reaches an object the store does not have. -/
def ReachesAbsent (check : Check) (root : ProtectedRoot) : Prop :=
  ∃ oid, check.Below root.oid oid ∧ Lacks check oid

structure ConnectivityReport.Exact (check : Check) (protectedRoots : ProtectedRoots)
    (report : ConnectivityReport) : Prop where
  complete : (∃ coverage, report.outcome = .complete coverage) ↔
    ¬ Hindered check protectedRoots report ∧
      ∀ root ∈ protectedRoots.roots, ReadWhole check report.reads root
  incomplete : ∀ missing, report.outcome = .incomplete missing →
    ¬ Hindered check protectedRoots report ∧ missing ≠ [] ∧
      (open Classical in missing.map MissingObject.root =
        protectedRoots.roots.filter fun root => ReachesAbsent check root) ∧
      ∀ row ∈ missing, Lacks check row.missing ∧ check.Below row.root.oid row.missing
  unknown : (∃ reasons, report.outcome = .unknown reasons) ↔ Hindered check protectedRoots report

section Answer
variable {check : Check} {protectedRoots : ProtectedRoots} {report : ConnectivityReport}
  {v : Verifier} {root : ProtectedRoot}

/-- A check that is hindered and says so is exact. -/
lemma ConnectivityReport.Exact.of_hindered {reasons : List UnknownReason}
    (houtcome : report.outcome = .unknown reasons)
    (hhindered : Hindered check protectedRoots report) : report.Exact check protectedRoots where
  complete := by simp [houtcome, hhindered]
  incomplete := by simp [houtcome]
  unknown := by simp [houtcome, hhindered]

namespace Verifier

section

variable (h : Ended check protectedRoots.roots protectedRoots v)
include h

section

variable (hlogged : Logged check v) (hroot : root ∈ protectedRoots.roots)
include hlogged hroot

/-- Everything below a protected root was asked for and answered. -/
lemma Ended.asked {oid : ObjectId}
    (hbelow : check.Below root.oid oid) : oid ∈ v.reads ∧ Answered check oid := by
  have hmet := (view_met v [] oid).mp (h.mark_met ⟨root, hroot, hbelow⟩)
  exact ⟨hlogged.decided oid hmet, h.resting.side.answered oid hmet⟩

lemma Ended.whole_iff : v.state[root.oid]? = some .complete ↔ ReadWhole check v.reads root := by
  rw [h.complete_iff hroot]
  constructor
  · rintro ⟨-, hwhole⟩ oid hbelow
    obtain ⟨hread, ⟨record, hrecord⟩ | ⟨absent, habsent⟩⟩ := h.asked hlogged hroot hbelow
    · exact ⟨hread, record, hrecord⟩
    · exact absurd (by simp [Check.edges, habsent]) (hwhole oid hbelow)
  · intro hread
    refine ⟨⟨root, hroot, .refl⟩, ?_⟩
    intro oid hbelow
    obtain ⟨-, record, hrecord⟩ := hread oid hbelow
    simp [Check.edges, hrecord]

/-- A root that is not whole reaches an object the store does not have. -/
lemma Ended.reachesAbsent_iff : ReachesAbsent check root ↔ v.state[root.oid]? ≠ some .complete := by
  rw [Ne, h.whole_iff hlogged hroot]
  constructor
  · rintro ⟨oid, hbelow, absent, habsent⟩ hread
    obtain ⟨-, record, hrecord⟩ := hread oid hbelow
    rw [habsent] at hrecord
    cases hrecord
  · intro hnot
    by_contra hnone
    refine hnot fun oid hbelow => ?_
    obtain ⟨hread, hrecord | habsent⟩ := h.asked hlogged hroot hbelow
    · exact ⟨hread, hrecord⟩
    · exact absurd ⟨oid, hbelow, habsent⟩ hnone

end

/-- The row of a root that is not complete names an absent object below it. -/
lemma Ended.missingObject_eq
    (hroot : root ∈ protectedRoots.roots) (hnot : v.state[root.oid]? ≠ some .complete) :
    ∃ row, v.missingObject root = some row ∧ row.root = root ∧ Lacks check row.missing ∧
      check.Below root.oid row.missing := by
  have hmet := h.met root hroot
  have hmark := (view_met v [] root.oid).mpr hmet
  have hsearch := h.resting.search root.oid
  have hincomplete : v.state[root.oid]? = some .incomplete := by
    rcases hstate : v.state[root.oid]? with _ | node
    · exact absurd hstate hmet
    · cases node with
      | complete => exact absurd hstate hnot
      | inProgress =>
        have hsettled := hsearch.settled rfl hmark
        simp [view, hstate, NodeState.mark] at hsettled
      | incomplete => rfl
  obtain ⟨missing, hmissing, -, -⟩ := hsearch.decided.incomplete (mark_eq.mpr hincomplete)
  have hmissing : v.firstMissing[root.oid]? = some missing := hmissing
  obtain ⟨habsent, hbelow⟩ := h.resting.absent hincomplete hmissing
  exact ⟨⟨root, missing⟩, by simp [missingObject, hincomplete, hmissing], rfl, habsent, hbelow⟩

/-- The rows are those of the roots that reach an absent object, in their order. -/
lemma Ended.missing (hlogged : Logged check v) :
    (open Classical in (protectedRoots.roots.filterMap v.missingObject).map MissingObject.root =
      protectedRoots.roots.filter fun root => ReachesAbsent check root) ∧
    ∀ row ∈ protectedRoots.roots.filterMap v.missingObject,
      Lacks check row.missing ∧ check.Below row.root.oid row.missing := by
  classical
  constructor
  · refine map_filterMap_eq_filter ?_ ?_
    · intro root hroot habsent
      obtain ⟨row, hrow, hof, -, -⟩ :=
        h.missingObject_eq hroot ((h.reachesAbsent_iff hlogged hroot).mp habsent)
      exact ⟨row, hrow, hof⟩
    · intro root hroot hnone
      have hcomplete := not_not.mp (mt (h.reachesAbsent_iff hlogged hroot).mpr hnone)
      simp [missingObject, hcomplete]
  · intro row hrow
    obtain ⟨root, hroot, hpick⟩ := mem_filterMap.mp hrow
    by_cases hcomplete : v.state[root.oid]? = some .complete
    · simp [missingObject, hcomplete] at hpick
    · obtain ⟨row', hrow', hof, habsent, hbelow⟩ := h.missingObject_eq hroot hcomplete
      cases Option.some.inj (hpick.symm.trans hrow')
      rw [hof]
      exact ⟨habsent, hbelow⟩

end

end Verifier

/-- What a check that goes on has not met. -/
lemma unhindered (hunknown : protectedRoots.unknown = [])
    (hcount : ¬ check.limits.maxRoots < protectedRoots.roots.length)
    (hinterpreted : unsupported protectedRoots = [])
    (hpolls : ∀ number < report.polls, check.cancellation number = false)
    (hpeak : report.peak ≤ check.limits.maxBookkeepingBytes)
    (hreads : ∀ oid ∈ report.reads, Answered check oid) :
    ¬ Hindered check protectedRoots report := by
  rintro (⟨number, hnumber, hcancelled⟩ | hinventory | hover | ⟨root, hroot, detail, hdetail⟩ |
    hlimit | ⟨oid, hoid, error, herror, hother⟩)
  · rw [hpolls number hnumber] at hcancelled
    cases hcancelled
  · exact hinventory hunknown
  · exact hcount hover
  · have hnone := filterMap_eq_nil_iff.mp hinterpreted root hroot
    simp [hdetail] at hnone
  · exact absurd hpeak (not_le.mpr hlimit)
  · rcases hreads oid hoid with ⟨record, hrecord⟩ | ⟨absent, habsent⟩
    · rw [herror] at hrecord
      cases hrecord
    · rw [herror] at habsent
      exact hother absent (Except.error.inj habsent)

/-- The report of a run that ended is exact. -/
lemma ConnectivityReport.Exact.concluded
    (hended : Verifier.Ended check protectedRoots.roots protectedRoots v)
    (hlogged : Logged check v) (hunhindered : ¬ Hindered check protectedRoots
      ⟨v.concludeConnectivity protectedRoots, v.reads, v.budget.peak, v.polls⟩) :
    ConnectivityReport.Exact check protectedRoots
      ⟨v.concludeConnectivity protectedRoots, v.reads, v.budget.peak, v.polls⟩ := by
  obtain ⟨hroots, hrows⟩ := hended.missing hlogged
  by_cases hmissing : protectedRoots.roots.filterMap v.missingObject = []
  · have houtcome : v.concludeConnectivity protectedRoots =
        .complete ⟨protectedRoots.roots.length, v.objectsVisited, v.budget.peak⟩ := by
      simp [concludeConnectivity, hmissing]
    have hwhole : ∀ root ∈ protectedRoots.roots, ReadWhole check v.reads root := by
      intro root hroot
      rw [hmissing, map_nil, eq_comm, filter_eq_nil_iff] at hroots
      have hreach : ¬ ReachesAbsent check root := by simpa using hroots root hroot
      rw [hended.reachesAbsent_iff hlogged hroot, not_not] at hreach
      exact (hended.whole_iff hlogged hroot).mp hreach
    rw [houtcome] at hunhindered ⊢
    exact ⟨⟨fun _ => ⟨hunhindered, hwhole⟩, fun _ => ⟨_, rfl⟩⟩, by simp, by simp [hunhindered]⟩
  · have houtcome : v.concludeConnectivity protectedRoots =
        .incomplete (protectedRoots.roots.filterMap v.missingObject) := by
      simp [concludeConnectivity, hmissing]
    obtain ⟨row, hrow⟩ := exists_mem_of_ne_nil _ hmissing
    have hroot : row.root ∈ protectedRoots.roots ∧ ReachesAbsent check row.root := by
      have hmem := mem_map_of_mem (f := MissingObject.root) hrow
      rw [hroots, mem_filter] at hmem
      simpa using hmem
    rw [houtcome] at hunhindered ⊢
    refine ⟨?_, ?_, by simp [hunhindered]⟩
    · simp only [reduceCtorEq, exists_false, false_iff, not_and]
      intro _ hwhole
      exact (hended.reachesAbsent_iff hlogged hroot.1).mp hroot.2
        ((hended.whole_iff hlogged hroot.1).mpr (hwhole row.root hroot.1))
    · intro missing hsame
      cases hsame
      exact ⟨hunhindered, hmissing, hroots, hrows⟩

end Answer

/-- Over every finite store without cycles the check of a repository's own history ends with
an exact report. It is complete exactly when nothing hindered it and every object below every
root was read and is there; it is incomplete with exactly the roots that reach an absent
object, and with such an object for each; and it is unknown exactly when something hindered it. -/
theorem checkConnectivity_exact (check : Check) (protectedRoots : ProtectedRoots)
    (hserved : Served check) :
    ∃ bound, ∀ rounds, bound ≤ rounds → ∃ report,
      checkConnectivity check rounds protectedRoots = some report ∧
        report.Exact check protectedRoots := by
  unfold checkConnectivity
  simp only
  split_ifs with hcancelled hinventory hcount hunsupported hroots
  · exact ⟨0, fun _ _ => ⟨_, rfl, .of_hindered rfl (.inl ⟨0, one_pos, hcancelled⟩)⟩⟩
  · exact ⟨0, fun _ _ => ⟨_, rfl, .of_hindered rfl (.inr (.inl hinventory))⟩⟩
  · exact ⟨0, fun _ _ => ⟨_, rfl, .of_hindered rfl (.inr (.inr (.inl hcount)))⟩⟩
  · exact ⟨0, fun _ _ => ⟨_, rfl,
      .of_hindered rfl (.inr (.inr (.inr (.inl (unsupported_ne_nil hunsupported)))))⟩⟩
  · refine ⟨0, fun _ _ => ⟨_, rfl, ?_⟩⟩
    have hunhindered : ¬ Hindered check protectedRoots (.early (.complete .default)) := by
      refine unhindered (not_not.mp hinventory) hcount (not_not.mp hunsupported) ?_
        (zero_le _) (fun _ hoid => absurd hoid not_mem_nil)
      intro number hnumber
      rw [lt_one_iff.mp hnumber]
      simpa using hcancelled
    refine ⟨⟨fun _ => ⟨hunhindered, ?_⟩, fun _ => ⟨_, rfl⟩⟩, ?_, ?_⟩
    · simp [hroots]
    · simp [ConnectivityReport.early]
    · constructor
      · rintro ⟨_, h⟩
        cases h
      · exact fun h => absurd h hunhindered
  · obtain ⟨bound, hbound⟩ := hserved.run_ends hcancelled protectedRoots protectedRoots.roots
    refine ⟨bound, fun rounds hrounds => ?_⟩
    rcases hbound rounds hrounds with ⟨reason, v, hrun, -, hhalted⟩ | ⟨v, hrun, hended, hlogged⟩
    · rw [hrun]
      refine ⟨_, rfl, .of_hindered rfl ?_⟩
      rcases hhalted with hpoll | hlimit | hread
      · exact .inl hpoll
      · exact .inr (.inr (.inr (.inr (.inl hlimit))))
      · exact .inr (.inr (.inr (.inr (.inr hread))))
    · rw [hrun]
      refine ⟨_, rfl, .concluded hended hlogged ?_⟩
      refine unhindered (not_not.mp hinventory) hcount (not_not.mp hunsupported) hlogged.polls ?_ ?_
      · have hfits := hended.resting.side.fits.peak_le_limit
        rw [hlogged.limit] at hfits
        exact hfits
      · intro oid hoid
        exact hended.resting.side.answered oid (hended.resting.side.decided oid hoid)

/-- The commit reaches the absent blob, and its row names it; the blob that is there is whole. -/
theorem checkConnectivity_exact_small :
    Served smallCheck ∧
    (∃ bound, ∀ rounds, bound ≤ rounds → ∃ report,
      checkConnectivity smallCheck rounds ⟨[⟨.stash 0, smallOid 1⟩, ⟨.head, smallOid 3⟩], []⟩ =
        some report ∧
      report.Exact smallCheck ⟨[⟨.stash 0, smallOid 1⟩, ⟨.head, smallOid 3⟩], []⟩) ∧
    (checkConnectivity smallCheck 20 ⟨[⟨.stash 0, smallOid 1⟩, ⟨.head, smallOid 3⟩], []⟩).map
      ConnectivityReport.outcome =
        some (.incomplete [⟨⟨.stash 0, smallOid 1⟩, smallOid 4⟩]) :=
  ⟨smallCheck_served, checkConnectivity_exact _ _ smallCheck_served, by decide +kernel⟩

end GwzCore.HistoryCheck
