import GwzCore.HistoryCheck.Answers

/-!
# The history check is exact

What every answer says, and when an answer is given: a check that nothing hinders names
exactly the protected roots that are not preserved.
-/
namespace GwzCore.HistoryCheck
open Verifier List Function Nat

section Partition
variable {α β : Type*}

/-- Picking a value for exactly the members that satisfy `p` lists those members. -/
lemma map_filterMap_eq_filter {p : α → Prop} [DecidablePred p] {pick : α → Option β}
    {back : β → α} {l : List α} (hpick : ∀ a ∈ l, p a → ∃ b, pick a = some b ∧ back b = a)
    (hskip : ∀ a ∈ l, ¬ p a → pick a = none) : (l.filterMap pick).map back = l.filter p := by
  induction l with
  | nil => rfl
  | cons a l ih =>
    have hrest := ih (fun b hb => hpick b (by simp [hb])) (fun b hb => hskip b (by simp [hb]))
    by_cases ha : p a
    · obtain ⟨b, hb, hback⟩ := hpick a (by simp) ha
      simp [hb, hback, ha, hrest]
    · simp [hskip a (by simp) ha, ha, hrest]

end Partition

/-- The conclusion of a run that ended: every root is covered and cited, or exactly the
uncovered ones are named. -/
inductive Concluded (check : Check) (eligible : List ProtectedRoot) (roots : List ProtectedRoot)
    (peak : ℕ) : HistoryOutcome → Prop where
  | verified (coverage : Coverage) (hcovered : ∀ root ∈ roots, Covered check eligible root)
      (hbytes : coverage.bookkeepingBytes = peak)
      (hroots : coverage.covered.map RootCoverage.root = roots)
      (hrows : ∀ row ∈ coverage.covered,
        row.witnessRoot ∈ eligible ∧ check.Below row.witnessRoot.oid row.root.oid) :
      Concluded check eligible roots peak (.verified coverage)
  | unpreserved (items : List UnpreservedItem)
      (huncovered : ∃ root ∈ roots, ¬ Covered check eligible root)
      (hroots : open Classical in
        items.map UnpreservedItem.root = roots.filter fun root => ¬ Covered check eligible root)
      (hitems : ∀ item ∈ items, Absent check item) :
      Concluded check eligible roots peak (.unpreserved items)

namespace Verifier
variable {check : Check} {v : Verifier} {eligible : List ProtectedRoot}
  {protectedRoots : ProtectedRoots}

/-- The rows of covered roots, and the items of the others. -/
lemma Ended.answers (h : Ended check eligible protectedRoots v) (attribution : Option RepoKey) :
    let answers := protectedRoots.roots.map (v.concludeRoot attribution eligible)
    (open Classical in (answers.filterMap Sum.getLeft?).map RootCoverage.root =
      protectedRoots.roots.filter fun root => Covered check eligible root) ∧
    (open Classical in (answers.filterMap Sum.getRight?).map UnpreservedItem.root =
      protectedRoots.roots.filter fun root => ¬ Covered check eligible root) ∧
    (∀ row ∈ answers.filterMap Sum.getLeft?,
      row.witnessRoot ∈ eligible ∧ check.Below row.witnessRoot.oid row.root.oid) ∧
    ∀ item ∈ answers.filterMap Sum.getRight?, Absent check item := by
  classical
  simp only [filterMap_map]
  refine ⟨?_, ?_, ?_, ?_⟩
  · refine map_filterMap_eq_filter ?_ ?_
    · intro root hroot hcovered
      obtain ⟨witness, -, -, hanswer⟩ := h.conclude_covered attribution hroot hcovered
      exact ⟨⟨root, attribution, witness⟩, by simp [hanswer], rfl⟩
    · intro root hroot huncovered
      obtain ⟨item, hanswer, -, -⟩ := h.conclude_uncovered attribution hroot huncovered
      simp [hanswer]
  · refine map_filterMap_eq_filter ?_ ?_
    · intro root hroot huncovered
      obtain ⟨item, hanswer, hitem, -⟩ := h.conclude_uncovered attribution hroot huncovered
      exact ⟨item, by simp [hanswer], hitem⟩
    · intro root hroot hcovered
      obtain ⟨witness, -, -, hanswer⟩ := h.conclude_covered attribution hroot (not_not.mp hcovered)
      simp [hanswer]
  · intro row hrow
    obtain ⟨root, hroot, hpick⟩ := mem_filterMap.mp hrow
    by_cases hcovered : Covered check eligible root
    · obtain ⟨witness, hmem, hbelow, hanswer⟩ := h.conclude_covered attribution hroot hcovered
      simp only [comp_apply, hanswer, Sum.getLeft?_inl, Option.some.injEq] at hpick
      subst hpick
      exact ⟨hmem, hbelow⟩
    · obtain ⟨item, hanswer, -, -⟩ := h.conclude_uncovered attribution hroot hcovered
      simp [hanswer] at hpick
  · intro item hitem
    obtain ⟨root, hroot, hpick⟩ := mem_filterMap.mp hitem
    by_cases hcovered : Covered check eligible root
    · obtain ⟨witness, -, -, hanswer⟩ := h.conclude_covered attribution hroot hcovered
      simp [hanswer] at hpick
    · obtain ⟨other, hanswer, -, habsent⟩ := h.conclude_uncovered attribution hroot hcovered
      simp only [comp_apply, hanswer, Sum.getRight?_inr, Option.some.injEq] at hpick
      subst hpick
      exact habsent

lemma Ended.concluded (h : Ended check eligible protectedRoots v) (witnesses : List Witness) :
    Concluded check eligible protectedRoots.roots v.budget.peak
      (v.conclude protectedRoots witnesses eligible) := by
  classical
  unfold conclude
  simp only
  generalize attributedTo witnesses = attribution
  obtain ⟨hrows, hitems, hcited, habsent⟩ := h.answers attribution
  split
  · rename_i hsome
    refine .unpreserved _ ?_ hitems habsent
    by_contra hnone
    have hall : ∀ root ∈ protectedRoots.roots, Covered check eligible root := by
      intro root hroot
      by_contra huncovered
      exact hnone ⟨root, hroot, huncovered⟩
    rw [filter_eq_nil_iff.mpr (by simpa using hall), map_eq_nil_iff] at hitems
    exact hsome hitems
  · rename_i hnone
    have hall : ∀ root ∈ protectedRoots.roots, Covered check eligible root := by
      rw [not_not.mp hnone, map_nil, eq_comm, filter_eq_nil_iff] at hitems
      simpa using hitems
    refine .verified _ hall rfl ?_ hcited
    rw [hrows]
    exact filter_eq_self.mpr (by simpa using hall)

end Verifier
/-! ### Exactness -/

lemma Served.nodes {check : Check} (h : Served check) (eligible : List ProtectedRoot) :
    ∃ nodes : Finset ObjectId, (∀ a b, Search.Edge check.edges a b → b ∈ nodes) ∧
      ∀ root ∈ eligible, root.oid ∈ nodes := by
  have hfinite :
      {oid | ∃ a ∈ {a | ∃ record, check.reader.readObject a check.limits.reads = .ok record},
      oid ∈ ((check.edges a).getD [])}.Finite := by
    have hunion := h.finite.biUnion fun a _ => ((check.edges a).getD []).finite_toSet
    refine hunion.subset ?_
    rintro oid ⟨a, ha, hoid⟩
    exact Set.mem_biUnion ha hoid
  refine ⟨hfinite.toFinset ∪ (eligible.map ProtectedRoot.oid).toFinset, ?_, ?_⟩
  · rintro a b ⟨next, hread, hmem⟩
    rw [Finset.mem_union, Set.Finite.mem_toFinset]
    refine .inl ⟨a, ?_, by simpa [hread] using hmem⟩
    unfold Check.edges at hread
    split at hread
    · rename_i record hrecord
      exact ⟨record, hrecord⟩
    · cases hread
  · intro root hroot
    rw [Finset.mem_union, mem_toFinset]
    exact .inr (mem_map_of_mem hroot)

/-- What an answer that preserves everything must cite: for each protected root a retained
one that the policy accepts and that reaches it, and all below it in the store. -/
structure Cited (check : Check) (policy : WitnessPolicy) (row : RootCoverage) : Prop where
  retained : ∃ retained, check.reader.retainedRoots = .ok retained ∧
    row.witnessRoot ∈ retained.roots
  eligible : isEligibleWitnessRootUnder row.witnessRoot.source policy = true
  reached : check.Below row.witnessRoot.oid row.root.oid
  whole : ∀ oid, check.Below row.root.oid oid →
    ∃ record, check.reader.readObject oid check.limits.reads = .ok record

lemma edges_ne_none {check : Check} {oid : ObjectId} (h : check.edges oid ≠ none) :
    ∃ record, check.reader.readObject oid check.limits.reads = .ok record := by
  unfold Check.edges at h
  split at h
  · rename_i record hrecord
    exact ⟨record, hrecord⟩
  · exact absurd rfl h

/-- Nothing keeps the check from its answer. -/
structure Unhindered (check : Check) (policy : WitnessPolicy)
    (protectedRoots retained : ProtectedRoots) (report : Report) : Prop where
  uncancelled : ∀ number, check.cancellation number = false
  listed : check.reader.retainedRoots = .ok retained
  roots_le : protectedRoots.roots.length + (eligibleRoots policy retained).length ≤
    check.limits.maxRoots
  bytes_le : report.peak ≤ check.limits.maxBookkeepingBytes
  answered : ∀ oid, Asked check (eligibleRoots policy retained) oid → Answered check oid

/-- What a report says of the store. -/
structure Report.Exact (check : Check) (policy : WitnessPolicy) (protectedRoots : ProtectedRoots)
    (witnesses : List Witness) (report : Report) : Prop where
  reads : report.reads.Nodup
  fits : report.peak ≤ check.limits.maxBookkeepingBytes ∨
    ∃ reasons, report.outcome = .unknown reasons
  verified : ∀ coverage, report.outcome = .verified coverage →
    coverage.bookkeepingBytes ≤ check.limits.maxBookkeepingBytes ∧
    coverage.covered.map RootCoverage.root = protectedRoots.roots ∧
    ∀ row ∈ coverage.covered, Cited check policy row
  complete : ∀ retained, Unhindered check policy protectedRoots retained report →
    (∀ root ∈ protectedRoots.roots, ∀ detail, root.source ≠ .other detail) → witnesses ≠ [] →
    ((∀ root ∈ protectedRoots.roots, Covered check (eligibleRoots policy retained) root) ∧
      ∃ coverage, report.outcome = .verified coverage) ∨
    ((∃ root ∈ protectedRoots.roots, ¬ Covered check (eligibleRoots policy retained) root) ∧
      ∃ items, report.outcome = .unpreserved items ∧
        (open Classical in items.map UnpreservedItem.root = protectedRoots.roots.filter
          fun root => ¬ Covered check (eligibleRoots policy retained) root) ∧
        ∀ item ∈ items, Absent check item)

/-- Over a served store a run of enough rounds stops for a reason or ends, its record kept. -/
lemma Served.run_ends {check : Check} (h : Served check)
    (hcancellation : ¬ check.cancellation 0 = true)
    (protectedRoots : ProtectedRoots) (eligible : List ProtectedRoot) :
    ∃ bound, ∀ rounds, bound ≤ rounds →
      (∃ reason v, run check rounds protectedRoots eligible (.new check.limits) = .error reason v ∧
        Stopped check eligible check.limits.maxBookkeepingBytes v reason ∧ Halted check v) ∨
      ∃ v, run check rounds protectedRoots eligible (.new check.limits) = .ok true v ∧
        Ended check eligible protectedRoots v ∧ Logged check v := by
  obtain ⟨nodes, hnodes, hmem⟩ := h.nodes eligible
  refine ⟨∑ a ∈ nodes, (((check.edges a).getD []).length + 2), fun rounds hrounds => ?_⟩
  obtain ⟨hgoes, hstops⟩ :=
    run_goes protectedRoots (by simpa using hcancellation) h.acyclic hnodes hrounds hmem _ rfl
  cases hrun : run check rounds protectedRoots eligible (.new check.limits) with
  | error reason v => exact .inl ⟨reason, v, rfl, hstops reason v hrun⟩
  | ok ended v =>
    obtain ⟨hlogged, rfl, hended⟩ := hgoes ended v hrun
    exact .inr ⟨v, rfl, hended, hlogged⟩

section Reports
variable {check : Check} {policy : WitnessPolicy} {protectedRoots : ProtectedRoots}
  {witnesses : List Witness} {retained : ProtectedRoots}

/-- An answer given early, that a check nothing hinders does not give. -/
lemma Report.Exact.early_unknown {reasons : List UnknownReason} (hhindered : ∀ retained,
      Unhindered check policy protectedRoots retained (.early (.unknown reasons)) →
      ∃ root ∈ protectedRoots.roots, ∃ detail, root.source = .other detail) :
    (Report.early (.unknown reasons)).Exact check policy protectedRoots witnesses where
  reads := nodup_nil
  fits := .inl (zero_le _)
  verified := by
    intro coverage hverified
    cases hverified
  complete := by
    intro retained hunhindered hinterpreted _
    obtain ⟨root, hroot, detail, hdetail⟩ := hhindered retained hunhindered
    exact absurd hdetail (hinterpreted root hroot detail)

lemma unsupported_ne_nil (h : unsupported protectedRoots ≠ []) :
    ∃ root ∈ protectedRoots.roots, ∃ detail, root.source = .other detail := by
  obtain ⟨reason, hreason⟩ := exists_mem_of_ne_nil _ h
  obtain ⟨root, hroot, hpick⟩ := mem_filterMap.mp hreason
  refine ⟨root, hroot, ?_⟩
  split at hpick
  · rename_i detail hdetail
    exact ⟨detail, hdetail⟩
  · cases hpick

lemma Report.Exact.nothing_to_check (hroots : protectedRoots.roots = []) :
    (Report.early (.verified .default)).Exact check policy protectedRoots witnesses where
  reads := nodup_nil
  fits := .inl (zero_le _)
  verified := by
    intro coverage hverified
    cases hverified
    exact ⟨zero_le _, hroots.symm, by simp [Coverage.default]⟩
  complete := by
    intro retained _ _ _
    exact .inl ⟨by simp [hroots], _, rfl⟩

lemma Report.Exact.no_witness {items : List UnpreservedItem} (hwitnesses : witnesses = []) :
    (Report.early (.unpreserved items)).Exact check policy protectedRoots witnesses where
  reads := nodup_nil
  fits := .inl (zero_le _)
  verified := by
    intro coverage hverified
    cases hverified
  complete := by
    intro retained _ _ hsome
    exact absurd hwitnesses hsome

lemma Report.Exact.stopped {v : Verifier} {reason : UnknownReason}
    (hretained : check.reader.retainedRoots = .ok retained)
    (h : Stopped check (eligibleRoots policy retained) check.limits.maxBookkeepingBytes v reason) :
    (Report.mk (.unknown [reason]) v.reads v.budget.peak).Exact check policy protectedRoots
      witnesses where
  reads := h.reads
  fits := .inr ⟨_, rfl⟩
  verified := by
    intro coverage hverified
    cases hverified
  complete := by
    intro retained' hunhindered _ _
    have hsame : retained' = retained :=
      Except.ok.inj (hunhindered.listed.symm.trans hretained)
    subst hsame
    rcases h.reason with ⟨number, hcancelled⟩ | ⟨-, hpeak⟩ | ⟨oid, error, hasked, hread, hmissing⟩
    · simp [hunhindered.uncancelled number] at hcancelled
    · exact absurd hunhindered.bytes_le (not_le.mpr hpeak)
    · rcases hunhindered.answered oid hasked with ⟨record, hok⟩ | ⟨absent, habsent⟩
      · rw [hread] at hok
        cases hok
      · rw [hread] at habsent
        exact absurd (Except.error.inj habsent) (hmissing absent)

lemma Report.Exact.concluded {v : Verifier}
    {outcome : HistoryOutcome} (hretained : check.reader.retainedRoots = .ok retained)
    (h : Ended check (eligibleRoots policy retained) protectedRoots v)
    (houtcome : Concluded check (eligibleRoots policy retained) protectedRoots.roots v.budget.peak
      outcome) :
    (Report.mk outcome v.reads v.budget.peak).Exact check policy protectedRoots witnesses := by
  have hbytes : v.budget.peak ≤ check.limits.maxBookkeepingBytes := by
    rw [← h.limit]
    exact h.resting.side.fits.peak_le_limit
  have hsame : ∀ {retained'}, check.reader.retainedRoots = .ok retained' → retained' = retained :=
    fun hretained' => Except.ok.inj (hretained'.symm.trans hretained)
  cases houtcome with
  | verified coverage hcovered hpeak hroots hrows =>
    refine ⟨h.resting.side.reads, .inl hbytes, ?_, ?_⟩
    · intro other hother
      cases hother
      refine ⟨hpeak.trans_le hbytes, hroots, ?_⟩
      intro row hrow
      obtain ⟨hmem, hbelow⟩ := hrows row hrow
      obtain ⟨hretained', heligible⟩ := mem_filter.mp hmem
      refine ⟨⟨retained, hretained, hretained'⟩, heligible, hbelow, ?_⟩
      intro oid hoid
      have hroot : row.root ∈ protectedRoots.roots := by
        rw [← hroots]
        exact mem_map_of_mem hrow
      exact edges_ne_none ((hcovered row.root hroot).2 oid hoid)
    · intro retained' hunhindered _ _
      cases hsame hunhindered.listed
      exact .inl ⟨hcovered, coverage, rfl⟩
  | unpreserved items huncovered hroots hitems =>
    refine ⟨h.resting.side.reads, .inl hbytes, ?_, ?_⟩
    · intro coverage hverified
      cases hverified
    · intro retained' hunhindered _ _
      cases hsame hunhindered.listed
      exact .inr ⟨huncovered, items, rfl, hroots, hitems⟩

/-- The walk over a served store ends and its answer is exact. -/
lemma verify_exact (hserved : Served check) (hcancellation : ¬ check.cancellation 0 = true)
    (hretained : check.reader.retainedRoots = .ok retained) :
    ∃ bound, ∀ rounds, bound ≤ rounds → ∃ report,
      verify check rounds protectedRoots witnesses (eligibleRoots policy retained) = some report ∧
        report.Exact check policy protectedRoots witnesses := by
  obtain ⟨bound, hbound⟩ :=
    hserved.run_ends hcancellation protectedRoots (eligibleRoots policy retained)
  refine ⟨bound, fun rounds hrounds => ?_⟩
  unfold verify
  rcases hbound rounds hrounds with ⟨reason, v, hrun, hstopped, -⟩ | ⟨v, hrun, hended, -⟩
  · rw [hrun]
    exact ⟨_, rfl, .stopped hretained hstopped⟩
  · rw [hrun]
    exact ⟨_, rfl, .concluded hretained hended (hended.concluded witnesses)⟩

/-- A check with something to check and a witness answers unknown, with a reason, or
concludes over the witness's retained roots. -/
lemma checkHistoryUnder_concluded (hserved : Served check) (hroots : protectedRoots.roots ≠ [])
    (hwitnesses : witnesses ≠ []) :
    ∃ bound, ∀ rounds, bound ≤ rounds → ∃ report,
      checkHistoryUnder check rounds protectedRoots witnesses policy = some report ∧
        ((∃ reasons, report.outcome = .unknown reasons ∧ reasons ≠ []) ∨
          ∃ retained, check.reader.retainedRoots = .ok retained ∧
            Concluded check (eligibleRoots policy retained) protectedRoots.roots report.peak
              report.outcome) := by
  unfold checkHistoryUnder
  simp only [hroots, hwitnesses, if_false]
  split_ifs with hcancelled hcount hunsupported
  · exact ⟨0, fun _ _ => ⟨_, rfl, .inl ⟨_, rfl, by simp⟩⟩⟩
  · exact ⟨0, fun _ _ => ⟨_, rfl, .inl ⟨_, rfl, by simp⟩⟩⟩
  · exact ⟨0, fun _ _ => ⟨_, rfl, .inl ⟨_, rfl, hunsupported⟩⟩⟩
  · cases hretained : check.reader.retainedRoots with
    | error => exact ⟨0, fun _ _ => ⟨_, rfl, .inl ⟨_, rfl, by simp⟩⟩⟩
    | ok retained =>
      simp only
      split_ifs with htotal
      · exact ⟨0, fun _ _ => ⟨_, rfl, .inl ⟨_, rfl, by simp⟩⟩⟩
      · obtain ⟨bound, hbound⟩ :=
          hserved.run_ends hcancelled protectedRoots (eligibleRoots policy retained)
        refine ⟨bound, fun rounds hrounds => ?_⟩
        unfold verify
        rcases hbound rounds hrounds with ⟨reason, v, hrun, -⟩ | ⟨v, hrun, hended, -⟩
        · rw [hrun]
          exact ⟨_, rfl, .inl ⟨_, rfl, by simp⟩⟩
        · rw [hrun]
          exact ⟨_, rfl, .inr ⟨retained, rfl, hended.concluded witnesses⟩⟩

end Reports

/-- The object whose digest ends in `last`. -/
def smallOid (last : UInt8) : ObjectId := ⟨.sha1, List.replicate 19 0 ++ [last], rfl⟩

/-- A commit over a tree that lacks one of its two blobs, and a branch at the commit. -/
def smallCheck : Check where
  reader :=
    { retainedRoots := .ok ⟨[⟨.ref "refs/heads/main", smallOid 1⟩], []⟩
      readObject := fun oid _ =>
        if oid = smallOid 1 then .ok ⟨oid, .commit, 10, [smallOid 2]⟩
        else if oid = smallOid 2 then .ok ⟨oid, .tree, 10, [smallOid 3, smallOid 4]⟩
        else if oid = smallOid 3 then .ok ⟨oid, .blob, 10, []⟩
        else .error (.missing oid) }
  cancellation := fun _ => false
  limits := ⟨10, 10000, ⟨1000⟩⟩
  layout := ⟨24, 48, 80, 1, 8⟩

lemma smallCheck_edge {a b : ObjectId} (h : Search.Edge smallCheck.edges a b) :
    (a = smallOid 1 ∧ b = smallOid 2) ∨ (a = smallOid 2 ∧ (b = smallOid 3 ∨ b = smallOid 4)) := by
  obtain ⟨next, hread, hmem⟩ := h
  simp only [Check.edges, smallCheck] at hread
  split_ifs at hread with h1 h2 h3
  · cases hread
    exact .inl ⟨h1, mem_singleton.mp hmem⟩
  · cases hread
    exact .inr ⟨h2, by simpa using hmem⟩
  · cases hread
    cases hmem

lemma smallCheck_served : Served smallCheck where
  finite := by
    refine Set.Finite.subset (Set.toFinite {smallOid 1, smallOid 2, smallOid 3}) ?_
    rintro oid ⟨record, hread⟩
    simp only [smallCheck] at hread
    split_ifs at hread with h1 h2 h3
    · simp [h1]
    · simp [h2]
    · simp [h3]
  acyclic := by
    -- digests grow along every edge
    have hgrow : ∀ a b, Relation.TransGen (Search.Edge smallCheck.edges) a b →
        a.bytes.getLast!.toNat < b.bytes.getLast!.toNat := by
      intro a b h
      induction h with
      | single hedge =>
        rcases smallCheck_edge hedge with ⟨rfl, rfl⟩ | ⟨rfl, rfl | rfl⟩ <;> decide
      | tail _ hedge ih =>
        refine lt_trans ih ?_
        rcases smallCheck_edge hedge with ⟨rfl, rfl⟩ | ⟨rfl, rfl | rfl⟩ <;> decide
    intro a h
    exact lt_irrefl _ (hgrow a a h)

lemma smallCheck_answered (oid : ObjectId) : Answered smallCheck oid := by
  simp only [Answered, smallCheck]
  split_ifs
  · exact .inl ⟨_, rfl⟩
  · exact .inl ⟨_, rfl⟩
  · exact .inl ⟨_, rfl⟩
  · exact .inr ⟨_, rfl⟩

lemma smallCheck_covered (source : RootSource) :
    Covered smallCheck [⟨.ref "refs/heads/main", smallOid 1⟩] ⟨source, smallOid 3⟩ := by
  refine ⟨⟨_, mem_singleton.mpr rfl, ?_⟩, ?_⟩
  · have hcommit : Search.Edge smallCheck.edges (smallOid 1) (smallOid 2) :=
      ⟨[smallOid 2], by decide +kernel, by simp⟩
    have htree : Search.Edge smallCheck.edges (smallOid 2) (smallOid 3) :=
      ⟨[smallOid 3, smallOid 4], by decide +kernel, by simp⟩
    exact (Relation.ReflTransGen.single hcommit).tail htree
  · intro oid hbelow
    have hblob : oid = smallOid 3 := by
      induction hbelow with
      | refl => rfl
      | tail _ hedge ih =>
        subst ih
        rcases smallCheck_edge hedge with ⟨hsame, _⟩ | ⟨hsame, _⟩ <;>
          exact absurd hsame (by decide)
    subst hblob
    decide +kernel

end GwzCore.HistoryCheck
