import GwzCore.HistoryCheck.Exact
import GwzCore.LocalDisposal.Validate

/-!
# The history question of a disposal

Whether the history of a repository that is about to go survives in the family: every
surviving workspace that pairs the repository is one witness, checked alone, and the
answers are folded into one. A workspace is paired through its manifest. One whose manifest
cannot be read is passed over, so that a loss is called known although the repository that
might hold the history was never looked at.
-/
namespace GwzCore.LocalDisposal
open FamilyModel HistoryCheck HostPath WorkDetector List

structure ManifestMember where
  id : String
  path : String
  deriving DecidableEq

def defaultLimits : Limits := ⟨100000, 256 * 1024 * 1024, ⟨64 * 1024 * 1024⟩⟩

/-- What the surviving workspaces show. -/
structure Disk where
  /-- The members of the manifest of a workspace, if it can be read. -/
  readManifest : Path → Option (List ManifestMember)
  /-- The repository at a path, or why it is none. -/
  inspectLayout : Path → Except String RepositoryInfo
  openReader : RepositoryInfo → ObjectReader
  layout : Layout
  /-- Objects are named by their content: a store is finite and none contains itself. -/
  served : ∀ info, Served ⟨openReader info, fun _ => false, defaultLimits, layout⟩

/-- A check of one witness's store, never cancelled. -/
def Disk.check (disk : Disk) (info : RepositoryInfo) : Check :=
  ⟨disk.openReader info, fun _ => false, defaultLimits, disk.layout⟩

structure CoreDisposalPorts where
  disk : Disk
  /-- The root of the family. -/
  root : Path
  view : FamilyView
  /-- The member about to go. -/
  name : MemberName

namespace CoreDisposalPorts

/-- A copy of a workspace is covered by the witness's own reflog and stash entries too. -/
def witnessPolicy (ports : CoreDisposalPorts) : WitnessPolicy :=
  match ports.view.members[ports.name]?.map MemberRow.mode with
  | some .verbatim => .identicalCopy
  | _ => .durable

/-- The surviving workspaces: the root and every other ready member. -/
def workspaces (ports : CoreDisposalPorts) : List (String × Path) :=
  (rootName, ports.root) :: (ports.view.members.toList.filter fun entry =>
    decide (entry.1 ≠ ports.name) && decide (entry.2.state = .ready)).map fun entry =>
      (entry.1.asStr, join ports.root (ofText entry.2.path))

/-- The repository of a workspace that is paired with the target. -/
def paired (ports : CoreDisposalPorts) (target : RepoKey) (workspace : String × Path) :
    Option Path :=
  match target with
  | .root => some workspace.2
  | .member id => do
    let members ← ports.disk.readManifest workspace.2
    let found ← members.find? fun candidate => candidate.id = id
    return join workspace.2 (ofText found.path)

def witnesses (ports : CoreDisposalPorts) (target : RepoKey) : List (String × Path) :=
  ports.workspaces.filterMap fun workspace =>
    (ports.paired target workspace).map fun path => (workspace.1, path)

end CoreDisposalPorts

def debugSource : RootSource → String
  | .ref name => s!"Ref \x7b name: {name.quote} \x7d"
  | .head => "Head"
  | .reflog reference index => s!"Reflog \x7b reference: {reference.quote}, index: {index} \x7d"
  | .stash index => s!"Stash \x7b index: {index} \x7d"
  | .annotatedTag name => s!"AnnotatedTag \x7b name: {name.quote} \x7d"
  | .coordinationRecord record object =>
    s!"CoordinationRecord \x7b record: {record.quote}, object: {object.quote} \x7d"
  | .other detail => s!"Other \x7b detail: {detail.quote} \x7d"

/-- The roots no witness covered yet, and what kept witnesses from answering. -/
structure Tally where
  uncovered : List ProtectedRoot
  unknown : List LocatedReason

def located (reason : UnknownReason) : LocatedReason := ⟨reason, none⟩

def witnessOf (target : RepoKey) (witness : String × Path) : Witness :=
  ⟨target, s!"{witness.1} ({display witness.2})"⟩

def unreadable (witness : String × Path) (error : String) : LocatedReason :=
  .new .unreadable s!"witness `{witness.1}` at {display witness.2}: {error}"

/-- One witness. Nothing is examined once every root is covered. -/
def examine (disk : Disk) (rounds : ℕ) (query : HistoryQuery) (policy : WitnessPolicy)
    (tally : Tally) (witness : String × Path) : Option Tally :=
  if tally.uncovered = [] then some tally
  else
    match disk.inspectLayout witness.2 with
    | .error error => some { tally with unknown := tally.unknown ++ [unreadable witness error] }
    | .ok info => do
      let report ← checkHistoryUnder (disk.check info) rounds query.protectedRoots
        [witnessOf query.target witness] policy
      match report.outcome with
      | .verified _ => return { tally with uncovered := [] }
      | .unpreserved items => return { tally with
          uncovered := tally.uncovered.filter fun root =>
            (items.map fun item => item.root.oid).contains root.oid }
      | .unknown reasons => return { tally with unknown := tally.unknown ++ reasons.map located }

attribute [local simp] examine

def examineAll (disk : Disk) (rounds : ℕ) (query : HistoryQuery) (policy : WitnessPolicy) :
    List (String × Path) → Tally → Option Tally
  | [], tally => some tally
  | witness :: rest, tally => do
    let tally ← examine disk rounds query policy tally witness
    examineAll disk rounds query policy rest tally

/-- Nothing when `rounds` are not enough for a walk. -/
def CoreDisposalPorts.checkHistory (ports : CoreDisposalPorts) (rounds : ℕ) (query : HistoryQuery) :
    Option HistoryAnswer :=
  if query.protectedRoots.unknown ≠ [] then
    some (.unknown (query.protectedRoots.unknown.map located))
  else if ports.witnesses query.target = [] then
    some (.unpreserved s!"no surviving family repository is paired with {query.target.display}")
  else do
    let tally ← examineAll ports.disk rounds query ports.witnessPolicy
      (ports.witnesses query.target) ⟨query.protectedRoots.roots, []⟩
    if tally.uncovered = [] then return .preserved
    else if tally.unknown ≠ [] then return .unknown tally.unknown
    else
      let count := tally.uncovered.length
      let names := ", ".intercalate (tally.uncovered.map fun root =>
        s!"{debugSource root.source} {root.oid.toHex}")
      return .unpreserved
        (s!"{count} protected root(s) of {query.target.display} are preserved whole in no "
          ++ s!"surviving family repository: {names}")

/-! ### What one witness shows -/

/-- The repository at `path` preserves the root, whole and by a root the policy accepts. -/
def Preserves (disk : Disk) (policy : WitnessPolicy) (path : Path) (root : ProtectedRoot) : Prop :=
  ∃ info retained, disk.inspectLayout path = .ok info ∧
    (disk.openReader info).retainedRoots = .ok retained ∧
    Covered (disk.check info) (eligibleRoots policy retained) root

/-- The repository at `path` was read to the end, and the roots it does not preserve are named. -/
def Examined (disk : Disk) (rounds : ℕ) (query : HistoryQuery) (policy : WitnessPolicy)
    (witness : String × Path) : Prop :=
  ∃ info retained report items, disk.inspectLayout witness.2 = .ok info ∧
    (disk.openReader info).retainedRoots = .ok retained ∧
    checkHistoryUnder (disk.check info) rounds query.protectedRoots
      [witnessOf query.target witness] policy = some report ∧
    report.outcome = .unpreserved items ∧
    open Classical in items.map UnpreservedItem.root = query.protectedRoots.roots.filter
      fun root => ¬ Covered (disk.check info) (eligibleRoots policy retained) root

/-- What a tally says of the witnesses it is about. -/
structure Tallied (disk : Disk) (rounds : ℕ) (query : HistoryQuery) (policy : WitnessPolicy)
    (done : List (String × Path)) (tally : Tally) : Prop where
  covered : ∀ root ∈ query.protectedRoots.roots, root ∈ tally.uncovered ∨
    ∃ witness ∈ done, Preserves disk policy witness.2 root
  /-- A root still open is one of the query's, and none of the witnesses has it. -/
  lost : ∀ root ∈ tally.uncovered, root ∈ query.protectedRoots.roots ∧
    (tally.unknown = [] → ∀ witness ∈ done, ¬ Preserves disk policy witness.2 root)
  examined : tally.unknown = [] → tally.uncovered ≠ [] →
    ∀ witness ∈ done, Examined disk rounds query policy witness
  known : (∀ witness ∈ done, Examined disk rounds query policy witness) → tally.unknown = []

section Examine
variable {disk : Disk} {rounds : ℕ} {query : HistoryQuery} {policy : WitnessPolicy}
  {done : List (String × Path)} {tally : Tally} {witness : String × Path}

lemma Tallied.more (h : Tallied disk rounds query policy done tally) {later : Tally}
    (hcovered : ∀ root ∈ query.protectedRoots.roots, root ∈ tally.uncovered →
      root ∈ later.uncovered ∨ Preserves disk policy witness.2 root)
    (hlost : ∀ root ∈ later.uncovered, root ∈ tally.uncovered ∧
      (later.unknown = [] → tally.unknown = [] ∧ Examined disk rounds query policy witness ∧
        ¬ Preserves disk policy witness.2 root))
    (hknown : Examined disk rounds query policy witness → tally.unknown = [] → later.unknown = []) :
    Tallied disk rounds query policy (done ++ [witness]) later where
  covered := by
    intro root hroot
    rcases h.covered root hroot with hopen | ⟨other, hother, hpreserves⟩
    · rcases hcovered root hroot hopen with hstill | hpreserves
      · exact .inl hstill
      · exact .inr ⟨witness, by simp, hpreserves⟩
    · exact .inr ⟨other, mem_append_left _ hother, hpreserves⟩
  lost := by
    intro root hroot
    obtain ⟨hopen, hlast⟩ := hlost root hroot
    obtain ⟨hown, hdone⟩ := h.lost root hopen
    refine ⟨hown, fun hunknown => forall_mem_append.mpr ⟨hdone (hlast hunknown).1, ?_⟩⟩
    exact forall_mem_singleton.mpr (hlast hunknown).2.2
  examined := by
    intro hunknown huncovered
    obtain ⟨root, hroot⟩ := exists_mem_of_ne_nil _ huncovered
    obtain ⟨hopen, hlast⟩ := hlost root hroot
    obtain ⟨hbefore, hexamined, -⟩ := hlast hunknown
    exact forall_mem_append.mpr
      ⟨h.examined hbefore (ne_nil_of_mem hopen), forall_mem_singleton.mpr hexamined⟩
  known := by
    intro hexamined
    obtain ⟨hdone, hlast⟩ := forall_mem_append.mp hexamined
    exact hknown (forall_mem_singleton.mp hlast) (h.known hdone)

/-- A witness whose examination is not finished leaves the roots open. -/
lemma Tallied.unfinished (h : Tallied disk rounds query policy done tally)
    (hnot : ¬ Examined disk rounds query policy witness) {reasons : List LocatedReason}
    (hsome : reasons ≠ []) :
    Tallied disk rounds query policy (done ++ [witness])
      { tally with unknown := tally.unknown ++ reasons } := by
  refine h.more (fun _ _ hstill => .inl hstill) (fun root hroot => ⟨hroot, fun hnone => ?_⟩)
    fun hexamined => absurd hexamined hnot
  exact absurd (append_eq_nil_iff.mp hnone).2 hsome

/-- The step lemma: a witness is examined to the end, given rounds enough for its store. -/
lemma examine_tallied (disk : Disk) (query : HistoryQuery)
    (policy : WitnessPolicy) (witness : String × Path) :
    ∃ bound, ∀ rounds, bound ≤ rounds → ∀ done tally,
      query.protectedRoots.roots ≠ [] →
      Tallied disk rounds query policy done tally →
        ∃ later, examine disk rounds query policy tally witness = some later ∧
          Tallied disk rounds query policy (done ++ [witness]) later := by
  by_cases hroots : query.protectedRoots.roots = []
  · exact ⟨0, fun _ _ _ _ hne => absurd hroots hne⟩
  -- nothing is examined once every root is covered
  have hskip : ∀ {rounds : ℕ} {done : List (String × Path)} {tally : Tally},
      tally.uncovered = [] → Tallied disk rounds query policy done tally →
      ∃ later, examine disk rounds query policy tally witness = some later ∧
        Tallied disk rounds query policy (done ++ [witness]) later := by
    intro rounds done tally hopen h
    exact ⟨tally, by simp [hopen], h.more (fun _ _ hstill => .inl hstill) (by simp [hopen])
      fun _ hknown => hknown⟩
  cases hlayout : disk.inspectLayout witness.2 with
  | error error =>
    refine ⟨0, fun rounds _ done tally _ h => ?_⟩
    by_cases hopen : tally.uncovered = []
    · exact hskip hopen h
    · refine ⟨{ tally with unknown := tally.unknown ++ [unreadable witness error] },
        by simp [hopen, hlayout], h.unfinished ?_ (cons_ne_nil _ _)⟩
      rintro ⟨info, _, _, _, hinfo, -⟩
      cases hlayout.symm.trans hinfo
  | ok info =>
    obtain ⟨bound, hbound⟩ := @checkHistoryUnder_concluded (disk.check info) policy
      query.protectedRoots _ (disk.served info) hroots
      (cons_ne_nil (witnessOf query.target witness) [])
    refine ⟨bound, fun rounds hrounds done tally _ h => ?_⟩
    obtain ⟨report, hreport, houtcome⟩ := hbound rounds hrounds
    by_cases hopen : tally.uncovered = []
    · exact hskip hopen h
    rcases houtcome with ⟨reasons, hunknown, hsome⟩ | ⟨retained, hretained, hconcluded⟩
    · refine ⟨{ tally with unknown := tally.unknown ++ reasons.map located },
        by simp [hopen, hlayout, hreport, hunknown], h.unfinished ?_ (by simpa using hsome)⟩
      rintro ⟨info', _, report', items, hinfo, -, hagain, hitems, -⟩
      cases Except.ok.inj (hlayout.symm.trans hinfo)
      cases Option.some.inj (hreport.symm.trans hagain)
      cases hunknown.symm.trans hitems
    · generalize houtcome : report.outcome = outcome at hconcluded
      cases hconcluded with
      | verified coverage hcovered =>
        refine ⟨{ tally with uncovered := [] }, by simp [hopen, hlayout, hreport, houtcome],
          h.more ?_ (by simp) fun _ hknown => hknown⟩
        exact fun root hroot _ => .inr ⟨info, retained, hlayout, hretained, hcovered root hroot⟩
      | unpreserved items huncovered hitems =>
        have hnamed : ∀ root : ProtectedRoot, root ∈ items.map UnpreservedItem.root ↔
            root ∈ query.protectedRoots.roots ∧
              ¬ Covered (disk.check info) (eligibleRoots policy retained) root := by
          intro root
          rw [hitems, mem_filter]
          simp
        refine ⟨{ tally with uncovered := tally.uncovered.filter fun root =>
            (items.map fun item => item.root.oid).contains root.oid },
          by simp [hopen, hlayout, hreport, houtcome], h.more ?_ ?_ fun _ hknown => hknown⟩
        · intro root hroot hstill
          by_cases hcovered : Covered (disk.check info) (eligibleRoots policy retained) root
          · exact .inr ⟨info, retained, hlayout, hretained, hcovered⟩
          · refine .inl (mem_filter.mpr ⟨hstill, ?_⟩)
            obtain ⟨item, hitem, rfl⟩ := mem_map.mp ((hnamed root).mpr ⟨hroot, hcovered⟩)
            rw [contains_iff_mem, mem_map]
            exact ⟨item, hitem, rfl⟩
        · intro root hroot
          obtain ⟨hstill, hfound⟩ := mem_filter.mp hroot
          refine ⟨hstill, fun hunknown => ⟨hunknown, ⟨info, retained, report, items, hlayout,
            hretained, hreport, houtcome, hitems⟩, ?_⟩⟩
          rw [contains_iff_mem, mem_map] at hfound
          obtain ⟨item, hitem, hsame⟩ := hfound
          rintro ⟨info', retained', hinfo, hretained', hcovered⟩
          cases Except.ok.inj (hlayout.symm.trans hinfo)
          cases Except.ok.inj (hretained.symm.trans hretained')
          -- whether a root is covered depends on its object only
          rw [Covered, ← hsame] at hcovered
          exact ((hnamed item.root).mp (mem_map_of_mem hitem)).2 hcovered

/-- The run lemma: rounds enough for every store examine all witnesses. -/
lemma examineAll_tallied (disk : Disk) (query : HistoryQuery)
    (policy : WitnessPolicy) (hroots : query.protectedRoots.roots ≠ [])
    (rest : List (String × Path)) : ∃ bound, ∀ rounds, bound ≤ rounds → ∀ done tally,
      Tallied disk rounds query policy done tally →
        ∃ later, examineAll disk rounds query policy rest tally = some later ∧
          Tallied disk rounds query policy (done ++ rest) later := by
  induction rest with
  | nil => exact ⟨0, fun _ _ done tally h => ⟨tally, rfl, by rwa [append_nil]⟩⟩
  | cons witness rest ih =>
    obtain ⟨first, hfirst⟩ := examine_tallied disk query policy witness
    obtain ⟨others, hothers⟩ := ih
    refine ⟨max first others, fun rounds hrounds done tally h => ?_⟩
    obtain ⟨between, hexamine, hbetween⟩ :=
      hfirst rounds (le_of_max_le_left hrounds) done tally hroots h
    obtain ⟨later, hrest, hlater⟩ :=
      hothers rounds (le_of_max_le_right hrounds) (done ++ [witness]) between hbetween
    rw [append_assoc] at hlater
    refine ⟨later, ?_, hlater⟩
    rw [examineAll, hexamine]
    exact hrest

end Examine

/-! ### The answer -/

namespace CoreDisposalPorts
variable {ports : CoreDisposalPorts} {query : HistoryQuery}

/-- It is known which repository of a workspace is paired with the target, if any. -/
def Identified (ports : CoreDisposalPorts) (target : RepoKey) (workspace : String × Path) : Bool :=
  decide (target = .root) || (ports.disk.readManifest workspace.2).isSome

/-- What an answer is entitled to. -/
structure Entitled (ports : CoreDisposalPorts) (rounds : ℕ) (query : HistoryQuery)
    (answer : HistoryAnswer) : Prop where
  preserved : answer = .preserved → query.protectedRoots.unknown = [] ∧
    ∀ root ∈ query.protectedRoots.roots, ∃ workspace ∈ ports.workspaces, ∃ path,
      ports.paired query.target workspace = some path ∧
        Preserves ports.disk ports.witnessPolicy path root
  unpreserved : ∀ detail, answer = .unpreserved detail → query.protectedRoots.unknown = [] ∧
    ∀ workspace ∈ ports.workspaces, ports.Identified query.target workspace = true ∧
      ∀ path, ports.paired query.target workspace = some path →
        Examined ports.disk rounds query ports.witnessPolicy (workspace.1, path)

lemma mem_witnesses {witness : String × Path} :
    witness ∈ ports.witnesses query.target ↔ ∃ workspace ∈ ports.workspaces,
      ports.paired query.target workspace = some witness.2 ∧ workspace.1 = witness.1 := by
  simp only [witnesses, mem_filterMap, Option.map_eq_some_iff]
  constructor
  · rintro ⟨workspace, hworkspace, path, hpath, rfl⟩
    exact ⟨workspace, hworkspace, hpath, rfl⟩
  · rintro ⟨workspace, hworkspace, hpath, hlabel⟩
    exact ⟨workspace, hworkspace, witness.2, hpath, by rw [hlabel]⟩

/-- The witnesses that were found decide the question: one of them was not read to the end, or
together they preserve every root. -/
def Decided (ports : CoreDisposalPorts) (rounds : ℕ) (query : HistoryQuery) : Prop :=
  ports.witnesses query.target ≠ [] ∧
    ((∃ witness ∈ ports.witnesses query.target,
      ¬ Examined ports.disk rounds query ports.witnessPolicy witness) ∨
    ∀ root ∈ query.protectedRoots.roots, ∃ witness ∈ ports.witnesses query.target,
      Preserves ports.disk ports.witnessPolicy witness.2 root)

/-- Which answers are given. -/
structure Answers (ports : CoreDisposalPorts) (rounds : ℕ) (query : HistoryQuery)
    (answer : HistoryAnswer) : Prop where
  preserved : answer = .preserved → query.protectedRoots.unknown = [] ∧
    ∀ root ∈ query.protectedRoots.roots, ∃ witness ∈ ports.witnesses query.target,
      Preserves ports.disk ports.witnessPolicy witness.2 root
  unpreserved : (∃ detail, answer = .unpreserved detail) ↔
    query.protectedRoots.unknown = [] ∧ ¬ ports.Decided rounds query

lemma Answers.of_tallied {rounds : ℕ} {tally : Tally} {answer : HistoryAnswer}
    (hinventory : query.protectedRoots.unknown = []) (hsome : ports.witnesses query.target ≠ [])
    (h : Tallied ports.disk rounds query ports.witnessPolicy (ports.witnesses query.target) tally)
    (hpreserved : answer = .preserved ↔ tally.uncovered = [])
    (hunpreserved : (∃ detail, answer = .unpreserved detail) ↔
      tally.unknown = [] ∧ tally.uncovered ≠ []) : ports.Answers rounds query answer where
  preserved := by
    intro hanswer
    refine ⟨hinventory, fun root hroot => (h.covered root hroot).resolve_left ?_⟩
    simp [hpreserved.mp hanswer]
  unpreserved := by
    rw [hunpreserved, Decided]
    refine ⟨fun ⟨hknown, hopen⟩ => ⟨hinventory, fun ⟨_, hdecided⟩ => ?_⟩, fun ⟨_, hnot⟩ => ?_⟩
    · rcases hdecided with ⟨witness, hwitness, hexamined⟩ | hpreserves
      · exact hexamined (h.examined hknown hopen witness hwitness)
      · obtain ⟨root, hroot⟩ := exists_mem_of_ne_nil _ hopen
        obtain ⟨witness, hwitness, hpreserved⟩ := hpreserves root (h.lost root hroot).1
        exact (h.lost root hroot).2 hknown witness hwitness hpreserved
    · push Not at hnot
      obtain ⟨hexamined, root, hroot, hlost⟩ := hnot hsome
      refine ⟨h.known hexamined, fun hnone => ?_⟩
      rcases h.covered root hroot with hopen | ⟨witness, hwitness, hpreserves⟩
      · simp [hnone] at hopen
      · exact hlost witness hwitness hpreserves

lemma checkHistory_answers (ports : CoreDisposalPorts) (query : HistoryQuery) :
    ∃ bound, ∀ rounds, bound ≤ rounds → ∃ answer, ports.checkHistory rounds query = some answer ∧
      ports.Answers rounds query answer := by
  unfold checkHistory
  split_ifs with hinventory hnone
  · exact ⟨0, fun _ _ => ⟨_, rfl, fun h => (by cases h), by simp [hinventory]⟩⟩
  · exact ⟨0, fun _ _ => ⟨_, rfl, fun h => (by cases h),
      by simp [not_not.mp hinventory, Decided, hnone]⟩⟩
  have hinventory := not_not.mp hinventory
  by_cases hroots : query.protectedRoots.roots = []
  · -- nothing is examined, and nothing needs to be
    have hskip : ∀ (rounds : ℕ) (rest : List (String × Path)),
        examineAll ports.disk rounds query ports.witnessPolicy rest ⟨[], []⟩ = some ⟨[], []⟩ := by
      intro rounds rest
      induction rest with
      | nil => rfl
      | cons witness rest ih => exact ih
    refine ⟨0, fun rounds _ => ⟨.preserved, by simp [hroots, hskip], ?_⟩⟩
    exact ⟨fun _ => ⟨hinventory, by simp [hroots]⟩, by simp [Decided, hnone, hroots]⟩
  obtain ⟨bound, hbound⟩ := examineAll_tallied ports.disk query ports.witnessPolicy hroots
    (ports.witnesses query.target)
  refine ⟨bound, fun rounds hrounds => ?_⟩
  obtain ⟨tally, hexamine, htallied⟩ := hbound rounds hrounds [] ⟨query.protectedRoots.roots, []⟩
    ⟨fun root hroot => .inl hroot, by simp, by simp, by simp⟩
  rw [nil_append] at htallied
  rw [hexamine]
  by_cases hopen : tally.uncovered = []
  · exact ⟨.preserved, by simp [hopen], .of_tallied hinventory hnone htallied (by simp [hopen])
      (by simp [hopen])⟩
  by_cases hunknown : tally.unknown = []
  · exact ⟨_, by simp only [Option.bind_eq_bind, Option.bind_some, hopen, hunknown]; rfl,
      .of_tallied hinventory hnone htallied (by simp [hopen]) (by simp [hopen, hunknown])⟩
  · exact ⟨.unknown tally.unknown, by simp [hopen, hunknown],
      .of_tallied hinventory hnone htallied (by simp [hopen]) (by simp [hunknown])⟩

/-- The answer to the history question is one it is entitled to just when the inventory is
incomplete, or the manifest of every surviving workspace can be read, or the witnesses that
were found decide it. -/
theorem checkHistory_entitled_iff (ports : CoreDisposalPorts) (query : HistoryQuery) :
    ∃ bound, ∀ rounds, bound ≤ rounds → ∃ answer, ports.checkHistory rounds query = some answer ∧
      (ports.Entitled rounds query answer ↔ query.protectedRoots.unknown ≠ [] ∨
        (∀ workspace ∈ ports.workspaces, ports.Identified query.target workspace = true) ∨
        ports.Decided rounds query) := by
  obtain ⟨bound, hbound⟩ := checkHistory_answers ports query
  refine ⟨bound, fun rounds hrounds => ?_⟩
  obtain ⟨answer, hanswer, hpreserved, hunpreserved⟩ := hbound rounds hrounds
  refine ⟨answer, hanswer, fun hentitled => by_contra fun hnot => ?_, fun hcond => ⟨?_, ?_⟩⟩
  · push Not at hnot
    obtain ⟨hinventory, ⟨workspace, hworkspace, hmissing⟩, hundecided⟩ := hnot
    obtain ⟨detail, hdetail⟩ := hunpreserved.mpr ⟨hinventory, hundecided⟩
    exact hmissing ((hentitled.unpreserved detail hdetail).2 workspace hworkspace).1
  · intro hkept
    obtain ⟨hinventory, hroots⟩ := hpreserved hkept
    refine ⟨hinventory, fun root hroot => ?_⟩
    obtain ⟨witness, hwitness, hpreserves⟩ := hroots root hroot
    obtain ⟨workspace, hworkspace, hpath, -⟩ := mem_witnesses.mp hwitness
    exact ⟨workspace, hworkspace, witness.2, hpath, hpreserves⟩
  · intro detail hdetail
    obtain ⟨hinventory, hundecided⟩ := hunpreserved.mp ⟨detail, hdetail⟩
    have hidentified := (hcond.resolve_left (not_not.mpr hinventory)).resolve_right hundecided
    refine ⟨hinventory, fun workspace hworkspace => ⟨hidentified workspace hworkspace, ?_⟩⟩
    intro path hpath
    have hwitness : (workspace.1, path) ∈ ports.witnesses query.target :=
      mem_witnesses.mpr ⟨workspace, hworkspace, hpath, rfl⟩
    by_contra hexamined
    exact hundecided ⟨ne_nil_of_mem hwitness, .inl ⟨_, hwitness, hexamined⟩⟩

end CoreDisposalPorts

/-! ### A small family of witnesses -/

namespace Sample

/-- Every repository is the small store, and every manifest is the given one. -/
def disk (manifest : Option (List ManifestMember)) : Disk where
  readManifest := fun _ => manifest
  inspectLayout := fun path => .ok ⟨path, path, path⟩
  openReader := fun _ => smallCheck.reader
  layout := smallCheck.layout
  served := fun _ => ⟨smallCheck_served.finite, smallCheck_served.acyclic⟩

def ports (manifest : Option (List ManifestMember)) : CoreDisposalPorts :=
  ⟨disk manifest, root, family "../ws-A" "../ws-B", laneA⟩

/-- A blob that the branch of the small store reaches. -/
def blobQuery : HistoryQuery := ⟨.member "m", ⟨[⟨.head, smallOid 3⟩], []⟩⟩

end Sample

/-- With manifests that cannot be read the same history is called unpreserved, which a waiver
passes, and no surviving repository was looked at. -/
theorem checkHistory_unidentified :
    ∃ answer, (Sample.ports none).checkHistory 20 Sample.blobQuery = some answer ∧
      (∃ detail, answer = .unpreserved detail) ∧
      (∀ workspace ∈ (Sample.ports none).workspaces,
        (Sample.ports none).Identified Sample.blobQuery.target workspace = false) ∧
      ¬ (Sample.ports none).Entitled 20 Sample.blobQuery answer := by
  refine ⟨_, rfl, ⟨_, rfl⟩, by decide +kernel, fun h => ?_⟩
  obtain ⟨-, hidentified⟩ := h.unpreserved _ rfl
  have hroot := (hidentified _ mem_cons_self).1
  revert hroot
  decide +kernel

end GwzCore.LocalDisposal
