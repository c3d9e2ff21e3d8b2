import GwzCore.HistoryCheck.Contract
import GwzCore.Lib.Checks
import GwzCore.Lib.HostPath
import GwzCore.Lib.Lines

/-!
# Pairing receivers with sources

An import brings commits of one workspace of the family into another. Each selected
receiver is paired with the source of the same identity, and a set mismatch refuses the
whole import before anything is transferred. A member that only the source records is a
mismatch whatever was selected; a member that only the receiving workspace records is one
only when it was selected.
-/
namespace GwzCore.LocalImport
open HistoryCheck HostPath List FiniteMap Std.ExtTreeMap

/-- Namespace of the retained import refs. -/
def importRefNamespace : String := "refs/gwz/local-imports/"

/-- A fresh transfer id, minted by the caller. -/
structure TransferId where
  asStr : String
  valid : asStr.toList ≠ [] ∧ '/' ∉ asStr.toList ∧ ∀ c ∈ asStr.toList, Lines.isWhitespace c = false

/-- The common import ref name of every paired receiver. -/
def TransferId.importRef (transfer : TransferId) : String := importRefNamespace ++ transfer.asStr

inductive SourceSelector where
  | head
  | ref (name : String)
  deriving DecidableEq

/-- The source side of the fetch refspec. -/
def SourceSelector.refspecSource : SourceSelector → String
  | .head => "HEAD"
  | .ref name => name

/-- One repository of a workspace, as the lock of that workspace records it. -/
structure Participant where
  key : RepoKey
  relativePath : String
  path : Path
  deriving DecidableEq

structure Pairing where
  key : RepoKey
  receiver : Path
  source : Path
  deriving DecidableEq

/-- One member recorded at different paths in the two workspaces. -/
structure MovedMember where
  key : RepoKey
  receiverPath : String
  sourcePath : String
  deriving DecidableEq

structure SourceProblem where
  key : RepoKey
  detail : String
  deriving DecidableEq

structure ImportRequest where
  transfer : TransferId
  /-- Every repository of the receiving workspace, in lock order. -/
  receivers : List Participant
  /-- Every repository of the source workspace. -/
  sources : List Participant
  selected : List RepoKey
  selector : SourceSelector

/-- A ref that a failed import created and leaves in place. -/
structure ImportEffect where refCreated ::
  key : RepoKey
  importRef : String
  oid : ObjectId
  deriving DecidableEq

inductive ImportError where
  | invalidRequest (detail : String)
  | pairingIncomplete (missing : List RepoKey) (moved : List MovedMember)
  | sourceMissing (missing : List SourceProblem)
  | refCollision (key : RepoKey) (importRef : String)
  | transferFailed (key : RepoKey) (detail : String) (effects : List ImportEffect)
  | vectorMismatch (key : RepoKey) (expected : ObjectId) (received : Option ObjectId)
      (effects : List ImportEffect)
  | cancelled (effects : List ImportEffect)
  deriving DecidableEq

/-- The refs created before the failure. -/
def ImportError.effects : ImportError → List ImportEffect
  | .transferFailed _ _ effects => effects
  | .vectorMismatch _ _ _ effects => effects
  | .cancelled effects => effects
  | _ => []

/-- A recorded lock path without its separators' variants and its empty components. -/
def lockPathKey (path : String) : String :=
  let separated := path.toList.map fun c => if c = '\\' then '/' else c
  let components := (separated.splitOn '/').filter fun component =>
    !component.isEmpty && component != ['.']
  String.ofList (List.intercalate ['/'] components)

/-! ### The index of a workspace -/

abbrev Index := FiniteMap RepoKey Participant

def indexParticipant (index : Index) (participant : Participant) : Except RepoKey Index :=
  if participant.key ∈ index then .error participant.key
  else .ok (index.insert participant.key participant)

/-- The participants by key, or the first key listed twice. -/
def indexByKey (participants : List Participant) : Except RepoKey Index :=
  participants.foldlM indexParticipant ∅

lemma indexFrom_get {index result : Index} {participants : List Participant}
    (h : participants.foldlM indexParticipant index = .ok result) (key : RepoKey)
    (participant : Participant) :
    result[key]? = some participant ↔
      index[key]? = some participant ∨ participant ∈ participants ∧ participant.key = key := by
  induction participants generalizing index with
  | nil =>
    cases h
    simp
  | cons first rest ih =>
    rw [foldlM_cons] at h
    obtain ⟨next, hnext, hrest⟩ := Checks.bind_eq_ok.mp h
    unfold indexParticipant at hnext
    split_ifs at hnext with hmem
    cases hnext
    have hfree : index[first.key]? = none := by simpa using hmem
    rw [ih hrest, get_insert_eq_some]
    constructor
    · rintro ((⟨rfl, rfl⟩ | ⟨_, hget⟩) | ⟨hin, rfl⟩)
      · exact .inr ⟨mem_cons_self, rfl⟩
      · exact .inl hget
      · exact .inr ⟨mem_cons_of_mem first hin, rfl⟩
    · rintro (hget | ⟨hin, rfl⟩)
      · by_cases hkey : first.key = key
        · rw [← hkey, hfree] at hget
          cases hget
        · exact .inl (.inr ⟨hkey, hget⟩)
      · rcases mem_cons.mp hin with rfl | hin
        · exact .inl (.inl ⟨rfl, rfl⟩)
        · exact .inr ⟨hin, rfl⟩

lemma indexFrom_nodup {index result : Index} {participants : List Participant}
    (h : participants.foldlM indexParticipant index = .ok result) :
    (participants.map Participant.key).Nodup
      ∧ ∀ participant ∈ participants, participant.key ∉ index := by
  induction participants generalizing index with
  | nil => simp
  | cons first rest ih =>
    rw [foldlM_cons] at h
    obtain ⟨next, hnext, hrest⟩ := Checks.bind_eq_ok.mp h
    unfold indexParticipant at hnext
    split_ifs at hnext with hmem
    cases hnext
    obtain ⟨hnodup, hfresh⟩ := ih hrest
    constructor
    · rw [map_cons, nodup_cons]
      refine ⟨?_, hnodup⟩
      rw [mem_map]
      rintro ⟨other, hother, hkey⟩
      apply hfresh other hother
      rw [hkey]
      exact mem_insert_self
    · intro participant hin
      rcases mem_cons.mp hin with rfl | hin
      · exact hmem
      · intro hold
        exact hfresh participant hin (mem_insert.mpr (.inr hold))

variable {participants : List Participant} {index : Index}

section

variable (h : indexByKey participants = .ok index)
include h

lemma indexByKey_get (key : RepoKey) (participant : Participant) :
    index[key]? = some participant ↔ participant ∈ participants ∧ participant.key = key := by
  rw [indexFrom_get h]
  simp

lemma indexByKey_nodup :
    (participants.map Participant.key).Nodup := (indexFrom_nodup h).1

lemma mem_indexByKey (key : RepoKey) : key ∈ index ↔ key ∈ participants.map Participant.key := by
  rw [mem_iff_isSome_getElem?, Option.isSome_iff_exists, mem_map]
  apply exists_congr
  intro participant
  exact indexByKey_get h key participant

end

/-! ### The set comparison -/

/-- Every selected key is selected once and names a repository of the workspace. -/
def checkSelected (receivers : Index) : List RepoKey → List RepoKey → Except ImportError Unit
  | _, [] => .ok ()
  | seen, key :: rest => do
    if key ∈ seen then throw (.invalidRequest s!"{key.display} is selected twice")
    if key ∉ receivers then
      throw (.invalidRequest
        s!"{key.display} is selected but is not a repository of this workspace")
    checkSelected receivers (seen ++ [key]) rest

/-- The keys with no counterpart, in the order they are found. -/
def missingKeys (selected : List RepoKey) (receivers sources : Index) : List RepoKey :=
  let unserved := receivers.keys.filter fun key => key ≠ .root ∧ key ∉ sources ∧ key ∈ selected
  let untaken := sources.keys.filter fun key => key ≠ .root ∧ key ∉ receivers
  unserved ++ untaken ++ if .root ∈ selected ∧ .root ∉ sources then [.root] else []

def movedMember (sources : Index) (key : RepoKey) (receiver : Participant) : Option MovedMember :=
  if key = .root then none
  else do
    let source ← sources[key]?
    if lockPathKey receiver.relativePath ≠ lockPathKey source.relativePath then
      some ⟨key, receiver.relativePath, source.relativePath⟩
    else none

def movedMembers (receivers sources : Index) : List MovedMember :=
  receivers.toList.filterMap fun (key, receiver) => movedMember sources key receiver

/-- A receiver with its source; the comparison has found one for each selected receiver. -/
def pairing? (sources : Index) (receiver : Participant) : Option Pairing :=
  sources[receiver.key]?.map fun source => ⟨receiver.key, receiver.path, source.path⟩

/-- The selected receivers with their sources, in lock order. -/
def pairings (request : ImportRequest) (sources : Index) : List Pairing :=
  (request.receivers.filter fun receiver => receiver.key ∈ request.selected).filterMap
    (pairing? sources)

def pairParticipants (request : ImportRequest) : Except ImportError (List Pairing) := do
  if request.selected = [] then
    throw (.invalidRequest "an import needs at least one selected participant")
  let receivers ← (indexByKey request.receivers).mapError fun key =>
    .invalidRequest s!"the receiving workspace lists {key.display} twice"
  let sources ← (indexByKey request.sources).mapError fun key =>
    .invalidRequest s!"the source workspace lists {key.display} twice"
  checkSelected receivers [] request.selected
  let missing := missingKeys request.selected receivers sources
  let moved := movedMembers receivers sources
  if missing ≠ [] ∨ moved ≠ [] then
    throw (.pairingIncomplete
      ((missing.mergeSort fun a b => (compare a b).isLE).destutter (· ≠ ·))
      (moved.mergeSort fun a b => (compare a.key b.key).isLE))
  return pairings request sources

/-! ### What pairing decides -/

lemma checkSelected_cases (receivers : Index) (seen selected : List RepoKey) :
    (∃ detail, checkSelected receivers seen selected = .error (.invalidRequest detail))
      ∨ checkSelected receivers seen selected = .ok () ∧ selected.Nodup
        ∧ (∀ key ∈ selected, key ∉ seen) ∧ ∀ key ∈ selected, key ∈ receivers := by
  induction selected generalizing seen with
  | nil => simp [checkSelected]
  | cons key rest ih =>
    unfold checkSelected
    by_cases hseen : key ∈ seen
    · rw [if_pos hseen]
      exact .inl ⟨_, rfl⟩
    by_cases hknown : key ∉ receivers
    · rw [if_neg hseen, if_pos hknown]
      exact .inl ⟨_, rfl⟩
    rw [if_neg hseen, if_neg hknown]
    rcases ih (seen ++ [key]) with ⟨detail, herror⟩ | ⟨hok, hnodup, hfresh, hrest⟩
    · exact .inl ⟨detail, herror⟩
    · refine .inr ⟨hok, ?_, ?_, ?_⟩
      · refine nodup_cons.mpr ⟨fun hin => ?_, hnodup⟩
        exact hfresh key hin (by simp)
      · intro other hother
        rcases mem_cons.mp hother with rfl | hother
        · exact hseen
        · intro hin
          exact hfresh other hother (mem_append_left _ hin)
      · intro other hother
        rcases mem_cons.mp hother with rfl | hother
        · exact not_not.mp hknown
        · exact hrest other hother

/-- The outcome of a pairing: the request is malformed, or the two workspaces are compared. -/
lemma pairParticipants_cases (request : ImportRequest) :
    (∃ detail, pairParticipants request = .error (.invalidRequest detail))
      ∨ ∃ receivers sources, indexByKey request.receivers = .ok receivers
        ∧ indexByKey request.sources = .ok sources
        ∧ request.selected.Nodup ∧ (∀ key ∈ request.selected, key ∈ receivers)
        ∧ pairParticipants request =
          if missingKeys request.selected receivers sources ≠ []
              ∨ movedMembers receivers sources ≠ [] then
            .error (.pairingIncomplete
              (((missingKeys request.selected receivers sources).mergeSort
                fun a b => (compare a b).isLE).destutter (· ≠ ·))
              ((movedMembers receivers sources).mergeSort fun a b => (compare a.key b.key).isLE))
          else .ok (pairings request sources) := by
  unfold pairParticipants
  by_cases hempty : request.selected = []
  · rw [if_pos hempty]
    exact .inl ⟨_, rfl⟩
  rw [if_neg hempty]
  cases hreceivers : indexByKey request.receivers with
  | error => exact .inl ⟨_, rfl⟩
  | ok receivers =>
    cases hsources : indexByKey request.sources with
    | error => exact .inl ⟨_, rfl⟩
    | ok sources =>
      rcases checkSelected_cases receivers [] request.selected with
        ⟨detail, herror⟩ | ⟨hok, hnodup, _, hknown⟩
      · refine .inl ⟨detail, ?_⟩
        change (checkSelected receivers [] request.selected >>= _) = _
        rw [herror]
        rfl
      · refine .inr ⟨receivers, sources, rfl, rfl, hnodup, hknown, ?_⟩
        change (checkSelected receivers [] request.selected >>= _) = _
        rw [hok]
        change (if _ then _ else _) = _
        split_ifs <;> rfl

/-- A key the source alone records, or a selected one the source does not record. -/
def ImportRequest.Unpaired (request : ImportRequest) (key : RepoKey) : Prop :=
  (key ≠ .root ∧ key ∈ request.sources.map Participant.key
      ∧ key ∉ request.receivers.map Participant.key)
    ∨ key ∈ request.selected ∧ key ∉ request.sources.map Participant.key

/-- A member that both workspaces record, at different paths. -/
def ImportRequest.Moved (request : ImportRequest) (key : RepoKey) : Prop :=
  key ≠ .root ∧ ∃ receiver ∈ request.receivers, ∃ source ∈ request.sources,
    receiver.key = key ∧ source.key = key
      ∧ lockPathKey receiver.relativePath ≠ lockPathKey source.relativePath

section Compared
variable {request : ImportRequest} {receivers sources : Index}
  (hreceivers : indexByKey request.receivers = .ok receivers)
  (hsources : indexByKey request.sources = .ok sources)
include hreceivers hsources

lemma mem_missingKeys (hknown : ∀ key ∈ request.selected, key ∈ receivers) (key : RepoKey) :
    key ∈ missingKeys request.selected receivers sources ↔ request.Unpaired key := by
  simp only [missingKeys, ImportRequest.Unpaired, mem_append, mem_filter,
    decide_eq_true_eq, Std.ExtTreeMap.mem_keys, ← mem_indexByKey hreceivers,
    ← mem_indexByKey hsources]
  constructor
  · rintro ((⟨_, _, hsource, hselected⟩ | ⟨hsource, hroot, hreceiver⟩) | hlast)
    · exact .inr ⟨hselected, hsource⟩
    · exact .inl ⟨hroot, hsource, hreceiver⟩
    · split_ifs at hlast with hroot
      · rw [mem_singleton.mp hlast]
        exact .inr hroot
      · cases hlast
  · rintro (⟨hroot, hsource, hreceiver⟩ | ⟨hselected, hsource⟩)
    · exact .inl (.inr ⟨hsource, hroot, hreceiver⟩)
    · by_cases hroot : key = .root
      · subst hroot
        right
        rw [if_pos ⟨hselected, hsource⟩]
        exact mem_singleton_self _
      · exact .inl (.inl ⟨hknown key hselected, hroot, hsource, hselected⟩)

lemma mem_movedMembers (key : RepoKey) :
    key ∈ (movedMembers receivers sources).map MovedMember.key ↔ request.Moved key := by
  simp only [movedMembers, mem_map, mem_filterMap, Prod.exists, mem_toList,
    ImportRequest.Moved]
  constructor
  · rintro ⟨moved, ⟨found, receiver, hreceiver, hmoved⟩, rfl⟩
    unfold movedMember at hmoved
    split_ifs at hmoved with hroot
    obtain ⟨source, hsource, hmoved⟩ := Option.bind_eq_some_iff.mp hmoved
    split_ifs at hmoved with hpaths
    cases hmoved
    obtain ⟨hin, hkey⟩ := (indexByKey_get hreceivers _ _).mp hreceiver
    obtain ⟨hin', hkey'⟩ := (indexByKey_get hsources _ _).mp hsource
    exact ⟨hroot, receiver, hin, source, hin', hkey, hkey', hpaths⟩
  · rintro ⟨hroot, receiver, hin, source, hin', hkey, hkey', hpaths⟩
    have hsource := (indexByKey_get hsources key source).mpr ⟨hin', hkey'⟩
    refine ⟨⟨key, receiver.relativePath, source.relativePath⟩, ⟨key, receiver,
      (indexByKey_get hreceivers key receiver).mpr ⟨hin, hkey⟩, ?_⟩, rfl⟩
    unfold movedMember
    rw [if_neg hroot, hsource, Option.bind_eq_bind, Option.bind_some, if_pos hpaths]

end Compared

lemma mem_destutter_ne {α : Type} [DecidableEq α] {a : α} {l : List α} :
    a ∈ l.destutter (· ≠ ·) ↔ a ∈ l := by
  have hrun : ∀ (l : List α) (first : α), a ∈ l.destutter' (· ≠ ·) first ↔ a ∈ first :: l := by
    intro l
    induction l with
    | nil => simp
    | cons b rest ih =>
      intro first
      by_cases hne : first ≠ b
      · rw [destutter'_cons_pos _ hne, mem_cons, ih, ← mem_cons]
      · rw [destutter'_cons_neg _ hne, ih, not_not.mp hne]
        simp
  cases l with
  | nil => simp
  | cons first rest => exact hrun rest first

/-- A refused comparison names exactly the keys without a counterpart and those moved. -/
lemma pairParticipants_incomplete {request : ImportRequest} {missing : List RepoKey}
    {moved : List MovedMember}
    (h : pairParticipants request = .error (.pairingIncomplete missing moved)) :
    (∀ key, key ∈ missing ↔ request.Unpaired key)
      ∧ ∀ key, key ∈ moved.map MovedMember.key ↔ request.Moved key := by
  rcases pairParticipants_cases request with
    ⟨detail, herror⟩ | ⟨receivers, sources, hreceivers, hsources, _, hknown, hcompared⟩
  · rw [herror] at h
    cases h
  · rw [hcompared] at h
    split_ifs at h with hmismatch
    cases h
    constructor
    · intro key
      rw [mem_destutter_ne, mem_mergeSort, mem_missingKeys hreceivers hsources hknown]
    · intro key
      rw [← mem_movedMembers hreceivers hsources, mem_map, mem_map]
      simp only [mem_mergeSort]

/-- A pairing joins two participants of one identity, at equal lock paths unless it is the
root, which has none. -/
def ImportRequest.Joins (request : ImportRequest) (pairing : Pairing) : Prop :=
  ∃ receiver ∈ request.receivers, ∃ source ∈ request.sources,
    receiver.key = pairing.key ∧ source.key = pairing.key
      ∧ pairing.receiver = receiver.path ∧ pairing.source = source.path
      ∧ (pairing.key ≠ .root →
        lockPathKey receiver.relativePath = lockPathKey source.relativePath)

/-- When each receiver of a list has a source, pairing loses none of them. -/
lemma filterMap_pairing? {sources : Index} {l : List Participant}
    (h : ∀ receiver ∈ l, receiver.key ∈ sources) :
    (l.filterMap (pairing? sources)).map Pairing.key = l.map Participant.key
      ∧ (l.filterMap (pairing? sources)).map Pairing.receiver = l.map Participant.path := by
  induction l with
  | nil => simp
  | cons receiver rest ih =>
    obtain ⟨hkeys, hreceivers⟩ := ih fun other hother => h other (mem_cons_of_mem _ hother)
    have hsource := h receiver mem_cons_self
    rw [mem_iff_isSome_getElem?, Option.isSome_iff_exists] at hsource
    obtain ⟨source, hsource⟩ := hsource
    have hpairing : pairing? sources receiver =
        some ⟨receiver.key, receiver.path, source.path⟩ := by
      unfold pairing?
      rw [hsource]
      rfl
    rw [filterMap_cons_some hpairing]
    simp only [map_cons, hkeys, hreceivers, and_self]

/-- An accepted comparison pairs the selected keys, each once. -/
lemma pairParticipants_paired {request : ImportRequest} {paired : List Pairing}
    (h : pairParticipants request = .ok paired) :
    (paired.map Pairing.key).Nodup ∧ (∀ key, key ∈ paired.map Pairing.key ↔ key ∈ request.selected)
      ∧ (paired.map Pairing.receiver).Sublist (request.receivers.map Participant.path)
      ∧ ∀ pairing ∈ paired, request.Joins pairing := by
  rcases pairParticipants_cases request with
    ⟨detail, herror⟩ | ⟨receivers, sources, hreceivers, hsources, _, hknown, hcompared⟩
  · rw [herror] at h
    cases h
  rw [hcompared] at h
  split_ifs at h with hmismatch
  cases h
  obtain ⟨hmissing, hmoved⟩ := not_or.mp hmismatch
  have hpaired : ∀ key, ¬ request.Unpaired key := by
    intro key
    rw [← mem_missingKeys hreceivers hsources hknown, not_not.mp hmissing]
    exact not_mem_nil
  have hunmoved : ∀ key, ¬ request.Moved key := by
    intro key
    rw [← mem_movedMembers hreceivers hsources, not_not.mp hmoved]
    exact not_mem_nil
  have hserved : ∀ receiver ∈ request.receivers.filter fun receiver =>
      receiver.key ∈ request.selected, receiver.key ∈ sources := by
    intro receiver hreceiver
    have hselected := (mem_filter.mp hreceiver).2
    by_contra hsource
    rw [mem_indexByKey hsources] at hsource
    exact hpaired receiver.key (.inr ⟨of_decide_eq_true hselected, hsource⟩)
  obtain ⟨hkeys, hpaths⟩ := filterMap_pairing? hserved
  refine ⟨?_, ?_, ?_, ?_⟩
  · unfold pairings
    rw [hkeys]
    exact (indexByKey_nodup hreceivers).sublist (filter_sublist.map _)
  · intro key
    unfold pairings
    rw [hkeys, mem_map]
    simp only [mem_filter, decide_eq_true_eq]
    constructor
    · rintro ⟨receiver, ⟨_, hselected⟩, rfl⟩
      exact hselected
    · intro hselected
      obtain ⟨receiver, hreceiver, rfl⟩ :=
        mem_map.mp ((mem_indexByKey hreceivers key).mp (hknown key hselected))
      exact ⟨receiver, ⟨hreceiver, hselected⟩, rfl⟩
  · unfold pairings
    rw [hpaths]
    exact filter_sublist.map _
  · intro pairing hpairing
    obtain ⟨receiver, hreceiver, hfound⟩ := mem_filterMap.mp hpairing
    obtain ⟨source, hsource, rfl⟩ := Option.map_eq_some_iff.mp hfound
    obtain ⟨hin, hkey⟩ := (indexByKey_get hsources _ _).mp hsource
    have hin' := (mem_filter.mp hreceiver).1
    refine ⟨receiver, hin', source, hin, rfl, hkey, rfl, rfl, fun hroot => ?_⟩
    by_contra hpaths
    exact hunmoved receiver.key ⟨hroot, receiver, hin', source, hin, rfl, hkey, hpaths⟩

end GwzCore.LocalImport
