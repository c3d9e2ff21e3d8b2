import GwzCore.Lib.Steps
import GwzCore.Merge.Footprint

/-!
# Runs of accepted transitions

A move offers one transition on the stored record. If it is prepared, the rewritten record
is stored in its place under the digest of its new bytes; if it is refused, the stored
record stays. A run is a list of moves. Validity is part of a stored record, so it holds
after every run.
-/
namespace GwzCore.Merge

open Checks

variable {env : Artifacts} {current : StoredV1Record env} {rewrite : PreparedV1Rewrite}
  {transition : V1Transition} {P : MergeOperationRecordV1 → MergeOperationRecordV1 → Prop}
  {error : ModelError}

lemma orRefuse_eq_ok {α : Type} {value : Option α} {a : α} :
    orRefuse value error = .ok a ↔ value = some a := by
  cases value with
  | none | some => simp [orRefuse]

lemma orRefuse_bind_eq_ok {α β : Type} {value : Option α} {f : α → ModelResult β} {b : β} :
    (orRefuse value error >>= f) = .ok b ↔ ∃ a, value = some a ∧ f a = .ok b := by
  simp only [bind_eq_ok, orRefuse_eq_ok]

lemma applyTransition_eq_ok {next : MergeOperationRecordV1} :
    applyTransition current transition = .ok next ↔
      ∃ written, reduce current transition = .ok written ∧ next = stamp written
        ∧ validateV1Record env next = .ok () := by
  unfold applyTransition
  constructor
  · intro h
    obtain ⟨written, hwritten, h⟩ := bind_eq_ok.mp h
    obtain ⟨hvalid, h⟩ := bind_unit_eq_ok.mp h
    cases h
    exact ⟨written, hwritten, rfl, hvalid⟩
  · rintro ⟨written, hwritten, rfl, hvalid⟩
    exact bind_eq_ok.mpr ⟨written, hwritten, bind_unit_eq_ok.mpr ⟨hvalid, rfl⟩⟩

/-- What a prepared rewrite has passed. -/
lemma prepare_eq_ok {lease : V1MutationLease} :
    prepare lease current transition = .ok rewrite ↔
      lease.covers current.location = true
        ∧ applyTransition current transition = .ok rewrite.next
        ∧ verifyKnownDiff current.record rewrite.next transition.effect = .ok ()
        ∧ rewrite.baseDigest = current.sourceDigest ∧ rewrite.effect = transition.effect := by
  unfold prepare
  constructor
  · intro h
    obtain ⟨hcovers, h⟩ := bind_unit_eq_ok.mp h
    obtain ⟨next, hnext, h⟩ := bind_eq_ok.mp h
    obtain ⟨hdiff, h⟩ := bind_unit_eq_ok.mp h
    cases h
    exact ⟨require_eq_ok.mp hcovers, hnext, hdiff, rfl, rfl⟩
  · rintro ⟨hcovers, hnext, hdiff, hdigest, heffect⟩
    refine bind_unit_eq_ok.mpr ⟨require_eq_ok.mpr hcovers, bind_eq_ok.mpr ⟨_, hnext, ?_⟩⟩
    refine bind_unit_eq_ok.mpr ⟨hdiff, ?_⟩
    rw [← hdigest, ← heffect]

lemma prepare_valid {lease : V1MutationLease} (h : prepare lease current transition = .ok rewrite) :
    validateV1Record env rewrite.next = .ok () := by
  obtain ⟨_, hnext, _⟩ := prepare_eq_ok.mp h
  obtain ⟨_, _, _, hvalid⟩ := applyTransition_eq_ok.mp hnext
  exact hvalid

lemma prepare_next {lease : V1MutationLease} {written : MergeOperationRecordV1}
    (h : prepare lease current transition = .ok rewrite)
    (hwritten : reduce current transition = .ok written) : rewrite.next = stamp written := by
  obtain ⟨_, hnext, _⟩ := prepare_eq_ok.mp h
  obtain ⟨_, hreduced, hstamp, _⟩ := applyTransition_eq_ok.mp hnext
  rw [hwritten] at hreduced
  cases hreduced
  exact hstamp

/-- A transition offered under a lease, with the digest the rewritten bytes would have. -/
structure Move where
  lease : V1MutationLease
  transition : V1Transition
  digest : RecordDigest

def step (current : StoredV1Record env) (move : Move) : StoredV1Record env :=
  match h : prepare move.lease current move.transition with
  | .ok rewrite => ⟨rewrite.next, move.digest, current.location, prepare_valid h⟩
  | .error _ => current

lemma step_of_ok {move : Move} (h : prepare move.lease current move.transition = .ok rewrite) :
    (step current move).record = rewrite.next := by
  unfold step
  split
  · rename_i next hnext
    rw [h] at hnext
    cases hnext
    rfl
  · rename_i hnext
    rw [h] at hnext
    cases hnext

lemma step_of_error {move : Move} (h : prepare move.lease current move.transition = .error error) :
    step current move = current := by
  unfold step
  split
  · rename_i next hnext
    rw [h] at hnext
    cases hnext
  · rfl

section
variable (hrefl : ∀ record, P record record)
  (hprepare : ∀ (lease : V1MutationLease) (current : StoredV1Record env) transition rewrite,
    prepare lease current transition = .ok rewrite → P current.record rewrite.next)
  (current : StoredV1Record env)
include hrefl hprepare

/-- A relation between the stored record and the next one holds of a step if it holds of
every prepared rewrite and of a record that stays. -/
lemma step_rel (move : Move) : P current.record (step current move).record := by
  rcases h : prepare move.lease current move.transition with error | rewrite
  · rw [step_of_error h]
    exact hrefl _
  · rw [step_of_ok h]
    exact hprepare _ _ _ _ h

/-- A transitive relation that every prepared rewrite has with its source holds along
every run. -/
lemma run_rel (htrans : ∀ a b c, P a b → P b c → P a c) (moves : List Move) :
    P current.record (Steps.run step current moves).record := by
  apply Steps.run_induction (P := fun s : StoredV1Record env => P current.record s.record)
  · exact hrefl _
  · intro s move hs
    exact htrans _ _ _ hs (step_rel hrefl hprepare s move)

end

/-! ## A small workspace

Two members and no selected root, with decoders that accept every text. The lock text
"accepted" has a row for each member, at the commit it started from. The witnesses of later
results start from its records. -/

namespace Sample

def oid (c : Char) : String := String.ofList (List.replicate 40 c)

def sha256 : String := String.ofList (List.replicate 64 'd')

def members : List ManifestMember :=
  [⟨"mem_a", "a", .git, "src_a", true⟩, ⟨"mem_b", "b", .git, "src_b", true⟩]

/-- The lock row of a member that is up to date. -/
def lockMember (path sourceId : String) : AcceptedLockMemberV1 where
  path := path
  sourceId := sourceId
  sourceKind := .git
  commit := some (oid 'a')
  branch := some "main"
  detached := some false
  upstream := none
  dirty := some false
  materialized := some true
  extensions := ∅

def artifacts : Artifacts where
  digest _ := sha256
  manifest _ := some ⟨"ws_w", members⟩
  lock _ := some ⟨"ws_w", ∅⟩
  lockRows text := some (if text == "accepted" then
    .ofList [("mem_a", lockMember "a" "src_a"), ("mem_b", lockMember "b" "src_b")] else ∅)
  marker _ := none
  confIntegrityForBytes _ _ := .ok ""
  payloadHash _ := sha256

def baseline : MergeBaseline where
  lockSha256 := sha256
  manifestSha256 := sha256
  lockYaml := some "lock"
  manifestYaml := some "manifest"
  lockCommitSha256 := none
  manifestCommitSha256 := none
  rootHead := some (oid 'e')
  rootBranch := some "main"
  extensions := ∅

/-- A planned row. -/
def row (path : String) : MergeParticipantRecord where
  path := path
  targetKind := .member
  targetBranch := "main"
  beforeCommit := oid 'a'
  sourceCommit := oid 'b'
  commitMessage := "Merge" ++ commitTrailer "m" "op_m"
  state := .planned
  resultingCommit := none
  expectedMergeHead := none
  conflictPaths := []
  conflictSnapshot := []
  error := none
  pendingAction := none
  preservation := []
  drift := []
  extensions := ∅

def upToDateRow (path : String) : MergeParticipantRecord :=
  { row path with state := .upToDate, resultingCommit := some (oid 'a') }

/-- The intent to fast-forward a row. -/
def pending : PendingMergeAction where
  kind := .fastForward
  targetBranch := "main"
  beforeCommit := oid 'a'
  sourceCommit := oid 'b'
  commitMessage := "Merge" ++ commitTrailer "m" "op_m"
  expectedResult := some .fastForward
  commitSpec := none
  extensions := ∅

def record (state : OperationState) (a b : MergeParticipantRecord) : MergeOperationRecordV1 where
  schema := mergeRecordSchemaV1
  recordSchemaVersion := mergeRecordSchemaVersionV1
  writerVersion := packageVersion
  workspaceId := "ws_w"
  mergeId := "m"
  operationId := "op_m"
  state := state
  sourceRef := "topic"
  mode := .normal
  createdAt := "now"
  baseline := baseline
  selectedTargets := ["mem_a", "mem_b"]
  participants := .ofList [("mem_a", a), ("mem_b", b)]
  publication := none
  operationDrift := []
  acceptedWorkspace := none
  recoveryContext := none
  pendingRollback := none
  pendingPreservation := none
  preservationPublicationHandoff := none
  extensions := ∅

/-- The workspace accepted when both members are up to date. -/
def accepted : AcceptedWorkspaceV1 where
  operationBaselineLockSha256 := sha256
  metadataBase := ⟨.operationBaseline, "manifest", sha256, "lock", sha256⟩
  lock := ⟨"accepted", sha256⟩
  memberAudit :=
    let audit := MemberAcceptanceV1.selected ⟨"main", oid 'a', oid 'a'⟩ ⟨"main", oid 'a'⟩
    .ofList [("mem_a", audit (lockMember "a" "src_a")), ("mem_b", audit (lockMember "b" "src_b"))]
  root :=
    { base := .bornAttached (oid 'e') "main"
      publicationBranch := some "main"
      baselineArtifactHashes := ⟨sha256, sha256, none, none⟩ }

def location : OpenRecordLocation := ⟨["w"], ["w", ".gwz", "merge", "m.yaml"]⟩

def lease : V1MutationLease := ⟨["w"]⟩

end Sample

end GwzCore.Merge
