import GwzCore.LocalDisposal.Validate

/-!
# Disposal

Keep detaches the row and its pointer. Delete gathers fresh evidence, refuses what is
unknown and what no named waiver covers, marks the row, removes the directory once and
detaches. On any error it stops and reports the effects so far.
-/
namespace GwzCore.LocalDisposal
open FamilyModel HistoryCheck HostPath WorkDetector

variable {σ : Type}

def debugWork : WorkKind → String
  | .staged => "Staged"
  | .unstaged => "Unstaged"
  | .untracked => "Untracked"
  | .ignored => "Ignored"
  | .conflict => "Conflict"
  | .modeChange => "ModeChange"
  | .linkChange => "LinkChange"
  | .renamed => "Renamed"
  | .deleted => "Deleted"

def debugHazard : HazardKind → String
  | .work kind => s!"Work({debugWork kind})"
  | .suppressed => "Suppressed"
  | .openNativeOperation => "OpenNativeOperation"
  | .openGwzMerge => "OpenGwzMerge"
  | .openGwzStash => "OpenGwzStash"
  | .uninterpretableEvidence => "UninterpretableEvidence"
  | .nativeStash => "NativeStash"
  | .openGwzRecord => "OpenGwzRecord"

/-! ### Inspection -/

/-- What the inspection of repositories collects. -/
structure Findings where
  unknown : List LocatedReason
  findings : List HazardFinding

def Findings.append (found more : Findings) : Findings :=
  ⟨found.unknown ++ more.unknown, found.findings ++ more.findings⟩

/-- The directories of a repository, with what they are called. -/
def RepositoryInfo.directories (info : RepositoryInfo) : List (String × Path) :=
  [("worktree", info.path), ("git directory", info.gitDir), ("object store", info.commonDir)]

/-- Nothing outside the target is considered. -/
def checkInside (plan : Plan) (repository : RepositoryEvidence) : Except DisposeError Unit :=
  repository.info.directories |> Checks.checkAll fun (label, path) =>
    if startsWith (resolve path) plan.target then .ok ()
    else
      let key := repository.key.display
      .error (.pathMismatch plan.target
        s!"the {label} of `{key}` is {display path}, outside the deletion tree")

/-- The waiver that covers a hazard. -/
def waiverOf (hazard : Hazard) : Option HazardWaiver :=
  hazard.kind.forceName.bind HazardWaiver.parse

/-- What is established of the data the copy brought. -/
def baselineOf (evidence : TargetEvidence) (key : RepoKey) : CopyBaseline :=
  (evidence.copy.bind fun copy => copy.baseline key).getD .default

def workReport (evidence : TargetEvidence) (repository : RepositoryEvidence) : WorkReport :=
  classifyObservedWorkAgainst repository.work repository.gwz (baselineOf evidence repository.key)

/-- The hazards of a report by waiver; one that no waiver covers is unknown. -/
def workFindings (key : RepoKey) (report : WorkReport) : Findings :=
  let text := key.display
  let silent :=
    if report.verdict = .unknown ∧ report.unknown = [] then
      [LocatedReason.new .unimplemented s!"`{text}`: an unknown verdict with no reason"]
    else []
  let unwaivable := report.hazards.filterMap fun hazard =>
    match waiverOf hazard with
    | some _ => none
    | none =>
      let kind := debugHazard hazard.kind
      some (LocatedReason.new .unsupportedEvidence
        s!"`{text}`: {kind} has no waiver ({hazard.detail})")
  let grouped := HazardWaiver.all.filterMap fun waiver =>
    let hazards := report.hazards.filter fun hazard => waiverOf hazard = some waiver
    if hazards = [] then none else some (HazardFinding.mk waiver key hazards none)
  ⟨silent ++ report.unknown ++ unwaivable, grouped⟩

def historyFindings (key : RepoKey) : HistoryAnswer → Findings
  | .preserved => ⟨[], []⟩
  | .unpreserved detail => ⟨[], [⟨.unpreservedHistory, key, [], some detail⟩]⟩
  | .unknown reasons => ⟨reasons, []⟩

def inspectRepository (host : Host σ) (plan : Plan) (evidence : TargetEvidence) (found : Findings)
    (repository : RepositoryEvidence) : Disposing σ Findings := do
  match checkInside plan repository with
  | .error error => throw error
  | .ok _ =>
    let work := workFindings repository.key (workReport evidence repository)
    match repository.history with
    | .unknown reasons => return (found.append work).append ⟨reasons, []⟩
    | .known protectedRoots =>
      let answer ← checkHistory host ⟨repository.key, protectedRoots⟩
      return (found.append work).append (historyFindings repository.key answer)

/-- The repositories one after the other. -/
def inspectAll (host : Host σ) (plan : Plan) (evidence : TargetEvidence) :
    List RepositoryEvidence → Findings → Disposing σ Findings
  | [], found => return found
  | repository :: rest, found => do
    let found ← inspectRepository host plan evidence found repository
    inspectAll host plan evidence rest found

/-- What is unknown dominates; a known hazard refuses unless it is waived. The findings that
the waivers covered are returned. -/
def inspect (host : Host σ) (plan : Plan) (evidence : TargetEvidence)
    (waivers : List HazardWaiver) : Disposing σ (List HazardFinding) := do
  if evidence.repositories.isEmpty then
    throw (.unknown [.new .unsupportedLayout
      s!"no repository was observed in {display plan.target}; the target is not a recognised clone"])
  let found ← inspectAll host plan evidence evidence.repositories ⟨[], []⟩
  if found.unknown ≠ [] then throw (.unknown found.unknown)
  let unwaived := found.findings.filter fun finding => !waivers.contains finding.waiver
  if unwaived.any HazardFinding.refuses then throw (.hazards unwaived)
  return found.findings.filter fun finding => waivers.contains finding.waiver

/-! ### The sequence -/

def MetadataEffect.removesPointer : MetadataEffect → Bool
  | .pointerRemoved _ => true
  | _ => false

def rowEffect : RemovalReason → DisposeEffect
  | .keep => .rowDetached
  | .disposed | .stale => .rowRemoved

/-- The pointer and then the row. -/
def detach (host : Host σ) (request : DisposeRequest) (reason : RemovalReason) :
    Disposing σ Unit := do
  let applied ← storeAnswer (← removePointer host request.name)
  if applied.effects.any MetadataEffect.removesPointer then report .pointerRemoved
  let _ ← storeAnswer (← applyChange host (.removeRow request.name reason))
  report (rowEffect reason)

def debugPointer : PointerObservation → String
  | .matches => "Matches"
  | .absent => "Absent"
  | .otherFamily => "OtherFamily"
  | .isIndex => "IsIndex"
  | .malformed => "Malformed"

def debugMarker : MarkerObservation → String
  | .matches => "Matches"
  | .absent => "Absent"
  | .mismatch => "Mismatch"
  | .malformed => "Malformed"

def debugState : ListState → String
  | .ready => "Ready"
  | .incomplete => "Incomplete"
  | .interruptedDisposal => "InterruptedDisposal"
  | .missing => "Missing"
  | .pointerRemoved => "PointerRemoved"
  | .mismatched => "Mismatched"
  | .malformed => "Malformed"
  | .unobserved => "Unobserved"

/-- What stands at the target instead of the recorded member. -/
def describe (state : ListState) : TargetObservation → String
  | .malformed detail => s!"its family metadata could not be decoded: {detail}"
  | .present pointer marker =>
    if state = .pointerRemoved then
      "its family pointer is gone; an interrupted detach left the tree in place"
    else
      s!"its family pointer or allocation marker does not belong to this row (pointer {debugPointer pointer}, marker {debugMarker marker})"
  | .missing =>
    if state = .pointerRemoved then
      "its family pointer is gone; an interrupted detach left the tree in place"
    else s!"{debugState state} for Missing"

/-- Marks the row, removes the directory once and detaches. -/
def remove (host : Host σ) (request : DisposeRequest) (plan : Plan) : Disposing σ Unit := do
  let _ ← storeAnswer (← applyChange host (.markDisposing request.name plan.row.allocationId))
  report .rowDisposing
  match ← removeDirectory host plan.target with
  | .error failure => throw (.removalStopped failure.remaining failure.error.display)
  | .ok _ => pure ()
  report .directoryRemoved
  detach host request .disposed

/-- The evidence decides what is done with a target that is to be deleted. -/
def disposeObserved (host : Host σ) (request : DisposeRequest) (waivers : List HazardWaiver)
    (plan : Plan) (evidence : TargetEvidence) : Disposing σ (List HazardFinding) := do
  if evidence.unknown ≠ [] then throw (.unknown evidence.unknown)
  match classifyTarget plan.row (some evidence.target) with
  | .ready =>
    let waived ← inspect host plan evidence waivers
    remove host request plan
    return waived
  | .missing =>
    if !evidence.repositories.isEmpty then
      let count := evidence.repositories.length
      throw (.pathMismatch plan.target
        s!"the target is absent, yet {count} repositor(y|ies) were observed in it")
    detach host request .stale
    return []
  | .incomplete | .interruptedDisposal =>
    throw (.refused (.wrongState request.name .ready plan.row.state))
  | state => throw (.pathMismatch plan.target (describe state evidence.target))

def delete (host : Host σ) (request : DisposeRequest) (waivers : List HazardWaiver) (plan : Plan) :
    Disposing σ (List HazardFinding) := do
  match ← observeTarget host plan.target with
  | .error error => throw (.port error)
  | .ok evidence => disposeObserved host request waivers plan evidence

def run (host : Host σ) (request : DisposeRequest) : Disposing σ (List HazardFinding) :=
  match request.policy with
  | .keep => do
    let _ ← validate host request
    detach host request .keep
    return []
  | .delete waivers => do
    if waivers.dedup.length ≠ waivers.length then
      throw (.refused (.invalidRow request.name "repeated hazard waiver"))
    let plan ← validate host request
    delete host request waivers plan

/-- Keep, or check and remove, one family member. -/
def dispose (host : Host σ) (request : DisposeRequest) (start : σ) :
    Except DisposeFailure DisposeReport × List Call :=
  match run host request ⟨start, [], []⟩ with
  | .ok waived world => (.ok ⟨world.effects, waived⟩, world.calls)
  | .error error world => (.error ⟨error, world.effects⟩, world.calls)

/-- The effects an outcome reports. -/
def reported : Except DisposeFailure DisposeReport → List DisposeEffect
  | .ok report => report.effects
  | .error failure => failure.effects

end GwzCore.LocalDisposal
