import GwzCore.Merge.Record

/-!
# The integration a pending action stands for

A pending action freezes the inputs of one Git integration. It decodes to that
integration exactly when its result class and commit specification are complete, and it
is the participant's own when its inputs are the participant's frozen ones.
-/
namespace GwzCore.Merge

structure GitPreparedSignature where
  name : String
  email : String
  timeSeconds : Int
  timezoneOffsetMinutes : Int
  deriving DecidableEq

structure GitPreparedCommit where
  treeOid : String
  author : GitPreparedSignature
  committer : GitPreparedSignature
  deriving DecidableEq

structure IntegrationIntent where
  targetBranch : String
  beforeCommit : String
  sourceCommit : String
  commitMessage : String
  deriving DecidableEq

def IntegrationIntent.fromRecord (participant : MergeParticipantRecord) : IntegrationIntent where
  targetBranch := participant.targetBranch
  beforeCommit := participant.beforeCommit
  sourceCommit := participant.sourceCommit
  commitMessage := participant.commitMessage

def IntegrationIntent.fromPending (pending : PendingMergeAction) : IntegrationIntent where
  targetBranch := pending.targetBranch
  beforeCommit := pending.beforeCommit
  sourceCommit := pending.sourceCommit
  commitMessage := pending.commitMessage

inductive PreparedIntegrationAction where
  | verifyUpToDate
  | fastForward
  | trueMergeExpectedConflict
  | trueMergeCommit (spec : GitPreparedCommit)
  | resolveConflict (spec : GitPreparedCommit)
  deriving DecidableEq

structure PreparedIntegration where
  intent : IntegrationIntent
  action : PreparedIntegrationAction
  deriving DecidableEq

def preparedSignature (signature : PendingGitSignature) : GitPreparedSignature where
  name := signature.name
  email := signature.email
  timeSeconds := signature.timeSeconds
  timezoneOffsetMinutes := signature.timezoneOffsetMinutes

def preparedCommit (spec : PendingCommitSpec) : GitPreparedCommit where
  treeOid := spec.treeOid
  author := preparedSignature spec.author
  committer := preparedSignature spec.committer

def incompleteAction : String :=
  "pending action lacks a complete result class and exact commit specification"

def intentMismatch : String := "pending action inputs do not match the frozen participant record"

def mergeHeadMismatch : String :=
  "pending action source does not match the participant's expected merge head"

def decodePending (pending : PendingMergeAction) : Except String PreparedIntegration := do
  let action ← match pending.kind, pending.expectedResult, pending.commitSpec with
    | .verifyUpToDate, none, none => .ok .verifyUpToDate
    | .verifyUpToDate, some .unchanged, none => .ok .verifyUpToDate
    | .fastForward, none, none => .ok .fastForward
    | .fastForward, some .fastForward, none => .ok .fastForward
    | .trueMerge, some .expectedConflict, none => .ok .trueMergeExpectedConflict
    | .trueMerge, some .commit, some spec => .ok (.trueMergeCommit (preparedCommit spec))
    | .resolveConflict, some .commit, some spec => .ok (.resolveConflict (preparedCommit spec))
    | _, _, _ => .error incompleteAction
  .ok ⟨.fromPending pending, action⟩

def decodeForParticipant (pending : PendingMergeAction) (participant : MergeParticipantRecord) :
    Except String PreparedIntegration :=
  if IntegrationIntent.fromPending pending ≠ .fromRecord participant then .error intentMismatch
  else if participant.expectedMergeHead.any (· != pending.sourceCommit) then
    .error mergeHeadMismatch
  else decodePending pending

end GwzCore.Merge
