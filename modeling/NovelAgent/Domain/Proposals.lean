import NovelAgent.Domain.Candidates

/-!
# Proposal Attempts

What happens before there is a candidate.
-/

namespace NovelAgent.Domain

/-- How far an attempt is. -/
inductive CuratorProposalAttemptStatus
  | requested
  | running
  | accepted
  | rejected
  | uncertain
  | abandoned
deriving DecidableEq

/-- An attempt whose outcome is not known yet. -/
def CuratorProposalAttemptStatus.inflight : CuratorProposalAttemptStatus → Bool
  | .requested | .running | .uncertain => true
  | .accepted | .rejected | .abandoned => false

/-- Where it was rejected. -/
inductive ProposalRejectionStage
  | structuredSchema
  | trustedNormalization
  | semanticContract
  | informationBoundary
deriving DecidableEq

/-- Why it was rejected. -/
inductive ProposalRejectionKind
  | schemaRejected
  | chapterMismatch
  | recordKindMismatch
  | danglingEntityReference
  | duplicateTarget
  | normalizedTargetCollision
  | incompleteDelta
  | invalidEvidence
  | scopeViolation
  | poisonLoop
deriving DecidableEq

/-- Operations on one target. -/
structure ProposalConflict where
  targetId : StableId
  operationIndexes : List Nat
deriving DecidableEq

/-- Why an attempt was rejected. -/
structure CuratorProposalRejection where
  rejectionId : StableId
  attemptId : StableId
  workflowRequestId : StableId
  baseCommit : CommitId
  stage : ProposalRejectionStage
  kind : ProposalRejectionKind
  reasonCode : String
  retryable : Bool
  rejectionSignature : ArtifactId
  outputHash : Option ArtifactId
  conflicts : List ProposalConflict
  validationErrorPaths : List String
  safeFeedback : List String
  operationIndexes : List Nat
  jsonPointers : List String
  violationRule : Option String
  rawDraftRef : Option ArtifactRef
deriving DecidableEq

/-- One attempt. -/
structure CuratorProposalAttemptReceipt where
  attemptId : StableId
  workflowRequestId : StableId
  runId : RunId
  taskId : TaskId
  attemptNo : Nat
  baseCommit : CommitId
  boundaryId : StableId
  configurationFingerprint : ArtifactId
  status : CuratorProposalAttemptStatus
  modelRequestIds : List StableId
  rawResponseRefs : List ArtifactRef
  normalizedOutputRef : Option ArtifactRef
  rejectionRef : Option ArtifactRef
  producerReceiptRef : Option ArtifactRef
  providerCallCount : Nat
  transportAttemptCount : Nat
  inputTokens : Nat
  outputTokens : Nat
deriving DecidableEq

/-- The fields that may not change while an attempt moves on. -/
structure ProposalAttemptIdentity where
  attemptId : StableId
  workflowRequestId : StableId
  runId : RunId
  taskId : TaskId
  attemptNo : Nat
  baseCommit : CommitId
  boundaryId : StableId
  configurationFingerprint : ArtifactId
deriving DecidableEq

def CuratorProposalAttemptReceipt.identity (receipt : CuratorProposalAttemptReceipt) :
    ProposalAttemptIdentity where
  attemptId := receipt.attemptId
  workflowRequestId := receipt.workflowRequestId
  runId := receipt.runId
  taskId := receipt.taskId
  attemptNo := receipt.attemptNo
  baseCommit := receipt.baseCommit
  boundaryId := receipt.boundaryId
  configurationFingerprint := receipt.configurationFingerprint

end NovelAgent.Domain
