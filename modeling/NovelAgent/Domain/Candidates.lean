import NovelAgent.Domain.Boundary

/-!
# Candidates and Their Verdicts

What a memory write carries from its first proposal to the commit.
-/

namespace NovelAgent.Domain

/-- The four roots. -/
inductive RootKind
  | text
  | plan
  | world
  | reference
  | projectProfile
deriving DecidableEq

/-- What is done to a root. -/
inductive RootUpdateKind
  | create
  | replace
  | noop
deriving DecidableEq

/-- A root that a request replaces next to its world changes. -/
structure RootUpdateIntent where
  intentId : StableId
  rootKind : RootKind
  updateKind : RootUpdateKind
  expectedBaseRoot : ArtifactRef
  updateArtifact : ArtifactRef
  producerReceipt : ArtifactRef

/-- How a candidate is committed. -/
inductive MemoryWriteCommitProfile
  | chapterRevealAtomic
  | changedRootsOnly
  | requireCanonicalCommit

/-- The source span that a source-bound repair has to cover. -/
structure SourceBoundEvidenceRequirement where
  sourceArtifactId : ArtifactId
  sourceChapterIndex : Nat
  sourceChapterId : StableId
  requiredConsequenceMarkers : List String

/-- What a candidate proposes. -/
structure MemoryWriteCandidatePayload where
  observedChanges : ObservedChangeSet
  rootUpdateIntents : List RootUpdateIntent
  commitProfile : MemoryWriteCommitProfile
  sourceEvidenceRequirement : Option SourceBoundEvidenceRequirement

/-- What a repair may touch. -/
structure RepairScope where
  operationIds : List StableId := []
deriving DecidableEq

/-- What made a candidate. -/
inductive CandidateProducerKind
  | curatorPropose
  | trustedCandidate
  | emptyDelta
  | deterministicNormalizer
  | curatorRepair
  | humanPatch
  | operationQuarantine

/-- A revision of a candidate. -/
structure CandidateRevision where
  candidateId : StableId
  parentCandidateId : Option StableId
  revisionNo : Nat
  baseCommit : CommitId
  basisHash : ArtifactId
  candidateArtifact : ArtifactRef
  sourceArtifacts : List ArtifactRef
  sourceEvidenceRequirement : Option SourceBoundEvidenceRequirement
  producerKind : CandidateProducerKind
  producerReceipt : Option ArtifactRef
  originProposalAttemptId : Option StableId
  repairScope : Option RepairScope
  appliedDirectiveIds : List StableId
  supersedesCandidateId : Option StableId
  contentHash : ArtifactId
  createdAt : Nat

/-- The bundle a candidate was turned into, and the receipt for it. -/
structure CandidateMaterialization where
  candidateId : StableId
  candidateContentHash : ArtifactId
  proposedRootsHash : ArtifactId
  materializationReceipt : ArtifactRef
  bundle : Option CandidateChangeBundle

/-- The outcome of a validation. -/
inductive ValidationDisposition
  | pass
  | repairable
  | partialRepairable
  | reviewRequired
  | nonRepairable

/-- How bad a finding is. -/
inductive ValidationSeverity
  | info
  | warning
  | error
  | critical
deriving DecidableEq

/-- Whether trying again may help. -/
inductive FindingRetryability
  | repairable
  | conditional
  | review
  | nonRepairable
deriving DecidableEq

/-- One finding. -/
structure ValidationFinding where
  findingId : StableId
  code : String
  severity : ValidationSeverity
  operationIds : List StableId
  retryability : FindingRetryability
  allowedRepairScope : RepairScope
  requiresContextRefresh : Bool
  requiresGuardian : Bool
  requiresHuman : Bool
deriving DecidableEq

/-- The verdict of the validator on one materialized candidate. -/
structure ValidationDecision where
  decisionId : StableId
  candidateId : StableId
  candidateContentHash : ArtifactId
  materializationReceipt : ArtifactRef
  proposedRootsHash : ArtifactId
  baseCommit : CommitId
  disposition : ValidationDisposition
  findings : List ValidationFinding

/-- How risky a patch is. -/
inductive PatchRiskLevel
  | low
  | high
  | critical

/-- The risk of a change set. -/
structure PatchRiskAssessment where
  assessmentId : StableId
  changeSetId : StableId
  baseCommit : CommitId
  level : PatchRiskLevel
  riskCodes : List String
  requiresGuardian : Bool
  requiresHumanReview : Bool

/-- What a guardian may decide. -/
inductive GuardianOutcome
  | approve
  | revise
  | reject
  | humanReview

/-- The guardian's verdict. -/
structure GuardianDecision where
  decisionId : StableId
  proposalId : StableId
  baseCommit : CommitId
  outcome : GuardianOutcome
  reasons : List String

/-- What the gate may decide. -/
inductive WriteGateOutcome
  | allowCommit
  | blockValidation
  | requireGuardian
  | requireHuman
  | blockGuardian
  | blockHuman

/-- The gate's verdict. -/
structure WriteGateDecision where
  decisionId : StableId
  changeSetId : StableId
  baseCommit : CommitId
  outcome : WriteGateOutcome
  riskAssessmentId : StableId
  guardianDecisionId : Option StableId
  reasons : List String

/-- What to do about a finding. -/
inductive RepairAction
  | deterministicRepair
  | curatorRepair
  | guardianReview
  | quarantineOperation
  | retryAfterSourceContextRefresh
  | replan
  | human
  | stopBudgetExhausted
  | stopFatal
deriving DecidableEq

def RepairAction.value : RepairAction → String
  | .deterministicRepair => "deterministic_repair"
  | .curatorRepair => "curator_repair"
  | .guardianReview => "guardian_review"
  | .quarantineOperation => "quarantine_operation"
  | .retryAfterSourceContextRefresh => "retry_after_source_context_refresh"
  | .replan => "replan"
  | .human => "human"
  | .stopBudgetExhausted => "stop_budget_exhausted"
  | .stopFatal => "stop_fatal"

/-- The one next edge that a policy or a human selects. -/
structure RepairDirective where
  directiveId : StableId
  action : RepairAction
  findingIds : List StableId := []
  operationIds : List StableId := []
  allowedScope : RepairScope := {}
  reasonCodes : List String := []
  checkpointRequired : Bool := false

/-- What was done about a candidate. -/
structure RepairActionReceipt where
  receiptId : StableId
  action : RepairAction
  directiveId : StableId
  candidateId : StableId
  reasonCodes : List String

end NovelAgent.Domain
