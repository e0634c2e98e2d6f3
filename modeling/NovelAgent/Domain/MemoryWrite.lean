import NovelAgent.Domain.Changes

/-!
# Memory Write Contracts

What the runtime kernel reads of a memory repair: the finding that a Planner
gap hands over, and the result of the workflow that repaired it. Both are
stored as artifacts and validated when they are read back.
-/

namespace NovelAgent.Domain

/-- Why memory is missing. -/
inductive MemoryGapClassification
  | projectionStaleOrMissing
  | retrievalPathGapWithL0
  | canonExtractionGap
  | assertionOrRumorOnly
  | sourceEvidenceAbsent
  | identityCutoffOrPermissionInvalid
deriving DecidableEq

/-- Who has to repair it. -/
inductive MemoryRepairOwner
  | projection
  | memoryGateway
  | graphCurator
  | ordinaryCurator
  | operator

/-- The owner's name in a derived task identity. -/
def MemoryRepairOwner.value : MemoryRepairOwner → String
  | .projection => "projection"
  | .memoryGateway => "memory_gateway"
  | .graphCurator => "graph_curator"
  | .ordinaryCurator => "ordinary_curator"
  | .operator => "operator"

/-- The evidence-only handoff from a Planner gap to one repair owner. -/
structure MemoryRepairFinding where
  findingId : StableId
  incidentId : StableId
  plannerRunId : RunId
  plannerTaskId : TaskId
  plannerAttemptId : StableId
  plannerIntentRef : ArtifactRef
  projectId : ProjectId
  baseCommit : CommitId
  basisSnapshotId : Option StableId
  classification : MemoryGapClassification
  repairOwner : MemoryRepairOwner
  noProgressKey : StableId

/-- How a workflow ended. -/
inductive MemoryWriteWorkflowStatus
  | committed
  | noop
  | quarantined
  | suspended
  | humanRequired
  | replanRequired
  | budgetExhausted
  | fatal
deriving DecidableEq

/-- The decision whether a projection reflects a canonical commit. -/
structure FreshnessDecision where
  canonicalCommit : CommitId

/-- The terminal result of a memory write. -/
structure MemoryWriteWorkflowResult where
  requestId : StableId
  status : MemoryWriteWorkflowStatus
  canonicalCommitAccepted : Bool
  baseCommit : CommitId
  resultingCommit : Option CommitId
  projectionSnapshotId : Option StableId
  freshness : Option FreshnessDecision
  checkpointRef : Option ArtifactRef

/-- The media type a stored workflow result is recognised by. -/
def memoryWriteResultMediaType : String :=
  "application/vnd.novel-agent.memory-write-workflow-result+json"

end NovelAgent.Domain
