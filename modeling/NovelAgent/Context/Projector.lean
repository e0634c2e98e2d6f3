import NovelAgent.Context.View

/-!
# The Projector

How the events of a run become the view an agent works from.
-/

namespace NovelAgent.Context

open Core Domain

/-- The event types whose payload a view never looks at. -/
inductive OtherEventType
  | runCreated | runResumed | runCompleted | runFailed
  | taskStarted | taskSuspended | taskCompleted | taskFailed
  | modelRequested | modelCompleted | modelFailed
  | agentStarted | agentCompleted | agentFailed
  | toolRequested | toolCompleted | toolFailed
  | artifactProduced | artifactSuperseded
  | commitRequested | commitAccepted | commitRejected
  | effectRequested | effectCompleted | effectUncertain
  | checkpointCreated
  | candidateProposed | candidateNormalized | candidateRepaired | candidateValidated
  | candidateQuarantined
  | proposalAttemptRequested | proposalAttemptCompleted | proposalSchemaRejected
  | proposalSemanticRejected | proposalDeterministicallyMerged | proposalRetryScheduled
  | proposalPoisonLoop | proposalBudgetExhausted | proposalHumanRequired
  | repairDecided | repairExhausted
  | guardianRequested | guardianCompleted
  | workflowSuspended | workflowResumed
  | projectionWaiting | freshnessPassed
  | informationBoundaryVerified | rootUpdateMaterialized
  | runtimeTaskCreated | runtimeTaskClaimed | runtimeAttemptStarted | runtimeAttemptSettled
  | runtimeTaskBlocked | runtimeAcceptanceRecorded | runtimeEffectRequested
  | runtimeEffectTerminal | runtimeCheckpointSaved | runtimeControlRecorded
  | runtimeWriterClaimed
  | requestMemory | planReviewSettled | contextPressure
deriving DecidableEq

/-- The event types that record a settled artifact. -/
inductive SettledEventType
  | contextViewStarted
  | writerTurnSettled
  | draftCandidateSettled
  | editorReviewSettled
  | editorRepairSettled
  | candidateObservationSettled
  | candidateReconciliationSettled
deriving DecidableEq

/-- An event's type and payload. The payloads of the context's own events are
    validated when their event is built. -/
inductive Payload
  | settledArtifact (eventType : SettledEventType) (artifactRef : ArtifactRef)
      (parentArtifactRef : Option ArtifactRef)
  | workPlanSettled (workPlanRef : ArtifactRef) (workingItem : ContextViewItem)
  | memoryRequested (requestRef : ArtifactRef) (requestFingerprint : ArtifactId)
  | memoryResolved (requestRef resolutionRef : ArtifactRef) (status : ContextDeltaStatus)
  | deltaApplied (delta : ContextDelta)
  | pressureDetected (pressure : ContextPressure)
  | compacted (receipt : ContextCompactionReceipt)
  | other (eventType : OtherEventType) (payload : JsonValue)
deriving DecidableEq

/-- What an event says, with the audit record that model events carry. -/
structure Content where
  payload : Payload
  payloadSchemaVersion : SchemaVersion
  artifactRefs : List ArtifactRef
  audit : Option JsonValue
deriving DecidableEq

/-- An event of a run, as far as the projection reads it. -/
abbrev RunEvent := Events.Event Content

section Projection

variable (countTokens : String → Int)

def itemTokens (items : List ContextViewItem) : Int :=
  (items.map fun item => (item.tokenCount : Int)).sum

/-- The view with the token counts of what it shows now. -/
def refreshTokens (view : AgentContextView) : AgentContextView :=
  { view with
    tokenReport := [
      ("compacted_prefix", itemTokens view.compactedPrefixItems),
      ("memory", itemTokens view.activeMemoryItems),
      ("protected", itemTokens view.protectedItems),
      ("recent_settled", itemTokens view.recentSettledTail),
      ("rendered", max 0 (countTokens (renderContext view))),
      ("working", itemTokens view.workingItems)] }

/-- The address of a view that has none yet. -/
def emptyHash : ArtifactId where
  root := "sha256:" ++ String.ofList (List.replicate 64 '0')
  valid := .refl true

/-- The items that are not in a set of identities. -/
def dropIds (removed : List StableId) (items : List ContextViewItem) : List ContextViewItem :=
  items.filter fun item => item.itemId ∉ removed

/-- The view after a delta, before its address and tokens. -/
def withDelta (view : AgentContextView) (delta : ContextDelta) : AgentContextView :=
  { view with
    revision := view.revision + 1
    activeMemoryItems :=
      dropIds delta.supersededItemIds view.activeMemoryItems ++ delta.addedMemoryItems
    unresolvedNeedIds :=
      (view.unresolvedNeedIds.filter (· ∉ delta.resolvedNeedIds) ++
        delta.unresolvedNeedIds).eraseDups
    providerValidityReceipt := none }

/-- A view after a recorded change. -/
def applyDelta (view : AgentContextView) (delta : ContextDelta) :
    Except ContextError AgentContextView :=
  if delta.parentViewRevision ≠ view.revision then
    .error (.projection "ContextDelta parent revision is stale")
  else if delta.baseCommit ≠ view.baseCommit ∨ delta.snapshotId ≠ view.snapshotId ∨
      delta.profileRef ≠ view.profileRef ∨ delta.planRef ≠ view.planRef then
    .error (.projection "ContextDelta basis differs from the current View")
  else if ∃ item ∈ delta.addedMemoryItems,
      item.itemId ∈ (dropIds delta.supersededItemIds view.activeMemoryItems).map
        fun active => active.itemId then
    .error (.projection "ContextDelta collides with an active memory item")
  else .ok (refreshTokens countTokens (withDelta view delta).withHash)

/-- The view after a work plan settled. The item goes in as it is. -/
def withWorkPlan (view : AgentContextView) (workingItem : ContextViewItem) : AgentContextView :=
  { view with
    revision := view.revision + 1
    workingItems := (view.workingItems.filter fun item => item.kind ≠ .workPlan) ++ [workingItem]
    providerValidityReceipt := none }

/-- The view after a compaction, before its address and tokens. -/
def withCompaction (view : AgentContextView) (receipt : ContextCompactionFields) :
    AgentContextView :=
  { view with
    revision := view.revision + 1
    generation := receipt.publishedGeneration
    activeMemoryItems := dropIds receipt.removedItemIds view.activeMemoryItems
    workingItems := dropIds receipt.removedItemIds view.workingItems
    recentSettledTail := dropIds receipt.removedItemIds view.recentSettledTail
    compactedPrefixItems := receipt.compactedItems
    compactedItemIds := (view.compactedItemIds ++ receipt.removedItemIds).eraseDups
    compactedPrefixRef := receipt.summaryArtifact
    coveredEventRange := some receipt.coveredEventRange
    keptBoundary := receipt.keptBoundary
    providerValidityReceipt := none }

/-- A view after a recorded compaction. -/
def applyCompaction (view : AgentContextView) (receipt : ContextCompactionReceipt) :
    Except ContextError AgentContextView :=
  if receipt.runId ≠ view.runId ∨ receipt.parentViewRevision ≠ view.revision ∨
      receipt.parentGeneration ≠ view.generation ∨
      receipt.basisEventPosition ≠ view.basisEventPosition ∨
      receipt.inputContextHash ≠ view.contextHash then
    .error (.projection "compaction receipt failed CAS or basis validation")
  else
    let candidate :=
      refreshTokens countTokens (withCompaction view receipt.toContextCompactionFields).withHash
    if candidate.contextHash ≠ receipt.outputContextHash then
      .error (.projection "compaction output hash differs from receipt")
    else .ok candidate

/-- What an event of the view's own task does to it. -/
def applyPayload (view : AgentContextView) : Payload → Except ContextError AgentContextView
  | .deltaApplied delta => applyDelta countTokens view delta
  | .workPlanSettled _ workingItem => .ok (withWorkPlan view workingItem)
  | .compacted receipt => applyCompaction countTokens view receipt
  | _ => .ok view

def atPosition (view : AgentContextView) (sequenceNo : Nat) : AgentContextView :=
  refreshTokens countTokens { view with basisEventPosition := sequenceNo }.withHash

/-- Apply the next event of the run. One of another task is only counted. -/
def applyEvent (view : AgentContextView) (event : RunEvent) :
    Except ContextError AgentContextView :=
  if event.runId ≠ view.runId then
    .error (.projection "RunEvent belongs to another run")
  else if event.sequenceNo ≠ view.basisEventPosition + 1 then
    .error (.projection "RunEvent is not the next event in sequence")
  else if ∃ taskId ∈ event.taskId, taskId ≠ view.taskId then
    .ok (atPosition countTokens view event.sequenceNo)
  else do
    let updated ← applyPayload countTokens view event.content.payload
    pure (atPosition countTokens updated event.sequenceNo)

/-- Apply the events of a stream in turn. -/
def fullReplay (seed : AgentContextView) (events : List RunEvent) :
    Except ContextError AgentContextView :=
  events.foldlM (applyEvent countTokens) seed

/-- A stream may be projected in two parts. -/
theorem fullReplay_append (view : AgentContextView) (before after : List RunEvent) :
    fullReplay countTokens view (before ++ after) =
      (fullReplay countTokens view before).bind fun mid => fullReplay countTokens mid after := by
  rw [fullReplay, List.foldlM_append]
  rfl

end Projection

end NovelAgent.Context
