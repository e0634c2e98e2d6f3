import Mathlib.Algebra.Order.Field.Basic
import Mathlib.Data.Rat.Floor
import NovelAgent.World.Records

/-!
# Context Items

What an agent is shown is a list of items, each in one of five layers. This
file has the items, the deltas and receipts that add and remove them, and the
rules these types check when they are built.
-/

namespace NovelAgent.Context

open Core Domain

theorem refusal_eq_none {refused : Prop} [Decidable refused] {message : String}
    {rest : Option String} :
    (if refused then some message else rest) = none ↔ ¬ refused ∧ rest = none := by
  split
  · rename_i h
    simp [h]
  · rename_i h
    simp [h]

def schemaVersionCodec : Codec SchemaVersion :=
  Codec.string.refine SchemaVersion.root
    (fun text => if h : isSchemaVersion text = true then some ⟨text, h⟩ else none)
    fun value => by simp [value.valid]

def artifactRefCodec : Codec ArtifactRef :=
  (Codec.object
    (.required "artifact_id" World.contentHashCodec <|
      .required "byte_length" .nat <|
      .required "media_type" .string <|
      .required "schema_version" schemaVersionCodec .nil)
    (by decide)).refine
  (fun ref => (ref.artifactId, ref.byteLength, ref.mediaType, ref.schemaVersion, ()))
  (fun (artifactId, byteLength, mediaType, schemaVersion, _) =>
    some ⟨artifactId, mediaType, byteLength, schemaVersion⟩)
  fun _ => rfl

/-- Who a view is made for. -/
inductive ContextConsumer
  | writer
  | planner
deriving DecidableEq

def ContextConsumer.value : ContextConsumer → String
  | .writer => "writer"
  | .planner => "planner"

def ContextConsumer.codec : Codec ContextConsumer :=
  .enum ContextConsumer.value [.writer, .planner] fun value => by cases value <;> decide

/-- Where an item stands. -/
inductive ContextLayer
  | «protected»
  | memory
  | working
  | recentSettled
  | compactedPrefix
deriving DecidableEq

def ContextLayer.value : ContextLayer → String
  | .protected => "protected"
  | .memory => "memory"
  | .working => "working"
  | .recentSettled => "recent_settled"
  | .compactedPrefix => "compacted_prefix"

def ContextLayer.codec : Codec ContextLayer :=
  .enum ContextLayer.value [.protected, .memory, .working, .recentSettled, .compactedPrefix]
    fun value => by cases value <;> decide

/-- What an item is. -/
inductive ContextItemKind
  | systemPolicy
  | toolPolicy
  | writingTask
  | acceptedPlan
  | projectProfile
  | authorIntent
  | planningInquiry
  | goalProposal
  | recentProse
  | memoryClaim
  | evidenceHandle
  | unresolvedNeed
  | workPlan
  | draftCheckpoint
  | editorInstruction
  | modelBatch
  | toolBatch
  | runtimeSummary
deriving DecidableEq

def ContextItemKind.value : ContextItemKind → String
  | .systemPolicy => "system_policy"
  | .toolPolicy => "tool_policy"
  | .writingTask => "writing_task"
  | .acceptedPlan => "accepted_plan"
  | .projectProfile => "project_profile"
  | .authorIntent => "author_intent"
  | .planningInquiry => "planning_inquiry"
  | .goalProposal => "goal_proposal"
  | .recentProse => "recent_prose"
  | .memoryClaim => "memory_claim"
  | .evidenceHandle => "evidence_handle"
  | .unresolvedNeed => "unresolved_need"
  | .workPlan => "work_plan"
  | .draftCheckpoint => "draft_checkpoint"
  | .editorInstruction => "editor_instruction"
  | .modelBatch => "model_batch"
  | .toolBatch => "tool_batch"
  | .runtimeSummary => "runtime_summary"

def ContextItemKind.codec : Codec ContextItemKind :=
  .enum ContextItemKind.value
    [.systemPolicy, .toolPolicy, .writingTask, .acceptedPlan, .projectProfile, .authorIntent,
      .planningInquiry, .goalProposal, .recentProse, .memoryClaim, .evidenceHandle,
      .unresolvedNeed, .workPlan, .draftCheckpoint, .editorInstruction, .modelBatch, .toolBatch,
      .runtimeSummary]
    fun value => by cases value <;> decide

/-- Whom a view, or a delta to it, is written for. -/
inductive ReaderScope
  | writerSafe
  | plannerSafe
deriving DecidableEq

def ReaderScope.value : ReaderScope → String
  | .writerSafe => "writer_safe"
  | .plannerSafe => "planner_safe"

def ReaderScope.codec : Codec ReaderScope :=
  .enum ReaderScope.value [.writerSafe, .plannerSafe] fun value => by cases value <;> decide

/-- Whom an item is written for. -/
inductive InformationScope
  | writerSafe
  | plannerSafe
  | runtime
deriving DecidableEq

def InformationScope.value : InformationScope → String
  | .writerSafe => "writer_safe"
  | .plannerSafe => "planner_safe"
  | .runtime => "runtime"

def InformationScope.codec : Codec InformationScope :=
  .enum InformationScope.value [.writerSafe, .plannerSafe, .runtime]
    fun value => by cases value <;> decide

/-- The scope of the items that are written for a reader. -/
def ReaderScope.items : ReaderScope → InformationScope
  | .writerSafe => .writerSafe
  | .plannerSafe => .plannerSafe

/-- A range of event positions starts at one or later and is not empty. -/
def rangeOrdered (range : Nat × Nat) : Bool :=
  1 ≤ range.1 && range.1 ≤ range.2

/-- An item before it is checked. -/
structure ContextItemFields where
  itemId : StableId
  layer : ContextLayer
  kind : ContextItemKind
  content : World.NonEmptyText
  tokenCount : Nat
  sourceArtifactRefs : List ArtifactRef
  sourceEventRange : Option (Nat × Nat)
  atomicGroupId : Option StableId
  supersedesItemIds : List StableId
  mandatory : Bool
  informationScope : InformationScope
  instructionBoundary : Bool
  pendingEffect : Bool
deriving DecidableEq

def validateItem (item : ContextItemFields) : Option String :=
  if item.tokenCount < 1 then some "Input should be greater than or equal to 1"
  else if ¬ item.sourceEventRange.all rangeOrdered then
    some "context item event range is invalid"
  else if item.kind = .runtimeSummary ∧
      (item.informationScope ≠ .runtime ∨ item.instructionBoundary = true) then
    some "runtime summary cannot masquerade as an instruction"
  else if item.pendingEffect = true ∧ item.layer = .compactedPrefix then
    some "pending effects cannot be compacted"
  else none

/-- A piece of what an agent is shown. -/
structure ContextViewItem extends ContextItemFields where
  valid : validateItem toContextItemFields = none
deriving DecidableEq

def ContextViewItem.codec : Codec ContextViewItem :=
  (Codec.object
    (.optional "atomic_group_id" (World.stableIdCodec.option World.stableId_ne_null) none <|
      .required "content" World.NonEmptyText.codec <|
      .optional "information_scope" InformationScope.codec .writerSafe <|
      .optional "instruction_boundary" .bool false <|
      .required "item_id" World.stableIdCodec <|
      .required "kind" ContextItemKind.codec <|
      .required "layer" ContextLayer.codec <|
      .optional "mandatory" .bool false <|
      .optional "pending_effect" .bool false <|
      .optional "source_artifact_refs" (.list artifactRefCodec) [] <|
      .optional "source_event_range"
        ((Codec.pair .nat .nat).option (Codec.pair_ne_null .nat .nat)) none <|
      .optional "supersedes_item_ids" (.list World.stableIdCodec) [] <|
      .required "token_count" .nat .nil)
    (by decide)).refine
  (fun item => (item.atomicGroupId, item.content, item.informationScope, item.instructionBoundary,
    item.itemId, item.kind, item.layer, item.mandatory, item.pendingEffect,
    item.sourceArtifactRefs, item.sourceEventRange, item.supersedesItemIds, item.tokenCount, ()))
  (fun (atomicGroupId, content, informationScope, instructionBoundary, itemId, kind, layer,
      mandatory, pendingEffect, sourceArtifactRefs, sourceEventRange, supersedesItemIds,
      tokenCount, _) =>
    let item := ⟨itemId, layer, kind, content, tokenCount, sourceArtifactRefs, sourceEventRange,
      atomicGroupId, supersedesItemIds, mandatory, informationScope, instructionBoundary,
      pendingEffect⟩
    if h : validateItem item = none then some ⟨item, h⟩ else none)
  fun item => by simp [item.valid]

/-- How a request for memory ended. -/
inductive ContextDeltaStatus
  | resolved
  | partialResult
  | insufficient
  | denied
  | budgetExhausted
deriving DecidableEq

/-- A delta before it is checked. -/
structure ContextDeltaFields where
  deltaId : StableId
  requestRef : ArtifactRef
  resolutionRef : ArtifactRef
  parentViewRevision : Nat
  baseCommit : Option CommitId
  snapshotId : Option StableId
  profileRef : Option ArtifactRef
  planRef : Option ArtifactRef
  addedMemoryItems : List ContextViewItem
  supersededItemIds : List StableId
  resolvedNeedIds : List StableId
  unresolvedNeedIds : List StableId
  evidenceRefs : List ArtifactRef
  tokenImpact : Int
  informationScope : ReaderScope
  status : ContextDeltaStatus
deriving DecidableEq

def validateDelta (delta : ContextDeltaFields) : Option String :=
  let ids := delta.addedMemoryItems.map fun item => item.itemId
  if delta.baseCommit.isNone ≠ delta.snapshotId.isNone then
    some "ContextDelta commit and snapshot basis must appear together"
  else if ∃ item ∈ delta.addedMemoryItems, item.layer ≠ .memory then
    some "ContextDelta can add only memory-layer items"
  else if ∃ item ∈ delta.addedMemoryItems,
      item.informationScope ≠ delta.informationScope.items ∧ item.informationScope ≠ .runtime then
    some "ContextDelta item scope exceeds the declared information scope"
  else if ¬ ids.Nodup then some "ContextDelta item ids must be unique"
  else if ∃ id ∈ ids, id ∈ delta.supersededItemIds then
    some "ContextDelta cannot add and supersede the same item"
  else if delta.status = .resolved ∧ delta.addedMemoryItems = [] ∧ delta.resolvedNeedIds = [] then
    some "resolved ContextDelta must add evidence or resolve a Need"
  else if (delta.status = .denied ∨ delta.status = .budgetExhausted) ∧
      (delta.addedMemoryItems ≠ [] ∨ delta.resolvedNeedIds ≠ []) then
    some "denied ContextDelta cannot expose resolved memory"
  else none

/-- Items that a memory request adds, and the ones they supersede. -/
structure ContextDelta extends ContextDeltaFields where
  valid : validateDelta toContextDeltaFields = none
deriving DecidableEq

/-- The receipt before it is checked. -/
structure ProviderValidityFields where
  receiptId : StableId
  tokenizer : World.NonEmptyText
  tokenizerVersion : World.NonEmptyText
  sequenceLimit : Nat
  reservedOutputTokens : Nat
  safetyAllowanceTokens : Nat
  renderedInputTokens : Nat
  availableInputTokens : Nat
  atomicGroupsValid : Bool
  providerValid : Bool
  contextHash : ArtifactId
deriving DecidableEq

/-- What a provider's receipt is refused with. -/
def validateCapacity (receipt : ProviderValidityFields) : Option String :=
  let expected :=
    receipt.sequenceLimit - receipt.reservedOutputTokens - receipt.safetyAllowanceTokens
  if receipt.sequenceLimit < 1 then some "Input should be greater than or equal to 1"
  else if receipt.availableInputTokens ≠ expected then
    some "provider receipt available capacity is inconsistent"
  else if receipt.providerValid ≠
      (receipt.atomicGroupsValid && decide (receipt.renderedInputTokens ≤ expected)) then
    some "provider receipt validity contradicts token or atomic checks"
  else none

/-- A provider's word that a view fits its window. -/
structure ProviderValidityReceipt extends ProviderValidityFields where
  valid : validateCapacity toProviderValidityFields = none
deriving DecidableEq

def ProviderValidityReceipt.codec : Codec ProviderValidityReceipt :=
  (Codec.object
    (.required "atomic_groups_valid" .bool <|
      .required "available_input_tokens" .nat <|
      .required "context_hash" World.contentHashCodec <|
      .required "provider_valid" .bool <|
      .required "receipt_id" World.stableIdCodec <|
      .required "rendered_input_tokens" .nat <|
      .required "reserved_output_tokens" .nat <|
      .required "safety_allowance_tokens" .nat <|
      .required "sequence_limit" .nat <|
      .required "tokenizer" World.NonEmptyText.codec <|
      .required "tokenizer_version" World.NonEmptyText.codec .nil)
    (by decide)).refine
  (fun receipt => (receipt.atomicGroupsValid, receipt.availableInputTokens, receipt.contextHash,
    receipt.providerValid, receipt.receiptId, receipt.renderedInputTokens,
    receipt.reservedOutputTokens, receipt.safetyAllowanceTokens, receipt.sequenceLimit,
    receipt.tokenizer, receipt.tokenizerVersion, ()))
  (fun (atomicGroupsValid, availableInputTokens, contextHash, providerValid, receiptId,
      renderedInputTokens, reservedOutputTokens, safetyAllowanceTokens, sequenceLimit, tokenizer,
      tokenizerVersion, _) =>
    let receipt := ⟨receiptId, tokenizer, tokenizerVersion, sequenceLimit, reservedOutputTokens,
      safetyAllowanceTokens, renderedInputTokens, availableInputTokens, atomicGroupsValid,
      providerValid, contextHash⟩
    if h : validateCapacity receipt = none then some ⟨receipt, h⟩ else none)
  fun receipt => by simp [receipt.valid]

/-- The fields of a compaction receipt. A ratio of token counts is exact. -/
structure ContextCompactionFields where
  receiptId : StableId
  runId : RunId
  parentViewRevision : Nat
  parentGeneration : Nat
  basisEventPosition : Nat
  coveredEventRange : Nat × Nat
  keptBoundary : Nat
  removedItemIds : List StableId
  compactedItems : List ContextViewItem
  summaryArtifact : Option ArtifactRef
  detailArtifact : Option ArtifactRef
  inputContextHash : ArtifactId
  outputContextHash : ArtifactId
  inputContextTokens : Option Nat
  outputContextTokens : Option Nat
  reductionRatio : Option ℚ
  deterministic : Bool
  safeCut : Bool
  publishedGeneration : Nat
deriving DecidableEq

/-- What the token counts of a receipt are refused with. They are given together or not at all. -/
def validateTokenCounts : Option Nat → Option Nat → Option ℚ → Option String
  | none, none, none => none
  | some before, some after, ratio =>
    let expected : ℚ := ((before : ℚ) - after) / before
    if before < 1 then some "compaction input token count must be positive"
    else if ratio.all fun value => 1 / 1000000000 < |value - expected| then
      some "compaction reduction ratio contradicts token counts"
    else none
  | _, _, _ => some "compaction token counts must be supplied together"

def validateReceipt (receipt : ContextCompactionFields) : Option String :=
  if receipt.basisEventPosition < 1 ∨ receipt.publishedGeneration < 1 then
    some "Input should be greater than or equal to 1"
  else if ∃ ratio ∈ receipt.reductionRatio, ratio < 0 ∨ 1 < ratio then
    some "Input should be between 0 and 1"
  else if ¬ rangeOrdered receipt.coveredEventRange ∨
      receipt.basisEventPosition < receipt.coveredEventRange.2 then
    some "compaction receipt event coverage is invalid"
  else if receipt.publishedGeneration ≠ receipt.parentGeneration + 1 then
    some "compaction generation must advance exactly once"
  else if ¬ receipt.safeCut then some "unsafe compaction receipt cannot be published"
  else if receipt.summaryArtifact.isNone ≠ receipt.detailArtifact.isNone then
    some "summary and detail artifacts must be persisted together"
  else validateTokenCounts receipt.inputContextTokens receipt.outputContextTokens
    receipt.reductionRatio

/-- What a compaction removed from a view and what it published instead. -/
structure ContextCompactionReceipt extends ContextCompactionFields where
  valid : validateReceipt toContextCompactionFields = none
deriving DecidableEq

/-- How a view's size compares with its limits. -/
@[ext]
structure ContextPressure where
  renderedInputTokens : Nat
  availableInputTokens : Nat
  softLimitTokens : Nat
  hardLimitTokens : Nat
  softExceeded : Bool
  hardExceeded : Bool
  ordered : softLimitTokens ≤ hardLimitTokens
  soft : softExceeded = decide (softLimitTokens < renderedInputTokens)
  hard : hardExceeded = decide (hardLimitTokens < renderedInputTokens)

instance : DecidableEq ContextPressure := fun _ _ => decidable_of_iff _ ContextPressure.ext_iff.symm

end NovelAgent.Context
