import NovelAgent.Retrieval.Needs
import NovelAgent.World.Text

/-!
# Evidence Selections

The exact text that was selected for a need, what a semantic judge said of it,
and the trace of the retrieval that found it.
-/

namespace NovelAgent.Evidence

open Core Domain Retrieval

def channelValue : RetrievalChannel → String
  | .r0 => "r0"
  | .r1Exact => "r1_exact"
  | .r1Temporal => "r1_temporal"
  | .anchorBm25 => "anchor_bm25"
  | .anchorDense => "anchor_dense"
  | .groundedBm25 => "grounded_bm25"
  | .groundedDense => "grounded_dense"
  | .hierarchy => "hierarchy"
  | .typedGraph => "typed_graph"
  | .rerank => "rerank"

/-- What a facet is about. -/
inductive ExpectedClaimScope
  | current
  | historical
  | knowledge
  | planned

/-- Where an item is shown. -/
inductive WriterContextSection
  | continuityConstraints
  | currentWorldState
  | relationshipAndEmotion
  | causalHistory
  | knowledgeAndDisclosure
  | planAndObligations
  | longRangeCallbacks

def WriterContextSection.value : WriterContextSection → String
  | .continuityConstraints => "continuity_constraints"
  | .currentWorldState => "current_world_state"
  | .relationshipAndEmotion => "relationship_and_emotion"
  | .causalHistory => "causal_history"
  | .knowledgeAndDisclosure => "knowledge_and_disclosure"
  | .planAndObligations => "plan_and_obligations"
  | .longRangeCallbacks => "long_range_callbacks"

/-- A need with what its question is about and where its answer belongs. -/
structure PublicNeed extends Stage1MemoryNeed where
  needType : String
  whyNeeded : String
  semanticQuestion : String
  entityIds : List StableId
  expectedSection : Option WriterContextSection
  /-- The claim scope expected of each facet, in the facets' order. -/
  expectedClaimScopes : List ExpectedClaimScope
  queryText_ne : queryText ≠ ""
  needType_ne : needType ≠ ""
  whyNeeded_ne : whyNeeded ≠ ""
  scopes_length : expectedClaimScopes.length = needFacets.length
  /-- Facets with a completion have distinct identities. -/
  facets_nodup : completionSpec.isSome = true → (needFacets.map NeedFacet.needFacetId).Nodup
  required_nodup : ∀ spec ∈ completionSpec, spec.requiredNeedFacetIds.Nodup
  required_ne_nil : ∀ spec ∈ completionSpec, spec.requiredNeedFacetIds ≠ []

namespace PublicNeed

def mandatory (need : PublicNeed) : Bool := need.requirement = .mandatory

/-- The facets that a need has to have answered. -/
def requiredFacetIds (need : PublicNeed) : List StableId :=
  match need.completionSpec with
  | some spec => spec.requiredNeedFacetIds
  | none => need.needFacets.map NeedFacet.needFacetId

/-- The facets that a trace of the need lists as required. -/
def declaredFacetIds (need : PublicNeed) : List StableId :=
  match need.completionSpec with
  | some spec => spec.requiredNeedFacetIds
  | none => []

variable (need : PublicNeed)

theorem needFacets_of_none (h : need.completionSpec = none) : need.needFacets = [] := by
  by_contra hne
  have := need.facets_iff.mp hne
  rw [h] at this
  exact absurd this (by simp)

theorem requiredFacetIds_eq : need.requiredFacetIds = need.declaredFacetIds := by
  unfold requiredFacetIds declaredFacetIds
  cases h : need.completionSpec with
  | none => simp [need.needFacets_of_none h]
  | some spec => rfl

/-- It requires only its own facets. -/
theorem required_mem_facets (id : StableId) (h : id ∈ need.requiredFacetIds) :
    id ∈ need.needFacets.map NeedFacet.needFacetId := by
  unfold requiredFacetIds at h
  cases hspec : need.completionSpec with
  | none => rwa [hspec] at h
  | some spec =>
    rw [hspec] at h
    exact need.required_mem spec hspec id h

end PublicNeed

/-- Exact text of a block, with the addresses it was cut out by. -/
@[ext]
structure EvidenceSlice where
  sliceId : StableId
  parentBlockId : StableId
  chapterId : StableId
  sceneId : Option StableId
  start : Nat
  stop : Nat
  text : String
  objectHash : ArtifactId
  quoteHash : ContentHash
  sourceCommit : CommitId
  snapshotId : StableId
  accessScope : String
  text_ne : text ≠ ""
  scope_ne : accessScope ≠ ""
  ordered : start ≤ stop

instance : DecidableEq EvidenceSlice := fun _ _ => decidable_of_iff _ EvidenceSlice.ext_iff.symm

/-- One selected slice and how retrieval came to it. -/
structure SliceSelectionTrace where
  sliceId : StableId
  unitId : StableId
  routeChannel : String
  fusedRank : Nat
  selectionReason : String
  evidenceRef : Option World.EvidenceRef
  supportedFacetIds : List StableId
deriving DecidableEq

/-- Whether a facet is answered. -/
inductive FacetClosureStatus
  | supported
  | unsupported
  | exhausted
  | notExecuted
deriving DecidableEq

/-- What exact evidence was found for a required facet. -/
structure FacetEvidenceReceipt where
  needId : StableId
  needFacetId : StableId
  facetKind : NeedFacetKind
  mandatory : Bool
  status : FacetClosureStatus
  supportingUnitIds : List StableId
  stopReason : String

/-- What a judge says. -/
inductive NeedEvidenceSemanticStatus
  | supported
  | partialSupport
  | unsupported
  | unresolved
deriving DecidableEq

/-- What the judge said of the slices offered for a facet. -/
@[ext]
structure NeedFacetSemanticReceipt where
  needId : StableId
  needFacetId : StableId
  facetKind : String
  mandatory : Bool
  status : NeedEvidenceSemanticStatus
  evaluatedSliceIds : List StableId
  supportingSliceIds : List StableId
  partialSliceIds : List StableId
  unsupportedSliceIds : List StableId
  reason : String
  batchReceiptIds : List StableId
  judgeVersion : String
  facetKind_ne : facetKind ≠ ""
  /-- No slice is classified twice. -/
  classified_nodup : (supportingSliceIds ++ partialSliceIds ++ unsupportedSliceIds).Nodup
  classified_evaluated : ∀ id ∈ supportingSliceIds ++ partialSliceIds ++ unsupportedSliceIds,
    id ∈ evaluatedSliceIds
  evaluated_nodup : evaluatedSliceIds.Nodup
  batches_nodup : batchReceiptIds.Nodup
  supported_rule : status = .supported → supportingSliceIds ≠ []
  partial_rule : status = .partialSupport → supportingSliceIds = [] ∧ partialSliceIds ≠ []
  unsupported_rule : status = .unsupported →
    supportingSliceIds = [] ∧ partialSliceIds = [] ∧ unsupportedSliceIds ≠ []

instance : DecidableEq NeedFacetSemanticReceipt := fun _ _ => decidable_of_iff _ NeedFacetSemanticReceipt.ext_iff.symm

/-- One request to the judge. -/
structure NeedEvidenceJudgmentBatchReceipt where
  batchId : StableId
  needFacetIds : List StableId

/-- The slices selected for a need, and what was said of them. -/
structure NeedEvidenceSelection where
  need : PublicNeed
  selections : List SliceSelectionTrace
  slices : List EvidenceSlice
  facetReceipts : List FacetEvidenceReceipt
  semanticReceipts : List NeedFacetSemanticReceipt
  semanticBatchReceipts : List NeedEvidenceJudgmentBatchReceipt

/-- A selection that holds nothing but its need. -/
def NeedEvidenceSelection.empty (need : PublicNeed) : NeedEvidenceSelection where
  need := need
  selections := []
  slices := []
  facetReceipts := []
  semanticReceipts := []
  semanticBatchReceipts := []

/-- A retrieval unit with what it is about and where it came from. -/
structure SourcedUnit extends RetrievalUnit where
  entityIds : List StableId
  predicate : Option String
  sourceCommit : CommitId
  snapshotId : StableId
  evidenceRefs : List World.EvidenceRef
  text_ne : text ≠ ""

/-- The place of a unit in one channel's answer. -/
structure ChannelHit where
  channel : RetrievalChannel
  channelRank : Nat

/-- A unit that retrieval found for a need. -/
structure FusedCandidate where
  unit : SourcedUnit
  fusedRank : Nat
  firstHit : ChannelHit
  otherHits : List ChannelHit
  selected : Bool

/-- Whether a need was searched for. -/
inductive NeedExecutionStatus
  | executedWithCandidates
  | executedEmpty
  | notExecutedBudgetExhausted
  | notExecutedFreshnessBlocked
  | notExecutedScopeBlocked
  | notExecutedNoExecutableQuery
  | notExecutedControllerStop
deriving DecidableEq

def NeedExecutionStatus.notExecuted : NeedExecutionStatus → Bool
  | .executedWithCandidates => false
  | .executedEmpty => false
  | _ => true

/-- What an arm did for a need. -/
structure RetrievalTrace where
  needId : StableId
  candidates : List FusedCandidate
  needExecutionStatus : NeedExecutionStatus
  callsAllocated : Nat
  requiredNeedFacetIds : List StableId
  closedNeedFacetIds : List StableId
  facetReceipts : List FacetEvidenceReceipt
  l0FallbackEvidenceRefs : List World.EvidenceRef
  l0FallbackSliceIds : List StableId
  l0FallbackTruncated : Bool
  semanticReceiptRefs : List ArtifactRef
  semanticFallbackStatus : Option String
  semanticFallbackReason : Option String

def supportedFacetIds (receipts : List FacetEvidenceReceipt) : List StableId :=
  (receipts.filter fun receipt => receipt.status = .supported).map
    FacetEvidenceReceipt.needFacetId

/-- The rules that a trace is loaded under. -/
structure RetrievalTrace.Valid (trace : RetrievalTrace) : Prop where
  uncalled : trace.needExecutionStatus.notExecuted = true → trace.callsAllocated = 0
  unsearched : trace.needExecutionStatus.notExecuted = true → trace.candidates = []
  found : trace.needExecutionStatus = .executedWithCandidates → trace.candidates ≠ []
  foundNothing : trace.needExecutionStatus = .executedEmpty → trace.candidates = []
  closed_required : ∀ id ∈ trace.closedNeedFacetIds, id ∈ trace.requiredNeedFacetIds
  receipts_belong : ∀ receipt ∈ trace.facetReceipts,
    receipt.needId = trace.needId ∧ receipt.needFacetId ∈ trace.requiredNeedFacetIds
  /-- With receipts, the closed facets are those that a receipt supports. -/
  closed_supported : trace.facetReceipts ≠ [] →
    ∀ id, id ∈ trace.closedNeedFacetIds ↔ id ∈ supportedFacetIds trace.facetReceipts
  fallbackStatus_ne : trace.semanticFallbackStatus ≠ some ""
  fallbackReason_ne : trace.semanticFallbackReason ≠ some ""

end NovelAgent.Evidence
