import NovelAgent.Pipeline.CompactUnits
import NovelAgent.Pipeline.StageMerge

/-!
# Registered Routes

What a registered route makes of the answers that its channels have given so far: which
candidates they are put together to, which facets of the need those close, and which of
the fallbacks apply to them.
-/

namespace NovelAgent.Pipeline

open Core Domain

open Retrieval (ConditionalFallback NeedFacet NeedFacetKind RetrievalChannel RetrievalUnitKind
  RouteStep RouteStepGroup Stage1QueryIntent)

open Evidence (FacetClosureStatus FacetEvidenceReceipt NeedExecutionStatus PublicNeed)

/-- One ordered relation that can close a relation facet. -/
structure RelationFacetBinding where
  subjectId : StableId
  predicate : String
  objectId : StableId

/-- A need as it is searched for, with what its completion says of single facets. -/
structure RetrievalNeed extends PublicNeed where
  queryHints : List String
  purpose : Option String
  irreducibleNeedFacetIds : List StableId
  predicatesByFacet : Dict String (List String)
  relationBindingsByFacet : Dict String (List RelationFacetBinding)

/-- Searches that are run together, and whether their answers are fused. -/
structure FusedGroup extends RouteStepGroup where
  fusionProfile : Option String

/-- Searches of a fallback, and whether their answers are fused. -/
structure FusedFallback extends ConditionalFallback where
  fusionProfile : Option String

/-- The route registered for a need. -/
structure RegisteredRoute where
  baseCommit : CommitId
  mandatorySteps : List RouteStep
  primaryGroups : List FusedGroup
  conditionalFallbacks : List FusedFallback
  effectiveChannels : List RetrievalChannel
  /-- The channels of the route are those of its steps. -/
  effective_iff : ∀ channel, channel ∈ effectiveChannels ↔
    channel ∈ (mandatorySteps ++ primaryGroups.flatMap (fun group => group.steps) ++
      conditionalFallbacks.flatMap fun fallback => fallback.steps).map RouteStep.channel

section Facets

/-- `_NAVIGATION_KINDS` -/
def navigationKinds : List RetrievalUnitKind := [.sceneAnchor, .chapterAnchor, .arcAnchor]

/-- `_STRUCTURED_KINDS_BY_FACET` -/
def structuredKindsByFacet : List (NeedFacetKind × List RetrievalUnitKind) :=
  [(.currentState, [.stateAnchor]),
    (.capabilityStatus, [.stateAnchor]),
    (.limitation, [.stateAnchor]),
    (.knowledgeBoundary, [.stateAnchor]),
    (.relationState, [.relationAnchor]),
    (.causalHistory, [.eventAnchor]),
    (.setup, [.eventAnchor]),
    (.commitment, [.eventAnchor, .planAnchor]),
    (.unresolvedStatus, [.eventAnchor, .planAnchor]),
    (.planNode, [.planAnchor])]

/-- The facet kinds that a unit stands for. A plan is an obligation to whoever writes, and
    its provenance to whoever plans. -/
def kindFacets (unit : RetrievalUnit) : List NeedFacetKind :=
  if unit.unitKind = .planAnchor then
    if unit.accessScope = "writer_safe" then [.commitment, .unresolvedStatus] else [.planNode]
  else
    (structuredKindsByFacet.filter fun entry => unit.unitKind ∈ entry.2).map Prod.fst

/-- The unit is the whole relation, in its direction. -/
def bindsRelation (unit : RetrievalUnit) (binding : RelationFacetBinding) : Bool :=
  unit.predicate = some binding.predicate &&
    unit.entityIds = [binding.subjectId, binding.objectId]

variable (need : RetrievalNeed)

def matchesFacet (unit : RetrievalUnit) (facet : NeedFacet) : Bool :=
  match facet.facetKind, need.relationBindingsByFacet.get? facet.needFacetId.root with
  | .relationState, some bindings =>
    unit.unitKind = .relationAnchor && bindings.any (bindsRelation unit)
  | _, _ =>
    unit.predicate.any fun predicate =>
      predicate ∈ (need.predicatesByFacet.get? facet.needFacetId.root).getD []

/-- `_matching_facets` -/
def matchingFacets (unit : RetrievalUnit) (facets : List NeedFacet)
    (kinds : List NeedFacetKind) : List StableId :=
  if need.completionSpec = none then []
  else
    (facets.filter fun facet => facet.facetKind ∈ kinds && matchesFacet need unit facet).map
      NeedFacet.needFacetId

def requiredFacetsOf : List NeedFacet :=
  need.needFacets.filter fun facet => facet.needFacetId ∈ need.requiredFacetIds

/-- `_facets_for_unit` -/
def facetsForUnit (unit : RetrievalUnit) : List StableId :=
  if unit.evidenceRefs = [] then []
  else if requiredFacetsOf need = [] then []
  else if need.entityIds ≠ [] ∧ ∀ entityId ∈ need.entityIds, entityId ∉ unit.entityIds then []
  else if unit.unitKind ∈ navigationKinds then []
  else if unit.unitKind ∈ groundedKinds then []
  else if unit.unitKind = .factAnchor then []
  else matchingFacets need unit (requiredFacetsOf need) (kindFacets unit)

def unitFacets (units : List RetrievalUnit) : Dict StableId (List StableId) :=
  units.foldl (fun facets unit => facets.set unit.unitId (facetsForUnit need unit)) Dict.empty

def receiptOf (units : List RetrievalUnit) (facet : NeedFacet) : FacetEvidenceReceipt :=
  let supporting := ((unitFacets need units).entries.filter fun entry =>
    facet.needFacetId ∈ entry.2).map Prod.fst
  { needId := need.needId
    needFacetId := facet.needFacetId
    facetKind := facet.facetKind
    mandatory := need.mandatory
    status := if supporting ≠ [] then .supported else if units = [] then .exhausted else .unsupported
    supportingUnitIds := supporting
    stopReason :=
      if supporting ≠ [] then "exact_evidence_served"
      else if units = [] then "no_candidates_selected"
      else "no_exact_evidence_for_facet" }

/-- `FacetSupportEvaluator.evaluate` -/
def evaluate (candidates : List FusedCandidate) : List FacetEvidenceReceipt :=
  (requiredFacetsOf need).map (receiptOf need (candidates.map FusedCandidate.unit))

/-- `FacetSupportEvaluator.mandatory_closed` -/
def mandatoryClosed (receipts : List FacetEvidenceReceipt) : Bool :=
  receipts.all fun receipt => !receipt.mandatory || receipt.status = .supported

/-- `FacetSupportEvaluator.closed_facet_ids` -/
def closedFacetIds (receipts : List FacetEvidenceReceipt) : List StableId :=
  ((receipts.filter fun receipt => receipt.status = .supported).map
    FacetEvidenceReceipt.needFacetId).eraseDups

end Facets

section Fallbacks

/-- `_semantic_query_terms` -/
def semanticQueryTerms (casefold : String → String) (value : String) : List (List Char) :=
  (((queryTokens (casefold value).toList).filter fun token => 2 ≤ token.length).flatMap
    fun token => if token.all isHanChar ∧ 2 < token.length then bigrams token else [token]).eraseDups

def evidencedText (casefold : String → String) (candidates : List FusedCandidate) : String :=
  " ".intercalate ((candidates.filter fun candidate =>
    candidate.selected && candidate.unit.evidenceRefs ≠ []).map fun candidate =>
      casefold candidate.unit.text)

/-- The anchors found are not evidence enough for the need. -/
def anchorEvidenceInsufficient (casefold : String → String) (candidates : List FusedCandidate)
    (need : RetrievalNeed) : Bool :=
  let selected := candidates.filter FusedCandidate.selected
  if need.queryIntent ∈ [Stage1QueryIntent.relationChain, .causalMultiHop] then
    if selected = [] then true
    else
      let receipts := evaluate need selected
      receipts ≠ [] && !mandatoryClosed receipts
  else if selected = [] then true
  else if need.needType ∈ ["causal_history", "entity_history", "knowledge_boundary",
      "long_range_callback", "plan_conditioned_history"] then
    !candidates.any fun candidate => candidate.selected && candidate.hasEvidence
  else
    let terms := semanticQueryTerms casefold need.queryText
    let matched := terms.countP fun term => term <:+: (evidencedText casefold candidates).toList
    terms ≠ [] && decide (2 * matched < terms.length)

/-- `_fallback_applies` -/
def fallbackApplies (casefold : String → String) (condition : String)
    (candidates : List FusedCandidate) (need : RetrievalNeed) : Except String Bool :=
  let hasCandidates := candidates.any FusedCandidate.selected
  if condition = "anchor_evidence_insufficient" then
    .ok (anchorEvidenceInsufficient casefold candidates need)
  else if condition = "exact_current_record_absent" then .ok !hasCandidates
  else if condition = "plan_anchor_insufficient" then .ok !hasCandidates
  else if condition = "hierarchy_scope_resolved" then .ok hasCandidates
  else .error ("unregistered deterministic fallback condition: " ++ condition)

/-- `_HISTORICAL_NEED_TYPES` -/
def historicalNeedTypes : List String :=
  ["causal_history", "entity_history", "long_range_callback", "plan_conditioned_history"]

/-- `_HISTORICAL_QUERY_EXPANSION` -/
def historicalQueryExpansion : String :=
  "历史 经过 前因 起因 后果 结果 影响 变化 早期 首次 来源 " ++
    "物件 持有 携带 保护 作用 决定 选择 未解决"

/-- The start of a text. -/
def upTo (limit : Nat) (text : String) : String := String.ofList (text.toList.take limit)

/-- The hints that a budget of characters has room for, each cut to a length. -/
def boundedHints : Nat → List String → List String
  | _, [] => []
  | budget, hint :: rest =>
    let bounded := upTo (min 250 budget) (Text.strip hint)
    if budget = 0 then []
    else if bounded = "" then boundedHints budget rest
    else bounded :: boundedHints (budget - bounded.toList.length) rest

/-- A text with one character in the place of another. -/
def replaceChar (old new : Char) (text : String) : String :=
  String.ofList (text.toList.map fun c => if c = old then new else c)

/-- The end of an identity, after its last dot. -/
def idSuffix (id : StableId) : String :=
  String.ofList (id.root.toList.reverse.takeWhile (· ≠ '.')).reverse

/-- `_historical_fallback_need`: The query text of the copy, which is else as the need. -/
def historicalFallbackQuery (need : RetrievalNeed) : String :=
  if need.needType ∉ historicalNeedTypes ∧ need.queryIntent ≠ .semanticHistory then need.queryText
  else
    let items := upTo 700 (Text.strip need.queryText) :: boundedHints 500 need.queryHints ++
      [upTo 280 need.whyNeeded, upTo 280 (need.purpose.getD ""),
        upTo 120 (replaceChar '_' ' ' need.needType),
        upTo 160 (replaceChar '-' ' ' (idSuffix need.needId)), historicalQueryExpansion]
    upTo 2400 (" ".intercalate
      ((items.map Text.strip).filter fun item => item ≠ "").eraseDups)

end Fallbacks

section Assembling

/-- `FusionService()` -/
def defaultFusionService : FusionService where
  rrfK := 60
  selector := ⟨8, 4, true, Nat.succ_pos 7, Nat.succ_pos 3⟩
  rrfK_pos := Nat.succ_pos 59

/-- `_direct_candidates` -/
def directCandidates (results : ChannelResults) (limit : Nat) : List FusedCandidate :=
  ((firstPer (fun hit => hit.unit.unitId) (allHits results)).zipIdx 1).map fun pair =>
    let kept := decide (pair.2 ≤ limit) || pair.1.unit.mandatory
    { unit := pair.1.unit
      fusedRank := pair.2
      rrfScore := 1 / (pair.2 : ℚ)
      channelHits := [pair.1]
      selected := kept
      rejectionReason := if kept then none else some "direct_result_limit" }

def answered (results : ChannelResults) : List RetrievalChannel := results.entries.map Prod.fst

/-- The answers to some steps. -/
def stageResults (steps : List RouteStep) (results : ChannelResults) : ChannelResults :=
  steps.foldl (fun stage step =>
    match results.get? step.channel with
    | some hits => stage.set step.channel hits
    | none => stage) Dict.empty

/-- What the stages of a route come to. -/
structure Stages where
  candidates : List FusedCandidate
  fusionApplied : Bool
  consumed : List RetrievalChannel

/-- Add the answers of one more stage. -/
def mergeStage (limit : Nat) (stages : Stages) (stage : ChannelResults) (useRrf : Bool)
    (reserveIncoming : Bool) : Except String Stages :=
  if stage.entries = [] then .ok stages
  else do
    let rrf := useRrf && decide (1 < stage.entries.length)
    let incoming ← if rrf then defaultFusionService.fuse stage limit []
      else .ok (directCandidates stage limit)
    return { candidates := mergeCandidates stages.candidates incoming limit reserveIncoming
             fusionApplied := stages.fusionApplied || rrf
             consumed := stages.consumed ++ answered stage }

/-- Add the answers of the fallbacks, and name the last one that has any. -/
def mergeFallbacks (limit : Nat) (results : ChannelResults) :
    Stages → Option String → List FusedFallback → Except String (Stages × Option String)
  | stages, reason, [] => .ok (stages, reason)
  | stages, reason, fallback :: rest => do
      let stage := stageResults fallback.steps results
      let merged ← mergeStage limit stages stage fallback.fusionProfile.isSome true
      mergeFallbacks limit results merged
        (if stage.entries = [] then reason else some fallback.condition) rest

/-- All stages of a route, and the condition of the last fallback that was used. -/
def mergeStages (limit : Nat) (plan : RegisteredRoute) (results : ChannelResults) :
    Except String (Stages × Option String) := do
  let mandatory ← mergeStage limit ⟨[], false, []⟩ (stageResults plan.mandatorySteps results) false
    false
  let primary ← plan.primaryGroups.foldlM (fun stages group =>
    mergeStage limit stages (stageResults group.steps results) group.fusionProfile.isSome false)
    mandatory
  let (stages, reason) ← mergeFallbacks limit results primary none plan.conditionalFallbacks
  let remaining := (results.entries.filter fun entry => entry.1 ∉ stages.consumed).foldl
    (fun stage entry => stage.set entry.1 entry.2) Dict.empty
  let all ← mergeStage limit stages remaining false false
  return (all, reason)

/-- A service that ranks candidates once more, for a need with a query text. -/
abbrev RerankService :=
  RetrievalNeed → String → List FusedCandidate → Nat → Except String (List FusedCandidate)

/-- What is reported for a need with a registered route. -/
structure RouteTrace where
  needId : StableId
  intent : Stage1QueryIntent
  allowedChannels : List RetrievalChannel
  channelCandidateCounts : List (RetrievalChannel × Nat)
  candidates : List FusedCandidate
  fusionApplied : Bool
  rerankApplied : Bool
  rerankFailure : Option String
  fallbackReason : Option String
  effectiveChannels : List RetrievalChannel
  stopReason : RetrievalStopReason
  closedNeedFacetIds : List StableId
  facetReceipts : List FacetEvidenceReceipt
  needExecutionStatus : NeedExecutionStatus
  callsAllocated : Nat
  requiredNeedFacetIds : List StableId
  irreducibleNeedFacetIds : List StableId

variable (need : RetrievalNeed) (plan : RegisteredRoute) (results : ChannelResults) (limit : Nat)

/-- The candidates as the service ranks them, or as they are with the reason of its failure. -/
def reranked (reranker : Option RerankService) (stages : Stages) (reason : Option String) :
    List FusedCandidate × Bool × Option String :=
  match reranker, stages.fusionApplied with
  | some rerank, true =>
    let query := if reason = none then need.queryText else historicalFallbackQuery need
    match rerank need query stages.candidates limit with
    | .ok ranked => (ranked, true, none)
    | .error error => (stages.candidates, false, some ("reranker_degraded:" ++ error))
  | _, _ => (stages.candidates, false, none)

/-- Why the search for a need stopped. -/
def stopReasonOf (satisfied fallbackUsed : Bool) : RetrievalStopReason :=
  match satisfied, fallbackUsed with
  | true, false => .exactSatisfied
  | true, true => .budgetSatisfied
  | false, true => .fallbackExhausted
  | false, false => .candidatesExhausted

/-- `_assemble_route_trace` -/
def assembleRouteTrace (reranker : Option RerankService) : Except String RouteTrace := do
  let (stages, reason) ← mergeStages limit plan results
  let (ranked, rerankApplied, rerankFailure) := reranked need limit reranker stages reason
  let candidates ← protectHistoricalEvidence need.queryIntent ranked limit
  let selected := candidates.filter FusedCandidate.selected
  let receipts := evaluate need selected
  return {
    needId := need.needId
    intent := need.queryIntent
    allowedChannels := answered results
    channelCandidateCounts := results.entries.map fun entry =>
      (entry.1, (entry.2.head?.map ChannelHit.candidateCount).getD 0)
    candidates := candidates
    fusionApplied := stages.fusionApplied
    rerankApplied := rerankApplied
    rerankFailure := rerankFailure
    fallbackReason := reason
    effectiveChannels := plan.effectiveChannels
    stopReason := stopReasonOf (mandatoryClosed receipts && selected ≠ []) reason.isSome
    closedNeedFacetIds := closedFacetIds receipts
    facetReceipts := receipts
    needExecutionStatus := if candidates = [] then .executedEmpty else .executedWithCandidates
    callsAllocated := results.entries.length
    requiredNeedFacetIds := need.declaredFacetIds
    irreducibleNeedFacetIds := need.irreducibleNeedFacetIds }

/-- `_empty_trace` -/
def emptyTrace (status : NeedExecutionStatus) (plan : Option RegisteredRoute) : RouteTrace where
  needId := need.needId
  intent := need.queryIntent
  allowedChannels := []
  channelCandidateCounts := []
  candidates := []
  fusionApplied := false
  rerankApplied := false
  rerankFailure := none
  fallbackReason := none
  effectiveChannels := (plan.map RegisteredRoute.effectiveChannels).getD []
  stopReason :=
    if status = .notExecutedNoExecutableQuery then .noExecutableQuery else .candidatesExhausted
  closedNeedFacetIds := []
  facetReceipts := []
  needExecutionStatus := status
  callsAllocated := 0
  requiredNeedFacetIds := need.declaredFacetIds
  irreducibleNeedFacetIds := need.irreducibleNeedFacetIds

/-- A call is counted for every channel that answered. -/
theorem assembleRouteTrace_allocated {reranker : Option RerankService} {trace : RouteTrace}
    (h : assembleRouteTrace need plan results limit reranker = .ok trace) :
    trace.callsAllocated = (answered results).length := by
  unfold assembleRouteTrace at h
  rcases (Outcome.bind_eq_ok _ _ _).mp h with ⟨merged, _, h⟩
  rcases (Outcome.bind_eq_ok _ _ _).mp h with ⟨candidates, _, h⟩
  rw [← (Outcome.pure_eq_ok _ _).mp h, answered, List.length_map]

end Assembling

end NovelAgent.Pipeline
