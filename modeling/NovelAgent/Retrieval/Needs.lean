import Mathlib.Algebra.Order.Field.Basic
import Mathlib.Data.Rat.Floor
import NovelAgent.Domain.Ids

/-!
# Memory Needs and Retrieval Tools

What a memory controller is asked for and what its tools answer: the needs of
a request, the routes registered for them, the tools that serve a channel, and
the decisions a policy may take.
-/

namespace NovelAgent.Retrieval

open Core Domain

/-- How a tool searches. -/
inductive RetrievalChannel
  | r0
  | r1Exact
  | r1Temporal
  | anchorBm25
  | anchorDense
  | groundedBm25
  | groundedDense
  | hierarchy
  | typedGraph
  | rerank
deriving DecidableEq

/-- Where a tool looks. -/
inductive CandidatePool
  | r0
  | r1
  | anchor
  | grounded
  | hierarchy
  | graph
deriving DecidableEq

/-- What a query is after. -/
inductive Stage1QueryIntent
  | currentState
  | knownId
  | planNode
  | mandatoryConstraint
  | semanticHistory
  | relatedEvent
  | planObligation
  | globalArc
  | chapterThread
  | characterArc
  | exactQuote
  | rarePhrase
  | styleVoice
  | dialogueSample
  | causalMultiHop
  | relationChain
  | anchorInsufficient
deriving DecidableEq

/-- What is at stake. -/
inductive NeedRisk
  | low
  | medium
  | high

/-- Whether a need has to be met. -/
inductive RequirementLevel
  | mandatory
  | optional
deriving DecidableEq

/-- What a facet asks. -/
inductive NeedFacetKind
  | currentState
  | relationState
  | capabilityStatus
  | limitation
  | knowledgeBoundary
  | causalHistory
  | setup
  | unresolvedStatus
  | commitment
  | planNode
deriving DecidableEq

/-- The kinds of units. -/
inductive RetrievalUnitKind
  | factAnchor
  | stateAnchor
  | relationAnchor
  | eventAnchor
  | sceneAnchor
  | chapterAnchor
  | arcAnchor
  | planAnchor
  | groundedBlock
  | groundedSpan
deriving DecidableEq

/-- Who may read. -/
inductive AccessScope
  | writerSafe
  | authorPlanning
  | evaluator

def AccessScope.value : AccessScope → String
  | .writerSafe => "writer_safe"
  | .authorPlanning => "author_planning"
  | .evaluator => "evaluator"

/-- The tables of the registered tools, in their order. -/
def channelsByTool : List (String × RetrievalChannel) :=
  [("memory.resolve_context_local", .r0),
    ("memory.search_exact", .r1Exact),
    ("memory.search_temporal", .r1Temporal),
    ("memory.search_graph", .typedGraph),
    ("memory.search_anchor_bm25", .anchorBm25),
    ("memory.search_anchor_dense", .anchorDense),
    ("memory.search_grounded_bm25", .groundedBm25),
    ("memory.search_grounded_dense", .groundedDense),
    ("memory.search_hierarchy", .hierarchy)]

/-- The channel of each registered tool. -/
def channelByTool (toolName : String) : Option RetrievalChannel :=
  channelsByTool.lookup toolName

/-- The tool that searches a channel. No tool reranks. -/
def toolByChannel : RetrievalChannel → Option String
  | .r0 => some "memory.resolve_context_local"
  | .r1Exact => some "memory.search_exact"
  | .r1Temporal => some "memory.search_temporal"
  | .typedGraph => some "memory.search_graph"
  | .anchorBm25 => some "memory.search_anchor_bm25"
  | .anchorDense => some "memory.search_anchor_dense"
  | .groundedBm25 => some "memory.search_grounded_bm25"
  | .groundedDense => some "memory.search_grounded_dense"
  | .hierarchy => some "memory.search_hierarchy"
  | .rerank => none

/-- The pool of each channel. -/
def poolByChannel : RetrievalChannel → Option CandidatePool
  | .r0 => some .r0
  | .r1Exact => some .r1
  | .r1Temporal => some .r1
  | .anchorBm25 => some .anchor
  | .anchorDense => some .anchor
  | .groundedBm25 => some .grounded
  | .groundedDense => some .grounded
  | .hierarchy => some .hierarchy
  | .typedGraph => some .graph
  | .rerank => none

theorem mem_of_lookup {α β : Type} [BEq α] [LawfulBEq α] {table : List (α × β)} {key : α}
    {value : β} (h : table.lookup key = some value) : (key, value) ∈ table := by
  rcases List.lookup_eq_some_iff.mp h with ⟨before, after, htable, _⟩
  rw [htable]
  exact List.mem_append_right before (List.mem_cons_self ..)

/-- The two tool tables are inverse to each other. -/
theorem channelByTool_eq_some (toolName : String) (channel : RetrievalChannel) :
    channelByTool toolName = some channel ↔ toolByChannel channel = some toolName := by
  unfold channelByTool channelsByTool
  constructor
  · intro h
    have hmem := mem_of_lookup h
    simp only [List.mem_cons, Prod.mk.injEq, List.not_mem_nil, or_false] at hmem
    rcases hmem with ⟨rfl, rfl⟩ | ⟨rfl, rfl⟩ | ⟨rfl, rfl⟩ | ⟨rfl, rfl⟩ | ⟨rfl, rfl⟩ | ⟨rfl, rfl⟩ |
      ⟨rfl, rfl⟩ | ⟨rfl, rfl⟩ | ⟨rfl, rfl⟩ <;> rfl
  · intro h
    cases channel with
    | rerank => simp [toolByChannel] at h
    | _ =>
      rw [← Option.some.inj h]
      decide

/-- Queries that only a plan can answer. -/
def planIntents : List Stage1QueryIntent :=
  [.planNode, .planObligation, .globalArc]

/-- A part of a need. -/
structure NeedFacet where
  needFacetId : StableId
  facetKind : NeedFacetKind

/-- What must be covered for a need to count as answered. -/
structure NeedCompletionSpec where
  requiredNeedFacetIds : List StableId

/-- One thing that a task needs to remember. -/
structure Stage1MemoryNeed where
  needId : StableId
  runId : RunId
  taskId : TaskId
  baseCommit : CommitId
  queryIntent : Stage1QueryIntent
  queryText : String
  accessScope : String
  retrievalMayReturnPlan : Bool
  riskLevel : NeedRisk
  requirement : RequirementLevel
  allowedCandidatePools : List CandidatePool
  priority : Nat
  needFacets : List NeedFacet
  completionSpec : Option NeedCompletionSpec
  priority_le : priority ≤ 100
  pools_ne_nil : allowedCandidatePools ≠ []
  /-- Facets and their completion appear together. -/
  facets_iff : needFacets ≠ [] ↔ completionSpec.isSome = true
  /-- The completion only names facets of the need. -/
  required_mem : ∀ spec ∈ completionSpec, ∀ id ∈ spec.requiredNeedFacetIds,
    id ∈ needFacets.map NeedFacet.needFacetId

theorem fifty_le_hundred : 50 ≤ 100 := by decide

/-- A step of a route. -/
structure RouteStep where
  stepId : StableId
  channel : RetrievalChannel
deriving DecidableEq

/-- Searches that are run together. -/
structure RouteStepGroup where
  steps : List RouteStep
  steps_ne_nil : steps ≠ []
  channels_nodup : (steps.map RouteStep.channel).Nodup

/-- Searches that are run when a condition holds of what came before. -/
structure ConditionalFallback where
  condition : String
  steps : List RouteStep
  condition_ne : condition ≠ ""
  steps_ne_nil : steps ≠ []
  channels_nodup : (steps.map RouteStep.channel).Nodup

/-- The route registered for a need. -/
structure RoutePlan where
  needId : StableId
  mandatorySteps : List RouteStep
  primaryGroups : List RouteStepGroup
  conditionalFallbacks : List ConditionalFallback

namespace RoutePlan

/-- The steps that come before any fallback. -/
def primarySteps (plan : RoutePlan) : List RouteStep :=
  plan.mandatorySteps ++ plan.primaryGroups.flatMap RouteStepGroup.steps

end RoutePlan

/-- What an agent may do with its tools. -/
structure ToolPolicy where
  allowedTools : List String
  maxRounds : Nat
  maxToolCalls : Nat
  wallClockBudgetMs : Nat
  allowed_nodup : allowedTools.Nodup
  rounds_pos : 0 < maxRounds
  wallClock_pos : 0 < wallClockBudgetMs

/-- What a request may spend on retrieval. -/
structure RetrievalBudget where
  maxRounds : Nat
  maxToolCalls : Nat
  maxCandidates : Nat
  wallClockBudgetMs : Nat
  rounds_pos : 0 < maxRounds
  calls_pos : 0 < maxToolCalls
  candidates_pos : 0 < maxCandidates
  candidates_le : maxCandidates ≤ 100
  wallClock_pos : 0 < wallClockBudgetMs

/-- What a controller is given. -/
structure MemoryResolutionRequest where
  requestId : StableId
  runId : RunId
  taskId : TaskId
  projectId : ProjectId
  baseCommit : CommitId
  snapshotId : StableId
  initialMemoryNeeds : List Stage1MemoryNeed
  worldline : String
  narrativeChapter : Nat
  accessScope : AccessScope
  allowFuturePlan : Bool
  retrievalBudget : RetrievalBudget
  /-- Every need belongs to the run and the task and reads the same commit. -/
  needs_belong : ∀ need ∈ initialMemoryNeeds,
    need.runId = runId ∧ need.taskId = taskId ∧ need.baseCommit = baseCommit
  writerSafe : accessScope = .writerSafe → allowFuturePlan = false

/-- Why a tool failed. -/
inductive ToolFailureCode
  | scopeMismatch
  | baseCommitMismatch
  | snapshotStale
  | accessDenied
  | invalidQuery
  | timeout
  | backendUnavailable
  | partialResult
  | evidenceUnresolvable
  | budgetExceeded

/-- Whether a tool answered. -/
inductive ToolResultStatus
  | succeeded
  | partialResult
  | failed
deriving DecidableEq

/-- What a retrieval unit says and what kind of unit it is. -/
structure RetrievalUnit where
  unitId : StableId
  unitKind : RetrievalUnitKind
  text : String

/-- A hit, as it is read. -/
structure RawHit where
  /-- The unit read from the hit's JSON text, when it validates. -/
  unit : Option RetrievalUnit
  /-- The identity read from the loaded object, when it validates. -/
  loadedUnitId : Option StableId

/-- What a tool answered. -/
structure ToolResult where
  toolCallId : StableId
  status : ToolResultStatus
  basisCommit : CommitId
  snapshotId : Option StableId
  /-- The hits of the payload, when it has a list of them. -/
  hits : Option (List RawHit)
  coverage : ℚ
  newInformationGain : Nat
  failureCode : Option ToolFailureCode
  coverage_nonneg : 0 ≤ coverage
  coverage_le : coverage ≤ 1
  failed_code : status = .failed → failureCode.isSome = true
  succeeded_code : status = .succeeded → failureCode = none

namespace ToolResult

def foundEvidence (result : ToolResult) : Bool :=
  result.status == .succeeded && decide (0 < result.coverage)

end ToolResult

/-- A call of a tool, with what it answered. -/
structure ToolCall where
  needId : StableId
  toolName : String
  result : ToolResult

def ToolCall.pair (call : ToolCall) : StableId × String := (call.needId, call.toolName)

/-- Why a resolution stops. -/
inductive ControllerStopReason
  | sufficient
  | mandatoryGapUnresolved
  | budgetExhausted
  | freshnessBlocked
  | accessBlocked
  | conflictRequiresReview
  | toolFailure
  | noAdditionalEvidence
deriving DecidableEq

/-- A decision that passed its own validation: exactly the fields of its action are there. -/
inductive ControllerPolicyDecision
  | callTool (needId : StableId) (toolName : String) (rationaleCode : String)
  | executePlan (pendingActionIds : List StableId) (rationaleCode : String)
  | stop (stopReason : ControllerStopReason) (rationaleCode : String)
deriving DecidableEq

/-- When an action is legal. -/
inductive ControllerActionPhase
  | mandatory
  | primary
  | fallback
deriving DecidableEq

/-- An action on offer. -/
structure RegisteredControllerAction where
  actionId : StableId
  needId : StableId
  routeStepId : Option StableId
  toolName : String
  retrievalChannel : RetrievalChannel
  requirement : RequirementLevel
  phase : ControllerActionPhase
  fallbackCondition : Option String
  queryIntent : Stage1QueryIntent

def RegisteredControllerAction.pair (action : RegisteredControllerAction) : StableId × String :=
  (action.needId, action.toolName)

/-- What a resolution may raise. -/
inductive ControllerError
  | valueError (message : String)
  | keyError (key : String)
  | toolBinding (message : String)
  | policy (message : String)
  | tool (message : String)
deriving DecidableEq

/-- The need is in the request's scope, and no plan is read without leave. -/
def needIsAccessible (need : Stage1MemoryNeed) (accessScope : String) (allowFuturePlan : Bool) :
    Bool :=
  if need.accessScope ≠ accessScope then false
  else !((decide (need.queryIntent ∈ planIntents) || need.retrievalMayReturnPlan) &&
    !allowFuturePlan)

end NovelAgent.Retrieval
