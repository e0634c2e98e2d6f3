import Mathlib.Data.Rat.Defs
import NovelAgent.ModelCalls.Ledger

/-!
# Requests and Their Budgets

What a caller asks a model for, what the model reports back, and the one output budget
that the payload of a request, its admission and the ledger share.
-/

namespace NovelAgent.ModelCalls

open Core Domain

/-- The roles of models. -/
inductive ModelRole
  | implementation
  | batchTest
deriving DecidableEq

def ModelRole.value : ModelRole → String
  | .implementation => "implementation_model"
  | .batchTest => "batch_test_model"

/-- How budgets are resolved. -/
inductive BudgetResolutionProfile
  | canary
  | strict

/-- A request for text. The fields that the gateway only hands on are one value. -/
structure TextRequest where
  requestId : StableId
  runId : RunId
  taskId : TaskId
  attemptId : Option StableId
  modelRole : ModelRole
  purpose : ModelCallPurpose
  traceId : String
  spanId : Option String
  prompt : String
  responseSchema : Option JsonValue
  maxOutputTokens : Option Nat
  enableThinking : Option Bool
  thinkingTokenBudget : Option Nat
  schedulingStage : Option String
  budgetSource : Option BudgetSource
  others : JsonValue

/-- Whether a cost is known. -/
inductive ModelCostAvailability
  | known
  | unknown
  | notApplicable
deriving DecidableEq

/-- What a call used. -/
structure ModelUsage where
  inputTokens : Nat
  outputTokens : Nat
  reasoningTokens : Nat
  costUsd : Rat
  costAvailability : ModelCostAvailability
  nonneg : 0 ≤ costUsd

theorem free_nonneg : (0 : Rat) ≤ 0 := le_refl 0

/-- A provider's answer. -/
structure ProviderModelResult where
  text : String
  modelVersion : String
  usage : ModelUsage
  providerRequestId : Option String
  versioned : modelVersion ≠ ""
  named : providerRequestId ≠ some ""

/-- A record before it is checked. -/
structure CallFields where
  requestId : StableId
  runId : RunId
  taskId : TaskId
  modelRole : ModelRole
  purpose : ModelCallPurpose
  traceId : String
  spanId : Option String
  endpoint : String
  model : String
  modelVersion : String
  usage : ModelUsage
  latencyMs : Nat
  startedAt : Timestamp
  completedAt : Timestamp

/-- No text of a record is empty. -/
def CallFields.Valid (fields : CallFields) : Prop :=
  fields.traceId ≠ "" ∧ fields.spanId ≠ some "" ∧ fields.endpoint ≠ "" ∧ fields.model ≠ "" ∧
    fields.modelVersion ≠ ""

instance (fields : CallFields) : Decidable fields.Valid := by
  unfold CallFields.Valid
  infer_instance

/-- The audit record of one call. -/
structure ModelCallRecord extends CallFields where
  valid : toCallFields.Valid

def ModelCallRecord.validate (fields : CallFields) : Option ModelCallRecord :=
  if h : fields.Valid then some ⟨fields, h⟩ else none

/-- What the gateway may raise. -/
inductive GatewayError where
  | routing (message : String)
  | forbidden
  | budgetResolution (message : String)
  | invalid
  | admission
  | ledger (error : LedgerError)
  | uncertain (requestId : String)
  | adapter (typeName : String)
  | rawResponsePersistence
  | rawResponseReparse (message : String)
  | validation
  | missingEntry
  | stopped

/-- The limits of a provider. -/
structure ProviderBudgetLimits where
  sequenceLimit : Nat
  outputLimit : Option Nat
  safetyAllowanceTokens : Option Nat
  estimatedReasoningReserve : Nat
  defaultThinking : Bool
  reasoningIncludedInCompletionTokens : Bool
  globalOutputCap : Nat
  positive : 1 ≤ sequenceLimit ∧ 1 ≤ globalOutputCap
  outputPositive : ∀ limit ∈ outputLimit, 1 ≤ limit

def EffectiveBudgetResult.validate (budgetSource : BudgetSource) (contextLimit
    estimatedInputTokens bodyOutputBudget thinkingBudget totalOutputBudget
    safetyAllowanceTokens : Nat) : Option EffectiveBudgetResult :=
  if h : 1 ≤ contextLimit ∧ 1 ≤ bodyOutputBudget ∧ 1 ≤ totalOutputBudget then
    some
      { budgetSource, contextLimit, estimatedInputTokens, bodyOutputBudget, thinkingBudget
        totalOutputBudget, safetyAllowanceTokens
        reservedSequenceTokens := estimatedInputTokens + totalOutputBudget + safetyAllowanceTokens
        availableInputTokens := contextLimit - totalOutputBudget - safetyAllowanceTokens
        positive := ⟨h.1, h.2.1, h.2.2, by omega⟩
        reserved := rfl
        available := rfl }
  else none

namespace EffectiveBudgetResolver

/-- The tokens kept back for thinking. -/
def thinkingReserve (request : TextRequest) (limits : ProviderBudgetLimits) : Nat :=
  if request.enableThinking = some false then 0
  else
    match request.thinkingTokenBudget with
    | some budget => budget
    | none =>
      if request.enableThinking = some true ∨ limits.defaultThinking = true then
        limits.estimatedReasoningReserve
      else 0

/-- Where the budget comes from, the tokens of the answer, and what is kept free. -/
def bodyAndSafety (request : TextRequest) (limits : ProviderBudgetLimits)
    (profile : BudgetResolutionProfile) (estimatedInputTokens : Nat)
    (invocationOutputTokens : Option Nat) (thinking : Nat) :
    Except GatewayError (BudgetSource × Nat × Nat) :=
  let autoSafety := limits.safetyAllowanceTokens.getD 256
  match request.maxOutputTokens, invocationOutputTokens, limits.outputLimit with
  | some tokens, _, _ => pure (.explicitRequest, tokens, autoSafety)
  | none, some tokens, _ => pure (.invocationBudget, tokens, autoSafety)
  | none, none, some limit => pure (.endpointDefault, limit, autoSafety)
  | none, none, none =>
    match profile with
    | .canary =>
      let room : Int := limits.sequenceLimit - estimatedInputTokens - autoSafety - thinking
      pure (.modelMaxAuto, (max 1 (min room limits.globalOutputCap)).toNat, autoSafety)
    | .strict => throw (.budgetResolution
        "strict budget profile requires an explicit, invocation, or registered default")

/-- The tokens of the answer and of the thinking together. -/
def totalOutput (body thinking : Nat) (limits : ProviderBudgetLimits) : Nat :=
  if thinking = 0 ∨ limits.reasoningIncludedInCompletionTokens = true then
    if thinking ≠ 0 then max body thinking else body
  else body + thinking

/-- The budget of a request. -/
def resolve (request : TextRequest) (limits : ProviderBudgetLimits)
    (profile : BudgetResolutionProfile) (estimatedInputTokens : Nat)
    (invocationOutputTokens : Option Nat) : Except GatewayError EffectiveBudgetResult := do
  let thinking := thinkingReserve request limits
  let (source, body, autoSafety) ← bodyAndSafety request limits profile estimatedInputTokens
    invocationOutputTokens thinking
  let total := totalOutput body thinking limits
  let safety :=
    if source = .modelMaxAuto then autoSafety
    else limits.safetyAllowanceTokens.getD (max 256 ((estimatedInputTokens + total) / 20))
  match EffectiveBudgetResult.validate source limits.sequenceLimit estimatedInputTokens body
      thinking total safety with
  | none => throw .invalid
  | some budget => pure budget

end EffectiveBudgetResolver

end NovelAgent.ModelCalls
