import Mathlib.Data.List.Sort
import NovelAgent.Context.Items
import NovelAgent.Core.Keyed
import NovelAgent.Core.Like
import NovelAgent.Core.Outcome

/-!
# The Model Call Ledger

One entry for each request identity: what was asked for, and how the call ended.
The ledger in memory is the reference; it keeps its entries in a dictionary.
-/

namespace NovelAgent.ModelCalls

open Core Domain

/-- A point in time: an instant, or what a clock of no known time zone shows. Two
    instants are equal whatever zones they are written in. -/
inductive Timestamp where
  | aware (instant : Int)
  | naive (wall : Int)
deriving DecidableEq

/-- Where a budget comes from. -/
inductive BudgetSource
  | explicitRequest
  | invocationBudget
  | endpointDefault
  | modelMaxAuto
deriving DecidableEq

def BudgetSource.value : BudgetSource → String
  | .explicitRequest => "explicit_request"
  | .invocationBudget => "invocation_budget"
  | .endpointDefault => "endpoint_default"
  | .modelMaxAuto => "model_max_auto"

/-- A budget that was resolved. -/
structure EffectiveBudgetResult where
  budgetSource : BudgetSource
  contextLimit : Nat
  estimatedInputTokens : Nat
  bodyOutputBudget : Nat
  thinkingBudget : Nat
  totalOutputBudget : Nat
  safetyAllowanceTokens : Nat
  reservedSequenceTokens : Nat
  availableInputTokens : Nat
  positive : 1 ≤ contextLimit ∧ 1 ≤ bodyOutputBudget ∧ 1 ≤ totalOutputBudget ∧
    1 ≤ reservedSequenceTokens
  reserved : reservedSequenceTokens =
    estimatedInputTokens + totalOutputBudget + safetyAllowanceTokens
  available : availableInputTokens = contextLimit - totalOutputBudget - safetyAllowanceTokens
deriving DecidableEq

/-- What a call is for. -/
inductive ModelCallPurpose
  | development
  | batchTest
  | evaluation
deriving DecidableEq

def ModelCallPurpose.value : ModelCallPurpose → String
  | .development => "development"
  | .batchTest => "batch_test"
  | .evaluation => "evaluation"

/-- What the ledger reads of a request. The canonical text is that of all its fields. -/
structure ModelRequest where
  requestId : StableId
  runId : RunId
  taskId : TaskId
  attemptId : Option StableId
  purpose : ModelCallPurpose
  schedulingStage : Option String
  canonicalJson : String

def modelRequestHash (request : ModelRequest) : ArtifactId :=
  digest request.canonicalJson

/-- The logical phase of a request: its stage, or its purpose where it names none. -/
def ModelRequest.logicalPhase (request : ModelRequest) : String :=
  match request.schedulingStage with
  | none => request.purpose.value
  | some stage => if stage = "" then request.purpose.value else stage

theorem ModelRequest.logicalPhase_ne_empty (request : ModelRequest) :
    request.logicalPhase ≠ "" := by
  have hpurpose : request.purpose.value ≠ "" := by
    cases request.purpose <;> decide
  unfold ModelRequest.logicalPhase
  cases request.schedulingStage with
  | none => exact hpurpose
  | some stage =>
    change (if stage = "" then request.purpose.value else stage) ≠ ""
    by_cases hstage : stage = ""
    · rwa [if_pos hstage]
    · rwa [if_neg hstage]

/-- How far a call is. -/
inductive ModelCallLedgerStatus
  | requested
  | completed
  | validationRejected
  | outputIncomplete
  | transportExhausted
  | uncertain
deriving DecidableEq

def ModelCallLedgerStatus.value : ModelCallLedgerStatus → String
  | .requested => "requested"
  | .completed => "completed"
  | .validationRejected => "validation_rejected"
  | .outputIncomplete => "output_incomplete"
  | .transportExhausted => "transport_exhausted"
  | .uncertain => "uncertain"

/-- An entry before it is checked. -/
structure LedgerFields (Call : Type) where
  requestId : StableId
  runId : RunId
  taskId : TaskId
  attemptId : Option StableId
  requestHash : ArtifactId
  effectiveBudget : EffectiveBudgetResult
  reasoningIncludedInCompletionTokens : Bool
  status : ModelCallLedgerStatus
  logicalPhase : String
  providerRequestId : Option String
  providerSentAt : Option Timestamp
  rawResponseHash : Option ArtifactId
  rawArtifactRef : Option ArtifactRef
  callRecord : Option Call
  validationError : Option String
  transportErrorType : Option String
  requestedAt : Timestamp
  completedAt : Option Timestamp
deriving DecidableEq

variable {Call : Type}

/-- The status says that the provider answered. -/
def ModelCallLedgerStatus.Answered (status : ModelCallLedgerStatus) : Prop :=
  status = .completed ∨ status = .validationRejected ∨ status = .outputIncomplete

/-- The bounds of the texts, and the evidence that a terminal status needs. -/
structure LedgerFields.Valid (fields : LedgerFields Call) : Prop where
  phase : fields.logicalPhase ≠ ""
  provider : fields.providerRequestId ≠ some ""
  detail : ∀ text ∈ fields.validationError, text.length ≤ 4096
  transport : ∀ text ∈ fields.transportErrorType, text ≠ "" ∧ text.length ≤ 240
  answered : fields.status.Answered →
    fields.rawResponseHash ≠ none ∧ fields.callRecord ≠ none ∧ fields.completedAt ≠ none
  rejected : fields.status = .validationRejected → fields.validationError ≠ none
  exhausted : fields.status = .transportExhausted →
    fields.transportErrorType ≠ none ∧ fields.completedAt ≠ none

instance (fields : LedgerFields Call) : Decidable fields.Valid :=
  decidable_of_iff
    (fields.logicalPhase ≠ "" ∧ fields.providerRequestId ≠ some "" ∧
      (∀ text ∈ fields.validationError, text.length ≤ 4096) ∧
      (∀ text ∈ fields.transportErrorType, text ≠ "" ∧ text.length ≤ 240) ∧
      ((fields.status = .completed ∨ fields.status = .validationRejected ∨
          fields.status = .outputIncomplete) →
        fields.rawResponseHash.isSome ∧ fields.callRecord.isSome ∧ fields.completedAt.isSome) ∧
      (fields.status = .validationRejected → fields.validationError ≠ none) ∧
      (fields.status = .transportExhausted →
        fields.transportErrorType ≠ none ∧ fields.completedAt ≠ none))
    (by
      simp only [Option.isSome_iff_ne_none]
      exact ⟨fun ⟨a, b, c, d, e, f, g⟩ => ⟨a, b, c, d, e, f, g⟩,
        fun ⟨a, b, c, d, e, f, g⟩ => ⟨a, b, c, d, e, f, g⟩⟩)

/-- An entry with its terminal evidence. -/
structure ModelCallLedgerEntry (Call : Type) extends LedgerFields Call where
  valid : toLedgerFields.Valid

instance [DecidableEq Call] : DecidableEq (ModelCallLedgerEntry Call) := fun a b =>
  decidable_of_iff (a.toLedgerFields = b.toLedgerFields) <| by
    cases a
    cases b
    simp

def requestedEntry (request : ModelRequest) (effectiveBudget : EffectiveBudgetResult)
    (reasoningIncluded : Bool) (now : Int) : ModelCallLedgerEntry Call where
  requestId := request.requestId
  runId := request.runId
  taskId := request.taskId
  attemptId := request.attemptId
  requestHash := modelRequestHash request
  effectiveBudget := effectiveBudget
  reasoningIncludedInCompletionTokens := reasoningIncluded
  status := .requested
  logicalPhase := request.logicalPhase
  providerRequestId := none
  providerSentAt := none
  rawResponseHash := none
  rawArtifactRef := none
  callRecord := none
  validationError := none
  transportErrorType := none
  requestedAt := .aware now
  completedAt := none
  valid :=
    { phase := request.logicalPhase_ne_empty
      provider := nofun
      detail := nofun
      transport := nofun
      answered := by simp [ModelCallLedgerStatus.Answered]
      rejected := nofun
      exhausted := nofun }

/-- Why an operation of the ledger raised. -/
inductive LedgerError where
  | collision (message : String)
  | notReserved (requestId : String)
  | database
  | invalidRow
deriving DecidableEq

/-- Why a request may not reserve the identity of this entry again. -/
def identityError (existing : LedgerFields Call) (request : ModelRequest)
    (effectiveBudget : EffectiveBudgetResult) (reasoningIncluded : Bool) : Option LedgerError :=
  if existing.requestHash ≠ modelRequestHash request then
    some (.collision "model request identity collision")
  else if existing.effectiveBudget ≠ effectiveBudget ∨
      existing.reasoningIncludedInCompletionTokens ≠ reasoningIncluded then
    some (.collision "effective budget identity collision")
  else none

/-- Why a request may not take the place of the reserved one. -/
def rebindError (existing : LedgerFields Call) (expectedRequestHash : ArtifactId)
    (effectiveBudget : EffectiveBudgetResult) (reasoningIncluded : Bool) : Option LedgerError :=
  if existing.requestHash ≠ expectedRequestHash ∨ existing.status ≠ .requested ∨
      existing.completedAt ≠ none then
    some (.collision "model request cannot rebind after reservation")
  else if existing.effectiveBudget ≠ effectiveBudget ∨
      existing.reasoningIncludedInCompletionTokens ≠ reasoningIncluded then
    some (.collision "effective budget identity collision")
  else none

/-- Why an entry may not be settled as this one. -/
def settlementError (existing entry : LedgerFields Call) : Option LedgerError :=
  if existing.requestHash ≠ entry.requestHash ∨ existing.runId ≠ entry.runId ∨
      existing.taskId ≠ entry.taskId ∨ existing.effectiveBudget ≠ entry.effectiveBudget ∨
      existing.reasoningIncludedInCompletionTokens ≠
        entry.reasoningIncludedInCompletionTokens then
    some (.collision "model call settlement identity collision")
  else if existing.status ≠ entry.status ∧ existing.completedAt ≠ none ∧
      ¬ (existing.status = .completed ∧ entry.status = .validationRejected) then
    some (.collision "terminal model call cannot be overwritten")
  else none

def ModelCallLedgerEntry.rebound (entry : ModelCallLedgerEntry Call) (requestHash : ArtifactId) :
    ModelCallLedgerEntry Call :=
  { entry with
    requestHash := requestHash
    valid := { entry.valid with } }

/-- A call of the port. A request is reserved at the time its clock shows. -/
inductive Operation (Call : Type) where
  | createRequested (request : ModelRequest) (effectiveBudget : EffectiveBudgetResult)
      (reasoningIncluded : Bool) (now : Int)
  | rebindRequested (request : ModelRequest) (expectedRequestHash : ArtifactId)
      (effectiveBudget : EffectiveBudgetResult) (reasoningIncluded : Bool)
  | settle (entry : ModelCallLedgerEntry Call)
  | load (requestId : StableId)
  | listForPrefix (requestIdPrefix : String)
  | listForRun (runId : RunId)

/-- What a call returns. -/
inductive Reply (Call : Type) where
  | entry (entry : ModelCallLedgerEntry Call)
  | found (entry : Option (ModelCallLedgerEntry Call))
  | entries (entries : List (ModelCallLedgerEntry Call))

/-- The identity is the other one, or starts with it and a dot. -/
def Under (requestIdPrefix : String) (requestId : String) : Bool :=
  requestId == requestIdPrefix || Like.startsWith (requestIdPrefix ++ ".") requestId

/-- The ledger in memory: a dictionary, in the order of its keys' arrival. -/
abbrev InMemoryModelCallLedger (Call : Type) := List (ModelCallLedgerEntry Call)

def entryKey (entry : ModelCallLedgerEntry Call) : String := entry.requestId.root

namespace InMemoryModelCallLedger

variable (ledger : InMemoryModelCallLedger Call)

/-- The entry under an identity. -/
def get (requestId : StableId) : Option (ModelCallLedgerEntry Call) :=
  ledger.find? fun entry => entryKey entry = requestId.root

/-- Write an entry under its identity. -/
def put (entry : ModelCallLedgerEntry Call) : InMemoryModelCallLedger Call :=
  match ledger.get entry.requestId with
  | none => ledger ++ [entry]
  | some _ => Keyed.replaceFirst entryKey entry ledger

/-- The entries in the order of their identities. -/
def sorted : List (ModelCallLedgerEntry Call) :=
  List.insertionSort (fun a b => entryKey a ≤ entryKey b) ledger

def createRequested (request : ModelRequest) (effectiveBudget : EffectiveBudgetResult)
    (reasoningIncluded : Bool) (now : Int) :
    Except LedgerError (ModelCallLedgerEntry Call × InMemoryModelCallLedger Call) :=
  let entry := requestedEntry request effectiveBudget reasoningIncluded now
  match ledger.get request.requestId with
  | some existing =>
    match identityError existing.toLedgerFields request effectiveBudget reasoningIncluded with
    | some error => throw error
    | none => pure (existing, ledger)
  | none => pure (entry, ledger.put entry)

/-- Put another request in the place of one that was not sent. -/
def rebindRequested (request : ModelRequest) (expectedRequestHash : ArtifactId)
    (effectiveBudget : EffectiveBudgetResult) (reasoningIncluded : Bool) :
    Except LedgerError (ModelCallLedgerEntry Call × InMemoryModelCallLedger Call) :=
  match ledger.get request.requestId with
  | none => throw (.notReserved request.requestId.root)
  | some existing =>
    match rebindError existing.toLedgerFields expectedRequestHash effectiveBudget
        reasoningIncluded with
    | some error => throw error
    | none =>
      let rebound := existing.rebound (modelRequestHash request)
      pure (rebound, ledger.put rebound)

/-- Write how a call ended. -/
def settle (entry : ModelCallLedgerEntry Call) :
    Except LedgerError (ModelCallLedgerEntry Call × InMemoryModelCallLedger Call) :=
  match ledger.get entry.requestId with
  | none => throw (.notReserved entry.requestId.root)
  | some existing =>
    match settlementError existing.toLedgerFields entry.toLedgerFields with
    | some error => throw error
    | none => pure (entry, ledger.put entry)

/-- The entries under an identity. -/
def listForPrefix (requestIdPrefix : String) : List (ModelCallLedgerEntry Call) :=
  ledger.sorted.filter fun entry => Under requestIdPrefix (entryKey entry)

def listForRun (runId : RunId) : List (ModelCallLedgerEntry Call) :=
  ledger.sorted.filter fun entry => entry.runId = runId

/-- One call of the port. -/
def perform : Operation Call → Except LedgerError (Reply Call × InMemoryModelCallLedger Call)
  | .createRequested request effectiveBudget reasoningIncluded now => do
      let (entry, after) ← ledger.createRequested request effectiveBudget reasoningIncluded now
      pure (.entry entry, after)
  | .rebindRequested request expectedRequestHash effectiveBudget reasoningIncluded => do
      let (entry, after) ←
        ledger.rebindRequested request expectedRequestHash effectiveBudget reasoningIncluded
      pure (.entry entry, after)
  | .settle entry => do
      let (entry, after) ← ledger.settle entry
      pure (.entry entry, after)
  | .load requestId => pure (.found (ledger.get requestId), ledger)
  | .listForPrefix requestIdPrefix =>
    pure (.entries (ledger.listForPrefix requestIdPrefix), ledger)
  | .listForRun runId => pure (.entries (ledger.listForRun runId), ledger)

end InMemoryModelCallLedger

end NovelAgent.ModelCalls
