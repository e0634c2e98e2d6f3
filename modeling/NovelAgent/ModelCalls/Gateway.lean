import NovelAgent.Core.Logic
import NovelAgent.Core.Table
import NovelAgent.ModelCalls.Requests

/-!
# The Model Gateway

A call for text reserves its request in the ledger, marks it as sent, passes it to the
adapter of its endpoint, and settles in the ledger how the call ended.
-/

namespace NovelAgent.ModelCalls

open Core Domain Core.Session Core.Outcome

/-- What is known of an adapter. -/
structure EndpointAdapter where
  isExternal : Bool
  maxOutputTokens : Option Int
  modelVersion : Option String
  model : Option String

/-- Where a model is reached, and under which limits. -/
structure RegisteredModelEndpoint where
  role : ModelRole
  endpointName : String
  modelName : String
  adapter : EndpointAdapter
  sequenceLimit : Int
  outputLimit : Option Int
  safetyAllowanceTokens : Option Int
  estimatedReasoningReserve : Int
  defaultThinking : Bool
  reasoningIncludedInCompletionTokens : Bool
  globalOutputCap : Int

/-- The configuration of a gateway. The JSON form of a request is that of all its fields. -/
structure ModelGateway where
  endpoints : List RegisteredModelEndpoint
  forbidExternalCalls : Bool
  structuredMaxRetries : Nat
  rawArtifacts : Bool
  admissionController : Bool
  budgetProfile : BudgetResolutionProfile
  requestJson : TextRequest → String
  roles : (endpoints.map RegisteredModelEndpoint.role).Nodup
  retries : structuredMaxRetries ≤ 2

/-- An entry as the gateway handles it: its fields, validated or not. -/
abbrev Entry := LedgerFields ModelCallRecord

/-- The operations of a ledger on the fields of entries. -/
structure LedgerPort (σ : Type) where
  createRequested : ModelRequest → EffectiveBudgetResult → Bool → Int →
    Transaction σ LedgerError Entry
  rebindRequested : ModelRequest → ArtifactId → EffectiveBudgetResult → Bool →
    Transaction σ LedgerError Entry
  settle : Entry → Transaction σ LedgerError Entry
  load : StableId → Transaction σ LedgerError (Option Entry)

/-- The ledger, the budgets of the process, and what the reader wants to know. -/
structure GatewayState (σ : Type) where
  ledger : σ
  budgetResults : Table StableId EffectiveBudgetResult
  marked : List StableId
  sends : List TextRequest
  settlements : List (Entry × Option LedgerError)

/-- An answer that was cut off: what the error says about it. -/
structure OutputIncomplete where
  rawContent : Option String
  inputTokens : Option Int
  outputTokens : Option Int
  reasoningTokens : Option Int
  latencyMs : Option Int
  providerRequestId : Option String

/-- How the call of an adapter ends. Errors carry the names of their types. -/
inductive ProviderOutcome where
  | result (result : ProviderModelResult)
  | cancelled (typeName : String)
  | timeout (typeName : String)
  | incomplete (typeName : String) (answer : OutputIncomplete)
  | failed (typeName : String)
  | interrupted

/-- Where a process can stop once a request is marked as sent. -/
inductive StopPoint
  | beforeSend
  | whileSent
  | beforeSettlement
  | afterCall
deriving DecidableEq

/-- What a call meets. -/
structure Circumstances where
  admitted : Bool
  requestedAt : Int
  identity : Except String (Option String)
  sentAt : Int
  outcome : ProviderOutcome
  latencyMs : Nat
  completedAt : Int
  retained : Option ArtifactRef
  stop : Option StopPoint

variable {σ α : Type}

def onLedger (command : Transaction σ LedgerError α) :
    Session (GatewayState σ) GatewayError α := fun state =>
  match command state.ledger with
  | .ok (a, ledger) => (.ok a, { state with ledger })
  | .error error => (.error (.ledger error), state)

/-- Run an operation of the ledger and look at its outcome. -/
def tryLedger (command : Transaction σ LedgerError α) :
    Session (GatewayState σ) GatewayError (Except LedgerError α) := fun state =>
  match command state.ledger with
  | .ok (a, ledger) => (.ok (.ok a), { state with ledger })
  | .error error => (.ok (.error error), state)

section

variable {β : Type} {command : Transaction σ LedgerError α} {state : GatewayState σ}
    {ledger : σ} {a : α} {error : LedgerError}

theorem bind_onLedger_ok (h : command state.ledger = .ok (a, ledger))
    (f : α → Session (GatewayState σ) GatewayError β) :
    (onLedger command >>= f) state = f a { state with ledger } := by
  rw [Session.bind_apply]
  unfold onLedger
  simp only [h]

theorem onLedger_ok (h : command state.ledger = .ok (a, ledger)) :
    onLedger command state = (.ok a, { state with ledger }) := by
  unfold onLedger
  simp only [h]

theorem onLedger_error (h : command state.ledger = .error error) :
    onLedger command state = (.error (.ledger error), state) := by
  unfold onLedger
  simp only [h]

theorem bind_tryLedger_ok (h : command state.ledger = .ok (a, ledger))
    (f : Except LedgerError α → Session (GatewayState σ) GatewayError β) :
    (tryLedger command >>= f) state = f (.ok a) { state with ledger } := by
  rw [Session.bind_apply]
  unfold tryLedger
  simp only [h]

theorem bind_tryLedger_error (h : command state.ledger = .error error)
    (f : Except LedgerError α → Session (GatewayState σ) GatewayError β) :
    (tryLedger command >>= f) state = f (.error error) state := by
  rw [Session.bind_apply]
  unfold tryLedger
  simp only [h]

end

/-- Settle an entry. -/
def LedgerPort.put (port : LedgerPort σ) (entry : Entry) :
    Session (GatewayState σ) GatewayError Unit := fun state =>
  match port.settle entry state.ledger with
  | .ok (_, ledger) =>
    (.ok (), { state with ledger, settlements := state.settlements ++ [(entry, none)] })
  | .error error =>
    (.error (.ledger error),
      { state with settlements := state.settlements ++ [(entry, some error)] })

def change (f : GatewayState σ → GatewayState σ) : Session (GatewayState σ) GatewayError Unit :=
  fun state => (.ok (), f state)

/-- The process stops here, if this is where it stops. -/
def Circumstances.halt (circumstances : Circumstances) (point : StopPoint) :
    Session (GatewayState σ) GatewayError Unit :=
  if circumstances.stop = some point then raise .stopped else pure ()

/-- Batch tests and evaluations use the model for batch tests. -/
def validatePurpose (request : TextRequest) : Except GatewayError Unit :=
  if (request.purpose = .batchTest ∨ request.purpose = .evaluation) ∧
      request.modelRole ≠ .batchTest then
    throw (.routing "batch tests and evaluation must use batch_test_model without fallback")
  else pure ()

def providerLimits (endpoint : RegisteredModelEndpoint) :
    Except GatewayError ProviderBudgetLimits :=
  let outputLimit := endpoint.outputLimit.or endpoint.adapter.maxOutputTokens
  if hpositive : 1 ≤ endpoint.sequenceLimit ∧ 1 ≤ endpoint.globalOutputCap then
    if houtput : ∀ limit ∈ outputLimit, 1 ≤ limit then
      if (∀ tokens ∈ endpoint.safetyAllowanceTokens, 0 ≤ tokens) ∧
          0 ≤ endpoint.estimatedReasoningReserve then
        pure
          { sequenceLimit := endpoint.sequenceLimit.toNat
            outputLimit := outputLimit.map Int.toNat
            safetyAllowanceTokens := endpoint.safetyAllowanceTokens.map Int.toNat
            estimatedReasoningReserve := endpoint.estimatedReasoningReserve.toNat
            defaultThinking := endpoint.defaultThinking
            reasoningIncludedInCompletionTokens := endpoint.reasoningIncludedInCompletionTokens
            globalOutputCap := endpoint.globalOutputCap.toNat
            positive := by omega
            outputPositive := by
              intro limit hlimit
              rcases Option.mem_map.mp hlimit with ⟨value, hvalue, rfl⟩
              have hvalue := houtput value hvalue
              omega }
      else throw .invalid
    else throw .invalid
  else throw .invalid

def ModelGateway.ledgerRequest (gateway : ModelGateway) (request : TextRequest) : ModelRequest where
  requestId := request.requestId
  runId := request.runId
  taskId := request.taskId
  attemptId := request.attemptId
  purpose := request.purpose
  schedulingStage := request.schedulingStage
  canonicalJson := gateway.requestJson request

def ModelGateway.requestHash (gateway : ModelGateway) (request : TextRequest) : ArtifactId :=
  modelRequestHash (gateway.ledgerRequest request)

def promptTokens (request : TextRequest) : Nat :=
  max 1 ((request.prompt.utf8ByteSize + 2) / 3)

def TextRequest.bound (request : TextRequest) (budget : EffectiveBudgetResult) : TextRequest :=
  { request with
    maxOutputTokens := some budget.totalOutputBudget
    budgetSource := some budget.budgetSource }

/-- The request and the budget that go together, from the budgets of this process. -/
def ModelGateway.boundBudget (gateway : ModelGateway) (request : TextRequest)
    (endpoint : RegisteredModelEndpoint) (budgetResults : Table StableId EffectiveBudgetResult) :
    Except GatewayError (TextRequest × EffectiveBudgetResult) :=
  if request.budgetSource ≠ none then
    match request.maxOutputTokens with
    | none => throw (.budgetResolution "bound request requires a resolved max_output_tokens")
    | some tokens =>
      match budgetResults.lookup request.requestId with
      | none =>
        throw (.budgetResolution "bound request has no in-process EffectiveBudgetResult")
      | some budget =>
        if tokens ≠ budget.totalOutputBudget then
          throw (.budgetResolution
            "bound request output does not match its EffectiveBudgetResult")
        else pure (request, budget)
  else do
    let limits ← providerLimits endpoint
    let budget ← EffectiveBudgetResolver.resolve request limits gateway.budgetProfile
      (promptTokens request) none
    pure (request.bound budget, budget)

/-- What a call asks for: the request as it is sent, its budget and its endpoint. -/
structure Prepared where
  request : TextRequest
  budget : EffectiveBudgetResult
  endpoint : RegisteredModelEndpoint

/-- The checks before a request is admitted. -/
def ModelGateway.prepared (gateway : ModelGateway) (request : TextRequest)
    (budgetResults : Table StableId EffectiveBudgetResult) : Except GatewayError Prepared := do
  validatePurpose request
  match gateway.endpoints.find? (·.role = request.modelRole) with
  | none => throw (.routing ("no endpoint configured for " ++ request.modelRole.value))
  | some endpoint =>
    if gateway.forbidExternalCalls = true ∧ endpoint.adapter.isExternal = true then
      throw .forbidden
    else do
      let (bound, budget) ← gateway.boundBudget request endpoint budgetResults
      pure ⟨bound, budget, endpoint⟩

/-- The state with the budget of a request, if that was resolved just now. -/
def GatewayState.budgeted (state : GatewayState σ) (request : TextRequest)
    (budget : EffectiveBudgetResult) : GatewayState σ :=
  { state with
    budgetResults :=
      if request.budgetSource = none then state.budgetResults.insert request.requestId budget
      else state.budgetResults }

/-- Prepare a request. A budget that was resolved for it is kept for the process. -/
def ModelGateway.prepare (gateway : ModelGateway) (request : TextRequest) :
    Session (GatewayState σ) GatewayError Prepared := do
  let state ← read
  let prepared ← ofExcept (gateway.prepared request state.budgetResults)
  change fun state => state.budgeted request prepared.budget
  pure prepared

section

variable (gateway : ModelGateway) (port : LedgerPort σ) (circumstances : Circumstances)

/-- Wait for the admission. -/
def ModelGateway.acquireLease : Session (GatewayState σ) GatewayError Unit :=
  if gateway.admissionController = true ∧ circumstances.admitted = false then raise .admission
  else pure ()

/-- Reserve the request, or put it in the place of its own form without a budget. -/
def ModelGateway.reserveEntry (unbound : TextRequest) (prepared : Prepared) :
    Session (GatewayState σ) GatewayError Entry := do
  let reasoningIncluded := prepared.endpoint.reasoningIncludedInCompletionTokens
  let created ← tryLedger (port.createRequested (gateway.ledgerRequest prepared.request)
    prepared.budget reasoningIncluded circumstances.requestedAt)
  match created with
  | .ok entry => pure entry
  | .error (.collision message) => do
      let existing ← onLedger (port.load prepared.request.requestId)
      match existing with
      | none => raise (.ledger (.collision message))
      | some existing =>
        if existing.requestHash ≠ gateway.requestHash unbound then
          raise (.ledger (.collision message))
        else
          onLedger (port.rebindRequested (gateway.ledgerRequest prepared.request)
            existing.requestHash prepared.budget reasoningIncluded)
  | .error error => raise (.ledger error)

/-- A text that is there and not empty. -/
def present (text : Option String) : Option String :=
  text.filter (· ≠ "")

/-- The entry with the marker that its request was sent. -/
def Entry.sent (entry : Entry) (identity : Option String) (sentAt : Int) : Entry :=
  { entry with
    providerRequestId := present identity
    providerSentAt := some (.aware sentAt) }

/-- Reserve the request and store the marker that it is sent. -/
def ModelGateway.reserve (unbound : TextRequest) (prepared : Prepared) :
    Session (GatewayState σ) GatewayError Entry := do
  let requested ← gateway.reserveEntry port circumstances unbound prepared
  if requested.status = .uncertain then raise (.uncertain requested.requestId.root)
  else do
    let identity ← ofExcept (circumstances.identity.mapError .adapter)
    let sent := requested.sent identity circumstances.sentAt
    port.put sent
    change fun state => { state with marked := sent.requestId :: state.marked }
    pure sent

/-- The entry of a call of which nobody knows whether it was answered. -/
def Entry.uncertain (sent : Entry) (typeName : String) : Entry :=
  { sent with
    status := .uncertain
    transportErrorType := some typeName }

/-- The entry of an answer that was not retained. -/
def Entry.unretained (sent : Entry) (providerRequestId : Option String) (completedAt : Int) :
    Entry :=
  { sent with
    status := .uncertain
    providerRequestId
    transportErrorType := some "RawResponsePersistenceError"
    completedAt := some (.aware completedAt) }

def Entry.exhausted (sent : Entry) (typeName : String) (completedAt : Int) : Entry :=
  { sent with
    status := .transportExhausted
    transportErrorType := some typeName
    completedAt := some (.aware completedAt) }

def Entry.answered (sent : Entry) (status : ModelCallLedgerStatus)
    (providerRequestId : Option String) (text : String) (rawArtifactRef : Option ArtifactRef)
    (callRecord : ModelCallRecord) (transportErrorType : Option String) (completedAt : Int) :
    Entry :=
  { sent with
    status
    providerRequestId
    rawResponseHash := some (digest text)
    rawArtifactRef
    callRecord := some callRecord
    transportErrorType
    completedAt := some (.aware completedAt) }

def callFields (prepared : Prepared) (modelVersion : String) (usage : ModelUsage)
    (latencyMs : Nat) (startedAt : Timestamp) (completedAt : Int) : CallFields where
  requestId := prepared.request.requestId
  runId := prepared.request.runId
  taskId := prepared.request.taskId
  modelRole := prepared.request.modelRole
  purpose := prepared.request.purpose
  traceId := prepared.request.traceId
  spanId := prepared.request.spanId
  endpoint := prepared.endpoint.endpointName
  model := prepared.endpoint.modelName
  modelVersion
  usage
  latencyMs
  startedAt
  completedAt := .aware completedAt

/-- Retain a raw response. Without a repository there is nothing to retain it in; the
    envelope bounds the tokens of its request. -/
def ModelGateway.persistRawResponse (prepared : Prepared) :
    Option (Option ArtifactRef) :=
  if gateway.rawArtifacts = false then some none
  else if ∃ tokens ∈ prepared.request.maxOutputTokens, 131072 < tokens then none
  else circumstances.retained.map some

/-- A number that an error carries, as far as it is one. -/
def nonnegative (value : Option Int) : Nat := (value.getD 0).toNat

def adapterVersion (endpoint : RegisteredModelEndpoint) : String :=
  ((present endpoint.adapter.modelVersion).or (present endpoint.adapter.model)).getD
    endpoint.modelName

def incompleteRecord (sent : Entry) (prepared : Prepared) (answer : OutputIncomplete) :
    Option ModelCallRecord :=
  ModelCallRecord.validate (callFields prepared (adapterVersion prepared.endpoint)
    { inputTokens := nonnegative answer.inputTokens
      outputTokens := nonnegative answer.outputTokens
      reasoningTokens := nonnegative answer.reasoningTokens
      costUsd := 0
      costAvailability := .unknown
      nonneg := free_nonneg }
    (match answer.latencyMs with
      | some latency => latency.toNat
      | none => circumstances.latencyMs)
    sent.requestedAt circumstances.completedAt)

/-- The entry that an answer that was cut off is settled as, if it can be retained. -/
def ModelGateway.incompleteEntry (sent : Entry) (prepared : Prepared)
    (answer : OutputIncomplete) : Option Entry := do
  let text := answer.rawContent.getD ""
  let record ← incompleteRecord circumstances sent prepared answer
  let rawArtifactRef ← gateway.persistRawResponse circumstances prepared
  pure (sent.answered .outputIncomplete
    ((present answer.providerRequestId).or sent.providerRequestId) text rawArtifactRef record
    (some "OutputLengthError") circumstances.completedAt)

/-- Settle an answer that was cut off. A failure on the way leaves the call uncertain. -/
def ModelGateway.settleIncomplete (sent : Entry) (prepared : Prepared) (typeName : String)
    (answer : OutputIncomplete) : Session (GatewayState σ) GatewayError α :=
  match gateway.incompleteEntry circumstances sent prepared answer with
  | none => do
      port.put (sent.unretained sent.providerRequestId circumstances.completedAt)
      raise .rawResponsePersistence
  | some entry => fun state =>
    match port.put entry state with
    | (.ok (), state') => (.error (.adapter typeName), state')
    | (.error _, state') =>
      (do
        port.put (sent.unretained sent.providerRequestId circumstances.completedAt)
        raise .rawResponsePersistence) state'

def ModelGateway.settleResult (sent : Entry) (prepared : Prepared)
    (result : ProviderModelResult) :
    Session (GatewayState σ) GatewayError (String × ModelCallRecord) := do
  let providerRequestId := result.providerRequestId.or sent.providerRequestId
  match ModelCallRecord.validate (callFields prepared result.modelVersion result.usage
      circumstances.latencyMs sent.requestedAt circumstances.completedAt) with
  | none => raise .invalid
  | some record =>
    match gateway.persistRawResponse circumstances prepared with
    | none => do
        port.put (sent.unretained providerRequestId circumstances.completedAt)
        raise .rawResponsePersistence
    | some rawArtifactRef => do
        port.put (sent.answered .completed providerRequestId result.text rawArtifactRef record
          sent.transportErrorType circumstances.completedAt)
        pure (result.text, record)

/-- Settle how the call of the adapter ended. -/
def ModelGateway.conclude (sent : Entry) (prepared : Prepared) :
    Session (GatewayState σ) GatewayError (String × ModelCallRecord) :=
  match circumstances.outcome with
  | .interrupted => raise .stopped
  | .cancelled typeName => do
      circumstances.halt .beforeSettlement
      port.put (sent.uncertain typeName)
      raise (.adapter typeName)
  | .timeout typeName => do
      circumstances.halt .beforeSettlement
      port.put (sent.uncertain typeName)
      raise (.adapter typeName)
  | .incomplete typeName answer => do
      circumstances.halt .beforeSettlement
      gateway.settleIncomplete port circumstances sent prepared typeName answer
  | .failed typeName => do
      circumstances.halt .beforeSettlement
      port.put (sent.exhausted typeName circumstances.completedAt)
      raise (.adapter typeName)
  | .result result => do
      circumstances.halt .beforeSettlement
      gateway.settleResult port circumstances sent prepared result

/-- Pass the request to the adapter and settle how that ends. -/
def ModelGateway.converse (sent : Entry) (prepared : Prepared) :
    Session (GatewayState σ) GatewayError (String × ModelCallRecord) := do
  circumstances.halt .beforeSend
  change fun state => { state with sends := state.sends ++ [prepared.request] }
  circumstances.halt .whileSent
  gateway.conclude port circumstances sent prepared

/-- A call for text. -/
def ModelGateway.generateText (request : TextRequest) :
    Session (GatewayState σ) GatewayError (String × ModelCallRecord) := do
  let prepared ← gateway.prepare request
  gateway.acquireLease circumstances
  let sent ← gateway.reserve port circumstances request prepared
  gateway.converse port circumstances sent prepared

end

section

variable {gateway : ModelGateway} {port : LedgerPort σ} {circumstances : Circumstances}
    {request : TextRequest} {prepared : Prepared} {state : GatewayState σ}

variable {budgetResults : Table StableId EffectiveBudgetResult}

/-- A prepared request is the request itself or what its budget makes of it, for one of
    the endpoints. -/
theorem prepared_cases (h : gateway.prepared request budgetResults = .ok prepared) :
    (prepared.request = request ∨ prepared.request = request.bound prepared.budget) ∧
      prepared.endpoint ∈ gateway.endpoints := by
  unfold ModelGateway.prepared at h
  rcases (bind_eq_ok _ _ _).mp h with ⟨_, _, h⟩
  split at h
  · exact absurd h (by simp [throw, throwThe, MonadExceptOf.throw])
  · rename_i endpoint hendpoint
    split at h
    · exact absurd h (by simp [throw, throwThe, MonadExceptOf.throw])
    · rcases (bind_eq_ok _ _ _).mp h with ⟨⟨bound, budget⟩, hbound, h⟩
      rw [pure_eq_ok] at h
      subst h
      refine ⟨?_, List.mem_of_find?_eq_some hendpoint⟩
      unfold ModelGateway.boundBudget at hbound
      split at hbound
      · split at hbound
        · exact absurd hbound (by simp [throw, throwThe, MonadExceptOf.throw])
        · split at hbound
          · exact absurd hbound (by simp [throw, throwThe, MonadExceptOf.throw])
          · split at hbound
            · exact absurd hbound (by simp [throw, throwThe, MonadExceptOf.throw])
            · rw [pure_eq_ok, Prod.mk.injEq] at hbound
              exact .inl hbound.1.symm
      · rcases (bind_eq_ok _ _ _).mp hbound with ⟨limits, _, hbound⟩
        rcases (bind_eq_ok _ _ _).mp hbound with ⟨resolved, _, hbound⟩
        rw [pure_eq_ok, Prod.mk.injEq] at hbound
        refine .inr ?_
        rw [← hbound.1, hbound.2]

theorem prepared_requestId (h : gateway.prepared request budgetResults = .ok prepared) :
    prepared.request.requestId = request.requestId := by
  rcases (prepared_cases h).1 with hsame | hbound
  · rw [hsame]
  · rw [hbound]
    rfl

theorem prepare_error {error : GatewayError}
    (h : gateway.prepared request state.budgetResults = .error error) :
    gateway.prepare request state = (.error error, state) := by
  unfold ModelGateway.prepare
  rw [bind_read, bind_ofExcept_error h]

theorem prepare_ok (h : gateway.prepared request state.budgetResults = .ok prepared) :
    gateway.prepare request state = (.ok prepared, state.budgeted request prepared.budget) := by
  unfold ModelGateway.prepare
  rw [bind_read, bind_ofExcept_ok h]
  rfl

variable {entry stored : Entry}

theorem put_ok {ledger : σ} (h : port.settle entry state.ledger = .ok (stored, ledger)) :
    port.put entry state =
      (.ok (), { state with ledger, settlements := state.settlements ++ [(entry, none)] }) := by
  unfold LedgerPort.put
  simp only [h]

theorem generateText_admitted
    (h : gateway.prepared request state.budgetResults = .ok prepared)
    (hadmitted : ¬ (gateway.admissionController = true ∧ circumstances.admitted = false)) :
    gateway.generateText port circumstances request state =
      (do
        let sent ← gateway.reserve port circumstances request prepared
        gateway.converse port circumstances sent prepared)
        (state.budgeted request prepared.budget) := by
  unfold ModelGateway.generateText
  rw [Session.bind_apply, prepare_ok h]
  unfold ModelGateway.acquireLease
  rw [if_neg hadmitted]
  rfl

theorem reserve_ok (state : GatewayState σ) (unbound : TextRequest) {reserved marked : σ}
    {identity : Option String}
    (hcreated : port.createRequested (gateway.ledgerRequest prepared.request) prepared.budget
      prepared.endpoint.reasoningIncludedInCompletionTokens circumstances.requestedAt
      state.ledger = .ok (entry, reserved)) (hcertain : entry.status ≠ .uncertain)
    (hidentity : circumstances.identity = .ok identity)
    (hsent : port.settle (entry.sent identity circumstances.sentAt) reserved =
      .ok (stored, marked)) :
    gateway.reserve port circumstances unbound prepared state =
      (.ok (entry.sent identity circumstances.sentAt), { state with
        ledger := marked
        marked := entry.requestId :: state.marked
        settlements := state.settlements ++
          [(entry.sent identity circumstances.sentAt, none)] }) := by
  have hreserved : gateway.reserveEntry port circumstances unbound prepared state =
      (.ok entry, { state with ledger := reserved }) := by
    unfold ModelGateway.reserveEntry
    rw [bind_tryLedger_ok hcreated]
    rfl
  unfold ModelGateway.reserve
  rw [Session.bind_apply, hreserved]
  dsimp only
  rw [if_neg hcertain, hidentity]
  have hput : port.put (entry.sent identity circumstances.sentAt) { state with ledger := reserved } =
      _ := put_ok hsent
  change (port.put _ >>= _ : Session (GatewayState σ) GatewayError Entry) _ = _
  rw [Session.bind_apply, hput]
  rfl

theorem converse_completes {sent stored : Entry} {result : ProviderModelResult}
    {record : ModelCallRecord} {rawArtifactRef : Option ArtifactRef} {settled : σ}
    (hstop : circumstances.stop = none) (houtcome : circumstances.outcome = .result result)
    (hrecord : ModelCallRecord.validate (callFields prepared result.modelVersion result.usage
      circumstances.latencyMs sent.requestedAt circumstances.completedAt) = some record)
    (hretained : gateway.persistRawResponse circumstances prepared = some rawArtifactRef)
    (hsettled : port.settle (sent.answered .completed
      (result.providerRequestId.or sent.providerRequestId) result.text rawArtifactRef record
      sent.transportErrorType circumstances.completedAt) state.ledger = .ok (stored, settled)) :
    gateway.converse port circumstances sent prepared state =
      (.ok (result.text, record), { state with
        ledger := settled
        sends := state.sends ++ [prepared.request]
        settlements := state.settlements ++ [(sent.answered .completed
          (result.providerRequestId.or sent.providerRequestId) result.text rawArtifactRef record
          sent.transportErrorType circumstances.completedAt, none)] }) := by
  have hput : port.put _ { state with sends := state.sends ++ [prepared.request] } = _ :=
    put_ok hsettled
  unfold ModelGateway.converse Circumstances.halt ModelGateway.conclude ModelGateway.settleResult
    Circumstances.halt
  rw [hstop, houtcome]
  simp only [reduceCtorEq, if_false, hrecord, hretained]
  change (port.put _ >>= fun _ => pure (result.text, record) :
    Session (GatewayState σ) GatewayError _)
      { state with sends := state.sends ++ [prepared.request] } = _
  rw [Session.bind_apply, hput]
  rfl

end

end NovelAgent.ModelCalls
