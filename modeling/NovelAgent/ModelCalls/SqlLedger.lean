import NovelAgent.ModelCalls.Ledger

/-!
# The Durable Ledger

The same ledger over a table. An entry becomes a row and a row an entry again, a text
column takes so many characters and no null character, and a point in time is stored
as an instant: one without a time zone is taken to be in the zone of the session.
-/

namespace NovelAgent.ModelCalls

open Core Domain

/-- The session of a ledger: its offset from UTC in microseconds, and the JSON form of
    the records of calls. -/
structure Database (Call : Type) where
  zone : Int
  call : Codec Call

/-- The first and the last instant of the years one to 9999. -/
def firstInstant : Int := -62135596800000000

def lastInstant : Int := 253402300799999999

def BudgetSource.codec : Codec BudgetSource :=
  Codec.enum BudgetSource.value [.explicitRequest, .invocationBudget, .endpointDefault,
    .modelMaxAuto] fun a => by cases a <;> decide

def EffectiveBudgetResult.codec : Codec EffectiveBudgetResult :=
  (Codec.object
    (.required "available_input_tokens" .nat <|
      .required "body_output_budget" .nat <|
      .required "budget_source" BudgetSource.codec <|
      .required "context_limit" .nat <|
      .required "estimated_input_tokens" .nat <|
      .required "reserved_sequence_tokens" .nat <|
      .required "safety_allowance_tokens" .nat <|
      .required "thinking_budget" .nat <|
      .required "total_output_budget" .nat .nil)
    (by decide)).refine
  (fun budget => (budget.availableInputTokens, budget.bodyOutputBudget, budget.budgetSource,
    budget.contextLimit, budget.estimatedInputTokens, budget.reservedSequenceTokens,
    budget.safetyAllowanceTokens, budget.thinkingBudget, budget.totalOutputBudget, ()))
  (fun (available, body, source, limit, input, reserved, safety, thinking, total, _) =>
    if h : (1 ≤ limit ∧ 1 ≤ body ∧ 1 ≤ total ∧ 1 ≤ reserved) ∧
        reserved = input + total + safety ∧ available = limit - total - safety then
      some ⟨source, limit, input, body, thinking, total, safety, reserved, available, h.1,
        h.2.1, h.2.2⟩
    else none)
  fun budget => by simp [budget.positive, ← budget.reserved, ← budget.available]

/-- A row of `model_call_ledger`. Before it is written its points in time are those of
    the entry; in the table they are instants. -/
structure LedgerRow (Time : Type) where
  requestId : String
  runId : String
  taskId : String
  attemptId : Option String
  requestHash : String
  status : String
  logicalPhase : String
  effectiveBudgetJson : JsonValue
  reasoningIncludedInCompletionTokens : Bool
  providerRequestId : Option String
  providerSentAt : Option Time
  rawResponseHash : Option String
  rawArtifactJson : Option JsonValue
  callRecordJson : Option JsonValue
  validationError : Option String
  transportErrorType : Option String
  requestedAt : Time
  completedAt : Option Time

variable {Call : Type}

/-- An entry as a row. -/
def fromDomain (database : Database Call) (entry : ModelCallLedgerEntry Call) :
    LedgerRow Timestamp where
  requestId := entry.requestId.root
  runId := entry.runId.root
  taskId := entry.taskId.root
  attemptId := entry.attemptId.map (·.root)
  requestHash := entry.requestHash.root
  status := entry.status.value
  logicalPhase := entry.logicalPhase
  effectiveBudgetJson := EffectiveBudgetResult.codec.dump entry.effectiveBudget
  reasoningIncludedInCompletionTokens := entry.reasoningIncludedInCompletionTokens
  providerRequestId := entry.providerRequestId
  providerSentAt := entry.providerSentAt
  rawResponseHash := entry.rawResponseHash.map (·.root)
  rawArtifactJson := entry.rawArtifactRef.map Context.artifactRefCodec.dump
  callRecordJson := entry.callRecord.map database.call.dump
  validationError := entry.validationError
  transportErrorType := entry.transportErrorType
  requestedAt := entry.requestedAt
  completedAt := entry.completedAt

def validated {α : Type} : Option α → Except LedgerError α
  | none => throw .invalidRow
  | some a => pure a

def validatedOption {α β : Type} (validate : α → Option β) :
    Option α → Except LedgerError (Option β)
  | none => pure none
  | some a => (validated (validate a)).map some

def contentHash? (text : String) : Option ContentHash :=
  if h : isContentHash text = true then some ⟨text, h⟩ else none

def ledgerStatus? (text : String) : Option ModelCallLedgerStatus :=
  [ModelCallLedgerStatus.requested, .completed, .validationRejected, .outputIncomplete,
    .transportExhausted, .uncertain].find? fun status => status.value = text

/-- A point in time in UTC. -/
def asUtc : Timestamp → Timestamp
  | .aware instant => .aware instant
  | .naive wall => .aware wall

/-- A row as an entry. -/
def toDomain (database : Database Call) (row : LedgerRow Timestamp) :
    Except LedgerError (ModelCallLedgerEntry Call) := do
  let rawArtifactRef ← validatedOption Context.artifactRefCodec.load row.rawArtifactJson
  let callRecord ← validatedOption database.call.load row.callRecordJson
  let requestId ← validated (StableId.ofString? row.requestId)
  let runId ← validated (StableId.ofString? row.runId)
  let taskId ← validated (StableId.ofString? row.taskId)
  let attemptId ← validatedOption StableId.ofString? row.attemptId
  let requestHash ← validated (contentHash? row.requestHash)
  let effectiveBudget ← validated (EffectiveBudgetResult.codec.load row.effectiveBudgetJson)
  let status ← validated (ledgerStatus? row.status)
  let rawResponseHash ← validatedOption contentHash? row.rawResponseHash
  let fields : LedgerFields Call :=
    { requestId, runId, taskId, attemptId, requestHash, effectiveBudget
      reasoningIncludedInCompletionTokens := row.reasoningIncludedInCompletionTokens
      status
      logicalPhase := row.logicalPhase
      providerRequestId := row.providerRequestId
      providerSentAt := row.providerSentAt.map asUtc
      rawResponseHash, rawArtifactRef, callRecord
      validationError := row.validationError
      transportErrorType := row.transportErrorType
      requestedAt := asUtc row.requestedAt
      completedAt := row.completedAt.map asUtc }
  if h : fields.Valid then pure ⟨fields, h⟩ else throw .invalidRow

/-- A text column of this width takes the text. -/
def TextFits (width : Nat) (text : String) : Prop :=
  text.length ≤ width ∧ Char.ofNat 0 ∉ text.toList

instance (width : Nat) (text : String) : Decidable (TextFits width text) := by
  unfold TextFits
  infer_instance

/-- A column that may be null takes the text. -/
def OptionFits (width : Nat) (text : Option String) : Prop :=
  ∀ value ∈ text, TextFits width value

instance (width : Nat) (text : Option String) : Decidable (OptionFits width text) := by
  unfold OptionFits
  infer_instance

/-- The columns of the table take the texts of the row. -/
def LedgerRow.Fits {Time : Type} (row : LedgerRow Time) : Prop :=
  TextFits 128 row.requestId ∧ TextFits 128 row.runId ∧ TextFits 128 row.taskId ∧
    OptionFits 128 row.attemptId ∧ TextFits 71 row.requestHash ∧ TextFits 32 row.status ∧
    TextFits 256 row.logicalPhase ∧ OptionFits 256 row.providerRequestId ∧
    OptionFits 71 row.rawResponseHash ∧ OptionFits 4096 row.validationError ∧
    OptionFits 240 row.transportErrorType

instance {Time : Type} (row : LedgerRow Time) : Decidable row.Fits := by
  unfold LedgerRow.Fits
  infer_instance

namespace Database

variable (database : Database Call)

/-- A point in time as the table holds it. -/
def store : Timestamp → Int
  | .aware instant => instant
  | .naive wall => wall - database.zone

/-- An instant that the driver can give back, in the zone of the session and in UTC. -/
def Readable (instant : Int) : Prop :=
  (firstInstant ≤ instant + database.zone ∧ instant + database.zone ≤ lastInstant) ∧
    firstInstant ≤ instant ∧ instant ≤ lastInstant

instance (instant : Int) : Decidable (database.Readable instant) := by
  unfold Readable
  infer_instance

/-- Read a point in time. -/
def fetch (instant : Int) : Except LedgerError Timestamp :=
  if database.Readable instant then pure (.aware instant) else throw .database

/-- Read a point in time that may be null. -/
def fetchOption : Option Int → Except LedgerError (Option Timestamp)
  | none => pure none
  | some instant => (database.fetch instant).map some

/-- A row into the table. -/
def write (row : LedgerRow Timestamp) : Except LedgerError (LedgerRow Int) :=
  if row.Fits then
    pure { row with
      providerSentAt := row.providerSentAt.map database.store
      requestedAt := database.store row.requestedAt
      completedAt := row.completedAt.map database.store }
  else throw .database

/-- A row out of the table. -/
def read (row : LedgerRow Int) : Except LedgerError (LedgerRow Timestamp) := do
  let providerSentAt ← database.fetchOption row.providerSentAt
  let requestedAt ← database.fetch row.requestedAt
  let completedAt ← database.fetchOption row.completedAt
  pure { row with providerSentAt, requestedAt, completedAt }

def entryOf (row : LedgerRow Int) : Except LedgerError (ModelCallLedgerEntry Call) := do
  toDomain database (← database.read row)

def rowOf (entry : ModelCallLedgerEntry Call) : Except LedgerError (LedgerRow Int) :=
  database.write (fromDomain database entry)

end Database

/-- The pattern that `startswith` asks the table for. It escapes nothing. -/
def startswithPattern (start : String) : List Char :=
  start.toList ++ ['%']

/-- The rows that the query for an identity and what is under it selects. -/
def Selected (requestIdPrefix : String) (requestId : String) : Bool :=
  requestId == requestIdPrefix ||
    Like.like (startswithPattern (requestIdPrefix ++ ".")) requestId.toList

/-- The durable ledger: the rows of its table. -/
abbrev SqlModelCallLedger := List (LedgerRow Int)

namespace SqlModelCallLedger

variable (database : Database Call) (table : SqlModelCallLedger)

/-- The row under a primary key. -/
def get (requestId : StableId) : Option (LedgerRow Int) :=
  table.find? fun row => row.requestId = requestId.root

def ordered : List (LedgerRow Int) :=
  List.insertionSort (fun a b => a.requestId ≤ b.requestId) table

def createRequested (request : ModelRequest) (effectiveBudget : EffectiveBudgetResult)
    (reasoningIncluded : Bool) (now : Int) :
    Except LedgerError (ModelCallLedgerEntry Call × SqlModelCallLedger) :=
  match table.get request.requestId with
  | some row => do
      let existing ← database.entryOf row
      match identityError existing.toLedgerFields request effectiveBudget reasoningIncluded with
      | some error => throw error
      | none => pure (existing, table)
  | none => do
      let entry := requestedEntry request effectiveBudget reasoningIncluded now
      let row ← database.rowOf entry
      pure (entry, table ++ [row])

/-- Put another request in the place of one that was not sent. -/
def rebindRequested (request : ModelRequest) (expectedRequestHash : ArtifactId)
    (effectiveBudget : EffectiveBudgetResult) (reasoningIncluded : Bool) :
    Except LedgerError (ModelCallLedgerEntry Call × SqlModelCallLedger) :=
  match table.get request.requestId with
  | none => throw (.notReserved request.requestId.root)
  | some row => do
      let existing ← database.entryOf row
      match rebindError existing.toLedgerFields expectedRequestHash effectiveBudget
          reasoningIncluded with
      | some error => throw error
      | none =>
        let rebound := existing.rebound (modelRequestHash request)
        let row ← database.rowOf rebound
        pure (rebound, Keyed.replaceFirst LedgerRow.requestId row table)

/-- Write how a call ended. -/
def settle (entry : ModelCallLedgerEntry Call) :
    Except LedgerError (ModelCallLedgerEntry Call × SqlModelCallLedger) :=
  match table.get entry.requestId with
  | none => throw (.notReserved entry.requestId.root)
  | some row => do
      let existing ← database.entryOf row
      match settlementError existing.toLedgerFields entry.toLedgerFields with
      | some error => throw error
      | none =>
        let row ← database.rowOf entry
        pure (entry, Keyed.replaceFirst LedgerRow.requestId row table)

def load (requestId : StableId) : Except LedgerError (Option (ModelCallLedgerEntry Call)) :=
  match table.get requestId with
  | none => pure none
  | some row => (database.entryOf row).map some

/-- The entries under an identity. A query with a null character in it is refused. -/
def listForPrefix (requestIdPrefix : String) :
    Except LedgerError (List (ModelCallLedgerEntry Call)) :=
  if Char.ofNat 0 ∈ requestIdPrefix.toList then throw .database
  else (table.ordered.filter fun row => Selected requestIdPrefix row.requestId).mapM
    database.entryOf

def listForRun (runId : RunId) : Except LedgerError (List (ModelCallLedgerEntry Call)) :=
  (table.ordered.filter fun row => row.runId = runId.root).mapM database.entryOf

/-- One call of the port. -/
def perform : Operation Call → Except LedgerError (Reply Call × SqlModelCallLedger)
  | .createRequested request effectiveBudget reasoningIncluded now => do
      let (entry, after) ←
        table.createRequested database request effectiveBudget reasoningIncluded now
      pure (.entry entry, after)
  | .rebindRequested request expectedRequestHash effectiveBudget reasoningIncluded => do
      let (entry, after) ← table.rebindRequested database request expectedRequestHash
        effectiveBudget reasoningIncluded
      pure (.entry entry, after)
  | .settle entry => do
      let (entry, after) ← table.settle database entry
      pure (.entry entry, after)
  | .load requestId => do
      let entry ← table.load database requestId
      pure (.found entry, table)
  | .listForPrefix requestIdPrefix => do
      let entries ← table.listForPrefix database requestIdPrefix
      pure (.entries entries, table)
  | .listForRun runId => do
      let entries ← table.listForRun database runId
      pure (.entries entries, table)

end SqlModelCallLedger

end NovelAgent.ModelCalls
