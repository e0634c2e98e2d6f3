import NovelAgent.Core.Text
import NovelAgent.ModelCalls.Gateway

/-!
# Structured Answers

Calls whose answer has to be a value of a type.
-/

namespace NovelAgent.ModelCalls

open Core Domain Core.Session

/-- A type of answers: its schema, and its validator with the errors as a text. -/
structure OutputType (α : Type) where
  schema : JsonValue
  validateJson : String → Except String α

/-- Parse an answer. One opening brace too many is let pass, if the rest validates. -/
def parseStructuredOutput {α : Type} (output : OutputType α) (rawText : String) :
    Except String α :=
  match output.validateJson rawText with
  | .ok value => .ok value
  | .error directError =>
    match rawText.toList.dropWhile Text.isSpace with
    | '{' :: '{' :: rest =>
      match output.validateJson (String.ofList ('{' :: rest)) with
      | .ok value => .ok value
      | .error _ => .error directError
    | _ => .error directError

/-- The identity of a child request. -/
def boundedModelRequestId (request : TextRequest) (suffix : String) : Option StableId :=
  let parentDigest := (HexToken.ofDigest 12 HexToken.twelve_le request.requestId.root).text
  let attempted :=
    match request.attemptId with
    | none => []
    | some attemptId =>
      ["model-request." ++ attemptId.root ++ "." ++ parentDigest ++ suffix,
        attemptId.root ++ "." ++ parentDigest ++ suffix]
  boundedStableId ([request.requestId.root ++ suffix] ++ attempted ++
    ["model-request." ++ request.taskId.root ++ "." ++ parentDigest ++ suffix,
      request.taskId.root ++ "." ++ parentDigest ++ suffix])

/-- The prompt that asks for an answer again. -/
def retryPrompt (prompt validationDetail : String) : String :=
  prompt ++ "\n\n<STRUCTURED_OUTPUT_RETRY>\n" ++
    "The previous JSON violated the required domain contract. " ++
    "Return a complete replacement JSON object, correcting this " ++
    "validation error:\n" ++ validationDetail ++ "\n</STRUCTURED_OUTPUT_RETRY>"

/-- The entry of an answer that does not validate. -/
def Entry.rejected (entry : Entry) (validationDetail : String) : Entry :=
  { entry with
    status := .validationRejected
    validationError := some validationDetail }

/-- A retained answer, as far as it is compared with its request. -/
structure RawModelResponseArtifact where
  requestId : StableId
  runId : RunId
  taskId : TaskId
  attemptId : Option StableId
  requestHash : ArtifactId
  logicalPhase : String
  rawResponseHash : ArtifactId
  rawResponseText : String
  callRecord : ModelCallRecord

/-- The retained answer is that of the request, and of the entry. -/
def RawModelResponseArtifact.Matches (envelope : RawModelResponseArtifact)
    (request : ModelRequest) (entry : Entry) : Prop :=
  envelope.requestId = request.requestId ∧ envelope.runId = request.runId ∧
    envelope.taskId = request.taskId ∧ envelope.attemptId = request.attemptId ∧
    envelope.logicalPhase = request.logicalPhase ∧ envelope.requestHash = entry.requestHash ∧
    some envelope.rawResponseHash = entry.rawResponseHash ∧
    digest envelope.rawResponseText = envelope.rawResponseHash

instance (envelope : RawModelResponseArtifact) (request : ModelRequest) (entry : Entry) :
    Decidable (envelope.Matches request entry) := by
  unfold RawModelResponseArtifact.Matches
  infer_instance

variable {σ α : Type} (gateway : ModelGateway) (port : LedgerPort σ)

/-- Reject the answer of a completed call. -/
def rejectOutput (requestId : StableId) (validationDetail : String) :
    Session (GatewayState σ) GatewayError Unit := do
  match ← onLedger (port.load requestId) with
  | none => raise .missingEntry
  | some entry => port.put (entry.rejected validationDetail)

/-- One attempt at a structured answer: the value, or what is wrong with the answer. -/
def ModelGateway.attemptStructured (circumstances : Circumstances) (output : OutputType α)
    (request : TextRequest) :
    Session (GatewayState σ) GatewayError (Except String (α × ModelCallRecord)) := do
  let result ← gateway.generateText port circumstances request
  match parseStructuredOutput output result.1 with
  | .ok value => pure (.ok (value, result.2))
  | .error validationDetail => do
      rejectOutput port request.requestId validationDetail
      pure (.error validationDetail)

/-- The request that asks for an answer again. -/
def retryRequest (request constrained : TextRequest) (retryId : StableId)
    (validationDetail : String) : TextRequest :=
  { request with
    requestId := retryId
    responseSchema := constrained.responseSchema
    prompt := retryPrompt request.prompt validationDetail }

/-- The attempts from one on, with so many retries left. -/
def ModelGateway.structuredAttempts (circumstances : Nat → Circumstances)
    (output : OutputType α) (request : TextRequest) :
    Nat → Nat → TextRequest → Session (GatewayState σ) GatewayError (α × ModelCallRecord)
  | attempt, 0, constrained => do
      match ← gateway.attemptStructured port (circumstances attempt) output constrained with
      | .ok answer => pure answer
      | .error _ => raise .validation
  | attempt, retries + 1, constrained => do
      match ← gateway.attemptStructured port (circumstances attempt) output constrained with
      | .ok answer => pure answer
      | .error validationDetail =>
        match boundedModelRequestId request (".schema-retry" ++ toString (attempt + 1)) with
        | none => raise (.routing ("structured retry request identity has no bounded " ++
            "request, attempt, or task scope"))
        | some retryId =>
          ModelGateway.structuredAttempts circumstances output request (attempt + 1) retries
            (retryRequest request constrained retryId validationDetail)

/-- A call for a structured answer. What an attempt meets depends on its number. -/
def ModelGateway.generateStructured (circumstances : Nat → Circumstances)
    (output : OutputType α) (jsonObjectFraming : Bool) (request : TextRequest) :
    Session (GatewayState σ) GatewayError (α × ModelCallRecord) :=
  gateway.structuredAttempts port circumstances output request 0 gateway.structuredMaxRetries
    { request with responseSchema := if jsonObjectFraming then none else some output.schema }

/-- Parse the answer of a request again, from what the repository gives for a reference. -/
def ModelGateway.reparseStructuredFromRaw (readArtifact : ArtifactRef → Option
    RawModelResponseArtifact) (output : OutputType α) (rawArtifactRef : Option ArtifactRef)
    (request : TextRequest) : Session (GatewayState σ) GatewayError (α × ModelCallRecord) :=
  if gateway.rawArtifacts = false then
    raise (.rawResponseReparse "raw artifact repository is not configured")
  else do
    match ← onLedger (port.load request.requestId) with
    | none => raise (.rawResponseReparse "model request is absent from the call ledger")
    | some entry =>
      match rawArtifactRef.or entry.rawArtifactRef with
      | none => raise (.rawResponseReparse "model request has no retained raw artifact")
      | some reference =>
        if entry.rawArtifactRef ≠ none ∧ entry.rawArtifactRef ≠ some reference then
          raise (.rawResponseReparse "raw artifact does not match the ledger reference")
        else
          match readArtifact reference with
          | none => raise (.rawResponseReparse "retained raw artifact is unreadable")
          | some envelope =>
            if envelope.Matches (gateway.ledgerRequest request) entry then
              match parseStructuredOutput output envelope.rawResponseText with
              | .ok value => pure (value, envelope.callRecord)
              | .error validationDetail => do
                  match ← onLedger (port.load request.requestId) with
                  | none => raise .validation
                  | some current => do
                      port.put (current.rejected validationDetail)
                      raise .validation
            else
              raise (.rawResponseReparse
                "retained raw artifact identity does not match request")

end NovelAgent.ModelCalls
