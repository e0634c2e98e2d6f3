import NovelAgent.Context.Compactor
import NovelAgent.Core.Outcome
import NovelAgent.Events.History

/-!
# The Context Runtime

The service that owns a context: it appends the events of a view to the log
of its run, saves views as checkpoints, and restores them.
-/

namespace NovelAgent.Context

open Core Domain

/-- The runtime's settings. The rules for the payloads of other services' events are theirs. -/
structure AgentContextRuntime where
  countTokens : String → Int
  schemaVersion : SchemaVersion
  validateStage5EventPayload : OtherEventType → SchemaVersion → JsonValue → Option String

/-- The log and the object store. -/
structure RuntimeState where
  log : Events.Store Content
  artifacts : Artifacts

/-- The stores that nobody has used yet. -/
def RuntimeState.empty : RuntimeState where
  log := .empty
  artifacts := ∅

def onLog {α : Type} (command : Events.LogTx Content α) :
    Session RuntimeState ContextError α := fun state =>
  match command state.log with
  | .ok (a, log) => (.ok a, { state with log := log })
  | .error error => (.error (.log error), state)

/-- Run a transaction on the object store. -/
def onArtifacts {α : Type} (command : Transaction Artifacts ContextError α) :
    Session RuntimeState ContextError α := fun state =>
  match command state.artifacts with
  | .ok (a, artifacts) => (.ok a, { state with artifacts := artifacts })
  | .error error => (.error error, state)

def contextEventSchemaVersion : SchemaVersion := ⟨"1.0.0", .refl true⟩

def contextViewMediaType : String :=
  "application/vnd.novel-agent.agent-context-view+json"

/-- The content address that a stream's labels are told apart by. -/
def labelSuffix (view : AgentContextView) (label : String) : String :=
  let address := (contentId (.array [.string view.runId.root, .string view.taskId.root,
    .string view.consumer.value, .string label])).root
  String.ofList (address.toList.drop (address.toList.length - 48))

/-- The identity that makes an append idempotent. -/
def eventIdentity (traceNamespace : String) (view : AgentContextView) (label : String) :
    Except ContextError StableId :=
  let readable := "event." ++ traceNamespace ++ "." ++ view.taskId.root ++ "." ++
    view.consumer.value ++ "." ++ label
  if readable.toList.length ≤ 128 then Compactor.identity readable
  else Compactor.identity ("event." ++ String.ofList (traceNamespace.toList.take 32) ++ "." ++
    view.consumer.value ++ "." ++ labelSuffix view label)

/-- What is to be appended. -/
structure Request where
  payload : Payload
  artifactRefs : List ArtifactRef
  label : String
  traceNamespace : String

/-- The logical stage that a stream's checkpoints are saved under. -/
def logicalStage (taskId : TaskId) (consumer : ContextConsumer) : String :=
  "stage3.context:" ++ consumer.value ++ ":" ++ taskId.root

/-- The stage that checkpoints were saved under before streams had their own. -/
def legacyStage : String := "stage3.context"

namespace AgentContextRuntime

variable (runtime : AgentContextRuntime)

/-- What an event is refused with when it is built without an audit record. -/
def validateActivePayload (payload : Payload) : Option String :=
  match payload with
  | .other .modelCompleted _ => some "model.completed requires a complete model_call_record"
  | .other eventType payload =>
    runtime.validateStage5EventPayload eventType runtime.schemaVersion payload
  | _ =>
    if runtime.schemaVersion ≠ contextEventSchemaVersion then
      some "unknown Stage 3 event payload version"
    else none

def requestEvent (view : AgentContextView) (request : Request) (identity eventId : StableId)
    (sequenceNo : Nat) (occurredAt : Time) (spanId : Option String) : RunEvent where
  eventId := eventId
  runId := view.runId
  taskId := some view.taskId
  sequenceNo := sequenceNo
  occurredAt := occurredAt
  idempotencyIdentity := identity
  traceId := request.traceNamespace ++ ":" ++ view.runId.root
  spanId := spanId
  content :=
    { payload := request.payload
      payloadSchemaVersion := runtime.schemaVersion
      artifactRefs := request.artifactRefs
      audit := none }

/-- Refuse a payload that its event's rules refuse. -/
def checkPayload (payload : Payload) : Except ContextError Unit :=
  match runtime.validateActivePayload payload with
  | none => .ok ()
  | some message => .error (.validation message)

/-- Catch a view up with the log, append an event and project it. An event
    that is there already is only compared. -/
def appendAndApply (view : AgentContextView) (request : Request) (now : Time) :
    Session RuntimeState ContextError AgentContextView := do
  let identity ← Session.ofExcept (eventIdentity request.traceNamespace view request.label)
  let state ← Session.read
  let prior := Events.replay state.log view.runId 0
  let existing := prior.find? fun event => event.idempotencyIdentity = identity
  let tail := prior.filter fun event => view.basisEventPosition < event.sequenceNo
  let caughtUp ← Session.ofExcept (fullReplay runtime.countTokens view tail)
  match existing with
  | none =>
    let eventId ← Session.ofExcept (Compactor.identity
      ("event-id." ++ request.traceNamespace ++ "." ++ labelSuffix caughtUp request.label))
    let sequenceNo := (prior.getLast?.map fun event => event.sequenceNo).getD 0 + 1
    Session.ofExcept (runtime.checkPayload request.payload)
    let stored ← onLog (Events.append
      (runtime.requestEvent caughtUp request identity eventId sequenceNo now none))
    Session.ofExcept (applyEvent runtime.countTokens caughtUp stored)
  | some event =>
    Session.ofExcept (runtime.checkPayload request.payload)
    let _ ← onLog (Events.append
      (runtime.requestEvent caughtUp request identity event.eventId event.sequenceNo
        event.occurredAt event.spanId))
    pure caughtUp

/-- Save a view. -/
def checkpoint (view : AgentContextView) (checkpointId : StableId) :
    Session RuntimeState ContextError RunCheckpoint := do
  if view.basisEventPosition < 1 then
    Session.raise (.projection "Context View must settle an event before checkpointing")
  else
    let ref ← onArtifacts
      (put (AgentContextView.codec.dump view) contextViewMediaType runtime.schemaVersion)
    onLog (Events.saveCheckpoint
      { checkpointId := checkpointId
        runId := view.runId
        eventPosition := view.basisEventPosition
        logicalStage := logicalStage view.taskId view.consumer
        stateArtifactRef := ref
        completedEffectIds := []
        resumabilityStatus := .resumable
        reason := none })

end AgentContextRuntime

def checkpointView (state : RuntimeState) (checkpoint : RunCheckpoint) :
    Except ContextError AgentContextView := do
  let document ← readVerified state.artifacts checkpoint.stateArtifactRef
  AgentContextView.modelValidateJson document

/-- The latest checkpoint of a stream. A legacy one has to be opened to see whose it is. -/
def matchingCheckpoint (state : RuntimeState) (runId : RunId) (taskId : TaskId)
    (consumer : ContextConsumer) : Except ContextError (Option RunCheckpoint) :=
  match Events.latest state.log runId (some (logicalStage taskId consumer)) with
  | some checkpoint => .ok (some checkpoint)
  | none =>
    match Events.latest state.log runId (some legacyStage) with
    | none => .ok none
    | some legacy => do
        let view ← checkpointView state legacy
        pure (if view.taskId = taskId ∧ view.consumer = consumer then some legacy else none)

/-- Restore a stream: from its latest checkpoint, or from its seed, through the events after it. -/
def restore (countTokens : String → Int) (state : RuntimeState) (runId : RunId)
    (seed : AgentContextView) : Except ContextError AgentContextView := do
  match ← matchingCheckpoint state runId seed.taskId seed.consumer with
  | none =>
    fullReplay countTokens seed (Events.replay state.log runId seed.basisEventPosition)
  | some checkpoint =>
    let view ← checkpointView state checkpoint
    if view.taskId ≠ seed.taskId ∨ view.consumer ≠ seed.consumer then
      .error (.projection "checkpoint belongs to another Context stream")
    else
      fullReplay countTokens view (Events.replay state.log runId checkpoint.eventPosition)

/-- A command of the system: the runtime's two that write, and those of the services around it. -/
inductive Command
  | appendAndApply (view : AgentContextView) (request : Request) (now : Time)
  | checkpoint (view : AgentContextView) (checkpointId : StableId)
  | append (event : RunEvent)
  | save (checkpoint : RunCheckpoint)
  | put (document : JsonValue) (mediaType : String) (schemaVersion : SchemaVersion)

/-- The stores after a command. -/
def step (runtime : AgentContextRuntime) (state : RuntimeState) : Command → RuntimeState
  | .appendAndApply view request now => (runtime.appendAndApply view request now state).2
  | .checkpoint view checkpointId => (runtime.checkpoint view checkpointId state).2
  | .append event => (onLog (Events.append event) state).2
  | .save checkpoint => (onLog (Events.saveCheckpoint checkpoint) state).2
  | .put document mediaType schemaVersion =>
    (onArtifacts (put document mediaType schemaVersion) state).2

end NovelAgent.Context
