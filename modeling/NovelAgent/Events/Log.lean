import Mathlib.Data.List.Sort
import NovelAgent.Runtime.Database

/-!
# The Operational Log

The append-only log of run events and the checkpoints bound to it, for events
of any content.
-/

namespace NovelAgent.Events

open Core Domain Transaction

/-- One entry of a run's stream. -/
structure Event (κ : Type) where
  eventId : StableId
  runId : RunId
  taskId : Option TaskId
  sequenceNo : Nat
  occurredAt : Time
  idempotencyIdentity : StableId
  traceId : String
  spanId : Option String
  content : κ
deriving DecidableEq

/-- The tables of the log. A stream row is its last sequence number. -/
structure Store (κ : Type) where
  streams : Table RunId Nat
  events : List (Event κ)
  checkpoints : Table StableId Runtime.CheckpointRow

/-- What a call may raise. -/
inductive LogError
  | eventLogConflict (message : String)
  | eventSequence (message : String)
  | checkpointConflict (message : String)
  | integrity (constraint : String)
deriving DecidableEq

variable {κ : Type}

/-- The log nobody has used yet. -/
def Store.empty : Store κ where
  streams := ∅
  events := []
  checkpoints := ∅

namespace Store

/-- The sequence number a run's next event takes. -/
def nextSequence (store : Store κ) (runId : RunId) : Nat :=
  match store.streams.lookup runId with
  | none => 1
  | some last => last + 1

/-- The event stored in a run under an idempotency identity. -/
def eventWithIdentity (store : Store κ) (runId : RunId) (identity : StableId) :
    Option (Event κ) :=
  store.events.find? fun event => event.runId = runId ∧ event.idempotencyIdentity = identity

/-- The store after one more event. -/
def push (store : Store κ) (event : Event κ) : Store κ :=
  { store with
    streams := store.streams.insert event.runId event.sequenceNo
    events := store.events ++ [event] }

/-- The checkpoints of a run, the latest first. -/
def checkpointsOf (store : Store κ) (runId : RunId) : List RunCheckpoint :=
  (((store.checkpoints.entries.map Sigma.snd).filter fun row => row.runId = runId).insertionSort
    fun a b => b.eventPosition ≤ a.eventPosition).map Runtime.CheckpointRow.checkpointJson

end Store

/-- The body of a call: one transaction over the log. -/
abbrev LogTx (κ : Type) := Transaction (Store κ) LogError

/-- The same event at another time and in another span. -/
def Event.at (event : Event κ) (stored : Event κ) : Event κ :=
  { event with occurredAt := stored.occurredAt, spanId := stored.spanId }

/-- Append an event. One that repeats a stored identity is answered with the
    stored event if the two agree up to their time and span. -/
def append [DecidableEq κ] (event : Event κ) : LogTx κ (Event κ) := do
  let store ← get
  match store.eventWithIdentity event.runId event.idempotencyIdentity with
  | some existing =>
    raiseWhen (existing ≠ event.at existing)
      (.eventLogConflict "idempotency identity refers to another event")
    pure existing
  | none =>
    raiseWhen (store.events.any fun stored => stored.eventId = event.eventId)
      (.eventLogConflict "event_id already exists")
    raiseWhen (event.sequenceNo ≠ store.nextSequence event.runId)
      (.eventSequence
        s!"run expects sequence {store.nextSequence event.runId}, received {event.sequenceNo}")
    modify fun store => store.push event
    pure event

/-- The events of one run after a position, in sequence order. -/
def replay (store : Store κ) (runId : RunId) (afterSequence : Int) : List (Event κ) :=
  (store.events.filter fun event =>
    event.runId = runId ∧ afterSequence < event.sequenceNo).insertionSort
      fun a b => a.sequenceNo ≤ b.sequenceNo

/-- Save a checkpoint. One that repeats a stored identity is answered with the stored checkpoint if
    the two are equal; two checkpoints of a run may not share a position. -/
def saveCheckpoint (checkpoint : RunCheckpoint) : LogTx κ RunCheckpoint := do
  let store ← get
  let exceeded := LogError.checkpointConflict "checkpoint exceeds the run event high watermark"
  let last ← fromOption exceeded (store.streams.lookup checkpoint.runId)
  raiseWhen (last < checkpoint.eventPosition) exceeded
  match store.checkpoints.lookup checkpoint.checkpointId with
  | some existing =>
    raiseWhen (existing.checkpointJson ≠ checkpoint)
      (.checkpointConflict "checkpoint_id refers to another checkpoint")
    pure existing.checkpointJson
  | none =>
    raiseWhen
      (¬ store.events.any fun event =>
        event.runId = checkpoint.runId ∧ event.sequenceNo = checkpoint.eventPosition)
      (.checkpointConflict "checkpoint event position does not exist")
    raiseWhen
      (Table.selects
        (fun _ row => row.runId = checkpoint.runId ∧ row.eventPosition = checkpoint.eventPosition)
        store.checkpoints)
      (.integrity "run_checkpoint_run_id_event_position_key")
    modify fun store => { store with
      checkpoints := store.checkpoints.insert checkpoint.checkpointId
        { runId := checkpoint.runId
          eventPosition := checkpoint.eventPosition
          checkpointJson := checkpoint } }
    pure checkpoint

/-- A checkpoint belongs to the logical stage that is asked for. -/
def inStage (logicalStage : Option String) (checkpoint : RunCheckpoint) : Bool :=
  logicalStage.all (checkpoint.logicalStage = ·)

/-- The latest checkpoint of a run, or of one logical stage of it. -/
def latest (store : Store κ) (runId : RunId) (logicalStage : Option String) :
    Option RunCheckpoint :=
  (store.checkpointsOf runId).find? (inStage logicalStage)

/-- The newest state that a run can go on from. -/
def latestResumable (store : Store κ) (runId : RunId) (logicalStage : Option String) :
    Option RunCheckpoint :=
  (store.checkpointsOf runId).find? fun checkpoint =>
    checkpoint.resumabilityStatus = .resumable && inStage logicalStage checkpoint

/-- A call of the service. -/
inductive Call (κ : Type)
  | nextSequence (runId : RunId)
  | append (event : Event κ)
  | replay (runId : RunId) (afterSequence : Int)
  | save (checkpoint : RunCheckpoint)
  | latest (runId : RunId) (logicalStage : Option String)
  | latestResumable (runId : RunId) (logicalStage : Option String)

/-- What a call returns. -/
inductive Answer (κ : Type)
  | sequence (next : Nat)
  | event (event : Event κ)
  | events (events : List (Event κ))
  | checkpoint (checkpoint : RunCheckpoint)
  | found (checkpoint : Option RunCheckpoint)

/-- Run a call in a transaction of its own. -/
def perform [DecidableEq κ] (store : Store κ) : Call κ → Except LogError (Answer κ) × Store κ
  | .nextSequence runId => (.ok (.sequence (store.nextSequence runId)), store)
  | .append event => atomically (Answer.event <$> append event) store
  | .replay runId afterSequence => (.ok (.events (Events.replay store runId afterSequence)), store)
  | .save checkpoint =>
    atomically (Answer.checkpoint <$> saveCheckpoint checkpoint) store
  | .latest runId logicalStage => (.ok (.found (Events.latest store runId logicalStage)), store)
  | .latestResumable runId logicalStage =>
    (.ok (.found (Events.latestResumable store runId logicalStage)), store)

/-- The log after a call. -/
def step [DecidableEq κ] (store : Store κ) (call : Call κ) : Store κ :=
  (perform store call).2

end NovelAgent.Events
