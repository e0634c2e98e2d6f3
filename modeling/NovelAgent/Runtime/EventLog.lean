import Mathlib.Data.List.Sort
import NovelAgent.Runtime.Database

/-!
# The Event Log

The append-only operational log: one stream of events per run, numbered from
one.
-/

namespace NovelAgent.Runtime

open Core Domain

namespace EventLog

def nextSequence (log : EventLog) (runId : RunId) : Nat :=
  match log.streams.lookup runId with
  | none => 1
  | some last => last + 1

/-- The event stored in a run under an idempotency identity. -/
def eventWithIdentity (log : EventLog) (runId : RunId) (identity : StableId) : Option RunEvent :=
  log.events.find? fun event => event.runId = runId ∧ event.idempotencyIdentity = identity

/-- The log after one more event. -/
def push (log : EventLog) (event : RunEvent) : EventLog where
  streams := log.streams.insert event.runId event.sequenceNo
  events := log.events ++ [event]

end EventLog

/-- Append an event inside the caller's transaction. -/
def appendInSession (event : RunEvent) : Tx RunEvent := do
  let db ← get
  match db.log.eventWithIdentity event.runId event.idempotencyIdentity with
  | some existing =>
    Transaction.raiseWhen
      (existing ≠ { event with occurredAt := existing.occurredAt, spanId := existing.spanId })
      (.eventLogConflict "idempotency identity refers to another event")
    pure existing
  | none =>
    Transaction.raiseWhen (db.log.events.any fun stored => stored.eventId = event.eventId)
      (.eventLogConflict "event_id already exists")
    Transaction.raiseWhen (event.sequenceNo ≠ db.log.nextSequence event.runId)
      (.eventSequence
        s!"run expects sequence {db.log.nextSequence event.runId}, received {event.sequenceNo}")
    modify fun db => { db with log := db.log.push event }
    pure event

/-- The events of one run in sequence order. -/
def replay (db : Db) (runId : RunId) (afterSequence : Nat) : List RunEvent :=
  (db.log.events.filter fun event => event.runId = runId ∧ afterSequence < event.sequenceNo).insertionSort
    fun a b => a.sequenceNo ≤ b.sequenceNo

/-- Number, build and append an event of a task. -/
def append (env : Env) (runId : RunId) (taskId : TaskId) (payload : EventPayload)
    (identity : StableId) (artifactRefs : List ArtifactRef) : Tx Unit := do
  let db ← get
  let sequence := db.log.nextSequence runId
  let eventId ← stableId ("evt." ++ (env.eventToken runId sequence).text)
  let traceId ← boundedRuntimeIdentity ["runtime." ++ runId.root, runId.root]
  if hvalid : validateStage5EventPayload payload = true then
    let _ ← appendInSession
      { eventId := eventId
        runId := runId
        taskId := some taskId
        sequenceNo := sequence
        occurredAt := env.occurredAt runId sequence
        idempotencyIdentity := identity
        traceId := traceId.root
        spanId := none
        payload := payload
        artifactRefs := artifactRefs
        payloadValid := hvalid }
    pure ()
  else
    throw (.validation "RunEvent")

end NovelAgent.Runtime
