import NovelAgent.Runtime.Commands.Settlement

/-!
# Effect and Checkpoint Commands

External effects of an attempt, and the positions a run can be resumed from.
-/

namespace NovelAgent.Runtime

open Core Domain
open Core.Transaction (raiseWhen fromOption)

/-- Insert an effect row. Two effects may not share a request. -/
def insertEffect (effectIdentity : StableId) (row : EffectRow) : Tx Unit := do
  let db ← get
  raiseWhen (db.effects.lookup effectIdentity).isSome (.integrity "runtime_effect_projection_pkey")
  raiseWhen (Table.selects (fun _ stored => stored.requestIdentity = row.requestIdentity) db.effects)
    (.integrity "runtime_effect_projection_request_identity_key")
  modify fun db => { db with effects := db.effects.insert effectIdentity row }

/-- Record that an attempt is about to ask an external system for something. -/
def recordEffectRequested (env : Env) (fence : AttemptFence) (receipt : EffectReceipt) :
    Tx EffectReceipt := do
  raiseWhen (receipt.status ≠ .requested)
    (.value "requested effect command requires REQUESTED receipt")
  let owned ← requireFence fence true
  let task := owned.task
  let attempt := owned.attempt
  raiseWhen (receipt.attemptNo ≠ attempt.attemptNo)
    (.commandConflict "effect attempt number does not match its owner")
  let db ← get
  match db.effects.lookup receipt.effectIdentity with
  | some existing =>
    raiseWhen (existing.effectJson ≠ receipt) (.commandConflict "effect identity collision")
    pure existing.effectJson
  | none =>
    insertEffect receipt.effectIdentity
      { requestIdentity := receipt.requestIdentity
        runId := task.runId
        taskId := task.taskId
        attemptId := attempt.attemptId
        status := receipt.status
        effectJson := receipt }
    let identity ← boundedRuntimeIdentity
      [receipt.effectIdentity.root ++ ".requested",
        attempt.attemptId.root ++ ".effect-requested"]
    append env task.runId task.taskId
      (.effectRequested receipt task.taskId attempt.attemptId) identity []
    pure receipt

/-- The receipts of one effect describe the same request. -/
def sameRequest (prior receipt : EffectReceipt) : Prop :=
  prior.requestIdentity = receipt.requestIdentity ∧
    prior.externalSystem = receipt.externalSystem ∧ prior.attemptNo = receipt.attemptNo

instance (prior receipt : EffectReceipt) : Decidable (sameRequest prior receipt) :=
  inferInstanceAs (Decidable (_ ∧ _ ∧ _))

def updateEffect (row : EffectRow) (receipt : EffectReceipt) : Tx Unit :=
  modify fun db => { db with
    effects := db.effects.insert receipt.effectIdentity { row with
      status := receipt.status
      effectJson := receipt } }

/-- Record the outcome of an effect by the attempt that requested it. -/
def recordEffectTerminal (env : Env) (fence : AttemptFence) (receipt : EffectReceipt) :
    Tx EffectReceipt := do
  raiseWhen (receipt.status = .requested)
    (.value "terminal effect command requires a terminal receipt")
  let owned ← requireFence fence true
  let task := owned.task
  let attempt := owned.attempt
  let db ← get
  let row ← fromOption (.commandConflict "effect was not requested by this attempt")
    (db.effects.lookup receipt.effectIdentity)
  raiseWhen (row.attemptId ≠ attempt.attemptId)
    (.commandConflict "effect was not requested by this attempt")
  raiseWhen (¬ sameRequest row.effectJson receipt)
    (.commandConflict "terminal effect identity differs from its request")
  updateEffect row receipt
  let identity ← boundedRuntimeIdentity
    [receipt.effectIdentity.root ++ "." ++ receipt.status.value,
      attempt.attemptId.root ++ ".effect-" ++ receipt.status.value]
  append env task.runId task.taskId
    (.effectTerminal receipt task.taskId attempt.attemptId) identity
    receipt.resultArtifactRef.toList
  pure receipt

/-- Record the outcome of an effect whose worker no longer exists. -/
def reconcileEffect (env : Env) (taskId : TaskId) (receipt : EffectReceipt) (commandId : StableId)
    (observedRevision : Option Nat) : Tx EffectReceipt := do
  raiseWhen (receipt.status = .requested)
    (.value "reconciliation requires an authoritative terminal status")
  let task ← loadTask taskId
  requireObservedRevision task observedRevision
  let db ← get
  let row ← fromOption (.commandConflict "unknown effect for task")
    (db.effects.lookup receipt.effectIdentity)
  raiseWhen (row.taskId ≠ taskId) (.commandConflict "unknown effect for task")
  raiseWhen (¬ sameRequest row.effectJson receipt)
    (.commandConflict "effect request identity changed")
  updateEffect row receipt
  append env task.runId task.taskId
    (.effectTerminal receipt task.taskId row.attemptId) commandId receipt.resultArtifactRef.toList
  pure receipt

/-- The effects of an attempt are exactly the ones listed. -/
def effectsAre (db : Db) (attemptId : StableId) (completed : List StableId) : Bool :=
  (db.effects.entries.all fun entry =>
      entry.2.attemptId ≠ attemptId || completed.contains entry.1) &&
    completed.all fun id =>
      (db.effects.lookup id).any fun row => row.attemptId = attemptId

/-- Insert a checkpoint row. Two checkpoints may not share a position. -/
def insertCheckpoint (checkpoint : RunCheckpoint) : Tx Unit := do
  let db ← get
  raiseWhen (Table.selects
      (fun _ row => row.runId = checkpoint.runId ∧ row.eventPosition = checkpoint.eventPosition)
      db.checkpoints)
    (.integrity "run_checkpoint_run_id_event_position_key")
  modify fun db => { db with
    checkpoints := db.checkpoints.insert checkpoint.checkpointId
      { runId := checkpoint.runId
        eventPosition := checkpoint.eventPosition
        checkpointJson := checkpoint } }

/-- Name a position of the run's event stream to resume from. -/
def saveCheckpoint (env : Env) (fence : AttemptFence) (checkpoint : RunCheckpoint) :
    Tx RunCheckpoint := do
  let owned ← requireFence fence true
  let task := owned.task
  let attempt := owned.attempt
  raiseWhen (checkpoint.runId ≠ task.runId) (.commandConflict "checkpoint belongs to another run")
  let db ← get
  raiseWhen (checkpoint.resumabilityStatus = .resumable ∧
      db.hasUnresolvedEffect attempt.attemptId = true)
    (.commandConflict "resumable checkpoint requires a settled effect frontier")
  raiseWhen (checkpoint.resumabilityStatus = .resumable ∧
      effectsAre db attempt.attemptId checkpoint.completedEffectIds = false)
    (.commandConflict "checkpoint completed effect frontier is incomplete")
  match db.checkpoints.lookup checkpoint.checkpointId with
  | some existing =>
    raiseWhen (existing.checkpointJson ≠ checkpoint)
      (.commandConflict "checkpoint identity collision")
    pure existing.checkpointJson
  | none =>
    raiseWhen ((db.log.streams.lookup task.runId).all (· < checkpoint.eventPosition))
      (.commandConflict "checkpoint exceeds event high watermark")
    insertCheckpoint checkpoint
    let identity ← boundedRuntimeIdentity
      [checkpoint.checkpointId.root ++ ".saved",
        attempt.attemptId.root ++ ".checkpoint-saved." ++ toString checkpoint.eventPosition]
    append env task.runId task.taskId
      (.checkpointSaved checkpoint task.taskId attempt.attemptId) identity
      [checkpoint.stateArtifactRef]
    pure checkpoint

end NovelAgent.Runtime
