import NovelAgent.Core.Transaction
import NovelAgent.Core.Table
import NovelAgent.Domain.Runtime

/-!
# The Runtime Database

The tables of the task kernel, and the row operations its commands are written
in.
-/

namespace NovelAgent.Runtime

open Core Domain Transaction

/-- A row of `runtime_task_projection`. The task identity is the key. -/
structure TaskRow where
  runId : RunId
  projectId : ProjectId
  status : TaskStatus
  revision : Nat
  currentAttemptId : Option StableId
  taskJson : TaskRecord

/-- A row of `runtime_task_attempt`. The attempt identity is the key. -/
structure AttemptRow where
  taskId : TaskId
  attemptNo : Nat
  endedAt : Option Time
  attemptJson : TaskAttempt

/-- A row of `runtime_effect_projection`. The effect identity is the key. -/
structure EffectRow where
  requestIdentity : StableId
  runId : RunId
  taskId : TaskId
  attemptId : StableId
  status : EffectStatus
  effectJson : EffectReceipt

/-- A row of `project_writer_claim`. The project identity is the key. -/
structure WriterClaimRow where
  runId : RunId
  taskId : TaskId
  attemptId : StableId
  generation : Nat
deriving DecidableEq

/-- A row of `project_commit`. The commit identity is the key. -/
structure CommitRow where
  projectId : ProjectId
  baseCommitId : Option CommitId
  manifest : RootManifest

/-- A row of `run_checkpoint`. The checkpoint identity is the key. -/
structure CheckpointRow where
  runId : RunId
  eventPosition : Nat
  checkpointJson : RunCheckpoint

/-- The tables of the commit service. A project row is its current commit,
    and an outbox row the project whose commit is still to be projected. -/
structure Canon where
  projects : Table ProjectId (Option CommitId)
  commits : Table CommitId CommitRow
  receipts : Table (ProjectId × StableId) CommitResult
  outbox : Table CommitId ProjectId

/-- The tables of the event log. A stream row is its last sequence number. -/
structure EventLog where
  streams : Table RunId Nat
  events : List RunEvent

/-- The store. -/
structure Db where
  canon : Canon
  log : EventLog
  checkpoints : Table StableId CheckpointRow
  tasks : Table TaskId TaskRow
  attempts : Table StableId AttemptRow
  effects : Table StableId EffectRow
  writerClaims : Table ProjectId WriterClaimRow

/-- The store of a runtime nobody has used yet, over any canon. -/
def Db.fresh (canon : Canon) : Db where
  canon := canon
  log := { streams := ∅, events := [] }
  checkpoints := ∅
  tasks := ∅
  attempts := ∅
  effects := ∅
  writerClaims := ∅

/-- What a command may raise. -/
inductive RuntimeError
  | staleAttemptFence (message : String)
  | commandConflict (message : String)
  | writerLaneBusy (message : String)
  | lookup (key : String)
  | projectNotFound (key : String)
  | projectAlreadyExists (key : String)
  | value (message : String)
  | validation (model : String)
  | eventLogConflict (message : String)
  | eventSequence (message : String)
  | integrity (constraint : String)
  | runtime (message : String)

/-- The body of a command: one transaction over the store. -/
abbrev Tx := Transaction Db RuntimeError

/-- The artifacts a command can read: a reference that cannot be verified or
    does not hold a valid value reads as nothing. -/
structure ArtifactRepository where
  memoryRepairFinding : ArtifactRef → Option MemoryRepairFinding
  memoryWriteResult : ArtifactRef → Option MemoryWriteWorkflowResult

/-- What one call observes of the world outside the store: the clock, the
    token generator, the permissions and the artifacts. A command may append
    several events, so the draws for an event are indexed by its position. -/
structure Env where
  now : Time
  claimToken : HexToken 32
  attemptToken : HexToken 24
  eventToken : RunId → Nat → HexToken 24
  occurredAt : RunId → Nat → Time
  committedAt : Time
  permissionHash : ProjectId → String
  artifacts : Option ArtifactRepository

/-- The service's one setting. -/
structure Service where
  attemptLease : Time
  leaseBound : 3 ≤ attemptLease

/-- Validate a string as an identity, as the constructor does. -/
def stableId (s : String) : Tx StableId :=
  fromOption (.validation "StableId") (StableId.ofString? s)

/-- Keep runtime identities readable while honouring the length limit. -/
def boundedRuntimeIdentity (candidates : List String) : Tx StableId :=
  fromOption (.commandConflict "runtime identity is too long")
    (boundedStableId candidates)

/-- A task as its JSON says. -/
def loadTask (taskId : TaskId) : Tx TaskRecord := do
  let db ← get
  let row ← fromOption (.lookup taskId.root) (db.tasks.lookup taskId)
  raiseWhen (row.taskJson.wellFormed = false) (.validation "TaskRecord")
  pure row.taskJson

/-- The columns and JSON of a task that is being inserted. -/
def insertedRow (task : TaskRecord) : TaskRow where
  runId := task.runId
  projectId := task.projectId
  status := task.status
  revision := task.taskRevision
  currentAttemptId := none
  taskJson := task

/-- A new row, without a current attempt. -/
def insertTask (task : TaskRecord) : Tx Unit := do
  let db ← get
  raiseWhen (db.tasks.lookup task.taskId).isSome
    (.integrity "runtime_task_projection_pkey")
  raiseWhen (db.canon.projects.lookup task.projectId).isNone
    (.integrity "runtime_task_projection_project_id_fkey")
  modify fun db => { db with tasks := db.tasks.insert task.taskId (insertedRow task) }

def updateTask (task : TaskRecord) : Tx Unit := do
  let db ← get
  let row ← fromOption (.lookup task.taskId.root) (db.tasks.lookup task.taskId)
  modify fun db => { db with
    tasks := db.tasks.insert task.taskId { row with
      status := task.status
      revision := task.taskRevision
      currentAttemptId := task.currentAttemptId
      taskJson := task } }

/-- Read an attempt back from a row and validate it. -/
def restoreAttempt (row : AttemptRow) : Tx TaskAttempt := do
  raiseWhen (row.attemptJson.wellFormed = false) (.validation "TaskAttempt")
  pure row.attemptJson

/-- Insert an attempt row. Two attempts of one task may not share a number. -/
def insertAttempt (attempt : TaskAttempt) : Tx Unit := do
  let db ← get
  raiseWhen (db.attempts.lookup attempt.attemptId).isSome
    (.integrity "runtime_task_attempt_pkey")
  raiseWhen
    (Table.selects
      (fun _ row => row.taskId = attempt.taskId ∧ row.attemptNo = attempt.attemptNo) db.attempts)
    (.integrity "runtime_task_attempt_task_id_attempt_no_key")
  modify fun db => { db with
    attempts := db.attempts.insert attempt.attemptId
      { taskId := attempt.taskId
        attemptNo := attempt.attemptNo
        endedAt := attempt.endedAt
        attemptJson := attempt } }

def updateAttempt (attempt : TaskAttempt) : Tx Unit := do
  let db ← get
  let row ← fromOption (.lookup attempt.attemptId.root)
    (db.attempts.lookup attempt.attemptId)
  modify fun db => { db with
    attempts := db.attempts.insert attempt.attemptId { row with
      endedAt := attempt.endedAt
      attemptJson := attempt } }

def Db.hasUnresolvedEffect (db : Db) (attemptId : StableId) : Bool :=
  Table.selects (fun _ row => row.attemptId = attemptId ∧ row.status.isUnresolved = true) db.effects

/-- A caller that named the revision it decided on must name the current one. -/
def requireObservedRevision (task : TaskRecord) (observedRevision : Option Nat) : Tx Unit :=
  raiseWhen (observedRevision.any (· ≠ task.taskRevision))
    (.commandConflict "observed task revision is stale")

end NovelAgent.Runtime
