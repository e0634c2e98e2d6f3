import NovelAgent.Runtime.EventLog

/-!
# Task Commands

Creating tasks, claiming them, and keeping a claim alive.
-/

namespace NovelAgent.Runtime

open Core Domain
open Core.Transaction (raiseWhen fromOption)

/-- The task identity itself stands in when the readable suffix does not fit. -/
def taskCreatedIdentity (taskId : TaskId) : Tx StableId :=
  boundedRuntimeIdentity [taskId.root ++ ".created", taskId.root]

/-- Who goes on with a run. -/
inductive AutomationMode
  | manual
  | semi
  | auto

/-- The policy of a creative run, as far as its tasks depend on it. -/
structure CreativeRunPolicy where
  automationMode : AutomationMode
  policyHash : ContentHash
  permissionHash : ContentHash
  maxTaskAttempts : Nat
  planningHorizon : Nat

/-- What a run is asked for. -/
structure CreativeRunRequest where
  runId : RunId
  projectId : ProjectId
  basisCommit : CommitId
  basisSnapshot : Option StableId
  policy : CreativeRunPolicy
  inputArtifactRefs : List ArtifactRef
  continuationArtifactRefs : List ArtifactRef
  currentChapter : Nat
  targetChapters : Nat

def initialTask (request : CreativeRunRequest) (taskId : TaskId) : TaskRecord where
  taskId := taskId
  runId := request.runId
  projectId := request.projectId
  kind := .planCandidate
  taskRevision := 0
  status := .ready
  basisCommit := request.basisCommit
  basisSnapshot := request.basisSnapshot
  policyHash := request.policy.policyHash
  permissionHash := request.policy.permissionHash
  inputArtifactRefs := request.inputArtifactRefs
  terminalArtifactRefs := request.continuationArtifactRefs
  failureBudget := request.policy.maxTaskAttempts
  retryTrancheSize := request.policy.maxTaskAttempts
  chapterIndex := request.currentChapter
  targetChapters := request.targetChapters
  horizonStart := some (request.currentChapter + 1)
  horizonEnd := some
    (min request.targetChapters (request.currentChapter + request.policy.planningHorizon))

/-- Start a run with its first Planner task. -/
def createRunAndInitialTask (env : Env) (request : CreativeRunRequest) : Tx TaskRecord := do
  let taskId ← boundedRuntimeIdentity [request.runId.root ++ ".plan", request.runId.root]
  let task := initialTask request taskId
  raiseWhen (task.wellFormed = false) (.validation "TaskRecord")
  let db ← get
  if (db.tasks.lookup task.taskId).isSome then
    let restored ← loadTask task.taskId
    raiseWhen (restored ≠ task) (.commandConflict "run identity was reused with another request")
    pure restored
  else
    raiseWhen (db.canon.projects.lookup request.projectId ≠ some (some request.basisCommit))
      (.commandConflict "run basis is not the current project commit")
    let identity ← taskCreatedIdentity task.taskId
    append env task.runId task.taskId (.taskCreated task) identity []
    insertTask task
    pure task

/-- Read a task back from a row and validate it. -/
def restoreTask (row : TaskRow) : Tx TaskRecord := do
  raiseWhen (row.taskJson.wellFormed = false) (.validation "TaskRecord")
  pure row.taskJson

/-- Create a task, or return the one that was created by the same call. -/
def createTask (env : Env) (task : TaskRecord) : Tx TaskRecord := do
  let db ← get
  match db.tasks.lookup task.taskId with
  | some existing =>
    let restored ← restoreTask existing
    raiseWhen (restored ≠ task) (.commandConflict "task identity collision")
    pure restored
  | none =>
    raiseWhen
      (task.dependencyTaskIds.any fun dependency => (db.tasks.lookup dependency).isNone)
      (.commandConflict "task dependency does not exist")
    let identity ← taskCreatedIdentity task.taskId
    append env task.runId task.taskId (.taskCreated task) identity []
    insertTask task
    pure task

/-- Statuses of inactive work that may be superseded. -/
def supersedable : TaskStatus → Bool
  | .pending => true
  | .ready => true
  | .waitingInput => true
  | .waitingRetry => true
  | .budgetReview => true
  | .blocked => true
  | _ => false

def supersededTask (task : TaskRecord) (reason : String) : TaskRecord :=
  { task with
    taskRevision := task.taskRevision + 1
    status := .cancelled
    superseded := true
    blockCause := some reason }

/-- Replace inactive work. -/
def supersedeTask (env : Env) (taskId : TaskId) (reason : String) : Tx TaskRecord := do
  raiseWhen (reason.length = 0 ∨ 512 < reason.length)
    (.value "supersede reason must be non-empty and bounded")
  let task ← loadTask taskId
  if task.superseded then
    pure task
  else
    raiseWhen (supersedable task.status = false)
      (.commandConflict "only inactive work may be superseded")
    let updated := supersededTask task reason
    updateTask updated
    let commandId ← boundedRuntimeIdentity
      ["supersede." ++ task.taskId.root,
        "supersede." ++ task.runId.root ++ "." ++ toString task.taskRevision]
    let identity ← boundedRuntimeIdentity
      [task.taskId.root ++ ".superseded",
        "superseded." ++ task.runId.root ++ "." ++ toString task.taskRevision]
    append env task.runId task.taskId
      (.controlRecorded
        { commandId := commandId
          action := .supersede
          actorId := "creative-runtime"
          reason := reason }) identity []
    pure updated

/-- The kinds of task that may follow a settled one. -/
def allowedSuccessorKinds : TaskKind → List TaskKind
  | .planCandidate => [.planAcceptance]
  | .draftCandidate => [.draftAcceptance]
  | .planAcceptance => [.planCommit]
  | .draftAcceptance => [.draftCommit]
  | .planCommit => [.projectionFreshness]
  | .draftCommit => [.projectionFreshness]
  | .projectionFreshness => [.planCandidate, .draftCandidate]
  | .maintenance => []

/-- The first rule that a successor breaks, before the store is consulted. -/
def successorViolation (predecessor successor : TaskRecord) (basis : CommitId)
    (seen : List TaskId) : Option String :=
  if successor.taskId ∈ seen then some "successor task identity is duplicated"
  else if successor.kind ∉ allowedSuccessorKinds predecessor.kind then
    some "successor skips the fixed runtime topology"
  else if successor.runId ≠ predecessor.runId ∨ successor.projectId ≠ predecessor.projectId ∨
      successor.policyHash ≠ predecessor.policyHash ∨
      successor.permissionHash ≠ predecessor.permissionHash then
    some "successor differs from its runtime owner"
  else if successor.basisCommit ≠ basis then some "successor differs from its settled basis"
  else if predecessor.taskId ∉ successor.dependencyTaskIds then
    some "successor does not depend on its predecessor"
  else if successor.taskRevision ≠ 0 ∨ successor.currentAttemptId ≠ none then
    some "successor must be an unclaimed initial task"
  else if successor.status ≠ .pending ∧ successor.status ≠ .ready ∧
      successor.status ≠ .waitingInput then
    some "successor has an invalid initial status"
  else none

/-- Create one successor, unless the same task was created before. -/
def insertSuccessor (env : Env) (successor : TaskRecord) : Tx Unit := do
  let db ← get
  raiseWhen
    (successor.dependencyTaskIds.any fun dependency => (db.tasks.lookup dependency).isNone)
    (.commandConflict "successor dependency does not exist")
  match db.tasks.lookup successor.taskId with
  | some existing =>
    let restored ← restoreTask existing
    raiseWhen (restored ≠ successor) (.commandConflict "successor task identity collision")
  | none =>
    let identity ← taskCreatedIdentity successor.taskId
    append env successor.runId successor.taskId (.taskCreated successor) identity []
    insertTask successor

/-- The loop over the successors; `seen` are the identities so far. -/
def insertSuccessors (env : Env) (predecessor : TaskRecord) (basis : CommitId) :
    List TaskRecord → List TaskId → Tx Unit
  | [], _ => pure ()
  | successor :: rest, seen => do
      match successorViolation predecessor successor basis seen with
      | some message => throw (.commandConflict message)
      | none =>
        insertSuccessor env successor
        insertSuccessors env predecessor basis rest (successor.taskId :: seen)

/-- Create fixed-topology successors inside the predecessor's transaction. -/
def insertSuccessorTasks (env : Env) (predecessor : TaskRecord) (successors : List TaskRecord)
    (expectedBasis : Option CommitId) : Tx Unit := do
  if successors = [] then
    pure ()
  else
    raiseWhen (predecessor.status ≠ .succeeded)
      (.commandConflict "only a succeeded task may create successors")
    insertSuccessors env predecessor (expectedBasis.getD predecessor.basisCommit) successors []

/-- The record of a task whose candidate was decided on. -/
def decidedTask (task : TaskRecord) (receipt : AcceptanceReceipt) (receiptRef : ArtifactRef) :
    TaskRecord :=
  { task with
    taskRevision := task.taskRevision + 1
    status := if receipt.acceptedBy.isSome then .succeeded else .cancelled
    terminalArtifactRefs := [receiptRef] }

/-- Settle a task that waited for the decision on its candidate. -/
def completeWaitingTask (env : Env) (taskId : TaskId) (receipt : AcceptanceReceipt)
    (receiptRef : ArtifactRef) (successors : List TaskRecord) : Tx TaskRecord := do
  let task ← loadTask taskId
  raiseWhen (task.status ≠ .waitingInput ∨
      (task.kind ≠ .planAcceptance ∧ task.kind ≠ .draftAcceptance))
    (.commandConflict "acceptance requires a waiting acceptance task")
  raiseWhen (receipt.candidate.artifactRef ∉ task.inputArtifactRefs)
    (.commandConflict "acceptance candidate is not bound to this task")
  let updated := decidedTask task receipt receiptRef
  updateTask updated
  append env task.runId task.taskId
    (.acceptanceRecorded receipt.commandId receipt.receiptId receipt.candidate.candidateId
      receipt.candidate.candidateHash receipt.decision receipt.acceptedBy)
    receipt.idempotencyIdentity [receiptRef]
  insertSuccessorTasks env updated successors none
  pure updated

def loadStatuses : List TaskId → Tx (List TaskStatus)
  | [] => pure []
  | taskId :: rest => do
      let task ← loadTask taskId
      let statuses ← loadStatuses rest
      pure (task.status :: statuses)

def openedAttempt (service : Service) (env : Env) (task : TaskRecord) (workerId : String)
    (attemptNo : Nat) (attemptId token : StableId) : TaskAttempt where
  attemptId := attemptId
  taskId := task.taskId
  attemptNo := attemptNo
  workerId := workerId
  claimTokenDigest := digest token.root
  fenceGeneration := attemptNo
  claimedAt := env.now
  heartbeatAt := some env.now
  leaseExpiresAt := some (env.now + service.attemptLease)

/-- The record of a task whose attempt was just opened. -/
def claimedTask (task : TaskRecord) (attemptId : StableId) : TaskRecord :=
  { task with
    taskRevision := task.taskRevision + 1
    status := .running
    currentAttemptId := some attemptId }

def issuedFence (task : TaskRecord) (attemptId token : StableId) : AttemptFence where
  projectId := task.projectId
  taskId := task.taskId
  attemptId := attemptId
  claimToken := token
  taskRevision := task.taskRevision + 1
  writerGeneration := task.writerGeneration

/-- Open an attempt on an eligible task. -/
def claim (service : Service) (env : Env) (taskId : TaskId) (workerId : String)
    (observedRevision : Option Nat) : Tx (TaskAttempt × AttemptFence) := do
  raiseWhen (workerId.length = 0 ∨ 128 < workerId.length)
    (.value "worker id must be non-empty and bounded")
  let task ← loadTask taskId
  requireObservedRevision task observedRevision
  let db ← get
  let currentCommit ← fromOption (.commandConflict "project has no current commit")
    (db.canon.projects.lookup task.projectId).join
  let dependencies ← loadStatuses task.dependencyTaskIds
  let eligibility := evaluateTaskEligibility task env.now currentCommit dependencies
    (env.permissionHash task.projectId) task.writerGeneration
  raiseWhen (eligibility.eligible = false) (.commandConflict eligibility.reasonCode)
  let attemptNo := Table.selectCount (fun _ row => row.taskId = taskId) db.attempts + 1
  let token ← stableId ("claim." ++ env.claimToken.text)
  let attemptId ← stableId ("attempt." ++ env.attemptToken.text)
  let attempt := openedAttempt service env task workerId attemptNo attemptId token
  updateTask (claimedTask task attemptId)
  insertAttempt attempt
  let fence := issuedFence task attemptId token
  let identity ← stableId (attemptId.root ++ ".claimed")
  append env task.runId task.taskId (.taskClaimed attempt (digest fence.json)) identity []
  pure (attempt, fence)

/-- A task together with its current attempt. -/
structure Owned where
  task : TaskRecord
  attempt : TaskAttempt

/-- The check every fenced command starts with: the fence names the task's current attempt, knows
    its token, was issued no later than the task's revision, and carries its writer generation. A
    commit task that holds a generation must still be the holder of its project's writer lane. -/
def requireFence (fence : AttemptFence) (requireWriterLane : Bool) : Tx Owned := do
  let task ← loadTask fence.taskId
  raiseWhen (task.projectId ≠ fence.projectId ∨ task.currentAttemptId ≠ some fence.attemptId)
    (.staleAttemptFence "attempt is not current")
  let db ← get
  let row ← fromOption (.staleAttemptFence "attempt does not exist")
    (db.attempts.lookup fence.attemptId)
  let attempt ← restoreAttempt row
  raiseWhen (attempt.claimTokenDigest ≠ digest fence.claimToken.root ∨
      task.taskRevision < fence.taskRevision ∨ fence.writerGeneration ≠ task.writerGeneration)
    (.staleAttemptFence "attempt fence does not match current owner")
  raiseWhen (requireWriterLane = true ∧ task.kind.isCommit = true ∧ 0 < task.writerGeneration ∧
      ¬ (db.writerClaims.lookup task.projectId).any fun writer =>
        writer.attemptId = attempt.attemptId ∧ writer.generation = task.writerGeneration)
    (.staleAttemptFence "attempt lost the project writer generation")
  pure ⟨task, attempt⟩

/-- The attempt whose worker began to work. -/
def startedAttempt (attempt : TaskAttempt) (startedAt : Time) : TaskAttempt :=
  { attempt with startedAt := some startedAt }

/-- Record that the worker of an attempt began to work. -/
def markStarted (env : Env) (fence : AttemptFence) : Tx TaskAttempt := do
  let owned ← requireFence fence true
  let task := owned.task
  let attempt := owned.attempt
  if attempt.startedAt.isSome then
    pure attempt
  else
    let started := startedAttempt attempt env.now
    updateAttempt started
    let identity ← stableId (attempt.attemptId.root ++ ".started")
    append env task.runId task.taskId
      (.attemptStarted attempt.attemptId attempt.workerId env.now) identity []
    pure started

def renewedAttempt (service : Service) (attempt : TaskAttempt) (now : Time) : TaskAttempt :=
  { attempt with
    heartbeatAt := some now
    leaseExpiresAt := some (now + service.attemptLease) }

/-- Renew the lease of the matching current attempt. -/
def heartbeat (service : Service) (env : Env) (fence : AttemptFence) : Tx TaskAttempt := do
  let owned ← requireFence fence true
  let attempt := owned.attempt
  raiseWhen attempt.endedAt.isSome (.staleAttemptFence "settled Attempt cannot heartbeat")
  let renewed := renewedAttempt service attempt env.now
  updateAttempt renewed
  pure renewed

end NovelAgent.Runtime
