import NovelAgent.Runtime.Commands.Tasks

/-!
# Settlement Commands

Ending an attempt: by the worker that owns it, or after its lease ran out.
-/

namespace NovelAgent.Runtime

open Core Domain
open Core.Transaction (raiseWhen fromOption)

/-- The record of a task that may not be claimed until it was recovered. -/
def recoveryPendingTask (task : TaskRecord) : TaskRecord :=
  { task with
    taskRevision := task.taskRevision + 1
    status := .recoveryPending }

/-- Fence new work after lease expiry. -/
def suspectExpiredAttempt (env : Env) (taskId : TaskId) (commandId : StableId) (actorId : String)
    (reason : String) (observedRevision : Option Nat) (now : Option Time) : Tx TaskRecord := do
  let observedAt := now.getD env.now
  let task ← loadTask taskId
  requireObservedRevision task observedRevision
  if task.status = .recoveryPending then
    pure task
  else
    raiseWhen (task.status ≠ .running)
      (.commandConflict "lease suspicion requires a running Attempt")
    let attemptId ← fromOption (.commandConflict "lease suspicion requires a running Attempt")
      task.currentAttemptId
    let db ← get
    let row ← fromOption (.commandConflict "current Attempt projection is missing")
      (db.attempts.lookup attemptId)
    let attempt ← restoreAttempt row
    raiseWhen (attempt.leaseExpiresAt.all (observedAt ≤ ·))
      (.commandConflict "Attempt lease has not expired")
    let updated := recoveryPendingTask task
    updateTask updated
    append env task.runId task.taskId
      (.controlRecorded
        { commandId := commandId
          action := .leaseExpired
          actorId := actorId
          reason := reason }) commandId []
    pure updated

def endedAttempt (attempt : TaskAttempt) (endedAt : Time) (outcome : AttemptOutcome)
    (failureClass : Option FailureClass) : TaskAttempt :=
  { attempt with
    endedAt := some endedAt
    outcome := some outcome
    failureClass := failureClass }

/-- The record of a task whose expired owner was released. -/
def releasedTask (task : TaskRecord) : TaskRecord :=
  { task with
    taskRevision := task.taskRevision + 1
    status := .waitingRetry
    currentAttemptId := none }

/-- Release an expired owner once its effect frontier is settled. -/
def reclaimExpiredAttempt (env : Env) (taskId : TaskId) (commandId : StableId) (actorId : String)
    (reason : String) (observedRevision : Option Nat) (now : Option Time) : Tx TaskRecord := do
  let observedAt := now.getD env.now
  let task ← loadTask taskId
  requireObservedRevision task observedRevision
  raiseWhen (task.status ≠ .recoveryPending)
    (.commandConflict "lease reclaim requires RECOVERY_PENDING with a current Attempt")
  let attemptId ← fromOption
    (.commandConflict "lease reclaim requires RECOVERY_PENDING with a current Attempt")
    task.currentAttemptId
  let db ← get
  let row ← fromOption (.commandConflict "current Attempt projection is missing")
    (db.attempts.lookup attemptId)
  let attempt ← restoreAttempt row
  raiseWhen (attempt.leaseExpiresAt.all (observedAt ≤ ·))
    (.commandConflict "Attempt lease is no longer expired")
  raiseWhen (db.hasUnresolvedEffect attempt.attemptId = true)
    (.commandConflict "expired Attempt effect frontier requires reconciliation")
  let released := releasedTask task
  updateAttempt (endedAttempt attempt observedAt .suspended (some .workerLeaseExpired))
  updateTask released
  append env task.runId task.taskId
    (.controlRecorded
      { commandId := commandId
        action := .leaseReclaim
        actorId := actorId
        reason := reason }) commandId []
  let identity ← boundedRuntimeIdentity
    [commandId.root ++ ".attempt-settled", attempt.attemptId.root ++ ".attempt-settled"]
  append env task.runId task.taskId
    (.attemptSettled
      { attemptId := attempt.attemptId
        outcome := .suspended
        taskStatus := .waitingRetry
        failureClass := some .workerLeaseExpired
        endedAt := observedAt }) identity []
  pure released

def settleable : TaskStatus → Bool
  | .pending => false
  | .running => false
  | _ => true

/-- The status a worker asks for, unless its failure is not understood. -/
def requestedStatus (failureClass : Option FailureClass) (terminalStatus : TaskStatus) :
    TaskStatus :=
  if failureClass = some .unknown then (failurePolicy .unknown).fallbackStatus else terminalStatus

/-- The status a settlement really leaves a task in: a retry that costs the
    last of the budget becomes a budget review. The subtraction is truncated,
    which changes nothing, since both its uses treat zero and below alike. -/
def settledStatus (task : TaskRecord) (failureClass : Option FailureClass)
    (terminalStatus : TaskStatus) : TaskStatus :=
  if terminalStatus = .waitingRetry ∧ consumesTaskBudget failureClass = true ∧
      task.failureBudget - 1 = 0 then .budgetReview
  else terminalStatus

/-- The retry budget after an attempt ended this way. -/
def remainingBudget (task : TaskRecord) (failureClass : Option FailureClass) : Nat :=
  task.failureBudget - if consumesTaskBudget failureClass = true then 1 else 0

def recordedCause (status : TaskStatus) (failureClass : Option FailureClass) : Option String :=
  if status = .blocked then failureClass.map FailureClass.value else none

/-- The first characters of a text, as a slice takes them. -/
def sliced (text : String) (length : Nat) : String :=
  String.ofList (text.toList.take length)

/-- The record of a task whose attempt was settled by its worker. -/
def settledTask (task : TaskRecord) (status : TaskStatus) (failureClass : Option FailureClass)
    (artifactRefs : List ArtifactRef) : TaskRecord :=
  { task with
    taskRevision := task.taskRevision + 1
    status := status
    currentAttemptId := none
    terminalArtifactRefs := artifactRefs
    failureBudget := remainingBudget task failureClass
    blockCause := (recordedCause status failureClass).or task.blockCause }

/-- Record the cause of a settlement that blocks its task, if it has one. -/
def recordBlocked (env : Env) (task : TaskRecord) (attempt : TaskAttempt) (status : TaskStatus)
    (cause : Option String) (failureClass : FailureClass) : Tx Unit :=
  match status, cause with
  | .blocked, some cause => do
      let identity ← stableId (attempt.attemptId.root ++ ".blocked")
      append env task.runId task.taskId
        (.taskBlocked failureClass (digest cause) (sliced cause 512) none) identity []
  | _, _ => pure ()

def settleAttempt (env : Env) (fence : AttemptFence) (outcome : AttemptOutcome)
    (terminalStatus : TaskStatus) (artifactRefs : List ArtifactRef)
    (reported : Option ReportedFailure) (successors : List TaskRecord) : Tx TaskRecord := do
  let failureClass := normalizeFailureClass reported
  let terminalStatus := requestedStatus failureClass terminalStatus
  raiseWhen (settleable terminalStatus = false)
    (.value "attempt settlement requires a terminal or explicit waiting status")
  let owned ← requireFence fence true
  let task := owned.task
  let attempt := owned.attempt
  raiseWhen (task.cancelRequested = true ∧ terminalStatus ≠ .cancelled)
    (.commandConflict "cancel-requested attempt may only settle CANCELLED")
  let db ← get
  raiseWhen (db.hasUnresolvedEffect attempt.attemptId = true)
    (.commandConflict "attempt has an unresolved effect frontier")
  let status := settledStatus task failureClass terminalStatus
  let settled := settledTask task status failureClass artifactRefs
  updateAttempt (endedAttempt attempt env.now outcome failureClass)
  updateTask settled
  recordBlocked env task attempt status settled.blockCause (failureClass.getD .basisChanged)
  let identity ← stableId (attempt.attemptId.root ++ ".settled")
  append env task.runId task.taskId
    (.attemptSettled
      { attemptId := attempt.attemptId
        outcome := outcome
        taskStatus := status
        failureClass := failureClass
        blockCause := recordedCause status failureClass
        terminalArtifactRefs := artifactRefs
        endedAt := env.now }) identity artifactRefs
  insertSuccessorTasks env settled successors none
  pure settled

/-- Read a finding, if the service can read artifacts at all. -/
def loadMemoryRepairFinding (env : Env) (ref : ArtifactRef) : Tx MemoryRepairFinding := do
  let artifacts ← fromOption
    (.commandConflict "memory repair commands require an ArtifactRepository") env.artifacts
  fromOption (.commandConflict "finding artifact is not a valid memory repair finding")
    (artifacts.memoryRepairFinding ref)

/-- Read a workflow result, if the service can read artifacts at all. -/
def loadMemoryWriteResult (env : Env) (ref : ArtifactRef) : Tx MemoryWriteWorkflowResult := do
  let artifacts ← fromOption
    (.commandConflict "memory repair commands require an ArtifactRepository") env.artifacts
  fromOption (.commandConflict "workflow result artifact is invalid")
    (artifacts.memoryWriteResult ref)

def maintenanceTaskId (finding : MemoryRepairFinding) : Tx TaskId :=
  let owner := finding.repairOwner.value
  boundedRuntimeIdentity
    ["maintenance." ++ finding.findingId.root ++ "." ++ owner,
      "maintenance." ++ finding.incidentId.root ++ "." ++ finding.plannerAttemptId.root ++ "." ++
        owner,
      "maintenance." ++ finding.noProgressKey.root ++ "." ++ finding.plannerAttemptId.root ++
        "." ++ owner,
      "maintenance." ++ finding.plannerTaskId.root ++ "." ++ finding.plannerAttemptId.root ++
        "." ++ owner]

/-- The identity of the Planner task that retries on a repaired basis. -/
def plannerRetryTaskId (planner : TaskRecord) (result : MemoryWriteWorkflowResult) :
    Tx TaskId := do
  let resultingCommit ← fromOption (.commandConflict "committed repair has no resulting commit")
    result.resultingCommit
  let digest := sliced (String.ofList (resultingCommit.root.toList.drop 7)) 32
  boundedRuntimeIdentity
    [planner.taskId.root ++ ".retry." ++ digest, planner.runId.root ++ ".retry." ++ digest,
      "retry." ++ digest]

/-- The first way in which a finding does not belong to a Planner task. -/
def gapFindingViolation (planner : TaskRecord) (attempt : Option TaskAttempt)
    (finding : MemoryRepairFinding) : Option String :=
  if planner.kind ≠ .planCandidate then
    some "memory repair finding must originate at a Planner task"
  else if finding.classification ≠ .canonExtractionGap then
    some "only CANON_EXTRACTION_GAP creates maintenance"
  else if finding.plannerRunId ≠ planner.runId ∨ finding.plannerTaskId ≠ planner.taskId ∨
      finding.projectId ≠ planner.projectId ∨ finding.baseCommit ≠ planner.basisCommit ∨
      finding.basisSnapshotId ≠ planner.basisSnapshot then
    some "memory repair finding does not match Planner basis"
  else if attempt.any fun attempt => finding.plannerAttemptId ≠ attempt.attemptId then
    some "memory repair finding does not match Planner attempt"
  else none

/-- The first way in which a maintenance task does not belong to a Planner task. -/
def maintenanceTaskViolation (planner maintenance : TaskRecord) (findingRef : ArtifactRef) :
    Option String :=
  if maintenance.kind ≠ .maintenance ∨ maintenance.purpose ≠ .derivedMaintenance ∨
      maintenance.status ≠ .ready ∨ maintenance.taskRevision ≠ 0 ∨
      maintenance.currentAttemptId ≠ none then
    some "maintenance task is not an unclaimed derived task"
  else if maintenance.runId ≠ planner.runId ∨ maintenance.projectId ≠ planner.projectId ∨
      maintenance.policyHash ≠ planner.policyHash ∨
      maintenance.permissionHash ≠ planner.permissionHash ∨
      maintenance.basisCommit ≠ planner.basisCommit ∨
      maintenance.basisSnapshot ≠ planner.basisSnapshot then
    some "maintenance task differs from Planner owner"
  else if maintenance.inputArtifactRefs ≠ [findingRef] then
    some "maintenance task must carry exactly its finding"
  else if maintenance.dependencyTaskIds ≠ [] then
    some "maintenance task must not depend on the blocked Planner"
  else none

/-- Raise the message of a violated rule. -/
def refuse (violation : Option String) : Tx Unit :=
  match violation with
  | some message => throw (.commandConflict message)
  | none => pure ()

def gapBlockedTask (task : TaskRecord) (findingRef : ArtifactRef) : TaskRecord :=
  { task with
    taskRevision := task.taskRevision + 1
    status := .blocked
    currentAttemptId := none
    terminalArtifactRefs := [findingRef]
    blockCause := some FailureClass.canonExtractionGap.value }

/-- The answer to a repeated gap settlement. -/
def restoreMaintenance (existing : Option TaskRow) (maintenance : TaskRecord)
    (findingRef : ArtifactRef) : Tx TaskRecord := do
  let row ← fromOption (.commandConflict "blocked Planner gap is missing its maintenance task")
    existing
  let restored ← restoreTask row
  raiseWhen (restored ≠ maintenance) (.commandConflict "maintenance task identity collision")
  raiseWhen (restored.inputArtifactRefs ≠ [findingRef])
    (.commandConflict "maintenance task finding binding changed")
  pure restored

/-- Refuse when a task to be created in a settlement is already there. -/
def requireAbsent (existing : Option TaskRow) (task : TaskRecord) (collision present : String) :
    Tx Unit :=
  match existing with
  | none => pure ()
  | some row => do
      let restored ← restoreTask row
      raiseWhen (restored ≠ task) (.commandConflict collision)
      throw (.commandConflict present)

/-- A Planner gap and its repair task. -/
def settleGapAndCreateMaintenance (env : Env) (fence : AttemptFence) (findingRef : ArtifactRef)
    (maintenance : TaskRecord) : Tx TaskRecord := do
  let finding ← loadMemoryRepairFinding env findingRef
  let expectedTaskId ← maintenanceTaskId finding
  raiseWhen (maintenance.taskId ≠ expectedTaskId)
    (.commandConflict "maintenance task identity is not finding-bound")
  let current ← loadTask fence.taskId
  let db ← get
  let existing := db.tasks.lookup maintenance.taskId
  if current.status = .blocked ∧ current.currentAttemptId = none then
    restoreMaintenance existing maintenance findingRef
  else
    let owned ← requireFence fence true
    let task := owned.task
    let attempt := owned.attempt
    refuse (gapFindingViolation task (some attempt) finding)
    refuse (maintenanceTaskViolation task maintenance findingRef)
    requireAbsent existing maintenance "maintenance task identity collision"
      "maintenance task exists before Planner gap settlement"
    updateAttempt (endedAttempt attempt env.now .failed (some .canonExtractionGap))
    updateTask (gapBlockedTask task findingRef)
    let blockedIdentity ← stableId (attempt.attemptId.root ++ ".gap-blocked")
    append env task.runId task.taskId
      (.taskBlocked .canonExtractionGap (digest finding.findingId.root)
        FailureClass.canonExtractionGap.value (some findingRef)) blockedIdentity [findingRef]
    let settledIdentity ← stableId (attempt.attemptId.root ++ ".settled")
    append env task.runId task.taskId
      (.attemptSettled
        { attemptId := attempt.attemptId
          outcome := .failed
          taskStatus := .blocked
          failureClass := some .canonExtractionGap
          blockCause := some FailureClass.canonExtractionGap.value
          terminalArtifactRefs := [findingRef]
          endedAt := env.now }) settledIdentity [findingRef]
    let createdIdentity ← taskCreatedIdentity maintenance.taskId
    append env maintenance.runId maintenance.taskId (.taskCreated maintenance) createdIdentity
      [findingRef]
    insertTask maintenance
    pure maintenance

/-- The Planner task expected to retry on the repaired basis. -/
def expectedRetryTask (planner maintenance : TaskRecord) (taskId : TaskId) (basisCommit : CommitId)
    (basisSnapshot : StableId) : TaskRecord :=
  { planner with
    taskId := taskId
    taskRevision := 0
    status := .ready
    basisCommit := basisCommit
    basisSnapshot := some basisSnapshot
    dependencyTaskIds := [maintenance.taskId]
    terminalArtifactRefs := []
    blockCause := none
    superseded := false }

/-- A committed repair must belong to its maintenance task, be the current
    commit, and hand the Planner's intent over unchanged. -/
def validateCommittedRepair (maintenance planner : TaskRecord) (finding : MemoryRepairFinding)
    (result : MemoryWriteWorkflowResult) (resultRef : ArtifactRef) (retryTask : TaskRecord)
    (currentCommit : CommitId) : Tx Unit := do
  raiseWhen (planner.status ≠ .blocked ∨ planner.superseded = true)
    (.commandConflict "Planner must be blocked and not yet superseded")
  raiseWhen (result.status ≠ .committed)
    (.commandConflict "Planner retry requires a committed memory repair")
  raiseWhen (result.canonicalCommitAccepted = false ∨ result.resultingCommit = none)
    (.commandConflict "Planner retry requires an accepted resulting commit")
  raiseWhen (result.baseCommit ≠ maintenance.basisCommit)
    (.commandConflict "workflow result base differs from maintenance basis")
  let resultingCommit ← fromOption
    (.commandConflict "Planner retry requires an accepted resulting commit") result.resultingCommit
  let snapshot ← fromOption (.commandConflict "committed repair is missing projection freshness")
    result.projectionSnapshotId
  let freshness ← fromOption (.commandConflict "committed repair is missing projection freshness")
    result.freshness
  raiseWhen (freshness.canonicalCommit ≠ resultingCommit)
    (.commandConflict "workflow freshness is bound to another commit")
  raiseWhen (currentCommit ≠ resultingCommit)
    (.commandConflict "resulting repair commit is not the current project commit")
  raiseWhen (planner.basisSnapshot = some snapshot)
    (.commandConflict "Planner retry must establish a new basis namespace")
  let retryId ← plannerRetryTaskId planner result
  raiseWhen (retryTask ≠ expectedRetryTask planner maintenance retryId resultingCommit snapshot)
    (.commandConflict "Planner retry does not preserve task intent")
  refuse (gapFindingViolation planner none finding)
  raiseWhen (resultRef ∈ retryTask.inputArtifactRefs)
    (.commandConflict "Planner retry must not inject workflow output")

/-- The answer to a repeated maintenance settlement. -/
def restoreRetry (existing : Option TaskRow) (planner retryTask : TaskRecord) :
    Tx TaskRecord := do
  let row ← fromOption (.commandConflict "settled maintenance is missing its Planner retry task")
    existing
  let restored ← restoreTask row
  raiseWhen (restored ≠ retryTask ∨ planner.superseded = false)
    (.commandConflict "Planner retry identity collision")
  pure restored

def maintenanceSettledTask (task : TaskRecord) (refs : List ArtifactRef) : TaskRecord :=
  { task with
    taskRevision := task.taskRevision + 1
    status := .succeeded
    currentAttemptId := none
    terminalArtifactRefs := refs
    blockCause := none }

/-- A committed repair and the new Planner task. -/
def settleMaintenanceAndRetryPlanner (env : Env) (fence : AttemptFence) (resultRef : ArtifactRef)
    (artifactRefs : List ArtifactRef) (retryTask : TaskRecord) : Tx TaskRecord := do
  let result ← loadMemoryWriteResult env resultRef
  let settlementRefs := (resultRef :: artifactRefs).eraseDups
  let maintenance ← loadTask fence.taskId
  raiseWhen (maintenance.kind ≠ .maintenance ∨ maintenance.purpose ≠ .derivedMaintenance)
    (.commandConflict "only derived maintenance may retry a Planner")
  let findingRef ← fromOption (.commandConflict "maintenance task is missing its finding")
    maintenance.inputArtifactRefs.head?
  let finding ← loadMemoryRepairFinding env findingRef
  let planner ← loadTask finding.plannerTaskId
  let expectedRetryId ← plannerRetryTaskId planner result
  raiseWhen (retryTask.taskId ≠ expectedRetryId)
    (.commandConflict "Planner retry identity is not basis-bound")
  let db ← get
  let existing := db.tasks.lookup retryTask.taskId
  if maintenance.status = .succeeded ∧ maintenance.currentAttemptId = none then
    restoreRetry existing planner retryTask
  else
    let owned ← requireFence fence true
    let task := owned.task
    let attempt := owned.attempt
    refuse (gapFindingViolation planner none finding)
    let currentCommit ← fromOption (.commandConflict "project has no current commit")
      (db.canon.projects.lookup task.projectId).join
    validateCommittedRepair task planner finding result resultRef retryTask currentCommit
    requireAbsent existing retryTask "Planner retry task identity collision"
      "Planner retry task exists before settlement"
    updateAttempt (endedAttempt attempt env.now .succeeded none)
    updateTask (maintenanceSettledTask task settlementRefs)
    updateTask (supersededTask planner "canon extraction maintenance committed")
    let settledIdentity ← stableId (attempt.attemptId.root ++ ".settled")
    append env task.runId task.taskId
      (.attemptSettled
        { attemptId := attempt.attemptId
          outcome := .succeeded
          taskStatus := .succeeded
          terminalArtifactRefs := settlementRefs
          endedAt := env.now }) settledIdentity settlementRefs
    let commandId ← boundedRuntimeIdentity
      ["supersede." ++ task.taskId.root,
        "supersede." ++ task.runId.root ++ "." ++ toString task.taskRevision]
    let supersededIdentity ← boundedRuntimeIdentity
      [task.taskId.root ++ ".planner-superseded",
        attempt.attemptId.root ++ ".planner-superseded"]
    append env planner.runId planner.taskId
      (.controlRecorded
        { commandId := commandId
          action := .supersede
          actorId := "memory-maintenance"
          reason := "canon extraction maintenance committed on a new basis" })
      supersededIdentity [finding.plannerIntentRef, resultRef]
    let createdIdentity ← taskCreatedIdentity retryTask.taskId
    append env retryTask.runId retryTask.taskId (.taskCreated retryTask) createdIdentity
      [finding.plannerIntentRef, resultRef]
    insertTask retryTask
    pure retryTask

end NovelAgent.Runtime
