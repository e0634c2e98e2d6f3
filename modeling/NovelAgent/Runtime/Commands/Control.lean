import NovelAgent.Runtime.Commands.Effects

/-!
# Operator Commands

What a person or the recovery service does to a task from outside its attempt.
-/

namespace NovelAgent.Runtime

open Core Domain
open Core.Transaction (raiseWhen fromOption)

/-- The three ways an operator may end an attempt. -/
inductive OperatorDecision
  | waitingRetry
  | blocked
  | cancelled
deriving DecidableEq

/-- The decision that a requested status stands for, if an operator may ask
    for that status at all. -/
def OperatorDecision.ofStatus? : TaskStatus → Option OperatorDecision
  | .waitingRetry => some .waitingRetry
  | .blocked => some .blocked
  | .cancelled => some .cancelled
  | _ => none

def OperatorDecision.status : OperatorDecision → TaskStatus
  | .waitingRetry => .waitingRetry
  | .blocked => .blocked
  | .cancelled => .cancelled

def OperatorDecision.outcome : OperatorDecision → AttemptOutcome
  | .waitingRetry => .suspended
  | .blocked => .failed
  | .cancelled => .cancelled

/-- The failure an operator's decision is recorded with unless one is given. -/
def OperatorDecision.failure (decision : OperatorDecision) (given : Option FailureClass) :
    FailureClass :=
  given.getD (if decision = .cancelled then .cancelled else .workerStartup)

/-- The status an operator's decision leaves the task in. Any retry with no
    budget left becomes a budget review, also one that costs nothing. -/
def reconciledStatus (task : TaskRecord) (decision : OperatorDecision) (failure : FailureClass) :
    TaskStatus :=
  if decision = .waitingRetry ∧ remainingBudget task (some failure) = 0 then .budgetReview
  else decision.status

/-- The record of a task whose attempt an operator ended. -/
def reconciledTask (task : TaskRecord) (status : TaskStatus) (failure : FailureClass)
    (reason : String) (refs : List ArtifactRef) : TaskRecord :=
  { task with
    taskRevision := task.taskRevision + 1
    status := status
    currentAttemptId := none
    terminalArtifactRefs := (task.terminalArtifactRefs ++ refs).eraseDups
    failureBudget := remainingBudget task (some failure)
    paused := status = .cancelled
    blockCause := if status = .blocked then some reason else task.blockCause }

def recordOperatorBlock (env : Env) (task : TaskRecord) (attempt : TaskAttempt)
    (status : TaskStatus) (commandId : StableId) (failure : FailureClass) (reason : String)
    (refs : List ArtifactRef) : Tx Unit :=
  match status with
  | .blocked => do
      let identity ← boundedRuntimeIdentity
        ["blocked." ++ commandId.root, attempt.attemptId.root ++ ".operator-blocked"]
      append env task.runId task.taskId
        (.taskBlocked failure (digest reason) (sliced reason 512) none) identity refs
  | _ => pure ()

/-- End an attempt whose worker is gone. -/
def operatorReconcileAttempt (env : Env) (taskId : TaskId) (commandId : StableId)
    (actorId : String) (reason : String) (terminalStatus : TaskStatus)
    (failureClass : Option FailureClass) (observedRevision : Option Nat)
    (artifactRefs : List ArtifactRef) : Tx TaskRecord := do
  let decision ← fromOption (.value "operator reconciliation may only retry, block, or cancel")
    (OperatorDecision.ofStatus? terminalStatus)
  let refs := artifactRefs.eraseDups
  let task ← loadTask taskId
  requireObservedRevision task observedRevision
  let attemptId ← fromOption (.commandConflict "task has no attempt to reconcile")
    task.currentAttemptId
  let db ← get
  raiseWhen (db.hasUnresolvedEffect attemptId = true)
    (.commandConflict "attempt effect frontier is unresolved")
  let row ← fromOption (.commandConflict "current attempt projection is missing")
    (db.attempts.lookup attemptId)
  let attempt ← restoreAttempt row
  let failure := decision.failure failureClass
  let status := reconciledStatus task decision failure
  let settled := reconciledTask task status failure reason refs
  updateAttempt (endedAttempt attempt env.now decision.outcome (some failure))
  updateTask settled
  append env task.runId task.taskId
    (.controlRecorded
      { commandId := commandId
        action := .operatorReconcile
        actorId := actorId
        reason := reason }) commandId refs
  recordOperatorBlock env task attempt status commandId failure reason refs
  let identity ← boundedRuntimeIdentity
    [commandId.root ++ ".attempt-settled", attempt.attemptId.root ++ ".operator-settled"]
  append env task.runId task.taskId
    (.attemptSettled
      { attemptId := attempt.attemptId
        outcome := decision.outcome
        taskStatus := status
        failureClass := some failure
        terminalArtifactRefs := refs
        endedAt := env.now }) identity refs
  pure settled

/-- Fence new claims while something is unresolved. -/
def markRecoveryPending (env : Env) (taskId : TaskId) (commandId : StableId) (actorId : String)
    (reason : String) (observedRevision : Option Nat) : Tx TaskRecord := do
  let task ← loadTask taskId
  requireObservedRevision task observedRevision
  if task.status = .recoveryPending then
    pure task
  else
    raiseWhen (task.status = .succeeded ∨ task.status = .failed ∨ task.status = .cancelled)
      (.commandConflict "settled task cannot enter recovery pending")
    let updated := recoveryPendingTask task
    updateTask updated
    append env task.runId task.taskId
      (.controlRecorded
        { commandId := commandId
          action := .recoveryPending
          actorId := actorId
          reason := reason }) commandId []
    pure updated

/-- The actions of `control`; anything else is refused with its text. -/
inductive RequestedControl
  | pause
  | cancel
  | retry
  | unsupported (action : String)
deriving DecidableEq

def RequestedControl.action? : RequestedControl → Option ControlAction
  | .pause => some .pause
  | .cancel => some .cancel
  | .retry => some .retry
  | .unsupported _ => none

def controlledStatus (task : TaskRecord) : RequestedControl → TaskStatus
  | .pause => if task.currentAttemptId = none then .pending else task.status
  | .cancel => if task.currentAttemptId = none then .cancelled else .recoveryPending
  | .retry => if task.failureBudget = 0 then .budgetReview else .ready
  | .unsupported _ => task.status

/-- Whether making a task claimable again releases its writer generation. -/
def writerGenerationAfter (task : TaskRecord) : Option Nat :=
  if task.kind.isCommit = true ∧ 0 < task.writerGeneration then some 0 else none

/-- The writer generation a control records as released. Only a retry releases it. -/
def controlledGeneration (task : TaskRecord) (request : RequestedControl) : Option Nat :=
  if request = .retry then writerGenerationAfter task else none

def controlledTask (task : TaskRecord) (request : RequestedControl) : TaskRecord :=
  { task with
    taskRevision := task.taskRevision + 1
    status := controlledStatus task request
    paused := request = .pause ∨ request = .cancel
    cancelRequested := request = .cancel
    writerGeneration := (controlledGeneration task request).getD task.writerGeneration }

/-- Pause, cancel or retry. -/
def control (env : Env) (taskId : TaskId) (commandId : StableId) (request : RequestedControl)
    (actorId : String) (reason : String) (observedRevision : Option Nat) : Tx TaskRecord := do
  let action ← fromOption (.value "unsupported runtime control action") request.action?
  let task ← loadTask taskId
  requireObservedRevision task observedRevision
  raiseWhen (task.currentAttemptId ≠ none ∧ request = .retry)
    (.commandConflict "cannot replace an active attempt")
  raiseWhen (request = .retry ∧ task.status ≠ .waitingRetry)
    (.commandConflict "retry requires WAITING_RETRY")
  let updated := controlledTask task request
  updateTask updated
  append env task.runId task.taskId
    (.controlRecorded
      { commandId := commandId
        action := action
        actorId := actorId
        reason := reason
        writerGenerationAfter := controlledGeneration task request }) commandId []
  pure updated

def extendedTask (task : TaskRecord) (attempts tranches : Nat) : TaskRecord :=
  { task with
    taskRevision := task.taskRevision + 1
    status := .ready
    failureBudget := task.failureBudget + attempts
    plannerMemoryBudgetExtensions := task.plannerMemoryBudgetExtensions + tranches }

/-- Make a task that ran out of budget claimable again. -/
def extendBudget (env : Env) (taskId : TaskId) (commandId : StableId) (actorId : String)
    (reason : String) (additionalAttempts additionalPlannerMemoryTranches : Int)
    (observedRevision : Option Nat) : Tx TaskRecord := do
  raiseWhen (additionalAttempts < 0 ∨ additionalPlannerMemoryTranches < 0 ∨
      (additionalAttempts = 0 ∧ additionalPlannerMemoryTranches = 0))
    (.value "budget extension must add a retry or Planner Memory tranche")
  let attempts := additionalAttempts.toNat
  let tranches := additionalPlannerMemoryTranches.toNat
  let task ← loadTask taskId
  requireObservedRevision task observedRevision
  raiseWhen (task.status ≠ .budgetReview ∨ task.currentAttemptId ≠ none)
    (.commandConflict "budget extension requires inactive BUDGET_REVIEW work")
  raiseWhen (task.failureBudget + attempts = 0)
    (.commandConflict "budget extension must leave the task with a positive retry budget")
  let updated := extendedTask task attempts tranches
  updateTask updated
  append env task.runId task.taskId
    (.controlRecorded
      { commandId := commandId
        action := .extendBudget
        actorId := actorId
        reason := reason
        additionalAttempts := attempts
        additionalPlannerMemoryTranches := tranches }) commandId []
  pure updated

/-- The status of work that became claimable again. -/
def claimableStatus (task : TaskRecord) : TaskStatus :=
  if 0 < task.failureBudget then .ready else .budgetReview

/-- The record of a task whose block was cleared. -/
def unblockedTask (task : TaskRecord) : TaskRecord :=
  { task with
    taskRevision := task.taskRevision + 1
    status := claimableStatus task
    blockCause := none
    writerGeneration := (writerGenerationAfter task).getD task.writerGeneration }

/-- Clear a block whose recorded cause the caller can name. -/
def unblock (env : Env) (taskId : TaskId) (commandId : StableId) (actorId : String)
    (blockCauseFingerprint : String) (changedEvidenceRefs : List ArtifactRef)
    (observedRevision : Option Nat) : Tx TaskRecord := do
  raiseWhen (changedEvidenceRefs = []) (.value "unblock requires changed prerequisite evidence")
  let task ← loadTask taskId
  requireObservedRevision task observedRevision
  raiseWhen (task.status ≠ .blocked) (.commandConflict "unblock requires a recorded block cause")
  let cause ← fromOption (.commandConflict "unblock requires a recorded block cause")
    task.blockCause
  raiseWhen ((digest cause).root ≠ blockCauseFingerprint)
    (.commandConflict "block cause fingerprint is stale")
  let updated := unblockedTask task
  updateTask updated
  append env task.runId task.taskId
    (.controlRecorded
      { commandId := commandId
        action := .unblock
        actorId := actorId
        reason := "block prerequisite changed with immutable evidence"
        writerGenerationAfter := writerGenerationAfter task }) commandId changedEvidenceRefs
  pure updated

/-- Waiting maintenance resumes only from a checkpoint of its own basis. -/
def requireWaitingInputCheckpoint (env : Env) (task : TaskRecord) : Tx Unit := do
  let artifacts ← fromOption
    (.commandConflict "maintenance resume requires an ArtifactRepository") env.artifacts
  let resultRefs := task.terminalArtifactRefs.filter fun ref =>
    ref.mediaType == memoryWriteResultMediaType
  raiseWhen (resultRefs.length ≠ 1)
    (.commandConflict "maintenance resume requires one workflow result artifact")
  let result ← fromOption (.commandConflict "maintenance resume workflow result is invalid")
    (resultRefs.head?.bind artifacts.memoryWriteResult)
  raiseWhen (result.status ≠ .humanRequired)
    (.commandConflict "maintenance resume requires a HUMAN_REQUIRED workflow result")
  raiseWhen (result.checkpointRef = none ∨ result.baseCommit ≠ task.basisCommit)
    (.commandConflict "maintenance resume requires a basis-bound workflow checkpoint")

/-- Whether a task may be resumed: waiting maintenance by its checkpoint,
    anything else when it is paused and no attempt is active. -/
def requireResumable (env : Env) (task : TaskRecord) : Tx Unit :=
  if task.kind = .maintenance ∧ task.status = .waitingInput ∧ task.paused = false then
    requireWaitingInputCheckpoint env task
  else
    raiseWhen (task.paused = false ∨ task.currentAttemptId ≠ none)
      (.commandConflict "resume requires a paused task without active attempt")

def resumedTask (task : TaskRecord) : TaskRecord :=
  { task with
    taskRevision := task.taskRevision + 1
    status := claimableStatus task
    paused := false
    cancelRequested := false }

/-- Make a paused task claimable again. -/
def resume (env : Env) (taskId : TaskId) (commandId : StableId) (actorId : String)
    (reason : String) (observedRevision : Option Nat) : Tx TaskRecord := do
  let task ← loadTask taskId
  requireObservedRevision task observedRevision
  requireResumable env task
  let updated := resumedTask task
  updateTask updated
  append env task.runId task.taskId
    (.controlRecorded
      { commandId := commandId
        action := .resume
        actorId := actorId
        reason := reason }) commandId []
  pure updated

end NovelAgent.Runtime
