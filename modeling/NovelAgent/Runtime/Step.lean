import NovelAgent.Core.Run
import NovelAgent.Runtime.Projection
import NovelAgent.Runtime.Commands.Writer

/-!
# The Runtime Kernel as a State Machine

Every command of the kernel as one step of one machine over the database.
-/

namespace NovelAgent.Runtime

open Core Domain

/-- The commands of the kernel, and the two ways canon moves without it. -/
inductive Command
  | createRunAndInitialTask (request : CreativeRunRequest)
  | createTask (task : TaskRecord)
  | supersedeTask (taskId : TaskId) (reason : String)
  | completeWaitingTask (taskId : TaskId) (receipt : AcceptanceReceipt) (receiptRef : ArtifactRef)
      (successors : List TaskRecord)
  | claim (taskId : TaskId) (workerId : String) (observedRevision : Option Nat)
  | markStarted (fence : AttemptFence)
  | heartbeat (fence : AttemptFence)
  | suspectExpiredAttempt (taskId : TaskId) (commandId : StableId) (actorId reason : String)
      (observedRevision : Option Nat) (now : Option Time)
  | reclaimExpiredAttempt (taskId : TaskId) (commandId : StableId) (actorId reason : String)
      (observedRevision : Option Nat) (now : Option Time)
  | settleAttempt (fence : AttemptFence) (outcome : AttemptOutcome) (terminalStatus : TaskStatus)
      (artifactRefs : List ArtifactRef) (failure : Option ReportedFailure)
      (successors : List TaskRecord)
  | settleGapAndCreateMaintenance (fence : AttemptFence) (findingRef : ArtifactRef)
      (maintenance : TaskRecord)
  | settleMaintenanceAndRetryPlanner (fence : AttemptFence) (resultRef : ArtifactRef)
      (artifactRefs : List ArtifactRef) (retryTask : TaskRecord)
  | recordEffectRequested (fence : AttemptFence) (receipt : EffectReceipt)
  | recordEffectTerminal (fence : AttemptFence) (receipt : EffectReceipt)
  | reconcileEffect (taskId : TaskId) (receipt : EffectReceipt) (commandId : StableId)
      (observedRevision : Option Nat)
  | operatorReconcileAttempt (taskId : TaskId) (commandId : StableId) (actorId reason : String)
      (terminalStatus : TaskStatus) (failure : Option FailureClass)
      (observedRevision : Option Nat) (artifactRefs : List ArtifactRef)
  | markRecoveryPending (taskId : TaskId) (commandId : StableId) (actorId reason : String)
      (observedRevision : Option Nat)
  | saveCheckpoint (fence : AttemptFence) (checkpoint : RunCheckpoint)
  | control (taskId : TaskId) (commandId : StableId) (request : RequestedControl)
      (actorId reason : String) (observedRevision : Option Nat)
  | extendBudget (taskId : TaskId) (commandId : StableId) (actorId reason : String)
      (additionalAttempts additionalPlannerMemoryTranches : Int) (observedRevision : Option Nat)
  | unblock (taskId : TaskId) (commandId : StableId) (actorId blockCauseFingerprint : String)
      (changedEvidenceRefs : List ArtifactRef) (observedRevision : Option Nat)
  | resume (taskId : TaskId) (commandId : StableId) (actorId reason : String)
      (observedRevision : Option Nat)
  | claimWriterLane (fence : AttemptFence)
  | verifyWriterLane (fence : AttemptFence)
  | commitAcceptedCandidate (fence : AttemptFence) (request : CommitRequest)
      (successors : List TaskRecord)
  | recordExternalCommit (fence : AttemptFence) (commitId : CommitId)
      (artifactRefs : List ArtifactRef) (effectReceipt : Option EffectReceipt)
      (successors : List TaskRecord)
  | reconcileExternalCommit (taskId : TaskId) (commitId : CommitId)
      (effectReceipt : EffectReceipt) (successors : List TaskRecord)
      (artifactRefs : List ArtifactRef) (observedRevision : Option Nat)
  | initializeProject (manifest : RootManifest)
  | commit (request : CommitRequest)

/-- Run a body for its effect on the store. -/
def discardResult {α : Type} (body : Tx α) : Tx Unit := do
  let _ ← body
  pure ()

/-- The body of a command. -/
def perform (service : Service) (env : Env) : Command → Tx Unit
  | .createRunAndInitialTask request => discardResult (createRunAndInitialTask env request)
  | .createTask task => discardResult (createTask env task)
  | .supersedeTask taskId reason => discardResult (supersedeTask env taskId reason)
  | .completeWaitingTask taskId receipt receiptRef successors =>
    discardResult (completeWaitingTask env taskId receipt receiptRef successors)
  | .claim taskId workerId observedRevision =>
    discardResult (claim service env taskId workerId observedRevision)
  | .markStarted fence => discardResult (markStarted env fence)
  | .heartbeat fence => discardResult (heartbeat service env fence)
  | .suspectExpiredAttempt taskId commandId actorId reason observedRevision now =>
    discardResult
      (suspectExpiredAttempt env taskId commandId actorId reason observedRevision now)
  | .reclaimExpiredAttempt taskId commandId actorId reason observedRevision now =>
    discardResult
      (reclaimExpiredAttempt env taskId commandId actorId reason observedRevision now)
  | .settleAttempt fence outcome terminalStatus artifactRefs failure successors =>
    discardResult
      (settleAttempt env fence outcome terminalStatus artifactRefs failure successors)
  | .settleGapAndCreateMaintenance fence findingRef maintenance =>
    discardResult (settleGapAndCreateMaintenance env fence findingRef maintenance)
  | .settleMaintenanceAndRetryPlanner fence resultRef artifactRefs retryTask =>
    discardResult
      (settleMaintenanceAndRetryPlanner env fence resultRef artifactRefs retryTask)
  | .recordEffectRequested fence receipt =>
    discardResult (recordEffectRequested env fence receipt)
  | .recordEffectTerminal fence receipt => discardResult (recordEffectTerminal env fence receipt)
  | .reconcileEffect taskId receipt commandId observedRevision =>
    discardResult (reconcileEffect env taskId receipt commandId observedRevision)
  | .operatorReconcileAttempt taskId commandId actorId reason terminalStatus failure
      observedRevision artifactRefs =>
    discardResult
      (operatorReconcileAttempt env taskId commandId actorId reason terminalStatus failure
        observedRevision artifactRefs)
  | .markRecoveryPending taskId commandId actorId reason observedRevision =>
    discardResult (markRecoveryPending env taskId commandId actorId reason observedRevision)
  | .saveCheckpoint fence checkpoint => discardResult (saveCheckpoint env fence checkpoint)
  | .control taskId commandId request actorId reason observedRevision =>
    discardResult (control env taskId commandId request actorId reason observedRevision)
  | .extendBudget taskId commandId actorId reason attempts tranches observedRevision =>
    discardResult
      (extendBudget env taskId commandId actorId reason attempts tranches observedRevision)
  | .unblock taskId commandId actorId fingerprint evidence observedRevision =>
    discardResult
      (unblock env taskId commandId actorId fingerprint evidence observedRevision)
  | .resume taskId commandId actorId reason observedRevision =>
    discardResult (resume env taskId commandId actorId reason observedRevision)
  | .claimWriterLane fence => discardResult (claimWriterLane env fence)
  | .verifyWriterLane fence => verifyWriterLane fence
  | .commitAcceptedCandidate fence request successors =>
    discardResult (commitAcceptedCandidate env fence request successors)
  | .recordExternalCommit fence commitId artifactRefs effectReceipt successors =>
    discardResult
      (recordExternalCommit env fence commitId artifactRefs effectReceipt successors)
  | .reconcileExternalCommit taskId commitId effectReceipt successors artifactRefs
      observedRevision =>
    discardResult
      (reconcileExternalCommit env taskId commitId effectReceipt successors artifactRefs
        observedRevision)
  | .initializeProject manifest => discardResult (initializeProject manifest)
  | .commit request => discardResult (commitInSession env request)

/-- A command and what it observes of the outside world. -/
structure Call where
  env : Env
  command : Command

/-- One call as one transaction. -/
def step (service : Service) (db : Db) (call : Call) : Db :=
  (Transaction.atomically (perform service call.env call.command) db).2

/-- The database after a list of calls. -/
def runCalls (service : Service) (db : Db) (calls : List Call) : Db :=
  run (step service) db calls

variable (service : Service)

theorem step_of_ok (db db' : Db) (call : Call)
    (h : perform service call.env call.command db = .ok ((), db')) :
    step service db call = db' := by
  rw [step, Transaction.atomically_ok _ _ _ _ h]

variable (db : Db)

theorem step_of_error (call : Call) (e : RuntimeError)
    (h : perform service call.env call.command db = .error e) : step service db call = db := by
  rw [step, Transaction.atomically_error _ _ _ h]

theorem step_cases (call : Call) :
    (∃ e, perform service call.env call.command db = .error e ∧ step service db call = db) ∨
      ∃ db', perform service call.env call.command db = .ok ((), db') ∧
        step service db call = db' := by
  cases h : perform service call.env call.command db with
  | error e => exact .inl ⟨e, rfl, step_of_error service db call e h⟩
  | ok p => exact .inr ⟨p.2, rfl, step_of_ok service db p.2 call h⟩

end NovelAgent.Runtime
