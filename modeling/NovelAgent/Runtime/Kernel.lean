import Mathlib.Logic.Relation
import NovelAgent.Runtime.Specs

/-!
# The Kernel as a Transition System

What a command that succeeds does, without the way it goes about it.
-/

namespace NovelAgent.Runtime

open Core Domain

/-- The entry only explains why a task is blocked. -/
def IsBlockNotice (entry : Entry) : Prop :=
  ∃ failure fingerprint message ref, entry.payload = .taskBlocked failure fingerprint message ref

/-- What each command does to the record of a task whose attempt it leaves
    alone, and the entries it records for it. -/
inductive Rewrites : Command → TaskRecord → TaskRecord → List Entry → Prop
  | superseded (task : TaskRecord) (reason : String) (commandId identity : StableId)
      (hopen : task.superseded = false) (hstatus : supersedable task.status = true) :
      Rewrites (.supersedeTask task.taskId reason) task (supersededTask task reason)
        [⟨.controlRecorded
          { commandId := commandId
            action := .supersede
            actorId := "creative-runtime"
            reason := reason }, identity, []⟩]
  | decided (task : TaskRecord) (receipt : AcceptanceReceipt) (receiptRef : ArtifactRef)
      (successors : List TaskRecord) (hstatus : task.status = .waitingInput) :
      Rewrites (.completeWaitingTask task.taskId receipt receiptRef successors) task
        (decidedTask task receipt receiptRef)
        [⟨.acceptanceRecorded receipt.commandId receipt.receiptId receipt.candidate.candidateId
          receipt.candidate.candidateHash receipt.decision receipt.acceptedBy,
          receipt.idempotencyIdentity, [receiptRef]⟩]
  | suspected (task : TaskRecord) (commandId : StableId) (actorId reason : String)
      (observed : Option Nat) (now : Option Time) (hstatus : task.status = .running)
      (hcurrent : task.currentAttemptId ≠ none) :
      Rewrites (.suspectExpiredAttempt task.taskId commandId actorId reason observed now) task
        (recoveryPendingTask task)
        [⟨.controlRecorded
          { commandId := commandId
            action := .leaseExpired
            actorId := actorId
            reason := reason }, commandId, []⟩]
  | recoveryMarked (task : TaskRecord) (commandId : StableId) (actorId reason : String)
      (observed : Option Nat) (hpending : task.status ≠ .recoveryPending)
      (hsettled : ¬ (task.status = .succeeded ∨ task.status = .failed ∨ task.status = .cancelled)) :
      Rewrites (.markRecoveryPending task.taskId commandId actorId reason observed) task
        (recoveryPendingTask task)
        [⟨.controlRecorded
          { commandId := commandId
            action := .recoveryPending
            actorId := actorId
            reason := reason }, commandId, []⟩]
  | controlled (task : TaskRecord) (commandId : StableId) (request : RequestedControl)
      (action : ControlAction) (actorId reason : String) (observed : Option Nat)
      (haction : request.action? = some action)
      (hretry : request = .retry → task.currentAttemptId = none ∧ task.status = .waitingRetry) :
      Rewrites (.control task.taskId commandId request actorId reason observed) task
        (controlledTask task request)
        [⟨.controlRecorded
          { commandId := commandId
            action := action
            actorId := actorId
            reason := reason
            writerGenerationAfter := controlledGeneration task request }, commandId, []⟩]
  | extended (task : TaskRecord) (commandId : StableId) (actorId reason : String)
      (attempts tranches : Int) (observed : Option Nat) (hstatus : task.status = .budgetReview)
      (hidle : task.currentAttemptId = none) (hbudget : 0 < task.failureBudget + attempts.toNat) :
      Rewrites (.extendBudget task.taskId commandId actorId reason attempts tranches observed) task
        (extendedTask task attempts.toNat tranches.toNat)
        [⟨.controlRecorded
          { commandId := commandId
            action := .extendBudget
            actorId := actorId
            reason := reason
            additionalAttempts := attempts.toNat
            additionalPlannerMemoryTranches := tranches.toNat }, commandId, []⟩]
  | unblocked (task : TaskRecord) (commandId : StableId) (actorId fingerprint : String)
      (evidence : List ArtifactRef) (observed : Option Nat) (hstatus : task.status = .blocked) :
      Rewrites (.unblock task.taskId commandId actorId fingerprint evidence observed) task
        (unblockedTask task)
        [⟨.controlRecorded
          { commandId := commandId
            action := .unblock
            actorId := actorId
            reason := "block prerequisite changed with immutable evidence"
            writerGenerationAfter := writerGenerationAfter task }, commandId, evidence⟩]
  | resumed (task : TaskRecord) (commandId : StableId) (actorId reason : String)
      (observed : Option Nat)
      (hresumable : task.kind = .maintenance ∧ task.status = .waitingInput ∧ task.paused = false ∨
        task.paused = true ∧ task.currentAttemptId = none) :
      Rewrites (.resume task.taskId commandId actorId reason observed) task (resumedTask task)
        [⟨.controlRecorded
          { commandId := commandId
            action := .resume
            actorId := actorId
            reason := reason }, commandId, []⟩]
  | repaired (planner : TaskRecord) (fence : AttemptFence) (resultRef intentRef : ArtifactRef)
      (refs : List ArtifactRef) (retryTask : TaskRecord) (commandId identity : StableId)
      (hstatus : planner.status = .blocked) :
      Rewrites (.settleMaintenanceAndRetryPlanner fence resultRef refs retryTask) planner
        (supersededTask planner "canon extraction maintenance committed")
        [⟨.controlRecorded
          { commandId := commandId
            action := .supersede
            actorId := "memory-maintenance"
            reason := "canon extraction maintenance committed on a new basis" }, identity,
          [intentRef, resultRef]⟩]

/-- A record and its attempt before and after a command that ends it. -/
inductive Closes (env : Env) :
    Command → TaskRecord → TaskRecord → TaskAttempt → TaskAttempt → List Entry → Prop
  | reclaimed (task : TaskRecord) (attempt : TaskAttempt) (commandId identity : StableId)
      (actorId reason : String) (observed : Option Nat) (now : Option Time) :
      Closes env (.reclaimExpiredAttempt task.taskId commandId actorId reason observed now) task
        (releasedTask task) attempt
        (endedAttempt attempt (now.getD env.now) .suspended (some .workerLeaseExpired))
        [⟨.controlRecorded
            { commandId := commandId
              action := .leaseReclaim
              actorId := actorId
              reason := reason }, commandId, []⟩,
          ⟨.attemptSettled
            { attemptId := attempt.attemptId
              outcome := .suspended
              taskStatus := .waitingRetry
              failureClass := some .workerLeaseExpired
              endedAt := now.getD env.now }, identity, []⟩]
  | settled (task : TaskRecord) (attempt : TaskAttempt) (fence : AttemptFence)
      (outcome : AttemptOutcome) (terminalStatus : TaskStatus) (refs : List ArtifactRef)
      (reported : Option ReportedFailure) (successors : List TaskRecord) (failure : Option FailureClass)
      (status : TaskStatus) (notices : List Entry) (identity : StableId)
      (htask : fence.taskId = task.taskId) (hfailure : failure = normalizeFailureClass reported)
      (hstatus : status = settledStatus task failure (requestedStatus failure terminalStatus))
      (hcancel : task.cancelRequested = true → requestedStatus failure terminalStatus = .cancelled)
      (hsettleable : settleable (requestedStatus failure terminalStatus) = true)
      (hnotices : ∀ entry ∈ notices, IsBlockNotice entry) :
      Closes env (.settleAttempt fence outcome terminalStatus refs reported successors) task
        (settledTask task status failure refs) attempt
        (endedAttempt attempt env.now outcome failure)
        (notices ++ [⟨.attemptSettled
          { attemptId := attempt.attemptId
            outcome := outcome
            taskStatus := status
            failureClass := failure
            blockCause := recordedCause status failure
            terminalArtifactRefs := refs
            endedAt := env.now }, identity, refs⟩])
  | gapSettled (task : TaskRecord) (attempt : TaskAttempt) (fence : AttemptFence)
      (findingRef : ArtifactRef) (maintenance : TaskRecord) (notice : Entry) (identity : StableId)
      (htask : fence.taskId = task.taskId) (hkind : task.kind = .planCandidate)
      (hnotice : IsBlockNotice notice) :
      Closes env (.settleGapAndCreateMaintenance fence findingRef maintenance) task
        (gapBlockedTask task findingRef) attempt
        (endedAttempt attempt env.now .failed (some .canonExtractionGap))
        [notice,
          ⟨.attemptSettled
            { attemptId := attempt.attemptId
              outcome := .failed
              taskStatus := .blocked
              failureClass := some .canonExtractionGap
              blockCause := some FailureClass.canonExtractionGap.value
              terminalArtifactRefs := [findingRef]
              endedAt := env.now }, identity, [findingRef]⟩]
  | maintenanceSettled (task : TaskRecord) (attempt : TaskAttempt) (fence : AttemptFence)
      (resultRef : ArtifactRef) (refs : List ArtifactRef) (retryTask : TaskRecord)
      (identity : StableId) (htask : fence.taskId = task.taskId)
      (hkind : task.kind = .maintenance) :
      Closes env (.settleMaintenanceAndRetryPlanner fence resultRef refs retryTask) task
        (maintenanceSettledTask task (resultRef :: refs).eraseDups) attempt
        (endedAttempt attempt env.now .succeeded none)
        [⟨.attemptSettled
          { attemptId := attempt.attemptId
            outcome := .succeeded
            taskStatus := .succeeded
            terminalArtifactRefs := (resultRef :: refs).eraseDups
            endedAt := env.now }, identity, (resultRef :: refs).eraseDups⟩]
  | reconciled (task : TaskRecord) (attempt : TaskAttempt) (commandId identity : StableId)
      (actorId reason : String) (terminalStatus : TaskStatus) (given : Option FailureClass)
      (observed : Option Nat) (refs : List ArtifactRef) (decision : OperatorDecision)
      (failure : FailureClass) (status : TaskStatus) (notices : List Entry)
      (hdecision : OperatorDecision.ofStatus? terminalStatus = some decision)
      (hfailure : failure = decision.failure given)
      (hstatus : status = reconciledStatus task decision failure)
      (hnotices : ∀ entry ∈ notices, IsBlockNotice entry) :
      Closes env
        (.operatorReconcileAttempt task.taskId commandId actorId reason terminalStatus given observed
          refs) task
        (reconciledTask task status failure reason refs.eraseDups) attempt
        (endedAttempt attempt env.now decision.outcome (some failure))
        (⟨.controlRecorded
            { commandId := commandId
              action := .operatorReconcile
              actorId := actorId
              reason := reason }, commandId, refs.eraseDups⟩ ::
          (notices ++ [⟨.attemptSettled
            { attemptId := attempt.attemptId
              outcome := decision.outcome
              taskStatus := status
              failureClass := some failure
              terminalArtifactRefs := refs.eraseDups
              endedAt := env.now }, identity, refs.eraseDups⟩]))
  | committed (task : TaskRecord) (attempt : TaskAttempt) (fence : AttemptFence)
      (request : CommitRequest) (successors : List TaskRecord) (result : CommitResult)
      (notices : List Entry) (commitIdentity identity : StableId)
      (htask : fence.taskId = task.taskId) (hkind : task.kind.isCommit = true)
      (hnotices : ∀ entry ∈ notices, IsBlockNotice entry) :
      Closes env (.commitAcceptedCandidate fence request successors) task
        (commitSettledTask task (commitSettlement result) result request.bundle.producedArtifacts)
        attempt
        (endedAttempt attempt env.now (commitSettlement result).outcome
          (commitSettlement result).failure)
        (notices ++
          [⟨(commitSettlement result).event, commitIdentity, request.bundle.producedArtifacts⟩,
            ⟨.attemptSettled
              { attemptId := attempt.attemptId
                outcome := (commitSettlement result).outcome
                taskStatus := (commitSettlement result).status
                failureClass := (commitSettlement result).failure
                blockCause :=
                  if (commitSettlement result).status = .blocked then result.reason else none
                terminalArtifactRefs := request.bundle.producedArtifacts
                endedAt := env.now }, identity, request.bundle.producedArtifacts⟩])
  | externallySettled (task : TaskRecord) (attempt : TaskAttempt) (command : Command)
      (commitId : CommitId) (refs : List ArtifactRef) (commitIdentity identity : StableId)
      (hcommand :
        (∃ fence receipt successors,
          command = .recordExternalCommit fence commitId refs receipt successors ∧
            fence.taskId = task.taskId) ∨
        ∃ receipt successors observed,
          command = .reconcileExternalCommit task.taskId commitId receipt successors refs observed)
      (hkind : task.kind = .draftCommit) :
      Closes env command task (externallySettledTask task refs) attempt
        (externallyEndedAttempt attempt env.now)
        [⟨.chapterSettled commitId "stage2w.chapter_reveal_atomic", commitIdentity, refs⟩,
          ⟨.attemptSettled
            { attemptId := attempt.attemptId
              outcome := .succeeded
              taskStatus := .succeeded
              terminalArtifactRefs := refs
              endedAt := env.now }, identity, refs⟩]

/-- The commands that refuse to end an attempt with an unresolved effect. -/
def Command.checksFrontier : Command → Bool
  | .settleAttempt .. => true
  | .reclaimExpiredAttempt .. => true
  | .operatorReconcileAttempt .. => true
  | _ => false

/-- The task whose attempt a command may end without looking at its effects. -/
def Command.closesUnchecked? : Command → Option TaskId
  | .settleGapAndCreateMaintenance fence _ _ => some fence.taskId
  | .settleMaintenanceAndRetryPlanner fence _ _ _ => some fence.taskId
  | .commitAcceptedCandidate fence _ _ => some fence.taskId
  | .recordExternalCommit fence _ _ _ _ => some fence.taskId
  | .reconcileExternalCommit taskId _ _ _ _ _ => some taskId
  | _ => none

/-- The task whose attempt a command ends. -/
def Command.settles? : Command → Option TaskId
  | .settleAttempt fence _ _ _ _ _ => some fence.taskId
  | .reclaimExpiredAttempt taskId _ _ _ _ _ => some taskId
  | .operatorReconcileAttempt taskId _ _ _ _ _ _ _ => some taskId
  | command => command.closesUnchecked?

/-- The command may end an attempt with this failure. -/
def Command.SettledAs : Command → Option FailureClass → Prop
  | .settleAttempt _ _ _ _ reported _, failure => failure = normalizeFailureClass reported
  | .reclaimExpiredAttempt .., failure => failure = some .workerLeaseExpired
  | .operatorReconcileAttempt _ _ _ _ status given _ _, failure =>
    ∃ decision, OperatorDecision.ofStatus? status = some decision ∧
      failure = some (decision.failure given)
  | .settleGapAndCreateMaintenance .., failure => failure = some .canonExtractionGap
  | .commitAcceptedCandidate .., failure => ∃ result, failure = (commitSettlement result).failure
  | _, failure => failure = none

/-- The receipt that a commit made elsewhere is proved by. -/
def Command.proof? : Command → Option EffectReceipt
  | .recordExternalCommit _ _ _ receipt _ => receipt
  | .reconcileExternalCommit _ _ receipt _ _ _ => some receipt
  | _ => none

/-- The task that a command with an identity of its own names, and that identity. The identities of
    all other commands are derived from attempts and tasks. -/
def Command.signature? : Command → Option (TaskId × StableId)
  | .completeWaitingTask taskId receipt _ _ => some (taskId, receipt.idempotencyIdentity)
  | .suspectExpiredAttempt taskId commandId _ _ _ _ => some (taskId, commandId)
  | .reclaimExpiredAttempt taskId commandId _ _ _ _ => some (taskId, commandId)
  | .reconcileEffect taskId _ commandId _ => some (taskId, commandId)
  | .operatorReconcileAttempt taskId commandId _ _ _ _ _ _ => some (taskId, commandId)
  | .markRecoveryPending taskId commandId _ _ _ => some (taskId, commandId)
  | .control taskId commandId _ _ _ _ => some (taskId, commandId)
  | .extendBudget taskId commandId _ _ _ _ _ => some (taskId, commandId)
  | .unblock taskId commandId _ _ _ _ => some (taskId, commandId)
  | .resume taskId commandId _ _ _ => some (taskId, commandId)
  | _ => none

/-- The project whose canon a command may advance. -/
def Command.commitsTo? : Command → Option ProjectId
  | .commitAcceptedCandidate _ request _ => some request.projectId
  | .initializeProject manifest => some manifest.projectId
  | .commit request => some request.projectId
  | _ => none

def EffectRow.resolve (row : EffectRow) (receipt : EffectReceipt) : EffectRow :=
  { row with
    status := receipt.status
    effectJson := receipt }

/-- The effects at the moment a command ends an attempt: those it started
    with, with the proof of an external commit recorded. -/
def effectsAtClose (command : Command) (db₀ : Db) : Table StableId EffectRow :=
  match command.proof? with
  | none => db₀.effects
  | some receipt =>
    match db₀.effects.lookup receipt.effectIdentity with
    | none => db₀.effects
    | some row => db₀.effects.insert receipt.effectIdentity (row.resolve receipt)

/-- Canon answers the request with a commit: the outcome recorded under its
    idempotency key is one, or there is none yet, the request fits its bundle
    and it starts from the project's current commit. -/
def Canon.Accepts (canon : Canon) (request : CommitRequest) : Prop :=
  match canon.receipts.lookup (request.projectId, request.idempotencyKey) with
  | some existing => existing.status = .accepted
  | none => invalidReason request = none ∧
      canon.projects.lookup request.projectId = some (some request.baseCommit)

/-- One change of the store by a command that was called in `db₀`. -/
inductive Move (env : Env) (command : Command) (db₀ : Db) : Db → Db → Prop
  | created (db : Db) (task : TaskRecord) (entry : Entry) (events : List RunEvent)
      (habsent : db.tasks.lookup task.taskId = none)
      (hcurrent : task.currentAttemptId = none ∨ command = .createTask task ∨
        ∃ planner, db₀.stored planner.taskId = some planner ∧ planner.status = .blocked ∧
          task.currentAttemptId = planner.currentAttemptId)
      (hlater : command.signature? = none ∨ db₀.log.events.length < db.log.events.length)
      (hentry : entry.payload = .taskCreated task)
      (hrecords : Records db.log task.runId task.taskId [entry] events) :
      Move env command db₀ db ((db.record events).putTask task.taskId (insertedRow task))
  | rewritten (db : Db) (row : TaskRow) (task : TaskRecord) (entries : List Entry)
      (events : List RunEvent)
      (hrow : db.tasks.lookup row.taskJson.taskId = some row)
      (hstart : db₀.stored row.taskJson.taskId = some row.taskJson)
      (hrewrites : Rewrites command row.taskJson task entries)
      (hrecords : Records db.log row.taskJson.runId row.taskJson.taskId entries events)
      (hrepair : ∀ fence resultRef refs retryTask,
        command = .settleMaintenanceAndRetryPlanner fence resultRef refs retryTask →
        ∃ maintenance, db₀.stored fence.taskId = some maintenance ∧
          maintenance.taskId = fence.taskId ∧ maintenance.currentAttemptId ≠ none) :
      Move env command db₀ db
        ((db.putTask row.taskJson.taskId (row.overwrite task)).record events)
  | opened (db : Db) (row : TaskRow) (attempt : TaskAttempt) (fenceDigest : ContentHash)
      (identity : StableId) (events : List RunEvent) (workerId : String) (observed : Option Nat)
      (hrow : db.tasks.lookup row.taskJson.taskId = some row)
      (hstart : db₀.stored row.taskJson.taskId = some row.taskJson)
      (hcommand : command = .claim row.taskJson.taskId workerId observed)
      (hready : row.taskJson.status = .ready) (hidle : row.taskJson.currentAttemptId = none)
      (hbudget : row.taskJson.failureBudget ≠ 0)
      (habsent : db.attempts.lookup attempt.attemptId = none)
      (htask : attempt.taskId = row.taskJson.taskId) (hopen : attempt.endedAt = none)
      (hrecords : Records db.log row.taskJson.runId row.taskJson.taskId
        [⟨.taskClaimed attempt fenceDigest, identity, []⟩] events) :
      Move env command db₀ db
        (((db.putTask row.taskJson.taskId
          (row.overwrite (claimedTask row.taskJson attempt.attemptId))).putAttempt
            attempt.attemptId (insertedAttemptRow attempt)).record events)
  | touched (db : Db) (row : TaskRow) (arow : AttemptRow) (attempt : TaskAttempt)
      (entries : List Entry) (events : List RunEvent) (hunsigned : command.signature? = none)
      (hrow : db.tasks.lookup row.taskJson.taskId = some row)
      (hcurrent : row.taskJson.currentAttemptId = some arow.attemptJson.attemptId)
      (harow : db.attempts.lookup arow.attemptJson.attemptId = some arow)
      (hid : attempt.attemptId = arow.attemptJson.attemptId)
      (htask : attempt.taskId = arow.attemptJson.taskId)
      (hended : attempt.endedAt = arow.attemptJson.endedAt)
      (hentries : entries = [] ∨ ∃ workerId startedAt identity,
        entries = [⟨.attemptStarted attempt.attemptId workerId startedAt, identity, []⟩])
      (hrecords : Records db.log row.taskJson.runId row.taskJson.taskId entries events) :
      Move env command db₀ db
        ((db.putAttempt arow.attemptJson.attemptId (arow.overwrite attempt)).record events)
  | closed (db : Db) (row : TaskRow) (task : TaskRecord) (arow : AttemptRow)
      (attempt : TaskAttempt) (entries : List Entry) (events : List RunEvent)
      (hrow : db.tasks.lookup row.taskJson.taskId = some row)
      (hstart : db₀.stored row.taskJson.taskId = some row.taskJson)
      (hcurrent : row.taskJson.currentAttemptId = some arow.attemptJson.attemptId)
      (harow : db.attempts.lookup arow.attemptJson.attemptId = some arow)
      (hcloses : Closes env command row.taskJson task arow.attemptJson attempt entries)
      (heffects : db.effects = effectsAtClose command db₀)
      (hfrontier : command.checksFrontier = true →
        db₀.hasUnresolvedEffect arow.attemptJson.attemptId = false)
      (hrecords : Records db.log row.taskJson.runId row.taskJson.taskId entries events)
      (haccepted : ∀ fence request successors,
        command = .commitAcceptedCandidate fence request successors →
        task.status = .succeeded → db₀.canon.Accepts request) :
      Move env command db₀ db
        (((db.putAttempt arow.attemptJson.attemptId (arow.overwrite attempt)).putTask
          row.taskJson.taskId (row.overwrite task)).record events)
  | requested (db : Db) (row : TaskRow) (erow : EffectRow) (receipt : EffectReceipt)
      (identity : StableId) (events : List RunEvent) (hunsigned : command.signature? = none)
      (hrow : db.tasks.lookup row.taskJson.taskId = some row)
      (hcurrent : row.taskJson.currentAttemptId = some erow.attemptId)
      (hagrees : erow.status = erow.effectJson.status)
      (habsent : db.effects.lookup receipt.effectIdentity = none)
      (hrecords : Records db.log row.taskJson.runId row.taskJson.taskId
        [⟨.effectRequested receipt row.taskJson.taskId erow.attemptId, identity, []⟩] events)
      (hjson : erow.effectJson = receipt) :
      Move env command db₀ db ((db.putEffect receipt.effectIdentity erow).record events)
  | resolved (db : Db) (row : TaskRow) (erow : EffectRow) (receipt : EffectReceipt)
      (identity : StableId) (refs : List ArtifactRef) (events : List RunEvent) (hfirst : db = db₀)
      (hrow : db.tasks.lookup row.taskJson.taskId = some row)
      (herow : db.effects.lookup receipt.effectIdentity = some erow)
      (hstatus : receipt.status ≠ .requested)
      (howner :
        (∃ observed, command = .reconcileEffect row.taskJson.taskId receipt identity observed) ∨
        command.signature? = none ∧
          (row.taskJson.currentAttemptId = some erow.attemptId ∨ receipt.status = .completed))
      (hrecords : Records db.log row.taskJson.runId row.taskJson.taskId
        [⟨.effectTerminal receipt row.taskJson.taskId erow.attemptId, identity, refs⟩] events) :
      Move env command db₀ db
        ((db.putEffect receipt.effectIdentity (erow.resolve receipt)).record events)
  | laneTaken (db : Db) (row : TaskRow) (attempt : TaskAttempt) (fence : AttemptFence)
      (generation : Nat) (identity : StableId) (events : List RunEvent) (hfirst : db = db₀)
      (hrow : db.tasks.lookup row.taskJson.taskId = some row)
      (hstart : db₀.stored row.taskJson.taskId = some row.taskJson)
      (hcommand : command = .claimWriterLane fence)
      (hcurrent : row.taskJson.currentAttemptId = some attempt.attemptId)
      (harow : ∃ arow, db.attempts.lookup attempt.attemptId = some arow)
      (hgeneration : generation = match db.writerClaims.lookup row.taskJson.projectId with
        | none => 1
        | some writer => writer.generation + 1)
      (hrecords : Records db.log row.taskJson.runId row.taskJson.taskId
        [⟨.writerClaimed attempt.attemptId generation, identity, []⟩] events) :
      Move env command db₀ db
        (((db.putWriterClaim row.taskJson.projectId
          { runId := row.taskJson.runId
            taskId := row.taskJson.taskId
            attemptId := attempt.attemptId
            generation := generation }).putTask row.taskJson.taskId
              (row.overwrite (laneHolderTask row.taskJson generation))).record events)
  | advanced (db : Db) (canon : Canon) (hunsigned : command.signature? = none)
      (hproject : ∀ q, command.commitsTo? ≠ some q →
        canon.projects.lookup q = db.canon.projects.lookup q) :
      Move env command db₀ db { db with canon := canon }
  | checkpointed (db : Db) (row : TaskRow) (attemptId : StableId) (checkpoint : RunCheckpoint)
      (crow : CheckpointRow) (identity : StableId) (refs : List ArtifactRef)
      (events : List RunEvent) (hunsigned : command.signature? = none)
      (hrow : db.tasks.lookup row.taskJson.taskId = some row)
      (hrecords : Records db.log row.taskJson.runId row.taskJson.taskId
        [⟨.checkpointSaved checkpoint row.taskJson.taskId attemptId, identity, refs⟩] events) :
      Move env command db₀ db
        ({ db with
          checkpoints := db.checkpoints.insert checkpoint.checkpointId crow }.record events)

/-- The changes of a whole command. -/
abbrev Moves (env : Env) (command : Command) (db₀ : Db) : Db → Db → Prop :=
  Relation.ReflTransGen (Move env command db₀)

variable {env : Env} {command : Command}

/-- What every move keeps, a command keeps. -/
theorem Moves.invariant {db₀ db' : Db} (Inv : Db → Prop)
    (hmove : ∀ db db', Move env command db₀ db db' → Inv db → Inv db')
    (h : Moves env command db₀ db₀ db') (hinv : Inv db₀) : Inv db' := by
  induction h with
  | refl => exact hinv
  | tail _ hlast ih => exact hmove _ _ hlast ih

variable {db₀ db db' : Db}

/-- Every move appends to the log. -/
theorem Move.log_eq (h : Move env command db₀ db db') :
    db'.log = db.log ∨ ∃ runId taskId entries events,
      Records db.log runId taskId entries events ∧ db'.log = db.log.pushAll events := by
  cases h with
  | advanced => exact .inl rfl
  | _ => exact .inr ⟨_, _, _, _, ‹Records _ _ _ _ _›, rfl⟩

/-- Rows are stored under the identities their records carry, columns that
    never change agree with the record, and the log is numbered. -/
structure Coherent (db : Db) : Prop where
  taskKey : ∀ k row, db.tasks.lookup k = some row → row.taskJson.taskId = k
  attemptKey : ∀ k row, db.attempts.lookup k = some row → row.attemptJson.attemptId = k
  attemptTask : ∀ k row, db.attempts.lookup k = some row → row.attemptJson.taskId = row.taskId
  numbered : db.log.Numbered

theorem FenceValid.rows {db : Db} {fence : AttemptFence} {lane : Bool} {owned : Owned}
    (h : FenceValid db fence lane owned) (hdb : Coherent db) :
    ∃ row arow, db.tasks.lookup row.taskJson.taskId = some row ∧
      db.attempts.lookup arow.attemptJson.attemptId = some arow ∧
      row.taskJson.currentAttemptId = some arow.attemptJson.attemptId ∧
      fence.taskId = row.taskJson.taskId ∧ fence.attemptId = arow.attemptJson.attemptId ∧
      owned = ⟨row.taskJson, arow.attemptJson⟩ := by
  rcases h.task with ⟨row, hrow, htask⟩
  rcases h.attempt with ⟨arow, harow, hattempt⟩
  have hkey := hdb.taskKey _ _ hrow
  have hakey := hdb.attemptKey _ _ harow
  have hcurrent := h.current
  rw [← htask, ← hakey] at hcurrent
  exact ⟨row, arow, by rw [hkey, hrow], by rw [hakey, harow], hcurrent, hkey.symm, hakey.symm,
    by rw [htask, hattempt]⟩

variable {task task' : TaskRecord} {entries : List Entry}

theorem Rewrites.taskId_eq (h : Rewrites command task task' entries) :
    task'.taskId = task.taskId := by
  cases h <;> rfl

variable {attempt attempt' : TaskAttempt}

section

variable (h : Closes env command task task' attempt attempt' entries)

include h

theorem Closes.taskId_eq : task'.taskId = task.taskId := by
  cases h <;> rfl

theorem Closes.attempt_eq :
    attempt'.attemptId = attempt.attemptId ∧ attempt'.taskId = attempt.taskId ∧
      attempt'.endedAt ≠ none := by
  cases h <;> exact ⟨rfl, rfl, Option.some_ne_none _⟩

theorem Closes.current_eq : task'.currentAttemptId = none := by
  cases h <;> rfl

/-- A command that ends an attempt records its settlement. -/
theorem Closes.settlement : ∃ entry ∈ entries, ∃ settled, entry.payload = .attemptSettled settled ∧
    settled.attemptId = attempt.attemptId ∧ command.SettledAs settled.failureClass := by
  have hlast : ∀ (before : List Entry) (last : Entry), last ∈ before ++ [last] :=
    fun before last => List.mem_append_right before (List.mem_singleton_self last)
  cases h with
  | reclaimed => exact ⟨_, hlast [_] _, _, rfl, rfl, rfl⟩
  | settled _ _ _ _ _ _ _ _ failure _ _ _ _ hfailure => exact ⟨_, hlast _ _, _, rfl, rfl, hfailure⟩
  | gapSettled => exact ⟨_, hlast [_] _, _, rfl, rfl, rfl⟩
  | maintenanceSettled => exact ⟨_, hlast [] _, _, rfl, rfl, rfl⟩
  | reconciled _ _ _ _ _ _ _ _ _ _ decision _ _ _ hdecision hfailure =>
    exact ⟨_, hlast (_ :: _) _, _, rfl, rfl, decision, hdecision, congrArg some hfailure⟩
  | committed _ _ _ _ _ result =>
    exact ⟨_, List.mem_append_right _ (hlast [_] _), _, rfl, rfl, result, rfl⟩
  | externallySettled _ _ _ _ _ _ _ hcommand =>
    refine ⟨_, hlast [_] _, _, rfl, rfl, ?_⟩
    rcases hcommand with ⟨_, _, _, rfl, _⟩ | ⟨_, _, _, rfl⟩ <;> rfl

end

theorem Rewrites.current_eq (h : Rewrites command task task' entries) :
    task'.currentAttemptId = task.currentAttemptId := by
  cases h <;> rfl

def Db.Ended (db : Db) (attemptId : StableId) : Prop :=
  ∃ row, db.attempts.lookup attemptId = some row ∧ row.attemptJson.endedAt ≠ none

/-- What has ended stays so. -/
theorem Move.ended {attemptId : StableId} (h : Move env command db₀ db db')
    (hended : db.Ended attemptId) : db'.Ended attemptId := by
  rcases hended with ⟨row, hrow, hend⟩
  cases h with
  | opened _ attempt _ _ _ _ _ _ _ _ _ _ _ habsent =>
    refine ⟨row, ?_, hend⟩
    change (db.attempts.insert _ _).lookup _ = _
    rw [Table.lookup_insert_if, if_neg, hrow]
    rintro rfl
    rw [habsent] at hrow
    exact absurd hrow (by simp)
  | touched _ arow attempt _ _ _ _ _ harow _ _ hsame =>
    change ∃ row, (db.attempts.insert _ _).lookup _ = _ ∧ _
    rw [Table.lookup_insert_if]
    split
    · rename_i hk
      rw [hk, harow, Option.some.injEq] at hrow
      rw [← hrow, ← hsame] at hend
      exact ⟨_, rfl, hend⟩
    · exact ⟨row, hrow, hend⟩
  | closed _ _ arow attempt _ _ _ _ _ _ hcloses =>
    change ∃ row, (db.attempts.insert _ _).lookup _ = _ ∧ _
    rw [Table.lookup_insert_if]
    split
    · exact ⟨_, rfl, hcloses.attempt_eq.2.2⟩
    · exact ⟨row, hrow, hend⟩
  | _ => exact ⟨row, hrow, hend⟩

theorem Moves.ended {attemptId : StableId} (h : Moves env command db₀ db db')
    (hended : db.Ended attemptId) : db'.Ended attemptId := by
  induction h with
  | refl => exact hended
  | tail _ hlast ih => exact hlast.ended ih

/-- The attempt that the task was running has ended. -/
def Db.EndsCurrent (db db' : Db) (taskId : TaskId) : Prop :=
  ∀ task a, db.stored taskId = some task → task.currentAttemptId = some a → db'.Ended a

theorem Db.EndsCurrent.of_row {row : TaskRow} {a : StableId}
    (hrow : db.tasks.lookup row.taskJson.taskId = some row)
    (hcurrent : row.taskJson.currentAttemptId = some a) (hended : db'.Ended a) :
    db.EndsCurrent db' row.taskJson.taskId := by
  intro task other htask hother
  rw [Db.stored, hrow, Option.map_some, Option.some.injEq] at htask
  rw [← htask, hcurrent, Option.some.injEq] at hother
  rwa [← hother]

theorem Db.EndsCurrent.of_idle {row : TaskRow} {taskId : TaskId}
    (hrow : db.tasks.lookup taskId = some row) (hidle : row.taskJson.currentAttemptId = none) :
    db.EndsCurrent db' taskId := by
  intro task a htask ha
  rw [Db.stored, hrow, Option.map_some, Option.some.injEq] at htask
  rw [← htask, hidle] at ha
  exact absurd ha (by simp)

/-- An attempt stays with its task. -/
theorem Move.attempt_task {a : StableId} {taskId : TaskId} (h : Move env command db₀ db db')
    (ha : ∃ arow, db.attempts.lookup a = some arow ∧ arow.attemptJson.taskId = taskId) :
    ∃ arow, db'.attempts.lookup a = some arow ∧ arow.attemptJson.taskId = taskId := by
  rcases ha with ⟨arow, harow, htask⟩
  -- An overwritten attempt keeps its task; the others are still there.
  have hinsert : ∀ k row, (a = k → row.attemptJson.taskId = taskId) →
      ∃ found, (db.attempts.insert k row).lookup a = some found ∧
        found.attemptJson.taskId = taskId := by
    intro k row hsame
    rw [Table.lookup_insert_if]
    split
    · rename_i hk
      exact ⟨row, rfl, hsame hk⟩
    · exact ⟨arow, harow, htask⟩
  cases h with
  | opened row attempt _ _ _ _ _ _ _ _ _ _ _ habsent =>
    refine hinsert _ _ ?_
    rintro rfl
    rw [habsent] at harow
    exact absurd harow (by simp)
  | touched _ other attempt _ _ _ _ _ hother _ hkeeps =>
    refine hinsert _ _ ?_
    rintro rfl
    rw [hother, Option.some.injEq] at harow
    rw [← harow] at htask
    exact hkeeps.trans htask
  | closed _ _ other attempt _ _ _ _ _ hother hcloses =>
    refine hinsert _ _ ?_
    rintro rfl
    rw [hother, Option.some.injEq] at harow
    rw [← harow] at htask
    exact hcloses.attempt_eq.2.1.trans htask
  | _ => exact ⟨arow, harow, htask⟩

/-- Canon is left alone. -/
theorem Move.canon_eq {q : ProjectId} (h : Move env command db₀ db db')
    (hcommand : command.commitsTo? ≠ some q) :
    db'.canon.projects.lookup q = db.canon.projects.lookup q := by
  cases h with
  | advanced canon hunsigned hproject => exact hproject q hcommand
  | _ => rfl

/-- Every move keeps the store coherent. -/
theorem Move.coherent (h : Move env command db₀ db db') (hdb : Coherent db) : Coherent db' := by
  cases h with
  | created task entry events habsent hcurrent hlater hentry hrecords =>
    refine ⟨?_, hdb.attemptKey, hdb.attemptTask,
      Records.numbered _ _ _ _ _ hrecords hdb.numbered⟩
    exact Table.forall_lookup_insert hdb.taskKey rfl
  | rewritten row task entries events hrow hstart hrewrites hrecords =>
    refine ⟨?_, hdb.attemptKey, hdb.attemptTask,
      Records.numbered _ _ _ _ _ hrecords hdb.numbered⟩
    exact Table.forall_lookup_insert hdb.taskKey hrewrites.taskId_eq
  | opened row attempt fenceDigest identity events workerId observed hrow hstart hcommand hready
      hidle hbudget habsent htask hopen hrecords =>
    refine ⟨?_, ?_, ?_, Records.numbered _ _ _ _ _ hrecords hdb.numbered⟩
    · exact Table.forall_lookup_insert hdb.taskKey rfl
    · exact Table.forall_lookup_insert hdb.attemptKey rfl
    · exact Table.forall_lookup_insert hdb.attemptTask rfl
  | touched row arow attempt entries events hunsigned hrow hcurrent harow hid htask hended hentries
      hrecords =>
    refine ⟨hdb.taskKey, ?_, ?_, Records.numbered _ _ _ _ _ hrecords hdb.numbered⟩
    · exact Table.forall_lookup_insert hdb.attemptKey hid
    · exact Table.forall_lookup_insert hdb.attemptTask (htask.trans (hdb.attemptTask _ _ harow))
  | closed row task arow attempt entries events hrow hstart hcurrent harow hcloses heffects hfrontier
      hrecords =>
    refine ⟨?_, ?_, ?_, Records.numbered _ _ _ _ _ hrecords hdb.numbered⟩
    · exact Table.forall_lookup_insert hdb.taskKey hcloses.taskId_eq
    · exact Table.forall_lookup_insert hdb.attemptKey hcloses.attempt_eq.1
    · exact Table.forall_lookup_insert hdb.attemptTask
        (hcloses.attempt_eq.2.1.trans (hdb.attemptTask _ _ harow))
  | requested row erow receipt identity events hunsigned hrow hcurrent hagrees habsent hrecords =>
    exact ⟨hdb.taskKey, hdb.attemptKey, hdb.attemptTask,
      Records.numbered _ _ _ _ _ hrecords hdb.numbered⟩
  | resolved row erow receipt identity refs events hfirst hrow herow hstatus howner hrecords =>
    exact ⟨hdb.taskKey, hdb.attemptKey, hdb.attemptTask,
      Records.numbered _ _ _ _ _ hrecords hdb.numbered⟩
  | laneTaken row attempt fence generation identity events hfirst hrow hstart hcommand hcurrent harow
      hgeneration hrecords =>
    refine ⟨?_, hdb.attemptKey, hdb.attemptTask,
      Records.numbered _ _ _ _ _ hrecords hdb.numbered⟩
    exact Table.forall_lookup_insert hdb.taskKey rfl
  | advanced canon hunsigned hproject => exact ⟨hdb.taskKey, hdb.attemptKey, hdb.attemptTask, hdb.numbered⟩
  | checkpointed row attemptId checkpoint crow identity refs events hunsigned hrow hrecords =>
    exact ⟨hdb.taskKey, hdb.attemptKey, hdb.attemptTask,
      Records.numbered _ _ _ _ _ hrecords hdb.numbered⟩

end NovelAgent.Runtime
