import NovelAgent.Runtime.EventLog

/-!
# The Replay Projector

The pure projector that rebuilds the task records of a run from its events.
-/

namespace NovelAgent.Runtime

open Core Domain

/-- What a replay has rebuilt. -/
structure ProjectionState where
  tasks : Table TaskId TaskRecord
  attempts : Table StableId TaskAttempt
  effects : Table StableId EffectReceipt

/-- The loop of a replay: the state, the next sequence number and the run. -/
structure ReplayLoop where
  state : ProjectionState
  expectedSequence : Nat
  activeRun : Option RunId

/-- What a replay may raise. -/
inductive ReplayError
  | streamNotContiguous
  | duplicateTaskCreation
  | unknownAttempt (attemptId : StableId)

def projectClaimed (task : TaskRecord) (attempt : TaskAttempt) : TaskRecord :=
  { task with
    status := .running
    currentAttemptId := some attempt.attemptId
    taskRevision := task.taskRevision + 1 }

/-- One record after a settlement. -/
def projectSettled (task : TaskRecord) (settled : AttemptSettled) : TaskRecord :=
  { task with
    status := settled.taskStatus
    currentAttemptId := none
    terminalArtifactRefs := settled.terminalArtifactRefs
    blockCause := settled.blockCause
    failureBudget := task.failureBudget -
      if consumesTaskBudget settled.failureClass = true then 1 else 0
    taskRevision := task.taskRevision + 1 }

def projectAcceptance (task : TaskRecord) (decision : AcceptanceDecision)
    (artifactRefs : List ArtifactRef) : TaskRecord :=
  { task with
    status := if decision = .accept then .succeeded else .cancelled
    terminalArtifactRefs := artifactRefs
    taskRevision := task.taskRevision + 1 }

def projectedStatus (task : TaskRecord) (intent : ControlIntent) : TaskStatus :=
  match intent.action with
  | .pause => if task.currentAttemptId = none then .pending else task.status
  | .resume => if 0 < task.failureBudget then .ready else .budgetReview
  | .cancel => if task.currentAttemptId = none then .cancelled else .recoveryPending
  | .retry => if 0 < task.failureBudget then .ready else .budgetReview
  | .unblock => if 0 < task.failureBudget then .ready else .budgetReview
  | .extendBudget =>
    if 0 < task.failureBudget + intent.additionalAttempts then .ready else .budgetReview
  | .recoveryPending => .recoveryPending
  | _ => task.status

/-- One record after a control. -/
def projectControl (task : TaskRecord) (intent : ControlIntent) : TaskRecord :=
  if intent.action = .operatorReconcile then task
  else { task with
    status := projectedStatus task intent
    paused :=
      if intent.action = .pause ∨ intent.action = .cancel then true
      else if intent.action = .resume then false
      else task.paused
    cancelRequested :=
      if intent.action = .cancel then true
      else if intent.action = .resume then false
      else task.cancelRequested
    blockCause := if intent.action = .unblock then none else task.blockCause
    failureBudget :=
      if intent.action = .extendBudget then task.failureBudget + intent.additionalAttempts
      else task.failureBudget
    plannerMemoryBudgetExtensions :=
      if intent.action = .extendBudget then
        task.plannerMemoryBudgetExtensions + intent.additionalPlannerMemoryTranches
      else task.plannerMemoryBudgetExtensions
    writerGeneration := intent.writerGenerationAfter.getD task.writerGeneration
    taskRevision := task.taskRevision + 1 }

/-- The record of a task after a writer-lane event. -/
def projectWriterClaimed (task : TaskRecord) (writerGeneration : Nat) : TaskRecord :=
  { task with
    writerGeneration := writerGeneration
    taskRevision := task.taskRevision + 1 }

def projectTask (task : TaskRecord) (payload : EventPayload) (artifactRefs : List ArtifactRef) :
    TaskRecord :=
  match payload with
  | .taskClaimed attempt _ => projectClaimed task attempt
  | .attemptSettled settled => projectSettled task settled
  | .acceptanceRecorded _ _ _ _ decision _ => projectAcceptance task decision artifactRefs
  | .controlRecorded intent => projectControl task intent
  | .writerClaimed _ generation => projectWriterClaimed task generation
  | _ => task

def projectAttempts (attempts : Table StableId TaskAttempt) :
    EventPayload → Except ReplayError (Table StableId TaskAttempt)
  | .taskClaimed attempt _ => .ok (attempts.insert attempt.attemptId attempt)
  | .attemptStarted attemptId _ startedAt =>
    match attempts.lookup attemptId with
    | none => .error (.unknownAttempt attemptId)
    | some attempt => .ok (attempts.insert attemptId { attempt with startedAt := some startedAt })
  | .attemptSettled settled =>
    match attempts.lookup settled.attemptId with
    | none => .error (.unknownAttempt settled.attemptId)
    | some attempt => .ok (attempts.insert settled.attemptId { attempt with
        endedAt := some settled.endedAt
        outcome := some settled.outcome
        failureClass := settled.failureClass })
  | _ => .ok attempts

/-- The effects after one event of a known task. -/
def projectEffects (effects : Table StableId EffectReceipt) :
    EventPayload → Table StableId EffectReceipt
  | .effectRequested effect _ _ => effects.insert effect.effectIdentity effect
  | .effectTerminal effect _ _ => effects.insert effect.effectIdentity effect
  | _ => effects

def projectState (state : ProjectionState) (event : RunEvent) :
    Except ReplayError ProjectionState :=
  match event.payload with
  | .taskCreated task =>
    if (state.tasks.lookup task.taskId).isSome then .error .duplicateTaskCreation
    else .ok { state with tasks := state.tasks.insert task.taskId task }
  | payload =>
    match event.taskId with
    | none => .ok state
    | some taskId =>
      match state.tasks.lookup taskId with
      | none => .ok state
      | some task => do
          let attempts ← projectAttempts state.attempts payload
          .ok
            { tasks := state.tasks.insert taskId (projectTask task payload event.artifactRefs)
              attempts := attempts
              effects := projectEffects state.effects payload }

/-- One round of the loop. -/
def projectEvent (loop : ReplayLoop) (event : RunEvent) : Except ReplayError ReplayLoop :=
  if loop.activeRun.any (· ≠ event.runId) ∨ event.sequenceNo ≠ loop.expectedSequence then
    .error .streamNotContiguous
  else do
    let state ← projectState loop.state event
    .ok
      { state := state
        expectedSequence := loop.expectedSequence + 1
        activeRun := some event.runId }

def ReplayLoop.start : ReplayLoop where
  state := { tasks := ∅, attempts := ∅, effects := ∅ }
  expectedSequence := 1
  activeRun := none

/-- The projection of a stream. -/
def projectRuntimeEvents (events : List RunEvent) : Except ReplayError ProjectionState :=
  (events.foldlM projectEvent ReplayLoop.start).map ReplayLoop.state

end NovelAgent.Runtime
