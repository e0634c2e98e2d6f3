import NovelAgent.Runtime.Commits
import NovelAgent.Runtime.Commands.Control

/-!
# Writer Lane and Commit Commands

The one lane through which a project's canon is written.
-/

namespace NovelAgent.Runtime

open Core Domain
open Core.Transaction (raiseWhen fromOption)

/-- The lane is held by the running attempt that its row names. -/
def laneIsActive (db : Db) (row : WriterClaimRow) : Bool :=
  (db.tasks.lookup row.taskId).any fun owner =>
    owner.status = .running ∧ owner.currentAttemptId = some row.attemptId

def laneHolderTask (task : TaskRecord) (generation : Nat) : TaskRecord :=
  { task with
    writerGeneration := generation
    taskRevision := task.taskRevision + 1 }

/-- Pass the lane to an attempt under the next generation. -/
def takeWriterLane (env : Env) (fence : AttemptFence) (task : TaskRecord) (attempt : TaskAttempt)
    (generation : Nat) : Tx AttemptFence := do
  modify fun db => { db with
    writerClaims := db.writerClaims.insert task.projectId
      { runId := task.runId
        taskId := task.taskId
        attemptId := attempt.attemptId
        generation := generation } }
  updateTask (laneHolderTask task generation)
  let identity ← stableId (attempt.attemptId.root ++ ".writer." ++ toString generation)
  append env task.runId task.taskId (.writerClaimed attempt.attemptId generation) identity []
  pure { fence with writerGeneration := generation }

/-- Issue the lane to an attempt. -/
def claimWriterLane (env : Env) (fence : AttemptFence) : Tx AttemptFence := do
  let owned ← requireFence fence false
  let task := owned.task
  let attempt := owned.attempt
  raiseWhen (task.kind.isCommit = false ∧ task.kind ≠ .maintenance)
    (.commandConflict "only commit tasks or maintenance tasks may claim the writer lane")
  let db ← get
  match db.writerClaims.lookup task.projectId with
  | none => takeWriterLane env fence task attempt 1
  | some row =>
    if row.taskId = task.taskId ∧ row.attemptId = attempt.attemptId then
      pure { fence with writerGeneration := row.generation }
    else
      raiseWhen (laneIsActive db row = true)
        (.writerLaneBusy "project writer lane is already held by an active attempt")
      takeWriterLane env fence task attempt (row.generation + 1)

/-- The attempt still holds the lane it claimed. -/
def verifyWriterLane (fence : AttemptFence) : Tx Unit := do
  let owned ← requireFence fence true
  let task := owned.task
  let attempt := owned.attempt
  let db ← get
  raiseWhen (¬ (db.writerClaims.lookup task.projectId).any fun row =>
      row.attemptId = attempt.attemptId ∧ row.generation = task.writerGeneration)
    (.staleAttemptFence "attempt no longer owns the project writer lane")

/-- How a commit result settles the attempt that asked for it. -/
structure CommitSettlement where
  status : TaskStatus
  outcome : AttemptOutcome
  failure : Option FailureClass
  event : EventPayload

def commitSettlement (result : CommitResult) : CommitSettlement :=
  match result.status with
  | .accepted => ⟨.succeeded, .succeeded, none, .commitAccepted result⟩
  | .conflicted => ⟨.blocked, .failed, some .commitConflict, .commitRejected result⟩
  | .rejected => ⟨.blocked, .failed, some .validationRejected, .commitRejected result⟩

def commitSettledTask (task : TaskRecord) (settlement : CommitSettlement) (result : CommitResult)
    (refs : List ArtifactRef) : TaskRecord :=
  { task with
    taskRevision := task.taskRevision + 1
    status := settlement.status
    currentAttemptId := none
    terminalArtifactRefs := refs
    failureBudget := remainingBudget task settlement.failure
    blockCause := if settlement.status = .blocked then result.reason else task.blockCause }

/-- The successors of an accepted commit start on the new commit. -/
def insertCommitSuccessors (env : Env) (settled : TaskRecord) (successors : List TaskRecord)
    (result : CommitResult) : Tx Unit :=
  if result.status = .accepted then
    insertSuccessorTasks env settled successors result.commitId
  else
    pure ()

/-- Advance canon for an accepted candidate and settle the attempt. -/
def commitAcceptedCandidate (env : Env) (fence : AttemptFence) (request : CommitRequest)
    (successors : List TaskRecord) : Tx CommitResult := do
  let owned ← requireFence fence true
  let task := owned.task
  let attempt := owned.attempt
  raiseWhen (task.kind.isCommit = false) (.commandConflict "only a commit task may advance Canon")
  let db ← get
  raiseWhen (¬ (db.writerClaims.lookup task.projectId).any fun writer =>
      writer.attemptId = attempt.attemptId ∧ writer.generation = fence.writerGeneration)
    (.staleAttemptFence "attempt lost the project writer lane")
  raiseWhen (request.projectId ≠ task.projectId ∨ request.baseCommit ≠ task.basisCommit)
    (.commandConflict "commit request differs from task basis")
  let result ← commitInSession env request
  let settlement := commitSettlement result
  let refs := request.bundle.producedArtifacts
  let settled := commitSettledTask task settlement result refs
  updateAttempt (endedAttempt attempt env.now settlement.outcome settlement.failure)
  updateTask settled
  recordBlocked env task attempt settlement.status result.reason
    (settlement.failure.getD .validationRejected)
  let commitIdentity ← stableId (attempt.attemptId.root ++ ".commit")
  append env task.runId task.taskId settlement.event commitIdentity refs
  let settledIdentity ← stableId (attempt.attemptId.root ++ ".settled")
  append env task.runId task.taskId
    (.attemptSettled
      { attemptId := attempt.attemptId
        outcome := settlement.outcome
        taskStatus := settlement.status
        failureClass := settlement.failure
        blockCause := if settlement.status = .blocked then result.reason else none
        terminalArtifactRefs := refs
        endedAt := env.now }) settledIdentity refs
  insertCommitSuccessors env settled successors result
  pure result

/-- The receipt that proves an external commit, recorded as the effect's outcome. -/
def recordSettlementEffect (env : Env) (task : TaskRecord) (attempt : TaskAttempt)
    (commitId : CommitId) (receipt : EffectReceipt) : Tx Unit := do
  raiseWhen (receipt.status ≠ .completed ∨ receipt.providerRequestId ≠ some commitId.root)
    (.commandConflict "Chapter Settlement effect does not prove the accepted commit")
  let db ← get
  let row ← fromOption (.commandConflict "Chapter Settlement effect belongs to another Attempt")
    (db.effects.lookup receipt.effectIdentity)
  raiseWhen (row.attemptId ≠ attempt.attemptId)
    (.commandConflict "Chapter Settlement effect belongs to another Attempt")
  raiseWhen (¬ sameRequest row.effectJson receipt)
    (.commandConflict "Chapter Settlement effect identity changed")
  updateEffect row receipt
  let identity ← boundedRuntimeIdentity
    [receipt.effectIdentity.root ++ "." ++ receipt.status.value,
      attempt.attemptId.root ++ ".effect-" ++ receipt.status.value]
  append env task.runId task.taskId
    (.effectTerminal receipt task.taskId attempt.attemptId) identity
    receipt.resultArtifactRef.toList

/-- The proof of an external commit, where the caller has one. -/
def recordProof (env : Env) (task : TaskRecord) (attempt : TaskAttempt) (commitId : CommitId) :
    Option EffectReceipt → Tx Unit
  | none => pure ()
  | some receipt => recordSettlementEffect env task attempt commitId receipt

/-- The record of a task settled by a commit made elsewhere. -/
def externallySettledTask (task : TaskRecord) (refs : List ArtifactRef) : TaskRecord :=
  { task with
    taskRevision := task.taskRevision + 1
    status := .succeeded
    currentAttemptId := none
    terminalArtifactRefs := refs }

/-- The attempt of a commit made elsewhere; its failure class is left as it is. -/
def externallyEndedAttempt (attempt : TaskAttempt) (endedAt : Time) : TaskAttempt :=
  { attempt with
    endedAt := some endedAt
    outcome := some .succeeded }

def settleExternalCommit (env : Env) (task : TaskRecord) (attempt : TaskAttempt)
    (commitId : CommitId) (manifest : RootManifest) (artifactRefs : List ArtifactRef)
    (effectReceipt : Option EffectReceipt) (successors : List TaskRecord) : Tx TaskRecord := do
  raiseWhen (task.kind ≠ .draftCommit)
    (.commandConflict "only a Draft commit task may record Chapter Settlement")
  let db ← get
  raiseWhen (db.canon.projects.lookup task.projectId ≠ some (some commitId) ∨
      manifest.projectId ≠ task.projectId ∨ manifest.parentCommitIds ≠ [task.basisCommit])
    (.commandConflict "Chapter Settlement commit does not advance the fenced task basis")
  recordProof env task attempt commitId effectReceipt
  let settled := externallySettledTask task artifactRefs
  updateAttempt (externallyEndedAttempt attempt env.now)
  updateTask settled
  let commitIdentity ← stableId (attempt.attemptId.root ++ ".chapter-settlement")
  append env task.runId task.taskId
    (.chapterSettled commitId "stage2w.chapter_reveal_atomic") commitIdentity artifactRefs
  let settledIdentity ← stableId (attempt.attemptId.root ++ ".settled")
  append env task.runId task.taskId
    (.attemptSettled
      { attemptId := attempt.attemptId
        outcome := .succeeded
        taskStatus := .succeeded
        terminalArtifactRefs := artifactRefs
        endedAt := env.now }) settledIdentity artifactRefs
  insertSuccessorTasks env settled successors (some commitId)
  pure settled

/-- Settle a fenced Draft commit already accepted by its atomic owner. -/
def recordExternalCommit (env : Env) (fence : AttemptFence) (commitId : CommitId)
    (artifactRefs : List ArtifactRef) (effectReceipt : Option EffectReceipt)
    (successors : List TaskRecord) : Tx TaskRecord := do
  let manifest ← loadManifest commitId
  let owned ← requireFence fence true
  let task := owned.task
  let attempt := owned.attempt
  settleExternalCommit env task attempt commitId manifest artifactRefs effectReceipt successors

/-- Finish a proven commit after the worker's fence was lost. -/
def reconcileExternalCommit (env : Env) (taskId : TaskId) (commitId : CommitId)
    (effectReceipt : EffectReceipt) (successors : List TaskRecord)
    (artifactRefs : List ArtifactRef) (observedRevision : Option Nat) : Tx TaskRecord := do
  let manifest ← loadManifest commitId
  let task ← loadTask taskId
  requireObservedRevision task observedRevision
  let attemptId ← fromOption (.commandConflict "task has no interrupted external Attempt")
    task.currentAttemptId
  let db ← get
  let row ← fromOption (.commandConflict "interrupted Attempt projection is missing")
    (db.attempts.lookup attemptId)
  let attempt ← restoreAttempt row
  settleExternalCommit env task attempt commitId manifest artifactRefs (some effectReceipt)
    successors

end NovelAgent.Runtime
