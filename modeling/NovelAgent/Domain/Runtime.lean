import NovelAgent.Domain.MemoryWrite

/-!
# Runtime Contracts

The records of the task kernel: tasks, attempts, effects, fences, and the
events that every change of them is recorded by.
-/

namespace NovelAgent.Domain

open Core

/-- The kinds of tasks. -/
inductive TaskKind
  | planCandidate
  | planAcceptance
  | planCommit
  | draftCandidate
  | draftAcceptance
  | draftCommit
  | projectionFreshness
  | maintenance
deriving DecidableEq

/-- The two kinds of task that advance canon through the writer lane. -/
def TaskKind.isCommit : TaskKind → Bool
  | .planCommit => true
  | .draftCommit => true
  | _ => false

/-- What a task is for. -/
inductive TaskPurpose
  | normal
  | lookahead
  | replan
  | derivedMaintenance
deriving DecidableEq

/-- How far a task is. -/
inductive TaskStatus
  | pending
  | ready
  | running
  | waitingInput
  | waitingRetry
  | budgetReview
  | recoveryPending
  | blocked
  | succeeded
  | failed
  | cancelled
deriving DecidableEq

/-- How an attempt ended. -/
inductive AttemptOutcome
  | succeeded
  | failed
  | suspended
  | cancelled
deriving DecidableEq

/-- Why an attempt failed. -/
inductive FailureClass
  | workerStartup
  | workerLeaseExpired
  | providerTransient
  | schedulingTimeout
  | schedulingBudgetUnsatisfiable
  | leafSchemaRejected
  | leafReviewRequired
  | canonExtractionGap
  | basisChanged
  | permissionDenied
  | validationRejected
  | commitConflict
  | projectionFailed
  | freshnessWaiting
  | freshnessBlocked
  | writerLaneBusy
  | effectUncertain
  | poisonLoop
  | budgetExhausted
  | cancelled
  | runtimeCapabilityUnavailable
  | externalResourceUnavailable
  | unknown
deriving DecidableEq

/-- The text of a failure class, as it is stored in a block cause. -/
def FailureClass.value : FailureClass → String
  | .workerStartup => "worker_startup"
  | .workerLeaseExpired => "worker_lease_expired"
  | .providerTransient => "provider_transient"
  | .schedulingTimeout => "scheduling_timeout"
  | .schedulingBudgetUnsatisfiable => "scheduling_budget_unsatisfiable"
  | .leafSchemaRejected => "leaf_schema_rejected"
  | .leafReviewRequired => "leaf_review_required"
  | .canonExtractionGap => "canon_extraction_gap"
  | .basisChanged => "basis_changed"
  | .permissionDenied => "permission_denied"
  | .validationRejected => "validation_rejected"
  | .commitConflict => "commit_conflict"
  | .projectionFailed => "projection_failed"
  | .freshnessWaiting => "freshness_waiting"
  | .freshnessBlocked => "freshness_blocked"
  | .writerLaneBusy => "writer_lane_busy"
  | .effectUncertain => "effect_uncertain"
  | .poisonLoop => "poison_loop"
  | .budgetExhausted => "budget_exhausted"
  | .cancelled => "cancelled"
  | .runtimeCapabilityUnavailable => "runtime_capability_unavailable"
  | .externalResourceUnavailable => "external_resource_unavailable"
  | .unknown => "unknown"

/-- Every failure class, in the order they are declared. -/
def FailureClass.all : List FailureClass :=
  [.workerStartup, .workerLeaseExpired, .providerTransient, .schedulingTimeout,
    .schedulingBudgetUnsatisfiable, .leafSchemaRejected, .leafReviewRequired, .canonExtractionGap,
    .basisChanged, .permissionDenied, .validationRejected, .commitConflict, .projectionFailed,
    .freshnessWaiting, .freshnessBlocked, .writerLaneBusy, .effectUncertain, .poisonLoop,
    .budgetExhausted, .cancelled, .runtimeCapabilityUnavailable, .externalResourceUnavailable,
    .unknown]

/-- Who tries again. -/
inductive RetryOwner
  | modelGateway
  | leaf
  | runtime
  | reconciler
  | acceptance
  | trustedCommit
  | projection
  | freshness
  | operator
  | none

/-- Where to go on from. -/
inductive RecoveryCheckpoint
  | latestSettled
  | none

/-- What a failure means for the task it ended an attempt of. -/
structure FailurePolicy where
  retryOwner : RetryOwner
  retryable : Bool
  consumesTaskBudget : Bool
  consumesCreativeBudget : Bool
  resumeFrom : RecoveryCheckpoint
  fallbackStatus : TaskStatus

/-- The policy of a failure class. -/
def failurePolicy : FailureClass → FailurePolicy
  | .workerStartup => ⟨.runtime, true, true, false, .latestSettled, .waitingRetry⟩
  | .workerLeaseExpired => ⟨.runtime, true, false, false, .latestSettled, .waitingRetry⟩
  | .providerTransient => ⟨.modelGateway, true, false, false, .latestSettled, .waitingRetry⟩
  | .schedulingTimeout => ⟨.modelGateway, true, false, false, .latestSettled, .waitingRetry⟩
  | .schedulingBudgetUnsatisfiable => ⟨.operator, false, false, false, .none, .blocked⟩
  | .leafSchemaRejected => ⟨.leaf, true, true, false, .latestSettled, .waitingRetry⟩
  | .leafReviewRequired => ⟨.leaf, false, false, false, .none, .recoveryPending⟩
  | .canonExtractionGap => ⟨.none, false, false, false, .none, .blocked⟩
  | .basisChanged => ⟨.operator, false, false, false, .none, .blocked⟩
  | .permissionDenied => ⟨.operator, false, false, false, .none, .blocked⟩
  | .validationRejected => ⟨.trustedCommit, false, true, false, .none, .blocked⟩
  | .commitConflict => ⟨.operator, false, true, false, .none, .blocked⟩
  | .projectionFailed => ⟨.projection, true, true, false, .latestSettled, .waitingRetry⟩
  | .freshnessWaiting => ⟨.freshness, true, false, false, .latestSettled, .waitingRetry⟩
  | .freshnessBlocked => ⟨.operator, false, false, false, .none, .blocked⟩
  | .writerLaneBusy => ⟨.runtime, true, false, false, .latestSettled, .waitingRetry⟩
  | .effectUncertain => ⟨.reconciler, false, false, false, .latestSettled, .recoveryPending⟩
  | .poisonLoop => ⟨.operator, false, true, false, .none, .budgetReview⟩
  | .budgetExhausted => ⟨.none, false, false, false, .none, .budgetReview⟩
  | .cancelled => ⟨.none, false, false, false, .none, .cancelled⟩
  | .runtimeCapabilityUnavailable => ⟨.operator, false, false, false, .none, .recoveryPending⟩
  | .externalResourceUnavailable => ⟨.operator, false, false, false, .none, .recoveryPending⟩
  | .unknown => ⟨.operator, false, false, false, .none, .recoveryPending⟩

/-- The failure codes of leaves that are spelled differently. -/
def failureCodeAliases : List (String × FailureClass) :=
  [("StructuredGenerationExhausted", .leafSchemaRejected),
    ("structured_generation_exhausted", .leafSchemaRejected),
    ("UpdateWorkerBuildIdCompatibility", .runtimeCapabilityUnavailable),
    ("external_resource_unavailable", .externalResourceUnavailable)]

/-- A failure as a caller reports it: a class, or the code of a leaf. -/
inductive ReportedFailure
  | ofClass (failure : FailureClass)
  | ofCode (code : String)

/-- The failure class a report stands for; a code nobody knows is `unknown`. -/
def normalizeFailureClass : Option ReportedFailure → Option FailureClass
  | none => none
  | some (.ofClass failure) => some failure
  | some (.ofCode code) =>
    match FailureClass.all.find? fun failure => failure.value == code with
    | some failure => some failure
    | none => some ((failureCodeAliases.lookup code).getD .unknown)

/-- Whether an attempt that ended this way costs the task one retry. -/
def consumesTaskBudget (failure : Option FailureClass) : Bool :=
  match failure with
  | none => false
  | some failure => (failurePolicy failure).consumesTaskBudget

/-- A worker's proof that it owns an attempt. -/
structure AttemptFence where
  projectId : ProjectId
  taskId : TaskId
  attemptId : StableId
  claimToken : StableId
  taskRevision : Nat
  writerGeneration : Nat

/-- A fence as the JSON its digest is taken over. -/
def AttemptFence.json (fence : AttemptFence) : String :=
  Json.object [
    ("project_id", Json.string fence.projectId.root),
    ("task_id", Json.string fence.taskId.root),
    ("attempt_id", Json.string fence.attemptId.root),
    ("claim_token", Json.string fence.claimToken.root),
    ("task_revision", Json.number fence.taskRevision),
    ("writer_generation", Json.number fence.writerGeneration)]

/-- What a commit is followed by. -/
inductive ProjectionAfter
  | plan
  | draft
deriving DecidableEq

/-- A task, with the attempt that owns it. -/
structure TaskRecord where
  taskId : TaskId
  runId : RunId
  projectId : ProjectId
  kind : TaskKind
  purpose : TaskPurpose := .normal
  taskRevision : Nat
  status : TaskStatus
  priority : Int := 0
  scheduledFor : Option Time := none
  basisCommit : CommitId
  basisSnapshot : Option StableId := none
  policyHash : ContentHash
  permissionHash : ContentHash
  inputArtifactRefs : List ArtifactRef := []
  candidateBindingRef : Option ArtifactRef := none
  dependencyTaskIds : List TaskId := []
  currentAttemptId : Option StableId := none
  terminalArtifactRefs : List ArtifactRef := []
  blockCause : Option String := none
  failureBudget : Nat := 3
  retryTrancheSize : Nat := 3
  plannerMemoryBudgetExtensions : Nat := 0
  writerGeneration : Nat := 0
  chapterIndex : Nat := 0
  targetChapters : Nat := 1
  horizonStart : Option Nat := none
  horizonEnd : Option Nat := none
  protectedChapterIndex : Option Nat := none
  affectsFuturePlan : Option Bool := none
  projectionAfter : Option ProjectionAfter := none
  paused : Bool := false
  cancelRequested : Bool := false
  superseded : Bool := false
deriving DecidableEq

namespace TaskRecord

/-- The bounds that the fields of a record are declared with. -/
def fieldsInRange (task : TaskRecord) : Bool :=
  (task.blockCause.all fun cause => cause.length ≤ 512) &&
    1 ≤ task.retryTrancheSize && 1 ≤ task.targetChapters &&
    task.horizonStart.all (1 ≤ ·) && task.horizonEnd.all (1 ≤ ·) &&
    task.protectedChapterIndex.all (1 ≤ ·)

/-- The rule about a record's purpose that it breaks, if any. -/
def purposeViolation (task : TaskRecord) : Option String :=
  if task.horizonStart.isNone ≠ task.horizonEnd.isNone then
    some "task horizon bounds must appear together"
  else if (task.horizonStart.any fun first => task.horizonEnd.any fun last => last < first) then
    some "task horizon end precedes start"
  else if task.purpose = .lookahead ∧
      ((task.kind ≠ .planCandidate ∧ task.kind ≠ .planAcceptance) ∨
        task.protectedChapterIndex.isNone ∨ task.horizonStart.isNone ∨
        (task.horizonStart.any fun first =>
          task.protectedChapterIndex.any fun chapter => first ≤ chapter)) then
    some "lookahead requires a future Plan horizon and protected chapter"
  else if task.purpose = .derivedMaintenance ∧
      (task.kind ≠ .maintenance ∨ task.inputArtifactRefs = []) then
    some "derived maintenance requires a maintenance task with a finding artifact"
  else if task.affectsFuturePlan.isSome ∧ task.kind ≠ .draftAcceptance ∧
      task.kind ≠ .draftCommit ∧ task.kind ≠ .projectionFreshness then
    some "future-Plan impact belongs only to the Draft commit chain"
  else none

/-- What every record satisfies when it is validated. -/
def wellFormed (task : TaskRecord) : Bool :=
  task.fieldsInRange && task.purposeViolation.isNone

end TaskRecord

/-- One exclusive ownership of a task by a worker. -/
structure TaskAttempt where
  attemptId : StableId
  taskId : TaskId
  attemptNo : Nat
  workerId : String
  claimTokenDigest : ContentHash
  fenceGeneration : Nat
  claimedAt : Time
  heartbeatAt : Option Time := none
  leaseExpiresAt : Option Time := none
  startedAt : Option Time := none
  endedAt : Option Time := none
  sourceCheckpointId : Option StableId := none
  effectFrontier : List StableId := []
  outcome : Option AttemptOutcome := none
  failureClass : Option FailureClass := none
deriving DecidableEq

/-- What every attempt satisfies when it is validated: the heartbeat and the
    lease appear together, and in order after the claim. -/
def TaskAttempt.wellFormed (attempt : TaskAttempt) : Bool :=
  1 ≤ attempt.attemptNo && 1 ≤ attempt.workerId.length && attempt.workerId.length ≤ 128 &&
    1 ≤ attempt.fenceGeneration &&
    match attempt.heartbeatAt, attempt.leaseExpiresAt with
    | none, none => true
    | some heartbeat, some lease => attempt.claimedAt ≤ heartbeat && heartbeat < lease
    | _, _ => false

/-- Whether a task may be claimed, and why not. -/
structure TaskEligibility where
  eligible : Bool
  status : TaskStatus
  reasonCode : String

/-- The single eligibility definition shared by recompute, claim and resume. -/
def evaluateTaskEligibility (task : TaskRecord) (now : Time) (currentCommit : CommitId)
    (dependencyStatuses : List TaskStatus) (permissionHash : String) (writerGeneration : Nat) :
    TaskEligibility :=
  if task.status = .budgetReview then ⟨false, .budgetReview, "budget_extension_required"⟩
  else if task.status ≠ .ready then ⟨false, task.status, "status_not_claimable"⟩
  else if task.currentAttemptId.isSome then ⟨false, .recoveryPending, "attempt_active"⟩
  else if task.paused || task.superseded then ⟨false, .pending, "paused_or_superseded"⟩
  else if task.failureBudget = 0 then ⟨false, .budgetReview, "failure_budget_exhausted"⟩
  else if task.scheduledFor.any (now < ·) then ⟨false, .pending, "scheduled_for_future"⟩
  else if dependencyStatuses.any (· ≠ .succeeded) then
    ⟨false, .pending, "dependency_not_succeeded"⟩
  else if task.basisCommit ≠ currentCommit then ⟨false, .blocked, "basis_changed"⟩
  else if task.permissionHash.root ≠ permissionHash then ⟨false, .blocked, "permission_changed"⟩
  else if task.writerGeneration ≠ writerGeneration then
    ⟨false, .blocked, "writer_generation_changed"⟩
  else ⟨true, .ready, "eligible"⟩

/-- Whether a run can go on. -/
inductive ResumabilityStatus
  | resumable
  | blocked
  | terminal
deriving DecidableEq

/-- A named position in a run's event stream. -/
structure RunCheckpoint where
  checkpointId : StableId
  runId : RunId
  eventPosition : Nat
  logicalStage : String
  stateArtifactRef : ArtifactRef
  completedEffectIds : List StableId
  resumabilityStatus : ResumabilityStatus
  reason : Option String
deriving DecidableEq

/-- What is known of an effect. -/
inductive EffectStatus
  | requested
  | completed
  | uncertain
  | compensated
deriving DecidableEq

/-- The status's name in a derived event identity. -/
def EffectStatus.value : EffectStatus → String
  | .requested => "requested"
  | .completed => "completed"
  | .uncertain => "uncertain"
  | .compensated => "compensated"

/-- An effect whose outcome is not known yet. -/
def EffectStatus.isUnresolved : EffectStatus → Bool
  | .requested => true
  | .uncertain => true
  | _ => false

/-- What is known of one request to an external system. -/
structure EffectReceipt where
  effectIdentity : StableId
  externalSystem : String
  requestIdentity : StableId
  status : EffectStatus
  attemptNo : Nat
  providerRequestId : Option String
  resultArtifactRef : Option ArtifactRef
  completedAt : Option Time
deriving DecidableEq

/-- Who decides. -/
inductive ActorKind
  | author
  | operator
  | policy
deriving DecidableEq

/-- What is decided. -/
inductive AcceptanceDecision
  | accept
  | reject
  | revoke
deriving DecidableEq

/-- The candidate decided on. -/
structure CandidateBinding where
  candidateId : StableId
  artifactRef : ArtifactRef
  candidateHash : ContentHash

/-- The decision of an author, an operator or a policy on a candidate. Only an
    acceptance carries the actor that accepted it. -/
structure AcceptanceReceipt where
  receiptId : StableId
  commandId : StableId
  idempotencyIdentity : StableId
  decision : AcceptanceDecision
  candidate : CandidateBinding
  acceptedBy : Option ActorKind
  decisionMatches : (decide (decision = .accept)) = acceptedBy.isSome

/-- How an attempt was settled. -/
structure AttemptSettled where
  attemptId : StableId
  outcome : AttemptOutcome
  taskStatus : TaskStatus
  failureClass : Option FailureClass := none
  blockCause : Option String := none
  terminalArtifactRefs : List ArtifactRef := []
  endedAt : Time
deriving DecidableEq

/-- What a control does. -/
inductive ControlAction
  | supersede
  | leaseExpired
  | leaseReclaim
  | operatorReconcile
  | recoveryPending
  | pause
  | cancel
  | retry
  | extendBudget
  | unblock
  | resume
deriving DecidableEq

/-- A control that was asked for. -/
structure ControlIntent where
  commandId : StableId
  action : ControlAction
  actorId : String
  reason : String
  additionalAttempts : Nat := 0
  additionalPlannerMemoryTranches : Nat := 0
  writerGenerationAfter : Option Nat := none
deriving DecidableEq

/-- What an event says, one constructor for each kind of event. -/
inductive EventPayload
  | taskCreated (task : TaskRecord)
  | taskClaimed (attempt : TaskAttempt) (fenceDigest : ContentHash)
  | attemptStarted (attemptId : StableId) (workerId : String) (startedAt : Time)
  | attemptSettled (settled : AttemptSettled)
  | taskBlocked (failureClass : FailureClass) (causeFingerprint : ContentHash)
      (sanitizedMessage : String) (errorArtifactRef : Option ArtifactRef)
  | acceptanceRecorded (commandId receiptId candidateId : StableId) (candidateHash : ContentHash)
      (decision : AcceptanceDecision) (actorKind : Option ActorKind)
  | effectRequested (effect : EffectReceipt) (taskId : TaskId) (attemptId : StableId)
  | effectTerminal (effect : EffectReceipt) (taskId : TaskId) (attemptId : StableId)
  | checkpointSaved (checkpoint : RunCheckpoint) (taskId : TaskId) (attemptId : StableId)
  | controlRecorded (intent : ControlIntent)
  | writerClaimed (attemptId : StableId) (writerGeneration : Nat)
  | commitAccepted (result : CommitResult)
  | commitRejected (result : CommitResult)
  | chapterSettled (commitId : CommitId) (owner : String)
deriving DecidableEq

/-- The rules a payload is validated against before its event is recorded.
    The remaining payloads hold values that were validated already. -/
def validateStage5EventPayload : EventPayload → Bool
  | .taskCreated task => task.wellFormed
  | .taskClaimed attempt _ => attempt.wellFormed
  | .attemptStarted _ workerId _ => 1 ≤ workerId.length && workerId.length ≤ 128
  | .attemptSettled settled => settled.blockCause.all fun cause => cause.length ≤ 512
  | .taskBlocked _ _ message _ => 1 ≤ message.length && message.length ≤ 512
  | .controlRecorded intent =>
    1 ≤ intent.actorId.length && intent.actorId.length ≤ 128 &&
      1 ≤ intent.reason.length && intent.reason.length ≤ 512 &&
      (intent.action != .extendBudget || intent.additionalAttempts != 0 ||
        intent.additionalPlannerMemoryTranches != 0) &&
      (intent.writerGenerationAfter.all fun generation =>
        (intent.action == .retry || intent.action == .unblock) && generation == 0)
  | .writerClaimed _ generation => 1 ≤ generation
  | _ => true

/-- One entry of a run's event stream. Its payload was validated when it was built. -/
structure RunEvent where
  eventId : StableId
  runId : RunId
  taskId : Option TaskId
  sequenceNo : Nat
  occurredAt : Time
  idempotencyIdentity : StableId
  traceId : String
  spanId : Option String
  payload : EventPayload
  artifactRefs : List ArtifactRef
  payloadValid : validateStage5EventPayload payload = true
deriving DecidableEq

end NovelAgent.Domain
