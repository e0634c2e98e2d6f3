import NovelAgent.Runtime.Refinement.Writer

/-!
# Reachable Stores

The bridge from the commands to the transition system, and the rules by which
a property of one move becomes a property of every run.
-/

namespace NovelAgent.Runtime

open Core Domain Core.Transaction

theorem discardResult_ok {α : Type} (body : Tx α) (db db' : Db) (u : Unit)
    (h : discardResult body db = .ok (u, db')) : ∃ result, body db = .ok (result, db') := by
  simp only [discardResult, bind_ok, pure_ok] at h
  rcases h with ⟨result, _, hbody, _, rfl⟩
  exact ⟨result, hbody⟩

/-- A command that succeeds is a sequence of moves. -/
theorem perform_moves (service : Service) (env : Env) (command : Command) (db db' : Db) (u : Unit)
    (hdb : Coherent db) (h : perform service env command db = .ok (u, db')) :
    Moves env command db db db' := by
  cases command with
  | verifyWriterLane fence => exact verifyWriterLane_moves _ _ _ _ _ h
  | createRunAndInitialTask request =>
    rcases discardResult_ok _ _ _ _ h with ⟨result, h⟩
    exact createRunAndInitialTask_moves _ _ _ _ _ hdb h
  | createTask task =>
    rcases discardResult_ok _ _ _ _ h with ⟨result, h⟩
    exact createTask_moves _ _ _ _ _ hdb h
  | supersedeTask taskId reason =>
    rcases discardResult_ok _ _ _ _ h with ⟨result, h⟩
    exact supersedeTask_moves _ _ _ _ _ _ hdb h
  | completeWaitingTask taskId receipt receiptRef successors =>
    rcases discardResult_ok _ _ _ _ h with ⟨result, h⟩
    exact completeWaitingTask_moves _ _ _ _ _ _ _ _ hdb h
  | claim taskId workerId observed =>
    rcases discardResult_ok _ _ _ _ h with ⟨result, h⟩
    exact claim_moves _ _ _ _ _ _ _ _ hdb h
  | markStarted fence =>
    rcases discardResult_ok _ _ _ _ h with ⟨result, h⟩
    exact markStarted_moves _ _ _ _ _ hdb h
  | heartbeat fence =>
    rcases discardResult_ok _ _ _ _ h with ⟨result, h⟩
    exact heartbeat_moves _ _ _ _ _ _ hdb h
  | suspectExpiredAttempt taskId commandId actorId reason observed now =>
    rcases discardResult_ok _ _ _ _ h with ⟨result, h⟩
    exact suspectExpiredAttempt_moves _ _ _ _ _ _ _ _ _ _ hdb h
  | reclaimExpiredAttempt taskId commandId actorId reason observed now =>
    rcases discardResult_ok _ _ _ _ h with ⟨result, h⟩
    exact (reclaimExpiredAttempt_moves _ _ _ _ _ _ _ _ _ _ hdb h).1
  | settleAttempt fence outcome terminalStatus refs failure successors =>
    rcases discardResult_ok _ _ _ _ h with ⟨result, h⟩
    exact (settleAttempt_moves _ _ _ _ _ _ _ _ _ _ hdb h).1
  | settleGapAndCreateMaintenance fence findingRef maintenance =>
    rcases discardResult_ok _ _ _ _ h with ⟨result, h⟩
    exact (settleGapAndCreateMaintenance_moves _ _ _ _ _ _ _ hdb h).1
  | settleMaintenanceAndRetryPlanner fence resultRef refs retryTask =>
    rcases discardResult_ok _ _ _ _ h with ⟨result, h⟩
    exact (settleMaintenanceAndRetryPlanner_moves _ _ _ _ _ _ _ _ hdb h).1
  | recordEffectRequested fence receipt =>
    rcases discardResult_ok _ _ _ _ h with ⟨result, h⟩
    exact recordEffectRequested_moves _ _ _ _ _ _ hdb h
  | recordEffectTerminal fence receipt =>
    rcases discardResult_ok _ _ _ _ h with ⟨result, h⟩
    exact recordEffectTerminal_moves _ _ _ _ _ _ hdb h
  | reconcileEffect taskId receipt commandId observed =>
    rcases discardResult_ok _ _ _ _ h with ⟨result, h⟩
    exact reconcileEffect_moves _ _ _ _ _ _ _ _ hdb h
  | operatorReconcileAttempt taskId commandId actorId reason terminalStatus failure observed refs =>
    rcases discardResult_ok _ _ _ _ h with ⟨result, h⟩
    exact (operatorReconcileAttempt_moves _ _ _ _ _ _ _ _ _ _ _ _ hdb h).1
  | markRecoveryPending taskId commandId actorId reason observed =>
    rcases discardResult_ok _ _ _ _ h with ⟨result, h⟩
    exact markRecoveryPending_moves _ _ _ _ _ _ _ _ _ hdb h
  | saveCheckpoint fence checkpoint =>
    rcases discardResult_ok _ _ _ _ h with ⟨result, h⟩
    exact saveCheckpoint_moves _ _ _ _ _ _ hdb h
  | control taskId commandId request actorId reason observed =>
    rcases discardResult_ok _ _ _ _ h with ⟨result, h⟩
    exact control_moves _ _ _ _ _ _ _ _ _ _ hdb h
  | extendBudget taskId commandId actorId reason attempts tranches observed =>
    rcases discardResult_ok _ _ _ _ h with ⟨result, h⟩
    exact extendBudget_moves _ _ _ _ _ _ _ _ _ _ _ hdb h
  | unblock taskId commandId actorId fingerprint evidence observed =>
    rcases discardResult_ok _ _ _ _ h with ⟨result, h⟩
    exact unblock_moves _ _ _ _ _ _ _ _ _ _ hdb h
  | resume taskId commandId actorId reason observed =>
    rcases discardResult_ok _ _ _ _ h with ⟨result, h⟩
    exact resume_moves _ _ _ _ _ _ _ _ _ hdb h
  | claimWriterLane fence =>
    rcases discardResult_ok _ _ _ _ h with ⟨result, h⟩
    exact claimWriterLane_moves _ _ _ _ _ hdb h
  | commitAcceptedCandidate fence request successors =>
    rcases discardResult_ok _ _ _ _ h with ⟨result, h⟩
    exact (commitAcceptedCandidate_moves _ _ _ _ _ _ _ hdb h).1
  | recordExternalCommit fence commitId refs receipt successors =>
    rcases discardResult_ok _ _ _ _ h with ⟨result, h⟩
    exact (recordExternalCommit_moves _ _ _ _ _ _ _ _ _ hdb h).1
  | reconcileExternalCommit taskId commitId receipt successors refs observed =>
    rcases discardResult_ok _ _ _ _ h with ⟨result, h⟩
    exact (reconcileExternalCommit_moves _ _ _ _ _ _ _ _ _ _ hdb h).1
  | initializeProject manifest =>
    rcases discardResult_ok _ _ _ _ h with ⟨result, h⟩
    exact initializeProject_moves _ _ _ _ _ h
  | commit request =>
    rcases discardResult_ok _ _ _ _ h with ⟨result, h⟩
    exact commit_moves _ _ _ _ _ h

/-- A settling command that succeeds has ended the attempt its task was running. -/
theorem perform_endsCurrent (service : Service) (env : Env) (command : Command) (db db' : Db)
    (u : Unit) (taskId : TaskId) (hdb : Coherent db) (hsettles : command.settles? = some taskId)
    (h : perform service env command db = .ok (u, db')) : db.EndsCurrent db' taskId := by
  cases command with
  | reclaimExpiredAttempt =>
    rcases discardResult_ok _ _ _ _ h with ⟨result, h⟩
    exact Option.some.inj hsettles ▸ (reclaimExpiredAttempt_moves _ _ _ _ _ _ _ _ _ _ hdb h).2
  | settleAttempt =>
    rcases discardResult_ok _ _ _ _ h with ⟨result, h⟩
    exact Option.some.inj hsettles ▸ (settleAttempt_moves _ _ _ _ _ _ _ _ _ _ hdb h).2
  | settleGapAndCreateMaintenance =>
    rcases discardResult_ok _ _ _ _ h with ⟨result, h⟩
    exact Option.some.inj hsettles ▸ (settleGapAndCreateMaintenance_moves _ _ _ _ _ _ _ hdb h).2
  | settleMaintenanceAndRetryPlanner =>
    rcases discardResult_ok _ _ _ _ h with ⟨result, h⟩
    exact Option.some.inj hsettles ▸
      (settleMaintenanceAndRetryPlanner_moves _ _ _ _ _ _ _ _ hdb h).2
  | operatorReconcileAttempt =>
    rcases discardResult_ok _ _ _ _ h with ⟨result, h⟩
    exact Option.some.inj hsettles ▸
      (operatorReconcileAttempt_moves _ _ _ _ _ _ _ _ _ _ _ _ hdb h).2
  | commitAcceptedCandidate =>
    rcases discardResult_ok _ _ _ _ h with ⟨result, h⟩
    exact Option.some.inj hsettles ▸
      (commitAcceptedCandidate_moves _ _ _ _ _ _ _ hdb h).2.endsCurrent hdb
  | recordExternalCommit =>
    rcases discardResult_ok _ _ _ _ h with ⟨result, h⟩
    exact Option.some.inj hsettles ▸ (recordExternalCommit_moves _ _ _ _ _ _ _ _ _ hdb h).2
  | reconcileExternalCommit =>
    rcases discardResult_ok _ _ _ _ h with ⟨result, h⟩
    exact Option.some.inj hsettles ▸ (reconcileExternalCommit_moves _ _ _ _ _ _ _ _ _ _ hdb h).2
  | _ => exact absurd hsettles (by simp [Command.settles?, Command.closesUnchecked?])

/-- So is a step. -/
theorem step_moves (service : Service) (db : Db) (call : Call) (hdb : Coherent db) :
    Moves call.env call.command db db (step service db call) := by
  rcases step_cases service db call with ⟨e, _, hstep⟩ | ⟨db', hperform, hstep⟩
  · rw [hstep]
  · rw [hstep]
    exact perform_moves service call.env call.command db db' () hdb hperform

theorem step_coherent (service : Service) (db : Db) (call : Call) (hdb : Coherent db) :
    Coherent (step service db call) :=
  Moves.coherent (step_moves service db call hdb) hdb

/-- What every move of a guarded call keeps holds along every guarded run. The invariant may be
    used of the store the call started in as well as of the store its moves have reached. -/
theorem runCalls_guarded (service : Service) (G : Db → Call → Prop) (Inv : Db → Prop)
    (hmove : ∀ (call : Call) db₀ db db', Coherent db₀ → Coherent db → Inv db₀ → G db₀ call →
      Move call.env call.command db₀ db db' → Inv db → Inv db')
    (db : Db) (calls : List Call) (hdb : Coherent db) (hinv : Inv db)
    (hguard : Guarded (step service) G db calls) :
    Coherent (runCalls service db calls) ∧ Inv (runCalls service db calls) := by
  refine run_guarded (step service) G (fun db => Coherent db ∧ Inv db) ?_ calls db hguard
    ⟨hdb, hinv⟩
  rintro db call ⟨hdb, hinv⟩ hcall
  refine Moves.invariant (fun db => Coherent db ∧ Inv db) ?_ (step_moves service db call hdb)
    ⟨hdb, hinv⟩
  rintro db₁ db₂ hlast ⟨hdb₁, hinv₁⟩
  exact ⟨hlast.coherent hdb₁, hmove call db db₁ db₂ hdb hdb₁ hinv hcall hlast hinv₁⟩

theorem coherent_fresh (canon : Canon) : Coherent (Db.fresh canon) := by
  refine ⟨?_, ?_, ?_, ?_⟩
  · intro k row h
    exact absurd h (by simp [Db.fresh])
  · intro k row h
    exact absurd h (by simp [Db.fresh])
  · intro k row h
    exact absurd h (by simp [Db.fresh])
  · intro event hevent
    exact absurd hevent (by simp [Db.fresh])

/-- The command creates no task that claims to have an attempt already. -/
def Command.unclaimed : Command → Bool
  | .createTask task => task.currentAttemptId.isNone
  | _ => true

/-- Every call of the run creates unclaimed tasks. -/
def Disciplined (calls : List Call) : Prop :=
  ∀ call ∈ calls, call.command.unclaimed = true

instance (calls : List Call) : Decidable (Disciplined calls) :=
  inferInstanceAs (Decidable (∀ call ∈ calls, call.command.unclaimed = true))

theorem guarded_of_forall (service : Service) (G : Call → Prop) (calls : List Call)
    (h : ∀ call ∈ calls, G call) (db : Db) :
    Guarded (step service) (fun _ call => G call) db calls := by
  induction calls generalizing db with
  | nil => trivial
  | cons call calls ih =>
    exact ⟨h call List.mem_cons_self,
      ih (fun other hother => h other (List.mem_cons_of_mem call hother)) (step service db call)⟩

/-- What every move keeps holds along every disciplined run from an unused store. -/
theorem runCalls_invariant (service : Service) (Inv : Db → Prop)
    (hfresh : ∀ canon, Inv (Db.fresh canon))
    (hmove : ∀ (call : Call) db₀ db db', Coherent db₀ → Coherent db → Inv db₀ →
      call.command.unclaimed = true →
      Move call.env call.command db₀ db db' → Inv db → Inv db')
    (canon : Canon) (calls : List Call) (hcalls : Disciplined calls) :
    Inv (runCalls service (Db.fresh canon) calls) :=
  (runCalls_guarded service (fun _ call => call.command.unclaimed = true) Inv hmove (Db.fresh canon)
    calls (coherent_fresh canon) (hfresh canon) (guarded_of_forall service _ calls hcalls _)).2

/-- Every run leaves the store coherent. -/
theorem runCalls_coherent (service : Service) (canon : Canon) (calls : List Call) :
    Coherent (runCalls service (Db.fresh canon) calls) :=
  run_invariant (step service) Coherent (fun db call hdb => step_coherent service db call hdb) _
    (coherent_fresh canon) calls

/-! ### A small runtime

The inputs that the concrete runs of the modules above are built from: one
project at one commit, and one task of any kind in it. -/

namespace Sample

def projectId : ProjectId := ⟨"p", by decide⟩
def runId : RunId := ⟨"r", .refl true⟩
def taskId : TaskId := ⟨"t", .refl true⟩

def hashOf (n : Nat) : ContentHash where
  root := "sha256:" ++ String.ofList (List.replicate 64 (Sha256.hexDigit n))
  valid := by simp [isContentHash, Sha256.isHexDigit_hexDigit, String.toList_append]

def tokenOf (bytes n : Nat) (hbytes : 1 ≤ bytes) : HexToken bytes where
  text := String.ofList (Sha256.hexDigit n :: List.replicate (2 * bytes - 1) '0')
  length_eq := by
    simp
    omega
  isHex := by simp [Sha256.isHexDigit_hexDigit, show Sha256.isHexDigit '0' = true by decide]

def env (now : Time) (draw : Nat) : Env where
  now := now
  claimToken := tokenOf 32 draw (by decide)
  attemptToken := tokenOf 24 draw (by decide)
  eventToken := fun _ n => tokenOf 24 n (by decide)
  occurredAt := fun _ _ => now
  committedAt := now
  permissionHash := fun _ => (hashOf 11).root
  artifacts := none

def service : Service := ⟨300, by decide⟩

def canon : Canon where
  projects := AList.singleton projectId (some (hashOf 14))
  commits := ∅
  receipts := ∅
  outbox := ∅

def task (kind : TaskKind) : TaskRecord where
  taskId := taskId
  runId := runId
  projectId := projectId
  kind := kind
  taskRevision := 0
  status := .ready
  basisCommit := hashOf 14
  policyHash := hashOf 11
  permissionHash := hashOf 11

def attemptId (draw : Nat) : StableId where
  root := "attempt." ++ (tokenOf 24 draw (by decide)).text
  valid := isStableId_append_token "attempt." _ (by decide) (by decide)

def fence (draw generation : Nat) : AttemptFence where
  projectId := projectId
  taskId := taskId
  attemptId := attemptId draw
  claimToken := ⟨"claim." ++ (tokenOf 32 draw (by decide)).text,
    isStableId_append_token "claim." _ (by decide) (by decide)⟩
  taskRevision := 1
  writerGeneration := generation

def artifact : ArtifactRef := ⟨hashOf 10, "application/json", 2, ⟨"1.0.0", .refl true⟩⟩

def failedRequest : CommitRequest where
  requestId := ⟨"q", .refl true⟩
  projectId := projectId
  baseCommit := hashOf 14
  idempotencyKey := ⟨"k", .refl true⟩
  bundle :=
    { bundleId := ⟨"b", .refl true⟩
      projectId := projectId
      runId := runId
      baseCommit := hashOf 14
      observedChanges := ⟨⟨"o", .refl true⟩, hashOf 14, artifact, []⟩
      proposedRoots :=
        ⟨projectId, ⟨"1.0.0", .refl true⟩, artifact, artifact, artifact, artifact, artifact, []⟩
      producedArtifacts := [] }
  validationReport := ⟨⟨"v", .refl true⟩, ⟨"b", .refl true⟩, .failed⟩

def claimed (kind : TaskKind) : List Call :=
  [⟨env 1 0, .createTask (task kind)⟩, ⟨env 2 1, .claim taskId "w" none⟩]

def after (calls : List Call) : Db :=
  runCalls service (Db.fresh canon) calls

end Sample

end NovelAgent.Runtime
