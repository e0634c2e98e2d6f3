import NovelAgent.Runtime.WriterLane

/-!
# Freshly Issued Fences

When the fence that a claim returns passes the check of the next command.
-/

namespace NovelAgent.Runtime

open Core Domain Core.Transaction

/-- A commit task with a generation left over. -/
def CarriesGeneration (task : TaskRecord) : Prop :=
  task.kind.isCommit = true ∧ 0 < task.writerGeneration

/-- Every lane names an attempt that exists. -/
def LanesKnown (db : Db) : Prop :=
  ∀ p writer, db.writerClaims.lookup p = some writer →
    ∃ arow, db.attempts.lookup writer.attemptId = some arow

theorem Move.lanesKnown {env : Env} {command : Command} {db₀ db db' : Db}
    (h : Move env command db₀ db db') (hlanes : LanesKnown db) : LanesKnown db' := by
  have hkept : ∀ p writer, db.writerClaims.lookup p = some writer →
      ∃ arow, db'.attempts.lookup writer.attemptId = some arow := by
    intro p writer hwriter
    rcases hlanes p writer hwriter with ⟨arow, harow⟩
    rcases h.attempt_task ⟨arow, harow, rfl⟩ with ⟨found, hfound, _⟩
    exact ⟨found, hfound⟩
  cases h with
  | laneTaken row attempt fence generation identity events hfirst hrow hstart hcommand hcurrent
      harow =>
    exact Table.forall_lookup_insert hkept harow
  | _ => exact hkept

variable (service : Service)

/-- Lanes name attempts that exist. -/
theorem runCalls_lanesKnown (canon : Canon) (calls : List Call) :
    LanesKnown (runCalls service (Db.fresh canon) calls) :=
  (runCalls_guarded service (fun _ _ => True) LanesKnown
    (fun _ _ _ _ _ _ _ _ hmove hlanes => hmove.lanesKnown hlanes) (Db.fresh canon) calls
    (coherent_fresh canon) (fun _ _ h => absurd h (by simp [Db.fresh]))
    (guarded_of_forall service (fun _ => True) calls (fun _ _ => trivial) _)).2

/-- What a claim leaves behind. -/
structure Claimed (db db' : Db) (task : TaskRecord) (attempt : TaskAttempt) (fence : AttemptFence) :
    Prop where
  taskRow : ∃ row, db'.tasks.lookup task.taskId = some row ∧
    row.taskJson = claimedTask task attempt.attemptId
  attemptRow : db'.attempts.lookup attempt.attemptId = some (insertedAttemptRow attempt)
  absent : db.attempts.lookup attempt.attemptId = none
  lanes : db'.writerClaims = db.writerClaims
  taskWellFormed : task.wellFormed = true
  attemptWellFormed : attempt.wellFormed = true
  opened : attempt.endedAt = none
  token : attempt.claimTokenDigest = digest fence.claimToken.root
  fence_eq : fence = issuedFence task attempt.attemptId fence.claimToken

variable (env : Env)

/-- What a claim leaves behind. -/
theorem claim_spec (taskId : TaskId) (workerId : String) (observed : Option Nat) (db db' : Db)
    (task : TaskRecord) (attempt : TaskAttempt) (fence : AttemptFence) (hdb : Coherent db)
    (hstored : db.stored taskId = some task)
    (h : claim service env taskId workerId observed db = .ok ((attempt, fence), db')) :
    Claimed db db' task attempt fence := by
  simp only [claim, bind_ok, raiseWhen_ok, loadTask_ok, requireObservedRevision_ok, get_ok,
    fromOption_ok] at h
  rcases h with ⟨_, _, ⟨_, rfl⟩, _, _, ⟨⟨row, hrow, rfl, hwf⟩, rfl⟩, _, _, ⟨_, rfl⟩, _, _,
    ⟨rfl, rfl⟩, _, _, ⟨_, rfl⟩, statuses, _, hstatuses, h⟩
  obtain rfl := loadStatuses_ok _ _ _ _ hstatuses
  obtain rfl := hdb.taskKey _ _ hrow
  obtain rfl : row.taskJson = task := Option.some.inj ((stored_of_lookup hrow).symm.trans hstored)
  simp only [updateTask_ok, stableId_ok, insertAttempt_ok, pure_ok] at h
  rcases h with ⟨_, _, ⟨_, rfl⟩, token, _, ⟨_, rfl⟩, attemptId, _, ⟨_, rfl⟩, _, _,
    ⟨row', hrow', rfl⟩, _, _, ⟨habsent, _, rfl⟩, identity, _, ⟨_, rfl⟩, _, _, happend, hresult, rfl⟩
  obtain ⟨rfl, rfl⟩ := Prod.mk.inj hresult
  have hvalid := append_valid _ _ _ _ _ _ _ _ _ happend
  rcases append_records _ _ _ _ _ _ _ _ _ happend hdb.numbered with ⟨events, _, rfl⟩
  exact ⟨⟨_, AList.lookup_insert _, rfl⟩, AList.lookup_insert _, habsent, rfl, hwf, hvalid, rfl, rfl,
    rfl⟩

variable {db db' : Db} {task : TaskRecord} {attempt : TaskAttempt} {fence : AttemptFence}

theorem Claimed.fenceValid (h : Claimed db db' task attempt fence) :
    FenceValid db' fence false ⟨claimedTask task attempt.attemptId, attempt⟩ := by
  rw [h.fence_eq]
  exact ⟨h.taskRow, h.taskWellFormed, rfl, rfl, ⟨_, h.attemptRow, rfl⟩, h.attemptWellFormed, h.token,
    Nat.le_refl _, rfl, fun hlane => absurd hlane Bool.false_ne_true⟩

/-- The fence of a claim passes the whole check when no generation is left over. -/
theorem Claimed.fenceValid_lane (h : Claimed db db' task attempt fence)
    (hclear : ¬ CarriesGeneration task) :
    FenceValid db' fence true ⟨claimedTask task attempt.attemptId, attempt⟩ :=
  { h.fenceValid with lane := fun _ hkind hgeneration => absurd ⟨hkind, hgeneration⟩ hclear }

theorem requireFence_lane_lost (db : Db) (fence : AttemptFence) (owned : Owned)
    (hvalid : FenceValid db fence false owned) (hcarries : CarriesGeneration owned.task)
    (hlost : ∀ writer, db.writerClaims.lookup owned.task.projectId = some writer →
      writer.attemptId ≠ owned.attempt.attemptId) :
    requireFence fence true db =
      .error (.staleAttemptFence "attempt lost the project writer generation") := by
  rcases hvalid.task with ⟨row, hrow, hjson⟩
  rcases hvalid.attempt with ⟨arow, harow, hajson⟩
  have hcurrent : ¬ (owned.task.projectId ≠ fence.projectId ∨
      owned.task.currentAttemptId ≠ some fence.attemptId) := by
    push Not
    exact ⟨hvalid.project, hvalid.current⟩
  have howner : ¬ (owned.attempt.claimTokenDigest ≠ digest fence.claimToken.root ∨
      owned.task.taskRevision < fence.taskRevision ∨
      fence.writerGeneration ≠ owned.task.writerGeneration) := by
    push Not
    exact ⟨hvalid.token, hvalid.revision, hvalid.generation⟩
  have hlane : ¬ (db.writerClaims.lookup owned.task.projectId).any fun writer =>
      writer.attemptId = owned.attempt.attemptId ∧
        writer.generation = owned.task.writerGeneration := by
    rw [Option.any_eq_true]
    rintro ⟨writer, hwriter, hholds⟩
    simp only [decide_eq_true_eq] at hholds
    exact hlost writer hwriter hholds.1
  rw [requireFence, bind_error]
  refine .inr ⟨owned.task, db,
    (loadTask_ok _ _ _ _).mpr ⟨⟨row, hrow, hjson, hvalid.taskWellFormed⟩, rfl⟩, ?_⟩
  rw [bind_error]
  refine .inr ⟨(), db, (raiseWhen_ok _ _ _ _ _).mpr ⟨hcurrent, rfl⟩, ?_⟩
  rw [bind_error]
  refine .inr ⟨db, db, (get_ok _ _ _).mpr ⟨rfl, rfl⟩, ?_⟩
  rw [bind_error]
  refine .inr ⟨arow, db, (fromOption_ok _ _ _ _ _).mpr ⟨harow, rfl⟩, ?_⟩
  rw [bind_error]
  refine .inr ⟨owned.attempt, db,
    (restoreAttempt_ok _ _ _ _).mpr ⟨⟨hajson, hvalid.attemptWellFormed⟩, rfl⟩, ?_⟩
  rw [bind_error]
  refine .inr ⟨(), db, (raiseWhen_ok _ _ _ _ _).mpr ⟨howner, rfl⟩, ?_⟩
  rw [bind_error, raiseWhen, if_pos ⟨rfl, hcarries.1, hcarries.2, hlane⟩]
  exact .inl rfl

/-! ### Commands that follow a claim -/

def RuntimeError.isStale : RuntimeError → Bool
  | .staleAttemptFence _ => true
  | _ => false

/-- The transaction never calls a fence stale. -/
abbrev NeverStale {α : Type} (body : Tx α) : Prop :=
  RaisesOnly (fun e => RuntimeError.isStale e = false) body

theorem neverStale_stableId (s : String) : NeverStale (stableId s) :=
  raisesOnly_fromOption _ _ rfl

theorem neverStale_boundedRuntimeIdentity (candidates : List String) :
    NeverStale (boundedRuntimeIdentity candidates) :=
  raisesOnly_fromOption _ _ rfl

theorem neverStale_updateTask (task : TaskRecord) : NeverStale (updateTask task) :=
  raisesOnly_bind raisesOnly_get fun _ =>
    raisesOnly_bind (raisesOnly_fromOption _ _ rfl) fun _ => raisesOnly_modify _

theorem neverStale_updateAttempt (attempt : TaskAttempt) : NeverStale (updateAttempt attempt) :=
  raisesOnly_bind raisesOnly_get fun _ =>
    raisesOnly_bind (raisesOnly_fromOption _ _ rfl) fun _ => raisesOnly_modify _

theorem neverStale_insertTask (task : TaskRecord) : NeverStale (insertTask task) :=
  raisesOnly_bind raisesOnly_get fun _ =>
    raisesOnly_bind (raisesOnly_raiseWhen _ _ rfl) fun _ =>
      raisesOnly_bind (raisesOnly_raiseWhen _ _ rfl) fun _ => raisesOnly_modify _

theorem neverStale_appendInSession (event : RunEvent) : NeverStale (appendInSession event) := by
  refine raisesOnly_bind raisesOnly_get fun db => ?_
  split
  · exact raisesOnly_bind (raisesOnly_raiseWhen _ _ rfl) fun _ => raisesOnly_pure _
  · exact raisesOnly_bind (raisesOnly_raiseWhen _ _ rfl) fun _ =>
      raisesOnly_bind (raisesOnly_raiseWhen _ _ rfl) fun _ =>
        raisesOnly_bind (raisesOnly_modify _) fun _ => raisesOnly_pure _

theorem neverStale_append (runId : RunId) (taskId : TaskId) (payload : EventPayload)
    (identity : StableId) (refs : List ArtifactRef) :
    NeverStale (append env runId taskId payload identity refs) := by
  refine raisesOnly_bind raisesOnly_get fun db => raisesOnly_bind (neverStale_stableId _) fun _ =>
    raisesOnly_bind (neverStale_boundedRuntimeIdentity _) fun _ => ?_
  split
  · exact raisesOnly_bind (neverStale_appendInSession _) fun _ => raisesOnly_pure _
  · exact raisesOnly_throw _ rfl

theorem neverStale_recordBlocked (task : TaskRecord) (attempt : TaskAttempt) (status : TaskStatus)
    (cause : Option String) (failure : FailureClass) :
    NeverStale (recordBlocked env task attempt status cause failure) := by
  unfold recordBlocked
  split
  · exact raisesOnly_bind (neverStale_stableId _) fun _ => neverStale_append _ _ _ _ _ _
  · exact raisesOnly_pure _

theorem neverStale_insertSuccessor (successor : TaskRecord) :
    NeverStale (insertSuccessor env successor) := by
  refine raisesOnly_bind raisesOnly_get fun db =>
    raisesOnly_bind (raisesOnly_raiseWhen _ _ rfl) fun _ => ?_
  split
  · exact raisesOnly_bind
      (raisesOnly_bind (raisesOnly_raiseWhen _ _ rfl) fun _ => raisesOnly_pure _)
      fun _ => raisesOnly_raiseWhen _ _ rfl
  · exact raisesOnly_bind (neverStale_boundedRuntimeIdentity _) fun _ =>
      raisesOnly_bind (neverStale_append _ _ _ _ _ _) fun _ => neverStale_insertTask _

variable (predecessor : TaskRecord)

theorem neverStale_insertSuccessors (basis : CommitId) (successors : List TaskRecord) :
    ∀ seen, NeverStale (insertSuccessors env predecessor basis successors seen) := by
  induction successors with
  | nil =>
    intro seen
    exact raisesOnly_pure _
  | cons successor rest ih =>
    intro seen
    unfold insertSuccessors
    split
    · exact raisesOnly_throw _ rfl
    · exact raisesOnly_bind (neverStale_insertSuccessor _ _) fun _ => ih _

theorem neverStale_insertSuccessorTasks (successors : List TaskRecord) (basis : Option CommitId) :
    NeverStale (insertSuccessorTasks env predecessor successors basis) := by
  unfold insertSuccessorTasks
  split
  · exact raisesOnly_pure _
  · exact raisesOnly_bind (raisesOnly_raiseWhen _ _ rfl) fun _ =>
      neverStale_insertSuccessors _ _ _ _ _

theorem markStarted_neverStale (fence : AttemptFence) (db : Db) (owned : Owned)
    (hfence : FenceValid db fence true owned) (message : String) :
    markStarted env fence db ≠ .error (.staleAttemptFence message) := by
  intro h
  have hstale := raises_of_ok (P := fun e => RuntimeError.isStale e = false)
    ((requireFence_ok _ _ _ _ _).mpr ⟨hfence, rfl⟩) ?_ h
  · exact absurd hstale (by simp [RuntimeError.isStale])
  · dsimp only
    split
    · exact raisesOnly_pure _
    · exact raisesOnly_bind (neverStale_updateAttempt _) fun _ =>
        raisesOnly_bind (neverStale_stableId _) fun _ =>
          raisesOnly_bind (neverStale_append _ _ _ _ _ _) fun _ => raisesOnly_pure _

/-- Renewing under a valid fence of an attempt that has not ended is never refused as stale. -/
theorem heartbeat_neverStale (fence : AttemptFence) (db : Db) (owned : Owned)
    (hfence : FenceValid db fence true owned) (hopen : owned.attempt.endedAt = none)
    (message : String) : heartbeat service env fence db ≠ .error (.staleAttemptFence message) := by
  intro h
  have hstale := raises_of_ok (P := fun e => RuntimeError.isStale e = false)
    ((requireFence_ok _ _ _ _ _).mpr ⟨hfence, rfl⟩) ?_ h
  · exact absurd hstale (by simp [RuntimeError.isStale])
  · simp only [hopen, Option.isSome_none, Bool.false_eq_true, raiseWhen, if_false]
    exact raisesOnly_bind (raisesOnly_pure _) fun _ =>
      raisesOnly_bind (neverStale_updateAttempt _) fun _ => raisesOnly_pure _

theorem settleAttempt_neverStale (fence : AttemptFence) (outcome : AttemptOutcome)
    (status : TaskStatus) (refs : List ArtifactRef) (failure : Option ReportedFailure)
    (successors : List TaskRecord) (db : Db) (owned : Owned)
    (hfence : FenceValid db fence true owned) (message : String) :
    settleAttempt env fence outcome status refs failure successors db ≠
      .error (.staleAttemptFence message) := by
  intro h
  rcases (bind_error _ _ _ _).mp h with hvalue | ⟨_, db', hguard, h⟩
  · have hstale := raisesOnly_raiseWhen (P := fun e => RuntimeError.isStale e = false) _ _ rfl _ _ hvalue
    exact absurd hstale (by simp [RuntimeError.isStale])
  · obtain rfl := ((raiseWhen_ok _ _ _ _ _).mp hguard).2
    have hstale := raises_of_ok (P := fun e => RuntimeError.isStale e = false)
      ((requireFence_ok _ _ _ _ _).mpr ⟨hfence, rfl⟩) ?_ h
    · exact absurd hstale (by simp [RuntimeError.isStale])
    · exact raisesOnly_bind (raisesOnly_raiseWhen _ _ rfl) fun _ =>
        raisesOnly_bind raisesOnly_get fun _ =>
        raisesOnly_bind (raisesOnly_raiseWhen _ _ rfl) fun _ =>
        raisesOnly_bind (neverStale_updateAttempt _) fun _ =>
        raisesOnly_bind (neverStale_updateTask _) fun _ =>
        raisesOnly_bind (neverStale_recordBlocked _ _ _ _ _ _) fun _ =>
        raisesOnly_bind (neverStale_stableId _) fun _ =>
        raisesOnly_bind (neverStale_append _ _ _ _ _ _) fun _ =>
        raisesOnly_bind (neverStale_insertSuccessorTasks _ _ _ _) fun _ => raisesOnly_pure _

theorem stale_of_requireFence {α : Type} (fence : AttemptFence) (rest : Owned → Tx α) (db : Db)
    (message : String) (h : requireFence fence true db = .error (.staleAttemptFence message)) :
    (requireFence fence true >>= rest) db = .error (.staleAttemptFence message) :=
  (bind_error _ _ _ _).mpr (.inl h)

/-- A commit task that held the lane, spent its budget and was given more. -/
def Sample.extended : List Call :=
  Sample.laneHeld ++
    [⟨Sample.env 4 0, .settleAttempt (Sample.fence 1 1) .failed .budgetReview [] none []⟩,
      ⟨Sample.env 5 0, .extendBudget Sample.taskId ⟨"c", .refl true⟩ "operator" "budget" 1 0 none⟩]

/-- Claim the sample task after some calls, and check the fence. -/
def Sample.claimThenCheck (calls : List Call) : Option Bool :=
  match claim Sample.service (Sample.env 6 2) Sample.taskId "w" none (Sample.after calls) with
  | .error _ => none
  | .ok ((_, fence), db') => some (requireFence fence true db').toOption.isSome

theorem Sample.claimThenCheck_refused {calls : List Call}
    (h : Sample.claimThenCheck calls = some false) :
    ∃ attempt fence db', claim Sample.service (Sample.env 6 2) Sample.taskId "w" none
        (Sample.after calls) = .ok ((attempt, fence), db') ∧
      ¬ ∃ owned, requireFence fence true db' = .ok (owned, db') := by
  unfold Sample.claimThenCheck at h
  cases hclaim : claim Sample.service (Sample.env 6 2) Sample.taskId "w" none
      (Sample.after calls) with
  | error e =>
    rw [hclaim] at h
    exact absurd h (by simp)
  | ok issued =>
    rcases issued with ⟨⟨attempt, fence⟩, db'⟩
    refine ⟨attempt, fence, db', rfl, ?_⟩
    rintro ⟨owned, hpasses⟩
    rw [hclaim] at h
    simp [hpasses, Except.toOption] at h

/-- A commit task that is claimed again after its budget was extended cannot be
    worked on: the new fence does not pass its own check. -/
theorem fresh_fence_refused :
    ¬ ∀ (service : Service) (canon : Canon) (calls : List Call), Disciplined calls →
      ∀ (env : Env) (taskId : TaskId) (workerId : String) (observed : Option Nat)
        (attempt : TaskAttempt) (fence : AttemptFence) (db' : Db),
        claim service env taskId workerId observed (runCalls service (Db.fresh canon) calls) =
          .ok ((attempt, fence), db') →
        ∃ owned, requireFence fence true db' = .ok (owned, db') := by
  intro h
  have hchecked : Sample.claimThenCheck Sample.extended = some false := by decide +kernel
  rcases Sample.claimThenCheck_refused hchecked with ⟨attempt, fence, db', hclaim, hrefused⟩
  exact hrefused (h Sample.service Sample.canon Sample.extended (by decide) _ _ _ _ attempt fence
    db' hclaim)

/-- For every reachable store and every claim that succeeds there, the fence it
    returns passes the check in the store it leaves, and starting, renewing and
    settling with it are not refused as stale, exactly when the claimed task is
    not a commit task with a writer generation left over. -/
theorem fresh_fence_iff (service : Service) (canon : Canon) (calls : List Call) (env : Env)
    (taskId : TaskId) (workerId : String) (observed : Option Nat) (task : TaskRecord)
    (attempt : TaskAttempt) (fence : AttemptFence) (db' : Db)
    (hstored : (runCalls service (Db.fresh canon) calls).stored taskId = some task)
    (hclaim : claim service env taskId workerId observed (runCalls service (Db.fresh canon) calls) =
      .ok ((attempt, fence), db')) :
    ((∃ owned, requireFence fence true db' = .ok (owned, db')) ↔ ¬ CarriesGeneration task) ∧
    ((∀ env' message, markStarted env' fence db' ≠ .error (.staleAttemptFence message)) ↔
      ¬ CarriesGeneration task) ∧
    ((∀ env' message, heartbeat service env' fence db' ≠ .error (.staleAttemptFence message)) ↔
      ¬ CarriesGeneration task) ∧
    ((∀ env' outcome status refs failure successors message,
      settleAttempt env' fence outcome status refs failure successors db' ≠
        .error (.staleAttemptFence message)) ↔ ¬ CarriesGeneration task) := by
  have hdb := runCalls_coherent service canon calls
  have hspec := claim_spec service env taskId workerId observed _ db' task attempt fence hdb hstored
    hclaim
  by_cases hcarries : CarriesGeneration task
  · have hrefused : requireFence fence true db' =
        .error (.staleAttemptFence "attempt lost the project writer generation") := by
      refine requireFence_lane_lost db' fence _ hspec.fenceValid hcarries ?_
      intro writer hwriter hsame
      -- A lane that named the new attempt would name one that did not exist.
      rw [hspec.lanes] at hwriter
      rcases runCalls_lanesKnown service canon calls _ writer hwriter with ⟨arow, harow⟩
      rw [hsame, hspec.absent] at harow
      exact absurd harow (by simp)
    refine ⟨iff_of_false ?_ (not_not.mpr hcarries), iff_of_false ?_ (not_not.mpr hcarries),
      iff_of_false ?_ (not_not.mpr hcarries), iff_of_false ?_ (not_not.mpr hcarries)⟩
    · rintro ⟨owned, hok⟩
      rw [hrefused] at hok
      exact absurd hok (by simp)
    · intro h
      exact h env _ (stale_of_requireFence fence _ db' _ hrefused)
    · intro h
      exact h env _ (stale_of_requireFence fence _ db' _ hrefused)
    · intro h
      refine h env .succeeded .succeeded [] none [] _ ((bind_error _ _ _ _).mpr
        (.inr ⟨(), db', (raiseWhen_ok _ _ _ _ _).mpr ⟨by decide, rfl⟩,
          stale_of_requireFence fence _ db' _ hrefused⟩))
  · have hvalid := hspec.fenceValid_lane hcarries
    exact ⟨iff_of_true ⟨_, (requireFence_ok _ _ _ _ _).mpr ⟨hvalid, rfl⟩⟩ hcarries,
      iff_of_true (fun env' message => markStarted_neverStale env' fence db' _ hvalid message) hcarries,
      iff_of_true (fun env' message =>
        heartbeat_neverStale service env' fence db' _ hvalid hspec.opened message) hcarries,
      iff_of_true (fun env' outcome status refs failure successors message =>
        settleAttempt_neverStale env' fence outcome status refs failure successors db' _ hvalid
          message) hcarries⟩

/-- The first claim of a Planner task issues a fence that passes. -/
theorem fresh_fence_planner :
    ∃ attempt fence db', claim Sample.service (Sample.env 2 1) Sample.taskId "w" none
        (Sample.after [⟨Sample.env 1 0, .createTask (Sample.task .planCandidate)⟩]) =
        .ok ((attempt, fence), db') ∧
      ∃ owned, requireFence fence true db' = .ok (owned, db') := by
  have hstored : (Sample.after [⟨Sample.env 1 0, .createTask (Sample.task .planCandidate)⟩]).stored
      Sample.taskId = some (Sample.task .planCandidate) := by rfl
  cases hclaim : claim Sample.service (Sample.env 2 1) Sample.taskId "w" none
      (Sample.after [⟨Sample.env 1 0, .createTask (Sample.task .planCandidate)⟩]) with
  | error e =>
    have hok : (claim Sample.service (Sample.env 2 1) Sample.taskId "w" none
        (Sample.after [⟨Sample.env 1 0, .createTask (Sample.task .planCandidate)⟩])).toOption.isSome =
        true := by rfl
    rw [hclaim] at hok
    exact absurd hok (by simp [Except.toOption])
  | ok p =>
    rcases p with ⟨⟨attempt, fence⟩, db'⟩
    refine ⟨attempt, fence, db', rfl, ((fresh_fence_iff Sample.service Sample.canon _ _ _ _ _
      (Sample.task .planCandidate) attempt fence db' hstored hclaim).1).mpr ?_⟩
    rintro ⟨hkind, _⟩
    exact absurd hkind (by decide)

end NovelAgent.Runtime
