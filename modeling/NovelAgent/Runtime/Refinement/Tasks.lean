import NovelAgent.Runtime.Kernel

/-!
# Task Commands as Moves

The commands that create, supersede, decide on and claim tasks, and the two
that keep an attempt alive, are moves of the kernel.
-/

namespace NovelAgent.Runtime

open Core Domain Core.Transaction

theorem created_move (env : Env) (command : Command) (db₀ db db₁ db' : Db) (task : TaskRecord)
    (identity : StableId) (refs : List ArtifactRef) (u v : Unit) (hlog : db.log.Numbered)
    (hcurrent : task.currentAttemptId = none ∨ command = .createTask task ∨
      ∃ planner, db₀.stored planner.taskId = some planner ∧ planner.status = .blocked ∧
        task.currentAttemptId = planner.currentAttemptId)
    (hlater : command.signature? = none ∨ db₀.log.events.length < db.log.events.length)
    (happend : append env task.runId task.taskId (.taskCreated task) identity refs db =
      .ok (u, db₁))
    (hinsert : insertTask task db₁ = .ok (v, db')) : Move env command db₀ db db' := by
  rcases append_records _ _ _ _ _ _ _ _ _ happend hlog with ⟨events, hrecords, rfl⟩
  rcases (insertTask_ok _ _ _ _).mp hinsert with ⟨habsent, _, rfl⟩
  exact .created db task _ events habsent hcurrent hlater rfl hrecords

theorem createRunAndInitialTask_moves (env : Env) (request : CreativeRunRequest) (db db' : Db)
    (result : TaskRecord) (hdb : Coherent db)
    (h : createRunAndInitialTask env request db = .ok (result, db')) :
    Moves env (.createRunAndInitialTask request) db db db' := by
  simp only [createRunAndInitialTask, bind_ok, boundedRuntimeIdentity_ok, raiseWhen_ok,
    get_ok] at h
  rcases h with ⟨taskId, _, ⟨_, rfl⟩, _, _, ⟨_, rfl⟩, _, _, ⟨rfl, rfl⟩, h⟩
  split at h
  · simp only [bind_ok, loadTask_ok, raiseWhen_ok, pure_ok] at h
    rcases h with ⟨_, _, ⟨_, rfl⟩, _, _, ⟨_, rfl⟩, _, rfl⟩
    exact .refl
  · simp only [bind_ok, raiseWhen_ok, taskCreatedIdentity, boundedRuntimeIdentity_ok,
      pure_ok] at h
    rcases h with ⟨_, _, ⟨_, rfl⟩, _, _, ⟨_, rfl⟩, _, _, happend, _, _, hinsert, _, rfl⟩
    exact .single
      (created_move _ _ _ _ _ _ _ _ _ _ _ hdb.numbered (.inl rfl) (.inl rfl) happend hinsert)

/-- A created task is a move. -/
theorem createTask_moves (env : Env) (task : TaskRecord) (db db' : Db) (result : TaskRecord)
    (hdb : Coherent db) (h : createTask env task db = .ok (result, db')) :
    Moves env (.createTask task) db db db' := by
  simp only [createTask, bind_ok, get_ok] at h
  rcases h with ⟨_, _, ⟨rfl, rfl⟩, h⟩
  cases hrow : db.tasks.lookup task.taskId with
  | some existing =>
    simp only [hrow, bind_ok, restoreTask_ok, raiseWhen_ok, pure_ok] at h
    rcases h with ⟨_, _, ⟨_, rfl⟩, _, _, ⟨_, rfl⟩, _, rfl⟩
    exact .refl
  | none =>
    simp only [hrow, bind_ok, raiseWhen_ok, taskCreatedIdentity, boundedRuntimeIdentity_ok,
      pure_ok] at h
    rcases h with ⟨_, _, ⟨_, rfl⟩, _, _, ⟨_, rfl⟩, _, _, happend, _, _, hinsert, _, rfl⟩
    exact .single
      (created_move _ _ _ _ _ _ _ _ _ _ _ hdb.numbered (.inr (.inl rfl)) (.inl rfl) happend
        hinsert)

theorem supersedeTask_moves (env : Env) (taskId : TaskId) (reason : String) (db db' : Db)
    (result : TaskRecord) (hdb : Coherent db)
    (h : supersedeTask env taskId reason db = .ok (result, db')) :
    Moves env (.supersedeTask taskId reason) db db db' := by
  simp only [supersedeTask, bind_ok, raiseWhen_ok, loadTask_ok] at h
  rcases h with ⟨_, _, ⟨_, rfl⟩, _, _, ⟨⟨row, hrow, rfl, _⟩, rfl⟩, h⟩
  obtain rfl := hdb.taskKey _ _ hrow
  split at h
  · rw [pure_ok] at h
    rw [← h.2]
  · rename_i hopen
    simp only [bind_ok, raiseWhen_ok, updateTask_ok, boundedRuntimeIdentity_ok, pure_ok] at h
    rcases h with ⟨_, _, ⟨hstatus, rfl⟩, _, _, ⟨row', hrow', rfl⟩, commandId, _, ⟨_, rfl⟩,
      identity, _, ⟨_, rfl⟩, _, _, happend, _, rfl⟩
    obtain rfl : row = row' := Option.some.inj (hrow.symm.trans hrow')
    rcases append_records _ _ _ _ _ _ _ _ _ happend hdb.numbered with ⟨events, hrecords, rfl⟩
    exact .single (.rewritten db row _ _ events hrow (by rw [Db.stored, hrow]; rfl)
      (.superseded _ reason commandId identity (by simpa using hopen) (by simpa using hstatus))
      hrecords (by simp))

theorem insertSuccessor_moves (env : Env) (command : Command) (db₀ db db' : Db)
    (successor : TaskRecord) (u : Unit) (hdb : Coherent db)
    (hidle : successor.currentAttemptId = none)
    (hlater : command.signature? = none ∨ db₀.log.events.length < db.log.events.length)
    (h : insertSuccessor env successor db = .ok (u, db')) : Moves env command db₀ db db' := by
  simp only [insertSuccessor, bind_ok, get_ok, raiseWhen_ok] at h
  rcases h with ⟨_, _, ⟨rfl, rfl⟩, _, _, ⟨_, rfl⟩, h⟩
  cases hrow : db.tasks.lookup successor.taskId with
  | some existing =>
    simp only [hrow, bind_ok, restoreTask_ok, raiseWhen_ok] at h
    rcases h with ⟨_, _, ⟨_, rfl⟩, _, rfl⟩
    exact .refl
  | none =>
    simp only [hrow, bind_ok, taskCreatedIdentity, boundedRuntimeIdentity_ok] at h
    rcases h with ⟨_, _, ⟨_, rfl⟩, _, _, happend, hinsert⟩
    exact .single
      (created_move _ _ _ _ _ _ _ _ _ _ _ hdb.numbered (.inl hidle) hlater happend hinsert)

variable {env : Env} {command : Command} {db₀ db db' : Db}

theorem Moves.coherent (h : Moves env command db₀ db db') (hdb : Coherent db) : Coherent db' := by
  induction h with
  | refl => exact hdb
  | tail _ hlast ih => exact hlast.coherent ih

theorem Moves.log_length_le (h : Moves env command db₀ db db') :
    db.log.events.length ≤ db'.log.events.length := by
  induction h with
  | refl => exact Nat.le_refl _
  | tail _ hlast ih =>
    rcases hlast.log_eq with hlog | ⟨_, _, _, events, _, hlog⟩
    · rw [hlog]
      exact ih
    · rw [hlog, EventLog.pushAll_events, List.length_append]
      omega

theorem successorViolation_eq_none {predecessor successor : TaskRecord} {basis : CommitId}
    {seen : List TaskId} (h : successorViolation predecessor successor basis seen = none) :
    successor.currentAttemptId = none := by
  unfold successorViolation at h
  grind

/-- The loop over successors only creates tasks nobody has claimed. The induction is on the
    successors; the store is general because each round starts where the last one stopped. -/
theorem insertSuccessors_moves (env : Env) (command : Command) (db₀ : Db)
    (predecessor : TaskRecord) (basis : CommitId) :
    ∀ (successors : List TaskRecord) (seen : List TaskId) (db db' : Db) (u : Unit),
      Coherent db →
      (command.signature? = none ∨ db₀.log.events.length < db.log.events.length) →
      insertSuccessors env predecessor basis successors seen db = .ok (u, db') →
      Moves env command db₀ db db' := by
  intro successors
  induction successors with
  | nil =>
    intro seen db db' u _ _ h
    rw [insertSuccessors, pure_ok] at h
    rw [← h.2]
  | cons successor rest ih =>
    intro seen db db' u hdb hlater h
    rw [insertSuccessors] at h
    cases hviolation : successorViolation predecessor successor basis seen with
    | some message =>
      rw [hviolation] at h
      exact absurd h (throw_ok _ _ _ _)
    | none =>
      simp only [hviolation, bind_ok] at h
      rcases h with ⟨v, db₁, hhead, htail⟩
      have hmoves := insertSuccessor_moves env command db₀ db db₁ successor v hdb
        (successorViolation_eq_none hviolation) hlater hhead
      have hgrows := Moves.log_length_le hmoves
      exact hmoves.trans (ih _ db₁ db' u (Moves.coherent hmoves hdb)
        (hlater.imp_right fun hlt => Nat.lt_of_lt_of_le hlt hgrows) htail)

/-- The loop over successors only creates tasks. -/
theorem insertSuccessorTasks_moves (env : Env) (command : Command) (db₀ db db' : Db)
    (predecessor : TaskRecord) (successors : List TaskRecord) (basis : Option CommitId) (u : Unit)
    (hdb : Coherent db)
    (hlater : command.signature? = none ∨ db₀.log.events.length < db.log.events.length)
    (h : insertSuccessorTasks env predecessor successors basis db = .ok (u, db')) :
    Moves env command db₀ db db' := by
  rw [insertSuccessorTasks] at h
  split at h
  · rw [pure_ok] at h
    rw [← h.2]
  · simp only [bind_ok, raiseWhen_ok] at h
    rcases h with ⟨_, _, ⟨_, rfl⟩, h⟩
    exact insertSuccessors_moves env command db₀ predecessor _ successors [] db db' u hdb hlater h

theorem completeWaitingTask_moves (env : Env) (taskId : TaskId) (receipt : AcceptanceReceipt)
    (receiptRef : ArtifactRef) (successors : List TaskRecord) (db db' : Db) (result : TaskRecord)
    (hdb : Coherent db)
    (h : completeWaitingTask env taskId receipt receiptRef successors db = .ok (result, db')) :
    Moves env (.completeWaitingTask taskId receipt receiptRef successors) db db db' := by
  simp only [completeWaitingTask, bind_ok, raiseWhen_ok, loadTask_ok, updateTask_ok, pure_ok] at h
  rcases h with ⟨_, _, ⟨⟨row, hrow, rfl, _⟩, rfl⟩, _, _, ⟨hstatus, rfl⟩, _, _, ⟨_, rfl⟩, _, _,
    ⟨row', hrow', rfl⟩, _, _, happend, _, _, hsuccessors, _, rfl⟩
  obtain rfl := hdb.taskKey _ _ hrow
  obtain rfl : row = row' := Option.some.inj (hrow.symm.trans hrow')
  rcases append_records _ _ _ _ _ _ _ _ _ happend hdb.numbered with ⟨events, hrecords, rfl⟩
  push Not at hstatus
  have hmove : Move env (.completeWaitingTask row.taskJson.taskId receipt receiptRef successors)
      db db _ :=
    .rewritten db row _ _ events hrow (by rw [Db.stored, hrow]; rfl)
      (.decided _ receipt receiptRef successors hstatus.1) hrecords (by simp)
  refine Relation.ReflTransGen.head hmove
    (insertSuccessorTasks_moves _ _ _ _ _ _ _ _ _ (hmove.coherent hdb) (.inr ?_) hsuccessors)
  have hlength := hrecords.length_eq
  change db.log.events.length < (db.log.pushAll events).events.length
  rw [EventLog.pushAll_events, List.length_append, ← hlength]
  exact Nat.lt_succ_self _

theorem evaluateTaskEligibility_eligible {task : TaskRecord} {now : Time} {commit : CommitId}
    {statuses : List TaskStatus} {permission : String} {generation : Nat}
    (h : (evaluateTaskEligibility task now commit statuses permission generation).eligible = true) :
    task.status = .ready ∧ task.currentAttemptId = none ∧ task.failureBudget ≠ 0 := by
  unfold evaluateTaskEligibility at h
  grind [Option.not_isSome_iff_eq_none]

theorem loadStatuses_ok (taskIds : List TaskId) (db db' : Db) (statuses : List TaskStatus)
    (h : loadStatuses taskIds db = .ok (statuses, db')) : db = db' := by
  induction taskIds generalizing statuses with
  | nil =>
    rw [loadStatuses, pure_ok] at h
    exact h.2
  | cons taskId rest ih =>
    simp only [loadStatuses, bind_ok, loadTask_ok, pure_ok] at h
    rcases h with ⟨_, _, ⟨_, rfl⟩, tail, _, htail, _, rfl⟩
    exact ih tail htail

variable (service : Service)

theorem claim_moves (env : Env) (taskId : TaskId) (workerId : String) (observed : Option Nat)
    (db db' : Db) (result : TaskAttempt × AttemptFence) (hdb : Coherent db)
    (h : claim service env taskId workerId observed db = .ok (result, db')) :
    Moves env (.claim taskId workerId observed) db db db' := by
  simp only [claim, bind_ok, raiseWhen_ok, loadTask_ok, requireObservedRevision_ok, get_ok,
    fromOption_ok] at h
  rcases h with ⟨_, _, ⟨_, rfl⟩, _, _, ⟨⟨row, hrow, rfl, _⟩, rfl⟩, _, _, ⟨_, rfl⟩, _, _,
    ⟨rfl, rfl⟩, _, _, ⟨_, rfl⟩, statuses, _, hstatuses, h⟩
  obtain rfl := loadStatuses_ok _ _ _ _ hstatuses
  simp only [updateTask_ok, stableId_ok, insertAttempt_ok, pure_ok] at h
  rcases h with ⟨_, _, ⟨heligible, rfl⟩, token, _, ⟨_, rfl⟩, attemptId, _, ⟨_, rfl⟩, _, _,
    ⟨row', hrow', rfl⟩, _, _, ⟨habsent, _, rfl⟩, identity, _, ⟨_, rfl⟩, _, _, happend, _, rfl⟩
  obtain rfl := hdb.taskKey _ _ hrow
  obtain rfl : row = row' := Option.some.inj (hrow.symm.trans hrow')
  rcases append_records _ _ _ _ _ _ _ _ _ happend hdb.numbered with ⟨events, hrecords, rfl⟩
  rcases evaluateTaskEligibility_eligible (by simpa using heligible) with ⟨hready, hidle, hbudget⟩
  exact .single (.opened db row _ _ identity events workerId observed hrow
    (by rw [Db.stored, hrow]; rfl) rfl hready hidle hbudget habsent rfl rfl hrecords)

theorem markStarted_moves (env : Env) (fence : AttemptFence) (db db' : Db) (result : TaskAttempt)
    (hdb : Coherent db) (h : markStarted env fence db = .ok (result, db')) :
    Moves env (.markStarted fence) db db db' := by
  simp only [markStarted, bind_ok, requireFence_ok] at h
  rcases h with ⟨_, _, ⟨hfence, rfl⟩, h⟩
  rcases hfence.rows hdb with ⟨row, arow, hrow, harow, hcurrent, _, _, rfl⟩
  split at h
  · rw [pure_ok] at h
    rw [← h.2]
  · simp only [bind_ok, updateAttempt_ok, stableId_ok, pure_ok] at h
    rcases h with ⟨_, _, ⟨arow', harow', rfl⟩, identity, _, ⟨_, rfl⟩, _, _, happend, _, rfl⟩
    obtain rfl : arow = arow' := Option.some.inj (harow.symm.trans harow')
    rcases append_records _ _ _ _ _ _ _ _ _ happend hdb.numbered with ⟨events, hrecords, rfl⟩
    exact .single (.touched db row arow _ _ events rfl hrow hcurrent harow rfl rfl rfl
      (.inr ⟨_, _, identity, rfl⟩) hrecords)

theorem heartbeat_moves (env : Env) (fence : AttemptFence) (db db' : Db) (result : TaskAttempt)
    (hdb : Coherent db) (h : heartbeat service env fence db = .ok (result, db')) :
    Moves env (.heartbeat fence) db db db' := by
  simp only [heartbeat, bind_ok, requireFence_ok, raiseWhen_ok, updateAttempt_ok, pure_ok] at h
  rcases h with ⟨_, _, ⟨hfence, rfl⟩, _, _, ⟨_, rfl⟩, _, _, ⟨arow', harow', rfl⟩, _, rfl⟩
  rcases hfence.rows hdb with ⟨row, arow, hrow, harow, hcurrent, _, _, rfl⟩
  obtain rfl : arow = arow' := Option.some.inj (harow.symm.trans harow')
  exact .single (.touched db row arow _ [] [] rfl hrow hcurrent harow rfl rfl rfl (.inl rfl) trivial)

end NovelAgent.Runtime
