import NovelAgent.Runtime.Refinement.Tasks

/-!
# Settlement Commands as Moves

The commands that fence an expired attempt and the ones that end an attempt
are moves of the kernel. A settlement writes the attempt, the task and a few
events; together they are one closing move, and the tasks it creates in the
same transaction are creating moves after it.
-/

namespace NovelAgent.Runtime

open Core Domain Core.Transaction

theorem stored_of_lookup {db : Db} {taskId : TaskId} {row : TaskRow}
    (h : db.tasks.lookup taskId = some row) : db.stored taskId = some row.taskJson := by
  rw [Db.stored, h]
  rfl

variable (env : Env) (taskId : TaskId) (commandId : StableId) (actorId reason : String)
    (observed : Option Nat) (now : Option Time) (db db' : Db) (result : TaskRecord)

/-- A suspicion is a move. -/
theorem suspectExpiredAttempt_moves (hdb : Coherent db)
    (h : suspectExpiredAttempt env taskId commandId actorId reason observed now db =
      .ok (result, db')) :
    Moves env (.suspectExpiredAttempt taskId commandId actorId reason observed now) db db db' := by
  simp only [suspectExpiredAttempt, bind_ok, loadTask_ok, requireObservedRevision_ok] at h
  rcases h with ⟨_, _, ⟨⟨row, hrow, rfl, _⟩, rfl⟩, _, _, ⟨_, rfl⟩, h⟩
  obtain rfl := hdb.taskKey _ _ hrow
  split at h
  · rw [pure_ok] at h
    rw [← h.2]
  · simp only [bind_ok, raiseWhen_ok, fromOption_ok, get_ok, restoreAttempt_ok, updateTask_ok,
      pure_ok] at h
    rcases h with ⟨_, _, ⟨hstatus, rfl⟩, attemptId, _, ⟨hcurrent, rfl⟩, _, _, ⟨rfl, rfl⟩, _, _,
      ⟨_, rfl⟩, _, _, ⟨_, rfl⟩, _, _, ⟨_, rfl⟩, _, _, ⟨row', hrow', rfl⟩, _, _, happend, _, rfl⟩
    obtain rfl : row = row' := Option.some.inj (hrow.symm.trans hrow')
    rcases append_records _ _ _ _ _ _ _ _ _ happend hdb.numbered with ⟨events, hrecords, rfl⟩
    exact .single (.rewritten db row _ _ events hrow (stored_of_lookup hrow)
      (.suspected _ commandId actorId reason observed now (by simpa using hstatus)
        (by simp [hcurrent])) hrecords (by simp))

theorem reclaimExpiredAttempt_moves (hdb : Coherent db)
    (h : reclaimExpiredAttempt env taskId commandId actorId reason observed now db =
      .ok (result, db')) :
    Moves env (.reclaimExpiredAttempt taskId commandId actorId reason observed now) db db db' ∧
      db.EndsCurrent db' taskId := by
  simp only [reclaimExpiredAttempt, bind_ok, loadTask_ok, requireObservedRevision_ok, raiseWhen_ok,
    fromOption_ok, get_ok, restoreAttempt_ok] at h
  rcases h with ⟨_, _, ⟨⟨row, hrow, rfl, _⟩, rfl⟩, _, _, ⟨_, rfl⟩, _, _, ⟨_, rfl⟩, attemptId, _,
    ⟨hcurrent, rfl⟩, _, _, ⟨rfl, rfl⟩, arow, _, ⟨harow, rfl⟩, _, _, ⟨⟨rfl, _⟩, rfl⟩, _, _,
    ⟨_, rfl⟩, _, _, ⟨hfrontier, rfl⟩, h⟩
  simp only [updateAttempt_ok, updateTask_ok, boundedRuntimeIdentity_ok, pure_ok] at h
  rcases h with ⟨_, _, ⟨arow', harow', rfl⟩, _, _, ⟨row', hrow', rfl⟩, _, _, happend₁, identity, _,
    ⟨_, rfl⟩, _, _, happend₂, _, rfl⟩
  obtain rfl := hdb.taskKey _ _ hrow
  obtain rfl := hdb.attemptKey _ _ harow
  obtain rfl : row = row' := Option.some.inj (hrow.symm.trans hrow')
  obtain rfl : arow = arow' := Option.some.inj (harow.symm.trans harow')
  rcases append_records _ _ _ _ _ _ _ _ _ happend₁ hdb.numbered with ⟨events₁, hrecords₁, rfl⟩
  rcases append_records _ _ _ _ _ _ _ _ _ happend₂
    (Records.numbered _ _ _ _ _ hrecords₁ hdb.numbered) with ⟨events₂, hrecords₂, rfl⟩
  rw [Db.record_append]
  refine ⟨.single (.closed db row _ arow _ _ _ hrow (stored_of_lookup hrow) hcurrent harow
    (.reclaimed _ _ commandId identity actorId reason observed now) rfl
    (fun _ => by simpa using hfrontier)
    (Records.append _ _ _ _ _ _ _ hrecords₁ hrecords₂) (by simp)), .of_row hrow hcurrent ?_⟩
  exact ⟨_, AList.lookup_insert _, Option.some_ne_none _⟩

/-- The notice of a block records only itself. -/
theorem recordBlocked_records (task : TaskRecord) (attempt : TaskAttempt) (status : TaskStatus)
    (cause : Option String) (failure : FailureClass) (db db' : Db) (u : Unit)
    (h : recordBlocked env task attempt status cause failure db = .ok (u, db'))
    (hlog : db.log.Numbered) :
    ∃ notices events, (∀ entry ∈ notices, IsBlockNotice entry) ∧
      Records db.log task.runId task.taskId notices events ∧ db' = db.record events := by
  unfold recordBlocked at h
  split at h
  · simp only [bind_ok, stableId_ok] at h
    rcases h with ⟨identity, _, ⟨_, rfl⟩, happend⟩
    rcases append_records _ _ _ _ _ _ _ _ _ happend hlog with ⟨events, hrecords, rfl⟩
    refine ⟨_, events, ?_, hrecords, rfl⟩
    intro entry hentry
    rw [List.mem_singleton] at hentry
    exact ⟨_, _, _, _, congrArg Entry.payload hentry⟩
  · rw [pure_ok] at h
    exact ⟨[], [], by simp, trivial, h.2.symm⟩

variable (fence : AttemptFence)

theorem settleAttempt_moves (outcome : AttemptOutcome) (terminalStatus : TaskStatus)
    (refs : List ArtifactRef) (reported : Option ReportedFailure) (successors : List TaskRecord)
    (db db' : Db) (result : TaskRecord) (hdb : Coherent db)
    (h : settleAttempt env fence outcome terminalStatus refs reported successors db =
      .ok (result, db')) :
    Moves env (.settleAttempt fence outcome terminalStatus refs reported successors) db db db' ∧
      db.EndsCurrent db' fence.taskId := by
  simp only [settleAttempt, bind_ok, raiseWhen_ok, requireFence_ok, get_ok, updateAttempt_ok,
    updateTask_ok, stableId_ok, pure_ok] at h
  rcases h with ⟨_, _, ⟨hsettleable, rfl⟩, _, _, ⟨hfence, rfl⟩, _, _, ⟨hcancel, rfl⟩, _, _,
    ⟨rfl, rfl⟩, _, _, ⟨hfrontier, rfl⟩, _, _, ⟨arow', harow', rfl⟩, _, _, ⟨row', hrow', rfl⟩,
    _, _, hblocked, identity, _, ⟨_, rfl⟩, _, _, happend, _, _, hsuccessors, _, rfl⟩
  rcases hfence.rows hdb with ⟨row, arow, hrow, harow, hcurrent, htask, _, rfl⟩
  obtain rfl : row = row' := Option.some.inj (hrow.symm.trans hrow')
  obtain rfl : arow = arow' := Option.some.inj (harow.symm.trans harow')
  rcases recordBlocked_records _ _ _ _ _ _ _ _ _ hblocked hdb.numbered with
    ⟨notices, events₁, hnotices, hrecords₁, rfl⟩
  rcases append_records _ _ _ _ _ _ _ _ _ happend
    (Records.numbered _ _ _ _ _ hrecords₁ hdb.numbered) with ⟨events₂, hrecords₂, rfl⟩
  rw [Db.record_append] at hsuccessors
  have hmove : Move env (.settleAttempt fence outcome terminalStatus refs reported successors)
      db db _ :=
    .closed db row _ arow _ _ _ hrow (stored_of_lookup hrow) hcurrent harow
      (.settled _ _ fence outcome terminalStatus refs reported successors _ _ notices identity htask
        rfl rfl (by simpa using hcancel) (by simpa using hsettleable) hnotices) rfl
      (fun _ => by simpa using hfrontier)
      (Records.append _ _ _ _ _ _ _ hrecords₁ hrecords₂) (by simp)
  have hmoves : Moves env (.settleAttempt fence outcome terminalStatus refs reported successors)
      db _ _ :=
    insertSuccessorTasks_moves _ _ _ _ _ _ _ _ _ (hmove.coherent hdb) (.inl rfl) hsuccessors
  refine ⟨.head hmove hmoves, htask ▸ .of_row hrow hcurrent (Moves.ended hmoves ?_)⟩
  exact ⟨_, AList.lookup_insert _, Option.some_ne_none _⟩

theorem refuse_ok (violation : Option String) (db db' : Db) (u : Unit) :
    refuse violation db = .ok (u, db') ↔ violation = none ∧ db = db' := by
  cases violation with
  | none => simp [refuse, pure_ok]
  | some message => simp [refuse, throw_ok]

theorem requireAbsent_ok (existing : Option TaskRow) (task : TaskRecord)
    (collision present : String) (db db' : Db) (u : Unit)
    (h : requireAbsent existing task collision present db = .ok (u, db')) : db = db' := by
  cases existing with
  | none =>
    rw [requireAbsent, pure_ok] at h
    exact h.2
  | some row =>
    simp only [requireAbsent, bind_ok, throw_ok] at h
    rcases h with ⟨_, _, _, _, _, _, hfalse⟩
    exact hfalse.elim

theorem gapFindingViolation_eq_none {planner : TaskRecord} {attempt : Option TaskAttempt}
    {finding : MemoryRepairFinding} (h : gapFindingViolation planner attempt finding = none) :
    planner.kind = .planCandidate := by
  unfold gapFindingViolation at h
  grind

theorem maintenanceTaskViolation_eq_none {planner maintenance : TaskRecord} {ref : ArtifactRef}
    (h : maintenanceTaskViolation planner maintenance ref = none) :
    maintenance.currentAttemptId = none := by
  unfold maintenanceTaskViolation at h
  grind

theorem loadMemoryRepairFinding_ok (ref : ArtifactRef) (db db' : Db)
    (finding : MemoryRepairFinding) (h : loadMemoryRepairFinding env ref db = .ok (finding, db')) :
    db = db' := by
  simp only [loadMemoryRepairFinding, bind_ok, fromOption_ok] at h
  rcases h with ⟨_, _, ⟨_, rfl⟩, _, rfl⟩
  rfl

theorem settleGapAndCreateMaintenance_moves (findingRef : ArtifactRef) (maintenance : TaskRecord)
    (db db' : Db) (result : TaskRecord) (hdb : Coherent db)
    (h : settleGapAndCreateMaintenance env fence findingRef maintenance db = .ok (result, db')) :
    Moves env (.settleGapAndCreateMaintenance fence findingRef maintenance) db db db' ∧
      db.EndsCurrent db' fence.taskId := by
  simp only [settleGapAndCreateMaintenance, bind_ok] at h
  rcases h with ⟨finding, _, hfinding, expected, _, hexpected, h⟩
  obtain rfl := loadMemoryRepairFinding_ok _ _ _ _ _ hfinding
  simp only [maintenanceTaskId, boundedRuntimeIdentity_ok, raiseWhen_ok, loadTask_ok, get_ok]
    at h hexpected
  obtain ⟨_, rfl⟩ := hexpected
  rcases h with ⟨_, _, ⟨_, rfl⟩, _, _, ⟨⟨crow, hcrow, rfl, _⟩, rfl⟩, _, _, ⟨rfl, rfl⟩, h⟩
  split at h
  · rename_i hblocked
    simp only [restoreMaintenance, bind_ok, fromOption_ok, restoreTask_ok, raiseWhen_ok,
      pure_ok] at h
    rcases h with ⟨_, _, ⟨_, rfl⟩, _, _, ⟨_, rfl⟩, _, _, ⟨_, rfl⟩, _, _, ⟨_, rfl⟩, _, rfl⟩
    exact ⟨.refl, .of_idle hcrow hblocked.2⟩
  · simp only [bind_ok, requireFence_ok, refuse_ok] at h
    rcases h with ⟨_, _, ⟨hfence, rfl⟩, _, _, ⟨hgap, rfl⟩, _, _, ⟨hmaintenance, rfl⟩, _, _,
      habsent, h⟩
    obtain rfl := requireAbsent_ok _ _ _ _ _ _ _ habsent
    simp only [updateAttempt_ok, updateTask_ok, stableId_ok, taskCreatedIdentity,
      boundedRuntimeIdentity_ok, pure_ok] at h
    rcases h with ⟨_, _, ⟨arow', harow', rfl⟩, _, _, ⟨row', hrow', rfl⟩, _, _, ⟨_, rfl⟩, _, _,
      happend₁, identity, _, ⟨_, rfl⟩, _, _, happend₂, _, _, ⟨_, rfl⟩, _, _, happend₃, _, _,
      hinsert, _, rfl⟩
    rcases hfence.rows hdb with ⟨row, arow, hrow, harow, hcurrent, htask, _, rfl⟩
    obtain rfl : row = row' := Option.some.inj (hrow.symm.trans hrow')
    obtain rfl : arow = arow' := Option.some.inj (harow.symm.trans harow')
    rcases append_records _ _ _ _ _ _ _ _ _ happend₁ hdb.numbered with ⟨events₁, hrecords₁, rfl⟩
    rcases append_records _ _ _ _ _ _ _ _ _ happend₂
      (Records.numbered _ _ _ _ _ hrecords₁ hdb.numbered) with ⟨events₂, hrecords₂, rfl⟩
    rw [Db.record_append] at happend₃
    have hmove : Move env (.settleGapAndCreateMaintenance fence findingRef maintenance) db db _ :=
      .closed db row _ arow _ _ _ hrow (stored_of_lookup hrow) hcurrent harow
        (.gapSettled _ _ fence findingRef maintenance _ identity htask
          (gapFindingViolation_eq_none hgap) ⟨_, _, _, _, rfl⟩) rfl
        (fun hchecks => absurd hchecks (by simp [Command.checksFrontier]))
        (Records.append _ _ _ _ _ _ _ hrecords₁ hrecords₂) (by simp)
    have hcreated : Move env (.settleGapAndCreateMaintenance fence findingRef maintenance) db _ _ :=
      created_move _ _ _ _ _ _ _ _ _ _ _ (hmove.coherent hdb).numbered
        (.inl (maintenanceTaskViolation_eq_none hmaintenance)) (.inl rfl) happend₃ hinsert
    refine ⟨.tail (.single hmove) hcreated, htask ▸ .of_row hrow hcurrent (hcreated.ended ?_)⟩
    exact ⟨_, AList.lookup_insert _, Option.some_ne_none _⟩

/-- A validated repair hands the blocked Planner's intent over: the retry is the expected one. -/
theorem validateCommittedRepair_ok (maintenance planner : TaskRecord)
    (finding : MemoryRepairFinding) (result : MemoryWriteWorkflowResult) (resultRef : ArtifactRef)
    (retryTask : TaskRecord) (currentCommit : CommitId) (db db' : Db) (u : Unit)
    (h : validateCommittedRepair maintenance planner finding result resultRef retryTask currentCommit
      db = .ok (u, db')) :
    (planner.status = .blocked ∧ planner.superseded = false ∧
      retryTask.currentAttemptId = planner.currentAttemptId) ∧ db = db' := by
  simp only [validateCommittedRepair, bind_ok, raiseWhen_ok, fromOption_ok, plannerRetryTaskId,
    boundedRuntimeIdentity_ok, refuse_ok] at h
  rcases h with ⟨_, _, ⟨hplanner, rfl⟩, _, _, ⟨_, rfl⟩, _, _, ⟨_, rfl⟩, _, _, ⟨_, rfl⟩, _, _,
    ⟨_, rfl⟩, _, _, ⟨_, rfl⟩, _, _, ⟨_, rfl⟩, _, _, ⟨_, rfl⟩, _, _, ⟨_, rfl⟩, _, _, ⟨_, rfl⟩, _, _,
    ⟨_, _, ⟨_, rfl⟩, _, rfl⟩, _, _, ⟨hretry, rfl⟩, _, _, ⟨_, rfl⟩, _, rfl⟩
  push Not at hplanner hretry
  refine ⟨⟨hplanner.1, by simpa using hplanner.2, ?_⟩, rfl⟩
  rw [hretry]
  rfl

theorem handOver_moves (resultRef intentRef : ArtifactRef) (refs : List ArtifactRef)
    (retryTask : TaskRecord) (db₀ db₁ db₂ db₃ db' : Db) (prow : TaskRow)
    (commandId identity created : StableId) (retryRefs : List ArtifactRef) (u v w : Unit)
    (hdb : Coherent db₁) (hprow : db₁.tasks.lookup prow.taskJson.taskId = some prow)
    (hstart : db₀.stored prow.taskJson.taskId = some prow.taskJson)
    (hblocked : prow.taskJson.status = .blocked)
    (hmaintenance : ∃ maintenance, db₀.stored fence.taskId = some maintenance ∧
      maintenance.taskId = fence.taskId ∧ maintenance.currentAttemptId ≠ none)
    (hretry : retryTask.currentAttemptId = prow.taskJson.currentAttemptId)
    (happend₂ : append env prow.taskJson.runId prow.taskJson.taskId
      (.controlRecorded
        { commandId := commandId
          action := .supersede
          actorId := "memory-maintenance"
          reason := "canon extraction maintenance committed on a new basis" }) identity
      [intentRef, resultRef]
      (db₁.putTask prow.taskJson.taskId
        (prow.overwrite (supersededTask prow.taskJson "canon extraction maintenance committed"))) =
      .ok (u, db₂))
    (happend₃ : append env retryTask.runId retryTask.taskId (.taskCreated retryTask) created retryRefs
      db₂ = .ok (v, db₃)) (hinsert : insertTask retryTask db₃ = .ok (w, db')) :
    Moves env (.settleMaintenanceAndRetryPlanner fence resultRef refs retryTask) db₀ db₁ db' := by
  rcases append_records _ _ _ _ _ _ _ _ _ happend₂ hdb.numbered with ⟨events, hrecords, rfl⟩
  have hmove : Move env (.settleMaintenanceAndRetryPlanner fence resultRef refs retryTask) db₀ db₁
      _ :=
    .rewritten db₁ prow _ _ events hprow hstart
      (.repaired _ fence resultRef intentRef refs retryTask commandId identity hblocked) hrecords
      (by rintro _ _ _ _ ⟨rfl, rfl, rfl, rfl⟩; exact hmaintenance)
  exact .tail (.single hmove) (created_move _ _ _ _ _ _ _ _ _ _ _ (hmove.coherent hdb).numbered
    (.inr (.inr ⟨prow.taskJson, hstart, hblocked, hretry⟩)) (.inl rfl) happend₃ hinsert)

theorem settleMaintenanceAndRetryPlanner_moves (resultRef : ArtifactRef) (refs : List ArtifactRef)
    (retryTask : TaskRecord) (db db' : Db) (result : TaskRecord) (hdb : Coherent db)
    (h : settleMaintenanceAndRetryPlanner env fence resultRef refs retryTask db =
      .ok (result, db')) :
    Moves env (.settleMaintenanceAndRetryPlanner fence resultRef refs retryTask) db db db' ∧
      db.EndsCurrent db' fence.taskId := by
  simp only [settleMaintenanceAndRetryPlanner, bind_ok, loadMemoryWriteResult, fromOption_ok,
    loadTask_ok, raiseWhen_ok] at h
  rcases h with ⟨_, _, ⟨_, _, ⟨_, rfl⟩, _, rfl⟩, maintenance, _,
    ⟨⟨mrow, hmrow, rfl, _⟩, rfl⟩, _, _, ⟨hkind, rfl⟩, _, _, ⟨_, rfl⟩, finding, _, hfinding, h⟩
  obtain rfl := loadMemoryRepairFinding_ok _ _ _ _ _ hfinding
  simp only [plannerRetryTaskId, bind_ok, fromOption_ok, boundedRuntimeIdentity_ok, get_ok] at h
  rcases h with ⟨_, _, ⟨⟨prow, hprow, rfl, _⟩, rfl⟩, _, _, ⟨_, _, ⟨_, rfl⟩, _, rfl⟩, _, _,
    ⟨_, rfl⟩, _, _, ⟨rfl, rfl⟩, h⟩
  obtain hpkey := hdb.taskKey _ _ hprow
  split at h
  · rename_i hsucceeded
    simp only [restoreRetry, bind_ok, fromOption_ok, restoreTask_ok, raiseWhen_ok, pure_ok] at h
    rcases h with ⟨_, _, ⟨_, rfl⟩, _, _, ⟨_, rfl⟩, _, _, ⟨_, rfl⟩, _, rfl⟩
    exact ⟨.refl, .of_idle hmrow hsucceeded.2⟩
  · simp only [bind_ok, requireFence_ok, refuse_ok, fromOption_ok] at h
    rcases h with ⟨_, _, ⟨hfence, rfl⟩, _, _, ⟨hgap, rfl⟩, _, _, ⟨_, rfl⟩, _, _, hrepair, _, _,
      habsent, h⟩
    rcases validateCommittedRepair_ok _ _ _ _ _ _ _ _ _ _ hrepair with
      ⟨⟨hblocked, hopen, hretry⟩, rfl⟩
    obtain rfl := requireAbsent_ok _ _ _ _ _ _ _ habsent
    simp only [updateAttempt_ok, updateTask_ok, stableId_ok, taskCreatedIdentity,
      boundedRuntimeIdentity_ok, pure_ok] at h
    rcases h with ⟨_, _, ⟨arow', harow', rfl⟩, _, _, ⟨row', hrow', rfl⟩, _, _,
      ⟨prow', hprow', rfl⟩, identity, _, ⟨_, rfl⟩, _, _, happend₁, commandId, _, ⟨_, rfl⟩,
      identity₂, _, ⟨_, rfl⟩, _, _, happend₂, _, _, ⟨_, rfl⟩, _, _, happend₃, _, _, hinsert, _,
      rfl⟩
    rcases hfence.rows hdb with ⟨row, arow, hrow, harow, hcurrent, htask, _, rfl⟩
    obtain rfl : row = row' := Option.some.inj (hrow.symm.trans hrow')
    obtain rfl : arow = arow' := Option.some.inj (harow.symm.trans harow')
    rw [htask] at hmrow
    obtain rfl : row = mrow := Option.some.inj (hrow.symm.trans hmrow)
    rw [← hpkey] at hprow
    -- The Planner task and the maintenance task are of different kinds.
    have hpkind := gapFindingViolation_eq_none hgap
    push Not at hkind
    have hne : prow.taskJson.taskId ≠ row.taskJson.taskId := by
      intro hsame
      rw [hsame] at hprow
      obtain rfl : row = prow := Option.some.inj (hrow.symm.trans hprow)
      rw [hkind.1] at hpkind
      exact absurd hpkind (by decide)
    have hprow₁ : (db.tasks.insert row.taskJson.taskId
        (row.overwrite (maintenanceSettledTask row.taskJson (resultRef :: refs).eraseDups))).lookup
          prow.taskJson.taskId = some prow := by
      rw [AList.lookup_insert_ne hne, hprow]
    obtain rfl : prow = prow' := Option.some.inj (hprow₁.symm.trans hprow')
    rcases append_records _ _ _ _ _ _ _ _ _ happend₁ hdb.numbered with ⟨events₁, hrecords₁, rfl⟩
    -- Both rows are written before either event; the closing move comes first.
    have hmove₁ : Move env (.settleMaintenanceAndRetryPlanner fence resultRef refs retryTask) db db
        (((db.putAttempt arow.attemptJson.attemptId
          (arow.overwrite (endedAttempt arow.attemptJson env.now .succeeded none))).putTask
            row.taskJson.taskId (row.overwrite
              (maintenanceSettledTask row.taskJson (resultRef :: refs).eraseDups))).record
                events₁) :=
      .closed db row _ arow _ _ events₁ hrow (stored_of_lookup hrow) hcurrent harow
        (.maintenanceSettled _ _ fence resultRef refs retryTask identity htask hkind.1) rfl
        (fun hchecks => absurd hchecks (by simp [Command.checksFrontier])) hrecords₁ (by simp)
    have hmoves := handOver_moves env fence resultRef _ refs retryTask db _ _ _ _ prow commandId
      identity₂ _ _ _ _ _ (hmove₁.coherent hdb) hprow₁ (stored_of_lookup hprow) hblocked
      ⟨row.taskJson, htask ▸ stored_of_lookup hrow, htask.symm, by simp [hcurrent]⟩ hretry
      happend₂ happend₃ hinsert
    refine ⟨.head hmove₁ hmoves, htask ▸ .of_row hrow hcurrent (Moves.ended hmoves ?_)⟩
    exact ⟨_, AList.lookup_insert _, Option.some_ne_none _⟩

end NovelAgent.Runtime
