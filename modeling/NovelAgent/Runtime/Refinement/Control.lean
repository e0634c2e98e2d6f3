import NovelAgent.Runtime.Refinement.Settlement

/-!
# Effect and Operator Commands as Moves

The commands about effects and checkpoints, and the ones an operator or the
recovery service gives from outside an attempt, are moves of the kernel. All
but one of them are a single move; `operatorReconcileAttempt` is a closing
move whose events the settlement of a worker would record as well.
-/

namespace NovelAgent.Runtime

open Core Domain Core.Transaction

theorem insertEffect_ok (effectIdentity : StableId) (row : EffectRow) (db db' : Db) (u : Unit)
    (h : insertEffect effectIdentity row db = .ok (u, db')) :
    db.effects.lookup effectIdentity = none ∧ db' = db.putEffect effectIdentity row := by
  simp only [insertEffect, bind_ok, get_ok, raiseWhen_ok, modify_ok] at h
  rcases h with ⟨_, _, ⟨rfl, rfl⟩, _, _, ⟨hnone, rfl⟩, _, _, ⟨_, rfl⟩, rfl⟩
  exact ⟨by simpa using hnone, rfl⟩

theorem updateEffect_ok (row : EffectRow) (receipt : EffectReceipt) (db db' : Db) (u : Unit) :
    updateEffect row receipt db = .ok (u, db') ↔
      db' = db.putEffect receipt.effectIdentity (row.resolve receipt) := by
  rw [updateEffect, modify_ok]
  rfl

variable (env : Env) (fence : AttemptFence)

theorem recordEffectRequested_moves (receipt : EffectReceipt) (db db' : Db)
    (result : EffectReceipt) (hdb : Coherent db)
    (h : recordEffectRequested env fence receipt db = .ok (result, db')) :
    Moves env (.recordEffectRequested fence receipt) db db db' := by
  simp only [recordEffectRequested, bind_ok, raiseWhen_ok, requireFence_ok, get_ok] at h
  rcases h with ⟨_, _, ⟨_, rfl⟩, _, _, ⟨hfence, rfl⟩, _, _, ⟨_, rfl⟩, _, _, ⟨rfl, rfl⟩, h⟩
  rcases hfence.rows hdb with ⟨row, arow, hrow, _, hcurrent, _, _, rfl⟩
  cases hexisting : db.effects.lookup receipt.effectIdentity with
  | some existing =>
    simp only [hexisting, bind_ok, raiseWhen_ok, pure_ok] at h
    rcases h with ⟨_, _, ⟨_, rfl⟩, _, rfl⟩
    exact .refl
  | none =>
    simp only [hexisting, bind_ok, boundedRuntimeIdentity_ok, pure_ok] at h
    rcases h with ⟨_, _, hinsert, identity, _, ⟨_, rfl⟩, _, _, happend, _, rfl⟩
    rcases insertEffect_ok _ _ _ _ _ hinsert with ⟨habsent, rfl⟩
    rcases append_records _ _ _ _ _ _ _ _ _ happend hdb.numbered with ⟨events, hrecords, rfl⟩
    exact .single
      (.requested db row _ receipt identity events rfl hrow hcurrent rfl habsent hrecords rfl)

/-- A recorded outcome is a move. -/
theorem recordEffectTerminal_moves (receipt : EffectReceipt) (db db' : Db)
    (result : EffectReceipt) (hdb : Coherent db)
    (h : recordEffectTerminal env fence receipt db = .ok (result, db')) :
    Moves env (.recordEffectTerminal fence receipt) db db db' := by
  simp only [recordEffectTerminal, bind_ok, raiseWhen_ok, requireFence_ok, get_ok, fromOption_ok,
    updateEffect_ok, boundedRuntimeIdentity_ok, pure_ok] at h
  rcases h with ⟨_, _, ⟨hstatus, rfl⟩, _, _, ⟨hfence, rfl⟩, _, _, ⟨rfl, rfl⟩, erow, _,
    ⟨herow, rfl⟩, _, _, ⟨howner, rfl⟩, _, _, ⟨_, rfl⟩, _, _, rfl, identity, _, ⟨_, rfl⟩, _, _,
    happend, _, rfl⟩
  rcases hfence.rows hdb with ⟨row, arow, hrow, _, hcurrent, _, _, rfl⟩
  rw [not_not] at howner
  rw [← howner] at happend hcurrent
  rcases append_records _ _ _ _ _ _ _ _ _ happend hdb.numbered with ⟨events, hrecords, rfl⟩
  exact .single (.resolved db row erow receipt identity _ events rfl hrow herow hstatus
    (.inr ⟨rfl, .inl hcurrent⟩) hrecords)

variable (taskId : TaskId) (commandId : StableId)

theorem reconcileEffect_moves (receipt : EffectReceipt) (commandId : StableId)
    (observed : Option Nat) (db db' : Db) (result : EffectReceipt) (hdb : Coherent db)
    (h : reconcileEffect env taskId receipt commandId observed db = .ok (result, db')) :
    Moves env (.reconcileEffect taskId receipt commandId observed) db db db' := by
  simp only [reconcileEffect, bind_ok, raiseWhen_ok, loadTask_ok, requireObservedRevision_ok,
    get_ok, fromOption_ok, updateEffect_ok, pure_ok] at h
  rcases h with ⟨_, _, ⟨hstatus, rfl⟩, _, _, ⟨⟨row, hrow, rfl, _⟩, rfl⟩, _, _, ⟨_, rfl⟩, _, _,
    ⟨rfl, rfl⟩, erow, _, ⟨herow, rfl⟩, _, _, ⟨_, rfl⟩, _, _, ⟨_, rfl⟩, _, _, rfl, _, _, happend,
    _, rfl⟩
  obtain rfl := hdb.taskKey _ _ hrow
  rcases append_records _ _ _ _ _ _ _ _ _ happend hdb.numbered with ⟨events, hrecords, rfl⟩
  exact .single (.resolved db row erow receipt commandId _ events rfl hrow herow hstatus
    (.inl ⟨observed, rfl⟩) hrecords)

variable (checkpoint : RunCheckpoint)

theorem insertCheckpoint_ok (db db' : Db) (u : Unit)
    (h : insertCheckpoint checkpoint db = .ok (u, db')) :
    ∃ crow, db' = { db with
      checkpoints := db.checkpoints.insert checkpoint.checkpointId crow } := by
  simp only [insertCheckpoint, bind_ok, get_ok, raiseWhen_ok, modify_ok] at h
  rcases h with ⟨_, _, ⟨rfl, rfl⟩, _, _, ⟨_, rfl⟩, rfl⟩
  exact ⟨_, rfl⟩

theorem saveCheckpoint_moves (db db' : Db) (result : RunCheckpoint) (hdb : Coherent db)
    (h : saveCheckpoint env fence checkpoint db = .ok (result, db')) :
    Moves env (.saveCheckpoint fence checkpoint) db db db' := by
  simp only [saveCheckpoint, bind_ok, raiseWhen_ok, requireFence_ok, get_ok] at h
  rcases h with ⟨_, _, ⟨hfence, rfl⟩, _, _, ⟨_, rfl⟩, _, _, ⟨rfl, rfl⟩, _, _, ⟨_, rfl⟩, _, _,
    ⟨_, rfl⟩, h⟩
  rcases hfence.rows hdb with ⟨row, arow, hrow, _, _, _, _, rfl⟩
  cases hexisting : db.checkpoints.lookup checkpoint.checkpointId with
  | some existing =>
    simp only [hexisting, bind_ok, raiseWhen_ok, pure_ok] at h
    rcases h with ⟨_, _, ⟨_, rfl⟩, _, rfl⟩
    exact .refl
  | none =>
    simp only [hexisting, bind_ok, raiseWhen_ok, boundedRuntimeIdentity_ok, pure_ok] at h
    rcases h with ⟨_, _, ⟨_, rfl⟩, _, _, hinsert, identity, _, ⟨_, rfl⟩, _, _, happend, _, rfl⟩
    rcases insertCheckpoint_ok _ _ _ _ hinsert with ⟨crow, rfl⟩
    rcases append_records _ _ _ _ _ _ _ _ _ happend hdb.numbered with ⟨events, hrecords, rfl⟩
    exact .single (.checkpointed db row _ checkpoint crow identity _ events rfl hrow hrecords)

variable (task : TaskRecord)

theorem recordOperatorBlock_records (attempt : TaskAttempt) (status : TaskStatus)
    (commandId : StableId) (failure : FailureClass) (reason : String) (refs : List ArtifactRef)
    (db db' : Db) (u : Unit)
    (h : recordOperatorBlock env task attempt status commandId failure reason refs db =
      .ok (u, db')) (hlog : db.log.Numbered) :
    ∃ notices events, (∀ entry ∈ notices, IsBlockNotice entry) ∧
      Records db.log task.runId task.taskId notices events ∧ db' = db.record events := by
  unfold recordOperatorBlock at h
  split at h
  · simp only [bind_ok, boundedRuntimeIdentity_ok] at h
    rcases h with ⟨identity, _, ⟨_, rfl⟩, happend⟩
    rcases append_records _ _ _ _ _ _ _ _ _ happend hlog with ⟨events, hrecords, rfl⟩
    refine ⟨_, events, ?_, hrecords, rfl⟩
    intro entry hentry
    rw [List.mem_singleton] at hentry
    exact ⟨_, _, _, _, congrArg Entry.payload hentry⟩
  · rw [pure_ok] at h
    exact ⟨[], [], by simp, trivial, h.2.symm⟩

variable (actorId reason : String)

theorem operatorReconcileAttempt_moves (terminalStatus : TaskStatus) (given : Option FailureClass)
    (observed : Option Nat) (refs : List ArtifactRef) (db db' : Db) (result : TaskRecord)
    (hdb : Coherent db)
    (h : operatorReconcileAttempt env taskId commandId actorId reason terminalStatus given observed
      refs db = .ok (result, db')) :
    Moves env
      (.operatorReconcileAttempt taskId commandId actorId reason terminalStatus given observed refs)
      db db db' ∧ db.EndsCurrent db' taskId := by
  simp only [operatorReconcileAttempt, bind_ok, fromOption_ok, loadTask_ok,
    requireObservedRevision_ok, get_ok, raiseWhen_ok, restoreAttempt_ok] at h
  rcases h with ⟨decision, _, ⟨hdecision, rfl⟩, _, _, ⟨⟨row, hrow, rfl, _⟩, rfl⟩, _, _, ⟨_, rfl⟩,
    attemptId, _, ⟨hcurrent, rfl⟩, _, _, ⟨rfl, rfl⟩, _, _, ⟨hfrontier, rfl⟩, arow, _,
    ⟨harow, rfl⟩, _, _, ⟨⟨rfl, _⟩, rfl⟩, h⟩
  simp only [updateAttempt_ok, updateTask_ok, boundedRuntimeIdentity_ok, pure_ok] at h
  rcases h with ⟨_, _, ⟨arow', harow', rfl⟩, _, _, ⟨row', hrow', rfl⟩,
    _, _, happend₁, _, _, hblocked, identity, _, ⟨_, rfl⟩, _, _, happend₂, _, rfl⟩
  obtain rfl := hdb.taskKey _ _ hrow
  obtain rfl := hdb.attemptKey _ _ harow
  obtain rfl : row = row' := Option.some.inj (hrow.symm.trans hrow')
  obtain rfl : arow = arow' := Option.some.inj (harow.symm.trans harow')
  rcases append_records _ _ _ _ _ _ _ _ _ happend₁ hdb.numbered with ⟨events₁, hrecords₁, rfl⟩
  have hlog₁ := Records.numbered _ _ _ _ _ hrecords₁ hdb.numbered
  rcases recordOperatorBlock_records _ _ _ _ _ _ _ _ _ _ _ hblocked hlog₁ with
    ⟨notices, events₂, hnotices, hrecords₂, rfl⟩
  rcases append_records _ _ _ _ _ _ _ _ _ happend₂
    (Records.numbered _ _ _ _ _ hrecords₂ hlog₁) with ⟨events₃, hrecords₃, rfl⟩
  rw [Db.record_append, Db.record_append]
  refine ⟨.single (.closed db row _ arow _ _ _ hrow (stored_of_lookup hrow) hcurrent harow
    (.reconciled _ _ commandId identity actorId reason terminalStatus given observed refs decision _
      _ notices hdecision rfl rfl hnotices) rfl
    (fun _ => by simpa using hfrontier)
    (Records.append _ _ _ _ _ _ _ hrecords₁ (Records.append _ _ _ _ _ _ _ hrecords₂ hrecords₃))
    (by simp)), .of_row hrow hcurrent ?_⟩
  exact ⟨_, AList.lookup_insert _, Option.some_ne_none _⟩

theorem rewritten_moves (command : Command) (db db₁ db₂ : Db) (row : TaskRow) (task : TaskRecord)
    (payload : EventPayload) (identity : StableId) (refs : List ArtifactRef) (u v : Unit)
    (hdb : Coherent db) (hrow : db.tasks.lookup row.taskJson.taskId = some row)
    (hsigned : command.signature? ≠ none)
    (hrewrites : Rewrites command row.taskJson task [⟨payload, identity, refs⟩])
    (hupdate : updateTask task db = .ok (u, db₁))
    (happend : append env row.taskJson.runId row.taskJson.taskId payload identity refs db₁ =
      .ok (v, db₂)) : Moves env command db db db₂ := by
  rcases (updateTask_ok _ _ _ _).mp hupdate with ⟨row', hrow', rfl⟩
  rw [hrewrites.taskId_eq] at hrow' happend
  obtain rfl : row = row' := Option.some.inj (hrow.symm.trans hrow')
  rcases append_records _ _ _ _ _ _ _ _ _ happend hdb.numbered with ⟨events, hrecords, rfl⟩
  refine .single (.rewritten db row _ _ events hrow (stored_of_lookup hrow) hrewrites hrecords ?_)
  rintro fence resultRef refs retryTask rfl
  exact absurd rfl hsigned

theorem markRecoveryPending_moves (observed : Option Nat) (db db' : Db) (result : TaskRecord)
    (hdb : Coherent db)
    (h : markRecoveryPending env taskId commandId actorId reason observed db = .ok (result, db')) :
    Moves env (.markRecoveryPending taskId commandId actorId reason observed) db db db' := by
  simp only [markRecoveryPending, bind_ok, loadTask_ok, requireObservedRevision_ok] at h
  rcases h with ⟨_, _, ⟨⟨row, hrow, rfl, _⟩, rfl⟩, _, _, ⟨_, rfl⟩, h⟩
  obtain rfl := hdb.taskKey _ _ hrow
  split at h
  · rw [pure_ok] at h
    rw [← h.2]
  · rename_i hpending
    simp only [bind_ok, raiseWhen_ok, pure_ok] at h
    rcases h with ⟨_, _, ⟨hsettled, rfl⟩, _, _, hupdate, _, _, happend, _, rfl⟩
    exact rewritten_moves _ _ _ _ _ row _ _ _ _ _ _ hdb hrow (by simp [Command.signature?])
      (.recoveryMarked _ commandId actorId reason observed hpending hsettled) hupdate happend

variable (request : RequestedControl)

theorem control_moves (actorId reason : String) (observed : Option Nat) (db db' : Db)
    (result : TaskRecord) (hdb : Coherent db)
    (h : control env taskId commandId request actorId reason observed db = .ok (result, db')) :
    Moves env (.control taskId commandId request actorId reason observed) db db db' := by
  simp only [control, bind_ok, fromOption_ok, loadTask_ok, requireObservedRevision_ok, raiseWhen_ok,
    pure_ok] at h
  rcases h with ⟨action, _, ⟨haction, rfl⟩, _, _, ⟨⟨row, hrow, rfl, _⟩, rfl⟩, _, _, ⟨_, rfl⟩, _, _,
    ⟨hidle, rfl⟩, _, _, ⟨hwaiting, rfl⟩, _, _, hupdate, _, _, happend, _, rfl⟩
  obtain rfl := hdb.taskKey _ _ hrow
  push Not at hidle hwaiting
  refine rewritten_moves _ _ _ _ _ row _ _ _ _ _ _ hdb hrow (by simp [Command.signature?])
    (.controlled _ commandId request action actorId reason observed haction ?_) hupdate happend
  intro hretry
  exact ⟨by_contra fun hcurrent => hidle hcurrent hretry, hwaiting hretry⟩

theorem extendBudget_moves (attempts tranches : Int) (observed : Option Nat) (db db' : Db)
    (result : TaskRecord) (hdb : Coherent db)
    (h : extendBudget env taskId commandId actorId reason attempts tranches observed db =
      .ok (result, db')) :
    Moves env (.extendBudget taskId commandId actorId reason attempts tranches observed) db db
      db' := by
  simp only [extendBudget, bind_ok, loadTask_ok, requireObservedRevision_ok, raiseWhen_ok,
    pure_ok] at h
  rcases h with ⟨_, _, ⟨_, rfl⟩, _, _, ⟨⟨row, hrow, rfl, _⟩, rfl⟩, _, _, ⟨_, rfl⟩, _, _,
    ⟨hstatus, rfl⟩, _, _, ⟨hbudget, rfl⟩, _, _, hupdate, _, _, happend, _, rfl⟩
  obtain rfl := hdb.taskKey _ _ hrow
  push Not at hstatus
  exact rewritten_moves _ _ _ _ _ row _ _ _ _ _ _ hdb hrow (by simp [Command.signature?])
    (.extended _ commandId actorId reason attempts tranches observed hstatus.1 hstatus.2
      (Nat.pos_of_ne_zero hbudget)) hupdate happend

theorem unblock_moves (actorId fingerprint : String) (evidence : List ArtifactRef)
    (observed : Option Nat) (db db' : Db) (result : TaskRecord) (hdb : Coherent db)
    (h : unblock env taskId commandId actorId fingerprint evidence observed db =
      .ok (result, db')) :
    Moves env (.unblock taskId commandId actorId fingerprint evidence observed) db db db' := by
  simp only [unblock, bind_ok, loadTask_ok, requireObservedRevision_ok, raiseWhen_ok, fromOption_ok,
    pure_ok] at h
  rcases h with ⟨_, _, ⟨_, rfl⟩, _, _, ⟨⟨row, hrow, rfl, _⟩, rfl⟩, _, _, ⟨_, rfl⟩, _, _,
    ⟨hstatus, rfl⟩, _, _, ⟨_, rfl⟩, _, _, ⟨_, rfl⟩, _, _, hupdate, _, _, happend, _, rfl⟩
  obtain rfl := hdb.taskKey _ _ hrow
  exact rewritten_moves _ _ _ _ _ row _ _ _ _ _ _ hdb hrow (by simp [Command.signature?])
    (.unblocked _ commandId actorId fingerprint evidence observed (not_not.mp hstatus)) hupdate
    happend

theorem requireResumable_ok (db db' : Db) (u : Unit)
    (h : requireResumable env task db = .ok (u, db')) :
    (task.kind = .maintenance ∧ task.status = .waitingInput ∧ task.paused = false ∨
      task.paused = true ∧ task.currentAttemptId = none) ∧ db = db' := by
  unfold requireResumable at h
  split at h
  · rename_i hwaiting
    simp only [requireWaitingInputCheckpoint, bind_ok, fromOption_ok, raiseWhen_ok] at h
    rcases h with ⟨_, _, ⟨_, rfl⟩, _, _, ⟨_, rfl⟩, _, _, ⟨_, rfl⟩, _, _, ⟨_, rfl⟩, _, rfl⟩
    exact ⟨.inl hwaiting, rfl⟩
  · rw [raiseWhen_ok] at h
    rcases h with ⟨hpaused, rfl⟩
    push Not at hpaused
    exact ⟨.inr ⟨by simpa using hpaused.1, hpaused.2⟩, rfl⟩

theorem resume_moves (observed : Option Nat) (db db' : Db) (result : TaskRecord)
    (hdb : Coherent db)
    (h : resume env taskId commandId actorId reason observed db = .ok (result, db')) :
    Moves env (.resume taskId commandId actorId reason observed) db db db' := by
  simp only [resume, bind_ok, loadTask_ok, requireObservedRevision_ok, pure_ok] at h
  rcases h with ⟨_, _, ⟨⟨row, hrow, rfl, _⟩, rfl⟩, _, _, ⟨_, rfl⟩, _, _, hrequire, _, _,
    hupdate, _, _, happend, _, rfl⟩
  obtain rfl := hdb.taskKey _ _ hrow
  rcases requireResumable_ok _ _ _ _ _ hrequire with ⟨hresumable, rfl⟩
  exact rewritten_moves _ _ _ _ _ row _ _ _ _ _ _ hdb hrow (by simp [Command.signature?])
    (.resumed _ commandId actorId reason observed hresumable) hupdate happend

/-! ### When they are accepted -/

/-- Rewriting a stored record and recording it succeeds when the record of it is appendable. -/
theorem rewriteAndAppend_isOk (db : Db) (row : TaskRow) (task : TaskRecord)
    (payload : EventPayload) (identity : StableId) (refs : List ArtifactRef) (hdb : Coherent db)
    (hrow : db.tasks.lookup row.taskJson.taskId = some row)
    (htask : task.taskId = row.taskJson.taskId) :
    (∃ db₁ db₂, updateTask task db = .ok ((), db₁) ∧
      append env row.taskJson.runId row.taskJson.taskId payload identity refs db₁ =
        .ok ((), db₂)) ↔
      Appendable env db row.taskJson.runId payload identity := by
  have hiff := append_isOk_iff env row.taskJson.runId row.taskJson.taskId payload identity refs
    (db.putTask task.taskId (row.overwrite task)) hdb.numbered
  constructor
  · rintro ⟨db₁, db₂, hupdate, happend⟩
    rcases (updateTask_ok _ _ _ _).mp hupdate with ⟨row', hrow', rfl⟩
    rw [htask, hrow, Option.some.injEq] at hrow'
    subst hrow'
    exact hiff.mp ⟨db₂, happend⟩
  · intro happendable
    rcases hiff.mpr happendable with ⟨db₂, happend⟩
    exact ⟨_, db₂, (updateTask_ok _ _ _ _).mpr ⟨row, by rw [htask, hrow], rfl⟩, happend⟩

theorem rewriteAndAppend_stored (db db₁ db₂ : Db) (runId : RunId) (taskId : TaskId)
    (task : TaskRecord) (payload : EventPayload) (identity : StableId) (refs : List ArtifactRef)
    (u v : Unit) (hdb : Coherent db) (hupdate : updateTask task db = .ok (u, db₁))
    (happend : append env runId taskId payload identity refs db₁ = .ok (v, db₂)) :
    db₂.stored task.taskId = some task := by
  rcases (updateTask_ok _ _ _ _).mp hupdate with ⟨row, _, rfl⟩
  rcases append_records _ _ _ _ _ _ _ _ _ happend hdb.numbered with ⟨events, _, rfl⟩
  change (db.putTask _ _).stored _ = _
  rw [Db.stored_putTask, if_pos rfl]
  rfl

/-- A pause or a cancel is accepted exactly when its caller names no other
    revision and its record is appendable. -/
theorem control_accepts (action : ControlAction) (actorId reason : String) (observed : Option Nat)
    (db : Db) (row : TaskRow) (hdb : Coherent db)
    (hrow : db.tasks.lookup row.taskJson.taskId = some row)
    (haction : request.action? = some action) (hretry : request ≠ .retry) :
    (∃ result db',
      control env row.taskJson.taskId commandId request actorId reason observed db =
        .ok (result, db')) ↔
      row.taskJson.wellFormed = true ∧
        (∀ revision, observed = some revision → revision = row.taskJson.taskRevision) ∧
        Appendable env db row.taskJson.runId
          (.controlRecorded
            { commandId := commandId, action := action, actorId := actorId, reason := reason })
          commandId := by
  have hgeneration : controlledGeneration row.taskJson request = none := by
    rw [controlledGeneration, if_neg hretry]
  rw [← rewriteAndAppend_isOk env db row (controlledTask row.taskJson request) _ commandId [] hdb
    hrow rfl]
  simp only [control, bind_ok, fromOption_ok, loadTask_ok, requireObservedRevision_ok,
    raiseWhen_ok, pure_ok, haction]
  constructor
  · rintro ⟨_, _, action', _, ⟨haction', rfl⟩, _, _, ⟨⟨row', hrow', rfl, hwf⟩, rfl⟩, h⟩
    rcases h with ⟨_, _, ⟨hobserved, rfl⟩, _, _, ⟨_, rfl⟩, _, _, ⟨_, rfl⟩, _, db₁, hupdate, _, db₂,
      happend, _⟩
    obtain rfl : row = row' := Option.some.inj (hrow.symm.trans hrow')
    obtain rfl : action = action' := Option.some.inj haction'
    rw [hgeneration] at happend
    exact ⟨hwf, hobserved, db₁, db₂, hupdate, happend⟩
  · rintro ⟨hwf, hobserved, db₁, db₂, hupdate, happend⟩
    rw [← hgeneration] at happend
    exact ⟨_, db₂, action, db, ⟨rfl, rfl⟩, row.taskJson, db, ⟨⟨row, hrow, rfl, hwf⟩, rfl⟩, (), db,
      ⟨hobserved, rfl⟩, (), db, ⟨by simp [hretry], rfl⟩, (), db, ⟨by simp [hretry], rfl⟩, (), db₁,
      hupdate, (), db₂, happend, rfl, rfl⟩

/-- The record a control leaves. -/
theorem control_stored (actorId reason : String) (observed : Option Nat) (db db' : Db)
    (row : TaskRow) (result : TaskRecord) (hdb : Coherent db)
    (hrow : db.tasks.lookup row.taskJson.taskId = some row)
    (h : control env row.taskJson.taskId commandId request actorId reason observed db =
      .ok (result, db')) :
    db'.stored row.taskJson.taskId = some (controlledTask row.taskJson request) := by
  simp only [control, bind_ok, fromOption_ok, loadTask_ok, requireObservedRevision_ok, raiseWhen_ok,
    pure_ok] at h
  rcases h with ⟨_, _, ⟨_, rfl⟩, _, _, ⟨⟨row', hrow', rfl, _⟩, rfl⟩, _, _, ⟨_, rfl⟩, _, _, ⟨_, rfl⟩,
    _, _, ⟨_, rfl⟩, _, _, hupdate, _, _, happend, _, rfl⟩
  obtain rfl : row = row' := Option.some.inj (hrow.symm.trans hrow')
  exact rewriteAndAppend_stored _ _ _ _ _ _ _ _ _ _ _ _ hdb hupdate happend

/-- Resuming a task that has succeeded is accepted exactly when it is paused,
    the caller names no other revision and the record is appendable. -/
theorem resume_accepts (observed : Option Nat) (db : Db) (row : TaskRow) (hdb : Coherent db)
    (hrow : db.tasks.lookup row.taskJson.taskId = some row)
    (hstatus : row.taskJson.status = .succeeded) (hidle : row.taskJson.currentAttemptId = none) :
    (∃ result db',
      resume env row.taskJson.taskId commandId actorId reason observed db = .ok (result, db')) ↔
      row.taskJson.paused = true ∧ row.taskJson.wellFormed = true ∧
        (∀ revision, observed = some revision → revision = row.taskJson.taskRevision) ∧
        Appendable env db row.taskJson.runId
          (.controlRecorded
            { commandId := commandId, action := .resume, actorId := actorId, reason := reason })
          commandId := by
  rw [← rewriteAndAppend_isOk env db row (resumedTask row.taskJson) _ commandId [] hdb hrow rfl]
  simp only [resume, bind_ok, loadTask_ok, requireObservedRevision_ok, pure_ok]
  constructor
  · rintro ⟨_, _, _, _, ⟨⟨row', hrow', rfl, hwf⟩, rfl⟩, _, _, ⟨hobserved, rfl⟩, _, _, hrequire,
      _, db₁, hupdate, _, db₂, happend, _⟩
    obtain rfl : row = row' := Option.some.inj (hrow.symm.trans hrow')
    rcases requireResumable_ok _ _ _ _ _ hrequire with ⟨hresumable, rfl⟩
    simp only [hstatus, reduceCtorEq, false_and, and_false, false_or] at hresumable
    exact ⟨hresumable.1, hwf, hobserved, db₁, db₂, hupdate, happend⟩
  · rintro ⟨hpaused, hwf, hobserved, db₁, db₂, hupdate, happend⟩
    refine ⟨_, db₂, row.taskJson, db, ⟨⟨row, hrow, rfl, hwf⟩, rfl⟩, (), db, ⟨hobserved, rfl⟩, (), db,
      ?_, (), db₁, hupdate, (), db₂, happend, rfl, rfl⟩
    rw [requireResumable, if_neg (by simp [hstatus]), raiseWhen_ok]
    exact ⟨by simp [hpaused, hidle], rfl⟩

/-- The record a resume leaves. -/
theorem resume_stored (observed : Option Nat) (db db' : Db) (row : TaskRow) (result : TaskRecord)
    (hdb : Coherent db) (hrow : db.tasks.lookup row.taskJson.taskId = some row)
    (h : resume env row.taskJson.taskId commandId actorId reason observed db = .ok (result, db')) :
    db'.stored row.taskJson.taskId = some (resumedTask row.taskJson) := by
  simp only [resume, bind_ok, loadTask_ok, requireObservedRevision_ok, pure_ok] at h
  rcases h with ⟨_, _, ⟨⟨row', hrow', rfl, _⟩, rfl⟩, _, _, ⟨_, rfl⟩, _, _, hrequire, _, _, hupdate,
    _, _, happend, _, rfl⟩
  obtain rfl : row = row' := Option.some.inj (hrow.symm.trans hrow')
  obtain rfl := (requireResumable_ok _ _ _ _ _ hrequire).2
  exact rewriteAndAppend_stored _ _ _ _ _ _ _ _ _ _ _ _ hdb hupdate happend

end NovelAgent.Runtime
