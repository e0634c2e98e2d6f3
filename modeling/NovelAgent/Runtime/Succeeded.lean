import NovelAgent.Runtime.Ownership

/-!
# What Becomes of Succeeded Tasks

Which commands take a task out of `SUCCEEDED`.
-/

namespace NovelAgent.Runtime

open Core Domain Core.Transaction

/-- The control that a command would record for a task it takes out of
    `SUCCEEDED`, with the revision its caller observed. -/
def reopeningIntent (task : TaskRecord) : Command → Option (ControlIntent × Option Nat)
  | .control taskId commandId .pause actorId reason observed =>
    if taskId = task.taskId then
      some ({ commandId := commandId, action := .pause, actorId := actorId, reason := reason },
        observed)
    else none
  | .control taskId commandId .cancel actorId reason observed =>
    if taskId = task.taskId then
      some ({ commandId := commandId, action := .cancel, actorId := actorId, reason := reason },
        observed)
    else none
  | .resume taskId commandId actorId reason observed =>
    if taskId = task.taskId ∧ task.paused = true then
      some ({ commandId := commandId, action := .resume, actorId := actorId, reason := reason },
        observed)
    else none
  | _ => none

/-- The call pauses, cancels or resumes the task, names its revision if it
    names one, and its record is accepted. -/
def Reopens (db : Db) (call : Call) (task : TaskRecord) : Prop :=
  ∃ intent observed, reopeningIntent task call.command = some (intent, observed) ∧
    task.wellFormed = true ∧ (∀ revision, observed = some revision → revision = task.taskRevision) ∧
    Appendable call.env db task.runId (.controlRecorded intent) intent.commandId

/-- The task is stored, succeeded and without an attempt. -/
def SucceededAt (db : Db) (taskId : TaskId) : Prop :=
  ∃ task, db.stored taskId = some task ∧ task.status = .succeeded ∧ task.currentAttemptId = none

theorem SucceededAt.putTask_of_ne {db : Db} {taskId k : TaskId} (h : SucceededAt db taskId)
    (hne : taskId ≠ k) (row : TaskRow) : SucceededAt (db.putTask k row) taskId := by
  rw [SucceededAt, Db.stored_putTask, if_neg hne]
  exact h

variable {command : Command}

/-- A record that is rewritten out of `SUCCEEDED` is paused, cancelled or resumed. -/
theorem Rewrites.reopens {task task' : TaskRecord} {entries : List Entry}
    (h : Rewrites command task task' entries) (hstatus : task.status = .succeeded) :
    (reopeningIntent task command).isSome = true := by
  cases h with
  | superseded _ reason commandId identity hopen hsupersedable =>
    simp [hstatus, supersedable] at hsupersedable
  | decided _ receipt receiptRef successors hwaiting => simp [hstatus] at hwaiting
  | suspected _ commandId actorId reason observed now hrunning => simp [hstatus] at hrunning
  | recoveryMarked _ commandId actorId reason observed hpending hsettled =>
    simp [hstatus] at hsettled
  | controlled _ commandId request action actorId reason observed haction hretry =>
    cases request with
    | pause => simp [reopeningIntent]
    | cancel => simp [reopeningIntent]
    | retry => simp [hstatus] at hretry
    | unsupported text => simp [RequestedControl.action?] at haction
  | extended _ commandId actorId reason attempts tranches observed hreview =>
    simp [hstatus] at hreview
  | unblocked _ commandId actorId fingerprint evidence observed hblocked =>
    simp [hstatus] at hblocked
  | resumed _ commandId actorId reason observed hresumable =>
    simp only [hstatus, reduceCtorEq, false_and, and_false, false_or] at hresumable
    simp [reopeningIntent, hresumable.1]
  | repaired _ fence resultRef intentRef refs retryTask commandId identity hblocked =>
    simp [hstatus] at hblocked

/-- A move leaves a succeeded task alone, or its command may reopen it. -/
theorem Move.succeeded {env : Env} {db₀ db db' : Db} {taskId : TaskId}
    (h : Move env command db₀ db db') (hsucceeded : SucceededAt db taskId) :
    SucceededAt db' taskId ∨
      ∃ task, db₀.stored taskId = some task ∧ (reopeningIntent task command).isSome = true := by
  have hread : ∀ row, db.tasks.lookup row.taskJson.taskId = some row →
      taskId = row.taskJson.taskId →
      row.taskJson.status = .succeeded ∧ row.taskJson.currentAttemptId = none := by
    rintro row hrow rfl
    rcases hsucceeded with ⟨task, htask, hstatus, hidle⟩
    rw [stored_of_lookup hrow, Option.some.injEq] at htask
    rw [htask]
    exact ⟨hstatus, hidle⟩
  cases h with
  | created task entry events habsent hcurrent hlater hentry hrecords =>
    refine .inl (SucceededAt.putTask_of_ne hsucceeded ?_ _)
    rintro rfl
    rcases hsucceeded with ⟨_, htask, _⟩
    rw [Db.stored, habsent] at htask
    exact absurd htask (by simp)
  | rewritten row task entries events hrow hstart hrewrites hrecords =>
    by_cases hk : taskId = row.taskJson.taskId
    · refine .inr ⟨row.taskJson, by rw [hk, hstart], hrewrites.reopens (hread row hrow hk).1⟩
    · exact .inl (SucceededAt.putTask_of_ne hsucceeded hk _)
  | opened row attempt fenceDigest identity events workerId observed hrow hstart hcommand hready =>
    refine .inl (SucceededAt.putTask_of_ne hsucceeded ?_ _)
    intro hk
    rw [(hread row hrow hk).1] at hready
    exact absurd hready (by decide)
  | closed row task arow attempt entries events hrow hstart hcurrent =>
    refine .inl (SucceededAt.putTask_of_ne hsucceeded ?_ _)
    intro hk
    rw [(hread row hrow hk).2] at hcurrent
    exact absurd hcurrent (by simp)
  | laneTaken row attempt fence generation identity events hfirst hrow hstart hcommand hcurrent =>
    refine .inl (SucceededAt.putTask_of_ne hsucceeded ?_ _)
    intro hk
    rw [(hread row hrow hk).2] at hcurrent
    exact absurd hcurrent (by simp)
  | touched => exact .inl hsucceeded
  | requested => exact .inl hsucceeded
  | resolved => exact .inl hsucceeded
  | advanced => exact .inl hsucceeded
  | checkpointed => exact .inl hsucceeded

theorem discardResult_isOk {α : Type} (body : Tx α) (db : Db) :
    (∃ db', discardResult body db = .ok ((), db')) ↔ ∃ result db', body db = .ok (result, db') := by
  constructor
  · rintro ⟨db', h⟩
    rcases discardResult_ok _ _ _ _ h with ⟨result, hbody⟩
    exact ⟨result, db', hbody⟩
  · rintro ⟨result, db', hbody⟩
    exact ⟨db', by simp only [discardResult, bind_ok, pure_ok]; exact ⟨result, db', hbody, trivial, rfl⟩⟩

variable (service : Service)

/-- The three reopening commands are accepted exactly under `Reopens`, and
    leave the task in another status. -/
theorem perform_reopening (env : Env) (command : Command) (db : Db) (row : TaskRow)
    (intent : ControlIntent) (observed : Option Nat) (hdb : Coherent db)
    (hrow : db.tasks.lookup row.taskJson.taskId = some row)
    (hstatus : row.taskJson.status = .succeeded) (hidle : row.taskJson.currentAttemptId = none)
    (hintent : reopeningIntent row.taskJson command = some (intent, observed)) :
    ((∃ db', perform service env command db = .ok ((), db')) ↔
      row.taskJson.wellFormed = true ∧
        (∀ revision, observed = some revision → revision = row.taskJson.taskRevision) ∧
        Appendable env db row.taskJson.runId (.controlRecorded intent) intent.commandId) ∧
    ∀ db', perform service env command db = .ok ((), db') →
      ∃ task, db'.stored row.taskJson.taskId = some task ∧ task.status ≠ .succeeded := by
  unfold reopeningIntent at hintent
  split at hintent
  · rename_i taskId commandId actorId reason observed'
    split at hintent
    · rename_i hsame
      subst hsame
      rcases Prod.mk.inj (Option.some.inj hintent) with ⟨rfl, rfl⟩
      refine ⟨(discardResult_isOk _ _).trans
        (control_accepts _ _ _ _ _ _ _ _ _ hdb hrow rfl (by decide)), ?_⟩
      intro db' h
      rcases discardResult_ok _ _ _ _ h with ⟨result, h⟩
      exact ⟨_, control_stored _ _ _ _ _ _ _ _ _ _ hdb hrow h,
        by simp [controlledTask, controlledStatus, hidle]⟩
    · exact absurd hintent (by simp)
  · rename_i taskId commandId actorId reason observed'
    split at hintent
    · rename_i hsame
      subst hsame
      rcases Prod.mk.inj (Option.some.inj hintent) with ⟨rfl, rfl⟩
      refine ⟨(discardResult_isOk _ _).trans
        (control_accepts _ _ _ _ _ _ _ _ _ hdb hrow rfl (by decide)), ?_⟩
      intro db' h
      rcases discardResult_ok _ _ _ _ h with ⟨result, h⟩
      exact ⟨_, control_stored _ _ _ _ _ _ _ _ _ _ hdb hrow h,
        by simp [controlledTask, controlledStatus, hidle]⟩
    · exact absurd hintent (by simp)
  · rename_i taskId commandId actorId reason observed'
    split at hintent
    · rename_i hsame
      rcases hsame with ⟨rfl, hpaused⟩
      rcases Prod.mk.inj (Option.some.inj hintent) with ⟨rfl, rfl⟩
      refine ⟨((discardResult_isOk _ _).trans
        (resume_accepts _ _ _ _ _ _ _ hdb hrow hstatus hidle)).trans (and_iff_right hpaused), ?_⟩
      intro db' h
      rcases discardResult_ok _ _ _ _ h with ⟨result, h⟩
      refine ⟨_, resume_stored _ _ _ _ _ _ _ _ _ hdb hrow h, ?_⟩
      unfold resumedTask claimableStatus
      split <;> simp
    · exact absurd hintent (by simp)
  · exact absurd hintent (by simp)

theorem step_succeeded (db : Db) (call : Call) (taskId : TaskId) (hdb : Coherent db)
    (hsucceeded : SucceededAt db taskId)
    (hcall : ∀ task, db.stored taskId = some task → ¬ Reopens db call task) :
    SucceededAt (step service db call) taskId := by
  rcases step_cases service db call with ⟨e, _, hstep⟩ | ⟨db', hperform, hstep⟩
  · rw [hstep]
    exact hsucceeded
  · rw [hstep]
    have hmoves := perform_moves service call.env call.command db db' () hdb hperform
    have hprogress : SucceededAt db' taskId ∨ ∃ task, db.stored taskId = some task ∧
        (reopeningIntent task call.command).isSome = true := by
      refine Moves.invariant (fun db' => SucceededAt db' taskId ∨ ∃ task,
        db.stored taskId = some task ∧ (reopeningIntent task call.command).isSome = true) ?_ hmoves
        (.inl hsucceeded)
      rintro db₁ db₂ hmove (hkept | hreopens)
      · exact hmove.succeeded hkept
      · exact .inr hreopens
    rcases hprogress with hkept | ⟨task, htask, hreopens⟩
    · exact hkept
    · rcases hsucceeded with ⟨task', htask', hstatus, hidle⟩
      obtain rfl : task = task' := Option.some.inj (htask.symm.trans htask')
      rcases Option.isSome_iff_exists.mp hreopens with ⟨⟨intent, observed⟩, hintent⟩
      rw [Db.stored, Option.map_eq_some_iff] at htask
      rcases htask with ⟨row, hrow, rfl⟩
      obtain rfl := hdb.taskKey _ _ hrow
      have haccepted := (perform_reopening service call.env call.command db row intent observed hdb
        hrow hstatus hidle hintent).1.mp ⟨db', hperform⟩
      exact absurd ⟨intent, observed, hintent, haccepted⟩ (hcall _ htask')

/-- A task that is created, claimed and settled as succeeded. -/
def Sample.settled : List Call :=
  Sample.claimed .planCandidate ++
    [⟨Sample.env 3 0, .settleAttempt (Sample.fence 1 0) .succeeded .succeeded [] none []⟩]

/-- The task, its attempt, and the task after a pause. -/
theorem Sample.settled_run :
    ((Sample.after Sample.settled).stored Sample.taskId).map TaskRecord.status = some .succeeded ∧
    ((Sample.after Sample.settled).attempts.lookup (Sample.attemptId 1)).any
      (·.attemptJson.endedAt ≠ none) = true ∧
    ((step Sample.service (Sample.after Sample.settled) ⟨Sample.env 4 0, .control Sample.taskId
      ⟨"c", .refl true⟩ .pause "operator" "pause" none⟩).stored Sample.taskId).map
        TaskRecord.status ≠ some .succeeded := by
  decide +kernel

/-- A pause takes a succeeded task back to `PENDING`. -/
theorem succeeded_not_absorbing :
    ¬ ∀ (service : Service) (canon : Canon) (calls : List Call), Disciplined calls →
      ∀ (taskId : TaskId) (call : Call),
        ((runCalls service (Db.fresh canon) calls).stored taskId).map TaskRecord.status =
          some .succeeded →
        ((step service (runCalls service (Db.fresh canon) calls) call).stored taskId).map
          TaskRecord.status = some .succeeded := by
  intro h
  exact Sample.settled_run.2.2 (h Sample.service Sample.canon Sample.settled (by decide)
    Sample.taskId _ Sample.settled_run.1)

/-- In every reachable store a succeeded task stays succeeded under a call exactly when the call
    does not reopen it, and so it stays succeeded along every run none of whose calls does. -/
theorem succeeded_kept_iff (service : Service) (canon : Canon) (calls : List Call)
    (hcalls : Disciplined calls) :
    let db := runCalls service (Db.fresh canon) calls
    ∀ taskId task, db.stored taskId = some task → task.status = .succeeded →
      (∀ call, ((step service db call).stored taskId).map TaskRecord.status = some .succeeded ↔
        ¬ Reopens db call task) ∧
      ∀ later, Guarded (step service)
          (fun db call => ∀ task, db.stored taskId = some task → ¬ Reopens db call task) db later →
        ((runCalls service db later).stored taskId).map TaskRecord.status = some .succeeded := by
  intro db taskId task htask hstatus
  have hdb : Coherent db := runCalls_coherent service canon calls
  have hown := runCalls_owning service canon calls hcalls
  have hstored := htask
  rw [Db.stored, Option.map_eq_some_iff] at hstored
  rcases hstored with ⟨row, hrow, rfl⟩
  have hidle : row.taskJson.currentAttemptId = none :=
    hown.idle_of_not hrow (by simp [mayOwn, hstatus])
  have hsucceeded : SucceededAt db taskId := ⟨row.taskJson, htask, hstatus, hidle⟩
  have hread : ∀ db', SucceededAt db' taskId →
      (db'.stored taskId).map TaskRecord.status = some .succeeded := by
    rintro db' ⟨task', htask', hstatus', _⟩
    rw [htask', Option.map_some, hstatus']
  refine ⟨?_, ?_⟩
  · intro call
    constructor
    · rintro hkept ⟨intent, observed, hintent, haccepted⟩
      obtain rfl := hdb.taskKey _ _ hrow
      have hreopening := perform_reopening service call.env call.command db row intent observed hdb
        hrow hstatus hidle hintent
      rcases hreopening.1.mpr haccepted with ⟨db', hperform⟩
      rcases hreopening.2 db' hperform with ⟨task', htask', hchanged⟩
      rw [step_of_ok service db db' call hperform, htask', Option.map_some, Option.some.injEq]
        at hkept
      exact hchanged hkept
    · intro hcall
      refine hread _ (step_succeeded service db call taskId hdb hsucceeded ?_)
      intro task' htask'
      rw [htask, Option.some.injEq] at htask'
      rw [← htask']
      exact hcall
  · intro later hguard
    refine hread _ (run_guarded (step service) _
      (fun db => Coherent db ∧ SucceededAt db taskId) ?_ later db hguard ⟨hdb, hsucceeded⟩).2
    rintro db' call ⟨hdb', hsucceeded'⟩ hcall
    exact ⟨step_coherent service db' call hdb',
      step_succeeded service db' call taskId hdb' hsucceeded' hcall⟩

/-- Claiming a succeeded task again does not reopen it. -/
theorem succeeded_kept_claim :
    Disciplined Sample.settled ∧
    ((step Sample.service (Sample.after Sample.settled)
      ⟨Sample.env 4 2, .claim Sample.taskId "w" none⟩).stored Sample.taskId).map
        TaskRecord.status = some .succeeded := by
  rcases Option.map_eq_some_iff.mp Sample.settled_run.1 with ⟨task, htask, hstatus⟩
  refine ⟨by decide, ((succeeded_kept_iff Sample.service Sample.canon Sample.settled (by decide)
    Sample.taskId task htask hstatus).1 _).mpr ?_⟩
  rintro ⟨intent, observed, hintent, _⟩
  exact absurd hintent (by simp [reopeningIntent])

end NovelAgent.Runtime
