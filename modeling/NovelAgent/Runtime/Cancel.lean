import NovelAgent.Runtime.WriterLane

/-!
# Cancellation

When a cancel that was recorded on a running task wins.
-/

namespace NovelAgent.Runtime

open Core Domain

/-- The commands that end the task's attempt without regard to a request to
    cancel it, or withdraw the request. -/
def Command.overridesCancel (taskId : TaskId) : Command → Bool
  | .settleGapAndCreateMaintenance fence _ _ => fence.taskId = taskId
  | .settleMaintenanceAndRetryPlanner fence _ _ _ => fence.taskId = taskId
  | .commitAcceptedCandidate fence _ _ => fence.taskId = taskId
  | .recordExternalCommit fence _ _ _ _ => fence.taskId = taskId
  | .reconcileExternalCommit id _ _ _ _ _ => id = taskId
  | .reclaimExpiredAttempt id _ _ _ _ _ => id = taskId
  | .operatorReconcileAttempt id _ _ _ terminalStatus _ _ _ =>
    id = taskId ∧ terminalStatus ≠ .cancelled
  | .control id _ .pause _ _ _ => id = taskId
  | _ => false

def AsksCancel (task : TaskRecord) (a : StableId) : Prop :=
  task.cancelRequested = true ∧ task.currentAttemptId = some a

/-- The task is stored with a request to cancel its attempt. -/
def CancelPending (db : Db) (taskId : TaskId) (a : StableId) : Prop :=
  ∃ task, db.stored taskId = some task ∧ AsksCancel task a

/-- The task is stored as cancelled and without an attempt. -/
def CancelledAt (db : Db) (taskId : TaskId) : Prop :=
  ∃ task, db.stored taskId = some task ∧ task.status = .cancelled ∧ task.currentAttemptId = none

variable {command : Command} {task task' : TaskRecord} {entries : List Entry} {a : StableId}

/-- Rewriting a record with an active attempt keeps the request, unless the
    command overrides it. -/
theorem Rewrites.cancelPending (h : Rewrites command task task' entries)
    (hasks : AsksCancel task a) (hidle : task.currentAttemptId ≠ none → mayOwn task.status)
    (hcommand : command.overridesCancel task.taskId = false) : AsksCancel task' a := by
  refine ⟨?_, h.current_eq.trans hasks.2⟩
  have hactive : task.currentAttemptId ≠ none := by simp [hasks.2]
  have hstatus := hidle hactive
  unfold mayOwn at hstatus
  cases h with
  | superseded _ reason commandId identity hopen hsupersedable =>
    rcases hstatus with hs | hs <;> simp [hs, supersedable] at hsupersedable
  | decided _ receipt receiptRef successors hwaiting => simp [hwaiting] at hstatus
  | suspected => exact hasks.1
  | recoveryMarked => exact hasks.1
  | controlled _ commandId request action actorId reason observed haction hretry =>
    cases request with
    | pause => simp [Command.overridesCancel] at hcommand
    | cancel => rfl
    | retry => exact absurd (hretry rfl).1 hactive
    | unsupported text => simp [RequestedControl.action?] at haction
  | extended _ commandId actorId reason attempts tranches observed hreview hnone =>
    exact absurd hnone hactive
  | unblocked _ commandId actorId fingerprint evidence observed hblocked => simp [hblocked] at hstatus
  | resumed _ commandId actorId reason observed hresumable =>
    rcases hresumable with ⟨_, hwaiting, _⟩ | ⟨_, hnone⟩
    · simp [hwaiting] at hstatus
    · exact absurd hnone hactive
  | repaired _ fence resultRef intentRef refs retryTask commandId identity hblocked =>
    simp [hblocked] at hstatus

variable {env : Env} {attempt attempt' : TaskAttempt}

/-- Closing an attempt with a request to cancel leaves the task cancelled,
    unless the command overrides the request. -/
theorem Closes.cancelled (h : Closes env command task task' attempt attempt' entries)
    (hasks : AsksCancel task a) (hcommand : command.overridesCancel task.taskId = false) :
    task'.status = .cancelled := by
  cases h with
  | reclaimed => simp [Command.overridesCancel] at hcommand
  | settled _ _ fence outcome terminalStatus refs reported successors failure status notices identity
      htask hfailure hstatus hcancel =>
    change status = .cancelled
    rw [hstatus, hcancel hasks.1, settledStatus, if_neg (by simp)]
  | gapSettled _ _ fence findingRef maintenance notice identity htask =>
    simp [Command.overridesCancel, htask] at hcommand
  | maintenanceSettled _ _ fence resultRef refs retryTask identity htask =>
    simp [Command.overridesCancel, htask] at hcommand
  | reconciled _ _ commandId identity actorId reason terminalStatus given observed refs decision failure
      status notices hdecision hfailure hstatus =>
    have hterminal : terminalStatus = .cancelled := by
      simpa [Command.overridesCancel] using hcommand
    rw [hterminal] at hdecision
    obtain rfl : OperatorDecision.cancelled = decision := Option.some.inj hdecision
    change status = .cancelled
    rw [hstatus, reconciledStatus, if_neg (by simp)]
    rfl
  | committed _ _ fence request successors result notices commitIdentity identity htask =>
    simp [Command.overridesCancel, htask] at hcommand
  | externallySettled _ _ _ commitId refs commitIdentity identity hexternal =>
    rcases hexternal with ⟨fence, receipt, successors, rfl, htask⟩ | ⟨_, _, _, rfl⟩
    · simp [Command.overridesCancel, htask] at hcommand
    · simp [Command.overridesCancel] at hcommand

/-- A command that closes an attempt and does not override a request to cancel
    it advances no canon. -/
theorem Closes.commitsTo_eq_none (h : Closes env command task task' attempt attempt' entries)
    (hcommand : command.overridesCancel task.taskId = false) : command.commitsTo? = none := by
  cases h with
  | committed _ _ fence request successors result notices commitIdentity identity htask =>
    simp [Command.overridesCancel, htask] at hcommand
  | externallySettled _ _ _ commitId refs commitIdentity identity hexternal =>
    rcases hexternal with ⟨_, _, _, rfl, _⟩ | ⟨_, _, _, rfl⟩ <;> rfl
  | _ => rfl

variable {db₀ db db' : Db} {taskId : TaskId}

/-- A move that ends an attempt without overriding a request to cancel it
    belongs to a command that advances no canon. -/
theorem Move.ends_commitsTo (h : Move env command db₀ db db') (hown : Owning db.tasks db.attempts)
    (hbelongs : ∃ arow, db.attempts.lookup a = some arow ∧ arow.attemptJson.taskId = taskId)
    (hcommand : command.overridesCancel taskId = false) (hopen : ¬ db.Ended a)
    (hended : db'.Ended a) : command.commitsTo? = none := by
  rcases hended with ⟨arow', harow', hended⟩
  rcases hbelongs with ⟨arow₀, harow₀, rfl⟩
  cases h with
  | opened row attempt fenceDigest identity events workerId observed hrow hstart hclaim =>
    rw [hclaim]
    rfl
  | touched row arow attempt entries events hunsigned hrow hcurrent harow hid htask hsame =>
    change (db.attempts.insert _ _).lookup a = some arow' at harow'
    rw [Table.lookup_insert_if] at harow'
    split at harow'
    · rename_i hk
      rw [← Option.some.inj harow'] at hended
      exact absurd ⟨arow, hk ▸ harow, hsame ▸ hended⟩ hopen
    · exact absurd ⟨arow', harow', hended⟩ hopen
  | closed row task arow attempt entries events hrow hstart hcurrent harow hcloses =>
    change (db.attempts.insert _ _).lookup a = some arow' at harow'
    rw [Table.lookup_insert_if] at harow'
    split at harow'
    · rename_i hk
      rcases hown.currentOpen _ _ _ hrow hcurrent with ⟨found, hfound, hbelongs, _⟩
      rw [← hk, harow₀, Option.some.injEq] at hfound
      rw [hfound, hbelongs] at hcommand
      exact hcloses.commitsTo_eq_none hcommand
    · exact absurd ⟨arow', harow', hended⟩ hopen
  | _ => exact absurd ⟨arow', harow', hended⟩ hopen

/-- Where a move can leave a task whose attempt was to be cancelled. -/
theorem Move.cancel (h : Move env command db₀ db db') (hstart : CancelPending db₀ taskId a)
    (hown : Owning db.tasks db.attempts) (hcommand : command.overridesCancel taskId = false)
    (hdb : CancelPending db taskId a ∨ CancelledAt db taskId) :
    CancelPending db' taskId a ∨ CancelledAt db' taskId := by
  -- A row that the call found unchanged still asks for the cancel.
  have hasks : ∀ row, db.tasks.lookup row.taskJson.taskId = some row →
      db₀.stored row.taskJson.taskId = some row.taskJson → taskId = row.taskJson.taskId →
      AsksCancel row.taskJson a := by
    rintro row _ hstored rfl
    rcases hstart with ⟨task, htask, hasks⟩
    rw [hstored, Option.some.injEq] at htask
    rw [htask]
    exact hasks
  have hother : ∀ k row, taskId ≠ k →
      CancelPending (db.putTask k row) taskId a ∨ CancelledAt (db.putTask k row) taskId := by
    intro k row hne
    rw [CancelPending, CancelledAt, Db.stored_putTask, if_neg hne]
    exact hdb
  have hsame : ∀ k row, taskId = k → (db.putTask k row).stored taskId = some row.taskJson := by
    intro k row hk
    rw [Db.stored_putTask, if_pos hk]
  cases h with
  | created task entry events habsent hcurrent hlater hentry hrecords =>
    refine hother _ _ ?_
    rintro rfl
    rcases hdb with ⟨_, htask, _⟩ | ⟨_, htask, _⟩ <;> rw [Db.stored, habsent] at htask <;>
      exact absurd htask (by simp)
  | rewritten row task entries events hrow hfound hrewrites hrecords =>
    by_cases hk : taskId = row.taskJson.taskId
    · refine .inl ⟨task, hsame _ _ hk, ?_⟩
      exact hrewrites.cancelPending (hasks row hrow hfound hk) (hown.idle _ _ hrow)
        (by rw [← hk]; exact hcommand)
    · exact hother _ _ hk
  | opened row attempt fenceDigest identity events workerId observed hrow hfound hclaim hready hidle =>
    refine hother _ _ ?_
    intro hk
    have hactive := (hasks row hrow hfound hk).2
    rw [hidle] at hactive
    exact absurd hactive (by simp)
  | closed row task arow attempt entries events hrow hfound hcurrent harow hcloses =>
    by_cases hk : taskId = row.taskJson.taskId
    · refine .inr ⟨task, hsame _ _ hk, ?_, hcloses.current_eq⟩
      exact hcloses.cancelled (hasks row hrow hfound hk) (by rw [← hk]; exact hcommand)
    · exact hother _ _ hk
  | laneTaken row attempt fence generation identity events hfirst hrow hfound hclaim =>
    by_cases hk : taskId = row.taskJson.taskId
    · exact .inl ⟨_, hsame _ _ hk, hasks row hrow hfound hk⟩
    · exact hother _ _ hk
  | touched => exact hdb
  | requested => exact hdb
  | resolved => exact hdb
  | advanced => exact hdb
  | checkpointed => exact hdb

/-- What is known of an attempt since its cancel was recorded. -/
structure CancelTracked (taskId : TaskId) (a : StableId) (db : Db) : Prop where
  owning : Owning db.tasks db.attempts
  belongs : ∃ arow, db.attempts.lookup a = some arow ∧ arow.attemptJson.taskId = taskId
  tracked : CancelPending db taskId a ∨ db.Ended a

/-- A call that creates unclaimed tasks and does not override the request while
    the attempt is active. -/
def HonoursCancel (taskId : TaskId) (a : StableId) (db : Db) (call : Call) : Prop :=
  call.command.unclaimed = true ∧
    ∀ task, db.stored taskId = some task → task.currentAttemptId = some a →
      call.command.overridesCancel taskId = false

variable (service : Service)

theorem step_owning (db : Db) (call : Call) (hdb : Coherent db)
    (hown : Owning db.tasks db.attempts) (hcall : call.command.unclaimed = true) :
    Owning (step service db call).tasks (step service db call).attempts :=
  Moves.invariant (fun db => Owning db.tasks db.attempts)
    (fun _ _ hmove hdb => hmove.owning hown hcall hdb) (step_moves service db call hdb) hown

theorem step_cancel (db : Db) (call : Call) (taskId : TaskId) (a : StableId) (hdb : Coherent db)
    (hown : Owning db.tasks db.attempts) (hpending : CancelPending db taskId a)
    (hcall : HonoursCancel taskId a db call) :
    CancelPending (step service db call) taskId a ∨ CancelledAt (step service db call) taskId := by
  have hcommand : call.command.overridesCancel taskId = false := by
    rcases hpending with ⟨task, htask, hasks⟩
    exact hcall.2 task htask hasks.2
  refine (Moves.invariant (fun db' => Owning db'.tasks db'.attempts ∧
    (CancelPending db' taskId a ∨ CancelledAt db' taskId)) ?_ (step_moves service db call hdb)
    ⟨hown, .inl hpending⟩).2
  rintro db₁ db₂ hmove ⟨hown₁, hcancel₁⟩
  exact ⟨hmove.owning hown hcall.1 hown₁, hmove.cancel hpending hown₁ hcommand hcancel₁⟩

/-- A call that honours the request and ends the attempt leaves the canon of
    every project as it was. -/
theorem step_cancel_canon (db : Db) (call : Call) (taskId : TaskId) (a : StableId)
    (hdb : Coherent db) (h : CancelTracked taskId a db) (hcall : HonoursCancel taskId a db call)
    (hopen : ¬ db.Ended a) (hended : (step service db call).Ended a) (q : ProjectId) :
    (step service db call).canon.projects.lookup q = db.canon.projects.lookup q := by
  have hcommand : call.command.overridesCancel taskId = false := by
    rcases h.tracked.resolve_right hopen with ⟨task, htask, hasks⟩
    exact hcall.2 task htask hasks.2
  have hmoves := step_moves service db call hdb
  have hcommits := (Moves.invariant (fun db' => Owning db'.tasks db'.attempts ∧
    (∃ arow, db'.attempts.lookup a = some arow ∧ arow.attemptJson.taskId = taskId) ∧
    (db'.Ended a → call.command.commitsTo? = none)) ?_ hmoves
    ⟨h.owning, h.belongs, fun hended => absurd hended hopen⟩).2.2 hended
  · exact Moves.invariant
      (fun db' => db'.canon.projects.lookup q = db.canon.projects.lookup q)
      (fun _ _ hmove hsame => (hmove.canon_eq (by simp [hcommits])).trans hsame) hmoves rfl
  · rintro db₁ db₂ hmove ⟨hown, hbelongs, hcommits⟩
    refine ⟨hmove.owning h.owning hcall.1 hown, hmove.attempt_task hbelongs, ?_⟩
    intro hended₂
    by_cases hended₁ : db₁.Ended a
    · exact hcommits hended₁
    · exact hmove.ends_commitsTo hown hbelongs hcommand hended₁ hended₂

theorem step_cancelTracked (db : Db) (call : Call) (taskId : TaskId) (a : StableId)
    (hdb : Coherent db) (h : CancelTracked taskId a db) (hcall : HonoursCancel taskId a db call) :
    CancelTracked taskId a (step service db call) := by
  have hmoves := step_moves service db call hdb
  have hown := step_owning service db call hdb h.owning hcall.1
  have hbelongs : ∃ arow, (step service db call).attempts.lookup a = some arow ∧
      arow.attemptJson.taskId = taskId :=
    Moves.invariant
      (fun db => ∃ arow, db.attempts.lookup a = some arow ∧ arow.attemptJson.taskId = taskId)
      (fun _ _ hmove hdb => hmove.attempt_task hdb) hmoves h.belongs
  refine ⟨hown, hbelongs, ?_⟩
  rcases h.tracked with hpending | hended
  · rcases step_cancel service db call taskId a hdb h.owning hpending hcall with
      hpending' | ⟨task, htask, _, hidle⟩
    · exact .inl hpending'
    · -- The task names no attempt any more, so this one cannot be open.
      rcases hbelongs with ⟨arow, harow, rfl⟩
      refine .inr ⟨arow, harow, ?_⟩
      intro hopen
      rcases hown.openCurrent a arow harow hopen with ⟨row, hrow, hcurrent⟩
      rw [stored_of_lookup hrow, Option.some.injEq] at htask
      rw [htask, hidle] at hcurrent
      exact absurd hcurrent (by simp)
  · exact .inr (Moves.ended hmoves hended)

def Sample.cancel : Call :=
  ⟨Sample.env 3 0, .control Sample.taskId ⟨"c", .refl true⟩ .cancel "operator" "cancel" none⟩

/-- The recovery of its owner once the lease ran out. -/
def Sample.reclaim : Call :=
  ⟨Sample.env 303 0,
    .reclaimExpiredAttempt Sample.taskId ⟨"x", by decide⟩ "operator" "expired" none none⟩

def Sample.confirmCancel : Call :=
  ⟨Sample.env 303 0,
    .operatorReconcileAttempt Sample.taskId ⟨"x", by decide⟩ "operator" "cancelled" .cancelled none
      none []⟩

/-- What a call does to the cancelled sample task: it ends the attempt, and
    the task is left in this status. -/
def Sample.endsCancelled (call : Call) (status : TaskStatus) (db : Db) : Bool :=
  match perform Sample.service Sample.cancel.env Sample.cancel.command db with
  | .error _ => false
  | .ok (_, cancelled) =>
    (db.stored Sample.taskId).any (·.currentAttemptId = some (Sample.attemptId 1)) &&
      (cancelled.attempts.lookup (Sample.attemptId 1)).all (·.attemptJson.endedAt = none) &&
      ((step Sample.service cancelled call).attempts.lookup (Sample.attemptId 1)).any
        (·.attemptJson.endedAt ≠ none) &&
      ((step Sample.service cancelled call).stored Sample.taskId).any (·.status = status)

theorem Sample.endsCancelled_iff (call : Call) (status : TaskStatus) (db : Db)
    (h : Sample.endsCancelled call status db = true) :
    ∃ task db', db.stored Sample.taskId = some task ∧
      task.currentAttemptId = some (Sample.attemptId 1) ∧
      perform Sample.service Sample.cancel.env Sample.cancel.command db = .ok ((), db') ∧
      ¬ db'.Ended (Sample.attemptId 1) ∧
      (step Sample.service db' call).Ended (Sample.attemptId 1) ∧
      ((step Sample.service db' call).stored Sample.taskId).map TaskRecord.status =
        some status := by
  unfold Sample.endsCancelled at h
  split at h
  · exact absurd h (by simp)
  · rename_i db' hperform
    simp only [Bool.and_eq_true, Option.any_eq_true, Option.all_eq_true, decide_eq_true_eq] at h
    rcases h with ⟨⟨⟨⟨task, htask, hcurrent⟩, hopen⟩, row, hrow, hended⟩, task', htask', hstatus⟩
    refine ⟨task, db', htask, hcurrent, hperform, ?_, ⟨row, hrow, hended⟩, ?_⟩
    · rintro ⟨other, hother, hclosed⟩
      exact hclosed (hopen other hother)
    · rw [htask', Option.map_some, hstatus]

/-- Recovering the expired owner of a cancelled task leaves the task waiting
    for its next attempt. -/
theorem cancel_lost :
    ¬ ∀ (service : Service) (canon : Canon) (calls : List Call), Disciplined calls →
      ∀ (env : Env) (taskId : TaskId) (a commandId : StableId) (actorId reason : String)
        (observed : Option Nat) (task : TaskRecord) (db' : Db),
        (runCalls service (Db.fresh canon) calls).stored taskId = some task →
        task.currentAttemptId = some a →
        perform service env (.control taskId commandId .cancel actorId reason observed)
          (runCalls service (Db.fresh canon) calls) = .ok ((), db') →
        ∀ later call, Disciplined (later ++ [call]) →
          (∀ other ∈ later ++ [call], ∀ id actor why revision,
            other.command ≠ .resume taskId id actor why revision) →
          ¬ (runCalls service db' later).Ended a →
          (step service (runCalls service db' later) call).Ended a →
          ((step service (runCalls service db' later) call).stored taskId).map
            TaskRecord.status = some .cancelled := by
  intro h
  have hrun : Sample.endsCancelled Sample.reclaim .waitingRetry
      (Sample.after (Sample.claimed .planCandidate)) = true := by rfl
  rcases Sample.endsCancelled_iff _ _ _ hrun with
    ⟨task, db', htask, hcurrent, hperform, hopen, hended, hstatus⟩
  have hcancelled := h Sample.service Sample.canon (Sample.claimed .planCandidate) (by decide)
    _ _ _ _ _ _ _ task db' htask hcurrent hperform [] Sample.reclaim (by decide)
    (by simp [Sample.reclaim]) hopen hended
  exact absurd (hstatus.symm.trans hcancelled) (by decide)

/-- After a cancel was recorded on a task with an active attempt, every call of
    a run that honours it and ends the attempt leaves the task `CANCELLED` and
    the canon of every project as it was. -/
theorem cancel_wins (service : Service) (canon : Canon) (calls : List Call)
    (hcalls : Disciplined calls) (env : Env) (taskId : TaskId) (a commandId : StableId)
    (actorId reason : String) (observed : Option Nat) (task : TaskRecord) (db' : Db)
    (htask : (runCalls service (Db.fresh canon) calls).stored taskId = some task)
    (hactive : task.currentAttemptId = some a)
    (hcancel : perform service env (.control taskId commandId .cancel actorId reason observed)
      (runCalls service (Db.fresh canon) calls) = .ok ((), db'))
    (later : List Call) (hlater : Guarded (step service) (HonoursCancel taskId a) db' later) :
    ∀ reached call, reached ++ [call] <+: later →
      ¬ (runCalls service db' reached).Ended a →
      (step service (runCalls service db' reached) call).Ended a →
      ((step service (runCalls service db' reached) call).stored taskId).map TaskRecord.status =
          some .cancelled ∧
        ∀ q, (step service (runCalls service db' reached) call).canon.projects.lookup q =
          (runCalls service db' reached).canon.projects.lookup q := by
  rintro reached call ⟨rest, rfl⟩ hbefore hafter
  have hdb := runCalls_coherent service canon calls
  have hown := runCalls_owning service canon calls hcalls
  have hdb' : Coherent db' := Moves.coherent (perform_moves _ _ _ _ _ _ hdb hcancel) hdb
  have htracked : CancelTracked taskId a db' := by
    rcases discardResult_ok _ _ _ _ hcancel with ⟨result, hcontrol⟩
    rw [Db.stored, Option.map_eq_some_iff] at htask
    rcases htask with ⟨row, hrow, rfl⟩
    obtain rfl := hdb.taskKey _ _ hrow
    rcases hown.currentOpen _ _ _ hrow hactive with ⟨arow, harow, hbelongs, _⟩
    refine ⟨?_, ?_, .inl ⟨_, control_stored _ _ _ _ _ _ _ _ _ _ hdb hrow hcontrol, rfl, hactive⟩⟩
    · rw [← step_of_ok service _ db' ⟨env, _⟩ hcancel]
      exact step_owning service _ _ hdb hown rfl
    · exact Moves.invariant
        (fun db => ∃ arow, db.attempts.lookup a = some arow ∧
          arow.attemptJson.taskId = row.taskJson.taskId)
        (fun _ _ hmove hdb => hmove.attempt_task hdb) (perform_moves _ _ _ _ _ _ hdb hcancel)
        ⟨arow, harow, hbelongs⟩
  rw [List.append_assoc, guarded_append] at hlater
  rcases run_guarded (step service) (HonoursCancel taskId a)
    (fun db => Coherent db ∧ CancelTracked taskId a db)
    (fun db call hdb hcall => ⟨step_coherent service db call hdb.1,
      step_cancelTracked service db call taskId a hdb.1 hdb.2 hcall⟩)
    reached db' hlater.1 ⟨hdb', htracked⟩ with ⟨hreached, htracked'⟩
  have hcall : HonoursCancel taskId a (runCalls service db' reached) call := hlater.2.1
  have hpending := htracked'.tracked.resolve_right hbefore
  refine ⟨?_, step_cancel_canon service _ call taskId a hreached htracked' hcall hbefore hafter⟩
  rcases step_cancel service (runCalls service db' reached) call taskId a hreached
      htracked'.owning hpending hcall with
    ⟨task', htask', _, hcurrent⟩ | ⟨task', htask', hstatus, _⟩
  · rw [Db.stored, Option.map_eq_some_iff] at htask'
    rcases htask' with ⟨row, hrow, rfl⟩
    exact absurd hafter
      ((step_owning service _ call hreached htracked'.owning hcall.1).not_ended hrow hcurrent)
  · rw [htask', Option.map_some, hstatus]

/-- The operator who finds the worker gone and confirms the cancel settles it. -/
theorem cancel_wins_confirmed :
    ∃ db', perform Sample.service Sample.cancel.env Sample.cancel.command
        (Sample.after (Sample.claimed .planCandidate)) = .ok ((), db') ∧
      ((step Sample.service db' Sample.confirmCancel).stored Sample.taskId).map
        TaskRecord.status = some .cancelled ∧
      ∀ q, (step Sample.service db' Sample.confirmCancel).canon.projects.lookup q =
        db'.canon.projects.lookup q := by
  have hrun : Sample.endsCancelled Sample.confirmCancel .cancelled
      (Sample.after (Sample.claimed .planCandidate)) = true := by rfl
  rcases Sample.endsCancelled_iff _ _ _ hrun with
    ⟨task, db', htask, hcurrent, hperform, hopen, hended, _⟩
  exact ⟨db', hperform, cancel_wins Sample.service Sample.canon (Sample.claimed .planCandidate)
    (by decide) _ _ _ _ _ _ _ task db' htask hcurrent hperform [Sample.confirmCancel]
    ⟨⟨rfl, fun _ _ _ => rfl⟩, trivial⟩ [] Sample.confirmCancel (List.prefix_refl _) hopen hended⟩

end NovelAgent.Runtime
