import NovelAgent.Runtime.Succeeded

/-!
# Versions

What a reader of the store may rely on later.
-/

namespace NovelAgent.Runtime

open Core Domain Core.Transaction

/-- What a record is created with and keeps. -/
def keptPart (task : TaskRecord) : TaskRecord :=
  { task with
    taskRevision := 0
    status := .ready
    currentAttemptId := none
    terminalArtifactRefs := []
    blockCause := none
    failureBudget := 0
    plannerMemoryBudgetExtensions := 0
    writerGeneration := 0
    paused := false
    cancelRequested := false
    superseded := false }

/-- A record is a version of another, the same one or a later one. -/
structure Follows (seen task : TaskRecord) : Prop where
  kept : keptPart task = keptPart seen
  version : task = seen ∨ seen.taskRevision < task.taskRevision

variable {seen task task' : TaskRecord}

theorem Follows.refl (task : TaskRecord) : Follows task task := ⟨rfl, .inl rfl⟩

theorem Follows.next (h : Follows seen task) (hkept : keptPart task' = keptPart task)
    (hrevision : task'.taskRevision = task.taskRevision + 1) : Follows seen task' := by
  refine ⟨hkept.trans h.kept, .inr ?_⟩
  rcases h.version with rfl | hlt <;> omega

theorem Follows.eq_of_revision (h : Follows seen task)
    (hrevision : task.taskRevision = seen.taskRevision) : task = seen := by
  rcases h.version with heq | hlt
  · exact heq
  · omega

variable {command : Command} {env : Env} {entries : List Entry} {db₀ db db' : Db}
  {taskId : TaskId}

theorem Rewrites.follows (h : Rewrites command task task' entries) (hseen : Follows seen task) :
    Follows seen task' := by
  cases h <;> exact hseen.next rfl rfl

theorem Closes.follows {attempt attempt' : TaskAttempt}
    (h : Closes env command task task' attempt attempt' entries) (hseen : Follows seen task) :
    Follows seen task' := by
  cases h <;> exact hseen.next rfl rfl

/-- The task is stored, and no older than it was seen. -/
def StoredSince (seen : TaskRecord) (taskId : TaskId) (db : Db) : Prop :=
  ∃ task, db.stored taskId = some task ∧ Follows seen task

theorem StoredSince.overwrite {row : TaskRow} (h : StoredSince seen taskId db)
    (hrow : db.tasks.lookup row.taskJson.taskId = some row)
    (hnext : Follows seen row.taskJson → Follows seen task) :
    StoredSince seen taskId (db.putTask row.taskJson.taskId (row.overwrite task)) := by
  rcases h with ⟨current, hcurrent, hfollows⟩
  rw [StoredSince, Db.stored_putTask]
  by_cases hk : taskId = row.taskJson.taskId
  · rw [hk, stored_of_lookup hrow, Option.some.injEq] at hcurrent
    rw [if_pos hk]
    exact ⟨task, rfl, hnext (hcurrent ▸ hfollows)⟩
  · rw [if_neg hk]
    exact ⟨current, hcurrent, hfollows⟩

/-- A move stores a later version or leaves the task alone. -/
theorem Move.storedSince (h : Move env command db₀ db db') (hseen : StoredSince seen taskId db) :
    StoredSince seen taskId db' := by
  cases h with
  | created task entry events habsent =>
    rcases hseen with ⟨current, hcurrent, hfollows⟩
    refine ⟨current, ?_, hfollows⟩
    have hk : taskId ≠ task.taskId := by
      rintro rfl
      rw [Db.stored, habsent] at hcurrent
      exact absurd hcurrent (by simp)
    rw [Db.stored_putTask, if_neg hk]
    exact hcurrent
  | rewritten row task entries events hrow hstart hrewrites =>
    exact hseen.overwrite hrow hrewrites.follows
  | opened row attempt fenceDigest identity events workerId observed hrow =>
    exact hseen.overwrite hrow fun hfollows => hfollows.next rfl rfl
  | closed row task arow attempt entries events hrow hstart hcurrent harow hcloses =>
    exact hseen.overwrite hrow hcloses.follows
  | laneTaken row attempt fence generation identity events hfirst hrow =>
    exact hseen.overwrite hrow fun hfollows => hfollows.next rfl rfl
  | _ => exact hseen

/-- The task and the revision that a command expects. -/
def Command.observed? : Command → Option (TaskId × Nat)
  | .claim taskId _ observed => observed.map (taskId, ·)
  | .suspectExpiredAttempt taskId _ _ _ observed _ => observed.map (taskId, ·)
  | .reclaimExpiredAttempt taskId _ _ _ observed _ => observed.map (taskId, ·)
  | .reconcileEffect taskId _ _ observed => observed.map (taskId, ·)
  | .operatorReconcileAttempt taskId _ _ _ _ _ observed _ => observed.map (taskId, ·)
  | .markRecoveryPending taskId _ _ _ observed => observed.map (taskId, ·)
  | .control taskId _ _ _ _ observed => observed.map (taskId, ·)
  | .extendBudget taskId _ _ _ _ _ observed => observed.map (taskId, ·)
  | .unblock taskId _ _ _ _ observed => observed.map (taskId, ·)
  | .resume taskId _ _ _ observed => observed.map (taskId, ·)
  | .reconcileExternalCommit taskId _ _ _ _ observed => observed.map (taskId, ·)
  | _ => none

theorem loaded_observed {α : Type} {observed : Option Nat} {revision : Nat} {result : α}
    (rest : TaskRecord → Unit → Tx α)
    (h : (loadTask taskId >>= fun task => requireObservedRevision task observed >>= rest task) db =
      .ok (result, db'))
    {k : TaskId} (hobserved : observed.map (taskId, ·) = some (k, revision)) :
    ∃ task, db.stored k = some task ∧ task.taskRevision = revision := by
  simp only [bind_ok, loadTask_ok, requireObservedRevision_ok] at h
  rcases h with ⟨task, _, ⟨⟨row, hrow, rfl, _⟩, rfl⟩, _, _, ⟨hrevision, rfl⟩, _⟩
  rcases Option.map_eq_some_iff.mp hobserved with ⟨seen, hseen, hpair⟩
  obtain ⟨rfl, rfl⟩ := Prod.mk.inj hpair
  exact ⟨row.taskJson, by rw [Db.stored, hrow]; rfl, (hrevision seen hseen).symm⟩

/-- A command that succeeds has found the revision it expects. -/
theorem perform_observed (service : Service) {revision : Nat} {u : Unit}
    (h : perform service env command db = .ok (u, db'))
    (hobserved : command.observed? = some (taskId, revision)) :
    ∃ task, db.stored taskId = some task ∧ task.taskRevision = revision := by
  cases command with
  | claim =>
    rcases discardResult_ok _ _ _ _ h with ⟨result, h⟩
    rcases (bind_ok ..).mp h with ⟨_, _, hguard, h⟩
    obtain ⟨_, rfl⟩ := (raiseWhen_ok ..).mp hguard
    exact loaded_observed _ h hobserved
  | suspectExpiredAttempt | reclaimExpiredAttempt | markRecoveryPending | resume =>
    rcases discardResult_ok _ _ _ _ h with ⟨result, h⟩
    exact loaded_observed _ h hobserved
  | reconcileEffect | extendBudget | unblock =>
    rcases discardResult_ok _ _ _ _ h with ⟨result, h⟩
    rcases (bind_ok ..).mp h with ⟨_, _, hguard, h⟩
    obtain ⟨_, rfl⟩ := (raiseWhen_ok ..).mp hguard
    exact loaded_observed _ h hobserved
  | operatorReconcileAttempt | control =>
    rcases discardResult_ok _ _ _ _ h with ⟨result, h⟩
    rcases (bind_ok ..).mp h with ⟨_, _, hguard, h⟩
    obtain ⟨_, rfl⟩ := (fromOption_ok ..).mp hguard
    exact loaded_observed _ h hobserved
  | reconcileExternalCommit =>
    rcases discardResult_ok _ _ _ _ h with ⟨result, h⟩
    rcases (bind_ok ..).mp h with ⟨_, _, hguard, h⟩
    obtain rfl := loadManifest_ok _ _ _ _ hguard
    exact loaded_observed _ h hobserved
  | _ => cases hobserved

/-- A task that was seen in a reachable store is never removed and keeps what it was created
    with. While its revision is the one that was seen, the whole record is; and a command that
    expects this revision succeeds only while it is. -/
theorem no_lost_update (service : Service) (canon : Canon) (before later : List Call)
    (taskId : TaskId) (seen : TaskRecord)
    (hseen : (runCalls service (Db.fresh canon) before).stored taskId = some seen) :
    let db := runCalls service (runCalls service (Db.fresh canon) before) later
    (∃ task, db.stored taskId = some task ∧ keptPart task = keptPart seen ∧
      seen.taskRevision ≤ task.taskRevision ∧
      (task.taskRevision = seen.taskRevision → task = seen)) ∧
    ∀ env command, command.observed? = some (taskId, seen.taskRevision) →
      (perform service env command db).isOk = true → db.stored taskId = some seen := by
  intro db
  have hsince : StoredSince seen taskId db :=
    (runCalls_guarded service (fun _ _ => True) (StoredSince seen taskId)
      (fun _ _ _ _ _ _ _ _ hmove hseen => hmove.storedSince hseen) _ later
      (runCalls_coherent service canon before) ⟨seen, hseen, .refl seen⟩
      (guarded_of_forall service (fun _ => True) later (fun _ _ => trivial) _)).2
  rcases hsince with ⟨task, htask, hfollows⟩
  refine ⟨⟨task, htask, hfollows.kept, ?_, hfollows.eq_of_revision⟩, ?_⟩
  · rcases hfollows.version with rfl | hlt
    · exact Nat.le_refl _
    · exact Nat.le_of_lt hlt
  · intro env command hobserved hok
    cases h : perform service env command db with
    | error e =>
      rw [h] at hok
      exact absurd hok (by simp [Except.isOk, Except.toBool])
    | ok p =>
      rcases perform_observed service h hobserved with ⟨found, hfound, hrevision⟩
      rw [htask, Option.some.injEq] at hfound
      rw [htask, hfollows.eq_of_revision (hfound ▸ hrevision)]

/-- What was seen of a task before it is claimed. -/
theorem no_lost_update_claimed :
    ∃ task, (Sample.after (Sample.claimed .planCandidate)).stored Sample.taskId = some task ∧
      keptPart task = keptPart (Sample.task .planCandidate) := by
  rcases (no_lost_update Sample.service Sample.canon ((Sample.claimed .planCandidate).take 1)
    ((Sample.claimed .planCandidate).drop 1) Sample.taskId (Sample.task .planCandidate)
    rfl).1 with ⟨task, htask, hkept, _⟩
  exact ⟨task, htask, hkept⟩

theorem Move.frozen {a : StableId} {arow : AttemptRow} (h : Move env command db₀ db db')
    (hown : Owning db.tasks db.attempts) (harow : db.attempts.lookup a = some arow)
    (hended : arow.attemptJson.endedAt ≠ none) : db'.attempts.lookup a = some arow := by
  have hput : ∀ k row, a ≠ k → (db.attempts.insert k row).lookup a = some arow := by
    intro k row hk
    rw [Table.lookup_insert_if, if_neg hk, harow]
  cases h with
  | opened row attempt fenceDigest identity events workerId observed hrow hstart hcommand hready
      hidle hbudget habsent =>
    refine hput _ _ ?_
    rintro rfl
    rw [harow] at habsent
    exact absurd habsent (by simp)
  | touched row other attempt entries events hunsigned hrow hcurrent =>
    refine hput _ _ ?_
    rintro rfl
    exact hown.not_ended hrow hcurrent ⟨arow, harow, hended⟩
  | closed row task other attempt entries events hrow hstart hcurrent =>
    refine hput _ _ ?_
    rintro rfl
    exact hown.not_ended hrow hcurrent ⟨arow, harow, hended⟩
  | _ => exact harow

/-- An attempt that has ended in a reachable store is the same in every later one. -/
theorem ended_attempts_frozen (service : Service) (canon : Canon) (before later : List Call)
    (hcalls : Disciplined (before ++ later)) (a : StableId) (arow : AttemptRow)
    (harow : (runCalls service (Db.fresh canon) before).attempts.lookup a = some arow)
    (hended : arow.attemptJson.endedAt ≠ none) :
    (runCalls service (runCalls service (Db.fresh canon) before) later).attempts.lookup a =
      some arow := by
  have hown := runCalls_owning service canon before
    fun call hcall => hcalls call (List.mem_append_left _ hcall)
  refine (runCalls_guarded service (fun _ call => call.command.unclaimed = true)
    (fun db => Owning db.tasks db.attempts ∧ db.attempts.lookup a = some arow) ?_ _ later
    (runCalls_coherent service canon before) ⟨hown, harow⟩
    (guarded_of_forall service _ later
      (fun call hcall => hcalls call (List.mem_append_right _ hcall)) _)).2.2
  rintro call db₀ db db' _ _ ⟨hown₀, _⟩ hcall hmove ⟨hown, harow⟩
  exact ⟨hmove.owning hown₀ hcall hown, hmove.frozen hown harow hended⟩

/-- The attempt of a settled task, before and after a pause. -/
theorem ended_attempts_frozen_settled : ∃ arow, arow.attemptJson.endedAt ≠ none ∧
    (runCalls Sample.service (Sample.after Sample.settled) [⟨Sample.env 4 0, .control Sample.taskId
      ⟨"c", .refl true⟩ .pause "operator" "pause" none⟩]).attempts.lookup (Sample.attemptId 1) =
        some arow := by
  rcases (Option.any_eq_true _ _).mp Sample.settled_run.2.1 with ⟨arow, harow, hended⟩
  have hended := of_decide_eq_true hended
  exact ⟨arow, hended, ended_attempts_frozen Sample.service Sample.canon Sample.settled _
    (by decide) _ arow harow hended⟩

end NovelAgent.Runtime
