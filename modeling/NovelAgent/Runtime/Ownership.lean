import NovelAgent.Runtime.Reachable

/-!
# Attempt Ownership

A task is owned by at most one attempt, and by the one it names.
-/

namespace NovelAgent.Runtime

open Core Domain

/-- The statuses with a current attempt. -/
def mayOwn (status : TaskStatus) : Prop :=
  status = .running ∨ status = .recoveryPending

/-- The columns of a row repeat the fields of its record. -/
structure TaskRow.Agrees (row : TaskRow) : Prop where
  status_eq : row.status = row.taskJson.status
  revision_eq : row.revision = row.taskJson.taskRevision
  current_eq : row.currentAttemptId = row.taskJson.currentAttemptId

/-- Tasks and attempts name each other. -/
structure Owning (tasks : Table TaskId TaskRow) (attempts : Table StableId AttemptRow) : Prop where
  agrees : ∀ k row, tasks.lookup k = some row → row.Agrees
  ended : ∀ a row, attempts.lookup a = some row → row.endedAt = row.attemptJson.endedAt
  idle : ∀ k row, tasks.lookup k = some row → row.taskJson.currentAttemptId ≠ none →
    mayOwn row.taskJson.status
  currentOpen : ∀ k row a, tasks.lookup k = some row → row.taskJson.currentAttemptId = some a →
    ∃ arow, attempts.lookup a = some arow ∧ arow.attemptJson.taskId = k ∧
      arow.attemptJson.endedAt = none
  openCurrent : ∀ a arow, attempts.lookup a = some arow → arow.attemptJson.endedAt = none →
    ∃ row, tasks.lookup arow.attemptJson.taskId = some row ∧
      row.taskJson.currentAttemptId = some a

theorem owning_fresh (canon : Canon) :
    Owning (Db.fresh canon).tasks (Db.fresh canon).attempts := by
  constructor <;> intro _ _ <;> simp [Db.fresh]

theorem TaskRow.agrees_overwrite (row : TaskRow) (task : TaskRecord) :
    (row.overwrite task).Agrees := ⟨rfl, rfl, rfl⟩

variable {tasks : Table TaskId TaskRow} {attempts : Table StableId AttemptRow} {k : TaskId}
    {row : TaskRow}

theorem Owning.idle_of_not (h : Owning tasks attempts) (hrow : tasks.lookup k = some row)
    (hstatus : ¬ mayOwn row.taskJson.status) : row.taskJson.currentAttemptId = none := by
  by_contra hcurrent
  exact hstatus (h.idle k row hrow hcurrent)

variable {a : StableId}

theorem Owning.not_ended {db : Db} (hown : Owning db.tasks db.attempts)
    (hrow : db.tasks.lookup k = some row) (hcurrent : row.taskJson.currentAttemptId = some a) :
    ¬ db.Ended a := by
  rintro ⟨arow, harow, hended⟩
  rcases hown.currentOpen k row a hrow hcurrent with ⟨open', hopen, _, hstill⟩
  rw [harow, Option.some.injEq] at hopen
  rw [← hopen] at hstill
  exact hended hstill

variable {command : Command}

/-- A rewritten record may own an attempt only where its old one did, or where
    the rewriting puts it in a status with an attempt. -/
theorem Rewrites.idle {task task' : TaskRecord} {entries : List Entry}
    (h : Rewrites command task task' entries)
    (hidle : task.currentAttemptId ≠ none → mayOwn task.status) :
    task'.currentAttemptId ≠ none → mayOwn task'.status := by
  intro hcurrent
  rw [h.current_eq] at hcurrent
  have hstatus := hidle hcurrent
  unfold mayOwn at hstatus ⊢
  cases h with
  | superseded _ reason commandId identity hopen hsupersedable =>
    rcases hstatus with hs | hs <;> simp [hs, supersedable] at hsupersedable
  | decided _ receipt receiptRef successors hwaiting => simp [hwaiting] at hstatus
  | suspected => exact .inr rfl
  | recoveryMarked => exact .inr rfl
  | controlled _ commandId request action actorId reason observed haction hretry =>
    cases request with
    | pause => simpa [controlledTask, controlledStatus, hcurrent] using hstatus
    | cancel => simp [controlledTask, controlledStatus, hcurrent]
    | retry => exact absurd (hretry rfl).1 hcurrent
    | unsupported action => simp [RequestedControl.action?] at haction
  | extended _ commandId actorId reason attempts tranches observed hreview => simp [hreview] at hstatus
  | unblocked _ commandId actorId fingerprint evidence observed hblocked => simp [hblocked] at hstatus
  | resumed _ commandId actorId reason observed hresumable =>
    rcases hresumable with ⟨_, hwaiting, _⟩ | ⟨_, hnone⟩
    · simp [hwaiting] at hstatus
    · exact absurd hnone hcurrent
  | repaired _ fence resultRef intentRef refs retryTask commandId identity hblocked =>
    simp [hblocked] at hstatus

variable {task : TaskRecord}

theorem Owning.overwriteTask (h : Owning tasks attempts) (hrow : tasks.lookup k = some row)
    (hcurrent : task.currentAttemptId = row.taskJson.currentAttemptId)
    (hidle : task.currentAttemptId ≠ none → mayOwn task.status) :
    Owning (tasks.insert k (row.overwrite task)) attempts := by
  refine ⟨Table.forall_lookup_insert h.agrees (row.agrees_overwrite task), h.ended,
    Table.forall_lookup_insert h.idle hidle, ?_, ?_⟩
  · intro k' row' a hrow' ha
    rw [Table.lookup_insert_if] at hrow'
    split at hrow'
    · rename_i hk
      rw [← Option.some.inj hrow'] at ha
      exact hk ▸ h.currentOpen k row a hrow (hcurrent.symm.trans ha)
    · exact h.currentOpen k' row' a hrow' ha
  · intro a arow harow hopen
    rcases h.openCurrent a arow harow hopen with ⟨row', hrow', ha⟩
    rw [Table.lookup_insert_if]
    split
    · rename_i hk
      rw [hk, hrow, Option.some.injEq] at hrow'
      subst hrow'
      exact ⟨_, rfl, hcurrent.trans ha⟩
    · exact ⟨row', hrow', ha⟩

theorem Owning.insertTask (h : Owning tasks attempts) (habsent : tasks.lookup task.taskId = none)
    (hcurrent : task.currentAttemptId = none) :
    Owning (tasks.insert task.taskId (insertedRow task)) attempts := by
  refine ⟨Table.forall_lookup_insert h.agrees ⟨rfl, rfl, hcurrent.symm⟩, h.ended,
    Table.forall_lookup_insert h.idle (fun hne => absurd hcurrent hne), ?_, ?_⟩
  · intro k row a hrow ha
    rw [Table.lookup_insert_if] at hrow
    split at hrow
    · rw [← Option.some.inj hrow] at ha
      exact absurd (hcurrent.symm.trans ha) (by simp)
    · exact h.currentOpen k row a hrow ha
  · intro a arow harow hopen
    rcases h.openCurrent a arow harow hopen with ⟨row, hrow, ha⟩
    refine ⟨row, ?_, ha⟩
    rw [Table.lookup_insert_if, if_neg, hrow]
    intro hk
    rw [hk, habsent] at hrow
    exact absurd hrow (by simp)

variable {attempt : TaskAttempt}

theorem Owning.openAttempt (h : Owning tasks attempts)
    (hrow : tasks.lookup row.taskJson.taskId = some row)
    (hidle : row.taskJson.currentAttemptId = none)
    (habsent : attempts.lookup attempt.attemptId = none)
    (htask : attempt.taskId = row.taskJson.taskId) (hopen : attempt.endedAt = none) :
    Owning
      (tasks.insert row.taskJson.taskId
        (row.overwrite (claimedTask row.taskJson attempt.attemptId)))
      (attempts.insert attempt.attemptId (insertedAttemptRow attempt)) := by
  refine ⟨Table.forall_lookup_insert h.agrees (row.agrees_overwrite _),
    Table.forall_lookup_insert h.ended rfl, Table.forall_lookup_insert h.idle (fun _ => .inl rfl),
    ?_, ?_⟩
  · intro k row' a hrow' ha
    rw [Table.lookup_insert_if] at hrow'
    split at hrow'
    · rename_i hk
      rw [← Option.some.inj hrow'] at ha
      obtain rfl : attempt.attemptId = a := Option.some.inj ha
      exact ⟨_, AList.lookup_insert _, htask.trans hk.symm, hopen⟩
    · rcases h.currentOpen k row' a hrow' ha with ⟨arow, harow, hown, hstill⟩
      refine ⟨arow, ?_, hown, hstill⟩
      rw [Table.lookup_insert_if, if_neg, harow]
      intro hsame
      rw [hsame, habsent] at harow
      exact absurd harow (by simp)
  · intro a arow harow hstill
    rw [Table.lookup_insert_if] at harow
    split at harow
    · rename_i ha
      rw [← Option.some.inj harow, insertedAttemptRow, htask]
      exact ⟨_, AList.lookup_insert _, by rw [ha]; rfl⟩
    · rcases h.openCurrent a arow harow hstill with ⟨row', hrow', ha⟩
      refine ⟨row', ?_, ha⟩
      rw [Table.lookup_insert_if, if_neg, hrow']
      intro hk
      -- The other attempt would already own the task that is idle.
      rw [hk, hrow, Option.some.injEq] at hrow'
      rw [← hrow', hidle] at ha
      exact absurd ha (by simp)

variable {arow : AttemptRow}

theorem Owning.touchAttempt (h : Owning tasks attempts) {k : StableId}
    (harow : attempts.lookup k = some arow) (htask : attempt.taskId = arow.attemptJson.taskId)
    (hended : attempt.endedAt = arow.attemptJson.endedAt) :
    Owning tasks (attempts.insert k (arow.overwrite attempt)) := by
  refine ⟨h.agrees, Table.forall_lookup_insert h.ended rfl, h.idle, ?_, ?_⟩
  · intro t row a hrow ha
    rcases h.currentOpen t row a hrow ha with ⟨other, hother, hown, hstill⟩
    rw [Table.lookup_insert_if]
    split
    · rename_i hk
      rw [hk, harow, Option.some.injEq] at hother
      subst hother
      exact ⟨_, rfl, htask.trans hown, hended.trans hstill⟩
    · exact ⟨other, hother, hown, hstill⟩
  · intro a other hother hstill
    rw [Table.lookup_insert_if] at hother
    split at hother
    · rename_i hk
      rw [← Option.some.inj hother] at hstill ⊢
      rw [AttemptRow.overwrite, htask, hk]
      exact h.openCurrent k arow harow (hended.symm.trans hstill)
    · exact h.openCurrent a other hother hstill

theorem Owning.closeAttempt (h : Owning tasks attempts) (hrow : tasks.lookup k = some row)
    (hcurrent : row.taskJson.currentAttemptId = some a) (hidle : task.currentAttemptId = none)
    (hended : attempt.endedAt ≠ none) :
    Owning (tasks.insert k (row.overwrite task)) (attempts.insert a (arow.overwrite attempt)) := by
  refine ⟨Table.forall_lookup_insert h.agrees (row.agrees_overwrite task),
    Table.forall_lookup_insert h.ended rfl,
    Table.forall_lookup_insert h.idle (fun hne => absurd hidle hne), ?_, ?_⟩
  · intro k' row' a' hrow' ha'
    rw [Table.lookup_insert_if] at hrow'
    split at hrow'
    · rw [← Option.some.inj hrow'] at ha'
      exact absurd (hidle.symm.trans ha') (by simp)
    · rename_i hk
      rcases h.currentOpen k' row' a' hrow' ha' with ⟨other, hother, hown, hstill⟩
      refine ⟨other, ?_, hown, hstill⟩
      rw [Table.lookup_insert_if, if_neg, hother]
      intro hsame
      -- The closed attempt belongs to the task it was current for.
      rcases h.currentOpen k row a hrow hcurrent with ⟨closed, hclosed, hcown, _⟩
      rw [hsame, hclosed, Option.some.injEq] at hother
      rw [← hother] at hown
      exact hk (hown.symm.trans hcown)
  · intro a' other hother hstill
    rw [Table.lookup_insert_if] at hother
    split at hother
    · rw [← Option.some.inj hother] at hstill
      exact absurd hstill hended
    · rename_i ha
      rcases h.openCurrent a' other hother hstill with ⟨row', hrow', hcur⟩
      refine ⟨row', ?_, hcur⟩
      rw [Table.lookup_insert_if, if_neg, hrow']
      intro hk
      rw [hk, hrow, Option.some.injEq] at hrow'
      rw [← hrow', hcurrent] at hcur
      exact ha (Option.some.inj hcur).symm

/-- Every move keeps it. -/
theorem Move.owning {env : Env} {db₀ db db' : Db} (h : Move env command db₀ db db')
    (hdb₀ : Owning db₀.tasks db₀.attempts) (hcommand : command.unclaimed = true)
    (hdb : Owning db.tasks db.attempts) : Owning db'.tasks db'.attempts := by
  cases h with
  | created task entry events habsent hcurrent hlater hentry hrecords =>
    refine hdb.insertTask habsent ?_
    rcases hcurrent with hnone | rfl | ⟨planner, hplanner, hblocked, hsame⟩
    · exact hnone
    · exact Option.isNone_iff_eq_none.mp hcommand
    · -- The retry of a blocked Planner task is as idle as the task itself.
      rw [Db.stored, Option.map_eq_some_iff] at hplanner
      rcases hplanner with ⟨row, hrow, rfl⟩
      rw [hsame]
      exact hdb₀.idle_of_not hrow (by simp [mayOwn, hblocked])
  | rewritten row task entries events hrow hstart hrewrites hrecords =>
    exact hdb.overwriteTask hrow hrewrites.current_eq (hrewrites.idle (hdb.idle _ _ hrow))
  | opened row attempt fenceDigest identity events workerId observed hrow hstart hclaim hready hidle
      hbudget habsent htask hopen hrecords =>
    exact hdb.openAttempt hrow hidle habsent htask hopen
  | touched row arow attempt entries events hunsigned hrow hcurrent harow hid htask hended hentries
      hrecords =>
    exact hdb.touchAttempt harow htask hended
  | closed row task arow attempt entries events hrow hstart hcurrent harow hcloses heffects hfrontier
      hrecords =>
    exact hdb.closeAttempt hrow hcurrent hcloses.current_eq hcloses.attempt_eq.2.2
  | requested => exact hdb
  | resolved => exact hdb
  | laneTaken row attempt fence generation identity events hfirst hrow hstart hclaim hcurrent harow
      hgeneration hrecords =>
    exact hdb.overwriteTask hrow rfl (hdb.idle _ _ hrow)
  | advanced => exact hdb
  | checkpointed => exact hdb

/-- It holds in every reachable store. -/
theorem runCalls_owning (service : Service) (canon : Canon) (calls : List Call)
    (hcalls : Disciplined calls) :
    Owning (runCalls service (Db.fresh canon) calls).tasks
      (runCalls service (Db.fresh canon) calls).attempts :=
  runCalls_invariant service (fun db => Owning db.tasks db.attempts) owning_fresh
    (fun _ _ _ _ _ _ hdb₀ hcommand hmove hdb => hmove.owning hdb₀ hcommand hdb) canon calls hcalls

/-- In every reachable store a task has at most one attempt that has not ended,
    that attempt is the one it names, only running tasks and tasks waiting for
    recovery name one, and the columns of a row agree with its record. -/
theorem attempt_ownership (service : Service) (canon : Canon) (calls : List Call)
    (hcalls : Disciplined calls) :
    let db := runCalls service (Db.fresh canon) calls
    (∀ a₁ a₂ row₁ row₂, db.attempts.lookup a₁ = some row₁ → db.attempts.lookup a₂ = some row₂ →
      row₁.attemptJson.endedAt = none → row₂.attemptJson.endedAt = none →
      row₁.attemptJson.taskId = row₂.attemptJson.taskId → a₁ = a₂) ∧
    (∀ a arow, db.attempts.lookup a = some arow → arow.attemptJson.endedAt = none →
      ∃ row, db.tasks.lookup arow.attemptJson.taskId = some row ∧
        row.taskJson.currentAttemptId = some a) ∧
    (∀ k row, db.tasks.lookup k = some row → row.taskJson.status ≠ .running →
      row.taskJson.status ≠ .recoveryPending → row.taskJson.currentAttemptId = none) ∧
    (∀ k row, db.tasks.lookup k = some row → row.status = row.taskJson.status ∧
      row.revision = row.taskJson.taskRevision ∧
      row.currentAttemptId = row.taskJson.currentAttemptId) := by
  have h := runCalls_owning service canon calls hcalls
  refine ⟨?_, h.openCurrent, ?_, ?_⟩
  · intro a₁ a₂ row₁ row₂ hrow₁ hrow₂ hopen₁ hopen₂ hsame
    rcases h.openCurrent a₁ row₁ hrow₁ hopen₁ with ⟨task₁, htask₁, hcurrent₁⟩
    rcases h.openCurrent a₂ row₂ hrow₂ hopen₂ with ⟨task₂, htask₂, hcurrent₂⟩
    rw [hsame, htask₂, Option.some.injEq] at htask₁
    rw [← htask₁, hcurrent₂] at hcurrent₁
    exact (Option.some.inj hcurrent₁).symm
  · intro k row hrow hrunning hpending
    exact h.idle_of_not hrow (not_or.mpr ⟨hrunning, hpending⟩)
  · intro k row hrow
    exact ⟨(h.agrees k row hrow).status_eq, (h.agrees k row hrow).revision_eq,
      (h.agrees k row hrow).current_eq⟩

/-- A claimed task has one open attempt and names it. -/
theorem attempt_ownership_claimed :
    Disciplined (Sample.claimed .planCandidate) ∧
    ∃ row arow,
      (Sample.after (Sample.claimed .planCandidate)).attempts.lookup (Sample.attemptId 1) =
        some arow ∧
      (Sample.after (Sample.claimed .planCandidate)).tasks.lookup arow.attemptJson.taskId =
        some row ∧
      row.taskJson.currentAttemptId = some (Sample.attemptId 1) := by
  have hcalls : Disciplined (Sample.claimed .planCandidate) := by decide
  have hopen : ((Sample.after (Sample.claimed .planCandidate)).attempts.lookup
      (Sample.attemptId 1)).any (fun arow => arow.attemptJson.endedAt = none) = true := by
    rfl
  rw [Option.any_eq_true] at hopen
  rcases hopen with ⟨arow, harow, hopen⟩
  rcases (attempt_ownership Sample.service Sample.canon _ hcalls).2.1 _ arow harow
    (by simpa using hopen) with ⟨row, hrow, hcurrent⟩
  exact ⟨hcalls, row, arow, harow, hrow, hcurrent⟩

end NovelAgent.Runtime
