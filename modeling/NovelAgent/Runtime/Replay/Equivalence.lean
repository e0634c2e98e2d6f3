import NovelAgent.Runtime.Ownership
import NovelAgent.Runtime.Replay.Stream

/-!
# Replay Equivalence

When the replay of a run's events rebuilds the task records that are stored.
-/

namespace NovelAgent.Runtime

open Core Domain List

/-- The entries of the command do not tell what it does. -/
def Command.Untold (canon : Canon) (task : TaskRecord) : Command → Prop
  | .supersedeTask taskId _ => taskId = task.taskId ∧ task.superseded = false
  | .suspectExpiredAttempt taskId _ _ _ _ _ => taskId = task.taskId ∧ task.status = .running
  | .reclaimExpiredAttempt taskId _ _ _ _ _ =>
    taskId = task.taskId ∧ task.currentAttemptId ≠ none
  | .settleAttempt fence _ terminalStatus _ reported _ =>
    fence.taskId = task.taskId ∧ task.blockCause ≠ none ∧
      recordedCause
        (settledStatus task (normalizeFailureClass reported)
          (requestedStatus (normalizeFailureClass reported) terminalStatus))
        (normalizeFailureClass reported) = none
  | .settleMaintenanceAndRetryPlanner fence _ _ _ =>
    fence.taskId = task.taskId ∧ task.currentAttemptId ≠ none
  | .operatorReconcileAttempt taskId _ _ _ terminalStatus _ _ refs =>
    taskId = task.taskId ∧ (terminalStatus = .blocked ∨ task.blockCause ≠ none ∨
      task.paused ≠ decide (terminalStatus = .cancelled) ∨
      (task.terminalArtifactRefs ++ refs.eraseDups).eraseDups ≠ refs.eraseDups)
  | .control taskId _ .pause _ _ _ => taskId = task.taskId ∧ task.cancelRequested = true
  | .control taskId _ .retry _ _ _ =>
    taskId = task.taskId ∧ (task.paused = true ∨ task.cancelRequested = true)
  | .commitAcceptedCandidate fence request _ =>
    fence.taskId = task.taskId ∧ task.blockCause ≠ none ∧ canon.Accepts request
  | .recordExternalCommit fence _ _ _ _ => fence.taskId = task.taskId ∧ task.blockCause ≠ none
  | .reconcileExternalCommit taskId _ _ _ _ _ => taskId = task.taskId ∧ task.blockCause ≠ none
  | _ => False

theorem projectEntries_append (task : TaskRecord) (entries₁ entries₂ : List Entry) :
    projectEntries task (entries₁ ++ entries₂) =
      projectEntries (projectEntries task entries₁) entries₂ :=
  foldl_append

theorem projectedStatus_extended {task : TaskRecord} {intent : ControlIntent}
    (haction : intent.action = .extendBudget)
    (hbudget : 0 < task.failureBudget + intent.additionalAttempts) :
    projectedStatus task intent = .ready := by
  unfold projectedStatus
  rw [haction]
  exact if_pos hbudget

theorem projectEntries_notices (task : TaskRecord) (notices : List Entry)
    (h : ∀ entry ∈ notices, IsBlockNotice entry) : projectEntries task notices = task := by
  induction notices with
  | nil => rfl
  | cons notice notices ih =>
    rcases h notice mem_cons_self with ⟨_, _, _, _, hpayload⟩
    change projectEntries (projectTask task notice.payload notice.artifactRefs) notices = task
    rw [hpayload]
    exact ih fun entry hentry => h entry (mem_cons_of_mem notice hentry)

variable {command : Command} {canon : Canon} {task task' : TaskRecord} {entries : List Entry}

/-- A record that is rewritten is the one that its entries tell. The repair of
    a Planner is told by its maintenance task or not at all. -/
theorem Rewrites.told (h : Rewrites command task task' entries)
    (hrepair : ∀ fence resultRef refs retryTask,
      command ≠ .settleMaintenanceAndRetryPlanner fence resultRef refs retryTask)
    (htold : ¬ command.Untold canon task) : projectEntries task entries = task' := by
  cases h with
  | superseded _ reason commandId identity hopen hstatus => exact absurd ⟨rfl, hopen⟩ htold
  | decided _ receipt receiptRef successors hstatus =>
    have hmatches := receipt.decisionMatches
    cases hdecision : decide (receipt.decision = .accept) with
    | true =>
      rw [hdecision] at hmatches
      simp [projectEntries, projectTask, projectAcceptance, decidedTask,
        of_decide_eq_true hdecision, ← hmatches]
    | false =>
      rw [hdecision] at hmatches
      simp [projectEntries, projectTask, projectAcceptance, decidedTask,
        of_decide_eq_false hdecision, ← hmatches]
  | suspected _ commandId actorId reason observed now hstatus => exact absurd ⟨rfl, hstatus⟩ htold
  | recoveryMarked => rfl
  | controlled _ commandId request action actorId reason observed haction hretry =>
    cases request with
    | pause =>
      obtain rfl : ControlAction.pause = action := Option.some.inj haction
      have hcancel : task.cancelRequested = false := by
        simpa [Command.Untold] using htold
      simp [projectEntries, projectTask, projectControl, projectedStatus, controlledTask,
        controlledStatus, controlledGeneration, hcancel]
    | cancel =>
      obtain rfl : ControlAction.cancel = action := Option.some.inj haction
      simp [projectEntries, projectTask, projectControl, projectedStatus, controlledTask,
        controlledStatus, controlledGeneration]
    | retry =>
      obtain rfl : ControlAction.retry = action := Option.some.inj haction
      have hflags : task.paused = false ∧ task.cancelRequested = false := by
        simpa [Command.Untold] using htold
      simp [projectEntries, projectTask, projectControl, projectedStatus, controlledTask,
        controlledStatus, hflags.1, hflags.2, Nat.pos_iff_ne_zero]
    | unsupported text => exact absurd haction (by simp [RequestedControl.action?])
  | extended _ commandId actorId reason attempts tranches observed hstatus hidle hbudget =>
    simp [projectEntries, projectTask, projectControl, extendedTask]
    exact projectedStatus_extended rfl hbudget
  | unblocked =>
    simp [projectEntries, projectTask, projectControl, projectedStatus, unblockedTask,
      claimableStatus, Nat.pos_iff_ne_zero]
  | resumed =>
    simp [projectEntries, projectTask, projectControl, projectedStatus, resumedTask,
      claimableStatus, Nat.pos_iff_ne_zero]
  | repaired => exact absurd rfl (hrepair _ _ _ _)

/-- A settlement entry at the end tells the rest of the record, whatever
    notices stand before it. -/
theorem projectEntries_settled (task : TaskRecord) (notices : List Entry) (settled : AttemptSettled)
    (identity : StableId) (refs : List ArtifactRef)
    (h : ∀ entry ∈ notices, IsBlockNotice entry) :
    projectEntries task (notices ++ [⟨.attemptSettled settled, identity, refs⟩]) =
      projectSettled task settled := by
  rw [projectEntries_append, projectEntries_notices task notices h]
  rfl

/-- An operator's decision leaves the task in the status asked for, unless a
    retry has no budget left. -/
theorem reconciledStatus_eq (task : TaskRecord) (terminalStatus : TaskStatus)
    (decision : OperatorDecision) (failure : FailureClass)
    (h : OperatorDecision.ofStatus? terminalStatus = some decision) :
    reconciledStatus task decision failure = terminalStatus ∨
      terminalStatus = .waitingRetry ∧ reconciledStatus task decision failure = .budgetReview := by
  have hstatus : decision.status = terminalStatus := by
    cases terminalStatus with
    | waitingRetry => exact congrArg OperatorDecision.status (Option.some.inj h).symm
    | blocked => exact congrArg OperatorDecision.status (Option.some.inj h).symm
    | cancelled => exact congrArg OperatorDecision.status (Option.some.inj h).symm
    | _ => exact absurd h (by simp [OperatorDecision.ofStatus?])
  unfold reconciledStatus
  split
  · rename_i hbudget
    rw [hbudget.1] at hstatus
    exact .inr ⟨hstatus.symm, rfl⟩
  · exact .inl hstatus

theorem projectTask_commit (task : TaskRecord) (result : CommitResult) (refs : List ArtifactRef) :
    projectTask task (commitSettlement result).event refs = task := by
  unfold commitSettlement
  split <;> rfl

theorem commitSettlement_status (result : CommitResult)
    (h : (commitSettlement result).status ≠ .blocked) :
    (commitSettlement result).status = .succeeded := by
  unfold commitSettlement at h ⊢
  split at h
  · rfl
  · exact absurd rfl h
  · exact absurd rfl h

variable {env : Env} {attempt attempt' : TaskAttempt}

theorem Closes.told (h : Closes env command task task' attempt attempt' entries)
    (hcurrent : task.currentAttemptId ≠ none)
    (haccepted : ∀ fence request successors,
      command = .commitAcceptedCandidate fence request successors →
      task'.status = .succeeded → canon.Accepts request) (htold : ¬ command.Untold canon task) :
    projectEntries task entries = task' := by
  cases h with
  | reclaimed => exact absurd ⟨rfl, hcurrent⟩ htold
  | settled _ _ fence outcome terminalStatus refs reported successors failure status notices identity
      htask hfailure hstatus hcancel hsettleable hnotices =>
    rw [projectEntries_settled _ _ _ _ _ hnotices]
    have hcause : recordedCause status failure =
        (recordedCause status failure).or task.blockCause := by
      cases hrecorded : recordedCause status failure with
      | some cause => rfl
      | none =>
        rw [Option.none_or]
        by_contra hblock
        rw [hstatus, hfailure] at hrecorded
        exact htold ⟨htask, Ne.symm hblock, hrecorded⟩
    rw [projectSettled, settledTask, ← hcause]
    rfl
  | gapSettled _ _ fence findingRef maintenance notice identity htask hkind hnotice =>
    refine (projectEntries_settled task [notice] _ _ _ (by simpa using hnotice)).trans ?_
    rfl
  | maintenanceSettled _ _ fence resultRef refs retryTask identity htask =>
    exact absurd ⟨htask, hcurrent⟩ htold
  | reconciled _ _ commandId identity actorId reason terminalStatus given observed refs decision failure
      status notices hdecision hfailure hstatus hnotices =>
    simp only [Command.Untold, true_and, not_or, not_not] at htold
    rcases htold with ⟨hblocked, hcause, hpaused, hrefs⟩
    change projectEntries task (notices ++ _) = _
    rw [projectEntries_settled _ _ _ _ _ hnotices]
    have hreached := reconciledStatus_eq task terminalStatus decision failure hdecision
    rw [← hstatus] at hreached
    have hnotBlocked : status ≠ .blocked := by
      rcases hreached with hsame | ⟨_, hreview⟩
      · rw [hsame]
        exact hblocked
      · simp [hreview]
    have hsame : decide (status = .cancelled) = decide (terminalStatus = .cancelled) := by
      rcases hreached with hsame | ⟨hretry, hreview⟩
      · rw [hsame]
      · rw [hretry, hreview]
        rfl
    simp [projectSettled, reconciledTask, hnotBlocked, hcause, hrefs, hsame, ← hpaused,
      remainingBudget]
  | committed _ _ fence request successors result notices commitIdentity identity htask hkind
      hnotices =>
    rw [projectEntries_append, projectEntries_notices _ _ hnotices]
    change projectSettled (projectTask task (commitSettlement result).event _) _ = _
    rw [projectTask_commit]
    by_cases hblocked : (commitSettlement result).status = .blocked
    · simp [projectSettled, commitSettledTask, remainingBudget, hblocked]
    · have hsucceeded := commitSettlement_status result hblocked
      have hcause : task.blockCause = none := by
        by_contra hcause
        exact htold ⟨htask, hcause, haccepted _ _ _ rfl hsucceeded⟩
      simp [projectSettled, commitSettledTask, remainingBudget, hsucceeded, hcause]
  | externallySettled _ _ _ commitId refs commitIdentity identity hexternal =>
    have hcause : task.blockCause = none := by
      rcases hexternal with ⟨fence, receipt, successors, rfl, htask⟩ | ⟨_, _, _, rfl⟩
      · exact not_not.mp fun hcause => htold ⟨htask, hcause⟩
      · exact not_not.mp fun hcause => htold ⟨rfl, hcause⟩
    simp [projectEntries, projectTask, projectSettled, externallySettledTask, hcause,
      consumesTaskBudget]

/-! ### Changes that are told -/

theorem projectTask_runId (task : TaskRecord) (payload : EventPayload) (refs : List ArtifactRef) :
    (projectTask task payload refs).runId = task.runId := by
  cases payload with
  | controlRecorded intent =>
    simp only [projectTask, projectControl]
    split <;> rfl
  | _ => rfl

theorem projectEntries_runId (task : TaskRecord) (entries : List Entry) :
    (projectEntries task entries).runId = task.runId := by
  induction entries generalizing task with
  | nil => rfl
  | cons entry entries ih =>
    exact (ih (projectTask task entry.payload entry.artifactRefs)).trans (projectTask_runId _ _ _)

/-- One change of the store that its entries tell. -/
inductive Told (db db' : Db) : Prop
  | silent (hlog : db'.log = db.log) (htasks : db'.tasks = db.tasks)
      (hattempts : db'.attempts = db.attempts)
  | created (task : TaskRecord) (entry : Entry) (events : List RunEvent)
      (habsent : db.stored task.taskId = none) (hentry : entry.payload = .taskCreated task)
      (hrecords : Records db.log task.runId task.taskId [entry] events)
      (hlog : db'.log = db.log.pushAll events)
      (htasks : ∀ t, db'.stored t = if t = task.taskId then some task else db.stored t)
      (hattempts : db'.attempts = db.attempts)
  | recorded (task : TaskRecord) (entries : List Entry) (events : List RunEvent)
      (htask : db.stored task.taskId = some task)
      (hentries : ∀ entry ∈ entries, isCreation entry.payload = false)
      (hneeds : ∀ entry ∈ entries, ∀ a, needsAttempt? entry.payload = some a →
        ∃ arow, db.attempts.lookup a = some arow ∧ arow.attemptJson.taskId = task.taskId)
      (hrecords : Records db.log task.runId task.taskId entries events)
      (hlog : db'.log = db.log.pushAll events)
      (htasks : ∀ t, db'.stored t =
        if t = task.taskId then some (projectEntries task entries) else db.stored t)
      (hattempts : ∀ a arow', db'.attempts.lookup a = some arow' →
        (∃ arow, db.attempts.lookup a = some arow ∧
          arow.attemptJson.taskId = arow'.attemptJson.taskId) ∨
        arow'.attemptJson.taskId = task.taskId ∧
          ∃ entry ∈ entries, opensAttempt? entry.payload = some a)

theorem Rewrites.entries_plain (h : Rewrites command task task' entries) :
    ∀ entry ∈ entries, isCreation entry.payload = false ∧ needsAttempt? entry.payload = none := by
  cases h <;> simp [isCreation, needsAttempt?]

theorem IsBlockNotice.plain {entry : Entry} (h : IsBlockNotice entry) :
    isCreation entry.payload = false ∧ needsAttempt? entry.payload = none := by
  rcases h with ⟨_, _, _, _, hpayload⟩
  rw [hpayload]
  exact ⟨rfl, rfl⟩

theorem Closes.entries_plain (h : Closes env command task task' attempt attempt' entries) :
    ∀ entry ∈ entries, isCreation entry.payload = false ∧
      ∀ a, needsAttempt? entry.payload = some a → a = attempt.attemptId := by
  -- An entry that needs no attempt at all, and the settlement.
  have hplain : ∀ entry : Entry, isCreation entry.payload = false ∧
      needsAttempt? entry.payload = none → isCreation entry.payload = false ∧
        ∀ a, needsAttempt? entry.payload = some a → a = attempt.attemptId := by
    rintro entry ⟨hcreation, hneeds⟩
    exact ⟨hcreation, fun a ha => by simp [hneeds] at ha⟩
  have hsettled : ∀ settled identity refs, settled.attemptId = attempt.attemptId →
      isCreation (⟨.attemptSettled settled, identity, refs⟩ : Entry).payload = false ∧
        ∀ a, needsAttempt? (⟨.attemptSettled settled, identity, refs⟩ : Entry).payload = some a →
          a = attempt.attemptId := by
    intro settled identity refs hsame
    exact ⟨rfl, fun a ha => (Option.some.inj ha).symm.trans hsame⟩
  intro entry hentry
  cases h with
  | reclaimed =>
    simp only [mem_cons, not_mem_nil, or_false] at hentry
    rcases hentry with rfl | rfl
    · exact hplain _ ⟨rfl, rfl⟩
    · exact hsettled _ _ _ rfl
  | settled _ _ fence outcome terminalStatus refs reported successors failure status notices identity
      htask hfailure hstatus hcancel hsettleable hnotices =>
    rw [mem_append, mem_singleton] at hentry
    rcases hentry with hnotice | rfl
    · exact hplain _ (hnotices _ hnotice).plain
    · exact hsettled _ _ _ rfl
  | gapSettled _ _ fence findingRef maintenance notice identity htask hkind hnotice =>
    simp only [mem_cons, not_mem_nil, or_false] at hentry
    rcases hentry with rfl | rfl
    · exact hplain _ hnotice.plain
    · exact hsettled _ _ _ rfl
  | maintenanceSettled =>
    rw [mem_singleton] at hentry
    rw [hentry]
    exact hsettled _ _ _ rfl
  | reconciled _ _ commandId identity actorId reason terminalStatus given observed refs decision failure
      status notices hdecision hfailure hstatus hnotices =>
    rw [mem_cons, mem_append, mem_singleton] at hentry
    rcases hentry with rfl | hnotice | rfl
    · exact hplain _ ⟨rfl, rfl⟩
    · exact hplain _ (hnotices _ hnotice).plain
    · exact hsettled _ _ _ rfl
  | committed _ _ fence request successors result notices commitIdentity identity htask hkind
      hnotices =>
    simp only [mem_append, mem_cons, not_mem_nil, or_false] at hentry
    rcases hentry with hnotice | rfl | rfl
    · exact hplain _ (hnotices _ hnotice).plain
    · refine hplain _ ?_
      unfold commitSettlement
      split <;> exact ⟨rfl, rfl⟩
    · exact hsettled _ _ _ rfl
  | externallySettled =>
    simp only [mem_cons, not_mem_nil, or_false] at hentry
    rcases hentry with rfl | rfl
    · exact hplain _ ⟨rfl, rfl⟩
    · exact hsettled _ _ _ rfl

variable {db db' : Db} {row : TaskRow} {events : List RunEvent}

/-- An entry that neither creates a task nor needs an attempt is told as soon as
    the record it leaves is. -/
theorem Told.of_plain {task : TaskRecord} (hrow : db.tasks.lookup row.taskJson.taskId = some row)
    (hplain : ∀ entry ∈ entries,
      isCreation entry.payload = false ∧ needsAttempt? entry.payload = none)
    (hrecords : Records db.log row.taskJson.runId row.taskJson.taskId entries events)
    (hproject : projectEntries row.taskJson entries = task)
    (hlog : db'.log = db.log.pushAll events)
    (htasks : ∀ t, db'.stored t = if t = row.taskJson.taskId then some task else db.stored t)
    (hattempts : db'.attempts = db.attempts) : Told db db' := by
  refine .recorded row.taskJson entries events (stored_of_lookup hrow)
    (fun entry hentry => (hplain entry hentry).1) ?_ hrecords hlog ?_ ?_
  · intro entry hentry a ha
    rw [(hplain entry hentry).2] at ha
    exact absurd ha (by simp)
  · intro t
    rw [htasks t, hproject]
  · intro a arow ha
    rw [hattempts] at ha
    exact .inl ⟨arow, ha, rfl⟩

theorem Db.stored_same {db : Db} (hrow : db.tasks.lookup row.taskJson.taskId = some row)
    (t : TaskId) :
    db.stored t = if t = row.taskJson.taskId then some row.taskJson else db.stored t := by
  split
  · rename_i ht
    rw [ht, stored_of_lookup hrow]
  · rfl

theorem Move.told {db₀ db db' : Db} (h : Move env command db₀ db db')
    (hown : Owning db.tasks db.attempts)
    (htold : ∀ t task, db₀.stored t = some task → ¬ command.Untold db₀.canon task) :
    Told db db' := by
  -- An attempt that is overwritten stays with its task.
  have hkept : ∀ k row, (∃ arow, db.attempts.lookup k = some arow ∧
      arow.attemptJson.taskId = row.attemptJson.taskId) →
      ∀ a arow', (db.attempts.insert k row).lookup a = some arow' →
        ∃ arow, db.attempts.lookup a = some arow ∧
          arow.attemptJson.taskId = arow'.attemptJson.taskId := by
    intro k row hrow a arow' ha
    rw [Table.lookup_insert_if] at ha
    split at ha
    · rename_i hk
      rw [hk, ← Option.some.inj ha]
      exact hrow
    · exact ⟨arow', ha, rfl⟩
  cases h with
  | created task entry events habsent hcurrent hlater hentry hrecords =>
    exact .created task entry events (by rw [Db.stored, habsent]; rfl) hentry hrecords rfl
      (Db.stored_putTask _ _ · _) rfl
  | rewritten row task entries events hrow hstart hrewrites hrecords hrepair =>
    refine .of_plain hrow hrewrites.entries_plain hrecords
      (hrewrites.told ?_ (htold _ _ hstart)) rfl (Db.stored_putTask _ _ · _) rfl
    intro fence resultRef refs retryTask hcommand
    rcases hrepair _ _ _ _ hcommand with ⟨maintenance, hmaintenance, hid, hactive⟩
    refine htold _ _ hmaintenance ?_
    rw [hcommand]
    exact ⟨hid.symm, hactive⟩
  | opened row attempt fenceDigest identity events workerId observed hrow hstart hcommand hready hidle
      hbudget habsent htask hopen hrecords =>
    refine .recorded row.taskJson _ events (stored_of_lookup hrow) (by simp [isCreation])
      (by simp [needsAttempt?]) hrecords rfl (Db.stored_putTask _ _ · _) ?_
    intro a arow' ha
    change (db.attempts.insert _ _).lookup a = some arow' at ha
    rw [Table.lookup_insert_if] at ha
    split at ha
    · rename_i hk
      rw [← Option.some.inj ha]
      exact .inr ⟨htask, _, mem_cons_self, congrArg some hk.symm⟩
    · exact .inl ⟨arow', ha, rfl⟩
  | touched row arow attempt entries events hunsigned hrow hcurrent harow hid htask hended hentries
      hrecords =>
    rcases hown.currentOpen _ _ _ hrow hcurrent with ⟨found, hfound, hbelongs, _⟩
    obtain rfl : arow = found := Option.some.inj (harow.symm.trans hfound)
    rcases hentries with rfl | ⟨workerId, startedAt, identity, rfl⟩
    · refine .recorded row.taskJson [] events (stored_of_lookup hrow) (by simp) (by simp) hrecords
        rfl (Db.stored_same hrow) ?_
      exact fun a arow' ha => .inl (hkept _ _ ⟨arow, harow, htask.symm⟩ a arow' ha)
    · refine .recorded row.taskJson _ events (stored_of_lookup hrow) (by simp [isCreation]) ?_
        hrecords rfl (Db.stored_same hrow) ?_
      · simp only [mem_singleton, forall_eq, needsAttempt?, Option.some.injEq]
        rintro a rfl
        exact ⟨arow, by rw [hid, harow], hbelongs⟩
      · exact fun a arow' ha => .inl (hkept _ _ ⟨arow, harow, htask.symm⟩ a arow' ha)
  | closed row task arow attempt entries events hrow hstart hcurrent harow hcloses heffects hfrontier
      hrecords haccepted =>
    rcases hown.currentOpen _ _ _ hrow hcurrent with ⟨found, hfound, hbelongs, _⟩
    obtain rfl : arow = found := Option.some.inj (harow.symm.trans hfound)
    refine .recorded row.taskJson entries events (stored_of_lookup hrow)
      (fun entry hentry => (hcloses.entries_plain entry hentry).1) ?_ hrecords rfl ?_ ?_
    · intro entry hentry a ha
      rw [(hcloses.entries_plain entry hentry).2 a ha]
      exact ⟨arow, harow, hbelongs⟩
    · intro t
      rw [hcloses.told (by simp [hcurrent]) haccepted (htold _ _ hstart)]
      exact Db.stored_putTask _ _ _ _
    · exact fun a arow' ha =>
        .inl (hkept _ _ ⟨arow, harow, hcloses.attempt_eq.2.1.symm⟩ a arow' ha)
  | requested row erow receipt identity events hunsigned hrow hcurrent hagrees habsent hrecords =>
    exact .of_plain hrow (by simp [isCreation, needsAttempt?]) hrecords rfl rfl
      (Db.stored_same hrow) rfl
  | resolved row erow receipt identity refs events hfirst hrow herow hstatus howner hrecords =>
    exact .of_plain hrow (by simp [isCreation, needsAttempt?]) hrecords rfl rfl
      (Db.stored_same hrow) rfl
  | laneTaken row attempt fence generation identity events hfirst hrow hstart hcommand hcurrent harow
      hgeneration hrecords =>
    exact .of_plain hrow (by simp [isCreation, needsAttempt?]) hrecords rfl rfl
      (Db.stored_putTask _ _ · _) rfl
  | advanced => exact .silent rfl rfl rfl
  | checkpointed row attemptId checkpoint crow identity refs events hunsigned hrow hrecords =>
    exact .of_plain hrow (by simp [isCreation, needsAttempt?]) hrecords rfl rfl
      (Db.stored_same hrow) rfl

def AttemptsStored (db : Db) : Prop :=
  ∀ a arow, db.attempts.lookup a = some arow → ∃ task, db.stored arow.attemptJson.taskId = some task

/-- The events of a run rebuild its tasks. -/
def Replayed (db : Db) (r : RunId) : Prop :=
  ∃ loop, (db.log.ofRun r).foldlM projectEvent ReplayLoop.start = .ok loop ∧
    loop.At db.log r ∧
    (∀ t, loop.state.tasks.lookup t = (db.stored t).filter (·.runId = r)) ∧
    ∀ a arow task, db.attempts.lookup a = some arow →
      db.stored arow.attemptJson.taskId = some task → task.runId = r →
      (loop.state.attempts.lookup a).isSome

theorem Told.attemptsStored (h : Told db db') (hdb : AttemptsStored db) : AttemptsStored db' := by
  intro a arow ha
  cases h with
  | silent hlog htasks hattempts =>
    rw [hattempts] at ha
    rcases hdb a arow ha with ⟨task, htask⟩
    exact ⟨task, by rw [Db.stored, htasks]; exact htask⟩
  | created task entry events habsent hentry hrecords hlog htasks hattempts =>
    rw [hattempts] at ha
    rcases hdb a arow ha with ⟨found, hfound⟩
    rw [htasks]
    split
    · exact ⟨task, rfl⟩
    · exact ⟨found, hfound⟩
  | recorded task entries events htask hentries hneeds hrecords hlog htasks hattempts =>
    rw [htasks]
    rcases hattempts a arow ha with ⟨old, hold, hsame⟩ | ⟨hown, _⟩
    · rcases hdb a old hold with ⟨found, hfound⟩
      rw [hsame] at hfound
      split
      · exact ⟨_, rfl⟩
      · exact ⟨found, hfound⟩
    · exact ⟨_, if_pos hown⟩

theorem Replayed.of_other {r runId : RunId} {taskId : TaskId} {task' : TaskRecord}
    (h : Replayed db r) (hr : r ≠ runId) (hrecords : Records db.log runId taskId entries events)
    (hlog : db'.log = db.log.pushAll events) (hrun : task'.runId = runId)
    (hbefore : ∀ task, db.stored taskId = some task → task.runId = runId)
    (htasks : ∀ t, db'.stored t = if t = taskId then some task' else db.stored t)
    (hattempts : ∀ a arow', db'.attempts.lookup a = some arow' → arow'.attemptJson.taskId ≠ taskId →
      ∃ arow, db.attempts.lookup a = some arow ∧
        arow.attemptJson.taskId = arow'.attemptJson.taskId) : Replayed db' r := by
  rcases h with ⟨loop, hfold, hloop, htasks₀, hattempts₀⟩
  refine ⟨loop, ?_, ⟨?_, hloop.active⟩, ?_, ?_⟩
  · rw [hlog, hrecords.ofRun_pushAll, if_neg (Ne.symm hr), append_nil]
    exact hfold
  · rw [hlog, hrecords.nextSequence_of_ne hr]
    exact hloop.sequence
  · intro t
    rw [htasks₀ t, htasks t]
    split
    · rename_i ht
      subst ht
      have hnone : (db.stored t).filter (·.runId = r) = none := by
        rw [Option.filter_eq_none_iff]
        intro task htask
        simpa [hbefore task htask] using Ne.symm hr
      rw [hnone, Option.filter_some, if_neg (by simpa [hrun] using Ne.symm hr)]
    · rfl
  · intro a arow' task ha htask hsame
    rw [htasks] at htask
    split at htask
    · rw [← Option.some.inj htask, hrun] at hsame
      exact absurd hsame.symm hr
    · rename_i hne
      rcases hattempts a arow' ha hne with ⟨arow, harow, hown⟩
      rw [← hown] at htask
      exact hattempts₀ a arow task harow htask hsame

/-- Told changes keep the replay in step. -/
theorem Told.replayed (h : Told db db') (hstored : AttemptsStored db) (r : RunId)
    (hdb : Replayed db r) : Replayed db' r := by
  cases h with
  | silent hlog htasks hattempts =>
    rcases hdb with ⟨loop, hfold, hloop, htasks₀, hattempts₀⟩
    refine ⟨loop, by rw [hlog]; exact hfold, by rw [hlog]; exact hloop, ?_, ?_⟩
    · intro t
      rw [Db.stored, htasks]
      exact htasks₀ t
    · intro a arow task ha htask
      rw [hattempts] at ha
      rw [Db.stored, htasks] at htask
      exact hattempts₀ a arow task ha htask
  | created task entry events habsent hentry hrecords hlog htasks hattempts =>
    by_cases hr : r = task.runId
    · subst hr
      rcases hdb with ⟨loop, hfold, hloop, htasks₀, hattempts₀⟩
      have habsent₀ : loop.state.tasks.lookup task.taskId = none := by
        rw [htasks₀, habsent]
        rfl
      rcases foldlM_creation hloop hrecords hentry habsent₀ with
        ⟨loop', hfold', hloop', htasks', hattempts'⟩
      refine ⟨loop', ?_, by rw [hlog]; exact hloop', ?_, ?_⟩
      · rw [hlog, hrecords.ofRun_pushAll, if_pos rfl, foldlM_append, hfold]
        exact hfold'
      · intro t
        rw [htasks' t, htasks t]
        by_cases ht : t = task.taskId
        · simp [ht, Option.filter_some]
        · rw [if_neg ht, if_neg ht, htasks₀ t]
      · -- The task is new, so no attempt can belong to it.
        intro a arow found ha hfound hrun
        rw [hattempts] at ha
        rcases hstored a arow ha with ⟨owner, howner⟩
        have hne : arow.attemptJson.taskId ≠ task.taskId := by
          intro hsame
          rw [hsame, habsent] at howner
          exact absurd howner (by simp)
        rw [htasks, if_neg hne] at hfound
        rw [hattempts']
        exact hattempts₀ a arow found ha hfound hrun
    · refine hdb.of_other hr hrecords hlog rfl ?_ htasks ?_
      · intro found hfound
        rw [habsent] at hfound
        exact absurd hfound (by simp)
      · intro a arow ha _
        rw [hattempts] at ha
        exact ⟨arow, ha, rfl⟩
  | recorded task entries events htask hentries hneeds hrecords hlog htasks hattempts =>
    by_cases hr : r = task.runId
    · subst hr
      rcases hdb with ⟨loop, hfold, hloop, htasks₀, hattempts₀⟩
      have htask₀ : loop.state.tasks.lookup task.taskId = some task := by
        rw [htasks₀, htask]
        simp
      have hneeds₀ : ∀ entry ∈ entries, ∀ a, needsAttempt? entry.payload = some a →
          (loop.state.attempts.lookup a).isSome := by
        intro entry hentry a ha
        rcases hneeds entry hentry a ha with ⟨arow, harow, hown⟩
        exact hattempts₀ a arow task harow (by rw [hown]; exact htask) rfl
      rcases foldlM_entries hloop hrecords htask₀ hentries hneeds₀ with
        ⟨loop', hfold', hloop', htasks', hattempts'⟩
      refine ⟨loop', ?_, by rw [hlog]; exact hloop', ?_, ?_⟩
      · rw [hlog, hrecords.ofRun_pushAll, if_pos rfl, foldlM_append, hfold]
        exact hfold'
      · intro t
        rw [htasks' t, htasks t]
        by_cases ht : t = task.taskId
        · simp [ht, Option.filter_some, projectEntries_runId]
        · rw [if_neg ht, if_neg ht, htasks₀ t]
      · intro a arow' found ha hfound hrun
        rcases hattempts a arow' ha with ⟨arow, harow, hown⟩ | ⟨_, entry, hentry, hopens⟩
        · refine hattempts' a (.inl ?_)
          rw [htasks] at hfound
          split at hfound
          · rename_i hsame
            exact hattempts₀ a arow task harow (by rw [hown, hsame]; exact htask) rfl
          · exact hattempts₀ a arow found harow (by rw [hown]; exact hfound) hrun
        · exact hattempts' a (.inr ⟨entry, hentry, hopens⟩)
    · refine hdb.of_other hr hrecords hlog (projectEntries_runId task entries) ?_ htasks ?_
      · intro found hfound
        rw [htask, Option.some.injEq] at hfound
        rw [← hfound]
      · intro a arow' ha hne
        exact (hattempts a arow' ha).resolve_right fun hown => hne hown.1

/-- Every call creates unclaimed tasks and is told on all records it finds. -/
def TellsAll (db : Db) (call : Call) : Prop :=
  call.command.unclaimed = true ∧
    ∀ t task, db.stored t = some task → ¬ call.command.Untold db.canon task

theorem replayed_fresh (canon : Canon) (r : RunId) : Replayed (Db.fresh canon) r := by
  refine ⟨ReplayLoop.start, rfl, ⟨rfl, .inl rfl⟩, fun t => rfl, ?_⟩
  intro a arow task ha
  exact absurd ha (by simp [Db.fresh])

theorem runCalls_replayed (service : Service) (canon : Canon) (calls : List Call)
    (hcalls : Guarded (step service) TellsAll (Db.fresh canon) calls) (r : RunId) :
    Replayed (runCalls service (Db.fresh canon) calls) r := by
  have hrun := runCalls_guarded service TellsAll
    (fun db => Owning db.tasks db.attempts ∧ AttemptsStored db ∧ Replayed db r) ?_
    (Db.fresh canon) calls (coherent_fresh canon)
    ⟨owning_fresh canon, ?_, replayed_fresh canon r⟩ hcalls
  · exact hrun.2.2.2
  · rintro call db₀ db db' _ _ ⟨hown₀, _⟩ hcall hmove ⟨hown, hstored, hreplayed⟩
    have htold := hmove.told hown hcall.2
    exact ⟨hmove.owning hown₀ hcall.1 hown, htold.attemptsStored hstored,
      htold.replayed hstored r hreplayed⟩
  · intro a arow ha
    exact absurd ha (by simp [Db.fresh])

def Succeeds (service : Service) (db : Db) (call : Call) : Prop :=
  ∃ db', perform service call.env call.command db = .ok ((), db')

theorem succeeds_of_isOk {service : Service} {db : Db} {call : Call}
    (h : (perform service call.env call.command db).isOk = true) : Succeeds service db call := by
  cases hperform : perform service call.env call.command db with
  | error e =>
    rw [hperform] at h
    exact absurd h Bool.false_ne_true
  | ok result => exact ⟨result.2, hperform⟩

/-- The calls of the failing replay: a task is created and superseded. -/
def Sample.superseded : List Call :=
  [⟨Sample.env 1 0, .createTask (Sample.task .planCandidate)⟩,
    ⟨Sample.env 2 0, .supersedeTask Sample.taskId "replaced"⟩]

/-- The replay of a superseded task finds it still claimable. -/
theorem replay_diverges :
    ¬ ∀ (service : Service) (canon : Canon) (calls : List Call), Disciplined calls →
      Guarded (step service) (Succeeds service) (Db.fresh canon) calls →
      ∀ r, ∃ state,
        projectRuntimeEvents (replay (runCalls service (Db.fresh canon) calls) r 0) = .ok state ∧
        ∀ t, state.tasks.lookup t =
          ((runCalls service (Db.fresh canon) calls).stored t).filter (·.runId = r) := by
  intro h
  have hsucceeds : Guarded (step Sample.service) (Succeeds Sample.service) (Db.fresh Sample.canon)
      Sample.superseded :=
    ⟨succeeds_of_isOk rfl, succeeds_of_isOk rfl, trivial⟩
  have hreplayed : (projectRuntimeEvents
      (replay (Sample.after Sample.superseded) Sample.runId 0)).toOption.all
        (fun state => (state.tasks.lookup Sample.taskId).any (·.status = .ready)) = true := by
    rfl
  have hstored : ((Sample.after Sample.superseded).stored Sample.taskId).all
      (·.status = .cancelled) = true := by rfl
  rcases h Sample.service Sample.canon Sample.superseded (by decide) hsucceeds Sample.runId with
    ⟨state, hstate, htasks⟩
  change projectRuntimeEvents (replay (Sample.after Sample.superseded) _ 0) = _ at hstate
  rw [hstate] at hreplayed
  simp only [Except.toOption, Option.all_some, Option.any_eq_true, decide_eq_true_eq] at hreplayed
  rcases hreplayed with ⟨task, htask, hready⟩
  rw [htasks, Option.filter_eq_some_iff] at htask
  rw [Option.all_eq_true] at hstored
  have hcancelled := hstored task htask.1
  rw [hready] at hcancelled
  exact absurd hcancelled (by decide)

/-- The replay of every run rebuilds exactly its stored tasks, in every store
    that a run of calls which tell everything reaches. -/
theorem replay_equivalence (service : Service) (canon : Canon) (calls : List Call)
    (hcalls : Guarded (step service) TellsAll (Db.fresh canon) calls) :
    ∀ reached, reached <+: calls → ∀ r, ∃ state,
      projectRuntimeEvents (replay (runCalls service (Db.fresh canon) reached) r 0) = .ok state ∧
      ∀ t, state.tasks.lookup t =
        ((runCalls service (Db.fresh canon) reached).stored t).filter (·.runId = r) := by
  rintro reached ⟨rest, rfl⟩ r
  rcases runCalls_replayed service canon reached ((guarded_append _ _ _ _ _).mp hcalls).1 r with
    ⟨loop, hfold, _, htasks, _⟩
  refine ⟨loop.state, ?_, htasks⟩
  rw [(runCalls_sound service canon reached).replay_eq, projectRuntimeEvents, hfold]
  rfl

/-- A task that is created and claimed is replayed. -/
theorem replay_equivalence_claimed :
    ∃ state, projectRuntimeEvents
        (replay (Sample.after (Sample.claimed .planCandidate)) Sample.runId 0) = .ok state ∧
      ∀ t, state.tasks.lookup t =
        ((Sample.after (Sample.claimed .planCandidate)).stored t).filter
          (·.runId = Sample.runId) :=
  replay_equivalence Sample.service Sample.canon (Sample.claimed .planCandidate)
    ⟨⟨rfl, fun _ _ _ h => h⟩, ⟨rfl, fun _ _ _ h => h⟩, trivial⟩ _ (prefix_refl _) Sample.runId

end NovelAgent.Runtime
