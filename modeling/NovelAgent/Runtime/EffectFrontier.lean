import NovelAgent.Runtime.WriterLane

/-!
# The Effect Frontier

When an attempt that has ended has no effect whose outcome is unknown.
-/

namespace NovelAgent.Runtime

open Core Domain

/-- A command that ends an attempt unchecked finds its effects resolved, with the proof it brings
    counted in, and no effect of an ended attempt is reconciled as uncertain. -/
structure FrontierKept (db : Db) (command : Command) : Prop where
  closing : ∀ taskId task a, command.closesUnchecked? = some taskId →
    db.stored taskId = some task → task.currentAttemptId = some a →
    ∀ k erow, (effectsAtClose command db).lookup k = some erow → erow.attemptId = a →
      erow.status.isUnresolved = false
  reconciling : ∀ taskId receipt commandId observed,
    command = .reconcileEffect taskId receipt commandId observed →
    receipt.status.isUnresolved = true →
    ∀ erow, db.effects.lookup receipt.effectIdentity = some erow → ¬ db.Ended erow.attemptId

/-- No attempt that has ended owns an unresolved effect, and the status column
    of an effect is the one of its receipt. -/
structure FrontierSettled (db : Db) : Prop where
  resolved : ∀ k erow, db.effects.lookup k = some erow → db.Ended erow.attemptId →
    erow.status.isUnresolved = false
  agrees : ∀ k erow, db.effects.lookup k = some erow → erow.status = erow.effectJson.status

theorem Closes.resolved {env : Env} {command : Command} {task task' : TaskRecord}
    {attempt attempt' : TaskAttempt} {entries : List Entry} {db₀ : Db}
    (h : Closes env command task task' attempt attempt' entries)
    (hstored : db₀.stored task.taskId = some task)
    (hcurrent : task.currentAttemptId = some attempt.attemptId)
    (hfrontier : command.checksFrontier = true → db₀.hasUnresolvedEffect attempt.attemptId = false)
    (hkept : FrontierKept db₀ command) :
    ∀ k erow, (effectsAtClose command db₀).lookup k = some erow → erow.attemptId = attempt.attemptId →
      erow.status.isUnresolved = false := by
  have hchecked : command.checksFrontier = true → effectsAtClose command db₀ = db₀.effects →
      ∀ k erow, (effectsAtClose command db₀).lookup k = some erow →
        erow.attemptId = attempt.attemptId → erow.status.isUnresolved = false := by
    intro hchecks heffects
    rw [heffects]
    exact (hasUnresolvedEffect_eq_false _ _).mp (hfrontier hchecks)
  cases h with
  | reclaimed => exact hchecked rfl rfl
  | settled => exact hchecked rfl rfl
  | reconciled => exact hchecked rfl rfl
  | gapSettled _ _ fence findingRef maintenance notice identity htask =>
    exact hkept.closing _ task _ (congrArg some htask) hstored hcurrent
  | maintenanceSettled _ _ fence resultRef refs retryTask identity htask =>
    exact hkept.closing _ task _ (congrArg some htask) hstored hcurrent
  | committed _ _ fence request successors result notices commitIdentity identity htask =>
    exact hkept.closing _ task _ (congrArg some htask) hstored hcurrent
  | externallySettled _ _ _ commitId refs commitIdentity identity hcommand =>
    refine hkept.closing task.taskId task _ ?_ hstored hcurrent
    rcases hcommand with ⟨fence, receipt, successors, rfl, htask⟩ | ⟨_, _, _, rfl⟩
    · exact congrArg some htask
    · rfl

theorem FrontierSettled.of_attempts {db db' : Db} (h : FrontierSettled db)
    (heffects : db'.effects = db.effects) (hended : ∀ a, db'.Ended a → db.Ended a) :
    FrontierSettled db' := by
  refine ⟨?_, ?_⟩
  · intro k erow herow hend
    rw [heffects] at herow
    exact h.resolved k erow herow (hended _ hend)
  · intro k erow herow
    rw [heffects] at herow
    exact h.agrees k erow herow

/-- Writing an effect that is resolved, or whose attempt goes on, keeps the frontier settled. -/
theorem FrontierSettled.putEffect {db : Db} (h : FrontierSettled db) {k : StableId}
    {erow : EffectRow} (hagrees : erow.status = erow.effectJson.status)
    (hresolved : db.Ended erow.attemptId → erow.status.isUnresolved = false) :
    FrontierSettled (db.putEffect k erow) :=
  ⟨Table.forall_lookup_insert h.resolved hresolved, Table.forall_lookup_insert h.agrees hagrees⟩

/-- Every move of such a call keeps the frontier settled. -/
theorem Move.frontier {env : Env} {command : Command} {db₀ db db' : Db}
    (h : Move env command db₀ db db') (hkept : FrontierKept db₀ command)
    (hown : Owning db.tasks db.attempts) (hdb : FrontierSettled db) : FrontierSettled db' := by
  cases h with
  | opened row attempt fenceDigest identity events workerId observed hrow hstart hcommand hready hidle
      hbudget habsent htask hopen hrecords =>
    refine hdb.of_attempts rfl ?_
    rintro a ⟨arow, harow, hended⟩
    change (db.attempts.insert _ _).lookup a = some arow at harow
    rw [Table.lookup_insert_if] at harow
    split at harow
    · rw [← Option.some.inj harow] at hended
      exact absurd hopen hended
    · exact ⟨arow, harow, hended⟩
  | touched row arow attempt entries events hunsigned hrow hcurrent harow hid htask hsame hentries
      hrecords =>
    refine hdb.of_attempts rfl ?_
    rintro a ⟨other, hother, hended⟩
    change (db.attempts.insert _ _).lookup a = some other at hother
    rw [Table.lookup_insert_if] at hother
    split at hother
    · rename_i ha
      rw [← Option.some.inj hother] at hended
      change attempt.endedAt ≠ none at hended
      rw [hsame] at hended
      exact ⟨arow, by rw [ha, harow], hended⟩
    · exact ⟨other, hother, hended⟩
  | closed row task arow attempt entries events hrow hstart hcurrent harow hcloses heffects hfrontier
      hrecords =>
    refine ⟨?_, hdb.agrees⟩
    rintro k erow herow ⟨other, hother, hended⟩
    change db.effects.lookup k = some erow at herow
    change (db.attempts.insert _ _).lookup erow.attemptId = some other at hother
    rw [Table.lookup_insert_if] at hother
    split at hother
    · rename_i ha
      rw [heffects] at herow
      exact hcloses.resolved hstart hcurrent hfrontier hkept k erow herow ha
    · exact hdb.resolved k erow herow ⟨other, hother, hended⟩
  | requested row erow receipt identity events hunsigned hrow hcurrent hagrees habsent hrecords =>
    refine (hdb.putEffect hagrees ?_).of_attempts rfl fun a ha => ha
    exact fun hended => absurd hended (hown.not_ended hrow hcurrent)
  | resolved row erow receipt identity refs events hfirst hrow herow hstatus howner hrecords =>
    subst hfirst
    have hresolve : (erow.resolve receipt).status = (erow.resolve receipt).effectJson.status := rfl
    refine (hdb.putEffect hresolve ?_).of_attempts rfl fun a ha => ha
    intro hended
    change receipt.status.isUnresolved = false
    rcases howner with ⟨observed, hcommand⟩ | ⟨_, hcurrent | hcompleted⟩
    · by_contra hunresolved
      exact hkept.reconciling _ _ _ _ hcommand (by simpa using hunresolved) erow herow hended
    · exact absurd hended (hown.not_ended hrow hcurrent)
    · rw [hcompleted]
      rfl
  | _ => exact hdb.of_attempts rfl fun a ha => ha

/-- A request to an external system by the sample attempt. -/
def Sample.receipt : EffectReceipt where
  effectIdentity := ⟨"e", .refl true⟩
  externalSystem := "provider"
  requestIdentity := ⟨"e.request", .refl true⟩
  status := .requested
  attemptNo := 1
  providerRequestId := none
  resultArtifactRef := none
  completedAt := none

/-- A commit task that asks an external system for something and commits
    without waiting for the answer. -/
def Sample.committedEarly : List Call :=
  Sample.laneHeld ++
    [⟨Sample.env 4 0, .recordEffectRequested (Sample.fence 1 1) Sample.receipt⟩,
      ⟨Sample.env 5 0, .commitAcceptedCandidate (Sample.fence 1 1) Sample.failedRequest []⟩]

/-- A commit ends an attempt whose effect is still `REQUESTED`. -/
theorem effect_frontier_open :
    ¬ ∀ (service : Service) (canon : Canon) (calls : List Call), Disciplined calls →
      ∀ k erow arow, (runCalls service (Db.fresh canon) calls).effects.lookup k = some erow →
        (runCalls service (Db.fresh canon) calls).attempts.lookup erow.attemptId = some arow →
        arow.attemptJson.endedAt ≠ none →
        erow.effectJson.status ≠ .requested ∧ erow.effectJson.status ≠ .uncertain := by
  intro h
  have hopen : ((Sample.after Sample.committedEarly).effects.lookup ⟨"e", by decide⟩).any
      (fun erow => erow.effectJson.status = .requested ∧
        ((Sample.after Sample.committedEarly).attempts.lookup erow.attemptId).any
          (fun arow => arow.attemptJson.endedAt ≠ none) = true) = true := by decide +kernel
  simp only [Option.any_eq_true, decide_eq_true_eq] at hopen
  rcases hopen with ⟨erow, herow, hrequested, arow, harow, hended⟩
  exact (h Sample.service Sample.canon Sample.committedEarly (by decide) _ erow arow herow harow
    hended).1 hrequested

/-- In every run of disciplined calls that keep to the condition, no attempt that has ended owns an
    effect whose receipt is `REQUESTED` or `UNCERTAIN`, in any store the run reaches. -/
theorem effect_frontier (service : Service) (canon : Canon) (calls : List Call)
    (hguard : Guarded (step service)
      (fun db call => call.command.unclaimed = true ∧ FrontierKept db call.command)
      (Db.fresh canon) calls) :
    ∀ reached, reached <+: calls →
      ∀ k erow arow, (runCalls service (Db.fresh canon) reached).effects.lookup k = some erow →
        (runCalls service (Db.fresh canon) reached).attempts.lookup erow.attemptId = some arow →
        arow.attemptJson.endedAt ≠ none →
        erow.effectJson.status ≠ .requested ∧ erow.effectJson.status ≠ .uncertain := by
  rintro reached ⟨rest, rfl⟩ k erow arow herow harow hended
  have hprefix := ((guarded_append _ _ _ _ _).mp hguard).1
  have hinv := (runCalls_guarded service
    (fun db call => call.command.unclaimed = true ∧ FrontierKept db call.command)
    (fun db => Owning db.tasks db.attempts ∧ FrontierSettled db)
    (fun _ _ _ _ _ _ hdb₀ hcall hmove hdb =>
      ⟨hmove.owning hdb₀.1 hcall.1 hdb.1, hmove.frontier hcall.2 hdb.1 hdb.2⟩)
    (Db.fresh canon) reached (coherent_fresh canon)
    ⟨owning_fresh canon, by constructor <;> intro _ _ <;> simp [Db.fresh]⟩ hprefix).2.2
  have hresolved := hinv.resolved k erow herow ⟨arow, harow, hended⟩
  rw [hinv.agrees k erow herow] at hresolved
  constructor
  · intro hrequested
    rw [hrequested] at hresolved
    exact absurd hresolved (by decide)
  · intro huncertain
    rw [huncertain] at hresolved
    exact absurd hresolved (by decide)

/-- The same commit after the answer has come. -/
def Sample.awaited : List Call :=
  Sample.laneHeld ++
    [⟨Sample.env 4 0, .recordEffectRequested (Sample.fence 1 1) Sample.receipt⟩,
      ⟨Sample.env 5 0, .recordEffectTerminal (Sample.fence 1 1)
        { Sample.receipt with status := .completed }⟩]

def Sample.committedLate : List Call :=
  Sample.awaited ++
    [⟨Sample.env 6 0, .commitAcceptedCandidate (Sample.fence 1 1) Sample.failedRequest []⟩]

theorem Sample.committedLate_run :
    (Sample.after Sample.awaited).effects.entries.all
      (fun entry => !entry.2.status.isUnresolved) = true ∧
    ((Sample.after Sample.committedLate).effects.lookup ⟨"e", .refl true⟩).any
      (fun erow => erow.effectJson.status = .completed ∧
        ((Sample.after Sample.committedLate).attempts.lookup erow.attemptId).any
          (fun arow => arow.attemptJson.endedAt ≠ none) = true) = true := by decide +kernel

/-- A commit whose attempt was answered first keeps to the condition. The
    attempt ends, and what it owns is completed. -/
theorem effect_frontier_answered :
    Disciplined Sample.committedLate ∧
    ∃ k erow arow, (Sample.after Sample.committedLate).effects.lookup k = some erow ∧
      (Sample.after Sample.committedLate).attempts.lookup erow.attemptId = some arow ∧
      arow.attemptJson.endedAt ≠ none ∧ erow.effectJson.status = .completed ∧
      erow.effectJson.status ≠ .requested ∧ erow.effectJson.status ≠ .uncertain := by
  rcases Sample.committedLate_run with ⟨hresolved, hended⟩
  simp only [Option.any_eq_true, decide_eq_true_eq] at hended
  rcases hended with ⟨erow, herow, hcompleted, arow, harow, hended⟩
  -- Only the commit at the end finds an attempt that it may not end.
  have hquiet : ∀ db command, Command.closesUnchecked? command = none →
      (∀ taskId receipt commandId observed,
        command ≠ .reconcileEffect taskId receipt commandId observed) → FrontierKept db command :=
    fun _ _ hcloses hreconciles =>
      ⟨fun _ _ _ hsome => absurd (hcloses.symm.trans hsome) (by simp),
        fun _ _ _ _ hcommand => absurd hcommand (hreconciles _ _ _ _)⟩
  have hkept : FrontierKept (Sample.after Sample.awaited)
      (.commitAcceptedCandidate (Sample.fence 1 1) Sample.failedRequest []) := by
    refine ⟨fun _ _ _ _ _ _ k row hrow _ => ?_, fun _ _ _ _ hcommand => by cases hcommand⟩
    rw [List.all_eq_true] at hresolved
    simpa using hresolved ⟨k, row⟩ (AList.mem_lookup_iff.mp hrow)
  have hguard : Guarded (step Sample.service)
      (fun db call => call.command.unclaimed = true ∧ FrontierKept db call.command)
      (Db.fresh Sample.canon) Sample.committedLate := by
    refine (guarded_append _ _ _ _ _).mpr ⟨?_, ⟨rfl, hkept⟩, trivial⟩
    exact ⟨⟨rfl, hquiet _ _ rfl (by simp)⟩, ⟨rfl, hquiet _ _ rfl (by simp)⟩,
      ⟨rfl, hquiet _ _ rfl (by simp)⟩, ⟨rfl, hquiet _ _ rfl (by simp)⟩,
      ⟨rfl, hquiet _ _ rfl (by simp)⟩, trivial⟩
  exact ⟨by decide, _, erow, arow, herow, harow, hended, hcompleted,
    effect_frontier Sample.service Sample.canon Sample.committedLate hguard _ (List.prefix_refl _) _
      erow arow herow harow hended⟩

end NovelAgent.Runtime
