import NovelAgent.Runtime.Reachable

/-!
# Settled Effects

When an effect whose outcome is known keeps it.
-/

namespace NovelAgent.Runtime

open Core Domain Core.Transaction

/-- The effect was completed or compensated. -/
def EffectRow.Settled (row : EffectRow) : Prop :=
  row.effectJson.status = .completed ∨ row.effectJson.status = .compensated

instance (row : EffectRow) : Decidable row.Settled :=
  inferInstanceAs (Decidable (_ ∨ _))

namespace Command

def isEffect : Command → Bool
  | .recordEffectRequested .. => true
  | .recordEffectTerminal .. => true
  | .reconcileEffect .. => true
  | _ => false

/-- The outcome a command records, and its body. -/
def settlement? (env : Env) : Command → Option (EffectReceipt × Tx EffectReceipt)
  | .recordEffectTerminal fence receipt =>
    some (receipt, Runtime.recordEffectTerminal env fence receipt)
  | .reconcileEffect taskId receipt commandId observed =>
    some (receipt, Runtime.reconcileEffect env taskId receipt commandId observed)
  | _ => none

/-- The caller has authority over the effect it names, the receipt describes
    the request on file, and the event of the outcome can be appended. -/
def Admitted (env : Env) (db : Db) : Command → Prop
  | .recordEffectTerminal fence receipt =>
    receipt.status ≠ .requested ∧ ∃ owned row identity, FenceValid db fence true owned ∧
      db.effects.lookup receipt.effectIdentity = some row ∧
      row.attemptId = owned.attempt.attemptId ∧ sameRequest row.effectJson receipt ∧
      boundedStableId
        [receipt.effectIdentity.root ++ "." ++ receipt.status.value,
          owned.attempt.attemptId.root ++ ".effect-" ++ receipt.status.value] = some identity ∧
      Appendable env db owned.task.runId
        (.effectTerminal receipt owned.task.taskId owned.attempt.attemptId) identity
  | .reconcileEffect taskId receipt commandId observed =>
    receipt.status ≠ .requested ∧ ∃ task row,
      (∃ taskRow, db.tasks.lookup taskId = some taskRow ∧ taskRow.taskJson = task ∧
        task.wellFormed = true) ∧
      (∀ revision, observed = some revision → revision = task.taskRevision) ∧
      db.effects.lookup receipt.effectIdentity = some row ∧ row.taskId = taskId ∧
      sameRequest row.effectJson receipt ∧
      Appendable env db task.runId (.effectTerminal receipt task.taskId row.attemptId) commandId
  | _ => False

end Command

variable {k : StableId} {row : EffectRow}

section Settlements

variable {env : Env} {command : Command} {db db' : Db} {receipt result : EffectReceipt}
  {body : Tx EffectReceipt}

/-- A settlement that goes through returns its receipt and writes it into the row of the effect. -/
theorem settlement_ok (hdb : Coherent db) (h : command.settlement? env = some (receipt, body))
    (hok : body db = .ok (result, db')) :
    result = receipt ∧ ∃ row, db.effects.lookup receipt.effectIdentity = some row ∧
      db'.effects = db.effects.insert receipt.effectIdentity (row.resolve receipt) := by
  cases command with
  | recordEffectTerminal fence receipt =>
    rw [Command.settlement?, Option.some.injEq, Prod.mk.injEq] at h
    rcases h with ⟨rfl, rfl⟩
    simp only [recordEffectTerminal, bind_ok, raiseWhen_ok, requireFence_ok, get_ok,
      fromOption_ok, updateEffect_ok, boundedRuntimeIdentity_ok, pure_ok] at hok
    rcases hok with ⟨_, _, ⟨_, rfl⟩, _, _, ⟨_, rfl⟩, _, _, ⟨rfl, rfl⟩, row, _, ⟨hrow, rfl⟩, _, _,
      ⟨_, rfl⟩, _, _, ⟨_, rfl⟩, _, _, rfl, identity, _, ⟨_, rfl⟩, _, _, happend, rfl, rfl⟩
    rcases append_ok _ _ _ _ _ _
      (db.putEffect receipt.effectIdentity (row.resolve receipt)) _ _ hdb.numbered happend
      with ⟨event, _, rfl⟩
    exact ⟨rfl, row, hrow, rfl⟩
  | reconcileEffect taskId receipt commandId observed =>
    rw [Command.settlement?, Option.some.injEq, Prod.mk.injEq] at h
    rcases h with ⟨rfl, rfl⟩
    simp only [reconcileEffect, bind_ok, raiseWhen_ok, loadTask_ok, requireObservedRevision_ok,
      get_ok, fromOption_ok, updateEffect_ok, pure_ok] at hok
    rcases hok with ⟨_, _, ⟨_, rfl⟩, _, _, ⟨_, rfl⟩, _, _, ⟨_, rfl⟩, _, _, ⟨rfl, rfl⟩, row, _,
      ⟨hrow, rfl⟩, _, _, ⟨_, rfl⟩, _, _, ⟨_, rfl⟩, _, _, rfl, _, _, happend, rfl, rfl⟩
    rcases append_ok _ _ _ _ _ _
      (db.putEffect receipt.effectIdentity (row.resolve receipt)) _ _ hdb.numbered happend
      with ⟨event, _, rfl⟩
    exact ⟨rfl, row, hrow, rfl⟩
  | _ => exact absurd h (by simp [Command.settlement?])

/-- When a settlement does something. -/
theorem settlement_admitted (hdb : Coherent db)
    (h : command.settlement? env = some (receipt, body)) :
    command.Admitted env db ↔ ∃ result db', body db = .ok (result, db') := by
  cases command with
  | recordEffectTerminal fence receipt =>
    rw [Command.settlement?, Option.some.injEq, Prod.mk.injEq] at h
    rcases h with ⟨rfl, rfl⟩
    simp only [recordEffectTerminal, bind_ok, raiseWhen_ok, requireFence_ok, get_ok,
      fromOption_ok, updateEffect_ok, boundedRuntimeIdentity_ok, pure_ok, not_not]
    constructor
    · rintro ⟨hstatus, owned, row, identity, hfence, hrow, howner, hsame, hidentity, happend⟩
      rcases (append_isOk_iff env owned.task.runId owned.task.taskId _ identity
        receipt.resultArtifactRef.toList
        (db.putEffect receipt.effectIdentity (row.resolve receipt)) hdb.numbered).mpr happend
        with ⟨db', happend⟩
      exact ⟨receipt, db', (), db, ⟨hstatus, rfl⟩, owned, db, ⟨hfence, rfl⟩, db, db, ⟨rfl, rfl⟩,
        row, db, ⟨hrow, rfl⟩, (), db, ⟨howner, rfl⟩, (), db, ⟨hsame, rfl⟩, (), _, rfl, identity,
        _, ⟨hidentity, rfl⟩, (), db', happend, rfl, rfl⟩
    · rintro ⟨_, _, _, _, ⟨hstatus, rfl⟩, owned, _, ⟨hfence, rfl⟩, _, _, ⟨rfl, rfl⟩, row, _,
        ⟨hrow, rfl⟩, _, _, ⟨howner, rfl⟩, _, _, ⟨hsame, rfl⟩, _, _, rfl, identity, _,
        ⟨hidentity, rfl⟩, _, _, happend, rfl, rfl⟩
      exact ⟨hstatus, owned, row, identity, hfence, hrow, howner, hsame, hidentity,
        (append_isOk_iff env owned.task.runId owned.task.taskId _ identity
          receipt.resultArtifactRef.toList
          (db.putEffect receipt.effectIdentity (row.resolve receipt)) hdb.numbered).mp
          ⟨_, happend⟩⟩
  | reconcileEffect taskId receipt commandId observed =>
    rw [Command.settlement?, Option.some.injEq, Prod.mk.injEq] at h
    rcases h with ⟨rfl, rfl⟩
    simp only [reconcileEffect, bind_ok, raiseWhen_ok, loadTask_ok, requireObservedRevision_ok,
      get_ok, fromOption_ok, updateEffect_ok, pure_ok, not_not]
    constructor
    · rintro ⟨hstatus, task, row, htask, hrevision, hrow, howner, hsame, happend⟩
      rcases (append_isOk_iff env task.runId task.taskId _ commandId
        receipt.resultArtifactRef.toList
        (db.putEffect receipt.effectIdentity (row.resolve receipt)) hdb.numbered).mpr happend
        with ⟨db', happend⟩
      exact ⟨receipt, db', (), db, ⟨hstatus, rfl⟩, task, db, ⟨htask, rfl⟩, (), db,
        ⟨hrevision, rfl⟩, db, db, ⟨rfl, rfl⟩, row, db, ⟨hrow, rfl⟩, (), db, ⟨howner, rfl⟩, (), db,
        ⟨hsame, rfl⟩, (), _, rfl, (), db', happend, rfl, rfl⟩
    · rintro ⟨_, _, _, _, ⟨hstatus, rfl⟩, task, _, ⟨htask, rfl⟩, _, _, ⟨hrevision, rfl⟩, _, _,
        ⟨rfl, rfl⟩, row, _, ⟨hrow, rfl⟩, _, _, ⟨howner, rfl⟩, _, _, ⟨hsame, rfl⟩, _, _, rfl,
        _, _, happend, rfl, rfl⟩
      exact ⟨hstatus, task, row, htask, hrevision, hrow, howner, hsame,
        (append_isOk_iff env task.runId task.taskId _ commandId
          receipt.resultArtifactRef.toList
          (db.putEffect receipt.effectIdentity (row.resolve receipt)) hdb.numbered).mp
          ⟨_, happend⟩⟩
  | _ => exact absurd h (by simp [Command.settlement?])

theorem perform_settlement (service : Service)
    (h : command.settlement? env = some (receipt, body)) :
    perform service env command = discardResult body := by
  cases command with
  | recordEffectTerminal fence receipt =>
    rw [Command.settlement?, Option.some.injEq, Prod.mk.injEq] at h
    rw [← h.2]
    rfl
  | reconcileEffect taskId receipt commandId observed =>
    rw [Command.settlement?, Option.some.injEq, Prod.mk.injEq] at h
    rw [← h.2]
    rfl
  | _ => exact absurd h (by simp [Command.settlement?])

theorem recordEffectRequested_keeps {fence : AttemptFence} (hdb : Coherent db)
    (h : recordEffectRequested env fence receipt db = .ok (result, db'))
    (hrow : db.effects.lookup k = some row) : db'.effects.lookup k = some row := by
  simp only [recordEffectRequested, bind_ok, raiseWhen_ok, requireFence_ok, get_ok] at h
  rcases h with ⟨_, _, ⟨_, rfl⟩, owned, _, ⟨_, rfl⟩, _, _, ⟨_, rfl⟩, _, _, ⟨rfl, rfl⟩, h⟩
  cases hexisting : db.effects.lookup receipt.effectIdentity with
  | some existing =>
    simp only [hexisting, bind_ok, raiseWhen_ok, pure_ok] at h
    rcases h with ⟨_, _, ⟨_, rfl⟩, _, rfl⟩
    exact hrow
  | none =>
    simp only [hexisting, bind_ok, boundedRuntimeIdentity_ok, pure_ok] at h
    rcases h with ⟨_, inserted, hinsert, identity, _, ⟨_, rfl⟩, _, _, happend, _, rfl⟩
    rcases insertEffect_ok _ _ _ _ _ hinsert with ⟨_, rfl⟩
    rcases append_ok _ _ _ _ _ _ (db.putEffect _ _) _ _ hdb.numbered happend with ⟨event, _, rfl⟩
    change (db.effects.insert _ _).lookup k = some row
    rw [Table.lookup_insert_if, if_neg ?_]
    · exact hrow
    · intro hk
      rw [hk, hexisting] at hrow
      exact absurd hrow (by simp)

end Settlements

/-- The status column of every effect is the status of its receipt. -/
def EffectsAgree (db : Db) : Prop :=
  ∀ k row, db.effects.lookup k = some row → row.status = row.effectJson.status

theorem Move.effectsAgree {env : Env} {command : Command} {db₀ db db' : Db}
    (h : Move env command db₀ db db') (hdb : EffectsAgree db) : EffectsAgree db' := by
  cases h with
  | requested row erow receipt identity events hunsigned hrow hcurrent hagrees habsent hrecords =>
    exact Table.forall_lookup_insert hdb hagrees
  | resolved row erow receipt identity refs events hfirst hrow herow hstatus howner hrecords =>
    exact Table.forall_lookup_insert hdb rfl
  | _ => exact hdb

/-- The status column is the one of the receipt. -/
theorem step_effectsAgree (service : Service) (db : Db) (call : Call) (hdb : Coherent db)
    (h : EffectsAgree db) : EffectsAgree (step service db call) :=
  Moves.invariant EffectsAgree (fun _ _ hlast => hlast.effectsAgree)
    (step_moves service db call hdb) h

theorem EffectRow.resolve_self (h : row.status = row.effectJson.status) :
    row.resolve row.effectJson = row := by
  rw [EffectRow.resolve, ← h]

/-- A call leaves every settled effect as it is. Recording the outcome of one returns the receipt
    on file if it is that outcome, and is refused if it is another. -/
structure Final (service : Service) (db : Db) (call : Call) : Prop where
  kept : ∀ k row, db.effects.lookup k = some row → row.Settled →
    (step service db call).effects.lookup k = some row
  repeated : ∀ receipt body row, call.command.settlement? call.env = some (receipt, body) →
    db.effects.lookup receipt.effectIdentity = some row → row.Settled →
    receipt = row.effectJson → ∃ db', body db = .ok (row.effectJson, db')
  refused : ∀ receipt body row, call.command.settlement? call.env = some (receipt, body) →
    db.effects.lookup receipt.effectIdentity = some row → row.Settled →
    receipt ≠ row.effectJson → ∃ e, body db = .error e

/-- The guards of a call that names a settled effect admit the outcome on file and no other. -/
def Harmless (db : Db) (call : Call) : Prop :=
  ∀ receipt body row, call.command.settlement? call.env = some (receipt, body) →
    db.effects.lookup receipt.effectIdentity = some row → row.Settled →
    (call.command.Admitted call.env db ↔ receipt = row.effectJson)

section OneCall

variable {service : Service} {db : Db} {call : Call}

theorem Final.harmless (h : Final service db call) (hdb : Coherent db) : Harmless db call := by
  intro receipt body row hsettles hrow hsettled
  rw [settlement_admitted hdb hsettles]
  constructor
  · rintro ⟨result, db', hok⟩
    by_contra hother
    rcases h.refused receipt body row hsettles hrow hsettled hother with ⟨e, herror⟩
    rw [hok] at herror
    exact absurd herror (by simp)
  · intro hsame
    rcases h.repeated receipt body row hsettles hrow hsettled hsame with ⟨db', hok⟩
    exact ⟨_, db', hok⟩

theorem Harmless.kept (h : Harmless db call) (hdb : Coherent db) (hagree : EffectsAgree db)
    (heffect : call.command.isEffect = true) (hrow : db.effects.lookup k = some row)
    (hsettled : row.Settled) : (step service db call).effects.lookup k = some row := by
  rcases step_cases service db call with ⟨e, _, hstep⟩ | ⟨db', hperform, hstep⟩
  · rw [hstep]
    exact hrow
  rw [hstep]
  cases hsettles : call.command.settlement? call.env with
  | none =>
    -- The only effect command that settles nothing is the request.
    cases hcommand : call.command with
    | recordEffectRequested fence receipt =>
      rw [hcommand] at hperform
      rcases discardResult_ok _ _ _ _ hperform with ⟨result, hok⟩
      exact recordEffectRequested_keeps hdb hok hrow
    | recordEffectTerminal fence receipt => simp [hcommand, Command.settlement?] at hsettles
    | reconcileEffect taskId receipt commandId observed =>
      simp [hcommand, Command.settlement?] at hsettles
    | _ => simp [hcommand, Command.isEffect] at heffect
  | some settlement =>
    rcases settlement with ⟨receipt, body⟩
    rw [perform_settlement service hsettles] at hperform
    rcases discardResult_ok _ _ _ _ hperform with ⟨result, hok⟩
    rcases settlement_ok hdb hsettles hok with ⟨rfl, found, hfound, heffects⟩
    rw [heffects, Table.lookup_insert_if]
    by_cases hk : k = result.effectIdentity
    · rw [if_pos hk]
      rw [hk, hfound, Option.some.injEq] at hrow
      subst hrow
      have hsame := (h result body found hsettles hfound hsettled).mp
        ((settlement_admitted hdb hsettles).mpr ⟨_, _, hok⟩)
      rw [hsame, EffectRow.resolve_self (hagree _ _ hfound)]
    · rw [if_neg hk]
      exact hrow

/-- One call is final exactly when it is harmless. -/
theorem final_iff (hdb : Coherent db) (hagree : EffectsAgree db)
    (heffect : call.command.isEffect = true) : Final service db call ↔ Harmless db call := by
  refine ⟨fun h => h.harmless hdb, fun h => ?_⟩
  constructor
  · intro k row hrow hsettled
    exact h.kept hdb hagree heffect hrow hsettled
  · intro receipt body row hsettles hrow hsettled hsame
    rcases (settlement_admitted hdb hsettles).mp
      ((h receipt body row hsettles hrow hsettled).mpr hsame) with ⟨result, db', hok⟩
    have hresult := (settlement_ok hdb hsettles hok).1
    exact ⟨db', by rw [hok, hresult, hsame]⟩
  · intro receipt body row hsettles hrow hsettled hother
    cases hok : body db with
    | error e => exact ⟨e, rfl⟩
    | ok outcome =>
      have hadmitted := (settlement_admitted hdb hsettles).mpr ⟨outcome.1, outcome.2, hok⟩
      exact absurd ((h receipt body row hsettles hrow hsettled).mp hadmitted) hother

end OneCall

theorem guarded_final_iff (service : Service) (calls : List Call) :
    ∀ db, Coherent db → EffectsAgree db → (∀ call ∈ calls, call.command.isEffect = true) →
      (Guarded (step service) (Final service) db calls ↔
        Guarded (step service) Harmless db calls) := by
  induction calls with
  | nil => exact fun _ _ _ _ => Iff.rfl
  | cons call calls ih =>
    intro db hdb hagree heffects
    rw [List.forall_mem_cons] at heffects
    exact and_congr (final_iff hdb hagree heffects.1)
      (ih _ (step_coherent service db call hdb) (step_effectsAgree service db call hdb hagree)
        heffects.2)

theorem runCalls_effectsAgree (service : Service) (canon : Canon) (history : List Call) :
    EffectsAgree (runCalls service (Db.fresh canon) history) := by
  refine (run_invariant (step service) (fun db => Coherent db ∧ EffectsAgree db) ?_ _
    ⟨coherent_fresh canon, ?_⟩ history).2
  · rintro db call ⟨hdb, hagree⟩
    exact ⟨step_coherent service db call hdb, step_effectsAgree service db call hdb hagree⟩
  · intro k row hrow
    exact absurd hrow (by simp [Db.fresh])

/-- From any store the kernel reaches, a run of calls on effects treats every
    settled effect as final exactly when each of its calls is harmless where it
    is made, and then every settled effect is at the end what it was. -/
theorem effects_final (service : Service) (canon : Canon) (history calls : List Call)
    (heffects : ∀ call ∈ calls, call.command.isEffect = true) :
    (Guarded (step service) (Final service) (runCalls service (Db.fresh canon) history) calls ↔
      Guarded (step service) Harmless (runCalls service (Db.fresh canon) history) calls) ∧
    (Guarded (step service) Harmless (runCalls service (Db.fresh canon) history) calls →
      ∀ k row, (runCalls service (Db.fresh canon) history).effects.lookup k = some row →
        row.Settled →
        (runCalls service (runCalls service (Db.fresh canon) history) calls).effects.lookup k =
          some row) := by
  have hiff := guarded_final_iff service calls _ (runCalls_coherent service canon history)
    (runCalls_effectsAgree service canon history) heffects
  refine ⟨hiff, ?_⟩
  intro hharmless k row hrow hsettled
  exact run_guarded (step service) (Final service) (fun db => db.effects.lookup k = some row)
    (fun db call hkept hfinal => hfinal.kept k row hkept hsettled) calls _ (hiff.mpr hharmless) hrow

namespace Sample

def outcome (status : EffectStatus) : EffectReceipt where
  effectIdentity := ⟨"e", .refl true⟩
  externalSystem := "provider"
  requestIdentity := ⟨"e.request", .refl true⟩
  status := status
  attemptNo := 1
  providerRequestId := none
  resultArtifactRef := none
  completedAt := none

def effectCompleted : List Call :=
  claimed .planCandidate ++
    [⟨env 3 0, .recordEffectRequested (fence 1 0) (outcome .requested)⟩,
      ⟨env 4 0, .recordEffectTerminal (fence 1 0) (outcome .completed)⟩]

def resolved (status : EffectStatus) : Call :=
  ⟨env 5 0, .reconcileEffect taskId (outcome status) ⟨"c", .refl true⟩ none⟩

end Sample

/-- One evaluation, in which the run is shared. -/
theorem Sample.effectCompleted_run :
    ((Sample.after Sample.effectCompleted).effects.lookup ⟨"e", .refl true⟩).any
      (fun row => row.effectJson = Sample.outcome .completed) = true ∧
    (reconcileEffect (Sample.env 5 0) Sample.taskId (Sample.outcome .completed)
      ⟨"c", .refl true⟩ none (Sample.after Sample.effectCompleted)).toOption.isSome = true ∧
    ((runCalls Sample.service (Sample.after Sample.effectCompleted)
      [Sample.resolved .uncertain]).effects.lookup ⟨"e", .refl true⟩).any
      (fun row => row.effectJson.status = .uncertain) = true := by decide +kernel

/-- The resolver repeats the outcome on file, which stays. -/
theorem effects_final_repeated :
    Guarded (step Sample.service) Harmless (Sample.after Sample.effectCompleted)
      [Sample.resolved .completed] ∧
    ∃ row, (Sample.after Sample.effectCompleted).effects.lookup ⟨"e", .refl true⟩ = some row ∧
      row.effectJson = Sample.outcome .completed ∧
      (runCalls Sample.service (Sample.after Sample.effectCompleted)
        [Sample.resolved .completed]).effects.lookup ⟨"e", .refl true⟩ = some row := by
  rcases Sample.effectCompleted_run with ⟨hcompleted, hrepeats, _⟩
  simp only [Option.any_eq_true, decide_eq_true_eq] at hcompleted
  rcases hcompleted with ⟨row, hrow, houtcome⟩
  have hharmless : Guarded (step Sample.service) Harmless (Sample.after Sample.effectCompleted)
      [Sample.resolved .completed] := by
    refine ⟨?_, trivial⟩
    intro receipt body other hsettles hother _
    rw [Sample.resolved, Command.settlement?, Option.some.injEq, Prod.mk.injEq] at hsettles
    rcases hsettles with ⟨rfl, rfl⟩
    obtain rfl : row = other := Option.some.inj (hrow.symm.trans hother)
    refine iff_of_true ((settlement_admitted (runCalls_coherent Sample.service Sample.canon _)
      rfl).mpr ?_) houtcome.symm
    cases hok : reconcileEffect (Sample.env 5 0) Sample.taskId (Sample.outcome .completed)
        ⟨"c", .refl true⟩ none (Sample.after Sample.effectCompleted) with
    | ok result =>
      rw [Sample.after] at hok
      exact ⟨result.1, result.2, hok⟩
    | error e =>
      rw [hok] at hrepeats
      exact absurd hrepeats Bool.false_ne_true
  exact ⟨hharmless, row, hrow, houtcome,
    (effects_final Sample.service Sample.canon Sample.effectCompleted [Sample.resolved .completed]
      (by decide)).2 hharmless _ row hrow (.inl (by rw [houtcome]; rfl))⟩

/-- A completed effect becomes uncertain again. -/
theorem completed_effect_reopened :
    ¬ ∀ (service : Service) (canon : Canon) (history calls : List Call),
      (∀ call ∈ calls, call.command.isEffect = true) →
      ∀ k row, (runCalls service (Db.fresh canon) history).effects.lookup k = some row →
        row.Settled →
        ∃ after, (runCalls service (runCalls service (Db.fresh canon) history) calls).effects.lookup
          k = some after ∧ after.effectJson.status = row.effectJson.status := by
  intro h
  rcases Sample.effectCompleted_run with ⟨hcompleted, _, hreopened⟩
  simp only [Option.any_eq_true, decide_eq_true_eq] at hcompleted hreopened
  rcases hcompleted with ⟨row, hrow, houtcome⟩
  rcases hreopened with ⟨reopened, hlookup, huncertain⟩
  rcases h Sample.service Sample.canon Sample.effectCompleted [Sample.resolved .uncertain]
    (by decide) _ row hrow (.inl (by rw [houtcome]; rfl)) with ⟨after, hafter, hstatus⟩
  rw [Sample.after] at hlookup
  rw [hafter, Option.some.injEq] at hlookup
  rw [hlookup, huncertain, houtcome] at hstatus
  exact absurd hstatus (by decide)

end NovelAgent.Runtime
