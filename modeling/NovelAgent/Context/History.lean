import NovelAgent.Context.Runtime

/-!
# Histories of a Context

What the projector and the commands of the system can do, said once.
-/

namespace NovelAgent.Context

open Core Domain Session

variable {payload : Payload} {event : RunEvent} {error : ContextError}

section Projection

variable {countTokens : String → Int}

/-- A view has nothing to refuse a payload with: a delta was made for this
    revision and basis and adds no item that is active; a compaction was made
    for this view and says what becomes of it. -/
def Accepts (view : AgentContextView) : Payload → Prop
  | .deltaApplied delta =>
    delta.parentViewRevision = view.revision ∧
    (delta.baseCommit = view.baseCommit ∧ delta.snapshotId = view.snapshotId ∧
      delta.profileRef = view.profileRef ∧ delta.planRef = view.planRef) ∧
    ∀ item ∈ delta.addedMemoryItems,
      item.itemId ∉ ids (dropIds delta.supersededItemIds view.activeMemoryItems)
  | .compacted receipt =>
    (receipt.runId = view.runId ∧ receipt.parentViewRevision = view.revision ∧
      receipt.parentGeneration = view.generation ∧
      receipt.basisEventPosition = view.basisEventPosition ∧
      receipt.inputContextHash = view.contextHash) ∧
    receipt.outputContextHash =
      (withCompaction view receipt.toContextCompactionFields).viewHash
  | _ => True

/-- What an accepted payload makes of a view. -/
def applied (countTokens : String → Int) (view : AgentContextView) : Payload → AgentContextView
  | .deltaApplied delta => refreshTokens countTokens (withDelta view delta).withHash
  | .workPlanSettled _ workingItem => withWorkPlan view workingItem
  | .compacted receipt => refreshTokens countTokens
      (withCompaction view receipt.toContextCompactionFields).withHash
  | _ => view

variable {view view' : AgentContextView}

theorem applyDelta_ok {delta : ContextDelta} :
    applyDelta countTokens view delta = .ok view' ↔
      Accepts view (.deltaApplied delta) ∧ view' = applied countTokens view (.deltaApplied delta) := by
  unfold applyDelta
  split
  · rename_i hstale
    simp [Accepts, hstale]
  · rename_i hrevision
    split
    · rename_i hbasis
      simp only [reduceCtorEq, Accepts, false_iff]
      tauto
    · rename_i hbasis
      simp only [not_or, not_not] at hbasis hrevision
      split
      · rename_i hcollides
        simp only [reduceCtorEq, Accepts, false_iff]
        rintro ⟨⟨_, _, hapart⟩, _⟩
        rcases hcollides with ⟨item, hitem, hactive⟩
        exact hapart item hitem hactive
      · rename_i happart
        simp only [not_exists, not_and] at happart
        simp only [Except.ok.injEq, Accepts, applied]
        constructor
        · rintro rfl
          exact ⟨⟨hrevision, hbasis, happart⟩, rfl⟩
        · rintro ⟨_, rfl⟩
          rfl

theorem applyCompaction_ok {receipt : ContextCompactionReceipt} :
    applyCompaction countTokens view receipt = .ok view' ↔
      Accepts view (.compacted receipt) ∧ view' = applied countTokens view (.compacted receipt) := by
  unfold applyCompaction
  split
  · rename_i hbasis
    simp only [reduceCtorEq, Accepts, false_iff]
    tauto
  · rename_i hbasis
    simp only [not_or, not_not] at hbasis
    dsimp only
    split
    · rename_i hhash
      simp only [reduceCtorEq, Accepts, false_iff]
      rintro ⟨⟨_, houtput⟩, _⟩
      exact hhash houtput.symm
    · rename_i hhash
      rw [not_not] at hhash
      simp only [Except.ok.injEq, Accepts, applied]
      constructor
      · rintro rfl
        exact ⟨⟨hbasis, hhash.symm⟩, rfl⟩
      · rintro ⟨_, rfl⟩
        rfl

/-- A payload is applied exactly when it is accepted. -/
theorem applyPayload_ok :
    applyPayload countTokens view payload = .ok view' ↔
      Accepts view payload ∧ view' = applied countTokens view payload := by
  cases payload with
  | deltaApplied delta => exact applyDelta_ok
  | compacted receipt => exact applyCompaction_ok
  | _ => simp [applyPayload, Accepts, applied, eq_comm]

/-- An event is of another task than a view. -/
def Foreign (view : AgentContextView) (taskId : Option TaskId) : Prop :=
  ∃ task ∈ taskId, task ≠ view.taskId

/-- Everything a projection step can do. -/
theorem applyEvent_ok :
    applyEvent countTokens view event = .ok view' ↔
      event.runId = view.runId ∧ event.sequenceNo = view.basisEventPosition + 1 ∧
      (Foreign view event.taskId ∧ view' = atPosition countTokens view event.sequenceNo ∨
        ¬ Foreign view event.taskId ∧ Accepts view event.content.payload ∧
          view' = atPosition countTokens (applied countTokens view event.content.payload)
            event.sequenceNo) := by
  unfold applyEvent
  split
  · rename_i hrun
    simp [hrun]
  · rename_i hrun
    rw [not_not] at hrun
    split
    · rename_i hnext
      simp [hnext]
    · rename_i hnext
      rw [not_not] at hnext
      split
      · rename_i hother
        have hforeign : Foreign view event.taskId := hother
        simp [hrun, hnext, hforeign, eq_comm]
      · rename_i hown
        simp only [Outcome.bind_eq_ok, Outcome.pure_eq_ok, applyPayload_ok, hrun, hnext, Foreign,
          hown, true_and, false_and, false_or, not_false_eq_true]
        constructor
        · rintro ⟨_, ⟨haccepts, rfl⟩, rfl⟩
          exact ⟨haccepts, rfl⟩
        · rintro ⟨haccepts, rfl⟩
          exact ⟨_, ⟨haccepts, rfl⟩, rfl⟩

theorem applyEvent_error {view : AgentContextView}
    (h : applyEvent countTokens view event = .error error) :
    ∃ message, error = .projection message := by
  unfold applyEvent at h
  split at h
  · exact ⟨_, (Except.error.inj h).symm⟩
  · split at h
    · exact ⟨_, (Except.error.inj h).symm⟩
    · split at h
      · exact absurd h (by simp)
      · rw [Outcome.bind_eq_error] at h
        rcases h with h | ⟨_, _, h⟩
        · cases hpayload : event.content.payload with
          | deltaApplied delta =>
            rw [hpayload, applyPayload, applyDelta] at h
            split at h
            · exact ⟨_, (Except.error.inj h).symm⟩
            · split at h
              · exact ⟨_, (Except.error.inj h).symm⟩
              · split at h
                · exact ⟨_, (Except.error.inj h).symm⟩
                · exact absurd h (by simp)
          | compacted receipt =>
            rw [hpayload, applyPayload, applyCompaction] at h
            split at h
            · exact ⟨_, (Except.error.inj h).symm⟩
            · dsimp only at h
              split at h
              · exact ⟨_, (Except.error.inj h).symm⟩
              · exact absurd h (by simp)
          | _ =>
            rw [hpayload] at h
            exact absurd h (by simp [applyPayload])
        · exact absurd h (by simp [pure, Except.pure])

variable (countTokens) in
theorem applied_stream (view : AgentContextView) (payload : Payload) :
    (applied countTokens view payload).runId = view.runId ∧
    (applied countTokens view payload).taskId = view.taskId ∧
    (applied countTokens view payload).consumer = view.consumer := by
  cases payload <;> exact ⟨rfl, rfl, rfl⟩

theorem applyEvent_stream (h : applyEvent countTokens view event = .ok view') :
    view'.runId = view.runId ∧ view'.taskId = view.taskId ∧ view'.consumer = view.consumer ∧
    view'.basisEventPosition = view.basisEventPosition + 1 := by
  rcases applyEvent_ok.mp h with ⟨_, hnext, ⟨_, rfl⟩ | ⟨_, _, rfl⟩⟩
  · exact ⟨rfl, rfl, rfl, hnext⟩
  · rcases applied_stream countTokens view event.content.payload with
      ⟨hrun, htask, hconsumer⟩
    exact ⟨hrun, htask, hconsumer, hnext⟩

@[simp] theorem fullReplay_nil (view : AgentContextView) : fullReplay countTokens view [] = .ok view :=
  rfl

theorem fullReplay_cons (view : AgentContextView) (event : RunEvent) (events : List RunEvent) :
    fullReplay countTokens view (event :: events) =
      applyEvent countTokens view event >>= fun next => fullReplay countTokens next events :=
  List.foldlM_cons

/-- Where the projection of a stream ends. -/
theorem fullReplay_stream {events : List RunEvent}
    (h : fullReplay countTokens view events = .ok view') :
    view'.runId = view.runId ∧ view'.taskId = view.taskId ∧ view'.consumer = view.consumer ∧
    view'.basisEventPosition = view.basisEventPosition + events.length := by
  induction events generalizing view with
  | nil =>
    rw [← Except.ok.inj h]
    exact ⟨rfl, rfl, rfl, rfl⟩
  | cons event events ih =>
    rw [fullReplay_cons, Outcome.bind_eq_ok] at h
    rcases h with ⟨next, hnext, hrest⟩
    rcases applyEvent_stream hnext with ⟨hrun, htask, hconsumer, hposition⟩
    rcases ih hrest with ⟨hrun', htask', hconsumer', hposition'⟩
    refine ⟨hrun'.trans hrun, htask'.trans htask, hconsumer'.trans hconsumer, ?_⟩
    rw [hposition', hposition, List.length_cons]
    omega

end Projection

variable {α : Type}

theorem onLog_cases (command : Events.LogTx Content α) (state : RuntimeState) :
    (∃ error, onLog command state = (.error error, state)) ∨
    ∃ a log, command state.log = .ok (a, log) ∧
      onLog command state = (.ok a, { state with log := log }) := by
  unfold onLog
  cases h : command state.log with
  | error error => exact .inl ⟨_, rfl⟩
  | ok result => exact .inr ⟨result.1, result.2, rfl, rfl⟩

theorem onArtifacts_cases (command : Transaction Artifacts ContextError α) (state : RuntimeState) :
    (∃ error, onArtifacts command state = (.error error, state)) ∨
    ∃ a artifacts, command state.artifacts = .ok (a, artifacts) ∧
      onArtifacts command state = (.ok a, { state with artifacts := artifacts }) := by
  unfold onArtifacts
  cases h : command state.artifacts with
  | error error => exact .inl ⟨_, rfl⟩
  | ok result => exact .inr ⟨result.1, result.2, rfl, rfl⟩

section Log

variable {runtime : AgentContextRuntime}

variable {log : Events.Store Content}

theorem replay_zero (hs : log.Sound) (runId : RunId) :
    Events.replay log runId 0 = log.stream runId := by
  rw [hs.replay_eq, List.filter_eq_self]
  intro event hevent
  have hnumber := List.mem_map_of_mem (f := Events.Event.sequenceNo) hevent
  rw [hs.numbered, List.mem_range'_1] at hnumber
  simp only [decide_eq_true_eq]
  omega

/-- Nothing in a run carries an identity exactly when the log finds nothing under it. -/
theorem find_identity (runId : RunId) (identity : StableId) :
    ((log.stream runId).find? fun event => event.idempotencyIdentity = identity) =
      log.eventWithIdentity runId identity := by
  rw [Events.Store.stream, List.find?_filter, Events.Store.eventWithIdentity]
  congr 1
  funext event
  simp

theorem last_number (hs : log.Sound) (runId : RunId) :
    ((log.stream runId).getLast?.map fun event => event.sequenceNo).getD 0 = log.head runId := by
  rw [← List.getLast?_map, hs.numbered]
  cases h : log.head runId with
  | zero => rfl
  | succ n =>
    rw [List.range'_concat]
    simp [Nat.add_comm]

/-- A request is stored as an event: its identity is new, the view catches up,
    and nothing about the event is refused. -/
structure Stores (runtime : AgentContextRuntime) (state : RuntimeState) (view : AgentContextView)
    (request : Request) (now : Time) (caughtUp : AgentContextView) (event : RunEvent) : Prop where
  identity : eventIdentity request.traceNamespace view request.label =
    .ok event.idempotencyIdentity
  fresh : state.log.eventWithIdentity view.runId event.idempotencyIdentity = none
  catchUp : fullReplay runtime.countTokens view ((state.log.stream view.runId).filter
    fun event => view.basisEventPosition < event.sequenceNo) = .ok caughtUp
  eventId : Compactor.identity ("event-id." ++ request.traceNamespace ++ "." ++
    labelSuffix caughtUp request.label) = .ok event.eventId
  payload : runtime.validateActivePayload request.payload = none
  unused : ∀ stored ∈ state.log.events, stored.eventId ≠ event.eventId
  event_eq : event = runtime.requestEvent caughtUp request event.idempotencyIdentity event.eventId
    (state.log.nextSequence view.runId) now none

theorem append_new {store : Events.Store Content}
    (hfresh : store.eventWithIdentity event.runId event.idempotencyIdentity = none)
    (hunused : ∀ stored ∈ store.events, stored.eventId ≠ event.eventId)
    (hnext : event.sequenceNo = store.nextSequence event.runId) :
    Events.append event store = .ok (event, store.push event) := by
  simp only [Events.append, Transaction.bind_ok, Transaction.get_ok]
  refine ⟨store, store, ⟨rfl, rfl⟩, ?_⟩
  simp only [hfresh, Transaction.bind_ok, Transaction.raiseWhen_ok, Transaction.modify_ok,
    Transaction.pure_ok]
  refine ⟨(), store, ⟨?_, rfl⟩, (), store, ⟨not_not.mpr hnext, rfl⟩, (), _, rfl, trivial,
    rfl⟩
  simpa using hunused

theorem bind_onLog {α β : Type} (command : Events.LogTx Content α)
    (f : α → Session RuntimeState ContextError β) (state : RuntimeState) :
    (onLog command >>= f) state =
      match command state.log with
      | .ok (a, log) => f a { state with log := log }
      | .error error => (.error (.log error), state) := by
  rw [bind_apply, onLog]
  cases command state.log <;> rfl

theorem checkPayload_ok {u : Unit} :
    runtime.checkPayload payload = .ok u ↔ runtime.validateActivePayload payload = none := by
  rw [AgentContextRuntime.checkPayload]
  cases runtime.validateActivePayload payload <;> simp

variable {state : RuntimeState} {request : Request} {identity : StableId}

/-- An append of the runtime that cannot catch its view up leaves the stores. -/
theorem appendAndApply_behind (hs : state.log.Sound) {view : AgentContextView}
    (hid : eventIdentity request.traceNamespace view request.label = .ok identity)
    (hreplay : fullReplay runtime.countTokens view ((state.log.stream view.runId).filter
      fun event => view.basisEventPosition < event.sequenceNo) = .error error) (now : Time) :
    runtime.appendAndApply view request now state = (.error error, state) := by
  rw [AgentContextRuntime.appendAndApply, bind_ofExcept_ok hid, bind_read]
  dsimp only
  rw [replay_zero hs, bind_ofExcept_error hreplay]

theorem appendAndApply_repeated (hs : state.log.Sound) {view : AgentContextView}
    {stored : RunEvent}
    (hid : eventIdentity request.traceNamespace view request.label = .ok identity)
    (hstored : state.log.eventWithIdentity view.runId identity = some stored) (now : Time) :
    (runtime.appendAndApply view request now state).2 = state := by
  cases hreplay : fullReplay runtime.countTokens view ((state.log.stream view.runId).filter
      fun event => view.basisEventPosition < event.sequenceNo) with
  | error error => rw [appendAndApply_behind hs hid hreplay]
  | ok caughtUp =>
    rw [AgentContextRuntime.appendAndApply, bind_ofExcept_ok hid, bind_read]
    dsimp only
    rw [replay_zero hs, bind_ofExcept_ok hreplay, find_identity, hstored]
    dsimp only
    cases hpayload : runtime.checkPayload request.payload with
    | error error => rw [bind_ofExcept_error rfl]
    | ok u =>
      rw [bind_ofExcept_ok rfl, bind_onLog]
      split
      · rename_i answer log happend
        -- The log answers with the stored event and stays as it is.
        have hrun : caughtUp.runId = view.runId := (fullReplay_stream hreplay).1
        rcases Events.append_cases happend with ⟨_, _, rfl⟩ | ⟨hnone, _⟩
        · rfl
        · have hfound : state.log.eventWithIdentity view.runId identity = none :=
            hrun ▸ hnone
          rw [hstored] at hfound
          exact absurd hfound (by simp)
      · rfl

/-- An append of the runtime whose view catches up and whose identity is new
    stores its event unless something about it is refused. -/
theorem appendAndApply_fresh (hs : state.log.Sound) {view caughtUp : AgentContextView}
    (hid : eventIdentity request.traceNamespace view request.label = .ok identity)
    (hfresh : state.log.eventWithIdentity view.runId identity = none)
    (hreplay : fullReplay runtime.countTokens view ((state.log.stream view.runId).filter
      fun event => view.basisEventPosition < event.sequenceNo) = .ok caughtUp) (now : Time) :
    ((runtime.appendAndApply view request now state).2 = state ∧
      ∀ caughtUp event, ¬ Stores runtime state view request now caughtUp event) ∨
    ∃ caughtUp event, Stores runtime state view request now caughtUp event ∧
      runtime.appendAndApply view request now state =
        (applyEvent runtime.countTokens caughtUp event,
          { state with log := state.log.push event }) := by
  have hrun : caughtUp.runId = view.runId := (fullReplay_stream hreplay).1
  have hunfold := congrFun (AgentContextRuntime.appendAndApply.eq_1 runtime view request now) state
  rw [bind_ofExcept_ok hid, bind_read] at hunfold
  dsimp only at hunfold
  rw [replay_zero hs, bind_ofExcept_ok hreplay, find_identity, hfresh,
    last_number hs] at hunfold
  dsimp only at hunfold
  cases heventId : Compactor.identity ("event-id." ++ request.traceNamespace ++ "." ++
      labelSuffix caughtUp request.label) with
  | error error =>
    rw [bind_ofExcept_error heventId] at hunfold
    refine .inl ⟨by rw [hunfold], ?_⟩
    intro caughtUp' event hstores
    rw [← Except.ok.inj (hreplay.symm.trans hstores.catchUp)] at hstores
    exact absurd (heventId.symm.trans hstores.eventId) (by simp)
  | ok eventId =>
    rw [bind_ofExcept_ok heventId] at hunfold
    cases hpayload : runtime.checkPayload request.payload with
    | error error =>
      rw [bind_ofExcept_error hpayload] at hunfold
      refine .inl ⟨by rw [hunfold], ?_⟩
      intro caughtUp' event hstores
      have hok := (checkPayload_ok (u := ())).mpr hstores.payload
      exact absurd (hpayload.symm.trans hok) (by simp)
    | ok u =>
      rw [bind_ofExcept_ok hpayload, bind_onLog] at hunfold
      have hevent : (runtime.requestEvent caughtUp request identity eventId
          (state.log.head view.runId + 1) now none).runId = view.runId := hrun
      cases happend : Events.append (runtime.requestEvent caughtUp request identity eventId
          (state.log.head view.runId + 1) now none) state.log with
      | error error =>
        rw [happend] at hunfold
        refine .inl ⟨by rw [hunfold], ?_⟩
        intro caughtUp' event hstores
        -- Nothing about the event is refused, so the log takes it.
        have hcaught := Except.ok.inj (hreplay.symm.trans hstores.catchUp)
        have hidentity := Except.ok.inj (hid.symm.trans hstores.identity)
        rw [← hcaught] at hstores
        have heventId' := Except.ok.inj (heventId.symm.trans hstores.eventId)
        have hok : Events.append (runtime.requestEvent caughtUp request identity
            eventId (state.log.head view.runId + 1) now none) state.log = _ :=
          append_new (by rw [hevent]; exact hfresh) (by
            intro stored hstored
            exact heventId' ▸ hstores.unused stored hstored)
          (by rw [hevent, Events.Store.nextSequence_eq]; rfl)
        exact absurd (happend.symm.trans hok) (by simp)
      | ok result =>
        rcases result with ⟨answer, log⟩
        rw [happend] at hunfold
        rcases Events.append_cases happend with ⟨hfound, _⟩ | ⟨_, hunused, _, rfl, rfl⟩
        · rw [hevent] at hfound
          exact absurd (hfresh.symm.trans hfound) (by simp)
        · refine .inr ⟨caughtUp, _, ⟨hid, hfresh, hreplay, heventId,
            checkPayload_ok.mp hpayload, hunused, ?_⟩, ?_⟩
          · rw [Events.Store.nextSequence_eq]
            rfl
          · rw [hunfold]
            exact ofExcept_apply _ _

variable (runtime) in
/-- Everything an append of the runtime can do: leave the stores as they are,
    or store the event of its request and project it. -/
theorem appendAndApply_cases (hs : state.log.Sound) (view : AgentContextView) (request : Request)
    (now : Time) :
    ((runtime.appendAndApply view request now state).2 = state ∧
      ∀ caughtUp event, ¬ Stores runtime state view request now caughtUp event) ∨
    ∃ caughtUp event, Stores runtime state view request now caughtUp event ∧
      runtime.appendAndApply view request now state =
        (applyEvent runtime.countTokens caughtUp event,
          { state with log := state.log.push event }) := by
  cases hid : eventIdentity request.traceNamespace view request.label with
  | error error =>
    refine .inl ⟨?_, ?_⟩
    · rw [AgentContextRuntime.appendAndApply, bind_ofExcept_error hid]
    · intro caughtUp event hstores
      exact absurd (hid.symm.trans hstores.identity) (by simp)
  | ok identity =>
    cases hfound : state.log.eventWithIdentity view.runId identity with
    | some stored =>
      refine .inl ⟨appendAndApply_repeated hs hid hfound now, ?_⟩
      intro caughtUp event hstores
      have hfresh := hstores.fresh
      rw [← Except.ok.inj (hid.symm.trans hstores.identity), hfound] at hfresh
      exact absurd hfresh (by simp)
    | none =>
      cases hreplay : fullReplay runtime.countTokens view ((state.log.stream view.runId).filter
          fun event => view.basisEventPosition < event.sequenceNo) with
      | error error =>
        refine .inl ⟨by rw [appendAndApply_behind hs hid hreplay], ?_⟩
        intro caughtUp event hstores
        exact absurd (hreplay.symm.trans hstores.catchUp) (by simp)
      | ok caughtUp =>
        exact appendAndApply_fresh hs hid hfound hreplay now

theorem save_log (hs : state.log.Sound) (checkpoint : RunCheckpoint) :
    (onLog (Events.saveCheckpoint checkpoint) state).2.log.Sound ∧
    (onLog (Events.saveCheckpoint checkpoint) state).2.log.events = state.log.events := by
  rcases onLog_cases (Events.saveCheckpoint checkpoint) state with
    ⟨error, hsame⟩ | ⟨answer, log, hok, honLog⟩
  · rw [hsame]
    exact ⟨hs, rfl⟩
  · rw [honLog]
    refine ⟨Events.saveCheckpoint_sound hs hok, ?_⟩
    rcases Events.saveCheckpoint_cases hok with rfl | ⟨_, rfl⟩
    · rfl
    · rfl

def viewCheckpoint (runtime : AgentContextRuntime) (view : AgentContextView)
    (checkpointId : StableId) : RunCheckpoint where
  checkpointId := checkpointId
  runId := view.runId
  eventPosition := view.basisEventPosition
  logicalStage := logicalStage view.taskId view.consumer
  stateArtifactRef := artifactRef (AgentContextView.codec.dump view) contextViewMediaType
    runtime.schemaVersion
  completedEffectIds := []
  resumabilityStatus := .resumable
  reason := none

variable (runtime) in
/-- Everything the runtime's save can do: leave the stores, or write the view
    and go on to save its checkpoint. -/
theorem checkpoint_cases (state : RuntimeState) (view : AgentContextView)
    (checkpointId : StableId) :
    (runtime.checkpoint view checkpointId state).2 = state ∨
    ∃ ref artifacts, put (AgentContextView.codec.dump view) contextViewMediaType
        runtime.schemaVersion state.artifacts = .ok (ref, artifacts) ∧
      (runtime.checkpoint view checkpointId state).2 =
        (onLog (Events.saveCheckpoint (viewCheckpoint runtime view checkpointId))
          { state with artifacts := artifacts }).2 := by
  rw [AgentContextRuntime.checkpoint]
  split
  · exact .inl rfl
  · rw [bind_apply]
    rcases onArtifacts_cases (put (AgentContextView.codec.dump view) contextViewMediaType
      runtime.schemaVersion) state with ⟨error, hsame⟩ | ⟨ref, artifacts, hput, honArtifacts⟩
    · rw [hsame]
      exact .inl rfl
    · rw [honArtifacts]
      refine .inr ⟨ref, artifacts, hput, ?_⟩
      rw [(put_cases hput).1]
      rfl

variable (runtime) in
theorem checkpoint_log (hs : state.log.Sound) (view : AgentContextView) (checkpointId : StableId) :
    (runtime.checkpoint view checkpointId state).2.log.Sound ∧
    (runtime.checkpoint view checkpointId state).2.log.events = state.log.events := by
  rcases checkpoint_cases runtime state view checkpointId with
    hsame | ⟨ref, artifacts, _, hsave⟩
  · rw [hsame]
    exact ⟨hs, rfl⟩
  · rw [hsave]
    have hs' : ({ state with artifacts := artifacts } : RuntimeState).log.Sound := hs
    exact save_log hs' _

/-- The event that a command would add. -/
def Command.Offers : Command → RunEvent → Prop
  | .appendAndApply view request _, event =>
    event.runId = view.runId ∧ event.taskId = some view.taskId ∧
      event.content.payload = request.payload
  | .append offered, event => event = offered
  | _, _ => False

def Command.Fresh (state : RuntimeState) : Command → Prop
  | .appendAndApply view request _ =>
    ∀ identity, eventIdentity request.traceNamespace view request.label = .ok identity →
      state.log.eventWithIdentity view.runId identity = none
  | .append event =>
    state.log.eventWithIdentity event.runId event.idempotencyIdentity = none
  | _ => False

/-- A command adds the event it offers, and does nothing else. -/
def Adds (runtime : AgentContextRuntime) (state : RuntimeState) (command : Command)
    (event : RunEvent) : Prop :=
  command.Offers event ∧ command.Fresh state ∧
  event.sequenceNo = state.log.nextSequence event.runId ∧
  step runtime state command = { state with log := state.log.push event }

variable (runtime) in
theorem appendAndApply_step (hs : state.log.Sound) (view : AgentContextView) (request : Request)
    (now : Time) :
    step runtime state (.appendAndApply view request now) = state ∨
    ∃ event, Adds runtime state (.appendAndApply view request now) event ∧
      (state.log.push event).Sound := by
  rcases appendAndApply_cases runtime hs view request now with
    ⟨hsame, _⟩ | ⟨caughtUp, event, hstores, happend⟩
  · exact .inl hsame
  · have hrun : event.runId = view.runId := by
      rw [hstores.event_eq]
      exact (fullReplay_stream hstores.catchUp).1
    have htask : event.taskId = some view.taskId := by
      rw [hstores.event_eq]
      exact congrArg some (fullReplay_stream hstores.catchUp).2.1
    have hpayload : event.content.payload = request.payload := by rw [hstores.event_eq]; rfl
    have hnext : event.sequenceNo = state.log.nextSequence event.runId := by
      rw [hrun, hstores.event_eq]
      rfl
    have hfresh : Command.Fresh state (.appendAndApply view request now) := by
      intro identity hid
      rw [Except.ok.inj (hid.symm.trans hstores.identity)]
      exact hstores.fresh
    refine .inr ⟨event, ⟨⟨hrun, htask, hpayload⟩, hfresh, hnext, ?_⟩,
      hs.push (by rw [hrun]; exact hstores.fresh) hstores.unused hnext⟩
    rw [step, happend]

variable (runtime) in
theorem append_step (hs : state.log.Sound) (offered : RunEvent) :
    step runtime state (.append offered) = state ∨
    ∃ event, Adds runtime state (.append offered) event ∧ (state.log.push event).Sound := by
  rcases onLog_cases (Events.append offered) state with
    ⟨error, hsame⟩ | ⟨answer, log, hok, honLog⟩
  · exact .inl (by rw [step, hsame])
  · rcases Events.append_cases hok with ⟨_, _, rfl⟩ | ⟨hfresh, hunused, hnext, _, hpush⟩
    · exact .inl (by rw [step, honLog])
    · refine .inr ⟨offered, ⟨rfl, hfresh, hnext, ?_⟩, hs.push hfresh hunused hnext⟩
      rw [step, honLog, hpush]

variable (runtime) in
/-- Everything a command can do to the events of the log: leave them as they
    are, or add the one it offers. -/
theorem step_events (hs : state.log.Sound) (command : Command) :
    (step runtime state command).log.Sound ∧
    ((step runtime state command).log.events = state.log.events ∨
      ∃ event, Adds runtime state command event) := by
  cases command with
  | appendAndApply view request now =>
    rcases appendAndApply_step runtime hs view request now with
      hsame | ⟨event, hadds, hsound⟩
    · rw [hsame]
      exact ⟨hs, .inl rfl⟩
    · exact ⟨by rw [hadds.2.2.2]; exact hsound, .inr ⟨event, hadds⟩⟩
  | append offered =>
    rcases append_step runtime hs offered with hsame | ⟨event, hadds, hsound⟩
    · rw [hsame]
      exact ⟨hs, .inl rfl⟩
    · exact ⟨by rw [hadds.2.2.2]; exact hsound, .inr ⟨event, hadds⟩⟩
  | checkpoint view checkpointId =>
    have hkept := checkpoint_log runtime hs view checkpointId
    exact ⟨hkept.1, .inl hkept.2⟩
  | save checkpoint =>
    have hkept := save_log hs checkpoint
    exact ⟨hkept.1, .inl hkept.2⟩
  | put document mediaType schemaVersion =>
    rw [step]
    rcases onArtifacts_cases (put document mediaType schemaVersion) state with
      ⟨error, hsame⟩ | ⟨ref, artifacts, _, honArtifacts⟩
    · rw [hsame]
      exact ⟨hs, .inl rfl⟩
    · rw [honArtifacts]
      exact ⟨hs, .inl rfl⟩

end Log

end NovelAgent.Context
