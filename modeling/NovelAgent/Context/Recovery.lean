import NovelAgent.Context.Validity

/-!
# Recovering a View

A stream whose events fit can be restored from its checkpoints.
-/

namespace NovelAgent.Context

open Core Domain List

section Recovery

variable {runtime : AgentContextRuntime} {seed : AgentContextView}

/-- The view of a stream at a position. -/
def ViewAt (countTokens : String → Int) (seed : AgentContextView) (events : List RunEvent)
    (position : Nat) (view : AgentContextView) : Prop :=
  seed.basisEventPosition ≤ position ∧
  position - seed.basisEventPosition ≤ (events.drop seed.basisEventPosition).length ∧
  fullReplay countTokens seed ((events.drop seed.basisEventPosition).take
    (position - seed.basisEventPosition)) = .ok view

/-- A checkpoint of the seed's run. Its own stage holds views of the stream
    that the object store can read back, and the legacy stage is not used. -/
structure Saved (runtime : AgentContextRuntime) (seed : AgentContextView) (state : RuntimeState)
    (row : Runtime.CheckpointRow) : Prop where
  notLegacy : row.checkpointJson.logicalStage ≠ legacyStage
  own : row.checkpointJson.logicalStage = logicalStage seed.taskId seed.consumer →
    ∃ view, ViewAt runtime.countTokens seed (state.log.stream seed.runId) row.eventPosition view ∧
      row.checkpointJson.stateArtifactRef = artifactRef (AgentContextView.codec.dump view)
        contextViewMediaType runtime.schemaVersion ∧
      state.artifacts.lookup (contentId (AgentContextView.codec.dump view)) =
        some ⟨AgentContextView.codec.dump view, contextViewMediaType⟩

/-- The invariant of the stores: every view of the stream is valid, and every
    checkpoint of it is one of them. -/
structure Restorable (runtime : AgentContextRuntime) (seed : AgentContextView)
    (state : RuntimeState) : Prop where
  sound : state.log.Sound
  valid : ∀ position view,
    ViewAt runtime.countTokens seed (state.log.stream seed.runId) position view → view.Valid
  saved : ∀ checkpointId row, state.log.checkpoints.lookup checkpointId = some row →
    row.runId = seed.runId → Saved runtime seed state row

/-- A command keeps the stream restorable: an event that it adds fits the view
    of the stream, a view that it saves under the stream's stage is a view of
    the stream, and nobody else saves under that stage. The object store holds
    no other document under the address of the view that is saved. -/
def Sane (runtime : AgentContextRuntime) (seed : AgentContextView) (state : RuntimeState)
    (command : Command) : Prop :=
  (∀ event current, command.Offers event → command.Fresh state → event.runId = seed.runId →
    projection runtime seed state = .ok current → FitsEvent current event) ∧
  match command with
  | .checkpoint view _ =>
    view.runId = seed.runId →
      logicalStage view.taskId view.consumer = logicalStage seed.taskId seed.consumer →
      ViewAt runtime.countTokens seed (state.log.stream seed.runId) view.basisEventPosition view ∧
        Uncontested state.artifacts (AgentContextView.codec.dump view)
  | .save checkpoint =>
    checkpoint.runId = seed.runId → checkpoint.logicalStage ≠ legacyStage ∧
      checkpoint.logicalStage ≠ logicalStage seed.taskId seed.consumer
  | _ => True

variable {countTokens : String → Int} {position : Nat} {view : AgentContextView}

theorem ViewAt.append {events more : List RunEvent}
    (h : ViewAt countTokens seed events position view) :
    ViewAt countTokens seed (events ++ more) position view := by
  rcases h with ⟨hstart, hreached, hview⟩
  refine ⟨hstart, ?_, ?_⟩
  · rw [length_drop, length_append]
    rw [length_drop] at hreached
    omega
  · rw [drop_append, take_append_of_le_length hreached]
    exact hview

variable {event : RunEvent}

theorem viewAt_concat {events : List RunEvent}
    (h : ViewAt countTokens seed (events ++ [event]) position view) :
    ViewAt countTokens seed events position view ∨
    ∃ current, fullReplay countTokens seed (events.drop seed.basisEventPosition) = .ok current ∧
      applyEvent countTokens current event = .ok view ∧
      ViewAt countTokens seed events events.length current := by
  rcases h with ⟨hstart, hreached, hview⟩
  rw [drop_append] at hreached hview
  by_cases hold : position - seed.basisEventPosition ≤
      (events.drop seed.basisEventPosition).length
  · rw [take_append_of_le_length hold] at hview
    exact .inl ⟨hstart, hold, hview⟩
  · -- The position is the new event's, so the view has applied all of them.
    right
    have hlength : seed.basisEventPosition ≤ events.length := by
      simp only [length_append, length_drop, length_singleton] at hreached hold
      omega
    have hone : seed.basisEventPosition - events.length = 0 := by omega
    rw [hone, drop_zero] at hreached hview
    rw [take_of_length_le (by
      simp only [length_append, length_drop, length_singleton] at hreached hold ⊢
      omega), fullReplay_append] at hview
    cases hcurrent : fullReplay countTokens seed (events.drop seed.basisEventPosition) with
    | error error => simp [hcurrent, Except.bind] at hview
    | ok current =>
      simp only [hcurrent, Except.bind, fullReplay_cons, Outcome.bind_eq_ok, fullReplay_nil,
        Except.ok.injEq] at hview
      rcases hview with ⟨next, hnext, rfl⟩
      refine ⟨current, rfl, hnext, hlength, ?_, ?_⟩
      · rw [length_drop]
      · rw [take_of_length_le (by rw [length_drop])]
        exact hcurrent

/-- A checkpoint of the stream stays one while the stream and the object store grow. -/
theorem Saved.mono {state state' : RuntimeState} {row : Runtime.CheckpointRow}
    (h : Saved runtime seed state row)
    (hviews : ∀ position view,
      ViewAt runtime.countTokens seed (state.log.stream seed.runId) position view →
      ViewAt runtime.countTokens seed (state'.log.stream seed.runId) position view)
    (hobjects : ∀ address stored, state.artifacts.lookup address = some stored →
      state'.artifacts.lookup address = some stored) : Saved runtime seed state' row where
  notLegacy := h.notLegacy
  own hstage := by
    rcases h.own hstage with ⟨view, hview, href, hstored⟩
    exact ⟨view, hviews _ _ hview, href, hobjects _ _ hstored⟩

variable {state : RuntimeState}

theorem restorable_push (h : Restorable runtime seed state)
    (hsound : (state.log.push event).Sound)
    (hfits : event.runId = seed.runId → ∀ current, projection runtime seed state = .ok current →
      FitsEvent current event) :
    Restorable runtime seed { state with log := state.log.push event } := by
  have hstream := Events.Store.stream_push state.log event seed.runId
  refine ⟨hsound, ?_, ?_⟩
  · intro position view hview
    dsimp only at hview
    rw [hstream] at hview
    by_cases hrun : event.runId = seed.runId
    · rw [if_pos hrun] at hview
      rcases viewAt_concat hview with hold | ⟨current, hcurrent, happly, hlast⟩
      · exact h.valid position view hold
      · exact (applyEvent_valid_iff (h.valid _ current hlast) happly).mpr
          (hfits hrun current hcurrent)
    · rw [if_neg hrun, append_nil] at hview
      exact h.valid position view hview
  · intro checkpointId row hrow hrun
    refine (h.saved checkpointId row hrow hrun).mono ?_ fun _ _ hstored => hstored
    intro position view hview
    dsimp only
    rw [hstream]
    exact hview.append

theorem restorable_put (h : Restorable runtime seed state) {artifacts : Artifacts}
    (hobjects : ∀ address stored, state.artifacts.lookup address = some stored →
      artifacts.lookup address = some stored) :
    Restorable runtime seed { state with artifacts := artifacts } where
  sound := h.sound
  valid := h.valid
  saved checkpointId row hrow hrun :=
    (h.saved checkpointId row hrow hrun).mono (fun _ _ hview => hview) hobjects

/-- Saving a checkpoint keeps the stream restorable, if it is one of the
    stream's or of another stage. -/
theorem restorable_save (h : Restorable runtime seed state) (checkpoint : RunCheckpoint)
    (hsaved : checkpoint.runId = seed.runId → Saved runtime seed state
      { runId := checkpoint.runId
        eventPosition := checkpoint.eventPosition
        checkpointJson := checkpoint }) :
    Restorable runtime seed (onLog (Events.saveCheckpoint checkpoint) state).2 := by
  have hlog := save_log h.sound checkpoint
  rcases onLog_cases (Events.saveCheckpoint checkpoint) state with
    ⟨error, hsame⟩ | ⟨answer, log, hok, honLog⟩
  · rw [hsame]
    exact h
  · rw [honLog] at hlog ⊢
    have hstream : log.stream seed.runId = state.log.stream seed.runId := by
      rw [Events.Store.stream, hlog.2]
      rfl
    have hviews : ∀ position view,
        ViewAt runtime.countTokens seed (state.log.stream seed.runId) position view →
        ViewAt runtime.countTokens seed (log.stream seed.runId) position view := by
      intro position view hview
      rw [hstream]
      exact hview
    refine ⟨hlog.1, ?_, ?_⟩
    · intro position view hview
      dsimp only at hview
      rw [hstream] at hview
      exact h.valid position view hview
    · intro checkpointId row hrow hrun
      dsimp only at hrow
      rcases Events.saveCheckpoint_cases hok with rfl | ⟨_, rfl⟩
      · exact h.saved checkpointId row hrow hrun
      · dsimp only at hrow
        rw [Table.lookup_insert_if] at hrow
        split at hrow
        · obtain rfl := Option.some.inj hrow
          exact (hsaved hrun).mono hviews fun _ _ hstored => hstored
        · exact (h.saved checkpointId row hrow hrun).mono hviews fun _ _ hstored => hstored

theorem length_le_append (head middle tail last : String) :
    head.toList.length ≤ (head ++ middle ++ tail ++ last).toList.length := by
  simp only [String.toList_append, length_append]
  omega

theorem logicalStage_ne_legacy (taskId : TaskId) (consumer : ContextConsumer) :
    logicalStage taskId consumer ≠ legacyStage := by
  intro heq
  have hlong : "stage3.context:".toList.length ≤ (logicalStage taskId consumer).toList.length :=
    length_le_append "stage3.context:" consumer.value ":" taskId.root
  have hhead : "stage3.context:".toList.length = 15 := by decide
  have hlegacy : legacyStage.toList.length = 14 := by decide
  rw [hhead, heq, hlegacy] at hlong
  omega

/-- A sane command keeps the invariant. -/
theorem step_restorable (h : Restorable runtime seed state) {command : Command}
    (hsane : Sane runtime seed state command) :
    Restorable runtime seed (step runtime state command) := by
  have hadds : ∀ event, Adds runtime state command event → (state.log.push event).Sound →
      Restorable runtime seed (step runtime state command) := by
    intro event hadds hsound
    rw [hadds.2.2.2]
    exact restorable_push h hsound fun hrun current hcurrent =>
      hsane.1 event current hadds.1 hadds.2.1 hrun hcurrent
  cases command with
  | appendAndApply view request now =>
    rcases appendAndApply_step runtime h.sound view request now with
      hsame | ⟨event, hadded, hsound⟩
    · rw [hsame]
      exact h
    · exact hadds event hadded hsound
  | append offered =>
    rcases append_step runtime h.sound offered with hsame | ⟨event, hadded, hsound⟩
    · rw [hsame]
      exact h
    · exact hadds event hadded hsound
  | checkpoint view checkpointId =>
    rw [step]
    rcases checkpoint_cases runtime state view checkpointId with
      hsame | ⟨ref, artifacts, hput, hsave⟩
    · rw [hsame]
      exact h
    · rw [hsave]
      refine restorable_save (restorable_put h fun _ _ => put_keeps hput) _ ?_
      intro hrun
      refine ⟨logicalStage_ne_legacy _ _, ?_⟩
      intro hstage
      rcases hsane.2 hrun hstage with ⟨hview, hfree⟩
      exact ⟨view, hview, rfl, lookup_put hput hfree⟩
  | save checkpoint =>
    rw [step]
    refine restorable_save h checkpoint ?_
    intro hrun
    rcases hsane.2 hrun with ⟨hlegacy, hother⟩
    exact ⟨hlegacy, fun hstage => absurd hstage hother⟩
  | put document mediaType schemaVersion =>
    rw [step]
    rcases onArtifacts_cases (put document mediaType schemaVersion) state with
      ⟨error, hsame⟩ | ⟨ref, artifacts, hput, honArtifacts⟩
    · rw [hsame]
      exact h
    · rw [honArtifacts]
      exact restorable_put h fun _ _ => put_keeps hput

variable {log : Events.Store Content}

theorem row_of_latest {runId : RunId} {stage : String} {checkpoint : RunCheckpoint}
    (h : Events.latest log runId (some stage) = some checkpoint) :
    ∃ checkpointId row, log.checkpoints.lookup checkpointId = some row ∧ row.runId = runId ∧
      row.checkpointJson = checkpoint ∧ checkpoint.logicalStage = stage := by
  have hstage := List.find?_some h
  have hmem := mem_of_find?_eq_some h
  simp only [Events.Store.checkpointsOf, mem_map, mem_insertionSort, mem_filter,
    decide_eq_true_eq] at hmem
  rcases hmem with ⟨row, ⟨⟨⟨checkpointId, row'⟩, hentry, rfl⟩, hrun⟩, rfl⟩
  refine ⟨checkpointId, row', ?_, hrun, rfl, by simpa [Events.inStage] using hstage⟩
  exact AList.mem_lookup_iff.mpr hentry

theorem replay_after (hs : log.Sound) (runId : RunId) (b : Nat) :
    Events.replay log runId b = (log.stream runId).drop b := by
  rw [hs.replay_eq, ← hs.filter_stream]
  refine filter_congr fun event _ => ?_
  simp

/-- Restoring a stream projects it from its seed. -/
theorem restore_eq (h : Restorable runtime seed state) :
    restore runtime.countTokens state seed.runId seed = projection runtime seed state := by
  rw [restore, matchingCheckpoint]
  cases hlatest : Events.latest state.log seed.runId
      (some (logicalStage seed.taskId seed.consumer)) with
  | some checkpoint =>
    rcases row_of_latest hlatest with ⟨checkpointId, row, hrow, hrun, rfl, hstage⟩
    rcases (h.saved checkpointId row hrow hrun).own hstage with ⟨view, hview, href, hstored⟩
    have hread : checkpointView state row.checkpointJson = .ok view := by
      rw [checkpointView, href, readVerified_eq hstored]
      exact (AgentContextView.modelValidateJson_dump view).mpr (h.valid _ _ hview)
    rcases hview with ⟨hstart, hreached, hreplay⟩
    rcases fullReplay_stream hreplay with ⟨_, htask, hconsumer, _⟩
    have hposition : row.checkpointJson.eventPosition = row.eventPosition :=
      (h.sound.positions checkpointId row hrow).2.1
    -- The events after the checkpoint are the rest of the stream.
    have hrest : (state.log.stream seed.runId).drop row.eventPosition =
        ((state.log.stream seed.runId).drop seed.basisEventPosition).drop
          (row.eventPosition - seed.basisEventPosition) := by
      rw [drop_drop]
      congr 1
      omega
    have hsplit := fullReplay_append runtime.countTokens seed
      (((state.log.stream seed.runId).drop seed.basisEventPosition).take
        (row.eventPosition - seed.basisEventPosition))
      (((state.log.stream seed.runId).drop seed.basisEventPosition).drop
        (row.eventPosition - seed.basisEventPosition))
    rw [take_append_drop, hreplay] at hsplit
    rw [projection, hsplit, ← hrest]
    change (checkpointView state row.checkpointJson >>= _) = _
    rw [hread]
    change (if view.taskId ≠ seed.taskId ∨ view.consumer ≠ seed.consumer then _ else _) = _
    rw [if_neg (by simp [htask, hconsumer]), hposition, replay_after h.sound]
    rfl
  | none =>
    have hlegacy : Events.latest state.log seed.runId (some legacyStage) = none := by
      cases hfound : Events.latest state.log seed.runId (some legacyStage) with
      | none => rfl
      | some checkpoint =>
        rcases row_of_latest hfound with ⟨checkpointId, row, hrow, hrun, rfl, hstage⟩
        exact absurd hstage (h.saved checkpointId row hrow hrun).notLegacy
    rw [hlegacy, projection, ← replay_after h.sound]
    rfl

theorem restorable_empty (hseed : seed.Valid) : Restorable runtime seed .empty where
  sound := Events.Store.sound_empty
  valid position view hview := by
    rcases hview with ⟨_, _, hreplay⟩
    rw [show (RuntimeState.empty.log.stream seed.runId).drop seed.basisEventPosition = [] from
      drop_nil, take_nil] at hreplay
    rw [← Except.ok.inj hreplay]
    exact hseed
  saved checkpointId row hrow := by
    rw [show RuntimeState.empty.log.checkpoints = ∅ from rfl, AList.lookup_empty] at hrow
    exact absurd hrow (by simp)

/-- All views of a stream are valid, and read back from a checkpoint, exactly when the events that
    it accepts fit. And in every run of the system whose commands are sane, in every state of the
    run, every view of the stream is valid and restoring the stream gives the projection of all of
    its events from its seed. -/
theorem context_views_restorable (runtime : AgentContextRuntime) (seed : AgentContextView)
    (hseed : seed.Valid) :
    (∀ events, (∀ before after view, events = before ++ after →
      fullReplay runtime.countTokens seed before = .ok view → view.Valid ∧
        AgentContextView.modelValidateJson (AgentContextView.codec.dump view) = .ok view) ↔
      Fitting runtime.countTokens seed events) ∧
    ∀ commands, Guarded (step runtime) (Sane runtime seed) .empty commands →
      ∀ before after, commands = before ++ after →
      let state := run (step runtime) .empty before
      (∀ position view,
        ViewAt runtime.countTokens seed (state.log.stream seed.runId) position view →
        view.Valid) ∧
      restore runtime.countTokens state seed.runId seed =
        fullReplay runtime.countTokens seed
          (Events.replay state.log seed.runId seed.basisEventPosition) := by
  constructor
  · intro events
    rw [← views_valid_iff hseed]
    simp only [AgentContextView.modelValidateJson_dump, and_self]
  · intro commands hguarded before after hsplit
    rw [hsplit, guarded_append] at hguarded
    have hrestorable := run_guarded (step runtime) (Sane runtime seed) (Restorable runtime seed)
      (fun state command h hsane => step_restorable h hsane) before .empty hguarded.1
      (restorable_empty hseed)
    refine ⟨hrestorable.valid, ?_⟩
    rw [restore_eq hrestorable, replay_after hrestorable.sound]
    rfl

end Recovery

namespace Sample

theorem after_delta : ∃ event view,
    step service .empty (.appendAndApply seedView (request 0) 0) =
      { log := RuntimeState.empty.log.push event, artifacts := ∅ } ∧
    (RuntimeState.empty.log.push event).Sound ∧
    (RuntimeState.empty.log.push event).stream seedView.runId = [event] ∧
    fullReplay service.countTokens seedView [event] = .ok view ∧ view.basisEventPosition = 1 := by
  have hs : RuntimeState.empty.log.Sound := Events.Store.sound_empty
  rcases stores_request 0 with ⟨event, hstores⟩
  have hrun : event.runId = seedView.runId := by rw [hstores.event_eq]; rfl
  have hstep : step service .empty (.appendAndApply seedView (request 0) 0) =
      { log := RuntimeState.empty.log.push event, artifacts := ∅ } := by
    rw [step, hstores.appendAndApply hs]
    rfl
  have haccepts : Accepts seedView (request 0).payload := ⟨by decide, by decide, by decide⟩
  rcases (hstores.applies_iff hs).mpr ⟨by decide, haccepts⟩ with ⟨view, happly⟩
  have hreplay : fullReplay service.countTokens seedView [event] = .ok view := by
    rw [fullReplay_cons, happly]
    rfl
  refine ⟨event, view, hstep, ?_, ?_, hreplay, (fullReplay_stream hreplay).2.2.2⟩
  · have hsound := (step_events service hs
      (.appendAndApply seedView (request 0) 0)).1
    rw [hstep] at hsound
    exact hsound
  · rw [Events.Store.stream_push, if_pos hrun]
    rfl

end Sample

/-- A stream with one delta, restored from the checkpoint after it. -/
theorem context_views_restorable_delta : ∃ view,
    view.Valid ∧ restore Sample.service.countTokens
      (run (step Sample.service) .empty
        [.appendAndApply Sample.seedView (Sample.request 0) 0,
          .checkpoint view ⟨"checkpoint", by decide⟩])
      Sample.seedView.runId Sample.seedView = .ok view := by
  rcases Sample.after_delta with ⟨event, view, hstep, hsound, hstream, hreplay, hposition⟩
  have hseed : Sample.seedView.Valid :=
    (AgentContextView.validateView_eq_none _).mp (by decide +kernel)
  let saved : Command := .checkpoint view ⟨"checkpoint", by decide⟩
  have hview : ViewAt Sample.service.countTokens Sample.seedView
      ((RuntimeState.empty.log.push event).stream Sample.seedView.runId) 1 view := by
    rw [hstream]
    exact ⟨Nat.zero_le 1, Nat.le_refl 1, hreplay⟩
  have hfirst : Sane Sample.service Sample.seedView .empty
      (.appendAndApply Sample.seedView (Sample.request 0) 0) := by
    refine ⟨?_, trivial⟩
    intro offered current hoffers _ _ hcurrent _
    have hsame : Sample.seedView = current := Except.ok.inj hcurrent
    rw [hoffers.2.2, ← hsame]
    exact ⟨by decide, by decide⟩
  have hsecond : Sane Sample.service Sample.seedView
      { log := RuntimeState.empty.log.push event, artifacts := ∅ } saved := by
    refine ⟨fun _ _ hoffers => False.elim hoffers, ?_⟩
    intro _ _
    rw [hposition]
    exact ⟨hview, fun stored hstored => absurd hstored (by simp)⟩
  have hguarded : Guarded (step Sample.service) (Sane Sample.service Sample.seedView) .empty
      [.appendAndApply Sample.seedView (Sample.request 0) 0, saved] := by
    refine ⟨hfirst, ?_, trivial⟩
    rw [hstep]
    exact hsecond
  rcases (context_views_restorable Sample.service Sample.seedView hseed).2 _ hguarded _ []
    (append_nil _).symm with ⟨hvalid, hrestore⟩
  let stored : RuntimeState := { log := RuntimeState.empty.log.push event, artifacts := ∅ }
  have hlog := checkpoint_log Sample.service (show stored.log.Sound from hsound) view
    ⟨"checkpoint", by decide⟩
  have hstate : run (step Sample.service) .empty
      [.appendAndApply Sample.seedView (Sample.request 0) 0, saved] =
      (Sample.service.checkpoint view ⟨"checkpoint", by decide⟩
        { log := RuntimeState.empty.log.push event, artifacts := ∅ }).2 := by
    rw [run_cons, run_cons, run_nil, hstep]
    rfl
  have hstream' : (run (step Sample.service) .empty
      [.appendAndApply Sample.seedView (Sample.request 0) 0, saved]).log.stream
        Sample.seedView.runId = [event] := by
    rw [hstate, Events.Store.stream, hlog.2]
    exact hstream
  refine ⟨view, hvalid 1 view (by rw [hstream']; rw [hstream] at hview; exact hview), ?_⟩
  rw [hrestore, replay_after (by rw [hstate]; exact hlog.1), hstream']
  exact hreplay

namespace Sample

def forgetfulView : AgentContextView :=
  { seedView with compactedItemIds := [laterClaim.itemId] }

def reminder : RunEvent where
  eventId := ⟨"event", by decide⟩
  runId := seedView.runId
  taskId := some seedView.taskId
  sequenceNo := 1
  occurredAt := 0
  idempotencyIdentity := ⟨"identity", by decide⟩
  traceId := "trace"
  spanId := none
  content :=
    { payload := .deltaApplied (delta 0)
      payloadSchemaVersion := version
      artifactRefs := []
      audit := none }

end Sample

open Sample

/-- A delta brings back a claim that was compacted away. The projector accepts
    it, and the view that comes out is not valid and does not read back. -/
theorem compacted_claim_returns :
    forgetfulView.Valid ∧ ∃ view,
      fullReplay service.countTokens forgetfulView [reminder] = .ok view ∧
      ¬ view.Valid ∧
      AgentContextView.modelValidateJson (AgentContextView.codec.dump view) ≠ .ok view := by
  have hseed : forgetfulView.Valid :=
    (AgentContextView.validateView_eq_none _).mp (by decide +kernel)
  have hown : ¬ Foreign forgetfulView reminder.taskId := by
    rintro ⟨task, htask, hne⟩
    exact hne (Option.some.inj htask).symm
  have haccepts : Accepts forgetfulView reminder.content.payload :=
    ⟨by decide, by decide, by decide⟩
  have happly : applyEvent service.countTokens _ _ = _ := applyEvent_ok.mpr
    ⟨show reminder.runId = forgetfulView.runId from rfl,
      show reminder.sequenceNo = forgetfulView.basisEventPosition + 1 from rfl,
      .inr ⟨hown, haccepts, rfl⟩⟩
  have hinvalid := (applyEvent_valid_iff hseed happly).not.mpr fun hfits => by
    have hcompacted := ((hfits hown).2 laterClaim (by decide)).2.1
    exact hcompacted (by decide)
  refine ⟨hseed, _, ?_, hinvalid, ?_⟩
  · rw [fullReplay_cons, happly]
    rfl
  · rw [ne_eq, AgentContextView.modelValidateJson_dump]
    exact hinvalid

end NovelAgent.Context
