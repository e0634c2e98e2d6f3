import NovelAgent.Context.Compaction
import NovelAgent.Context.History

/-!
# Poisoning the Log

When an event that the projector refuses is left in the log.
-/

namespace NovelAgent.Context

open Core Domain

section Replay

variable {runtime : AgentContextRuntime}

/-- An append of the runtime that raises because its event is refused leaves the log as it was. -/
def LeavesLog (runtime : AgentContextRuntime) (state : RuntimeState) (view : AgentContextView)
    (request : Request) (now : Time) : Prop :=
  ∀ message, (runtime.appendAndApply view request now state).1 = .error (.projection message) →
    (runtime.appendAndApply view request now state).2.log = state.log

/-- If the request is stored, then its view is not ahead of the log, and the
    view accepts the payload once it has caught up. -/
def Projectable (runtime : AgentContextRuntime) (state : RuntimeState) (view : AgentContextView)
    (request : Request) (now : Time) : Prop :=
  ∀ caughtUp event, Stores runtime state view request now caughtUp event →
    view.basisEventPosition ≤ state.log.head view.runId ∧ Accepts caughtUp request.payload

variable {state : RuntimeState} {request : Request} {now : Time}

theorem Stores.unique {view first second : AgentContextView} {event other : RunEvent}
    (h : Stores runtime state view request now first event)
    (h' : Stores runtime state view request now second other) : first = second ∧ event = other := by
  have hview : first = second := Except.ok.inj (h.catchUp.symm.trans h'.catchUp)
  subst hview
  have hidentity := Except.ok.inj (h.identity.symm.trans h'.identity)
  have heventId := Except.ok.inj (h.eventId.symm.trans h'.eventId)
  refine ⟨rfl, ?_⟩
  rw [h.event_eq, h'.event_eq, hidentity, heventId]

variable {view caughtUp : AgentContextView} {event : RunEvent}

theorem Stores.appendAndApply (hs : state.log.Sound)
    (h : Stores runtime state view request now caughtUp event) :
    runtime.appendAndApply view request now state =
      (applyEvent runtime.countTokens caughtUp event,
        { state with log := state.log.push event }) := by
  rcases appendAndApply_cases runtime hs view request now with
    ⟨_, hnone⟩ | ⟨caughtUp', event', h', happend⟩
  · exact absurd h (hnone caughtUp event)
  · rcases h.unique h' with ⟨rfl, rfl⟩
    exact happend

/-- A view that caught up applies the event exactly when it accepts its
    payload and was not ahead of the log. -/
theorem Stores.applies_iff (hs : state.log.Sound)
    (h : Stores runtime state view request now caughtUp event) :
    (∃ view', applyEvent runtime.countTokens caughtUp event = .ok view') ↔
      view.basisEventPosition ≤ state.log.head view.runId ∧ Accepts caughtUp request.payload := by
  rcases fullReplay_stream h.catchUp with ⟨hrun, htask, _, hposition⟩
  rw [hs.filter_stream, List.length_drop, hs.length_stream] at hposition
  have hevent := h.event_eq
  have hrunId : event.runId = caughtUp.runId := by rw [hevent]; rfl
  have htaskId : event.taskId = some caughtUp.taskId := by rw [hevent]; rfl
  have hpayload : event.content.payload = request.payload := by rw [hevent]; rfl
  have hnumber : event.sequenceNo = state.log.head view.runId + 1 := by
    rw [hevent, ← Events.Store.nextSequence_eq]
    rfl
  have hown : ¬ Foreign caughtUp event.taskId := by
    rw [htaskId]
    rintro ⟨task, htask, hne⟩
    exact hne (Option.some.inj htask).symm
  simp only [applyEvent_ok, hrunId, hnumber, hown, hpayload, hposition, true_and, false_and,
    false_or, not_false_eq_true]
  constructor
  · rintro ⟨_, hnext, haccepts, _⟩
    exact ⟨by omega, haccepts⟩
  · rintro ⟨hbehind, haccepts⟩
    exact ⟨_, by omega, haccepts, rfl⟩

/-- A refused projection leaves the log as it was exactly when no event is
    stored that its view refuses. -/
theorem leavesLog_iff (hs : state.log.Sound) (view : AgentContextView) (request : Request)
    (now : Time) :
    LeavesLog runtime state view request now ↔ Projectable runtime state view request now := by
  constructor
  · intro hleaves caughtUp event hstores
    rw [← hstores.applies_iff hs]
    cases happly : applyEvent runtime.countTokens caughtUp event with
    | ok view' => exact ⟨view', rfl⟩
    | error error =>
      -- The event was appended before it was refused.
      rcases applyEvent_error happly with ⟨message, rfl⟩
      have happend := hstores.appendAndApply hs
      rw [happly] at happend
      have hsame := hleaves message (by rw [happend])
      rw [happend] at hsame
      have hlength := congrArg (fun log => log.events.length) hsame
      simp [Events.Store.push] at hlength
  · intro hprojectable message hraises
    rcases appendAndApply_cases runtime hs view request now with
      ⟨hsame, _⟩ | ⟨caughtUp, event, hstores, happend⟩
    · rw [hsame]
    · rcases (hstores.applies_iff hs).mpr (hprojectable caughtUp event hstores) with
        ⟨view', happly⟩
      rw [happend, happly] at hraises
      exact absurd hraises (by simp)

def projection (runtime : AgentContextRuntime) (seed : AgentContextView) (state : RuntimeState) :
    Except ContextError AgentContextView :=
  fullReplay runtime.countTokens seed
    ((state.log.stream seed.runId).drop seed.basisEventPosition)

/-- An event that the command adds to the seed's run, for its task or for no
    task, is one that the view of the stream accepts. -/
def Welcome (runtime : AgentContextRuntime) (seed : AgentContextView) (state : RuntimeState)
    (command : Command) : Prop :=
  ∀ event current, command.Offers event → command.Fresh state → event.runId = seed.runId →
    ¬ Foreign seed event.taskId → projection runtime seed state = .ok current →
    Accepts current event.content.payload

/-- A welcome command keeps a stream replayable. -/
theorem step_replays {seed : AgentContextView} (hseed : seed.basisEventPosition = 0)
    {command : Command} (hs : state.log.Sound) (hwelcome : Welcome runtime seed state command)
    {current : AgentContextView} (h : projection runtime seed state = .ok current) :
    ∃ next, projection runtime seed (step runtime state command) = .ok next := by
  rw [projection, hseed, List.drop_zero] at h ⊢
  rcases (step_events runtime hs command).2 with
    hsame | ⟨event, hoffers, hfresh, hnext, hadded⟩
  · refine ⟨current, ?_⟩
    rw [Events.Store.stream, hsame]
    exact h
  · rw [hadded, Events.Store.stream_push, fullReplay_append, h]
    by_cases hrun : event.runId = seed.runId
    · rw [if_pos hrun]
      rcases fullReplay_stream h with ⟨hrun', htask', _, hposition⟩
      rw [hs.length_stream, hseed] at hposition
      have hnumber : event.sequenceNo = current.basisEventPosition + 1 := by
        rw [hnext, Events.Store.nextSequence_eq, hrun]
        omega
      have hforeign : Foreign current event.taskId ↔ Foreign seed event.taskId := by
        rw [Foreign, Foreign, htask']
      -- An event of another task is counted, and any other one is accepted.
      have happlies : ∃ next, applyEvent runtime.countTokens current event = .ok next := by
        simp only [applyEvent_ok, hforeign]
        by_cases hother : Foreign seed event.taskId
        · exact ⟨_, hrun.trans hrun'.symm, hnumber, .inl ⟨hother, rfl⟩⟩
        · have haccepts := hwelcome event current hoffers hfresh hrun hother
            (by rw [projection, hseed, List.drop_zero]; exact h)
          exact ⟨_, hrun.trans hrun'.symm, hnumber, .inr ⟨hother, haccepts, rfl⟩⟩
      rcases happlies with ⟨next, hnext⟩
      exact ⟨next, by simp [Except.bind, fullReplay_cons, hnext, bind]⟩
    · rw [if_neg hrun]
      exact ⟨current, rfl⟩

/-- A refused projection leaves the log as it was exactly when no event is stored that its view
    refuses. And in every run of the system whose commands are all welcome the whole stored stream
    replays from its seed, in every state of the run. -/
theorem context_log_unpoisoned (runtime : AgentContextRuntime) :
    (∀ state : RuntimeState, state.log.Sound → ∀ view request now,
      LeavesLog runtime state view request now ↔ Projectable runtime state view request now) ∧
    ∀ seed : AgentContextView, seed.basisEventPosition = 0 → ∀ commands,
      Guarded (step runtime) (Welcome runtime seed) .empty commands →
      ∀ before after, commands = before ++ after → ∃ view,
        fullReplay runtime.countTokens seed
          ((run (step runtime) .empty before).log.stream seed.runId) = .ok view := by
  refine ⟨fun state hs view request now => leavesLog_iff hs view request now, ?_⟩
  intro seed hseed commands hguarded before after hsplit
  rw [hsplit, guarded_append] at hguarded
  have hrun := run_guarded (step runtime) (Welcome runtime seed)
    (fun state => state.log.Sound ∧ ∃ current, projection runtime seed state = .ok current)
    (fun state command hinv hwelcome =>
      ⟨(step_events _ hinv.1 command).1,
        hinv.2.elim fun _ hcurrent => step_replays hseed hinv.1 hwelcome hcurrent⟩)
    before .empty hguarded.1 ⟨Events.Store.sound_empty, seed, by
      rw [projection, hseed]
      rfl⟩
  rcases hrun.2 with ⟨view, hview⟩
  rw [projection, hseed, List.drop_zero] at hview
  exact ⟨view, hview⟩

end Replay

namespace Sample

def seedView : AgentContextView := { view with basisEventPosition := 0 }

def service : AgentContextRuntime where
  countTokens text := text.utf8ByteSize
  schemaVersion := version
  validateStage5EventPayload _ _ _ := none

def laterClaim : ContextViewItem :=
  item ⟨"claim.later", by decide⟩ .memory ⟨"The lamp went out.", by decide⟩

def delta (parentViewRevision : Nat) : ContextDelta where
  deltaId := ⟨"delta", by decide⟩
  requestRef := package
  resolutionRef := package
  parentViewRevision := parentViewRevision
  baseCommit := none
  snapshotId := none
  profileRef := none
  planRef := none
  addedMemoryItems := [laterClaim]
  supersededItemIds := []
  resolvedNeedIds := []
  unresolvedNeedIds := []
  evidenceRefs := []
  tokenImpact := 1
  informationScope := .plannerSafe
  status := .resolved
  valid := rfl

def request (parentViewRevision : Nat) : Request where
  payload := .deltaApplied (delta parentViewRevision)
  artifactRefs := []
  label := "delta"
  traceNamespace := "context"

theorem stores_request (parentViewRevision : Nat) :
    ∃ event, Stores service .empty seedView (request parentViewRevision) 0 seedView event := by
  have hidentity : (eventIdentity "context" seedView "delta").isOk = true := by decide +kernel
  have heventId : (Compactor.identity ("event-id." ++ "context" ++ "." ++
      labelSuffix seedView "delta")).isOk = true := by decide +kernel
  rcases Outcome.isOk_iff.mp hidentity with ⟨identity, hidentity⟩
  rcases Outcome.isOk_iff.mp heventId with ⟨eventId, heventId⟩
  exact ⟨service.requestEvent seedView (request parentViewRevision) identity eventId 1 0 none,
    hidentity, rfl, rfl, heventId, rfl, fun _ h => absurd h List.not_mem_nil, rfl⟩

end Sample

open Sample

/-- A delta for the seed is stored and projected, and the stream replays. -/
theorem context_log_unpoisoned_delta :
    LeavesLog service .empty seedView (request 0) 0 ∧
    ∃ view, fullReplay service.countTokens seedView
      ((run (step service) .empty
        [.appendAndApply seedView (request 0) 0]).log.stream
          seedView.runId) = .ok view := by
  refine ⟨?_, ?_⟩
  · refine ((context_log_unpoisoned service).1 .empty Events.Store.sound_empty
      seedView (request 0) 0).mpr ?_
    intro caughtUp event hstores
    have hseed : seedView = caughtUp := Except.ok.inj hstores.catchUp
    rw [← hseed]
    exact ⟨by decide, by decide, by decide, by decide⟩
  · refine (context_log_unpoisoned service).2 seedView rfl
      [.appendAndApply seedView (request 0) 0] ⟨?_, trivial⟩ _ [] rfl
    intro event current hoffers _ _ _ hcurrent
    have hseed : seedView = current := Except.ok.inj hcurrent
    rw [hoffers.2.2, ← hseed]
    exact ⟨by decide, by decide, by decide⟩

/-- A delta for a revision that the seed never had is refused, stays in the
    log, and stops every replay of it. -/
theorem stale_delta_poisons :
    ¬ LeavesLog service .empty seedView (request 5) 0 ∧
    ∃ message, fullReplay service.countTokens seedView
      ((run (step service) .empty
        [.appendAndApply seedView (request 5) 0]).log.stream
          seedView.runId) = .error (.projection message) := by
  rcases stores_request 5 with ⟨event, hstores⟩
  have hs : RuntimeState.empty.log.Sound := Events.Store.sound_empty
  have hstale : ¬ Accepts seedView (request 5).payload := by
    rintro ⟨hrevision, _⟩
    exact absurd hrevision (by decide)
  have happlies := (hstores.applies_iff hs).not.mpr fun h => hstale h.2
  refine ⟨fun hleaves => hstale (((leavesLog_iff hs _ _ _).mp hleaves) _ _ hstores).2, ?_⟩
  cases happly : applyEvent service.countTokens seedView event with
  | ok view => exact absurd ⟨view, happly⟩ happlies
  | error error =>
    rcases applyEvent_error happly with ⟨message, rfl⟩
    have hstream : (run (step service) .empty
        [.appendAndApply seedView (request 5) 0]).log.stream
          seedView.runId = [event] := by
      rw [run_cons, run_nil, step, hstores.appendAndApply hs, Events.Store.stream_push,
        if_pos (by rw [hstores.event_eq]; rfl)]
      rfl
    refine ⟨message, ?_⟩
    rw [hstream, fullReplay_cons, happly]
    rfl

end NovelAgent.Context
