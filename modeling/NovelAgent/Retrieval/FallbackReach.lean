import NovelAgent.Retrieval.ControllerSafety

/-!
# Reaching the Fallbacks

When a need that has nothing else left is offered the steps of its fallbacks.
-/

namespace NovelAgent.Retrieval

open Core Domain List

/-- What the registry offers for a need after the calls made so far. -/
def needActions (provider : LegalActionProvider) (need : Stage1MemoryNeed)
    (calls : List ToolCall) : Except ControllerError (List RegisteredControllerAction) :=
  provider.actionsForNeed need (callsFor need.needId calls) (calls.map ToolCall.pair) false

/-- No mandatory or primary action is offered. -/
def PrimaryOver (actions : List RegisteredControllerAction) : Prop :=
  ∀ action ∈ actions, action.phase = .fallback

/-- A fallback of a route whose condition holds for the results so far. -/
def Applies (plan : RoutePlan) (needId : StableId) (calls : List ToolCall)
    (fallback : ConditionalFallback) : Prop :=
  fallback ∈ plan.conditionalFallbacks ∧
    fallbackApplies fallback.condition (primarySucceeded plan (callsFor needId calls)) = .ok true

/-- A step that can be executed and was not called yet. -/
def OpenStep (provider : LegalActionProvider) (need : Stage1MemoryNeed) (calls : List ToolCall)
    (step : RouteStep) (toolName : String) : Prop :=
  Offered provider.toolPolicy need (calls.map ToolCall.pair) step.channel toolName

/-- Once no mandatory or primary action is left, every open step of a fallback that applies
    is offered. -/
def FallbacksReached (provider : LegalActionProvider) (need : Stage1MemoryNeed)
    (calls : List ToolCall) : Prop :=
  ∀ plan ∈ planFor provider.routePlans need.needId,
  ∀ actions, needActions provider need calls = .ok actions → PrimaryOver actions →
  ∀ fallback, Applies plan need.needId calls fallback →
  ∀ step ∈ fallback.steps, ∀ toolName, OpenStep provider need calls step toolName →
    ∃ action ∈ actions, action.needId = need.needId ∧ action.routeStepId = some step.stepId ∧
      action.toolName = toolName ∧ action.phase = .fallback

/-- A mandatory or primary step that was not called is not permitted by the policy or the
    pools, no other one is open, and an open fallback waits behind it. -/
def Starved (provider : LegalActionProvider) (need : Stage1MemoryNeed) (calls : List ToolCall) :
    Prop :=
  ∃ plan ∈ planFor provider.routePlans need.needId,
    (∃ step ∈ plan.primarySteps, ∃ toolName ∈ toolByChannel step.channel,
      (need.needId, toolName) ∉ calls.map ToolCall.pair ∧
        (toolName ∉ provider.toolPolicy.allowedTools ∨ poolAllowed need step.channel = false)) ∧
    (∀ step ∈ plan.primarySteps, ∀ toolName, ¬ OpenStep provider need calls step toolName) ∧
    ∃ fallback, Applies plan need.needId calls fallback ∧
      ∃ step ∈ fallback.steps, ∃ toolName, OpenStep provider need calls step toolName

variable {toolName : String}

section Steps

variable {provider : LegalActionProvider} {need : Stage1MemoryNeed}
  {called : List (StableId × String)} {phase : ControllerActionPhase}
  {fallbackCondition : Option String}

variable {step : RouteStep}

theorem stepAction_offered (phase : ControllerActionPhase) (fallbackCondition : Option String)
    (h : Offered provider.toolPolicy need called step.channel toolName) :
    ∃ action, provider.stepAction need called phase fallbackCondition step = .ok (some action) ∧
      action.needId = need.needId ∧ action.routeStepId = some step.stepId ∧
      action.toolName = toolName ∧ action.phase = phase := by
  rcases h with ⟨htool, hallowed, hpool, hopen⟩
  have hid : checkedId (actionId need.needId step.stepId) =
      .ok ⟨_, isStableId_actionId need.needId step.stepId⟩ := (checkedId_eq_ok _ _).mpr rfl
  simp only [LegalActionProvider.stepAction, htool, hallowed, hpool, hopen, hid, not_true_eq_false,
    Bool.true_eq_false, if_false]
  exact ⟨_, rfl, rfl, rfl, rfl, rfl⟩

theorem offered_of_stepAction {action : RegisteredControllerAction}
    (h : provider.stepAction need called phase fallbackCondition step = .ok (some action)) :
    Offered provider.toolPolicy need called step.channel action.toolName ∧
      action.phase = phase := by
  rcases provider.stepAction_ok need called phase fallbackCondition step with
    ⟨answer, hanswer, hspec⟩
  rw [h, Except.ok.injEq] at hanswer
  have hoffered := ((hspec action.pair).mp ⟨action, hanswer ▸ rfl, rfl⟩).2
  rcases stepAction_offered phase fallbackCondition hoffered with
    ⟨found, hfound, _, _, _, hphase⟩
  rw [h, Except.ok.injEq, Option.some.injEq] at hfound
  exact ⟨hoffered, hfound ▸ hphase⟩

theorem mem_stepActions {steps : List RouteStep} {actions : List RegisteredControllerAction}
    (h : provider.stepActions need called phase fallbackCondition steps = .ok actions)
    (action : RegisteredControllerAction) :
    action ∈ actions ↔ ∃ step ∈ steps,
      provider.stepAction need called phase fallbackCondition step = .ok (some action) := by
  simp only [LegalActionProvider.stepActions, Outcome.bind_eq_ok, Outcome.pure_eq_ok] at h
  rcases h with ⟨answers, hanswers, rfl⟩
  rw [reduceOption_mem_iff, Outcome.mapM_mem hanswers]

end Steps

section Needs

variable {provider : LegalActionProvider} {need : Stage1MemoryNeed} {calls : List ToolCall}
  {plan : RoutePlan} {actions : List RegisteredControllerAction}

theorem mem_needActions (hplan : planFor provider.routePlans need.needId = some plan)
    (h : needActions provider need calls = .ok actions) (action : RegisteredControllerAction) :
    action ∈ actions ↔
      (∃ step ∈ plan.mandatorySteps, provider.stepAction need (calls.map ToolCall.pair)
        .mandatory none step = .ok (some action)) ∨
      (∃ step ∈ plan.primaryGroups.flatMap RouteStepGroup.steps, provider.stepAction need
        (calls.map ToolCall.pair) .primary none step = .ok (some action)) ∨
      (primaryExhausted plan (callsFor need.needId calls) = true ∧
        ∃ fallback, Applies plan need.needId calls fallback ∧ ∃ step ∈ fallback.steps,
          provider.stepAction need (calls.map ToolCall.pair) .fallback
            (some fallback.condition) step = .ok (some action)) := by
  simp only [needActions, LegalActionProvider.actionsForNeed, hplan, Outcome.bind_eq_ok,
    Outcome.pure_eq_ok] at h
  rcases h with ⟨mandatory, hmandatory, primary, hprimary, fallbacks, hfallbacks, rfl⟩
  rw [mem_append, mem_append, mem_stepActions hmandatory, mem_stepActions hprimary,
    or_assoc, mem_flatten]
  refine or_congr_right (or_congr_right ?_)
  constructor
  · rintro ⟨block, hblock, hmem⟩
    rcases (Outcome.mapM_mem hfallbacks block).mp hblock with ⟨fallback, hfallback, hactions⟩
    simp only [LegalActionProvider.fallbackActions, Outcome.bind_eq_ok] at hactions
    rcases hactions with ⟨applies, happlies, hactions⟩
    cases applies with
    | false => simp [← (Outcome.pure_eq_ok _ _).mp hactions] at hmem
    | true =>
      cases hexhausted : primaryExhausted plan (callsFor need.needId calls) with
      | false =>
        simp [LegalActionProvider.conditionHolds, hexhausted, pure, Except.pure] at happlies
      | true =>
        rw [hexhausted, LegalActionProvider.conditionHolds, if_pos rfl] at happlies
        exact ⟨rfl, fallback, ⟨hfallback, happlies⟩, (mem_stepActions hactions action).mp hmem⟩
  · rintro ⟨hexhausted, fallback, ⟨hfallback, happlies⟩, hstep⟩
    rcases (Outcome.mapM_returns _ _).mp ⟨fallbacks, hfallbacks⟩ fallback hfallback with
      ⟨block, hblock⟩
    refine ⟨block, (Outcome.mapM_mem hfallbacks block).mpr ⟨fallback, hfallback, hblock⟩, ?_⟩
    simp only [LegalActionProvider.fallbackActions, LegalActionProvider.conditionHolds, hexhausted,
      if_true, happlies, Outcome.bind_eq_ok, Except.ok.injEq, exists_eq_left'] at hblock
    exact (mem_stepActions hblock action).mpr hstep

/-- The primary phase is over when no primary step is permitted and open. -/
theorem primaryOver_iff (hplan : planFor provider.routePlans need.needId = some plan)
    (h : needActions provider need calls = .ok actions) :
    PrimaryOver actions ↔
      ∀ step ∈ plan.primarySteps, ∀ toolName, ¬ OpenStep provider need calls step toolName := by
  constructor
  · intro hover step hstep toolName hopen
    rcases mem_append.mp hstep with hstep | hstep
    · rcases stepAction_offered .mandatory none hopen with
        ⟨action, haction, _, _, _, hphase⟩
      have hmem := (mem_needActions hplan h action).mpr (.inl ⟨step, hstep, haction⟩)
      exact absurd (hphase.symm.trans (hover action hmem)) (by decide)
    · rcases stepAction_offered .primary none hopen with
        ⟨action, haction, _, _, _, hphase⟩
      have hmem := (mem_needActions hplan h action).mpr (.inr (.inl ⟨step, hstep, haction⟩))
      exact absurd (hphase.symm.trans (hover action hmem)) (by decide)
  · intro hclosed action hmem
    rcases (mem_needActions hplan h action).mp hmem with ⟨step, hstep, haction⟩ |
      ⟨step, hstep, haction⟩ | ⟨_, fallback, _, step, _, haction⟩
    · exact absurd (offered_of_stepAction haction).1
        (hclosed step (mem_append_left _ hstep) action.toolName)
    · exact absurd (offered_of_stepAction haction).1
        (hclosed step (mem_append_right _ hstep) action.toolName)
    · exact (offered_of_stepAction haction).2

theorem mem_callsFor {needId : StableId} {calls : List ToolCall} :
    toolName ∈ (callsFor needId calls).map ToolCall.toolName ↔
      (needId, toolName) ∈ calls.map ToolCall.pair := by
  simp only [callsFor, mem_map, mem_filter, decide_eq_true_eq, ToolCall.pair,
    Prod.mk.injEq]
  constructor
  · rintro ⟨call, ⟨hmem, hid⟩, htool⟩
    exact ⟨call, hmem, hid, htool⟩
  · rintro ⟨call, hmem, hid, htool⟩
    exact ⟨call, ⟨hmem, hid⟩, htool⟩

theorem primaryExhausted_steps (plan : RoutePlan) (needId : StableId) (calls : List ToolCall) :
    primaryExhausted plan (callsFor needId calls) = true ↔
      ∀ step ∈ plan.primarySteps, ∀ toolName ∈ toolByChannel step.channel,
        (needId, toolName) ∈ calls.map ToolCall.pair := by
  simp only [primaryExhausted, all_eq_true, decide_eq_true_eq, mem_callsFor, primaryTools,
    mem_filterMap, Option.mem_def]
  exact ⟨fun h step hstep toolName htool => h toolName ⟨step, hstep, htool⟩,
    fun h toolName ⟨step, hstep, htool⟩ => h step hstep toolName htool⟩

/-- Without an unregistered condition in its way, the registry returns for a need whose
    primary tools are not exhausted. -/
theorem needActions_returns (hplan : planFor provider.routePlans need.needId = some plan)
    (hopen : primaryExhausted plan (callsFor need.needId calls) = false) :
    ∃ actions, needActions provider need calls = .ok actions :=
  (provider.actionsForNeed_returns need _ hplan).mpr fun h => by simp [hopen] at h

end Needs

/-- A need is offered the fallbacks that apply to it once nothing else is left, unless a
    step that is not permitted stands before them. -/
theorem fallbacks_reached_iff (provider : LegalActionProvider) (need : Stage1MemoryNeed)
    (calls : List ToolCall) :
    FallbacksReached provider need calls ↔ ¬ Starved provider need calls := by
  constructor
  · rintro hreached ⟨plan, hplan, ⟨blocked, hblocked, toolName, htool, hnot, _⟩, hclosed, fallback,
      happlies, step, hstep, rescue, hrescue⟩
    have hexhausted : primaryExhausted plan (callsFor need.needId calls) = false := by
      rw [← Bool.not_eq_true, primaryExhausted_steps]
      exact fun hcalled => hnot (hcalled blocked hblocked toolName htool)
    rcases needActions_returns hplan hexhausted with ⟨actions, hactions⟩
    have hover := (primaryOver_iff hplan hactions).mpr hclosed
    rcases hreached plan hplan actions hactions hover fallback happlies step hstep rescue hrescue
      with ⟨action, hmem, _, _, _, hphase⟩
    -- Only the primary phases have actions, and they are closed.
    rcases (mem_needActions hplan hactions action).mp hmem with ⟨step, _, haction⟩ |
      ⟨step, _, haction⟩ | ⟨hcontra, _⟩
    · exact absurd (hphase.symm.trans (offered_of_stepAction haction).2) (by decide)
    · exact absurd (hphase.symm.trans (offered_of_stepAction haction).2) (by decide)
    · exact absurd hcontra (by simp [hexhausted])
  · intro hnot plan hplan actions hactions hover fallback happlies step hstep toolName hopen
    have hclosed := (primaryOver_iff hplan hactions).mp hover
    have hexhausted : primaryExhausted plan (callsFor need.needId calls) = true := by
      rw [primaryExhausted_steps]
      intro blocked hblocked tool htool
      by_contra hcalled
      refine hnot ⟨plan, hplan, ⟨blocked, hblocked, tool, htool, hcalled, ?_⟩, hclosed, fallback,
        happlies, step, hstep, toolName, hopen⟩
      by_contra hpermitted
      rw [not_or, not_not, Bool.not_eq_false] at hpermitted
      exact hclosed blocked hblocked tool ⟨htool, hpermitted.1, hpermitted.2, hcalled⟩
    rcases stepAction_offered .fallback (some fallback.condition) hopen with ⟨action, haction, hfields⟩
    exact ⟨action, (mem_needActions hplan hactions action).mpr
      (.inr (.inr ⟨hexhausted, fallback, happlies, step, hstep, haction⟩)), hfields⟩

namespace Sample

def groundedPolicy : ToolPolicy :=
  { toolPolicy with allowedTools := ["memory.search_grounded_bm25"], allowed_nodup := by decide }

def groundedProvider : LegalActionProvider where
  toolPolicy := groundedPolicy
  routePlans := [plan]
  unique := controller.unique

theorem fallback_unreached : ¬ ∀ (provider : LegalActionProvider) (need : Stage1MemoryNeed)
    (calls : List ToolCall), FallbacksReached provider need calls := by
  intro hreached
  have hactions : needActions groundedProvider need [] = .ok [] := rfl
  have happlies : Applies plan need.needId [] (plan.conditionalFallbacks.head (by decide)) :=
    ⟨head_mem _, rfl⟩
  rcases hreached groundedProvider need [] plan rfl [] hactions (by simp [PrimaryOver]) _ happlies
    ⟨⟨"step.grounded", by decide⟩, .groundedBm25⟩ (by decide) "memory.search_grounded_bm25"
    ⟨rfl, by decide, rfl, by decide⟩ with ⟨action, hmem, _⟩
  exact absurd hmem not_mem_nil

end Sample

/-- Calls that are each offered for their need when they are made. -/
def OfferedCalls (provider : LegalActionProvider) (needs : List Stage1MemoryNeed)
    (calls : List ToolCall) : List ToolCall → Prop
  | [] => True
  | call :: rest =>
    (∃ need ∈ needs, ∃ actions, needActions provider need calls = .ok actions ∧
      ∃ action ∈ actions, action.pair = call.pair) ∧
    OfferedCalls provider needs (calls ++ [call]) rest

theorem Starved.nothing {provider : LegalActionProvider} {need : Stage1MemoryNeed}
    {calls : List ToolCall} (h : Starved provider need calls)
    {actions : List RegisteredControllerAction}
    (hactions : needActions provider need calls = .ok actions) : actions = [] := by
  rcases h with ⟨plan, hplan, ⟨blocked, hblocked, toolName, htool, hnot, _⟩, hclosed, _⟩
  refine eq_nil_iff_forall_not_mem.mpr fun action hmem => ?_
  rcases (mem_needActions hplan hactions action).mp hmem with ⟨step, hstep, haction⟩ |
    ⟨step, hstep, haction⟩ | ⟨hexhausted, _⟩
  · exact hclosed step (mem_append_left _ hstep) _ (offered_of_stepAction haction).1
  · exact hclosed step (mem_append_right _ hstep) _ (offered_of_stepAction haction).1
  · exact hnot ((primaryExhausted_steps plan _ calls).mp hexhausted blocked hblocked toolName htool)

theorem starved_for_ever {provider : LegalActionProvider} {needs : List Stage1MemoryNeed}
    {need : Stage1MemoryNeed} (hunique : ∀ other ∈ needs, other.needId = need.needId → other = need)
    (later : List ToolCall) : ∀ calls, Starved provider need calls →
      OfferedCalls provider needs calls later → Starved provider need (calls ++ later) := by
  induction later with
  | nil => exact fun calls h _ => by rwa [append_nil]
  | cons call rest ih =>
    rintro calls h ⟨⟨other, hother, actions, hactions, action, hmem, hpair⟩, hrest⟩
    have hneed : call.needId ≠ need.needId := by
      intro heq
      have hlists : Lists actions call.pair :=
        mem_map.mpr ⟨action, hmem, hpair⟩
      have hid := (provider.offered_of_lists other _ hactions hlists).1
      have hsame := hunique other hother (hid.symm.trans heq)
      subst hsame
      simp [h.nothing hactions] at hmem
    have hcalls : callsFor need.needId (calls ++ [call]) = callsFor need.needId calls := by
      simp [callsFor, hneed]
    have hpairs (toolName : String) : (need.needId, toolName) ∈ (calls ++ [call]).map
        ToolCall.pair ↔ (need.needId, toolName) ∈ calls.map ToolCall.pair := by
      simp [ToolCall.pair, hneed.symm]
    have hstarved : Starved provider need (calls ++ [call]) := by
      simpa only [Starved, Applies, OpenStep, Offered, hcalls, hpairs] using h
    rw [append_cons]
    exact ih _ hstarved hrest

namespace Sample

/-- A need that is served from the grounded text from the start. -/
def groundedNeed : Stage1MemoryNeed := { need with needId := ⟨"need.b", .refl true⟩ }

def groundedPlan : RoutePlan where
  needId := ⟨"need.b", .refl true⟩
  mandatorySteps := [{ stepId := ⟨"step.dense", by decide⟩, channel := .groundedDense }]
  primaryGroups := [{
    steps := [{ stepId := ⟨"step.bm25", by decide⟩, channel := .groundedBm25 }]
    steps_ne_nil := by decide
    channels_nodup := by decide }]
  conditionalFallbacks := []

/-- Both grounded searches are allowed, and the anchor search is not. -/
def sharedProvider : LegalActionProvider where
  toolPolicy := { toolPolicy with
    allowedTools := ["memory.search_grounded_bm25", "memory.search_grounded_dense"]
    allowed_nodup := by decide }
  routePlans := [plan, groundedPlan]
  unique := by decide

def groundedCall (toolName : String) : ToolCall where
  needId := groundedNeed.needId
  toolName := toolName
  result := found {
    toolCallId := ⟨"call.a", .refl true⟩
    runId := request.runId
    taskId := request.taskId
    projectId := request.projectId
    baseCommit := commit
    snapshotId := some request.snapshotId
    worldline := request.worldline
    narrativeChapter := request.narrativeChapter
    accessScope := request.accessScope
    planPermission := false
    timeoutMs := 1000
    readOnly := true }

/-- What the second need calls while the first one waits. -/
def groundedCalls : List ToolCall :=
  [groundedCall "memory.search_grounded_dense", groundedCall "memory.search_grounded_bm25"]

theorem need_starved : Starved sharedProvider need [] := by
  refine ⟨plan, rfl, ⟨_, mem_singleton_self _, _, rfl, not_mem_nil, .inl (by decide)⟩, ?_,
    plan.conditionalFallbacks.head (by decide), ⟨head_mem _, rfl⟩,
    ⟨⟨"step.grounded", by decide⟩, .groundedBm25⟩, by decide, "memory.search_grounded_bm25", rfl,
    by decide, rfl, by decide⟩
  rintro step hstep toolName ⟨htool, hallowed, -⟩
  rw [mem_singleton.mp hstep] at htool
  rw [← Option.some.inj htool] at hallowed
  exact absurd hallowed (by decide)

theorem groundedCalls_offered :
    OfferedCalls sharedProvider [need, groundedNeed] [] groundedCalls := by
  have hmem : groundedNeed ∈ [need, groundedNeed] := by simp
  exact ⟨⟨_, hmem, _, rfl, _, mem_cons_self, rfl⟩,
    ⟨_, hmem, _, rfl, _, mem_cons_self, rfl⟩, trivial⟩

end Sample

end NovelAgent.Retrieval
