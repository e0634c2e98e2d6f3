import Mathlib.Data.List.ReduceOption
import NovelAgent.Core.Outcome
import NovelAgent.Retrieval.Needs

/-!
# Legal Actions

The registry of the actions a controller may take next. It looks at the route
of each accessible need and at the calls made so far, and offers the steps that
are still open: the primary steps, and the steps of those fallbacks whose
condition holds once every primary step has been called.
-/

namespace NovelAgent.Retrieval

open Core Domain List

/-- The registry, with at most one route for a need. -/
structure LegalActionProvider where
  toolPolicy : ToolPolicy
  routePlans : List RoutePlan
  unique : (routePlans.map RoutePlan.needId).Nodup

/-- The route registered for a need. -/
def planFor (routePlans : List RoutePlan) (needId : StableId) : Option RoutePlan :=
  routePlans.find? fun plan => plan.needId = needId

def callsFor (needId : StableId) (calls : List ToolCall) : List ToolCall :=
  calls.filter fun call => call.needId = needId

/-- The tools of the steps that come before any fallback. -/
def primaryTools (plan : RoutePlan) : List String :=
  plan.primarySteps.filterMap fun step => toolByChannel step.channel

def primaryExhausted (plan : RoutePlan) (priorCalls : List ToolCall) : Bool :=
  (primaryTools plan).all fun toolName =>
    decide (toolName ∈ priorCalls.map ToolCall.toolName)

def primarySucceeded (plan : RoutePlan) (priorCalls : List ToolCall) : Bool :=
  priorCalls.any fun call =>
    decide (call.toolName ∈ primaryTools plan) && call.result.foundEvidence

/-- The conditions that hold when the primary steps were not enough. -/
def insufficientConditions : List String :=
  ["anchor_evidence_insufficient", "plan_anchor_insufficient", "exact_current_record_absent"]

def fallbackApplies (condition : String) (primarySucceeded : Bool) :
    Except ControllerError Bool :=
  if condition ∈ insufficientConditions then pure !primarySucceeded
  else if condition = "hierarchy_scope_resolved" then pure primarySucceeded
  else throw (.valueError ("unregistered route fallback condition: " ++ condition))

def poolAllowed (need : Stage1MemoryNeed) (channel : RetrievalChannel) : Bool :=
  (poolByChannel channel).any fun pool => decide (pool ∈ need.allowedCandidatePools)

/-- The readable identity of a route step, or a digest of it when it is long. -/
def actionId (needId stepId : StableId) : String :=
  let seed := "action." ++ needId.root ++ "." ++ stepId.root
  if seed.toList.length < 128 then seed
  else "action." ++ (HexToken.ofDigest 16 HexToken.sixteen_le seed).text

/-- Validate an identity that is glued together. -/
def checkedId (text : String) : Except ControllerError StableId :=
  match StableId.ofString? text with
  | some id => pure id
  | none => throw (.valueError ("invalid identity: " ++ text))

namespace LegalActionProvider

variable (provider : LegalActionProvider)

/-- The action of one step, unless it is not allowed or was called. -/
def stepAction (need : Stage1MemoryNeed) (called : List (StableId × String))
    (phase : ControllerActionPhase) (fallbackCondition : Option String) (step : RouteStep) :
    Except ControllerError (Option RegisteredControllerAction) :=
  match toolByChannel step.channel with
  | none => pure none
  | some toolName =>
    if toolName ∉ provider.toolPolicy.allowedTools then pure none
    else if poolAllowed need step.channel = false then pure none
    else if (need.needId, toolName) ∈ called then pure none
    else do
      let id ← checkedId (actionId need.needId step.stepId)
      pure (some {
        actionId := id
        needId := need.needId
        routeStepId := some step.stepId
        toolName := toolName
        retrievalChannel := step.channel
        requirement := need.requirement
        phase := phase
        fallbackCondition := fallbackCondition
        queryIntent := need.queryIntent })

def stepActions (need : Stage1MemoryNeed) (called : List (StableId × String))
    (phase : ControllerActionPhase) (fallbackCondition : Option String) (steps : List RouteStep) :
    Except ControllerError (List RegisteredControllerAction) := do
  let actions ← steps.mapM (provider.stepAction need called phase fallbackCondition)
  pure actions.reduceOption

/-- The action of one tool for a need without a route. -/
def poolAction (need : Stage1MemoryNeed) (called : List (StableId × String)) (toolName : String) :
    Except ControllerError (Option RegisteredControllerAction) :=
  match channelByTool toolName with
  | none => pure none
  | some channel =>
    if poolAllowed need channel = false then pure none
    else if (need.needId, toolName) ∈ called then pure none
    else do
      let id ← checkedId ("action." ++ need.needId.root ++ "." ++ toolName)
      pure (some {
        actionId := id
        needId := need.needId
        routeStepId := none
        toolName := toolName
        retrievalChannel := channel
        requirement := need.requirement
        phase := .primary
        fallbackCondition := none
        queryIntent := need.queryIntent })

/-- The actions for a need without a route: every allowed tool of its pools. -/
def poolActions (need : Stage1MemoryNeed) (called : List (StableId × String)) :
    Except ControllerError (List RegisteredControllerAction) := do
  let actions ← provider.toolPolicy.allowedTools.mapM (poolAction need called)
  pure actions.reduceOption

/-- The condition of a fallback, which is only looked at once the primary steps are exhausted. -/
def conditionHolds (exhausted : Bool) (condition : String) (succeeded : Bool) :
    Except ControllerError Bool :=
  if exhausted then fallbackApplies condition succeeded else pure false

def fallbackActions (need : Stage1MemoryNeed) (called : List (StableId × String))
    (exhausted succeeded includeInactive : Bool) (fallback : ConditionalFallback) :
    Except ControllerError (List RegisteredControllerAction) := do
  let applies ← conditionHolds exhausted fallback.condition succeeded
  if !applies && !includeInactive then pure []
  else provider.stepActions need called .fallback (some fallback.condition) fallback.steps

def actionsForNeed (need : Stage1MemoryNeed) (priorCalls : List ToolCall)
    (called : List (StableId × String)) (includeInactive : Bool) :
    Except ControllerError (List RegisteredControllerAction) :=
  match planFor provider.routePlans need.needId with
  | none => provider.poolActions need called
  | some plan => do
      let mandatory ← provider.stepActions need called .mandatory none plan.mandatorySteps
      let primary ← provider.stepActions need called .primary none
        (plan.primaryGroups.flatMap RouteStepGroup.steps)
      let fallbacks ← plan.conditionalFallbacks.mapM
        (provider.fallbackActions need called (primaryExhausted plan priorCalls)
          (primarySucceeded plan priorCalls) includeInactive)
      pure (mandatory ++ primary ++ fallbacks.flatten)

def accessibleNeeds (request : MemoryResolutionRequest) : List Stage1MemoryNeed :=
  request.initialMemoryNeeds.filter fun need =>
    needIsAccessible need request.accessScope.value request.allowFuturePlan

/-- What a controller may do after the calls made so far. -/
def availableActions (request : MemoryResolutionRequest) (priorCalls : List ToolCall)
    (includeInactive : Bool) : Except ControllerError (List RegisteredControllerAction) := do
  let actions ← (accessibleNeeds request).mapM fun need =>
    provider.actionsForNeed need (callsFor need.needId priorCalls)
      (priorCalls.map ToolCall.pair) includeInactive
  pure actions.flatten

/-- The channels that the open actions of each need search. A later need of the
    same identity takes the place of an earlier one. -/
def activeChannelsByNeed (needs : List Stage1MemoryNeed) (priorCalls : List ToolCall) :
    Except ControllerError (List (StableId × List RetrievalChannel)) := do
  let channels ← needs.mapM fun need => do
    let actions ← provider.actionsForNeed need (callsFor need.needId priorCalls)
      (priorCalls.map ToolCall.pair) false
    pure (need.needId, (actions.map RegisteredControllerAction.retrievalChannel).eraseDups)
  pure (channels.filter fun entry => entry.2 ≠ []).reverse

/-- Check that every offered action searches a channel of its need. -/
def assertConsistency (request : MemoryResolutionRequest) (priorCalls : List ToolCall) :
    Except ControllerError Unit := do
  let actions ← provider.availableActions request priorCalls false
  let channels ← provider.activeChannelsByNeed request.initialMemoryNeeds priorCalls
  actions.forM fun action =>
    if action.retrievalChannel ∈ (channels.lookup action.needId).getD [] then pure ()
    else throw (.valueError ("legal action provider inconsistency: " ++ action.actionId.root ++
      " not adapter-executable"))

end LegalActionProvider

/-- A channel that a need may still search. -/
def Offered (policy : ToolPolicy) (need : Stage1MemoryNeed) (called : List (StableId × String))
    (channel : RetrievalChannel) (toolName : String) : Prop :=
  toolByChannel channel = some toolName ∧ toolName ∈ policy.allowedTools ∧
    poolAllowed need channel = true ∧ (need.needId, toolName) ∉ called

def ConditionsRegistered (plan : RoutePlan) : Prop :=
  ∀ fallback ∈ plan.conditionalFallbacks,
    fallback.condition ∈ insufficientConditions ∨ fallback.condition = "hierarchy_scope_resolved"

instance (plan : RoutePlan) : Decidable (ConditionsRegistered plan) :=
  inferInstanceAs (Decidable (∀ _ ∈ _, _))

theorem hierarchy_not_insufficient : "hierarchy_scope_resolved" ∉ insufficientConditions := by
  decide

theorem fallbackApplies_eq_ok (condition : String) (succeeded applies : Bool) :
    fallbackApplies condition succeeded = .ok applies ↔
      (condition ∈ insufficientConditions ∧ applies = !succeeded) ∨
        (condition = "hierarchy_scope_resolved" ∧ applies = succeeded) := by
  unfold fallbackApplies
  by_cases hinsufficient : condition ∈ insufficientConditions
  · have hne : condition ≠ "hierarchy_scope_resolved" := by
      intro heq
      exact hierarchy_not_insufficient (heq ▸ hinsufficient)
    simp [hinsufficient, hne, pure, Except.pure, eq_comm]
  · by_cases hhierarchy : condition = "hierarchy_scope_resolved"
    · simp [hhierarchy, hierarchy_not_insufficient, pure, Except.pure, eq_comm]
    · simp [hinsufficient, hhierarchy, throw, throwThe, MonadExceptOf.throw]

theorem all_isIdChar (id : StableId) : id.root.toList.all isIdChar = true := by
  have hvalid := id.valid
  unfold isStableId at hvalid
  cases hchars : id.root.toList with
  | nil => rfl
  | cons c rest =>
    rw [hchars] at hvalid
    simp only [isStableIdChars, Bool.and_eq_true] at hvalid
    have hfirst : isIdChar c = true := by simp [isIdChar, hvalid.1.1]
    rw [all_cons, hfirst, hvalid.1.2, Bool.and_true]

/-- The identity of a route step is valid. -/
theorem isStableId_actionId (needId stepId : StableId) :
    isStableId (actionId needId stepId) = true := by
  unfold actionId
  by_cases hshort : ("action." ++ needId.root ++ "." ++ stepId.root).toList.length < 128
  · rw [if_pos hshort]
    have hhead : "action.".toList = 'a' :: "ction.".toList := by decide
    have hcharacters : isAlnum 'a' = true ∧ "ction.".toList.all isIdChar = true ∧
        ".".toList.all isIdChar = true := by decide
    simp only [String.toList_append, hhead, cons_append, length_cons] at hshort
    simp only [isStableId, String.toList_append, hhead, cons_append, isStableIdChars,
      all_append, hcharacters, all_isIdChar, Bool.true_and, Bool.and_true,
      decide_eq_true_eq]
    omega
  · rw [if_neg hshort]
    exact isStableId_append_token "action." _ (by decide) (by decide)

theorem checkedId_eq_ok (text : String) (id : StableId) :
    checkedId text = .ok id ↔ id.root = text := by
  unfold checkedId
  cases h : StableId.ofString? text with
  | none =>
    have hnone : id.root ≠ text := by
      intro hroot
      rw [← StableId.ofString?_eq_some, h] at hroot
      exact absurd hroot (by simp)
    simp [hnone, throw, throwThe, MonadExceptOf.throw]
  | some found =>
    rw [← StableId.ofString?_eq_some, h]
    simp [pure, Except.pure]

/-- An action of the list is for the need and the tool. -/
def Lists (actions : List RegisteredControllerAction) (pair : StableId × String) : Prop :=
  pair ∈ actions.map RegisteredControllerAction.pair

namespace LegalActionProvider

variable (provider : LegalActionProvider) (need : Stage1MemoryNeed)
  (called : List (StableId × String)) (phase : ControllerActionPhase)
  (fallbackCondition : Option String)

theorem stepAction_ok (step : RouteStep) :
    ∃ answer, provider.stepAction need called phase fallbackCondition step = .ok answer ∧
      ∀ pair, (∃ action ∈ answer, action.pair = pair) ↔
        pair.1 = need.needId ∧ Offered provider.toolPolicy need called step.channel pair.2 := by
  unfold stepAction Offered
  cases htool : toolByChannel step.channel with
  | none => exact ⟨none, rfl, by simp⟩
  | some toolName =>
    have hnames : ∀ pair : StableId × String, some toolName = some pair.2 ↔ toolName = pair.2 :=
      fun pair => Option.some_inj
    by_cases hallowed : toolName ∈ provider.toolPolicy.allowedTools
    · by_cases hpool : poolAllowed need step.channel = true
      · by_cases hcalled : (need.needId, toolName) ∈ called
        · refine ⟨none, by simp [hallowed, hpool, hcalled, pure, Except.pure], fun pair => ?_⟩
          simp only [hnames]
          constructor
          · rintro ⟨action, haction, _⟩
            exact absurd haction (by simp)
          · rintro ⟨_, rfl, _, _, hnot⟩
            exact absurd hcalled hnot
        · have hid := (checkedId_eq_ok (actionId need.needId step.stepId)
            ⟨_, isStableId_actionId need.needId step.stepId⟩).mpr rfl
          refine ⟨_, by simp [hallowed, hpool, hcalled, hid, bind, Except.bind, pure,
            Except.pure]; rfl, fun pair => ?_⟩
          simp only [hnames, Option.mem_def, Option.some.injEq, exists_eq_left',
            RegisteredControllerAction.pair]
          constructor
          · rintro rfl
            exact ⟨rfl, rfl, hallowed, hpool, hcalled⟩
          · rintro ⟨hneed, htoolName, _⟩
            exact Prod.ext hneed.symm htoolName
      · refine ⟨none, by simp [hallowed, hpool, pure, Except.pure], fun pair => ?_⟩
        simp [hpool]
    · refine ⟨none, by simp [hallowed, pure, Except.pure], fun pair => ?_⟩
      simp only [hnames]
      constructor
      · rintro ⟨action, haction, _⟩
        exact absurd haction (by simp)
      · rintro ⟨_, rfl, hmem, _⟩
        exact absurd hmem hallowed

/-- Which steps are offered. -/
theorem stepActions_ok (steps : List RouteStep) :
    ∃ actions, provider.stepActions need called phase fallbackCondition steps = .ok actions ∧
      ∀ pair, Lists actions pair ↔ pair.1 = need.needId ∧
        ∃ step ∈ steps, Offered provider.toolPolicy need called step.channel pair.2 := by
  have hreturns := (Outcome.mapM_returns
    (provider.stepAction need called phase fallbackCondition) steps).mpr fun step _ =>
      (provider.stepAction_ok need called phase fallbackCondition step).imp fun _ h => h.1
  rcases hreturns with ⟨answers, hanswers⟩
  refine ⟨answers.reduceOption, ?_, fun pair => ?_⟩
  · unfold stepActions
    rw [hanswers]
    rfl
  · unfold Lists
    simp only [mem_map, reduceOption_mem_iff, Outcome.mapM_mem hanswers]
    constructor
    · rintro ⟨action, ⟨step, hstep, hanswer⟩, hpair⟩
      rcases provider.stepAction_ok need called phase fallbackCondition step with
        ⟨answer, hok, hspec⟩
      rw [hanswer, Except.ok.injEq] at hok
      have := (hspec pair).mp ⟨action, hok ▸ rfl, hpair⟩
      exact ⟨this.1, step, hstep, this.2⟩
    · rintro ⟨hneed, step, hstep, hoffered⟩
      rcases provider.stepAction_ok need called phase fallbackCondition step with
        ⟨answer, hok, hspec⟩
      rcases (hspec pair).mpr ⟨hneed, hoffered⟩ with ⟨action, haction, hpair⟩
      exact ⟨action, ⟨step, hstep, by rw [hok, Option.mem_def.mp haction]⟩, hpair⟩

theorem poolAction_ok {toolName : String} {answer : Option RegisteredControllerAction}
    (h : poolAction need called toolName = .ok answer) (pair : StableId × String) :
    (∃ action ∈ answer, action.pair = pair) ↔
      pair = (need.needId, toolName) ∧ pair ∉ called ∧
        ∃ channel, toolByChannel channel = some toolName ∧ poolAllowed need channel = true := by
  unfold poolAction at h
  cases hchannel : channelByTool toolName with
  | none =>
    simp only [hchannel, Outcome.pure_eq_ok] at h
    have hnone : ∀ channel, toolByChannel channel ≠ some toolName := fun channel htool => by
      rw [(channelByTool_eq_some toolName channel).mpr htool] at hchannel
      exact absurd hchannel (by simp)
    simp [← h, hnone]
  | some channel =>
    have htool := (channelByTool_eq_some toolName channel).mp hchannel
    -- A tool searches one channel only.
    have hunique : ∀ other, toolByChannel other = some toolName → other = channel := by
      intro other hother
      rw [(channelByTool_eq_some toolName other).mpr hother] at hchannel
      exact Option.some.inj hchannel
    simp only [hchannel] at h
    by_cases hpool : poolAllowed need channel = true
    · by_cases hcalled : (need.needId, toolName) ∈ called
      · simp only [hpool, hcalled, Bool.true_eq_false, if_true, if_false,
          Outcome.pure_eq_ok] at h
        simp only [← h]
        constructor
        · rintro ⟨action, haction, _⟩
          exact absurd haction (by simp)
        · rintro ⟨rfl, hnot, _⟩
          exact absurd hcalled hnot
      · simp only [hpool, hcalled, Bool.true_eq_false, if_false, Outcome.bind_eq_ok,
          Outcome.pure_eq_ok] at h
        rcases h with ⟨id, _, hanswer⟩
        simp only [← hanswer, Option.mem_def, Option.some.injEq, exists_eq_left',
          RegisteredControllerAction.pair]
        constructor
        · rintro rfl
          exact ⟨rfl, hcalled, channel, htool, hpool⟩
        · rintro ⟨hpair, _⟩
          exact hpair.symm
    · simp only [hpool, if_true, Outcome.pure_eq_ok] at h
      simp only [← h]
      constructor
      · rintro ⟨action, haction, _⟩
        exact absurd haction (by simp)
      · rintro ⟨_, _, other, hother, hallowed⟩
        exact absurd (hunique other hother ▸ hallowed) hpool

variable {actions : List RegisteredControllerAction}

theorem poolActions_ok (h : provider.poolActions need called = .ok actions)
    (pair : StableId × String) :
    Lists actions pair ↔ pair.1 = need.needId ∧
      ∃ channel, Offered provider.toolPolicy need called channel pair.2 := by
  simp only [poolActions, Outcome.bind_eq_ok, Outcome.pure_eq_ok] at h
  rcases h with ⟨answers, hanswers, hactions⟩
  unfold Lists Offered
  simp only [← hactions, mem_map, reduceOption_mem_iff, Outcome.mapM_mem hanswers]
  constructor
  · rintro ⟨action, ⟨toolName, hallowed, hanswer⟩, hpair⟩
    rcases (poolAction_ok need called hanswer pair).mp ⟨action, rfl, hpair⟩ with
      ⟨rfl, hnot, channel, htool, hpool⟩
    exact ⟨rfl, channel, htool, hallowed, hpool, hnot⟩
  · rintro ⟨hneed, channel, htool, hallowed, hpool, hnot⟩
    have hreturns := (Outcome.mapM_returns (poolAction need called)
      provider.toolPolicy.allowedTools).mp ⟨answers, hanswers⟩ pair.2 hallowed
    rcases hreturns with ⟨answer, hanswer⟩
    have hpair : pair = (need.needId, pair.2) := Prod.ext hneed rfl
    rcases (poolAction_ok need called hanswer pair).mpr
      ⟨hpair, hpair ▸ hnot, channel, htool, hpool⟩ with ⟨action, haction, heq⟩
    exact ⟨action, ⟨pair.2, hallowed, by rw [hanswer, Option.mem_def.mp haction]⟩, heq⟩

/-- A fallback's steps are offered when its condition is looked at and holds. -/
def FallbackOffered (exhausted succeeded : Bool) (fallback : ConditionalFallback) : Prop :=
  exhausted = true ∧ fallbackApplies fallback.condition succeeded = .ok true

theorem fallbackActions_ok {exhausted succeeded : Bool} {fallback : ConditionalFallback}
    (h : provider.fallbackActions need called exhausted succeeded false fallback = .ok actions)
    (pair : StableId × String) :
    Lists actions pair ↔ FallbackOffered exhausted succeeded fallback ∧ pair.1 = need.needId ∧
      ∃ step ∈ fallback.steps, Offered provider.toolPolicy need called step.channel pair.2 := by
  simp only [fallbackActions, Outcome.bind_eq_ok] at h
  rcases h with ⟨applies, happlies, hactions⟩
  have hoffered : FallbackOffered exhausted succeeded fallback ↔ applies = true := by
    unfold FallbackOffered
    cases exhausted with
    | false => simpa [conditionHolds, pure, Except.pure] using happlies
    | true =>
      rw [conditionHolds, if_pos rfl] at happlies
      simp [happlies]
  rw [hoffered]
  cases applies with
  | false =>
    simp only [Bool.not_false, Bool.and_self, if_true, Outcome.pure_eq_ok] at hactions
    simp [Lists, ← hactions]
  | true =>
    simp only [Bool.not_true, Bool.false_and, Bool.false_eq_true, if_false] at hactions
    rcases provider.stepActions_ok need called .fallback (some fallback.condition)
      fallback.steps with ⟨found, hfound, hspec⟩
    rw [hactions, Except.ok.injEq] at hfound
    simp [hfound, hspec]

theorem fallbackActions_returns (exhausted succeeded : Bool) (fallback : ConditionalFallback) :
    (∃ actions,
        provider.fallbackActions need called exhausted succeeded false fallback = .ok actions) ↔
      (exhausted = true → fallback.condition ∈ insufficientConditions ∨
        fallback.condition = "hierarchy_scope_resolved") := by
  simp only [fallbackActions, Outcome.bind_eq_ok]
  constructor
  · rintro ⟨_, applies, happlies, _⟩ rfl
    rw [conditionHolds, if_pos rfl, fallbackApplies_eq_ok] at happlies
    exact happlies.imp (fun h => h.1) fun h => h.1
  · intro hregistered
    have happlies : ∃ applies,
        conditionHolds exhausted fallback.condition succeeded = .ok applies := by
      cases exhausted with
      | false => exact ⟨false, rfl⟩
      | true =>
        rw [conditionHolds, if_pos rfl]
        rcases hregistered rfl with h | h
        · exact ⟨!succeeded, (fallbackApplies_eq_ok _ _ _).mpr (Or.inl ⟨h, rfl⟩)⟩
        · exact ⟨succeeded, (fallbackApplies_eq_ok _ _ _).mpr (Or.inr ⟨h, rfl⟩)⟩
    rcases happlies with ⟨applies, happlies⟩
    cases applies with
    | false => exact ⟨[], false, happlies, rfl⟩
    | true =>
      rcases provider.stepActions_ok need called .fallback (some fallback.condition)
        fallback.steps with ⟨actions, hactions, _⟩
      exact ⟨actions, true, happlies, hactions⟩

variable {plan : RoutePlan} {priorCalls : List ToolCall}

/-- What is offered for a need with a route: a primary step, or the step of a
    fallback that applies. -/
theorem actionsForNeed_plan (hplan : planFor provider.routePlans need.needId = some plan)
    (h : provider.actionsForNeed need priorCalls called false = .ok actions)
    (pair : StableId × String) :
    Lists actions pair ↔ pair.1 = need.needId ∧
      ((∃ step ∈ plan.primarySteps,
          Offered provider.toolPolicy need called step.channel pair.2) ∨
        ∃ fallback ∈ plan.conditionalFallbacks,
          FallbackOffered (primaryExhausted plan priorCalls) (primarySucceeded plan priorCalls)
            fallback ∧
          ∃ step ∈ fallback.steps,
            Offered provider.toolPolicy need called step.channel pair.2) := by
  simp only [actionsForNeed, hplan, Outcome.bind_eq_ok, Outcome.pure_eq_ok] at h
  rcases h with ⟨mandatory, hmandatory, primary, hprimary, fallbacks, hfallbacks, hactions⟩
  rcases provider.stepActions_ok need called .mandatory none plan.mandatorySteps with
    ⟨found, hfound, hmandatorySpec⟩
  rw [hmandatory, Except.ok.injEq] at hfound
  rw [← hfound] at hmandatorySpec
  rcases provider.stepActions_ok need called .primary none
    (plan.primaryGroups.flatMap RouteStepGroup.steps) with ⟨found', hfound', hprimarySpec⟩
  rw [hprimary, Except.ok.injEq] at hfound'
  rw [← hfound'] at hprimarySpec
  have hfallback : Lists fallbacks.flatten pair ↔ ∃ fallback ∈ plan.conditionalFallbacks,
      FallbackOffered (primaryExhausted plan priorCalls) (primarySucceeded plan priorCalls)
        fallback ∧ pair.1 = need.needId ∧
        ∃ step ∈ fallback.steps,
          Offered provider.toolPolicy need called step.channel pair.2 := by
    unfold Lists
    simp only [mem_map, mem_flatten, Outcome.mapM_mem hfallbacks]
    constructor
    · rintro ⟨action, ⟨block, ⟨fallback, hmem, hblock⟩, haction⟩, hpair⟩
      have hlists : Lists block pair := mem_map.mpr ⟨action, haction, hpair⟩
      exact ⟨fallback, hmem, (provider.fallbackActions_ok need called hblock pair).mp hlists⟩
    · rintro ⟨fallback, hmem, hoffered⟩
      have hreturns := (Outcome.mapM_returns _ _).mp ⟨fallbacks, hfallbacks⟩ fallback hmem
      rcases hreturns with ⟨block, hblock⟩
      rcases mem_map.mp ((provider.fallbackActions_ok need called hblock pair).mpr hoffered)
        with ⟨action, haction, hpair⟩
      exact ⟨action, ⟨block, ⟨fallback, hmem, hblock⟩, haction⟩, hpair⟩
  have hsplit : Lists actions pair ↔
      Lists mandatory pair ∨ Lists primary pair ∨ Lists fallbacks.flatten pair := by
    simp only [Lists, ← hactions, map_append, mem_append, or_assoc]
  rw [hsplit, hmandatorySpec, hprimarySpec, hfallback]
  unfold RoutePlan.primarySteps
  constructor
  · rintro (⟨hneed, step, hstep, hoffered⟩ | ⟨hneed, step, hstep, hoffered⟩ |
      ⟨fallback, hmem, happlies, hneed, hoffered⟩)
    · exact ⟨hneed, Or.inl ⟨step, mem_append_left _ hstep, hoffered⟩⟩
    · exact ⟨hneed, Or.inl ⟨step, mem_append_right _ hstep, hoffered⟩⟩
    · exact ⟨hneed, Or.inr ⟨fallback, hmem, happlies, hoffered⟩⟩
  · rintro ⟨hneed, ⟨step, hstep, hoffered⟩ | ⟨fallback, hmem, happlies, hoffered⟩⟩
    · rcases mem_append.mp hstep with hstep | hstep
      · exact Or.inl ⟨hneed, step, hstep, hoffered⟩
      · exact Or.inr (Or.inl ⟨hneed, step, hstep, hoffered⟩)
    · exact Or.inr (Or.inr ⟨fallback, hmem, happlies, hneed, hoffered⟩)

/-- Without a route, what is offered searches the pools. -/
theorem actionsForNeed_pool (hplan : planFor provider.routePlans need.needId = none)
    (h : provider.actionsForNeed need priorCalls called false = .ok actions)
    (pair : StableId × String) :
    Lists actions pair ↔ pair.1 = need.needId ∧
      ∃ channel, Offered provider.toolPolicy need called channel pair.2 := by
  simp only [actionsForNeed, hplan] at h
  exact provider.poolActions_ok need called h pair

/-- The registry returns for a need with a route when every condition that is
    looked at is registered. -/
theorem actionsForNeed_returns (hplan : planFor provider.routePlans need.needId = some plan) :
    (∃ actions, provider.actionsForNeed need priorCalls called false = .ok actions) ↔
      (primaryExhausted plan priorCalls = true → ConditionsRegistered plan) := by
  rcases provider.stepActions_ok need called .mandatory none plan.mandatorySteps with
    ⟨mandatory, hmandatory, _⟩
  rcases provider.stepActions_ok need called .primary none
    (plan.primaryGroups.flatMap RouteStepGroup.steps) with ⟨primary, hprimary, _⟩
  have hfallbacks := Outcome.mapM_returns
    (provider.fallbackActions need called (primaryExhausted plan priorCalls)
      (primarySucceeded plan priorCalls) false) plan.conditionalFallbacks
  simp only [fallbackActions_returns] at hfallbacks
  have hconditions : (∀ fallback ∈ plan.conditionalFallbacks,
      primaryExhausted plan priorCalls = true → fallback.condition ∈ insufficientConditions ∨
        fallback.condition = "hierarchy_scope_resolved") ↔
      (primaryExhausted plan priorCalls = true → ConditionsRegistered plan) :=
    ⟨fun h hexhausted fallback hmem => h fallback hmem hexhausted,
      fun h fallback hmem hexhausted => h hexhausted fallback hmem⟩
  rw [← hconditions, ← hfallbacks]
  simp only [actionsForNeed, hplan, Outcome.bind_eq_ok, Outcome.pure_eq_ok]
  constructor
  · rintro ⟨_, _, _, _, _, fallbacks, hreturns, _⟩
    exact ⟨fallbacks, hreturns⟩
  · rintro ⟨fallbacks, hreturns⟩
    exact ⟨_, mandatory, hmandatory, primary, hprimary, fallbacks, hreturns, rfl⟩

variable {request : MemoryResolutionRequest}

/-- What is offered for a request is what is offered for its accessible needs. -/
theorem mem_availableActions
    (h : provider.availableActions request priorCalls false = .ok actions)
    (pair : StableId × String) :
    Lists actions pair ↔ ∃ need ∈ accessibleNeeds request, ∃ block,
      provider.actionsForNeed need (callsFor need.needId priorCalls)
        (priorCalls.map ToolCall.pair) false = .ok block ∧ Lists block pair := by
  simp only [availableActions, Outcome.bind_eq_ok, Outcome.pure_eq_ok] at h
  rcases h with ⟨blocks, hblocks, hactions⟩
  unfold Lists
  simp only [← hactions, mem_map, mem_flatten, Outcome.mapM_mem hblocks]
  constructor
  · rintro ⟨action, ⟨block, ⟨need, hneed, hblock⟩, haction⟩, hpair⟩
    exact ⟨need, hneed, block, hblock, action, haction, hpair⟩
  · rintro ⟨need, hneed, block, hblock, action, haction, hpair⟩
    exact ⟨action, ⟨block, ⟨need, hneed, hblock⟩, haction⟩, hpair⟩

variable {pair : StableId × String}

theorem offered_of_lists (h : provider.actionsForNeed need priorCalls called false = .ok actions)
    (hlists : Lists actions pair) :
    pair.1 = need.needId ∧ ∃ channel,
      Offered provider.toolPolicy need called channel pair.2 := by
  cases hplan : planFor provider.routePlans need.needId with
  | none => exact (provider.actionsForNeed_pool need _ hplan h pair).mp hlists
  | some plan =>
    rcases (provider.actionsForNeed_plan need _ hplan h pair).mp hlists with
      ⟨hneed, ⟨step, _, hoffered⟩ | ⟨_, _, _, step, _, hoffered⟩⟩
    · exact ⟨hneed, step.channel, hoffered⟩
    · exact ⟨hneed, step.channel, hoffered⟩

/-- What was called is not offered again. -/
theorem not_called_of_mem (h : provider.availableActions request priorCalls false = .ok actions)
    (hlists : Lists actions pair) : pair ∉ priorCalls.map ToolCall.pair := by
  rcases (provider.mem_availableActions h pair).mp hlists with ⟨need, _, block, hblock, hpair⟩
  rcases provider.offered_of_lists need _ hblock hpair with ⟨hneed, _, _, _, _, hnot⟩
  rw [← hneed] at hnot
  exact hnot

end LegalActionProvider

end NovelAgent.Retrieval
