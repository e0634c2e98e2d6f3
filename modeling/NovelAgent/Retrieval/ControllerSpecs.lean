import NovelAgent.Retrieval.Controller

/-!
# What the Nodes of the Controller Do

One lemma for each program of the controller, saying what it returns and what
it leaves behind. What the clock reads, what the policy answers and what a tool
returns is arbitrary throughout, so a lemma about a program that only reads the
clock says that nothing but the outside of the world has changed.
-/

namespace NovelAgent.Retrieval

open Core Domain
open Core.Session (Ensures)

/-- An action for the pair is legal after the calls made so far. -/
def Offers (provider : LegalActionProvider) (request : MemoryResolutionRequest)
    (calls : List ToolCall) (pair : StableId × String) : Prop :=
  ∃ actions, provider.availableActions request calls false = .ok actions ∧ Lists actions pair

section Offers

variable {provider : LegalActionProvider} {request : MemoryResolutionRequest}
  {calls : List ToolCall} {pair : StableId × String}

theorem Offers.not_called (h : Offers provider request calls pair) :
    pair ∉ calls.map ToolCall.pair := by
  rcases h with ⟨actions, hactions, hlists⟩
  exact provider.not_called_of_mem hactions hlists

theorem Offers.known (h : Offers provider request calls pair) :
    pair.1 ∈ request.initialMemoryNeeds.map Stage1MemoryNeed.needId ∧
      pair.2 ∈ provider.toolPolicy.allowedTools ∧ (channelByTool pair.2).isSome = true := by
  rcases h with ⟨actions, hactions, hlists⟩
  rcases (provider.mem_availableActions hactions pair).mp hlists with
    ⟨need, hneed, block, hblock, hpair⟩
  have hmem : need ∈ request.initialMemoryNeeds := (List.mem_filter.mp hneed).1
  rcases provider.offered_of_lists need _ hblock hpair with
    ⟨hid, channel, htool, hallowed, _, _⟩
  refine ⟨List.mem_map.mpr ⟨need, hmem, hid.symm⟩, hallowed, ?_⟩
  rw [(channelByTool_eq_some pair.2 channel).mpr htool]
  rfl

end Offers

/-- A policy that uses a model was asked as often as the budget counted, and within the limit. -/
def DecisionLaw {σ : Type} (c : Controller) (w : World σ) : Prop :=
  w.budget.maxDecisionModelCalls = c.maxDecisionModelCalls ∧
    (c.usesModel = true → w.consulted = w.budget.decisionModelCallsUsed ∧
      (w.consulted : Int) ≤ max 0 c.maxDecisionModelCalls)

/-- What a program that invokes no tool may change. -/
structure Quiet {σ : Type} (c : Controller) (w w' : World σ) : Prop where
  audit : w'.audit = w.audit
  law : DecisionLaw c w → DecisionLaw c w'
  /-- A run that need not stop may be told to because its budget is spent. -/
  terminal : w'.budget.terminalFailure = w.budget.terminalFailure ∨
    (w.budget.terminalFailure = none ∧ w'.budget.terminalFailure = some .budgetExhausted)

variable (invocation : ToolInvocation)

section Clock

variable {σ : Type} {env : Environment σ} {w : World σ} {E : ControllerError → World σ → Prop}

theorem ensures_clock {Q : ℚ → World σ → Prop}
    (h : ∀ now outside, Q now { w with outside := outside }) : Ensures env.clock Q E w :=
  h _ _

@[simp] theorem ensures_readBudget {Q : ControllerBudgetState → World σ → Prop} :
    Ensures Environment.readBudget Q E w ↔ Q w.budget w := Iff.rfl

variable {Q : Unit → World σ → Prop}

@[simp] theorem ensures_modifyBudget (change : ControllerBudgetState → ControllerBudgetState) :
    Ensures (Environment.modifyBudget change) Q E w ↔
      Q () { w with budget := change w.budget } := Iff.rfl

@[simp] theorem ensures_requested :
    Ensures (Environment.requested invocation) Q E w ↔
      Q () { w with audit := w.audit ++ [invocation] } := Iff.rfl

@[simp] theorem ensures_consult {Q : PolicyAnswer → World σ → Prop}
    (request : MemoryResolutionRequest) (calls : List ToolCall) :
    Ensures (env.consult request calls) Q E w ↔
      Q (env.policyDecide request calls w.outside).1
        { w with
          outside := (env.policyDecide request calls w.outside).2
          consulted := w.consulted + 1 } := Iff.rfl

theorem ensures_runHandler {Q : HandlerAnswer → World σ → Prop} {context : ToolCallContext}
    {invocation : ToolInvocation}
    (h : ∀ answer outside, Q answer { w with outside := outside }) :
    Ensures (env.runHandler context invocation) Q E w :=
  h _ _

@[simp] theorem ensures_ofExcept {α : Type} {Q : α → World σ → Prop}
    (x : Except ControllerError α) :
    Ensures (Session.ofExcept x) Q E w ↔
      (∀ a, x = .ok a → Q a w) ∧ ∀ e, x = .error e → E e w := by
  cases x <;> simp [Session.ofExcept]

theorem ensures_wallClockExhausted {Q : Bool → World σ → Prop}
    (h : ∀ exhausted outside, Q exhausted { w with outside := outside }) :
    Ensures env.wallClockExhausted Q E w := by
  unfold Environment.wallClockExhausted
  simp only [Session.ensures_bind, ensures_readBudget]
  exact ensures_clock fun now outside => h _ outside

theorem ensures_canDecide {Q : Bool → World σ → Prop}
    (h : ∀ can outside, (can = true →
        (w.budget.decisionModelCallsUsed : Int) < w.budget.maxDecisionModelCalls) →
      Q can { w with outside := outside }) :
    Ensures env.canDecide Q E w := by
  unfold Environment.canDecide
  simp only [Session.ensures_bind, ensures_readBudget]
  by_cases hterminal : w.budget.terminalFailure.isSome = true
  · rw [if_pos hterminal]
    exact h false w.outside (by simp)
  · rw [if_neg hterminal, Session.ensures_bind]
    refine ensures_wallClockExhausted fun exhausted outside => ?_
    refine h _ outside fun hcan => ?_
    simp only [Bool.and_eq_true, decide_eq_true_eq] at hcan
    exact hcan.2

theorem ensures_canInvokeTool {Q : Bool → World σ → Prop}
    (h : ∀ can outside, Q can { w with outside := outside }) :
    Ensures env.canInvokeTool Q E w := by
  unfold Environment.canInvokeTool
  simp only [Session.ensures_bind, ensures_readBudget]
  by_cases hterminal : w.budget.terminalFailure.isSome = true
  · rw [if_pos hterminal]
    exact h false w.outside
  · rw [if_neg hterminal, Session.ensures_bind]
    exact ensures_wallClockExhausted fun exhausted outside => h _ outside

theorem ensures_mayContinue {Q : Bool → World σ → Prop}
    (h : ∀ may outside, Q may { w with outside := outside }) :
    Ensures env.mayContinue Q E w := by
  unfold Environment.mayContinue
  rw [Session.ensures_bind]
  refine ensures_wallClockExhausted fun exhausted outside => ?_
  cases exhausted with
  | true => exact h false outside
  | false => exact ensures_canInvokeTool fun can outside' => h can outside'

theorem ensures_toolBudgetExhausted {Q : Bool → World σ → Prop}
    (h : ∀ exhausted outside, Q exhausted { w with outside := outside }) :
    Ensures env.toolBudgetExhausted Q E w := by
  unfold Environment.toolBudgetExhausted
  simp only [Session.ensures_bind, ensures_readBudget]
  by_cases hcalls : w.budget.toolBudget.maxCalls ≤ w.budget.toolBudget.callsUsed
  · rw [if_pos hcalls]
    exact h true w.outside
  · rw [if_neg hcalls, Session.ensures_bind]
    exact ensures_clock fun now outside => h _ outside

end Clock

section Quiet

variable {σ : Type} {c : Controller} {w w' w'' : World σ}

theorem Quiet.outside (w : World σ) (outside : σ) : Quiet c w { w with outside := outside } :=
  ⟨rfl, fun h => h, Or.inl rfl⟩

theorem Quiet.trans (h : Quiet c w w') (h' : Quiet c w' w'') : Quiet c w w'' := by
  refine ⟨h'.audit.trans h.audit, fun law => h'.law (h.law law), ?_⟩
  rcases h.terminal with hsame | ⟨hnone, hspent⟩
  · have hlater := h'.terminal
    rw [hsame] at hlater
    exact hlater
  · rcases h'.terminal with hsame' | ⟨hnone', _⟩
    · exact Or.inr ⟨hnone, hsame'.trans hspent⟩
    · exact absurd (hnone'.symm.trans hspent) (by simp)

theorem Quiet.markTerminal (w : World σ) (h : w.budget.terminalFailure = none) :
    Quiet c w { w with budget := w.budget.markTerminal .budgetExhausted } :=
  ⟨rfl, fun law => law, Or.inr ⟨h, rfl⟩⟩

theorem Quiet.was_none (h : Quiet c w w') (hnone : w'.budget.terminalFailure = none) :
    w.budget.terminalFailure = none := by
  rcases h.terminal with hsame | ⟨hnone', _⟩
  · exact hsame.symm.trans hnone
  · exact hnone'

end Quiet

/-- A pair is bound that is offered now, within the limit on calls. -/
structure Bound (c : Controller) (state : ControllerGraphState) (needId : StableId)
    (toolName : String) : Prop where
  need : state.pendingNeedId = some needId
  tool : state.pendingTool = some toolName
  offered : Offers c.legalActions state.request state.toolCalls (needId, toolName)
  within : state.toolCalls.length < c.trustedCallLimit state.request

/-- The policy decided to block, or on a call that is not offered. -/
def Refused {σ : Type} (c : Controller) (env : Environment σ) (state : ControllerGraphState) :
    Prop :=
  ∃ outside decision,
    Controller.decisionOf (env.policyDecide state.request state.toolCalls outside).1 =
      .ok decision ∧
    ((∃ rationale, decision = .stop .accessBlocked rationale) ∨
      ∃ needId toolName rationale, decision = .callTool needId toolName rationale ∧
        ¬ Offers c.legalActions state.request state.toolCalls (needId, toolName))

/-- What deciding returns from a run that need not stop yet: a state that has stopped, for blocked
    access only when the policy was refused, or one with a bound pair. -/
structure Decided {σ : Type} (c : Controller) (env : Environment σ)
    (state state' : ControllerGraphState) : Prop where
  request : state'.request = state.request
  calls : state'.toolCalls = state.toolCalls
  outcome : (state'.stopped = true ∧
      (state'.stopReason = some .accessBlocked → Refused c env state)) ∨
    (state'.stopped = false ∧ state'.stopReason = state.stopReason ∧
      ∃ needId toolName, Bound c state' needId toolName)

variable {needId : StableId} {toolName : String}

section Decided

variable {σ : Type} {c : Controller} {env : Environment σ} {state : ControllerGraphState}

variable (decisions : List ControllerPolicyDecision)

theorem Decided.stop {reason : ControllerStopReason}
    (h : reason = .accessBlocked → Refused c env state) :
    Decided c env state (Controller.stopState state decisions reason) :=
  ⟨rfl, rfl, Or.inl ⟨rfl, fun hreason => h (Option.some.inj hreason)⟩⟩

theorem Decided.bind (pendingActionIds : List StableId)
    (hoffered : Offers c.legalActions state.request state.toolCalls (needId, toolName))
    (hwithin : state.toolCalls.length < c.trustedCallLimit state.request) :
    Decided c env state
      (Controller.bindAction state decisions needId toolName pendingActionIds) :=
  ⟨rfl, rfl, Or.inr ⟨rfl, rfl, needId, toolName, rfl, rfl, hoffered, hwithin⟩⟩

theorem Decided.of_eq {state₁ state' : ControllerGraphState}
    (h : Decided c env state₁ state') (hrequest : state₁.request = state.request)
    (hcalls : state₁.toolCalls = state.toolCalls)
    (hreason : state₁.stopReason = state.stopReason) : Decided c env state state' := by
  refine ⟨h.request.trans hrequest, h.calls.trans hcalls, ?_⟩
  have houtcome := h.outcome
  unfold Refused at houtcome ⊢
  rw [hrequest, hcalls, hreason] at houtcome
  exact houtcome

end Decided

namespace Controller

variable {σ : Type} {c : Controller} {env : Environment σ}

theorem registeredAction_offers {request : MemoryResolutionRequest} {calls : List ToolCall}
    {actions : List RegisteredControllerAction} {id : StableId}
    {action : RegisteredControllerAction}
    (hactions : c.legalActions.availableActions request calls false = .ok actions)
    (h : registeredAction actions id = some action) :
    Offers c.legalActions request calls (action.needId, action.toolName) :=
  ⟨actions, hactions,
    List.mem_map.mpr ⟨action, List.mem_reverse.mp (List.mem_of_find?_eq_some h), rfl⟩⟩

section Bind

variable {state : ControllerGraphState} {w : World σ} {P : World σ → Prop}
  (hwithin : state.toolCalls.length < c.trustedCallLimit state.request) (hw : P w)

include hwithin hw

theorem drainPending_ensures (actionId : StableId) (rest : List StableId) :
    Ensures (c.drainPending state actionId rest)
      (fun state' w' => Decided c env state state' ∧ P w') (fun _ w' => P w') w := by
  unfold drainPending
  rw [Session.ensures_bind, ensures_ofExcept]
  refine ⟨fun actions hactions => ?_, fun _ _ => hw⟩
  cases haction : registeredAction actions actionId with
  | none => exact ⟨Decided.stop _ (by simp), hw⟩
  | some action =>
    exact ⟨Decided.bind _ rest (registeredAction_offers hactions haction) hwithin, hw⟩

variable (decision : ControllerPolicyDecision)

theorem bindPlan_ensures (queued : List StableId) :
    Ensures (c.bindPlan state decision queued)
      (fun state' w' => Decided c env state state' ∧ P w') (fun _ w' => P w') w := by
  cases queued with
  | nil => exact ⟨Decided.stop _ (by simp), hw⟩
  | cons first rest =>
    unfold bindPlan
    rw [Session.ensures_bind, ensures_ofExcept]
    refine ⟨fun actions hactions => ?_, fun _ _ => hw⟩
    cases haction : registeredAction actions first with
    | none => exact ⟨Decided.stop _ (by simp), hw⟩
    | some action =>
      exact ⟨Decided.bind _ rest (registeredAction_offers hactions haction) hwithin, hw⟩

/-- A single call is bound or refused. The refusals for blocked access are of
    pairs that are not offered. -/
theorem bindCall_ensures (needId : StableId) (toolName : String)
    (hrefused : ¬ Offers c.legalActions state.request state.toolCalls (needId, toolName) →
      Refused c env state) :
    Ensures (c.bindCall state decision needId toolName)
      (fun state' w' => Decided c env state state' ∧ P w') (fun _ w' => P w') w := by
  unfold bindCall
  by_cases hknown : needId ∉ state.request.initialMemoryNeeds.map Stage1MemoryNeed.needId
  · rw [if_pos hknown]
    exact ⟨⟨rfl, rfl, Or.inl ⟨rfl, fun _ => hrefused fun h => hknown h.known.1⟩⟩, hw⟩
  · rw [if_neg hknown]
    by_cases hallowed :
        toolName ∉ c.toolPolicy.allowedTools ∨ (channelByTool toolName).isNone = true
    · rw [if_pos hallowed]
      refine ⟨⟨rfl, rfl, Or.inl ⟨rfl, fun _ => hrefused fun h => ?_⟩⟩, hw⟩
      rcases hallowed with hallowed | hchannel
      · exact hallowed h.known.2.1
      · have hsome := h.known.2.2
        rw [Option.isNone_iff_eq_none] at hchannel
        rw [hchannel] at hsome
        exact absurd hsome (by simp)
    · rw [if_neg hallowed]
      by_cases hcalled : (needId, toolName) ∈ state.toolCalls.map ToolCall.pair
      · rw [if_pos hcalled]
        exact ⟨⟨rfl, rfl, Or.inl ⟨rfl, fun h => absurd h (by simp)⟩⟩, hw⟩
      · rw [if_neg hcalled, Session.ensures_bind, ensures_ofExcept]
        refine ⟨fun actions hactions => ?_, fun _ _ => hw⟩
        by_cases hlegal : (needId, toolName) ∉ actions.map RegisteredControllerAction.pair
        · rw [if_pos hlegal]
          refine ⟨⟨rfl, rfl, Or.inl ⟨rfl, fun _ => hrefused fun h => ?_⟩⟩, hw⟩
          rcases h with ⟨found, hfound, hlists⟩
          rw [hactions, Except.ok.injEq] at hfound
          exact hlegal (hfound ▸ hlists)
        · rw [if_neg hlegal]
          exact ⟨Decided.bind _ [] ⟨actions, hactions, not_not.mp hlegal⟩ hwithin, hw⟩

theorem bindDecision_ensures {decision : ControllerPolicyDecision} {outside : σ}
    (hdecision : decisionOf (env.policyDecide state.request state.toolCalls outside).1 =
      .ok decision) :
    Ensures (c.bindDecision state decision)
      (fun state' w' => Decided c env state state' ∧ P w') (fun _ w' => P w') w := by
  cases decision with
  | stop reason rationale =>
    refine ⟨Decided.stop _ fun hreason => ?_, hw⟩
    exact ⟨outside, _, hdecision, Or.inl ⟨rationale, by rw [hreason]⟩⟩
  | executePlan queued rationale => exact bindPlan_ensures hwithin hw _ queued
  | callTool needId toolName rationale =>
    refine bindCall_ensures hwithin hw _ needId toolName fun hnot => ?_
    exact ⟨outside, _, hdecision, Or.inr ⟨needId, toolName, rationale, rfl, hnot⟩⟩

end Bind

theorem ensures_mayAsk {w : World σ} {Q : Bool → World σ → Prop}
    {E : ControllerError → World σ → Prop}
    (h : ∀ may outside, (may = true → c.usesModel = true →
        (w.budget.decisionModelCallsUsed : Int) < w.budget.maxDecisionModelCalls) →
      Q may { w with outside := outside }) :
    Ensures (c.mayAsk env) Q E w := by
  unfold mayAsk
  by_cases hmodel : c.usesModel = true
  · rw [if_pos hmodel]
    exact ensures_canDecide fun can outside hcan => h can outside fun hmay _ => hcan hmay
  · rw [if_neg hmodel]
    exact h true w.outside fun _ h => absurd h hmodel

theorem quiet_consulted (w : World σ) (outside : σ)
    (hroom : c.usesModel = true →
      (w.budget.decisionModelCallsUsed : Int) < w.budget.maxDecisionModelCalls) :
    Quiet c w { w with
      outside := outside
      budget := if c.usesModel then w.budget.recordDecisionCall else w.budget
      consulted := w.consulted + 1 } := by
  by_cases hmodel : c.usesModel = true
  · simp only [if_pos hmodel]
    refine ⟨rfl, fun law => ⟨law.1, fun _ => ?_⟩, Or.inl rfl⟩
    have hcount := (law.2 hmodel).1
    have hlimit := hroom hmodel
    rw [law.1, ← hcount] at hlimit
    refine ⟨congrArg (· + 1) hcount, ?_⟩
    have : ((w.consulted + 1 : Nat) : Int) ≤ c.maxDecisionModelCalls := by omega
    exact le_trans this (le_max_right 0 _)
  · simp only [if_neg hmodel]
    exact ⟨rfl, fun law => ⟨law.1, fun h => absurd h hmodel⟩, Or.inl rfl⟩

theorem askPolicy_ensures {state : ControllerGraphState} {w : World σ}
    (hwithin : state.toolCalls.length < c.trustedCallLimit state.request)
    (hopen : w.budget.terminalFailure = none) :
    Ensures (c.askPolicy env state)
      (fun state' w' => Decided c env state state' ∧ Quiet c w w') (fun _ w' => Quiet c w w') w := by
  unfold askPolicy
  rw [Session.ensures_bind]
  refine ensures_mayAsk fun may outside hroom => ?_
  have htime : Quiet c w { w with outside := outside } := Quiet.outside w outside
  cases may with
  | false =>
    simp only [Bool.not_false, if_true, Session.ensures_bind, ensures_modifyBudget]
    exact ⟨Decided.stop _ (by simp), htime.trans (Quiet.markTerminal _ hopen)⟩
  | true =>
    simp only [Bool.not_true, Bool.false_eq_true, if_false, Session.ensures_bind,
      ensures_modifyBudget]
    -- The answer is counted before it is looked at.
    have hasked := htime.trans (quiet_consulted (c := c) { w with outside := outside }
      (env.policyDecide state.request state.toolCalls outside).2 (hroom rfl))
    have hstill : (if c.usesModel then w.budget.recordDecisionCall
        else w.budget).terminalFailure = none := by
      split
      · exact hopen
      · exact hopen
    rw [ensures_consult, ensures_ofExcept]
    refine ⟨fun decision hdecision => ?_, fun _ _ => hasked⟩
    refine ensures_wallClockExhausted fun late outside' => ?_
    have hlate := hasked.trans (Quiet.outside _ outside')
    simp only [ensures_readBudget]
    cases late with
    | true =>
      simp only [if_true, Session.ensures_bind, ensures_modifyBudget]
      exact ⟨(@Decided.stop σ c env _ _ .budgetExhausted (by simp)).of_eq rfl rfl rfl,
        hlate.trans (Quiet.markTerminal _ hstill)⟩
    | false =>
      simp only [Bool.false_eq_true, if_false]
      -- The count of decisions is the only thing that is new in the state.
      have hbind := @bindDecision_ensures σ c env
        { state with decisionModelCalls :=
            (if c.usesModel then w.budget.recordDecisionCall
              else w.budget).decisionModelCallsUsed } _ (Quiet c w) hwithin hlate decision
        outside hdecision
      refine hbind.mono ?_ fun _ _ h => h
      exact fun state' w' h => ⟨h.1.of_eq rfl rfl rfl, h.2⟩

variable (c env) in
/-- What deciding returns: the run stops for the reason it has to stop for, or
    the outcome of an open decision. -/
theorem decide_ensures (state : ControllerGraphState) (w : World σ) :
    Ensures (c.decide env state)
      (fun state' w' => Quiet c w w' ∧
        ((∃ reason, w.budget.terminalFailure = some reason ∧ state'.request = state.request ∧
            state'.toolCalls = state.toolCalls ∧ state'.stopped = true ∧
            state'.stopReason = some reason) ∨
          (w.budget.terminalFailure = none ∧ Decided c env state state')))
      (fun _ w' => Quiet c w w') w := by
  unfold decide
  rw [Session.ensures_bind, ensures_readBudget]
  cases hterminal : w.budget.terminalFailure with
  | some reason =>
    exact ⟨Quiet.outside w w.outside, Or.inl ⟨reason, rfl, rfl, rfl, rfl, rfl⟩⟩
  | none =>
    rw [Session.ensures_bind]
    refine ensures_mayContinue fun may outside => ?_
    have htime : Quiet c w { w with outside := outside } := Quiet.outside w outside
    cases may with
    | false =>
      simp only [Bool.not_false, if_true, Session.ensures_bind, ensures_modifyBudget]
      exact ⟨htime.trans (Quiet.markTerminal _ hterminal),
        Or.inr ⟨trivial, Decided.stop _ (by simp)⟩⟩
    | true =>
      simp only [Bool.not_true, Bool.false_eq_true, if_false]
      by_cases hspent : c.trustedCallLimit state.request ≤ state.toolCalls.length
      · rw [if_pos hspent]
        exact ⟨htime, Or.inr ⟨trivial, Decided.stop _ (by simp)⟩⟩
      · rw [if_neg hspent]
        have hwithin := Nat.lt_of_not_le hspent
        cases hpending : state.pendingActionIds with
        | cons actionId rest =>
          refine Ensures.mono (Q := fun state' w' =>
              Decided c env state state' ∧ Quiet c w w')
            (drainPending_ensures hwithin htime actionId rest) ?_ fun _ _ h => h
          exact fun state' w' h => ⟨h.2, Or.inr ⟨trivial, h.1⟩⟩
        | nil =>
          have hask := @askPolicy_ensures σ c env state { w with outside := outside }
            hwithin hterminal
          refine hask.mono ?_ fun _ _ h => htime.trans h
          exact fun state' w' h => ⟨htime.trans h.2, Or.inr ⟨trivial, h.1⟩⟩

end Controller

/-- The books other than the audit, and why the run has to stop, are as they were. -/
structure Steady {σ : Type} (w w' : World σ) : Prop where
  consulted : w'.consulted = w.consulted
  limit : w'.budget.maxDecisionModelCalls = w.budget.maxDecisionModelCalls
  used : w'.budget.decisionModelCallsUsed = w.budget.decisionModelCallsUsed
  terminal : w'.budget.terminalFailure = w.budget.terminalFailure

theorem Steady.law {σ : Type} {c : Controller} {w w' : World σ} (h : Steady w w')
    (law : DecisionLaw c w) : DecisionLaw c w' := by
  unfold DecisionLaw
  rw [h.consulted, h.limit, h.used]
  exact law

/-- The invocation was reported, and nothing else of the books has changed. -/
def Reported {σ : Type} (invocation : ToolInvocation) (w w' : World σ) : Prop :=
  w'.audit = w.audit ++ [invocation] ∧ Steady w w'

namespace Controller

variable {σ : Type} {c : Controller} {env : Environment σ}

/-- What the tool binding returns and leaves behind. -/
theorem invoke_ensures (context : ToolCallContext) (w : World σ) :
    Ensures (c.invoke env invocation context) (fun _ w' => Reported invocation w w')
      (fun _ w' => Reported invocation w w') w := by
  -- Only the clock's state and the count of tool calls differ on the ways out.
  have hways : ∀ outside used, Reported invocation w
      { w with
        outside := outside
        budget := { w.budget with toolBudget := { w.budget.toolBudget with callsUsed := used } }
        audit := w.audit ++ [invocation] } :=
    fun _ _ => ⟨rfl, rfl, rfl, rfl, rfl⟩
  have hidle : ∀ outside, Reported invocation w
      { w with outside := outside, audit := w.audit ++ [invocation] } :=
    fun outside => hways outside w.budget.toolBudget.callsUsed
  unfold invoke
  simp only [Session.ensures_bind, ensures_requested]
  by_cases hallowed : invocation.toolName ∉ c.bindingPolicy.allowedTools
  · rw [if_pos hallowed]
    exact hidle w.outside
  · rw [if_neg hallowed]
    by_cases hreadOnly : (!context.readOnly) = true
    · rw [if_pos hreadOnly]
      exact hidle w.outside
    · rw [if_neg hreadOnly, Session.ensures_bind]
      refine ensures_toolBudgetExhausted fun exhausted outside => ?_
      cases exhausted with
      | true => exact hidle outside
      | false =>
        simp only [Bool.false_eq_true, if_false, Session.ensures_bind, ensures_readBudget,
          ensures_modifyBudget]
        refine ensures_clock fun now outside => ?_
        split
        · exact hways outside _
        · rw [Session.ensures_bind]
          refine ensures_runHandler fun answer outside => ?_
          cases answer with
          | timedOut => exact hways outside _
          | unavailable => exact hways outside _
          | raises message => exact hways outside _
          | returned result =>
            by_cases hcall : result.toolCallId ≠ context.toolCallId
            · simp only [if_pos hcall]
              exact hways outside _
            · simp only [if_neg hcall]
              by_cases hbasis : result.basisCommit ≠ context.baseCommit
              · simp only [if_pos hbasis]
                exact hways outside _
              · simp only [if_neg hbasis]
                by_cases hsnapshot :
                    context.snapshotId.isSome ∧ result.snapshotId ≠ context.snapshotId
                · simp only [if_pos hsnapshot]
                  exact hways outside _
                · simp only [if_neg hsnapshot]
                  exact hways outside _

/-- What executing returns: the bound pair is recorded with an answer, after one
    invocation of it or after none because the run has to stop. -/
structure Executed (needId : StableId) (toolName : String) (state : ControllerGraphState)
    (w : World σ) (state' : ControllerGraphState) (w' : World σ) : Prop where
  request : state'.request = state.request
  reason : state'.stopReason = state.stopReason
  law : DecisionLaw c w → DecisionLaw c w'
  outcome : ∃ result, state'.toolCalls =
      state.toolCalls ++ [{ needId := needId, toolName := toolName, result := result }] ∧
    w'.budget.terminalFailure = (terminalReason result).or w.budget.terminalFailure ∧
    ((w'.audit = w.audit ∧ (terminalReason result).isSome = true) ∨
      ∃ invocation, invocation.pair = (needId, toolName) ∧ w'.audit = w.audit ++ [invocation])

/-- What an exception of executing leaves: at most one more invocation, of the bound pair. -/
structure Interrupted (needId : StableId) (toolName : String) (w w' : World σ) : Prop where
  law : DecisionLaw c w → DecisionLaw c w'
  audit : w'.audit = w.audit ∨
    ∃ invocation, invocation.pair = (needId, toolName) ∧ w'.audit = w.audit ++ [invocation]

variable (result : ToolResult) (backendExecuted : Bool) (budget : ControllerBudgetState)

theorem noteToolResult_terminal :
    (budget.noteToolResult result backendExecuted).terminalFailure =
      (terminalReason result).or budget.terminalFailure := by
  unfold ControllerBudgetState.noteToolResult
  by_cases hsucceeded : result.status = .succeeded
  · have hnone : terminalReason result = none := by rw [terminalReason, if_pos hsucceeded]
    simp [hsucceeded, hnone]
  · cases hreason : terminalReason result with
    | none => simp [hsucceeded]
    | some reason => simp [hsucceeded, ControllerBudgetState.markTerminal]

theorem noteToolResult_decisions :
    (budget.noteToolResult result backendExecuted).maxDecisionModelCalls =
        budget.maxDecisionModelCalls ∧
      (budget.noteToolResult result backendExecuted).decisionModelCallsUsed =
        budget.decisionModelCallsUsed := by
  unfold ControllerBudgetState.noteToolResult
  by_cases hsucceeded : result.status = .succeeded
  · simp [hsucceeded]
  · cases hreason : terminalReason result with
    | none => simp [hsucceeded]
    | some reason => simp [hsucceeded, ControllerBudgetState.markTerminal]

variable (env) in
/-- What executing returns and leaves behind. -/
theorem executeTool_ensures {state : ControllerGraphState}
    (hbound : Bound c state needId toolName) (w : World σ) :
    Ensures (c.executeTool env state)
      (fun state' w' => Executed (c := c) needId toolName state w state' w')
      (fun _ w' => Interrupted (c := c) needId toolName w w') w := by
  have hneed : pendingEntry "pending_need_id" state.pendingNeedId = .ok needId := by
    rw [hbound.need]
    rfl
  have htool : pendingEntry "pending_tool" state.pendingTool = .ok toolName := by
    rw [hbound.tool]
    rfl
  unfold executeTool
  simp only [Session.ensures_bind]
  refine ensures_mayContinue fun may outside => ?_
  cases may with
  | false =>
    simp only [Bool.not_false, if_true, Session.ensures_bind, ensures_modifyBudget,
      ensures_ofExcept, hneed, htool]
    refine ⟨fun toolCallId _ => ?_, fun _ _ => ⟨fun law => law, Or.inl rfl⟩⟩
    refine ⟨fun need hneed => ⟨fun tool htool => ?_, fun e he => absurd he (by simp)⟩,
      fun e he => absurd he (by simp)⟩
    rw [← Except.ok.inj hneed, ← Except.ok.inj htool]
    exact ⟨rfl, rfl, fun law => law, _, rfl, rfl, Or.inl ⟨rfl, rfl⟩⟩
  | true =>
    simp only [Bool.not_true, Bool.false_eq_true, if_false, Session.ensures_bind,
      ensures_readBudget]
    refine ensures_clock fun now outside => ?_
    simp only [ensures_modifyBudget, ensures_ofExcept, hneed, htool]
    refine ⟨fun toolCallId _ => ?_, fun _ _ => ⟨fun law => law, Or.inl rfl⟩⟩
    refine ⟨fun tool htool => ⟨fun need hneed => ?_, fun e he => absurd he (by simp)⟩,
      fun e he => absurd he (by simp)⟩
    rw [← Except.ok.inj hneed, ← Except.ok.inj htool]
    refine (invoke_ensures _ _ _).mono (fun result w' h => ?_) fun _ w' h => ?_
    · have hterminal : w'.budget.terminalFailure = w.budget.terminalFailure := h.2.terminal
      have hdecisions := noteToolResult_decisions
        { result with newInformationGain := newInformationGain state.toolCalls result }
        (result.status == .succeeded) w'.budget
      refine ⟨rfl, rfl, fun law => ?_, _, rfl, ?_, Or.inr ⟨_, rfl, h.1⟩⟩
      · have hlaw := h.2.law law
        exact ⟨hdecisions.1.trans hlaw.1, fun hmodel =>
          ⟨(hlaw.2 hmodel).1.trans hdecisions.2.symm, (hlaw.2 hmodel).2⟩⟩
      · rw [← hterminal]
        exact noteToolResult_terminal _ _ _
    · exact ⟨fun law => h.2.law law, Or.inr ⟨_, rfl, h.1⟩⟩

end Controller

end NovelAgent.Retrieval
