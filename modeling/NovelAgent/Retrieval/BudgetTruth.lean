import NovelAgent.Retrieval.ControllerSafety

/-!
# Budget Exhaustion

When a run that ends because its budget is exhausted would have gone on.
-/

namespace NovelAgent.Retrieval

open Core Domain Session

/-- The request with one more round and one more call. -/
def oneMore (request : MemoryResolutionRequest) : MemoryResolutionRequest :=
  { request with
    retrievalBudget :=
      { request.retrievalBudget with
        maxRounds := request.retrievalBudget.maxRounds + 1
        maxToolCalls := request.retrievalBudget.maxToolCalls + 1
        rounds_pos := Nat.succ_pos _
        calls_pos := Nat.succ_pos _ } }

def ControllerPolicyDecision.AsksForCall : ControllerPolicyDecision → Prop
  | .callTool _ _ _ => True
  | .executePlan pendingActionIds _ => pendingActionIds ≠ []
  | .stop _ _ => False

section Steps

variable {σ : Type} (c : Controller) (env : Environment σ)

/-- What is outside after the clock was read once. -/
def Environment.later (outside : σ) : σ := (env.monotonic outside).2

/-- What is outside when the policy is asked in a step: the clock was read for the tool
    budget, and once more for the budget of a model. -/
def askedAt (outside : σ) : σ :=
  let outside := env.later (env.later outside)
  if c.usesModel then env.later outside else outside

/-- One of the controller's own budgets is used up. -/
def BudgetSpent (state : ControllerGraphState) (w : World σ) : Prop :=
  w.budget.maxToolCalls ≤ w.budget.toolCallsUsed ∨
    c.trustedCallLimit state.request ≤ state.toolCalls.length ∨
    state.pendingActionIds = [] ∧ c.usesModel = true ∧
      w.budget.maxDecisionModelCalls ≤ w.budget.decisionModelCallsUsed

instance (state : ControllerGraphState) (w : World σ) : Decidable (BudgetSpent c state w) :=
  inferInstanceAs (Decidable (_ ∨ _ ∨ _ ∧ _ ∧ _))

/-- The policy's decision in a step, for a request that may differ from the run's. -/
def policySays (state : ControllerGraphState) (w : World σ) (request : MemoryResolutionRequest) :
    Except ControllerError ControllerPolicyDecision :=
  Controller.decisionOf
    (env.policyDecide request state.toolCalls (askedAt c env w.outside)).1

/-- No tool failed terminally before the step, and whenever the step reads the clock, the
    deadline is not reached. -/
structure Undisturbed (state : ControllerGraphState) (w : World σ) : Prop where
  terminal : w.budget.terminalFailure = none
  first : (env.monotonic w.outside).1 < w.budget.deadlineMonotonic
  second : (env.monotonic (env.later w.outside)).1 < w.budget.deadlineMonotonic
  third : c.usesModel = true →
    (env.monotonic (env.later (env.later w.outside))).1 < w.budget.deadlineMonotonic
  afterPolicy : ¬ BudgetSpent c state w → state.pendingActionIds = [] →
    (env.monotonic (env.policyDecide state.request state.toolCalls
      (askedAt c env w.outside)).2).1 < w.budget.deadlineMonotonic

/-- With one more call allowed the run would go on: an action that the policy planned is
    still legal, or else the policy asks for another call. -/
def WantsMore (state : ControllerGraphState) (w : World σ) : Prop :=
  match state.pendingActionIds with
  | actionId :: _ =>
    ∃ actions, c.legalActions.availableActions state.request state.toolCalls false =
      .ok actions ∧ (Controller.registeredAction actions actionId).isSome = true
  | [] => ∃ decision, policySays c env state w (oneMore state.request) = .ok decision ∧
      decision.AsksForCall

/-- If the step ends the run as exhausted, the run would have gone on with one more call. -/
def TruthfulEnd (config : Config σ) : Prop :=
  config.node = .decide → Undisturbed c env config.state config.world →
    (c.tick env config ()).node = .finish →
    (c.tick env config ()).state.stopReason = some .budgetExhausted →
    WantsMore c env config.state config.world

/-- The policy itself stops as exhausted. -/
def PolicyExhausted (state : ControllerGraphState) (w : World σ) : Prop :=
  state.pendingActionIds = [] ∧ ∃ rationale,
    policySays c env state w state.request = .ok (.stop .budgetExhausted rationale)

variable {c env} {state : ControllerGraphState} {w : World σ}

theorem wallClockExhausted_apply {w : World σ}
    (h : (env.monotonic w.outside).1 < w.budget.deadlineMonotonic) :
    env.wallClockExhausted w = (.ok false, { w with outside := env.later w.outside }) := by
  have hlate : decide (w.budget.deadlineMonotonic ≤ (env.monotonic w.outside).1) = false :=
    decide_eq_false (not_le.mpr h)
  rw [← hlate]
  rfl

section

variable (h : Undisturbed c env state w)

include h

theorem mayContinue_apply :
    env.mayContinue w = (.ok (decide (w.budget.toolCallsUsed < w.budget.maxToolCalls)),
      { w with outside := env.later (env.later w.outside) }) := by
  unfold Environment.mayContinue
  rw [bind_apply, wallClockExhausted_apply h.first]
  simp only [Bool.false_eq_true, if_false]
  unfold Environment.canInvokeTool
  rw [bind_apply]
  simp only [Environment.readBudget, h.terminal, Option.isSome_none, Bool.false_eq_true, if_false]
  rw [bind_apply, wallClockExhausted_apply h.second]
  rfl

theorem mayAsk_apply :
    c.mayAsk env { w with outside := env.later (env.later w.outside) } =
      (.ok (!c.usesModel || decide ((w.budget.decisionModelCallsUsed : Int) <
        w.budget.maxDecisionModelCalls)), { w with outside := askedAt c env w.outside }) := by
  unfold Controller.mayAsk askedAt
  cases hmodel : c.usesModel with
  | false => rfl
  | true =>
    simp only [if_true]
    unfold Environment.canDecide
    rw [bind_apply]
    simp only [Environment.readBudget, h.terminal, Option.isSome_none, Bool.false_eq_true,
      if_false]
    rw [bind_apply, wallClockExhausted_apply (h.third hmodel)]
    rfl

/-- What deciding comes to with a budget that is spent. -/
theorem decide_spent (hspent : BudgetSpent c state w) :
    ∃ rationale w', c.decide env state w =
      (.ok (Controller.stopFor state .budgetExhausted rationale), w') := by
  unfold Controller.decide
  rw [bind_apply]
  simp only [Environment.readBudget, h.terminal]
  rw [bind_apply, mayContinue_apply h]
  by_cases htools : w.budget.toolCallsUsed < w.budget.maxToolCalls
  · simp only [htools, decide_true, Bool.not_true, Bool.false_eq_true, if_false]
    by_cases hcalls : c.trustedCallLimit state.request ≤ state.toolCalls.length
    · rw [if_pos hcalls]
      exact ⟨_, _, rfl⟩
    · rcases hspent with hspent | hspent | ⟨hpending, hmodel, hdecisions⟩
      · omega
      · exact absurd hspent hcalls
      · rw [if_neg hcalls, hpending]
        simp only [Controller.askPolicy]
        rw [bind_apply, mayAsk_apply h]
        simp only [hmodel, Bool.not_true, Bool.false_or, not_lt.mpr hdecisions, decide_false,
          Bool.not_false, if_true]
        exact ⟨_, _, rfl⟩
  · simp only [htools, decide_false, Bool.not_false, if_true]
    exact ⟨_, _, rfl⟩

theorem decide_unspent (hspent : ¬ BudgetSpent c state w) :
    ∃ w', c.decide env state w =
      match state.pendingActionIds with
      | actionId :: rest => c.drainPending state actionId rest w'
      | [] => c.askPolicy env state { w with outside := env.later (env.later w.outside) } := by
  rw [BudgetSpent, not_or, not_or, not_le, not_le] at hspent
  refine ⟨{ w with outside := env.later (env.later w.outside) }, ?_⟩
  unfold Controller.decide
  rw [bind_apply]
  simp only [Environment.readBudget, h.terminal]
  rw [bind_apply, mayContinue_apply h]
  simp only [hspent.1, decide_true, Bool.not_true, Bool.false_eq_true, if_false,
    not_le.mpr hspent.2.1]
  cases state.pendingActionIds <;> rfl

theorem decide_asked (hspent : ¬ BudgetSpent c state w) (hpending : state.pendingActionIds = []) :
    ∃ w' calls, c.decide env state w =
      match policySays c env state w state.request with
      | .error error => (.error error, w')
      | .ok decision =>
        c.bindDecision { state with decisionModelCalls := calls } decision w' := by
  rcases decide_unspent h hspent with ⟨_, hdecide⟩
  have hask : c.decide env state w =
      c.askPolicy env state { w with outside := env.later (env.later w.outside) } := by
    rw [hdecide, hpending]
  have hmay : (!c.usesModel || decide ((w.budget.decisionModelCallsUsed : Int) <
      w.budget.maxDecisionModelCalls)) = true := by
    cases hmodel : c.usesModel with
    | false => rfl
    | true =>
      rw [BudgetSpent, not_or, not_or] at hspent
      simpa [hpending, hmodel] using hspent.2.2
  rw [hask, Controller.askPolicy, bind_apply, mayAsk_apply h, hmay]
  simp only [Bool.not_true, Bool.false_eq_true, if_false]
  rw [bind_apply]
  simp only [Environment.modifyBudget]
  rw [bind_apply]
  simp only [Environment.consult]
  rw [bind_apply, ofExcept_apply]
  cases hsaid : policySays c env state w state.request with
  | error error =>
    rw [policySays] at hsaid
    rw [hsaid]
    exact ⟨_, 0, rfl⟩
  | ok decision =>
    rw [policySays] at hsaid
    rw [hsaid]
    dsimp only
    rw [bind_apply, wallClockExhausted_apply]
    · exact ⟨_, _, rfl⟩
    · have hdeadline : (if c.usesModel = true then w.budget.recordDecisionCall
          else w.budget).deadlineMonotonic = w.budget.deadlineMonotonic := by
        split <;> rfl
      rw [hdeadline]
      exact h.afterPolicy hspent hpending

end

variable {state' : ControllerGraphState} {w' : World σ}

/-- Only a policy that stops as exhausted is bound to such an end. -/
theorem bindDecision_exhausted {decision : ControllerPolicyDecision}
    (h : c.bindDecision state decision w = (.ok state', w')) :
    state'.stopped = true ∧ state'.stopReason = some .budgetExhausted ↔
      ∃ rationale, decision = .stop .budgetExhausted rationale := by
  cases decision with
  | stop reason rationale =>
    rw [Controller.bindDecision, Session.pure_eq_ok] at h
    rw [← h.1]
    simp [Controller.stopState]
  | executePlan queued rationale =>
    cases queued with
    | nil =>
      rw [Controller.bindDecision, Controller.bindPlan, Session.pure_eq_ok] at h
      rw [← h.1]
      simp [Controller.stopState]
    | cons first rest =>
      simp only [Controller.bindDecision, Controller.bindPlan, Session.bind_eq_ok] at h
      rcases h with ⟨actions, _, _, h⟩
      cases hfound : Controller.registeredAction actions first with
      | none =>
        rw [hfound, Session.pure_eq_ok] at h
        rw [← h.1]
        simp [Controller.stopState]
      | some action =>
        rw [hfound, Session.pure_eq_ok] at h
        rw [← h.1]
        simp [Controller.bindAction]
  | callTool needId toolName rationale =>
    simp only [Controller.bindDecision, Controller.bindCall] at h
    split at h
    · rw [← (Session.pure_eq_ok.mp h).1]
      simp
    · split at h
      · rw [← (Session.pure_eq_ok.mp h).1]
        simp
      · split at h
        · rw [← (Session.pure_eq_ok.mp h).1]
          simp
        · rw [Session.bind_eq_ok] at h
          rcases h with ⟨actions, _, _, h⟩
          split at h
          · rw [← (Session.pure_eq_ok.mp h).1]
            simp
          · rw [← (Session.pure_eq_ok.mp h).1]
            simp [Controller.bindAction]

theorem drainPending_exhausted {actionId : StableId} {rest : List StableId}
    (h : c.drainPending state actionId rest w = (.ok state', w')) :
    ¬ (state'.stopped = true ∧ state'.stopReason = some .budgetExhausted) := by
  simp only [Controller.drainPending, Session.bind_eq_ok] at h
  rcases h with ⟨actions, _, _, h⟩
  cases hfound : Controller.registeredAction actions actionId with
  | none =>
    rw [hfound, Session.pure_eq_ok] at h
    rw [← h.1]
    simp [Controller.stopFor, Controller.stopState]
  | some action =>
    rw [hfound, Session.pure_eq_ok] at h
    rw [← h.1]
    simp [Controller.bindAction]

variable {config : Config σ}

theorem tick_finish (hnode : config.node = .decide) (reason : ControllerStopReason) :
    (c.tick env config ()).node = .finish ∧
        (c.tick env config ()).state.stopReason = some reason ↔
      ∃ state' w', c.decide env config.state config.world = (.ok state', w') ∧
        state'.stopped = true ∧ state'.stopReason = some reason := by
  unfold Controller.tick
  rw [hnode]
  rcases c.decide env config.state config.world with ⟨answer, w'⟩
  cases answer with
  | error error => simp [Controller.settle]
  | ok state' =>
    cases hstopped : state'.stopped with
    | false => simp [Controller.settle, Controller.routeAfterDecision, hstopped]
    | true => simp [Controller.settle, Controller.routeAfterDecision, hstopped]

/-- An undisturbed step ends the run as exhausted exactly when a budget of the controller is
    spent or the policy says so. -/
theorem exhausted_iff (hnode : config.node = .decide)
    (h : Undisturbed c env config.state config.world) :
    (c.tick env config ()).node = .finish ∧
        (c.tick env config ()).state.stopReason = some .budgetExhausted ↔
      BudgetSpent c config.state config.world ∨ PolicyExhausted c env config.state config.world := by
  rw [tick_finish hnode]
  by_cases hspent : BudgetSpent c config.state config.world
  · rcases decide_spent h hspent with ⟨rationale, w', hdecide⟩
    exact ⟨fun _ => .inl hspent, fun _ => ⟨_, w', hdecide, rfl, rfl⟩⟩
  · rw [or_iff_right hspent]
    cases hpending : config.state.pendingActionIds with
    | cons actionId rest =>
      rcases decide_unspent h hspent with ⟨w₁, hdecide⟩
      rw [hpending] at hdecide
      constructor
      · rintro ⟨state', w', heq, hends⟩
        exact absurd hends (drainPending_exhausted (hdecide.symm.trans heq))
      · rintro ⟨hnil, _⟩
        rw [hpending] at hnil
        exact absurd hnil (List.cons_ne_nil _ _)
    | nil =>
      rcases decide_asked h hspent hpending with ⟨w₁, calls, hdecide⟩
      cases hsaid : policySays c env config.state config.world config.state.request with
      | error error =>
        rw [hsaid] at hdecide
        simp [PolicyExhausted, hdecide, hsaid]
      | ok decision =>
        rw [hsaid] at hdecide
        constructor
        · rintro ⟨state', w', heq, hends⟩
          rcases (bindDecision_exhausted (hdecide.symm.trans heq)).mp hends with
            ⟨rationale, rfl⟩
          exact ⟨hpending, rationale, hsaid⟩
        · rintro ⟨_, rationale, hstop⟩
          rw [hsaid, Except.ok.injEq] at hstop
          rw [hstop] at hdecide
          exact ⟨_, w₁, hdecide, rfl, rfl⟩

end Steps

namespace Sample

def singleCall : MemoryResolutionRequest :=
  { request with
    retrievalBudget := ⟨1, 1, 20, 30000, Nat.one_pos, Nat.one_pos,
      request.retrievalBudget.candidates_pos, request.retrievalBudget.candidates_le,
      request.retrievalBudget.wallClock_pos⟩ }

def contented : Environment Unit :=
  { environment with
    policyDecide := fun _ calls outside =>
      (if calls.isEmpty then .pair ⟨"need.a", .refl true⟩ "memory.search_anchor_bm25"
        else .stopReason .sufficient, outside) }

theorem single_isSome : (controller.start contented singleCall ()).isSome = true := by
  decide +kernel

def single : Config Unit := (controller.start contented singleCall ()).get single_isSome

end Sample

end NovelAgent.Retrieval
