import NovelAgent.Core.Logic
import NovelAgent.Core.Run
import NovelAgent.Retrieval.LegalActions

/-!
# The Bounded Memory Controller

The loop that lets a policy choose tools and runs them. A step of the loop
either decides or executes. Deciding drains an earlier plan, or asks the policy
and binds its answer to an action of the registry; executing runs the tool that
was bound and records its answer.
-/

namespace NovelAgent.Retrieval

open Core Domain Session

/-- What the tool binding may still spend. -/
structure ToolBudget where
  maxCalls : Nat
  deadline : ℚ
  callsUsed : Nat

/-- What a run may spend on decisions and on tools. -/
structure ControllerBudgetState where
  deadlineMonotonic : ℚ
  maxDecisionModelCalls : Int
  maxToolCalls : Nat
  decisionModelCallsUsed : Nat
  toolCallsUsed : Nat
  toolSuccessCount : Nat
  toolFailureCount : Nat
  backendSearchCount : Nat
  terminalFailure : Option ControllerStopReason
  toolBudget : ToolBudget

/-- Why the run has to stop after this answer. -/
def terminalReason (result : ToolResult) : Option ControllerStopReason :=
  if result.status = .succeeded then none
  else
    match result.failureCode with
    | some .budgetExceeded => some .budgetExhausted
    | some .timeout => some .budgetExhausted
    | some .baseCommitMismatch => some .freshnessBlocked
    | some .snapshotStale => some .freshnessBlocked
    | some .accessDenied => some .accessBlocked
    | some .scopeMismatch => some .accessBlocked
    | _ => none

namespace ControllerBudgetState

/-- A fresh budget whose deadline lies `wallMs` milliseconds after `now`. -/
def fromPolicy (now : ℚ) (maxToolCalls : Nat) (maxDecisionModelCalls : Int) (wallMs : Nat) :
    ControllerBudgetState where
  deadlineMonotonic := now + wallMs / 1000
  maxDecisionModelCalls := maxDecisionModelCalls
  maxToolCalls := maxToolCalls
  decisionModelCallsUsed := 0
  toolCallsUsed := 0
  toolSuccessCount := 0
  toolFailureCount := 0
  backendSearchCount := 0
  terminalFailure := none
  toolBudget := { maxCalls := maxToolCalls, deadline := now + wallMs / 1000, callsUsed := 0 }

def recordDecisionCall (budget : ControllerBudgetState) : ControllerBudgetState :=
  { budget with decisionModelCallsUsed := budget.decisionModelCallsUsed + 1 }

def markTerminal (failure : ControllerStopReason) (budget : ControllerBudgetState) :
    ControllerBudgetState :=
  { budget with terminalFailure := some failure }

def syncToolBudget (budget : ControllerBudgetState) : ControllerBudgetState :=
  { budget with
    toolBudget := {
      maxCalls := budget.maxToolCalls
      deadline := budget.deadlineMonotonic
      callsUsed := budget.toolCallsUsed } }

def useToolCall (budget : ControllerBudgetState) : ControllerBudgetState :=
  { budget with
    toolBudget := { budget.toolBudget with callsUsed := budget.toolBudget.callsUsed + 1 } }

def noteToolResult (result : ToolResult) (backendExecuted : Bool)
    (budget : ControllerBudgetState) : ControllerBudgetState :=
  let budget := { budget with toolCallsUsed := budget.toolBudget.callsUsed }
  if result.status = .succeeded then
    { budget with
      toolSuccessCount := budget.toolSuccessCount + 1
      backendSearchCount := budget.backendSearchCount + if backendExecuted then 1 else 0 }
  else
    let budget := { budget with toolFailureCount := budget.toolFailureCount + 1 }
    match terminalReason result with
    | some failure => budget.markTerminal failure
    | none => budget

end ControllerBudgetState

/-- What a tool is told about its caller. -/
structure ToolCallContext where
  toolCallId : StableId
  runId : RunId
  taskId : TaskId
  projectId : ProjectId
  baseCommit : CommitId
  snapshotId : Option StableId
  worldline : String
  narrativeChapter : Nat
  accessScope : AccessScope
  planPermission : Bool
  timeoutMs : Nat
  readOnly : Bool

/-- A tool to be run. -/
structure ToolInvocation where
  toolName : String
  needId : StableId
  limit : Nat

def ToolInvocation.pair (invocation : ToolInvocation) : StableId × String :=
  (invocation.needId, invocation.toolName)

/-- What a policy answers: a decision, one of the two older forms of an answer, or an exception. -/
inductive PolicyAnswer
  | decision (value : ControllerPolicyDecision)
  | stopReason (value : ControllerStopReason)
  | pair (needId : StableId) (toolName : String)
  | raises (message : String)

/-- What a handler does within its time: return, run out of it, fail to reach
    its backend, or raise something else. -/
inductive HandlerAnswer
  | returned (result : ToolResult)
  | timedOut
  | unavailable
  | raises (message : String)

/-- The clock, the policy, the tools and the freshness check, each a function
    of a state that the controller does not look into. -/
structure Environment (σ : Type) where
  monotonic : σ → ℚ × σ
  policyDecide : MemoryResolutionRequest → List ToolCall → σ → PolicyAnswer × σ
  handler : ToolCallContext → ToolInvocation → σ → HandlerAnswer × σ
  freshnessCheck : MemoryResolutionRequest → σ → Bool × σ

/-- What a run changes outside its graph state. -/
structure World (σ : Type) where
  outside : σ
  budget : ControllerBudgetState
  /-- The invocations requested of the tool binding. -/
  audit : List ToolInvocation
  /-- How often the policy was asked. -/
  consulted : Nat

/-- What a resolution has done. -/
structure ControllerGraphState where
  request : MemoryResolutionRequest
  toolCalls : List ToolCall
  policyDecisions : List ControllerPolicyDecision
  pendingTool : Option String
  pendingNeedId : Option StableId
  pendingActionIds : List StableId
  stopped : Bool
  stopReason : Option ControllerStopReason
  decisionModelCalls : Nat
  terminalFailure : Option ControllerStopReason

/-- A controller: its own tool policy, that of its binding, its routes, and
    what it can tell about its policy. -/
structure Controller where
  toolPolicy : ToolPolicy
  bindingPolicy : ToolPolicy
  routePlans : List RoutePlan
  unique : (routePlans.map RoutePlan.needId).Nodup
  /-- The policy keeps decision receipts or limits its decisions. -/
  usesModel : Bool
  /-- The limit that the policy declares, when it declares one. -/
  policyDecisionLimit : Option Int

abbrev ControllerM (σ : Type) := Session (World σ) ControllerError

namespace Environment

variable {σ : Type} (env : Environment σ)

def clock : ControllerM σ ℚ := fun w =>
  (.ok (env.monotonic w.outside).1, { w with outside := (env.monotonic w.outside).2 })

/-- Ask the policy. -/
def consult (request : MemoryResolutionRequest) (calls : List ToolCall) :
    ControllerM σ PolicyAnswer := fun w =>
  (.ok (env.policyDecide request calls w.outside).1,
    { w with
      outside := (env.policyDecide request calls w.outside).2
      consulted := w.consulted + 1 })

def runHandler (context : ToolCallContext) (invocation : ToolInvocation) :
    ControllerM σ HandlerAnswer := fun w =>
  (.ok (env.handler context invocation w.outside).1,
    { w with outside := (env.handler context invocation w.outside).2 })

/-- Report a request to the audit sink. -/
def requested (invocation : ToolInvocation) : ControllerM σ Unit := fun w =>
  (.ok (), { w with audit := w.audit ++ [invocation] })

def readBudget : ControllerM σ ControllerBudgetState := fun w => (.ok w.budget, w)

def modifyBudget (change : ControllerBudgetState → ControllerBudgetState) : ControllerM σ Unit :=
  fun w => (.ok (), { w with budget := change w.budget })

/-- The deadline has passed. -/
def wallClockExhausted : ControllerM σ Bool := do
  let budget ← readBudget
  let now ← env.clock
  pure (decide (budget.deadlineMonotonic ≤ now))

/-- The policy may be asked once more. -/
def canDecide : ControllerM σ Bool := do
  let budget ← readBudget
  if budget.terminalFailure.isSome then pure false
  else do
    let exhausted ← env.wallClockExhausted
    pure (!exhausted &&
      decide ((budget.decisionModelCallsUsed : Int) < budget.maxDecisionModelCalls))

/-- One more tool may be called. -/
def canInvokeTool : ControllerM σ Bool := do
  let budget ← readBudget
  if budget.terminalFailure.isSome then pure false
  else do
    let exhausted ← env.wallClockExhausted
    pure (!exhausted && decide (budget.toolCallsUsed < budget.maxToolCalls))

/-- The tool binding may not call another tool. -/
def toolBudgetExhausted : ControllerM σ Bool := do
  let budget ← readBudget
  if budget.toolBudget.maxCalls ≤ budget.toolBudget.callsUsed then pure true
  else do
    let now ← env.clock
    pure (decide (budget.toolBudget.deadline ≤ now))

/-- The budget allows another call: the deadline is read once here and once
    more where the calls are counted. -/
def mayContinue : ControllerM σ Bool := do
  let exhausted ← env.wallClockExhausted
  if exhausted then pure false else env.canInvokeTool

end Environment

/-- A failed answer in the name of the call. -/
def failedResult (toolCallId : StableId) (basisCommit : CommitId) (snapshotId : Option StableId)
    (code : ToolFailureCode) : ToolResult where
  toolCallId := toolCallId
  status := .failed
  basisCommit := basisCommit
  snapshotId := snapshotId
  hits := none
  coverage := 0
  newInformationGain := 0
  failureCode := some code
  coverage_nonneg := le_refl 0
  coverage_le := zero_le_one
  failed_code := fun _ => rfl
  succeeded_code := fun h => absurd h (by simp)

def ToolCallContext.failure (context : ToolCallContext) (code : ToolFailureCode) : ToolResult :=
  failedResult context.toolCallId context.baseCommit context.snapshotId code

/-- The units that an answer names, read from the loaded hits. -/
def resultUnitIds (result : ToolResult) : List StableId :=
  if result.status = .succeeded then (result.hits.getD []).filterMap RawHit.loadedUnitId else []

/-- How many units the answer names that no call before it named. -/
def newInformationGain (priorCalls : List ToolCall) (result : ToolResult) : Nat :=
  if result.status = .succeeded then
    let priorIds := priorCalls.flatMap fun call => resultUnitIds call.result
    ((resultUnitIds result).eraseDups.filter fun id => decide (id ∉ priorIds)).length
  else 0

namespace Controller

variable {σ : Type} (c : Controller) (env : Environment σ)

/-- The registry of the controller. -/
def legalActions : LegalActionProvider where
  toolPolicy := c.toolPolicy
  routePlans := c.routePlans
  unique := c.unique

/-- The limit on decisions: two, unless the policy declares another one. A
    declared zero counts as no declaration. -/
def maxDecisionModelCalls : Int :=
  match c.policyDecisionLimit with
  | some limit => if limit = 0 then 2 else limit
  | none => 2

/-- How many tools a request may call. -/
def trustedCallLimit (request : MemoryResolutionRequest) : Nat :=
  let roundLimit := min request.retrievalBudget.maxRounds c.toolPolicy.maxRounds *
    max 1 request.initialMemoryNeeds.length
  min (min request.retrievalBudget.maxToolCalls c.toolPolicy.maxToolCalls) roundLimit

/-- Run an allowed tool with the caller's identity and basis. -/
def invoke (invocation : ToolInvocation) (context : ToolCallContext) :
    ControllerM σ ToolResult := do
  Environment.requested invocation
  if invocation.toolName ∉ c.bindingPolicy.allowedTools then
    raise (.toolBinding ("tool is not allowed: " ++ invocation.toolName))
  else if !context.readOnly then
    raise (.toolBinding "Stage 2 tool binding requires read-only trusted context")
  else do
    let exhausted ← env.toolBudgetExhausted
    if exhausted then pure (context.failure .budgetExceeded)
    else do
      let budget ← Environment.readBudget
      Environment.modifyBudget ControllerBudgetState.useToolCall
      let now ← env.clock
      if min ((context.timeoutMs : ℚ) / 1000) (max 0 (budget.toolBudget.deadline - now)) ≤ 0 then
        pure (context.failure .budgetExceeded)
      else do
        let answer ← env.runHandler context invocation
        match answer with
        | .timedOut => pure (context.failure .timeout)
        | .unavailable => pure (context.failure .backendUnavailable)
        | .raises message => raise (.tool message)
        | .returned result =>
          if result.toolCallId ≠ context.toolCallId then
            raise (.toolBinding "tool result call identity mismatch")
          else if result.basisCommit ≠ context.baseCommit then
            pure (context.failure .baseCommitMismatch)
          else if context.snapshotId.isSome ∧ result.snapshotId ≠ context.snapshotId then
            pure (context.failure .snapshotStale)
          else pure result

/-- The action of an identity: the last one listed under it. -/
def registeredAction (actions : List RegisteredControllerAction) (id : StableId) :
    Option RegisteredControllerAction :=
  actions.reverse.find? fun action => action.actionId = id

/-- The run stops for a reason, with nothing pending. -/
def stopState (state : ControllerGraphState) (decisions : List ControllerPolicyDecision)
    (reason : ControllerStopReason) : ControllerGraphState :=
  { state with
    policyDecisions := state.policyDecisions ++ decisions
    stopped := true
    stopReason := some reason
    pendingActionIds := [] }

/-- Stop with a decision of the controller's own. -/
def stopFor (state : ControllerGraphState) (reason : ControllerStopReason)
    (rationaleCode : String) : ControllerGraphState :=
  stopState state [.stop reason rationaleCode] reason

/-- An action is bound: its need and tool are called next. -/
def bindAction (state : ControllerGraphState) (decisions : List ControllerPolicyDecision)
    (needId : StableId) (toolName : String) (pendingActionIds : List StableId) :
    ControllerGraphState :=
  { state with
    policyDecisions := state.policyDecisions ++ decisions
    pendingNeedId := some needId
    pendingTool := some toolName
    pendingActionIds := pendingActionIds
    stopped := false }

/-- Take the next action of an earlier plan, if it is still legal. -/
def drainPending (state : ControllerGraphState) (actionId : StableId) (rest : List StableId) :
    ControllerM σ ControllerGraphState := do
  let actions ← ofExcept
    (c.legalActions.availableActions state.request state.toolCalls false)
  match registeredAction actions actionId with
  | none => pure (stopFor state .noAdditionalEvidence "BATCH_ACTION_NO_LONGER_LEGAL")
  | some action =>
    pure (bindAction state [.callTool action.needId action.toolName "BATCH_PLAN_ACTION"]
      action.needId action.toolName rest)

/-- The answer of a policy as a decision. The older forms are validated like any other decision. -/
def decisionOf : PolicyAnswer → Except ControllerError ControllerPolicyDecision
  | .decision value => pure value
  | .stopReason value => pure (.stop value "LEGACY_POLICY_STOP")
  | .pair needId toolName =>
    if toolName.toList.length = 0 ∨ 64 < toolName.toList.length then
      throw (.valueError "tool_name")
    else pure (.callTool needId toolName "LEGACY_POLICY_TOOL_CALL")
  | .raises message => throw (.policy message)

/-- Start a plan with its first action. -/
def bindPlan (state : ControllerGraphState) (decision : ControllerPolicyDecision)
    (queued : List StableId) : ControllerM σ ControllerGraphState :=
  match queued with
  | [] =>
    pure (stopState state
      [decision, .stop .noAdditionalEvidence "EMPTY_BATCH_PLAN"] .noAdditionalEvidence)
  | first :: rest => do
      let actions ← ofExcept
        (c.legalActions.availableActions state.request state.toolCalls false)
      match registeredAction actions first with
      | none =>
        pure (stopState state
          [decision, .stop .noAdditionalEvidence "BATCH_FIRST_ACTION_NO_LONGER_LEGAL"]
          .noAdditionalEvidence)
      | some action =>
        pure (bindAction state
          [decision, .callTool action.needId action.toolName "BATCH_PLAN_ACTION"]
          action.needId action.toolName rest)

/-- Bind a single call: to a need of the request, an allowed and registered
    tool, not called before, and legal now. -/
def bindCall (state : ControllerGraphState) (decision : ControllerPolicyDecision)
    (needId : StableId) (toolName : String) : ControllerM σ ControllerGraphState :=
  -- The refusals leave the pending actions as they are.
  let refuse (reason : ControllerStopReason) : ControllerGraphState :=
    { state with
      policyDecisions := state.policyDecisions ++ [decision]
      stopped := true
      stopReason := some reason }
  if needId ∉ state.request.initialMemoryNeeds.map Stage1MemoryNeed.needId then
    pure (refuse .accessBlocked)
  else if toolName ∉ c.toolPolicy.allowedTools ∨ (channelByTool toolName).isNone then
    pure (refuse .accessBlocked)
  else if (needId, toolName) ∈ state.toolCalls.map ToolCall.pair then
    pure (refuse .noAdditionalEvidence)
  else do
    let actions ← ofExcept
      (c.legalActions.availableActions state.request state.toolCalls false)
    if (needId, toolName) ∉ actions.map RegisteredControllerAction.pair then
      pure (refuse .accessBlocked)
    else pure (bindAction state [decision] needId toolName [])

def bindDecision (state : ControllerGraphState) (decision : ControllerPolicyDecision) :
    ControllerM σ ControllerGraphState :=
  match decision with
  | .stop reason _ => pure (stopState state [decision] reason)
  | .executePlan queued _ => c.bindPlan state decision queued
  | .callTool needId toolName _ => c.bindCall state decision needId toolName

/-- The policy may be asked. Only one that uses a model is limited. -/
def mayAsk : ControllerM σ Bool :=
  if c.usesModel then env.canDecide else pure true

def askPolicy (state : ControllerGraphState) : ControllerM σ ControllerGraphState := do
  let allowed ← c.mayAsk env
  if !allowed then do
    Environment.modifyBudget (.markTerminal .budgetExhausted)
    pure (stopFor state .budgetExhausted "DECISION_MODEL_BUDGET_EXHAUSTED")
  else do
    Environment.modifyBudget fun budget =>
      if c.usesModel then budget.recordDecisionCall else budget
    let answer ← env.consult state.request state.toolCalls
    let decision ← ofExcept (decisionOf answer)
    -- The policy may have used up the time that its tool would need.
    let late ← env.wallClockExhausted
    let budget ← Environment.readBudget
    let state := { state with decisionModelCalls := budget.decisionModelCallsUsed }
    if late then do
      Environment.modifyBudget (.markTerminal .budgetExhausted)
      pure (stopFor state .budgetExhausted "DEADLINE_AFTER_MODEL_DECISION")
    else c.bindDecision state decision

/-- The node that decides what to do next. -/
def decide (state : ControllerGraphState) : ControllerM σ ControllerGraphState := do
  let budget ← Environment.readBudget
  match budget.terminalFailure with
  | some failure =>
    pure { stopFor state failure "TERMINAL_TOOL_FAILURE" with
      terminalFailure := some failure }
  | none => do
      let may ← env.mayContinue
      if !may then do
        Environment.modifyBudget (.markTerminal .budgetExhausted)
        pure (stopFor state .budgetExhausted
          "TRUSTED_GRAPH_WALL_CLOCK_OR_TOOL_BUDGET_EXHAUSTED")
      else if c.trustedCallLimit state.request ≤ state.toolCalls.length then
        pure (stopFor state .budgetExhausted "TRUSTED_GRAPH_CALL_BUDGET_EXHAUSTED")
      else
        match state.pendingActionIds with
        | actionId :: rest => c.drainPending state actionId rest
        | [] => c.askPolicy env state

def recordCall (state : ControllerGraphState) (needId : StableId) (toolName : String)
    (result : ToolResult) (terminalFailure : Option ControllerStopReason) :
    ControllerGraphState :=
  { state with
    toolCalls := state.toolCalls ++ [{ needId := needId, toolName := toolName, result := result }]
    terminalFailure := terminalFailure }

/-- The pending entry, which deciding left behind. -/
def pendingEntry {α : Type} (key : String) : Option α → Except ControllerError α
  | some value => pure value
  | none => throw (.keyError key)

/-- The node that runs the chosen tool. -/
def executeTool (state : ControllerGraphState) : ControllerM σ ControllerGraphState := do
  let callId := "tool-call." ++ state.request.requestId.root ++ "." ++
    toString (state.toolCalls.length + 1)
  let may ← env.mayContinue
  if !may then do
    Environment.modifyBudget (.markTerminal .budgetExhausted)
    let toolCallId ← ofExcept (checkedId callId)
    let needId ← ofExcept (pendingEntry "pending_need_id" state.pendingNeedId)
    let toolName ← ofExcept (pendingEntry "pending_tool" state.pendingTool)
    pure (recordCall state needId toolName
      (failedResult toolCallId state.request.baseCommit (some state.request.snapshotId)
        .budgetExceeded)
      (some .budgetExhausted))
  else do
    let budget ← Environment.readBudget
    let now ← env.clock
    let remainingMs := max 1 (max 0 ((budget.deadlineMonotonic - now) * 1000)).floor.toNat
    let toolCallId ← ofExcept (checkedId callId)
    let context : ToolCallContext := {
      toolCallId := toolCallId
      runId := state.request.runId
      taskId := state.request.taskId
      projectId := state.request.projectId
      baseCommit := state.request.baseCommit
      snapshotId := some state.request.snapshotId
      worldline := state.request.worldline
      narrativeChapter := state.request.narrativeChapter
      accessScope := state.request.accessScope
      planPermission := state.request.allowFuturePlan
      timeoutMs := min (min c.toolPolicy.wallClockBudgetMs remainingMs) 30000
      readOnly := true }
    Environment.modifyBudget ControllerBudgetState.syncToolBudget
    let toolName ← ofExcept (pendingEntry "pending_tool" state.pendingTool)
    let needId ← ofExcept (pendingEntry "pending_need_id" state.pendingNeedId)
    let result ← c.invoke env {
      toolName := toolName
      needId := needId
      limit := state.request.retrievalBudget.maxCandidates } context
    let gained := { result with newInformationGain := newInformationGain state.toolCalls result }
    Environment.modifyBudget
      (.noteToolResult gained (gained.status == .succeeded))
    let budget ← Environment.readBudget
    pure (recordCall state needId toolName gained budget.terminalFailure)

end Controller

/-- Where the graph is: at one of its nodes, at its end, or out of it by an exception. -/
inductive Node
  | decide
  | executeTool
  | finish
  | raised (error : ControllerError)
deriving DecidableEq

/-- The graph is at its end, or out of it. -/
def Node.ended : Node → Bool
  | .finish => true
  | .raised _ => true
  | _ => false

/-- A graph in the middle of a run. -/
structure Config (σ : Type) where
  node : Node
  state : ControllerGraphState
  world : World σ

namespace Controller

variable {σ : Type} (c : Controller) (env : Environment σ)

/-- Where the graph goes after deciding. -/
def routeAfterDecision (state : ControllerGraphState) : Node :=
  if state.stopped then .finish else .executeTool

/-- A node's outcome: the graph goes on with the returned state, or leaves with
    the exception and the state it had. -/
def settle (state : ControllerGraphState) (next : ControllerGraphState → Node) :
    Except ControllerError ControllerGraphState × World σ → Config σ
  | (.ok state', world) => { node := next state', state := state', world := world }
  | (.error error, world) => { node := .raised error, state := state, world := world }

/-- One step of the graph. -/
def tick (config : Config σ) (_ : Unit) : Config σ :=
  match config.node with
  | .decide => settle config.state routeAfterDecision (c.decide env config.state config.world)
  | .executeTool =>
    settle config.state (fun _ => .decide) (c.executeTool env config.state config.world)
  | .finish => config
  | .raised _ => config

def after (config : Config σ) (steps : Nat) : Config σ :=
  run (c.tick env) config (List.replicate steps ())

theorem after_succ (config : Config σ) (steps : Nat) :
    c.after env config (steps + 1) = c.tick env (c.after env config steps) () := by
  unfold after
  rw [List.replicate_succ', run_append]
  rfl

def initialState (request : MemoryResolutionRequest) : ControllerGraphState where
  request := request
  toolCalls := []
  policyDecisions := []
  pendingTool := none
  pendingNeedId := none
  pendingActionIds := []
  stopped := false
  stopReason := none
  decisionModelCalls := 0
  terminalFailure := none

/-- A run begins: the request fits the tool policy, the snapshot is fresh, and
    the registry is consistent. Otherwise there is no run. -/
def start (request : MemoryResolutionRequest) (outside : σ) : Option (Config σ) :=
  if c.toolPolicy.maxToolCalls < request.retrievalBudget.maxToolCalls then none
  else if c.toolPolicy.maxRounds < request.retrievalBudget.maxRounds then none
  else
    let fresh := env.freshnessCheck request outside
    if fresh.1 = false then none
    else
      match c.legalActions.assertConsistency request [] with
      | .error _ => none
      | .ok () =>
        let now := env.monotonic fresh.2
        some {
          node := .decide
          state := initialState request
          world := {
            outside := now.2
            budget := .fromPolicy now.1 (c.trustedCallLimit request) c.maxDecisionModelCalls
              (min c.toolPolicy.wallClockBudgetMs request.retrievalBudget.wallClockBudgetMs)
            audit := []
            consulted := 0 } }

end Controller

end NovelAgent.Retrieval
