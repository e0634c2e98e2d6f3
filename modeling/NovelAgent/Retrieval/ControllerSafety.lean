import NovelAgent.Retrieval.ControllerSpecs

/-!
# The Controller Is Safe Under Any Policy

Whatever the clock, the policy and the tools do, a run of the bounded memory
controller ends, calls only what is offered, calls nothing twice and nothing
once it has to stop, and stays within its limits.
-/

namespace NovelAgent.Retrieval

open Core Domain List
open Core.Session (Ensures)

/-- No answer so far stops the run. -/
def Open (calls : List ToolCall) : Prop :=
  ∀ call ∈ calls, terminalReason call.result = none

section Run

variable {σ : Type} {c : Controller} (env : Environment σ) {request : MemoryResolutionRequest}

/-- The calls of a run: each was offered after the calls before it, within the
    limit, and while the run was open. -/
inductive Lawful (c : Controller) (request : MemoryResolutionRequest) : List ToolCall → Prop
  | nil : Lawful c request []
  | snoc {calls : List ToolCall} {call : ToolCall} (earlier : Lawful c request calls)
      (offered : Offers c.legalActions request calls call.pair)
      (within : calls.length < c.trustedCallLimit request) (isOpen : Open calls) :
      Lawful c request (calls ++ [call])

namespace Lawful

variable {calls : List ToolCall}

/-- What is known of each call. -/
theorem split (h : Lawful c request calls) : ∀ before call rest, calls = before ++ call :: rest →
    Offers c.legalActions request before call.pair ∧ Open before := by
  induction h with
  | nil => exact fun before call rest h => absurd h (by simp)
  | snoc earlier offered within isOpen ih =>
    intro before call rest h
    -- The call is the last one or one of the earlier ones.
    rcases eq_nil_or_concat rest with rfl | ⟨rest', last, rfl⟩
    · have hsplit := append_inj' h rfl
      rw [← hsplit.1, ← singleton_inj.mp hsplit.2]
      exact ⟨offered, isOpen⟩
    · rw [concat_eq_append, ← cons_append, ← append_assoc] at h
      exact ih before call rest' (append_inj' h rfl).1

theorem length_le (h : Lawful c request calls) : calls.length ≤ c.trustedCallLimit request := by
  cases h with
  | nil => exact Nat.zero_le _
  | snoc earlier offered within isOpen =>
    rw [length_append, length_singleton]
    exact within

theorem nodup (h : Lawful c request calls) : (calls.map ToolCall.pair).Nodup := by
  induction h with
  | nil => exact nodup_nil
  | snoc earlier offered within isOpen ih =>
    rw [map_append, map_singleton, nodup_append]
    refine ⟨ih, by simp, fun pair hpair other hother heq => ?_⟩
    rw [mem_singleton] at hother
    rw [heq, hother] at hpair
    exact offered.not_called hpair

end Lawful

/-- How the audited pairs follow the calls: they are the first of them, or all
    of them and one more that was interrupted. -/
inductive Audited (c : Controller) (request : MemoryResolutionRequest) (calls : List ToolCall) :
    List (StableId × String) → Prop
  | recorded {pairs : List (StableId × String)} (first : pairs <+: calls.map ToolCall.pair) :
      Audited c request calls pairs
  | interrupted {pair : StableId × String}
      (offered : Offers c.legalActions request calls pair)
      (within : calls.length < c.trustedCallLimit request) (isOpen : Open calls) :
      Audited c request calls (calls.map ToolCall.pair ++ [pair])

/-- What holds of every configuration of a run. -/
structure Safe (c : Controller) (request : MemoryResolutionRequest) (config : Config σ) :
    Prop where
  request_eq : config.state.request = request
  lawful : Lawful c request config.state.toolCalls
  law : DecisionLaw c config.world
  /-- An answer that stops the run is noted in the budget. -/
  marked : config.world.budget.terminalFailure = none → Open config.state.toolCalls
  audited : Audited c request config.state.toolCalls (config.world.audit.map ToolInvocation.pair)
  /-- An open run has recorded what it invoked. -/
  settled : config.node.ended = false → Open config.state.toolCalls →
    config.world.audit.map ToolInvocation.pair = config.state.toolCalls.map ToolCall.pair
  /-- What is executed was bound while the run was open. -/
  pending : config.node = .executeTool →
    Open config.state.toolCalls ∧ ∃ needId toolName, Bound c config.state needId toolName

theorem open_append {calls : List ToolCall} {call : ToolCall} :
    Open (calls ++ [call]) ↔ Open calls ∧ terminalReason call.result = none := by
  simp [Open, or_imp, forall_and]

variable {config : Config σ}

theorem Safe.quiet (h : Safe c request config) (hrunning : config.node.ended = false)
    {node : Node} {state' : ControllerGraphState} {world' : World σ}
    (hrequest : state'.request = config.state.request)
    (hcalls : state'.toolCalls = config.state.toolCalls) (hquiet : Quiet c config.world world')
    (hpending : node = .executeTool →
      Open config.state.toolCalls ∧ ∃ needId toolName, Bound c state' needId toolName) :
    Safe c request { node := node, state := state', world := world' } where
  request_eq := hrequest.trans h.request_eq
  lawful := by
    rw [hcalls]
    exact h.lawful
  law := hquiet.law h.law
  marked := by
    intro hnone
    rw [hcalls]
    exact h.marked (hquiet.was_none hnone)
  audited := by
    rw [hcalls, hquiet.audit]
    exact h.audited
  settled := by
    intro _ hopen
    rw [hcalls] at hopen ⊢
    rw [hquiet.audit]
    exact h.settled hrunning hopen
  pending := by
    intro hnode
    rw [hcalls]
    exact hpending hnode

theorem safe_decide (h : Safe c request config) (hnode : config.node = .decide) :
    Safe c request (c.tick env config ()) := by
  have hrunning : config.node.ended = false := by
    rw [hnode]
    rfl
  have hspec := Controller.decide_ensures c env config.state config.world
  unfold Controller.tick
  simp only [hnode]
  cases hresult : c.decide env config.state config.world with
  | mk answer world =>
    cases answer with
    | error error =>
      exact h.quiet hrunning rfl rfl (hspec.error hresult) fun hnot => absurd hnot (by simp)
    | ok state' =>
      rcases hspec.ok hresult with ⟨hquiet, houtcome⟩
      simp only [Controller.settle, Controller.routeAfterDecision]
      rcases houtcome with ⟨_, _, hrequest, hcalls, hstopped, _⟩ | ⟨hopen, hdecided⟩
      · refine h.quiet hrunning hrequest hcalls hquiet fun hnot => ?_
        rw [if_pos hstopped] at hnot
        exact absurd hnot (by simp)
      · refine h.quiet hrunning hdecided.request hdecided.calls hquiet fun hgoes => ?_
        rcases hdecided.outcome with ⟨hstopped, _⟩ | ⟨_, _, hbound⟩
        · rw [if_pos hstopped] at hgoes
          exact absurd hgoes (by simp)
        · exact ⟨h.marked hopen, hbound⟩

/-- An execution leaves the audit of an open run with at most one pair more. -/
theorem safe_executeTool (h : Safe c request config) (hnode : config.node = .executeTool) :
    Safe c request (c.tick env config ()) := by
  have hrunning : config.node.ended = false := by
    rw [hnode]
    rfl
  rcases h.pending hnode with ⟨hopen, needId, toolName, hbound⟩
  have hsettled := h.settled hrunning hopen
  have hoffered : Offers c.legalActions request config.state.toolCalls (needId, toolName) := by
    rw [← h.request_eq]
    exact hbound.offered
  have hwithin : config.state.toolCalls.length < c.trustedCallLimit request := by
    rw [← h.request_eq]
    exact hbound.within
  have hspec := Controller.executeTool_ensures env hbound config.world
  unfold Controller.tick
  simp only [hnode]
  cases hresult : c.executeTool env config.state config.world with
  | mk answer world =>
    cases answer with
    | error error =>
      have hinterrupted := hspec.error hresult
      refine ⟨h.request_eq, h.lawful, hinterrupted.law h.law, fun _ => hopen, ?_,
        fun hnot => absurd hnot (by simp [Controller.settle, Node.ended]),
        fun hnot => absurd hnot (by simp [Controller.settle])⟩
      simp only [Controller.settle]
      rcases hinterrupted.audit with haudit | ⟨invocation, hpair, haudit⟩
      · rw [haudit]
        exact h.audited
      · rw [haudit, map_append, map_singleton, hsettled, hpair]
        exact .interrupted hoffered hwithin hopen
    | ok state' =>
      have hexecuted := hspec.ok hresult
      rcases hexecuted.outcome with ⟨result, hcalls, hterminal, haudit⟩
      refine ⟨hexecuted.request.trans h.request_eq, ?_, hexecuted.law h.law, ?_, ?_, ?_,
        fun hnot => absurd hnot (by simp [Controller.settle])⟩
      · simp only [Controller.settle, hcalls]
        exact .snoc h.lawful hoffered hwithin hopen
      · intro hnone
        simp only [Controller.settle, hcalls] at hnone ⊢
        rw [hterminal, Option.or_eq_none_iff] at hnone
        exact open_append.mpr ⟨hopen, hnone.1⟩
      · simp only [Controller.settle, hcalls]
        refine .recorded ?_
        rw [map_append]
        rcases haudit with ⟨haudit, _⟩ | ⟨invocation, hpair, haudit⟩
        · rw [haudit, hsettled]
          exact prefix_append _ _
        · rw [haudit, map_append, hsettled, map_singleton, map_singleton, hpair]
          exact prefix_refl _
      · intro _ hstill
        simp only [Controller.settle, hcalls] at hstill ⊢
        rcases haudit with ⟨_, hstops⟩ | ⟨invocation, hpair, haudit⟩
        · -- A call that was not invoked carries an answer that stops the run.
          rw [(open_append.mp hstill).2] at hstops
          exact absurd hstops (by simp)
        · rw [haudit, map_append, map_append, hsettled, map_singleton,
            map_singleton, hpair]
          rfl

/-- A step keeps the invariant. -/
theorem safe_tick (h : Safe c request config) : Safe c request (c.tick env config ()) := by
  cases hnode : config.node with
  | decide => exact safe_decide env h hnode
  | executeTool => exact safe_executeTool env h hnode
  | finish =>
    unfold Controller.tick
    simp only [hnode]
    exact h
  | raised error =>
    unfold Controller.tick
    simp only [hnode]
    exact h

variable {outside : σ}

theorem safe_start {env : Environment σ} (h : c.start env request outside = some config) :
    Safe c request config := by
  unfold Controller.start at h
  split at h
  · exact absurd h (by simp)
  · split at h
    · exact absurd h (by simp)
    · simp only at h
      split at h
      · exact absurd h (by simp)
      · split at h
        · exact absurd h (by simp)
        · rw [← Option.some.inj h]
          exact ⟨rfl, .nil, ⟨rfl, fun _ => ⟨rfl, le_max_left _ _⟩⟩,
            fun _ call hcall => absurd hcall (by simp [Controller.initialState]),
            .recorded nil_prefix, fun _ _ => rfl, fun hnot => absurd hnot (by simp)⟩

/-- Every configuration of a run is safe. -/
theorem safe_after (h : Safe c request config) (steps : Nat) :
    Safe c request (c.after env config steps) :=
  run_invariant (c.tick env) (Safe c request) (fun _ _ hsafe => safe_tick env hsafe) config h _

/-- How many steps are left at most. -/
def remaining (c : Controller) (request : MemoryResolutionRequest) (config : Config σ) : Nat :=
  match config.node with
  | .decide => 2 * (c.trustedCallLimit request - config.state.toolCalls.length) + 1
  | .executeTool => 2 * (c.trustedCallLimit request - config.state.toolCalls.length)
  | .finish => 0
  | .raised _ => 0

/-- A step uses up a step. -/
theorem remaining_tick (h : Safe c request config) :
    remaining c request (c.tick env config ()) ≤ remaining c request config - 1 := by
  cases hnode : config.node with
  | decide =>
    have hspec := Controller.decide_ensures c env config.state config.world
    unfold Controller.tick
    simp only [hnode, remaining]
    cases hresult : c.decide env config.state config.world with
    | mk answer world =>
      cases answer with
      | error error => exact Nat.zero_le _
      | ok state' =>
        have hcalls : state'.toolCalls = config.state.toolCalls := by
          rcases (hspec.ok hresult).2 with ⟨_, _, _, hcalls, _⟩ | ⟨_, hdecided⟩
          · exact hcalls
          · exact hdecided.calls
        simp only [Controller.settle, Controller.routeAfterDecision]
        by_cases hstopped : state'.stopped = true
        · simp [hstopped]
        · simp [hstopped, hcalls]
  | executeTool =>
    rcases h.pending hnode with ⟨_, needId, toolName, hbound⟩
    have hwithin := hbound.within
    rw [h.request_eq] at hwithin
    have hspec := Controller.executeTool_ensures env hbound config.world
    unfold Controller.tick
    simp only [hnode, remaining]
    cases hresult : c.executeTool env config.state config.world with
    | mk answer world =>
      cases answer with
      | error error => exact Nat.zero_le _
      | ok state' =>
        rcases (hspec.ok hresult).outcome with ⟨result, hcalls, _⟩
        simp only [Controller.settle, hcalls, length_append, length_singleton]
        omega
  | finish => simp [Controller.tick, remaining, hnode]
  | raised error => simp [Controller.tick, remaining, hnode]

theorem remaining_after (h : Safe c request config) (steps : Nat) :
    remaining c request (c.after env config steps) ≤ remaining c request config - steps := by
  unfold Controller.after
  induction steps generalizing config with
  | zero => exact le_refl _
  | succ steps ih =>
    rw [replicate_succ, run_cons]
    have hrest := ih (safe_tick env h)
    have hfirst := remaining_tick env h
    omega

theorem ended_of_remaining (h : Safe c request config)
    (hremaining : remaining c request config = 0) : config.node.ended = true := by
  unfold remaining at hremaining
  cases hnode : config.node with
  | decide =>
    simp only [hnode] at hremaining
    omega
  | executeTool =>
    rcases h.pending hnode with ⟨_, needId, toolName, hbound⟩
    have hwithin := hbound.within
    rw [h.request_eq] at hwithin
    simp only [hnode] at hremaining
    omega
  | finish => rfl
  | raised error => rfl

variable {pairs : List (StableId × String)}

theorem Audited.split {calls : List ToolCall} (haudited : Audited c request calls pairs)
    (hlawful : Lawful c request calls) :
    ∀ before pair rest, pairs = before ++ pair :: rest →
      ∃ earlier, earlier <+: calls ∧ earlier.map ToolCall.pair = before ∧
        Offers c.legalActions request earlier pair ∧ Open earlier := by
  -- A pair of the calls is the pair of a call, which was lawful.
  have hcalls : ∀ before pair rest, calls.map ToolCall.pair = before ++ pair :: rest →
      ∃ earlier, earlier <+: calls ∧ earlier.map ToolCall.pair = before ∧
        Offers c.legalActions request earlier pair ∧ Open earlier := by
    intro before pair rest h
    rcases map_eq_append_iff.mp h with ⟨earlier, later, hsplit, hbefore, hlater⟩
    rcases map_eq_cons_iff.mp hlater with ⟨call, tail, htail, hpair, _⟩
    rw [htail] at hsplit
    have hlawfulCall := hlawful.split earlier call tail hsplit
    rw [hpair] at hlawfulCall
    exact ⟨earlier, ⟨call :: tail, hsplit.symm⟩, hbefore, hlawfulCall⟩
  intro before pair rest h
  cases haudited with
  | recorded first =>
    rcases first with ⟨more, hmore⟩
    rw [h, append_assoc, cons_append] at hmore
    exact hcalls before pair (rest ++ more) hmore.symm
  | interrupted offered within isOpen =>
    rcases eq_nil_or_concat rest with rfl | ⟨rest', last, rfl⟩
    · have hsplit := append_inj' h rfl
      rw [← singleton_inj.mp hsplit.2]
      exact ⟨calls, prefix_refl calls, hsplit.1, offered, isOpen⟩
    · rw [concat_eq_append, ← cons_append, ← append_assoc] at h
      exact hcalls before pair rest' (append_inj' h rfl).1

theorem Audited.length_le {calls : List ToolCall} (haudited : Audited c request calls pairs)
    (hlawful : Lawful c request calls) : pairs.length ≤ c.trustedCallLimit request := by
  cases haudited with
  | recorded first =>
    have hlength := first.length_le
    rw [length_map] at hlength
    exact le_trans hlength hlawful.length_le
  | interrupted offered within isOpen =>
    rw [length_append, length_map, length_singleton]
    exact within

theorem Audited.nodup {calls : List ToolCall} (haudited : Audited c request calls pairs)
    (hlawful : Lawful c request calls) : pairs.Nodup := by
  cases haudited with
  | recorded first => exact first.sublist.nodup hlawful.nodup
  | interrupted offered within isOpen =>
    rw [nodup_append]
    refine ⟨hlawful.nodup, by simp, fun pair hpair other hother heq => ?_⟩
    rw [mem_singleton] at hother
    rw [heq, hother] at hpair
    exact offered.not_called hpair

/-- Under any clock, any policy and any tools, a run of the controller ends. It invokes at most the
    trusted number of tools, none of them twice for the same need, each only if the registry offers
    it for exactly the calls made before it and none of those has to stop the run, and it asks a
    policy that uses a model at most as often as its limit allows. -/
theorem controller_safe {env : Environment σ} {outside : σ} {config : Config σ}
    (hstart : c.start env request outside = some config) (steps : Nat) :
    (2 * c.trustedCallLimit request + 1 ≤ steps →
        (c.after env config steps).node.ended = true) ∧
      (c.after env config steps).world.audit.length ≤ c.trustedCallLimit request ∧
      ((c.after env config steps).world.audit.map ToolInvocation.pair).Nodup ∧
      (∀ before invocation rest,
        (c.after env config steps).world.audit = before ++ invocation :: rest →
          ∃ calls, calls <+: (c.after env config steps).state.toolCalls ∧
            calls.map ToolCall.pair = before.map ToolInvocation.pair ∧
            Offers c.legalActions request calls invocation.pair ∧
            ∀ call ∈ calls, terminalReason call.result = none) ∧
      (c.usesModel = true →
        ((c.after env config steps).world.consulted : Int) ≤ max 0 c.maxDecisionModelCalls) := by
  have hinitial := safe_start hstart
  have hsafe := safe_after env hinitial steps
  refine ⟨fun hsteps => ?_, ?_, hsafe.audited.nodup hsafe.lawful, ?_, fun hmodel => ?_⟩
  · have hleft := remaining_after env hinitial steps
    have hall : remaining c request config ≤ 2 * c.trustedCallLimit request + 1 := by
      unfold remaining
      split <;> omega
    exact ended_of_remaining hsafe (by omega)
  · have hlength := hsafe.audited.length_le hsafe.lawful
    rwa [length_map] at hlength
  · intro before invocation rest haudit
    refine hsafe.audited.split hsafe.lawful (before.map ToolInvocation.pair) invocation.pair
      (rest.map ToolInvocation.pair) ?_
    rw [haudit, map_append, map_cons]
  · exact (hsafe.law.2 hmodel).2

end Run

instance (provider : LegalActionProvider) (request : MemoryResolutionRequest)
    (calls : List ToolCall) (pair : StableId × String) :
    Decidable (Offers provider request calls pair) :=
  match h : provider.availableActions request calls false with
  | .ok actions =>
    decidable_of_iff (pair ∈ actions.map RegisteredControllerAction.pair)
      ⟨fun hmem => ⟨actions, h, hmem⟩, fun ⟨found, hfound, hmem⟩ => by
        rw [h, Except.ok.injEq] at hfound
        exact hfound ▸ hmem⟩
  | .error error => isFalse fun ⟨found, hfound, _⟩ => by
      rw [h] at hfound
      exact absurd hfound (by simp)

namespace Sample

def commit : CommitId := ⟨"sha256:" ++ String.ofList (List.replicate 64 '0'), .refl true⟩

theorem need_pools : [CandidatePool.anchor, .grounded] ≠ [] := by decide

def need : Stage1MemoryNeed where
  needId := ⟨"need.a", .refl true⟩
  runId := ⟨"run.a", by decide⟩
  taskId := ⟨"task.a", by decide⟩
  baseCommit := commit
  queryIntent := .semanticHistory
  queryText := "where is the ring"
  accessScope := "writer_safe"
  retrievalMayReturnPlan := false
  riskLevel := .medium
  requirement := .mandatory
  allowedCandidatePools := [.anchor, .grounded]
  priority := 50
  needFacets := [{ needFacetId := ⟨"facet.a", by decide⟩, facetKind := .currentState }]
  completionSpec := some { requiredNeedFacetIds := [⟨"facet.a", by decide⟩] }
  priority_le := fifty_le_hundred
  pools_ne_nil := need_pools
  facets_iff := by decide
  required_mem := by
    intro spec hspec id hid
    rw [Option.mem_def, Option.some.injEq] at hspec
    rw [← hspec] at hid
    exact hid

/-- Its route: an anchor search, and a search of the grounded text when the
    anchors are not enough. -/
def plan : RoutePlan where
  needId := ⟨"need.a", .refl true⟩
  mandatorySteps := []
  primaryGroups := [{
    steps := [{ stepId := ⟨"step.anchor", by decide⟩, channel := .anchorBm25 }]
    steps_ne_nil := by decide
    channels_nodup := by decide }]
  conditionalFallbacks := [{
    condition := "anchor_evidence_insufficient"
    steps := [{ stepId := ⟨"step.grounded", by decide⟩, channel := .groundedBm25 }]
    condition_ne := by decide
    steps_ne_nil := by decide
    channels_nodup := by decide }]

def request : MemoryResolutionRequest where
  requestId := ⟨"request.a", by decide⟩
  runId := ⟨"run.a", by decide⟩
  taskId := ⟨"task.a", by decide⟩
  projectId := ⟨"project.a", by decide⟩
  baseCommit := commit
  snapshotId := ⟨"snapshot.a", .refl true⟩
  initialMemoryNeeds := [need]
  worldline := "main"
  narrativeChapter := 3
  accessScope := .writerSafe
  allowFuturePlan := false
  retrievalBudget := {
    maxRounds := 3
    maxToolCalls := 12
    maxCandidates := 20
    wallClockBudgetMs := 30000
    rounds_pos := by decide
    calls_pos := by decide
    candidates_pos := by decide
    candidates_le := by decide
    wallClock_pos := by decide }
  needs_belong := by
    intro member hmember
    rw [mem_singleton] at hmember
    rw [hmember]
    exact ⟨rfl, rfl, rfl⟩
  writerSafe := fun _ => rfl

def toolPolicy : ToolPolicy where
  allowedTools := ["memory.search_anchor_bm25", "memory.search_grounded_bm25"]
  maxRounds := 3
  maxToolCalls := 12
  wallClockBudgetMs := 30000
  allowed_nodup := by decide
  rounds_pos := by decide
  wallClock_pos := by decide

def controller : Controller where
  toolPolicy := toolPolicy
  bindingPolicy := toolPolicy
  routePlans := [plan]
  unique := by decide
  usesModel := true
  policyDecisionLimit := some 2

theorem found_failed : ToolResultStatus.succeeded = .failed →
    (none : Option ToolFailureCode).isSome = true := nofun

theorem found_succeeded : ToolResultStatus.succeeded = .succeeded →
    (none : Option ToolFailureCode) = none := fun _ => rfl

def found (context : ToolCallContext) : ToolResult where
  toolCallId := context.toolCallId
  status := .succeeded
  basisCommit := context.baseCommit
  snapshotId := context.snapshotId
  hits := some [{
    unit := some {
      unitId := ⟨"unit.a", .refl true⟩
      unitKind := .eventAnchor
      text := "The ring was found in the river." }
    loadedUnitId := none }]
  coverage := 1
  newInformationGain := 0
  failureCode := none
  coverage_nonneg := by norm_num
  coverage_le := le_refl 1
  failed_code := found_failed
  succeeded_code := found_succeeded

/-- A clock that stands still, a policy that always asks for the anchors, and
    tools that find an event. -/
def environment : Environment Unit where
  monotonic := fun outside => (0, outside)
  policyDecide := fun _ _ outside =>
    (.pair ⟨"need.a", .refl true⟩ "memory.search_anchor_bm25", outside)
  handler := fun context _ outside => (.returned (found context), outside)
  freshnessCheck := fun _ outside => (true, outside)

theorem start_isSome : (controller.start environment request ()).isSome = true := by
  decide +kernel

def started : Config Unit := (controller.start environment request ()).get start_isSome

theorem start_eq : controller.start environment request () = some started :=
  (Option.some_get start_isSome).symm

theorem controller_safe_sample :
    (controller.after environment started 7).node.ended = true ∧
      (controller.after environment started 7).world.audit.length ≤ 3 ∧
      ((controller.after environment started 7).world.consulted : Int) ≤ 2 := by
  have hlimit : controller.trustedCallLimit request = 3 := by decide
  have hsafe := controller_safe start_eq 7
  rw [hlimit] at hsafe
  exact ⟨hsafe.1 (by decide), hsafe.2.1, hsafe.2.2.2.2 rfl⟩

end Sample

end NovelAgent.Retrieval
