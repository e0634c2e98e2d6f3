import NovelAgent.Retrieval.ControllerSafety

/-!
# Information Gain

How many new units the calls of a run are said to have found.
-/

namespace NovelAgent.Retrieval

open Core Domain Session List

/-- A loaded value: a string, or a member of an enumeration of strings. -/
inductive PyValue
  | str (text : String)
  | member (value : String)

/-- A value is validated as an object or as JSON text. -/
inductive Mode
  | python
  | json

def strictString : PyValue → Option String
  | .str text => some text
  | .member value => some value

/-- A member of an enumeration. As an object it has to be a member already. -/
def strictMember {α : Type} (values : List (String × α)) : Mode → PyValue → Option α
  | .python, .member value => values.lookup value
  | .json, .str text => values.lookup text
  | _, _ => none

def unitKinds : List (String × RetrievalUnitKind) :=
  [("fact_anchor", .factAnchor), ("state_anchor", .stateAnchor),
    ("relation_anchor", .relationAnchor), ("event_anchor", .eventAnchor),
    ("scene_anchor", .sceneAnchor), ("chapter_anchor", .chapterAnchor),
    ("arc_anchor", .arcAnchor), ("plan_anchor", .planAnchor),
    ("grounded_block", .groundedBlock), ("grounded_span", .groundedSpan)]

def RetrievalUnitKind.value : RetrievalUnitKind → String
  | .factAnchor => "fact_anchor"
  | .stateAnchor => "state_anchor"
  | .relationAnchor => "relation_anchor"
  | .eventAnchor => "event_anchor"
  | .sceneAnchor => "scene_anchor"
  | .chapterAnchor => "chapter_anchor"
  | .arcAnchor => "arc_anchor"
  | .planAnchor => "plan_anchor"
  | .groundedBlock => "grounded_block"
  | .groundedSpan => "grounded_span"

def channels : List (String × RetrievalChannel) :=
  [("r0", .r0), ("r1_exact", .r1Exact), ("r1_temporal", .r1Temporal),
    ("anchor_bm25", .anchorBm25), ("anchor_dense", .anchorDense),
    ("grounded_bm25", .groundedBm25), ("grounded_dense", .groundedDense),
    ("hierarchy", .hierarchy), ("typed_graph", .typedGraph), ("rerank", .rerank)]

def RetrievalChannel.value : RetrievalChannel → String
  | .r0 => "r0"
  | .r1Exact => "r1_exact"
  | .r1Temporal => "r1_temporal"
  | .anchorBm25 => "anchor_bm25"
  | .anchorDense => "anchor_dense"
  | .groundedBm25 => "grounded_bm25"
  | .groundedDense => "grounded_dense"
  | .hierarchy => "hierarchy"
  | .typedGraph => "typed_graph"
  | .rerank => "rerank"

/-- A hit of one channel. -/
structure ChannelHit where
  unit : RetrievalUnit
  sourceCommit : CommitId
  snapshotId : StableId
  channel : RetrievalChannel
  text_ne : unit.text ≠ ""

/-- What a hit is dumped to, as an object: names instead of members. The fields that are
    left out are validated in the same way. -/
structure DumpedHit where
  unitId : PyValue
  unitKind : PyValue
  text : PyValue
  channel : PyValue

/-- A hit as it is dumped. -/
def ChannelHit.dumped (hit : ChannelHit) : DumpedHit where
  unitId := .str hit.unit.unitId.root
  unitKind := .str hit.unit.unitKind.value
  text := .str hit.unit.text
  channel := .str hit.channel.value

/-- The dump of a hit, read. -/
def validatedHit (mode : Mode) (raw : DumpedHit) : Option RetrievalUnit := do
  let root ← strictString raw.unitId
  let unitId ← StableId.ofString? root
  let unitKind ← strictMember unitKinds mode raw.unitKind
  let text ← strictString raw.text
  let _ ← strictMember channels mode raw.channel
  if text = "" then none else some { unitId := unitId, unitKind := unitKind, text := text }

/-- A dumped hit with its two readings. -/
def rawHit (hit : ChannelHit) : RawHit where
  unit := validatedHit .json hit.dumped
  loadedUnitId := (validatedHit .python hit.dumped).map RetrievalUnit.unitId

/-- What is read of a dumped hit. -/
theorem validatedHit_python (hit : ChannelHit) : validatedHit .python hit.dumped = none := by
  simp only [validatedHit, ChannelHit.dumped, strictMember, strictString, Option.bind_eq_bind,
    Option.bind_none, Option.bind_fun_none]

/-- How many of the units were not seen before. -/
def gainOver (seen unitIds : List StableId) : Nat :=
  (unitIds.eraseDups.filter fun id => decide (id ∉ seen)).length

/-- What a backend does when it is searched. -/
inductive BackendAnswer
  | found (hits : List ChannelHit)
  | timedOut
  | unavailable
  | raises (message : String)

/-- The tools of one request. -/
structure RetrievalToolAdapter where
  needs : List Stage1MemoryNeed
  needs_nodup : (needs.map Stage1MemoryNeed.needId).Nodup
  maxLimit : Nat
  allowedChannelsByNeed : List (StableId × List RetrievalChannel)

/-- The units seen in each scope, and what is outside. -/
structure AdapterState (σ : Type) where
  seen : RunId → TaskId → List StableId
  outside : σ

/-- What is around a controller over the adapter. -/
structure Surroundings (σ : Type) where
  monotonic : σ → ℚ × σ
  policyDecide : MemoryResolutionRequest → List ToolCall → σ → PolicyAnswer × σ
  search : Stage1MemoryNeed → RetrievalChannel → Nat → σ → BackendAnswer × σ
  freshnessCheck : MemoryResolutionRequest → σ → Bool × σ

namespace RetrievalToolAdapter

variable {σ : Type} (adapter : RetrievalToolAdapter) (around : Surroundings σ)

/-- Why a need may not be searched through a channel by the caller. -/
def refusal (context : ToolCallContext) (need : Stage1MemoryNeed) (channel : RetrievalChannel) :
    Option ToolFailureCode :=
  if need.runId ≠ context.runId ∨ need.taskId ≠ context.taskId then some .scopeMismatch
  else if need.baseCommit ≠ context.baseCommit then some .baseCommitMismatch
  else if need.accessScope ≠ context.accessScope.value then some .accessDenied
  else if (need.queryIntent ∈ planIntents ∨ need.retrievalMayReturnPlan = true) ∧
      context.planPermission = false then some .accessDenied
  else if (adapter.allowedChannelsByNeed.lookup need.needId).any fun allowed =>
      channel ∉ allowed then some .scopeMismatch
  else if poolByChannel channel = none ∨ ∃ pool ∈ poolByChannel channel,
      pool ∉ need.allowedCandidatePools then some .scopeMismatch
  else none

def answer (context : ToolCallContext) (hits : List ChannelHit) (seen : List StableId) :
    ToolResult where
  toolCallId := context.toolCallId
  status := .succeeded
  basisCommit := context.baseCommit
  snapshotId := context.snapshotId
  hits := some (hits.map rawHit)
  coverage := if hits = [] then 0 else 1
  newInformationGain := gainOver seen (hits.map fun hit => hit.unit.unitId)
  failureCode := none
  coverage_nonneg := by split <;> norm_num
  coverage_le := by split <;> norm_num
  failed_code := fun h => absurd h (by decide)
  succeeded_code := fun _ => rfl

/-- The tools over a backend. -/
def handler (context : ToolCallContext) (invocation : ToolInvocation) (state : AdapterState σ) :
    HandlerAnswer × AdapterState σ :=
  match channelByTool invocation.toolName with
  | none => (.raises invocation.toolName, state)
  | some channel =>
    if invocation.limit < 1 ∨ 100 < invocation.limit then
      (.returned (context.failure .invalidQuery), state)
    else
      match adapter.needs.find? fun need => need.needId = invocation.needId with
      | none => (.returned (context.failure .invalidQuery), state)
      | some need =>
        match adapter.refusal context need channel with
        | some code => (.returned (context.failure code), state)
        | none =>
          let search := around.search need channel (min invocation.limit adapter.maxLimit)
            state.outside
          let state := { state with outside := search.2 }
          match search.1 with
          | .timedOut => (.timedOut, state)
          | .unavailable => (.unavailable, state)
          | .raises message => (.raises message, state)
          | .found hits =>
            if hits.any fun hit => hit.sourceCommit ≠ context.baseCommit then
              (.returned (context.failure .baseCommitMismatch), state)
            else if context.snapshotId.any fun id => hits.any fun hit =>
                hit.snapshotId ≠ id then
              (.returned (context.failure .snapshotStale), state)
            else
              let seen := state.seen context.runId context.taskId
              (.returned (answer context hits seen),
                { state with
                  seen := fun runId taskId =>
                    if runId = context.runId ∧ taskId = context.taskId then
                      seen ++ hits.map fun hit => hit.unit.unitId
                    else state.seen runId taskId })

def environment : Environment (AdapterState σ) where
  monotonic := fun state =>
    ((around.monotonic state.outside).1,
      { state with outside := (around.monotonic state.outside).2 })
  policyDecide := fun request calls state =>
    ((around.policyDecide request calls state.outside).1,
      { state with outside := (around.policyDecide request calls state.outside).2 })
  handler := adapter.handler around
  freshnessCheck := fun request state =>
    ((around.freshnessCheck request state.outside).1,
      { state with outside := (around.freshnessCheck request state.outside).2 })

end RetrievalToolAdapter

/-- The units among the hits of an answer. -/
def hitIds (result : ToolResult) : List StableId :=
  if result.status = .succeeded then
    ((result.hits.getD []).filterMap RawHit.unit).map RetrievalUnit.unitId
  else []

/-- Every call is counted with the units that no call before it found. -/
structure GainsExact (calls : List ToolCall) : Prop where
  each : ∀ before call rest, calls = before ++ call :: rest → call.result.newInformationGain =
    gainOver (before.flatMap fun prior => hitIds prior.result) (hitIds call.result)
  total : (calls.map fun call => call.result.newInformationGain).sum =
    (calls.flatMap fun call => hitIds call.result).eraseDups.length

/-- No hit of the answer can be loaded as an object. -/
def Unloaded (result : ToolResult) : Prop :=
  ∀ hit ∈ result.hits.getD [], hit.loadedUnitId = none

/-- A call that is recorded without a gain, and whose hits add none to later calls. -/
def Uncounted (call : ToolCall) : Prop :=
  call.result.newInformationGain = 0 ∧ Unloaded call.result

variable {result : ToolResult}

variable (context : ToolCallContext)

section Adapter

variable {σ : Type} {adapter : RetrievalToolAdapter} {around : Surroundings σ}

theorem unloaded_failure (code : ToolFailureCode) : Unloaded (context.failure code) := by
  simp [Unloaded, ToolCallContext.failure, failedResult]

theorem handler_unloaded (invocation : ToolInvocation) (state : AdapterState σ)
    (h : (adapter.handler around context invocation state).1 = .returned result) :
    Unloaded result := by
  unfold RetrievalToolAdapter.handler at h
  split at h
  · cases h
  · split at h
    · cases h
      exact unloaded_failure _ _
    · split at h
      · cases h
        exact unloaded_failure _ _
      · split at h
        · cases h
          exact unloaded_failure _ _
        · dsimp only at h
          split at h
          · cases h
          · cases h
          · cases h
          · split at h
            · cases h
              exact unloaded_failure _ _
            · split at h
              · cases h
                exact unloaded_failure _ _
              · cases h
                simp [Unloaded, RetrievalToolAdapter.answer, rawHit, validatedHit_python]

end Adapter

section Run

variable {σ : Type} {c : Controller} {env : Environment σ}

theorem resultUnitIds_unloaded (h : Unloaded result) : resultUnitIds result = [] := by
  unfold resultUnitIds
  split
  · exact filterMap_eq_nil_iff.mpr h
  · rfl

theorem newInformationGain_unloaded (h : Unloaded result) (priorCalls : List ToolCall) :
    newInformationGain priorCalls result = 0 := by
  unfold newInformationGain
  rw [resultUnitIds_unloaded h]
  split <;> rfl

theorem ensures_handled {Q : HandlerAnswer → World σ → Prop} {E : ControllerError → World σ → Prop}
    {context : ToolCallContext} {invocation : ToolInvocation} {w : World σ} :
    Ensures (env.runHandler context invocation) Q E w ↔
      Q (env.handler context invocation w.outside).1
        { w with outside := (env.handler context invocation w.outside).2 } :=
  Iff.rfl

/-- The binding hands on what a handler returns, or fails by itself. -/
theorem invoke_unloaded
    (hhandler : ∀ context invocation outside result,
      (env.handler context invocation outside).1 = .returned result → Unloaded result)
    (invocation : ToolInvocation) (context : ToolCallContext) (w : World σ) :
    Ensures (c.invoke env invocation context) (fun result _ => Unloaded result)
      (fun _ _ => True) w := by
  unfold Controller.invoke
  simp only [ensures_bind, ensures_requested]
  split
  · trivial
  · split
    · trivial
    · rw [ensures_bind]
      refine ensures_toolBudgetExhausted fun exhausted outside => ?_
      cases exhausted with
      | true => exact unloaded_failure _ _
      | false =>
        simp only [Bool.false_eq_true, if_false, ensures_bind, ensures_readBudget,
          ensures_modifyBudget]
        refine ensures_clock fun now outside => ?_
        split
        · exact unloaded_failure _ _
        · rw [ensures_bind, ensures_handled]
          dsimp only
          cases hanswer : (env.handler context invocation outside).1 with
          | timedOut => exact unloaded_failure _ _
          | unavailable => exact unloaded_failure _ _
          | raises message => trivial
          | returned result =>
            dsimp only
            by_cases hcall : result.toolCallId ≠ context.toolCallId
            · rw [if_pos hcall]
              trivial
            · rw [if_neg hcall]
              by_cases hbasis : result.basisCommit ≠ context.baseCommit
              · rw [if_pos hbasis]
                exact unloaded_failure _ _
              · rw [if_neg hbasis]
                split
                · exact unloaded_failure _ _
                · exact hhandler _ _ _ _ hanswer

/-- An executed call is recorded without a gain. -/
theorem executeTool_uncounted
    (hhandler : ∀ context invocation outside result,
      (env.handler context invocation outside).1 = .returned result → Unloaded result)
    (state : ControllerGraphState) (w : World σ) :
    Ensures (c.executeTool env state)
      (fun state' _ => ∃ call, Uncounted call ∧ state'.toolCalls = state.toolCalls ++ [call])
      (fun _ _ => True) w := by
  unfold Controller.executeTool
  simp only [ensures_bind]
  refine ensures_mayContinue fun may outside => ?_
  cases may with
  | false =>
    simp only [Bool.not_false, if_true, ensures_bind, ensures_modifyBudget, ensures_ofExcept]
    refine ⟨fun id _ => ⟨fun needId _ => ⟨fun toolName _ => ?_, fun _ _ => trivial⟩,
      fun _ _ => trivial⟩, fun _ _ => trivial⟩
    exact ⟨_, ⟨rfl, by simp [Unloaded, failedResult]⟩, rfl⟩
  | true =>
    simp only [Bool.not_true, Bool.false_eq_true, if_false, ensures_bind, ensures_readBudget]
    refine ensures_clock fun now outside => ?_
    simp only [ensures_modifyBudget, ensures_ofExcept]
    refine ⟨fun id _ => ⟨fun toolName _ => ⟨fun needId _ => ?_, fun _ _ => trivial⟩,
      fun _ _ => trivial⟩, fun _ _ => trivial⟩
    refine (invoke_unloaded hhandler _ _ _).mono (fun result w' h => ?_) fun _ _ _ => trivial
    exact ⟨_, ⟨newInformationGain_unloaded h _, h⟩, rfl⟩

variable {config : Config σ}

theorem uncounted_tick
    (hhandler : ∀ context invocation outside result,
      (env.handler context invocation outside).1 = .returned result → Unloaded result)
    (h : ∀ call ∈ config.state.toolCalls, Uncounted call) :
    ∀ call ∈ (c.tick env config ()).state.toolCalls, Uncounted call := by
  unfold Controller.tick
  cases config.node with
  | finish => exact h
  | raised error => exact h
  | decide =>
    have hdecide := (ensures_iff _).mp (Controller.decide_ensures c env config.state config.world)
    dsimp only
    rcases heq : c.decide env config.state config.world with ⟨answer, w'⟩
    cases answer with
    | error error => exact h
    | ok state' =>
      have hcalls : state'.toolCalls = config.state.toolCalls := by
        rcases (hdecide.1 state' w' heq).2 with ⟨_, _, _, hcalls, _⟩ | ⟨_, hdecided⟩
        · exact hcalls
        · exact hdecided.calls
      simp only [Controller.settle, hcalls]
      exact h
  | executeTool =>
    have hexecute := (ensures_iff _).mp
      (executeTool_uncounted (c := c) hhandler config.state config.world)
    dsimp only
    rcases heq : c.executeTool env config.state config.world with ⟨answer, w'⟩
    cases answer with
    | error error => exact h
    | ok state' =>
      rcases hexecute.1 state' w' heq with ⟨call, hcall, hcalls⟩
      simp only [Controller.settle, hcalls]
      intro found hfound
      rcases mem_append.mp hfound with hfound | hfound
      · exact h found hfound
      · rw [mem_singleton.mp hfound]
        exact hcall

theorem uncounted_after
    (hhandler : ∀ context invocation outside result,
      (env.handler context invocation outside).1 = .returned result → Unloaded result)
    (h : ∀ call ∈ config.state.toolCalls, Uncounted call) (steps : Nat) :
    ∀ call ∈ (c.after env config steps).state.toolCalls, Uncounted call := by
  induction steps with
  | zero => exact h
  | succ steps ih =>
    rw [Controller.after_succ]
    exact uncounted_tick hhandler ih

end Run

/-- Calls without a gain are exact when they have no hit. -/
theorem gainsExact_uncounted {calls : List ToolCall} (h : ∀ call ∈ calls, Uncounted call) :
    GainsExact calls ↔ ∀ call ∈ calls, hitIds call.result = [] := by
  have hsum : (calls.map fun call => call.result.newInformationGain).sum = 0 :=
    sum_eq_zero fun gain hgain => by
      rcases mem_map.mp hgain with ⟨call, hcall, rfl⟩
      exact (h call hcall).1
  constructor
  · intro hexact
    have hnone := length_eq_zero_iff.mp (hexact.total.symm.trans hsum)
    intro call hcall
    refine eq_nil_iff_forall_not_mem.mpr fun id hid => ?_
    have hmem : id ∈ (calls.flatMap fun call => hitIds call.result).eraseDups :=
      mem_eraseDups.mpr (mem_flatMap.mpr ⟨call, hcall, hid⟩)
    rw [hnone] at hmem
    exact absurd hmem not_mem_nil
  · intro hempty
    constructor
    · rintro before call rest rfl
      have hmem : call ∈ before ++ call :: rest := by simp
      rw [(h call hmem).1, hempty call hmem]
      rfl
    · rw [hsum, flatMap_eq_nil_iff.mpr hempty]
      rfl

namespace Sample

def ring : ChannelHit where
  unit := { unitId := ⟨"unit.a", .refl true⟩, unitKind := .eventAnchor, text := "The ring." }
  sourceCommit := commit
  snapshotId := ⟨"snapshot.a", .refl true⟩
  channel := .anchorBm25
  text_ne := by decide

def adapter : RetrievalToolAdapter where
  needs := [need]
  needs_nodup := by decide
  maxLimit := 20
  allowedChannelsByNeed := []

def around : Surroundings Unit where
  monotonic := fun outside => (0, outside)
  policyDecide := fun _ _ outside =>
    (.pair ⟨"need.a", .refl true⟩ "memory.search_anchor_bm25", outside)
  search := fun _ _ _ outside => (.found [ring], outside)
  freshnessCheck := fun _ outside => (true, outside)

def unseen : AdapterState Unit := ⟨fun _ _ => [], ()⟩

theorem adapted_isSome :
    (controller.start (adapter.environment around) request unseen).isSome = true := by
  decide +kernel

end Sample

end NovelAgent.Retrieval
