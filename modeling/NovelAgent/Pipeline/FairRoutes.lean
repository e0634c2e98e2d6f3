import Mathlib.Data.List.Lex
import Mathlib.Data.List.MinMax
import Mathlib.Logic.Function.Basic
import NovelAgent.Pipeline.RegisteredRoute

/-!
# Fair Scheduling of Registered Routes

The calls that a backend may still answer are shared among needs. Each round asks every
need for the channel that its route would search next, which depends on all that the need
has got so far, and searches for the need that comes first: until each of them had a call
those that had none, and after that by their weight for the task.
-/

namespace NovelAgent.Pipeline

open Core Domain List

open Evidence (NeedExecutionStatus)

open Retrieval (RetrievalChannel planIntents)

/-- One search: for a need, with a query text in the place of its own, in a channel. -/
structure Search where
  need : RetrievalNeed
  queryText : String
  channel : RetrievalChannel
  limit : Nat

/-- What a backend answers, after the searches before. -/
abbrev RetrievalBackend := List Search → Search → Except String (List ChannelHit)

/-- `_BudgetedBackend`, with the searches that its backend has answered. -/
structure BudgetedBackend where
  backend : RetrievalBackend
  maxCalls : Nat
  callCount : Nat
  exhausted : Bool
  searches : List Search

def BudgetedBackend.asked (budgeted : BudgetedBackend) (search : Search) : BudgetedBackend :=
  { budgeted with
    callCount := budgeted.callCount + 1
    searches := budgeted.searches ++ [search] }

/-- `_BudgetedBackend.search` -/
def BudgetedBackend.search (budgeted : BudgetedBackend) (search : Search) :
    BudgetedBackend × Except String (List ChannelHit) :=
  if budgeted.maxCalls ≤ budgeted.callCount then ({ budgeted with exhausted := true }, .ok [])
  else (budgeted.asked search, budgeted.backend budgeted.searches search)

/-- The needs of a request with the routes registered for them, and what they are searched with. -/
structure FairRun where
  casefold : String → String
  routePlans : StableId → Option RegisteredRoute
  reranker : Option RerankService
  backend : RetrievalBackend
  maxCalls : Nat
  needs : List RetrievalNeed
  allowFuturePlan : Bool
  perChannelLimit : Nat

/-- The routes to be searched, and the needs that are not. -/
structure Prepared where
  plans : Dict StableId RegisteredRoute
  blocked : Dict StableId NeedExecutionStatus

/-- How far the searches are. -/
structure Progress where
  backend : BudgetedBackend
  results : StableId → ChannelResults
  callCounts : StableId → Nat

/-- A search that the route of a need would make next. -/
structure PendingCall where
  need : RetrievalNeed
  channel : RetrievalChannel
  isFallback : Bool
  isContinuation : Bool

def Progress.answer (progress : Progress) (backend : BudgetedBackend) (needId : StableId)
    (channel : RetrievalChannel) (hits : List ChannelHit) : Progress where
  backend := backend
  results := Function.update progress.results needId ((progress.results needId).set channel hits)
  callCounts := Function.update progress.callCounts needId (progress.callCounts needId + 1)

/-- How the searches end. -/
inductive Ending
  | finished
  | raised (error : String)

def searchesFor (searches : List Search) (needId : StableId) : List Search :=
  searches.filter fun search => search.need.needId = needId

def searchedIds (searches : List Search) : List StableId :=
  searches.map fun search => search.need.needId

/-- The channels of a route that come before its fallbacks. -/
def primaryChannels (plan : RegisteredRoute) : List RetrievalChannel :=
  ((plan.mandatorySteps ++ plan.primaryGroups.flatMap fun group => group.steps).map
    fun step => step.channel).eraseDups

namespace FairRun

variable (run : FairRun)

/-- The need is about plans, which the request may not see. -/
def scopeBlocked (need : RetrievalNeed) : Bool :=
  need.queryIntent ∈ planIntents && !run.allowFuturePlan

def prepareNeed (prepared : Prepared) (need : RetrievalNeed) : Except String Prepared :=
  if run.scopeBlocked need then
    .ok { prepared with blocked := prepared.blocked.set need.needId .notExecutedScopeBlocked }
  else
    match run.routePlans need.needId with
    | none => .error "registered-route run has no RoutePlan for an actual Need"
    | some plan =>
      if plan.baseCommit ≠ need.baseCommit then
        .error "registered RoutePlan basis differs from its Need"
      else if plan.effectiveChannels = [] then
        .ok { prepared with
          blocked := prepared.blocked.set need.needId .notExecutedNoExecutableQuery }
      else .ok { prepared with plans := prepared.plans.set need.needId plan }

def prepare : Except String Prepared :=
  run.needs.foldlM run.prepareNeed ⟨Dict.empty, Dict.empty⟩

/-- The needs under their identities, the last one of an identity in the first place. -/
def distinctNeeds : List RetrievalNeed :=
  (run.needs.foldl (fun needs need => needs.set need.needId need) Dict.empty :
    Dict StableId RetrievalNeed).values

/-- The place of the last need of an identity. -/
def indexByNeed (needId : StableId) : Nat :=
  ((run.needs.zipIdx.filter fun pair => pair.1.needId = needId).getLast?.map Prod.snd).getD 0

/-- The first search of a fallback that applies and has one left. -/
def fallbackFrom (need : RetrievalNeed) (candidates : List FusedCandidate)
    (results : ChannelResults) :
    List FusedFallback → Except String (Option (RetrievalChannel × Bool))
  | [] => .ok none
  | fallback :: rest =>
    match (fallback.steps.map fun step => step.channel).filter (· ∉ answered results) with
    | [] => fallbackFrom need candidates results rest
    | channel :: others => do
        if ← fallbackApplies run.casefold fallback.condition candidates need then
          return some (channel, decide (others.length + 1 < fallback.steps.length))
        else fallbackFrom need candidates results rest

/-- `next_registered_fallback` -/
def nextRegisteredFallback (need : RetrievalNeed) (plan : RegisteredRoute)
    (results : ChannelResults) : Except String (Option (RetrievalChannel × Bool)) := do
  let soFar ← assembleRouteTrace need plan results run.perChannelLimit none
  run.fallbackFrom need soFar.candidates results plan.conditionalFallbacks

/-- `next_channel`: The channel, whether it is a fallback's, and whether it continues one. -/
def nextChannel (need : RetrievalNeed) (plan : RegisteredRoute) (results : ChannelResults) :
    Except String (Option (RetrievalChannel × Bool × Bool)) :=
  match (primaryChannels plan).find? fun channel => channel ∉ answered results with
  | some channel =>
    if (primaryChannels plan).head? = some channel then .ok (some (channel, false, false))
    else do
      -- A fallback comes before a second channel of the route itself.
      let early ← run.nextRegisteredFallback need plan results
      return some (match early with
        | some (rescue, continued) => (rescue, true, continued)
        | none => (channel, false, false))
  | none => do
      let fallback ← run.nextRegisteredFallback need plan results
      return fallback.map fun (channel, continued) => (channel, true, continued)

variable (prepared : Prepared)

/-- All searches that a need would make next. -/
def pendingFrom (results : StableId → ChannelResults) :
    List RetrievalNeed → Except String (List PendingCall)
  | [] => .ok []
  | need :: rest =>
    match prepared.plans.get? need.needId with
    | none => pendingFrom results rest
    | some plan => do
        let next ← run.nextChannel need plan (results need.needId)
        let others ← pendingFrom results rest
        return match next with
          | some (channel, isFallback, continued) =>
            ⟨need, channel, isFallback, continued⟩ :: others
          | none => others

/-- Each need to be searched had a call. -/
def initialRoundComplete (callCounts : StableId → Nat) : Bool :=
  prepared.plans.entries.all fun entry => 1 ≤ callCounts entry.1

def riskOrder : Retrieval.NeedRisk → Int
  | .high => 0
  | .medium => 1
  | .low => 2

/-- The order of the searches. -/
def roundKey (callCounts : StableId → Nat) (call : PendingCall) : List Int :=
  let complete := initialRoundComplete prepared callCounts
  let calls : Int := callCounts call.need.needId
  [if complete && call.isContinuation then 0 else 1,
    if complete then 0 else calls,
    if call.need.requirement = .mandatory then 0 else 1,
    riskOrder call.need.riskLevel,
    -call.need.declaredFacetIds.length,
    -call.need.priority,
    calls,
    if call.isFallback then 0 else 1,
    run.indexByNeed call.need.needId]

def searchOf (call : PendingCall) : Search where
  need := call.need
  queryText := if call.isFallback then historicalFallbackQuery call.need else call.need.queryText
  channel := call.channel
  limit := run.perChannelLimit

/-- One round: the first of the pending calls is made. -/
def round (progress : Progress) : Progress × Option Ending :=
  if progress.backend.maxCalls ≤ progress.backend.callCount then (progress, some .finished)
  else
    match run.pendingFrom prepared progress.results run.distinctNeeds with
    | .error error => (progress, some (.raised error))
    | .ok pending =>
      match pending.argmin (run.roundKey prepared progress.callCounts) with
      | none => (progress, some .finished)
      | some call =>
        match progress.backend.search (run.searchOf call) with
        | (backend, .error error) =>
          ({ progress with backend := backend }, some (.raised error))
        | (backend, .ok hits) =>
          (progress.answer backend call.need.needId call.channel hits, none)

/-- Rounds until they end. -/
def rounds : Nat → Progress → Progress × Option Ending
  | 0, progress => (progress, none)
  | fuel + 1, progress =>
    match run.round prepared progress with
    | (next, none) => rounds fuel next
    | ended => ended

def stillPendingFrom (results : StableId → ChannelResults) :
    List RetrievalNeed → Except String Bool
  | [] => .ok false
  | need :: rest =>
    match prepared.plans.get? need.needId with
    | none => stillPendingFrom results rest
    | some plan => do
        let next ← run.nextChannel need plan (results need.needId)
        if next.isSome then return true
        else stillPendingFrom results rest

def traceOf (progress : Progress) (need : RetrievalNeed) :
    Except String (RetrievalNeed × RouteTrace) :=
  match prepared.blocked.get? need.needId with
  | some status => .ok (need, emptyTrace need status (run.routePlans need.needId))
  | none =>
    if progress.callCounts need.needId = 0 ∧ progress.backend.exhausted = true then
      .ok (need, emptyTrace need .notExecutedBudgetExhausted none)
    else
      match prepared.plans.get? need.needId with
      | none => .error "KeyError"
      | some plan => do
          let trace ← assembleRouteTrace need plan (progress.results need.needId)
            run.perChannelLimit run.reranker
          return (need, trace)

/-- Nothing was searched. -/
def start : Progress where
  backend := ⟨run.backend, run.maxCalls, 0, false, []⟩
  results := fun _ => Dict.empty
  callCounts := fun _ => 0

/-- `_retrieve_fair_registered_routes`: How far the searches got, and what is returned or
    raised. Nothing is, if the rounds do not end. -/
def retrieveFairRegisteredRoutes :
    Progress × Option (Except String (List (RetrievalNeed × RouteTrace))) :=
  match run.prepare with
  | .error error => (run.start, some (.error error))
  | .ok prepared =>
    match run.rounds prepared (run.maxCalls + 1) run.start with
    | (progress, none) => (progress, none)
    | (progress, some (.raised error)) => (progress, some (.error error))
    | (progress, some .finished) =>
      match run.stillPendingFrom prepared progress.results run.distinctNeeds with
      | .error error => (progress, some (.error error))
      | .ok stillPending =>
        let spent := decide (progress.backend.maxCalls ≤ progress.backend.callCount)
        let ended := { progress with
          backend := { progress.backend with exhausted := spent && stillPending } }
        (ended, some (run.needs.mapM (run.traceOf prepared ended)))

/-- The need would search a channel next, after the answers it has got. -/
def HasNext (need : RetrievalNeed) (results : ChannelResults) : Prop :=
  ∃ prepared plan next, run.prepare = .ok prepared ∧
    prepared.plans.get? need.needId = some plan ∧
      run.nextChannel need plan results = .ok (some next)

/-- What holds of the searches made. -/
structure Fair (searches : List Search) : Prop where
  within : searches.length ≤ run.maxCalls
  once : (searches.map fun search => (search.need.needId, search.channel)).Nodup
  registered : ∀ search ∈ searches, ∃ plan, run.routePlans search.need.needId = some plan ∧
    search.channel ∈ plan.effectiveChannels
  /-- No second call before the first call of each need that would make one. -/
  firstCalls : ∀ earlier search later, searches = earlier ++ search :: later →
    search.need.needId ∈ searchedIds earlier → ∀ need ∈ run.distinctNeeds,
      run.HasNext need Dict.empty → need.needId ∈ searchedIds earlier

/-- Needs of one identity are alike in whether the scope blocks them. -/
def SameScope : Prop :=
  ∀ a ∈ run.needs, ∀ b ∈ run.needs, a.needId = b.needId → run.scopeBlocked a = run.scopeBlocked b

/-- What holds of a run: it ends, its searches are fair, it is exhausted exactly when the
    budget is used up and some need has a next channel, and its traces count the searches. -/
structure FairlyRetrieved (progress : Progress)
    (outcome : Option (Except String (List (RetrievalNeed × RouteTrace)))) : Prop where
  ends : outcome.isSome = true
  fair : run.Fair progress.backend.searches
  exhausted : ∀ traces, outcome = some (.ok traces) → (progress.backend.exhausted = true ↔
    progress.backend.searches.length = run.maxCalls ∧
      ∃ need ∈ run.distinctNeeds, run.HasNext need (progress.results need.needId))
  traced : ∀ traces, outcome = some (.ok traces) → traces.map Prod.fst = run.needs
  allocated : run.SameScope → ∀ traces, outcome = some (.ok traces) → ∀ entry ∈ traces,
    entry.2.callsAllocated = (searchesFor progress.backend.searches entry.1.needId).length

variable {needs : List RetrievalNeed} {needId : StableId}

section Preparation

variable {run : FairRun} {prepared next : Prepared} {need : RetrievalNeed}

/-- What `prepare` sorts the needs into. -/
structure Sorted (run : FairRun) (needs : List RetrievalNeed) (prepared : Prepared) : Prop where
  plans : ∀ needId plan, prepared.plans.get? needId = some plan →
    run.routePlans needId = some plan ∧ plan.effectiveChannels ≠ [] ∧
      ∃ need ∈ needs, need.needId = needId ∧ run.scopeBlocked need = false
  blocked : ∀ needId status, prepared.blocked.get? needId = some status →
    (∃ need ∈ needs, need.needId = needId ∧ run.scopeBlocked need = true) ∨
      ∃ plan, run.routePlans needId = some plan ∧ plan.effectiveChannels = []

theorem prepareNeed_cases (h : run.prepareNeed prepared need = .ok next) :
    (∃ status, next = { prepared with blocked := prepared.blocked.set need.needId status } ∧
      (run.scopeBlocked need = true ∨
        ∃ plan, run.routePlans need.needId = some plan ∧ plan.effectiveChannels = [])) ∨
    ∃ plan, next = { prepared with plans := prepared.plans.set need.needId plan } ∧
      run.routePlans need.needId = some plan ∧ plan.effectiveChannels ≠ [] ∧
        run.scopeBlocked need = false := by
  unfold prepareNeed at h
  by_cases hscope : run.scopeBlocked need = true
  · rw [if_pos hscope] at h
    exact .inl ⟨_, (Except.ok.inj h).symm, .inl hscope⟩
  · rw [if_neg hscope] at h
    cases hplan : run.routePlans need.needId with
    | none =>
      rw [hplan] at h
      cases h
    | some plan =>
      rw [hplan] at h
      dsimp only at h
      by_cases hbasis : plan.baseCommit ≠ need.baseCommit
      · rw [if_pos hbasis] at h
        cases h
      · rw [if_neg hbasis] at h
        by_cases hchannels : plan.effectiveChannels = []
        · rw [if_pos hchannels] at h
          exact .inl ⟨_, (Except.ok.inj h).symm, .inr ⟨plan, rfl, hchannels⟩⟩
        · rw [if_neg hchannels] at h
          exact .inr ⟨plan, (Except.ok.inj h).symm, rfl, hchannels, Bool.not_eq_true _ ▸ hscope⟩

theorem prepareNeed_sorted (h : Sorted run needs prepared)
    (hnext : run.prepareNeed prepared need = .ok next) : Sorted run (needs ++ [need]) next := by
  have hmono {P : RetrievalNeed → Prop} (hex : ∃ other ∈ needs, P other) :
      ∃ other ∈ needs ++ [need], P other := by
    rcases hex with ⟨other, hmem, hother⟩
    exact ⟨other, mem_append_left _ hmem, hother⟩
  have hlast : need ∈ needs ++ [need] := mem_append_right _ (mem_singleton_self need)
  rcases prepareNeed_cases hnext with ⟨status, rfl, hblocked⟩ | ⟨plan, rfl, hplan⟩
  · refine ⟨fun needId plan hget => ?_, fun needId other hget => ?_⟩
    · have hold := h.plans needId plan hget
      exact ⟨hold.1, hold.2.1, hmono hold.2.2⟩
    · rw [Dict.get?_set] at hget
      by_cases hid : needId = need.needId
      · rw [hid]
        exact hblocked.imp_left fun hscope => ⟨need, hlast, rfl, hscope⟩
      · rw [if_neg hid] at hget
        exact (h.blocked needId other hget).imp_left hmono
  · refine ⟨fun needId other hget => ?_, fun needId status hget => ?_⟩
    · rw [Dict.get?_set] at hget
      by_cases hid : needId = need.needId
      · rw [if_pos hid, Option.some.injEq] at hget
        rw [hid, ← hget]
        exact ⟨hplan.1, hplan.2.1, need, hlast, rfl, hplan.2.2⟩
      · rw [if_neg hid] at hget
        have hold := h.plans needId other hget
        exact ⟨hold.1, hold.2.1, hmono hold.2.2⟩
    · exact (h.blocked needId status hget).imp_left hmono

theorem prepare_sorted (h : run.prepare = .ok prepared) : Sorted run run.needs prepared :=
  Outcome.foldlM_induct (motive := Sorted run) (fun _ _ _ _ => prepareNeed_sorted) []
    ⟨fun _ _ hget => (by cases hget), fun _ _ hget => (by cases hget)⟩ h

theorem plans_of_blocked (h : run.prepare = .ok prepared) (hscope : run.SameScope)
    {status : NeedExecutionStatus} (hblocked : prepared.blocked.get? needId = some status) :
    prepared.plans.get? needId = none := by
  have hsorted := prepare_sorted h
  cases hplan : prepared.plans.get? needId with
  | none => rfl
  | some plan =>
    rcases hsorted.plans needId plan hplan with ⟨hroute, hchannels, free, hfree, hfreeId, hopen⟩
    rcases hsorted.blocked needId status hblocked with ⟨need, hneed, hid, hclosed⟩ |
      ⟨other, hother, hempty⟩
    · rw [hscope need hneed free hfree (hid.trans hfreeId.symm), hopen] at hclosed
      cases hclosed
    · rw [hroute, Option.some.injEq] at hother
      exact absurd (hother ▸ hempty) hchannels

end Preparation

section Channels

variable {run : FairRun} {prepared : Prepared} {need : RetrievalNeed} {plan : RegisteredRoute}
  {results : ChannelResults} {channel : RetrievalChannel} {isFallback continued : Bool}

theorem fallbackFrom_spec {candidates : List FusedCandidate} {fallbacks : List FusedFallback}
    (h : run.fallbackFrom need candidates results fallbacks = .ok (some (channel, continued))) :
    channel ∉ answered results ∧
      channel ∈ (fallbacks.flatMap fun fallback => fallback.steps).map fun step => step.channel := by
  induction fallbacks with
  | nil => cases h
  | cons fallback rest ih =>
    rw [flatMap_cons, map_append, mem_append]
    unfold fallbackFrom at h
    split at h
    · exact (ih h).imp_right .inr
    · rename_i first others hremaining
      rcases (Outcome.bind_eq_ok _ _ _).mp h with ⟨applies, _, h⟩
      cases applies with
      | false => exact (ih h).imp_right .inr
      | true =>
        obtain rfl : first = channel :=
          congrArg Prod.fst (Option.some.inj ((Outcome.pure_eq_ok _ _).mp h))
        have hfirst := mem_filter.mp (hremaining ▸ mem_cons_self (a := first))
        exact ⟨of_decide_eq_true hfirst.2, .inl hfirst.1⟩

theorem nextRegisteredFallback_spec
    (h : run.nextRegisteredFallback need plan results = .ok (some (channel, continued))) :
    channel ∉ answered results ∧ channel ∈ plan.effectiveChannels := by
  rcases (Outcome.bind_eq_ok _ _ _).mp h with ⟨soFar, _, h⟩
  have hspec := fallbackFrom_spec h
  refine ⟨hspec.1, (plan.effective_iff channel).mpr ?_⟩
  rw [map_append]
  exact mem_append_right _ hspec.2

theorem nextChannel_spec
    (h : run.nextChannel need plan results = .ok (some (channel, isFallback, continued))) :
    channel ∉ answered results ∧ channel ∈ plan.effectiveChannels := by
  unfold nextChannel at h
  split at h
  · rename_i primary hprimary
    have hnew : primary ∉ answered results := by
      have hfound := List.find?_some hprimary
      exact of_decide_eq_true hfound
    have hroute : primary ∈ plan.effectiveChannels := by
      have hmem := mem_eraseDups.mp (mem_of_find?_eq_some hprimary)
      rw [plan.effective_iff, map_append]
      exact mem_append_left _ hmem
    split at h
    · cases h
      exact ⟨hnew, hroute⟩
    · rcases (Outcome.bind_eq_ok _ _ _).mp h with ⟨early, hearly, h⟩
      have heq := Option.some.inj ((Outcome.pure_eq_ok _ _).mp h)
      cases early with
      | none =>
        obtain rfl : primary = channel := congrArg Prod.fst heq
        exact ⟨hnew, hroute⟩
      | some rescue =>
        obtain rfl : rescue.1 = channel := congrArg Prod.fst heq
        exact @nextRegisteredFallback_spec _ _ _ _ _ rescue.2 hearly
  · rcases (Outcome.bind_eq_ok _ _ _).mp h with ⟨fallback, hfallback, h⟩
    rcases Option.map_eq_some_iff.mp ((Outcome.pure_eq_ok _ _).mp h) with ⟨rescue, rfl, heq⟩
    obtain rfl : rescue.1 = channel := congrArg Prod.fst heq
    exact @nextRegisteredFallback_spec _ _ _ _ _ rescue.2 hfallback

theorem mem_pendingFrom {results : StableId → ChannelResults} {pending : List PendingCall}
    (h : run.pendingFrom prepared results needs = .ok pending) {call : PendingCall} :
    call ∈ pending ↔ ∃ need ∈ needs, ∃ plan,
      prepared.plans.get? need.needId = some plan ∧ call.need = need ∧
        run.nextChannel need plan (results need.needId) =
          .ok (some (call.channel, call.isFallback, call.isContinuation)) := by
  induction needs generalizing pending with
  | nil =>
    cases h
    simp
  | cons need rest ih =>
    rw [exists_mem_cons_iff]
    unfold pendingFrom at h
    split at h
    · rename_i hplan
      rw [ih h, hplan]
      simp
    · rename_i plan hplan
      rcases (Outcome.bind_eq_ok _ _ _).mp h with ⟨next, hnext, h⟩
      rcases (Outcome.bind_eq_ok _ _ _).mp h with ⟨others, hothers, h⟩
      rw [← ih hothers, hplan, ← (Outcome.pure_eq_ok _ _).mp h]
      cases next with
      | none => simp [hnext]
      | some next =>
        rw [mem_cons]
        refine or_congr_left ⟨?_, ?_⟩
        · rintro rfl
          exact ⟨plan, rfl, rfl, hnext⟩
        · rintro ⟨other, hother, hneed, hcall⟩
          cases hother
          rw [hnext, Except.ok.injEq, Option.some.injEq] at hcall
          cases call
          cases hneed
          cases hcall
          rfl

theorem stillPendingFrom_iff {results : StableId → ChannelResults} {stillPending : Bool}
    (h : run.stillPendingFrom prepared results needs = .ok stillPending) :
    stillPending = true ↔ ∃ need ∈ needs, ∃ plan next,
      prepared.plans.get? need.needId = some plan ∧
        run.nextChannel need plan (results need.needId) = .ok (some next) := by
  induction needs with
  | nil =>
    cases h
    simp
  | cons need rest ih =>
    rw [exists_mem_cons_iff]
    unfold stillPendingFrom at h
    split at h
    · rename_i hplan
      rw [ih h, hplan]
      simp
    · rename_i plan hplan
      rcases (Outcome.bind_eq_ok _ _ _).mp h with ⟨next, hnext, h⟩
      cases next with
      | none =>
        rw [ih h, hplan]
        simp [hnext]
      | some next =>
        obtain rfl := (Outcome.pure_eq_ok _ _).mp h
        exact iff_of_true rfl (.inl ⟨plan, next, hplan, hnext⟩)

end Channels

section Rounds

/-- The searches are those that the results stand for. -/
structure Tracks (run : FairRun) (prepared : Prepared) (progress : Progress) : Prop where
  fair : run.Fair progress.backend.searches
  maxCalls : progress.backend.maxCalls = run.maxCalls
  callCount : progress.backend.callCount = progress.backend.searches.length
  planned : ∀ search ∈ progress.backend.searches, ∃ plan,
    prepared.plans.get? search.need.needId = some plan
  results : ∀ needId, answered (progress.results needId) =
    (searchesFor progress.backend.searches needId).map Search.channel
  counts : ∀ needId,
    progress.callCounts needId = (searchesFor progress.backend.searches needId).length

/-- The call that a round makes: there is room for it, and it is the first of those pending. -/
structure Chosen (run : FairRun) (prepared : Prepared) (progress : Progress)
    (call : PendingCall) : Prop where
  room : progress.backend.callCount < progress.backend.maxCalls
  first : ∃ pending, run.pendingFrom prepared progress.results run.distinctNeeds = .ok pending ∧
    pending.argmin (run.roundKey prepared progress.callCounts) = some call

variable {run : FairRun} {prepared : Prepared} {progress : Progress} {call : PendingCall}

theorem search_room (hroom : progress.backend.callCount < progress.backend.maxCalls)
    (search : Search) : progress.backend.search search = (progress.backend.asked search,
      progress.backend.backend progress.backend.searches search) :=
  if_neg (by omega)

theorem round_cases (run : FairRun) (prepared : Prepared) (progress : Progress) :
    (∃ ending, run.round prepared progress = (progress, some ending)) ∨
      ∃ call, Chosen run prepared progress call ∧
        ((∃ error, run.round prepared progress =
            ({ progress with backend := progress.backend.asked (run.searchOf call) },
              some (.raised error))) ∨
          ∃ hits, run.round prepared progress =
            (progress.answer (progress.backend.asked (run.searchOf call)) call.need.needId
              call.channel hits, none)) := by
  unfold round
  by_cases hspent : progress.backend.maxCalls ≤ progress.backend.callCount
  · rw [if_pos hspent]
    exact .inl ⟨_, rfl⟩
  · rw [if_neg hspent]
    have hroom := Nat.lt_of_not_le hspent
    cases hpending : run.pendingFrom prepared progress.results run.distinctNeeds with
    | error error => exact .inl ⟨_, rfl⟩
    | ok pending =>
      dsimp only
      cases hleast : pending.argmin (run.roundKey prepared progress.callCounts) with
      | none => exact .inl ⟨_, rfl⟩
      | some call =>
        refine .inr ⟨call, ⟨hroom, pending, hpending, hleast⟩, ?_⟩
        dsimp only
        rw [search_room hroom]
        cases progress.backend.backend progress.backend.searches (run.searchOf call) with
        | error error => exact .inl ⟨error, rfl⟩
        | ok hits => exact .inr ⟨hits, rfl⟩

theorem chosen_next (h : Chosen run prepared progress call) : ∃ plan,
    prepared.plans.get? call.need.needId = some plan ∧
      call.channel ∉ answered (progress.results call.need.needId) ∧
        call.channel ∈ plan.effectiveChannels := by
  rcases h.first with ⟨pending, hpending, hleast⟩
  have hmem := argmin_mem (Option.mem_def.mpr hleast)
  rcases (mem_pendingFrom hpending).mp hmem with ⟨need, _, plan, hplan, rfl, hnext⟩
  exact ⟨plan, hplan, nextChannel_spec hnext⟩

theorem mem_searchesFor {searches : List Search} {search : Search} :
    search ∈ searchesFor searches needId ↔ search ∈ searches ∧ search.need.needId = needId := by
  unfold searchesFor
  rw [mem_filter, decide_eq_true_eq]

theorem counted_iff (h : Tracks run prepared progress) :
    1 ≤ progress.callCounts needId ↔ needId ∈ searchedIds progress.backend.searches := by
  rw [h.counts, Nat.one_le_iff_ne_zero, ← Nat.pos_iff_ne_zero, length_pos_iff_exists_mem,
    searchedIds, mem_map]
  simp only [mem_searchesFor]

theorem answered_iff (h : Tracks run prepared progress) {channel : RetrievalChannel} :
    channel ∈ answered (progress.results needId) ↔
      (needId, channel) ∈ progress.backend.searches.map fun search =>
        (search.need.needId, search.channel) := by
  rw [h.results, mem_map, mem_map]
  simp only [mem_searchesFor, Prod.mk.injEq, and_assoc]

theorem chosen_first (hprepared : run.prepare = .ok prepared) (h : Tracks run prepared progress)
    (hcall : Chosen run prepared progress call)
    (hagain : call.need.needId ∈ searchedIds progress.backend.searches) {need : RetrievalNeed}
    (hneed : need ∈ run.distinctNeeds) (hnext : run.HasNext need Dict.empty) :
    need.needId ∈ searchedIds progress.backend.searches := by
  by_contra hfresh
  rcases hcall.first with ⟨pending, hpending, hleast⟩
  rcases hnext with ⟨found, plan, ⟨channel, isFallback, continued⟩, hfound, hplan, hchannel⟩
  obtain rfl : found = prepared := Except.ok.inj (hfound.symm.trans hprepared)
  -- Without a call there is no answer either, so its next channel is that of the start.
  have hcount : progress.callCounts need.needId = 0 := by
    have := mt (counted_iff h).mp hfresh
    omega
  have hresults : progress.results need.needId = Dict.empty := by
    have hnone := h.results need.needId
    rw [eq_nil_of_length_eq_zero ((h.counts need.needId).symm.trans hcount)] at hnone
    exact Dict.ext_entries (map_eq_nil_iff.mp hnone)
  have hmem : (⟨need, channel, isFallback, continued⟩ : PendingCall) ∈ pending := by
    rw [mem_pendingFrom hpending]
    exact ⟨need, hneed, plan, hplan, rfl, hresults ▸ hchannel⟩
  have hopen : initialRoundComplete found progress.callCounts = false := by
    refine Bool.eq_false_iff.mpr fun hall => ?_
    have hone := all_eq_true.mp hall _ (Dict.get?_eq_some.mp hplan)
    rw [decide_eq_true_eq, hcount] at hone
    omega
  have hless := not_lt_of_mem_argmin hmem (Option.mem_def.mpr hleast)
  have hone := (counted_iff h).mpr hagain
  unfold roundKey at hless
  rw [hopen] at hless
  simp only [Bool.false_and, Bool.false_eq_true, if_false, hcount] at hless
  rw [cons_lt_cons_iff, cons_lt_cons_iff] at hless
  omega

/-- One more search leaves them fair. -/
theorem fair_next (hprepared : run.prepare = .ok prepared) (h : Tracks run prepared progress)
    (hcall : Chosen run prepared progress call) :
    run.Fair (progress.backend.searches ++ [run.searchOf call]) := by
  rcases chosen_next hcall with ⟨plan, hplan, hnew, hroute⟩
  refine ⟨?_, ?_, fun search hmem => ?_, fun earlier search later hsplit hagain need hneed hnext => ?_⟩
  · have hroom := hcall.room
    rw [h.callCount, h.maxCalls] at hroom
    rwa [length_append, length_singleton]
  · rw [map_append]
    refine nodup_append.mpr ⟨h.fair.once, nodup_singleton _, fun old hold last hlast => ?_⟩
    rintro rfl
    rw [map_singleton, mem_singleton] at hlast
    rw [hlast] at hold
    exact hnew ((answered_iff h).mpr hold)
  · rcases mem_append.mp hmem with hmem | hmem
    · exact h.fair.registered search hmem
    · rw [mem_singleton.mp hmem]
      exact ⟨plan, ((prepare_sorted hprepared).plans _ plan hplan).1, hroute⟩
  · rcases eq_nil_or_concat later with rfl | ⟨others, last, rfl⟩
    · rcases append_inj' hsplit rfl with ⟨rfl, hlast⟩
      cases hlast
      exact chosen_first hprepared h hcall hagain hneed hnext
    · rw [concat_eq_append, ← cons_append, ← append_assoc] at hsplit
      exact h.fair.firstCalls earlier search others (append_inj' hsplit rfl).1 hagain need
        hneed hnext

theorem searchesFor_concat (run : FairRun) (searches : List Search) (call : PendingCall)
    (needId : StableId) : searchesFor (searches ++ [run.searchOf call]) needId =
      searchesFor searches needId ++
        if call.need.needId = needId then [run.searchOf call] else [] := by
  unfold searchesFor
  rw [filter_append]
  refine congrArg _ ?_
  by_cases hid : call.need.needId = needId
  · rw [if_pos hid]
    exact filter_cons_of_pos (decide_eq_true hid)
  · rw [if_neg hid]
    exact filter_cons_of_neg fun hmem => hid (of_decide_eq_true hmem)

theorem answered_set {results : ChannelResults} {channel : RetrievalChannel}
    {hits : List ChannelHit} (h : channel ∉ answered results) :
    answered (results.set channel hits) = answered results ++ [channel] := by
  have hnew : channel ∉ results.entries.map Prod.fst := h
  unfold Dict.set answered
  rw [dif_neg hnew, map_append, map_singleton]

theorem answer_tracks (hprepared : run.prepare = .ok prepared) (h : Tracks run prepared progress)
    (hcall : Chosen run prepared progress call) (hits : List ChannelHit) :
    Tracks run prepared (progress.answer (progress.backend.asked (run.searchOf call))
      call.need.needId call.channel hits) := by
  rcases chosen_next hcall with ⟨plan, hplan, hnew, _⟩
  refine ⟨fair_next hprepared h hcall, h.maxCalls, ?_, fun search hmem => ?_, fun needId => ?_,
    fun needId => ?_⟩
  · exact (congrArg (· + 1) h.callCount).trans (@length_append _ _ [_]).symm
  · rcases mem_append.mp hmem with hmem | hmem
    · exact h.planned search hmem
    · rw [mem_singleton.mp hmem]
      exact ⟨plan, hplan⟩
  · unfold Progress.answer BudgetedBackend.asked
    dsimp only
    rw [searchesFor_concat, map_append, ← h.results]
    by_cases hid : call.need.needId = needId
    · subst hid
      rw [Function.update_self, answered_set hnew, if_pos rfl]
      rfl
    · rw [Function.update_of_ne (Ne.symm hid), if_neg hid, map_nil, append_nil]
  · unfold Progress.answer BudgetedBackend.asked
    dsimp only
    rw [searchesFor_concat, length_append, ← h.counts]
    by_cases hid : call.need.needId = needId
    · subst hid
      rw [Function.update_self, if_pos rfl, length_singleton]
    · rw [Function.update_of_ne (Ne.symm hid), if_neg hid, length_nil, Nat.add_zero]

/-- The rounds end, and keep it. -/
theorem rounds_spec (hprepared : run.prepare = .ok prepared) (fuel : Nat) :
    ∀ progress, Tracks run prepared progress → run.maxCalls < progress.backend.callCount + fuel →
      ∃ last ending, run.rounds prepared fuel progress = (last, some ending) ∧
        run.Fair last.backend.searches ∧ (ending = .finished → Tracks run prepared last) := by
  induction fuel with
  | zero =>
    intro progress h hfuel
    have hwithin := h.fair.within
    rw [← h.callCount] at hwithin
    omega
  | succ fuel ih =>
    intro progress h hfuel
    unfold rounds
    rcases round_cases run prepared progress with ⟨ending, hround⟩ |
      ⟨call, hcall, ⟨error, hround⟩ | ⟨hits, hround⟩⟩
    · rw [hround]
      exact ⟨progress, ending, rfl, h.fair, fun _ => h⟩
    · rw [hround]
      exact ⟨_, _, rfl, fair_next hprepared h hcall, fun hending => by cases hending⟩
    · rw [hround]
      refine ih _ (answer_tracks hprepared h hcall hits) ?_
      change run.maxCalls < progress.backend.callCount + 1 + fuel
      omega

end Rounds

section Traces

variable {run : FairRun} {prepared : Prepared} {progress : Progress}

theorem fair_nil (run : FairRun) : run.Fair [] := by
  refine ⟨Nat.zero_le _, nodup_nil, fun _ hmem => absurd hmem not_mem_nil,
    fun earlier search later hsplit => ?_⟩
  cases earlier <;> cases hsplit

theorem start_tracks (run : FairRun) (prepared : Prepared) : Tracks run prepared run.start :=
  ⟨run.fair_nil, rfl, rfl, fun _ hmem => absurd hmem not_mem_nil, fun _ => rfl,
    fun _ => rfl⟩

variable {entry : RetrievalNeed × RouteTrace}

theorem traceOf_need {need : RetrievalNeed} (h : run.traceOf prepared progress need = .ok entry) :
    entry.1 = need := by
  unfold traceOf at h
  split at h
  · cases h
    rfl
  · split at h
    · cases h
      rfl
    · split at h
      · cases h
      · rcases (Outcome.bind_eq_ok _ _ _).mp h with ⟨trace, _, h⟩
        exact congrArg Prod.fst ((Outcome.pure_eq_ok _ _).mp h).symm

theorem traceOf_allocated (hprepared : run.prepare = .ok prepared) (hscope : run.SameScope)
    (htracks : Tracks run prepared progress) {exhausted : Bool} {need : RetrievalNeed}
    (h : run.traceOf prepared
      { progress with backend := { progress.backend with exhausted := exhausted } } need =
        .ok entry) :
    entry.2.callsAllocated = (searchesFor progress.backend.searches need.needId).length := by
  unfold traceOf at h
  split at h
  · rename_i status hblocked
    cases h
    have hnone : searchesFor progress.backend.searches need.needId = [] := by
      refine eq_nil_iff_forall_not_mem.mpr fun search hmem => ?_
      rcases mem_searchesFor.mp hmem with ⟨hmem, hid⟩
      rcases htracks.planned search hmem with ⟨plan, hplan⟩
      rw [hid, plans_of_blocked hprepared hscope hblocked] at hplan
      cases hplan
    rw [hnone]
    rfl
  · split at h
    · rename_i hnone
      cases h
      exact hnone.1.symm.trans (htracks.counts need.needId)
    · split at h
      · cases h
      · rcases (Outcome.bind_eq_ok _ _ _).mp h with ⟨trace, htrace, h⟩
        rw [← (Outcome.pure_eq_ok _ _).mp h, assembleRouteTrace_allocated _ _ _ _ htrace]
        dsimp only
        rw [htracks.results, length_map]

theorem traces_needs {traces : List (RetrievalNeed × RouteTrace)}
    (h : needs.mapM (run.traceOf prepared progress) = .ok traces) :
    traces.map Prod.fst = needs := by
  induction needs generalizing traces with
  | nil =>
    rw [mapM_nil, Outcome.pure_eq_ok] at h
    rw [← h, map_nil]
  | cons need rest ih =>
    simp only [mapM_cons, Outcome.bind_eq_ok, Outcome.pure_eq_ok] at h
    rcases h with ⟨first, hfirst, others, hothers, rfl⟩
    rw [map_cons, traceOf_need hfirst, ih hothers]

/-- What holds of a run. -/
theorem retrieve_fair (run : FairRun) : run.FairlyRetrieved run.retrieveFairRegisteredRoutes.1
    run.retrieveFairRegisteredRoutes.2 := by
  unfold retrieveFairRegisteredRoutes
  cases hprepared : run.prepare with
  | error error => exact ⟨rfl, run.fair_nil, nofun, nofun, nofun⟩
  | ok prepared =>
    dsimp only
    rcases rounds_spec hprepared (run.maxCalls + 1) run.start (run.start_tracks prepared)
      (Nat.lt_add_left _ (Nat.lt_succ_self _)) with ⟨progress, ending, hrounds, hfair, htracks⟩
    rw [hrounds]
    cases ending with
    | raised error => exact ⟨rfl, hfair, nofun, nofun, nofun⟩
    | finished =>
      have htracks := htracks rfl
      dsimp only
      cases hstill : run.stillPendingFrom prepared progress.results run.distinctNeeds with
      | error error => exact ⟨rfl, hfair, nofun, nofun, nofun⟩
      | ok stillPending =>
        refine ⟨rfl, hfair, fun traces htraces => ?_, fun traces htraces => ?_,
          fun hscope traces htraces entry hentry => ?_⟩
        · dsimp only
          rw [Bool.and_eq_true, decide_eq_true_eq, htracks.maxCalls, htracks.callCount,
            stillPendingFrom_iff hstill]
          have hwithin := hfair.within
          refine and_congr (by omega) (exists_congr fun need => and_congr_right fun _ => ?_)
          refine ⟨fun ⟨plan, next, hplan, hnext⟩ => ⟨prepared, plan, next, hprepared, hplan,
            hnext⟩, ?_⟩
          rintro ⟨found, plan, next, hfound, hplan, hnext⟩
          obtain rfl := Except.ok.inj (hfound.symm.trans hprepared)
          exact ⟨plan, next, hplan, hnext⟩
        · exact traces_needs (Option.some.inj htraces)
        · rcases (Outcome.mapM_mem (Option.some.inj htraces) entry).mp hentry with
            ⟨need, _, hneed⟩
          rw [traceOf_need hneed]
          exact traceOf_allocated hprepared hscope htracks hneed

end Traces

end FairRun

namespace TwinSample

theorem pools_ne_nil : [Retrieval.CandidatePool.r1] ≠ [] := by decide

theorem facets_iff : ([] : List Retrieval.NeedFacet) ≠ [] ↔
    (none : Option Retrieval.NeedCompletionSpec).isSome = true := by decide

theorem required_mem : ∀ spec ∈ (none : Option Retrieval.NeedCompletionSpec),
    ∀ id ∈ spec.requiredNeedFacetIds,
      id ∈ ([] : List Retrieval.NeedFacet).map Retrieval.NeedFacet.needFacetId := nofun

theorem needType_ne : "state" ≠ "" := by decide

/-- A need that another one shares its identity with. -/
def twin (intent : Retrieval.Stage1QueryIntent) : RetrievalNeed where
  needId := ⟨"need.1", .refl true⟩
  runId := ⟨"run.1", .refl true⟩
  taskId := ⟨"task.1", .refl true⟩
  baseCommit := digest "commit"
  queryIntent := intent
  queryText := "oath"
  accessScope := "writer_safe"
  retrievalMayReturnPlan := false
  riskLevel := .low
  requirement := .optional
  allowedCandidatePools := [.r1]
  priority := 50
  needFacets := []
  completionSpec := none
  priority_le := Retrieval.fifty_le_hundred
  pools_ne_nil := pools_ne_nil
  facets_iff := facets_iff
  required_mem := required_mem
  needType := "state"
  whyNeeded := "scene"
  semanticQuestion := "oath"
  entityIds := []
  expectedSection := none
  expectedClaimScopes := []
  queryText_ne := by decide
  needType_ne := needType_ne
  whyNeeded_ne := by decide
  scopes_length := rfl
  facets_nodup := by decide
  required_nodup := by decide
  required_ne_nil := by decide
  queryHints := []
  purpose := none
  irreducibleNeedFacetIds := []
  predicatesByFacet := Dict.empty
  relationBindingsByFacet := Dict.empty

def oneChannel : RegisteredRoute where
  baseCommit := digest "commit"
  mandatorySteps := [⟨⟨"step.1", by decide⟩, .anchorBm25⟩]
  primaryGroups := []
  conditionalFallbacks := []
  effectiveChannels := [.anchorBm25]
  effective_iff := fun _ => Iff.rfl

/-- A need about a plan, which is blocked, and one about the present under its identity. -/
def twins : FairRun where
  casefold := id
  routePlans := fun _ => some oneChannel
  reranker := none
  backend := fun _ _ => .ok []
  maxCalls := 1
  needs := [twin .planNode, twin .currentState]
  allowFuturePlan := false
  perChannelLimit := 1

/-- Both needs are reported blocked, though one search was made for their identity. -/
theorem twins_unreported : ∃ traces, twins.retrieveFairRegisteredRoutes.2 = some (.ok traces) ∧
    ∃ entry ∈ traces, entry.2.callsAllocated ≠
      (searchesFor twins.retrieveFairRegisteredRoutes.1.backend.searches entry.1.needId).length := by
  have hcheck : (twins.retrieveFairRegisteredRoutes.2.any fun outcome =>
      outcome.toOption.any fun traces => traces.any fun entry => decide (entry.2.callsAllocated ≠
        (searchesFor twins.retrieveFairRegisteredRoutes.1.backend.searches
          entry.1.needId).length)) = true := by decide +kernel
  rcases (Option.any_eq_true_iff_get _ _).mp hcheck with ⟨hsome, htraces⟩
  generalize houtcome : twins.retrieveFairRegisteredRoutes.2.get hsome = outcome at htraces
  cases outcome with
  | error _ => cases htraces
  | ok traces =>
    rcases any_eq_true.mp htraces with ⟨entry, hmem, hentry⟩
    refine ⟨traces, ?_, entry, hmem, of_decide_eq_true hentry⟩
    rw [← houtcome, Option.some_get]

end TwinSample

end NovelAgent.Pipeline
