import NovelAgent.Context.Groups

/-!
# The Two Phases

What a compaction leaves of a view, by the way it went.
-/

namespace NovelAgent.Context

open Core Domain List Session Transaction

section Apart

variable {view : AgentContextView}

theorem removableGroups_apart (view : AgentContextView) :
    (removableGroups view).Pairwise fun group other => ∀ item ∈ group, item ∉ other := by
  unfold removableGroups
  dsimp only
  refine Pairwise.filter _ (pairwise_map.mpr ?_)
  have hkeys : ((removableItems view).map groupKey).eraseDups.Nodup := nodup_eraseDups _
  refine hkeys.imp ?_
  intro key key' hdiffer item hitem hother
  rw [mem_filter, decide_eq_true_eq] at hitem hother
  exact hdiffer (hitem.2.symm.trans hother.2)

theorem exists_held_back (hne : removableGroups view ≠ []) :
    ∃ item ∈ (removableGroups view).flatten,
      item ∉ (removableGroups view).dropLast.flatten := by
  have hapart := removableGroups_apart view
  have hsplit := dropLast_append_getLast hne
  rw [← hsplit, pairwise_append] at hapart
  have hlast := getLast_mem hne
  rcases groups_nonempty hlast with ⟨item, hitem⟩
  refine ⟨item, mem_flatten.mpr ⟨_, hlast, hitem⟩, fun hmem => ?_⟩
  rcases mem_flatten.mp hmem with ⟨group, hgroup, hin⟩
  exact hapart.2.2 group hgroup _ (mem_singleton_self _) item hin hitem

end Apart

namespace Compactor

variable (compactor : Compactor) {view candidate : AgentContextView} {target : Int}
  {removed : List ContextViewItem}

/-- A view after all of the first phase. -/
def heldBack (view : AgentContextView) : AgentContextView :=
  without view (ids (compactor.extractiveGroups view).flatten)

def summaryId (view : AgentContextView) : Except ContextError StableId :=
  identity ("context-summary." ++ view.runId.root ++ "." ++ toString (view.generation + 1))

/-- The view with a summary in the place of all that can be taken away. -/
def summarized (view : AgentContextView) (itemId : StableId) (content : World.NonEmptyText) :
    AgentContextView :=
  (stripped view).showing [compactor.summaryItem itemId content]

theorem mem_extractiveGroups {group : List ContextViewItem}
    (h : group ∈ compactor.extractiveGroups view) : group ∈ removableGroups view := by
  unfold extractiveGroups at h
  split at h
  · exact h
  · exact (dropLast_sublist _).subset h

theorem extract_take (target : Int) (groups : List (List ContextViewItem))
    (view : AgentContextView) :
    ∃ n, (compactor.extract target view groups).2 = (groups.take n).flatten := by
  induction groups generalizing view with
  | nil => exact ⟨0, rfl⟩
  | cons group groups ih =>
    rw [extract]
    dsimp only
    split
    · exact ⟨1, by simp⟩
    · rcases ih (without view (ids group)) with ⟨n, hn⟩
      refine ⟨n + 1, ?_⟩
      rw [take_succ_cons, flatten_cons, ← hn]

/-- How the first phase ends: with some of its groups taken and a rest that
    fits, or with all of them taken and no such rest on the way. -/
theorem extract_cases (groups : List (List ContextViewItem)) (hview : target < compactor.size view) :
    (∃ n, (compactor.extract target view groups).1.bare =
        without view (ids (groups.take n).flatten) ∧
      compactor.size (without view (ids (groups.take n).flatten)) ≤ target ∧
      compactor.size (compactor.extract target view groups).1 ≤ target) ∨
    (compactor.extract target view groups).1.bare = without view (ids groups.flatten) ∧
      target < compactor.size (compactor.extract target view groups).1 ∧
      ∀ n, target < compactor.size (without view (ids (groups.take n).flatten)) := by
  have hbare := compactor.extract_eq target groups view
  have hsame : compactor.size (compactor.extract target view groups).1 =
      compactor.size (compactor.extract target view groups).1.bare := rfl
  by_cases hfits : compactor.size (compactor.extract target view groups).1 ≤ target
  · rcases compactor.extract_take target groups view with ⟨n, hn⟩
    rw [hn] at hbare
    refine Or.inl ⟨n, hbare, ?_, hfits⟩
    rw [← hbare, ← hsame]
    exact hfits
  · rcases compactor.extract_large groups hview (by omega) with ⟨hall, hcuts⟩
    rw [hall] at hbare
    exact Or.inr ⟨hbare, by omega, hcuts⟩

theorem without_held_back {rest : AgentContextView} (hunique : (ids (removableItems view)).Nodup)
    (hrest : rest.bare = compactor.heldBack view) :
    without rest (ids (removableGroups rest).flatten) = stripped view := by
  have htaken : ∀ group ∈ compactor.extractiveGroups view, group ∈ removableGroups view :=
    fun _ => compactor.mem_extractiveGroups
  have hgroups : removableGroups rest = removableGroups (compactor.heldBack view) := by
    rw [← hrest]
    rfl
  rw [hgroups, ← without_rest hunique htaken]
  change without rest.bare _ = _
  rw [hrest]
  rfl

/-- What both phases can leave: the view without some groups of the first, or
    the stripped view with a summary. -/
theorem reduce_eq_ok_cases (hunique : (ids (removableItems view)).Nodup)
    (hview : target < compactor.size view)
    (h : compactor.reduce view target = .ok (candidate, removed)) :
    (∃ n, candidate.bare = without view (ids ((compactor.extractiveGroups view).take n).flatten)) ∨
    ∃ summarizer itemId content, compactor.summary = some summarizer ∧
      summaryId view = .ok itemId ∧ removableGroups view ≠ [] ∧
      candidate.bare = compactor.summarized view itemId content := by
  have hfirst := compactor.extract_cases (compactor.extractiveGroups view) hview
  rcases hextract : compactor.extract target view (compactor.extractiveGroups view) with
    ⟨rest, taken⟩
  simp only [hextract] at hfirst
  simp only [reduce, hextract, summarize] at h
  -- Whatever the first phase leaves is the view without some of its groups.
  have hsome : ∃ n, rest.bare =
      without view (ids ((compactor.extractiveGroups view).take n).flatten) := by
    rcases hfirst with ⟨n, hrest, _⟩ | ⟨hrest, _⟩
    · exact ⟨n, hrest⟩
    · exact ⟨(compactor.extractiveGroups view).length, by rw [take_length]; exact hrest⟩
  cases hsummary : compactor.summary with
  | none =>
    simp only [hsummary, Except.ok.injEq, Prod.mk.injEq] at h
    rw [← h.1]
    exact Or.inl hsome
  | some summarizer =>
    simp only [hsummary] at h
    split at h
    · simp only [Except.ok.injEq, Prod.mk.injEq] at h
      rw [← h.1]
      exact Or.inl hsome
    · rename_i hmore
      simp only [not_or, not_le] at hmore
      split at h
      · simp only [Except.ok.injEq, Prod.mk.injEq] at h
        rw [← h.1]
        exact Or.inl hsome
      · rename_i hblank
        simp only [Outcome.bind_eq_ok, Outcome.pure_eq_ok, Prod.mk.injEq] at h
        rcases h with ⟨itemId, hid, hcandidate, _⟩
        have hrest : rest.bare = compactor.heldBack view := by
          rcases hfirst with ⟨_, _, _, hfits⟩ | ⟨hrest, _⟩
          · exact absurd hmore.1 (by omega)
          · exact hrest
        have hgroups : removableGroups rest = removableGroups (compactor.heldBack view) := by
          rw [← hrest]
          rfl
        have htaken : ∀ group ∈ compactor.extractiveGroups view,
            group ∈ removableGroups view := fun _ => compactor.mem_extractiveGroups
        refine Or.inr ⟨summarizer, itemId, ⟨summaryText summarizer (removableGroups rest).flatten,
          Text.ne_empty_of_not_isBlank hblank⟩, rfl, hid, ?_, ?_⟩
        · -- A group that is left comes from one of the view.
          intro hnone
          rcases exists_mem_of_ne_nil _ hmore.2 with ⟨group, hgroup⟩
          rcases groups_nonempty hgroup with ⟨item, hitem⟩
          rw [hgroups] at hgroup
          have hleft := (mem_rest hunique htaken).mp
            (mem_flatten.mpr ⟨group, hgroup, hitem⟩)
          rw [hnone] at hleft
          exact not_mem_nil hleft.1
        · rw [← hcandidate]
          unfold summarized
          rw [← compactor.without_held_back hunique hrest]
          rfl

/-- The first phase is all there is when it takes all of its groups and then fits. -/
theorem reduce_extracts (hview : target < compactor.size view)
    (hlarge : ∀ n < (compactor.extractiveGroups view).length,
      target < compactor.size (without view (ids ((compactor.extractiveGroups view).take n).flatten)))
    (hfits : compactor.size (compactor.heldBack view) ≤ target) :
    ∃ candidate removed, compactor.reduce view target = .ok (candidate, removed) ∧
      candidate.bare = compactor.heldBack view := by
  have hfirst := compactor.extract_cases (compactor.extractiveGroups view) hview
  rcases hextract : compactor.extract target view (compactor.extractiveGroups view) with
    ⟨rest, taken⟩
  simp only [hextract] at hfirst
  rcases hfirst with ⟨n, hrest, hsize, hrestSize⟩ | ⟨_, _, hcuts⟩
  · have hall : (compactor.extractiveGroups view).length ≤ n := by
      by_contra hless
      have := hlarge n (by omega)
      omega
    rw [take_of_length_le hall] at hrest
    refine ⟨rest, taken, ?_, hrest⟩
    simp only [reduce, hextract, summarize]
    cases compactor.summary with
    | none => rfl
    | some summarizer =>
      simp only
      rw [if_pos (Or.inl hrestSize)]
  · have hlast := hcuts (compactor.extractiveGroups view).length
    rw [take_length] at hlast
    exact absurd hlast (by unfold heldBack at hfits; omega)

section HeldBack

variable {summarizer : String → String} (hunique : (ids (removableItems view)).Nodup)
  (hview : target < compactor.size view)
  (hlarge : ∀ n, target <
    compactor.size (without view (ids ((compactor.extractiveGroups view).take n).flatten)))
  (hsummary : compactor.summary = some summarizer) (hne : removableGroups view ≠ [])

include hunique hview hlarge hsummary hne

/-- When the first phase cannot do it, the second one goes on from what is held back. -/
theorem reduce_held_back : ∃ rest taken, rest.bare = compactor.heldBack view ∧
    (∀ hblank : ¬ Text.isBlank (summaryText summarizer
        (removableGroups (compactor.heldBack view)).flatten) = true,
      compactor.reduce view target = do
        let itemId ← summaryId view
        return ((without rest (ids (removableGroups rest).flatten)).showing
          [compactor.summaryItem itemId
            ⟨summaryText summarizer (removableGroups (compactor.heldBack view)).flatten,
              Text.ne_empty_of_not_isBlank hblank⟩], taken ++ (removableGroups rest).flatten)) ∧
    (Text.isBlank (summaryText summarizer
        (removableGroups (compactor.heldBack view)).flatten) = true →
      compactor.reduce view target = .ok (rest, taken)) := by
  have hfirst := compactor.extract_cases (compactor.extractiveGroups view) hview
  rcases hextract : compactor.extract target view (compactor.extractiveGroups view) with
    ⟨rest, taken⟩
  simp only [hextract] at hfirst
  rcases hfirst with ⟨n, _, hsize, _⟩ | ⟨hrest, hrestLarge, _⟩
  · have := hlarge n
    omega
  · have htaken : ∀ group ∈ compactor.extractiveGroups view, group ∈ removableGroups view :=
      fun _ => compactor.mem_extractiveGroups
    have hextractive : compactor.extractiveGroups view = (removableGroups view).dropLast := by
      unfold extractiveGroups
      rw [hsummary]
      rfl
    have hgroups : removableGroups rest = removableGroups (compactor.heldBack view) :=
      (congrArg removableGroups hrest : removableGroups rest.bare = _)
    have hmore : ¬ (compactor.size rest ≤ target ∨ removableGroups rest = []) := by
      rcases exists_held_back hne with ⟨item, hitem, hnot⟩
      rw [← hextractive] at hnot
      have hmem := (mem_rest hunique htaken).mpr ⟨hitem, hnot⟩
      rw [← hrest] at hmem
      rintro (hfits | hnone)
      · omega
      · change item ∈ (removableGroups rest).flatten at hmem
        rw [hnone] at hmem
        exact not_mem_nil hmem
    refine ⟨rest, taken, hrest, fun hblank => ?_, fun hblank => ?_⟩
    · rw [← hgroups] at hblank
      simp only [reduce, hextract, summarize, hsummary, ← hgroups]
      rw [if_neg hmore, dif_neg hblank]
      rfl
    · rw [← hgroups] at hblank
      simp only [reduce, hextract, summarize, hsummary]
      rw [if_neg hmore, dif_pos hblank]

/-- When the phases go on to the summary. -/
theorem reduce_summarizes {itemId : StableId} (hid : summaryId view = .ok itemId)
    (hblank : ¬ Text.isBlank (summaryText summarizer
      (removableGroups (compactor.heldBack view)).flatten) = true) :
    ∃ candidate removed, compactor.reduce view target = .ok (candidate, removed) ∧
      candidate.bare = compactor.summarized view itemId
        ⟨summaryText summarizer (removableGroups (compactor.heldBack view)).flatten,
          Text.ne_empty_of_not_isBlank hblank⟩ := by
  rcases compactor.reduce_held_back hunique hview hlarge hsummary hne with
    ⟨rest, taken, hrest, hreduce, _⟩
  have hreduce := hreduce hblank
  rw [hid] at hreduce
  refine ⟨_, _, hreduce, ?_⟩
  rw [compactor.without_held_back hunique hrest]
  rfl

theorem reduce_malformed {error : ContextError} (hid : summaryId view = .error error)
    (hblank : ¬ Text.isBlank (summaryText summarizer
      (removableGroups (compactor.heldBack view)).flatten) = true) :
    compactor.reduce view target = .error error := by
  rcases compactor.reduce_held_back hunique hview hlarge hsummary hne with ⟨_, _, _, hreduce, _⟩
  rw [hreduce hblank, hid]
  rfl

theorem reduce_blank (hblank : Text.isBlank (summaryText summarizer
      (removableGroups (compactor.heldBack view)).flatten) = true) :
    ∃ candidate removed, compactor.reduce view target = .ok (candidate, removed) ∧
      candidate.bare = compactor.heldBack view := by
  rcases compactor.reduce_held_back hunique hview hlarge hsummary hne with
    ⟨rest, taken, hrest, _, hreduce⟩
  exact ⟨rest, taken, hreduce hblank, hrest⟩

end HeldBack

end Compactor

def NotLimit (error : ContextError) : Prop :=
  ∀ message, error ≠ .limit message

/-- What is computed raises nothing but a refusal of a field. -/
def Plain {α : Type} (x : Except ContextError α) : Prop :=
  ∀ error, x = .error error → ∃ message, error = .validation message

section Plain

variable {α β : Type}

theorem plain_ok (a : α) : Plain (.ok a) := nofun

theorem plain_validation (message : String) :
    Plain (.error (.validation message) : Except ContextError α) := by
  rintro error ⟨⟩
  exact ⟨message, rfl⟩

theorem Plain.notLimit {x : Except ContextError α} (hx : Plain x) {error : ContextError}
    (h : x = .error error) : NotLimit error := by
  rcases hx error h with ⟨message, rfl⟩
  intro message'
  nofun

theorem plain_bind {x : Except ContextError α} {f : α → Except ContextError β} (hx : Plain x)
    (hf : ∀ a, Plain (f a)) : Plain (x >>= f) := by
  intro error h
  rcases (Outcome.bind_eq_error x f error).mp h with herror | ⟨a, _, herror⟩
  · exact hx error herror
  · exact hf a error herror

theorem plain_tokens (count : Int) : Plain (Compactor.tokens count) := by
  unfold Compactor.tokens
  split
  · exact plain_ok _
  · exact plain_validation _

variable (text : String)

theorem plain_nonEmpty : Plain (Compactor.nonEmpty text) := by
  unfold Compactor.nonEmpty
  split
  · exact plain_ok _
  · exact plain_validation _

theorem plain_identity : Plain (Compactor.identity text) := by
  unfold Compactor.identity
  split
  · exact plain_ok _
  · exact plain_validation _

end Plain

namespace Compactor

variable (compactor : Compactor)

theorem plain_pressure (view : AgentContextView) (policy : ContextWindowPolicy) :
    Plain (compactor.pressure view policy) :=
  plain_bind (plain_tokens _) fun _ => plain_ok _

theorem plain_withProviderReceipt (view : AgentContextView) (policy : ContextWindowPolicy) :
    Plain (compactor.withProviderReceipt view policy) := by
  refine plain_bind ?_ fun _ => plain_ok _
  refine plain_bind (plain_identity _) fun _ => plain_bind (plain_nonEmpty _) fun _ =>
    plain_bind (plain_nonEmpty _) fun _ => plain_bind (plain_tokens _) fun _ =>
    plain_bind (plain_tokens _) fun _ => plain_bind (plain_tokens _) fun _ =>
    plain_bind (plain_tokens _) fun _ => plain_bind (plain_tokens _) fun _ => ?_
  dsimp only
  split
  · exact plain_ok _
  · exact plain_validation _

theorem plain_receipt (view prepared : AgentContextView) (removed : List ContextViewItem)
    (inputTokens : Nat) (summaryRef detailRef : ArtifactRef) :
    Plain (compactor.receipt view prepared removed inputTokens summaryRef detailRef) := by
  refine plain_bind (plain_tokens _) fun _ => plain_bind (plain_identity _) fun _ => ?_
  dsimp only
  split
  · exact plain_ok _
  · exact plain_validation _

theorem plain_reduce (view : AgentContextView) (target : Int) :
    Plain (compactor.reduce view target) := by
  unfold reduce
  rcases compactor.extract target view (compactor.extractiveGroups view) with ⟨rest, taken⟩
  simp only [summarize]
  cases compactor.summary with
  | none => exact plain_ok _
  | some summarizer =>
    simp only
    split
    · exact plain_ok _
    · split
      · exact plain_ok _
      · exact plain_bind (plain_identity _) fun _ => plain_ok _

theorem put_refuses (document : JsonValue) (mediaType : String) (version : SchemaVersion) :
    Transaction.RaisesOnly (fun error => ∃ message, error = ContextError.integrity message)
      (put document mediaType version) := by
  unfold put
  refine raisesOnly_bind raisesOnly_get fun artifacts => ?_
  cases artifacts.lookup (contentId document) with
  | none =>
    exact raisesOnly_bind (raisesOnly_modify _)
      fun _ => raisesOnly_pure _
  | some stored =>
    exact raisesOnly_bind (raisesOnly_raiseWhen _ _ ⟨_, rfl⟩)
      fun _ => raisesOnly_pure _

theorem put_raisesOnly (document : JsonValue) (mediaType : String) (version : SchemaVersion) :
    Transaction.RaisesOnly NotLimit (put document mediaType version) := by
  intro artifacts error herror
  rcases put_refuses document mediaType version artifacts error herror with ⟨message, rfl⟩
  nofun

theorem liftM_raisesOnly {α : Type} {x : Except ContextError α} (h : Plain x) :
    Transaction.RaisesOnly NotLimit (liftM x : Transaction Artifacts ContextError α) := by
  intro artifacts error herror
  cases x with
  | ok a => cases herror
  | error raised =>
    have hsame : raised = error := Except.error.inj herror
    rw [← hsame]
    exact h.notLimit rfl

/-- A compaction raises the limit error exactly when it is a hard one whose
    candidate is too large. -/
theorem compact_limit_iff (view : AgentContextView) (policy : ContextWindowPolicy) (hard : Bool)
    (artifacts : Artifacts) :
    (∃ message, (compactor.compact view policy hard artifacts).1 = .error (.limit message)) ↔
      hard = true ∧ 0 ≤ compactor.size view ∧ policy.target hard < compactor.size view ∧
        ∃ candidate removed, compactor.reduce view (policy.target hard) =
          .ok (candidate, removed) ∧ policy.target hard < compactor.size candidate := by
  unfold compact
  cases hpressure : compactor.pressure view policy with
  | error error =>
    rw [bind_ofExcept_error rfl]
    constructor
    · rintro ⟨message, herror⟩
      exact absurd (Except.error.inj herror)
        ((compactor.plain_pressure view policy).notLimit hpressure message)
    · rintro ⟨_, hpositive, _⟩
      unfold pressure tokens at hpressure
      rw [if_pos hpositive] at hpressure
      cases hpressure
  | ok pressure =>
    rw [bind_ofExcept_ok rfl]
    have hsize := compactor.pressure_size hpressure
    by_cases hfits : (pressure.renderedInputTokens : Int) ≤ policy.target hard
    · rw [if_pos hfits]
      constructor
      · rintro ⟨message, herror⟩
        rw [← outcome_error] at herror
        have hplain := raisesOnly_bind
          (liftM_raisesOnly (compactor.plain_withProviderReceipt view policy))
          fun view => raisesOnly_pure
            ((view, none) : AgentContextView × Option ContextCompactionReceipt)
        rw [outcome_bind, outcome_ofExcept] at herror
        exact absurd rfl (hplain artifacts _ herror message)
      · rintro ⟨_, _, hlarge, _⟩
        omega
    · rw [if_neg hfits]
      cases hreduce : compactor.reduce view (policy.target hard) with
      | error error =>
        rw [bind_ofExcept_error rfl]
        constructor
        · rintro ⟨message, herror⟩
          exact absurd (Except.error.inj herror)
            ((compactor.plain_reduce view _).notLimit hreduce message)
        · rintro ⟨_, _, _, candidate, removed, hok, _⟩
          cases hok
      | ok result =>
        rcases result with ⟨candidate, removed⟩
        rw [bind_ofExcept_ok rfl]
        dsimp only
        by_cases hlarge : policy.target hard < compactor.size candidate
        · rw [if_pos hlarge]
          cases hard with
          | true =>
            rw [if_pos rfl]
            refine ⟨fun _ => ⟨rfl, by omega, by omega, candidate, removed, rfl, hlarge⟩,
              fun _ => ⟨_, rfl⟩⟩
          | false =>
            rw [if_neg (by decide)]
            constructor
            · rintro ⟨message, herror⟩
              cases herror
            · rintro ⟨hfalse, _⟩
              cases hfalse
        · rw [if_neg hlarge]
          constructor
          · rintro ⟨message, herror⟩
            rw [← outcome_error] at herror
            simp only [outcome_bind, outcome_transact,
              outcome_ofExcept] at herror
            have hplain := raisesOnly_bind
              (put_raisesOnly (detailDocument removed) contextDetailMediaType
                compactor.schemaVersion)
              fun detailRef => raisesOnly_bind
                (put_raisesOnly (summaryDocument candidate.compactedPrefixItems)
                  contextSummaryMediaType compactor.schemaVersion)
                fun summaryRef => raisesOnly_bind
                  (liftM_raisesOnly (compactor.plain_receipt view
                    (refreshTokens compactor.projectorTokens
                      (prepare view candidate removed summaryRef).withHash) removed
                    pressure.renderedInputTokens summaryRef detailRef))
                  fun receipt => raisesOnly_bind
                    (liftM_raisesOnly (compactor.plain_withProviderReceipt
                      (refreshTokens compactor.projectorTokens
                        (prepare view candidate removed summaryRef).withHash) policy))
                    fun published => raisesOnly_pure
                      (published, some receipt)
            exact absurd rfl (hplain artifacts _ herror message)
          · rintro ⟨_, _, _, other, taken, hok, hother⟩
            cases hok
            exact absurd hother hlarge

end Compactor

end NovelAgent.Context
