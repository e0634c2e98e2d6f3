import NovelAgent.Context.Compaction
import NovelAgent.Core.Run

/-!
# What a Compaction Records

Whether an item that a view no longer shows can still be found.
-/

namespace NovelAgent.Context

open Core Domain List

variable {items : List ContextViewItem}

theorem mem_ids {id : StableId} : id ∈ ids items ↔ ∃ item ∈ items, item.itemId = id :=
  mem_map

variable {item : ContextViewItem}

theorem mem_dropIds {removed : List StableId} :
    item ∈ dropIds removed items ↔ item ∈ items ∧ item.itemId ∉ removed := by
  simp [dropIds]

theorem removableItems_bare (view : AgentContextView) :
    removableItems view.bare = removableItems view := rfl

theorem items_bare (view : AgentContextView) : view.bare.items = view.items := rfl

theorem removableItems_without (view : AgentContextView) (removed : List StableId) :
    removableItems (without view removed) = dropIds removed (removableItems view) := by
  simp only [removableItems, without, dropIds, filter_append]

theorem mem_removableItems_of_group {view : AgentContextView}
    (h : item ∈ (removableGroups view).flatten) : item ∈ removableItems view := by
  rw [mem_flatten] at h
  rcases h with ⟨group, hgroup, hitem⟩
  rw [removableGroups] at hgroup
  rcases mem_map.mp (mem_filter.mp hgroup).1 with ⟨key, _, rfl⟩
  exact (mem_filter.mp hitem).1

theorem nodup_removableItems {view : AgentContextView} (h : view.itemIds.Nodup) :
    (ids (removableItems view)).Nodup := by
  have hsublist : (view.activeMemoryItems ++ view.workingItems ++ view.recentSettledTail).Sublist
      view.items := by
    have hstart := sublist_append_right view.protectedItems
      (view.activeMemoryItems ++ view.workingItems ++ view.recentSettledTail)
    have hend := sublist_append_left (view.protectedItems ++
      (view.activeMemoryItems ++ view.workingItems ++ view.recentSettledTail))
      view.compactedPrefixItems
    rw [AgentContextView.items, append_assoc view.protectedItems,
      append_assoc view.protectedItems]
    exact hstart.trans hend
  have hperm : (view.activeMemoryItems ++ view.workingItems ++ view.recentSettledTail).Perm
      (removableItems view) := by
    rw [removableItems, append_assoc view.recentSettledTail]
    exact (perm_append_comm.append_right _).trans perm_append_comm
  exact ((hperm.map _).nodup_iff).mp (h.sublist (hsublist.map _))

namespace Compactor

variable (compactor : Compactor)

variable {target : Int}

theorem mem_of_extract {groups : List (List ContextViewItem)} {view : AgentContextView}
    (h : item ∈ (compactor.extract target view groups).2) : item ∈ groups.flatten := by
  induction groups generalizing view with
  | nil => exact absurd h not_mem_nil
  | cons group groups ih =>
    rw [extract] at h
    dsimp only at h
    rw [flatten_cons, mem_append]
    split at h
    · exact .inl h
    · rcases mem_append.mp h with hgroup | hrest
      · exact .inl hgroup
      · exact .inr (ih hrest)

/-- A first phase that did not get far enough took all of its groups away, and
    no part of them would have been enough. -/
theorem extract_large (groups : List (List ContextViewItem)) {view : AgentContextView}
    (hview : target < compactor.size view)
    (h : target < compactor.size (compactor.extract target view groups).1) :
    (compactor.extract target view groups).2 = groups.flatten ∧
    ∀ n, target < compactor.size (without view (ids (groups.take n).flatten)) := by
  induction groups generalizing view with
  | nil =>
    refine ⟨rfl, fun n => ?_⟩
    rw [take_nil, flatten_nil]
    simpa [size, renderContext, without, ids] using hview
  | cons group groups ih =>
    rw [extract] at h ⊢
    dsimp only at h ⊢
    split at h
    · rename_i hfits
      dsimp only at h
      omega
    · rename_i hlarge
      rw [if_neg hlarge]
      rcases ih (by omega) h with ⟨hremoved, hcuts⟩
      refine ⟨by rw [flatten_cons]; exact congrArg (group ++ ·) hremoved, ?_⟩
      intro n
      cases n with
      | zero => simpa [size, renderContext, without, ids] using hview
      | succ n =>
        rw [take_succ_cons, flatten_cons, ids_append, ← without_without]
        exact hcuts n

/-- The compaction of a view reaches its summary: no part of the first phase
    is enough, there is a text to summarize, and the summary makes it fit. -/
def Summarizes (view : AgentContextView) (target : Int) : Prop :=
  let rest := without view (ids (compactor.extractiveGroups view).flatten)
  let source := (removableGroups rest).flatten
  ∃ summarizer itemId content,
    compactor.summary = some summarizer ∧
    (∀ n, target < compactor.size
      (without view (ids ((compactor.extractiveGroups view).take n).flatten))) ∧
    removableGroups rest ≠ [] ∧
    content.text = summaryText summarizer source ∧
    ¬ Text.isBlank content.text = true ∧
    identity ("context-summary." ++ view.runId.root ++ "." ++ toString (view.generation + 1)) =
      .ok itemId ∧
    compactor.size
      ((without rest (ids source)).showing [compactor.summaryItem itemId content]) ≤ target

variable {view candidate : AgentContextView} {removed : List ContextViewItem}

/-- What the two phases take away is removable, and they keep the summaries of
    a view unless they get to a new one. -/
theorem reduce_cases (hview : target < compactor.size view)
    (h : compactor.reduce view target = .ok (candidate, removed)) :
    (∀ item ∈ removed, item ∈ removableItems view) ∧
    (candidate.compactedPrefixItems = view.compactedPrefixItems ∨
      (compactor.size candidate ≤ target → compactor.Summarizes view target)) := by
  have hfirst := compactor.extract_eq target (compactor.extractiveGroups view) view
  have htaken : ∀ item ∈ (compactor.extract target view (compactor.extractiveGroups view)).2,
      item ∈ removableItems view := by
    intro item hitem
    refine mem_removableItems_of_group ?_
    have hgroups := compactor.mem_of_extract hitem
    rw [extractiveGroups] at hgroups
    split at hgroups
    · exact hgroups
    · rcases mem_flatten.mp hgroups with ⟨group, hgroup, hmem⟩
      exact mem_flatten.mpr ⟨group, (dropLast_sublist _).subset hgroup, hmem⟩
  have hlarge := fun hlarge => compactor.extract_large (compactor.extractiveGroups view)
    hview hlarge
  rcases hextract : compactor.extract target view (compactor.extractiveGroups view) with
    ⟨rest, taken⟩
  simp only [hextract] at hfirst htaken hlarge
  have hprefix : rest.compactedPrefixItems = view.compactedPrefixItems := by
    have hbare : rest.bare.compactedPrefixItems = view.compactedPrefixItems := by rw [hfirst]; rfl
    exact hbare
  simp only [reduce, hextract, summarize] at h
  cases hsummary : compactor.summary with
  | none =>
    simp only [hsummary, Except.ok.injEq, Prod.mk.injEq] at h
    rw [← h.1, ← h.2]
    exact ⟨htaken, .inl hprefix⟩
  | some summarizer =>
    simp only [hsummary] at h
    split at h
    · simp only [Except.ok.injEq, Prod.mk.injEq] at h
      rw [← h.1, ← h.2]
      exact ⟨htaken, .inl hprefix⟩
    · rename_i hmore
      simp only [not_or, not_le] at hmore
      split at h
      · simp only [Except.ok.injEq, Prod.mk.injEq] at h
        rw [← h.1, ← h.2]
        exact ⟨htaken, .inl hprefix⟩
      · rename_i hblank
        simp only [Outcome.bind_eq_ok, Outcome.pure_eq_ok, Prod.mk.injEq] at h
        rcases h with ⟨itemId, hid, hcandidate, hremoved⟩
        rcases hlarge hmore.1 with ⟨hall, hcuts⟩
        -- What is left after the first phase has the groups of the view
        -- without everything that the first phase could take.
        have hrest : rest.bare =
            without view (ids (compactor.extractiveGroups view).flatten) := by
          rw [hfirst, hall]
        have hgroups : removableGroups rest = removableGroups
            (without view (ids (compactor.extractiveGroups view).flatten)) := by
          rw [← hrest]
          rfl
        refine ⟨?_, .inr fun hfits => ⟨summarizer, itemId,
          ⟨summaryText summarizer (removableGroups rest).flatten,
            Text.ne_empty_of_not_isBlank hblank⟩, hsummary, hcuts, ?_, ?_, hblank, hid, ?_⟩⟩
        · rw [← hremoved]
          intro item hitem
          rcases mem_append.mp hitem with hold | hnew
          · exact htaken item hold
          · have hleft := mem_removableItems_of_group hnew
            rw [← removableItems_bare, hfirst, removableItems_without, mem_dropIds] at hleft
            exact hleft.1
        · rw [← hgroups]
          exact hmore.2
        · rw [← hgroups]
        · rw [← hgroups, ← hrest]
          rw [← hcandidate] at hfits
          exact hfits

/-- With unique identities an item that can be taken away is either kept or taken away itself. -/
theorem kept_or_removed (hview : target < compactor.size view)
    (hunique : (ids (removableItems view)).Nodup)
    (h : compactor.reduce view target = .ok (candidate, removed))
    (hitem : item ∈ removableItems view) : item ∈ removableItems candidate ∨ item ∈ removed := by
  have hcandidate := congrArg removableItems (compactor.reduce_eq h)
  rw [removableItems_bare] at hcandidate
  have hkept : removableItems candidate = dropIds (ids removed) (removableItems view) := by
    rw [hcandidate, ← removableItems_without]
    rfl
  by_cases htaken : item.itemId ∈ ids removed
  · rcases mem_ids.mp htaken with ⟨other, hother, hsame⟩
    have hmem := (compactor.reduce_cases hview h).1 other hother
    right
    rw [← inj_on_of_nodup_map hunique hmem hitem hsame]
    exact hother
  · left
    rw [hkept, mem_dropIds]
    exact ⟨hitem, htaken⟩

end Compactor

/-- A receipt lists an item, and its detail artifact is a document that keeps it. The document
    reads back unless the store already held another one under its address. -/
def Recorded (schemaVersion : SchemaVersion) (artifacts artifacts' : Artifacts)
    (receipt : ContextCompactionReceipt) (item : ContextViewItem) : Prop :=
  item.itemId ∈ receipt.removedItemIds ∧
  ∃ removed, item ∈ removed ∧
    receipt.detailArtifact =
      some (artifactRef (detailDocument removed) contextDetailMediaType schemaVersion) ∧
    (Uncontested artifacts (detailDocument removed) →
      readVerified artifacts'
        (artifactRef (detailDocument removed) contextDetailMediaType schemaVersion) =
          .ok (detailDocument removed))

/-- One call of a compactor. -/
structure CompactCall where
  compactor : Compactor
  policy : ContextWindowPolicy
  hard : Bool

/-- A view and its artifacts after one more compaction. -/
def compactStep (state : AgentContextView × Artifacts) (call : CompactCall) :
    AgentContextView × Artifacts :=
  match call.compactor.compact state.1 call.policy call.hard state.2 with
  | (.ok (view, _), artifacts) => (view, artifacts)
  | (.error _, artifacts) => (state.1, artifacts)

/-- The compaction does not put a new summary in the place of an old one. -/
def KeepsSummaries (state : AgentContextView × Artifacts) (call : CompactCall) : Prop :=
  state.1.compactedPrefixItems = [] ∨
    ¬ call.compactor.Summarizes state.1 (call.policy.target call.hard)

theorem mem_items {view : AgentContextView} :
    item ∈ view.items ↔ item ∈ view.protectedItems ∨ item ∈ removableItems view ∨
      item ∈ view.compactedPrefixItems := by
  simp only [AgentContextView.items, removableItems, mem_append]
  tauto

theorem compact_records {call : CompactCall} {state : AgentContextView × Artifacts}
    {view' : AgentContextView} {published : Option ContextCompactionReceipt}
    {artifacts' : Artifacts} (hunique : (ids (removableItems state.1)).Nodup)
    (hkeeps : KeepsSummaries state call)
    (h : call.compactor.compact state.1 call.policy call.hard state.2 =
      (.ok (view', published), artifacts')) :
    (ids (removableItems view')).Nodup ∧
    ∀ item ∈ state.1.items, item ∈ view'.items ∨ ∃ receipt, published = some receipt ∧
      Recorded call.compactor.schemaVersion state.2 artifacts' receipt item := by
  cases published with
  | none =>
    have hbare := call.compactor.compact_unpublished h
    have hremovable : removableItems view' = removableItems state.1 := by
      rw [← removableItems_bare, hbare, removableItems_bare]
    have hitems : view'.items = state.1.items := by
      rw [← items_bare, hbare, items_bare]
    exact ⟨hremovable ▸ hunique, fun item hitem => .inl (hitems ▸ hitem)⟩
  | some receipt =>
    rcases call.compactor.compact_published h with ⟨candidate, removed, detailRef, summaryRef,
      artifacts₁, inputTokens, providerReceipt, hlarge, hreduce, hfits, hdetail, hsummary,
      hreceipt, rfl⟩
    have hcandidate := call.compactor.reduce_eq hreduce
    have hremovable := congrArg removableItems hcandidate
    have hprotected := congrArg AgentContextView.protectedItems hcandidate
    rcases call.compactor.receipt_eq hreceipt with ⟨_, _, _, _, _, _, hremoved, _, _, hartifact,
      _⟩
    refine ⟨?_, ?_⟩
    · have hsublist : (removableItems candidate).Sublist (removableItems state.1) := by
        rw [← removableItems_bare, hremovable]
        exact (removableItems_without state.1 (ids removed)) ▸ filter_sublist
      exact hunique.sublist (hsublist.map _)
    · intro item hitem
      rcases mem_items.mp hitem with hitem | hitem | hitem
      · exact .inl (mem_items.mpr (.inl (hprotected.symm ▸ hitem)))
      · rcases call.compactor.kept_or_removed hlarge hunique hreduce hitem with hkept | htaken
        · exact .inl (mem_items.mpr (.inr (.inl hkept)))
        · right
          refine ⟨receipt, rfl, ?_, removed, htaken, ?_, ?_⟩
          · rw [hremoved, mem_eraseDups]
            exact mem_ids.mpr ⟨item, htaken, rfl⟩
          · rw [hartifact, (put_cases hdetail).1]
          · intro hfree
            exact readVerified_eq (put_keeps hsummary (lookup_put hdetail hfree)) _
      · left
        -- Only a new summary takes the place of an old one.
        have hkept : candidate.compactedPrefixItems = state.1.compactedPrefixItems := by
          rcases (call.compactor.reduce_cases hlarge hreduce).2 with hsame | hreaches
          · exact hsame
          · rcases hkeeps with hnone | hnot
            · exact absurd hitem (by simp [hnone])
            · exact absurd (hreaches hfits) hnot
        exact mem_items.mpr (.inr (.inr (hkept.symm ▸ hitem)))

/-- Along every run of compactions, from a valid view, in which no compaction summarizes a view
    that already shows a summary, each compaction keeps every item of its view or records it. -/
theorem compactions_lose_nothing (view : AgentContextView) (hvalid : view.Valid)
    (artifacts : Artifacts) (calls : List CompactCall)
    (hkeeps : Guarded compactStep KeepsSummaries (view, artifacts) calls)
    (before after : List CompactCall) (call : CompactCall)
    (hcalls : calls = before ++ call :: after) (view' : AgentContextView)
    (published : Option ContextCompactionReceipt) (artifacts' : Artifacts) :
    let state := run compactStep (view, artifacts) before
    call.compactor.compact state.1 call.policy call.hard state.2 =
      (.ok (view', published), artifacts') →
    ∀ item ∈ state.1.items, item ∈ view'.items ∨ ∃ receipt, published = some receipt ∧
      Recorded call.compactor.schemaVersion state.2 artifacts' receipt item := by
  intro state h
  subst hcalls
  rw [guarded_append] at hkeeps
  have hstep : ∀ (state : AgentContextView × Artifacts) (call : CompactCall),
      (ids (removableItems state.1)).Nodup → KeepsSummaries state call →
      (ids (removableItems (compactStep state call).1)).Nodup := by
    intro state call hunique hkeeps
    rw [compactStep]
    split
    · rename_i view' published artifacts' hcompact
      exact (compact_records hunique hkeeps hcompact).1
    · exact hunique
  have hunique := run_guarded compactStep _ _ hstep before _ hkeeps.1
    (nodup_removableItems hvalid.unique)
  exact (compact_records hunique hkeeps.2.1 h).2

namespace Sample

def oldSummary : ContextViewItem :=
  compactor.summaryItem ⟨"context-summary.run.1", by decide⟩ ⟨"The hero left.", by decide⟩

def compactedView : AgentContextView :=
  { view with
    revision := 2
    generation := 1
    basisEventPosition := 2
    activeMemoryItems := [newClaim]
    compactedPrefixItems := [oldSummary]
    compactedItemIds := [oldClaim.itemId] }

def summarizer : Compactor :=
  { compactor with summary := some fun _ => "So far." }

def newSummary : ContextViewItem :=
  summarizer.summaryItem ⟨"context-summary.run.2", by decide⟩ ⟨"So far.", by decide⟩

end Sample

open Sample

/-- A view that shows a summary is compacted twice without a summary function. The first
    compaction takes its claim away, and the summary stays. -/
theorem compactions_lose_nothing_claim :
    ∃ view' receipt artifacts', compactor.compact compactedView policy true ∅ =
        (.ok (view', some receipt), artifacts') ∧
      newClaim ∉ view'.items ∧ oldSummary ∈ view'.items ∧
      (∀ item ∈ compactedView.items, item ∈ view'.items ∨
        ∃ receipt', some receipt = some receipt' ∧ Recorded version ∅ artifacts' receipt' item) ∧
      ∀ view'' published artifacts'', compactor.compact view' policy true artifacts' =
          (.ok (view'', published), artifacts'') →
        ∀ item ∈ view'.items, item ∈ view''.items ∨
          ∃ receipt', published = some receipt' ∧ Recorded version artifacts' artifacts'' receipt' item := by
  have hvalid : compactedView.Valid :=
    (AgentContextView.validateView_eq_none _).mp (by decide +kernel)
  have hreduce : compactor.reduce compactedView (policy.target true) =
      .ok (without compactedView (ids [newClaim]), [newClaim]) := by decide +kernel
  rcases compactor.compact_empty 309 (contentId_ne (by decide +kernel))
    (by decide +kernel) (by decide) hreduce (by decide +kernel) (by decide +kernel)
    (by decide +kernel) with ⟨view', receipt, artifacts', hcompact, _, hitems⟩
  let call : CompactCall := ⟨compactor, policy, true⟩
  have hkeeps : ∀ state, KeepsSummaries state call := by
    rintro state
    refine .inr ?_
    rintro ⟨_, _, _, hsummary, _⟩
    cases hsummary
  have hrun := compactions_lose_nothing compactedView hvalid ∅ [call, call]
    ⟨hkeeps _, hkeeps _, trivial⟩
  refine ⟨view', receipt, artifacts', hcompact, ?_, ?_, ?_, ?_⟩
  · rw [hitems]
    decide
  · rw [hitems]
    decide
  · exact hrun [] [call] call rfl view' (some receipt) artifacts' hcompact
  · intro view'' published artifacts'' hagain
    have hstate : run compactStep (compactedView, ∅) [call] = (view', artifacts') := by
      rw [run_cons, run_nil, compactStep, hcompact]
    have := hrun [call] [] call rfl view'' published artifacts''
    rw [hstate] at this
    exact this hagain

/-- A view that shows a summary and a claim is compacted to one that shows
    another summary. The claim is recorded and the old summary is gone. -/
theorem old_summary_lost :
    compactedView.Valid ∧ ∃ view' receipt artifacts',
      summarizer.compact compactedView policy true ∅ =
        (.ok (view', some receipt), artifacts') ∧
      oldSummary ∈ compactedView.items ∧ oldSummary ∉ view'.items ∧
      oldSummary.itemId ∉ receipt.removedItemIds := by
  refine ⟨(AgentContextView.validateView_eq_none _).mp (by decide +kernel), ?_⟩
  have hreduce : summarizer.reduce compactedView (policy.target true) =
      .ok ((without compactedView (ids [newClaim])).showing [newSummary],
        [newClaim]) := by decide +kernel
  rcases summarizer.compact_empty 309 (contentId_ne (by decide +kernel))
    (by decide +kernel) (by decide) hreduce (by decide +kernel) (by decide +kernel)
    (by decide +kernel) with ⟨view', receipt, artifacts', hcompact, hremoved, hitems⟩
  refine ⟨view', receipt, artifacts', hcompact, by decide, ?_, ?_⟩
  · rw [hitems]
    decide
  · rw [hremoved]
    decide

end NovelAgent.Context
