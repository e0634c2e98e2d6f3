import NovelAgent.Context.Recording

/-!
# Safe Compactions

When a compaction of a view takes nothing away that has to stay.
-/

namespace NovelAgent.Context

open Core Domain List

/-- What has to stay of a view stays in its layer. -/
def Kept (view view' : AgentContextView) : Prop :=
  view'.protectedItems = view.protectedItems ∧
    ∀ layer, ∀ item ∈ view.layer layer, Held item → item ∈ view'.layer layer

/-- An atomic group stays completely or not at all. -/
def Whole (view view' : AgentContextView) : Prop :=
  ∀ group : StableId,
    (∀ item ∈ view.items, item.atomicGroupId = some group → item ∈ view'.items) ∨
      ∀ item ∈ view.items, item.atomicGroupId = some group → item ∉ view'.items

/-- A view is cut down to another one, and nothing is lost that has to stay. -/
structure CutSafely (view view' : AgentContextView) : Prop where
  kept : Kept view view'
  whole : Whole view view'
  contiguous : ∀ group, Contiguous (some group) (atomicGroups view) →
    Contiguous (some group) (atomicGroups view')

/-- What a compaction may do: publish a view that is cut safely and fits, give
    back the one it was given, or raise an error if it is a hard one. A soft one
    raises nothing but what the artifact store refuses with. -/
structure Safe (compactor : Compactor) (view : AgentContextView) (policy : ContextWindowPolicy)
    (hard : Bool) : Prop where
  cut : ∀ candidate removed, policy.target hard < compactor.size view →
    compactor.reduce view (policy.target hard) = .ok (candidate, removed) →
    compactor.size candidate ≤ policy.target hard → CutSafely view candidate
  recorded : hard = false → ∀ candidate removed, policy.target false < compactor.size view →
    compactor.reduce view (policy.target false) = .ok (candidate, removed) →
    compactor.size candidate ≤ policy.target false → ∀ summaryRef detailRef,
      compactor.Records view policy candidate removed summaryRef detailRef
  published : ∀ artifacts view' receipt artifacts',
    compactor.compact view policy hard artifacts = (.ok (view', some receipt), artifacts') →
    CutSafely view view' ∧ compactor.size view' ≤ policy.target hard
  unpublished : ∀ artifacts view' artifacts',
    compactor.compact view policy hard artifacts = (.ok (view', none), artifacts') →
    view'.bare = view.bare ∧
      (compactor.size view' ≤ policy.target hard ∨ hard = false ∧ view' = view)
  returned : hard = false → ∀ artifacts error,
    (compactor.compact view policy false artifacts).1 = .error error →
    ∃ message, error = .integrity message

/-- The groups of the first phase, with a summary function or without. -/
def firstGroups (summarizes : Bool) (view : AgentContextView) : List (List ContextViewItem) :=
  if summarizes then (removableGroups view).dropLast else removableGroups view

/-- Nothing that the phases take away is of a group with something they leave,
    and no summary that has to stay is replaced. -/
structure Sealed (summarizes : Bool) (view : AgentContextView) : Prop where
  extracted : ∀ item ∈ (firstGroups summarizes view).flatten,
    ∀ other ∈ view.protectedItems ++ view.compactedPrefixItems, ¬ Together item other
  summarized : summarizes = true → removableGroups view ≠ [] →
    (∃ itemId, Compactor.summaryId view = .ok itemId) →
    (∀ item ∈ (removableGroups view).flatten ++ view.compactedPrefixItems,
      ∀ other ∈ view.protectedItems, ¬ Together item other) ∧
    ∀ item ∈ view.compactedPrefixItems, item.mandatory = false ∧
      ∀ other ∈ removableItems view, Together item other →
        other ∈ (removableGroups view).flatten

/-- What every compaction writes down of a view can be: the identities are well
    formed, and what can be taken away is of events that the view knows of. -/
structure Recordable (summarizes : Bool) (view : AgentContextView) : Prop where
  word : isStableId (wordName view view.revision) = true
  names : removableGroups view ≠ [] → isStableId (wordName view (view.revision + 1)) = true ∧
    isStableId (receiptName view) = true ∧
    (summarizes = true → ∃ itemId, Compactor.summaryId view = .ok itemId)
  covered : ∀ item ∈ (removableGroups view).flatten, Known view.basisEventPosition item

/-- No text counts less than nothing. -/
def Compactor.Counts (compactor : Compactor) : Prop :=
  ∀ text, 0 ≤ compactor.countTokens text

variable {itemId : StableId} {content : World.NonEmptyText}

section Cuts

variable {view : AgentContextView} {item : ContextViewItem}

theorem nodup_of_valid (hvalid : view.Valid) : (ids (removableItems view)).Nodup :=
  nodup_removableItems hvalid.unique

theorem layer_of_removable (hvalid : view.Valid) (h : item ∈ removableItems view) :
    item.layer ≠ .protected ∧ item.layer ≠ .compactedPrefix := by
  unfold removableItems at h
  rw [mem_append, mem_append] at h
  rcases h with (h | h) | h
  · have hlayer : item.layer = .recentSettled := hvalid.layers .recentSettled item h
    rw [hlayer]
    decide
  · have hlayer : item.layer = .working := hvalid.layers .working item h
    rw [hlayer]
    decide
  · have hlayer : item.layer = .memory := hvalid.layers .memory item h
    rw [hlayer]
    decide

theorem not_held_of_removable (h : item ∈ (removableGroups view).flatten) : ¬ Held item :=
  (mem_removable.mp h).2 item (mem_removable.mp h).1 rfl

theorem mandatory_of_held (hvalid : view.Valid) (h : item ∈ view.compactedPrefixItems)
    (hheld : Held item) : item.mandatory = true := by
  rcases hheld with hmandatory | hpending
  · exact hmandatory
  · have hlayer : item.layer = .compactedPrefix := hvalid.layers .compactedPrefix item h
    have hitem := item.valid
    simp only [validateItem, refusal_eq_none] at hitem
    exact absurd ⟨hpending, hlayer⟩ hitem.2.2.2.1

variable {part : List ContextViewItem}

theorem mem_items_without (hvalid : view.Valid)
    (hpart : ∀ other ∈ part, other ∈ removableItems view) :
    item ∈ (without view (ids part)).items ↔ item ∈ view.items ∧ item ∉ part := by
  rw [mem_items, mem_items, mem_removableItems_without (nodup_of_valid hvalid) hpart]
  have hprotected : (without view (ids part)).protectedItems = view.protectedItems := rfl
  have hprefix : (without view (ids part)).compactedPrefixItems = view.compactedPrefixItems := rfl
  rw [hprotected, hprefix]
  constructor
  · rintro (h | ⟨h, hnot⟩ | h)
    · refine ⟨Or.inl h, fun hmem => ?_⟩
      exact (layer_of_removable hvalid (hpart item hmem)).1 (hvalid.layers .protected item h)
    · exact ⟨Or.inr (Or.inl h), hnot⟩
    · refine ⟨Or.inr (Or.inr h), fun hmem => ?_⟩
      exact (layer_of_removable hvalid (hpart item hmem)).2 (hvalid.layers .compactedPrefix item h)
  · rintro ⟨h | h | h, hnot⟩
    · exact Or.inl h
    · exact Or.inr (Or.inl ⟨h, hnot⟩)
    · exact Or.inr (Or.inr h)

theorem mem_dropIds_of_not_mem (hvalid : view.Valid) {part items : List ContextViewItem}
    (hpart : ∀ other ∈ part, other ∈ removableItems view)
    (hitems : ∀ other ∈ items, other ∈ removableItems view) (hitem : item ∈ items)
    (hnot : item ∉ part) : item ∈ dropIds (ids part) items := by
  refine mem_dropIds.mpr ⟨hitem, ?_⟩
  rw [mem_ids_iff (nodup_of_valid hvalid) hpart (hitems item hitem)]
  exact hnot

theorem kept_without (hvalid : view.Valid) (hpart : ∀ other ∈ part, other ∈ removableItems view)
    (hfree : ∀ other ∈ part, ¬ Held other) : Kept view (without view (ids part)) := by
  refine ⟨rfl, fun layer item hitem hheld => ?_⟩
  have hnot : item ∉ part := fun hmem => hfree item hmem hheld
  have hmemory : ∀ other ∈ view.activeMemoryItems, other ∈ removableItems view :=
    fun other h => mem_append_right _ h
  have hworking : ∀ other ∈ view.workingItems, other ∈ removableItems view :=
    fun other h => mem_append_left _ (mem_append_right _ h)
  have hrecent : ∀ other ∈ view.recentSettledTail, other ∈ removableItems view :=
    fun other h => mem_append_left _ (mem_append_left _ h)
  cases layer with
  | «protected» => exact hitem
  | memory => exact mem_dropIds_of_not_mem hvalid hpart hmemory hitem hnot
  | working => exact mem_dropIds_of_not_mem hvalid hpart hworking hitem hnot
  | recentSettled => exact mem_dropIds_of_not_mem hvalid hpart hrecent hitem hnot
  | compactedPrefix => exact hitem

theorem atomicGroups_without (view : AgentContextView) (removed : List StableId) :
    (atomicGroups (without view removed)).Sublist (atomicGroups view) := by
  have hdrop : ∀ items, (dropIds removed items).Sublist items := fun _ => filter_sublist
  exact ((((hdrop _).append (hdrop _)).append (hdrop _)).append (List.Sublist.refl _)).map _

/-- What the first phases leave of a sealed view. -/
theorem extracted_safely (hvalid : view.Valid) {taken : List (List ContextViewItem)}
    (htaken : ∀ group ∈ taken, group ∈ removableGroups view)
    (hsealed : ∀ item ∈ taken.flatten,
      ∀ other ∈ view.protectedItems ++ view.compactedPrefixItems, ¬ Together item other) :
    CutSafely view (without view (ids taken.flatten)) := by
  have hpart : ∀ other ∈ taken.flatten, other ∈ removableItems view :=
    fun _ h => taken_subset htaken h
  have hfree : ∀ other ∈ taken.flatten, ¬ Held other := by
    intro other hother
    rcases mem_flatten.mp hother with ⟨group, hgroup, hmem⟩
    exact not_held_of_removable (mem_flatten.mpr ⟨group, htaken group hgroup, hmem⟩)
  refine ⟨kept_without hvalid hpart hfree, fun group => ?_,
    fun group h => h.sublist (atomicGroups_without view _)⟩
  by_cases hsome : ∃ first ∈ taken.flatten, first.atomicGroupId = some group
  · -- One of the group was taken, and so all of it.
    rcases hsome with ⟨first, hfirst, hgroup⟩
    refine Or.inr fun item hitem hsame hstill => ?_
    have hnot := ((mem_items_without hvalid hpart).mp hstill).2
    have htogether : Together first item := ⟨group, hgroup, hsame⟩
    rcases mem_items.mp hitem with h | h | h
    · exact hsealed first hfirst item (mem_append_left _ h) htogether
    · exact hnot (mem_taken_of_key htaken hfirst h htogether.symm.key)
    · exact hsealed first hfirst item (mem_append_right _ h) htogether
  · refine Or.inl fun item hitem hsame => (mem_items_without hvalid hpart).mpr ⟨hitem, ?_⟩
    exact fun hmem => hsome ⟨item, hmem, hsame⟩

theorem mem_items_summarized (hvalid : view.Valid) (compactor : Compactor) :
    item ∈ (compactor.summarized view itemId content).items ↔ item ∈ view.protectedItems ∨
      (item ∈ removableItems view ∧ item ∉ (removableGroups view).flatten) ∨
        item = compactor.summaryItem itemId content := by
  rw [mem_items]
  have hremovable : removableItems (compactor.summarized view itemId content) =
      removableItems (stripped view) := rfl
  have hprotected : (compactor.summarized view itemId content).protectedItems =
      view.protectedItems := rfl
  have hprefix : (compactor.summarized view itemId content).compactedPrefixItems =
      [compactor.summaryItem itemId content] := rfl
  rw [hremovable, hprotected, hprefix, mem_singleton]
  unfold stripped
  rw [mem_removableItems_without (nodup_of_valid hvalid) fun _ h => (mem_removable.mp h).1]

/-- What the summary leaves of it. -/
theorem summarized_safely (hvalid : view.Valid) (compactor : Compactor) (itemId : StableId)
    (content : World.NonEmptyText)
    (hprotected : ∀ item ∈ (removableGroups view).flatten ++ view.compactedPrefixItems,
      ∀ other ∈ view.protectedItems, ¬ Together item other)
    (hsummaries : ∀ item ∈ view.compactedPrefixItems, item.mandatory = false ∧
      ∀ other ∈ removableItems view, Together item other →
        other ∈ (removableGroups view).flatten) :
    CutSafely view (compactor.summarized view itemId content) := by
  have hpart : ∀ other ∈ (removableGroups view).flatten, other ∈ removableItems view :=
    fun _ h => (mem_removable.mp h).1
  have hkept := kept_without hvalid hpart fun _ h => not_held_of_removable h
  constructor
  case kept =>
    refine ⟨rfl, fun layer item hitem hheld => ?_⟩
    cases layer with
    | «protected» => exact hkept.2 .protected item hitem hheld
    | memory => exact hkept.2 .memory item hitem hheld
    | working => exact hkept.2 .working item hitem hheld
    | recentSettled => exact hkept.2 .recentSettled item hitem hheld
    | compactedPrefix =>
      have hfalse := (hsummaries item hitem).1
      rw [mandatory_of_held hvalid hitem hheld] at hfalse
      cases hfalse
  case whole =>
    intro group
    by_cases hsome : ∃ first ∈ (removableGroups view).flatten ++ view.compactedPrefixItems,
        first.atomicGroupId = some group
    · -- One of the group is taken away or replaced, and so all of it.
      rcases hsome with ⟨first, hfirst, hgroup⟩
      refine Or.inr fun item hitem hsame hstill => ?_
      have htogether : Together first item := ⟨group, hgroup, hsame⟩
      have hremovable : item ∈ removableItems view → item ∈ (removableGroups view).flatten := by
        intro hmem
        rcases mem_append.mp hfirst with htaken | hold
        · exact mem_taken_of_key (fun _ h => h) htaken hmem htogether.symm.key
        · exact (hsummaries first hold).2 item hmem htogether
      rcases (mem_items_summarized hvalid compactor).mp hstill with h | ⟨h, hnot⟩ | h
      · exact hprotected first hfirst item h htogether
      · exact hnot (hremovable h)
      · rw [h] at hsame
        cases hsame
    · refine Or.inl fun item hitem hsame => (mem_items_summarized hvalid compactor).mpr ?_
      rcases mem_items.mp hitem with h | h | h
      · exact Or.inl h
      · refine Or.inr (Or.inl ⟨h, fun hmem => hsome ⟨item, mem_append_left _ hmem, hsame⟩⟩)
      · exact absurd ⟨item, mem_append_right _ h, hsame⟩ hsome
  case contiguous =>
    intro group h
    have hdrop : ∀ items, (dropIds (ids (removableGroups view).flatten) items).Sublist items :=
      fun _ => filter_sublist
    have hpartGroups := h.sublist (((((hdrop view.activeMemoryItems).append
      (hdrop view.workingItems)).append (hdrop view.recentSettledTail)).trans
        (sublist_append_left _ view.compactedPrefixItems)).map
          fun item => item.atomicGroupId)
    have hgroups : atomicGroups (compactor.summarized view itemId content) =
        ((dropIds (ids (removableGroups view).flatten) view.activeMemoryItems ++
          dropIds (ids (removableGroups view).flatten) view.workingItems ++
          dropIds (ids (removableGroups view).flatten) view.recentSettledTail).map
            fun item => item.atomicGroupId) ++ [none] := by
      unfold atomicGroups
      rw [map_append]
      rfl
    rw [hgroups]
    exact hpartGroups.append (by simp)

end Cuts

section Sealed

variable {compactor : Compactor} {view : AgentContextView} {summarizes : Bool}

theorem extractiveGroups_eq (h : compactor.summary.isSome = summarizes)
    (view : AgentContextView) : compactor.extractiveGroups view = firstGroups summarizes view := by
  unfold Compactor.extractiveGroups firstGroups
  rw [← h]
  cases compactor.summary <;> rfl

variable {candidate : AgentContextView}

/-- What is said of the items of a view is said of it without a provider's word. -/
theorem CutSafely.of_bare (h : CutSafely view candidate.bare) : CutSafely view candidate :=
  ⟨h.kept, h.whole, h.contiguous⟩

theorem Sealed.cut (hsealed : Sealed summarizes view) (hvalid : view.Valid)
    (hsummary : compactor.summary.isSome = summarizes) {target : Int}
    {removed : List ContextViewItem} (hlarge : target < compactor.size view)
    (h : compactor.reduce view target = .ok (candidate, removed)) : CutSafely view candidate := by
  refine CutSafely.of_bare ?_
  rcases compactor.reduce_eq_ok_cases (nodup_of_valid hvalid) hlarge h with
    ⟨n, hcandidate⟩ | ⟨summarizer, itemId, content, hsome, hid, hne, hcandidate⟩
  · rw [hcandidate]
    refine extracted_safely hvalid
      (fun group hgroup => compactor.mem_extractiveGroups (mem_of_mem_take hgroup)) ?_
    intro item hitem
    rcases mem_flatten.mp hitem with ⟨group, hgroup, hmem⟩
    have hfirst := mem_of_mem_take hgroup
    rw [extractiveGroups_eq hsummary] at hfirst
    exact hsealed.extracted item (mem_flatten.mpr ⟨group, hfirst, hmem⟩)
  · rw [hcandidate]
    have hyes : summarizes = true := by
      rw [← hsummary, hsome]
      rfl
    rcases hsealed.summarized hyes hne ⟨itemId, hid⟩ with ⟨hprotected, hsummaries⟩
    exact summarized_safely hvalid compactor itemId content hprotected hsummaries

theorem runId_of_reduce {target : Int} {removed : List ContextViewItem}
    (h : compactor.reduce view target = .ok (candidate, removed)) :
    candidate.runId = view.runId := by
  have hbare : candidate.bare.runId = view.runId := by
    rw [compactor.reduce_eq h]
    rfl
  exact hbare

theorem extractiveGroups_of_nil (h : removableGroups view = []) :
    compactor.extractiveGroups view = [] := by
  unfold Compactor.extractiveGroups
  rw [h]
  split <;> rfl

variable {target : Int} {removed : List ContextViewItem} {item : ContextViewItem}

theorem mem_removed (hvalid : view.Valid) (hlarge : target < compactor.size view)
    (h : compactor.reduce view target = .ok (candidate, removed)) :
    item ∈ removed ↔ item ∈ removableItems view ∧ item ∉ removableItems candidate := by
  constructor
  · intro hitem
    refine ⟨(compactor.reduce_cases hlarge h).1 item hitem, fun hstill => ?_⟩
    have hkept := congrArg removableItems (compactor.reduce_eq h)
    have hleft : item ∈ removableItems (without view (ids removed)) := hkept ▸ hstill
    rw [removableItems_without, mem_dropIds] at hleft
    exact hleft.2 (mem_ids.mpr ⟨item, hitem, rfl⟩)
  · rintro ⟨hitem, hnot⟩
    exact (compactor.kept_or_removed hlarge (nodup_of_valid hvalid) h hitem).resolve_left hnot

/-- A cut that fits takes away what is of removable groups, and there are some. -/
theorem removable_of_reduce (hvalid : view.Valid) (hlarge : target < compactor.size view)
    (h : compactor.reduce view target = .ok (candidate, removed))
    (hfits : compactor.size candidate ≤ target) :
    removableGroups view ≠ [] ∧ ∀ item ∈ removed, item ∈ (removableGroups view).flatten := by
  have hunique := nodup_of_valid hvalid
  rcases compactor.reduce_eq_ok_cases hunique hlarge h with
    ⟨n, hcandidate⟩ | ⟨_, itemId, content, _, _, hne, hcandidate⟩
  · have htaken : ∀ group ∈ (compactor.extractiveGroups view).take n,
        group ∈ removableGroups view :=
      fun group hgroup => compactor.mem_extractiveGroups (mem_of_mem_take hgroup)
    constructor
    · intro hnone
      rw [extractiveGroups_of_nil hnone, take_nil, flatten_nil] at hcandidate
      have hsame : compactor.size candidate.bare = compactor.size view := by
        rw [hcandidate]
        simp [Compactor.size, renderContext, without, ids]
      have hbare : compactor.size candidate.bare = compactor.size candidate := rfl
      omega
    · intro item hitem
      rcases (mem_removed hvalid hlarge h).mp hitem with ⟨hthere, hgone⟩
      rw [← removableItems_bare, hcandidate,
        mem_removableItems_without hunique fun _ h => taken_subset htaken h] at hgone
      by_contra hnot
      refine hgone ⟨hthere, fun hmem => hnot ?_⟩
      rcases mem_flatten.mp hmem with ⟨group, hgroup, hin⟩
      exact mem_flatten.mpr ⟨group, htaken group hgroup, hin⟩
  · refine ⟨hne, fun item hitem => ?_⟩
    rcases (mem_removed hvalid hlarge h).mp hitem with ⟨hthere, hgone⟩
    have hstripped : removableItems (compactor.summarized view itemId content) =
      removableItems (stripped view) := rfl
    rw [← removableItems_bare, hcandidate, hstripped, stripped,
      mem_removableItems_without hunique fun _ h => (mem_removable.mp h).1] at hgone
    by_contra hnot
    exact hgone ⟨hthere, hnot⟩

/-- The phases raise nothing but the refusal of the identity of a summary. -/
theorem error_of_reduce {error : ContextError} (h : compactor.reduce view target = .error error) :
    removableGroups view ≠ [] ∧ compactor.summary.isSome = true ∧
      Compactor.summaryId view = .error error := by
  unfold Compactor.reduce at h
  rcases hextract : compactor.extract target view (compactor.extractiveGroups view) with
    ⟨rest, taken⟩
  simp only [hextract, Compactor.summarize] at h
  cases hsummary : compactor.summary with
  | none =>
    rw [hsummary] at h
    cases h
  | some summarizer =>
    simp only [hsummary] at h
    split at h
    · cases h
    rename_i hmore
    rw [not_or] at hmore
    split at h
    · cases h
    rcases (Outcome.bind_eq_error _ _ _).mp h with hid | ⟨_, _, hok⟩
    · refine ⟨fun hnone => hmore.2 ?_, rfl, hid⟩
      rw [extractiveGroups_of_nil hnone] at hextract
      rw [← (Prod.mk.inj hextract).1]
      exact hnone
    · cases hok

variable {policy : ContextWindowPolicy} {hard : Bool}

theorem Recordable.records (hrecordable : Recordable summarizes view) (hvalid : view.Valid)
    (hreported : policy.Reported) (hcounts : compactor.Counts)
    (hlarge : target < compactor.size view)
    (h : compactor.reduce view target = .ok (candidate, removed))
    (hfits : compactor.size candidate ≤ target) (summaryRef detailRef : ArtifactRef) :
    compactor.Records view policy candidate removed summaryRef detailRef := by
  rcases removable_of_reduce hvalid hlarge h hfits with ⟨hne, hremoved⟩
  rcases hrecordable.names hne with ⟨hword, hname, _⟩
  exact (compactor.records_iff summaryRef detailRef (runId_of_reduce h) (hcounts _)
    (by omega)).mpr ⟨⟨hname, fun item hitem => hrecordable.covered item (hremoved item hitem)⟩,
      hreported, hword⟩

/-- The compaction of a sealed view. -/
theorem Sealed.safe (hsealed : Sealed summarizes view) (hvalid : view.Valid)
    (hrecordable : Recordable summarizes view) (hreported : policy.Reported)
    (hsummary : compactor.summary.isSome = summarizes) (hcounts : compactor.Counts)
    (hard : Bool) : Safe compactor view policy hard := by
  constructor
  case cut => exact fun candidate removed hlarge h _ => hsealed.cut hvalid hsummary hlarge h
  case recorded =>
    exact fun _ candidate removed hlarge h hfits =>
      hrecordable.records hvalid hreported hcounts hlarge h hfits
  case published =>
    intro artifacts view' receipt artifacts' h
    rcases compactor.compact_published h with ⟨candidate, removed, _, summaryRef, _, _,
      providerReceipt, hlarge, hreduce, hfits, _, _, _, rfl⟩
    have hcut := hsealed.cut hvalid hsummary hlarge hreduce
    exact ⟨⟨hcut.kept, hcut.whole, hcut.contiguous⟩, hfits⟩
  case unpublished =>
    intro artifacts view' artifacts' h
    refine ⟨compactor.compact_unpublished h, ?_⟩
    rcases compactor.compact_unpublished_cases h with ⟨hfits, _, rfl⟩ | hsoft
    · exact .inl hfits
    · exact .inr hsoft
  case returned =>
    intro _ artifacts error h
    rcases compactor.compact_soft_error (hcounts _) artifacts h with hstore | ⟨_, hword⟩ |
      ⟨hlarge, hreduce⟩ | ⟨candidate, removed, summaryRef, detailRef, hlarge, hreduce, hfits, hnot⟩
    · exact hstore
    · rcases (compactor.withProviderReceipt_iff (hcounts _)).mpr ⟨hreported, hrecordable.word⟩ with
        ⟨view', hok⟩
      rw [hok] at hword
      cases hword
    · rcases error_of_reduce hreduce with ⟨hne, hsome, hid⟩
      rcases (hrecordable.names hne).2.2 (hsummary ▸ hsome) with ⟨itemId, hok⟩
      rw [hok] at hid
      cases hid
    · exact absurd (hrecordable.records hvalid hreported hcounts hlarge hreduce hfits _ _) hnot

end Sealed

section Harm

/-- A compactor that takes texts of up to so many characters for nothing, and longer ones for more
    than a limit. Its summaries, if it makes any, are blank. -/
def bounding (summarizes : Bool) (bound limit : Int) : Compactor where
  projectorTokens := characters
  countTokens text := if characters text ≤ bound then 0 else limit + 1
  schemaVersion := Sample.version
  summary := if summarizes then some fun _ => "" else none

/-- A compactor that takes to long texts, and summarizes by one. -/
def verbose (length : Nat) (limit : Int) : Compactor where
  projectorTokens := characters
  countTokens text := if length < text.length then 0 else limit + 1
  schemaVersion := Sample.version
  summary := some fun _ => String.ofList (List.replicate (length + 1) 'a')

variable {view : AgentContextView} {item other : ContextViewItem} {summarizes : Bool}

theorem characters_item (h : other ∈ shown view) :
    ((renderItem other).length : Int) ≤ characters (renderContext view) := by
  have hpart := characters_sublist (singleton_sublist.mpr h)
  have hone : characters ("\n\n".intercalate ([other].map renderItem)) =
      ((renderItem other).length : Nat) := by
    rw [characters_intercalate]
    simp
  rw [renderContext_eq]
  omega

theorem renderItem_content (item : ContextViewItem) :
    item.content.text.length ≤ (renderItem item).length := by
  unfold renderItem
  rw [← String.length_toList, ← String.length_toList]
  simp only [String.toList_append, length_append]
  omega

/-- While groups of the first phase are left, more characters are shown than without them. -/
theorem characters_take (hvalid : view.Valid) {groups : List (List ContextViewItem)}
    (hgroups : groups.Sublist (removableGroups view)) {n : Nat} (hn : n < groups.length) :
    characters (renderContext (without view (ids groups.flatten))) <
      characters (renderContext (without view (ids (groups.take n).flatten))) := by
  have hapart := (removableGroups_apart view).sublist hgroups
  rcases groups_nonempty (hgroups.subset (getElem_mem hn)) with ⟨item, hitem⟩
  have hremovable : item ∈ removableItems view :=
    taken_subset (fun _ h => hgroups.subset h)
      (mem_flatten.mpr ⟨groups[n], getElem_mem hn, hitem⟩)
  have hnot : item ∉ (groups.take n).flatten := by
    intro hmem
    rcases mem_flatten.mp hmem with ⟨group, hgroup, hin⟩
    rcases mem_iff_getElem.mp hgroup with ⟨i, hi, rfl⟩
    rw [length_take] at hi
    rw [getElem_take] at hin
    exact pairwise_iff_getElem.mp hapart i n (by omega) hn (by omega) item hin hitem
  have hthere : item ∈ removableItems (without view (ids (groups.take n).flatten)) := by
    refine (mem_removableItems_without (nodup_of_valid hvalid) fun other hother => ?_).mpr
      ⟨hremovable, hnot⟩
    exact taken_subset (fun _ h => hgroups.subset (mem_of_mem_take h)) hother
  have hsplit : without view (ids groups.flatten) =
      without (without view (ids (groups.take n).flatten)) (ids (groups.drop n).flatten) := by
    rw [without_without, ← ids_append, ← flatten_append, take_append_drop]
  rw [hsplit]
  refine characters_lt hthere (mem_ids.mpr ⟨item, ?_, rfl⟩)
  rw [drop_eq_getElem_cons hn, flatten_cons]
  exact mem_append_left _ hitem

/-- Some compactor cuts a view down to such a rest, which fits. -/
def Leaves (summarizes : Bool) (view : AgentContextView) (policy : ContextWindowPolicy)
    (rest : AgentContextView) : Prop :=
  ∃ (compactor : Compactor) (candidate : AgentContextView) (removed : List ContextViewItem),
    compactor.summary.isSome = summarizes ∧ compactor.Counts ∧
    policy.target false < compactor.size view ∧
    compactor.reduce view (policy.target false) = .ok (candidate, removed) ∧
    compactor.size candidate ≤ policy.target false ∧ candidate.bare = rest

variable {policy : ContextWindowPolicy}

theorem bounding_counts {bound limit : Int} (h : 1 ≤ limit) :
    (bounding summarizes bound limit).Counts := by
  intro text
  change 0 ≤ if characters text ≤ bound then 0 else limit + 1
  split <;> omega

theorem verbose_counts {length : Nat} {limit : Int} (h : 1 ≤ limit) :
    (verbose length limit).Counts := by
  intro text
  change 0 ≤ if length < text.length then 0 else limit + 1
  split <;> omega

/-- Some compactor takes all groups of the first phase away. -/
theorem extracted_leaves (hvalid : view.Valid) (policy : ContextWindowPolicy)
    (hitem : item ∈ (firstGroups summarizes view).flatten) :
    Leaves summarizes view policy (without view (ids (firstGroups summarizes view).flatten)) := by
  have hsublist : (firstGroups summarizes view).Sublist (removableGroups view) := by
    unfold firstGroups
    split
    · exact dropLast_sublist _
    · exact List.Sublist.refl _
  -- What is left after the first phase is the longest text that fits.
  let bound := characters (renderContext (without view (ids (firstGroups summarizes view).flatten)))
  let compactor := bounding summarizes bound policy.softLimitTokens
  have hsummary : compactor.summary.isSome = summarizes := by
    cases summarizes <;> rfl
  have hgroups := extractiveGroups_eq hsummary view
  have hheld : compactor.heldBack view =
      without view (ids (firstGroups summarizes view).flatten) := by
    unfold Compactor.heldBack
    rw [hgroups]
  have hlong : ∀ view', bound < characters (renderContext view') →
      policy.target false < compactor.size view' := by
    intro view' h
    have hsize : compactor.size view' = policy.softLimitTokens + 1 := if_neg (not_le.mpr h)
    rw [hsize]
    exact Int.lt_succ _
  have hfits : compactor.size (compactor.heldBack view) ≤ policy.target false := by
    have hsize : compactor.size (compactor.heldBack view) = 0 := by
      rw [hheld]
      exact if_pos (le_refl _)
    have hsoft : 1 ≤ policy.target false := policy.softFits.1
    omega
  have hremovable : item ∈ removableItems view := taken_subset (fun _ h => hsublist.subset h) hitem
  have hview : policy.target false < compactor.size view :=
    hlong view (characters_lt hremovable (mem_ids.mpr ⟨item, hitem, rfl⟩))
  rcases compactor.reduce_extracts hview (fun n hn => by
      rw [hgroups] at hn ⊢
      exact hlong _ (characters_take hvalid hsublist hn)) hfits with
    ⟨candidate, removed, hreduce, hcandidate⟩
  have hsame : compactor.size candidate = compactor.size candidate.bare := rfl
  refine ⟨compactor, candidate, removed, hsummary, bounding_counts policy.softFits.1, hview,
    hreduce, ?_, hcandidate.trans hheld⟩
  rw [hsame, hcandidate]
  exact hfits

theorem verbose_large (policy : ContextWindowPolicy) (removed : List StableId) :
    policy.target false <
      (verbose (renderContext view).length policy.softLimitTokens).size (without view removed) := by
  have hle := characters_sublist (shown_without view removed)
  rw [← renderContext_eq, ← renderContext_eq] at hle
  unfold characters at hle
  have hsize : (verbose (renderContext view).length policy.softLimitTokens).size
      (without view removed) = policy.softLimitTokens + 1 := if_neg (by omega)
  rw [hsize]
  exact Int.lt_succ _

theorem verbose_large_view (policy : ContextWindowPolicy) : policy.target false <
    (verbose (renderContext view).length policy.softLimitTokens).size view := by
  have hsize : (verbose (renderContext view).length policy.softLimitTokens).size view =
      policy.softLimitTokens + 1 := if_neg (Nat.lt_irrefl _)
  rw [hsize]
  exact Int.lt_succ _

theorem verbose_not_blank (length : Nat) (source : List ContextViewItem) :
    ¬ Text.isBlank (Compactor.summaryText
      (fun _ => String.ofList (List.replicate (length + 1) 'a')) source) = true := by
  unfold Compactor.summaryText Text.isBlank
  simp only [String.toList_ofList, replicate_succ, all_cons, Bool.and_eq_true, not_and]
  intro hspace
  exact absurd hspace (by decide)

/-- Some compactor takes everything away that can be, and makes a summary. -/
theorem summarized_leaves (hvalid : view.Valid) (policy : ContextWindowPolicy)
    (hne : removableGroups view ≠ []) (hid : Compactor.summaryId view = .ok itemId) :
    ∃ compactor content,
      Leaves true view policy (Compactor.summarized compactor view itemId content) := by
  let compactor := verbose (renderContext view).length policy.softLimitTokens
  rcases compactor.reduce_summarizes (nodup_of_valid hvalid) (verbose_large_view policy)
    (fun n => verbose_large policy _) rfl hne hid (verbose_not_blank _ _) with
    ⟨candidate, removed, hreduce, hcandidate⟩
  have hlong : ∀ content : World.NonEmptyText,
      content.text.length = (renderContext view).length + 1 →
      compactor.size (compactor.summarized view itemId content) = 0 := by
    intro content hcontent
    have hshown : compactor.summaryItem itemId content ∈
        shown (compactor.summarized view itemId content) := by
      unfold shown
      simp only [mem_append]
      exact Or.inl (Or.inr (mem_singleton_self _))
    have hle := characters_item hshown
    have hchars := renderItem_content (compactor.summaryItem itemId content)
    have hsame : (compactor.summaryItem itemId content).content.text.length =
        (renderContext view).length + 1 := hcontent
    unfold characters at hle
    exact if_pos (by omega)
  have hlength : (String.ofList (List.replicate ((renderContext view).length + 1) 'a')).length =
      (renderContext view).length + 1 := by
    rw [← String.length_toList, String.toList_ofList, length_replicate]
  have hsize : compactor.size candidate = 0 := by
    have hsame : compactor.size candidate = compactor.size candidate.bare := rfl
    rw [hsame, hcandidate]
    exact hlong _ hlength
  have hsoft : 1 ≤ policy.target false := policy.softFits.1
  exact ⟨compactor, _, compactor, candidate, removed, rfl, verbose_counts policy.softFits.1,
    verbose_large_view policy, hreduce, by omega, hcandidate⟩

section Leaves

variable {rest : AgentContextView} (hleaves : Leaves summarizes view policy rest)
  (hsafe : ∀ compactor : Compactor, compactor.summary.isSome = summarizes → compactor.Counts →
    Safe compactor view policy false)

include hleaves hsafe

theorem Leaves.cut : CutSafely view rest := by
  rcases hleaves with ⟨compactor, candidate, removed, hsummary, hcounts, hlarge, hreduce, hfits,
    rfl⟩
  have hcut := (hsafe compactor hsummary hcounts).cut candidate removed hlarge hreduce hfits
  exact ⟨hcut.kept, hcut.whole, hcut.contiguous⟩

theorem Leaves.recorded (hvalid : view.Valid) :
    isStableId (wordName view (view.revision + 1)) = true ∧ isStableId (receiptName view) = true ∧
      ∀ item ∈ removableItems view, item ∉ removableItems rest →
        Known view.basisEventPosition item := by
  rcases hleaves with ⟨compactor, candidate, removed, hsummary, hcounts, hlarge, hreduce, hfits,
    rfl⟩
  have hrecords := (hsafe compactor hsummary hcounts).recorded rfl candidate removed hlarge hreduce
    hfits Sample.package Sample.package
  rcases (compactor.records_iff _ _ (runId_of_reduce hreduce) (hcounts _) (by omega)).mp hrecords
    with ⟨⟨hname, hknown⟩, _, hword⟩
  exact ⟨hword, hname, fun item hitem hgone =>
    hknown item ((mem_removed hvalid hlarge hreduce).mpr ⟨hitem, hgone⟩)⟩

end Leaves

theorem not_mem_summarized (hvalid : view.Valid) {compactor : Compactor} {group : StableId}
    (hitem : item ∈ (removableGroups view).flatten ++ view.compactedPrefixItems)
    (hgroup : item.atomicGroupId = some group) :
    item ∉ (compactor.summarized view itemId content).items := by
  intro hstill
  rcases (mem_items_summarized hvalid compactor).mp hstill with h | ⟨h, hnot⟩ | h
  · have hlayer : item.layer = .protected := hvalid.layers .protected item h
    rcases mem_append.mp hitem with htaken | hold
    · exact (layer_of_removable hvalid (mem_removable.mp htaken).1).1 hlayer
    · have hother : item.layer = .compactedPrefix := hvalid.layers .compactedPrefix item hold
      rw [hlayer] at hother
      cases hother
  · rcases mem_append.mp hitem with htaken | hold
    · exact hnot htaken
    · exact (layer_of_removable hvalid h).2 (hvalid.layers .compactedPrefix item hold)
  · rw [h] at hgroup
    cases hgroup

theorem not_whole {view' : AgentContextView} (hwhole : Whole view view') (hitem : item ∈ view.items)
    (hother : other ∈ view.items) (hgone : item ∉ view'.items) (hstill : other ∈ view'.items) :
    ¬ Together item other := by
  rintro ⟨group, hgroup, hsame⟩
  rcases hwhole group with hall | hnone
  · exact hgone (hall item hitem hgroup)
  · exact hnone other hother hsame hstill

section Necessary

variable (hsafe : ∀ compactor : Compactor, compactor.summary.isSome = summarizes →
  compactor.Counts → Safe compactor view policy false)

include hsafe

/-- A compactor that takes the whole view for nothing asks for a provider's word on it. -/
theorem worded_of_safe : policy.Reported ∧ isStableId (wordName view view.revision) = true := by
  let compactor := bounding summarizes (characters (renderContext view)) policy.softLimitTokens
  have hsize : compactor.size view = 0 := if_pos (le_refl _)
  have hsoft : 1 ≤ policy.target false := policy.softFits.1
  have hsummary : compactor.summary.isSome = summarizes := by
    cases summarizes <;> rfl
  refine (compactor.withProviderReceipt_iff hsize.ge).mp ?_
  cases hword : compactor.withProviderReceipt view policy with
  | ok view' => exact ⟨view', rfl⟩
  | error error =>
    have hfits : compactor.size view ≤ policy.target false := by omega
    have hcompact := compactor.compact_unworded hsize.ge ∅ hfits hword
    rcases (hsafe compactor hsummary (bounding_counts policy.softFits.1)).returned rfl ∅ error
      hcompact with ⟨message, rfl⟩
    rcases compactor.plain_withProviderReceipt view policy _ hword with ⟨_, hplain⟩
    cases hplain

variable (hvalid : view.Valid)

include hvalid

/-- A view that every compactor compacts safely is sealed. -/
theorem sealed_of_safe : Sealed summarizes view := by
  have hsubset : ∀ group ∈ firstGroups summarizes view, group ∈ removableGroups view := by
    intro group hgroup
    unfold firstGroups at hgroup
    split at hgroup
    · exact (dropLast_sublist _).subset hgroup
    · exact hgroup
  constructor
  case extracted =>
    intro item hitem other hother
    have hpart : ∀ x ∈ (firstGroups summarizes view).flatten, x ∈ removableItems view :=
      fun _ h => taken_subset hsubset h
    have hcut := (extracted_leaves hvalid policy hitem).cut hsafe
    have hthere : other ∈ view.items := by
      rw [mem_items]
      rcases mem_append.mp hother with h | h
      · exact Or.inl h
      · exact Or.inr (Or.inr h)
    have hapart : other ∉ (firstGroups summarizes view).flatten := by
      intro hmem
      have hlayer := layer_of_removable hvalid (hpart other hmem)
      rcases mem_append.mp hother with h | h
      · exact hlayer.1 (hvalid.layers .protected other h)
      · exact hlayer.2 (hvalid.layers .compactedPrefix other h)
    have hitemThere : item ∈ view.items := mem_items.mpr (Or.inr (Or.inl (hpart item hitem)))
    refine not_whole hcut.whole hitemThere hthere ?_
      ((mem_items_without hvalid hpart).mpr ⟨hthere, hapart⟩)
    exact fun hstill => ((mem_items_without hvalid hpart).mp hstill).2 hitem
  case summarized =>
    rintro rfl hne ⟨itemId, hid⟩
    rcases summarized_leaves hvalid policy hne hid with ⟨compactor, content, hleaves⟩
    have hcut := hleaves.cut hsafe
    have hmem : ∀ {x}, x ∈ (compactor.summarized view itemId content).items ↔ _ :=
      mem_items_summarized hvalid compactor
    have hthere : ∀ item ∈ (removableGroups view).flatten ++ view.compactedPrefixItems,
        item ∈ view.items := by
      intro item hitem
      rw [mem_items]
      rcases mem_append.mp hitem with h | h
      · exact Or.inr (Or.inl (mem_removable.mp h).1)
      · exact Or.inr (Or.inr h)
    constructor
    · intro item hitem other hother htogether
      rcases htogether with ⟨group, hgroup, hsame⟩
      exact not_whole hcut.whole (hthere item hitem) (mem_items.mpr (Or.inl hother))
        (not_mem_summarized hvalid hitem hgroup) (hmem.mpr (Or.inl hother)) ⟨group, hgroup, hsame⟩
    · intro item hitem
      constructor
      · -- The layer of summaries holds the new one only, which is not mandatory.
        by_contra hmandatory
        have hheld : Held item := Or.inl (by simpa using hmandatory)
        have hlayer := hcut.kept.2 .compactedPrefix item hitem hheld
        have hnew : item = compactor.summaryItem itemId content := mem_singleton.mp hlayer
        rw [hnew] at hmandatory
        exact hmandatory rfl
      · intro other hother htogether
        by_contra hnot
        rcases htogether with ⟨group, hgroup, hsame⟩
        have hold := mem_append_right (removableGroups view).flatten hitem
        exact not_whole hcut.whole (hthere item hold) (mem_items.mpr (Or.inr (Or.inl hother)))
          (not_mem_summarized hvalid hold hgroup) (hmem.mpr (Or.inr (Or.inl ⟨hother, hnot⟩)))
          ⟨group, hgroup, hsame⟩

theorem summaryId_of_safe (h : summarizes = true) (hne : removableGroups view ≠ []) :
    ∃ itemId, Compactor.summaryId view = .ok itemId := by
  subst h
  let compactor := verbose (renderContext view).length policy.softLimitTokens
  have hcounts : compactor.Counts := verbose_counts policy.softFits.1
  cases hid : Compactor.summaryId view with
  | ok itemId => exact ⟨itemId, rfl⟩
  | error error =>
    have hreduce := compactor.reduce_malformed (nodup_of_valid hvalid) (verbose_large_view policy)
      (fun n => verbose_large policy _) rfl hne hid (verbose_not_blank _ _)
    have hcompact := compactor.compact_unreduced (hcounts _) ∅ (verbose_large_view policy) hreduce
    rcases (hsafe compactor rfl hcounts).returned rfl ∅ error hcompact with ⟨message, rfl⟩
    rcases plain_identity _ _ hid with ⟨_, hplain⟩
    cases hplain

theorem recordable_of_safe : Recordable summarizes view := by
  have hsummary := summaryId_of_safe hsafe hvalid
  -- Some compactor takes away all that can be, with a summary or without one.
  have htaken : removableGroups view ≠ [] → ∃ rest, Leaves summarizes view policy rest ∧
      ∀ item ∈ (removableGroups view).flatten, item ∉ removableItems rest := by
    intro hne
    cases summarizes with
    | false =>
      rcases exists_mem_of_ne_nil _ hne with ⟨group, hgroup⟩
      rcases groups_nonempty hgroup with ⟨item, hitem⟩
      refine ⟨_, extracted_leaves hvalid policy (mem_flatten.mpr ⟨group, hgroup, hitem⟩),
        fun item hitem hstill => ?_⟩
      exact ((mem_removableItems_without (nodup_of_valid hvalid)
        fun _ h => (mem_removable.mp h).1).mp hstill).2 hitem
    | true =>
      rcases hsummary rfl hne with ⟨itemId, hid⟩
      rcases summarized_leaves hvalid policy hne hid with ⟨compactor, content, hleaves⟩
      refine ⟨_, hleaves, fun item hitem hstill => ?_⟩
      have hstripped : item ∈ removableItems (stripped view) := hstill
      exact ((mem_removableItems_without (nodup_of_valid hvalid)
        fun _ h => (mem_removable.mp h).1).mp hstripped).2 hitem
  constructor
  case word => exact (worded_of_safe hsafe).2
  case names =>
    intro hne
    rcases htaken hne with ⟨rest, hleaves, _⟩
    rcases hleaves.recorded hsafe hvalid with ⟨hword, hname, _⟩
    exact ⟨hword, hname, fun h => hsummary h hne⟩
  case covered =>
    intro item hitem
    have hne : removableGroups view ≠ [] := by
      intro hnone
      rw [hnone] at hitem
      exact not_mem_nil hitem
    rcases htaken hne with ⟨rest, hleaves, hgone⟩
    exact (hleaves.recorded hsafe hvalid).2.2 item (mem_removable.mp hitem).1 (hgone item hitem)

end Necessary

end Harm

/-- For every window, a valid view is compacted safely by every compactor with a
    summary function, or by every one without, and in both modes exactly when
    the window can be reported on and the view is recordable and sealed. -/
theorem compaction_safe_iff (view : AgentContextView) (hvalid : view.Valid)
    (policy : ContextWindowPolicy) (summarizes : Bool) :
    (∀ compactor : Compactor, compactor.summary.isSome = summarizes → compactor.Counts →
      ∀ hard, Safe compactor view policy hard) ↔
    policy.Reported ∧ Recordable summarizes view ∧ Sealed summarizes view := by
  constructor
  · intro hsafe
    have hsoft := fun compactor hsummary hcounts => hsafe compactor hsummary hcounts false
    exact ⟨(worded_of_safe hsoft).1, recordable_of_safe hsoft hvalid,
      sealed_of_safe hsoft hvalid⟩
  · rintro ⟨hreported, hrecordable, hsealed⟩ compactor hsummary hcounts hard
    exact hsealed.safe hvalid hrecordable hreported hsummary hcounts hard

namespace Sample

def scene : StableId := ⟨"scene", by decide⟩

def note : ContextViewItem :=
  item ⟨"claim.note", by decide⟩ .memory ⟨"Who lit the lamp?", by decide⟩

def sceneClaim : ContextViewItem :=
  { newClaim with
    atomicGroupId := some scene
    valid := by decide }

def sceneStart : ContextViewItem :=
  { item ⟨"claim.start", by decide⟩ .memory ⟨"The hero came in.", by decide⟩ with
    atomicGroupId := some scene
    sourceEventRange := some (1, 2)
    valid := by decide }

def sceneSummary : ContextViewItem :=
  { oldSummary with
    atomicGroupId := some scene
    valid := by decide }

/-- A note, a scene of two claims, and a summary of how it began. -/
def sealedView : AgentContextView :=
  { compactedView with
    activeMemoryItems := [note, sceneStart, sceneClaim]
    compactedPrefixItems := [sceneSummary] }

end Sample

/-- A soft compaction takes the note away and then the scene with its summary.
    Another summary stands for them. -/
theorem compaction_safe_claim :
    (∃ view' receipt artifacts',
      Sample.summarizer.compact Sample.sealedView Sample.policy false ∅ =
        (.ok (view', some receipt), artifacts') ∧
      view'.items = [Sample.goal, Sample.newSummary]) ∧
    Safe Sample.summarizer Sample.sealedView Sample.policy false := by
  refine ⟨?_, ?_⟩
  · have hreduce : Sample.summarizer.reduce Sample.sealedView (Sample.policy.target false) =
        .ok ((without Sample.sealedView
          (ids [Sample.note, Sample.sceneStart, Sample.sceneClaim])).showing [Sample.newSummary],
          [Sample.note, Sample.sceneStart, Sample.sceneClaim]) := by decide +kernel
    rcases Sample.summarizer.compact_empty 512 (contentId_ne (by decide +kernel))
      (by decide +kernel) (by decide) hreduce (by decide +kernel) (by decide +kernel)
      (by decide +kernel) with ⟨view', receipt, artifacts', hcompact, _, hitems⟩
    exact ⟨view', receipt, artifacts', hcompact, hitems.trans rfl⟩
  · refine (compaction_safe_iff Sample.sealedView
      ((AgentContextView.validateView_eq_none _).mp (by decide +kernel)) Sample.policy true).mpr
      ⟨by decide, ?_, ?_⟩ Sample.summarizer rfl ?_ false
    · refine ⟨by decide, fun _ => ⟨by decide, by decide, fun _ => ⟨_, rfl⟩⟩, ?_⟩
      decide +kernel
    · constructor
      case extracted =>
        intro item hitem
        have hnote : item = Sample.note := mem_singleton.mp hitem
        rintro other _ ⟨group, hgroup, _⟩
        rw [hnote] at hgroup
        cases hgroup
      case summarized =>
        rintro _ _ _
        constructor
        · rintro item _ other hother ⟨group, _, hgroup⟩
          have hgoal : other = Sample.goal := mem_singleton.mp hother
          rw [hgoal] at hgroup
          cases hgroup
        · intro item hitem
          have hsummary : item = Sample.sceneSummary := mem_singleton.mp hitem
          have hall : removableItems Sample.sealedView =
              (removableGroups Sample.sealedView).flatten := by decide +kernel
          exact ⟨by rw [hsummary]; rfl, fun other hother _ => hall ▸ hother⟩
    · intro text
      exact Int.natCast_nonneg _

namespace Sample

def sceneGoal : ContextViewItem :=
  { goal with
    atomicGroupId := some scene
    valid := by decide }

def mandatorySummary : ContextViewItem :=
  { oldSummary with
    mandatory := true
    valid := by decide }

def sceneView : AgentContextView :=
  { compactedView with
    protectedItems := [sceneGoal]
    activeMemoryItems := [sceneClaim]
    compactedPrefixItems := [mandatorySummary] }

end Sample

open Sample

/-- A compaction takes one part of a scene away and leaves the other, and it
    drops a mandatory summary. -/
theorem scene_taken_apart :
    sceneView.Valid ∧ ∃ view' receipt artifacts',
      summarizer.compact sceneView policy true ∅ =
        (.ok (view', some receipt), artifacts') ∧
      mandatorySummary ∈ sceneView.items ∧ mandatorySummary ∉ view'.items ∧
      Together sceneGoal sceneClaim ∧ sceneGoal ∈ view'.items ∧
      sceneClaim ∉ view'.items ∧
      ¬ Safe summarizer sceneView policy true := by
  refine ⟨(AgentContextView.validateView_eq_none _).mp (by decide +kernel), ?_⟩
  have hreduce : summarizer.reduce sceneView (policy.target true) =
      .ok ((without sceneView (ids [sceneClaim])).showing [newSummary],
        [sceneClaim]) := by decide +kernel
  rcases summarizer.compact_empty 309 (contentId_ne (by decide +kernel))
    (by decide +kernel) (by decide) hreduce (by decide +kernel) (by decide +kernel)
    (by decide +kernel) with ⟨view', receipt, artifacts', hcompact, _, hitems⟩
  have hsummary : mandatorySummary ∉ view'.items := by
    rw [hitems]
    decide
  refine ⟨view', receipt, artifacts', hcompact, by decide, hsummary, ⟨scene, rfl, rfl⟩,
    ?_, ?_, fun hsafe => ?_⟩
  · rw [hitems]
    decide
  · rw [hitems]
    decide
  · have hcut := (hsafe.published ∅ view' receipt artifacts' hcompact).1
    have hkept := hcut.kept.2 .compactedPrefix mandatorySummary
      (mem_singleton_self _) (Or.inl rfl)
    exact hsummary (mem_items.mpr (Or.inr (Or.inr hkept)))

end NovelAgent.Context
