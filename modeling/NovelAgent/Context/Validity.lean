import NovelAgent.Context.CompactionRecords
import NovelAgent.Context.Poisoning

/-!
# Valid Views

When the views of a stream are valid.
-/

namespace NovelAgent.Context

open Core Domain List

/-- Items that can stand in a view beside the ones it keeps: their identities
    are neither kept nor compacted, and their scope is the reader's. -/
def CanJoin (view : AgentContextView) (kept added : List ContextViewItem)
    (compacted : List StableId) : Prop :=
  (ids added).Nodup ∧
  ∀ item ∈ added, item.itemId ∉ ids kept ∧ item.itemId ∉ compacted ∧
    (view.informationScope = .writerSafe → item.informationScope ≠ .plannerSafe)

/-- A payload that leaves a valid view valid. -/
def Fits (view : AgentContextView) : Payload → Prop
  | .deltaApplied delta =>
    CanJoin view
      (view.protectedItems ++ dropIds delta.supersededItemIds view.activeMemoryItems ++
        view.workingItems ++ view.recentSettledTail ++ view.compactedPrefixItems)
      delta.addedMemoryItems view.compactedItemIds
  | .workPlanSettled _ workingItem =>
    workingItem.layer = .working ∧
    CanJoin view
      (view.protectedItems ++ view.activeMemoryItems ++
        (view.workingItems.filter fun item => item.kind ≠ .workPlan) ++
        view.recentSettledTail ++ view.compactedPrefixItems)
      [workingItem] view.compactedItemIds
  | .compacted receipt =>
    (∀ item ∈ receipt.compactedItems, item.layer = .compactedPrefix) ∧
    (∀ item ∈ view.protectedItems, item.itemId ∉ receipt.removedItemIds) ∧
    CanJoin view
      (view.protectedItems ++ dropIds receipt.removedItemIds view.activeMemoryItems ++
        dropIds receipt.removedItemIds view.workingItems ++
        dropIds receipt.removedItemIds view.recentSettledTail)
      receipt.compactedItems (view.compactedItemIds ++ receipt.removedItemIds)
  | _ => True

/-- Two views for the same reader, on the same basis and with the same protected items. -/
def SameFrame (view view' : AgentContextView) : Prop :=
  view'.baseCommit = view.baseCommit ∧ view'.snapshotId = view.snapshotId ∧
  view'.profileRef = view.profileRef ∧ view'.planRef = view.planRef ∧
  view'.consumer = view.consumer ∧ view'.informationScope = view.informationScope ∧
  view'.protectedItems = view.protectedItems

/-- A valid view that keeps some of its items and takes others in stays valid
    exactly when these can join. -/
theorem valid_join_iff {view view' : AgentContextView} {kept added : List ContextViewItem}
    (compacted : List StableId) (h : view.Valid) (hframe : SameFrame view view')
    (hitems : view'.items.Perm (kept ++ added)) (hkept : kept.Sublist view.items)
    (hcompacted : view'.compactedItemIds.Nodup)
    (hmem : ∀ id, id ∈ view'.compactedItemIds ↔ id ∈ compacted)
    (hcovered : ∀ range ∈ view'.coveredEventRange,
      rangeOrdered range = true ∧ range.2 ≤ view'.basisEventPosition) :
    view'.Valid ↔ (∀ layer, ∀ item ∈ view'.layer layer, item.layer = layer) ∧
      (∀ id ∈ ids kept, id ∉ compacted) ∧ CanJoin view kept added compacted := by
  rcases hframe with ⟨hcommit, hsnapshot, hprofile, hplan, hconsumer, hscope, hprotected⟩
  have hids : view'.itemIds.Perm (ids kept ++ ids added) := by
    rw [← ids_append]
    exact hitems.map _
  have hkeptNodup : (ids kept).Nodup := h.unique.sublist (hkept.map _)
  constructor
  · intro h'
    have hunique := hids.nodup_iff.mp h'.unique
    rw [nodup_append] at hunique
    refine ⟨h'.layers, ?_, hunique.2.1, ?_⟩
    · intro id hid
      rw [← hmem]
      exact h'.apart id (hids.mem_iff.mpr (mem_append_left _ hid))
    · intro item hitem
      have hid : item.itemId ∈ ids added := mem_ids.mpr ⟨item, hitem, rfl⟩
      refine ⟨fun hold => hunique.2.2 _ hold _ hid rfl, ?_, ?_⟩
      · rw [← hmem]
        exact h'.apart _ (hids.mem_iff.mpr (mem_append_right _ hid))
      · intro hwriter
        exact h'.safe (hscope.trans hwriter) item
          (hitems.mem_iff.mpr (mem_append_right _ hitem))
  · rintro ⟨hlayers, hapart, hnodup, hjoin⟩
    refine ⟨?_, ?_, ?_, ?_, hlayers, ?_, hcompacted, ?_, ?_, ?_, hcovered⟩
    · rw [hcommit, hsnapshot]
      exact h.basis
    · rw [hconsumer, hcommit, hsnapshot, hprofile, hplan]
      exact h.writerBasis
    · rw [hconsumer, hscope]
      exact h.writerScope
    · rw [hconsumer, hscope]
      exact h.plannerScope
    · rw [hids.nodup_iff, nodup_append]
      refine ⟨hkeptNodup, hnodup, ?_⟩
      rintro id hold _ hnew rfl
      rcases mem_ids.mp hnew with ⟨item, hitem, rfl⟩
      exact (hjoin item hitem).1 hold
    · intro id hid
      rw [hmem]
      rcases mem_append.mp (hids.mem_iff.mp hid) with hold | hnew
      · exact hapart id hold
      · rcases mem_ids.mp hnew with ⟨item, hitem, rfl⟩
        exact (hjoin item hitem).2.1
    · rw [hprotected]
      exact h.mandatory
    · intro hwriter item hitem
      rw [hscope] at hwriter
      rcases mem_append.mp (hitems.mem_iff.mp hitem) with hold | hnew
      · exact h.safe hwriter item (hkept.subset hold)
      · exact (hjoin item hnew).2.2 hwriter

theorem perm_last {α : Type} (before part after : List α) :
    (before ++ (part ++ after)).Perm (before ++ (after ++ part)) :=
  perm_append_comm.append_left before

theorem ContextDelta.layers (delta : ContextDelta) :
    ∀ item ∈ delta.addedMemoryItems, item.layer = .memory := by
  have hvalid := delta.valid
  simp only [validateDelta, refusal_eq_none] at hvalid
  intro item hitem
  by_contra hlayer
  exact hvalid.2.1 ⟨item, hitem, hlayer⟩

theorem ContextCompactionReceipt.covered (receipt : ContextCompactionReceipt) :
    rangeOrdered receipt.coveredEventRange = true ∧
      receipt.coveredEventRange.2 ≤ receipt.basisEventPosition := by
  have hvalid := receipt.valid
  simp only [validateReceipt, refusal_eq_none, not_or, not_not, not_lt] at hvalid
  exact hvalid.2.2.1

variable {view : AgentContextView}

theorem kept_apart {kept : List ContextViewItem} (h : view.Valid)
    (hkept : kept.Sublist view.items) : ∀ id ∈ ids kept, id ∉ view.compactedItemIds := by
  intro id hid
  exact h.apart id ((hkept.map _).subset hid)

theorem withDelta_valid_iff (h : view.Valid) (delta : ContextDelta) :
    (withDelta view delta).Valid ↔ Fits view (.deltaApplied delta) := by
  have hkept : (view.protectedItems ++ dropIds delta.supersededItemIds view.activeMemoryItems ++
      view.workingItems ++ view.recentSettledTail ++ view.compactedPrefixItems).Sublist
        view.items := by
    have hmemory : (dropIds delta.supersededItemIds view.activeMemoryItems).Sublist
        view.activeMemoryItems := filter_sublist
    exact ((((List.Sublist.refl _).append hmemory).append (List.Sublist.refl _)).append
      (List.Sublist.refl _)).append (List.Sublist.refl _)
  have hitems : (withDelta view delta).items.Perm
      ((view.protectedItems ++ dropIds delta.supersededItemIds view.activeMemoryItems ++
        view.workingItems ++ view.recentSettledTail ++ view.compactedPrefixItems) ++
          delta.addedMemoryItems) := by
    have hmove := perm_last (view.protectedItems ++
      dropIds delta.supersededItemIds view.activeMemoryItems) delta.addedMemoryItems
      (view.workingItems ++ view.recentSettledTail ++ view.compactedPrefixItems)
    simpa only [AgentContextView.items, withDelta, append_assoc] using hmove
  have hframe : SameFrame view (withDelta view delta) := ⟨rfl, rfl, rfl, rfl, rfl, rfl, rfl⟩
  rw [valid_join_iff view.compactedItemIds h hframe hitems hkept h.compactedUnique
    (fun _ => Iff.rfl) h.covered]
  constructor
  · rintro ⟨_, _, hjoin⟩
    exact hjoin
  · intro hjoin
    refine ⟨?_, kept_apart h hkept, hjoin⟩
    intro layer item hitem
    cases layer with
    | memory =>
      rcases mem_append.mp hitem with hold | hnew
      · exact h.layers .memory item (mem_dropIds.mp hold).1
      · exact delta.layers item hnew
    | «protected» => exact h.layers .protected item hitem
    | working => exact h.layers .working item hitem
    | recentSettled => exact h.layers .recentSettled item hitem
    | compactedPrefix => exact h.layers .compactedPrefix item hitem

theorem withWorkPlan_valid_iff (h : view.Valid) (ref : ArtifactRef)
    (workingItem : ContextViewItem) :
    (withWorkPlan view workingItem).Valid ↔ Fits view (.workPlanSettled ref workingItem) := by
  have hworking : (view.workingItems.filter fun item => item.kind ≠ .workPlan).Sublist
      view.workingItems := filter_sublist
  have hkept : (view.protectedItems ++ view.activeMemoryItems ++
      (view.workingItems.filter fun item => item.kind ≠ .workPlan) ++ view.recentSettledTail ++
        view.compactedPrefixItems).Sublist view.items :=
    (((List.Sublist.refl _).append hworking).append (List.Sublist.refl _)).append
      (List.Sublist.refl _)
  have hitems : (withWorkPlan view workingItem).items.Perm
      ((view.protectedItems ++ view.activeMemoryItems ++
        (view.workingItems.filter fun item => item.kind ≠ .workPlan) ++ view.recentSettledTail ++
          view.compactedPrefixItems) ++ [workingItem]) := by
    have hmove := perm_last (view.protectedItems ++ view.activeMemoryItems ++
      (view.workingItems.filter fun item => item.kind ≠ .workPlan)) [workingItem]
      (view.recentSettledTail ++ view.compactedPrefixItems)
    simpa only [AgentContextView.items, withWorkPlan, append_assoc] using hmove
  have hframe : SameFrame view (withWorkPlan view workingItem) := ⟨rfl, rfl, rfl, rfl, rfl, rfl, rfl⟩
  rw [valid_join_iff view.compactedItemIds h hframe hitems hkept h.compactedUnique
    (fun _ => Iff.rfl) h.covered]
  constructor
  · rintro ⟨hlayers, _, hjoin⟩
    exact ⟨hlayers .working workingItem (mem_append_right _ (mem_singleton_self _)),
      hjoin⟩
  · rintro ⟨hlayer, hjoin⟩
    refine ⟨?_, kept_apart h hkept, hjoin⟩
    intro layer item hitem
    cases layer with
    | working =>
      rcases mem_append.mp hitem with hold | hnew
      · exact h.layers .working item (hworking.subset hold)
      · rw [mem_singleton.mp hnew]
        exact hlayer
    | «protected» => exact h.layers .protected item hitem
    | memory => exact h.layers .memory item hitem
    | recentSettled => exact h.layers .recentSettled item hitem
    | compactedPrefix => exact h.layers .compactedPrefix item hitem

theorem withCompaction_valid_iff (h : view.Valid) (receipt : ContextCompactionReceipt)
    (hbasis : receipt.basisEventPosition = view.basisEventPosition) :
    (withCompaction view receipt.toContextCompactionFields).Valid ↔
      Fits view (.compacted receipt) := by
  have hdrop : ∀ items, (dropIds receipt.removedItemIds items).Sublist items :=
    fun _ => filter_sublist
  have hkept : (view.protectedItems ++ dropIds receipt.removedItemIds view.activeMemoryItems ++
      dropIds receipt.removedItemIds view.workingItems ++
        dropIds receipt.removedItemIds view.recentSettledTail).Sublist view.items :=
    ((((List.Sublist.refl _).append (hdrop _)).append (hdrop _)).append (hdrop _)).trans
      (sublist_append_left _ _)
  have hframe : SameFrame view (withCompaction view receipt.toContextCompactionFields) :=
    ⟨rfl, rfl, rfl, rfl, rfl, rfl, rfl⟩
  have hitems : (withCompaction view receipt.toContextCompactionFields).items.Perm
      ((view.protectedItems ++ dropIds receipt.removedItemIds view.activeMemoryItems ++
        dropIds receipt.removedItemIds view.workingItems ++
          dropIds receipt.removedItemIds view.recentSettledTail) ++ receipt.compactedItems) :=
    Perm.refl _
  rw [valid_join_iff (view.compactedItemIds ++ receipt.removedItemIds) h hframe
    hitems hkept (nodup_eraseDups _) (fun _ => mem_eraseDups) ?_]
  · constructor
    · rintro ⟨hlayers, hapart, hjoin⟩
      refine ⟨fun item hitem => hlayers .compactedPrefix item hitem, ?_, hjoin⟩
      intro item hitem hremoved
      refine hapart item.itemId (mem_ids.mpr ⟨item, ?_, rfl⟩) (mem_append_right _ hremoved)
      simp [hitem]
    · rintro ⟨hlayers, hprotected, hjoin⟩
      refine ⟨?_, ?_, hjoin⟩
      · intro layer item hitem
        cases layer with
        | compactedPrefix => exact hlayers item hitem
        | «protected» => exact h.layers .protected item hitem
        | memory => exact h.layers .memory item ((hdrop _).subset hitem)
        | working => exact h.layers .working item ((hdrop _).subset hitem)
        | recentSettled => exact h.layers .recentSettled item ((hdrop _).subset hitem)
      · intro id hid hcompacted
        rcases mem_append.mp hcompacted with hold | hremoved
        · exact kept_apart h hkept id hid hold
        · -- Only protected items could still carry a removed identity.
          rcases mem_ids.mp hid with ⟨item, hitem, rfl⟩
          simp only [mem_append, mem_dropIds] at hitem
          rcases hitem with ((hitem | hitem) | hitem) | hitem
          · exact hprotected item hitem hremoved
          · exact hitem.2 hremoved
          · exact hitem.2 hremoved
          · exact hitem.2 hremoved
  · intro range hrange
    rw [← Option.some.inj hrange]
    exact ⟨receipt.covered.1, hbasis ▸ receipt.covered.2⟩

section Views

variable {countTokens : String → Int}

/-- The check does not look at the token report, at the address or at a provider's word. -/
theorem refreshTokens_withHash_valid (view : AgentContextView) :
    (refreshTokens countTokens view.withHash).Valid ↔ view.Valid := by
  constructor
  · intro h
    exact ⟨h.basis, h.writerBasis, h.writerScope, h.plannerScope, h.layers, h.unique,
      h.compactedUnique, h.apart, h.mandatory, h.safe, h.covered⟩
  · intro h
    exact ⟨h.basis, h.writerBasis, h.writerScope, h.plannerScope, h.layers, h.unique,
      h.compactedUnique, h.apart, h.mandatory, h.safe, h.covered⟩

variable {payload : Payload}

/-- An accepted payload leaves a valid view exactly when it fits. -/
theorem applied_valid_iff (h : view.Valid) (haccepts : Accepts view payload) :
    (applied countTokens view payload).Valid ↔ Fits view payload := by
  cases payload with
  | deltaApplied delta =>
    rw [applied, refreshTokens_withHash_valid]
    exact withDelta_valid_iff h delta
  | workPlanSettled ref workingItem => exact withWorkPlan_valid_iff h ref workingItem
  | compacted receipt =>
    rw [applied, refreshTokens_withHash_valid]
    exact withCompaction_valid_iff h receipt haccepts.1.2.2.2.1
  | settledArtifact eventType ref parent => exact ⟨fun _ => trivial, fun _ => h⟩
  | memoryRequested ref fingerprint => exact ⟨fun _ => trivial, fun _ => h⟩
  | memoryResolved request resolution status => exact ⟨fun _ => trivial, fun _ => h⟩
  | pressureDetected pressure => exact ⟨fun _ => trivial, fun _ => h⟩
  | other eventType document => exact ⟨fun _ => trivial, fun _ => h⟩

/-- What a view covers is settled at its position. -/
def Settled (view : AgentContextView) : Prop :=
  ∀ range ∈ view.coveredEventRange,
    rangeOrdered range = true ∧ range.2 ≤ view.basisEventPosition

theorem applied_settled (h : view.Valid) (haccepts : Accepts view payload) :
    Settled (applied countTokens view payload) := by
  cases payload with
  | compacted receipt =>
    intro range hrange
    rw [← Option.some.inj hrange]
    have hbasis : receipt.basisEventPosition = view.basisEventPosition := haccepts.1.2.2.2.1
    exact ⟨receipt.covered.1, hbasis ▸ receipt.covered.2⟩
  | _ => exact h.covered

theorem atPosition_valid_iff {sequenceNo : Nat} (hsettled : Settled view)
    (hlater : view.basisEventPosition ≤ sequenceNo) :
    (atPosition countTokens view sequenceNo).Valid ↔ view.Valid := by
  rw [atPosition, refreshTokens_withHash_valid]
  constructor
  · intro h
    exact ⟨h.basis, h.writerBasis, h.writerScope, h.plannerScope, h.layers, h.unique,
      h.compactedUnique, h.apart, h.mandatory, h.safe, hsettled⟩
  · intro h
    refine ⟨h.basis, h.writerBasis, h.writerScope, h.plannerScope, h.layers, h.unique,
      h.compactedUnique, h.apart, h.mandatory, h.safe, ?_⟩
    intro range hrange
    exact ⟨(hsettled range hrange).1, (hsettled range hrange).2.trans hlater⟩

theorem applied_position (view : AgentContextView) (payload : Payload) :
    (applied countTokens view payload).basisEventPosition = view.basisEventPosition := by
  cases payload <;> rfl

/-- An event fits a view: it is of another task, or its payload fits. -/
def FitsEvent (view : AgentContextView) (event : RunEvent) : Prop :=
  ¬ Foreign view event.taskId → Fits view event.content.payload

/-- A projection step leaves a valid view valid exactly when its event fits. -/
theorem applyEvent_valid_iff {view view' : AgentContextView} (h : view.Valid) {event : RunEvent}
    (happly : applyEvent countTokens view event = .ok view') :
    view'.Valid ↔ FitsEvent view event := by
  rcases applyEvent_ok.mp happly with ⟨_, hnext, ⟨hforeign, rfl⟩ | ⟨hown, haccepts, rfl⟩⟩
  · rw [atPosition_valid_iff h.covered (by omega)]
    exact ⟨fun _ hown => absurd hforeign hown, fun _ => h⟩
  · rw [atPosition_valid_iff (applied_settled h haccepts)
      (by rw [applied_position]; omega), applied_valid_iff h haccepts]
    exact ⟨fun hfits _ => hfits, fun hfits => hfits hown⟩

/-- Every event that a stream accepts fits the view it is applied to. -/
def Fitting (countTokens : String → Int) : AgentContextView → List RunEvent → Prop
  | _, [] => True
  | view, event :: events =>
    ∀ next, applyEvent countTokens view event = .ok next →
      FitsEvent view event ∧ Fitting countTokens next events

/-- All views of a stream are valid exactly when its events fit. -/
theorem views_valid_iff {seed : AgentContextView} (hseed : seed.Valid) (events : List RunEvent) :
    (∀ before after view, events = before ++ after →
      fullReplay countTokens seed before = .ok view → view.Valid) ↔
    Fitting countTokens seed events := by
  induction events generalizing seed with
  | nil =>
    refine ⟨fun _ => trivial, ?_⟩
    intro _ before after view hsplit hview
    rw [(nil_eq_append_iff.mp hsplit).1] at hview
    rw [← Except.ok.inj hview]
    exact hseed
  | cons event events ih =>
    constructor
    · intro hviews next hnext
      have hvalid : next.Valid := hviews [event] events next rfl (by
        rw [fullReplay_cons, hnext]
        rfl)
      refine ⟨(applyEvent_valid_iff hseed hnext).mp hvalid, (ih hvalid).mp ?_⟩
      intro before after view hsplit hview
      exact hviews (event :: before) after view (by rw [hsplit]; rfl) (by
        rw [fullReplay_cons, hnext]
        exact hview)
    · intro hfitting before after view hsplit hview
      cases before with
      | nil =>
        rw [← Except.ok.inj hview]
        exact hseed
      | cons first before =>
        rw [cons_append, List.cons.injEq] at hsplit
        rw [← hsplit.1, fullReplay_cons, Outcome.bind_eq_ok] at hview
        rcases hview with ⟨next, hnext, hview⟩
        rcases hfitting next hnext with ⟨hfits, hrest⟩
        have hvalid := (applyEvent_valid_iff hseed hnext).mpr hfits
        exact (ih hvalid).mpr hrest before after view hsplit.2 hview

end Views

end NovelAgent.Context
