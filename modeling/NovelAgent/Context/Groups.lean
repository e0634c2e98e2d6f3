import Mathlib.Data.List.ReduceOption
import NovelAgent.Context.CompactionRecords
import NovelAgent.Core.Contiguous

/-!
# Removable Groups

What a compaction can take away of a view, and how large the rest is.
-/

namespace NovelAgent.Context

open Core Domain List

/-- Items that have to stay. -/
def Held (item : ContextViewItem) : Prop :=
  item.mandatory = true ∨ item.pendingEffect = true

/-- Items of one atomic group. -/
def Together (item other : ContextViewItem) : Prop :=
  ∃ group, item.atomicGroupId = some group ∧ other.atomicGroupId = some group

/-- A view without any removable group. -/
def stripped (view : AgentContextView) : AgentContextView :=
  without view (ids (removableGroups view).flatten)

section Keys

variable {item other : ContextViewItem}

theorem groupKey_eq_iff : groupKey item = groupKey other ↔ Together item other ∨
    item.atomicGroupId = none ∧ other.atomicGroupId = none ∧ item.itemId = other.itemId := by
  have hinj : ∀ {head x y : String}, head ++ x = head ++ y → x = y := by
    intro head x y h
    have hlists := congrArg String.toList h
    rw [String.toList_append, String.toList_append, append_cancel_left_eq] at hlists
    exact String.toList_inj.mp hlists
  have hapart : ∀ {x y : String}, "group:" ++ x ≠ "item:" ++ y := by
    intro x y h
    have hlists := congrArg String.toList h
    rw [String.toList_append, String.toList_append] at hlists
    exact absurd (List.cons.inj hlists).1 (by decide)
  unfold groupKey Together
  cases hitem : item.atomicGroupId with
  | none =>
    cases hother : other.atomicGroupId with
    | none =>
      simp only [reduceCtorEq, false_and, exists_false, true_and, false_or]
      constructor
      · intro h
        exact StableId.root_inj.mp (hinj h)
      · intro h
        rw [h]
    | some group =>
      simp only [reduceCtorEq, false_and, and_false, exists_false, or_false, iff_false]
      exact fun h => hapart h.symm
  | some group =>
    cases hother : other.atomicGroupId with
    | none =>
      simp only [reduceCtorEq, false_and, and_false, exists_false, or_false, iff_false]
      exact hapart
    | some group' =>
      simp only [reduceCtorEq, false_and, or_false, Option.some.injEq, exists_eq_left']
      constructor
      · intro h
        exact (StableId.root_inj.mp (hinj h)).symm
      · intro h
        rw [h]

theorem Together.key (h : Together item other) : groupKey item = groupKey other :=
  groupKey_eq_iff.mpr (Or.inl h)

theorem Together.symm (h : Together item other) : Together other item := by
  rcases h with ⟨group, hitem, hother⟩
  exact ⟨group, hother, hitem⟩

end Keys

section Groups

variable {view : AgentContextView} {group : List ContextViewItem} {item other : ContextViewItem}

theorem mem_removableGroups : group ∈ removableGroups view ↔
    (∃ item ∈ removableItems view,
      group = (removableItems view).filter fun other => groupKey other = groupKey item) ∧
      ∀ other ∈ group, ¬ Held other := by
  have hfree : (¬ (group.any fun item => item.mandatory || item.pendingEffect) = true) ↔
      ∀ other ∈ group, ¬ Held other := by
    simp [Held, not_or]
  unfold removableGroups
  dsimp only
  rw [mem_filter, decide_eq_true_eq, hfree, mem_map]
  simp only [mem_eraseDups, mem_map, exists_exists_and_eq_and]
  refine and_congr_left fun _ => ?_
  constructor
  · rintro ⟨item, hitem, rfl⟩
    exact ⟨item, hitem, rfl⟩
  · rintro ⟨item, hitem, rfl⟩
    exact ⟨item, hitem, rfl⟩

theorem mem_group_of_key (hgroup : group ∈ removableGroups view) (hitem : item ∈ group)
    (hother : other ∈ removableItems view) (hkey : groupKey other = groupKey item) :
    other ∈ group := by
  rcases (mem_removableGroups.mp hgroup).1 with ⟨first, _, rfl⟩
  rw [mem_filter, decide_eq_true_eq] at hitem ⊢
  exact ⟨hother, hkey.trans hitem.2⟩

theorem groups_nonempty (hgroup : group ∈ removableGroups view) : ∃ item, item ∈ group := by
  rcases (mem_removableGroups.mp hgroup).1 with ⟨first, hfirst, rfl⟩
  exact ⟨first, mem_filter.mpr ⟨hfirst, decide_eq_true rfl⟩⟩

/-- What can be taken away. -/
theorem mem_removable : item ∈ (removableGroups view).flatten ↔ item ∈ removableItems view ∧
    ∀ other ∈ removableItems view, groupKey other = groupKey item → ¬ Held other := by
  rw [mem_flatten]
  constructor
  · rintro ⟨group, hgroup, hitem⟩
    refine ⟨mem_removableItems_of_group (mem_flatten.mpr ⟨group, hgroup, hitem⟩), ?_⟩
    intro other hother hkey
    exact (mem_removableGroups.mp hgroup).2 other (mem_group_of_key hgroup hitem hother hkey)
  · rintro ⟨hitem, hfree⟩
    refine ⟨(removableItems view).filter fun other => groupKey other = groupKey item,
      mem_removableGroups.mpr ⟨⟨item, hitem, rfl⟩, ?_⟩,
      mem_filter.mpr ⟨hitem, decide_eq_true rfl⟩⟩
    intro other hother
    rw [mem_filter, decide_eq_true_eq] at hother
    exact hfree other hother.1 hother.2

variable {taken : List (List ContextViewItem)}

theorem mem_taken_of_key (htaken : ∀ group ∈ taken, group ∈ removableGroups view)
    (hitem : item ∈ taken.flatten) (hother : other ∈ removableItems view)
    (hkey : groupKey other = groupKey item) : other ∈ taken.flatten := by
  rcases mem_flatten.mp hitem with ⟨group, hgroup, hmem⟩
  exact mem_flatten.mpr
    ⟨group, hgroup, mem_group_of_key (htaken group hgroup) hmem hother hkey⟩

theorem taken_subset (htaken : ∀ group ∈ taken, group ∈ removableGroups view)
    (hitem : item ∈ taken.flatten) : item ∈ removableItems view := by
  rcases mem_flatten.mp hitem with ⟨group, hgroup, hmem⟩
  exact mem_removableItems_of_group (mem_flatten.mpr ⟨group, htaken group hgroup, hmem⟩)

/-- With unique identities, taking the identity of an item away is taking the item away. -/
theorem mem_ids_iff {all part : List ContextViewItem} (hunique : (ids all).Nodup)
    (hpart : ∀ other ∈ part, other ∈ all) (hitem : item ∈ all) :
    item.itemId ∈ ids part ↔ item ∈ part := by
  rw [mem_ids]
  constructor
  · rintro ⟨other, hother, hsame⟩
    rw [← inj_on_of_nodup_map hunique (hpart other hother) hitem hsame]
    exact hother
  · intro h
    exact ⟨item, h, rfl⟩

theorem mem_removableItems_without {part : List ContextViewItem}
    (hunique : (ids (removableItems view)).Nodup)
    (hpart : ∀ other ∈ part, other ∈ removableItems view) :
    item ∈ removableItems (without view (ids part)) ↔
      item ∈ removableItems view ∧ item ∉ part := by
  rw [removableItems_without, mem_dropIds]
  refine and_congr_right fun hitem => ?_
  rw [mem_ids_iff hunique hpart hitem]

/-- What can be taken away of a view that lost some groups. -/
theorem mem_rest (hunique : (ids (removableItems view)).Nodup)
    (htaken : ∀ group ∈ taken, group ∈ removableGroups view) :
    item ∈ (removableGroups (without view (ids taken.flatten))).flatten ↔
      item ∈ (removableGroups view).flatten ∧ item ∉ taken.flatten := by
  have hthere : ∀ {x}, x ∈ removableItems (without view (ids taken.flatten)) ↔
      x ∈ removableItems view ∧ x ∉ taken.flatten :=
    mem_removableItems_without hunique fun _ h => taken_subset htaken h
  rw [mem_removable, mem_removable, hthere]
  constructor
  · rintro ⟨⟨hitem, hnot⟩, hfree⟩
    refine ⟨⟨hitem, fun other hother hkey => ?_⟩, hnot⟩
    refine hfree other (hthere.mpr ⟨hother, fun htook => hnot ?_⟩) hkey
    exact mem_taken_of_key htaken htook hitem hkey.symm
  · rintro ⟨⟨hitem, hfree⟩, hnot⟩
    exact ⟨⟨hitem, hnot⟩, fun other hother hkey => hfree other (hthere.mp hother).1 hkey⟩

theorem without_congr {first second : List StableId} (h : ∀ id, id ∈ first ↔ id ∈ second) :
    without view first = without view second := by
  have hdrop : ∀ items, dropIds first items = dropIds second items := by
    intro items
    unfold dropIds
    exact filter_congr fun item _ => decide_eq_decide.mpr (not_congr (h item.itemId))
  unfold without
  simp only [hdrop]

/-- Taking the groups away in two steps. -/
theorem without_rest (hunique : (ids (removableItems view)).Nodup)
    (htaken : ∀ group ∈ taken, group ∈ removableGroups view) :
    without (without view (ids taken.flatten))
      (ids (removableGroups (without view (ids taken.flatten))).flatten) = stripped view := by
  rw [without_without]
  refine without_congr fun id => ?_
  rw [mem_append, mem_ids, mem_ids, mem_ids]
  constructor
  · rintro (⟨item, hitem, rfl⟩ | ⟨item, hitem, rfl⟩)
    · rcases mem_flatten.mp hitem with ⟨group, hgroup, hmem⟩
      exact ⟨item, mem_flatten.mpr ⟨group, htaken group hgroup, hmem⟩, rfl⟩
    · exact ⟨item, ((mem_rest hunique htaken).mp hitem).1, rfl⟩
  · rintro ⟨item, hitem, rfl⟩
    by_cases htook : item ∈ taken.flatten
    · exact Or.inl ⟨item, htook, rfl⟩
    · exact Or.inr ⟨item, (mem_rest hunique htaken).mpr ⟨hitem, htook⟩, rfl⟩

end Groups

/-- The atomic groups of the items below the protected ones, in their order. -/
def atomicGroups (view : AgentContextView) : List (Option StableId) :=
  (view.activeMemoryItems ++ view.workingItems ++ view.recentSettledTail ++
    view.compactedPrefixItems).map fun item => item.atomicGroupId

section Size

/-- The items of a view in the order in which they are shown. -/
def shown (view : AgentContextView) : List ContextViewItem :=
  view.protectedItems ++ view.activeMemoryItems ++ view.workingItems ++
    view.compactedPrefixItems ++ view.recentSettledTail

theorem renderContext_eq (view : AgentContextView) :
    renderContext view = "\n\n".intercalate ((shown view).map renderItem) := rfl

theorem shown_without (view : AgentContextView) (removed : List StableId) :
    (shown (without view removed)).Sublist (shown view) := by
  have hdrop : ∀ items, (dropIds removed items).Sublist items := fun _ => filter_sublist
  exact ((((List.Sublist.refl _).append (hdrop _)).append (hdrop _)).append
    (List.Sublist.refl _)).append (hdrop _)

/-- A token counter never counts more for a part of what is shown. -/
def CountsParts (countTokens : String → Int) : Prop :=
  ∀ part all : List ContextViewItem, part.Sublist all →
    countTokens ("\n\n".intercalate (part.map renderItem)) ≤
      countTokens ("\n\n".intercalate (all.map renderItem))

/-- A token counter that counts characters. -/
def characters (text : String) : Int := text.length

theorem length_intercalate (separator : List Char) (texts : List (List Char)) :
    (separator.intercalate texts).length =
      (texts.map List.length).sum + separator.length * (texts.length - 1) := by
  induction texts with
  | nil => rfl
  | cons text rest ih =>
    cases rest with
    | nil => simp [List.intercalate]
    | cons next rest =>
      rw [intercalate_cons_cons, length_append, length_append, ih]
      simp only [map_cons, sum_cons, length_cons, Nat.add_sub_cancel]
      rw [Nat.mul_succ]
      omega

theorem characters_intercalate (texts : List String) :
    characters ("\n\n".intercalate texts) =
      ((texts.map String.length).sum + 2 * (texts.length - 1) : Nat) := by
  have hlengths : (texts.map String.toList).map List.length = texts.map String.length := by
    rw [map_map]
    exact map_congr_left fun text _ => String.length_toList
  unfold characters
  rw [← String.length_toList, String.toList_intercalate, length_intercalate, hlengths,
    length_map]
  rfl

theorem sum_length_sublist {part all : List String} (h : part.Sublist all)
    (hne : ∀ text ∈ all, 1 ≤ text.length) :
    (part.map String.length).sum + (all.length - part.length) ≤ (all.map String.length).sum := by
  induction h with
  | slnil => simp
  | cons text h ih =>
    have hlater := ih fun other hmem => hne other (mem_cons_of_mem _ hmem)
    have htext := hne text mem_cons_self
    have hlength := h.length_le
    rw [map_cons, sum_cons, length_cons]
    omega
  | cons_cons text h ih =>
    have hlater := ih fun other hmem => hne other (mem_cons_of_mem _ hmem)
    rw [map_cons, sum_cons, map_cons, sum_cons, length_cons,
      length_cons]
    omega

theorem renderItem_length (item : ContextViewItem) : 1 ≤ (renderItem item).length := by
  unfold renderItem
  rw [← String.length_toList]
  simp only [String.toList_append, length_append]
  have hstart : "<CONTEXT_ITEM id=\"".toList.length = 18 := by decide
  omega

theorem characters_sublist {part all : List ContextViewItem} (h : part.Sublist all) :
    characters ("\n\n".intercalate (part.map renderItem)) + (all.length - part.length : Nat) ≤
      characters ("\n\n".intercalate (all.map renderItem)) := by
  have hsum := sum_length_sublist (h.map renderItem) fun text htext => by
    rcases mem_map.mp htext with ⟨item, _, rfl⟩
    exact renderItem_length item
  have hlength := h.length_le
  rw [characters_intercalate, characters_intercalate]
  rw [length_map, length_map] at *
  omega

theorem characters_countsParts : CountsParts characters := by
  intro part all h
  have hle := characters_sublist h
  omega

/-- A part of a view is shown with fewer characters. -/
theorem characters_lt {view : AgentContextView} {item : ContextViewItem} {removed : List StableId}
    (hitem : item ∈ removableItems view) (hremoved : item.itemId ∈ removed) :
    characters (renderContext (without view removed)) < characters (renderContext view) := by
  have hsublist := shown_without view removed
  have hle := characters_sublist hsublist
  have hdrop : ∀ items, (dropIds removed items).length ≤ items.length :=
    fun _ => length_filter_le _ _
  have hless : ∀ items, item ∈ items → (dropIds removed items).length < items.length := by
    intro items hmem
    unfold dropIds
    rw [length_filter_lt_length_iff_exists]
    exact ⟨item, hmem, by simpa using hremoved⟩
  have hlength : (shown (without view removed)).length < (shown view).length := by
    have hmemory := hdrop view.activeMemoryItems
    have hworking := hdrop view.workingItems
    have hrecent := hdrop view.recentSettledTail
    unfold shown without
    simp only [length_append]
    unfold removableItems at hitem
    rw [mem_append, mem_append] at hitem
    rcases hitem with (hin | hin) | hin
    · have hlayer := hless view.recentSettledTail hin
      omega
    · have hlayer := hless view.workingItems hin
      omega
    · have hlayer := hless view.activeMemoryItems hin
      omega
  rw [renderContext_eq, renderContext_eq]
  omega

end Size

end NovelAgent.Context
