import Mathlib.Data.List.Find
import NovelAgent.Core.Linked
import NovelAgent.Evidence.MandatoryFirst

/-!
# Sharing of Ledger Entries

Whose text a shared entry of the ledger shows.
-/

namespace NovelAgent.Evidence

open Core Domain List

def usedSlices (basis : AssemblyBasis) (selections : List NeedEvidenceSelection) :
    List EvidenceSlice :=
  (selections.flatMap (chosenOf basis)).map Chosen.slice

/-- The slices that the entries carry. -/
def carried (basis : AssemblyBasis) (selections : List NeedEvidenceSelection) :
    List EvidenceSlice :=
  firstPer EvidenceSlice.spanKey (usedSlices basis selections)

def entryIdIn (carried : List EvidenceSlice) (slice : EvidenceSlice) : Option StableId :=
  (carried.find? fun first => first.spanKey = slice.spanKey).map ledgerIdOf

/-- The slice that stands for a slice: the one whose entry is found under the identity. -/
def bearerOf (carried : List EvidenceSlice) (slice : EvidenceSlice) : Option EvidenceSlice :=
  (entryIdIn carried slice).bind fun entryId =>
    carried.find? fun other => ledgerIdOf other = entryId

/-- A slice of the same block, chapter and scope was selected for the need. -/
def SelectedThere (selection : NeedEvidenceSelection) (slice : EvidenceSlice) : Prop :=
  ∃ own ∈ selection.selections.filterMap (sliceOf selection),
    own.parentBlockId = slice.parentBlockId ∧ own.chapterId = slice.chapterId ∧
      own.accessScope = slice.accessScope

instance (selection : NeedEvidenceSelection) (slice : EvidenceSlice) :
    Decidable (SelectedThere selection slice) :=
  inferInstanceAs (Decidable (∃ own ∈ _, _ ∧ _))

/-- Whatever the budgets, every entry that an item refers to has the origin of a slice that
    was selected for the item's need. -/
def OriginsKept (basis : AssemblyBasis) (selections : List NeedEvidenceSelection) : Prop :=
  ∀ (count : String → Int) (writerBudget ledgerBudget : Int), 0 < writerBudget →
    0 < ledgerBudget →
    let planned := planAll basis [] selections
    let assembler : Assembler := ⟨count, writerBudget, ledgerBudget, planned.1⟩
    ∀ item ∈ assembler.evidenceItems planned.2, ∀ ledgerId ∈ item.evidenceLedgerIds,
      ∀ entry, assembler.entryOf ledgerId = some entry → ∃ selection ∈ selections,
        selection.need.needId = item.needId ∧ SelectedThere selection entry.slice

/-- The ledger carries the first slice of each span that was entered. -/
structure Carries (ledger : List LedgerEntry) (entered : List EvidenceSlice) : Prop where
  slices : ledger.map LedgerEntry.slice = firstPer EvidenceSlice.spanKey entered
  ids : ∀ entry ∈ ledger, entry.ledgerId = ledgerIdOf entry.slice

variable {needId : StableId}

section Ledgers

variable {basis : AssemblyBasis} {ledger : List LedgerEntry} {entered carried : List EvidenceSlice}

theorem find_entry (h : Carries ledger entered) (key : ArtifactId × Nat × Nat) :
    (ledger.find? fun entry => entry.slice.spanKey = key).map LedgerEntry.slice =
      (firstPer EvidenceSlice.spanKey entered).find? fun first => first.spanKey = key := by
  rw [← h.slices, List.find?_map]
  rfl

theorem addLedgerEntry_carries (h : Carries ledger entered) (needId : StableId) (chosen : Chosen) :
    Carries (addLedgerEntry ledger needId chosen).1 (entered ++ [chosen.slice]) ∧
      entryIdIn (firstPer EvidenceSlice.spanKey (entered ++ [chosen.slice])) chosen.slice =
        some (addLedgerEntry ledger needId chosen).2 := by
  have hfirst := find_entry h chosen.slice.spanKey
  rw [firstPer_concat, entryIdIn, addLedgerEntry]
  cases hfind : ledger.find? fun entry => entry.slice.spanKey = chosen.slice.spanKey with
  | none =>
    rw [hfind] at hfirst
    have hnew : chosen.slice.spanKey ∉ entered.map EvidenceSlice.spanKey := by
      rw [← keys_firstPer]
      intro hmem
      rcases mem_map.mp hmem with ⟨first, hmem, hkey⟩
      exact absurd (decide_eq_true hkey) (List.find?_eq_none.mp hfirst.symm first hmem)
    rw [if_neg hnew]
    refine ⟨⟨?_, ?_⟩, ?_⟩
    · rw [map_append, h.slices, firstPer_concat, if_neg hnew]
      rfl
    · exact forall_mem_append.mpr ⟨h.ids, forall_mem_singleton.mpr rfl⟩
    · rw [List.find?_append, ← hfirst]
      simp
  | some existing =>
    rw [hfind] at hfirst
    have hold : chosen.slice.spanKey ∈ entered.map EvidenceSlice.spanKey := by
      rw [← keys_firstPer]
      have hkey := List.find?_some hfirst.symm
      exact of_decide_eq_true hkey ▸ mem_map_of_mem (mem_of_find?_eq_some hfirst.symm)
    rw [if_pos hold]
    refine ⟨⟨?_, ?_⟩, ?_⟩
    · rw [firstPer_concat, if_pos hold, ← h.slices, map_map]
      refine map_congr_left fun entry _ => ?_
      rw [Function.comp_apply]
      split_ifs
      · rfl
      · rfl
    · intro entry hentry
      rcases mem_map.mp hentry with ⟨other, hother, rfl⟩
      split_ifs
      · exact h.ids other hother
      · exact h.ids other hother
    · rw [← hfirst]
      exact congrArg some (h.ids existing (mem_of_find?_eq_some hfind)).symm

theorem entryIdIn_of_isPrefix {slice : EvidenceSlice} {entryId : StableId}
    {first : List EvidenceSlice} (hcarried : first <+: carried)
    (h : entryIdIn first slice = some entryId) : entryIdIn carried slice = some entryId := by
  rcases Option.map_eq_some_iff.mp h with ⟨owner, hfind, rfl⟩
  rw [entryIdIn, hcarried.find?_eq_some hfind]
  rfl

theorem enter_carries {chosen : List Chosen} :
    ∀ {ledger entered}, Carries ledger entered →
      Carries (enter needId ledger chosen).1 (entered ++ chosen.map Chosen.slice) ∧
        ∀ carried, firstPer EvidenceSlice.spanKey (entered ++ chosen.map Chosen.slice) <+: carried →
          (enter needId ledger chosen).2.map (fun plan => some plan.entryId) =
            chosen.map fun chosen => entryIdIn carried chosen.slice := by
  induction chosen with
  | nil =>
    intro ledger entered h
    rw [map_nil, append_nil]
    exact ⟨h, fun _ _ => rfl⟩
  | cons first rest ih =>
    intro ledger entered h
    have hfirst := addLedgerEntry_carries h needId first
    have hrest := ih hfirst.1
    rw [append_assoc] at hrest
    refine ⟨hrest.1, fun carried hcarried => congrArg₂ List.cons ?_ (hrest.2 carried hcarried)⟩
    refine (entryIdIn_of_isPrefix (List.IsPrefix.trans ?_ hcarried) hfirst.2).symm
    rw [map_cons, append_cons entered first.slice (rest.map Chosen.slice)]
    exact @prefix_firstPer_append _ _ _ EvidenceSlice.spanKey _ _

/-- What the ledger carries, and which entries the plans name. -/
theorem planAll_carries {selections : List NeedEvidenceSelection} :
    ∀ {ledger entered}, Carries ledger entered →
      Carries (planAll basis ledger selections).1 (entered ++ usedSlices basis selections) ∧
        ∀ carried,
          firstPer EvidenceSlice.spanKey (entered ++ usedSlices basis selections) <+: carried →
          List.Forall₂ (fun lane selection => lane.need = selection.need ∧
            lane.plans.map (fun plan => some plan.entryId) =
              (chosenOf basis selection).map fun chosen => entryIdIn carried chosen.slice)
            (planAll basis ledger selections).2 selections := by
  induction selections with
  | nil =>
    intro ledger entered h
    rw [usedSlices, flatMap_nil, map_nil, append_nil]
    exact ⟨h, fun _ _ => .nil⟩
  | cons selection selections ih =>
    intro ledger entered h
    have hfirst := @enter_carries selection.need.needId (chosenOf basis selection) _ _ h
    have hrest := ih hfirst.1
    rw [append_assoc] at hrest
    rw [usedSlices, flatMap_cons, map_append]
    refine ⟨hrest.1, fun carried hcarried => .cons ⟨rfl, hfirst.2 carried ?_⟩
      (hrest.2 carried hcarried)⟩
    rw [← append_assoc] at hcarried
    exact (prefix_firstPer_append _ _).trans hcarried

end Ledgers

namespace Assembler

variable {assembler : Assembler} {lane : NeedPlans} {lanes : List NeedPlans} {entryId : StableId}

theorem plan_of_packed (hnodup : (lanes.map fun lane => lane.need.needId).Nodup)
    (hlane : lane ∈ lanes) (h : entryId ∈ (assembler.pack lanes).entries lane.need.needId) :
    ∃ plan ∈ lane.plans, plan.entryId = entryId := by
  rcases @cut_exists assembler (offered lanes) with ⟨before, packing, hcut⟩
  rw [(pack_eq hnodup).trans (outcome_of_cut hcut), Packing.entries, cut_packed hcut] at h
  rcases mem_map.mp h with ⟨entry, hentry, rfl⟩
  rcases mem_map.mp (mem_of_mem_filter hentry) with ⟨slice, hslice, rfl⟩
  rcases hcut.split with ⟨after, heq, -⟩
  have hoffered := mem_offered (heq ▸ mem_append_left after hslice)
  have hneed := (mem_filter.mp hentry).2
  rw [← eq_of_needId hnodup hoffered.1 hlane (of_decide_eq_true hneed)]
  exact ⟨slice.2, hoffered.2, rfl⟩

theorem mem_leftOver {packed : List StableId} {plans : List Plan} {plan : Plan}
    (h : plan ∈ plans) :
    plan.entryId ∈ packed ∨ plan.entryId ∈ (leftOver packed plans).map Plan.entryId := by
  induction plans generalizing packed with
  | nil => exact absurd h not_mem_nil
  | cons first rest ih =>
    rw [leftOver]
    rcases mem_cons.mp h with rfl | hrest
    · split_ifs with hpacked
      · exact .inl hpacked
      · exact .inr (mem_map_of_mem mem_cons_self)
    · split_ifs
      · exact ih hrest
      · rcases @ih (packed ++ [first.entryId]) hrest with hbefore | hlater
        · rcases mem_append.mp hbefore with hbefore | hfirst
          · exact .inl hbefore
          · exact .inr (mem_cons.mpr (.inl (mem_singleton.mp hfirst)))
        · exact .inr (mem_cons_of_mem _ hlater)

theorem placeAll_of_room (hcount : assembler.count = fun _ => 0) (hwriter : 0 < assembler.writerBudget)
    (hledger : 0 < assembler.ledgerBudget) (slices : List (NeedPlans × Plan)) :
    ∀ {packing : Packing}, packing.usedWriterTokens = 0 → packing.usedLedgerTokens = 0 →
      ∃ next, assembler.placeAll packing slices = .ok next := by
  induction slices with
  | nil => exact fun _ _ => ⟨_, rfl⟩
  | cons first slices ih =>
    intro packing hw hl
    have hwriterCost : assembler.writerCost packing first.1.need first.2.entryId = 0 := by
      simp [writerCost, itemTokens, hcount]
    have hledgerCost : assembler.newLedgerTokens packing first.2.entryId = 0 := by
      simp [newLedgerTokens, hcount]
    have hfits : assembler.Fits packing first.1.need first.2.entryId := by
      rw [Fits, hwriterCost, hledgerCost, hw, hl]
      omega
    rcases @ih (assembler.added packing first.1.need first.2) (by simp [added, hw, hwriterCost])
      (by simp [added, hl, hledgerCost]) with ⟨next, hnext⟩
    refine ⟨next, ?_⟩
    rw [placeAll, foldlM_cons, place, if_pos hfits]
    exact hnext

/-- With room for everything, everything is packed. -/
theorem packed_of_room (hcount : assembler.count = fun _ => 0) (hwriter : 0 < assembler.writerBudget)
    (hledger : 0 < assembler.ledgerBudget)
    (hnodup : (lanes.map fun lane => lane.need.needId).Nodup) (hlane : lane ∈ lanes) {plan : Plan}
    (hplan : plan ∈ lane.plans) :
    plan.entryId ∈ (assembler.pack lanes).entries lane.need.needId := by
  rcases @placeAll_of_room _ hcount hwriter hledger (offered lanes) nothing rfl rfl with
    ⟨next, hnext⟩
  rw [pack_eq hnodup, hnext]
  change _ ∈ next.entries _
  rw [placeAll_entries hnext, offered, entriesIn, filter_append, map_append]
  refine mem_append_right _ (mem_append.mpr ?_)
  rcases @mem_leftOver (entriesIn (schedule lanes) lane) _ _ hplan with hfirst | hsecond
  · exact .inl hfirst
  · rcases mem_map.mp hsecond with ⟨left, hleft, heq⟩
    refine .inr (mem_map.mpr ⟨(lane, left), mem_filter.mpr ⟨?_, decide_eq_true rfl⟩, heq⟩)
    exact mem_flatMap.mpr ⟨lane, mem_needOrder.mpr hlane, mem_map_of_mem hleft⟩

theorem mem_evidenceItems :
    (∃ item ∈ assembler.evidenceItems lanes, item.needId = needId ∧
      entryId ∈ item.evidenceLedgerIds) ↔
      ∃ lane ∈ lanes, lane.need.needId = needId ∧
        entryId ∈ (assembler.pack lanes).entries needId := by
  constructor
  · rintro ⟨item, hitem, rfl, hid⟩
    rcases mem_filterMap.mp hitem with ⟨lane, hlane, heq⟩
    dsimp only at heq
    split_ifs at heq
    obtain rfl := Option.some.inj heq
    exact ⟨lane, hlane, rfl, mem_eraseDups.mp hid⟩
  · rintro ⟨lane, hlane, rfl, hid⟩
    refine ⟨_, mem_filterMap.mpr ⟨lane, hlane, if_neg (ne_nil_of_mem hid)⟩, rfl, ?_⟩
    exact mem_eraseDups.mpr hid

end Assembler

/-- The origins are kept when the slice that stands for a used slice has the origin of a
    slice that was selected for the same need. -/
theorem originsKept_iff (basis : AssemblyBasis) (selections : List NeedEvidenceSelection)
    (hnodup : (selections.map fun selection => selection.need.needId).Nodup) :
    OriginsKept basis selections ↔
      ∀ selection ∈ selections, ∀ chosen ∈ chosenOf basis selection,
        ∀ bearer, bearerOf (carried basis selections) chosen.slice = some bearer →
          SelectedThere selection bearer := by
  have hplanned := @planAll_carries basis selections [] [] ⟨rfl, nofun⟩
  have hlanes := hplanned.2 (carried basis selections) prefix_rfl
  have hneeds : (planAll basis [] selections).2.map (fun lane => lane.need.needId) =
      selections.map fun selection => selection.need.needId := by
    have := congrArg (List.map fun need : PublicNeed => need.needId)
      (@planAll_needs basis selections [])
    rwa [map_map, map_map] at this
  have hentry : ∀ entryId, ((planAll basis [] selections).1.find? fun entry =>
      entry.ledgerId = entryId).map LedgerEntry.slice =
        (carried basis selections).find? fun other => ledgerIdOf other = entryId := by
    intro entryId
    have hslices : (planAll basis [] selections).1.map LedgerEntry.slice =
      carried basis selections := hplanned.1.slices
    rw [← hslices, List.find?_map]
    refine congrArg _ (List.find?_congr fun entry hentry => ?_)
    rw [hplanned.1.ids entry hentry]
    rfl
  constructor
  · intro hkept selection hselection chosen hchosen bearer hbearer
    -- The run with room for everything packs the entry of every used slice.
    rcases Linked.exists_left hlanes hselection with ⟨lane, hlane, hneed, hplans⟩
    rcases Option.bind_eq_some_iff.mp hbearer with ⟨entryId, hentryId, hfound⟩
    have hnamed : some entryId ∈ lane.plans.map fun plan => some plan.entryId := by
      rw [hplans, ← hentryId]
      exact mem_map_of_mem hchosen
    rcases mem_map.mp hnamed with ⟨plan, hplan, heq⟩
    obtain rfl := Option.some.inj heq
    rw [← hentry] at hfound
    rcases Option.map_eq_some_iff.mp hfound with ⟨entry, hentryOf, rfl⟩
    have hpacked := @Assembler.packed_of_room ⟨fun _ => 0, 1, 1, (planAll basis [] selections).1⟩
      _ _ rfl Int.one_pos Int.one_pos (hneeds ▸ hnodup) hlane _ hplan
    rcases Assembler.mem_evidenceItems.mpr ⟨lane, hlane, rfl, hpacked⟩ with ⟨item, hitem, hid, hmem⟩
    rcases hkept (fun _ => 0) 1 1 Int.one_pos Int.one_pos item hitem _ hmem entry hentryOf with
      ⟨other, hother, hsame, hthere⟩
    rw [hid, hneed] at hsame
    rwa [← inj_on_of_nodup_map hnodup hother hselection hsame]
  · intro hall count writerBudget ledgerBudget _ _ planned assembler item hitem ledgerId hid entry
      hfound
    rcases Assembler.mem_evidenceItems.mp ⟨item, hitem, rfl, hid⟩ with ⟨lane, hlane, hneedId, hpacked⟩
    rw [← hneedId] at hpacked
    rcases Assembler.plan_of_packed (hneeds ▸ hnodup) hlane hpacked with ⟨plan, hplan, rfl⟩
    rcases Linked.exists_right hlanes hlane with ⟨selection, hselection, hneed, hplans⟩
    refine ⟨selection, hselection, by rw [← hneed, hneedId], ?_⟩
    have hmem : some plan.entryId ∈ (chosenOf basis selection).map fun chosen =>
        entryIdIn (carried basis selections) chosen.slice := by
      rw [← hplans]
      exact mem_map_of_mem hplan
    rcases mem_map.mp hmem with ⟨chosen, hchosen, hentryId⟩
    refine hall selection hselection chosen hchosen entry.slice ?_
    rw [bearerOf, hentryId, Option.bind_some, ← hentry]
    exact congrArg (Option.map LedgerEntry.slice) hfound

namespace LedgerSample

open GatewaySample

/-- The optional need's word of the second chapter is shown as one of the first. -/
theorem repeated_line_rebound : ¬ ∀ (basis : AssemblyBasis)
    (selections : List NeedEvidenceSelection),
    (selections.map fun selection => selection.need.needId).Nodup →
    OriginsKept basis selections := by
  intro hall
  let assembler : Assembler := ⟨fun _ => 0, 1, 1, (planAll basis [] selections).1⟩
  have hlane : ∃ lane ∈ (planAll basis [] selections).2, lane.need.needId = sameQuestion.needId ∧
      ledgerIdOf article.slice ∈
        (assembler.pack (planAll basis [] selections).2).entries sameQuestion.needId := by
    decide +kernel
  have hshown : (assembler.entryOf (ledgerIdOf article.slice)).map LedgerEntry.slice =
      some article.slice := by
    decide +kernel
  rcases Assembler.mem_evidenceItems.mpr hlane with ⟨item, hitem, hid, hmem⟩
  rcases Option.map_eq_some_iff.mp hshown with ⟨entry, hentry, hslice⟩
  have hthere := hall basis selections (by decide) (fun _ => 0) 1 1 Int.one_pos Int.one_pos item
    hitem _ hmem entry hentry
  rw [hid, hslice] at hthere
  exact absurd hthere (by decide +kernel)

/-- The two needs do not keep their origins: what stands for the second need's slice was
    selected for the first one only. -/
theorem originsKept_iff_sample : (OriginsKept basis selections ↔
    ∀ selection ∈ selections, ∀ chosen ∈ chosenOf basis selection,
      ∀ bearer, bearerOf (carried basis selections) chosen.slice = some bearer →
        SelectedThere selection bearer) ∧
    ∃ selection ∈ selections, ∃ chosen ∈ chosenOf basis selection,
      bearerOf (carried basis selections) chosen.slice = some article.slice ∧
        ¬ SelectedThere selection article.slice :=
  ⟨originsKept_iff basis selections (by decide), by decide +kernel⟩

end LedgerSample

end NovelAgent.Evidence
