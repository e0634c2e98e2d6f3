import Mathlib.Algebra.Order.BigOperators.Group.List
import Mathlib.Data.String.Basic
import NovelAgent.Core.Dict
import NovelAgent.Core.Outcome
import NovelAgent.Core.StableSort
import NovelAgent.Pipeline.Selection

/-!
# Fusion

How the answers of several channels become one list of candidates: the hits of a unit are
put together, a unit scores the sum of the reciprocals of its shifted ranks, and the
units are ranked by that score before some of them are selected.
-/

namespace NovelAgent.Pipeline

open Core Domain List

open Evidence (channelValue)

open Retrieval (RetrievalChannel)

theorem channelValue_injective {a b : RetrievalChannel} (h : channelValue a = channelValue b) :
    a = b := by
  cases a <;> cases b <;> first | rfl | exact absurd h (by decide)

/-- What channels answered, in the order in which they are supplied. -/
abbrev ChannelResults := Dict RetrievalChannel (List ChannelHit)

def allHits (results : ChannelResults) : List ChannelHit := results.entries.flatMap Prod.snd

/-- The owner of the ranking over all channels. -/
structure FusionService where
  rrfK : Nat
  selector : CandidateQuotaPolicy
  rrfK_pos : 0 < rrfK

/-- The checks of the hits of a channel, from a rank on. -/
def checkHits (channel : RetrievalChannel) (count : Nat) : Nat → List ChannelHit →
    Except String Unit
  | _, [] => .ok ()
  | expectedRank, hit :: rest =>
    if hit.channel ≠ channel ∨ hit.channelRank ≠ expectedRank then
      .error "channel results must preserve an independent contiguous rank"
    else if hit.candidateCount < count then
      .error "channel candidate_count cannot be smaller than returned hits"
    else checkHits channel count (expectedRank + 1) rest

def checkResults : List (RetrievalChannel × List ChannelHit) → Except String Unit
  | [] => .ok ()
  | entry :: rest => do
      checkHits entry.1 entry.2.length 1 entry.2
      checkResults rest

/-- A unit with its score and its hits. -/
structure Scored where
  score : ℚ
  unit : RetrievalUnit
  hits : List ChannelHit

/-- The hits of one unit, as they came in. -/
def group (hits : List ChannelHit) (identity : StableId) : List ChannelHit :=
  hits.filter fun hit => hit.unit.unitId = identity

/-- The channel of a hit is named before that of another one. -/
def ChannelBefore (a b : ChannelHit) : Prop := channelValue a.channel ≤ channelValue b.channel

instance : DecidableRel ChannelBefore := fun a b =>
  inferInstanceAs (Decidable (channelValue a.channel ≤ channelValue b.channel))

/-- A unit scores more than another one, or the same and is named before it. -/
def ScoredBefore (a b : Scored) : Prop :=
  b.score < a.score ∨ a.score = b.score ∧ a.unit.unitId.root ≤ b.unit.unitId.root

instance : DecidableRel ScoredBefore := fun a b =>
  inferInstanceAs (Decidable (b.score < a.score ∨
    a.score = b.score ∧ a.unit.unitId.root ≤ b.unit.unitId.root))

/-- The reciprocals of the shifted ranks, added up. -/
def FusionService.rrfScore (service : FusionService) (hits : List ChannelHit) : ℚ :=
  (hits.map fun hit => 1 / ((service.rrfK + hit.channelRank : Nat) : ℚ)).sum

/-- One unit with its score. -/
def FusionService.scoredOf (service : FusionService) (hits : List ChannelHit)
    (identity : StableId) : Option Scored :=
  (group hits identity).getLast?.map fun last =>
    { score := service.rrfScore (group hits identity)
      unit := last.unit
      hits := (group hits identity).insertionSort ChannelBefore }

/-- The identities of units that were hit. -/
def hitIds (hits : List ChannelHit) : List StableId :=
  (hits.map fun hit => hit.unit.unitId).eraseDups

/-- All units in the order of their scores. -/
def FusionService.scored (service : FusionService) (hits : List ChannelHit) : List Scored :=
  ((hitIds hits).filterMap (service.scoredOf hits)).insertionSort ScoredBefore

def candidateOf (limit : Int) (item : Scored) (rank : Nat) : FusedCandidate where
  unit := item.unit
  fusedRank := rank
  rrfScore := item.score
  channelHits := item.hits
  selected := rank ≤ limit ∨ item.unit.mandatory
  rejectionReason := if rank ≤ limit ∨ item.unit.mandatory then none else some "fusion_limit"

/-- The candidates that fusion ranks, before some of them are selected. -/
def FusionService.candidates (service : FusionService) (results : ChannelResults) (limit : Int) :
    List FusedCandidate :=
  ((service.scored (allHits results)).zipIdx 1).map fun pair => candidateOf limit pair.1 pair.2

/-- `FusionService.fuse` -/
def FusionService.fuse (service : FusionService) (results : ChannelResults) (limit : Int)
    (seedEntityIds : List StableId) : Except String (List FusedCandidate) :=
  if limit < 1 then .error "fusion limit must be positive"
  else do
    checkResults results.entries
    select service.selector limit seedEntityIds (service.candidates results limit)

section Scores

/-- Equal identities are identities of equal units. -/
def SameUnits (hits : List ChannelHit) : Prop :=
  ∀ a ∈ hits, ∀ b ∈ hits, a.unit.unitId = b.unit.unitId → a.unit = b.unit

/-- The hits of one channel come with growing ranks. -/
def Growing (hits : List ChannelHit) : Prop :=
  hits.Pairwise fun a b => a.channel = b.channel → a.channelRank < b.channelRank

variable {service : FusionService} {hits others : List ChannelHit} {identity : StableId}

variable {hit : ChannelHit}

theorem mem_group : hit ∈ group hits identity ↔ hit ∈ hits ∧ hit.unit.unitId = identity := by
  unfold group
  rw [mem_filter, decide_eq_true_eq]

theorem mem_hitIds : identity ∈ hitIds hits ↔ ∃ hit ∈ hits, hit.unit.unitId = identity := by
  unfold hitIds
  rw [mem_eraseDups, mem_map]

theorem scoredOf_unit {item : Scored} (h : service.scoredOf hits identity = some item) :
    ∃ hit ∈ hits, hit.unit.unitId = identity ∧ item.unit = hit.unit := by
  rcases Option.map_eq_some_iff.mp h with ⟨last, hlast, rfl⟩
  have hmem := mem_group.mp (mem_of_getLast? hlast)
  exact ⟨last, hmem.1, hmem.2, rfl⟩

theorem scoredOf_hit (hunits : SameUnits hits) (hmem : hit ∈ hits) :
    service.scoredOf hits hit.unit.unitId = some
      { score := service.rrfScore (group hits hit.unit.unitId)
        unit := hit.unit
        hits := (group hits hit.unit.unitId).insertionSort ChannelBefore } := by
  have hgroup : hit ∈ group hits hit.unit.unitId := mem_group.mpr ⟨hmem, rfl⟩
  unfold FusionService.scoredOf
  cases hlast : (group hits hit.unit.unitId).getLast? with
  | none =>
    rw [List.getLast?_eq_none_iff] at hlast
    rw [hlast] at hgroup
    cases hgroup
  | some last =>
    have hlastMem := mem_group.mp (mem_of_getLast? hlast)
    rw [Option.map_some, hunits last hlastMem.1 hit hmem hlastMem.2]

theorem rrfScore_perm (hperm : hits.Perm others) :
    service.rrfScore hits = service.rrfScore others :=
  (hperm.map _).sum_eq

theorem sorted_perm (hperm : hits.Perm others) (hgrowing : Growing hits)
    (hothers : Growing others) :
    hits.insertionSort ChannelBefore = others.insertionSort ChannelBefore := by
  refine insertionSort_eq_of_perm (s := fun a b => a.channel = b.channel →
    a.channelRank < b.channelRank) ?_ ?_ hperm ?_ ?_ ?_
  · exact fun a b => le_total (channelValue a.channel) (channelValue b.channel)
  · exact fun a b c hab hbc => le_trans (a := channelValue a.channel) hab hbc
  · intro a _ b _ hab hba
    -- Within one channel one of the two ranks is smaller, so this case is impossible.
    have hchannel := channelValue_injective (le_antisymm hab.1 hba.1)
    have hless := hab.2 hba.1 hchannel
    have hgreater := hba.2 hab.1 hchannel.symm
    omega
  · refine Pairwise.imp ?_ hgrowing
    intro a b h _
    exact h
  · refine Pairwise.imp ?_ hothers
    intro a b h _
    exact h

theorem growing_group (hgrowing : Growing hits) : Growing (group hits identity) :=
  hgrowing.sublist filter_sublist

theorem sameUnits_perm (hperm : hits.Perm others) (hunits : SameUnits hits) : SameUnits others := by
  intro a ha b hb
  exact hunits a (hperm.mem_iff.mpr ha) b (hperm.mem_iff.mpr hb)

theorem scoredOf_perm (hperm : hits.Perm others) (hunits : SameUnits hits)
    (hgrowing : Growing hits) (hothers : Growing others) :
    service.scoredOf hits identity = service.scoredOf others identity := by
  have hgroup : (group hits identity).Perm (group others identity) := hperm.filter _
  by_cases hhit : ∃ hit ∈ hits, hit.unit.unitId = identity
  · rcases hhit with ⟨hit, hmem, rfl⟩
    rw [scoredOf_hit hunits hmem,
      scoredOf_hit (sameUnits_perm hperm hunits) (hperm.mem_iff.mp hmem), rrfScore_perm hgroup,
      sorted_perm hgroup (growing_group hgrowing) (growing_group hothers)]
  · cases hleft : service.scoredOf hits identity with
    | some item =>
      rcases scoredOf_unit hleft with ⟨hit, hmem, hid, _⟩
      exact absurd ⟨hit, hmem, hid⟩ hhit
    | none =>
      cases hright : service.scoredOf others identity with
      | none => rfl
      | some item =>
        rcases scoredOf_unit hright with ⟨hit, hmem, hid, _⟩
        exact absurd ⟨hit, hperm.mem_iff.mpr hmem, hid⟩ hhit

theorem scoredIds (ids : List StableId) (h : ∀ id ∈ ids, ∃ hit ∈ hits, hit.unit.unitId = id) :
    (ids.filterMap (service.scoredOf hits)).map (fun item => item.unit.unitId) = ids := by
  induction ids with
  | nil => rfl
  | cons id rest ih =>
    rw [forall_mem_cons] at h
    cases hitem : service.scoredOf hits id with
    | none =>
      rcases h.1 with ⟨hit, hmem, hid⟩
      have hgroup : hit ∈ group hits id := mem_group.mpr ⟨hmem, hid⟩
      unfold FusionService.scoredOf at hitem
      rw [Option.map_eq_none_iff, List.getLast?_eq_none_iff] at hitem
      rw [hitem] at hgroup
      cases hgroup
    | some item =>
      rcases scoredOf_unit hitem with ⟨hit, _, hid, hunit⟩
      rw [filterMap_cons_some hitem, map_cons, ih h.2, hunit, hid]

/-- No unit is scored twice. -/
theorem scored_nodup :
    ((service.scored hits).map fun item => item.unit.unitId).Nodup := by
  have hperm := (perm_insertionSort ScoredBefore
    ((hitIds hits).filterMap (service.scoredOf hits))).map fun item => item.unit.unitId
  unfold FusionService.scored
  rw [hperm.nodup_iff, scoredIds _ fun id hid => mem_hitIds.mp hid]
  exact nodup_eraseDups _

/-- Each unit is there. -/
theorem scored_units (hunits : SameUnits hits) {unit : RetrievalUnit} :
    unit ∈ (service.scored hits).map Scored.unit ↔ ∃ hit ∈ hits, hit.unit = unit := by
  unfold FusionService.scored
  rw [((perm_insertionSort ScoredBefore _).map Scored.unit).mem_iff, mem_map]
  constructor
  · intro h
    rcases h with ⟨item, hitem, rfl⟩
    rcases mem_filterMap.mp hitem with ⟨id, _, hscored⟩
    rcases scoredOf_unit hscored with ⟨hit, hmem, _, hunit⟩
    exact ⟨hit, hmem, hunit.symm⟩
  · intro h
    rcases h with ⟨hit, hmem, rfl⟩
    have hid : hit.unit.unitId ∈ hitIds hits := mem_hitIds.mpr ⟨hit, hmem, rfl⟩
    exact ⟨_, mem_filterMap.mpr ⟨_, hid, scoredOf_hit hunits hmem⟩, rfl⟩

theorem scoredBefore_total (a b : Scored) : ScoredBefore a b ∨ ScoredBefore b a := by
  unfold ScoredBefore
  rcases lt_trichotomy a.score b.score with hless | hsame | hgreater
  · exact Or.inr (Or.inl hless)
  · rcases le_total a.unit.unitId.root b.unit.unitId.root with hroot | hroot
    · exact Or.inl (Or.inr ⟨hsame, hroot⟩)
    · exact Or.inr (Or.inr ⟨hsame.symm, hroot⟩)
  · exact Or.inl (Or.inl hgreater)

theorem scoredBefore_trans (a b c : Scored) (hab : ScoredBefore a b) (hbc : ScoredBefore b c) :
    ScoredBefore a c := by
  unfold ScoredBefore at *
  rcases hab with hab | hab
  · rcases hbc with hbc | hbc
    · exact Or.inl (lt_trans hbc hab)
    · exact Or.inl (hbc.1 ▸ hab)
  · rcases hbc with hbc | hbc
    · exact Or.inl (hab.1.symm ▸ hbc)
    · exact Or.inr ⟨hab.1.trans hbc.1, le_trans hab.2 hbc.2⟩

/-- The order of the hits does not matter. -/
theorem scored_perm (hperm : hits.Perm others) (hunits : SameUnits hits)
    (hgrowing : Growing hits) (hothers : Growing others) :
    service.scored hits = service.scored others := by
  have hids : (hitIds hits).Perm (hitIds others) := by
    refine (perm_ext_iff_of_nodup (nodup_eraseDups _) (nodup_eraseDups _)).mpr ?_
    intro id
    exact (mem_hitIds.trans (by simp only [hperm.mem_iff])).trans mem_hitIds.symm
  have hitems : ((hitIds hits).filterMap (service.scoredOf hits)).Perm
      ((hitIds others).filterMap (service.scoredOf others)) := by
    have hsame : service.scoredOf hits = service.scoredOf others := by
      funext id
      exact scoredOf_perm hperm hunits hgrowing hothers
    rw [hsame]
    exact hids.filterMap _
  have hnodup : (((hitIds hits).filterMap (service.scoredOf hits)).map
      fun item => item.unit.unitId).Nodup := by
    rw [scoredIds _ fun id hid => mem_hitIds.mp hid]
    exact nodup_eraseDups _
  unfold FusionService.scored
  refine insertionSort_eq_of_perm (s := fun _ _ => True) scoredBefore_total scoredBefore_trans hitems
    ?_ (pairwise_of_forall fun _ _ _ => trivial)
    (pairwise_of_forall fun _ _ _ => trivial)
  intro a ha b hb hab hba
  -- Neither scores more than the other one, so their identities decide.
  refine inj_on_of_nodup_map hnodup ha hb ?_
  have hroot : a.unit.unitId.root = b.unit.unitId.root := by
    rcases hab.1 with hscore | hscore
    · rcases hba.1 with hback | hback
      · exact absurd hback (lt_asymm hscore)
      · exact absurd hback.1.symm (ne_of_gt hscore)
    · rcases hba.1 with hback | hback
      · exact absurd hscore.1 (ne_of_lt hback)
      · exact le_antisymm hscore.2 hback.2
  exact StableId.root_inj.mp hroot

end Scores

section Checks

/-- The hits of each channel are its own, ranked without a gap. -/
def Ranked (results : ChannelResults) : Prop :=
  ∀ entry ∈ results.entries, ∀ (i : Nat) (hit : ChannelHit), entry.2[i]? = some hit →
    hit.channel = entry.1 ∧ hit.channelRank = i + 1

/-- The channels counted at least as many candidates as they returned. -/
def Counted (entries : List (RetrievalChannel × List ChannelHit)) : Prop :=
  ∀ entry ∈ entries, ∀ hit ∈ entry.2, entry.2.length ≤ hit.candidateCount

/-- The message for a channel that counted too few. -/
def countError : String := "channel candidate_count cannot be smaller than returned hits"

variable {results others : ChannelResults}

theorem checkHits_ranked {channel : RetrievalChannel} {count : Nat} {hits : List ChannelHit} :
    ∀ rank, (∀ (i : Nat) (hit : ChannelHit), hits[i]? = some hit →
      hit.channel = channel ∧ hit.channelRank = rank + i) →
      checkHits channel count rank hits =
        if ∀ hit ∈ hits, count ≤ hit.candidateCount then .ok () else .error countError := by
  induction hits with
  | nil =>
    intro rank _
    rw [if_pos fun hit hmem => absurd hmem not_mem_nil]
    rfl
  | cons first rest ih =>
    intro rank hranked
    have hfirst := hranked 0 first rfl
    unfold checkHits
    rw [if_neg (by simp [hfirst.1, hfirst.2])]
    by_cases hcount : first.candidateCount < count
    · have hshort : ¬ ∀ hit ∈ first :: rest, count ≤ hit.candidateCount := by
        intro hall
        have := hall first mem_cons_self
        omega
      rw [if_pos hcount, if_neg hshort]
      rfl
    · rw [if_neg hcount, ih (rank + 1)]
      · have hiff : (∀ hit ∈ first :: rest, count ≤ hit.candidateCount) ↔
            ∀ hit ∈ rest, count ≤ hit.candidateCount := by
          rw [forall_mem_cons]
          exact and_iff_right (not_lt.mp hcount)
        simp only [hiff]
      · intro i hit hget
        have hnext := hranked (i + 1) hit hget
        exact ⟨hnext.1, by omega⟩

theorem checkResults_ranked {entries : List (RetrievalChannel × List ChannelHit)}
    (hranked : ∀ entry ∈ entries, ∀ (i : Nat) (hit : ChannelHit), entry.2[i]? = some hit →
      hit.channel = entry.1 ∧ hit.channelRank = i + 1) :
    (Counted entries → checkResults entries = .ok ()) ∧
      (¬ Counted entries → checkResults entries = .error countError) := by
  induction entries with
  | nil =>
    refine ⟨fun _ => rfl, ?_⟩
    intro h
    exact absurd (fun entry hmem => absurd hmem not_mem_nil) h
  | cons entry rest ih =>
    rw [forall_mem_cons] at hranked
    have hentry := @checkHits_ranked _ entry.2.length _ 1 fun i hit hget => by
      have := hranked.1 i hit hget
      exact ⟨this.1, by omega⟩
    have hrest := ih hranked.2
    unfold Counted at hrest ⊢
    unfold checkResults
    rw [forall_mem_cons, hentry]
    by_cases hcount : ∀ hit ∈ entry.2, entry.2.length ≤ hit.candidateCount
    · rw [if_pos hcount]
      constructor
      · intro h
        exact hrest.1 h.2
      · intro h
        exact hrest.2 fun hcontra => h ⟨hcount, hcontra⟩
    · rw [if_neg hcount]
      constructor
      · intro h
        exact absurd h.1 hcount
      · intro _
        rfl

theorem growing_allHits (hranked : Ranked results) : Growing (allHits results) := by
  unfold Growing allHits
  rw [pairwise_flatMap]
  constructor
  · intro entry hentry
    rw [pairwise_iff_getElem]
    intro i j hi hj hij _
    have hleft := hranked entry hentry i _ (List.getElem?_eq_getElem hi)
    have hright := hranked entry hentry j _ (List.getElem?_eq_getElem hj)
    omega
  · have hkeys := results.nodup
    rw [Nodup, pairwise_map] at hkeys
    refine Pairwise.imp_of_mem ?_ hkeys
    intro left right hleft hright hne a ha b hb hchannel
    -- The hits of different entries are hits of different channels.
    rcases List.getElem?_of_mem ha with ⟨i, hi⟩
    rcases List.getElem?_of_mem hb with ⟨j, hj⟩
    have hleft := hranked left hleft i a hi
    have hright := hranked right hright j b hj
    exact absurd (hleft.1.symm.trans (hchannel.trans hright.1)) hne

theorem ranked_perm (hperm : results.entries.Perm others.entries) (hranked : Ranked results) :
    Ranked others :=
  fun entry hentry => hranked entry (hperm.mem_iff.mpr hentry)

end Checks

section Fused

variable {service : FusionService} {results others : ChannelResults} {limit : Int}
  {seedEntityIds : List StableId} {fused : List FusedCandidate}

theorem candidates_units (limit : Int) :
    (service.candidates results limit).map FusedCandidate.unit =
      (service.scored (allHits results)).map Scored.unit := by
  unfold FusionService.candidates
  have hpairs := congrArg (List.map Scored.unit)
    (zipIdx_map_fst 1 (service.scored (allHits results)))
  rw [map_map] at hpairs ⊢
  exact hpairs

theorem fuse_eq (hlimit : 1 ≤ limit) : service.fuse results limit seedEntityIds = (do
    checkResults results.entries
    select service.selector limit seedEntityIds (service.candidates results limit)) := by
  unfold FusionService.fuse
  rw [if_neg (by omega)]

/-- Fusion returns as soon as there is room for a candidate and every channel has counted
    what it returned. -/
theorem fuse_returns (hranked : Ranked results) :
    (∃ fused, service.fuse results limit seedEntityIds = .ok fused) ↔
      1 ≤ limit ∧ Counted results.entries := by
  have hchecks := checkResults_ranked hranked
  by_cases hlimit : 1 ≤ limit
  · rw [fuse_eq hlimit]
    by_cases hcounted : Counted results.entries
    · rw [hchecks.1 hcounted]
      exact ⟨fun _ => ⟨hlimit, hcounted⟩, fun _ => select_returns.mpr hlimit⟩
    · rw [hchecks.2 hcounted]
      constructor
      · intro h
        rcases h with ⟨_, h⟩
        cases h
      · intro h
        exact absurd h.2 hcounted
  · unfold FusionService.fuse
    rw [if_pos (by omega)]
    constructor
    · intro h
      rcases h with ⟨_, h⟩
      cases h
    · intro h
      exact absurd h.1 hlimit

theorem fuse_eq_ok (h : service.fuse results limit seedEntityIds = .ok fused) :
    select service.selector limit seedEntityIds (service.candidates results limit) = .ok fused := by
  by_cases hlimit : 1 ≤ limit
  · rw [fuse_eq hlimit, Outcome.bind_eq_ok] at h
    rcases h with ⟨_, _, hselect⟩
    exact hselect
  · unfold FusionService.fuse at h
    rw [if_pos (by omega)] at h
    cases h

theorem fuse_units (hunits : SameUnits (allHits results))
    (h : service.fuse results limit seedEntityIds = .ok fused) :
    (fused.map fun candidate => candidate.unit.unitId).Nodup ∧
      ∀ unit, unit ∈ fused.map FusedCandidate.unit ↔ ∃ hit ∈ allHits results, hit.unit = unit := by
  have hfused := (select_units (fuse_eq_ok h)).trans (candidates_units limit)
  constructor
  · have hnodup := @scored_nodup service (allHits results)
    have hids := congrArg (List.map RetrievalUnit.unitId) hfused
    rw [map_map, map_map] at hids
    exact hids ▸ hnodup
  · intro unit
    rw [hfused]
    exact scored_units hunits

theorem fuse_perm (hperm : results.entries.Perm others.entries) (hranked : Ranked results)
    (hunits : SameUnits (allHits results)) (limit : Int) (seedEntityIds : List StableId) :
    service.fuse others limit seedEntityIds = service.fuse results limit seedEntityIds := by
  have hothers := ranked_perm hperm hranked
  have hscored : service.scored (allHits results) = service.scored (allHits others) :=
    scored_perm (hperm.flatMap_right Prod.snd) hunits (growing_allHits hranked)
      (growing_allHits hothers)
  have hchecks : checkResults others.entries = checkResults results.entries := by
    have hiff : Counted others.entries ↔ Counted results.entries := by
      unfold Counted
      simp only [hperm.mem_iff]
    by_cases hcounted : Counted results.entries
    · rw [(checkResults_ranked hranked).1 hcounted,
        (checkResults_ranked hothers).1 (hiff.mpr hcounted)]
    · rw [(checkResults_ranked hranked).2 hcounted,
        (checkResults_ranked hothers).2 (fun h => hcounted (hiff.mp h))]
  unfold FusionService.fuse FusionService.candidates
  rw [hscored, hchecks]

/-- Fusion over ranked answers: it returns whenever its two guards allow, in whatever order
    the channels are supplied, and then each unit that was hit is a candidate exactly once,
    mandatory units are selected, and but for at most one retained path of the graph the
    optional ones are within the limit and within the quotas. -/
theorem fuse_selects (service : FusionService) (results : ChannelResults)
    (hranked : Ranked results) (hunits : SameUnits (allHits results)) (limit : Int)
    (seedEntityIds : List StableId) :
    ((∃ fused, service.fuse results limit seedEntityIds = .ok fused) ↔
      1 ≤ limit ∧ Counted results.entries) ∧
    (∀ others : ChannelResults, results.entries.Perm others.entries →
      service.fuse others limit seedEntityIds = service.fuse results limit seedEntityIds) ∧
    ∀ fused, service.fuse results limit seedEntityIds = .ok fused →
      (fused.map fun candidate => candidate.unit.unitId).Nodup ∧
      (∀ unit, unit ∈ fused.map FusedCandidate.unit ↔
        ∃ hit ∈ allHits results, hit.unit = unit) ∧
      (∀ candidate ∈ fused, candidate.unit.mandatory = true → candidate.selected = true) ∧
      ∃ retained, Bounded service.selector limit fused retained := by
  refine ⟨fuse_returns hranked, ?_, ?_⟩
  · intro others hperm
    exact fuse_perm hperm hranked hunits limit seedEntityIds
  · intro fused h
    have hunique := fuse_units hunits h
    have hselect := fuse_eq_ok h
    exact ⟨hunique.1, hunique.2, select_mandatory hselect, select_bounded hselect⟩

end Fused

namespace Sample

def fusionService : FusionService where
  rrfK := 60
  selector :=
    { maxPerUnitKind := 8
      maxPerNarrativeChapter := 4
      collapseDuplicateEvidence := true
      kind_pos := by decide
      chapter_pos := by decide }
  rrfK_pos := by decide

def foundUnit : RetrievalUnit where
  unitId := ⟨"unit.1", .refl true⟩
  unitKind := .factAnchor
  sourceCommit := digest "commit"
  snapshotId := ⟨"snapshot.1", .refl true⟩
  sourceArtifact := none
  sourceRefs := []
  contentHash := none
  text := "fact"
  entityIds := []
  predicate := none
  parentUnitId := none
  parentUnitIds := []
  worldline := "main"
  narrativeStart := none
  narrativeEnd := none
  truthClass := none
  accessScope := "writer_safe"
  informationLabel := "observed"
  evidenceRefs := []
  mandatory := false
  others := .null

def shield : RetrievalUnit := { foundUnit with unitId := ⟨"unit.2", .refl true⟩ }

def oath : RetrievalUnit :=
  { foundUnit with unitId := ⟨"unit.3", .refl true⟩, mandatory := true }

def hitsOf (channel : RetrievalChannel) (units : List RetrievalUnit) : List ChannelHit :=
  units.mapIdx fun i unit => ⟨unit, channel, i + 1, 1, units.length, "match", []⟩

def twoChannels : ChannelResults where
  entries := [(.anchorBm25, hitsOf .anchorBm25 [foundUnit, shield]),
    (.anchorDense, hitsOf .anchorDense [shield, oath])]
  nodup := by decide

theorem twoChannels_ranked : Ranked twoChannels := by
  have hhits : ∀ channel units i hit, (hitsOf channel units)[i]? = some hit →
      hit.channel = channel ∧ hit.channelRank = i + 1 := by
    intro channel units i hit hget
    rw [hitsOf, List.getElem?_mapIdx, Option.map_eq_some_iff] at hget
    rcases hget with ⟨unit, _, rfl⟩
    exact ⟨rfl, rfl⟩
  intro entry hentry i hit hget
  simp only [twoChannels, mem_cons, not_mem_nil, or_false] at hentry
  rcases hentry with rfl | rfl
  · exact hhits _ _ i hit hget
  · exact hhits _ _ i hit hget

theorem twoChannels_units : SameUnits (allHits twoChannels) := by
  have hsame : ∀ a ∈ allHits twoChannels, ∀ b ∈ allHits twoChannels,
      a.unit.unitId = b.unit.unitId → a.unit = b.unit := by decide +kernel
  exact fun a ha b hb => hsame a ha b hb

end Sample

open Sample

/-- Three units in two channels on a page of one optional unit: the mandatory one is selected
    beside the one that both channels found. -/
theorem fuse_selects_sample :
    ∃ fused, fusionService.fuse twoChannels 1 [] = .ok fused ∧
      (fused.map fun candidate => (candidate.unit.unitId.root, candidate.selected)) =
        [("unit.2", true), ("unit.1", false), ("unit.3", true)] ∧
      (fused.map fun candidate => candidate.unit.unitId).Nodup ∧
      (∀ candidate ∈ fused, candidate.unit.mandatory = true → candidate.selected = true) ∧
      ∃ retained, Bounded fusionService.selector 1 fused retained := by
  have hselects := fuse_selects fusionService twoChannels twoChannels_ranked
    twoChannels_units 1 []
  have hcounted : ∀ entry ∈ twoChannels.entries, ∀ hit ∈ entry.2,
      entry.2.length ≤ hit.candidateCount := by decide
  rcases hselects.1.mpr ⟨le_refl 1, hcounted⟩ with ⟨fused, hfused⟩
  have hall := hselects.2.2 fused hfused
  have hflags : (fusionService.fuse twoChannels 1 []).map (fun fused =>
      fused.map fun candidate => (candidate.unit.unitId.root, candidate.selected)) =
        .ok [("unit.2", true), ("unit.1", false), ("unit.3", true)] := by decide +kernel
  rw [hfused, Except.map, Except.ok.injEq] at hflags
  exact ⟨fused, hfused, hflags, hall.1, hall.2.2.1, hall.2.2.2⟩

end NovelAgent.Pipeline
