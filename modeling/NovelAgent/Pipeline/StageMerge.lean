import Mathlib.Algebra.Order.Floor.Div
import Mathlib.Data.List.Sort
import Mathlib.GroupTheory.GroupAction.Ring
import NovelAgent.Core.Merging
import NovelAgent.Pipeline.Fusion

/-!
# Merging Stages

What a later stage of a route adds to the candidates of the stages before it.
-/

namespace NovelAgent.Pipeline

open Core Domain

open Retrieval (Stage1QueryIntent)

def FusedCandidate.unitId (candidate : FusedCandidate) : StableId := candidate.unit.unitId

/-- The candidate is a grounded passage with evidence. -/
def FusedCandidate.hasEvidence (candidate : FusedCandidate) : Bool :=
  candidate.unit.isGrounded && candidate.unit.evidenceRefs ≠ []

section Merge

/-- How many incoming candidates have a place on the page. -/
def incomingQuota (incoming : List FusedCandidate) (limit : Nat) : Nat :=
  min incoming.length (max 1 ((limit * 2 + 2) / 3))

/-- The order in which incoming evidence has its share of the page. -/
def prioritized (existing incoming : List FusedCandidate) (limit : Nat) : List FusedCandidate :=
  let incomingQuota := incomingQuota incoming limit
  let existingQuota := min existing.length (limit - incomingQuota)
  let turns := min 2 (min incomingQuota existingQuota)
  interleave (existing.take turns) (incoming.take turns) ++
    ((incoming.take incomingQuota).drop turns ++
      ((existing.take existingQuota).drop turns ++
        (incoming.drop incomingQuota ++ existing.drop existingQuota)))

def stageOrder (existing incoming : List FusedCandidate) (limit : Nat) (reserveIncoming : Bool) :
    List FusedCandidate :=
  if reserveIncoming = true ∧ existing ≠ [] ∧ incoming ≠ [] then
    if incoming.any FusedCandidate.hasEvidence then prioritized existing incoming limit
    else interleave existing incoming
  else existing ++ incoming

/-- The candidates with their ranks from `rank` on, selected within the limit. -/
def rankFrom (limit : Nat) : Nat → List FusedCandidate → List FusedCandidate
  | _, [] => []
  | rank, candidate :: rest =>
    let kept := decide (rank ≤ limit) || candidate.unit.mandatory
    { candidate.mark kept (if kept then none else some "route_result_limit") with
      fusedRank := rank } :: rankFrom limit (rank + 1) rest

/-- `_merge_candidates` -/
def mergeCandidates (existing incoming : List FusedCandidate) (limit : Nat)
    (reserveIncoming : Bool) : List FusedCandidate :=
  retainRelatedGraphPaths (rankFrom limit 1 (firstPer FusedCandidate.unitId
    (stageOrder existing incoming limit reserveIncoming))) []

end Merge

section Protection

/-- The selected candidate may give its place to evidence. -/
def FusedCandidate.isReplaceable (candidate : FusedCandidate) : Bool :=
  candidate.selected && !candidate.unit.mandatory && !candidate.unit.isGrounded

/-- A later candidate is replaced first. -/
def ReplacedBefore (a b : FusedCandidate) : Prop :=
  b.fusedRank < a.fusedRank ∨ a.fusedRank = b.fusedRank ∧ a.unitId.root ≤ b.unitId.root

instance : DecidableRel ReplacedBefore := fun _ _ => inferInstanceAs (Decidable (_ ∨ _ ∧ _))

/-- Write a candidate in the place of its unit. -/
def put (new : FusedCandidate) (candidates : List FusedCandidate) : List FusedCandidate :=
  candidates.map fun candidate => if candidate.unitId = new.unitId then new else candidate

/-- How many grounded passages a need for history keeps. -/
def historicalReserve (intent : Stage1QueryIntent) (limit : Nat) : Nat :=
  if intent = .semanticHistory ∨ intent = .relatedEvent then min 4 (max 1 (limit / 5)) else 0

/-- Select evidence until the reserve is reached: in free places first, and then in the
    places of replacements. -/
def protectFrom (reserve : Nat) : Nat → Nat → List FusedCandidate → List FusedCandidate →
    List FusedCandidate → List FusedCandidate
  | _, _, _, [], current => current
  | chosen, slots, replacements, candidate :: rest, current =>
    if reserve ≤ chosen then current
    else if candidate.selected then protectFrom reserve chosen slots replacements rest current
    else if 0 < slots then
      protectFrom reserve (chosen + 1) (slots - 1) replacements rest
        (put (candidate.mark true none) current)
    else
      match replacements with
      | [] => current
      | replacement :: others =>
        protectFrom reserve (chosen + 1) slots others rest
          (put (replacement.mark false (some "historical_evidence_reserve"))
            (put (candidate.mark true none) current))

/-- `_protect_historical_evidence` -/
def protectHistoricalEvidence (intent : Stage1QueryIntent) (candidates : List FusedCandidate)
    (limit : Nat) : Except String (List FusedCandidate) :=
  if intent ≠ .semanticHistory ∧ intent ≠ .relatedEvent then .ok candidates
  else if limit < 1 then .error "historical evidence protection limit must be positive"
  else
    let evidence := candidates.filter FusedCandidate.hasEvidence
    let reserve := min 4 (max 1 (limit / 5))
    let chosen := evidence.countP FusedCandidate.selected
    if evidence = [] ∨ reserve ≤ chosen then .ok candidates
    else
      -- The candidates are found under their units, the last one of a unit.
      let byUnitId := candidates.map fun candidate =>
        (candidates.findRev? fun other => other.unitId = candidate.unitId).getD candidate
      .ok (protectFrom reserve chosen (limit - candidates.countP FusedCandidate.selected)
        ((candidates.filter FusedCandidate.isReplaceable).insertionSort ReplacedBefore) evidence
        byUnitId)

end Protection

section Merged

variable {existing incoming : List FusedCandidate} {limit : Nat} {reserveIncoming : Bool}

theorem mem_prioritized {candidate : FusedCandidate} :
    candidate ∈ prioritized existing incoming limit ↔ candidate ∈ existing ∨ candidate ∈ incoming := by
  have hsplit (l : List FusedCandidate) (n m : Nat) (h : n ≤ m) : candidate ∈ l ↔
      candidate ∈ l.take n ∨ candidate ∈ (l.take m).drop n ∨ candidate ∈ l.drop m := by
    have htake : (l.take m).take n = l.take n := by rw [List.take_take, Nat.min_eq_left h]
    conv_lhs => rw [← List.take_append_drop m l, ← List.take_append_drop n (l.take m), htake]
    rw [List.mem_append, List.mem_append, or_assoc]
  unfold prioritized
  dsimp only
  rw [hsplit existing _ _ ((Nat.min_le_right 2 _).trans (Nat.min_le_right (incomingQuota incoming
      limit) _)), hsplit incoming _ _ ((Nat.min_le_right 2 _).trans (Nat.min_le_left _ _))]
  simp only [List.mem_append, mem_interleave]
  tauto

theorem mem_stageOrder {candidate : FusedCandidate} :
    candidate ∈ stageOrder existing incoming limit reserveIncoming ↔
      candidate ∈ existing ∨ candidate ∈ incoming := by
  unfold stageOrder
  split
  · split
    · exact mem_prioritized
    · exact mem_interleave _ _
  · exact List.mem_append

theorem incomingQuota_le (hlimit : 1 ≤ limit) : incomingQuota incoming limit ≤ limit := by
  unfold incomingQuota
  omega

/-- The reserved share lies on the page. -/
theorem take_prioritized (hlimit : 1 ≤ limit) {candidate : FusedCandidate}
    (h : candidate ∈ incoming.take (incomingQuota incoming limit)) :
    candidate ∈ (prioritized existing incoming limit).take limit := by
  have hquota := @incomingQuota_le incoming limit hlimit
  have hlength : incomingQuota incoming limit ≤ incoming.length := Nat.min_le_left _ _
  unfold prioritized
  dsimp only
  generalize incomingQuota incoming limit = quota at h hquota hlength ⊢
  generalize hturns : min 2 (min quota (min existing.length (limit - quota))) = turns
  rw [← List.append_assoc]
  -- The turns and the rest of the share come first, and they fit.
  refine (List.prefix_take_iff.mpr ⟨List.prefix_append _ _, ?_⟩).subset ?_
  · rw [List.length_append, length_interleave, List.length_drop, List.length_take,
      List.length_take, List.length_take]
    omega
  · rw [List.mem_append, mem_interleave]
    rw [← List.take_append_drop turns (incoming.take quota), List.mem_append, List.take_take,
      Nat.min_eq_left (by omega)] at h
    rcases h with h | h
    · exact .inl (.inr h)
    · exact .inr h

theorem take_stageOrder (hlimit : 1 ≤ limit) (hevidence : incoming.any FusedCandidate.hasEvidence)
    {candidate : FusedCandidate} (h : candidate ∈ incoming.take (incomingQuota incoming limit)) :
    candidate ∈ (stageOrder existing incoming limit true).take limit := by
  unfold stageOrder
  by_cases hstages : true = true ∧ existing ≠ [] ∧ incoming ≠ []
  · rw [if_pos hstages, if_pos hevidence]
    exact take_prioritized hlimit h
  · rw [if_neg hstages]
    have hexisting : existing = [] := by
      by_contra hne
      have hnil : incoming = [] := by
        by_contra hincoming
        exact hstages ⟨rfl, hne, hincoming⟩
      rw [hnil, List.take_nil] at h
      exact absurd h List.not_mem_nil
    rw [hexisting, List.nil_append]
    exact (List.take_prefix_take_left (incomingQuota_le hlimit)).subset h

theorem rankFrom_units (candidates : List FusedCandidate) : ∀ rank,
    (rankFrom limit rank candidates).map FusedCandidate.unit =
      candidates.map FusedCandidate.unit := by
  induction candidates with
  | nil => exact fun _ => rfl
  | cons candidate rest ih => exact fun rank => congrArg (candidate.unit :: ·) (ih (rank + 1))

theorem rankFrom_ranks (candidates : List FusedCandidate) : ∀ rank,
    (rankFrom limit rank candidates).map FusedCandidate.fusedRank =
      List.range' rank candidates.length := by
  induction candidates with
  | nil => exact fun _ => rfl
  | cons candidate rest ih => exact fun rank => congrArg (rank :: ·) (ih (rank + 1))

theorem rankFrom_mandatory (candidates : List FusedCandidate) : ∀ rank,
    ∀ ranked ∈ rankFrom limit rank candidates, ranked.unit.mandatory = true →
      ranked.selected = true := by
  induction candidates with
  | nil => exact fun _ _ h => absurd h List.not_mem_nil
  | cons candidate rest ih =>
    intro rank ranked hmem hmandatory
    rcases List.mem_cons.mp hmem with rfl | hmem
    · exact Bool.or_eq_true_iff.mpr (.inr hmandatory)
    · exact ih (rank + 1) ranked hmem hmandatory

theorem rankFrom_take (candidates : List FusedCandidate) : ∀ rank count, rank + count ≤ limit + 1 →
    ∀ ranked ∈ (rankFrom limit rank candidates).take count, ranked.selected = true := by
  induction candidates with
  | nil =>
    intro rank count _ ranked hmem
    rw [rankFrom, List.take_nil] at hmem
    exact absurd hmem List.not_mem_nil
  | cons candidate rest ih =>
    intro rank count hcount ranked hmem
    cases count with
    | zero => exact absurd hmem List.not_mem_nil
    | succ count =>
      rcases List.mem_cons.mp hmem with rfl | hmem
      · exact Bool.or_eq_true_iff.mpr (.inl (decide_eq_true (by omega)))
      · exact ih (rank + 1) count (by omega) ranked hmem

/-- What a merge returns: every unit of either stage once, ranked from one on, with every
    mandatory unit and the reserved share selected. -/
structure Merged (existing incoming : List FusedCandidate) (limit : Nat) (reserveIncoming : Bool)
    (merged : List FusedCandidate) : Prop where
  nodup : (merged.map FusedCandidate.unitId).Nodup
  units : ∀ id, id ∈ merged.map FusedCandidate.unitId ↔
    id ∈ existing.map FusedCandidate.unitId ∨ id ∈ incoming.map FusedCandidate.unitId
  handed : ∀ candidate ∈ merged, ∃ given ∈ existing ++ incoming, given.unit = candidate.unit
  ranks : merged.map FusedCandidate.fusedRank = List.range' 1 merged.length
  mandatory : ∀ candidate ∈ merged, candidate.unit.mandatory = true → candidate.selected = true
  /-- A unit is mandatory when each of its candidates says so. -/
  mandatory_given : ∀ given ∈ existing ++ incoming,
    (∀ other ∈ existing ++ incoming, other.unitId = given.unitId →
      other.unit.mandatory = true) →
    ∃ candidate ∈ merged, candidate.unitId = given.unitId ∧ candidate.selected = true
  share : reserveIncoming = true → incoming.any FusedCandidate.hasEvidence = true →
    ∀ given ∈ incoming.take (min incoming.length ((2 * limit) ⌈/⌉ 3)),
      ∃ candidate ∈ merged, candidate.unitId = given.unitId ∧ candidate.selected = true

theorem quota_eq (hlimit : 1 ≤ limit) :
    incomingQuota incoming limit = min incoming.length ((2 * limit) ⌈/⌉ 3) := by
  rw [Nat.ceilDiv_eq_add_pred_div, incomingQuota]
  omega

/-- What a merge returns. -/
theorem merge_spec (existing incoming : List FusedCandidate) (limit : Nat) (hlimit : 1 ≤ limit)
    (reserveIncoming : Bool) : Merged existing incoming limit reserveIncoming
      (mergeCandidates existing incoming limit reserveIncoming) := by
  unfold mergeCandidates
  generalize hfirst : firstPer FusedCandidate.unitId
    (stageOrder existing incoming limit reserveIncoming) = first
  rw [retainRelatedGraphPaths_eq]
  generalize retainedId (rankFrom limit 1 first) [] = retained
  have hunits : ((rankFrom limit 1 first).map (retainIn retained)).map FusedCandidate.unit =
      first.map FusedCandidate.unit := by
    rw [List.map_map, ← @rankFrom_units limit first 1]
    exact List.map_congr_left fun candidate _ => retainIn_unit retained candidate
  have hids : ((rankFrom limit 1 first).map (retainIn retained)).map FusedCandidate.unitId =
      first.map FusedCandidate.unitId := by
    have hmap (l : List FusedCandidate) : l.map FusedCandidate.unitId =
        (l.map FusedCandidate.unit).map RetrievalUnit.unitId := List.map_map.symm
    rw [hmap, hunits, ← hmap]
  have hmember (id : StableId) : id ∈ first.map FusedCandidate.unitId ↔
      id ∈ existing.map FusedCandidate.unitId ∨ id ∈ incoming.map FusedCandidate.unitId := by
    rw [← hfirst, keys_firstPer]
    simp only [List.mem_map, mem_stageOrder, or_and_right, exists_or]
  have hhanded : ∀ candidate ∈ (rankFrom limit 1 first).map (retainIn retained),
      ∃ given ∈ existing ++ incoming, given.unit = candidate.unit := by
    intro candidate hmem
    have hunit := List.mem_map_of_mem (f := FusedCandidate.unit) hmem
    rw [hunits] at hunit
    rcases List.mem_map.mp hunit with ⟨given, hgiven, heq⟩
    rw [← hfirst] at hgiven
    exact ⟨given, List.mem_append.mpr (mem_stageOrder.mp (firstPer_subset hgiven)), heq⟩
  have hmandatory : ∀ candidate ∈ (rankFrom limit 1 first).map (retainIn retained),
      candidate.unit.mandatory = true → candidate.selected = true := by
    intro candidate hmem
    rcases List.mem_map.mp hmem with ⟨ranked, hranked, rfl⟩
    rw [retainIn_unit]
    exact fun hunit => retainIn_selected retained (rankFrom_mandatory first 1 ranked hranked hunit)
  refine ⟨?_, fun id => by rw [hids, hmember], hhanded, ?_, hmandatory, ?_, ?_⟩
  · rw [hids, ← hfirst]
    exact nodup_firstPer _
  · have hrank (candidate : FusedCandidate) :
        (retainIn retained candidate).fusedRank = candidate.fusedRank := by
      unfold retainIn
      split <;> rfl
    have hlength : first.length = ((rankFrom limit 1 first).map (retainIn retained)).length := by
      have hunit := congrArg List.length (@rankFrom_units limit first 1)
      rw [List.length_map, List.length_map] at hunit
      rw [List.length_map, hunit]
    rw [← hlength, ← @rankFrom_ranks limit first 1, List.map_map]
    exact List.map_congr_left fun candidate _ => hrank candidate
  · intro given hgiven hall
    have hid : given.unitId ∈ ((rankFrom limit 1 first).map (retainIn retained)).map
        FusedCandidate.unitId := by
      rw [hids, hmember, ← List.mem_append, ← List.map_append]
      exact List.mem_map_of_mem hgiven
    rcases List.mem_map.mp hid with ⟨candidate, hcandidate, heq⟩
    rcases hhanded candidate hcandidate with ⟨other, hother, hunit⟩
    refine ⟨candidate, hcandidate, heq, hmandatory candidate hcandidate ?_⟩
    rw [← hunit]
    exact hall other hother ((congrArg RetrievalUnit.unitId hunit).trans heq)
  · rintro rfl hevidence given hgiven
    rw [← quota_eq hlimit] at hgiven
    have hpage := List.mem_map_of_mem (f := FusedCandidate.unitId)
      (@take_stageOrder existing _ _ hlimit hevidence _ hgiven)
    have htaken := take_firstPer hpage
    rw [hfirst, List.map_take, ← hids, ← List.map_take] at htaken
    rcases List.mem_map.mp htaken with ⟨candidate, hcandidate, heq⟩
    refine ⟨candidate, List.mem_of_mem_take hcandidate, heq, ?_⟩
    rw [← List.map_take] at hcandidate
    rcases List.mem_map.mp hcandidate with ⟨ranked, hranked, rfl⟩
    exact retainIn_selected retained (rankFrom_take first 1 limit (by omega) ranked hranked)

end Merged

section Put

variable {current : List FusedCandidate} {old new : FusedCandidate}

theorem ids_put : (put new current).map FusedCandidate.unitId =
    current.map FusedCandidate.unitId := by
  unfold put
  rw [List.map_map]
  refine List.map_congr_left fun candidate _ => ?_
  by_cases hid : candidate.unitId = new.unitId
  · rw [Function.comp_apply, if_pos hid, hid]
  · rw [Function.comp_apply, if_neg hid]

theorem mem_put (hmem : old ∈ current) (hid : old.unitId = new.unitId)
    {candidate : FusedCandidate} : candidate ∈ put new current ↔
      candidate = new ∨ candidate ∈ current ∧ candidate.unitId ≠ new.unitId := by
  unfold put
  rw [List.mem_map]
  constructor
  · rintro ⟨found, hfound, rfl⟩
    by_cases hsame : found.unitId = new.unitId
    · exact .inl (if_pos hsame)
    · rw [if_neg hsame]
      exact .inr ⟨hfound, hsame⟩
  · rintro (rfl | ⟨hfound, hother⟩)
    · exact ⟨old, hmem, if_pos hid⟩
    · exact ⟨candidate, hfound, if_neg hother⟩

theorem countP_put (p : FusedCandidate → Bool) (hnodup : (current.map FusedCandidate.unitId).Nodup)
    (hmem : old ∈ current) (hid : old.unitId = new.unitId) :
    (put new current).countP p + (if p old then 1 else 0) =
      current.countP p + (if p new then 1 else 0) := by
  induction current with
  | nil => exact absurd hmem List.not_mem_nil
  | cons first rest ih =>
    rw [List.map_cons, List.nodup_cons] at hnodup
    unfold put
    rw [List.map_cons, List.countP_cons, List.countP_cons]
    rcases List.mem_cons.mp hmem with rfl | hrest
    · have hsame : rest.map (fun candidate => if candidate.unitId = new.unitId then new
          else candidate) = rest := by
        refine (List.map_congr_left fun candidate hcandidate => if_neg fun heq => ?_).trans
          (List.map_id rest)
        exact hnodup.1 (hid ▸ heq ▸ List.mem_map_of_mem hcandidate)
      rw [if_pos hid, hsame]
      omega
    · have hfirst : first.unitId ≠ new.unitId := fun heq =>
        hnodup.1 (heq.trans hid.symm ▸ List.mem_map_of_mem hrest)
      have hcount := ih hnodup.2 hrest
      unfold put at hcount
      rw [if_neg hfirst]
      omega

theorem forall₂_put {R : FusedCandidate → FusedCandidate → Prop} {candidates : List FusedCandidate}
    (h : List.Forall₂ R candidates current)
    (hnew : ∀ candidate, ∀ found ∈ current, found.unitId = new.unitId → R candidate found →
      R candidate new) : List.Forall₂ R candidates (put new current) := by
  induction h with
  | nil => exact .nil
  | @cons candidate found _ _ hfirst _ ih =>
    refine .cons ?_ (ih fun other found hfound => hnew other found (List.mem_cons_of_mem _ hfound))
    dsimp only
    by_cases hid : found.unitId = new.unitId
    · rw [if_pos hid]
      exact hnew candidate found List.mem_cons_self hid hfirst
    · rw [if_neg hid]
      exact hfirst

end Put

section Protected

variable {candidates current replacements rest : List FusedCandidate} {chosen slots : Nat}

/-- A candidate in its place: the same unit at the same rank, still selected if it is
    mandatory or grounded. -/
structure Follows (candidate later : FusedCandidate) : Prop where
  unit : later.unit = candidate.unit
  rank : later.fusedRank = candidate.fusedRank
  stays : candidate.selected = true →
    candidate.unit.mandatory = true ∨ candidate.unit.isGrounded = true → later.selected = true

def FusedCandidate.isChosen (candidate : FusedCandidate) : Bool :=
  candidate.selected && candidate.hasEvidence

theorem isGrounded_of_hasEvidence {candidate : FusedCandidate}
    (h : candidate.hasEvidence = true) : candidate.unit.isGrounded = true :=
  (Bool.and_eq_true_iff.mp h).1

theorem isReplaceable_iff {candidate : FusedCandidate} : candidate.isReplaceable = true ↔
    candidate.selected = true ∧ candidate.unit.mandatory = false ∧
      candidate.unit.isGrounded = false := by
  simp [FusedCandidate.isReplaceable, and_assoc]

/-- What the pass keeps along its way: the evidence still to come and the replacements stand
    in their places, and no other evidence is missing and nothing else can be replaced. -/
structure Protecting (candidates : List FusedCandidate) (chosen : Nat)
    (replacements rest current : List FusedCandidate) : Prop where
  follows : List.Forall₂ Follows candidates current
  nodup : (current.map FusedCandidate.unitId).Nodup
  count : current.countP FusedCandidate.isChosen = chosen
  rest_mem : ∀ candidate ∈ rest, candidate ∈ current ∧ candidate.hasEvidence = true
  rest_nodup : (rest.map FusedCandidate.unitId).Nodup
  missing : ∀ candidate ∈ current, candidate.hasEvidence = true → candidate.selected = false →
    candidate ∈ rest
  replaced_mem : ∀ candidate ∈ replacements,
    candidate ∈ current ∧ candidate.isReplaceable = true
  replaced_nodup : (replacements.map FusedCandidate.unitId).Nodup
  replaceable : ∀ candidate ∈ current, candidate.isReplaceable = true →
    candidate ∈ replacements

theorem Protecting.skip {candidate : FusedCandidate}
    (h : Protecting candidates chosen replacements (candidate :: rest) current)
    (hselected : candidate.selected = true) :
    Protecting candidates chosen replacements rest current where
  follows := h.follows
  nodup := h.nodup
  count := h.count
  rest_mem := fun other hother => h.rest_mem other (List.mem_cons_of_mem _ hother)
  rest_nodup := (List.nodup_cons.mp h.rest_nodup).2
  missing := by
    intro other hother hevidence hnot
    rcases List.mem_cons.mp (h.missing other hother hevidence hnot) with rfl | hrest
    · rw [hselected] at hnot
      cases hnot
    · exact hrest
  replaced_mem := h.replaced_mem
  replaced_nodup := h.replaced_nodup
  replaceable := h.replaceable

/-- The next evidence is selected. -/
theorem Protecting.choose {candidate : FusedCandidate}
    (h : Protecting candidates chosen replacements (candidate :: rest) current)
    (hselected : candidate.selected = false) :
    Protecting candidates (chosen + 1) replacements rest (put (candidate.mark true none) current) ∧
      (put (candidate.mark true none) current).countP FusedCandidate.selected =
        current.countP FusedCandidate.selected + 1 := by
  rcases h.rest_mem candidate List.mem_cons_self with ⟨hmem, hevidence⟩
  have hgrounded := isGrounded_of_hasEvidence hevidence
  have hput := fun other => @mem_put current candidate (candidate.mark true none) hmem rfl other
  have hcount (p : FusedCandidate → Bool) := countP_put p h.nodup hmem
    (show candidate.unitId = (candidate.mark true none).unitId from rfl)
  have hsame {other : FusedCandidate} (hother : other ∈ current)
      (hid : other.unitId = candidate.unitId) : other = candidate :=
    List.inj_on_of_nodup_map h.nodup hother hmem hid
  have hrest := h.rest_nodup
  rw [List.map_cons, List.nodup_cons] at hrest
  have hchosen := hcount FusedCandidate.isChosen
  have htotal := hcount FusedCandidate.selected
  have hevidence' : (candidate.mark true none).hasEvidence = true := hevidence
  simp only [FusedCandidate.isChosen, hselected, hevidence', FusedCandidate.mark_selected,
    Bool.false_and, Bool.and_self, Bool.false_eq_true, if_false, if_true] at hchosen htotal
  refine ⟨⟨?_, ?_, ?_, ?_, hrest.2, ?_, ?_, h.replaced_nodup, ?_⟩, htotal⟩
  · refine forall₂_put h.follows fun first found hfound hid hfollows => ?_
    rw [hsame hfound hid] at hfollows
    exact ⟨hfollows.unit, hfollows.rank, fun _ _ => rfl⟩
  · rw [ids_put]
    exact h.nodup
  · exact hchosen.trans (congrArg (· + 1) h.count)
  · intro other hother
    rcases h.rest_mem other (List.mem_cons_of_mem _ hother) with ⟨hfound, hothers⟩
    refine ⟨(hput other).mpr (.inr ⟨hfound, fun hid => ?_⟩), hothers⟩
    have hid : other.unitId = candidate.unitId := hid
    exact hrest.1 (hid ▸ List.mem_map_of_mem hother)
  · intro other hother hothers hnot
    rcases (hput other).mp hother with rfl | ⟨hfound, hne⟩
    · cases hnot
    · rcases List.mem_cons.mp (h.missing other hfound hothers hnot) with rfl | hmissing
      · exact absurd rfl hne
      · exact hmissing
  · intro other hother
    rcases h.replaced_mem other hother with ⟨hfound, hreplaceable⟩
    refine ⟨(hput other).mpr (.inr ⟨hfound, fun hid => ?_⟩), hreplaceable⟩
    have hplain := (isReplaceable_iff.mp hreplaceable).2.2
    rw [hsame hfound hid, hgrounded] at hplain
    cases hplain
  · intro other hother hreplaceable
    rcases (hput other).mp hother with rfl | ⟨hfound, _⟩
    · have hplain := (isReplaceable_iff.mp hreplaceable).2.2
      rw [FusedCandidate.mark_unit, hgrounded] at hplain
      cases hplain
    · exact h.replaceable other hfound hreplaceable

/-- The next replacement gives its place away. -/
theorem Protecting.giveUp {candidate : FusedCandidate} (reason : Option String)
    (h : Protecting candidates chosen (candidate :: replacements) rest current) :
    Protecting candidates chosen replacements rest (put (candidate.mark false reason) current) ∧
      (put (candidate.mark false reason) current).countP FusedCandidate.selected + 1 =
        current.countP FusedCandidate.selected := by
  rcases h.replaced_mem candidate List.mem_cons_self with ⟨hmem, hreplaceable⟩
  rcases isReplaceable_iff.mp hreplaceable with ⟨hselected, hoptional, hplain⟩
  have hput := fun other => @mem_put current candidate (candidate.mark false reason) hmem rfl other
  have hcount (p : FusedCandidate → Bool) := countP_put p h.nodup hmem
    (show candidate.unitId = (candidate.mark false reason).unitId from rfl)
  have hsame {other : FusedCandidate} (hother : other ∈ current)
      (hid : other.unitId = candidate.unitId) : other = candidate :=
    List.inj_on_of_nodup_map h.nodup hother hmem hid
  have hnoEvidence : candidate.hasEvidence = false := by
    unfold FusedCandidate.hasEvidence
    rw [hplain, Bool.false_and]
  have hothers := h.replaced_nodup
  rw [List.map_cons, List.nodup_cons] at hothers
  have hchosen := hcount FusedCandidate.isChosen
  have htotal := hcount FusedCandidate.selected
  simp only [FusedCandidate.isChosen, hselected, hnoEvidence, FusedCandidate.mark_selected,
    Bool.false_and, Bool.and_false, Bool.false_eq_true, if_false, if_true] at hchosen htotal
  refine ⟨⟨?_, ?_, hchosen.trans h.count, ?_, h.rest_nodup, ?_, ?_, hothers.2, ?_⟩, htotal⟩
  · refine forall₂_put h.follows fun first found hfound hid hfollows => ?_
    rw [hsame hfound hid] at hfollows
    refine ⟨hfollows.unit, hfollows.rank, fun _ hkeeps => ?_⟩
    rw [← hfollows.unit, hoptional, hplain] at hkeeps
    simp at hkeeps
  · rw [ids_put]
    exact h.nodup
  · intro other hother
    rcases h.rest_mem other hother with ⟨hfound, hevidence⟩
    refine ⟨(hput other).mpr (.inr ⟨hfound, fun hid => ?_⟩), hevidence⟩
    rw [hsame hfound hid, hnoEvidence] at hevidence
    cases hevidence
  · intro other hother hevidence hnot
    rcases (hput other).mp hother with rfl | ⟨hfound, _⟩
    · have hevidence : candidate.hasEvidence = true := hevidence
      rw [hnoEvidence] at hevidence
      cases hevidence
    · exact h.missing other hfound hevidence hnot
  · intro other hother
    rcases h.replaced_mem other (List.mem_cons_of_mem _ hother) with ⟨hfound, hreplace⟩
    refine ⟨(hput other).mpr (.inr ⟨hfound, fun hid => ?_⟩), hreplace⟩
    have hid : other.unitId = candidate.unitId := hid
    exact hothers.1 (hid ▸ List.mem_map_of_mem hother)
  · intro other hother hreplace
    rcases (hput other).mp hother with rfl | ⟨hfound, hne⟩
    · have hmarked := (isReplaceable_iff.mp hreplace).1
      cases hmarked
    · rcases List.mem_cons.mp (h.replaceable other hfound hreplace) with rfl | hmem
      · exact absurd rfl hne
      · exact hmem

/-- Where the pass ends: in place and within its bound, with the reserve reached, or all the
    evidence selected, or nothing left to replace. -/
theorem protectFrom_spec (reserve bound : Nat) : ∀ (rest replacements current : List FusedCandidate)
    (chosen slots : Nat), Protecting candidates chosen replacements rest current →
    current.countP FusedCandidate.selected + slots ≤ bound →
    let result := protectFrom reserve chosen slots replacements rest current
    List.Forall₂ Follows candidates result ∧
      result.countP FusedCandidate.selected ≤ bound ∧
      (reserve ≤ result.countP FusedCandidate.isChosen ∨
        (∀ candidate ∈ result, candidate.hasEvidence = true → candidate.selected = true) ∨
        ∀ candidate ∈ result, candidate.isReplaceable = false) := by
  intro rest
  induction rest with
  | nil =>
    intro replacements current chosen slots h hbound
    refine ⟨h.follows, by unfold protectFrom; omega, .inr (.inl fun candidate hmem hevidence => ?_)⟩
    by_contra hnot
    exact absurd (h.missing candidate hmem hevidence (Bool.eq_false_of_not_eq_true hnot))
      List.not_mem_nil
  | cons candidate rest ih =>
    intro replacements current chosen slots h hbound
    dsimp only
    rw [protectFrom.eq_def]
    dsimp only
    by_cases hreserve : reserve ≤ chosen
    · rw [if_pos hreserve]
      exact ⟨h.follows, by omega, .inl (hreserve.trans (le_of_eq h.count.symm))⟩
    · rw [if_neg hreserve]
      cases hselected : candidate.selected with
      | true => exact ih _ _ _ _ (h.skip hselected) hbound
      | false =>
        rw [if_neg Bool.false_ne_true]
        rcases h.choose hselected with ⟨hnext, htotal⟩
        by_cases hslots : 0 < slots
        · rw [if_pos hslots]
          exact ih _ _ _ _ hnext (by omega)
        · rw [if_neg hslots]
          cases replacements with
          | nil =>
            refine ⟨h.follows, by dsimp only; omega, .inr (.inr fun other hother => ?_)⟩
            by_contra hreplaceable
            exact absurd (h.replaceable other hother (Bool.eq_true_of_not_eq_false
              hreplaceable)) List.not_mem_nil
          | cons replacement others =>
            rcases hnext.giveUp (some "historical_evidence_reserve") with ⟨hlast, hback⟩
            exact ih _ _ _ _ hlast (by omega)

/-- What is selected and available after the protection. -/
structure Protects (intent : Stage1QueryIntent) (limit : Nat)
    (candidates result : List FusedCandidate) : Prop where
  follows : List.Forall₂ Follows candidates result
  bounded : result.countP FusedCandidate.selected ≤
    max limit (candidates.countP FusedCandidate.selected)
  reserved : min (historicalReserve intent limit) (candidates.countP FusedCandidate.hasEvidence) ≤
      result.countP FusedCandidate.isChosen ∨
    ∀ candidate ∈ result, candidate.isReplaceable = false

theorem follows_refl (candidates : List FusedCandidate) :
    List.Forall₂ Follows candidates candidates :=
  List.forall₂_same.mpr fun _ _ => ⟨rfl, rfl, fun h _ => h⟩

theorem countP_evidence {result : List FusedCandidate}
    (h : List.Forall₂ Follows candidates result) :
    result.countP FusedCandidate.hasEvidence = candidates.countP FusedCandidate.hasEvidence := by
  induction h with
  | nil => rfl
  | @cons candidate later _ _ hfirst _ ih =>
    have hevidence : later.hasEvidence = candidate.hasEvidence := by
      unfold FusedCandidate.hasEvidence
      rw [hfirst.unit]
    rw [List.countP_cons, List.countP_cons, ih, hevidence]

theorem protecting_init (hnodup : (candidates.map FusedCandidate.unitId).Nodup) :
    Protecting candidates
      ((candidates.filter FusedCandidate.hasEvidence).countP FusedCandidate.selected)
      ((candidates.filter FusedCandidate.isReplaceable).insertionSort ReplacedBefore)
      (candidates.filter FusedCandidate.hasEvidence) candidates where
  follows := follows_refl candidates
  nodup := hnodup
  count := by
    rw [List.countP_filter]
    rfl
  rest_mem := fun candidate hmem => List.mem_filter.mp hmem
  rest_nodup := hnodup.sublist (List.filter_sublist.map _)
  missing := fun candidate hmem hevidence _ => List.mem_filter.mpr ⟨hmem, hevidence⟩
  replaced_mem := fun candidate hmem => List.mem_filter.mp ((List.mem_insertionSort _).mp hmem)
  replaced_nodup := ((List.perm_insertionSort _ _).map _).nodup_iff.mpr
    (hnodup.sublist (List.filter_sublist.map _))
  replaceable := fun candidate hmem hreplaceable =>
    (List.mem_insertionSort _).mpr (List.mem_filter.mpr ⟨hmem, hreplaceable⟩)

theorem byUnitId_eq (hnodup : (candidates.map FusedCandidate.unitId).Nodup) :
    (candidates.map fun candidate => (candidates.findRev? fun other =>
      other.unitId = candidate.unitId).getD candidate) = candidates := by
  refine (List.map_congr_left fun candidate hmem => ?_).trans (List.map_id candidates)
  cases hfind : candidates.findRev? fun other => other.unitId = candidate.unitId with
  | none => rfl
  | some other =>
    rw [List.findRev?_eq_find?_reverse] at hfind
    have hother := List.mem_reverse.mp (List.mem_of_find?_eq_some hfind)
    have hunit := List.find?_some hfind
    exact List.inj_on_of_nodup_map hnodup hother hmem (of_decide_eq_true hunit)

theorem protect_spec (intent : Stage1QueryIntent) {limit : Nat} (hlimit : 1 ≤ limit)
    (hnodup : (candidates.map FusedCandidate.unitId).Nodup) :
    ∃ result, protectHistoricalEvidence intent candidates limit = .ok result ∧
      Protects intent limit candidates result := by
  unfold protectHistoricalEvidence
  by_cases hintent : intent ≠ .semanticHistory ∧ intent ≠ .relatedEvent
  · rw [if_pos hintent]
    refine ⟨candidates, rfl, follows_refl _, le_max_right _ _, .inl ?_⟩
    rw [historicalReserve, if_neg (by tauto)]
    omega
  · rw [if_neg hintent, if_neg (by omega)]
    have hreserve : historicalReserve intent limit = min 4 (max 1 (limit / 5)) := by
      rw [historicalReserve, if_pos (by tauto)]
    dsimp only
    by_cases hidle : candidates.filter FusedCandidate.hasEvidence = [] ∨ min 4 (max 1 (limit / 5)) ≤
        (candidates.filter FusedCandidate.hasEvidence).countP FusedCandidate.selected
    · rw [if_pos hidle]
      refine ⟨candidates, rfl, follows_refl _, le_max_right _ _, .inl ?_⟩
      rw [hreserve]
      rcases hidle with hnone | hreached
      · rw [List.countP_eq_length_filter, hnone, List.length_nil]
        omega
      · rw [(protecting_init hnodup).count]
        omega
    · rw [if_neg hidle, byUnitId_eq hnodup]
      rcases protectFrom_spec (min 4 (max 1 (limit / 5)))
        (max limit (candidates.countP FusedCandidate.selected)) _ _ _ _
        (limit - candidates.countP FusedCandidate.selected) (protecting_init hnodup) (by omega) with
        ⟨hfollows, hbound, hends⟩
      refine ⟨_, rfl, hfollows, hbound, ?_⟩
      rw [hreserve]
      rcases hends with hreached | hall | hnone
      · exact .inl (by omega)
      · refine .inl ((Nat.min_le_right _ _).trans (le_of_eq ?_))
        rw [← countP_evidence hfollows]
        refine List.countP_congr fun candidate hmem => ?_
        rw [FusedCandidate.isChosen, Bool.and_eq_true]
        exact ⟨fun hevidence => ⟨hall candidate hmem hevidence, hevidence⟩, fun h => h.2⟩
      · exact .inr hnone

end Protected

/-- A merge of two stages loses nothing and keeps the reserved share, and the protection of
    any candidates with distinct units keeps their places and restores the evidence. -/
theorem merged_stages (existing incoming : List FusedCandidate) (limit : Nat) (hlimit : 1 ≤ limit)
    (reserveIncoming : Bool) (intent : Stage1QueryIntent) :
    Merged existing incoming limit reserveIncoming
        (mergeCandidates existing incoming limit reserveIncoming) ∧
      ∀ candidates : List FusedCandidate, (candidates.map FusedCandidate.unitId).Nodup →
        ∃ result, protectHistoricalEvidence intent candidates limit = .ok result ∧
          Protects intent limit candidates result :=
  ⟨merge_spec existing incoming limit hlimit reserveIncoming,
    fun _ hnodup => protect_spec intent hlimit hnodup⟩

namespace Sample

def stagedEvidence : World.EvidenceRef where
  evidenceId := ⟨"e.1", .refl true⟩
  rootHash := digest "root"
  objectHash := digest "text"
  chapterId := none
  sceneId := none
  span := none
  quoteHash := none
  supportStatus := .current
  resolvedAtCommit := digest "commit"

def staged (unitId : StableId) (grounded : Bool) : FusedCandidate where
  unit := { foundUnit with
    unitId := unitId
    unitKind := if grounded then .groundedBlock else .factAnchor
    evidenceRefs := if grounded then [stagedEvidence] else [] }
  fusedRank := 1
  rrfScore := 1
  channelHits := []
  selected := true
  rejectionReason := none

/-- Two anchors and two passages on a page of two: with a reserved share the passages take the
    page, and without one the first passage is put in the place of an anchor. -/
theorem merged_stages_sample :
    let existing := [staged ⟨"anchor.1", by decide⟩ false, staged ⟨"anchor.2", by decide⟩ false]
    let incoming := [staged ⟨"passage.1", by decide⟩ true, staged ⟨"passage.2", by decide⟩ true]
    let shown := fun candidates : List FusedCandidate =>
      (candidates.filter FusedCandidate.selected).map fun candidate => candidate.unitId.root
    let reserved := mergeCandidates existing incoming 2 true
    let appended := mergeCandidates existing incoming 2 false
    shown reserved = ["passage.1", "passage.2"] ∧ Merged existing incoming 2 true reserved ∧
      shown appended = ["anchor.1", "anchor.2"] ∧
      ∃ result, protectHistoricalEvidence .semanticHistory appended 2 = .ok result ∧
        shown result = ["anchor.1", "passage.1"] ∧ Protects .semanticHistory 2 appended result := by
  intro existing incoming shown reserved appended
  have hstages := merged_stages existing incoming 2 (by decide) true .semanticHistory
  have happended := merged_stages existing incoming 2 (by decide) false .semanticHistory
  rcases hstages.2 appended happended.1.nodup with ⟨result, hresult, hprotects⟩
  have hshown : (protectHistoricalEvidence .semanticHistory appended 2).map shown =
      .ok ["anchor.1", "passage.1"] := by decide +kernel
  rw [hresult, Except.map, Except.ok.injEq] at hshown
  exact ⟨by decide +kernel, hstages.1, by decide +kernel, result, hresult, hshown, hprotects⟩

end Sample

end NovelAgent.Pipeline
