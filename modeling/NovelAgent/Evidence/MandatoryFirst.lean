import Mathlib.Algebra.Order.BigOperators.Group.List
import Mathlib.Algebra.Order.Ring.Nat
import NovelAgent.Evidence.ContextItems
import NovelAgent.Evidence.GapClosure
import NovelAgent.World.Verdict

/-!
# Mandatory Facets First

When the mandatory facets come first in what an assembly returns.
-/

namespace NovelAgent.Evidence

open Core Domain List

namespace Assembler

/-- The slices that a need is offered for facets: the best one for the first facet that
    is not served and has one, and then those for the facets behind it. -/
def offers (lane : NeedPlans) (served : StableId → Bool) : List StableId → List Plan
  | [] => []
  | facetId :: rest =>
    if served facetId then offers lane served rest
    else
      match servingPlan lane facetId with
      | none => offers lane served rest
      | some plan =>
        plan :: offers lane (fun other => served other || decide (other ∈ plan.facetIds)) rest

/-- The heads of the queues of slices, in the order of the needs. -/
def heads (queue : NeedPlans → List Plan) (order : List NeedPlans) : List (NeedPlans × Plan) :=
  order.filterMap fun lane => (queue lane).head?.map fun plan => (lane, plan)

/-- The heads of the queues, round by round. -/
def turnsOf (order : List NeedPlans) : Nat → (NeedPlans → List Plan) → List (NeedPlans × Plan)
  | 0, _ => []
  | rounds + 1, queue =>
    heads queue order ++ turnsOf order rounds fun lane => (queue lane).tail

/-- The slices that the first pass offers as long as all of them fit. -/
def schedule (lanes : List NeedPlans) : List (NeedPlans × Plan) :=
  turnsOf (needOrder lanes) (roundLimit lanes) fun lane =>
    offers lane (fun _ => false) lane.need.requiredFacetIds

variable (assembler : Assembler)

def placeAll (packing : Packing) (slices : List (NeedPlans × Plan)) : Except Packing Packing :=
  slices.foldlM (fun packing next => assembler.place packing next.1.need next.2) packing

variable {served : StableId → Bool} {facets : List StableId} {queue : NeedPlans → List Plan}

section Queues

variable {assembler} {packing : Packing} {lane other : NeedPlans} {plan : Plan}

/-- The slices that a need is still offered. -/
def queueOf (packing : Packing) (lane : NeedPlans) : List Plan :=
  offers lane (packing.serves lane.need.needId) lane.need.requiredFacetIds

theorem nextPlan_eq (packing : Packing) (lane : NeedPlans) :
    nextPlan packing lane = (queueOf packing lane).head? := by
  unfold nextPlan queueOf
  induction lane.need.requiredFacetIds with
  | nil => rfl
  | cons facetId rest ih =>
    rw [offers]
    by_cases hserved : packing.serves lane.need.needId facetId = true
    · rw [if_pos hserved, List.find?_cons_of_neg (by simp [hserved])]
      exact ih
    · rw [if_neg hserved]
      cases hplan : servingPlan lane facetId with
      | none => rw [List.find?_cons_of_neg (by simp [hplan])]; exact ih
      | some plan => rw [List.find?_cons_of_pos (by simp [hplan, hserved])]; exact hplan

theorem tail_offers (h : (offers lane served facets).head? = some plan) :
    (offers lane served facets).tail =
      offers lane (fun other => served other || decide (other ∈ plan.facetIds)) facets := by
  induction facets with
  | nil => exact absurd h nofun
  | cons facetId rest ih =>
    rw [offers] at h ⊢
    rw [offers]
    by_cases hserved : served facetId = true
    · rw [if_pos hserved] at h ⊢
      rw [if_pos (by rw [hserved]; rfl)]
      exact ih h
    · rw [if_neg hserved] at h ⊢
      cases hplan : servingPlan lane facetId with
      | none =>
        rw [hplan] at h
        rw [ih h]
        split_ifs
        · rfl
        · rfl
      | some first =>
        rw [hplan] at h
        obtain rfl : first = plan := Option.some.inj h
        have hserves := List.find?_some hplan
        rw [if_pos (by rw [hserves, Bool.or_true])]
        rfl

theorem serves_added (facetId : StableId) :
    (assembler.added packing lane.need plan).serves other.need.needId facetId =
      (packing.serves other.need.needId facetId ||
        (lane.need.needId = other.need.needId && decide (facetId ∈ plan.facetIds))) := by
  simp [added, Packing.serves, any_append]

theorem queueOf_added (h : (queueOf packing lane).head? = some plan) :
    queueOf (assembler.added packing lane.need plan) lane = (queueOf packing lane).tail := by
  unfold queueOf at h ⊢
  rw [tail_offers h]
  congr 1
  funext facetId
  rw [serves_added, decide_eq_true rfl, Bool.true_and]

theorem queueOf_added_ne (h : lane.need.needId ≠ other.need.needId) :
    queueOf (assembler.added packing lane.need plan) other = queueOf packing other := by
  unfold queueOf
  congr 1
  funext facetId
  rw [serves_added, decide_eq_false h, Bool.false_and, Bool.or_false]

theorem offer_eq (packing : Packing) (lane : NeedPlans) : assembler.offer packing lane =
    assembler.placeAll packing (heads (queueOf packing) [lane]) := by
  unfold offer heads placeAll
  rw [nextPlan_eq, filterMap_cons, filterMap_nil]
  cases (queueOf packing lane).head? with
  | none => rfl
  | some plan =>
    rw [Option.map_some, foldlM_cons]
    exact (bind_pure _).symm

theorem place_eq_ok {next : Packing} (h : assembler.place packing lane.need plan = .ok next) :
    assembler.Fits packing lane.need plan.entryId ∧
      next = assembler.added packing lane.need plan := by
  unfold place at h
  split_ifs at h with hfits
  exact ⟨hfits, (Except.ok.inj h).symm⟩

theorem offer_queues {next : Packing} (h : assembler.offer packing lane = .ok next) :
    queueOf next lane = (queueOf packing lane).tail ∧
      ∀ other : NeedPlans, lane.need.needId ≠ other.need.needId →
        queueOf next other = queueOf packing other := by
  unfold offer at h
  rw [nextPlan_eq] at h
  cases hhead : (queueOf packing lane).head? with
  | none =>
    rw [hhead] at h
    obtain rfl := Except.ok.inj h
    rw [List.head?_eq_none_iff.mp hhead]
    exact ⟨rfl, fun _ _ => rfl⟩
  | some plan =>
    rw [hhead] at h
    rw [(place_eq_ok h).2]
    exact ⟨queueOf_added hhead, fun _ => queueOf_added_ne⟩

theorem placeAll_append (packing : Packing) (before after : List (NeedPlans × Plan)) :
    assembler.placeAll packing (before ++ after) =
      assembler.placeAll packing before >>= fun next => assembler.placeAll next after :=
  foldlM_append

/-- A round offers the heads of the queues, takes them off, and leaves the queues of other
    needs alone, by induction on the needs that still have their turn. -/
theorem round_eq {order : List NeedPlans}
    (hnodup : (order.map fun lane => lane.need.needId).Nodup) :
    ∀ {packing : Packing}, (∀ lane ∈ order, queueOf packing lane = queue lane) →
      order.foldlM assembler.offer packing = assembler.placeAll packing (heads queue order) ∧
        ∀ next, order.foldlM assembler.offer packing = .ok next →
          (∀ lane ∈ order, queueOf next lane = (queue lane).tail) ∧
            ∀ other : NeedPlans, other.need.needId ∉ order.map (fun lane => lane.need.needId) →
              queueOf next other = queueOf packing other := by
  induction order with
  | nil =>
    intro packing _
    refine ⟨rfl, fun next hnext => ⟨fun _ hmem => absurd hmem not_mem_nil, fun other _ => ?_⟩⟩
    rw [foldlM_nil, Outcome.pure_eq_ok] at hnext
    rw [hnext]
  | cons lane order ih =>
    intro packing hqueue
    rw [map_cons, nodup_cons] at hnodup
    rw [forall_mem_cons] at hqueue
    have hheads : heads queue (lane :: order) =
        heads (queueOf packing) [lane] ++ heads queue order := by
      unfold heads
      rw [filterMap_cons, filterMap_cons, hqueue.1]
      cases (queue lane).head? with
      | none => rfl
      | some plan => rfl
    rw [hheads, placeAll_append, ← offer_eq, foldlM_cons]
    cases hoffer : assembler.offer packing lane with
    | error stopped =>
      simp only [bind, Except.bind, reduceCtorEq, false_implies, implies_true, and_self]
    | ok next =>
      have hqueues := offer_queues hoffer
      have hne : ∀ other ∈ order, lane.need.needId ≠ other.need.needId := fun other hmem heq =>
        hnodup.1 (heq ▸ mem_map_of_mem hmem)
      rcases @ih hnodup.2 next fun other hmem =>
        (hqueues.2 other (hne other hmem)).trans (hqueue.2 other hmem) with ⟨heq, hrest⟩
      refine ⟨heq, fun last hlast => ⟨forall_mem_cons.mpr ⟨?_, (hrest last hlast).1⟩, ?_⟩⟩
      · rw [(hrest last hlast).2 lane hnodup.1, hqueues.1, hqueue.1]
      · intro other hother
        rw [map_cons, mem_cons, not_or] at hother
        rw [(hrest last hlast).2 other hother.2, hqueues.2 other (Ne.symm hother.1)]

theorem turnsOf_nil {order : List NeedPlans} (rounds : Nat) :
    (∀ lane ∈ order, queue lane = []) → turnsOf order rounds queue = [] := by
  induction rounds generalizing queue with
  | zero => exact fun _ => rfl
  | succ rounds ih =>
    intro h
    rw [turnsOf, ih fun lane hmem => by rw [h lane hmem]; rfl, append_nil, heads,
      filterMap_eq_nil_iff]
    intro lane hmem
    rw [h lane hmem]
    rfl

/-- The pass follows the offers. -/
theorem roundRobin_eq {order : List NeedPlans}
    (hnodup : (order.map fun lane => lane.need.needId).Nodup) (rounds : Nat) :
    ∀ {packing : Packing} {queue : NeedPlans → List Plan},
      (∀ lane ∈ order, queueOf packing lane = queue lane) →
      assembler.roundRobin order rounds packing =
          assembler.placeAll packing (turnsOf order rounds queue) ∧
        ∀ next, assembler.roundRobin order rounds packing = .ok next →
          ∀ lane ∈ order, queueOf next lane = (queue lane).drop rounds := by
  induction rounds with
  | zero =>
    intro packing queue hqueue
    refine ⟨rfl, fun next hnext lane hmem => ?_⟩
    rw [← Except.ok.inj hnext]
    exact hqueue lane hmem
  | succ rounds ih =>
    intro packing queue hqueue
    rw [roundRobin]
    split_ifs with hidle
    · have hempty : ∀ lane ∈ order, queue lane = [] := by
        intro lane hmem
        have hnone := all_eq_true.mp hidle lane hmem
        rw [nextPlan_eq, Option.isNone_iff_eq_none, List.head?_eq_none_iff] at hnone
        rw [← hqueue lane hmem, hnone]
      rw [turnsOf_nil _ hempty]
      refine ⟨rfl, fun next hnext lane hmem => ?_⟩
      rw [← Except.ok.inj hnext, hqueue lane hmem, hempty lane hmem, drop_nil]
    · rcases @round_eq assembler _ _ hnodup _ hqueue with ⟨hround, hqueues⟩
      rw [turnsOf, placeAll_append, ← hround]
      cases hfold : order.foldlM assembler.offer packing with
      | error stopped =>
        simp only [bind, Except.bind, reduceCtorEq, false_implies, implies_true, and_self]
      | ok next =>
        rcases @ih next (fun lane => (queue lane).tail) (hqueues next hfold).1 with ⟨heq, hlast⟩
        refine ⟨heq, fun last h lane hmem => ?_⟩
        rw [hlast last h lane hmem, drop_tail]

end Queues

section Ends

variable {assembler} {packing stopped : Packing} {lane : NeedPlans} {lanes order : List NeedPlans}

theorem length_offers_le (served : StableId → Bool) (facets : List StableId) :
    (offers lane served facets).length ≤ facets.length := by
  induction facets generalizing served with
  | nil => exact Nat.le_refl 0
  | cons facetId rest ih =>
    rw [offers]
    split_ifs
    · exact Nat.le_succ_of_le (ih served)
    · cases servingPlan lane facetId with
      | none => exact Nat.le_succ_of_le (ih served)
      | some plan => exact Nat.succ_le_succ (ih _)

theorem served_of_offers_nil (h : offers lane served facets = []) :
    ∀ facetId ∈ facets, ∀ plan, servingPlan lane facetId = some plan → served facetId = true := by
  induction facets with
  | nil => exact fun _ hmem => absurd hmem not_mem_nil
  | cons first rest ih =>
    rw [offers] at h
    by_cases hserved : served first = true
    · rw [if_pos hserved] at h
      exact forall_mem_cons.mpr ⟨fun _ _ => hserved, ih h⟩
    · rw [if_neg hserved] at h
      cases hplan : servingPlan lane first with
      | none =>
        rw [hplan] at h
        exact forall_mem_cons.mpr ⟨fun _ hsome => absurd (hplan ▸ hsome) nofun, ih h⟩
      | some plan =>
        rw [hplan] at h
        exact absurd h (cons_ne_nil _ _)

theorem needOrder_nodup (hnodup : (lanes.map fun lane => lane.need.needId).Nodup) :
    ((needOrder lanes).map fun lane => lane.need.needId).Nodup :=
  ((perm_insertionSort _ lanes).map _).nodup_iff.mpr hnodup

theorem mem_needOrder : lane ∈ needOrder lanes ↔ lane ∈ lanes := mem_insertionSort _

theorem firstPass_eq (hnodup : (lanes.map fun lane => lane.need.needId).Nodup) :
    assembler.roundRobin (needOrder lanes) (roundLimit lanes) nothing =
      assembler.placeAll nothing (schedule lanes) :=
  (roundRobin_eq (needOrder_nodup hnodup) _ fun _ _ => rfl).1

/-- A schedule that is followed to its end serves what can be served. -/
theorem served_of_complete (hnodup : (lanes.map fun lane => lane.need.needId).Nodup)
    (h : assembler.placeAll nothing (schedule lanes) = .ok packing) (hmem : lane ∈ lanes) :
    ∀ facetId ∈ lane.need.requiredFacetIds, ∀ plan, servingPlan lane facetId = some plan →
      packing.serves lane.need.needId facetId = true := by
  refine served_of_offers_nil ?_
  rw [← firstPass_eq hnodup] at h
  have hqueue := (roundRobin_eq (needOrder_nodup hnodup) _ fun _ _ => rfl).2 packing h lane
    (mem_needOrder.mpr hmem)
  refine hqueue.trans (drop_eq_nil_of_le ((length_offers_le _ _).trans ?_))
  exact le_sum_of_mem (mem_map_of_mem hmem)

theorem placeAll_error {slices : List (NeedPlans × Plan)} :
    ∀ {packing : Packing}, assembler.placeAll packing slices = .error stopped ↔
      ∃ before next after, slices = before ++ next :: after ∧
        assembler.placeAll packing before = .ok stopped ∧
        ¬ assembler.Fits stopped next.1.need next.2.entryId := by
  induction slices with
  | nil => simp [placeAll, pure, Except.pure]
  | cons first slices ih =>
    intro packing
    have hcons : ∀ rest, assembler.placeAll packing (first :: rest) =
        assembler.place packing first.1.need first.2 >>= fun next =>
          assembler.placeAll next rest := fun rest => foldlM_cons
    rw [hcons, Outcome.bind_eq_error]
    by_cases hfits : assembler.Fits packing first.1.need first.2.entryId
    · have hplace : assembler.place packing first.1.need first.2 =
          .ok (assembler.added packing first.1.need first.2) := if_pos hfits
      simp only [hplace, reduceCtorEq, false_or, Except.ok.injEq, exists_eq_left', ih]
      constructor
      · rintro ⟨before, next, after, rfl, hbefore, hnot⟩
        exact ⟨first :: before, next, after, rfl, by rw [hcons, hplace]; exact hbefore, hnot⟩
      · rintro ⟨before, next, after, hslices, hbefore, hnot⟩
        cases before with
        | nil =>
          obtain ⟨rfl, rfl⟩ := List.cons.inj hslices
          obtain rfl := Except.ok.inj hbefore
          exact absurd hfits hnot
        | cons head before =>
          obtain ⟨rfl, rfl⟩ := List.cons.inj hslices
          rw [hcons, hplace] at hbefore
          exact ⟨before, next, after, rfl, hbefore, hnot⟩
    · have hplace : assembler.place packing first.1.need first.2 = .error packing := if_neg hfits
      simp only [hplace, Except.error.injEq, reduceCtorEq, false_and, exists_false, or_false]
      constructor
      · rintro rfl
        exact ⟨[], first, slices, rfl, rfl, hfits⟩
      · rintro ⟨before, next, after, hslices, hbefore, hnot⟩
        cases before with
        | nil => exact Except.ok.inj hbefore
        | cons head before =>
          obtain ⟨rfl, rfl⟩ := List.cons.inj hslices
          rw [hcons, hplace] at hbefore
          exact absurd hbefore nofun

theorem placeAll_packed {slices : List (NeedPlans × Plan)} {next : Packing} :
    ∀ {packing : Packing}, assembler.placeAll packing slices = .ok next →
      next.packed = packing.packed ++ slices.map fun slice => (slice.1.need.needId, slice.2) := by
  induction slices with
  | nil =>
    intro packing h
    obtain rfl := Except.ok.inj h
    rw [map_nil, append_nil]
  | cons first slices ih =>
    intro packing h
    rcases (Outcome.bind_eq_ok _ _ _).mp h with ⟨middle, hfirst, hrest⟩
    rw [ih hrest, (place_eq_ok hfirst).2, added, map_cons, append_assoc]
    rfl

end Ends

/-- The slices whose entries are not packed yet, one for each entry. -/
def leftOver (packed : List StableId) : List Plan → List Plan
  | [] => []
  | plan :: rest =>
    if plan.entryId ∈ packed then leftOver packed rest
    else plan :: leftOver (packed ++ [plan.entryId]) rest

def entriesIn (slices : List (NeedPlans × Plan)) (lane : NeedPlans) : List StableId :=
  (slices.filter fun slice => slice.1.need.needId = lane.need.needId).map fun slice =>
    slice.2.entryId

/-- The slices that the second pass offers to a need as long as all of them fit. -/
def leftOf (packed : NeedPlans → List StableId) (lane : NeedPlans) : List (NeedPlans × Plan) :=
  (leftOver (packed lane) lane.plans).map fun plan => (lane, plan)

/-- All slices that are offered as long as they fit. -/
def offered (lanes : List NeedPlans) : List (NeedPlans × Plan) :=
  schedule lanes ++ (needOrder lanes).flatMap (leftOf (entriesIn (schedule lanes)))

/-- The slices before the first one that does not fit, and what is packed by then. -/
structure Cut (slices before : List (NeedPlans × Plan)) (packing : Packing) : Prop where
  split : ∃ after, slices = before ++ after ∧
    ∀ next ∈ after.head?, ¬ assembler.Fits packing next.1.need next.2.entryId
  placed : assembler.placeAll nothing before = .ok packing

/-- What a pass leads to, whether it was stopped or not. -/
def outcome : Except Packing Packing → Packing
  | .ok packing => packing
  | .error packing => packing

variable {packed : NeedPlans → List StableId}

section Passes

variable {assembler} {packing next : Packing} {lane other : NeedPlans} {plan : Plan}
  {lanes order : List NeedPlans} {slices before : List (NeedPlans × Plan)}

variable {plans : List Plan}

theorem leftOver_subset {packed : List StableId} : leftOver packed plans ⊆ plans := by
  induction plans generalizing packed with
  | nil => exact List.Subset.refl []
  | cons first rest ih =>
    rw [leftOver]
    split_ifs
    · exact subset_cons_of_subset first ih
    · exact cons_subset_cons first ih

theorem placeAll_entries (h : assembler.placeAll packing slices = .ok next) :
    next.entries lane.need.needId = packing.entries lane.need.needId ++ entriesIn slices lane := by
  unfold Packing.entries entriesIn
  rw [placeAll_packed h, filter_append, map_append, filter_map, map_map]
  rfl

theorem remaining_eq :
    ∀ {packing : Packing}, plans.foldlM (fun packing plan =>
        if plan.entryId ∈ packing.entries lane.need.needId then .ok packing
        else assembler.place packing lane.need plan) packing =
      assembler.placeAll packing
        ((leftOver (packing.entries lane.need.needId) plans).map fun plan => (lane, plan)) := by
  induction plans with
  | nil => exact rfl
  | cons plan plans ih =>
    intro packing
    rw [foldlM_cons, leftOver]
    split_ifs with hpacked
    · exact ih
    · rw [map_cons, placeAll, foldlM_cons]
      cases hplace : assembler.place packing lane.need plan with
      | error stopped => rfl
      | ok next =>
        have hentries : next.entries lane.need.needId =
            packing.entries lane.need.needId ++ [plan.entryId] := by
          rw [(place_eq_ok hplace).2, Packing.entries, added, filter_append,
            map_append]
          simp [Packing.entries]
        rw [← hentries]
        exact ih

theorem entriesIn_leftOf (h : lane.need.needId ≠ other.need.needId) :
    entriesIn (leftOf packed lane) other = [] := by
  unfold entriesIn leftOf
  rw [map_eq_nil_iff, filter_eq_nil_iff]
  intro slice hmem
  obtain ⟨plan, -, rfl⟩ := mem_map.mp hmem
  simpa using h

theorem secondPass_eq (hnodup : (order.map fun lane => lane.need.needId).Nodup) :
    ∀ {packing : Packing}, (∀ lane ∈ order, packing.entries lane.need.needId = packed lane) →
      order.foldlM assembler.remaining packing =
        assembler.placeAll packing (order.flatMap (leftOf packed)) := by
  induction order with
  | nil => exact fun _ => rfl
  | cons lane order ih =>
    intro packing hentries
    rw [map_cons, nodup_cons] at hnodup
    rw [forall_mem_cons] at hentries
    have hfirst : assembler.remaining packing lane =
        assembler.placeAll packing (leftOf packed lane) := by
      rw [leftOf, ← hentries.1]
      exact remaining_eq
    rw [foldlM_cons, flatMap_cons, placeAll_append, hfirst]
    cases hplaced : assembler.placeAll packing (leftOf packed lane) with
    | error stopped => rfl
    | ok next =>
      refine ih hnodup.2 fun other hmem => ?_
      have hne : lane.need.needId ≠ other.need.needId := fun heq =>
        hnodup.1 (heq ▸ mem_map_of_mem hmem)
      rw [placeAll_entries hplaced, entriesIn_leftOf hne, append_nil]
      exact hentries.2 other hmem

/-- So do the two passes. -/
theorem pack_eq (hnodup : (lanes.map fun lane => lane.need.needId).Nodup) :
    assembler.pack lanes = outcome (assembler.placeAll nothing (offered lanes)) := by
  have hpasses : assembler.passes lanes = assembler.placeAll nothing (offered lanes) := by
    rw [passes, firstPass_eq hnodup, offered, placeAll_append]
    cases hplaced : assembler.placeAll nothing (schedule lanes) with
    | error stopped => rfl
    | ok packing =>
      refine secondPass_eq (needOrder_nodup hnodup) fun lane _ => ?_
      rw [placeAll_entries hplaced]
      rfl
  unfold pack
  rw [hpasses]
  cases assembler.placeAll nothing (offered lanes) with
  | error stopped => rfl
  | ok packing => rfl

theorem outcome_of_cut (h : assembler.Cut slices before packing) :
    outcome (assembler.placeAll nothing slices) = packing := by
  rcases h.split with ⟨after, rfl, hnext⟩
  cases after with
  | nil => rw [append_nil, h.placed]; rfl
  | cons next after =>
    rw [placeAll_error.mpr ⟨before, next, after, rfl, h.placed, hnext next rfl⟩]
    rfl

theorem cut_of_placed (h : assembler.placeAll nothing slices = .ok packing) :
    assembler.Cut slices slices packing := by
  refine ⟨⟨[], (append_nil _).symm, fun _ hhead => ?_⟩, h⟩
  exact absurd hhead nofun

theorem cut_exists (slices : List (NeedPlans × Plan)) :
    ∃ before packing, assembler.Cut slices before packing := by
  cases hplaced : assembler.placeAll nothing slices with
  | ok packing => exact ⟨slices, packing, cut_of_placed hplaced⟩
  | error stopped =>
    rcases placeAll_error.mp hplaced with ⟨before, next, after, rfl, hbefore, hnot⟩
    refine ⟨before, stopped, ⟨next :: after, rfl, fun _ hhead => ?_⟩, hbefore⟩
    rwa [← Option.some.inj hhead]

theorem Cut.of_append {first second : List (NeedPlans × Plan)}
    (h : assembler.Cut (first ++ second) before packing) (hlength : before.length ≤ first.length) :
    assembler.Cut first before packing := by
  rcases h.split with ⟨after, heq, hnext⟩
  have hprefix : before <+: first :=
    prefix_of_prefix_length_le ⟨after, heq.symm⟩ (prefix_append _ _) hlength
  rcases hprefix with ⟨rest, rfl⟩
  refine ⟨⟨rest, rfl, fun next hhead => hnext next ?_⟩, h.placed⟩
  rw [append_assoc] at heq
  rw [← append_cancel_left heq, List.head?_append, hhead]
  rfl

end Passes

def pairs (slices : List (NeedPlans × Plan)) : List (StableId × Plan) :=
  slices.map fun slice => (slice.1.need.needId, slice.2)

def entriesOf (packed : List (StableId × Plan)) (needId : StableId) : List StableId :=
  (packed.filter fun entry => entry.1 = needId).map fun entry => entry.2.entryId

/-- What the items of the needs take in all. -/
def writerTokens (lanes : List NeedPlans) (packed : List (StableId × Plan)) : Int :=
  (lanes.map fun lane =>
    if entriesOf packed lane.need.needId = [] then 0
    else assembler.itemTokens lane.need (entriesOf packed lane.need.needId)).sum

def spanOf (entryId : StableId) : Option (ArtifactId × Nat × Nat) :=
  (assembler.entryOf entryId).map fun entry => entry.slice.spanKey

/-- What the texts take in all, each span once. -/
def ledgerTokens (seen : List (Option (ArtifactId × Nat × Nat))) : List (StableId × Plan) → Int
  | [] => 0
  | entry :: rest =>
    (if assembler.spanOf entry.2.entryId ∈ seen then 0
      else assembler.count (assembler.textOf entry.2.entryId)) +
      ledgerTokens (seen ++ [assembler.spanOf entry.2.entryId]) rest

/-- What a list of slices takes. -/
def totals (lanes : List NeedPlans) (packed : List (StableId × Plan)) : Packing where
  packed := packed
  usedWriterTokens := assembler.writerTokens lanes packed
  usedLedgerTokens := assembler.ledgerTokens [] packed

/-- The totals are within the budgets. -/
def Affordable (lanes : List NeedPlans) (packed : List (StableId × Plan)) : Prop :=
  assembler.writerTokens lanes packed ≤ assembler.writerBudget ∧
    assembler.ledgerTokens [] packed ≤ assembler.ledgerBudget

instance (lanes : List NeedPlans) (packed : List (StableId × Plan)) :
    Decidable (assembler.Affordable lanes packed) :=
  inferInstanceAs (Decidable (_ ∧ _))

section Totals

variable {assembler} {lanes : List NeedPlans} {lane : NeedPlans} {plan : Plan}
  {packed : List (StableId × Plan)}

theorem writerTokens_nil : assembler.writerTokens lanes [] = 0 := by
  unfold writerTokens
  induction lanes with
  | nil => rfl
  | cons lane lanes ih =>
    rw [map_cons, sum_cons, ih]
    rfl

theorem entriesOf_append (rest : List (StableId × Plan)) (needId : StableId) :
    entriesOf (packed ++ rest) needId = entriesOf packed needId ++ entriesOf rest needId := by
  unfold entriesOf
  rw [filter_append, map_append]

theorem entriesOf_self : entriesOf [(lane.need.needId, plan)] lane.need.needId =
    [plan.entryId] := by
  simp [entriesOf]

theorem entriesOf_ne {needId : StableId} (h : lane.need.needId ≠ needId) :
    entriesOf [(lane.need.needId, plan)] needId = [] := by
  simp [entriesOf, h]

theorem writerTokens_of_not_mem
    (h : lane.need.needId ∉ lanes.map fun lane => lane.need.needId) :
    assembler.writerTokens lanes (packed ++ [(lane.need.needId, plan)]) =
      assembler.writerTokens lanes packed := by
  unfold writerTokens
  refine congrArg List.sum (map_congr_left fun other hmem => ?_)
  rw [entriesOf_append, entriesOf_ne fun heq => h (heq ▸ mem_map_of_mem hmem),
    append_nil]

/-- One more slice changes the item of its need and no other. -/
theorem writerTokens_append (hnodup : (lanes.map fun lane => lane.need.needId).Nodup)
    (hmem : lane ∈ lanes) :
    assembler.writerTokens lanes (packed ++ [(lane.need.needId, plan)]) =
      assembler.writerTokens lanes packed +
        assembler.writerCost (assembler.totals lanes packed) lane.need plan.entryId := by
  have hcost : ∀ all, assembler.writerCost (assembler.totals all packed) lane.need plan.entryId =
      assembler.itemTokens lane.need (entriesOf packed lane.need.needId ++ [plan.entryId]) -
        if entriesOf packed lane.need.needId = [] then 0
        else assembler.itemTokens lane.need (entriesOf packed lane.need.needId) := fun _ => rfl
  rw [hcost]
  induction lanes with
  | nil => exact absurd hmem not_mem_nil
  | cons first lanes ih =>
    rw [map_cons, nodup_cons] at hnodup
    have hcons : ∀ packed, assembler.writerTokens (first :: lanes) packed =
        (if entriesOf packed first.need.needId = [] then 0
          else assembler.itemTokens first.need (entriesOf packed first.need.needId)) +
        assembler.writerTokens lanes packed := fun _ => by
      unfold writerTokens
      rw [map_cons, sum_cons]
    rw [hcons, hcons]
    rcases mem_cons.mp hmem with rfl | hrest
    · rw [writerTokens_of_not_mem hnodup.1, entriesOf_append, entriesOf_self,
        if_neg (by simp)]
      ring
    · have hne : lane.need.needId ≠ first.need.needId := fun heq =>
        hnodup.1 (heq ▸ mem_map_of_mem hrest)
      rw [ih hnodup.2 hrest, entriesOf_append, entriesOf_ne hne, append_nil]
      ring

@[simp] theorem ledgerTokens_nil (seen : List (Option (ArtifactId × Nat × Nat))) :
    assembler.ledgerTokens seen [] = 0 := rfl

theorem ledgerTokens_cons (seen : List (Option (ArtifactId × Nat × Nat)))
    (entry : StableId × Plan) (rest : List (StableId × Plan)) :
    assembler.ledgerTokens seen (entry :: rest) =
      (if assembler.spanOf entry.2.entryId ∈ seen then 0
        else assembler.count (assembler.textOf entry.2.entryId)) +
        assembler.ledgerTokens (seen ++ [assembler.spanOf entry.2.entryId]) rest := rfl

theorem ledgerTokens_append (rest : List (StableId × Plan)) :
    ∀ seen, assembler.ledgerTokens seen (packed ++ rest) = assembler.ledgerTokens seen packed +
      assembler.ledgerTokens (seen ++ packed.map fun entry => assembler.spanOf entry.2.entryId)
        rest := by
  induction packed with
  | nil => simp
  | cons entry packed ih =>
    intro seen
    rw [cons_append, ledgerTokens_cons, ledgerTokens_cons, ih, map_cons, append_assoc,
      singleton_append]
    ring

theorem added_totals (hnodup : (lanes.map fun lane => lane.need.needId).Nodup)
    (hmem : lane ∈ lanes) : assembler.added (assembler.totals lanes packed) lane.need plan =
      assembler.totals lanes (packed ++ [(lane.need.needId, plan)]) := by
  have hledger : assembler.ledgerTokens [] (packed ++ [(lane.need.needId, plan)]) =
      assembler.ledgerTokens [] packed +
        assembler.newLedgerTokens (assembler.totals lanes packed) plan.entryId := by
    rw [ledgerTokens_append, nil_append, ledgerTokens_cons, ledgerTokens_nil, add_zero]
    rfl
  unfold added
  rw [totals, totals, writerTokens_append hnodup hmem, hledger]
  rfl

theorem fits_totals (hnodup : (lanes.map fun lane => lane.need.needId).Nodup)
    (hmem : lane ∈ lanes) :
    assembler.Fits (assembler.totals lanes packed) lane.need plan.entryId ↔
      assembler.Affordable lanes (packed ++ [(lane.need.needId, plan)]) := by
  have hadded : assembler.added (assembler.totals lanes packed) lane.need plan = _ :=
    added_totals hnodup hmem
  have hwriter := congrArg Packing.usedWriterTokens hadded
  have hledger := congrArg Packing.usedLedgerTokens hadded
  change _ = assembler.writerTokens lanes _ at hwriter
  change _ = assembler.ledgerTokens [] _ at hledger
  unfold Affordable
  rw [← hwriter, ← hledger]
  rfl

theorem nothing_eq : nothing = assembler.totals lanes [] := by
  rw [totals, writerTokens_nil]
  rfl

/-- Slices are packed as long as the totals allow, by induction on the slices. -/
theorem placeAll_totals (hnodup : (lanes.map fun lane => lane.need.needId).Nodup)
    {slices : List (NeedPlans × Plan)} : ∀ {packed : List (StableId × Plan)} {next : Packing},
      (∀ slice ∈ slices, slice.1 ∈ lanes) →
      (assembler.placeAll (assembler.totals lanes packed) slices = .ok next ↔
        next = assembler.totals lanes (packed ++ pairs slices) ∧
          ∀ front back, slices = front ++ back → front ≠ [] →
            assembler.Affordable lanes (packed ++ pairs front)) := by
  induction slices with
  | nil =>
    intro packed next _
    have hnil : packed ++ pairs [] = packed := append_nil packed
    rw [hnil]
    constructor
    · intro h
      refine ⟨(Except.ok.inj h).symm, fun front back hsplit hne => ?_⟩
      exact absurd (append_eq_nil_iff.mp hsplit.symm).1 hne
    · rintro ⟨rfl, _⟩
      rfl
  | cons slice slices ih =>
    intro packed next hlanes
    rw [forall_mem_cons] at hlanes
    have hsplit : ∀ front, packed ++ pairs (slice :: front) =
        packed ++ [(slice.1.need.needId, slice.2)] ++ pairs front := fun front => by
      rw [append_assoc]
      rfl
    rw [hsplit, placeAll, foldlM_cons, Outcome.bind_eq_ok]
    have hfits : assembler.Fits (assembler.totals lanes packed) slice.1.need slice.2.entryId ↔ _ :=
      fits_totals hnodup hlanes.1
    constructor
    · rintro ⟨middle, hfirst, hrest⟩
      have hplaced := place_eq_ok hfirst
      rw [hplaced.2, added_totals hnodup hlanes.1] at hrest
      rcases (ih hlanes.2).mp hrest with ⟨hnext, hwithin⟩
      refine ⟨hnext, fun front back heq hne => ?_⟩
      cases front with
      | nil => exact absurd rfl hne
      | cons first front =>
        obtain ⟨rfl, rfl⟩ := List.cons.inj heq
        rw [hsplit]
        by_cases hnil : front = []
        · rw [hnil]
          exact (append_nil _).symm ▸ hfits.mp hplaced.1
        · exact hwithin front back rfl hnil
    · rintro ⟨hnext, hwithin⟩
      have hfirst : assembler.Fits (assembler.totals lanes packed) slice.1.need slice.2.entryId :=
        hfits.mpr (hwithin [slice] slices rfl (cons_ne_nil _ _))
      refine ⟨_, if_pos hfirst, ?_⟩
      rw [added_totals hnodup hlanes.1]
      refine (ih hlanes.2).mpr ⟨hnext, fun front back heq hne => ?_⟩
      rw [← hsplit]
      exact hwithin (slice :: front) back (by rw [heq]; rfl) (cons_ne_nil _ _)

end Totals

/-- A slice serves a required facet that the slices before it do not. -/
def NewFacet (lanes : List NeedPlans) (front : List (StableId × Plan)) (entry : StableId × Plan) :
    Prop :=
  ∃ lane ∈ lanes, lane.need.needId = entry.1 ∧
    ∃ facetId ∈ lane.need.requiredFacetIds, facetId ∈ entry.2.facetIds ∧
      ∀ earlier ∈ front, earlier.1 = entry.1 → facetId ∉ earlier.2.facetIds

/-- Every slice that was packed serves a required facet that the slices before it do not. -/
def OnePerFacet (lanes : List NeedPlans) (packed : List (StableId × Plan)) : Prop :=
  ∀ front entry back, packed = front ++ entry :: back → NewFacet lanes front entry

/-- A verified slice of the span serves the required facet of a mandatory need. -/
def Serving (basis : AssemblyBasis) (selections : List NeedEvidenceSelection)
    (need : PublicNeed) (facetId : StableId) (spanKey : ArtifactId × Nat × Nat) : Prop :=
  ∃ selection ∈ selections, selection.need = need ∧ need.mandatory = true ∧
    facetId ∈ need.requiredFacetIds ∧ ∃ trace ∈ selection.selections, ∃ chosen,
      verified basis selection trace = some chosen ∧ facetId ∈ trace.supportedFacetIds ∧
        chosen.slice.spanKey = spanKey

/-- The entry of a span would not fit. -/
def TooLarge (packing : Packing) (need : PublicNeed) (spanKey : ArtifactId × Nat × Nat) : Prop :=
  ∀ entry ∈ assembler.ledger, entry.slice.spanKey = spanKey →
    ¬ assembler.Fits packing need entry.ledgerId

/-- The needs whose items carry evidence. -/
def shownNeeds (items : List ContextItem) : List StableId :=
  (items.filter fun item => item.gap.isNone).map fun item => item.needId

/-- What is left of a packing where only these items are shown. -/
def keptOf (lanes : List NeedPlans) (packed : List (StableId × Plan)) (items : List ContextItem) :
    Packing :=
  assembler.totals lanes (packed.filter fun entry => entry.1 ∈ shownNeeds items)

/-- If a mandatory facet that some slice serves is left without one in what is returned, then
    only slices of mandatory needs are there, one for each facet that is served, and the slice
    does not fit what they leave. -/
def MandatoryFirst (basis : AssemblyBasis) (selections : List NeedEvidenceSelection)
    (lanes : List NeedPlans) : Prop :=
  ∀ items, assembler.assemble selections lanes = .ok items →
    let kept := assembler.keptOf lanes (assembler.pack lanes).packed items
    ∀ need facetId spanKey, Serving basis selections need facetId spanKey →
      kept.serves need.needId facetId = false →
      (∀ other ∈ lanes, kept.entries other.need.needId ≠ [] → other.need.mandatory = true) ∧
      OnePerFacet lanes kept.packed ∧
      assembler.TooLarge kept need spanKey

/-- The offers up to the first one with which the totals exceed a budget. -/
structure Taken (lanes : List NeedPlans) (before : List (NeedPlans × Plan)) : Prop where
  split : ∃ after, offered lanes = before ++ after ∧
    ∀ next ∈ after.head?, ¬ assembler.Affordable lanes (pairs (before ++ [next]))
  within : ∀ front back, before = front ++ back → front ≠ [] →
    assembler.Affordable lanes (pairs front)

/-- Of the offers that the budgets allow some slice serves the facet, and the item of its need
    stays. Or else, of the needs whose items stay, none is optional and none was offered a
    slice by the second pass, and the facet's slice exceeds a budget beside theirs. -/
def Precedence (basis : AssemblyBasis) (selections : List NeedEvidenceSelection)
    (lanes : List NeedPlans) : Prop :=
  ∃ before, assembler.Taken lanes before ∧
    ∀ items, assembler.assembleItems selections lanes (assembler.totals lanes (pairs before)) =
        .ok items →
      ∀ need facetId spanKey, Serving basis selections need facetId spanKey →
        (need.needId ∈ shownNeeds items ∧
          ∃ earlier ∈ before, earlier.1.need.needId = need.needId ∧
            facetId ∈ earlier.2.facetIds) ∨
        ((∀ earlier ∈ before, earlier.1.need.needId ∈ shownNeeds items →
            earlier.1.need.mandatory = true) ∧
          (∀ later ∈ before.drop (schedule lanes).length,
            later.1.need.needId ∉ shownNeeds items) ∧
          assembler.TooLarge (assembler.keptOf lanes (pairs before) items) need spanKey)

section Claims

variable {assembler} {packing : Packing} {lane : NeedPlans} {lanes order : List NeedPlans}
  {before : List (NeedPlans × Plan)}

theorem outcome_foldlM {α : Type} {f : Packing → α → Except Packing Packing}
    {motive : Packing → Prop} {items : List α}
    (hstep : ∀ packing, ∀ a ∈ items, motive packing → motive (outcome (f packing a))) :
    ∀ {packing : Packing}, motive packing → motive (outcome (items.foldlM f packing)) := by
  induction items with
  | nil => exact fun h => h
  | cons a items ih =>
    intro packing h
    have hfirst := hstep packing a mem_cons_self h
    rw [foldlM_cons]
    cases hf : f packing a with
    | error stopped => rw [hf] at hfirst; exact hfirst
    | ok next =>
      rw [hf] at hfirst
      exact ih (fun packing b hmem => hstep packing b (mem_cons_of_mem a hmem)) hfirst

theorem onePerFacet_append {packed : List (StableId × Plan)} {entry : StableId × Plan}
    (h : OnePerFacet lanes packed) (hnew : NewFacet lanes packed entry) :
    OnePerFacet lanes (packed ++ [entry]) := by
  intro front other back hsplit
  rcases eq_nil_or_concat back with rfl | ⟨init, last, rfl⟩
  · obtain ⟨rfl, hlast⟩ := append_inj' hsplit rfl
    rw [← head_eq_of_cons_eq hlast]
    exact hnew
  · rw [concat_eq_append, ← cons_append, ← append_assoc] at hsplit
    exact h front other init (append_inj' hsplit rfl).1

theorem onePerFacet_offer (hmem : lane ∈ lanes) (h : OnePerFacet lanes packing.packed) :
    OnePerFacet lanes (outcome (assembler.offer packing lane)).packed := by
  unfold offer
  cases hnext : nextPlan packing lane with
  | none => exact h
  | some plan =>
    rcases Option.bind_eq_some_iff.mp hnext with ⟨facetId, hfind, hplan⟩
    have hopen := List.find?_some hfind
    have hserves := List.find?_some hplan
    rw [Bool.and_eq_true, Bool.not_eq_true', Packing.serves, any_eq_false] at hopen
    change OnePerFacet lanes (outcome (assembler.place packing lane.need plan)).packed
    unfold place
    split_ifs
    · refine onePerFacet_append h ⟨lane, hmem, rfl, facetId, mem_of_find?_eq_some hfind,
        of_decide_eq_true hserves, fun earlier hearlier hneed hmem => ?_⟩
      exact hopen.1 earlier hearlier (by rw [decide_eq_true hneed, decide_eq_true hmem]; rfl)
    · exact h

theorem onePerFacet_roundRobin (horder : ∀ lane ∈ order, lane ∈ lanes) (rounds : Nat) :
    ∀ {packing : Packing}, OnePerFacet lanes packing.packed →
      OnePerFacet lanes (outcome (assembler.roundRobin order rounds packing)).packed := by
  induction rounds with
  | zero => exact fun h => h
  | succ rounds ih =>
    intro packing h
    have hround := @outcome_foldlM _ assembler.offer
      (fun packing => OnePerFacet lanes packing.packed) order
      (fun packing lane hmem hpacking => onePerFacet_offer (horder lane hmem) hpacking) packing h
    rw [roundRobin]
    split_ifs
    · exact h
    · cases hfold : order.foldlM assembler.offer packing with
      | error stopped => rw [hfold] at hround; exact hround
      | ok next => rw [hfold] at hround; exact ih hround

theorem offers_subset (served : StableId → Bool) (facets : List StableId) :
    offers lane served facets ⊆ lane.plans := by
  induction facets generalizing served with
  | nil => exact nil_subset _
  | cons facetId rest ih =>
    rw [offers]
    split_ifs
    · exact ih served
    · cases hplan : servingPlan lane facetId with
      | none => exact ih served
      | some plan => exact cons_subset.mpr ⟨mem_of_find?_eq_some hplan, ih _⟩

variable {slice : NeedPlans × Plan}

theorem mem_turnsOf {rounds : Nat} (h : slice ∈ turnsOf order rounds queue) :
    slice.1 ∈ order ∧ slice.2 ∈ queue slice.1 := by
  induction rounds generalizing queue with
  | zero => exact absurd h not_mem_nil
  | succ rounds ih =>
    rcases mem_append.mp h with hhead | hrest
    · rcases mem_filterMap.mp hhead with ⟨lane, hlane, hplan⟩
      rcases Option.map_eq_some_iff.mp hplan with ⟨plan, hfirst, rfl⟩
      exact ⟨hlane, mem_of_mem_head? hfirst⟩
    · exact ⟨(ih hrest).1, mem_of_mem_tail (ih hrest).2⟩

theorem mem_leftovers (h : slice ∈ (needOrder lanes).flatMap (leftOf packed)) :
    slice.1 ∈ lanes ∧ slice.2 ∈ slice.1.plans := by
  rcases mem_flatMap.mp h with ⟨lane, hlane, hslice⟩
  rcases mem_map.mp hslice with ⟨plan, hplan, rfl⟩
  exact ⟨mem_needOrder.mp hlane, leftOver_subset hplan⟩

theorem mem_offered (h : slice ∈ offered lanes) : slice.1 ∈ lanes ∧ slice.2 ∈ slice.1.plans := by
  rcases mem_append.mp h with hfirst | hsecond
  · have hturn := mem_turnsOf hfirst
    exact ⟨mem_needOrder.mp hturn.1, offers_subset _ _ hturn.2⟩
  · exact mem_leftovers hsecond

theorem eq_of_needId (hnodup : (lanes.map fun lane => lane.need.needId).Nodup)
    {a b : NeedPlans} (ha : a ∈ lanes) (hb : b ∈ lanes) (h : a.need.needId = b.need.needId) :
    a = b :=
  inj_on_of_nodup_map hnodup ha hb h

theorem cut_lanes (h : assembler.Cut (offered lanes) before packing) :
    ∀ earlier ∈ before, earlier.1 ∈ lanes := by
  rcases h.split with ⟨after, heq, -⟩
  exact fun earlier hmem => (mem_offered (heq ▸ mem_append_left after hmem)).1

theorem cut_packed (h : assembler.Cut (offered lanes) before packing) :
    packing.packed = pairs before :=
  placeAll_packed h.placed

theorem pairs_append (front back : List (NeedPlans × Plan)) :
    pairs (front ++ back) = pairs front ++ pairs back :=
  map_append

/-- The packing is that of the offers that the totals allow. -/
theorem cut_iff (hnodup : (lanes.map fun lane => lane.need.needId).Nodup) :
    assembler.Cut (offered lanes) before packing ↔
      assembler.Taken lanes before ∧ packing = assembler.totals lanes (pairs before) := by
  have hnext : ∀ {after}, offered lanes = before ++ after →
      ((∀ next ∈ after.head?,
          ¬ assembler.Fits (assembler.totals lanes (pairs before)) next.1.need next.2.entryId) ↔
        ∀ next ∈ after.head?, ¬ assembler.Affordable lanes (pairs (before ++ [next]))) := by
    intro after heq
    refine forall_congr' fun next => imp_congr_right fun hhead => not_congr ?_
    have hmem : next ∈ offered lanes :=
      heq ▸ mem_append_right before (mem_of_mem_head? hhead)
    rw [pairs_append]
    exact fits_totals hnodup (mem_offered hmem).1
  have hplaced : (∀ slice ∈ before, slice.1 ∈ lanes) →
      (assembler.placeAll nothing before = .ok packing ↔
        packing = assembler.totals lanes (pairs before) ∧ ∀ front back, before = front ++ back →
          front ≠ [] → assembler.Affordable lanes (pairs front)) := by
    intro hlanes
    rw [@nothing_eq assembler lanes]
    exact placeAll_totals hnodup hlanes
  constructor
  · intro h
    rcases (hplaced (cut_lanes h)).mp h.placed with ⟨rfl, hwithin⟩
    rcases h.split with ⟨after, heq, hhead⟩
    exact ⟨⟨⟨after, heq, (hnext heq).mp hhead⟩, hwithin⟩, rfl⟩
  · rintro ⟨⟨⟨after, heq, hhead⟩, hwithin⟩, rfl⟩
    refine ⟨⟨after, heq, (hnext heq).mpr hhead⟩, (hplaced fun slice hmem => ?_).mpr ⟨rfl, hwithin⟩⟩
    exact (mem_offered (heq ▸ mem_append_left after hmem)).1

variable {front back : List (NeedPlans × Plan)}

/-- A slice from behind the schedule serves no facet that the ones before it leave open. -/
theorem newFacet_scheduled (hnodup : (lanes.map fun lane => lane.need.needId).Nodup)
    (h : assembler.Cut (offered lanes) before packing) (hsplit : before = front ++ slice :: back)
    (hnew : NewFacet lanes (pairs front) (slice.1.need.needId, slice.2)) :
    front.length < (schedule lanes).length := by
  rcases h.split with ⟨after, heq, -⟩
  rw [hsplit, append_assoc] at heq
  rcases hnew with ⟨lane, hlane, hneed, facetId, hfacet, hserves, hnew⟩
  by_contra hlength
  have hprefix : schedule lanes <+: front := prefix_of_prefix_length_le
    (prefix_append _ _) ⟨_, heq.symm⟩ (Nat.le_of_not_lt hlength)
  rcases hprefix with ⟨rest, rfl⟩
  have hslice : slice.1 ∈ lanes ∧ slice.2 ∈ slice.1.plans := by
    rw [offered, append_assoc] at heq
    refine @mem_leftovers (entriesIn (schedule lanes)) _ _ ?_
    rw [append_cancel_left heq]
    exact mem_append_right rest (mem_append_left after mem_cons_self)
  have hplaced := h.placed
  rw [hsplit, append_assoc, placeAll_append] at hplaced
  rcases (Outcome.bind_eq_ok _ _ _).mp hplaced with ⟨middle, hmiddle, -⟩
  obtain rfl := eq_of_needId hnodup hlane hslice.1 hneed
  have hplan : (servingPlan slice.1 facetId).isSome := by
    rw [servingPlan, List.find?_isSome]
    exact ⟨slice.2, hslice.2, decide_eq_true hserves⟩
  rcases Option.isSome_iff_exists.mp hplan with ⟨plan, hplan⟩
  have hserved := served_of_complete hnodup hmiddle hslice.1 facetId hfacet plan hplan
  rcases any_eq_true.mp hserved with ⟨earlier, hearlier, hboth⟩
  rw [placeAll_packed hmiddle] at hearlier
  rw [Bool.and_eq_true, decide_eq_true_eq, decide_eq_true_eq] at hboth
  refine hnew earlier ?_ hboth.1 hboth.2
  rw [pairs_append]
  exact mem_append_left _ hearlier

/-- The first pass packs one slice for each facet, whether it is stopped or not. -/
theorem onePerFacet_schedule (hnodup : (lanes.map fun lane => lane.need.needId).Nodup)
    {taken : List (NeedPlans × Plan)} (hcut : assembler.Cut (schedule lanes) taken packing) :
    OnePerFacet lanes (pairs taken) := by
  have hpacked : packing.packed = pairs taken := placeAll_packed hcut.placed
  rw [← hpacked, ← outcome_of_cut hcut, ← firstPass_eq hnodup]
  refine onePerFacet_roundRobin (fun lane hmem => mem_needOrder.mp hmem) _ ?_
  exact fun front entry back hnil => absurd hnil (by simp [nothing])

theorem OnePerFacet.newFacet (h : OnePerFacet lanes (pairs (front ++ slice :: back))) :
    NewFacet lanes (pairs front) (slice.1.need.needId, slice.2) :=
  h (pairs front) _ (pairs back) (pairs_append front (slice :: back))

/-- What the second pass packs serves no facet that is not served by then. -/
theorem newFacet_iff (hnodup : (lanes.map fun lane => lane.need.needId).Nodup)
    (h : assembler.Cut (offered lanes) before packing) (hsplit : before = front ++ slice :: back) :
    NewFacet lanes (pairs front) (slice.1.need.needId, slice.2) ↔
      front.length < (schedule lanes).length := by
  refine ⟨newFacet_scheduled hnodup h hsplit, fun hlength => ?_⟩
  rcases Nat.le_total before.length (schedule lanes).length with hshort | hlong
  · have hone := onePerFacet_schedule hnodup (h.of_append hshort)
    rw [hsplit] at hone
    exact hone.newFacet
  · rcases h.split with ⟨after, heq, -⟩
    have hprefix : schedule lanes <+: before := prefix_of_prefix_length_le
      (prefix_append _ _) ⟨after, heq.symm⟩ hlong
    have hcut : ∃ packed, assembler.Cut (schedule lanes) (schedule lanes) packed := by
      rcases hprefix with ⟨rest, hbefore⟩
      have hplaced := h.placed
      rw [← hbefore, placeAll_append] at hplaced
      rcases (Outcome.bind_eq_ok _ _ _).mp hplaced with ⟨middle, hmiddle, -⟩
      exact ⟨middle, cut_of_placed hmiddle⟩
    rcases hcut with ⟨packed, hcut⟩
    have hinside : front ++ [slice] <+: schedule lanes := by
      refine prefix_of_prefix_length_le ⟨back, ?_⟩ hprefix ?_
      · rw [hsplit, append_assoc]
        rfl
      · rw [length_append]
        exact hlength
    rcases hinside with ⟨rest, hrest⟩
    have hone := onePerFacet_schedule hnodup hcut
    rw [← hrest, append_assoc] at hone
    exact hone.newFacet

section Kept

variable {needIds : List StableId}

/-- The slices of other needs do not matter for what is new to a need. -/
theorem newFacet_filter {packed : List (StableId × Plan)} {entry : StableId × Plan}
    (h : entry.1 ∈ needIds) :
    NewFacet lanes (packed.filter fun entry => entry.1 ∈ needIds) entry ↔
      NewFacet lanes packed entry := by
  refine exists_congr fun lane => and_congr_right fun _ => and_congr_right fun _ =>
    exists_congr fun facetId => and_congr_right fun _ => and_congr_right fun _ =>
    forall_congr' fun earlier => ?_
  rw [mem_filter, decide_eq_true_eq]
  constructor
  · exact fun hall hmem hneed => hall ⟨hmem, hneed ▸ h⟩ hneed
  · exact fun hall hmem => hall hmem.1

theorem kept_onePerFacet (hnodup : (lanes.map fun lane => lane.need.needId).Nodup)
    (h : assembler.Cut (offered lanes) before packing) :
    OnePerFacet lanes ((pairs before).filter fun entry => entry.1 ∈ needIds) ↔
      ∀ later ∈ before.drop (schedule lanes).length, later.1.need.needId ∉ needIds := by
  constructor
  · intro hone later hlater hshown
    rcases append_of_mem hlater with ⟨middle, back, hdrop⟩
    have hlength : (schedule lanes).length ≤ before.length := by
      by_contra hless
      rw [drop_eq_nil_of_le (Nat.le_of_not_le hless)] at hlater
      exact not_mem_nil hlater
    have hsplit : before = (before.take (schedule lanes).length ++ middle) ++ later :: back := by
      rw [append_assoc, ← hdrop, take_append_drop]
    have hnew := hone _ (later.1.need.needId, later.2)
      ((pairs back).filter fun entry => entry.1 ∈ needIds) (by
        rw [congrArg pairs hsplit, pairs_append, filter_append]
        exact congrArg _ (filter_cons_of_pos (decide_eq_true hshown)))
    rw [newFacet_filter hshown, newFacet_iff hnodup h hsplit, length_append, length_take]
      at hnew
    omega
  · intro hlate filtered entry rest hfilter
    rcases filter_eq_append_iff.mp hfilter with ⟨first, last, hpairs, rfl, hlast⟩
    rcases filter_eq_cons_iff.mp hlast with ⟨skipped, others, rfl, hskipped, hentry, -⟩
    rw [decide_eq_true_eq] at hentry
    have hnone : skipped.filter (fun entry => entry.1 ∈ needIds) = [] :=
      filter_eq_nil_iff.mpr hskipped
    rw [← append_nil (first.filter _), ← hnone, ← filter_append, newFacet_filter hentry]
    rw [← append_assoc] at hpairs
    rcases map_eq_append_iff.mp hpairs with ⟨front, back, hsplit, hfront, hback⟩
    rcases map_eq_cons_iff.mp hback with ⟨slice, tail, rfl, rfl, -⟩
    rw [← hfront]
    refine (newFacet_iff hnodup h hsplit).mpr (Nat.lt_of_not_le fun hlength => ?_)
    refine hlate slice ?_ hentry
    rw [hsplit, drop_append_of_le_length hlength]
    exact mem_append_right _ mem_cons_self

theorem kept_serves {needId facetId : StableId} :
    (assembler.totals lanes ((pairs before).filter fun entry => entry.1 ∈ needIds)).serves
        needId facetId = false ↔
      ¬ (needId ∈ needIds ∧
        ∃ earlier ∈ before, earlier.1.need.needId = needId ∧ facetId ∈ earlier.2.facetIds) := by
  rw [Packing.serves, totals, any_filter, pairs, any_map, any_eq_false]
  simp only [Function.comp_apply, Bool.and_eq_true, decide_eq_true_eq]
  constructor
  · rintro hall ⟨hshown, earlier, hmem, rfl, hserves⟩
    exact hall earlier hmem ⟨hshown, rfl, hserves⟩
  · rintro hnot earlier hmem ⟨hshown, rfl, hserves⟩
    exact hnot ⟨hshown, earlier, hmem, rfl, hserves⟩

theorem kept_mandatory (hnodup : (lanes.map fun lane => lane.need.needId).Nodup)
    (h : assembler.Cut (offered lanes) before packing) :
    (∀ other ∈ lanes,
        (assembler.totals lanes ((pairs before).filter fun entry => entry.1 ∈ needIds)).entries
          other.need.needId ≠ [] → other.need.mandatory = true) ↔
      ∀ earlier ∈ before, earlier.1.need.needId ∈ needIds → earlier.1.need.mandatory = true := by
  have hentries : ∀ needId,
      (assembler.totals lanes ((pairs before).filter fun entry => entry.1 ∈ needIds)).entries
          needId ≠ [] ↔
        needId ∈ needIds ∧ ∃ earlier ∈ before, earlier.1.need.needId = needId := by
    intro needId
    rw [Packing.entries, totals, ne_eq, map_eq_nil_iff, filter_filter,
      filter_eq_nil_iff, pairs, forall_mem_map]
    simp only [Bool.and_eq_true, decide_eq_true_eq, not_forall, not_not, exists_prop]
    constructor
    · rintro ⟨earlier, hmem, rfl, hshown⟩
      exact ⟨hshown, earlier, hmem, rfl⟩
    · rintro ⟨hshown, earlier, hmem, rfl⟩
      exact ⟨earlier, hmem, rfl, hshown⟩
  constructor
  · intro hall earlier hmem hshown
    exact hall earlier.1 (cut_lanes h earlier hmem) ((hentries _).mpr ⟨hshown, earlier, hmem, rfl⟩)
  · intro hall other hother hne
    rcases (hentries _).mp hne with ⟨hshown, earlier, hmem, hneed⟩
    rw [← eq_of_needId hnodup (cut_lanes h earlier hmem) hother hneed]
    exact hall earlier hmem (hneed ▸ hshown)

end Kept

theorem mandatoryFirst_iff_precedence {basis : AssemblyBasis}
    {selections : List NeedEvidenceSelection}
    (hnodup : (lanes.map fun lane => lane.need.needId).Nodup) :
    assembler.MandatoryFirst basis selections lanes ↔
      assembler.Precedence basis selections lanes := by
  have htaken : ∀ {before}, assembler.Taken lanes before →
      (assembler.MandatoryFirst basis selections lanes ↔
        ∀ items, assembler.assembleItems selections lanes (assembler.totals lanes (pairs before)) =
            .ok items →
          ∀ need facetId spanKey, Serving basis selections need facetId spanKey →
            (need.needId ∈ shownNeeds items ∧ ∃ earlier ∈ before,
              earlier.1.need.needId = need.needId ∧ facetId ∈ earlier.2.facetIds) ∨
            ((∀ earlier ∈ before, earlier.1.need.needId ∈ shownNeeds items →
                earlier.1.need.mandatory = true) ∧
              (∀ later ∈ before.drop (schedule lanes).length,
                later.1.need.needId ∉ shownNeeds items) ∧
              assembler.TooLarge (assembler.keptOf lanes (pairs before) items) need spanKey)) := by
    intro before h
    have hcut := (cut_iff hnodup).mpr ⟨h, rfl⟩
    have hpack : assembler.pack lanes = assembler.totals lanes (pairs before) :=
      (pack_eq hnodup).trans (outcome_of_cut hcut)
    unfold MandatoryFirst assemble
    rw [hpack]
    refine forall_congr' fun items => imp_congr_right fun _ => forall_congr' fun need =>
      forall_congr' fun facetId => forall_congr' fun spanKey => imp_congr_right fun _ => ?_
    have hpacked : (assembler.totals lanes (pairs before)).packed = pairs before := rfl
    have hkept : (assembler.keptOf lanes (pairs before) items).packed =
        (pairs before).filter fun entry => entry.1 ∈ shownNeeds items := rfl
    rw [hpacked, hkept, kept_onePerFacet hnodup hcut]
    unfold keptOf
    rw [kept_mandatory hnodup hcut, kept_serves, ← or_iff_not_imp_left]
  constructor
  · intro hfirst
    rcases @cut_exists assembler (offered lanes) with ⟨before, packing, h⟩
    have hbefore := ((cut_iff hnodup).mp h).1
    exact ⟨before, hbefore, (htaken hbefore).mp hfirst⟩
  · rintro ⟨before, hbefore, hall⟩
    exact (htaken hbefore).mpr hall

end Claims

end Assembler

theorem planAll_needs {basis : AssemblyBasis} (selections : List NeedEvidenceSelection) :
    ∀ ledger, (planAll basis ledger selections).2.map NeedPlans.need =
      selections.map NeedEvidenceSelection.need := by
  induction selections with
  | nil => exact fun _ => rfl
  | cons selection selections ih => exact fun _ => congrArg _ (ih _)

namespace LedgerSample

open GatewaySample

/-- The line of the first chapter again, in the second one. -/
def echo : World.TextBlock :=
  { World.Sample.block with
    blockId := ⟨"block.2", .refl true⟩
    chapterId := ⟨"chapter.2", by decide⟩
    sceneId := some ⟨"scene.2", by decide⟩ }

def echoChapter : World.ChapterDocument where
  chapterId := echo.chapterId
  chapterIndex := 2
  title := none
  scenes := [{
    sceneId := ⟨"scene.2", by decide⟩
    sceneIndex := 0
    title := none
    blocks := [echo]
    valid := by decide }]
  positive := Nat.two_pos
  valid := by decide

def basis : AssemblyBasis where
  root :=
    { World.Sample.text with
      chapters := World.Sample.text.chapters ++ [echoChapter]
      valid := by decide }
  snapshotId := request.snapshotId
  checkpointChapter := 2

def word (block : World.TextBlock) (sliceId : StableId) (start : Nat) (text : World.NonEmptyText)
    (facetIds : List StableId) : Chosen where
  trace := ⟨sliceId, unitId, "r1_exact", start, "", none, facetIds⟩
  slice :=
    { GatewaySample.slice with
      sliceId := sliceId
      parentBlockId := block.blockId
      chapterId := block.chapterId
      sceneId := block.sceneId
      start := start
      stop := start + text.text.toList.length
      text := text.text
      objectHash := digest block.text
      quoteHash := digest text.text
      text_ne := text.nonEmpty
      ordered := Nat.le_add_right _ _ }

def selection (need : PublicNeed) (words : List Chosen) : NeedEvidenceSelection :=
  { NeedEvidenceSelection.empty need with
    selections := words.map Chosen.trace
    slices := words.map Chosen.slice }

theorem need_ranked : need.priority ≤ 100 := need.priority_le

theorem need_pools : need.allowedCandidatePools ≠ [] := need.pools_ne_nil

theorem hero_ne : "hero" ≠ "" := by decide

def twoFacets : PublicNeed :=
  { need with
    priority_le := need_ranked
    pools_ne_nil := need_pools
    needFacets := [⟨facetId, .currentState⟩, ⟨⟨"facet.3", by decide⟩, .limitation⟩]
    completionSpec := some ⟨[facetId, ⟨"facet.3", by decide⟩]⟩
    expectedClaimScopes := [.current, .current]
    facets_iff := by decide
    required_mem := by decide
    scopes_length := rfl
    facets_nodup := by decide
    required_nodup := by decide
    required_ne_nil := by decide }

def article : Chosen := word World.Sample.block sliceId 0 ⟨"The", by decide⟩ [facetId]

def kept : Chosen :=
  word World.Sample.block ⟨"slice.3", by decide⟩ 9 ⟨"kept", by decide⟩ [⟨"facet.3", by decide⟩]

/-- The mandatory need has two words of the first chapter, and an optional one has two of
    the second. -/
def selections : List NeedEvidenceSelection :=
  [selection twoFacets [article, kept],
    selection { sameQuestion with requirement := .optional }
      [word echo ⟨"slice.4", by decide⟩ 4 ⟨"hero", hero_ne⟩ [⟨"facet.2", .refl true⟩],
        word echo ⟨"slice.5", by decide⟩ 0 ⟨"The", by decide⟩ []]]

/-- Characters are counted, and the ledger has room for so many of them. -/
def assemblerOf (ledgerBudget : Int) : Assembler :=
  ⟨fun text => text.toList.length, 1000, ledgerBudget, (planAll basis [] selections).1⟩

def lanes : List NeedPlans := (planAll basis [] selections).2

theorem shown_of_assemble {assembled : Except String (List ContextItem)}
    {items : List ContextItem} {needIds : List StableId}
    (hshown : assembled.map Assembler.shownNeeds = .ok needIds) (hitems : assembled = .ok items) :
    Assembler.shownNeeds items = needIds := by
  rw [hitems] at hshown
  exact Except.ok.inj hshown

end LedgerSample

end NovelAgent.Evidence
