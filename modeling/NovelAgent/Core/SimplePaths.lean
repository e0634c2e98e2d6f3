import Mathlib.Algebra.BigOperators.Group.List.Basic
import Mathlib.Algebra.GroupWithZero.Nat
import Mathlib.Data.List.Nodup
import Mathlib.Data.List.Count
import NovelAgent.Core.Outcome

/-!
# Simple Paths

The paths of a graph that visit no node twice, and a search that lists them.
-/

namespace NovelAgent.Core

open List

variable {Node Edge Way Out ε : Type} [DecidableEq Node]

/-- Edges, and where an edge leads from a node. -/
structure Graph (Node Edge Way : Type) where
  edges : List Edge
  follow : Edge → Node → Option (Node × Way)

/-- Where a path has got to, and what it went through. -/
structure Trail (Node Edge Way : Type) where
  node : Node
  edges : List Edge
  nodes : List Node
  ways : List Way
deriving DecidableEq

namespace Trail

/-- The trail that has not left a node. -/
def start (node : Node) : Trail Node Edge Way :=
  ⟨node, [], [node], []⟩

/-- A trail, one edge further. -/
def along (trail : Trail Node Edge Way) (edge : Edge) (next : Node) (way : Way) :
    Trail Node Edge Way :=
  ⟨next, trail.edges ++ [edge], trail.nodes ++ [next], trail.ways ++ [way]⟩

end Trail

namespace Graph

/-- A trail extended by an edge, if the edge leads from its end to a new node. -/
def extend (g : Graph Node Edge Way) (trail : Trail Node Edge Way) (edge : Edge) :
    Option (Trail Node Edge Way) :=
  match g.follow edge trail.node with
  | none => none
  | some (next, way) => if next ∈ trail.nodes then none else some (trail.along edge next way)

/-- Extend a trail by every edge, report the extensions and queue them. -/
def expand (g : Graph Node Edge Way) (emit : Trail Node Edge Way → Except ε Out) (limit : Nat)
    (trail : Trail Node Edge Way) : List Edge → List (Trail Node Edge Way) → List Out →
    Except ε (List (Trail Node Edge Way) × List Out)
  | [], frontier, found => .ok (frontier, found)
  | edge :: edges, frontier, found =>
    match g.extend trail edge with
    | none => g.expand emit limit trail edges frontier found
    | some next => do
        let out ← emit next
        if (found ++ [out]).length = limit then
          .ok (frontier, found ++ [out])
        else
          g.expand emit limit trail edges (frontier ++ [next]) (found ++ [out])

variable {g : Graph Node Edge Way} {edge : Edge}

theorem extend_edges {trail next : Trail Node Edge Way} (h : g.extend trail edge = some next) :
    next.edges = trail.edges ++ [edge] := by
  unfold extend at h
  split at h
  · exact absurd h nofun
  · split at h
    · exact absurd h nofun
    · cases h
      rfl

theorem extend_length {trail next : Trail Node Edge Way} (h : g.extend trail edge = some next) :
    next.edges.length = trail.edges.length + 1 := by
  rw [extend_edges h, length_append, length_singleton]

variable {emit : Trail Node Edge Way → Except ε Out} {trail : Trail Node Edge Way}
    {edges : List Edge} {frontier frontier' : List (Trail Node Edge Way)} {found found' : List Out}

theorem expand_queues {limit : Nat}
    (h : g.expand emit limit trail edges frontier found = .ok (frontier', found')) :
    ∃ added, frontier' = frontier ++ added ∧ added.length ≤ edges.length ∧
      ∀ next ∈ added, next.edges.length = trail.edges.length + 1 := by
  induction edges generalizing frontier found with
  | nil =>
    simp only [expand, Except.ok.injEq, Prod.mk.injEq] at h
    exact ⟨[], by simp [h.1], by simp, by simp⟩
  | cons edge edges ih =>
    unfold expand at h
    cases hnext : g.extend trail edge with
    | none =>
      simp only [hnext] at h
      obtain ⟨added, hadded, hlength, hall⟩ := ih h
      exact ⟨added, hadded, by simp; omega, hall⟩
    | some next =>
      simp only [hnext, Outcome.bind_eq_ok] at h
      obtain ⟨out, -, h⟩ := h
      split at h
      · cases h
        exact ⟨[], by simp, by simp, by simp⟩
      · obtain ⟨added, hadded, hlength, hall⟩ := ih h
        refine ⟨next :: added, by simp [hadded], by simp; omega, ?_⟩
        intro other hother
        rcases mem_cons.mp hother with rfl | hother
        · exact extend_length hnext
        · exact hall other hother

/-- How much a trail can still grow into. -/
def weight (g : Graph Node Edge Way) (maxDepth : Nat) (trail : Trail Node Edge Way) : Nat :=
  (g.edges.length + 1) ^ (maxDepth - trail.edges.length)

omit [DecidableEq Node] in
theorem weight_expand (g : Graph Node Edge Way) {maxDepth : Nat}
    {added : List (Trail Node Edge Way)} (hdepth : trail.edges.length < maxDepth)
    (hlength : added.length ≤ g.edges.length)
    (hall : ∀ next ∈ added, next.edges.length = trail.edges.length + 1) :
    (added.map (g.weight maxDepth)).sum < g.weight maxDepth trail := by
  have hsame : ∀ w ∈ added.map (g.weight maxDepth),
      w = (g.edges.length + 1) ^ (maxDepth - trail.edges.length - 1) := by
    intro w hw
    obtain ⟨next, hnext, rfl⟩ := mem_map.mp hw
    rw [weight, hall next hnext, Nat.sub_sub]
  have hsum := sum_eq_card_nsmul _ _ hsame
  have hpos : 0 < (g.edges.length + 1) ^ (maxDepth - trail.edges.length - 1) :=
    Nat.pow_pos (Nat.succ_pos _)
  calc (added.map (g.weight maxDepth)).sum
      = added.length * (g.edges.length + 1) ^ (maxDepth - trail.edges.length - 1) := by
        simpa using hsum
    _ ≤ g.edges.length * (g.edges.length + 1) ^ (maxDepth - trail.edges.length - 1) :=
        Nat.mul_le_mul_right _ hlength
    _ < (g.edges.length + 1) * (g.edges.length + 1) ^ (maxDepth - trail.edges.length - 1) :=
        Nat.mul_lt_mul_of_pos_right (Nat.lt_succ_self _) hpos
    _ = g.weight maxDepth trail := by
        rw [weight, ← pow_succ', Nat.sub_add_cancel (by omega)]

/-- The loop: take the first trail of the queue until the queue is empty or enough is found. A
    trail of full length is passed over; none is longer, as all are queued one edge at a time. -/
def search (g : Graph Node Edge Way) (emit : Trail Node Edge Way → Except ε Out)
    (maxDepth limit : Nat) (frontier : List (Trail Node Edge Way)) (found : List Out) :
    Except ε (List Out) :=
  match frontier with
  | [] => .ok found
  | trail :: frontier =>
    if limit ≤ found.length then
      .ok found
    else if _hdepth : maxDepth ≤ trail.edges.length then
      g.search emit maxDepth limit frontier found
    else
      match _hexpand : g.expand emit limit trail g.edges frontier found with
      | .error e => .error e
      | .ok (frontier', found') => g.search emit maxDepth limit frontier' found'
termination_by (frontier.map (g.weight maxDepth)).sum
decreasing_by
  · rw [map_cons, sum_cons]
    have : 0 < g.weight maxDepth trail := Nat.pow_pos (Nat.succ_pos _)
    omega
  · obtain ⟨added, rfl, hlength, hall⟩ := expand_queues _hexpand
    have hroom : trail.edges.length < maxDepth := by omega
    have := g.weight_expand hroom hlength hall
    rw [map_append, sum_append, map_cons, sum_cons]
    omega

/-- The extensions of a trail by one edge. -/
def children (g : Graph Node Edge Way) (trail : Trail Node Edge Way) : List (Trail Node Edge Way) :=
  g.edges.filterMap (g.extend trail)

/-- The extensions of a trail by one edge or more, up to a number of them. -/
def below (g : Graph Node Edge Way) : Nat → Trail Node Edge Way → List (Trail Node Edge Way)
  | 0, _ => []
  | depth + 1, trail => (g.children trail).flatMap fun next => next :: g.below depth next

/-- Expanding a trail reports its extensions until the limit is met, and below the limit queues
    all of them. -/
theorem expand_reports {limit : Nat} (hlimit : found.length < limit)
    (h : g.expand emit limit trail edges frontier found = .ok (frontier', found')) :
    ∃ outs, found' = found ++ outs ∧
      ((edges.filterMap (g.extend trail)).take (limit - found.length)).mapM emit = .ok outs ∧
      (found'.length < limit → frontier' = frontier ++ edges.filterMap (g.extend trail)) := by
  induction edges generalizing frontier found with
  | nil =>
    simp only [expand, Except.ok.injEq, Prod.mk.injEq] at h
    exact ⟨[], by simp [h.2], by simp [pure, Except.pure], by simp [h.1]⟩
  | cons edge edges ih =>
    unfold expand at h
    cases hnext : g.extend trail edge with
    | none =>
      simp only [hnext] at h
      obtain ⟨outs, hfound, houts, hqueue⟩ := ih hlimit h
      rw [filterMap_cons_none hnext]
      exact ⟨outs, hfound, houts, hqueue⟩
    | some next =>
      simp only [hnext, Outcome.bind_eq_ok] at h
      obtain ⟨out, hout, h⟩ := h
      rw [filterMap_cons_some hnext]
      -- One more report is due at least, as the limit is not met.
      obtain ⟨left, hleft⟩ : ∃ left, limit - found.length = left + 1 :=
        ⟨limit - found.length - 1, by omega⟩
      rw [hleft, take_succ_cons]
      split at h
      · rename_i hfull
        cases h
        have : left = 0 := by
          rw [length_append, length_singleton] at hfull
          omega
        refine ⟨[out], rfl, ?_, fun hlt => absurd hfull (by omega)⟩
        rw [this, take_zero, mapM_cons, hout]
        rfl
      · rename_i hroom
        have hlimit' : (found ++ [out]).length < limit := by
          rw [length_append, length_singleton] at hroom ⊢
          omega
        obtain ⟨outs, hfound, houts, hqueue⟩ := ih hlimit' h
        have hcount : limit - (found ++ [out]).length = left := by
          rw [length_append, length_singleton]
          omega
        rw [hcount] at houts
        refine ⟨out :: outs, by simp [hfound], ?_, fun hlt => by simp [hqueue hlt]⟩
        rw [mapM_cons, hout, Outcome.bind_eq_ok]
        exact ⟨out, rfl, by rw [houts]; rfl⟩

theorem below_perm (g : Graph Node Edge Way) (maxDepth : Nat) (trail : Trail Node Edge Way)
    (hdepth : trail.edges.length < maxDepth) :
    (g.below (maxDepth - trail.edges.length) trail).Perm (g.children trail ++
      (g.children trail).flatMap fun next => g.below (maxDepth - next.edges.length) next) := by
  obtain ⟨depth, hleft⟩ : ∃ depth, maxDepth - trail.edges.length = depth + 1 :=
    ⟨maxDepth - trail.edges.length - 1, by omega⟩
  have hchildren : ∀ next ∈ g.children trail,
      next :: g.below depth next = [next] ++ g.below (maxDepth - next.edges.length) next := by
    intro next hnext
    obtain ⟨edge, -, hedge⟩ := mem_filterMap.mp hnext
    rw [extend_length hedge, Nat.sub_add_eq, hleft]
    rfl
  rw [hleft, below, flatMap_congr hchildren]
  simpa using (flatMap_append_perm (g.children trail) (fun next => [next])
    fun next => g.below (maxDepth - next.edges.length) next).symm

variable {maxDepth limit : Nat}

/-- What the loop reports is an initial part of a listing of everything below its queue, and all
    of it if the limit is not met. -/
theorem search_lists {frontier : List (Trail Node Edge Way)}
    (h : g.search emit maxDepth limit frontier found = .ok found') :
    ∃ (listing : List (Trail Node Edge Way)) (outs : List Out), found' = found ++ outs ∧
      listing.Perm (frontier.flatMap fun trail => g.below (maxDepth - trail.edges.length) trail) ∧
      (listing.take (limit - found.length)).mapM emit = .ok outs := by
  induction frontier, found using search.induct g emit maxDepth limit with
  | case1 found =>
    unfold search at h
    cases h
    exact ⟨[], [], by simp, .nil, by simp [pure, Except.pure]⟩
  | case2 found trail frontier hfull =>
    unfold search at h
    rw [if_pos hfull] at h
    cases h
    refine ⟨_, [], by simp, .refl _, ?_⟩
    rw [Nat.sub_eq_zero_of_le hfull]
    simp [pure, Except.pure]
  | case3 found trail frontier hroom hdepth ih =>
    unfold search at h
    rw [if_neg hroom, dif_pos hdepth] at h
    obtain ⟨listing, outs, hfound, hperm, houts⟩ := ih h
    refine ⟨listing, outs, hfound, ?_, houts⟩
    rw [flatMap_cons, Nat.sub_eq_zero_of_le hdepth]
    exact hperm
  | case4 found trail frontier hroom hdepth e herror =>
    unfold search at h
    rw [if_neg hroom, dif_neg hdepth] at h
    split at h
    · exact absurd h nofun
    · rename_i hok
      rw [hok] at herror
      exact absurd herror nofun
  | case5 found trail frontier hroom hdepth frontier' found₁ hexpand ih =>
    unfold search at h
    rw [if_neg hroom, dif_neg hdepth] at h
    split at h
    · exact absurd h nofun
    rename_i _ _ hagain
    rw [hexpand] at hagain
    cases hagain
    obtain ⟨outs, rfl, houts, hqueue⟩ := expand_reports (by omega) hexpand
    rw [show g.edges.filterMap (g.extend trail) = g.children trail from rfl] at houts hqueue
    obtain ⟨listing, outs', rfl, hperm, houts'⟩ := ih h
    have hbelow := g.below_perm maxDepth trail (by omega)
    have hcount := Outcome.mapM_length houts
    rw [length_take] at hcount
    by_cases hfull : limit ≤ (found ++ outs).length
    · -- The limit is met among the extensions, and the loop is over.
      rw [length_append] at hfull
      have hover : limit - (found ++ outs).length = 0 := by
        rw [length_append]
        omega
      rw [hover, take_zero, mapM_nil, Outcome.pure_eq_ok] at houts'
      subst houts'
      refine ⟨g.children trail ++ _, outs, by simp, ((hbelow.append_right _).trans
        (.of_eq (append_assoc _ _ _))).symm, ?_⟩
      rw [take_append_of_le_length (by omega)]
      exact houts
    · -- All extensions are reported and queued.
      rw [hqueue (by omega), flatMap_append] at hperm
      rw [length_append] at hfull
      have hall : (g.children trail).length ≤ limit - found.length := by omega
      refine ⟨g.children trail ++ listing, outs ++ outs', by simp, ?_, ?_⟩
      · have hrest := (hperm.trans perm_append_comm).append_left (g.children trail)
        rw [← append_assoc] at hrest
        exact hrest.trans (hbelow.symm.append_right _)
      · rw [take_of_length_le hall] at houts
        have hleft : limit - found.length - (g.children trail).length =
            limit - (found ++ outs).length := by
          rw [length_append]
          omega
        rw [take_append, take_of_length_le hall, hleft, mapM_append, houts, houts']
        rfl

theorem expand_returns
    (hreport : ∀ next ∈ edges.filterMap (g.extend trail), ∃ out, emit next = .ok out)
    (limit : Nat) (frontier : List (Trail Node Edge Way)) (found : List Out) :
    ∃ after, g.expand emit limit trail edges frontier found = .ok after := by
  induction edges generalizing frontier found with
  | nil => exact ⟨_, rfl⟩
  | cons edge edges ih =>
    unfold expand
    cases hnext : g.extend trail edge with
    | none =>
      rw [filterMap_cons_none hnext] at hreport
      exact ih hreport frontier found
    | some next =>
      rw [filterMap_cons_some hnext, forall_mem_cons] at hreport
      obtain ⟨⟨out, hout⟩, hrest⟩ := hreport
      simp only [hout, Outcome.bind_eq_ok]
      by_cases hfull : (found ++ [out]).length = limit
      · exact ⟨_, out, rfl, if_pos hfull⟩
      · obtain ⟨after, hafter⟩ := ih hrest (frontier ++ [next]) (found ++ [out])
        exact ⟨after, out, rfl, (if_neg hfull).trans hafter⟩

/-- The search raises only if a report does. -/
theorem search_returns (frontier : List (Trail Node Edge Way)) (found : List Out)
    (hreport : ∀ trail ∈ frontier, ∀ next ∈ g.below (maxDepth - trail.edges.length) trail,
      ∃ out, emit next = .ok out) :
    ∃ found', g.search emit maxDepth limit frontier found = .ok found' := by
  induction frontier, found using search.induct g emit maxDepth limit with
  | case1 found => exact ⟨found, by rw [search]⟩
  | case2 found trail frontier hfull => exact ⟨found, by rw [search, if_pos hfull]⟩
  | case3 found trail frontier hroom hdepth ih =>
    rw [search, if_neg hroom, dif_pos hdepth]
    exact ih (forall_mem_cons.mp hreport).2
  | case4 found trail frontier hroom hdepth e herror =>
    have hbelow := g.below_perm maxDepth trail (by omega)
    have hchildren : ∀ next ∈ g.children trail, ∃ out, emit next = .ok out := fun next hnext =>
      (forall_mem_cons.mp hreport).1 next (hbelow.mem_iff.mpr (mem_append_left _ hnext))
    obtain ⟨after, hafter⟩ := expand_returns hchildren limit frontier found
    rw [hafter] at herror
    exact absurd herror nofun
  | case5 found trail frontier hroom hdepth frontier' found₁ hexpand ih =>
    rw [search, if_neg hroom, dif_neg hdepth]
    split
    · rename_i e herror
      rw [hexpand] at herror
      exact absurd herror nofun
    · rename_i _ _ hagain
      rw [hexpand] at hagain
      cases hagain
      obtain ⟨outs, rfl, -, hqueue⟩ := expand_reports (by omega) hexpand
      by_cases hfull : limit ≤ (found ++ outs).length
      · -- The loop is over, whatever is queued.
        cases frontier' with
        | nil => exact ⟨_, by rw [search]⟩
        | cons next rest => exact ⟨_, by rw [search, if_pos hfull]⟩
      · refine ih fun next hnext deeper hdeeper => ?_
        rw [hqueue (by omega), mem_append] at hnext
        have hall := forall_mem_cons.mp hreport
        rcases hnext with hnext | hnext
        · exact hall.2 next hnext deeper hdeeper
        · have hbelow := g.below_perm maxDepth trail (by omega)
          exact hall.1 deeper (hbelow.mem_iff.mpr (mem_append_right _
            (mem_flatMap.mpr ⟨next, hnext, hdeeper⟩)))

/-- The edges lead from node to node, each in its way. -/
def Walk (follow : Edge → Node → Option (Node × Way)) : List Node → List Edge → List Way → Prop
  | [_], [], [] => True
  | node :: next :: nodes, edge :: edges, way :: ways =>
    follow edge node = some (next, way) ∧ Walk follow (next :: nodes) edges ways
  | _, _, _ => False

/-- A trail is a path of the graph that visits no node twice. -/
structure IsPath (g : Graph Node Edge Way) (trail : Trail Node Edge Way) : Prop where
  eligible : ∀ edge ∈ trail.edges, edge ∈ g.edges
  walk : Walk g.follow trail.nodes trail.edges trail.ways
  simple : trail.nodes.Nodup
  stands : trail.nodes.getLast? = some trail.node

omit [DecidableEq Node] in
theorem isPath_start (g : Graph Node Edge Way) (node : Node) : g.IsPath (.start node) where
  eligible := by simp [Trail.start]
  walk := trivial
  simple := nodup_singleton node
  stands := rfl

variable {nodes : List Node} {ways : List Way}

omit [DecidableEq Node] in
theorem walk_snoc (follow : Edge → Node → Option (Node × Way)) (edge : Edge) (next : Node)
    (way : Way) :
    Walk follow (nodes ++ [next]) (edges ++ [edge]) (ways ++ [way]) ↔
      Walk follow nodes edges ways ∧
        ∃ node, nodes.getLast? = some node ∧ follow edge node = some (next, way) := by
  induction edges generalizing nodes ways with
  | nil =>
    match nodes, ways with
    | [], _ => simp [Walk]
    | [node], [] => simp [Walk]
    | [node], _ :: _ => simp [Walk]
    | node :: _ :: _, [] => simp [Walk]
    | node :: _ :: _, _ :: _ => simp [Walk]
  | cons first edges ih =>
    match nodes, ways with
    | [], [] => simp [Walk]
    | [], _ :: _ => simp [Walk]
    | [node], [] => cases edges <;> simp [Walk]
    | [node], _ :: _ => cases edges <;> simp [Walk]
    | node :: _ :: _, [] => simp [Walk]
    | node :: second :: nodes, _ :: ways =>
      have hrest : Walk follow ((second :: nodes) ++ [next]) (edges ++ [edge]) (ways ++ [way]) ↔
          _ := ih
      simp only [cons_append, Walk] at hrest ⊢
      rw [hrest, and_assoc, List.getLast?_cons_cons]

omit [DecidableEq Node] in
theorem Walk.lengths {follow : Edge → Node → Option (Node × Way)}
    (h : Walk follow nodes edges ways) :
    nodes.length = edges.length + 1 ∧ ways.length = edges.length := by
  induction edges generalizing nodes ways with
  | nil =>
    match nodes, ways, h with
    | [_], [], _ => exact ⟨rfl, rfl⟩
  | cons edge edges ih =>
    match nodes, ways, h with
    | _ :: next :: nodes, _ :: ways, ⟨_, h⟩ =>
      obtain ⟨hnodes, hways⟩ := ih h
      rw [length_cons] at hnodes
      exact ⟨by simp [hnodes], by simp [hways]⟩

theorem IsPath.extend {trail next : Trail Node Edge Way} (htrail : g.IsPath trail)
    (hedge : edge ∈ g.edges) (h : g.extend trail edge = some next) :
    g.IsPath next ∧ next.nodes.head? = trail.nodes.head? := by
  unfold Graph.extend at h
  split at h
  · exact absurd h nofun
  · rename_i node way hfollow
    split at h
    · exact absurd h nofun
    · rename_i hnew
      cases h
      have hne : trail.nodes ≠ [] := by
        intro hnil
        simpa [hnil] using htrail.stands
      refine ⟨⟨?_, ?_, ?_, by simp [Trail.along]⟩, List.head?_append_of_ne_nil _ hne⟩
      · intro other hother
        rcases mem_append.mp hother with hother | hother
        · exact htrail.eligible other hother
        · rw [mem_singleton.mp hother]
          exact hedge
      · exact (walk_snoc g.follow edge node way).mpr ⟨htrail.walk, trail.node, htrail.stands, hfollow⟩
      · exact htrail.simple.append (nodup_singleton node) (by simpa using hnew)

theorem IsPath.shorten (h : g.IsPath trail) (hlength : trail.edges ≠ []) :
    ∃ before edge, g.IsPath before ∧ edge ∈ g.edges ∧ g.extend before edge = some trail ∧
      before.nodes.head? = trail.nodes.head? ∧
      before.edges.length + 1 = trail.edges.length := by
  obtain ⟨node, edges, nodes, ways⟩ := trail
  obtain ⟨heligible, hwalk, hsimple, hstands⟩ := h
  have hlengths := hwalk.lengths
  -- The last edge, the node it leads to and its way.
  obtain ⟨edges, edge, rfl⟩ := (eq_nil_or_concat' edges).resolve_left hlength
  obtain ⟨nodes, last, rfl⟩ := (eq_nil_or_concat' nodes).resolve_left (by
    intro hnil
    simp [hnil] at hlengths)
  obtain ⟨ways, way, rfl⟩ := (eq_nil_or_concat' ways).resolve_left (by
    intro hnil
    simp [hnil] at hlengths)
  obtain ⟨hbefore, from', hfrom, hfollow⟩ := (walk_snoc g.follow edge last way).mp hwalk
  simp only [List.getLast?_append, List.getLast?_singleton, Option.some_or, Option.some.injEq]
    at hstands
  subst hstands
  have hdisjoint := nodup_append'.mp hsimple
  refine ⟨⟨from', edges, nodes, ways⟩, edge, ⟨fun e he => heligible e (by simp [he]), hbefore,
    hdisjoint.1, hfrom⟩, heligible edge (by simp), ?_, ?_, by simp⟩
  · have hnew : last ∉ nodes := by simpa using hdisjoint.2.2
    simp [Graph.extend, hfollow, hnew, Trail.along]
  · have hne : nodes ≠ [] := by
      intro hnil
      simp [hnil] at hfrom
    exact (List.head?_append_of_ne_nil _ hne).symm

variable {node : Node}

omit [DecidableEq Node] in
theorem IsPath.eq_start (h : g.IsPath trail) (hedges : trail.edges = [])
    (hhead : trail.nodes.head? = some node) : trail = .start node := by
  obtain ⟨stands, edges, nodes, ways⟩ := trail
  obtain ⟨-, hwalk, -, hstands⟩ := h
  cases hedges
  match nodes, ways, hwalk with
  | [only], [], _ =>
    cases hhead
    cases hstands
    rfl

variable {depth : Nat}

theorem below_snoc {trail deeper next : Trail Node Edge Way}
    (hdeeper : deeper ∈ g.below depth trail) (hnext : next ∈ g.children deeper) :
    next ∈ g.below (depth + 1) trail := by
  induction depth generalizing trail with
  | zero => simp [below] at hdeeper
  | succ depth ih =>
    rw [below] at hdeeper ⊢
    obtain ⟨child, hchild, hbelow⟩ := mem_flatMap.mp hdeeper
    refine mem_flatMap.mpr ⟨child, hchild, mem_cons_of_mem _ ?_⟩
    rcases mem_cons.mp hbelow with rfl | hbelow
    · rw [below]
      exact mem_flatMap.mpr ⟨next, hnext, mem_cons_self⟩
    · exact ih hbelow

theorem isPath_of_mem_below {trail deeper : Trail Node Edge Way} (htrail : g.IsPath trail)
    (h : deeper ∈ g.below depth trail) :
    g.IsPath deeper ∧ deeper.nodes.head? = trail.nodes.head? ∧
      trail.edges.length < deeper.edges.length ∧
      deeper.edges.length ≤ trail.edges.length + depth := by
  induction depth generalizing trail with
  | zero => simp [below] at h
  | succ depth ih =>
    rw [below] at h
    obtain ⟨child, hchild, hbelow⟩ := mem_flatMap.mp h
    obtain ⟨edge, hedge, hextend⟩ := mem_filterMap.mp hchild
    obtain ⟨hpath, hhead⟩ := htrail.extend hedge hextend
    have hlength := extend_length hextend
    rcases mem_cons.mp hbelow with rfl | hbelow
    · exact ⟨hpath, hhead, by omega, by omega⟩
    · obtain ⟨hdeeper, hstart, hlonger, hbound⟩ := ih hpath hbelow
      exact ⟨hdeeper, hstart.trans hhead, by omega, by omega⟩

/-- The trails below a node are the paths from it. -/
theorem mem_below_start :
    trail ∈ g.below depth (.start node) ↔
      g.IsPath trail ∧ trail.nodes.head? = some node ∧
        1 ≤ trail.edges.length ∧ trail.edges.length ≤ depth := by
  constructor
  · intro h
    obtain ⟨hpath, hhead, hlonger, hbound⟩ := isPath_of_mem_below (g.isPath_start node) h
    exact ⟨hpath, hhead, hlonger, by simpa [Trail.start] using hbound⟩
  · rintro ⟨hpath, hhead, hlength, hbound⟩
    induction depth generalizing trail with
    | zero => omega
    | succ depth ih =>
      obtain ⟨before, edge, hbefore, hedge, hextend, hstart, hone⟩ :=
        hpath.shorten (ne_nil_of_length_pos hlength)
      have hchild : trail ∈ g.children before := mem_filterMap.mpr ⟨edge, hedge, hextend⟩
      by_cases hleft : before.edges = []
      · -- The path has one edge, and what it extends has not left the node.
        have hbeforeStart := hbefore.eq_start hleft (hstart.trans hhead)
        rw [below, ← hbeforeStart]
        exact mem_flatMap.mpr ⟨trail, hchild, mem_cons_self⟩
      · exact below_snoc (ih hbefore (hstart.trans hhead) (length_pos_of_ne_nil hleft)
          (by omega)) hchild

theorem edges_of_mem_below {trail deeper : Trail Node Edge Way} (h : deeper ∈ g.below depth trail) :
    ∃ more, more ≠ [] ∧ deeper.edges = trail.edges ++ more := by
  induction depth generalizing trail with
  | zero => simp [below] at h
  | succ depth ih =>
    rw [below] at h
    obtain ⟨child, hchild, hbelow⟩ := mem_flatMap.mp h
    obtain ⟨edge, -, hextend⟩ := mem_filterMap.mp hchild
    have hedges := extend_edges hextend
    rcases mem_cons.mp hbelow with rfl | hbelow
    · exact ⟨[edge], by simp, hedges⟩
    · obtain ⟨more, -, hmore⟩ := ih hbelow
      exact ⟨edge :: more, by simp, by rw [hmore, hedges, append_assoc]; rfl⟩

theorem nodup_below (hedges : g.edges.Nodup) (depth : Nat) (trail : Trail Node Edge Way) :
    (g.below depth trail).Nodup := by
  induction depth generalizing trail with
  | zero => exact nodup_nil
  | succ depth ih =>
    rw [below, nodup_flatMap]
    constructor
    · intro child hchild
      refine nodup_cons.mpr ⟨fun hself => ?_, ih child⟩
      obtain ⟨more, hmore, heq⟩ := edges_of_mem_below hself
      exact hmore (self_eq_append_right.mp heq)
    · -- Trails below different extensions differ in the edge that extends.
      refine pairwise_filterMap.mpr (hedges.imp fun {first second} hne => ?_)
      intro child hchild child' hchild' deeper hdeeper hdeeper'
      have hsplit : ∀ {child : Trail Node Edge Way} {edge : Edge},
          g.extend trail edge = some child → deeper ∈ child :: g.below depth child →
          ∃ more, deeper.edges = trail.edges ++ edge :: more := by
        intro child edge hextend hmem
        have hedges := extend_edges hextend
        rcases mem_cons.mp hmem with rfl | hmem
        · exact ⟨[], hedges⟩
        · obtain ⟨more, -, hmore⟩ := edges_of_mem_below hmem
          exact ⟨more, by rw [hmore, hedges, append_assoc]; rfl⟩
      obtain ⟨more, hmore⟩ := hsplit hchild hdeeper
      obtain ⟨more', hmore'⟩ := hsplit hchild' hdeeper'
      rw [hmore, append_cancel_left_eq] at hmore'
      cases hmore'
      exact hne rfl

variable [DecidableEq Edge] [DecidableEq Way]

/-- Each of them is there once. -/
theorem count_below (hedges : g.edges.Nodup) (nodes : List Node) (hpath : g.IsPath trail)
    (hhead : trail.nodes.head? = some node) (hlength : 1 ≤ trail.edges.length)
    (hbound : trail.edges.length ≤ depth) :
    (nodes.flatMap fun node => g.below depth (.start node)).count trail = nodes.count node := by
  induction nodes with
  | nil => rfl
  | cons first nodes ih =>
    rw [flatMap_cons, count_append, ih, count_cons]
    by_cases hfirst : first = node
    · subst hfirst
      rw [count_eq_one_of_mem (nodup_below hedges depth _)
        (mem_below_start.mpr ⟨hpath, hhead, hlength, hbound⟩)]
      simp [Nat.add_comm]
    · have hnot : trail ∉ g.below depth (.start first) := by
        intro hmem
        obtain ⟨-, hother, -⟩ := mem_below_start.mp hmem
        rw [hhead] at hother
        exact hfirst (Option.some.inj hother).symm
      rw [count_eq_zero_of_not_mem hnot]
      simp [hfirst]

end Graph

end NovelAgent.Core
