import Mathlib.Data.List.Induction
import Mathlib.Data.List.ReduceOption
import NovelAgent.R1.GraphPaths
import NovelAgent.World.Verdict

/-!
# Path Search

What the bounded search is to find, and that it finds it.
-/

namespace NovelAgent.R1

open Core Domain World List Outcome

/-- A row is an edge of a query. -/
structure Eligible (tables : R1Tables) (sourceCommit : CommitId) (query : GraphQuery)
    (edge : Edge) : Prop where
  stored : edge.row ∈ tables.records
  commit : edge.row.sourceCommit = sourceCommit.root
  relation : edge.row.recordKind = WorldRecordKind.relation.value
  visible : edge.row.accessScope ∈ query.accessScopes
  subject : (endpoints tables.associations edge.row.rowId).lookup "subject" = some edge.source
  object : (endpoints tables.associations edge.row.rowId).lookup "object" = some edge.target
  accepted : edge.row.truthClass = some TruthClass.acceptedWorldFact.value
  evidenced : ∃ evidence, evidenceRefs edge.row.recordJson = .ok evidence ∧ evidence ≠ []
  predicate : query.allowedPredicates = [] ∨
    ∃ predicate ∈ query.allowedPredicates, edge.row.predicate = some predicate
  current : edgeMatchesTime edge.row query.timeScope = true
  canonical : "canonical" ∈ query.allowedEdgeSemantics

/-- A path of a query: it leaves a seed along eligible edges, visits no node twice, and has an
    edge at least and no more than are asked for. -/
structure IsGraphPath (tables : R1Tables) (sourceCommit : CommitId) (entityIds : List StableId)
    (query : GraphQuery) (trail : Trail) : Prop where
  starts : ∃ entity ∈ entityIds, trail.nodes.head? = some entity.root
  eligible : ∀ edge ∈ trail.edges, Eligible tables sourceCommit query edge
  walk : Graph.Walk follow trail.nodes trail.edges trail.ways
  simple : trail.nodes.Nodup
  leaves : 1 ≤ trail.edges.length
  bounded : (trail.edges.length : Int) ≤ query.maxDepth
  stands : trail.nodes.getLast? = some trail.node

/-- A receipt names the rows, the nodes and the directions of a path. -/
def Describes (path : GraphPathReceipt) (trail : Trail) : Prop :=
  path.relationRowIds.map StableId.root = trail.edges.map (fun edge => edge.row.rowId) ∧
    path.entityPath.map StableId.root = trail.nodes ∧ path.directions = trail.ways

instance (path : GraphPathReceipt) (trail : Trail) : Decidable (Describes path trail) :=
  inferInstanceAs (Decidable (_ ∧ _ ∧ _))

section

variable {associations : List R1RecordEntityRow}

theorem endpoints_filter {rowIds : List String} {rowId : String} (h : rowId ∈ rowIds) :
    endpoints (associations.filter fun association => association.rowId ∈ rowIds) rowId =
      endpoints associations rowId := by
  unfold endpoints
  rw [filter_filter]
  congr 1
  refine filter_congr fun association _ => ?_
  by_cases heq : association.rowId = rowId
  · simp [heq, h]
  · simp [heq]

variable {query : GraphQuery} {row : R1RecordRow}

/-- What it takes for a row to be let through. -/
theorem edgeOf_eq_some {edge : Edge} :
    edgeOf associations query row = .ok (some edge) ↔
      edge.row = row ∧ (endpoints associations row.rowId).lookup "subject" = some edge.source ∧
      (endpoints associations row.rowId).lookup "object" = some edge.target ∧
      row.truthClass = some TruthClass.acceptedWorldFact.value ∧
      (∃ evidence, evidenceRefs row.recordJson = .ok evidence ∧ evidence ≠ []) ∧
      (query.allowedPredicates = [] ∨
        ∃ predicate ∈ query.allowedPredicates, row.predicate = some predicate) ∧
      edgeMatchesTime row query.timeScope = true := by
  unfold edgeOf
  cases hsubject : (endpoints associations row.rowId).lookup "subject" with
  | none => simp
  | some source =>
    cases hobject : (endpoints associations row.rowId).lookup "object" with
    | none => simp
    | some target =>
      simp only
      by_cases htruth : row.truthClass = some TruthClass.acceptedWorldFact.value
      · rw [if_neg (not_not.mpr htruth), Outcome.bind_eq_ok]
        have hpredicate : (row.predicate.any (· ∈ query.allowedPredicates) = true) ↔
            ∃ predicate ∈ query.allowedPredicates, row.predicate = some predicate := by
          cases row.predicate <;> simp
        constructor
        · rintro ⟨evidence, hevidence, h⟩
          split at h
          · exact absurd h (by simp)
          rename_i hnonempty
          split at h
          · exact absurd h (by simp)
          rename_i hallowed
          split at h
          · exact absurd h (by simp)
          rename_i hcurrent
          simp only [Except.ok.injEq, Option.some.injEq] at h
          rw [not_and_or, not_not, not_not, hpredicate] at hallowed
          subst h
          exact ⟨rfl, rfl, rfl, htruth, ⟨evidence, hevidence, hnonempty⟩, hallowed,
            not_not.mp hcurrent⟩
        · rintro ⟨rfl, hsource, htarget, -, ⟨evidence, hevidence, hnonempty⟩, hallowed, hcurrent⟩
          refine ⟨evidence, hevidence, ?_⟩
          rw [← hpredicate] at hallowed
          rw [if_neg hnonempty, if_neg (by tauto), if_neg (not_not.mpr hcurrent)]
          cases hsource
          cases htarget
          rfl
      · simp [htruth]

variable {tables : R1Tables} {sourceCommit : CommitId} {edges : List (Option Edge)}

/-- The edges that are followed are the eligible ones. -/
theorem mem_edges (hcanonical : "canonical" ∈ query.allowedEdgeSemantics)
    (h : (selectRows tables sourceCommit query.accessScopes).mapM (edgeOf
      (tables.associations.filter fun association => association.rowId ∈
        (selectRows tables sourceCommit query.accessScopes).map R1RecordRow.rowId) query) =
      .ok edges) (edge : Edge) :
    edge ∈ edges.reduceOption ↔ Eligible tables sourceCommit query edge := by
  rw [reduceOption_mem_iff, mapM_mem h]
  have hrows : ∀ row, row ∈ selectRows tables sourceCommit query.accessScopes ↔
      row ∈ tables.records ∧ row.sourceCommit = sourceCommit.root ∧
        row.recordKind = WorldRecordKind.relation.value ∧ row.accessScope ∈ query.accessScopes := by
    intro row
    simp [selectRows]
  constructor
  · rintro ⟨row, hrow, hedge⟩
    have hread := mem_map_of_mem (f := R1RecordRow.rowId) hrow
    rw [edgeOf_eq_some, endpoints_filter hread] at hedge
    obtain ⟨rfl, hsubject, hobject, haccepted, hevidenced, hpredicate, hcurrent⟩ := hedge
    obtain ⟨hstored, hcommit, hrelation, hvisible⟩ := (hrows _).mp hrow
    exact ⟨hstored, hcommit, hrelation, hvisible, hsubject, hobject, haccepted, hevidenced,
      hpredicate, hcurrent, hcanonical⟩
  · intro heligible
    have hrow := (hrows edge.row).mpr ⟨heligible.stored, heligible.commit, heligible.relation,
      heligible.visible⟩
    have hread := mem_map_of_mem (f := R1RecordRow.rowId) hrow
    refine ⟨edge.row, hrow, ?_⟩
    rw [edgeOf_eq_some, endpoints_filter hread]
    exact ⟨rfl, heligible.subject, heligible.object, heligible.accepted, heligible.evidenced,
      heligible.predicate, heligible.current⟩

theorem rows_sublist {rows : List R1RecordRow}
    (h : rows.mapM (edgeOf associations query) = .ok edges) :
    (edges.reduceOption.map Edge.row).Sublist rows := by
  have hlinked := mapM_linked.mp h
  clear h
  induction hlinked with
  | nil => exact .slnil
  | @cons row edge rows edges hedge _ ih =>
    cases edge with
    | none => exact ih.cons row
    | some edge =>
      rw [reduceOption_cons_of_some, map_cons, (edgeOf_eq_some.mp hedge).1]
      exact ih.cons_cons row

theorem nodup_edges {accessScopes : List String}
    (h : (selectRows tables sourceCommit accessScopes).mapM (edgeOf associations query) =
      .ok edges) : edges.reduceOption.Nodup := by
  have hrecords : tables.records.Nodup := .of_map _ tables.primaryKey
  have hrows : (edges.reduceOption.map Edge.row).Nodup :=
    (hrecords.sublist filter_sublist).sublist (rows_sublist h)
  exact .of_map _ hrows

variable {path : GraphPathReceipt}

theorem build_eq_ok {fields : GraphPathFields} :
    GraphPathReceipt.build fields = .ok path ↔ path.toGraphPathFields = fields := by
  unfold GraphPathReceipt.build
  constructor
  · intro h
    split at h
    · cases h
      rfl
    · exact absurd h nofun
  · rintro rfl
    split
    · rfl
    · rename_i message hmessage
      exact absurd (hmessage.symm.trans path.shaped) nofun

theorem stableId_eq_ok {text : String} {id : StableId} : stableId text = .ok id ↔ id.root = text := by
  rw [← StableId.ofString?_eq_some]
  unfold stableId
  cases StableId.ofString? text <;> simp

theorem mapM_stableId {α : Type} (column : α → String) {items : List α} {ids : List StableId} :
    (items.mapM fun item => stableId (column item)) = .ok ids ↔
      ids.map StableId.root = items.map column := by
  rw [mapM_linked]
  simp only [stableId_eq_ok]
  induction items generalizing ids with
  | nil => cases ids <;> simp
  | cons item items ih =>
    cases ids with
    | nil => simp
    | cons id ids => simp [ih]

/-- What the receipt of a path says. -/
structure Stated (sourceCommit : CommitId) (snapshotId : StableId) (entityIds : List StableId)
    (trail : Trail) (path : GraphPathReceipt) : Prop where
  commit : path.sourceCommit = sourceCommit
  snapshot : path.snapshotId = snapshotId
  seeds : path.seedEntityIds = entityIds
  rows : path.relationRowIds.map StableId.root = trail.edges.map fun edge => edge.row.rowId
  relations : path.relationIds.map StableId.root = trail.edges.map fun edge => edge.row.recordId
  entities : path.entityPath.map StableId.root = trail.nodes
  directions : path.directions = trail.ways
  predicates : path.predicates = trail.edges.map fun edge => edge.row.predicate.getD "None"
  identity : path.pathId =
    graphPathId sourceCommit snapshotId path.relationRowIds path.entityPath path.directions
  evidence : ∃ refs, (trail.edges.mapM fun edge => evidenceRefs edge.row.recordJson) = .ok refs ∧
    path.evidenceRefs = refs.flatten

variable {snapshotId : StableId} {entityIds : List StableId} {trail : Trail}

theorem receipt_stated (h : receipt sourceCommit snapshotId entityIds trail = .ok path) :
    Stated sourceCommit snapshotId entityIds trail path := by
  simp only [receipt, Outcome.bind_eq_ok, mapM_stableId, build_eq_ok] at h
  obtain ⟨refs, hrefs, validTime, -, rowIds, hrows, relationIds, hrelations, entityPath, hentities,
    hpath⟩ := h
  have hnodes : entityPath.map StableId.root = trail.nodes := by
    simpa using (mapM_stableId id).mp hentities
  obtain ⟨fields, hshaped⟩ := path
  cases hpath
  exact ⟨rfl, rfl, rfl, hrows, hrelations, hnodes, rfl, rfl, rfl, refs, hrefs, rfl⟩

/-- The receipt of a path states it. -/
theorem receipt_describes (h : receipt sourceCommit snapshotId entityIds trail = .ok path) :
    Describes path trail :=
  have hstated := receipt_stated h
  ⟨hstated.rows, hstated.entities, hstated.directions⟩

theorem Eligible.ext {edge edge' : Edge} (h : Eligible tables sourceCommit query edge)
    (h' : Eligible tables sourceCommit query edge') (hrow : edge.row.rowId = edge'.row.rowId) :
    edge = edge' := by
  have hsame : edge.row = edge'.row :=
    inj_on_of_nodup_map tables.primaryKey h.stored h'.stored hrow
  have hsource := h.subject.symm.trans (hrow ▸ h'.subject)
  have htarget := h.object.symm.trans (hrow ▸ h'.object)
  cases edge
  cases edge'
  simp_all

theorem edges_ext {edges edges' : List Edge}
    (h : ∀ edge ∈ edges, Eligible tables sourceCommit query edge)
    (h' : ∀ edge ∈ edges', Eligible tables sourceCommit query edge)
    (hrows : edges.map (fun edge => edge.row.rowId) = edges'.map fun edge => edge.row.rowId) :
    edges = edges' := by
  induction edges generalizing edges' with
  | nil => exact (map_eq_nil_iff.mp hrows.symm).symm
  | cons edge edges ih =>
    cases edges' with
    | nil => exact absurd hrows (by simp)
    | cons edge' edges' =>
      rw [forall_mem_cons] at h h'
      rw [map_cons, map_cons, List.cons.injEq] at hrows
      rw [h.1.ext h'.1 hrows.1, ih h.2 h'.2 hrows.2]

theorem describes_unique {trail trail' : Trail}
    (h : IsGraphPath tables sourceCommit entityIds query trail)
    (h' : IsGraphPath tables sourceCommit entityIds query trail') (hpath : Describes path trail)
    (hpath' : Describes path trail') : trail = trail' := by
  obtain ⟨hrows, hnodes, hways⟩ := hpath
  obtain ⟨hrows', hnodes', hways'⟩ := hpath'
  have hedges := edges_ext h.eligible h'.eligible (hrows.symm.trans hrows')
  have hstands : trail.node = trail'.node := by
    have hlast := h.stands
    rw [← hnodes, hnodes', h'.stands] at hlast
    exact (Option.some.inj hlast).symm
  cases trail
  cases trail'
  simp_all

variable {paths : List GraphPathReceipt}

theorem countP_describes {trails : List Trail}
    (h : trails.mapM (receipt sourceCommit snapshotId entityIds) = .ok paths)
    (htrails : ∀ other ∈ trails, IsGraphPath tables sourceCommit entityIds query other)
    (htrail : IsGraphPath tables sourceCommit entityIds query trail) :
    paths.countP (fun path => Describes path trail) = trails.count trail := by
  have hlinked := mapM_linked.mp h
  clear h
  induction hlinked with
  | nil => rfl
  | @cons other path trails paths hpath _ ih =>
    rw [forall_mem_cons] at htrails
    rw [countP_cons, count_cons, ih htrails.2]
    have hother := receipt_describes hpath
    by_cases hsame : other = trail
    · subst hsame
      simp [hother]
    · have hnot : ¬ Describes path trail := fun hdescribes =>
        hsame (describes_unique htrails.1 htrail hother hdescribes)
      simp [hnot, hsame]

theorem typedGraphPaths_eq_ok
    (h : typedGraphPaths tables sourceCommit entityIds query = .ok paths) :
    1 ≤ query.maxDepth ∧ 1 ≤ query.limit ∧
      ((entityIds = [] ∧ paths = []) ∨ ("canonical" ∉ query.allowedEdgeSemantics ∧ paths = []) ∨
        "canonical" ∈ query.allowedEdgeSemantics ∧
        ∃ edges : List Edge, edges.Nodup ∧
          (∀ edge, edge ∈ edges ↔ Eligible tables sourceCommit query edge) ∧
          Graph.search ⟨edges, follow⟩
            (receipt sourceCommit (effectiveSnapshot sourceCommit query) entityIds)
            query.maxDepth.toNat query.limit.toNat
            (entityIds.map fun entity => Trail.start entity.root) [] = .ok paths) := by
  unfold typedGraphPaths at h
  split at h
  · cases h
  rename_i hbounds
  refine ⟨by omega, by omega, ?_⟩
  split at h
  · rename_i hseeds
    cases h
    exact .inl ⟨hseeds, rfl⟩
  refine .inr ?_
  simp only [Outcome.bind_eq_ok] at h
  obtain ⟨-, -, edges, hedges, h⟩ := h
  split at h
  · cases h
  split at h
  · rename_i hcanonical
    cases h
    exact .inl ⟨hcanonical, rfl⟩
  · rename_i hcanonical
    rw [not_not] at hcanonical
    exact .inr ⟨hcanonical, edges.reduceOption, nodup_edges hedges, mem_edges hcanonical hedges, h⟩

theorem isGraphPath_iff {edges : List Edge} (hdepth : 1 ≤ query.maxDepth)
    (hedges : ∀ edge, edge ∈ edges ↔ Eligible tables sourceCommit query edge) (trail : Trail) :
    IsGraphPath tables sourceCommit entityIds query trail ↔
      (∃ entity ∈ entityIds, trail.nodes.head? = some entity.root) ∧
      Graph.IsPath ⟨edges, follow⟩ trail ∧ 1 ≤ trail.edges.length ∧
      trail.edges.length ≤ query.maxDepth.toNat := by
  constructor
  · intro h
    have hbounded := h.bounded
    exact ⟨h.starts, ⟨fun edge hedge => (hedges edge).mpr (h.eligible edge hedge), h.walk, h.simple,
      h.stands⟩, h.leaves, by omega⟩
  · rintro ⟨hstarts, hpath, hleaves, hbounded⟩
    exact ⟨hstarts, fun edge hedge => (hedges edge).mp (hpath.eligible edge hedge), hpath.walk,
      hpath.simple, hleaves, by omega, hpath.stands⟩

/-- The receipts are those of an initial part of a listing of the paths, in which a path stands
    as often as its first node among the seeds. -/
theorem typedGraphPaths_trails
    (h : typedGraphPaths tables sourceCommit entityIds query = .ok paths) :
    ∃ listing : List Trail,
      (listing.take query.limit.toNat).mapM
        (receipt sourceCommit (effectiveSnapshot sourceCommit query) entityIds) = .ok paths ∧
      (∀ trail ∈ listing, IsGraphPath tables sourceCommit entityIds query trail) ∧
      ∀ trail, IsGraphPath tables sourceCommit entityIds query trail →
        ∀ seed : StableId, trail.nodes.head? = some seed.root →
          listing.count trail = entityIds.count seed := by
  obtain ⟨hdepth, -, hcases⟩ := typedGraphPaths_eq_ok h
  rcases hcases with ⟨rfl, rfl⟩ | ⟨hsemantics, rfl⟩ | ⟨-, edges, hnodup, hedges, hsearch⟩
  · exact ⟨[], by simp [pure, Except.pure], by simp, by simp⟩
  · -- Without canonical semantics no row is an edge.
    refine ⟨[], by simp [pure, Except.pure], by simp, fun trail htrail => ?_⟩
    obtain ⟨edge, hedge⟩ := exists_mem_of_length_pos htrail.leaves
    exact absurd (htrail.eligible edge hedge).canonical hsemantics
  · obtain ⟨listing, outs, hfound, hperm, houts⟩ := Graph.search_lists hsearch
    rw [nil_append] at hfound
    subst hfound
    have hbelow : listing.Perm ((entityIds.map StableId.root).flatMap fun node =>
        Graph.below ⟨edges, follow⟩ query.maxDepth.toNat (Trail.start node)) := by
      rw [flatMap_map] at hperm ⊢
      exact hperm
    refine ⟨listing, houts, fun trail htrail => ?_, fun trail htrail seed hseed => ?_⟩
    · obtain ⟨node, hnode, hmem⟩ := mem_flatMap.mp (hbelow.mem_iff.mp htrail)
      obtain ⟨entity, hentity, rfl⟩ := mem_map.mp hnode
      obtain ⟨hpath, hhead, hleaves, hbounded⟩ := Graph.mem_below_start.mp hmem
      exact (isGraphPath_iff hdepth hedges trail).mpr ⟨⟨entity, hentity, hhead⟩, hpath, hleaves,
        hbounded⟩
    · obtain ⟨-, hpath, hleaves, hbounded⟩ := (isGraphPath_iff hdepth hedges trail).mp htrail
      rw [hbelow.count_eq, Graph.count_below hnodup _ hpath hseed hleaves hbounded]
      exact count_map_of_injective _ _ (fun _ _ => StableId.root_inj.mp) seed

/-- The columns of a row have the form that a receipt asks for. -/
structure Presentable (tables : R1Tables) (row : R1RecordRow) : Prop where
  rowId : isStableId row.rowId = true
  recordId : isStableId row.recordId = true
  interval : ordinalsOrdered row.validStart row.validEnd = true
  evidence : ∃ refs, evidenceRefs row.recordJson = .ok refs
  participants : ∀ association ∈ tables.associations, association.rowId = row.rowId →
    isStableId association.entityId = true

/-- The arguments that a traversal does not refuse. -/
def GraphQuery.Accepted (query : GraphQuery) : Prop :=
  1 ≤ query.maxDepth ∧ 1 ≤ query.limit ∧ validateAccessScopes query.accessScopes = .ok () ∧
    query.allowedEdgeSemantics ≠ [] ∧ "inferred" ∉ query.allowedEdgeSemantics ∧
    "similarity" ∉ query.allowedEdgeSemantics

theorem mem_of_lookup_endpoints {rowId role entityId : String}
    (h : (endpoints associations rowId).lookup role = some entityId) :
    ∃ association ∈ associations, association.rowId = rowId ∧ association.entityId = entityId := by
  unfold endpoints at h
  -- The associations that are read last decide, so the induction is from the end.
  have hlist : ∀ (read : List R1RecordEntityRow),
      (read.foldl (fun roles association => assign roles association.role association.entityId)
        []).lookup role = some entityId → ∃ association ∈ read, association.entityId = entityId := by
    intro read
    induction read using List.reverseRecOn with
    | nil => exact fun h => absurd h (by simp)
    | append_singleton read last ih =>
      intro h
      rw [foldl_append, foldl_cons, foldl_nil, lookup_assign] at h
      split at h
      · exact ⟨last, by simp, Option.some.inj h⟩
      · obtain ⟨association, hread, hentity⟩ := ih h
        exact ⟨association, mem_append_left _ hread, hentity⟩
  obtain ⟨association, hread, hentity⟩ := hlist _ h
  rw [mem_filter, decide_eq_true_eq] at hread
  exact ⟨association, hread.1, hread.2, hentity⟩

theorem mem_walk {nodes : List String} {edges : List Edge} {ways : List Direction}
    (h : Graph.Walk follow nodes edges ways) :
    ∀ node ∈ nodes, nodes.head? = some node ∨
      ∃ edge ∈ edges, edge.source = node ∨ edge.target = node := by
  induction edges generalizing nodes ways with
  | nil =>
    match nodes, ways, h with
    | [only], [], _ =>
      intro node hnode
      exact .inl (by rw [mem_singleton.mp hnode]; rfl)
  | cons edge edges ih =>
    match nodes, ways, h with
    | first :: next :: nodes, _ :: ways, ⟨hfollow, hrest⟩ =>
      intro node hnode
      rcases mem_cons.mp hnode with rfl | hnode
      · exact .inl rfl
      rcases ih hrest node hnode with hhead | ⟨other, hother, hends⟩
      · -- The second node is where the first edge leads.
        obtain rfl : next = node := Option.some.inj hhead
        refine .inr ⟨edge, mem_cons_self, ?_⟩
        unfold follow at hfollow
        split at hfollow
        · exact .inr (Prod.mk.inj (Option.some.inj hfollow)).1
        · split at hfollow
          · exact .inl (Prod.mk.inj (Option.some.inj hfollow)).1
          · exact absurd hfollow nofun
      · exact .inr ⟨other, mem_cons_of_mem _ hother, hends⟩

/-- The receipt of a path can be made if its rows are presentable. -/
theorem receipt_returns (hrows : ∀ row ∈ tables.records, Presentable tables row)
    (htrail : IsGraphPath tables sourceCommit entityIds query trail) :
    ∃ path, receipt sourceCommit snapshotId entityIds trail = .ok path := by
  have hedges : ∀ edge ∈ trail.edges, Presentable tables edge.row := fun edge hedge =>
    hrows edge.row (htrail.eligible edge hedge).stored
  have hid : ∀ {text : String}, isStableId text = true → ∃ id, stableId text = .ok id :=
    fun {text} htext => ⟨⟨text, htext⟩, stableId_eq_ok.mpr rfl⟩
  obtain ⟨entity, hentity, hhead⟩ := htrail.starts
  obtain ⟨refs, hrefs⟩ := (mapM_returns (fun edge : Edge => evidenceRefs edge.row.recordJson)
    trail.edges).mpr fun edge hedge => (hedges edge hedge).evidence
  obtain ⟨validTime, htime⟩ := (mapM_returns (fun edge : Edge => storyTimeOf edge.row)
    trail.edges).mpr fun edge hedge => by
      unfold storyTimeOf
      exact ⟨_, dif_pos (hedges edge hedge).interval⟩
  obtain ⟨rowIds, hrowIds⟩ := (mapM_returns (fun edge : Edge => stableId edge.row.rowId)
    trail.edges).mpr fun edge hedge => hid (hedges edge hedge).rowId
  obtain ⟨relationIds, hrelations⟩ := (mapM_returns
    (fun edge : Edge => stableId edge.row.recordId) trail.edges).mpr
    fun edge hedge => hid (hedges edge hedge).recordId
  obtain ⟨entityPath, hentities⟩ := (mapM_returns stableId trail.nodes).mpr
    fun node hnode => by
      rcases mem_walk htrail.walk node hnode with hnode | ⟨edge, hedge, hends⟩
      · rw [hhead] at hnode
        exact hid (Option.some.inj hnode ▸ entity.valid)
      · have heligible := htrail.eligible edge hedge
        rcases hends with rfl | rfl
        · obtain ⟨association, hread, hrow, heq⟩ := mem_of_lookup_endpoints heligible.subject
          exact hid (heq ▸ (hedges edge hedge).participants association hread hrow)
        · obtain ⟨association, hread, hrow, heq⟩ := mem_of_lookup_endpoints heligible.object
          exact hid (heq ▸ (hedges edge hedge).participants association hread hrow)
  simp only [receipt, hrefs, htime, hrowIds, hrelations, hentities, Outcome.bind_eq_ok,
    Except.ok.injEq, exists_eq_left', build_eq_ok]
  refine ⟨⟨_, ?_⟩, rfl⟩
  -- The rules of a receipt: nothing is empty, all lengths agree, and the first node is a seed.
  have hleaves := htrail.leaves
  obtain ⟨hnodes, hways⟩ := htrail.walk.lengths
  have htimeLength := mapM_length htime
  have hrowLength := mapM_length hrowIds
  have hrelationLength := mapM_length hrelations
  have hentityLength := mapM_length hentities
  have hseed : entityPath.head?.any (· ∈ entityIds) = true := by
    have hroots := (mapM_stableId id).mp hentities
    rw [map_id] at hroots
    rw [← hroots, List.head?_map, Option.map_eq_some_iff] at hhead
    obtain ⟨first, hfirst, heq⟩ := hhead
    rw [hfirst, StableId.root_inj.mp heq]
    simpa using hentity
  have hevidence : refs.flatten ≠ [] := by
    -- The first edge has evidence of its own.
    obtain ⟨edge, hedge⟩ := exists_mem_of_length_pos hleaves
    obtain ⟨evidence, hevidence, hne⟩ := (htrail.eligible edge hedge).evidenced
    have hmem := (mapM_mem hrefs evidence).mpr ⟨edge, hedge, hevidence⟩
    intro hnil
    exact hne (flatten_eq_nil_iff.mp hnil evidence hmem)
  have hnonempty : ∀ {α : Type} {items : List α}, items.length = trail.edges.length → items ≠ [] :=
    fun hlength => ne_nil_of_length_pos (by omega)
  unfold GraphPathFields.violation
  rw [if_neg, if_neg, if_neg, if_neg, if_neg]
  · simp
  · simpa using hseed
  · simp only [ne_eq, not_not]
    omega
  · simp [hrowLength, hrelationLength, hways, htimeLength]
  · simp only [hnonempty hrowLength, hnonempty hrelationLength, hnonempty hways,
      hnonempty htimeLength, hevidence, hnonempty (length_map _), or_false, not_or,
      not_false_eq_true, true_and]
    exact ⟨ne_nil_of_mem hentity, by omega⟩

theorem edgeOf_returns (hrow : Presentable tables row) :
    ∃ edge, edgeOf associations query row = .ok edge := by
  obtain ⟨refs, hrefs⟩ := hrow.evidence
  unfold edgeOf
  split
  · split
    · exact ⟨none, rfl⟩
    · rw [hrefs]
      simp only [bind, Except.bind]
      split
      · exact ⟨none, rfl⟩
      split
      · exact ⟨none, rfl⟩
      split
      · exact ⟨none, rfl⟩
      · exact ⟨_, rfl⟩
  · exact ⟨none, rfl⟩

theorem typedGraphPaths_returns (sourceCommit : CommitId) (entityIds : List StableId)
    (hquery : query.Accepted) (hrows : ∀ row ∈ tables.records, Presentable tables row) :
    ∃ paths, typedGraphPaths tables sourceCommit entityIds query = .ok paths := by
  obtain ⟨hdepth, hlimit, hscopes, hsome, hinferred, hsimilarity⟩ := hquery
  obtain ⟨edges, hedges⟩ := (mapM_returns (edgeOf (tables.associations.filter
    fun association => association.rowId ∈ (selectRows tables sourceCommit
      query.accessScopes).map R1RecordRow.rowId) query)
    (selectRows tables sourceCommit query.accessScopes)).mpr fun row hrow =>
      edgeOf_returns (hrows row (mem_of_mem_filter hrow))
  unfold typedGraphPaths
  rw [if_neg (by omega)]
  by_cases hseeds : entityIds = []
  · exact ⟨[], if_pos hseeds⟩
  rw [if_neg hseeds, hscopes]
  simp only [bind, Except.bind, hedges]
  rw [if_neg (by tauto)]
  by_cases hcanonical : "canonical" ∈ query.allowedEdgeSemantics
  · rw [if_neg (not_not.mpr hcanonical)]
    refine Graph.search_returns _ _ fun trail htrail next hnext => ?_
    obtain ⟨entity, hentity, rfl⟩ := mem_map.mp htrail
    obtain ⟨hpath, hhead, hleaves, hbounded⟩ := Graph.mem_below_start.mp hnext
    exact receipt_returns hrows ((isGraphPath_iff hdepth (mem_edges hcanonical hedges) next).mpr
      ⟨⟨entity, hentity, hhead⟩, hpath, hleaves, hbounded⟩)
  · rw [if_pos hcanonical]
    exact ⟨[], rfl⟩

/-- The search is sound and complete. It returns unless it refuses its arguments or a row is
    malformed. It returns no more paths than it was asked for, and only paths. A path is
    returned at most as often as its first node is listed among the seeds, and exactly as often
    if fewer paths than asked for are returned. -/
theorem typed_graph_paths_sound_complete (tables : R1Tables) (sourceCommit : CommitId)
    (entityIds : List StableId) (query : GraphQuery) :
    (query.Accepted → (∀ row ∈ tables.records, Presentable tables row) →
      ∃ paths, typedGraphPaths tables sourceCommit entityIds query = .ok paths) ∧
    ∀ paths, typedGraphPaths tables sourceCommit entityIds query = .ok paths →
      (paths.length : Int) ≤ query.limit ∧
      (∀ path ∈ paths, ∃ trail, IsGraphPath tables sourceCommit entityIds query trail ∧
        Describes path trail) ∧
      ∀ trail, IsGraphPath tables sourceCommit entityIds query trail →
        ∀ seed : StableId, trail.nodes.head? = some seed.root →
          paths.countP (fun path => Describes path trail) ≤ entityIds.count seed ∧
          ((paths.length : Int) < query.limit →
            paths.countP (fun path => Describes path trail) = entityIds.count seed) := by
  refine ⟨typedGraphPaths_returns sourceCommit entityIds, fun paths hpaths => ?_⟩
  obtain ⟨-, hlimit, -⟩ := typedGraphPaths_eq_ok hpaths
  obtain ⟨listing, hreceipts, hlisting, hcount⟩ := typedGraphPaths_trails hpaths
  have hlength := mapM_length hreceipts
  rw [length_take] at hlength
  have htaken : ∀ trail ∈ listing.take query.limit.toNat,
      IsGraphPath tables sourceCommit entityIds query trail := fun trail htrail =>
    hlisting trail (mem_of_mem_take htrail)
  refine ⟨by omega, fun path hpath => ?_, fun trail htrail seed hseed => ⟨?_, fun hfew => ?_⟩⟩
  · obtain ⟨trail, htrail, hpath⟩ := (mapM_mem hreceipts path).mp hpath
    exact ⟨trail, htaken trail htrail, receipt_describes hpath⟩
  · rw [countP_describes hreceipts htaken htrail, ← hcount trail htrail seed hseed]
    exact (take_sublist _ _).count_le _
  · -- Nothing was cut off, so all that is listed was returned.
    have hall : listing.take query.limit.toNat = listing := take_of_length_le (by omega)
    rw [countP_describes hreceipts htaken htrail, hall, hcount trail htrail seed hseed]

end

namespace Sample

def ada : StableId := ⟨"ada", by decide⟩

def row : R1RecordRow where
  rowId := "r1.lives"
  projectId := "novel"
  sourceCommit := World.Sample.commit.root
  recordKind := "relation"
  recordId := "relation.lives"
  predicate := some "lives_in"
  validStart := none
  validEnd := none
  worldline := some "main"
  narrativeStart := none
  narrativeEnd := none
  accessScope := "writer_safe"
  truthClass := some "accepted_world_fact"
  recordJson := .object [("evidence_refs", .array [EvidenceRef.codec.dump World.Sample.evidence])]

def associations (further : List R1RecordEntityRow) : List R1RecordEntityRow :=
  ⟨"r1.lives", "ada", "subject"⟩ :: ⟨"r1.lives", "rome", "object"⟩ :: further

def tables (further : List R1RecordEntityRow) (h : (associations further).Nodup) : R1Tables where
  records := [row]
  associations := associations further
  primaryKey := nodup_singleton _
  uniqueKey := h

def query : GraphQuery where
  maxDepth := 1
  limit := 5

def edge : Edge := ⟨row, "ada", "rome"⟩

def trail : Trail := (Trail.start "ada").along edge "rome" .forward

theorem evidenceRefs_row : evidenceRefs row.recordJson = .ok [World.Sample.evidence] :=
  evidenceRefs_dump rfl

theorem presentable {further : List R1RecordEntityRow} (h : (associations further).Nodup)
    (hfurther : ∀ association ∈ further, isStableId association.entityId = true) :
    ∀ row ∈ (tables further h).records, Presentable (tables further h) row := by
  intro other hother
  rw [mem_singleton.mp hother]
  refine ⟨by decide, by decide, rfl, ⟨_, evidenceRefs_row⟩, fun association hread _ => ?_⟩
  rcases mem_cons.mp hread with rfl | hread
  · decide
  rcases mem_cons.mp hread with rfl | hread
  · decide
  · exact hfurther association hread

theorem accepted_query : query.Accepted :=
  ⟨by decide, by decide, rfl, by decide, by decide, by decide⟩

def plainTables : R1Tables := tables [] (by decide)

theorem presentable_plain : ∀ row ∈ plainTables.records, Presentable plainTables row :=
  presentable _ (by simp)

theorem eligible_edge {further : List R1RecordEntityRow} (h : (associations further).Nodup)
    (hsubject : (endpoints (associations further) "r1.lives").lookup "subject" = some "ada")
    (hobject : (endpoints (associations further) "r1.lives").lookup "object" = some "rome") :
    Eligible (tables further h) World.Sample.commit query edge where
  stored := mem_singleton.mpr rfl
  commit := rfl
  relation := rfl
  visible := mem_singleton.mpr rfl
  subject := hsubject
  object := hobject
  accepted := rfl
  evidenced := ⟨_, evidenceRefs_row, by simp⟩
  predicate := .inl rfl
  current := rfl
  canonical := by decide

theorem eligible_plain : Eligible plainTables World.Sample.commit query edge :=
  eligible_edge _ (by decide) (by decide)

theorem isGraphPath_trail {tables : R1Tables} {entityIds : List StableId} (hseed : ada ∈ entityIds)
    (hedge : Eligible tables World.Sample.commit query edge) :
    IsGraphPath tables World.Sample.commit entityIds query trail where
  starts := ⟨ada, hseed, rfl⟩
  eligible := by
    intro other hother
    rw [mem_singleton.mp hother]
    exact hedge
  walk := ⟨by decide, trivial⟩
  simple := by decide
  leaves := by decide
  bounded := by decide
  stands := rfl

theorem isGraphPath_plain :
    IsGraphPath plainTables World.Sample.commit [ada, ada] query trail :=
  isGraphPath_trail (by simp) eligible_plain

theorem eq_trail {other : Trail}
    (h : IsGraphPath plainTables World.Sample.commit [ada, ada] query other) :
    other = trail := by
  obtain ⟨node, edges, nodes, ways⟩ := other
  obtain ⟨⟨entity, hentity, hhead⟩, heligible, hwalk, -, hleaves, hbounded, hstands⟩ := h
  have hentity : entity = ada := by simpa using hentity
  subst hentity
  -- The path has one edge, and there is one row.
  obtain ⟨only, rfl⟩ : ∃ only, edges = [only] := by
    refine length_eq_one_iff.mp ?_
    have : (edges.length : Int) ≤ 1 := hbounded
    have : 1 ≤ edges.length := hleaves
    omega
  have honly := heligible only (mem_singleton.mpr rfl)
  have hrow : only.row = row := by simpa [plainTables, tables] using honly.stored
  obtain rfl : only = edge := honly.ext eligible_plain (by rw [hrow]; rfl)
  obtain ⟨hnodes, hways⟩ := hwalk.lengths
  obtain ⟨first, second, rfl⟩ := length_eq_two.mp hnodes
  obtain ⟨way, rfl⟩ := length_eq_one_iff.mp hways
  obtain rfl : first = "ada" := Option.some.inj hhead
  obtain ⟨rfl, rfl⟩ := Prod.mk.inj (Option.some.inj (hwalk.1.symm.trans
    (show follow edge "ada" = some ("rome", .forward) by decide)))
  obtain rfl : "rome" = node := Option.some.inj hstands
  rfl

end Sample

open Sample

/-- A seed that is listed twice has its paths returned twice. -/
theorem returned_twice :
    ¬ ∀ (tables : R1Tables) (sourceCommit : CommitId) (entityIds : List StableId)
        (query : GraphQuery) (paths : List GraphPathReceipt) (trail : Trail),
      typedGraphPaths tables sourceCommit entityIds query = .ok paths →
      IsGraphPath tables sourceCommit entityIds query trail →
      paths.countP (fun path => Describes path trail) ≤ 1 := by
  intro hclaim
  obtain ⟨paths, hpaths⟩ := typedGraphPaths_returns World.Sample.commit [ada, ada]
    accepted_query presentable_plain
  obtain ⟨listing, hreceipts, hlisting, hcount⟩ := typedGraphPaths_trails hpaths
  have htwo := hcount _ isGraphPath_plain ada rfl
  -- All that is listed is the one path, so the listing is not cut off.
  have hlength : listing.count trail = listing.length :=
    count_eq_length.mpr fun other hother => (eq_trail (hlisting other hother)).symm
  have hall : listing.take 5 = listing := by
    refine take_of_length_le ?_
    rw [← hlength, htwo]
    decide
  have honce := hclaim _ _ _ _ paths trail hpaths isGraphPath_plain
  rw [countP_describes hreceipts (fun other hother => hlisting other (mem_of_mem_take hother))
    isGraphPath_plain, show query.limit.toNat = 5 from rfl, hall, htwo] at honce
  exact absurd honce (by decide)

end NovelAgent.R1
