import NovelAgent.R1.Rows

/-!
# Graph Paths

The bounded search for paths through the relation rows of a commit.
-/

namespace NovelAgent.R1

open Core Domain World

/-- The filters of a traversal and its bounds. -/
structure GraphQuery where
  maxDepth : Int
  limit : Int
  allowedPredicates : List String := []
  timeScope : Option StoryTime := none
  allowedEdgeSemantics : List String := ["canonical", "evidence"]
  accessScopes : List String := ["writer_safe"]
  snapshotId : Option StableId := none

/-- A relation row with its subject and its object. -/
structure Edge where
  row : R1RecordRow
  source : String
  target : String
deriving DecidableEq

/-- A path through the edges. -/
abbrev Trail := Core.Trail String Edge Direction

def selectRows (tables : R1Tables) (sourceCommit : CommitId) (accessScopes : List String) :
    List R1RecordRow :=
  tables.records.filter fun row =>
    row.sourceCommit = sourceCommit.root ∧ row.recordKind = WorldRecordKind.relation.value ∧
      row.accessScope ∈ accessScopes

/-- At least one scope, none of them empty, none of them twice. -/
def validateAccessScopes (accessScopes : List String) : Except String Unit :=
  if accessScopes = [] ∨ "" ∈ accessScopes then
    .error "R1 retrieval requires at least one non-empty access scope"
  else if ¬ accessScopes.Nodup then
    .error "R1 retrieval access scopes must be unique"
  else .ok ()

/-- A row holds at the start of the scope. -/
def edgeMatchesTime (row : R1RecordRow) (timeScope : Option StoryTime) : Bool :=
  match timeScope with
  | none => true
  | some scope =>
    if row.worldline.any (· ≠ scope.worldline.text) then false
    else
      match scope.startOrdinal with
      | none => true
      | some ordinal =>
        (row.validStart.all fun start => decide (start ≤ ordinal)) &&
          row.validEnd.all fun stop => decide (stop ≥ ordinal)

/-- The edge of a row, if the query lets it through. -/
def edgeOf (associations : List R1RecordEntityRow) (query : GraphQuery) (row : R1RecordRow) :
    Except String (Option Edge) :=
  match (endpoints associations row.rowId).lookup "subject",
      (endpoints associations row.rowId).lookup "object" with
  | some source, some target =>
    if row.truthClass ≠ some TruthClass.acceptedWorldFact.value then .ok none
    else do
      let evidence ← evidenceRefs row.recordJson
      if evidence = [] then
        .ok none
      else if query.allowedPredicates ≠ [] ∧
          ¬ row.predicate.any (· ∈ query.allowedPredicates) then
        .ok none
      else if ¬ edgeMatchesTime row query.timeScope then
        .ok none
      else
        .ok (some ⟨row, source, target⟩)
  | _, _ => .ok none

/-- Where the edge of a row leads. -/
def follow (edge : Edge) (node : String) : Option (String × Direction) :=
  if edge.source = node then some (edge.target, .forward)
  else if edge.target = node then some (edge.source, .reverse)
  else none

/-- A column that has to be an identity. -/
def stableId (text : String) : Except String StableId :=
  match StableId.ofString? text with
  | some id => .ok id
  | none => .error "String should match the pattern of a stable id"

/-- The interval of a row. A worldline that is missing or empty is the main one. -/
def storyTimeOf (row : R1RecordRow) : Except String StoryTime :=
  let worldline : NonEmptyText :=
    match row.worldline with
    | some text => if h : text ≠ "" then ⟨text, h⟩ else ⟨"main", World.main_ne⟩
    | none => ⟨"main", World.main_ne⟩
  if h : ordinalsOrdered row.validStart row.validEnd = true then
    .ok ⟨worldline, row.validStart, row.validEnd, none, h⟩
  else .error "story time end must be greater than or equal to start"

/-- The receipt of a path. A missing predicate is written as its `str`. -/
def receipt (sourceCommit : CommitId) (snapshotId : StableId) (entityIds : List StableId)
    (trail : Trail) : Except String GraphPathReceipt := do
  let evidence ← trail.edges.mapM fun edge => evidenceRefs edge.row.recordJson
  let validTime ← trail.edges.mapM fun edge => storyTimeOf edge.row
  let rowIds ← trail.edges.mapM fun edge => stableId edge.row.rowId
  let relationIds ← trail.edges.mapM fun edge => stableId edge.row.recordId
  let entityPath ← trail.nodes.mapM stableId
  GraphPathReceipt.build {
    pathId := graphPathId sourceCommit snapshotId rowIds entityPath trail.ways
    sourceCommit := sourceCommit
    snapshotId := snapshotId
    seedEntityIds := entityIds
    relationRowIds := rowIds
    relationIds := relationIds
    entityPath := entityPath
    predicates := trail.edges.map fun edge => edge.row.predicate.getD "None"
    directions := trail.ways
    validTime := validTime
    edgeSemantics := trail.edges.map fun _ => "canonical"
    evidenceRefs := evidence.flatten
    dereferenceStatus := .relationRowsVerified
  }

/-- The identity of the snapshot that a traversal reads. -/
def effectiveSnapshot (sourceCommit : CommitId) (query : GraphQuery) : StableId :=
  query.snapshotId.getD (commitSnapshot sourceCommit)

/-- Search the relation rows of a commit for paths from some entities. -/
def typedGraphPaths (tables : R1Tables) (sourceCommit : CommitId) (entityIds : List StableId)
    (query : GraphQuery) : Except String (List GraphPathReceipt) :=
  if query.maxDepth < 1 ∨ query.limit < 1 then
    .error "graph depth and limit must be positive"
  else if entityIds = [] then
    .ok []
  else do
    validateAccessScopes query.accessScopes
    let rows := selectRows tables sourceCommit query.accessScopes
    let associations := tables.associations.filter fun association =>
      association.rowId ∈ rows.map R1RecordRow.rowId
    let edges ← rows.mapM (edgeOf associations query)
    if query.allowedEdgeSemantics = [] ∨ "inferred" ∈ query.allowedEdgeSemantics ∨
        "similarity" ∈ query.allowedEdgeSemantics then
      .error "graph traversal only permits explicit canonical/evidence semantics"
    else if "canonical" ∉ query.allowedEdgeSemantics then
      .ok []
    else
      Graph.search ⟨edges.reduceOption, follow⟩
        (receipt sourceCommit (effectiveSnapshot sourceCommit query) entityIds)
        query.maxDepth.toNat query.limit.toNat
        (entityIds.map fun entity => Trail.start entity.root) []

end NovelAgent.R1
