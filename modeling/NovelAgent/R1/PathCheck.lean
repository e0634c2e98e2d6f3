import Mathlib.Data.List.Permutation
import NovelAgent.R1.PathSearch

/-!
# Path Check

The check of path receipts against the rows and the text, and how it agrees
with the search.
-/

namespace NovelAgent.R1

open Core Domain World List

/-- Evidence resolves to a span of the text. -/
def validateL0Evidence (text : TextRootDocument) (evidence : EvidenceRef) : Except String Unit :=
  match evidence.span with
  | none => .error "graph path evidence has no concrete span"
  | some span =>
    match text.block? span.blockId with
    | none => .error "graph path evidence does not resolve to L0"
    | some block =>
      if block.text.toList.length < span.stop ∨ evidence.chapterId ≠ some block.chapterId ∨
          evidence.sceneId ≠ block.sceneId ∨ evidence.objectHash ≠ digest block.text then
        .error "graph path evidence does not resolve to L0"
      else if evidence.quoteHash ≠ some (digest (block.quote span)) then
        .error "graph path evidence quote hash does not match L0"
      else .ok ()

/-- What a receipt says of one edge. -/
structure PathStep where
  rowId : StableId
  relationId : StableId
  predicate : String
  direction : Direction
  source : StableId
  target : StableId

/-- The edges of a path, from its parts side by side. -/
def pathSteps : List StableId → List StableId → List String → List Direction → List StableId →
    List PathStep
  | rowId :: rowIds, relationId :: relationIds, predicate :: predicates, direction :: directions,
      source :: target :: entities =>
    ⟨rowId, relationId, predicate, direction, source, target⟩ ::
      pathSteps rowIds relationIds predicates directions (target :: entities)
  | _, _, _, _, _ => []

def GraphPathReceipt.steps (path : GraphPathReceipt) : List PathStep :=
  pathSteps path.relationRowIds path.relationIds path.predicates path.directions path.entityPath

/-- Two dictionaries are equal. -/
def sameDict (roles roles' : List (String × String)) : Bool :=
  roles.length = roles'.length && roles'.all fun entry => roles.lookup entry.1 = some entry.2

/-- The subject and the object that a step asks for. -/
def PathStep.ends (step : PathStep) : StableId × StableId :=
  if step.direction = .reverse then (step.target, step.source) else (step.source, step.target)

/-- Check one edge against its row. The evidence of the row is what is returned. -/
def dereference (rows : List R1RecordRow) (associations : List R1RecordEntityRow)
    (text : TextRootDocument) (sourceCommit : CommitId) (step : PathStep) :
    Except String (List EvidenceRef) :=
  match rows.find? fun row => row.rowId = step.rowId.root with
  | none => .error "graph path receipt does not dereference to its relation row"
  | some row =>
    if row.sourceCommit ≠ sourceCommit.root ∨
        row.recordKind ≠ WorldRecordKind.relation.value ∨
        row.recordId ≠ step.relationId.root ∨ row.predicate ≠ some step.predicate ∨
        row.truthClass ≠ some TruthClass.acceptedWorldFact.value then
      .error "graph path receipt does not dereference to its relation row"
    else if ¬ sameDict (endpoints associations row.rowId)
        [("subject", step.ends.1.root), ("object", step.ends.2.root)] then
      .error "graph path receipt endpoint roles do not match"
    else do
      let refs ← evidenceRefs row.recordJson
      if refs = [] then
        .error "graph path relation row has no evidence"
      else do
        let _ ← refs.mapM (validateL0Evidence text)
        .ok refs

/-- A receipt whose evidence was found in the text. -/
def GraphPathReceipt.verified (path : GraphPathReceipt) : GraphPathReceipt :=
  ⟨{ path.toGraphPathFields with dereferenceStatus := .l0Verified }, path.shaped⟩

/-- The check of one path. -/
def checkReceipt (rows : List R1RecordRow) (associations : List R1RecordEntityRow)
    (text : TextRootDocument) (path : GraphPathReceipt) : Except String GraphPathReceipt :=
  if path.pathId ≠ graphPathId path.sourceCommit path.snapshotId path.relationRowIds
      path.entityPath path.directions then
    .error "graph path receipt identity does not match its path"
  else do
    let refs ← path.steps.mapM (dereference rows associations text path.sourceCommit)
    if refs.flatten ≠ path.evidenceRefs then
      .error "graph path receipt evidence does not match relation rows"
    else
      .ok path.verified

/-- Check receipts against the rows they name and the text. -/
def validateGraphPathReceipts (tables : R1Tables) (receipts : List GraphPathReceipt)
    (text : TextRootDocument) : Except String (List GraphPathReceipt) :=
  if receipts = [] then
    .ok []
  else
    let rowIds := (receipts.flatMap fun receipt =>
      receipt.relationRowIds.map StableId.root).eraseDups
    let rows := tables.records.filter fun row => row.rowId ∈ rowIds
    let associations := tables.associations.filter fun association => association.rowId ∈ rowIds
    receipts.mapM (checkReceipt rows associations text)

section

variable {row : R1RecordRow}

theorem findRow_eq_some {tables : R1Tables} {rowId : String} :
    (tables.records.find? fun row => row.rowId = rowId) = some row ↔
      row ∈ tables.records ∧ row.rowId = rowId := by
  constructor
  · intro h
    exact ⟨mem_of_find?_eq_some h, by simpa using List.find?_some h⟩
  · rintro ⟨hstored, hrow⟩
    cases hfound : tables.records.find? fun row => row.rowId = rowId with
    | none => exact absurd hrow (by simpa using List.find?_eq_none.mp hfound row hstored)
    | some other =>
      have hother : other.rowId = rowId := by simpa using List.find?_some hfound
      rw [inj_on_of_nodup_map tables.primaryKey (mem_of_find?_eq_some hfound) hstored
        (hother.trans hrow.symm)]

/-- What it takes for an edge to be accepted. -/
structure Dereferenced (tables : R1Tables) (text : TextRootDocument) (sourceCommit : CommitId)
    (step : PathStep) (refs : List EvidenceRef) (row : R1RecordRow) : Prop where
  stored : row ∈ tables.records
  key : row.rowId = step.rowId.root
  commit : row.sourceCommit = sourceCommit.root
  relation : row.recordKind = WorldRecordKind.relation.value
  record : row.recordId = step.relationId.root
  predicate : row.predicate = some step.predicate
  accepted : row.truthClass = some TruthClass.acceptedWorldFact.value
  ends : sameDict (endpoints tables.associations row.rowId)
    [("subject", step.ends.1.root), ("object", step.ends.2.root)] = true
  evidence : evidenceRefs row.recordJson = .ok refs
  evidenced : refs ≠ []
  resolved : ∀ evidence ∈ refs, validateL0Evidence text evidence = .ok ()

variable {text : TextRootDocument} {sourceCommit : CommitId} {step : PathStep}

theorem dereference_eq_ok {tables : R1Tables} {refs : List EvidenceRef} :
    dereference tables.records tables.associations text sourceCommit step = .ok refs ↔
      ∃ row, Dereferenced tables text sourceCommit step refs row := by
  unfold dereference
  constructor
  · intro h
    split at h
    · exact absurd h nofun
    rename_i row hrow
    obtain ⟨hstored, hkey⟩ := findRow_eq_some.mp hrow
    split at h
    · exact absurd h nofun
    rename_i hcolumns
    simp only [ne_eq, not_or, not_not] at hcolumns
    split at h
    · exact absurd h nofun
    rename_i hends
    rw [Outcome.bind_eq_ok] at h
    obtain ⟨found, hfound, h⟩ := h
    split at h
    · exact absurd h nofun
    rename_i hnonempty
    rw [Outcome.bind_eq_ok] at h
    obtain ⟨units, hunits, h⟩ := h
    cases h
    refine ⟨row, hstored, hkey, hcolumns.1, hcolumns.2.1, hcolumns.2.2.1, hcolumns.2.2.2.1,
      hcolumns.2.2.2.2, not_not.mp hends, hfound, hnonempty, ?_⟩
    intro evidence hevidence
    obtain ⟨⟨⟩, hvalid⟩ := (Outcome.mapM_returns (validateL0Evidence text) refs).mp ⟨units, hunits⟩
      evidence hevidence
    exact hvalid
  · rintro ⟨row, h⟩
    obtain ⟨units, hunits⟩ := (Outcome.mapM_returns (validateL0Evidence text) refs).mpr
      fun evidence hevidence => ⟨(), h.resolved evidence hevidence⟩
    rw [findRow_eq_some.mpr ⟨h.stored, h.key⟩]
    simp only [h.commit, h.relation, h.record, h.predicate, h.accepted, ne_eq, not_true_eq_false,
      or_self, if_false, h.ends, h.evidence, bind, Except.bind, h.evidenced, hunits]

variable {rowIds relationIds entities : List StableId}

theorem pathSteps_parts {predicates : List String} {directions : List Direction}
    (hrelations : relationIds.length = rowIds.length)
    (hpredicates : predicates.length = rowIds.length)
    (hdirections : directions.length = rowIds.length)
    (hentities : entities.length = rowIds.length + 1) :
    (pathSteps rowIds relationIds predicates directions entities).map PathStep.rowId = rowIds ∧
      (pathSteps rowIds relationIds predicates directions entities).map PathStep.relationId =
        relationIds ∧
      (pathSteps rowIds relationIds predicates directions entities).map PathStep.predicate =
        predicates := by
  induction rowIds generalizing relationIds predicates directions entities with
  | nil =>
    rw [length_nil, length_eq_zero_iff] at hrelations hpredicates
    subst hrelations hpredicates
    exact ⟨rfl, rfl, rfl⟩
  | cons rowId rowIds ih =>
    match relationIds, predicates, directions, entities with
    | _ :: relationIds, _ :: predicates, _ :: directions, _ :: target :: entities =>
      simp only [length_cons, Nat.add_right_cancel_iff] at *
      have hrest : (target :: entities).length = rowIds.length + 1 := by
        rw [length_cons, hentities]
      obtain ⟨hrows, hrecords, hnames⟩ := ih hrelations hpredicates hdirections hrest
      rw [pathSteps, map_cons, map_cons, map_cons, hrows, hrecords, hnames]
      exact ⟨rfl, rfl, rfl⟩

theorem GraphPathReceipt.lengths (path : GraphPathReceipt) :
    path.relationIds.length = path.relationRowIds.length ∧
      path.predicates.length = path.relationRowIds.length ∧
      path.directions.length = path.relationRowIds.length ∧
      path.entityPath.length = path.relationRowIds.length + 1 := by
  have h := path.shaped
  dsimp only [GraphPathFields.violation] at h
  split at h
  · exact absurd h nofun
  split at h
  · exact absurd h nofun
  rename_i hlengths
  split at h
  · exact absurd h nofun
  rename_i hentities
  simp only [ne_eq, not_not] at hlengths hentities
  obtain ⟨hrows, hpredicates, hdirections, -⟩ := hlengths
  exact ⟨hrows.symm, hpredicates.trans hrows.symm, hdirections.trans hrows.symm,
    hentities.trans (by rw [hrows])⟩

theorem GraphPathReceipt.rows_ne_nil (path : GraphPathReceipt) : path.relationRowIds ≠ [] := by
  intro hnil
  have h := path.shaped
  dsimp only [GraphPathFields.violation] at h
  rw [if_pos (by simp [hnil])] at h
  exact absurd h nofun

theorem GraphPathReceipt.steps_parts (path : GraphPathReceipt) :
    path.steps.map PathStep.rowId = path.relationRowIds ∧
      path.steps.map PathStep.relationId = path.relationIds ∧
      path.steps.map PathStep.predicate = path.predicates :=
  have ⟨hrelations, hpredicates, hdirections, hentities⟩ := path.lengths
  pathSteps_parts hrelations hpredicates hdirections hentities

theorem dereference_filter (tables : R1Tables) (text : TextRootDocument) (sourceCommit : CommitId)
    {rowIds : List String} (h : step.rowId.root ∈ rowIds) :
    dereference (tables.records.filter fun row => row.rowId ∈ rowIds)
      (tables.associations.filter fun association => association.rowId ∈ rowIds) text sourceCommit
        step =
      dereference tables.records tables.associations text sourceCommit step := by
  have hfind : (tables.records.filter fun row => row.rowId ∈ rowIds).find?
      (fun row => row.rowId = step.rowId.root) =
        tables.records.find? fun row => row.rowId = step.rowId.root := by
    rw [List.find?_filter]
    congr 1
    funext row
    by_cases hrow : row.rowId = step.rowId.root <;> simp [hrow, h]
  unfold dereference
  rw [hfind]
  split
  · rfl
  · rename_i row hrow
    rw [endpoints_filter ((findRow_eq_some.mp hrow).2 ▸ h)]

theorem validateGraphPathReceipts_eq (tables : R1Tables) (receipts : List GraphPathReceipt)
    (text : TextRootDocument) :
    validateGraphPathReceipts tables receipts text =
      receipts.mapM (checkReceipt tables.records tables.associations text) := by
  unfold validateGraphPathReceipts
  by_cases hnone : receipts = []
  · rw [if_pos hnone, hnone]
    rfl
  rw [if_neg hnone]
  refine Outcome.mapM_congr fun path hpath => ?_
  unfold checkReceipt
  congr 2
  refine Outcome.mapM_congr fun step hstep => ?_
  refine dereference_filter tables text path.sourceCommit ?_
  rw [mem_eraseDups, mem_flatMap]
  refine ⟨path, hpath, mem_map_of_mem ?_⟩
  rw [← path.steps_parts.1]
  exact mem_map_of_mem hstep

variable {path verified : GraphPathReceipt}

theorem checkReceipt_eq_ok {tables : R1Tables} :
    checkReceipt tables.records tables.associations text path = .ok verified ↔
      path.pathId = graphPathId path.sourceCommit path.snapshotId path.relationRowIds
        path.entityPath path.directions ∧
      (∃ refs, path.steps.mapM (dereference tables.records tables.associations text
        path.sourceCommit) = .ok refs ∧ refs.flatten = path.evidenceRefs) ∧
      path.verified = verified := by
  unfold checkReceipt
  by_cases hid : path.pathId = graphPathId path.sourceCommit path.snapshotId path.relationRowIds
      path.entityPath path.directions
  · rw [if_neg (not_not.mpr hid), Outcome.bind_eq_ok]
    constructor
    · rintro ⟨refs, hrefs, h⟩
      split at h
      · exact absurd h nofun
      · rename_i hevidence
        exact ⟨hid, ⟨refs, hrefs, not_not.mp hevidence⟩, Except.ok.inj h⟩
    · rintro ⟨-, ⟨refs, hrefs, hevidence⟩, rfl⟩
      exact ⟨refs, hrefs, if_neg (not_not.mpr hevidence)⟩
  · simp [hid]

/-- Two readings of the same rows, in any order. -/
structure SameRows (tables tables' : R1Tables) : Prop where
  records : tables.records.Perm tables'.records
  associations : tables.associations.Perm tables'.associations

/-- A row has a predicate, one subject, one object, and no other role. -/
structure Binary (tables : R1Tables) (row : R1RecordRow) : Prop where
  predicate : ∃ predicate, row.predicate = some predicate
  ends : ∃ subject object,
    (tables.associations.filter fun association => association.rowId = row.rowId).Perm
      [⟨row.rowId, subject, "subject"⟩, ⟨row.rowId, object, "object"⟩]

/-- Its evidence is in the text. -/
def Resolves (text : TextRootDocument) (row : R1RecordRow) : Prop :=
  ∀ refs, evidenceRefs row.recordJson = .ok refs →
    ∀ evidence ∈ refs, validateL0Evidence text evidence = .ok ()

theorem endpoints_of_perm {associations : List R1RecordEntityRow} {rowId subject object : String}
    (h : (associations.filter fun association => association.rowId = rowId).Perm
      [⟨rowId, subject, "subject"⟩, ⟨rowId, object, "object"⟩]) :
    endpoints associations rowId = [("subject", subject), ("object", object)] ∨
      endpoints associations rowId = [("object", object), ("subject", subject)] := by
  unfold endpoints
  rcases perm_pair.mp h with hread | hread
  · left
    rw [hread]
    simp [assign]
  · right
    rw [hread]
    simp [assign]

variable {tables tables' : R1Tables}

section

variable (hsame : SameRows tables tables')

include hsame

theorem sameDict_ends (hbinary : Binary tables row) {source target : String}
    (hsubject : (endpoints tables.associations row.rowId).lookup "subject" = some source)
    (hobject : (endpoints tables.associations row.rowId).lookup "object" = some target) :
    sameDict (endpoints tables'.associations row.rowId)
      [("subject", source), ("object", target)] = true := by
  obtain ⟨subject, object, hperm⟩ := hbinary.ends
  have hends : subject = source ∧ object = target := by
    rcases endpoints_of_perm hperm with hread | hread
    · rw [hread] at hsubject hobject
      exact ⟨by simpa using hsubject, by simpa [lookup_cons] using hobject⟩
    · rw [hread] at hsubject hobject
      exact ⟨by simpa [lookup_cons] using hsubject, by simpa using hobject⟩
  obtain ⟨rfl, rfl⟩ := hends
  rcases endpoints_of_perm (((hsame.associations.filter _).symm).trans hperm) with hread | hread
  · rw [hread]
    simp [sameDict, lookup_cons]
  · rw [hread]
    simp [sameDict, lookup_cons]

variable {query : GraphQuery}

/-- An edge that the search followed is accepted. -/
theorem dereference_edge {edge : Edge} (hedge : Eligible tables sourceCommit query edge)
    (hbinary : Binary tables edge.row) (hresolves : Resolves text edge.row)
    (hrow : step.rowId.root = edge.row.rowId) (hrecord : step.relationId.root = edge.row.recordId)
    (hpredicate : step.predicate = edge.row.predicate.getD "None")
    (hfollow : follow edge step.source.root = some (step.target.root, step.direction)) :
    dereference tables'.records tables'.associations text sourceCommit step =
      evidenceRefs edge.row.recordJson := by
  obtain ⟨refs, hrefs, hne⟩ := hedge.evidenced
  obtain ⟨predicate, hsome⟩ := hbinary.predicate
  -- The direction puts the ends in the order of the row.
  have hends : step.ends.1.root = edge.source ∧ step.ends.2.root = edge.target := by
    unfold follow at hfollow
    unfold PathStep.ends
    split at hfollow
    · rename_i hsource
      obtain ⟨htarget, hdirection⟩ := Prod.mk.inj (Option.some.inj hfollow)
      rw [← hdirection]
      exact ⟨hsource.symm, htarget.symm⟩
    · split at hfollow
      · rename_i htarget
        obtain ⟨hsource, hdirection⟩ := Prod.mk.inj (Option.some.inj hfollow)
        rw [← hdirection]
        exact ⟨hsource.symm, htarget.symm⟩
      · exact absurd hfollow nofun
  rw [hrefs, dereference_eq_ok]
  refine ⟨edge.row, hsame.records.mem_iff.mp hedge.stored, hrow.symm, hedge.commit, hedge.relation,
    hrecord.symm, ?_, hedge.accepted, ?_, hrefs, hne, hresolves refs hrefs⟩
  · rw [hpredicate, hsome, Option.getD_some]
  · rw [hends.1, hends.2]
    exact sameDict_ends hsame hbinary hedge.subject hedge.object

theorem mapM_pathSteps {nodes : List String} {edges : List Edge} {ways : List Direction}
    (hwalk : Graph.Walk follow nodes edges ways)
    (heligible : ∀ edge ∈ edges, Eligible tables sourceCommit query edge)
    (hbinary : ∀ edge ∈ edges, Binary tables edge.row)
    (hresolves : ∀ edge ∈ edges, Resolves text edge.row)
    (hrows : rowIds.map StableId.root = edges.map fun edge => edge.row.rowId)
    (hrelations : relationIds.map StableId.root = edges.map fun edge => edge.row.recordId)
    (hentities : entities.map StableId.root = nodes) :
    (pathSteps rowIds relationIds (edges.map fun edge => edge.row.predicate.getD "None") ways
      entities).mapM (dereference tables'.records tables'.associations text sourceCommit) =
      edges.mapM fun edge => evidenceRefs edge.row.recordJson := by
  induction edges generalizing nodes ways rowIds relationIds entities with
  | nil =>
    rw [map_nil, map_eq_nil_iff] at hrows
    subst hrows
    rfl
  | cons edge edges ih =>
    match nodes, ways, rowIds, relationIds, entities with
    | source :: target :: nodes, way :: ways, rowId :: rowIds, relationId :: relationIds,
        first :: second :: entities =>
      simp only [map_cons, List.cons.injEq] at hrows hrelations hentities
      rw [forall_mem_cons] at heligible hbinary hresolves
      obtain ⟨rfl, rfl, hentities⟩ := hentities
      have hfirst : dereference tables'.records tables'.associations text sourceCommit
          ⟨rowId, relationId, edge.row.predicate.getD "None", way, first, second⟩ =
            evidenceRefs edge.row.recordJson :=
        dereference_edge hsame heligible.1 hbinary.1 hresolves.1 hrows.1 hrelations.1 rfl hwalk.1
      have hnodes : (second :: entities).map StableId.root = second.root :: nodes := by
        simp [hentities]
      have hrest := ih hwalk.2 heligible.2 hbinary.2 hresolves.2 hrows.2 hrelations.2 hnodes
      rw [map_cons, pathSteps, mapM_cons, mapM_cons, hfirst, hrest]

variable {entityIds : List StableId}

/-- The receipt of a path is accepted. -/
theorem checkReceipt_receipt {snapshotId : StableId} {trail : Trail} {path : GraphPathReceipt}
    (htrail : IsGraphPath tables sourceCommit entityIds query trail)
    (hbinary : ∀ edge ∈ trail.edges, Binary tables edge.row)
    (hresolves : ∀ edge ∈ trail.edges, Resolves text edge.row)
    (hpath : receipt sourceCommit snapshotId entityIds trail = .ok path) :
    checkReceipt tables'.records tables'.associations text path = .ok path.verified := by
  have hstated := receipt_stated hpath
  obtain ⟨refs, hrefs, hevidence⟩ := hstated.evidence
  rw [checkReceipt_eq_ok]
  refine ⟨?_, ⟨refs, ?_, hevidence.symm⟩, rfl⟩
  · rw [hstated.commit, hstated.snapshot]
    exact hstated.identity
  · unfold GraphPathReceipt.steps
    rw [hstated.commit, hstated.predicates, hstated.directions, ← hrefs]
    exact mapM_pathSteps hsame htrail.walk htrail.eligible hbinary hresolves hstated.rows
      hstated.relations hstated.entities

theorem checkReceipt_returned {paths : List GraphPathReceipt}
    (hpaths : typedGraphPaths tables sourceCommit entityIds query = .ok paths)
    (hrows : ∀ row ∈ tables.records, row.sourceCommit = sourceCommit.root →
      row.recordKind = WorldRecordKind.relation.value → Binary tables row ∧ Resolves text row) :
    ∀ path ∈ paths,
      checkReceipt tables'.records tables'.associations text path = .ok path.verified := by
  obtain ⟨listing, hreceipts, hlisting, -⟩ := typedGraphPaths_trails hpaths
  intro path hpath
  obtain ⟨trail, htrail, hreceipt⟩ := (Outcome.mapM_mem hreceipts path).mp hpath
  have hgraph := hlisting trail (mem_of_mem_take htrail)
  have hedges : ∀ edge ∈ trail.edges, Binary tables edge.row ∧ Resolves text edge.row := by
    intro edge hedge
    have heligible := hgraph.eligible edge hedge
    exact hrows edge.row heligible.stored heligible.commit heligible.relation
  exact checkReceipt_receipt hsame hgraph (fun edge hedge => (hedges edge hedge).1)
    (fun edge hedge => (hedges edge hedge).2) hreceipt

end

/-- An edge of a path can be read off a row. -/
structure Bound (tables : R1Tables) (sourceCommit : CommitId) (step : PathStep)
    (row : R1RecordRow) : Prop where
  stored : row ∈ tables.records
  key : row.rowId = step.rowId.root
  commit : row.sourceCommit = sourceCommit.root
  relation : row.recordKind = WorldRecordKind.relation.value
  record : row.recordId = step.relationId.root
  predicate : row.predicate = some step.predicate
  accepted : row.truthClass = some TruthClass.acceptedWorldFact.value
  ends : sameDict (endpoints tables.associations row.rowId)
    [("subject", step.ends.1.root), ("object", step.ends.2.root)] = true

/-- A path can be read off the rows: its identity is that of its parts, and every edge goes
    along the subject and the object of an accepted relation row, in its direction. -/
structure Derivable (tables : R1Tables) (path : GraphPathReceipt) : Prop where
  identity : path.pathId = graphPathId path.sourceCommit path.snapshotId path.relationRowIds
    path.entityPath path.directions
  bound : ∀ step ∈ path.steps, ∃ row, Bound tables path.sourceCommit step row

/-- What is accepted is derivable. -/
theorem derivable_of_checkReceipt {tables : R1Tables}
    (h : checkReceipt tables.records tables.associations text path = .ok verified) :
    Derivable tables path := by
  obtain ⟨hidentity, ⟨refs, hrefs, -⟩, -⟩ := checkReceipt_eq_ok.mp h
  refine ⟨hidentity, fun step hstep => ?_⟩
  obtain ⟨found, hfound⟩ := (Outcome.mapM_returns _ _).mp ⟨refs, hrefs⟩ step hstep
  obtain ⟨row, hrow⟩ := dereference_eq_ok.mp hfound
  exact ⟨row, hrow.stored, hrow.key, hrow.commit, hrow.relation, hrow.record, hrow.predicate,
    hrow.accepted, hrow.ends⟩

/-- Two paths have the same nodes, the same edges in the same directions, and are bound to their
    rows in the same way. -/
structure SamePath (path path' : GraphPathReceipt) : Prop where
  commit : path.sourceCommit = path'.sourceCommit
  snapshot : path.snapshotId = path'.snapshotId
  nodes : path.entityPath = path'.entityPath
  rows : path.relationRowIds = path'.relationRowIds
  directions : path.directions = path'.directions
  relations : path.relationIds = path'.relationIds
  predicates : path.predicates = path'.predicates

theorem bound_ext (hsame : SameRows tables tables') {sourceCommit sourceCommit' : CommitId}
    {steps steps' : List PathStep}
    (hsteps : ∀ step ∈ steps, ∃ row, Bound tables sourceCommit step row)
    (hsteps' : ∀ step ∈ steps', ∃ row, Bound tables' sourceCommit' step row)
    (hrows : steps.map PathStep.rowId = steps'.map PathStep.rowId) :
    steps.map PathStep.relationId = steps'.map PathStep.relationId ∧
      steps.map PathStep.predicate = steps'.map PathStep.predicate := by
  induction steps generalizing steps' with
  | nil =>
    rw [map_nil, eq_comm, map_eq_nil_iff] at hrows
    subst hrows
    exact ⟨rfl, rfl⟩
  | cons step steps ih =>
    cases steps' with
    | nil => exact absurd hrows (by simp)
    | cons step' steps' =>
      rw [forall_mem_cons] at hsteps hsteps'
      rw [map_cons, map_cons, List.cons.injEq] at hrows
      obtain ⟨row, hrow⟩ := hsteps.1
      obtain ⟨row', hrow'⟩ := hsteps'.1
      -- The key of a row is unique, so both edges are of one row.
      have heq : row = row' :=
        inj_on_of_nodup_map tables'.primaryKey (hsame.records.mem_iff.mp hrow.stored)
          hrow'.stored (by rw [hrow.key, hrow'.key, hrows.1])
      subst heq
      obtain ⟨hrelations, hpredicates⟩ := ih hsteps.2 hsteps'.2 hrows.2
      have hrelation : step.relationId = step'.relationId :=
        StableId.root_inj.mp (hrow.record.symm.trans hrow'.record)
      have hpredicate : step.predicate = step'.predicate :=
        Option.some.inj (hrow.predicate.symm.trans hrow'.predicate)
      rw [map_cons, map_cons, map_cons, map_cons, hrelation, hpredicate,
        hrelations, hpredicates]
      exact ⟨rfl, rfl⟩

def GraphPathReceipt.payload (path : GraphPathReceipt) : String :=
  pathPayload path.sourceCommit path.snapshotId path.relationRowIds path.entityPath path.directions

/-- Two texts of one hash are the same. -/
def NoCollision (text text' : String) : Prop :=
  Sha256.hexdigest text = Sha256.hexdigest text' → text = text'

/-- A path identity belongs to one derivable path. -/
theorem Derivable.unique (hsame : SameRows tables tables') {path path' : GraphPathReceipt}
    (h : Derivable tables path) (h' : Derivable tables' path') (hid : path.pathId = path'.pathId)
    (hhash : NoCollision path.payload path'.payload) : SamePath path path' := by
  rw [h.identity, h'.identity] at hid
  have hpayload := hhash (hexdigest_of_graphPathId hid)
  obtain ⟨-, -, hdirections, hentities⟩ := path.lengths
  obtain ⟨-, -, hdirections', hentities'⟩ := path'.lengths
  obtain ⟨hcommit, hsnapshot, hrows, hnodes, hways⟩ :=
    pathPayload_inj hentities hentities' hdirections hdirections' hpayload
  obtain ⟨hrowIds, hrelationIds, hpredicates⟩ := path.steps_parts
  obtain ⟨hrowIds', hrelationIds', hpredicates'⟩ := path'.steps_parts
  have hsteps : path.steps.map PathStep.rowId = path'.steps.map PathStep.rowId := by
    rw [hrowIds, hrowIds', hrows]
  obtain ⟨hrecords, hnames⟩ := bound_ext hsame h.bound h'.bound hsteps
  rw [hrelationIds, hrelationIds'] at hrecords
  rw [hpredicates, hpredicates'] at hnames
  exact ⟨hcommit, hsnapshot, hnodes, hrows, hways, hrecords, hnames⟩

theorem validate_raises {tables : R1Tables} {receipts : List GraphPathReceipt}
    {path : GraphPathReceipt} (hpath : path ∈ receipts)
    (h : ∀ verified, checkReceipt tables.records tables.associations text path ≠ .ok verified) :
    ∃ message, validateGraphPathReceipts tables receipts text = .error message := by
  cases hresult : validateGraphPathReceipts tables receipts text with
  | error message => exact ⟨message, rfl⟩
  | ok verified =>
    rw [validateGraphPathReceipts_eq] at hresult
    obtain ⟨one, hone⟩ := (Outcome.mapM_returns _ _).mp ⟨verified, hresult⟩ path hpath
    exact absurd hone (h one)

/-- The search and the check agree on rows with a predicate and two ends whose evidence is in
    the text: the paths that are returned are derivable, and the check accepts them, in whatever
    order it reads the rows. What is not derivable is rejected, and so is what differs from a
    derivable path under the same identity. -/
theorem path_producer_and_checker_agree {tables tables' : R1Tables}
    (hsame : SameRows tables tables') (text : TextRootDocument) :
    (∀ (sourceCommit : CommitId) (entityIds : List StableId) (query : GraphQuery)
        (paths : List GraphPathReceipt),
      typedGraphPaths tables sourceCommit entityIds query = .ok paths →
      (∀ row ∈ tables.records, row.sourceCommit = sourceCommit.root →
        row.recordKind = WorldRecordKind.relation.value → Binary tables row ∧ Resolves text row) →
      validateGraphPathReceipts tables' paths text = .ok (paths.map GraphPathReceipt.verified) ∧
      ∀ path ∈ paths, Derivable tables' path) ∧
    ∀ receipts : List GraphPathReceipt, ∀ path ∈ receipts,
      (¬ Derivable tables' path →
        ∃ message, validateGraphPathReceipts tables' receipts text = .error message) ∧
      ∀ path', Derivable tables' path' → path.pathId = path'.pathId →
        NoCollision path.payload path'.payload → ¬ SamePath path path' →
        ∃ message, validateGraphPathReceipts tables' receipts text = .error message := by
  constructor
  · intro sourceCommit entityIds query paths hpaths hrows
    have hchecked := checkReceipt_returned hsame hpaths hrows
    refine ⟨?_, fun path hpath => derivable_of_checkReceipt (hchecked path hpath)⟩
    rw [validateGraphPathReceipts_eq, Outcome.mapM_linked, forall₂_map_right_iff]
    exact forall₂_same.mpr hchecked
  · intro receipts path hpath
    refine ⟨fun hnot => validate_raises hpath fun verified hverified =>
      hnot (derivable_of_checkReceipt hverified), fun path' hpath' hid hhash hdiffers => ?_⟩
    exact validate_raises hpath fun verified hverified =>
      hdiffers ((derivable_of_checkReceipt hverified).unique ⟨.refl _, .refl _⟩ hpath' hid hhash)

end

namespace Sample

theorem resolves_row : Resolves World.Sample.text row := by
  intro refs hrefs evidence hevidence
  rw [evidenceRefs_row, Except.ok.injEq] at hrefs
  subst hrefs
  rw [mem_singleton.mp hevidence]
  have hblock : World.Sample.text.block? World.Sample.span.blockId = some World.Sample.block := by
    decide
  simp only [validateL0Evidence, World.Sample.evidence, hblock]
  simp [World.Sample.block, World.Sample.span]

theorem binary_row : Binary plainTables row where
  predicate := ⟨_, rfl⟩
  ends := ⟨"ada", "rome", .of_eq (by decide)⟩

theorem exists_path {tables : R1Tables}
    (hrows : ∀ row ∈ tables.records, Presentable tables row)
    (hedge : Eligible tables World.Sample.commit query edge) :
    ∃ path paths,
      typedGraphPaths tables World.Sample.commit [ada] query = .ok (path :: paths) := by
  obtain ⟨paths, hpaths⟩ := typedGraphPaths_returns World.Sample.commit [ada] accepted_query hrows
  obtain ⟨listing, hreceipts, -, hcount⟩ := typedGraphPaths_trails hpaths
  have honce := hcount trail (isGraphPath_trail (by simp) hedge) ada rfl
  cases paths with
  | cons path paths => exact ⟨path, paths, hpaths⟩
  | nil =>
    -- Without a receipt nothing is listed, but the path is.
    have hlength := Outcome.mapM_length hreceipts
    rw [length_take, length_nil] at hlength
    have hempty : listing = [] := by
      refine eq_nil_of_length_eq_zero ?_
      have : query.limit.toNat = 5 := rfl
      omega
    rw [hempty] at honce
    exact absurd honce (by decide)

def witness : R1RecordEntityRow := ⟨"r1.lives", "bea", "witness"⟩

def witnessedTables : R1Tables := tables [witness] (by decide)

theorem presentable_witnessed :
    ∀ row ∈ witnessedTables.records, Presentable witnessedTables row :=
  presentable _ fun association hassociation => by
    rw [mem_singleton.mp hassociation]
    decide

theorem eligible_witnessed : Eligible witnessedTables World.Sample.commit query edge :=
  eligible_edge _ (by decide) (by decide)

end Sample

/-- A path along a row with a third role is returned, and rejected by the check. -/
theorem third_role_rejected :
    ¬ ∀ (tables : R1Tables) (text : TextRootDocument) (sourceCommit : CommitId)
        (entityIds : List StableId) (query : GraphQuery) (paths : List GraphPathReceipt),
      (∀ row ∈ tables.records, Resolves text row) →
      typedGraphPaths tables sourceCommit entityIds query = .ok paths →
      ∃ verified, validateGraphPathReceipts tables paths text = .ok verified := by
  intro hclaim
  obtain ⟨path, paths, hpaths⟩ :=
    Sample.exists_path Sample.presentable_witnessed Sample.eligible_witnessed
  have hresolves : ∀ row ∈ Sample.witnessedTables.records, Resolves World.Sample.text row := by
    intro row hrow
    rw [mem_singleton.mp hrow]
    exact Sample.resolves_row
  obtain ⟨verified, hverified⟩ := hclaim _ _ _ _ _ _ hresolves hpaths
  rw [validateGraphPathReceipts_eq] at hverified
  obtain ⟨one, hone⟩ := (Outcome.mapM_returns _ _).mp ⟨verified, hverified⟩ path mem_cons_self
  -- The first edge would be bound to the row, which has three roles.
  obtain ⟨hrowIds, -, -⟩ := path.steps_parts
  obtain ⟨-, -, -, hentities⟩ := path.lengths
  have hsteps : path.steps ≠ [] := by
    intro hnil
    rw [hnil] at hrowIds
    exact path.rows_ne_nil hrowIds.symm
  obtain ⟨step, hstep⟩ := exists_mem_of_ne_nil _ hsteps
  obtain ⟨row, hrow⟩ := (derivable_of_checkReceipt hone).bound step hstep
  have hends := hrow.ends
  rw [mem_singleton.mp hrow.stored] at hends
  have hroles : (endpoints Sample.witnessedTables.associations Sample.row.rowId).length = 3 := by
    decide
  simp [sameDict, hroles] at hends

theorem path_producer_and_checker_agree_plain :
    ∃ path paths,
      typedGraphPaths Sample.plainTables World.Sample.commit [Sample.ada] Sample.query =
        .ok (path :: paths) ∧
      validateGraphPathReceipts Sample.plainTables (path :: paths) World.Sample.text =
        .ok ((path :: paths).map GraphPathReceipt.verified) := by
  obtain ⟨path, paths, hpaths⟩ := Sample.exists_path Sample.presentable_plain Sample.eligible_plain
  refine ⟨path, paths, hpaths, ?_⟩
  have hagree := path_producer_and_checker_agree
    (⟨.refl _, .refl _⟩ : SameRows Sample.plainTables Sample.plainTables) World.Sample.text
  refine (hagree.1 _ _ _ _ hpaths fun row hrow _ _ => ?_).1
  rw [mem_singleton.mp hrow]
  exact ⟨Sample.binary_row, Sample.resolves_row⟩

end NovelAgent.R1
