import NovelAgent.ModelCalls.SqlLedger
import NovelAgent.R1.PathCheck

/-!
# Materialization

How the rows come to be: a commit's world and plan are written as rows, and
replace what was written for the commit before.
-/

namespace NovelAgent.R1

open Core Domain World List
open ModelCalls (TextFits OptionFits)

/-- A node of a plan. -/
structure PlanNode where
  planNodeId : StableId
  nodeType : NonEmptyText
  title : NonEmptyText
  summary : String
  parentId : Option StableId
  obligationIds : List StableId

/-- A goal of a chapter. -/
structure ChapterGoal where
  goalId : StableId
  chapterIndex : { chapter : Nat // 1 ≤ chapter }
  summary : NonEmptyText
  obligationIds : List StableId

/-- A plan and its goals. -/
structure PlanRootDocument where
  nodes : List PlanNode
  chapterGoals : List ChapterGoal
  uniqueNodes : (nodes.map PlanNode.planNodeId).Nodup
  parents : ∀ node ∈ nodes, ∀ parent ∈ node.parentId, parent ∈ nodes.map PlanNode.planNodeId
  uniqueGoals : (chapterGoals.map ChapterGoal.goalId).Nodup

/-- What is written of one record. -/
structure RecordSpec where
  kind : String
  recordId : StableId
  predicate : Option String
  validStart : Option Int
  validEnd : Option Int
  worldline : Option String
  narrativeStart : Option Int
  narrativeEnd : Option Int
  accessScope : String
  truthClass : Option String
  entities : List (StableId × String)
  payload : JsonValue

def PlanNode.dump (node : PlanNode) : JsonValue :=
  .object [
    ("plan_node_id", .string node.planNodeId.root),
    ("node_type", .string node.nodeType.text),
    ("title", .string node.title.text),
    ("summary", .string node.summary),
    ("parent_id", node.parentId.elim .null fun parent => .string parent.root),
    ("obligation_ids", .array (node.obligationIds.map fun id => .string id.root))]

def ChapterGoal.dump (goal : ChapterGoal) : JsonValue :=
  .object [
    ("goal_id", .string goal.goalId.root),
    ("chapter_index", .int goal.chapterIndex.val),
    ("summary", .string goal.summary.text),
    ("obligation_ids", .array (goal.obligationIds.map fun id => .string id.root))]

def entitySpec (entity : Entity) : RecordSpec where
  kind := WorldRecordKind.entity.value
  recordId := entity.entityId
  predicate := none
  validStart := none
  validEnd := none
  worldline := none
  narrativeStart := none
  narrativeEnd := none
  accessScope := "writer_safe"
  truthClass := none
  entities := [(entity.entityId, "self")]
  payload := Entity.codec.dump entity

def eventSpec (event : Event) : RecordSpec where
  kind := WorldRecordKind.event.value
  recordId := event.eventId
  predicate := some event.eventType.text
  validStart := event.storyTime.bind StoryTime.startOrdinal
  validEnd := event.storyTime.bind StoryTime.endOrdinal
  worldline := event.storyTime.map fun time => time.worldline.text
  narrativeStart := event.narrativeOrder.map fun order => order.chapterIndex
  narrativeEnd := event.narrativeOrder.map fun order => order.chapterIndex
  accessScope := "writer_safe"
  truthClass := some event.truthClass.value
  entities := event.participantIds.map fun entity => (entity, "participant")
  payload := Event.codec.dump event

def stateSpec (state : StateRecord) : RecordSpec where
  kind := WorldRecordKind.state.value
  recordId := state.stateId
  predicate := some state.predicate.text
  validStart := state.validTime.startOrdinal
  validEnd := state.validTime.endOrdinal
  worldline := some state.validTime.worldline.text
  narrativeStart := none
  narrativeEnd := none
  accessScope := "writer_safe"
  truthClass := some state.truthClass.value
  entities := [(state.subjectId, "subject")]
  payload := StateRecord.codec.dump state

def relationSpec (relation : RelationRecord) : RecordSpec where
  kind := WorldRecordKind.relation.value
  recordId := relation.relationId
  predicate := some relation.predicate.text
  validStart := relation.validTime.startOrdinal
  validEnd := relation.validTime.endOrdinal
  worldline := some relation.validTime.worldline.text
  narrativeStart := none
  narrativeEnd := none
  accessScope := "writer_safe"
  truthClass := some relation.truthClass.value
  entities := [(relation.subjectId, "subject"), (relation.objectId, "object")]
  payload := RelationRecord.codec.dump relation

def obligationSpec (obligation : PlanObligation) : RecordSpec where
  kind := WorldRecordKind.obligation.value
  recordId := obligation.obligationId
  predicate := some obligation.kind.value
  validStart := none
  validEnd := none
  worldline := some "main"
  narrativeStart := none
  narrativeEnd := obligation.dueChapter.map fun chapter => chapter.val
  accessScope := "writer_safe"
  truthClass := none
  entities := obligation.ownerIds.map fun entity => (entity, "owner")
  payload := PlanObligation.codec.dump obligation

def planNodeSpec (node : PlanNode) : RecordSpec where
  kind := "plan_node"
  recordId := node.planNodeId
  predicate := some node.nodeType.text
  validStart := none
  validEnd := none
  worldline := some "main"
  narrativeStart := none
  narrativeEnd := none
  accessScope := "author_planning"
  truthClass := none
  entities := []
  payload := node.dump

def chapterGoalSpec (goal : ChapterGoal) : RecordSpec where
  kind := "chapter_goal"
  recordId := goal.goalId
  predicate := some "chapter_goal"
  validStart := none
  validEnd := none
  worldline := some "main"
  narrativeStart := some goal.chapterIndex.val
  narrativeEnd := some goal.chapterIndex.val
  accessScope := "author_planning"
  truthClass := none
  entities := []
  payload := goal.dump

/-- What is written of a world and a plan. -/
def specs (world : WorldRootDocument) (plan : Option PlanRootDocument) : List RecordSpec :=
  (world.records .entity).map entitySpec ++ (world.records .event).map eventSpec ++
    (world.records .state).map stateSpec ++ (world.records .relation).map relationSpec ++
    (world.records .obligation).map obligationSpec ++
    plan.elim [] fun plan => plan.nodes.map planNodeSpec ++ plan.chapterGoals.map chapterGoalSpec

def rowIdOf (sourceCommit : CommitId) (kind : String) (recordId : StableId) : StableId where
  root := "r1." ++
    (hexToken (sourceCommit.root ++ "\x00" ++ kind ++ "\x00" ++ recordId.root)).text
  valid := isStableId_append_token _ _ (by decide) (by decide)

def RecordSpec.rowId (sourceCommit : CommitId) (spec : RecordSpec) : String :=
  (rowIdOf sourceCommit spec.kind spec.recordId).root

def RecordSpec.row (projectId : ProjectId) (sourceCommit : CommitId) (spec : RecordSpec) :
    R1RecordRow where
  rowId := spec.rowId sourceCommit
  projectId := projectId.root
  sourceCommit := sourceCommit.root
  recordKind := spec.kind
  recordId := spec.recordId.root
  predicate := spec.predicate
  validStart := spec.validStart
  validEnd := spec.validEnd
  worldline := spec.worldline
  narrativeStart := spec.narrativeStart
  narrativeEnd := spec.narrativeEnd
  accessScope := spec.accessScope
  truthClass := spec.truthClass
  recordJson := spec.payload

def RecordSpec.associations (sourceCommit : CommitId) (spec : RecordSpec) :
    List R1RecordEntityRow :=
  spec.entities.map fun entity => ⟨spec.rowId sourceCommit, entity.1.root, entity.2⟩

/-- An integer column takes the number. -/
def IntegerFits (value : Int) : Prop :=
  -2147483648 ≤ value ∧ value ≤ 2147483647

instance (value : Int) : Decidable (IntegerFits value) := by
  unfold IntegerFits
  infer_instance

/-- An integer column that may be null takes the number. -/
def OptionIntegerFits (value : Option Int) : Prop :=
  ∀ number ∈ value, IntegerFits number

instance (value : Option Int) : Decidable (OptionIntegerFits value) := by
  unfold OptionIntegerFits
  infer_instance

/-- The columns of the table take the values of the row. -/
def R1RecordRow.Fits (row : R1RecordRow) : Prop :=
  TextFits 180 row.rowId ∧ TextFits 32 row.recordKind ∧ TextFits 128 row.recordId ∧
    OptionFits 128 row.predicate ∧ OptionIntegerFits row.validStart ∧
    OptionIntegerFits row.validEnd ∧ OptionFits 128 row.worldline ∧
    OptionIntegerFits row.narrativeStart ∧ OptionIntegerFits row.narrativeEnd ∧
    TextFits 64 row.accessScope ∧ OptionFits 32 row.truthClass

instance (row : R1RecordRow) : Decidable row.Fits := by
  unfold R1RecordRow.Fits
  infer_instance

/-- The columns of the table of entities take the values of the row. -/
def R1RecordEntityRow.Fits (row : R1RecordEntityRow) : Prop :=
  TextFits 128 row.entityId ∧ TextFits 32 row.role

instance (row : R1RecordEntityRow) : Decidable row.Fits := by
  unfold R1RecordEntityRow.Fits
  infer_instance

/-- The rows that the tables refer to: the projects, and their commits. -/
structure Registry where
  projects : List ProjectId
  commits : List CommitId

/-- Replace the rows of a commit. A key that is taken, a reference to nothing or a value that
    a column does not take undoes the transaction. -/
def materialize (registry : Registry) (tables : R1Tables) (projectId : ProjectId)
    (canonicalCommit : CommitId) (world : WorldRootDocument) (plan : Option PlanRootDocument) :
    Except String (R1Tables × Nat) :=
  let written := specs world plan
  let oldIds := (tables.records.filter fun row => row.sourceCommit = canonicalCommit.root).map
    R1RecordRow.rowId
  let newRecords := written.map (RecordSpec.row projectId canonicalCommit)
  let newAssociations := written.flatMap (RecordSpec.associations canonicalCommit)
  let records := (tables.records.filter fun row => row.sourceCommit ≠ canonicalCommit.root) ++
    newRecords
  let associations := (tables.associations.filter fun association => association.rowId ∉ oldIds) ++
    newAssociations
  if h : ((∀ row ∈ newRecords, row.Fits) ∧ (∀ row ∈ newAssociations, row.Fits) ∧
      (newRecords ≠ [] → projectId ∈ registry.projects ∧ canonicalCommit ∈ registry.commits)) ∧
      (records.map R1RecordRow.rowId).Nodup ∧ associations.Nodup then
    .ok (⟨records, associations, h.2.1, h.2.2⟩, written.length)
  else .error "DatabaseError"

/-- What the checker relies on. -/
structure RecordSpec.Sound (spec : RecordSpec) : Prop where
  interval : ordinalsOrdered spec.validStart spec.validEnd = true
  evidence : ∃ refs, evidenceRefs spec.payload = .ok refs
  relation : spec.kind = WorldRecordKind.relation.value →
    (∃ predicate, spec.predicate = some predicate) ∧
    ∃ subject object, spec.entities = [(subject, "subject"), (object, "object")]

/-- What holds of every record that is written. -/
theorem specs_sound (world : WorldRootDocument) (plan : Option PlanRootDocument) :
    ∀ spec ∈ specs world plan, spec.Sound := by
  intro spec hspec
  have hnone : ∀ {payload : JsonValue}, payload.get? "evidence_refs" = none →
      ∃ refs, evidenceRefs payload = .ok refs := fun {payload} h => ⟨[], by
    unfold evidenceRefs
    rw [h]⟩
  have hdump : ∀ {payload : JsonValue} {refs : List EvidenceRef},
      payload.get? "evidence_refs" = some (EvidenceRef.codec.list.dump refs) →
      ∃ refs, evidenceRefs payload = .ok refs := fun h => ⟨_, evidenceRefs_dump h⟩
  simp only [specs, mem_append, mem_map] at hspec
  rcases hspec with ((((⟨entity, -, rfl⟩ | ⟨event, -, rfl⟩) | ⟨state, -, rfl⟩) |
    ⟨relation, -, rfl⟩) | ⟨obligation, -, rfl⟩) | hplan
  · exact ⟨rfl, hnone rfl, fun h => absurd (show "entity" = "relation" from h) (by decide)⟩
  · refine ⟨?_, hdump rfl, fun h => absurd (show "event" = "relation" from h) (by decide)⟩
    cases hstory : event.storyTime with
    | none => simp [eventSpec, hstory, ordinalsOrdered]
    | some time => simpa [eventSpec, hstory] using time.ordered
  · exact ⟨state.validTime.ordered, hdump rfl, fun h => absurd (show "state" = "relation" from h) (by decide)⟩
  · exact ⟨relation.validTime.ordered, hdump rfl, fun _ => ⟨⟨_, rfl⟩, _, _, rfl⟩⟩
  · exact ⟨rfl, hdump rfl, fun h => absurd (show "obligation" = "relation" from h) (by decide)⟩
  · cases plan with
    | none => exact absurd hplan (by simp)
    | some plan =>
      simp only [Option.elim_some, mem_append, mem_map] at hplan
      rcases hplan with ⟨node, -, rfl⟩ | ⟨goal, -, rfl⟩
      · exact ⟨rfl, hnone rfl, fun h => absurd (show "plan_node" = "relation" from h) (by decide)⟩
      · exact ⟨rfl, hnone rfl, fun h => absurd (show "chapter_goal" = "relation" from h) (by decide)⟩

/-- What holds of the tables: an association is of a row, every row has the form that a receipt
    asks for, and every relation has its predicate and its two ends. -/
structure Written (tables : R1Tables) : Prop where
  owned : ∀ association ∈ tables.associations, ∃ row ∈ tables.records,
    row.rowId = association.rowId
  presentable : ∀ row ∈ tables.records, Presentable tables row
  binary : ∀ row ∈ tables.records, row.recordKind = WorldRecordKind.relation.value →
    Binary tables row

theorem filter_flatMap_associations (sourceCommit : CommitId) {written : List RecordSpec}
    (h : (written.map (RecordSpec.rowId sourceCommit)).Nodup) {spec : RecordSpec}
    (hspec : spec ∈ written) :
    ((written.flatMap (RecordSpec.associations sourceCommit)).filter fun association =>
      association.rowId = spec.rowId sourceCommit) = spec.associations sourceCommit := by
  have hown : ∀ other : RecordSpec, ∀ association ∈ other.associations sourceCommit,
      association.rowId = other.rowId sourceCommit := by
    intro other association hassociation
    obtain ⟨entity, -, rfl⟩ := mem_map.mp hassociation
    rfl
  have hkeep : ∀ other : RecordSpec, other.rowId sourceCommit = spec.rowId sourceCommit →
      (other.associations sourceCommit).filter (fun association =>
        association.rowId = spec.rowId sourceCommit) = other.associations sourceCommit := by
    intro other hother
    rw [filter_eq_self]
    intro association hassociation
    simp [hown other association hassociation, hother]
  have hdrop : ∀ other : RecordSpec, other.rowId sourceCommit ≠ spec.rowId sourceCommit →
      (other.associations sourceCommit).filter (fun association =>
        association.rowId = spec.rowId sourceCommit) = [] := by
    intro other hother
    rw [filter_eq_nil_iff]
    intro association hassociation
    simp [hown other association hassociation, hother]
  induction written with
  | nil => exact absurd hspec (by simp)
  | cons other written ih =>
    rw [map_cons, nodup_cons] at h
    rw [flatMap_cons, filter_append]
    rcases mem_cons.mp hspec with rfl | hspec
    · -- No later record has the key.
      have hrest : (written.flatMap (RecordSpec.associations sourceCommit)).filter
          (fun association => association.rowId = spec.rowId sourceCommit) = [] := by
        rw [filter_eq_nil_iff]
        intro association hassociation
        obtain ⟨later, hlater, hmem⟩ := mem_flatMap.mp hassociation
        have hne : later.rowId sourceCommit ≠ spec.rowId sourceCommit := fun heq =>
          h.1 (heq ▸ mem_map_of_mem hlater)
        simp [hown later association hmem, hne]
      rw [hkeep spec rfl, hrest, append_nil]
    · have hne : other.rowId sourceCommit ≠ spec.rowId sourceCommit := fun heq =>
        h.1 (heq ▸ mem_map_of_mem hspec)
      rw [hdrop other hne, nil_append, ih h.2 hspec]

def R1Tables.ofRow (tables : R1Tables) (rowId : String) : List R1RecordEntityRow :=
  tables.associations.filter fun association => association.rowId = rowId

/-- What a materialization leaves: the rows of other commits as they were, and the rows that are
    written, each with its associations. -/
structure Replaced (tables tables' : R1Tables) (projectId : ProjectId) (sourceCommit : CommitId)
    (written : List RecordSpec) : Prop where
  rows : ∀ row ∈ tables'.records,
    (row ∈ tables.records ∧ tables'.ofRow row.rowId = tables.ofRow row.rowId) ∨
      ∃ spec ∈ written, row = spec.row projectId sourceCommit ∧
        tables'.ofRow row.rowId = spec.associations sourceCommit
  owned : ∀ association ∈ tables'.associations, ∃ row ∈ tables'.records,
    row.rowId = association.rowId

theorem replaced_materialize {registry : Registry} {tables tables' : R1Tables}
    {projectId : ProjectId} {sourceCommit : CommitId}
    {world : WorldRootDocument} {plan : Option PlanRootDocument} {count : Nat}
    (howned : ∀ association ∈ tables.associations, ∃ row ∈ tables.records,
      row.rowId = association.rowId)
    (h : materialize registry tables projectId sourceCommit world plan = .ok (tables', count)) :
    Replaced tables tables' projectId sourceCommit (specs world plan) := by
  dsimp only [materialize] at h
  split at h
  case isFalse => cases h
  rename_i hkeys
  cases h
  obtain ⟨-, hprimary, -⟩ := hkeys
  rw [map_append, nodup_append'] at hprimary
  obtain ⟨-, hnew, hdisjoint⟩ := hprimary
  rw [map_map] at hnew hdisjoint
  -- An association that is kept is of a row that is kept.
  have hkept : ∀ association ∈ tables.associations, association.rowId ∉
        (tables.records.filter fun row => row.sourceCommit = sourceCommit.root).map
          R1RecordRow.rowId →
      ∃ row ∈ tables.records.filter fun row => row.sourceCommit ≠ sourceCommit.root,
        row.rowId = association.rowId := by
    intro association hassociation hold
    obtain ⟨row, hrow, hkey⟩ := howned association hassociation
    refine ⟨row, mem_filter.mpr ⟨hrow, ?_⟩, hkey⟩
    refine decide_eq_true fun hcommit => hold (mem_map.mpr ⟨row, ?_, hkey⟩)
    exact mem_filter.mpr ⟨hrow, decide_eq_true hcommit⟩
  have hwritten : ∀ association ∈ (specs world plan).flatMap
      (RecordSpec.associations sourceCommit),
      ∃ spec ∈ specs world plan, association.rowId = spec.rowId sourceCommit := by
    intro association hassociation
    obtain ⟨spec, hspec, hmem⟩ := mem_flatMap.mp hassociation
    obtain ⟨entity, -, rfl⟩ := mem_map.mp hmem
    exact ⟨spec, hspec, rfl⟩
  refine ⟨fun row hrow => ?_, fun association hassociation => ?_⟩
  · rcases mem_append.mp hrow with hrow | hrow
    · left
      rw [mem_filter, decide_eq_true_eq] at hrow
      have hkey : row.rowId ∈ (tables.records.filter fun row =>
          row.sourceCommit ≠ sourceCommit.root).map R1RecordRow.rowId :=
        mem_map_of_mem (mem_filter.mpr ⟨hrow.1, decide_eq_true hrow.2⟩)
      have hnone : ((specs world plan).flatMap (RecordSpec.associations sourceCommit)).filter
          (fun association => association.rowId = row.rowId) = [] := by
        rw [filter_eq_nil_iff]
        intro association hassociation
        obtain ⟨spec, hspec, heq⟩ := hwritten association hassociation
        have hne : association.rowId ≠ row.rowId := fun hsame =>
          hdisjoint hkey (mem_map.mpr ⟨spec, hspec, heq.symm.trans hsame⟩)
        simp [hne]
      have hold : row.rowId ∉ (tables.records.filter fun row =>
          row.sourceCommit = sourceCommit.root).map R1RecordRow.rowId := by
        intro hmem
        obtain ⟨other, hother, hsame⟩ := mem_map.mp hmem
        rw [mem_filter, decide_eq_true_eq] at hother
        rw [inj_on_of_nodup_map tables.primaryKey hother.1 hrow.1 hsame] at hother
        exact hrow.2 hother.2
      refine ⟨hrow.1, ?_⟩
      unfold R1Tables.ofRow
      rw [filter_append, hnone, append_nil, filter_filter]
      refine filter_congr fun association _ => ?_
      by_cases hsame : association.rowId = row.rowId
      · simp [hsame, hold]
      · simp [hsame]
    · right
      obtain ⟨spec, hspec, rfl⟩ := mem_map.mp hrow
      refine ⟨spec, hspec, rfl, ?_⟩
      have hnone : (tables.associations.filter fun association => association.rowId ∉
          (tables.records.filter fun row => row.sourceCommit = sourceCommit.root).map
            R1RecordRow.rowId).filter
          (fun association => association.rowId = (spec.row projectId sourceCommit).rowId) = [] := by
        rw [filter_eq_nil_iff]
        intro association hassociation
        rw [mem_filter, decide_eq_true_eq] at hassociation
        obtain ⟨row, hrow, hkey⟩ := hkept association hassociation.1 hassociation.2
        have hne : association.rowId ≠ (spec.row projectId sourceCommit).rowId := fun hsame =>
          hdisjoint (mem_map_of_mem hrow) (mem_map.mpr ⟨spec, hspec,
            (hkey.trans hsame).symm⟩)
        simp [hne]
      unfold R1Tables.ofRow
      rw [filter_append, hnone, nil_append]
      exact filter_flatMap_associations sourceCommit hnew hspec
  · rcases mem_append.mp hassociation with hassociation | hassociation
    · rw [mem_filter, decide_eq_true_eq] at hassociation
      obtain ⟨row, hrow, hkey⟩ := hkept association hassociation.1 hassociation.2
      exact ⟨row, mem_append_left _ hrow, hkey⟩
    · obtain ⟨spec, hspec, hkey⟩ := hwritten association hassociation
      exact ⟨spec.row projectId sourceCommit, mem_append_right _ (mem_map_of_mem hspec), hkey.symm⟩

theorem Presentable.of_ofRow {tables tables' : R1Tables} {row : R1RecordRow}
    (h : Presentable tables row) (hsame : tables'.ofRow row.rowId = tables.ofRow row.rowId) :
    Presentable tables' row := by
  refine ⟨h.rowId, h.recordId, h.interval, h.evidence, fun association hread hkey => ?_⟩
  have hmem : association ∈ tables'.ofRow row.rowId :=
    mem_filter.mpr ⟨hread, decide_eq_true hkey⟩
  rw [hsame] at hmem
  exact h.participants association (mem_of_mem_filter hmem) hkey

theorem RecordSpec.Sound.presentable {tables : R1Tables} {projectId : ProjectId}
    {sourceCommit : CommitId} {spec : RecordSpec} (h : spec.Sound)
    (hread : tables.ofRow (spec.row projectId sourceCommit).rowId = spec.associations sourceCommit) :
    Presentable tables (spec.row projectId sourceCommit) := by
  refine ⟨(rowIdOf sourceCommit spec.kind spec.recordId).valid, spec.recordId.valid, h.interval,
    h.evidence, fun association hmem hkey => ?_⟩
  have hown : association ∈ tables.ofRow (spec.row projectId sourceCommit).rowId :=
    mem_filter.mpr ⟨hmem, decide_eq_true hkey⟩
  rw [hread] at hown
  obtain ⟨entity, -, rfl⟩ := mem_map.mp hown
  exact entity.1.valid

theorem RecordSpec.Sound.binary {tables : R1Tables} {projectId : ProjectId}
    {sourceCommit : CommitId} {spec : RecordSpec}
    (h : spec.Sound) (hrelation : spec.kind = WorldRecordKind.relation.value)
    (hread : tables.ofRow (spec.row projectId sourceCommit).rowId = spec.associations sourceCommit) :
    Binary tables (spec.row projectId sourceCommit) := by
  obtain ⟨hpredicate, subject, object, hends⟩ := h.relation hrelation
  refine ⟨hpredicate, subject.root, object.root, .of_eq (hread.trans ?_)⟩
  unfold RecordSpec.associations
  rw [hends]
  rfl

/-- A materialization keeps what holds of the tables. -/
theorem written_materialize {registry : Registry} {tables tables' : R1Tables}
    {projectId : ProjectId} {sourceCommit : CommitId}
    {world : WorldRootDocument} {plan : Option PlanRootDocument} {count : Nat}
    (hwritten : Written tables)
    (h : materialize registry tables projectId sourceCommit world plan = .ok (tables', count)) : Written tables' := by
  have hreplaced := replaced_materialize hwritten.owned h
  refine ⟨hreplaced.owned, fun row hrow => ?_, fun row hrow hrelation => ?_⟩
  · rcases hreplaced.rows row hrow with ⟨hold, hsame⟩ | ⟨spec, hspec, rfl, hread⟩
    · exact (hwritten.presentable row hold).of_ofRow hsame
    · exact (specs_sound world plan spec hspec).presentable hread
  · rcases hreplaced.rows row hrow with ⟨hold, hsame⟩ | ⟨spec, hspec, rfl, hread⟩
    · obtain ⟨hpredicate, subject, object, hends⟩ := hwritten.binary row hold hrelation
      exact ⟨hpredicate, subject, object, (Perm.of_eq hsame).trans hends⟩
    · exact (specs_sound world plan spec hspec).binary hrelation hread

/-- The tables that materializations lead to. -/
inductive Materialized : R1Tables → Prop
  | empty : Materialized ⟨[], [], nodup_nil, nodup_nil⟩
  | step {registry : Registry} {tables tables' : R1Tables} {projectId : ProjectId}
      {sourceCommit : CommitId} {world : WorldRootDocument}
      {plan : Option PlanRootDocument} {count : Nat} (before : Materialized tables)
      (h : materialize registry tables projectId sourceCommit world plan = .ok (tables', count)) :
      Materialized tables'

/-- It holds of all tables that come about. -/
theorem Materialized.written {tables : R1Tables} (h : Materialized tables) : Written tables := by
  induction h with
  | empty => exact ⟨by simp, by simp, by simp⟩
  | step _ hstep ih => exact written_materialize ih hstep

end NovelAgent.R1
