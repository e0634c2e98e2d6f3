import NovelAgent.ModelCalls.Agreement
import NovelAgent.R1.Materialize

/-!
# Faithful Rows

When a world can be written as rows, and that the rows say what the world says.
-/

namespace NovelAgent.R1

open Core Domain World List
open ModelCalls (TextFits OptionFits textFits_stableId)

/-- The entities that a record refers to, in their roles. -/
inductive RefersTo : (kind : WorldRecordKind) → kind.Record → StableId → String → Prop
  | self (entity : Entity) : RefersTo .entity entity entity.entityId "self"
  | participant {event : Event} {id : StableId} (h : id ∈ event.participantIds) :
      RefersTo .event event id "participant"
  | subject (state : StateRecord) : RefersTo .state state state.subjectId "subject"
  | source (relation : RelationRecord) : RefersTo .relation relation relation.subjectId "subject"
  | target (relation : RelationRecord) : RefersTo .relation relation relation.objectId "object"
  | owner {obligation : PlanObligation} {id : StableId} (h : id ∈ obligation.ownerIds) :
      RefersTo .obligation obligation id "owner"

/-- The row of one of the world's records. -/
structure RowOf (sourceCommit : CommitId) (kind : WorldRecordKind) (record : kind.Record)
    (row : R1RecordRow) : Prop where
  commit : row.sourceCommit = sourceCommit.root
  kindName : row.recordKind = kind.value
  identity : row.recordId = (kind.identity record).root
  document : row.recordJson = kind.codec.dump record

/-- The rows of a commit are those of the world's records, one for each, and the
    entities beside a row are those that its record refers to. -/
structure Faithful (tables : R1Tables) (sourceCommit : CommitId) (world : WorldRootDocument)
    (plan : Option PlanRootDocument) : Prop where
  rows : ∀ kind, ∀ record ∈ world.records kind,
    ∃! row, row ∈ tables.records ∧ RowOf sourceCommit kind record row
  records : ∀ row ∈ tables.records, row.sourceCommit = sourceCommit.root →
    ∀ kind : WorldRecordKind, row.recordKind = kind.value →
      ∃! record, record ∈ world.records kind ∧ RowOf sourceCommit kind record row
  kinds : plan = none → ∀ row ∈ tables.records, row.sourceCommit = sourceCommit.root →
    ∃ kind : WorldRecordKind, row.recordKind = kind.value
  participants : ∀ kind, ∀ record ∈ world.records kind, ∀ row ∈ tables.records,
    RowOf sourceCommit kind record row → ∀ association,
      association ∈ tables.associations ∧ association.rowId = row.rowId ↔
        ∃ id role, RefersTo kind record id role ∧ association = ⟨row.rowId, id.root, role⟩

/-- What the rows of a world and a plan are known by. -/
inductive HasKey (world : WorldRootDocument) (plan : Option PlanRootDocument) :
    String → StableId → Prop
  | record {kind : WorldRecordKind} {record : kind.Record} (h : record ∈ world.records kind) :
      HasKey world plan kind.value (kind.identity record)
  | node {root : PlanRootDocument} {node : PlanNode} (hplan : plan = some root)
      (h : node ∈ root.nodes) : HasKey world plan "plan_node" node.planNodeId
  | goal {root : PlanRootDocument} {goal : ChapterGoal} (hplan : plan = some root)
      (h : goal ∈ root.chapterGoals) : HasKey world plan "chapter_goal" goal.goalId

/-- The columns of a story time take it. -/
structure TimeFits (time : StoryTime) : Prop where
  worldline : TextFits 128 time.worldline.text
  start : OptionIntegerFits time.startOrdinal
  stop : OptionIntegerFits time.endOrdinal

/-- The columns take what a world and a plan say. -/
structure ColumnsFit (world : WorldRootDocument) (plan : Option PlanRootDocument) : Prop where
  eventTypes : ∀ event ∈ world.records .event, TextFits 128 event.eventType.text
  eventTimes : ∀ event ∈ world.records .event, ∀ time ∈ event.storyTime, TimeFits time
  eventOrders : ∀ event ∈ world.records .event, ∀ order ∈ event.narrativeOrder,
    IntegerFits order.chapterIndex
  states : ∀ state ∈ world.records .state,
    TextFits 128 state.predicate.text ∧ TimeFits state.validTime
  relations : ∀ relation ∈ world.records .relation,
    TextFits 128 relation.predicate.text ∧ TimeFits relation.validTime
  dues : ∀ obligation ∈ world.records .obligation, ∀ chapter ∈ obligation.dueChapter,
    IntegerFits chapter.val
  nodeTypes : ∀ root ∈ plan, ∀ node ∈ root.nodes, TextFits 128 node.nodeType.text
  goals : ∀ root ∈ plan, ∀ goal ∈ root.chapterGoals, IntegerFits goal.chapterIndex.val

/-- When the rows of a world and a plan can be written: no entity is named twice
    in one place, the columns take what is said, the project and the commit are
    known, and the identities of the rows are not taken. -/
structure Materializable (registry : Registry) (tables : R1Tables) (projectId : ProjectId)
    (sourceCommit : CommitId) (world : WorldRootDocument) (plan : Option PlanRootDocument) :
    Prop where
  participants : ∀ event ∈ world.records .event, event.participantIds.Nodup
  owners : ∀ obligation ∈ world.records .obligation, obligation.ownerIds.Nodup
  columns : ColumnsFit world plan
  registered : (∃ kind id, HasKey world plan kind id) →
    projectId ∈ registry.projects ∧ sourceCommit ∈ registry.commits
  free : ∀ kind id, HasKey world plan kind id → ∀ row ∈ tables.records,
    row.sourceCommit ≠ sourceCommit.root → row.rowId ≠ (rowIdOf sourceCommit kind id).root
  apart : ∀ kind id kind' id', HasKey world plan kind id → HasKey world plan kind' id' →
    rowIdOf sourceCommit kind id = rowIdOf sourceCommit kind' id' → kind = kind' ∧ id = id'

variable {spec : RecordSpec}

section Specs

variable {world : WorldRootDocument} {plan : Option PlanRootDocument}

/-- What is written of a record of the world. -/
def specOf : (kind : WorldRecordKind) → kind.Record → RecordSpec
  | .entity => entitySpec
  | .event => eventSpec
  | .state => stateSpec
  | .relation => relationSpec
  | .obligation => obligationSpec

section

variable (kind : WorldRecordKind) (record : kind.Record)

include kind record

theorem specOf_kind : (specOf kind record).kind = kind.value := by
  cases kind <;> rfl

theorem specOf_recordId : (specOf kind record).recordId = kind.identity record := by
  cases kind <;> rfl

theorem specOf_payload : (specOf kind record).payload = kind.codec.dump record := by
  cases kind <;> rfl

/-- What is written beside a record is what it refers to. -/
theorem specOf_entities (id : StableId) (role : String) :
    (id, role) ∈ (specOf kind record).entities ↔
      RefersTo kind record id role := by
  cases kind with
  | entity =>
    change (id, role) ∈ [(Entity.entityId record, "self")] ↔ _
    rw [mem_singleton, Prod.mk.injEq]
    constructor
    · rintro ⟨rfl, rfl⟩
      exact .self record
    · rintro ⟨⟩
      exact ⟨rfl, rfl⟩
  | event =>
    change (id, role) ∈ (Event.participantIds record).map
      (fun entity => (entity, "participant")) ↔ _
    rw [mem_map]
    constructor
    · rintro ⟨entity, hentity, hpair⟩
      cases hpair
      exact .participant hentity
    · rintro ⟨⟩
      rename_i h
      exact ⟨id, h, rfl⟩
  | state =>
    change (id, role) ∈ [(StateRecord.subjectId record, "subject")] ↔ _
    rw [mem_singleton, Prod.mk.injEq]
    constructor
    · rintro ⟨rfl, rfl⟩
      exact .subject record
    · rintro ⟨⟩
      exact ⟨rfl, rfl⟩
  | relation =>
    change (id, role) ∈ [(RelationRecord.subjectId record, "subject"),
      (RelationRecord.objectId record, "object")] ↔ _
    rw [mem_pair, Prod.mk.injEq, Prod.mk.injEq]
    constructor
    · rintro (⟨rfl, rfl⟩ | ⟨rfl, rfl⟩)
      · exact .source record
      · exact .target record
    · rintro ⟨⟩
      · exact Or.inl ⟨rfl, rfl⟩
      · exact Or.inr ⟨rfl, rfl⟩
  | obligation =>
    change (id, role) ∈ (PlanObligation.ownerIds record).map (fun entity => (entity, "owner")) ↔ _
    rw [mem_map]
    constructor
    · rintro ⟨entity, hentity, hpair⟩
      cases hpair
      exact .owner hentity
    · rintro ⟨⟩
      rename_i h
      exact ⟨id, h, rfl⟩

end

theorem mem_specs : spec ∈ specs world plan ↔
    (∃ kind, ∃ record ∈ world.records kind, specOf kind record = spec) ∨
      ∃ root ∈ plan, (∃ node ∈ root.nodes, planNodeSpec node = spec) ∨
        ∃ goal ∈ root.chapterGoals, chapterGoalSpec goal = spec := by
  have hplan : spec ∈ (plan.elim [] fun plan => plan.nodes.map planNodeSpec ++
      plan.chapterGoals.map chapterGoalSpec) ↔
      ∃ root ∈ plan, (∃ node ∈ root.nodes, planNodeSpec node = spec) ∨
        ∃ goal ∈ root.chapterGoals, chapterGoalSpec goal = spec := by
    cases plan with
    | none => simp
    | some root => simp
  unfold specs
  simp only [mem_append, hplan, mem_map]
  constructor
  · rintro (((((h | h) | h) | h) | h) | h)
    · exact Or.inl ⟨.entity, h⟩
    · exact Or.inl ⟨.event, h⟩
    · exact Or.inl ⟨.state, h⟩
    · exact Or.inl ⟨.relation, h⟩
    · exact Or.inl ⟨.obligation, h⟩
    · exact Or.inr h
  · rintro (⟨kind, h⟩ | h)
    · cases kind with
      | entity => exact Or.inl (Or.inl (Or.inl (Or.inl (Or.inl h))))
      | event => exact Or.inl (Or.inl (Or.inl (Or.inl (Or.inr h))))
      | state => exact Or.inl (Or.inl (Or.inl (Or.inr h)))
      | relation => exact Or.inl (Or.inl (Or.inr h))
      | obligation => exact Or.inl (Or.inr h)
    · exact Or.inr h

/-- What is written is known by its key. -/
def RecordSpec.key (spec : RecordSpec) : String × StableId :=
  (spec.kind, spec.recordId)

variable {kind : String}

theorem hasKey_iff {id : StableId} :
    HasKey world plan kind id ↔ ∃ spec ∈ specs world plan, spec.key = (kind, id) := by
  constructor
  · rintro (⟨h⟩ | ⟨hplan, h⟩ | ⟨hplan, h⟩)
    · rename_i kind record
      refine ⟨specOf kind record, mem_specs.mpr (Or.inl ⟨kind, record, h, rfl⟩), ?_⟩
      unfold RecordSpec.key
      rw [specOf_kind, specOf_recordId]
    · exact ⟨_, mem_specs.mpr (Or.inr ⟨_, hplan, Or.inl ⟨_, h, rfl⟩⟩), rfl⟩
    · exact ⟨_, mem_specs.mpr (Or.inr ⟨_, hplan, Or.inr ⟨_, h, rfl⟩⟩), rfl⟩
  · rintro ⟨spec, hspec, hkey⟩
    rcases mem_specs.mp hspec with
      ⟨recordKind, record, h, rfl⟩ | ⟨root, hplan, ⟨node, h, rfl⟩ | ⟨goal, h, rfl⟩⟩
    · unfold RecordSpec.key at hkey
      rw [specOf_kind, specOf_recordId] at hkey
      cases hkey
      exact .record h
    · cases hkey
      exact .node hplan h
    · cases hkey
      exact .goal hplan h

theorem nodup_keys {α : Type} {toSpec : α → RecordSpec} {identity : α → StableId}
    {records : List α} (hkey : ∀ record, (toSpec record).key = (kind, identity record))
    (h : (records.map identity).Nodup) : ((records.map toSpec).map RecordSpec.key).Nodup := by
  have hpairs : (records.map toSpec).map RecordSpec.key =
      (records.map identity).map fun id => (kind, id) := by
    rw [map_map, map_map]
    exact map_congr_left fun record _ => hkey record
  rw [hpairs]
  exact h.map fun _ _ hpair => (Prod.mk.inj hpair).2

theorem nodup_blocks (blocks : List (String × List RecordSpec))
    (hkinds : (blocks.map Prod.fst).Nodup)
    (hkind : ∀ block ∈ blocks, ∀ spec ∈ block.2, spec.kind = block.1)
    (hnodup : ∀ block ∈ blocks, (block.2.map RecordSpec.key).Nodup) :
    ((blocks.flatMap Prod.snd).map RecordSpec.key).Nodup := by
  induction blocks with
  | nil => exact nodup_nil
  | cons block rest ih =>
    rw [map_cons, nodup_cons] at hkinds
    rw [flatMap_cons, map_append]
    refine Nodup.append (hnodup block mem_cons_self)
      (ih hkinds.2 (fun other h => hkind other (mem_cons_of_mem _ h))
        fun other h => hnodup other (mem_cons_of_mem _ h)) ?_
    -- A key of two blocks would be of two kinds.
    intro key hfirst hlater
    rcases mem_map.mp hfirst with ⟨spec, hspec, rfl⟩
    rcases mem_map.mp hlater with ⟨other, hother, hkey⟩
    rcases mem_flatMap.mp hother with ⟨later, hmem, hin⟩
    have hsame : later.1 = block.1 := by
      rw [← hkind later (mem_cons_of_mem _ hmem) other hin,
        ← hkind block mem_cons_self spec hspec]
      exact (Prod.mk.inj hkey).1
    exact hkinds.1 (mem_map.mpr ⟨later, hmem, hsame⟩)

/-- What is written, by kind. -/
def specBlocks (world : WorldRootDocument) (plan : Option PlanRootDocument) :
    List (String × List RecordSpec) :=
  [("entity", (world.records .entity).map entitySpec),
    ("event", (world.records .event).map eventSpec),
    ("state", (world.records .state).map stateSpec),
    ("relation", (world.records .relation).map relationSpec),
    ("obligation", (world.records .obligation).map obligationSpec),
    ("plan_node", plan.elim [] fun root => root.nodes.map planNodeSpec),
    ("chapter_goal", plan.elim [] fun root => root.chapterGoals.map chapterGoalSpec)]

theorem flatMap_specBlocks (world : WorldRootDocument) (plan : Option PlanRootDocument) :
    (specBlocks world plan).flatMap Prod.snd = specs world plan := by
  unfold specBlocks specs
  cases plan <;> simp

/-- No two rows are written for one record. -/
theorem specs_keys_nodup (world : WorldRootDocument) (plan : Option PlanRootDocument) :
    ((specs world plan).map RecordSpec.key).Nodup := by
  have hmap : ∀ {α : Type} {toSpec : α → RecordSpec} {kind : String} {records : List α},
      (∀ record, (toSpec record).kind = kind) → ∀ spec ∈ records.map toSpec, spec.kind = kind := by
    intro α toSpec kind records hkind spec hspec
    rcases mem_map.mp hspec with ⟨record, _, rfl⟩
    exact hkind record
  rw [← flatMap_specBlocks]
  have hkinds : ["entity", "event", "state", "relation", "obligation", "plan_node",
      "chapter_goal"].Nodup := by decide
  refine nodup_blocks _ hkinds ?_ ?_
  · unfold specBlocks
    simp only [forall_mem_cons, not_mem_nil, false_implies, implies_true, and_true]
    refine ⟨hmap fun _ => rfl, hmap fun _ => rfl, hmap fun _ => rfl, hmap fun _ => rfl,
      hmap fun _ => rfl, ?_, ?_⟩
    · cases plan with
      | none => exact fun _ h => absurd h not_mem_nil
      | some root => exact hmap fun _ => rfl
    · cases plan with
      | none => exact fun _ h => absurd h not_mem_nil
      | some root => exact hmap fun _ => rfl
  · unfold specBlocks
    simp only [forall_mem_cons, not_mem_nil, false_implies, implies_true, and_true]
    refine ⟨nodup_keys (fun _ => rfl) (world.nodup_identities .entity),
      nodup_keys (fun _ => rfl) (world.nodup_identities .event),
      nodup_keys (fun _ => rfl) (world.nodup_identities .state),
      nodup_keys (fun _ => rfl) (world.nodup_identities .relation),
      nodup_keys (fun _ => rfl) (world.nodup_identities .obligation), ?_, ?_⟩
    · cases plan with
      | none => exact nodup_nil
      | some root =>
        have hkey : ∀ node, (planNodeSpec node).key = ("plan_node", node.planNodeId) :=
          fun _ => rfl
        exact nodup_keys hkey root.uniqueNodes
    · cases plan with
      | none => exact nodup_nil
      | some root =>
        have hkey : ∀ goal, (chapterGoalSpec goal).key = ("chapter_goal", goal.goalId) :=
          fun _ => rfl
        exact nodup_keys hkey root.uniqueGoals

theorem specs_entities_nodup : (∀ spec ∈ specs world plan, spec.entities.Nodup) ↔
    (∀ event ∈ world.records .event, event.participantIds.Nodup) ∧
      ∀ obligation ∈ world.records .obligation, obligation.ownerIds.Nodup := by
  have hroles : ∀ (ids : List StableId) (role : String),
      (ids.map fun id => (id, role)).Nodup ↔ ids.Nodup := fun ids role =>
    nodup_map_iff fun _ _ hpair => (Prod.mk.inj hpair).1
  constructor
  · intro h
    refine ⟨fun event hevent => ?_, fun obligation hobligation => ?_⟩
    · exact (hroles _ _).mp (h _ (mem_specs.mpr (Or.inl ⟨.event, event, hevent, rfl⟩)))
    · have hspec : obligationSpec obligation ∈ specs world plan :=
        mem_specs.mpr (Or.inl ⟨.obligation, obligation, hobligation, rfl⟩)
      exact (hroles _ _).mp (h _ hspec)
  · rintro ⟨hparticipants, howners⟩ spec hspec
    rcases mem_specs.mp hspec with
      ⟨kind, record, h, rfl⟩ | ⟨root, _, ⟨node, _, rfl⟩ | ⟨goal, _, rfl⟩⟩
    · cases kind with
      | entity => exact nodup_singleton _
      | event => exact (hroles _ _).mpr (hparticipants record h)
      | state => exact nodup_singleton _
      | relation =>
        have hdiffer : (RelationRecord.subjectId record, "subject") ≠
            (RelationRecord.objectId record, "object") := by
          intro hpair
          exact absurd (Prod.mk.inj hpair).2 (by decide)
        exact nodup_cons.mpr ⟨fun hmem => hdiffer (mem_singleton.mp hmem),
          nodup_singleton _⟩
      | obligation => exact (hroles _ _).mpr (howners record h)
    · exact nodup_nil
    · exact nodup_nil

end Specs

section Columns

variable {world : WorldRootDocument} {plan : Option PlanRootDocument}

variable {width : Nat}

theorem optionFits_some {text : String} : OptionFits width (some text) ↔ TextFits width text := by
  simp [OptionFits]

theorem optionFits_none : OptionFits width none := nofun

theorem optionIntegerFits_some {value : Int} :
    OptionIntegerFits (some value) ↔ IntegerFits value := by
  simp [OptionIntegerFits]

theorem optionIntegerFits_none : OptionIntegerFits none := nofun

/-- The columns of a record whose values are not of a few fixed ones take them. -/
structure RecordSpec.Fits (spec : RecordSpec) : Prop where
  predicate : OptionFits 128 spec.predicate
  start : OptionIntegerFits spec.validStart
  stop : OptionIntegerFits spec.validEnd
  worldline : OptionFits 128 spec.worldline
  first : OptionIntegerFits spec.narrativeStart
  last : OptionIntegerFits spec.narrativeEnd

theorem textFits_truthClass (truthClass : TruthClass) : TextFits 32 truthClass.value := by
  cases truthClass <;> decide

theorem specs_fixed (h : spec ∈ specs world plan) :
    TextFits 32 spec.kind ∧ TextFits 64 spec.accessScope ∧ OptionFits 32 spec.truthClass := by
  rcases mem_specs.mp h with
    ⟨kind, record, _, rfl⟩ | ⟨root, _, ⟨node, _, rfl⟩ | ⟨goal, _, rfl⟩⟩
  · refine ⟨?_, ?_, ?_⟩
    · rw [specOf_kind]
      cases kind <;> decide
    · have hscope : (specOf kind record).accessScope = "writer_safe" := by cases kind <;> rfl
      rw [hscope]
      decide
    · cases kind with
      | entity => exact optionFits_none
      | event => exact optionFits_some.mpr (textFits_truthClass _)
      | state => exact optionFits_some.mpr (textFits_truthClass _)
      | relation => exact optionFits_some.mpr (textFits_truthClass _)
      | obligation => exact optionFits_none
  · have hkind : TextFits 32 "plan_node" := by decide
    have hscope : TextFits 64 "author_planning" := by decide
    exact ⟨hkind, hscope, optionFits_none⟩
  · have hkind : TextFits 32 "chapter_goal" := by decide
    have hscope : TextFits 64 "author_planning" := by decide
    exact ⟨hkind, hscope, optionFits_none⟩

theorem row_fits_iff (h : spec ∈ specs world plan) (projectId : ProjectId)
    (sourceCommit : CommitId) : (spec.row projectId sourceCommit).Fits ↔ spec.Fits := by
  rcases specs_fixed h with ⟨hkind, hscope, htruth⟩
  have hrow : TextFits 180 (spec.rowId sourceCommit) := by
    have hid := textFits_stableId (rowIdOf sourceCommit spec.kind spec.recordId)
    exact ⟨hid.1.trans (by omega), hid.2⟩
  constructor
  · rintro ⟨_, _, _, hpredicate, hstart, hstop, hworldline, hfirst, hlast, _⟩
    exact ⟨hpredicate, hstart, hstop, hworldline, hfirst, hlast⟩
  · intro hfits
    exact ⟨hrow, hkind, textFits_stableId _, hfits.predicate, hfits.start, hfits.stop,
      hfits.worldline, hfits.first, hfits.last, hscope, htruth⟩

theorem associations_fit (h : spec ∈ specs world plan) (sourceCommit : CommitId) :
    ∀ row ∈ spec.associations sourceCommit, row.Fits := by
  intro row hrow
  unfold RecordSpec.associations at hrow
  rcases mem_map.mp hrow with ⟨⟨id, role⟩, hentity, rfl⟩
  refine ⟨textFits_stableId id, ?_⟩
  change TextFits 32 role
  rcases mem_specs.mp h with
    ⟨kind, record, _, rfl⟩ | ⟨root, _, ⟨node, _, rfl⟩ | ⟨goal, _, rfl⟩⟩
  · cases (specOf_entities kind record id role).mp hentity <;> decide
  · cases hentity
  · cases hentity

theorem eventSpec_fits (event : Event) : (eventSpec event).Fits ↔
    TextFits 128 event.eventType.text ∧ (∀ time ∈ event.storyTime, TimeFits time) ∧
      ∀ order ∈ event.narrativeOrder, IntegerFits order.chapterIndex := by
  have horder : OptionIntegerFits (event.narrativeOrder.map fun order =>
      (order.chapterIndex : Int)) ↔
      ∀ order ∈ event.narrativeOrder, IntegerFits order.chapterIndex := by
    simp [OptionIntegerFits]
  constructor
  · rintro ⟨hpredicate, hstart, hstop, hworldline, hfirst, _⟩
    refine ⟨optionFits_some.mp hpredicate, ?_, horder.mp hfirst⟩
    intro time htime
    have hstory : event.storyTime = some time := htime
    unfold eventSpec at hstart hstop hworldline
    rw [hstory] at hstart hstop hworldline
    exact ⟨optionFits_some.mp hworldline, hstart, hstop⟩
  · rintro ⟨htype, htime, hchapter⟩
    have hlast := horder.mpr hchapter
    unfold eventSpec
    cases hstory : event.storyTime with
    | none => exact ⟨optionFits_some.mpr htype, optionIntegerFits_none, optionIntegerFits_none,
        optionFits_none, hlast, hlast⟩
    | some time =>
      have hfits := htime time hstory
      exact ⟨optionFits_some.mpr htype, hfits.start, hfits.stop,
        optionFits_some.mpr hfits.worldline, hlast, hlast⟩

/-- The columns take everything that is written when they take what the documents say. -/
theorem specs_fit : (∀ spec ∈ specs world plan, spec.Fits) ↔ ColumnsFit world plan := by
  have hmain : TextFits 128 "main" := by decide
  constructor
  · intro h
    have hrecord : ∀ kind, ∀ record ∈ world.records kind, (specOf kind record).Fits :=
      fun kind record hmem => h _ (mem_specs.mpr (Or.inl ⟨kind, record, hmem, rfl⟩))
    have hevent : ∀ event ∈ world.records .event, _ :=
      fun event hmem => (eventSpec_fits event).mp (hrecord .event event hmem)
    constructor
    case eventTypes => exact fun event hmem => (hevent event hmem).1
    case eventTimes => exact fun event hmem => (hevent event hmem).2.1
    case eventOrders => exact fun event hmem => (hevent event hmem).2.2
    case states =>
      intro state hmem
      rcases hrecord .state state hmem with ⟨hpredicate, hstart, hstop, hworldline, _, _⟩
      exact ⟨optionFits_some.mp hpredicate, optionFits_some.mp hworldline, hstart, hstop⟩
    case relations =>
      intro relation hmem
      rcases hrecord .relation relation hmem with ⟨hpredicate, hstart, hstop, hworldline, _, _⟩
      exact ⟨optionFits_some.mp hpredicate, optionFits_some.mp hworldline, hstart, hstop⟩
    case dues =>
      intro obligation hmem chapter hchapter
      have hlast := (hrecord .obligation obligation hmem).last
      unfold specOf obligationSpec at hlast
      simp only at hlast
      rw [show obligation.dueChapter = some chapter from hchapter] at hlast
      exact optionIntegerFits_some.mp hlast
    case nodeTypes =>
      intro root hroot node hnode
      exact optionFits_some.mp
        (h _ (mem_specs.mpr (Or.inr ⟨root, hroot, Or.inl ⟨node, hnode, rfl⟩⟩))).predicate
    case goals =>
      intro root hroot goal hgoal
      exact optionIntegerFits_some.mp
        (h _ (mem_specs.mpr (Or.inr ⟨root, hroot, Or.inr ⟨goal, hgoal, rfl⟩⟩))).first
  · intro h spec hspec
    rcases mem_specs.mp hspec with
      ⟨kind, record, hmem, rfl⟩ | ⟨root, hroot, ⟨node, hnode, rfl⟩ | ⟨goal, hgoal, rfl⟩⟩
    · cases kind with
      | entity => exact ⟨optionFits_none, optionIntegerFits_none, optionIntegerFits_none,
          optionFits_none, optionIntegerFits_none, optionIntegerFits_none⟩
      | event => exact (eventSpec_fits record).mpr ⟨h.eventTypes record hmem,
          h.eventTimes record hmem, h.eventOrders record hmem⟩
      | state =>
        rcases h.states record hmem with ⟨hpredicate, htime⟩
        exact ⟨optionFits_some.mpr hpredicate, htime.start, htime.stop,
          optionFits_some.mpr htime.worldline, optionIntegerFits_none, optionIntegerFits_none⟩
      | relation =>
        rcases h.relations record hmem with ⟨hpredicate, htime⟩
        exact ⟨optionFits_some.mpr hpredicate, htime.start, htime.stop,
          optionFits_some.mpr htime.worldline, optionIntegerFits_none, optionIntegerFits_none⟩
      | obligation =>
        have hkind : TextFits 128 (PlanObligation.kind record).value := by
          cases PlanObligation.kind record <;> decide
        have hlast : OptionIntegerFits ((PlanObligation.dueChapter record).map fun chapter =>
            (chapter.val : Int)) := by
          intro value hvalue
          rcases Option.map_eq_some_iff.mp hvalue with ⟨chapter, hchapter, rfl⟩
          exact h.dues record hmem chapter hchapter
        exact ⟨optionFits_some.mpr hkind, optionIntegerFits_none, optionIntegerFits_none,
          optionFits_some.mpr hmain, optionIntegerFits_none, hlast⟩
    · exact ⟨optionFits_some.mpr (h.nodeTypes root hroot node hnode), optionIntegerFits_none,
        optionIntegerFits_none, optionFits_some.mpr hmain, optionIntegerFits_none,
        optionIntegerFits_none⟩
    · have hchapter := optionIntegerFits_some.mpr (h.goals root hroot goal hgoal)
      exact ⟨optionFits_some.mpr (by decide), optionIntegerFits_none, optionIntegerFits_none,
        optionFits_some.mpr hmain, hchapter, hchapter⟩

end Columns

section Keys

variable {registry : Registry} {tables tables' : R1Tables} {projectId : ProjectId}
  {sourceCommit : CommitId} {world : WorldRootDocument} {plan : Option PlanRootDocument}
  {count : Nat}

/-- The rows of what is written have identities of their own when no two keys have one identity. -/
theorem rowIds_nodup (world : WorldRootDocument) (plan : Option PlanRootDocument)
    (sourceCommit : CommitId) : ((specs world plan).map (RecordSpec.rowId sourceCommit)).Nodup ↔
      ∀ kind id kind' id', HasKey world plan kind id → HasKey world plan kind' id' →
        rowIdOf sourceCommit kind id = rowIdOf sourceCommit kind' id' →
          kind = kind' ∧ id = id' := by
  have hkeys : (specs world plan).map (RecordSpec.rowId sourceCommit) =
      ((specs world plan).map RecordSpec.key).map
        fun key => (rowIdOf sourceCommit key.1 key.2).root := by
    rw [map_map]
    rfl
  rw [hkeys, nodup_map_iff_inj_on (specs_keys_nodup world plan)]
  constructor
  · intro h kind id kind' id' hkey hkey' hsame
    have hmem := mem_map.mpr (hasKey_iff.mp hkey)
    have hmem' := mem_map.mpr (hasKey_iff.mp hkey')
    exact Prod.mk.inj (h (kind, id) hmem (kind', id') hmem' (congrArg StableId.root hsame))
  · rintro h ⟨kind, id⟩ hmem ⟨kind', id'⟩ hmem' hsame
    have hpair := h kind id kind' id' (hasKey_iff.mpr (mem_map.mp hmem))
      (hasKey_iff.mpr (mem_map.mp hmem')) (StableId.root_inj.mp hsame)
    rw [hpair.1, hpair.2]

theorem associations_nodup (spec : RecordSpec) (sourceCommit : CommitId) :
    (spec.associations sourceCommit).Nodup ↔ spec.entities.Nodup := by
  refine nodup_map_iff ?_
  rintro ⟨id, role⟩ ⟨id', role'⟩ hsame
  injection hsame with _ hid hrole
  exact Prod.ext (StableId.root_inj.mp hid) hrole

/-- What is written beside records with rows of their own is written once when
    it is so for each record. -/
theorem flatMap_associations_nodup {written : List RecordSpec}
    (h : (written.map (RecordSpec.rowId sourceCommit)).Nodup) :
    (written.flatMap (RecordSpec.associations sourceCommit)).Nodup ↔
      ∀ spec ∈ written, spec.entities.Nodup := by
  rw [nodup_flatMap]
  have hapart : written.Pairwise (Function.onFun List.Disjoint
      (RecordSpec.associations sourceCommit)) := by
    refine (pairwise_map.mp h).imp ?_
    intro spec other hdiffer association hmem hmem'
    rcases mem_map.mp hmem with ⟨_, _, rfl⟩
    rcases mem_map.mp hmem' with ⟨_, _, hsame⟩
    injection hsame with hrow
    exact hdiffer hrow.symm
  simp only [associations_nodup, hapart, and_true]

/-- The keys of the tables are kept exactly when no entity is named twice and no
    row has the identity of another. -/
theorem keys_iff (projectId : ProjectId) (sourceCommit : CommitId) (world : WorldRootDocument)
    (plan : Option PlanRootDocument) (htables : ∀ association ∈ tables.associations,
      ∃ row ∈ tables.records, row.rowId = association.rowId) :
    ((((tables.records.filter fun row => row.sourceCommit ≠ sourceCommit.root) ++
        (specs world plan).map (RecordSpec.row projectId sourceCommit)).map
          R1RecordRow.rowId).Nodup ∧
      ((tables.associations.filter fun association => association.rowId ∉
          (tables.records.filter fun row => row.sourceCommit = sourceCommit.root).map
            R1RecordRow.rowId) ++
        (specs world plan).flatMap (RecordSpec.associations sourceCommit)).Nodup) ↔
      (∀ spec ∈ specs world plan, spec.entities.Nodup) ∧
        (∀ spec ∈ specs world plan, ∀ row ∈ tables.records,
          row.sourceCommit ≠ sourceCommit.root → row.rowId ≠ spec.rowId sourceCommit) ∧
        ((specs world plan).map (RecordSpec.rowId sourceCommit)).Nodup := by
  have hnew : ((specs world plan).map (RecordSpec.row projectId sourceCommit)).map
      R1RecordRow.rowId = (specs world plan).map (RecordSpec.rowId sourceCommit) := by
    rw [map_map]
    rfl
  rw [map_append, hnew, nodup_append', nodup_append']
  constructor
  · rintro ⟨⟨_, hrows, hdisjoint⟩, _, hassociations, _⟩
    refine ⟨(flatMap_associations_nodup hrows).mp hassociations, ?_, hrows⟩
    intro spec hspec row hrow hother hsame
    have hkept : row ∈ tables.records.filter fun row => row.sourceCommit ≠ sourceCommit.root :=
      mem_filter.mpr ⟨hrow, decide_eq_true hother⟩
    exact hdisjoint (mem_map_of_mem hkept) (mem_map.mpr ⟨spec, hspec, hsame.symm⟩)
  · rintro ⟨hentities, hfree, hrows⟩
    refine ⟨⟨?_, hrows, ?_⟩, ?_, (flatMap_associations_nodup hrows).mpr hentities, ?_⟩
    · exact tables.primaryKey.sublist (filter_sublist.map _)
    · intro rowId hold hnewId
      rcases mem_map.mp hold with ⟨row, hrow, rfl⟩
      rcases mem_map.mp hnewId with ⟨spec, hspec, hsame⟩
      rw [mem_filter, decide_eq_true_eq] at hrow
      exact hfree spec hspec row hrow.1 hrow.2 hsame.symm
    · exact tables.uniqueKey.sublist filter_sublist
    · intro association hold hnewRow
      rw [mem_filter, decide_eq_true_eq] at hold
      rcases mem_flatMap.mp hnewRow with ⟨spec, hspec, hmem⟩
      rcases mem_map.mp hmem with ⟨_, _, rfl⟩
      -- The row of an association that is kept is of another commit.
      rcases htables _ hold.1 with ⟨row, hrow, hsame⟩
      have hother : row.sourceCommit ≠ sourceCommit.root := by
        intro hcommit
        have hmine : row ∈ tables.records.filter fun row => row.sourceCommit = sourceCommit.root :=
          mem_filter.mpr ⟨hrow, decide_eq_true hcommit⟩
        exact hold.2 (mem_map.mpr ⟨row, hmine, hsame⟩)
      exact hfree spec hspec row hrow hother hsame

/-- When a materialization returns. -/
theorem materialize_ok_iff (htables : ∀ association ∈ tables.associations,
      ∃ row ∈ tables.records, row.rowId = association.rowId) :
    (∃ tables' count, materialize registry tables projectId sourceCommit world plan =
      .ok (tables', count)) ↔
      Materializable registry tables projectId sourceCommit world plan := by
  have hkeys := keys_iff projectId sourceCommit world plan htables
  have hfits : (∀ row ∈ (specs world plan).map (RecordSpec.row projectId sourceCommit),
      row.Fits) ↔ ColumnsFit world plan := by
    rw [← specs_fit, forall_mem_map]
    exact forall₂_congr fun spec hspec => row_fits_iff hspec projectId sourceCommit
  have hentityFits : ∀ row ∈ (specs world plan).flatMap (RecordSpec.associations sourceCommit),
      row.Fits := by
    intro row hrow
    rcases mem_flatMap.mp hrow with ⟨spec, hspec, hmem⟩
    exact associations_fit hspec sourceCommit row hmem
  have hwritten : (specs world plan).map (RecordSpec.row projectId sourceCommit) ≠ [] ↔
      ∃ kind id, HasKey world plan kind id := by
    rw [ne_eq, map_eq_nil_iff]
    constructor
    · intro hne
      rcases exists_mem_of_ne_nil _ hne with ⟨spec, hspec⟩
      exact ⟨_, _, hasKey_iff.mpr ⟨spec, hspec, rfl⟩⟩
    · rintro ⟨kind, id, hkey⟩
      rcases hasKey_iff.mp hkey with ⟨spec, hspec, _⟩
      exact ne_nil_of_mem hspec
  have hfree : (∀ spec ∈ specs world plan, ∀ row ∈ tables.records,
        row.sourceCommit ≠ sourceCommit.root → row.rowId ≠ spec.rowId sourceCommit) ↔
      ∀ kind id, HasKey world plan kind id → ∀ row ∈ tables.records,
        row.sourceCommit ≠ sourceCommit.root → row.rowId ≠ (rowIdOf sourceCommit kind id).root := by
    constructor
    · intro h kind id hkey
      rcases hasKey_iff.mp hkey with ⟨spec, hspec, hpair⟩
      cases hpair
      exact h spec hspec
    · intro h spec hspec
      exact h _ _ (hasKey_iff.mpr ⟨spec, hspec, rfl⟩)
  unfold materialize
  constructor
  · rintro ⟨tables', count, hok⟩
    dsimp only at hok
    split at hok
    · rename_i hchecked
      rcases hchecked with ⟨⟨hrows, _, hregistered⟩, hunique⟩
      rcases hkeys.mp hunique with ⟨hentities, hfreeRows, happart⟩
      exact
        { participants := (specs_entities_nodup.mp hentities).1
          owners := (specs_entities_nodup.mp hentities).2
          columns := hfits.mp hrows
          registered := fun h => hregistered (hwritten.mpr h)
          free := hfree.mp hfreeRows
          apart := (rowIds_nodup world plan sourceCommit).mp happart }
    · cases hok
  · intro h
    have hunique := hkeys.mpr ⟨specs_entities_nodup.mpr ⟨h.participants, h.owners⟩,
      hfree.mpr h.free, (rowIds_nodup world plan sourceCommit).mpr h.apart⟩
    dsimp only
    rw [dif_pos ⟨⟨hfits.mpr h.columns, hentityFits, fun hne => h.registered (hwritten.mp hne)⟩,
      hunique⟩]
    exact ⟨_, _, rfl⟩

/-- What a materialization leaves: the rows of other commits, and those that are written. -/
theorem materialize_eq_ok (h : materialize registry tables projectId sourceCommit world plan =
      .ok (tables', count)) :
    tables'.records = (tables.records.filter fun row => row.sourceCommit ≠ sourceCommit.root) ++
        (specs world plan).map (RecordSpec.row projectId sourceCommit) ∧
      tables'.associations = (tables.associations.filter fun association => association.rowId ∉
          (tables.records.filter fun row => row.sourceCommit = sourceCommit.root).map
            R1RecordRow.rowId) ++
        (specs world plan).flatMap (RecordSpec.associations sourceCommit) := by
  unfold materialize at h
  dsimp only at h
  split at h
  · cases h
    exact ⟨rfl, rfl⟩
  · cases h

theorem mem_commit_rows (h : materialize registry tables projectId sourceCommit world plan =
      .ok (tables', count)) {row : R1RecordRow} :
    row ∈ tables'.records ∧ row.sourceCommit = sourceCommit.root ↔
      ∃ spec ∈ specs world plan, spec.row projectId sourceCommit = row := by
  rw [(materialize_eq_ok h).1, mem_append, mem_filter, decide_eq_true_eq, mem_map]
  constructor
  · rintro ⟨⟨_, hother⟩ | hnew, hcommit⟩
    · exact absurd hcommit hother
    · exact hnew
  · rintro ⟨spec, hspec, rfl⟩
    exact ⟨Or.inr ⟨spec, hspec, rfl⟩, rfl⟩

theorem rowOf_spec (kind : WorldRecordKind) (record : kind.Record) :
    RowOf sourceCommit kind record ((specOf kind record).row projectId sourceCommit) where
  commit := rfl
  kindName := specOf_kind kind record
  identity := congrArg StableId.root (specOf_recordId kind record)
  document := specOf_payload kind record

theorem eq_of_rowOf {kind : WorldRecordKind} {record : kind.Record}
    (hspec : spec ∈ specs world plan) (hrecord : record ∈ world.records kind)
    (h : RowOf sourceCommit kind record (spec.row projectId sourceCommit)) :
    spec = specOf kind record := by
  have hmem : specOf kind record ∈ specs world plan :=
    mem_specs.mpr (Or.inl ⟨kind, record, hrecord, rfl⟩)
  have hid : spec.recordId = kind.identity record := StableId.root_inj.mp h.identity
  have hkey : spec.key = (specOf kind record).key := by
    unfold RecordSpec.key
    rw [specOf_kind, specOf_recordId, hid]
    exact Prod.ext h.kindName rfl
  exact inj_on_of_nodup_map (specs_keys_nodup world plan) hspec hmem hkey

theorem kindValue_injective : Function.Injective WorldRecordKind.value := by
  intro kind kind' h
  cases kind <;> cases kind' <;> first | rfl | exact absurd h (by decide)

/-- What it writes is faithful. -/
theorem replaced_faithful (htables : ∀ association ∈ tables.associations,
      ∃ row ∈ tables.records, row.rowId = association.rowId)
    (h : materialize registry tables projectId sourceCommit world plan = .ok (tables', count)) :
    Faithful tables' sourceCommit world plan := by
  have hmaterializable := (materialize_ok_iff htables).mp ⟨tables', count, h⟩
  have happart := (rowIds_nodup world plan sourceCommit).mpr hmaterializable.apart
  constructor
  case rows =>
    intro kind record hrecord
    have hspec : specOf kind record ∈ specs world plan :=
      mem_specs.mpr (Or.inl ⟨kind, record, hrecord, rfl⟩)
    refine ⟨(specOf kind record).row projectId sourceCommit,
      ⟨((mem_commit_rows h).mpr ⟨_, hspec, rfl⟩).1, rowOf_spec kind record⟩, ?_⟩
    rintro row ⟨hrow, hof⟩
    rcases (mem_commit_rows h).mp ⟨hrow, hof.commit⟩ with ⟨spec, hwritten, rfl⟩
    rw [eq_of_rowOf hwritten hrecord hof]
  case records =>
    intro row hrow hcommit kind hkind
    rcases (mem_commit_rows h).mp ⟨hrow, hcommit⟩ with ⟨spec, hspec, rfl⟩
    rcases mem_specs.mp hspec with
      ⟨recordKind, record, hrecord, rfl⟩ | ⟨root, _, ⟨node, _, rfl⟩ | ⟨goal, _, rfl⟩⟩
    · have hsame : recordKind = kind :=
        kindValue_injective ((specOf_kind recordKind record).symm.trans hkind)
      subst hsame
      refine ⟨record, ⟨hrecord, rowOf_spec recordKind record⟩, ?_⟩
      rintro other ⟨hother, hof⟩
      have hid : recordKind.identity record = recordKind.identity other := by
        rw [← specOf_recordId recordKind record]
        exact StableId.root_inj.mp hof.identity
      exact inj_on_of_nodup_map (world.nodup_identities recordKind) hother hrecord hid.symm
    · have hname : "plan_node" = kind.value := hkind
      cases kind <;> exact absurd hname (by decide)
    · have hname : "chapter_goal" = kind.value := hkind
      cases kind <;> exact absurd hname (by decide)
  case kinds =>
    intro hplan row hrow hcommit
    rcases (mem_commit_rows h).mp ⟨hrow, hcommit⟩ with ⟨spec, hspec, rfl⟩
    rcases mem_specs.mp hspec with ⟨kind, record, _, rfl⟩ | ⟨root, hroot, _⟩
    · exact ⟨kind, specOf_kind kind record⟩
    · rw [hplan] at hroot
      cases hroot
  case participants =>
    intro kind record hrecord row hrow hof association
    rcases (mem_commit_rows h).mp ⟨hrow, hof.commit⟩ with ⟨spec, hspec, rfl⟩
    have hsame := eq_of_rowOf hspec hrecord hof
    rw [(materialize_eq_ok h).2, mem_append, mem_flatMap]
    constructor
    · rintro ⟨hold | ⟨other, hother, hmem⟩, hkey⟩
      · -- An association that was kept is of a row of another commit.
        rw [mem_filter, decide_eq_true_eq] at hold
        rcases htables _ hold.1 with ⟨kept, hkept, hid⟩
        have hforeign : kept.sourceCommit ≠ sourceCommit.root := by
          intro hcommit
          have hmine : kept ∈ tables.records.filter fun row =>
              row.sourceCommit = sourceCommit.root :=
            mem_filter.mpr ⟨hkept, decide_eq_true hcommit⟩
          exact hold.2 (mem_map.mpr ⟨kept, hmine, hid⟩)
        have hkeyed := hasKey_iff.mpr ⟨spec, hspec, rfl⟩
        exact absurd (hid.trans hkey) (hmaterializable.free _ _ hkeyed kept hkept hforeign)
      · rcases mem_map.mp hmem with ⟨⟨id, role⟩, hentity, rfl⟩
        have hwritten : other = spec := inj_on_of_nodup_map happart hother hspec hkey
        rw [hwritten, hsame] at hentity
        refine ⟨id, role, (specOf_entities kind record id role).mp hentity, ?_⟩
        rw [hwritten]
        rfl
    · rintro ⟨id, role, hrefers, rfl⟩
      refine ⟨Or.inr ⟨spec, hspec, mem_map.mpr ⟨(id, role), ?_, rfl⟩⟩, rfl⟩
      rw [hsame]
      exact (specOf_entities kind record id role).mpr hrefers

end Keys

/-- A world is written as rows that are faithful to it exactly when it can be written. -/
theorem materialize_faithful_iff {tables : R1Tables} (htables : Materialized tables)
    (registry : Registry) (projectId : ProjectId) (sourceCommit : CommitId)
    (world : WorldRootDocument) (plan : Option PlanRootDocument) :
    (∃ tables' count, materialize registry tables projectId sourceCommit world plan =
        .ok (tables', count) ∧ Faithful tables' sourceCommit world plan) ↔
      Materializable registry tables projectId sourceCommit world plan := by
  have howned := htables.written.owned
  constructor
  · rintro ⟨tables', count, hok, _⟩
    exact (materialize_ok_iff howned).mp ⟨tables', count, hok⟩
  · intro h
    rcases (materialize_ok_iff howned).mpr h with ⟨tables', count, hok⟩
    exact ⟨tables', count, hok, replaced_faithful howned hok⟩

namespace Sample

def noTables : R1Tables := ⟨[], [], nodup_nil, nodup_nil⟩

def novel : ProjectId := ⟨"novel", by decide⟩

def registry : Registry where
  projects := [novel]
  commits := [World.Sample.commit]

def duel : Event where
  eventId := ⟨"event.duel", by decide⟩
  eventType := ⟨"duel", by decide⟩
  participantIds := [World.Sample.hero.entityId, World.Sample.hero.entityId]
  storyTime := none
  narrativeOrder := none
  effectRefs := []
  evidenceRefs := []
  truthClass := .acceptedWorldFact

def duelWorld : WorldRootDocument where
  rootHash := World.Sample.commit
  schemaVersion := World.Sample.version
  sourceCommit := World.Sample.commit
  records
    | .entity => [World.Sample.hero]
    | .event => [duel]
    | _ => []
  references := by decide

def vow : PlanObligation where
  obligationId := ⟨"obligation.vow", by decide⟩
  kind := .promise
  description := ⟨"To keep faith.", by decide⟩
  status := .open
  ownerIds := [World.Sample.hero.entityId]
  dueChapter := some ⟨3, Nat.succ_pos 2⟩
  evidenceRefs := []

def swornWorld : WorldRootDocument :=
  { duelWorld with
    records
      | .entity => [World.Sample.hero, World.Sample.lamp]
      | .event => [{ duel with
          participantIds := [World.Sample.hero.entityId, World.Sample.lamp.entityId] }]
      | .obligation => [vow]
      | _ => []
    references := by decide }

end Sample

open Sample

/-- A world with an event of two participants and an obligation with an owner is written. -/
theorem hero_faithful : ∃ tables' count,
    materialize registry noTables novel World.Sample.commit swornWorld none =
      .ok (tables', count) ∧
    Faithful tables' World.Sample.commit swornWorld none := by
  refine (materialize_faithful_iff Materialized.empty registry novel
    World.Sample.commit swornWorld none).mpr ?_
  constructor
  case participants => decide
  case owners => decide
  case columns =>
    exact
      { eventTypes := by decide
        eventTimes := fun event h time htime => by
          rw [mem_singleton.mp h] at htime
          cases htime
        eventOrders := by decide
        states := fun _ h => absurd h not_mem_nil
        relations := fun _ h => absurd h not_mem_nil
        dues := by decide
        nodeTypes := nofun
        goals := nofun }
  case registered => exact fun _ => ⟨mem_singleton_self _, mem_singleton_self _⟩
  case free => exact fun _ _ _ _ h => absurd h not_mem_nil
  case apart =>
    intro kind id kind' id' hkey hkey' hsame
    rcases hasKey_iff.mp hkey with ⟨spec, hspec, hpair⟩
    rcases hasKey_iff.mp hkey' with ⟨spec', hspec', hpair'⟩
    have hapart : ∀ spec ∈ specs swornWorld none, ∀ spec' ∈ specs swornWorld none,
        rowIdOf World.Sample.commit spec.key.1 spec.key.2 =
          rowIdOf World.Sample.commit spec'.key.1 spec'.key.2 → spec.key = spec'.key := by
      decide +kernel
    have hkeys := hapart spec hspec spec' hspec'
    rw [hpair, hpair'] at hkeys
    exact Prod.mk.inj (hkeys hsame)

/-- A world whose event names a participant twice is not written, though its
    project and its commit are known and the tables are empty. -/
theorem duel_refused :
    novel ∈ registry.projects ∧ World.Sample.commit ∈ registry.commits ∧
    ¬ ∃ tables' count, materialize registry noTables novel
      World.Sample.commit duelWorld none = .ok (tables', count) ∧
      Faithful tables' World.Sample.commit duelWorld none := by
  refine ⟨mem_singleton_self _, mem_singleton_self _, ?_⟩
  rintro ⟨tables', count, hok, _⟩
  have hmaterializable := (materialize_ok_iff Materialized.empty.written.owned).mp
    ⟨tables', count, hok⟩
  exact absurd (hmaterializable.participants duel (mem_singleton_self _)) (by decide)

end NovelAgent.R1
