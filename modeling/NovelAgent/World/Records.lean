import NovelAgent.Core.Codec
import NovelAgent.Domain.Changes

/-!
# World Records

The five kinds of canonical record, the document that holds them, and the
JSON they are written in.
-/

namespace NovelAgent.World

open Core Domain

/-- A text that says something. -/
structure NonEmptyText where
  text : String
  nonEmpty : text ≠ ""
deriving DecidableEq

def NonEmptyText.codec : Codec NonEmptyText :=
  Codec.string.refine NonEmptyText.text
    (fun text => if h : text ≠ "" then some ⟨text, h⟩ else none)
    fun value => by simp [value.nonEmpty]

def stableIdCodec : Codec StableId :=
  Codec.string.refine StableId.root StableId.ofString? StableId.ofString?_root

theorem stableId_ne_null (id : StableId) : stableIdCodec.dump id ≠ .null := nofun

def contentHashCodec : Codec ContentHash :=
  Codec.string.refine ContentHash.root
    (fun text => if h : isContentHash text = true then some ⟨text, h⟩ else none)
    fun value => by simp [value.valid]

theorem contentHash_ne_null (hash : ContentHash) : contentHashCodec.dump hash ≠ .null := nofun

/-- In what sense a record is true. -/
inductive TruthClass
  | acceptedWorldFact
  | assertion
  | rumor
  | dream
  | prediction
  | hypothetical
  | unknown
  | contested
  | disproved
  | retconned
  | notApplicable
deriving DecidableEq

def TruthClass.value : TruthClass → String
  | .acceptedWorldFact => "accepted_world_fact"
  | .assertion => "assertion"
  | .rumor => "rumor"
  | .dream => "dream"
  | .prediction => "prediction"
  | .hypothetical => "hypothetical"
  | .unknown => "unknown"
  | .contested => "contested"
  | .disproved => "disproved"
  | .retconned => "retconned"
  | .notApplicable => "not_applicable"

def TruthClass.codec : Codec TruthClass :=
  Codec.enum TruthClass.value
    [.acceptedWorldFact, .assertion, .rumor, .dream, .prediction, .hypothetical, .unknown,
      .contested, .disproved, .retconned, .notApplicable]
    fun value => by cases value <;> decide

/-- What a range counts. -/
inductive RangeUnit
  | unicodeCodepoint
deriving DecidableEq

def RangeUnit.value : RangeUnit → String
  | .unicodeCodepoint => "unicode_codepoint"

/-- Whether evidence still holds. -/
inductive EvidenceSupportStatus
  | current
  | historical
  | superseded
  | orphaned
  | contradicted
deriving DecidableEq

def EvidenceSupportStatus.value : EvidenceSupportStatus → String
  | .current => "current_support"
  | .historical => "historical_support"
  | .superseded => "superseded_support"
  | .orphaned => "orphaned"
  | .contradicted => "contradicted"

/-- A span of a text block, in code points. -/
structure TextSpanRef where
  blockId : StableId
  rangeUnit : RangeUnit
  start : Nat
  stop : Nat
  ordered : start ≤ stop
deriving DecidableEq

def TextSpanRef.codec : Codec TextSpanRef :=
  (Codec.object
    (.required "block_id" stableIdCodec <|
      .required "end" .nat <|
      .optional "range_unit"
        (.enum RangeUnit.value [.unicodeCodepoint] fun value => by cases value; decide)
        .unicodeCodepoint <|
      .required "start" .nat .nil)
    (by decide)).refine
  (fun span => (span.blockId, span.stop, span.rangeUnit, span.start, ()))
  (fun (blockId, stop, rangeUnit, start, _) =>
    if h : start ≤ stop then some ⟨blockId, rangeUnit, start, stop, h⟩ else none)
  fun span => by simp [span.ordered]

/-- A reference to the text that supports a statement. -/
structure EvidenceRef where
  evidenceId : StableId
  rootHash : ArtifactId
  objectHash : ArtifactId
  chapterId : Option StableId
  sceneId : Option StableId
  span : Option TextSpanRef
  quoteHash : Option ContentHash
  supportStatus : EvidenceSupportStatus
  resolvedAtCommit : CommitId
deriving DecidableEq

def EvidenceRef.codec : Codec EvidenceRef :=
  (Codec.object
    (.optional "chapter_id" (stableIdCodec.option stableId_ne_null) none <|
      .required "evidence_id" stableIdCodec <|
      .required "object_hash" contentHashCodec <|
      .optional "quote_hash" (contentHashCodec.option contentHash_ne_null) none <|
      .required "resolved_at_commit" contentHashCodec <|
      .required "root_hash" contentHashCodec <|
      .optional "scene_id" (stableIdCodec.option stableId_ne_null) none <|
      .optional "span" (TextSpanRef.codec.option fun _ => nofun) none <|
      .required "support_status"
        (.enum EvidenceSupportStatus.value
          [.current, .historical, .superseded, .orphaned, .contradicted]
          fun value => by cases value <;> decide) .nil)
    (by decide)).refine
  (fun ref => (ref.chapterId, ref.evidenceId, ref.objectHash, ref.quoteHash, ref.resolvedAtCommit,
    ref.rootHash, ref.sceneId, ref.span, ref.supportStatus, ()))
  (fun (chapterId, evidenceId, objectHash, quoteHash, resolvedAtCommit, rootHash, sceneId, span,
      supportStatus, _) =>
    some ⟨evidenceId, rootHash, objectHash, chapterId, sceneId, span, quoteHash, supportStatus,
      resolvedAtCommit⟩)
  fun _ => rfl

/-- A time interval does not end before it starts. -/
def ordinalsOrdered (startOrdinal endOrdinal : Option Int) : Bool :=
  startOrdinal.all fun start => endOrdinal.all fun stop => start ≤ stop

/-- An interval of a worldline. -/
structure StoryTime where
  worldline : NonEmptyText
  startOrdinal : Option Int
  endOrdinal : Option Int
  label : Option String
  ordered : ordinalsOrdered startOrdinal endOrdinal = true
deriving DecidableEq

theorem main_ne : "main" ≠ "" := by decide

def StoryTime.codec : Codec StoryTime :=
  (Codec.object
    (.optional "end_ordinal" (Codec.int.option Codec.int_ne_null) none <|
      .optional "label" (Codec.string.option Codec.string_ne_null) none <|
      .optional "start_ordinal" (Codec.int.option Codec.int_ne_null) none <|
      .required "worldline" NonEmptyText.codec .nil)
    (by decide)).refine
  (fun time => (time.endOrdinal, time.label, time.startOrdinal, time.worldline, ()))
  (fun (endOrdinal, label, startOrdinal, worldline, _) =>
    if h : ordinalsOrdered startOrdinal endOrdinal = true then
      some ⟨worldline, startOrdinal, endOrdinal, label, h⟩
    else none)
  fun time => by simp [time.ordered]

/-- Where in the narrative a record belongs. -/
structure NarrativeOrder where
  chapterIndex : Nat
  sceneIndex : Option Nat
  blockIndex : Option Nat
deriving DecidableEq

def NarrativeOrder.codec : Codec NarrativeOrder :=
  (Codec.object
    (.optional "block_index" (Codec.nat.option fun _ => nofun) none <|
      .required "chapter_index" .nat <|
      .optional "scene_index" (Codec.nat.option fun _ => nofun) none .nil)
    (by decide)).refine
  (fun order => (order.blockIndex, order.chapterIndex, order.sceneIndex, ()))
  (fun (blockIndex, chapterIndex, sceneIndex, _) => some ⟨chapterIndex, sceneIndex, blockIndex⟩)
  fun _ => rfl

/-- Somebody or something that records are about. -/
structure Entity where
  entityId : StableId
  entityType : NonEmptyText
  internalLabel : NonEmptyText
  aliases : List String
  identityInvariants : List String
deriving DecidableEq

def Entity.codec : Codec Entity :=
  (Codec.object
    (.optional "aliases" (.list .string) [] <|
      .required "entity_id" stableIdCodec <|
      .required "entity_type" NonEmptyText.codec <|
      .optional "identity_invariants" (.list .string) [] <|
      .required "internal_label" NonEmptyText.codec .nil)
    (by decide)).refine
  (fun entity => (entity.aliases, entity.entityId, entity.entityType, entity.identityInvariants,
    entity.internalLabel, ()))
  (fun (aliases, entityId, entityType, identityInvariants, internalLabel, _) =>
    some ⟨entityId, entityType, internalLabel, aliases, identityInvariants⟩)
  fun _ => rfl

/-- Something that happens. -/
structure Event where
  eventId : StableId
  eventType : NonEmptyText
  participantIds : List StableId
  storyTime : Option StoryTime
  narrativeOrder : Option NarrativeOrder
  effectRefs : List StableId
  evidenceRefs : List EvidenceRef
  truthClass : TruthClass
deriving DecidableEq

def Event.codec : Codec Event :=
  (Codec.object
    (.optional "effect_refs" (.list stableIdCodec) [] <|
      .required "event_id" stableIdCodec <|
      .required "event_type" NonEmptyText.codec <|
      .optional "evidence_refs" (.list EvidenceRef.codec) [] <|
      .optional "narrative_order" (NarrativeOrder.codec.option fun _ => nofun) none <|
      .optional "participant_ids" (.list stableIdCodec) [] <|
      .optional "story_time" (StoryTime.codec.option fun _ => nofun) none <|
      .required "truth_class" TruthClass.codec .nil)
    (by decide)).refine
  (fun event => (event.effectRefs, event.eventId, event.eventType, event.evidenceRefs,
    event.narrativeOrder, event.participantIds, event.storyTime, event.truthClass, ()))
  (fun (effectRefs, eventId, eventType, evidenceRefs, narrativeOrder, participantIds, storyTime,
      truthClass, _) =>
    some ⟨eventId, eventType, participantIds, storyTime, narrativeOrder, effectRefs, evidenceRefs,
      truthClass⟩)
  fun _ => rfl

/-- What holds of an entity for a while. -/
structure StateRecord where
  stateId : StableId
  subjectId : StableId
  predicate : NonEmptyText
  value : JsonValue
  validTime : StoryTime
  evidenceRefs : List EvidenceRef
  truthClass : TruthClass
deriving DecidableEq

def StateRecord.codec : Codec StateRecord :=
  (Codec.object
    (.optional "evidence_refs" (.list EvidenceRef.codec) [] <|
      .required "predicate" NonEmptyText.codec <|
      .required "state_id" stableIdCodec <|
      .required "subject_id" stableIdCodec <|
      .required "truth_class" TruthClass.codec <|
      .required "valid_time" StoryTime.codec <|
      .required "value" .document .nil)
    (by decide)).refine
  (fun state => (state.evidenceRefs, state.predicate, state.stateId, state.subjectId,
    state.truthClass, state.validTime, state.value, ()))
  (fun (evidenceRefs, predicate, stateId, subjectId, truthClass, validTime, value, _) =>
    some ⟨stateId, subjectId, predicate, value, validTime, evidenceRefs, truthClass⟩)
  fun _ => rfl

/-- What holds between two entities for a while. -/
structure RelationRecord where
  relationId : StableId
  predicate : NonEmptyText
  subjectId : StableId
  objectId : StableId
  validTime : StoryTime
  evidenceRefs : List EvidenceRef
  truthClass : TruthClass
deriving DecidableEq

def RelationRecord.codec : Codec RelationRecord :=
  (Codec.object
    (.optional "evidence_refs" (.list EvidenceRef.codec) [] <|
      .required "object_id" stableIdCodec <|
      .required "predicate" NonEmptyText.codec <|
      .required "relation_id" stableIdCodec <|
      .required "subject_id" stableIdCodec <|
      .required "truth_class" TruthClass.codec <|
      .required "valid_time" StoryTime.codec .nil)
    (by decide)).refine
  (fun relation => (relation.evidenceRefs, relation.objectId, relation.predicate,
    relation.relationId, relation.subjectId, relation.truthClass, relation.validTime, ()))
  (fun (evidenceRefs, objectId, predicate, relationId, subjectId, truthClass, validTime, _) =>
    some ⟨relationId, predicate, subjectId, objectId, validTime, evidenceRefs, truthClass⟩)
  fun _ => rfl

/-- The kinds of obligations. -/
inductive ObligationKind
  | foreshadowing
  | promise
  | objective
  | unresolvedConflict
deriving DecidableEq

def ObligationKind.value : ObligationKind → String
  | .foreshadowing => "foreshadowing"
  | .promise => "promise"
  | .objective => "objective"
  | .unresolvedConflict => "unresolved_conflict"

/-- How far an obligation is. -/
inductive ObligationStatus
  | «open»
  | progressed
  | resolved
  | abandoned
deriving DecidableEq

def ObligationStatus.value : ObligationStatus → String
  | .open => "open"
  | .progressed => "progressed"
  | .resolved => "resolved"
  | .abandoned => "abandoned"

/-- Something the narrative owes its reader. -/
structure PlanObligation where
  obligationId : StableId
  kind : ObligationKind
  description : NonEmptyText
  status : ObligationStatus
  ownerIds : List StableId
  dueChapter : Option { chapter : Nat // 1 ≤ chapter }
  evidenceRefs : List EvidenceRef
deriving DecidableEq

def PlanObligation.codec : Codec PlanObligation :=
  (Codec.object
    (.required "description" NonEmptyText.codec <|
      .optional "due_chapter"
        ((Codec.nat.refine Subtype.val
          (fun chapter => if h : 1 ≤ chapter then some ⟨chapter, h⟩ else none)
          fun chapter => by simp [chapter.property]).option fun _ => nofun) none <|
      .optional "evidence_refs" (.list EvidenceRef.codec) [] <|
      .required "kind"
        (.enum ObligationKind.value [.foreshadowing, .promise, .objective, .unresolvedConflict]
          fun value => by cases value <;> decide) <|
      .required "obligation_id" stableIdCodec <|
      .optional "owner_ids" (.list stableIdCodec) [] <|
      .required "status"
        (.enum ObligationStatus.value [.open, .progressed, .resolved, .abandoned]
          fun value => by cases value <;> decide) .nil)
    (by decide)).refine
  (fun obligation => (obligation.description, obligation.dueChapter, obligation.evidenceRefs,
    obligation.kind, obligation.obligationId, obligation.ownerIds, obligation.status, ()))
  (fun (description, dueChapter, evidenceRefs, kind, obligationId, ownerIds, status, _) =>
    some ⟨obligationId, kind, description, status, ownerIds, dueChapter, evidenceRefs⟩)
  fun _ => rfl

/-- The kinds of records. -/
inductive WorldRecordKind
  | entity
  | event
  | state
  | relation
  | obligation
deriving DecidableEq

namespace WorldRecordKind

def value : WorldRecordKind → String
  | .entity => "entity"
  | .event => "event"
  | .state => "state"
  | .relation => "relation"
  | .obligation => "obligation"

def ofValue? (text : String) : Option WorldRecordKind :=
  [entity, event, state, relation, obligation].find? fun kind => kind.value = text

abbrev Record : WorldRecordKind → Type
  | .entity => Entity
  | .event => Event
  | .state => StateRecord
  | .relation => RelationRecord
  | .obligation => PlanObligation

/-- The identity that a record bears. -/
def identity : (kind : WorldRecordKind) → kind.Record → StableId
  | .entity => Entity.entityId
  | .event => Event.eventId
  | .state => StateRecord.stateId
  | .relation => RelationRecord.relationId
  | .obligation => PlanObligation.obligationId

instance : (kind : WorldRecordKind) → DecidableEq kind.Record
  | .entity => inferInstanceAs (DecidableEq Entity)
  | .event => inferInstanceAs (DecidableEq Event)
  | .state => inferInstanceAs (DecidableEq StateRecord)
  | .relation => inferInstanceAs (DecidableEq RelationRecord)
  | .obligation => inferInstanceAs (DecidableEq PlanObligation)

def codec : (kind : WorldRecordKind) → Codec kind.Record
  | .entity => Entity.codec
  | .event => Event.codec
  | .state => StateRecord.codec
  | .relation => RelationRecord.codec
  | .obligation => PlanObligation.codec

end WorldRecordKind

/-- The records of a world, by kind. -/
abbrev Collections := (kind : WorldRecordKind) → List kind.Record

namespace Collections

theorem ext_iff_kinds (a b : Collections) :
    (a .entity = b .entity ∧ a .event = b .event ∧ a .state = b .state ∧
      a .relation = b .relation ∧ a .obligation = b .obligation) ↔ a = b := by
  constructor
  · rintro ⟨hentity, hevent, hstate, hrelation, hobligation⟩
    funext kind
    cases kind <;> assumption
  · rintro rfl
    exact ⟨rfl, rfl, rfl, rfl, rfl⟩

instance : DecidableEq Collections := fun a b => decidable_of_iff _ (ext_iff_kinds a b)

/-- The identities of the records that share one namespace: all but the entities. -/
def recordIds (records : Collections) : List StableId :=
  (records .event).map Event.eventId ++ (records .state).map StateRecord.stateId ++
    (records .relation).map RelationRecord.relationId ++
    (records .obligation).map PlanObligation.obligationId

def referenced (records : Collections) : List StableId :=
  (records .event).flatMap Event.participantIds ++ (records .state).map StateRecord.subjectId ++
    (records .relation).map RelationRecord.subjectId ++
    (records .relation).map RelationRecord.objectId ++
    (records .obligation).flatMap PlanObligation.ownerIds

/-- The first rule of a world that the records break. -/
def validateReferences (records : Collections) : Option String :=
  if ¬ ((records .entity).map Entity.entityId).Nodup then
    some "world entity ids must be unique"
  else if ¬ records.recordIds.Nodup then
    some "world record ids must be unique"
  else if ¬ records.referenced.all fun id => id ∈ (records .entity).map Entity.entityId then
    some "world record references an unknown entity"
  else none

theorem validateReferences_eq_none (records : Collections) :
    records.validateReferences = none ↔
      ((records .entity).map Entity.entityId).Nodup ∧ records.recordIds.Nodup ∧
      ∀ id ∈ records.referenced, id ∈ (records .entity).map Entity.entityId := by
  unfold validateReferences
  split
  · rename_i h
    simp [h]
  · split
    · rename_i h
      simp [h]
    · split
      · rename_i h
        simpa using fun _ _ => h
      · rename_i hentity hrecord hreferenced
        simp only [not_not] at hentity hrecord hreferenced
        simpa [hentity, hrecord] using hreferenced

end Collections

/-- The canonical world. -/
structure WorldRootDocument where
  rootHash : ArtifactId
  schemaVersion : SchemaVersion
  sourceCommit : CommitId
  records : Collections
  references : records.validateReferences = none
deriving DecidableEq

theorem WorldRootDocument.nodup_identities (world : WorldRootDocument) (kind : WorldRecordKind) :
    ((world.records kind).map kind.identity).Nodup := by
  rcases (Collections.validateReferences_eq_none _).mp world.references with
    ⟨hentity, hrecord, _⟩
  simp only [Collections.recordIds, List.nodup_append] at hrecord
  cases kind with
  | entity => exact hentity
  | event => exact hrecord.1.1.1
  | state => exact hrecord.1.1.2.1
  | relation => exact hrecord.1.2.1
  | obligation => exact hrecord.2.1

/-- The content address of a world, over everything but the address. -/
def worldRootContentId (schemaVersion : SchemaVersion) (sourceCommit : CommitId)
    (records : Collections) : ArtifactId :=
  let collection (kind : WorldRecordKind) := kind.codec.list.dump (records kind)
  digest (JsonValue.render (.object [
    ("entities", collection .entity),
    ("events", collection .event),
    ("obligations", collection .obligation),
    ("relations", collection .relation),
    ("schema_version", .string schemaVersion.root),
    ("source_commit", .string sourceCommit.root),
    ("states", collection .state)]))

/-- The four roots. -/
inductive RootKind
  | text
  | plan
  | world
  | reference
  | projectProfile
deriving DecidableEq

/-- What is done to a record. -/
inductive ChangeOperationType
  | create
  | replace
  | retire
deriving DecidableEq

/-- One operation on a canonical record, with the record as JSON in its payload. -/
structure ChangeOperation where
  operationId : StableId
  rootKind : RootKind
  operation : ChangeOperationType
  targetId : StableId
  payload : JsonValue
  evidenceRefs : List EvidenceRef
deriving DecidableEq

/-- What is to be done to a world. -/
structure ObservedChangeSet where
  changeSetId : StableId
  baseCommit : CommitId
  sourceArtifact : ArtifactRef
  operations : List ChangeOperation

end NovelAgent.World
