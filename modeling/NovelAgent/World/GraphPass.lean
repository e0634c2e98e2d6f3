import NovelAgent.Core.Table
import NovelAgent.Core.Text
import NovelAgent.World.GraphRecords
import NovelAgent.World.Overlay
import NovelAgent.World.Predicates

/-!
# The World Graph Pass

Relations that the text bears out, admitted into the world.
-/

namespace NovelAgent.World

open Core Domain

/-- What the pass may raise. -/
inductive GraphError
  | value (message : String)
  | key (id : StableId)
  | stopIteration
  | assertion
  | validation (message : String)
  | overlay (error : OverlayError)

/-- The first digits of the hash over some texts. -/
def graphDigest (parts : List String) : HexToken 12 :=
  .ofDigest 12 HexToken.twelve_le (String.intercalate "\x00" parts)

/-- The identity made of a head and the digest of some texts. -/
def graphId (head : String) (parts : List String)
    (hhead : isStableId head = true := by decide)
    (hfit : head.toList.length + 2 * 12 ≤ 128 := by decide) : StableId :=
  ⟨head ++ (graphDigest parts).text, isStableId_append_token head _ hhead hfit⟩

/-- The text that a reference quotes, if it holds in the text. -/
def evidenceText (text : TextRootDocument) (evidence : EvidenceRef) : Except String String :=
  if evidence.supportStatus ≠ .current ∧ evidence.supportStatus ≠ .historical then
    .error "relation-like state evidence is not current or historical"
  else
    match evidence.span with
    | none => .error "relation-like state evidence has no concrete span"
    | some span =>
      match text.block? span.blockId with
      | none => .error "relation-like state evidence does not resolve"
      | some block =>
        if block.text.toList.length < span.stop ∨
            evidence.chapterId ≠ some block.chapterId ∨ evidence.sceneId ≠ block.sceneId ∨
            evidence.objectHash ≠ digest block.text then
          .error "relation-like state evidence does not resolve"
        else if evidence.quoteHash ≠ some (digest (block.quote span)) then
          .error "relation-like state evidence quote hash does not match"
        else .ok (block.quote span)

/-- The text that references quote, if they hold. -/
def validateEvidence (text : TextRootDocument) (evidenceRefs : List EvidenceRef) :
    Except String (List String) :=
  if evidenceRefs = [] then .error "relation-like state has no evidence"
  else evidenceRefs.mapM (evidenceText text)

/-- What makes two relations the same relation. -/
structure RelationKey where
  predicate : String
  subjectId : String
  objectId : String
  worldline : String
  start : String
  stop : String
deriving DecidableEq

def RelationKey.parts (key : RelationKey) : List String :=
  [key.predicate, key.subjectId, key.objectId, key.worldline, key.start, key.stop]

/-- The key of a predicate between two entities for a while. -/
def relationKey (predicate : NonEmptyText) (subjectId objectId : StableId) (time : StoryTime) :
    RelationKey where
  predicate := predicate.text
  subjectId := subjectId.root
  objectId := objectId.root
  worldline := time.worldline.text
  start := time.startOrdinal.elim "" toString
  stop := time.endOrdinal.elim "" toString

def RelationRecord.key (relation : RelationRecord) : RelationKey :=
  relationKey relation.predicate relation.subjectId relation.objectId relation.validTime

def entityById (entities : List Entity) (id : StableId) : Option Entity :=
  entities.findRev? fun entity => entity.entityId = id

/-- What a mention resolves to. -/
structure EntityResolution where
  status : EntityResolutionStatus
  matchedEntityIds : List StableId
  resolvedEntityId : Option StableId
  matchBasis : NonEmptyText
  reason : Option String
  valid : resolutionValid status matchedEntityIds resolvedEntityId = true

/-- Resolve a mention from the entities whose label and whose alias it is. A
    label goes before an alias, and neither may be shared. -/
def resolution : (labelMatches aliasMatches : List StableId) → EntityResolution
  | [id], _ =>
    ⟨.uniqueLabel, [id], some id, ⟨"exact_internal_label", by decide⟩, none,
      by simp [resolutionValid]⟩
  | first :: second :: rest, _ =>
    ⟨.ambiguous, first :: second :: rest, none, ⟨"canonical_label_collision", by decide⟩,
      some "exact canonical label collision", rfl⟩
  | [], [id] =>
    ⟨.uniqueAlias, [id], some id, ⟨"exact_alias", by decide⟩, none, by simp [resolutionValid]⟩
  | [], first :: second :: rest =>
    ⟨.ambiguous, first :: second :: rest, none, ⟨"alias_collision", by decide⟩,
      some "exact alias resolves to multiple entities", rfl⟩
  | [], [] =>
    ⟨.missing, [], none, ⟨"no_exact_match", by decide⟩,
      some "entity label or alias is missing", rfl⟩

section Pass

variable (casefold : String → String)

/-- The form in which mentions are compared. -/
def normalize (value : String) : String :=
  String.intercalate " " (Text.words (casefold value))

/-- The entity that a mention names. -/
def resolve (rootHash : ArtifactId) (entities : List Entity) (mention : String)
    (evidenceRefs : List EvidenceRef) : Except GraphError EntityAliasResolutionReceipt :=
  if hmention : Text.strip mention = "" then .error (.value "entity mention must be non-empty")
  else
    let normalized := normalize casefold (Text.strip mention)
    let labelMatches := entities.filter fun entity =>
      normalize casefold entity.internalLabel.text = normalized
    let aliasMatches := entities.filter fun entity =>
      entity.aliases.any fun name => normalize casefold name = normalized
    let found := resolution (labelMatches.map Entity.entityId) (aliasMatches.map Entity.entityId)
    .ok {
      receiptId := graphId "alias-receipt."
        (rootHash.root :: Text.strip mention :: evidenceRefs.map fun ref => ref.evidenceId.root)
      mention := ⟨Text.strip mention, hmention⟩
      status := found.status
      matchedEntityIds := found.matchedEntityIds
      resolvedEntityId := found.resolvedEntityId
      matchBasis := found.matchBasis
      evidenceRefs := evidenceRefs
      reason := found.reason
      valid := found.valid }

/-- The first of an entity's names that the evidence uses and that names no
    other entity, and its label if there is none. -/
def evidenceSurface (world : WorldRootDocument) (entity : Entity) (quoted : List String) :
    List String → Except GraphError NonEmptyText
  | [] => .ok entity.internalLabel
  | mention :: rest =>
    if hmention : mention = "" then evidenceSurface world entity quoted rest
    else if ¬ quoted.any (Text.contains mention) then evidenceSurface world entity quoted rest
    else do
      let found ← resolve casefold world.rootHash (world.records .entity) mention []
      if found.resolvedEntityId = some entity.entityId then pure ⟨mention, hmention⟩
      else evidenceSurface world entity quoted rest

/-- The names of an entity, its label first. -/
def Entity.names (entity : Entity) : List String :=
  entity.internalLabel.text :: entity.aliases

/-- The relation that a state says, if it says one. -/
def stateCandidate (world : WorldRootDocument) (text : TextRootDocument) (batchId : StableId)
    (state : StateRecord) : Except GraphError (Option WorldGraphRelationCandidate) :=
  match hrule : PredicateRegistry.stateRule state.predicate.text, state.value.string? with
  | some rule, some value =>
    if hvalue : Text.strip value = "" then .ok none
    else do
      -- Evidence that does not hold quotes nothing; the admission says why.
      let quoted := (validateEvidence text state.evidenceRefs).toOption.getD []
      let found ← resolve casefold world.rootHash (world.records .entity) (Text.strip value)
        state.evidenceRefs
      let subject ← match entityById (world.records .entity) state.subjectId with
        | none => .error (.key state.subjectId)
        | some subject => .ok subject
      let stateSurface ← evidenceSurface casefold world subject quoted subject.names
      let valueSurface ←
        match found.resolvedEntityId.bind (entityById (world.records .entity)) with
        | none => .ok ⟨Text.strip value, hvalue⟩
        | some entity => evidenceSurface casefold world entity quoted entity.names
      let toObject := rule.direction = .subjectToObject
      pure (some {
        candidateId := graphId "relation-candidate." [world.rootHash.root, state.stateId.root]
        sourceBatchId := batchId
        sourceStateId := some state.stateId
        subjectSurface := if toObject then stateSurface else valueSurface
        predicate :=
          ⟨rule.relationPredicate, PredicateRegistry.stateRule_relationPredicate_ne hrule⟩
        objectSurface := if toObject then valueSurface else stateSurface
        validTime := state.validTime
        evidenceRefs := state.evidenceRefs
        sourceTruthClass := state.truthClass
        supportStatus := .supported
        supportReason := ⟨"canonical_relation_like_state", by decide⟩ })
  | _, _ => .ok none

/-- The relations that states say. -/
def stateCandidateBatch (world : WorldRootDocument) (text : TextRootDocument) (basis : CommitId) :
    Except GraphError WorldGraphCandidateBatch := do
  let batchId := graphId "graph-batch.state-audit."
    [world.rootHash.root, text.rootHash.root, basis.root]
  let found ← (world.records .state).mapM (stateCandidate casefold world text batchId)
  let candidates := found.reduceOption
  pure {
    batchId := batchId
    sourceTextRoot := text.rootHash
    baseCommit := basis
    chapterIndex := none
    sourceUnitId := none
    pageIndex := 0
    unitStatus := .complete
    incompleteReason := none
    sourceCandidateIds := []
    exactEvidenceCandidateIds := (candidates.flatMap fun candidate =>
      candidate.evidenceRefs.map EvidenceRef.evidenceId).eraseDups
    candidateKeys := []
    dedupedCandidateKeys := []
    policyVersion := ⟨"stage2m-world-graph-admission.v3", by decide⟩
    modelRequestId := none
    entities := []
    relations := candidates
    valid := rfl }

def entityAdmitted (candidate : WorldGraphEntityCandidate)
    (resolution : EntityAliasResolutionReceipt) (status : EntityAdmissionStatus)
    (hstatus : status ≠ .rejected) (entityId : StableId) : EntityAdmissionReceipt where
  candidateId := candidate.candidateId
  sourceBatchId := candidate.sourceBatchId
  surface := candidate.surface
  entityType := candidate.entityType
  status := status
  entityId := some entityId
  evidenceRefs := candidate.evidenceRefs
  resolution := resolution
  rejectionReason := none
  valid := by simp [admissionValid, hstatus]

def entityRejected (candidate : WorldGraphEntityCandidate)
    (resolution : EntityAliasResolutionReceipt) (reason : String) : EntityAdmissionReceipt where
  candidateId := candidate.candidateId
  sourceBatchId := candidate.sourceBatchId
  surface := candidate.surface
  entityType := candidate.entityType
  status := .rejected
  entityId := none
  evidenceRefs := candidate.evidenceRefs
  resolution := resolution
  rejectionReason := some reason
  valid := rfl

/-- The evidence of an entity candidate holds and uses its surface. -/
def checkEntityCandidate (text : TextRootDocument) (candidate : WorldGraphEntityCandidate) :
    Except String Unit := do
  let quoted ← validateEvidence text candidate.evidenceRefs
  if ¬ quoted.any (Text.contains candidate.surface.text) then
    throw "entity surface is absent from its exact evidence"

/-- The identity of an entity that is created for a surface. -/
def graphEntityId (surface entityType : String) : StableId :=
  graphId "entity.graph." [normalize casefold surface, entityType]

/-- Admit an entity candidate, with the entity if one is created for it. -/
def admitEntityCandidate (rootHash : ArtifactId) (entities : List Entity) (text : TextRootDocument)
    (candidate : WorldGraphEntityCandidate) :
    Except GraphError (EntityAdmissionReceipt × Option Entity) := do
  let resolution ← resolve casefold rootHash entities candidate.surface.text candidate.evidenceRefs
  if candidate.supportStatus = .rejected then
    return (entityRejected candidate resolution candidate.supportReason.text, none)
  match checkEntityCandidate text candidate with
  | .error reason => pure (entityRejected candidate resolution reason, none)
  | .ok _ =>
    match resolution.resolvedEntityId with
    | some resolved =>
      match entities.find? fun entity => entity.entityId = resolved with
      | none => throw .stopIteration
      | some existing =>
        if existing.entityType ≠ candidate.entityType then
          pure (entityRejected candidate resolution
            "entity_type_conflicts_with_canonical_entity", none)
        else
          pure (entityAdmitted candidate resolution .reused (by decide) existing.entityId,
            none)
    | none =>
      if resolution.status = .ambiguous then
        pure (entityRejected candidate resolution (resolution.reason.getD "ambiguous"), none)
      else
        let entityId := graphEntityId casefold candidate.surface.text candidate.entityType.text
        match entities.find? fun entity => entity.entityId = entityId with
        | some existing =>
          if normalize casefold existing.internalLabel.text ≠
                normalize casefold candidate.surface.text ∨
              existing.entityType ≠ candidate.entityType then
            pure (entityRejected candidate resolution "stable_entity_id_collision", none)
          else
            pure (entityAdmitted candidate resolution .deduped (by decide) entityId, none)
        | none =>
          pure (entityAdmitted candidate resolution .created (by decide) entityId,
            some ⟨entityId, candidate.entityType, candidate.surface, [], []⟩)

/-- Why the endpoints of a relation candidate do not make a relation. -/
def endpointReason (candidate : WorldGraphRelationCandidate)
    (subjectResolution objectResolution : EntityAliasResolutionReceipt)
    (subjectId objectId : Option StableId) : Option String :=
  if candidate.supportStatus = .rejected then some candidate.supportReason.text
  else if candidate.sourceTruthClass = .unknown ∨ candidate.sourceTruthClass = .notApplicable ∨
      candidate.sourceStateId = none ∧ candidate.sourceTruthClass ≠ .acceptedWorldFact then
    some ("truth_class_not_admitted:" ++ candidate.sourceTruthClass.value)
  else if subjectId = none then some ("subject_entity_" ++ subjectResolution.status.value)
  else if objectId = none then some ("object_entity_" ++ objectResolution.status.value)
  else if subjectId = objectId then some "self_relation_not_admitted"
  else none

/-- The entity under an identity, for its type. -/
def requireEntity (entities : List Entity) (id : StableId) : Except String Entity :=
  match entityById entities id with
  | none => .error ("StableId(root='" ++ id.root ++ "')")
  | some entity => .ok entity

/-- The predicate may stand between the endpoints, as far as both are known. -/
def checkEndpointTypes (entities : List Entity) (predicate : String) :
    (subjectId objectId : Option StableId) → Except String Unit
  | some subjectId, some objectId => do
      let subject ← requireEntity entities subjectId
      let object ← requireEntity entities objectId
      PredicateRegistry.validateEntityTypes predicate subject.entityType.text object.entityType.text
  | _, _ => .ok ()

/-- The predicate of a relation candidate is registered and may stand between
    the endpoints, and its evidence holds and uses both surfaces. -/
def checkRelationCandidate (entities : List Entity) (text : TextRootDocument)
    (candidate : WorldGraphRelationCandidate) (subjectId objectId : Option StableId) :
    Except String Unit := do
  let _ ← PredicateRegistry.require candidate.predicate.text
  let quoted ← validateEvidence text candidate.evidenceRefs
  if ¬ quoted.any (Text.contains candidate.subjectSurface.text) then
    throw "relation subject surface is absent from exact evidence"
  if ¬ quoted.any (Text.contains candidate.objectSurface.text) then
    throw "relation object surface is absent from exact evidence"
  checkEndpointTypes entities candidate.predicate.text subjectId objectId

/-- Why a relation candidate is rejected. What the endpoints say goes before
    what the checks say. -/
def relationReason (entities : List Entity) (text : TextRootDocument)
    (candidate : WorldGraphRelationCandidate)
    (subjectResolution objectResolution : EntityAliasResolutionReceipt)
    (subjectId objectId : Option StableId) : Option String :=
  match endpointReason candidate subjectResolution objectResolution subjectId objectId,
    checkRelationCandidate entities text candidate subjectId objectId with
  | some reason, _ => some reason
  | none, .error reason => some reason
  | none, .ok _ => none

def relationReceipt (candidate : WorldGraphRelationCandidate) (status : RelationBackfillStatus)
    (subjectResolution objectResolution : EntityAliasResolutionReceipt)
    (subjectId objectId relationId : Option StableId) (rejectionReason : Option String) :
    Except GraphError RelationBackfillReceipt :=
  match h : backfillRefusal status subjectId objectId relationId candidate.evidenceRefs
      rejectionReason with
  | some message => .error (.validation message)
  | none => .ok {
      candidateId := candidate.candidateId
      sourceBatchId := candidate.sourceBatchId
      sourceStateId := candidate.sourceStateId
      sourceTruthClass := candidate.sourceTruthClass
      status := status
      predicate := candidate.predicate
      subjectSurface := candidate.subjectSurface
      objectSurface := candidate.objectSurface
      subjectId := subjectId
      objectId := objectId
      relationId := relationId
      evidenceRefs := candidate.evidenceRefs
      subjectResolution := subjectResolution
      objectResolution := objectResolution
      rejectionReason := rejectionReason
      valid := h }

abbrev RelationsByKey := Table RelationKey RelationRecord

/-- The entities that candidates were admitted as, by batch and surface. -/
abbrev EntityCandidateMap := Table (StableId × String) StableId

/-- The predicate allows its subject one object, and it has another. -/
def multiplicityConflict (definition : PredicateDefinition) (relationsByKey : RelationsByKey)
    (predicate : NonEmptyText) (subjectId objectId : StableId) : Bool :=
  definition.multiplicity = .oneObjectPerSubject &&
    relationsByKey.selects fun _ relation =>
      relation.predicate = predicate && relation.subjectId = subjectId &&
        relation.objectId ≠ objectId

/-- Admit a relation candidate whose endpoints and checks gave no reason against it. -/
def admitRelation (relationsByKey : RelationsByKey) (candidate : WorldGraphRelationCandidate)
    (subjectResolution objectResolution : EntityAliasResolutionReceipt)
    (subjectId objectId : StableId) :
    Except GraphError (RelationBackfillReceipt × Option RelationRecord) := do
  let receipt (status : RelationBackfillStatus) (relationId : Option StableId)
      (reason : Option String) :=
    relationReceipt candidate status subjectResolution objectResolution (some subjectId)
      (some objectId) relationId reason
  let key := relationKey candidate.predicate subjectId objectId candidate.validTime
  match relationsByKey.lookup key with
  | some existing => pure (← receipt .deduped (some existing.relationId) none, none)
  | none =>
    let definition ←
      (PredicateRegistry.require candidate.predicate.text).mapError GraphError.value
    if multiplicityConflict definition relationsByKey candidate.predicate subjectId objectId then
      pure (← receipt .rejected none (some "predicate_multiplicity_conflict"), none)
    else
      let relationId := graphId "relation.graph." key.parts
      pure (← receipt .accepted (some relationId) none, some {
        relationId := relationId
        predicate := candidate.predicate
        subjectId := subjectId
        objectId := objectId
        validTime := candidate.validTime
        evidenceRefs := candidate.evidenceRefs
        truthClass := candidate.sourceTruthClass })

/-- Admit a relation candidate, with the relation if it is accepted. -/
def admitRelationCandidate (rootHash : ArtifactId) (entities : List Entity)
    (text : TextRootDocument) (relationsByKey : RelationsByKey)
    (entityCandidateMap : EntityCandidateMap) (candidate : WorldGraphRelationCandidate) :
    Except GraphError (RelationBackfillReceipt × Option RelationRecord) := do
  let subjectResolution ← resolve casefold rootHash entities candidate.subjectSurface.text
    candidate.evidenceRefs
  let objectResolution ← resolve casefold rootHash entities candidate.objectSurface.text
    candidate.evidenceRefs
  let subjectId := subjectResolution.resolvedEntityId.or (entityCandidateMap.lookup
    (candidate.sourceBatchId, normalize casefold candidate.subjectSurface.text))
  let objectId := objectResolution.resolvedEntityId.or (entityCandidateMap.lookup
    (candidate.sourceBatchId, normalize casefold candidate.objectSurface.text))
  match relationReason entities text candidate subjectResolution objectResolution subjectId
      objectId with
  | some reason =>
    let receipt ← relationReceipt candidate .rejected subjectResolution objectResolution
      subjectId objectId none (some reason)
    pure (receipt, none)
  | none =>
    match subjectId, objectId with
    | some subjectId, some objectId =>
      admitRelation relationsByKey candidate subjectResolution objectResolution subjectId
        objectId
    | _, _ => throw .assertion

/-- The operation that creates a record, named after the candidate it comes from. -/
def graphOperation (kind : WorldRecordKind) (record : kind.Record) (operationId : StableId)
    (evidenceRefs : List EvidenceRef) : ChangeOperation where
  operationId := operationId
  rootKind := .world
  operation := .create
  targetId := kind.identity record
  payload := recordPayload kind record
  evidenceRefs := evidenceRefs

def entityOperation (entity : Entity) (candidate : WorldGraphEntityCandidate) (basis : CommitId) :
    ChangeOperation :=
  graphOperation .entity entity
    (graphId "change.world-graph.entity."
      [basis.root, candidate.candidateId.root, entity.entityId.root])
    candidate.evidenceRefs

def relationOperation (relation : RelationRecord) (candidate : WorldGraphRelationCandidate)
    (basis : CommitId) : ChangeOperation :=
  graphOperation .relation relation
    (graphId "change.world-graph.relation."
      [basis.root, candidate.candidateId.root, relation.relationId.root])
    candidate.evidenceRefs

/-- Where the loop over the entity candidates stands. -/
structure EntityPhase where
  admitted : List Entity
  candidateMap : EntityCandidateMap
  operations : List ChangeOperation
  receipts : List EntityAdmissionReceipt

def entityStep (rootHash : ArtifactId) (text : TextRootDocument) (basis : CommitId)
    (batchId : StableId) (phase : EntityPhase) (candidate : WorldGraphEntityCandidate) :
    Except GraphError EntityPhase := do
  let (receipt, entity) ← admitEntityCandidate casefold rootHash phase.admitted text candidate
  pure {
    admitted := phase.admitted ++ entity.toList
    candidateMap := match receipt.entityId with
      | none => phase.candidateMap
      | some id =>
        phase.candidateMap.insert (batchId, normalize casefold candidate.surface.text) id
    operations := phase.operations ++
      entity.toList.map fun entity => entityOperation entity candidate basis
    receipts := phase.receipts ++ [receipt] }

/-- The loop over the entity candidates. -/
def runEntities (world : WorldRootDocument) (text : TextRootDocument) (basis : CommitId)
    (batches : List WorldGraphCandidateBatch) : Except GraphError EntityPhase :=
  batches.foldlM
    (fun phase batch =>
      batch.entities.foldlM (entityStep casefold world.rootHash text basis batch.batchId) phase)
    ⟨world.records .entity, ∅, [], []⟩

/-- Where the loop over the relation candidates stands. -/
structure RelationPhase where
  relationsByKey : RelationsByKey
  operations : List ChangeOperation
  receipts : List RelationBackfillReceipt

/-- Relations entered under their keys. -/
def enterRelations (relationsByKey : RelationsByKey) (relations : List RelationRecord) :
    RelationsByKey :=
  relations.foldl (fun entered relation => entered.insert relation.key relation) relationsByKey

def relationStep (rootHash : ArtifactId) (entities : List Entity) (text : TextRootDocument)
    (basis : CommitId) (candidateMap : EntityCandidateMap) (phase : RelationPhase)
    (candidate : WorldGraphRelationCandidate) : Except GraphError RelationPhase := do
  let (receipt, relation) ← admitRelationCandidate casefold rootHash entities text
    phase.relationsByKey candidateMap candidate
  pure {
    relationsByKey := enterRelations phase.relationsByKey relation.toList
    operations := phase.operations ++
      relation.toList.map fun relation => relationOperation relation candidate basis
    receipts := phase.receipts ++ [receipt] }

/-- The loop over the relation candidates. -/
def runRelations (world : WorldRootDocument) (entities : List Entity) (text : TextRootDocument)
    (basis : CommitId) (candidateMap : EntityCandidateMap)
    (batches : List WorldGraphCandidateBatch) : Except GraphError RelationPhase :=
  batches.foldlM
    (fun phase batch => batch.relations.foldlM
      (relationStep casefold world.rootHash entities text basis candidateMap) phase)
    ⟨enterRelations ∅ (world.records .relation), [], []⟩

def graphChangeSet (text : TextRootDocument) (basis : CommitId)
    (batches : List WorldGraphCandidateBatch) (operations : List ChangeOperation) :
    ObservedChangeSet :=
  let sourcePayload := JsonValue.render (.array (batches.map WorldGraphCandidateBatch.json))
  { changeSetId := graphId "changes.world-graph."
      (basis.root :: text.rootHash.root :: operations.map fun operation =>
        operation.operationId.root)
    baseCommit := basis
    sourceArtifact := {
      artifactId := digest sourcePayload
      mediaType := "application/vnd.novel-agent.world-graph-candidates+json"
      byteLength := sourcePayload.utf8ByteSize
      schemaVersion := ⟨"1.0.0", .refl true⟩ }
    operations := operations }

/-- The units that batches are pages of, in the order they first occur. -/
def sourceUnits (batches : List WorldGraphCandidateBatch) : List StableId :=
  (batches.filterMap WorldGraphCandidateBatch.sourceUnitId).eraseDups

/-- The last batch of a unit says that the unit is complete. -/
def unitComplete (batches : List WorldGraphCandidateBatch) (unit : StableId) : Bool :=
  (batches.findRev? fun batch => batch.sourceUnitId = some unit).any fun batch =>
    batch.unitStatus = .complete

/-- The receipt of the pass, before it is checked. -/
def extractionReceipt (world repaired : WorldRootDocument) (basis : CommitId)
    (batches : List WorldGraphCandidateBatch) (entityReceipts : List EntityAdmissionReceipt)
    (relationReceipts : List RelationBackfillReceipt) : WorldGraphExtractionReceipt :=
  let statuses := admissionStatuses entityReceipts relationReceipts
  { receiptId := graphId "world-graph-extraction."
      [world.rootHash.root, repaired.rootHash.root, basis.root]
    sourceWorldRoot := world.rootHash
    repairedWorldRoot := repaired.rootHash
    predicateRegistryVersion := "stage2m-predicate-registry.v2"
    aliasPolicyVersion := "stage2m-entity-alias-policy.v1"
    sourceBatchIds := batches.map WorldGraphCandidateBatch.batchId
    completedSourceUnitIds := (sourceUnits batches).filter (unitComplete batches)
    incompleteSourceUnitIds := (sourceUnits batches).filter fun unit => !unitComplete batches unit
    entityAdmissions := entityReceipts
    candidates := relationReceipts
    acceptedRelationIds := (acceptedIds relationReceipts).reduceOption
    retainedStateIds := (world.records .state).map StateRecord.stateId
    acceptedCount := statuses.countP fun status => status ∈ acceptedStatuses
    rejectedCount := statuses.count "rejected"
    dedupedCount := statuses.count "deduped" }

/-- What the pass returns. -/
structure WorldGraphExtractionResult where
  repairedWorld : WorldRootDocument
  receipt : WorldGraphExtractionReceipt
  changeSet : ObservedChangeSet
  candidateBatches : List WorldGraphCandidateBatch

/-- The pass. -/
def WorldGraphExtractionPass.run (world : WorldRootDocument) (text : TextRootDocument)
    (candidateBatches : List WorldGraphCandidateBatch) (baseCommit : Option CommitId) :
    Except GraphError WorldGraphExtractionResult := do
  let basis := baseCommit.getD world.sourceCommit
  let stateBatch ← stateCandidateBatch casefold world text basis
  let batches := (if stateBatch.relations = [] then [] else [stateBatch]) ++ candidateBatches
  if batches.any fun batch => batch.sourceTextRoot ≠ text.rootHash || batch.baseCommit ≠ basis then
    throw (.value "graph candidate batch differs from the repair basis")
  let entities ← runEntities casefold world text basis batches
  let relations ← runRelations casefold world entities.admitted text basis entities.candidateMap
    batches
  let changeSet := graphChangeSet text basis batches (entities.operations ++ relations.operations)
  let repaired ← (apply world changeSet (some basis)).mapError GraphError.overlay
  let receipt := extractionReceipt world repaired basis batches entities.receipts relations.receipts
  match receipt.refusal with
  | some message => throw (.validation message)
  | none => pure ⟨repaired, receipt, changeSet, batches⟩

end Pass

end NovelAgent.World
