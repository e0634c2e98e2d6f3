import NovelAgent.World.Text

/-!
# Graph Candidates and Receipts

What the graph pass is given and what it writes down about it.
-/

namespace NovelAgent.World

open Core Domain

/-- Whether a candidate is supported. -/
inductive GraphCandidateSupportStatus
  | supported
  | rejected
deriving DecidableEq

def GraphCandidateSupportStatus.value : GraphCandidateSupportStatus → String
  | .supported => "supported"
  | .rejected => "rejected"

/-- How far a source was read. -/
inductive GraphSourceUnitStatus
  | «continue»
  | complete
  | incomplete
deriving DecidableEq

def GraphSourceUnitStatus.value : GraphSourceUnitStatus → String
  | .continue => "continue"
  | .complete => "complete"
  | .incomplete => "incomplete"

/-- How a mention resolves. -/
inductive EntityResolutionStatus
  | uniqueLabel
  | uniqueAlias
  | ambiguous
  | missing
deriving DecidableEq

def EntityResolutionStatus.value : EntityResolutionStatus → String
  | .uniqueLabel => "unique_label"
  | .uniqueAlias => "unique_alias"
  | .ambiguous => "ambiguous"
  | .missing => "missing"

/-- What became of an entity. -/
inductive EntityAdmissionStatus
  | reused
  | created
  | deduped
  | rejected
deriving DecidableEq

def EntityAdmissionStatus.value : EntityAdmissionStatus → String
  | .reused => "reused"
  | .created => "created"
  | .deduped => "deduped"
  | .rejected => "rejected"

/-- What became of a relation. -/
inductive RelationBackfillStatus
  | accepted
  | deduped
  | rejected
deriving DecidableEq

def RelationBackfillStatus.value : RelationBackfillStatus → String
  | .accepted => "accepted"
  | .deduped => "deduped"
  | .rejected => "rejected"

/-- An entity that the text is said to speak of. -/
structure WorldGraphEntityCandidate where
  candidateId : StableId
  sourceBatchId : StableId
  surface : NonEmptyText
  entityType : NonEmptyText
  evidenceRefs : List EvidenceRef
  supportStatus : GraphCandidateSupportStatus
  supportReason : NonEmptyText

def WorldGraphEntityCandidate.json (candidate : WorldGraphEntityCandidate) : JsonValue :=
  .object [
    ("candidate_id", stableIdCodec.dump candidate.candidateId),
    ("entity_type", .string candidate.entityType.text),
    ("evidence_refs", EvidenceRef.codec.list.dump candidate.evidenceRefs),
    ("source_batch_id", stableIdCodec.dump candidate.sourceBatchId),
    ("support_reason", .string candidate.supportReason.text),
    ("support_status", .string candidate.supportStatus.value),
    ("surface", .string candidate.surface.text)]

/-- A relation that the text is said to state. -/
structure WorldGraphRelationCandidate where
  candidateId : StableId
  sourceBatchId : StableId
  sourceStateId : Option StableId
  subjectSurface : NonEmptyText
  predicate : NonEmptyText
  objectSurface : NonEmptyText
  validTime : StoryTime
  evidenceRefs : List EvidenceRef
  sourceTruthClass : TruthClass
  supportStatus : GraphCandidateSupportStatus
  supportReason : NonEmptyText

def optionJson {α : Type} (json : α → JsonValue) : Option α → JsonValue
  | none => .null
  | some value => json value

def WorldGraphRelationCandidate.json (candidate : WorldGraphRelationCandidate) : JsonValue :=
  .object [
    ("candidate_id", stableIdCodec.dump candidate.candidateId),
    ("evidence_refs", EvidenceRef.codec.list.dump candidate.evidenceRefs),
    ("object_surface", .string candidate.objectSurface.text),
    ("predicate", .string candidate.predicate.text),
    ("source_batch_id", stableIdCodec.dump candidate.sourceBatchId),
    ("source_state_id", optionJson stableIdCodec.dump candidate.sourceStateId),
    ("source_truth_class", .string candidate.sourceTruthClass.value),
    ("subject_surface", .string candidate.subjectSurface.text),
    ("support_reason", .string candidate.supportReason.text),
    ("support_status", .string candidate.supportStatus.value),
    ("valid_time", StoryTime.codec.dump candidate.validTime)]

/-- Exactly the incomplete units say why. -/
def unitStatusValid (unitStatus : GraphSourceUnitStatus) (incompleteReason : Option NonEmptyText) :
    Bool :=
  decide (unitStatus = .incomplete) == incompleteReason.isSome

/-- The candidates of one batch. -/
structure WorldGraphCandidateBatch where
  batchId : StableId
  sourceTextRoot : ArtifactId
  baseCommit : CommitId
  chapterIndex : Option { chapter : Nat // 1 ≤ chapter }
  sourceUnitId : Option StableId
  pageIndex : Nat
  unitStatus : GraphSourceUnitStatus
  incompleteReason : Option NonEmptyText
  sourceCandidateIds : List StableId
  exactEvidenceCandidateIds : List StableId
  candidateKeys : List String
  dedupedCandidateKeys : List String
  policyVersion : NonEmptyText
  modelRequestId : Option StableId
  entities : List WorldGraphEntityCandidate
  relations : List WorldGraphRelationCandidate
  valid : unitStatusValid unitStatus incompleteReason = true

namespace WorldGraphCandidateBatch

def json (batch : WorldGraphCandidateBatch) : JsonValue :=
  .object [
    ("base_commit", contentHashCodec.dump batch.baseCommit),
    ("batch_id", stableIdCodec.dump batch.batchId),
    ("candidate_keys", Codec.string.list.dump batch.candidateKeys),
    ("chapter_index", optionJson (fun chapter => .int chapter.val) batch.chapterIndex),
    ("deduped_candidate_keys", Codec.string.list.dump batch.dedupedCandidateKeys),
    ("entities", .array (batch.entities.map WorldGraphEntityCandidate.json)),
    ("exact_evidence_candidate_ids", stableIdCodec.list.dump batch.exactEvidenceCandidateIds),
    ("incomplete_reason", optionJson (fun reason => .string reason.text) batch.incompleteReason),
    ("model_request_id", optionJson stableIdCodec.dump batch.modelRequestId),
    ("page_index", .int batch.pageIndex),
    ("policy_version", .string batch.policyVersion.text),
    ("relations", .array (batch.relations.map WorldGraphRelationCandidate.json)),
    ("source_candidate_ids", stableIdCodec.list.dump batch.sourceCandidateIds),
    ("source_text_root", contentHashCodec.dump batch.sourceTextRoot),
    ("source_unit_id", optionJson stableIdCodec.dump batch.sourceUnitId),
    ("unit_status", .string batch.unitStatus.value)]

/-- The number of candidates in the batch. -/
def size (batch : WorldGraphCandidateBatch) : Nat :=
  batch.entities.length + batch.relations.length

end WorldGraphCandidateBatch

/-- A mention is resolved exactly when its match is unique, and then to it. -/
def resolutionValid (status : EntityResolutionStatus) (matchedEntityIds : List StableId)
    (resolvedEntityId : Option StableId) : Bool :=
  if status = .uniqueLabel ∨ status = .uniqueAlias then
    match resolvedEntityId with
    | none => false
    | some id => matchedEntityIds = [id]
  else resolvedEntityId = none

/-- What became of a mention. -/
structure EntityAliasResolutionReceipt where
  receiptId : StableId
  mention : NonEmptyText
  status : EntityResolutionStatus
  matchedEntityIds : List StableId
  resolvedEntityId : Option StableId
  matchBasis : NonEmptyText
  evidenceRefs : List EvidenceRef
  reason : Option String
  valid : resolutionValid status matchedEntityIds resolvedEntityId = true

/-- An admitted entity has an identity and no reason, a rejected one a reason. -/
def admissionValid (status : EntityAdmissionStatus) (entityId : Option StableId)
    (rejectionReason : Option String) : Bool :=
  if status = .rejected then rejectionReason.isSome
  else entityId.isSome && rejectionReason.isNone

/-- What became of an entity candidate. -/
structure EntityAdmissionReceipt where
  candidateId : StableId
  sourceBatchId : StableId
  surface : NonEmptyText
  entityType : NonEmptyText
  status : EntityAdmissionStatus
  entityId : Option StableId
  evidenceRefs : List EvidenceRef
  resolution : EntityAliasResolutionReceipt
  rejectionReason : Option String
  valid : admissionValid status entityId rejectionReason = true

/-- Why the receipt of a relation candidate cannot be built. -/
def backfillRefusal (status : RelationBackfillStatus)
    (subjectId objectId relationId : Option StableId) (evidenceRefs : List EvidenceRef)
    (rejectionReason : Option String) : Option String :=
  match status with
  | .accepted =>
    if subjectId = none ∨ objectId = none ∨ relationId = none ∨ evidenceRefs = [] then
      some "accepted relation backfill requires endpoints, identity, and evidence"
    else if rejectionReason ≠ none then
      some "accepted relation backfill cannot have a rejection reason"
    else none
  | .deduped =>
    if subjectId = none ∨ objectId = none ∨ relationId = none then
      some "deduped relation requires canonical relation identity"
    else if rejectionReason ≠ none then
      some "deduped relation cannot have a rejection reason"
    else none
  | .rejected =>
    if rejectionReason = none then some "rejected relation backfill requires a rejection reason"
    else none

/-- What became of a relation, and why. -/
structure RelationBackfillReceipt where
  candidateId : StableId
  sourceBatchId : StableId
  sourceStateId : Option StableId
  sourceTruthClass : TruthClass
  status : RelationBackfillStatus
  predicate : NonEmptyText
  subjectSurface : NonEmptyText
  objectSurface : NonEmptyText
  subjectId : Option StableId
  objectId : Option StableId
  relationId : Option StableId
  evidenceRefs : List EvidenceRef
  subjectResolution : EntityAliasResolutionReceipt
  objectResolution : EntityAliasResolutionReceipt
  rejectionReason : Option String
  valid : backfillRefusal status subjectId objectId relationId evidenceRefs rejectionReason = none

def admissionStatuses (entityAdmissions : List EntityAdmissionReceipt)
    (candidates : List RelationBackfillReceipt) : List String :=
  entityAdmissions.map (fun admission => admission.status.value) ++
    candidates.map fun candidate => candidate.status.value

/-- The names under which a candidate counts as accepted. -/
def acceptedStatuses : List String := ["accepted", "created", "reused"]

def acceptedIds (candidates : List RelationBackfillReceipt) : List (Option StableId) :=
  (candidates.filter fun candidate => candidate.status = .accepted).map
    RelationBackfillReceipt.relationId

/-- What became of all candidates. -/
structure WorldGraphExtractionReceipt where
  receiptId : StableId
  sourceWorldRoot : ArtifactId
  repairedWorldRoot : ArtifactId
  predicateRegistryVersion : String
  aliasPolicyVersion : String
  sourceBatchIds : List StableId
  completedSourceUnitIds : List StableId
  incompleteSourceUnitIds : List StableId
  entityAdmissions : List EntityAdmissionReceipt
  candidates : List RelationBackfillReceipt
  acceptedRelationIds : List StableId
  retainedStateIds : List StableId
  acceptedCount : Nat
  rejectedCount : Nat
  dedupedCount : Nat

/-- Why the receipt cannot be built. -/
def WorldGraphExtractionReceipt.refusal (receipt : WorldGraphExtractionReceipt) : Option String :=
  let statuses := admissionStatuses receipt.entityAdmissions receipt.candidates
  if receipt.completedSourceUnitIds.any fun id => id ∈ receipt.incompleteSourceUnitIds then
    some "graph source unit cannot be both complete and incomplete"
  else if acceptedIds receipt.candidates ≠ receipt.acceptedRelationIds.map some then
    some "accepted relation ids must match accepted candidate receipts"
  else if receipt.acceptedCount ≠ statuses.countP (fun status => status ∈ acceptedStatuses) then
    some "graph receipt accepted accounting mismatch"
  else if receipt.rejectedCount ≠ statuses.count "rejected" then
    some "graph receipt rejected accounting mismatch"
  else if receipt.dedupedCount ≠ statuses.count "deduped" then
    some "graph receipt deduped accounting mismatch"
  else none

end NovelAgent.World
