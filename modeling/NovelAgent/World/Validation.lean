import NovelAgent.World.Overlay
import NovelAgent.World.Predicates
import NovelAgent.World.Text

/-!
# The Stage 1 Validator

The deterministic verdict on a proposed world.
-/

namespace NovelAgent.World

open Core Domain

/-- A change of value that a policy allows. -/
structure StateTransitionEdge where
  fromValue : JsonValue
  toValue : JsonValue

/-- The edge leads from one value to the other, compared as canonical JSON. -/
def StateTransitionEdge.leads (edge : StateTransitionEdge) (old new : JsonValue) : Bool :=
  edge.fromValue.render = old.render && edge.toValue.render = new.render

/-- The changes of value that a policy allows for a predicate. -/
structure StateTransitionRule where
  predicate : NonEmptyText
  allowed : List StateTransitionEdge
  nonEmpty : allowed ≠ []

/-- What may follow what. -/
structure StateTransitionPolicy where
  policyId : StableId
  schemaVersion : SchemaVersion
  rules : List StateTransitionRule
  allowUnlistedPredicates : Bool
  unique : (rules.map StateTransitionRule.predicate).Nodup

/-- The policy of a validator that is given none. -/
def StateTransitionPolicy.structural : StateTransitionPolicy where
  policyId := ⟨"transition.stage1-structural-v1", by decide⟩
  schemaVersion := ⟨"0.1.0", .refl true⟩
  rules := []
  allowUnlistedPredicates := true
  unique := List.nodup_nil

def StateTransitionPolicy.rule? (policy : StateTransitionPolicy) (predicate : NonEmptyText) :
    Option StateTransitionRule :=
  policy.rules.find? fun rule => rule.predicate = predicate

/-- The statuses that may follow a status of an obligation. -/
def obligationTransitions : ObligationStatus → List ObligationStatus
  | .open => [.progressed, .resolved, .abandoned]
  | .progressed => [.resolved, .abandoned]
  | .resolved => []
  | .abandoned => []

/-- A candidate: observed changes and the roots they propose. -/
structure CandidateChangeBundle where
  bundleId : StableId
  projectId : ProjectId
  runId : RunId
  baseCommit : CommitId
  observedChanges : ObservedChangeSet
  proposedRoots : RootManifest
  producedArtifacts : List ArtifactRef

/-- A world as it is stored, with its keys sorted. -/
def WorldRootDocument.dump (world : WorldRootDocument) : JsonValue :=
  let collection (kind : WorldRecordKind) := kind.codec.list.dump (world.records kind)
  .object [
    ("entities", collection .entity),
    ("events", collection .event),
    ("obligations", collection .obligation),
    ("relations", collection .relation),
    ("root_hash", .string world.rootHash.root),
    ("schema_version", .string world.schemaVersion.root),
    ("source_commit", .string world.sourceCommit.root),
    ("states", collection .state)]

/-- The root reference under which a world is stored. -/
def worldRootRef (world : WorldRootDocument) : ArtifactRef where
  artifactId := digest world.dump.render
  mediaType := "application/vnd.novel-agent.world-root+json"
  byteLength := world.dump.render.utf8ByteSize
  schemaVersion := world.schemaVersion

/-- The bundle that proposes a world next to the other roots of a manifest, unless its identity
    is too long. -/
def buildCandidateBundle (projectId : ProjectId) (runId : RunId) (currentManifest : RootManifest)
    (changes : ObservedChangeSet) (proposedWorld : WorldRootDocument) :
    Option CandidateChangeBundle :=
  (StableId.ofString? ("bundle." ++ changes.changeSetId.root)).map fun bundleId => {
    bundleId := bundleId
    projectId := projectId
    runId := runId
    baseCommit := changes.baseCommit
    observedChanges := changes
    proposedRoots := { currentManifest with
      worldRoot := worldRootRef proposedWorld
      parentCommitIds := [changes.baseCommit] }
    producedArtifacts := [worldRootRef proposedWorld] }

/-- One finding. -/
structure ValidationFinding where
  code : String
  severity : String
  message : String
  evidenceRefs : List EvidenceRef

/-- The verdict, with its findings. -/
structure ValidationReport where
  reportId : StableId
  bundleId : StableId
  status : ValidationStatus
  findings : List ValidationFinding
  schemaVersion : SchemaVersion
  validationProfile : String
  validatedAt : Time

/-- An error. -/
def finding (code message : String) : ValidationFinding where
  code := code
  severity := "error"
  message := message
  evidenceRefs := []

def findingWhen (bad : Prop) [Decidable bad] (code message : String) : List ValidationFinding :=
  if bad then [finding code message] else []

/-- Two writes of one target. -/
def checkWriteConflicts (operations : List ChangeOperation) : List ValidationFinding :=
  findingWhen (¬ (operations.map fun operation => (operation.rootKind, operation.targetId)).Nodup)
    "WRITE_CONFLICT" "write set targets the same record more than once"

/-- The evidence of an operation, each reference against the text. -/
def checkEvidence (root : TextRootDocument) (operation : ChangeOperation) :
    List ValidationFinding :=
  if operation.evidenceRefs = [] then
    [finding "MISSING_EVIDENCE" "world change has no evidence"]
  else
    operation.evidenceRefs.flatMap fun evidence =>
      match validateEvidenceRef evidence root with
      | .ok _ => []
      | .error message => [⟨"INVALID_EVIDENCE", "error", message, [evidence]⟩]

/-- Evidence must be in the text, and truth must fit its kind. -/
def checkEvidenceAndTruth (operations : List ChangeOperation) (root : TextRootDocument) :
    List ValidationFinding :=
  operations.flatMap (checkEvidence root)

def WorldRootDocument.find (world : WorldRootDocument) (kind : WorldRecordKind) (id : StableId) :
    Option kind.Record :=
  (world.records kind).find? fun record => kind.identity record = id

/-- A relation of the proposed world: its ends, its predicate, its truth. -/
def checkRelation (proposed : WorldRootDocument) (relation : RelationRecord) :
    List ValidationFinding :=
  match proposed.find .entity relation.subjectId, proposed.find .entity relation.objectId with
  | some subject, some object =>
    (match PredicateRegistry.validateEntityTypes relation.predicate.text subject.entityType.text
        object.entityType.text with
      | .ok _ => []
      | .error message => [finding "RELATION_PREDICATE_INVALID" message]) ++
    findingWhen (relation.truthClass = .unknown ∨ relation.truthClass = .notApplicable)
      "RELATION_TRUTH_NOT_CONCRETE" "canonical relation requires a concrete source truth class"
  | _, _ => [finding "RELATION_ENDPOINT_MISSING" "relation endpoint is absent from proposed world"]

/-- A relation that an operation writes, as the proposed world holds it. -/
def checkRelationWrite (proposed : WorldRootDocument) (operation : ChangeOperation) :
    List ValidationFinding :=
  if operation.operation = .retire ∨
      operation.payload.get? "record_type" ≠ some (.string "relation") then []
  else
    match proposed.find .relation operation.targetId with
    | none =>
      [finding "RELATION_WRITE_MISSING" "changed relation is absent from proposed world"]
    | some relation => checkRelation proposed relation

/-- A relation must keep the rules of its predicate. -/
def checkRelationInvariants (operations : List ChangeOperation) (proposed : WorldRootDocument) :
    List ValidationFinding :=
  operations.flatMap (checkRelationWrite proposed)

def checkRecordEvidence (kind : String) (operation : ChangeOperation) : List ValidationFinding :=
  match operation.payload.get? "record" with
  | some (.object fields) =>
    findingWhen (kind ≠ "entity" ∧
        fields.lookup "evidence_refs" ≠
          some (EvidenceRef.codec.list.dump operation.evidenceRefs))
      "RECORD_EVIDENCE_MISMATCH" "record evidence differs from operation evidence"
  | _ => []

/-- An event is told in one of the chapters its evidence comes from. -/
def checkNarrativeOrder (kind : String) (proposed : WorldRootDocument) (root : TextRootDocument)
    (operation : ChangeOperation) : List ValidationFinding :=
  if kind ≠ "event" then []
  else
    match (proposed.find .event operation.targetId).bind Event.narrativeOrder with
    | none => []
    | some order =>
      findingWhen
        (some order.chapterIndex ∉
          (operation.evidenceRefs.filterMap EvidenceRef.chapterId).map root.chapterIndex?)
        "NARRATIVE_ORDER_EVIDENCE_MISMATCH"
        "event narrative order differs from its evidence chapter"

/-- A state that was replaced: the same statement, with a value that may follow the old one. -/
def checkStateTransition (policy : StateTransitionPolicy) (old new : StateRecord) :
    List ValidationFinding :=
  if old.subjectId ≠ new.subjectId ∨ old.predicate ≠ new.predicate then
    [finding "STATE_IDENTITY_MUTATION" "state replacement changed subject or predicate"]
  else
    match policy.rule? old.predicate with
    | none =>
      findingWhen (policy.allowUnlistedPredicates = false) "UNLISTED_STATE_TRANSITION"
        ("predicate has no transition rule: " ++ old.predicate.text)
    | some rule =>
      findingWhen (¬ rule.allowed.any fun edge => edge.leads old.value new.value)
        "ILLEGAL_STATE_TRANSITION"
        ("transition is not allowed for predicate: " ++ old.predicate.text)

/-- An obligation that was replaced: the same status, or one that may follow it. -/
def checkObligationTransition (old new : PlanObligation) : List ValidationFinding :=
  findingWhen (old.status ≠ new.status ∧ new.status ∉ obligationTransitions old.status)
    "ILLEGAL_OBLIGATION_TRANSITION" "plan obligation lifecycle transition is not allowed"

def checkReplacement (policy : StateTransitionPolicy) (kind : String)
    (canonical proposed : WorldRootDocument) (operation : ChangeOperation) :
    List ValidationFinding :=
  if kind = "state" then
    match canonical.find .state operation.targetId, proposed.find .state operation.targetId with
    | some old, some new => checkStateTransition policy old new
    | _, _ => []
  else if kind = "obligation" then
    match canonical.find .obligation operation.targetId,
      proposed.find .obligation operation.targetId with
    | some old, some new => checkObligationTransition old new
    | _, _ => []
  else []

/-- One operation: its evidence, its transition, its place in the narrative. -/
def checkTransition (policy : StateTransitionPolicy) (canonical proposed : WorldRootDocument)
    (root : TextRootDocument) (operation : ChangeOperation) : List ValidationFinding :=
  match operation.payload.get? "record_type" with
  | some (.string kind) =>
    checkRecordEvidence kind operation ++
    (if operation.operation = .replace then
      checkReplacement policy kind canonical proposed operation
    else []) ++
    checkNarrativeOrder kind proposed root operation
  | _ => []

/-- Every operation. -/
def checkTransitionsAndOrder (policy : StateTransitionPolicy) (operations : List ChangeOperation)
    (canonical proposed : WorldRootDocument) (root : TextRootDocument) : List ValidationFinding :=
  operations.flatMap (checkTransition policy canonical proposed root)

/-- The proposed world is the one the operations make. -/
def checkOverlay (bundle : CandidateChangeBundle) (canonical proposed : WorldRootDocument) :
    List ValidationFinding :=
  match apply canonical bundle.observedChanges (some bundle.baseCommit) with
  | .ok expected =>
    findingWhen (expected ≠ proposed) "OVERLAY_MISMATCH"
      "proposed world differs from overlay result"
  | .error error => [finding "INVALID_OVERLAY" error.message]

/-- Everything that is wrong with a bundle. -/
def findings (policy : StateTransitionPolicy) (bundle : CandidateChangeBundle)
    (canonical proposed : WorldRootDocument) (root : TextRootDocument)
    (canonicalCommit : Option CommitId) : List ValidationFinding :=
  let operations := bundle.observedChanges.operations
  findingWhen (bundle.baseCommit ≠ canonicalCommit.getD canonical.sourceCommit)
    "BASE_MISMATCH" "base commit mismatch" ++
  findingWhen (worldRootContentId proposed.schemaVersion proposed.sourceCommit proposed.records ≠
      proposed.rootHash)
    "ROOT_HASH_MISMATCH" "world root hash mismatch" ++
  checkWriteConflicts operations ++
  checkEvidenceAndTruth operations root ++
  checkRelationInvariants operations proposed ++
  checkTransitionsAndOrder policy operations canonical proposed root ++
  checkOverlay bundle canonical proposed

def statusOf (findings : List ValidationFinding) : ValidationStatus :=
  if findings.any fun finding => finding.severity = "error" then .failed
  else if findings ≠ [] then .needsReview
  else .passed

/-- The identity of a report that nothing longer fits. -/
def structuralReportId : StableId := ⟨"validation.structural", by decide⟩

/-- The verdict on a bundle. -/
def validate (policy : StateTransitionPolicy) (bundle : CandidateChangeBundle)
    (canonical proposed : WorldRootDocument) (root : TextRootDocument)
    (canonicalCommit : Option CommitId) (now : Time) : ValidationReport :=
  let found := findings policy bundle canonical proposed root canonicalCommit
  { reportId := (boundedStableId ["validation." ++ bundle.bundleId.root,
      "validation." ++ bundle.observedChanges.changeSetId.root]).getD structuralReportId
    bundleId := bundle.bundleId
    status := statusOf found
    findings := found
    schemaVersion := ⟨"0.1.0", .refl true⟩
    validationProfile := "stage1-validator-v1+" ++ policy.policyId.root ++ "@" ++
      policy.schemaVersion.root
    validatedAt := now }

end NovelAgent.World
