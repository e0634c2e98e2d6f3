import NovelAgent.Core.JsonCompare
import NovelAgent.Core.Table
import NovelAgent.World.Overlay

/-!
# The Mutation Normalizer

The rewriting of a candidate's operations before they are validated.
-/

namespace NovelAgent.World

open Core Domain

def ChangeOperationType.value : ChangeOperationType → String
  | .create => "create"
  | .replace => "replace"
  | .retire => "retire"

def RootKind.value : RootKind → String
  | .text => "text"
  | .plan => "plan"
  | .world => "world"
  | .reference => "reference"
  | .projectProfile => "project_profile"

def ChangeOperation.json (operation : ChangeOperation) : JsonValue :=
  .object [
    ("evidence_refs", EvidenceRef.codec.list.dump operation.evidenceRefs),
    ("operation", .string operation.operation.value),
    ("operation_id", stableIdCodec.dump operation.operationId),
    ("payload", operation.payload),
    ("root_kind", .string operation.rootKind.value),
    ("target_id", stableIdCodec.dump operation.targetId)]

namespace MutationNormalizer

/-- What a pass came to. -/
inductive NormalizationStatus
  | unchanged
  | transformed
  | ambiguous
deriving DecidableEq

/-- What a repair directive says to the normalizer. -/
structure Directive where
  operationIds : List StableId
  allowSuccessorCreation : Bool

/-- Which operations a directive is about. -/
def touched (directive : Option Directive) (operation : ChangeOperation) : Bool :=
  directive.all fun directive =>
    directive.operationIds = [] || operation.operationId ∈ directive.operationIds

/-- A rewriting that was made. -/
structure NormalizationTransformReceipt where
  receiptId : StableId
  ruleId : StableId
  beforeHash : ArtifactId
  afterHash : ArtifactId
  affectedOperationIds : List StableId
  reason : String

/-- What a pass may raise. -/
inductive NormalizationError
  | ambiguity (message : String)
  | validation (message : String)

/-- An identity, unless the text is too long for one. -/
def stableId (text : String) : Except NormalizationError StableId :=
  match StableId.ofString? text with
  | none => .error (.validation ("String should match pattern: " ++ text))
  | some id => .ok id

/-- What a rewriting leaves behind. -/
def receipt (operation : ChangeOperation) (ruleId : StableId) (reason : String)
    (after : JsonValue) : Except NormalizationError NormalizationTransformReceipt := do
  let receiptId ← stableId ("normalization." ++ operation.operationId.root ++ "." ++ ruleId.root)
  pure {
    receiptId := receiptId
    ruleId := ruleId
    beforeHash := digest operation.json.render
    afterHash := digest after.render
    affectedOperationIds := [operation.operationId]
    reason := reason }

def idField : WorldRecordKind → String
  | .entity => "entity_id"
  | .event => "event_id"
  | .state => "state_id"
  | .relation => "relation_id"
  | .obligation => "obligation_id"

/-- The identity that a record has, if it is a text. -/
def recordId (kind : WorldRecordKind) (record : JsonValue) :
    Except NormalizationError (Option StableId) :=
  match (record.get? (idField kind)).bind JsonValue.string? with
  | none => .ok none
  | some text => (stableId text).map some

/-- The fields that say what a record of a kind is about. -/
def identityFields : WorldRecordKind → List String
  | .state => ["subject_id", "predicate"]
  | .relation => ["predicate", "subject_id", "object_id"]
  | .entity => ["entity_type"]
  | .event => ["event_type"]
  | .obligation => ["kind"]

/-- Whether two records agree in the fields that identify them. -/
def sameIdentity (kind : WorldRecordKind) (current new : JsonValue) : Bool :=
  (identityFields kind).all fun field => JsonValue.sameField (current.get? field) (new.get? field)

/-- A record without its identity and its evidence. -/
def stripVolatile (kind : WorldRecordKind) (record : JsonValue) : JsonValue :=
  record.without [idField kind, "evidence_refs"]

/-- Whether they also agree in all that is not volatile. -/
def sameBusinessRecord (kind : WorldRecordKind) (current new : JsonValue) : Bool :=
  sameIdentity kind current new && (stripVolatile kind current).same (stripVolatile kind new)

/-- Something says that a state is the successor of another. -/
def successorProof (record payload : JsonValue) (directive : Option Directive) : Bool :=
  payload.get? "successor_proof" = some (.bool true) ||
    ((payload.get? "successor_proof").bind JsonValue.fields?).isSome ||
    directive.any Directive.allowSuccessorCreation ||
    (record.get? "predecessor_id").any fun id => id ≠ .null

/-- The kind and the record that a payload names. -/
def shape? (payload : JsonValue) : Option (WorldRecordKind × JsonValue) := do
  let kind ← recordKind? payload
  let record ← payload.get? "record"
  let _ ← record.fields?
  pure (kind, record)

/-- The record that the world holds under an identity, as JSON. -/
def existing (world : Option WorldRootDocument) (kind : WorldRecordKind) (id : StableId) :
    Option JsonValue :=
  world.bind fun world =>
    ((world.records kind).findRev? fun record => kind.identity record = id).map kind.codec.dump

/-- End the state that is there and create its successor. -/
def successorOperations (operation : ChangeOperation) (current record : JsonValue) :
    Except NormalizationError (List ChangeOperation × List NormalizationTransformReceipt) := do
  let (newTime, oldTime) ← match record.get? "valid_time", current.get? "valid_time" with
    | some (.object new), some (.object old) => pure (JsonValue.object new, JsonValue.object old)
    | _, _ => .error (.ambiguity "successor state lacks valid-time boundaries")
  let newStart ← match (newTime.get? "start_ordinal").bind JsonValue.int?,
      (oldTime.get? "start_ordinal").bind JsonValue.int? with
    | some newStart, some oldStart =>
      if newStart ≤ oldStart then
        .error (.ambiguity "successor state does not advance effective time")
      else pure newStart
    | _, _ => .error (.ambiguity "successor state does not advance effective time")
  let source : JsonValue := .object [
    ("effective", (newTime.get? "start_ordinal").getD .null),
    ("evidence", (record.get? "evidence_refs").getD (.array [])),
    ("predecessor", .string operation.targetId.root),
    ("predicate", (record.get? "predicate").getD .null),
    ("subject", (record.get? "subject_id").getD .null)]
  let successorId : StableId :=
    ⟨"state.successor." ++ (HexToken.ofDigest 20 HexToken.twenty_le source.render).text,
      isStableId_append_token _ _ (by decide) (by decide)⟩
  let endedOld := current.set "valid_time" (oldTime.set "end_ordinal" (.int (newStart - 1)))
  let successor := record.set (idField .state) (.string successorId.root)
  let statePayload (record : JsonValue) : JsonValue :=
    .object [("record", record), ("record_type", .string WorldRecordKind.state.value)]
  let endId ← stableId (operation.operationId.root ++ ".end")
  let newId ← stableId (operation.operationId.root ++ ".successor")
  let oldOperation : ChangeOperation :=
    ⟨endId, .world, .replace, operation.targetId, statePayload endedOld, operation.evidenceRefs⟩
  let newOperation : ChangeOperation :=
    ⟨newId, .world, .create, successorId, statePayload successor, operation.evidenceRefs⟩
  let done ← receipt operation ⟨"normalize.state-successor-v1", by decide⟩
    "state identity mutation converted to a time-bounded successor"
    (.array [oldOperation.json, newOperation.json])
  pure ([oldOperation, newOperation], [done])

/-- Evidence as JSON, in the order of its identities. -/
def sortEvidence (items : List JsonValue) : List JsonValue :=
  items.mergeSort fun a b =>
    decide (((a.get? "evidence_id").map JsonValue.text).getD "" ≤
      ((b.get? "evidence_id").map JsonValue.text).getD "")

/-- Put the evidence of an operation and of its record in order. -/
def orderEvidence (operation : ChangeOperation) (record : JsonValue) :
    Except NormalizationError (List ChangeOperation × List NormalizationTransformReceipt) :=
  match record.get? "evidence_refs" with
  | some (.array items) =>
    let operationEvidence := operation.evidenceRefs.mergeSort fun a b =>
      decide (a.evidenceId.root ≤ b.evidenceId.root)
    if (items.all fun item => item.fields?.isSome) = true ∧
        ((JsonValue.array (sortEvidence items)).same (.array items) = false ∨
          operationEvidence ≠ operation.evidenceRefs) then do
      let ordered := { operation with
        payload := operation.payload.set "record"
          (record.set "evidence_refs" (.array (sortEvidence items)))
        evidenceRefs := operationEvidence }
      let done ← receipt operation ⟨"normalize.evidence-order-v1", by decide⟩
        "EvidenceRef order normalized without changing spans" ordered.json
      pure ([ordered], [done])
    else .ok ([operation], [])
  | _ => .ok ([operation], [])

/-- One operation against the world. -/
def normalizeOperation (world : Option WorldRootDocument) (directive : Option Directive)
    (operation : ChangeOperation) :
    Except NormalizationError (List ChangeOperation × List NormalizationTransformReceipt) :=
  match shape? operation.payload with
  | none => .ok ([operation], [])
  | some (kind, record) =>
    match operation.operation, existing world kind operation.targetId with
    | .create, some current =>
      if sameBusinessRecord kind current record then do
        let done ← receipt operation ⟨"normalize.exact-duplicate-v1", by decide⟩
          "exact duplicate CREATE removed as NOOP"
          (.object [("operation_id", stableIdCodec.dump operation.operationId),
            ("result", .string "noop")])
        pure ([], [done])
      else if sameIdentity kind current record then do
        let replaced := { operation with operation := .replace }
        let done ← receipt operation ⟨"normalize.create-to-replace-v1", by decide⟩
          "existing business identity is updated by REPLACE" replaced.json
        pure ([replaced], [done])
      else .error (.ambiguity "CREATE target exists with another business identity")
    | .replace, none => do
        if (← recordId kind record) ≠ some operation.targetId then
          throw (.ambiguity "missing REPLACE target does not prove a new record")
        let created := { operation with operation := .create }
        let done ← receipt operation ⟨"normalize.replace-to-create-v1", by decide⟩
          "missing target with self-consistent identity becomes CREATE" created.json
        pure ([created], [done])
    | .replace, some current =>
      if kind = .state ∧ sameIdentity .state current record = false then
        if successorProof record operation.payload directive then
          successorOperations operation current record
        else .error (.ambiguity "state identity mutation has no successor proof")
      else if sameIdentity kind current record then orderEvidence operation record
      else .error (.ambiguity "replacement payload changes the business identity")
    | _, _ => orderEvidence operation record

/-- Where the loop over the operations stands. -/
structure Normalized where
  operations : List ChangeOperation
  transforms : List NormalizationTransformReceipt
  ambiguous : List String

/-- One operation of the loop. An ambiguous one is kept, and noted. -/
def normalizeStep (world : Option WorldRootDocument) (directive : Option Directive)
    (done : Normalized) (operation : ChangeOperation) : Except NormalizationError Normalized :=
  if touched directive operation then
    match normalizeOperation world directive operation with
    | .ok (operations, transforms) =>
      .ok ⟨done.operations ++ operations, done.transforms ++ transforms, done.ambiguous⟩
    | .error (.ambiguity message) =>
      .ok ⟨done.operations ++ [operation], done.transforms,
        done.ambiguous ++ [operation.operationId.root ++ ":" ++ message]⟩
    | .error error => .error error
  else .ok { done with operations := done.operations ++ [operation] }

def ChangeOperation.target (operation : ChangeOperation) : RootKind × StableId :=
  (operation.rootKind, operation.targetId)

/-- Two operations ask for the same. -/
def repeats (previous operation : ChangeOperation) : Bool :=
  previous.operation = operation.operation && previous.payload.same operation.payload

/-- The operations merged so far. -/
structure Merged where
  byIdentity : Table (RootKind × StableId) ChangeOperation
  operations : List ChangeOperation
  transforms : List NormalizationTransformReceipt

/-- The receipt of an operation that is dropped for the first on its target. -/
def duplicateReceipt (previous operation : ChangeOperation) :
    Except NormalizationError NormalizationTransformReceipt := do
  let receiptId ← stableId ("normalization.duplicate." ++ operation.operationId.root)
  pure {
    receiptId := receiptId
    ruleId := ⟨"normalize.duplicate-merge-v1", by decide⟩
    beforeHash := digest previous.json.render
    afterHash := digest (JsonValue.render (.object [
      ("merged", previous.json),
      ("removed_operation_id", stableIdCodec.dump operation.operationId)]))
    affectedOperationIds := [previous.operationId, operation.operationId]
    reason := "identical duplicate operation merged" }

/-- One operation of the merging: the first on its target is remembered, and
    one that repeats it is dropped. -/
def mergeStep (done : Merged) (operation : ChangeOperation) : Except NormalizationError Merged :=
  match done.byIdentity.lookup (ChangeOperation.target operation) with
  | none => .ok {
      done with
      byIdentity := done.byIdentity.insert (ChangeOperation.target operation) operation
      operations := done.operations ++ [operation] }
  | some previous =>
    if repeats previous operation then do
      let receipt ← duplicateReceipt previous operation
      pure { done with transforms := done.transforms ++ [receipt] }
    else .ok { done with operations := done.operations ++ [operation] }

/-- Drop the operations that repeat the first on their target. -/
def mergeDuplicateOperations (operations : List ChangeOperation)
    (transforms : List NormalizationTransformReceipt) : Except NormalizationError Merged :=
  operations.foldlM mergeStep ⟨∅, [], transforms⟩

/-- The list that the operations become. -/
def normalizeOperations (world : Option WorldRootDocument) (directive : Option Directive)
    (operations : List ChangeOperation) : Except NormalizationError Normalized := do
  let done ← operations.foldlM (normalizeStep world directive) ⟨[], [], []⟩
  let merged ← mergeDuplicateOperations done.operations done.transforms
  pure ⟨merged.operations, merged.transforms, done.ambiguous⟩

/-- What the normalizer says of a candidate, and its changes afterwards. -/
structure NormalizationResult where
  status : NormalizationStatus
  changes : ObservedChangeSet
  transforms : List NormalizationTransformReceipt
  reasonCodes : List String

def normalizedChangeSetId (operations : List ChangeOperation) : StableId :=
  ⟨"changes.normalized." ++ (HexToken.ofDigest 16 HexToken.sixteen_le
      (JsonValue.render (.array (operations.map ChangeOperation.json)))).text,
    isStableId_append_token _ _ (by decide) (by decide)⟩

/-- Normalize the changes of a candidate. The rest of the candidate's payload
    only goes into its hash. -/
def normalize (payloadHash : ObservedChangeSet → ArtifactId) (world : Option WorldRootDocument)
    (directive : Option Directive) (changes : ObservedChangeSet) :
    Except NormalizationError NormalizationResult := do
  let done ← normalizeOperations world directive changes.operations
  if done.ambiguous ≠ [] then
    pure ⟨.ambiguous, changes, done.transforms, "NORMALIZATION_AMBIGUOUS" :: done.ambiguous⟩
  else if done.transforms = [] ∧ done.operations = changes.operations then
    pure ⟨.unchanged, changes, [], []⟩
  else
    let observed := { changes with
      operations := done.operations
      changeSetId := normalizedChangeSetId done.operations }
    if payloadHash observed = payloadHash changes then
      pure ⟨.unchanged, changes, done.transforms, []⟩
    else pure ⟨.transformed, observed, done.transforms, []⟩

end MutationNormalizer

end NovelAgent.World
