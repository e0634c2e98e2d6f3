import NovelAgent.Context.Items
import NovelAgent.Events.Log

/-!
# Context Views

The view an agent works from: five layers of items, where in its run's event
stream it stands, and what has been compacted away.
-/

namespace NovelAgent.Context

open Core Domain Transaction

/-- What a call may raise. -/
inductive ContextError
  | projection (message : String)
  | limit (message : String)
  | validation (message : String)
  | integrity (message : String)
  | log (error : Events.LogError)
deriving DecidableEq

/-- The exception of an identity that does not fit its pattern. -/
def malformedId : ContextError :=
  .validation "String should match pattern '^[A-Za-z0-9][A-Za-z0-9._:-]\x7b0,127\x7d$'"

/-- What an agent is shown, and where in its run it stands. -/
structure AgentContextView where
  runId : RunId
  taskId : TaskId
  consumer : ContextConsumer
  revision : Nat
  generation : Nat
  basisEventPosition : Nat
  baseCommit : Option CommitId
  snapshotId : Option StableId
  profileRef : Option ArtifactRef
  planRef : Option ArtifactRef
  informationScope : ReaderScope
  seedPackageRef : ArtifactRef
  protectedItems : List ContextViewItem
  activeMemoryItems : List ContextViewItem
  workingItems : List ContextViewItem
  recentSettledTail : List ContextViewItem
  compactedPrefixItems : List ContextViewItem
  compactedItemIds : List StableId
  unresolvedNeedIds : List StableId
  compactedPrefixRef : Option ArtifactRef
  coveredEventRange : Option (Nat × Nat)
  keptBoundary : Nat
  tokenReport : List (String × Int)
  providerValidityReceipt : Option ProviderValidityReceipt
  contextHash : ArtifactId
deriving DecidableEq

namespace AgentContextView

def layer (view : AgentContextView) : ContextLayer → List ContextViewItem
  | .protected => view.protectedItems
  | .memory => view.activeMemoryItems
  | .working => view.workingItems
  | .recentSettled => view.recentSettledTail
  | .compactedPrefix => view.compactedPrefixItems

/-- All items, layer by layer. -/
def items (view : AgentContextView) : List ContextViewItem :=
  view.protectedItems ++ view.activeMemoryItems ++ view.workingItems ++ view.recentSettledTail ++
    view.compactedPrefixItems

def itemIds (view : AgentContextView) : List StableId :=
  view.items.map fun item => item.itemId

/-- The rules that a view is checked against. -/
def validateView (view : AgentContextView) : Option String :=
  if view.baseCommit.isNone ≠ view.snapshotId.isNone then
    some "Context View commit and snapshot basis must appear together"
  else if view.consumer = .writer ∧ (view.baseCommit = none ∨ view.snapshotId = none ∨
      view.profileRef = none ∨ view.planRef = none) then
    some "Writer Context View requires complete accepted project basis"
  else if view.consumer = .writer ∧ view.informationScope ≠ .writerSafe then
    some "Writer Context View must use writer-safe information scope"
  else if view.consumer = .planner ∧ view.informationScope ≠ .plannerSafe then
    some "Planner Context View must use planner-safe information scope"
  else if (∃ item ∈ view.protectedItems, item.layer ≠ .protected) ∨
      (∃ item ∈ view.activeMemoryItems, item.layer ≠ .memory) ∨
      (∃ item ∈ view.workingItems, item.layer ≠ .working) ∨
      (∃ item ∈ view.recentSettledTail, item.layer ≠ .recentSettled) ∨
      (∃ item ∈ view.compactedPrefixItems, item.layer ≠ .compactedPrefix) then
    some "context item is stored in the wrong layer"
  else if ¬ view.itemIds.Nodup then some "AgentContextView item ids must be unique"
  else if ¬ view.compactedItemIds.Nodup then some "compacted Context item ids must be unique"
  else if ∃ id ∈ view.itemIds, id ∈ view.compactedItemIds then
    some "active and compacted Context item ids cannot overlap"
  else if ∃ item ∈ view.protectedItems, item.mandatory = false then
    some "protected context items must be mandatory"
  else if view.informationScope = .writerSafe ∧
      ∃ item ∈ view.items, item.informationScope = .plannerSafe then
    some "Writer Context View contains planner-only information"
  else if ∃ range ∈ view.coveredEventRange,
      ¬ rangeOrdered range ∨ view.basisEventPosition < range.2 then
    some "Context View compacted event range is invalid"
  else none

/-- What a view that passed its check can rely on. -/
structure Valid (view : AgentContextView) : Prop where
  basis : view.baseCommit.isNone = view.snapshotId.isNone
  writerBasis : view.consumer = .writer → view.baseCommit ≠ none ∧ view.snapshotId ≠ none ∧
    view.profileRef ≠ none ∧ view.planRef ≠ none
  writerScope : view.consumer = .writer → view.informationScope = .writerSafe
  plannerScope : view.consumer = .planner → view.informationScope = .plannerSafe
  layers : ∀ layer, ∀ item ∈ view.layer layer, item.layer = layer
  unique : view.itemIds.Nodup
  compactedUnique : view.compactedItemIds.Nodup
  apart : ∀ id ∈ view.itemIds, id ∉ view.compactedItemIds
  mandatory : ∀ item ∈ view.protectedItems, item.mandatory = true
  safe : view.informationScope = .writerSafe →
    ∀ item ∈ view.items, item.informationScope ≠ .plannerSafe
  covered : ∀ range ∈ view.coveredEventRange,
    rangeOrdered range = true ∧ range.2 ≤ view.basisEventPosition

variable (view : AgentContextView)

/-- A view passes its check exactly when it is valid. -/
theorem validateView_eq_none : view.validateView = none ↔ view.Valid := by
  simp only [validateView, refusal_eq_none]
  constructor
  · rintro ⟨hbasis, hwriter, hwriterScope, hplannerScope, hlayers, hunique, hcompacted, hapart,
      hmandatory, hsafe, hcovered, _⟩
    refine ⟨by simpa using hbasis, fun h => by simpa [h] using hwriter,
      fun h => by simpa [h] using hwriterScope, fun h => by simpa [h] using hplannerScope, ?_,
      by simpa using hunique, by simpa using hcompacted, by simpa using hapart,
      by simpa using hmandatory, fun h => by simpa [h] using hsafe, by simpa using hcovered⟩
    intro layer item hitem
    simp only [not_or, not_exists, not_and, not_not] at hlayers
    cases layer with
    | «protected» => exact hlayers.1 item hitem
    | memory => exact hlayers.2.1 item hitem
    | working => exact hlayers.2.2.1 item hitem
    | recentSettled => exact hlayers.2.2.2.1 item hitem
    | compactedPrefix => exact hlayers.2.2.2.2 item hitem
  · intro h
    refine ⟨by simpa using h.basis, ?_, by simpa using h.writerScope,
      by simpa using h.plannerScope, ?_, by simpa using h.unique, by simpa using h.compactedUnique,
      by simpa using h.apart, by simpa using h.mandatory, by simpa using h.safe,
      by simpa using h.covered, trivial⟩
    · rintro ⟨hconsumer, hmissing⟩
      rcases h.writerBasis hconsumer with ⟨hcommit, hsnapshot, hprofile, hplan⟩
      simp [hcommit, hsnapshot, hprofile, hplan] at hmissing
    · simp only [not_or, not_exists, not_and, not_not]
      exact ⟨h.layers .protected, h.layers .memory, h.layers .working, h.layers .recentSettled,
        h.layers .compactedPrefix⟩

def codec : Codec AgentContextView :=
  (Codec.object
    (.optional "active_memory_items" (.list ContextViewItem.codec) [] <|
      .optional "base_commit" (World.contentHashCodec.option World.contentHash_ne_null) none <|
      .required "basis_event_position" .nat <|
      .optional "compacted_item_ids" (.list World.stableIdCodec) [] <|
      .optional "compacted_prefix_items" (.list ContextViewItem.codec) [] <|
      .optional "compacted_prefix_ref" (artifactRefCodec.option fun _ => nofun) none <|
      .required "consumer" ContextConsumer.codec <|
      .required "context_hash" World.contentHashCodec <|
      .optional "covered_event_range"
        ((Codec.pair .nat .nat).option (Codec.pair_ne_null .nat .nat)) none <|
      .required "generation" .nat <|
      .required "information_scope" ReaderScope.codec <|
      .optional "kept_boundary" .nat 0 <|
      .optional "plan_ref" (artifactRefCodec.option fun _ => nofun) none <|
      .optional "profile_ref" (artifactRefCodec.option fun _ => nofun) none <|
      .required "protected_items" (.list ContextViewItem.codec) <|
      .optional "provider_validity_receipt"
        (ProviderValidityReceipt.codec.option fun _ => nofun) none <|
      .optional "recent_settled_tail" (.list ContextViewItem.codec) [] <|
      .required "revision" .nat <|
      .required "run_id" World.stableIdCodec <|
      .required "seed_package_ref" artifactRefCodec <|
      .optional "snapshot_id" (World.stableIdCodec.option World.stableId_ne_null) none <|
      .required "task_id" World.stableIdCodec <|
      .optional "token_report" (.dict .int) [] <|
      .optional "unresolved_need_ids" (.list World.stableIdCodec) [] <|
      .optional "working_items" (.list ContextViewItem.codec) [] .nil)
    (by decide +kernel)).refine
  (fun view => (view.activeMemoryItems, view.baseCommit, view.basisEventPosition,
    view.compactedItemIds, view.compactedPrefixItems, view.compactedPrefixRef, view.consumer,
    view.contextHash, view.coveredEventRange, view.generation, view.informationScope,
    view.keptBoundary, view.planRef, view.profileRef, view.protectedItems,
    view.providerValidityReceipt, view.recentSettledTail, view.revision, view.runId,
    view.seedPackageRef, view.snapshotId, view.taskId, view.tokenReport, view.unresolvedNeedIds,
    view.workingItems, ()))
  (fun (activeMemoryItems, baseCommit, basisEventPosition, compactedItemIds, compactedPrefixItems,
      compactedPrefixRef, consumer, contextHash, coveredEventRange, generation, informationScope,
      keptBoundary, planRef, profileRef, protectedItems, providerValidityReceipt,
      recentSettledTail, revision, runId, seedPackageRef, snapshotId, taskId, tokenReport,
      unresolvedNeedIds, workingItems, _) =>
    some ⟨runId, taskId, consumer, revision, generation, basisEventPosition, baseCommit,
      snapshotId, profileRef, planRef, informationScope, seedPackageRef, protectedItems,
      activeMemoryItems, workingItems, recentSettledTail, compactedPrefixItems, compactedItemIds,
      unresolvedNeedIds, compactedPrefixRef, coveredEventRange, keptBoundary, tokenReport,
      providerValidityReceipt, contextHash⟩)
  fun _ => rfl

/-- The content address of a view, over everything but the address and the provider's receipt. -/
def viewHash (view : AgentContextView) : ArtifactId :=
  digest ((codec.dump view).without ["context_hash", "provider_validity_receipt"]).render

/-- A view under its content address. -/
def withHash (view : AgentContextView) : AgentContextView :=
  { view with contextHash := view.viewHash }

/-- A view read from a document. -/
def modelValidateJson (document : JsonValue) : Except ContextError AgentContextView :=
  match codec.load document with
  | none => .error (.validation "AgentContextView")
  | some view =>
    match view.validateView with
    | none => .ok view
    | some message => .error (.validation message)

/-- A valid view reads back as it was written. -/
theorem modelValidateJson_dump : modelValidateJson (codec.dump view) = .ok view ↔ view.Valid := by
  rw [← validateView_eq_none, modelValidateJson, codec.load_dump]
  cases h : view.validateView with
  | none => simp [h]
  | some message => simp [h]

end AgentContextView

def renderItem (item : ContextViewItem) : String :=
  "<CONTEXT_ITEM id=\"" ++ item.itemId.root ++ "\" layer=\"" ++ item.layer.value ++
    "\" kind=\"" ++ item.kind.value ++ "\">\n" ++ item.content.text ++ "\n</CONTEXT_ITEM>"

/-- The text a view is shown as. -/
def renderContext (view : AgentContextView) : String :=
  "\n\n".intercalate
    ((view.protectedItems ++ view.activeMemoryItems ++ view.workingItems ++
      view.compactedPrefixItems ++ view.recentSettledTail).map renderItem)

/-- An object of the store: a document under its media type. -/
structure StoredObject where
  document : JsonValue
  mediaType : String

/-- The object store, by content address. -/
abbrev Artifacts := Table ArtifactId StoredObject

def contentId (document : JsonValue) : ArtifactId := digest document.render

theorem contentId_ne {first second : JsonValue}
    (h : Sha256.digitsOf first.render ≠ Sha256.digitsOf second.render) :
    contentId first ≠ contentId second :=
  digest_ne h

/-- The bytes a document takes. -/
def byteLength (document : JsonValue) : Nat := document.render.utf8ByteSize

/-- The reference a document is stored under. -/
def artifactRef (document : JsonValue) (mediaType : String) (schemaVersion : SchemaVersion) :
    ArtifactRef where
  artifactId := contentId document
  mediaType := mediaType
  byteLength := byteLength document
  schemaVersion := schemaVersion

/-- Store a document. What stands under its address already is left there. -/
def put (document : JsonValue) (mediaType : String) (schemaVersion : SchemaVersion) :
    Transaction Artifacts ContextError ArtifactRef := do
  let artifacts ← get
  match artifacts.lookup (contentId document) with
  | some stored =>
    raiseWhen
      (byteLength stored.document ≠ byteLength document ∨ stored.mediaType ≠ mediaType)
      (.integrity "object store metadata differs from produced artifact")
  | none => modify fun artifacts => artifacts.insert (contentId document) ⟨document, mediaType⟩
  pure (artifactRef document mediaType schemaVersion)

/-- Read a document and check it against its reference. -/
def readVerified (artifacts : Artifacts) (artifact : ArtifactRef) :
    Except ContextError JsonValue :=
  match artifacts.lookup artifact.artifactId with
  | none => .error (.integrity "artifact object is missing")
  | some stored =>
    if byteLength stored.document ≠ artifact.byteLength then
      .error (.integrity "artifact byte length does not match metadata")
    else if stored.mediaType ≠ artifact.mediaType then
      .error (.integrity "artifact media type does not match metadata")
    else if contentId stored.document ≠ artifact.artifactId then
      .error (.integrity "artifact content hash verification failed")
    else .ok stored.document

/-- The store holds nothing else under a document's address. -/
def Uncontested (artifacts : Artifacts) (document : JsonValue) : Prop :=
  ∀ stored, artifacts.lookup (contentId document) = some stored → stored.document = document

variable {document : JsonValue} {mediaType : String} {schemaVersion : SchemaVersion}
    {artifacts artifacts' : Artifacts} {ref : ArtifactRef}

/-- Everything a store of a document can do. -/
theorem put_cases (h : put document mediaType schemaVersion artifacts = .ok (ref, artifacts')) :
    ref = artifactRef document mediaType schemaVersion ∧
    ((∃ stored, artifacts.lookup (contentId document) = some stored ∧
        byteLength stored.document = byteLength document ∧ stored.mediaType = mediaType ∧
        artifacts' = artifacts) ∨
      artifacts.lookup (contentId document) = none ∧
        artifacts' = artifacts.insert (contentId document) ⟨document, mediaType⟩) := by
  simp only [put, bind_ok, get_ok] at h
  rcases h with ⟨_, _, ⟨rfl, rfl⟩, h⟩
  cases hstored : artifacts.lookup (contentId document) with
  | some stored =>
    simp only [hstored, bind_ok, raiseWhen_ok, pure_ok] at h
    rcases h with ⟨_, _, ⟨hsame, rfl⟩, rfl, rfl⟩
    simp only [not_or, not_not] at hsame
    exact ⟨rfl, .inl ⟨stored, rfl, hsame.1, hsame.2, rfl⟩⟩
  | none =>
    simp only [hstored, bind_ok, modify_ok, pure_ok] at h
    rcases h with ⟨_, _, rfl, rfl, rfl⟩
    exact ⟨rfl, .inr ⟨rfl, rfl⟩⟩

theorem put_absent {artifacts : Artifacts} (h : artifacts.lookup (contentId document) = none) :
    put document mediaType schemaVersion artifacts =
      .ok (artifactRef document mediaType schemaVersion,
        artifacts.insert (contentId document) ⟨document, mediaType⟩) := by
  simp only [put, bind_ok, get_ok]
  refine ⟨artifacts, artifacts, ⟨rfl, rfl⟩, ?_⟩
  simp only [h, bind_ok, modify_ok, pure_ok]
  exact ⟨(), _, rfl, trivial, rfl⟩

theorem lookup_put (h : put document mediaType schemaVersion artifacts = .ok (ref, artifacts'))
    (hfree : Uncontested artifacts document) :
    artifacts'.lookup (contentId document) = some ⟨document, mediaType⟩ := by
  rcases put_cases h with ⟨_, ⟨stored, hstored, _, hmedia, rfl⟩ | ⟨_, rfl⟩⟩
  · rw [hstored, ← hfree stored hstored, ← hmedia]
  · rw [Table.lookup_insert_if, if_pos rfl]

theorem put_keeps (h : put document mediaType schemaVersion artifacts = .ok (ref, artifacts'))
    {address : ArtifactId} {stored : StoredObject}
    (hstored : artifacts.lookup address = some stored) :
    artifacts'.lookup address = some stored := by
  rcases put_cases h with ⟨_, ⟨_, _, _, _, rfl⟩ | ⟨hnone, rfl⟩⟩
  · exact hstored
  · rw [Table.lookup_insert_if, if_neg]
    · exact hstored
    · rintro rfl
      rw [hnone] at hstored
      exact absurd hstored (by simp)

/-- A document that was stored can be read. -/
theorem readVerified_eq {artifacts : Artifacts}
    (h : artifacts.lookup (contentId document) = some ⟨document, mediaType⟩)
    (schemaVersion : SchemaVersion) :
    readVerified artifacts (artifactRef document mediaType schemaVersion) = .ok document := by
  simp [readVerified, artifactRef, h]

end NovelAgent.Context
