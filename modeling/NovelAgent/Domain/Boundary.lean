import Mathlib.Data.Prod.Lex
import NovelAgent.Domain.Changes

/-!
# Information Boundaries

What a memory write may see, and the receipts that prove it.
-/

namespace NovelAgent.Domain

open Core

/-- A monotonic position used by information-boundary checks. -/
structure NarrativePosition where
  chapterIndex : Nat
  sceneIndex : Option Nat := none
  blockIndex : Option Nat := none

/-- An index that is not given sorts before every index. -/
def indexKey (index : Option Nat) : Int :=
  match index with
  | none => -1
  | some n => n

/-- Positions are compared by chapter, then scene, then block. -/
def positionKey (position : NarrativePosition) : ℤ ×ₗ ℤ ×ₗ ℤ :=
  toLex ((position.chapterIndex : ℤ),
    toLex (indexKey position.sceneIndex, indexKey position.blockIndex))

/-- Who may read, from the narrowest to the widest. -/
inductive AccessScope
  | writerSafe
  | authorPlanning
  | evaluator
deriving DecidableEq

def AccessScope.value : AccessScope → String
  | .writerSafe => "writer_safe"
  | .authorPlanning => "author_planning"
  | .evaluator => "evaluator"

/-- A larger number means that more information is exposed. -/
def scopeWidth : AccessScope → Nat
  | .writerSafe => 0
  | .authorPlanning => 1
  | .evaluator => 2

/-- Where a source comes from. -/
inductive SourceProvenance
  | authorInput
  | revealedText
  | canonicalRoot
  | trustedDerived
  | humanCorrection

def SourceProvenance.value : SourceProvenance → String
  | .authorInput => "author_input"
  | .revealedText => "revealed_text"
  | .canonicalRoot => "canonical_root"
  | .trustedDerived => "trusted_derived"
  | .humanCorrection => "human_correction"

/-- The maximum does not precede the reveal, where both are given. -/
def positionsOrdered (reveal maximum : Option NarrativePosition) : Bool :=
  match reveal, maximum with
  | some reveal, some maximum => decide (positionKey reveal ≤ positionKey maximum)
  | _, _ => true

/-- The limits of one write. -/
structure InformationBoundary where
  boundaryId : StableId
  baseCommit : CommitId
  revealPosition : Option NarrativePosition
  maximumVisiblePosition : Option NarrativePosition
  evaluatorSourcesForbidden : Bool
  positions : positionsOrdered revealPosition maximumVisiblePosition = true

/-- How far one source artifact reaches. -/
structure SourceVisibilityReceipt where
  receiptId : StableId
  sourceArtifact : ArtifactRef
  boundaryId : StableId
  visibleThrough : Option NarrativePosition
  accessScope : AccessScope
  provenance : SourceProvenance
  issuer : StableId
  receiptHash : ArtifactId

/-- What one derived artifact was built from and how far it reaches. -/
structure BoundaryPropagationReceipt where
  receiptId : StableId
  boundaryId : StableId
  baseCommit : CommitId
  inputSourceArtifactRefs : List ArtifactRef
  sourceVisibilityReceiptRefs : List ArtifactRef
  inputDerivationReceiptRefs : List ArtifactRef
  outputArtifactHash : ArtifactId
  builderPolicyHash : ArtifactId
  effectiveVisibleThrough : Option NarrativePosition
  effectiveAccessScope : AccessScope
  receiptHash : ArtifactId
  hasInput : (inputSourceArtifactRefs.isEmpty && inputDerivationReceiptRefs.isEmpty) = false
  uniqueInputs : ((sourceVisibilityReceiptRefs ++ inputDerivationReceiptRefs).map
    ArtifactRef.artifactId).Nodup

/-- A value that may be missing, as JSON. -/
def optionalJson {α : Type} (render : α → String) : Option α → String
  | none => "null"
  | some a => render a

/-- A reference as JSON with its keys sorted. -/
def ArtifactRef.json (ref : ArtifactRef) : String :=
  Json.object [
    ("artifact_id", Json.string ref.artifactId.root),
    ("byte_length", Json.number ref.byteLength),
    ("media_type", Json.string ref.mediaType),
    ("schema_version", Json.string ref.schemaVersion.root)]

/-- A position as JSON with its keys sorted. -/
def NarrativePosition.json (position : NarrativePosition) : String :=
  Json.object [
    ("block_index", optionalJson Json.number position.blockIndex),
    ("chapter_index", Json.number position.chapterIndex),
    ("scene_index", optionalJson Json.number position.sceneIndex)]

/-- What the hash of the receipt must be. -/
def SourceVisibilityReceipt.contentHash (receipt : SourceVisibilityReceipt) : ArtifactId :=
  digest (Json.object [
    ("access_scope", Json.string receipt.accessScope.value),
    ("boundary_id", Json.string receipt.boundaryId.root),
    ("issuer", Json.string receipt.issuer.root),
    ("provenance", Json.string receipt.provenance.value),
    ("receipt_hash", "null"),
    ("receipt_id", Json.string receipt.receiptId.root),
    ("source_artifact", receipt.sourceArtifact.json),
    ("visible_through", optionalJson NarrativePosition.json receipt.visibleThrough)])

def BoundaryPropagationReceipt.contentHash (receipt : BoundaryPropagationReceipt) : ArtifactId :=
  digest (Json.object [
    ("base_commit", Json.string receipt.baseCommit.root),
    ("boundary_id", Json.string receipt.boundaryId.root),
    ("builder_policy_hash", Json.string receipt.builderPolicyHash.root),
    ("effective_access_scope", Json.string receipt.effectiveAccessScope.value),
    ("effective_visible_through",
      optionalJson NarrativePosition.json receipt.effectiveVisibleThrough),
    ("input_derivation_receipt_refs",
      Json.array (receipt.inputDerivationReceiptRefs.map ArtifactRef.json)),
    ("input_source_artifact_refs",
      Json.array (receipt.inputSourceArtifactRefs.map ArtifactRef.json)),
    ("output_artifact_hash", Json.string receipt.outputArtifactHash.root),
    ("receipt_hash", "null"),
    ("receipt_id", Json.string receipt.receiptId.root),
    ("source_visibility_receipt_refs",
      Json.array (receipt.sourceVisibilityReceiptRefs.map ArtifactRef.json))])

end NovelAgent.Domain
