import NovelAgent.Core.Table
import NovelAgent.Domain.Boundary

/-!
# The Information Boundary Port

Fail-closed verification of what a derived artifact was built from.
-/

namespace NovelAgent.MemoryWrite

open Core Domain

/-- Why a verification did not accept. -/
inductive BoundaryError
  | violation (message : String)
  | outOfFuel
deriving DecidableEq

/-- Refuse when a condition holds. -/
def refuse (bad : Prop) [Decidable bad] (message : String) : Except BoundaryError Unit :=
  if bad then .error (.violation message) else .ok ()

/-- What the artifact store can be asked: whether a reference verifies, and the
    receipt that a verified artifact holds. -/
structure ArtifactReader where
  readVerified : ArtifactRef → Bool
  receipts : Table ArtifactId BoundaryPropagationReceipt

/-- A source is registered for one boundary. The second form is the index of
    older adapters, which nothing writes any more. -/
inductive VisibilityKey
  | scoped (artifactId : ArtifactId) (boundaryId : StableId)
  | legacy (artifactId : ArtifactId)
deriving DecidableEq

/-- The registered receipts. Visibility receipts are searched in the order
    they were registered in. -/
structure BoundaryPort where
  artifactReader : Option ArtifactReader
  trustedPolicyHashes : List ArtifactId
  visibilityBySource : List (VisibilityKey × SourceVisibilityReceipt)
  derivationByReceipt : Table ArtifactId BoundaryPropagationReceipt
  derivationArtifactByOutput : Table ArtifactId ArtifactId
  outputRefByArtifact : Table ArtifactId ArtifactRef

namespace BoundaryPort

/-- The receipt stored under a key. -/
def visibility (port : BoundaryPort) (key : VisibilityKey) : Option SourceVisibilityReceipt :=
  (port.visibilityBySource.find? fun entry => entry.1 = key).map Prod.snd

def validateReceiptHash (receipt : BoundaryPropagationReceipt) : Except BoundaryError Unit :=
  refuse (receipt.receiptHash ≠ receipt.contentHash) "propagation receipt hash is invalid"

def verifyBuilderPolicy (port : BoundaryPort) (policyHash : ArtifactId) :
    Except BoundaryError Unit :=
  refuse (policyHash ∉ port.trustedPolicyHashes) "derivation builder policy is not trusted"

/-- The all-zero address that stands for no artifact. -/
def zeroArtifact : ArtifactId where
  root := "sha256:" ++ String.ofList (List.replicate 64 '0')
  valid := .refl true

/-- The registered receipt of a reference, by its own address or by the output it describes. -/
def registeredDerivation (port : BoundaryPort) (reference : ArtifactRef) :
    Option BoundaryPropagationReceipt :=
  (port.derivationByReceipt.lookup reference.artifactId).or
    (port.derivationByReceipt.lookup
      ((port.derivationArtifactByOutput.lookup reference.artifactId).getD zeroArtifact))

/-- A receipt that is not registered is read from the artifact store. -/
def storedDerivation (port : BoundaryPort) (reference : ArtifactRef) :
    Except BoundaryError BoundaryPropagationReceipt :=
  match port.artifactReader with
  | none => .error (.violation "missing propagation receipt")
  | some reader =>
    match reader.receipts.lookup reference.artifactId with
    | some receipt =>
      if reader.readVerified reference = true then .ok receipt
      else .error (.violation "propagation receipt cannot be read")
    | none => .error (.violation "propagation receipt cannot be read")

/-- The receipt behind a reference, as it was found. -/
def findDerivation (port : BoundaryPort) (reference : ArtifactRef) :
    Except BoundaryError BoundaryPropagationReceipt :=
  match port.registeredDerivation reference with
  | some receipt => .ok receipt
  | none => port.storedDerivation reference

/-- The receipt behind a reference. -/
def resolveDerivation (port : BoundaryPort) (reference : ArtifactRef) :
    Except BoundaryError BoundaryPropagationReceipt := do
  let receipt ← port.findDerivation reference
  validateReceiptHash receipt
  pure receipt

/-- The first registered visibility receipt with the hash of a reference. -/
def resolveVisibilityReceipt (port : BoundaryPort) (boundary : InformationBoundary)
    (reference : ArtifactRef) : Except BoundaryError SourceVisibilityReceipt :=
  match port.visibilityBySource.find? fun entry => entry.2.receiptHash = reference.artifactId with
  | none => .error (.violation "unknown source visibility receipt artifact")
  | some (_, receipt) =>
    if receipt.boundaryId ≠ boundary.boundaryId then
      .error (.violation "visibility receipt crosses boundary")
    else .ok receipt

/-- A position that is not given passes on either side. -/
def positionWithin (value maximum : Option NarrativePosition) : Bool :=
  match value, maximum with
  | some value, some maximum => decide (positionKey value ≤ positionKey maximum)
  | _, _ => true

/-- A derived scope is allowed, and not wider than what it is derived from. -/
def verifyScope (boundary : InformationBoundary) (effective : AccessScope)
    (parents : List AccessScope) : Except BoundaryError Unit := do
  refuse (boundary.evaluatorSourcesForbidden = true ∧ effective = .evaluator)
    "evaluator scope is forbidden by the boundary"
  refuse (parents.any fun parent => scopeWidth parent < scopeWidth effective)
    "derivation widens access scope"

/-- A source may be read under the boundary. A derived output may not reach
    further than the source; a plain request may not ask for less than it. -/
def verifyVisibility (boundary : InformationBoundary) (receipt : SourceVisibilityReceipt)
    (requestedScope : AccessScope) (derivedPosition : Option NarrativePosition)
    (derivedOutput : Bool) : Except BoundaryError Unit := do
  refuse (receipt.boundaryId ≠ boundary.boundaryId)
    "source visibility receipt has the wrong boundary"
  refuse (boundary.evaluatorSourcesForbidden = true ∧ receipt.accessScope = .evaluator)
    "evaluator-only source is forbidden by this boundary"
  refuse (positionWithin receipt.visibleThrough boundary.maximumVisiblePosition = false)
    "source visibility exceeds the workflow cutoff"
  refuse (positionWithin derivedPosition receipt.visibleThrough = false)
    "derived artifact exceeds source visibility"
  if derivedOutput = true then verifyScope boundary requestedScope [receipt.accessScope]
  else verifyScope boundary receipt.accessScope [requestedScope]

/-- The reference that an artifact is verified by. A placeholder stands for
    the output it was registered with. -/
def metadataRef (port : BoundaryPort) (artifact : ArtifactRef) : ArtifactRef :=
  if artifact.byteLength = 0 ∧ artifact.mediaType = "application/octet-stream" then
    (port.outputRefByArtifact.lookup artifact.artifactId).getD artifact
  else artifact

/-- Verify an artifact's content, where there is a store to read it from. -/
def verifyArtifactHash (port : BoundaryPort) (artifact : ArtifactRef) :
    Except BoundaryError Unit :=
  match port.artifactReader with
  | none => .ok ()
  | some reader => do
      let verified := port.metadataRef artifact
      refuse (artifact.byteLength = 0 ∧ artifact.mediaType = "application/octet-stream" ∧
          verified.byteLength = 0)
        "derivation output metadata is unavailable for artifact verification"
      refuse (reader.readVerified verified = false)
        ("artifact hash or metadata verification failed: " ++ verified.artifactId.root ++ " (" ++
          verified.mediaType ++ ")")

/-- The visibility receipt of a source under a boundary. -/
def visibilityFor (port : BoundaryPort) (boundary : InformationBoundary) (source : ArtifactRef) :
    Option SourceVisibilityReceipt :=
  (port.visibility (.scoped source.artifactId boundary.boundaryId)).or
    (port.visibility (.legacy source.artifactId))

/-- The check of one source of a derivation. -/
def verifySource (port : BoundaryPort) (boundary : InformationBoundary)
    (receipt : BoundaryPropagationReceipt) (source : ArtifactRef) : Except BoundaryError Unit :=
  match port.visibilityFor boundary source with
  | none => .error (.violation "derivation has a source leaf without visibility receipt")
  | some visibility => do
      refuse (visibility.boundaryId ≠ boundary.boundaryId)
        "derivation source crosses information boundaries"
      verifyVisibility boundary visibility receipt.effectiveAccessScope
        receipt.effectiveVisibleThrough true
      port.verifyArtifactHash source

/-- The same addresses, in any order and number. -/
def sameArtifacts (left right : List ArtifactId) : Bool :=
  left.all right.contains && right.all left.contains

/-- The checks of one receipt that need nothing but the receipt. -/
def verifyReceipt (port : BoundaryPort) (boundary : InformationBoundary)
    (receipt : BoundaryPropagationReceipt) (artifact : ArtifactRef)
    (expectedBuilderPolicy : Option ArtifactId) : Except BoundaryError Unit := do
  refuse (receipt.boundaryId ≠ boundary.boundaryId)
    "derivation receipt belongs to another boundary"
  refuse (receipt.baseCommit ≠ boundary.baseCommit)
    "derivation receipt base commit differs from boundary"
  refuse (receipt.outputArtifactHash ≠ artifact.artifactId)
    "derivation output hash differs from artifact"
  refuse (expectedBuilderPolicy.any fun expected => receipt.builderPolicyHash ≠ expected)
    "derivation builder policy is not the intent policy"
  port.verifyBuilderPolicy receipt.builderPolicyHash
  port.verifyArtifactHash artifact
  refuse (positionWithin receipt.effectiveVisibleThrough boundary.maximumVisiblePosition = false)
    "derived artifact exceeds the visible narrative position"
  verifyScope boundary receipt.effectiveAccessScope []
  let resolved ← receipt.sourceVisibilityReceiptRefs.mapM (port.resolveVisibilityReceipt boundary)
  refuse (sameArtifacts (resolved.map fun item => item.sourceArtifact.artifactId)
      (receipt.inputSourceArtifactRefs.map ArtifactRef.artifactId) = false)
    "derivation visibility receipts do not exactly cover source inputs"
  receipt.inputSourceArtifactRefs.forM (port.verifySource boundary receipt)

/-- The reference a receipt's output is verified by when it is only known through the receipt. -/
def outputRef (port : BoundaryPort) (receipt : BoundaryPropagationReceipt) : ArtifactRef :=
  (port.outputRefByArtifact.lookup receipt.outputArtifactHash).getD
    { artifactId := receipt.outputArtifactHash
      mediaType := "application/octet-stream"
      byteLength := 0
      schemaVersion := ⟨"0.1.0", .refl true⟩ }

/-- A receipt may not reach further than one it was derived from. -/
def verifyNarrows (boundary : InformationBoundary) (receipt parent : BoundaryPropagationReceipt) :
    Except BoundaryError Unit := do
  refuse (positionWithin receipt.effectiveVisibleThrough parent.effectiveVisibleThrough = false)
    "derivation widens visible narrative position"
  verifyScope boundary receipt.effectiveAccessScope [parent.effectiveAccessScope]

/-- Verify a receipt and everything it was derived from. `visited` are the
    hashes of the receipts on the path to this one. -/
def verifyDerivation (port : BoundaryPort) (boundary : InformationBoundary) :
    Nat → BoundaryPropagationReceipt → ArtifactRef → Option ArtifactId → List ArtifactId →
      Except BoundaryError Unit
  | 0, _, _, _, _ => .error .outOfFuel
  | fuel + 1, receipt, artifact, expectedBuilderPolicy, visited => do
      refuse (receipt.receiptHash ∈ visited) "derivation receipt graph contains a cycle"
      port.verifyReceipt boundary receipt artifact expectedBuilderPolicy
      receipt.inputDerivationReceiptRefs.forM fun reference => do
        let parent ← port.resolveDerivation reference
        verifyDerivation port boundary fuel parent (port.outputRef parent) none
          (receipt.receiptHash :: visited)
        verifyNarrows boundary receipt parent

/-- Every receipt that a reference can resolve to. -/
def receipts (port : BoundaryPort) : List BoundaryPropagationReceipt :=
  port.derivationByReceipt.entries.map Sigma.snd ++
    match port.artifactReader with
    | none => []
    | some reader => reader.receipts.entries.map Sigma.snd

/-- Verify the receipt of an artifact with a given bound on the walk. -/
def verifyDerivationChainWith (port : BoundaryPort) (fuel : Nat)
    (artifact producerReceipt : ArtifactRef) (boundary : InformationBoundary)
    (expectedBuilderPolicy : Option ArtifactId) :
    Except BoundaryError BoundaryPropagationReceipt := do
  let receipt ← port.resolveDerivation producerReceipt
  port.verifyDerivation boundary fuel receipt artifact expectedBuilderPolicy []
  pure receipt

/-- Verify the receipt of an artifact. A path meets no receipt twice, so one
    more step than there are receipts is as good as no bound. -/
def verifyDerivationChain (port : BoundaryPort) (artifact producerReceipt : ArtifactRef)
    (boundary : InformationBoundary) (expectedBuilderPolicy : Option ArtifactId) :
    Except BoundaryError BoundaryPropagationReceipt :=
  port.verifyDerivationChainWith (port.receipts.length + 1) artifact producerReceipt boundary
    expectedBuilderPolicy

end BoundaryPort

end NovelAgent.MemoryWrite
