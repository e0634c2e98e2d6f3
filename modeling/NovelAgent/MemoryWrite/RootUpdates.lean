import NovelAgent.Domain.WriteWorkflow

/-!
# Root Updates

How a candidate becomes a bundle of proposed roots.
-/

namespace NovelAgent.MemoryWrite

open Domain

/-- What is materialized. -/
structure RootMaterializationResult where
  materialization : CandidateMaterialization
  bundle : CandidateChangeBundle
  worldMutationNoop : Bool
  changedRootKinds : List RootKind

/-- What the materializer needs from others: the payload of a candidate artifact, the stored world
    that operations make of a world together with whether its root hash stayed the same, and the
    hash and the receipt of a materialization. -/
structure RootUpdateMaterializer where
  loadPayload : ArtifactRef → Option MemoryWriteCandidatePayload
  applyWorld : ArtifactRef → ObservedChangeSet → Except String (ArtifactRef × Bool)
  manifestHash : RootManifest → ArtifactId
  receipt : CandidateRevision → CandidateChangeBundle → ArtifactRef

def rootForKind (manifest : RootManifest) : RootKind → ArtifactRef
  | .text => manifest.textRoot
  | .plan => manifest.planRoot
  | .world => manifest.worldRoot
  | .reference => manifest.referenceRoot
  | .projectProfile => manifest.projectProfileRoot

def replaceRoot (manifest : RootManifest) (root : ArtifactRef) : RootKind → RootManifest
  | .text => { manifest with textRoot := root }
  | .plan => { manifest with planRoot := root }
  | .world => { manifest with worldRoot := root }
  | .reference => { manifest with referenceRoot := root }
  | .projectProfile => { manifest with projectProfileRoot := root }

def RootKind.value : RootKind → String
  | .text => "text"
  | .plan => "plan"
  | .world => "world"
  | .reference => "reference"
  | .projectProfile => "project_profile"

/-- The manifest so far, the kinds whose root was replaced by another, and the
    artifacts that were brought in. -/
structure ProposedRoots where
  manifest : RootManifest
  changedRootKinds : List RootKind
  producedArtifacts : List ArtifactRef

/-- What the intents make of the roots. Each is checked against the roots that
    the ones before it left. -/
def applyIntents : List RootUpdateIntent → ProposedRoots → Except String ProposedRoots
  | [], proposed => .ok proposed
  | intent :: intents, proposed =>
    let baseRoot := rootForKind proposed.manifest intent.rootKind
    if baseRoot ≠ intent.expectedBaseRoot then
      .error s!"{RootKind.value intent.rootKind} intent is not bound to the canonical base root"
    else if intent.updateKind = .noop then applyIntents intents proposed
    else
      let changed := intent.updateArtifact.artifactId ≠ baseRoot.artifactId
      applyIntents intents
        { manifest := replaceRoot proposed.manifest intent.updateArtifact intent.rootKind
          changedRootKinds := if changed then proposed.changedRootKinds ++ [intent.rootKind]
            else proposed.changedRootKinds
          producedArtifacts :=
            if changed then proposed.producedArtifacts ++ [intent.updateArtifact]
            else proposed.producedArtifacts }

namespace RootUpdateMaterializer

variable (materializer : RootUpdateMaterializer)

/-- The roots after the world operations, and whether the world stayed as it
    was. The operations are applied to the world of the basis. -/
def applyOperations (basis : CanonicalWriteBasis) (changes : ObservedChangeSet)
    (proposed : ProposedRoots) : Except String (ProposedRoots × Bool) :=
  if changes.operations.isEmpty then .ok (proposed, true)
  else
    match basis.canonicalWorld with
    | none => .error "World operations require a verified canonical WorldRoot"
    | some world =>
      match materializer.applyWorld world changes with
      | .error message => .error message
      | .ok (worldRef, noop) =>
        if worldRef.artifactId ≠ basis.rootManifest.worldRoot.artifactId then
          .ok ({ manifest := { proposed.manifest with worldRoot := worldRef }
                 changedRootKinds := proposed.changedRootKinds ++ [.world]
                 producedArtifacts := proposed.producedArtifacts ++ [worldRef] }, noop)
        else .ok (proposed, noop)

/-- Materialize the intents and the world changes of a candidate as one bundle. -/
def materializeAtomicBundle (candidate : CandidateRevision) (basis : CanonicalWriteBasis) :
    Except String RootMaterializationResult := do
  if candidate.baseCommit ≠ basis.commitId then
    .error "candidate and canonical basis commits differ"
  else
    match materializer.loadPayload candidate.candidateArtifact with
    | none => .error "candidate payload cannot be loaded"
    | some payload =>
      if payload.observedChanges.baseCommit ≠ basis.commitId then
        .error "candidate change set has another base commit"
      else
        let intended ← applyIntents payload.rootUpdateIntents ⟨basis.rootManifest, [], []⟩
        let (roots, noop) ←
          materializer.applyOperations basis payload.observedChanges intended
        let proposed := { roots.manifest with parentCommitIds := [basis.commitId] }
        match StableId.ofString? ("bundle." ++ candidate.candidateId.root),
            StableId.ofString? ("run.memory-write." ++
              String.ofList (candidate.candidateId.root.toList.take 80)) with
        | some bundleId, some runId =>
          let bundle : CandidateChangeBundle :=
            { bundleId := bundleId
              projectId := basis.projectId
              runId := runId
              baseCommit := basis.commitId
              observedChanges := payload.observedChanges
              proposedRoots := proposed
              producedArtifacts := roots.producedArtifacts }
          .ok
            { materialization :=
                { candidateId := candidate.candidateId
                  candidateContentHash := candidate.contentHash
                  proposedRootsHash := materializer.manifestHash proposed
                  materializationReceipt := materializer.receipt candidate bundle
                  bundle := some bundle }
              bundle := bundle
              worldMutationNoop := noop
              changedRootKinds := roots.changedRootKinds.eraseDups }
        | _, _ => .error "1 validation error for StableId"

end RootUpdateMaterializer

end NovelAgent.MemoryWrite
