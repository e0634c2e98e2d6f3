import NovelAgent.Core.Json
import NovelAgent.Domain.Ids

/-!
# Artifacts, Changes and Commits

The immutable references that canon is made of, and the request that advances
it.
-/

namespace NovelAgent.Domain

open Core

/-- A point in time, in microseconds. -/
abbrev Time := Nat

/-- A content-addressed reference. -/
structure ArtifactRef where
  artifactId : ArtifactId
  mediaType : String
  byteLength : Nat
  schemaVersion : SchemaVersion
deriving DecidableEq

/-- The canonical roots of a project and the commits they were built on. -/
structure RootManifest where
  projectId : ProjectId
  schemaVersion : SchemaVersion
  textRoot : ArtifactRef
  planRoot : ArtifactRef
  worldRoot : ArtifactRef
  referenceRoot : ArtifactRef
  projectProfileRoot : ArtifactRef
  parentCommitIds : List CommitId
deriving DecidableEq

/-- A root reference as JSON with its keys sorted. -/
def ArtifactRef.rootJson (ref : ArtifactRef) (rootKind : String) : String :=
  Json.object [
    ("artifact_id", Json.string ref.artifactId.root),
    ("byte_length", Json.number ref.byteLength),
    ("media_type", Json.string ref.mediaType),
    ("root_kind", Json.string rootKind),
    ("schema_version", Json.string ref.schemaVersion.root)]

/-- A manifest as JSON with its keys sorted. -/
def RootManifest.json (manifest : RootManifest) : String :=
  Json.object [
    ("parent_commit_ids", Json.array (manifest.parentCommitIds.map fun id => Json.string id.root)),
    ("plan_root", manifest.planRoot.rootJson "plan"),
    ("project_id", Json.string manifest.projectId.root),
    ("project_profile_root", manifest.projectProfileRoot.rootJson "project_profile"),
    ("reference_root", manifest.referenceRoot.rootJson "reference"),
    ("schema_version", Json.string manifest.schemaVersion.root),
    ("text_root", manifest.textRoot.rootJson "text"),
    ("world_root", manifest.worldRoot.rootJson "world")]

/-- The commit a manifest is: the content address of its JSON. -/
def manifestCommitId (manifest : RootManifest) : CommitId :=
  digest manifest.json

/-- One operation on a canonical record. What it does is its payload. -/
structure ChangeOperation where
  operationId : StableId
  targetId : StableId
  payload : String
deriving DecidableEq

/-- Operations on one base. -/
structure ObservedChangeSet where
  changeSetId : StableId
  baseCommit : CommitId
  sourceArtifact : ArtifactRef
  operations : List ChangeOperation
deriving DecidableEq

/-- A candidate: observed changes and the roots they propose. -/
structure CandidateChangeBundle where
  bundleId : StableId
  projectId : ProjectId
  runId : RunId
  baseCommit : CommitId
  observedChanges : ObservedChangeSet
  proposedRoots : RootManifest
  producedArtifacts : List ArtifactRef
deriving DecidableEq

/-- The verdicts. -/
inductive ValidationStatus
  | passed
  | failed
  | needsReview
deriving DecidableEq

/-- A verdict on a bundle. -/
structure ValidationReport where
  reportId : StableId
  bundleId : StableId
  status : ValidationStatus
deriving DecidableEq

/-- A request to make a validated bundle canonical. -/
structure CommitRequest where
  requestId : StableId
  projectId : ProjectId
  baseCommit : CommitId
  idempotencyKey : StableId
  bundle : CandidateChangeBundle
  validationReport : ValidationReport
deriving DecidableEq

/-- The answers to a commit. -/
inductive CommitStatus
  | accepted
  | rejected
  | conflicted
deriving DecidableEq

/-- The outcome of a commit request. An acceptance carries the commit, the
    manifest and the time; anything else carries a reason. -/
structure CommitResult where
  requestId : StableId
  status : CommitStatus
  commitId : Option CommitId
  manifest : Option RootManifest
  reason : Option String
  committedAt : Option Time
  outcome : (if status = .accepted then
      commitId.isSome && manifest.isSome && committedAt.isSome else reason.isSome) = true
deriving DecidableEq

namespace CommitResult

/-- The outcome of a request whose bundle became canonical. -/
def accept (requestId : StableId) (commitId : CommitId) (manifest : RootManifest)
    (committedAt : Time) : CommitResult where
  requestId := requestId
  status := .accepted
  commitId := some commitId
  manifest := some manifest
  reason := none
  committedAt := some committedAt
  outcome := rfl

/-- The outcome of a request whose contents do not fit together. -/
def reject (requestId : StableId) (reason : String) : CommitResult where
  requestId := requestId
  status := .rejected
  commitId := none
  manifest := none
  reason := some reason
  committedAt := none
  outcome := rfl

/-- The outcome of a request that was overtaken. -/
def conflict (requestId : StableId) (reason : String) : CommitResult where
  requestId := requestId
  status := .conflicted
  commitId := none
  manifest := none
  reason := some reason
  committedAt := none
  outcome := rfl

end CommitResult

end NovelAgent.Domain
