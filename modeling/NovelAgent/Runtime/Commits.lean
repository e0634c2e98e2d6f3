import NovelAgent.Runtime.Database

/-!
# The Commit Service

The optimistic project commit with idempotent receipts.
-/

namespace NovelAgent.Runtime

open Core Domain

/-- Store a commit and enqueue its projection. -/
def insertCommit (commitId : CommitId) (row : CommitRow) : Tx Unit := do
  let db ← get
  Transaction.raiseWhen (db.canon.commits.lookup commitId).isSome (.integrity "project_commit_pkey")
  Transaction.raiseWhen (db.canon.outbox.lookup commitId).isSome (.integrity "projection_outbox_pkey")
  modify fun db => { db with canon := { db.canon with
    commits := db.canon.commits.insert commitId row
    outbox := db.canon.outbox.insert commitId row.projectId } }

def moveProject (projectId : ProjectId) (commitId : CommitId) : Tx Unit :=
  modify fun db => { db with canon := { db.canon with
    projects := db.canon.projects.insert projectId (some commitId) } }

/-- Create a project at its genesis manifest. -/
def initializeProject (manifest : RootManifest) : Tx CommitId := do
  Transaction.raiseWhen (manifest.parentCommitIds ≠ [])
    (.value "genesis manifest cannot have parent commits")
  let commitId := manifestCommitId manifest
  let db ← get
  Transaction.raiseWhen (db.canon.projects.lookup manifest.projectId).isSome
    (.projectAlreadyExists manifest.projectId.root)
  moveProject manifest.projectId commitId
  insertCommit commitId
    { projectId := manifest.projectId
      baseCommitId := none
      manifest := manifest }
  pure commitId

/-- The first way in which a request and its bundle do not fit together. -/
def invalidReason (request : CommitRequest) : Option String :=
  let bundle := request.bundle
  let report := request.validationReport
  if bundle.projectId ≠ request.projectId then
    some "bundle project does not match request project"
  else if bundle.baseCommit ≠ request.baseCommit then
    some "bundle base commit does not match request"
  else if bundle.observedChanges.baseCommit ≠ request.baseCommit then
    some "observed change base commit does not match request"
  else if report.bundleId ≠ bundle.bundleId then
    some "validation report does not reference the bundle"
  else if report.status ≠ .passed then
    some "validation report has not passed"
  else if bundle.proposedRoots.projectId ≠ request.projectId then
    some "proposed roots belong to another project"
  else if bundle.proposedRoots.parentCommitIds ≠ [request.baseCommit] then
    some "proposed roots must have exactly the base commit as parent"
  else none

/-- Why a request does not fit its own bundle. -/
def validateRequest (request : CommitRequest) : Option CommitResult :=
  (invalidReason request).map (CommitResult.reject request.requestId)

/-- Record the outcome under the request's idempotency key. -/
def recordResult (request : CommitRequest) (result : CommitResult) : Tx CommitResult := do
  modify fun db => { db with canon := { db.canon with
    receipts := db.canon.receipts.insert (request.projectId, request.idempotencyKey) result } }
  pure result

/-- The commit primitive inside a caller's transaction. -/
def commitInSession (env : Env) (request : CommitRequest) : Tx CommitResult := do
  let db ← get
  let currentCommitId ← Transaction.fromOption (.projectNotFound request.projectId.root)
    (db.canon.projects.lookup request.projectId)
  match db.canon.receipts.lookup (request.projectId, request.idempotencyKey) with
  | some existing => pure existing
  | none =>
    match validateRequest request with
    | some rejection => recordResult request rejection
    | none =>
      if currentCommitId ≠ some request.baseCommit then
        recordResult request
          (CommitResult.conflict request.requestId
            "base commit is not the current project commit")
      else do
        let manifest := request.bundle.proposedRoots
        let commitId := manifestCommitId manifest
        insertCommit commitId
          { projectId := request.projectId
            baseCommitId := some request.baseCommit
            manifest := manifest }
        moveProject request.projectId commitId
        recordResult request
          (CommitResult.accept request.requestId commitId manifest env.committedAt)

/-- The manifest of a stored commit. -/
def loadManifest (commitId : CommitId) : Tx RootManifest := do
  let db ← get
  let row ← Transaction.fromOption (.projectNotFound commitId.root) (db.canon.commits.lookup commitId)
  pure row.manifest

end NovelAgent.Runtime
