import Mathlib.Data.List.Sort
import NovelAgent.Core.Run
import NovelAgent.Domain.Ids

/-!
# The Projection Outbox

The rows that workers lease, project and complete, with the transactions they do it in.
-/

namespace NovelAgent.Projection

open Core Domain

/-- How far a row is. -/
inductive OutboxStatus
  | pending
  | processing
  | completed
  | failed
deriving DecidableEq

/-- A row of `projection_outbox`. -/
structure OutboxRow where
  outboxId : String
  projectId : ProjectId
  sourceCommit : CommitId
  status : OutboxStatus
  attemptCount : Nat
  lastError : Option String
  claimedBy : Option String
  leaseExpiresAt : Option Int
  createdAt : Int
deriving DecidableEq

/-- How far a snapshot is. -/
inductive DerivedBuildStatus
  | building
  | exact
  | incomplete
  | failed
deriving DecidableEq

/-- A snapshot that a builder returned. The document is its JSON form. -/
structure DerivedSnapshotLite where
  snapshotId : StableId
  sourceCommit : CommitId
  buildStatus : DerivedBuildStatus
  publishedAt : Option Int
  document : String

/-- A row of `derived_snapshot`. -/
structure DerivedSnapshotRow where
  snapshotId : StableId
  projectId : ProjectId
  sourceCommit : CommitId
  buildStatus : DerivedBuildStatus
  snapshotJson : String
  publishedAt : Option Int

/-- Why a call raised. -/
inductive OutboxError where
  | invalidClaim
  | notExact
  | notPublished
  | unknownOutbox (outboxId : String)
  | notProcessing (outboxId : String)
  | ownedByAnother (outboxId : String)
  | commitMismatch
  | differentSnapshot
  | integrity

/-- What a call is going to write beside the status of its row. -/
inductive CallWrite where
  | insertSnapshot (row : DerivedSnapshotRow)
  | updateSnapshot (row : DerivedSnapshotRow)
  | failure (lastError : String)

/-- A call that has read and checked its row and is yet to commit. -/
structure OpenCall where
  worker : String
  outboxId : String
  write : CallWrite

/-- The two tables, and the calls between their read and their commit. -/
structure ProjectionStore where
  outbox : List OutboxRow
  snapshots : List DerivedSnapshotRow
  calls : List OpenCall

/-- No row and no call. -/
def ProjectionStore.empty : ProjectionStore := ⟨[], [], []⟩

/-- The row may be taken: nobody works at it, or the lease of who does is over. -/
def OutboxRow.Claimable (row : OutboxRow) (now : Int) : Prop :=
  row.status = .pending ∨ row.status = .failed ∨
    row.status = .processing ∧ ∃ expires ∈ row.leaseExpiresAt, expires < now

instance (row : OutboxRow) (now : Int) : Decidable (row.Claimable now) := by
  unfold OutboxRow.Claimable
  infer_instance

def OutboxRow.Before (a b : OutboxRow) : Prop :=
  a.createdAt < b.createdAt ∨ a.createdAt = b.createdAt ∧ a.outboxId ≤ b.outboxId

instance : DecidableRel OutboxRow.Before := fun a b =>
  inferInstanceAs (Decidable (a.createdAt < b.createdAt ∨
    a.createdAt = b.createdAt ∧ a.outboxId ≤ b.outboxId))

/-- The row of a worker that took it. -/
def OutboxRow.claimed (row : OutboxRow) (worker : String) (expires : Int) : OutboxRow :=
  { row with
    status := .processing
    attemptCount := row.attemptCount + 1
    lastError := none
    claimedBy := some worker
    leaseExpiresAt := some expires }

def OutboxRow.settled (row : OutboxRow) : CallWrite → OutboxRow
  | .failure lastError =>
    { row with
      status := .failed
      lastError := some lastError
      claimedBy := none
      leaseExpiresAt := none }
  | _ => { row with status := .completed, claimedBy := none, leaseExpiresAt := none }

/-- Write to the row under a key. -/
def updateRow (outboxId : String) (change : OutboxRow → OutboxRow) (outbox : List OutboxRow) :
    List OutboxRow :=
  outbox.map fun row => if row.outboxId = outboxId then change row else row

namespace ProjectionStore

variable (s : ProjectionStore)

/-- A commit queues its projection. Neither the key nor the commit may be there. -/
def enqueue (projectId : ProjectId) (sourceCommit : CommitId) (createdAt : Int) :
    Except OutboxError ProjectionStore :=
  let outboxId := "projection." ++ String.ofList (sourceCommit.root.toList.drop 7)
  if s.outbox.any fun row => row.outboxId = outboxId ∨ row.sourceCommit = sourceCommit then
    throw .integrity
  else
    pure { s with
      outbox := s.outbox ++
        [⟨outboxId, projectId, sourceCommit, .pending, 0, none, none, none, createdAt⟩] }

/-- The row that a claim takes: the first that may be taken and is not locked. -/
def nextRow (projectId : Option ProjectId) (now : Int) (locked : List String) :
    Option OutboxRow :=
  ((s.outbox.filter fun row => row.Claimable now ∧ (∀ id ∈ projectId, row.projectId = id) ∧
    row.outboxId ∉ locked).insertionSort OutboxRow.Before).head?

def callOf (worker : String) : Option OpenCall :=
  s.calls.find? fun call => call.worker = worker

/-- Take a row. -/
def claimNext (worker : String) (leaseSeconds : Int) (projectId : Option ProjectId) (now : Int)
    (locked : List String) : Except OutboxError (Option OutboxRow × ProjectionStore) :=
  if worker = "" ∨ leaseSeconds < 1 then throw .invalidClaim
  else
    match s.nextRow projectId now locked with
    | none => pure (none, s)
    | some row =>
      let expires := now + leaseSeconds
      pure (some (row.claimed worker expires),
        { s with outbox := updateRow row.outboxId (·.claimed worker expires) s.outbox })

/-- The row that the worker is said to be processing. -/
def requireProcessing (outboxId worker : String) : Except OutboxError OutboxRow :=
  match s.outbox.find? fun row => row.outboxId = outboxId with
  | none => throw (.unknownOutbox outboxId)
  | some row =>
    if row.status ≠ .processing then throw (.notProcessing outboxId)
    else if row.claimedBy ≠ some worker then throw (.ownedByAnother outboxId)
    else pure row

/-- A completion, up to its last read. -/
def beginComplete (outboxId : String) (snapshot : DerivedSnapshotLite) (worker : String) :
    Except OutboxError ProjectionStore := do
  if snapshot.buildStatus ≠ .exact then throw .notExact
  if snapshot.publishedAt = none then throw .notPublished
  let row ← s.requireProcessing outboxId worker
  if snapshot.sourceCommit ≠ row.sourceCommit then throw .commitMismatch
  let payload : DerivedSnapshotRow :=
    ⟨snapshot.snapshotId, row.projectId, row.sourceCommit, snapshot.buildStatus,
      snapshot.document, snapshot.publishedAt⟩
  match s.snapshots.find? fun existing => existing.sourceCommit = row.sourceCommit with
  | none =>
    pure { s with calls := s.calls ++ [⟨worker, outboxId, .insertSnapshot payload⟩] }
  | some existing =>
    if existing.snapshotId ≠ snapshot.snapshotId then throw .differentSnapshot
    else pure { s with calls := s.calls ++ [⟨worker, outboxId, .updateSnapshot payload⟩] }

def errorText (text typeName : String) : String :=
  let kept := String.ofList (text.toList.take 2048)
  if kept = "" then typeName else kept

/-- A failure, up to its read. -/
def beginFail (outboxId text typeName worker : String) : Except OutboxError ProjectionStore := do
  let _ ← s.requireProcessing outboxId worker
  pure { s with calls := s.calls ++ [⟨worker, outboxId, .failure (errorText text typeName)⟩] }

/-- The snapshots after the write of a call, unless a constraint of the table or a
    vanished row refuses it. -/
def writeSnapshot : CallWrite → Except OutboxError (List DerivedSnapshotRow)
  | .failure _ => pure s.snapshots
  | .insertSnapshot row =>
    if s.snapshots.any fun other =>
        other.snapshotId = row.snapshotId ∨ other.sourceCommit = row.sourceCommit then
      throw .integrity
    else pure (s.snapshots ++ [row])
  | .updateSnapshot row =>
    if s.snapshots.any fun other => other.snapshotId = row.snapshotId then
      pure (s.snapshots.map fun other =>
        if other.snapshotId = row.snapshotId then
          { other with
            buildStatus := row.buildStatus
            snapshotJson := row.snapshotJson
            publishedAt := row.publishedAt }
        else other)
    else throw .integrity

/-- The call of a worker is over. -/
def close (worker : String) : ProjectionStore :=
  { s with calls := s.calls.filter fun call => call.worker ≠ worker }

/-- The transaction that commits. -/
def commitCall (call : OpenCall) : Except OutboxError ProjectionStore := do
  let snapshots ← s.writeSnapshot call.write
  pure { s with
    outbox := updateRow call.outboxId (·.settled call.write) s.outbox
    snapshots := snapshots }

/-- What a transaction leaves behind. -/
def settle (outcome : Except OutboxError ProjectionStore) : ProjectionStore :=
  match outcome with
  | .ok s' => s'
  | .error _ => s

end ProjectionStore

/-- One step of the system. -/
inductive Command where
  | enqueue (projectId : ProjectId) (sourceCommit : CommitId) (createdAt : Int)
  | claimNext (worker : String) (leaseSeconds : Int) (projectId : Option ProjectId) (now : Int)
      (locked : List String)
  | complete (outboxId : String) (snapshot : DerivedSnapshotLite) (worker : String)
  | fail (outboxId text typeName worker : String)
  | commit (worker : String)
  | rollback (worker : String)

/-- The steps of the workers. -/
def step (s : ProjectionStore) : Command → ProjectionStore
  | .enqueue projectId sourceCommit createdAt =>
    s.settle (s.enqueue projectId sourceCommit createdAt)
  | .claimNext worker leaseSeconds projectId now locked =>
    if (s.callOf worker).isSome then s
    else s.settle ((s.claimNext worker leaseSeconds projectId now locked).map Prod.snd)
  | .complete outboxId snapshot worker =>
    if (s.callOf worker).isSome then s
    else s.settle (s.beginComplete outboxId snapshot worker)
  | .fail outboxId text typeName worker =>
    if (s.callOf worker).isSome then s
    else s.settle (s.beginFail outboxId text typeName worker)
  | .commit worker =>
    match s.callOf worker with
    | none => s
    | some call => (s.close worker).settle ((s.close worker).commitCall call)
  | .rollback worker => s.close worker

end NovelAgent.Projection
