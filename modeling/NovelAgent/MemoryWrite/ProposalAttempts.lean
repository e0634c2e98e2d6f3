import Mathlib.Data.List.Sort
import NovelAgent.Core.Dict
import NovelAgent.Core.Run
import NovelAgent.Domain.Proposals

/-!
# Proposal Attempts

The repository that a process keeps of its proposal attempts, with every field
of a receipt and with the references under which the receipts were stored.
-/

namespace NovelAgent.MemoryWrite.ProposalAttempts

open Core Domain

/-- A receipt with the fields that only the repository compares. -/
structure ReceiptFields extends CuratorProposalAttemptReceipt where
  modelCallReceiptRefs : List ArtifactRef
  promptFingerprint : ArtifactId
  feedbackArtifactRef : Option ArtifactRef
  parsedDraftRef : Option ArtifactRef
  outputHashes : List ArtifactId
  agentExecutionReceiptRef : Option ArtifactRef
  transformReceiptRefs : List ArtifactRef
  startedAt : Int
  completedAt : Option Int
deriving DecidableEq

/-- The rules of a receipt. -/
structure ReceiptFields.Valid (receipt : ReceiptFields) : Prop where
  attemptNo_pos : 1 ≤ receipt.attemptNo
  requests_nodup : receipt.modelRequestIds.Nodup
  settled_requests : receipt.status = .accepted ∨ receipt.status = .rejected →
    receipt.modelRequestIds.length = receipt.modelCallReceiptRefs.length
  calls : receipt.modelCallReceiptRefs.length ≤ receipt.providerCallCount
  accepted : receipt.status = .accepted →
    receipt.normalizedOutputRef ≠ none ∧ receipt.agentExecutionReceiptRef ≠ none ∧
      receipt.producerReceiptRef ≠ none ∧ receipt.completedAt ≠ none
  not_accepted : receipt.status ≠ .accepted →
    receipt.normalizedOutputRef = none ∧ receipt.agentExecutionReceiptRef = none ∧
      receipt.producerReceiptRef = none
  rejected : receipt.status = .rejected →
    receipt.rejectionRef ≠ none ∧ receipt.completedAt ≠ none
  inflight : receipt.status.inflight = true → receipt.completedAt = none

/-- A stored record, with its rules. -/
structure StoredReceipt extends ReceiptFields where
  valid : toReceiptFields.Valid
deriving DecidableEq

/-- A rejection with the fields that only the repository compares. -/
structure StoredRejection extends CuratorProposalRejection where
  normalizedOutputRef : Option ArtifactRef
  createdAt : Int
  boundary_final : stage = .informationBoundary → retryable = false
  feedback_bounded : ∀ text ∈ safeFeedback, text ≠ "" ∧ text.length ≤ 240
deriving DecidableEq

/-- Why a call raised. -/
inductive AttemptError
  | identityCollision (message : String)
  | value (message : String)
  | lookup (message : String)
  | artifact (message : String)

/-- What the store of the artifacts answers while a call runs. -/
structure ArtifactStore where
  put : StoredReceipt → Except String ArtifactRef
  readReceipt : ArtifactRef → Except String StoredReceipt
  readRejection : ArtifactRef → Except String StoredRejection

/-- The receipts, the references under which they were stored, and the rejections. -/
structure Repository where
  items : Dict StableId StoredReceipt
  refs : Dict StableId ArtifactRef
  rejections : Dict StableId StoredRejection

/-- What a new process starts with. -/
def Repository.empty : Repository where
  items := Dict.empty
  refs := Dict.empty
  rejections := Dict.empty

def Repository.store (repository : Repository) (receipt : StoredReceipt) (ref : ArtifactRef) :
    Repository :=
  { repository with
    items := repository.items.set receipt.attemptId receipt
    refs := repository.refs.set receipt.attemptId ref }

/-- An attempt with an outcome, or given up. -/
def terminal (status : CuratorProposalAttemptStatus) : Bool :=
  status = .accepted || status = .rejected || status = .abandoned

/-- What a call returns or raises, and the repository it leaves. -/
abbrev Answered (α : Type) := Except AttemptError α × Repository

def receiptMediaType : String :=
  "application/vnd.novel-agent.curator-proposal-attempt-receipt+json"

section Updates

variable (current : StoredReceipt)

/-- The receipt of an attempt that is sent with a model request. -/
def running (modelRequestId : StableId) (h : terminal current.status = false) :
    StoredReceipt where
  toReceiptFields := { current.toReceiptFields with
    status := .running
    modelRequestIds :=
      if modelRequestId ∈ current.modelRequestIds then current.modelRequestIds
      else current.modelRequestIds ++ [modelRequestId] }
  valid := by
    have hvalid := current.valid
    have hopen : current.status ≠ .accepted := by
      intro hstatus
      simp [terminal, hstatus] at h
    refine ⟨hvalid.attemptNo_pos, ?_, by simp, hvalid.calls, by simp,
      fun _ => hvalid.not_accepted hopen, by simp, fun _ => ?_⟩
    · by_cases hmem : modelRequestId ∈ current.modelRequestIds
      · simp only [hmem, if_true]
        exact hvalid.requests_nodup
      · simp only [hmem, if_false]
        exact List.nodup_append.mpr ⟨hvalid.requests_nodup, List.nodup_singleton _, by
          intro first hfirst last hlast heq
          rw [List.mem_singleton] at hlast
          rw [heq, hlast] at hfirst
          exact hmem hfirst⟩
    · apply hvalid.inflight
      cases hstatus : current.status <;> simp_all [terminal, CuratorProposalAttemptStatus.inflight]

/-- The receipt of an attempt that may have been answered. -/
def uncertain (h : terminal current.status = false) : StoredReceipt where
  toReceiptFields := { current.toReceiptFields with status := .uncertain }
  valid := by
    have hvalid := current.valid
    have hopen : current.status ≠ .accepted := by
      intro hstatus
      simp [terminal, hstatus] at h
    refine ⟨hvalid.attemptNo_pos, hvalid.requests_nodup, by simp, hvalid.calls, by simp,
      fun _ => hvalid.not_accepted hopen, by simp, fun _ => ?_⟩
    apply hvalid.inflight
    cases hstatus : current.status <;> simp_all [terminal, CuratorProposalAttemptStatus.inflight]

/-- The receipt of an attempt that is given up. -/
def abandoned (now : Int) (h : current.status ≠ .accepted) : StoredReceipt where
  toReceiptFields := { current.toReceiptFields with
    status := .abandoned
    completedAt := some now }
  valid := by
    have hvalid := current.valid
    exact ⟨hvalid.attemptNo_pos, hvalid.requests_nodup, by simp, hvalid.calls, by simp,
      fun _ => hvalid.not_accepted h, by simp,
      by simp [CuratorProposalAttemptStatus.inflight]⟩

end Updates

section Methods

variable (artifacts : ArtifactStore) (repository : Repository)

/-- Store a receipt with its artifact. -/
def persist (receipt : StoredReceipt) : Answered ArtifactRef :=
  match artifacts.put receipt with
  | .error message => (.error (.artifact message), repository)
  | .ok ref => (.ok ref, repository.store receipt ref)

def load (attemptId : StableId) : Except AttemptError StoredReceipt :=
  match repository.items.get? attemptId with
  | none => .error (.lookup s!"unknown proposal attempt: {attemptId.root}")
  | some receipt => .ok receipt

def storedRef (attemptId : StableId) : Except AttemptError ArtifactRef :=
  match repository.refs.get? attemptId with
  | none => .error (.lookup attemptId.root)
  | some ref => .ok ref

def createRequested (receipt : StoredReceipt) : Answered ArtifactRef :=
  if receipt.status ≠ .requested then
    (.error (.value "new proposal attempt must start REQUESTED"), repository)
  else
    match repository.items.get? receipt.attemptId with
    | none => persist artifacts repository receipt
    | some existing =>
      if existing.identity ≠ receipt.identity then
        (.error (.identityCollision "proposal attempt identity collision"), repository)
      else (storedRef repository receipt.attemptId, repository)

def markRunning (attemptId modelRequestId : StableId) : Answered ArtifactRef :=
  match load repository attemptId with
  | .error e => (.error e, repository)
  | .ok current =>
    if h : terminal current.status = false then
      persist artifacts repository (running current modelRequestId h)
    else (.error (.identityCollision "terminal proposal attempt cannot run again"), repository)

def settle (attemptId : StableId) (receipt : StoredReceipt)
    (status : CuratorProposalAttemptStatus) (statusValue : String) : Answered ArtifactRef :=
  match load repository attemptId with
  | .error e => (.error e, repository)
  | .ok current =>
    if receipt.attemptId ≠ attemptId ∨ current.identity ≠ receipt.identity then
      (.error (.identityCollision "proposal settlement identity collision"), repository)
    else if receipt.status ≠ status then
      (.error (.value s!"proposal settlement requires {statusValue} receipt"), repository)
    else if current.status = .accepted ∨ current.status = .rejected then
      if current ≠ receipt then
        (.error (.identityCollision "proposal usage/outcome settled twice"), repository)
      else (storedRef repository attemptId, repository)
    else persist artifacts repository receipt

def settleAccepted (attemptId : StableId) (receipt : StoredReceipt) : Answered ArtifactRef :=
  settle artifacts repository attemptId receipt .accepted "accepted"

def settleRejected (attemptId : StableId) (rejection : StoredRejection)
    (receipt : StoredReceipt) : Answered ArtifactRef :=
  if rejection.attemptId ≠ attemptId then
    (.error (.identityCollision "rejection belongs to another attempt"), repository)
  else if (repository.rejections.get? attemptId).any fun existing => existing ≠ rejection then
    (.error (.identityCollision "proposal rejection settlement changed"), repository)
  else
    settle artifacts
      { repository with rejections := repository.rejections.set attemptId rejection }
      attemptId receipt .rejected "rejected"

def markUncertain (attemptId : StableId) (reason : String) : Answered ArtifactRef :=
  if reason = "" then
    (.error (.value "uncertain proposal attempt requires a reason"), repository)
  else
    match load repository attemptId with
    | .error e => (.error e, repository)
    | .ok current =>
      if h : terminal current.status = false then
        persist artifacts repository (uncertain current h)
      else
        (.error (.identityCollision "terminal proposal attempt cannot become uncertain"),
          repository)

def markAbandoned (attemptId : StableId) (reason : String) (now : Int) : Answered ArtifactRef :=
  if reason = "" then
    (.error (.value "abandoned proposal attempt requires a reason"), repository)
  else
    match load repository attemptId with
    | .error e => (.error e, repository)
    | .ok current =>
      if h : current.status = .accepted ∨ current.status = .rejected then
        (.error (.identityCollision "terminal proposal attempt cannot become abandoned"),
          repository)
      else if current.status = .abandoned then (storedRef repository attemptId, repository)
      else persist artifacts repository (abandoned current now fun hstatus => h (.inl hstatus))

def restoreRejection (receipt : StoredReceipt) : Answered StoredReceipt :=
  match receipt.rejectionRef with
  | none => (.ok receipt, repository)
  | some rejectionRef =>
    match artifacts.readRejection rejectionRef with
    | .error message => (.error (.artifact message), repository)
    | .ok rejection =>
      if rejection.attemptId ≠ receipt.attemptId then
        (.error (.identityCollision "restored rejection belongs to another attempt"),
          repository)
      else
        (.ok receipt, { repository with
          rejections := repository.rejections.set receipt.attemptId rejection })

/-- Take a receipt over from the artifact that holds it. -/
def restore (receiptRef : ArtifactRef) : Answered StoredReceipt :=
  if receiptRef.mediaType ≠ receiptMediaType then
    (.error (.value "proposal attempt receipt has an unexpected media type"), repository)
  else
    match artifacts.readReceipt receiptRef with
    | .error message => (.error (.artifact message), repository)
    | .ok receipt =>
      if (repository.items.get? receipt.attemptId).any fun existing => existing ≠ receipt then
        (.error (.identityCollision "restored proposal attempt changed"), repository)
      else if (repository.refs.get? receipt.attemptId).any fun ref => ref ≠ receiptRef then
        (.error (.identityCollision "restored proposal attempt reference changed"), repository)
      else restoreRejection artifacts (repository.store receipt receiptRef) receipt

def loadRejection (attemptId : StableId) : Option StoredRejection :=
  repository.rejections.get? attemptId

/-- The attempts of a request, by number. -/
def listForWorkflow (requestId : StableId) : List StoredReceipt :=
  (repository.items.values.filter fun receipt => receipt.workflowRequestId = requestId).insertionSort
    fun first second => first.attemptNo ≤ second.attemptNo

def reference (attemptId : StableId) : Except AttemptError ArtifactRef := do
  let _ ← load repository attemptId
  storedRef repository attemptId

end Methods

/-- The repository's methods. -/
inductive Call
  | createRequested (receipt : StoredReceipt)
  | markRunning (attemptId modelRequestId : StableId)
  | settleAccepted (attemptId : StableId) (receipt : StoredReceipt)
  | settleRejected (attemptId : StableId) (rejection : StoredRejection) (receipt : StoredReceipt)
  | markUncertain (attemptId : StableId) (reason : String)
  | markAbandoned (attemptId : StableId) (reason : String) (now : Int)
  | restore (receiptRef : ArtifactRef)
  | load (attemptId : StableId)
  | loadRejection (attemptId : StableId)
  | listForWorkflow (requestId : StableId)
  | reference (attemptId : StableId)

/-- What the methods return. -/
inductive Answer
  | ref (ref : ArtifactRef)
  | receipt (receipt : StoredReceipt)
  | rejection (rejection : Option StoredRejection)
  | receipts (receipts : List StoredReceipt)

/-- The answer of a call, and the repository it leaves. -/
def perform (repository : Repository) : ArtifactStore × Call → Answered Answer
  | (artifacts, .createRequested receipt) =>
    (createRequested artifacts repository receipt).map (Except.map .ref) id
  | (artifacts, .markRunning attemptId modelRequestId) =>
    (markRunning artifacts repository attemptId modelRequestId).map (Except.map .ref) id
  | (artifacts, .settleAccepted attemptId receipt) =>
    (settleAccepted artifacts repository attemptId receipt).map (Except.map .ref) id
  | (artifacts, .settleRejected attemptId rejection receipt) =>
    (settleRejected artifacts repository attemptId rejection receipt).map (Except.map .ref) id
  | (artifacts, .markUncertain attemptId reason) =>
    (markUncertain artifacts repository attemptId reason).map (Except.map .ref) id
  | (artifacts, .markAbandoned attemptId reason now) =>
    (markAbandoned artifacts repository attemptId reason now).map (Except.map .ref) id
  | (artifacts, .restore receiptRef) =>
    (restore artifacts repository receiptRef).map (Except.map .receipt) id
  | (_, .load attemptId) => ((load repository attemptId).map .receipt, repository)
  | (_, .loadRejection attemptId) =>
    (.ok (.rejection (loadRejection repository attemptId)), repository)
  | (_, .listForWorkflow requestId) =>
    (.ok (.receipts (listForWorkflow repository requestId)), repository)
  | (_, .reference attemptId) => ((reference repository attemptId).map .ref, repository)

/-- The repository after a call. -/
def step (repository : Repository) (call : ArtifactStore × Call) : Repository :=
  (perform repository call).2

end NovelAgent.MemoryWrite.ProposalAttempts
