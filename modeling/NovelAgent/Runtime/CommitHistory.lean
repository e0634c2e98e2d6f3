import Mathlib.Data.List.Induction
import NovelAgent.Runtime.Reachable

/-!
# Histories of the Commit Service

What canon looks like after any sequence of commit service calls.
-/

namespace NovelAgent.Runtime

open Core Domain List
open Core.Transaction

/-- A call of the service. -/
inductive CommitServiceCall
  | initializeProject (manifest : RootManifest)
  | commit (env : Env) (request : CommitRequest)

def CommitServiceCall.perform : CommitServiceCall → Tx Unit
  | .initializeProject manifest => discardResult (Runtime.initializeProject manifest)
  | .commit env request => discardResult (commitInSession env request)

def CommitServiceCall.step (db : Db) (call : CommitServiceCall) : Db :=
  (Transaction.atomically call.perform db).2

theorem CommitServiceCall.step_of_ok {α : Type} (call : CommitServiceCall) (body : Tx α)
    (db db' : Db) (a : α) (hcall : call.perform = discardResult body)
    (h : body db = .ok (a, db')) : call.step db = db' := by
  rw [CommitServiceCall.step, atomically_ok _ _ db' ()]
  rw [hcall, discardResult, bind_ok]
  exact ⟨a, db', h, (pure_ok _ _ _ _).mpr ⟨rfl, rfl⟩⟩

def Canon.empty : Canon where
  projects := ∅
  commits := ∅
  receipts := ∅
  outbox := ∅

/-- The service as a machine of its own. -/
def history (calls : List CommitServiceCall) : Db :=
  run CommitServiceCall.step (Db.fresh Canon.empty) calls

theorem history_append (calls later : List CommitServiceCall) :
    history (calls ++ later) = run CommitServiceCall.step (history calls) later :=
  run_append _ _ _ _

/-! ### What a call does -/

def Canon.answer (canon : Canon) (request : CommitRequest) (result : CommitResult) : Canon :=
  { canon with
    receipts := canon.receipts.insert (request.projectId, request.idempotencyKey) result }

/-- Canon after a project moved to a commit. -/
def Canon.adopt (canon : Canon) (commitId : CommitId) (row : CommitRow) : Canon :=
  { canon with
    projects := canon.projects.insert row.projectId (some commitId)
    commits := canon.commits.insert commitId row
    outbox := canon.outbox.insert commitId row.projectId }

def genesisRow (manifest : RootManifest) : CommitRow where
  projectId := manifest.projectId
  baseCommitId := none
  manifest := manifest

def proposedRow (request : CommitRequest) : CommitRow where
  projectId := request.projectId
  baseCommitId := some request.baseCommit
  manifest := request.bundle.proposedRoots

def acceptance (request : CommitRequest) (committedAt : Time) : CommitResult :=
  CommitResult.accept request.requestId (manifestCommitId request.bundle.proposedRoots)
    request.bundle.proposedRoots committedAt

/-- What one commit call does to canon. -/
inductive CommitEffect (canon : Canon) (request : CommitRequest) : CommitResult → Canon → Prop
  /-- The key was answered before. -/
  | replayed (existing : CommitResult)
      (hexisting : canon.receipts.lookup (request.projectId, request.idempotencyKey) =
        some existing) :
      CommitEffect canon request existing canon
  /-- The request does not fit its bundle, or was overtaken. -/
  | refused (result : CommitResult)
      (hnew : canon.receipts.lookup (request.projectId, request.idempotencyKey) = none)
      (hstatus : result.status ≠ .accepted) :
      CommitEffect canon request result (canon.answer request result)
  /-- The project moved to the proposed commit. -/
  | accepted (committedAt : Time)
      (hnew : canon.receipts.lookup (request.projectId, request.idempotencyKey) = none)
      (hcurrent : canon.projects.lookup request.projectId = some (some request.baseCommit))
      (hfresh : canon.commits.lookup (manifestCommitId request.bundle.proposedRoots) = none) :
      CommitEffect canon request (acceptance request committedAt)
        ((canon.adopt (manifestCommitId request.bundle.proposedRoots)
          (proposedRow request)).answer request (acceptance request committedAt))

theorem insertCommit_adds (commitId : CommitId) (row : CommitRow) (db db' : Db) (u : Unit)
    (h : insertCommit commitId row db = .ok (u, db')) :
    db.canon.commits.lookup commitId = none ∧
      db' = { db with canon := { db.canon with
        commits := db.canon.commits.insert commitId row
        outbox := db.canon.outbox.insert commitId row.projectId } } := by
  simp only [insertCommit, bind_ok, get_ok, raiseWhen_ok, modify_ok] at h
  rcases h with ⟨_, _, ⟨rfl, rfl⟩, _, _, ⟨hnew, rfl⟩, _, _, ⟨_, rfl⟩, rfl⟩
  exact ⟨by simpa using hnew, rfl⟩

theorem recordResult_answers (request : CommitRequest) (outcome result : CommitResult)
    (db db' : Db) (h : recordResult request outcome db = .ok (result, db')) :
    result = outcome ∧ db' = { db with canon := db.canon.answer request outcome } := by
  simp only [recordResult, bind_ok, modify_ok, pure_ok] at h
  rcases h with ⟨_, _, rfl, rfl, rfl⟩
  exact ⟨rfl, rfl⟩

variable (env : Env)

/-- A commit call that returned has one of the three effects, on a project that exists. -/
theorem commitInSession_effect (request : CommitRequest) (db db' : Db) (result : CommitResult)
    (h : commitInSession env request db = .ok (result, db')) :
    (∃ current, db.canon.projects.lookup request.projectId = some current) ∧
      ∃ canon, db' = { db with canon := canon } ∧ CommitEffect db.canon request result canon := by
  simp only [commitInSession, bind_ok, get_ok, fromOption_ok] at h
  rcases h with ⟨_, _, ⟨rfl, rfl⟩, current, _, ⟨hproject, rfl⟩, h⟩
  refine ⟨⟨current, hproject⟩, ?_⟩
  cases hreceipt : db.canon.receipts.lookup (request.projectId, request.idempotencyKey) with
  | some existing =>
    simp only [hreceipt, pure_ok] at h
    rcases h with ⟨rfl, rfl⟩
    exact ⟨_, rfl, .replayed existing hreceipt⟩
  | none =>
    cases hinvalid : invalidReason request with
    | some reason =>
      simp only [hreceipt, validateRequest, hinvalid, Option.map_some] at h
      rcases recordResult_answers _ _ _ _ _ h with ⟨rfl, rfl⟩
      exact ⟨_, rfl, .refused _ hreceipt (by simp [CommitResult.reject])⟩
    | none =>
      simp only [hreceipt, validateRequest, hinvalid, Option.map_none] at h
      split at h
      · rcases recordResult_answers _ _ _ _ _ h with ⟨rfl, rfl⟩
        exact ⟨_, rfl, .refused _ hreceipt (by simp [CommitResult.conflict])⟩
      · rename_i hcurrent
        rw [not_not] at hcurrent
        subst hcurrent
        simp only [bind_ok, moveProject, modify_ok] at h
        rcases h with ⟨_, _, hinsert, _, _, rfl, hrecord⟩
        rcases insertCommit_adds _ _ _ _ _ hinsert with ⟨hfresh, rfl⟩
        rcases recordResult_answers _ _ _ _ _ hrecord with ⟨rfl, rfl⟩
        exact ⟨_, rfl, .accepted env.committedAt hreceipt hproject hfresh⟩

theorem initializeProject_effect (manifest : RootManifest) (db db' : Db) (result : CommitId)
    (h : initializeProject manifest db = .ok (result, db')) :
    db.canon.projects.lookup manifest.projectId = none ∧
      db.canon.commits.lookup (manifestCommitId manifest) = none ∧
      db' = { db with
        canon := db.canon.adopt (manifestCommitId manifest) (genesisRow manifest) } := by
  simp only [initializeProject, bind_ok, raiseWhen_ok, get_ok, moveProject, modify_ok,
    pure_ok] at h
  rcases h with ⟨_, _, ⟨_, rfl⟩, _, _, ⟨rfl, rfl⟩, _, _, ⟨hnew, rfl⟩, _, _, rfl, _, _, hinsert, _,
    rfl⟩
  rcases insertCommit_adds _ _ _ _ _ hinsert with ⟨hfresh, rfl⟩
  exact ⟨by simpa using hnew, hfresh, rfl⟩

/-! ### One chain per project -/

/-- The commits that follow from a pointer by their bases, down to one that has none. -/
inductive ParentChain (commits : Table CommitId CommitRow) : Option CommitId → List CommitId → Prop
  | genesis : ParentChain commits none []
  | child (commitId : CommitId) (row : CommitRow) (rest : List CommitId)
      (hrow : commits.lookup commitId = some row) (hrest : ParentChain commits row.baseCommitId rest) :
      ParentChain commits (some commitId) (commitId :: rest)

theorem ParentChain.insert {commits : Table CommitId CommitRow} {pointer : Option CommitId}
    {chain : List CommitId} (h : ParentChain commits pointer chain) (commitId : CommitId)
    (row : CommitRow) (hfresh : commits.lookup commitId = none) :
    ParentChain (commits.insert commitId row) pointer chain := by
  induction h with
  | genesis => exact .genesis
  | child linkId linkRow rest hrow hrest ih =>
    refine .child linkId linkRow rest ?_ ih
    have hne : linkId ≠ commitId := by
      rintro rfl
      rw [hfresh] at hrow
      exact absurd hrow (by simp)
    rw [AList.lookup_insert_ne hne, hrow]

/-- The chain from a pointer is all the commits of a project, each once. -/
structure IsChainOf (commits : Table CommitId CommitRow) (projectId : ProjectId)
    (pointer : Option CommitId) (chain : List CommitId) : Prop where
  linked : ParentChain commits pointer chain
  nodup : chain.Nodup
  complete : ∀ commitId, commitId ∈ chain ↔
    ∃ row, commits.lookup commitId = some row ∧ row.projectId = projectId

/-- Every project's commits are one chain that ends at its current commit,
    commits and receipts belong to projects, every commit waits in the outbox
    once, and an accepted answer names a commit of its project. -/
structure LinearCanon (canon : Canon) : Prop where
  chained : ∀ p pointer, canon.projects.lookup p = some pointer →
    pointer ≠ none ∧ ∃ chain, IsChainOf canon.commits p pointer chain
  owned : ∀ commitId row, canon.commits.lookup commitId = some row →
    ∃ pointer, canon.projects.lookup row.projectId = some pointer
  queued : ∀ commitId, canon.outbox.lookup commitId =
    (canon.commits.lookup commitId).map CommitRow.projectId
  known : ∀ key result, canon.receipts.lookup key = some result →
    ∃ pointer, canon.projects.lookup key.1 = some pointer
  made : ∀ key result, canon.receipts.lookup key = some result → result.status = .accepted →
    ∃ commitId row, result.commitId = some commitId ∧
      canon.commits.lookup commitId = some row ∧ row.projectId = key.1 ∧
      result.manifest = some row.manifest

theorem linearCanon_empty : LinearCanon Canon.empty := by
  constructor <;> simp [Canon.empty]

theorem LinearCanon.chain_of_base {canon : Canon} (h : LinearCanon canon) (row : CommitRow)
    (hbase : canon.projects.lookup row.projectId = row.baseCommitId.map some) :
    ∃ chain, IsChainOf canon.commits row.projectId row.baseCommitId chain := by
  cases hpointer : row.baseCommitId with
  | none =>
    rw [hpointer, Option.map_none] at hbase
    refine ⟨[], .genesis, nodup_nil, ?_⟩
    intro commitId
    simp only [not_mem_nil, false_iff]
    rintro ⟨stored, hstored, hproject⟩
    rcases h.owned commitId stored hstored with ⟨pointer, hlookup⟩
    rw [hproject, hbase] at hlookup
    exact absurd hlookup (by simp)
  | some base =>
    rw [hpointer, Option.map_some] at hbase
    exact (h.chained row.projectId (some base) hbase).2

/-- Moving a project to a commit on top of its current one keeps canon linear. -/
theorem LinearCanon.adopt {canon : Canon} (h : LinearCanon canon) (commitId : CommitId)
    (row : CommitRow) (hfresh : canon.commits.lookup commitId = none)
    (hbase : canon.projects.lookup row.projectId = row.baseCommitId.map some) :
    LinearCanon (canon.adopt commitId row) := by
  have hkept : ∀ linkId linkRow, canon.commits.lookup linkId = some linkRow →
      (canon.commits.insert commitId row).lookup linkId = some linkRow := by
    intro linkId linkRow hlink
    rw [Table.lookup_insert_if, if_neg, hlink]
    rintro rfl
    rw [hfresh] at hlink
    exact absurd hlink (by simp)
  have hproject : ∀ p pointer, canon.projects.lookup p = some pointer →
      ∃ pointer', (canon.projects.insert row.projectId (some commitId)).lookup p =
        some pointer' := by
    intro p pointer hlookup
    rw [Table.lookup_insert_if]
    split
    · exact ⟨_, rfl⟩
    · exact ⟨pointer, hlookup⟩
  constructor
  · intro p pointer hlookup
    simp only [Canon.adopt, Table.lookup_insert_if] at hlookup
    split at hlookup
    · rename_i hp
      subst hp
      obtain rfl := Option.some.inj hlookup
      rcases h.chain_of_base row hbase with ⟨chain, hchain⟩
      refine ⟨by simp, commitId :: chain, .child commitId row chain ?_ ?_, ?_, ?_⟩
      · exact AList.lookup_insert _
      · exact hchain.linked.insert commitId row hfresh
      · refine nodup_cons.mpr ⟨?_, hchain.nodup⟩
        intro hmem
        rcases (hchain.complete commitId).mp hmem with ⟨stored, hstored, _⟩
        rw [hfresh] at hstored
        exact absurd hstored (by simp)
      · intro linkId
        rw [mem_cons, hchain.complete]
        simp only [Canon.adopt, Table.lookup_insert_if]
        by_cases hlink : linkId = commitId
        · simp [hlink]
        · simp [hlink]
    · rename_i hp
      rcases h.chained p pointer hlookup with ⟨hpointer, chain, hchain⟩
      refine ⟨hpointer, chain, hchain.linked.insert commitId row hfresh, hchain.nodup, ?_⟩
      intro linkId
      rw [hchain.complete]
      simp only [Canon.adopt, Table.lookup_insert_if]
      by_cases hlink : linkId = commitId
      · subst hlink
        simp [hfresh, Ne.symm hp]
      · simp [hlink]
  · exact Table.forall_lookup_insert
      (fun linkId linkRow hlink =>
        let ⟨pointer, hpointer⟩ := h.owned linkId linkRow hlink
        hproject _ pointer hpointer)
      ⟨some commitId, AList.lookup_insert _⟩
  · intro linkId
    simp only [Canon.adopt, Table.lookup_insert_if]
    split
    · rfl
    · exact h.queued linkId
  · intro key result hresult
    rcases h.known key result hresult with ⟨pointer, hpointer⟩
    exact hproject _ pointer hpointer
  · intro key result hresult haccepted
    rcases h.made key result hresult haccepted with ⟨linkId, linkRow, hid, hlink, hrest⟩
    exact ⟨linkId, linkRow, hid, hkept linkId linkRow hlink, hrest⟩

/-- Recording an answer keeps canon linear, if an acceptance names a commit that was made. -/
theorem LinearCanon.answer {canon : Canon} (h : LinearCanon canon) (request : CommitRequest)
    (result : CommitResult)
    (hproject : ∃ pointer, canon.projects.lookup request.projectId = some pointer)
    (hmade : result.status = .accepted → ∃ commitId row, result.commitId = some commitId ∧
      canon.commits.lookup commitId = some row ∧ row.projectId = request.projectId ∧
      result.manifest = some row.manifest) :
    LinearCanon (canon.answer request result) where
  chained := h.chained
  owned := h.owned
  queued := h.queued
  known := Table.forall_lookup_insert h.known hproject
  made := Table.forall_lookup_insert
    (P := fun (key : ProjectId × StableId) (result : CommitResult) =>
      result.status = .accepted → ∃ commitId row,
      result.commitId = some commitId ∧ canon.commits.lookup commitId = some row ∧
      row.projectId = key.1 ∧ result.manifest = some row.manifest) h.made hmade

variable {canon canon' : Canon} {request : CommitRequest} {result : CommitResult}

theorem CommitEffect.linear (heffect : CommitEffect canon request result canon')
    (h : LinearCanon canon)
    (hproject : ∃ pointer, canon.projects.lookup request.projectId = some pointer) :
    LinearCanon canon' := by
  cases heffect with
  | replayed => exact h
  | refused _ hnew hstatus => exact h.answer request result hproject fun hok => absurd hok hstatus
  | accepted committedAt hnew hcurrent hfresh =>
    refine (h.adopt _ (proposedRow request) hfresh hcurrent).answer request _ ?_ ?_
    · exact ⟨_, AList.lookup_insert _⟩
    · intro _
      exact ⟨_, proposedRow request, rfl, AList.lookup_insert _, rfl, rfl⟩

/-- Receipts that are there stay as they are. -/
def KeepsReceipts (canon canon' : Canon) : Prop :=
  ∀ key result, canon.receipts.lookup key = some result →
    canon'.receipts.lookup key = some result

theorem CommitEffect.keepsReceipts (heffect : CommitEffect canon request result canon') :
    KeepsReceipts canon canon' := by
  have hanswer : ∀ answered, canon.receipts.lookup (request.projectId, request.idempotencyKey) = none →
      ∀ key stored, canon.receipts.lookup key = some stored →
        (canon.receipts.insert (request.projectId, request.idempotencyKey) answered).lookup key =
          some stored := by
    intro answered hnew key stored hstored
    rw [Table.lookup_insert_if, if_neg, hstored]
    rintro rfl
    rw [hnew] at hstored
    exact absurd hstored (by simp)
  cases heffect with
  | replayed => exact fun _ _ hstored => hstored
  | refused _ hnew hstatus => exact hanswer _ hnew
  | accepted committedAt hnew hcurrent hfresh => exact hanswer _ hnew

theorem CommitServiceCall.step_linear (db : Db) (call : CommitServiceCall)
    (hdb : LinearCanon db.canon) :
    LinearCanon (call.step db).canon ∧ KeepsReceipts db.canon (call.step db).canon := by
  rw [CommitServiceCall.step]
  cases hperform : call.perform db with
  | error e =>
    rw [atomically_error _ _ _ hperform]
    exact ⟨hdb, fun _ _ hstored => hstored⟩
  | ok p =>
    rw [atomically_ok _ _ p.2 p.1 hperform]
    cases call with
    | initializeProject manifest =>
      rcases discardResult_ok _ _ _ _ hperform with ⟨result, hresult⟩
      rcases initializeProject_effect _ _ _ _ hresult with ⟨hnew, hfresh, hdb'⟩
      rw [hdb']
      exact ⟨hdb.adopt _ (genesisRow manifest) hfresh hnew, fun _ _ hstored => hstored⟩
    | commit env request =>
      rcases discardResult_ok _ _ _ _ hperform with ⟨result, hresult⟩
      rcases commitInSession_effect _ _ _ _ _ hresult with ⟨hproject, canon, hdb', heffect⟩
      rw [hdb']
      exact ⟨heffect.linear hdb hproject, heffect.keepsReceipts⟩

theorem history_linear (calls : List CommitServiceCall) : LinearCanon (history calls).canon :=
  run_invariant CommitServiceCall.step (fun db => LinearCanon db.canon)
    (fun db call hdb => (call.step_linear db hdb).1) _ linearCanon_empty calls

theorem history_keepsReceipts (calls later : List CommitServiceCall) :
    KeepsReceipts (history calls).canon (history (calls ++ later)).canon := by
  rw [history_append]
  exact (run_invariant CommitServiceCall.step
    (fun db => LinearCanon db.canon ∧ KeepsReceipts (history calls).canon db.canon)
    (fun db call hdb =>
      let hstep := call.step_linear db hdb.1
      ⟨hstep.1, fun key result hstored => hstep.2 key result (hdb.2 key result hstored)⟩) _
    ⟨history_linear calls, fun _ _ hstored => hstored⟩ later).2

variable {calls : List CommitServiceCall}

theorem commitInSession_replays {stored : CommitResult}
    (hstored : (history calls).canon.receipts.lookup (request.projectId, request.idempotencyKey) =
      some stored) (env : Env) :
    commitInSession env request (history calls) = .ok (stored, history calls) := by
  rcases (history_linear calls).known _ stored hstored with ⟨pointer, hpointer⟩
  simp only [commitInSession, bind_ok, get_ok, fromOption_ok]
  refine ⟨_, _, ⟨rfl, rfl⟩, pointer, _, ⟨hpointer, rfl⟩, ?_⟩
  simp only [hstored, pure_ok, and_self]

theorem CommitEffect.recorded (heffect : CommitEffect canon request result canon') :
    canon'.receipts.lookup (request.projectId, request.idempotencyKey) = some result := by
  cases heffect with
  | replayed _ hexisting => exact hexisting
  | refused => exact AList.lookup_insert _
  | accepted => exact AList.lookup_insert _

/-- An acceptance names a commit of the project that is stored and queued. -/
theorem CommitEffect.stored (heffect : CommitEffect canon request result canon')
    (hlinear : LinearCanon canon') (haccepted : result.status = .accepted) :
    ∃ commitId row, result.commitId = some commitId ∧
      canon'.commits.lookup commitId = some row ∧ row.projectId = request.projectId ∧
      result.manifest = some row.manifest ∧
      canon'.outbox.lookup commitId = some request.projectId := by
  rcases hlinear.made _ result heffect.recorded haccepted with
    ⟨commitId, row, hid, hrow, hproject, hmanifest⟩
  refine ⟨commitId, row, hid, hrow, hproject, hmanifest, ?_⟩
  rw [hlinear.queued, hrow, Option.map_some, hproject]

/-- The first acceptance under a key makes the proposed commit and moves the
    project to it from the commit the request starts from. -/
theorem CommitEffect.made (heffect : CommitEffect canon request result canon')
    (hnew : canon.receipts.lookup (request.projectId, request.idempotencyKey) = none)
    (haccepted : result.status = .accepted) :
    ∃ commitId, result.commitId = some commitId ∧ canon.commits.lookup commitId = none ∧
      canon'.commits.lookup commitId = some (proposedRow request) ∧
      canon.projects.lookup request.projectId = some (some request.baseCommit) ∧
      canon'.projects.lookup request.projectId = some (some commitId) := by
  cases heffect with
  | replayed _ hexisting =>
    rw [hnew] at hexisting
    exact absurd hexisting (by simp)
  | refused _ _ hstatus => exact absurd haccepted hstatus
  | accepted _ _ hcurrent hfresh =>
    exact ⟨_, rfl, hfresh, AList.lookup_insert _, hcurrent, AList.lookup_insert _⟩

/-- After any history, the commits of each project are exactly one chain of bases from its current
    commit to its genesis, and no commit is without a project; every commit has its one outbox row,
    and an accepted answer names a commit that was made. A receipt is never replaced, a key that
    has one is answered with it without a change, and an answer that accepts nothing leaves every
    current commit where it was. Every answer is stored as it is given; an acceptance has its
    commit and its outbox row then, and the first one under a key made them and moved the project.
    -/
theorem linear_canon (calls : List CommitServiceCall) :
    let canon := (history calls).canon
    (∀ p pointer, canon.projects.lookup p = some pointer →
      pointer ≠ none ∧ ∃ chain, ParentChain canon.commits pointer chain ∧ chain.Nodup ∧
        ∀ commitId, commitId ∈ chain ↔
          ∃ row, canon.commits.lookup commitId = some row ∧ row.projectId = p) ∧
    (∀ commitId row, canon.commits.lookup commitId = some row →
      ∃ pointer, canon.projects.lookup row.projectId = some pointer) ∧
    (∀ commitId, canon.outbox.lookup commitId =
      (canon.commits.lookup commitId).map CommitRow.projectId) ∧
    (∀ key result, canon.receipts.lookup key = some result → result.status = .accepted →
      ∃ commitId row, result.commitId = some commitId ∧
        canon.commits.lookup commitId = some row ∧ row.projectId = key.1 ∧
        result.manifest = some row.manifest) ∧
    (∀ later key result, canon.receipts.lookup key = some result →
      (history (calls ++ later)).canon.receipts.lookup key = some result) ∧
    (∀ env request result,
      canon.receipts.lookup (request.projectId, request.idempotencyKey) = some result →
      commitInSession env request (history calls) = .ok (result, history calls)) ∧
    (∀ env request result db', commitInSession env request (history calls) = .ok (result, db') →
      result.status ≠ .accepted → db'.canon.projects = canon.projects) ∧
    (∀ env request result db', commitInSession env request (history calls) = .ok (result, db') →
      db'.canon.receipts.lookup (request.projectId, request.idempotencyKey) = some result ∧
      (result.status = .accepted → ∃ commitId row, result.commitId = some commitId ∧
        db'.canon.commits.lookup commitId = some row ∧ row.projectId = request.projectId ∧
        result.manifest = some row.manifest ∧
        db'.canon.outbox.lookup commitId = some request.projectId) ∧
      (canon.receipts.lookup (request.projectId, request.idempotencyKey) = none →
        result.status = .accepted →
        ∃ commitId, result.commitId = some commitId ∧ canon.commits.lookup commitId = none ∧
          db'.canon.commits.lookup commitId = some (proposedRow request) ∧
          canon.projects.lookup request.projectId = some (some request.baseCommit) ∧
          db'.canon.projects.lookup request.projectId = some (some commitId))) := by
  have h := history_linear calls
  refine ⟨?_, h.owned, h.queued, h.made, history_keepsReceipts calls,
    fun env request result hresult => commitInSession_replays hresult env, ?_, ?_⟩
  · intro p pointer hpointer
    rcases h.chained p pointer hpointer with ⟨hsome, chain, hchain⟩
    exact ⟨hsome, chain, hchain.linked, hchain.nodup, hchain.complete⟩
  · intro env request result db' hcommit hstatus
    rcases commitInSession_effect _ _ _ _ _ hcommit with ⟨_, canon, rfl, heffect⟩
    cases heffect with
    | replayed => rfl
    | refused => rfl
    | accepted => exact absurd rfl hstatus
  · intro env request result db' hcommit
    rcases commitInSession_effect _ _ _ _ _ hcommit with ⟨hproject, canon', rfl, heffect⟩
    exact ⟨heffect.recorded, heffect.stored (heffect.linear h hproject), heffect.made⟩

/-! ### Answers and their requests -/

/-- The request that an idempotency key was first answered for. -/
def FirstAsked (calls : List CommitServiceCall) (request : CommitRequest) : Prop :=
  ∃ before env after result db', calls = before ++ .commit env request :: after ∧
    (history before).canon.receipts.lookup (request.projectId, request.idempotencyKey) = none ∧
    commitInSession env request (history before) = .ok (result, db')

/-- The receipt is the answer that its first request was given. -/
def AnswersFirst (calls : List CommitServiceCall) (key : ProjectId × StableId)
    (result : CommitResult) : Prop :=
  ∃ first, FirstAsked calls first ∧ first.projectId = key.1 ∧ first.idempotencyKey = key.2 ∧
    (result.status = .accepted → result.manifest = some first.bundle.proposedRoots)

theorem FirstAsked.later (h : FirstAsked calls request) (later : List CommitServiceCall) :
    FirstAsked (calls ++ later) request := by
  rcases h with ⟨before, env, after, result, db', rfl, hrest⟩
  exact ⟨before, env, after ++ later, result, db', by simp, hrest⟩

variable {key : ProjectId × StableId}

theorem AnswersFirst.later (h : AnswersFirst calls key result) (later : List CommitServiceCall) :
    AnswersFirst (calls ++ later) key result := by
  rcases h with ⟨first, hfirst, hrest⟩
  exact ⟨first, hfirst.later later, hrest⟩

theorem CommitEffect.manifest_eq (heffect : CommitEffect canon request result canon')
    (hnew : canon.receipts.lookup (request.projectId, request.idempotencyKey) = none)
    (haccepted : result.status = .accepted) :
    result.manifest = some request.bundle.proposedRoots := by
  cases heffect with
  | replayed _ hexisting =>
    rw [hnew] at hexisting
    exact absurd hexisting (by simp)
  | refused _ _ hstatus => exact absurd haccepted hstatus
  | accepted => rfl

theorem CommitEffect.receipts_cases {result stored : CommitResult}
    (heffect : CommitEffect canon request result canon')
    (hstored : canon'.receipts.lookup key = some stored) :
    canon.receipts.lookup key = some stored ∨
      (canon.receipts.lookup key = none ∧ key = (request.projectId, request.idempotencyKey) ∧
        stored = result) := by
  have hanswer : ∀ answered,
      canon.receipts.lookup (request.projectId, request.idempotencyKey) = none →
      (canon.receipts.insert (request.projectId, request.idempotencyKey) answered).lookup key =
        some stored →
      canon.receipts.lookup key = some stored ∨
        (canon.receipts.lookup key = none ∧ key = (request.projectId, request.idempotencyKey) ∧
          stored = answered) := by
    intro answered hnew hlookup
    rw [Table.lookup_insert_if] at hlookup
    split at hlookup
    · rename_i hkey
      exact .inr ⟨by rw [hkey, hnew], hkey, (Option.some.inj hlookup).symm⟩
    · exact .inl hlookup
  cases heffect with
  | replayed => exact .inl hstored
  | refused _ hnew hstatus => exact hanswer _ hnew hstored
  | accepted committedAt hnew hcurrent hfresh => exact hanswer _ hnew hstored

/-- Every receipt of a history is the answer to the first request under its
    key. The induction takes the last call off, so that the request just
    answered is known together with the history before it. -/
theorem history_answersFirst (calls : List CommitServiceCall) :
    ∀ key result, (history calls).canon.receipts.lookup key = some result →
      AnswersFirst calls key result := by
  induction calls using List.reverseRecOn with
  | nil =>
    intro key result hresult
    exact absurd hresult (by simp [history, Db.fresh, Canon.empty])
  | append_singleton calls call ih =>
    intro key stored hstored
    rw [history_append, run_cons, run_nil, CommitServiceCall.step] at hstored
    cases hperform : call.perform (history calls) with
    | error e =>
      rw [atomically_error _ _ _ hperform] at hstored
      exact (ih key stored hstored).later [call]
    | ok p =>
      rw [atomically_ok _ _ p.2 p.1 hperform] at hstored
      cases call with
      | initializeProject manifest =>
        rcases discardResult_ok _ _ _ _ hperform with ⟨result, hresult⟩
        rcases initializeProject_effect _ _ _ _ hresult with ⟨_, _, hdb'⟩
        rw [hdb'] at hstored
        exact (ih key stored hstored).later _
      | commit env request =>
        rcases discardResult_ok _ _ _ _ hperform with ⟨result, hresult⟩
        rcases commitInSession_effect _ _ _ _ _ hresult with ⟨_, canon, hdb', heffect⟩
        rw [hdb'] at hstored
        rcases heffect.receipts_cases hstored with hold | ⟨hnew, rfl, rfl⟩
        · exact (ih key stored hold).later _
        · exact ⟨request,
            ⟨calls, env, [], stored, p.2, rfl, hnew, hresult⟩, rfl, rfl,
            heffect.manifest_eq hnew⟩

theorem FirstAsked.receipt (h : FirstAsked calls request) :
    ∃ result, (history calls).canon.receipts.lookup (request.projectId, request.idempotencyKey) =
      some result := by
  rcases h with ⟨before, env, after, result, db', rfl, hnew, hcommit⟩
  rcases commitInSession_effect _ _ _ _ _ hcommit with ⟨_, canon, rfl, heffect⟩
  have hafter : history (before ++ [.commit env request]) =
      { history before with canon := canon } := by
    rw [history_append, run_cons, run_nil, CommitServiceCall.step_of_ok _ _ _ _ _ rfl hcommit]
  have hkept := history_keepsReceipts (before ++ [.commit env request]) after
    (request.projectId, request.idempotencyKey) result (by rw [hafter]; exact heffect.recorded)
  exact ⟨result, by simpa using hkept⟩

/-- What one answer should be: an acceptance is of the request's own roots, and a request under a
    key that was first used for another one is refused as a conflict. -/
def AnswersItsRequest (calls : List CommitServiceCall) (env : Env) (request : CommitRequest) :
    Prop :=
  ∀ result db', commitInSession env request (history calls) = .ok (result, db') →
    (result.status = .accepted → result.manifest = some request.bundle.proposedRoots ∧
      ∃ commitId row, result.commitId = some commitId ∧
        db'.canon.commits.lookup commitId = some row ∧
        row.manifest = request.bundle.proposedRoots) ∧
    (∀ first, FirstAsked calls first → first.projectId = request.projectId →
      first.idempotencyKey = request.idempotencyKey → first ≠ request →
      result.status = .conflicted)

/-- The answer to a request is an answer to that request exactly when no other request was answered
    first under its key, unless that one was answered with a conflict. -/
theorem receipt_answers_iff (calls : List CommitServiceCall) (env : Env)
    (request : CommitRequest) :
    AnswersItsRequest calls env request ↔
      ∀ first, FirstAsked calls first → first.projectId = request.projectId →
        first.idempotencyKey = request.idempotencyKey → first ≠ request →
        ∀ stored, (history calls).canon.receipts.lookup
          (request.projectId, request.idempotencyKey) = some stored →
          stored.status = .conflicted := by
  constructor
  · intro h first hfirst hproject hkey hother stored hstored
    exact (h stored _ (commitInSession_replays hstored env)).2 first hfirst hproject hkey hother
  · intro h result db' hcommit
    rcases commitInSession_effect _ _ _ _ _ hcommit with ⟨hproject, canon, rfl, heffect⟩
    have hlinear := heffect.linear (history_linear calls) hproject
    constructor
    · intro haccepted
      have hmanifest : result.manifest = some request.bundle.proposedRoots := by
        cases hstored : (history calls).canon.receipts.lookup
            (request.projectId, request.idempotencyKey) with
        | none => exact heffect.manifest_eq hstored haccepted
        | some stored =>
          have hsame : result = stored := by
            rw [commitInSession_replays hstored env, Except.ok.injEq, Prod.mk.injEq] at hcommit
            exact hcommit.1.symm
          subst hsame
          rcases history_answersFirst calls _ result hstored with
            ⟨first, hfirst, hp, hk, hroots⟩
          by_cases hother : first = request
          · rw [hroots haccepted, hother]
          · have hconflict := h first hfirst hp hk hother result hstored
            rw [haccepted] at hconflict
            exact absurd hconflict (by simp)
      rcases hlinear.made _ result heffect.recorded haccepted with
        ⟨commitId, row, hid, hrow, _, hsame⟩
      rw [hmanifest, Option.some.injEq] at hsame
      exact ⟨hmanifest, commitId, row, hid, hrow, hsame.symm⟩
    · intro first hfirst hp hk hother
      rcases hfirst.receipt with ⟨stored, hstored⟩
      rw [hp, hk] at hstored
      have hconflict := h first hfirst hp hk hother stored hstored
      rw [commitInSession_replays hstored env, Except.ok.injEq, Prod.mk.injEq] at hcommit
      rw [← hcommit.1]
      exact hconflict

/-! ### A key used twice -/

/-- Roots of the sample project that differ in their text. -/
def Sample.roots (byteLength : Nat) (parents : List CommitId) : RootManifest where
  projectId := Sample.projectId
  schemaVersion := ⟨"1.0.0", .refl true⟩
  textRoot := { Sample.artifact with byteLength := byteLength }
  planRoot := Sample.artifact
  worldRoot := Sample.artifact
  referenceRoot := Sample.artifact
  projectProfileRoot := Sample.artifact
  parentCommitIds := parents

def Sample.genesisId : CommitId :=
  ⟨"sha256:b223fb8e7c5fc12b9dd1fb18134a8027a66c6e2647d19e394db79e390c78c673", by decide⟩

theorem Sample.genesisId_eq : manifestCommitId (Sample.roots 2 []) = Sample.genesisId := by
  have hroot : (manifestCommitId (Sample.roots 2 [])).root.toList = Sample.genesisId.root.toList := by
    simp only [manifestCommitId, digest, Sha256.hexdigest, RootManifest.json, Json.object,
      Json.string, Json.number, Json.array, ArtifactRef.rootJson, String.toList_append,
      String.toList_ofList, String.toList_intercalate, map_cons, map_nil,
      Sha256.digitsOf_eq, Sample.roots, Sample.artifact, Sample.hashOf]
    decide +kernel
  rw [ContentHash.mk.injEq]
  exact String.toList_injective hroot

theorem Sample.successorId_ne :
    manifestCommitId (Sample.roots 3 [Sample.genesisId]) ≠ Sample.genesisId := by
  intro hsame
  have hroot := congrArg (fun commitId => commitId.root.toList) hsame
  simp only [manifestCommitId, digest, Sha256.hexdigest, RootManifest.json, Json.object,
    Json.string, Json.number, Json.array, ArtifactRef.rootJson, String.toList_append,
    String.toList_ofList, String.toList_intercalate, map_cons, map_nil,
    Sha256.digitsOf_eq, Sample.roots, Sample.artifact, Sample.hashOf] at hroot
  revert hroot
  decide +kernel

/-- A request for new text on the first commit, always under the same key. -/
def Sample.edit (byteLength : Nat) : CommitRequest where
  requestId := ⟨"q", .refl true⟩
  projectId := Sample.projectId
  baseCommit := Sample.genesisId
  idempotencyKey := ⟨"k", .refl true⟩
  bundle :=
    { bundleId := ⟨"b", .refl true⟩
      projectId := Sample.projectId
      runId := Sample.runId
      baseCommit := Sample.genesisId
      observedChanges := ⟨⟨"o", .refl true⟩, Sample.genesisId, Sample.artifact, []⟩
      proposedRoots := Sample.roots byteLength [Sample.genesisId]
      producedArtifacts := [] }
  validationReport := ⟨⟨"v", .refl true⟩, ⟨"b", .refl true⟩, .passed⟩

/-- The project is created and the first edit committed. -/
def Sample.edited : List CommitServiceCall :=
  [.initializeProject (Sample.roots 2 []), .commit (Sample.env 1 0) (Sample.edit 3)]

theorem Sample.initialized :
    initializeProject (Sample.roots 2 []) (Db.fresh Canon.empty) =
      .ok (Sample.genesisId, { Db.fresh Canon.empty with
        canon := Canon.empty.adopt Sample.genesisId (genesisRow (Sample.roots 2 [])) }) := by
  simp only [initializeProject, Sample.genesisId_eq, bind_ok, raiseWhen_ok, get_ok, moveProject,
    modify_ok, pure_ok, insertCommit]
  refine ⟨(), _, ⟨by simp [Sample.roots], rfl⟩, _, _, ⟨rfl, rfl⟩, (), _, ⟨?_, rfl⟩, (), _, rfl, (),
    _, ⟨_, _, ⟨rfl, rfl⟩, (), _, ⟨?_, rfl⟩, (), _, ⟨?_, rfl⟩, rfl⟩, trivial, rfl⟩
  · simp [Db.fresh, Canon.empty]
  · simp [Db.fresh, Canon.empty]
  · simp [Db.fresh, Canon.empty]

def Sample.answer : CommitResult :=
  acceptance (Sample.edit 3) 1

theorem commitInSession_adopts (request : CommitRequest) (db : Db)
    (hcurrent : db.canon.projects.lookup request.projectId = some (some request.baseCommit))
    (hnew : db.canon.receipts.lookup (request.projectId, request.idempotencyKey) = none)
    (hvalid : validateRequest request = none)
    (hfresh : db.canon.commits.lookup (manifestCommitId request.bundle.proposedRoots) = none)
    (hqueue : db.canon.outbox.lookup (manifestCommitId request.bundle.proposedRoots) = none) :
    ∃ db', commitInSession env request db = .ok (acceptance request env.committedAt, db') := by
  refine ⟨{ db with
    canon := (db.canon.adopt (manifestCommitId request.bundle.proposedRoots)
      (proposedRow request)).answer request (acceptance request env.committedAt) }, ?_⟩
  rw [commitInSession, bind_ok]
  refine ⟨db, db, (get_ok _ _ _).mpr ⟨rfl, rfl⟩, ?_⟩
  rw [bind_ok]
  refine ⟨some request.baseCommit, db, (fromOption_ok _ _ _ _ _).mpr ⟨hcurrent, rfl⟩, ?_⟩
  simp only [hnew, hvalid, ne_eq, not_true_eq_false, if_false, bind_ok, insertCommit, get_ok,
    raiseWhen_ok, modify_ok, moveProject, recordResult, pure_ok]
  exact ⟨(), _, ⟨_, _, ⟨rfl, rfl⟩, (), _, ⟨by simp [hfresh], rfl⟩, (), _, ⟨by simp [hqueue], rfl⟩,
    rfl⟩, (), _, rfl, (), _, rfl, rfl, rfl⟩

theorem Sample.accepted (db : Db)
    (hcanon : db.canon = Canon.empty.adopt Sample.genesisId (genesisRow (Sample.roots 2 []))) :
    ∃ db', commitInSession (Sample.env 1 0) (Sample.edit 3) db = .ok (Sample.answer, db') := by
  refine commitInSession_adopts (Sample.env 1 0) (Sample.edit 3) db ?_ ?_ ?_ ?_ ?_
  · rw [hcanon]
    exact AList.lookup_insert _
  · rw [hcanon]
    rfl
  · simp [validateRequest, invalidReason, Sample.edit, Sample.roots]
  · rw [hcanon]
    exact AList.lookup_insert_ne Sample.successorId_ne
  · rw [hcanon]
    exact AList.lookup_insert_ne Sample.successorId_ne

theorem Sample.edited_receipt :
    (history Sample.edited).canon.receipts.lookup (Sample.projectId, ⟨"k", by decide⟩) =
      some Sample.answer := by
  rcases Sample.accepted { Db.fresh Canon.empty with
      canon := Canon.empty.adopt Sample.genesisId (genesisRow (Sample.roots 2 [])) } rfl with
    ⟨db', haccepted⟩
  rw [history, Sample.edited, run_cons, run_cons, run_nil,
    CommitServiceCall.step_of_ok _ _ _ _ _ rfl Sample.initialized,
    CommitServiceCall.step_of_ok _ _ _ _ _ rfl haccepted]
  rcases commitInSession_effect _ _ _ _ _ haccepted with ⟨_, canon, rfl, heffect⟩
  exact heffect.recorded

/-- A second edit under the key of the first is answered with the first. -/
theorem receipt_answers_another :
    ¬ ∀ (calls : List CommitServiceCall) (env : Env) (request : CommitRequest),
      AnswersItsRequest calls env request := by
  intro h
  have hreceipt : (history Sample.edited).canon.receipts.lookup
      ((Sample.edit 4).projectId, (Sample.edit 4).idempotencyKey) = some Sample.answer :=
    Sample.edited_receipt
  have hanswer := h Sample.edited (Sample.env 2 0) (Sample.edit 4) Sample.answer _
    (commitInSession_replays hreceipt _)
  have hother : some (Sample.roots 3 [Sample.genesisId]) =
      some (Sample.roots 4 [Sample.genesisId]) := (hanswer.1 rfl).1
  simp [Sample.roots] at hother

end NovelAgent.Runtime
