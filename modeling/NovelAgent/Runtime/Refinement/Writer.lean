import NovelAgent.Runtime.Refinement.Control

/-!
# Writer Commands as Moves

The lane and the commit commands are moves of the kernel, and so are the two
ways canon moves without it.
-/

namespace NovelAgent.Runtime

open Core Domain Core.Transaction

variable (env : Env) (fence : AttemptFence) (db db' : Db)

theorem takeWriterLane_moves (row : TaskRow) (arow : AttemptRow) (generation : Nat) (db db' : Db)
    (result : AttemptFence) (hdb : Coherent db)
    (hrow : db.tasks.lookup row.taskJson.taskId = some row)
    (harow : db.attempts.lookup arow.attemptJson.attemptId = some arow)
    (hcurrent : row.taskJson.currentAttemptId = some arow.attemptJson.attemptId)
    (hgeneration : generation = match db.writerClaims.lookup row.taskJson.projectId with
      | none => 1
      | some writer => writer.generation + 1)
    (h : takeWriterLane env fence row.taskJson arow.attemptJson generation db = .ok (result, db')) :
    Moves env (.claimWriterLane fence) db db db' := by
  simp only [takeWriterLane, bind_ok, modify_ok, updateTask_ok, stableId_ok, pure_ok] at h
  rcases h with ⟨_, _, rfl, _, _, ⟨row', hrow', rfl⟩, identity, _, ⟨_, rfl⟩, _, _, happend, _, rfl⟩
  obtain rfl : row = row' := Option.some.inj (hrow.symm.trans hrow')
  rcases append_records _ _ _ _ _ _ _ _ _ happend hdb.numbered with ⟨events, hrecords, rfl⟩
  exact .single (.laneTaken db row arow.attemptJson fence generation identity events rfl hrow
    (stored_of_lookup hrow) rfl hcurrent ⟨arow, harow⟩ hgeneration hrecords)

/-- A lane issue is a move. -/
theorem claimWriterLane_moves (result : AttemptFence) (hdb : Coherent db)
    (h : claimWriterLane env fence db = .ok (result, db')) :
    Moves env (.claimWriterLane fence) db db db' := by
  simp only [claimWriterLane, bind_ok, requireFence_ok, raiseWhen_ok, get_ok] at h
  rcases h with ⟨_, _, ⟨hfence, rfl⟩, _, _, ⟨_, rfl⟩, _, _, ⟨rfl, rfl⟩, h⟩
  rcases hfence.rows hdb with ⟨row, arow, hrow, harow, hcurrent, _, _, rfl⟩
  cases hlane : db.writerClaims.lookup row.taskJson.projectId with
  | none =>
    simp only [hlane] at h
    exact takeWriterLane_moves _ _ _ _ _ _ _ _ hdb hrow harow hcurrent (by rw [hlane]) h
  | some writer =>
    simp only [hlane] at h
    split at h
    · rw [pure_ok] at h
      rw [← h.2]
    · simp only [bind_ok, raiseWhen_ok] at h
      rcases h with ⟨_, _, ⟨_, rfl⟩, h⟩
      exact takeWriterLane_moves _ _ _ _ _ _ _ _ hdb hrow harow hcurrent (by rw [hlane]) h

theorem verifyWriterLane_moves (u : Unit) (h : verifyWriterLane fence db = .ok (u, db')) :
    Moves env (.verifyWriterLane fence) db db db' := by
  simp only [verifyWriterLane, bind_ok, requireFence_ok, raiseWhen_ok, get_ok] at h
  rcases h with ⟨_, _, ⟨_, rfl⟩, _, _, ⟨_, rfl⟩, _, rfl⟩
  exact .refl

variable (commitId : CommitId)

theorem insertCommit_ok (row : CommitRow) (db db' : Db) (u : Unit)
    (h : insertCommit commitId row db = .ok (u, db')) :
    ∃ canon, db' = { db with canon := canon } ∧ canon.projects = db.canon.projects := by
  simp only [insertCommit, bind_ok, get_ok, raiseWhen_ok, modify_ok] at h
  rcases h with ⟨_, _, ⟨rfl, rfl⟩, _, _, ⟨_, rfl⟩, _, _, ⟨_, rfl⟩, rfl⟩
  exact ⟨_, rfl, rfl⟩

variable (request : CommitRequest)

theorem recordResult_ok (outcome result : CommitResult) (db db' : Db)
    (h : recordResult request outcome db = .ok (result, db')) :
    ∃ canon, db' = { db with canon := canon } ∧ canon.projects = db.canon.projects := by
  simp only [recordResult, bind_ok, modify_ok, pure_ok] at h
  rcases h with ⟨_, _, rfl, _, rfl⟩
  exact ⟨_, rfl, rfl⟩

/-- The commit primitive writes canon and nothing else, and moves no project
    but the one of the request. -/
theorem commitInSession_ok (db db' : Db) (result : CommitResult)
    (h : commitInSession env request db = .ok (result, db')) :
    ∃ canon, db' = { db with canon := canon } ∧
      ∀ q, request.projectId ≠ q → canon.projects.lookup q = db.canon.projects.lookup q := by
  simp only [commitInSession, bind_ok, get_ok, fromOption_ok] at h
  rcases h with ⟨_, _, ⟨rfl, rfl⟩, current, _, ⟨_, rfl⟩, h⟩
  have hrecorded : ∀ outcome, recordResult request outcome db = .ok (result, db') →
      ∃ canon, db' = { db with canon := canon } ∧
        ∀ q, request.projectId ≠ q → canon.projects.lookup q = db.canon.projects.lookup q := by
    intro outcome hrecord
    rcases recordResult_ok _ _ _ _ _ hrecord with ⟨canon, rfl, hprojects⟩
    exact ⟨canon, rfl, fun q _ => by rw [hprojects]⟩
  cases hreceipt : db.canon.receipts.lookup (request.projectId, request.idempotencyKey) with
  | some existing =>
    simp only [hreceipt, pure_ok] at h
    exact ⟨db.canon, h.2.symm, fun q _ => rfl⟩
  | none =>
    cases hinvalid : validateRequest request with
    | some rejection =>
      simp only [hreceipt, hinvalid] at h
      exact hrecorded _ h
    | none =>
      simp only [hreceipt, hinvalid] at h
      split at h
      · exact hrecorded _ h
      · simp only [bind_ok, moveProject, modify_ok] at h
        rcases h with ⟨_, db₁, hinsert, _, db₂, rfl, hrecord⟩
        rcases insertCommit_ok _ _ _ _ _ hinsert with ⟨canon₁, rfl, hprojects₁⟩
        rcases recordResult_ok _ _ _ _ _ hrecord with ⟨canon₂, rfl, hprojects₂⟩
        refine ⟨canon₂, rfl, ?_⟩
        intro q hq
        rw [hprojects₂, Table.lookup_insert_if, if_neg (Ne.symm hq), hprojects₁]

/-- An accepted outcome is one that canon had recorded, or a commit on top of the current one. -/
theorem commitInSession_accepts (db db' : Db) (result : CommitResult)
    (h : commitInSession env request db = .ok (result, db'))
    (haccepted : result.status = .accepted) : db.canon.Accepts request := by
  simp only [commitInSession, bind_ok, get_ok, fromOption_ok] at h
  rcases h with ⟨_, _, ⟨rfl, rfl⟩, currentCommitId, _, ⟨hproject, rfl⟩, h⟩
  have hrecorded : ∀ outcome db, recordResult request outcome db = .ok (result, db') →
      outcome = result := by
    intro outcome db hrecord
    simp only [recordResult, bind_ok, pure_ok] at hrecord
    rcases hrecord with ⟨_, _, _, hsame, _⟩
    exact hsame
  unfold Canon.Accepts
  cases hreceipt : db.canon.receipts.lookup (request.projectId, request.idempotencyKey) with
  | some existing =>
    simp only [hreceipt, pure_ok] at h
    rw [← h.1] at haccepted
    exact haccepted
  | none =>
    cases hinvalid : invalidReason request with
    | some reason =>
      simp only [hreceipt, validateRequest, hinvalid, Option.map_some] at h
      rw [← hrecorded _ _ h] at haccepted
      exact absurd haccepted (by simp [CommitResult.reject])
    | none =>
      simp only [hreceipt, validateRequest, hinvalid, Option.map_none] at h
      split at h
      · rw [← hrecorded _ _ h] at haccepted
        exact absurd haccepted (by simp [CommitResult.conflict])
      · rename_i hcurrent
        exact ⟨rfl, by rw [hproject, not_not.mp hcurrent]⟩

theorem commitSettlement_succeeded (result : CommitResult)
    (h : (commitSettlement result).status = .succeeded) : result.status = .accepted := by
  unfold commitSettlement at h
  split at h
  · assumption
  · exact absurd h (by simp)
  · exact absurd h (by simp)

theorem initializeProject_moves (manifest : RootManifest) (db db' : Db) (result : CommitId)
    (h : initializeProject manifest db = .ok (result, db')) :
    Moves env (.initializeProject manifest) db db db' := by
  simp only [initializeProject, bind_ok, raiseWhen_ok, get_ok, moveProject, modify_ok,
    pure_ok] at h
  rcases h with ⟨_, _, ⟨_, rfl⟩, _, _, ⟨rfl, rfl⟩, _, _, ⟨_, rfl⟩, _, _, rfl, _, _, hinsert, _, rfl⟩
  rcases insertCommit_ok _ _ _ _ _ hinsert with ⟨canon, rfl, hprojects⟩
  refine .single (.advanced db canon rfl ?_)
  intro q hq
  rw [hprojects, Table.lookup_insert_if, if_neg]
  rintro rfl
  exact hq rfl

theorem commit_moves (db db' : Db) (result : CommitResult)
    (h : commitInSession env request db = .ok (result, db')) :
    Moves env (.commit request) db db db' := by
  rcases commitInSession_ok _ _ _ _ _ h with ⟨canon, rfl, hprojects⟩
  exact .single (.advanced db canon rfl fun q hq => hprojects q fun hsame => hq (congrArg some hsame))

variable (command : Command)

theorem insertCommitSuccessors_moves (db₀ db db' : Db) (settled : TaskRecord)
    (successors : List TaskRecord) (result : CommitResult) (u : Unit) (hdb : Coherent db)
    (hunsigned : command.signature? = none)
    (h : insertCommitSuccessors env settled successors result db = .ok (u, db')) :
    Moves env command db₀ db db' := by
  unfold insertCommitSuccessors at h
  split at h
  · exact insertSuccessorTasks_moves _ _ _ _ _ _ _ _ _ hdb (.inl hunsigned) h
  · rw [pure_ok] at h
    rw [← h.2]

/-- What a commit that goes through proves: its fence holds the lane, and its attempt is over. -/
structure CommitValid (db db' : Db) (fence : AttemptFence) (request : CommitRequest) : Prop where
  fenceValid : ∃ owned, FenceValid db fence true owned
  lane : ∃ writer, db.writerClaims.lookup fence.projectId = some writer ∧
    writer.attemptId = fence.attemptId ∧ writer.generation = fence.writerGeneration
  project : request.projectId = fence.projectId
  ended : db'.Ended fence.attemptId

theorem CommitValid.endsCurrent {db db' : Db} {fence : AttemptFence} {request : CommitRequest}
    (h : CommitValid db db' fence request) (hdb : Coherent db) :
    db.EndsCurrent db' fence.taskId := by
  rcases h.fenceValid with ⟨owned, hfence⟩
  rcases hfence.rows hdb with ⟨row, arow, hrow, _, hcurrent, htask, hattempt, _⟩
  exact htask ▸ .of_row hrow hcurrent (hattempt ▸ h.ended)

theorem commitAcceptedCandidate_moves (successors : List TaskRecord) (db db' : Db)
    (result : CommitResult) (hdb : Coherent db)
    (h : commitAcceptedCandidate env fence request successors db = .ok (result, db')) :
    Moves env (.commitAcceptedCandidate fence request successors) db db db' ∧
      CommitValid db db' fence request := by
  simp only [commitAcceptedCandidate, bind_ok, requireFence_ok, raiseWhen_ok, get_ok] at h
  rcases h with ⟨_, _, ⟨hfence, rfl⟩, _, _, ⟨hkind, rfl⟩, _, _, ⟨rfl, rfl⟩, _, _, ⟨hlane, rfl⟩,
    _, _, ⟨hrequest, rfl⟩, outcome, _, hcommit, h⟩
  rcases commitInSession_ok _ _ _ _ _ hcommit with ⟨canon, rfl, hprojects⟩
  simp only [updateAttempt_ok, updateTask_ok, stableId_ok, pure_ok] at h
  rcases h with ⟨_, _, ⟨arow', harow', rfl⟩, _, _, ⟨row', hrow', rfl⟩, _, _, hblocked, _, _,
    ⟨_, rfl⟩, _, _, happend₁, identity, _, ⟨_, rfl⟩, _, _, happend₂, _, _, hsuccessors, _, rfl⟩
  have hvalid := hfence
  rcases hfence.rows hdb with ⟨row, arow, hrow, harow, hcurrent, htask, hattempt, rfl⟩
  obtain rfl : row = row' := Option.some.inj (hrow.symm.trans hrow')
  obtain rfl : arow = arow' := Option.some.inj (harow.symm.trans harow')
  rcases recordBlocked_records _ _ _ _ _ _ _ _ _ hblocked hdb.numbered with
    ⟨notices, events₁, hnotices, hrecords₁, rfl⟩
  have hlog₁ := Records.numbered _ _ _ _ _ hrecords₁ hdb.numbered
  rcases append_records _ _ _ _ _ _ _ _ _ happend₁ hlog₁ with ⟨events₂, hrecords₂, rfl⟩
  rcases append_records _ _ _ _ _ _ _ _ _ happend₂
    (Records.numbered _ _ _ _ _ hrecords₂ hlog₁) with ⟨events₃, hrecords₃, rfl⟩
  rw [Db.record_append, Db.record_append] at hsuccessors
  have hadvance : Move env (.commitAcceptedCandidate fence request successors) db db
      { db with canon := canon } :=
    .advanced db canon rfl fun q hq => hprojects q fun hsame => hq (congrArg some hsame)
  have hmove : Move env (.commitAcceptedCandidate fence request successors) db
      { db with canon := canon } _ :=
    .closed { db with canon := canon } row _ arow _ _ _ hrow (stored_of_lookup hrow) hcurrent harow
      (.committed _ _ fence request successors outcome notices _ identity htask
        (by simpa using hkind) hnotices) rfl
      (fun hchecks => absurd hchecks (by simp [Command.checksFrontier]))
      (Records.append _ _ _ _ _ _ _ hrecords₁ (Records.append _ _ _ _ _ _ _ hrecords₂ hrecords₃))
      (by
        rintro _ _ _ ⟨rfl, rfl, rfl⟩ hsucceeded
        exact commitInSession_accepts _ _ _ _ _ hcommit (commitSettlement_succeeded _ hsucceeded))
  have hmoves := insertCommitSuccessors_moves env
    (.commitAcceptedCandidate fence request successors) db _ _ _ _ _ _
    (hmove.coherent (hadvance.coherent hdb)) rfl hsuccessors
  push Not at hrequest hlane
  rw [Option.any_eq_true] at hlane
  rcases hlane with ⟨writer, hwriter, hholds⟩
  simp only [decide_eq_true_eq] at hholds
  have hproject : row.taskJson.projectId = fence.projectId := hvalid.project
  refine ⟨.head hadvance (.head hmove hmoves), ⟨_, hvalid⟩, ⟨writer, ?_, ?_, hholds.2⟩, ?_,
    Moves.ended hmoves ?_⟩
  · rw [← hproject, hwriter]
  · rw [hholds.1, hattempt]
  · rw [hrequest.1, hproject]
  · exact ⟨_, by rw [hattempt]; exact AList.lookup_insert _, Option.some_ne_none _⟩

/-- Recording the proof of an external commit resolves its effect, if there is
    a proof at all, and leaves the tables the settlement needs alone. -/
theorem recordProof_moves (row : TaskRow) (arow : AttemptRow) (commitId : CommitId) (db db' : Db)
    (u : Unit) (hdb : Coherent db) (hunsigned : command.signature? = none)
    (hrow : db.tasks.lookup row.taskJson.taskId = some row)
    (h : recordProof env row.taskJson arow.attemptJson commitId command.proof? db = .ok (u, db')) :
    Moves env command db db db' ∧ db'.tasks = db.tasks ∧ db'.attempts = db.attempts ∧
      db'.effects = effectsAtClose command db := by
  unfold effectsAtClose
  cases hproof : command.proof? with
  | none =>
    simp only [hproof, recordProof, pure_ok] at h
    rcases h with ⟨_, rfl⟩
    exact ⟨.refl, rfl, rfl, rfl⟩
  | some receipt =>
    simp only [hproof, recordProof, recordSettlementEffect, bind_ok, raiseWhen_ok, get_ok,
      fromOption_ok, updateEffect_ok, boundedRuntimeIdentity_ok] at h
    rcases h with ⟨_, _, ⟨hstatus, rfl⟩, _, _, ⟨rfl, rfl⟩, erow, _, ⟨herow, rfl⟩, _, _,
      ⟨howner, rfl⟩, _, _, ⟨_, rfl⟩, _, _, rfl, identity, _, ⟨_, rfl⟩, happend⟩
    push Not at hstatus howner
    rw [← howner] at happend
    rcases append_records _ _ _ _ _ _ _ _ _ happend hdb.numbered with ⟨events, hrecords, rfl⟩
    simp only [herow]
    refine ⟨.single (.resolved db row erow receipt identity _ events rfl hrow herow ?_
      (.inr ⟨hunsigned, .inr hstatus.1⟩) hrecords), rfl, rfl, rfl⟩
    rw [hstatus.1]
    decide

theorem settleExternalCommit_moves (row : TaskRow) (arow : AttemptRow) (commitId : CommitId)
    (manifest : RootManifest) (refs : List ArtifactRef) (successors : List TaskRecord)
    (db db' : Db) (result : TaskRecord) (hdb : Coherent db)
    (hrow : db.tasks.lookup row.taskJson.taskId = some row)
    (harow : db.attempts.lookup arow.attemptJson.attemptId = some arow)
    (hcurrent : row.taskJson.currentAttemptId = some arow.attemptJson.attemptId)
    (hchecks : command.checksFrontier = false) (hunsigned : command.signature? = none)
    (hcommand :
      (∃ fence receipt successors,
        command = .recordExternalCommit fence commitId refs receipt successors ∧
          fence.taskId = row.taskJson.taskId) ∨
      ∃ receipt successors observed,
        command = .reconcileExternalCommit row.taskJson.taskId commitId receipt successors refs
          observed)
    (h : settleExternalCommit env row.taskJson arow.attemptJson commitId manifest refs command.proof?
      successors db = .ok (result, db')) :
    Moves env command db db db' ∧ db.EndsCurrent db' row.taskJson.taskId := by
  simp only [settleExternalCommit, bind_ok, raiseWhen_ok, get_ok] at h
  rcases h with ⟨_, _, ⟨hkind, rfl⟩, _, _, ⟨rfl, rfl⟩, _, _, ⟨_, rfl⟩, _, db₁, hproof, h⟩
  rcases recordProof_moves _ _ _ _ _ _ _ _ hdb hunsigned hrow hproof with
    ⟨hmoves, htasks, hattempts, heffects⟩
  have hdb₁ := Moves.coherent hmoves hdb
  simp only [updateAttempt_ok, updateTask_ok, stableId_ok, pure_ok] at h
  rcases h with ⟨_, _, ⟨arow', harow', rfl⟩, _, _, ⟨row', hrow', rfl⟩, _, _, ⟨_, rfl⟩, _, _,
    happend₁, identity, _, ⟨_, rfl⟩, _, _, happend₂, _, _, hsuccessors, _, rfl⟩
  have hrow₁ : db₁.tasks.lookup row.taskJson.taskId = some row := by rw [htasks, hrow]
  have harow₁ : db₁.attempts.lookup arow.attemptJson.attemptId = some arow := by
    rw [hattempts, harow]
  obtain rfl : row = row' := Option.some.inj (hrow₁.symm.trans hrow')
  obtain rfl : arow = arow' := Option.some.inj (harow₁.symm.trans harow')
  rcases append_records _ _ _ _ _ _ _ _ _ happend₁ hdb₁.numbered with ⟨events₁, hrecords₁, rfl⟩
  rcases append_records _ _ _ _ _ _ _ _ _ happend₂
    (Records.numbered _ _ _ _ _ hrecords₁ hdb₁.numbered) with ⟨events₂, hrecords₂, rfl⟩
  rw [Db.record_append] at hsuccessors
  have hmove : Move env command db db₁ _ :=
    .closed db₁ row _ arow _ _ _ hrow₁ (stored_of_lookup hrow) hcurrent harow₁
      (.externallySettled _ _ command commitId refs _ identity hcommand (not_not.mp hkind)) heffects
      (fun hfrontier => by rw [hchecks] at hfrontier; exact absurd hfrontier Bool.false_ne_true)
      (Records.append _ _ _ _ _ _ _ hrecords₁ hrecords₂)
      (by rintro _ _ _ rfl; simp at hcommand)
  have hlater : Moves env command db _ _ := insertSuccessorTasks_moves _ _ _ _ _ _ _ _ _
    (hmove.coherent hdb₁) (.inl hunsigned) hsuccessors
  refine ⟨hmoves.trans (.head hmove hlater), .of_row hrow hcurrent (Moves.ended hlater ?_)⟩
  exact ⟨_, AList.lookup_insert _, Option.some_ne_none _⟩

theorem loadManifest_ok (db db' : Db) (manifest : RootManifest)
    (h : loadManifest commitId db = .ok (manifest, db')) : db = db' := by
  simp only [loadManifest, bind_ok, get_ok, fromOption_ok, pure_ok] at h
  rcases h with ⟨_, _, ⟨rfl, rfl⟩, _, _, ⟨_, rfl⟩, _, rfl⟩
  rfl

theorem recordExternalCommit_moves (refs : List ArtifactRef) (receipt : Option EffectReceipt)
    (successors : List TaskRecord) (db db' : Db) (result : TaskRecord) (hdb : Coherent db)
    (h : recordExternalCommit env fence commitId refs receipt successors db = .ok (result, db')) :
    Moves env (.recordExternalCommit fence commitId refs receipt successors) db db db' ∧
      db.EndsCurrent db' fence.taskId := by
  simp only [recordExternalCommit, bind_ok, requireFence_ok] at h
  rcases h with ⟨manifest, _, hmanifest, _, _, ⟨hfence, rfl⟩, h⟩
  obtain rfl := loadManifest_ok _ _ _ _ hmanifest
  rcases hfence.rows hdb with ⟨row, arow, hrow, harow, hcurrent, htask, _, rfl⟩
  exact htask ▸ settleExternalCommit_moves env
    (.recordExternalCommit fence commitId refs receipt successors) row arow _ _ _ _ _ _ _ hdb hrow
    harow hcurrent rfl rfl (.inl ⟨fence, receipt, successors, rfl, htask⟩) h

theorem reconcileExternalCommit_moves (taskId : TaskId) (commitId : CommitId)
    (receipt : EffectReceipt) (successors : List TaskRecord) (refs : List ArtifactRef)
    (observed : Option Nat) (db db' : Db) (result : TaskRecord) (hdb : Coherent db)
    (h : reconcileExternalCommit env taskId commitId receipt successors refs observed db =
      .ok (result, db')) :
    Moves env (.reconcileExternalCommit taskId commitId receipt successors refs observed) db db
      db' ∧ db.EndsCurrent db' taskId := by
  simp only [reconcileExternalCommit, bind_ok, loadTask_ok, requireObservedRevision_ok,
    fromOption_ok, get_ok, restoreAttempt_ok] at h
  rcases h with ⟨manifest, _, hmanifest, _, _, ⟨⟨row, hrow, rfl, _⟩, rfl⟩, _, _, ⟨_, rfl⟩,
    attemptId, _, ⟨hcurrent, rfl⟩, _, _, ⟨rfl, rfl⟩, arow, _, ⟨harow, rfl⟩, _, _, ⟨⟨rfl, _⟩, rfl⟩,
    h⟩
  obtain rfl := loadManifest_ok _ _ _ _ hmanifest
  obtain rfl := hdb.taskKey _ _ hrow
  obtain rfl := hdb.attemptKey _ _ harow
  exact settleExternalCommit_moves env
    (.reconcileExternalCommit row.taskJson.taskId commitId receipt successors refs observed) row arow
    _ _ _ _ _ _ _ hdb hrow harow hcurrent rfl rfl (.inr ⟨receipt, successors, observed, rfl⟩) h

end NovelAgent.Runtime
