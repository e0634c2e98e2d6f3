import NovelAgent.Runtime.Step

/-!
# What the Row Operations Do

One lemma for each row operation, saying when it succeeds and what it leaves.
-/

namespace NovelAgent.Runtime

open Core Domain Core.Transaction List

/-- The record stored for a task. -/
def Db.stored (db : Db) (taskId : TaskId) : Option TaskRecord :=
  (db.tasks.lookup taskId).map TaskRow.taskJson

/-- The writes of the row operations. -/
def Db.putTask (db : Db) (taskId : TaskId) (row : TaskRow) : Db :=
  { db with tasks := db.tasks.insert taskId row }

theorem Db.stored_putTask (db : Db) (k k' : TaskId) (row : TaskRow) :
    (db.putTask k row).stored k' = if k' = k then some row.taskJson else db.stored k' := by
  rw [stored, putTask, Table.lookup_insert_if]
  split <;> rfl

def Db.putAttempt (db : Db) (attemptId : StableId) (row : AttemptRow) : Db :=
  { db with attempts := db.attempts.insert attemptId row }

def Db.putEffect (db : Db) (effectIdentity : StableId) (row : EffectRow) : Db :=
  { db with effects := db.effects.insert effectIdentity row }

def Db.putWriterClaim (db : Db) (projectId : ProjectId) (row : WriterClaimRow) : Db :=
  { db with writerClaims := db.writerClaims.insert projectId row }

def TaskRow.overwrite (row : TaskRow) (task : TaskRecord) : TaskRow :=
  { row with
    status := task.status
    revision := task.taskRevision
    currentAttemptId := task.currentAttemptId
    taskJson := task }

def AttemptRow.overwrite (row : AttemptRow) (attempt : TaskAttempt) : AttemptRow :=
  { row with
    endedAt := attempt.endedAt
    attemptJson := attempt }

def insertedAttemptRow (attempt : TaskAttempt) : AttemptRow where
  taskId := attempt.taskId
  attemptNo := attempt.attemptNo
  endedAt := attempt.endedAt
  attemptJson := attempt

variable (db db' : Db)

/-- What a load that succeeds has found. -/
theorem loadTask_ok (taskId : TaskId) (task : TaskRecord) :
    loadTask taskId db = .ok (task, db') ↔
      (∃ row, db.tasks.lookup taskId = some row ∧ row.taskJson = task ∧ task.wellFormed = true) ∧
        db = db' := by
  simp only [loadTask, bind_ok, get_ok, fromOption_ok, raiseWhen_ok, pure_ok]
  constructor
  · rintro ⟨_, _, ⟨rfl, rfl⟩, row, _, ⟨hrow, rfl⟩, _, _, ⟨hwf, rfl⟩, rfl, rfl⟩
    exact ⟨⟨row, hrow, rfl, by simpa using hwf⟩, rfl⟩
  · rintro ⟨⟨row, hrow, rfl, hwf⟩, rfl⟩
    exact ⟨db, db, ⟨rfl, rfl⟩, row, db, ⟨hrow, rfl⟩, (), db, ⟨by simp [hwf], rfl⟩, rfl, rfl⟩

theorem restoreTask_ok (row : TaskRow) (task : TaskRecord) :
    restoreTask row db = .ok (task, db') ↔
      (row.taskJson = task ∧ task.wellFormed = true) ∧ db = db' := by
  simp only [restoreTask, bind_ok, raiseWhen_ok, pure_ok]
  constructor
  · rintro ⟨_, _, ⟨hwf, rfl⟩, rfl, rfl⟩
    exact ⟨⟨rfl, by simpa using hwf⟩, rfl⟩
  · rintro ⟨⟨rfl, hwf⟩, rfl⟩
    exact ⟨(), db, ⟨by simp [hwf], rfl⟩, rfl, rfl⟩

variable (attempt : TaskAttempt)

theorem restoreAttempt_ok (row : AttemptRow) (db db' : Db) (attempt : TaskAttempt) :
    restoreAttempt row db = .ok (attempt, db') ↔
      (row.attemptJson = attempt ∧ attempt.wellFormed = true) ∧ db = db' := by
  simp only [restoreAttempt, bind_ok, raiseWhen_ok, pure_ok]
  constructor
  · rintro ⟨_, _, ⟨hwf, rfl⟩, rfl, rfl⟩
    exact ⟨⟨rfl, by simpa using hwf⟩, rfl⟩
  · rintro ⟨⟨rfl, hwf⟩, rfl⟩
    exact ⟨(), db, ⟨by simp [hwf], rfl⟩, rfl, rfl⟩

theorem updateTask_ok (task : TaskRecord) (db db' : Db) (u : Unit) :
    updateTask task db = .ok (u, db') ↔
      ∃ row, db.tasks.lookup task.taskId = some row ∧
        db' = db.putTask task.taskId (row.overwrite task) := by
  simp only [updateTask, bind_ok, get_ok, fromOption_ok, modify_ok]
  constructor
  · rintro ⟨_, _, ⟨rfl, rfl⟩, row, _, ⟨hrow, rfl⟩, rfl⟩
    exact ⟨row, hrow, rfl⟩
  · rintro ⟨row, hrow, rfl⟩
    exact ⟨db, db, ⟨rfl, rfl⟩, row, db, ⟨hrow, rfl⟩, rfl⟩

theorem insertTask_ok (task : TaskRecord) (db db' : Db) (u : Unit) :
    insertTask task db = .ok (u, db') ↔
      db.tasks.lookup task.taskId = none ∧ db.canon.projects.lookup task.projectId ≠ none ∧
        db' = db.putTask task.taskId (insertedRow task) := by
  simp only [insertTask, bind_ok, get_ok, raiseWhen_ok, modify_ok]
  constructor
  · rintro ⟨_, _, ⟨rfl, rfl⟩, _, _, ⟨hnone, rfl⟩, _, _, ⟨hproject, rfl⟩, rfl⟩
    exact ⟨by simpa using hnone, by simpa using hproject, rfl⟩
  · rintro ⟨hnone, hproject, rfl⟩
    exact ⟨db, db, ⟨rfl, rfl⟩, (), db, ⟨by simp [hnone], rfl⟩, (), db,
      ⟨by simpa using hproject, rfl⟩, rfl⟩

theorem updateAttempt_ok (db db' : Db) (u : Unit) :
    updateAttempt attempt db = .ok (u, db') ↔
      ∃ row, db.attempts.lookup attempt.attemptId = some row ∧
        db' = db.putAttempt attempt.attemptId (row.overwrite attempt) := by
  simp only [updateAttempt, bind_ok, get_ok, fromOption_ok, modify_ok]
  constructor
  · rintro ⟨_, _, ⟨rfl, rfl⟩, row, _, ⟨hrow, rfl⟩, rfl⟩
    exact ⟨row, hrow, rfl⟩
  · rintro ⟨row, hrow, rfl⟩
    exact ⟨db, db, ⟨rfl, rfl⟩, row, db, ⟨hrow, rfl⟩, rfl⟩

theorem insertAttempt_ok (db db' : Db) (u : Unit) :
    insertAttempt attempt db = .ok (u, db') ↔
      db.attempts.lookup attempt.attemptId = none ∧
        (∀ k row, db.attempts.lookup k = some row → row.taskId = attempt.taskId →
          row.attemptNo ≠ attempt.attemptNo) ∧
        db' = db.putAttempt attempt.attemptId (insertedAttemptRow attempt) := by
  simp only [insertAttempt, bind_ok, get_ok, raiseWhen_ok, modify_ok, Table.not_selects_iff]
  constructor
  · rintro ⟨_, _, ⟨rfl, rfl⟩, _, _, ⟨hnone, rfl⟩, _, _, ⟨hunique, rfl⟩, rfl⟩
    refine ⟨by simpa using hnone, ?_, rfl⟩
    intro k row hrow htask hno
    exact hunique k row hrow (by simp [htask, hno])
  · rintro ⟨hnone, hunique, rfl⟩
    refine ⟨db, db, ⟨rfl, rfl⟩, (), db, ⟨by simp [hnone], rfl⟩, (), db, ⟨?_, rfl⟩, rfl⟩
    intro k row hrow hclash
    simp only [decide_eq_true_eq] at hclash
    exact hunique k row hrow hclash.1 hclash.2

theorem requireObservedRevision_ok (task : TaskRecord) (observed : Option Nat) (db db' : Db)
    (u : Unit) :
    requireObservedRevision task observed db = .ok (u, db') ↔
      (∀ revision, observed = some revision → revision = task.taskRevision) ∧ db = db' := by
  rw [requireObservedRevision, raiseWhen_ok]
  cases observed <;> simp

theorem stableId_ok (s : String) (db db' : Db) (id : StableId) :
    stableId s db = .ok (id, db') ↔ id.root = s ∧ db = db' := by
  rw [stableId, fromOption_ok, StableId.ofString?_eq_some]

theorem boundedRuntimeIdentity_ok (candidates : List String) (db db' : Db) (id : StableId) :
    boundedRuntimeIdentity candidates db = .ok (id, db') ↔
      boundedStableId candidates = some id ∧ db = db' := by
  rw [boundedRuntimeIdentity, fromOption_ok]

theorem hasUnresolvedEffect_eq_false (db : Db) (attemptId : StableId) :
    db.hasUnresolvedEffect attemptId = false ↔
      ∀ k row, db.effects.lookup k = some row → row.attemptId = attemptId →
        row.status.isUnresolved = false := by
  rw [← Bool.not_eq_true, Db.hasUnresolvedEffect, Table.not_selects_iff]
  constructor
  · intro h k row hrow hattempt
    by_contra hstatus
    exact h k row hrow (by simp [hattempt, hstatus])
  · intro h k row hrow hboth
    simp only [decide_eq_true_eq] at hboth
    rw [h k row hrow hboth.1] at hboth
    exact Bool.false_ne_true hboth.2

/-! ### Appending -/

/-- What an event records: its payload, its identity and its artifacts. -/
structure Entry where
  payload : EventPayload
  identity : StableId
  artifactRefs : List ArtifactRef

/-- The event is the next one of its run and records the entry for the task
    under an identity that the run has not used. -/
structure IsNext (log : EventLog) (runId : RunId) (taskId : TaskId) (entry : Entry)
    (event : RunEvent) : Prop where
  runId_eq : event.runId = runId
  taskId_eq : event.taskId = some taskId
  payload_eq : event.payload = entry.payload
  identity_eq : event.idempotencyIdentity = entry.identity
  refs_eq : event.artifactRefs = entry.artifactRefs
  sequence_eq : event.sequenceNo = log.nextSequence runId
  fresh : log.eventWithIdentity runId entry.identity = none

def EventLog.pushAll (log : EventLog) (events : List RunEvent) : EventLog :=
  events.foldl EventLog.push log

variable (log : EventLog)

theorem EventLog.pushAll_events (events : List RunEvent) :
    (log.pushAll events).events = log.events ++ events := by
  induction events generalizing log with
  | nil => simp [pushAll]
  | cons event events ih =>
    have htail := ih (log.push event)
    rw [pushAll] at htail ⊢
    rw [foldl_cons, htail, push, append_assoc, singleton_append]

/-- What a list of events records, in order. -/
def Records (log : EventLog) (runId : RunId) (taskId : TaskId) :
    List Entry → List RunEvent → Prop
  | [], [] => True
  | entry :: entries, event :: events =>
    IsNext log runId taskId entry event ∧ Records (log.push event) runId taskId entries events
  | _, _ => False

/-- Stored sequence numbers stay below the next one. -/
def EventLog.Numbered (log : EventLog) : Prop :=
  ∀ event ∈ log.events, event.sequenceNo < log.nextSequence event.runId

theorem EventLog.push_nextSequence (event : RunEvent) (runId : RunId) :
    (log.push event).nextSequence runId =
      if runId = event.runId then event.sequenceNo + 1 else log.nextSequence runId := by
  rw [nextSequence, push, Table.lookup_insert_if]
  by_cases h : runId = event.runId
  · rw [if_pos h, if_pos h]
  · rw [if_neg h, if_neg h]
    rfl

theorem EventLog.numbered_push (hlog : log.Numbered) (event : RunEvent)
    (hseq : event.sequenceNo = log.nextSequence event.runId) : (log.push event).Numbered := by
  intro stored hstored
  rw [push_nextSequence]
  rcases mem_append.mp hstored with hold | hnew
  · have hlt := hlog stored hold
    by_cases h : stored.runId = event.runId
    · rw [if_pos h, hseq]
      rw [h] at hlt
      omega
    · rw [if_neg h]
      exact hlt
  · rw [mem_singleton] at hnew
    subst hnew
    rw [if_pos rfl]
    omega

theorem EventLog.eventWithIdentity_eq_none (runId : RunId) (identity : StableId) :
    log.eventWithIdentity runId identity = none ↔
      ∀ event ∈ log.events, event.runId = runId → event.idempotencyIdentity ≠ identity := by
  simp [eventWithIdentity, List.find?_eq_none]

theorem appendInSession_ok (event stored : RunEvent) (db db' : Db) (hlog : db.log.Numbered)
    (hseq : event.sequenceNo = db.log.nextSequence event.runId)
    (h : appendInSession event db = .ok (stored, db')) :
    db.log.eventWithIdentity event.runId event.idempotencyIdentity = none ∧
      db' = { db with log := db.log.push event } := by
  rw [appendInSession, bind_ok] at h
  rcases h with ⟨_, _, hget, h⟩
  rw [get_ok] at hget
  rcases hget with ⟨rfl, rfl⟩
  cases hexisting : db.log.eventWithIdentity event.runId event.idempotencyIdentity with
  | some existing =>
    -- The stored event would have to carry the new event's sequence number.
    rw [hexisting] at h
    simp only [bind_ok, raiseWhen_ok, pure_ok] at h
    rcases h with ⟨_, _, ⟨hsame, rfl⟩, _, _⟩
    have hmem : existing ∈ db.log.events := mem_of_find?_eq_some hexisting
    have hlt := hlog existing hmem
    rw [not_not] at hsame
    rw [hsame] at hlt
    simp only [hseq] at hlt
    omega
  | none =>
    rw [hexisting] at h
    simp only [bind_ok, raiseWhen_ok, modify_ok, pure_ok] at h
    rcases h with ⟨_, _, ⟨_, rfl⟩, _, _, ⟨_, rfl⟩, _, _, rfl, _, rfl⟩
    exact ⟨rfl, rfl⟩

section

variable (env : Env) (runId : RunId) (taskId : TaskId) (payload : EventPayload)
    (identity : StableId) (refs : List ArtifactRef)

include env runId taskId payload identity refs

/-- An append records exactly its entry, as the next event of its run, under
    an identity the run has not used. -/
theorem append_ok (db db' : Db) (u : Unit) (hlog : db.log.Numbered)
    (h : append env runId taskId payload identity refs db = .ok (u, db')) :
    ∃ event, IsNext db.log runId taskId ⟨payload, identity, refs⟩ event ∧
      db' = { db with log := db.log.push event } := by
  simp only [append, bind_ok, get_ok, stableId_ok, boundedRuntimeIdentity_ok] at h
  rcases h with ⟨_, _, ⟨rfl, rfl⟩, eventId, _, ⟨_, rfl⟩, traceId, _, ⟨_, rfl⟩, h⟩
  split at h
  · rename_i hvalid
    simp only [bind_ok, pure_ok] at h
    rcases h with ⟨stored, _, hsession, _, rfl⟩
    rcases appendInSession_ok _ stored db _ hlog rfl hsession with ⟨hfresh, rfl⟩
    exact ⟨_, ⟨rfl, rfl, rfl, rfl, rfl, rfl, hfresh⟩, rfl⟩
  · exact absurd h (throw_ok _ _ _ _)

theorem append_valid (db db' : Db) (u : Unit)
    (h : append env runId taskId payload identity refs db = .ok (u, db')) :
    validateStage5EventPayload payload = true := by
  simp only [append, bind_ok, get_ok, stableId_ok, boundedRuntimeIdentity_ok] at h
  rcases h with ⟨_, _, ⟨rfl, rfl⟩, _, _, ⟨_, rfl⟩, _, _, ⟨_, rfl⟩, h⟩
  split at h
  · rename_i hvalid
    exact hvalid
  · exact absurd h (throw_ok _ _ _ _)

/-- An append of this payload under this identity would be accepted: the payload is valid, and
    neither the identity nor the drawn event identity is taken. -/
def Appendable (env : Env) (db : Db) (runId : RunId) (payload : EventPayload)
    (identity : StableId) : Prop :=
  validateStage5EventPayload payload = true ∧ db.log.eventWithIdentity runId identity = none ∧
    ∀ stored ∈ db.log.events,
      stored.eventId.root ≠ "evt." ++ (env.eventToken runId (db.log.nextSequence runId)).text

/-- An append succeeds exactly when it is appendable. -/
theorem append_isOk_iff (db : Db) (hlog : db.log.Numbered) :
    (∃ db', append env runId taskId payload identity refs db = .ok ((), db')) ↔
      Appendable env db runId payload identity := by
  constructor
  · rintro ⟨db', h⟩
    rcases append_ok env runId taskId payload identity refs db db' () hlog h with ⟨event, hnext, _⟩
    simp only [append, bind_ok, get_ok, stableId_ok, boundedRuntimeIdentity_ok] at h
    rcases h with ⟨_, _, ⟨rfl, rfl⟩, eventId, _, ⟨heventId, rfl⟩, traceId, _, ⟨_, rfl⟩, h⟩
    split at h
    · rename_i hvalid
      refine ⟨hvalid, hnext.fresh, ?_⟩
      simp only [appendInSession, bind_ok, get_ok] at h
      rcases h with ⟨_, _, ⟨_, _, ⟨rfl, rfl⟩, h⟩, _⟩
      simp only [hnext.fresh, bind_ok, raiseWhen_ok] at h
      rcases h with ⟨_, _, ⟨hany, rfl⟩, _⟩
      intro stored hstored hsame
      refine hany (any_eq_true.mpr ⟨stored, hstored, ?_⟩)
      rw [decide_eq_true_eq, ← StableId.root_inj, hsame, heventId]
    · exact absurd h (throw_ok _ _ _ _)
  · rintro ⟨hvalid, hfresh, hevent⟩
    have heventId := isStableId_append_token "evt."
      (env.eventToken runId (db.log.nextSequence runId)) (by decide) (by decide)
    rcases boundedStableId_eq_some ["runtime." ++ runId.root] runId with ⟨traceId, htrace⟩
    let event : RunEvent :=
      { eventId := ⟨_, heventId⟩
        runId := runId
        taskId := some taskId
        sequenceNo := db.log.nextSequence runId
        occurredAt := env.occurredAt runId (db.log.nextSequence runId)
        idempotencyIdentity := identity
        traceId := traceId.root
        spanId := none
        payload := payload
        artifactRefs := refs
        payloadValid := hvalid }
    refine ⟨{ db with log := db.log.push event }, ?_⟩
    simp only [append, bind_ok, get_ok, stableId_ok, boundedRuntimeIdentity_ok]
    refine ⟨db, db, ⟨rfl, rfl⟩, ⟨_, heventId⟩, db, ⟨rfl, rfl⟩, traceId, db, ⟨htrace, rfl⟩, ?_⟩
    rw [dif_pos hvalid]
    simp only [appendInSession, bind_ok, get_ok, pure_ok]
    refine ⟨event, _, ⟨db, db, ⟨rfl, rfl⟩, ?_⟩, trivial, rfl⟩
    simp only [hfresh, bind_ok, raiseWhen_ok, modify_ok, pure_ok]
    refine ⟨(), db, ⟨?_, rfl⟩, (), db, ⟨not_not.mpr rfl, rfl⟩, (), _, rfl, rfl, rfl⟩
    rw [any_eq_true]
    rintro ⟨stored, hstored, hsame⟩
    rw [decide_eq_true_eq] at hsame
    exact hevent stored hstored (congrArg StableId.root hsame)

end

/-- What was recorded in parts was recorded together. -/
theorem Records.append (runId : RunId) (taskId : TaskId) (entries₂ : List Entry)
    (events₂ : List RunEvent) :
    ∀ (entries₁ : List Entry) (events₁ : List RunEvent) (log : EventLog),
      Records log runId taskId entries₁ events₁ →
      Records (log.pushAll events₁) runId taskId entries₂ events₂ →
      Records log runId taskId (entries₁ ++ entries₂) (events₁ ++ events₂)
  | [], [], _, _, h₂ => h₂
  | _ :: entries₁, event :: events₁, log, h₁, h₂ =>
    ⟨h₁.1, Records.append runId taskId entries₂ events₂ entries₁ events₁ (log.push event) h₁.2 h₂⟩
  | [], _ :: _, _, h₁, _ => h₁.elim
  | _ :: _, [], _, h₁, _ => h₁.elim

theorem Records.length_eq {runId : RunId} {taskId : TaskId} :
    ∀ {entries : List Entry} {events : List RunEvent} {log : EventLog},
      Records log runId taskId entries events → entries.length = events.length
  | [], [], _, _ => rfl
  | _ :: _, _ :: _, _, h => congrArg Nat.succ h.2.length_eq
  | [], _ :: _, _, h => h.elim
  | _ :: _, [], _, h => h.elim

theorem Records.numbered (runId : RunId) (taskId : TaskId) :
    ∀ (entries : List Entry) (events : List RunEvent) (log : EventLog),
      Records log runId taskId entries events → log.Numbered → (log.pushAll events).Numbered
  | [], [], _, _, hlog => hlog
  | _ :: entries, event :: events, log, h, hlog =>
    Records.numbered runId taskId entries events (log.push event) h.2
      (log.numbered_push hlog event (by rw [h.1.sequence_eq, h.1.runId_eq]))
  | [], _ :: _, _, h, _ => h.elim
  | _ :: _, [], _, h, _ => h.elim

/-- The store with more events in its log. -/
def Db.record (db : Db) (events : List RunEvent) : Db :=
  { db with log := db.log.pushAll events }

theorem Db.record_append (db : Db) (events₁ events₂ : List RunEvent) :
    (db.record events₁).record events₂ = db.record (events₁ ++ events₂) := by
  simp [record, EventLog.pushAll]

/-- An append records exactly its entry. -/
theorem append_records (env : Env) (runId : RunId) (taskId : TaskId) (payload : EventPayload)
    (identity : StableId) (refs : List ArtifactRef) (db db' : Db) (u : Unit)
    (h : append env runId taskId payload identity refs db = .ok (u, db')) (hlog : db.log.Numbered) :
    ∃ events, Records db.log runId taskId [⟨payload, identity, refs⟩] events ∧
      db' = db.record events := by
  rcases append_ok env runId taskId payload identity refs db db' u hlog h with ⟨event, hnext, rfl⟩
  exact ⟨[event], ⟨hnext, trivial⟩, rfl⟩

/-! ### Fences -/

/-- What a fence that passed its check proves about the store. -/
structure FenceValid (db : Db) (fence : AttemptFence) (requireWriterLane : Bool) (owned : Owned) :
    Prop where
  task : ∃ row, db.tasks.lookup fence.taskId = some row ∧ row.taskJson = owned.task
  taskWellFormed : owned.task.wellFormed = true
  project : owned.task.projectId = fence.projectId
  current : owned.task.currentAttemptId = some fence.attemptId
  attempt : ∃ row, db.attempts.lookup fence.attemptId = some row ∧ row.attemptJson = owned.attempt
  attemptWellFormed : owned.attempt.wellFormed = true
  token : owned.attempt.claimTokenDigest = digest fence.claimToken.root
  revision : fence.taskRevision ≤ owned.task.taskRevision
  generation : fence.writerGeneration = owned.task.writerGeneration
  lane : requireWriterLane = true → owned.task.kind.isCommit = true →
    0 < owned.task.writerGeneration →
    ∃ writer, db.writerClaims.lookup owned.task.projectId = some writer ∧
      writer.attemptId = owned.attempt.attemptId ∧
      writer.generation = owned.task.writerGeneration

/-- When a fence passes. -/
theorem requireFence_ok (fence : AttemptFence) (lane : Bool) (db db' : Db) (owned : Owned) :
    requireFence fence lane db = .ok (owned, db') ↔ FenceValid db fence lane owned ∧ db = db' := by
  simp only [requireFence, bind_ok, get_ok, loadTask_ok, fromOption_ok, restoreAttempt_ok,
    raiseWhen_ok, pure_ok]
  constructor
  · rintro ⟨task, _, ⟨⟨row, hrow, hjson, hwf⟩, rfl⟩, _, _, ⟨hcurrent, rfl⟩, _, _, ⟨rfl, rfl⟩,
      arow, _, ⟨harow, rfl⟩, attempt, _, ⟨⟨hajson, hawf⟩, rfl⟩, _, _, ⟨howner, rfl⟩, _, _,
      ⟨hlane, rfl⟩, rfl, rfl⟩
    push Not at hcurrent howner
    refine ⟨⟨⟨row, hrow, hjson⟩, hwf, hcurrent.1, hcurrent.2, ⟨arow, harow, hajson⟩, hawf,
      howner.1, howner.2.1, howner.2.2, ?_⟩, rfl⟩
    intro hrequire hkind hgeneration
    by_contra hnone
    refine hlane ⟨hrequire, hkind, hgeneration, ?_⟩
    intro hany
    rw [Option.any_eq_true] at hany
    rcases hany with ⟨writer, hwriter, hmatch⟩
    simp only [decide_eq_true_eq] at hmatch
    exact hnone ⟨writer, hwriter, hmatch.1, hmatch.2⟩
  · rintro ⟨hvalid, rfl⟩
    rcases hvalid.task with ⟨row, hrow, hjson⟩
    rcases hvalid.attempt with ⟨arow, harow, hajson⟩
    refine ⟨owned.task, db, ⟨⟨row, hrow, hjson, hvalid.taskWellFormed⟩, rfl⟩, (), db, ⟨?_, rfl⟩,
      db, db, ⟨rfl, rfl⟩, arow, db, ⟨harow, rfl⟩, owned.attempt, db,
      ⟨⟨hajson, hvalid.attemptWellFormed⟩, rfl⟩, (), db, ⟨?_, rfl⟩, (), db, ⟨?_, rfl⟩, rfl, rfl⟩
    · push Not
      exact ⟨hvalid.project, hvalid.current⟩
    · push Not
      exact ⟨hvalid.token, hvalid.revision, hvalid.generation⟩
    · rintro ⟨hrequire, hkind, hgeneration, hnone⟩
      rcases hvalid.lane hrequire hkind hgeneration with ⟨writer, hwriter, hid, hgen⟩
      exact hnone (by simp [hwriter, hid, hgen])

end NovelAgent.Runtime
