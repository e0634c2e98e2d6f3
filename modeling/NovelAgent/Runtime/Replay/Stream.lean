import NovelAgent.Runtime.ExactlyOnce

/-!
# Replaying a Stream

How the replay loop goes on when entries are recorded.
-/

namespace NovelAgent.Runtime

open Core Domain List

def opensAttempt? : EventPayload → Option StableId
  | .taskClaimed attempt _ => some attempt.attemptId
  | _ => none

/-- The attempt that a replay has to know before it can go on. -/
def needsAttempt? : EventPayload → Option StableId
  | .attemptStarted attemptId _ _ => some attemptId
  | .attemptSettled settled => some settled.attemptId
  | _ => none

def isCreation : EventPayload → Bool
  | .taskCreated _ => true
  | _ => false

/-- A record after several entries. -/
def projectEntries (task : TaskRecord) (entries : List Entry) : TaskRecord :=
  entries.foldl (fun task entry => projectTask task entry.payload entry.artifactRefs) task

/-- Where the loop stands once it has replayed the run's part of a log. -/
structure ReplayLoop.At (loop : ReplayLoop) (log : EventLog) (runId : RunId) : Prop where
  sequence : loop.expectedSequence = log.nextSequence runId
  active : loop.activeRun = none ∨ loop.activeRun = some runId

/-- The attempts after an entry whose attempt is known: those known before,
    and the one it opens. -/
theorem projectAttempts_isOk (attempts : Table StableId TaskAttempt) (payload : EventPayload)
    (hknown : ∀ a, needsAttempt? payload = some a → (attempts.lookup a).isSome) :
    ∃ attempts', projectAttempts attempts payload = .ok attempts' ∧
      ∀ a, (attempts.lookup a).isSome ∨ opensAttempt? payload = some a →
        (attempts'.lookup a).isSome := by
  -- Writing one attempt forgets no other.
  have hinsert : ∀ k attempt a, (attempts.lookup a).isSome ∨ k = a →
      ((attempts.insert k attempt).lookup a).isSome := by
    intro k attempt a ha
    rw [Table.lookup_insert_if]
    split
    · rfl
    · rename_i hne
      exact ha.resolve_right (Ne.symm hne)
  cases payload with
  | taskClaimed attempt fenceDigest =>
    refine ⟨_, rfl, fun a ha => hinsert _ _ a (ha.imp_right ?_)⟩
    exact Option.some.inj
  | attemptStarted attemptId workerId startedAt =>
    rcases Option.isSome_iff_exists.mp (hknown attemptId rfl) with ⟨attempt, hattempt⟩
    refine ⟨_, by rw [projectAttempts, hattempt], fun a ha => hinsert _ _ a (ha.imp_right ?_)⟩
    exact fun h => absurd h (by simp [opensAttempt?])
  | attemptSettled settled =>
    rcases Option.isSome_iff_exists.mp (hknown settled.attemptId rfl) with ⟨attempt, hattempt⟩
    refine ⟨_, by rw [projectAttempts, hattempt], fun a ha => hinsert _ _ a (ha.imp_right ?_)⟩
    exact fun h => absurd h (by simp [opensAttempt?])
  | _ => exact ⟨attempts, rfl, fun a ha => ha.resolve_right (by simp [opensAttempt?])⟩

variable {log : EventLog} {runId : RunId} {taskId : TaskId} {entry : Entry} {event : RunEvent}
    {loop : ReplayLoop} {state : ProjectionState}

theorem projectEvent_next (hloop : loop.At log runId)
    (hnext : IsNext log runId taskId entry event)
    (hstate : projectState loop.state event = .ok state) :
    ∃ loop', projectEvent loop event = .ok loop' ∧ loop'.state = state ∧
      loop'.At (log.push event) runId := by
  refine ⟨⟨state, loop.expectedSequence + 1, some event.runId⟩, ?_, rfl, ?_⟩
  · rw [projectEvent, if_neg, hstate]
    · rfl
    · rintro (hrun | hsequence)
      · rcases hloop.active with hnone | hsome
        · simp [hnone] at hrun
        · simp [hsome, hnext.runId_eq] at hrun
      · exact hsequence (hnext.sequence_eq.trans hloop.sequence.symm)
  · refine ⟨?_, .inr (congrArg some hnext.runId_eq)⟩
    rw [EventLog.push_nextSequence, if_pos hnext.runId_eq.symm, hnext.sequence_eq]
    exact congrArg (· + 1) hloop.sequence

variable {task : TaskRecord}

theorem projectState_known (hnext : IsNext log runId taskId entry event)
    (htask : state.tasks.lookup taskId = some task) (hentry : isCreation entry.payload = false)
    (hknown : ∀ a, needsAttempt? entry.payload = some a → (state.attempts.lookup a).isSome) :
    ∃ state', projectState state event = .ok state' ∧
      (∀ t, state'.tasks.lookup t =
        if t = taskId then some (projectTask task entry.payload entry.artifactRefs)
        else state.tasks.lookup t) ∧
      ∀ a, (state.attempts.lookup a).isSome ∨ opensAttempt? entry.payload = some a →
        (state'.attempts.lookup a).isSome := by
  rcases projectAttempts_isOk state.attempts entry.payload hknown with
    ⟨attempts, hattempts, hgrow⟩
  refine ⟨⟨state.tasks.insert taskId (projectTask task entry.payload entry.artifactRefs), attempts,
    projectEffects state.effects entry.payload⟩, ?_, ?_, hgrow⟩
  · rw [projectState, hnext.payload_eq, hnext.taskId_eq, hnext.refs_eq]
    cases hpayload : entry.payload with
    | taskCreated created =>
      rw [hpayload] at hentry
      exact absurd hentry (by simp [isCreation])
    | _ =>
      rw [hpayload] at hattempts
      simp only [htask, hattempts]
      rfl
  · intro t
    exact Table.lookup_insert_if _ _ _ _

/-- The loop after entries of a task that it knows. The induction is on the
    entries; the log grows with each of them and the attempts never shrink. -/
theorem foldlM_entries :
    ∀ {entries : List Entry} {events : List RunEvent} {log : EventLog} {loop : ReplayLoop}
      {task : TaskRecord}, loop.At log runId → Records log runId taskId entries events →
      loop.state.tasks.lookup taskId = some task →
      (∀ entry ∈ entries, isCreation entry.payload = false) →
      (∀ entry ∈ entries, ∀ a, needsAttempt? entry.payload = some a →
        (loop.state.attempts.lookup a).isSome) →
      ∃ loop', events.foldlM projectEvent loop = .ok loop' ∧
        loop'.At (log.pushAll events) runId ∧
        (∀ t, loop'.state.tasks.lookup t =
          if t = taskId then some (projectEntries task entries) else loop.state.tasks.lookup t) ∧
        ∀ a, ((loop.state.attempts.lookup a).isSome ∨
            ∃ entry ∈ entries, opensAttempt? entry.payload = some a) →
          (loop'.state.attempts.lookup a).isSome
  | [], [], log, loop, task, hloop, _, htask, _, _ => by
      refine ⟨loop, rfl, hloop, ?_, ?_⟩
      · intro t
        split
        · rename_i ht
          rw [ht, htask]
          rfl
        · rfl
      · rintro a (ha | ⟨_, hmem, _⟩)
        · exact ha
        · exact absurd hmem not_mem_nil
  | entry :: entries, event :: events, log, loop, task, hloop, hrecords, htask, hentries, hknown => by
      rcases projectState_known hrecords.1 htask (hentries entry mem_cons_self)
        (hknown entry mem_cons_self) with ⟨state, hstate, htasks, hattempts⟩
      rcases projectEvent_next hloop hrecords.1 hstate with ⟨loop₁, hevent, rfl, hloop₁⟩
      have htask₁ := htasks taskId
      rw [if_pos rfl] at htask₁
      rcases foldlM_entries hloop₁ hrecords.2 htask₁
        (fun other hother => hentries other (mem_cons_of_mem _ hother))
        (fun other hother a ha =>
          hattempts a (.inl (hknown other (mem_cons_of_mem _ hother) a ha))) with
        ⟨loop₂, hevents, hloop₂, htasks₂, hattempts₂⟩
      refine ⟨loop₂, ?_, hloop₂, ?_, ?_⟩
      · rw [foldlM_cons, hevent]
        exact hevents
      · intro t
        rw [htasks₂ t]
        split
        · rfl
        · rename_i ht
          rw [htasks t, if_neg ht]
      · rintro a (ha | ⟨other, hother, ha⟩)
        · exact hattempts₂ a (.inl (hattempts a (.inl ha)))
        · rcases mem_cons.mp hother with rfl | hother
          · exact hattempts₂ a (.inl (hattempts a (.inr ha)))
          · exact hattempts₂ a (.inr ⟨other, hother, ha⟩)
  | [], _ :: _, _, _, _, _, h, _, _, _ => h.elim
  | _ :: _, [], _, _, _, _, h, _, _, _ => h.elim

/-- The loop after the creation of a task. -/
theorem foldlM_creation {events : List RunEvent} (hloop : loop.At log runId)
    (hrecords : Records log runId taskId [entry] events)
    (hentry : entry.payload = .taskCreated task)
    (habsent : loop.state.tasks.lookup task.taskId = none) :
    ∃ loop', events.foldlM projectEvent loop = .ok loop' ∧ loop'.At (log.pushAll events) runId ∧
      (∀ t, loop'.state.tasks.lookup t =
        if t = task.taskId then some task else loop.state.tasks.lookup t) ∧
      loop'.state.attempts = loop.state.attempts := by
  cases events with
  | nil => exact hrecords.elim
  | cons event rest =>
    cases rest with
    | cons other rest => exact hrecords.2.elim
    | nil =>
      have hstate : projectState loop.state event =
          .ok { loop.state with tasks := loop.state.tasks.insert task.taskId task } := by
        rw [projectState, hrecords.1.payload_eq, hentry]
        simp [habsent]
      rcases projectEvent_next hloop hrecords.1 hstate with ⟨loop', hevent, hstate', hloop'⟩
      refine ⟨loop', ?_, hloop', ?_, ?_⟩
      · rw [foldlM_cons, hevent]
        rfl
      · intro t
        rw [hstate']
        exact Table.lookup_insert_if _ _ _ _
      · rw [hstate']

theorem Records.ofRun_pushAll (r : RunId) :
    ∀ {entries : List Entry} {events : List RunEvent} {log : EventLog},
      Records log runId taskId entries events →
      (log.pushAll events).ofRun r = log.ofRun r ++ if runId = r then events else []
  | [], [], log, _ => by simp [EventLog.pushAll]
  | _ :: _, event :: events, log, h => by
      have htail := h.2.ofRun_pushAll r
      rw [EventLog.ofRun_push, h.1.runId_eq] at htail
      change ((log.push event).pushAll events).ofRun r = _
      rw [htail]
      by_cases hr : runId = r <;> simp [hr]
  | [], _ :: _, _, h => h.elim
  | _ :: _, [], _, h => h.elim

theorem Records.nextSequence_of_ne {runId r : RunId} (hr : r ≠ runId) :
    ∀ {entries : List Entry} {events : List RunEvent} {log : EventLog},
      Records log runId taskId entries events →
      (log.pushAll events).nextSequence r = log.nextSequence r
  | [], [], _, _ => rfl
  | _ :: _, event :: events, log, h => by
      have htail := h.2.nextSequence_of_ne hr
      rw [EventLog.push_nextSequence, h.1.runId_eq, if_neg hr] at htail
      exact htail
  | [], _ :: _, _, h => h.elim
  | _ :: _, [], _, h => h.elim

/-- A replay from the beginning reads the events of the run in the order they were appended. -/
theorem EventLog.Sound.replay_eq {db : Db} (h : db.log.Sound) (runId : RunId) :
    replay db runId 0 = db.log.ofRun runId := by
  have hcontiguous := h.contiguous runId
  have hfilter : (db.log.events.filter fun event => event.runId = runId ∧ 0 < event.sequenceNo) =
      db.log.ofRun runId := by
    refine filter_congr ?_
    intro event hevent
    by_cases hrun : event.runId = runId
    · have hmem : event.sequenceNo ∈ List.range' 1 (db.log.ofRun runId).length := by
        rw [← hcontiguous]
        exact mem_map_of_mem (mem_filter.mpr ⟨hevent, by simpa using hrun⟩)
      rw [mem_range'_1] at hmem
      simp [hrun, Nat.lt_of_lt_of_le Nat.zero_lt_one hmem.1]
    · simp [hrun]
  rw [replay, hfilter]
  refine Pairwise.insertionSort_eq ?_
  rw [← pairwise_map, hcontiguous]
  exact (pairwise_lt_range' 1 Nat.one_pos).imp Nat.le_of_lt

end NovelAgent.Runtime
