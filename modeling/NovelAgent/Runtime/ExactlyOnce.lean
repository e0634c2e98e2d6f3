import NovelAgent.Runtime.Reachable

/-!
# Atomic Commands and Exactly-Once Identities

What a command leaves in the log, and why no identity takes effect twice.
-/

namespace NovelAgent.Runtime

open Core Domain List

variable {log : EventLog} {runId : RunId} {taskId : TaskId} {entry : Entry}

namespace EventLog

/-- The events of one run, in the order they were appended. -/
def ofRun (log : EventLog) (runId : RunId) : List RunEvent :=
  log.events.filter fun event => event.runId = runId

/-- The run has an event under the identity. -/
def Has (log : EventLog) (runId : RunId) (identity : StableId) : Prop :=
  ∃ event ∈ log.events, event.runId = runId ∧ event.idempotencyIdentity = identity

/-- The events of every run are numbered from one without a gap, the next
    number follows the last, and no identity occurs twice. -/
structure Sound (log : EventLog) : Prop where
  next : ∀ r, log.nextSequence r = (log.ofRun r).length + 1
  contiguous : ∀ r, (log.ofRun r).map RunEvent.sequenceNo = List.range' 1 (log.ofRun r).length
  unique : ∀ r, ((log.ofRun r).map RunEvent.idempotencyIdentity).Nodup

theorem ofRun_push (log : EventLog) (event : RunEvent) (r : RunId) :
    (log.push event).ofRun r = log.ofRun r ++ if event.runId = r then [event] else [] := by
  by_cases h : event.runId = r <;> simp [ofRun, push, filter_append, h]

theorem eventWithIdentity_eq_none_iff (log : EventLog) (runId : RunId) (identity : StableId) :
    log.eventWithIdentity runId identity = none ↔ ¬ log.Has runId identity := by
  rw [eventWithIdentity_eq_none, Has]
  push Not
  rfl

theorem sound_push {event : RunEvent} (hnext : IsNext log runId taskId entry event)
    (hlog : log.Sound) : (log.push event).Sound := by
  have hrun := hnext.runId_eq
  have hseq : event.sequenceNo = (log.ofRun runId).length + 1 := by
    rw [hnext.sequence_eq, hlog.next]
  refine ⟨?_, ?_, ?_⟩
  · intro r
    rw [push_nextSequence, ofRun_push, hrun]
    by_cases hr : r = runId
    · rw [if_pos hr, if_pos hr.symm, hseq, hr, length_append, length_singleton]
    · rw [if_neg hr, if_neg (Ne.symm hr), append_nil, hlog.next]
  · intro r
    rw [ofRun_push, hrun]
    by_cases hr : runId = r
    · subst hr
      rw [if_pos rfl, map_append, hlog.contiguous, length_append, length_singleton,
        List.range'_concat, map_singleton, hseq, Nat.one_mul, Nat.add_comm]
    · rw [if_neg hr, append_nil, hlog.contiguous]
  · intro r
    rw [ofRun_push, hrun]
    by_cases hr : runId = r
    · subst hr
      rw [if_pos rfl, map_append, map_singleton, nodup_append]
      refine ⟨hlog.unique runId, nodup_singleton _, ?_⟩
      intro identity hidentity other hother hsame
      rw [mem_singleton, hnext.identity_eq] at hother
      rw [mem_map] at hidentity
      rcases hidentity with ⟨stored, hstored, rfl⟩
      have hmem := mem_filter.mp hstored
      exact (eventWithIdentity_eq_none _ _ _).mp hnext.fresh stored hmem.1
        (by simpa using hmem.2) (hsame.trans hother)
    · rw [if_neg hr, append_nil]
      exact hlog.unique r

end EventLog

/-- Recording entries keeps the log sound. -/
theorem Records.sound :
    ∀ {entries : List Entry} {events : List RunEvent} {log : EventLog},
      Records log runId taskId entries events → log.Sound → (log.pushAll events).Sound
  | [], [], _, _, hlog => hlog
  | _ :: _, _ :: _, _, h, hlog => h.2.sound (EventLog.sound_push h.1 hlog)
  | [], _ :: _, _, h, _ => h.elim
  | _ :: _, [], _, h, _ => h.elim

variable {env : Env} {command : Command} {db₀ db db' : Db}

theorem Move.sound (h : Move env command db₀ db db') (hlog : db.log.Sound) : db'.log.Sound := by
  rcases h.log_eq with hsame | ⟨runId, taskId, entries, events, hrecords, hpush⟩
  · rw [hsame]
    exact hlog
  · rw [hpush]
    exact hrecords.sound hlog

theorem sound_fresh (canon : Canon) : (Db.fresh canon).log.Sound :=
  ⟨fun _ => rfl, fun _ => rfl, fun _ => nodup_nil⟩

variable (service : Service)

/-- Every reachable log is sound. -/
theorem runCalls_sound (canon : Canon) (calls : List Call) :
    (runCalls service (Db.fresh canon) calls).log.Sound :=
  (runCalls_guarded service (fun _ _ => True) (fun db => db.log.Sound)
    (fun _ _ _ _ _ _ _ _ hmove hlog => hmove.sound hlog) (Db.fresh canon) calls
    (coherent_fresh canon) (sound_fresh canon)
    (guarded_of_forall service (fun _ => True) calls (fun _ _ => trivial) _)).2

theorem Moves.appends (h : Moves env command db₀ db db') :
    ∃ events, db'.log.events = db.log.events ++ events := by
  induction h with
  | refl => exact ⟨[], by simp⟩
  | tail _ hlast ih =>
    rcases ih with ⟨events, hevents⟩
    rcases hlast.log_eq with hsame | ⟨_, _, _, more, _, hpush⟩
    · exact ⟨events, by rw [hsame, hevents]⟩
    · exact ⟨events ++ more, by rw [hpush, EventLog.pushAll_events, hevents, append_assoc]⟩

theorem runCalls_appends (calls : List Call) :
    ∀ db, Coherent db →
      ∃ events, (runCalls service db calls).log.events = db.log.events ++ events := by
  induction calls with
  | nil =>
    intro db _
    exact ⟨[], by simp [runCalls]⟩
  | cons call calls ih =>
    intro db hdb
    rcases Moves.appends (step_moves service db call hdb) with ⟨events₁, hevents₁⟩
    rcases ih (step service db call) (step_coherent service db call hdb) with ⟨events₂, hevents₂⟩
    refine ⟨events₁ ++ events₂, ?_⟩
    rw [← append_assoc, ← hevents₁, ← hevents₂]
    rfl

theorem Records.mem :
    ∀ {entries : List Entry} {events : List RunEvent} {log : EventLog},
      Records log runId taskId entries events → entry ∈ entries →
      ¬ log.Has runId entry.identity ∧ (log.pushAll events).Has runId entry.identity
  | head :: entries, event :: events, log, h, hmem => by
      rcases mem_cons.mp hmem with rfl | htail
      · refine ⟨(EventLog.eventWithIdentity_eq_none_iff _ _ _).mp h.1.fresh, event, ?_, h.1.runId_eq,
          h.1.identity_eq⟩
        rw [EventLog.pushAll_events]
        exact mem_append_right _ mem_cons_self
      · rcases h.2.mem htail with ⟨hfresh, hhas⟩
        refine ⟨?_, hhas⟩
        rintro ⟨stored, hstored, hrun, hidentity⟩
        exact hfresh ⟨stored, mem_append_left _ hstored, hrun, hidentity⟩
  | [], [], _, _, hmem => absurd hmem not_mem_nil
  | [], _ :: _, _, h, _ => h.elim
  | _ :: _, [], _, h, _ => h.elim

variable {task task' : TaskRecord} {entries : List Entry} {identity : StableId}

/-- A rewriting command with an identity names the record it rewrites, and
    records an entry under that identity. -/
theorem Rewrites.signed (h : Rewrites command task task' entries)
    (hsignature : command.signature? = some (taskId, identity)) :
    taskId = task.taskId ∧ ∃ entry ∈ entries, entry.identity = identity := by
  cases h <;> simp_all [Command.signature?]

theorem Closes.signed {attempt attempt' : TaskAttempt}
    (h : Closes env command task task' attempt attempt' entries)
    (hsignature : command.signature? = some (taskId, identity)) :
    taskId = task.taskId ∧ ∃ entry ∈ entries, entry.identity = identity := by
  cases h with
  | externallySettled _ _ _ _ _ _ _ hcommand =>
    rcases hcommand with ⟨_, _, _, rfl, _⟩ | ⟨_, _, _, rfl⟩ <;> simp [Command.signature?] at hsignature
  | _ => simp_all [Command.signature?]

/-- Where the moves of a command with an identity can be: at the start, or
    past the record of an identity that was fresh there. -/
def SignedProgress (db₀ db : Db) (runId : RunId) (identity : StableId) : Prop :=
  db = db₀ ∨ ¬ db₀.log.Has runId identity ∧ db.log.Has runId identity

theorem EventLog.Has.pushAll (h : log.Has runId identity) (events : List RunEvent) :
    (log.pushAll events).Has runId identity := by
  rcases h with ⟨stored, hstored, hrun, hidentity⟩
  refine ⟨stored, ?_, hrun, hidentity⟩
  rw [pushAll_events]
  exact mem_append_left _ hstored

theorem SignedProgress.of_records {events : List RunEvent}
    (h : SignedProgress db₀ db runId entry.identity)
    (hrecords : Records db.log runId taskId entries events) (hentry : entry ∈ entries)
    (hlog : db'.log = db.log.pushAll events) : SignedProgress db₀ db' runId entry.identity := by
  rcases hrecords.mem hentry with ⟨hfresh, hhas⟩
  rcases h with rfl | ⟨_, hstored⟩
  · exact .inr ⟨hfresh, by rw [hlog]; exact hhas⟩
  · exact absurd hstored hfresh

theorem Move.signedProgress {task : TaskRecord} (h : Move env command db₀ db db')
    (hsignature : command.signature? = some (taskId, identity))
    (hstored : db₀.stored taskId = some task)
    (hprogress : SignedProgress db₀ db task.runId identity) :
    SignedProgress db₀ db' task.runId identity := by
  cases h with
  | created _ _ events habsent hcurrent hlater hentry hrecords =>
    rcases hlater with hunsigned | hlonger
    · rw [hunsigned] at hsignature
      exact absurd hsignature (by simp)
    · rcases hprogress with rfl | ⟨hfresh, hhas⟩
      · exact absurd hlonger (Nat.lt_irrefl _)
      · exact .inr ⟨hfresh, hhas.pushAll events⟩
  | rewritten row task' entries events hrow hstart hrewrites hrecords =>
    rcases hrewrites.signed hsignature with ⟨rfl, entry, hentry, rfl⟩
    obtain rfl : row.taskJson = task := Option.some.inj (hstart.symm.trans hstored)
    exact hprogress.of_records hrecords hentry rfl
  | opened row attempt fenceDigest identity' events workerId observed hrow hstart hcommand =>
    subst hcommand
    exact absurd hsignature (by simp [Command.signature?])
  | closed row task' arow attempt entries events hrow hstart hcurrent harow hcloses heffects hfrontier
      hrecords =>
    rcases hcloses.signed hsignature with ⟨rfl, entry, hentry, rfl⟩
    obtain rfl : row.taskJson = task := Option.some.inj (hstart.symm.trans hstored)
    exact hprogress.of_records hrecords hentry rfl
  | resolved row erow receipt identity' refs events hfirst hrow herow hstatus howner hrecords =>
    subst hfirst
    rcases howner with ⟨observed, rfl⟩ | ⟨hunsigned, _⟩
    · simp only [Command.signature?, Option.some.injEq, Prod.mk.injEq] at hsignature
      rcases hsignature with ⟨rfl, rfl⟩
      obtain rfl : row.taskJson = task :=
        Option.some.inj ((stored_of_lookup hrow).symm.trans hstored)
      exact hprogress.of_records hrecords mem_cons_self rfl
    · rw [hunsigned] at hsignature
      exact absurd hsignature (by simp)
  | laneTaken row attempt fence generation identity' events hfirst hrow hstart hcommand =>
    subst hcommand
    exact absurd hsignature (by simp [Command.signature?])
  | touched _ _ _ _ _ hunsigned =>
    rw [hunsigned] at hsignature
    exact absurd hsignature (by simp)
  | requested _ _ _ _ _ hunsigned =>
    rw [hunsigned] at hsignature
    exact absurd hsignature (by simp)
  | advanced _ hunsigned =>
    rw [hunsigned] at hsignature
    exact absurd hsignature (by simp)
  | checkpointed _ _ _ _ _ _ _ hunsigned =>
    rw [hunsigned] at hsignature
    exact absurd hsignature (by simp)

/-- A step of a command with an identity leaves the store alone, or the
    identity was fresh in its run and has been recorded. -/
theorem step_signed (db : Db) (call : Call) (task : TaskRecord) (taskId : TaskId)
    (identity : StableId) (hdb : Coherent db)
    (hsignature : call.command.signature? = some (taskId, identity))
    (hstored : db.stored taskId = some task) :
    SignedProgress db (step service db call) task.runId identity :=
  Moves.invariant (fun db' => SignedProgress db db' task.runId identity)
    (fun _ _ hmove hprogress => hmove.signedProgress hsignature hstored hprogress)
    (step_moves service db call hdb) (.inl rfl)

theorem step_contiguous (db : Db) (call : Call) (hdb : Coherent db) (hlog : db.log.Sound) :
    ∃ events, (step service db call).log.events = db.log.events ++ events ∧
      ∀ r, (events.filter fun event => event.runId = r).map RunEvent.sequenceNo =
        List.range' ((db.log.ofRun r).length + 1)
          (events.filter fun event => event.runId = r).length := by
  have hmoves := step_moves service db call hdb
  rcases Moves.appends hmoves with ⟨events, hevents⟩
  have hlog' : (step service db call).log.Sound :=
    Moves.invariant (fun db => db.log.Sound) (fun _ _ hmove hlog => hmove.sound hlog) hmoves hlog
  refine ⟨events, hevents, ?_⟩
  intro r
  have hnumbers := hlog'.contiguous r
  rw [EventLog.ofRun, hevents, filter_append, map_append, length_append,
    ← List.range'_append_1] at hnumbers
  have hold := hlog.contiguous r
  rw [EventLog.ofRun] at hold
  rw [hold, append_cancel_left_eq, Nat.add_comm] at hnumbers
  exact hnumbers

/-- For every reachable store and every call: a command that raises leaves the store as it was; one
    that succeeds appends events numbered directly after the last of their run, with identities
    that are pairwise distinct in the run; and of the commands that carry one identity in one run,
    at most one ever changes the store. -/
theorem command_atomicity (service : Service) (canon : Canon) (calls : List Call) (call : Call) :
    let db := runCalls service (Db.fresh canon) calls
    let db' := step service db call
    (∀ e, perform service call.env call.command db = .error e → db' = db) ∧
    (∀ r, (db.log.ofRun r).map RunEvent.sequenceNo = List.range' 1 (db.log.ofRun r).length) ∧
    (∃ events, db'.log.events = db.log.events ++ events ∧
      ∀ r, (events.filter fun event => event.runId = r).map RunEvent.sequenceNo =
        List.range' ((db.log.ofRun r).length + 1)
          (events.filter fun event => event.runId = r).length) ∧
    (∀ r, ((db'.log.ofRun r).map RunEvent.idempotencyIdentity).Nodup) ∧
    (∀ taskId identity task, call.command.signature? = some (taskId, identity) →
      db.stored taskId = some task → db.log.Has task.runId identity → db' = db) ∧
    (∀ taskId identity task taskId' task' between again,
      call.command.signature? = some (taskId, identity) → db.stored taskId = some task →
      again.command.signature? = some (taskId', identity) →
      (runCalls service db' between).stored taskId' = some task' → task'.runId = task.runId →
      db' ≠ db →
      step service (runCalls service db' between) again = runCalls service db' between) := by
  intro db db'
  have hdb : Coherent db := runCalls_coherent service canon calls
  have hlog : db.log.Sound := runCalls_sound service canon calls
  have hdb' : Coherent db' := step_coherent service db call hdb
  refine ⟨fun e he => step_of_error service db call e he, hlog.contiguous,
    step_contiguous service db call hdb hlog, ?_, ?_, ?_⟩
  · have hlog' : db'.log.Sound :=
      Moves.invariant (fun db => db.log.Sound) (fun _ _ hmove hlog => hmove.sound hlog)
        (step_moves service db call hdb) hlog
    exact hlog'.unique
  · intro taskId identity task hsignature hstored hhas
    rcases step_signed service db call task taskId identity hdb hsignature hstored with
      hsame | ⟨hfresh, _⟩
    · exact hsame
    · exact absurd hhas hfresh
  · intro taskId identity task taskId' task' between again hsignature hstored hagain hstored' hrun
      heffect
    -- The first command recorded the identity, and nothing removes an event.
    have hhas : db'.log.Has task.runId identity := by
      rcases step_signed service db call task taskId identity hdb hsignature hstored with
        hsame | ⟨_, hhas⟩
      · exact absurd hsame heffect
      · exact hhas
    have hhas' : (runCalls service db' between).log.Has task'.runId identity := by
      rcases runCalls_appends service between db' hdb' with ⟨events, hevents⟩
      rcases hhas with ⟨stored, hmem, hstoredRun, hidentity⟩
      exact ⟨stored, by rw [hevents]; exact mem_append_left _ hmem,
        hstoredRun.trans hrun.symm, hidentity⟩
    have hcoherent : Coherent (runCalls service db' between) :=
      run_invariant (step service) Coherent (fun db call hdb => step_coherent service db call hdb)
        _ hdb' between
    rcases step_signed service _ again task' taskId' identity hcoherent hagain hstored' with
      hsame | ⟨hfresh, _⟩
    · exact hsame
    · exact absurd hhas' hfresh

end NovelAgent.Runtime
