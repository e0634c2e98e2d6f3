import NovelAgent.Core.Run
import NovelAgent.Events.Log

/-!
# Histories of the Log

What holds of the log after any calls, in any order and over any runs.
-/

namespace NovelAgent.Events

open Core Domain Core.Transaction List

variable {κ : Type}

variable {store : Store κ}

namespace Store

/-- The events of one run, as stored. -/
def stream (store : Store κ) (runId : RunId) : List (Event κ) :=
  store.events.filter fun event => event.runId = runId

/-- How far a run has got. -/
def head (store : Store κ) (runId : RunId) : Nat :=
  (store.streams.lookup runId).getD 0

theorem mem_stream {runId : RunId} {event : Event κ} :
    event ∈ store.stream runId ↔ event ∈ store.events ∧ event.runId = runId := by
  simp [stream]

theorem nextSequence_eq (store : Store κ) (runId : RunId) :
    store.nextSequence runId = store.head runId + 1 := by
  rw [nextSequence, head]
  cases store.streams.lookup runId with
  | none => rfl
  | some last => rfl

theorem stream_push (store : Store κ) (event : Event κ) (runId : RunId) :
    (store.push event).stream runId =
      store.stream runId ++ if event.runId = runId then [event] else [] := by
  rw [stream, push, filter_append]
  by_cases h : event.runId = runId
  · simp [h, stream]
  · simp [h, stream]

theorem head_push (store : Store κ) (event : Event κ) (runId : RunId) :
    (store.push event).head runId =
      if runId = event.runId then event.sequenceNo else store.head runId := by
  rw [head, push, Table.lookup_insert_if]
  split
  · rfl
  · rfl

/-- The invariant of the log. -/
structure Sound (store : Store κ) : Prop where
  numbered : ∀ runId, (store.stream runId).map Event.sequenceNo =
    List.range' 1 (store.head runId)
  identities : (store.events.map fun event => (event.runId, event.idempotencyIdentity)).Nodup
  eventIds : (store.events.map Event.eventId).Nodup
  positions : ∀ checkpointId row, store.checkpoints.lookup checkpointId = some row →
    row.checkpointJson.runId = row.runId ∧ row.checkpointJson.eventPosition = row.eventPosition ∧
      ∃ event ∈ store.events, event.runId = row.runId ∧ event.sequenceNo = row.eventPosition

theorem sound_empty : (empty : Store κ).Sound where
  numbered := by
    intro runId
    rfl
  identities := nodup_nil
  eventIds := nodup_nil
  positions := by
    intro checkpointId row hrow
    simp [empty] at hrow

/-- An event that carries the next number of its run, under an identity and an
    event id that nothing stored has, keeps the invariant. -/
theorem Sound.push (hs : store.Sound) {event : Event κ}
    (hidentity : store.eventWithIdentity event.runId event.idempotencyIdentity = none)
    (hid : ∀ stored ∈ store.events, stored.eventId ≠ event.eventId)
    (hnext : event.sequenceNo = store.nextSequence event.runId) : (store.push event).Sound where
  numbered := by
    intro runId
    rw [stream_push, head_push, map_append, hs.numbered runId]
    by_cases h : event.runId = runId
    · rw [if_pos h, if_pos h.symm, hnext, nextSequence_eq, h]
      -- The new number is the one that the range of the old ones stops before.
      rw [List.range'_concat]
      simp [hnext, nextSequence_eq, h, Nat.add_comm]
    · rw [if_neg h, if_neg (Ne.symm h)]
      simp
  identities := by
    rw [Store.push, map_append, map_singleton]
    refine hs.identities.append (nodup_singleton _) (disjoint_singleton.mpr ?_)
    rw [mem_map]
    rintro ⟨stored, hstored, hpair⟩
    have hfound := List.find?_eq_none.mp hidentity stored hstored
    exact hfound (by simpa using Prod.mk.inj hpair)
  eventIds := by
    rw [Store.push, map_append, map_singleton]
    refine hs.eventIds.append (nodup_singleton _) (disjoint_singleton.mpr ?_)
    rw [mem_map]
    rintro ⟨stored, hstored, heq⟩
    exact hid stored hstored heq
  positions := by
    intro checkpointId row hrow
    rcases hs.positions checkpointId row hrow with ⟨hrun, hposition, stored, hstored, hat⟩
    exact ⟨hrun, hposition, stored, mem_append_left _ hstored, hat⟩

theorem Sound.eventWithIdentity_eq (hs : store.Sound) {stored : Event κ}
    (hstored : stored ∈ store.events) :
    store.eventWithIdentity stored.runId stored.idempotencyIdentity = some stored := by
  rcases h : store.eventWithIdentity stored.runId stored.idempotencyIdentity with _ | found
  · have hnone := List.find?_eq_none.mp h stored hstored
    exact absurd hnone (by simp)
  · have hfound := List.find?_some h
    simp only [decide_eq_true_eq] at hfound
    have hmem : found ∈ store.events := mem_of_find?_eq_some h
    -- Two stored events of one run never share an identity.
    have hpair : (found.runId, found.idempotencyIdentity) =
        (stored.runId, stored.idempotencyIdentity) := by rw [hfound.1, hfound.2]
    rw [inj_on_of_nodup_map hs.identities hmem hstored hpair]

theorem Sound.replay_eq (hs : store.Sound) (runId : RunId) (after : Int) :
    replay store runId after =
      (store.stream runId).filter fun event => after < event.sequenceNo := by
  have hfilter : (store.events.filter fun event =>
        event.runId = runId ∧ after < event.sequenceNo) =
      (store.stream runId).filter fun event => after < event.sequenceNo := by
    rw [stream, filter_filter]
    congr 1
    funext event
    rw [Bool.decide_and, Bool.and_comm]
  have hsorted : (store.stream runId).Pairwise fun a b => a.sequenceNo ≤ b.sequenceNo := by
    have hrange : (List.range' 1 (store.head runId)).Pairwise (· ≤ ·) :=
      (pairwise_lt_range' (s := 1) (n := store.head runId)).imp Nat.le_of_lt
    rw [← hs.numbered runId, pairwise_map] at hrange
    exact hrange
  rw [replay, hfilter]
  exact (hsorted.filter _).insertionSort_eq

/-- In a list numbered from `s + 1` on, the members above a number are what
    is left after the ones up to it. -/
theorem filter_numbered {α : Type} (number : α → Nat) (b : Nat) :
    ∀ (l : List α) (s n : Nat), l.map number = List.range' (s + 1) n →
      (l.filter fun a => b < number a) = l.drop (b - s) := by
  intro l
  induction l with
  | nil =>
    intro s n _
    simp
  | cons a l ih =>
    intro s n h
    cases n with
    | zero => exact absurd h (by simp)
    | succ n =>
      rw [map_cons, List.range'_succ, List.cons.injEq] at h
      have hrest := ih (s + 1) n h.2
      by_cases hb : b ≤ s
      · -- Everything from here on is above the number.
        have hnone : b - (s + 1) = 0 := by omega
        rw [filter_cons_of_pos (by simp; omega), hrest, hnone, show b - s = 0 by omega]
        rfl
      · rw [filter_cons_of_neg (by simp; omega), hrest,
          show b - s = b - (s + 1) + 1 by omega]
        rfl

theorem Sound.filter_stream (hs : store.Sound) (runId : RunId) (b : Nat) :
    ((store.stream runId).filter fun event => b < event.sequenceNo) =
      (store.stream runId).drop b :=
  filter_numbered Event.sequenceNo b (store.stream runId) 0 (store.head runId) (hs.numbered runId)

theorem Sound.length_stream (hs : store.Sound) (runId : RunId) :
    (store.stream runId).length = store.head runId := by
  rw [← length_map Event.sequenceNo, hs.numbered, length_range']

end Store

/-- Everything an append can do: answer with a stored event, or store this one. -/
theorem append_cases [DecidableEq κ] {event answer : Event κ} {store store' : Store κ}
    (h : append event store = .ok (answer, store')) :
    (store.eventWithIdentity event.runId event.idempotencyIdentity = some answer ∧
      answer = event.at answer ∧ store' = store) ∨
    (store.eventWithIdentity event.runId event.idempotencyIdentity = none ∧
      (∀ stored ∈ store.events, stored.eventId ≠ event.eventId) ∧
      event.sequenceNo = store.nextSequence event.runId ∧ answer = event ∧
      store' = store.push event) := by
  simp only [append, bind_ok, get_ok] at h
  rcases h with ⟨_, _, ⟨rfl, rfl⟩, h⟩
  cases hfound : store.eventWithIdentity event.runId event.idempotencyIdentity with
  | some existing =>
    simp only [hfound, bind_ok, raiseWhen_ok, pure_ok] at h
    rcases h with ⟨_, _, ⟨hequal, rfl⟩, rfl, rfl⟩
    exact .inl ⟨rfl, not_not.mp hequal, rfl⟩
  | none =>
    simp only [hfound, bind_ok, raiseWhen_ok, modify_ok, pure_ok] at h
    rcases h with ⟨_, _, ⟨hid, rfl⟩, _, _, ⟨hnext, rfl⟩, _, _, rfl, rfl, rfl⟩
    refine .inr ⟨rfl, ?_, not_not.mp hnext, rfl, rfl⟩
    intro stored hstored heq
    exact hid (any_eq_true.mpr ⟨stored, hstored, by simp [heq]⟩)

variable {checkpoint answer : RunCheckpoint}

/-- Everything the save of a checkpoint can do: answer with a stored one, or
    store this one at a position that has an event. -/
theorem saveCheckpoint_cases {store store' : Store κ}
    (h : saveCheckpoint checkpoint store = .ok (answer, store')) :
    store' = store ∨
    ((∃ event ∈ store.events,
        event.runId = checkpoint.runId ∧ event.sequenceNo = checkpoint.eventPosition) ∧
      store' = { store with
        checkpoints := store.checkpoints.insert checkpoint.checkpointId
          { runId := checkpoint.runId
            eventPosition := checkpoint.eventPosition
            checkpointJson := checkpoint } }) := by
  simp only [saveCheckpoint, bind_ok, get_ok, fromOption_ok, raiseWhen_ok] at h
  rcases h with ⟨_, _, ⟨rfl, rfl⟩, last, _, ⟨hlast, rfl⟩, _, _, ⟨hwatermark, rfl⟩, h⟩
  cases hfound : store.checkpoints.lookup checkpoint.checkpointId with
  | some existing =>
    simp only [hfound, bind_ok, raiseWhen_ok, pure_ok] at h
    rcases h with ⟨_, _, ⟨_, rfl⟩, _, rfl⟩
    exact .inl rfl
  | none =>
    simp only [hfound, bind_ok, raiseWhen_ok, modify_ok, pure_ok] at h
    rcases h with ⟨_, _, ⟨hexists, rfl⟩, _, _, ⟨_, rfl⟩, _, _, rfl, _, rfl⟩
    rw [not_not, any_eq_true] at hexists
    rcases hexists with ⟨event, hevent, hat⟩
    exact .inr ⟨⟨event, hevent, by simpa using hat⟩, rfl⟩

theorem append_sound [DecidableEq κ] {event answer : Event κ} {store store' : Store κ}
    (hs : store.Sound) (h : append event store = .ok (answer, store')) : store'.Sound := by
  rcases append_cases h with ⟨_, _, rfl⟩ | ⟨hidentity, hid, hnext, _, rfl⟩
  · exact hs
  · exact hs.push hidentity hid hnext

theorem saveCheckpoint_sound {store store' : Store κ} (hs : store.Sound)
    (h : saveCheckpoint checkpoint store = .ok (answer, store')) : store'.Sound := by
  rcases saveCheckpoint_cases h with rfl | ⟨hexists, rfl⟩
  · exact hs
  · refine ⟨hs.numbered, hs.identities, hs.eventIds, ?_⟩
    exact Table.forall_lookup_insert hs.positions ⟨rfl, rfl, hexists⟩

section Steps

variable [DecidableEq κ]

theorem perform_error (store : Store κ) (call : Call κ) (error : LogError)
    (h : (perform store call).1 = .error error) : (perform store call).2 = store := by
  cases call with
  | append event =>
    rw [perform, atomically] at h ⊢
    split at h
    · simp at h
    · rfl
  | save checkpoint =>
    rw [perform, atomically] at h ⊢
    split at h
    · simp at h
    · rfl
  | _ => rfl

theorem step_cases (store : Store κ) (call : Call κ) :
    step store call = store ∨
    (∃ event answer, append event store = .ok (answer, step store call)) ∨
    ∃ checkpoint answer, saveCheckpoint checkpoint store = .ok (answer, step store call) := by
  cases call with
  | append event =>
    rw [step, perform]
    cases h : append event store with
    | error error =>
      rw [atomically_error _ _ error]
      · exact .inl rfl
      · rw [map_eq_pure_bind, bind_error]
        exact .inl h
    | ok result =>
      rcases result with ⟨answer, store'⟩
      rw [atomically_ok _ _ store' (Answer.event answer)]
      · exact .inr (.inl ⟨event, answer, h⟩)
      · rw [map_eq_pure_bind, bind_ok]
        exact ⟨answer, store', h, (pure_ok _ _ _ _).mpr ⟨rfl, rfl⟩⟩
  | save checkpoint =>
    rw [step, perform]
    cases h : saveCheckpoint checkpoint store with
    | error error =>
      rw [atomically_error _ _ error]
      · exact .inl rfl
      · rw [map_eq_pure_bind, bind_error]
        exact .inl h
    | ok result =>
      rcases result with ⟨answer, store'⟩
      rw [atomically_ok _ _ store' (Answer.checkpoint answer)]
      · exact .inr (.inr ⟨checkpoint, answer, h⟩)
      · rw [map_eq_pure_bind, bind_ok]
        exact ⟨answer, store', h, (pure_ok _ _ _ _).mpr ⟨rfl, rfl⟩⟩
  | _ => exact .inl rfl

/-- A call keeps the invariant. -/
theorem step_sound (store : Store κ) (call : Call κ) (hs : store.Sound) :
    (step store call).Sound := by
  rcases step_cases store call with hsame | ⟨event, answer, happend⟩ | ⟨checkpoint, answer, hsave⟩
  · rw [hsame]
    exact hs
  · exact append_sound hs happend
  · exact saveCheckpoint_sound hs hsave

/-- An event that agrees with a stored one up to its time and span is answered
    with the stored one, and nothing changes. -/
theorem append_stored (hs : store.Sound) {stored event : Event κ}
    (hstored : stored ∈ store.events) (hagree : stored = event.at stored) :
    perform store (.append event) = (.ok (.event stored), store) := by
  have hrun : event.runId = stored.runId := by rw [hagree]; rfl
  have hidentity : event.idempotencyIdentity = stored.idempotencyIdentity := by rw [hagree]; rfl
  have hfound : store.eventWithIdentity event.runId event.idempotencyIdentity = some stored := by
    rw [hrun, hidentity]
    exact hs.eventWithIdentity_eq hstored
  have hok : append event store = .ok (stored, store) := by
    simp only [append, bind_ok, get_ok]
    refine ⟨store, store, ⟨rfl, rfl⟩, ?_⟩
    simp only [hfound, bind_ok, raiseWhen_ok, pure_ok]
    exact ⟨(), store, ⟨not_not.mpr hagree, rfl⟩, trivial, rfl⟩
  rw [perform]
  apply atomically_ok
  rw [map_eq_pure_bind, bind_ok]
  exact ⟨stored, store, hok, (pure_ok _ _ _ _).mpr ⟨rfl, rfl⟩⟩

/-- After any calls over any runs: the numbers of each run are exactly one to its head; no two
    events of a run share an identity and no two events an event id; a repeated event is answered
    with the stored one and changes nothing; a call that raises changes nothing; a replay returns
    exactly the events after the position, in order; and every checkpoint names a position that has
    an event. -/
theorem event_log_integrity (calls : List (Call κ)) :
    let store := run step Store.empty calls
    (∀ runId, (store.stream runId).map Event.sequenceNo = List.range' 1 (store.head runId)) ∧
    (∀ runId, ((store.stream runId).map Event.idempotencyIdentity).Nodup) ∧
    (store.events.map Event.eventId).Nodup ∧
    (∀ stored ∈ store.events, ∀ event : Event κ, stored = event.at stored →
      perform store (.append event) = (.ok (.event stored), store)) ∧
    (∀ call error, (perform store call).1 = .error error → (perform store call).2 = store) ∧
    (∀ runId after, ∃ events, perform store (.replay runId after) = (.ok (.events events), store) ∧
      events = (store.stream runId).filter (fun event => after < event.sequenceNo) ∧
      events.map Event.sequenceNo =
        (List.range' 1 (store.head runId)).filter (fun number : Nat => after < number)) ∧
    ∀ checkpointId row, store.checkpoints.lookup checkpointId = some row →
      row.checkpointJson.runId = row.runId ∧
      row.checkpointJson.eventPosition = row.eventPosition ∧
      ∃ event ∈ store.stream row.runId, event.sequenceNo = row.eventPosition := by
  intro store
  have hs : store.Sound := run_invariant step Store.Sound step_sound _ Store.sound_empty calls
  refine ⟨hs.numbered, ?_, hs.eventIds, fun stored hstored event hagree =>
    append_stored hs hstored hagree, perform_error store, ?_, ?_⟩
  · -- Identities are unique as pairs with their run, so they are within one run.
    intro runId
    have hpairs := (filter_sublist (p := fun event : Event κ => event.runId = runId)
      (l := store.events)).map (fun event => (event.runId, event.idempotencyIdentity))
    have hnodup := hs.identities.sublist hpairs
    refine Nodup.of_map (fun identity => (runId, identity)) ?_
    rw [map_map]
    convert hnodup using 1
    refine map_congr_left fun event hevent => ?_
    rw [Function.comp_apply, (Store.mem_stream.mp hevent).2]
  · intro runId after
    refine ⟨_, rfl, hs.replay_eq runId after, ?_⟩
    rw [hs.replay_eq, ← hs.numbered runId, filter_map]
    rfl
  · intro checkpointId row hrow
    rcases hs.positions checkpointId row hrow with
      ⟨hsame, hposition, event, hevent, hrun, hat⟩
    exact ⟨hsame, hposition, event, Store.mem_stream.mpr ⟨hevent, hrun⟩, hat⟩

theorem step_stream (store : Store κ) (call : Call κ) (runId : RunId) :
    ∃ more, (step store call).stream runId = store.stream runId ++ more := by
  rcases step_cases store call with hsame | ⟨event, answer, happend⟩ | ⟨checkpoint, answer, hsave⟩
  · exact ⟨[], by rw [hsame, append_nil]⟩
  · rcases append_cases happend with ⟨_, _, hsame⟩ | ⟨_, _, _, _, hpush⟩
    · exact ⟨[], by rw [hsame, append_nil]⟩
    · exact ⟨_, by rw [hpush, Store.stream_push]⟩
  · rcases saveCheckpoint_cases hsave with hsame | ⟨_, hsaved⟩
    · exact ⟨[], by rw [hsame, append_nil]⟩
    · exact ⟨[], by rw [hsaved, append_nil]; rfl⟩

/-- A reader that goes on from the head it has reached misses nothing and reads nothing twice,
    whatever is called in between. -/
theorem replay_resumes (before later : List (Call κ)) (runId : RunId) (after : Nat) :
    let store := run step Store.empty before
    let store' := run step store later
    replay store' runId after =
      replay store runId after ++ replay store' runId (max after (store.head runId) : Nat) := by
  intro store store'
  have hs : store.Sound := run_invariant step Store.Sound step_sound _ Store.sound_empty before
  have hs' : store'.Sound := run_invariant step Store.Sound step_sound _ hs later
  obtain ⟨more, hmore⟩ : ∃ more, store'.stream runId = store.stream runId ++ more :=
    run_invariant step (fun now => ∃ more, now.stream runId = store.stream runId ++ more)
      (fun now call ⟨more, hmore⟩ =>
        have ⟨new, hnew⟩ := step_stream now call runId
        ⟨more ++ new, by rw [hnew, hmore, append_assoc]⟩)
      store ⟨[], by rw [append_nil]⟩ later
  simp only [hs.replay_eq, hs'.replay_eq, Int.ofNat_lt, hs.filter_stream, hs'.filter_stream]
  rw [← hs.length_stream, hmore, drop_append, drop_append,
    drop_eq_nil_of_le (Nat.le_max_right ..), nil_append]
  congr 2
  omega

end Steps

end NovelAgent.Events
