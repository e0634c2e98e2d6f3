import NovelAgent.Projection.Fencing

/-!
# Draining the Outbox

How far one worker gets with the rows that wait.
-/

namespace NovelAgent.Projection

open Core Domain ProjectionStore List

/-- An exception, as its text and the name of its type. -/
abbrev Raised := String × String

/-- The worker. How the errors of the outbox print is not modelled. -/
structure DerivedProjectionService where
  workerId : String
  leaseSeconds : Int
  projectId : Option ProjectId
  shown : OutboxError → Raised
  workerId_ne : workerId ≠ ""
  leaseSeconds_pos : 1 ≤ leaseSeconds

/-- When a row is taken, and what the builder makes of it. -/
structure Turn where
  now : Int
  build : ProjectId → CommitId → Except Raised DerivedSnapshotLite

/-- A completion or a failure from its read to its commit. -/
def ProjectionStore.whole (opened : Except OutboxError ProjectionStore) (worker : String) :
    Except OutboxError ProjectionStore := do
  let s ← opened
  match s.callOf worker with
  | none => pure s
  | some call => (s.close worker).commitCall call

namespace DerivedProjectionService

variable (service : DerivedProjectionService)

def project (turn : Turn) (s : ProjectionStore) (row : OutboxRow) :
    Except Raised ProjectionStore := do
  let snapshot ← turn.build row.projectId row.sourceCommit
  (whole (s.beginComplete row.outboxId snapshot service.workerId) service.workerId).mapError
    service.shown

/-- One turn of the worker. -/
def processOne (turn : Turn) (s : ProjectionStore) : Except Raised Bool × ProjectionStore :=
  match s.claimNext service.workerId service.leaseSeconds service.projectId turn.now [] with
  | .error error => (.error (service.shown error), s)
  | .ok (none, s) => (.ok false, s)
  | .ok (some row, s) =>
    match service.project turn s row with
    | .ok s' => (.ok true, s')
    | .error raised =>
      match whole (s.beginFail row.outboxId raised.1 raised.2 service.workerId)
        service.workerId with
      | .ok s' => (.error raised, s')
      | .error error => (.error (service.shown error), s)

def drain (turns : Nat → Turn) : Nat → Nat → ProjectionStore → Except Raised Nat × ProjectionStore
  | 0, processed, s => (.ok processed, s)
  | items + 1, processed, s =>
    match service.processOne (turns processed) s with
    | (.ok true, s') => drain turns items (processed + 1) s'
    | (.ok false, s') => (.ok processed, s')
    | (.error raised, s') => (.error raised, s')

/-- The worker's loop. -/
def processAll (turns : Nat → Turn) (maxItems : Int) (s : ProjectionStore) :
    Except Raised Nat × ProjectionStore :=
  if maxItems < 1 then (.error ("max_items must be positive", "ValueError"), s)
  else service.drain turns maxItems.toNat 0 s

end DerivedProjectionService

/-! ### The queue -/

/-- The row is not completed and of the worker's project. -/
def OutboxRow.Waits (projectId : Option ProjectId) (row : OutboxRow) : Prop :=
  row.status ≠ .completed ∧ ∀ id ∈ projectId, row.projectId = id

instance (projectId : Option ProjectId) (row : OutboxRow) : Decidable (row.Waits projectId) := by
  unfold OutboxRow.Waits
  infer_instance

/-- The rows that wait, in the order in which they are taken. -/
def queue (projectId : Option ProjectId) (s : ProjectionStore) : List OutboxRow :=
  (s.outbox.filter (·.Waits projectId)).insertionSort OutboxRow.Before

/-- Nobody works at a row. -/
structure Rested (s : ProjectionStore) : Prop where
  keys : (s.outbox.map (·.outboxId)).Nodup
  idle : s.calls = []
  nobody : ∀ row ∈ s.outbox, row.status ≠ .processing

section

variable {s s' : ProjectionStore} {row : OutboxRow} {rest : List OutboxRow} {worker : String}
  {projectId : Option ProjectId} (service : DerivedProjectionService) {turn : Turn}

theorem before_total (a b : OutboxRow) : a.Before b ∨ b.Before a := by
  unfold OutboxRow.Before
  rcases Int.lt_trichotomy a.createdAt b.createdAt with h | h | h
  · exact .inl (.inl h)
  · exact (String.le_total a.outboxId b.outboxId).imp (.inr ⟨h, ·⟩) (.inr ⟨h.symm, ·⟩)
  · exact .inr (.inl h)

theorem before_trans (a b c : OutboxRow) (hab : a.Before b) (hbc : b.Before c) : a.Before c := by
  rcases hab with hab | ⟨hab, hids⟩ <;> rcases hbc with hbc | ⟨hbc, hids'⟩
  · exact .inl (hab.trans hbc)
  · exact .inl (hbc ▸ hab)
  · exact .inl (hab ▸ hbc)
  · exact .inr ⟨hab.trans hbc, String.le_trans hids hids'⟩

instance : Std.Total OutboxRow.Before := ⟨before_total⟩

instance : IsTrans OutboxRow OutboxRow.Before := ⟨before_trans⟩

theorem mem_queue : row ∈ queue projectId s ↔ row ∈ s.outbox ∧ row.Waits projectId := by
  rw [queue, mem_insertionSort, mem_filter, decide_eq_true_eq]

/-- The queue is the one list of the waiting rows that is in order. -/
theorem queue_eq (hperm : (s.outbox.filter (·.Waits projectId)).Perm rest)
    (hsorted : rest.Pairwise OutboxRow.Before) (hkeys : (rest.map (·.outboxId)).Nodup) :
    queue projectId s = rest := by
  refine Perm.eq_of_pairwise ?_ (pairwise_insertionSort _ _) hsorted
    ((perm_insertionSort _ _).trans hperm)
  intro a b ha hb hab hba
  have hsame : a.outboxId = b.outboxId := by
    rcases hab with hab | ⟨_, hab⟩ <;> rcases hba with hba | ⟨_, hba⟩
    · exact absurd hab hba.asymm
    · omega
    · omega
    · exact String.le_antisymm hab hba
  exact inj_on_of_nodup_map hkeys (((perm_insertionSort _ _).trans hperm).mem_iff.mp ha)
    hb hsame

theorem updateRow_split {outboxId : String} {change : OutboxRow → OutboxRow}
    {before after : List OutboxRow} (hid : row.outboxId = outboxId)
    (hkeys : ((before ++ row :: after).map (·.outboxId)).Nodup) :
    updateRow outboxId change (before ++ row :: after) = before ++ change row :: after := by
  have hother : ∀ other ∈ before ++ after, other.outboxId ≠ outboxId := by
    intro other hother hsame
    rw [(perm_middle.map _).nodup_iff, map_cons, nodup_cons] at hkeys
    exact hkeys.1 (mem_map.mpr ⟨other, hother, hsame.trans hid.symm⟩)
  have hkept {part : List OutboxRow} (hpart : part ⊆ before ++ after) :
      part.map (fun row => if row.outboxId = outboxId then change row else row) = part := by
    rw [map_congr_left fun other hmem => if_neg (hother other (hpart hmem)), map_id']
  rw [updateRow, map_append, map_cons, if_pos hid,
    hkept (subset_append_left _ _), hkept (subset_append_right _ _)]

/-- What becomes of the queue when its first row changes. -/
theorem queue_updateRow {change : OutboxRow → OutboxRow}
    (hkeys : (s.outbox.map (·.outboxId)).Nodup)
    (hqueue : queue projectId s = row :: rest)
    (hchange : (change row).outboxId = row.outboxId ∧ (change row).createdAt = row.createdAt ∧
      (change row).projectId = row.projectId)
    (houtbox : s'.outbox = updateRow row.outboxId change s.outbox) :
    queue projectId s' = if (change row).status = .completed then rest else change row :: rest := by
  have hrow := mem_queue.mp (hqueue ▸ mem_cons_self)
  have hsorted : (row :: rest).Pairwise OutboxRow.Before :=
    hqueue ▸ pairwise_insertionSort _ _
  have hperm : (s.outbox.filter (·.Waits projectId)).Perm (row :: rest) :=
    hqueue ▸ (perm_insertionSort _ _).symm
  have hnodup : ((row :: rest).map (·.outboxId)).Nodup :=
    (hperm.map _).nodup_iff.mp ((filter_sublist.map _).nodup hkeys)
  obtain ⟨before, after, hsplit⟩ := append_of_mem hrow.1
  rw [hsplit] at hperm hkeys houtbox
  rw [updateRow_split rfl hkeys] at houtbox
  -- What waits beside the row.
  have hothers : ((before ++ after).filter (·.Waits projectId)).Perm rest := by
    have hrest := (perm_middle.symm.filter fun row : OutboxRow =>
      row.Waits projectId).trans hperm
    rw [filter_cons, if_pos (decide_eq_true hrow.2)] at hrest
    exact hrest.cons_inv
  have hall : (s'.outbox.filter (·.Waits projectId)).Perm
      ((change row :: (before ++ after)).filter (·.Waits projectId)) := by
    rw [houtbox]
    exact perm_middle.filter _
  have hbefore : ∀ other ∈ rest, (change row).Before other := by
    intro other hother
    rw [OutboxRow.Before, hchange.1, hchange.2.1]
    exact rel_of_pairwise_cons hsorted hother
  split
  · rename_i hcompleted
    rw [filter_cons, if_neg (by simp [OutboxRow.Waits, hcompleted])] at hall
    exact queue_eq (hall.trans hothers) hsorted.of_cons (nodup_cons.mp hnodup).2
  · rename_i hopen
    have hwaits : (change row).Waits projectId := ⟨hopen, by rw [hchange.2.2]; exact hrow.2.2⟩
    rw [filter_cons, if_pos (decide_eq_true hwaits)] at hall
    refine queue_eq (hall.trans (hothers.cons _)) (pairwise_cons.mpr ⟨hbefore,
      hsorted.of_cons⟩) ?_
    rw [map_cons, hchange.1]
    exact hnodup

/-! ### One row -/

theorem Rested.nextRow (h : Rested s) (now : Int) :
    s.nextRow projectId now [] = (queue projectId s).head? := by
  unfold ProjectionStore.nextRow queue
  congr 2
  refine filter_congr fun row hrow => decide_eq_decide.mpr ?_
  have hnobody := h.nobody row hrow
  cases hstatus : row.status <;> simp_all [OutboxRow.Claimable, OutboxRow.Waits]

theorem requireProcessing_of_mem (hkeys : (s.outbox.map (·.outboxId)).Nodup)
    (hrow : row ∈ s.outbox) (hstatus : row.status = .processing)
    (hclaimed : row.claimedBy = some worker) :
    s.requireProcessing row.outboxId worker = .ok row := by
  have hfind : s.outbox.find? (fun other => other.outboxId = row.outboxId) = some row := by
    cases hfound : s.outbox.find? (fun other => other.outboxId = row.outboxId) with
    | none => exact absurd (decide_eq_true rfl) (List.find?_eq_none.mp hfound row hrow)
    | some other =>
      rw [inj_on_of_nodup_map hkeys (mem_of_find?_eq_some hfound) hrow
        (by simpa using List.find?_some hfound)]
  simp [requireProcessing, hfind, hstatus, hclaimed, pure, Except.pure]

theorem whole_begun (hidle : s.calls = []) (outboxId : String) (write : CallWrite) :
    whole (.ok { s with calls := s.calls ++ [⟨worker, outboxId, write⟩] }) worker =
      (s.writeSnapshot write).map fun snapshots =>
        ⟨updateRow outboxId (·.settled write) s.outbox, snapshots, []⟩ := by
  simp only [whole, hidle, nil_append, callOf, bind, Except.bind, List.find?_cons_of_pos,
    decide_true, close, commitCall]
  have hclosed : List.filter (fun call => decide (call.worker ≠ worker))
      [(⟨worker, outboxId, write⟩ : OpenCall)] = [] := by
    simp
  have hsame : (⟨s.outbox, s.snapshots, []⟩ : ProjectionStore).writeSnapshot write =
      s.writeSnapshot write := by
    cases write <;> rfl
  rw [hclosed, hsame]
  cases s.writeSnapshot write <;> rfl

theorem beginComplete_completes {outboxId : String} {snapshot : DerivedSnapshotLite}
    (h : s.beginComplete outboxId snapshot worker = .ok s') :
    ∃ write, (∀ row : OutboxRow, (row.settled write).status = .completed) ∧
      s' = { s with calls := s.calls ++ [⟨worker, outboxId, write⟩] } := by
  unfold beginComplete at h
  simp only [Outcome.ite_throw_bind_eq_ok, Outcome.bind_eq_ok] at h
  rcases h with ⟨_, _, row, _, _, hwrite⟩
  split at hwrite
  · exact ⟨_, fun _ => rfl, ((Outcome.pure_eq_ok _ _).mp hwrite).symm⟩
  · rw [Outcome.ite_throw_eq_ok, Outcome.pure_eq_ok] at hwrite
    exact ⟨_, fun _ => rfl, hwrite.2.symm⟩

theorem project_eq_ok (hidle : s.calls = []) (h : service.project turn s row = .ok s') :
    ∃ write, (∀ row : OutboxRow, (row.settled write).status = .completed) ∧ s'.calls = [] ∧
      s'.outbox = updateRow row.outboxId (·.settled write) s.outbox ∧
      ∃ snapshot, turn.build row.projectId row.sourceCommit = .ok snapshot := by
  unfold DerivedProjectionService.project at h
  rw [Outcome.bind_eq_ok] at h
  rcases h with ⟨snapshot, hbuild, hwhole⟩
  rw [Outcome.mapError_eq_ok] at hwhole
  cases hbegin : s.beginComplete row.outboxId snapshot service.workerId with
  | error error =>
    rw [hbegin] at hwhole
    cases hwhole
  | ok opened =>
    rcases beginComplete_completes hbegin with ⟨write, hcompletes, rfl⟩
    rw [hbegin, whole_begun hidle] at hwhole
    cases hwrite : s.writeSnapshot write with
    | error error =>
      rw [hwrite] at hwhole
      cases hwhole
    | ok snapshots =>
      rw [hwrite] at hwhole
      obtain rfl := Except.ok.inj hwhole
      exact ⟨write, hcompletes, rfl, rfl, snapshot, hbuild⟩

theorem fail_returns (hidle : s.calls = []) (hkeys : (s.outbox.map (·.outboxId)).Nodup)
    (hrow : row ∈ s.outbox) (hstatus : row.status = .processing)
    (hclaimed : row.claimedBy = some worker) (raised : Raised) :
    ∃ s' lastError, whole (s.beginFail row.outboxId raised.1 raised.2 worker) worker = .ok s' ∧
      s'.calls = [] ∧
      s'.outbox = updateRow row.outboxId (·.settled (.failure lastError)) s.outbox := by
  have hfail : s.beginFail row.outboxId raised.1 raised.2 worker = .ok { s with
      calls := s.calls ++ [⟨worker, row.outboxId, .failure (errorText raised.1 raised.2)⟩] } :=
    (Outcome.bind_eq_ok ..).mpr ⟨row, requireProcessing_of_mem hkeys hrow hstatus hclaimed, rfl⟩
  rw [hfail, whole_begun hidle]
  exact ⟨_, _, rfl, rfl, rfl⟩

/-- What a worker does to the first row that waits. -/
def attempted (service : DerivedProjectionService) (now : Int) (write : CallWrite)
    (row : OutboxRow) : OutboxRow :=
  (row.claimed service.workerId (now + service.leaseSeconds)).settled write

theorem attempted_kept (now : Int) (write : CallWrite) (row : OutboxRow) :
    (attempted service now write row).outboxId = row.outboxId ∧
      (attempted service now write row).createdAt = row.createdAt ∧
      (attempted service now write row).projectId = row.projectId := by
  cases write <;> exact ⟨rfl, rfl, rfl⟩

theorem updateRow_attempted (now : Int) (write : CallWrite) (outboxId : String)
    (outbox : List OutboxRow) :
    updateRow outboxId (·.settled write) (updateRow outboxId
        (·.claimed service.workerId (now + service.leaseSeconds)) outbox) =
      updateRow outboxId (attempted service now write) outbox := by
  unfold updateRow
  rw [map_map]
  refine map_congr_left fun row _ => ?_
  by_cases hid : row.outboxId = outboxId
  · simp only [Function.comp_apply, if_pos hid, claimed_outboxId, attempted]
  · simp only [Function.comp_apply, if_neg hid]

/-- A worker takes the first row that waits, if there is one, and completes it or fails it. It
    can only be completed if it was built. -/
theorem processOne_cases (h : Rested s) (turn : Turn) :
    (queue service.projectId s = [] ∧ service.processOne turn s = (.ok false, s)) ∨
    ∃ row rest result s' write, queue service.projectId s = row :: rest ∧
      service.processOne turn s = (result, s') ∧ s'.calls = [] ∧
      s'.outbox = updateRow row.outboxId (attempted service turn.now write) s.outbox ∧
      ((result = .ok true ∧ (∀ row : OutboxRow, (row.settled write).status = .completed) ∧
          ∃ snapshot, turn.build row.projectId row.sourceCommit = .ok snapshot) ∨
        ∃ raised lastError, result = .error raised ∧ write = .failure lastError) := by
  have hservice : ¬ (service.workerId = "" ∨ service.leaseSeconds < 1) := by
    have := service.leaseSeconds_pos
    rw [not_or]
    exact ⟨service.workerId_ne, by omega⟩
  unfold DerivedProjectionService.processOne
  simp only [ProjectionStore.claimNext, if_neg hservice, h.nextRow]
  cases hqueue : queue service.projectId s with
  | nil => exact .inl ⟨rfl, rfl⟩
  | cons row rest =>
    refine .inr ⟨row, rest, ?_⟩
    simp only [List.head?_cons, pure, Except.pure]
    generalize hclaimed : ({ s with outbox := updateRow row.outboxId (·.claimed service.workerId
      (turn.now + service.leaseSeconds)) s.outbox } : ProjectionStore) = claimed
    have hidle : claimed.calls = [] := hclaimed ▸ h.idle
    have hboth (write : CallWrite) : updateRow row.outboxId (·.settled write) claimed.outbox =
        updateRow row.outboxId (attempted service turn.now write) s.outbox := by
      rw [← hclaimed]
      exact updateRow_attempted service turn.now write row.outboxId s.outbox
    cases hproject : service.project turn claimed
        (row.claimed service.workerId (turn.now + service.leaseSeconds)) with
    | ok s' =>
      rcases project_eq_ok service hidle hproject with ⟨write, hcompletes, hcalls, houtbox,
        hbuild⟩
      exact ⟨_, _, write, trivial, rfl, hcalls, houtbox.trans (hboth write),
        .inl ⟨rfl, hcompletes, hbuild⟩⟩
    | error raised =>
      have hrow := (mem_queue.mp (hqueue ▸ mem_cons_self)).1
      have hmem : row.claimed service.workerId (turn.now + service.leaseSeconds) ∈
          claimed.outbox :=
        hclaimed ▸ mem_updateRow.mpr ⟨row, hrow, (if_pos rfl).symm⟩
      have hkeys : (claimed.outbox.map (·.outboxId)).Nodup := by
        rw [← hclaimed, keys_updateRow (claimed_outboxId _ _)]
        exact h.keys
      rcases fail_returns hidle hkeys hmem rfl rfl raised with
        ⟨s', lastError, hfail, hcalls, houtbox⟩
      dsimp only
      rw [hfail]
      exact ⟨_, _, _, trivial, rfl, hcalls, houtbox.trans (hboth _), .inr ⟨raised, _, rfl, rfl⟩⟩

theorem Rested.attempt (h : Rested s) {now : Int} {write : CallWrite} (hidle : s'.calls = [])
    (houtbox : s'.outbox = updateRow row.outboxId (attempted service now write) s.outbox) :
    Rested s' where
  keys := by
    rw [houtbox, keys_updateRow fun row => (attempted_kept service now write row).1]
    exact h.keys
  idle := hidle
  nobody := by
    intro other hother
    rw [houtbox] at hother
    rcases mem_updateRow.mp hother with ⟨old, hold, rfl⟩
    split
    · cases write <;> exact OutboxStatus.noConfusion
    · exact h.nobody old hold

/-- The row stands in the outbox as completed. -/
def Completed (s : ProjectionStore) (row : OutboxRow) : Prop :=
  ∃ done ∈ s.outbox, done.outboxId = row.outboxId ∧ done.projectId = row.projectId ∧
    done.sourceCommit = row.sourceCommit ∧ done.status = .completed

/-- A completed row is not the one that waits in front, so it is left alone. -/
theorem Completed.attempt {done : OutboxRow} (hdone : Completed s done)
    (hkeys : (s.outbox.map (·.outboxId)).Nodup) (hqueue : queue projectId s = row :: rest)
    {change : OutboxRow → OutboxRow} (houtbox : s'.outbox = updateRow row.outboxId change s.outbox) :
    Completed s' done := by
  rcases hdone with ⟨other, hother, hid, hproject, hcommit, hstatus⟩
  refine ⟨other, ?_, hid, hproject, hcommit, hstatus⟩
  rw [houtbox]
  refine mem_updateRow_of_ne hother fun hsame => ?_
  have hrow := mem_queue.mp (hqueue ▸ mem_cons_self)
  rw [inj_on_of_nodup_map hkeys hother hrow.1 hsame] at hstatus
  exact hrow.2.1 hstatus

/-- One turn takes the first row that waits. It is completed and waits no longer, or it raises
    and waits again in front of the others. What was completed stays so. -/
theorem processOne_queue (h : Rested s) (turn : Turn) :
    ∃ result s', service.processOne turn s = (result, s') ∧ Rested s' ∧
      (∀ done, Completed s done → Completed s' done) ∧
      match queue service.projectId s with
      | [] => result = .ok false ∧ queue service.projectId s' = []
      | row :: rest =>
        (result = .ok true ∧ queue service.projectId s' = rest ∧ Completed s' row ∧
          ∃ snapshot, turn.build row.projectId row.sourceCommit = .ok snapshot) ∨
        ∃ raised lastError, result = .error raised ∧ queue service.projectId s' =
          attempted service turn.now (.failure lastError) row :: rest := by
  rcases processOne_cases service h turn with ⟨hempty, hone⟩ |
    ⟨row, rest, result, s', write, hqueue, hone, hidle, houtbox, hresult⟩
  · rw [hempty]
    exact ⟨_, s, hone, h, fun _ hdone => hdone, rfl, hempty⟩
  · rw [hqueue]
    refine ⟨result, s', hone, h.attempt service hidle houtbox,
      fun _ hdone => hdone.attempt h.keys hqueue houtbox, ?_⟩
    have hnext := queue_updateRow h.keys hqueue (attempted_kept service _ write row) houtbox
    rcases hresult with ⟨rfl, hcompletes, hbuild⟩ | ⟨raised, lastError, rfl, rfl⟩
    · rw [if_pos (by exact hcompletes _)] at hnext
      have hrow := (mem_queue.mp (hqueue ▸ mem_cons_self)).1
      refine .inl ⟨rfl, hnext, ⟨_, ?_, (attempted_kept service turn.now write row).1,
        (attempted_kept service turn.now write row).2.2, ?_, hcompletes _⟩, hbuild⟩
      · rw [houtbox]
        exact mem_updateRow.mpr ⟨row, hrow, (if_pos rfl).symm⟩
      · cases write <;> rfl
    · rw [if_neg OutboxStatus.noConfusion] at hnext
      exact .inr ⟨raised, lastError, rfl, hnext⟩

theorem drain_queue (turns : Nat → Turn) (items processed : Nat) (h : Rested s) :
    ∃ n result s', service.drain turns items processed s = (result, s') ∧ Rested s' ∧ n ≤ items ∧
      (∀ done, Completed s done → Completed s' done) ∧
      (∀ row ∈ (queue service.projectId s).take n, Completed s' row) ∧
      ((result = .ok (processed + n) ∧ n = min items (queue service.projectId s).length ∧
          queue service.projectId s' = (queue service.projectId s).drop n) ∨
        ∃ raised row rest failed, result = .error raised ∧ n < items ∧
          (queue service.projectId s).drop n = row :: rest ∧ failed.outboxId = row.outboxId ∧
          failed.status = .failed ∧ queue service.projectId s' = failed :: rest) := by
  induction items generalizing s processed with
  | zero =>
    exact ⟨0, _, s, rfl, h, Nat.le_refl _, fun _ hdone => hdone, by simp,
      .inl ⟨rfl, (Nat.zero_min _).symm, rfl⟩⟩
  | succ items ih =>
    rcases processOne_queue service h (turns processed) with
      ⟨result, s', hone, hrested, hkept, hresult⟩
    simp only [DerivedProjectionService.drain, hone]
    cases hqueue : queue service.projectId s with
    | nil =>
      rw [hqueue] at hresult
      obtain ⟨rfl, hempty⟩ := hresult
      exact ⟨0, _, s', rfl, hrested, Nat.zero_le _, hkept, by simp, .inl ⟨rfl, by simp, hempty⟩⟩
    | cons row rest =>
      rw [hqueue] at hresult
      rcases hresult with ⟨rfl, hrest, hrow, _⟩ | ⟨raised, lastError, rfl, hfailed⟩
      · rcases ih (processed + 1) hrested with
          ⟨n, result, s'', hdrain, hrested', hn, hkept', htaken, hcases⟩
        rw [hrest] at hcases htaken
        refine ⟨n + 1, result, s'', hdrain, hrested', by omega,
          fun done hdone => hkept' done (hkept done hdone), ?_, ?_⟩
        · rw [take_succ_cons, forall_mem_cons]
          exact ⟨hkept' row hrow, htaken⟩
        rcases hcases with ⟨hok, hmin, hdrop⟩ |
          ⟨raised, row', rest', failed, herror, hlt, hdrop, hid, hstatus, hqueue'⟩
        · exact .inl ⟨by rw [hok]; congr 1; omega, by rw [length_cons]; omega, hdrop⟩
        · exact .inr ⟨raised, row', rest', failed, herror, by omega, hdrop, hid, hstatus, hqueue'⟩
      · exact ⟨0, _, s', rfl, hrested, Nat.zero_le _, hkept, by simp, .inr ⟨raised, row, rest, _,
          rfl, Nat.succ_pos _, rfl, (attempted_kept service _ _ row).1, rfl, hfailed⟩⟩

/-- A pass takes the rows in the order in which they wait. It completes as many as it may or as
    there are, or it raises at one: what came before that row is completed, what comes after it
    is untouched, and the row itself has failed and waits in front. -/
theorem processAll_in_order (h : Rested s) (turns : Nat → Turn) (maxItems : Int)
    (hmax : 1 ≤ maxItems) :
    let waiting := queue service.projectId s
    let left := queue service.projectId (service.processAll turns maxItems s).2
    match (service.processAll turns maxItems s).1 with
    | .ok count => count = min maxItems.toNat waiting.length ∧ left = waiting.drop count ∧
        ∀ row ∈ waiting.take count, Completed (service.processAll turns maxItems s).2 row
    | .error _ => ∃ n row rest failed, n < maxItems.toNat ∧ waiting.drop n = row :: rest ∧
        failed.outboxId = row.outboxId ∧ failed.status = .failed ∧ left = failed :: rest ∧
        ∀ row ∈ waiting.take n, Completed (service.processAll turns maxItems s).2 row := by
  intro waiting left
  rcases drain_queue service turns maxItems.toNat 0 h with
    ⟨n, result, s', hdrain, _, _, _, htaken, hcases⟩
  have hall : service.processAll turns maxItems s = (result, s') := by
    rw [DerivedProjectionService.processAll, if_neg (by omega), hdrain]
  simp only [waiting, left, hall]
  rcases hcases with ⟨rfl, hcount, hleft⟩ |
    ⟨raised, row, rest, failed, rfl, hlt, hdrop, hid, hstatus, hleft⟩
  · simp only [Nat.zero_add]
    exact ⟨hcount, hleft, htaken⟩
  · exact ⟨n, row, rest, failed, hlt, hdrop, hid, hstatus, hleft, htaken⟩

/-- A pass over a queue whose first row is not built raises, and leaves the others as they are. -/
theorem processAll_blocked (h : Rested s) (hqueue : queue service.projectId s = row :: rest)
    (turns : Nat → Turn) (maxItems : Int) (hbuild : ∀ k snapshot,
      (turns k).build row.projectId row.sourceCommit ≠ .ok snapshot) :
    ∃ raised s' front, service.processAll turns maxItems s = (.error raised, s') ∧ Rested s' ∧
      queue service.projectId s' = front :: rest ∧ front.outboxId = row.outboxId ∧
      front.projectId = row.projectId ∧ front.sourceCommit = row.sourceCommit := by
  unfold DerivedProjectionService.processAll
  split
  · exact ⟨_, s, row, rfl, h, hqueue, rfl, rfl, rfl⟩
  · rename_i hmax
    obtain ⟨items, hitems⟩ : ∃ items, maxItems.toNat = items + 1 := ⟨maxItems.toNat - 1, by omega⟩
    rcases processOne_queue service h (turns 0) with
      ⟨result, s', hone, hrested, _, hresult⟩
    rw [hqueue] at hresult
    rw [hitems, DerivedProjectionService.drain, hone]
    rcases hresult with ⟨rfl, _, _, snapshot, hbuilt⟩ | ⟨raised, lastError, rfl, hfront⟩
    · exact absurd hbuilt (hbuild 0 snapshot)
    · exact ⟨raised, s', _, rfl, hrested, hfront, rfl, rfl, rfl⟩

/-- A row that is never built blocks the rows that wait behind it. However many passes are made,
    every one of them raises, and the rows behind are never touched. -/
theorem failed_row_blocks (h : Rested s) (hqueue : queue service.projectId s = row :: rest)
    (passes : List (Int × (Nat → Turn))) (hbuild : ∀ pass ∈ passes, ∀ k snapshot,
      (pass.2 k).build row.projectId row.sourceCommit ≠ .ok snapshot) :
    Guarded (fun s pass => (service.processAll pass.2 pass.1 s).2)
      (fun s pass => ∃ raised, (service.processAll pass.2 pass.1 s).1 = .error raised) s passes ∧
    ∃ front, front.outboxId = row.outboxId ∧ queue service.projectId
      (run (fun s pass => (service.processAll pass.2 pass.1 s).2) s passes) = front :: rest := by
  induction passes generalizing s row with
  | nil => exact ⟨trivial, row, rfl, hqueue⟩
  | cons pass passes ih =>
    rcases processAll_blocked service h hqueue pass.2 pass.1 (hbuild pass mem_cons_self) with
      ⟨raised, s', front, hall, hrested, hfront, hid, hproject, hcommit⟩
    have hlater := ih hrested hfront fun pass hpass => by
      rw [hproject, hcommit]
      exact hbuild pass (mem_cons_of_mem _ hpass)
    simp only [Guarded, run_cons, hall]
    rw [← hid]
    exact ⟨⟨⟨raised, rfl⟩, hlater.1⟩, hlater.2⟩

end

namespace Sample

def service : DerivedProjectionService :=
  ⟨"worker", 300, none, fun _ => ("", "OutboxError"), by decide, by decide⟩

def laterCommit : CommitId :=
  ⟨"sha256:" ++ String.ofList (List.replicate 64 '1'), by decide +kernel⟩

/-- Two rows wait. -/
def waiting : ProjectionStore :=
  step (step .empty (.enqueue project sourceCommit 0)) (.enqueue project laterCommit 1)

theorem waiting_rested : Rested waiting := ⟨by decide +kernel, rfl, by decide +kernel⟩

def unbuilt (k : Nat) : Turn := ⟨k, fun _ _ => .error ("no source", "ValueError")⟩

/-- The builder knows the first commit only. -/
def firstOnly (k : Nat) : Turn :=
  ⟨k, fun project commit =>
    if commit = sourceCommit then .ok snapshot else (unbuilt k).build project commit⟩

/-- A pass that completes the first row and raises at the second. -/
theorem processAll_in_order_raised : ∃ first second failed, queue none waiting = [first, second] ∧
    Completed (service.processAll firstOnly 5 waiting).2 first ∧
    failed.outboxId = second.outboxId ∧ failed.status = .failed ∧
    queue none (service.processAll firstOnly 5 waiting).2 = [failed] := by
  obtain ⟨first, second, hqueue⟩ : ∃ first second, queue service.projectId waiting =
      [first, second] := ⟨_, _, rfl⟩
  have h := processAll_in_order service waiting_rested firstOnly 5 (by decide)
  have hrun : (service.processAll firstOnly 5 waiting).1 = .error ("no source", "ValueError") ∧
      (queue service.projectId (service.processAll firstOnly 5 waiting).2).length = 1 := by
    decide +kernel
  rw [hrun.1, hqueue] at h
  rcases h with ⟨n, row, rest, failed, _, hdrop, hid, hstatus, hleft, hdone⟩
  rw [hleft, length_cons, Nat.add_eq_right, length_eq_zero_iff] at hrun
  obtain rfl := hrun.2
  obtain rfl : n = 1 := by
    have hlength := congrArg List.length hdrop
    simp only [length_drop, length_cons, length_nil] at hlength
    omega
  obtain rfl : second = row := (List.cons.inj hdrop).1
  exact ⟨first, second, failed, hqueue, hdone first mem_cons_self, hid, hstatus, hleft⟩

/-- Two passes of a builder that knows no commit. Both raise, and the second row waits behind
    the first as it did. -/
theorem failed_row_blocks_unbuilt : ∃ first second front, queue none waiting = [first, second] ∧
    front.outboxId = first.outboxId ∧
    Guarded (fun s (pass : Int × (Nat → Turn)) => (service.processAll pass.2 pass.1 s).2)
      (fun s pass => ∃ raised, (service.processAll pass.2 pass.1 s).1 = .error raised) waiting
      [(1, unbuilt), (5, unbuilt)] ∧
    queue none (run (fun s (pass : Int × (Nat → Turn)) => (service.processAll pass.2 pass.1 s).2)
      waiting [(1, unbuilt), (5, unbuilt)]) = [front, second] := by
  obtain ⟨first, second, hqueue⟩ : ∃ first second, queue service.projectId waiting =
      [first, second] := ⟨_, _, rfl⟩
  rcases failed_row_blocks service waiting_rested hqueue [(1, unbuilt), (5, unbuilt)]
    (by simp [unbuilt]) with ⟨hraises, front, hid, hfront⟩
  exact ⟨first, second, front, hqueue, hid, hraises, hfront⟩

end Sample

end NovelAgent.Projection
