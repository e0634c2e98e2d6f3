import NovelAgent.Core.Outcome
import NovelAgent.Projection.Outbox

/-!
# Fencing of the Projection Outbox

Who can change a row of the outbox, and when a row stays as it is.
-/

namespace NovelAgent.Projection

open Core Domain ProjectionStore

/-- Every open call works at a row that its worker holds, keys are keys, and a commit has
    one snapshot. -/
structure Fenced (s : ProjectionStore) : Prop where
  held : ∀ call ∈ s.calls, ∃ row ∈ s.outbox, row.outboxId = call.outboxId ∧
    row.status = .processing ∧ row.claimedBy = some call.worker
  threads : (s.calls.map (·.worker)).Nodup
  keys : (s.outbox.map (·.outboxId)).Nodup
  single : (s.snapshots.map (·.sourceCommit)).Nodup

/-- A claim takes no row that an open call works at. -/
def Unraced (s : ProjectionStore) : Command → Prop
  | .claimNext _ _ projectId now locked => ∀ row ∈ s.nextRow projectId now locked,
      ∀ call ∈ s.calls, call.outboxId ≠ row.outboxId
  | _ => True

/-- A call from its first read to its commit, with nothing in between. -/
def serial : Command → List Command
  | .complete outboxId snapshot worker => [.complete outboxId snapshot worker, .commit worker]
  | .fail outboxId text typeName worker =>
    [.fail outboxId text typeName worker, .commit worker]
  | command => [command]

section

variable {s : ProjectionStore}

theorem empty_fenced : Fenced .empty where
  held := by simp [ProjectionStore.empty]
  threads := List.nodup_nil
  keys := List.nodup_nil
  single := List.nodup_nil

/-! ### Rows -/

variable {outboxId : String} {change : OutboxRow → OutboxRow} {outbox : List OutboxRow}
    {row : OutboxRow}

theorem mem_updateRow :
    row ∈ updateRow outboxId change outbox ↔
      ∃ old ∈ outbox, row = if old.outboxId = outboxId then change old else old := by
  unfold updateRow
  rw [List.mem_map]
  exact exists_congr fun old => and_congr_right fun _ => eq_comm

theorem keys_updateRow (hkey : ∀ row, (change row).outboxId = row.outboxId)
    (outbox : List OutboxRow) :
    (updateRow outboxId change outbox).map (·.outboxId) = outbox.map (·.outboxId) := by
  unfold updateRow
  rw [List.map_map]
  refine List.map_congr_left fun row _ => ?_
  by_cases hrow : row.outboxId = outboxId
  · simp only [Function.comp_apply, hrow, if_true, hkey]
  · simp only [Function.comp_apply, hrow, if_false]

theorem mem_updateRow_of_ne (h : row ∈ outbox) (hne : row.outboxId ≠ outboxId) :
    row ∈ updateRow outboxId change outbox :=
  mem_updateRow.mpr ⟨row, h, (if_neg hne).symm⟩

theorem settled_outboxId (write : CallWrite) (row : OutboxRow) :
    (row.settled write).outboxId = row.outboxId := by
  cases write <;> rfl

theorem claimed_outboxId (worker : String) (expires : Int) (row : OutboxRow) :
    (row.claimed worker expires).outboxId = row.outboxId :=
  rfl

variable {projectId : Option ProjectId} {locked : List String}

theorem nextRow_spec {now : Int} (h : s.nextRow projectId now locked = some row) :
    row ∈ s.outbox ∧ row.Claimable now := by
  have hmem := List.mem_of_head? h
  rw [List.mem_insertionSort, List.mem_filter] at hmem
  exact ⟨hmem.1, (of_decide_eq_true hmem.2).1⟩

theorem requireProcessing_eq_ok {outboxId worker : String}
    (h : s.requireProcessing outboxId worker = .ok row) :
    row ∈ s.outbox ∧ row.outboxId = outboxId ∧ row.status = .processing ∧
      row.claimedBy = some worker := by
  unfold requireProcessing at h
  cases hfind : s.outbox.find? fun row => row.outboxId = outboxId with
  | none => simp [hfind, throw, throwThe, MonadExceptOf.throw] at h
  | some found =>
    simp only [hfind] at h
    by_cases hstatus : found.status = .processing
    · by_cases hclaimed : found.claimedBy = some worker
      · simp only [hstatus, hclaimed, not_true_eq_false, if_false, ne_eq, pure, Except.pure,
          Except.ok.injEq] at h
        subst h
        exact ⟨List.mem_of_find?_eq_some hfind, by simpa using List.find?_some hfind, hstatus,
          hclaimed⟩
      · simp [hstatus, hclaimed, throw, throwThe, MonadExceptOf.throw] at h
    · simp [hstatus, throw, throwThe, MonadExceptOf.throw] at h

/-! ### Steps -/

variable {worker : String}

theorem worker_notMem (h : (s.callOf worker).isSome = false) : worker ∉ s.calls.map (·.worker) := by
  unfold callOf at h
  rw [Option.isSome_eq_false_iff, Option.isNone_iff_eq_none, List.find?_eq_none] at h
  intro hmem
  rcases List.mem_map.mp hmem with ⟨call, hcall, hworker⟩
  exact absurd hworker (by simpa using h call hcall)

variable {call : OpenCall}

theorem Fenced.holder (h : Fenced s) (hcall : call ∈ s.calls) (hrow : row ∈ s.outbox)
    (hid : row.outboxId = call.outboxId) :
    row.status = .processing ∧ row.claimedBy = some call.worker := by
  rcases h.held call hcall with ⟨held, hheld, hheldId, hstatus, hclaimed⟩
  have : row = held := List.inj_on_of_nodup_map h.keys hrow hheld (hid.trans hheldId.symm)
  rw [this]
  exact ⟨hstatus, hclaimed⟩

theorem Fenced.beginCall (h : Fenced s) {worker outboxId : String}
    (hidle : (s.callOf worker).isSome = false)
    (hrow : s.requireProcessing outboxId worker = .ok row) (write : CallWrite) :
    Fenced { s with calls := s.calls ++ [⟨worker, outboxId, write⟩] } := by
  rcases requireProcessing_eq_ok hrow with ⟨hmem, hid, hstatus, hclaimed⟩
  exact
    { h with
      held := by
        intro call hcall
        rcases List.mem_append.mp hcall with hold | hnew
        · exact h.held call hold
        · rw [List.mem_singleton.mp hnew]
          exact ⟨row, hmem, hid, hstatus, hclaimed⟩
      threads := by
        rw [List.map_append, List.map_singleton, List.nodup_append]
        refine ⟨h.threads, List.nodup_singleton _, ?_⟩
        intro other hother last hlast
        rw [List.mem_singleton.mp hlast]
        rintro rfl
        exact worker_notMem hidle hother }

theorem Fenced.close (h : Fenced s) (worker : String) : Fenced (s.close worker) :=
  { h with
    held := fun call hcall => h.held call (List.mem_of_mem_filter hcall)
    threads := (List.filter_sublist.map _).nodup h.threads }

theorem writeSnapshot_single {write : CallWrite} {snapshots : List DerivedSnapshotRow}
    (h : (s.snapshots.map (·.sourceCommit)).Nodup)
    (hwrite : s.writeSnapshot write = .ok snapshots) :
    (snapshots.map (·.sourceCommit)).Nodup := by
  cases write with
  | failure lastError =>
    rw [← Except.ok.inj hwrite]
    exact h
  | insertSnapshot row =>
    simp only [writeSnapshot] at hwrite
    split at hwrite
    · cases hwrite
    · rename_i hnone
      rw [← Except.ok.inj hwrite, List.map_append, List.map_singleton, List.nodup_append]
      refine ⟨h, List.nodup_singleton _, ?_⟩
      intro commit hcommit last hlast
      rw [List.mem_singleton.mp hlast]
      rcases List.mem_map.mp hcommit with ⟨other, hother, rfl⟩
      intro hsame
      exact hnone (List.any_eq_true.mpr ⟨other, hother, by simp [hsame]⟩)
  | updateSnapshot row =>
    simp only [writeSnapshot] at hwrite
    split at hwrite
    · rw [← Except.ok.inj hwrite, List.map_map]
      have hkept : ((fun other : DerivedSnapshotRow => other.sourceCommit) ∘ fun other =>
          if other.snapshotId = row.snapshotId then
            { other with
              buildStatus := row.buildStatus
              snapshotJson := row.snapshotJson
              publishedAt := row.publishedAt }
          else other) = fun other => other.sourceCommit := by
        funext other
        simp only [Function.comp_apply]
        split <;> rfl
      rw [hkept]
      exact h
    · cases hwrite

theorem Fenced.others_elsewhere (h : Fenced s) (hcall : call ∈ s.calls) :
    ∀ other ∈ (s.close call.worker).calls, other.outboxId ≠ call.outboxId := by
  intro other hother hsame
  rcases h.held call hcall with ⟨row, hrow, hid, _, _⟩
  have hkept := List.mem_filter.mp hother
  have hfirst := (h.holder hcall hrow hid).2
  have hsecond := (h.holder hkept.1 hrow (hid.trans hsame.symm)).2
  have : other.worker = call.worker := Option.some.inj (hsecond.symm.trans hfirst)
  simp [this] at hkept

variable {s' : ProjectionStore}

theorem Fenced.commitCall (h : Fenced s) (hcall : call ∈ s.calls)
    (hcommit : (s.close call.worker).commitCall call = .ok s') : Fenced s' := by
  unfold ProjectionStore.commitCall at hcommit
  cases hwrite : (s.close call.worker).writeSnapshot call.write with
  | error error =>
    rw [hwrite] at hcommit
    cases hcommit
  | ok snapshots =>
    rw [hwrite] at hcommit
    rw [← Except.ok.inj hcommit]
    have hclosed := h.close call.worker
    exact
      { held := by
          -- The row of this call is nobody else's.
          intro other hother
          have hne := h.others_elsewhere hcall other hother
          rcases hclosed.held other hother with ⟨row, hrow, hid, hheld⟩
          exact ⟨row, mem_updateRow_of_ne hrow (hid ▸ hne), hid, hheld⟩
        threads := hclosed.threads
        keys := by
          change (updateRow call.outboxId _ s.outbox |>.map _).Nodup
          rw [keys_updateRow (settled_outboxId call.write)]
          exact h.keys
        single := writeSnapshot_single hclosed.single hwrite }

theorem callOf_eq_some (h : s.callOf worker = some call) : call ∈ s.calls ∧ call.worker = worker :=
  ⟨List.mem_of_find?_eq_some h, by simpa using List.find?_some h⟩

theorem beginComplete_eq_ok {outboxId worker : String} {snapshot : DerivedSnapshotLite}
    (h : s.beginComplete outboxId snapshot worker = .ok s') :
    ∃ row write, s.requireProcessing outboxId worker = .ok row ∧
      s' = { s with calls := s.calls ++ [⟨worker, outboxId, write⟩] } := by
  unfold beginComplete at h
  simp only [Outcome.ite_throw_bind_eq_ok, Outcome.bind_eq_ok] at h
  rcases h with ⟨_, _, row, hrow, _, hwrite⟩
  split at hwrite
  · exact ⟨row, _, hrow, (Outcome.pure_eq_ok _ _).mp hwrite |>.symm⟩
  · rw [Outcome.ite_throw_eq_ok, Outcome.pure_eq_ok] at hwrite
    exact ⟨row, _, hrow, hwrite.2.symm⟩

theorem beginFail_eq_ok {outboxId text typeName worker : String}
    (h : s.beginFail outboxId text typeName worker = .ok s') :
    ∃ row write, s.requireProcessing outboxId worker = .ok row ∧
      s' = { s with calls := s.calls ++ [⟨worker, outboxId, write⟩] } := by
  unfold beginFail at h
  rw [Outcome.bind_eq_ok] at h
  rcases h with ⟨row, hrow, hopen⟩
  exact ⟨row, _, hrow, ((Outcome.pure_eq_ok _ _).mp hopen).symm⟩

theorem enqueue_eq_ok {projectId : ProjectId} {sourceCommit : CommitId} {createdAt : Int}
    (h : s.enqueue projectId sourceCommit createdAt = .ok s') :
    ∃ row, (∀ other ∈ s.outbox, other.outboxId ≠ row.outboxId) ∧
      s' = { s with outbox := s.outbox ++ [row] } := by
  unfold ProjectionStore.enqueue at h
  rw [Outcome.ite_throw_eq_ok, Outcome.pure_eq_ok] at h
  rcases h with ⟨hnone, rfl⟩
  refine ⟨_, fun other hother hsame => hnone ?_, rfl⟩
  exact List.any_eq_true.mpr ⟨other, hother, by simp [hsame]⟩

theorem claimNext_eq_ok {leaseSeconds now : Int} {result : Option OutboxRow × ProjectionStore}
    (h : s.claimNext worker leaseSeconds projectId now locked = .ok result) :
    (s.nextRow projectId now locked = none ∧ result.2 = s) ∨
      ∃ row expires, s.nextRow projectId now locked = some row ∧
        result.2 = { s with
          outbox := updateRow row.outboxId (·.claimed worker expires) s.outbox } := by
  unfold ProjectionStore.claimNext at h
  rw [Outcome.ite_throw_eq_ok] at h
  cases hnext : s.nextRow projectId now locked with
  | none =>
    simp only [hnext, Outcome.pure_eq_ok] at h
    exact .inl ⟨rfl, by rw [← h.2]⟩
  | some row =>
    simp only [hnext, Outcome.pure_eq_ok] at h
    exact .inr ⟨row, _, rfl, by rw [← h.2]⟩

theorem Fenced.claim (h : Fenced s) (worker : String) (expires : Int)
    (hunraced : ∀ call ∈ s.calls, call.outboxId ≠ row.outboxId) :
    Fenced { s with outbox := updateRow row.outboxId (·.claimed worker expires) s.outbox } :=
  { h with
    held := by
      intro call hcall
      rcases h.held call hcall with ⟨held, hheld, hid, hholds⟩
      exact ⟨held, mem_updateRow_of_ne hheld (hid ▸ hunraced call hcall), hid, hholds⟩
    keys := by
      change (updateRow row.outboxId _ s.outbox |>.map _).Nodup
      rw [keys_updateRow (claimed_outboxId worker expires)]
      exact h.keys }

theorem Fenced.enqueue (h : Fenced s) (hnew : ∀ other ∈ s.outbox, other.outboxId ≠ row.outboxId) :
    Fenced { s with outbox := s.outbox ++ [row] } :=
  { h with
    held := by
      intro call hcall
      rcases h.held call hcall with ⟨held, hheld, hholds⟩
      exact ⟨held, List.mem_append_left _ hheld, hholds⟩
    keys := by
      rw [List.map_append, List.map_singleton, List.nodup_append]
      refine ⟨h.keys, List.nodup_singleton _, ?_⟩
      intro key hkey last hlast
      rw [List.mem_singleton.mp hlast]
      rcases List.mem_map.mp hkey with ⟨other, hother, rfl⟩
      exact hnew other hother }

/-- What a step can do. -/
theorem step_cases (s : ProjectionStore) (command : Command) :
    (step s command = s ∨ ∃ worker, step s command = s.close worker) ∨
    (∃ row, (∀ other ∈ s.outbox, other.outboxId ≠ row.outboxId) ∧
      step s command = { s with outbox := s.outbox ++ [row] }) ∨
    (∃ worker outboxId row write, (s.callOf worker).isSome = false ∧
      s.requireProcessing outboxId worker = .ok row ∧
        step s command = { s with calls := s.calls ++ [⟨worker, outboxId, write⟩] }) ∨
    (∃ worker leaseSeconds projectId now locked row expires,
      command = .claimNext worker leaseSeconds projectId now locked ∧
        s.nextRow projectId now locked = some row ∧ step s command =
          { s with outbox := updateRow row.outboxId (·.claimed worker expires) s.outbox }) ∨
    ∃ call ∈ s.calls, command = .commit call.worker ∧
      (s.close call.worker).commitCall call = .ok (step s command) := by
  cases command with
  | enqueue projectId sourceCommit createdAt =>
    simp only [step, settle]
    cases hqueued : s.enqueue projectId sourceCommit createdAt with
    | error error => exact .inl (.inl rfl)
    | ok s' => exact .inr (.inl (enqueue_eq_ok hqueued))
  | claimNext worker leaseSeconds projectId now locked =>
    simp only [step, settle]
    cases hidle : (s.callOf worker).isSome with
    | true => exact .inl (.inl rfl)
    | false =>
      cases hclaim : s.claimNext worker leaseSeconds projectId now locked with
      | error error => exact .inl (.inl rfl)
      | ok result =>
        rcases claimNext_eq_ok hclaim with ⟨_, hsame⟩ | ⟨row, expires, hnext, hresult⟩
        · exact .inl (.inl hsame)
        · exact .inr (.inr (.inr (.inl ⟨worker, leaseSeconds, projectId, now, locked, row,
            expires, rfl, hnext, hresult⟩)))
  | complete outboxId snapshot worker =>
    simp only [step, settle]
    cases hidle : (s.callOf worker).isSome with
    | true => exact .inl (.inl rfl)
    | false =>
      cases hbegin : s.beginComplete outboxId snapshot worker with
      | error error => exact .inl (.inl rfl)
      | ok s' =>
        rcases beginComplete_eq_ok hbegin with ⟨row, write, hrow, rfl⟩
        exact .inr (.inr (.inl ⟨worker, outboxId, row, write, hidle, hrow, rfl⟩))
  | fail outboxId text typeName worker =>
    simp only [step, settle]
    cases hidle : (s.callOf worker).isSome with
    | true => exact .inl (.inl rfl)
    | false =>
      cases hbegin : s.beginFail outboxId text typeName worker with
      | error error => exact .inl (.inl rfl)
      | ok s' =>
        rcases beginFail_eq_ok hbegin with ⟨row, write, hrow, rfl⟩
        exact .inr (.inr (.inl ⟨worker, outboxId, row, write, hidle, hrow, rfl⟩))
  | commit worker =>
    simp only [step]
    cases hcall : s.callOf worker with
    | none => exact .inl (.inl rfl)
    | some call =>
      rcases callOf_eq_some hcall with ⟨hmem, rfl⟩
      simp only [settle]
      cases hcommit : (s.close call.worker).commitCall call with
      | error error => exact .inl (.inr ⟨call.worker, rfl⟩)
      | ok s' => exact .inr (.inr (.inr (.inr ⟨call, hmem, rfl, hcommit⟩)))
  | rollback worker => exact .inl (.inr ⟨worker, rfl⟩)

variable {command : Command}

/-- An unraced step keeps the rows fenced. -/
theorem step_fenced (h : Fenced s) (hunraced : Unraced s command) : Fenced (step s command) := by
  rcases step_cases s command with (hsame | ⟨worker, hclose⟩) | ⟨row, hnew, hstep⟩ |
    ⟨worker, outboxId, row, write, hidle, hrow, hstep⟩ |
    ⟨worker, _, projectId, now, locked, row, expires, rfl, hnext, hstep⟩ |
    ⟨call, hcall, rfl, hcommit⟩
  · exact hsame.symm ▸ h
  · exact hclose.symm ▸ h.close worker
  · exact hstep.symm ▸ h.enqueue hnew
  · exact hstep.symm ▸ h.beginCall hidle hrow write
  · exact hstep.symm ▸ h.claim worker expires (hunraced row hnext)
  · exact h.commitCall hcall hcommit

/-! ### Who changes a row -/

/-- A row of a fenced table is changed by a claim that may take it or by the commit of the
    worker that holds it, and by nothing else. -/
theorem changed_by_holder (h : Fenced s) (hrow : row ∈ s.outbox)
    (hchanged : row ∉ (step s command).outbox) :
    (∃ worker leaseSeconds projectId now locked,
        command = .claimNext worker leaseSeconds projectId now locked ∧ row.Claimable now) ∨
      ∃ worker, command = .commit worker ∧ row.status = .processing ∧
        row.claimedBy = some worker := by
  -- A row that is written is under the key that is written.
  have hkey {outboxId : String} {change : OutboxRow → OutboxRow}
      (hout : row ∉ updateRow outboxId change s.outbox) : row.outboxId = outboxId := by
    by_contra hne
    exact hout (mem_updateRow_of_ne hrow hne)
  rcases step_cases s command with (hstep | ⟨worker, hstep⟩) | ⟨other, _, hstep⟩ |
    ⟨worker, outboxId, other, write, _, _, hstep⟩ |
    ⟨worker, leaseSeconds, projectId, now, locked, taken, expires, rfl, hnext, hstep⟩ |
    ⟨call, hcall, rfl, hcommit⟩
  · exact absurd hrow (hstep ▸ hchanged)
  · rw [hstep] at hchanged
    exact absurd hrow hchanged
  · rw [hstep] at hchanged
    exact absurd (List.mem_append_left _ hrow) hchanged
  · rw [hstep] at hchanged
    exact absurd hrow hchanged
  · rw [hstep] at hchanged
    have htaken := nextRow_spec hnext
    obtain rfl : row = taken := List.inj_on_of_nodup_map h.keys hrow htaken.1 (hkey hchanged)
    exact .inl ⟨worker, leaseSeconds, projectId, now, locked, rfl, htaken.2⟩
  · unfold ProjectionStore.commitCall at hcommit
    rw [Outcome.bind_eq_ok] at hcommit
    rcases hcommit with ⟨snapshots, _, hresult⟩
    rw [← (Outcome.pure_eq_ok _ _).mp hresult] at hchanged
    exact .inr ⟨call.worker, rfl, h.holder hcall hrow (hkey hchanged)⟩

/-- Nobody changes a completed row. -/
theorem completed_kept (h : Fenced s) (command : Command) (hrow : row ∈ s.outbox)
    (hcompleted : row.status = .completed) : row ∈ (step s command).outbox := by
  by_contra hchanged
  rcases changed_by_holder h hrow hchanged with ⟨_, _, _, _, _, _, hclaimable⟩ | ⟨_, _, hheld⟩
  · simp [OutboxRow.Claimable, hcompleted] at hclaimable
  · simp [hcompleted] at hheld

/-- Along a run whose claims take no row of an open call, a row is changed by a claim that
    may take it or by the worker that holds it, a completed row is not changed at all, and
    a commit has at most one snapshot. -/
theorem projection_fenced (commands : List Command)
    (hunraced : Guarded step Unraced .empty commands) (command : Command) :
    let s := run step .empty commands
    (∀ row ∈ s.outbox, row ∉ (step s command).outbox →
      (∃ worker leaseSeconds projectId now locked,
          command = .claimNext worker leaseSeconds projectId now locked ∧ row.Claimable now) ∨
        ∃ worker, command = .commit worker ∧ row.status = .processing ∧
          row.claimedBy = some worker) ∧
    (∀ row ∈ s.outbox, ∀ worker, row.claimedBy ≠ some worker →
      row ∈ (step s (.commit worker)).outbox) ∧
    (∀ row ∈ s.outbox, row.status = .completed → row ∈ (step s command).outbox) ∧
    ∀ commitId, (s.snapshots.filter fun row => row.sourceCommit = commitId).length ≤ 1 := by
  intro s
  have h : Fenced s := run_guarded step Unraced Fenced
    (fun _ _ hfenced hcommand => step_fenced hfenced hcommand) commands .empty hunraced
    empty_fenced
  refine ⟨fun row hrow hchanged => changed_by_holder h hrow hchanged, ?_,
    fun row hrow => completed_kept h command hrow, ?_⟩
  · intro row hrow worker hother
    by_contra hchanged
    rcases changed_by_holder h hrow hchanged with ⟨_, _, _, _, _, hclaim, _⟩ | ⟨_, hcommit, _, hheld⟩
    · cases hclaim
    · rw [← Command.commit.inj hcommit] at hheld
      exact hother hheld
  · intro commitId
    have hcount := List.nodup_iff_count_le_one.mp h.single commitId
    rw [List.count, List.countP_map, List.countP_eq_length_filter] at hcount
    simpa only [Function.comp_def, beq_eq_decide] using hcount

theorem unraced_of_idle (hidle : s.calls = []) (command : Command) : Unraced s command := by
  cases command with
  | claimNext worker leaseSeconds projectId now locked =>
    intro row _ call hcall
    rw [hidle] at hcall
    exact absurd hcall List.not_mem_nil
  | _ => trivial

theorem commit_closes (h : ∀ call ∈ s.calls, call.worker = worker) :
    (step s (.commit worker)).calls = [] := by
  have hclosed : (s.close worker).calls = [] := by
    refine List.filter_eq_nil_iff.mpr fun call hcall => ?_
    simp [h call hcall]
  simp only [step]
  cases hcall : s.callOf worker with
  | none =>
    rw [callOf, List.find?_eq_none] at hcall
    refine List.eq_nil_iff_forall_not_mem.mpr fun call hmem => ?_
    exact absurd (h call hmem) (by simpa using hcall call hmem)
  | some call =>
    simp only [settle]
    cases hcommit : (s.close worker).commitCall call with
    | error error => exact hclosed
    | ok s' =>
      unfold ProjectionStore.commitCall at hcommit
      rw [Outcome.bind_eq_ok] at hcommit
      rcases hcommit with ⟨snapshots, _, hresult⟩
      rw [← (Outcome.pure_eq_ok _ _).mp hresult]
      exact hclosed

/-- A call made in one go from an idle store does not race, and leaves it idle. -/
theorem serial_idle (hidle : s.calls = []) (command : Command) :
    Guarded step Unraced s (serial command) ∧ (run step s (serial command)).calls = [] := by
  have hnobody (worker : String) : s.callOf worker = none := by
    rw [callOf, hidle]
    rfl
  cases command with
  | enqueue projectId sourceCommit createdAt =>
    refine ⟨⟨unraced_of_idle hidle _, trivial⟩, ?_⟩
    simp only [serial, run_cons, run_nil, step, settle]
    cases hqueued : s.enqueue projectId sourceCommit createdAt with
    | error error => exact hidle
    | ok s' =>
      rcases enqueue_eq_ok hqueued with ⟨_, _, rfl⟩
      exact hidle
  | claimNext worker leaseSeconds projectId now locked =>
    refine ⟨⟨unraced_of_idle hidle _, trivial⟩, ?_⟩
    simp only [serial, run_cons, run_nil, step, settle, hnobody, Option.isSome_none,
      Bool.false_eq_true, if_false]
    cases hclaim : s.claimNext worker leaseSeconds projectId now locked with
    | error error => exact hidle
    | ok result =>
      rcases claimNext_eq_ok hclaim with ⟨_, hsame⟩ | ⟨_, _, _, hresult⟩
      · simp only [Except.map, hsame]
        exact hidle
      · simp only [Except.map, hresult]
        exact hidle
  | complete outboxId snapshot worker =>
    refine ⟨⟨unraced_of_idle hidle _, trivial, trivial⟩, commit_closes ?_⟩
    simp only [step, settle, hnobody, Option.isSome_none, Bool.false_eq_true, if_false]
    cases hbegin : s.beginComplete outboxId snapshot worker with
    | error error => simp [hidle]
    | ok s' =>
      rcases beginComplete_eq_ok hbegin with ⟨_, _, _, rfl⟩
      simp [hidle]
  | fail outboxId text typeName worker =>
    refine ⟨⟨unraced_of_idle hidle _, trivial, trivial⟩, commit_closes ?_⟩
    simp only [step, settle, hnobody, Option.isSome_none, Bool.false_eq_true, if_false]
    cases hbegin : s.beginFail outboxId text typeName worker with
    | error error => simp [hidle]
    | ok s' =>
      rcases beginFail_eq_ok hbegin with ⟨_, _, _, rfl⟩
      simp [hidle]
  | commit worker =>
    refine ⟨⟨trivial, trivial⟩, commit_closes ?_⟩
    simp [hidle]
  | rollback worker =>
    refine ⟨⟨trivial, trivial⟩, ?_⟩
    simp [serial, step, ProjectionStore.close, hidle]

/-- Calls made one after another do not race. -/
theorem serial_unraced (commands : List Command) : ∀ {s : ProjectionStore}, s.calls = [] →
    Guarded step Unraced s (commands.flatMap serial) := by
  induction commands with
  | nil => exact fun _ => trivial
  | cons command rest ih =>
    intro s hidle
    have hone := serial_idle hidle command
    rw [List.flatMap_cons, guarded_append]
    exact ⟨hone.1, ih hone.2⟩

end

namespace Sample

def project : ProjectId := ⟨"project", .refl true⟩

def sourceCommit : CommitId :=
  ⟨"sha256:0000000000000000000000000000000000000000000000000000000000000000", .refl true⟩

def outboxId : String :=
  "projection.0000000000000000000000000000000000000000000000000000000000000000"

def snapshot : DerivedSnapshotLite where
  snapshotId := ⟨"snapshot", .refl true⟩
  sourceCommit := sourceCommit
  buildStatus := .exact
  publishedAt := some 0
  document := "snapshot"

/-- A worker whose lease is over has read its row to report a failure, and another takes
    the row and completes it before the failure commits. -/
def lateFailure : List Command :=
  [.enqueue project sourceCommit 0, .claimNext "one" 1 none 0 [],
    .fail outboxId "late" "RuntimeError" "one", .claimNext "two" 300 none 5 [],
    .complete outboxId snapshot "two", .commit "two"]

/-- A completed row that fails. -/
theorem completed_row_lost : ¬ ∀ (commands : List Command) (command : Command),
    let s := run step .empty commands
    ∀ row ∈ s.outbox, row.status = .completed → row ∈ (step s command).outbox := by
  intro hkept
  have hrow := hkept lateFailure (.commit "one")
  revert hrow
  decide +kernel

theorem projection_fenced_sample :
    let s := run step .empty ([.enqueue project sourceCommit 0, .claimNext "one" 1 none 0 [],
      .claimNext "two" 300 none 5 [], .complete outboxId snapshot "two"].flatMap serial)
    (∀ row ∈ s.outbox, row ∉ (step s (.fail outboxId "late" "RuntimeError" "one")).outbox →
      (∃ worker leaseSeconds projectId now locked,
          Command.fail outboxId "late" "RuntimeError" "one" =
            .claimNext worker leaseSeconds projectId now locked ∧ row.Claimable now) ∨
        ∃ worker, Command.fail outboxId "late" "RuntimeError" "one" = .commit worker ∧
          row.status = .processing ∧ row.claimedBy = some worker) ∧
    (∀ row ∈ s.outbox, ∀ worker, row.claimedBy ≠ some worker →
      row ∈ (step s (.commit worker)).outbox) ∧
    (∀ row ∈ s.outbox, row.status = .completed →
      row ∈ (step s (.fail outboxId "late" "RuntimeError" "one")).outbox) ∧
    ∀ commitId, (s.snapshots.filter fun row => row.sourceCommit = commitId).length ≤ 1 :=
  projection_fenced _ (serial_unraced _ rfl) _

end Sample

end NovelAgent.Projection
