import NovelAgent.Projection.Fencing

/-!
# Completed and Published

That a commit is projected is written down twice, in its row of the outbox and in its snapshot.
-/

namespace NovelAgent.Projection

open Core Domain ProjectionStore List

def OutboxRow.asks (row : OutboxRow) : ProjectId × CommitId := (row.projectId, row.sourceCommit)

/-- The snapshot is what the row asks for. -/
def Answers (row : OutboxRow) (snapshot : DerivedSnapshotRow) : Prop :=
  (snapshot.projectId, snapshot.sourceCommit) = row.asks ∧ snapshot.buildStatus = .exact ∧
    snapshot.publishedAt ≠ none

/-- A call fails its row, or is the first to answer it. -/
def CallWrite.Fits (row : OutboxRow) : CallWrite → Prop
  | .failure _ => True
  | .insertSnapshot snapshot => Answers row snapshot
  | .updateSnapshot _ => False

/-- The invariant. -/
structure Published (s : ProjectionStore) : Prop where
  commits : (s.outbox.map (·.sourceCommit)).Nodup
  writes : ∀ call ∈ s.calls, ∀ row ∈ s.outbox, row.outboxId = call.outboxId → call.write.Fits row
  answered : ∀ row ∈ s.outbox, row.status = .completed →
    ∃ snapshot ∈ s.snapshots, Answers row snapshot
  asked : ∀ snapshot ∈ s.snapshots,
    ∃ row ∈ s.outbox, row.status = .completed ∧ Answers row snapshot

section

variable {s s' : ProjectionStore} {row row' : OutboxRow} {snapshot : DerivedSnapshotRow}
  {call : OpenCall} {worker outboxId : String}

theorem empty_published : Published .empty where
  commits := nodup_nil
  writes := fun _ hcall => absurd hcall not_mem_nil
  answered := fun _ hrow => absurd hrow not_mem_nil
  asked := fun _ hsnapshot => absurd hsnapshot not_mem_nil

theorem Published.completed (h : Published s) (hrow : row ∈ s.outbox)
    (hsnapshot : snapshot ∈ s.snapshots) (hcommit : snapshot.sourceCommit = row.sourceCommit) :
    row.status = .completed := by
  rcases h.asked snapshot hsnapshot with ⟨other, hother, hcompleted, hanswers, _⟩
  have hsame := hcommit.symm.trans (Prod.mk.inj hanswers).2
  rwa [inj_on_of_nodup_map h.commits hrow hother hsame]

theorem Published.close (h : Published s) (worker : String) : Published (s.close worker) :=
  { h with writes := fun call hcall => h.writes call (mem_of_mem_filter hcall) }

theorem Published.enqueue {projectId : ProjectId} {sourceCommit : CommitId} {createdAt : Int}
    (h : Published s) (hf : Fenced s)
    (hqueued : s.enqueue projectId sourceCommit createdAt = .ok s') : Published s' := by
  unfold ProjectionStore.enqueue at hqueued
  rw [Outcome.ite_throw_eq_ok, Outcome.pure_eq_ok, any_eq_true] at hqueued
  rcases hqueued with ⟨hnone, rfl⟩
  simp only [decide_eq_true_eq, not_exists, not_and, not_or] at hnone
  exact
    { commits := by
        rw [map_append, map_singleton, nodup_append]
        refine ⟨h.commits, nodup_singleton _, ?_⟩
        intro commit hcommit last hlast
        rw [mem_singleton.mp hlast]
        rcases mem_map.mp hcommit with ⟨other, hother, rfl⟩
        exact (hnone other hother).2
      writes := by
        intro call hcall row hrow hid
        rcases mem_append.mp hrow with hold | hlast
        · exact h.writes call hcall row hold hid
        · -- An open call works at a row that was there before.
          rcases hf.held call hcall with ⟨held, hheld, hheldId, _⟩
          rw [mem_singleton.mp hlast] at hid
          exact absurd (hheldId.trans hid.symm) (hnone held hheld).1
      answered := by
        intro row hrow hcompleted
        rcases mem_append.mp hrow with hold | hlast
        · exact h.answered row hold hcompleted
        · rw [mem_singleton.mp hlast] at hcompleted
          cases hcompleted
      asked := fun snapshot hsnapshot =>
        have ⟨row, hrow, hanswers⟩ := h.asked snapshot hsnapshot
        ⟨row, mem_append_left _ hrow, hanswers⟩ }

theorem Published.beginCall {write : CallWrite} (h : Published s) (hf : Fenced s)
    (hrow : s.requireProcessing outboxId worker = .ok row) (hfits : write.Fits row) :
    Published { s with calls := s.calls ++ [⟨worker, outboxId, write⟩] } :=
  { h with
    writes := by
      intro call hcall other hother hid
      rcases mem_append.mp hcall with hold | hlast
      · exact h.writes call hold other hother hid
      · rw [mem_singleton.mp hlast] at hid ⊢
        rcases requireProcessing_eq_ok hrow with ⟨hmem, hrowId, _⟩
        rwa [inj_on_of_nodup_map hf.keys hother hmem (hid.trans hrowId.symm)] }

theorem Published.beginComplete {snapshot : DerivedSnapshotLite} (h : Published s) (hf : Fenced s)
    (hbegin : s.beginComplete outboxId snapshot worker = .ok s') : Published s' := by
  unfold ProjectionStore.beginComplete at hbegin
  simp only [Outcome.ite_throw_bind_eq_ok, Outcome.bind_eq_ok, ne_eq, not_not] at hbegin
  rcases hbegin with ⟨hexact, hpublished, row, hrow, hcommit, hwrite⟩
  split at hwrite
  · rw [← (Outcome.pure_eq_ok _ _).mp hwrite]
    exact h.beginCall hf hrow ⟨rfl, hexact, hpublished⟩
  · rename_i existing hexisting
    rcases requireProcessing_eq_ok hrow with ⟨hmem, _, hprocessing, _⟩
    have hcompleted := h.completed hmem (mem_of_find?_eq_some hexisting)
      (by simpa using List.find?_some hexisting)
    rw [hprocessing] at hcompleted
    cases hcompleted

theorem Answers.of_asks (h : Answers row snapshot) (hasks : row'.asks = row.asks) :
    Answers row' snapshot := by
  rw [Answers, hasks]
  exact h

theorem CallWrite.Fits.of_asks {write : CallWrite} (h : write.Fits row)
    (hasks : row'.asks = row.asks) : write.Fits row' := by
  cases write with
  | insertSnapshot snapshot => exact Answers.of_asks h hasks
  | _ => exact h

/-- A row that is not completed may change, as long as it asks for the same and is completed
    together with its snapshot. -/
theorem Published.update {change : OutboxRow → OutboxRow} {snapshots : List DerivedSnapshotRow}
    (h : Published s)
    (hchange : ∀ row, (change row).outboxId = row.outboxId ∧ (change row).asks = row.asks)
    (hopen : ∀ row ∈ s.outbox, row.outboxId = outboxId → row.status ≠ .completed ∧
      ((change row).status = .completed → ∃ snapshot ∈ snapshots, Answers row snapshot))
    (hmore : s.snapshots ⊆ snapshots)
    (hasked : ∀ snapshot ∈ snapshots, snapshot ∈ s.snapshots ∨ ∃ row ∈ s.outbox,
      row.outboxId = outboxId ∧ (change row).status = .completed ∧ Answers row snapshot) :
    Published { s with outbox := updateRow outboxId change s.outbox, snapshots := snapshots } := by
  have hsame (row : OutboxRow) : (if row.outboxId = outboxId then change row else row).outboxId =
        row.outboxId ∧
      (if row.outboxId = outboxId then change row else row).asks = row.asks := by
    split
    · exact hchange row
    · exact ⟨rfl, rfl⟩
  exact
    { commits := by
        have hmap : (updateRow outboxId change s.outbox).map (·.sourceCommit) =
            s.outbox.map (·.sourceCommit) := by
          rw [updateRow, map_map]
          exact map_congr_left fun row _ => (Prod.mk.inj (hsame row).2).2
        exact hmap ▸ h.commits
      writes := by
        intro call hcall row hrow hid
        rcases mem_updateRow.mp hrow with ⟨old, hold, rfl⟩
        exact (h.writes call hcall old hold ((hsame old).1.symm.trans hid)).of_asks (hsame old).2
      answered := by
        intro row hrow hcompleted
        rcases mem_updateRow.mp hrow with ⟨old, hold, rfl⟩
        have ⟨snapshot, hsnapshot, hanswers⟩ : ∃ snapshot ∈ snapshots, Answers old snapshot := by
          split at hcompleted
          · rename_i hid
            exact (hopen old hold hid).2 hcompleted
          · have ⟨snapshot, hsnapshot, hanswers⟩ := h.answered old hold hcompleted
            exact ⟨snapshot, hmore hsnapshot, hanswers⟩
        exact ⟨snapshot, hsnapshot, hanswers.of_asks (hsame old).2⟩
      asked := by
        intro snapshot hsnapshot
        rcases hasked snapshot hsnapshot with hold | ⟨row, hrow, hid, hcompleted, hanswers⟩
        · have ⟨row, hrow, hcompleted, hanswers⟩ := h.asked snapshot hold
          exact ⟨row, mem_updateRow_of_ne hrow fun hid => (hopen row hrow hid).1 hcompleted,
            hcompleted, hanswers⟩
        · exact ⟨change row, mem_updateRow.mpr ⟨row, hrow, (if_pos hid).symm⟩, hcompleted,
            hanswers.of_asks (hchange row).2⟩ }

theorem Published.commitCall (h : Published s) (hf : Fenced s) (hcall : call ∈ s.calls)
    (hcommit : (s.close call.worker).commitCall call = .ok s') : Published s' := by
  unfold ProjectionStore.commitCall at hcommit
  rw [Outcome.bind_eq_ok] at hcommit
  rcases hcommit with ⟨snapshots, hwrite, hresult⟩
  rw [← (Outcome.pure_eq_ok _ _).mp hresult]
  have hopen {row : OutboxRow} (hrow : row ∈ s.outbox) (hid : row.outboxId = call.outboxId) :
      row.status ≠ .completed := by
    rw [(hf.holder hcall hrow hid).1]
    exact OutboxStatus.noConfusion
  have hfits := h.writes call hcall
  rcases hf.held call hcall with ⟨held, hheld, hheldId, _⟩
  cases hcase : call.write with
  | failure lastError =>
    rw [hcase] at hwrite
    obtain rfl := Except.ok.inj hwrite
    refine (h.close call.worker).update (fun _ => ⟨rfl, rfl⟩) (fun row hrow hid =>
      ⟨hopen hrow hid, OutboxStatus.noConfusion⟩) (List.Subset.refl _) fun _ => .inl
  | insertSnapshot snapshot =>
    rw [hcase] at hwrite hfits
    rw [writeSnapshot, Outcome.ite_throw_eq_ok, Outcome.pure_eq_ok] at hwrite
    obtain ⟨_, rfl⟩ := hwrite
    have hlast := mem_append_right s.snapshots (mem_singleton_self snapshot)
    refine (h.close call.worker).update (fun _ => ⟨rfl, rfl⟩) (fun row hrow hid =>
      ⟨hopen hrow hid, fun _ => ⟨snapshot, hlast, hfits row hrow hid⟩⟩)
      (subset_append_left _ _) fun other hother => ?_
    rcases mem_append.mp hother with hold | hnew
    · exact .inl hold
    · rw [mem_singleton.mp hnew]
      exact .inr ⟨held, hheld, hheldId, rfl, hfits held hheld hheldId⟩
  | updateSnapshot snapshot =>
    rw [hcase] at hfits
    exact (hfits held hheld hheldId).elim

theorem settle_holds {P : ProjectionStore → Prop} {outcome : Except OutboxError ProjectionStore}
    (h : P s) (hok : ∀ s', outcome = .ok s' → P s') : P (s.settle outcome) := by
  cases outcome with
  | error error => exact h
  | ok s' => exact hok s' rfl

theorem step_published (h : Published s) (hf : Fenced s) (command : Command) :
    Published (step s command) := by
  cases command with
  | enqueue projectId sourceCommit createdAt => exact settle_holds h fun _ => h.enqueue hf
  | claimNext worker leaseSeconds projectId now locked =>
    simp only [step]
    split
    · exact h
    · cases hclaim : s.claimNext worker leaseSeconds projectId now locked with
      | error error => exact h
      | ok result =>
        change Published result.2
        rcases claimNext_eq_ok hclaim with ⟨_, hsame⟩ | ⟨row, expires, hnext, hresult⟩
        · exact hsame.symm ▸ h
        · rw [hresult]
          rcases nextRow_spec hnext with ⟨hrow, hclaimable⟩
          refine h.update (fun _ => ⟨rfl, rfl⟩) (fun other hother hid =>
            ⟨?_, OutboxStatus.noConfusion⟩) (List.Subset.refl _) fun _ => .inl
          rintro hcompleted
          rw [inj_on_of_nodup_map hf.keys hother hrow hid] at hcompleted
          simp [OutboxRow.Claimable, hcompleted] at hclaimable
  | complete outboxId snapshot worker =>
    simp only [step]
    split
    · exact h
    · exact settle_holds h fun _ => h.beginComplete hf
  | fail outboxId text typeName worker =>
    simp only [step]
    split
    · exact h
    · refine settle_holds h fun s' hbegin => ?_
      rcases (Outcome.bind_eq_ok ..).mp hbegin with ⟨row, hrow, hopened⟩
      rw [← (Outcome.pure_eq_ok _ _).mp hopened]
      exact h.beginCall hf hrow trivial
  | commit worker =>
    simp only [step]
    cases hcall : s.callOf worker with
    | none => exact h
    | some call =>
      rcases callOf_eq_some hcall with ⟨hmem, rfl⟩
      exact settle_holds (h.close call.worker) fun _ => h.commitCall hf hmem
  | rollback worker => exact h.close worker

/-- Along a run whose claims take no row of an open call, a row is completed exactly when the
    snapshot that it asks for is there, and every snapshot is there for a completed row. -/
theorem completed_iff_published (commands : List Command)
    (hunraced : Guarded step Unraced .empty commands) :
    let s := run step .empty commands
    (∀ row ∈ s.outbox, row.status = .completed ↔ ∃ snapshot ∈ s.snapshots, Answers row snapshot) ∧
    ∀ snapshot ∈ s.snapshots, ∃ row ∈ s.outbox, row.status = .completed ∧ Answers row snapshot := by
  intro s
  have h : Fenced s ∧ Published s := run_guarded step Unraced (fun s => Fenced s ∧ Published s)
    (fun _ command ⟨hf, h⟩ hcommand => ⟨step_fenced hf hcommand, step_published h hf command⟩)
    commands .empty hunraced ⟨empty_fenced, empty_published⟩
  refine ⟨fun row hrow => ⟨h.2.answered row hrow, ?_⟩, h.2.asked⟩
  rintro ⟨snapshot, hsnapshot, hanswers, _⟩
  exact h.2.completed hrow hsnapshot (Prod.mk.inj hanswers).2

end

namespace Sample

/-- The second worker completes the row that the first one's lease ran out on. -/
def takenOver : List Command :=
  [.enqueue project sourceCommit 0, .claimNext "one" 1 none 0 [],
    .claimNext "two" 300 none 5 [], .complete outboxId snapshot "two"].flatMap serial

theorem completed_iff_published_takenOver : ∃ row ∈ (run step .empty takenOver).outbox,
    row.status = .completed ∧ ∃ snapshot ∈ (run step .empty takenOver).snapshots,
      Answers row snapshot := by
  obtain ⟨row, hrow, hcompleted⟩ : ∃ row ∈ (run step .empty takenOver).outbox,
      row.status = .completed := by
    decide +kernel
  exact ⟨row, hrow, hcompleted,
    ((completed_iff_published takenOver (serial_unraced _ rfl)).1 row hrow).mp hcompleted⟩

end Sample

end NovelAgent.Projection
