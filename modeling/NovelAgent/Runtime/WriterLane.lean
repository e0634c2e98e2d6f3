import NovelAgent.Runtime.Ownership

/-!
# Writer-Lane Fencing

The generations of a project's writer lane, as they are issued and as commits
use them.
-/

namespace NovelAgent.Runtime

open Core Domain List

/-- The generation of a project's lane; none issued counts as zero. -/
def latestGeneration (db : Db) (projectId : ProjectId) : Nat :=
  match db.writerClaims.lookup projectId with
  | none => 0
  | some writer => writer.generation

/-- A store whose lanes are those of `db` with the next generation issued. -/
def IssuesLane (db db' : Db) : Prop :=
  ∃ projectId writer, db'.writerClaims = db.writerClaims.insert projectId writer ∧
    writer.generation = latestGeneration db projectId + 1 ∧
    ∃ arow, db.attempts.lookup writer.attemptId = some arow

variable (service : Service)

/-- A step leaves the lanes alone or issues the next generation. -/
theorem step_lane (db : Db) (call : Call) (hdb : Coherent db) :
    (step service db call).writerClaims = db.writerClaims ∨
      IssuesLane db (step service db call) := by
  refine Moves.invariant (fun db' => db'.writerClaims = db.writerClaims ∨ IssuesLane db db') ?_
    (step_moves service db call hdb) (.inl rfl)
  intro db₁ db₂ hmove hlanes
  cases hmove with
  | laneTaken row attempt fence generation identity events hfirst hrow hstart hcommand hcurrent harow
      hgeneration hrecords =>
    subst hfirst
    refine .inr ⟨row.taskJson.projectId, _, rfl, ?_, harow⟩
    rw [hgeneration, latestGeneration]
    split <;> rename_i hlane <;> simp [hlane]
  | _ => exact hlanes

/-- The lane row that a step writes for a project, if it writes one. -/
def laneIssue (service : Service) (projectId : ProjectId) (db : Db) (call : Call) :
    Option WriterClaimRow :=
  if (step service db call).writerClaims.lookup projectId = db.writerClaims.lookup projectId then none
  else (step service db call).writerClaims.lookup projectId

/-- The lane rows written along a run. -/
def issuedLanes (service : Service) (projectId : ProjectId) (db : Db) (calls : List Call) :
    List WriterClaimRow :=
  observations (step service) (laneIssue service projectId) db calls

variable (projectId : ProjectId)

theorem laneIssue_cases (db : Db) (call : Call) (hdb : Coherent db) :
    (laneIssue service projectId db call = none ∧
      (step service db call).writerClaims.lookup projectId = db.writerClaims.lookup projectId) ∨
    ∃ writer, laneIssue service projectId db call = some writer ∧
      (step service db call).writerClaims.lookup projectId = some writer ∧
      writer.generation = latestGeneration db projectId + 1 := by
  unfold laneIssue
  split
  · rename_i hsame
    exact .inl ⟨rfl, hsame⟩
  · rename_i hchanged
    rcases step_lane service db call hdb with hsame | ⟨other, writer, hlanes, hgeneration, _⟩
    · exact absurd (by rw [hsame]) hchanged
    · rw [hlanes, Table.lookup_insert_if] at hchanged ⊢
      split at hchanged
      · rename_i hproject
        rw [hproject, if_pos rfl]
        exact .inr ⟨writer, rfl, rfl, hgeneration⟩
      · exact absurd rfl hchanged

variable (calls : List Call)

/-- What is issued along a run are the generations after the one the run
    started with, and the lane row is the last one issued. -/
theorem issuedLanes_spec :
    ∀ db, Coherent db →
      (issuedLanes service projectId db calls).map WriterClaimRow.generation =
          List.range' (latestGeneration db projectId + 1)
            (issuedLanes service projectId db calls).length ∧
        (runCalls service db calls).writerClaims.lookup projectId =
          (issuedLanes service projectId db calls).getLast?.or
            (db.writerClaims.lookup projectId) := by
  induction calls with
  | nil =>
    intro db _
    exact ⟨rfl, rfl⟩
  | cons call calls ih =>
    intro db hdb
    rcases ih (step service db call) (step_coherent service db call hdb) with ⟨hrest, hlast⟩
    have hcons : issuedLanes service projectId db (call :: calls) =
        (laneIssue service projectId db call).toList ++
          issuedLanes service projectId (step service db call) calls := rfl
    have hrun : runCalls service db (call :: calls) =
        runCalls service (step service db call) calls := rfl
    rw [hcons, hrun, hlast]
    rcases laneIssue_cases service projectId db call hdb with
      ⟨hnone, hsame⟩ | ⟨writer, hissue, hlane, hgeneration⟩
    · have hlatest : latestGeneration (step service db call) projectId =
          latestGeneration db projectId := by
        rw [latestGeneration, latestGeneration, hsame]
      rw [hnone, Option.toList_none, nil_append, hrest, hlatest, hsame]
      exact ⟨rfl, rfl⟩
    · have hlatest : latestGeneration (step service db call) projectId = writer.generation := by
        rw [latestGeneration, hlane]
      rw [hissue, Option.toList_some, singleton_append, map_cons, hrest, hlatest,
        hgeneration, length_cons, List.range'_succ, hlane]
      refine ⟨rfl, ?_⟩
      rw [List.getLast?_cons]
      cases (issuedLanes service projectId (step service db call) calls).getLast? <;> rfl

/-! ### Commits -/

/-- The generation under which a call commits. -/
def laneCommit (projectId : ProjectId) (db : Db) (call : Call) : Option Nat :=
  match call.command with
  | .commitAcceptedCandidate fence request successors =>
    match commitAcceptedCandidate call.env fence request successors db with
    | .ok (result, _) =>
      if fence.projectId = projectId ∧ result.status = .accepted then
        some fence.writerGeneration
      else none
    | .error _ => none
  | _ => none

/-- The generations of the accepted commits of a run. -/
def committedGenerations (service : Service) (projectId : ProjectId) (db : Db)
    (calls : List Call) : List Nat :=
  observations (step service) (laneCommit projectId) db calls

theorem Moves.canon_eq {env : Env} {command : Command} {db₀ db db' : Db} {q : ProjectId}
    (h : Moves env command db₀ db db') (hcommand : command.commitsTo? ≠ some q) :
    db'.canon.projects.lookup q = db.canon.projects.lookup q := by
  induction h with
  | refl => rfl
  | tail _ hlast ih => exact (hlast.canon_eq hcommand).trans ih

/-- The lane has passed the generation, or its holder is over. -/
def Beyond (db : Db) (projectId : ProjectId) (generation : Nat) : Prop :=
  ∃ writer, db.writerClaims.lookup projectId = some writer ∧
    (generation < writer.generation ∨ generation = writer.generation ∧ db.Ended writer.attemptId)

theorem Beyond.step {service : Service} {db : Db} {projectId : ProjectId} {generation : Nat}
    (h : Beyond db projectId generation) (call : Call) (hdb : Coherent db) :
    Beyond (step service db call) projectId generation := by
  rcases h with ⟨writer, hlane, hpassed⟩
  rcases laneIssue_cases service projectId db call hdb with
    ⟨_, hsame⟩ | ⟨next, _, hnext, hgeneration⟩
  · refine ⟨writer, by rw [hsame, hlane], hpassed.imp_right ?_⟩
    rintro ⟨heq, hended⟩
    exact ⟨heq, Moves.ended (step_moves service db call hdb) hended⟩
  · refine ⟨next, hnext, .inl ?_⟩
    rw [latestGeneration, hlane] at hgeneration
    simp only at hgeneration
    rcases hpassed with hlt | ⟨heq, _⟩ <;> omega

/-- What a commit call that goes through proves about the store it found, and
    about the one it left. -/
theorem laneCommit_spec (db : Db) (call : Call) (generation : Nat) (hdb : Coherent db)
    (hcommit : laneCommit projectId db call = some generation) :
    ∃ fence request, CommitValid db (step service db call) fence request ∧
      fence.projectId = projectId ∧ fence.writerGeneration = generation := by
  unfold laneCommit at hcommit
  split at hcommit
  · rename_i fence request successors hcommand
    split at hcommit
    · rename_i result db' hok
      split at hcommit
      · rename_i haccepted
        have hperform : perform service call.env call.command db = .ok ((), db') := by
          rw [hcommand, perform]
          simp only [discardResult, Transaction.bind_ok, Transaction.pure_ok]
          exact ⟨result, db', hok, trivial, rfl⟩
        rw [step_of_ok service db db' call hperform]
        exact ⟨fence, request, (commitAcceptedCandidate_moves _ _ _ _ _ _ _ hdb hok).2, haccepted.1,
          Option.some.inj hcommit⟩
      · exact absurd hcommit (by simp)
    · exact absurd hcommit (by simp)
  · exact absurd hcommit (by simp)

theorem FenceValid.not_ended {db : Db} {fence : AttemptFence} {lane : Bool} {owned : Owned}
    (h : FenceValid db fence lane owned) (hown : Owning db.tasks db.attempts) :
    ¬ db.Ended fence.attemptId := by
  rcases h.task with ⟨row, hrow, hjson⟩
  exact hown.not_ended hrow (by rw [hjson, h.current])

/-- A commit uses a generation beyond every one that was used before, and leaves its own behind. -/
theorem laneCommit_beyond (db : Db) (call : Call) (generation : Nat) (hdb : Coherent db)
    (hown : Owning db.tasks db.attempts)
    (hcommit : laneCommit projectId db call = some generation) :
    (∀ earlier, Beyond db projectId earlier → earlier < generation) ∧
      Beyond (step service db call) projectId generation := by
  rcases laneCommit_spec service projectId db call generation hdb hcommit with
    ⟨fence, request, hvalid, rfl, rfl⟩
  rcases hvalid.lane with ⟨writer, hlane, hholder, hgeneration⟩
  rcases hvalid.fenceValid with ⟨owned, hfence⟩
  refine ⟨?_, ?_⟩
  · rintro earlier ⟨other, hother, hpassed⟩
    rw [hlane, Option.some.injEq] at hother
    subst hother
    rcases hpassed with hlt | ⟨_, hended⟩
    · omega
    · rw [hholder] at hended
      exact absurd hended (hfence.not_ended hown)
  · rcases laneIssue_cases service fence.projectId db call hdb with
      ⟨_, hsame⟩ | ⟨next, _, hnext, hraised⟩
    · exact ⟨writer, by rw [hsame, hlane], .inr ⟨hgeneration.symm, by
        rw [hholder]; exact hvalid.ended⟩⟩
    · refine ⟨next, hnext, .inl ?_⟩
      rw [latestGeneration, hlane] at hraised
      simp only at hraised
      omega

theorem committedGenerations_increasing :
    ∀ db, Coherent db → Owning db.tasks db.attempts → Disciplined calls →
      (∀ earlier, Beyond db projectId earlier →
        ∀ generation ∈ committedGenerations service projectId db calls, earlier < generation) ∧
      (committedGenerations service projectId db calls).Pairwise (· < ·) := by
  induction calls with
  | nil =>
    intro db _ _ _
    exact ⟨fun _ _ _ hmem => absurd hmem not_mem_nil, Pairwise.nil⟩
  | cons call calls ih =>
    intro db hdb hown hcalls
    have hown' : Owning (step service db call).tasks (step service db call).attempts :=
      (runCalls_guarded service (fun _ call => call.command.unclaimed = true)
        (fun db => Owning db.tasks db.attempts)
        (fun _ _ _ _ _ _ hdb₀ hcommand hmove hdb => hmove.owning hdb₀ hcommand hdb) db [call] hdb
        hown ⟨hcalls call mem_cons_self, trivial⟩).2
    rcases ih (step service db call) (step_coherent service db call hdb) hown'
      (fun other hother => hcalls other (mem_cons_of_mem call hother)) with
      ⟨hlater, hpairwise⟩
    have hcons : committedGenerations service projectId db (call :: calls) =
        (laneCommit projectId db call).toList ++
          committedGenerations service projectId (step service db call) calls := rfl
    rw [hcons]
    cases hcommit : laneCommit projectId db call with
    | none =>
      rw [Option.toList_none, nil_append]
      exact ⟨fun earlier hbeyond => hlater earlier (hbeyond.step call hdb), hpairwise⟩
    | some generation =>
      rcases laneCommit_beyond service projectId db call generation hdb hown hcommit with
        ⟨hhigher, hbeyond⟩
      rw [Option.toList_some, singleton_append]
      refine ⟨?_, Pairwise.cons (hlater generation hbeyond) hpairwise⟩
      intro earlier hearlier other hother
      rcases mem_cons.mp hother with rfl | hrest
      · exact hhigher earlier hearlier
      · exact hlater earlier (hearlier.step call hdb) other hrest

/-- In every run the generations issued for a project strictly increase and each is issued once; a
    commit moves the project only under the generation issued last; the generations of accepted
    commits strictly increase; and a generation that was taken over never commits again. -/
theorem writer_lane_fencing (service : Service) (canon : Canon) (calls : List Call)
    (hcalls : Disciplined calls) (projectId : ProjectId) :
    let db := runCalls service (Db.fresh canon) calls
    let issued := issuedLanes service projectId (Db.fresh canon) calls
    (issued.map WriterClaimRow.generation).Pairwise (· < ·) ∧
    (∀ writer₁ ∈ issued, ∀ writer₂ ∈ issued, writer₁.generation = writer₂.generation →
      writer₁.attemptId = writer₂.attemptId) ∧
    (∀ env fence request successors,
      (step service db ⟨env, .commitAcceptedCandidate fence request successors⟩).canon.projects.lookup
          projectId ≠ db.canon.projects.lookup projectId →
      fence.projectId = projectId ∧ ∃ writer, issued.getLast? = some writer ∧
        writer.attemptId = fence.attemptId ∧ writer.generation = fence.writerGeneration) ∧
    (committedGenerations service projectId (Db.fresh canon) calls).Pairwise (· < ·) ∧
    (∀ writer ∈ issued.dropLast, ∀ env fence request successors, fence.projectId = projectId →
      fence.writerGeneration = writer.generation →
      ∃ e, commitAcceptedCandidate env fence request successors db = .error e) := by
  intro db issued
  have hdb : Coherent db := runCalls_coherent service canon calls
  rcases issuedLanes_spec service projectId calls (Db.fresh canon) (coherent_fresh canon) with
    ⟨hnumbers, hlast⟩
  have hfresh : (Db.fresh canon).writerClaims.lookup projectId = none := rfl
  rw [hfresh, Option.or_none] at hlast
  have hincreasing : (issued.map WriterClaimRow.generation).Pairwise (· < ·) := by
    rw [hnumbers]
    exact pairwise_lt_range'
  refine ⟨hincreasing, ?_, ?_, ?_, ?_⟩
  · intro writer₁ h₁ writer₂ h₂ hsame
    have hnodup : (issued.map WriterClaimRow.generation).Nodup :=
      hincreasing.imp fun hlt => Nat.ne_of_lt hlt
    rw [inj_on_of_nodup_map hnodup h₁ h₂ hsame]
  · intro env fence request successors hmoved
    have hvalid : CommitValid db
        (step service db ⟨env, .commitAcceptedCandidate fence request successors⟩) fence request := by
      rcases step_cases service db ⟨env, .commitAcceptedCandidate fence request successors⟩ with
        ⟨e, _, hstep⟩ | ⟨db', hperform, hstep⟩
      · rw [hstep] at hmoved
        exact absurd rfl hmoved
      · rcases discardResult_ok _ _ _ _ hperform with ⟨result, hok⟩
        rw [hstep]
        exact (commitAcceptedCandidate_moves _ _ _ _ _ _ _ hdb hok).2
    have hproject : fence.projectId = projectId := by
      by_contra hother
      refine hmoved (Moves.canon_eq (step_moves service db _ hdb) ?_)
      intro hcommits
      exact hother (hvalid.project.symm.trans (Option.some.inj hcommits))
    rcases hvalid.lane with ⟨writer, hlane, hholder, hgeneration⟩
    rw [hproject, hlast] at hlane
    exact ⟨hproject, writer, hlane, hholder, hgeneration⟩
  · exact (committedGenerations_increasing service projectId calls (Db.fresh canon)
      (coherent_fresh canon) (owning_fresh canon) hcalls).2
  · intro writer hwriter env fence request successors hproject hgeneration
    cases hcommit : commitAcceptedCandidate env fence request successors db with
    | error e => exact ⟨e, rfl⟩
    | ok p =>
      rcases (commitAcceptedCandidate_moves _ _ _ _ _ _ _ hdb hcommit).2.lane with
        ⟨holder, hlane, _, hholder⟩
      rw [hproject, hlast] at hlane
      have hsplit : issued = issued.dropLast ++ [holder] :=
        (dropLast_append_getLast? holder hlane).symm
      rw [hsplit, map_append, pairwise_append] at hincreasing
      have hlt := hincreasing.2.2 writer.generation (mem_map_of_mem hwriter)
        holder.generation (mem_map_of_mem mem_cons_self)
      omega

/-- A commit task that takes the lane of its project. -/
def Sample.laneHeld : List Call :=
  Sample.claimed .planCommit ++ [⟨Sample.env 3 0, .claimWriterLane (Sample.fence 1 0)⟩]

def Sample.acceptedRequest : CommitRequest :=
  { Sample.failedRequest with
    bundle := { Sample.failedRequest.bundle with
      proposedRoots := { Sample.failedRequest.bundle.proposedRoots with
        parentCommitIds := [Sample.hashOf 14] } }
    validationReport := ⟨⟨"v", .refl true⟩, ⟨"b", .refl true⟩, .passed⟩ }

def Sample.secondFence (generation : Nat) : AttemptFence :=
  { Sample.fence 4 generation with taskId := ⟨"u", .refl true⟩ }

/-- The holder of the lane fails, and another task takes the lane over and commits. -/
def Sample.takenOver : List Call :=
  Sample.laneHeld ++
    [⟨Sample.env 4 0, .settleAttempt (Sample.fence 1 1) .failed .failed [] none []⟩,
      ⟨Sample.env 5 0, .createTask { Sample.task .planCommit with taskId := ⟨"u", .refl true⟩ }⟩,
      ⟨Sample.env 6 4, .claim ⟨"u", .refl true⟩ "w" none⟩,
      ⟨Sample.env 7 0, .claimWriterLane (Sample.secondFence 0)⟩,
      ⟨Sample.env 8 0, .commitAcceptedCandidate (Sample.secondFence 2) Sample.acceptedRequest []⟩]

/-- The lane is issued twice, the second holder commits, and nobody commits
    under the first generation any more. -/
theorem writer_lane_fencing_takenOver :
    Disciplined Sample.takenOver ∧
    (issuedLanes Sample.service Sample.projectId (Db.fresh Sample.canon) Sample.takenOver).map
      WriterClaimRow.generation = [1, 2] ∧
    committedGenerations Sample.service Sample.projectId (Db.fresh Sample.canon)
      Sample.takenOver = [2] ∧
    ∀ env fence request successors, fence.projectId = Sample.projectId →
      fence.writerGeneration = 1 →
      ∃ e, commitAcceptedCandidate env fence request successors (Sample.after Sample.takenOver) =
        .error e := by
  have hcalls : Disciplined Sample.takenOver := by decide
  have hrun : (issuedLanes Sample.service Sample.projectId (Db.fresh Sample.canon)
        Sample.takenOver).map WriterClaimRow.generation = [1, 2] ∧
      committedGenerations Sample.service Sample.projectId (Db.fresh Sample.canon)
        Sample.takenOver = [2] := by decide +kernel
  refine ⟨hcalls, hrun.1, hrun.2, ?_⟩
  intro env fence request successors hproject hgeneration
  rcases map_eq_cons_iff.mp hrun.1 with ⟨first, later, hissued, hfirst, hlater⟩
  refine (writer_lane_fencing Sample.service Sample.canon Sample.takenOver hcalls
    Sample.projectId).2.2.2.2 first ?_ env fence request successors hproject
      (hgeneration.trans hfirst.symm)
  rcases map_eq_cons_iff.mp hlater with ⟨second, rest, rfl, _, _⟩
  rw [hissued]
  exact mem_cons_self

end NovelAgent.Runtime
