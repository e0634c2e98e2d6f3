import Mathlib.Data.List.Forall2
import Mathlib.Data.List.TakeWhile
import NovelAgent.Domain.Changes

/-!
# Progress of the Rounds

When a loop has stalled.
-/

namespace NovelAgent.Loops

open Domain List

/-- What a round came to. -/
inductive LoopRoundProgressKind
  | progressed
  | noProgress
  | waiting
  | terminal
deriving DecidableEq

/-- What one round changed. A round without progress changed no finding, and one with
    progress has something to show for it. -/
structure LoopRoundProgress where
  kind : LoopRoundProgressKind
  basisCommit : Option CommitId
  inputCandidateRef : Option ArtifactRef
  changedIds : List StableId
  remainingWork : List String
  artifactRef : Option ArtifactRef
  unchanged : kind = .noProgress → changedIds = []
  evidenced : kind = .progressed → changedIds ≠ [] ∨ artifactRef ≠ none

/-- What the rounds of one stall have in common: the commit and the candidate. -/
def progressStallKey (progress : LoopRoundProgress) : Option CommitId × Option ArtifactId :=
  (progress.basisCommit, progress.inputCandidateRef.map (·.artifactId))

/-- The loop over the prior rounds, the last one first, with the count so far. -/
def countStalled (key : Option CommitId × Option ArtifactId) : List LoopRoundProgress → Nat → Nat
  | [], count => count
  | prior :: priors, count =>
    if prior.kind ≠ .noProgress ∨ progressStallKey prior ≠ key then count
    else countStalled key priors (count + 1)

/-- Whether so many rounds in a row made no progress. -/
def noProgressExceedsLimit (history : List LoopRoundProgress) (current : LoopRoundProgress)
    (limit : Int) : Bool :=
  if current.kind ≠ .noProgress ∨ limit < 1 then false
  else limit ≤ countStalled (progressStallKey current) history.reverse 1

/-- A round without progress on a candidate and basis. -/
def Stalled (key : Option CommitId × Option ArtifactId) (progress : LoopRoundProgress) : Prop :=
  progress.kind = .noProgress ∧ progressStallKey progress = key

instance (key : Option CommitId × Option ArtifactId) (progress : LoopRoundProgress) :
    Decidable (Stalled key progress) :=
  inferInstanceAs (Decidable (_ ∧ _))

variable {key : Option CommitId × Option ArtifactId} {history : List LoopRoundProgress}
  {current : LoopRoundProgress} {limit : Int}

/-- The scan counts the longest run at the back. -/
theorem countStalled_eq (priors : List LoopRoundProgress) (count : Nat) :
    countStalled key priors count = count + (priors.takeWhile (Stalled key ·)).length := by
  induction priors generalizing count with
  | nil => rfl
  | cons prior priors ih =>
    unfold countStalled
    by_cases hstalled : Stalled key prior
    · rw [if_neg (by simpa [Stalled, not_or] using hstalled), ih, takeWhile_cons_of_pos
        (by simpa using hstalled), length_cons]
      omega
    · rw [if_pos (by simpa [Stalled, imp_iff_not_or] using hstalled),
        takeWhile_cons_of_neg (by simpa using hstalled)]
      rfl

/-- The answer in terms of some run at the back. -/
theorem exceeds_iff : noProgressExceedsLimit history current limit = true ↔
    1 ≤ limit ∧ current.kind = .noProgress ∧ ∃ earlier run, history = earlier ++ run ∧
      limit - 1 ≤ run.length ∧ ∀ prior ∈ run, Stalled (progressStallKey current) prior := by
  unfold noProgressExceedsLimit
  by_cases hguard : current.kind ≠ .noProgress ∨ limit < 1
  · rw [if_pos hguard]
    refine iff_of_false Bool.false_ne_true ?_
    rintro ⟨hlimit, hkind, _⟩
    rcases hguard with hother | hbelow
    · exact hother hkind
    · omega
  · rw [not_or, not_not, Int.not_lt] at hguard
    rw [if_neg (by simpa [not_or] using hguard), decide_eq_true_eq, countStalled_eq]
    constructor
    · intro hlong
      refine ⟨hguard.2, hguard.1, (history.reverse.dropWhile
        (Stalled (progressStallKey current) ·)).reverse, (history.reverse.takeWhile
        (Stalled (progressStallKey current) ·)).reverse, ?_, ?_, ?_⟩
      · rw [← reverse_append, takeWhile_append_dropWhile, reverse_reverse]
      · rw [length_reverse]
        omega
      · intro prior hprior
        simpa using mem_takeWhile_imp (mem_reverse.mp hprior)
    · rintro ⟨_, _, earlier, run, rfl, hlong, hrun⟩
      have hprefix : run.reverse.length ≤
          ((earlier ++ run).reverse.takeWhile (Stalled (progressStallKey current) ·)).length := by
        rw [reverse_append, takeWhile_append_of_pos, length_append]
        · exact Nat.le_add_right _ _
        · intro prior hprior
          simpa using hrun prior (mem_reverse.mp hprior)
      rw [length_reverse] at hprefix
      omega

/-- The rounds do not end in one that counts. -/
def Broken (key : Option CommitId × Option ArtifactId) (rounds : List LoopRoundProgress) : Prop :=
  ∀ last ∈ rounds.getLast?, ¬ Stalled key last

/-- What comes before a run that is broken off does not matter. -/
theorem exceeds_of_broken {earlier run : List LoopRoundProgress}
    (hrun : ∀ prior ∈ run, Stalled (progressStallKey current) prior)
    (hbroken : Broken (progressStallKey current) earlier) :
    noProgressExceedsLimit (earlier ++ run) current limit =
      noProgressExceedsLimit run current limit := by
  have hcount : countStalled (progressStallKey current) (earlier ++ run).reverse 1 =
      countStalled (progressStallKey current) run.reverse 1 := by
    have hstop : earlier.reverse.takeWhile (Stalled (progressStallKey current) ·) = [] := by
      unfold Broken at hbroken
      rw [List.getLast?_eq_head?_reverse] at hbroken
      cases hearlier : earlier.reverse with
      | nil => rfl
      | cons last rest =>
        rw [hearlier] at hbroken
        exact takeWhile_cons_of_neg (by simpa using hbroken last rfl)
    have hall : ∀ prior ∈ run.reverse, (Stalled (progressStallKey current) prior : Bool) := by
      intro prior hprior
      simpa using hrun prior (mem_reverse.mp hprior)
    rw [countStalled_eq, countStalled_eq, reverse_append, takeWhile_append_of_pos hall,
      hstop, append_nil, ← append_nil run.reverse, takeWhile_append_of_pos hall]
    rfl
  unfold noProgressExceedsLimit
  rw [hcount]

/-- Other records put anywhere among those before a broken run leave it broken. -/
theorem Broken.insert {earlier inserted later : List LoopRoundProgress}
    (hbroken : Broken key (earlier ++ later)) (hothers : ∀ other ∈ inserted, ¬ Stalled key other) :
    Broken key (earlier ++ inserted ++ later) := by
  intro last hlast
  rw [List.getLast?_append, List.getLast?_append] at hlast
  cases hlater : later.getLast? with
  | some final =>
    refine hbroken last ?_
    rw [hlater, Option.some_or] at hlast
    rw [List.getLast?_append, hlater, Option.some_or]
    exact hlast
  | none =>
    rw [hlater, Option.none_or] at hlast
    cases hinserted : inserted.getLast? with
    | some final =>
      rw [hinserted, Option.some_or] at hlast
      exact hothers last (mem_of_getLast? (hinserted.trans hlast))
    | none =>
      refine hbroken last ?_
      rw [hinserted, Option.none_or] at hlast
      rw [List.getLast?_append, hlater, Option.none_or]
      exact hlast

/-- Two records that differ in the remaining work only. -/
def Reworded (progress progress' : LoopRoundProgress) : Prop :=
  progress'.kind = progress.kind ∧ progress'.basisCommit = progress.basisCommit ∧
    progress'.inputCandidateRef = progress.inputCandidateRef ∧
    progress'.changedIds = progress.changedIds ∧ progress'.artifactRef = progress.artifactRef

theorem Reworded.stallKey {progress progress' : LoopRoundProgress} (h : Reworded progress progress') :
    progressStallKey progress' = progressStallKey progress := by
  unfold progressStallKey
  rw [h.2.1, h.2.2.1]

theorem countStalled_reworded {priors priors' : List LoopRoundProgress}
    (h : List.Forall₂ Reworded priors priors') (count : Nat) :
    countStalled key priors' count = countStalled key priors count := by
  induction h generalizing count with
  | nil => rfl
  | cons hprior _ ih =>
    unfold countStalled
    rw [hprior.1, hprior.stallKey, ih]

/-- A round has stalled exactly when it is without progress and as many rounds just before
    it as the limit asks for are without progress on the same key. Other records among
    those before the run, and other words for the remaining work, change nothing. -/
theorem stall_is_trailing_run (history : List LoopRoundProgress) (current : LoopRoundProgress)
    (limit : Int) :
    (noProgressExceedsLimit history current limit = true ↔
      1 ≤ limit ∧ current.kind = .noProgress ∧ ∃ earlier run, history = earlier ++ run ∧
        limit - 1 ≤ run.length ∧ ∀ prior ∈ run, Stalled (progressStallKey current) prior) ∧
    (∀ earlier inserted later run, history = earlier ++ later ++ run →
      (∀ prior ∈ run, Stalled (progressStallKey current) prior) →
      Broken (progressStallKey current) (earlier ++ later) →
      (∀ other ∈ inserted, ¬ Stalled (progressStallKey current) other) →
      noProgressExceedsLimit (earlier ++ inserted ++ later ++ run) current limit =
        noProgressExceedsLimit history current limit) ∧
    ∀ history' current', List.Forall₂ Reworded history history' → Reworded current current' →
      noProgressExceedsLimit history' current' limit =
        noProgressExceedsLimit history current limit := by
  refine ⟨exceeds_iff, ?_, ?_⟩
  · intro earlier inserted later run hhistory hrun hbroken hothers
    rw [hhistory, exceeds_of_broken hrun hbroken, exceeds_of_broken hrun (hbroken.insert hothers)]
  · intro history' current' hhistory hcurrent
    unfold noProgressExceedsLimit
    rw [hcurrent.1, hcurrent.stallKey,
      countStalled_reworded (forall₂_reverse_iff.mpr hhistory)]

end NovelAgent.Loops
