import Mathlib.Data.List.Basic

/-!
# Runs of a Step Function

What holds along every run of a system that takes one command after another.
-/

namespace NovelAgent.Core

variable {σ ι : Type}

/-- The state after a list of commands. -/
def run (step : σ → ι → σ) (s : σ) (commands : List ι) : σ :=
  commands.foldl step s

/-- Every command of the run satisfies `G` in the state it is issued in. -/
def Guarded (step : σ → ι → σ) (G : σ → ι → Prop) : σ → List ι → Prop
  | _, [] => True
  | s, c :: cs => G s c ∧ Guarded step G (step s c) cs

/-- What an observer that may report something at each step reports along a run. -/
def observations {β : Type} (step : σ → ι → σ) (observe : σ → ι → Option β) : σ → List ι → List β
  | _, [] => []
  | s, c :: cs => (observe s c).toList ++ observations step observe (step s c) cs

variable (step : σ → ι → σ) (s : σ)

@[simp] theorem run_nil : run step s [] = s := rfl

@[simp] theorem run_cons (c : ι) (cs : List ι) :
    run step s (c :: cs) = run step (step s c) cs := rfl

/-- A run splits at any point. -/
theorem run_append (cs ds : List ι) : run step s (cs ++ ds) = run step (run step s cs) ds := by
  rw [run, List.foldl_append]
  rfl

variable (G : σ → ι → Prop)

/-- A guarded run splits at any point. -/
theorem guarded_append (s : σ) (cs ds : List ι) :
    Guarded step G s (cs ++ ds) ↔ Guarded step G s cs ∧ Guarded step G (run step s cs) ds := by
  induction cs generalizing s with
  | nil => simp [Guarded]
  | cons c cs ih => simp [Guarded, ih, and_assoc]

variable (Inv : σ → Prop)

/-- Conditions that agree under an invariant guard the same runs. -/
theorem guarded_congr {G G' : σ → ι → Prop} (hstep : ∀ s c, Inv s → Inv (step s c))
    (hsame : ∀ s c, Inv s → (G s c ↔ G' s c)) :
    ∀ (cs : List ι) (s : σ), Inv s → (Guarded step G s cs ↔ Guarded step G' s cs) := by
  intro cs
  induction cs with
  | nil => exact fun _ _ => Iff.rfl
  | cons c cs ih =>
    intro s hs
    exact and_congr (hsame s c hs) (ih (step s c) (hstep s c hs))

/-- An invariant that every guarded step keeps holds at the end of every guarded run. The induction
    is on the commands; the state is general because the tail of a run starts one step later. -/
theorem run_guarded (hstep : ∀ s c, Inv s → G s c → Inv (step s c)) :
    ∀ (cs : List ι) (s : σ), Guarded step G s cs → Inv s → Inv (run step s cs) := by
  intro cs
  induction cs with
  | nil =>
    intro s _ hs
    exact hs
  | cons c cs ih =>
    intro s hg hs
    exact ih (step s c) hg.2 (hstep s c hs hg.1)

/-- An invariant of the step is an invariant of every run. -/
theorem run_invariant (hstep : ∀ s c, Inv s → Inv (step s c)) (s : σ) (hs : Inv s) (cs : List ι) :
    Inv (run step s cs) := by
  induction cs generalizing s with
  | nil => exact hs
  | cons c cs ih => exact ih (step s c) (hstep s c hs)

end NovelAgent.Core
