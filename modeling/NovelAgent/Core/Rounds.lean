import Mathlib.Algebra.Order.BigOperators.Group.List
import Mathlib.Algebra.Order.Ring.Nat
import NovelAgent.Core.Outcome

/-!
# Turns and Rounds

Items that take turns on a shared state, once each or in rounds for as long as one
of them is active.
-/

namespace NovelAgent.Core

open List

variable {σ τ ε α β : Type}

/-- Every item takes its turn. -/
def turns (turn : σ → α → Except ε (σ × α)) : σ → List α → Except ε (σ × List α)
  | s, [] => .ok (s, [])
  | s, a :: items => do
      let first ← turn s a
      let rest ← turns turn first.1 items
      pure (rest.1, first.2 :: rest.2)

/-- Turns are taken in rounds. -/
def rounds (turn : σ → α → Except ε (σ × α)) (active : α → Bool) (unfinished : ε) :
    Nat → σ → List α → Except ε (σ × List α)
  | 0, s, items => if items.any active then .error unfinished else .ok (s, items)
  | fuel + 1, s, items =>
    if items.any active then do
      let next ← turns turn s items
      rounds turn active unfinished fuel next.1 next.2
    else .ok (s, items)

/-- Two outcomes agree, and their states are related. -/
def Related (R : σ → τ → Prop) (Q : α → Prop) : Except ε (σ × α) → Except ε (τ × α) → Prop
  | .ok (s, a), .ok (t, b) => R s t ∧ a = b ∧ Q a
  | .error e, .error e' => e = e'
  | _, _ => False

variable {s : σ}

namespace Related

variable {R : σ → τ → Prop} {Q Q' : α → Prop} {x : Except ε (σ × α)} {y : Except ε (τ × α)}

variable {a : α}

theorem ok {t : τ} (h : R s t) (ha : Q a) : Related (ε := ε) R Q (.ok (s, a)) (.ok (t, a)) :=
  ⟨h, rfl, ha⟩

theorem error (e : ε) : Related R Q (.error e : Except ε (σ × α)) (.error e : Except ε (τ × α)) :=
  rfl

/-- How related outcomes are combined. -/
theorem bind {P : β → Prop} {f : σ × α → Except ε (σ × β)} {g : τ × α → Except ε (τ × β)}
    (h : Related R Q x y) (hnext : ∀ s t a, R s t → Q a → Related R P (f (s, a)) (g (t, a))) :
    Related R P (x >>= f) (y >>= g) := by
  cases x with
  | error e =>
    cases y with
    | error e' => exact h
    | ok q => exact absurd h id
  | ok p =>
    cases y with
    | error e' => exact absurd h id
    | ok q =>
      rcases p with ⟨s, a⟩
      rcases q with ⟨t, b⟩
      rcases h with ⟨hstates, hsame, ha⟩
      subst hsame
      exact hnext s t a hstates ha

theorem of_ok {R : σ → σ → Prop} {x : Except ε (σ × α)}
    (h : ∀ s a, x = .ok (s, a) → R s s ∧ Q a) : Related R Q x x := by
  cases x with
  | error e => exact error e
  | ok p => exact ok (h p.1 p.2 rfl).1 (h p.1 p.2 rfl).2

/-- What it says of an outcome that returns. -/
theorem ok_left (h : Related R Q (.ok (s, a)) y) : ∃ t, y = .ok (t, a) ∧ R s t ∧ Q a := by
  cases y with
  | error e => exact absurd h id
  | ok q =>
    rcases q with ⟨t, b⟩
    rcases h with ⟨hstates, hsame, ha⟩
    subst hsame
    exact ⟨t, rfl, hstates, ha⟩

theorem self {R : σ → σ → Prop} {x : Except ε (σ × α)} (h : Related R Q x x) (hx : x = .ok (s, a)) :
    R s s ∧ Q a := by
  rw [hx] at h
  exact ⟨h.1, h.2.2⟩

end Related

section Rules

variable {R : σ → τ → Prop} {Q : α → Prop} {turn : σ → α → Except ε (σ × α)}
  {turn' : τ → α → Except ε (τ × α)} {active : α → Bool} {unfinished : ε}

variable {items : List α}

/-- A relation that every turn keeps is kept by a list of turns. -/
theorem turns_related (hturn : ∀ s t a, R s t → Q a → Related R Q (turn s a) (turn' t a)) :
    ∀ {s : σ} {t : τ}, R s t → (∀ a ∈ items, Q a) →
      Related R (fun results => ∀ a ∈ results, Q a) (turns turn s items) (turns turn' t items) := by
  induction items with
  | nil => exact fun h _ => Related.ok h nofun
  | cons a items ih =>
    intro s t h hitems
    rw [forall_mem_cons] at hitems
    refine (hturn s t a h hitems.1).bind ?_
    intro s₁ t₁ a' h₁ ha'
    refine (ih h₁ hitems.2).bind ?_
    intro s₂ t₂ rest h₂ hrest
    exact Related.ok h₂ (forall_mem_cons.mpr ⟨ha', hrest⟩)

/-- And by any number of rounds. -/
theorem rounds_related (hturn : ∀ s t a, R s t → Q a → Related R Q (turn s a) (turn' t a))
    (fuel : Nat) : ∀ {s : σ} {t : τ} {items : List α}, R s t → (∀ a ∈ items, Q a) →
      Related R (fun results => ∀ a ∈ results, Q a) (rounds turn active unfinished fuel s items)
        (rounds turn' active unfinished fuel t items) := by
  induction fuel with
  | zero =>
    intro s t items h hitems
    unfold rounds
    by_cases hactive : items.any active = true
    · rw [if_pos hactive, if_pos hactive]
      exact Related.error unfinished
    · rw [if_neg hactive, if_neg hactive]
      exact Related.ok h hitems
  | succ fuel ih =>
    intro s t items h hitems
    unfold rounds
    by_cases hactive : items.any active = true
    · rw [if_pos hactive, if_pos hactive]
      exact (turns_related hturn h hitems).bind fun _ _ _ h₁ hnext => ih h₁ hnext
    · rw [if_neg hactive, if_neg hactive]
      exact Related.ok h hitems

/-- There are none without an active item. -/
theorem rounds_idle (h : items.any active = false) (fuel : Nat) :
    rounds turn active unfinished fuel s items = .ok (s, items) := by
  cases fuel with
  | zero => simp only [rounds, h, Bool.false_eq_true, if_false]
  | succ fuel => simp only [rounds, h, Bool.false_eq_true, if_false]

variable {size : α → Nat}

/-- What turns use up, by induction on the items: nothing grows, and less is left if
    one of the items was active. -/
theorem turns_size (hturn : ∀ s a s' a', turn s a = .ok (s', a') →
      size a' ≤ size a ∧ (active a = true → size a' < size a)) {items results : List α} :
    ∀ {s s' : σ}, turns turn s items = .ok (s', results) →
      (results.map size).sum ≤ (items.map size).sum ∧
        (items.any active = true → (results.map size).sum < (items.map size).sum) := by
  induction items generalizing results with
  | nil =>
    intro s s' h
    unfold turns at h
    rw [Except.ok.injEq, Prod.mk.injEq] at h
    rw [← h.2]
    exact ⟨le_refl _, nofun⟩
  | cons a items ih =>
    intro s s' h
    unfold turns at h
    simp only [Outcome.bind_eq_ok, Outcome.pure_eq_ok, Prod.mk.injEq] at h
    rcases h with ⟨first, hfirst, rest, hrest, _, hresults⟩
    have hone := hturn s a first.1 first.2 hfirst
    have hothers := ih hrest
    rw [← hresults]
    simp only [map_cons, sum_cons, any_cons, Bool.or_eq_true]
    refine ⟨by omega, ?_⟩
    intro hactive
    rcases hactive with hactive | hactive
    · have := hone.2 hactive
      omega
    · have := hothers.2 hactive
      omega

theorem turns_error {e : ε} : ∀ {s : σ}, turns turn s items = .error e →
    ∃ s' a, turn s' a = .error e := by
  induction items with
  | nil => exact fun h => nomatch h
  | cons a items ih =>
    intro s h
    unfold turns at h
    simp only [Outcome.bind_eq_error] at h
    rcases h with hfirst | ⟨first, _, hrest | ⟨rest, _, hpure⟩⟩
    · exact ⟨s, a, hfirst⟩
    · exact ih hrest
    · cases hpure

/-- Rounds end if the turns of active items use something up. -/
theorem rounds_end (hturn : ∀ s a s' a', turn s a = .ok (s', a') →
      size a' ≤ size a ∧ (active a = true → size a' < size a))
    (hidle : ∀ a, active a = true → 0 < size a)
    (hraises : ∀ s a, turn s a ≠ .error unfinished) (fuel : Nat) :
    ∀ {s : σ} {items : List α}, (items.map size).sum ≤ fuel →
      rounds turn active unfinished fuel s items ≠ .error unfinished := by
  induction fuel with
  | zero =>
    intro s items hfuel h
    unfold rounds at h
    split_ifs at h with hactive
    rcases any_eq_true.mp hactive with ⟨a, ha, hactive⟩
    have hsize := hidle a hactive
    have hle := le_sum_of_mem (mem_map_of_mem (f := size) ha)
    omega
  | succ fuel ih =>
    intro s items hfuel h
    unfold rounds at h
    split_ifs at h with hactive
    simp only [Outcome.bind_eq_error] at h
    rcases h with hturns | ⟨next, hnext, hrest⟩
    · rcases turns_error hturns with ⟨s', a, hraise⟩
      exact hraises s' a hraise
    · have hless := (turns_size hturn hnext).2 hactive
      exact ih (by omega) hrest

end Rules

end NovelAgent.Core
