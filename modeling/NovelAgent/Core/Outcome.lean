import Mathlib.Data.List.Forall2

/-!
# Outcomes

When a sequence of steps that may raise returns, and when it raises.
-/

namespace NovelAgent.Core.Outcome

open List

variable {ε α β : Type}

/-- A sequence of two steps that returns. -/
theorem bind_eq_ok (x : Except ε α) (f : α → Except ε β) (b : β) :
    (x >>= f) = .ok b ↔ ∃ a, x = .ok a ∧ f a = .ok b := by
  cases x <;> simp [bind, Except.bind]

theorem bind_eq_error (x : Except ε α) (f : α → Except ε β) (e : ε) :
    (x >>= f) = .error e ↔ x = .error e ∨ ∃ a, x = .ok a ∧ f a = .error e := by
  cases x <;> simp [bind, Except.bind]

theorem pure_eq_ok (a b : α) : (pure a : Except ε α) = .ok b ↔ a = b := by
  simp [pure, Except.pure]

variable {x : Except ε α}

theorem ok_of_map {f : α → β} {b : β} (h : x.toOption.map f = some b) :
    ∃ a, x = .ok a ∧ f a = b := by
  cases x with
  | error e => cases h
  | ok a => exact ⟨a, rfl, Option.some.inj h⟩

/-- A step that returns has a value. -/
theorem isOk_iff : x.isOk = true ↔ ∃ a, x = .ok a := by
  cases x <;> simp [Except.isOk, Except.toBool]

variable (c : Prop)

theorem ite_throw_eq_ok [Decidable c] (e : ε) (x : Except ε α) (a : α) :
    (if c then throw e else x) = .ok a ↔ ¬ c ∧ x = .ok a := by
  by_cases h : c <;> simp [h, throw, throwThe, MonadExceptOf.throw]

theorem ite_throw_bind_eq_ok [Decidable c] (e : ε) (f : β → Except ε α) (x : Except ε α) (a : α) :
    (if c then (throw e : Except ε β) >>= f else x) = .ok a ↔ ¬ c ∧ x = .ok a := by
  have hraise : ((throw e : Except ε β) >>= f) = throw e := rfl
  rw [hraise]
  exact ite_throw_eq_ok c e x a

theorem mapError_eq_ok {δ : Type} (f : ε → δ) (x : Except ε α) (a : α) :
    x.mapError f = .ok a ↔ x = .ok a := by
  cases x <;> simp [Except.mapError]

variable {f : α → Except ε β} {items : List α} {results : List β}

/-- A list of calls, all of which have to return. -/
theorem mapM_linked :
    items.mapM f = .ok results ↔ List.Forall₂ (fun a b => f a = .ok b) items results := by
  induction items generalizing results with
  | nil => rw [mapM_nil, pure_eq_ok, forall₂_nil_left_iff, eq_comm]
  | cons a items ih =>
    simp only [mapM_cons, bind_eq_ok, pure_eq_ok, forall₂_cons_left_iff, ih]
    constructor
    · rintro ⟨b, hb, rest, hrest, rfl⟩
      exact ⟨b, rest, hb, hrest, rfl⟩
    · rintro ⟨b, rest, hb, hrest, rfl⟩
      exact ⟨b, hb, rest, hrest, rfl⟩

theorem mapM_congr {f g : α → Except ε β} (h : ∀ a ∈ items, f a = g a) :
    items.mapM f = items.mapM g := by
  induction items with
  | nil => rfl
  | cons a items ih =>
    rw [forall_mem_cons] at h
    rw [mapM_cons, mapM_cons, h.1, ih h.2]

theorem mapM_length (h : items.mapM f = .ok results) : results.length = items.length :=
  (mapM_linked.mp h).length_eq.symm

theorem mapM_returns (f : α → Except ε β) (items : List α) :
    (∃ results, items.mapM f = .ok results) ↔ ∀ a ∈ items, ∃ b, f a = .ok b := by
  induction items with
  | nil => simp [pure, Except.pure]
  | cons a items ih =>
    simp only [mapM_cons, bind_eq_ok, pure_eq_ok, forall_mem_cons]
    constructor
    · rintro ⟨_, b, hfirst, rest, hrest, _⟩
      exact ⟨⟨b, hfirst⟩, ih.mp ⟨rest, hrest⟩⟩
    · rintro ⟨⟨b, hfirst⟩, hitems⟩
      rcases ih.mpr hitems with ⟨rest, hrest⟩
      exact ⟨b :: rest, b, hfirst, rest, hrest, rfl⟩

theorem mapM_error {e : ε} :
    items.mapM f = .error e ↔ ∃ before a after, items = before ++ a :: after ∧
      (∀ x ∈ before, ∃ b, f x = .ok b) ∧ f a = .error e := by
  induction items with
  | nil => simp [pure, Except.pure]
  | cons first items ih =>
    simp only [mapM_cons, bind_eq_error, ih]
    constructor
    · rintro (hfirst | ⟨b, hfirst, (⟨before, a, after, hitems, hbefore, ha⟩ | ⟨_, _, hpure⟩)⟩)
      · exact ⟨[], first, items, rfl, by simp, hfirst⟩
      · refine ⟨first :: before, a, after, by rw [hitems, cons_append], ?_, ha⟩
        exact forall_mem_cons.mpr ⟨⟨b, hfirst⟩, hbefore⟩
      · cases hpure
    · rintro ⟨before, a, after, hitems, hbefore, ha⟩
      cases before with
      | nil =>
        rw [nil_append, List.cons.injEq] at hitems
        rw [hitems.1]
        exact Or.inl ha
      | cons x before =>
        rw [cons_append, List.cons.injEq] at hitems
        rw [forall_mem_cons, ← hitems.1] at hbefore
        rcases hbefore with ⟨⟨b, hb⟩, hbefore⟩
        exact Or.inr ⟨b, hb, Or.inl ⟨before, a, after, hitems.2, hbefore, ha⟩⟩

theorem mapM_mem (h : items.mapM f = .ok results) (b : β) :
    b ∈ results ↔ ∃ a ∈ items, f a = .ok b := by
  induction items generalizing results with
  | nil =>
    rw [mapM_nil, pure_eq_ok] at h
    simp [← h]
  | cons a items ih =>
    simp only [mapM_cons, bind_eq_ok, pure_eq_ok] at h
    rcases h with ⟨first, hfirst, rest, hrest, hresults⟩
    rw [← hresults, mem_cons, exists_mem_cons_iff, ih hrest, hfirst, Except.ok.injEq]
    exact or_congr_left eq_comm

/-- A property of the items done and the state reached that every step of a
    loop keeps holds of all items at the end. -/
theorem foldlM_induct {f : β → α → Except ε β} {motive : List α → β → Prop}
    (hstep : ∀ before a b b', motive before b → f b a = .ok b' → motive (before ++ [a]) b')
    (before : List α) {b b' : β} (hstart : motive before b) (h : items.foldlM f b = .ok b') :
    motive (before ++ items) b' := by
  induction items generalizing before b with
  | nil =>
    rw [foldlM_nil, pure_eq_ok] at h
    rw [append_nil, ← h]
    exact hstart
  | cons a items ih =>
    rw [foldlM_cons, bind_eq_ok] at h
    rcases h with ⟨next, hfirst, hrest⟩
    have := ih (before ++ [a]) (hstep before a b next hstart hfirst) hrest
    rwa [append_assoc, singleton_append] at this

end NovelAgent.Core.Outcome
