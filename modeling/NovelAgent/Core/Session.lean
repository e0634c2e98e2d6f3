import NovelAgent.Core.Transaction

/-!
# Sessions

Programs that run transactions one after the other.
-/

namespace NovelAgent.Core

/-- A program that runs transactions over a store of type `σ` and may raise an
    exception of type `ε`. -/
def Session (σ ε α : Type) := σ → Except ε α × σ

namespace Session

variable {σ ε α β : Type}

instance : Monad (Session σ ε) where
  pure a := fun s => (.ok a, s)
  bind x f := fun s =>
    match x s with
    | (.ok a, s') => f a s'
    | (.error e, s') => (.error e, s')

/-- Raise, between transactions. -/
def raise (error : ε) : Session σ ε α := fun s => (.error error, s)

/-- Look at the store, between transactions. -/
def read : Session σ ε σ := fun s => (.ok s, s)

/-- Return or raise what was computed without the store. -/
def ofExcept : Except ε α → Session σ ε α
  | .ok a => pure a
  | .error error => raise error

/-- Run one transaction. -/
def transact (command : Transaction σ ε α) : Session σ ε α :=
  fun s => Transaction.atomically command s

theorem bind_apply (x : Session σ ε α) (f : α → Session σ ε β) (s : σ) :
    (x >>= f) s =
      match x s with
      | (.ok a, s') => f a s'
      | (.error e, s') => (.error e, s') := rfl

theorem ofExcept_apply (x : Except ε α) (s : σ) : (ofExcept x : Session σ ε α) s = (x, s) := by
  cases x <;> rfl

theorem bind_ofExcept_ok {x : Except ε α} {a : α} (h : x = .ok a) (f : α → Session σ ε β) (s : σ) :
    (ofExcept x >>= f) s = f a s := by
  rw [h]
  rfl

theorem bind_ofExcept_error {x : Except ε α} {e : ε} (h : x = .error e) (f : α → Session σ ε β)
    (s : σ) : (ofExcept x >>= f) s = (.error e, s) := by
  rw [h]
  rfl

variable {x : Session σ ε α} {f : α → Session σ ε β}

protected theorem bind_eq_ok {s s'' : σ} {b : β} :
    (x >>= f) s = (.ok b, s'') ↔ ∃ a s', x s = (.ok a, s') ∧ f a s' = (.ok b, s'') := by
  rw [bind_apply]
  rcases x s with ⟨_ | a, s'⟩
  · simp
  · simp

protected theorem pure_eq_ok {a b : α} {s s' : σ} :
    (pure a : Session σ ε α) s = (.ok b, s') ↔ a = b ∧ s' = s := by
  rw [eq_comm (a := s')]
  exact ⟨fun h => by cases h; exact ⟨rfl, rfl⟩, fun h => by rw [h.1, h.2]; rfl⟩

theorem bind_read (f : σ → Session σ ε β) (s : σ) : (read >>= f) s = f s s := rfl

/-- What the session returns or raises, as one transaction. The two differ
    only in the store that an exception leaves behind. -/
def outcome (x : Session σ ε α) : Transaction σ ε α := fun s =>
  match x s with
  | (.ok a, s') => .ok (a, s')
  | (.error e, _) => .error e

theorem outcome_ok (x : Session σ ε α) (s s' : σ) (a : α) :
    outcome x s = .ok (a, s') ↔ x s = (.ok a, s') := by
  rw [outcome]
  rcases x s with ⟨answer, s''⟩
  cases answer <;> simp

theorem outcome_error (x : Session σ ε α) (s : σ) (e : ε) :
    outcome x s = .error e ↔ (x s).1 = .error e := by
  rw [outcome]
  rcases x s with ⟨answer, s''⟩
  cases answer <;> simp

@[simp] theorem outcome_pure (a : α) : outcome (pure a : Session σ ε α) = pure a := rfl

@[simp] theorem outcome_raise (e : ε) : outcome (raise e : Session σ ε α) = throw e := rfl

@[simp] theorem outcome_ofExcept (x : Except ε α) :
    outcome (ofExcept x : Session σ ε α) = liftM x := by
  cases x <;> rfl

theorem liftM_ok (x : Except ε α) (s s' : σ) (a : α) :
    (liftM x : Transaction σ ε α) s = .ok (a, s') ↔ x = .ok a ∧ s = s' := by
  cases x with
  | error e => simp [liftM, monadLift, MonadLift.monadLift, StateT.lift, bind, Except.bind]
  | ok b =>
    simp [liftM, monadLift, MonadLift.monadLift, StateT.lift, bind, Except.bind, pure,
      Except.pure]

@[simp] theorem outcome_read : outcome (read : Session σ ε σ) = get := rfl

/-- A sequence of sessions is a sequence of transactions. -/
@[simp] theorem outcome_bind (x : Session σ ε α) (f : α → Session σ ε β) :
    outcome (x >>= f) = outcome x >>= fun a => outcome (f a) := by
  funext s
  simp only [outcome, bind, StateT.bind, Except.bind]
  rcases x s with ⟨answer, s'⟩
  cases answer <;> rfl

@[simp] theorem outcome_map (g : α → β) (x : Session σ ε α) :
    outcome (g <$> x) = outcome x >>= fun a => pure (g a) :=
  outcome_bind x fun a => pure (g a)

@[simp] theorem outcome_transact (command : Transaction σ ε α) :
    outcome (transact command) = command := by
  funext s
  simp only [outcome, transact, Transaction.atomically]
  cases command s <;> rfl

/-- Whatever the session returns or raises, its stores are related. -/
def Keeps (R : σ → σ → Prop) (x : Session σ ε α) : Prop :=
  ∀ s, R s (x s).2

section Keeps

variable {R : σ → σ → Prop}

theorem keeps_pure (hrefl : ∀ s, R s s) (a : α) : Keeps R (pure a : Session σ ε α) :=
  hrefl

theorem keeps_raise (hrefl : ∀ s, R s s) (e : ε) : Keeps R (raise e : Session σ ε α) :=
  hrefl

/-- A relation carried through a sequence. -/
theorem keeps_bind (htrans : ∀ s₁ s₂ s₃, R s₁ s₂ → R s₂ s₃ → R s₁ s₃) (hx : Keeps R x)
    (hf : ∀ a, Keeps R (f a)) : Keeps R (x >>= f) := by
  intro s
  have hfirst := hx s
  rw [bind_apply]
  rcases h : x s with ⟨outcome, s'⟩
  rw [h] at hfirst
  cases outcome with
  | error e => exact hfirst
  | ok a => exact htrans s s' _ hfirst (hf a s')

end Keeps

end Session

end NovelAgent.Core
