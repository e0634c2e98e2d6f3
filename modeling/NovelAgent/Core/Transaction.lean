import Mathlib.Data.List.Basic

/-!
# Transactions

Commands that read and write a store and may refuse.
-/

namespace NovelAgent.Core

/-- A computation that reads and writes a store of type `σ` and may raise an
    exception of type `ε`. -/
abbrev Transaction (σ ε : Type) := StateT σ (Except ε)

namespace Transaction

variable {σ ε α β : Type}

/-- Raise `error` when the condition holds. -/
def raiseWhen (bad : Prop) [Decidable bad] (error : ε) : Transaction σ ε Unit :=
  if bad then throw error else pure ()

/-- The value inside, or the exception when there is none. -/
def fromOption (error : ε) : Option α → Transaction σ ε α
  | none => throw error
  | some a => pure a

/-- Run a command, keeping the old store if it raises. -/
def atomically (command : Transaction σ ε α) (s : σ) : Except ε α × σ :=
  match command s with
  | .ok (a, s') => (.ok a, s')
  | .error e => (.error e, s)

/-- When a sequence of two commands succeeds. -/
theorem bind_ok (x : Transaction σ ε α) (f : α → Transaction σ ε β) (s s'' : σ) (b : β) :
    (x >>= f) s = .ok (b, s'') ↔ ∃ a s', x s = .ok (a, s') ∧ f a s' = .ok (b, s'') := by
  simp only [bind, StateT.bind, Except.bind]
  cases x s with
  | error e => simp
  | ok p =>
    cases p
    simp

variable (e : ε)

theorem bind_error (x : Transaction σ ε α) (f : α → Transaction σ ε β) (s : σ) (e : ε) :
    (x >>= f) s = .error e ↔ x s = .error e ∨ ∃ a s', x s = .ok (a, s') ∧ f a s' = .error e := by
  simp only [bind, StateT.bind, Except.bind]
  cases x s with
  | error e => simp
  | ok p =>
    cases p
    simp

theorem pure_ok (a b : α) (s s' : σ) :
    (pure a : Transaction σ ε α) s = .ok (b, s') ↔ a = b ∧ s = s' := by
  change Except.ok (a, s) = .ok (b, s') ↔ _
  simp

variable (a : α)

theorem pure_error (s : σ) (e : ε) : ¬ (pure a : Transaction σ ε α) s = .error e := by
  change ¬ Except.ok (a, s) = .error e
  simp

theorem get_ok (a s s' : σ) :
    (get : Transaction σ ε σ) s = .ok (a, s') ↔ s = a ∧ s = s' := by
  simp [get, getThe, MonadStateOf.get, StateT.get, pure, Except.pure]

theorem modify_ok (f : σ → σ) (s s' : σ) (u : Unit) :
    (modify f : Transaction σ ε Unit) s = .ok (u, s') ↔ s' = f s := by
  simp [modify, modifyGet, MonadStateOf.modifyGet, StateT.modifyGet, pure, Except.pure, eq_comm]

theorem throw_ok (s s' : σ) : ¬ (throw e : Transaction σ ε α) s = .ok (a, s') := by
  simp [throw, throwThe, MonadExceptOf.throw, StateT.lift, bind, Except.bind]

variable (bad : Prop) (error : ε)

/-- When a guard lets the command through. -/
theorem raiseWhen_ok [Decidable bad] (s s' : σ) (u : Unit) :
    (raiseWhen bad error : Transaction σ ε Unit) s = .ok (u, s') ↔ ¬ bad ∧ s = s' := by
  unfold raiseWhen
  split
  · rename_i h
    simp [h, throw_ok]
  · rename_i h
    simp [h, pure_ok]

variable (o : Option α)

/-- When an optional value is there. -/
theorem fromOption_ok (s s' : σ) (a : α) :
    (fromOption error o : Transaction σ ε α) s = .ok (a, s') ↔ o = some a ∧ s = s' := by
  cases o with
  | none => simp [fromOption, throw_ok]
  | some b => simp [fromOption, pure_ok]

/-- Whatever the transaction raises satisfies `P`. -/
def RaisesOnly (P : ε → Prop) (x : Transaction σ ε α) : Prop :=
  ∀ s e, x s = .error e → P e

section RaisesOnly

variable {P : ε → Prop}

variable {x : Transaction σ ε α} {f : α → Transaction σ ε β}

/-- A sequence raises only what its parts raise. -/
theorem raisesOnly_bind (hx : RaisesOnly P x) (hf : ∀ a, RaisesOnly P (f a)) :
    RaisesOnly P (x >>= f) := by
  intro s e h
  rcases (bind_error x f s e).mp h with herror | ⟨a, s', _, herror⟩
  · exact hx s e herror
  · exact hf a s' e herror

theorem raisesOnly_pure : RaisesOnly P (pure a : Transaction σ ε α) :=
  fun s e h => absurd h (pure_error a s e)

theorem raisesOnly_get : RaisesOnly P (get : Transaction σ ε σ) :=
  fun _ _ h => absurd h (by simp [get, getThe, MonadStateOf.get, StateT.get, pure, Except.pure])

theorem raisesOnly_modify (f : σ → σ) : RaisesOnly P (modify f : Transaction σ ε Unit) :=
  fun _ _ h => absurd h
    (by simp [modify, modifyGet, MonadStateOf.modifyGet, StateT.modifyGet, pure, Except.pure])

theorem raisesOnly_throw (he : P e) : RaisesOnly P (throw e : Transaction σ ε α) := by
  intro s e' h
  obtain rfl : e = e' := by
    simpa [throw, throwThe, MonadExceptOf.throw, StateT.lift, bind, Except.bind] using h
  exact he

theorem raisesOnly_raiseWhen [Decidable bad] (he : P error) :
    RaisesOnly P (raiseWhen bad error : Transaction σ ε Unit) := by
  unfold raiseWhen
  split
  · exact raisesOnly_throw error he
  · exact raisesOnly_pure ()

theorem raisesOnly_fromOption (he : P error) :
    RaisesOnly P (fromOption error o : Transaction σ ε α) := by
  cases o with
  | none => exact raisesOnly_throw error he
  | some a => exact raisesOnly_pure a

theorem raises_of_ok {s s' : σ} {a : α} {e : ε} (hx : x s = .ok (a, s')) (hf : RaisesOnly P (f a))
    (h : (x >>= f) s = .error e) : P e := by
  rcases (bind_error x f s e).mp h with herror | ⟨b, s'', hok, herror⟩
  · rw [hx] at herror
    exact absurd herror (by simp)
  · rw [hx, Except.ok.injEq, Prod.mk.injEq] at hok
    rw [← hok.1] at herror
    exact hf s'' e herror

end RaisesOnly

variable (command : Transaction σ ε α)

/-- A command that raises leaves the store as it was. -/
theorem atomically_error (s : σ) (e : ε) (h : command s = .error e) :
    atomically command s = (.error e, s) := by
  rw [atomically, h]

theorem atomically_ok (s s' : σ) (a : α) (h : command s = .ok (a, s')) :
    atomically command s = (.ok a, s') := by
  rw [atomically, h]

end Transaction

end NovelAgent.Core
