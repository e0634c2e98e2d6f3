import NovelAgent.Core.Session

/-!
# Outcomes of Sessions

What a session leaves behind, whether it returns or raises.
-/

namespace NovelAgent.Core.Session

variable {σ ε α β : Type}

/-- The session returns with `Q` or raises with `E`. -/
def Ensures (x : Session σ ε α) (Q : α → σ → Prop) (E : ε → σ → Prop) (s : σ) : Prop :=
  match x s with
  | (.ok a, s') => Q a s'
  | (.error e, s') => E e s'

variable {Q Q' : α → σ → Prop} {E E' : ε → σ → Prop} {s : σ}

/-- The two halves read off an outcome. -/
theorem ensures_iff (x : Session σ ε α) :
    Ensures x Q E s ↔
      (∀ a s', x s = (.ok a, s') → Q a s') ∧ (∀ e s', x s = (.error e, s') → E e s') := by
  unfold Ensures
  rcases x s with ⟨outcome, s'⟩
  cases outcome with
  | ok a => simp
  | error e => simp

@[simp] theorem ensures_pure (a : α) : Ensures (pure a : Session σ ε α) Q E s ↔ Q a s :=
  Iff.rfl

@[simp] theorem ensures_raise (e : ε) : Ensures (raise e : Session σ ε α) Q E s ↔ E e s :=
  Iff.rfl

/-- A sequence ensures what its parts ensure one after the other. -/
@[simp] theorem ensures_bind (x : Session σ ε α) (f : α → Session σ ε β) {R : β → σ → Prop} :
    Ensures (x >>= f) R E s ↔ Ensures x (fun a s' => Ensures (f a) R E s') E s := by
  unfold Ensures
  rw [bind_apply]
  rcases x s with ⟨outcome, s'⟩
  cases outcome <;> rfl

variable {x : Session σ ε α}

/-- Both halves can be weakened. -/
theorem Ensures.mono (h : Ensures x Q E s) (hQ : ∀ a s', Q a s' → Q' a s')
    (hE : ∀ e s', E e s' → E' e s') : Ensures x Q' E' s := by
  unfold Ensures at h ⊢
  rcases hx : x s with ⟨outcome, s'⟩
  rw [hx] at h
  cases outcome with
  | ok a => exact hQ a s' h
  | error e => exact hE e s' h

theorem Ensures.imp (h : Ensures x Q E s) (hQ : ∀ a s', Q a s' → Q' a s') : Ensures x Q' E s :=
  h.mono hQ fun _ _ he => he

variable {s' : σ}

theorem Ensures.ok {a : α} (h : Ensures x Q E s) (hx : x s = (.ok a, s')) : Q a s' :=
  ((ensures_iff x).mp h).1 a s' hx

theorem Ensures.error {e : ε} (h : Ensures x Q E s) (hx : x s = (.error e, s')) : E e s' :=
  ((ensures_iff x).mp h).2 e s' hx

end NovelAgent.Core.Session
