import Mathlib.Data.List.Infix

/-!
# Patterns of LIKE

The pattern match of SQL with a backslash as its escape, and what it has to do with
the test that a text starts with another.
-/

namespace NovelAgent.Core.Like

/-- The characters match the pattern. -/
def like : List Char → List Char → Bool
  | [], text => text.isEmpty
  | '%' :: pattern, text => text.tails.any (like pattern)
  | '_' :: pattern, text =>
    match text with
    | [] => false
    | _ :: text => like pattern text
  | '\\' :: escaped :: pattern, text =>
    match text with
    | [] => false
    | c :: text => c == escaped && like pattern text
  | literal :: pattern, text =>
    match text with
    | [] => false
    | c :: text => c == literal && like pattern text

/-- No character of the text has a meaning of its own in a pattern. -/
def Plain (text : List Char) : Prop :=
  ∀ c ∈ text, c ≠ '%' ∧ c ≠ '_' ∧ c ≠ '\\'

/-- A text starts with another. -/
def startsWith (start text : String) : Bool :=
  start.toList.isPrefixOf text.toList

variable (text : List Char)

theorem like_nil : like [] text = text.isEmpty := by
  unfold like
  rfl

theorem like_percent (pattern text : List Char) :
    like ('%' :: pattern) text = text.tails.any (like pattern) := by
  rw [like]

theorem like_literal {c : Char} (h : c ≠ '%' ∧ c ≠ '_' ∧ c ≠ '\\') (pattern text : List Char) :
    like (c :: pattern) text =
      match text with
      | [] => false
      | d :: text => d == c && like pattern text := by
  rcases h with ⟨hpercent, hunderscore, hbackslash⟩
  rw [like.eq_def]
  split <;> simp_all

theorem like_rest : like ['%'] text = true := by
  rw [like_percent, List.any_eq_true]
  exact ⟨[], (List.mem_tails _ _).mpr (List.nil_suffix), like_nil []⟩

/-- A plain text before a percent sign matches the texts that start with it. The
    induction is on the plain text. -/
theorem like_plain {start : List Char} (h : Plain start) (text : List Char) :
    like (start ++ ['%']) text = start.isPrefixOf text := by
  induction start generalizing text with
  | nil => exact like_rest text
  | cons c start ih =>
    have hrest : Plain start := fun d hd => h d (List.mem_cons_of_mem _ hd)
    rw [List.cons_append, like_literal (h c List.mem_cons_self)]
    cases text with
    | nil => rfl
    | cons d text =>
      change (d == c && like (start ++ ['%']) text) = (c == d && start.isPrefixOf text)
      rw [ih hrest, beq_eq_decide, beq_eq_decide]
      congr 1
      exact decide_eq_decide.mpr eq_comm

end NovelAgent.Core.Like
