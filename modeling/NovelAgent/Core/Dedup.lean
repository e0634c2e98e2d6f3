import Mathlib.Data.List.Basic

/-!
# First Occurrences

The list of a list's distinct members, each where it first occurs.
-/

namespace NovelAgent.Core

open List

variable {α : Type} [DecidableEq α]

/-- Filtering before or after is the same. -/
theorem eraseDups_filter (p : α → Bool) (l : List α) :
    (l.filter p).eraseDups = l.eraseDups.filter p := by
  -- The tail that the recursion continues with is filtered, so the induction
  -- is on the length.
  induction hn : l.length using Nat.strongRecOn generalizing l with
  | _ n ih =>
    cases l with
    | nil => rfl
    | cons a rest =>
      have hlen : (rest.filter fun b => !b == a).length < n := by
        have := length_filter_le (fun b => !b == a) rest
        rw [length_cons] at hn
        omega
      rw [eraseDups_cons]
      by_cases hp : p a = true
      · rw [filter_cons_of_pos hp, eraseDups_cons, filter_cons_of_pos hp,
          ← ih _ hlen _ rfl, filter_comm]
      · rw [filter_cons_of_neg hp, filter_cons_of_neg hp, ← ih _ hlen _ rfl]
        congr 1
        rw [filter_filter]
        refine filter_congr fun b _ => ?_
        by_cases hb : b = a
        · simp [hb, hp]
        · simp [hb]

/-- No member is left twice. -/
theorem nodup_eraseDups (l : List α) : l.eraseDups.Nodup := by
  induction hn : l.length using Nat.strongRecOn generalizing l with
  | _ n ih =>
    cases l with
    | nil => exact nodup_nil
    | cons a rest =>
      have hlen : (rest.filter fun b => !b == a).length < n := by
        have := length_filter_le (fun b => !b == a) rest
        rw [length_cons] at hn
        omega
      rw [eraseDups_cons, nodup_cons]
      exact ⟨by simp [mem_eraseDups], ih _ hlen _ rfl⟩

theorem eraseDups_of_nodup {l : List α} (h : l.Nodup) : l.eraseDups = l := by
  induction l with
  | nil => rfl
  | cons a rest ih =>
    rw [nodup_cons] at h
    have hrest : (rest.filter fun b => !b == a) = rest := by
      rw [filter_eq_self]
      intro b hb
      have hne : b ≠ a := fun heq => h.1 (heq ▸ hb)
      simp [hne]
    rw [eraseDups_cons, hrest, ih h.2]

/-- A tail may be thinned out first. -/
theorem eraseDups_append_eraseDups (before after : List α) :
    (before ++ after.eraseDups).eraseDups = (before ++ after).eraseDups := by
  rw [eraseDups_append, eraseDups_append, List.removeAll, List.removeAll,
    eraseDups_filter, eraseDups_filter, eraseDups_of_nodup (nodup_eraseDups after)]

end NovelAgent.Core
