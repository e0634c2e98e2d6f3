import Mathlib.Data.List.Basic
import Mathlib.Data.List.Nodup

/-!
# Merging

Lists that are merged into one, with one item for each key.
-/

namespace NovelAgent.Core

open List

variable {α κ : Type} [DecidableEq κ] {key : α → κ}

/-- The items of two lists in turns, and then what is left of the longer one. -/
def interleave : List α → List α → List α
  | [], ys => ys
  | x :: xs, [] => x :: xs
  | x :: xs, y :: ys => x :: y :: interleave xs ys

variable {a : α}

/-- Nothing is lost or added by taking turns. -/
theorem mem_interleave : ∀ xs ys : List α, a ∈ interleave xs ys ↔ a ∈ xs ∨ a ∈ ys
  | [], ys => by simp [interleave]
  | x :: xs, [] => by simp [interleave]
  | x :: xs, y :: ys => by
      rw [interleave, mem_cons, mem_cons, mem_interleave xs ys, mem_cons,
        mem_cons]
      tauto

theorem length_interleave : ∀ xs ys : List α, (interleave xs ys).length = xs.length + ys.length
  | [], ys => by simp [interleave]
  | x :: xs, [] => by simp [interleave]
  | x :: xs, y :: ys => by
      rw [interleave, length_cons, length_cons, length_interleave xs ys, length_cons,
        length_cons]
      omega

/-- The first item of each key. -/
def firstPer (key : α → κ) : List α → List α
  | [] => []
  | a :: l => a :: (firstPer key l).filter fun b => key b ≠ key a

variable {l : List α}

theorem firstPer_subset (h : a ∈ firstPer key l) : a ∈ l := by
  induction l with
  | nil => exact h
  | cons b l ih =>
    rcases mem_cons.mp h with rfl | hmem
    · exact mem_cons_self
    · exact mem_cons_of_mem b (ih (mem_of_mem_filter hmem))

variable {k : κ}

/-- The first items have the keys of the list. -/
theorem keys_firstPer : k ∈ (firstPer key l).map key ↔ k ∈ l.map key := by
  constructor
  · intro h
    rcases mem_map.mp h with ⟨a, ha, rfl⟩
    exact mem_map_of_mem (firstPer_subset ha)
  · intro h
    induction l with
    | nil => exact h
    | cons b l ih =>
      by_cases hkey : k = key b
      · rw [hkey]
        exact mem_cons_self
      · rcases mem_cons.mp h with heq | hmem
        · exact absurd heq hkey
        · rcases mem_map.mp (ih hmem) with ⟨a, ha, rfl⟩
          exact mem_cons_of_mem _ (mem_map_of_mem (mem_filter.mpr
            ⟨ha, decide_eq_true hkey⟩))

/-- Every key is there once. -/
theorem nodup_firstPer (l : List α) : ((firstPer key l).map key).Nodup := by
  induction l with
  | nil => exact nodup_nil
  | cons b l ih =>
    rw [firstPer, map_cons, nodup_cons]
    refine ⟨fun hmem => ?_, ih.sublist (filter_sublist.map key)⟩
    rcases mem_map.mp hmem with ⟨a, ha, hkey⟩
    exact absurd hkey (of_decide_eq_true (mem_filter.mp ha).2)

theorem length_firstPer_le (l : List α) : (firstPer key l).length ≤ l.length := by
  induction l with
  | nil => exact Nat.le_refl 0
  | cons b l ih =>
    have := length_filter_le (fun a => decide (key a ≠ key b)) (firstPer key l)
    rw [firstPer, length_cons, length_cons]
    omega

theorem firstPer_concat (l : List α) (a : α) : firstPer key (l ++ [a]) =
    if key a ∈ l.map key then firstPer key l else firstPer key l ++ [a] := by
  induction l with
  | nil => rfl
  | cons b l ih =>
    rw [cons_append, firstPer, ih, firstPer, map_cons]
    by_cases hkey : key a = key b
    · rw [if_pos (mem_cons.mpr (.inl hkey))]
      split_ifs
      · rfl
      · simp [filter_append, hkey]
    · by_cases hmem : key a ∈ l.map key
      · rw [if_pos hmem, if_pos (mem_cons_of_mem _ hmem)]
      · rw [if_neg hmem, if_neg (by simp only [mem_cons, hkey, hmem, or_self, not_false_eq_true])]
        simp [filter_append, hkey]

theorem prefix_firstPer_append (xs ys : List α) :
    firstPer key xs <+: firstPer key (xs ++ ys) := by
  induction xs with
  | nil => exact nil_prefix
  | cons x xs ih =>
    rw [cons_append, firstPer, firstPer, cons_prefix_cons]
    exact ⟨rfl, ih.filter _⟩

/-- Items only move forward. -/
theorem take_firstPer {n : Nat} (h : k ∈ (l.take n).map key) :
    k ∈ ((firstPer key l).take n).map key := by
  have hprefix : firstPer key (l.take n) <+: firstPer key l := by
    have happend := @prefix_firstPer_append _ _ _ key (l.take n) (l.drop n)
    rwa [take_append_drop] at happend
  have hlength : (firstPer key (l.take n)).length ≤ n :=
    Nat.le_trans (length_firstPer_le _) (length_take_le n l)
  have hsub : firstPer key (l.take n) ⊆ (firstPer key l).take n := by
    rw [prefix_iff_eq_take.mp hprefix]
    exact (take_prefix_take_left hlength).subset
  rcases mem_map.mp (keys_firstPer.mpr h) with ⟨a, ha, rfl⟩
  exact mem_map_of_mem (hsub ha)

end NovelAgent.Core
