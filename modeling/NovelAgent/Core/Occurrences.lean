import Mathlib.Data.List.Infix
import Mathlib.Data.List.Nodup

/-!
# Occurrences

Where one text stands in another. Occurrences may overlap, and a loop that
searches again from one place behind the last hit finds every one of them.
-/

namespace NovelAgent.Core

open List

section Definitions

variable {α : Type} [DecidableEq α]

/-- The first place, from `start` on, where a text stands in another. -/
def findFrom (part text : List α) (start : Nat) : Option Nat :=
  (List.range' start (text.length + 1 - start)).find? fun i => part <+: text.drop i

/-- The places found by searching again behind every hit. The first argument
    bounds the number of searches. -/
def occurrencesFrom (part text : List α) : Nat → Nat → List Nat
  | 0, _ => []
  | fuel + 1, start =>
    match findFrom part text start with
    | none => []
    | some i => i :: occurrencesFrom part text fuel (i + 1)

/-- All places where a text stands in another. -/
def occurrences (part text : List α) : List Nat :=
  occurrencesFrom part text (text.length + 1) 0

end Definitions

/-- The part of a text between two places. -/
def slice {α : Type} (text : List α) (start stop : Nat) : List α :=
  (text.drop start).take (stop - start)

section Search

variable {α : Type} [DecidableEq α] (part text : List α) (start i : Nat)

/-- What a search finds. -/
theorem findFrom_eq_some : findFrom part text start = some i ↔
    part <+: text.drop i ∧ start ≤ i ∧ i ≤ text.length ∧
      ∀ j, start ≤ j → j < i → ¬ part <+: text.drop j := by
  unfold findFrom
  rw [List.find?_range'_eq_some]
  have hrange : i ∈ List.range' start (text.length + 1 - start) ↔ start ≤ i ∧ i ≤ text.length := by
    rw [mem_range'_1]
    omega
  rw [hrange]
  simp [and_assoc]

/-- The loop from any place on, by induction on the bound. A hit ends the run
    of places that are passed over. -/
theorem occurrencesFrom_eq (fuel : Nat) (hfuel : text.length + 1 ≤ fuel + start) :
    occurrencesFrom part text fuel start =
      (List.range' start (text.length + 1 - start)).filter fun i => part <+: text.drop i := by
  induction fuel generalizing start with
  | zero =>
    have hnone : text.length + 1 - start = 0 := by omega
    rw [hnone]
    rfl
  | succ fuel ih =>
    unfold occurrencesFrom
    cases hfind : findFrom part text start with
    | none =>
      simp only
      unfold findFrom at hfind
      rw [eq_comm, filter_eq_nil_iff]
      exact List.find?_eq_none.mp hfind
    | some i =>
      simp only
      rcases (findFrom_eq_some part text start i).mp hfind with ⟨hpart, hstart, hlength, hfirst⟩
      -- What is passed over, the hit, and the rest.
      have hsplit : List.range' start (text.length + 1 - start) =
          List.range' start (i - start) ++ i ::
            List.range' (i + 1) (text.length + 1 - (i + 1)) := by
        have hpieces : List.range' start (i - start) ++
            List.range' (start + (i - start)) (text.length - i + 1) =
            List.range' start (i - start + (text.length - i + 1)) := List.range'_append_1
        have hplace : start + (i - start) = i := by omega
        have hcount : i - start + (text.length - i + 1) = text.length + 1 - start := by omega
        have hrest : text.length + 1 - (i + 1) = text.length - i := by omega
        rw [hplace, hcount, List.range'_succ] at hpieces
        rw [← hpieces, hrest]
      rw [ih (i + 1) (by omega), hsplit, filter_append, filter_cons_of_pos (by simpa)]
      have hpassed : (List.range' start (i - start)).filter
          (fun i => decide (part <+: text.drop i)) = [] := by
        rw [filter_eq_nil_iff]
        intro j hj
        rw [mem_range'_1] at hj
        simpa using hfirst j hj.1 (by omega)
      rw [hpassed, nil_append]

/-- The loop finds exactly the places where the text stands. -/
theorem occurrences_eq : occurrences part text =
    (List.range (text.length + 1)).filter fun i => part <+: text.drop i := by
  unfold occurrences
  rw [occurrencesFrom_eq part text 0 _ (by omega), range_eq_range']
  rfl

theorem mem_occurrences : i ∈ occurrences part text ↔ i ≤ text.length ∧ part <+: text.drop i := by
  rw [occurrences_eq, mem_filter, mem_range, Nat.lt_succ_iff, decide_eq_true_eq]

end Search

section Slices

variable {α : Type} {part text : List α} {start stop i : Nat}

theorem slice_length (h : stop ≤ text.length) : (slice text start stop).length = stop - start := by
  unfold slice
  rw [length_take, length_drop]
  omega

/-- Where a text stands, the slice of its length is that text. -/
theorem slice_of_occurs (h : part <+: text.drop i) : slice text i (i + part.length) = part := by
  unfold slice
  rw [Nat.add_sub_cancel_left]
  exact (prefix_iff_eq_take.mp h).symm

theorem occurs_slice : slice text start stop <+: text.drop start := by
  unfold slice
  exact List.take_prefix _ _

theorem occurs_stop (hpart : part ≠ []) (h : part <+: text.drop i) :
    i + part.length ≤ text.length := by
  have hlength := h.length_le
  have hpos : 0 < part.length := length_pos_iff.mpr hpart
  rw [length_drop] at hlength
  omega

end Slices

end NovelAgent.Core
