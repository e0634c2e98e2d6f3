import Mathlib.Algebra.BigOperators.Group.List.Basic
import Mathlib.Algebra.GroupWithZero.Nat
import Mathlib.Order.Lattice.Nat

/-!
# Growth on Two Sides

A stretch that grows from its middle. Each time it takes the cheaper one of the
next item on its left and the next one on its right, the left one if they cost
the same, and it stops as soon as that one does not fit.
-/

namespace NovelAgent.Core

open List

/-- How many items are taken on the left and on the right, of which the costs are
    given from the middle on, when some of the limit is used already. -/
def grow (limit : Nat) : Nat → Nat → List Nat → List Nat → Nat × Nat
  | 0, _, _, _ => (0, 0)
  | _ + 1, _, [], [] => (0, 0)
  | fuel + 1, used, l :: ls, [] =>
    if used + l ≤ limit then
      let taken := grow limit fuel (used + l) ls []
      (taken.1 + 1, taken.2)
    else (0, 0)
  | fuel + 1, used, [], r :: rs =>
    if used + r ≤ limit then
      let taken := grow limit fuel (used + r) [] rs
      (taken.1, taken.2 + 1)
    else (0, 0)
  | fuel + 1, used, l :: ls, r :: rs =>
    if l ≤ r then
      if used + l ≤ limit then
        let taken := grow limit fuel (used + l) ls (r :: rs)
        (taken.1 + 1, taken.2)
      else (0, 0)
    else if used + r ≤ limit then
      let taken := grow limit fuel (used + r) (l :: ls) rs
      (taken.1, taken.2 + 1)
    else (0, 0)

/-- The greatest cost of a list. -/
def top (costs : List Nat) : Nat := costs.foldr max 0

@[simp] theorem top_nil : top [] = 0 := rfl

@[simp] theorem top_cons (cost : Nat) (costs : List Nat) :
    top (cost :: costs) = max cost (top costs) :=
  rfl

def rightNeeds (left right : List Nat) (j : Nat) : Nat :=
  (left.takeWhile (· ≤ top (right.take (j + 1)))).sum + (right.take (j + 1)).sum

/-- What has to fit on one side for an item to be taken. -/
def leftNeeds (left right : List Nat) (i : Nat) : Nat :=
  (left.take (i + 1)).sum + (right.takeWhile (· < top (left.take (i + 1)))).sum

section Needs

variable {left right : List Nat} {l r i j : Nat}

theorem rightNeeds_cons_left (h : l ≤ r) :
    rightNeeds (l :: left) (r :: right) j = l + rightNeeds left (r :: right) j := by
  have htop : l ≤ top ((r :: right).take (j + 1)) := by
    rw [take_succ_cons, top_cons]
    exact le_max_of_le_left h
  unfold rightNeeds
  rw [takeWhile_cons_of_pos (by simpa using htop), sum_cons]
  omega

/-- The next item on the left needs only itself if it is not dearer than the next
    one on the right. -/
theorem leftNeeds_zero (h : ∀ r ∈ right.head?, l ≤ r) : leftNeeds (l :: left) right 0 = l := by
  unfold leftNeeds
  have hnone : right.takeWhile (· < top ((l :: left).take (0 + 1))) = [] := by
    cases right with
    | nil => rfl
    | cons r right =>
      have hle := h r rfl
      refine takeWhile_cons_of_neg ?_
      simpa using hle
  rw [hnone]
  simp

theorem leftNeeds_succ (h : ∀ r ∈ right.head?, l ≤ r) :
    leftNeeds (l :: left) right (i + 1) = l + leftNeeds left right i := by
  unfold leftNeeds
  have hsame : right.takeWhile (· < top ((l :: left).take (i + 1 + 1))) =
      right.takeWhile (· < top (left.take (i + 1))) := by
    cases right with
    | nil => rfl
    | cons r right =>
      have hle := h r rfl
      rw [take_succ_cons, top_cons]
      by_cases hlater : top (left.take (i + 1)) ≤ l
      · -- nothing on the right is below the first item on the left
        rw [max_eq_left hlater, takeWhile_cons_of_neg (by simpa using hle),
          takeWhile_cons_of_neg (by simpa using le_trans hlater hle)]
      · rw [max_eq_right (by omega)]
  rw [hsame, take_succ_cons, sum_cons]
  omega

theorem leftNeeds_cons_right (h : r < l) :
    leftNeeds (l :: left) (r :: right) i = r + leftNeeds (l :: left) right i := by
  have htop : r < top ((l :: left).take (i + 1)) := by
    rw [take_succ_cons, top_cons]
    exact lt_max_of_lt_left h
  unfold leftNeeds
  rw [takeWhile_cons_of_pos (by simpa using htop), sum_cons]
  omega

theorem rightNeeds_zero (h : ∀ l ∈ left.head?, r < l) : rightNeeds left (r :: right) 0 = r := by
  unfold rightNeeds
  have hnone : left.takeWhile (· ≤ top ((r :: right).take (0 + 1))) = [] := by
    cases left with
    | nil => rfl
    | cons l left =>
      have hlt := h l rfl
      refine takeWhile_cons_of_neg ?_
      simpa using hlt
  rw [hnone]
  simp

theorem rightNeeds_succ (h : ∀ l ∈ left.head?, r < l) :
    rightNeeds left (r :: right) (j + 1) = r + rightNeeds left right j := by
  unfold rightNeeds
  have hsame : left.takeWhile (· ≤ top ((r :: right).take (j + 1 + 1))) =
      left.takeWhile (· ≤ top (right.take (j + 1))) := by
    cases left with
    | nil => rfl
    | cons l left =>
      have hlt := h l rfl
      rw [take_succ_cons, top_cons]
      by_cases hlater : top (right.take (j + 1)) ≤ r
      · rw [max_eq_left hlater, takeWhile_cons_of_neg (by simpa using hlt),
          takeWhile_cons_of_neg (by simpa using lt_of_le_of_lt hlater hlt)]
      · rw [max_eq_right (by omega)]
  rw [hsame, take_succ_cons, sum_cons]
  omega

end Needs

/-- The items that are taken are those whose needs fit. -/
def Takes (limit used : Nat) (left right : List Nat) (taken : Nat × Nat) : Prop :=
  (∀ i, i < taken.1 ↔ i < left.length ∧ used + leftNeeds left right i ≤ limit) ∧
    ∀ j, j < taken.2 ↔ j < right.length ∧ used + rightNeeds left right j ≤ limit

section Steps

variable {limit used l r : Nat} {left right : List Nat} {taken : Nat × Nat}

theorem Takes.nil : Takes limit used [] [] (0, 0) := by
  simp [Takes]

theorem Takes.step_left (h : ∀ r ∈ right.head?, l ≤ r) (hfits : used + l ≤ limit)
    (hrest : Takes limit (used + l) left right taken) :
    Takes limit used (l :: left) right (taken.1 + 1, taken.2) := by
  constructor
  · intro i
    cases i with
    | zero =>
      rw [leftNeeds_zero h]
      simp [hfits]
    | succ i =>
      rw [leftNeeds_succ h, Nat.add_lt_add_iff_right, hrest.1 i, length_cons,
        Nat.add_lt_add_iff_right, Nat.add_assoc]
  · intro j
    rw [hrest.2 j]
    cases right with
    | nil => simp
    | cons r right => rw [rightNeeds_cons_left (h r rfl), Nat.add_assoc]

theorem Takes.stop_left (h : ∀ r ∈ right.head?, l ≤ r) (hfull : limit < used + l) :
    Takes limit used (l :: left) right (0, 0) := by
  constructor
  · intro i
    cases i with
    | zero =>
      rw [leftNeeds_zero h]
      omega
    | succ i =>
      rw [leftNeeds_succ h]
      omega
  · intro j
    cases right with
    | nil => simp
    | cons r right =>
      rw [rightNeeds_cons_left (h r rfl)]
      omega

theorem Takes.step_right (h : ∀ l ∈ left.head?, r < l) (hfits : used + r ≤ limit)
    (hrest : Takes limit (used + r) left right taken) :
    Takes limit used left (r :: right) (taken.1, taken.2 + 1) := by
  constructor
  · intro i
    rw [hrest.1 i]
    cases left with
    | nil => simp
    | cons l left => rw [leftNeeds_cons_right (h l rfl), Nat.add_assoc]
  · intro j
    cases j with
    | zero =>
      rw [rightNeeds_zero h]
      simp [hfits]
    | succ j =>
      rw [rightNeeds_succ h, Nat.add_lt_add_iff_right, hrest.2 j, length_cons,
        Nat.add_lt_add_iff_right, Nat.add_assoc]

theorem Takes.stop_right (h : ∀ l ∈ left.head?, r < l) (hfull : limit < used + r) :
    Takes limit used left (r :: right) (0, 0) := by
  constructor
  · intro i
    cases left with
    | nil => simp
    | cons l left =>
      rw [leftNeeds_cons_right (h l rfl)]
      omega
  · intro j
    cases j with
    | zero =>
      rw [rightNeeds_zero h]
      omega
    | succ j =>
      rw [rightNeeds_succ h]
      omega

end Steps

/-- Which items are taken, by induction on the fuel. The item that is taken first
    passes into what is used. -/
theorem grow_takes (limit : Nat) : ∀ fuel used left right,
    left.length + right.length ≤ fuel →
      Takes limit used left right (grow limit fuel used left right) := by
  intro fuel
  induction fuel with
  | zero =>
    intro used left right hfuel
    have hleft : left = [] := eq_nil_of_length_eq_zero (by omega)
    have hright : right = [] := eq_nil_of_length_eq_zero (by omega)
    rw [hleft, hright]
    exact Takes.nil
  | succ fuel ih =>
    intro used left right hfuel
    cases left with
    | nil =>
      cases right with
      | nil => exact Takes.nil
      | cons r right =>
        simp only [length_nil, length_cons] at hfuel
        unfold grow
        by_cases hfits : used + r ≤ limit
        · rw [if_pos hfits]
          exact Takes.step_right nofun hfits (ih _ _ _ (by simpa using hfuel))
        · rw [if_neg hfits]
          exact Takes.stop_right nofun (by omega)
    | cons l left =>
      cases right with
      | nil =>
        simp only [length_nil, length_cons] at hfuel
        unfold grow
        by_cases hfits : used + l ≤ limit
        · rw [if_pos hfits]
          exact Takes.step_left nofun hfits (ih _ _ _ (by simpa using hfuel))
        · rw [if_neg hfits]
          exact Takes.stop_left nofun (by omega)
      | cons r right =>
        simp only [length_cons] at hfuel
        unfold grow
        by_cases hcheaper : l ≤ r
        · rw [if_pos hcheaper]
          have hhead : ∀ other ∈ (r :: right).head?, l ≤ other := by simpa using hcheaper
          by_cases hfits : used + l ≤ limit
          · rw [if_pos hfits]
            exact Takes.step_left hhead hfits (ih _ _ _ (by simp only [length_cons]; omega))
          · rw [if_neg hfits]
            exact Takes.stop_left hhead (by omega)
        · rw [if_neg hcheaper]
          have hhead : ∀ other ∈ (l :: left).head?, r < other := by simpa using hcheaper
          by_cases hfits : used + r ≤ limit
          · rw [if_pos hfits]
            exact Takes.step_right hhead hfits (ih _ _ _ (by simp only [length_cons]; omega))
          · rw [if_neg hfits]
            exact Takes.stop_right hhead (by omega)

/-- Nothing is taken when the limit is used up. -/
theorem grow_full {limit : Nat} (fuel : Nat) {used : Nat} {left right : List Nat}
    (hleft : ∀ cost ∈ left, 0 < cost) (hright : ∀ cost ∈ right, 0 < cost) (hfull : limit ≤ used) :
    grow limit fuel used left right = (0, 0) := by
  cases fuel with
  | zero => rfl
  | succ fuel =>
    have hdear : ∀ cost, 0 < cost → ¬ used + cost ≤ limit := by
      intro cost hcost
      omega
    cases left with
    | nil =>
      cases right with
      | nil => rfl
      | cons r right =>
        unfold grow
        rw [if_neg (hdear r (hright r mem_cons_self))]
    | cons l left =>
      cases right with
      | nil =>
        unfold grow
        rw [if_neg (hdear l (hleft l mem_cons_self))]
      | cons r right =>
        unfold grow
        rw [if_neg (hdear l (hleft l mem_cons_self)),
          if_neg (hdear r (hright r mem_cons_self)), ite_self]

end NovelAgent.Core
