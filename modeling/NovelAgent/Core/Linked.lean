import Mathlib.Data.List.Forall2
import Mathlib.Data.List.Sort
import NovelAgent.Core.Outcome

/-!
# Linked Collections

Two collections that hold the same things in two forms, item by item. What looks
items up, puts them in order or reads them does the same on both sides, as long as it
asks for something the two forms agree on.
-/

namespace NovelAgent.Core.Linked

open List

variable {α β ι : Type} {R : α → β → Prop} {xs : List α} {ys : List β}

/-- Looking for an item. -/
theorem find {p : α → Bool} {q : β → Bool} (hpq : ∀ a b, R a b → p a = q b)
    (h : List.Forall₂ R xs ys) :
    (xs.find? p = none ∧ ys.find? q = none) ∨
      ∃ x y, xs.find? p = some x ∧ ys.find? q = some y ∧ R x y := by
  induction h with
  | nil => exact .inl ⟨rfl, rfl⟩
  | @cons x y _ _ hxy _ ih =>
    rw [List.find?_cons, List.find?_cons, hpq x y hxy]
    cases q y with
    | true => exact .inr ⟨x, y, rfl, rfl, hxy⟩
    | false => exact ih

variable {x : α}

/-- Every item has its other form. -/
theorem exists_right (h : List.Forall₂ R xs ys) (hx : x ∈ xs) : ∃ y ∈ ys, R x y := by
  induction h with
  | nil => exact absurd hx not_mem_nil
  | cons hxy _ ih =>
    rcases mem_cons.mp hx with rfl | hrest
    · exact ⟨_, mem_cons_self, hxy⟩
    · rcases ih hrest with ⟨y, hy, hrelated⟩
      exact ⟨y, mem_cons_of_mem _ hy, hrelated⟩

variable {y : β}

/-- And is the other form of one. -/
theorem exists_left (h : List.Forall₂ R xs ys) (hy : y ∈ ys) : ∃ x ∈ xs, R x y :=
  exists_right h.flip hy

variable {key : α → ι} {key' : β → ι}

theorem orderedInsert [LE ι] [DecidableLE ι] (hkey : ∀ a b, R a b → key a = key' b)
    (h : List.Forall₂ R xs ys) (hxy : R x y) :
    List.Forall₂ R (xs.orderedInsert (fun a b => key a ≤ key b) x)
      (ys.orderedInsert (fun a b => key' a ≤ key' b) y) := by
  induction h with
  | nil => exact List.Forall₂.cons hxy List.Forall₂.nil
  | cons hhead hrest ih =>
    rw [orderedInsert_cons, orderedInsert_cons, hkey _ _ hxy, hkey _ _ hhead]
    split
    · exact List.Forall₂.cons hxy (List.Forall₂.cons hhead hrest)
    · exact List.Forall₂.cons hhead ih

/-- Putting the items in order. -/
theorem insertionSort [LE ι] [DecidableLE ι] (hkey : ∀ a b, R a b → key a = key' b)
    (h : List.Forall₂ R xs ys) :
    List.Forall₂ R (xs.insertionSort fun a b => key a ≤ key b)
      (ys.insertionSort fun a b => key' a ≤ key' b) := by
  induction h with
  | nil => exact List.Forall₂.nil
  | cons hxy _ ih => exact orderedInsert hkey ih hxy

/-- Reading each item of one form gives the items of the other, up to what is left aside. -/
theorem mapM {ε γ δ : Type} {f : α → Except ε γ} {g : γ → δ} {g' : β → δ}
    (hread : ∀ a b, R a b → ∃ c, f a = .ok c ∧ g c = g' b) (h : List.Forall₂ R xs ys) :
    ∃ cs, xs.mapM f = .ok cs ∧ cs.map g = ys.map g' := by
  induction h with
  | nil => exact ⟨[], rfl, rfl⟩
  | cons hxy _ ih =>
    rcases hread _ _ hxy with ⟨c, hc, hcg⟩
    rcases ih with ⟨cs, hcs, hmap⟩
    refine ⟨c :: cs, ?_, ?_⟩
    · rw [mapM_cons, Outcome.bind_eq_ok]
      refine ⟨c, hc, ?_⟩
      rw [Outcome.bind_eq_ok]
      exact ⟨cs, hcs, rfl⟩
    · rw [map_cons, map_cons, hcg, hmap]

end NovelAgent.Core.Linked
