import Mathlib.Data.List.Sort

/-!
# Stable Sorting

Items that are sorted by a key stay in the order in which they came where their keys
are the same. So the order of the result is a finer one than that of the keys, and the
result depends on the items alone as soon as the finer order tells them apart.
-/

namespace NovelAgent.Core

open List

variable {α : Type} (r s : α → α → Prop)

/-- The order of a key, with items of the same key in the order `s`. -/
def Finer (a b : α) : Prop := r a b ∧ (r b a → s a b)

variable {r s} [DecidableRel r]

variable {items : List α}

theorem orderedInsert_finer (htotal : ∀ a b, r a b ∨ r b a)
    (htrans : ∀ a b c, r a b → r b c → r a c) {a : α} (hitems : items.Pairwise (Finer r s))
    (ha : ∀ b ∈ items, r b a → s a b) : (items.orderedInsert r a).Pairwise (Finer r s) := by
  induction items with
  | nil => exact pairwise_singleton _ _
  | cons b rest ih =>
    rw [pairwise_cons] at hitems
    rw [forall_mem_cons] at ha
    by_cases hab : r a b
    · rw [orderedInsert_cons_of_le _ _ hab]
      refine pairwise_cons.mpr ⟨?_, pairwise_cons.mpr hitems⟩
      intro c hc
      rcases mem_cons.mp hc with rfl | hc
      · exact ⟨hab, ha.1⟩
      · exact ⟨htrans a b c hab (hitems.1 c hc).1, ha.2 c hc⟩
    · have hba := (htotal a b).resolve_left hab
      rw [orderedInsert_of_not_le _ _ hab]
      refine pairwise_cons.mpr ⟨?_, ih hitems.2 ha.2⟩
      intro c hc
      rcases mem_cons.mp ((perm_orderedInsert r a rest).mem_iff.mp hc) with rfl | hc
      · exact ⟨hba, fun hcontra => absurd hcontra hab⟩
      · exact hitems.1 c hc

/-- Items that come in the finer order among equals are sorted by it, by induction on the items. -/
theorem insertionSort_finer (htotal : ∀ a b, r a b ∨ r b a)
    (htrans : ∀ a b c, r a b → r b c → r a c) (h : items.Pairwise fun a b => r b a → s a b) :
    (items.insertionSort r).Pairwise (Finer r s) := by
  induction items with
  | nil => exact Pairwise.nil
  | cons a rest ih =>
    rw [pairwise_cons] at h
    rw [insertionSort_cons]
    refine orderedInsert_finer htotal htrans (ih h.2) ?_
    intro b hb
    exact h.1 b ((perm_insertionSort r rest).mem_iff.mp hb)

/-- Two lists of the same items are sorted into the same list, if the finer order never
    holds both ways between two of them. -/
theorem insertionSort_eq_of_perm (htotal : ∀ a b, r a b ∨ r b a)
    (htrans : ∀ a b c, r a b → r b c → r a c) {items others : List α} (hperm : items.Perm others)
    (hantisymm : ∀ a ∈ items, ∀ b ∈ items, Finer r s a b → Finer r s b a → a = b)
    (hitems : items.Pairwise fun a b => r b a → s a b)
    (hothers : others.Pairwise fun a b => r b a → s a b) :
    items.insertionSort r = others.insertionSort r := by
  refine Perm.eq_of_pairwise ?_ (insertionSort_finer htotal htrans hitems)
    (insertionSort_finer htotal htrans hothers)
    ((perm_insertionSort r items).trans (hperm.trans (perm_insertionSort r others).symm))
  intro a b ha hb hab hba
  refine hantisymm a ((perm_insertionSort r items).mem_iff.mp ha) b ?_ hab hba
  exact hperm.mem_iff.mpr ((perm_insertionSort r others).mem_iff.mp hb)

end NovelAgent.Core
