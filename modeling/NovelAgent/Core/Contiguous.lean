import Mathlib.Data.List.Basic

/-!
# Contiguous Values

A value stands in one piece in a list: what is equal to it comes in one block.
-/

namespace NovelAgent.Core

variable {α : Type}

/-- A value stands in one piece. -/
def Contiguous (a : α) (l : List α) : Prop :=
  ∃ before block after, l = before ++ block ++ after ∧ (∀ x ∈ block, x = a) ∧
    a ∉ before ∧ a ∉ after

/-- It does so in every sublist. -/
theorem Contiguous.sublist {a : α} {l part : List α} (h : Contiguous a l)
    (hpart : part.Sublist l) : Contiguous a part := by
  rcases h with ⟨before, block, after, rfl, hblock, hbefore, hafter⟩
  rcases List.sublist_append_iff.mp hpart with ⟨start, after', rfl, hstart, hrest⟩
  rcases List.sublist_append_iff.mp hstart with ⟨before', block', rfl, hfirst, hmiddle⟩
  exact ⟨before', block', after', rfl, fun x hx => hblock x (hmiddle.subset hx),
    fun hmem => hbefore (hfirst.subset hmem), fun hmem => hafter (hrest.subset hmem)⟩

theorem Contiguous.append {a : α} {l other : List α} (h : Contiguous a l) (hother : a ∉ other) :
    Contiguous a (l ++ other) := by
  rcases h with ⟨before, block, after, rfl, hblock, hbefore, hafter⟩
  refine ⟨before, block, after ++ other, by simp, hblock, hbefore, ?_⟩
  intro hmem
  rcases List.mem_append.mp hmem with hold | hnew
  · exact hafter hold
  · exact hother hnew

end NovelAgent.Core
