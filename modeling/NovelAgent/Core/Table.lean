import Mathlib.Data.List.AList

/-!
# Tables

A table of a relational store: finitely many rows, one per primary key.
-/

namespace NovelAgent.Core

/-- Rows of type `ρ` under distinct keys of type `κ`. -/
abbrev Table (κ ρ : Type) := AList (fun _ : κ => ρ)

namespace Table

variable {κ ρ : Type} [DecidableEq κ]

/-- Some row satisfies a filter. -/
def selects (filter : κ → ρ → Bool) (t : Table κ ρ) : Bool :=
  t.entries.any fun entry => filter entry.1 entry.2

/-- How many rows of the table satisfy the filter. -/
def selectCount (filter : κ → ρ → Bool) (t : Table κ ρ) : Nat :=
  t.entries.countP fun entry => filter entry.1 entry.2

variable (filter : κ → ρ → Bool) (t : Table κ ρ)

/-- A filter selects something exactly when a lookup does. -/
theorem selects_iff :
    selects filter t = true ↔ ∃ k row, t.lookup k = some row ∧ filter k row = true := by
  rw [selects, List.any_eq_true]
  constructor
  · rintro ⟨⟨k, row⟩, hmem, hf⟩
    exact ⟨k, row, AList.mem_lookup_iff.mpr hmem, hf⟩
  · rintro ⟨k, row, hlookup, hf⟩
    exact ⟨⟨k, row⟩, AList.mem_lookup_iff.mp hlookup, hf⟩

theorem not_selects_iff :
    ¬ selects filter t = true ↔ ∀ k row, t.lookup k = some row → ¬ filter k row = true := by
  rw [selects_iff]
  push Not
  rfl

/-- A lookup after a write returns the new row at its key and the old answer everywhere else. -/
theorem lookup_insert_if (k k' : κ) (row : ρ) :
    (t.insert k row).lookup k' = if k' = k then some row else t.lookup k' := by
  by_cases h : k' = k
  · subst h
    rw [if_pos rfl, AList.lookup_insert]
  · rw [if_neg h, AList.lookup_insert_ne h]

/-- A property of all rows survives the write of a row that has it. -/
theorem forall_lookup_insert {P : κ → ρ → Prop} {t : Table κ ρ} {k : κ} {row : ρ}
    (h : ∀ k' row', t.lookup k' = some row' → P k' row') (hrow : P k row) :
    ∀ k' row', (t.insert k row).lookup k' = some row' → P k' row' := by
  intro k' row' hlookup
  rw [lookup_insert_if] at hlookup
  by_cases hk : k' = k
  · rw [if_pos hk] at hlookup
    rw [hk, ← Option.some.inj hlookup]
    exact hrow
  · rw [if_neg hk] at hlookup
    exact h k' row' hlookup

end Table

end NovelAgent.Core
