import Mathlib.Data.List.Nodup

/-!
# Dictionaries

A dictionary that keeps the order in which its keys came in.
-/

namespace NovelAgent.Core

open List

/-- Entries of type `α` under distinct keys of type `κ`, in order. -/
structure Dict (κ α : Type) where
  entries : List (κ × α)
  nodup : (entries.map Prod.fst).Nodup

namespace Dict

variable {κ α : Type}

theorem ext_entries {d e : Dict κ α} (h : d.entries = e.entries) : d = e := by
  cases d
  cases e
  cases h
  rfl

def empty : Dict κ α where
  entries := []
  nodup := nodup_nil

/-- The values in the order of their keys. -/
def values (d : Dict κ α) : List α := d.entries.map Prod.snd

variable [DecidableEq κ]

/-- What is stored under a key. -/
def get? (d : Dict κ α) (k : κ) : Option α :=
  (d.entries.find? fun entry => entry.1 = k).map Prod.snd

/-- The entries with the value under the key replaced. -/
def replaced (entries : List (κ × α)) (k : κ) (a : α) : List (κ × α) :=
  entries.map fun entry => if entry.1 = k then (k, a) else entry

theorem replaced_keys (entries : List (κ × α)) (k : κ) (a : α) :
    (replaced entries k a).map Prod.fst = entries.map Prod.fst := by
  unfold replaced
  rw [map_map]
  apply map_congr_left
  intro entry _
  by_cases h : entry.1 = k
  · simp [h]
  · simp [h]

/-- The dictionary after an assignment. -/
def set (d : Dict κ α) (k : κ) (a : α) : Dict κ α :=
  if h : k ∈ d.entries.map Prod.fst then
    { entries := replaced d.entries k a
      nodup := by
        rw [replaced_keys]
        exact d.nodup }
  else
    { entries := d.entries ++ [(k, a)]
      nodup := by
        rw [map_append]
        exact nodup_append.mpr ⟨d.nodup, nodup_singleton _, by
          intro first hfirst last hlast heq
          rw [map_singleton, mem_singleton] at hlast
          rw [heq, hlast] at hfirst
          exact h hfirst⟩ }

@[simp]
theorem get?_empty (k : κ) : (empty : Dict κ α).get? k = none :=
  rfl

variable {d : Dict κ α} {k : κ} {a : α}

theorem get?_eq_some : d.get? k = some a ↔ (k, a) ∈ d.entries := by
  unfold get?
  rw [Option.map_eq_some_iff]
  constructor
  · intro h
    rcases h with ⟨entry, hfind, rfl⟩
    have hkey := List.find?_some hfind
    rw [decide_eq_true_eq] at hkey
    rw [← hkey]
    exact mem_of_find?_eq_some hfind
  · intro h
    cases hfind : d.entries.find? fun entry => entry.1 = k with
    | none =>
      rw [List.find?_eq_none] at hfind
      exact absurd (by simp) (hfind _ h)
    | some entry =>
      have hkey := List.find?_some hfind
      rw [decide_eq_true_eq] at hkey
      have hmem := mem_of_find?_eq_some hfind
      have := inj_on_of_nodup_map d.nodup hmem h hkey
      exact ⟨entry, rfl, by rw [this]⟩

theorem mem_replaced {entries : List (κ × α)} {k k' : κ} {a b : α} :
    (k', b) ∈ replaced entries k a ↔
      if k' = k then k ∈ entries.map Prod.fst ∧ b = a else (k', b) ∈ entries := by
  unfold replaced
  rw [mem_map]
  by_cases hkey : k' = k
  · rw [if_pos hkey]
    constructor
    · intro h
      rcases h with ⟨entry, hentry, heq⟩
      by_cases hk : entry.1 = k
      · rw [if_pos hk, Prod.mk.injEq] at heq
        exact ⟨hk ▸ mem_map_of_mem hentry, heq.2.symm⟩
      · rw [if_neg hk] at heq
        exact absurd (heq ▸ hkey) hk
    · intro h
      rcases mem_map.mp h.1 with ⟨entry, hentry, hk⟩
      exact ⟨entry, hentry, by rw [if_pos hk, hkey, h.2]⟩
  · rw [if_neg hkey]
    constructor
    · intro h
      rcases h with ⟨entry, hentry, heq⟩
      by_cases hk : entry.1 = k
      · rw [if_pos hk, Prod.mk.injEq] at heq
        exact absurd heq.1.symm hkey
      · rw [if_neg hk] at heq
        exact heq ▸ hentry
    · intro h
      exact ⟨(k', b), h, if_neg hkey⟩

/-- What is read after an assignment. -/
theorem get?_set (d : Dict κ α) (k k' : κ) (a : α) :
    (d.set k a).get? k' = if k' = k then some a else d.get? k' := by
  apply Option.ext
  intro b
  have hmem : (k', b) ∈ (d.set k a).entries ↔
      if k' = k then b = a else (k', b) ∈ d.entries := by
    unfold set
    by_cases h : k ∈ d.entries.map Prod.fst
    · rw [dif_pos h, mem_replaced]
      by_cases hkey : k' = k
      · rw [if_pos hkey, if_pos hkey]
        exact and_iff_right h
      · rw [if_neg hkey, if_neg hkey]
    · rw [dif_neg h, mem_append, mem_singleton, Prod.mk.injEq]
      by_cases hkey : k' = k
      · rw [if_pos hkey]
        have hold : (k', b) ∉ d.entries := fun hmem =>
          h (hkey ▸ mem_map_of_mem hmem)
        exact ⟨fun hor => (hor.resolve_left hold).2, fun hb => .inr ⟨hkey, hb⟩⟩
      · rw [if_neg hkey]
        exact or_iff_left fun hand => hkey hand.1
  rw [get?_eq_some, hmem]
  by_cases hkey : k' = k
  · rw [if_pos hkey, if_pos hkey, Option.some.injEq, eq_comm]
  · rw [if_neg hkey, if_neg hkey, get?_eq_some]

/-- Assigning what is there changes nothing. -/
theorem set_self (h : d.get? k = some a) : d.set k a = d := by
  have hmem := get?_eq_some.mp h
  have hkey : k ∈ d.entries.map Prod.fst := mem_map_of_mem hmem
  apply ext_entries
  unfold set
  rw [dif_pos hkey]
  unfold replaced
  conv_rhs => rw [← map_id d.entries]
  apply map_congr_left
  intro entry hentry
  by_cases hk : entry.1 = k
  · rw [if_pos hk, id]
    exact (inj_on_of_nodup_map d.nodup hentry hmem hk).symm
  · rw [if_neg hk, id]

end Dict

end NovelAgent.Core
