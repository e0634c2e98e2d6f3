import Mathlib.Data.List.Sort
import Mathlib.Order.Lattice.Nat

/-!
# Spans

Half-open spans of places, and what a list of them covers.
-/

namespace NovelAgent.Core

open List

/-- From a place up to another one. -/
structure Span where
  start : Nat
  stop : Nat
deriving DecidableEq

namespace Span

def covers (s : Span) (place : Nat) : Prop := s.start ≤ place ∧ place < s.stop

instance (s : Span) (place : Nat) : Decidable (s.covers place) := by
  unfold covers
  infer_instance

/-- A span lies in another one. -/
def within (s t : Span) : Prop := t.start ≤ s.start ∧ s.stop ≤ t.stop

instance (s t : Span) : Decidable (s.within t) := by
  unfold within
  infer_instance

/-- Two spans with a gap between them, on either side. -/
def apart (s t : Span) : Prop := s.stop < t.start ∨ t.stop < s.start

instance : Std.Symm apart where
  symm _ _ := Or.symm

/-- The order of spans: by where they start, then by where they stop. -/
def le (s t : Span) : Prop := s.start < t.start ∨ s.start = t.start ∧ s.stop ≤ t.stop

instance : DecidableRel le := fun s t => by
  unfold le
  infer_instance

instance : Std.Total le where
  total s t := by
    unfold le
    omega

instance : IsTrans Span le where
  trans s t u := by
    unfold le
    omega

end Span

/-- The places that some span of a list covers. -/
def Covered (spans : List Span) (place : Nat) : Prop := ∃ s ∈ spans, s.covers place

/-- The spans by their starts. -/
def sortSpans (spans : List Span) : List Span := spans.insertionSort Span.le

/-- Merge spans into the one before them, which is still growing. -/
def mergeInto (last : Span) : List Span → List Span
  | [] => [last]
  | s :: rest =>
    if s.start ≤ last.stop then mergeInto ⟨last.start, max last.stop s.stop⟩ rest
    else last :: mergeInto s rest

def mergeSorted : List Span → List Span
  | [] => []
  | s :: rest => mergeInto s rest

/-- The spans sorted, and those that touch joined. -/
def merged (spans : List Span) : List Span := mergeSorted (sortSpans spans)

variable {s : Span}

theorem mem_sortSpans {spans : List Span} : s ∈ sortSpans spans ↔ s ∈ spans :=
  mem_insertionSort _

variable {place : Nat}

theorem covered_cons {spans : List Span} :
    Covered (s :: spans) place ↔ s.covers place ∨ Covered spans place := by
  unfold Covered
  rw [exists_mem_cons_iff]

theorem covered_sortSpans {spans : List Span} :
    Covered (sortSpans spans) place ↔ Covered spans place := by
  unfold Covered
  simp only [mem_sortSpans]

/-- Merging covers the same places, by induction on the spans that are left.
    None of them starts before the span that grows. -/
theorem covered_mergeInto (spans : List Span) : ∀ last : Span,
    (∀ s ∈ spans, last.start ≤ s.start) → spans.Pairwise (fun s t => s.start ≤ t.start) →
    (Covered (mergeInto last spans) place ↔ last.covers place ∨ Covered spans place) := by
  induction spans with
  | nil =>
    intro last _ _
    unfold mergeInto
    exact covered_cons
  | cons s rest ih =>
    intro last hlast hsorted
    rw [forall_mem_cons] at hlast
    rw [pairwise_cons] at hsorted
    unfold mergeInto
    by_cases htouch : s.start ≤ last.stop
    · rw [if_pos htouch, ih ⟨last.start, max last.stop s.stop⟩ hlast.2 hsorted.2, covered_cons,
        ← or_assoc]
      apply or_congr_left
      have hstart := hlast.1
      unfold Span.covers
      simp only
      omega
    · rw [if_neg htouch, covered_cons, ih s (fun t ht => hsorted.1 t ht) hsorted.2, covered_cons]

/-- Merged spans do not touch, and the first of them starts where the span that grows does. -/
theorem mergeInto_apart (spans : List Span) : ∀ last : Span, last.start < last.stop →
    (∀ s ∈ spans, s.start < s.stop) → (∀ s ∈ spans, last.start ≤ s.start) →
    spans.Pairwise (fun s t => s.start ≤ t.start) →
    (mergeInto last spans).Pairwise (fun s t => s.stop < t.start) ∧
      ∀ s ∈ mergeInto last spans, last.start ≤ s.start ∧ s.start < s.stop := by
  induction spans with
  | nil =>
    intro last hproper _ _ _
    unfold mergeInto
    simpa using hproper
  | cons s rest ih =>
    intro last hproper hspans hlast hsorted
    rw [forall_mem_cons] at hspans hlast
    rw [pairwise_cons] at hsorted
    unfold mergeInto
    by_cases htouch : s.start ≤ last.stop
    · rw [if_pos htouch]
      have hgrown : last.start < max last.stop s.stop := by omega
      exact ih ⟨last.start, max last.stop s.stop⟩ hgrown hspans.2 hlast.2 hsorted.2
    · rw [if_neg htouch, pairwise_cons, forall_mem_cons]
      rcases ih s hspans.1 hspans.2 hsorted.1 hsorted.2 with ⟨hapart, hstarts⟩
      refine ⟨⟨fun t ht => ?_, hapart⟩, ⟨le_refl _, hproper⟩, fun t ht => ?_⟩
      · have := (hstarts t ht).1
        omega
      · have := hstarts t ht
        omega

section Merging

variable {spans : List Span}

theorem sortSpans_sorted : (sortSpans spans).Pairwise fun s t => s.start ≤ t.start := by
  refine (pairwise_insertionSort Span.le spans).imp fun {s t} h => ?_
  unfold Span.le at h
  omega

/-- Merging covers the same places. -/
theorem covered_merged : Covered (merged spans) place ↔ Covered spans place := by
  have hsorted : (sortSpans spans).Pairwise fun s t => s.start ≤ t.start := sortSpans_sorted
  have hsame : Covered (sortSpans spans) place ↔ Covered spans place := covered_sortSpans
  unfold merged
  rw [← hsame]
  cases hspans : sortSpans spans with
  | nil => rfl
  | cons s rest =>
    rw [hspans, pairwise_cons] at hsorted
    unfold mergeSorted
    rw [covered_mergeInto rest s hsorted.1 hsorted.2, covered_cons]

/-- Merged spans do not touch. -/
theorem merged_apart (hproper : ∀ s ∈ spans, s.start < s.stop) :
    (merged spans).Pairwise (fun s t => s.stop < t.start) ∧
      ∀ s ∈ merged spans, s.start < s.stop := by
  have hsorted : (sortSpans spans).Pairwise fun s t => s.start ≤ t.start := sortSpans_sorted
  have hproper' : ∀ s ∈ sortSpans spans, s.start < s.stop :=
    fun s hs => hproper s (mem_sortSpans.mp hs)
  unfold merged
  cases hspans : sortSpans spans with
  | nil => simp [mergeSorted]
  | cons s rest =>
    rw [hspans, pairwise_cons] at hsorted
    rw [hspans, forall_mem_cons] at hproper'
    unfold mergeSorted
    rcases mergeInto_apart rest s hproper'.1 hproper'.2 hsorted.1 hsorted.2 with
      ⟨hapart, hstarts⟩
    exact ⟨hapart, fun t ht => (hstarts t ht).2⟩

/-- A span lies in a merged one when all of it is covered. -/
theorem exists_merged_iff (hproper : ∀ s ∈ spans, s.start < s.stop) {t : Span}
    (ht : t.start < t.stop) :
    (∃ s ∈ merged spans, t.within s) ↔ ∀ place, t.covers place → Covered spans place := by
  rcases merged_apart hproper with ⟨hapart, hmerged⟩
  constructor
  · rintro ⟨s, hs, hstart, hstop⟩ place ⟨hfrom, hto⟩
    rw [← covered_merged]
    exact ⟨s, hs, by omega, by omega⟩
  · intro hcovered
    -- The merged span under the first place reaches to the last one: where it
    -- ends, another one would have to go on, and merged spans do not touch.
    rcases covered_merged.mpr (hcovered t.start ⟨le_refl _, ht⟩) with ⟨s, hs, hfrom, hto⟩
    refine ⟨s, hs, hfrom, ?_⟩
    by_contra hlong
    rcases covered_merged.mpr (hcovered s.stop ⟨by omega, by omega⟩) with ⟨u, hu, hufrom, huto⟩
    have hne : s ≠ u := by
      rintro rfl
      omega
    have hproper_s := hmerged s hs
    have hproper_u := hmerged u hu
    have hsides : (merged spans).Pairwise Span.apart := hapart.imp Or.inl
    rcases hsides.forall hs hu hne with h | h
    · omega
    · omega

end Merging

end NovelAgent.Core
