import NovelAgent.Core.Occurrences
import NovelAgent.Core.Spans

/-!
# Edit Scripts

How one text is turned into another: a list of steps, each of which keeps a
stretch of the first text or replaces it, one after the other until both texts
are used up.
-/

namespace NovelAgent.Core

/-- One step: a stretch of the first text, kept or replaced by a stretch of the second one. -/
structure Edit where
  kept : Bool
  start : Nat
  stop : Nat
  newStart : Nat
  newStop : Nat

/-- The stretch of the first text. -/
def Edit.span (edit : Edit) : Span := ⟨edit.start, edit.stop⟩

section Scripts

variable {α : Type}

/-- Steps that turn what is left of a text from a place on into what is left of the other one. -/
def ScriptFrom (original revised : List α) : Nat → Nat → List Edit → Prop
  | i, j, [] => i = original.length ∧ j = revised.length
  | i, j, edit :: rest =>
    edit.start = i ∧ edit.newStart = j ∧ i ≤ edit.stop ∧ j ≤ edit.newStop ∧
      edit.stop ≤ original.length ∧ edit.newStop ≤ revised.length ∧
      (edit.kept = true →
        slice original i edit.stop = slice revised j edit.newStop) ∧
      ScriptFrom original revised edit.stop edit.newStop rest

/-- The steps that turn one text into another. -/
def Script (original revised : List α) (edits : List Edit) : Prop :=
  ScriptFrom original revised 0 0 edits

/-- Where a place of the first text is carried to: into the stretch that was kept around it. -/
def carryFrom : List Edit → Nat → Option Nat
  | [], _ => none
  | edit :: rest, place =>
    if edit.start ≤ place ∧ place < edit.stop then
      if edit.kept = true then some (edit.newStart + (place - edit.start)) else none
    else carryFrom rest place

/-- Places of a text that another text has as well, in the same order. -/
structure Carries (original revised : List α) (carry : Nat → Option Nat) : Prop where
  same : ∀ place target, carry place = some target →
    place < original.length ∧ target < revised.length ∧ revised[target]? = original[place]?
  increasing : ∀ place target place' target', carry place = some target →
    carry place' = some target' → place < place' → target < target'

/-- A text was changed within some spans only: every place outside of them is carried over, in
    order, and every other place of the new text was put in at a point of one of the spans, its two
    ends included. What precedes the point stays before it, and what follows stays behind. -/
def StaysWithin (allowed : List Span) (original revised : List α) : Prop :=
  ∃ carry, Carries original revised carry ∧
    (∀ place, place < original.length → ¬ Covered allowed place →
      ∃ target, carry place = some target) ∧
    ∀ target, target < revised.length → (∃ place, carry place = some target) ∨
      ∃ s ∈ allowed, ∃ point, s.start ≤ point ∧ point ≤ s.stop ∧
        ∀ place target', carry place = some target' →
          (place < point → target' < target) ∧ (point ≤ place → target < target')

variable {original revised : List α} {edits : List Edit}

theorem getElem?_slice {text : List α} {start stop offset : Nat} (h : offset < stop - start) :
    (slice text start stop)[offset]? = text[start + offset]? := by
  unfold slice
  rw [List.getElem?_take_of_lt h, List.getElem?_drop]

variable {i j : Nat} {place target : Nat}

theorem carryFrom_ge (h : ScriptFrom original revised i j edits)
    (hcarry : carryFrom edits place = some target) : i ≤ place ∧ j ≤ target := by
  induction edits generalizing i j with
  | nil => cases hcarry
  | cons edit rest ih =>
    rcases h with ⟨hstart, hnewStart, hstop, hnewStop, _, _, _, hrest⟩
    unfold carryFrom at hcarry
    by_cases hin : edit.start ≤ place ∧ place < edit.stop
    · rw [if_pos hin] at hcarry
      by_cases hkept : edit.kept = true
      · rw [if_pos hkept, Option.some.injEq] at hcarry
        omega
      · rw [if_neg hkept] at hcarry
        cases hcarry
    · rw [if_neg hin] at hcarry
      have hlater := ih hrest hcarry
      omega

theorem kept_length {i j stop newStop : Nat} (hstop : stop ≤ original.length)
    (hnewStop : newStop ≤ revised.length)
    (h : slice original i stop = slice revised j newStop) : stop - i = newStop - j := by
  have hlength := congrArg List.length h
  rwa [slice_length hstop, slice_length hnewStop] at hlength

section

variable (h : ScriptFrom original revised i j edits)

include h

theorem carryFrom_same (hcarry : carryFrom edits place = some target) :
    place < original.length ∧ target < revised.length ∧
      revised[target]? = original[place]? := by
  induction edits generalizing i j with
  | nil => cases hcarry
  | cons edit rest ih =>
    rcases h with ⟨hstart, hnewStart, hstop, hnewStop, hend, hnewEnd, hsame, hrest⟩
    unfold carryFrom at hcarry
    by_cases hin : edit.start ≤ place ∧ place < edit.stop
    · rw [if_pos hin] at hcarry
      by_cases hkept : edit.kept = true
      · rw [if_pos hkept, Option.some.injEq] at hcarry
        have hslices := hsame hkept
        have hlength := kept_length hend hnewEnd hslices
        have hoffset : place - i < edit.stop - i := by omega
        have hboth := congrArg (fun part : List α => part[place - i]?) hslices
        rw [getElem?_slice hoffset, getElem?_slice (by omega)] at hboth
        have htarget : j + (place - i) = target := by omega
        have hplace : i + (place - i) = place := by omega
        rw [htarget, hplace] at hboth
        exact ⟨by omega, by omega, hboth.symm⟩
      · rw [if_neg hkept] at hcarry
        cases hcarry
    · rw [if_neg hin] at hcarry
      exact ih hrest hcarry

theorem carryFrom_increasing {place target place' target' : Nat}
    (hcarry : carryFrom edits place = some target)
    (hcarry' : carryFrom edits place' = some target') (hlt : place < place') :
    target < target' := by
  induction edits generalizing i j with
  | nil => cases hcarry
  | cons edit rest ih =>
    rcases h with ⟨hstart, hnewStart, hstop, hnewStop, hend, hnewEnd, hsame, hrest⟩
    unfold carryFrom at hcarry hcarry'
    by_cases hin : edit.start ≤ place ∧ place < edit.stop
    · rw [if_pos hin] at hcarry
      by_cases hkept : edit.kept = true
      · have hlength := kept_length hend hnewEnd (hsame hkept)
        rw [if_pos hkept, Option.some.injEq] at hcarry
        by_cases hin' : edit.start ≤ place' ∧ place' < edit.stop
        · rw [if_pos hin', if_pos hkept, Option.some.injEq] at hcarry'
          omega
        · -- The later place lies behind this stretch, and so does its target.
          rw [if_neg hin'] at hcarry'
          have hlater := carryFrom_ge hrest hcarry'
          omega
      · rw [if_neg hkept] at hcarry
        cases hcarry
    · rw [if_neg hin] at hcarry
      have hfirst := carryFrom_ge hrest hcarry
      have hin' : ¬ (edit.start ≤ place' ∧ place' < edit.stop) := by omega
      rw [if_neg hin'] at hcarry'
      exact ih hrest hcarry hcarry'

theorem carryFrom_none {place : Nat} (hplace : i ≤ place) (hlength : place < original.length)
    (hcarry : carryFrom edits place = none) :
    ∃ edit ∈ edits, edit.kept = false ∧ edit.span.covers place := by
  induction edits generalizing i j with
  | nil =>
    have hend := h.1
    omega
  | cons edit rest ih =>
    rcases h with ⟨hstart, _, _, _, _, _, _, hrest⟩
    unfold carryFrom at hcarry
    by_cases hin : edit.start ≤ place ∧ place < edit.stop
    · rw [if_pos hin] at hcarry
      refine ⟨edit, List.mem_cons_self, ?_, hin⟩
      by_contra hkept
      rw [if_pos (by simpa using hkept)] at hcarry
      cases hcarry
    · rw [if_neg hin] at hcarry
      rcases ih hrest (by omega) hcarry with ⟨later, hlater, hreplaced⟩
      exact ⟨later, List.mem_cons_of_mem edit hlater, hreplaced⟩

/-- A place of the new text was carried over, or was put in by a step that
    replaces, with all that it keeps before it and behind it. -/
theorem target_cases {target : Nat} (htarget : j ≤ target) (hlength : target < revised.length) :
    (∃ place, carryFrom edits place = some target) ∨
      ∃ edit ∈ edits, edit.kept = false ∧ i ≤ edit.start ∧ edit.start ≤ edit.stop ∧
        ∀ place target', carryFrom edits place = some target' →
          (place < edit.start → target' < target) ∧ (edit.start ≤ place → target < target') := by
  induction edits generalizing i j with
  | nil =>
    have hend := h.2
    omega
  | cons edit rest ih =>
    rcases h with ⟨hstart, hnewStart, hstop, hnewStop, hend, hnewEnd, hsame, hrest⟩
    by_cases hin : target < edit.newStop
    · by_cases hkept : edit.kept = true
      · have hlengths := kept_length hend hnewEnd (hsame hkept)
        refine Or.inl ⟨i + (target - j), ?_⟩
        unfold carryFrom
        rw [if_pos (by omega), if_pos hkept, Option.some.injEq]
        omega
      · refine Or.inr ⟨edit, List.mem_cons_self, by simpa using hkept, by omega, by omega, ?_⟩
        intro place target' hcarry
        -- Nothing of the stretch is carried over, so all that is carried
        -- over comes from the steps that follow.
        have hlater : edit.stop ≤ place ∧ edit.newStop ≤ target' := by
          unfold carryFrom at hcarry
          by_cases hplace : edit.start ≤ place ∧ place < edit.stop
          · rw [if_pos hplace, if_neg hkept] at hcarry
            cases hcarry
          · rw [if_neg hplace] at hcarry
            exact carryFrom_ge hrest hcarry
        omega
    · rcases ih hrest (by omega) with
        ⟨place, hcarry⟩ | ⟨later, hlater, hreplaced, hfrom, hto, hsides⟩
      · have hplace := (carryFrom_ge hrest hcarry).1
        refine Or.inl ⟨place, ?_⟩
        unfold carryFrom
        rwa [if_neg (by omega)]
      · refine Or.inr ⟨later, List.mem_cons_of_mem edit hlater, hreplaced, by omega, hto, ?_⟩
        intro place target' hcarry
        unfold carryFrom at hcarry
        by_cases hplace : edit.start ≤ place ∧ place < edit.stop
        · rw [if_pos hplace] at hcarry
          by_cases hkept : edit.kept = true
          · have hlengths := kept_length hend hnewEnd (hsame hkept)
            rw [if_pos hkept, Option.some.injEq] at hcarry
            omega
          · rw [if_neg hkept] at hcarry
            cases hcarry
        · rw [if_neg hplace] at hcarry
          exact hsides place target' hcarry

theorem script_sorted :
    (edits.Pairwise fun first second => first.stop ≤ second.start) ∧
      ∀ edit ∈ edits, i ≤ edit.start ∧ edit.start ≤ edit.stop := by
  induction edits generalizing i j with
  | nil => simp
  | cons edit rest ih =>
    rcases h with ⟨hstart, _, hstop, _, _, _, _, hrest⟩
    rcases ih hrest with ⟨hsorted, hfrom⟩
    rw [List.pairwise_cons, List.forall_mem_cons]
    refine ⟨⟨fun later hlater => (hfrom later hlater).1, hsorted⟩, by omega, ?_⟩
    intro later hlater
    have := hfrom later hlater
    omega

end

/-- A script whose replacements lie in spans stays within them. -/
theorem script_staysWithin {allowed : List Span} (h : Script original revised edits)
    (hallowed : ∀ edit ∈ edits, edit.kept = false → ∃ s ∈ allowed, edit.span.within s) :
    StaysWithin allowed original revised := by
  refine ⟨carryFrom edits, ⟨fun place target => carryFrom_same h,
    fun place target place' target' => carryFrom_increasing h⟩, ?_, ?_⟩
  · intro place hlength houtside
    cases hcarry : carryFrom edits place with
    | some target => exact ⟨target, rfl⟩
    | none =>
      exfalso
      rcases carryFrom_none h (Nat.zero_le place) hlength hcarry with
        ⟨edit, hedit, hreplaced, hcovers⟩
      rcases hallowed edit hedit hreplaced with ⟨s, hs, hwithin⟩
      exact houtside ⟨s, hs, le_trans hwithin.1 hcovers.1, lt_of_lt_of_le hcovers.2 hwithin.2⟩
  · intro target hlength
    rcases target_cases h (Nat.zero_le target) hlength with
      hcarried | ⟨edit, hedit, hreplaced, _, hordered, hsides⟩
    · exact Or.inl hcarried
    · rcases hallowed edit hedit hreplaced with ⟨s, hs, hstart, hstop⟩
      exact Or.inr ⟨s, hs, edit.start, hstart, le_trans hordered hstop, hsides⟩

end Scripts

end NovelAgent.Core
