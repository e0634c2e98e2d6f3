import Mathlib.Data.List.Basic

/-!
# Splitting a Text after Marks

A text that is cut after some of its characters. A cut may swallow the blanks
that follow it, so the pieces need not make up the whole text: what is left
out are runs of blanks, each between a cut and a character that is not blank.
-/

namespace NovelAgent.Core

variable {α : Type}

/-- Where a text is cut: after which character, given the one before it, and
    after which of them the cut swallows blanks. -/
structure Splitter (α : Type) where
  blank : α → Bool
  cuts : Option α → α → Bool
  trims : α → Bool

namespace Splitter

/-- The pieces of the rest of a text, given the character read last, whether a
    cut is still swallowing blanks, and the piece begun. -/
def splitFrom (s : Splitter α) : Option α → Bool → List α → List α → List (List α)
  | _, _, piece, [] => [piece]
  | before, gap, piece, c :: text =>
    if gap = true ∧ s.blank c = true then s.splitFrom (some c) true piece text
    else if s.cuts before c then
      (piece ++ [c]) :: s.splitFrom (some c) (s.trims c) [] text
    else s.splitFrom (some c) false (piece ++ [c]) text

/-- The pieces of a text. The last one may be empty. -/
def split (s : Splitter α) (text : List α) : List (List α) :=
  s.splitFrom none false [] text

end Splitter

/-- Pieces that are not empty and stand in a text in this order. What stands
    between them is blank, and no piece gives up a blank it starts with. -/
inductive Pieces (blank : α → Bool) : List α → List (List α) → Prop
  | done {gap : List α} (hgap : ∀ x ∈ gap, blank x = true) : Pieces blank gap []
  | piece {gap : List α} {c : α} {piece rest : List α} {pieces : List (List α)}
      (hgap : ∀ x ∈ gap, blank x = true) (hstart : gap = [] ∨ blank c = false)
      (hrest : Pieces blank rest pieces) :
      Pieces blank (gap ++ c :: piece ++ rest) ((c :: piece) :: pieces)

namespace Pieces

variable {blank : α → Bool} {text : List α} {pieces : List (List α)}

theorem single (h : text ≠ []) : Pieces blank text [text] := by
  cases text with
  | nil => exact absurd rfl h
  | cons c text =>
    have hrest : Pieces blank ([] : List α) [] := done (by simp)
    have hwhole : Pieces blank ([] ++ c :: text ++ []) [c :: text] :=
      piece (by simp) (Or.inl rfl) hrest
    rwa [List.nil_append, List.append_nil] at hwhole

/-- A piece is a part of the text. -/
theorem isInfix (h : Pieces blank text pieces) : ∀ p ∈ pieces, p <:+: text := by
  induction h with
  | done _ => simp
  | @piece gap c piece rest pieces _ _ _ ih =>
    rw [List.forall_mem_cons]
    refine ⟨⟨gap, rest, rfl⟩, fun p hp => ?_⟩
    exact (ih p hp).trans (List.suffix_append _ _).isInfix

end Pieces

namespace Splitter

variable (s : Splitter α)

/-- Where a piece has been begun, it starts with a character that is not blank
    unless no blank was swallowed before it. -/
def Begun (gap : List α) (swallowing : Bool) (piece : List α) : Prop :=
  (swallowing = true → piece = []) ∧
    (gap = [] ∨ swallowing = true ∨ ∃ c rest, piece = c :: rest ∧ s.blank c = false)

theorem Begun.snoc {gap piece : List α} {swallowing : Bool} {c : α}
    (h : s.Begun gap swallowing piece) (hc : ¬ (swallowing = true ∧ s.blank c = true)) :
    ∃ first rest, piece ++ [c] = first :: rest ∧ (gap = [] ∨ s.blank first = false) := by
  rcases h with ⟨hempty, hgap | hswallow | ⟨first, rest, hpiece, hfirst⟩⟩
  · cases hp : piece with
    | nil => exact ⟨c, [], rfl, Or.inl hgap⟩
    | cons first rest => exact ⟨first, rest ++ [c], rfl, Or.inl hgap⟩
  · rw [hempty hswallow]
    exact ⟨c, [], rfl, Or.inr (by simpa [hswallow] using hc)⟩
  · rw [hpiece]
    exact ⟨first, rest ++ [c], rfl, Or.inr hfirst⟩

/-- The pieces from any point on, by induction on the text that is left. The
    gap is what the last cut has swallowed so far. -/
theorem splitFrom_pieces (text : List α) : ∀ (before : Option α) (gap piece : List α)
    (swallowing : Bool), (∀ x ∈ gap, s.blank x = true) → s.Begun gap swallowing piece →
    Pieces s.blank (gap ++ piece ++ text)
      ((s.splitFrom before swallowing piece text).filter fun p => p ≠ []) := by
  induction text with
  | nil =>
    intro before gap piece swallowing hgap hbegun
    unfold splitFrom
    cases hp : piece with
    | nil => simpa using Pieces.done hgap
    | cons c rest =>
      have hstart : gap = [] ∨ s.blank c = false := by
        rcases hbegun with ⟨hempty, hnone | hswallow | ⟨first, tail, hpiece, hfirst⟩⟩
        · exact Or.inl hnone
        · rw [hempty hswallow] at hp
          exact absurd hp (List.cons_ne_nil _ _).symm
        · rw [hp] at hpiece
          rw [(List.cons.inj hpiece).1]
          exact Or.inr hfirst
      have hnone : Pieces s.blank ([] : List α) [] := Pieces.done (by simp)
      simpa using Pieces.piece hgap hstart hnone
  | cons c text ih =>
    intro before gap piece swallowing hgap hbegun
    unfold splitFrom
    by_cases hblank : swallowing = true ∧ s.blank c = true
    · rw [if_pos hblank]
      have hmore := ih (some c) (gap ++ [c]) piece true
        (by simpa [or_imp, forall_and] using ⟨hgap, hblank.2⟩)
        ⟨fun _ => hbegun.1 hblank.1, Or.inr (Or.inl rfl)⟩
      rw [hbegun.1 hblank.1] at hmore ⊢
      simpa using hmore
    · rw [if_neg hblank]
      rcases hbegun.snoc s hblank with ⟨first, rest, hpiece, hstart⟩
      by_cases hcut : s.cuts before c = true
      · -- The piece ends here, and the rest starts without a gap.
        rw [if_pos hcut, hpiece, List.filter_cons_of_pos (by simp)]
        have hrest := ih (some c) [] [] (s.trims c) (by simp) ⟨fun _ => rfl, Or.inl rfl⟩
        have hwhole : Pieces s.blank (gap ++ first :: rest ++ ([] ++ [] ++ text)) _ :=
          Pieces.piece hgap hstart hrest
        have hsplit : gap ++ piece ++ c :: text = gap ++ first :: rest ++ text := by
          rw [← hpiece]
          simp
        rw [hsplit]
        simpa using hwhole
      · rw [if_neg hcut]
        have hmore := ih (some c) gap (piece ++ [c]) false hgap
          ⟨by simp, hstart.imp_right fun hfirst => Or.inr ⟨first, rest, hpiece, hfirst⟩⟩
        simpa using hmore

/-- The pieces of a text stand in it. -/
theorem split_pieces (text : List α) :
    Pieces s.blank text ((s.split text).filter fun p => p ≠ []) := by
  have h := s.splitFrom_pieces text none [] [] false (by simp) ⟨by simp, Or.inl rfl⟩
  simpa [split] using h

end Splitter

end NovelAgent.Core
