import NovelAgent.Core.Occurrences
import NovelAgent.Core.Spans
import NovelAgent.Core.Text

/-!
# Sentences of a Text

How a pattern of the form "characters that are no marks, then marks" cuts a text
into sentences, and a line break cuts it into lines.
-/

namespace NovelAgent.Core

open List

/-- The shape of a sentence: characters that are neither marks nor in a gap, and then at most one
    mark, or as many as there are. Marks may be a sentence by themselves. -/
structure SentenceRule where
  isMark : Char → Bool
  isGap : Char → Bool
  manyMarks : Bool
  bareMarks : Bool

/-- Where the search is: between sentences, in the body of one, or in its marks. -/
inductive ScanState
  | outside
  | body (start : Nat)
  | marks (start : Nat)

section Search

variable (rule : SentenceRule)

/-- The search outside a sentence, at a character. -/
def SentenceRule.enter (i : Nat) (c : Char) : ScanState :=
  if rule.isMark c then if rule.bareMarks then .marks i else .outside
  else if rule.isGap c then .outside
  else .body i

/-- The sentences from a place on. -/
def scanFrom : ScanState → Nat → List Char → List Span
  | .outside, _, [] => []
  | .body start, i, [] => [⟨start, i⟩]
  | .marks start, i, [] => [⟨start, i⟩]
  | .outside, i, c :: rest => scanFrom (rule.enter i c) (i + 1) rest
  | .body start, i, c :: rest =>
    if rule.isMark c then
      if rule.manyMarks then scanFrom (.marks start) (i + 1) rest
      else ⟨start, i + 1⟩ :: scanFrom .outside (i + 1) rest
    else if rule.isGap c then ⟨start, i⟩ :: scanFrom .outside (i + 1) rest
    else scanFrom (.body start) (i + 1) rest
  | .marks start, i, c :: rest =>
    if rule.isMark c then scanFrom (.marks start) (i + 1) rest
    else ⟨start, i⟩ :: scanFrom (rule.enter i c) (i + 1) rest

/-- The spans of the sentences. -/
def sentences (text : List Char) (start stop : Nat) : List Span :=
  scanFrom rule .outside start (slice text start stop)

/-- The lines from a place on, in a line that began before. -/
def lineSpansFrom (start : Nat) : Nat → List Char → List Span
  | i, [] => [⟨start, i⟩]
  | i, c :: rest =>
    if c = '\n' then ⟨start, i⟩ :: lineSpansFrom (i + 1) (i + 1) rest
    else lineSpansFrom start (i + 1) rest

/-- The spans of the lines. -/
def lineSpans (text : List Char) : List Span := lineSpansFrom 0 0 text

end Search

section Trimming

/-- How much white space a text begins with. -/
def leadingSpace (piece : List Char) : Nat := (piece.takeWhile Text.isSpace).length

/-- How much white space a text ends with. -/
def trailingSpace (piece : List Char) : Nat := leadingSpace piece.reverse

/-- A span without the white space at its ends. It stops before it starts if
    there is nothing else. -/
def trimSpan (text : List Char) (s : Span) : Span :=
  let piece := slice text s.start s.stop
  ⟨s.start + leadingSpace piece, s.stop - trailingSpace piece⟩

/-- Spans without the white space at their ends, as far as something is left. -/
def trimmed (text : List Char) (spans : List Span) : List Span :=
  (spans.map (trimSpan text)).filter fun s => s.start < s.stop

end Trimming

section Order

/-- Spans of a range, one after the other. -/
structure InOrder (lo hi : Nat) (spans : List Span) : Prop where
  bounds : ∀ s ∈ spans, lo ≤ s.start ∧ s.stop ≤ hi
  apart : spans.Pairwise fun s t => s.stop ≤ t.start

variable {rule : SentenceRule} {lo lo' hi mid : Nat} {spans : List Span} {s : Span}

theorem InOrder.nil : InOrder lo hi [] := ⟨nofun, Pairwise.nil⟩

theorem InOrder.cons (hstart : lo ≤ s.start) (hstop : s.stop ≤ mid) (hmid : lo ≤ mid)
    (hhi : mid ≤ hi) (h : InOrder mid hi spans) : InOrder lo hi (s :: spans) := by
  constructor
  · intro t ht
    rcases mem_cons.mp ht with rfl | ht
    · exact ⟨hstart, le_trans hstop hhi⟩
    · exact ⟨le_trans hmid (h.bounds t ht).1, (h.bounds t ht).2⟩
  · exact pairwise_cons.mpr ⟨fun t ht => le_trans hstop (h.bounds t ht).1, h.apart⟩

theorem InOrder.mono (hlo : lo ≤ lo') (h : InOrder lo' hi spans) : InOrder lo hi spans :=
  ⟨fun t ht => ⟨le_trans hlo (h.bounds t ht).1, (h.bounds t ht).2⟩, h.apart⟩

/-- Where the sentence begins that the search is in. -/
def ScanState.floor (i : Nat) : ScanState → Nat
  | .outside => i
  | .body start => start
  | .marks start => start

theorem enter_floor (i : Nat) (c : Char) :
    i ≤ (rule.enter i c).floor (i + 1) ∧ (rule.enter i c).floor (i + 1) ≤ i + 1 := by
  unfold SentenceRule.enter
  split_ifs <;> simp [ScanState.floor]

variable (text : List Char)

theorem scanFrom_inOrder : ∀ state i, state.floor i ≤ i →
    InOrder (state.floor i) (i + text.length) (scanFrom rule state i text) := by
  induction text with
  | nil =>
    intro state i hfloor
    cases state with
    | outside => exact InOrder.nil
    | body start => exact InOrder.cons (le_refl _) (le_refl i) hfloor (le_refl _) InOrder.nil
    | marks start => exact InOrder.cons (le_refl _) (le_refl i) hfloor (le_refl _) InOrder.nil
  | cons c rest ih =>
    intro state i hfloor
    have hlength : i + (c :: rest).length = i + 1 + rest.length := by
      rw [length_cons]
      omega
    have henter := @enter_floor rule i c
    have hentered := ih (rule.enter i c) (i + 1) henter.2
    rw [hlength]
    cases state with
    | outside => exact hentered.mono henter.1
    | body start =>
      have hstart : start ≤ i := hfloor
      have hinside : start ≤ i + 1 := by omega
      have houtside : InOrder (i + 1) (i + 1 + rest.length)
          (scanFrom rule .outside (i + 1) rest) := ih .outside (i + 1) (le_refl _)
      unfold scanFrom
      split_ifs
      · exact ih (.marks start) (i + 1) hinside
      · exact InOrder.cons (le_refl _) (le_refl (i + 1)) hinside (Nat.le_add_right _ _) houtside
      · exact InOrder.cons (le_refl _) (Nat.le_succ i) hinside (Nat.le_add_right _ _) houtside
      · exact ih (.body start) (i + 1) hinside
    | marks start =>
      have hstart : start ≤ i := hfloor
      unfold scanFrom
      split_ifs
      · exact ih (.marks start) (i + 1) (Nat.le_succ_of_le hstart)
      · exact InOrder.cons (le_refl _) henter.1 (le_trans hstart henter.1)
          (by have := henter.2; omega) hentered

/-- The sentences are in order. -/
theorem sentences_inOrder (start stop : Nat) :
    InOrder start (min stop text.length) (sentences rule text start stop) := by
  have hlength : (slice text start stop).length = min (stop - start) (text.length - start) := by
    unfold slice
    rw [length_take, length_drop]
  by_cases hrange : start ≤ stop ∧ start ≤ text.length
  · have hfound := @scanFrom_inOrder rule (slice text start stop) .outside start
      (le_refl _)
    have hhi : start + (slice text start stop).length = min stop text.length := by omega
    rw [hhi] at hfound
    exact hfound
  · -- a range that stops before it starts, or lies behind the text, holds nothing
    have hnil : slice text start stop = [] := eq_nil_of_length_eq_zero (by omega)
    unfold sentences
    rw [hnil]
    exact InOrder.nil

theorem lineSpansFrom_inOrder : ∀ start i, start ≤ i →
    InOrder start (i + text.length) (lineSpansFrom start i text) := by
  induction text with
  | nil =>
    intro start i hstart
    exact InOrder.cons (le_refl _) (le_refl i) hstart (le_refl _) InOrder.nil
  | cons c rest ih =>
    intro start i hstart
    have hlength : i + (c :: rest).length = i + 1 + rest.length := by
      rw [length_cons]
      omega
    rw [hlength]
    unfold lineSpansFrom
    split_ifs
    · exact InOrder.cons (le_refl _) (Nat.le_succ i) (by omega) (by omega)
        (ih (i + 1) (i + 1) (le_refl _))
    · exact ih start (i + 1) (by omega)

theorem lineSpans_inOrder : InOrder 0 text.length (lineSpans text) := by
  have hfound := lineSpansFrom_inOrder text 0 0 (le_refl _)
  rw [Nat.zero_add] at hfound
  exact hfound

theorem trimSpan_within (s : Span) : (trimSpan text s).within s :=
  ⟨Nat.le_add_right _ _, Nat.sub_le _ _⟩

theorem InOrder.trimmed (h : InOrder lo hi spans) : InOrder lo hi (trimmed text spans) := by
  constructor
  · intro s hs
    rcases mem_map.mp (mem_of_mem_filter hs) with ⟨t, ht, rfl⟩
    have hwithin := trimSpan_within text t
    exact ⟨le_trans (h.bounds t ht).1 hwithin.1, le_trans hwithin.2 (h.bounds t ht).2⟩
  · refine Pairwise.filter _ (pairwise_map.mpr (h.apart.imp ?_))
    intro s t hst
    exact le_trans (trimSpan_within text s).2 (le_trans hst (trimSpan_within text t).1)

/-- In order, the first span is below the last. -/
theorem head_le_getLast (h : spans.Pairwise fun s t => s.stop ≤ t.start)
    (hpositive : ∀ s ∈ spans, s.start < s.stop) (hne : spans ≠ []) :
    ∀ s ∈ spans, (spans.head hne).start ≤ s.start ∧ s.stop ≤ (spans.getLast hne).stop := by
  induction spans with
  | nil => exact absurd rfl hne
  | cons first rest ih =>
    rw [pairwise_cons] at h
    intro s hs
    have hfirst := hpositive first mem_cons_self
    rw [head_cons]
    by_cases hrest : rest = []
    · subst hrest
      rw [mem_singleton.mp hs]
      exact ⟨le_refl _, le_refl _⟩
    · rw [getLast_cons hrest]
      rcases mem_cons.mp hs with rfl | hs
      · have hlast := h.1 _ (getLast_mem hrest)
        have hlastPositive := hpositive _ (mem_cons_of_mem _ (getLast_mem hrest))
        exact ⟨le_refl _, by omega⟩
      · have hafter := h.1 s hs
        exact ⟨by omega,
          (ih h.2 (fun t ht => hpositive t (mem_cons_of_mem _ ht)) hrest s hs).2⟩

/-- Spans in order are sorted. -/
theorem sortSpans_eq {other : List Span} (h : spans.Pairwise fun s t => s.stop ≤ t.start)
    (hpositive : ∀ s ∈ spans, s.start < s.stop) (hperm : other.Perm spans) :
    sortSpans other = spans := by
  have hsorted : spans.Pairwise Span.le := by
    refine h.imp_of_mem ?_
    intro s t hs _ hst
    left
    exact lt_of_lt_of_le (hpositive s hs) hst
  refine Perm.eq_of_pairwise ?_ (pairwise_insertionSort Span.le other) hsorted
    ((perm_insertionSort _ _).trans hperm)
  intro s t _ _ hst hts
  have hstart : s.start = t.start := by
    unfold Span.le at hst hts
    omega
  have hstop : s.stop = t.stop := by
    unfold Span.le at hst hts
    omega
  cases s
  cases t
  exact congrArg₂ Span.mk hstart hstop

theorem lt_of_mem_trimmed {text : List Char} (h : s ∈ trimmed text spans) : s.start < s.stop := by
  simpa using (mem_filter.mp h).2

end Order

end NovelAgent.Core
