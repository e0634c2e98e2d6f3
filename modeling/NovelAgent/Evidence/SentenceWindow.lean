import NovelAgent.Core.Scanner
import NovelAgent.Core.TwoSided

/-!
# Sentence Windows

A stretch of whole sentences of a paragraph that is too long to be shown.
-/

namespace NovelAgent.Evidence

open Core List

def spanLength (s : Span) : Nat := s.stop - s.start

/-- `_SENTENCE_SPLIT` -/
def windowSplit : SentenceRule where
  isMark c := c ∈ ['。', '！', '？', '!', '?', ';', '；']
  isGap _ := false
  manyMarks := false
  bareMarks := false

def paragraphSentences (text : List Char) (paragraphStart paragraphEnd : Nat) : List Span :=
  trimmed text (sentences windowSplit text paragraphStart paragraphEnd)

variable {s : Span}

section Growth

/-- A window that grows: the sentences it has taken, their length, and those that
    are left on both sides, from the middle on. -/
structure Growth where
  selected : List Span
  chars : Nat
  left : List Span
  right : List Span

/-- The next sentences on both sides, with their lengths. -/
def Growth.candidates (growth : Growth) : List (Nat × Span) :=
  (growth.left.head?.toList ++ growth.right.head?.toList).map fun s => (spanLength s, s)

def CandidateLe (a b : Nat × Span) : Prop := a.1 < b.1 ∨ a.1 = b.1 ∧ Span.le a.2 b.2

instance : DecidableRel CandidateLe := fun a b => by
  unfold CandidateLe
  infer_instance

/-- Take the shortest of the next sentences as long as one fits. -/
def expand (center : Span) (limit : Nat) : Nat → Growth → Growth
  | 0, growth => growth
  | fuel + 1, growth =>
    if growth.chars < limit then
      match growth.candidates.insertionSort CandidateLe with
      | [] => growth
      | (cost, s) :: _ =>
        if limit < growth.chars + cost then growth
        else if s.stop ≤ center.stop then
          expand center limit fuel
            ⟨growth.selected ++ [s], growth.chars + cost, growth.left.tail, growth.right⟩
        else
          expand center limit fuel
            ⟨growth.selected ++ [s], growth.chars + cost, growth.left, growth.right.tail⟩
    else growth

/-- `_sentence_window` -/
def sentenceWindow (text : List Char) (paragraphStart paragraphEnd : Nat) (limit : Int) :
    Option (Span × List Char) :=
  let sentences := paragraphSentences text paragraphStart paragraphEnd
  let middle := sentences.length / 2
  match sentences[middle]? with
  | none => none
  | some center =>
    if limit < top (sentences.map spanLength) then none
    else
      -- the limit is not negative from here on
      let grown := expand center limit.toNat sentences.length
        ⟨[center], spanLength center, (sentences.take middle).reverse,
          sentences.drop (middle + 1)⟩
      match sortSpans grown.selected with
      | [] => none
      | first :: rest =>
        let window : Span := ⟨first.start, ((first :: rest).getLast (by simp)).stop⟩
        let windowText := slice text window.start window.stop
        if windowText = [] then none else some (window, windowText)

variable {center : Span} {limit : Nat} {left right : List Span}

theorem candidates_both {selected : List Span} {chars : Nat} {l r : Span} (h : l.start < r.start) :
    ∃ rest, ((⟨selected, chars, l :: left, r :: right⟩ : Growth).candidates.insertionSort
      CandidateLe) = (if spanLength l ≤ spanLength r then (spanLength l, l)
        else (spanLength r, r)) :: rest := by
  have hle : CandidateLe (spanLength l, l) (spanLength r, r) ↔ spanLength l ≤ spanLength r := by
    simp only [CandidateLe, Span.le]
    omega
  unfold Growth.candidates
  simp only [List.head?_cons, Option.toList_some, singleton_append, map_cons,
    map_nil, insertionSort_cons, insertionSort_nil, orderedInsert_nil,
    orderedInsert_cons]
  by_cases hshorter : spanLength l ≤ spanLength r
  · rw [if_pos (hle.mpr hshorter), if_pos hshorter]
    exact ⟨_, rfl⟩
  · rw [if_neg (fun h => hshorter (hle.mp h)), if_neg hshorter]
    exact ⟨_, rfl⟩

/-- The sentences on the left of the middle one, or on the right of it. -/
def Beside (center : Span) (left right : List Span) : Prop :=
  (∀ s ∈ left, s.start < s.stop ∧ s.stop ≤ center.start) ∧
    ∀ s ∈ right, s.start < s.stop ∧ center.stop ≤ s.start

theorem Beside.positive (h : Beside center left right) :
    (∀ cost ∈ left.map spanLength, 0 < cost) ∧ ∀ cost ∈ right.map spanLength, 0 < cost := by
  simp only [forall_mem_map, spanLength]
  constructor
  · intro s hs
    have := (h.1 s hs).1
    omega
  · intro s hs
    have := (h.2 s hs).1
    omega

theorem Beside.tail_left (h : Beside center (s :: left) right) : Beside center left right :=
  ⟨fun t ht => h.1 t (mem_cons_of_mem _ ht), h.2⟩

theorem Beside.tail_right (h : Beside center left (s :: right)) : Beside center left right :=
  ⟨h.1, fun t ht => h.2 t (mem_cons_of_mem _ ht)⟩

/-- The window takes what growth on two sides takes, by induction on the fuel. The
    side that a sentence comes from shows in where it stops. -/
theorem expand_selected (hcenter : center.start < center.stop) : ∀ (fuel : Nat)
    (selected : List Span) (chars : Nat) (left right : List Span), Beside center left right →
    (expand center limit fuel ⟨selected, chars, left, right⟩).selected.Perm
      (selected ++
        left.take (grow limit fuel chars (left.map spanLength) (right.map spanLength)).1 ++
        right.take (grow limit fuel chars (left.map spanLength) (right.map spanLength)).2) := by
  intro fuel
  induction fuel with
  | zero =>
    intro selected chars left right _
    simp [expand, grow]
  | succ fuel ih =>
    intro selected chars left right hbeside
    by_cases hroom : chars < limit
    · have hleft : ∀ s left', left = s :: left' → s.stop ≤ center.stop := by
        intro s left' hs
        have := hbeside.1 s (by rw [hs]; exact mem_cons_self)
        omega
      have hright : ∀ s right', right = s :: right' → ¬ s.stop ≤ center.stop := by
        intro s right' hs
        have := hbeside.2 s (by rw [hs]; exact mem_cons_self)
        omega
      -- what is selected when the next sentence is on the left, and on the right
      have htakeLeft : ∀ s left', left = s :: left' → ∀ taken : Nat × Nat,
          (selected ++ [s] ++ left'.take taken.1 ++ right.take taken.2).Perm
            (selected ++ left.take (taken.1 + 1) ++ right.take taken.2) := by
        intro s left' hs taken
        rw [hs, take_succ_cons, append_assoc selected, singleton_append]
      have htakeRight : ∀ s right', right = s :: right' → ∀ taken : Nat × Nat,
          (selected ++ [s] ++ left.take taken.1 ++ right'.take taken.2).Perm
            (selected ++ left.take taken.1 ++ right.take (taken.2 + 1)) := by
        intro s right' hs taken
        rw [hs, take_succ_cons]
        simp only [append_assoc, singleton_append]
        exact Perm.append_left _ perm_middle.symm
      unfold expand
      simp only [if_pos hroom]
      cases left with
      | nil =>
        cases right with
        | nil => simp [Growth.candidates, grow]
        | cons r right =>
          simp only [Growth.candidates, List.head?_nil, Option.toList_none, nil_append,
            List.head?_cons, Option.toList_some, map_cons, map_nil,
            insertionSort_cons, insertionSort_nil, orderedInsert_nil,
            tail_cons, grow]
          by_cases hfits : chars + spanLength r ≤ limit
          · rw [if_neg (by omega), if_neg (hright r right rfl), if_pos hfits]
            exact (ih _ _ _ _ hbeside.tail_right).trans (htakeRight r right rfl _)
          · rw [if_pos (by omega), if_neg hfits]
            simp
      | cons l left =>
        cases right with
        | nil =>
          simp only [Growth.candidates, List.head?_nil, Option.toList_none, append_nil,
            List.head?_cons, Option.toList_some, map_cons, map_nil,
            insertionSort_cons, insertionSort_nil, orderedInsert_nil,
            tail_cons, grow]
          by_cases hfits : chars + spanLength l ≤ limit
          · rw [if_neg (by omega), if_pos (hleft l left rfl), if_pos hfits]
            exact (ih _ _ _ _ hbeside.tail_left).trans (htakeLeft l left rfl _)
          · rw [if_pos (by omega), if_neg hfits]
            simp
        | cons r right =>
          have horder : l.start < r.start := by
            have hl := hbeside.1 l mem_cons_self
            have hr := hbeside.2 r mem_cons_self
            omega
          rcases @candidates_both left right selected chars l r horder with ⟨rest, hcandidates⟩
          rw [hcandidates]
          simp only [map_cons, tail_cons, grow]
          by_cases hshorter : spanLength l ≤ spanLength r
          · simp only [if_pos hshorter]
            by_cases hfits : chars + spanLength l ≤ limit
            · rw [if_neg (by omega), if_pos (hleft l left rfl), if_pos hfits]
              exact (ih _ _ _ _ hbeside.tail_left).trans (htakeLeft l left rfl _)
            · rw [if_pos (by omega), if_neg hfits]
              simp
          · simp only [if_neg hshorter]
            by_cases hfits : chars + spanLength r ≤ limit
            · rw [if_neg (by omega), if_neg (hright r right rfl), if_pos hfits]
              exact (ih _ _ _ _ hbeside.tail_right).trans (htakeRight r right rfl _)
            · rw [if_pos (by omega), if_neg hfits]
              simp
    · unfold expand
      rw [if_neg hroom, grow_full _ hbeside.positive.1 hbeside.positive.2 (by omega)]
      simp

end Growth

section Reach

/-- The window grows to a sentence: it is the middle one, or the limit has room for
    the middle one, the sentences up to this one, and the sentences on the other
    side up to the first that is longer than all of those. -/
def Reached (sentences : List Span) (limit : Int) (s : Span) : Prop :=
  let middle := sentences.length / 2
  let used := (sentences[middle]?).elim 0 spanLength
  let left := (sentences.take middle).reverse
  let right := sentences.drop (middle + 1)
  sentences[middle]? = some s ∨
    (∃ i, left[i]? = some s ∧
      ((used + leftNeeds (left.map spanLength) (right.map spanLength) i : Nat) : Int) ≤ limit) ∨
    ∃ j, right[j]? = some s ∧
      ((used + rightNeeds (left.map spanLength) (right.map spanLength) j : Nat) : Int) ≤ limit

variable {spans : List Span}

theorem mem_take_iff {n : Nat} : s ∈ spans.take n ↔ ∃ i, i < n ∧ spans[i]? = some s := by
  rw [mem_iff_getElem?]
  constructor
  · intro h
    rcases h with ⟨i, hi⟩
    rw [List.getElem?_take] at hi
    by_cases hn : i < n
    · rw [if_pos hn] at hi
      exact ⟨i, hn, hi⟩
    · rw [if_neg hn] at hi
      cases hi
  · intro h
    rcases h with ⟨i, hn, hi⟩
    exact ⟨i, by rw [List.getElem?_take, if_pos hn, hi]⟩

variable {text : List Char} {paragraphStart paragraphEnd : Nat} {limit : Int} {window : Span}
  {windowText : List Char}

theorem paragraphSentences_inOrder (text : List Char) (paragraphStart paragraphEnd : Nat) :
    InOrder paragraphStart (min paragraphEnd text.length)
      (paragraphSentences text paragraphStart paragraphEnd) :=
  (sentences_inOrder text paragraphStart paragraphEnd).trimmed text

/-- Where the first ones are those within the limit, to stand among them is to stand within
    the limit. -/
theorem exists_taken_iff {α : Type} {side : List α} {needs : Nat → Nat} {count limit : Nat}
    (h : ∀ i, i < count ↔ i < side.length ∧ needs i ≤ limit) {s : α} :
    (∃ i, i < count ∧ side[i]? = some s) ↔ ∃ i, side[i]? = some s ∧ needs i ≤ limit := by
  refine exists_congr fun i => ?_
  rw [h i]
  constructor
  · intro hi
    exact ⟨hi.2, hi.1.2⟩
  · intro hi
    exact ⟨⟨(List.getElem?_eq_some_iff.mp hi.1).1, hi.2⟩, hi.1⟩

/-- What the growth from the middle selects are the sentences that it reaches. They
    come one after the other. -/
theorem expand_reached {center : Span} {limit : Nat}
    (horder : spans.Pairwise fun s t => s.stop ≤ t.start)
    (hpositive : ∀ s ∈ spans, s.start < s.stop) (hcenter : spans[spans.length / 2]? = some center) :
    ∃ before chosen after, spans = before ++ chosen ++ after ∧ center ∈ chosen ∧
      (expand center limit spans.length ⟨[center], spanLength center,
        (spans.take (spans.length / 2)).reverse,
        spans.drop (spans.length / 2 + 1)⟩).selected.Perm chosen ∧
      ∀ s, s ∈ chosen ↔ Reached spans limit s := by
  rcases List.getElem?_eq_some_iff.mp hcenter with ⟨hmiddle, hget⟩
  have hreached : ∀ s, Reached spans limit s ↔ center = s ∨
      (∃ i, (spans.take (spans.length / 2)).reverse[i]? = some s ∧
        spanLength center + leftNeeds ((spans.take (spans.length / 2)).reverse.map spanLength)
          ((spans.drop (spans.length / 2 + 1)).map spanLength) i ≤ limit) ∨
      ∃ j, (spans.drop (spans.length / 2 + 1))[j]? = some s ∧
        spanLength center + rightNeeds ((spans.take (spans.length / 2)).reverse.map spanLength)
          ((spans.drop (spans.length / 2 + 1)).map spanLength) j ≤ limit := by
    intro s
    simp only [Reached, hcenter, Option.elim_some, Int.ofNat_le, Option.some.injEq]
  have hsplit : spans = spans.take (spans.length / 2) ++
      center :: spans.drop (spans.length / 2 + 1) := by
    rw [← hget, getElem_cons_drop, take_append_drop]
  have hleftLength : (spans.take (spans.length / 2)).reverse.length = spans.length / 2 := by
    rw [length_reverse, length_take]
    omega
  have hrightLength : (spans.drop (spans.length / 2 + 1)).length =
      spans.length - (spans.length / 2 + 1) := length_drop
  generalize hleft : (spans.take (spans.length / 2)).reverse = left at hreached hleftLength ⊢
  generalize spans.drop (spans.length / 2 + 1) = right at hreached hsplit hrightLength ⊢
  rw [← reverse_eq_iff.mpr hleft.symm] at hsplit
  have hbeside : Beside center left right := by
    rw [hsplit, pairwise_append, pairwise_cons] at horder
    constructor
    · intro s hs
      have hmem : s ∈ left.reverse := mem_reverse.mpr hs
      exact ⟨hpositive s (by rw [hsplit]; exact mem_append_left _ hmem),
        horder.2.2 s hmem center mem_cons_self⟩
    · intro s hs
      have hmem : s ∈ center :: right := mem_cons_of_mem _ hs
      exact ⟨hpositive s (by rw [hsplit]; exact mem_append_right _ hmem),
        horder.2.1.1 s hs⟩
  have hpositiveCenter : center.start < center.stop := by
    rw [← hget]
    exact hpositive _ (getElem_mem hmiddle)
  have hselected := @expand_selected _ limit hpositiveCenter spans.length [center]
    (spanLength center) left right hbeside
  have htakes := grow_takes limit spans.length (spanLength center) (left.map spanLength)
    (right.map spanLength) (by simp only [length_map]; omega)
  generalize grow limit spans.length (spanLength center) (left.map spanLength)
    (right.map spanLength) = taken at hselected htakes
  unfold Takes at htakes
  simp only [length_map] at htakes
  refine ⟨(left.drop taken.1).reverse,
    (left.take taken.1).reverse ++ center :: right.take taken.2, right.drop taken.2, ?_, by simp,
    ?_, ?_⟩
  · rw [hsplit, append_assoc, append_assoc, cons_append, take_append_drop,
      ← append_assoc, ← reverse_append, take_append_drop]
  · refine hselected.trans ?_
    rw [append_assoc, singleton_append]
    refine Perm.trans ?_ perm_middle.symm
    exact ((reverse_perm _).symm.append_right _).cons _
  · intro s
    rw [hreached, mem_append, mem_reverse, mem_cons, mem_take_iff, mem_take_iff]
    rw [exists_taken_iff htakes.1, exists_taken_iff htakes.2, eq_comm (a := s)]
    exact or_left_comm

section

variable (h : sentenceWindow text paragraphStart paragraphEnd limit = some (window, windowText))

include h

/-- A window is the text from the first to the last of the sentences it reaches,
    and these come one after the other. -/
theorem sentenceWindow_spec :
    windowText = slice text window.start window.stop ∧
      ∃ before chosen after, ∃ hne : chosen ≠ [],
        paragraphSentences text paragraphStart paragraphEnd = before ++ chosen ++ after ∧
        window.start = (chosen.head hne).start ∧ window.stop = (chosen.getLast hne).stop ∧
        ∀ s, s ∈ chosen ↔
          Reached (paragraphSentences text paragraphStart paragraphEnd) limit s := by
  have horder := (paragraphSentences_inOrder text paragraphStart paragraphEnd).apart
  have hpositive : ∀ s ∈ paragraphSentences text paragraphStart paragraphEnd,
      s.start < s.stop := fun s hs => lt_of_mem_trimmed hs
  unfold sentenceWindow at h
  generalize paragraphSentences text paragraphStart paragraphEnd = spans at h horder hpositive ⊢
  simp only at h
  cases hcenter : spans[spans.length / 2]? with
  | none =>
    rw [hcenter] at h
    cases h
  | some center =>
    rw [hcenter] at h
    simp only at h
    by_cases hlongest : limit < (top (spans.map spanLength) : Nat)
    · rw [if_pos hlongest] at h
      cases h
    · rw [if_neg hlongest] at h
      have hlimit : (limit.toNat : Int) = limit := by omega
      rcases @expand_reached _ _ limit.toNat horder hpositive hcenter with
        ⟨before, chosen, after, hspans, hmem, hperm, hreached⟩
      rw [hlimit] at hreached
      have hne : chosen ≠ [] := ne_nil_of_mem hmem
      have hchosen : chosen.Sublist spans := by
        rw [hspans]
        exact (sublist_append_right _ _).trans (sublist_append_left _ _)
      rw [sortSpans_eq (horder.sublist hchosen) (fun s hs => hpositive s (hchosen.subset hs))
        hperm] at h
      cases chosen with
      | nil => exact absurd rfl hne
      | cons first rest =>
        simp only at h
        split at h
        · cases h
        · rw [Option.some.injEq, Prod.mk.injEq] at h
          rcases h with ⟨hwindow, htext⟩
          subst hwindow
          exact ⟨htext.symm, before, first :: rest, after, hne, hspans, rfl, rfl, hreached⟩

theorem sentenceWindow_edges :
    (∀ place, window.start ≤ place ↔ ∃ s,
      Reached (paragraphSentences text paragraphStart paragraphEnd) limit s ∧ s.start ≤ place) ∧
    ∀ place, place ≤ window.stop ↔ ∃ s,
      Reached (paragraphSentences text paragraphStart paragraphEnd) limit s ∧ place ≤ s.stop := by
  rcases (sentenceWindow_spec h).2 with
    ⟨before, chosen, after, hne, hspans, hstart, hstop, hreached⟩
  have horder := (paragraphSentences_inOrder text paragraphStart paragraphEnd).apart
  have hchosen : chosen.Sublist (paragraphSentences text paragraphStart paragraphEnd) := by
    rw [hspans]
    exact (sublist_append_right _ _).trans (sublist_append_left _ _)
  have hedges := head_le_getLast (horder.sublist hchosen)
    (fun s hs => lt_of_mem_trimmed (hchosen.subset hs)) hne
  constructor
  · intro place
    constructor
    · intro hplace
      exact ⟨chosen.head hne, (hreached _).mp (head_mem hne), by rw [← hstart]; exact hplace⟩
    · intro hplace
      rcases hplace with ⟨s, hs, hle⟩
      rw [hstart]
      exact le_trans (hedges s ((hreached s).mpr hs)).1 hle
  · intro place
    constructor
    · intro hplace
      exact ⟨chosen.getLast hne, (hreached _).mp (getLast_mem hne),
        by rw [← hstop]; exact hplace⟩
    · intro hplace
      rcases hplace with ⟨s, hs, hle⟩
      rw [hstop]
      exact le_trans hle (hedges s ((hreached s).mpr hs)).2

theorem sentenceWindow_bounds :
    paragraphStart ≤ window.start ∧ window.start < window.stop ∧ window.stop ≤ paragraphEnd ∧
      window.stop ≤ text.length := by
  rcases (sentenceWindow_spec h).2 with ⟨before, chosen, after, hne, hspans, hstart, hstop, _⟩
  have horder := paragraphSentences_inOrder text paragraphStart paragraphEnd
  have hchosen : chosen.Sublist (paragraphSentences text paragraphStart paragraphEnd) := by
    rw [hspans]
    exact (sublist_append_right _ _).trans (sublist_append_left _ _)
  have hpositive : ∀ s ∈ chosen, s.start < s.stop :=
    fun s hs => lt_of_mem_trimmed (hchosen.subset hs)
  have hedges := head_le_getLast (horder.apart.sublist hchosen) hpositive hne
  have hfirst := horder.bounds _ (hchosen.subset (head_mem hne))
  have hlast := horder.bounds _ (hchosen.subset (getLast_mem hne))
  have hfirstPositive := hpositive _ (head_mem hne)
  have hfirstStop := (hedges _ (head_mem hne)).2
  rw [← hstart] at hfirst hfirstPositive
  rw [← hstop] at hlast hfirstStop
  have hend := le_trans hlast.2 (min_le_left _ _)
  have htext := le_trans hlast.2 (min_le_right _ _)
  exact ⟨hfirst.1, by omega, hend, htext⟩

end

/-- A window is a stretch of its paragraph that consists of whole sentences one after the other. It
    is not longer than the limit exactly if the text from any reached sentence to any other one,
    with what lies between the sentences, is not. -/
theorem sentenceWindow_within_iff (text : List Char) (paragraphStart paragraphEnd : Nat)
    (limit : Int) (window : Span) (windowText : List Char)
    (h : sentenceWindow text paragraphStart paragraphEnd limit = some (window, windowText)) :
    (windowText = slice text window.start window.stop ∧ paragraphStart ≤ window.start ∧
      window.stop ≤ paragraphEnd ∧
      ∃ before chosen after, ∃ hne : chosen ≠ [],
        paragraphSentences text paragraphStart paragraphEnd = before ++ chosen ++ after ∧
        window.start = (chosen.head hne).start ∧ window.stop = (chosen.getLast hne).stop) ∧
    ((windowText.length : Int) ≤ limit ↔
      ∀ s t, Reached (paragraphSentences text paragraphStart paragraphEnd) limit s →
        Reached (paragraphSentences text paragraphStart paragraphEnd) limit t →
        (t.stop : Int) ≤ s.start + limit) := by
  have hbounds := sentenceWindow_bounds h
  have hedges := sentenceWindow_edges h
  rcases sentenceWindow_spec h with
    ⟨htext, before, chosen, after, hne, hspans, hstart, hstop, hreached⟩
  refine ⟨⟨htext, hbounds.1, hbounds.2.2.1, before, chosen, after, hne, hspans, hstart, hstop⟩, ?_⟩
  have hlength : windowText.length = window.stop - window.start := by
    rw [htext]
    exact slice_length hbounds.2.2.2
  constructor
  · intro hfits s t hs ht
    have hfirst := (hedges.1 s.start).mpr ⟨s, hs, le_refl _⟩
    have hlast := (hedges.2 t.stop).mpr ⟨t, ht, le_refl _⟩
    omega
  · intro hfits
    have hpair := hfits _ _ ((hreached _).mp (head_mem hne))
      ((hreached _).mp (getLast_mem hne))
    rw [← hstart, ← hstop] at hpair
    omega

end Reach

namespace Sample

def spacedSentences : List Char := "a!   b!".toList

end Sample

open Sample

/-- Both sentences fit the limit, and the window with the space between them does not. -/
theorem sentenceWindow_too_long :
    sentenceWindow spacedSentences 0 7 4 = some (⟨0, 7⟩, spacedSentences) ∧
      ¬ (spacedSentences.length : Int) ≤ 4 := by
  decide

/-- Two sentences without white space between them make a window of the limit. -/
theorem sentenceWindow_within_iff_sample :
    sentenceWindow "a!b!".toList 0 4 4 = some (⟨0, 4⟩, "a!b!".toList) ∧
    (("a!b!".toList = slice "a!b!".toList 0 4 ∧ 0 ≤ 0 ∧ 4 ≤ 4 ∧
      ∃ before chosen after, ∃ hne : chosen ≠ [],
        paragraphSentences "a!b!".toList 0 4 = before ++ chosen ++ after ∧
        0 = (chosen.head hne).start ∧ 4 = (chosen.getLast hne).stop) ∧
    (("a!b!".toList.length : Int) ≤ 4 ↔
      ∀ s t, Reached (paragraphSentences "a!b!".toList 0 4) 4 s →
        Reached (paragraphSentences "a!b!".toList 0 4) 4 t → (t.stop : Int) ≤ s.start + 4)) := by
  have hwindow : sentenceWindow "a!b!".toList 0 4 4 = some (⟨0, 4⟩, "a!b!".toList) := by decide
  exact ⟨hwindow, sentenceWindow_within_iff _ _ _ _ _ _ hwindow⟩

end NovelAgent.Evidence
