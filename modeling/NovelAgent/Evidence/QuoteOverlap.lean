import NovelAgent.Evidence.QuoteBinding

/-!
# Quote Overlap

What a bound candidate has to do with the quote it is bound to.
-/

namespace NovelAgent.Evidence

open Core Domain World List

variable {letters : Letters} {repr : String → String} {candidates : List EvidenceCandidate}
  {quote : String}

/-- One text stands in the other. -/
def Nested (a b : List Char) : Prop := a <:+: b ∨ b <:+: a

/-- A candidate contains a quote or is contained in it. -/
def Overlaps (letters : Letters) (candidates : List EvidenceCandidate) (quote : String)
    (c : EvidenceCandidate) : Prop :=
  Nested (semanticSpan letters c.text) (semanticSpan letters quote) ∨
    ∃ left, (left, c) ∈ pairwise candidates ∧
      Nested (joinedSpan letters (left, c)) (semanticSpan letters quote)

/-- The one candidate that matches a quote, in the first way that anything
    does, is made of punctuation. -/
def BindsBlank (letters : Letters) (candidates : List EvidenceCandidate) (quote : String) : Prop :=
  2 ≤ (semanticSpan letters quote).length ∧
    (spelling letters candidates quote = 1 ∧ (∃ pair ∈ pairwise candidates,
        joinedSpan letters pair = semanticSpan letters quote ∧
        semanticSpan letters pair.2.text = []) ∨
      spelling letters candidates quote = 0 ∧ holding letters candidates quote = 0 ∧
        held letters candidates quote = 1 ∧
        ∃ c ∈ candidates, semanticSpan letters c.text = [])

variable {normalized : List Char} {c : EvidenceCandidate}

theorem mem_joinedPairs :
    c ∈ joinedPairs letters normalized candidates ↔
      ∃ left, (left, c) ∈ pairwise candidates ∧ joinedSpan letters (left, c) = normalized := by
  unfold joinedPairs
  simp only [mem_map, mem_filter, decide_eq_true_eq]
  constructor
  · rintro ⟨⟨left, _⟩, ⟨hpair, hjoined⟩, rfl⟩
    exact ⟨left, hpair, hjoined⟩
  · rintro ⟨left, hpair, hjoined⟩
    exact ⟨(left, c), ⟨hpair, hjoined⟩, rfl⟩

theorem mem_pairBound (h : c ∈ pairBound letters normalized candidates) :
    ∃ left, (left, c) ∈ pairwise candidates ∧ Nested (joinedSpan letters (left, c)) normalized := by
  unfold pairBound at h
  simp only [mem_map, mem_filter, decide_eq_true_eq] at h
  rcases h with ⟨⟨left, second⟩, ⟨hpair, hnested⟩, hsame⟩
  simp only at hsame
  rw [← hsame]
  exact ⟨left, hpair, hnested⟩

/-- A bound candidate overlaps its quote. -/
theorem bindQuote_overlaps (h : bindQuote letters repr candidates quote = .ok c) :
    Overlaps letters candidates quote c := by
  rcases bindQuote_eq_ok.mp h with
    ⟨_, hjoined | ⟨_, hexact | ⟨_, hcontained | ⟨_, hbound⟩⟩⟩⟩
  · have hmem : c ∈ joinedPairs letters (semanticSpan letters quote) candidates := by simp [hjoined]
    rcases mem_joinedPairs.mp hmem with ⟨left, hpair, hsame⟩
    exact Or.inr ⟨left, hpair, Or.inl (hsame ▸ infix_refl _)⟩
  · have hmem : c ∈ exactMatches letters (semanticSpan letters quote) candidates := by simp [hexact]
    unfold exactMatches at hmem
    rw [mem_filter, decide_eq_true_iff] at hmem
    exact Or.inl (Or.inr hmem.2)
  · have hmem : c ∈ containedMatches letters (semanticSpan letters quote) candidates := by
      simp [hcontained]
    unfold containedMatches at hmem
    rw [mem_filter, decide_eq_true_iff] at hmem
    exact Or.inl (Or.inl hmem.2)
  · have hmem : c ∈ pairBound letters (semanticSpan letters quote) candidates := by simp [hbound]
    exact Or.inr (mem_pairBound hmem)

theorem held_of_blank (hc : c ∈ candidates) (hblank : semanticSpan letters c.text = []) :
    c ∈ containedMatches letters (semanticSpan letters quote) candidates := by
  unfold containedMatches
  rw [mem_filter, decide_eq_true_iff, hblank]
  exact ⟨hc, nil_infix⟩

/-- The candidate that is bound has no letters exactly when the one candidate
    that matches is made of punctuation. -/
theorem bindQuote_blank : (∃ c, bindQuote letters repr candidates quote = .ok c ∧
    semanticSpan letters c.text = []) ↔ BindsBlank letters candidates quote := by
  unfold BindsBlank
  simp only [← length_joinedPairs, ← length_exactMatches, ← length_containedMatches,
    length_eq_zero_iff, bindQuote_eq_ok]
  constructor
  · rintro ⟨c, ⟨hlong, hstage⟩, hblank⟩
    refine ⟨hlong, ?_⟩
    rcases hstage with hjoined | ⟨hjoined, hexact | ⟨hexact, hcontained | ⟨hcontained, hbound⟩⟩⟩
    · have hmem : c ∈ joinedPairs letters (semanticSpan letters quote) candidates := by
        simp [hjoined]
      rcases mem_joinedPairs.mp hmem with ⟨left, hpair, hsame⟩
      exact Or.inl ⟨by simp [hjoined], (left, c), hpair, hsame, hblank⟩
    · -- A candidate that contains the quote has the letters of the quote.
      have hmem : c ∈ exactMatches letters (semanticSpan letters quote) candidates := by
        simp [hexact]
      unfold exactMatches at hmem
      rw [mem_filter, decide_eq_true_iff, hblank, infix_nil] at hmem
      rw [hmem.2] at hlong
      exact absurd hlong (by simp)
    · have hmem : c ∈ containedMatches letters (semanticSpan letters quote) candidates := by
        simp [hcontained]
      unfold containedMatches at hmem
      exact Or.inr ⟨hjoined, hexact, by simp [hcontained], c, (mem_filter.mp hmem).1, hblank⟩
    · -- The last stage only runs if no candidate is contained in the quote.
      have hmem : c ∈ pairBound letters (semanticSpan letters quote) candidates := by simp [hbound]
      rcases mem_pairBound hmem with ⟨left, hpair, _⟩
      have hheld : c ∈ containedMatches letters (semanticSpan letters quote) candidates :=
        held_of_blank (mem_of_pairwise hpair).2 hblank
      rw [hcontained] at hheld
      cases hheld
  · rintro ⟨hlong, ⟨hone, pair, hpair, hsame, hblank⟩ | ⟨hjoined, hexact, hone, c, hc, hblank⟩⟩
    · rcases length_eq_one_iff.mp hone with ⟨c, hjoined⟩
      have hmem : pair.2 ∈ joinedPairs letters (semanticSpan letters quote) candidates :=
        mem_joinedPairs.mpr ⟨pair.1, hpair, hsame⟩
      rw [hjoined, mem_singleton] at hmem
      exact ⟨c, ⟨hlong, Or.inl hjoined⟩, hmem ▸ hblank⟩
    · rcases length_eq_one_iff.mp hone with ⟨only, hcontained⟩
      have hmem : c ∈ containedMatches letters (semanticSpan letters quote) candidates :=
        held_of_blank hc hblank
      rw [hcontained, mem_singleton] at hmem
      exact ⟨only, ⟨hlong, Or.inr ⟨hjoined, Or.inr ⟨hexact, Or.inl hcontained⟩⟩⟩, hmem ▸ hblank⟩

/-- Every bound candidate has letters and overlaps its quote. -/
def BoundWell (letters : Letters) (repr : String → String) (quotes : List String)
    (candidates : List EvidenceCandidate) : Prop :=
  ∀ bound, resolveEvidenceQuotes letters repr quotes candidates = .ok bound →
    List.Forall₂ (fun quote c => semanticSpan letters c.text ≠ [] ∧
      Overlaps letters candidates quote c) quotes bound

/-- Bound candidates have letters and overlap their quotes, unless all quotes
    are bound and one of them is bound to punctuation. -/
theorem resolveEvidenceQuotes_overlap (letters : Letters) (repr : String → String)
    (quotes : List String) (candidates : List EvidenceCandidate) :
    BoundWell letters repr quotes candidates ↔
      ¬ ((∀ quote ∈ quotes, Binds letters candidates quote) ∧
        ∃ quote ∈ quotes, BindsBlank letters candidates quote) := by
  have hreturns : (∃ bound, resolveEvidenceQuotes letters repr quotes candidates = .ok bound) ↔
      ∀ quote ∈ quotes, Binds letters candidates quote := by
    unfold resolveEvidenceQuotes
    simp only [Outcome.mapM_returns, bindQuote_returns]
  rw [← hreturns]
  unfold BoundWell
  constructor
  · rintro hwell ⟨⟨bound, hbound⟩, quote, hquote, hblank⟩
    rcases bindQuote_blank.mpr hblank with ⟨blank, hblankBound, hnone⟩
    rcases forall₂_iff_get.mp (hwell bound hbound) with ⟨hlength, hgood⟩
    rcases forall₂_iff_get.mp (Outcome.mapM_linked.mp hbound) with ⟨_, hlinked⟩
    rcases get_of_mem hquote with ⟨n, hn⟩
    have hn' : n.1 < bound.length := hlength ▸ n.2
    -- The candidate at the place of the quote is the one of punctuation.
    have hbind := hlinked n.1 n.2 hn'
    have hsame : List.get quotes ⟨n.1, n.2⟩ = quote := hn
    rw [hsame, hblankBound, Except.ok.injEq] at hbind
    exact (hgood n.1 n.2 hn').1 (hbind ▸ hnone)
  · intro hnone bound hbound
    have hlinked := Outcome.mapM_linked.mp hbound
    refine forall₂_iff_get.mpr ⟨hlinked.length_eq, fun n hn hn' => ?_⟩
    have hbind := (forall₂_iff_get.mp hlinked).2 n hn hn'
    refine ⟨fun hblank => ?_, bindQuote_overlaps hbind⟩
    exact hnone ⟨⟨bound, hbound⟩, _, get_mem quotes ⟨n, hn⟩,
      bindQuote_blank.mp ⟨_, hbind, hblank⟩⟩

namespace Sample

def silentLines : List EvidenceCandidate := [
  blockCandidate ⟨"block.1", .refl true⟩ "Go ahead." goAhead_ne goAhead_pos,
  blockCandidate ⟨"block.2", .refl true⟩ "......" (by decide) (by decide)]

def silence : EvidenceCandidate :=
  blockCandidate ⟨"block.2", .refl true⟩ "......" (by decide) (by decide)

end Sample

open Sample

/-- A quote that is in no line is bound to the line of silence. -/
theorem silence_bound :
    resolveEvidenceQuotes plainLetters id ["It rained all day."] silentLines =
      .ok [silence] ∧
    semanticSpan plainLetters silence.text = [] ∧
    ¬ BoundWell plainLetters id ["It rained all day."] silentLines := by
  have hbound : bindQuote plainLetters id silentLines "It rained all day." =
      .ok silence := by decide +kernel
  have hsilent : semanticSpan plainLetters silence.text = [] := by decide +kernel
  have hresolved : resolveEvidenceQuotes plainLetters id ["It rained all day."]
      silentLines = .ok [silence] := by
    unfold resolveEvidenceQuotes
    rw [mapM_cons, mapM_nil, hbound]
    rfl
  refine ⟨hresolved, hsilent, fun hwell => ?_⟩
  have hfirst := hwell _ hresolved
  rw [forall₂_cons] at hfirst
  exact hfirst.1.1 hsilent

end NovelAgent.Evidence
