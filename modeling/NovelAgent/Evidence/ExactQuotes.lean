import Mathlib.Data.List.Sort
import NovelAgent.Core.Dedup
import NovelAgent.Evidence.CandidateCover
import NovelAgent.Evidence.QuoteBinding

/-!
# Exact Quotes

A quote that is taken word for word names a span of the chapter and not a
candidate. It is searched for in every block that has candidates, and it counts
where it lies in what they cover: the spans of a block are sorted and merged,
and an occurrence has to lie in one of the merged ranges.
-/

namespace NovelAgent.Evidence

open Core Domain World List

/-- The texts of a chapter, under their identities and with the indexes of their scenes. -/
def chapterBlocks (chapter : ChapterDocument) : List (StableId × Nat × String) :=
  chapter.scenes.flatMap fun scene =>
    scene.blocks.map fun block => (block.blockId, scene.sceneIndex, block.text)

/-- The scene index and the text of a block. The last block under an identity
    is the one that a dictionary keeps. -/
def blockAt (chapter : ChapterDocument) (blockId : StableId) : Option (Nat × String) :=
  ((chapterBlocks chapter).findRev? fun entry => entry.1 = blockId).map Prod.snd

/-- An occurrence of a quote in a block. -/
structure PhysicalSpan where
  blockId : StableId
  sceneIndex : Nat
  start : Nat
  stop : Nat
deriving DecidableEq

def spansOf (candidates : List EvidenceCandidate) (blockId : StableId) : List Span :=
  (candidates.filter fun c => c.blockId = blockId).map EvidenceCandidate.span

/-- What the candidates cover, block by block. -/
def coveredRanges (candidates : List EvidenceCandidate) : List (StableId × List Span) :=
  (candidates.map EvidenceCandidate.blockId).eraseDups.map fun blockId =>
    (blockId, merged (spansOf candidates blockId))

/-- The occurrences of a quote in the merged ranges of a block. -/
def blockMatches (chapter : ChapterDocument) (quote : List Char) (ranges : StableId × List Span) :
    Except CandidateError (List PhysicalSpan) :=
  match blockAt chapter ranges.1 with
  | none => .error (.key ranges.1)
  | some (sceneIndex, text) =>
    let offsets := (occurrences quote text.toList).filter fun offset =>
      ranges.2.any fun range => Span.within ⟨offset, offset + quote.length⟩ range
    .ok (offsets.map fun offset => ⟨ranges.1, sceneIndex, offset, offset + quote.length⟩)

section Resolution

variable (letters : Letters) (repr : String → String) (candidates : List EvidenceCandidate)
  (chapter : ChapterDocument)

/-- Bind a quote to the one span where it stands. -/
def resolveExactQuote (quote : String) : Except CandidateError EvidenceCandidate :=
  if (semanticSpan letters quote).length < 2 then
    .error (.value ("evidence quote too short to resolve: " ++ repr (clip quote 40)))
  else do
    let found ← (coveredRanges candidates).mapM (blockMatches chapter quote.toList)
    let unique := found.flatten.eraseDups
    match unique with
    | [] => throw (.value ("evidence quote unresolved against the source unit: " ++
        repr (clip quote 60)))
    | [span] =>
      makeCandidate span.blockId chapter.chapterIndex span.sceneIndex quote span.start span.stop
    | _ => throw (.value ("evidence quote ambiguous (" ++ toString unique.length ++
        " physical spans): " ++ repr (clip quote 60)))

/-- All quotes bound, or the first error. -/
def resolveExactEvidenceQuotes (quotes : List String) :
    Except CandidateError (List EvidenceCandidate) :=
  quotes.mapM (resolveExactQuote letters repr candidates chapter)

end Resolution

/-- A quote occurs in a block, and the candidates of that block cover every
    character of the occurrence. -/
def Inside (chapter : ChapterDocument) (candidates : List EvidenceCandidate) (quote : String)
    (blockId : StableId) (offset : Nat) : Prop :=
  ∃ entry, blockAt chapter blockId = some entry ∧ quote.toList <+: entry.2.toList.drop offset ∧
    ∀ place, offset ≤ place → place < offset + quote.toList.length →
      ∃ c ∈ candidates, c.blockId = blockId ∧ c.start ≤ place ∧ place < c.stop

def NamesBlock (chapter : ChapterDocument) (blockId : StableId) : Prop :=
  ∃ scene ∈ chapter.scenes, ∃ block ∈ scene.blocks, block.blockId = blockId

section Blocks

variable {chapter : ChapterDocument} {blockId : StableId}

theorem blockAt_names : (∃ entry, blockAt chapter blockId = some entry) ↔
    NamesBlock chapter blockId := by
  unfold blockAt NamesBlock
  simp only [Option.map_eq_some_iff, List.findRev?_eq_find?_reverse]
  constructor
  · rintro ⟨_, found, hfound, _⟩
    have hmem := mem_of_find?_eq_some hfound
    have hid := List.find?_some hfound
    unfold chapterBlocks at hmem
    simp only [mem_reverse, mem_flatMap, mem_map] at hmem
    rcases hmem with ⟨scene, hscene, block, hblock, hsame⟩
    rw [← hsame, decide_eq_true_iff] at hid
    exact ⟨scene, hscene, block, hblock, hid⟩
  · rintro ⟨scene, hscene, block, hblock, hid⟩
    have hmem : (block.blockId, scene.sceneIndex, block.text) ∈ (chapterBlocks chapter).reverse := by
      unfold chapterBlocks
      simp only [mem_reverse, mem_flatMap, mem_map]
      exact ⟨scene, hscene, block, hblock, rfl⟩
    cases hfind : (chapterBlocks chapter).reverse.find? fun entry => entry.1 = blockId with
    | none =>
      have hnot := List.find?_eq_none.mp hfind _ hmem
      exact absurd (decide_eq_true hid) hnot
    | some found => exact ⟨found.2, found, rfl, rfl⟩

end Blocks

section Matches

variable {candidates : List EvidenceCandidate} {chapter : ChapterDocument} {quote : String}

theorem covered_spansOf {blockId : StableId} {place : Nat} :
    Covered (spansOf candidates blockId) place ↔
      ∃ c ∈ candidates, c.blockId = blockId ∧ c.start ≤ place ∧ place < c.stop := by
  unfold Covered spansOf
  simp only [mem_map, mem_filter, decide_eq_true_eq]
  constructor
  · rintro ⟨s, ⟨c, ⟨hc, hid⟩, rfl⟩, hfrom, hto⟩
    exact ⟨c, hc, hid, hfrom, hto⟩
  · rintro ⟨c, hc, hid, hfrom, hto⟩
    exact ⟨c.span, ⟨c, ⟨hc, hid⟩, rfl⟩, hfrom, hto⟩

theorem range_iff (hquote : quote.toList ≠ []) (blockId : StableId) (offset : Nat) :
    ((merged (spansOf candidates blockId)).any fun range =>
      Span.within ⟨offset, offset + quote.toList.length⟩ range) = true ↔
    ∀ place, offset ≤ place → place < offset + quote.toList.length →
      ∃ c ∈ candidates, c.blockId = blockId ∧ c.start ≤ place ∧ place < c.stop := by
  have hproper : ∀ s ∈ spansOf candidates blockId, s.start < s.stop := by
    intro s hs
    unfold spansOf at hs
    rcases mem_map.mp hs with ⟨c, _, rfl⟩
    exact c.ordered
  have hlength : 0 < quote.toList.length := length_pos_iff.mpr hquote
  have hmerged := exists_merged_iff (t := ⟨offset, offset + quote.toList.length⟩) hproper
    (by simp only; omega)
  simp only [any_eq_true, decide_eq_true_eq]
  rw [hmerged]
  unfold Span.covers
  simp only [covered_spansOf, and_imp]

theorem mem_blockMatches (hquote : quote.toList ≠ []) {blockId : StableId}
    {found : List PhysicalSpan} (h : blockMatches chapter quote.toList
      (blockId, merged (spansOf candidates blockId)) = .ok found) (span : PhysicalSpan) :
    span ∈ found ↔ span.blockId = blockId ∧ Inside chapter candidates quote blockId span.start ∧
      (blockAt chapter blockId).map Prod.fst = some span.sceneIndex ∧
      span.stop = span.start + quote.toList.length := by
  unfold blockMatches at h
  unfold Inside
  simp only at h
  cases hblock : blockAt chapter blockId with
  | none =>
    rw [hblock] at h
    cases h
  | some entry =>
    rw [hblock] at h
    simp only [Except.ok.injEq] at h
    rw [← h, mem_map]
    simp only [mem_filter, mem_occurrences, range_iff hquote]
    constructor
    · rintro ⟨offset, ⟨⟨_, hprefix⟩, hcovered⟩, rfl⟩
      exact ⟨rfl, ⟨entry, rfl, hprefix, hcovered⟩, rfl, rfl⟩
    · rintro ⟨hid, ⟨other, hother, hprefix, hcovered⟩, hscene, hstop⟩
      rw [← Option.some.inj hother] at hprefix
      have hbound := occurs_stop hquote hprefix
      refine ⟨span.start, ⟨⟨by omega, hprefix⟩, hcovered⟩, ?_⟩
      cases span
      simp only at hid hstop
      simp only [Option.map_some, Option.some.injEq] at hscene
      rw [hid, hstop, hscene]

/-- What is found are the occurrences inside. -/
theorem mem_matches (hquote : quote.toList ≠ []) {found : List (List PhysicalSpan)}
    (h : (coveredRanges candidates).mapM (blockMatches chapter quote.toList) = .ok found)
    (span : PhysicalSpan) :
    span ∈ found.flatten ↔ Inside chapter candidates quote span.blockId span.start ∧
      (blockAt chapter span.blockId).map Prod.fst = some span.sceneIndex ∧
      span.stop = span.start + quote.toList.length := by
  rw [mem_flatten]
  unfold coveredRanges at h
  constructor
  · rintro ⟨group, hgroup, hspan⟩
    rcases (Outcome.mapM_mem h group).mp hgroup with ⟨ranges, hranges, hblock⟩
    rcases mem_map.mp hranges with ⟨blockId, _, rfl⟩
    rcases (mem_blockMatches hquote hblock span).mp hspan with ⟨hid, hinside⟩
    rw [hid]
    exact hinside
  · rintro ⟨hinside, hrest⟩
    -- The first character of the occurrence is covered by some candidate.
    have hlength : 0 < quote.toList.length := length_pos_iff.mpr hquote
    rcases hinside with ⟨entry, hentry, hprefix, hcovered⟩
    rcases hcovered span.start (le_refl _) (by omega) with ⟨c, hc, hid, _⟩
    have hranges : (span.blockId, merged (spansOf candidates span.blockId)) ∈
        (candidates.map EvidenceCandidate.blockId).eraseDups.map fun blockId =>
          (blockId, merged (spansOf candidates blockId)) := by
      refine mem_map.mpr ⟨span.blockId, ?_, rfl⟩
      rw [mem_eraseDups, ← hid]
      exact mem_map_of_mem hc
    rcases (Outcome.mapM_returns _ _).mp ⟨found, h⟩ _ hranges with ⟨group, hgroup⟩
    refine ⟨group, (Outcome.mapM_mem h group).mpr ⟨_, hranges, hgroup⟩, ?_⟩
    exact (mem_blockMatches hquote hgroup span).mpr
      ⟨rfl, ⟨entry, hentry, hprefix, hcovered⟩, hrest⟩

/-- The search returns when the candidates name blocks of the chapter, and
    raises a `KeyError` otherwise. -/
theorem matches_returns : (∃ found, (coveredRanges candidates).mapM
      (blockMatches chapter quote.toList) = .ok found) ↔
    ∀ c ∈ candidates, NamesBlock chapter c.blockId := by
  rw [Outcome.mapM_returns]
  unfold coveredRanges
  have hone : ∀ blockId ranges, (∃ found, blockMatches chapter quote.toList (blockId, ranges) =
      .ok found) ↔ NamesBlock chapter blockId := by
    intro blockId ranges
    rw [← blockAt_names]
    unfold blockMatches
    simp only
    cases blockAt chapter blockId with
    | none => simp
    | some entry => simp
  simp only [forall_mem_map, hone, mem_eraseDups]

theorem matches_error {e : CandidateError} (h : (coveredRanges candidates).mapM
      (blockMatches chapter quote.toList) = .error e) : ∃ blockId, e = .key blockId := by
  rcases Outcome.mapM_error.mp h with ⟨_, ranges, _, _, _, hranges⟩
  unfold blockMatches at hranges
  cases hblock : blockAt chapter ranges.1 with
  | none =>
    rw [hblock] at hranges
    exact ⟨ranges.1, (Except.error.inj hranges).symm⟩
  | some entry =>
    rw [hblock] at hranges
    cases hranges

end Matches

section Exactness

variable (letters : Letters) (repr : String → String) (candidates : List EvidenceCandidate)
  (chapter : ChapterDocument) (quote : String)

/-- A quote is resolved exactly when it occurs inside once, to that occurrence,
    and refused with a `ValueError` otherwise. -/
structure ExactResolution : Prop where
  returns : (∃ bound, resolveExactEvidenceQuotes letters repr candidates chapter [quote] =
    .ok bound) ↔ ∃! place : StableId × Nat, Inside chapter candidates quote place.1 place.2
  exact_span : ∀ bound, resolveExactEvidenceQuotes letters repr candidates chapter [quote] =
    .ok bound → ∃ c entry, bound = [c] ∧ Inside chapter candidates quote c.blockId c.start ∧
      blockAt chapter c.blockId = some entry ∧ c.sceneIndex = entry.1 ∧ c.text = quote ∧
      c.stop ≤ entry.2.toList.length ∧ c.text.toList = slice entry.2.toList c.start c.stop
  refuses : ∀ e, resolveExactEvidenceQuotes letters repr candidates chapter [quote] =
    .error e → e.IsValueError

variable {letters repr candidates chapter quote}

theorem resolveExactEvidenceQuotes_one :
    resolveExactEvidenceQuotes letters repr candidates chapter [quote] =
      (resolveExactQuote letters repr candidates chapter quote).map fun c => [c] := by
  unfold resolveExactEvidenceQuotes
  rw [mapM_cons, mapM_nil]
  cases resolveExactQuote letters repr candidates chapter quote <;> rfl

theorem written_of_letters (hquote : 2 ≤ (semanticSpan letters quote).length) :
    quote.toList ≠ [] := by
  intro hempty
  unfold semanticSpan at hquote
  rw [hempty] at hquote
  exact absurd hquote (by simp)

/-- What is found is one span exactly when the quote occurs inside once. -/
theorem unique_iff (hwritten : quote.toList ≠ []) {found : List (List PhysicalSpan)}
    (h : (coveredRanges candidates).mapM (blockMatches chapter quote.toList) = .ok found) :
    (∃ span, found.flatten.eraseDups = [span]) ↔
      ∃! place : StableId × Nat, Inside chapter candidates quote place.1 place.2 := by
  have hmem : ∀ span, span ∈ found.flatten.eraseDups ↔
      Inside chapter candidates quote span.blockId span.start ∧
      (blockAt chapter span.blockId).map Prod.fst = some span.sceneIndex ∧
      span.stop = span.start + quote.toList.length := by
    intro span
    rw [mem_eraseDups]
    exact mem_matches hwritten h span
  have hspan : ∀ place : StableId × Nat, Inside chapter candidates quote place.1 place.2 →
      ∃ span ∈ found.flatten.eraseDups, (span.blockId, span.start) = place := by
    rintro ⟨blockId, offset⟩ hinside
    rcases hinside with ⟨entry, hentry, hrest⟩
    refine ⟨⟨blockId, entry.1, offset, offset + quote.toList.length⟩, ?_, rfl⟩
    rw [hmem]
    exact ⟨⟨entry, hentry, hrest⟩, by simp [hentry], rfl⟩
  constructor
  · rintro ⟨span, hone⟩
    refine ⟨(span.blockId, span.start), ((hmem span).mp (by simp [hone])).1, ?_⟩
    intro place hplace
    rcases hspan place hplace with ⟨other, hother, hsame⟩
    rw [hone, mem_singleton] at hother
    rw [← hsame, hother]
  · rintro ⟨place, hplace, honly⟩
    have hsame : ∀ a ∈ found.flatten.eraseDups, ∀ b ∈ found.flatten.eraseDups, a = b := by
      intro a ha b hb
      rcases (hmem a).mp ha with ⟨hainside, hascene, hastop⟩
      rcases (hmem b).mp hb with ⟨hbinside, hbscene, hbstop⟩
      have hat : (a.blockId, a.start) = (b.blockId, b.start) :=
        (honly _ hainside).trans (honly _ hbinside).symm
      rcases Prod.mk.inj hat with ⟨hblock, hstart⟩
      rw [hblock, hbscene] at hascene
      rw [hstart] at hastop
      cases a
      cases b
      simp only [PhysicalSpan.mk.injEq]
      exact ⟨hblock, (Option.some.inj hascene).symm, hstart, hastop.trans hbstop.symm⟩
    rcases hspan place hplace with ⟨span, hin, _⟩
    have hnodup := nodup_eraseDups found.flatten
    refine ⟨span, ?_⟩
    cases hunique : found.flatten.eraseDups with
    | nil =>
      rw [hunique] at hin
      cases hin
    | cons first rest =>
      rw [hunique] at hin hsame hnodup
      cases rest with
      | nil => rw [mem_singleton.mp hin]
      | cons second rest =>
        have htwice := hsame first mem_cons_self second (by simp)
        exact absurd (htwice ▸ mem_cons_self) (nodup_cons.mp hnodup).1

section Found

variable {found : List (List PhysicalSpan)}
  (hquote : 2 ≤ (semanticSpan letters quote).length)
  (hfound : (coveredRanges candidates).mapM (blockMatches chapter quote.toList) = .ok found)

include hquote hfound

theorem resolveExactQuote_raises (hnone : ∀ span, found.flatten.eraseDups ≠ [span]) :
    ∃ message, resolveExactQuote letters repr candidates chapter quote =
      .error (.value message) := by
  have hlong : ¬ (semanticSpan letters quote).length < 2 := by omega
  unfold resolveExactQuote
  rw [if_neg hlong, hfound]
  simp only [bind, Except.bind]
  cases hspans : found.flatten.eraseDups with
  | nil => exact ⟨_, rfl⟩
  | cons first rest =>
    cases rest with
    | nil => exact absurd hspans (hnone first)
    | cons second rest => exact ⟨_, rfl⟩

theorem resolveExactQuote_returns {span : PhysicalSpan}
    (hone : found.flatten.eraseDups = [span]) :
    ∃ c entry, resolveExactQuote letters repr candidates chapter quote = .ok c ∧
      Inside chapter candidates quote c.blockId c.start ∧ blockAt chapter c.blockId = some entry ∧
      c.sceneIndex = entry.1 ∧ c.text = quote ∧ c.stop ≤ entry.2.toList.length ∧
      c.text.toList = slice entry.2.toList c.start c.stop := by
  have hlong : ¬ (semanticSpan letters quote).length < 2 := by omega
  have hwritten := written_of_letters hquote
  have hlength : 0 < quote.toList.length := length_pos_iff.mpr hwritten
  have hspan : span ∈ found.flatten := by
    rw [← mem_eraseDups, hone]
    exact mem_singleton_self _
  rcases (mem_matches hwritten hfound span).mp hspan with ⟨hinside, hscene, hstop⟩
  rcases hinside with ⟨entry, hentry, hprefix, hcovered⟩
  have hmade : ∃ c, makeCandidate span.blockId chapter.chapterIndex span.sceneIndex quote
      span.start span.stop = .ok c := by
    refine makeCandidate_returns chapter.positive ?_ (by omega)
    rintro rfl
    exact hwritten rfl
  rcases hmade with ⟨c, hc⟩
  rcases makeCandidate_fields hc with ⟨hblock, _, hsceneIndex, htext, hstart, hstop', _⟩
  rw [hentry, Option.map_some, Option.some.injEq] at hscene
  refine ⟨c, entry, ?_, ?_, ?_, ?_, htext, ?_, ?_⟩
  · unfold resolveExactQuote
    rw [if_neg hlong, hfound]
    simp only [bind, Except.bind, hone]
    exact hc
  · rw [hblock, hstart]
    exact ⟨entry, hentry, hprefix, hcovered⟩
  · rw [hblock, hentry]
  · rw [hsceneIndex, hscene]
  · rw [hstop', hstop]
    exact occurs_stop hwritten hprefix
  · rw [htext, hstart, hstop', hstop]
    exact (slice_of_occurs hprefix).symm

end Found

/-- When the search returns, exact resolution finds the one place or refuses. -/
theorem exactResolution_of_matches (hquote : 2 ≤ (semanticSpan letters quote).length)
    (hfound : (coveredRanges candidates).mapM (blockMatches chapter quote.toList) = .ok found) :
    ExactResolution letters repr candidates chapter quote := by
  have hunique := unique_iff (written_of_letters hquote) hfound
  by_cases hone : ∃ span, found.flatten.eraseDups = [span]
  · have honce := hunique.mp hone
    rcases hone with ⟨span, hspan⟩
    have hreturned : ∃ c entry,
        resolveExactQuote letters repr candidates chapter quote = .ok c ∧
        Inside chapter candidates quote c.blockId c.start ∧
        blockAt chapter c.blockId = some entry ∧ c.sceneIndex = entry.1 ∧ c.text = quote ∧
        c.stop ≤ entry.2.toList.length ∧ c.text.toList = slice entry.2.toList c.start c.stop :=
      resolveExactQuote_returns hquote hfound hspan
    rcases hreturned with ⟨c, entry, hc, hrest⟩
    have hresult : resolveExactEvidenceQuotes letters repr candidates chapter [quote] =
        .ok [c] := by
      rw [resolveExactEvidenceQuotes_one, hc]
      rfl
    constructor
    · exact ⟨fun _ => honce, fun _ => ⟨[c], hresult⟩⟩
    · intro bound hbound
      rw [hresult, Except.ok.injEq] at hbound
      exact ⟨c, entry, hbound.symm, hrest⟩
    · intro e he
      rw [hresult] at he
      cases he
  · have hnone : ∀ span, found.flatten.eraseDups ≠ [span] :=
      fun span hspan => hone ⟨span, hspan⟩
    have hrefused : ∃ message, resolveExactQuote letters repr candidates chapter quote =
        .error (.value message) := resolveExactQuote_raises hquote hfound hnone
    rcases hrefused with ⟨message, hraised⟩
    have hresult : resolveExactEvidenceQuotes letters repr candidates chapter [quote] =
        .error (.value message) := by
      rw [resolveExactEvidenceQuotes_one, hraised]
      rfl
    constructor
    · rw [hresult, ← hunique]
      constructor
      · rintro ⟨bound, hbound⟩
        cases hbound
      · intro hspan
        exact absurd hspan hone
    · intro bound hbound
      rw [hresult] at hbound
      cases hbound
    · intro e he
      rw [hresult, Except.error.injEq] at he
      rw [← he]
      trivial

/-- Exact resolution is exact when every candidate names a block of the
    chapter, and otherwise ends with a `KeyError`. -/
theorem resolveExactQuote_exact (hquote : 2 ≤ (semanticSpan letters quote).length) :
    ExactResolution letters repr candidates chapter quote ↔
      ∀ c ∈ candidates, NamesBlock chapter c.blockId := by
  rw [← matches_returns]
  constructor
  · intro hexact
    cases hfound : (coveredRanges candidates).mapM (blockMatches chapter quote.toList) with
    | ok found => exact ⟨found, rfl⟩
    | error e =>
      rcases matches_error hfound with ⟨blockId, hkey⟩
      have hlong : ¬ (semanticSpan letters quote).length < 2 := by omega
      have hraised : resolveExactEvidenceQuotes letters repr candidates chapter [quote] =
          .error e := by
        rw [resolveExactEvidenceQuotes_one]
        unfold resolveExactQuote
        rw [if_neg hlong, hfound]
        rfl
      have hvalue := hexact.refuses e hraised
      rw [hkey] at hvalue
      exact absurd hvalue id
  · rintro ⟨found, hfound⟩
    exact exactResolution_of_matches hquote hfound

end Exactness

namespace Sample

def otherChapter : EvidenceCandidate :=
  blockCandidate ⟨"block.synthetic.2.1", by decide⟩ "He came back." (by decide) (by decide)

def wholeBlock : EvidenceCandidate :=
  blockCandidate ⟨"block.synthetic.1.1", .refl true⟩ "Snow fell! He left." (by decide) (by decide)

end Sample

open Sample

/-- A quote across two sentences of a block that is covered. -/
theorem snow_exact : ExactResolution plainLetters id [wholeBlock] snowChapter
    "fell! He" :=
  (resolveExactQuote_exact (by decide +kernel)).mpr fun c hc => by
    rw [mem_singleton.mp hc]
    exact ⟨snowScene, mem_cons_self, snowBlock, mem_cons_self, rfl⟩

/-- With a candidate of another chapter the lookup of its block raises, though
    the quote stands in the chapter once. -/
theorem other_chapter_raises :
    resolveExactEvidenceQuotes plainLetters id [wholeBlock, otherChapter]
      snowChapter ["He left"] = .error (.key otherChapter.blockId) ∧
    2 ≤ (semanticSpan plainLetters "He left").length ∧
    ¬ ExactResolution plainLetters id [wholeBlock, otherChapter]
      snowChapter "He left" := by
  have hraised : resolveExactEvidenceQuotes plainLetters id
      [wholeBlock, otherChapter] snowChapter ["He left"] =
        .error (.key otherChapter.blockId) := by decide +kernel
  refine ⟨hraised, by decide +kernel, fun hexact => ?_⟩
  exact absurd (hexact.refuses _ hraised) id

end NovelAgent.Evidence
