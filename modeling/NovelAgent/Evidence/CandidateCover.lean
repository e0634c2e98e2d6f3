import Mathlib.Data.List.Pairwise
import NovelAgent.Core.Outcome
import NovelAgent.Evidence.Candidates

/-!
# Catalogue Coverage

A catalogue without a bound leaves nothing out: every character of a block
that is not white space lies in one of its candidates, and the candidates are
slices of the block in the order in which they start.
-/

namespace NovelAgent.Evidence

open Core Domain World List

/-- Spans between two places, in the order of their starts, that are not empty,
    are no longer than a bound, and cover every place that counts. -/
structure Tiling (counts : Nat → Prop) (limit start stop : Nat) (spans : List Span) : Prop where
  ascending : spans.Pairwise fun s t => s.start < t.start
  inside : ∀ s ∈ spans, start ≤ s.start ∧ s.start < s.stop ∧ s.stop ≤ stop
  short : ∀ s ∈ spans, s.stop - s.start ≤ limit
  complete : ∀ place, start ≤ place → place < stop → counts place → Covered spans place

section Windows

variable {window step stop : Nat}

/-- Windows up to the end, by induction on the bound. The next window starts
    no later than this one stops. -/
theorem windowsFrom_tiling (hwindow : step ≤ window) (hstep : 1 ≤ step) (fuel : Nat) :
    ∀ pos, pos < stop → stop ≤ pos + fuel →
      Tiling (fun _ => True) window pos stop (windowsFrom window step stop fuel pos) := by
  induction fuel with
  | zero =>
    intro pos hpos hfuel
    omega
  | succ fuel ih =>
    intro pos hpos hfuel
    unfold windowsFrom
    rw [if_pos hpos]
    simp only
    by_cases hlast : stop ≤ min (pos + window) stop
    · rw [if_pos hlast]
      constructor
      · exact pairwise_singleton _ _
      · simp only [mem_singleton, forall_eq]
        omega
      · simp only [mem_singleton, forall_eq]
        omega
      · intro place hfrom hto _
        refine ⟨_, mem_singleton_self _, hfrom, ?_⟩
        simp only
        omega
    · rw [if_neg hlast]
      have hrest := ih (pos + step) (by omega) (by omega)
      constructor
      · rw [pairwise_cons]
        refine ⟨fun s hs => ?_, hrest.ascending⟩
        have := hrest.inside s hs
        simp only
        omega
      · rw [forall_mem_cons]
        refine ⟨by simp only; omega, fun s hs => ?_⟩
        have := hrest.inside s hs
        omega
      · rw [forall_mem_cons]
        exact ⟨by simp only; omega, hrest.short⟩
      · intro place hfrom hto _
        rw [covered_cons]
        by_cases hnext : pos + step ≤ place
        · exact Or.inr (hrest.complete place hnext hto trivial)
        · refine Or.inl ⟨hfrom, ?_⟩
          simp only
          omega

/-- The windows over a span. -/
theorem windowSpans_tiling (generator : EvidenceCandidateGenerator)
    (htarget : 1 ≤ generator.targetMax) {start : Nat} (hspan : start < stop) :
    Tiling (fun _ => True) generator.maxChars start stop (generator.windowSpans start stop) := by
  have hmax := generator.maxCharsPositive
  unfold EvidenceCandidateGenerator.windowSpans
  by_cases hshort : stop - start ≤ generator.maxChars
  · rw [if_pos hshort]
    constructor
    · exact pairwise_singleton _ _
    · simpa using hspan
    · simpa using hshort
    · intro place hfrom hto _
      exact ⟨_, mem_singleton_self _, hfrom, hto⟩
  · rw [if_neg hshort]
    simp only
    have htiling : Tiling (fun _ => True) (min generator.targetMax generator.maxChars) start stop
        (windowsFrom (min generator.targetMax generator.maxChars)
          (max 1 (min generator.targetMax generator.maxChars / 2)) stop (stop - start) start) :=
      windowsFrom_tiling (by omega) (by omega) (stop - start) start hspan (by omega)
    refine ⟨htiling.ascending, htiling.inside, fun s hs => ?_, htiling.complete⟩
    have := htiling.short s hs
    omega

end Windows

variable {text : List Char}

section Segments

/-- What a text is cut into stands in it. -/
theorem segment_pieces (htext : text ≠ []) : Pieces Text.isSpace text (segment text) := by
  have hsentences := sentenceSplit.split_pieces text
  have hdialogue := dialogueSplit.split_pieces text
  have hpick : ∀ parts, Pieces Text.isSpace text parts →
      Pieces Text.isSpace text (if parts = [] then [text] else parts) := by
    intro parts hparts
    by_cases hnone : parts = []
    · rw [if_pos hnone]
      exact Pieces.single htext
    · rwa [if_neg hnone]
  unfold segment
  simp only
  by_cases hfew : ((sentenceSplit.split text).filter fun part => part ≠ []).length ≤ 1
  · rw [if_pos hfew]
    exact hpick _ hdialogue
  · rw [if_neg hfew]
    exact hpick _ hsentences

theorem findFrom_gap {before gap rest part : List Char} {c : Char}
    (hgap : ∀ x ∈ gap, Text.isSpace x = true) (hstart : gap = [] ∨ Text.isSpace c = false) :
    findFrom (c :: part) (before ++ (gap ++ c :: part ++ rest)) before.length =
      some (before.length + gap.length) := by
  rw [findFrom_eq_some]
  refine ⟨?_, by omega, ?_, fun i hfrom hto => ?_⟩
  · rw [drop_append, drop_of_length_le (by omega), nil_append]
    have hdrop : before.length + gap.length - before.length = gap.length := by omega
    rw [hdrop, append_assoc, drop_left]
    exact prefix_append _ _
  · simp only [length_append]
    omega
  · -- The place lies in the gap, so the character there is white space.
    have hplace : i - before.length < gap.length := by omega
    have hc : Text.isSpace c = false := by
      refine hstart.resolve_left fun hempty => ?_
      rw [hempty] at hplace
      exact absurd hplace (Nat.not_lt_zero _)
    have hdrop : (before ++ (gap ++ c :: part ++ rest)).drop i =
        gap.drop (i - before.length) ++ (c :: part ++ rest) := by
      rw [drop_append, drop_of_length_le hfrom, nil_append, append_assoc,
        drop_append_of_le_length hplace.le]
    intro hheads
    rw [hdrop] at hheads
    cases hleft : gap.drop (i - before.length) with
    | nil =>
      rw [drop_eq_nil_iff] at hleft
      omega
    | cons x others =>
      rw [hleft, cons_append, cons_prefix_cons] at hheads
      have hx : x ∈ gap := mem_of_mem_drop (hleft ▸ mem_cons_self)
      rw [hheads.1, hgap x hx] at hc
      cases hc

/-- A place of a text whose character is not white space. -/
def Written (text : List Char) (place : Nat) : Prop :=
  ∃ c, text[place]? = some c ∧ Text.isSpace c = false

/-- Pieces are found where they stand, by induction on the pieces. What has
    been passed over already is `before`. -/
theorem locate_found {rest : List Char} {parts : List (List Char)}
    (hpieces : Pieces Text.isSpace rest parts) : ∀ before : List Char,
    (locate (before ++ rest) before.length parts).Pairwise (fun s t => s.stop ≤ t.start) ∧
      (∀ s ∈ locate (before ++ rest) before.length parts, before.length ≤ s.start ∧
        s.start < s.stop ∧ s.stop ≤ (before ++ rest).length) ∧
      ∀ place, before.length ≤ place → Written (before ++ rest) place →
        Covered (locate (before ++ rest) before.length parts) place := by
  induction hpieces with
  | @done gap hgap =>
    intro before
    unfold locate
    refine ⟨Pairwise.nil, by simp, fun place hfrom hwritten => ?_⟩
    rcases hwritten with ⟨c, hc, hspace⟩
    rw [List.getElem?_append_right hfrom] at hc
    rw [hgap c (mem_of_getElem? hc)] at hspace
    cases hspace
  | @piece gap c part rest parts hgap hstart _ ih =>
    intro before
    have hwhole : before ++ (gap ++ c :: part ++ rest) = (before ++ gap ++ c :: part) ++ rest := by
      simp
    have hcursor : before.length + gap.length + (c :: part).length =
        (before ++ gap ++ c :: part).length := by
      simp only [length_append]
    rcases ih (before ++ gap ++ c :: part) with ⟨hapart, hinside, hcovered⟩
    unfold locate
    simp only [findFrom_gap hgap hstart, Option.getD_some]
    rw [hcursor, hwhole]
    have hlength : (c :: part).length = part.length + 1 := rfl
    have htotal : (before ++ gap ++ c :: part).length =
        before.length + gap.length + (part.length + 1) := by
      simp only [length_append, hlength]
    refine ⟨pairwise_cons.mpr ⟨fun s hs => (hinside s hs).1, hapart⟩,
      forall_mem_cons.mpr ⟨⟨?_, ?_, ?_⟩, fun s hs => ?_⟩, fun place hfrom hwritten => ?_⟩
    · simp only
      omega
    · simp only
      omega
    · simp only [length_append]
      omega
    · have := hinside s hs
      omega
    · rw [covered_cons]
      by_cases hbehind : (before ++ gap ++ c :: part).length ≤ place
      · exact Or.inr (hcovered place hbehind hwritten)
      · -- The place lies in the gap or in the piece, and the gap is white space.
        refine Or.inl ⟨?_, by simp only; omega⟩
        by_contra hgapped
        simp only at hgapped
        rcases hwritten with ⟨x, hx, hspace⟩
        rw [append_assoc, append_assoc, List.getElem?_append_right hfrom,
          List.getElem?_append_left (by omega)] at hx
        rw [hgap x (mem_of_getElem? hx)] at hspace
        cases hspace

end Segments

variable {blockId : StableId} {chapterIndex sceneIndex : Nat}

section Blocks

variable (generator : EvidenceCandidateGenerator)

/-- The spans of a text cover what is not white space. A window that is left
    out has nothing else in it. -/
theorem blockSpans_tiling (htarget : 1 ≤ generator.targetMax) (htext : text ≠ []) :
    Tiling (Written text) generator.maxChars 0 text.length (generator.blockSpans text) := by
  have hfound := locate_found (segment_pieces htext) []
  simp only [nil_append, length_nil, Nat.zero_le, true_and, forall_const] at hfound
  rcases hfound with ⟨hapart, hinside, hcovered⟩
  have hwindows : ∀ s ∈ locate text 0 (segment text),
      Tiling (fun _ => True) generator.maxChars s.start s.stop
        (generator.windowSpans s.start s.stop) :=
    fun s hs => windowSpans_tiling generator htarget (hinside s hs).1
  unfold EvidenceCandidateGenerator.blockSpans
  constructor
  · refine Pairwise.filter _ ?_
    rw [pairwise_flatMap]
    refine ⟨fun s hs => (hwindows s hs).ascending, hapart.imp_of_mem ?_⟩
    intro s t hs ht hbehind u hu v hv
    have hleft := (hwindows s hs).inside u hu
    have hright := (hwindows t ht).inside v hv
    omega
  · intro u hu
    rw [mem_filter, mem_flatMap] at hu
    rcases hu.1 with ⟨s, hs, hus⟩
    have hsegment := hinside s hs
    have hwindow := (hwindows s hs).inside u hus
    omega
  · intro u hu
    rw [mem_filter, mem_flatMap] at hu
    rcases hu.1 with ⟨s, hs, hus⟩
    exact (hwindows s hs).short u hus
  · intro place _ _ hwritten
    rcases hcovered place hwritten with ⟨s, hs, hfrom, hto⟩
    rcases (hwindows s hs).complete place hfrom hto trivial with ⟨u, hu, hufrom, huto⟩
    refine ⟨u, mem_filter.mpr ⟨mem_flatMap.mpr ⟨s, hs, hu⟩, ?_⟩, hufrom, huto⟩
    rcases hwritten with ⟨c, hc, hspace⟩
    have hmem : c ∈ slice text u.start u.stop := by
      refine mem_iff_getElem?.mpr ⟨place - u.start, ?_⟩
      unfold slice
      rw [List.getElem?_take_of_lt (by omega), List.getElem?_drop]
      have hplace : u.start + (place - u.start) = place := by omega
      rw [hplace, hc]
    rw [decide_eq_true_iff, all_eq_true]
    intro hall
    rw [hall c hmem] at hspace
    cases hspace

/-- Candidates that are slices of a block in the order of their starts, are no
    longer than a bound, and leave out white space only. -/
structure CoversBlock (block : TextBlock) (limit : Nat) (candidates : List EvidenceCandidate) :
    Prop where
  ascending : candidates.Pairwise fun a b => a.start < b.start
  exact_text : ∀ c ∈ candidates, c.stop ≤ block.text.toList.length ∧
    c.text.toList = slice block.text.toList c.start c.stop
  short : ∀ c ∈ candidates, c.text.toList.length ≤ limit
  complete : ∀ place, Written block.text.toList place →
    ∃ c ∈ candidates, c.start ≤ place ∧ place < c.stop

/-- What a catalogue says of its candidates: their addresses, and the place of their block. -/
structure Catalogued (blockId : StableId) (chapterIndex sceneIndex : Nat)
    (candidate : EvidenceCandidate) : Prop where
  blockId_eq : candidate.blockId = blockId
  chapterIndex_eq : candidate.chapterIndex = chapterIndex
  sceneIndex_eq : candidate.sceneIndex = sceneIndex
  addressed : candidate.Addressed

theorem make_spans {spans : List Span} (hchapter : 1 ≤ chapterIndex)
    (hspans : ∀ s ∈ spans, s.start < s.stop ∧ s.stop ≤ text.length) :
    ∃ candidates, spans.mapM (fun s => makeCandidate blockId chapterIndex sceneIndex
        (String.ofList (slice text s.start s.stop)) s.start s.stop) = .ok candidates ∧
      candidates.map EvidenceCandidate.span = spans ∧
      ∀ c ∈ candidates, Catalogued blockId chapterIndex sceneIndex c ∧
        c.text.toList = slice text c.start c.stop := by
  induction spans with
  | nil => exact ⟨[], rfl, rfl, by simp⟩
  | cons s spans ih =>
    rw [forall_mem_cons] at hspans
    rcases ih hspans.2 with ⟨candidates, hcandidates, hsame, hmade⟩
    have hlength : (slice text s.start s.stop).length = s.stop - s.start :=
      slice_length hspans.1.2
    have htext : String.ofList (slice text s.start s.stop) ≠ "" := by
      intro hempty
      have hnil := congrArg String.toList hempty
      rw [String.toList_ofList] at hnil
      rw [hnil] at hlength
      have hproper := hspans.1.1
      simp only [String.toList_empty, length_nil] at hlength
      omega
    have hfirst : ∃ c, makeCandidate blockId chapterIndex sceneIndex
        (String.ofList (slice text s.start s.stop)) s.start s.stop = .ok c :=
      makeCandidate_returns hchapter htext hspans.1.1
    rcases hfirst with ⟨c, hc⟩
    rcases makeCandidate_fields hc with
      ⟨hblock, hchapterIndex, hscene, hwritten, hstart, hstop, haddressed⟩
    refine ⟨c :: candidates, ?_, ?_, forall_mem_cons.mpr ⟨⟨?_, ?_⟩, hmade⟩⟩
    · rw [mapM_cons, hc, hcandidates]
      rfl
    · rw [map_cons, hsame]
      unfold EvidenceCandidate.span
      rw [hstart, hstop]
    · exact ⟨hblock, hchapterIndex, hscene, haddressed⟩
    · rw [hwritten, hstart, hstop, String.toList_ofList]

/-- The candidates of a block cover it. -/
theorem blockCandidates_cover (htarget : 1 ≤ generator.targetMax) (block : TextBlock)
    {chapterIndex : Nat} (sceneIndex : Nat) (hchapter : 1 ≤ chapterIndex) :
    ∃ candidates, generator.blockCandidates block.blockId chapterIndex sceneIndex block.text =
        .ok candidates ∧ CoversBlock block generator.maxChars candidates ∧
      ∀ c ∈ candidates, Catalogued block.blockId chapterIndex sceneIndex c := by
  unfold EvidenceCandidateGenerator.blockCandidates
  by_cases htext : block.text.toList = []
  · refine ⟨[], by simp only [htext, if_pos], ?_, by simp⟩
    refine ⟨Pairwise.nil, by simp, by simp, fun place hwritten => ?_⟩
    rcases hwritten with ⟨c, hc, _⟩
    rw [htext] at hc
    cases hc
  · have htiling := blockSpans_tiling generator htarget htext
    have hproper : ∀ s ∈ generator.blockSpans block.text.toList,
        s.start < s.stop ∧ s.stop ≤ block.text.toList.length :=
      fun s hs => (htiling.inside s hs).2
    have hmade : ∃ candidates, (generator.blockSpans block.text.toList).mapM (fun s =>
        makeCandidate block.blockId chapterIndex sceneIndex
          (String.ofList (slice block.text.toList s.start s.stop)) s.start s.stop) =
            .ok candidates ∧
        candidates.map EvidenceCandidate.span = generator.blockSpans block.text.toList ∧
        ∀ c ∈ candidates, Catalogued block.blockId chapterIndex sceneIndex c ∧
          c.text.toList = slice block.text.toList c.start c.stop :=
      make_spans hchapter hproper
    rcases hmade with ⟨candidates, hcandidates, hsame, hmade⟩
    have hmem : ∀ c ∈ candidates, c.span ∈ generator.blockSpans block.text.toList := by
      intro c hc
      rw [← hsame]
      exact mem_map_of_mem hc
    have hcovers : CoversBlock block generator.maxChars candidates := by
      constructor
      · have hascending := htiling.ascending
        rw [← hsame, pairwise_map] at hascending
        exact hascending
      · exact fun c hc => ⟨(hproper _ (hmem c hc)).2, (hmade c hc).2⟩
      · intro c hc
        have hlength : (slice block.text.toList c.start c.stop).length = c.stop - c.start :=
          slice_length (hproper _ (hmem c hc)).2
        rw [(hmade c hc).2, hlength]
        exact htiling.short _ (hmem c hc)
      · intro place hwritten
        have hplace : place < block.text.toList.length := by
          rcases hwritten with ⟨x, hx, _⟩
          exact (List.getElem?_eq_some_iff.mp hx).1
        rcases htiling.complete place (Nat.zero_le _) hplace hwritten with ⟨s, hs, hfrom, hto⟩
        rw [← hsame, mem_map] at hs
        rcases hs with ⟨c, hc, hcs⟩
        rw [← hcs] at hfrom hto
        exact ⟨c, hc, hfrom, hto⟩
    refine ⟨candidates, ?_, hcovers, fun c hc => (hmade c hc).1⟩
    -- The second attempt is for a block without candidates that is not blank.
    have hnone : ¬ (candidates = [] ∧ ¬ block.text.toList.all Text.isSpace = true) := by
      rintro ⟨hempty, hwritten⟩
      apply hwritten
      rw [all_eq_true]
      intro x hx
      by_contra hspace
      rcases List.getElem?_of_mem hx with ⟨place, hplace⟩
      rcases hcovers.complete place ⟨x, hplace, by simpa using hspace⟩ with ⟨c, hc, _⟩
      rw [hempty] at hc
      cases hc
    simp only [if_neg htext, hcandidates]
    simp only [bind, Except.bind, if_neg hnone]
    rfl

end Blocks

variable {chapter : ChapterDocument} {blocks : List (Nat × TextBlock)}

section Chapters

variable (generator : EvidenceCandidateGenerator)

theorem numberedBlocks_blocks (scenes : List SceneDocument) :
    (numberedBlocks scenes).map Prod.snd = scenes.flatMap SceneDocument.blocks := by
  have hpositions : ∀ start : Nat, ((scenes.zipIdx start).flatMap fun scene =>
      scene.1.blocks.map fun block => (scene.2, block)).map Prod.snd =
        scenes.flatMap SceneDocument.blocks := by
    induction scenes with
    | nil => simp
    | cons scene scenes ih =>
      intro start
      rw [zipIdx_cons, flatMap_cons, flatMap_cons, map_append, ih]
      simp [Function.comp_def]
  exact hpositions 0

variable (root : TextRootDocument)

theorem chapter_blocks_nodup (hchapter : chapter ∈ root.chapters) :
    ((chapter.scenes.flatMap SceneDocument.blocks).map TextBlock.blockId).Nodup := by
  have hvalid := root.valid
  unfold textValid at hvalid
  rw [Bool.and_eq_true, decide_eq_true_iff, decide_eq_true_iff] at hvalid
  refine hvalid.2.sublist (List.Sublist.map _ ?_)
  have hscenes : List.Sublist chapter.scenes (root.chapters.flatMap ChapterDocument.scenes) :=
    sublist_flatten_of_mem (mem_map_of_mem hchapter)
  exact List.Sublist.flatMap (hscenes.trans (sublist_append_right _ _)) _

theorem chapterAt_chapter (hchapter : chapter ∈ root.chapters) :
    chapterAt root chapter.chapterIndex = .ok chapter := by
  have hvalid := root.valid
  unfold textValid at hvalid
  rw [Bool.and_eq_true, decide_eq_true_iff, decide_eq_true_iff] at hvalid
  have hnodup : (root.chapters.map ChapterDocument.chapterIndex).Nodup :=
    hvalid.1.imp fun h => Nat.ne_of_lt h
  unfold chapterAt
  cases hfind : root.chapters.find? fun item => item.chapterIndex = chapter.chapterIndex with
  | none =>
    have hnot := List.find?_eq_none.mp hfind chapter hchapter
    exact absurd (decide_eq_true rfl) hnot
  | some found =>
    have hindex : found.chapterIndex = chapter.chapterIndex := by
      simpa using List.find?_some hfind
    have hsame : found = chapter :=
      inj_on_of_nodup_map hnodup (mem_of_find?_eq_some hfind) hchapter hindex
    rw [hsame]

/-- Without a bound the catalogue is made of the candidates of the blocks, if
    every block has its candidates. -/
theorem collect_unbounded (hcap : generator.maxChapter = none) (chapterIndex : Nat)
    (group : Nat × TextBlock → List EvidenceCandidate) (blocks : List (Nat × TextBlock))
    (hgroup : ∀ entry ∈ blocks, generator.blockCandidates entry.2.blockId chapterIndex entry.1
      entry.2.text = .ok (group entry)) : ∀ candidates,
    generator.collect chapterIndex candidates blocks = .ok (candidates ++ blocks.flatMap group) := by
  induction blocks with
  | nil =>
    intro candidates
    unfold EvidenceCandidateGenerator.collect
    rw [flatMap_nil, append_nil]
  | cons entry blocks ih =>
    intro candidates
    rw [forall_mem_cons] at hgroup
    unfold EvidenceCandidateGenerator.collect
    simp only [hgroup.1, bind, Except.bind, hcap]
    rw [ih hgroup.2 (candidates ++ group entry), flatMap_cons, append_assoc]

/-- The candidates under the identity of a block are those of the block, if the
    blocks have different identities. -/
theorem filter_group {group : Nat × TextBlock → List EvidenceCandidate}
    (hgroup : ∀ entry ∈ blocks, ∀ c ∈ group entry, c.blockId = entry.2.blockId)
    (hnodup : (blocks.map fun entry => entry.2.blockId).Nodup) :
    ∀ entry ∈ blocks,
      ((blocks.flatMap group).filter fun c => c.blockId = entry.2.blockId) = group entry := by
  induction blocks with
  | nil => simp
  | cons first blocks ih =>
    intro entry hentry
    rw [forall_mem_cons] at hgroup
    rw [map_cons, nodup_cons] at hnodup
    have hdistinct : ∀ other ∈ blocks, other.2.blockId ≠ first.2.blockId := by
      intro other hother hsame
      exact hnodup.1 (mem_map.mpr ⟨other, hother, hsame⟩)
    rw [flatMap_cons, filter_append]
    rcases mem_cons.mp hentry with hfirst | hrest
    · have hnone : (blocks.flatMap group).filter (fun c => c.blockId = entry.2.blockId) = [] := by
        rw [filter_eq_nil_iff]
        intro c hc
        rcases mem_flatMap.mp hc with ⟨other, hother, hcother⟩
        rw [hgroup.2 other hother c hcother, hfirst]
        simpa using hdistinct other hother
      have hall : (group first).filter (fun c => c.blockId = entry.2.blockId) = group first := by
        rw [filter_eq_self, hfirst]
        simpa using hgroup.1
      rw [hall, hnone, append_nil, hfirst]
    · have hnone : (group first).filter (fun c => c.blockId = entry.2.blockId) = [] := by
        rw [filter_eq_nil_iff]
        intro c hc
        rw [hgroup.1 c hc]
        simpa using (hdistinct entry hrest).symm
      rw [hnone, nil_append]
      exact ih hgroup.2 hnodup.2 entry hrest

/-- The catalogue of a chapter without a bound covers every block of it. -/
theorem generate_covers (htarget : 1 ≤ generator.targetMax) (hcap : generator.maxChapter = none)
    (root : TextRootDocument) {chapter : ChapterDocument} (hchapter : chapter ∈ root.chapters) :
    ∃ candidates, generator.generate root chapter.chapterIndex = .ok candidates ∧
      ∀ scene ∈ chapter.scenes, ∀ block ∈ scene.blocks,
        CoversBlock block generator.maxChars
          (candidates.filter fun c => c.blockId = block.blockId) := by
  have hblocks : ∀ entry : Nat × TextBlock, ∃ candidates,
      generator.blockCandidates entry.2.blockId chapter.chapterIndex entry.1 entry.2.text =
        .ok candidates ∧ CoversBlock entry.2 generator.maxChars candidates ∧
      ∀ c ∈ candidates, Catalogued entry.2.blockId chapter.chapterIndex entry.1 c :=
    fun entry => blockCandidates_cover generator htarget entry.2 entry.1 chapter.positive
  choose group hgroup hcovers hcatalogued using hblocks
  have hnodup : ((numberedBlocks chapter.scenes).map fun entry => entry.2.blockId).Nodup := by
    have hblockIds := chapter_blocks_nodup root hchapter
    rwa [← numberedBlocks_blocks, map_map] at hblockIds
  refine ⟨(numberedBlocks chapter.scenes).flatMap group, ?_, fun scene hscene block hblock => ?_⟩
  · unfold EvidenceCandidateGenerator.generate
    rw [chapterAt_chapter root hchapter]
    simp only [bind, Except.bind]
    exact collect_unbounded generator hcap chapter.chapterIndex group _
      (fun entry _ => hgroup entry) []
  · have hmem : block ∈ (numberedBlocks chapter.scenes).map Prod.snd := by
      rw [numberedBlocks_blocks]
      exact mem_flatMap.mpr ⟨scene, hscene, hblock⟩
    rcases mem_map.mp hmem with ⟨entry, hentry, hsame⟩
    have hfilter := filter_group (fun entry _ c hc => (hcatalogued entry c hc).blockId_eq)
      hnodup entry hentry
    rw [← hsame, hfilter]
    exact hcovers entry

end Chapters

namespace Sample

def generator : EvidenceCandidateGenerator where
  maxChars := 240
  targetMax := 160
  maxChapter := none
  maxCharsPositive := by decide
  maxChapterPositive := by simp

def snowBlock : TextBlock where
  blockId := ⟨"block.synthetic.1.1", .refl true⟩
  chapterId := ⟨"chapter.synthetic.1", by decide⟩
  sceneId := some ⟨"scene.synthetic.1.1", by decide⟩
  narrativeIndex := 1
  text := "Snow fell! He left."

def snowScene : SceneDocument where
  sceneId := ⟨"scene.synthetic.1.1", by decide⟩
  sceneIndex := 1
  title := none
  blocks := [snowBlock]
  valid := by decide

def snowChapter : ChapterDocument where
  chapterId := ⟨"chapter.synthetic.1", by decide⟩
  chapterIndex := 1
  title := none
  scenes := [snowScene]
  positive := Nat.one_pos
  valid := by decide

def snowRoot : TextRootDocument where
  rootHash := digest ""
  schemaVersion := ⟨"1.0.0", .refl true⟩
  prelude := none
  chapters := [snowChapter]
  valid := by decide

end Sample

open Sample

/-- The catalogue of a chapter of two sentences, under the default bounds. -/
theorem generate_covers_snow : ∃ candidates,
    generator.generate snowRoot 1 = .ok candidates ∧
      ∀ scene ∈ snowChapter.scenes, ∀ block ∈ scene.blocks,
        CoversBlock block 240 (candidates.filter fun c => c.blockId = block.blockId) :=
  generate_covers generator (by decide) rfl snowRoot mem_cons_self

section Members

variable {generator : EvidenceCandidateGenerator}

theorem windowsFrom_stop {window step stop : Nat} (fuel : Nat) : ∀ pos,
    ∀ s ∈ windowsFrom window step stop fuel pos, s.stop ≤ stop := by
  induction fuel with
  | zero => simp [windowsFrom]
  | succ fuel ih =>
    intro pos
    unfold windowsFrom
    by_cases hpos : pos < stop
    · rw [if_pos hpos]
      simp only [forall_mem_cons]
      refine ⟨by omega, ?_⟩
      by_cases hlast : stop ≤ min (pos + window) stop
      · rw [if_pos hlast]
        simp
      · rw [if_neg hlast]
        exact ih (pos + step)
    · simp [if_neg hpos]

theorem windowSpans_stop {start stop : Nat} :
    ∀ s ∈ generator.windowSpans start stop, s.stop ≤ stop := by
  unfold EvidenceCandidateGenerator.windowSpans
  by_cases hshort : stop - start ≤ generator.maxChars
  · rw [if_pos hshort]
    simp
  · rw [if_neg hshort]
    exact windowsFrom_stop _ _

variable {candidates : List EvidenceCandidate}

theorem blockCandidates_mem {text : String}
    (h : generator.blockCandidates blockId chapterIndex sceneIndex text = .ok candidates) :
    ∀ c ∈ candidates, Catalogued blockId chapterIndex sceneIndex c ∧
      c.stop ≤ text.toList.length ∧ c.text.toList = slice text.toList c.start c.stop := by
  have hmade : ∀ (spans : List Span) (found : List EvidenceCandidate),
      (∀ s ∈ spans, s.stop ≤ text.toList.length) →
      spans.mapM (fun s => makeCandidate blockId chapterIndex sceneIndex
        (String.ofList (slice text.toList s.start s.stop)) s.start s.stop) = .ok found →
      ∀ c ∈ found, Catalogued blockId chapterIndex sceneIndex c ∧
        c.stop ≤ text.toList.length ∧ c.text.toList = slice text.toList c.start c.stop := by
    intro spans found hspans hfound c hc
    rcases (Outcome.mapM_mem hfound c).mp hc with ⟨s, hs, hsc⟩
    rcases makeCandidate_fields hsc with
      ⟨hblock, hchapter, hscene, hwritten, hstart, hstop, haddressed⟩
    refine ⟨⟨hblock, hchapter, hscene, haddressed⟩, ?_, ?_⟩
    · rw [hstop]
      exact hspans s hs
    · rw [hwritten, hstart, hstop, String.toList_ofList]
  unfold EvidenceCandidateGenerator.blockCandidates at h
  by_cases htext : text.toList = []
  · simp only [htext, if_pos, Except.ok.injEq] at h
    simp [← h]
  · simp only [if_neg htext, Outcome.bind_eq_ok] at h
    rcases h with ⟨found, hfound, h⟩
    by_cases hnone : found = [] ∧ ¬ text.toList.all Text.isSpace = true
    · rw [if_pos hnone] at h
      exact hmade _ candidates windowSpans_stop h
    · rw [if_neg hnone, Outcome.pure_eq_ok] at h
      rw [← h]
      refine hmade _ found (fun s hs => ?_) hfound
      unfold EvidenceCandidateGenerator.blockSpans at hs
      rw [mem_filter, mem_flatMap] at hs
      rcases hs.1 with ⟨located, hlocated, hwindow⟩
      have hfound := locate_found (segment_pieces htext) []
      simp only [nil_append, length_nil] at hfound
      have hstop := (hfound.2.1 located hlocated).2.2
      exact (windowSpans_stop s hwindow).trans hstop

/-- A candidate of a catalogue comes from a block of it. -/
theorem collect_mem {chapterIndex : Nat} :
    ∀ {candidates found : List EvidenceCandidate},
    generator.collect chapterIndex candidates blocks = .ok found → ∀ c ∈ found,
      c ∈ candidates ∨ ∃ entry ∈ blocks, ∃ group, generator.blockCandidates entry.2.blockId
        chapterIndex entry.1 entry.2.text = .ok group ∧ c ∈ group := by
  induction blocks with
  | nil =>
    intro candidates found h c hc
    unfold EvidenceCandidateGenerator.collect at h
    rw [← Except.ok.inj h] at hc
    exact Or.inl hc
  | cons entry blocks ih =>
    intro candidates found h c hc
    unfold EvidenceCandidateGenerator.collect at h
    rw [Outcome.bind_eq_ok] at h
    rcases h with ⟨group, hgroup, h⟩
    have hhere : c ∈ candidates ++ group → c ∈ candidates ∨ ∃ e ∈ entry :: blocks, ∃ g,
        generator.blockCandidates e.2.blockId chapterIndex e.1 e.2.text = .ok g ∧ c ∈ g := by
      intro hmem
      rcases mem_append.mp hmem with hold | hnew
      · exact Or.inl hold
      · exact Or.inr ⟨entry, mem_cons_self, group, hgroup, hnew⟩
    have hlater : generator.collect chapterIndex (candidates ++ group) blocks = .ok found →
        c ∈ candidates ∨ ∃ e ∈ entry :: blocks, ∃ g,
        generator.blockCandidates e.2.blockId chapterIndex e.1 e.2.text = .ok g ∧ c ∈ g := by
      intro hrest
      rcases ih hrest c hc with hmem | ⟨e, he, hfound⟩
      · exact hhere hmem
      · exact Or.inr ⟨e, mem_cons_of_mem _ he, hfound⟩
    simp only at h
    cases hcap : generator.maxChapter with
    | none =>
      simp only [hcap] at h
      exact hlater h
    | some cap =>
      simp only [hcap] at h
      by_cases hfull : cap ≤ (candidates ++ group).length
      · rw [if_pos hfull, Outcome.pure_eq_ok] at h
        rw [← h] at hc
        exact hhere (mem_of_mem_take hc)
      · rw [if_neg hfull] at h
        exact hlater h

theorem numberedBlocks_mem {scenes : List SceneDocument} {entry : Nat × TextBlock} :
    entry ∈ numberedBlocks scenes ↔
      ∃ scene, scenes[entry.1]? = some scene ∧ entry.2 ∈ scene.blocks := by
  unfold numberedBlocks
  rw [mem_flatMap]
  constructor
  · rintro ⟨⟨scene, position⟩, hscene, hentry⟩
    rcases mem_map.mp hentry with ⟨block, hblock, hsame⟩
    rw [← hsame]
    exact ⟨scene, mem_zipIdx_iff_getElem?.mp hscene, hblock⟩
  · rintro ⟨scene, hscene, hblock⟩
    refine ⟨(scene, entry.1), mem_zipIdx_iff_getElem?.mpr hscene, ?_⟩
    exact mem_map.mpr ⟨entry.2, hblock, rfl⟩

/-- A candidate of a chapter is a slice of one of its blocks, and bears the
    position of the scene of that block. -/
theorem generate_mem {root : TextRootDocument} (hchapter : chapter ∈ root.chapters)
    (h : generator.generate root chapter.chapterIndex = .ok candidates) :
    ∀ c ∈ candidates, ∃ scene block, chapter.scenes[c.sceneIndex]? = some scene ∧
      block ∈ scene.blocks ∧ Catalogued block.blockId chapter.chapterIndex c.sceneIndex c ∧
      c.stop ≤ block.text.toList.length ∧
      c.text.toList = slice block.text.toList c.start c.stop := by
  unfold EvidenceCandidateGenerator.generate at h
  rw [chapterAt_chapter root hchapter] at h
  simp only [bind, Except.bind] at h
  intro c hc
  rcases collect_mem h c hc with hnone | ⟨entry, hentry, group, hgroup, hcgroup⟩
  · cases hnone
  · rcases numberedBlocks_mem.mp hentry with ⟨scene, hscene, hblock⟩
    rcases blockCandidates_mem hgroup c hcgroup with ⟨hcatalogued, hslice⟩
    have hposition : c.sceneIndex = entry.1 := hcatalogued.sceneIndex_eq
    rw [← hposition] at hscene hcatalogued
    exact ⟨scene, entry.2, hscene, hblock, hcatalogued, hslice⟩

end Members

end NovelAgent.Evidence
