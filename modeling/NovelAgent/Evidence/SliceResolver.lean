import NovelAgent.Core.Outcome
import NovelAgent.Evidence.Selections
import NovelAgent.Evidence.SentenceWindow

/-!
# Slices of Evidence

What a writer is shown of a block for a reference into it.
-/

namespace NovelAgent.Evidence

open Core Domain World

/-- What a slice is cut as. -/
inductive EvidenceSliceKind
  | paragraph
  | sentenceWindow

/-- What its text is. -/
inductive EvidenceSliceSourceRole
  | narrative
  | heading
  | unknown
deriving DecidableEq

/-- A slice with where it comes from. -/
structure ResolvedSlice extends EvidenceSlice where
  sliceKind : EvidenceSliceKind
  sourceRole : EvidenceSliceSourceRole

/-- Why no slice was made. -/
inductive SliceError
  | resolution (message : String)
  | validation (message : String)

/-- The limits of what is shown. -/
structure EvidenceSliceResolver where
  paragraphCharLimit : Nat
  sentenceWindowCharLimit : Nat
  paragraph_pos : 1 ≤ paragraphCharLimit
  sentenceWindow_pos : 1 ≤ sentenceWindowCharLimit
  ordered : sentenceWindowCharLimit ≤ paragraphCharLimit

/-- `DEFAULT_PARAGRAPH_CHAR_LIMIT` and `DEFAULT_SENTENCE_WINDOW_CHAR_LIMIT` -/
def EvidenceSliceResolver.default : EvidenceSliceResolver where
  paragraphCharLimit := 2400
  sentenceWindowCharLimit := 1800
  paragraph_pos := by decide
  sentenceWindow_pos := by decide
  ordered := by decide

/-- A budget, or the limit if there is none. A budget of zero is none. -/
def budgetOr (budget : Option Int) (limit : Nat) : Int :=
  match budget with
  | none => limit
  | some budget => if budget = 0 then limit else budget

section Paragraphs

/-- `_paragraphs` -/
def paragraphs (text : List Char) : List Span := trimmed text (lineSpans text)

/-- The two spans have a place in common, where an empty one lies strictly inside. -/
def Meets (span paragraph : Span) : Prop :=
  span.start < paragraph.stop ∧ paragraph.start < span.stop

instance (span paragraph : Span) : Decidable (Meets span paragraph) := by
  unfold Meets
  infer_instance

/-- `_covering_paragraph` -/
def coveringParagraph (text : List Char) (span : Span) : Option Span :=
  (paragraphs text).find? fun paragraph => Meets span paragraph

theorem paragraphs_inOrder (text : List Char) : InOrder 0 text.length (paragraphs text) :=
  (lineSpans_inOrder text).trimmed text

theorem overlaps_unique {text : List Char} {span paragraph other : Span}
    (hparagraph : paragraph ∈ paragraphs text) (hother : other ∈ paragraphs text)
    (hwithin : span.within paragraph) (hoverlaps : Meets span other) : other = paragraph := by
  by_contra hne
  have hsymm : Std.Symm fun s t : Span => s.stop ≤ t.start ∨ t.stop ≤ s.start :=
    ⟨fun _ _ => Or.symm⟩
  have happart := ((paragraphs_inOrder text).apart.imp
    fun {s t} (h : s.stop ≤ t.start) => (Or.inl h : s.stop ≤ t.start ∨ t.stop ≤ s.start)).forall
      hother hparagraph hne
  have hstart := hwithin.1
  have hstop := hwithin.2
  rcases hoverlaps with ⟨hbefore, hafter⟩
  rcases happart with happart | happart
  · omega
  · omega

end Paragraphs

/-- What a request says of a slice besides its place. -/
structure SliceBasis where
  sourceCommit : CommitId
  snapshotId : StableId
  accessScope : String
  sourceRole : EvidenceSliceSourceRole

/-- `_verify_evidence` -/
def verifyEvidence (evidence : EvidenceRef) (block : TextBlock) : Except SliceError Unit :=
  match evidence.span with
  | none => .error (.resolution "evidence has no precise span")
  | some span =>
    if evidence.chapterId ≠ some block.chapterId then
      .error (.resolution "evidence chapter does not match its block")
    else if evidence.sceneId ≠ none ∧ block.sceneId ≠ none ∧ evidence.sceneId ≠ block.sceneId then
      .error (.resolution "evidence scene does not match its block")
    else if block.text.toList.length < span.stop then
      .error (.resolution "evidence span exceeds the parent block")
    else if evidence.objectHash ≠ digest block.text then
      .error (.resolution "evidence object hash does not match the parent block")
    else if evidence.quoteHash ≠ none ∧ evidence.quoteHash ≠ some (digest (block.quote span)) then
      .error (.resolution "evidence quote hash does not round-trip")
    else .ok ()

def sliceIdentity (block : TextBlock) (span : Span) (text : String) : String :=
  block.blockId.root ++ "\x00" ++ toString span.start ++ "\x00" ++ toString span.stop ++ "\x00" ++
    (digest text).root

/-- `_slice` -/
def makeSlice (block : TextBlock) (span : Span) (text : String) (sliceKind : EvidenceSliceKind)
    (basis : SliceBasis) : Except SliceError ResolvedSlice :=
  if text.toList ≠ slice block.text.toList span.start span.stop then
    .error (.resolution "slice text does not round-trip to its parent block")
  else if h : text ≠ "" ∧ basis.accessScope ≠ "" ∧ span.start ≤ span.stop then
    .ok {
      sliceId := {
        root := "slice." ++ (HexToken.ofDigest 32 (by decide) (sliceIdentity block span text)).text
        valid := isStableId_append_token "slice." _ (by decide) (by decide) }
      parentBlockId := block.blockId
      chapterId := block.chapterId
      sceneId := block.sceneId
      start := span.start
      stop := span.stop
      text := text
      objectHash := digest block.text
      quoteHash := digest text
      sourceCommit := basis.sourceCommit
      snapshotId := basis.snapshotId
      accessScope := basis.accessScope
      text_ne := h.1
      scope_ne := h.2.1
      ordered := h.2.2
      sliceKind := sliceKind
      sourceRole := basis.sourceRole }
  else .error (.validation "EvidenceSlice")

namespace EvidenceSliceResolver

variable (resolver : EvidenceSliceResolver)

/-- What is shown of a paragraph: all of it, or a window of its sentences. -/
def resolveParagraph (block : TextBlock) (paragraph : Span)
    (paragraphBudget sentenceWindowBudget : Option Int) (basis : SliceBasis) :
    Except SliceError ResolvedSlice :=
  let text := slice block.text.toList paragraph.start paragraph.stop
  if (text.length : Int) ≤ budgetOr paragraphBudget resolver.paragraphCharLimit then
    makeSlice block paragraph (String.ofList text) .paragraph basis
  else
    match sentenceWindow block.text.toList paragraph.start paragraph.stop
      (budgetOr sentenceWindowBudget resolver.sentenceWindowCharLimit) with
    | none => .error (.resolution "evidence paragraph exceeds the sentence window budget")
    | some (window, windowText) =>
      makeSlice block window (String.ofList windowText) .sentenceWindow basis

/-- `resolve_evidence` -/
def resolveEvidence (evidence : EvidenceRef) (block : TextBlock) (basis : SliceBasis)
    (allowHeadingEvidence : Bool) (paragraphBudget sentenceWindowBudget : Option Int) :
    Except SliceError (List ResolvedSlice) :=
  if !allowHeadingEvidence && basis.sourceRole = .heading then .ok []
  else do
    verifyEvidence evidence block
    match evidence.span with
    | none => throw (.resolution "evidence has no precise span")
    | some span =>
      match coveringParagraph block.text.toList ⟨span.start, span.stop⟩ with
      | none => throw (.resolution "evidence span is outside the parent block")
      | some paragraph => do
          let resolved ← resolver.resolveParagraph block paragraph paragraphBudget
            sentenceWindowBudget basis
          pure [resolved]

/-- A span lies in what is shown of a paragraph: it lies in the paragraph, and if
    that is too long, between two sentences that its window reaches. -/
def Shown (text : List Char) (paragraphBudget sentenceWindowBudget : Option Int)
    (span paragraph : Span) : Prop :=
  span.within paragraph ∧
    ((spanLength paragraph : Int) ≤ budgetOr paragraphBudget resolver.paragraphCharLimit ∨
      ((∃ s, Reached (paragraphSentences text paragraph.start paragraph.stop)
          (budgetOr sentenceWindowBudget resolver.sentenceWindowCharLimit) s ∧
          s.start ≤ span.start) ∧
        ∃ s, Reached (paragraphSentences text paragraph.start paragraph.stop)
          (budgetOr sentenceWindowBudget resolver.sentenceWindowCharLimit) s ∧
          span.stop ≤ s.stop))

variable {resolver : EvidenceSliceResolver} {block : TextBlock} {paragraph : Span}
  {paragraphBudget sentenceWindowBudget : Option Int} {basis : SliceBasis} {resolved : ResolvedSlice}

variable {span : Span} {text : String}

theorem makeSlice_eq_ok {sliceKind : EvidenceSliceKind}
    (h : makeSlice block span text sliceKind basis = .ok resolved) :
    resolved.start = span.start ∧ resolved.stop = span.stop ∧ resolved.text = text ∧
      text.toList = slice block.text.toList span.start span.stop := by
  unfold makeSlice at h
  split_ifs at h with htext hvalid
  rw [Except.ok.injEq] at h
  rw [← h]
  exact ⟨rfl, rfl, rfl, not_not.mp htext⟩

theorem makeSlice_returns (sliceKind : EvidenceSliceKind)
    (htext : text.toList = slice block.text.toList span.start span.stop) (hne : text ≠ "")
    (hscope : basis.accessScope ≠ "") (hordered : span.start ≤ span.stop) :
    ∃ resolved, makeSlice block span text sliceKind basis = .ok resolved := by
  unfold makeSlice
  rw [if_neg (not_not.mpr htext), dif_pos ⟨hne, hscope, hordered⟩]
  exact ⟨_, rfl⟩

/-- What is shown of a paragraph is the text at its place and lies in the paragraph,
    and when it contains a span. -/
theorem resolveParagraph_spec (hmem : paragraph ∈ paragraphs block.text.toList)
    (h : resolver.resolveParagraph block paragraph paragraphBudget sentenceWindowBudget basis =
      .ok resolved) :
    resolved.text.toList = slice block.text.toList resolved.start resolved.stop ∧
      (⟨resolved.start, resolved.stop⟩ : Span).within paragraph ∧
      ∀ span : Span, span.within ⟨resolved.start, resolved.stop⟩ ↔
        resolver.Shown block.text.toList paragraphBudget sentenceWindowBudget span paragraph := by
  have hbounds := (paragraphs_inOrder block.text.toList).bounds paragraph hmem
  have hlength : (slice block.text.toList paragraph.start paragraph.stop).length =
      spanLength paragraph := slice_length hbounds.2
  unfold resolveParagraph at h
  simp only [hlength] at h
  unfold Shown
  by_cases hfits : (spanLength paragraph : Int) ≤
      budgetOr paragraphBudget resolver.paragraphCharLimit
  · rw [if_pos hfits] at h
    rcases makeSlice_eq_ok h with ⟨hstart, hstop, htext, hplace⟩
    rw [hstart, hstop, htext]
    exact ⟨hplace, ⟨le_refl _, le_refl _⟩, fun span => (and_iff_left (Or.inl hfits)).symm⟩
  · rw [if_neg hfits] at h
    cases hwindow : sentenceWindow block.text.toList paragraph.start paragraph.stop
        (budgetOr sentenceWindowBudget resolver.sentenceWindowCharLimit) with
    | none =>
      rw [hwindow] at h
      cases h
    | some result =>
      rw [hwindow] at h
      rcases makeSlice_eq_ok h with ⟨hstart, hstop, htext, hplace⟩
      have hedges := sentenceWindow_edges hwindow
      have hinside := sentenceWindow_bounds hwindow
      rw [hstart, hstop, htext]
      refine ⟨hplace, ⟨hinside.1, hinside.2.2.1⟩, ?_⟩
      intro span
      constructor
      · intro hspan
        refine ⟨⟨le_trans hinside.1 hspan.1, le_trans hspan.2 hinside.2.2.1⟩, Or.inr ⟨?_, ?_⟩⟩
        · exact (hedges.1 span.start).mp hspan.1
        · exact (hedges.2 span.stop).mp hspan.2
      · intro hshown
        rcases hshown.2 with hshort | ⟨hbefore, hafter⟩
        · exact absurd hshort hfits
        · exact ⟨(hedges.1 span.start).mpr hbefore, (hedges.2 span.stop).mpr hafter⟩

theorem verifyEvidence_span {evidence : EvidenceRef}
    (h : verifyEvidence evidence block = .ok ()) : ∃ span, evidence.span = some span := by
  unfold verifyEvidence at h
  cases hspan : evidence.span with
  | none =>
    rw [hspan] at h
    cases h
  | some span => exact ⟨span, rfl⟩

/-- A slice of a verified reference is the text of the block at its place. It contains the span of
    the reference exactly if the span lies in what is shown of every paragraph that it overlaps. -/
theorem resolveEvidence_exact (resolver : EvidenceSliceResolver) (evidence : EvidenceRef)
    (block : TextBlock) (basis : SliceBasis) (allowHeadingEvidence : Bool)
    (paragraphBudget sentenceWindowBudget : Option Int) (slices : List ResolvedSlice)
    (h : resolver.resolveEvidence evidence block basis allowHeadingEvidence paragraphBudget
      sentenceWindowBudget = .ok slices) :
    ∀ resolved ∈ slices, ∃ span, evidence.span = some span ∧
      resolved.text.toList = slice block.text.toList resolved.start resolved.stop ∧
      ((resolved.start ≤ span.start ∧ span.stop ≤ resolved.stop) ↔
        ∀ paragraph ∈ paragraphs block.text.toList, Meets ⟨span.start, span.stop⟩ paragraph →
          resolver.Shown block.text.toList paragraphBudget sentenceWindowBudget
            ⟨span.start, span.stop⟩ paragraph) := by
  intro resolved hresolved
  unfold resolveEvidence at h
  by_cases hheading : (!allowHeadingEvidence && basis.sourceRole = .heading) = true
  · rw [if_pos hheading, Except.ok.injEq] at h
    rw [← h] at hresolved
    cases hresolved
  · rw [if_neg hheading, Outcome.bind_eq_ok] at h
    rcases h with ⟨_, hverified, h⟩
    rcases verifyEvidence_span hverified with ⟨span, hspan⟩
    rw [hspan] at h
    simp only at h
    cases hcovering : coveringParagraph block.text.toList ⟨span.start, span.stop⟩ with
    | none =>
      rw [hcovering] at h
      cases h
    | some paragraph =>
      rw [hcovering] at h
      simp only [Outcome.bind_eq_ok, Outcome.pure_eq_ok] at h
      rcases h with ⟨shown, hshown, rfl⟩
      rw [List.mem_singleton] at hresolved
      subst hresolved
      have hmem : paragraph ∈ paragraphs block.text.toList := List.mem_of_find?_eq_some hcovering
      have hoverlaps : Meets ⟨span.start, span.stop⟩ paragraph := by
        simpa using List.find?_some hcovering
      rcases resolveParagraph_spec hmem hshown with ⟨hplace, hwithin, hcontains⟩
      refine ⟨span, hspan, hplace, ?_⟩
      constructor
      · -- a slice that contains the span leaves no room for another paragraph
        intro hinside other hother hoverlapsOther
        have hspanWithin : (⟨span.start, span.stop⟩ : Span).within paragraph :=
          ⟨le_trans hwithin.1 hinside.1, le_trans hinside.2 hwithin.2⟩
        rw [overlaps_unique hmem hother hspanWithin hoverlapsOther]
        exact (hcontains _).mp hinside
      · intro hall
        exact (hcontains _).mpr (hall paragraph hmem hoverlaps)

end EvidenceSliceResolver

namespace Sample

def threeSentences : TextBlock where
  blockId := ⟨"block.1", .refl true⟩
  chapterId := ⟨"chapter.1", .refl true⟩
  sceneId := none
  narrativeIndex := 0
  text := "one! two! end!"

def evidenceAt (block : TextBlock) (start stop : Nat) (hordered : start ≤ stop) : EvidenceRef where
  evidenceId := ⟨"evidence.1", .refl true⟩
  rootHash := digest "root"
  objectHash := digest block.text
  chapterId := some block.chapterId
  sceneId := none
  span := some ⟨block.blockId, .unicodeCodepoint, start, stop, hordered⟩
  quoteHash := none
  supportStatus := .current
  resolvedAtCommit := digest "commit"

def sliceBasis : SliceBasis where
  sourceCommit := digest "commit"
  snapshotId := ⟨"snapshot.1", .refl true⟩
  accessScope := "public"
  sourceRole := .narrative

variable (start stop : Nat)

theorem verify_threeSentences (hordered : start ≤ stop) (hstop : stop ≤ 14) :
    verifyEvidence (evidenceAt threeSentences start stop hordered) threeSentences = .ok () := by
  have hlength : threeSentences.text.toList.length = 14 := by decide
  simp [verifyEvidence, evidenceAt, hlength, hstop]

theorem resolve_threeSentences (hordered : start ≤ stop) (hstop : stop ≤ 14)
    (hcovering : coveringParagraph threeSentences.text.toList ⟨start, stop⟩ = some ⟨0, 14⟩) :
    ∃ resolved, EvidenceSliceResolver.default.resolveEvidence
        (evidenceAt threeSentences start stop hordered) threeSentences sliceBasis false (some 8)
        (some 4) = .ok [resolved] ∧ resolved.start = 5 ∧ resolved.stop = 9 := by
  have hwindow : sentenceWindow threeSentences.text.toList 0 14
      (budgetOr (some 4) EvidenceSliceResolver.default.sentenceWindowCharLimit) =
      some (⟨5, 9⟩, "two!".toList) := by decide
  have hlong : ¬ (((slice threeSentences.text.toList 0 14).length : Nat) : Int) ≤
      budgetOr (some 8) EvidenceSliceResolver.default.paragraphCharLimit := by decide
  rcases @EvidenceSliceResolver.makeSlice_returns threeSentences sliceBasis ⟨5, 9⟩
    (String.ofList "two!".toList) .sentenceWindow (by decide) (by decide)
    (by decide) (by decide) with ⟨resolved, hresolved⟩
  have hplace := EvidenceSliceResolver.makeSlice_eq_ok hresolved
  have hparagraph : EvidenceSliceResolver.default.resolveParagraph threeSentences ⟨0, 14⟩ (some 8)
      (some 4) sliceBasis = .ok resolved := by
    unfold EvidenceSliceResolver.resolveParagraph
    simp only [hlong, if_false, hwindow, hresolved]
  refine ⟨resolved, ?_, hplace.1, hplace.2.1⟩
  have hnarrative : (!false && decide (sliceBasis.sourceRole = .heading)) = false := by decide
  have hspan : (evidenceAt threeSentences start stop hordered).span =
      some ⟨threeSentences.blockId, .unicodeCodepoint, start, stop, hordered⟩ := rfl
  unfold EvidenceSliceResolver.resolveEvidence
  rw [hnarrative, verify_threeSentences start stop hordered hstop, hspan]
  simp only [Bool.false_eq_true, if_false, bind, Except.bind, hcovering, hparagraph, pure,
    Except.pure]

end Sample

open Sample

/-- The reference is to the last sentence, and the middle one is shown. -/
theorem resolveEvidence_misses_span :
    ∃ resolved, EvidenceSliceResolver.default.resolveEvidence
        (evidenceAt threeSentences 10 14 (by decide)) threeSentences
        sliceBasis false (some 8) (some 4) = .ok [resolved] ∧
      ¬ (resolved.start ≤ 10 ∧ 14 ≤ resolved.stop) := by
  rcases resolve_threeSentences 10 14 (by decide) (by decide) (by decide) with
    ⟨resolved, hresolved, _, hstop⟩
  refine ⟨resolved, hresolved, ?_⟩
  rw [hstop]
  omega

/-- The reference is to the sentence that is shown. -/
theorem resolveEvidence_exact_sample :
    ∃ slices, EvidenceSliceResolver.default.resolveEvidence
        (evidenceAt threeSentences 5 9 (by decide)) threeSentences
        sliceBasis false (some 8) (some 4) = .ok slices ∧
      ∀ resolved ∈ slices, ∃ span,
        (evidenceAt threeSentences 5 9 (by decide)).span = some span ∧
        resolved.text.toList =
          slice threeSentences.text.toList resolved.start resolved.stop ∧
        ((resolved.start ≤ span.start ∧ span.stop ≤ resolved.stop) ↔
          ∀ paragraph ∈ paragraphs threeSentences.text.toList,
            Meets ⟨span.start, span.stop⟩ paragraph →
              EvidenceSliceResolver.default.Shown threeSentences.text.toList (some 8)
                (some 4) ⟨span.start, span.stop⟩ paragraph) := by
  rcases resolve_threeSentences 5 9 (by decide) (by decide) (by decide) with
    ⟨resolved, hresolved, _, _⟩
  exact ⟨[resolved], hresolved, EvidenceSliceResolver.resolveEvidence_exact _ _ _ _ _ _ _ _ hresolved⟩

end NovelAgent.Evidence
