import NovelAgent.Evidence.ExactQuotes

/-!
# Candidate Identity

A span of a chapter can become a candidate in three ways: as part of the
catalogue, by a selection of a quote in a block, and by an exact quote. The
identity is hashed from the block, the chapter, the scene, the span and the
text, and these agree in all three, except for the scene: the catalogue counts
scenes by their position, and the other two take the index that the scene
bears. A chapter only has to have its scenes in ascending order, so the two
need not agree.
-/

namespace NovelAgent.Evidence

open Core Domain World List

/-- A quote of a block, told apart by what stands around it or by its number. -/
structure EvidenceQuoteSelection where
  blockId : StableId
  exactQuote : String
  leftContext : Option String
  rightContext : Option String
  occurrence : Option Nat
  quoteWritten : exactQuote ≠ ""
  quoteBounded : exactQuote.toList.length ≤ 240
  leftBounded : ∀ left ∈ leftContext, left.toList.length ≤ 80
  rightBounded : ∀ right ∈ rightContext, right.toList.length ≤ 80

namespace EvidenceQuoteSelection

variable (selection : EvidenceQuoteSelection) (text : List Char)

/-- The characters of a context, if there is one. -/
def contextChars (context : Option String) : List Char := (context.getD "").toList

/-- What the selection wants to stand around a place stands there. -/
def fits (place : Nat) : Bool :=
  let left := contextChars selection.leftContext
  let right := contextChars selection.rightContext
  let stop := place + selection.exactQuote.toList.length
  left <:+ slice text (place - left.length) place ∧ right <+: slice text stop (stop + right.length)

/-- The places of the quote that fit the contexts. -/
def places : List Nat :=
  (occurrences selection.exactQuote.toList text).filter (selection.fits text)

/-- The places that are left when the number of the occurrence is taken. -/
def selected : Except CandidateError (List Nat) :=
  match selection.occurrence with
  | none => .ok (selection.places text)
  | some number =>
    match (selection.places text)[number]? with
    | none => .error (.value "quote occurrence is out of range")
    | some place => .ok [place]

end EvidenceQuoteSelection

/-- The selection that a quote in a block comes to. -/
def resolveQuote (selection : EvidenceQuoteSelection) (chapter : ChapterDocument) :
    Except CandidateError EvidenceCandidate :=
  match blockAt chapter selection.blockId with
  | none => .error (.value "quote selection references unknown block")
  | some (sceneIndex, text) => do
      match ← selection.selected text.toList with
      | [place] =>
        makeCandidate selection.blockId chapter.chapterIndex sceneIndex selection.exactQuote
          place (place + selection.exactQuote.toList.length)
      | _ => throw (.value "quote must resolve to exactly one span")

/-- A selection that only one place meets. -/
def Selects (selection : EvidenceQuoteSelection) (text : List Char) (place : Nat) : Prop :=
  match selection.occurrence with
  | none => selection.places text = [place]
  | some number => (selection.places text)[number]? = some place

/-- Two candidates under one identity and hash. -/
def SameIdentity (a b : EvidenceCandidate) : Prop :=
  a.candidateId = b.candidateId ∧ a.contentHash = b.contentHash

variable {root : TextRootDocument}

section Blocks

theorem blockAt_block {chapter : ChapterDocument} (hchapter : chapter ∈ root.chapters)
    {scene : SceneDocument} (hscene : scene ∈ chapter.scenes) {block : TextBlock}
    (hblock : block ∈ scene.blocks) :
    blockAt chapter block.blockId = some (scene.sceneIndex, block.text) := by
  have hnodup : ((chapterBlocks chapter).map Prod.fst).Nodup := by
    have hkeys : (chapterBlocks chapter).map Prod.fst =
        (chapter.scenes.flatMap SceneDocument.blocks).map TextBlock.blockId := by
      unfold chapterBlocks
      simp only [map_flatMap, map_map]
      rfl
    rw [hkeys]
    exact chapter_blocks_nodup root hchapter
  have hmem : (block.blockId, scene.sceneIndex, block.text) ∈ chapterBlocks chapter := by
    unfold chapterBlocks
    simp only [mem_flatMap, mem_map]
    exact ⟨scene, hscene, block, hblock, rfl⟩
  unfold blockAt
  rw [List.findRev?_eq_find?_reverse]
  cases hfind : (chapterBlocks chapter).reverse.find? fun entry => entry.1 = block.blockId with
  | none =>
    have hnot := List.find?_eq_none.mp hfind _ (mem_reverse.mpr hmem)
    exact absurd (decide_eq_true rfl) hnot
  | some found =>
    have hfound : found ∈ chapterBlocks chapter :=
      mem_reverse.mp (mem_of_find?_eq_some hfind)
    have hid : found.1 = block.blockId := by simpa using List.find?_some hfind
    have hsame : found = (block.blockId, scene.sceneIndex, block.text) :=
      inj_on_of_nodup_map hnodup hfound hmem hid
    rw [hsame]
    rfl

end Blocks

variable {entry : Nat × String} {catalogue : List EvidenceCandidate} {quote : String}
    {r : EvidenceCandidate}

section Addresses

theorem candidateIdOf_congr {a b : JsonValue} (h : digest a.render = digest b.render) :
    candidateIdOf a = candidateIdOf b := by
  have hdigits : Sha256.hexdigest a.render = Sha256.hexdigest b.render := by
    have hroot := congrArg (fun hash : ContentHash => hash.root.toList) h
    unfold digest at hroot
    simp only [String.toList_append] at hroot
    exact String.toList_inj.mp (append_cancel_left hroot)
  unfold candidateIdOf HexToken.ofDigest
  simp only [hdigits]

/-- Candidates that are addressed by their content have one identity when their
    payloads have one digest. -/
theorem sameIdentity_iff {a b : EvidenceCandidate} (ha : a.Addressed) (hb : b.Addressed) :
    SameIdentity a b ↔ digest a.payload.render = digest b.payload.render := by
  unfold SameIdentity
  rw [ha.contentHash_eq, hb.contentHash_eq, ha.candidateId_eq, hb.candidateId_eq]
  exact ⟨And.right, fun h => ⟨candidateIdOf_congr h, h⟩⟩

/-- What is resolved in a block bears the index of the scene of the block. -/
structure Resolved (chapter : ChapterDocument) (blockId : StableId) (quote : String) (place : Nat)
    (r : EvidenceCandidate) : Prop where
  blockId_eq : r.blockId = blockId
  chapterIndex_eq : r.chapterIndex = chapter.chapterIndex
  sceneIndex_eq : (blockAt chapter blockId).map Prod.fst = some r.sceneIndex
  text_eq : r.text = quote
  start_eq : r.start = place
  stop_eq : r.stop = place + quote.toList.length
  addressed : r.Addressed

/-- What a selection of a span is resolved to. -/
theorem resolveQuote_selects {selection : EvidenceQuoteSelection} {chapter : ChapterDocument}
    (hentry : blockAt chapter selection.blockId = some entry) {place : Nat}
    (hplace : Selects selection entry.2.toList place) :
    ∃ r, resolveQuote selection chapter = .ok r ∧
      Resolved chapter selection.blockId selection.exactQuote place r := by
  have hselected : selection.selected entry.2.toList = .ok [place] := by
    unfold Selects at hplace
    unfold EvidenceQuoteSelection.selected
    cases hoccurrence : selection.occurrence with
    | none =>
      rw [hoccurrence] at hplace
      simp only at hplace ⊢
      rw [hplace]
    | some number =>
      rw [hoccurrence] at hplace
      simp only at hplace ⊢
      rw [hplace]
  have hlength : 0 < selection.exactQuote.toList.length := by
    rw [length_pos_iff]
    intro hempty
    exact selection.quoteWritten (String.toList_inj.mp hempty)
  have hmade : ∃ r, makeCandidate selection.blockId chapter.chapterIndex entry.1
      selection.exactQuote place (place + selection.exactQuote.toList.length) = .ok r :=
    makeCandidate_returns chapter.positive selection.quoteWritten (by omega)
  rcases hmade with ⟨r, hr⟩
  rcases makeCandidate_fields hr with
    ⟨hblock, hchapter, hscene, htext, hstart, hstop, haddressed⟩
  refine ⟨r, ?_, hblock, hchapter, ?_, htext, hstart, hstop, haddressed⟩
  · unfold resolveQuote
    rw [hentry]
    simp only [hselected, bind, Except.bind]
    exact hr
  · rw [hentry, hscene]
    rfl

theorem resolveExactQuote_resolved {letters : Letters} {repr : String → String}
    {chapter : ChapterDocument}
    (h : resolveExactQuote letters repr catalogue chapter quote = .ok r) :
    Resolved chapter r.blockId quote r.start r := by
  unfold resolveExactQuote at h
  by_cases hshort : (semanticSpan letters quote).length < 2
  · rw [if_pos hshort] at h
    cases h
  · rw [if_neg hshort, Outcome.bind_eq_ok] at h
    rcases h with ⟨found, hfound, h⟩
    have hwritten : quote.toList ≠ [] := written_of_letters (not_lt.mp hshort)
    simp only at h
    cases hunique : found.flatten.eraseDups with
    | nil =>
      rw [hunique] at h
      cases h
    | cons span rest =>
      rw [hunique] at h
      cases rest with
      | nil =>
        simp only at h
        have hspan : span ∈ found.flatten := by
          rw [← mem_eraseDups, hunique]
          exact mem_singleton_self _
        rcases (mem_matches hwritten hfound span).mp hspan with ⟨_, hscene, hstop⟩
        rcases makeCandidate_fields h with
          ⟨hblock, hchapter, hsceneIndex, htext, hstart, hstop', haddressed⟩
        refine ⟨rfl, hchapter, ?_, htext, rfl, ?_, haddressed⟩
        · rw [hblock, hsceneIndex]
          exact hscene
        · rw [hstop', hstart]
          exact hstop
      | cons second rest => cases h

end Addresses

section Identity

variable (letters : Letters) (repr : String → String) (chapter : ChapterDocument)
  (c : EvidenceCandidate)

/-- A selection of the span of a candidate, and a quote of it, are resolved to
    a candidate with the same identity and hash. The quote may be resolved
    over the candidate alone, or over any catalogue in which it is found. -/
structure OneIdentity : Prop where
  selected : ∀ (selection : EvidenceQuoteSelection) (entry : Nat × String),
    selection.blockId = c.blockId → selection.exactQuote = c.text →
    blockAt chapter c.blockId = some entry → Selects selection entry.2.toList c.start →
    ∃ r, resolveQuote selection chapter = .ok r ∧ SameIdentity r c
  quoted : ∃ r, resolveExactEvidenceQuotes letters repr [c] chapter [c.text] = .ok [r] ∧
    SameIdentity r c
  quoted_among : ∀ catalogue r,
    resolveExactEvidenceQuotes letters repr catalogue chapter [c.text] = .ok [r] →
    r.blockId = c.blockId → r.start = c.start → SameIdentity r c

/-- The scene at the position that a candidate bears has that position for its
    index, or else the two indexes collide under the hash. -/
def CountedByPosition : Prop :=
  ∃ scene, chapter.scenes[c.sceneIndex]? = some scene ∧
    (scene.sceneIndex = c.sceneIndex ∨
      digest (candidatePayload c.blockId c.chapterIndex scene.sceneIndex c.text c.start
        c.stop).render = digest c.payload.render)

variable {letters repr chapter c}

/-- What is resolved at the span of a candidate has the same identity when the
    two payloads, which only differ in the scene, have one digest. -/
theorem resolved_identity {index : Nat} (hr : Resolved chapter c.blockId c.text c.start r)
    (haddressed : c.Addressed) (hchapter : c.chapterIndex = chapter.chapterIndex)
    (hstop : c.stop = c.start + c.text.toList.length)
    (hindex : (blockAt chapter c.blockId).map Prod.fst = some index) :
    SameIdentity r c ↔ digest (candidatePayload c.blockId c.chapterIndex index c.text c.start
      c.stop).render = digest c.payload.render := by
  have hscene : r.sceneIndex = index := by
    have hboth := hr.sceneIndex_eq
    rw [hindex, Option.some.injEq] at hboth
    exact hboth.symm
  have hpayload : r.payload =
      candidatePayload c.blockId c.chapterIndex index c.text c.start c.stop := by
    unfold EvidenceCandidate.payload
    rw [hr.blockId_eq, hr.chapterIndex_eq, hscene, hr.text_eq, hr.start_eq, hr.stop_eq, hchapter,
      hstop]
  rw [sameIdentity_iff hr.addressed haddressed, hpayload]

theorem inside_self (hentry : blockAt chapter c.blockId = some entry)
    (hstop : c.stop = c.start + c.text.toList.length)
    (hoccurs : c.text.toList <+: entry.2.toList.drop c.start) (place : StableId × Nat) :
    Inside chapter [c] c.text place.1 place.2 ↔ place = (c.blockId, c.start) := by
  have hordered := c.ordered
  unfold Inside
  constructor
  · rintro ⟨_, _, _, hcovered⟩
    have hfirst := hcovered place.2 (le_refl _) (by omega)
    have hlast := hcovered (place.2 + c.text.toList.length - 1) (by omega) (by omega)
    simp only [mem_singleton, exists_eq_left] at hfirst hlast
    refine Prod.ext hfirst.1.symm ?_
    simp only
    omega
  · rintro rfl
    refine ⟨entry, hentry, hoccurs, fun place hfrom hto => ?_⟩
    exact ⟨c, mem_singleton_self c, rfl, hfrom, hstop ▸ hto⟩

theorem resolved_of_quoted
    (h : resolveExactEvidenceQuotes letters repr catalogue chapter [quote] = .ok [r]) :
    Resolved chapter r.blockId quote r.start r := by
  rw [resolveExactEvidenceQuotes_one] at h
  cases hresult : resolveExactQuote letters repr catalogue chapter quote with
  | error e =>
    rw [hresult] at h
    cases h
  | ok found =>
    rw [hresult] at h
    have hfound : found = r := by simpa [Except.map] using h
    rw [hfound] at hresult
    exact resolveExactQuote_resolved hresult

theorem quoted_resolved (hlong : 2 ≤ (semanticSpan letters c.text).length)
    (hentry : blockAt chapter c.blockId = some entry)
    (hstop : c.stop = c.start + c.text.toList.length)
    (hoccurs : c.text.toList <+: entry.2.toList.drop c.start) :
    ∃ r, resolveExactEvidenceQuotes letters repr [c] chapter [c.text] = .ok [r] ∧
      Resolved chapter c.blockId c.text c.start r := by
  have hnamed : ∀ other ∈ [c], NamesBlock chapter other.blockId := by
    intro other hother
    rw [mem_singleton.mp hother]
    exact blockAt_names.mp ⟨entry, hentry⟩
  rcases matches_returns.mpr hnamed with ⟨found, hfound⟩
  have hexact : ExactResolution letters repr [c] chapter c.text :=
    exactResolution_of_matches hlong hfound
  have honce : ∃! place : StableId × Nat, Inside chapter [c] c.text place.1 place.2 := by
    refine ⟨(c.blockId, c.start), ?_, fun place hplace => ?_⟩
    · exact (inside_self hentry hstop hoccurs (c.blockId, c.start)).mpr rfl
    · exact (inside_self hentry hstop hoccurs place).mp hplace
  rcases hexact.returns.mpr honce with ⟨bound, hbound⟩
  rcases hexact.exact_span bound hbound with ⟨r, _, hone, hinside, _⟩
  rw [hone] at hbound
  have hplace := (inside_self hentry hstop hoccurs (r.blockId, r.start)).mp hinside
  have hresolved := resolved_of_quoted hbound
  rw [(Prod.mk.inj hplace).1, (Prod.mk.inj hplace).2] at hresolved
  exact ⟨r, hbound, hresolved⟩

/-- A candidate of the catalogue has one identity when its text has two letters
    or digits and its scene is counted by its position. -/
theorem generate_identity {generator : EvidenceCandidateGenerator} {root : TextRootDocument}
    {candidates : List EvidenceCandidate} (hchapter : chapter ∈ root.chapters)
    (h : generator.generate root chapter.chapterIndex = .ok candidates) (hc : c ∈ candidates) :
    OneIdentity letters repr chapter c ↔
      2 ≤ (semanticSpan letters c.text).length ∧ CountedByPosition chapter c := by
  rcases generate_mem hchapter h c hc with
    ⟨scene, block, hscene, hblock, hcatalogued, hstop, hslice⟩
  have hentry : blockAt chapter c.blockId = some (scene.sceneIndex, block.text) := by
    rw [hcatalogued.blockId_eq]
    exact blockAt_block hchapter (mem_of_getElem? hscene) hblock
  have hspan : c.stop = c.start + c.text.toList.length := by
    have hordered := c.ordered
    rw [hslice, slice_length hstop]
    omega
  have hoccurs : c.text.toList <+: block.text.toList.drop c.start := by
    rw [hslice]
    exact occurs_slice
  have hindex : (blockAt chapter c.blockId).map Prod.fst = some scene.sceneIndex := by
    rw [hentry]
    rfl
  have hsame : ∀ r, Resolved chapter c.blockId c.text c.start r →
      (SameIdentity r c ↔ CountedByPosition chapter c) := by
    intro r hr
    rw [resolved_identity hr hcatalogued.addressed hcatalogued.chapterIndex_eq hspan hindex]
    unfold CountedByPosition
    constructor
    · intro hdigest
      exact ⟨scene, hscene, Or.inr hdigest⟩
    · rintro ⟨other, hother, hcounted⟩
      rw [hscene, Option.some.injEq] at hother
      rw [← hother] at hcounted
      rcases hcounted with hposition | hdigest
      · rw [hposition]
        rfl
      · exact hdigest
  constructor
  · intro hone
    rcases hone.quoted with ⟨r, hr, hidentity⟩
    have hlong : 2 ≤ (semanticSpan letters c.text).length := by
      by_contra hshort
      rw [resolveExactEvidenceQuotes_one] at hr
      unfold resolveExactQuote at hr
      rw [if_pos (by omega)] at hr
      cases hr
    have hquoted : ∃ found, resolveExactEvidenceQuotes letters repr [c] chapter [c.text] =
        .ok [found] ∧ Resolved chapter c.blockId c.text c.start found :=
      quoted_resolved hlong hentry hspan hoccurs
    rcases hquoted with ⟨found, hfound, hresolved⟩
    rw [hr, Except.ok.injEq, List.cons.injEq] at hfound
    rw [hfound.1] at hidentity
    exact ⟨hlong, (hsame found hresolved).mp hidentity⟩
  · rintro ⟨hlong, hcounted⟩
    constructor
    · intro selection entry hblockId hquote hselected hplace
      rw [← hblockId] at hselected
      rcases resolveQuote_selects hselected hplace with ⟨r, hr, hresolved⟩
      rw [hblockId, hquote] at hresolved
      exact ⟨r, hr, (hsame r hresolved).mpr hcounted⟩
    · rcases quoted_resolved hlong hentry hspan hoccurs with ⟨r, hr, hresolved⟩
      exact ⟨r, hr, (hsame r hresolved).mpr hcounted⟩
    · intro catalogue r hr hblockId hstart
      have hresolved := resolved_of_quoted hr
      rw [hblockId, hstart] at hresolved
      exact (hsame r hresolved).mpr hcounted

end Identity

namespace Sample

def sentence (text : String) (start stop : Nat) (hwritten : text ≠ "") (hordered : start < stop) :
    EvidenceCandidate where
  candidateId := candidateIdOf (candidatePayload snowBlock.blockId 1 0 text start stop)
  blockId := snowBlock.blockId
  chapterIndex := 1
  sceneIndex := 0
  text := text
  start := start
  stop := stop
  contentHash := digest (candidatePayload snowBlock.blockId 1 0 text start stop).render
  positive := Nat.one_pos
  written := hwritten
  ordered := hordered

def snowFell : EvidenceCandidate := sentence "Snow fell!" 0 10 (by decide) (by decide)

def heLeft : EvidenceCandidate := sentence "He left." 11 19 (by decide) (by decide)

theorem generate_snow : generator.generate snowRoot 1 = .ok [snowFell, heLeft] := by
  rfl

def snowSelection : EvidenceQuoteSelection where
  blockId := snowBlock.blockId
  exactQuote := "Snow fell!"
  leftContext := none
  rightContext := none
  occurrence := none
  quoteWritten := by decide
  quoteBounded := by decide
  leftBounded := by simp
  rightBounded := by simp

end Sample

open Sample

/-- The catalogue of a chapter whose only scene bears the index one. -/
theorem snow_identity : (OneIdentity plainLetters id snowChapter snowFell ↔
    2 ≤ (semanticSpan plainLetters snowFell.text).length ∧
      CountedByPosition snowChapter snowFell) ∧
    2 ≤ (semanticSpan plainLetters snowFell.text).length ∧
    ¬ CountedByPosition snowChapter snowFell := by
  have hchapter : snowChapter ∈ snowRoot.chapters := mem_cons_self
  refine ⟨generate_identity hchapter generate_snow mem_cons_self, by decide +kernel, ?_⟩
  rintro ⟨scene, hscene, hindex | hdigest⟩
  · obtain rfl := Option.some.inj hscene
    exact absurd hindex (by decide)
  · obtain rfl := Option.some.inj hscene
    exact digest_ne (by decide +kernel) hdigest

/-- The selection of a sentence of that chapter is resolved to its span, but
    under another hash than the catalogue has it. -/
theorem snow_identity_differs :
    generator.generate snowRoot 1 = .ok [snowFell, heLeft] ∧
    (∃ r, resolveQuote snowSelection snowChapter = .ok r ∧
      r.blockId = snowFell.blockId ∧ r.text = snowFell.text ∧
      r.start = snowFell.start ∧ r.stop = snowFell.stop ∧
      r.contentHash ≠ snowFell.contentHash) ∧
    ¬ OneIdentity plainLetters id snowChapter snowFell := by
  have hentry : blockAt snowChapter snowSelection.blockId =
      some (1, snowBlock.text) := by decide +kernel
  have hselects : Selects snowSelection snowBlock.text.toList 0 := by
    change snowSelection.places snowBlock.text.toList = [0]
    decide +kernel
  rcases resolveQuote_selects hentry hselects with ⟨r, hr, hresolved⟩
  have hscene : r.sceneIndex = 1 := by
    have hindex := hresolved.sceneIndex_eq
    rw [hentry] at hindex
    exact (Option.some.inj hindex).symm
  have hpayload : r.payload = candidatePayload snowBlock.blockId 1 1 "Snow fell!" 0 10 := by
    unfold EvidenceCandidate.payload
    rw [hresolved.blockId_eq, hresolved.chapterIndex_eq, hscene, hresolved.text_eq,
      hresolved.start_eq, hresolved.stop_eq]
    rfl
  have hhash : r.contentHash ≠ snowFell.contentHash := by
    rw [hresolved.addressed.contentHash_eq, hpayload]
    exact digest_ne (by decide +kernel)
  refine ⟨generate_snow, ⟨r, hr, hresolved.blockId_eq, hresolved.text_eq,
    hresolved.start_eq, hresolved.stop_eq, hhash⟩, fun hone => ?_⟩
  rcases hone.selected snowSelection (1, snowBlock.text) rfl rfl hentry hselects with
    ⟨found, hfound, hsame⟩
  rw [hr, Except.ok.injEq] at hfound
  rw [← hfound] at hsame
  exact hhash hsame.2

end NovelAgent.Evidence
