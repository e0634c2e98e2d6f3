import Mathlib.Data.List.Sort
import NovelAgent.Core.Outcome
import NovelAgent.Evidence.Candidates

/-!
# Quote Binding

A model quotes the text it cites, and the quote is bound to a candidate of the
catalogue. Only letters and digits count, in their folded case.
-/

namespace NovelAgent.Evidence

open Core Domain World List

/-- How characters fold, and which of them count. -/
structure Letters where
  casefold : Char → List Char
  isAlnum : Char → Bool

/-- Two neighbours of a list. -/
def pairwise {α : Type} (items : List α) : List (α × α) := items.zip items.tail

/-- What a stage finds is bound if it is one candidate, and refused if it is
    several. The next stage runs if it is none. -/
def settle (found : List EvidenceCandidate) (ambiguous : CandidateError)
    (next : Except CandidateError EvidenceCandidate) : Except CandidateError EvidenceCandidate :=
  match found with
  | [] => next
  | [candidate] => .ok candidate
  | _ => .error ambiguous

/-- The start of a text. -/
def clip (text : String) (length : Nat) : String := String.ofList (text.toList.take length)

section Stages

variable (letters : Letters)

/-- The characters of a text that count. -/
def semanticSpan (text : String) : List Char :=
  (text.toList.flatMap letters.casefold).filter letters.isAlnum

/-- The characters of two neighbours that count. -/
def joinedSpan (pair : EvidenceCandidate × EvidenceCandidate) : List Char :=
  semanticSpan letters pair.1.text ++ semanticSpan letters pair.2.text

variable (normalized : List Char) (candidates : List EvidenceCandidate)

/-- The second of two neighbours that spell a quote. -/
def joinedPairs : List EvidenceCandidate :=
  ((pairwise candidates).filter fun pair => joinedSpan letters pair = normalized).map Prod.snd

/-- The candidates that contain a quote. -/
def exactMatches : List EvidenceCandidate :=
  candidates.filter fun candidate => normalized <:+: semanticSpan letters candidate.text

/-- The candidates that a quote stands in. -/
def containedMatches : List EvidenceCandidate :=
  candidates.filter fun candidate => semanticSpan letters candidate.text <:+: normalized

/-- The second of two neighbours of which one contains the other and a quote. -/
def pairBound : List EvidenceCandidate :=
  ((pairwise candidates).filter fun pair =>
    joinedSpan letters pair <:+: normalized ∨ normalized <:+: joinedSpan letters pair).map Prod.snd

end Stages

section Binding

variable (letters : Letters) (repr : String → String)

/-- A quote bound to candidates. -/
def bindQuote (candidates : List EvidenceCandidate) (quote : String) :
    Except CandidateError EvidenceCandidate :=
  let normalized := semanticSpan letters quote
  let ambiguous (count : Nat) (what : String) := CandidateError.value
    ("evidence quote ambiguous (" ++ toString count ++ what ++ "): " ++ repr (clip quote 60))
  let joined := joinedPairs letters normalized candidates
  let exact_ := exactMatches letters normalized candidates
  let contained := containedMatches letters normalized candidates
  if normalized.length < 2 then
    .error (.value ("evidence quote too short to resolve: " ++ repr (clip quote 40)))
  else
    settle joined (ambiguous joined.length " candidate pairs")
      (settle exact_ (ambiguous exact_.length " candidates")
        (settle contained (ambiguous contained.length " candidates")
          (settle (pairBound letters normalized candidates) .assertion
            (.error (.value ("evidence quote unresolved against the chapter catalog: " ++
              repr (clip quote 60)))))))

/-- All quotes bound. -/
def resolveEvidenceQuotes (quotes : List String) (candidates : List EvidenceCandidate) :
    Except CandidateError (List EvidenceCandidate) :=
  quotes.mapM (bindQuote letters repr candidates)

end Binding

def clauseMarks : List Char := ['，', ',', '。', '！', '？', '!', '?', '；', ';', '：', ':']

/-- A clause ends after its mark and the white space that follows, or after a
    dash, which is two characters long. -/
def feedbackLiteralSplit : Splitter Char where
  blank := Text.isSpace
  cuts before c := c ∈ clauseMarks ∨ (before = some '—' ∧ c = '—')
  trims c := c ∈ clauseMarks

section Literals

variable {ι : Type} [LinearOrder ι] [Zero ι]

/-- How close a text is to a quote, by the ratio of a matcher. -/
def textSimilarityRatio (letters : Letters) (matcher : List Char → List Char → ι)
    (quote text : String) : ι :=
  let normalized := semanticSpan letters quote
  let span := semanticSpan letters text
  if span = [] then 0
  else
    max (matcher normalized span) (max
      (if normalized.length ≤ span.length then
        matcher normalized (span.take normalized.length) else 0)
      (if span.length ≤ normalized.length then
        matcher (normalized.take span.length) span else 0))

/-- The parts of a text that may be offered for copying: the text and its
    clauses, unless they are too long or say too little. -/
def copyableLiteralVariants (letters : Letters) (text : String) (maxChars : Nat) : List String :=
  let clauses := ((feedbackLiteralSplit.split text.toList).map fun part =>
    Text.strip (String.ofList part)).filter fun literal =>
      literal ≠ "" ∧ literal.toList.length ≤ maxChars ∧
        8 ≤ (semanticSpan letters literal).length
  ((if text.toList.length ≤ maxChars then [text] else []) ++ clauses).eraseDups

/-- The first literal that can be bound. A literal that is refused is passed
    over, and any other error is not caught. -/
def firstBindable (letters : Letters) (repr : String → String)
    (candidates : List EvidenceCandidate) : List String → Except CandidateError (Option String)
  | [] => .ok none
  | literal :: rest =>
    match resolveEvidenceQuotes letters repr [literal] candidates with
    | .ok _ => .ok (some literal)
    | .error e =>
      if e.IsValueError then firstBindable letters repr candidates rest else .error e

/-- The closest part of the catalogue that can be bound. -/
def copyableLiteralFor (letters : Letters) (repr : String → String)
    (matcher : List Char → List Char → ι) (quote : String) (candidates : List EvidenceCandidate)
    (maxChars : Nat) : Except CandidateError (Option String) :=
  if maxChars < 1 then .error (.value "max_chars must be positive")
  else
    let literals := (candidates.flatMap fun candidate =>
      copyableLiteralVariants letters candidate.text maxChars).eraseDups
    -- Sorting keeps the order of literals that are equally close.
    let ranked := literals.insertionSort fun a b =>
      textSimilarityRatio letters matcher quote b ≤ textSimilarityRatio letters matcher quote a
    firstBindable letters repr candidates ranked

end Literals

section Counts

variable (letters : Letters) (candidates : List EvidenceCandidate) (quote : String)

/-- How many neighbours spell a quote. -/
def spelling : Nat :=
  (pairwise candidates).countP fun pair => joinedSpan letters pair = semanticSpan letters quote

/-- How many candidates contain a quote. -/
def holding : Nat :=
  candidates.countP fun c => semanticSpan letters quote <:+: semanticSpan letters c.text

/-- How many candidates a quote contains. -/
def held : Nat :=
  candidates.countP fun c => semanticSpan letters c.text <:+: semanticSpan letters quote

/-- How many neighbours together contain a quote. -/
def bridging : Nat :=
  (pairwise candidates).countP fun pair => semanticSpan letters quote <:+: joinedSpan letters pair

/-- How many candidates a quote matches in which way. -/
def Binds : Prop :=
  2 ≤ (semanticSpan letters quote).length ∧
    (spelling letters candidates quote = 1 ∨ spelling letters candidates quote = 0 ∧
      (holding letters candidates quote = 1 ∨ holding letters candidates quote = 0 ∧
        (held letters candidates quote = 1 ∨ held letters candidates quote = 0 ∧
          bridging letters candidates quote = 1)))

/-- A quote matches nothing but several pairs of neighbours that contain it
    across their boundary. -/
def Straddles : Prop :=
  2 ≤ (semanticSpan letters quote).length ∧ spelling letters candidates quote = 0 ∧
    holding letters candidates quote = 0 ∧ held letters candidates quote = 0 ∧
    2 ≤ bridging letters candidates quote

end Counts

variable {e : CandidateError}

section Outcomes

variable {letters : Letters} {repr : String → String} {candidates : List EvidenceCandidate}
  {quote : String}

variable {found : List EvidenceCandidate} {next : Except CandidateError EvidenceCandidate}
    {c : EvidenceCandidate}

theorem settle_eq_ok {ambiguous : CandidateError} :
    settle found ambiguous next = .ok c ↔ found = [c] ∨ found = [] ∧ next = .ok c := by
  unfold settle
  cases found with
  | nil => simp
  | cons first rest =>
    cases rest with
    | nil => simp
    | cons second rest => simp

theorem settle_eq_error {ambiguous e : CandidateError} :
    settle found ambiguous next = .error e ↔
      2 ≤ found.length ∧ ambiguous = e ∨ found = [] ∧ next = .error e := by
  unfold settle
  cases found with
  | nil => simp
  | cons first rest =>
    cases rest with
    | nil => simp
    | cons second rest => simp

theorem mem_of_pairwise {α : Type} {items : List α} {pair : α × α} (h : pair ∈ pairwise items) :
    pair.1 ∈ items ∧ pair.2 ∈ items := by
  have hzip := of_mem_zip h
  exact ⟨hzip.1, mem_of_mem_tail hzip.2⟩

theorem length_joinedPairs : (joinedPairs letters (semanticSpan letters quote) candidates).length =
    spelling letters candidates quote := by
  unfold joinedPairs spelling
  rw [length_map, countP_eq_length_filter]

theorem length_exactMatches :
    (exactMatches letters (semanticSpan letters quote) candidates).length =
      holding letters candidates quote := by
  unfold exactMatches holding
  rw [countP_eq_length_filter]

theorem length_containedMatches :
    (containedMatches letters (semanticSpan letters quote) candidates).length =
      held letters candidates quote := by
  unfold containedMatches held
  rw [countP_eq_length_filter]

/-- Neighbours that a quote contains are candidates that it contains. So if it
    contains none, the last stage only finds neighbours that contain it. -/
theorem pairBound_of_held (hheld : held letters candidates quote = 0) :
    pairBound letters (semanticSpan letters quote) candidates =
      ((pairwise candidates).filter fun pair =>
        semanticSpan letters quote <:+: joinedSpan letters pair).map Prod.snd := by
  unfold held at hheld
  rw [countP_eq_zero] at hheld
  unfold pairBound
  congr 1
  refine filter_congr fun pair hpair => ?_
  have hfirst := hheld pair.1 (mem_of_pairwise hpair).1
  rw [decide_eq_true_iff] at hfirst
  have hnot : ¬ joinedSpan letters pair <:+: semanticSpan letters quote := by
    intro hjoined
    exact hfirst ((prefix_append _ _).isInfix.trans hjoined)
  simp only [hnot, false_or]

theorem length_pairBound (hheld : held letters candidates quote = 0) :
    (pairBound letters (semanticSpan letters quote) candidates).length =
      bridging letters candidates quote := by
  rw [pairBound_of_held hheld]
  unfold bridging
  rw [length_map, countP_eq_length_filter]

/-- When a quote is bound. -/
theorem bindQuote_eq_ok :
    bindQuote letters repr candidates quote = .ok c ↔
      2 ≤ (semanticSpan letters quote).length ∧
        (joinedPairs letters (semanticSpan letters quote) candidates = [c] ∨
          joinedPairs letters (semanticSpan letters quote) candidates = [] ∧
        (exactMatches letters (semanticSpan letters quote) candidates = [c] ∨
          exactMatches letters (semanticSpan letters quote) candidates = [] ∧
        (containedMatches letters (semanticSpan letters quote) candidates = [c] ∨
          containedMatches letters (semanticSpan letters quote) candidates = [] ∧
        pairBound letters (semanticSpan letters quote) candidates = [c]))) := by
  unfold bindQuote
  simp only
  by_cases hshort : (semanticSpan letters quote).length < 2
  · rw [if_pos hshort]
    simp [hshort]
  · rw [if_neg hshort]
    simp only [settle_eq_ok, reduceCtorEq, and_false, or_false]
    rw [not_lt] at hshort
    simp only [hshort, true_and]

theorem bindQuote_returns :
    (∃ c, bindQuote letters repr candidates quote = .ok c) ↔ Binds letters candidates quote := by
  simp only [bindQuote_eq_ok, exists_and_left, exists_or, ← length_eq_one_iff]
  unfold Binds
  simp only [← length_eq_zero_iff, length_joinedPairs, length_exactMatches,
    length_containedMatches]
  refine and_congr_right fun _ => or_congr_right (and_congr_right fun _ => or_congr_right
    (and_congr_right fun _ => or_congr_right (and_congr_right fun hheld => ?_)))
  rw [length_pairBound hheld]

/-- When the assertion fails. -/
theorem bindQuote_asserts : bindQuote letters repr candidates quote = .error .assertion ↔
    Straddles letters candidates quote := by
  unfold bindQuote Straddles
  simp only
  by_cases hshort : (semanticSpan letters quote).length < 2
  · rw [if_pos hshort]
    simp [hshort]
  · rw [if_neg hshort]
    rw [not_lt] at hshort
    simp only [settle_eq_error, reduceCtorEq, and_false, false_or, or_false, Except.error.injEq,
      and_true, hshort, true_and, ← length_eq_zero_iff, length_joinedPairs,
      length_exactMatches, length_containedMatches]
    refine and_congr_right fun _ => and_congr_right fun _ => and_congr_right fun hheld => ?_
    rw [length_pairBound hheld]

theorem bindQuote_error (h : bindQuote letters repr candidates quote = .error e)
    (he : e ≠ .assertion) : e.IsValueError := by
  unfold bindQuote at h
  simp only at h
  by_cases hshort : (semanticSpan letters quote).length < 2
  · rw [if_pos hshort, Except.error.injEq] at h
    rw [← h]
    trivial
  · rw [if_neg hshort] at h
    simp only [settle_eq_error, Except.error.injEq] at h
    rcases h with ⟨_, h⟩ | ⟨_, ⟨_, h⟩ | ⟨_, ⟨_, h⟩ | ⟨_, ⟨_, h⟩ | ⟨_, h⟩⟩⟩⟩
    · rw [← h]
      trivial
    · rw [← h]
      trivial
    · rw [← h]
      trivial
    · exact absurd h.symm he
    · rw [← h]
      trivial

end Outcomes

section Literals

variable {letters : Letters}

theorem semanticSpan_within {part text : String} (h : part.toList <:+: text.toList) :
    semanticSpan letters part <:+: semanticSpan letters text := by
  rcases h with ⟨before, after, htext⟩
  unfold semanticSpan
  rw [← htext, flatMap_append, flatMap_append, filter_append, filter_append]
  exact ⟨_, _, rfl⟩

theorem strip_infix (text : String) : (Text.strip text).toList <:+: text.toList := by
  unfold Text.strip
  rw [String.toList_ofList]
  have hleft : text.toList.dropWhile Text.isSpace <:+ text.toList := dropWhile_suffix _
  have hright : ((text.toList.dropWhile Text.isSpace).reverse.dropWhile Text.isSpace).reverse <+:
      text.toList.dropWhile Text.isSpace := by
    rw [← reverse_suffix, reverse_reverse]
    exact dropWhile_suffix _
  exact hright.isInfix.trans hleft.isInfix

variable {maxChars : Nat}

theorem copyableLiteralVariants_infix {text literal : String}
    (h : literal ∈ copyableLiteralVariants letters text maxChars) :
    literal.toList <:+: text.toList := by
  unfold copyableLiteralVariants at h
  simp only [mem_eraseDups, mem_append] at h
  rcases h with hwhole | hclause
  · by_cases hshort : text.toList.length ≤ maxChars
    · rw [if_pos hshort, mem_singleton] at hwhole
      rw [hwhole]
    · rw [if_neg hshort] at hwhole
      cases hwhole
  · rw [mem_filter, mem_map] at hclause
    rcases hclause with ⟨⟨part, hpart, hliteral⟩, hkept⟩
    rw [decide_eq_true_iff] at hkept
    have hne : part ≠ [] := by
      intro hempty
      rw [hempty] at hliteral
      exact hkept.1 hliteral.symm
    have hpiece : part <:+: text.toList :=
      (feedbackLiteralSplit.split_pieces text.toList).isInfix part
        (mem_filter.mpr ⟨hpart, by simpa using hne⟩)
    have hstrip := strip_infix (String.ofList part)
    rw [String.toList_ofList] at hstrip
    rw [← hliteral]
    exact hstrip.trans hpiece

/-- A literal of the catalogue never fails the assertion: the candidate it is
    copied from contains it, so the second stage finds something. -/
theorem bindQuote_literal {repr : String → String} {candidates : List EvidenceCandidate}
    {candidate : EvidenceCandidate} {literal : String} (hcandidate : candidate ∈ candidates)
    (hliteral : literal.toList <:+: candidate.text.toList) :
    bindQuote letters repr candidates literal ≠ .error .assertion := by
  intro h
  rcases bindQuote_asserts.mp h with ⟨_, _, hholding, _⟩
  unfold holding at hholding
  rw [countP_eq_zero] at hholding
  have hnot := hholding candidate hcandidate
  rw [decide_eq_true_iff] at hnot
  exact hnot (semanticSpan_within hliteral)

/-- The search for a literal is only ended by an error that no literal of the catalogue raises. -/
theorem firstBindable_returns {repr : String → String} {candidates : List EvidenceCandidate}
    {literals : List String} (hliterals : ∀ literal ∈ literals, ∃ candidate ∈ candidates,
      literal.toList <:+: candidate.text.toList) :
    ∃ found, firstBindable letters repr candidates literals = .ok found := by
  induction literals with
  | nil => exact ⟨none, rfl⟩
  | cons literal literals ih =>
    rw [forall_mem_cons] at hliterals
    rcases hliterals.1 with ⟨candidate, hcandidate, hliteral⟩
    unfold firstBindable
    cases hresult : resolveEvidenceQuotes letters repr [literal] candidates with
    | ok bound => exact ⟨some literal, rfl⟩
    | error e =>
      have hbind : bindQuote letters repr candidates literal = .error e := by
        unfold resolveEvidenceQuotes at hresult
        rw [Outcome.mapM_error] at hresult
        rcases hresult with ⟨before, quote, after, hquotes, _, hquote⟩
        have hmem : quote ∈ [literal] := by
          rw [hquotes]
          simp
        rwa [mem_singleton.mp hmem] at hquote
      have hassert : e ≠ .assertion := by
        rintro rfl
        exact bindQuote_literal hcandidate hliteral hbind
      simp only [if_pos (bindQuote_error hbind hassert)]
      exact ih hliterals.2

theorem copyableLiteralFor_error {ι : Type} [LinearOrder ι] [Zero ι] {repr : String → String}
    {matcher : List Char → List Char → ι} {quote : String} {candidates : List EvidenceCandidate}
    (h : copyableLiteralFor letters repr matcher quote candidates maxChars = .error e) :
    maxChars < 1 ∧ e.IsValueError := by
  unfold copyableLiteralFor at h
  by_cases hmax : maxChars < 1
  · rw [if_pos hmax, Except.error.injEq] at h
    rw [← h]
    exact ⟨hmax, trivial⟩
  · rw [if_neg hmax] at h
    simp only at h
    have hliterals : ∀ literal ∈ ((candidates.flatMap fun candidate =>
        copyableLiteralVariants letters candidate.text maxChars).eraseDups.insertionSort fun a b =>
          textSimilarityRatio letters matcher quote b ≤
            textSimilarityRatio letters matcher quote a),
        ∃ candidate ∈ candidates, literal.toList <:+: candidate.text.toList := by
      intro literal hliteral
      rw [mem_insertionSort, mem_eraseDups, mem_flatMap] at hliteral
      rcases hliteral with ⟨candidate, hcandidate, hvariant⟩
      exact ⟨candidate, hcandidate, copyableLiteralVariants_infix hvariant⟩
    rcases firstBindable_returns hliterals with ⟨found, hfound⟩
    rw [hfound] at h
    cases h

end Literals

section Answers

/-- Quotes are bound one by one, or the call ends with a `ValueError`. -/
def Answered (quotes : List String) : Except CandidateError (List EvidenceCandidate) → Prop
  | .ok bound => bound.length = quotes.length
  | .error e => e.IsValueError

/-- Quotes are bound or refused, unless one of them straddles candidates and all quotes before it
    are bound. The search for a literal to copy never meets such a quote. -/
theorem resolveEvidenceQuotes_answered {ι : Type} [LinearOrder ι] [Zero ι] (letters : Letters)
    (repr : String → String) (matcher : List Char → List Char → ι)
    (candidates : List EvidenceCandidate) :
    (∀ quotes, Answered quotes (resolveEvidenceQuotes letters repr quotes candidates) ↔
      ¬ ∃ before quote after, quotes = before ++ quote :: after ∧
        (∀ q ∈ before, Binds letters candidates q) ∧ Straddles letters candidates quote) ∧
    ∀ quote maxChars e,
      copyableLiteralFor letters repr matcher quote candidates maxChars = .error e →
        e.IsValueError := by
  refine ⟨fun quotes => ?_, fun quote maxChars e h => (copyableLiteralFor_error h).2⟩
  have hassert : resolveEvidenceQuotes letters repr quotes candidates = .error .assertion ↔
      ∃ before quote after, quotes = before ++ quote :: after ∧
        (∀ q ∈ before, Binds letters candidates q) ∧ Straddles letters candidates quote := by
    unfold resolveEvidenceQuotes
    simp only [Outcome.mapM_error, bindQuote_returns, bindQuote_asserts]
  rw [← hassert]
  cases hresult : resolveEvidenceQuotes letters repr quotes candidates with
  | ok bound =>
    have hlength : bound.length = quotes.length := Outcome.mapM_length hresult
    simpa [Answered] using hlength
  | error e =>
    unfold Answered
    rw [Except.error.injEq]
    constructor
    · rintro hvalue rfl
      exact hvalue
    · intro hother
      unfold resolveEvidenceQuotes at hresult
      rcases Outcome.mapM_error.mp hresult with ⟨_, quote, _, _, _, hquote⟩
      exact bindQuote_error hquote hother

end Answers

namespace Sample

def plainLetters : Letters where
  casefold c := [c.toLower]
  isAlnum := Char.isAlphanum

def blockCandidate (blockId : StableId) (text : String) (hwritten : text ≠ "")
    (hlength : 0 < text.toList.length) : EvidenceCandidate where
  candidateId := candidateIdOf (candidatePayload blockId 1 0 text 0 text.toList.length)
  blockId := blockId
  chapterIndex := 1
  sceneIndex := 0
  text := text
  start := 0
  stop := text.toList.length
  contentHash := digest (candidatePayload blockId 1 0 text 0 text.toList.length).render
  positive := Nat.one_pos
  written := hwritten
  ordered := hlength

theorem goAhead_ne : "Go ahead." ≠ "" := by decide

theorem goAhead_pos : 0 < "Go ahead.".toList.length := by decide

def repeatedLines : List EvidenceCandidate := [
  blockCandidate ⟨"block.1", .refl true⟩ "Go ahead." (by decide) (by decide),
  blockCandidate ⟨"block.2", .refl true⟩ "Never mind." (by decide) (by decide),
  blockCandidate ⟨"block.3", by decide⟩ "Go ahead." (by decide) (by decide),
  blockCandidate ⟨"block.4", by decide⟩ "Never mind." (by decide) (by decide)]

end Sample

open Sample

/-- A quote across the boundary of two lines that are said twice fails the
    assertion, which is no `ValueError`. -/
theorem repeated_lines_assert :
    resolveEvidenceQuotes plainLetters id ["ahead. Never"] repeatedLines =
      .error .assertion ∧
    ¬ Answered ["ahead. Never"]
      (resolveEvidenceQuotes plainLetters id ["ahead. Never"] repeatedLines) := by
  have hassert : resolveEvidenceQuotes plainLetters id ["ahead. Never"]
      repeatedLines = .error .assertion := by decide +kernel
  refine ⟨hassert, ?_⟩
  rw [hassert]
  exact id

end NovelAgent.Evidence
