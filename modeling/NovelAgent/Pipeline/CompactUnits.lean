import Mathlib.Data.List.Forall2
import NovelAgent.Core.Outcome
import NovelAgent.Core.Scanner
import NovelAgent.Pipeline.Units

/-!
# Excerpts of Grounded Units

A long passage is represented by some of its sentences, each with a reference
that cites just that sentence.
-/

namespace NovelAgent.Pipeline

open Core Domain World List

/-- The sentences of a passage end with marks or with the line. -/
def blockSentence : SentenceRule where
  isMark c := c ∈ ['。', '！', '？', '!', '?', ';', '；']
  isGap c := c = '\n'
  manyMarks := true
  bareMarks := true

/-- A sentence of a passage, with its place. -/
@[ext]
structure Segment where
  sentence : List Char
  start : Nat
  stop : Nat
  ordered : start ≤ stop

instance : DecidableEq Segment := fun _ _ => decidable_of_iff _ Segment.ext_iff.symm

/-- The sentences of a passage that are not blank, without the space around them. -/
def textSegments (text : List Char) : List Segment :=
  (trimmed text (sentences blockSentence text 0 text.length)).pmap
    (fun s h => ⟨slice text s.start s.stop, s.start, s.stop, h⟩)
    fun _ hs => le_of_lt (lt_of_mem_trimmed hs)

section Terms

/-- `[a-z0-9_]` -/
def isWordChar (c : Char) : Bool := c.isLower || c.isDigit || c == '_'

/-- A Han character, from U+4E00 to U+9FFF. -/
def isHanChar (c : Char) : Bool := 0x4E00 ≤ c.toNat && c.toNat ≤ 0x9FFF

/-- The words that a query term never is. -/
def stopwords : List String :=
  ["a", "an", "and", "as", "at", "be", "by", "for", "from", "in", "is", "it", "of", "on", "or",
    "the", "to", "use", "with"]

/-- The runs of word characters and of Han characters. -/
def queryTokens (text : List Char) : List (List Char) :=
  (text.splitBy fun a b => isWordChar a == isWordChar b && isHanChar a == isHanChar b).filter
    fun run => run.any fun c => isWordChar c || isHanChar c

/-- The pairs of neighbours. -/
def bigrams (token : List Char) : List (List Char) :=
  (List.range (token.length - 1)).map fun i => slice token i (i + 2)

def tokenTerms (token : List Char) : List (List Char) :=
  if token.length < 2 ∨ String.ofList token ∈ stopwords then []
  else if token.all isHanChar ∧ 2 < token.length then bigrams token
  else [token]

/-- `_query_terms` -/
def queryTerms (casefold : String → String) (value : String) : List (List Char) :=
  ((queryTokens (casefold value).toList).flatMap tokenTerms).eraseDups

/-- How many of the terms occur in a sentence. -/
def termCount (casefold : String → String) (terms : List (List Char)) (sentence : List Char) : Nat :=
  terms.countP fun term => term <:+: (casefold (String.ofList sentence)).toList

end Terms

section Choice

/-- `_COMPACT_HEAD_BUDGET_RATIO` of the limit, rounded towards zero. -/
def headBudget (limit : Int) : Int := (2 * limit).tdiv 5

/-- The sentences at the head that a budget has room for, behind some characters. -/
def headSegments (budget : Int) : Nat → List Segment → List Segment
  | _, [] => []
  | chars, segment :: rest =>
    if budget < (chars + segment.sentence.length : Nat) then []
    else segment :: headSegments budget (chars + segment.sentence.length) rest

/-- The order of the sentences behind the head: by the terms that occur in them,
    then by their place. -/
def RankedBefore (casefold : String → String) (terms : List (List Char)) (a b : Segment × Nat) :
    Prop :=
  termCount casefold terms b.1.sentence < termCount casefold terms a.1.sentence ∨
    termCount casefold terms a.1.sentence = termCount casefold terms b.1.sentence ∧ a.2 ≤ b.2

instance (casefold : String → String) (terms : List (List Char)) :
    DecidableRel (RankedBefore casefold terms) := fun a b => by
  unfold RankedBefore
  infer_instance

/-- The places of the sentences that the limit has room for, behind some characters. -/
def fittingIndexes (limit : Int) : Nat → List (Segment × Nat) → List Nat
  | _, [] => []
  | chars, (segment, index) :: rest =>
    if limit < (chars + segment.sentence.length : Nat) then fittingIndexes limit chars rest
    else index :: fittingIndexes limit (chars + segment.sentence.length) rest

/-- Sentences joined by spaces. -/
def excerptOf (segments : List Segment) : List Char :=
  [' '].intercalate (segments.map Segment.sentence)

/-- Drop sentences from the end until the excerpt fits. -/
def popToFit (limit : Int) : Nat → List Segment → List Segment
  | 0, segments => segments
  | count + 1, segments =>
    if segments ≠ [] ∧ limit < (excerptOf segments).length then
      popToFit limit count segments.dropLast
    else segments

/-- The places of the sentences that are chosen, in order. -/
def chosenIndexes (casefold : String → String) (segments : List Segment) (queryText : String)
    (limit : Int) : List Nat :=
  let head := headSegments (headBudget limit) 0 segments
  let ranked := (segments.zipIdx.drop head.length).insertionSort
    (RankedBefore casefold (queryTerms casefold queryText))
  let headChars := (head.map fun segment => segment.sentence.length).sum
  (List.range head.length ++ fittingIndexes limit headChars ranked).insertionSort (· ≤ ·)

/-- `_compact_block_segments` -/
def compactBlockSegments (casefold : String → String) (text : List Char) (queryText : String)
    (limit : Int) : Option (List Segment) :=
  if (text.length : Int) ≤ limit then none
  else
    let segments := textSegments text
    if segments = [] then none
    else
      let selected := (chosenIndexes casefold segments queryText limit).filterMap
        fun index => segments[index]?
      let kept := popToFit limit selected.length selected
      if excerptOf kept = [] ∨ text.length ≤ (excerptOf kept).length then none else some kept

end Choice

section Units

/-- The reference that an excerpt's references are made from. The search for one to the unit's own
    block compares an identity with a text, which are never equal, and falls back to the first. -/
def parentReference (unit : RetrievalUnit) : Option EvidenceRef := unit.evidenceRefs.head?

/-- The address without its prefix. -/
def hashDigits (hash : ContentHash) : String := String.ofList (hash.root.toList.drop 7)

/-- `_segment_evidence_ref` -/
def segmentEvidenceRef (unit : RetrievalUnit) (segment : Segment) : Except String EvidenceRef :=
  match parentReference unit with
  | none => .error "grounded segment source requires an evidence reference"
  | some parent =>
    match parent.span with
    | none => .error "grounded segment source requires a precise span"
    | some span =>
      let segmentHash := digest (String.ofList segment.sentence)
      let token := String.ofList ((hashDigits segmentHash).toList.take 24)
      let readable := "evidence.segment." ++ unit.unitId.root ++ "." ++
        toString segment.start ++ "." ++ token
      let evidenceId :=
        if 128 < readable.toList.length then
          "evidence.segment." ++ hashDigits parent.objectHash ++ "." ++
            toString segment.start ++ "." ++ token
        else readable
      match StableId.ofString? evidenceId with
      | none => .error "segment evidence id is no stable identity"
      | some evidenceId =>
        .ok { parent with
          evidenceId := evidenceId
          quoteHash := some segmentHash
          span := some { span with
            start := segment.start, stop := segment.stop, ordered := segment.ordered } }

/-- `_compact_block_unit` -/
def compactBlockUnit (casefold : String → String) (unit : RetrievalUnit) (queryText : String)
    (limit : Int) : Except String (Option RetrievalUnit) :=
  if !unit.isGrounded then .ok none
  else
    match compactBlockSegments casefold unit.text.toList queryText limit with
    | none => .ok none
    | some segments => do
        let segmentRefs ← segments.mapM (segmentEvidenceRef unit)
        match StableId.ofString? ("compact." ++ unit.unitId.root) with
        | none => throw "compact unit id is no stable identity"
        | some compactId =>
          pure (some { unit with
            unitId := compactId
            text := String.ofList (excerptOf segments)
            evidenceRefs := segmentRefs
            sourceRefs := unit.sourceArtifact.toList
            parentUnitId := some unit.unitId
            parentUnitIds := (unit.parentUnitIds ++ [unit.unitId]).eraseDups })

/-- `COMPACT_BLOCK_EXCERPT_LIMIT` -/
def compactBlockExcerptLimit : Int := 320

/-- `COMPACT_FULL_TEXT_TOKEN_CAP` -/
def compactFullTextTokenCap : Nat := 200

end Units

section Kept

variable {casefold : String → String} {text : List Char} {queryText : String} {limit : Int}
  {segments : List Segment}

theorem textSegments_spec {segment : Segment} (h : segment ∈ textSegments text) :
    segment.sentence = slice text segment.start segment.stop ∧ segment.stop ≤ text.length := by
  unfold textSegments at h
  rcases mem_pmap.mp h with ⟨s, hs, rfl⟩
  have horder := ((@sentences_inOrder blockSentence text 0 text.length).trimmed text)
  exact ⟨rfl, le_trans (horder.bounds s hs).2 (min_le_right _ _)⟩

theorem pick_sublist {α : Type} (l : List α) : ∀ places : List Nat, places.Pairwise (· < ·) →
    (places.filterMap fun i => l[i]?).Sublist l := by
  induction l with
  | nil =>
    intro places _
    simp
  | cons a rest ih =>
    -- places behind the first one are places of the rest
    have hlater : ∀ places : List Nat, (∀ i ∈ places, 0 < i) → places.Pairwise (· < ·) →
        (places.filterMap fun i => (a :: rest)[i]?).Sublist rest := by
      intro places hpositive hincreasing
      have hsame : (places.filterMap fun i => (a :: rest)[i]?) =
          (places.map fun i => i - 1).filterMap fun i => rest[i]? := by
        rw [filterMap_map]
        refine filterMap_congr fun i hi => ?_
        cases i with
        | zero => exact absurd (hpositive 0 hi) (Nat.lt_irrefl 0)
        | succ i => rfl
      rw [hsame]
      refine ih _ (pairwise_map.mpr (hincreasing.imp_of_mem ?_))
      intro i j hi _ hij
      have := hpositive i hi
      omega
    intro places hincreasing
    cases places with
    | nil => simp
    | cons i later =>
      rw [pairwise_cons] at hincreasing
      by_cases hfirst : i = 0
      · subst hfirst
        exact (hlater later hincreasing.1 hincreasing.2).cons_cons a
      · refine (hlater (i :: later) ?_ (pairwise_cons.mpr hincreasing)).cons a
        intro j hj
        rcases mem_cons.mp hj with rfl | hj
        · omega
        · have := hincreasing.1 j hj
          omega

theorem headSegments_isPrefix (budget : Int) (segments : List Segment) :
    ∀ chars, headSegments budget chars segments <+: segments := by
  induction segments with
  | nil => exact fun _ => prefix_refl _
  | cons segment rest ih =>
    intro chars
    unfold headSegments
    split_ifs
    · exact nil_prefix
    · exact (prefix_cons_inj segment).mpr (ih _)

theorem fittingIndexes_sublist (limit : Int) (ranked : List (Segment × Nat)) :
    ∀ chars, (fittingIndexes limit chars ranked).Sublist (ranked.map Prod.snd) := by
  induction ranked with
  | nil => exact fun _ => List.Sublist.refl _
  | cons item rest ih =>
    intro chars
    unfold fittingIndexes
    split_ifs
    · exact (ih chars).cons _
    · exact (ih _).cons_cons _

theorem chosenIndexes_increasing (casefold : String → String) (segments : List Segment)
    (queryText : String) (limit : Int) :
    (chosenIndexes casefold segments queryText limit).Pairwise (· < ·) := by
  have hhead := (headSegments_isPrefix (headBudget limit) segments 0).length_le
  unfold chosenIndexes
  simp only
  generalize (headSegments (headBudget limit) 0 segments).length = count at hhead ⊢
  generalize hranked : (segments.zipIdx.drop count).insertionSort
    (RankedBefore casefold (queryTerms casefold queryText)) = ranked
  have hplaces : (segments.zipIdx.drop count).map Prod.snd =
      List.range' count (segments.length - count) := by
    rw [map_drop, zipIdx_map_snd, drop_range']
    simp
  have hperm : (ranked.map Prod.snd).Perm (List.range' count (segments.length - count)) := by
    rw [← hplaces, ← hranked]
    exact (perm_insertionSort _ _).map _
  have hlater : (ranked.map Prod.snd).Nodup := hperm.nodup_iff.mpr nodup_range'
  have hfitting := fittingIndexes_sublist limit ranked
    ((headSegments (headBudget limit) 0 segments).map fun segment =>
      segment.sentence.length).sum
  generalize fittingIndexes limit _ ranked = fitting at hfitting ⊢
  have hnodup : (List.range count ++ fitting).Nodup := by
    rw [nodup_append]
    refine ⟨nodup_range, hlater.sublist hfitting, ?_⟩
    intro i hi j hj
    have hplace := mem_range'_1.mp (hperm.subset (hfitting.subset hj))
    have hhead := mem_range.mp hi
    omega
  have hsorted := pairwise_insertionSort (· ≤ ·) (List.range count ++ fitting)
  have hdistinct : ((List.range count ++ fitting).insertionSort (· ≤ ·)).Nodup :=
    (perm_insertionSort _ _).nodup_iff.mpr hnodup
  exact (hsorted.and hdistinct).imp fun h => lt_of_le_of_ne h.1 h.2

theorem popToFit_spec (limit : Int) : ∀ (count : Nat) (segments : List Segment),
    segments.length ≤ count → popToFit limit count segments <+: segments ∧
      (popToFit limit count segments = [] ∨
        ((excerptOf (popToFit limit count segments)).length : Int) ≤ limit) := by
  intro count
  induction count with
  | zero =>
    intro segments hlength
    have hnil : segments = [] := eq_nil_of_length_eq_zero (by omega)
    rw [hnil]
    exact ⟨prefix_refl _, Or.inl rfl⟩
  | succ count ih =>
    intro segments hlength
    unfold popToFit
    by_cases hlong : segments ≠ [] ∧ limit < (excerptOf segments).length
    · rw [if_pos hlong]
      have hshorter := ih segments.dropLast (by rw [length_dropLast]; omega)
      exact ⟨hshorter.1.trans (List.dropLast_prefix segments), hshorter.2⟩
    · rw [if_neg hlong]
      refine ⟨prefix_refl _, ?_⟩
      by_cases hnil : segments = []
      · exact Or.inl hnil
      · right
        rw [not_and, not_lt] at hlong
        exact hlong hnil

/-- What is kept are sentences of the passage in their order. Joined by spaces they
    fit the limit, and are shorter than the passage. -/
theorem compactBlockSegments_spec
    (h : compactBlockSegments casefold text queryText limit = some segments) :
    segments.Sublist (textSegments text) ∧ ((excerptOf segments).length : Int) ≤ limit ∧
      (excerptOf segments).length < text.length := by
  unfold compactBlockSegments at h
  by_cases hshort : (text.length : Int) ≤ limit
  · rw [if_pos hshort] at h
    cases h
  · rw [if_neg hshort] at h
    by_cases hnone : textSegments text = []
    · simp only [if_pos hnone] at h
      cases h
    · simp only [if_neg hnone] at h
      have hchosen := pick_sublist (textSegments text) _
        (chosenIndexes_increasing casefold (textSegments text) queryText limit)
      generalize (chosenIndexes casefold (textSegments text) queryText limit).filterMap
        (fun index => (textSegments text)[index]?) = selected at h hchosen
      have hkept := popToFit_spec limit selected.length selected (le_refl _)
      split_ifs at h with hdropped
      rw [Option.some.injEq] at h
      subst h
      rw [not_or, not_le] at hdropped
      refine ⟨hkept.1.sublist.trans hchosen, ?_, hdropped.2⟩
      rcases hkept.2 with hnil | hfits
      · rw [hnil] at hdropped
        exact absurd rfl hdropped.1
      · exact hfits

end Kept

section Existence

variable {casefold : String → String} {text : List Char} {queryText : String} {limit : Int}
  {segments : List Segment} {segment : Segment}

theorem textSegments_pos (h : segment ∈ textSegments text) : 0 < segment.sentence.length := by
  have hstop := (textSegments_spec h).2
  unfold textSegments at h
  rcases mem_pmap.mp h with ⟨s, hs, rfl⟩
  have hlt := lt_of_mem_trimmed hs
  simp only [slice, length_take, length_drop] at hstop ⊢
  omega

theorem headSegments_short {budget : Int} : ∀ {chars : Nat},
    segment ∈ headSegments budget chars segments → (segment.sentence.length : Int) ≤ budget := by
  induction segments with
  | nil => exact fun h => absurd h not_mem_nil
  | cons first rest ih =>
    intro chars h
    unfold headSegments at h
    split_ifs at h with hlong
    · exact absurd h not_mem_nil
    · rcases mem_cons.mp h with rfl | h
      · omega
      · exact ih h

variable {ranked : List (Segment × Nat)} {index : Nat}

theorem fittingIndexes_short : ∀ {chars : Nat},
    index ∈ fittingIndexes limit chars ranked →
      ∃ segment, (segment, index) ∈ ranked ∧ (segment.sentence.length : Int) ≤ limit := by
  induction ranked with
  | nil => exact fun h => absurd h not_mem_nil
  | cons first rest ih =>
    rcases first with ⟨segment, place⟩
    intro chars h
    unfold fittingIndexes at h
    split_ifs at h with hlong
    · rcases ih h with ⟨other, hother, hshort⟩
      exact ⟨other, mem_cons_of_mem _ hother, hshort⟩
    · rcases mem_cons.mp h with rfl | h
      · exact ⟨segment, mem_cons_self, by omega⟩
      · rcases ih h with ⟨other, hother, hshort⟩
        exact ⟨other, mem_cons_of_mem _ hother, hshort⟩

theorem fittingIndexes_ne_nil {entry : Segment × Nat} (hentry : entry ∈ ranked)
    (hshort : (entry.1.sentence.length : Int) ≤ limit) : fittingIndexes limit 0 ranked ≠ [] := by
  induction ranked with
  | nil => exact absurd hentry not_mem_nil
  | cons first rest ih =>
    rcases first with ⟨segment, place⟩
    unfold fittingIndexes
    split_ifs with hlong
    · rcases mem_cons.mp hentry with rfl | hentry
      · simp only [Nat.zero_add] at hlong hshort
        omega
      · exact ih hentry
    · exact cons_ne_nil _ _

theorem mem_chosenIndexes_short (hlimit : 0 ≤ limit)
    (h : index ∈ chosenIndexes casefold segments queryText limit) :
    ∃ segment, segments[index]? = some segment ∧ (segment.sentence.length : Int) ≤ limit := by
  unfold chosenIndexes at h
  simp only at h
  rw [(perm_insertionSort _ _).mem_iff, mem_append] at h
  rcases h with h | h
  · rw [mem_range] at h
    have hprefix := headSegments_isPrefix (headBudget limit) segments 0
    have hplace := hprefix.getElem h
    have hshort := headSegments_short (getElem_mem h)
    have hbudget : headBudget limit ≤ limit := by
      unfold headBudget
      rw [Int.tdiv_eq_ediv_of_nonneg (by omega)]
      omega
    refine ⟨_, List.getElem?_eq_getElem (lt_of_lt_of_le h hprefix.length_le), ?_⟩
    rw [← hplace]
    omega
  · rcases fittingIndexes_short h with ⟨segment, hsegment, hshort⟩
    rw [(perm_insertionSort _ _).mem_iff] at hsegment
    exact ⟨segment, mk_mem_zipIdx_iff_getElem?.mp (mem_of_mem_drop hsegment), hshort⟩

theorem chosenIndexes_ne_nil (hsegment : segment ∈ segments)
    (hshort : (segment.sentence.length : Int) ≤ limit) :
    chosenIndexes casefold segments queryText limit ≠ [] := by
  unfold chosenIndexes
  simp only
  rw [Ne, ← length_eq_zero_iff, length_insertionSort, length_append,
    length_range]
  by_cases hhead : headSegments (headBudget limit) 0 segments = []
  · rcases getElem_of_mem hsegment with ⟨i, hi, hplace⟩
    have hentry : (segment, i) ∈ (segments.zipIdx.drop 0).insertionSort
        (RankedBefore casefold (queryTerms casefold queryText)) := by
      rw [(perm_insertionSort _ _).mem_iff, drop_zero,
        mk_mem_zipIdx_iff_getElem?, List.getElem?_eq_getElem hi, hplace]
    have hfitting := @fittingIndexes_ne_nil limit _ _ hentry hshort
    rw [Ne, ← length_eq_zero_iff] at hfitting
    simp only [hhead, length_nil, map_nil, sum_nil, Nat.zero_add]
    exact hfitting
  · rw [← length_eq_zero_iff] at hhead
    omega

theorem popToFit_ne_nil (count : Nat) : ∀ {segments : List Segment}, segments ≠ [] →
    (∀ segment ∈ segments, (segment.sentence.length : Int) ≤ limit) →
      popToFit limit count segments ≠ [] := by
  induction count with
  | zero => exact fun h _ => h
  | succ count ih =>
    intro segments hsome hshort
    unfold popToFit
    split_ifs with hlong
    · refine ih ?_ fun segment hsegment => hshort segment (mem_of_mem_dropLast hsegment)
      intro hlast
      rcases eq_nil_or_concat' segments with rfl | ⟨before, segment, rfl⟩
      · exact hsome rfl
      · rw [dropLast_concat] at hlast
        subst hlast
        have := hshort segment (mem_append_right _ mem_cons_self)
        have hexcerpt : excerptOf ([] ++ [segment]) = segment.sentence :=
          intercalate_singleton
        rw [hexcerpt] at hlong
        omega
    · exact hsome

theorem length_le_excerptOf (h : segment ∈ segments) :
    segment.sentence.length ≤ (excerptOf segments).length := by
  unfold excerptOf
  induction segments with
  | nil => exact absurd h not_mem_nil
  | cons first rest ih =>
    cases rest with
    | nil =>
      rw [mem_singleton.mp h, map_cons, map_nil, intercalate_singleton]
    | cons second rest =>
      rw [map_cons, map_cons, intercalate_cons_cons]
      simp only [length_append, length_cons, length_nil]
      rcases mem_cons.mp h with rfl | h
      · omega
      · have := ih h
        rw [map_cons] at this
        omega

/-- There is an excerpt of a passage exactly if it is too long and one of its sentences
    is short enough. What is asked for does not matter. -/
theorem compactBlockSegments_isSome_iff (hlimit : 0 ≤ limit) :
    (compactBlockSegments casefold text queryText limit).isSome = true ↔
      limit < text.length ∧
        ∃ segment ∈ textSegments text, (segment.sentence.length : Int) ≤ limit := by
  constructor
  · intro h
    rcases Option.isSome_iff_exists.mp h with ⟨kept, hkept⟩
    have hspec := compactBlockSegments_spec hkept
    have hexcerpt : excerptOf kept ≠ [] := by
      intro hnil
      unfold compactBlockSegments at hkept
      simp only at hkept
      split_ifs at hkept with _ _ hdropped
      rw [Option.some.injEq] at hkept
      rw [hkept, not_or] at hdropped
      exact hdropped.1 hnil
    constructor
    · unfold compactBlockSegments at hkept
      split_ifs at hkept with hshort
      omega
    · cases kept with
      | nil => exact absurd rfl hexcerpt
      | cons segment rest =>
        refine ⟨segment, hspec.1.subset mem_cons_self, ?_⟩
        have := length_le_excerptOf (mem_cons_self (a := segment) (l := rest))
        omega
  · intro h
    rcases h with ⟨hlong, segment, hsegment, hshort⟩
    have hsome : textSegments text ≠ [] := ne_nil_of_mem hsegment
    -- what is chosen is short, and something is
    have hchosen : ∀ other ∈ (chosenIndexes casefold (textSegments text) queryText
        limit).filterMap fun index => (textSegments text)[index]?,
        (other.sentence.length : Int) ≤ limit ∧ 0 < other.sentence.length := by
      intro other hother
      rcases mem_filterMap.mp hother with ⟨index, hindex, hplace⟩
      rcases mem_chosenIndexes_short hlimit hindex with ⟨same, hsame, hshort⟩
      rw [hplace, Option.some.injEq] at hsame
      subst hsame
      exact ⟨hshort, textSegments_pos (mem_of_getElem? hplace)⟩
    have hselected : (chosenIndexes casefold (textSegments text) queryText limit).filterMap
        (fun index => (textSegments text)[index]?) ≠ [] := by
      rcases exists_mem_of_ne_nil _ (@chosenIndexes_ne_nil casefold
        queryText _ _ _ hsegment hshort) with ⟨index, hindex⟩
      rcases mem_chosenIndexes_short hlimit hindex with ⟨other, hother, _⟩
      exact ne_nil_of_mem (mem_filterMap.mpr ⟨index, hindex, hother⟩)
    unfold compactBlockSegments
    simp only
    rw [if_neg (not_le.mpr hlong), if_neg hsome]
    generalize (chosenIndexes casefold (textSegments text) queryText limit).filterMap
      (fun index => (textSegments text)[index]?) = selected at hchosen hselected ⊢
    have hpopped := popToFit_spec limit selected.length selected (le_refl _)
    have hkept := popToFit_ne_nil selected.length hselected fun other hother => (hchosen other hother).1
    rcases exists_mem_of_ne_nil _ hkept with ⟨first, hfirst⟩
    have hlength := length_le_excerptOf hfirst
    have hpositive := (hchosen first (hpopped.1.subset hfirst)).2
    have hfits := hpopped.2.resolve_left hkept
    rw [if_neg, Option.isSome_some]
    rw [not_or, not_le, ← length_eq_zero_iff]
    omega

/-- What is made of a grounded unit: nothing without an excerpt, and otherwise a grounded
    unit under an identity of its own, whose text is bounded and shorter. -/
theorem compactBlockUnit_cases {unit : RetrievalUnit} {result : Option RetrievalUnit}
    (hgrounded : unit.isGrounded = true)
    (h : compactBlockUnit casefold unit queryText limit = .ok result) :
    (result = none ∧ compactBlockSegments casefold unit.text.toList queryText limit = none) ∨
      ∃ compact, result = some compact ∧ compact.isGrounded = true ∧
        compact.unitId.root = "compact." ++ unit.unitId.root ∧
        (compactBlockSegments casefold unit.text.toList queryText limit).isSome = true ∧
        (compact.text.toList.length : Int) ≤ limit ∧
        compact.text.toList.length < unit.text.toList.length := by
  unfold compactBlockUnit at h
  rw [hgrounded] at h
  simp only [Bool.not_true, Bool.false_eq_true, if_false] at h
  cases hsegments : compactBlockSegments casefold unit.text.toList queryText limit with
  | none =>
    rw [hsegments, Except.ok.injEq] at h
    exact Or.inl ⟨h.symm, rfl⟩
  | some segments =>
    rw [hsegments] at h
    simp only [Outcome.bind_eq_ok] at h
    rcases h with ⟨references, _, h⟩
    have hspec := compactBlockSegments_spec hsegments
    cases hid : StableId.ofString? ("compact." ++ unit.unitId.root) with
    | none =>
      rw [hid] at h
      cases h
    | some compactId =>
      rw [hid] at h
      simp only [Outcome.pure_eq_ok] at h
      refine Or.inr ⟨_, h.symm, hgrounded, (StableId.ofString?_eq_some _ _).mp hid, rfl, ?_⟩
      simp only [String.toList_ofList]
      exact hspec.2

end Existence

section Cited

variable {label : String} {evidence : EvidenceRef} {root : TextRootDocument} {unit : RetrievalUnit}
  {text : String}

theorem resolveEvidenceText_eq_ok : resolveEvidenceText label evidence root = .ok text ↔
    ∃ span block, evidence.span = some span ∧ root.block? span.blockId = some block ∧
      (span.stop ≤ block.text.toList.length ∧ evidence.chapterId = some block.chapterId ∧
        evidence.sceneId = block.sceneId ∧ evidence.objectHash = digest block.text) ∧
      evidence.quoteHash = some (digest (block.quote span)) ∧ block.quote span = text := by
  unfold resolveEvidenceText
  cases hspan : evidence.span with
  | none => simp
  | some span =>
    cases hblock : root.block? span.blockId with
    | none => simp [hblock]
    | some block =>
      simp only [Option.some.injEq, hblock, exists_eq_left', ↓existsAndEq, true_and]
      split_ifs with hunresolved hquote
      · simp only [false_iff]
        intro h
        rcases hunresolved with hlong | hchapter | hscene | hobject
        · omega
        · exact hchapter h.1.2.1
        · exact hscene h.1.2.2.1
        · exact hobject h.1.2.2.2
      · simp only [false_iff]
        exact fun h => hquote h.2.1
      · rw [Except.ok.injEq]
        simp only [not_or, not_lt, not_not, Ne] at hunresolved hquote
        exact ⟨fun h => ⟨hunresolved, hquote, h⟩, fun h => h.2.2⟩

theorem slice_slice {text : List Char} {start stop i j : Nat}
    (hj : j ≤ (slice text start stop).length) :
    slice (slice text start stop) i j = slice text (start + i) (start + j) := by
  unfold slice at hj ⊢
  rw [length_take, length_drop] at hj
  rw [drop_take, drop_drop, take_take]
  congr 1
  omega

variable {span : TextSpanRef}

/-- The reference of a sentence cites it exactly if the block has the same text at the place of the
    sentence in the passage, counted from the beginning of the block. -/
theorem segment_resolves_iff {segment : Segment} {reference : EvidenceRef} {block : TextBlock}
    (hparent : parentReference unit = some evidence)
    (hresolves : resolveEvidenceText label evidence root = .ok unit.text)
    (hspan : evidence.span = some span) (hblock : root.block? span.blockId = some block)
    (hsegment : segment ∈ textSegments unit.text.toList)
    (h : segmentEvidenceRef unit segment = .ok reference) :
    resolveEvidenceText label reference root = .ok (String.ofList segment.sentence) ↔
      slice block.text.toList segment.start segment.stop =
        slice block.text.toList (span.start + segment.start) (span.start + segment.stop) := by
  rcases resolveEvidenceText_eq_ok.mp hresolves with
    ⟨span', block', hspan', hblock', hplace, _, hquote⟩
  rw [hspan, Option.some.injEq] at hspan'
  subst hspan'
  rw [hblock, Option.some.injEq] at hblock'
  subst hblock'
  rcases textSegments_spec hsegment with ⟨hsentence, hstop⟩
  have htext : unit.text.toList = slice block.text.toList span.start span.stop := by
    rw [← hquote]
    exact String.toList_ofList
  have hsliced : segment.sentence =
      slice block.text.toList (span.start + segment.start) (span.start + segment.stop) := by
    rw [hsentence, htext]
    rw [htext] at hstop
    exact slice_slice hstop
  have hlength : segment.stop ≤ block.text.toList.length := by
    rw [htext] at hstop
    unfold slice at hstop
    rw [length_take, length_drop] at hstop
    omega
  unfold segmentEvidenceRef at h
  simp only [hparent, hspan] at h
  split at h
  · cases h
  · rw [Except.ok.injEq] at h
    subst h
    rw [resolveEvidenceText_eq_ok, ← hsliced]
    constructor
    · intro hcites
      rcases hcites with ⟨cited, citedBlock, hcited, hcitedBlock, _, _, hsame⟩
      rw [Option.some.injEq] at hcited
      subst hcited
      rw [hblock, Option.some.injEq] at hcitedBlock
      subst hcitedBlock
      have hchars := congrArg String.toList hsame
      rw [String.toList_ofList] at hchars
      exact Eq.trans String.toList_ofList.symm hchars
    · intro hsame
      have hcited : block.quote { span with
          start := segment.start, stop := segment.stop, ordered := segment.ordered } =
          String.ofList segment.sentence := by
        rw [← hsame]
        rfl
      exact ⟨_, block, rfl, hblock, ⟨hlength, hplace.2⟩, by rw [hcited], hcited⟩

/-- What holds of linked items, in terms of the items on one side, by induction on the link. -/
theorem forall₂_iff_of_linked {α β : Type} {R : α → β → Prop} {P : β → α → Prop} {Q : α → Prop}
    {items : List α} {results : List β} (h : List.Forall₂ R items results)
    (hiff : ∀ a ∈ items, ∀ b, R a b → (P b a ↔ Q a)) :
    List.Forall₂ P results items ↔ ∀ a ∈ items, Q a := by
  induction h with
  | nil => simp
  | @cons a b _ _ hab _ ih =>
    rw [forall₂_cons, forall_mem_cons, hiff a mem_cons_self b hab,
      ih fun a ha => hiff a (mem_cons_of_mem _ ha)]

/-- An excerpt is shorter than its unit and fits the limit. It is the sentences that
    are kept, in the order of the passage and joined by spaces, and its references
    are one for each. They cite exactly these sentences if and only if the block
    has each of them at the same place from its beginning as the passage. -/
theorem compactBlockUnit_cites (casefold : String → String) (root : TextRootDocument)
    (unit compact : RetrievalUnit) (queryText label : String) (limit : Int)
    (evidence : EvidenceRef) (hparent : parentReference unit = some evidence)
    (hresolves : resolveEvidenceText label evidence root = .ok unit.text)
    (h : compactBlockUnit casefold unit queryText limit = .ok (some compact)) :
    ∃ segments, compactBlockSegments casefold unit.text.toList queryText limit = some segments ∧
      ((compact.text.toList.length : Int) ≤ limit ∧
        compact.text.toList.length < unit.text.toList.length ∧
        segments.Sublist (textSegments unit.text.toList) ∧
        compact.text.toList = [' '].intercalate (segments.map Segment.sentence)) ∧
      ∃ span block, evidence.span = some span ∧ root.block? span.blockId = some block ∧
        (List.Forall₂ (fun reference segment => resolveEvidenceText label reference root =
            .ok (String.ofList segment.sentence)) compact.evidenceRefs segments ↔
          ∀ segment ∈ segments, slice block.text.toList segment.start segment.stop =
            slice block.text.toList (span.start + segment.start) (span.start + segment.stop)) := by
  unfold compactBlockUnit at h
  by_cases hgrounded : (!unit.isGrounded) = true
  · rw [if_pos hgrounded] at h
    cases h
  · rw [if_neg hgrounded] at h
    cases hsegments : compactBlockSegments casefold unit.text.toList queryText limit with
    | none =>
      rw [hsegments] at h
      cases h
    | some segments =>
      rw [hsegments] at h
      simp only [Outcome.bind_eq_ok] at h
      rcases h with ⟨references, hreferences, h⟩
      have hkept := compactBlockSegments_spec hsegments
      cases hid : StableId.ofString? ("compact." ++ unit.unitId.root) with
      | none =>
        rw [hid] at h
        cases h
      | some compactId =>
        rw [hid] at h
        simp only [Outcome.pure_eq_ok, Option.some.injEq] at h
        subst h
        refine ⟨segments, rfl, ?_, ?_⟩
        · simp only [String.toList_ofList]
          exact ⟨hkept.2.1, hkept.2.2, hkept.1, rfl⟩
        · rcases resolveEvidenceText_eq_ok.mp hresolves with ⟨span, block, hspan, hblock, _⟩
          refine ⟨span, block, hspan, hblock, ?_⟩
          refine forall₂_iff_of_linked (Outcome.mapM_linked.mp hreferences) ?_
          intro segment hsegment reference hreference
          exact segment_resolves_iff hparent hresolves hspan hblock
            (hkept.1.subset hsegment) hreference

theorem segmentEvidenceRef_returns {segment : Segment}
    (hparent : parentReference unit = some evidence) (hspan : evidence.span = some span)
    (hhead : isStableId ("evidence.segment." ++ unit.unitId.root ++ "." ++
      toString segment.start ++ ".") = true)
    (hfit : ("evidence.segment." ++ unit.unitId.root ++ "." ++ toString segment.start ++
      ".").toList.length + 2 * 12 ≤ 128) :
    ∃ reference, segmentEvidenceRef unit segment = .ok reference := by
  have htoken : String.ofList ((hashDigits (digest (String.ofList segment.sentence))).toList.take 24)
      = (HexToken.ofDigest 12 (by decide) (String.ofList segment.sentence)).text := by
    have hdrop : ∀ text, ("sha256:" ++ text).toList.drop 7 = text.toList := by
      intro text
      have hlength : "sha256:".toList.length = 7 := by decide
      rw [String.toList_append, ← hlength, drop_left]
    simp only [hashDigits, digest, HexToken.ofDigest, String.toList_ofList, hdrop]
  have hvalid := isStableId_append_token _
    (HexToken.ofDigest 12 (by decide) (String.ofList segment.sentence)) hhead hfit
  have hshort : ¬ 128 < ("evidence.segment." ++ unit.unitId.root ++ "." ++ toString segment.start ++
      "." ++ (HexToken.ofDigest 12 (by decide) (String.ofList segment.sentence)).text).toList.length
      := by
    rw [String.toList_append, length_append, HexToken.length_eq]
    omega
  have hid : StableId.ofString? ("evidence.segment." ++ unit.unitId.root ++ "." ++
      toString segment.start ++ "." ++
      (HexToken.ofDigest 12 (by decide) (String.ofList segment.sentence)).text) =
      some ⟨_, hvalid⟩ := dif_pos hvalid
  unfold segmentEvidenceRef
  simp only [hparent, hspan, htoken, if_neg hshort, hid]
  exact ⟨_, rfl⟩

end Cited

namespace Sample

def citedBlock : TextBlock where
  blockId := ⟨"block.1", .refl true⟩
  chapterId := ⟨"chapter.1", .refl true⟩
  sceneId := some ⟨"scene.1", .refl true⟩
  narrativeIndex := 0
  text := "xx a! b! c!"

def citedRoot : TextRootDocument where
  rootHash := digest "root"
  schemaVersion := ⟨"1.0.0", .refl true⟩
  prelude := none
  chapters := [{
    chapterId := ⟨"chapter.1", .refl true⟩
    chapterIndex := 1
    title := none
    scenes := [{
      sceneId := ⟨"scene.1", .refl true⟩
      sceneIndex := 0
      title := none
      blocks := [citedBlock]
      valid := by decide }]
    positive := Nat.one_pos
    valid := by decide }]
  valid := by decide

def citedFrom (start : Nat) (h : start ≤ 11) : EvidenceRef where
  evidenceId := ⟨"evidence.1", .refl true⟩
  rootHash := digest "root"
  objectHash := digest citedBlock.text
  chapterId := some citedBlock.chapterId
  sceneId := citedBlock.sceneId
  span := some ⟨citedBlock.blockId, .unicodeCodepoint, start, 11, h⟩
  quoteHash := some (digest (citedBlock.quote ⟨citedBlock.blockId, .unicodeCodepoint, start, 11, h⟩))
  supportStatus := .current
  resolvedAtCommit := digest "commit"

def citedUnit (start : Nat) (h : start ≤ 11) : RetrievalUnit where
  unitId := ⟨"expanded.evidence.1", by decide⟩
  unitKind := .groundedSpan
  sourceCommit := digest "commit"
  snapshotId := ⟨"snapshot.1", .refl true⟩
  sourceArtifact := none
  sourceRefs := []
  contentHash := none
  text := citedBlock.quote ⟨citedBlock.blockId, .unicodeCodepoint, start, 11, h⟩
  entityIds := []
  predicate := none
  parentUnitId := none
  parentUnitIds := []
  worldline := "main"
  narrativeStart := none
  narrativeEnd := none
  truthClass := none
  accessScope := "writer_safe"
  informationLabel := "observed"
  evidenceRefs := [citedFrom start h]
  mandatory := false
  others := .null

variable (start : Nat)

theorem citedUnit_resolves (h : start ≤ 11) :
    resolveEvidenceText "anchor" (citedFrom start h) citedRoot =
      .ok (citedUnit start h).text := by
  refine resolveEvidenceText_eq_ok.mpr ⟨_, citedBlock, rfl, rfl, ⟨?_, rfl, rfl, rfl⟩, rfl, rfl⟩
  exact (by decide : 11 ≤ citedBlock.text.toList.length)

theorem compact_citedUnit (h : start ≤ 11) (limit : Int) (segments : List Segment)
    (hkept : compactBlockSegments id (citedUnit start h).text.toList "" limit = some segments)
    (hplaces : ∀ segment ∈ segments, segment.start ∈ [0, 3]) :
    ∃ compact, compactBlockUnit id (citedUnit start h) "" limit = .ok (some compact) ∧
      compact.text = String.ofList (excerptOf segments) ∧
      segments.mapM (segmentEvidenceRef (citedUnit start h)) = .ok compact.evidenceRefs := by
  have hroot : (citedUnit start h).unitId.root = "expanded.evidence.1" := rfl
  have hreturns : ∀ segment ∈ segments,
      ∃ reference, segmentEvidenceRef (citedUnit start h) segment = .ok reference := by
    intro segment hsegment
    have hplace := hplaces segment hsegment
    simp only [mem_cons, not_mem_nil, or_false] at hplace
    refine @segmentEvidenceRef_returns (citedFrom start h) _ _ _ rfl rfl ?_ ?_
    · rw [hroot]
      rcases hplace with hplace | hplace
      · rw [hplace]
        decide
      · rw [hplace]
        decide
    · rw [hroot]
      rcases hplace with hplace | hplace
      · rw [hplace]
        decide
      · rw [hplace]
        decide
  rcases (Outcome.mapM_returns _ segments).mpr hreturns with ⟨references, hreferences⟩
  have hgrounded : (!(citedUnit start h).isGrounded) = false := rfl
  have hid : StableId.ofString? ("compact." ++ (citedUnit start h).unitId.root) =
      some ⟨"compact.expanded.evidence.1", by decide⟩ := by
    rw [hroot]
    decide
  unfold compactBlockUnit
  rw [hgrounded, hkept]
  simp only [Bool.false_eq_true, if_false, hreferences, hid, bind, Except.bind]
  exact ⟨_, rfl, rfl, rfl⟩

end Sample

open Sample

/-- The passage starts inside the block. Its sentences are at other places of the
    block, and the reference of the first one does not cite it. -/
theorem compactBlockUnit_miscites :
    resolveEvidenceText "anchor" (citedFrom 3 (by decide)) citedRoot =
      .ok (citedUnit 3 (by decide)).text ∧
    ∃ compact, compactBlockUnit id (citedUnit 3 (by decide)) "" 5 = .ok (some compact) ∧
      compact.text = "a! b!" ∧
      ¬ List.Forall₂ (fun reference sentence =>
        resolveEvidenceText "anchor" reference citedRoot = .ok sentence)
        compact.evidenceRefs ["a!", "b!"] := by
  refine ⟨citedUnit_resolves 3 (by decide), ?_⟩
  have hkept : compactBlockSegments id (citedUnit 3 (by decide)).text.toList "" 5 =
      some [⟨['a', '!'], 0, 2, by decide⟩, ⟨['b', '!'], 3, 5, by decide⟩] := by decide
  rcases compact_citedUnit 3 (by decide) 5 _ hkept (by decide) with
    ⟨compact, hcompact, htext, hreferences⟩
  refine ⟨compact, hcompact, htext.trans (by decide), ?_⟩
  intro hcites
  have hlinked := Outcome.mapM_linked.mp hreferences
  cases hreference : compact.evidenceRefs with
  | nil =>
    rw [hreference] at hlinked
    cases hlinked
  | cons reference rest =>
    rw [hreference, forall₂_cons] at hlinked hcites
    have hplace := (@segment_resolves_iff _ (citedFrom 3 (by decide)) _ _ _ _ _ _ rfl
      (citedUnit_resolves 3 (by decide)) rfl
      (rfl : citedRoot.block? citedBlock.blockId = some citedBlock)
      (by decide) hlinked.1).mp hcites.1
    exact absurd hplace (by decide)

/-- The passage is the whole block. -/
theorem compactBlockUnit_cites_sample :
    ∃ compact, compactBlockUnit id (citedUnit 0 (by decide)) "" 6 = .ok (some compact) ∧
      ∃ segments, compactBlockSegments id (citedUnit 0 (by decide)).text.toList "" 6 =
          some segments ∧
        ((compact.text.toList.length : Int) ≤ 6 ∧
          compact.text.toList.length < (citedUnit 0 (by decide)).text.toList.length ∧
          segments.Sublist (textSegments (citedUnit 0 (by decide)).text.toList) ∧
          compact.text.toList = [' '].intercalate (segments.map Segment.sentence)) ∧
        ∃ span block, (citedFrom 0 (by decide)).span = some span ∧
          citedRoot.block? span.blockId = some block ∧
          (List.Forall₂ (fun reference segment =>
              resolveEvidenceText "anchor" reference citedRoot =
                .ok (String.ofList segment.sentence)) compact.evidenceRefs segments ↔
            ∀ segment ∈ segments, slice block.text.toList segment.start segment.stop =
              slice block.text.toList (span.start + segment.start)
                (span.start + segment.stop)) := by
  have hkept : compactBlockSegments id (citedUnit 0 (by decide)).text.toList "" 6 =
      some [⟨['x', 'x', ' ', 'a', '!'], 0, 5, by decide⟩] := by decide
  rcases compact_citedUnit 0 (by decide) 6 _ hkept (by decide) with
    ⟨compact, hcompact, _⟩
  exact ⟨compact, hcompact, compactBlockUnit_cites id citedRoot _ compact "" "anchor" 6
    (citedFrom 0 (by decide)) rfl (citedUnit_resolves 0 (by decide)) hcompact⟩

end NovelAgent.Pipeline
