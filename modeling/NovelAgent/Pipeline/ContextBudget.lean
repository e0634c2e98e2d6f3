import NovelAgent.Pipeline.ContextCompiler

/-!
# Budget of a Context

That a compilation which returns has spent what it says, and has left nothing out
without saying so. Two needs that cite the same block are the example, in which the
excerpt of a passage is charged and the passage too.
-/

namespace NovelAgent.Pipeline

open Core Domain World List

open Retrieval (Stage1MemoryNeed)

/-- The passes end. When a compilation returns, no identity is included twice, the
    report gives what the mandatory and the optional units cost, and the optional ones
    fit what the mandatory ones leave of the budget. Mandatory units, and the best
    candidate of a mandatory need, are included with the passages behind them. Any other
    selected unit or passage is dropped if and only if it is not included. -/
theorem compile_balances (casefold : String → String)
    (pairs : List (Stage1MemoryNeed × RetrievalTrace)) (root : TextRootDocument)
    (contextId : StableId) (baseCommit : CommitId) (snapshotId : StableId) (taskContract : String)
    (tokenBudget : Int) :
    compile casefold pairs root contextId baseCommit snapshotId taskContract tokenBudget ≠
        .error .unfinished ∧
      ∀ compilation, compile casefold pairs root contextId baseCommit snapshotId taskContract
          tokenBudget = .ok compilation →
        (compilation.included.map RetrievalUnit.unitId).Nodup ∧
        (compilation.package.budgetReport.mandatoryTokens = tokensOf compilation.mandatory ∧
          compilation.package.budgetReport.optionalTokens =
            tokensOf compilation.selectedOptional ∧
          (compilation.package.budgetReport.optionalTokens : Int) ≤
            max 0 (tokenBudget - compilation.package.budgetReport.mandatoryTokens)) ∧
        ∀ pair ∈ pairs, ∀ candidate ∈ pair.2.candidates, candidate.selected = true →
          ∃ expansion, expand [candidate] root = .ok expansion ∧
            ∀ unit ∈ candidate.unit :: expansion,
              (Required pair candidate →
                unit.unitId ∈ compilation.mandatory.map RetrievalUnit.unitId) ∧
              (unit.unitId ∈ compilation.package.budgetReport.droppedOptionalUnitIds ↔
                unit.unitId ∉ compilation.included.map RetrievalUnit.unitId) := by
  refine ⟨compile_ne_unfinished, ?_⟩
  intro compilation h
  rcases compile_eq_ok h with
    ⟨collection, packer, lanes, hcollection, hpacked, hmandatory, hoptional, hreport⟩
  have hbalanced := pack_balanced (collect_balanced hcollection) (collect_distinct hcollection)
    hpacked
  have hincluded : compilation.included.map RetrievalUnit.unitId = packer.includedIds := by
    rw [hbalanced.ids, Compilation.included, hmandatory, hoptional]
  rw [hincluded, hreport, hmandatory, hoptional]
  refine ⟨hbalanced.nodup, ⟨rfl, hbalanced.spent, ?_⟩, ?_⟩
  · have hleft := hbalanced.left
    simp only
    omega
  · intro pair hpair candidate hcandidate hselected
    rcases collect_covers hcollection hpair hcandidate hselected with ⟨expansion, hexpand, hcovers⟩
    refine ⟨expansion, hexpand, ?_⟩
    intro unit hunit
    constructor
    · intro hrequired
      rcases hcovers unit hunit with hmem | ⟨hnot, _⟩
      · exact hmem
      · exact absurd hrequired hnot
    · rw [mem_dropped]
      constructor
      · exact fun hdropped => hdropped.2
      · intro hout
        rcases hcovers unit hunit with hmem | ⟨_, hmem⟩
        · rw [hbalanced.ids, map_append, mem_append, not_or] at hout
          exact absurd hmem hout.1
        · exact ⟨hmem, hout⟩

section Returns

variable {casefold : String → String} {packer : Packer} {need : Stage1MemoryNeed}
  {group units : List RetrievalUnit} {unit compact : RetrievalUnit}

theorem tooLarge_iff : packer.tooLarge unit = true ↔ unit.isGrounded = true ∧
    (packer.remaining < estimateTokens unit.text ∨
      compactFullTextTokenCap < estimateTokens unit.text) := by
  unfold Packer.tooLarge
  simp only [Bool.and_eq_true, Bool.or_eq_true, decide_eq_true_eq]

theorem newUnits_eq_self (h : ∀ unit ∈ group, unit.unitId ∉ packer.includedIds) :
    packer.newUnits group = group := by
  unfold Packer.newUnits
  rw [filter_eq_self]
  intro unit hunit
  exact decide_eq_true (h unit hunit)

theorem chargedUnits_small (h : packer.tooLarge unit = false) :
    packer.chargedUnits casefold need [unit] = .ok (some [unit]) := by
  unfold Packer.chargedUnits Packer.substitution
  simp only [h, Bool.false_eq_true, if_false]
  rfl

theorem chargedUnits_compact (hlarge : packer.tooLarge unit = true)
    (hcompact : compactBlockUnit casefold unit need.queryText compactBlockExcerptLimit =
      .ok (some compact)) (hout : compact.unitId ∉ packer.includedIds)
    (hfits : estimateTokens compact.text ≤ packer.remaining) :
    packer.chargedUnits casefold need [unit] = .ok (some [compact]) := by
  unfold Packer.chargedUnits Packer.substitution
  simp only [hlarge, if_true, hcompact, bind, Except.bind, if_neg hout, if_pos hfits]
  rfl

/-- Admissions that return. -/
theorem includeIfFits_returns (hsome : packer.newUnits group ≠ [])
    (hcharged : packer.chargedUnits casefold need (packer.newUnits group) = .ok (some units))
    (hfits : tokensOf units ≤ packer.remaining) :
    includeIfFits casefold packer need group = .ok (packer.add units, true) := by
  have hraised : raising (.ok (some units) : Except String _) = .ok (some units) := rfl
  unfold includeIfFits
  simp only
  rw [if_neg hsome, hcharged]
  simp only [hraised, bind, Except.bind, if_neg (not_lt.mpr hfits), pure, Except.pure]

theorem packingOrder_eq {lanes : List Lane}
    (h : lanes.Pairwise fun a b => b.need.priority ≤ a.need.priority) :
    (lanes.zipIdx.insertionSort PackedBefore).map Prod.fst = lanes := by
  have hsorted : lanes.zipIdx.Pairwise PackedBefore := by
    rw [pairwise_iff_getElem] at h ⊢
    intro i j hi hj hij
    rw [length_zipIdx] at hi hj
    have hpriority := h i j hi hj hij
    simp only [getElem_zipIdx]
    unfold PackedBefore
    simp only [Nat.zero_add]
    omega
  rw [hsorted.insertionSort_eq, zipIdx_map_fst]

/-- Collections that return. -/
theorem collect_returns {pairs : List (Stage1MemoryNeed × RetrievalTrace)}
    {root : TextRootDocument} {baseCommit : CommitId} {snapshotId : StableId} {tokenBudget : Int}
    {contributions : List Contribution} (hbudget : 1 ≤ tokenBudget)
    (h : List.Forall₂ (fun pair item => contribution root baseCommit snapshotId pair = .ok item)
      pairs contributions)
    (hpriority : contributions.Pairwise fun a b => b.need.priority ≤ a.need.priority) :
    ∃ collection, collect pairs root baseCommit snapshotId tokenBudget = .ok collection ∧
      collection.contributions = contributions ∧
      collection.lanes = contributions.map Contribution.lane := by
  have hcontributions := Outcome.mapM_linked.mpr h
  unfold collect
  rw [if_neg (not_lt.mpr hbudget), hcontributions]
  refine ⟨_, rfl, rfl, packingOrder_eq ?_⟩
  exact pairwise_map.mpr hpriority

end Returns

namespace Sample

def longChars : List Char := 'a' :: '!' :: List.replicate 800 'b'

theorem longChars_length : longChars.length = 802 := by
  unfold longChars
  rw [length_cons, length_cons, length_replicate]

def longBlock : TextBlock where
  blockId := ⟨"block.2", .refl true⟩
  chapterId := ⟨"chapter.1", .refl true⟩
  sceneId := some ⟨"scene.1", .refl true⟩
  narrativeIndex := 0
  text := String.ofList longChars

def longRoot : TextRootDocument where
  rootHash := digest "root"
  schemaVersion := ⟨"1.0.0", .refl true⟩
  prelude := none
  chapters := [{
    chapterId := ⟨"chapter.1", .refl true⟩
    chapterIndex := 1
    title := none
    scenes := [{
      sceneId := ⟨"scene.1", .refl true⟩
      sceneIndex := 0
      title := none
      blocks := [longBlock]
      valid := by decide }]
    positive := Nat.one_pos
    valid := by decide }]
  valid := by decide

def longEvidence (evidenceId : StableId) (stop : Nat) : EvidenceRef where
  evidenceId := evidenceId
  rootHash := digest "root"
  objectHash := digest longBlock.text
  chapterId := some longBlock.chapterId
  sceneId := longBlock.sceneId
  span := some ⟨longBlock.blockId, .unicodeCodepoint, 0, stop, Nat.zero_le _⟩
  quoteHash := some (digest (String.ofList (longChars.take stop)))
  supportStatus := .current
  resolvedAtCommit := digest "commit"

def wholeEvidence : EvidenceRef := longEvidence ⟨"e.1", by decide⟩ 802

def sentenceEvidence : EvidenceRef := longEvidence ⟨"e.2", by decide⟩ 2

def ringSnapshot : StableId := ⟨"snapshot.1", .refl true⟩

def citingAnchor (unitId : StableId) (evidenceRefs : List EvidenceRef) : RetrievalUnit where
  unitId := unitId
  unitKind := .factAnchor
  sourceCommit := digest "commit"
  snapshotId := ringSnapshot
  sourceArtifact := some (digest "root")
  sourceRefs := [digest "root"]
  contentHash := none
  text := "ring"
  entityIds := []
  predicate := none
  parentUnitId := none
  parentUnitIds := []
  worldline := "main"
  narrativeStart := none
  narrativeEnd := none
  truthClass := none
  accessScope := "writer_safe"
  informationLabel := "observed"
  evidenceRefs := evidenceRefs
  mandatory := false
  others := .null

def firstAnchor : RetrievalUnit := citingAnchor ⟨"anchor.1", by decide⟩ [wholeEvidence]

def secondAnchor : RetrievalUnit :=
  citingAnchor ⟨"anchor.2", by decide⟩ [wholeEvidence, sentenceEvidence]

def wholePassage (anchor : RetrievalUnit) : RetrievalUnit :=
  withContentMetadata (passageUnit anchor wholeEvidence ⟨"expanded.e.1", by decide⟩
    (String.ofList (longChars.take 802)) longRoot)

def sentencePassage (anchor : RetrievalUnit) : RetrievalUnit :=
  withContentMetadata (passageUnit anchor sentenceEvidence ⟨"expanded.e.2", by decide⟩
    (String.ofList (longChars.take 2)) longRoot)

def foundCandidate (unit : RetrievalUnit) : FusedCandidate where
  unit := unit
  fusedRank := 1
  rrfScore := 1
  channelHits := [{
    unit := unit
    channel := .anchorBm25
    channelRank := 1
    rawScore := 1
    candidateCount := 1
    hitReason := "anchor_lexical_match"
    graphPathReceipts := [] }]
  selected := true
  rejectionReason := none

def firstId : StableId := ⟨"need.1", .refl true⟩

def secondId : StableId := ⟨"need.2", .refl true⟩

def ringNeed (needId : StableId) : Stage1MemoryNeed where
  needId := needId
  runId := ⟨"run.1", .refl true⟩
  taskId := ⟨"task.1", .refl true⟩
  baseCommit := digest "commit"
  queryIntent := .semanticHistory
  queryText := "ring"
  accessScope := "writer_safe"
  retrievalMayReturnPlan := false
  riskLevel := .medium
  requirement := .optional
  allowedCandidatePools := [.anchor, .grounded]
  priority := 50
  needFacets := []
  completionSpec := none
  priority_le := Retrieval.fifty_le_hundred
  pools_ne_nil := by decide
  facets_iff := by decide
  required_mem := fun _ h => nomatch h

def ringTrace (needId : StableId) (unit : RetrievalUnit) : RetrievalTrace where
  needId := needId
  intent := .semanticHistory
  allowedChannels := [.anchorBm25]
  channelCandidateCounts := [(.anchorBm25, 1)]
  candidates := [foundCandidate unit]
  fusionApplied := true
  fallbackUsed := false
  fallbackReason := none
  stopReason := .budgetSatisfied
  needExecutionStatus := .executedWithCandidates
  callsAllocated := 1
  requiredNeedFacetIds := []
  irreducibleNeedFacetIds := []
  closedNeedFacetIds := []
  facetReceipts := []
  retrievalPages := 1
  anchorsExpanded := 0
  spansExpanded := 0
  l0Tokens := 0
  directUnitIds := [unit.unitId]
  compiledQueryBundle := .null
  effectiveChannels := [.anchorBm25]
  queryUnavailableReasons := []
  fullChaptersRead := 0
  graphPathCount := 0
  graphSeedEntityIds := []
  graphExhausted := false
  others := .null

def ringPairs : List (Stage1MemoryNeed × RetrievalTrace) :=
  [(ringNeed firstId, ringTrace firstId firstAnchor),
    (ringNeed secondId, ringTrace secondId secondAnchor)]

def singleLane (need : Stage1MemoryNeed) (unit : RetrievalUnit) (expansion : List RetrievalUnit) :
    Lane where
  need := need
  groups := [(unit, expansion)]
  hasRequired := false
  nextGroup := 0
  groundedOffset := 1

def ringPacker : Packer where
  selectedOptional := []
  includedIds := []
  optionalTokens := 0
  remaining := 1000

theorem longEvidence_resolves (evidenceId : StableId) (stop : Nat) (h : stop ≤ 802) :
    resolveEvidenceText "anchor" (longEvidence evidenceId stop) longRoot =
      .ok (String.ofList (longChars.take stop)) := by
  have hchars : longBlock.text.toList = longChars := String.toList_ofList
  have hquote : longBlock.quote ⟨longBlock.blockId, .unicodeCodepoint, 0, stop, Nat.zero_le _⟩ =
      String.ofList (longChars.take stop) := by
    unfold TextBlock.quote
    rw [hchars]
    rfl
  refine resolveEvidenceText_eq_ok.mpr ⟨_, longBlock, rfl, rfl, ⟨?_, rfl, rfl, rfl⟩, ?_, hquote⟩
  · rw [hchars, longChars_length]
    exact h
  · rw [hquote]
    rfl

theorem passageUnit_valid (anchorId unitId : StableId) (evidenceRefs : List EvidenceRef)
    (evidence : EvidenceRef) (stop : Nat) (h : 0 < stop) :
    (passageUnit (citingAnchor anchorId evidenceRefs) evidence unitId
        (String.ofList (longChars.take stop)) longRoot).validated =
      .ok (passageUnit (citingAnchor anchorId evidenceRefs) evidence unitId
        (String.ofList (longChars.take stop)) longRoot) := by
  have htext : String.ofList (longChars.take stop) ≠ "" := by
    intro hempty
    have hchars := congrArg (fun text => text.toList.length) hempty
    simp only [String.toList_ofList, length_take, longChars_length] at hchars
    simp only [String.toList_empty, length_nil] at hchars
    omega
  unfold RetrievalUnit.validated
  simp [passageUnit, citingAnchor, htext]

theorem expand_firstAnchor :
    expand [foundCandidate firstAnchor] longRoot = .ok [wholePassage firstAnchor] := by
  refine @expandFrom_returns _ _ [] _ _ _ _ _ (longEvidence_resolves _ 802 (le_refl _)) ?_
    not_mem_nil (passageUnit_valid _ _ _ _ _ (by decide)) rfl
  rfl

theorem expand_secondAnchor : expand [foundCandidate secondAnchor] longRoot =
    .ok [wholePassage secondAnchor, sentencePassage secondAnchor] := by
  refine expandFrom_returns (longEvidence_resolves _ 802 (le_refl _)) ?_ not_mem_nil
    (passageUnit_valid _ _ _ _ _ (by decide)) ?_
  · rfl
  · refine @expandFrom_returns _ _ [] _ _ _ _ _ (longEvidence_resolves _ 2 (by decide)) ?_ ?_
      (passageUnit_valid _ _ _ _ _ (by decide)) rfl
    · rfl
    · decide

theorem assertBasis_ring (units : List RetrievalUnit)
    (h : ∀ unit ∈ units, unit.sourceCommit = digest "commit" ∧ unit.snapshotId = ringSnapshot) :
    assertBasis units (digest "commit") ringSnapshot = .ok () := by
  unfold assertBasis
  rw [if_neg]
  intro hbad
  rcases hbad with ⟨unit, hunit, hcommit | hsnapshot⟩
  · exact hcommit (h unit hunit).1
  · exact hsnapshot (h unit hunit).2

theorem contribution_ring (needId anchorId : StableId) (evidenceRefs : List EvidenceRef)
    (expansion : List RetrievalUnit)
    (hexpand : expand [foundCandidate (citingAnchor anchorId evidenceRefs)] longRoot =
      .ok expansion)
    (hbasis : ∀ unit ∈ expansion,
      unit.sourceCommit = digest "commit" ∧ unit.snapshotId = ringSnapshot) :
    contribution longRoot (digest "commit") ringSnapshot
        (ringNeed needId, ringTrace needId (citingAnchor anchorId evidenceRefs)) =
      .ok {
        need := ringNeed needId
        trace := compiledTrace (ringTrace needId (citingAnchor anchorId evidenceRefs))
          [foundCandidate (citingAnchor anchorId evidenceRefs)] expansion
        unresolved := []
        mandatory := []
        groups := [(citingAnchor anchorId evidenceRefs, expansion)]
        hasRequired := false
        expanded := expansion } := by
  have hselected : (ringTrace needId (citingAnchor anchorId evidenceRefs)).candidates.filter
      FusedCandidate.selected = [foundCandidate (citingAnchor anchorId evidenceRefs)] := rfl
  have hneed : (ringNeed needId).needId =
      (ringTrace needId (citingAnchor anchorId evidenceRefs)).needId := rfl
  have hunit : (foundCandidate (citingAnchor anchorId evidenceRefs)).unit =
      citingAnchor anchorId evidenceRefs := rfl
  have hfirst := assertBasis_ring [citingAnchor anchorId evidenceRefs] (by simp [citingAnchor])
  have hdistinct := dedupe_eq_self (expand_nodup hexpand)
  unfold contribution
  simp only [hselected, hneed, map_cons, map_nil, hunit, ne_eq, not_true_eq_false,
    if_false, cons_ne_nil, hfirst, mapM_cons, mapM_nil, hexpand, flatten_cons,
    flatten_nil, append_nil, hdistinct, assertBasis_ring expansion hbasis, bind,
    Except.bind, pure, Except.pure]
  rfl

theorem collect_ring : ∃ collection,
    collect ringPairs longRoot (digest "commit") ringSnapshot 1000 = .ok collection ∧
      collection.mandatory = [] ∧ collection.packer = ringPacker ∧
      collection.lanes = [singleLane (ringNeed firstId) firstAnchor [wholePassage firstAnchor],
        singleLane (ringNeed secondId) secondAnchor
          [wholePassage secondAnchor, sentencePassage secondAnchor]] := by
  have hfirst := contribution_ring firstId _ _ _ expand_firstAnchor
    (by simp [wholePassage, withContentMetadata, passageUnit, firstAnchor, citingAnchor])
  have hsecond := contribution_ring secondId _ _ _ expand_secondAnchor
    (by simp [wholePassage, sentencePassage, withContentMetadata, passageUnit, secondAnchor,
      citingAnchor])
  rcases @collect_returns _ _ _ _ 1000 _ (by decide)
    (List.Forall₂.cons hfirst (List.Forall₂.cons hsecond List.Forall₂.nil))
    (by simp [ringNeed]) with ⟨collection, hcollection, hcontributions, hlanes⟩
  rcases collect_eq_ok hcollection with ⟨_, hmandatory, hpacker, _⟩
  rw [hcontributions] at hmandatory
  refine ⟨collection, hcollection, hmandatory, ?_, hlanes⟩
  rw [hpacker, hmandatory]
  rfl

theorem pack_pair {casefold : String → String} {s s₁ s₂ s₃ s₄ : Packer}
    {need need' : Stage1MemoryNeed} {unit unit' : RetrievalUnit}
    {expansion expansion' : List RetrievalUnit} {b₁ b₂ b₃ b₄ : Bool}
    (h₁ : includeIfFits casefold s need [unit] = .ok (s₁, b₁))
    (h₂ : includeIfFits casefold s₁ need' [unit'] = .ok (s₂, b₂))
    (hincluded : unit.unitId ∈ s₂.includedIds)
    (h₃ : includeIfFits casefold s₂ need expansion = .ok (s₃, b₃))
    (hincluded' : unit'.unitId ∈ s₃.includedIds)
    (h₄ : includeIfFits casefold s₃ need' expansion' = .ok (s₄, b₄)) :
    ∃ lanes, pack (packerAdmission casefold) s
      [singleLane need unit expansion, singleLane need' unit' expansion'] = .ok (s₄, lanes) := by
  let first : Lane := { singleLane need unit expansion with nextGroup := 1 }
  let second : Lane := { singleLane need' unit' expansion' with nextGroup := 1 }
  have hfirstPass : turns (firstOpportunity (packerAdmission casefold)) s
      [singleLane need unit expansion, singleLane need' unit' expansion'] =
        .ok (s₂, [first, second]) := by
    simp only [turns, firstOpportunity, packerAdmission, singleLane, h₁, h₂, bind, Except.bind,
      pure, Except.pure, Bool.false_eq_true, if_false, first, second]
  have hexpansions : turns (expandFirst (packerAdmission casefold)) s₂ [first, second] =
      .ok (s₄, [first, second]) := by
    simp only [turns, expandFirst, packerAdmission, singleLane, hincluded, hincluded', h₃, h₄,
      bind, Except.bind, pure, Except.pure, decide_true, and_self, if_true, first, second]
  have hgrounded : [first, second].any Lane.groundedLeft = false := rfl
  have hleft : [first, second].any Lane.groupsLeft = false := rfl
  unfold pack
  simp only [hfirstPass, hexpansions, rounds_idle hgrounded, rounds_idle hleft, bind, Except.bind]
  exact ⟨_, rfl⟩

theorem tokens_passage (anchor : RetrievalUnit) :
    estimateTokens (wholePassage anchor).text = 201 ∧
      estimateTokens (sentencePassage anchor).text = 1 := by
  have htext : ∀ stop, (String.ofList (longChars.take stop)).toList.length = min stop 802 := by
    intro stop
    rw [String.toList_ofList, length_take, longChars_length]
  have hwhole : (wholePassage anchor).text = String.ofList (longChars.take 802) := rfl
  have hsentence : (sentencePassage anchor).text = String.ofList (longChars.take 2) := rfl
  unfold estimateTokens
  rw [hwhole, hsentence, htext, htext]
  exact ⟨rfl, rfl⟩

theorem compact_wholePassage (queryText : String) : ∃ compact,
    compactBlockUnit id (wholePassage firstAnchor) queryText compactBlockExcerptLimit =
        .ok (some compact) ∧
      compact.unitId = ⟨"compact.expanded.e.1", by decide⟩ ∧
      estimateTokens compact.text ≤ 80 := by
  have hroot : (wholePassage firstAnchor).unitId.root = "expanded.e.1" := rfl
  have hchars : (wholePassage firstAnchor).text.toList = longChars := by
    have htext : (wholePassage firstAnchor).text = String.ofList (longChars.take 802) := rfl
    rw [htext, String.toList_ofList, take_of_length_le (le_of_eq longChars_length)]
  have hsome : (compactBlockSegments id (wholePassage firstAnchor).text.toList queryText
      compactBlockExcerptLimit).isSome = true := by
    rw [compactBlockSegments_isSome_iff (by decide), hchars, longChars_length]
    exact ⟨by decide, by decide +kernel⟩
  rcases Option.isSome_iff_exists.mp hsome with ⟨segments, hsegments⟩
  have hreturns : ∀ segment ∈ segments,
      ∃ reference, segmentEvidenceRef (wholePassage firstAnchor) segment = .ok reference := by
    intro segment hsegment
    have hmem := (compactBlockSegments_spec hsegments).1.subset hsegment
    rw [hchars] at hmem
    have hplaces : ∀ segment ∈ textSegments longChars,
        segment.start = 0 ∨ segment.start = 2 := by decide +kernel
    refine @segmentEvidenceRef_returns wholeEvidence _ _ _ rfl rfl ?_ ?_
    · rw [hroot]
      rcases hplaces segment hmem with hplace | hplace
      · rw [hplace]
        decide
      · rw [hplace]
        decide
    · rw [hroot]
      rcases hplaces segment hmem with hplace | hplace
      · rw [hplace]
        decide
      · rw [hplace]
        decide
  rcases (Outcome.mapM_returns _ segments).mpr hreturns with ⟨references, hreferences⟩
  have hgrounded : (!(wholePassage firstAnchor).isGrounded) = false := rfl
  have hid : StableId.ofString? ("compact." ++ (wholePassage firstAnchor).unitId.root) =
      some ⟨"compact.expanded.e.1", by decide⟩ :=
    (StableId.ofString?_eq_some _ _).mpr rfl
  have hlimit := (compactBlockSegments_spec hsegments).2.1
  unfold compactBlockUnit
  rw [hgrounded, hsegments]
  simp only [Bool.false_eq_true, if_false, hreferences, hid, bind, Except.bind]
  refine ⟨_, rfl, rfl, ?_⟩
  unfold estimateTokens
  unfold compactBlockExcerptLimit at hlimit
  rw [String.toList_ofList]
  omega

/-- The passes over the two lanes. The excerpt of the block is taken for the first need,
    and the block itself for the second one, together with its first sentence. -/
theorem pack_ring : ∃ packer lanes compact,
    pack (packerAdmission id) ringPacker
        [singleLane (ringNeed firstId) firstAnchor [wholePassage firstAnchor],
          singleLane (ringNeed secondId) secondAnchor
            [wholePassage secondAnchor, sentencePassage secondAnchor]] = .ok (packer, lanes) ∧
      packer.selectedOptional = [firstAnchor, secondAnchor, compact, wholePassage secondAnchor,
        sentencePassage secondAnchor] ∧
      compact.unitId = ⟨"compact.expanded.e.1", by decide⟩ := by
  rcases compact_wholePassage "ring" with ⟨compact, hcompact, hid, hcost⟩
  have hring : estimateTokens "ring" = 1 := by decide
  -- the packers after the admissions, which are not to be unfolded
  have hname : ∀ packer : Packer, ∃ next, next = packer := fun packer => ⟨packer, rfl⟩
  rcases hname (ringPacker.add [firstAnchor]) with ⟨p₁, hp₁⟩
  rcases hname (p₁.add [secondAnchor]) with ⟨p₂, hp₂⟩
  rcases hname (p₂.add [compact]) with ⟨p₃, hp₃⟩
  have hanchor : ∀ anchor ∈ [firstAnchor, secondAnchor], tokensOf [anchor] = 1 := by
    simp [tokensOf, firstAnchor, secondAnchor, citingAnchor, hring]
  have hfirst := hanchor firstAnchor mem_cons_self
  have hsecond := hanchor secondAnchor (mem_cons_of_mem _ mem_cons_self)
  have hexcerpt : tokensOf [compact] = estimateTokens compact.text := by simp [tokensOf]
  have hremaining₁ : p₁.remaining = 999 := by
    rw [hp₁]
    simp only [Packer.add, ringPacker, hfirst]
  have hremaining₂ : p₂.remaining = 998 := by
    rw [hp₂]
    simp only [Packer.add, hremaining₁, hsecond]
  have hremaining₃ : 918 ≤ p₃.remaining := by
    rw [hp₃]
    simp only [Packer.add, hremaining₂, hexcerpt]
    omega
  have hids₂ : p₂.includedIds = [⟨"anchor.1", by decide⟩, ⟨"anchor.2", by decide⟩] := by
    rw [hp₂, hp₁]
    rfl
  have hids₃ : p₃.includedIds = [⟨"anchor.1", by decide⟩, ⟨"anchor.2", by decide⟩,
      ⟨"compact.expanded.e.1", by decide⟩] := by
    rw [hp₃]
    simp only [Packer.add, hids₂, map_cons, map_nil, hid]
    rfl
  have hid₁ : ∀ anchor, (wholePassage anchor).unitId = ⟨"expanded.e.1", by decide⟩ :=
    fun _ => rfl
  have hid₂ : ∀ anchor, (sentencePassage anchor).unitId = ⟨"expanded.e.2", by decide⟩ :=
    fun _ => rfl
  have h₁ : includeIfFits id ringPacker (ringNeed firstId) [firstAnchor] = .ok (p₁, true) := by
    rw [hp₁]
    refine includeIfFits_returns (cons_ne_nil _ _) (chargedUnits_small rfl) ?_
    rw [hfirst]
    decide
  have h₂ : includeIfFits id p₁ (ringNeed secondId) [secondAnchor] = .ok (p₂, true) := by
    have hnew : p₁.newUnits [secondAnchor] = [secondAnchor] := by
      refine newUnits_eq_self (forall_mem_singleton.mpr ?_)
      have hid : secondAnchor.unitId = ⟨"anchor.2", by decide⟩ := rfl
      rw [hp₁, hid]
      decide
    rw [hp₂]
    refine includeIfFits_returns (by rw [hnew]; exact cons_ne_nil _ _)
      (by rw [hnew]; exact chargedUnits_small rfl) ?_
    rw [hremaining₁, hsecond]
    decide
  have h₃ : includeIfFits id p₂ (ringNeed firstId) [wholePassage firstAnchor] =
      .ok (p₃, true) := by
    have hnew : p₂.newUnits [wholePassage firstAnchor] = [wholePassage firstAnchor] := by
      refine newUnits_eq_self (forall_mem_singleton.mpr ?_)
      rw [hids₂, hid₁]
      decide
    have hlarge : p₂.tooLarge (wholePassage firstAnchor) = true := by
      refine tooLarge_iff.mpr ⟨rfl, Or.inr ?_⟩
      rw [(tokens_passage firstAnchor).1]
      decide
    have hout : compact.unitId ∉ p₂.includedIds := by
      rw [hid, hids₂]
      decide
    rw [hp₃]
    refine includeIfFits_returns (by rw [hnew]; exact cons_ne_nil _ _)
      (by rw [hnew]; exact chargedUnits_compact hlarge hcompact hout (by omega)) ?_
    rw [hexcerpt]
    omega
  have h₄ : includeIfFits id p₃ (ringNeed secondId)
      [wholePassage secondAnchor, sentencePassage secondAnchor] =
        .ok (p₃.add [wholePassage secondAnchor, sentencePassage secondAnchor], true) := by
    have hnew : p₃.newUnits [wholePassage secondAnchor, sentencePassage secondAnchor] =
        [wholePassage secondAnchor, sentencePassage secondAnchor] := by
      refine newUnits_eq_self (forall_mem_cons.mpr ⟨?_, forall_mem_singleton.mpr ?_⟩)
      · rw [hids₃, hid₁]
        decide
      · rw [hids₃, hid₂]
        decide
    have htokens := tokens_passage secondAnchor
    refine includeIfFits_returns (by rw [hnew]; exact cons_ne_nil _ _) (by rw [hnew]; rfl) ?_
    simp only [tokensOf, map_cons, map_nil, sum_cons, sum_nil, htokens.1,
      htokens.2]
    omega
  have hincluded : firstAnchor.unitId ∈ p₂.includedIds := by
    rw [hids₂]
    exact mem_cons_self
  have hincluded' : secondAnchor.unitId ∈ p₃.includedIds := by
    rw [hids₃]
    exact mem_cons_of_mem _ mem_cons_self
  rcases pack_pair h₁ h₂ hincluded h₃ hincluded' h₄ with ⟨lanes, hpack⟩
  refine ⟨_, lanes, compact, hpack, ?_, hid⟩
  rw [hp₃, hp₂, hp₁]
  rfl

theorem compile_ring : ∃ compilation,
    compile id ringPairs longRoot ⟨"context.1", by decide⟩ (digest "commit") ringSnapshot "write"
        1000 = .ok compilation ∧
      ∃ compact, compilation.included = [firstAnchor, secondAnchor, compact,
          wholePassage secondAnchor, sentencePassage secondAnchor] ∧
        compact.unitId = ⟨"compact.expanded.e.1", by decide⟩ := by
  rcases collect_ring with ⟨collection, hcollect, hmandatory, hpacker, hlanes⟩
  rcases pack_ring with ⟨packer, lanes, compact, hpack, hselected, hid⟩
  rw [← hpacker, ← hlanes] at hpack
  have htask : ¬ "write" = "" := by decide
  have hraised : raising (.ok collection : Except String Collection) = .ok collection := rfl
  unfold compile
  rw [hcollect]
  simp only [hraised, hpack, bind, Except.bind, finish, if_neg htask]
  refine ⟨_, rfl, compact, ?_, hid⟩
  unfold Compilation.included
  rw [hmandatory, hselected]
  rfl

/-- A mandatory need and an optional one, each with an anchor. -/
def oathPairs : List (Stage1MemoryNeed × RetrievalTrace) :=
  [({ ringNeed firstId with requirement := .mandatory },
      ringTrace firstId (citingAnchor ⟨"anchor.1", by decide⟩ [])),
    (ringNeed secondId, ringTrace secondId (citingAnchor ⟨"anchor.2", by decide⟩ []))]

end Sample

open Sample

/-- The budget has room for the anchor of the mandatory need only, and the other one is
    dropped. -/
theorem compile_balances_sample : ∃ compilation,
    compile id oathPairs longRoot ⟨"context.1", by decide⟩ (digest "commit") ringSnapshot "write"
        1 = .ok compilation ∧
      compilation.mandatory.map (fun unit => unit.unitId.root) = ["anchor.1"] ∧
      compilation.package.budgetReport.droppedOptionalUnitIds.map StableId.root = ["anchor.2"] ∧
      (compilation.included.map RetrievalUnit.unitId).Nodup ∧
      (compilation.package.budgetReport.optionalTokens : Int) ≤
        max 0 (1 - (compilation.package.budgetReport.mandatoryTokens : Int)) := by
  have hunits : (compile id oathPairs longRoot ⟨"context.1", by decide⟩ (digest "commit")
      ringSnapshot "write" 1).map (fun compilation =>
        (compilation.mandatory.map (fun unit => unit.unitId.root),
          compilation.package.budgetReport.droppedOptionalUnitIds.map StableId.root)) =
      .ok (["anchor.1"], ["anchor.2"]) := by decide +kernel
  rcases hcompile : compile id oathPairs longRoot ⟨"context.1", by decide⟩ (digest "commit")
    ringSnapshot "write" 1 with error | compilation
  · rw [hcompile] at hunits
    cases hunits
  · rw [hcompile, Except.map, Except.ok.injEq, Prod.mk.injEq] at hunits
    have hbalances := (compile_balances id oathPairs longRoot ⟨"context.1", by decide⟩
      (digest "commit") ringSnapshot "write" 1).2 compilation hcompile
    exact ⟨compilation, rfl, hunits.1, hunits.2, hbalances.1, hbalances.2.1.2.2⟩

end NovelAgent.Pipeline
