import NovelAgent.Evidence.GatewayClosure

/-!
# Closure of the Gaps

Which gaps are still listed after the facets were closed.
-/

namespace NovelAgent.Evidence

open Core Domain Retrieval

/-- A required facet of a need is not closed. -/
def StillOpen (traces : List RetrievalTrace) (need : PublicNeed) : Prop :=
  ∃ id ∈ need.requiredFacetIds,
    ∀ trace ∈ traceFor traces need.needId, id ∉ trace.closedNeedFacetIds

/-- A mandatory need with a trace that leaves nothing open. -/
def NeedAnswered (traces : List RetrievalTrace) (need : PublicNeed) : Prop :=
  need.mandatory = true ∧ (traceFor traces need.needId).isSome = true ∧ ¬ StillOpen traces need

/-- An answered need is known to the gateway under a need with the text. -/
def AskedByAnswered (request : GatewayRequest) (traces : List RetrievalTrace) (text : String) :
    Prop :=
  ∃ need ∈ request.needs, NeedAnswered traces need ∧
    ∃ known ∈ needFor request need.needId, known.queryText = text

/-- The gap of a mandatory need with an open facet is still listed, and the gap of a need
    without one is not, unless it is the gap of an open mandatory need as well. -/
structure GapsFollow (request : GatewayRequest) (selected output : PairedContextArmResult) :
    Prop where
  kept : ∀ need ∈ request.needs, need.mandatory = true →
    need.queryText ∈ selected.context.unresolvedGaps →
    StillOpen output.context.retrievalTraces need →
    need.queryText ∈ output.context.unresolvedGaps
  removed : ∀ need ∈ request.needs, ¬ StillOpen output.context.retrievalTraces need →
    (∀ other ∈ request.needs, other.mandatory = true → other.queryText = need.queryText →
      ¬ StillOpen output.context.retrievalTraces other) →
    need.queryText ∉ output.context.unresolvedGaps

/-- No open need asks what an answered one asks, and what a need without open facets asks
    is asked by an answered one. -/
structure TextsApart (request : GatewayRequest) (gaps : List String)
    (traces : List RetrievalTrace) : Prop where
  apart : ∀ need ∈ request.needs, need.mandatory = true → need.queryText ∈ gaps →
    StillOpen traces need → ¬ AskedByAnswered request traces need.queryText
  answered : ∀ need ∈ request.needs, need.queryText ∈ gaps → ¬ StillOpen traces need →
    AskedByAnswered request traces need.queryText ∨
      ∃ other ∈ request.needs, other.mandatory = true ∧ other.queryText = need.queryText ∧
        StillOpen traces other

/-- The traces of the committed answer. -/
def liveTraces (gateway : MemoryGateway) (request : GatewayRequest)
    (textRoot : World.TextRootDocument) (selected : PairedContextArmResult)
    (selections : List NeedEvidenceSelection)
    (semanticResult : Option NeedEvidenceSemanticResult)
    (judgeError : Option World.NonEmptyText) : Except GatewayError (List RetrievalTrace) := do
  let receiptRef ← putJudgment gateway request selections semanticResult judgeError
  let updated ← selected.context.retrievalTraces.mapM
    (updatedTrace gateway request textRoot selections
      (judgedReceipts gateway selections semanticResult) receiptRef judgeError)
  .ok (selected.context.retrievalTraces.map fun trace =>
    (traceFor updated trace.needId).getD trace)

theorem needClosed_iff (traces : List RetrievalTrace) (need : PublicNeed) :
    needClosed traces need = true ↔ NeedAnswered traces need := by
  unfold needClosed NeedAnswered StillOpen
  cases htrace : traceFor traces need.needId with
  | none => simp
  | some trace => simp

section Committing

variable {gateway : MemoryGateway} {request : GatewayRequest} {textRoot : World.TextRootDocument}
  {selected : PairedContextArmResult} {selections : List NeedEvidenceSelection}
  {semanticResult : Option NeedEvidenceSemanticResult} {judgeError : Option World.NonEmptyText}

/-- The committed answer is computed from its traces. -/
theorem commitLiveOutput_eq :
    commitLiveOutput gateway request textRoot selected selections semanticResult judgeError =
      (liveTraces gateway request textRoot selected selections semanticResult judgeError).map
        (committed request selected) := by
  unfold commitLiveOutput liveTraces
  cases putJudgment gateway request selections semanticResult judgeError with
  | error error => rfl
  | ok receiptRef =>
    dsimp only [bind, Except.bind]
    cases selected.context.retrievalTraces.mapM (updatedTrace gateway request textRoot selections
      (judgedReceipts gateway selections semanticResult) receiptRef judgeError) with
    | error error => rfl
    | ok updated => rfl

/-- A gap stays when no answered need asks for it. -/
theorem mem_committed_gaps (traces : List RetrievalTrace) (gap : String) :
    gap ∈ (committed request selected traces).context.unresolvedGaps ↔
      gap ∈ selected.context.unresolvedGaps ∧ ¬ AskedByAnswered request traces gap := by
  simp only [committed, List.mem_filter, Bool.not_eq_true', Bool.eq_false_iff, ne_eq,
    List.any_eq_true, Bool.and_eq_true, needClosed_iff, Option.any_eq_true, decide_eq_true_eq]
  rfl

theorem gapsFollow_committed (traces : List RetrievalTrace) :
    GapsFollow request selected (committed request selected traces) ↔
      TextsApart request selected.context.unresolvedGaps traces := by
  have hgap := @mem_committed_gaps request selected traces
  constructor
  · rintro ⟨hkept, hremoved⟩
    refine ⟨fun need hneed hmandatory hlisted hopen => ?_, fun need hneed hlisted hclosed => ?_⟩
    · exact ((hgap need.queryText).mp (hkept need hneed hmandatory hlisted hopen)).2
    · by_contra hneither
      rw [not_or] at hneither
      refine hremoved need hneed hclosed (fun other hother hmandatory htext hopen => ?_)
        ((hgap need.queryText).mpr ⟨hlisted, hneither.1⟩)
      exact hneither.2 ⟨other, hother, hmandatory, htext, hopen⟩
  · rintro ⟨hapart, hanswered⟩
    refine ⟨fun need hneed hmandatory hlisted hopen => ?_,
      fun need hneed hclosed hothers hstays => ?_⟩
    · exact (hgap need.queryText).mpr ⟨hlisted, hapart need hneed hmandatory hlisted hopen⟩
    · rcases (hgap need.queryText).mp hstays with ⟨hlisted, hnobody⟩
      rcases hanswered need hneed hlisted hclosed with hasked | ⟨other, hother, hmandatory, htext,
        hopen⟩
      · exact hnobody hasked
      · exact hothers other hother hmandatory htext hopen

end Committing

/-- The gaps follow the closure exactly when no mandatory need that is still open asks what
    an answered need asks, and what a need without open facets asks is asked by an answered
    need or by an open mandatory one. -/
theorem gaps_follow_iff (gateway : MemoryGateway) (request : GatewayRequest)
    (textRoot : World.TextRootDocument) (selected : PairedContextArmResult)
    (selections : List NeedEvidenceSelection)
    (semanticResult : Option NeedEvidenceSemanticResult)
    (judgeError : Option World.NonEmptyText) :
    (∀ output, commitLiveOutput gateway request textRoot selected selections semanticResult
        judgeError = .ok output → GapsFollow request selected output) ↔
      ∀ traces, liveTraces gateway request textRoot selected selections semanticResult
        judgeError = .ok traces → TextsApart request selected.context.unresolvedGaps traces := by
  rw [commitLiveOutput_eq]
  cases liveTraces gateway request textRoot selected selections semanticResult judgeError with
  | error error => simp [Except.map]
  | ok traces => simp [Except.map, gapsFollow_committed]

namespace GatewaySample

/-- Another mandatory need that asks the same. -/
def sameQuestion : PublicNeed :=
  { need with
    needId := ⟨"need.2", .refl true⟩
    needFacets := [⟨⟨"facet.2", .refl true⟩, .currentState⟩]
    completionSpec := some ⟨[⟨"facet.2", .refl true⟩]⟩
    facets_iff := by decide
    required_mem := by decide
    scopes_length := rfl
    facets_nodup := by decide
    required_nodup := by decide
    required_ne_nil := by decide }

def twoNeeds : GatewayRequest :=
  { request with
    initialMemoryNeeds := [need.toStage1MemoryNeed, sameQuestion.toStage1MemoryNeed]
    needs_belong := by
      intro member hmember
      rcases List.mem_pair.mp hmember with rfl | rfl <;> exact ⟨rfl, rfl, rfl⟩
    needs := [need, sameQuestion]
    needs_eq := rfl }

/-- Both needs are listed as gaps, and nothing was found for the second one. -/
def bothListed : PairedContextArmResult :=
  { selected with
    context :=
      { selected.context with
        unresolvedGaps := ["where is the sword", "where is the sword"]
        retrievalTraces := [trace, { trace with
          needId := sameQuestion.needId
          candidates := []
          needExecutionStatus := .executedEmpty
          requiredNeedFacetIds := [⟨"facet.2", .refl true⟩] }] } }

/-- The first need is answered, and the gap of the second one is gone with its own. -/
theorem open_gap_dropped : ¬ ∀ (gateway : MemoryGateway) (request : GatewayRequest)
    (textRoot : World.TextRootDocument) (selected output : PairedContextArmResult)
    (semanticResult : Option NeedEvidenceSemanticResult),
    commitLiveOutput gateway request textRoot selected
      (prepareSelections gateway request textRoot selected) semanticResult none = .ok output →
    GapsFollow request selected output := by
  intro hfollow
  have hrun : (commitLiveOutput gateway twoNeeds textRoot bothListed
      (prepareSelections gateway twoNeeds textRoot bothListed) (some ⟨[receipt], []⟩)
      none).toOption.map (fun output => (output.context.unresolvedGaps,
        (traceFor output.context.retrievalTraces sameQuestion.needId).map
          RetrievalTrace.closedNeedFacetIds)) = some ([], some []) := by
    decide +kernel
  rcases Outcome.ok_of_map hrun with ⟨output, houtput, hsays⟩
  rw [Prod.mk.injEq, Option.map_eq_some_iff] at hsays
  rcases hsays with ⟨hgaps, found, hfound, hclosed⟩
  have hopen : StillOpen output.context.retrievalTraces sameQuestion := by
    refine ⟨⟨"facet.2", by decide⟩, by decide, fun trace htrace => ?_⟩
    rw [hfound, Option.mem_some_iff] at htrace
    simp [← htrace, hclosed]
  have hkept := (hfollow _ _ _ _ _ _ houtput).kept sameQuestion (by simp [twoNeeds]) (by decide)
    (by decide) hopen
  simp [hgaps] at hkept

end GatewaySample

end NovelAgent.Evidence
