import Mathlib.Data.List.Sort
import NovelAgent.Core.Text
import NovelAgent.Evidence.Selections

/-!
# Memory Gateway

How the answer of a retrieval arm becomes the frozen answer to a request: an
arm is chosen, the exact text behind its units is offered to a judge, every
required facet is closed or left open by what the judge said, and the counts,
the gaps and the stop reason are computed again from that.
-/

namespace NovelAgent.Evidence

open Core Domain Retrieval

/-- What is asked. -/
structure GatewayRequest extends MemoryResolutionRequest where
  needs : List PublicNeed
  needs_eq : needs.map PublicNeed.toStage1MemoryNeed = initialMemoryNeeds

/-- The two arms. -/
inductive ControllerArm
  | deterministic
  | boundedR2
deriving DecidableEq

/-- The context that an arm compiled. Sections that the gateway does not read are one value. -/
structure Stage1ContextPackage where
  contextId : StableId
  baseCommit : CommitId
  snapshotId : StableId
  sections : String
  unresolvedGaps : List String
  retrievalTraces : List RetrievalTrace
  tokenBudget : Nat

/-- What an arm answers. -/
structure PairedContextArmResult where
  arm : ControllerArm
  context : Stage1ContextPackage
  stopReason : ControllerStopReason
  comparisonBasisFingerprint : ArtifactId
  futureLeakageCount : Nat
  qualityEligible : Bool
  mandatoryNeedFacetsTotal : Nat
  mandatoryNeedFacetsClosed : Nat

/-- Two arms that answered one request. -/
structure PairedContextComparison where
  requestId : StableId
  deterministic : PairedContextArmResult
  agentic : PairedContextArmResult
  comparable : Bool
  blockers : List String

/-- What a request can end with instead of a result. -/
inductive GatewayError
  | blocked (message : String)
  | valueError (message : String)
  | indexError
  | raised (name : World.NonEmptyText)

/-- What the judge returns. -/
structure NeedEvidenceSemanticResult where
  receipts : List NeedFacetSemanticReceipt
  batchReceipts : List NeedEvidenceJudgmentBatchReceipt

/-- The answers of a judge. One that raises is known by the name of what it raised. -/
abbrev Judgment := List NeedEvidenceSelection → Except World.NonEmptyText NeedEvidenceSemanticResult

/-- A judge. Not every judge has an asynchronous entry. -/
structure NeedEvidenceSemanticJudge where
  judge : Judgment
  judgeAsync : Option Judgment

/-- What the resolver is asked for: the evidence of a unit, with the block it
    names and the chapter of the block where the text has them. -/
structure LiveEvidenceQuery where
  requestCommit : CommitId
  requestSnapshotId : StableId
  checkpointChapter : Nat
  unitSourceCommit : CommitId
  unitSnapshotId : StableId
  evidence : World.EvidenceRef
  block : Option World.TextBlock
  chapterIndex : Option Nat
  accessScope : String

/-- What the gateway puts into the store. -/
inductive GatewayPayload
  | semanticFallback (requestId : StableId) (baseCommit : CommitId) (snapshotId : StableId)
      (semanticReceipts : List NeedFacetSemanticReceipt)
      (semanticBatchReceipts : List NeedEvidenceJudgmentBatchReceipt)
      (judgeError : Option World.NonEmptyText)
  | contextPackage (context : Stage1ContextPackage)
  | evidenceSelections (requestId : StableId) (baseCommit : CommitId) (snapshotId : StableId)
      (needIds : List StableId) (selections : List NeedEvidenceSelection)

/-- Which arm is asked for. -/
inductive MemoryGatewayMode
  | deterministic
  | boundedR2
deriving DecidableEq

/-- The rules of a gateway. -/
structure MemoryGatewayPolicy where
  policyId : StableId
  mode : MemoryGatewayMode
  allowDeterministicFallback : Bool
  promotionEvidence : Option ArtifactRef
  configurationFingerprint : ArtifactId
  promoted : mode = .boundedR2 → promotionEvidence.isSome = true

/-- The two arms. -/
structure PairedRunner where
  comparisonBasisFingerprint : ArtifactId
  runDeterministic : GatewayRequest → World.TextRootDocument → List ArtifactId →
    Except GatewayError PairedContextArmResult
  runAgentic : GatewayRequest → World.TextRootDocument → String → List ArtifactId →
    Except GatewayError PairedContextArmResult

/-- What the gateway is built over. -/
structure MemoryGateway where
  paired : PairedRunner
  policy : MemoryGatewayPolicy
  put : GatewayPayload → Except GatewayError ArtifactRef
  semanticJudge : Option NeedEvidenceSemanticJudge
  resolveLiveEvidence : LiveEvidenceQuery → Option (List EvidenceSlice)
  configured : policy.configurationFingerprint = paired.comparisonBasisFingerprint

/-- The frozen answer to a request. -/
structure MemoryGatewayResult where
  gatewayResultId : StableId
  requestId : StableId
  selectedArm : ControllerArm
  fallbackUsed : Bool
  fallbackReason : Option String
  context : Stage1ContextPackage
  frozenContextArtifact : ArtifactRef
  frozenEvidenceSelectionsArtifact : ArtifactRef
  selectedResult : PairedContextArmResult
  comparison : Option PairedContextComparison
  promotionEvidence : Option ArtifactRef
  policyId : StableId
  configurationFingerprint : ArtifactId

section Compare

/-- The reasons against comparing two arms. -/
def comparisonBlockers (deterministic agentic : PairedContextArmResult) : List String :=
  (if deterministic.futureLeakageCount ≠ 0 then
    ["deterministic arm contains evaluator-only artifacts"] else []) ++
  (if agentic.futureLeakageCount ≠ 0 then
    ["agentic arm contains evaluator-only artifacts"] else []) ++
  (if deterministic.qualityEligible then [] else ["deterministic_arm_quality_ineligible"]) ++
  if agentic.qualityEligible then [] else ["agentic_controller_timeout"]

/-- Compare two arms that share their basis. -/
def PairedRunner.compare (runner : PairedRunner) (request : GatewayRequest)
    (deterministic agentic : PairedContextArmResult) :
    Except GatewayError PairedContextComparison :=
  if deterministic.arm ≠ .deterministic then
    .error (.valueError "paired deterministic input has the wrong arm")
  else if agentic.arm ≠ .boundedR2 then
    .error (.valueError "paired agentic input has the wrong arm")
  else if deterministic.comparisonBasisFingerprint ≠ runner.comparisonBasisFingerprint ∨
      agentic.comparisonBasisFingerprint ≠ runner.comparisonBasisFingerprint then
    .error (.valueError "paired inputs do not share the runner comparison basis")
  else if deterministic.context.baseCommit ≠ agentic.context.baseCommit ∨
      deterministic.context.snapshotId ≠ agentic.context.snapshotId then
    .error (.valueError "paired arms must share canonical and snapshot basis")
  else if deterministic.context.tokenBudget ≠ agentic.context.tokenBudget then
    .error (.valueError "paired arms must share context token budget")
  else
    let blockers := comparisonBlockers deterministic agentic
    .ok { requestId := request.requestId, deterministic, agentic,
          comparable := blockers.isEmpty, blockers }

end Compare

/-- The arm that was chosen, and why it was not the other one. -/
structure ArmSelection where
  selected : PairedContextArmResult
  comparison : Option PairedContextComparison
  fallback : Bool
  fallbackReason : Option String

def stopReasonValue : ControllerStopReason → String
  | .sufficient => "sufficient"
  | .mandatoryGapUnresolved => "mandatory_gap_unresolved"
  | .budgetExhausted => "budget_exhausted"
  | .freshnessBlocked => "freshness_blocked"
  | .accessBlocked => "access_blocked"
  | .conflictRequiresReview => "conflict_requires_review"
  | .toolFailure => "tool_failure"
  | .noAdditionalEvidence => "no_additional_evidence"

section SelectArm

variable (gateway : MemoryGateway) (request : GatewayRequest)
  (textRoot : World.TextRootDocument) (threadId : String)
  (evaluatorOnlyArtifacts : List ArtifactId)

/-- Fall back on the deterministic arm, if the policy allows it. -/
def fallBack (agentic : PairedContextArmResult) : Except GatewayError ArmSelection :=
  if gateway.policy.allowDeterministicFallback then do
    let deterministic ←
      gateway.paired.runDeterministic request textRoot evaluatorOnlyArtifacts
    let comparison ← gateway.paired.compare request deterministic agentic
    if deterministic.futureLeakageCount ≠ 0 then
      .error (.blocked "deterministic fallback contains evaluator-only artifacts")
    else
      .ok { selected := deterministic, comparison := some comparison, fallback := true,
            fallbackReason := some
              (if agentic.futureLeakageCount ≠ 0 then
                "bounded controller contains evaluator-only artifacts"
              else "bounded controller stopped: " ++ stopReasonValue agentic.stopReason) }
  else
    .error
      (.blocked "bounded controller is ineligible and deterministic fallback is disabled")

/-- Run the arm that the policy's mode names. -/
def runMode : Except GatewayError ArmSelection :=
  match gateway.policy.mode with
  | .deterministic => do
      let selected ← gateway.paired.runDeterministic request textRoot evaluatorOnlyArtifacts
      .ok { selected, comparison := none, fallback := false, fallbackReason := none }
  | .boundedR2 => do
      let agentic ←
        gateway.paired.runAgentic request textRoot threadId evaluatorOnlyArtifacts
      if agentic.stopReason = .sufficient ∧ agentic.futureLeakageCount = 0 then
        .ok { selected := agentic, comparison := none, fallback := false,
              fallbackReason := none }
      else fallBack gateway request textRoot evaluatorOnlyArtifacts agentic

/-- Choose an arm. None is chosen that saw what only an evaluator may see. -/
def selectArm : Except GatewayError ArmSelection := do
  let selection ← runMode gateway request textRoot threadId evaluatorOnlyArtifacts
  if selection.selected.futureLeakageCount ≠ 0 then
    .error (.blocked "selected context contains evaluator-only artifacts")
  else .ok selection

end SelectArm

section Selections

variable (gateway : MemoryGateway) (request : GatewayRequest)
  (textRoot : World.TextRootDocument)

/-- The chapter index that a text has under an identity. The prelude is
    chapter zero, and a later chapter hides an earlier one. -/
def chapterIndexes (chapterId : StableId) : Option Nat :=
  match textRoot.chapterIndex? chapterId with
  | some index => some index
  | none => textRoot.prelude.bind fun prelude =>
    if prelude.preludeId = chapterId then some 0 else none

/-- The selected candidates in the order of their ranks. -/
def selectedCandidates (trace : RetrievalTrace) : List FusedCandidate :=
  (trace.candidates.filter FusedCandidate.selected).insertionSort fun a b =>
    a.fusedRank < b.fusedRank ∨
      (a.fusedRank = b.fusedRank ∧ a.unit.unitId.root ≤ b.unit.unitId.root)

/-- The hit that a candidate is known by: the best rank, then the channel's name. -/
def bestHit (candidate : FusedCandidate) : ChannelHit :=
  candidate.otherHits.foldl
    (fun best hit =>
      if hit.channelRank < best.channelRank ∨ (hit.channelRank = best.channelRank ∧
          channelValue hit.channel < channelValue best.channel) then hit
      else best)
    candidate.firstHit

/-- A slice with the candidate and the evidence that it was cut out for. -/
structure GatheredSlice where
  candidate : FusedCandidate
  evidence : World.EvidenceRef
  slice : EvidenceSlice

/-- What the resolver is asked about a candidate's evidence. -/
def liveQuery (need : PublicNeed) (candidate : FusedCandidate) (evidence : World.EvidenceRef) :
    LiveEvidenceQuery :=
  let block := evidence.span.bind fun span => textRoot.block? span.blockId
  { requestCommit := request.baseCommit
    requestSnapshotId := request.snapshotId
    checkpointChapter := request.narrativeChapter
    unitSourceCommit := candidate.unit.sourceCommit
    unitSnapshotId := candidate.unit.snapshotId
    evidence
    block
    chapterIndex := block.bind fun block => chapterIndexes textRoot block.chapterId
    accessScope :=
      if need.accessScope = "" then request.accessScope.value else need.accessScope }

/-- The slices behind the selected units, each where it was first met. -/
def gatheredSlices (need : PublicNeed) (trace : RetrievalTrace) : List GatheredSlice :=
  ((selectedCandidates trace).filter fun candidate =>
      candidate.unit.unitKind ≠ .groundedBlock ∧ candidate.unit.unitKind ≠ .groundedSpan).flatMap
    (fun candidate => candidate.unit.evidenceRefs.flatMap fun evidence =>
      ((gateway.resolveLiveEvidence (liveQuery request textRoot need candidate evidence)).getD
        []).map fun slice => { candidate, evidence, slice })
    |>.eraseDupsBy fun a b => a.slice.sliceId = b.slice.sliceId

/-- How retrieval came to a slice. -/
def sliceTrace (gathered : GatheredSlice) : SliceSelectionTrace :=
  let channel := channelValue (bestHit gathered.candidate).channel
  { sliceId := gathered.slice.sliceId
    unitId := gathered.candidate.unit.unitId
    routeChannel := channel
    fusedRank := gathered.candidate.fusedRank
    selectionReason := "gateway_live_l0;channel=" ++ channel ++ ";rank=" ++
      toString gathered.candidate.fusedRank
    evidenceRef := some gathered.evidence
    supportedFacetIds := [] }

/-- The exact text of the selected units of a trace. -/
def selectionForTrace (need : PublicNeed) (trace : RetrievalTrace) : NeedEvidenceSelection :=
  let gathered := gatheredSlices gateway request textRoot need trace
  { need
    selections := gathered.map sliceTrace
    slices := gathered.map GatheredSlice.slice
    facetReceipts := trace.facetReceipts
    semanticReceipts := []
    semanticBatchReceipts := [] }

/-- The need of a trace. A later need of one identity hides an earlier one. -/
def needFor (needId : StableId) : Option PublicNeed :=
  request.needs.findRev? fun need => need.needId = needId

/-- The selection of every need, from the last trace that is its own. -/
def prepareSelections (selected : PairedContextArmResult) : List NeedEvidenceSelection :=
  request.needs.map fun need =>
    match selected.context.retrievalTraces.findRev? fun trace => trace.needId = need.needId with
    | some trace =>
      match needFor request need.needId with
      | some known => selectionForTrace gateway request textRoot known trace
      | none => .empty need
    | none => .empty need

end Selections

section Closure

def currentLocationPredicates : List String := ["location", "located_at", "resides_at"]

def familySuffixes : List String := ["家", "族", "氏"]

/-- The first word of a unit's text. A text of white space has none. -/
def headWord (text : String) : Except GatewayError String :=
  match Text.words text with
  | [] => .error .indexError
  | head :: _ => .ok head

/-- The names that stand in a question before the first 的. -/
def namedLabels (question : String) : List String :=
  let head := String.ofList (question.toList.takeWhile (· ≠ '的'))
  ((head.replace "、" ",").splitOn ",").map Text.strip |>.filter fun part =>
    part ≠ "" && !Text.contains " " part

def seedMentionLabels (need : PublicNeed) (trace : RetrievalTrace) :
    Except GatewayError (List String) :=
  if need.entityIds.length < 2 then .ok []
  else do
    let heads ← (trace.candidates.filter fun candidate =>
      candidate.unit.entityIds.length = 1 ∧
        ∀ id ∈ candidate.unit.entityIds, id ∈ need.entityIds).mapM fun candidate =>
          headWord candidate.unit.text
    .ok (heads ++ namedLabels need.semanticQuestion).eraseDups

/-- A label, and what is left of it without a suffix for a family. -/
def labelStems (label : String) : List String :=
  (label :: (familySuffixes.filter fun suffix =>
      decide (suffix.toList <:+ label.toList) &&
        decide (suffix.toList.length < label.toList.length)).map fun suffix =>
    String.ofList (label.toList.take (label.toList.length - suffix.toList.length))).eraseDups

def textCoversSeedLabels (text : String) (labels : List String) : Bool :=
  labels.all fun label => (labelStems label).any fun stem => Text.contains stem text

def unitOfSlice (selection : NeedEvidenceSelection) (sliceId : StableId) : Option StableId :=
  (selection.selections.findRev? fun item => item.sliceId = sliceId).map
    SliceSelectionTrace.unitId

/-- The units whose exact text mentions every seed of the need. -/
def relationSeedCoverUnitIds (need : PublicNeed) (trace : RetrievalTrace)
    (selection : NeedEvidenceSelection) : Except GatewayError (List StableId) :=
  if need.entityIds.length < 2 then .ok []
  else do
    let labels ← seedMentionLabels need trace
    if labels.length < 2 then .ok []
    else
      .ok ((selection.slices.filter fun slice => textCoversSeedLabels slice.text labels).filterMap
        fun slice => unitOfSlice selection slice.sliceId).eraseDups

/-- The selected units with exact text that say where something is now. -/
def currentLocationUnitIds (trace : RetrievalTrace) (selection : NeedEvidenceSelection) :
    List StableId :=
  ((trace.candidates.filter fun candidate =>
      candidate.selected && (selection.selections.map
        SliceSelectionTrace.unitId).contains candidate.unit.unitId &&
        currentLocationPredicates.contains (candidate.unit.predicate.getD "")).map
    fun candidate => candidate.unit.unitId).eraseDups

/-- The units behind the slices that the judge named in support. -/
def supportUnits (selection : NeedEvidenceSelection) (receipt : NeedFacetSemanticReceipt) :
    List StableId :=
  ((selection.selections.filter fun item =>
      decide (item.sliceId ∈ receipt.supportingSliceIds ++ receipt.partialSliceIds)).map
    SliceSelectionTrace.unitId).eraseDups

def receiptFor {α : Type} (facetOf : α → StableId) (receipts : List α) (facetId : StableId) :
    Option α :=
  receipts.findRev? fun receipt => facetOf receipt = facetId

/-- A receipt of the gateway's own. -/
def gatewayReceipt (need : PublicNeed) (facet : NeedFacet) (status : FacetClosureStatus)
    (supportingUnitIds : List StableId) (stopReason : String) : FacetEvidenceReceipt where
  needId := need.needId
  needFacetId := facet.needFacetId
  facetKind := facet.facetKind
  mandatory := need.mandatory
  status := status
  supportingUnitIds := supportingUnitIds
  stopReason := stopReason

variable (need : PublicNeed) (facet : NeedFacet) (status : FacetClosureStatus)
    (supportingUnitIds : List StableId) (stopReason : String)

@[simp] theorem gatewayReceipt_needId :
    (gatewayReceipt need facet status supportingUnitIds stopReason).needId = need.needId := rfl

@[simp] theorem gatewayReceipt_needFacetId :
    (gatewayReceipt need facet status supportingUnitIds stopReason).needFacetId =
      facet.needFacetId := rfl

/-- What closes a required facet, or leaves it open. The judge comes first, an
    unsupported verdict may still be answered by the exact text itself, and
    without a verdict the receipt of the retrieval stands. -/
def facetReceipt (need : PublicNeed) (selection : NeedEvidenceSelection)
    (locationUnits relationCoverUnits : List StableId)
    (semantic : Option NeedFacetSemanticReceipt) (old : Option FacetEvidenceReceipt)
    (facet : NeedFacet) : FacetEvidenceReceipt :=
  match semantic with
  | none => old.getD
      (gatewayReceipt need facet .unsupported [] "no_exact_evidence_for_facet")
  | some receipt =>
    match receipt.status with
    | .supported =>
      gatewayReceipt need facet .supported (supportUnits selection receipt)
        "semantic_judge_supported_exact_l0"
    | .partialSupport =>
      gatewayReceipt need facet .supported (supportUnits selection receipt)
        "semantic_judge_partial_exact_l0"
    | .unresolved =>
      gatewayReceipt need facet .unsupported (supportUnits selection receipt)
        "semantic_judge_unresolved"
    | .unsupported =>
      if (facet.facetKind = .relationState ∨ facet.facetKind = .causalHistory) ∧
          relationCoverUnits ≠ [] then
        gatewayReceipt need facet .supported relationCoverUnits
          "semantic_judge_unsupported_exact_l0_answering_unit"
      else if facet.facetKind = .currentState ∧ locationUnits ≠ [] then
        gatewayReceipt need facet .supported locationUnits
          "semantic_judge_unsupported_exact_l0_answering_unit"
      else
        gatewayReceipt need facet .unsupported (supportUnits selection receipt)
          "semantic_judge_unsupported_exact_l0"

/-- The receipts of a need's required facets, in the order of its facets. -/
def facetReceiptsFor (need : PublicNeed) (trace : RetrievalTrace)
    (selection : NeedEvidenceSelection) (semanticReceipts : List NeedFacetSemanticReceipt) :
    Except GatewayError (List FacetEvidenceReceipt) :=
  (need.needFacets.filter fun facet =>
      decide (facet.needFacetId ∈ need.requiredFacetIds)).mapM fun facet => do
    let relationCoverUnits ← relationSeedCoverUnitIds need trace selection
    .ok (facetReceipt need selection (currentLocationUnitIds trace selection) relationCoverUnits
      (receiptFor NeedFacetSemanticReceipt.needFacetId semanticReceipts facet.needFacetId)
      (receiptFor FacetEvidenceReceipt.needFacetId trace.facetReceipts facet.needFacetId) facet)

/-- What the trace says of the judge's verdicts as a whole. -/
def fallbackStatus (trace : RetrievalTrace) (semanticReceipts : List NeedFacetSemanticReceipt)
    (judgeError : Option World.NonEmptyText) : Option String :=
  let statuses := semanticReceipts.map NeedFacetSemanticReceipt.status
  if semanticReceipts ≠ [] ∧ ∀ status ∈ statuses, status = .supported then some "SUPPORTED"
  else if ∃ status ∈ statuses, status = .supported ∨ status = .partialSupport then some "PARTIAL"
  else if judgeError.isSome then some "FAILED"
  else if ∃ status ∈ statuses, status = .unsupported then some "UNSUPPORTED"
  else if semanticReceipts ≠ [] then some "UNRESOLVED"
  else trace.semanticFallbackStatus

/-- A trace rewritten by what was found and said of its need. The evidence it
    lists is its own, the units are those of the need's selection. -/
def traceWithLiveClosure (trace : RetrievalTrace) (need : PublicNeed)
    (selection own : NeedEvidenceSelection) (semanticReceipts : List NeedFacetSemanticReceipt)
    (receiptRef : Option ArtifactRef) (judgeError : Option World.NonEmptyText) :
    Except GatewayError RetrievalTrace := do
  let facetReceipts ← facetReceiptsFor need trace selection semanticReceipts
  let status := fallbackStatus trace semanticReceipts judgeError
  let evidenceRefs := (own.selections.filterMap SliceSelectionTrace.evidenceRef).eraseDups
  let sliceIds := own.slices.map EvidenceSlice.sliceId
  .ok
    { trace with
      l0FallbackEvidenceRefs :=
        if evidenceRefs = [] then trace.l0FallbackEvidenceRefs else evidenceRefs
      l0FallbackSliceIds := if sliceIds = [] then trace.l0FallbackSliceIds else sliceIds
      closedNeedFacetIds := supportedFacetIds facetReceipts
      facetReceipts := if facetReceipts = [] then trace.facetReceipts else facetReceipts
      semanticReceiptRefs := receiptRef.elim trace.semanticReceiptRefs fun ref => [ref]
      semanticFallbackStatus := status
      semanticFallbackReason :=
        if status = none then trace.semanticFallbackReason
        else some (judgeError.elim "gateway_live_exact_l0" World.NonEmptyText.text) }

end Closure

section Commit

variable (gateway : MemoryGateway) (request : GatewayRequest)
  (textRoot : World.TextRootDocument)

def traceFor (traces : List RetrievalTrace) (needId : StableId) : Option RetrievalTrace :=
  traces.findRev? fun trace => trace.needId = needId

/-- Rewrite the trace of a need. Other traces stay. -/
def updatedTrace (selections : List NeedEvidenceSelection)
    (semanticReceipts : List NeedFacetSemanticReceipt) (receiptRef : Option ArtifactRef)
    (judgeError : Option World.NonEmptyText) (trace : RetrievalTrace) :
    Except GatewayError RetrievalTrace :=
  match needFor request trace.needId with
  | none => .ok trace
  | some need =>
    match selections.find? fun selection => selection.need.needId = trace.needId with
    | none => .ok trace
    | some selection =>
      traceWithLiveClosure trace need selection
        (selectionForTrace gateway request textRoot need trace)
        (semanticReceipts.filter fun receipt => receipt.needId = trace.needId)
        receiptRef judgeError

/-- How many required facets the mandatory needs have, and how many of them their traces close. -/
def mandatoryFacetCounts (needs : List PublicNeed) (traces : List RetrievalTrace) : Nat × Nat :=
  needs.foldl
    (fun (total, closed) need =>
      if need.mandatory then
        (total + need.requiredFacetIds.length,
          closed + match traceFor traces need.needId with
            | none => 0
            | some trace => (need.requiredFacetIds.filter fun id =>
              decide (id ∈ trace.closedNeedFacetIds)).length)
      else (total, closed))
    (0, 0)

/-- The mandatory need has all its required facets closed by its trace. -/
def needClosed (traces : List RetrievalTrace) (need : PublicNeed) : Bool :=
  need.mandatory && (traceFor traces need.needId).any fun trace =>
    need.requiredFacetIds.all fun id => decide (id ∈ trace.closedNeedFacetIds)

def committedStopReason (total closed : Nat) (stopReason : ControllerStopReason) :
    ControllerStopReason :=
  if 0 < total ∧ closed = total ∧ stopReason = .mandatoryGapUnresolved then .noAdditionalEvidence
  else if 0 < total ∧ closed < total ∧
      (stopReason = .sufficient ∨ stopReason = .noAdditionalEvidence) then .mandatoryGapUnresolved
  else stopReason

/-- Put what the judge said into the store. -/
def putJudgment (selections : List NeedEvidenceSelection)
    (semanticResult : Option NeedEvidenceSemanticResult)
    (judgeError : Option World.NonEmptyText) : Except GatewayError (Option ArtifactRef) :=
  if gateway.semanticJudge.isSome ∧ selections ≠ [] then do
    let ref ← gateway.put (.semanticFallback request.requestId request.baseCommit
      request.snapshotId (semanticResult.elim [] NeedEvidenceSemanticResult.receipts)
      (semanticResult.elim [] NeedEvidenceSemanticResult.batchReceipts) judgeError)
    .ok (some ref)
  else .ok none

def judgedReceipts (selections : List NeedEvidenceSelection)
    (semanticResult : Option NeedEvidenceSemanticResult) : List NeedFacetSemanticReceipt :=
  if gateway.semanticJudge.isSome ∧ selections ≠ [] then
    semanticResult.elim [] NeedEvidenceSemanticResult.receipts
  else []

/-- The arm's answer over its rewritten traces. A gap is dropped when the need that is known
    under the identity of a closed need asks for it. -/
def committed (selected : PairedContextArmResult) (traces : List RetrievalTrace) :
    PairedContextArmResult :=
  let counts := mandatoryFacetCounts request.needs traces
  { selected with
    context :=
      { selected.context with
        retrievalTraces := traces
        unresolvedGaps := selected.context.unresolvedGaps.filter fun gap =>
          !request.needs.any fun need => needClosed traces need &&
            (needFor request need.needId).any fun known => known.queryText = gap }
    stopReason := committedStopReason counts.1 counts.2 selected.stopReason
    mandatoryNeedFacetsTotal := counts.1
    mandatoryNeedFacetsClosed := counts.2 }

/-- The arm's answer with its closure computed again. -/
def commitLiveOutput (selected : PairedContextArmResult)
    (selections : List NeedEvidenceSelection)
    (semanticResult : Option NeedEvidenceSemanticResult)
    (judgeError : Option World.NonEmptyText) : Except GatewayError PairedContextArmResult := do
  let receiptRef ← putJudgment gateway request selections semanticResult judgeError
  let updated ← selected.context.retrievalTraces.mapM
    (updatedTrace gateway request textRoot selections
      (judgedReceipts gateway selections semanticResult) receiptRef judgeError)
  -- A trace that shares its need with a later one is replaced by it.
  let traces := selected.context.retrievalTraces.map fun trace =>
    (traceFor updated trace.needId).getD trace
  .ok (committed request selected traces)

end Commit

section Resolve

variable (gateway : MemoryGateway) (request : GatewayRequest)
  (textRoot : World.TextRootDocument) (threadId : String)
  (evaluatorOnlyArtifacts : List ArtifactId)

/-- Ask the judge. What it raises is kept, and the request goes on. -/
def askJudge (judgment : Judgment) (selections : List NeedEvidenceSelection) :
    Option NeedEvidenceSemanticResult × Option World.NonEmptyText :=
  match judgment selections with
  | .ok result => (some result, none)
  | .error name => (none, some name)

/-- Ask the judge, if there is one. -/
def judgeSelections (selections : List NeedEvidenceSelection) :
    Option NeedEvidenceSemanticResult × Option World.NonEmptyText :=
  match gateway.semanticJudge with
  | none => (none, none)
  | some judge => if selections = [] then (none, none) else askJudge judge.judge selections

/-- Ask the judge through its asynchronous entry, if it has one. -/
def judgeSelectionsAsync (selections : List NeedEvidenceSelection) :
    Option NeedEvidenceSemanticResult × Option World.NonEmptyText :=
  match gateway.semanticJudge with
  | none => (none, none)
  | some judge =>
    if selections = [] then (none, none)
    else askJudge (judge.judgeAsync.getD judge.judge) selections

def selectionsWithSemantics (selections : List NeedEvidenceSelection)
    (semanticResult : Option NeedEvidenceSemanticResult) : List NeedEvidenceSelection :=
  match semanticResult with
  | none => selections
  | some result => selections.map fun selection =>
    { selection with
      semanticReceipts := result.receipts.filter fun receipt =>
        receipt.needId = selection.need.needId
      semanticBatchReceipts := result.batchReceipts.filter fun batch =>
        selection.need.requiredFacetIds.any fun id => decide (id ∈ batch.needFacetIds) }

/-- The arm's answer with its closure, and the selections it rests on. -/
def assembleLiveOutput
    (ask : List NeedEvidenceSelection →
      Option NeedEvidenceSemanticResult × Option World.NonEmptyText)
    (selected : PairedContextArmResult) :
    Except GatewayError (PairedContextArmResult × List NeedEvidenceSelection) :=
  if request.needs = [] then .ok (selected, request.needs.map .empty)
  else do
    let selections := prepareSelections gateway request textRoot selected
    let (semanticResult, judgeError) := ask selections
    let output ←
      commitLiveOutput gateway request textRoot selected selections semanticResult judgeError
    .ok (output, selectionsWithSemantics selections semanticResult)

def refreshComparison (selected : PairedContextArmResult) (comparison : PairedContextComparison) :
    PairedContextComparison :=
  if selected.arm = .deterministic then { comparison with deterministic := selected }
  else { comparison with agentic := selected }

/-- The frozen selections name every need once. -/
def putSelections (selections : List NeedEvidenceSelection) : Except GatewayError ArtifactRef :=
  let observed := selections.map fun selection => selection.need.needId
  let needIds := request.needs.map fun need => need.needId
  if observed ≠ needIds then
    .error
      (.valueError "frozen evidence selections must cover the bound Need set in order")
  else if ¬ observed.Nodup then
    .error (.valueError "frozen evidence selections must be unique by Need")
  else
    gateway.put (.evidenceSelections request.requestId request.baseCommit request.snapshotId
      needIds selections)

/-- The rules of a result. -/
def validateGatewaySelection (result : MemoryGatewayResult) :
    Except GatewayError MemoryGatewayResult :=
  if result.fallbackUsed ≠ result.fallbackReason.isSome then
    .error (.valueError "Memory Gateway fallback flag and reason must agree")
  else if result.fallbackUsed ∧ result.selectedArm ≠ .deterministic then
    .error (.valueError "Memory Gateway fallback must select deterministic arm")
  else if result.selectedArm = .boundedR2 ∧ result.promotionEvidence = none then
    .error (.valueError "bounded Memory Gateway result requires promotion evidence")
  else if result.selectedArm = .boundedR2 ∧
      ∃ comparison ∈ result.comparison, comparison.comparable = false then
    .error (.valueError "Memory Gateway cannot select a non-comparable bounded arm")
  else if result.configurationFingerprint ≠
      result.selectedResult.comparisonBasisFingerprint then
    .error (.valueError "Memory Gateway configuration differs from selected execution")
  else .ok result

def freezeResult (selection : ArmSelection) (selected : PairedContextArmResult)
    (selections : List NeedEvidenceSelection) : Except GatewayError MemoryGatewayResult := do
  let frozen ← gateway.put (.contextPackage selected.context)
  let frozenSelections ← putSelections gateway request selections
  match StableId.ofString? ("gateway-result." ++ request.requestId.root) with
  | none => .error (.valueError "gateway_result_id")
  | some gatewayResultId =>
    validateGatewaySelection
      { gatewayResultId
        requestId := request.requestId
        selectedArm := selected.arm
        fallbackUsed := selection.fallback
        fallbackReason := selection.fallbackReason
        context := selected.context
        frozenContextArtifact := frozen
        frozenEvidenceSelectionsArtifact := frozenSelections
        selectedResult := selected
        comparison := selection.comparison.map (refreshComparison selected)
        promotionEvidence := gateway.policy.promotionEvidence
        policyId := gateway.policy.policyId
        configurationFingerprint := gateway.policy.configurationFingerprint }

/-- Answer a request, asking the judge one way or the other. -/
def resolveWith
    (ask : List NeedEvidenceSelection →
      Option NeedEvidenceSemanticResult × Option World.NonEmptyText) :
    Except GatewayError MemoryGatewayResult := do
  let selection ← selectArm gateway request textRoot threadId evaluatorOnlyArtifacts
  let (selected, selections) ←
    assembleLiveOutput gateway request textRoot ask selection.selected
  freezeResult gateway request selection selected selections

/-- The request, answered. -/
def resolve : Except GatewayError MemoryGatewayResult :=
  resolveWith gateway request textRoot threadId evaluatorOnlyArtifacts (judgeSelections gateway)

/-- Answer a request on an event loop. -/
def resolveAsync : Except GatewayError MemoryGatewayResult :=
  resolveWith gateway request textRoot threadId evaluatorOnlyArtifacts
    (judgeSelectionsAsync gateway)

end Resolve

end NovelAgent.Evidence
