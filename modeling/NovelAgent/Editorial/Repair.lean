import NovelAgent.Core.EditScript
import NovelAgent.Editorial.RetryRequests

/-!
# Local Repair

One bounded repair of a draft by the editor.
-/

namespace NovelAgent.Editorial

open Core Domain ModelCalls List

/-- What a review ends in. -/
inductive EditorialVerdict
  | pass
  | localRepair
  | majorRewrite
deriving DecidableEq

/-- A range of a draft. -/
@[ext]
structure DraftSpan where
  blockId : Option StableId
  start : Nat
  stop : Nat
  ordered : start ≤ stop

instance : DecidableEq DraftSpan := fun _ _ => decidable_of_iff _ DraftSpan.ext_iff.symm

/-- The places of a range. -/
def DraftSpan.span (span : DraftSpan) : Span := ⟨span.start, span.stop⟩

/-- What of a draft may be repaired. -/
structure LocalRepairScope where
  issueIds : List StableId
  allowedSpans : List DraftSpan
  instructions : List String
  preserveRequirements : List String
  issues_ne_nil : issueIds ≠ []
  spans_ne_nil : allowedSpans ≠ []
  instructions_ne_nil : instructions ≠ []
  instructions_written : ∀ text ∈ instructions, text ≠ ""
  requirements_written : ∀ text ∈ preserveRequirements, text ≠ ""
  issues_nodup : issueIds.Nodup

/-- What a repair reads of a review's input. The writing task and the context
    are handed on to the editor as they are. -/
structure EditorialReviewInput where
  draftId : ArtifactId
  textArtifact : ArtifactRef
  contractId : StableId
  contextId : StableId
  baseCommit : CommitId
  writingTask : JsonValue
  contextSummary : JsonValue

/-- What a repair reads of a report. The issues are handed on. -/
structure EditorialReport where
  reportId : StableId
  draftId : ArtifactId
  taskContractId : StableId
  contextId : StableId
  baseCommit : CommitId
  verdict : EditorialVerdict
  issues : JsonValue
  repairScope : Option LocalRepairScope
  has_scope : verdict = .localRepair → repairScope.isSome = true

/-- The agents. -/
inductive AgentType
  | planner
  | memoryCurator
  | memoryController
  | memoryGuardian
  | writer
  | editor
  | candidateObserver
  | planReviewer
deriving DecidableEq

/-- What an agent works at. -/
inductive AgentMode
  | projectBootstrap
  | story
  | arcVolume
  | chapter
  | scene
  | replan
  | bootstrap
  | replay
  | curatorRepair
  | boundedR2
  | riskReview
  | draft
  | continuation
  | majorRewrite
  | review
  | localRepair
  | observe
  | chapterSet
deriving DecidableEq

/-- How an execution ended. -/
inductive ExecutionStatus
  | planned
  | succeeded
  | partialResult
  | skipped
  | failed
  | suspended
  | rejected
deriving DecidableEq

/-- What a repair reads and sets of a receipt. -/
structure AgentExecutionReceipt where
  receiptId : StableId
  agentType : AgentType
  agentMode : AgentMode
  status : ExecutionStatus
  outputArtifacts : List ArtifactRef

/-- The editor's answer. -/
structure EditorRepairPayload where
  repairedText : String
  selfObservations : List String
  notBlank : Text.isBlank repairedText = false
  observations_written : ∀ text ∈ selfObservations, text ≠ ""

/-- An answer and its receipt. -/
structure AgentRunResult where
  output : EditorRepairPayload
  modelCall : ModelCallRecord
  receipt : AgentExecutionReceipt

/-- A block of a draft: what stands between two empty lines. -/
structure DraftBlock where
  blockId : StableId
  start : Nat
  stop : Nat
  text : List Char

/-- What the editor is asked with. -/
structure RepairPayload where
  draftId : ArtifactId
  repairScope : LocalRepairScope
  hostRepairCompleteness : String
  hostRepairBoundarySemantics : String
  repairScopeText : List (DraftSpan × String)
  issues : JsonValue
  writingTask : JsonValue
  contextSummary : JsonValue
  draftBlocks : List (StableId × List Char)
  draftText : String
  hostNoChangeRetry : Option String

/-- The draft that is stored. -/
structure RepairedDraft where
  draftId : ArtifactId
  parentDraftId : ArtifactId
  repairReportId : StableId
  textArtifact : ArtifactRef
  changedSpans : List DraftSpan
  editorReceipt : AgentExecutionReceipt
  modelCallRecord : ModelCallRecord
  createdAt : Timestamp
  changed : changedSpans ≠ []
  fresh : draftId ≠ parentDraftId
  repaired : editorReceipt.agentType = .editor ∧ editorReceipt.agentMode = .localRepair ∧
    editorReceipt.status = .succeeded

/-- What an opcode does. -/
inductive OpcodeTag
  | equal
  | replace
  | delete
  | insert
deriving DecidableEq

/-- One step of the matcher. -/
structure Opcode where
  tag : OpcodeTag
  start : Nat
  stop : Nat
  newStart : Nat
  newStop : Nat

/-- The step as one of an edit script. -/
def Opcode.edit (code : Opcode) : Edit :=
  ⟨code.tag = .equal, code.start, code.stop, code.newStart, code.newStop⟩

/-- Why the editor's service raised. -/
inductive EditorialError
  | review (message : String)
  | repair (message : String)
  | validation (message : String)

/-- The service over its ports. -/
structure EditorialService where
  localRepair : EditorRequest → RepairPayload → Except String AgentRunResult
  readVerified : ArtifactRef → Except String String
  put : String → String → Except String ArtifactRef
  getOpcodes : String → String → List Opcode

section Blocks

/-- The parts of a text between pairs of line ends, the first of which has been
    read up to `part`. -/
def splitParts (part : List Char) : List Char → List (List Char)
  | '\n' :: '\n' :: rest => part :: splitParts [] rest
  | c :: rest => splitParts (part ++ [c]) rest
  | [] => [part]

/-- The blocks of the parts from a place and a number on. -/
def draftBlocksFrom (digestHead : String) : Nat → Nat → List (List Char) →
    Except EditorialError (List DraftBlock)
  | _, _, [] => .ok []
  | index, cursor, part :: rest =>
    match StableId.ofString? ("draft-block." ++ digestHead ++ "." ++ toString index) with
    | none => .error (.validation "draft block id")
    | some blockId => do
        let blocks ← draftBlocksFrom digestHead (index + 1) (cursor + part.length + 2) rest
        pure (⟨blockId, cursor, cursor + part.length, part⟩ :: blocks)

/-- `_draft_blocks` -/
def draftBlocks (draftId : ArtifactId) (text : String) : Except EditorialError (List DraftBlock) :=
  draftBlocksFrom (String.ofList ((draftId.root.toList.drop 7).take 32)) 0 0
    (splitParts [] text.toList)

theorem draftBlockId_valid (draftId : ArtifactId) {number : String}
    (hdigits : number.toList.all isIdChar = true) (hshort : number.toList.length ≤ 83) :
    isStableId ("draft-block." ++ String.ofList ((draftId.root.toList.drop 7).take 32) ++ "." ++
      number) = true := by
  have hhex : ((draftId.root.toList.drop 7).take 32).all isIdChar = true := by
    have hvalid := draftId.valid
    simp only [isContentHash, Bool.and_eq_true] at hvalid
    rw [all_eq_true]
    intro c hc
    exact isIdChar_of_isHexDigit c
      (all_eq_true.mp hvalid.1.2 c (mem_of_mem_take hc))
  have hlength := length_take_le 32 (draftId.root.toList.drop 7)
  have hletter : isAlnum 'd' = true := by decide
  have hletters : "raft-block.".toList.all isIdChar = true := by decide
  have hdot : ".".toList.all isIdChar = true := by decide
  have hchars : ∀ head tail : List Char, head.all isIdChar = true → head.length ≤ 32 →
      tail.all isIdChar = true → tail.length ≤ 83 →
      isStableIdChars ('d' :: ("raft-block.".toList ++ head ++ ".".toList ++ tail)) = true := by
    intro head tail hhead hheadLength htail htailLength
    have hlettersLength : "raft-block.".toList.length = 11 := rfl
    have hdotLength : ".".toList.length = 1 := rfl
    simp only [isStableIdChars, all_append, length_append, Bool.and_eq_true,
      decide_eq_true_eq]
    exact ⟨⟨hletter, ⟨⟨hletters, hhead⟩, hdot⟩, htail⟩, by omega⟩
  unfold isStableId
  simp only [String.toList_append, String.toList_ofList]
  exact hchars _ _ hhex hlength hdigits hshort

/-- `_block_at` -/
def blockAt (blocks : List DraftBlock) (offset : Nat) : Option DraftBlock :=
  blocks.find? fun block => block.start ≤ offset ∧ offset ≤ block.stop

end Blocks

section Changes

/-- The range of a step that changes something. A step that runs backwards makes no range. -/
def changedSpan (blocks : List DraftBlock) (code : Opcode) : Except EditorialError DraftSpan :=
  if h : code.start ≤ code.stop then
    .ok ⟨(blockAt blocks code.start).map DraftBlock.blockId, code.start, code.stop, h⟩
  else .error (.validation "Draft span end precedes start")

/-- Merge ranges into the one before them, which is still growing. -/
def mergeTouchingInto (prior : DraftSpan) : List DraftSpan → List DraftSpan
  | [] => [prior]
  | span :: rest =>
    if span.start ≤ prior.stop then
      mergeTouchingInto ⟨prior.blockId, prior.start, max prior.stop span.stop,
        le_trans prior.ordered (le_max_left _ _)⟩ rest
    else prior :: mergeTouchingInto span rest

/-- Merge ranges that touch. -/
def mergeTouching : List DraftSpan → List DraftSpan
  | [] => []
  | span :: rest => mergeTouchingInto span rest

/-- `_changed_spans` -/
def changedSpans (service : EditorialService) (draftId : ArtifactId) (original repaired : String) :
    Except EditorialError (List DraftSpan) := do
  let blocks ← draftBlocks draftId original
  let changes := (service.getOpcodes original repaired).filter fun code => code.tag ≠ .equal
  let raw ← changes.mapM (changedSpan blocks)
  pure (mergeTouching raw)

/-- `_span_inside` -/
def spanInside (span : DraftSpan) (allowed : List DraftSpan) : Bool :=
  allowed.any fun allowedSpan =>
    allowedSpan.start ≤ span.start ∧ span.start ≤ span.stop ∧ span.stop ≤ allowedSpan.stop

end Changes

/-- `_validate_repair_target` -/
def validateRepairTarget (reviewInput : EditorialReviewInput) (report : EditorialReport) :
    Except EditorialError Unit :=
  if report.verdict ≠ .localRepair then
    .error (.repair "only a frozen LOCAL_REPAIR report can be repaired")
  else if report.draftId ≠ reviewInput.draftId then
    .error (.repair "repair report belongs to another Draft")
  else if report.taskContractId ≠ reviewInput.contractId then
    .error (.repair "repair report belongs to another WritingTaskContract")
  else if report.contextId ≠ reviewInput.contextId then
    .error (.repair "repair report belongs to another Context snapshot")
  else if report.baseCommit ≠ reviewInput.baseCommit then
    .error (.repair "repair report belongs to another base commit")
  else .ok ()

/-- `_EDITOR_REPAIR_COMPLETENESS_INSTRUCTION` -/
def repairCompletenessInstruction : String :=
  "Address every blocking issue in the supplied issues list before returning. Do not stop " ++
    "after repairing the first issue: resolve each issue_id in its corresponding allowed " ++
    "span, while preserving every character outside the frozen allowed spans. Return one " ++
    "complete JSON object."

/-- `_EDITOR_REPAIR_BOUNDARY_INSTRUCTION` -/
def repairBoundaryInstruction : String :=
  "An allowed span is a replacement boundary, not a fixed-length quota. Construct the " ++
    "complete result as draft_text[:start] + replacement_text + draft_text[end:] for each " ++
    "span: replacement_text may be longer or shorter than the supplied span, including an " ++
    "inserted sentence or paragraph. The returned repaired_text must contain the actual " ++
    "replacement; self_observations do not count as a repair."

/-- `_EDITOR_NO_CHANGE_RETRY_INSTRUCTION` -/
def noChangeRetryInstruction : String :=
  "The previous LOCAL_REPAIR response returned the Draft unchanged, which is invalid. " ++
    "Return one complete replacement JSON object with repaired_text changed inside the " ++
    "frozen allowed spans. Preserve every character outside those spans exactly, make the " ++
    "smallest repair that addresses the blocking issue, and do not return the original " ++
    "Draft again."

/-- `_repair_payload` -/
def repairPayload (reviewInput : EditorialReviewInput) (report : EditorialReport)
    (scope : LocalRepairScope) (text : String) (blocks : List DraftBlock) : RepairPayload where
  draftId := reviewInput.draftId
  repairScope := scope
  hostRepairCompleteness := repairCompletenessInstruction
  hostRepairBoundarySemantics := repairBoundaryInstruction
  repairScopeText := scope.allowedSpans.map fun span =>
    (span, String.ofList (slice text.toList span.start span.stop))
  issues := report.issues
  writingTask := reviewInput.writingTask
  contextSummary := reviewInput.contextSummary
  draftBlocks := blocks.map fun block => (block.blockId, block.text)
  draftText := text
  hostNoChangeRetry := none

/-- `_editor_no_change_retry_payload` -/
def editorNoChangeRetryPayload (payload : RepairPayload) : RepairPayload :=
  { payload with hostNoChangeRetry := some noChangeRetryInstruction }

/-- What the identity of a repaired draft is hashed from. -/
def repairedIdentity (parentDraftId : ArtifactId) (reportId : StableId)
    (textArtifact : ArtifactRef) : JsonValue :=
  .object [
    ("kind", .string "editor-local-repair-v1"),
    ("parent_draft_id", .string parentDraftId.root),
    ("repair_report_id", .string reportId.root),
    ("text_artifact", .object [
      ("artifact_id", .string textArtifact.artifactId.root),
      ("byte_length", .int textArtifact.byteLength),
      ("media_type", .string textArtifact.mediaType),
      ("schema_version", .string textArtifact.schemaVersion.root)])]

/-- `REPAIRED_TEXT_MEDIA_TYPE` -/
def repairedTextMediaType : String := "text/plain; charset=utf-8"

namespace EditorialService

variable (service : EditorialService)

/-- `_read_draft_text` -/
def readDraftText (reviewInput : EditorialReviewInput) : Except EditorialError String :=
  match service.readVerified reviewInput.textArtifact with
  | .error _ => .error (.review "Editor could not read the candidate Draft")
  | .ok text =>
    if Text.isBlank text then .error (.review "Editor cannot review a blank candidate Draft")
    else .ok text

/-- Ask the editor until something has changed, once with each request. -/
def repairAttempts (draftId : ArtifactId) (original : String) :
    List (EditorRequest × RepairPayload) → Except EditorialError (AgentRunResult × List DraftSpan)
  | [] => .error (.repair "LOCAL_REPAIR produced no text change")
  | (request, payload) :: later =>
    match service.localRepair request payload with
    | .error _ => .error (.repair "Editor LOCAL_REPAIR failed without a candidate")
    | .ok run => do
        let spans ← changedSpans service draftId original run.output.repairedText
        if spans ≠ [] then pure (run, spans) else repairAttempts draftId original later

/-- The run of the editor whose text is accepted, with what it changed. -/
def acceptedRun (reviewInput : EditorialReviewInput) (report : EditorialReport)
    (scope : LocalRepairScope) (request : EditorRequest) (original : String) :
    Except EditorialError (AgentRunResult × List DraftSpan) := do
  let blocks ← draftBlocks reviewInput.draftId original
  let payload := repairPayload reviewInput report scope original blocks
  let accepted ← service.repairAttempts reviewInput.draftId original
    [(request, payload), (editorNoChangeRetryRequest request, editorNoChangeRetryPayload payload)]
  if accepted.2.any fun span => !spanInside span scope.allowedSpans then
    throw (.repair "LOCAL_REPAIR changed text outside its frozen scope")
  pure accepted

/-- The candidate of an accepted run. -/
def repairedDraft (reviewInput : EditorialReviewInput) (report : EditorialReport)
    (run : AgentRunResult) (changedSpans : List DraftSpan) (textArtifact : ArtifactRef) :
    Except EditorialError RepairedDraft :=
  let receipt := { run.receipt with outputArtifacts := [textArtifact] }
  let repairedId :=
    digest (repairedIdentity reviewInput.draftId report.reportId textArtifact).render
  if h : changedSpans ≠ [] ∧ repairedId ≠ reviewInput.draftId ∧ receipt.agentType = .editor ∧
      receipt.agentMode = .localRepair ∧ receipt.status = .succeeded then
    .ok {
      draftId := repairedId
      parentDraftId := reviewInput.draftId
      repairReportId := report.reportId
      textArtifact := textArtifact
      changedSpans := changedSpans
      editorReceipt := receipt
      modelCallRecord := run.modelCall
      createdAt := run.modelCall.completedAt
      changed := h.1
      fresh := h.2.1
      repaired := h.2.2 }
  else .error (.repair "LOCAL_REPAIR candidate lineage is invalid")

/-- Apply a frozen report to a draft. -/
def repair (reviewInput : EditorialReviewInput) (report : EditorialReport)
    (request : EditorRequest) : Except EditorialError RepairedDraft := do
  validateRepairTarget reviewInput report
  match report.repairScope with
  | none => throw (.repair "LOCAL_REPAIR report has no repair scope")
  | some scope =>
    let original ← service.readDraftText reviewInput
    let (run, spans) ← service.acceptedRun reviewInput report scope request original
    match service.put run.output.repairedText repairedTextMediaType with
    | .error _ => throw (.repair "LOCAL_REPAIR candidate artifact write failed")
    | .ok textArtifact => repairedDraft reviewInput report run spans textArtifact

end EditorialService

section Scope

/-- Merging ranges leaves each of them inside one, by induction on the ranges
    that are left. None of them starts before the range that grows. -/
theorem exists_mergeTouchingInto (spans : List DraftSpan) : ∀ prior : DraftSpan,
    (∀ span ∈ spans, prior.start ≤ span.start) →
    spans.Pairwise (fun first second => first.start ≤ second.start) →
    ∀ span ∈ prior :: spans, ∃ merged ∈ mergeTouchingInto prior spans,
      span.span.within merged.span := by
  induction spans with
  | nil =>
    intro prior _ _ span hspan
    rw [mem_singleton] at hspan
    exact ⟨prior, mem_singleton_self prior, by rw [hspan]; exact ⟨le_refl _, le_refl _⟩⟩
  | cons next rest ih =>
    intro prior hprior hsorted span hspan
    rw [forall_mem_cons] at hprior
    rw [pairwise_cons] at hsorted
    unfold mergeTouchingInto
    by_cases htouch : next.start ≤ prior.stop
    · rw [if_pos htouch]
      have hgrown := ih ⟨prior.blockId, prior.start, max prior.stop next.stop,
        le_trans prior.ordered (le_max_left _ _)⟩ hprior.2 hsorted.2
      -- The range that has grown holds the one before it and the next one.
      have hboth : (span = prior ∨ span = next) ∨ span ∈ rest := by
        simpa [or_assoc] using hspan
      rcases hboth with hfirst | hrest
      · rcases hgrown _ mem_cons_self with ⟨merged, hmerged, hstart, hstop⟩
        refine ⟨merged, hmerged, ?_⟩
        simp only [DraftSpan.span, Span.within] at hstart hstop ⊢
        have hnext := hprior.1
        rcases hfirst with rfl | rfl
        · omega
        · omega
      · exact hgrown span (mem_cons_of_mem _ hrest)
    · rw [if_neg htouch]
      rcases mem_cons.mp hspan with rfl | hrest
      · exact ⟨span, mem_cons_self, le_refl _, le_refl _⟩
      · rcases ih next hsorted.1 hsorted.2 span hrest with ⟨merged, hmerged, hwithin⟩
        exact ⟨merged, mem_cons_of_mem _ hmerged, hwithin⟩

variable {span : DraftSpan}

/-- Merging stretches leaves each of them inside one. -/
theorem exists_mergeTouching {spans : List DraftSpan}
    (hsorted : spans.Pairwise fun first second => first.start ≤ second.start)
    (hspan : span ∈ spans) : ∃ merged ∈ mergeTouching spans, span.span.within merged.span := by
  cases spans with
  | nil => exact absurd hspan not_mem_nil
  | cons first rest =>
    rw [pairwise_cons] at hsorted
    exact exists_mergeTouchingInto rest first hsorted.1 hsorted.2 span hspan

variable {blocks : List DraftBlock} {code : Opcode}

theorem changedSpan_fields (h : changedSpan blocks code = .ok span) :
    span.start = code.start ∧ span.stop = code.stop := by
  unfold changedSpan at h
  by_cases hordered : code.start ≤ code.stop
  · rw [dif_pos hordered, Except.ok.injEq] at h
    rw [← h]
    exact ⟨rfl, rfl⟩
  · rw [dif_neg hordered] at h
    cases h

theorem changedSpan_starts {codes : List Opcode} {spans : List DraftSpan}
    (h : codes.mapM (changedSpan blocks) = .ok spans) :
    spans.map DraftSpan.start = codes.map Opcode.start := by
  have hlinked := Outcome.mapM_linked.mp h
  clear h
  induction hlinked with
  | nil => rfl
  | cons hfirst _ ih => rw [map_cons, map_cons, ih, (changedSpan_fields hfirst).1]

variable {draftId : ArtifactId}

theorem exists_changedSpan {service : EditorialService} {original repaired : String}
    {spans : List DraftSpan}
    (hscript : Script original.toList repaired.toList
      ((service.getOpcodes original repaired).map Opcode.edit))
    (h : changedSpans service draftId original repaired = .ok spans)
    (hcode : code ∈ service.getOpcodes original repaired) (hchanges : code.tag ≠ .equal) :
    ∃ span ∈ spans, code.edit.span.within span.span := by
  unfold changedSpans at h
  rw [Outcome.bind_eq_ok] at h
  rcases h with ⟨blocks, _, h⟩
  rw [Outcome.bind_eq_ok] at h
  rcases h with ⟨raw, hraw, hspans⟩
  rw [Outcome.pure_eq_ok] at hspans
  have hmem : code ∈ (service.getOpcodes original repaired).filter fun code => code.tag ≠ .equal :=
    mem_filter.mpr ⟨hcode, by simpa using hchanges⟩
  have hsorted : raw.Pairwise fun first second => first.start ≤ second.start := by
    rw [← pairwise_map (f := DraftSpan.start) (R := (· ≤ ·)), changedSpan_starts hraw,
      pairwise_map]
    rcases script_sorted hscript with ⟨happart, hordered⟩
    rw [pairwise_map] at happart
    refine Pairwise.sublist filter_sublist ?_
    refine happart.imp_of_mem fun {first second} hfirst _ hstops => ?_
    have := (hordered first.edit (mem_map_of_mem hfirst)).2
    exact le_trans this hstops
  have hmade : ∃ span, changedSpan blocks code = .ok span :=
    (Outcome.mapM_returns _ _).mp ⟨raw, hraw⟩ code hmem
  rcases hmade with ⟨span, hspan⟩
  have hfields := changedSpan_fields hspan
  rcases exists_mergeTouching hsorted ((Outcome.mapM_mem hraw span).mpr ⟨code, hmem, hspan⟩) with
    ⟨merged, hmerged, hstart, hstop⟩
  refine ⟨merged, hspans ▸ hmerged, ?_⟩
  simp only [DraftSpan.span, Opcode.edit, Edit.span, Span.within] at hstart hstop ⊢
  omega

theorem spanInside_iff {allowed : List DraftSpan} :
    spanInside span allowed = true ↔ ∃ s ∈ allowed.map DraftSpan.span, span.span.within s := by
  unfold spanInside
  rw [any_eq_true]
  simp only [decide_eq_true_eq, mem_map]
  constructor
  · rintro ⟨s, hs, hstart, _, hstop⟩
    exact ⟨s.span, ⟨s, hs, rfl⟩, hstart, hstop⟩
  · rintro ⟨_, ⟨s, hs, rfl⟩, hstart, hstop⟩
    exact ⟨s, hs, hstart, span.ordered, hstop⟩

namespace EditorialService

variable {service : EditorialService} {reviewInput : EditorialReviewInput}
  {report : EditorialReport} {scope : LocalRepairScope} {request : EditorRequest}
  {original : String} {run : AgentRunResult} {spans : List DraftSpan}

theorem repairAttempts_changed {attempts : List (EditorRequest × RepairPayload)}
    (h : service.repairAttempts draftId original attempts = .ok (run, spans)) :
    changedSpans service draftId original run.output.repairedText = .ok spans := by
  induction attempts with
  | nil => cases h
  | cons attempt later ih =>
    unfold repairAttempts at h
    cases hanswer : service.localRepair attempt.1 attempt.2 with
    | error _ =>
      rw [hanswer] at h
      cases h
    | ok answer =>
      rw [hanswer] at h
      simp only [Outcome.bind_eq_ok] at h
      rcases h with ⟨found, hfound, h⟩
      by_cases hchanged : found ≠ []
      · rw [if_pos hchanged, Outcome.pure_eq_ok, Prod.mk.injEq] at h
        rw [← h.1, ← h.2]
        exact hfound
      · rw [if_neg hchanged] at h
        exact ih h

theorem acceptedRun_staysWithin
    (hscript : ∀ repaired, Script original.toList repaired.toList
      ((service.getOpcodes original repaired).map Opcode.edit))
    (h : service.acceptedRun reviewInput report scope request original = .ok (run, spans)) :
    StaysWithin (scope.allowedSpans.map DraftSpan.span) original.toList
      run.output.repairedText.toList := by
  unfold acceptedRun at h
  simp only [Outcome.bind_eq_ok] at h
  rcases h with ⟨blocks, _, accepted, haccepted, h⟩
  rw [Outcome.ite_throw_bind_eq_ok, Outcome.pure_eq_ok] at h
  rcases h with ⟨hinside, rfl⟩
  have hchanged := repairAttempts_changed haccepted
  have hallowed : ∀ span ∈ spans, spanInside span scope.allowedSpans = true := by
    simpa using hinside
  refine script_staysWithin (hscript run.output.repairedText) ?_
  rw [forall_mem_map]
  intro code hcode hreplaced
  have htag : code.tag ≠ .equal := by simpa [Opcode.edit] using hreplaced
  rcases exists_changedSpan (hscript _) hchanged hcode htag with ⟨span, hspan, hwithin⟩
  rcases spanInside_iff.mp (hallowed span hspan) with ⟨s, hs, hspanWithin⟩
  exact ⟨s, hs, le_trans hspanWithin.1 hwithin.1, le_trans hwithin.2 hspanWithin.2⟩

/-- An accepted repair stays in its scope: what its text does not share with
    the draft lies within the allowed spans. -/
theorem repair_staysWithin {draft : RepairedDraft}
    (hscript : ∀ original repaired, Script original.toList repaired.toList
      ((service.getOpcodes original repaired).map Opcode.edit))
    (h : service.repair reviewInput report request = .ok draft) :
    ∃ scope original run, report.repairScope = some scope ∧
      service.readVerified reviewInput.textArtifact = .ok original ∧
      service.acceptedRun reviewInput report scope request original =
        .ok (run, draft.changedSpans) ∧
      service.put run.output.repairedText repairedTextMediaType = .ok draft.textArtifact ∧
      StaysWithin (scope.allowedSpans.map DraftSpan.span) original.toList
        run.output.repairedText.toList := by
  unfold repair at h
  rw [Outcome.bind_eq_ok] at h
  rcases h with ⟨_, _, h⟩
  cases hscope : report.repairScope with
  | none =>
    rw [hscope] at h
    cases h
  | some scope =>
    rw [hscope] at h
    simp only [Outcome.bind_eq_ok] at h
    rcases h with ⟨original, horiginal, ⟨run, spans⟩, haccepted, h⟩
    cases hput : service.put run.output.repairedText repairedTextMediaType with
    | error _ =>
      rw [hput] at h
      cases h
    | ok textArtifact =>
      rw [hput] at h
      have hread : service.readVerified reviewInput.textArtifact = .ok original := by
        unfold readDraftText at horiginal
        cases hverified : service.readVerified reviewInput.textArtifact with
        | error _ =>
          rw [hverified] at horiginal
          cases horiginal
        | ok text =>
          rw [hverified] at horiginal
          simp only at horiginal
          by_cases hblank : Text.isBlank text = true
          · rw [if_pos hblank] at horiginal
            cases horiginal
          · rw [if_neg hblank, Except.ok.injEq] at horiginal
            rw [horiginal]
      unfold repairedDraft at h
      simp only at h
      split at h
      · rw [Except.ok.injEq] at h
        rw [← h]
        exact ⟨scope, original, run, rfl, hread, haccepted, hput,
          acceptedRun_staysWithin (hscript original) haccepted⟩
      · cases h

end EditorialService

end Scope

namespace Sample

/-- A matcher that finds out whether two texts begin alike, and replaces what follows. -/
def plainOpcodes (original repaired : String) : List Opcode :=
  let start :=
    match original.toList, repaired.toList with
    | c :: _, d :: _ => if c = d then 1 else 0
    | _, _ => 0
  [⟨.equal, 0, start, 0, start⟩,
    ⟨.replace, start, original.toList.length, start, repaired.toList.length⟩]

theorem plainOpcodes_script (original repaired : String) : Script original.toList repaired.toList
    ((plainOpcodes original repaired).map Opcode.edit) := by
  unfold plainOpcodes
  cases horiginal : original.toList with
  | nil => simp [Script, ScriptFrom, Opcode.edit, slice]
  | cons c _ =>
    cases hrepaired : repaired.toList with
    | nil => simp [Script, ScriptFrom, Opcode.edit, slice]
    | cons d _ =>
      by_cases hsame : c = d
      · simp [Script, ScriptFrom, Opcode.edit, slice, hsame]
      · simp [Script, ScriptFrom, Opcode.edit, slice, hsame]

def reportId : StableId := ⟨"editorial-report.1", by decide⟩

def artifact : ArtifactRef where
  artifactId := digest "ab"
  mediaType := repairedTextMediaType
  byteLength := 2
  schemaVersion := ⟨"1.0.0", .refl true⟩

def receipt : AgentExecutionReceipt where
  receiptId := ⟨"agent-receipt.1", by decide⟩
  agentType := .editor
  agentMode := .localRepair
  status := .succeeded
  outputArtifacts := []

def request : EditorRequest := editorRequest ⟨"request.editor.repair", by decide⟩

def modelCall : ModelCallRecord where
  requestId := request.requestId
  runId := request.runId
  taskId := request.taskId
  modelRole := .batchTest
  purpose := .development
  traceId := "trace"
  spanId := none
  endpoint := "endpoint"
  model := "model"
  modelVersion := "1"
  usage := ⟨1, 1, 0, 0, .unknown, ModelCalls.free_nonneg⟩
  latencyMs := 1
  startedAt := .aware 0
  completedAt := .aware 1
  valid := by decide

def run : AgentRunResult where
  output := ⟨"ax", [], by decide, by simp⟩
  modelCall := modelCall
  receipt := receipt

def service : EditorialService where
  localRepair _ _ := .ok run
  readVerified _ := .ok "ab"
  put _ _ := .ok artifact
  getOpcodes := plainOpcodes

def reviewInput : EditorialReviewInput where
  draftId := digest "draft"
  textArtifact := artifact
  contractId := ⟨"contract.1", by decide⟩
  contextId := ⟨"context.1", .refl true⟩
  baseCommit := digest "commit"
  writingTask := .null
  contextSummary := .null

def scope : LocalRepairScope where
  issueIds := [⟨"issue.1", by decide⟩]
  allowedSpans := [⟨none, 1, 2, Nat.two_pos⟩]
  instructions := ["Repair it."]
  preserveRequirements := []
  issues_ne_nil := by simp
  spans_ne_nil := by simp
  instructions_ne_nil := by simp
  instructions_written := by simp
  requirements_written := by simp
  issues_nodup := by simp

def report : EditorialReport where
  reportId := reportId
  draftId := reviewInput.draftId
  taskContractId := reviewInput.contractId
  contextId := reviewInput.contextId
  baseCommit := reviewInput.baseCommit
  verdict := .localRepair
  issues := .null
  repairScope := some scope
  has_scope _ := rfl

def block : DraftBlock where
  blockId :=
    ⟨"draft-block." ++ String.ofList ((reviewInput.draftId.root.toList.drop 7).take 32) ++ "." ++ "0",
      draftBlockId_valid reviewInput.draftId (by decide) (by decide)⟩
  start := 0
  stop := 2
  text := ['a', 'b']

def span : DraftSpan := ⟨some block.blockId, 1, 2, Nat.two_pos⟩

theorem draftBlocks_sample : draftBlocks reviewInput.draftId "ab" = .ok [block] := by
  have hparts : splitParts [] "ab".toList = [['a', 'b']] := by decide
  have hid : StableId.ofString? ("draft-block." ++
      String.ofList ((reviewInput.draftId.root.toList.drop 7).take 32) ++ "." ++ toString 0) =
      some block.blockId :=
    (StableId.ofString?_eq_some _ _).mpr rfl
  unfold draftBlocks
  rw [hparts]
  unfold draftBlocksFrom
  rw [hid]
  rfl

theorem changedSpans_sample :
    changedSpans service reviewInput.draftId "ab" run.output.repairedText = .ok [span] := by
  unfold changedSpans
  rw [draftBlocks_sample]
  rfl

theorem acceptedRun_sample :
    service.acceptedRun reviewInput report scope request "ab" = .ok (run, [span]) := by
  have hattempt : ∀ payload later, service.repairAttempts reviewInput.draftId "ab"
      ((request, payload) :: later) = .ok (run, [span]) := by
    intro payload later
    unfold EditorialService.repairAttempts
    change (changedSpans service reviewInput.draftId "ab" run.output.repairedText >>= _) = _
    rw [changedSpans_sample]
    rfl
  have hinside : ([span].any fun span => !spanInside span scope.allowedSpans) = false := by decide
  unfold EditorialService.acceptedRun
  simp only [draftBlocks_sample, hattempt, hinside, bind, Except.bind, Bool.false_eq_true,
    if_false, pure, Except.pure]

end Sample

open Sample

/-- A repair of the second character of a draft is accepted, and stays in its scope. -/
theorem repair_staysWithin_sample : ∃ draft,
    service.repair reviewInput report request = .ok draft ∧
      ∃ scope original run, report.repairScope = some scope ∧
        service.readVerified reviewInput.textArtifact = .ok original ∧
        service.acceptedRun reviewInput report scope request original =
          .ok (run, draft.changedSpans) ∧
        service.put run.output.repairedText repairedTextMediaType =
          .ok draft.textArtifact ∧
        StaysWithin (scope.allowedSpans.map DraftSpan.span) original.toList
          run.output.repairedText.toList := by
  have hfresh : digest (repairedIdentity reviewInput.draftId reportId
      artifact).render ≠ reviewInput.draftId :=
    digest_ne (by decide +kernel)
  have hmade : ∃ draft, EditorialService.repairedDraft reviewInput report
      run [span] artifact = .ok draft := by
    unfold EditorialService.repairedDraft
    refine ⟨_, dif_pos ⟨cons_ne_nil _ _, hfresh, rfl, rfl, rfl⟩⟩
  rcases hmade with ⟨draft, hdraft⟩
  have hrepair : service.repair reviewInput report request =
      .ok draft := by
    have htarget : validateRepairTarget reviewInput report = .ok () := by
      simp [validateRepairTarget, report]
    have hread : service.readDraftText reviewInput = .ok "ab" := by
      have hblank : Text.isBlank "ab" = false := by decide
      simp [EditorialService.readDraftText, service, hblank]
    have hscope : report.repairScope = some scope := rfl
    have hput : service.put run.output.repairedText repairedTextMediaType =
        .ok artifact := rfl
    unfold EditorialService.repair
    refine (Outcome.bind_eq_ok _ _ _).mpr ⟨_, htarget, ?_⟩
    rw [hscope]
    refine (Outcome.bind_eq_ok _ _ _).mpr ⟨_, hread, ?_⟩
    refine (Outcome.bind_eq_ok _ _ _).mpr ⟨_, acceptedRun_sample, ?_⟩
    dsimp only
    rw [hput]
    exact hdraft
  exact ⟨draft, hrepair, EditorialService.repair_staysWithin plainOpcodes_script hrepair⟩

end NovelAgent.Editorial
