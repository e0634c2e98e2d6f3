import NovelAgent.Core.Outcome
import NovelAgent.Evidence.Assembler

/-!
# The Items of a Writer's Context

How what has been packed becomes the items that an assembly returns.
-/

namespace NovelAgent.Evidence

open Core Domain Retrieval

def facetKindValue : NeedFacetKind → String
  | .currentState => "current_state"
  | .relationState => "relation_state"
  | .capabilityStatus => "capability_status"
  | .limitation => "limitation"
  | .knowledgeBoundary => "knowledge_boundary"
  | .causalHistory => "causal_history"
  | .setup => "setup"
  | .unresolvedStatus => "unresolved_status"
  | .commitment => "commitment"
  | .planNode => "plan_node"

/-- The kinds of gaps that an assembly makes. -/
inductive EvidenceGapKind
  | noSelectedEvidence
  | budgetExceeded
  | semanticPartial
  | semanticUnsupported
  | semanticUnresolved

def EvidenceGapKind.value : EvidenceGapKind → String
  | .noSelectedEvidence => "no_selected_evidence"
  | .budgetExceeded => "budget_exceeded"
  | .semanticPartial => "semantic_partial"
  | .semanticUnsupported => "semantic_unsupported"
  | .semanticUnresolved => "semantic_unresolved"

/-- What an item lacks. -/
structure EvidenceFirstGap where
  needFacetIds : List StableId
  kind : EvidenceGapKind
  reason : String

/-- `WriterContextEvidenceItem`. With a gap it carries no evidence. -/
structure ContextItem extends EvidenceItem where
  contextSection : WriterContextSection
  needFacetIds : List StableId
  selectionReason : String
  gap : Option EvidenceFirstGap
  typed : gap.isSome = true → evidenceLedgerIds = [] ∧ rawPreview = ""

/-- `semantic_by_facet`: of two receipts for a facet the later one counts. -/
def semanticByFacet (selection : NeedEvidenceSelection) : List NeedFacetSemanticReceipt :=
  let receipts := selection.semanticReceipts.filter fun receipt =>
    receipt.needId = selection.need.needId
  receipts.filter fun receipt =>
    receipts.findRev? (fun other => other.needFacetId = receipt.needFacetId) = some receipt

/-- What is said of a facet that the judge did not find supported. -/
def judgedReason (reason : String) : String :=
  if reason = "" then "semantic evidence judgment did not close this mandatory facet" else reason

/-- The gap of a facet of a mandatory need with evidence. Where the judge spoke of the need, only
    its word counts. -/
def facetGap (selection : NeedEvidenceSelection) (structuralSupported : Bool)
    (facetId : StableId) : Option EvidenceFirstGap :=
  if semanticByFacet selection = [] then
    if structuralSupported then none
    else some ⟨[facetId], .noSelectedEvidence, "mandatory facet closed by no exact L0 evidence"⟩
  else
    match (semanticByFacet selection).find? fun receipt => receipt.needFacetId = facetId with
    | none => some ⟨[facetId], .semanticUnresolved, judgedReason ""⟩
    | some receipt =>
      match receipt.status with
      | .supported => none
      | .partialSupport => some ⟨[facetId], .semanticPartial, judgedReason receipt.reason⟩
      | .unsupported => some ⟨[facetId], .semanticUnsupported, judgedReason receipt.reason⟩
      | .unresolved => some ⟨[facetId], .semanticUnresolved, judgedReason receipt.reason⟩

def gapItem (need : PublicNeed) (purpose : String) (mandatory : Bool) (gap : EvidenceFirstGap) :
    ContextItem where
  needId := need.needId
  purpose := purpose
  evidenceLedgerIds := []
  rawPreview := ""
  previewTruncated := false
  mandatory := mandatory
  contextSection := need.expectedSection.getD .continuityConstraints
  needFacetIds := gap.needFacetIds
  selectionReason := ""
  gap := some gap
  typed := fun _ => ⟨rfl, rfl⟩

/-- `_render`, for one item. -/
def renderItem (item : ContextItem) : String :=
  match item.gap with
  | some gap => "[GAP " ++ gap.kind.value ++ "] " ++ item.purpose
  | none =>
    "[" ++ item.contextSection.value ++ "] " ++ item.purpose ++ "\n  " ++ item.rawPreview ++
      if item.previewTruncated then " [truncated]" else ""

/-- An item that was left out, as a gap. -/
def dropped (item : ContextItem) : ContextItem :=
  { item with
    evidenceLedgerIds := []
    rawPreview := ""
    previewTruncated := false
    gap := some ⟨item.needFacetIds, .budgetExceeded, "evidence dropped by " ++
      if item.selectionReason = "" then "budget packing" else item.selectionReason⟩
    typed := fun _ => ⟨rfl, rfl⟩ }

/-- `_need_priority` -/
def needPriority (selections : List NeedEvidenceSelection) (item : ContextItem) : Nat :=
  (selections.find? fun selection => selection.need.needId = item.needId).elim 0 fun selection =>
    selection.need.priority

/-- A comes before B among the items. -/
def ItemBefore (selections : List NeedEvidenceSelection) (a b : ContextItem) : Prop :=
  (a.mandatory = true ∧ b.mandatory = false) ∨
    (a.mandatory = b.mandatory ∧ (needPriority selections b < needPriority selections a ∨
      (needPriority selections a = needPriority selections b ∧ a.needId.root ≤ b.needId.root)))

instance (selections : List NeedEvidenceSelection) (a b : ContextItem) :
    Decidable (ItemBefore selections a b) :=
  inferInstanceAs (Decidable ((_ ∧ _) ∨ (_ ∧ (_ ∨ (_ ∧ _)))))

/-- `ordered_items` -/
def orderItems (selections : List NeedEvidenceSelection) (items : List ContextItem) :
    List ContextItem :=
  items.insertionSort (ItemBefore selections)

/-- What has been taken, what was left out, and what was used. -/
structure ItemPacking where
  packed : List ContextItem
  dropped : List ContextItem
  usedWriterTokens : Int
  packedSpanKeys : List (ArtifactId × Nat × Nat)
  usedLedgerTokens : Int

namespace Assembler

variable (assembler : Assembler)

/-- The entries of an item, one for each span. -/
def itemEntries (item : ContextItem) : List LedgerEntry :=
  assembler.ledger.filter fun entry => entry.ledgerId ∈ item.evidenceLedgerIds

/-- `new_ledger_tokens`, for an item. -/
def newItemTokens (packing : ItemPacking) (item : ContextItem) : Int :=
  (((assembler.itemEntries item).filter fun entry =>
    entry.slice.spanKey ∉ packing.packedSpanKeys).map fun entry =>
      assembler.count entry.slice.text).sum

def packItem (packing : ItemPacking) (item : ContextItem) : ItemPacking :=
  let costWriter := assembler.count (renderItem item)
  let costLedger := assembler.newItemTokens packing item
  if packing.usedWriterTokens + costWriter ≤ assembler.writerBudget ∧
      packing.usedLedgerTokens + costLedger ≤ assembler.ledgerBudget then
    { packing with
      packed := packing.packed ++ [item]
      usedWriterTokens := packing.usedWriterTokens + costWriter
      packedSpanKeys := packing.packedSpanKeys ++
        (assembler.itemEntries item).map fun entry => entry.slice.spanKey
      usedLedgerTokens := packing.usedLedgerTokens + costLedger }
  else { packing with dropped := packing.dropped ++ [item] }

/-- `_pack_items` -/
def packItems (items : List ContextItem) : ItemPacking :=
  items.foldl assembler.packItem ⟨[], [], 0, [], 0⟩

/-- The item of a need with evidence. -/
def evidenceItem (packing : Packing) (lane : NeedPlans) : ContextItem :=
  let entries := packing.entries lane.need.needId
  let shown := preview (entries.map assembler.textOf)
  { needId := lane.need.needId
    purpose := purpose lane.need
    evidenceLedgerIds := entries.eraseDups
    rawPreview := shown.1
    previewTruncated := shown.2
    mandatory := lane.need.mandatory
    contextSection := lane.need.expectedSection.getD .continuityConstraints
    needFacetIds := lane.need.needFacets.map NeedFacet.needFacetId
    -- The first entry comes from a plan of the need.
    selectionReason :=
      (lane.plans.find? fun plan => some plan.entryId = entries.head?).elim "" fun top =>
        "route=" ++ top.trace.routeChannel ++ ";fused_rank=" ++ toString top.trace.fusedRank ++
          ";" ++ top.trace.selectionReason
    gap := none
    typed := nofun }

/-- The entries that are named by what the judge says of slices. -/
def judgedEntries (lane : NeedPlans) (sliceIds : List StableId) : List StableId :=
  sliceIds.filterMap fun sliceId =>
    (lane.plans.findRev? fun plan => plan.trace.sliceId = sliceId).map Plan.entryId

/-- What an item with evidence is refused with. -/
def refusedItem (packing : Packing) (selection : NeedEvidenceSelection) (lane : NeedPlans) :
    Option String :=
  let entries := packing.entries lane.need.needId
  let named (slices : NeedFacetSemanticReceipt → List StableId) :=
    judgedEntries lane ((semanticByFacet selection).flatMap slices)
  if ∃ entryId ∈ named NeedFacetSemanticReceipt.supportingSliceIds, entryId ∉ entries then
    some "semantic answering refs must belong to the evidence item"
  else if ∃ entryId ∈ named NeedFacetSemanticReceipt.partialSliceIds, entryId ∉ entries then
    some "semantic partial refs must belong to the evidence item"
  else none

/-- The items of a need. -/
def itemsOf (packing : Packing) (selection : NeedEvidenceSelection) (lane : NeedPlans) :
    Except String (List ContextItem) :=
  let need := lane.need
  if packing.entries need.needId = [] then
    .ok [gapItem need (purpose need) need.mandatory ⟨need.needFacets.map NeedFacet.needFacetId,
      .noSelectedEvidence, "no verified exact slice was selected for this public Need"⟩]
  else
    match refusedItem packing selection lane with
    | some message => .error message
    | none =>
      let gaps := need.needFacets.filterMap fun facet =>
        (facetGap selection (packing.serves need.needId facet.needFacetId &&
            decide (facet.needFacetId ∈ need.requiredFacetIds)) facet.needFacetId).map
          (gapItem need (purpose need ++ " [" ++ facetKindValue facet.facetKind ++ "]") true)
      .ok (assembler.evidenceItem packing lane :: if need.mandatory then gaps else [])

/-- The items that are returned for what has been packed. -/
def assembleItems (selections : List NeedEvidenceSelection) (lanes : List NeedPlans)
    (packing : Packing) : Except String (List ContextItem) := do
  let items ← (selections.zip lanes).mapM fun pair => assembler.itemsOf packing pair.1 pair.2
  let taken := assembler.packItems (orderItems selections items.flatten)
  return orderItems selections (taken.packed ++ taken.dropped.map dropped)

/-- `assemble`, up to the gaps that are added to its items. -/
def assemble (selections : List NeedEvidenceSelection) (lanes : List NeedPlans) :
    Except String (List ContextItem) :=
  assembler.assembleItems selections lanes (assembler.pack lanes)

end Assembler

end NovelAgent.Evidence
