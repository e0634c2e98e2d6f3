import Mathlib.Data.List.Sort
import NovelAgent.Core.Merging
import NovelAgent.Evidence.Selections

/-!
# The Evidence-First Assembler

How the slices that were selected for needs become the evidence of a writer's context.
-/

namespace NovelAgent.Evidence

open Core Domain World List

/-- What an assembly reads besides the selections. -/
structure AssemblyBasis where
  root : TextRootDocument
  snapshotId : StableId
  checkpointChapter : Nat

/-- `text_root_indexes`, for chapters. A chapter under the identity of the prelude
    takes its place. -/
def chapterIndexOf (root : TextRootDocument) (chapterId : StableId) : Option Nat :=
  (root.chapterIndex? chapterId).or
    (root.prelude.bind fun prelude => if prelude.preludeId = chapterId then some 0 else none)

def textBetween (block : TextBlock) (start stop : Nat) : String :=
  String.ofList ((block.text.toList.drop start).take (stop - start))

/-- `_reverify_slice`, with the reason for a rejection. The number in the identity of a
    chapter is only read for slices without a block, which are rejected anyway. -/
def reverifySlice (basis : AssemblyBasis) (need : PublicNeed) (slice : EvidenceSlice) :
    Option String :=
  if slice.accessScope ≠ need.accessScope then some "scope_failed"
  else if slice.sourceCommit ≠ need.baseCommit ∨ slice.snapshotId ≠ basis.snapshotId then
    some "dereference_failed"
  else
    match basis.root.block? slice.parentBlockId with
    | none => some "dereference_failed"
    | some block =>
      if ¬ (chapterIndexOf basis.root block.chapterId).any (· ≤ basis.checkpointChapter) then
        some "cutoff_failed"
      else if block.text.toList.length < slice.stop ∨ slice.chapterId ≠ block.chapterId ∨
          slice.objectHash ≠ digest block.text ∨
          textBetween block slice.start slice.stop ≠ slice.text ∨
          digest slice.text ≠ slice.quoteHash then
        some "dereference_failed"
      else none

/-- `_span_key` -/
def EvidenceSlice.spanKey (slice : EvidenceSlice) : ArtifactId × Nat × Nat :=
  (slice.objectHash, slice.start, slice.stop)

/-- A slice with the trace that selected it. -/
structure Chosen where
  trace : SliceSelectionTrace
  slice : EvidenceSlice
deriving DecidableEq

/-- The slice that a trace names. Of two slices under one identity the later one counts. -/
def sliceOf (selection : NeedEvidenceSelection) (trace : SliceSelectionTrace) :
    Option EvidenceSlice :=
  selection.slices.findRev? fun slice => slice.sliceId = trace.sliceId

/-- A trace whose slice is still what it says. -/
def verified (basis : AssemblyBasis) (selection : NeedEvidenceSelection)
    (trace : SliceSelectionTrace) : Option Chosen :=
  (sliceOf selection trace).bind fun slice =>
    if reverifySlice basis selection.need slice = none then some ⟨trace, slice⟩ else none

/-- `seen_spans`: of the traces over one span the one of the best rank. -/
def noteSpan (seen : List Chosen) (chosen : Chosen) : List Chosen :=
  match seen.find? fun other => other.slice.spanKey = chosen.slice.spanKey with
  | none => seen ++ [chosen]
  | some previous =>
    if chosen.trace.fusedRank < previous.trace.fusedRank then
      seen.map fun other => if other.slice.spanKey = chosen.slice.spanKey then chosen else other
    else seen

/-- A comes before B by rank and then by the identity of its slice. -/
def Chosen.Before (a b : Chosen) : Prop :=
  a.trace.fusedRank < b.trace.fusedRank ∨
    (a.trace.fusedRank = b.trace.fusedRank ∧ a.trace.sliceId.root ≤ b.trace.sliceId.root)

instance (a b : Chosen) : Decidable (a.Before b) :=
  inferInstanceAs (Decidable (_ ∨ (_ ∧ _)))

/-- `ordered`: the slices of a selection that are used. -/
def chosenOf (basis : AssemblyBasis) (selection : NeedEvidenceSelection) : List Chosen :=
  ((selection.selections.filterMap (verified basis selection)).foldl noteSpan []).insertionSort
    Chosen.Before

/-- An entry of the ledger. Its text is that of its slice. -/
structure LedgerEntry where
  ledgerId : StableId
  slice : EvidenceSlice
  evidenceRefs : List EvidenceRef
  retrievalUnitIds : List StableId
  needIds : List StableId
  needFacetIds : List StableId

/-- A head and an identity, cut off at the length that an identity may have. -/
def cutOff (head : String) (hhead : isStableId head = true) (id : StableId) : StableId where
  root := String.ofList ((head ++ id.root).toList.take 128)
  valid := by
    have hid := id.valid
    rw [isStableId] at hid hhead ⊢
    rw [String.toList_ofList, String.toList_append]
    cases hchars : head.toList with
    | nil => rw [hchars] at hhead; exact absurd hhead (by decide)
    | cons first rest =>
      rw [hchars] at hhead
      simp only [isStableIdChars, Bool.and_eq_true] at hhead
      rw [cons_append, take_succ_cons]
      simp only [isStableIdChars, Bool.and_eq_true, decide_eq_true_eq, length_take]
      refine ⟨⟨hhead.1.1, all_eq_true.mpr fun c hc => ?_⟩, Nat.min_le_left _ _⟩
      rcases mem_append.mp (mem_of_mem_take hc) with hrest | htail
      · exact all_eq_true.mp hhead.1.2 c hrest
      · cases htext : id.root.toList with
        | nil => rw [htext] at htail; exact absurd htail not_mem_nil
        | cons c' tail =>
          rw [htext] at htail hid
          simp only [isStableIdChars, Bool.and_eq_true] at hid
          rcases mem_cons.mp htail with rfl | hmem
          · rw [isIdChar, hid.1.1]
            rfl
          · exact all_eq_true.mp hid.1.2 c hmem

/-- The identity of a slice's entry. -/
def ledgerIdOf (slice : EvidenceSlice) : StableId :=
  cutOff "ledger.evidence." (by decide) slice.sliceId

/-- `add_ledger_entry`: the ledger, and the identity of the slice's entry. -/
def addLedgerEntry (ledger : List LedgerEntry) (needId : StableId) (chosen : Chosen) :
    List LedgerEntry × StableId :=
  match ledger.find? fun entry => entry.slice.spanKey = chosen.slice.spanKey with
  | none =>
    (ledger ++ [{
      ledgerId := ledgerIdOf chosen.slice
      slice := chosen.slice
      evidenceRefs := chosen.trace.evidenceRef.toList
      retrievalUnitIds := [chosen.trace.unitId]
      needIds := [needId]
      needFacetIds := chosen.trace.supportedFacetIds }], ledgerIdOf chosen.slice)
  | some existing =>
    (ledger.map fun entry =>
      if entry.slice.spanKey = chosen.slice.spanKey then
        { entry with
          evidenceRefs := (entry.evidenceRefs ++ chosen.trace.evidenceRef.toList).eraseDups
          retrievalUnitIds := (entry.retrievalUnitIds ++ [chosen.trace.unitId]).eraseDups
          needIds := (entry.needIds ++ [needId]).eraseDups
          needFacetIds := (entry.needFacetIds ++ chosen.trace.supportedFacetIds).eraseDups }
      else entry, existing.ledgerId)

/-- What may be packed for a need: an entry, and the facets that it serves. -/
structure Plan where
  trace : SliceSelectionTrace
  entryId : StableId
  facetIds : List StableId

/-- The plans of a need, best rank first. -/
structure NeedPlans where
  need : PublicNeed
  plans : List Plan

def enter (needId : StableId) : List LedgerEntry → List Chosen → List LedgerEntry × List Plan
  | ledger, [] => (ledger, [])
  | ledger, chosen :: rest =>
    let entered := addLedgerEntry ledger needId chosen
    let others := enter needId entered.1 rest
    (others.1, ⟨chosen.trace, entered.2, chosen.trace.supportedFacetIds⟩ :: others.2)

/-- `need_plans`: the ledger over all selections, and what may be packed for each need. -/
def planAll (basis : AssemblyBasis) :
    List LedgerEntry → List NeedEvidenceSelection → List LedgerEntry × List NeedPlans
  | ledger, [] => (ledger, [])
  | ledger, selection :: rest =>
    let entered := enter selection.need.needId ledger (chosenOf basis selection)
    let others := planAll basis entered.1 rest
    (others.1, ⟨selection.need, entered.2⟩ :: others.2)

/-- `WriterContextEvidenceItem`, for a need with evidence. -/
structure EvidenceItem where
  needId : StableId
  purpose : String
  evidenceLedgerIds : List StableId
  rawPreview : String
  previewTruncated : Bool
  mandatory : Bool

/-- The token counter and the budgets, over a ledger. -/
structure Assembler where
  count : String → Int
  writerBudget : Int
  ledgerBudget : Int
  ledger : List LedgerEntry

/-- What has been packed, in order, and what it costs. -/
structure Packing where
  packed : List (StableId × Plan)
  usedWriterTokens : Int
  usedLedgerTokens : Int

/-- `packed_entries` -/
def Packing.entries (packing : Packing) (needId : StableId) : List StableId :=
  (packing.packed.filter fun entry => entry.1 = needId).map fun entry => entry.2.entryId

/-- `satisfied_facets` -/
def Packing.serves (packing : Packing) (needId facetId : StableId) : Bool :=
  packing.packed.any fun entry => entry.1 = needId && decide (facetId ∈ entry.2.facetIds)

/-- `_purpose` -/
def purpose (need : PublicNeed) : String :=
  (if need.semanticQuestion = "" then need.queryText else need.semanticQuestion) ++ "(" ++
    need.whyNeeded ++ ")"

/-- `_preview` -/
def preview (texts : List String) : String × Bool :=
  let combined := "\n".intercalate texts
  if combined.toList.length ≤ 400 then (combined, false)
  else (String.ofList (combined.toList.take 399) ++ "…", true)

namespace Assembler

variable (assembler : Assembler)

/-- The entry under an identity. There is one for every identity in a plan. -/
def entryOf (entryId : StableId) : Option LedgerEntry :=
  assembler.ledger.find? fun entry => entry.ledgerId = entryId

def textOf (entryId : StableId) : String :=
  (assembler.entryOf entryId).elim "" fun entry => entry.slice.text

/-- `item_tokens` -/
def itemTokens (need : PublicNeed) (entryIds : List StableId) : Int :=
  let shown := preview (entryIds.map assembler.textOf)
  assembler.count ("[" ++ (need.expectedSection.getD .continuityConstraints).value ++ "] " ++
    purpose need ++ "\n  " ++ shown.1 ++ if shown.2 then " [truncated]" else "")

/-- `new_ledger_tokens` -/
def newLedgerTokens (packing : Packing) (entryId : StableId) : Int :=
  let spanKey := (assembler.entryOf entryId).map fun entry => entry.slice.spanKey
  if spanKey ∈ packing.packed.map fun entry =>
      (assembler.entryOf entry.2.entryId).map fun entry => entry.slice.spanKey then 0
  else assembler.count (assembler.textOf entryId)

def writerCost (packing : Packing) (need : PublicNeed) (entryId : StableId) : Int :=
  let entries := packing.entries need.needId
  assembler.itemTokens need (entries ++ [entryId]) -
    if entries = [] then 0 else assembler.itemTokens need entries

/-- The slice fits what is left of the budgets. -/
def Fits (packing : Packing) (need : PublicNeed) (entryId : StableId) : Prop :=
  packing.usedWriterTokens + assembler.writerCost packing need entryId ≤ assembler.writerBudget ∧
    packing.usedLedgerTokens + assembler.newLedgerTokens packing entryId ≤ assembler.ledgerBudget

instance (packing : Packing) (need : PublicNeed) (entryId : StableId) :
    Decidable (assembler.Fits packing need entryId) :=
  inferInstanceAs (Decidable (_ ∧ _))

/-- A packing with one more slice. -/
def added (packing : Packing) (need : PublicNeed) (plan : Plan) : Packing where
  packed := packing.packed ++ [(need.needId, plan)]
  usedWriterTokens := packing.usedWriterTokens + assembler.writerCost packing need plan.entryId
  usedLedgerTokens := packing.usedLedgerTokens + assembler.newLedgerTokens packing plan.entryId

/-- `fits`: pack a slice. The error is `budget_exhausted`, with what was packed. -/
def place (packing : Packing) (need : PublicNeed) (plan : Plan) : Except Packing Packing :=
  if assembler.Fits packing need plan.entryId then .ok (assembler.added packing need plan)
  else .error packing

/-- `facet_plan_index`: the best slice that serves a facet. -/
def servingPlan (lane : NeedPlans) (facetId : StableId) : Option Plan :=
  lane.plans.find? fun plan => facetId ∈ plan.facetIds

/-- `next_facet`, with its slice. -/
def nextPlan (packing : Packing) (lane : NeedPlans) : Option Plan :=
  (lane.need.requiredFacetIds.find? fun facetId =>
    !packing.serves lane.need.needId facetId && (servingPlan lane facetId).isSome).bind
      (servingPlan lane)

/-- The turn of a need in a round. -/
def offer (packing : Packing) (lane : NeedPlans) : Except Packing Packing :=
  match nextPlan packing lane with
  | none => .ok packing
  | some plan => assembler.place packing lane.need plan

/-- The first pass: rounds as long as one makes progress. -/
def roundRobin (order : List NeedPlans) : Nat → Packing → Except Packing Packing
  | 0, packing => .ok packing
  | rounds + 1, packing =>
    if order.all fun lane => (nextPlan packing lane).isNone then .ok packing
    else do
      let next ← order.foldlM assembler.offer packing
      roundRobin order rounds next

/-- The second pass, for one need. -/
def remaining (packing : Packing) (lane : NeedPlans) : Except Packing Packing :=
  lane.plans.foldlM (fun packing plan =>
    if plan.entryId ∈ packing.entries lane.need.needId then .ok packing
    else assembler.place packing lane.need plan) packing

/-- A comes before B in `need_order`. -/
def Before (a b : NeedPlans) : Prop :=
  (a.need.mandatory = true ∧ b.need.mandatory = false) ∨
    (a.need.mandatory = b.need.mandatory ∧ (b.need.priority < a.need.priority ∨
      (a.need.priority = b.need.priority ∧ a.need.needId.root ≤ b.need.needId.root)))

instance (a b : NeedPlans) : Decidable (Before a b) :=
  inferInstanceAs (Decidable ((_ ∧ _) ∨ (_ ∧ (_ ∨ (_ ∧ _)))))

/-- `need_order` -/
def needOrder (lanes : List NeedPlans) : List NeedPlans := lanes.insertionSort Before

/-- As many rounds as there are facets: every round before the last satisfies one. -/
def roundLimit (lanes : List NeedPlans) : Nat :=
  (lanes.map fun lane => lane.need.requiredFacetIds.length).sum

/-- Nothing is packed yet. -/
def nothing : Packing where
  packed := []
  usedWriterTokens := 0
  usedLedgerTokens := 0

def passes (lanes : List NeedPlans) : Except Packing Packing := do
  let packing ← assembler.roundRobin (needOrder lanes) (roundLimit lanes) nothing
  (needOrder lanes).foldlM assembler.remaining packing

/-- The two passes, from an empty packing. -/
def pack (lanes : List NeedPlans) : Packing :=
  match assembler.passes lanes with
  | .ok packing => packing
  | .error packing => packing

/-- What is shown for the needs. A need without entries is a gap, which refers to none. -/
def evidenceItems (lanes : List NeedPlans) : List EvidenceItem :=
  lanes.filterMap fun lane =>
    let entries := (assembler.pack lanes).entries lane.need.needId
    if entries = [] then none
    else
      let shown := preview (entries.map assembler.textOf)
      some {
        needId := lane.need.needId
        purpose := purpose lane.need
        evidenceLedgerIds := entries.eraseDups
        rawPreview := shown.1
        previewTruncated := shown.2
        mandatory := lane.need.mandatory }

end Assembler

end NovelAgent.Evidence
