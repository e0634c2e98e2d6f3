import NovelAgent.Core.Dedup
import NovelAgent.Retrieval.Needs
import NovelAgent.World.Text

/-!
# Retrieval Units

What retrieval finds and what a context is packed with: anchors, which stand for
a record, and grounded units, which are text themselves.
-/

namespace NovelAgent.Pipeline

open Core Domain World List

open Retrieval (RetrievalUnitKind)

/-- A unit, with what fusion, packing and excerpts read of it. -/
structure RetrievalUnit where
  unitId : StableId
  unitKind : RetrievalUnitKind
  sourceCommit : CommitId
  snapshotId : StableId
  sourceArtifact : Option ArtifactId
  sourceRefs : List ArtifactId
  contentHash : Option ArtifactId
  text : String
  entityIds : List StableId
  predicate : Option String
  parentUnitId : Option StableId
  parentUnitIds : List StableId
  worldline : String
  narrativeStart : Option Nat
  narrativeEnd : Option Nat
  truthClass : Option TruthClass
  accessScope : String
  informationLabel : String
  evidenceRefs : List EvidenceRef
  mandatory : Bool
  /-- The canonical value, the story time, the support status and the taint, which
      are handed on as they are. -/
  others : JsonValue
deriving DecidableEq

/-- `GROUNDED_KINDS` -/
def groundedKinds : List RetrievalUnitKind := [.groundedBlock, .groundedSpan]

/-- The unit is text itself. -/
def RetrievalUnit.isGrounded (unit : RetrievalUnit) : Bool := unit.unitKind ∈ groundedKinds

/-- `_estimate_tokens` -/
def estimateTokens (text : String) : Nat := max 1 ((text.toList.length + 3) / 4)

/-- What units cost. -/
def tokensOf (units : List RetrievalUnit) : Nat :=
  (units.map fun unit => estimateTokens unit.text).sum

theorem tokensOf_append (units others : List RetrievalUnit) :
    tokensOf (units ++ others) = tokensOf units + tokensOf others := by
  unfold tokensOf
  rw [map_append, sum_append]

/-- The units whose identity is not among those seen, the first under each. -/
def dedupeFrom (seen : List StableId) : List RetrievalUnit → List RetrievalUnit
  | [] => []
  | unit :: rest =>
    if unit.unitId ∈ seen then dedupeFrom seen rest
    else unit :: dedupeFrom (unit.unitId :: seen) rest

/-- `_dedupe` -/
def dedupe (units : List RetrievalUnit) : List RetrievalUnit := dedupeFrom [] units

/-- `_resolve_evidence_text` -/
def resolveEvidenceText (label : String) (evidence : EvidenceRef) (root : TextRootDocument) :
    Except String String :=
  match evidence.span with
  | none => .error (label ++ " evidence does not resolve to the supplied text root")
  | some span =>
    match root.block? span.blockId with
    | none => .error (label ++ " evidence span cannot be resolved")
    | some block =>
      if block.text.toList.length < span.stop ∨ evidence.chapterId ≠ some block.chapterId ∨
          evidence.sceneId ≠ block.sceneId ∨ evidence.objectHash ≠ digest block.text then
        .error (label ++ " evidence span cannot be resolved")
      else if evidence.quoteHash ≠ some (digest (block.quote span)) then
        .error (label ++ " evidence quote hash does not match")
      else .ok (block.quote span)

section Dedupe

variable {seen : List StableId} {units : List RetrievalUnit}

variable {id : StableId}

/-- The identities left are those given that are not among the seen. -/
theorem mem_dedupeFrom_ids : id ∈ (dedupeFrom seen units).map RetrievalUnit.unitId ↔
    id ∉ seen ∧ id ∈ units.map RetrievalUnit.unitId := by
  induction units generalizing seen with
  | nil => simp [dedupeFrom]
  | cons unit rest ih =>
    unfold dedupeFrom
    by_cases hseen : unit.unitId ∈ seen
    · rw [if_pos hseen, ih, map_cons, mem_cons]
      constructor
      · intro h
        exact ⟨h.1, Or.inr h.2⟩
      · intro h
        rcases h.2 with rfl | hrest
        · exact absurd hseen h.1
        · exact ⟨h.1, hrest⟩
    · rw [if_neg hseen, map_cons, mem_cons, ih, map_cons, mem_cons,
        mem_cons, not_or]
      by_cases hid : id = unit.unitId
      · subst hid
        simp [hseen]
      · simp [hid]

theorem dedupeFrom_nodup : ((dedupeFrom seen units).map RetrievalUnit.unitId).Nodup := by
  induction units generalizing seen with
  | nil => exact nodup_nil
  | cons unit rest ih =>
    unfold dedupeFrom
    by_cases hseen : unit.unitId ∈ seen
    · rw [if_pos hseen]
      exact ih
    · rw [if_neg hseen, map_cons, nodup_cons]
      refine ⟨?_, ih⟩
      intro hmem
      exact (mem_dedupeFrom_ids.mp hmem).1 mem_cons_self

theorem dedupeFrom_sublist : (dedupeFrom seen units).Sublist units := by
  induction units generalizing seen with
  | nil => exact List.Sublist.refl _
  | cons unit rest ih =>
    unfold dedupeFrom
    by_cases hseen : unit.unitId ∈ seen
    · rw [if_pos hseen]
      exact ih.cons _
    · rw [if_neg hseen]
      exact ih.cons_cons _

/-- Units of distinct identities, none of them seen, all stay. -/
theorem dedupeFrom_eq_self (hnodup : (units.map RetrievalUnit.unitId).Nodup)
    (hseen : ∀ unit ∈ units, unit.unitId ∉ seen) : dedupeFrom seen units = units := by
  induction units generalizing seen with
  | nil => rfl
  | cons unit rest ih =>
    rw [map_cons, nodup_cons] at hnodup
    rw [forall_mem_cons] at hseen
    unfold dedupeFrom
    rw [if_neg hseen.1, ih hnodup.2]
    intro other hother
    rw [mem_cons, not_or]
    refine ⟨?_, hseen.2 other hother⟩
    intro hsame
    exact hnodup.1 (hsame ▸ mem_map_of_mem hother)

theorem dedupe_eq_self (h : (units.map RetrievalUnit.unitId).Nodup) : dedupe units = units :=
  dedupeFrom_eq_self h fun _ _ => not_mem_nil

theorem mem_dedupe_ids :
    id ∈ (dedupe units).map RetrievalUnit.unitId ↔ id ∈ units.map RetrievalUnit.unitId := by
  rw [dedupe, mem_dedupeFrom_ids]
  simp

theorem dedupe_nodup : ((dedupe units).map RetrievalUnit.unitId).Nodup := dedupeFrom_nodup

theorem mem_of_mem_dedupe {unit : RetrievalUnit} (h : unit ∈ dedupe units) : unit ∈ units :=
  dedupeFrom_sublist.subset h

end Dedupe

end NovelAgent.Pipeline
