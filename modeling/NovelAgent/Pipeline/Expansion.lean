import NovelAgent.Pipeline.Candidates
import NovelAgent.Pipeline.CompactUnits

/-!
# Expansion of Anchors

The passages behind an anchor. Each reference of a candidate that is selected and is
not text itself is resolved to the text that it cites, which becomes a unit of its
own under an identity made from the reference.
-/

namespace NovelAgent.Pipeline

open Core Domain World List

/-- What a unit is checked for when it is built. -/
def RetrievalUnit.validated (unit : RetrievalUnit) : Except String RetrievalUnit :=
  if unit.text = "" ∨ unit.worldline = "" ∨ unit.accessScope = "" ∨ unit.informationLabel = "" then
    .error "String should have at least 1 character"
  else if ∃ start ∈ unit.narrativeStart, ∃ stop ∈ unit.narrativeEnd, stop < start then
    .error "retrieval unit narrative end precedes narrative start"
  else if ¬ unit.parentUnitIds.Nodup then .error "retrieval unit parent ids must be unique"
  else if ¬ unit.sourceRefs.Nodup then .error "retrieval unit source refs must be unique"
  else .ok unit

/-- `_with_content_metadata` -/
def withContentMetadata (unit : RetrievalUnit) : RetrievalUnit :=
  { unit with
    sourceRefs := unit.sourceArtifact.toList
    contentHash := some (digest unit.text)
    parentUnitIds :=
      match unit.parentUnitId with
      | none => unit.parentUnitIds
      | some parent =>
        if parent ∈ unit.parentUnitIds then unit.parentUnitIds
        else unit.parentUnitIds ++ [parent] }

/-- The unit of a passage that a reference of an anchor cites. -/
def passageUnit (unit : RetrievalUnit) (evidence : EvidenceRef) (unitId : StableId) (text : String)
    (root : TextRootDocument) : RetrievalUnit where
  unitId := unitId
  unitKind := .groundedSpan
  sourceCommit := unit.sourceCommit
  snapshotId := unit.snapshotId
  sourceArtifact := some root.rootHash
  sourceRefs := []
  contentHash := none
  text := text
  entityIds := unit.entityIds
  predicate := none
  parentUnitId := some unit.unitId
  parentUnitIds := [unit.unitId]
  worldline := unit.worldline
  narrativeStart := unit.narrativeStart
  narrativeEnd := unit.narrativeEnd
  truthClass := unit.truthClass
  accessScope := unit.accessScope
  informationLabel := unit.informationLabel
  evidenceRefs := [evidence]
  mandatory := unit.mandatory
  others := .null

/-- The passages of references, but for those already seen. -/
def expandFrom (root : TextRootDocument) :
    List StableId → List (RetrievalUnit × EvidenceRef) → Except String (List RetrievalUnit)
  | _, [] => .ok []
  | seen, (unit, evidence) :: rest => do
      let text ← resolveEvidenceText "anchor" evidence root
      match StableId.ofString? ("expanded." ++ evidence.evidenceId.root) with
      | none => throw "expanded unit id is no stable identity"
      | some unitId =>
        if unitId ∈ seen then expandFrom root seen rest
        else do
          let passage ← (passageUnit unit evidence unitId text root).validated
          let others ← expandFrom root (unitId :: seen) rest
          pure (withContentMetadata passage :: others)

/-- The references that are expanded. A grounded unit is its own passage. -/
def citedPassages (candidates : List FusedCandidate) : List (RetrievalUnit × EvidenceRef) :=
  (candidates.filter fun candidate => candidate.selected && !candidate.unit.isGrounded).flatMap
    fun candidate => candidate.unit.evidenceRefs.map fun evidence => (candidate.unit, evidence)

/-- `EvidenceExpander.expand` -/
def expand (candidates : List FusedCandidate) (root : TextRootDocument) :
    Except String (List RetrievalUnit) :=
  expandFrom root [] (citedPassages candidates)

section Passages

variable {root : TextRootDocument} {seen : List StableId} {cited : List (RetrievalUnit × EvidenceRef)}
  {units : List RetrievalUnit} {candidates : List FusedCandidate}

theorem validated_eq_ok {unit result : RetrievalUnit} (h : unit.validated = .ok result) :
    result = unit := by
  unfold RetrievalUnit.validated at h
  split_ifs at h
  exact (Except.ok.inj h).symm

/-- Every expanded unit is a passage that one of the references cites, under an
    identity that was not seen before, by induction on the references. -/
theorem expandFrom_spec (h : expandFrom root seen cited = .ok units) :
    (units.map RetrievalUnit.unitId).Nodup ∧ ∀ unit ∈ units, unit.unitId ∉ seen ∧
      ∃ source evidence text, (source, evidence) ∈ cited ∧
        resolveEvidenceText "anchor" evidence root = .ok text ∧
        unit.unitId.root = "expanded." ++ evidence.evidenceId.root ∧
        unit = withContentMetadata (passageUnit source evidence unit.unitId text root) := by
  induction cited generalizing seen units with
  | nil =>
    unfold expandFrom at h
    rw [Except.ok.injEq] at h
    subst h
    exact ⟨nodup_nil, fun _ hunit => absurd hunit not_mem_nil⟩
  | cons first rest ih =>
    rcases first with ⟨source, evidence⟩
    unfold expandFrom at h
    rw [Outcome.bind_eq_ok] at h
    rcases h with ⟨text, htext, h⟩
    cases hid : StableId.ofString? ("expanded." ++ evidence.evidenceId.root) with
    | none =>
      rw [hid] at h
      cases h
    | some unitId =>
      simp only [hid] at h
      by_cases hseen : unitId ∈ seen
      · rw [if_pos hseen] at h
        refine ⟨(ih h).1, ?_⟩
        intro unit hunit
        rcases (ih h).2 unit hunit with ⟨hnew, source', evidence', text', hmem, hmade⟩
        exact ⟨hnew, source', evidence', text', mem_cons_of_mem _ hmem, hmade⟩
      · rw [if_neg hseen] at h
        simp only [Outcome.bind_eq_ok, Outcome.pure_eq_ok] at h
        rcases h with ⟨passage, hpassage, others, hothers, rfl⟩
        have hpassage := validated_eq_ok hpassage
        subst hpassage
        have hrest := ih hothers
        refine ⟨?_, forall_mem_cons.mpr ⟨⟨hseen, source, evidence, text,
          mem_cons_self, htext, (StableId.ofString?_eq_some _ _).mp hid, rfl⟩, ?_⟩⟩
        · rw [map_cons, nodup_cons]
          refine ⟨?_, hrest.1⟩
          intro hmem
          rcases mem_map.mp hmem with ⟨unit, hunit, hsame⟩
          exact (hrest.2 unit hunit).1 (hsame ▸ mem_cons_self)
        · intro unit hunit
          rcases hrest.2 unit hunit with ⟨hnew, source', evidence', text', hmem, hmade⟩
          exact ⟨fun hmem => hnew (mem_cons_of_mem _ hmem), source', evidence', text',
            mem_cons_of_mem _ hmem, hmade⟩

/-- No passage is expanded twice. -/
theorem expand_nodup (h : expand candidates root = .ok units) :
    (units.map RetrievalUnit.unitId).Nodup :=
  (expandFrom_spec h).1

theorem expandFrom_returns {source : RetrievalUnit} {evidence : EvidenceRef} {unitId : StableId}
    {text : String} (htext : resolveEvidenceText "anchor" evidence root = .ok text)
    (hid : unitId.root = "expanded." ++ evidence.evidenceId.root) (hseen : unitId ∉ seen)
    (hvalid : (passageUnit source evidence unitId text root).validated =
      .ok (passageUnit source evidence unitId text root))
    (hrest : expandFrom root (unitId :: seen) cited = .ok units) :
    expandFrom root seen ((source, evidence) :: cited) =
      .ok (withContentMetadata (passageUnit source evidence unitId text root) :: units) := by
  unfold expandFrom
  have hid' := (StableId.ofString?_eq_some _ _).mpr hid
  simp only [htext, hid', if_neg hseen, hvalid, hrest, bind, Except.bind, pure, Except.pure]

end Passages

end NovelAgent.Pipeline
