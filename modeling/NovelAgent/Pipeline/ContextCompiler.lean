import NovelAgent.Core.Linked
import NovelAgent.Pipeline.Expansion
import NovelAgent.Pipeline.Packing

/-!
# Context Compilation

What was retrieved for the needs of a task, packed into a context of bounded size.
Each need contributes its required groups, which are taken whole, and its optional
ones, which compete for what the budget leaves.
-/

namespace NovelAgent.Pipeline

open Core Domain World List

open Retrieval (Stage1MemoryNeed NeedFacet NeedCompletionSpec RetrievalUnitKind)

/-- What a failing step of the source raises. -/
def raising {α : Type} (x : Except String α) : Except CompileError α :=
  x.mapError CompileError.raised

section Collection

/-- `_assert_basis` -/
def assertBasis (units : List RetrievalUnit) (baseCommit : CommitId) (snapshotId : StableId) :
    Except String Unit :=
  if ∃ unit ∈ units, unit.sourceCommit ≠ baseCommit ∨ unit.snapshotId ≠ snapshotId then
    .error "retrieval unit canonical or snapshot basis mismatch"
  else .ok ()

/-- What one need brings in. -/
structure Contribution where
  need : Stage1MemoryNeed
  trace : RetrievalTrace
  unresolved : List String
  mandatory : List RetrievalUnit
  groups : List (RetrievalUnit × List RetrievalUnit)
  hasRequired : Bool
  expanded : List RetrievalUnit

/-- The group has to be taken: its unit is mandatory, or it is the first one of a
    mandatory need. -/
def isRequired (need : Stage1MemoryNeed) (group : (RetrievalUnit × List RetrievalUnit) × Nat) :
    Bool :=
  group.1.1.mandatory || (need.requirement == .mandatory && group.2 == 0)

/-- The trace of a need after its candidates were expanded. -/
def compiledTrace (trace : RetrievalTrace) (selected : List FusedCandidate)
    (expanded : List RetrievalUnit) : RetrievalTrace :=
  { trace with
    anchorsExpanded := selected.countP fun candidate => !candidate.unit.isGrounded
    spansExpanded := expanded.length
    l0Tokens := tokensOf expanded }

/-- One round of the loop over needs and traces. -/
def contribution (root : TextRootDocument) (baseCommit : CommitId) (snapshotId : StableId)
    (pair : Stage1MemoryNeed × RetrievalTrace) : Except String Contribution :=
  let (need, trace) := pair
  let selected := trace.candidates.filter FusedCandidate.selected
  if need.needId ≠ trace.needId then .error "retrieval trace belongs to a different memory need"
  else if selected = [] then
    .ok {
      need := need
      trace := trace
      unresolved := [need.queryText]
      mandatory := []
      groups := []
      hasRequired := false
      expanded := [] }
  else do
    assertBasis (selected.map FusedCandidate.unit) baseCommit snapshotId
    let expansions ← selected.mapM fun candidate => expand [candidate] root
    let expanded := dedupe expansions.flatten
    assertBasis expanded baseCommit snapshotId
    let groups := ((selected.map FusedCandidate.unit).zip (expansions.map dedupe)).zipIdx
    pure {
      need := need
      trace := compiledTrace trace selected expanded
      unresolved := []
      mandatory := (groups.filter (isRequired need)).flatMap fun group => group.1.1 :: group.1.2
      groups := (groups.filter fun group => !isRequired need group).map Prod.fst
      hasRequired := groups.any (isRequired need)
      expanded := expanded }

end Collection

section Admissions

/-- What is included so far, besides what is mandatory, and what is left. -/
structure Packer where
  selectedOptional : List RetrievalUnit
  includedIds : List StableId
  optionalTokens : Nat
  remaining : Nat

variable (casefold : String → String)

def Packer.newUnits (packer : Packer) (group : List RetrievalUnit) : List RetrievalUnit :=
  group.filter fun unit => unit.unitId ∉ packer.includedIds

/-- The unit is text that does not fit, or is too large to be taken whole. -/
def Packer.tooLarge (packer : Packer) (unit : RetrievalUnit) : Bool :=
  unit.isGrounded && (packer.remaining < estimateTokens unit.text ||
    compactFullTextTokenCap < estimateTokens unit.text)

/-- What takes the place of one new unit, unless its excerpt is already there. -/
def Packer.substitution (packer : Packer) (need : Stage1MemoryNeed) (unit : RetrievalUnit) :
    Except String (Option (List RetrievalUnit)) :=
  if packer.tooLarge unit then do
    match ← compactBlockUnit casefold unit need.queryText compactBlockExcerptLimit with
    | none => pure (some [unit])
    | some compact =>
      if compact.unitId ∈ packer.includedIds then pure none
      else if estimateTokens compact.text ≤ packer.remaining then pure (some [compact])
      else pure (some [unit])
  else pure (some [unit])

/-- The units that would be charged for a group's new units. Only one new unit by
    itself is looked at. -/
def Packer.chargedUnits (packer : Packer) (need : Stage1MemoryNeed) :
    List RetrievalUnit → Except String (Option (List RetrievalUnit))
  | [unit] => packer.substitution casefold need unit
  | units => .ok (some units)

/-- More units are included. -/
def Packer.add (packer : Packer) (units : List RetrievalUnit) : Packer where
  selectedOptional := packer.selectedOptional ++ units
  includedIds := packer.includedIds ++ units.map RetrievalUnit.unitId
  optionalTokens := packer.optionalTokens + tokensOf units
  remaining := packer.remaining - tokensOf units

/-- `include_if_fits`, whose callers all name the need. -/
def includeIfFits (packer : Packer) (need : Stage1MemoryNeed) (group : List RetrievalUnit) :
    Except CompileError (Packer × Bool) := do
  let newUnits := packer.newUnits group
  if newUnits = [] then .ok (packer, !group.isEmpty)
  else do
    match ← raising (packer.chargedUnits casefold need newUnits) with
    | none => pure (packer, false)
    | some units =>
      if packer.remaining < tokensOf units then pure (packer, false)
      else pure (packer.add units, true)

/-- The passes include units if they fit. -/
def packerAdmission : Admission Packer where
  admits := includeIfFits casefold
  includes packer id := id ∈ packer.includedIds

end Admissions

section Compilation

/-- The order of the lanes: by the priority of their needs, then by their place. -/
def PackedBefore (a b : Lane × Nat) : Prop :=
  b.1.need.priority < a.1.need.priority ∨ a.1.need.priority = b.1.need.priority ∧ a.2 ≤ b.2

instance : DecidableRel PackedBefore := fun a b =>
  inferInstanceAs (Decidable (b.1.need.priority < a.1.need.priority ∨
    a.1.need.priority = b.1.need.priority ∧ a.2 ≤ b.2))

def Contribution.lane (item : Contribution) : Lane where
  need := item.need
  groups := item.groups
  hasRequired := item.hasRequired
  nextGroup := 0
  groundedOffset := 1

/-- What the packing passes start from. -/
structure Collection where
  contributions : List Contribution
  mandatory : List RetrievalUnit
  packer : Packer
  lanes : List Lane

/-- The part of `compile` before the passes. -/
def collect (pairs : List (Stage1MemoryNeed × RetrievalTrace)) (root : TextRootDocument)
    (baseCommit : CommitId) (snapshotId : StableId) (tokenBudget : Int) :
    Except String Collection :=
  if tokenBudget < 1 then .error "context token budget must be positive"
  else do
    let contributions ← pairs.mapM (contribution root baseCommit snapshotId)
    let mandatory := dedupe (contributions.flatMap Contribution.mandatory)
    pure {
      contributions := contributions
      mandatory := mandatory
      packer := {
        selectedOptional := []
        includedIds := mandatory.map RetrievalUnit.unitId
        optionalTokens := 0
        remaining := (tokenBudget - tokensOf mandatory).toNat }
      lanes := ((contributions.map Contribution.lane).zipIdx.insertionSort PackedBefore).map
        Prod.fst }

/-- What was spent and dropped. -/
structure ContextBudgetReport where
  tokenBudget : Int
  mandatoryTokens : Nat
  optionalTokens : Nat
  droppedOptionalUnitIds : List StableId
  fullChapterReadCount : Nat

/-- What is handed to the writer. -/
structure Stage1ContextPackage where
  contextId : StableId
  baseCommit : CommitId
  snapshotId : StableId
  taskContract : String
  mandatoryConstraints : List RetrievalUnit
  currentWorldState : List RetrievalUnit
  activePlanObligations : List RetrievalUnit
  relevantHistoricalEvents : List RetrievalUnit
  truthAndKnowledgeBoundaries : List RetrievalUnit
  rawEvidenceSpans : List RetrievalUnit
  styleOrReferenceOptional : List RetrievalUnit
  unresolvedGaps : List String
  needFacets : List NeedFacet
  needCompletionSpecs : List NeedCompletionSpec
  retrievalTraces : List RetrievalTrace
  budgetReport : ContextBudgetReport

/-- `_kinds` -/
def kinds (units : List RetrievalUnit) (unitKinds : List RetrievalUnitKind) : List RetrievalUnit :=
  units.filter fun unit => unit.unitKind ∈ unitKinds

/-- The optional units in the order in which they were collected. -/
def Collection.optionalOrder (collection : Collection) : List RetrievalUnit :=
  collection.contributions.flatMap fun item => item.groups.flatMap fun group => group.1 :: group.2

/-- The optional units that are not included. -/
def Collection.dropped (collection : Collection) (packer : Packer) : List StableId :=
  ((dedupe collection.optionalOrder).map RetrievalUnit.unitId).filter fun id =>
    id ∉ packer.includedIds

/-- A compilation: the units that are included, and the package made of them. -/
structure Compilation where
  mandatory : List RetrievalUnit
  selectedOptional : List RetrievalUnit
  package : Stage1ContextPackage

def Compilation.included (compilation : Compilation) : List RetrievalUnit :=
  compilation.mandatory ++ compilation.selectedOptional

/-- The part of `compile` after the passes. The rule of a package on the needs of its
    facets and specifications holds of the facets and specifications of needs. -/
def finish (pairs : List (Stage1MemoryNeed × RetrievalTrace)) (contextId : StableId)
    (baseCommit : CommitId) (snapshotId : StableId) (taskContract : String) (tokenBudget : Int)
    (collection : Collection) (packer : Packer) : Except String Compilation :=
  let included := collection.mandatory ++ packer.selectedOptional
  let needs := pairs.map Prod.fst
  if taskContract = "" then .error "String should have at least 1 character"
  else
    .ok {
      mandatory := collection.mandatory
      selectedOptional := packer.selectedOptional
      package := {
        contextId := contextId
        baseCommit := baseCommit
        snapshotId := snapshotId
        taskContract := taskContract
        mandatoryConstraints := collection.mandatory
        currentWorldState := kinds included [.stateAnchor]
        activePlanObligations := kinds included [.planAnchor]
        relevantHistoricalEvents := kinds included [.eventAnchor, .chapterAnchor]
        truthAndKnowledgeBoundaries := kinds included [.factAnchor, .relationAnchor]
        rawEvidenceSpans :=
          (dedupe (collection.contributions.flatMap Contribution.expanded)).filter fun unit =>
            unit.unitId ∈ packer.includedIds
        styleOrReferenceOptional := kinds packer.selectedOptional groundedKinds
        unresolvedGaps := collection.contributions.flatMap Contribution.unresolved
        needFacets := needs.flatMap Stage1MemoryNeed.needFacets
        needCompletionSpecs := needs.filterMap Stage1MemoryNeed.completionSpec
        retrievalTraces := collection.contributions.map Contribution.trace
        budgetReport := {
          tokenBudget := tokenBudget
          mandatoryTokens := tokensOf collection.mandatory
          optionalTokens := packer.optionalTokens
          droppedOptionalUnitIds := collection.dropped packer
          fullChapterReadCount := (pairs.map fun pair => pair.2.fullChaptersRead).sum } } }

/-- `ContextCompiler.compile` -/
def compile (casefold : String → String) (pairs : List (Stage1MemoryNeed × RetrievalTrace))
    (root : TextRootDocument) (contextId : StableId) (baseCommit : CommitId)
    (snapshotId : StableId) (taskContract : String) (tokenBudget : Int) :
    Except CompileError Compilation := do
  let collection ← raising (collect pairs root baseCommit snapshotId tokenBudget)
  let packed ← pack (packerAdmission casefold) collection.packer collection.lanes
  raising (finish pairs contextId baseCommit snapshotId taskContract tokenBudget collection packed.1)

end Compilation

variable {α : Type} {a : α}

section Balance

variable {casefold : String → String} {packer packer' : Packer} {need : Stage1MemoryNeed}
  {group units : List RetrievalUnit} {admitted : Bool}

variable {x : Except String α}

theorem raising_eq_ok : raising x = .ok a ↔ x = .ok a :=
  Outcome.mapError_eq_ok _ x a

theorem raising_ne_unfinished : raising x ≠ .error .unfinished := by
  unfold raising
  cases x with
  | error message => exact fun h => by cases h
  | ok a => exact fun h => by cases h

/-- What is charged for a group: all of it, or the excerpt of its only unit. -/
theorem chargedUnits_cases
    (h : packer.chargedUnits casefold need group = .ok (some units)) :
    units = group ∨ ∃ unit compact, group = [unit] ∧ packer.tooLarge unit = true ∧
      compactBlockUnit casefold unit need.queryText compactBlockExcerptLimit = .ok (some compact) ∧
      compact.unitId ∉ packer.includedIds ∧ units = [compact] := by
  unfold Packer.chargedUnits at h
  split at h
  · rename_i unit
    unfold Packer.substitution at h
    by_cases hlarge : packer.tooLarge unit = true
    · rw [if_pos hlarge, Outcome.bind_eq_ok] at h
      rcases h with ⟨compact, hcompact, h⟩
      cases compact with
      | none =>
        simp only [Outcome.pure_eq_ok, Option.some.injEq] at h
        exact Or.inl h.symm
      | some compact =>
        simp only at h
        split_ifs at h with hincluded hfits
        · rw [Outcome.pure_eq_ok] at h
          cases h
        · rw [Outcome.pure_eq_ok, Option.some.injEq] at h
          exact Or.inr ⟨unit, compact, rfl, hlarge, hcompact, hincluded, h.symm⟩
        · rw [Outcome.pure_eq_ok, Option.some.injEq] at h
          exact Or.inl h.symm
    · rw [if_neg hlarge, Outcome.pure_eq_ok, Option.some.injEq] at h
      exact Or.inl h.symm
  · rw [Except.ok.injEq, Option.some.injEq] at h
    exact Or.inl h.symm

/-- What an admission can do. -/
theorem includeIfFits_cases (h : includeIfFits casefold packer need group = .ok (packer', admitted)) :
    (packer' = packer ∧ ∀ units,
        packer.chargedUnits casefold need (packer.newUnits group) = .ok (some units) →
          packer.newUnits group = [] ∨ packer.remaining < tokensOf units) ∨
      ∃ units, packer.newUnits group ≠ [] ∧
        packer.chargedUnits casefold need (packer.newUnits group) = .ok (some units) ∧
        tokensOf units ≤ packer.remaining ∧ packer' = packer.add units := by
  unfold includeIfFits at h
  simp only at h
  by_cases hnone : packer.newUnits group = []
  · rw [if_pos hnone, Except.ok.injEq, Prod.mk.injEq] at h
    exact Or.inl ⟨h.1.symm, fun _ _ => Or.inl hnone⟩
  · rw [if_neg hnone, Outcome.bind_eq_ok] at h
    rcases h with ⟨charged, hcharged, h⟩
    rw [raising_eq_ok] at hcharged
    rw [hcharged]
    cases charged with
    | none =>
      simp only [Outcome.pure_eq_ok, Prod.mk.injEq] at h
      exact Or.inl ⟨h.1.symm, fun _ hunits => by cases hunits⟩
    | some units =>
      simp only at h
      by_cases hfits : packer.remaining < tokensOf units
      · rw [if_pos hfits, Outcome.pure_eq_ok, Prod.mk.injEq] at h
        refine Or.inl ⟨h.1.symm, fun charged hsame => Or.inr ?_⟩
        rw [Except.ok.injEq, Option.some.injEq] at hsame
        rwa [← hsame]
      · rw [if_neg hfits, Outcome.pure_eq_ok, Prod.mk.injEq] at h
        exact Or.inr ⟨units, hnone, rfl, not_lt.mp hfits, h.1.symm⟩

theorem includeIfFits_ne_unfinished :
    includeIfFits casefold packer need group ≠ .error .unfinished := by
  intro h
  unfold includeIfFits at h
  simp only at h
  split_ifs at h
  rw [Outcome.bind_eq_error] at h
  rcases h with h | ⟨charged, _, h⟩
  · exact raising_ne_unfinished h
  · cases charged with
    | none => cases h
    | some units =>
      simp only at h
      split_ifs at h <;> cases h

/-- The packer keeps its books: what is included has distinct identities, and what
    is spent and what is left make up what the passes began with. -/
structure Packer.Balanced (mandatory : List RetrievalUnit) (budget : Nat) (packer : Packer) :
    Prop where
  ids : packer.includedIds = (mandatory ++ packer.selectedOptional).map RetrievalUnit.unitId
  nodup : packer.includedIds.Nodup
  spent : packer.optionalTokens = tokensOf packer.selectedOptional
  left : packer.optionalTokens + packer.remaining = budget

variable {mandatory : List RetrievalUnit} {budget : Nat}

theorem chargedUnits_new (hgroup : (group.map RetrievalUnit.unitId).Nodup)
    (h : packer.chargedUnits casefold need (packer.newUnits group) = .ok (some units)) :
    (units.map RetrievalUnit.unitId).Nodup ∧ ∀ unit ∈ units, unit.unitId ∉ packer.includedIds := by
  rcases chargedUnits_cases h with rfl | ⟨_, compact, _, _, _, hnew, rfl⟩
  · refine ⟨hgroup.sublist (filter_sublist.map _), ?_⟩
    intro unit hunit
    have hnew := (mem_filter.mp hunit).2
    rwa [decide_eq_true_eq] at hnew
  · refine ⟨nodup_singleton _, ?_⟩
    intro unit hunit
    rw [mem_singleton.mp hunit]
    exact hnew

theorem includeIfFits_balanced (hpacker : packer.Balanced mandatory budget)
    (hgroup : (group.map RetrievalUnit.unitId).Nodup)
    (h : includeIfFits casefold packer need group = .ok (packer', admitted)) :
    packer'.Balanced mandatory budget := by
  rcases includeIfFits_cases h with ⟨rfl, _⟩ | ⟨units, _, hcharged, hfits, rfl⟩
  · exact hpacker
  · have hnew := chargedUnits_new hgroup hcharged
    refine ⟨?_, ?_, ?_, ?_⟩
    · simp only [Packer.add, hpacker.ids, map_append, append_assoc]
    · refine nodup_append.mpr ⟨hpacker.nodup, hnew.1, ?_⟩
      intro id hid other hother
      rcases mem_map.mp hother with ⟨unit, hunit, rfl⟩
      intro hsame
      exact hnew.2 unit hunit (hsame ▸ hid)
    · simp only [Packer.add, tokensOf_append, hpacker.spent]
    · have hleft := hpacker.left
      simp only [Packer.add]
      omega

/-- The passes keep the books of the packer. -/
theorem pack_balanced {lanes lanes' : List Lane} (hpacker : packer.Balanced mandatory budget)
    (hlanes : ∀ lane ∈ lanes, lane.Holds fun group => (group.map RetrievalUnit.unitId).Nodup)
    (h : pack (packerAdmission casefold) packer lanes = .ok (packer', lanes')) :
    packer'.Balanced mandatory budget := by
  have hkept : Kept (packerAdmission casefold) (packerAdmission casefold)
      (fun p q => p = q ∧ p.Balanced mandatory budget)
      fun group => (group.map RetrievalUnit.unitId).Nodup := by
    constructor
    · intro p q need group hpq hgroup
      rcases hpq with ⟨rfl, hp⟩
      exact Related.of_ok fun _ _ h => ⟨⟨rfl, includeIfFits_balanced hp hgroup h⟩, trivial⟩
    · intro p q id hpq
      rw [hpq.1]
  exact ((pack_related hkept ⟨rfl, hpacker⟩ hlanes).self h).1.2

end Balance

section Collected

variable {root : TextRootDocument} {baseCommit : CommitId} {snapshotId : StableId}
  {pair : Stage1MemoryNeed × RetrievalTrace} {item : Contribution} {candidate : FusedCandidate}

/-- The candidate has to be taken for its need: its unit is mandatory, or it is the
    best one that is selected for a mandatory need. -/
def Required (pair : Stage1MemoryNeed × RetrievalTrace) (candidate : FusedCandidate) : Prop :=
  candidate.unit.mandatory = true ∨ pair.1.requirement = .mandatory ∧
    (pair.2.candidates.filter FusedCandidate.selected).head? = some candidate

theorem exists_place {l : List α} (h : a ∈ l) :
    ∃ (i : Nat) (hi : i < l.length), l[i] = a ∧ (l.head? = some a → i = 0) := by
  by_cases hfirst : l.head? = some a
  · cases l with
    | nil => exact absurd h not_mem_nil
    | cons b rest =>
      rw [List.head?_cons, Option.some.injEq] at hfirst
      exact ⟨0, Nat.zero_lt_succ _, hfirst, fun _ => rfl⟩
  · rcases getElem_of_mem h with ⟨i, hi, hplace⟩
    exact ⟨i, hi, hplace, fun hcontra => absurd hcontra hfirst⟩

theorem contribution_groups (h : contribution root baseCommit snapshotId pair = .ok item)
    (hcandidate : candidate ∈ pair.2.candidates) (hselected : candidate.selected = true) :
    ∃ expansion, expand [candidate] root = .ok expansion ∧
      ((∀ unit ∈ candidate.unit :: dedupe expansion, unit ∈ item.mandatory) ∨
        ¬ Required pair candidate ∧ (candidate.unit, dedupe expansion) ∈ item.groups) := by
  have hmem : candidate ∈ pair.2.candidates.filter FusedCandidate.selected :=
    mem_filter.mpr ⟨hcandidate, hselected⟩
  unfold contribution at h
  simp only at h
  split_ifs at h with _ hnone
  · rw [hnone] at hmem
    exact absurd hmem not_mem_nil
  · simp only [Outcome.bind_eq_ok, Outcome.pure_eq_ok] at h
    rcases h with ⟨_, _, expansions, hexpansions, _, _, rfl⟩
    have hlinked := Outcome.mapM_linked.mp hexpansions
    rcases exists_place hmem with ⟨i, hi, hplace, hbest⟩
    have hlength := hlinked.length_eq
    have hexpand := (forall₂_iff_get.mp hlinked).2 i hi (hlength ▸ hi)
    simp only [get_eq_getElem, hplace] at hexpand
    refine ⟨_, hexpand, ?_⟩
    -- the group of the candidate, with its place
    have hgroup : ((candidate.unit, dedupe expansions[i]), i) ∈
        (((pair.2.candidates.filter FusedCandidate.selected).map FusedCandidate.unit).zip
          (expansions.map dedupe)).zipIdx := by
      rw [mk_mem_zipIdx_iff_getElem?, List.getElem?_eq_getElem (by
        rw [length_zip, length_map, length_map]
        omega)]
      simp [hplace]
    by_cases hrequired : isRequired pair.1 ((candidate.unit, dedupe expansions[i]), i) = true
    · left
      intro unit hunit
      exact mem_flatMap.mpr ⟨_, mem_filter.mpr ⟨hgroup, hrequired⟩, hunit⟩
    · right
      constructor
      · intro hneeded
        apply hrequired
        unfold isRequired
        simp only [Bool.or_eq_true, Bool.and_eq_true, beq_iff_eq]
        rcases hneeded with hmandatory | ⟨hmandatory, hfirst⟩
        · exact Or.inl hmandatory
        · exact Or.inr ⟨hmandatory, hbest hfirst⟩
      · refine mem_map.mpr ⟨_, mem_filter.mpr ⟨hgroup, ?_⟩, rfl⟩
        simp only [hrequired, Bool.not_false]

/-- A selected candidate of a need, with the passages behind it. -/
def Brings (root : TextRootDocument) (pair : Stage1MemoryNeed × RetrievalTrace)
    (candidate : FusedCandidate) (expansion : List RetrievalUnit) : Prop :=
  candidate ∈ pair.2.candidates ∧ candidate.selected = true ∧
    expand [candidate] root = .ok expansion

/-- Nothing else is in the groups of a need: they are selected candidates and what is
    behind them. -/
theorem contribution_brings (h : contribution root baseCommit snapshotId pair = .ok item) :
    (∀ unit ∈ item.mandatory, ∃ candidate expansion, Brings root pair candidate expansion ∧
        unit ∈ candidate.unit :: expansion) ∧
      ∀ group ∈ item.groups, ∃ candidate expansion, Brings root pair candidate expansion ∧
        group = (candidate.unit, dedupe expansion) := by
  unfold contribution at h
  simp only at h
  split_ifs at h
  · rw [Except.ok.injEq] at h
    rw [← h]
    exact ⟨fun _ hunit => absurd hunit not_mem_nil,
      fun _ hgroup => absurd hgroup not_mem_nil⟩
  · simp only [Outcome.bind_eq_ok, Outcome.pure_eq_ok] at h
    rcases h with ⟨_, _, expansions, hexpansions, _, _, rfl⟩
    have hlinked := Outcome.mapM_linked.mp hexpansions
    have hentry : ∀ entry ∈ (((pair.2.candidates.filter FusedCandidate.selected).map
        FusedCandidate.unit).zip (expansions.map dedupe)).zipIdx, ∃ candidate expansion,
          Brings root pair candidate expansion ∧ entry.1 = (candidate.unit, dedupe expansion) := by
      intro entry hentry
      have hzip := mem_of_getElem? (mk_mem_zipIdx_iff_getElem?.mp hentry)
      rw [zip_map, mem_map] at hzip
      rcases hzip with ⟨⟨candidate, expansion⟩, hmem, hsame⟩
      have hexpand := (forall₂_iff_zip.mp hlinked).2 hmem
      have hcandidate := mem_filter.mp (of_mem_zip hmem).1
      exact ⟨candidate, expansion, ⟨hcandidate.1, hcandidate.2, hexpand⟩, hsame.symm⟩
    constructor
    · intro unit hunit
      rcases mem_flatMap.mp hunit with ⟨entry, hmem, hunit⟩
      rcases hentry entry (mem_filter.mp hmem).1 with ⟨candidate, expansion, hbrings, hsame⟩
      refine ⟨candidate, expansion, hbrings, ?_⟩
      rw [hsame] at hunit
      rcases mem_cons.mp hunit with rfl | hunit
      · exact mem_cons_self
      · exact mem_cons_of_mem _ (mem_of_mem_dedupe hunit)
    · intro group hgroup
      rcases mem_map.mp hgroup with ⟨entry, hmem, rfl⟩
      exact hentry entry (mem_filter.mp hmem).1

variable {pairs : List (Stage1MemoryNeed × RetrievalTrace)} {tokenBudget : Int}
  {collection : Collection}

section

variable (h : collect pairs root baseCommit snapshotId tokenBudget = .ok collection)

include h

/-- What the collection is made of: a contribution of each need, of which the lanes and
    the mandatory units are taken. -/
theorem collect_eq_ok :
    List.Forall₂ (fun pair item => contribution root baseCommit snapshotId pair = .ok item) pairs
        collection.contributions ∧
      collection.mandatory = dedupe (collection.contributions.flatMap Contribution.mandatory) ∧
      collection.packer = {
        selectedOptional := []
        includedIds := collection.mandatory.map RetrievalUnit.unitId
        optionalTokens := 0
        remaining := (tokenBudget - tokensOf collection.mandatory).toNat } ∧
      ∀ lane, lane ∈ collection.lanes ↔ ∃ item ∈ collection.contributions, lane = item.lane := by
  unfold collect at h
  split_ifs at h
  simp only [Outcome.bind_eq_ok, Outcome.pure_eq_ok] at h
  rcases h with ⟨contributions, hcontributions, rfl⟩
  refine ⟨Outcome.mapM_linked.mp hcontributions, rfl, rfl, ?_⟩
  intro lane
  have hsorted := fun entry => (perm_insertionSort PackedBefore
    (contributions.map Contribution.lane).zipIdx).mem_iff (a := entry)
  simp only [mem_map]
  constructor
  · intro hlane
    rcases hlane with ⟨⟨lane, i⟩, hentry, rfl⟩
    rw [hsorted, mk_mem_zipIdx_iff_getElem?] at hentry
    rcases mem_map.mp (mem_of_getElem? hentry) with ⟨item, hitem, rfl⟩
    exact ⟨item, hitem, rfl⟩
  · intro hlane
    rcases hlane with ⟨item, hitem, rfl⟩
    rcases getElem_of_mem (mem_map_of_mem (f := Contribution.lane) hitem) with
      ⟨i, hi, hplace⟩
    refine ⟨(item.lane, i), ?_, rfl⟩
    rw [hsorted, mk_mem_zipIdx_iff_getElem?, List.getElem?_eq_getElem hi, hplace]

theorem collect_balanced :
    collection.packer.Balanced collection.mandatory
      (tokenBudget - tokensOf collection.mandatory).toNat := by
  rcases collect_eq_ok h with ⟨_, hmandatory, hpacker, _⟩
  rw [hpacker]
  refine ⟨by simp, ?_, rfl, Nat.zero_add _⟩
  simp only [hmandatory]
  exact dedupe_nodup

theorem collect_distinct :
    ∀ lane ∈ collection.lanes,
      lane.Holds fun group => (group.map RetrievalUnit.unitId).Nodup := by
  intro lane hlane group hgroup
  refine ⟨nodup_singleton _, ?_⟩
  rcases collect_eq_ok h with ⟨hlinked, _, _, hlanes⟩
  rcases (hlanes lane).mp hlane with ⟨item, hitem, rfl⟩
  rcases Linked.exists_left hlinked hitem with ⟨pair, _, hitem⟩
  rcases (contribution_brings hitem).2 group hgroup with ⟨candidate, expansion, _, rfl⟩
  exact dedupe_nodup

end

theorem mem_dropped {packer : Packer} {id : StableId} : id ∈ collection.dropped packer ↔
    id ∈ collection.optionalOrder.map RetrievalUnit.unitId ∧ id ∉ packer.includedIds := by
  unfold Collection.dropped
  rw [mem_filter, mem_dedupe_ids, decide_eq_true_eq]

theorem collect_covers (h : collect pairs root baseCommit snapshotId tokenBudget = .ok collection)
    (hpair : pair ∈ pairs) (hcandidate : candidate ∈ pair.2.candidates)
    (hselected : candidate.selected = true) :
    ∃ expansion, expand [candidate] root = .ok expansion ∧
      ∀ unit ∈ candidate.unit :: expansion,
        unit.unitId ∈ collection.mandatory.map RetrievalUnit.unitId ∨
          ¬ Required pair candidate ∧
            unit.unitId ∈ collection.optionalOrder.map RetrievalUnit.unitId := by
  rcases collect_eq_ok h with ⟨hlinked, hmandatory, _, _⟩
  rcases Linked.exists_right hlinked hpair with ⟨item, hitem, hcontribution⟩
  rcases contribution_groups hcontribution hcandidate hselected with ⟨expansion, hexpand, hgroup⟩
  refine ⟨expansion, hexpand, ?_⟩
  intro unit hunit
  -- the first unit under the identity is in the group
  have hkept : ∃ kept ∈ candidate.unit :: dedupe expansion, kept.unitId = unit.unitId := by
    rcases mem_cons.mp hunit with rfl | hunit
    · exact ⟨_, mem_cons_self, rfl⟩
    · have hid := mem_dedupe_ids.mpr (mem_map_of_mem (f := RetrievalUnit.unitId) hunit)
      rcases mem_map.mp hid with ⟨kept, hkept, hsame⟩
      exact ⟨kept, mem_cons_of_mem _ hkept, hsame⟩
  rcases hkept with ⟨kept, hkept, hsame⟩
  rw [← hsame]
  rcases hgroup with hrequired | ⟨hoptional, hgroup⟩
  · left
    rw [hmandatory, mem_dedupe_ids]
    exact mem_map_of_mem (mem_flatMap.mpr ⟨item, hitem, hrequired kept hkept⟩)
  · refine Or.inr ⟨hoptional, mem_map_of_mem ?_⟩
    exact mem_flatMap.mpr ⟨item, hitem, mem_flatMap.mpr ⟨_, hgroup, hkept⟩⟩

end Collected

section Compiled

variable {casefold : String → String} {pairs : List (Stage1MemoryNeed × RetrievalTrace)}
  {root : TextRootDocument} {contextId : StableId} {baseCommit : CommitId} {snapshotId : StableId}
  {taskContract : String} {tokenBudget : Int} {compilation : Compilation}

/-- A compilation that returns: the collection, the packer at the end of the passes, and
    what is made of them. -/
theorem compile_eq_ok (h : compile casefold pairs root contextId baseCommit snapshotId taskContract
      tokenBudget = .ok compilation) :
    ∃ collection packer lanes,
      collect pairs root baseCommit snapshotId tokenBudget = .ok collection ∧
        pack (packerAdmission casefold) collection.packer collection.lanes = .ok (packer, lanes) ∧
        compilation.mandatory = collection.mandatory ∧
        compilation.selectedOptional = packer.selectedOptional ∧
        compilation.package.budgetReport = {
          tokenBudget := tokenBudget
          mandatoryTokens := tokensOf collection.mandatory
          optionalTokens := packer.optionalTokens
          droppedOptionalUnitIds := collection.dropped packer
          fullChapterReadCount := (pairs.map fun pair => pair.2.fullChaptersRead).sum } := by
  unfold compile at h
  simp only [Outcome.bind_eq_ok, raising_eq_ok] at h
  rcases h with ⟨collection, hcollection, packed, hpacked, h⟩
  unfold finish at h
  simp only at h
  split_ifs at h
  rw [Except.ok.injEq] at h
  rw [← h]
  exact ⟨collection, packed.1, packed.2, hcollection, hpacked, rfl, rfl, rfl⟩

/-- A compilation is never cut short. -/
theorem compile_ne_unfinished : compile casefold pairs root contextId baseCommit snapshotId
    taskContract tokenBudget ≠ .error .unfinished := by
  intro h
  unfold compile at h
  simp only [Outcome.bind_eq_error] at h
  rcases h with h | ⟨_, _, h | ⟨_, _, h⟩⟩
  · exact raising_ne_unfinished h
  · exact @pack_end _ (packerAdmission casefold)
      (fun _ _ _ => includeIfFits_ne_unfinished) _ _ h
  · exact raising_ne_unfinished h

end Compiled

end NovelAgent.Pipeline
