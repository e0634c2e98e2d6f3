import NovelAgent.Pipeline.Candidates

/-!
# Selection of Candidates

Which of the ranked candidates are selected. One pass goes over them and keeps a tally
of what it has selected: mandatory units always are, and the others as long as there is
room, neither their kind nor their chapter has used up its quota, and they cite
something new.
-/

namespace NovelAgent.Pipeline

open Core Domain List

open Retrieval (RetrievalUnitKind)

/-- Typed limits on what is selected, which never bind mandatory units. -/
structure CandidateQuotaPolicy where
  maxPerUnitKind : Nat
  maxPerNarrativeChapter : Nat
  collapseDuplicateEvidence : Bool
  kind_pos : 0 < maxPerUnitKind
  chapter_pos : 0 < maxPerNarrativeChapter

section Paths

/-- `_graph_path_seed_ids` -/
def graphPathSeedIds (candidate : FusedCandidate) : List StableId :=
  candidate.channelHits.flatMap fun hit => hit.graphPathReceipts.flatMap GraphPathReceipt.entityPath

def pathSeeds (candidates : List FusedCandidate) (seedEntityIds : List StableId) : List StableId :=
  if seedEntityIds = [] then
    (candidates.filter fun candidate =>
      candidate.selected && (graphPathSeedIds candidate).isEmpty).flatMap
        fun candidate => candidate.unit.entityIds
  else seedEntityIds

/-- The path runs through all seeds, and its unit is about one of them. -/
def isRelated (seeds : List StableId) (candidate : FusedCandidate) : Bool :=
  seeds.all (fun seed => seed ∈ graphPathSeedIds candidate) &&
    candidate.unit.entityIds.any fun entityId => entityId ∈ seeds

/-- A candidate is ranked before another one, or named before it at the same rank. -/
def BestBefore (a b : FusedCandidate) : Prop :=
  a.fusedRank < b.fusedRank ∨
    a.fusedRank = b.fusedRank ∧ a.unit.unitId.root < b.unit.unitId.root

instance : DecidableRel BestBefore := fun a b =>
  inferInstanceAs (Decidable (a.fusedRank < b.fusedRank ∨
    a.fusedRank = b.fusedRank ∧ a.unit.unitId.root < b.unit.unitId.root))

def bestOf (first : FusedCandidate) (others : List FusedCandidate) : FusedCandidate :=
  others.foldl (fun best candidate => if BestBefore candidate best then candidate else best) first

/-- The path that is retained: the best related one, if there are seeds and no related
    path was selected. -/
def retainedPath (candidates : List FusedCandidate) (seedEntityIds : List StableId) :
    Option FusedCandidate :=
  let seeds := pathSeeds candidates seedEntityIds
  if seeds = [] then none
  else
    match candidates.filter (isRelated seeds) with
    | [] => none
    | first :: others =>
      if (first :: others).any FusedCandidate.selected then none else some (bestOf first others)

/-- `retain_related_graph_paths` -/
def retainRelatedGraphPaths (candidates : List FusedCandidate) (seedEntityIds : List StableId) :
    List FusedCandidate :=
  match retainedPath candidates seedEntityIds with
  | none => candidates
  | some best =>
    candidates.map fun candidate =>
      if candidate.unit.unitId = best.unit.unitId then candidate.mark true none else candidate

end Paths

section Pass

/-- What a pass has selected so far. -/
structure Tally where
  selectedOptional : Nat
  kindCounts : RetrievalUnitKind → Nat
  chapterCounts : Nat → Nat
  evidenceSeen : List StableId

/-- Nothing was selected. -/
def Tally.empty : Tally where
  selectedOptional := 0
  kindCounts := fun _ => 0
  chapterCounts := fun _ => 0
  evidenceSeen := []

/-- The chapter that a unit lies in, if it lies in one. -/
def narrativeChapter (unit : RetrievalUnit) : Option Nat :=
  if unit.narrativeStart = unit.narrativeEnd then unit.narrativeStart else none

/-- What a unit cites. -/
def evidenceIds (unit : RetrievalUnit) : List StableId :=
  unit.evidenceRefs.map fun evidence => evidence.evidenceId

/-- A unit is selected. -/
def Tally.add (tally : Tally) (unit : RetrievalUnit) : Tally where
  selectedOptional := if unit.mandatory then tally.selectedOptional else tally.selectedOptional + 1
  kindCounts kind := if unit.unitKind = kind then tally.kindCounts kind + 1 else tally.kindCounts kind
  chapterCounts chapter :=
    if narrativeChapter unit = some chapter then tally.chapterCounts chapter + 1
    else tally.chapterCounts chapter
  evidenceSeen := tally.evidenceSeen ++ evidenceIds unit

theorem Tally.add_optional (tally : Tally) {unit : RetrievalUnit} (h : unit.mandatory = false) :
    (tally.add unit).selectedOptional = tally.selectedOptional + 1 := by
  unfold Tally.add
  rw [h]
  rfl

theorem Tally.add_mandatory (tally : Tally) {unit : RetrievalUnit} (h : unit.mandatory = true) :
    (tally.add unit).selectedOptional = tally.selectedOptional := by
  unfold Tally.add
  rw [h]
  rfl

theorem Tally.add_kindCounts (tally : Tally) (unit : RetrievalUnit) (kind : RetrievalUnitKind) :
    (tally.add unit).kindCounts kind =
      if unit.unitKind = kind then tally.kindCounts kind + 1 else tally.kindCounts kind := rfl

theorem Tally.add_chapterCounts (tally : Tally) (unit : RetrievalUnit) (chapter : Nat) :
    (tally.add unit).chapterCounts chapter =
      if narrativeChapter unit = some chapter then tally.chapterCounts chapter + 1
      else tally.chapterCounts chapter := rfl

variable (policy : CandidateQuotaPolicy) (limit : Int) (seeds : List StableId)

/-- Why a unit is rejected. -/
def rejection (tally : Tally) (unit : RetrievalUnit) : Option String :=
  if unit.mandatory then none
  else if seeds ≠ [] ∧ ¬ ∃ entityId ∈ unit.entityIds, entityId ∈ seeds then some "off_seed"
  else if limit ≤ tally.selectedOptional then some "optional_candidate_limit"
  else if policy.maxPerUnitKind ≤ tally.kindCounts unit.unitKind then some "unit_kind_quota"
  else if ∃ chapter ∈ narrativeChapter unit,
      policy.maxPerNarrativeChapter ≤ tally.chapterCounts chapter then
    some "narrative_chapter_quota"
  else if policy.collapseDuplicateEvidence ∧ evidenceIds unit ≠ [] ∧
      evidenceIds unit ⊆ tally.evidenceSeen then
    some "duplicate_evidence"
  else none

/-- The pass over candidates. -/
def selectFrom : Tally → List FusedCandidate → List FusedCandidate
  | _, [] => []
  | tally, candidate :: rest =>
    match rejection policy limit seeds tally candidate.unit with
    | none => candidate.mark true none :: selectFrom (tally.add candidate.unit) rest
    | some reason => candidate.mark false (some reason) :: selectFrom tally rest

/-- `TypedCandidateSelector.select` -/
def select (candidates : List FusedCandidate) : Except String (List FusedCandidate) :=
  if limit < 1 then .error "candidate selection limit must be positive"
  else .ok (retainRelatedGraphPaths (selectFrom policy limit seeds Tally.empty candidates) seeds)

end Pass

variable {candidate : FusedCandidate}

section Quotas

variable {policy : CandidateQuotaPolicy} {limit : Int} {seeds : List StableId} {tally : Tally}
  {unit : RetrievalUnit}

/-- The selected optional unit is one of those that a limit binds. -/
def FusedCandidate.isOptional (candidate : FusedCandidate) : Bool :=
  candidate.selected && !candidate.unit.mandatory

def FusedCandidate.isOfKind (kind : RetrievalUnitKind) (candidate : FusedCandidate) : Bool :=
  candidate.selected && candidate.unit.unitKind = kind

/-- The selected unit lies in a chapter. -/
def FusedCandidate.isInChapter (chapter : Nat) (candidate : FusedCandidate) : Bool :=
  candidate.selected && narrativeChapter candidate.unit = some chapter

theorem FusedCandidate.mark_isOfKind (candidate : FusedCandidate) (reason : Option String)
    (kind : RetrievalUnitKind) : (candidate.mark true reason).isOfKind kind =
      decide (candidate.unit.unitKind = kind) := rfl

theorem FusedCandidate.mark_isInChapter (candidate : FusedCandidate) (reason : Option String)
    (chapter : Nat) : (candidate.mark true reason).isInChapter chapter =
      decide (narrativeChapter candidate.unit = some chapter) := rfl

theorem rejection_none (hoptional : unit.mandatory = false)
    (h : rejection policy limit seeds tally unit = none) :
    (tally.selectedOptional : Int) < limit ∧
      tally.kindCounts unit.unitKind < policy.maxPerUnitKind ∧
      ∀ chapter ∈ narrativeChapter unit,
        tally.chapterCounts chapter < policy.maxPerNarrativeChapter := by
  unfold rejection at h
  rw [hoptional, if_neg Bool.false_ne_true] at h
  split_ifs at h with _ hlimit hkind hchapter
  refine ⟨not_le.mp hlimit, not_le.mp hkind, ?_⟩
  intro chapter hmem
  exact not_le.mp fun hfull => hchapter ⟨chapter, hmem, hfull⟩

theorem rejection_mandatory (h : unit.mandatory = true) :
    rejection policy limit seeds tally unit = none := by
  unfold rejection
  rw [h, if_pos rfl]

/-- The pass keeps the candidates in their places. -/
theorem selectFrom_units (candidates : List FusedCandidate) : ∀ tally,
    (selectFrom policy limit seeds tally candidates).map FusedCandidate.unit =
      candidates.map FusedCandidate.unit := by
  induction candidates with
  | nil => exact fun _ => rfl
  | cons candidate rest ih =>
    intro tally
    unfold selectFrom
    cases rejection policy limit seeds tally candidate.unit with
    | none =>
      simp only [map_cons, ih]
      rfl
    | some reason =>
      simp only [map_cons, ih]
      rfl

theorem selectFrom_mandatory (candidates : List FusedCandidate) : ∀ tally,
    ∀ candidate ∈ selectFrom policy limit seeds tally candidates,
      candidate.unit.mandatory = true → candidate.selected = true := by
  induction candidates with
  | nil => exact fun _ _ hmem => absurd hmem not_mem_nil
  | cons first rest ih =>
    intro tally
    unfold selectFrom
    cases hrejection : rejection policy limit seeds tally first.unit with
    | none => exact forall_mem_cons.mpr ⟨fun _ => rfl, ih _⟩
    | some reason =>
      refine forall_mem_cons.mpr ⟨?_, ih _⟩
      intro hmandatory
      rw [FusedCandidate.mark_unit] at hmandatory
      rw [rejection_mandatory hmandatory] at hrejection
      cases hrejection

/-- How many optional units are selected. -/
theorem selectFrom_limit (candidates : List FusedCandidate) : ∀ tally : Tally,
    (tally.selectedOptional : Int) ≤ limit →
      ((tally.selectedOptional + (selectFrom policy limit seeds tally candidates).countP
        FusedCandidate.isOptional : Nat) : Int) ≤ limit := by
  induction candidates with
  | nil => exact fun _ h => h
  | cons candidate rest ih =>
    intro tally h
    unfold selectFrom
    cases hrejection : rejection policy limit seeds tally candidate.unit with
    | none =>
      by_cases hmandatory : candidate.unit.mandatory = true
      · have hadd := tally.add_mandatory hmandatory
        have hrest := ih (tally.add candidate.unit) (by omega)
        have hcount : (candidate.mark true none).isOptional = false := by
          simp [FusedCandidate.isOptional, hmandatory]
        simp only
        rw [countP_cons, hcount]
        simp only [Bool.false_eq_true, if_false]
        omega
      · rw [Bool.not_eq_true] at hmandatory
        have hroom := (rejection_none hmandatory hrejection).1
        have hadd := tally.add_optional hmandatory
        have hrest := ih (tally.add candidate.unit) (by omega)
        have hcount : (candidate.mark true none).isOptional = true := by
          simp [FusedCandidate.isOptional, hmandatory]
        simp only
        rw [countP_cons, hcount]
        simp only [if_true]
        omega
    | some reason =>
      have hrest := ih tally h
      simpa [countP_cons, FusedCandidate.isOptional] using hrest

/-- A selected optional unit is within the quotas over what the tally has and what the
    pass selected before it, by induction on what comes before. -/
theorem selectFrom_quota {candidates : List FusedCandidate} {after : List FusedCandidate} :
    ∀ {before : List FusedCandidate} {tally : Tally},
    selectFrom policy limit seeds tally candidates = before ++ candidate :: after →
      candidate.isOptional = true →
        tally.kindCounts candidate.unit.unitKind +
            before.countP (FusedCandidate.isOfKind candidate.unit.unitKind) <
          policy.maxPerUnitKind ∧
        ∀ chapter ∈ narrativeChapter candidate.unit,
          tally.chapterCounts chapter + before.countP (FusedCandidate.isInChapter chapter) <
            policy.maxPerNarrativeChapter := by
  induction candidates with
  | nil =>
    intro before tally h
    exact absurd h.symm (by simp [selectFrom])
  | cons first rest ih =>
    intro before tally h hoptional
    unfold selectFrom at h
    cases hrejection : rejection policy limit seeds tally first.unit with
    | none =>
      rw [hrejection] at h
      cases before with
      | nil =>
        rw [nil_append, List.cons.injEq] at h
        rw [← h.1] at hoptional ⊢
        simp only [FusedCandidate.isOptional, FusedCandidate.mark_selected,
          FusedCandidate.mark_unit, Bool.true_and, Bool.not_eq_true'] at hoptional
        exact (rejection_none hoptional hrejection).2
      | cons head before =>
        rw [cons_append, List.cons.injEq] at h
        have hrest := ih h.2 hoptional
        rw [← h.1]
        constructor
        · have hkind := hrest.1
          rw [Tally.add_kindCounts] at hkind
          rw [countP_cons, FusedCandidate.mark_isOfKind]
          by_cases hsame : first.unit.unitKind = candidate.unit.unitKind
          · rw [if_pos hsame] at hkind
            rw [if_pos (decide_eq_true hsame)]
            omega
          · rw [if_neg hsame] at hkind
            rw [if_neg (by simpa using hsame)]
            omega
        · intro chapter hmem
          have hchapter := hrest.2 chapter hmem
          rw [Tally.add_chapterCounts] at hchapter
          rw [countP_cons, FusedCandidate.mark_isInChapter]
          by_cases hsame : narrativeChapter first.unit = some chapter
          · rw [if_pos hsame] at hchapter
            rw [if_pos (decide_eq_true hsame)]
            omega
          · rw [if_neg hsame] at hchapter
            rw [if_neg (by simpa using hsame)]
            omega
    | some reason =>
      rw [hrejection] at h
      cases before with
      | nil =>
        rw [nil_append, List.cons.injEq] at h
        rw [← h.1] at hoptional
        cases hoptional
      | cons head before =>
        rw [cons_append, List.cons.injEq] at h
        have hrest := ih h.2 hoptional
        rw [← h.1]
        simpa [countP_cons, FusedCandidate.isOfKind, FusedCandidate.isInChapter]
          using hrest

end Quotas

section Retained

variable {candidates : List FusedCandidate} {seedEntityIds : List StableId} {best : FusedCandidate}

theorem bestOf_mem (first : FusedCandidate) (others : List FusedCandidate) :
    bestOf first others ∈ first :: others := by
  unfold bestOf
  induction others generalizing first with
  | nil => exact mem_cons_self
  | cons candidate rest ih =>
    rw [foldl_cons]
    by_cases hbefore : BestBefore candidate first
    · rw [if_pos hbefore]
      exact mem_cons_of_mem _ (ih candidate)
    · rw [if_neg hbefore]
      rcases mem_cons.mp (ih first) with hsame | hmem
      · rw [hsame]
        exact mem_cons_self
      · exact mem_cons_of_mem _ (mem_cons_of_mem _ hmem)

/-- The retained path is a rejected path of the graph. -/
theorem retainedPath_spec (h : retainedPath candidates seedEntityIds = some best) :
    best ∈ candidates ∧ best.selected = false ∧ graphPathSeedIds best ≠ [] := by
  unfold retainedPath at h
  simp only at h
  split_ifs at h with hseeds
  cases hrelated : candidates.filter (isRelated (pathSeeds candidates seedEntityIds)) with
  | nil =>
    rw [hrelated] at h
    cases h
  | cons first others =>
    rw [hrelated] at h
    simp only at h
    split_ifs at h with hselected
    rw [Option.some.injEq] at h
    have hmem := bestOf_mem first others
    rw [h] at hmem
    have hbest : best ∈ candidates.filter (isRelated (pathSeeds candidates seedEntityIds)) := by
      rw [hrelated]
      exact hmem
    rw [mem_filter] at hbest
    refine ⟨hbest.1, ?_, ?_⟩
    · rw [Bool.not_eq_true, any_eq_false] at hselected
      exact Bool.not_eq_true _ ▸ hselected best hmem
    · intro hnone
      have hall := (Bool.and_eq_true_iff.mp hbest.2).1
      rw [all_eq_true] at hall
      rcases exists_mem_of_ne_nil _ hseeds with ⟨seed, hseed⟩
      have hpath := hall seed hseed
      rw [hnone] at hpath
      cases hpath

def FusedCandidate.isNot (retained : Option StableId) (candidate : FusedCandidate) : Bool :=
  retained ≠ some candidate.unit.unitId

def retainedId (candidates : List FusedCandidate) (seedEntityIds : List StableId) :
    Option StableId :=
  (retainedPath candidates seedEntityIds).map fun best => best.unit.unitId

/-- What becomes of one candidate when a path is retained. -/
def retainIn (retained : Option StableId) (candidate : FusedCandidate) : FusedCandidate :=
  if candidate.isNot retained then candidate else candidate.mark true none

variable (retained : Option StableId)

theorem retainIn_unit (candidate : FusedCandidate) :
    (retainIn retained candidate).unit = candidate.unit := by
  unfold retainIn
  by_cases hnot : candidate.isNot retained = true
  · rw [if_pos hnot]
  · rw [if_neg hnot]
    rfl

theorem retainIn_channelHits (candidate : FusedCandidate) :
    (retainIn retained candidate).channelHits = candidate.channelHits := by
  unfold retainIn
  by_cases hnot : candidate.isNot retained = true
  · rw [if_pos hnot]
  · rw [if_neg hnot]
    rfl

theorem retainIn_isNot (candidate : FusedCandidate) :
    (retainIn retained candidate).isNot retained = candidate.isNot retained := by
  unfold FusedCandidate.isNot
  rw [retainIn_unit]

theorem retainIn_selected (h : candidate.selected = true) :
    (retainIn retained candidate).selected = true := by
  unfold retainIn
  by_cases hnot : candidate.isNot retained = true
  · rw [if_pos hnot]
    exact h
  · rw [if_neg hnot]
    rfl

theorem retainRelatedGraphPaths_eq (candidates : List FusedCandidate)
    (seedEntityIds : List StableId) : retainRelatedGraphPaths candidates seedEntityIds =
      candidates.map (retainIn (retainedId candidates seedEntityIds)) := by
  unfold retainRelatedGraphPaths retainedId
  cases retainedPath candidates seedEntityIds with
  | none =>
    refine Eq.symm ((map_congr_left ?_).trans (map_id _))
    intro candidate _
    rfl
  | some best =>
    refine map_congr_left ?_
    intro candidate _
    unfold retainIn FusedCandidate.isNot
    by_cases hsame : candidate.unit.unitId = best.unit.unitId
    · simp [hsame]
    · simp [hsame, Ne.symm hsame]

theorem countP_retainIn (p : FusedCandidate → Bool) (candidates : List FusedCandidate) :
    ((candidates.map (retainIn retained)).filter (FusedCandidate.isNot retained)).countP p ≤
      candidates.countP p := by
  have hsame : (candidates.map (retainIn retained)).filter (FusedCandidate.isNot retained) =
      candidates.filter (FusedCandidate.isNot retained) := by
    rw [filter_map]
    refine (map_congr_left ?_).trans ((map_id _).trans ?_)
    · intro candidate hmem
      have hnot := (mem_filter.mp hmem).2
      rw [Function.comp_apply, retainIn_isNot] at hnot
      unfold retainIn
      rw [if_pos hnot]
      rfl
    · refine filter_congr ?_
      intro candidate _
      exact retainIn_isNot retained candidate
  rw [hsame]
  exact filter_sublist.countP_le

end Retained

section Selected

variable {policy : CandidateQuotaPolicy} {limit : Int} {seeds : List StableId}
  {candidates selected : List FusedCandidate}

/-- When there is a selection at all. -/
theorem select_returns : (∃ selected, select policy limit seeds candidates = .ok selected) ↔
    1 ≤ limit := by
  unfold select
  by_cases hlimit : limit < 1
  · rw [if_pos hlimit]
    constructor
    · intro h
      rcases h with ⟨_, h⟩
      cases h
    · intro h
      omega
  · rw [if_neg hlimit]
    exact ⟨fun _ => not_lt.mp hlimit, fun _ => ⟨_, rfl⟩⟩

theorem select_eq_ok (h : select policy limit seeds candidates = .ok selected) :
    1 ≤ limit ∧ ∃ retained, selected =
      (selectFrom policy limit seeds Tally.empty candidates).map (retainIn retained) ∧
      ∀ id ∈ retained, ∃ best ∈ selected, best.unit.unitId = id ∧ graphPathSeedIds best ≠ [] := by
  have hlimit := select_returns.mp ⟨selected, h⟩
  unfold select at h
  rw [if_neg (not_lt.mpr hlimit), Except.ok.injEq, retainRelatedGraphPaths_eq] at h
  refine ⟨hlimit, _, h.symm, ?_⟩
  intro id hid
  rcases Option.map_eq_some_iff.mp hid with ⟨best, hbest, rfl⟩
  have hspec := retainedPath_spec hbest
  rw [← h]
  refine ⟨_, mem_map_of_mem hspec.1, ?_, ?_⟩
  · rw [retainIn_unit]
  · unfold graphPathSeedIds
    rw [retainIn_channelHits]
    exact hspec.2.2

theorem select_units (h : select policy limit seeds candidates = .ok selected) :
    selected.map FusedCandidate.unit = candidates.map FusedCandidate.unit := by
  rcases select_eq_ok h with ⟨_, retained, rfl, _⟩
  rw [map_map, ← @selectFrom_units policy limit seeds candidates Tally.empty]
  exact map_congr_left fun candidate _ => retainIn_unit _ candidate

theorem select_mandatory (h : select policy limit seeds candidates = .ok selected) :
    ∀ candidate ∈ selected, candidate.unit.mandatory = true → candidate.selected = true := by
  rcases select_eq_ok h with ⟨_, retained, rfl, _⟩
  intro candidate hmem hmandatory
  rcases mem_map.mp hmem with ⟨passed, hpassed, rfl⟩
  rw [retainIn_unit] at hmandatory
  exact retainIn_selected retained (selectFrom_mandatory candidates _ passed hpassed hmandatory)

/-- The candidates after a selection: at most one path is retained, and apart from it the
    optional units are within the limit, and each of them within the quotas over the units
    that were selected before it. -/
structure Bounded (policy : CandidateQuotaPolicy) (limit : Int) (selected : List FusedCandidate)
    (retained : Option StableId) : Prop where
  retained_path : ∀ id ∈ retained, ∃ best ∈ selected,
    best.unit.unitId = id ∧ graphPathSeedIds best ≠ []
  within_limit : (((selected.filter (FusedCandidate.isNot retained)).countP
    FusedCandidate.isOptional : Nat) : Int) ≤ limit
  within_kind : ∀ before candidate after, selected = before ++ candidate :: after →
    candidate.isOptional = true → candidate.isNot retained = true →
      (before.filter (FusedCandidate.isNot retained)).countP
        (FusedCandidate.isOfKind candidate.unit.unitKind) < policy.maxPerUnitKind
  within_chapter : ∀ before candidate after, selected = before ++ candidate :: after →
    candidate.isOptional = true → candidate.isNot retained = true →
      ∀ chapter ∈ narrativeChapter candidate.unit,
        (before.filter (FusedCandidate.isNot retained)).countP
          (FusedCandidate.isInChapter chapter) < policy.maxPerNarrativeChapter

theorem passed_quota {retained : Option StableId} {before after : List FusedCandidate}
    (h : (selectFrom policy limit seeds Tally.empty candidates).map (retainIn retained) =
      before ++ candidate :: after) (hoptional : candidate.isOptional = true)
    (hnot : candidate.isNot retained = true) :
    (before.filter (FusedCandidate.isNot retained)).countP
        (FusedCandidate.isOfKind candidate.unit.unitKind) < policy.maxPerUnitKind ∧
      ∀ chapter ∈ narrativeChapter candidate.unit,
        (before.filter (FusedCandidate.isNot retained)).countP
          (FusedCandidate.isInChapter chapter) < policy.maxPerNarrativeChapter := by
  rcases map_eq_append_iff.mp h with ⟨earlier, rest, hpassed, rfl, hrest⟩
  rcases map_eq_cons_iff.mp hrest with ⟨passed, later, rfl, rfl, rfl⟩
  have hsame : retainIn retained passed = passed := by
    rw [retainIn_isNot] at hnot
    unfold retainIn
    rw [if_pos hnot]
  rw [hsame] at hoptional ⊢
  have hquota := selectFrom_quota hpassed hoptional
  constructor
  · have hkind := hquota.1
    have hcount := countP_retainIn retained (FusedCandidate.isOfKind passed.unit.unitKind) earlier
    omega
  · intro chapter hchapter
    have hquota := hquota.2 chapter hchapter
    have hcount := countP_retainIn retained (FusedCandidate.isInChapter chapter) earlier
    omega

theorem select_bounded (h : select policy limit seeds candidates = .ok selected) :
    ∃ retained, Bounded policy limit selected retained := by
  rcases select_eq_ok h with ⟨hlimit, retained, hselected, hpath⟩
  refine ⟨retained, ?_⟩
  constructor
  · exact hpath
  · have hempty : Tally.empty.selectedOptional = 0 := rfl
    have hpass := @selectFrom_limit policy limit seeds candidates Tally.empty (by omega)
    have hcount := countP_retainIn retained FusedCandidate.isOptional
      (selectFrom policy limit seeds Tally.empty candidates)
    rw [hselected]
    omega
  · intro before candidate after happ hoptional hnot
    exact (passed_quota (hselected.symm.trans happ) hoptional hnot).1
  · intro before candidate after happ hoptional hnot
    exact (passed_quota (hselected.symm.trans happ) hoptional hnot).2

end Selected

end NovelAgent.Pipeline
