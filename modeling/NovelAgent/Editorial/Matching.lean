import Mathlib.Data.List.Dedup
import Mathlib.Data.List.Nodup
import NovelAgent.Editorial.Reconciliation

/-!
# When Reconciliation Matches

A pass finds an observation by its place in the Curator's list and removes
what stands at that place among the observations that are left. The two differ
as soon as an earlier observation was removed.
-/

namespace NovelAgent.Editorial

open Core Domain World List

namespace WriterChangeReconciliationService

variable (service : WriterChangeReconciliationService)

/-- A hint and an observation agree on subject, kind, predicate and value. -/
structure Agrees (hint : DeclaredMemoryHint) (item : CuratorChangeObservation) : Prop where
  subject : service.normalise hint.subjectHint.text = service.normalise item.subjectHint.text
  changeKind : hint.changeKind = item.changeKind
  predicate : hint.predicateHint.map (fun text => service.normalise text.text) =
    item.predicateHint.map fun text => service.normalise text.text
  value : hint.valueHint.map (fun text => service.normalise text.text) =
    item.valueHint.map fun text => service.normalise text.text

theorem sameText_iff (left right : Option NonEmptyText) :
    service.sameText left right = true ↔
      left.map (fun text => service.normalise text.text) =
        right.map fun text => service.normalise text.text := by
  cases left <;> cases right <;> simp [sameText]

theorem exactMatch_iff (hint : DeclaredMemoryHint) (item : CuratorChangeObservation) :
    service.exactMatch hint item = true ↔ service.Agrees hint item := by
  unfold exactMatch sameSubject
  rw [Bool.and_eq_true, Bool.and_eq_true, Bool.and_eq_true, sameText_iff, sameText_iff,
    decide_eq_true_eq, decide_eq_true_eq]
  constructor
  · intro h
    exact ⟨h.1.1.1, h.1.2, h.1.1.2, h.2⟩
  · intro h
    exact ⟨⟨⟨h.subject, h.predicate⟩, h.changeKind⟩, h.value⟩

/-- What the comparisons of a draft's hints and observations are to be. -/
structure CorrectMatching (hints : List DeclaredMemoryHint) (observation : CuratorObservation)
    (comparisons : List ReconciliationComparison) : Prop where
  /-- Every hint is in one comparison, under its own index. -/
  hints_once : (comparisons.filterMap ReconciliationComparison.writerHintIndex).Perm
    (List.range hints.length)
  hint_own : ∀ entry ∈ comparisons, ∀ index, entry.writerHintIndex = some index →
    entry.writerHint = hints[index]?
  /-- Every observation is in one comparison. -/
  observations_once : (comparisons.filterMap ReconciliationComparison.observation).Perm
    observation.changes
  matched : ∀ entry ∈ comparisons, entry.classification = .matched →
    ∃ hint item, entry.writerHint = some hint ∧ entry.observation = some item ∧
      service.Agrees hint item
  mismatched : ∀ entry ∈ comparisons, entry.classification = .mismatched →
    ∃ hint item, entry.writerHint = some hint ∧ entry.observation = some item ∧
      service.sameSubject hint item = true
  /-- A hint that is alone has no observation of its subject that is alone. -/
  declared_only : ∀ entry ∈ comparisons, entry.classification = .declaredOnly →
    ∀ other ∈ comparisons, other.classification = .observedOnly →
      ∀ hint item, entry.writerHint = some hint → other.observation = some item →
        service.sameSubject hint item = false
  /-- What agrees with a hint that is not matched was matched with another. -/
  exact_taken : ∀ entry ∈ comparisons, entry.classification ≠ .matched →
    ∀ hint, entry.writerHint = some hint →
      ∀ item ∈ observation.changes, service.Agrees hint item →
        ∃ other ∈ comparisons, other.classification = .matched ∧ other.observation = some item

abbrev IndexedHint := Nat × DeclaredMemoryHint
abbrev IndexedObservation := Nat × CuratorChangeObservation

/-- A hint and the observation that a pass took for it, if it took one. -/
abbrev HintOutcome := IndexedHint × Option IndexedObservation

/-- The hints that a pass took nothing for. -/
def missed (outcomes : List HintOutcome) : List IndexedHint :=
  (outcomes.filter fun outcome => outcome.2.isNone).map Prod.fst

/-- A pass over the hints of the outcomes comes to them, and leaves the rest
    of the observations. -/
inductive Taken (agrees : DeclaredMemoryHint → CuratorChangeObservation → Bool) :
    List IndexedObservation → List HintOutcome → List IndexedObservation → Prop
  | done (remaining) : Taken agrees remaining [] remaining
  | missed {hint remaining outcomes rest}
      (nothing : nextIndex (agrees hint.2) remaining = none)
      (later : Taken agrees remaining outcomes rest) :
      Taken agrees remaining ((hint, none) :: outcomes) rest
  | took {hint remaining index item outcomes rest}
      (found : nextIndex (agrees hint.2) remaining = some index)
      (stands : remaining[index]? = some item)
      (later : Taken agrees (remaining.eraseIdx index) outcomes rest) :
      Taken agrees remaining ((hint, some item) :: outcomes) rest

/-- At every hint that finds something, what stands at the found place among
    the observations left agrees with the hint. The hints that find nothing
    and the rest of the observations are what the pass leaves. -/
inductive Landing (agrees : DeclaredMemoryHint → CuratorChangeObservation → Bool) :
    List IndexedHint → List IndexedObservation → List IndexedHint → List IndexedObservation → Prop
  | done (remaining) : Landing agrees [] remaining [] remaining
  | missed {hint hints remaining alone rest}
      (nothing : nextIndex (agrees hint.2) remaining = none)
      (later : Landing agrees hints remaining alone rest) :
      Landing agrees (hint :: hints) remaining (hint :: alone) rest
  | landed {hint hints remaining index item alone rest}
      (found : nextIndex (agrees hint.2) remaining = some index)
      (stands : remaining[index]? = some item)
      (agreeing : agrees hint.2 item.2 = true)
      (later : Landing agrees hints (remaining.eraseIdx index) alone rest) :
      Landing agrees (hint :: hints) remaining alone rest

/-- The first pass lands, and so does the second on what the first left. -/
def LandsThroughout (hints : List DeclaredMemoryHint) (observation : CuratorObservation) : Prop :=
  ∃ alone rest, Landing service.exactMatch (enumerate hints) (enumerate observation.changes)
    alone rest ∧ ∃ declared left, Landing service.sameSubject alone rest declared left

variable {hint : IndexedHint}

section Passes

variable {agrees : DeclaredMemoryHint → CuratorChangeObservation → Bool}
variable {remaining rest : List IndexedObservation} {outcomes : List HintOutcome}

/-- Every observation that the pass took agrees with the hint it was taken for. -/
def AllAgree (agrees : DeclaredMemoryHint → CuratorChangeObservation → Bool)
    (outcomes : List HintOutcome) : Prop :=
  ∀ outcome ∈ outcomes, ∀ item, outcome.2 = some item → agrees outcome.1.2 item.2 = true

theorem landing_iff {hints alone : List IndexedHint} :
    Landing agrees hints remaining alone rest ↔
      ∃ outcomes, outcomes.map Prod.fst = hints ∧ missed outcomes = alone ∧
        Taken agrees remaining outcomes rest ∧ AllAgree agrees outcomes := by
  constructor
  · intro h
    induction h with
    | done remaining => exact ⟨[], rfl, rfl, .done remaining, by simp [AllAgree]⟩
    | missed nothing _ ih =>
      rcases ih with ⟨outcomes, rfl, rfl, htaken, hagree⟩
      refine ⟨(_, none) :: outcomes, rfl, rfl, .missed nothing htaken, ?_⟩
      exact forall_mem_cons.mpr ⟨by simp, hagree⟩
    | landed found stands agreeing _ ih =>
      rcases ih with ⟨outcomes, rfl, rfl, htaken, hagree⟩
      refine ⟨(_, some _) :: outcomes, rfl, rfl, .took found stands htaken, ?_⟩
      refine forall_mem_cons.mpr ⟨?_, hagree⟩
      intro item hitem
      rw [← Option.some.inj hitem]
      exact agreeing
  · intro h
    rcases h with ⟨outcomes, rfl, rfl, htaken, hagree⟩
    induction htaken with
    | done remaining => exact .done remaining
    | missed nothing _ ih => exact .missed nothing (ih (forall_mem_cons.mp hagree).2)
    | took found stands _ ih =>
      have hcons := forall_mem_cons.mp hagree
      exact .landed found stands (hcons.1 _ rfl) (ih hcons.2)

theorem Taken.nothing (h : Taken agrees remaining [] rest) : remaining = rest := by
  cases h
  rfl

theorem Taken.cons {hints : List IndexedHint} (h : Taken agrees remaining outcomes rest)
    (hhints : outcomes.map Prod.fst = hint :: hints) :
    ∃ later, later.map Prod.fst = hints ∧
      (outcomes = (hint, none) :: later ∧ nextIndex (agrees hint.2) remaining = none ∧
          Taken agrees remaining later rest ∨
        ∃ index item, outcomes = (hint, some item) :: later ∧
          nextIndex (agrees hint.2) remaining = some index ∧ remaining[index]? = some item ∧
          Taken agrees (remaining.eraseIdx index) later rest) := by
  cases h with
  | done => simp at hhints
  | missed nothing later =>
    rw [map_cons, List.cons.injEq] at hhints
    rcases hhints with ⟨rfl, hrest⟩
    exact ⟨_, hrest, .inl ⟨rfl, nothing, later⟩⟩
  | took found stands later =>
    rw [map_cons, List.cons.injEq] at hhints
    rcases hhints with ⟨rfl, hrest⟩
    exact ⟨_, hrest, .inr ⟨_, _, rfl, found, stands, later⟩⟩

theorem Taken.observations_perm (h : Taken agrees remaining outcomes rest) :
    remaining.Perm (outcomes.filterMap Prod.snd ++ rest) := by
  induction h with
  | done => exact .refl _
  | missed _ _ ih => exact ih
  | @took hint remaining index item outcomes rest _ stands _ ih =>
    rcases List.getElem?_eq_some_iff.mp stands with ⟨hlt, hget⟩
    have herase := getElem_cons_eraseIdx_perm hlt
    rw [hget] at herase
    exact herase.symm.trans (ih.cons item)

theorem nextIndex_eq_none {test : CuratorChangeObservation → Bool} :
    nextIndex test remaining = none ↔ ∀ entry ∈ remaining, test entry.2 = false := by
  simp [nextIndex, List.find?_eq_none]

theorem Taken.missed_alone (h : Taken agrees remaining outcomes rest) :
    ∀ outcome ∈ outcomes, outcome.2 = none → ∀ entry ∈ rest,
      agrees outcome.1.2 entry.2 = false := by
  induction h with
  | done => simp
  | missed nothing later ih =>
    rw [forall_mem_cons]
    refine ⟨?_, ih⟩
    intro _ entry hentry
    have hmem := later.observations_perm.mem_iff.mpr (mem_append_right _ hentry)
    exact nextIndex_eq_none.mp nothing entry hmem
  | took _ _ _ ih => exact forall_mem_cons.mpr ⟨by simp, ih⟩

end Passes

/-- The index of the hint, where something was taken for it. -/
def takenIndex (outcome : HintOutcome) : Option Nat :=
  outcome.2.map fun _ => outcome.1.1

theorem missed_eq (outcomes : List HintOutcome)
    (hnodup : (outcomes.map fun outcome => outcome.1.1).Nodup) :
    (outcomes.map Prod.fst).filter (fun hint => hint.1 ∉ outcomes.filterMap takenIndex) =
      missed outcomes := by
  unfold missed
  rw [filter_map]
  congr 1
  apply filter_congr
  intro outcome houtcome
  have hown : outcome.1.1 ∈ outcomes.filterMap takenIndex ↔ outcome.2.isSome = true := by
    rw [mem_filterMap]
    constructor
    · intro h
      rcases h with ⟨other, hother, hindex⟩
      rcases Option.map_eq_some_iff.mp hindex with ⟨item, hitem, heq⟩
      have := inj_on_of_nodup_map hnodup hother houtcome heq
      rw [← this, hitem]
      rfl
    · intro h
      rcases Option.isSome_iff_exists.mp h with ⟨item, hitem⟩
      exact ⟨outcome, houtcome, by simp [takenIndex, hitem]⟩
  cases hitem : outcome.2 <;> simp_all

@[simp]
theorem matchedComparison_classification (hint : IndexedHint) (item : CuratorChangeObservation) :
    (service.matchedComparison hint item).classification = .matched :=
  rfl

@[simp]
theorem mismatchedComparison_classification (hint : IndexedHint)
    (item : CuratorChangeObservation) :
    (service.mismatchedComparison hint item).classification = .mismatched :=
  rfl

@[simp]
theorem declaredOnlyComparison_classification (hint : IndexedHint) :
    (service.declaredOnlyComparison hint).classification = .declaredOnly :=
  rfl

@[simp]
theorem observedOnlyComparison_classification (item : CuratorChangeObservation) :
    (service.observedOnlyComparison item).classification = .observedOnly :=
  rfl

@[simp]
theorem observedOnlyComparison_alone (item : CuratorChangeObservation) :
    (service.observedOnlyComparison item).writerHintIndex = none ∧
      (service.observedOnlyComparison item).writerHint = none :=
  ⟨rfl, rfl⟩

theorem taken_missed_perm (outcomes : List HintOutcome) :
    (outcomes.filterMap takenIndex ++ (missed outcomes).map Prod.fst).Perm
      ((outcomes.map Prod.fst).map Prod.fst) := by
  induction outcomes with
  | nil => exact .refl _
  | cons outcome outcomes ih =>
    rcases outcome with ⟨hint, item⟩
    cases item with
    | none => exact perm_middle.trans (ih.cons hint.1)
    | some item => exact ih.cons hint.1

/-- The comparison that the first pass makes of an outcome. -/
def exactVerdict (outcome : HintOutcome) : Option ReconciliationComparison :=
  outcome.2.map fun item => service.matchedComparison outcome.1 item.2

/-- The comparison that the second pass makes of an outcome. -/
def partialVerdict (outcome : HintOutcome) : ReconciliationComparison :=
  match outcome.2 with
  | some item => service.mismatchedComparison outcome.1 item.2
  | none => service.declaredOnlyComparison outcome.1

/-- The comparisons of two passes and of what they left. -/
def verdicts (exact partly : List HintOutcome) (left : List IndexedObservation) :
    List ReconciliationComparison :=
  exact.filterMap service.exactVerdict ++ partly.map service.partialVerdict ++
    left.map fun entry => service.observedOnlyComparison entry.2

variable {item : CuratorChangeObservation}

section Runs

variable {service}

theorem pop_eq_ok {remaining rest : List IndexedObservation} {index : Nat} :
    pop remaining index = .ok (item, rest) ↔
      ∃ entry, remaining[index]? = some entry ∧ entry.2 = item ∧
        remaining.eraseIdx index = rest := by
  unfold pop
  cases hget : remaining[index]? with
  | none => simp
  | some entry => simp

variable {progress next : Progress}

theorem consumeExact_ok :
    service.consumeExact progress hint = .ok next ↔
      nextIndex (service.exactMatch hint.2) progress.remaining = none ∧ next = progress ∨
      ∃ index item, nextIndex (service.exactMatch hint.2) progress.remaining = some index ∧
        progress.remaining[index]? = some item ∧
        next = { comparisons := progress.comparisons ++ [service.matchedComparison hint item.2]
                 remaining := progress.remaining.eraseIdx index
                 matchedHintIndexes := progress.matchedHintIndexes ++ [hint.1] } := by
  unfold consumeExact
  cases hindex : nextIndex (service.exactMatch hint.2) progress.remaining with
  | none => simp [eq_comm]
  | some index =>
    simp only [Outcome.bind_eq_ok, Prod.exists, pop_eq_ok]
    grind

theorem consumePartial_ok (hnew : hint.1 ∉ progress.matchedHintIndexes) :
    service.consumePartial progress hint = .ok next ↔
      nextIndex (service.sameSubject hint.2) progress.remaining = none ∧
        next = { progress with
          comparisons := progress.comparisons ++ [service.declaredOnlyComparison hint] } ∨
      ∃ index item, nextIndex (service.sameSubject hint.2) progress.remaining = some index ∧
        progress.remaining[index]? = some item ∧
        next = { progress with
          comparisons := progress.comparisons ++ [service.mismatchedComparison hint item.2]
          remaining := progress.remaining.eraseIdx index } := by
  unfold consumePartial
  have hidentity : (fun item => service.sameSubject hint.2 item && partialIdentity hint.2 item) =
      service.sameSubject hint.2 := by
    funext item
    simp [partialIdentity]
  rw [if_neg hnew, hidentity]
  cases hindex : nextIndex (service.sameSubject hint.2) progress.remaining with
  | none => simp [eq_comm]
  | some index =>
    simp only [Outcome.bind_eq_ok, Prod.exists, pop_eq_ok]
    grind

/-- A pass that returns is `Taken`. -/
theorem consumeExact_run {hints : List IndexedHint} {progress last : Progress} :
    hints.foldlM service.consumeExact progress = .ok last ↔
      ∃ outcomes, outcomes.map Prod.fst = hints ∧
        Taken service.exactMatch progress.remaining outcomes last.remaining ∧
        last.comparisons = progress.comparisons ++ outcomes.filterMap service.exactVerdict ∧
        last.matchedHintIndexes =
          progress.matchedHintIndexes ++ outcomes.filterMap takenIndex := by
  induction hints generalizing progress with
  | nil =>
    rw [foldlM_nil, Outcome.pure_eq_ok]
    constructor
    · intro h
      subst h
      exact ⟨[], rfl, .done _, by simp, by simp⟩
    · intro h
      rcases h with ⟨outcomes, hnil, htaken, hcomparisons, hmatched⟩
      rw [map_eq_nil_iff] at hnil
      subst hnil
      have hremaining := htaken.nothing
      cases progress
      cases last
      simp_all
  | cons hint hints ih =>
    simp only [foldlM_cons, Outcome.bind_eq_ok, consumeExact_ok, ih]
    constructor
    · intro h
      rcases h with ⟨next, ⟨hnone, rfl⟩ | ⟨index, item, hfound, hstands, rfl⟩,
        outcomes, rfl, htaken, hcomparisons, hmatched⟩
      · exact ⟨(hint, none) :: outcomes, rfl, .missed hnone htaken, hcomparisons, hmatched⟩
      · refine ⟨(hint, some item) :: outcomes, rfl, .took hfound hstands htaken, ?_, ?_⟩
        · simp [hcomparisons, exactVerdict]
        · simp [hmatched, takenIndex]
    · intro h
      rcases h with ⟨outcomes, hhints, htaken, hcomparisons, hmatched⟩
      rcases htaken.cons hhints with ⟨later, hlater, ⟨rfl, hnone, hrest⟩ |
        ⟨index, item, rfl, hfound, hstands, hrest⟩⟩
      · exact ⟨_, .inl ⟨hnone, rfl⟩, later, hlater, hrest, hcomparisons, hmatched⟩
      · refine ⟨_, .inr ⟨index, item, hfound, hstands, rfl⟩, later, hlater, hrest, ?_, ?_⟩
        · simp [hcomparisons, exactVerdict]
        · simp [hmatched, takenIndex]

theorem consumePartial_run {hints : List IndexedHint} {progress last : Progress} :
    hints.foldlM service.consumePartial progress = .ok last ↔
      ∃ outcomes, outcomes.map Prod.fst =
          hints.filter (fun hint => hint.1 ∉ progress.matchedHintIndexes) ∧
        Taken service.sameSubject progress.remaining outcomes last.remaining ∧
        last.comparisons = progress.comparisons ++ outcomes.map service.partialVerdict ∧
        last.matchedHintIndexes = progress.matchedHintIndexes := by
  induction hints generalizing progress with
  | nil =>
    rw [foldlM_nil, Outcome.pure_eq_ok]
    constructor
    · intro h
      subst h
      exact ⟨[], rfl, .done _, by simp, by simp⟩
    · intro h
      rcases h with ⟨outcomes, hnil, htaken, hcomparisons, hmatched⟩
      rw [filter_nil, map_eq_nil_iff] at hnil
      subst hnil
      have hremaining := htaken.nothing
      cases progress
      cases last
      simp_all
  | cons hint hints ih =>
    rw [foldlM_cons, Outcome.bind_eq_ok]
    by_cases hmatch : hint.1 ∈ progress.matchedHintIndexes
    · have hskip : service.consumePartial progress hint = .ok progress := by
        unfold consumePartial
        rw [if_pos hmatch]
      rw [filter_cons_of_neg (by simpa using hmatch)]
      simp only [hskip, Except.ok.injEq, exists_eq_left', ih]
    · rw [filter_cons_of_pos (by simpa using hmatch)]
      simp only [consumePartial_ok hmatch, ih]
      constructor
      · intro h
        rcases h with ⟨next, ⟨hnone, rfl⟩ | ⟨index, item, hfound, hstands, rfl⟩,
          outcomes, hhints, htaken, hcomparisons, hmatched⟩
        · refine ⟨(hint, none) :: outcomes, ?_, .missed hnone htaken, ?_, hmatched⟩
          · rw [map_cons, hhints]
          · simp [hcomparisons, partialVerdict]
        · refine ⟨(hint, some item) :: outcomes, ?_, .took hfound hstands htaken, ?_, hmatched⟩
          · rw [map_cons, hhints]
          · simp [hcomparisons, partialVerdict]
      · intro h
        rcases h with ⟨outcomes, hhints, htaken, hcomparisons, hmatched⟩
        rcases htaken.cons hhints with ⟨later, hlater, ⟨rfl, hnone, hrest⟩ |
          ⟨index, item, rfl, hfound, hstands, hrest⟩⟩
        · refine ⟨_, .inl ⟨hnone, rfl⟩, later, hlater, hrest, ?_, hmatched⟩
          simp [hcomparisons, partialVerdict]
        · refine ⟨_, .inr ⟨index, item, hfound, hstands, rfl⟩, later, hlater, hrest, ?_,
            hmatched⟩
          simp [hcomparisons, partialVerdict]

end Runs

section Result

variable {hints : List DeclaredMemoryHint} {observation : CuratorObservation}
variable {exact partly : List HintOutcome} {rest left : List IndexedObservation}

/-- The two passes over the hints and the observations of a draft, the second
    over what the first left. -/
structure Passes (hints : List DeclaredMemoryHint) (observation : CuratorObservation)
    (exact : List HintOutcome) (rest : List IndexedObservation) (partly : List HintOutcome)
    (left : List IndexedObservation) : Prop where
  hints_eq : exact.map Prod.fst = enumerate hints
  first : Taken service.exactMatch (enumerate observation.changes) exact rest
  alone_eq : partly.map Prod.fst = missed exact
  second : Taken service.sameSubject rest partly left

variable {α : Type}

variable (items : List α)

theorem enumerate_fst : (enumerate items).map Prod.fst = List.range items.length := by
  unfold enumerate
  rw [map_map]
  have hswap : (Prod.fst ∘ Prod.swap : α × Nat → Nat) = Prod.snd := rfl
  rw [hswap, zipIdx_map_snd, range_eq_range']

theorem enumerate_snd : (enumerate items).map Prod.snd = items := by
  unfold enumerate
  rw [map_map]
  exact zipIdx_map_fst 0 items

theorem getElem?_of_mem_enumerate {items : List α} {entry : Nat × α} (h : entry ∈ enumerate items) :
    items[entry.1]? = some entry.2 := by
  unfold enumerate at h
  rcases mem_map.mp h with ⟨pair, hpair, rfl⟩
  simpa using mem_zipIdx_iff_getElem?.mp hpair

section

variable (h : service.Passes hints observation exact rest partly left)

include h

theorem Passes.hints_nodup : (exact.map fun outcome => outcome.1.1).Nodup := by
  have hfst : (exact.map fun outcome => outcome.1.1) = (exact.map Prod.fst).map Prod.fst := by
    rw [map_map]
    rfl
  rw [hfst, h.hints_eq, enumerate_fst]
  exact nodup_range

theorem Passes.hints_once :
    ((service.verdicts exact partly left).filterMap
      ReconciliationComparison.writerHintIndex).Perm (List.range hints.length) := by
  have hexact : (exact.filterMap service.exactVerdict).filterMap
      ReconciliationComparison.writerHintIndex = exact.filterMap takenIndex := by
    rw [filterMap_filterMap]
    congr 1
    funext outcome
    cases h : outcome.2 <;> simp [exactVerdict, takenIndex, h, matchedComparison, comparison]
  have hpartly : (partly.map service.partialVerdict).filterMap
      ReconciliationComparison.writerHintIndex = (missed exact).map Prod.fst := by
    rw [← h.alone_eq, filterMap_map, map_map, ← filterMap_eq_map]
    congr 1
    funext outcome
    cases h : outcome.2 <;>
      simp [partialVerdict, h, mismatchedComparison, declaredOnlyComparison, comparison]
  have hleft : (left.map fun entry => service.observedOnlyComparison entry.2).filterMap
      ReconciliationComparison.writerHintIndex = [] := by
    rw [filterMap_map, filterMap_eq_nil_iff]
    intro entry _
    rfl
  unfold verdicts
  rw [filterMap_append, filterMap_append, hexact, hpartly, hleft, append_nil,
    ← enumerate_fst, ← h.hints_eq]
  exact taken_missed_perm exact

theorem Passes.observations_once :
    ((service.verdicts exact partly left).filterMap ReconciliationComparison.observation).Perm
      observation.changes := by
  have hexact : (exact.filterMap service.exactVerdict).filterMap
      ReconciliationComparison.observation = (exact.filterMap Prod.snd).map Prod.snd := by
    rw [filterMap_filterMap, map_filterMap]
    congr 1
    funext outcome
    cases h : outcome.2 <;> simp [exactVerdict, h, matchedComparison, comparison]
  have hpartly : (partly.map service.partialVerdict).filterMap
      ReconciliationComparison.observation = (partly.filterMap Prod.snd).map Prod.snd := by
    rw [filterMap_map, map_filterMap]
    congr 1
    funext outcome
    cases h : outcome.2 <;>
      simp [partialVerdict, h, mismatchedComparison, declaredOnlyComparison, comparison]
  have hleft : (left.map fun entry => service.observedOnlyComparison entry.2).filterMap
      ReconciliationComparison.observation = left.map Prod.snd := by
    rw [filterMap_map, ← filterMap_eq_map]
    congr 1
  unfold verdicts
  rw [filterMap_append, filterMap_append, hexact, hpartly, hleft, append_assoc,
    ← map_append]
  have hsecond := h.second.observations_perm.symm.map Prod.snd
  have hfirst := h.first.observations_perm.symm.map Prod.snd
  rw [map_append] at hfirst
  rw [enumerate_snd] at hfirst
  exact (hsecond.append_left _).trans hfirst

end

variable {comparisons : List ReconciliationComparison}

theorem accountsForHints_of_perm
    (h : (comparisons.filterMap ReconciliationComparison.writerHintIndex).Perm
      (List.range hints.length)) : AccountsForHints hints comparisons := by
  refine ⟨?_, ?_, ?_⟩
  · rw [h.length_eq, length_range]
  · intro index hindex
    exact mem_range.mp (h.mem_iff.mp hindex)
  · intro index hindex
    exact h.mem_iff.mpr hindex

variable {entry : ReconciliationComparison}

/-- The identity that a comparison names is that of its observation, when it
    is one that the passes make. -/
theorem observationId_verdict (h : entry ∈ service.verdicts exact partly left) :
    entry.observationId = entry.observation.map CuratorChangeObservation.observationId := by
  unfold verdicts at h
  rw [mem_append, mem_append, mem_filterMap, mem_map, mem_map] at h
  rcases h with (⟨outcome, _, h⟩ | ⟨outcome, _, rfl⟩) | ⟨_, _, rfl⟩
  · rcases Option.map_eq_some_iff.mp h with ⟨item, _, rfl⟩
    rfl
  · unfold partialVerdict
    cases outcome.2 <;> rfl
  · rfl

/-- Comparisons that have each observation once account for the observations. -/
theorem accountsForObservations_of_perm
    (hid : ∀ entry ∈ comparisons,
      entry.observationId = entry.observation.map CuratorChangeObservation.observationId)
    (h : (comparisons.filterMap ReconciliationComparison.observation).Perm observation.changes) :
    AccountsForObservations observation comparisons := by
  have hids : comparisons.filterMap ReconciliationComparison.observationId =
      (comparisons.filterMap ReconciliationComparison.observation).map
        CuratorChangeObservation.observationId := by
    rw [map_filterMap]
    exact filterMap_congr hid
  have hperm := h.map CuratorChangeObservation.observationId
  rw [← hids] at hperm
  refine ⟨?_, fun id => hperm.mem_iff.mp, fun id => hperm.mem_iff.mpr⟩
  rw [hperm.length_eq, observation.ids_nodup.dedup]

/-- When a reconciliation returns, and with what. -/
theorem reconcile_ok {result : ReconciliationResult}
    (h : service.reconcile observation.draftId hints observation = .ok result) :
    ∃ exact rest partly left, service.Passes hints observation exact rest partly left ∧
      result.comparisons.Perm (service.verdicts exact partly left) := by
  unfold reconcile at h
  simp only [↓reduceDIte, Outcome.bind_eq_ok] at h
  rcases h with ⟨first, hfirst, second, hsecond, hresult⟩
  rcases consumeExact_run.mp hfirst with ⟨exact, hhints, htaken, hcomparisons, hmatched⟩
  rcases consumePartial_run.mp hsecond with ⟨partly, halone, hlater, hmore, _⟩
  have hcomparisons_eq : result.comparisons = (second.comparisons ++ second.remaining.map
      fun entry => service.observedOnlyComparison entry.2).insertionSort sortsBefore := by
    split at hresult
    · split at hresult
      · rw [← Except.ok.inj hresult]
      · exact absurd hresult (by simp)
    · exact absurd hresult (by simp)
  refine ⟨exact, first.remaining, partly, second.remaining, ⟨hhints, htaken, ?_, hlater⟩, ?_⟩
  · have hnodup : (exact.map fun outcome => outcome.1.1).Nodup := by
      have hfst : (exact.map fun outcome => outcome.1.1) = (exact.map Prod.fst).map Prod.fst := by
        rw [map_map]
        rfl
      rw [hfst, hhints, enumerate_fst]
      exact nodup_range
    rw [halone, hmatched, ← hhints]
    exact missed_eq exact hnodup
  · rw [hcomparisons_eq, hmore, hcomparisons]
    exact perm_insertionSort _ _

/-- Passes that can be made are made, and their comparisons account for both sides. -/
theorem reconcile_returns (h : service.Passes hints observation exact rest partly left) :
    ∃ result, service.reconcile observation.draftId hints observation = .ok result ∧
      result.comparisons.Perm (service.verdicts exact partly left) := by
  have hfirst : (enumerate hints).foldlM service.consumeExact
      ⟨[], enumerate observation.changes, []⟩ =
        .ok ⟨exact.filterMap service.exactVerdict, rest, exact.filterMap takenIndex⟩ :=
    consumeExact_run.mpr ⟨exact, h.hints_eq, h.first, rfl, rfl⟩
  have hsecond : (enumerate hints).foldlM service.consumePartial
      ⟨exact.filterMap service.exactVerdict, rest, exact.filterMap takenIndex⟩ =
        .ok ⟨exact.filterMap service.exactVerdict ++ partly.map service.partialVerdict, left,
          exact.filterMap takenIndex⟩ := by
    refine consumePartial_run.mpr ⟨partly, ?_, h.second, rfl, rfl⟩
    rw [h.alone_eq, ← h.hints_eq]
    exact (missed_eq exact h.hints_nodup).symm
  have hsorted := perm_insertionSort sortsBefore (service.verdicts exact partly left)
  have hhints : AccountsForHints hints
      ((service.verdicts exact partly left).insertionSort sortsBefore) :=
    accountsForHints_of_perm ((hsorted.filterMap _).trans h.hints_once)
  have hobservations : AccountsForObservations observation
      ((service.verdicts exact partly left).insertionSort sortsBefore) :=
    accountsForObservations_of_perm
      (fun entry hentry => observationId_verdict service (hsorted.mem_iff.mp hentry))
      ((hsorted.filterMap _).trans h.observations_once)
  refine ⟨⟨service.resultId observation.draftId hints observation, observation.draftId, hints,
    observation, (service.verdicts exact partly left).insertionSort sortsBefore, rfl, hhints,
    hobservations⟩, ?_, hsorted⟩
  unfold verdicts at hhints hobservations
  simp only [reconcile, ↓reduceDIte, hfirst, hsecond, bind, Except.bind, hhints, hobservations,
    verdicts]

theorem mem_verdicts :
    entry ∈ service.verdicts exact partly left ↔
      (∃ outcome ∈ exact, ∃ item, outcome.2 = some item ∧
        service.matchedComparison outcome.1 item.2 = entry) ∨
      (∃ outcome ∈ partly, ∃ item, outcome.2 = some item ∧
        service.mismatchedComparison outcome.1 item.2 = entry) ∨
      (∃ outcome ∈ partly, outcome.2 = none ∧
        service.declaredOnlyComparison outcome.1 = entry) ∨
      ∃ item ∈ left, service.observedOnlyComparison item.2 = entry := by
  have hpartly : entry ∈ partly.map service.partialVerdict ↔
      (∃ outcome ∈ partly, ∃ item, outcome.2 = some item ∧
        service.mismatchedComparison outcome.1 item.2 = entry) ∨
      ∃ outcome ∈ partly, outcome.2 = none ∧ service.declaredOnlyComparison outcome.1 = entry := by
    rw [mem_map]
    constructor
    · rintro ⟨outcome, houtcome, rfl⟩
      unfold partialVerdict
      cases hitem : outcome.2 with
      | none => exact .inr ⟨outcome, houtcome, hitem, rfl⟩
      | some item => exact .inl ⟨outcome, houtcome, item, hitem, rfl⟩
    · rintro (⟨outcome, houtcome, item, hitem, rfl⟩ | ⟨outcome, houtcome, hitem, rfl⟩)
      · exact ⟨outcome, houtcome, by rw [partialVerdict, hitem]⟩
      · exact ⟨outcome, houtcome, by rw [partialVerdict, hitem]⟩
  unfold verdicts
  rw [mem_append, mem_append, hpartly, mem_filterMap, mem_map, or_assoc,
    or_assoc]
  simp only [exactVerdict, Option.map_eq_some_iff]

variable {outcome : HintOutcome}

section

variable (h : service.Passes hints observation exact rest partly left)

include h

theorem Passes.hint_own (houtcome : outcome ∈ exact ∨ outcome ∈ partly) :
    hints[outcome.1.1]? = some outcome.1.2 := by
  apply getElem?_of_mem_enumerate
  rw [← h.hints_eq]
  rcases houtcome with hexact | hpartly
  · exact mem_map_of_mem hexact
  · have hmissed := mem_map_of_mem (f := Prod.fst) hpartly
    rw [h.alone_eq, missed] at hmissed
    rcases mem_map.mp hmissed with ⟨other, hother, heq⟩
    rw [← heq]
    exact mem_map_of_mem (mem_of_mem_filter hother)

theorem Passes.missed_first (houtcome : outcome ∈ partly) :
    ∃ other ∈ exact, other.1 = outcome.1 ∧ other.2 = none := by
  have hmissed := mem_map_of_mem (f := Prod.fst) houtcome
  rw [h.alone_eq, missed] at hmissed
  rcases mem_map.mp hmissed with ⟨other, hother, heq⟩
  rw [mem_filter, Option.isNone_iff_eq_none] at hother
  exact ⟨other, hother.1, heq, hother.2⟩

/-- An observation that agrees with a hint the first pass missed was taken in that pass. -/
theorem Passes.exact_taken (houtcome : outcome ∈ partly) (hitem : item ∈ observation.changes)
    (hagrees : service.Agrees outcome.1.2 item) :
    ∃ other ∈ exact, ∃ entry, other.2 = some entry ∧ entry.2 = item := by
  rcases h.missed_first service houtcome with ⟨missed, hmissed, hhint, hnone⟩
  have hmem : item ∈ (enumerate observation.changes).map Prod.snd := by
    rw [enumerate_snd]
    exact hitem
  rcases mem_map.mp hmem with ⟨entry, hentry, rfl⟩
  rw [h.first.observations_perm.mem_iff, mem_append] at hentry
  rcases hentry with htaken | hrest
  · rcases mem_filterMap.mp htaken with ⟨other, hother, hsome⟩
    exact ⟨other, hother, entry, hsome, rfl⟩
  · have halone := h.first.missed_alone missed hmissed hnone entry hrest
    rw [hhint, ← Bool.not_eq_true, exactMatch_iff] at halone
    exact absurd hagrees halone

/-- The comparisons of passes that take what agrees are a correct matching. -/
theorem Passes.correct (hexact : AllAgree service.exactMatch exact)
    (hpartly : AllAgree service.sameSubject partly) :
    service.CorrectMatching hints observation (service.verdicts exact partly left) where
  hints_once := h.hints_once
  hint_own := by
    intro entry hentry index hindex
    rcases (mem_verdicts service).mp hentry with ⟨outcome, houtcome, item, _, rfl⟩ |
      ⟨outcome, houtcome, item, _, rfl⟩ | ⟨outcome, houtcome, _, rfl⟩ | ⟨item, _, rfl⟩
    · rw [← Option.some.inj hindex, h.hint_own service (.inl houtcome)]
      rfl
    · rw [← Option.some.inj hindex, h.hint_own service (.inr houtcome)]
      rfl
    · rw [← Option.some.inj hindex, h.hint_own service (.inr houtcome)]
      rfl
    · exact absurd hindex (by simp)
  observations_once := h.observations_once
  matched := by
    intro entry hentry hclass
    rcases (mem_verdicts service).mp hentry with ⟨outcome, houtcome, item, hitem, rfl⟩ |
      ⟨_, _, _, _, rfl⟩ | ⟨_, _, _, rfl⟩ | ⟨_, _, rfl⟩
    · refine ⟨outcome.1.2, item.2, rfl, rfl, ?_⟩
      exact (exactMatch_iff ..).mp (hexact outcome houtcome item hitem)
    · exact absurd hclass (by simp)
    · exact absurd hclass (by simp)
    · exact absurd hclass (by simp)
  mismatched := by
    intro entry hentry hclass
    rcases (mem_verdicts service).mp hentry with ⟨_, _, _, _, rfl⟩ |
      ⟨outcome, houtcome, item, hitem, rfl⟩ | ⟨_, _, _, rfl⟩ | ⟨_, _, rfl⟩
    · exact absurd hclass (by simp)
    · exact ⟨outcome.1.2, item.2, rfl, rfl, hpartly outcome houtcome item hitem⟩
    · exact absurd hclass (by simp)
    · exact absurd hclass (by simp)
  declared_only := by
    intro entry hentry hclass other hother hothers hint item hhint hitem
    rcases (mem_verdicts service).mp hentry with ⟨_, _, _, _, rfl⟩ | ⟨_, _, _, _, rfl⟩ |
      ⟨outcome, houtcome, hnone, rfl⟩ | ⟨_, _, rfl⟩
    · exact absurd hclass (by simp)
    · exact absurd hclass (by simp)
    · rcases (mem_verdicts service).mp hother with ⟨_, _, _, _, rfl⟩ | ⟨_, _, _, _, rfl⟩ |
        ⟨_, _, _, rfl⟩ | ⟨entry, hentry, rfl⟩
      · exact absurd hothers (by simp)
      · exact absurd hothers (by simp)
      · exact absurd hothers (by simp)
      · rw [← Option.some.inj hhint, ← Option.some.inj hitem]
        exact h.second.missed_alone outcome houtcome hnone entry hentry
    · exact absurd hclass (by simp)
  exact_taken := by
    intro entry hentry hclass hint hhint item hitem hagrees
    have hpartial : ∃ outcome ∈ partly, outcome.1.2 = hint := by
      rcases (mem_verdicts service).mp hentry with ⟨_, _, _, _, rfl⟩ |
        ⟨outcome, houtcome, _, _, rfl⟩ | ⟨outcome, houtcome, _, rfl⟩ | ⟨_, _, rfl⟩
      · exact absurd rfl hclass
      · exact ⟨outcome, houtcome, Option.some.inj hhint⟩
      · exact ⟨outcome, houtcome, Option.some.inj hhint⟩
      · exact absurd hhint (by simp)
    rcases hpartial with ⟨outcome, houtcome, rfl⟩
    rcases h.exact_taken service houtcome hitem hagrees with ⟨other, hother, entry, hsome, rfl⟩
    exact ⟨_, (mem_verdicts service).mpr (.inl ⟨other, hother, entry, hsome, rfl⟩), rfl, rfl⟩

end

theorem CorrectMatching.perm {first second : List ReconciliationComparison}
    (h : service.CorrectMatching hints observation first) (hperm : first.Perm second) :
    service.CorrectMatching hints observation second where
  hints_once := (hperm.symm.filterMap _).trans h.hints_once
  hint_own := fun entry hentry => h.hint_own entry (hperm.mem_iff.mpr hentry)
  observations_once := (hperm.symm.filterMap _).trans h.observations_once
  matched := fun entry hentry => h.matched entry (hperm.mem_iff.mpr hentry)
  mismatched := fun entry hentry => h.mismatched entry (hperm.mem_iff.mpr hentry)
  declared_only := fun entry hentry hclass other hother =>
    h.declared_only entry (hperm.mem_iff.mpr hentry) hclass other (hperm.mem_iff.mpr hother)
  exact_taken := by
    intro entry hentry hclass hint hhint item hitem hagrees
    rcases h.exact_taken entry (hperm.mem_iff.mpr hentry) hclass hint hhint item hitem hagrees with
      ⟨other, hother, htaken⟩
    exact ⟨other, hperm.mem_iff.mp hother, htaken⟩

theorem CorrectMatching.allAgree
    (h : service.CorrectMatching hints observation (service.verdicts exact partly left)) :
    AllAgree service.exactMatch exact ∧ AllAgree service.sameSubject partly := by
  constructor
  · intro outcome houtcome item hitem
    have hmem : service.matchedComparison outcome.1 item.2 ∈ service.verdicts exact partly left :=
      (mem_verdicts service).mpr (.inl ⟨outcome, houtcome, item, hitem, rfl⟩)
    rcases h.matched _ hmem rfl with ⟨hint, other, hhint, hother, hagrees⟩
    rw [exactMatch_iff, Option.some.inj hhint, Option.some.inj hother]
    exact hagrees
  · intro outcome houtcome item hitem
    have hmem : service.mismatchedComparison outcome.1 item.2 ∈
        service.verdicts exact partly left :=
      (mem_verdicts service).mpr (.inr (.inl ⟨outcome, houtcome, item, hitem, rfl⟩))
    rcases h.mismatched _ hmem rfl with ⟨hint, other, hhint, hother, hsame⟩
    rw [Option.some.inj hhint, Option.some.inj hother]
    exact hsame

end Result

/-- The hints and the observations of a draft are matched correctly exactly
    when both passes take what they found, or something that agrees as well. -/
theorem reconcile_correct_iff (hints : List DeclaredMemoryHint)
    (observation : CuratorObservation) :
    (∃ result, service.reconcile observation.draftId hints observation = .ok result ∧
      service.CorrectMatching hints observation result.comparisons) ↔
        service.LandsThroughout hints observation := by
  constructor
  · intro h
    rcases h with ⟨result, hresult, hcorrect⟩
    rcases reconcile_ok service hresult with ⟨exact, rest, partly, left, hpasses, hperm⟩
    have hagree := (hcorrect.perm service hperm).allAgree
    refine ⟨missed exact, rest, ?_, missed partly, left, ?_⟩
    · exact landing_iff.mpr ⟨exact, hpasses.hints_eq, rfl, hpasses.first, hagree.1⟩
    · exact landing_iff.mpr ⟨partly, hpasses.alone_eq, rfl, hpasses.second, hagree.2⟩
  · intro h
    rcases h with ⟨alone, rest, hfirst, declared, left, hsecond⟩
    rcases landing_iff.mp hfirst with ⟨exact, hhints, rfl, htaken, hexact⟩
    rcases landing_iff.mp hsecond with ⟨partly, halone, _, hlater, hpartly⟩
    have hpasses : service.Passes hints observation exact rest partly left :=
      ⟨hhints, htaken, halone, hlater⟩
    rcases reconcile_returns service hpasses with ⟨result, hresult, hperm⟩
    exact ⟨result, hresult, (hpasses.correct service hexact hpartly).perm service hperm.symm⟩

end WriterChangeReconciliationService

namespace Sample

def plainService : WriterChangeReconciliationService where
  normalise := fun text => text
  comparisonId := fun _ _ _ _ => ⟨"comparison", by decide⟩
  resultId := fun _ _ _ => ⟨"reconciliation", by decide⟩

def declaredHint (subject : NonEmptyText) : DeclaredMemoryHint where
  subjectHint := subject
  changeKind := .add
  predicateHint := none
  valueHint := none
  evidenceQuote := subject
  confidence := 1
  confidence_range := by decide

def observedChange (id : StableId) (subject : NonEmptyText) : CuratorChangeObservation where
  observationId := id
  subjectHint := subject
  changeKind := .add
  predicateHint := none
  valueHint := none
  evidenceQuote := none
  targetId := none

def twoHints : List DeclaredMemoryHint :=
  [declaredHint ⟨"ada", by decide⟩, declaredHint ⟨"bo", by decide⟩]

def twoObservations : CuratorObservation where
  draftId := digest "draft"
  changes := [observedChange ⟨"first", by decide⟩ ⟨"ada", by decide⟩,
    observedChange ⟨"second", by decide⟩ ⟨"bo", by decide⟩]
  modelCallRecord := none
  ids_nodup := by decide

/-- Two hints that are each observed, in order, are not reconciled: the second
    observation is found at place one, where nothing stands any more. -/
theorem two_in_order_raise :
    ¬ ∃ result, plainService.reconcile twoObservations.draftId twoHints twoObservations =
        .ok result ∧ plainService.CorrectMatching twoHints twoObservations result.comparisons := by
  rintro ⟨result, hresult, _⟩
  have hraise : plainService.reconcile twoObservations.draftId twoHints twoObservations =
      .error (.index "pop index out of range") := by
    rfl
  exact absurd (hraise.symm.trans hresult) (by simp)

end Sample

end NovelAgent.Editorial
