import NovelAgent.ModelCalls.Requests

/-!
# Reconciliation

What the Writer declared to have changed in a draft, against what the Curator
observed in it.
-/

namespace NovelAgent.Editorial

open Domain World ModelCalls

/-- What a hint says happens. -/
inductive MemoryHintChangeKind
  | add
  | change
  | ends
  | uncertain
deriving DecidableEq

/-- A change that the Writer says a draft makes. -/
structure DeclaredMemoryHint where
  subjectHint : NonEmptyText
  changeKind : MemoryHintChangeKind
  predicateHint : Option NonEmptyText
  valueHint : Option NonEmptyText
  evidenceQuote : NonEmptyText
  confidence : Rat
  confidence_range : 0 ≤ confidence ∧ confidence ≤ 1

/-- One observed change. -/
structure CuratorChangeObservation where
  observationId : StableId
  subjectHint : NonEmptyText
  changeKind : MemoryHintChangeKind
  predicateHint : Option NonEmptyText
  valueHint : Option NonEmptyText
  evidenceQuote : Option NonEmptyText
  targetId : Option StableId

/-- The other side: what the curator observed. -/
structure CuratorObservation where
  draftId : ArtifactId
  changes : List CuratorChangeObservation
  modelCallRecord : Option ModelCallRecord
  ids_nodup : (changes.map CuratorChangeObservation.observationId).Nodup

/-- How a hint fares. -/
inductive ReconciliationClass
  | matched
  | declaredOnly
  | observedOnly
  | mismatched

def HasSides (writerHintIndex : Option Nat) (writerHint : Option DeclaredMemoryHint)
    (observation : Option CuratorChangeObservation) : ReconciliationClass → Prop
  | .matched => writerHint ≠ none ∧ observation ≠ none ∧ writerHintIndex ≠ none
  | .declaredOnly => writerHint ≠ none ∧ writerHintIndex ≠ none ∧ observation = none
  | .observedOnly => writerHint = none ∧ writerHintIndex = none ∧ observation ≠ none
  | .mismatched => writerHint ≠ none ∧ writerHintIndex ≠ none ∧ observation ≠ none

/-- A hint and an observation that were put side by side, or one of the two alone. -/
structure ReconciliationComparison where
  comparisonId : StableId
  classification : ReconciliationClass
  writerHintIndex : Option Nat
  observationId : Option StableId
  writerHint : Option DeclaredMemoryHint
  observation : Option CuratorChangeObservation
  reason : String
  sides : HasSides writerHintIndex writerHint observation classification
  observationId_eq : observationId.isNone = observation.isNone

def AccountsForHints (hints : List DeclaredMemoryHint)
    (comparisons : List ReconciliationComparison) : Prop :=
  let writerIndexes := comparisons.filterMap ReconciliationComparison.writerHintIndex
  writerIndexes.length = hints.length ∧ (∀ index ∈ writerIndexes, index < hints.length) ∧
    ∀ index ∈ List.range hints.length, index ∈ writerIndexes

def AccountsForObservations (observation : CuratorObservation)
    (comparisons : List ReconciliationComparison) : Prop :=
  let observationIds := comparisons.filterMap ReconciliationComparison.observationId
  let expected := observation.changes.map CuratorChangeObservation.observationId
  observationIds.length = expected.dedup.length ∧ (∀ id ∈ observationIds, id ∈ expected) ∧
    ∀ id ∈ expected, id ∈ observationIds

instance (hints : List DeclaredMemoryHint) (comparisons : List ReconciliationComparison) :
    Decidable (AccountsForHints hints comparisons) := by
  unfold AccountsForHints
  infer_instance

instance (observation : CuratorObservation) (comparisons : List ReconciliationComparison) :
    Decidable (AccountsForObservations observation comparisons) := by
  unfold AccountsForObservations
  infer_instance

/-- The comparison of a draft's hints and observations. -/
structure ReconciliationResult where
  resultId : StableId
  draftId : ArtifactId
  writerHints : List DeclaredMemoryHint
  curatorObservation : CuratorObservation
  comparisons : List ReconciliationComparison
  bound : curatorObservation.draftId = draftId
  hints_once : AccountsForHints writerHints comparisons
  observations_once : AccountsForObservations curatorObservation comparisons

/-- What a call may raise. -/
inductive ReconcileError
  | reconciliation (message : String)
  | index (message : String)
  | validation (message : String)

/-- How texts are compared, and the digests that name what comes of it. -/
structure WriterChangeReconciliationService where
  normalise : String → String
  comparisonId : ReconciliationClass → Option Nat → Option StableId → String → StableId
  resultId : ArtifactId → List DeclaredMemoryHint → CuratorObservation → StableId

/-- The members of a list with their places. -/
def enumerate {α : Type} (items : List α) : List (Nat × α) :=
  items.zipIdx.map Prod.swap

namespace WriterChangeReconciliationService

variable (service : WriterChangeReconciliationService)

def sameSubject (hint : DeclaredMemoryHint) (observation : CuratorChangeObservation) : Bool :=
  service.normalise hint.subjectHint.text = service.normalise observation.subjectHint.text

def sameText : Option NonEmptyText → Option NonEmptyText → Bool
  | some left, some right => service.normalise left.text = service.normalise right.text
  | none, none => true
  | _, _ => false

def exactMatch (hint : DeclaredMemoryHint) (observation : CuratorChangeObservation) : Bool :=
  service.sameSubject hint observation &&
    service.sameText hint.predicateHint observation.predicateHint &&
    decide (hint.changeKind = observation.changeKind) &&
    service.sameText hint.valueHint observation.valueHint

/-- Once the subject is the same, any disagreement is a mismatch. -/
def partialIdentity (_ : DeclaredMemoryHint) (_ : CuratorChangeObservation) : Bool :=
  true

def mismatchReason (hint : DeclaredMemoryHint) (observation : CuratorChangeObservation) :
    String :=
  let differences :=
    (if hint.changeKind ≠ observation.changeKind then ["change type"] else []) ++
    (if !service.sameText hint.predicateHint observation.predicateHint then ["predicate"]
      else []) ++
    (if !service.sameText hint.valueHint observation.valueHint then ["value/object"] else [])
  "Writer and Curator disagree on " ++
    ", ".intercalate (if differences.isEmpty then ["the change"] else differences)

def comparison (classification : ReconciliationClass) (hintIndex : Option Nat)
    (hint : Option DeclaredMemoryHint) (observation : Option CuratorChangeObservation)
    (reason : String) (sides : HasSides hintIndex hint observation classification) :
    ReconciliationComparison where
  comparisonId := service.comparisonId classification hintIndex
    (observation.map CuratorChangeObservation.observationId) reason
  classification := classification
  writerHintIndex := hintIndex
  observationId := observation.map CuratorChangeObservation.observationId
  writerHint := hint
  observation := observation
  reason := reason
  sides := sides
  observationId_eq := Option.isNone_map

/-- The comparison of a hint with an observation that agrees with it. -/
def matchedComparison (hint : Nat × DeclaredMemoryHint) (item : CuratorChangeObservation) :
    ReconciliationComparison :=
  service.comparison .matched (some hint.1) (some hint.2) (some item)
    "subject, change type, predicate, and value agree" (by simp [HasSides])

/-- The comparison of a hint with an observation of its subject. -/
def mismatchedComparison (hint : Nat × DeclaredMemoryHint) (item : CuratorChangeObservation) :
    ReconciliationComparison :=
  service.comparison .mismatched (some hint.1) (some hint.2) (some item)
    (service.mismatchReason hint.2 item) (by simp [HasSides])

/-- A hint that no observation supports. -/
def declaredOnlyComparison (hint : Nat × DeclaredMemoryHint) : ReconciliationComparison :=
  service.comparison .declaredOnly (some hint.1) (some hint.2) none
    "Writer declared a change without a supporting observation" (by simp [HasSides])

/-- An observation that no hint declared. -/
def observedOnlyComparison (item : CuratorChangeObservation) : ReconciliationComparison :=
  service.comparison .observedOnly none none (some item)
    "Curator observed a change that Writer did not declare" (by simp [HasSides])

/-- What the passes have come to. -/
structure Progress where
  comparisons : List ReconciliationComparison
  remaining : List (Nat × CuratorChangeObservation)
  matchedHintIndexes : List Nat

/-- Remove what stands at a place of the list, which has to have that place. -/
def pop (remaining : List (Nat × CuratorChangeObservation)) (index : Nat) :
    Except ReconcileError (CuratorChangeObservation × List (Nat × CuratorChangeObservation)) :=
  match remaining[index]? with
  | none =>
    .error (.index (if remaining.isEmpty then "pop from empty list"
      else "pop index out of range"))
  | some (_, item) => .ok (item, remaining.eraseIdx index)

/-- The place, in the Curator's list, of the first observation left that agrees. -/
def nextIndex (agrees : CuratorChangeObservation → Bool)
    (remaining : List (Nat × CuratorChangeObservation)) : Option Nat :=
  (remaining.find? fun entry => agrees entry.2).map Prod.fst

/-- The first pass, at one hint. -/
def consumeExact (progress : Progress) (hint : Nat × DeclaredMemoryHint) :
    Except ReconcileError Progress :=
  match nextIndex (service.exactMatch hint.2) progress.remaining with
  | none => .ok progress
  | some exactIndex => do
      let (item, remaining) ← pop progress.remaining exactIndex
      .ok {
        comparisons := progress.comparisons ++ [service.matchedComparison hint item]
        remaining := remaining
        matchedHintIndexes := progress.matchedHintIndexes ++ [hint.1] }

/-- The second pass, at one hint. -/
def consumePartial (progress : Progress) (hint : Nat × DeclaredMemoryHint) :
    Except ReconcileError Progress :=
  if hint.1 ∈ progress.matchedHintIndexes then .ok progress
  else
    match nextIndex (fun item => service.sameSubject hint.2 item && partialIdentity hint.2 item)
        progress.remaining with
    | none =>
      .ok { progress with
        comparisons := progress.comparisons ++ [service.declaredOnlyComparison hint] }
    | some partialIndex => do
        let (item, remaining) ← pop progress.remaining partialIndex
        .ok { progress with
          comparisons := progress.comparisons ++ [service.mismatchedComparison hint item]
          remaining := remaining }

/-- The place of a class in the order of the comparisons. -/
def classOrder : ReconciliationClass → Nat
  | .matched => 0
  | .mismatched => 1
  | .declaredOnly => 2
  | .observedOnly => 3

/-- A comparison comes before another or beside it: by class, then by hint, then by observation. -/
def sortsBefore (first second : ReconciliationComparison) : Prop :=
  let place (item : ReconciliationComparison) := item.writerHintIndex.getD 10000
  let name (item : ReconciliationComparison) := (item.observationId.map StableId.root).getD ""
  classOrder first.classification < classOrder second.classification ∨
    classOrder first.classification = classOrder second.classification ∧
      (place first < place second ∨ place first = place second ∧ name first ≤ name second)

instance : DecidableRel sortsBefore := by
  unfold DecidableRel sortsBefore
  infer_instance

/-- Compare the Writer's hints with the observations of the same draft. -/
def reconcile (draftId : ArtifactId) (writerHints : List DeclaredMemoryHint)
    (observation : CuratorObservation) : Except ReconcileError ReconciliationResult := do
  if bound : observation.draftId = draftId then
    let exact ← (enumerate writerHints).foldlM service.consumeExact
      { comparisons := [], remaining := enumerate observation.changes, matchedHintIndexes := [] }
    let partly ← (enumerate writerHints).foldlM service.consumePartial exact
    let comparisons := (partly.comparisons ++
      partly.remaining.map fun entry => service.observedOnlyComparison entry.2).insertionSort
        sortsBefore
    if hintsOnce : AccountsForHints writerHints comparisons then
      if observationsOnce : AccountsForObservations observation comparisons then
        .ok {
          resultId := service.resultId draftId writerHints observation
          draftId := draftId
          writerHints := writerHints
          curatorObservation := observation
          comparisons := comparisons
          bound := bound
          hints_once := hintsOnce
          observations_once := observationsOnce }
      else .error (.validation "Reconciliation result must account for every observation once")
    else .error (.validation "Reconciliation result must account for every Writer hint once")
  else .error (.reconciliation "Curator observation belongs to another Draft")

end WriterChangeReconciliationService

end NovelAgent.Editorial
