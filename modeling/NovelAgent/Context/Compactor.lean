import NovelAgent.Context.Projector
import NovelAgent.Core.Session
import NovelAgent.Core.Text

/-!
# The Compactor

How a view that has grown too large for its window is cut down.
-/

namespace NovelAgent.Context

open Core Domain

/-- The window of a provider. Its capacity is positive and holds the soft limit. -/
structure ContextWindowPolicy where
  sequenceLimit : Int
  reservedOutputTokens : Int
  safetyAllowanceTokens : Int
  softLimitTokens : Int
  tokenizer : String
  tokenizerVersion : String
  capacity : 1 ≤ sequenceLimit ∧ 1 ≤ sequenceLimit - reservedOutputTokens - safetyAllowanceTokens
  softFits : 1 ≤ softLimitTokens ∧
    softLimitTokens ≤ sequenceLimit - reservedOutputTokens - safetyAllowanceTokens

def ContextWindowPolicy.hardLimitTokens (policy : ContextWindowPolicy) : Int :=
  policy.sequenceLimit - policy.reservedOutputTokens - policy.safetyAllowanceTokens

/-- The limit a compaction has to reach. -/
def ContextWindowPolicy.target (policy : ContextWindowPolicy) (hard : Bool) : Int :=
  if hard then policy.hardLimitTokens else policy.softLimitTokens

/-- What a compaction uses: the projector's token counter and its own, and
    how to summarize a text, if at all. -/
structure Compactor where
  projectorTokens : String → Int
  countTokens : String → Int
  schemaVersion : SchemaVersion
  summary : Option (String → String)

def contextDetailMediaType : String :=
  "application/vnd.novel-agent.context-compaction-detail+json"

def contextSummaryMediaType : String :=
  "application/vnd.novel-agent.context-summary+json"

/-- The identities of some items. -/
def ids (items : List ContextViewItem) : List StableId :=
  items.map fun item => item.itemId

/-- A view with items taken away. -/
def without (view : AgentContextView) (removed : List StableId) : AgentContextView :=
  { view with
    activeMemoryItems := dropIds removed view.activeMemoryItems
    workingItems := dropIds removed view.workingItems
    recentSettledTail := dropIds removed view.recentSettledTail
    providerValidityReceipt := none }

/-- The items that may be taken away, in the order they are considered. -/
def removableItems (view : AgentContextView) : List ContextViewItem :=
  view.recentSettledTail ++ view.workingItems ++ view.activeMemoryItems

/-- The items that stand or fall together share a key. -/
def groupKey (item : ContextViewItem) : String :=
  match item.atomicGroupId with
  | some group => "group:" ++ group.root
  | none => "item:" ++ item.itemId.root

/-- The groups that may be taken away, in the order of their first items. One
    with a mandatory or a pending item may not. -/
def removableGroups (view : AgentContextView) : List (List ContextViewItem) :=
  let candidates := removableItems view
  ((candidates.map groupKey).eraseDups.map fun key =>
    candidates.filter fun item => groupKey item = key).filter fun group =>
      ¬ group.any fun item => item.mandatory || item.pendingEffect

/-- Every atomic group of the items stands in one piece. -/
def atomicGroupsValid (view : AgentContextView) : Bool :=
  let groups := (view.activeMemoryItems ++ view.workingItems ++ view.recentSettledTail ++
    view.compactedPrefixItems).map fun item => item.atomicGroupId
  let positions (group : StableId) := groups.findIdxs (· = some group)
  (groups.reduceOption).all fun group =>
    positions group =
      List.range' ((positions group).headD 0) (positions group).length

namespace Compactor

variable (compactor : Compactor)

/-- The size of a view, as the compactor counts it. -/
def size (view : AgentContextView) : Int :=
  compactor.countTokens (renderContext view)

/-- A token count that is not negative. -/
def tokens (count : Int) : Except ContextError Nat :=
  if 0 ≤ count then .ok count.toNat
  else .error (.validation "Input should be greater than or equal to 0")

def nonEmpty (text : String) : Except ContextError World.NonEmptyText :=
  if h : text ≠ "" then .ok ⟨text, h⟩
  else .error (.validation "String should have at least 1 character")

def identity (text : String) : Except ContextError StableId :=
  match StableId.ofString? text with
  | some id => .ok id
  | none => .error malformedId

/-- How a view's size compares with the limits of its window. -/
def pressure (view : AgentContextView) (policy : ContextWindowPolicy) :
    Except ContextError ContextPressure := do
  let rendered ← tokens (compactor.size view)
  pure
    { renderedInputTokens := rendered
      availableInputTokens := policy.hardLimitTokens.toNat
      softLimitTokens := policy.softLimitTokens.toNat
      hardLimitTokens := policy.hardLimitTokens.toNat
      softExceeded := decide (policy.softLimitTokens.toNat < rendered)
      hardExceeded := decide (policy.hardLimitTokens.toNat < rendered)
      ordered := Int.toNat_le_toNat policy.softFits.2
      soft := rfl
      hard := rfl }

/-- A provider's word on a view. -/
def providerReceipt (view : AgentContextView) (policy : ContextWindowPolicy) :
    Except ContextError ProviderValidityReceipt := do
  let atomicValid := atomicGroupsValid view
  let fields : ProviderValidityFields :=
    { receiptId := ← identity ("provider-validity." ++ view.runId.root ++ "." ++
        toString view.revision)
      tokenizer := ← nonEmpty policy.tokenizer
      tokenizerVersion := ← nonEmpty policy.tokenizerVersion
      sequenceLimit := ← tokens policy.sequenceLimit
      reservedOutputTokens := ← tokens policy.reservedOutputTokens
      safetyAllowanceTokens := ← tokens policy.safetyAllowanceTokens
      renderedInputTokens := ← tokens (compactor.size view)
      availableInputTokens := ← tokens policy.hardLimitTokens
      atomicGroupsValid := atomicValid
      providerValid := atomicValid && decide (compactor.size view ≤ policy.hardLimitTokens)
      contextHash := view.contextHash }
  match h : validateCapacity fields with
  | none => pure ⟨fields, h⟩
  | some message => .error (.validation message)

/-- The view with a provider's word on it. -/
def withProviderReceipt (view : AgentContextView) (policy : ContextWindowPolicy) :
    Except ContextError AgentContextView := do
  let receipt ← compactor.providerReceipt view policy
  pure { view with providerValidityReceipt := some receipt }

/-- Take groups away until the rest fits. Returns the rest and what was taken away. -/
def extract (target : Int) :
    AgentContextView → List (List ContextViewItem) → AgentContextView × List ContextViewItem
  | candidate, [] => (candidate, [])
  | candidate, group :: groups =>
    let candidate := without candidate (ids group)
    if compactor.size candidate ≤ target then (candidate, group)
    else
      let (rest, removed) := extract target candidate groups
      (rest, group ++ removed)

/-- The groups of the first phase. The last one is kept for the summary. -/
def extractiveGroups (view : AgentContextView) : List (List ContextViewItem) :=
  if compactor.summary.isNone then removableGroups view else (removableGroups view).dropLast

def summaryText (summarizer : String → String) (source : List ContextViewItem) : String :=
  summarizer ("\n\n".intercalate (source.map fun item => item.content.text))

def summaryItem (itemId : StableId) (content : World.NonEmptyText) : ContextViewItem where
  itemId := itemId
  layer := .compactedPrefix
  kind := .runtimeSummary
  content := content
  tokenCount := (max 1 (compactor.countTokens content.text)).toNat
  sourceArtifactRefs := []
  sourceEventRange := none
  atomicGroupId := none
  supersedesItemIds := []
  mandatory := false
  informationScope := .runtime
  instructionBoundary := false
  pendingEffect := false
  valid := by
    have hpositive : ¬ (max 1 (compactor.countTokens content.text)).toNat < 1 := by omega
    simp [validateItem, hpositive]

/-- Replace all that is left to take away by one summary. -/
def summarize (target : Int) (view candidate : AgentContextView)
    (removed : List ContextViewItem) :
    Except ContextError (AgentContextView × List ContextViewItem) :=
  let source := (removableGroups candidate).flatten
  match compactor.summary with
  | none => .ok (candidate, removed)
  | some summarizer =>
    if compactor.size candidate ≤ target ∨ removableGroups candidate = [] then
      .ok (candidate, removed)
    else if h : Text.isBlank (summaryText summarizer source) = true then
      .ok (candidate, removed)
    else do
      let itemId ← identity
        ("context-summary." ++ view.runId.root ++ "." ++ toString (view.generation + 1))
      let item := compactor.summaryItem itemId
        ⟨summaryText summarizer source, Text.ne_empty_of_not_isBlank h⟩
      pure ({ without candidate (ids source) with compactedPrefixItems := [item] },
        removed ++ source)

/-- Both phases. -/
def reduce (view : AgentContextView) (target : Int) :
    Except ContextError (AgentContextView × List ContextViewItem) :=
  let (candidate, removed) := compactor.extract target view (compactor.extractiveGroups view)
  compactor.summarize target view candidate removed

end Compactor

/-- The document that keeps what was taken away. -/
def detailDocument (removed : List ContextViewItem) : JsonValue :=
  .object [("removed_items", .array (removed.map ContextViewItem.codec.dump))]

/-- The document of what a view shows of its compacted past. -/
def summaryDocument (items : List ContextViewItem) : JsonValue :=
  .object [("items", .array (items.map ContextViewItem.codec.dump))]

/-- The events that some items stand for. -/
def coveredRange (removed : List ContextViewItem) (basisEventPosition : Nat) : Nat × Nat :=
  match removed.filterMap fun item => item.sourceEventRange with
  | [] => (1, max 1 basisEventPosition)
  | range :: ranges =>
    (ranges.foldl (fun start other => min start other.1) range.1,
      ranges.foldl (fun stop other => max stop other.2) range.2)

namespace Compactor

variable (compactor : Compactor)

/-- The view that a compaction publishes, before its address and tokens. -/
def prepare (view candidate : AgentContextView) (removed : List ContextViewItem)
    (summaryRef : ArtifactRef) : AgentContextView :=
  let covered := coveredRange removed view.basisEventPosition
  { candidate with
    revision := view.revision + 1
    generation := view.generation + 1
    compactedPrefixRef := some summaryRef
    compactedItemIds := (view.compactedItemIds ++ ids removed).eraseDups
    coveredEventRange := some covered
    keptBoundary := covered.2
    providerValidityReceipt := none }

def receipt (view prepared : AgentContextView) (removed : List ContextViewItem)
    (inputTokens : Nat) (summaryRef detailRef : ArtifactRef) :
    Except ContextError ContextCompactionReceipt := do
  let covered := coveredRange removed view.basisEventPosition
  let outputTokens ← tokens (compactor.size prepared)
  let fields : ContextCompactionFields :=
    { receiptId := ← identity
        ("compaction." ++ view.runId.root ++ "." ++ toString (view.generation + 1))
      runId := view.runId
      parentViewRevision := view.revision
      parentGeneration := view.generation
      basisEventPosition := max 1 view.basisEventPosition
      coveredEventRange := covered
      keptBoundary := covered.2
      removedItemIds := (ids removed).eraseDups
      compactedItems := prepared.compactedPrefixItems
      summaryArtifact := some summaryRef
      detailArtifact := some detailRef
      inputContextHash := view.contextHash
      outputContextHash := prepared.contextHash
      inputContextTokens := some inputTokens
      outputContextTokens := some outputTokens
      reductionRatio := some
        (if inputTokens = 0 then 0 else ((inputTokens : ℚ) - outputTokens) / inputTokens)
      deterministic := compactor.summary.isNone
      safeCut := true
      publishedGeneration := view.generation + 1 }
  match h : validateReceipt fields with
  | none => pure ⟨fields, h⟩
  | some message => .error (.validation message)

/-- Compact a view. One that fits already is only looked at, and one that
    cannot be made to fit its soft limit is left as it is. -/
def compact (view : AgentContextView) (policy : ContextWindowPolicy) (hard : Bool) :
    Session Artifacts ContextError (AgentContextView × Option ContextCompactionReceipt) := do
  let pressure ← Session.ofExcept (compactor.pressure view policy)
  let target := policy.target hard
  if pressure.renderedInputTokens ≤ target then
    let view ← Session.ofExcept (compactor.withProviderReceipt view policy)
    pure (view, none)
  else
    let (candidate, removed) ← Session.ofExcept (compactor.reduce view target)
    if target < compactor.size candidate then
      if hard then
        Session.raise (.limit "no safe compaction closes the provider context limit")
      else pure (view, none)
    else
      let detailRef ← Session.transact
        (put (detailDocument removed) contextDetailMediaType compactor.schemaVersion)
      let summaryRef ← Session.transact
        (put (summaryDocument candidate.compactedPrefixItems) contextSummaryMediaType
          compactor.schemaVersion)
      let prepared := refreshTokens compactor.projectorTokens
        (prepare view candidate removed summaryRef).withHash
      let receipt ← Session.ofExcept
        (compactor.receipt view prepared removed pressure.renderedInputTokens summaryRef detailRef)
      let published ← Session.ofExcept (compactor.withProviderReceipt prepared policy)
      pure (published, some receipt)

end Compactor

end NovelAgent.Context
