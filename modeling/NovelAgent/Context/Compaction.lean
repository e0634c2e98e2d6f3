import NovelAgent.Context.Compactor
import NovelAgent.Core.Dedup
import NovelAgent.Core.Outcome

/-!
# Replaying a Compaction

The receipt of a compaction says what the projector has to do to get the view
the compactor published.
-/

namespace NovelAgent.Context

open Core Domain Session Transaction

variable (items : List ContextViewItem)

theorem dropIds_dropIds (first second : List StableId) :
    dropIds second (dropIds first items) = dropIds (first ++ second) items := by
  rw [dropIds, dropIds, dropIds, List.filter_filter]
  refine List.filter_congr fun item _ => ?_
  simp [not_or, Bool.and_comm]

@[simp] theorem dropIds_nil : dropIds [] items = items := by
  simp [dropIds]

@[simp] theorem dropIds_eraseDups (removed : List StableId) (items : List ContextViewItem) :
    dropIds removed.eraseDups items = dropIds removed items := by
  simp [dropIds, List.mem_eraseDups]

theorem ids_append (first second : List ContextViewItem) :
    ids (first ++ second) = ids first ++ ids second :=
  List.map_append

theorem without_without (view : AgentContextView) (first second : List StableId) :
    without (without view first) second = without view (first ++ second) := by
  simp only [without, dropIds_dropIds]

/-- The view without a provider's word on it. -/
def AgentContextView.bare (view : AgentContextView) : AgentContextView :=
  { view with providerValidityReceipt := none }

/-- The view with other summaries of its past. -/
def AgentContextView.showing (view : AgentContextView) (items : List ContextViewItem) :
    AgentContextView :=
  { view with compactedPrefixItems := items }

namespace Compactor

variable (compactor : Compactor)

theorem tokens_eq_ok {count : Int} {n : Nat} (h : tokens count = .ok n) : (n : Int) = count := by
  unfold tokens at h
  split at h
  · rename_i hcount
    rw [← Except.ok.inj h]
    exact Int.toNat_of_nonneg hcount
  · exact absurd h (by simp)

theorem extract_eq (target : Int) (groups : List (List ContextViewItem))
    (view : AgentContextView) :
    (compactor.extract target view groups).1.bare =
      without view (ids (compactor.extract target view groups).2) := by
  induction groups generalizing view with
  | nil => simp [extract, without, ids, AgentContextView.bare]
  | cons group groups ih =>
    rw [extract]
    dsimp only
    split
    · rfl
    · rw [ids_append, ← without_without]
      exact ih (without view (ids group))

variable {removed : List ContextViewItem}

/-- What both phases leave of a view: the items whose identities were not
    taken away, and either the old summary or a new one. -/
theorem reduce_eq {view candidate : AgentContextView} {target : Int}
    (h : compactor.reduce view target = .ok (candidate, removed)) :
    candidate.bare = (without view (ids removed)).showing candidate.compactedPrefixItems := by
  have hfirst := compactor.extract_eq target (compactor.extractiveGroups view) view
  rcases hextract : compactor.extract target view (compactor.extractiveGroups view) with
    ⟨rest, taken⟩
  rw [hextract] at hfirst
  dsimp only at hfirst
  have hunsummarized : rest.bare =
      (without view (ids taken)).showing rest.compactedPrefixItems := by
    rw [← hfirst]
    rfl
  simp only [reduce, hextract, summarize] at h
  cases hsummary : compactor.summary with
  | none =>
    simp only [hsummary, Except.ok.injEq, Prod.mk.injEq] at h
    rw [← h.1, ← h.2]
    exact hunsummarized
  | some summarizer =>
    simp only [hsummary] at h
    split at h
    · simp only [Except.ok.injEq, Prod.mk.injEq] at h
      rw [← h.1, ← h.2]
      exact hunsummarized
    · split at h
      · simp only [Except.ok.injEq, Prod.mk.injEq] at h
        rw [← h.1, ← h.2]
        exact hunsummarized
      · -- The summary replaces what is left of the removable items.
        rename_i hblank
        simp only [Outcome.bind_eq_ok, Outcome.pure_eq_ok, Prod.mk.injEq] at h
        rcases h with ⟨itemId, _, hcandidate, hremoved⟩
        rw [← hcandidate, ← hremoved, ids_append, ← without_without, ← hfirst]
        rfl

variable {policy : ContextWindowPolicy} {pressure : ContextPressure}

theorem pressure_size {view : AgentContextView}
    (h : compactor.pressure view policy = .ok pressure) :
    (pressure.renderedInputTokens : Int) = compactor.size view := by
  simp only [Compactor.pressure, Outcome.bind_eq_ok, Outcome.pure_eq_ok] at h
  rcases h with ⟨rendered, hrendered, rfl⟩
  exact tokens_eq_ok hrendered

variable {view view' : AgentContextView} {hard : Bool} {artifacts artifacts' : Artifacts}
    {receipt : ContextCompactionReceipt}

/-- What a compaction that publishes has done. -/
theorem compact_published
    (h : compactor.compact view policy hard artifacts = (.ok (view', some receipt), artifacts')) :
    ∃ candidate removed detailRef summaryRef artifacts₁ inputTokens providerReceipt,
      policy.target hard < compactor.size view ∧
      compactor.reduce view (policy.target hard) = .ok (candidate, removed) ∧
      compactor.size candidate ≤ policy.target hard ∧
      put (detailDocument removed) contextDetailMediaType compactor.schemaVersion artifacts =
        .ok (detailRef, artifacts₁) ∧
      put (summaryDocument candidate.compactedPrefixItems) contextSummaryMediaType
        compactor.schemaVersion artifacts₁ = .ok (summaryRef, artifacts') ∧
      compactor.receipt view
        (refreshTokens compactor.projectorTokens
          (prepare view candidate removed summaryRef).withHash)
        removed inputTokens summaryRef detailRef = .ok receipt ∧
      view' = { refreshTokens compactor.projectorTokens
          (prepare view candidate removed summaryRef).withHash with
        providerValidityReceipt := providerReceipt } := by
  have h' := (outcome_ok _ _ _ _).mpr h
  simp only [compact, outcome_bind, outcome_ofExcept, bind_ok,
    liftM_ok] at h'
  rcases h' with ⟨pressure, _, ⟨hpressure, rfl⟩, h'⟩
  have hsize := compactor.pressure_size hpressure
  split at h'
  · simp only [outcome_bind, outcome_ofExcept, outcome_pure,
      bind_ok, pure_ok, Prod.mk.injEq] at h'
    rcases h' with ⟨_, _, _, ⟨_, hnone⟩, _⟩
    exact absurd hnone (by simp)
  · rename_i hlarge
    simp only [outcome_bind, outcome_ofExcept, bind_ok,
      liftM_ok] at h'
    rcases h' with ⟨⟨candidate, removed⟩, _, ⟨hreduce, rfl⟩, h'⟩
    dsimp only at h'
    split at h'
    · split at h'
      · simp only [outcome_raise] at h'
        exact absurd h' (throw_ok _ _ _ _)
      · simp only [outcome_pure, pure_ok, Prod.mk.injEq] at h'
        exact absurd h'.1.2 (by simp)
    · rename_i hfits
      simp only [outcome_bind, outcome_ofExcept, outcome_transact,
        outcome_pure, bind_ok, liftM_ok, pure_ok,
        Prod.mk.injEq, Option.some.injEq] at h'
      rcases h' with ⟨detailRef, artifacts₁, hdetail, summaryRef, artifacts₂, hsummary, given, _,
        ⟨hreceipt, rfl⟩, published, _, ⟨hpublished, rfl⟩, ⟨rfl, rfl⟩, rfl⟩
      simp only [withProviderReceipt, Outcome.bind_eq_ok, Outcome.pure_eq_ok] at hpublished
      rcases hpublished with ⟨providerReceipt, _, rfl⟩
      exact ⟨candidate, removed, detailRef, summaryRef, artifacts₁, pressure.renderedInputTokens,
        some providerReceipt, by omega, hreduce, by omega, hdetail, hsummary, hreceipt, rfl⟩

theorem receipt_eq {view prepared : AgentContextView} {inputTokens : Nat}
    {summaryRef detailRef : ArtifactRef}
    (h : compactor.receipt view prepared removed inputTokens summaryRef detailRef = .ok receipt) :
    receipt.runId = view.runId ∧ receipt.parentViewRevision = view.revision ∧
    receipt.parentGeneration = view.generation ∧
    receipt.basisEventPosition = max 1 view.basisEventPosition ∧
    receipt.coveredEventRange = coveredRange removed view.basisEventPosition ∧
    receipt.keptBoundary = (coveredRange removed view.basisEventPosition).2 ∧
    receipt.removedItemIds = (ids removed).eraseDups ∧
    receipt.compactedItems = prepared.compactedPrefixItems ∧
    receipt.summaryArtifact = some summaryRef ∧ receipt.detailArtifact = some detailRef ∧
    receipt.inputContextHash = view.contextHash ∧
    receipt.outputContextHash = prepared.contextHash ∧
    receipt.publishedGeneration = view.generation + 1 := by
  simp only [Compactor.receipt, Outcome.bind_eq_ok] at h
  rcases h with ⟨outputTokens, _, receiptId, _, h⟩
  split at h
  · rw [Outcome.pure_eq_ok] at h
    rw [← h]
    exact ⟨rfl, rfl, rfl, rfl, rfl, rfl, rfl, rfl, rfl, rfl, rfl, rfl, rfl⟩
  · exact absurd h (by simp)

theorem compact_publishes {view candidate view' : AgentContextView}
    {artifacts artifacts₁ artifacts' : Artifacts} {detailRef summaryRef : ArtifactRef}
    (hpressure : compactor.pressure view policy = .ok pressure)
    (hlarge : policy.target hard < pressure.renderedInputTokens)
    (hreduce : compactor.reduce view (policy.target hard) = .ok (candidate, removed))
    (hfits : compactor.size candidate ≤ policy.target hard)
    (hdetail : put (detailDocument removed) contextDetailMediaType compactor.schemaVersion
      artifacts = .ok (detailRef, artifacts₁))
    (hsummary : put (summaryDocument candidate.compactedPrefixItems) contextSummaryMediaType
      compactor.schemaVersion artifacts₁ = .ok (summaryRef, artifacts'))
    (hreceipt : compactor.receipt view
      (refreshTokens compactor.projectorTokens
        (prepare view candidate removed summaryRef).withHash)
      removed pressure.renderedInputTokens summaryRef detailRef = .ok receipt)
    (hpublished : compactor.withProviderReceipt (refreshTokens compactor.projectorTokens
      (prepare view candidate removed summaryRef).withHash) policy = .ok view') :
    compactor.compact view policy hard artifacts = (.ok (view', some receipt), artifacts') := by
  rw [← outcome_ok]
  simp only [compact, outcome_bind, outcome_ofExcept, bind_ok,
    liftM_ok]
  refine ⟨pressure, artifacts, ⟨hpressure, rfl⟩, ?_⟩
  rw [if_neg (by omega)]
  simp only [outcome_bind, outcome_ofExcept, bind_ok,
    liftM_ok]
  refine ⟨(candidate, removed), artifacts, ⟨hreduce, rfl⟩, ?_⟩
  dsimp only
  rw [if_neg (by omega)]
  simp only [outcome_bind, outcome_ofExcept, outcome_transact,
    outcome_pure, bind_ok, liftM_ok, pure_ok]
  exact ⟨detailRef, artifacts₁, hdetail, summaryRef, artifacts', hsummary, receipt, artifacts',
    ⟨hreceipt, rfl⟩, view', artifacts', ⟨hpublished, rfl⟩, rfl, rfl⟩

/-- Over an empty store both documents are stored, if their addresses differ. -/
theorem compact_empty {view candidate : AgentContextView} (inputTokens : Nat)
    (hne : contentId (summaryDocument candidate.compactedPrefixItems) ≠
      contentId (detailDocument removed))
    (hpressure : (compactor.pressure view policy).map
      (fun pressure => pressure.renderedInputTokens) = .ok inputTokens)
    (hlarge : policy.target hard < inputTokens)
    (hreduce : compactor.reduce view (policy.target hard) = .ok (candidate, removed))
    (hfits : compactor.size candidate ≤ policy.target hard)
    (hreceipt : (compactor.receipt view
      (refreshTokens compactor.projectorTokens (prepare view candidate removed
        (artifactRef (summaryDocument candidate.compactedPrefixItems) contextSummaryMediaType
          compactor.schemaVersion)).withHash) removed inputTokens
      (artifactRef (summaryDocument candidate.compactedPrefixItems) contextSummaryMediaType
        compactor.schemaVersion)
      (artifactRef (detailDocument removed) contextDetailMediaType
        compactor.schemaVersion)).isOk = true)
    (hpublished : (compactor.withProviderReceipt
      (refreshTokens compactor.projectorTokens (prepare view candidate removed
        (artifactRef (summaryDocument candidate.compactedPrefixItems) contextSummaryMediaType
          compactor.schemaVersion)).withHash) policy).isOk = true) :
    ∃ view' receipt artifacts',
      compactor.compact view policy hard ∅ = (.ok (view', some receipt), artifacts') ∧
      receipt.removedItemIds = (ids removed).eraseDups ∧ view'.items = candidate.items := by
  have hdetail : put (detailDocument removed) contextDetailMediaType compactor.schemaVersion ∅ =
      .ok (_, _) := put_absent rfl
  have hsummary : put (summaryDocument candidate.compactedPrefixItems) contextSummaryMediaType
      compactor.schemaVersion ((∅ : Artifacts).insert (contentId (detailDocument removed))
        ⟨detailDocument removed, contextDetailMediaType⟩) = .ok (_, _) :=
    put_absent (by rw [Table.lookup_insert_if, if_neg hne]; rfl)
  cases hp : compactor.pressure view policy with
  | error error => simp [hp, Except.map] at hpressure
  | ok pressure =>
    simp only [hp, Except.map, Except.ok.injEq] at hpressure
    rcases Outcome.isOk_iff.mp hpublished with ⟨view', hview'⟩
    rcases Outcome.isOk_iff.mp hreceipt with ⟨receipt, hreceipt⟩
    refine ⟨view', receipt, _, compactor.compact_publishes hp (by rw [hpressure]; exact hlarge)
      hreduce hfits hdetail hsummary (by rw [hpressure]; exact hreceipt) hview', ?_, ?_⟩
    · exact (compactor.receipt_eq hreceipt).2.2.2.2.2.2.1
    · simp only [withProviderReceipt, Outcome.bind_eq_ok, Outcome.pure_eq_ok] at hview'
      rcases hview' with ⟨_, _, rfl⟩
      rfl

/-- A compaction that publishes nothing was given a view that fits, to which it adds a
    provider's word, or is a soft one that gives the view back. -/
theorem compact_unpublished_cases
    (h : compactor.compact view policy hard artifacts = (.ok (view', none), artifacts')) :
    (compactor.size view ≤ policy.target hard ∧ ∃ providerReceipt,
      view' = { view with providerValidityReceipt := providerReceipt }) ∨
    hard = false ∧ view' = view := by
  have h' := (outcome_ok _ _ _ _).mpr h
  simp only [compact, outcome_bind, outcome_ofExcept, bind_ok,
    liftM_ok] at h'
  rcases h' with ⟨pressure, _, ⟨hpressure, rfl⟩, h'⟩
  have hsize := compactor.pressure_size hpressure
  split at h'
  · rename_i hfits
    simp only [outcome_bind, outcome_ofExcept, outcome_pure,
      bind_ok, pure_ok, liftM_ok, withProviderReceipt,
      Outcome.bind_eq_ok, Outcome.pure_eq_ok, Prod.mk.injEq] at h'
    rcases h' with ⟨_, _, ⟨⟨providerReceipt, _, rfl⟩, _⟩, ⟨rfl, _⟩, _⟩
    exact .inl ⟨by omega, _, rfl⟩
  · simp only [outcome_bind, outcome_ofExcept, bind_ok,
      liftM_ok] at h'
    rcases h' with ⟨⟨candidate, removed⟩, _, ⟨hreduce, rfl⟩, h'⟩
    dsimp only at h'
    split at h'
    · split at h'
      · simp only [outcome_raise] at h'
        exact absurd h' (throw_ok _ _ _ _)
      · rename_i hsoft
        simp only [outcome_pure, pure_ok, Prod.mk.injEq] at h'
        exact .inr ⟨by simpa using hsoft, h'.1.1.symm⟩
    · simp only [outcome_bind, outcome_ofExcept, outcome_transact,
        outcome_pure, bind_ok, liftM_ok, pure_ok,
        Prod.mk.injEq] at h'
      rcases h' with ⟨_, _, _, _, _, _, _, _, _, _, _, _, ⟨_, hnone⟩, _⟩
      exact absurd hnone (by simp)

theorem compact_unpublished
    (h : compactor.compact view policy hard artifacts = (.ok (view', none), artifacts')) :
    view'.bare = view.bare := by
  rcases compactor.compact_unpublished_cases h with ⟨_, _, rfl⟩ | ⟨_, rfl⟩
  · rfl
  · rfl

/-- The projector gets the view that a compaction published from its receipt,
    up to the provider's word on it. -/
theorem compaction_receipt_replays {view view' : AgentContextView} {policy : ContextWindowPolicy}
    {hard : Bool} {artifacts artifacts' : Artifacts} {receipt : ContextCompactionReceipt}
    (hbasis : 1 ≤ view.basisEventPosition)
    (h : compactor.compact view policy hard artifacts = (.ok (view', some receipt), artifacts')) :
    ∃ replayed, applyCompaction compactor.projectorTokens view receipt = .ok replayed ∧
      view' = { replayed with providerValidityReceipt := view'.providerValidityReceipt } := by
  rcases compactor.compact_published h with ⟨candidate, removed, detailRef, summaryRef, _,
    inputTokens, providerReceipt, _, hreduce, _, _, _, hreceipt, rfl⟩
  have hcandidate := compactor.reduce_eq hreduce
  rcases compactor.receipt_eq hreceipt with ⟨hrun, hrevision, hgeneration, hposition, hcovered,
    hkept, hremoved, hitems, hsummary, _, hinput, houtput, hpublished⟩
  -- Both sides replace the same fields of the view by the same values.
  have hsame : withCompaction view receipt.toContextCompactionFields =
      prepare view candidate removed summaryRef := by
    have hprepare : prepare view candidate removed summaryRef =
        prepare view candidate.bare removed summaryRef := rfl
    rw [hprepare, hcandidate]
    simp only [withCompaction, prepare, hpublished, hremoved, hitems, hsummary, hcovered, hkept,
      dropIds_eraseDups, eraseDups_append_eraseDups]
    rfl
  refine ⟨refreshTokens compactor.projectorTokens
    (prepare view candidate removed summaryRef).withHash, ?_, rfl⟩
  rw [applyCompaction, if_neg, hsame, if_neg]
  · simpa using houtput.symm
  · rw [hrun, hrevision, hgeneration, hposition, hinput]
    simp only [ne_eq, not_true_eq_false, false_or, or_false, not_not]
    omega

end Compactor

namespace Sample

def item (itemId : StableId) (layer : ContextLayer) (content : World.NonEmptyText) :
    ContextViewItem where
  itemId := itemId
  layer := layer
  kind := .memoryClaim
  content := content
  tokenCount := 1
  sourceArtifactRefs := []
  sourceEventRange := none
  atomicGroupId := none
  supersedesItemIds := []
  mandatory := layer = .protected
  informationScope := .plannerSafe
  instructionBoundary := false
  pendingEffect := false
  valid := by simp [validateItem]

def goal : ContextViewItem :=
  item ⟨"goal", by decide⟩ .protected ⟨"Write on.", by decide⟩

def oldClaim : ContextViewItem :=
  item ⟨"claim.old", by decide⟩ .memory ⟨"The lamp stood on the table.", by decide⟩

def newClaim : ContextViewItem :=
  item ⟨"claim.new", by decide⟩ .memory ⟨"The lamp is lit.", by decide⟩

def version : SchemaVersion := ⟨"1.0.0", .refl true⟩

def package : ArtifactRef := ⟨emptyHash, "application/json", 2, version⟩

def view : AgentContextView where
  runId := ⟨"run", .refl true⟩
  taskId := ⟨"task", .refl true⟩
  consumer := .planner
  revision := 0
  generation := 0
  basisEventPosition := 1
  baseCommit := none
  snapshotId := none
  profileRef := none
  planRef := none
  informationScope := .plannerSafe
  seedPackageRef := package
  protectedItems := [goal]
  activeMemoryItems := [oldClaim, newClaim]
  workingItems := []
  recentSettledTail := []
  compactedPrefixItems := []
  compactedItemIds := []
  unresolvedNeedIds := []
  compactedPrefixRef := none
  coveredEventRange := none
  keptBoundary := 0
  tokenReport := []
  providerValidityReceipt := none
  contextHash := emptyHash

def policy : ContextWindowPolicy where
  sequenceLimit := 220
  reservedOutputTokens := 0
  safetyAllowanceTokens := 0
  softLimitTokens := 220
  tokenizer := "bytes"
  tokenizerVersion := "1"
  capacity := by decide
  softFits := by decide

def compactor : Compactor where
  projectorTokens text := text.utf8ByteSize
  countTokens text := text.utf8ByteSize
  schemaVersion := version
  summary := none

theorem reduce_view : compactor.reduce view (policy.target true) =
    .ok (without view (ids [oldClaim]), [oldClaim]) := by
  decide +kernel

theorem compact_view : ∃ view' receipt artifacts',
    compactor.compact view policy true ∅ = (.ok (view', some receipt), artifacts') ∧
    receipt.removedItemIds = [oldClaim.itemId] := by
  rcases compactor.compact_empty 298 (contentId_ne (by decide +kernel))
    (by decide +kernel) (by decide) reduce_view (by decide +kernel) (by decide +kernel)
    (by decide +kernel) with ⟨view', receipt, artifacts', hcompact, hremoved, _⟩
  refine ⟨view', receipt, artifacts', hcompact, ?_⟩
  rw [hremoved]
  decide

end Sample

open Sample

/-- A view of three items whose first claim is compacted away. -/
theorem compaction_receipt_replays_claim :
    ∃ view' receipt artifacts' replayed,
      compactor.compact view policy true ∅ =
        (.ok (view', some receipt), artifacts') ∧
      receipt.removedItemIds = [oldClaim.itemId] ∧
      applyCompaction compactor.projectorTokens view receipt = .ok replayed ∧
      view' = { replayed with providerValidityReceipt := view'.providerValidityReceipt } := by
  rcases compact_view with ⟨view', receipt, artifacts', hcompact, hremoved⟩
  rcases compactor.compaction_receipt_replays (by decide) hcompact with
    ⟨replayed, hreplayed, hsame⟩
  exact ⟨view', receipt, artifacts', replayed, hcompact, hremoved, hreplayed, hsame⟩

end NovelAgent.Context
