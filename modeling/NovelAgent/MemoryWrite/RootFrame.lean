import Mathlib.Data.List.Dedup
import NovelAgent.Core.Dedup
import NovelAgent.Core.Outcome
import NovelAgent.MemoryWrite.RootUpdates
import NovelAgent.World.OverlayOrder

/-!
# The Frame of a Materialization

Which roots a materialization replaces, and by what.
-/

namespace NovelAgent.MemoryWrite

open Core Domain List

/-- The documents behind the references of world roots, the reference that a
    document is stored under, and an operation with its payload read. -/
structure WorldStore where
  document : ArtifactRef → World.WorldRootDocument
  store : World.WorldRootDocument → ArtifactRef
  readOperation : ChangeOperation → World.ChangeOperation

namespace WorldStore

variable (worlds : WorldStore)

def readChanges (changes : ObservedChangeSet) : World.ObservedChangeSet :=
  { changeSetId := changes.changeSetId
    baseCommit := changes.baseCommit
    sourceArtifact := changes.sourceArtifact
    operations := changes.operations.map worlds.readOperation }

/-- The world that the overlay makes of a stored one. The base commit of the
    changes has been compared with the basis before. -/
def overlay (world : ArtifactRef) (changes : ObservedChangeSet) :
    Except String World.WorldRootDocument :=
  (World.apply (worlds.document world) (worlds.readChanges changes)
    (some changes.baseCommit)).mapError World.OverlayError.message

end WorldStore

namespace RootUpdateMaterializer

variable (materializer : RootUpdateMaterializer) (worlds : WorldStore)

/-- The materializer whose worlds are built by the overlay. -/
def overlaying : RootUpdateMaterializer :=
  { materializer with
    applyWorld := fun world changes =>
      (worlds.overlay world changes).map fun proposed =>
        (worlds.store proposed, proposed.rootHash = (worlds.document world).rootHash) }

/-- The proposed roots differ from those of the basis exactly as the payload asks. -/
structure AsAsked (payload : MemoryWriteCandidatePayload) (basis : CanonicalWriteBasis)
    (result : RootMaterializationResult) : Prop where
  /-- Every root with an intent holds the artifact of the intent. -/
  intents : ∀ intent ∈ payload.rootUpdateIntents, intent.updateKind ≠ .noop →
    rootForKind result.bundle.proposedRoots intent.rootKind = intent.updateArtifact
  /-- With operations the world root holds the overlay's world. -/
  world : payload.observedChanges.operations ≠ [] →
    ∃ canonical proposed, basis.canonicalWorld = some canonical ∧
      worlds.overlay canonical payload.observedChanges = .ok proposed ∧
      result.bundle.proposedRoots.worldRoot.artifactId = (worlds.store proposed).artifactId
  /-- Every other root is unchanged. -/
  others : ∀ kind, (∀ intent ∈ payload.rootUpdateIntents, intent.rootKind = kind →
      intent.updateKind = .noop) →
    (kind = .world → payload.observedChanges.operations = []) →
      rootForKind result.bundle.proposedRoots kind = rootForKind basis.rootManifest kind
  /-- So is the rest of the manifest, apart from its parent. -/
  rest : result.bundle.proposedRoots.projectId = basis.rootManifest.projectId ∧
    result.bundle.proposedRoots.schemaVersion = basis.rootManifest.schemaVersion ∧
    result.bundle.proposedRoots.parentCommitIds = [basis.commitId]
  /-- The kinds listed are those whose artifact changed. -/
  kinds : ∀ kind, kind ∈ result.changedRootKinds ↔
    (rootForKind result.bundle.proposedRoots kind).artifactId ≠
      (rootForKind basis.rootManifest kind).artifactId
  kinds_nodup : result.changedRootKinds.Nodup

/-- Two intents for one root name one artifact, and an intent for the world names the overlay's
    world, up to what is stored under the same identity where the overlay changed nothing. -/
structure Compatible (payload : MemoryWriteCandidatePayload) (basis : CanonicalWriteBasis) :
    Prop where
  intents : ∀ first ∈ payload.rootUpdateIntents, ∀ second ∈ payload.rootUpdateIntents,
    first.updateKind ≠ .noop → second.updateKind ≠ .noop → first.rootKind = second.rootKind →
      first.updateArtifact = second.updateArtifact
  world : payload.observedChanges.operations ≠ [] → ∀ canonical proposed,
    basis.canonicalWorld = some canonical →
      worlds.overlay canonical payload.observedChanges = .ok proposed →
      ∀ intent ∈ payload.rootUpdateIntents, intent.rootKind = .world → intent.updateKind ≠ .noop →
        intent.updateArtifact = worlds.store proposed ∨
          (worlds.store proposed).artifactId = basis.rootManifest.worldRoot.artifactId ∧
            intent.updateArtifact.artifactId = (worlds.store proposed).artifactId

end RootUpdateMaterializer

@[simp]
theorem rootForKind_replaceRoot (manifest : RootManifest) (root : ArtifactRef)
    (kind other : RootKind) :
    rootForKind (replaceRoot manifest root kind) other =
      if other = kind then root else rootForKind manifest other := by
  cases kind <;> cases other <;> rfl

theorem replaceRoot_rest (manifest : RootManifest) (root : ArtifactRef) (kind : RootKind) :
    (replaceRoot manifest root kind).projectId = manifest.projectId ∧
      (replaceRoot manifest root kind).schemaVersion = manifest.schemaVersion := by
  cases kind <;> exact ⟨rfl, rfl⟩

/-- The intents that put something in the place of a root. -/
def movesOf (kind : RootKind) (intents : List RootUpdateIntent) : List RootUpdateIntent :=
  intents.filter fun intent => intent.rootKind = kind && intent.updateKind ≠ .noop

variable {kind : RootKind}

theorem mem_movesOf {intents : List RootUpdateIntent} {intent : RootUpdateIntent} :
    intent ∈ movesOf kind intents ↔
      intent ∈ intents ∧ intent.rootKind = kind ∧ intent.updateKind ≠ .noop := by
  simp [movesOf]

section Intents

variable {intents : List RootUpdateIntent} {proposed after : ProposedRoots}

theorem applyIntents_cons {intent : RootUpdateIntent}
    (h : applyIntents (intent :: intents) proposed = .ok after) :
    intent.updateKind = .noop ∧ applyIntents intents proposed = .ok after ∨
      intent.updateKind ≠ .noop ∧ ∃ changed produced,
        applyIntents intents
          ⟨replaceRoot proposed.manifest intent.updateArtifact intent.rootKind, changed,
            produced⟩ = .ok after ∧
        changed = if intent.updateArtifact.artifactId ≠
            (rootForKind proposed.manifest intent.rootKind).artifactId then
          proposed.changedRootKinds ++ [intent.rootKind] else proposed.changedRootKinds := by
  unfold applyIntents at h
  simp only at h
  by_cases hbound : rootForKind proposed.manifest intent.rootKind = intent.expectedBaseRoot
  · rw [if_neg (not_not_intro hbound)] at h
    by_cases hnoop : intent.updateKind = .noop
    · rw [if_pos hnoop] at h
      exact .inl ⟨hnoop, h⟩
    · rw [if_neg hnoop] at h
      exact .inr ⟨hnoop, _, _, h, rfl⟩
  · rw [if_pos hbound] at h
    exact absurd h (by simp)

/-- What the intents leave of a root. -/
theorem applyIntents_root (h : applyIntents intents proposed = .ok after) (kind : RootKind) :
    rootForKind after.manifest kind =
      ((movesOf kind intents).getLast?.map RootUpdateIntent.updateArtifact).getD
        (rootForKind proposed.manifest kind) := by
  induction intents generalizing proposed with
  | nil =>
    rw [applyIntents, Except.ok.injEq] at h
    rw [← h]
    rfl
  | cons intent intents ih =>
    rcases applyIntents_cons h with ⟨hnoop, hrest⟩ | ⟨hmoves, changed, produced, hrest, _⟩
    · rw [ih hrest, movesOf, movesOf, filter_cons_of_neg (by simp [hnoop])]
    · rw [ih hrest, rootForKind_replaceRoot]
      by_cases hkind : kind = intent.rootKind
      · rw [if_pos hkind, movesOf, movesOf, filter_cons_of_pos (by simp [hkind, hmoves]),
          List.getLast?_cons, Option.map_some, Option.getD_some]
        cases (intents.filter fun intent =>
          decide (intent.rootKind = kind) && decide (intent.updateKind ≠ .noop)).getLast? <;> rfl
      · rw [if_neg hkind, movesOf, movesOf, filter_cons_of_neg (by simp [Ne.symm hkind])]

theorem applyIntents_rest (h : applyIntents intents proposed = .ok after) :
    after.manifest.projectId = proposed.manifest.projectId ∧
      after.manifest.schemaVersion = proposed.manifest.schemaVersion := by
  induction intents generalizing proposed with
  | nil =>
    rw [applyIntents, Except.ok.injEq] at h
    rw [← h]
    exact ⟨rfl, rfl⟩
  | cons intent intents ih =>
    rcases applyIntents_cons h with ⟨_, hrest⟩ | ⟨_, changed, produced, hrest, _⟩
    · exact ih hrest
    · have htail := ih hrest
      have hhead := replaceRoot_rest proposed.manifest intent.updateArtifact intent.rootKind
      exact ⟨htail.1.trans hhead.1, htail.2.trans hhead.2⟩

/-- Where all intents for a root name one artifact, the root is listed when
    that is another than the root before. -/
theorem applyIntents_changed (h : applyIntents intents proposed = .ok after)
    {artifact : ArtifactRef}
    (hone : ∀ intent ∈ movesOf kind intents, intent.updateArtifact = artifact) :
    kind ∈ after.changedRootKinds ↔ kind ∈ proposed.changedRootKinds ∨
      movesOf kind intents ≠ [] ∧
        artifact.artifactId ≠ (rootForKind proposed.manifest kind).artifactId := by
  induction intents generalizing proposed with
  | nil =>
    rw [applyIntents, Except.ok.injEq] at h
    rw [← h]
    simp [movesOf]
  | cons intent intents ih =>
    rcases applyIntents_cons h with ⟨hnoop, hrest⟩ | ⟨hmoves, changed, produced, hrest, hchanged⟩
    · have hsame : movesOf kind (intent :: intents) = movesOf kind intents := by
        rw [movesOf, movesOf, filter_cons_of_neg (by simp [hnoop])]
      rw [hsame] at hone ⊢
      exact ih hrest hone
    · by_cases hkind : intent.rootKind = kind
      · have hcons : movesOf kind (intent :: intents) = intent :: movesOf kind intents := by
          rw [movesOf, movesOf, filter_cons_of_pos (by simp [hkind, hmoves])]
        rw [hcons, forall_mem_cons] at hone
        have hhead := hone.1
        subst hkind
        rw [ih hrest hone.2, rootForKind_replaceRoot, if_pos rfl, hhead, hcons, hchanged, hhead]
        by_cases hnew : artifact.artifactId ≠
            (rootForKind proposed.manifest intent.rootKind).artifactId
        · simp [hnew]
        · simp [hnew]
      · have hsame : movesOf kind (intent :: intents) = movesOf kind intents := by
          rw [movesOf, movesOf, filter_cons_of_neg (by simp [hkind])]
        rw [hsame] at hone ⊢
        rw [ih hrest hone, rootForKind_replaceRoot, if_neg (Ne.symm hkind), hchanged]
        split <;> simp [Ne.symm hkind]

/-- Where all intents for a root agree, the root is listed exactly when the
    intents left another artifact there. -/
theorem applyIntents_kinds {manifest : RootManifest}
    (h : applyIntents intents ⟨manifest, [], []⟩ = .ok after)
    (hagree : ∀ first ∈ movesOf kind intents, ∀ second ∈ movesOf kind intents,
      first.updateArtifact = second.updateArtifact) :
    kind ∈ after.changedRootKinds ↔
      (rootForKind after.manifest kind).artifactId ≠ (rootForKind manifest kind).artifactId := by
  rw [applyIntents_root h]
  by_cases hmoves : movesOf kind intents = []
  · have hone : ∀ intent ∈ movesOf kind intents,
        intent.updateArtifact = rootForKind manifest kind := by simp [hmoves]
    rw [applyIntents_changed h hone]
    simp [hmoves]
  · have hlast := List.getLast?_eq_getLast_of_ne_nil hmoves
    have hone : ∀ intent ∈ movesOf kind intents,
        intent.updateArtifact = ((movesOf kind intents).getLast hmoves).updateArtifact :=
      fun intent hintent => hagree intent hintent _ (getLast_mem hmoves)
    rw [applyIntents_changed h hone, hlast]
    simp [hmoves]

theorem applyIntents_untouched (h : applyIntents intents proposed = .ok after)
    (hnoop : ∀ intent ∈ intents, intent.rootKind = kind → intent.updateKind = .noop) :
    rootForKind after.manifest kind = rootForKind proposed.manifest kind := by
  have hmoves : movesOf kind intents = [] := by
    rw [movesOf, filter_eq_nil_iff]
    intro intent hintent
    have hthis := hnoop intent hintent
    by_cases hkind : intent.rootKind = kind
    · simp [hthis hkind]
    · simp [hkind]
  rw [applyIntents_root h, hmoves]
  rfl

theorem applyIntents_agreed {intent : RootUpdateIntent}
    (h : applyIntents intents proposed = .ok after)
    (hintent : intent ∈ movesOf intent.rootKind intents)
    (hagree : ∀ first ∈ movesOf intent.rootKind intents,
      first.updateArtifact = intent.updateArtifact) :
    rootForKind after.manifest intent.rootKind = intent.updateArtifact := by
  have hmoves := ne_nil_of_mem hintent
  rw [applyIntents_root h, List.getLast?_eq_getLast_of_ne_nil hmoves]
  exact hagree _ (getLast_mem hmoves)

end Intents

namespace RootUpdateMaterializer

variable {materializer : RootUpdateMaterializer} {worlds : WorldStore}
  {basis : CanonicalWriteBasis} {changes : ObservedChangeSet}
  {payload : MemoryWriteCandidatePayload} {result : RootMaterializationResult}

variable {candidate : CandidateRevision}

theorem materializeAtomicBundle_stages
    (h : materializer.materializeAtomicBundle candidate basis = .ok result)
    (hload : materializer.loadPayload candidate.candidateArtifact = some payload) :
    ∃ intended roots,
      applyIntents payload.rootUpdateIntents ⟨basis.rootManifest, [], []⟩ = .ok intended ∧
      materializer.applyOperations basis payload.observedChanges intended =
        .ok (roots, result.worldMutationNoop) ∧
      result.bundle.proposedRoots = { roots.manifest with parentCommitIds := [basis.commitId] } ∧
      result.changedRootKinds = roots.changedRootKinds.eraseDups := by
  unfold materializeAtomicBundle at h
  by_cases hbase : candidate.baseCommit = basis.commitId
  · simp only [hbase, ne_eq, not_true_eq_false, if_false, hload] at h
    by_cases hchanges : payload.observedChanges.baseCommit = basis.commitId
    · rw [if_neg (not_not_intro hchanges)] at h
      rcases (Outcome.bind_eq_ok _ _ _).mp h with ⟨intended, hintents, hrest⟩
      rcases (Outcome.bind_eq_ok _ _ _).mp hrest with ⟨⟨roots, noop⟩, hworld, hbundle⟩
      simp only at hbundle
      split at hbundle
      · rw [← Except.ok.inj hbundle]
        exact ⟨intended, roots, hintents, hworld, rfl, rfl⟩
      · exact absurd hbundle (by simp)
    · rw [if_pos hchanges] at h
      exact absurd h (by simp)
  · rw [if_pos hbase] at h
    exact absurd h (by simp)

variable {noop : Bool}

/-- The operations leave the roots alone, or put the overlay's world in the
    place of whatever world root they find. -/
theorem applyOperations_ok {proposed after : ProposedRoots}
    (h : (materializer.overlaying worlds).applyOperations basis changes proposed =
      .ok (after, noop)) :
    changes.operations = [] ∧ after = proposed ∨
      changes.operations ≠ [] ∧ ∃ canonical world, basis.canonicalWorld = some canonical ∧
        worlds.overlay canonical changes = .ok world ∧
        ((worlds.store world).artifactId = basis.rootManifest.worldRoot.artifactId ∧
            after = proposed ∨
          (worlds.store world).artifactId ≠ basis.rootManifest.worldRoot.artifactId ∧
            after.manifest = replaceRoot proposed.manifest (worlds.store world) .world ∧
            after.changedRootKinds = proposed.changedRootKinds ++ [.world]) := by
  unfold applyOperations at h
  by_cases hnone : changes.operations = []
  · rw [if_pos (by simp [hnone]), Except.ok.injEq, Prod.mk.injEq] at h
    exact .inl ⟨hnone, h.1.symm⟩
  · rw [if_neg (by simp [hnone])] at h
    refine .inr ⟨hnone, ?_⟩
    cases hcanonical : basis.canonicalWorld with
    | none => simp [hcanonical] at h
    | some canonical =>
      simp only [hcanonical, overlaying] at h
      cases hworld : worlds.overlay canonical changes with
      | error message => simp [hworld, Except.map] at h
      | ok world =>
        simp only [hworld, Except.map] at h
        refine ⟨canonical, world, rfl, hworld, ?_⟩
        by_cases hsame : (worlds.store world).artifactId =
            basis.rootManifest.worldRoot.artifactId
        · rw [if_neg (not_not_intro hsame), Except.ok.injEq, Prod.mk.injEq] at h
          exact .inl ⟨hsame, h.1.symm⟩
        · rw [if_pos hsame, Except.ok.injEq, Prod.mk.injEq] at h
          rw [← h.1]
          exact .inr ⟨hsame, rfl, rfl⟩

theorem applyOperations_overlaid (proposed : ProposedRoots) {canonical : ArtifactRef}
    {world : World.WorldRootDocument} (hsome : changes.operations ≠ [])
    (hcanonical : basis.canonicalWorld = some canonical)
    (hoverlay : worlds.overlay canonical changes = .ok world)
    (hnew : (worlds.store world).artifactId ≠ basis.rootManifest.worldRoot.artifactId) :
    ∃ noop, (materializer.overlaying worlds).applyOperations basis changes proposed =
      .ok (⟨replaceRoot proposed.manifest (worlds.store world) .world,
        proposed.changedRootKinds ++ [.world],
        proposed.producedArtifacts ++ [worlds.store world]⟩, noop) := by
  refine ⟨world.rootHash = (worlds.document canonical).rootHash, ?_⟩
  unfold applyOperations
  rw [if_neg (by simp [hsome])]
  simp only [hcanonical, overlaying, hoverlay, Except.map]
  rw [if_pos hnew]
  rfl

theorem Compatible.agree (h : Compatible worlds payload basis) (kind : RootKind) :
    ∀ first ∈ movesOf kind payload.rootUpdateIntents,
      ∀ second ∈ movesOf kind payload.rootUpdateIntents,
        first.updateArtifact = second.updateArtifact := by
  intro first hfirst second hsecond
  rcases mem_movesOf.mp hfirst with ⟨hmemFirst, hkindFirst, hmovesFirst⟩
  rcases mem_movesOf.mp hsecond with ⟨hmemSecond, hkindSecond, hmovesSecond⟩
  exact h.intents first hmemFirst second hmemSecond hmovesFirst hmovesSecond
    (hkindFirst.trans hkindSecond.symm)

theorem AsAsked.compatible (h : AsAsked worlds payload basis result)
    {intended roots : ProposedRoots}
    (hworld : (materializer.overlaying worlds).applyOperations basis payload.observedChanges
      intended = .ok (roots, noop))
    (hbundle : result.bundle.proposedRoots =
      { roots.manifest with parentCommitIds := [basis.commitId] }) :
    Compatible worlds payload basis := by
  constructor
  · intro first hfirst second hsecond hmovesFirst hmovesSecond hkind
    have hheldFirst := h.intents first hfirst hmovesFirst
    rw [hkind, h.intents second hsecond hmovesSecond] at hheldFirst
    exact hheldFirst.symm
  · intro hoperations canonical proposed hcanonical hoverlay intent hintent hkind hmoves
    have hheld := h.intents intent hintent hmoves
    rw [hkind] at hheld
    rcases applyOperations_ok hworld with ⟨hnone, _⟩ | ⟨_, found, world, hfound, hmade, hcases⟩
    · exact absurd hnone hoperations
    · rw [hcanonical, Option.some.injEq] at hfound
      subst hfound
      rw [hoverlay, Except.ok.injEq] at hmade
      subst hmade
      rcases hcases with ⟨hsame, _⟩ | ⟨_, hmanifest, _⟩
      · rcases h.world hoperations with ⟨again, overlaid, hagain, hoverlaid, hroot⟩
        rw [hcanonical, Option.some.injEq] at hagain
        subst hagain
        rw [hoverlay, Except.ok.injEq] at hoverlaid
        subst hoverlaid
        -- The operations changed nothing, so the intent's artifact stays and
        -- carries the overlay's identity.
        exact .inr ⟨hsame, (congrArg ArtifactRef.artifactId hheld).symm.trans hroot⟩
      · refine .inl (hheld.symm.trans ?_)
        rw [hbundle, hmanifest]
        rfl

theorem rootForKind_parents (manifest : RootManifest) (parents : List CommitId)
    (kind : RootKind) :
    rootForKind { manifest with parentCommitIds := parents } kind = rootForKind manifest kind := by
  cases kind <;> rfl

/-- No update is lost exactly when all of them are compatible. -/
theorem asAsked_iff {candidate : CandidateRevision}
    (h : (materializer.overlaying worlds).materializeAtomicBundle candidate basis = .ok result)
    (hload : materializer.loadPayload candidate.candidateArtifact = some payload) :
    AsAsked worlds payload basis result ↔ Compatible worlds payload basis := by
  rcases materializeAtomicBundle_stages h hload with
    ⟨intended, roots, hintents, hworld, hbundle, hkinds⟩
  refine ⟨fun hasked => hasked.compatible hworld hbundle, fun hcompatible => ?_⟩
  have hroot : ∀ kind, rootForKind result.bundle.proposedRoots kind =
      rootForKind roots.manifest kind := by
    intro kind
    rw [hbundle, rootForKind_parents]
  have hheld : ∀ intent ∈ payload.rootUpdateIntents, intent.updateKind ≠ .noop →
      rootForKind intended.manifest intent.rootKind = intent.updateArtifact := by
    intro intent hintent hmoves
    have hmem := mem_movesOf.mpr ⟨hintent, rfl, hmoves⟩
    exact applyIntents_agreed hintents hmem
      fun first hfirst => hcompatible.agree _ first hfirst intent hmem
  have hchanged : ∀ kind, kind ∈ intended.changedRootKinds ↔
      (rootForKind intended.manifest kind).artifactId ≠
        (rootForKind basis.rootManifest kind).artifactId :=
    fun kind => applyIntents_kinds hintents (hcompatible.agree kind)
  have hrest := applyIntents_rest hintents
  have huntouched : ∀ kind : RootKind, (∀ intent ∈ payload.rootUpdateIntents,
      intent.rootKind = kind → intent.updateKind = .noop) →
      rootForKind intended.manifest kind = rootForKind basis.rootManifest kind :=
    fun _ hnoop => applyIntents_untouched hintents hnoop
  have hnodup : result.changedRootKinds.Nodup := hkinds ▸ nodup_eraseDups _
  have hlisted : ∀ kind, kind ∈ result.changedRootKinds ↔ kind ∈ roots.changedRootKinds := by
    intro kind
    rw [hkinds, mem_eraseDups]
  rcases applyOperations_ok hworld with ⟨hnone, rfl⟩ |
    ⟨hsome, canonical, world, hcanonical, hoverlay, ⟨hsame, rfl⟩ | ⟨hnew, hmanifest, hchangedWorld⟩⟩
  · -- No operations: the intents decide every root.
    exact
      { intents := fun intent hintent hmoves => (hroot _).trans (hheld intent hintent hmoves)
        world := fun hoperations => absurd hnone hoperations
        others := fun kind hnoop _ => (hroot kind).trans (huntouched kind hnoop)
        rest := ⟨hbundle ▸ hrest.1, hbundle ▸ hrest.2, hbundle ▸ rfl⟩
        kinds := fun kind => by rw [hlisted, hroot, hchanged]
        kinds_nodup := hnodup }
  · -- The overlay's world has the identity of the basis, and an intent for the
    -- world keeps that identity.
    refine
      { intents := fun intent hintent hmoves => (hroot _).trans (hheld intent hintent hmoves)
        world := fun _ => ⟨canonical, world, hcanonical, hoverlay, ?_⟩
        others := fun kind hnoop _ => (hroot kind).trans (huntouched kind hnoop)
        rest := ⟨hbundle ▸ hrest.1, hbundle ▸ hrest.2, hbundle ▸ rfl⟩
        kinds := fun kind => by rw [hlisted, hroot, hchanged]
        kinds_nodup := hnodup }
    change (rootForKind result.bundle.proposedRoots .world).artifactId = _
    rw [hroot]
    by_cases hnoop : ∀ intent ∈ payload.rootUpdateIntents, intent.rootKind = .world →
        intent.updateKind = .noop
    · rw [huntouched .world hnoop, hsame]
      rfl
    · push Not at hnoop
      rcases hnoop with ⟨intent, hintent, hkind, hmoves⟩
      have hintended := hheld intent hintent hmoves
      rw [hkind] at hintended
      rw [hintended]
      rcases hcompatible.world hsome canonical world hcanonical hoverlay intent hintent hkind
        hmoves with heq | ⟨_, hid⟩
      · rw [heq]
      · exact hid
  · -- The overlay's world replaces the world root, and an intent for the world
    -- named it already.
    have hfinal : ∀ kind, rootForKind result.bundle.proposedRoots kind =
        if kind = .world then worlds.store world else rootForKind intended.manifest kind := by
      intro kind
      rw [hroot, hmanifest, rootForKind_replaceRoot]
    refine
      { intents := fun intent hintent hmoves => ?_
        world := fun _ => ⟨canonical, world, hcanonical, hoverlay, ?_⟩
        others := fun kind hnoop hnotWorld => ?_
        rest := ?_
        kinds := fun kind => ?_
        kinds_nodup := hnodup }
    · rw [hfinal]
      by_cases hkind : intent.rootKind = .world
      · rw [if_pos hkind]
        rcases hcompatible.world hsome canonical world hcanonical hoverlay intent hintent hkind
          hmoves with heq | ⟨hsame, _⟩
        · exact heq.symm
        · exact absurd hsame hnew
      · rw [if_neg hkind, hheld intent hintent hmoves]
    · exact congrArg ArtifactRef.artifactId (hfinal .world)
    · have hkind : kind ≠ .world := fun hkind => hsome (hnotWorld hkind)
      rw [hfinal, if_neg hkind, huntouched kind hnoop]
    · have hreplaced := replaceRoot_rest intended.manifest (worlds.store world) .world
      rw [hbundle, hmanifest]
      exact ⟨hreplaced.1.trans hrest.1, hreplaced.2.trans hrest.2, rfl⟩
    · rw [hlisted, hchangedWorld, mem_append, mem_singleton, hfinal]
      by_cases hkind : kind = .world
      · subst hkind
        simp only [or_true, if_true, true_iff]
        exact hnew
      · rw [if_neg hkind, hchanged]
        simp [hkind]

end RootUpdateMaterializer

namespace RootUpdateMaterializer.Sample

def baseId : ContentHash := ⟨"sha256:0000000000000000000000000000000000000000000000000000000000000001", by decide⟩

def intendedId : ContentHash := ⟨"sha256:0000000000000000000000000000000000000000000000000000000000000002", by decide⟩

def overlaidId : ContentHash := ⟨"sha256:0000000000000000000000000000000000000000000000000000000000000003", by decide⟩

def rootRef (artifactId : ContentHash) : ArtifactRef :=
  ⟨artifactId, "application/json", 1, ⟨"1.0.0", .refl true⟩⟩

def worlds : WorldStore where
  document := fun _ => World.Sample.world
  store := fun document =>
    rootRef (if document.records .entity = [World.Sample.hero] then baseId else overlaidId)
  readOperation := fun _ => World.Sample.operation .create World.Sample.lamp

def manifest : RootManifest where
  projectId := ⟨"project", .refl true⟩
  schemaVersion := ⟨"1.0.0", .refl true⟩
  textRoot := rootRef baseId
  planRoot := rootRef baseId
  worldRoot := rootRef baseId
  referenceRoot := rootRef baseId
  projectProfileRoot := rootRef baseId
  parentCommitIds := []

def basis : CanonicalWriteBasis where
  projectId := ⟨"project", .refl true⟩
  commitId := baseId
  rootManifest := manifest
  canonicalWorld := some (rootRef baseId)

def intent (kind : RootKind) : RootUpdateIntent where
  intentId := ⟨"intent", by decide⟩
  rootKind := kind
  updateKind := .replace
  expectedBaseRoot := rootRef baseId
  updateArtifact := rootRef intendedId
  producerReceipt := rootRef baseId

/-- A payload that creates the lamp and replaces one root. -/
def payload (kind : RootKind) : MemoryWriteCandidatePayload where
  observedChanges :=
    ⟨⟨"changes", .refl true⟩, baseId, rootRef baseId,
      [⟨⟨"op", .refl true⟩, ⟨"entity.lamp", .refl true⟩, "lamp"⟩]⟩
  rootUpdateIntents := [intent kind]
  commitProfile := .changedRootsOnly
  sourceEvidenceRequirement := none

def materializer (kind : RootKind) : RootUpdateMaterializer where
  loadPayload := fun _ => some (payload kind)
  applyWorld := fun world _ => .ok (world, true)
  manifestHash := fun _ => baseId
  receipt := fun _ _ => rootRef baseId

def candidate : CandidateRevision where
  candidateId := ⟨"candidate", .refl true⟩
  parentCandidateId := none
  revisionNo := 0
  baseCommit := baseId
  basisHash := baseId
  candidateArtifact := rootRef baseId
  sourceArtifacts := []
  sourceEvidenceRequirement := none
  producerKind := .curatorPropose
  producerReceipt := none
  originProposalAttemptId := none
  repairScope := none
  appliedDirectiveIds := []
  supersedesCandidateId := none
  contentHash := baseId
  createdAt := 0

/-- The sample world's records with the lamp. -/
def lit : World.Collections :=
  Function.update World.Sample.world.records .entity [World.Sample.hero, World.Sample.lamp]

theorem overlay_lamp (kind : RootKind) : ∃ proposed,
    worlds.overlay (rootRef baseId) (payload kind).observedChanges = .ok proposed ∧
      worlds.store proposed = rootRef overlaidId := by
  have hread : World.readRecord (World.Sample.operation .create World.Sample.lamp) =
      .ok ⟨.entity, World.Sample.lamp⟩ :=
    World.readRecord_recordPayload .entity rfl rfl rfl
  have happlied : World.applyOperation World.Sample.world.records
      (World.Sample.operation .create World.Sample.lamp) = .ok lit := by
    rw [World.applyOperation, hread]
    rfl
  have happly : World.applyOperations (worlds.document (rootRef baseId)).records
      (worlds.readChanges (payload kind).observedChanges).operations = .ok lit := by
    change World.applyOperations World.Sample.world.records
      [World.Sample.operation .create World.Sample.lamp] = .ok lit
    rw [World.applyOperations, foldlM_cons, happlied]
    rfl
  have hbasis : (worlds.readChanges (payload kind).observedChanges).baseCommit =
      (some baseId).getD (worlds.document (rootRef baseId)).sourceCommit := rfl
  rcases World.exists_apply _ hbasis happly (by decide) with ⟨proposed, hproposed, hrecords⟩
  refine ⟨proposed, ?_, ?_⟩
  · rw [WorldStore.overlay]
    change (World.apply _ _ (some baseId)).mapError World.OverlayError.message = _
    rw [hproposed]
    rfl
  · change rootRef (if proposed.records .entity = [World.Sample.hero] then baseId
      else overlaidId) = _
    rw [hrecords, if_neg (by decide)]

/-- The sample candidate materializes with the overlay's world. -/
theorem materializes (kind : RootKind) : ∃ result,
    ((materializer kind).overlaying worlds).materializeAtomicBundle candidate basis =
      .ok result ∧ result.bundle.proposedRoots.worldRoot = rootRef overlaidId := by
  rcases overlay_lamp kind with ⟨proposed, hoverlay, hstore⟩
  have hintents : ∃ changed produced,
      applyIntents (payload kind).rootUpdateIntents ⟨manifest, [], []⟩ =
        .ok ⟨replaceRoot manifest (rootRef intendedId) kind, changed, produced⟩ := by
    cases kind <;> exact ⟨_, _, rfl⟩
  rcases hintents with ⟨changed, produced, hintents⟩
  have hnew : (worlds.store proposed).artifactId ≠ basis.rootManifest.worldRoot.artifactId := by
    rw [hstore]
    decide
  have hoperations : ∃ noop, ((materializer kind).overlaying worlds).applyOperations basis
      (payload kind).observedChanges
        ⟨replaceRoot manifest (rootRef intendedId) kind, changed, produced⟩ =
      .ok (⟨replaceRoot (replaceRoot manifest (rootRef intendedId) kind) (worlds.store proposed)
        .world, changed ++ [.world], produced ++ [worlds.store proposed]⟩, noop) :=
    applyOperations_overlaid _ (by simp [payload]) rfl hoverlay hnew
  rcases hoperations with ⟨noop, hoperations⟩
  have hload : ((materializer kind).overlaying worlds).loadPayload candidate.candidateArtifact =
      some (payload kind) := rfl
  have hok : (((materializer kind).overlaying worlds).materializeAtomicBundle candidate
      basis).isOk = true := by
    unfold materializeAtomicBundle
    rw [if_neg (by decide)]
    simp only [hload]
    rw [if_neg (by simp [payload, basis]), show basis.rootManifest = manifest from rfl, hintents]
    simp only [bind, Except.bind, hoperations]
    rfl
  cases hresult : ((materializer kind).overlaying worlds).materializeAtomicBundle candidate
      basis with
  | error message =>
    rw [hresult] at hok
    exact absurd hok (by simp [Except.isOk, Except.toBool])
  | ok result =>
    refine ⟨result, rfl, ?_⟩
    rcases materializeAtomicBundle_stages hresult hload with
      ⟨intended, roots, hintended, hroots, hbundle, _⟩
    rw [show basis.rootManifest = manifest from rfl, hintents, Except.ok.injEq] at hintended
    rw [← hintended, hoperations, Except.ok.injEq, Prod.mk.injEq] at hroots
    rw [hbundle, ← hroots.1]
    exact hstore

/-- An intent for the text root and the operations both arrive. -/
theorem asAsked_iff_sample : ∃ result,
    ((materializer .text).overlaying worlds).materializeAtomicBundle candidate basis =
      .ok result ∧ AsAsked worlds (payload .text) basis result := by
  rcases materializes .text with ⟨result, hresult, _⟩
  have hcompatible : Compatible worlds (payload .text) basis := by
    refine ⟨fun first hfirst second hsecond _ _ _ => ?_, fun _ _ _ _ _ other hother hworld => ?_⟩
    · rw [mem_singleton.mp hfirst, mem_singleton.mp hsecond]
    · rw [mem_singleton.mp hother] at hworld
      cases hworld
  exact ⟨result, hresult, (asAsked_iff hresult rfl).mpr hcompatible⟩

/-- An intent for the world root is overwritten by the operations. -/
theorem world_intent_overwritten : ∃ result,
    ((materializer .world).overlaying worlds).materializeAtomicBundle candidate basis =
      .ok result ∧
    ¬ AsAsked worlds (payload .world) basis result := by
  rcases materializes .world with ⟨result, hresult, hroot⟩
  refine ⟨result, hresult, fun hasked => ?_⟩
  have hheld := hasked.intents (intent .world) (mem_singleton.mpr rfl) (by decide)
  change result.bundle.proposedRoots.worldRoot = rootRef intendedId at hheld
  rw [hroot] at hheld
  exact absurd hheld (by decide)

end RootUpdateMaterializer.Sample

end NovelAgent.MemoryWrite
