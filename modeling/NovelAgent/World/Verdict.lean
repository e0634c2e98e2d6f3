import NovelAgent.World.OverlayOrder
import NovelAgent.World.Validation

/-!
# What a Passed Bundle Means

The verdict of the validator, read as a statement about two worlds.
-/

namespace NovelAgent.World

open Core Domain List

section Verdict

variable {policy : StateTransitionPolicy} {bundle : CandidateChangeBundle}
  {canonical proposed : WorldRootDocument} {root : TextRootDocument}
  {canonicalCommit : Option CommitId}

theorem findingWhen_eq_nil {bad : Prop} [Decidable bad] {code message : String} :
    findingWhen bad code message = [] ↔ ¬ bad := by
  unfold findingWhen
  split
  · rename_i h
    simp [h]
  · rename_i h
    simp [h]

theorem statusOf_passed {found : List ValidationFinding} :
    statusOf found = .passed ↔ found = [] := by
  unfold statusOf
  split
  · rename_i h
    simp only [reduceCtorEq, false_iff]
    rintro rfl
    exact absurd h (by simp)
  · split
    · rename_i h
      simp [h]
    · rename_i h
      simpa using h

variable {now : Time}

/-- A bundle passes when every check is silent. -/
theorem validate_passed :
    (validate policy bundle canonical proposed root canonicalCommit now).status = .passed ↔
      findings policy bundle canonical proposed root canonicalCommit = [] := by
  rw [validate]
  exact statusOf_passed

theorem findings_eq_nil :
    findings policy bundle canonical proposed root canonicalCommit = [] ↔
      bundle.baseCommit = canonicalCommit.getD canonical.sourceCommit ∧
      worldRootContentId proposed.schemaVersion proposed.sourceCommit proposed.records =
        proposed.rootHash ∧
      (bundle.observedChanges.operations.map fun operation =>
        (operation.rootKind, operation.targetId)).Nodup ∧
      (∀ operation ∈ bundle.observedChanges.operations, checkEvidence root operation = []) ∧
      (∀ operation ∈ bundle.observedChanges.operations,
        checkRelationWrite proposed operation = []) ∧
      (∀ operation ∈ bundle.observedChanges.operations,
        checkTransition policy canonical proposed root operation = []) ∧
      apply canonical bundle.observedChanges (some bundle.baseCommit) = .ok proposed := by
  have hoverlay : checkOverlay bundle canonical proposed = [] ↔
      apply canonical bundle.observedChanges (some bundle.baseCommit) = .ok proposed := by
    unfold checkOverlay
    split
    · rename_i expected hexpected
      rw [findingWhen_eq_nil, not_not, hexpected, Except.ok.injEq]
    · rename_i error herror
      simp [herror]
  simp only [findings, append_eq_nil_iff, findingWhen_eq_nil, not_not, checkWriteConflicts,
    checkEvidenceAndTruth, checkRelationInvariants, checkTransitionsAndOrder,
    flatMap_eq_nil_iff, hoverlay, and_assoc]

variable {operation : ChangeOperation}

theorem checkEvidence_eq_nil :
    checkEvidence root operation = [] ↔
      operation.evidenceRefs ≠ [] ∧
      ∀ evidence ∈ operation.evidenceRefs, validateEvidenceRef evidence root = .ok () := by
  unfold checkEvidence
  split
  · rename_i h
    simp [h]
  · rename_i h
    rw [flatMap_eq_nil_iff, and_iff_right h]
    refine forall₂_congr fun evidence _ => ?_
    split
    · rename_i hok
      simp [hok]
    · rename_i herror
      simp [herror]

/-- A passed bundle writes no record twice. The conflict check does not ask
    for the kind, so it is stricter than that. -/
theorem distinctTargets_of_passed
    (hnodup : (bundle.observedChanges.operations.map fun operation =>
      (operation.rootKind, operation.targetId)).Nodup)
    (hreadable : Readable bundle.observedChanges.operations) :
    DistinctTargets bundle.observedChanges.operations := by
  have hpairs := pairwise_map.mp hnodup
  refine hpairs.imp_of_mem ?_
  intro a b ha hb hne
  rcases hreadable a ha with ⟨record, hread⟩
  rcases hreadable b hb with ⟨record', hread'⟩
  refine .inr fun heq => hne ?_
  rw [(readRecord_ok hread).1, (readRecord_ok hread').1]
  rw [ChangeOperation.writes, ChangeOperation.writes,
    decode_kind (readRecord_ok hread).2.1, decode_kind (readRecord_ok hread').2.1] at heq
  simp only [Option.map_some, Option.some.injEq, Prod.mk.injEq] at heq
  rw [heq.2]

variable {kind : WorldRecordKind}

theorem recordType_of_kind {payload : JsonValue} (h : recordKind? payload = some kind) :
    payload.get? "record_type" = some (.string kind.value) := by
  simp only [recordKind?, Option.bind_eq_bind, Option.bind_eq_some_iff] at h
  rcases h with ⟨raw, hraw, text, htext, hkind⟩
  have hname : kind.value = text := by simpa using List.find?_some hkind
  rw [hraw, hname]
  cases raw with
  | string value =>
    obtain rfl : value = text := Option.some.inj htext
    rfl
  | _ => exact absurd htext (by simp [JsonValue.string?])

theorem WorldRootDocument.find_eq {world : WorldRootDocument} {record : kind.Record}
    (h : record ∈ world.records kind) : world.find kind (kind.identity record) = some record := by
  rw [WorldRootDocument.find]
  rcases hfound : (world.records kind).find? fun other =>
      kind.identity other = kind.identity record with _ | found
  · have := List.find?_eq_none.mp hfound record h
    exact absurd this (by simp)
  · have hid : kind.identity found = kind.identity record := by simpa using List.find?_some hfound
    exact congrArg some (inj_on_of_nodup_map (world.nodup_identities kind)
      (mem_of_find?_eq_some hfound) h hid)

/-- A change of value under a policy. -/
def StateTransitionPolicy.Allows (policy : StateTransitionPolicy) (old new : StateRecord) : Prop :=
  match policy.rule? old.predicate with
  | none => policy.allowUnlistedPredicates = true
  | some rule => ∃ edge ∈ rule.allowed, edge.leads old.value new.value = true

theorem checkReplacement_of_silent (kind : WorldRecordKind) {new : kind.Record}
    (hreplace : operation.operation = .replace) (hread : readRecord operation = .ok ⟨kind, new⟩)
    (hsilent : checkTransition policy canonical proposed root operation = []) :
    checkReplacement policy kind.value canonical proposed operation = [] := by
  rw [checkTransition, recordType_of_kind (decode_kind (readRecord_ok hread).2.1)] at hsilent
  simp only [append_eq_nil_iff, if_pos hreplace] at hsilent
  exact hsilent.1.2

theorem find_target (kind : WorldRecordKind) {old new : kind.Record}
    (hold : old ∈ canonical.records kind) (hnew : new ∈ proposed.records kind)
    (hid : kind.identity new = kind.identity old) (hread : readRecord operation = .ok ⟨kind, new⟩) :
    canonical.find kind operation.targetId = some old ∧
      proposed.find kind operation.targetId = some new := by
  have htarget : kind.identity new = operation.targetId := (readRecord_ok hread).2.2
  rw [← htarget]
  exact ⟨hid ▸ canonical.find_eq hold, proposed.find_eq hnew⟩

theorem passed_overlay
    (hpassed : (validate policy bundle canonical proposed root canonicalCommit now).status =
      .passed) :
    applyOperations canonical.records bundle.observedChanges.operations = .ok proposed.records ∧
    Readable bundle.observedChanges.operations ∧
    DistinctTargets bundle.observedChanges.operations ∧
    ∀ operation ∈ bundle.observedChanges.operations,
      checkTransition policy canonical proposed root operation = [] := by
  rcases findings_eq_nil.mp (validate_passed.mp hpassed) with ⟨_, _, hnodup, _, _, hsilent, happly⟩
  rcases apply_ok.mp happly with ⟨_, hoperations, _⟩
  have hreadable := (applyOperations_ok.mp hoperations).1
  exact ⟨hoperations, hreadable, distinctTargets_of_passed hnodup hreadable, hsilent⟩

/-- An obligation that stands in both worlds of a passed bundle kept its
    status or moved along the table. -/
theorem passed_obligation
    (hpassed : (validate policy bundle canonical proposed root canonicalCommit now).status =
      .passed) {old new : PlanObligation} (hold : old ∈ canonical.records .obligation)
    (hnew : new ∈ proposed.records .obligation) (hid : new.obligationId = old.obligationId) :
    new.status = old.status ∨ new.status ∈ obligationTransitions old.status := by
  rcases passed_overlay hpassed with ⟨hoperations, _, hdistinct, hsilent⟩
  rcases kept_or_replaced hdistinct hoperations .obligation hold hnew hid with
    rfl | ⟨operation, hoperation, hreplace, hread⟩
  · exact .inl rfl
  · have hcheck := checkReplacement_of_silent .obligation hreplace hread
      (hsilent operation hoperation)
    rcases find_target .obligation hold hnew hid hread with ⟨hfound, hfound'⟩
    simp only [checkReplacement, WorldRecordKind.value, hfound, hfound'] at hcheck
    rw [if_neg (by decide), if_pos trivial, checkObligationTransition, findingWhen_eq_nil] at hcheck
    by_cases hstatus : new.status = old.status
    · exact .inl hstatus
    · exact .inr (by_contra fun hillegal => hcheck ⟨Ne.symm hstatus, hillegal⟩)

/-- A state that stands in both worlds of a passed bundle is the same, or says
    the same of the same subject with a value the policy allows. -/
theorem passed_state
    (hpassed : (validate policy bundle canonical proposed root canonicalCommit now).status =
      .passed) {old new : StateRecord} (hold : old ∈ canonical.records .state)
    (hnew : new ∈ proposed.records .state) (hid : new.stateId = old.stateId) :
    new = old ∨
      (new.subjectId = old.subjectId ∧ new.predicate = old.predicate ∧ policy.Allows old new) := by
  rcases passed_overlay hpassed with ⟨hoperations, _, hdistinct, hsilent⟩
  rcases kept_or_replaced hdistinct hoperations .state hold hnew hid with
    rfl | ⟨operation, hoperation, hreplace, hread⟩
  · exact .inl rfl
  · have hcheck := checkReplacement_of_silent .state hreplace hread
      (hsilent operation hoperation)
    rcases find_target .state hold hnew hid hread with ⟨hfound, hfound'⟩
    simp only [checkReplacement, WorldRecordKind.value, hfound, hfound'] at hcheck
    rw [if_pos trivial, checkStateTransition] at hcheck
    split at hcheck
    · exact absurd hcheck (by simp)
    · rename_i hidentity
      simp only [not_or, not_not] at hidentity
      refine .inr ⟨hidentity.1.symm, hidentity.2.symm, ?_⟩
      unfold StateTransitionPolicy.Allows
      cases hrule : policy.rule? old.predicate with
      | none =>
        simp only [hrule, findingWhen_eq_nil] at hcheck
        simpa using hcheck
      | some rule =>
        simp only [hrule, findingWhen_eq_nil, not_not] at hcheck
        simpa using hcheck

/-- The verdict reads the base and the changes of a bundle and nothing else. -/
theorem validate_congr {other : CandidateChangeBundle} (hbase : other.baseCommit = bundle.baseCommit)
    (hchanges : other.observedChanges = bundle.observedChanges) :
    (validate policy other canonical proposed root canonicalCommit now).status =
      (validate policy bundle canonical proposed root canonicalCommit now).status := by
  simp only [validate, findings, checkWriteConflicts, checkEvidenceAndTruth,
    checkRelationInvariants, checkTransitionsAndOrder, checkOverlay, hbase, hchanges]

theorem buildCandidateBundle_eq_some {projectId : ProjectId} {runId : RunId}
    {manifest : RootManifest} {changes : ObservedChangeSet}
    (h : buildCandidateBundle projectId runId manifest changes proposed = some bundle) :
    bundle.baseCommit = changes.baseCommit ∧ bundle.observedChanges = changes ∧
      bundle.proposedRoots.worldRoot = worldRootRef proposed := by
  obtain ⟨_, _, rfl⟩ := Option.map_eq_some_iff.mp h
  exact ⟨rfl, rfl, rfl⟩

/-- What a passed bundle means: the proposed world is what the operations make of the canonical
    one, and so is the world that the root of a bundle built from it refers to; the base is the
    current one; no record is written twice; every operation carries evidence, all of which holds
    in the text; and every obligation and every state that stands in both worlds has moved as its
    rules allow. -/
theorem validated_bundle (now : Time)
    (hpassed : (validate policy bundle canonical proposed root canonicalCommit now).status =
      .passed) :
    apply canonical bundle.observedChanges (some bundle.baseCommit) = .ok proposed ∧
    (∀ projectId runId manifest,
      buildCandidateBundle projectId runId manifest bundle.observedChanges proposed =
        some bundle →
      ∃ expected, apply canonical bundle.observedChanges (some bundle.baseCommit) =
        .ok expected ∧ bundle.proposedRoots.worldRoot = worldRootRef expected) ∧
    bundle.baseCommit = canonicalCommit.getD canonical.sourceCommit ∧
    (bundle.observedChanges.operations.Pairwise fun a b => a.writes ≠ b.writes) ∧
    (∀ operation ∈ bundle.observedChanges.operations, operation.evidenceRefs ≠ [] ∧
      ∀ evidence ∈ operation.evidenceRefs, validateEvidenceRef evidence root = .ok ()) ∧
    (∀ old ∈ canonical.records .obligation, ∀ new ∈ proposed.records .obligation,
      new.obligationId = old.obligationId →
      new.status = old.status ∨ new.status ∈ obligationTransitions old.status) ∧
    ∀ old ∈ canonical.records .state, ∀ new ∈ proposed.records .state,
      new.stateId = old.stateId →
      new = old ∨
        (new.subjectId = old.subjectId ∧ new.predicate = old.predicate ∧ policy.Allows old new) := by
  rcases findings_eq_nil.mp (validate_passed.mp hpassed) with ⟨hbase, _, _, hevidence, _, _, happly⟩
  rcases passed_overlay hpassed with ⟨_, hreadable, hdistinct, _⟩
  refine ⟨happly, fun _ _ _ hbuilt => ⟨proposed, happly,
      (buildCandidateBundle_eq_some hbuilt).2.2⟩,
    hbase, ?_, fun operation hoperation =>
    checkEvidence_eq_nil.mp (hevidence operation hoperation),
    fun old hold new hnew => passed_obligation hpassed hold hnew,
    fun old hold new hnew => passed_state hpassed hold hnew⟩
  refine hdistinct.imp_of_mem ?_
  intro a b ha _ hab
  rcases hreadable a ha with ⟨record, hread⟩
  exact hab.resolve_left (by simp [writes_of_read hread])

end Verdict

namespace Sample

def block : TextBlock where
  blockId := ⟨"block.1", .refl true⟩
  chapterId := ⟨"chapter.1", .refl true⟩
  sceneId := some ⟨"scene.1", .refl true⟩
  narrativeIndex := 0
  text := "The hero kept the promise."

def text : TextRootDocument where
  rootHash := commit
  schemaVersion := version
  prelude := none
  chapters := [{
    chapterId := ⟨"chapter.1", .refl true⟩
    chapterIndex := 1
    title := none
    scenes := [{
      sceneId := ⟨"scene.1", .refl true⟩
      sceneIndex := 0
      title := none
      blocks := [block]
      valid := by decide }]
    positive := Nat.one_pos
    valid := by decide }]
  valid := by decide

def span : TextSpanRef where
  blockId := ⟨"block.1", .refl true⟩
  rangeUnit := .unicodeCodepoint
  start := 0
  stop := 26
  ordered := by decide

def evidence : EvidenceRef where
  evidenceId := ⟨"evidence.1", .refl true⟩
  rootHash := commit
  objectHash := digest block.text
  chapterId := some ⟨"chapter.1", .refl true⟩
  sceneId := some ⟨"scene.1", .refl true⟩
  span := some span
  quoteHash := some (digest (block.quote span))
  supportStatus := .current
  resolvedAtCommit := commit

theorem evidence_holds : validateEvidenceRef evidence text = .ok () := by
  have hblock : text.block? span.blockId = some block := by decide
  simp only [validateEvidenceRef, evidence, hblock]
  simp [text, block, span]

def promise (status : ObligationStatus) : PlanObligation where
  obligationId := ⟨"obligation.promise", by decide⟩
  kind := .promise
  description := ⟨"The hero promised to return.", by decide⟩
  status := status
  ownerIds := [hero.entityId]
  dueChapter := none
  evidenceRefs := [evidence]

def promiseRecords (status : ObligationStatus) : Collections
  | .entity => [hero]
  | .obligation => [promise status]
  | _ => []

def promiseWorld (status : ObligationStatus) : WorldRootDocument where
  rootHash := worldRootContentId version commit (promiseRecords status)
  schemaVersion := version
  sourceCommit := commit
  records := promiseRecords status
  references := by cases status <;> decide

def promiseOperation (status : ObligationStatus) : ChangeOperation where
  operationId := ⟨"op", .refl true⟩
  rootKind := .world
  operation := .replace
  targetId := ⟨"obligation.promise", by decide⟩
  payload := recordPayload .obligation (promise status)
  evidenceRefs := [evidence]

def bundle (operations : List ChangeOperation) : CandidateChangeBundle where
  bundleId := ⟨"bundle", by decide⟩
  projectId := ⟨"project", .refl true⟩
  runId := ⟨"run", .refl true⟩
  baseCommit := commit
  observedChanges := changes operations
  proposedRoots :=
    let root : ArtifactRef := ⟨commit, "application/json", 0, version⟩
    ⟨⟨"project", .refl true⟩, version, root, root, root, root, root, []⟩
  producedArtifacts := []

@[simp] theorem operations_bundle (operations : List ChangeOperation) :
    (bundle operations).observedChanges.operations = operations := rfl

theorem promise_resolved :
    (validate .structural (bundle [promiseOperation .resolved]) (promiseWorld .open)
      (promiseWorld .resolved) text none 0).status = .passed := by
  refine validate_passed.mpr (findings_eq_nil.mpr ⟨rfl, rfl, ?_, ?_, ?_, ?_, ?_⟩)
  · rw [operations_bundle]
    exact nodup_singleton _
  · intro operation hoperation
    obtain rfl : operation = promiseOperation .resolved := by simpa using hoperation
    refine checkEvidence_eq_nil.mpr ⟨by simp [promiseOperation], ?_⟩
    intro reference hreference
    obtain rfl : reference = evidence := by simpa [promiseOperation] using hreference
    exact evidence_holds
  · intro operation hoperation
    obtain rfl : operation = promiseOperation .resolved := by simpa using hoperation
    rfl
  · intro operation hoperation
    obtain rfl : operation = promiseOperation .resolved := by simpa using hoperation
    have hrecord : checkRecordEvidence "obligation" (promiseOperation .resolved) = [] := by
      refine findingWhen_eq_nil.mpr fun h => h.2 ?_
      rfl
    have htype : (promiseOperation .resolved).payload.get? "record_type" =
        some (.string "obligation") := rfl
    rw [checkTransition, htype]
    simp only [hrecord]
    rfl
  · refine apply_ok.mpr ⟨rfl, applyOperations_ok.mpr ⟨?_, ?_⟩, rfl, rfl, rfl⟩
    · intro operation hoperation
      obtain rfl : operation = promiseOperation .resolved := by simpa using hoperation
      exact ⟨_, readRecord_recordPayload .obligation rfl rfl rfl⟩
    · have hread : readRecord (promiseOperation .resolved) =
          .ok ⟨.obligation, promise .resolved⟩ :=
        readRecord_recordPayload .obligation rfl rfl rfl
      intro kind
      by_cases hkind : WorldRecordKind.obligation = kind
      · subst hkind
        simp only [operations_bundle, editsOf, filterMap_cons, editOf_eq hread,
          filterMap_nil]
        rfl
      · simp only [operations_bundle, editsOf, filterMap_cons, editOf_ne hread hkind,
          filterMap_nil]
        cases kind with
        | obligation => exact absurd rfl hkind
        | _ => rfl

/-- A manifest whose world root is an artifact of the given identity. -/
def manifest (worldRoot : ArtifactId) : RootManifest :=
  { (bundle []).proposedRoots with
    worldRoot := ⟨worldRoot, "application/vnd.novel-agent.world-root+json", 0, version⟩ }

theorem built_isSome : (buildCandidateBundle ⟨"project", .refl true⟩ ⟨"run", .refl true⟩
    (manifest commit) (changes [promiseOperation .resolved]) (promiseWorld .resolved)).isSome =
      true := by
  rfl

/-- The bundle of the world in which the promise is resolved. -/
def built : CandidateChangeBundle := (buildCandidateBundle _ _ _ _ _).get built_isSome

theorem built_eq : buildCandidateBundle ⟨"project", .refl true⟩ ⟨"run", .refl true⟩
    (manifest commit) (changes [promiseOperation .resolved]) (promiseWorld .resolved) =
      some built :=
  (Option.some_get built_isSome).symm

theorem built_passed :
    (validate .structural built (promiseWorld .open) (promiseWorld .resolved) text none 0).status =
      .passed := by
  obtain ⟨hbase, hchanges, _⟩ := buildCandidateBundle_eq_some built_eq
  exact (validate_congr hbase hchanges).trans promise_resolved

/-- The same bundle with a world root of its own. -/
def foreign (worldRoot : ArtifactId) : CandidateChangeBundle :=
  { built with proposedRoots := manifest worldRoot }

def otherId : ArtifactId := ⟨"sha256:" ++ String.ofList (List.replicate 64 '1'), .refl true⟩

theorem foreign_passed (worldRoot : ArtifactId) :
    (validate .structural (foreign worldRoot) (promiseWorld .open) (promiseWorld .resolved) text
      none 0).status = .passed := by
  have hbase : (foreign worldRoot).baseCommit = built.baseCommit := by rw [foreign]
  have hchanges : (foreign worldRoot).observedChanges = built.observedChanges := by rw [foreign]
  exact (validate_congr hbase hchanges).trans built_passed

end Sample

open Sample

/-- The verdict on a bundle that resolves an open promise. -/
theorem validated_bundle_promise :
    (validate .structural built (promiseWorld .open) (promiseWorld .resolved)
      text none 0).status = .passed ∧
    ∃ expected,
      apply (promiseWorld .open) (changes [promiseOperation .resolved])
        (some commit) = .ok expected ∧
      built.proposedRoots.worldRoot = worldRootRef expected :=
  ⟨built_passed, (validated_bundle 0 built_passed).2.1 _ _ _
    (by
      rw [(buildCandidateBundle_eq_some built_eq).2.1]
      exact built_eq)⟩

/-- Bundles that propose two different roots for the same world pass, so one of them proposes
    another root than that of the world its operations make. -/
theorem foreign_root_passes :
    ¬ ∀ (policy : StateTransitionPolicy) (bundle : CandidateChangeBundle)
      (canonical proposed expected : WorldRootDocument) (root : TextRootDocument)
      (canonicalCommit : Option CommitId) (now : Time),
      (validate policy bundle canonical proposed root canonicalCommit now).status = .passed →
      apply canonical bundle.observedChanges (some bundle.baseCommit) = .ok expected →
      bundle.proposedRoots.worldRoot.artifactId = (worldRootRef expected).artifactId := by
  intro h
  have hroot (worldRoot : ArtifactId) :
      worldRoot = (worldRootRef (promiseWorld .resolved)).artifactId := by
    rcases findings_eq_nil.mp (validate_passed.mp (foreign_passed worldRoot)) with
      ⟨_, _, _, _, _, _, happly⟩
    exact h _ (foreign worldRoot) _ _ _ _ _ _ (foreign_passed worldRoot) happly
  have hsame : commit = otherId := (hroot _).trans (hroot _).symm
  exact absurd (congrArg ContentHash.root hsame) (by decide)

end NovelAgent.World
