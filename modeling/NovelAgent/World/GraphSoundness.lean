import Mathlib.Algebra.GroupWithZero.Nat
import NovelAgent.Core.Outcome
import NovelAgent.World.GraphPass
import NovelAgent.World.Verdict

/-!
# The Graph Pass Is Additive and Sound

What the pass adds to the world, and that it adds nothing else.
-/

namespace NovelAgent.World

open Core Domain List Outcome

/-- A reference into the text holds: it is not out of date, and the span, the
    place and both hashes agree with the text. -/
def EvidenceRef.Verifies (text : TextRootDocument) (evidence : EvidenceRef) : Prop :=
  (evidence.supportStatus = .current ∨ evidence.supportStatus = .historical) ∧
    ∃ span block, evidence.span = some span ∧ block ∈ text.blocks ∧
      block.blockId = span.blockId ∧ span.stop ≤ block.text.toList.length ∧
      evidence.chapterId = some block.chapterId ∧ evidence.sceneId = block.sceneId ∧
      evidence.objectHash = digest block.text ∧
      evidence.quoteHash = some (digest (block.quote span))

/-- A relation between two different entities, under a predicate that may
    stand between them, with evidence that holds. -/
structure Admissible (text : TextRootDocument) (entities : List Entity)
    (relation : RelationRecord) : Prop where
  distinct : relation.subjectId ≠ relation.objectId
  evidenced : relation.evidenceRefs ≠ []
  verifies : ∀ evidence ∈ relation.evidenceRefs, evidence.Verifies text
  typed : ∃ definition ∈ PredicateRegistry.definitions,
    definition.predicate = relation.predicate.text ∧
    (∃ subject ∈ entities, subject.entityId = relation.subjectId ∧
      PredicateRegistry.typeAllowed subject.entityType.text definition.allowedSubjectTypes) ∧
    ∃ object ∈ entities, object.entityId = relation.objectId ∧
      PredicateRegistry.typeAllowed object.entityType.text definition.allowedObjectTypes

section

variable {text : TextRootDocument}

theorem evidenceText_ok {evidence : EvidenceRef} {quoted : String}
    (h : evidenceText text evidence = .ok quoted) : evidence.Verifies text := by
  unfold evidenceText at h
  split at h
  · exact absurd h (by simp)
  · rename_i hstatus
    split at h
    · exact absurd h (by simp)
    · rename_i span hspan
      split at h
      · exact absurd h (by simp)
      · rename_i block hblock
        split at h
        · exact absurd h (by simp)
        · rename_i hplace
          split at h
          · exact absurd h (by simp)
          · rename_i hquote
            simp only [not_or, not_not, not_lt] at hplace
            have hcurrent : evidence.supportStatus = .current ∨
                evidence.supportStatus = .historical := by
              by_contra hneither
              exact hstatus (not_or.mp hneither)
            have hid : block.blockId = span.blockId := by
              simpa using List.find?_some hblock
            exact ⟨hcurrent, span, block, hspan, mem_of_find?_eq_some hblock, hid,
              hplace.1, hplace.2.1, hplace.2.2.1, hplace.2.2.2, not_not.mp hquote⟩

theorem validateEvidence_ok {evidenceRefs : List EvidenceRef} {quoted : List String}
    (h : validateEvidence text evidenceRefs = .ok quoted) :
    evidenceRefs ≠ [] ∧ ∀ evidence ∈ evidenceRefs, evidence.Verifies text := by
  unfold validateEvidence at h
  split at h
  · exact absurd h (by simp)
  · rename_i hrefs
    refine ⟨hrefs, ?_⟩
    clear hrefs
    -- The induction is on the references; the texts they quote are general.
    induction evidenceRefs generalizing quoted with
    | nil =>
      intro evidence hevidence
      exact absurd hevidence not_mem_nil
    | cons first rest ih =>
      rw [mapM_cons, Outcome.bind_eq_ok] at h
      rcases h with ⟨text', hfirst, h⟩
      rw [Outcome.bind_eq_ok] at h
      rcases h with ⟨texts, hrest, _⟩
      intro evidence hevidence
      rcases mem_cons.mp hevidence with rfl | hevidence
      · exact evidenceText_ok hfirst
      · exact ih hrest evidence hevidence

variable {entities : List Entity}

theorem requireEntity_ok {id : StableId} {entity : Entity}
    (h : requireEntity entities id = .ok entity) : entity ∈ entities ∧ entity.entityId = id := by
  unfold requireEntity at h
  split at h
  · exact absurd h (by simp)
  · rename_i found hfound
    rw [← Except.ok.inj h]
    rw [entityById, List.findRev?_eq_find?_reverse] at hfound
    refine ⟨mem_reverse.mp (mem_of_find?_eq_some hfound), ?_⟩
    simpa using List.find?_some hfound

theorem PredicateRegistry.validateEntityTypes_ok {predicate subjectType objectType : String}
    (h : validateEntityTypes predicate subjectType objectType = .ok ()) :
    ∃ definition ∈ definitions, definition.predicate = predicate ∧
      typeAllowed subjectType definition.allowedSubjectTypes ∧
      typeAllowed objectType definition.allowedObjectTypes := by
  rw [validateEntityTypes, Outcome.bind_eq_ok] at h
  rcases h with ⟨definition, hrequire, h⟩
  unfold require at hrequire
  split at hrequire
  · exact absurd hrequire (by simp)
  · rename_i found hfound
    rw [Except.ok.injEq] at hrequire
    subst hrequire
    refine ⟨found, mem_of_find?_eq_some hfound, by simpa using List.find?_some hfound, ?_⟩
    rw [ite_throw_bind_eq_ok, ite_throw_eq_ok] at h
    exact ⟨by simpa using h.1, by simpa using h.2.1⟩

variable {candidate : WorldGraphRelationCandidate} {subjectId objectId : StableId}

/-- A candidate that passes the checks is evidenced, and its predicate may
    stand between the endpoints. -/
theorem checkRelationCandidate_ok
    (h : checkRelationCandidate entities text candidate (some subjectId) (some objectId) = .ok ()) :
    (candidate.evidenceRefs ≠ [] ∧ ∀ evidence ∈ candidate.evidenceRefs, evidence.Verifies text) ∧
    ∃ definition ∈ PredicateRegistry.definitions,
      definition.predicate = candidate.predicate.text ∧
      (∃ subject ∈ entities, subject.entityId = subjectId ∧
        PredicateRegistry.typeAllowed subject.entityType.text definition.allowedSubjectTypes) ∧
      ∃ object ∈ entities, object.entityId = objectId ∧
        PredicateRegistry.typeAllowed object.entityType.text definition.allowedObjectTypes := by
  rw [checkRelationCandidate, Outcome.bind_eq_ok] at h
  rcases h with ⟨_, _, h⟩
  rw [Outcome.bind_eq_ok] at h
  rcases h with ⟨quoted, hquoted, h⟩
  rw [ite_throw_bind_eq_ok, ite_throw_bind_eq_ok] at h
  have htypes := h.2.2
  rw [checkEndpointTypes, Outcome.bind_eq_ok] at htypes
  rcases htypes with ⟨subject, hsubject, htypes⟩
  rw [Outcome.bind_eq_ok] at htypes
  rcases htypes with ⟨object, hobject, htypes⟩
  rcases PredicateRegistry.validateEntityTypes_ok htypes with
    ⟨definition, hmem, hname, hsubjectType, hobjectType⟩
  rcases requireEntity_ok hsubject with ⟨hsubjectMem, hsubjectId⟩
  rcases requireEntity_ok hobject with ⟨hobjectMem, hobjectId⟩
  exact ⟨validateEvidence_ok hquoted, definition, hmem, hname,
    ⟨subject, hsubjectMem, hsubjectId, hsubjectType⟩,
    object, hobjectMem, hobjectId, hobjectType⟩

variable {subjectResolution objectResolution : EntityAliasResolutionReceipt}

theorem relationReason_eq_none {subjectId objectId : Option StableId}
    (h : relationReason entities text candidate subjectResolution objectResolution subjectId
      objectId = none) :
    subjectId ≠ objectId ∧
      checkRelationCandidate entities text candidate subjectId objectId = .ok () := by
  unfold relationReason at h
  split at h
  · exact absurd h (by simp)
  · exact absurd h (by simp)
  · rename_i hendpoints hchecks
    refine ⟨?_, hchecks⟩
    intro heq
    simp only [endpointReason, heq] at hendpoints
    split at hendpoints
    · exact absurd hendpoints (by simp)
    · split at hendpoints
      · exact absurd hendpoints (by simp)
      · split at hendpoints
        · exact absurd hendpoints (by simp)
        · simp at hendpoints

variable {receipt : RelationBackfillReceipt}

theorem relationReceipt_ok {status : RelationBackfillStatus}
    {subjectId objectId relationId : Option StableId} {reason : Option String}
    (h : relationReceipt candidate status subjectResolution objectResolution subjectId objectId
      relationId reason = .ok receipt) : receipt.candidateId = candidate.candidateId := by
  unfold relationReceipt at h
  split at h
  · exact absurd h (by simp)
  · rw [← Except.ok.inj h]

variable {relationsByKey : RelationsByKey} {relation : Option RelationRecord}

/-- What the admission of a candidate without a reason against it returns: a
    receipt for the candidate, and a relation only under a new key. -/
theorem admitRelation_ok
    (h : admitRelation relationsByKey candidate subjectResolution objectResolution subjectId
      objectId = .ok (receipt, relation)) :
    receipt.candidateId = candidate.candidateId ∧
    ∀ accepted ∈ relation, relationsByKey.lookup accepted.key = none ∧
      accepted.predicate = candidate.predicate ∧ accepted.subjectId = subjectId ∧
      accepted.objectId = objectId ∧ accepted.evidenceRefs = candidate.evidenceRefs := by
  unfold admitRelation at h
  dsimp only at h
  split at h
  · rw [Outcome.bind_eq_ok] at h
    rcases h with ⟨built, hbuilt, h⟩
    rw [Outcome.pure_eq_ok, Prod.mk.injEq] at h
    rcases h with ⟨rfl, rfl⟩
    exact ⟨relationReceipt_ok hbuilt, by simp⟩
  · rename_i hlookup
    rw [Outcome.bind_eq_ok] at h
    rcases h with ⟨definition, _, h⟩
    split at h
    · rw [Outcome.bind_eq_ok] at h
      rcases h with ⟨built, hbuilt, h⟩
      rw [Outcome.pure_eq_ok, Prod.mk.injEq] at h
      rcases h with ⟨rfl, rfl⟩
      exact ⟨relationReceipt_ok hbuilt, by simp⟩
    · rw [Outcome.bind_eq_ok] at h
      rcases h with ⟨built, hbuilt, h⟩
      rw [Outcome.pure_eq_ok, Prod.mk.injEq] at h
      rcases h with ⟨rfl, rfl⟩
      refine ⟨relationReceipt_ok hbuilt, ?_⟩
      intro accepted haccepted
      rw [Option.mem_some] at haccepted
      subst haccepted
      exact ⟨hlookup, rfl, rfl, rfl, rfl⟩

variable {casefold : String → String} {rootHash : ArtifactId} {candidateMap : EntityCandidateMap}

/-- One relation candidate: a receipt for it, and a relation only if it is
    admissible and its key is new. -/
theorem admitRelationCandidate_ok
    (h : admitRelationCandidate casefold rootHash entities text relationsByKey candidateMap
      candidate = .ok (receipt, relation)) :
    receipt.candidateId = candidate.candidateId ∧
    ∀ accepted ∈ relation, relationsByKey.lookup accepted.key = none ∧
      Admissible text entities accepted := by
  rw [admitRelationCandidate, Outcome.bind_eq_ok] at h
  rcases h with ⟨subjectResolution, _, h⟩
  rw [Outcome.bind_eq_ok] at h
  rcases h with ⟨objectResolution, _, h⟩
  dsimp only at h
  split at h
  · rw [Outcome.bind_eq_ok] at h
    rcases h with ⟨built, hbuilt, h⟩
    rw [Outcome.pure_eq_ok, Prod.mk.injEq] at h
    rcases h with ⟨rfl, rfl⟩
    exact ⟨relationReceipt_ok hbuilt, by simp⟩
  · rename_i hreason
    split at h
    · rename_i subjectId objectId hsubject hobject
      rw [hsubject, hobject] at hreason
      rcases relationReason_eq_none hreason with ⟨hne, hchecks⟩
      rcases checkRelationCandidate_ok hchecks with ⟨⟨hevidenced, hverifies⟩, htyped⟩
      rcases admitRelation_ok h with ⟨hid, haccepted⟩
      refine ⟨hid, ?_⟩
      intro accepted hmem
      rcases haccepted accepted hmem with ⟨hnew, hpredicate, rfl, rfl, hevidence⟩
      rw [← hpredicate] at htyped
      rw [← hevidence] at hevidenced hverifies
      exact ⟨hnew, fun heq => hne (congrArg some heq), hevidenced, hverifies, htyped⟩
    · exact absurd h (by simp [throw, throwThe, MonadExceptOf.throw])

theorem admitEntityCandidate_ok {candidate : WorldGraphEntityCandidate}
    {receipt : EntityAdmissionReceipt} {entity : Option Entity}
    (h : admitEntityCandidate casefold rootHash entities text candidate = .ok (receipt, entity)) :
    receipt.candidateId = candidate.candidateId := by
  rw [admitEntityCandidate, Outcome.bind_eq_ok] at h
  rcases h with ⟨resolution, _, h⟩
  have hreceipt : ∀ {built : EntityAdmissionReceipt} {created : Option Entity},
      (pure (built, created) : Except GraphError _) = .ok (receipt, entity) → built = receipt := by
    intro built created hpure
    exact (Prod.mk.inj ((Outcome.pure_eq_ok _ _).mp hpure)).1
  -- Every branch builds its receipt from the candidate.
  split at h
  · rw [← hreceipt h]
    rfl
  · split at h
    · rw [← hreceipt h]
      rfl
    · split at h
      · split at h
        · exact absurd h (by simp [throw, throwThe, MonadExceptOf.throw])
        · split at h
          · rw [← hreceipt h]
            rfl
          · rw [← hreceipt h]
            rfl
      · split at h
        · rw [← hreceipt h]
          rfl
        · dsimp only at h
          split at h
          · split at h
            · rw [← hreceipt h]
              rfl
            · rw [← hreceipt h]
              rfl
          · rw [← hreceipt h]
            rfl

/-- Operations that create records of one kind and do nothing else. -/
structure Creates (kind : WorldRecordKind) (records : List kind.Record)
    (operations : List ChangeOperation) : Prop where
  own : editsOf kind operations = records.map (Keyed.Edit.mk .create)
  others : ∀ other, kind ≠ other → editsOf other operations = []

namespace Creates

variable {kind : WorldRecordKind}

theorem nil : Creates kind [] [] := ⟨rfl, fun _ _ => rfl⟩

theorem append {records records' : List kind.Record} {operations operations' : List ChangeOperation}
    (h : Creates kind records operations) (h' : Creates kind records' operations') :
    Creates kind (records ++ records') (operations ++ operations') := by
  constructor
  · rw [editsOf, filterMap_append, map_append]
    exact congrArg₂ _ h.own h'.own
  · intro other hother
    rw [editsOf, filterMap_append]
    exact congrArg₂ _ (h.others other hother) (h'.others other hother)

theorem toList (kind : WorldRecordKind) {operation : kind.Record → ChangeOperation}
    (hread : ∀ record, readRecord (operation record) = .ok ⟨kind, record⟩)
    (hcreate : ∀ record, (operation record).operation = .create) (record : Option kind.Record) :
    Creates kind record.toList (record.toList.map operation) := by
  cases record with
  | none => exact nil
  | some record =>
    have hedit : editOf kind (operation record) = some ⟨.create, record⟩ := by
      rw [editOf_eq (hread record), hcreate]
      rfl
    constructor
    · simp [editsOf, hedit]
    · intro other hother
      simp [editsOf, editOf_ne (hread record) hother]

end Creates

/-- What the loop over the entity candidates has done after some of them. -/
def EntitiesAdmitted (world : WorldRootDocument) (candidates : List WorldGraphEntityCandidate)
    (phase : EntityPhase) : Prop :=
  (∃ created, phase.admitted = world.records .entity ++ created ∧
    Creates .entity created phase.operations) ∧
  phase.receipts.map EntityAdmissionReceipt.candidateId =
    candidates.map WorldGraphEntityCandidate.candidateId

variable {world : WorldRootDocument} {basis : CommitId}

theorem entityStep_admitted {batchId : StableId} {candidates : List WorldGraphEntityCandidate}
    {candidate : WorldGraphEntityCandidate} {phase phase' : EntityPhase}
    (h : EntitiesAdmitted world candidates phase)
    (hstep : entityStep casefold world.rootHash text basis batchId phase candidate = .ok phase') :
    EntitiesAdmitted world (candidates ++ [candidate]) phase' := by
  rw [entityStep, Outcome.bind_eq_ok] at hstep
  rcases hstep with ⟨⟨receipt, entity⟩, hadmits, hstep⟩
  rw [Outcome.pure_eq_ok] at hstep
  subst hstep
  rcases h with ⟨⟨created, hadmitted, hcreates⟩, hreceipts⟩
  constructor
  · have hentity : Creates .entity entity.toList
        (entity.toList.map fun entity => entityOperation entity candidate basis) :=
      Creates.toList .entity (fun _ => readRecord_recordPayload _ rfl rfl rfl) (fun _ => rfl) entity
    refine ⟨created ++ entity.toList, ?_, hcreates.append hentity⟩
    rw [hadmitted, append_assoc]
  · rw [map_append, map_append, hreceipts, map_singleton, map_singleton,
      admitEntityCandidate_ok hadmits]

variable {batches : List WorldGraphCandidateBatch}

/-- The loop over the entity candidates admits soundly. -/
theorem runEntities_admitted {phase : EntityPhase}
    (h : runEntities casefold world text basis batches = .ok phase) :
    EntitiesAdmitted world (batches.flatMap WorldGraphCandidateBatch.entities) phase := by
  refine foldlM_induct
    (motive := fun batches phase =>
      EntitiesAdmitted world (batches.flatMap WorldGraphCandidateBatch.entities) phase) ?_ [] ?_ h
  · intro before batch phase phase' hbefore hbatch
    rw [flatMap_append, flatMap_singleton]
    refine foldlM_induct
      (motive := fun candidates phase => EntitiesAdmitted world candidates phase) ?_ _ hbefore
      hbatch
    intro candidates candidate phase phase' hphase hstep
    exact entityStep_admitted hphase hstep
  · exact ⟨⟨[], (append_nil _).symm, Creates.nil⟩, rfl⟩

/-- What the loop over the relation candidates has done after some of them. -/
structure RelationsAdmitted (world : WorldRootDocument) (entities : List Entity)
    (text : TextRootDocument) (candidates : List WorldGraphRelationCandidate)
    (accepted : List RelationRecord) (phase : RelationPhase) : Prop where
  creates : Creates .relation accepted phase.operations
  admissible : ∀ relation ∈ accepted, Admissible text entities relation
  entered : ∀ relation ∈ world.records .relation ++ accepted,
    (phase.relationsByKey.lookup relation.key).isSome
  nodup : (accepted.map RelationRecord.key).Nodup
  fresh : ∀ relation ∈ accepted, ∀ base ∈ world.records .relation, base.key ≠ relation.key
  receipts : phase.receipts.map RelationBackfillReceipt.candidateId =
    candidates.map WorldGraphRelationCandidate.candidateId

theorem isSome_lookup_enterRelations (relations : List RelationRecord)
    (relationsByKey : RelationsByKey) (key : RelationKey) :
    ((enterRelations relationsByKey relations).lookup key).isSome ↔
      (relationsByKey.lookup key).isSome ∨ ∃ relation ∈ relations, relation.key = key := by
  induction relations generalizing relationsByKey with
  | nil => simp [enterRelations]
  | cons first rest ih =>
    have hcons : enterRelations relationsByKey (first :: rest) =
        enterRelations (relationsByKey.insert first.key first) rest := rfl
    rw [hcons, ih, Table.lookup_insert_if]
    by_cases hkey : key = first.key
    · simp [hkey]
    · simp [hkey, Ne.symm hkey]

theorem relationStep_admitted {candidates : List WorldGraphRelationCandidate}
    {phase phase' : RelationPhase}
    (h : ∃ accepted, RelationsAdmitted world entities text candidates accepted phase)
    (hstep : relationStep casefold world.rootHash entities text basis candidateMap phase
      candidate = .ok phase') :
    ∃ accepted, RelationsAdmitted world entities text (candidates ++ [candidate]) accepted
      phase' := by
  rw [relationStep, Outcome.bind_eq_ok] at hstep
  rcases hstep with ⟨⟨receipt, relation⟩, hadmits, hstep⟩
  rw [Outcome.pure_eq_ok] at hstep
  subst hstep
  rcases h with ⟨accepted, h⟩
  rcases admitRelationCandidate_ok hadmits with ⟨hid, hrelation⟩
  have hcreates : Creates .relation relation.toList
      (relation.toList.map fun relation => relationOperation relation candidate basis) :=
    Creates.toList .relation (fun _ => readRecord_recordPayload _ rfl rfl rfl) (fun _ => rfl) relation
  -- A key that is entered already is not the key of the new relation.
  have hnew : ∀ new ∈ relation, ∀ other ∈ world.records .relation ++ accepted,
      other.key ≠ new.key := by
    intro new hmem other hother heq
    have hentered := h.entered other hother
    rw [heq, (hrelation new hmem).1] at hentered
    exact absurd hentered (by simp)
  refine ⟨accepted ++ relation.toList, h.creates.append hcreates, ?_, ?_, ?_, ?_, ?_⟩
  · intro other hother
    rcases mem_append.mp hother with hother | hother
    · exact h.admissible other hother
    · exact (hrelation other (Option.mem_toList.mp hother)).2
  · intro other hother
    rw [isSome_lookup_enterRelations]
    rw [← append_assoc] at hother
    rcases mem_append.mp hother with hother | hother
    · exact Or.inl (h.entered other hother)
    · exact Or.inr ⟨other, hother, rfl⟩
  · cases relation with
    | none => simpa using h.nodup
    | some new =>
      rw [Option.toList_some, map_append, map_singleton]
      refine h.nodup.append (nodup_singleton _) ?_
      rw [disjoint_singleton]
      intro hmem
      rcases mem_map.mp hmem with ⟨other, hother, heq⟩
      exact hnew new rfl other (mem_append_right _ hother) heq
  · intro other hother base hbase
    rcases mem_append.mp hother with hother | hother
    · exact h.fresh other hother base hbase
    · exact hnew other (Option.mem_toList.mp hother) base (mem_append_left _ hbase)
  · rw [map_append, map_append, h.receipts, map_singleton, map_singleton, hid]

theorem runRelations_admitted {phase : RelationPhase}
    (h : runRelations casefold world entities text basis candidateMap batches = .ok phase) :
    ∃ accepted, RelationsAdmitted world entities text
      (batches.flatMap WorldGraphCandidateBatch.relations) accepted phase := by
  refine foldlM_induct
    (motive := fun batches phase => ∃ accepted, RelationsAdmitted world entities text
      (batches.flatMap WorldGraphCandidateBatch.relations) accepted phase) ?_ [] ?_ h
  · intro before batch phase phase' hbefore hbatch
    rw [flatMap_append, flatMap_singleton]
    refine foldlM_induct
      (motive := fun candidates phase =>
        ∃ accepted, RelationsAdmitted world entities text candidates accepted phase)
      ?_ _ hbefore hbatch
    intro candidates candidate phase phase' hphase hstep
    exact relationStep_admitted hphase hstep
  · refine ⟨[], Creates.nil, by simp, ?_, nodup_nil, by simp, rfl⟩
    intro relation hrelation
    rw [append_nil] at hrelation
    rw [isSome_lookup_enterRelations]
    exact Or.inr ⟨relation, hrelation, rfl⟩

/-- Every candidate is accepted, rejected or a duplicate, and not two of these. -/
theorem count_admissionStatuses (entityAdmissions : List EntityAdmissionReceipt)
    (candidates : List RelationBackfillReceipt) :
    (admissionStatuses entityAdmissions candidates).countP
          (fun status => status ∈ acceptedStatuses) +
        (admissionStatuses entityAdmissions candidates).count "rejected" +
        (admissionStatuses entityAdmissions candidates).count "deduped" =
      entityAdmissions.length + candidates.length := by
  have hsplit : ∀ statuses : List String,
      (∀ status ∈ statuses, status ∈ ["accepted", "created", "reused", "rejected", "deduped"]) →
      statuses.countP (fun status => status ∈ acceptedStatuses) + statuses.count "rejected" +
        statuses.count "deduped" = statuses.length := by
    intro statuses hstatuses
    induction statuses with
    | nil => rfl
    | cons status statuses ih =>
      rw [forall_mem_cons] at hstatuses
      have hrest := ih hstatuses.2
      have hone : (if status ∈ acceptedStatuses then 1 else 0) +
          (if status = "rejected" then 1 else 0) + (if status = "deduped" then 1 else 0) = 1 := by
        have hmem := hstatuses.1
        simp only [mem_cons, not_mem_nil, or_false] at hmem
        rcases hmem with rfl | rfl | rfl | rfl | rfl <;> decide
      simp only [countP_cons, count_cons, length_cons, decide_eq_true_eq,
        beq_iff_eq]
      omega
  rw [hsplit, admissionStatuses, length_append, length_map, length_map]
  intro status hstatus
  rcases mem_append.mp hstatus with hstatus | hstatus
  · rcases mem_map.mp hstatus with ⟨admission, _, rfl⟩
    cases admission.status <;> decide
  · rcases mem_map.mp hstatus with ⟨candidate, _, rfl⟩
    cases candidate.status <;> decide

/-- The repaired world is the world with entities and relations added. -/
structure Extends (world repaired : WorldRootDocument) (entities : List Entity)
    (relations : List RelationRecord) : Prop where
  entity : repaired.records .entity = world.records .entity ++ entities
  relation : repaired.records .relation = world.records .relation ++ relations
  event : repaired.records .event = world.records .event
  state : repaired.records .state = world.records .state
  obligation : repaired.records .obligation = world.records .obligation

theorem extends_of_apply {world repaired : WorldRootDocument} {changes : ObservedChangeSet}
    {commit : Option CommitId} {relations : List RelationRecord}
    {entityOperations relationOperations : List ChangeOperation}
    (hentities : Creates .entity entities entityOperations)
    (hrelations : Creates .relation relations relationOperations)
    (hchanges : changes.operations = entityOperations ++ relationOperations)
    (happly : apply world changes commit = .ok repaired) :
    Extends world repaired entities relations := by
  have hedits := (applyOperations_ok.mp (apply_ok.mp happly).2.1).2
  have hsplit : ∀ kind, editsOf kind changes.operations =
      editsOf kind entityOperations ++ editsOf kind relationOperations := by
    intro kind
    rw [hchanges, editsOf, filterMap_append]
    rfl
  -- A kind without edits keeps its records.
  have hkept : ∀ kind, WorldRecordKind.entity ≠ kind → WorldRecordKind.relation ≠ kind →
      repaired.records kind = world.records kind := by
    intro kind hentity hrelation
    have hkind := hedits kind
    rw [hsplit, hentities.others kind hentity, hrelations.others kind hrelation] at hkind
    exact (Option.some.inj hkind).symm
  refine ⟨?_, ?_, hkept .event (by decide) (by decide), hkept .state (by decide) (by decide),
    hkept .obligation (by decide) (by decide)⟩
  · have hkind := hedits .entity
    rw [hsplit, hentities.own, hrelations.others .entity (by decide), append_nil] at hkind
    exact Keyed.edits_create hkind
  · have hkind := hedits .relation
    rw [hsplit, hentities.others .relation (by decide), hrelations.own, nil_append] at hkind
    exact Keyed.edits_create hkind

variable {candidateBatches : List WorldGraphCandidateBatch} {baseCommit : Option CommitId}
    {result : WorldGraphExtractionResult}

theorem run_ok
    (h : WorldGraphExtractionPass.run casefold world text candidateBatches baseCommit =
      .ok result) :
    ∃ stateBatch entities relations,
      stateCandidateBatch casefold world text (baseCommit.getD world.sourceCommit) =
        .ok stateBatch ∧
      result.candidateBatches =
        (if stateBatch.relations = [] then [] else [stateBatch]) ++ candidateBatches ∧
      runEntities casefold world text (baseCommit.getD world.sourceCommit)
        result.candidateBatches = .ok entities ∧
      runRelations casefold world entities.admitted text (baseCommit.getD world.sourceCommit)
        entities.candidateMap result.candidateBatches = .ok relations ∧
      result.changeSet = graphChangeSet text (baseCommit.getD world.sourceCommit)
        result.candidateBatches (entities.operations ++ relations.operations) ∧
      apply world result.changeSet (some (baseCommit.getD world.sourceCommit)) =
        .ok result.repairedWorld ∧
      result.receipt = extractionReceipt world result.repairedWorld
        (baseCommit.getD world.sourceCommit) result.candidateBatches entities.receipts
        relations.receipts := by
  rw [WorldGraphExtractionPass.run, Outcome.bind_eq_ok] at h
  rcases h with ⟨stateBatch, hstate, h⟩
  rw [ite_throw_bind_eq_ok, Outcome.bind_eq_ok] at h
  rcases h with ⟨_, entities, hentities, h⟩
  rw [Outcome.bind_eq_ok] at h
  rcases h with ⟨relations, hrelations, h⟩
  rw [Outcome.bind_eq_ok] at h
  rcases h with ⟨repaired, happly, h⟩
  rw [mapError_eq_ok] at happly
  dsimp only at h
  split at h
  · exact absurd h (by simp [throw, throwThe, MonadExceptOf.throw])
  · rw [Outcome.pure_eq_ok] at h
    subst h
    exact ⟨stateBatch, entities, relations, hstate, rfl, hentities, hrelations, rfl, happly, rfl⟩

/-- The pass adds entities and relations and changes nothing else. Every relation it adds stands
    between two different entities of the repaired world, under a registered predicate that admits
    their types, with evidence that holds in the text, and shares its key with no other relation.
    Every candidate, of the given batches and of the batch that the states make, has its receipt,
    and the counts add up to the number of candidates. -/
theorem graph_pass_additive {casefold : String → String} {world : WorldRootDocument}
    {text : TextRootDocument} {candidateBatches : List WorldGraphCandidateBatch}
    {baseCommit : Option CommitId} {result : WorldGraphExtractionResult}
    (h : WorldGraphExtractionPass.run casefold world text candidateBatches baseCommit =
      .ok result) :
    (∃ entities relations,
      Extends world result.repairedWorld entities relations ∧
      ∀ relation ∈ relations,
        Admissible text (result.repairedWorld.records .entity) relation ∧
        ∀ other ∈ result.repairedWorld.records .relation,
          other.key = relation.key → other = relation) ∧
    (∃ stateBatch,
      stateCandidateBatch casefold world text (baseCommit.getD world.sourceCommit) =
        .ok stateBatch ∧
      result.candidateBatches =
        (if stateBatch.relations = [] then [] else [stateBatch]) ++ candidateBatches) ∧
    result.receipt.entityAdmissions.map EntityAdmissionReceipt.candidateId =
      (result.candidateBatches.flatMap WorldGraphCandidateBatch.entities).map
        WorldGraphEntityCandidate.candidateId ∧
    result.receipt.candidates.map RelationBackfillReceipt.candidateId =
      (result.candidateBatches.flatMap WorldGraphCandidateBatch.relations).map
        WorldGraphRelationCandidate.candidateId ∧
    result.receipt.acceptedCount + result.receipt.rejectedCount + result.receipt.dedupedCount =
      (result.candidateBatches.map WorldGraphCandidateBatch.size).sum := by
  rcases run_ok h with
    ⟨stateBatch, entities, relations, hstate, hbatches, hentities, hrelations, hchanges, happly,
      hreceipt⟩
  rcases runEntities_admitted hentities with ⟨⟨created, hadmitted, hcreates⟩, hentityReceipts⟩
  rcases runRelations_admitted hrelations with ⟨accepted, haccepted⟩
  have hextends : Extends world result.repairedWorld created accepted :=
    extends_of_apply hcreates haccepted.creates (by rw [hchanges]; rfl) happly
  refine ⟨⟨created, accepted, hextends, ?_⟩, ⟨stateBatch, hstate, hbatches⟩, ?_, ?_, ?_⟩
  · intro relation hrelation
    constructor
    · rw [hextends.entity, ← hadmitted]
      exact haccepted.admissible relation hrelation
    · intro other hother hkey
      rw [hextends.relation] at hother
      rcases mem_append.mp hother with hother | hother
      · exact absurd hkey (haccepted.fresh relation hrelation other hother)
      · exact inj_on_of_nodup_map haccepted.nodup hother hrelation hkey
  · rw [hreceipt]
    exact hentityReceipts
  · rw [hreceipt]
    exact haccepted.receipts
  · have hentityCount := congrArg List.length hentityReceipts
    have hrelationCount := congrArg List.length haccepted.receipts
    rw [length_map, length_map] at hentityCount hrelationCount
    have hsize : ∀ batches : List WorldGraphCandidateBatch,
        (batches.map WorldGraphCandidateBatch.size).sum =
          (batches.flatMap WorldGraphCandidateBatch.entities).length +
            (batches.flatMap WorldGraphCandidateBatch.relations).length := by
      intro batches
      induction batches with
      | nil => rfl
      | cons batch batches ih =>
        simp only [map_cons, sum_cons, ih, flatMap_cons, length_append,
          WorldGraphCandidateBatch.size]
        omega
    rw [hreceipt, hsize, ← hentityCount, ← hrelationCount]
    exact count_admissionStatuses entities.receipts relations.receipts

end

namespace Sample

def lower (text : String) : String := String.ofList (text.toList.map Char.toLower)

def graphBatch : WorldGraphCandidateBatch where
  batchId := ⟨"batch.1", by decide⟩
  sourceTextRoot := commit
  baseCommit := commit
  chapterIndex := none
  sourceUnitId := none
  pageIndex := 0
  unitStatus := .complete
  incompleteReason := none
  sourceCandidateIds := []
  exactEvidenceCandidateIds := []
  candidateKeys := []
  dedupedCandidateKeys := []
  policyVersion := ⟨"v1", by decide⟩
  modelRequestId := none
  entities := [{
    candidateId := ⟨"candidate.promise", by decide⟩
    sourceBatchId := ⟨"batch.1", by decide⟩
    surface := ⟨"promise", by decide⟩
    entityType := ⟨"object", by decide⟩
    evidenceRefs := [evidence]
    supportStatus := .supported
    supportReason := ⟨"quoted", by decide⟩ }]
  relations := [{
    candidateId := ⟨"candidate.owns", by decide⟩
    sourceBatchId := ⟨"batch.1", by decide⟩
    sourceStateId := none
    subjectSurface := ⟨"hero", by decide⟩
    predicate := ⟨"owns", by decide⟩
    objectSurface := ⟨"promise", by decide⟩
    validTime := ⟨⟨"main", main_ne⟩, none, none, none, rfl⟩
    evidenceRefs := [evidence]
    sourceTruthClass := .acceptedWorldFact
    supportStatus := .supported
    supportReason := ⟨"quoted", by decide⟩ }]
  valid := .refl true

theorem run_graphBatch :
    ((WorldGraphExtractionPass.run lower world text [graphBatch] none).toOption.map fun result =>
      (result.receipt.acceptedCount, (result.repairedWorld.records .entity).length,
        (result.repairedWorld.records .relation).length)) = some (2, 2, 1) := by
  decide +kernel

end Sample

open Sample

theorem graph_pass_additive_promise :
    ∃ result,
      WorldGraphExtractionPass.run lower world text [graphBatch] none =
        .ok result ∧
      (∃ entity relation, result.repairedWorld.records .entity = [hero, entity] ∧
        result.repairedWorld.records .relation = [relation] ∧
        Admissible text [hero, entity] relation) ∧
      result.receipt.acceptedCount = 2 ∧
      (result.candidateBatches.map WorldGraphCandidateBatch.size).sum =
        2 + result.receipt.rejectedCount + result.receipt.dedupedCount := by
  rcases ok_of_map run_graphBatch with ⟨result, hresult, hfound⟩
  rcases Prod.mk.inj hfound with ⟨haccepted, hcounts⟩
  rcases Prod.mk.inj hcounts with ⟨hentityCount, hrelationCount⟩
  rcases graph_pass_additive hresult with
    ⟨⟨entities, relations, hextends, hrelations⟩, _, _, _, hsum⟩
  have hentity : result.repairedWorld.records .entity = [hero] ++ entities :=
    hextends.entity
  have hrelation : result.repairedWorld.records .relation = [] ++ relations :=
    hextends.relation
  rw [hentity, length_append, length_singleton] at hentityCount
  rw [hrelation, nil_append] at hrelationCount
  have hone : entities.length = 1 := by omega
  rcases length_eq_one_iff.mp hone with ⟨entity, rfl⟩
  rcases length_eq_one_iff.mp hrelationCount with ⟨relation, rfl⟩
  refine ⟨result, hresult, ⟨entity, relation, hentity, hrelation, ?_⟩, haccepted, ?_⟩
  · have hadmissible := (hrelations relation (mem_singleton_self _)).1
    rwa [hentity] at hadmissible
  · rw [← hsum, haccepted]

end NovelAgent.World
