import NovelAgent.R1.Faithful

/-!
# Paths That Pass the Check

From a receipt back to the world.
-/

namespace NovelAgent.R1

open Core Domain World List

/-- The relation that a step follows. -/
structure States (world : WorldRootDocument) (step : PathStep) (relation : RelationRecord) :
    Prop where
  member : relation ∈ world.records .relation
  identity : relation.relationId = step.relationId
  predicate : relation.predicate.text = step.predicate
  accepted : relation.truthClass = .acceptedWorldFact
  ends : (relation.subjectId, relation.objectId) = step.ends

variable {registry : Registry} {tables tables' rows : R1Tables} {projectId : ProjectId}
    {sourceCommit : CommitId} {world : WorldRootDocument} {plan : Option PlanRootDocument}
    {count : Nat} {row : R1RecordRow} {step : PathStep}

theorem mem_of_sameDict {tables : R1Tables} (hbinary : Binary tables row) {source target : String}
    (h : sameDict (endpoints tables.associations row.rowId)
      [("subject", source), ("object", target)] = true) :
    ⟨row.rowId, source, "subject"⟩ ∈ tables.associations ∧
      ⟨row.rowId, target, "object"⟩ ∈ tables.associations := by
  obtain ⟨subject, object, hperm⟩ := hbinary.ends
  have hmem : ∀ association ∈ [(⟨row.rowId, subject, "subject"⟩ : R1RecordEntityRow),
      ⟨row.rowId, object, "object"⟩], association ∈ tables.associations :=
    fun association hlisted => mem_of_mem_filter (hperm.mem_iff.mpr hlisted)
  have hends : subject = source ∧ object = target := by
    rcases endpoints_of_perm hperm with hread | hread
    · rw [hread] at h
      simpa [sameDict, lookup_cons] using h
    · rw [hread] at h
      simpa [sameDict, lookup_cons] using h
  obtain ⟨rfl, rfl⟩ := hends
  exact ⟨hmem _ (by simp), hmem _ (by simp)⟩

theorem ends_of_refersTo {relation : RelationRecord} {id : StableId} {role : String}
    (h : RefersTo .relation relation id role) :
    (role = "subject" → id = relation.subjectId) ∧ (role = "object" → id = relation.objectId) := by
  cases h with
  | source => exact ⟨fun _ => rfl, fun hrole => absurd hrole (by decide)⟩
  | target => exact ⟨fun hrole => absurd hrole (by decide), fun _ => rfl⟩

theorem relation_of_bound (hbefore : Materialized tables)
    (h : materialize registry tables projectId sourceCommit world plan = .ok (tables', count))
    (hsame : SameRows tables' rows) (hbound : Bound rows sourceCommit step row) :
    ∃ relation, States world step relation := by
  have hfaithful := replaced_faithful hbefore.written.owned h
  have hstored : row ∈ tables'.records := hsame.records.mem_iff.mpr hbound.stored
  have hbinary : Binary rows row := by
    obtain ⟨hpredicate, subject, object, hends⟩ :=
      (written_materialize hbefore.written h).binary row hstored hbound.relation
    exact ⟨hpredicate, subject, object, (hsame.associations.filter _).symm.trans hends⟩
  -- The row is one of those that were just written, and it is not of another kind.
  rcases (mem_commit_rows h).mp ⟨hstored, hbound.commit⟩ with ⟨spec, hspec, rfl⟩
  rcases (hfaithful.records _ hstored hbound.commit .relation hbound.relation).exists with
    ⟨relation, hrelation, hof⟩
  obtain rfl : spec = relationSpec relation := eq_of_rowOf hspec hrelation hof
  obtain ⟨hsubject, hobject⟩ := mem_of_sameDict hbinary hbound.ends
  have hrefers := hfaithful.participants .relation relation hrelation _ hstored hof
  have hends : relation.subjectId = step.ends.1 ∧ relation.objectId = step.ends.2 := by
    rcases (hrefers _).mp ⟨hsame.associations.mem_iff.mpr hsubject, rfl⟩ with ⟨id, role, hid, heq⟩
    rcases (hrefers _).mp ⟨hsame.associations.mem_iff.mpr hobject, rfl⟩ with
      ⟨id', role', hid', heq'⟩
    simp only [R1RecordEntityRow.mk.injEq, true_and, StableId.root_inj] at heq heq'
    rw [heq.1, heq'.1]
    exact ⟨((ends_of_refersTo hid).1 heq.2.symm).symm, ((ends_of_refersTo hid').2 heq'.2.symm).symm⟩
  refine ⟨relation, hrelation, StableId.root_inj.mp hbound.record, Option.some.inj hbound.predicate,
    ?_, Prod.ext hends.1 hends.2⟩
  have haccepted : relation.truthClass.value = TruthClass.acceptedWorldFact.value :=
    Option.some.inj hbound.accepted
  cases htruth : relation.truthClass <;> rw [htruth] at haccepted <;>
    first | rfl | exact absurd haccepted (by decide)

/-- Whatever was materialized before, and in whatever order the rows are read: a receipt of a
    commit that passes the check over its rows has one step for each relation that it names, and
    each of them states an accepted relation of the world that the commit was materialized from. -/
theorem checked_paths_are_relations (hbefore : Materialized tables)
    (h : materialize registry tables projectId sourceCommit world plan = .ok (tables', count))
    (hsame : SameRows tables' rows) (text : TextRootDocument)
    (receipts verified : List GraphPathReceipt) :
    validateGraphPathReceipts rows receipts text = .ok verified →
      ∀ path ∈ receipts, path.sourceCommit = sourceCommit →
        path.steps.map PathStep.relationId = path.relationIds ∧
        ∀ step ∈ path.steps, ∃ relation, States world step relation := by
  rintro hchecked path hpath rfl
  rw [validateGraphPathReceipts_eq] at hchecked
  obtain ⟨one, hone⟩ := (Outcome.mapM_returns _ _).mp ⟨verified, hchecked⟩ path hpath
  refine ⟨path.steps_parts.2.1, fun step hstep => ?_⟩
  obtain ⟨row, hbound⟩ := (derivable_of_checkReceipt hone).bound step hstep
  exact relation_of_bound hbefore h hsame hbound

namespace Sample

def keeps : RelationRecord where
  relationId := ⟨"relation.keeps", .refl true⟩
  predicate := ⟨"keeps", by decide⟩
  subjectId := World.Sample.hero.entityId
  objectId := World.Sample.lamp.entityId
  validTime := ⟨⟨"main", main_ne⟩, none, none, none, .refl true⟩
  evidenceRefs := [World.Sample.evidence]
  truthClass := .acceptedWorldFact

def keepsWorld : WorldRootDocument := { World.Sample.world with
  records := fun
    | .entity => [World.Sample.hero, World.Sample.lamp]
    | .relation => [keeps]
    | _ => []
  references := by decide }

def keepsRow : StableId := rowIdOf World.Sample.commit "relation" keeps.relationId

def keepsPath : GraphPathReceipt where
  pathId := graphPathId World.Sample.commit ada [keepsRow] [keeps.subjectId, keeps.objectId]
    [.forward]
  sourceCommit := World.Sample.commit
  snapshotId := ada
  seedEntityIds := [keeps.subjectId]
  relationRowIds := [keepsRow]
  relationIds := [keeps.relationId]
  entityPath := [keeps.subjectId, keeps.objectId]
  predicates := ["keeps"]
  directions := [.forward]
  validTime := [keeps.validTime]
  edgeSemantics := ["canonical"]
  evidenceRefs := keeps.evidenceRefs
  dereferenceStatus := .l0Verified
  shaped := by decide

def keepsStep : PathStep :=
  ⟨keepsRow, keeps.relationId, "keeps", .forward, keeps.subjectId, keeps.objectId⟩

end Sample

open Sample

theorem checked_paths_are_relations_keeps : ∃ step, keepsPath.steps = [step] ∧
    ∃ relation, States keepsWorld step relation := by
  have hends : (materialize registry noTables novel World.Sample.commit
      keepsWorld none).toOption.map (fun written => endpoints written.1.associations
        keepsRow.root) = some [("subject", "entity.hero"), ("object", "entity.lamp")] := by
    decide +kernel
  obtain ⟨⟨tables, count⟩, hwritten, hends⟩ := Outcome.ok_of_map hends
  have hrow := ((mem_commit_rows hwritten).mpr ⟨relationSpec keeps,
    mem_specs.mpr (.inl ⟨.relation, keeps, mem_singleton_self _, rfl⟩), rfl⟩).1
  have hfound : dereference tables.records tables.associations World.Sample.text
      World.Sample.commit keepsStep = .ok keeps.evidenceRefs :=
    dereference_eq_ok.mpr ⟨_, hrow, rfl, rfl, rfl, rfl, rfl, rfl,
      (congrArg (sameDict · _) hends).trans (by decide), evidenceRefs_dump rfl, by decide,
      by decide⟩
  have hsteps : keepsPath.steps.mapM (dereference tables.records tables.associations
      World.Sample.text World.Sample.commit) = .ok [keeps.evidenceRefs] := by
    rw [show keepsPath.steps = [keepsStep] from rfl, mapM_cons, hfound]
    rfl
  have hchecked : validateGraphPathReceipts tables [keepsPath] World.Sample.text =
      .ok [keepsPath.verified] := by
    rw [validateGraphPathReceipts_eq, mapM_cons,
      checkReceipt_eq_ok.mpr ⟨rfl, ⟨_, hsteps, rfl⟩, rfl⟩]
    rfl
  have hstates := checked_paths_are_relations .empty hwritten ⟨.refl _, .refl _⟩ World.Sample.text
    [keepsPath] _ hchecked _ (mem_singleton_self _) rfl
  exact ⟨_, rfl, hstates.2 _ (mem_singleton_self _)⟩

end NovelAgent.R1
