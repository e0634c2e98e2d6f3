import NovelAgent.Core.Outcome
import NovelAgent.World.Overlay

/-!
# The Order of Operations

Operations on different records may be applied in any order.
-/

namespace NovelAgent.World

open Core Domain List

/-- The kind and target of an operation. -/
def ChangeOperation.writes (operation : ChangeOperation) : Option (WorldRecordKind × StableId) :=
  (recordKind? operation.payload).map fun kind => (kind, operation.targetId)

/-- No two operations write the same record. -/
def DistinctTargets (operations : List ChangeOperation) : Prop :=
  operations.Pairwise fun a b => a.writes = none ∨ a.writes ≠ b.writes

/-- Nothing in a list of operations writes the record. -/
def Untouched (operations : List ChangeOperation) (kind : WorldRecordKind) (id : StableId) : Prop :=
  ∀ operation ∈ operations, operation.writes ≠ some (kind, id)

instance (operations : List ChangeOperation) (kind : WorldRecordKind) (id : StableId) :
    Decidable (Untouched operations kind id) :=
  inferInstanceAs (Decidable (∀ operation ∈ operations, _))

/-- Two worlds over one base that hold the same records, with only the records
    that the base does not have in different positions. Each carries the
    address of its own content, positions included. -/
structure AgreeUpToCreated (base first second : WorldRootDocument) : Prop where
  schemaVersion : first.schemaVersion = second.schemaVersion
  sourceCommit : first.sourceCommit = second.sourceCommit
  addressed : ∀ world ∈ [first, second], world.rootHash =
    worldRootContentId world.schemaVersion world.sourceCommit world.records
  records : ∀ kind, ∃ kept created created' : List kind.Record,
    first.records kind = kept ++ created ∧ second.records kind = kept ++ created' ∧
    created.Perm created' ∧
    ∀ record ∈ created, kind.identity record ∉ (base.records kind).map kind.identity

variable {record : AnyRecord}

theorem decode_kind {payload : JsonValue} (h : decode payload = some record) :
    recordKind? payload = some record.1 := by
  unfold decode at h
  cases hkind : recordKind? payload with
  | none => simp [hkind] at h
  | some kind =>
    simp only [hkind, Option.bind_eq_bind, Option.bind_some, Option.bind_eq_some_iff] at h
    rcases h with ⟨_, _, _, _, _, _, h⟩
    rw [← Option.some.inj h]

section

variable {operation : ChangeOperation}

theorem writes_of_read (h : readRecord operation = .ok record) :
    operation.writes = some (record.1, record.1.identity record.2) := by
  rcases readRecord_ok h with ⟨_, hdecode, hidentity⟩
  rw [ChangeOperation.writes, decode_kind hdecode, hidentity]
  rfl

variable {kind : WorldRecordKind}

variable {e : Keyed.Edit kind.Record}

theorem editOf_some (h : editOf kind operation = some e) :
    readRecord operation = .ok ⟨kind, e.record⟩ ∧ e.action = operation.operation.action := by
  unfold editOf at h
  split at h
  · exact absurd h (by simp)
  · rename_i record hread
    split at h
    · rename_i hkind
      rcases record with ⟨kind', record⟩
      obtain rfl : kind' = kind := hkind
      rw [← Option.some.inj h]
      exact ⟨hread, rfl⟩
    · exact absurd h (by simp)

variable {operations : List ChangeOperation}

theorem mem_editsOf (h : e ∈ editsOf kind operations) :
    ∃ operation ∈ operations, readRecord operation = .ok ⟨kind, e.record⟩ ∧
      e.action = operation.operation.action := by
  rcases mem_filterMap.mp h with ⟨operation, hoperation, hedit⟩
  exact ⟨operation, hoperation, editOf_some hedit⟩

/-- Distinct targets make distinct edits of each kind. -/
theorem nodup_editsOf (h : DistinctTargets operations) (kind : WorldRecordKind) :
    ((editsOf kind operations).map fun e => kind.identity e.record).Nodup := by
  have hpairs : (editsOf kind operations).Pairwise fun a b =>
      kind.identity a.record ≠ kind.identity b.record := by
    refine Pairwise.filterMap (editOf kind) ?_ h
    intro a b hab e he e' he' heq
    have ha := writes_of_read (editOf_some he).1
    have hb := writes_of_read (editOf_some he').1
    rcases hab with hnone | hne
    · rw [hnone] at ha
      exact absurd ha (by simp)
    · exact hne (by rw [ha, hb, heq])
  exact pairwise_map.mpr hpairs

/-- The document's rules do not look at positions. -/
theorem validateReferences_perm {a b : Collections} (h : ∀ kind, (a kind).Perm (b kind))
    (ha : a.validateReferences = none) : b.validateReferences = none := by
  rw [Collections.validateReferences_eq_none] at ha ⊢
  have hentities := (h .entity).map Entity.entityId
  have hrecords : a.recordIds.Perm b.recordIds :=
    ((((h .event).map _).append ((h .state).map _)).append ((h .relation).map _)).append
      ((h .obligation).map _)
  have hreferenced : a.referenced.Perm b.referenced :=
    (((((h .event).flatMap_right _).append ((h .state).map _)).append
      ((h .relation).map _)).append ((h .relation).map _)).append ((h .obligation).flatMap_right _)
  refine ⟨hentities.nodup_iff.mp ha.1, hrecords.nodup_iff.mp ha.2.1, fun id hid => ?_⟩
  exact hentities.mem_iff.mp (ha.2.2 id (hreferenced.mem_iff.mpr hid))

variable {records : Collections}

variable {world : WorldRootDocument}

/-- The records of a proposed world, by kind: those of the base as the edits
    leave them, and the created ones. -/
theorem applyOperations_records (hdistinct : DistinctTargets operations)
    (h : applyOperations world.records operations = .ok records) (kind : WorldRecordKind) :
    (∀ e ∈ editsOf kind operations, Keyed.Applicable kind.identity (world.records kind) e) ∧
    records kind = (world.records kind).filterMap
        (Keyed.after kind.identity (editsOf kind operations)) ++
      Keyed.created (editsOf kind operations) :=
  Keyed.edits_some (world.nodup_identities kind) (nodup_editsOf hdistinct kind)
    ((applyOperations_ok.mp h).2 kind)

theorem applyOperations_perm {operations operations' : List ChangeOperation}
    (hdistinct : DistinctTargets operations) (hperm : operations.Perm operations')
    (h : applyOperations world.records operations = .ok records) :
    applyOperations world.records operations' = .ok fun kind =>
      (world.records kind).filterMap (Keyed.after kind.identity (editsOf kind operations)) ++
        Keyed.created (editsOf kind operations') := by
  rcases applyOperations_ok.mp h with ⟨hreadable, hedits⟩
  refine applyOperations_ok.mpr ⟨fun operation hoperation => ?_, fun kind => ?_⟩
  · exact hreadable operation (hperm.mem_iff.mpr hoperation)
  · exact Keyed.edits_perm (world.nodup_identities kind) (nodup_editsOf hdistinct kind)
      (hperm.filterMap _) (hedits kind)

theorem distinctTargets_perm {operations operations' : List ChangeOperation}
    (h : DistinctTargets operations) (hperm : operations.Perm operations') :
    DistinctTargets operations' := by
  refine hperm.pairwise h ?_
  intro a b hab
  rcases hab with hnone | hne
  · by_cases hb : b.writes = none
    · exact .inl hb
    · exact .inr fun heq => hb (heq.trans hnone)
  · exact .inr hne.symm

theorem created_notMem {records : List kind.Record} {es : List (Keyed.Edit kind.Record)}
    (happ : ∀ e ∈ es, Keyed.Applicable kind.identity records e) {record : kind.Record}
    (h : record ∈ Keyed.created es) : kind.identity record ∉ records.map kind.identity := by
  rw [Keyed.created, mem_map] at h
  rcases h with ⟨e, he, rfl⟩
  rw [mem_filter, decide_eq_true_eq] at he
  have hcreate := happ e he.1
  rw [Keyed.Applicable, he.2] at hcreate
  exact hcreate

/-- What no operation writes stands in the proposed world as it stood in the
    base, and nothing else stands there unwritten. -/
theorem filter_untouched (hdistinct : DistinctTargets operations)
    (h : applyOperations world.records operations = .ok records) (kind : WorldRecordKind) :
    ((records kind).filter fun record => Untouched operations kind (kind.identity record)) =
      (world.records kind).filter fun record =>
        Untouched operations kind (kind.identity record) := by
  rcases applyOperations_records hdistinct h kind with ⟨_, hrecords⟩
  have htouched : ∀ e ∈ editsOf kind operations,
      ¬ Untouched operations kind (kind.identity e.record) := by
    intro e he huntouched
    rcases mem_editsOf he with ⟨operation, hoperation, hread, _⟩
    exact huntouched operation hoperation (writes_of_read hread)
  have hcreated : ((Keyed.created (editsOf kind operations)).filter fun record =>
      Untouched operations kind (kind.identity record)) = [] := by
    rw [filter_eq_nil_iff]
    intro record hrecord
    rw [Keyed.created, mem_map] at hrecord
    rcases hrecord with ⟨e, he, rfl⟩
    simpa using htouched e (mem_of_mem_filter he)
  rw [hrecords, filter_append, hcreated, append_nil, filter_filterMap,
    ← filterMap_eq_filter]
  refine filterMap_congr fun record _ => ?_
  -- An untouched record is carried over; a written one leaves a written one.
  by_cases hrecord : Untouched operations kind (kind.identity record)
  · have hfresh : kind.identity record ∉
        (editsOf kind operations).map fun e => kind.identity e.record := by
      intro hmem
      rcases mem_map.mp hmem with ⟨e, he, heq⟩
      exact htouched e he (heq ▸ hrecord)
    rw [Keyed.after_of_notMem hfresh]
    simp [Option.guard, hrecord]
  · simp only [Option.guard, decide_eq_true_eq, hrecord, if_false]
    unfold Keyed.after
    split
    · simp [Option.filter, hrecord]
    · rename_i e hfound
      split
      · rfl
      · simp [Option.filter, htouched e (mem_of_find?_eq_some hfound)]

/-- A record that stands in both worlds was carried over, or an operation replaced it. -/
theorem kept_or_replaced (hdistinct : DistinctTargets operations)
    (h : applyOperations world.records operations = .ok records) (kind : WorldRecordKind)
    {old new : kind.Record} (hold : old ∈ world.records kind) (hnew : new ∈ records kind)
    (hid : kind.identity new = kind.identity old) :
    new = old ∨ ∃ operation ∈ operations,
      operation.operation = .replace ∧ readRecord operation = .ok ⟨kind, new⟩ := by
  rcases applyOperations_records hdistinct h kind with ⟨happ, hrecords⟩
  have hstands : kind.identity new ∈ (world.records kind).map kind.identity :=
    hid ▸ mem_map_of_mem hold
  rw [hrecords, mem_append] at hnew
  rcases hnew with hkept | hcreated
  · rcases mem_filterMap.mp hkept with ⟨record, hrecord, hafter⟩
    unfold Keyed.after at hafter
    split at hafter
    · -- No edit names the record, so it is the one that stood there.
      obtain rfl : record = new := Option.some.inj hafter
      exact .inl (inj_on_of_nodup_map (world.nodup_identities kind) hrecord hold hid)
    · rename_i e hfound
      split at hafter
      · exact absurd hafter (by simp)
      · rename_i hretire
        obtain rfl : e.record = new := Option.some.inj hafter
        rcases mem_editsOf (mem_of_find?_eq_some hfound) with
          ⟨operation, hoperation, hread, haction⟩
        have happlicable := happ e (mem_of_find?_eq_some hfound)
        refine .inr ⟨operation, hoperation, ?_, hread⟩
        cases htype : operation.operation with
        | create =>
          rw [Keyed.Applicable, haction, htype] at happlicable
          exact absurd hstands happlicable
        | replace => rfl
        | retire =>
          rw [haction, htype] at hretire
          exact absurd rfl hretire
  · exact absurd hstands (created_notMem happ hcreated)

/-- Operations that write different records may come in any order: all orders
    apply or none does, the worlds they give differ only in where created
    records stand, and a record that nothing writes is carried over. -/
theorem overlay_order_independent (world : WorldRootDocument)
    (changes : ObservedChangeSet) (canonicalCommit : Option CommitId)
    (operations : List ChangeOperation) (hdistinct : DistinctTargets changes.operations)
    (hperm : changes.operations.Perm operations) :
    ((∃ first, apply world changes canonicalCommit = .ok first) ↔
      ∃ second, apply world { changes with operations } canonicalCommit = .ok second) ∧
    ∀ first second, apply world changes canonicalCommit = .ok first →
      apply world { changes with operations } canonicalCommit = .ok second →
      AgreeUpToCreated world first second ∧
      ∀ kind,
        ((first.records kind).filter fun record =>
          Untouched changes.operations kind (kind.identity record)) =
        (world.records kind).filter fun record =>
          Untouched changes.operations kind (kind.identity record) := by
  -- One order gives the other; the two directions differ in which is which.
  have horder : ∀ ops ops' : List ChangeOperation, DistinctTargets ops → ops.Perm ops' →
      (∃ first, apply world { changes with operations := ops } canonicalCommit =
        .ok first) →
      ∃ second, apply world { changes with operations := ops' } canonicalCommit =
        .ok second := by
    rintro ops ops' hops hperm' ⟨first, hfirst⟩
    rcases apply_ok.mp hfirst with ⟨hbase, happly, _⟩
    have hsecond := applyOperations_perm hops hperm' happly
    have hvalid := validateReferences_perm
      (b := fun kind => (world.records kind).filterMap
          (Keyed.after kind.identity (editsOf kind ops)) ++ Keyed.created (editsOf kind ops'))
      (fun kind => by
        rw [(applyOperations_records hops happly kind).2]
        exact (Keyed.created_perm (hperm'.filterMap _)).append_left _)
      first.references
    rcases exists_apply { changes with operations := ops' }
      hbase hsecond hvalid with ⟨second, happly', _⟩
    exact ⟨second, happly'⟩
  refine ⟨⟨horder _ _ hdistinct hperm, horder _ _ (distinctTargets_perm hdistinct hperm)
    hperm.symm⟩, ?_⟩
  intro first second hfirst hsecond
  rcases apply_ok.mp hfirst with ⟨_, happly, hversion, hcommit, hhash⟩
  rcases apply_ok.mp hsecond with
    ⟨_, happly', hversion', hcommit', hhash'⟩
  refine ⟨⟨hversion.trans hversion'.symm, hcommit.trans hcommit'.symm, ?_, fun kind => ?_⟩,
    filter_untouched hdistinct happly⟩
  · simp [hhash, hversion, hcommit, hhash', hversion', hcommit']
  rcases applyOperations_records hdistinct happly kind with ⟨happ, hrecords⟩
  have hother : second.records = _ :=
    Except.ok.inj (happly'.symm.trans (applyOperations_perm hdistinct hperm happly))
  exact ⟨_, _, _, hrecords, congrFun hother kind, Keyed.created_perm (hperm.filterMap _),
    fun record => created_notMem happ⟩

end

namespace Sample

def hero : Entity where
  entityId := ⟨"entity.hero", by decide⟩
  entityType := ⟨"character", by decide⟩
  internalLabel := ⟨"Hero", by decide⟩
  aliases := []
  identityInvariants := []

def lamp : Entity where
  entityId := ⟨"entity.lamp", .refl true⟩
  entityType := ⟨"item", by decide⟩
  internalLabel := ⟨"Lamp", by decide⟩
  aliases := []
  identityInvariants := []

def commit : CommitId := ⟨"sha256:" ++ String.ofList (List.replicate 64 '0'), .refl true⟩

def version : SchemaVersion := ⟨"1.0.0", .refl true⟩

def world : WorldRootDocument where
  rootHash := commit
  schemaVersion := version
  sourceCommit := commit
  records
    | .entity => [hero]
    | _ => []
  references := by decide

def operation (operationType : ChangeOperationType) (entity : Entity) : ChangeOperation where
  operationId := ⟨"op", .refl true⟩
  rootKind := .world
  operation := operationType
  targetId := entity.entityId
  payload := recordPayload .entity entity
  evidenceRefs := []

def changes (operations : List ChangeOperation) : ObservedChangeSet where
  changeSetId := ⟨"changes", .refl true⟩
  baseCommit := commit
  sourceArtifact := ⟨commit, "text/plain", 0, version⟩
  operations := operations

end Sample

open Sample

/-- A creation and a replacement apply in both orders, to the same records. -/
theorem overlay_order_swapped :
    let operations := [operation .create lamp, operation .replace hero]
    DistinctTargets operations ∧
    ∃ first second, apply world (changes operations) none = .ok first ∧
      apply world (changes operations.reverse) none = .ok second ∧
      AgreeUpToCreated world first second := by
  have hdistinct : DistinctTargets
      [operation .create lamp, operation .replace hero] := by
    refine pairwise_pair.mpr (.inr ?_)
    rw [ChangeOperation.writes, ChangeOperation.writes]
    decide
  have hindependent := overlay_order_independent world (changes _) none _ hdistinct
    (Perm.swap _ _ _)
  have hok : (apply world (changes [operation .create lamp,
      operation .replace hero]) none).isOk = true := by decide +kernel
  obtain ⟨first, hfirst⟩ := Outcome.isOk_iff.mp hok
  obtain ⟨second, hsecond⟩ := hindependent.1.mp ⟨first, hfirst⟩
  exact ⟨hdistinct, first, second, hfirst, hsecond, (hindependent.2 _ _ hfirst hsecond).1⟩

end NovelAgent.World
