import NovelAgent.World.Overlay

/-!
# Worlds up to the Order of Evidence

When two worlds hold the same records, except that evidence may be listed in
another order and records may stand in other places.
-/

namespace NovelAgent.World

open Core Domain List

namespace WorldRecordKind

def evidenceRefs : (kind : WorldRecordKind) → kind.Record → List EvidenceRef
  | .entity => fun _ => []
  | .event => Event.evidenceRefs
  | .state => StateRecord.evidenceRefs
  | .relation => RelationRecord.evidenceRefs
  | .obligation => PlanObligation.evidenceRefs

/-- A record with other evidence. An entity has none. -/
def withEvidence : (kind : WorldRecordKind) → kind.Record → List EvidenceRef → kind.Record
  | .entity => fun entity _ => entity
  | .event => fun event refs => { event with evidenceRefs := refs }
  | .state => fun state refs => { state with evidenceRefs := refs }
  | .relation => fun relation refs => { relation with evidenceRefs := refs }
  | .obligation => fun obligation refs => { obligation with evidenceRefs := refs }

end WorldRecordKind

/-- A record with its evidence in another order. -/
def SameRecord (kind : WorldRecordKind) (a b : kind.Record) : Prop :=
  ∃ refs, (kind.evidenceRefs a).Perm refs ∧ b = kind.withEvidence a refs

namespace SameRecord

variable {kind : WorldRecordKind} {a b c : kind.Record}

theorem refl (a : kind.Record) : SameRecord kind a a := by
  refine ⟨kind.evidenceRefs a, Perm.refl _, ?_⟩
  cases kind <;> rfl

theorem symm (h : SameRecord kind a b) : SameRecord kind b a := by
  rcases h with ⟨refs, hperm, rfl⟩
  refine ⟨kind.evidenceRefs a, ?_, ?_⟩
  · cases kind with
    | entity => exact Perm.refl _
    | event => exact hperm.symm
    | state => exact hperm.symm
    | relation => exact hperm.symm
    | obligation => exact hperm.symm
  · cases kind <;> rfl

theorem trans (h : SameRecord kind a b) (h' : SameRecord kind b c) : SameRecord kind a c := by
  rcases h with ⟨refs, hperm, rfl⟩
  rcases h' with ⟨refs', hperm', rfl⟩
  cases kind with
  | entity => exact refl a
  | event => exact ⟨refs', hperm.trans hperm', rfl⟩
  | state => exact ⟨refs', hperm.trans hperm', rfl⟩
  | relation => exact ⟨refs', hperm.trans hperm', rfl⟩
  | obligation => exact ⟨refs', hperm.trans hperm', rfl⟩

theorem identity_eq (h : SameRecord kind a b) : kind.identity a = kind.identity b := by
  rcases h with ⟨refs, _, rfl⟩
  cases kind <;> rfl

end SameRecord

/-- Worlds that hold the same records. -/
def SameRecords (a b : Collections) : Prop :=
  ∀ kind, ∃ records, (a kind).Perm records ∧ List.Forall₂ (SameRecord kind) records (b kind)

/-- Worlds that hold them in the same places. -/
def Aligned (a b : Collections) : Prop :=
  ∀ kind, List.Forall₂ (SameRecord kind) (a kind) (b kind)

variable {given given' : List (String × JsonValue)} {items items' : List JsonValue}

theorem load_evidence (hrefs : given.lookup "evidence_refs" = some (.array items))
    (hrefs' : given'.lookup "evidence_refs" = some (.array items')) (hperm : items.Perm items')
    (missing : Option (List EvidenceRef)) (refs : List EvidenceRef)
    (h : (given.lookup "evidence_refs").elim missing EvidenceRef.codec.list.load = some refs) :
    ∃ refs', (given'.lookup "evidence_refs").elim missing EvidenceRef.codec.list.load =
      some refs' ∧ refs.Perm refs' := by
  rw [hrefs] at h
  rw [hrefs']
  exact mapM_perm EvidenceRef.codec.load hperm h

/-- A record whose evidence is put in another order is read as the same record. -/
theorem load_reordered {kind : WorldRecordKind} {record : kind.Record}
    (hload : kind.codec.load (.object given) = some record)
    (hrefs : given.lookup "evidence_refs" = some (.array items))
    (hrefs' : given'.lookup "evidence_refs" = some (.array items')) (hperm : items.Perm items')
    (hkeys : given'.map Prod.fst = given.map Prod.fst)
    (hother : ∀ key, key ≠ "evidence_refs" → given'.lookup key = given.lookup key) :
    ∃ record', kind.codec.load (.object given') = some record' ∧
      SameRecord kind record record' := by
  have hevidence := load_evidence hrefs hrefs' hperm
  have hmem : ∀ keys : List String, (∀ field ∈ given, field.1 ∈ keys) →
      ∀ field ∈ given', field.1 ∈ keys := by
    intro keys hknown field hfield
    have hkey : field.1 ∈ given.map Prod.fst := hkeys ▸ mem_map_of_mem hfield
    rcases mem_map.mp hkey with ⟨other, hother, heq⟩
    rw [← heq]
    exact hknown other hother
  cases kind with
  | entity =>
    rcases Option.bind_eq_some_iff.mp hload with ⟨raw, hraw, _⟩
    have hlisted : ("evidence_refs", JsonValue.array items) ∈ given := by
      rcases lookup_eq_some_iff.mp hrefs with ⟨before, after, rfl, _⟩
      simp
    -- An entity has no such field.
    have hfield := (Codec.object_load.mp hraw).1 _ hlisted
    simp [Fields.optional, Fields.required, Fields.field, Fields.nil] at hfield
  | event =>
    rcases Option.bind_eq_some_iff.mp hload with ⟨raw, hraw, hvalid⟩
    rcases Codec.object_load.mp hraw with ⟨hknown, hraw⟩
    rcases (Fields.loads_same (hother "effect_refs" (by decide)) <|
      Fields.loads_same (hother "event_id" (by decide)) <|
      Fields.loads_same (hother "event_type" (by decide)) <|
      Fields.loads_field (hevidence _) <|
      Fields.loads_same (hother "narrative_order" (by decide)) <|
      Fields.loads_same (hother "participant_ids" (by decide)) <|
      Fields.loads_same (hother "story_time" (by decide)) <|
      Fields.loads_same (hother "truth_class" (by decide)) Fields.loads_nil) raw hraw with
      ⟨raw', hraw', h⟩
    rcases raw with ⟨effects, id, type, refs, order, participants, time, truth, _⟩
    rcases raw' with ⟨effects', id', type', refs', order', participants', time', truth', _⟩
    rcases h with ⟨rfl, rfl, rfl, hperm', rfl, rfl, rfl, rfl, _⟩
    cases hvalid
    exact ⟨_, Option.bind_eq_some_iff.mpr
      ⟨_, Codec.object_load.mpr ⟨hmem _ hknown, hraw'⟩, rfl⟩, refs', hperm', rfl⟩
  | state =>
    rcases Option.bind_eq_some_iff.mp hload with ⟨raw, hraw, hvalid⟩
    rcases Codec.object_load.mp hraw with ⟨hknown, hraw⟩
    rcases (Fields.loads_field (hevidence _) <|
      Fields.loads_same (hother "predicate" (by decide)) <|
      Fields.loads_same (hother "state_id" (by decide)) <|
      Fields.loads_same (hother "subject_id" (by decide)) <|
      Fields.loads_same (hother "truth_class" (by decide)) <|
      Fields.loads_same (hother "valid_time" (by decide)) <|
      Fields.loads_same (hother "value" (by decide)) Fields.loads_nil) raw hraw with
      ⟨raw', hraw', h⟩
    rcases raw with ⟨refs, predicate, id, subject, truth, time, value, _⟩
    rcases raw' with ⟨refs', predicate', id', subject', truth', time', value', _⟩
    rcases h with ⟨hperm', rfl, rfl, rfl, rfl, rfl, rfl, _⟩
    cases hvalid
    exact ⟨_, Option.bind_eq_some_iff.mpr
      ⟨_, Codec.object_load.mpr ⟨hmem _ hknown, hraw'⟩, rfl⟩, refs', hperm', rfl⟩
  | relation =>
    rcases Option.bind_eq_some_iff.mp hload with ⟨raw, hraw, hvalid⟩
    rcases Codec.object_load.mp hraw with ⟨hknown, hraw⟩
    rcases (Fields.loads_field (hevidence _) <|
      Fields.loads_same (hother "object_id" (by decide)) <|
      Fields.loads_same (hother "predicate" (by decide)) <|
      Fields.loads_same (hother "relation_id" (by decide)) <|
      Fields.loads_same (hother "subject_id" (by decide)) <|
      Fields.loads_same (hother "truth_class" (by decide)) <|
      Fields.loads_same (hother "valid_time" (by decide)) Fields.loads_nil) raw hraw with
      ⟨raw', hraw', h⟩
    rcases raw with ⟨refs, object, predicate, id, subject, truth, time, _⟩
    rcases raw' with ⟨refs', object', predicate', id', subject', truth', time', _⟩
    rcases h with ⟨hperm', rfl, rfl, rfl, rfl, rfl, rfl, _⟩
    cases hvalid
    exact ⟨_, Option.bind_eq_some_iff.mpr
      ⟨_, Codec.object_load.mpr ⟨hmem _ hknown, hraw'⟩, rfl⟩, refs', hperm', rfl⟩
  | obligation =>
    rcases Option.bind_eq_some_iff.mp hload with ⟨raw, hraw, hvalid⟩
    rcases Codec.object_load.mp hraw with ⟨hknown, hraw⟩
    rcases (Fields.loads_same (hother "description" (by decide)) <|
      Fields.loads_same (hother "due_chapter" (by decide)) <|
      Fields.loads_field (hevidence _) <|
      Fields.loads_same (hother "kind" (by decide)) <|
      Fields.loads_same (hother "obligation_id" (by decide)) <|
      Fields.loads_same (hother "owner_ids" (by decide)) <|
      Fields.loads_same (hother "status" (by decide)) Fields.loads_nil) raw hraw with
      ⟨raw', hraw', h⟩
    rcases raw with ⟨description, due, refs, type, id, owners, status, _⟩
    rcases raw' with ⟨description', due', refs', type', id', owners', status', _⟩
    rcases h with ⟨rfl, rfl, hperm', rfl, rfl, rfl, rfl, _⟩
    cases hvalid
    exact ⟨_, Option.bind_eq_some_iff.mpr
      ⟨_, Codec.object_load.mpr ⟨hmem _ hknown, hraw'⟩, rfl⟩, refs', hperm', rfl⟩

namespace SameRecords

variable {a b : Collections}

theorem mem_identities (h : SameRecords a b) (kind : WorldRecordKind) (id : StableId) :
    id ∈ (b kind).map kind.identity ↔ id ∈ (a kind).map kind.identity := by
  rcases h kind with ⟨records, hperm, hsame⟩
  rw [← Keyed.map_eq_of_related (fun _ _ hxy => hxy.identity_eq) hsame]
  exact ((hperm.map kind.identity).mem_iff).symm

theorem exists_left (h : SameRecords a b) {kind : WorldRecordKind} {record : kind.Record}
    (hrecord : record ∈ b kind) : ∃ x ∈ a kind, SameRecord kind x record := by
  rcases h kind with ⟨records, hperm, hsame⟩
  rcases Keyed.exists_related_left hsame hrecord with ⟨x, hx, hxy⟩
  exact ⟨x, hperm.mem_iff.mpr hx, hxy⟩

theorem exists_right (h : SameRecords a b) {kind : WorldRecordKind} {record : kind.Record}
    (hrecord : record ∈ a kind) : ∃ y ∈ b kind, SameRecord kind record y := by
  rcases h kind with ⟨records, hperm, hsame⟩
  exact Keyed.exists_related_right hsame (hperm.mem_iff.mp hrecord)

end SameRecords

namespace Aligned

variable {a b : Collections}

theorem refl (a : Collections) : Aligned a a :=
  fun _ => forall₂_same.mpr fun record _ => SameRecord.refl record

theorem sameRecords (h : Aligned a b) : SameRecords a b :=
  fun kind => ⟨a kind, Perm.refl _, h kind⟩

theorem map_eq {β : Type} (h : Aligned a b) (kind : WorldRecordKind) {f : kind.Record → β}
    (hf : ∀ record refs, f (kind.withEvidence record refs) = f record) :
    (b kind).map f = (a kind).map f := by
  refine (Keyed.map_eq_of_related ?_ (h kind)).symm
  rintro x y ⟨refs, _, rfl⟩
  exact (hf x refs).symm

/-- Aligned worlds keep the same rules. -/
theorem validateReferences (h : Aligned a b) : b.validateReferences = a.validateReferences := by
  have hentities : (b .entity).map Entity.entityId = (a .entity).map Entity.entityId :=
    h.map_eq .entity fun _ _ => rfl
  have hids : b.recordIds = a.recordIds := by
    unfold Collections.recordIds
    rw [h.map_eq .event (f := Event.eventId) fun _ _ => rfl,
      h.map_eq .state (f := StateRecord.stateId) fun _ _ => rfl,
      h.map_eq .relation (f := RelationRecord.relationId) fun _ _ => rfl,
      h.map_eq .obligation (f := PlanObligation.obligationId) fun _ _ => rfl]
  have hreferenced : b.referenced = a.referenced := by
    unfold Collections.referenced
    rw [flatMap_def, flatMap_def, flatMap_def, flatMap_def,
      h.map_eq .event (f := Event.participantIds) fun _ _ => rfl,
      h.map_eq .state (f := StateRecord.subjectId) fun _ _ => rfl,
      h.map_eq .relation (f := RelationRecord.subjectId) fun _ _ => rfl,
      h.map_eq .relation (f := RelationRecord.objectId) fun _ _ => rfl,
      h.map_eq .obligation (f := PlanObligation.ownerIds) fun _ _ => rfl]
  unfold Collections.validateReferences
  rw [hentities, hids, hreferenced]

end Aligned

variable {records records' : Collections}

theorem applyOperation_eq_ok {operation : ChangeOperation} :
    applyOperation records operation = .ok records' ↔
      ∃ kind record edited, readRecord operation = .ok ⟨kind, record⟩ ∧
        Keyed.edit kind.identity (records kind) ⟨operation.operation.action, record⟩ =
          some edited ∧
        records' = Function.update records kind edited := by
  unfold applyOperation
  cases hread : readRecord operation with
  | error error => simp [bind, Except.bind]
  | ok record =>
    rcases record with ⟨kind, record⟩
    simp only [bind, Except.bind]
    constructor
    · intro h
      split at h
      · exact absurd h (by simp)
      · rename_i edited hedit
        exact ⟨kind, record, edited, rfl, hedit, (Except.ok.inj h).symm⟩
    · rintro ⟨kind', record', edited, hsame, hedit, rfl⟩
      cases hsame
      rw [hedit]

/-- The identities of each kind are unique. -/
def Distinct (records : Collections) : Prop :=
  ∀ kind, ((records kind).map (WorldRecordKind.identity kind)).Nodup

theorem Distinct.applyOperation {operation : ChangeOperation} (h : Distinct records)
    (happly : World.applyOperation records operation = .ok records') : Distinct records' := by
  rcases applyOperation_eq_ok.mp happly with ⟨kind, record, edited, _, hedit, rfl⟩
  rcases Keyed.edit_eq_some.mp hedit with ⟨happ, rfl⟩
  intro kind'
  by_cases hkind : kind' = kind
  · subst hkind
    rw [Function.update_self]
    exact Keyed.nodup_write (h kind') happ
  · rw [Function.update_of_ne hkind]
    exact h kind'

namespace Aligned

variable {a b a' : Collections} {operation operation' : ChangeOperation} {kind : WorldRecordKind}
  {record record' : kind.Record}

theorem update (h : Aligned a b) {xs ys : List kind.Record}
    (hkind : List.Forall₂ (SameRecord kind) xs ys) :
    Aligned (Function.update a kind xs) (Function.update b kind ys) := by
  intro kind'
  by_cases heq : kind' = kind
  · subst heq
    rw [Function.update_self, Function.update_self]
    exact hkind
  · rw [Function.update_of_ne heq, Function.update_of_ne heq]
    exact h kind'

/-- Aligned worlds stay aligned. -/
theorem applyOperation (h : Aligned a b) (hread : readRecord operation = .ok ⟨kind, record⟩)
    (hread' : readRecord operation' = .ok ⟨kind, record'⟩) (hsame : SameRecord kind record record')
    (htype : operation'.operation = operation.operation)
    (happly : World.applyOperation a operation = .ok a') :
    ∃ b', World.applyOperation b operation' = .ok b' ∧ Aligned a' b' := by
  rcases applyOperation_eq_ok.mp happly with ⟨kind', found, edited, hfound, hedit, rfl⟩
  rw [hread] at hfound
  cases hfound
  rcases Keyed.edit_related (fun _ _ hxy => hxy.identity_eq) (h kind) hsame hedit with
    ⟨edited', hedit', hrelated⟩
  rw [← htype] at hedit'
  exact ⟨_, applyOperation_eq_ok.mpr ⟨kind, record', edited', hread', hedit', rfl⟩,
    h.update hrelated⟩

/-- A record that is replaced by itself need not be. -/
theorem restated (h : Aligned a b) (hdistinct : Distinct a)
    (hread : readRecord operation = .ok ⟨kind, record⟩) (htype : operation.operation = .replace)
    (hthere : ∃ x ∈ a kind, SameRecord kind x record)
    (happly : World.applyOperation a operation = .ok a') : Aligned a' b := by
  rcases applyOperation_eq_ok.mp happly with ⟨kind', found, edited, hfound, hedit, rfl⟩
  rw [hread] at hfound
  cases hfound
  rcases Keyed.edit_eq_some.mp hedit with ⟨_, rfl⟩
  have hwrite : Keyed.write kind.identity (a kind) ⟨operation.operation.action, record⟩ =
      Keyed.replaceFirst kind.identity record (a kind) := by
    rw [htype]
    rfl
  have hrelated : List.Forall₂ (SameRecord kind)
      (Keyed.replaceFirst kind.identity record (a kind)) (b kind) := by
    rcases hthere with ⟨there, hmem, hsame⟩
    refine Keyed.replaceFirst_restated (h kind) fun x hx hkey y hxy => ?_
    -- The record under the identity is the only one.
    have hx' : x = there :=
      inj_on_of_nodup_map (hdistinct kind) hx hmem (hkey.trans hsame.identity_eq.symm)
    rw [hx'] at hxy
    exact hsame.symm.trans hxy
  rw [hwrite]
  have hself := h.update hrelated
  rwa [Function.update_eq_self] at hself

end Aligned

end NovelAgent.World
