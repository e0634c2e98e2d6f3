import NovelAgent.Core.Keyed
import NovelAgent.World.Records

/-!
# The World Overlay

The world that a change set proposes, built without touching the canonical
one.
-/

namespace NovelAgent.World

open Core Domain

/-- What building the overlay may raise: its own refusals, and those of the document it builds. -/
inductive OverlayError
  | overlay (message : String)
  | validation (message : String)

def OverlayError.message : OverlayError → String
  | .overlay message => message
  | .validation message => message

abbrev AnyRecord := (kind : WorldRecordKind) × kind.Record

def recordKind? (payload : JsonValue) : Option WorldRecordKind := do
  let text ← (← payload.get? "record_type").string?
  WorldRecordKind.ofValue? text

/-- Read a payload with the model of the kind it names. -/
def decode (payload : JsonValue) : Option AnyRecord := do
  let kind ← recordKind? payload
  let rawRecord ← payload.get? "record"
  let _ ← rawRecord.fields?
  let record ← kind.codec.load rawRecord
  pure ⟨kind, record⟩

/-- The record an operation carries. -/
def readRecord (operation : ChangeOperation) : Except OverlayError AnyRecord :=
  if operation.rootKind ≠ .world ∨ operation.payload.fields? = none then
    .error (.overlay "Stage 1 overlay accepts only structured WorldRoot operations")
  else
    match decode operation.payload with
    | none => .error (.overlay "WorldRoot operation payload is invalid")
    | some record =>
      if record.1.identity record.2 ≠ operation.targetId then
        .error (.overlay "operation target does not match record identity")
      else .ok record

def ChangeOperationType.action : ChangeOperationType → Keyed.Action
  | .create => .create
  | .replace => .replace
  | .retire => .retire

/-- Why an edit cannot be made. -/
def ChangeOperationType.refusal : ChangeOperationType → String
  | .create => "create target already exists"
  | .replace => "replace target does not exist"
  | .retire => "retire target does not exist"

/-- A world after one operation. -/
def applyOperation (records : Collections) (operation : ChangeOperation) :
    Except OverlayError Collections := do
  let ⟨kind, record⟩ ← readRecord operation
  match Keyed.edit kind.identity (records kind) ⟨operation.operation.action, record⟩ with
  | none => .error (.overlay operation.operation.refusal)
  | some edited => .ok (Function.update records kind edited)

/-- The loop over the operations. -/
def applyOperations (records : Collections) (operations : List ChangeOperation) :
    Except OverlayError Collections :=
  operations.foldlM applyOperation records

/-- Build the document over the given records, and address it. -/
def buildWorld (schemaVersion : SchemaVersion) (sourceCommit : CommitId) (records : Collections) :
    Except OverlayError WorldRootDocument :=
  match h : records.validateReferences with
  | some message => .error (.validation message)
  | none => .ok
      ⟨worldRootContentId schemaVersion sourceCommit records, schemaVersion, sourceCommit, records, h⟩

/-- The proposed world. -/
def apply (world : WorldRootDocument) (changes : ObservedChangeSet)
    (canonicalCommit : Option CommitId) : Except OverlayError WorldRootDocument :=
  if changes.baseCommit ≠ canonicalCommit.getD world.sourceCommit then
    .error (.overlay "change set base commit differs from WorldRoot basis")
  else do
    let records ← applyOperations world.records changes.operations
    buildWorld world.schemaVersion world.sourceCommit records

/-- The payload that carries a record. -/
def recordPayload (kind : WorldRecordKind) (record : kind.Record) : JsonValue :=
  .object [("record", kind.codec.dump record), ("record_type", .string kind.value)]

/-- The edit that an operation makes in the collection of a kind. -/
def editOf (kind : WorldRecordKind) (operation : ChangeOperation) :
    Option (Keyed.Edit kind.Record) :=
  match readRecord operation with
  | .error _ => none
  | .ok record =>
    if h : record.1 = kind then some ⟨operation.operation.action, h ▸ record.2⟩ else none

/-- The edits that operations make in the collection of a kind. -/
def editsOf (kind : WorldRecordKind) (operations : List ChangeOperation) :
    List (Keyed.Edit kind.Record) :=
  operations.filterMap (editOf kind)

/-- Every operation carries a record that can be read. -/
def Readable (operations : List ChangeOperation) : Prop :=
  ∀ operation ∈ operations, ∃ record, readRecord operation = .ok record

variable (kind : WorldRecordKind)

theorem recordKind?_recordPayload (record : kind.Record) :
    recordKind? (recordPayload kind record) = some kind := by
  have htype : (recordPayload kind record).get? "record_type" = some (.string kind.value) := rfl
  have hname : WorldRecordKind.ofValue? kind.value = some kind := by cases kind <;> decide
  simp [recordKind?, htype, JsonValue.string?, hname]

/-- A record in a payload is read back. -/
theorem decode_recordPayload (record : kind.Record) :
    decode (recordPayload kind record) = some ⟨kind, record⟩ := by
  have hrecord : (recordPayload kind record).get? "record" = some (kind.codec.dump record) := rfl
  have hobject : ∃ fields, (kind.codec.dump record).fields? = some fields := by
    cases kind <;> exact ⟨_, rfl⟩
  rcases hobject with ⟨fields, hfields⟩
  simp [decode, recordKind?_recordPayload, hrecord, hfields]

variable {operation : ChangeOperation}

theorem readRecord_recordPayload {record : kind.Record} (hroot : operation.rootKind = .world)
    (hpayload : operation.payload = recordPayload kind record)
    (htarget : operation.targetId = kind.identity record) :
    readRecord operation = .ok ⟨kind, record⟩ := by
  have hfields : (recordPayload kind record).fields? ≠ none := by simp [recordPayload, JsonValue.fields?]
  simp [readRecord, hroot, hpayload, hfields, decode_recordPayload, htarget]

variable {record : AnyRecord}

theorem readRecord_ok (h : readRecord operation = .ok record) :
    operation.rootKind = .world ∧ decode operation.payload = some record ∧
      record.1.identity record.2 = operation.targetId := by
  unfold readRecord at h
  split at h
  · exact absurd h (by simp)
  · rename_i hshape
    split at h
    · exact absurd h (by simp)
    · rename_i decoded hdecode
      split at h
      · exact absurd h (by simp)
      · rename_i hidentity
        rw [← Except.ok.inj h]
        exact ⟨not_not.mp (not_or.mp hshape).1, hdecode, not_not.mp hidentity⟩

theorem editOf_eq (h : readRecord operation = .ok record) :
    editOf record.1 operation = some ⟨operation.operation.action, record.2⟩ := by
  rw [editOf, h]
  simp

theorem editOf_ne (h : readRecord operation = .ok record) {kind : WorldRecordKind}
    (hne : record.1 ≠ kind) : editOf kind operation = none := by
  rw [editOf, h]
  simp [hne]

variable {records records' : Collections}

theorem applyOperation_ok :
    applyOperation records operation = .ok records' ↔
      (∃ record, readRecord operation = .ok record) ∧
      ∀ kind, Keyed.edits kind.identity (records kind) (editOf kind operation).toList =
        some (records' kind) := by
  rw [applyOperation]
  cases hread : readRecord operation with
  | error error => simp [bind, Except.bind]
  | ok record =>
    rcases record with ⟨kind, record⟩
    have hown := editOf_eq hread
    simp only [bind, Except.bind]
    cases hedit : Keyed.edit kind.identity (records kind)
        ⟨operation.operation.action, record⟩ with
    | none =>
      simp only [reduceCtorEq, false_iff, not_and]
      intro _ hall
      have := hall kind
      simp [hown, Keyed.edits, hedit] at this
    | some edited =>
      simp only [Except.ok.injEq, Except.ok.injEq, exists_eq', true_and]
      constructor
      · rintro rfl kind'
        by_cases hkind : kind = kind'
        · subst hkind
          simp [hown, Keyed.edits, hedit]
        · rw [editOf_ne hread hkind, Function.update_of_ne (Ne.symm hkind)]
          rfl
      · intro hall
        funext kind'
        have hkind' := hall kind'
        by_cases hkind : kind = kind'
        · subst hkind
          simpa [hown, Keyed.edits, hedit] using hkind'
        · rw [editOf_ne hread hkind] at hkind'
          rw [Function.update_of_ne (Ne.symm hkind)]
          exact Option.some.inj hkind'

/-- The operations apply exactly when every one of them can be read and its
    edits apply in each collection by itself. -/
theorem applyOperations_ok {operations : List ChangeOperation} :
    applyOperations records operations = .ok records' ↔
      Readable operations ∧
      ∀ kind, Keyed.edits kind.identity (records kind) (editsOf kind operations) =
        some (records' kind) := by
  induction operations generalizing records with
  | nil =>
    have hnil : applyOperations records [] = .ok records := rfl
    have hreadable : Readable [] := by
      intro operation hoperation
      exact absurd hoperation List.not_mem_nil
    rw [hnil, and_iff_right hreadable, Except.ok.injEq]
    constructor
    · rintro rfl kind
      rfl
    · intro hall
      funext kind
      exact Option.some.inj (hall kind)
  | cons operation operations ih =>
    have hcons : applyOperations records (operation :: operations) =
        applyOperation records operation >>= fun next => applyOperations next operations := rfl
    have hedits : ∀ kind, editsOf kind (operation :: operations) =
        (editOf kind operation).toList ++ editsOf kind operations := by
      intro kind
      rw [editsOf, List.filterMap_cons]
      cases editOf kind operation with
      | none => rfl
      | some e => rfl
    have hsplit : ∀ (kind : WorldRecordKind) (start : List kind.Record) es es',
        Keyed.edits kind.identity start (es ++ es') =
          (Keyed.edits kind.identity start es).bind fun next =>
            Keyed.edits kind.identity next es' := by
      intro kind start es es'
      rw [Keyed.edits, List.foldlM_append]
      rfl
    have hreadable : Readable (operation :: operations) ↔
        (∃ record, readRecord operation = .ok record) ∧ Readable operations :=
      List.forall_mem_cons
    rw [hcons, hreadable]
    simp only [hedits, hsplit]
    constructor
    · intro h
      cases hfirst : applyOperation records operation with
      | error error =>
        rw [hfirst] at h
        exact absurd h (by simp [bind, Except.bind])
      | ok next =>
        rw [hfirst] at h
        rcases applyOperation_ok.mp hfirst with ⟨hread, hone⟩
        rcases ih.mp h with ⟨hrest, hall⟩
        refine ⟨⟨hread, hrest⟩, fun kind => ?_⟩
        rw [hone kind]
        exact hall kind
    · rintro ⟨⟨hread, hrest⟩, hall⟩
      -- The collections between the first operation and the rest.
      have hnext : ∀ kind, ∃ next,
          Keyed.edits kind.identity (records kind) (editOf kind operation).toList = some next ∧
          Keyed.edits kind.identity next (editsOf kind operations) = some (records' kind) :=
        fun kind => Option.bind_eq_some_iff.mp (hall kind)
      choose next hone htwo using hnext
      have hfirst : applyOperation records operation = .ok next :=
        applyOperation_ok.mpr ⟨hread, hone⟩
      rw [hfirst]
      exact ih.mpr ⟨hrest, htwo⟩

theorem buildWorld_ok {schemaVersion : SchemaVersion}
    {sourceCommit : CommitId} {records : Collections} {result : WorldRootDocument} :
    buildWorld schemaVersion sourceCommit records = .ok result ↔
      records = result.records ∧ result.schemaVersion = schemaVersion ∧
      result.sourceCommit = sourceCommit ∧
      result.rootHash = worldRootContentId schemaVersion sourceCommit result.records := by
  rw [buildWorld]
  rcases result with ⟨rootHash, version, commit, records', hvalid⟩
  split
  · rename_i message hinvalid
    simp only [reduceCtorEq, false_iff, not_and]
    rintro rfl
    rw [hvalid] at hinvalid
    exact absurd hinvalid (by simp)
  · simp only [Except.ok.injEq, WorldRootDocument.mk.injEq]
    constructor
    · rintro ⟨rfl, rfl, rfl, rfl⟩
      exact ⟨rfl, rfl, rfl, rfl⟩
    · rintro ⟨rfl, rfl, rfl, rfl⟩
      exact ⟨rfl, rfl, rfl, rfl⟩

variable {canonicalCommit : Option CommitId}

/-- When a change set applies, and to what. -/
theorem apply_ok {world result : WorldRootDocument} {changes : ObservedChangeSet} :
    apply world changes canonicalCommit = .ok result ↔
      changes.baseCommit = canonicalCommit.getD world.sourceCommit ∧
      applyOperations world.records changes.operations = .ok result.records ∧
      result.schemaVersion = world.schemaVersion ∧ result.sourceCommit = world.sourceCommit ∧
      result.rootHash = worldRootContentId world.schemaVersion world.sourceCommit result.records := by
  rw [apply]
  by_cases hbase : changes.baseCommit = canonicalCommit.getD world.sourceCommit
  · rw [if_neg (not_not.mpr hbase), and_iff_right hbase]
    cases hops : applyOperations world.records changes.operations with
    | error error => simp [bind, Except.bind]
    | ok records =>
      simp only [bind, Except.bind, Except.ok.injEq]
      exact buildWorld_ok
  · simp [hbase]

/-- Operations that apply to records that keep the document's rules make a world. -/
theorem exists_apply {world : WorldRootDocument} (changes : ObservedChangeSet)
    {records : Collections} (hbase : changes.baseCommit = canonicalCommit.getD world.sourceCommit)
    (happly : applyOperations world.records changes.operations = .ok records)
    (hvalid : records.validateReferences = none) :
    ∃ result, apply world changes canonicalCommit = .ok result ∧
      result.records = records :=
  ⟨⟨worldRootContentId world.schemaVersion world.sourceCommit records, world.schemaVersion,
    world.sourceCommit, records, hvalid⟩, apply_ok.mpr ⟨hbase, happly, rfl, rfl, rfl⟩, rfl⟩

end NovelAgent.World
