import Mathlib.Data.Set.BooleanAlgebra
import Mathlib.Order.CompletePartialOrder
import Mathlib.Order.Interval.Set.Basic
import NovelAgent.Core.Outcome
import NovelAgent.World.Normalizer
import NovelAgent.World.OverlayOrder
import NovelAgent.World.Reordered

/-!
# The Successor of a State

What comes of a state that is replaced by one about something else.
-/

namespace NovelAgent.World

open Core Domain List

/-- The ordinals of a time interval. Without a start or an end it is not bounded there. -/
def StoryTime.during (time : StoryTime) : Set Int :=
  {point | (∀ start ∈ time.startOrdinal, start ≤ point) ∧ ∀ stop ∈ time.endOrdinal, point ≤ stop}

namespace StoryTime

variable {time : StoryTime} {start stop : Int}

theorem during_nonempty (h : time.startOrdinal = some start) : time.during.Nonempty := by
  refine ⟨start, ?_, ?_⟩
  · intro start' hstart'
    rw [h] at hstart'
    cases hstart'
    exact le_rfl
  · intro stop' hstop'
    have hordered := time.ordered
    rw [h, Option.mem_def.mp hstop'] at hordered
    simpa [ordinalsOrdered] using hordered

theorem during_disjoint {time' : StoryTime} (h : time.endOrdinal = some stop)
    (h' : time'.startOrdinal = some start) (hlt : stop < start) :
    Disjoint time.during time'.during := by
  refine Set.disjoint_left.mpr fun point hpoint hpoint' => ?_
  have hstop := hpoint.2 stop h
  have hstart := hpoint'.1 start h'
  omega

/-- A time that is given another end stays within what it was if the end is not later. -/
theorem during_subset_iff {h : ordinalsOrdered time.startOrdinal (some stop) = true}
    (hstart : time.startOrdinal = some start) :
    ({ time with endOrdinal := some stop, ordered := h } : StoryTime).during ⊆ time.during ↔
      ∀ stop' ∈ time.endOrdinal, stop ≤ stop' := by
  have hle : start ≤ stop := by
    rw [hstart] at h
    simpa [ordinalsOrdered] using h
  constructor
  · intro hsubset stop' hstop'
    -- The new end itself is the point to look at.
    have hpoint : stop ∈ time.during := hsubset ⟨by simp [hstart, hle], by simp⟩
    exact hpoint.2 stop' hstop'
  · intro hall point hpoint
    refine ⟨hpoint.1, fun stop' hstop' => ?_⟩
    have hstop := hpoint.2 stop rfl
    have := hall stop' hstop'
    omega

end StoryTime

def StateRecord.endedAt (state : StateRecord) (stop : Int)
    (h : ordinalsOrdered state.validTime.startOrdinal (some stop) = true) : StateRecord :=
  { state with validTime := { state.validTime with endOrdinal := some stop, ordered := h } }

namespace MutationNormalizer

def successorSource (targetId : StableId) (record : JsonValue) : JsonValue :=
  .object [
    ("effective",
      ((record.get? "valid_time").bind fun time => time.get? "start_ordinal").getD .null),
    ("evidence", (record.get? "evidence_refs").getD (.array [])),
    ("predecessor", .string targetId.root),
    ("predicate", (record.get? "predicate").getD .null),
    ("subject", (record.get? "subject_id").getD .null)]

/-- The identity of a successor. -/
def successorId (targetId : StableId) (record : JsonValue) : StableId :=
  ⟨"state.successor." ++
      (HexToken.ofDigest 20 HexToken.twenty_le (successorSource targetId record).render).text,
    isStableId_append_token _ _ (by decide) (by decide)⟩

def statePayload (record : JsonValue) : JsonValue :=
  .object [("record", record), ("record_type", .string WorldRecordKind.state.value)]

/-- The pair that stands for a replacement: the end of the state that is there,
    and its successor. -/
structure Split (operation : ChangeOperation) (current record : JsonValue)
    (ended successor : ChangeOperation) (oldTime : List (String × JsonValue))
    (oldStart newStart : Int) : Prop where
  holdsTime : current.get? "valid_time" = some (.object oldTime)
  starts : ((JsonValue.object oldTime).get? "start_ordinal").bind JsonValue.int? = some oldStart
  startsAnew : ((record.get? "valid_time").bind fun time => time.get? "start_ordinal").bind
    JsonValue.int? = some newStart
  advances : oldStart < newStart
  ended_eq : ended = ⟨ended.operationId, .world, .replace, operation.targetId,
    statePayload (current.set "valid_time"
      ((JsonValue.object oldTime).set "end_ordinal" (.int (newStart - 1)))),
    operation.evidenceRefs⟩
  successor_eq : successor = ⟨successor.operationId, .world, .create,
    successorId operation.targetId record,
    statePayload (record.set "state_id"
      (.string (successorId operation.targetId record).root)),
    operation.evidenceRefs⟩

variable {operations : List ChangeOperation} {transforms : List NormalizationTransformReceipt}

/-- The pair, field by field. -/
theorem successorOperations_ok {operation : ChangeOperation} {current record : JsonValue}
    (h : successorOperations operation current record = .ok (operations, transforms)) :
    ∃ ended successor oldTime oldStart newStart, operations = [ended, successor] ∧
      Split operation current record ended successor oldTime oldStart newStart := by
  unfold successorOperations at h
  dsimp only at h
  split at h
  · rename_i new old hnew hold
    rw [Outcome.bind_eq_ok] at h
    rcases h with ⟨times, htimes, h⟩
    cases htimes
    dsimp only at h
    split at h
    · rename_i newStart oldStart hnewStart holdStart
      by_cases hlate : newStart ≤ oldStart
      · rw [if_pos hlate] at h
        exact absurd h (by simp [bind, Except.bind])
      · rw [if_neg hlate, Outcome.bind_eq_ok] at h
        rcases h with ⟨_, hstart, h⟩
        cases hstart
        rw [Outcome.bind_eq_ok] at h
        rcases h with ⟨endId, _, h⟩
        rw [Outcome.bind_eq_ok] at h
        rcases h with ⟨newId, _, h⟩
        rw [Outcome.bind_eq_ok] at h
        rcases h with ⟨done, _, h⟩
        rw [Outcome.pure_eq_ok, Prod.mk.injEq] at h
        rcases h with ⟨rfl, _⟩
        refine ⟨_, _, old, oldStart, newStart, rfl, hold, holdStart, ?_, by omega, rfl, ?_⟩
        · rw [hnew]
          exact hnewStart
        · simp only [successorId, successorSource, hnew, Option.bind_some]
          rfl
    · exact absurd h (by simp [bind, Except.bind])
  · exact absurd h (by simp [bind, Except.bind])

theorem dump_endedAt (state : StateRecord) (stop : Int)
    (h : ordinalsOrdered state.validTime.startOrdinal (some stop) = true) :
    (StateRecord.codec.dump state).set "valid_time"
        ((StoryTime.codec.dump state.validTime).set "end_ordinal" (.int stop)) =
      StateRecord.codec.dump (state.endedAt stop h) :=
  rfl

theorem startOrdinal_of_dump {time : StoryTime} {start : Int}
    (h : ((StoryTime.codec.dump time).get? "start_ordinal").bind JsonValue.int? = some start) :
    time.startOrdinal = some start := by
  have hfield : (StoryTime.codec.dump time).get? "start_ordinal" =
      some ((Codec.int.option Codec.int_ne_null).dump time.startOrdinal) := rfl
  rw [hfield] at h
  cases hstart : time.startOrdinal with
  | none =>
    rw [hstart] at h
    exact absurd h (by simp [Codec.option, JsonValue.int?])
  | some given =>
    rw [hstart] at h
    simpa [Codec.option, Codec.int, JsonValue.int?] using h

theorem startOrdinal_of_load {document : JsonValue} {time : StoryTime} {start : Int}
    (hload : StoryTime.codec.load document = some time)
    (h : (document.get? "start_ordinal").bind JsonValue.int? = some start) :
    time.startOrdinal = some start := by
  rcases Option.bind_eq_some_iff.mp h with ⟨value, hvalue, hint⟩
  rcases Option.bind_eq_some_iff.mp hvalue with ⟨given, hgiven, hlookup⟩
  have hobject : document = .object given := by
    cases document <;> simp_all [JsonValue.fields?]
  subst hobject
  rcases Option.bind_eq_some_iff.mp hload with ⟨raw, hraw, hvalid⟩
  have hfields := (Codec.object_load.mp hraw).2
  rcases raw with ⟨stop, label, start', worldline, _⟩
  simp only [Fields.optional, Fields.required, Fields.load_field, hlookup,
    Option.elim_some] at hfields
  have hstart : start' = some start := by
    have hfield := hfields.2.2.1
    cases value <;> simp_all [Codec.option, Codec.int, JsonValue.int?]
  dsimp only at hvalid
  split at hvalid
  · cases hvalid
    exact hstart
  · exact absurd hvalid (by simp)

theorem load_set_stateId {given : List (String × JsonValue)} {state : StateRecord} (id : StableId)
    (h : StateRecord.codec.load (.object given) = some state) :
    ∃ given', (JsonValue.object given).set "state_id" (.string id.root) = .object given' ∧
      StateRecord.codec.load (.object given') = some { state with stateId := id } := by
  rcases Option.bind_eq_some_iff.mp h with ⟨raw, hraw, hvalid⟩
  rcases Codec.object_load.mp hraw with ⟨hknown, hfields⟩
  rcases raw with ⟨refs, predicate, id', subject, truth, time, value, _⟩
  cases hvalid
  simp only [Fields.optional, Fields.required, Fields.load_field] at hfields
  have hthere : (given.lookup "state_id").isSome := by
    cases hlookup : given.lookup "state_id" with
    | none => exact absurd hfields.2.2.1 (by simp [hlookup])
    | some old => rfl
  refine ⟨_, JsonValue.set_of_mem hthere, ?_⟩
  refine Option.bind_eq_some_iff.mpr ⟨(refs, predicate, id, subject, truth, time, value, ()),
    Codec.object_load.mpr ⟨?_, ?_⟩, rfl⟩
  · intro field hfield
    rcases mem_map.mp hfield with ⟨old, hold, rfl⟩
    split
    · simp [Fields.optional, Fields.required, Fields.field]
    · exact hknown old hold
  · have hid : stableIdCodec.load (.string id.root) = some id := stableIdCodec.load_dump id
    rcases Option.isSome_iff_exists.mp hthere with ⟨old, hold⟩
    simpa [Fields.optional, Fields.required, Fields.load_field, JsonValue.lookup_map_set, hold,
      hid] using ⟨hfields.1, hfields.2.1, hfields.2.2.2⟩

section Split

variable {operation ended successor : ChangeOperation} {record : JsonValue}
  {oldTime : List (String × JsonValue)} {oldStart newStart : Int} {old new : StateRecord}

theorem Split.startOrdinal_old
    (h : Split operation (StateRecord.codec.dump old) record ended successor oldTime oldStart
      newStart) :
    StoryTime.codec.dump old.validTime = .object oldTime ∧
      old.validTime.startOrdinal = some oldStart := by
  have htime : StoryTime.codec.dump old.validTime = .object oldTime :=
    Option.some.inj (h.holdsTime : some (StoryTime.codec.dump old.validTime) = _)
  refine ⟨htime, startOrdinal_of_dump ?_⟩
  rw [htime]
  exact h.starts

/-- How the record that ended reads. -/
theorem Split.reads_ended
    (h : Split operation (StateRecord.codec.dump old) record ended successor oldTime oldStart
      newStart) (hid : old.stateId = operation.targetId) :
    ∃ hordered, readRecord ended = .ok ⟨.state, old.endedAt (newStart - 1) hordered⟩ := by
  rcases h.startOrdinal_old with ⟨htime, hstart⟩
  have hordered : ordinalsOrdered old.validTime.startOrdinal (some (newStart - 1)) = true := by
    have := h.advances
    rw [hstart]
    simp only [ordinalsOrdered, Option.all_some, decide_eq_true_eq]
    omega
  refine ⟨hordered, ?_⟩
  have hpayload : ended.payload = recordPayload .state (old.endedAt (newStart - 1) hordered) := by
    rw [h.ended_eq, ← htime, dump_endedAt old (newStart - 1) hordered]
    rfl
  have hroot : ended.rootKind = .world := by rw [h.ended_eq]
  have htarget : ended.targetId = WorldRecordKind.state.identity
      (old.endedAt (newStart - 1) hordered) := by
    rw [h.ended_eq]
    exact hid.symm
  exact readRecord_recordPayload .state hroot hpayload htarget

/-- The successor is read as the state that was asked for, under its own identity. -/
theorem Split.reads_successor
    (h : Split operation (StateRecord.codec.dump old) record ended successor oldTime oldStart
      newStart) (hload : StateRecord.codec.load record = some new) :
    readRecord successor =
        .ok ⟨.state, { new with stateId := successorId operation.targetId record }⟩ ∧
      new.validTime.startOrdinal = some newStart := by
  have hobject : ∃ given, record = .object given := by
    rcases Option.bind_eq_some_iff.mp hload with ⟨_, hraw, _⟩
    rcases Option.bind_eq_some_iff.mp hraw with ⟨given, hgiven, _⟩
    cases record <;> simp_all [JsonValue.fields?]
  rcases hobject with ⟨given, rfl⟩
  constructor
  · rcases load_set_stateId (successorId operation.targetId (.object given)) hload with
      ⟨given', hset, hload'⟩
    have hkind : recordKind? (statePayload (.object given')) = some .state := rfl
    have hdecode : decode (statePayload (.object given')) =
        some ⟨.state, { new with stateId := successorId operation.targetId (.object given) }⟩ := by
      have hrecord : (statePayload (.object given')).get? "record" = some (.object given') := rfl
      have hload'' : WorldRecordKind.state.codec.load (.object given') =
          some { new with stateId := successorId operation.targetId (.object given) } := hload'
      simp [decode, hkind, hrecord, JsonValue.fields?, hload'']
    have hfields : (statePayload (.object given')).fields? ≠ none := by
      simp [statePayload, JsonValue.fields?]
    rw [h.successor_eq, hset]
    simp only [readRecord]
    rw [if_neg (by simp [hfields]), hdecode]
    exact if_neg (not_not.mpr rfl)
  · rcases Option.bind_eq_some_iff.mp hload with ⟨raw, hraw, hvalid⟩
    have hfields := (Codec.object_load.mp hraw).2
    rcases raw with ⟨refs, predicate, id, subject, truth, time, value, _⟩
    cases hvalid
    simp only [Fields.optional, Fields.required, Fields.load_field] at hfields
    have htime := hfields.2.2.2.2.2.1
    have hstart := h.startsAnew
    rw [show (JsonValue.object given).get? "valid_time" = given.lookup "valid_time" from rfl] at hstart
    cases hlookup : given.lookup "valid_time" with
    | none => exact absurd htime (by simp [hlookup])
    | some document =>
      rw [hlookup] at htime hstart
      exact startOrdinal_of_load htime hstart

end Split

theorem orderEvidence_single {operation : ChangeOperation} {record : JsonValue}
    (h : orderEvidence operation record = .ok (operations, transforms)) :
    ∃ operation', operations = [operation'] := by
  unfold orderEvidence at h
  split at h
  · dsimp only at h
    split at h
    · rw [Outcome.bind_eq_ok] at h
      rcases h with ⟨_, _, h⟩
      exact ⟨_, (Prod.mk.inj ((Outcome.pure_eq_ok _ _).mp h)).1.symm⟩
    · exact ⟨_, (Prod.mk.inj (Except.ok.inj h)).1.symm⟩
  · exact ⟨_, (Prod.mk.inj (Except.ok.inj h)).1.symm⟩

variable {directive : Option Directive}

/-- Only a state that is replaced by one about something else becomes a pair. -/
theorem normalizeOperation_pair {world : Option WorldRootDocument}
    {operation ended successor : ChangeOperation}
    (h : normalizeOperation world directive operation = .ok ([ended, successor], transforms)) :
    ∃ record current, shape? operation.payload = some (.state, record) ∧
      existing world .state operation.targetId = some current ∧
      successorOperations operation current record = .ok ([ended, successor], transforms) := by
  have hordered : ∀ record, orderEvidence operation record ≠
      .ok ([ended, successor], transforms) := by
    intro record horder
    rcases orderEvidence_single horder with ⟨_, hsingle⟩
    exact absurd hsingle (by simp)
  unfold normalizeOperation at h
  split at h
  · exact absurd h (by simp)
  · rename_i kind record hshape
    split at h
    · split at h
      · rw [Outcome.bind_eq_ok] at h
        rcases h with ⟨_, _, h⟩
        exact absurd ((Outcome.pure_eq_ok _ _).mp h) (by simp)
      · split at h
        · rw [Outcome.bind_eq_ok] at h
          rcases h with ⟨_, _, h⟩
          exact absurd ((Outcome.pure_eq_ok _ _).mp h) (by simp)
        · exact absurd h (by simp)
    · rw [Outcome.bind_eq_ok] at h
      rcases h with ⟨_, _, h⟩
      rw [Outcome.ite_throw_bind_eq_ok] at h
      have h := h.2
      rw [Outcome.bind_eq_ok] at h
      rcases h with ⟨_, _, h⟩
      exact absurd ((Outcome.pure_eq_ok _ _).mp h) (by simp)
    · rename_i current _ hcurrent
      split at h
      · rename_i hstate
        rcases hstate with ⟨rfl, _⟩
        split at h
        · exact ⟨record, current, hshape, hcurrent, h⟩
        · exact absurd h (by simp)
      · split at h
        · exact absurd h (hordered record)
        · exact absurd h (by simp)
    · exact absurd h (hordered record)

theorem existing_ok {world : WorldRootDocument} {kind : WorldRecordKind} {id : StableId}
    {current : JsonValue} (h : existing (some world) kind id = some current) :
    ∃ record ∈ world.records kind, kind.identity record = id ∧
      current = kind.codec.dump record := by
  simp only [existing, Option.bind_some, List.findRev?_eq_find?_reverse,
    Option.map_eq_some_iff] at h
  rcases h with ⟨record, hfind, rfl⟩
  have hmem := mem_of_find?_eq_some hfind
  exact ⟨record, mem_reverse.mp hmem, by simpa using List.find?_some hfind, rfl⟩

/-- The records after a state has ended and its successor is there. -/
def withPair (records : Collections) (past next : StateRecord) : Collections :=
  Function.update records .state
    (Keyed.replaceFirst StateRecord.stateId past (records .state) ++ [next])

section WithPair

variable {world : WorldRootDocument} {old past next : StateRecord}

/-- Ending a state changes neither the identities of the states nor what they are about. -/
theorem map_replaceFirst {β : Type} (f : StateRecord → β) (hold : old ∈ world.records .state)
    (hid : past.stateId = old.stateId) (hf : f past = f old) :
    (Keyed.replaceFirst StateRecord.stateId past (world.records .state)).map f =
      (world.records .state).map f := by
  have hnodup : (Keyed.keys StateRecord.stateId (world.records .state)).Nodup :=
    world.nodup_identities .state
  rw [Keyed.replaceFirst_eq_map hnodup, map_map]
  refine map_congr_left fun state hstate => ?_
  rw [Function.comp_apply]
  by_cases hsame : state.stateId = past.stateId
  · have heq : state = old :=
      inj_on_of_nodup_map hnodup hstate hold (hsame.trans hid)
    rw [if_pos hsame, hf, heq]
  · rw [if_neg hsame]

theorem withPair_valid (hold : old ∈ world.records .state) (hid : past.stateId = old.stateId)
    (hsubject : past.subjectId = old.subjectId) (hfresh : next.stateId ∉ world.records.recordIds) :
    (withPair world.records past next).validateReferences = none ↔
      next.subjectId ∈ (world.records .entity).map Entity.entityId := by
  rcases (Collections.validateReferences_eq_none _).mp world.references with
    ⟨hentities, hids, hknown⟩
  have hother : ∀ kind, kind ≠ .state →
      withPair world.records past next kind = world.records kind :=
    fun kind hkind => Function.update_of_ne hkind _ _
  have hstates : withPair world.records past next .state =
      Keyed.replaceFirst StateRecord.stateId past (world.records .state) ++ [next] :=
    Function.update_self ..
  have hrecordIds : (withPair world.records past next).recordIds.Perm
      (next.stateId :: world.records.recordIds) := by
    simp only [Collections.recordIds, hother _ (by decide : WorldRecordKind.event ≠ .state),
      hother _ (by decide : WorldRecordKind.relation ≠ .state),
      hother _ (by decide : WorldRecordKind.obligation ≠ .state), hstates, map_append,
      map_replaceFirst StateRecord.stateId hold hid hid, map_cons, map_nil]
    grind
  have hreferenced : ∀ id, id ∈ (withPair world.records past next).referenced ↔
      id = next.subjectId ∨ id ∈ world.records.referenced := by
    intro id
    simp only [Collections.referenced, hother _ (by decide : WorldRecordKind.event ≠ .state),
      hother _ (by decide : WorldRecordKind.relation ≠ .state),
      hother _ (by decide : WorldRecordKind.obligation ≠ .state), hstates, map_append,
      map_replaceFirst StateRecord.subjectId hold hid hsubject, map_cons, map_nil]
    grind
  rw [Collections.validateReferences_eq_none,
    hother _ (by decide : WorldRecordKind.entity ≠ .state)]
  constructor
  · rintro ⟨_, _, hall⟩
    exact hall _ ((hreferenced _).mpr (.inl rfl))
  · intro hsubject'
    refine ⟨hentities, hrecordIds.nodup_iff.mpr (nodup_cons.mpr ⟨hfresh, hids⟩), ?_⟩
    intro id hid'
    rcases (hreferenced id).mp hid' with rfl | hid'
    · exact hsubject'
    · exact hknown id hid'

theorem applyOperations_pair {ended successor : ChangeOperation}
    (hended : readRecord ended = .ok ⟨.state, past⟩) (hreplace : ended.operation = .replace)
    (hsuccessor : readRecord successor = .ok ⟨.state, next⟩)
    (hcreate : successor.operation = .create) (hold : old ∈ world.records .state)
    (hid : past.stateId = old.stateId) (hfresh : next.stateId ∉ world.records.recordIds) :
    applyOperations world.records [ended, successor] = .ok (withPair world.records past next) := by
  have hkeys := map_replaceFirst StateRecord.stateId hold hid hid
  have hthere : Keyed.Applicable StateRecord.stateId (world.records .state)
      ⟨.replace, past⟩ := by
    simp only [Keyed.Applicable, Keyed.keys, hid]
    exact mem_map_of_mem hold
  have hnew : Keyed.Applicable StateRecord.stateId
      (Keyed.replaceFirst StateRecord.stateId past (world.records .state)) ⟨.create, next⟩ := by
    simp only [Keyed.Applicable, Keyed.keys, hkeys]
    intro hmem
    exact hfresh (by simp [Collections.recordIds, hmem])
  have hfirst : applyOperation world.records ended = .ok (Function.update world.records .state
      (Keyed.replaceFirst StateRecord.stateId past (world.records .state))) :=
    applyOperation_eq_ok.mpr ⟨.state, past, _, hended, by
      rw [hreplace]
      exact Keyed.edit_eq_some.mpr ⟨hthere, rfl⟩, rfl⟩
  have hsecond : applyOperation (Function.update world.records .state
      (Keyed.replaceFirst StateRecord.stateId past (world.records .state))) successor =
      .ok (withPair world.records past next) :=
    applyOperation_eq_ok.mpr ⟨.state, next, _, hsuccessor, by
      rw [hcreate, Function.update_self]
      exact Keyed.edit_eq_some.mpr ⟨hnew, rfl⟩, by
      rw [withPair, Function.update_idem]
      rfl⟩
  rw [applyOperations, foldlM_cons, hfirst]
  change List.foldlM applyOperation _ [successor] = _
  rw [foldlM_cons, hsecond]
  rfl

end WithPair


/-- The pair is what it should be: the times of the two states are there, have
    nothing in common and stay within what the old state had, the successor is
    new, and the pair applies to the world it was made for. -/
structure WellSplit (world : WorldRootDocument) (old : StateRecord)
    (ended successor : ChangeOperation) : Prop where
  times : ∃ past next : StateRecord, readRecord ended = .ok ⟨.state, past⟩ ∧
    readRecord successor = .ok ⟨.state, next⟩ ∧ past.validTime.during.Nonempty ∧
    next.validTime.during.Nonempty ∧ Disjoint past.validTime.during next.validTime.during ∧
    past.validTime.during ⊆ old.validTime.during
  fresh : successor.targetId ∉ world.records.recordIds
  accepted : ∀ changes commit, changes.operations = [ended, successor] →
    changes.baseCommit = commit.getD world.sourceCommit →
    ∃ proposed, apply world changes commit = .ok proposed

/-- The old state is not over before the new one starts. -/
def LastsUntil (old new : StateRecord) : Prop :=
  ∀ stop ∈ old.validTime.endOrdinal, ∀ start ∈ new.validTime.startOrdinal, start - 1 ≤ stop

/-- When the pair that stands for a replacement is what it should be. -/
theorem successor_split_iff {world : WorldRootDocument} {directive : Option Directive}
    {operation ended successor : ChangeOperation}
    {transforms : List NormalizationTransformReceipt} {old new : StateRecord}
    (hsplit : normalizeOperation (some world) directive operation =
      .ok ([ended, successor], transforms))
    (hpayload : decode operation.payload = some ⟨.state, new⟩)
    (hold : old ∈ world.records .state) (hid : old.stateId = operation.targetId) :
    WellSplit world old ended successor ↔
      LastsUntil old new ∧
        successorId operation.targetId ((operation.payload.get? "record").getD .null) ∉
          world.records.recordIds ∧
        new.subjectId ∈ (world.records .entity).map Entity.entityId := by
  rcases normalizeOperation_pair hsplit with ⟨record, current, hshape, hcurrent, hpair⟩
  -- The state that is there is the one that the claim is about.
  have hdump : current = StateRecord.codec.dump old := by
    rcases existing_ok hcurrent with ⟨found, hfound, hfoundId, rfl⟩
    have hsame : found = old :=
      inj_on_of_nodup_map (world.nodup_identities .state) hfound hold
        (hfoundId.trans hid.symm)
    rw [hsame]
    rfl
  subst hdump
  have hrecord : operation.payload.get? "record" = some record ∧
      StateRecord.codec.load record = some new := by
    simp only [shape?, Option.bind_eq_bind, Option.bind_eq_some_iff, Option.pure_def,
      Option.some.injEq, Prod.mk.injEq] at hshape
    rcases hshape with ⟨kind, _, raw, hraw, _, _, _, rfl⟩
    simp only [decode, Option.bind_eq_bind, Option.bind_eq_some_iff, Option.pure_def,
      Option.some.injEq] at hpayload
    rcases hpayload with ⟨kind', _, raw', hraw', _, _, loaded, hload, hsame⟩
    cases hsame
    rw [hraw] at hraw'
    cases hraw'
    exact ⟨hraw, hload⟩
  rcases successorOperations_ok hpair with ⟨ended', successor', oldTime, oldStart, newStart, heq, h⟩
  rw [List.cons.injEq, List.cons.injEq] at heq
  rcases heq with ⟨rfl, rfl, _⟩
  rcases h.startOrdinal_old with ⟨_, holdStart⟩
  rcases h.reads_ended hid with ⟨hordered, hended⟩
  rcases h.reads_successor hrecord.2 with ⟨hsuccessor, hnewStart⟩
  rw [hrecord.1, Option.getD_some]
  have htarget : successor.targetId = successorId operation.targetId record := by
    rw [h.successor_eq]
  have hlasts : LastsUntil old new ↔ ∀ stop ∈ old.validTime.endOrdinal, newStart - 1 ≤ stop := by
    simp [LastsUntil, hnewStart]
  have hwithin := StoryTime.during_subset_iff (h := hordered) holdStart
  rw [hlasts, ← htarget]
  have hreplace : ended.operation = .replace := by rw [h.ended_eq]
  have hcreate : successor.operation = .create := by rw [h.successor_eq]
  have happlies : successor.targetId ∉ world.records.recordIds →
      applyOperations world.records [ended, successor] = .ok (withPair world.records
        (old.endedAt (newStart - 1) hordered) { new with stateId := successor.targetId }) := by
    intro hfresh
    rw [← htarget] at hsuccessor
    exact applyOperations_pair hended hreplace hsuccessor hcreate hold rfl hfresh
  have hvalid : successor.targetId ∉ world.records.recordIds →
      ((withPair world.records (old.endedAt (newStart - 1) hordered)
        { new with stateId := successor.targetId }).validateReferences = none ↔
        new.subjectId ∈ (world.records .entity).map Entity.entityId) :=
    fun hfresh => withPair_valid hold rfl rfl hfresh
  constructor
  · rintro ⟨⟨past, next, hpast, _, _, _, _, hsubset⟩, hfresh, haccepted⟩
    rw [hended] at hpast
    cases hpast
    refine ⟨hwithin.mp hsubset, hfresh, ?_⟩
    rcases haccepted ⟨operation.operationId, world.sourceCommit,
      ⟨world.rootHash, "application/json", 0, world.schemaVersion⟩, [ended, successor]⟩ none rfl rfl
      with ⟨proposed, happly⟩
    have hrecords := (apply_ok.mp happly).2.1
    rw [happlies hfresh] at hrecords
    have hreferences := proposed.references
    rw [← Except.ok.inj hrecords] at hreferences
    exact (hvalid hfresh).mp hreferences
  · rintro ⟨hall, hfresh, hknown⟩
    refine ⟨⟨_, _, hended, hsuccessor, ?_, ?_, ?_, hwithin.mpr hall⟩, hfresh, ?_⟩
    · exact StoryTime.during_nonempty holdStart
    · exact StoryTime.during_nonempty hnewStart
    · exact StoryTime.during_disjoint rfl hnewStart (by omega)
    · intro changes commit hoperations hbase
      have happly := happlies hfresh
      rw [← hoperations] at happly
      rcases exists_apply changes hbase happly ((hvalid hfresh).mpr hknown) with
        ⟨proposed, hproposed, _⟩
      exact ⟨proposed, hproposed⟩

end MutationNormalizer

namespace Sample

def mood : StateRecord where
  stateId := ⟨"state.mood", by decide⟩
  subjectId := hero.entityId
  predicate := ⟨"mood", by decide⟩
  value := .string "calm"
  validTime := ⟨⟨"main", main_ne⟩, some 1, some 3, none, by decide⟩
  evidenceRefs := []
  truthClass := .acceptedWorldFact

def moodWorld : WorldRootDocument where
  rootHash := commit
  schemaVersion := version
  sourceCommit := commit
  records
    | .entity => [hero]
    | .state => [mood]
    | _ => []
  references := by decide

def place (start : Int) : StateRecord :=
  { mood with
    predicate := ⟨"place", by decide⟩
    validTime := ⟨⟨"main", by decide⟩, some start, none, none, by simp [ordinalsOrdered]⟩ }

def placed (start : Int) : ChangeOperation where
  operationId := ⟨"op", .refl true⟩
  rootKind := .world
  operation := .replace
  targetId := mood.stateId
  payload := recordPayload .state (place start)
  evidenceRefs := []

def successors : MutationNormalizer.Directive := ⟨[], true⟩

end Sample

open Sample

namespace MutationNormalizer

theorem normalizeOperation_placed {start : Int}
    (h : ((normalizeOperation (some moodWorld) (some successors)
      (placed start)).toOption.map fun result => result.1.length) = some 2) :
    ∃ ended successor transforms,
      normalizeOperation (some moodWorld) (some successors) (placed start) =
        .ok ([ended, successor], transforms) := by
  rcases Outcome.ok_of_map h with ⟨⟨operations, transforms⟩, hnormal, hlength⟩
  rcases length_eq_two.mp hlength with ⟨ended, successor, rfl⟩
  exact ⟨ended, successor, transforms, hnormal⟩

/-- A state that lasts up to the start of its successor is split well. -/
theorem successor_split_on_time :
    ∃ ended successor transforms,
      normalizeOperation (some moodWorld) (some successors) (placed 4) =
        .ok ([ended, successor], transforms) ∧
      WellSplit moodWorld mood ended successor := by
  rcases normalizeOperation_placed (by decide +kernel :
    ((normalizeOperation (some moodWorld) (some successors)
      (placed 4)).toOption.map fun result => result.1.length) = some 2) with
    ⟨ended, successor, transforms, hsplit⟩
  have hdecode : decode (placed 4).payload = some ⟨.state, place 4⟩ :=
    decode_recordPayload .state (place 4)
  refine ⟨ended, successor, transforms, hsplit,
    (successor_split_iff hsplit hdecode (mem_singleton_self _) rfl).mpr ⟨?_, ?_, ?_⟩⟩
  · intro stop hstop start hstart
    cases hstop
    cases hstart
    decide
  · decide +kernel
  · decide

/-- A state that was over long before is made to last up to its successor. -/
theorem ended_state_lengthened :
    ∃ ended successor transforms,
      normalizeOperation (some moodWorld) (some successors) (placed 10) =
        .ok ([ended, successor], transforms) ∧
      decode (placed 10).payload = some ⟨.state, place 10⟩ ∧
      mood ∈ moodWorld.records .state ∧
      mood.stateId = (placed 10).targetId ∧
      ¬ WellSplit moodWorld mood ended successor := by
  rcases normalizeOperation_placed (by decide +kernel :
    ((normalizeOperation (some moodWorld) (some successors)
      (placed 10)).toOption.map fun result => result.1.length) = some 2) with
    ⟨ended, successor, transforms, hsplit⟩
  have hdecode : decode (placed 10).payload = some ⟨.state, place 10⟩ :=
    decode_recordPayload .state (place 10)
  -- The end of the old state, as the overlay reads it.
  have hlate : ((normalizeOperation (some moodWorld) (some successors)
      (placed 10)).toOption.bind fun result => result.1.head?.bind fun first =>
        (readRecord first).toOption) = some ⟨.state, mood.endedAt 9 (by decide)⟩ := by
    decide +kernel
  rw [hsplit] at hlate
  have hpast : readRecord ended = .ok ⟨.state, mood.endedAt 9 (by decide)⟩ := by
    cases hread : readRecord ended with
    | error error => simp [Except.toOption, hread] at hlate
    | ok record => simpa [Except.toOption, hread] using hlate
  refine ⟨ended, successor, transforms, hsplit, hdecode, mem_singleton_self _, rfl, ?_⟩
  rintro ⟨⟨past, _, hpast', _, _, _, _, hsubset⟩, _, _⟩
  rw [hpast] at hpast'
  cases hpast'
  have hpoint : (9 : Int) ∈ (mood.endedAt 9 (by decide)).validTime.during := by
    simp [StoryTime.during, StateRecord.endedAt, mood]
  have := (hsubset hpoint).2 3 rfl
  omega

end MutationNormalizer

end NovelAgent.World
