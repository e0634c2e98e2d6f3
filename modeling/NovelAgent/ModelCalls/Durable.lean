import NovelAgent.ModelCalls.Agreement
import NovelAgent.ModelCalls.Resend
import NovelAgent.ModelCalls.Structured

/-!
# The Durable Ledger under the Gateway

What the gateway settles, and whether the table of the ledger stays readable.
-/

namespace NovelAgent.ModelCalls

open Core Domain Core.Session Core.Outcome

/-! ### The table -/

/-- The row of an entry, validated or not. -/
def fieldsRow (database : Database ModelCallRecord) (entry : Entry) : LedgerRow Timestamp where
  requestId := entry.requestId.root
  runId := entry.runId.root
  taskId := entry.taskId.root
  attemptId := entry.attemptId.map (·.root)
  requestHash := entry.requestHash.root
  status := entry.status.value
  logicalPhase := entry.logicalPhase
  effectiveBudgetJson := EffectiveBudgetResult.codec.dump entry.effectiveBudget
  reasoningIncludedInCompletionTokens := entry.reasoningIncludedInCompletionTokens
  providerRequestId := entry.providerRequestId
  providerSentAt := entry.providerSentAt
  rawResponseHash := entry.rawResponseHash.map (·.root)
  rawArtifactJson := entry.rawArtifactRef.map Context.artifactRefCodec.dump
  callRecordJson := entry.callRecord.map database.call.dump
  validationError := entry.validationError
  transportErrorType := entry.transportErrorType
  requestedAt := entry.requestedAt
  completedAt := entry.completedAt

/-- A column of this width takes the text, if there is one. -/
def Within (width : Nat) (text : Option String) : Prop :=
  ∀ value ∈ text, value.length ≤ width

instance (width : Nat) (text : Option String) : Decidable (Within width text) := by
  unfold Within
  infer_instance

/-- The columns of the table are as wide as the texts of the row. -/
def LedgerRow.Roomy {Time : Type} (row : LedgerRow Time) : Prop :=
  row.requestId.length ≤ 128 ∧ row.runId.length ≤ 128 ∧ row.taskId.length ≤ 128 ∧
    Within 128 row.attemptId ∧ row.requestHash.length ≤ 71 ∧ row.status.length ≤ 32 ∧
    row.logicalPhase.length ≤ 256 ∧ Within 256 row.providerRequestId ∧
    Within 71 row.rawResponseHash ∧ Within 4096 row.validationError ∧
    Within 240 row.transportErrorType

instance {Time : Type} (row : LedgerRow Time) : Decidable row.Roomy := by
  unfold LedgerRow.Roomy
  infer_instance

/-- The rows of the table under their keys, and what was given for them last. -/
structure StoredCalls where
  rows : Table StableId (LedgerRow Timestamp)
  given : Table StableId Entry

/-- Write an entry under its key. -/
def StoredCalls.store (database : Database ModelCallRecord) (entry : Entry)
    (ledger : StoredCalls) : Except LedgerError (Entry × StoredCalls) :=
  if (fieldsRow database entry).Roomy then
    .ok (entry,
      { rows := ledger.rows.insert entry.requestId (fieldsRow database entry)
        given := ledger.given.insert entry.requestId entry })
  else .error .database

/-- The durable ledger as a port. -/
def storedCalls (database : Database ModelCallRecord) : LedgerPort StoredCalls where
  createRequested request effectiveBudget reasoningIncluded now := fun ledger =>
    match ledger.rows.lookup request.requestId with
    | some row => do
        let existing ← toDomain database row
        match identityError existing.toLedgerFields request effectiveBudget reasoningIncluded with
        | some error => .error error
        | none => .ok (existing.toLedgerFields, ledger)
    | none =>
      ledger.store database
        (requestedEntry request effectiveBudget reasoningIncluded now).toLedgerFields
  rebindRequested request expectedRequestHash effectiveBudget reasoningIncluded := fun ledger =>
    match ledger.rows.lookup request.requestId with
    | none => .error (.notReserved request.requestId.root)
    | some row => do
        let existing ← toDomain database row
        match rebindError existing.toLedgerFields expectedRequestHash effectiveBudget
            reasoningIncluded with
        | some error => .error error
        | none =>
          ledger.store database (existing.rebound (modelRequestHash request)).toLedgerFields
  settle entry := fun ledger =>
    match ledger.rows.lookup entry.requestId with
    | none => .error (.notReserved entry.requestId.root)
    | some row => do
        let existing ← toDomain database row
        match settlementError existing.toLedgerFields entry with
        | some error => .error error
        | none => ledger.store database entry
  load requestId := fun ledger =>
    match ledger.rows.lookup requestId with
    | none => .ok (none, ledger)
    | some row => (toDomain database row).map fun entry => (some entry.toLedgerFields, ledger)

def StoredCalls.ordered (ledger : StoredCalls) : List (LedgerRow Timestamp) :=
  List.insertionSort (fun a b => a.requestId ≤ b.requestId) (ledger.rows.entries.map (·.2))

/-- The entries under an identity. -/
def StoredCalls.listForPrefix (database : Database ModelCallRecord) (ledger : StoredCalls)
    (requestIdPrefix : String) : Except LedgerError (List (ModelCallLedgerEntry ModelCallRecord)) :=
  (ledger.ordered.filter fun row => Selected requestIdPrefix row.requestId).mapM
    (toDomain database)

def StoredCalls.listForRun (database : Database ModelCallRecord) (ledger : StoredCalls)
    (runId : RunId) : Except LedgerError (List (ModelCallLedgerEntry ModelCallRecord)) :=
  (ledger.ordered.filter fun row => row.runId = runId.root).mapM (toDomain database)

/-! ### Sound entries -/

/-- The entry is valid and fits its columns, its points in time have a zone, and it has
    all of the evidence of an answer or none of it. -/
structure Entry.Sound (database : Database ModelCallRecord) (entry : Entry) : Prop where
  valid : entry.Valid
  roomy : (fieldsRow database entry).Roomy
  sent : entry.providerSentAt.map asUtc = entry.providerSentAt
  requested : asUtc entry.requestedAt = entry.requestedAt
  completed : entry.completedAt.map asUtc = entry.completedAt
  evidence : entry.rawResponseHash ≠ none → entry.callRecord ≠ none ∧ entry.completedAt ≠ none

variable {database : Database ModelCallRecord} {entry : Entry}

theorem roomy_iff : (fieldsRow database entry).Roomy ↔
    entry.logicalPhase.length ≤ 256 ∧ Within 256 entry.providerRequestId ∧
      Within 4096 entry.validationError ∧ Within 240 entry.transportErrorType := by
  constructor
  · rintro ⟨_, _, _, _, _, _, hphase, hprovider, _, hdetail, htransport⟩
    exact ⟨hphase, hprovider, hdetail, htransport⟩
  · rintro ⟨hphase, hprovider, hdetail, htransport⟩
    refine ⟨(textFits_stableId _).1, (textFits_stableId _).1, (textFits_stableId _).1, ?_,
      (textFits_contentHash _).1, (textFits_status _).1, hphase, hprovider, ?_, hdetail, htransport⟩
    · intro value hvalue
      rcases Option.mem_map.mp hvalue with ⟨id, _, rfl⟩
      exact (textFits_stableId id).1
    · intro value hvalue
      rcases Option.mem_map.mp hvalue with ⟨hash, _, rfl⟩
      exact (textFits_contentHash hash).1

/-- A sound entry reads back as it was given. -/
theorem toDomain_fieldsRow (h : entry.Sound database) :
    toDomain database (fieldsRow database entry) = .ok ⟨entry, h.valid⟩ := by
  unfold toDomain
  simp only [fieldsRow, h.sent, h.requested, h.completed,
    validatedOption_map (fun ref => Context.artifactRefCodec.load_dump ref),
    validatedOption_map (fun record => database.call.load_dump record),
    validatedOption_map StableId.ofString?_root, validatedOption_map contentHash?_root,
    StableId.ofString?_root, contentHash?_root, ledgerStatus?_value, Codec.load_dump,
    validated, bind, Except.bind, pure, Except.pure]
  exact dif_pos h.valid

theorem within_none (width : Nat) : Within width none := nofun

variable {width : Nat}

theorem within_some {text : String} (h : text.length ≤ width) : Within width (some text) := by
  intro value hvalue
  rw [← Option.some.inj hvalue]
  exact h

theorem within_present {text : Option String} (h : Within width text) :
    Within width (present text) ∧ present text ≠ some "" := by
  unfold present
  constructor
  · intro value hvalue
    exact h value (Option.mem_filter_iff.mp hvalue).1
  · intro hempty
    have hkept := (Option.mem_filter_iff.mp (Option.mem_def.mpr hempty)).2
    exact absurd hkept (by simp)

variable {text other : Option String}

theorem within_or (h : Within width text) (hother : Within width other) :
    Within width (text.or other) := by
  cases text with
  | none => exact hother
  | some value => exact h

theorem or_ne_empty (h : text ≠ some "") (hother : other ≠ some "") : text.or other ≠ some "" := by
  cases text with
  | none => exact hother
  | some value => exact h

/-- A type's name that the ledger takes. -/
def NameFits (typeName : String) : Prop :=
  typeName ≠ "" ∧ typeName.length ≤ 240

theorem nameFits_own : NameFits "RawResponsePersistenceError" ∧ NameFits "OutputLengthError" :=
  ⟨⟨by decide, by decide⟩, ⟨by decide, by decide⟩⟩

variable {identity : Option String} {validationDetail : String}

namespace Entry.Sound

section

variable (h : entry.Sound database)

include h

theorem bounds :
    entry.logicalPhase.length ≤ 256 ∧ Within 256 entry.providerRequestId ∧
      Within 4096 entry.validationError ∧ Within 240 entry.transportErrorType :=
  roomy_iff.mp h.roomy

theorem marked (hidentity : Within 256 identity) (sentAt : Int) :
    (entry.sent identity sentAt).Sound database where
  valid := { h.valid with provider := (within_present hidentity).2 }
  roomy := roomy_iff.mpr
    ⟨h.bounds.1, (within_present hidentity).1, h.bounds.2.2.1, h.bounds.2.2.2⟩
  sent := rfl
  requested := h.requested
  completed := h.completed
  evidence := h.evidence

variable {typeName : String}

theorem uncertain (hname : NameFits typeName) :
    (entry.uncertain typeName).Sound database where
  valid :=
    { h.valid with
      transport := by
        intro text htext
        rw [← Option.some.inj htext]
        exact hname
      answered := by simp [ModelCallLedgerStatus.Answered, Entry.uncertain]
      rejected := nofun
      exhausted := nofun }
  roomy := roomy_iff.mpr
    ⟨h.bounds.1, h.bounds.2.1, h.bounds.2.2.1, within_some hname.2⟩
  sent := h.sent
  requested := h.requested
  completed := h.completed
  evidence := h.evidence

variable {provider : Option String}

theorem unretained (hprovider : Within 256 provider) (hnamed : provider ≠ some "")
    (completedAt : Int) :
    (entry.unretained provider completedAt).Sound database where
  valid :=
    { h.valid with
      provider := hnamed
      transport := by
        intro text htext
        rw [← Option.some.inj htext]
        exact nameFits_own.1
      answered := by simp [ModelCallLedgerStatus.Answered, Entry.unretained]
      rejected := nofun
      exhausted := nofun }
  roomy := roomy_iff.mpr
    ⟨h.bounds.1, hprovider, h.bounds.2.2.1, within_some nameFits_own.1.2⟩
  sent := h.sent
  requested := h.requested
  completed := rfl
  evidence hanswer := ⟨(h.evidence hanswer).1, by simp [Entry.unretained]⟩

theorem exhausted (hname : NameFits typeName) (completedAt : Int) :
    (entry.exhausted typeName completedAt).Sound database where
  valid :=
    { h.valid with
      transport := by
        intro text htext
        rw [← Option.some.inj htext]
        exact hname
      answered := by simp [ModelCallLedgerStatus.Answered, Entry.exhausted]
      rejected := nofun
      exhausted := fun _ => ⟨by simp [Entry.exhausted], by simp [Entry.exhausted]⟩ }
  roomy := roomy_iff.mpr
    ⟨h.bounds.1, h.bounds.2.1, h.bounds.2.2.1, within_some hname.2⟩
  sent := h.sent
  requested := h.requested
  completed := rfl
  evidence hanswer := ⟨(h.evidence hanswer).1, by simp [Entry.exhausted]⟩

theorem answered {status : ModelCallLedgerStatus}
    (hstatus : status = .completed ∨ status = .outputIncomplete) (hprovider : Within 256 provider)
    (hnamed : provider ≠ some "") (text : String) (rawArtifactRef : Option ArtifactRef)
    (record : ModelCallRecord) {transport : Option String}
    (htransport : ∀ name ∈ transport, NameFits name) (completedAt : Int) :
    (entry.answered status provider text rawArtifactRef record transport completedAt).Sound
      database where
  valid :=
    { h.valid with
      provider := hnamed
      transport := htransport
      answered := fun _ => ⟨by simp [Entry.answered], by simp [Entry.answered],
        by simp [Entry.answered]⟩
      rejected := by
        intro hrejected
        have hsame : status = .validationRejected := hrejected
        rcases hstatus with hstatus | hstatus
        · exact absurd (hstatus.symm.trans hsame) (by decide)
        · exact absurd (hstatus.symm.trans hsame) (by decide)
      exhausted := by
        intro hexhausted
        have hsame : status = .transportExhausted := hexhausted
        rcases hstatus with hstatus | hstatus
        · exact absurd (hstatus.symm.trans hsame) (by decide)
        · exact absurd (hstatus.symm.trans hsame) (by decide) }
  roomy := roomy_iff.mpr ⟨h.bounds.1, hprovider, h.bounds.2.2.1, fun name hname =>
    (htransport name hname).2⟩
  sent := h.sent
  requested := h.requested
  completed := rfl
  evidence _ := ⟨by simp [Entry.answered], by simp [Entry.answered]⟩

theorem rejected (hanswer : entry.rawResponseHash ≠ none)
    (hdetail : validationDetail.length ≤ 4096) :
    (entry.rejected validationDetail).Sound database where
  valid :=
    { h.valid with
      detail := by
        intro text htext
        rw [← Option.some.inj htext]
        exact hdetail
      answered := fun _ => ⟨hanswer, h.evidence hanswer⟩
      rejected := fun _ => by simp [Entry.rejected]
      exhausted := nofun }
  roomy := roomy_iff.mpr
    ⟨h.bounds.1, h.bounds.2.1, within_some hdetail, h.bounds.2.2.2⟩
  sent := h.sent
  requested := h.requested
  completed := h.completed
  evidence := h.evidence

end

end Entry.Sound

/-! ### One operation -/

/-- The rows are those of sound entries, the ones that the table was given last. -/
structure StoredCalls.Readable (database : Database ModelCallRecord) (ledger : StoredCalls) :
    Prop where
  rows : ∀ requestId,
    ledger.rows.lookup requestId = (ledger.given.lookup requestId).map (fieldsRow database)
  sound : ∀ requestId entry, ledger.given.lookup requestId = some entry →
    entry.requestId = requestId ∧ entry.Sound database

/-- The ledger with one more entry. -/
def StoredCalls.wrote (database : Database ModelCallRecord) (ledger : StoredCalls)
    (entry : Entry) : StoredCalls where
  rows := ledger.rows.insert entry.requestId (fieldsRow database entry)
  given := ledger.given.insert entry.requestId entry

def SameCall (existing entry : Entry) : Prop :=
  existing.requestId = entry.requestId ∧ existing.requestHash = entry.requestHash ∧
    existing.runId = entry.runId ∧ existing.taskId = entry.taskId ∧
    existing.effectiveBudget = entry.effectiveBudget ∧
    existing.reasoningIncludedInCompletionTokens = entry.reasoningIncludedInCompletionTokens

theorem SameCall.refl (entry : Entry) : SameCall entry entry :=
  ⟨rfl, rfl, rfl, rfl, rfl, rfl⟩

theorem SameCall.trans {entry entry' entry'' : Entry} (h : SameCall entry entry')
    (h' : SameCall entry' entry'') : SameCall entry entry'' := by
  rcases h with ⟨hid, hhash, hrun, htask, hbudget, hreasoning⟩
  rcases h' with ⟨hid', hhash', hrun', htask', hbudget', hreasoning'⟩
  exact ⟨hid.trans hid', hhash.trans hhash', hrun.trans hrun', htask.trans htask',
    hbudget.trans hbudget', hreasoning.trans hreasoning'⟩

/-- The refusal to settle a call that has ended as another one. -/
def terminalError : LedgerError := .collision "terminal model call cannot be overwritten"

variable {ledger : StoredCalls} {existing : Entry} {requestId : StableId}

theorem settlementError_same (h : SameCall existing entry) :
    settlementError existing entry = none ∨ settlementError existing entry = some terminalError := by
  rcases h with ⟨_, hhash, hrun, htask, hbudget, hreasoning⟩
  unfold settlementError
  rw [if_neg (by simp [hhash, hrun, htask, hbudget, hreasoning])]
  split
  · exact .inr rfl
  · exact .inl rfl

namespace StoredCalls.Readable

theorem wrote (h : ledger.Readable database) (hsound : entry.Sound database) :
    (ledger.wrote database entry).Readable database where
  rows other := by
    change (ledger.rows.insert _ _).lookup other = ((ledger.given.insert _ _).lookup other).map _
    rw [Table.lookup_insert_if, Table.lookup_insert_if]
    by_cases hother : other = entry.requestId
    · rw [if_pos hother, if_pos hother]
      rfl
    · rw [if_neg hother, if_neg hother]
      exact h.rows other
  sound := Table.forall_lookup_insert h.sound ⟨rfl, hsound⟩

theorem store (hsound : entry.Sound database) :
    ledger.store database entry = .ok (entry, ledger.wrote database entry) :=
  if_pos hsound.roomy

theorem row_none (h : ledger.Readable database) (hgiven : ledger.given.lookup requestId = none) :
    ledger.rows.lookup requestId = none := by
  rw [h.rows, hgiven]
  rfl

theorem row_some (h : ledger.Readable database)
    (hgiven : ledger.given.lookup requestId = some existing) :
    ledger.rows.lookup requestId = some (fieldsRow database existing) := by
  rw [h.rows, hgiven]
  rfl

theorem given_self (ledger : StoredCalls) (entry : Entry) :
    (ledger.wrote database entry).given.lookup entry.requestId = some entry :=
  AList.lookup_insert _

section

variable (h : ledger.Readable database)

include h

theorem load (requestId : StableId) :
    (storedCalls database).load requestId ledger = .ok (ledger.given.lookup requestId, ledger) := by
  cases hgiven : ledger.given.lookup requestId with
  | none => simp only [storedCalls, h.row_none hgiven]
  | some existing =>
    simp only [storedCalls, h.row_some hgiven,
      toDomain_fieldsRow (h.sound _ _ hgiven).2]
    rfl

theorem createRequested_new {request : ModelRequest}
    (hgiven : ledger.given.lookup request.requestId = none)
    (hphase : request.logicalPhase.length ≤ 256) (budget : EffectiveBudgetResult)
    (reasoningIncluded : Bool) (now : Int) :
    let fresh : Entry := (requestedEntry request budget reasoningIncluded now).toLedgerFields
    fresh.Sound database ∧
      (storedCalls database).createRequested request budget reasoningIncluded now ledger =
        .ok (fresh, ledger.wrote database fresh) := by
  intro fresh
  have hsound : fresh.Sound database :=
    { valid := (requestedEntry request budget reasoningIncluded now).valid
      roomy := roomy_iff.mpr ⟨hphase, within_none _, within_none _, within_none _⟩
      sent := rfl
      requested := rfl
      completed := rfl
      evidence := fun hanswer => absurd rfl hanswer }
  refine ⟨hsound, ?_⟩
  simp only [storedCalls, h.row_none hgiven]
  exact store hsound

theorem createRequested (request : ModelRequest) (budget : EffectiveBudgetResult)
    (reasoningIncluded : Bool) (now : Int) :
    (∃ error, (storedCalls database).createRequested request budget reasoningIncluded now ledger =
      .error error) ∨
    ∃ entry ledger', (storedCalls database).createRequested request budget reasoningIncluded now
      ledger = .ok (entry, ledger') ∧ ledger'.Readable database ∧
      ledger'.given.lookup request.requestId = some entry := by
  cases hgiven : ledger.given.lookup request.requestId with
  | none =>
    let fresh : Entry := (requestedEntry request budget reasoningIncluded now).toLedgerFields
    by_cases hphase : request.logicalPhase.length ≤ 256
    · rcases h.createRequested_new hgiven hphase budget reasoningIncluded now with
        ⟨hsound, hcreated⟩
      exact .inr ⟨fresh, _, hcreated, h.wrote hsound, given_self ledger fresh⟩
    · simp only [storedCalls, h.row_none hgiven]
      have hwide : ¬ (fieldsRow database fresh).Roomy :=
        fun hroomy => hphase (roomy_iff.mp hroomy).1
      exact .inl ⟨_, if_neg hwide⟩
  | some existing =>
    simp only [storedCalls, h.row_some hgiven, toDomain_fieldsRow (h.sound _ _ hgiven).2]
    cases hidentity : identityError existing request budget reasoningIncluded with
    | some error =>
      exact .inl ⟨error, by simp only [bind, Except.bind, hidentity]⟩
    | none =>
      exact .inr ⟨existing, ledger, by simp only [bind, Except.bind, hidentity], h, hgiven⟩

theorem rebindRequested (request : ModelRequest) (expected : ArtifactId)
    (budget : EffectiveBudgetResult) (reasoningIncluded : Bool) :
    (∃ error, (storedCalls database).rebindRequested request expected budget reasoningIncluded
      ledger = .error error) ∨
    ∃ entry ledger', (storedCalls database).rebindRequested request expected budget
      reasoningIncluded ledger = .ok (entry, ledger') ∧ ledger'.Readable database ∧
      ledger'.given.lookup request.requestId = some entry := by
  cases hgiven : ledger.given.lookup request.requestId with
  | none =>
    simp only [storedCalls, h.row_none hgiven]
    exact .inl ⟨_, rfl⟩
  | some existing =>
    rcases h.sound _ _ hgiven with ⟨hown, hsound⟩
    simp only [storedCalls, h.row_some hgiven, toDomain_fieldsRow hsound]
    cases hrebind : rebindError existing expected budget reasoningIncluded with
    | some error =>
      exact .inl ⟨error, by simp only [bind, Except.bind, hrebind]⟩
    | none =>
      let rebound : Entry := { existing with requestHash := modelRequestHash request }
      have hrebound : rebound.Sound database :=
        { valid := { hsound.valid with }
          roomy := roomy_iff.mpr hsound.bounds
          sent := hsound.sent
          requested := hsound.requested
          completed := hsound.completed
          evidence := hsound.evidence }
      refine .inr ⟨rebound, _, ?_, h.wrote hrebound, ?_⟩
      · simp only [bind, Except.bind, hrebind]
        exact store hrebound
      · rw [← hown]
        exact given_self ledger rebound

theorem settle (entry : Entry) (hgiven : ledger.given.lookup entry.requestId = some existing) :
    (storedCalls database).settle entry ledger =
      match settlementError existing entry with
      | some error => .error error
      | none => ledger.store database entry := by
  simp only [storedCalls, h.row_some hgiven, toDomain_fieldsRow (h.sound _ _ hgiven).2, bind,
    Except.bind]

end

end StoredCalls.Readable

/-! ### The gateway -/

/-- The table is readable, and every settlement so far was of a sound entry, stored or
    refused as terminal. -/
structure Clean (database : Database ModelCallRecord) (state : GatewayState StoredCalls) :
    Prop where
  readable : state.ledger.Readable database
  settled : ∀ entry error, (entry, error) ∈ state.settlements →
    entry.Sound database ∧ (error = none ∨ error = some terminalError)

def Holds (ledger : StoredCalls) (entry : Entry) : Prop :=
  ∃ existing, ledger.given.lookup entry.requestId = some existing ∧ SameCall existing entry

variable {state : GatewayState StoredCalls} {gateway : ModelGateway} {port : LedgerPort StoredCalls}
    {circumstances : Circumstances} {request : TextRequest} {prepared : Prepared} {α : Type}

/-- A settlement of the same call is stored or refused as terminal. -/
theorem sound_put (h : Clean database state) (hsound : entry.Sound database)
    (hholds : Holds state.ledger entry) :
    Ensures ((storedCalls database).put entry)
      (fun _ state' => Clean database state' ∧
        state'.ledger.given.lookup entry.requestId = some entry)
      (fun _ state' => Clean database state' ∧ state'.ledger = state.ledger) state := by
  rcases hholds with ⟨existing, hgiven, hsame⟩
  have hsettle := h.readable.settle _ hgiven
  have hsettled : ∀ error : Option LedgerError, (error = none ∨ error = some terminalError) →
      ∀ entry' error', (entry', error') ∈ state.settlements ++ [(entry, error)] →
        entry'.Sound database ∧ (error' = none ∨ error' = some terminalError) := by
    intro error herror entry' error' hmem
    rcases List.mem_append.mp hmem with hbefore | hlast
    · exact h.settled entry' error' hbefore
    · rw [List.mem_singleton, Prod.mk.injEq] at hlast
      rw [hlast.1, hlast.2]
      exact ⟨hsound, herror⟩
  unfold Ensures LedgerPort.put
  rw [hsettle]
  rcases settlementError_same hsame with hguard | hguard
  · rw [hguard]
    dsimp only
    rw [StoredCalls.Readable.store hsound]
    exact ⟨⟨h.readable.wrote hsound, hsettled none (.inl rfl)⟩,
      StoredCalls.Readable.given_self _ _⟩
  · rw [hguard]
    exact ⟨⟨h.readable, hsettled (some terminalError) (.inr rfl)⟩, rfl⟩

variable {known : Entry}

theorem Holds.congr (h : Holds ledger known) (hsame : SameCall known entry) :
    Holds ledger entry := by
  rcases h with ⟨existing, hgiven, hexisting⟩
  exact ⟨existing, by rw [← hsame.1]; exact hgiven, hexisting.trans hsame⟩

variable {Q : α → GatewayState StoredCalls → Prop}

theorem sound_put_raise (h : Clean database state) (hholds : Holds state.ledger known)
    (hsound : entry.Sound database) (hsame : SameCall known entry) (error : GatewayError) :
    Ensures (do (storedCalls database).put entry; raise error) Q
      (fun _ state' => Clean database state') state := by
  rw [ensures_bind]
  exact (sound_put h hsound (hholds.congr hsame)).mono (fun _ _ h' => h'.1) fun _ _ h' => h'.1

/-- The texts of an outcome that go into the ledger are within bounds. -/
def ProviderOutcome.Bounded : ProviderOutcome → Prop
  | .result answer => Within 256 answer.providerRequestId
  | .cancelled typeName => NameFits typeName
  | .timeout typeName => NameFits typeName
  | .incomplete _ answer => Within 256 answer.providerRequestId
  | .failed typeName => NameFits typeName
  | .interrupted => True

/-- The texts of a call that go into the ledger are within bounds. -/
structure Circumstances.Bounded (circumstances : Circumstances) : Prop where
  identity : ∀ identity, circumstances.identity = .ok identity → Within 256 identity
  outcome : circumstances.outcome.Bounded

theorem reserveEntry_clean (h : Clean database state) (unbound : TextRequest) :
    Ensures (gateway.reserveEntry (storedCalls database) circumstances unbound prepared)
      (fun entry state' => Clean database state' ∧
        state'.ledger.given.lookup prepared.request.requestId = some entry)
      (fun _ state' => Clean database state') state := by
  unfold ModelGateway.reserveEntry Ensures
  rcases h.readable.createRequested (gateway.ledgerRequest prepared.request) prepared.budget
    prepared.endpoint.reasoningIncludedInCompletionTokens circumstances.requestedAt with
    ⟨error, hcreated⟩ | ⟨entry, ledger, hcreated, hreadable, hgiven⟩
  · rw [bind_tryLedger_error hcreated]
    cases error with
    | collision message =>
      dsimp only
      rw [bind_onLedger_ok (h.readable.load _)]
      cases hgiven : state.ledger.given.lookup prepared.request.requestId with
      | none => exact h
      | some existing =>
        dsimp only
        by_cases hhash : existing.requestHash ≠ gateway.requestHash unbound
        · rw [if_pos hhash]
          exact h
        · rw [if_neg hhash]
          rcases h.readable.rebindRequested (gateway.ledgerRequest prepared.request)
            existing.requestHash prepared.budget
            prepared.endpoint.reasoningIncludedInCompletionTokens with
            ⟨error, hrebind⟩ | ⟨entry, ledger, hrebind, hreadable, hgiven⟩
          · rw [onLedger_error hrebind]
            exact h
          · rw [onLedger_ok hrebind]
            exact ⟨⟨hreadable, h.settled⟩, hgiven⟩
    | notReserved requestId => exact h
    | database => exact h
    | invalidRow => exact h
  · rw [bind_tryLedger_ok hcreated]
    exact ⟨⟨hreadable, h.settled⟩, hgiven⟩

theorem reserve_clean (h : Clean database state) (hbounded : circumstances.Bounded)
    (unbound : TextRequest) :
    Ensures (gateway.reserve (storedCalls database) circumstances unbound prepared)
      (fun sent state' => Clean database state' ∧ sent.requestId = prepared.request.requestId ∧
        Holds state'.ledger sent ∧ sent.Sound database)
      (fun _ state' => Clean database state') state := by
  unfold ModelGateway.reserve
  rw [ensures_bind]
  refine (reserveEntry_clean h unbound).imp fun entry state₁ hreserved => ?_
  rcases hreserved with ⟨hclean, hgiven⟩
  rcases hclean.readable.sound _ _ hgiven with ⟨hown, hsound⟩
  by_cases huncertain : entry.status = .uncertain
  · rw [if_pos huncertain]
    exact hclean
  · rw [if_neg huncertain, ensures_bind]
    cases hidentity : circumstances.identity with
    | error typeName => exact hclean
    | ok identity =>
      have hsent := hsound.marked (hbounded.identity identity hidentity) circumstances.sentAt
      have hreturn : (ofExcept ((Except.ok identity).mapError GatewayError.adapter) :
          Session (GatewayState StoredCalls) GatewayError (Option String)) = pure identity := rfl
      rw [hreturn, ensures_pure, ensures_bind]
      have hholds : Holds state₁.ledger (entry.sent identity circumstances.sentAt) :=
        ⟨entry, by rw [← hown] at hgiven; exact hgiven, .refl entry⟩
      refine (sound_put hclean hsent hholds).mono (fun _ state₂ hput => ?_) fun _ _ hput => hput.1
      exact ⟨⟨hput.1.readable, hput.1.settled⟩, hown, ⟨_, hput.2, .refl _⟩, hsent⟩

variable {answer : OutputIncomplete}

theorem incompleteEntry_sound {sent settled : Entry} (hsound : sent.Sound database)
    (hbounded : Within 256 answer.providerRequestId)
    (h : gateway.incompleteEntry circumstances sent prepared answer = some settled) :
    settled.Sound database ∧ SameCall sent settled := by
  unfold ModelGateway.incompleteEntry at h
  simp only [bind, Option.bind_eq_some_iff, pure, Option.some.injEq] at h
  rcases h with ⟨record, _, rawArtifactRef, _, rfl⟩
  have hpresent := within_present hbounded
  refine ⟨hsound.answered (.inr rfl) (within_or hpresent.1 hsound.bounds.2.1)
    (or_ne_empty hpresent.2 hsound.valid.provider) _ _ _ ?_ _, .refl _⟩
  intro name hname
  rw [← Option.some.inj hname]
  exact nameFits_own.2

variable {sent : Entry}

section

variable (h : Clean database state) (hholds : Holds state.ledger sent)
    (hsound : sent.Sound database)

include h hholds hsound

theorem settleIncomplete_clean (typeName : String)
    (hbounded : Within 256 answer.providerRequestId) :
    Ensures (gateway.settleIncomplete (storedCalls database) circumstances sent prepared typeName
      answer) Q (fun _ state' => Clean database state') state := by
  have hunretained := hsound.unretained hsound.bounds.2.1 hsound.valid.provider
    circumstances.completedAt
  unfold ModelGateway.settleIncomplete
  cases hentry : gateway.incompleteEntry circumstances sent prepared answer with
  | none => exact sound_put_raise h hholds hunretained (.refl sent) _
  | some entry =>
    rcases incompleteEntry_sound hsound hbounded hentry with ⟨hanswered, hsame⟩
    have hput := sound_put h hanswered (hholds.congr hsame)
    unfold Ensures at hput ⊢
    dsimp only
    rcases hresult : (storedCalls database).put entry state with ⟨outcome, state'⟩
    rw [hresult] at hput
    cases outcome with
    | ok u => exact hput.1
    | error error =>
      -- The table is as it was, so that the call is still the one it holds.
      have hheld : Holds state'.ledger sent := by
        rw [hput.2]
        exact hholds
      exact sound_put_raise hput.1 hheld hunretained (.refl sent) _

/-- What a call that returns leaves in the table: an entry with an answer. -/
def Answered (ledger : StoredCalls) (requestId : StableId) : Prop :=
  ∃ entry, ledger.given.lookup requestId = some entry ∧ entry.rawResponseHash ≠ none

variable {result : ProviderModelResult}

theorem settleResult_clean (hbounded : Within 256 result.providerRequestId) :
    Ensures (gateway.settleResult (storedCalls database) circumstances sent prepared result)
      (fun returned state' => Clean database state' ∧ Answered state'.ledger sent.requestId ∧
        returned.1 = result.text)
      (fun _ state' => Clean database state') state := by
  have hprovider : Within 256 (result.providerRequestId.or sent.providerRequestId) :=
    within_or hbounded hsound.bounds.2.1
  have hnamed : result.providerRequestId.or sent.providerRequestId ≠ some "" :=
    or_ne_empty result.named hsound.valid.provider
  unfold ModelGateway.settleResult
  dsimp only
  split
  · exact h
  · split
    · exact sound_put_raise h hholds (hsound.unretained hprovider hnamed _) (.refl sent) _
    · rename_i record hrecord _ rawArtifactRef hretained
      have hanswered := hsound.answered (.inl rfl) hprovider hnamed result.text rawArtifactRef
        record hsound.valid.transport circumstances.completedAt
      rw [ensures_bind]
      refine (sound_put h hanswered (hholds.congr (.refl sent))).mono (fun _ state' hput => ?_) fun _ _ hput => hput.1
      exact ⟨hput.1, ⟨_, hput.2, by simp [Entry.answered]⟩, rfl⟩

theorem conclude_clean (hbounded : circumstances.outcome.Bounded) :
    Ensures (gateway.conclude (storedCalls database) circumstances sent prepared)
      (fun returned state' => Clean database state' ∧ Answered state'.ledger sent.requestId ∧
        ∃ answer, circumstances.outcome = .result answer ∧ returned.1 = answer.text)
      (fun _ state' => Clean database state') state := by
  have hhalt : ∀ {next : Session (GatewayState StoredCalls) GatewayError (String × ModelCallRecord)}
      {Q : String × ModelCallRecord → GatewayState StoredCalls → Prop},
      Ensures next Q (fun _ state' => Clean database state') state →
      Ensures (do circumstances.halt .beforeSettlement; next) Q
        (fun _ state' => Clean database state') state := by
    intro next Q hnext
    unfold Circumstances.halt
    by_cases hstop : circumstances.stop = some .beforeSettlement
    · rw [if_pos hstop, ensures_bind]
      exact h
    · rw [if_neg hstop, ensures_bind]
      exact hnext
  unfold ModelGateway.conclude
  cases houtcome : circumstances.outcome with
  | interrupted => exact h
  | cancelled typeName =>
    rw [houtcome] at hbounded
    exact hhalt (sound_put_raise h hholds (hsound.uncertain hbounded) (.refl sent) _)
  | timeout typeName =>
    rw [houtcome] at hbounded
    exact hhalt (sound_put_raise h hholds (hsound.uncertain hbounded) (.refl sent) _)
  | incomplete typeName answer =>
    rw [houtcome] at hbounded
    exact hhalt (settleIncomplete_clean h hholds hsound typeName hbounded)
  | failed typeName =>
    rw [houtcome] at hbounded
    exact hhalt (sound_put_raise h hholds (hsound.exhausted hbounded _) (.refl sent) _)
  | result result =>
    rw [houtcome] at hbounded
    refine hhalt ((settleResult_clean h hholds hsound hbounded).imp fun returned state' hdone => ?_)
    exact ⟨hdone.1, hdone.2.1, result, rfl, hdone.2.2⟩

theorem converse_clean (hbounded : circumstances.outcome.Bounded) :
    Ensures (gateway.converse (storedCalls database) circumstances sent prepared)
      (fun returned state' => Clean database state' ∧ Answered state'.ledger sent.requestId ∧
        ∃ answer, circumstances.outcome = .result answer ∧ returned.1 = answer.text)
      (fun _ state' => Clean database state') state := by
  unfold ModelGateway.converse Circumstances.halt
  rw [ensures_bind]
  by_cases hbefore : circumstances.stop = some .beforeSend
  · rw [if_pos hbefore]
    exact h
  · rw [if_neg hbefore, ensures_pure, ensures_bind]
    have hsent : Clean database { state with sends := state.sends ++ [prepared.request] } :=
      ⟨h.readable, h.settled⟩
    change Ensures _ _ _ { state with sends := state.sends ++ [prepared.request] }
    rw [ensures_bind]
    by_cases hwhile : circumstances.stop = some .whileSent
    · rw [if_pos hwhile]
      exact hsent
    · rw [if_neg hwhile, ensures_pure]
      exact conclude_clean hsent hholds hsound hbounded

end

theorem generateText_clean (h : Clean database state) (hbounded : circumstances.Bounded)
    (request : TextRequest) :
    Ensures (gateway.generateText (storedCalls database) circumstances request)
      (fun returned state' => Clean database state' ∧ Answered state'.ledger request.requestId ∧
        ∃ answer, circumstances.outcome = .result answer ∧ returned.1 = answer.text)
      (fun _ state' => Clean database state') state := by
  cases hprepared : gateway.prepared request state.budgetResults with
  | error error =>
    unfold Ensures ModelGateway.generateText
    rw [Session.bind_apply, prepare_error hprepared]
    exact h
  | ok prepared =>
    have hbudgeted : Clean database (state.budgeted request prepared.budget) :=
      ⟨h.readable, h.settled⟩
    by_cases hadmitted : gateway.admissionController = true ∧ circumstances.admitted = false
    · unfold Ensures ModelGateway.generateText
      rw [Session.bind_apply, prepare_ok hprepared]
      unfold ModelGateway.acquireLease
      rw [if_pos hadmitted]
      exact hbudgeted
    · unfold Ensures
      rw [generateText_admitted hprepared hadmitted]
      have hrest : Ensures (do
          let sent ← gateway.reserve (storedCalls database) circumstances request prepared
          gateway.converse (storedCalls database) circumstances sent prepared)
          (fun returned state' => Clean database state' ∧
            Answered state'.ledger request.requestId ∧
            ∃ answer, circumstances.outcome = .result answer ∧ returned.1 = answer.text)
          (fun _ state' => Clean database state') (state.budgeted request prepared.budget) := by
        rw [ensures_bind]
        refine (reserve_clean hbudgeted hbounded request).imp fun sent state₁ hreserved => ?_
        rcases hreserved with ⟨hclean, hown, hholds, hsound⟩
        rw [prepared_requestId hprepared] at hown
        rw [← hown]
        exact converse_clean hclean hholds hsound hbounded.outcome
      exact hrest

theorem rejectOutput_clean (h : Clean database state) {requestId : StableId}
    (hanswered : Answered state.ledger requestId) (hdetail : validationDetail.length ≤ 4096) :
    Ensures (rejectOutput (storedCalls database) requestId validationDetail)
      (fun _ state' => Clean database state') (fun _ state' => Clean database state') state := by
  rcases hanswered with ⟨entry, hgiven, hanswer⟩
  rcases h.readable.sound _ _ hgiven with ⟨hown, hsound⟩
  have hholds : Holds state.ledger (entry.rejected validationDetail) :=
    ⟨entry, by rw [← hown] at hgiven; exact hgiven, .refl entry⟩
  unfold rejectOutput Ensures
  rw [bind_onLedger_ok (h.readable.load _), hgiven]
  exact (sound_put h (hsound.rejected hanswer hdetail) hholds).mono (fun _ _ hput => hput.1)
    fun _ _ hput => hput.1

/-- What the validator says about the answers of a call fits its column. -/
def DetailFits {α : Type} (output : OutputType α) (text : String) : Prop :=
  ∀ detail, parseStructuredOutput output text = .error detail → detail.length ≤ 4096

/-- The texts of an attempt at a structured answer are within bounds. -/
structure AttemptBounded {α : Type} (circumstances : Circumstances) (output : OutputType α) :
    Prop where
  call : circumstances.Bounded
  detail : ∀ answer, circumstances.outcome = .result answer → DetailFits output answer.text

variable {output : OutputType α}

theorem attemptStructured_clean (h : Clean database state)
    (hbounded : AttemptBounded circumstances output) (request : TextRequest) :
    Ensures (gateway.attemptStructured (storedCalls database) circumstances output request)
      (fun _ state' => Clean database state') (fun _ state' => Clean database state') state := by
  unfold ModelGateway.attemptStructured
  rw [ensures_bind]
  refine (generateText_clean h hbounded.call request).imp fun returned state' hreturned => ?_
  rcases hreturned with ⟨hclean, hanswered, answer, houtcome, htext⟩
  cases hparse : parseStructuredOutput output returned.1 with
  | ok value => exact hclean
  | error detail =>
    rw [htext] at hparse
    dsimp only
    rw [ensures_bind]
    exact rejectOutput_clean hclean hanswered (hbounded.detail answer houtcome detail hparse)

theorem structuredAttempts_clean {circumstances : Nat → Circumstances} {limit : Nat}
    (hbounded : ∀ attempt ≤ limit, AttemptBounded (circumstances attempt) output)
    (request : TextRequest) : ∀ (retries attempt : Nat) (constrained : TextRequest)
      (state : GatewayState StoredCalls), attempt + retries ≤ limit → Clean database state →
      Ensures (gateway.structuredAttempts (storedCalls database) circumstances output request
        attempt retries constrained) (fun _ state' => Clean database state')
        (fun _ state' => Clean database state') state := by
  intro retries
  induction retries with
  | zero =>
    intro attempt constrained state hlimit h
    unfold ModelGateway.structuredAttempts
    rw [ensures_bind]
    refine (attemptStructured_clean h (hbounded attempt (by omega)) constrained).imp
      fun outcome state' hclean => ?_
    cases outcome with
    | ok answer => exact hclean
    | error detail => exact hclean
  | succ retries ih =>
    intro attempt constrained state hlimit h
    unfold ModelGateway.structuredAttempts
    rw [ensures_bind]
    refine (attemptStructured_clean h (hbounded attempt (by omega)) constrained).imp
      fun outcome state' hclean => ?_
    cases outcome with
    | ok answer => exact hclean
    | error detail =>
      dsimp only
      cases boundedModelRequestId request (".schema-retry" ++ toString (attempt + 1)) with
      | none => exact hclean
      | some retryId => exact ih (attempt + 1) _ state' (by omega) hclean

/-- Parsing an answer again keeps the ledger clean. -/
theorem reparse_clean (h : Clean database state)
    {readArtifact : ArtifactRef → Option RawModelResponseArtifact}
    (hbounded : ∀ reference envelope, readArtifact reference = some envelope →
      DetailFits output envelope.rawResponseText) (rawArtifactRef : Option ArtifactRef)
    (request : TextRequest) :
    Ensures (gateway.reparseStructuredFromRaw (storedCalls database) readArtifact output
      rawArtifactRef request) (fun _ state' => Clean database state')
      (fun _ state' => Clean database state') state := by
  unfold ModelGateway.reparseStructuredFromRaw
  by_cases hconfigured : gateway.rawArtifacts = false
  · rw [if_pos hconfigured]
    exact h
  rw [if_neg hconfigured]
  unfold Ensures
  rw [bind_onLedger_ok (h.readable.load _)]
  cases hgiven : state.ledger.given.lookup request.requestId with
  | none => exact h
  | some entry =>
    dsimp only
    cases rawArtifactRef.or entry.rawArtifactRef with
    | none => exact h
    | some reference =>
      dsimp only
      by_cases hother : entry.rawArtifactRef ≠ none ∧ entry.rawArtifactRef ≠ some reference
      · rw [if_pos hother]
        exact h
      · rw [if_neg hother]
        cases hread : readArtifact reference with
        | none => exact h
        | some envelope =>
          dsimp only
          by_cases hmatch : envelope.Matches (gateway.ledgerRequest request) entry
          · rw [if_pos hmatch]
            -- What matches an entry is its answer, so the entry has one.
            have hanswer : entry.rawResponseHash ≠ none := by
              rw [← hmatch.2.2.2.2.2.2.1]
              simp
            cases hparse : parseStructuredOutput output envelope.rawResponseText with
            | ok value => exact h
            | error detail =>
              dsimp only
              rw [bind_onLedger_ok (h.readable.load _), hgiven]
              rcases h.readable.sound _ _ hgiven with ⟨hown, hsound⟩
              have hholds : Holds state.ledger entry :=
                ⟨entry, by rw [← hown] at hgiven; exact hgiven, .refl entry⟩
              exact sound_put_raise h hholds (hsound.rejected hanswer
                (hbounded reference envelope hread detail hparse)) (.refl entry) _
          · rw [if_neg hmatch]
            exact h

/-! ### Runs -/

/-- What is asked of the gateway: a call, with all that it meets, or a new process. -/
inductive GatewayCall where
  | text (circumstances : Circumstances) (request : TextRequest)
  | structured (circumstances : Nat → Circumstances) (output : OutputType JsonValue)
      (jsonObjectFraming : Bool) (request : TextRequest)
  | reparse (readArtifact : ArtifactRef → Option RawModelResponseArtifact)
      (output : OutputType JsonValue) (rawArtifactRef : Option ArtifactRef) (request : TextRequest)
  | restart

/-- A call as a session: all that matters is what it leaves behind. -/
def ModelGateway.session (gateway : ModelGateway) (database : Database ModelCallRecord) :
    GatewayCall → Session (GatewayState StoredCalls) GatewayError Unit
  | .text circumstances request => do
      let _ ← gateway.generateText (storedCalls database) circumstances request
      pure ()
  | .structured circumstances output jsonObjectFraming request => do
      let _ ← gateway.generateStructured (storedCalls database) circumstances output
        jsonObjectFraming request
      pure ()
  | .reparse readArtifact output rawArtifactRef request => do
      let _ ← gateway.reparseStructuredFromRaw (storedCalls database) readArtifact output
        rawArtifactRef request
      pure ()
  | .restart => raise .stopped

/-- One call. A process that stops takes its memory along. -/
def ModelGateway.perform (gateway : ModelGateway) (database : Database ModelCallRecord)
    (state : GatewayState StoredCalls) (call : GatewayCall) : GatewayState StoredCalls :=
  match gateway.session database call state with
  | (.error .stopped, after) => { after with budgetResults := ∅, marked := [] }
  | (_, after) => after

def emptyTable : GatewayState StoredCalls where
  ledger := ⟨∅, ∅⟩
  budgetResults := ∅
  marked := []
  sends := []
  settlements := []

/-- The texts that a call may settle are within bounds. -/
def ModelGateway.CallBounded (gateway : ModelGateway) : GatewayCall → Prop
  | .text circumstances _ => circumstances.Bounded
  | .structured circumstances output _ _ =>
    ∀ attempt ≤ gateway.structuredMaxRetries, AttemptBounded (circumstances attempt) output
  | .reparse readArtifact output _ _ => ∀ reference envelope,
      readArtifact reference = some envelope → DetailFits output envelope.rawResponseText
  | .restart => True

/-- What was settled is valid and fits its columns, and was stored unless its call had
    ended before. Everything loads as it was given last, listings return, and a valid entry
    that fits is settled whenever the guard lets it. -/
structure StaysReadable (database : Database ModelCallRecord) (state : GatewayState StoredCalls) :
    Prop where
  settled : ∀ entry error, (entry, error) ∈ state.settlements →
    entry.Valid ∧ (fieldsRow database entry).Roomy ∧
      (error = none ∨ error = some terminalError)
  loads : ∀ requestId, (storedCalls database).load requestId state.ledger =
    .ok (state.ledger.given.lookup requestId, state.ledger)
  settles : ∀ existing entry, state.ledger.given.lookup entry.requestId = some existing →
    entry.Valid → (fieldsRow database entry).Roomy → settlementError existing entry = none →
      (storedCalls database).settle entry state.ledger =
        .ok (entry, state.ledger.wrote database entry)
  listsPrefix : ∀ requestIdPrefix,
    ∃ entries, state.ledger.listForPrefix database requestIdPrefix = .ok entries
  listsRun : ∀ runId, ∃ entries, state.ledger.listForRun database runId = .ok entries

theorem StoredCalls.Readable.row_sound (h : ledger.Readable database) {row : LedgerRow Timestamp}
    (hrow : row ∈ ledger.ordered) : ∃ entry, toDomain database row = .ok entry := by
  unfold StoredCalls.ordered at hrow
  rw [List.mem_insertionSort] at hrow
  rcases List.mem_map.mp hrow with ⟨⟨requestId, found⟩, hmem, rfl⟩
  have hlookup : ledger.rows.lookup requestId = some found := AList.mem_lookup_iff.mpr hmem
  rw [h.rows] at hlookup
  rcases Option.map_eq_some_iff.mp hlookup with ⟨entry, hgiven, hfound⟩
  have hsound := (h.sound _ _ hgiven).2
  exact ⟨⟨entry, hsound.valid⟩, by rw [← hfound]; exact toDomain_fieldsRow hsound⟩

theorem StoredCalls.Readable.lists (h : ledger.Readable database)
    (selected : LedgerRow Timestamp → Bool) :
    ∃ entries, (ledger.ordered.filter selected).mapM (toDomain database) = .ok entries := by
  rw [mapM_returns]
  intro row hrow
  exact h.row_sound (List.mem_filter.mp hrow).1

theorem Clean.staysReadable {state : GatewayState StoredCalls} (h : Clean database state) :
    StaysReadable database state where
  settled entry error hmem :=
    ⟨(h.settled entry error hmem).1.valid, (h.settled entry error hmem).1.roomy,
      (h.settled entry error hmem).2⟩
  loads := h.readable.load
  settles existing entry hgiven _ hroomy hguard := by
    rw [h.readable.settle _ hgiven, hguard]
    exact if_pos hroomy
  listsPrefix _ := h.readable.lists _
  listsRun _ := h.readable.lists _

theorem clean_emptyTable : Clean database emptyTable where
  readable :=
    { rows := fun _ => rfl
      sound := fun _ _ hgiven => absurd hgiven (by simp [emptyTable]) }
  settled _ _ hmem := absurd hmem List.not_mem_nil

variable {call : GatewayCall}

theorem session_clean (h : Clean database state) (hbounded : gateway.CallBounded call) :
    Ensures (gateway.session database call) (fun _ state' => Clean database state')
      (fun _ state' => Clean database state') state := by
  cases call with
  | text circumstances request =>
    unfold ModelGateway.session
    rw [ensures_bind]
    exact (generateText_clean h hbounded request).imp fun _ _ hdone => hdone.1
  | structured circumstances output jsonObjectFraming request =>
    unfold ModelGateway.session
    rw [ensures_bind]
    exact structuredAttempts_clean hbounded request _ 0 _ state (by omega) h
  | reparse readArtifact output rawArtifactRef request =>
    unfold ModelGateway.session
    rw [ensures_bind]
    exact reparse_clean h hbounded rawArtifactRef request
  | restart => exact h

theorem perform_clean (h : Clean database state) (hbounded : gateway.CallBounded call) :
    Clean database (gateway.perform database state call) := by
  have hsession := session_clean h hbounded
  unfold Ensures at hsession
  unfold ModelGateway.perform
  rcases hresult : gateway.session database call state with ⟨outcome, after⟩
  rw [hresult] at hsession
  cases outcome with
  | ok u => exact hsession
  | error error =>
    cases error with
    | stopped => exact ⟨hsession.readable, hsession.settled⟩
    | _ => exact hsession

/-- In a run whose texts are within bounds the ledger stays readable. -/
theorem ledger_stays_readable (gateway : ModelGateway) (database : Database ModelCallRecord)
    (calls : List GatewayCall) (h : ∀ call ∈ calls, gateway.CallBounded call) :
    StaysReadable database (run (gateway.perform database) emptyTable calls) := by
  have hguarded : ∀ (calls : List GatewayCall) (state : GatewayState StoredCalls),
      (∀ call ∈ calls, gateway.CallBounded call) →
      Guarded (gateway.perform database) (fun _ call => gateway.CallBounded call) state calls := by
    intro calls
    induction calls with
    | nil => exact fun _ _ => trivial
    | cons call calls ih =>
      intro state h
      exact ⟨h call (List.mem_cons_self ..), ih _ fun later hlater =>
        h later (List.mem_cons_of_mem _ hlater)⟩
  have hclean := run_guarded (gateway.perform database)
    (fun _ call => gateway.CallBounded call) (Clean database)
    (fun state call h hbounded => perform_clean h hbounded) calls emptyTable
    (hguarded calls emptyTable h) clean_emptyTable
  exact hclean.staysReadable

/-! ### A run that settles too much -/

/-- A text of so many characters. -/
def filler (length : Nat) : String := String.ofList (List.replicate length 'x')

theorem length_filler (length : Nat) : (filler length).length = length := by
  rw [filler, String.length_ofList, List.length_replicate]

/-- The errors of an answer that does not validate at all, one character too many for
    their column. -/
def oversized : String := filler 4097

theorem length_oversized : oversized.length = 4097 := length_filler 4097

theorem mem_rejected (entry : Entry) (detail : String) :
    detail ∈ (entry.rejected detail).validationError := rfl

/-- A type whose validator refuses everything. -/
def refusingType (detail : String) : OutputType JsonValue where
  schema := .null
  validateJson _ := .error detail

theorem parse_refusing (detail text : String) :
    parseStructuredOutput (refusingType detail) text = .error detail := by
  unfold parseStructuredOutput refusingType
  dsimp only
  split
  · rfl
  · rfl

variable {record : ModelCallRecord}

/-- The first call of a request whose result comes back and is retained returns. -/
theorem stored_completes {rawArtifactRef : Option ArtifactRef} (hclean : Clean database state)
    (hbounded : circumstances.Bounded)
    (hgiven : state.ledger.given.lookup request.requestId = none)
    (hprepared : gateway.prepared request state.budgetResults = .ok prepared)
    (hphase : (gateway.ledgerRequest prepared.request).logicalPhase.length ≤ 256)
    (hadmitted : ¬ (gateway.admissionController = true ∧ circumstances.admitted = false))
    (hidentity : circumstances.identity = .ok identity) (hstop : circumstances.stop = none)
    (houtcome : circumstances.outcome = .result result)
    (hrecord : ModelCallRecord.validate (callFields prepared result.modelVersion result.usage
      circumstances.latencyMs (.aware circumstances.requestedAt) circumstances.completedAt) =
      some record)
    (hretained : gateway.persistRawResponse circumstances prepared = some rawArtifactRef) :
    ∃ state', gateway.generateText (storedCalls database) circumstances request state =
      (.ok (result.text, record), state') := by
  have hnew : state.ledger.given.lookup (gateway.ledgerRequest prepared.request).requestId =
      none := by
    rw [← prepared_requestId hprepared] at hgiven
    exact hgiven
  rcases hclean.readable.createRequested_new hnew hphase prepared.budget
    prepared.endpoint.reasoningIncludedInCompletionTokens circumstances.requestedAt with
    ⟨hfresh, hcreated⟩
  -- Three entries go into the table, one after the other.
  let fresh : Entry := (requestedEntry (gateway.ledgerRequest prepared.request) prepared.budget
    prepared.endpoint.reasoningIncludedInCompletionTokens circumstances.requestedAt).toLedgerFields
  let sent := fresh.sent identity circumstances.sentAt
  let provider := result.providerRequestId.or sent.providerRequestId
  let answered := sent.answered .completed provider result.text rawArtifactRef record
    sent.transportErrorType circumstances.completedAt
  have hbound : Within 256 result.providerRequestId := by
    have houtcomeBound := hbounded.outcome
    rw [houtcome] at houtcomeBound
    exact houtcomeBound
  have hsent : sent.Sound database := hfresh.marked (hbounded.identity _ hidentity) _
  have hanswered : answered.Sound database :=
    hsent.answered (.inl rfl) (within_or hbound hsent.bounds.2.1)
      (or_ne_empty result.named hsent.valid.provider) _ _ _ hsent.valid.transport _
  have hreserved := hclean.readable.wrote hfresh
  have hmarked := hreserved.wrote hsent
  have hsentGuard : settlementError fresh sent = none := by
    simp [settlementError, sent, Entry.sent]
  have hanswerGuard : settlementError sent answered = none := by
    simp [settlementError, answered, Entry.answered, sent, Entry.sent, fresh, requestedEntry]
  have hput : (storedCalls database).settle sent (state.ledger.wrote database fresh) =
      .ok (sent, (state.ledger.wrote database fresh).wrote database sent) := by
    rw [hreserved.settle sent (StoredCalls.Readable.given_self _ fresh), hsentGuard]
    exact StoredCalls.Readable.store hsent
  have hdone : (storedCalls database).settle answered
      ((state.ledger.wrote database fresh).wrote database sent) =
      .ok (answered, ((state.ledger.wrote database fresh).wrote database sent).wrote database
        answered) := by
    rw [hmarked.settle answered (StoredCalls.Readable.given_self _ sent), hanswerGuard]
    exact StoredCalls.Readable.store hanswered
  have hreserve := reserve_ok (state.budgeted request prepared.budget) request hcreated
    (by simp [requestedEntry]) hidentity hput
  rw [generateText_admitted hprepared hadmitted, Session.bind_apply, hreserve]
  dsimp only
  rw [converse_completes hstop houtcome hrecord hretained hdone]
  exact ⟨_, rfl⟩

theorem put_recorded (database : Database ModelCallRecord) (entry : Entry)
    (state : GatewayState StoredCalls) :
    ∃ error, (entry, error) ∈ ((storedCalls database).put entry state).2.settlements := by
  unfold LedgerPort.put
  cases (storedCalls database).settle entry state.ledger with
  | ok stored => exact ⟨none, List.mem_append_right _ (List.mem_singleton_self _)⟩
  | error error => exact ⟨some error, List.mem_append_right _ (List.mem_singleton_self _)⟩

theorem settlements_bind {β : Type} (x : Session (GatewayState StoredCalls) GatewayError α)
    {f : α → Session (GatewayState StoredCalls) GatewayError β}
    (hf : ∀ a state, (f a state).2.settlements = state.settlements)
    (state : GatewayState StoredCalls) :
    ((x >>= f) state).2.settlements = (x state).2.settlements := by
  rw [Session.bind_apply]
  rcases x state with ⟨outcome, state'⟩
  cases outcome with
  | ok a => exact hf a state'
  | error error => rfl

/-- A call whose only answer does not validate settles its entry with all of the errors. -/
theorem refused_recorded {circumstances : Nat → Circumstances} {output : OutputType JsonValue}
    {state' : GatewayState StoredCalls} {text detail : String}
    (hretries : gateway.structuredMaxRetries = 0)
    (hreturned : gateway.generateText (storedCalls database) (circumstances 0)
      { request with responseSchema := none } state = (.ok (text, record), state'))
    (hclean : Clean database state')
    (hgiven : state'.ledger.given.lookup request.requestId = some entry)
    (hparse : parseStructuredOutput output text = .error detail) :
    ∃ error, (entry.rejected detail, error) ∈ (gateway.perform database state
      (.structured circumstances output true request)).settlements := by
  have hattempt : (gateway.attemptStructured (storedCalls database) (circumstances 0) output
      { request with responseSchema := none } state).2.settlements =
      ((storedCalls database).put (entry.rejected detail) state').2.settlements := by
    unfold ModelGateway.attemptStructured
    rw [Session.bind_apply, hreturned]
    dsimp only
    rw [hparse]
    dsimp only
    rw [settlements_bind _ fun _ _ => rfl]
    unfold rejectOutput
    rw [bind_onLedger_ok (hclean.readable.load _), hgiven]
  have hattempts : (gateway.generateStructured (storedCalls database) circumstances output true
      request state).2.settlements =
      ((storedCalls database).put (entry.rejected detail) state').2.settlements := by
    unfold ModelGateway.generateStructured
    rw [hretries]
    unfold ModelGateway.structuredAttempts
    rw [settlements_bind, ← hattempt]
    · rfl
    · intro outcome state
      cases outcome <;> rfl
  rcases put_recorded database (entry.rejected detail) state' with ⟨error, hmem⟩
  refine ⟨error, ?_⟩
  rw [← hattempts] at hmem
  have hsession : (gateway.session database (.structured circumstances output true request)
      state).2.settlements = (gateway.generateStructured (storedCalls database) circumstances
        output true request state).2.settlements :=
    settlements_bind _ (fun _ _ => rfl) state
  rw [← hsession] at hmem
  unfold ModelGateway.perform
  rcases hresult : gateway.session database (.structured circumstances output true request) state
    with ⟨outcome, after⟩
  rw [hresult] at hmem
  cases outcome with
  | ok u => exact hmem
  | error error =>
    cases error with
    | stopped => exact hmem
    | _ => exact hmem

namespace Sample

def rational : Codec Rat :=
  (Codec.pair .int .nat).refine (fun value => (value.num, value.den))
    (fun (num, den) =>
      if h : den ≠ 0 ∧ num.natAbs.Coprime den then some ⟨num, den, h.1, h.2⟩ else none)
    fun value => dif_pos ⟨value.den_nz, value.reduced⟩

def timestamp : Codec Timestamp :=
  (Codec.pair .bool .int).refine
    (fun | .aware instant => (true, instant) | .naive wall => (false, wall))
    (fun (aware, value) => some (if aware then .aware value else .naive value))
    fun value => by cases value <;> rfl

def costAvailability : ModelCostAvailability → String
  | .known => "known"
  | .unknown => "unknown"
  | .notApplicable => "not_applicable"

def modelUsage : Codec ModelUsage :=
  (Codec.object
    (.required "cost_availability" (.enum costAvailability [.known, .unknown, .notApplicable]
        fun a => by cases a <;> decide) <|
      .required "cost_usd" rational <|
      .required "input_tokens" .nat <|
      .required "output_tokens" .nat <|
      .required "reasoning_tokens" .nat .nil)
    (by decide)).refine
  (fun usage => (usage.costAvailability, usage.costUsd, usage.inputTokens, usage.outputTokens,
    usage.reasoningTokens, ()))
  (fun (availability, cost, input, output, reasoning, _) =>
    if h : 0 ≤ cost then some ⟨input, output, reasoning, cost, availability, h⟩ else none)
  fun usage => by simp [usage.nonneg]

def callRecord : Codec ModelCallRecord :=
  (Codec.object
    (.required "completed_at" timestamp <|
      .required "endpoint" .string <|
      .required "latency_ms" .nat <|
      .required "model" .string <|
      .required "model_role" (.enum ModelRole.value [.implementation, .batchTest]
        fun a => by cases a <;> decide) <|
      .required "model_version" .string <|
      .required "purpose" (.enum ModelCallPurpose.value [.development, .batchTest, .evaluation]
        fun a => by cases a <;> decide) <|
      .required "request_id" World.stableIdCodec <|
      .required "run_id" World.stableIdCodec <|
      .required "span_id" (Codec.string.option Codec.string_ne_null) <|
      .required "started_at" timestamp <|
      .required "task_id" World.stableIdCodec <|
      .required "trace_id" .string <|
      .required "usage" modelUsage .nil)
    (by decide)).refine
  (fun record => (record.completedAt, record.endpoint, record.latencyMs, record.model,
    record.modelRole, record.modelVersion, record.purpose, record.requestId, record.runId,
    record.spanId, record.startedAt, record.taskId, record.traceId, record.usage, ()))
  (fun (completedAt, endpoint, latencyMs, model, modelRole, modelVersion, purpose, requestId, runId,
      spanId, startedAt, taskId, traceId, usage, _) =>
    ModelCallRecord.validate ⟨requestId, runId, taskId, modelRole, purpose, traceId, spanId,
      endpoint, model, modelVersion, usage, latencyMs, startedAt, completedAt⟩)
  fun record => dif_pos record.valid

def callDatabase : Database ModelCallRecord := ⟨0, callRecord⟩

def refusedCall (detail : String) : GatewayCall :=
  .structured (fun _ => smooth) (refusingType detail) true textRequest

theorem smooth_bounded : smooth.Bounded := by
  refine ⟨fun identity hidentity => ?_, within_none 256⟩
  rw [← Except.ok.inj hidentity]
  exact within_none 256

/-- The call completes, and the errors of its answer are settled in full. -/
theorem refused_settled (detail : String) :
    ∃ (entry : Entry) (error : Option LedgerError), (entry.rejected detail, error) ∈
    (run (localGateway.perform callDatabase) emptyTable [refusedCall detail]).settlements := by
  rw [run_cons, run_nil]
  rcases prepared_textRequest with ⟨budget, hprepared⟩
  have hvalid : (callFields ⟨textRequest.bound budget, budget, endpoint⟩
      providerAnswer.modelVersion providerAnswer.usage 1 (.aware 0) 2).Valid := by
    simp [CallFields.Valid, callFields, TextRequest.bound, textRequest, endpoint,
      providerAnswer]
  have hphase : (localGateway.ledgerRequest (textRequest.bound
      budget)).logicalPhase.length ≤ 256 := by
    change (localGateway.ledgerRequest textRequest).logicalPhase.length ≤ 256
    decide
  have hnew : emptyTable.ledger.given.lookup textRequest.requestId = none := rfl
  have hadmitted : ¬ (localGateway.admissionController = true ∧
      smooth.admitted = false) := by decide
  have hclean : Clean callDatabase emptyTable := clean_emptyTable
  rcases stored_completes hclean smooth_bounded hnew hprepared hphase hadmitted rfl rfl rfl
    (dif_pos hvalid) rfl with ⟨state, hreturned⟩
  rcases (generateText_clean hclean smooth_bounded textRequest).ok hreturned with
    ⟨hafter, ⟨entry, hgiven, _⟩, _⟩
  exact ⟨entry, refused_recorded rfl hreturned hafter hgiven (parse_refusing detail _)⟩

end Sample

open Sample

/-- An answer whose errors take more than a column holds is settled all the same. -/
theorem oversized_detail :
    ¬ ∀ (gateway : ModelGateway) (database : Database ModelCallRecord) (calls : List GatewayCall),
      StaysReadable database (run (gateway.perform database) emptyTable calls) := by
  intro hclaim
  have hreadable := hclaim localGateway callDatabase [refusedCall oversized]
  rcases refused_settled oversized with ⟨entry, error, hmem⟩
  -- What was settled is not valid: its detail has one character too many.
  have hdetail := (hreadable.settled _ _ hmem).1.detail oversized (mem_rejected entry oversized)
  rw [length_oversized] at hdetail
  omega

/-- A structured call whose answer is rejected with a short error. -/
theorem ledger_stays_readable_refused :
    (∀ call ∈ [refusedCall "no name"], localGateway.CallBounded call) ∧
      (∃ (entry : Entry) (error : Option LedgerError), (entry.rejected "no name", error) ∈
        (run (localGateway.perform callDatabase) emptyTable
          [refusedCall "no name"]).settlements) ∧
      StaysReadable callDatabase
        (run (localGateway.perform callDatabase) emptyTable [refusedCall "no name"]) := by
  have hbounded : ∀ call ∈ [refusedCall "no name"], localGateway.CallBounded call := by
    intro call hcall
    rw [List.mem_singleton.mp hcall]
    refine fun attempt _ => ⟨smooth_bounded, fun answer _ detail hdetail => ?_⟩
    rw [parse_refusing, Except.error.injEq] at hdetail
    rw [← hdetail]
    decide
  exact ⟨hbounded, refused_settled "no name", ledger_stays_readable _ _ _ hbounded⟩

end NovelAgent.ModelCalls
