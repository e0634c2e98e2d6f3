import Mathlib.Data.String.Basic
import NovelAgent.Core.Linked
import NovelAgent.Core.Run
import NovelAgent.ModelCalls.SqlLedger

/-!
# Agreement of the Two Ledgers

When the ledger over a table and the ledger in memory return the same, call after
call.
-/

namespace NovelAgent.ModelCalls

open Core Domain List

section

variable {Call : Type}

/-- Entries, calls and replies, the times of reservation left aside. -/
def ModelCallLedgerEntry.aside (entry : ModelCallLedgerEntry Call) : ModelCallLedgerEntry Call :=
  { entry with
    requestedAt := .aware 0
    valid := { entry.valid with } }

def Reply.aside : Reply Call → Reply Call
  | .entry value => .entry value.aside
  | .found value => .found (value.map (·.aside))
  | .entries values => .entries (values.map (·.aside))

def Operation.aside : Operation Call → Operation Call
  | .createRequested request effectiveBudget reasoningIncluded _ =>
    .createRequested request effectiveBudget reasoningIncluded 0
  | .settle entry => .settle entry.aside
  | operation => operation

/-- Both return the same, or both raise. -/
def Agree : Except LedgerError (Reply Call) → Except LedgerError (Reply Call) → Prop
  | .ok reply, .ok reply' => reply.aside = reply'.aside
  | .error _, .error _ => True
  | _, _ => False

/-- The ledger after a call; one that raised leaves it as it was. -/
def after {Ledger : Type} (outcome : Except LedgerError (Reply Call × Ledger)) (ledger : Ledger) :
    Ledger :=
  match outcome with
  | .ok (_, ledger') => ledger'
  | .error _ => ledger

/-- What a call returned. -/
def answer {Ledger : Type} (outcome : Except LedgerError (Reply Call × Ledger)) :
    Except LedgerError (Reply Call) :=
  outcome.map Prod.fst

def InMemoryModelCallLedger.step (ledger : InMemoryModelCallLedger Call)
    (operation : Operation Call) : InMemoryModelCallLedger Call :=
  after (ledger.perform operation) ledger

def SqlModelCallLedger.step (database : Database Call) (table : SqlModelCallLedger)
    (operation : Operation Call) : SqlModelCallLedger :=
  after (table.perform database operation) table

def InMemoryModelCallLedger.results (ledger : InMemoryModelCallLedger Call)
    (operations : List (Operation Call)) : List (Except LedgerError (Reply Call)) :=
  observations InMemoryModelCallLedger.step
    (fun ledger operation => some (answer (ledger.perform operation))) ledger operations

def SqlModelCallLedger.results (database : Database Call) (table : SqlModelCallLedger)
    (operations : List (Operation Call)) : List (Except LedgerError (Reply Call)) :=
  observations (SqlModelCallLedger.step database)
    (fun table operation => some (answer (table.perform database operation))) table operations

theorem InMemoryModelCallLedger.results_cons (ledger : InMemoryModelCallLedger Call)
    (operation : Operation Call) (rest : List (Operation Call)) :
    ledger.results (operation :: rest) =
      answer (ledger.perform operation) :: (ledger.step operation).results rest :=
  rfl

theorem SqlModelCallLedger.results_cons (database : Database Call) (table : SqlModelCallLedger)
    (operation : Operation Call) (rest : List (Operation Call)) :
    table.results database (operation :: rest) =
      answer (table.perform database operation) ::
        (table.step database operation).results database rest :=
  rfl

/-- A point in time that reads back as it was written: an instant within the years that
    the driver knows. -/
def Kept (database : Database Call) : Timestamp → Prop
  | .aware instant => database.Readable instant
  | .naive _ => False

/-- An entry that reads back as it was written. -/
structure Storable (database : Database Call) (entry : ModelCallLedgerEntry Call) : Prop where
  phase : TextFits 256 entry.logicalPhase
  provider : OptionFits 256 entry.providerRequestId
  detail : OptionFits 4096 entry.validationError
  transport : OptionFits 240 entry.transportErrorType
  sent : ∀ time ∈ entry.providerSentAt, Kept database time
  completed : ∀ time ∈ entry.completedAt, Kept database time
  requested : database.Readable (database.store entry.requestedAt)

/-- The calls for which the two ledgers cannot come apart: what they write reads back as
    it was written, and the pattern selects what is under the identity. -/
def Harmless (database : Database Call) (table : SqlModelCallLedger) : Operation Call → Prop
  | .createRequested request effectiveBudget reasoningIncluded now =>
    table.get request.requestId = none →
      Storable database (requestedEntry request effectiveBudget reasoningIncluded now)
  | .settle entry => ∀ row ∈ table.get entry.requestId, ∀ existing,
      database.entryOf row = .ok existing →
        settlementError existing.toLedgerFields entry.toLedgerFields = none →
          Storable database entry
  | .listForPrefix requestIdPrefix => Char.ofNat 0 ∉ requestIdPrefix.toList ∧
      ∀ row ∈ table, Selected requestIdPrefix row.requestId = Under requestIdPrefix row.requestId
  | _ => True

/-- A row and the entry it stands for. -/
structure Stored (database : Database Call) (row : LedgerRow Int)
    (entry : ModelCallLedgerEntry Call) : Prop where
  key : row.requestId = entryKey entry
  run : row.runId = entry.runId.root
  reads : ∃ read, database.entryOf row = .ok read ∧ read.aside = entry.aside ∧
    Storable database read

/-! ### Rows read back -/

theorem textFits_stableId (id : StableId) : TextFits 128 id.root := by
  have hvalid := id.valid
  unfold isStableId at hvalid
  unfold TextFits
  rw [← String.length_toList]
  cases hchars : id.root.toList with
  | nil => simp [hchars, isStableIdChars] at hvalid
  | cons c rest =>
    simp only [hchars, isStableIdChars, Bool.and_eq_true, all_eq_true,
      decide_eq_true_eq] at hvalid
    refine ⟨by rw [length_cons]; omega, ?_⟩
    intro hzero
    rcases mem_cons.mp hzero with hfirst | hrest
    · rw [← hfirst] at hvalid
      exact absurd hvalid.1.1 (by decide)
    · exact absurd (hvalid.1.2 _ hrest) (by decide)

theorem textFits_contentHash (hash : ContentHash) : TextFits 71 hash.root := by
  have hvalid := hash.valid
  unfold isContentHash at hvalid
  simp only [Bool.and_eq_true, beq_iff_eq, all_eq_true] at hvalid
  rcases hvalid with ⟨⟨hhead, hdigits⟩, hlength⟩
  have hsplit : hash.root.toList = "sha256:".toList ++ hash.root.toList.drop 7 := by
    rw [← hhead, take_append_drop]
  unfold TextFits
  rw [← String.length_toList]
  constructor
  · rw [hsplit, length_append, hlength]
    decide
  · rw [hsplit]
    intro hzero
    rcases mem_append.mp hzero with hfirst | hrest
    · exact absurd hfirst (by decide)
    · exact absurd (hdigits _ hrest) (by decide)

variable (status : ModelCallLedgerStatus)

theorem textFits_status : TextFits 32 status.value := by
  cases status <;> decide

theorem contentHash?_root (hash : ContentHash) : contentHash? hash.root = some hash := by
  unfold contentHash?
  rw [dif_pos hash.valid]

theorem ledgerStatus?_value : ledgerStatus? status.value = some status := by
  cases status <;> decide

theorem validatedOption_map {α β : Type} {validate : α → Option β} {dump : β → α}
    (h : ∀ b, validate (dump b) = some b) (value : Option β) :
    validatedOption validate (value.map dump) = .ok value := by
  cases value with
  | none => rfl
  | some b =>
    change (validated (validate (dump b))).map some = .ok (some b)
    rw [h b]
    rfl

variable {database : Database Call}

theorem fetchOption_store {time : Option Timestamp} (h : ∀ t ∈ time, Kept database t) :
    database.fetchOption (time.map database.store) = .ok time ∧ time.map asUtc = time := by
  cases time with
  | none => exact ⟨rfl, rfl⟩
  | some t =>
    have hkept := h t rfl
    cases t with
    | aware instant =>
      refine ⟨?_, rfl⟩
      change (database.fetch instant).map some = _
      unfold Database.fetch
      have hreadable : database.Readable instant := hkept
      rw [if_pos hreadable]
      rfl
    | naive wall => exact absurd hkept id

variable {entry : ModelCallLedgerEntry Call}

theorem Storable.fits (h : Storable database entry) : (fromDomain database entry).Fits := by
  refine ⟨textFits_stableId _, textFits_stableId _, textFits_stableId _, ?_,
    textFits_contentHash _, textFits_status _, h.phase, h.provider, ?_, h.detail, h.transport⟩
  · intro value hvalue
    rcases Option.mem_map.mp hvalue with ⟨id, _, rfl⟩
    exact textFits_stableId id
  · intro value hvalue
    rcases Option.mem_map.mp hvalue with ⟨hash, _, rfl⟩
    exact textFits_contentHash hash

/-- The entry with the time it was reserved at as an instant. -/
def ModelCallLedgerEntry.reservedAt (entry : ModelCallLedgerEntry Call) (instant : Int) :
    ModelCallLedgerEntry Call :=
  { entry with
    requestedAt := .aware instant
    valid := { entry.valid with } }

/-- A storable entry is stored, and only the zone of the time it was reserved at can be lost. -/
theorem rowOf_stored (h : Storable database entry) :
    ∃ row, database.rowOf entry = .ok row ∧ Stored database row entry := by
  have hsent := fetchOption_store h.sent
  have hcompleted := fetchOption_store h.completed
  have hrequested : database.fetch (database.store entry.requestedAt) =
      .ok (.aware (database.store entry.requestedAt)) := if_pos h.requested
  refine ⟨_, if_pos h.fits, rfl, rfl, entry.reservedAt (database.store entry.requestedAt), ?_,
    rfl, ?_⟩
  · unfold Database.entryOf Database.read toDomain
    simp only [fromDomain, hsent.1, hcompleted.1, hrequested, hsent.2, hcompleted.2, asUtc,
      validatedOption_map (fun ref => Context.artifactRefCodec.load_dump ref),
      validatedOption_map (fun record => database.call.load_dump record),
      validatedOption_map StableId.ofString?_root, validatedOption_map contentHash?_root,
      StableId.ofString?_root, contentHash?_root, ledgerStatus?_value, Codec.load_dump,
      validated, bind, Except.bind, pure, Except.pure]
    exact dif_pos (entry.reservedAt _).valid
  · exact
      { phase := h.phase
        provider := h.provider
        detail := h.detail
        transport := h.transport
        sent := h.sent
        completed := h.completed
        requested := h.requested }

/-! ### One call -/

variable {row : LedgerRow Int}

theorem Stored.congr {entry entry' : ModelCallLedgerEntry Call} (h : Stored database row entry)
    (hsame : entry.aside = entry'.aside) : Stored database row entry' := by
  have hkey : entryKey entry = entryKey entry' := (congrArg entryKey hsame :)
  have hrun : entry.runId.root = entry'.runId.root :=
    (congrArg (fun e : ModelCallLedgerEntry Call => e.runId.root) hsame :)
  rcases h.reads with ⟨read, hread, haside, hstorable⟩
  exact ⟨h.key.trans hkey, h.run.trans hrun, read, hread, haside.trans hsame, hstorable⟩

variable {table : SqlModelCallLedger} {ledger : InMemoryModelCallLedger Call}

section

variable (h : List.Forall₂ (Stored database) table ledger)

include h

theorem get_linked (requestId : StableId) :
    (table.get requestId = none ∧ ledger.get requestId = none) ∨
      ∃ row entry, table.get requestId = some row ∧ ledger.get requestId = some entry ∧
        Stored database row entry :=
  Linked.find (fun row entry hstored => by rw [hstored.key]) h

theorem replace_linked {entry existing : ModelCallLedgerEntry Call}
    (hget : ledger.get entry.requestId = some existing) (hstored : Stored database row entry) :
    List.Forall₂ (Stored database) (Keyed.replaceFirst LedgerRow.requestId row table)
      (ledger.put entry) := by
  unfold InMemoryModelCallLedger.put
  rw [hget]
  exact Keyed.replaceFirst_linked (fun _ _ hrow => hrow.key) h hstored

theorem append_linked (hget : ledger.get entry.requestId = none)
    (hstored : Stored database row entry) :
    List.Forall₂ (Stored database) (table ++ [row]) (ledger.put entry) := by
  unfold InMemoryModelCallLedger.put
  rw [hget]
  exact rel_append h (List.Forall₂.cons hstored List.Forall₂.nil)

theorem createRequested_agrees (request : ModelRequest) (effectiveBudget : EffectiveBudgetResult)
    (reasoningIncluded : Bool) (now now' : Int)
    (hharmless : Harmless database table
      (.createRequested request effectiveBudget reasoningIncluded now)) :
    Agree (answer (table.perform database
        (.createRequested request effectiveBudget reasoningIncluded now)))
      (answer (ledger.perform
        (.createRequested request effectiveBudget reasoningIncluded now'))) ∧
    List.Forall₂ (Stored database)
      (table.step database (.createRequested request effectiveBudget reasoningIncluded now))
      (ledger.step (.createRequested request effectiveBudget reasoningIncluded now')) := by
  unfold SqlModelCallLedger.step InMemoryModelCallLedger.step
  simp only [SqlModelCallLedger.perform, SqlModelCallLedger.createRequested,
    InMemoryModelCallLedger.perform, InMemoryModelCallLedger.createRequested]
  rcases get_linked h request.requestId with ⟨hrow, hentry⟩ | ⟨row, entry, hrow, hentry, hstored⟩
  · -- The request is new, and its entry is written in both.
    rcases rowOf_stored (hharmless hrow) with ⟨row, hwritten, hstored⟩
    rw [hrow, hentry, hwritten]
    have hnew : Stored database row
        (requestedEntry request effectiveBudget reasoningIncluded now') := hstored.congr rfl
    exact ⟨rfl, append_linked h hentry hnew⟩
  · rcases hstored.reads with ⟨read, hread, haside, _⟩
    have herror : identityError read.toLedgerFields request effectiveBudget reasoningIncluded =
        identityError entry.toLedgerFields request effectiveBudget reasoningIncluded :=
      (congrArg (fun e : ModelCallLedgerEntry Call =>
        identityError e.toLedgerFields request effectiveBudget reasoningIncluded) haside :)
    simp only [hrow, hentry, hread, herror, bind, Except.bind]
    cases identityError entry.toLedgerFields request effectiveBudget reasoningIncluded with
    | some error => exact ⟨trivial, h⟩
    | none => exact ⟨congrArg Reply.entry haside, h⟩

theorem rebindRequested_agrees (request : ModelRequest) (expectedRequestHash : ArtifactId)
    (effectiveBudget : EffectiveBudgetResult) (reasoningIncluded : Bool) :
    let operation : Operation Call :=
      .rebindRequested request expectedRequestHash effectiveBudget reasoningIncluded
    Agree (answer (table.perform database operation)) (answer (ledger.perform operation)) ∧
      List.Forall₂ (Stored database) (table.step database operation) (ledger.step operation) := by
  intro operation
  unfold SqlModelCallLedger.step InMemoryModelCallLedger.step
  simp only [operation, SqlModelCallLedger.perform, SqlModelCallLedger.rebindRequested,
    InMemoryModelCallLedger.perform, InMemoryModelCallLedger.rebindRequested]
  rcases get_linked h request.requestId with ⟨hrow, hentry⟩ | ⟨row, entry, hrow, hentry, hstored⟩
  · rw [hrow, hentry]
    exact ⟨trivial, h⟩
  · rcases hstored.reads with ⟨read, hread, haside, hstorable⟩
    have herror : rebindError read.toLedgerFields expectedRequestHash effectiveBudget
          reasoningIncluded =
        rebindError entry.toLedgerFields expectedRequestHash effectiveBudget reasoningIncluded :=
      (congrArg (fun e : ModelCallLedgerEntry Call => rebindError e.toLedgerFields
        expectedRequestHash effectiveBudget reasoningIncluded) haside :)
    simp only [hrow, hentry, hread, herror, bind, Except.bind]
    cases rebindError entry.toLedgerFields expectedRequestHash effectiveBudget
        reasoningIncluded with
    | some error => exact ⟨trivial, h⟩
    | none =>
      -- What was read can be written again under the new hash.
      have hrebound : Storable database (read.rebound (modelRequestHash request)) :=
        { hstorable with }
      have hsame : (read.rebound (modelRequestHash request)).aside =
          (entry.rebound (modelRequestHash request)).aside :=
        (congrArg (fun e : ModelCallLedgerEntry Call => e.rebound (modelRequestHash request))
          haside :)
      rcases rowOf_stored hrebound with ⟨row', hwritten, hstored'⟩
      simp only [hwritten]
      refine ⟨congrArg Reply.entry hsame, ?_⟩
      have hid : entryKey entry = request.requestId.root := by
        simpa using List.find?_some hentry
      have hget : ledger.get (entry.rebound (modelRequestHash request)).requestId =
          some entry := by
        change ledger.get entry.requestId = _
        rw [StableId.root_inj.mp hid]
        exact hentry
      exact replace_linked h hget (hstored'.congr hsame)

theorem settle_agrees {entry entry' : ModelCallLedgerEntry Call}
    (hsame : entry.aside = entry'.aside) (hharmless : Harmless database table (.settle entry)) :
    Agree (answer (table.perform database (.settle entry)))
      (answer (ledger.perform (.settle entry'))) ∧
    List.Forall₂ (Stored database) (table.step database (.settle entry))
      (ledger.step (.settle entry')) := by
  have hid : entry.requestId = entry'.requestId :=
    (congrArg (fun e : ModelCallLedgerEntry Call => e.requestId) hsame :)
  unfold SqlModelCallLedger.step InMemoryModelCallLedger.step
  simp only [SqlModelCallLedger.perform, SqlModelCallLedger.settle,
    InMemoryModelCallLedger.perform, InMemoryModelCallLedger.settle]
  rcases get_linked h entry.requestId with ⟨hrow, hget⟩ | ⟨row, existing, hrow, hget, hstored⟩
  · rw [hrow, ← hid, hget]
    exact ⟨trivial, h⟩
  · rcases hstored.reads with ⟨read, hread, haside, _⟩
    have herror : settlementError read.toLedgerFields entry.toLedgerFields =
        settlementError existing.toLedgerFields entry'.toLedgerFields := by
      have hread' := congrArg (fun e : ModelCallLedgerEntry Call =>
        settlementError e.toLedgerFields entry.toLedgerFields) haside
      have hentry' := congrArg (fun e : ModelCallLedgerEntry Call =>
        settlementError existing.toLedgerFields e.toLedgerFields) hsame
      exact hread'.trans hentry'
    have hstorable := hharmless row hrow read hread
    rw [herror] at hstorable
    simp only [hrow, ← hid, hget, hread, herror, bind, Except.bind]
    cases hsettles : settlementError existing.toLedgerFields entry'.toLedgerFields with
    | some error => exact ⟨trivial, h⟩
    | none =>
      rcases rowOf_stored (hstorable hsettles) with ⟨row', hwritten, hstored'⟩
      simp only [hwritten]
      refine ⟨congrArg Reply.entry hsame, ?_⟩
      exact replace_linked h (hid ▸ hget) (hstored'.congr hsame)

theorem load_agrees (requestId : StableId) :
    Agree (answer (table.perform database (.load requestId)))
      (answer (ledger.perform (.load requestId))) := by
  simp only [SqlModelCallLedger.perform, SqlModelCallLedger.load, InMemoryModelCallLedger.perform]
  rcases get_linked h requestId with ⟨hrow, hget⟩ | ⟨row, entry, hrow, hget, hstored⟩
  · rw [hrow, hget]
    rfl
  · rcases hstored.reads with ⟨read, hread, haside, _⟩
    simp only [hrow, hget, hread]
    exact congrArg (fun e => Reply.found (some e)) haside

theorem listing_linked {p : LedgerRow Int → Bool} {q : ModelCallLedgerEntry Call → Bool}
    (hpq : ∀ row entry, Stored database row entry → p row = q entry) :
    ∃ entries, (table.ordered.filter p).mapM database.entryOf = .ok entries ∧
      entries.map (·.aside) = (ledger.sorted.filter q).map (·.aside) := by
  have hsorted : List.Forall₂ (Stored database) table.ordered ledger.sorted :=
    Linked.insertionSort (fun _ _ hstored => hstored.key) h
  have hfiltered : List.Forall₂ (Stored database) (table.ordered.filter p)
      (ledger.sorted.filter q) :=
    rel_filter (fun _ _ hstored => Bool.eq_iff_iff.mp (hpq _ _ hstored)) hsorted
  refine Linked.mapM (fun row entry hstored => ?_) hfiltered
  rcases hstored.reads with ⟨read, hread, haside, _⟩
  exact ⟨read, hread, haside⟩

theorem listForRun_agrees (runId : RunId) :
    Agree (answer (table.perform database (.listForRun runId)))
      (answer (ledger.perform (.listForRun runId))) := by
  rcases listing_linked h (p := fun row => row.runId = runId.root)
    (q := fun entry => entry.runId = runId)
    (fun row entry hstored => by rw [hstored.run, decide_eq_decide]; exact StableId.root_inj)
    with ⟨entries, hentries, hsame⟩
  simp only [SqlModelCallLedger.perform, SqlModelCallLedger.listForRun, hentries,
    InMemoryModelCallLedger.perform]
  exact congrArg Reply.entries hsame

end

theorem mem_keys_filter (q : String → Bool) (hentry : entry ∈ ledger) :
    entryKey entry ∈ (ledger.sorted.filter fun e => q (entryKey e)).map entryKey ↔
      q (entryKey entry) = true := by
  simp only [mem_map, mem_filter]
  constructor
  · rintro ⟨other, ⟨_, hq⟩, hkey⟩
    rwa [hkey] at hq
  · intro hq
    exact ⟨entry, ⟨(mem_insertionSort _).mpr hentry, hq⟩, rfl⟩

/-- A listing agrees exactly when the query can be asked and its pattern selects, among
    the identities of the table, those that are meant. -/
theorem listForPrefix_agrees_iff (h : List.Forall₂ (Stored database) table ledger)
    (requestIdPrefix : String) :
    Agree (answer (table.perform database (.listForPrefix requestIdPrefix)))
        (answer (ledger.perform (.listForPrefix requestIdPrefix))) ↔
      Harmless database table (.listForPrefix requestIdPrefix) := by
  simp only [SqlModelCallLedger.perform, SqlModelCallLedger.listForPrefix,
    InMemoryModelCallLedger.perform, InMemoryModelCallLedger.listForPrefix, Harmless]
  by_cases hnull : Char.ofNat 0 ∈ requestIdPrefix.toList
  · rw [if_pos hnull]
    exact ⟨fun hagree => hagree.elim, fun hharmless => absurd hnull hharmless.1⟩
  · rw [if_neg hnull]
    rcases listing_linked h (p := fun row => Selected requestIdPrefix row.requestId)
      (q := fun entry => Selected requestIdPrefix (entryKey entry))
      (fun row entry hstored => by rw [hstored.key]) with ⟨entries, hentries, hsame⟩
    rw [hentries]
    have hagree : Agree (answer (pure (.entries entries, table) :
          Except LedgerError (Reply Call × SqlModelCallLedger)))
        (answer (pure (.entries (ledger.sorted.filter fun entry =>
          Under requestIdPrefix (entryKey entry)), ledger) :
          Except LedgerError (Reply Call × InMemoryModelCallLedger Call))) ↔
        (ledger.sorted.filter fun entry => Selected requestIdPrefix (entryKey entry)).map
            (·.aside) =
          (ledger.sorted.filter fun entry => Under requestIdPrefix (entryKey entry)).map
            (·.aside) := by
      rw [← hsame]
      exact ⟨fun heq => Reply.entries.inj heq, congrArg Reply.entries⟩
    refine Iff.trans hagree ⟨fun heq => ⟨hnull, ?_⟩, fun hharmless => ?_⟩
    · -- Equal lists have equal keys, and the keys say what was selected.
      intro row hrow
      have hkeys := congrArg (List.map entryKey) heq
      rw [map_map, map_map] at hkeys
      rcases Linked.exists_right h hrow with ⟨entry, hentry, hstored⟩
      rw [hstored.key, Bool.eq_iff_iff, ← mem_keys_filter _ hentry, ← mem_keys_filter _ hentry]
      exact iff_of_eq (congrArg (entryKey entry ∈ ·) hkeys)
    · congr 1
      refine filter_congr fun entry hentry => ?_
      rcases Linked.exists_left h ((mem_insertionSort _).mp hentry) with
        ⟨row, hrow, hstored⟩
      rw [← hstored.key]
      exact hharmless.2 row hrow

/-- A harmless call on linked ledgers. -/
theorem perform_agrees (h : List.Forall₂ (Stored database) table ledger)
    {operation operation' : Operation Call} (hsame : operation.aside = operation'.aside)
    (hharmless : Harmless database table operation) :
    Agree (answer (table.perform database operation)) (answer (ledger.perform operation')) ∧
      List.Forall₂ (Stored database) (table.step database operation)
        (ledger.step operation') := by
  cases operation with
  | createRequested request effectiveBudget reasoningIncluded now =>
    cases operation' <;> simp only [Operation.aside, reduceCtorEq] at hsame
    injection hsame with hrequest hbudget hreasoning
    subst hrequest hbudget hreasoning
    exact createRequested_agrees h _ _ _ _ _ hharmless
  | rebindRequested request expectedRequestHash effectiveBudget reasoningIncluded =>
    cases operation' <;> simp only [Operation.aside, reduceCtorEq] at hsame
    injection hsame with hrequest hhash hbudget hreasoning
    subst hrequest hhash hbudget hreasoning
    exact rebindRequested_agrees h _ _ _ _
  | settle entry =>
    cases operation' <;> simp only [Operation.aside, reduceCtorEq] at hsame
    injection hsame with hentry
    exact settle_agrees h hentry hharmless
  | load requestId =>
    cases operation' <;> simp only [Operation.aside, reduceCtorEq] at hsame
    injection hsame with hid
    subst hid
    have hagree := load_agrees h requestId
    refine ⟨hagree, ?_⟩
    unfold SqlModelCallLedger.step InMemoryModelCallLedger.step
    simp only [SqlModelCallLedger.perform, InMemoryModelCallLedger.perform]
    cases table.load database requestId <;> exact h
  | listForPrefix requestIdPrefix =>
    cases operation' <;> simp only [Operation.aside, reduceCtorEq] at hsame
    injection hsame with hid
    subst hid
    refine ⟨(listForPrefix_agrees_iff h requestIdPrefix).mpr hharmless, ?_⟩
    unfold SqlModelCallLedger.step InMemoryModelCallLedger.step
    simp only [SqlModelCallLedger.perform, InMemoryModelCallLedger.perform]
    cases table.listForPrefix database requestIdPrefix <;> exact h
  | listForRun runId =>
    cases operation' <;> simp only [Operation.aside, reduceCtorEq] at hsame
    injection hsame with hid
    subst hid
    refine ⟨listForRun_agrees h runId, ?_⟩
    unfold SqlModelCallLedger.step InMemoryModelCallLedger.step
    simp only [SqlModelCallLedger.perform, InMemoryModelCallLedger.perform]
    cases table.listForRun database runId <;> exact h

/-! ### Runs -/

/-- Runs of the same harmless calls return the same and end in linked ledgers. The
    induction is on the calls; the ledgers are general because they grow. -/
theorem run_agrees (database : Database Call) : ∀ (operations operations' : List (Operation Call))
    {table : SqlModelCallLedger} {ledger : InMemoryModelCallLedger Call},
    List.Forall₂ (Stored database) table ledger →
    operations.map Operation.aside = operations'.map Operation.aside →
    Guarded (SqlModelCallLedger.step database) (Harmless database) table operations →
    List.Forall₂ Agree (table.results database operations) (ledger.results operations') ∧
      List.Forall₂ (Stored database) (run (SqlModelCallLedger.step database) table operations)
        (run InMemoryModelCallLedger.step ledger operations') := by
  intro operations
  induction operations with
  | nil =>
    intro operations' table ledger h hsame _
    rw [map_nil, eq_comm, map_eq_nil_iff] at hsame
    subst hsame
    exact ⟨List.Forall₂.nil, h⟩
  | cons operation rest ih =>
    intro operations' table ledger h hsame hguarded
    cases operations' with
    | nil => exact absurd hsame (by simp)
    | cons operation' rest' =>
      rw [map_cons, map_cons, List.cons.injEq] at hsame
      have hone := perform_agrees h hsame.1 hguarded.1
      have hrest := ih rest' hone.2 hsame.2 hguarded.2
      rw [SqlModelCallLedger.results_cons, InMemoryModelCallLedger.results_cons]
      exact ⟨List.Forall₂.cons hone.1 hrest.1, hrest.2⟩

theorem sorted_pairwise (ledger : InMemoryModelCallLedger Call) :
    ledger.sorted.Pairwise fun a b => entryKey a ≤ entryKey b := by
  have htotal : Std.Total fun a b : ModelCallLedgerEntry Call => entryKey a ≤ entryKey b :=
    ⟨fun a b => le_total (entryKey a) (entryKey b)⟩
  have htrans : IsTrans (ModelCallLedgerEntry Call) fun a b => entryKey a ≤ entryKey b :=
    ⟨fun _ _ _ => le_trans⟩
  exact pairwise_insertionSort _ _

/-- From two empty ledgers, a run of harmless calls returns the same from both, the times
    of reservation aside. After it a listing agrees exactly when it is harmless, and then
    it holds the entries under the identity, in the order of theirs. -/
theorem ledgers_agree (database : Database Call) (operations operations' : List (Operation Call))
    (hsame : operations.map Operation.aside = operations'.map Operation.aside)
    (hharmless : Guarded (SqlModelCallLedger.step database) (Harmless database) [] operations) :
    let table := run (SqlModelCallLedger.step database) [] operations
    let ledger := run InMemoryModelCallLedger.step [] operations'
    List.Forall₂ Agree (SqlModelCallLedger.results database [] operations)
        (InMemoryModelCallLedger.results [] operations') ∧
      ∀ requestIdPrefix : String,
        (Agree (answer (table.perform database (.listForPrefix requestIdPrefix)))
            (answer (ledger.perform (.listForPrefix requestIdPrefix))) ↔
          Harmless database table (.listForPrefix requestIdPrefix)) ∧
        (Harmless database table (.listForPrefix requestIdPrefix) →
          ∃ entries, table.listForPrefix database requestIdPrefix = .ok entries ∧
            entries.map (·.aside) = (ledger.listForPrefix requestIdPrefix).map (·.aside) ∧
            (entries.map entryKey).Pairwise (· ≤ ·) ∧
            ∀ key, key ∈ entries.map entryKey ↔
              key ∈ ledger.map entryKey ∧ Under requestIdPrefix key = true) := by
  intro table ledger
  have hrun := run_agrees database operations operations' List.Forall₂.nil hsame hharmless
  refine ⟨hrun.1, fun requestIdPrefix =>
    ⟨listForPrefix_agrees_iff hrun.2 requestIdPrefix, fun hplain => ?_⟩⟩
  have hagree := (listForPrefix_agrees_iff hrun.2 requestIdPrefix).mpr hplain
  rcases listing_linked hrun.2 (p := fun row => Selected requestIdPrefix row.requestId)
    (q := fun entry => Selected requestIdPrefix (entryKey entry))
    (fun row entry hstored => by rw [hstored.key]) with ⟨entries, hentries, _⟩
  have hlisted : table.listForPrefix database requestIdPrefix = .ok entries := by
    unfold SqlModelCallLedger.listForPrefix
    rw [if_neg hplain.1]
    exact hentries
  have haside : entries.map (·.aside) =
      (ledger.listForPrefix requestIdPrefix).map (·.aside) := by
    simp only [SqlModelCallLedger.perform, InMemoryModelCallLedger.perform] at hagree
    change Agree (answer (do
      let found ← table.listForPrefix database requestIdPrefix
      pure (.entries found, table))) _ at hagree
    rw [hlisted] at hagree
    exact Reply.entries.inj hagree
  have hkeys : entries.map entryKey = (ledger.listForPrefix requestIdPrefix).map entryKey := by
    have := congrArg (List.map entryKey) haside
    rwa [map_map, map_map] at this
  refine ⟨entries, hlisted, haside, ?_, ?_⟩
  · rw [hkeys, pairwise_map]
    exact (sorted_pairwise ledger).sublist filter_sublist
  · intro key
    rw [hkeys]
    unfold InMemoryModelCallLedger.listForPrefix
    simp only [mem_map, mem_filter]
    constructor
    · rintro ⟨entry, ⟨hentry, hunder⟩, rfl⟩
      exact ⟨⟨entry, (mem_insertionSort _).mp hentry, rfl⟩, hunder⟩
    · rintro ⟨⟨entry, hentry, rfl⟩, hunder⟩
      exact ⟨entry, ⟨(mem_insertionSort _).mpr hentry, hunder⟩, rfl⟩

theorem harmless_of_plain {requestIdPrefix : String} (hplain : Like.Plain requestIdPrefix.toList)
    (hnull : Char.ofNat 0 ∉ requestIdPrefix.toList) (table : SqlModelCallLedger) :
    Harmless database table (.listForPrefix requestIdPrefix) := by
  refine ⟨hnull, fun row _ => ?_⟩
  have hdotted : Like.Plain (requestIdPrefix ++ ".").toList := by
    intro c hc
    rw [String.toList_append] at hc
    rcases mem_append.mp hc with hname | hdot
    · exact hplain c hname
    · rw [mem_singleton.mp hdot]
      decide
  unfold Selected Under startswithPattern Like.startsWith
  rw [Like.like_plain hdotted]

/-- When the ledgers agree on a listing after a harmless call, the pattern selects the
    entries that are meant. -/
theorem selected_of_agree {operation : Operation Call} (requestIdPrefix : String)
    (hharmless : Harmless database [] operation)
    (hagree : List.Forall₂ Agree
      (SqlModelCallLedger.results database [] [operation, .listForPrefix requestIdPrefix])
      (InMemoryModelCallLedger.results [] [operation, .listForPrefix requestIdPrefix]))
    (hentry : entry ∈ InMemoryModelCallLedger.step [] operation) :
    Selected requestIdPrefix (entryKey entry) = Under requestIdPrefix (entryKey entry) := by
  rw [SqlModelCallLedger.results_cons, InMemoryModelCallLedger.results_cons,
    SqlModelCallLedger.results_cons, InMemoryModelCallLedger.results_cons, forall₂_cons,
    forall₂_cons] at hagree
  have hlinked := (perform_agrees List.Forall₂.nil rfl hharmless).2
  have hlisting := (listForPrefix_agrees_iff hlinked requestIdPrefix).mp hagree.2.1
  rcases Linked.exists_left hlinked hentry with ⟨row, hrow, hstored⟩
  rw [← hstored.key]
  exact hlisting.2 row hrow

end

namespace Sample

def database : Database JsonValue := ⟨0, Codec.document⟩

def request (requestId : String) (h : isStableId requestId = true) : ModelRequest where
  requestId := ⟨requestId, h⟩
  runId := ⟨"run", .refl true⟩
  taskId := ⟨"task", .refl true⟩
  attemptId := none
  purpose := .batchTest
  schedulingStage := none
  canonicalJson := "request"

def budget : EffectiveBudgetResult where
  budgetSource := .explicitRequest
  contextLimit := 8
  estimatedInputTokens := 1
  bodyOutputBudget := 1
  thinkingBudget := 0
  totalOutputBudget := 1
  safetyAllowanceTokens := 0
  reservedSequenceTokens := 2
  availableInputTokens := 7
  positive := by decide
  reserved := rfl
  available := rfl

theorem storable_requested (requestId : String) (h : isStableId requestId = true) :
    Storable database (requestedEntry (request requestId h) budget false 0) where
  phase := by
    change TextFits 256 "batch_test"
    decide
  provider := nofun
  detail := nofun
  transport := nofun
  sent := nofun
  completed := nofun
  requested := by
    change database.Readable 0
    decide

def reserve (requestId : String) (h : isStableId requestId = true) : Operation JsonValue :=
  .createRequested (request requestId h) budget false 0

/-- The underscore stands for any character, so the table lists a request that is not
    under the name it was asked for. -/
theorem ledgers_differ : ¬ ∀ (database : Database JsonValue)
    (operations : List (Operation JsonValue)),
    List.Forall₂ Agree (SqlModelCallLedger.results database [] operations)
      (InMemoryModelCallLedger.results [] operations) := by
  intro hall
  have hharmless : Harmless database [] (reserve "modelXa.retry" (by decide)) :=
    fun _ => storable_requested "modelXa.retry" (by decide)
  have hentry : requestedEntry (request "modelXa.retry" (by decide)) budget false 0 ∈
      InMemoryModelCallLedger.step [] (reserve "modelXa.retry" (by decide)) :=
    mem_singleton_self _
  have hselects := selected_of_agree "model_a" hharmless (hall database _) hentry
  exact absurd hselects (by decide +kernel)

theorem ledgers_agree_sample :
    let operations : List (Operation JsonValue) :=
      [reserve "model.a.retry" (by decide), .listForPrefix "model.a"]
    let operations' : List (Operation JsonValue) :=
      [.createRequested (request "model.a.retry" (by decide)) budget false 1,
        .listForPrefix "model.a"]
    let table := run (SqlModelCallLedger.step database) [] operations
    let ledger := run InMemoryModelCallLedger.step [] operations'
    List.Forall₂ Agree (SqlModelCallLedger.results database [] operations)
        (InMemoryModelCallLedger.results [] operations') ∧
      ∀ requestIdPrefix : String,
        (Agree (answer (table.perform database (.listForPrefix requestIdPrefix)))
            (answer (ledger.perform (.listForPrefix requestIdPrefix))) ↔
          Harmless database table (.listForPrefix requestIdPrefix)) ∧
        (Harmless database table (.listForPrefix requestIdPrefix) →
          ∃ entries, table.listForPrefix database requestIdPrefix = .ok entries ∧
            entries.map (·.aside) = (ledger.listForPrefix requestIdPrefix).map (·.aside) ∧
            (entries.map entryKey).Pairwise (· ≤ ·) ∧
            ∀ key, key ∈ entries.map entryKey ↔
              key ∈ ledger.map entryKey ∧ Under requestIdPrefix key = true) :=
  ledgers_agree database _ _ rfl
    ⟨fun _ => storable_requested "model.a.retry" (by decide),
      harmless_of_plain (by simp [Like.Plain]) (by decide) _, trivial⟩

end Sample

end NovelAgent.ModelCalls
