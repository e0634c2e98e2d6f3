import NovelAgent.ModelCalls.Agreement

/-!
# Terminal Entries

What happens to an entry of a ledger once it says when its call was completed.
-/

namespace NovelAgent.ModelCalls

open Core Domain List

variable {Call : Type}

/-- What a settlement is checked for. -/
def SameReservation (existing entry : LedgerFields Call) : Prop :=
  existing.requestHash = entry.requestHash ∧ existing.runId = entry.runId ∧
    existing.taskId = entry.taskId ∧ existing.effectiveBudget = entry.effectiveBudget ∧
    existing.reasoningIncludedInCompletionTokens = entry.reasoningIncludedInCompletionTokens

/-- A completed call is rejected, with its response and its record kept. -/
def Rejects (existing entry : LedgerFields Call) : Prop :=
  existing.status = .completed ∧ entry.status = .validationRejected ∧
    entry.rawResponseHash = existing.rawResponseHash ∧ entry.callRecord = existing.callRecord

/-- A settlement that repeats a terminal entry or rejects it. -/
def HonestSettlement (existing entry : ModelCallLedgerEntry Call) : Prop :=
  existing.completedAt ≠ none → SameReservation existing.toLedgerFields entry.toLedgerFields →
    (existing.status = entry.status → entry = existing) ∧
      (existing.status = .completed → entry.status = .validationRejected →
        entry.rawResponseHash = existing.rawResponseHash ∧ entry.callRecord = existing.callRecord)

/-- What should come of a settlement of a terminal entry: nothing at all if it
    repeats the entry, and an error unless it rejects it. -/
structure TerminalKept {Ledger : Type} (ledger : Ledger)
    (existing entry : ModelCallLedgerEntry Call)
    (outcome : Except LedgerError (ModelCallLedgerEntry Call × Ledger)) : Prop where
  identical : entry = existing → outcome = .ok (entry, ledger)
  refused : entry ≠ existing → ¬ Rejects existing.toLedgerFields entry.toLedgerFields →
    ∃ error, outcome = .error error

theorem settlementError_none {existing entry : LedgerFields Call} :
    settlementError existing entry = none ↔ SameReservation existing entry ∧
      (existing.completedAt = none ∨ existing.status = entry.status ∨
        existing.status = .completed ∧ entry.status = .validationRejected) := by
  unfold settlementError SameReservation
  by_cases hidentity : existing.requestHash ≠ entry.requestHash ∨ existing.runId ≠ entry.runId ∨
      existing.taskId ≠ entry.taskId ∨ existing.effectiveBudget ≠ entry.effectiveBudget ∨
      existing.reasoningIncludedInCompletionTokens ≠ entry.reasoningIncludedInCompletionTokens
  · rw [if_pos hidentity]
    constructor
    · intro h
      cases h
    · rintro ⟨⟨hhash, hrun, htask, hbudget, hreasoning⟩, _⟩
      rcases hidentity with h | h | h | h | h
      · exact absurd hhash h
      · exact absurd hrun h
      · exact absurd htask h
      · exact absurd hbudget h
      · exact absurd hreasoning h
  · rw [if_neg hidentity]
    push Not at hidentity
    simp only [hidentity, true_and]
    by_cases hterminal : existing.status ≠ entry.status ∧ existing.completedAt ≠ none ∧
        ¬ (existing.status = .completed ∧ entry.status = .validationRejected)
    · rw [if_pos hterminal]
      rcases hterminal with ⟨hstatus, hcompleted, hnot⟩
      constructor
      · intro h
        cases h
      · rintro (h | h | h)
        · exact absurd h hcompleted
        · exact absurd h hstatus
        · exact absurd h hnot
    · rw [if_neg hterminal]
      refine ⟨fun _ => ?_, fun _ => rfl⟩
      by_contra hnone
      push Not at hnone
      exact hterminal ⟨hnone.2.1, hnone.1, fun h => hnone.2.2 h.1 h.2⟩

/-- A settlement that passes the check of a terminal entry repeats it or rejects
    it, when it is honest. -/
theorem HonestSettlement.follows {existing entry : ModelCallLedgerEntry Call}
    (h : HonestSettlement existing entry) (hterminal : existing.completedAt ≠ none)
    (hpasses : settlementError existing.toLedgerFields entry.toLedgerFields = none) :
    entry = existing ∨ Rejects existing.toLedgerFields entry.toLedgerFields := by
  rcases settlementError_none.mp hpasses with ⟨hsame, hopen | hstatus | ⟨hcompleted, hrejected⟩⟩
  · exact absurd hopen hterminal
  · exact Or.inl ((h hterminal hsame).1 hstatus)
  · exact Or.inr ⟨hcompleted, hrejected, (h hterminal hsame).2 hcompleted hrejected⟩

theorem settlementError_self (entry : LedgerFields Call) : settlementError entry entry = none :=
  settlementError_none.mpr ⟨⟨rfl, rfl, rfl, rfl, rfl⟩, Or.inr (Or.inl rfl)⟩

section Replacing

variable {α ι : Type} [DecidableEq ι] {key : α → ι} {records : List α} {record found : α} {k : ι}

theorem find_replaceFirst (hfound : (records.find? fun x => key x = k) = some found) :
    ((Keyed.replaceFirst key record records).find? fun x => key x = k) =
      if key record = k then some record else some found := by
  induction records with
  | nil => cases hfound
  | cons x rest ih =>
    unfold Keyed.replaceFirst
    by_cases hx : key x = k
    · have hsame : x = found := by simpa [List.find?_cons, hx] using hfound
      by_cases hrecord : key record = k
      · have hkeys : key x = key record := by rw [hx, hrecord]
        rw [if_pos hkeys, if_pos hrecord, List.find?_cons_of_pos (by simpa using hrecord)]
      · have hkeys : key x ≠ key record := by
          rw [hx]
          exact fun h => hrecord h.symm
        rw [if_neg hkeys, if_neg hrecord, List.find?_cons_of_pos (by simpa using hx), hsame]
    · have hrest : (rest.find? fun x => key x = k) = some found := by
        simpa [List.find?_cons, hx] using hfound
      by_cases hkeys : key x = key record
      · have hrecord : key record ≠ k := by
          rw [← hkeys]
          exact hx
        rw [if_pos hkeys, if_neg hrecord]
        simpa [List.find?_cons, hrecord] using hrest
      · rw [if_neg hkeys]
        simpa [List.find?_cons, hx] using ih hrest

theorem replaceFirst_found (hfound : (records.find? fun x => key x = key found) = some found) :
    Keyed.replaceFirst key found records = records := by
  induction records with
  | nil => rfl
  | cons x rest ih =>
    unfold Keyed.replaceFirst
    by_cases hx : key x = key found
    · have hsame : x = found := by simpa [List.find?_cons, hx] using hfound
      rw [if_pos hx, hsame]
    · have hrest : (rest.find? fun x => key x = key found) = some found := by
        simpa [List.find?_cons, hx] using hfound
      rw [if_neg hx, ih hrest]

/-- A record of the collection after a replacement was there, or is the new one. -/
theorem mem_of_replaceFirst {x : α} (h : x ∈ Keyed.replaceFirst key record records) :
    x ∈ records ∨ x = record := by
  induction records with
  | nil => cases h
  | cons first rest ih =>
    unfold Keyed.replaceFirst at h
    by_cases hfirst : key first = key record
    · rw [if_pos hfirst, mem_cons] at h
      rcases h with hnew | hold
      · exact Or.inr hnew
      · exact Or.inl (mem_cons_of_mem _ hold)
    · rw [if_neg hfirst, mem_cons] at h
      rcases h with hold | hrest
      · rw [hold]
        exact Or.inl mem_cons_self
      · exact (ih hrest).imp_left (mem_cons_of_mem _)

end Replacing

variable {operation : Operation Call}

namespace InMemoryModelCallLedger

variable {ledger : InMemoryModelCallLedger Call} {existing entry : ModelCallLedgerEntry Call}
  {requestId : StableId}

theorem get_key (h : ledger.get requestId = some entry) : entry.requestId = requestId := by
  have hkey := List.find?_some h
  rw [decide_eq_true_iff] at hkey
  exact StableId.root_inj.mp hkey

/-- Writing an entry leaves the others, and is what is read under its own identity. -/
theorem get_put (h : ledger.get requestId = some existing) :
    (ledger.put entry).get requestId =
      if entry.requestId = requestId then some entry else some existing := by
  have hkeys : entryKey entry = requestId.root ↔ entry.requestId = requestId := StableId.root_inj
  unfold put
  cases hown : ledger.get entry.requestId with
  | none =>
    have hother : entry.requestId ≠ requestId := by
      rintro hsame
      rw [hsame, h] at hown
      cases hown
    rw [if_neg hother]
    change (ledger ++ [entry]).find? _ = _
    rw [List.find?_append]
    unfold get at h
    rw [h]
    rfl
  | some own =>
    change (Keyed.replaceFirst entryKey entry ledger).find? _ = _
    rw [find_replaceFirst h]
    simp only [hkeys]

theorem put_self (h : ledger.get entry.requestId = some entry) : ledger.put entry = ledger := by
  unfold put
  rw [h]
  exact replaceFirst_found h

theorem settle_kept_iff (hget : ledger.get entry.requestId = some existing)
    (hterminal : existing.completedAt ≠ none) :
    TerminalKept ledger existing entry (ledger.settle entry) ↔ HonestSettlement existing entry := by
  unfold settle
  rw [hget]
  simp only
  constructor
  · intro hkept _ hsame
    -- A settlement that passes the check is written, and so was not refused.
    have hpass : (existing.status = entry.status ∨
        existing.status = .completed ∧ entry.status = .validationRejected) →
        entry = existing ∨ Rejects existing.toLedgerFields entry.toLedgerFields := by
      intro hstatus
      by_contra hnone
      push Not at hnone
      rcases hkept.refused hnone.1 hnone.2 with ⟨error, herror⟩
      rw [settlementError_none.mpr ⟨hsame, Or.inr hstatus⟩] at herror
      cases herror
    constructor
    · intro hstatus
      rcases hpass (Or.inl hstatus) with hsame | hrejects
      · exact hsame
      · rw [hrejects.1, hrejects.2.1] at hstatus
        cases hstatus
    · intro hcompleted hrejected
      rcases hpass (Or.inr ⟨hcompleted, hrejected⟩) with hsame | hrejects
      · rw [hsame]
        exact ⟨rfl, rfl⟩
      · exact hrejects.2.2
  · intro hhonest
    constructor
    · rintro rfl
      rw [settlementError_self, put_self hget]
      rfl
    · intro hdiffers hnot
      cases hcheck : settlementError existing.toLedgerFields entry.toLedgerFields with
      | some error => exact ⟨error, rfl⟩
      | none =>
        rcases hhonest.follows hterminal hcheck with hsame | hrejects
        · exact absurd hsame hdiffers
        · exact absurd hrejects hnot

def HonestStep (ledger : InMemoryModelCallLedger Call) : Operation Call → Prop
  | .settle entry => ∀ existing ∈ ledger.get entry.requestId, HonestSettlement existing entry
  | _ => True

/-- A terminal entry stays, or is rejected, in one step. -/
theorem step_terminal (hhonest : ledger.HonestStep operation)
    (hget : ledger.get requestId = some existing) (hterminal : existing.completedAt ≠ none) :
    ∃ next, (ledger.step operation).get requestId = some next ∧
      (next = existing ∨ Rejects existing.toLedgerFields next.toLedgerFields) := by
  have hsame : ∃ next, ledger.get requestId = some next ∧
      (next = existing ∨ Rejects existing.toLedgerFields next.toLedgerFields) :=
    ⟨existing, hget, Or.inl rfl⟩
  unfold step
  cases operation with
  | createRequested request effectiveBudget reasoningIncluded now =>
    simp only [perform, createRequested]
    cases hown : ledger.get request.requestId with
    | some own =>
      simp only
      cases identityError own.toLedgerFields request effectiveBudget reasoningIncluded with
      | some error => exact hsame
      | none => exact hsame
    | none =>
      have hother : request.requestId ≠ requestId := by
        rintro rfl
        rw [hget] at hown
        cases hown
      refine ⟨existing, ?_, Or.inl rfl⟩
      change (ledger.put _).get requestId = _
      rw [get_put hget]
      exact if_neg hother
  | rebindRequested request expectedRequestHash effectiveBudget reasoningIncluded =>
    simp only [perform, rebindRequested]
    cases hown : ledger.get request.requestId with
    | none => exact hsame
    | some own =>
      simp only
      cases hcheck : rebindError own.toLedgerFields expectedRequestHash effectiveBudget
          reasoningIncluded with
      | some error => exact hsame
      | none =>
        refine ⟨existing, ?_, Or.inl rfl⟩
        change (ledger.put _).get requestId = _
        rw [get_put hget]
        refine if_neg fun hown' => ?_
        -- Only an entry that is not terminal takes another request.
        have hid : own.requestId = requestId := hown'
        rw [get_key hown] at hid
        rw [hid, hget, Option.some.injEq] at hown
        unfold rebindError at hcheck
        rw [if_pos (Or.inr (Or.inr (hown ▸ hterminal)))] at hcheck
        cases hcheck
  | settle entry =>
    simp only [perform, settle]
    cases hown : ledger.get entry.requestId with
    | none => exact hsame
    | some own =>
      simp only
      cases hcheck : settlementError own.toLedgerFields entry.toLedgerFields with
      | some error => exact hsame
      | none =>
        change ∃ next, (ledger.put entry).get requestId = some next ∧ _
        rw [get_put hget]
        by_cases hid : entry.requestId = requestId
        · rw [if_pos hid]
          have hhere := hhonest own hown
          rw [hid, hget, Option.some.injEq] at hown
          rw [← hown] at hcheck hhere
          exact ⟨entry, rfl, hhere.follows hterminal hcheck⟩
        · rw [if_neg hid]
          exact ⟨existing, rfl, Or.inl rfl⟩
  | load loaded => exact hsame
  | listForPrefix requestIdPrefix => exact hsame
  | listForRun runId => exact hsame

end InMemoryModelCallLedger

section Rows

variable {database : Database Call} {entry written : ModelCallLedgerEntry Call}
  {row : LedgerRow Int}

/-- Every row is what its entry is written to. -/
def Written (database : Database Call) (table : SqlModelCallLedger) : Prop :=
  ∀ row ∈ table, ∃ entry, database.rowOf entry = .ok row

theorem fetch_eq_ok {instant : Int} {time : Timestamp} (h : database.fetch instant = .ok time) :
    time = .aware instant := by
  unfold Database.fetch at h
  split at h
  · exact (Except.ok.inj h).symm
  · cases h

theorem fetchOption_eq_ok {instant : Option Int} {time : Option Timestamp}
    (h : database.fetchOption instant = .ok time) : time = instant.map Timestamp.aware := by
  cases instant with
  | none => exact (Except.ok.inj h).symm
  | some i =>
    change (database.fetch i).map some = .ok time at h
    cases hfetch : database.fetch i with
    | error e =>
      rw [hfetch] at h
      cases h
    | ok t =>
      rw [hfetch] at h
      rw [← Except.ok.inj h, fetch_eq_ok hfetch]
      rfl

theorem validFields_eq_ok {fields : LedgerFields Call}
    (h : (if hvalid : fields.Valid then Except.ok ⟨fields, hvalid⟩ else throw .invalidRow :
      Except LedgerError (ModelCallLedgerEntry Call)) = .ok entry) :
    entry.toLedgerFields = fields := by
  by_cases hvalid : fields.Valid
  · rw [dif_pos hvalid] at h
    rw [← Except.ok.inj h]
  · rw [dif_neg hvalid] at h
    cases h

/-- The fields of an entry, with instants for its points in time. -/
def timed (fields : LedgerFields Call) (sent : Option Int) (requested : Int)
    (completed : Option Int) : LedgerFields Call :=
  { fields with
    providerSentAt := sent.map Timestamp.aware
    requestedAt := .aware requested
    completedAt := completed.map Timestamp.aware }

section

variable (hwritten : database.rowOf written = .ok row) (hread : database.entryOf row = .ok entry)

include hwritten hread

/-- An entry reads back with the fields it was written with, and with the instants of its row. -/
theorem entryOf_written :
    entry.toLedgerFields = timed written.toLedgerFields row.providerSentAt row.requestedAt
      row.completedAt := by
  unfold Database.rowOf Database.write at hwritten
  split at hwritten
  · have hrow := Except.ok.inj hwritten
    unfold Database.entryOf Database.read at hread
    simp only [Outcome.bind_eq_ok, Outcome.pure_eq_ok] at hread
    rcases hread with ⟨_, ⟨sent, hsent, requested, hrequested, completed, hcompleted, rfl⟩, hread⟩
    rw [fetchOption_eq_ok hsent, fetch_eq_ok hrequested, fetchOption_eq_ok hcompleted, ← hrow]
      at hread
    unfold toDomain at hread
    simp only [fromDomain, asUtc,
      validatedOption_map (fun ref => Context.artifactRefCodec.load_dump ref),
      validatedOption_map (fun record => database.call.load_dump record),
      validatedOption_map StableId.ofString?_root, validatedOption_map contentHash?_root,
      StableId.ofString?_root, contentHash?_root, ledgerStatus?_value, Codec.load_dump,
      validated, bind, Except.bind, pure, Except.pure] at hread
    have hutc : ∀ instant : Option Int, (instant.map Timestamp.aware).map asUtc =
        instant.map Timestamp.aware := by
      intro instant
      rw [Option.map_map]
      rfl
    rw [validFields_eq_ok hread, ← hrow]
    unfold timed
    simp only [hutc, fromDomain]
  · cases hwritten

theorem rowOf_entryOf : database.rowOf entry = .ok row := by
  have hfields := entryOf_written hwritten hread
  have hinstants : ∀ instant : Option Int,
      (instant.map Timestamp.aware).map database.store = instant := by
    intro instant
    rw [Option.map_map]
    cases instant <;> rfl
  unfold Database.rowOf Database.write at hwritten ⊢
  by_cases hfits : (fromDomain database written).Fits
  · rw [if_pos hfits] at hwritten
    have hrow := Except.ok.inj hwritten
    unfold fromDomain
    rw [hfields]
    unfold timed
    simp only [hinstants]
    refine (if_pos hfits).trans ?_
    rw [← hrow]
    rfl
  · rw [if_neg hfits] at hwritten
    cases hwritten

theorem columns_of_read :
    row.requestId = entry.requestId.root ∧ row.status = entry.status.value ∧
      row.rawResponseHash = entry.rawResponseHash.map (·.root) ∧
      row.callRecordJson = entry.callRecord.map database.call.dump ∧
      (row.completedAt = none ↔ entry.completedAt = none) := by
  have hagain := rowOf_entryOf hwritten hread
  unfold Database.rowOf Database.write at hagain
  by_cases hfits : (fromDomain database entry).Fits
  · rw [if_pos hfits] at hagain
    rw [← Except.ok.inj hagain]
    exact ⟨rfl, rfl, rfl, rfl, by simp [fromDomain]⟩
  · rw [if_neg hfits] at hagain
    cases hagain

end

theorem columns_of_write (hwritten : database.rowOf written = .ok row) :
    row.requestId = written.requestId.root ∧ row.status = written.status.value ∧
      row.rawResponseHash = written.rawResponseHash.map (·.root) ∧
      row.callRecordJson = written.callRecord.map database.call.dump ∧
      (row.completedAt = none ↔ written.completedAt = none) := by
  unfold Database.rowOf Database.write at hwritten
  by_cases hfits : (fromDomain database written).Fits
  · rw [if_pos hfits] at hwritten
    rw [← Except.ok.inj hwritten]
    exact ⟨rfl, rfl, rfl, rfl, by simp [fromDomain]⟩
  · rw [if_neg hfits] at hwritten
    cases hwritten

end Rows

namespace SqlModelCallLedger

variable {database : Database Call} {table : SqlModelCallLedger} {row : LedgerRow Int}
  {existing entry : ModelCallLedgerEntry Call} {requestId : StableId}

/-- A completed row becomes a rejected one, with its response and its record kept. -/
def RowRejects (row next : LedgerRow Int) : Prop :=
  row.status = ModelCallLedgerStatus.completed.value ∧
    next.status = ModelCallLedgerStatus.validationRejected.value ∧
    next.rawResponseHash = row.rawResponseHash ∧ next.callRecordJson = row.callRecordJson

theorem get_written (hwritten : Written database table) (hget : table.get requestId = some row) :
    row.requestId = requestId.root ∧ ∃ entry, database.rowOf entry = .ok row := by
  refine ⟨?_, hwritten row (mem_of_find?_eq_some hget)⟩
  have hkey := List.find?_some hget
  rwa [decide_eq_true_iff] at hkey

theorem get_replace (hget : table.get requestId = some row) (next : LedgerRow Int) :
    SqlModelCallLedger.get (Keyed.replaceFirst LedgerRow.requestId next table) requestId =
      if next.requestId = requestId.root then some next else some row :=
  find_replaceFirst hget

/-- A settlement of a terminal row that is honest is refused unless it repeats
    the row or rejects it. -/
theorem settle_kept (hwritten : Written database table)
    (hget : table.get entry.requestId = some row) (hread : database.entryOf row = .ok existing)
    (hterminal : existing.completedAt ≠ none) (hhonest : HonestSettlement existing entry) :
    TerminalKept table existing entry (table.settle database entry) := by
  rcases get_written hwritten hget with ⟨hkey, written, hrow⟩
  unfold settle
  rw [hget]
  simp only [hread, bind, Except.bind]
  constructor
  · rintro rfl
    have hself : Keyed.replaceFirst LedgerRow.requestId row table = table := by
      refine replaceFirst_found ?_
      rw [hkey]
      exact hget
    rw [settlementError_self]
    simp only [rowOf_entryOf hrow hread, hself]
    rfl
  · intro hdiffers hnot
    cases hcheck : settlementError existing.toLedgerFields entry.toLedgerFields with
    | some error => exact ⟨error, rfl⟩
    | none =>
      rcases hhonest.follows hterminal hcheck with hsame | hrejects
      · exact absurd hsame hdiffers
      · exact absurd hrejects hnot

/-- The settlements of a run are honest, with the entries as they are read. -/
def HonestStep (database : Database Call) (table : SqlModelCallLedger) : Operation Call → Prop
  | .settle entry => ∀ row ∈ table.get entry.requestId, ∀ existing,
      database.entryOf row = .ok existing → HonestSettlement existing entry
  | _ => True

/-- Everything a step can do to the table: nothing, a new row, or the row of an entry in the place
    of one that is not terminal or that passed the check of a settlement. -/
theorem step_cases (hwritten : Written database table) (operation : Operation Call) :
    table.step database operation = table ∨
    (∃ entry row, database.rowOf entry = .ok row ∧ table.get entry.requestId = none ∧
      table.step database operation = table ++ [row]) ∨
    ∃ own existing entry row, table.get entry.requestId = some own ∧
      database.entryOf own = .ok existing ∧ database.rowOf entry = .ok row ∧
      table.step database operation = Keyed.replaceFirst LedgerRow.requestId row table ∧
      (existing.completedAt = none ∨ operation = .settle entry ∧
        settlementError existing.toLedgerFields entry.toLedgerFields = none) := by
  unfold step
  cases operation with
  | createRequested request effectiveBudget reasoningIncluded now =>
    simp only [perform, createRequested]
    cases hget : table.get request.requestId with
    | some own =>
      simp only
      cases hread : database.entryOf own with
      | error e => exact Or.inl rfl
      | ok existing =>
        simp only [bind, Except.bind]
        cases identityError existing.toLedgerFields request effectiveBudget
            reasoningIncluded with
        | some error => exact Or.inl rfl
        | none => exact Or.inl rfl
    | none =>
      simp only
      cases hrow : database.rowOf (requestedEntry request effectiveBudget reasoningIncluded
          now) with
      | error e => exact Or.inl rfl
      | ok row => exact Or.inr (Or.inl ⟨_, row, hrow, hget, rfl⟩)
  | rebindRequested request expectedRequestHash effectiveBudget reasoningIncluded =>
    simp only [perform, rebindRequested]
    cases hget : table.get request.requestId with
    | none => exact Or.inl rfl
    | some own =>
      simp only
      cases hread : database.entryOf own with
      | error e => exact Or.inl rfl
      | ok existing =>
        simp only [bind, Except.bind]
        cases hcheck : rebindError existing.toLedgerFields expectedRequestHash
            effectiveBudget reasoningIncluded with
        | some error => exact Or.inl rfl
        | none =>
          simp only
          cases hrow : database.rowOf (existing.rebound (modelRequestHash request)) with
          | error e => exact Or.inl rfl
          | ok row =>
            -- The entry is still the one of the request, and not terminal.
            rcases get_written hwritten hget with ⟨hkey, written, hown⟩
            have hid : existing.requestId = request.requestId := by
              rw [← StableId.root_inj, ← hkey]
              exact (columns_of_read hown hread).1.symm
            have hopen : existing.completedAt = none := by
              by_contra hterminal
              unfold rebindError at hcheck
              rw [if_pos (Or.inr (Or.inr hterminal))] at hcheck
              cases hcheck
            refine Or.inr (Or.inr ⟨own, existing,
              existing.rebound (modelRequestHash request), row, ?_, hread, hrow, rfl,
              Or.inl hopen⟩)
            change table.get existing.requestId = some own
            rw [hid]
            exact hget
  | settle entry =>
    simp only [perform, settle]
    cases hget : table.get entry.requestId with
    | none => exact Or.inl rfl
    | some own =>
      simp only
      cases hread : database.entryOf own with
      | error e => exact Or.inl rfl
      | ok existing =>
        simp only [bind, Except.bind]
        cases hcheck : settlementError existing.toLedgerFields entry.toLedgerFields with
        | some error => exact Or.inl rfl
        | none =>
          simp only
          cases hrow : database.rowOf entry with
          | error e => exact Or.inl rfl
          | ok row =>
            exact Or.inr (Or.inr ⟨own, existing, entry, row, hget, hread, hrow, rfl,
              Or.inr ⟨rfl, hcheck⟩⟩)
  | load loaded =>
    simp only [perform]
    cases table.load database loaded <;> exact Or.inl rfl
  | listForPrefix requestIdPrefix =>
    simp only [perform]
    cases table.listForPrefix database requestIdPrefix <;> exact Or.inl rfl
  | listForRun runId =>
    simp only [perform]
    cases table.listForRun database runId <;> exact Or.inl rfl

theorem step_written (hwritten : Written database table) (operation : Operation Call) :
    Written database (table.step database operation) := by
  intro row hrow
  rcases step_cases hwritten operation with
    hsame | ⟨entry, next, hnext, _, happend⟩ | ⟨_, _, entry, next, _, _, hnext, hreplace, _⟩
  · rw [hsame] at hrow
    exact hwritten row hrow
  · rw [happend, mem_append, mem_singleton] at hrow
    rcases hrow with hold | hnew
    · exact hwritten row hold
    · rw [hnew]
      exact ⟨entry, hnext⟩
  · rw [hreplace] at hrow
    have hone : row ∈ table ∨ row = next := mem_of_replaceFirst hrow
    rcases hone with hold | hnew
    · exact hwritten row hold
    · rw [hnew]
      exact ⟨entry, hnext⟩

/-- A terminal row stays, or is rejected, in one step. -/
theorem step_terminal (hwritten : Written database table)
    (hhonest : HonestStep database table operation) (hget : table.get requestId = some row)
    (hterminal : row.completedAt ≠ none) :
    ∃ next, (table.step database operation).get requestId = some next ∧
      next.completedAt ≠ none ∧ (next = row ∨ RowRejects row next) := by
  rcases step_cases hwritten operation with
    hsame | ⟨entry, next, hnext, hnone, happend⟩ |
      ⟨own, existing, entry, next, hown, hread, hnext, hreplace, hcheck⟩
  · rw [hsame]
    exact ⟨row, hget, hterminal, Or.inl rfl⟩
  · refine ⟨row, ?_, hterminal, Or.inl rfl⟩
    rw [happend]
    unfold get at hget ⊢
    rw [List.find?_append, hget]
    rfl
  · rw [hreplace, get_replace hget]
    by_cases hid : next.requestId = requestId.root
    · rw [if_pos hid]
      -- The row that is replaced is the terminal one, so this is a settlement.
      have hentry : entry.requestId = requestId := by
        rw [← StableId.root_inj, ← hid]
        exact (columns_of_write hnext).1.symm
      rw [hentry, hget, Option.some.injEq] at hown
      rw [← hown] at hread
      rcases get_written hwritten hget with ⟨_, written, hrow⟩
      rcases columns_of_read hrow hread with ⟨_, hstatus, hhash, hrecord, hcompleted⟩
      have hend : existing.completedAt ≠ none := fun h => hterminal (hcompleted.mpr h)
      rcases hcheck with hopen | ⟨hsettle, hpasses⟩
      · exact absurd hopen hend
      · rw [hsettle] at hhonest
        have hhere : HonestSettlement existing entry :=
          hhonest row (hentry ▸ hget) existing hread
        rcases hhere.follows hend hpasses with hsame | hrejects
        · rw [hsame, rowOf_entryOf hrow hread, Except.ok.injEq] at hnext
          rw [← hnext]
          exact ⟨row, rfl, hterminal, Or.inl rfl⟩
        · rcases columns_of_write hnext with ⟨_, hstatus', hhash', hrecord', hcompleted'⟩
          have hended : entry.completedAt ≠ none :=
            (entry.valid.answered (Or.inr (Or.inl hrejects.2.1))).2.2
          refine ⟨next, rfl, fun h => hended (hcompleted'.mp h), Or.inr ⟨?_, ?_, ?_, ?_⟩⟩
          · rw [hstatus, hrejects.1]
          · rw [hstatus', hrejects.2.1]
          · rw [hhash', hrejects.2.2.1, hhash]
          · rw [hrecord', hrejects.2.2.2, hrecord]
    · rw [if_neg hid]
      exact ⟨row, rfl, hterminal, Or.inl rfl⟩

end SqlModelCallLedger

section Runs

/-- What is final under a step is final under a run, by induction on the run.
    Where one change is allowed it leaves nothing that may change again. -/
theorem run_final {σ ι α : Type} (step : σ → ι → σ) (G : σ → ι → Prop) (Inv : σ → Prop)
    (look : σ → Option α) (Final : α → Prop) (Next : α → α → Prop)
    (hinv : ∀ s c, Inv s → Inv (step s c))
    (hstep : ∀ s c a, Inv s → G s c → look s = some a → Final a →
      ∃ b, look (step s c) = some b ∧ Final b ∧ (b = a ∨ Next a b))
    (honce : ∀ a b c, Next a b → ¬ Next b c) :
    ∀ (commands : List ι) (s : σ) (a : α), Inv s → Guarded step G s commands → look s = some a →
      Final a → ∃ b, look (run step s commands) = some b ∧ (b = a ∨ Next a b) := by
  intro commands
  induction commands with
  | nil =>
    intro s a _ _ hlook _
    exact ⟨a, hlook, Or.inl rfl⟩
  | cons c commands ih =>
    intro s a hs hguarded hlook hfinal
    rcases hstep s c a hs hguarded.1 hlook hfinal with ⟨b, hb, hbfinal, hnext⟩
    rcases ih (step s c) b (hinv s c hs) hguarded.2 hb hbfinal with ⟨d, hd, hlast⟩
    refine ⟨d, hd, ?_⟩
    rcases hnext with hsame | hnext
    · rw [hsame] at hlast
      exact hlast
    · rcases hlast with hsame | hagain
      · rw [hsame]
        exact Or.inr hnext
      · exact absurd hagain (honce a b d hnext)

/-- Along a run every settlement of a terminal entry is refused unless it
    repeats or rejects it, and a terminal entry is later the same or rejected. -/
def InMemoryModelCallLedger.StaysFinal (operations : List (Operation Call)) : Prop :=
  ∀ before after, operations = before ++ after →
    (∀ entry existing rest, after = .settle entry :: rest →
      InMemoryModelCallLedger.get (run InMemoryModelCallLedger.step [] before) entry.requestId =
        some existing → existing.completedAt ≠ none →
      TerminalKept (run InMemoryModelCallLedger.step [] before) existing entry
        (InMemoryModelCallLedger.settle (run InMemoryModelCallLedger.step [] before) entry)) ∧
    ∀ requestId existing,
      InMemoryModelCallLedger.get (run InMemoryModelCallLedger.step [] before) requestId =
        some existing → existing.completedAt ≠ none →
      ∃ last, InMemoryModelCallLedger.get (run InMemoryModelCallLedger.step [] operations)
          requestId = some last ∧
        (last = existing ∨ Rejects existing.toLedgerFields last.toLedgerFields)

/-- The same of the ledger over a table, whose terminal rows are followed. -/
def SqlModelCallLedger.StaysFinal (database : Database Call) (operations : List (Operation Call)) :
    Prop :=
  ∀ before after, operations = before ++ after →
    (∀ entry row existing rest, after = .settle entry :: rest →
      SqlModelCallLedger.get (run (SqlModelCallLedger.step database) [] before) entry.requestId =
        some row → database.entryOf row = .ok existing → existing.completedAt ≠ none →
      TerminalKept (run (SqlModelCallLedger.step database) [] before) existing entry
        (SqlModelCallLedger.settle database (run (SqlModelCallLedger.step database) [] before)
          entry)) ∧
    ∀ requestId row,
      SqlModelCallLedger.get (run (SqlModelCallLedger.step database) [] before) requestId =
        some row → row.completedAt ≠ none →
      ∃ last, SqlModelCallLedger.get (run (SqlModelCallLedger.step database) [] operations)
          requestId = some last ∧ (last = row ∨ SqlModelCallLedger.RowRejects row last)

variable {operations : List (Operation Call)}

theorem inMemory_stays_final (hhonest : Guarded InMemoryModelCallLedger.step
      InMemoryModelCallLedger.HonestStep [] operations) :
    InMemoryModelCallLedger.StaysFinal operations := by
  rintro before after rfl
  rw [guarded_append] at hhonest
  constructor
  · rintro entry existing rest rfl hget hterminal
    exact (InMemoryModelCallLedger.settle_kept_iff hget hterminal).mpr
      (hhonest.2.1 existing hget)
  · intro requestId existing hget hterminal
    rw [run_append]
    refine run_final InMemoryModelCallLedger.step InMemoryModelCallLedger.HonestStep
      (fun _ => True) (fun ledger => InMemoryModelCallLedger.get ledger requestId)
      (fun entry => entry.completedAt ≠ none)
      (fun a b => Rejects a.toLedgerFields b.toLedgerFields) (fun _ _ _ => trivial) ?_ ?_ after _
      existing trivial hhonest.2 hget hterminal
    · intro ledger operation entry _ hstep hfound hfinal
      rcases InMemoryModelCallLedger.step_terminal hstep hfound hfinal with ⟨next, hnext, hmove⟩
      refine ⟨next, hnext, ?_, hmove⟩
      rcases hmove with hsame | hrejects
      · rw [hsame]
        exact hfinal
      · exact (next.valid.answered (Or.inr (Or.inl hrejects.2.1))).2.2
    · rintro a b c ⟨_, hrejected, _⟩ ⟨hcompleted, _⟩
      rw [hrejected] at hcompleted
      cases hcompleted

theorem sql_stays_final {database : Database Call}
    (hhonest : Guarded (SqlModelCallLedger.step database)
      (SqlModelCallLedger.HonestStep database) [] operations) :
    SqlModelCallLedger.StaysFinal database operations := by
  rintro before after rfl
  rw [guarded_append] at hhonest
  have hwritten : Written database (run (SqlModelCallLedger.step database) [] before) :=
    run_invariant (SqlModelCallLedger.step database) (Written database)
      (fun _ operation h => SqlModelCallLedger.step_written h operation) [] (by simp [Written])
      before
  constructor
  · rintro entry row existing rest rfl hget hread hterminal
    exact SqlModelCallLedger.settle_kept hwritten hget hread hterminal
      (hhonest.2.1 row hget existing hread)
  · intro requestId row hget hterminal
    rw [run_append]
    refine run_final (SqlModelCallLedger.step database) (SqlModelCallLedger.HonestStep database)
      (Written database) (fun table => SqlModelCallLedger.get table requestId)
      (fun row => row.completedAt ≠ none) SqlModelCallLedger.RowRejects
      (fun _ operation h => SqlModelCallLedger.step_written h operation) ?_ ?_ after _ row
      hwritten hhonest.2 hget hterminal
    · intro table operation row hrows hstep hfound hfinal
      exact SqlModelCallLedger.step_terminal hrows hstep hfound hfinal
    · rintro a b c ⟨_, hrejected, _⟩ ⟨hcompleted, _⟩
      rw [hrejected] at hcompleted
      exact absurd hcompleted (by decide)

/-- Terminal entries are final in both ledgers, along every run whose settlements are honest. -/
theorem terminal_entries_final (database : Database Call) (operations : List (Operation Call))
    (hmemory : Guarded InMemoryModelCallLedger.step InMemoryModelCallLedger.HonestStep []
      operations)
    (htable : Guarded (SqlModelCallLedger.step database)
      (SqlModelCallLedger.HonestStep database) [] operations) :
    InMemoryModelCallLedger.StaysFinal operations ∧
      SqlModelCallLedger.StaysFinal database operations :=
  ⟨inMemory_stays_final hmemory, sql_stays_final htable⟩

end Runs

section Honest

variable {existing entry : ModelCallLedgerEntry Call}

theorem HonestSettlement.self (entry : ModelCallLedgerEntry Call) : HonestSettlement entry entry :=
  fun _ _ => ⟨fun _ => rfl, fun _ _ => ⟨rfl, rfl⟩⟩

theorem HonestSettlement.of_open (h : existing.completedAt = none) :
    HonestSettlement existing entry :=
  fun hterminal => absurd h hterminal

theorem InMemoryModelCallLedger.step_settle {ledger : InMemoryModelCallLedger Call}
    (hget : ledger.get entry.requestId = some existing)
    (hcheck : settlementError existing.toLedgerFields entry.toLedgerFields = none) :
    ledger.step (.settle entry) = ledger.put entry := by
  unfold step
  simp only [perform, settle, hget, hcheck]
  rfl

theorem SqlModelCallLedger.mem_of_get {table : SqlModelCallLedger} {row : LedgerRow Int}
    {requestId : StableId} (h : row ∈ table.get requestId) : row ∈ table :=
  mem_of_find?_eq_some h

theorem SqlModelCallLedger.rows_of_reserve {database : Database Call}
    {table : SqlModelCallLedger} {row : LedgerRow Int} {request : ModelRequest}
    {effectiveBudget : EffectiveBudgetResult} {reasoningIncluded : Bool} {now : Int}
    (h : row ∈ table.step database
      (.createRequested request effectiveBudget reasoningIncluded now)) :
    row ∈ table ∨ database.rowOf
      (requestedEntry request effectiveBudget reasoningIncluded now) = .ok row := by
  unfold step at h
  simp only [perform, createRequested] at h
  cases hget : table.get request.requestId with
  | some own =>
    simp only [hget] at h
    cases hread : database.entryOf own with
    | error e =>
      simp only [hread] at h
      exact Or.inl h
    | ok read =>
      simp only [hread, bind, Except.bind] at h
      cases hcheck : identityError read.toLedgerFields request effectiveBudget
          reasoningIncluded with
      | some error =>
        simp only [hcheck] at h
        exact Or.inl h
      | none =>
        simp only [hcheck] at h
        exact Or.inl h
  | none =>
    simp only [hget] at h
    cases hrow : database.rowOf
        (requestedEntry request effectiveBudget reasoningIncluded now) with
    | error e =>
      simp only [hrow] at h
      exact Or.inl h
    | ok next =>
      simp only [hrow] at h
      rcases mem_append.mp h with hold | hnew
      · exact Or.inl hold
      · rw [mem_singleton.mp hnew]
        exact Or.inr rfl

theorem SqlModelCallLedger.rows_of_settle {database : Database Call} {table : SqlModelCallLedger}
    {row : LedgerRow Int} (h : row ∈ table.step database (.settle entry)) :
    row ∈ table ∨ database.rowOf entry = .ok row := by
  unfold step at h
  simp only [perform, settle] at h
  cases hget : table.get entry.requestId with
  | none =>
    simp only [hget] at h
    exact Or.inl h
  | some own =>
    simp only [hget] at h
    cases hread : database.entryOf own with
    | error e =>
      simp only [hread] at h
      exact Or.inl h
    | ok read =>
      simp only [hread, bind, Except.bind] at h
      cases hcheck : settlementError read.toLedgerFields entry.toLedgerFields with
      | some error =>
        simp only [hcheck] at h
        exact Or.inl h
      | none =>
        simp only [hcheck] at h
        cases hrow : database.rowOf entry with
        | error e =>
          simp only [hrow] at h
          exact Or.inl h
        | ok next =>
          simp only [hrow] at h
          have hone : row ∈ table ∨ row = next := mem_of_replaceFirst h
          exact hone.imp_right fun hnew => by rw [hnew]

end Honest

namespace Sample

def openEntry : ModelCallLedgerEntry JsonValue :=
  requestedEntry (request "model.a" (by decide)) budget false 0

def settledEntry (text : String) : ModelCallLedgerEntry JsonValue :=
  { openEntry with
    status := .completed
    rawResponseHash := some (digest text)
    callRecord := some .null
    completedAt := some (.aware 1)
    valid :=
      { openEntry.valid with
        answered := by simp
        rejected := nofun
        exhausted := nofun } }

variable (text : String)

theorem settled_same :
    SameReservation openEntry.toLedgerFields (settledEntry text).toLedgerFields :=
  ⟨rfl, rfl, rfl, rfl, rfl⟩

theorem settled_status : (settledEntry text).status = .completed := rfl

theorem settled_again (first second : String) : settlementError
    (settledEntry first).toLedgerFields (settledEntry second).toLedgerFields = none := by
  rcases settled_same first with ⟨hhash, hrun, htask, hbudget, hreasoning⟩
  rcases settled_same second with ⟨hhash', hrun', htask', hbudget', hreasoning'⟩
  refine settlementError_none.mpr ⟨⟨hhash.symm.trans hhash', hrun.symm.trans hrun',
    htask.symm.trans htask', hbudget.symm.trans hbudget', hreasoning.symm.trans hreasoning'⟩,
    Or.inr (Or.inl ?_)⟩
  rw [settled_status, settled_status]

def completing (text : String) : List (Operation JsonValue) :=
  [reserve "model.a" (by decide), .settle (settledEntry text)]

theorem run_completing :
    run InMemoryModelCallLedger.step [] (completing text) = [settledEntry text] := by
  have hreserved : InMemoryModelCallLedger.step [] (reserve "model.a" (by decide)) =
      [openEntry] := rfl
  have hcheck : settlementError openEntry.toLedgerFields (settledEntry text).toLedgerFields = none :=
    settlementError_none.mpr ⟨settled_same text, Or.inl rfl⟩
  unfold completing
  rw [run_cons, hreserved, run_cons, run_nil, InMemoryModelCallLedger.step_settle rfl hcheck]
  rfl

theorem settledEntry_read {text : String} {row : LedgerRow Int}
    {read : ModelCallLedgerEntry JsonValue} (hrow : database.rowOf (settledEntry text) = .ok row)
    (hread : database.entryOf row = .ok read) : read = settledEntry text := by
  have hfields := entryOf_written hrow hread
  unfold Database.rowOf Database.write at hrow
  split at hrow
  · rw [← Except.ok.inj hrow] at hfields
    cases read
    congr
  · cases hrow

theorem table_honest :
    Guarded (SqlModelCallLedger.step database) (SqlModelCallLedger.HonestStep database) []
      (completing text ++ [.settle (settledEntry text)]) := by
  have hopen : ∀ row, database.rowOf openEntry = .ok row → ∀ read,
      database.entryOf row = .ok read → read.completedAt = none := by
    intro row hrow read hread
    exact (columns_of_read hrow hread).2.2.2.2.mp ((columns_of_write hrow).2.2.2.2.mpr rfl)
  -- What is reserved is open, and so may be settled with any answer.
  have hreserved : ∀ row ∈ SqlModelCallLedger.step database [] (reserve "model.a" (by decide)),
      database.rowOf openEntry = .ok row := by
    intro row hmem
    rcases SqlModelCallLedger.rows_of_reserve hmem with hold | hnew
    · cases hold
    · exact hnew
  refine ⟨trivial, ?_, ?_, trivial⟩
  · intro row hrow read hread
    have hmem := SqlModelCallLedger.mem_of_get hrow
    exact .of_open (hopen row (hreserved row hmem) read hread)
  · intro row hrow read hread
    have hmem := SqlModelCallLedger.mem_of_get hrow
    rcases SqlModelCallLedger.rows_of_settle hmem with hold | hnew
    · exact .of_open (hopen row (hreserved row hold) read hread)
    · rw [settledEntry_read hnew hread]
      exact .self _

end Sample

open Sample

/-- A call is completed, and completed with the same answer again. -/
theorem terminal_entries_final_twice :
    InMemoryModelCallLedger.StaysFinal
      (completing "first" ++ [.settle (settledEntry "first")]) ∧
    SqlModelCallLedger.StaysFinal database
      (completing "first" ++ [.settle (settledEntry "first")]) := by
  refine terminal_entries_final database _ ?_ (table_honest "first")
  rw [guarded_append, run_completing]
  refine ⟨⟨trivial, ?_, trivial⟩, ?_, trivial⟩
  · intro existing hget
    have hopen : some openEntry = some existing := hget
    rw [← Option.some.inj hopen]
    exact .of_open rfl
  · intro existing hget
    have hsettled : some (settledEntry "first") = some existing := hget
    rw [← Option.some.inj hsettled]
    exact .self _

/-- A completed call is settled as completed again, with another answer, and the
    entry says so afterwards. -/
theorem completed_answer_replaced :
    InMemoryModelCallLedger.get (run InMemoryModelCallLedger.step [] (completing "first"))
      ⟨"model.a", by decide⟩ = some (settledEntry "first") ∧
    InMemoryModelCallLedger.get (run InMemoryModelCallLedger.step []
      (completing "first" ++ [.settle (settledEntry "second")]))
      ⟨"model.a", by decide⟩ = some (settledEntry "second") ∧
    ¬ InMemoryModelCallLedger.StaysFinal
      (completing "first" ++ [.settle (settledEntry "second")]) := by
  have hfirst := run_completing "first"
  have hsecond : run InMemoryModelCallLedger.step []
      (completing "first" ++ [.settle (settledEntry "second")]) =
      [settledEntry "second"] := by
    rw [run_append, hfirst, run_cons, run_nil, InMemoryModelCallLedger.step_settle rfl
      (settled_again "first" "second")]
    rfl
  have hdiffer : (settledEntry "second").rawResponseHash ≠
      (settledEntry "first").rawResponseHash := by
    intro hsame
    exact digest_ne (by decide +kernel) (Option.some.inj hsame)
  refine ⟨by rw [hfirst]; rfl, by rw [hsecond]; rfl, fun hfinal => ?_⟩
  have hlater := (hfinal (completing "first") _ rfl).2 ⟨"model.a", by decide⟩
    (settledEntry "first") (by rw [hfirst]; rfl) (Option.some_ne_none _)
  rcases hlater with ⟨last, hlast, hmove⟩
  rw [hsecond] at hlast
  have hsame : settledEntry "second" = last := Option.some.inj hlast
  rw [← hsame] at hmove
  rcases hmove with hequal | hrejects
  · exact hdiffer (by rw [hequal])
  · exact hdiffer hrejects.2.2.1

end NovelAgent.ModelCalls
