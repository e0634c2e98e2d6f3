import NovelAgent.ModelCalls.Resend
import NovelAgent.ModelCalls.Structured

/-!
# Structured Retries

What a call for a structured answer leaves behind when the provider answers every request
that reaches it.
-/

namespace NovelAgent.ModelCalls

open Core Domain Core.Session Core.Outcome List

/-- The entries under an identity, in the order of their identities. -/
def HeldCalls.listForPrefix (ledger : HeldCalls) (requestIdPrefix : String) : List Entry :=
  ((List.insertionSort (fun a b => a.1.root ≤ b.1.root) ledger.entries).filter
    fun item => Under requestIdPrefix item.1.root).map (·.2)

/-- Why an audited call raised. -/
inductive AuditedError where
  | gateway (error : GatewayError)
  | exhausted (entries : List Entry)

variable {α : Type}

/-- The error is one of a validator. The limits of a provider raise a plain value error. -/
def ModelGateway.audits (gateway : ModelGateway) (request : TextRequest) : GatewayError → Bool
  | .validation => true
  | .invalid =>
    match gateway.endpoints.find? (·.role = request.modelRole) with
    | none => false
    | some endpoint => request.budgetSource.isSome || (providerLimits endpoint).isOk
  | _ => false

/-- A call for a structured answer. An error of a validator leaves with the entries under
    the identity of the request. -/
def ModelGateway.generateStructuredAudited (gateway : ModelGateway)
    (circumstances : Nat → Circumstances) (output : OutputType α) (request : TextRequest)
    (state : GatewayState HeldCalls) :
    Except AuditedError (α × ModelCallRecord) × GatewayState HeldCalls :=
  match gateway.generateStructured heldCalls circumstances output false request state with
  | (.ok answer, state') => (.ok answer, state')
  | (.error error, state') =>
    if gateway.audits request error then
      (.error (.exhausted (HeldCalls.listForPrefix state'.ledger request.requestId.root)), state')
    else (.error (.gateway error), state')

/-- The provider answers the call, and nothing around it goes wrong. -/
structure ModelGateway.Answers (gateway : ModelGateway) (circumstances : Circumstances)
    (answer : ProviderModelResult) : Prop where
  admitted : circumstances.admitted = true
  identity : ∃ identity, circumstances.identity = .ok identity
  outcome : circumstances.outcome = .result answer
  retained : gateway.rawArtifacts = true → circumstances.retained ≠ none
  lives : circumstances.stop = none

/-- The texts that the record of a call takes from elsewhere are not empty. -/
structure Recordable (gateway : ModelGateway) (request : TextRequest) : Prop where
  trace : request.traceId ≠ ""
  span : request.spanId ≠ some ""
  endpoints : ∀ endpoint ∈ gateway.endpoints,
    endpoint.endpointName ≠ "" ∧ endpoint.modelName ≠ ""

def OutputType.Rejects (output : OutputType α) (answer : ProviderModelResult) : Prop :=
  ∃ detail, parseStructuredOutput output answer.text = .error detail

def constrainedRequest (output : OutputType α) (request : TextRequest) : TextRequest :=
  { request with responseSchema := some output.schema }

/-- The request of an attempt, from the answers before it. -/
def attemptRequest (output : OutputType α) (request : TextRequest)
    (answers : Nat → ProviderModelResult) : Nat → Option TextRequest
  | 0 => some (constrainedRequest output request)
  | attempt + 1 =>
    match parseStructuredOutput output (answers attempt).text with
    | .ok _ => none
    | .error detail =>
      (boundedModelRequestId request (".schema-retry" ++ toString (attempt + 1))).map
        fun retryId =>
          retryRequest request (constrainedRequest output request) retryId detail

/-- An answer can be settled over the entry. -/
def Entry.Open (entry : Entry) : Prop :=
  entry.status = .completed ∨ entry.completedAt = none

/-- The request passes every check, its answer can be retained, and the ledger settles it. -/
def ModelGateway.Clears (gateway : ModelGateway) (state : GatewayState HeldCalls)
    (request : TextRequest) : Prop :=
  ∃ prepared, gateway.prepared request state.budgetResults = .ok prepared ∧
    (gateway.rawArtifacts = true →
      ∀ tokens ∈ prepared.request.maxOutputTokens, tokens ≤ 131072) ∧
    ∀ entry, state.ledger.lookup request.requestId = some entry →
      gateway.Recognises entry request prepared ∧ entry.status ≠ .uncertain ∧ entry.Open

/-- At most one request for each attempt is sent, each under an identity of its own. The
    first answer of the type is returned, and what was answered before it is rejected in
    the ledger. No attempt fails for the want of a budget. Where every answer is rejected,
    the error lists the entries of these requests. -/
structure ModelGateway.Evidenced (gateway : ModelGateway) (output : OutputType α)
    (answers : Nat → ProviderModelResult) (state : GatewayState HeldCalls)
    (after : Except AuditedError (α × ModelCallRecord) × GatewayState HeldCalls)
    (sent : List TextRequest) : Prop where
  sends : after.2.sends = state.sends ++ sent
  bounded : sent.length ≤ gateway.structuredMaxRetries + 1
  distinct : (sent.map (·.requestId)).Nodup
  returned : ∀ attempt < sent.length, ∀ value,
    (∀ earlier < attempt, output.Rejects (answers earlier)) →
    parseStructuredOutput output (answers attempt).text = .ok value →
    ∃ record, after.1 = .ok (value, record)
  rejected : ∀ (attempt : Nat) (h : attempt < sent.length),
    (∀ earlier ≤ attempt, output.Rejects (answers earlier)) →
    ∃ entry, after.2.ledger.lookup sent[attempt].requestId = some entry ∧
      entry.status = .validationRejected
  budgeted : ∀ message, after.1 ≠ .error (.gateway (.budgetResolution message))
  exhausted : (∀ attempt < sent.length, output.Rejects (answers attempt)) →
    sent.length = gateway.structuredMaxRetries + 1 ∧
    ∃ entries, after.1 = .error (.exhausted entries) ∧
      (entries.map some).Perm (sent.map fun request => after.2.ledger.lookup request.requestId)

section

variable (gateway : ModelGateway) (output : OutputType α) (request : TextRequest)
    (answers : Nat → ProviderModelResult) (state : GatewayState HeldCalls)

/-- The attempt has a request, which clears, and a retry is not made under the very identity
    that it retries. The names of the digest scheme allow that only for an identity that holds
    its own digest. -/
def ModelGateway.ClearedAt (attempt : Nat) : Prop :=
  ∃ constrained, attemptRequest output request answers attempt = some constrained ∧
    gateway.Clears state constrained ∧
    (0 < attempt → constrained.requestId ≠ request.requestId)

/-- Each attempt that the answers lead to is cleared. If they lead to all attempts, the
    entries under the identity of the request are those of the attempts. -/
structure ModelGateway.Cleared : Prop where
  attempts : ∀ attempt ≤ gateway.structuredMaxRetries,
    (∀ earlier < attempt, output.Rejects (answers earlier)) →
    gateway.ClearedAt output request answers state attempt
  listed : (∀ attempt ≤ gateway.structuredMaxRetries, output.Rejects (answers attempt)) →
    ∀ requestId, (Under request.requestId.root requestId.root ∧
        ((∃ entry, state.ledger.lookup requestId = some entry) ∨
          ∃ attempt ≤ gateway.structuredMaxRetries,
            ∃ before ∈ attemptRequest output request answers attempt,
              before.requestId = requestId)) ↔
      ∃ attempt ≤ gateway.structuredMaxRetries,
        ∃ before ∈ attemptRequest output request answers attempt, before.requestId = requestId

end

/-! ### One attempt -/

section

variable {gateway : ModelGateway} {circumstances : Circumstances} {answer : ProviderModelResult}
    {request : TextRequest} {prepared : Prepared} {state : GatewayState HeldCalls} {sent : Entry}
    {output : OutputType α}

/-- An answer is settled over an entry exactly when that is open. -/
theorem settlementError_answered (sent : Entry) (providerRequestId : Option String)
    (text : String) (rawArtifactRef : Option ArtifactRef) (record : ModelCallRecord)
    (transportErrorType : Option String) (completedAt : Int) :
    settlementError sent (sent.answered .completed providerRequestId text rawArtifactRef record
      transportErrorType completedAt) = none ↔ sent.Open := by
  simp only [settlementError, Entry.answered, Entry.Open]
  by_cases hstatus : sent.status = .completed <;> simp [hstatus]

theorem Recordable.record {budgetResults : Table StableId EffectiveBudgetResult}
    (h : Recordable gateway request)
    (hprepared : gateway.prepared request budgetResults = .ok prepared)
    (answer : ProviderModelResult) (latencyMs : Nat) (startedAt : Timestamp) (completedAt : Int) :
    ∃ record, ModelCallRecord.validate (callFields prepared answer.modelVersion answer.usage
      latencyMs startedAt completedAt) = some record := by
  rcases prepared_cases hprepared with ⟨hrequest, hendpoint⟩
  have htexts : prepared.request.traceId = request.traceId ∧
      prepared.request.spanId = request.spanId := by
    rcases hrequest with hsame | hbound
    · rw [hsame]
      exact ⟨rfl, rfl⟩
    · rw [hbound]
      exact ⟨rfl, rfl⟩
  refine ⟨_, dif_pos ⟨?_, ?_, (h.endpoints _ hendpoint).1, (h.endpoints _ hendpoint).2,
    answer.versioned⟩⟩
  · change prepared.request.traceId ≠ ""
    rw [htexts.1]
    exact h.trace
  · change prepared.request.spanId ≠ some ""
    rw [htexts.2]
    exact h.span

/-- What the checks before a request say depends on the budget under its identity only. -/
theorem prepared_congr {budgetResults budgetResults' : Table StableId EffectiveBudgetResult}
    (h : budgetResults'.lookup request.requestId = budgetResults.lookup request.requestId) :
    gateway.prepared request budgetResults' = gateway.prepared request budgetResults := by
  unfold ModelGateway.prepared ModelGateway.boundBudget
  rw [h]

/-- So whether a request clears depends on what is kept under its identity only. -/
theorem clears_congr {state' : GatewayState HeldCalls}
    (hledger : state'.ledger.lookup request.requestId = state.ledger.lookup request.requestId)
    (hbudget : state'.budgetResults.lookup request.requestId =
      state.budgetResults.lookup request.requestId) :
    gateway.Clears state' request ↔ gateway.Clears state request := by
  unfold ModelGateway.Clears
  rw [hledger, prepared_congr hbudget]

/-- A request that is new or recognised is reserved. Its entry is as open as before. -/
theorem reserve_clear (hid : prepared.request.requestId = request.requestId)
    (hfiled : Filed state.ledger) {identity : Option String}
    (hidentity : circumstances.identity = .ok identity)
    (hclear : ∀ entry, state.ledger.lookup request.requestId = some entry →
      gateway.Recognises entry request prepared ∧ entry.status ≠ .uncertain) :
    ∃ sent state', gateway.reserve heldCalls circumstances request prepared state =
        (.ok sent, state') ∧
      sent.requestId = request.requestId ∧
      state'.ledger.lookup request.requestId = some sent ∧
      state'.sends = state.sends ∧ state'.budgetResults = state.budgetResults ∧
      (sent.Open ↔ ∀ entry, state.ledger.lookup request.requestId = some entry → entry.Open) := by
  cases hlookup : state.ledger.lookup request.requestId with
  | none =>
    rw [← hid] at hlookup
    rcases reserve_new gateway circumstances request hlookup hidentity with
      ⟨state', hreserved, hheld, hsends, hbudgets⟩
    refine ⟨_, state', hreserved, hid, hid ▸ hheld, hsends, hbudgets, ?_⟩
    simp [Entry.Open, ModelGateway.marked, Entry.sent, ModelGateway.fresh, requestedEntry]
  | some entry =>
    have hown : entry.requestId = prepared.request.requestId := by
      rw [hid]
      exact hfiled _ _ hlookup
    rcases hclear entry hlookup with ⟨hknown, hcertain⟩
    rw [← hid] at hlookup
    rcases reserve_recognised hown hlookup hknown hcertain hidentity with
      ⟨hash, state', hreserved, hheld, hsends, hbudgets⟩
    refine ⟨_, state', hreserved, hown.trans hid, hid ▸ hheld, hsends, hbudgets, ?_⟩
    simp [Entry.Open, Entry.sent]

/-- An answer that cannot be retained, or settled, is lost. -/
theorem settleResult_lost {record : ModelCallRecord}
    (hrecord : ModelCallRecord.validate (callFields prepared answer.modelVersion answer.usage
      circumstances.latencyMs sent.requestedAt circumstances.completedAt) = some record)
    (hheld : state.ledger.lookup sent.requestId = some sent)
    (hlost : gateway.persistRawResponse circumstances prepared = none ∨ ¬ sent.Open) :
    ∃ error, (gateway.settleResult heldCalls circumstances sent prepared answer state).1 =
      .error error ∧ error ≠ .validation ∧ error ≠ .invalid := by
  unfold ModelGateway.settleResult
  cases hretained : gateway.persistRawResponse circumstances prepared with
  | none =>
    simp only [hrecord]
    rw [Session.bind_apply]
    rcases put_held (sent.unretained (answer.providerRequestId.or sent.providerRequestId)
      circumstances.completedAt) state with ⟨_, _, _, hput⟩ | ⟨error, hput⟩
    · rw [hput]
      exact ⟨_, rfl, by simp, by simp⟩
    · rw [hput]
      exact ⟨_, rfl, by simp, by simp⟩
  | some rawArtifactRef =>
    have hshut := hlost.resolve_left (by rw [hretained]; simp)
    simp only [hrecord]
    rw [Session.bind_apply]
    rcases put_held (sent.answered .completed (answer.providerRequestId.or
      sent.providerRequestId) answer.text rawArtifactRef record sent.transportErrorType
      circumstances.completedAt) state with ⟨existing, hexisting, hguard, _⟩ | ⟨error, hput⟩
    · rw [← Option.some.inj (hheld.symm.trans hexisting)] at hguard
      exact absurd ((settlementError_answered ..).mp hguard) hshut
    · rw [hput]
      exact ⟨_, rfl, by simp, by simp⟩

/-- A result that is answered is retained unless its envelope has too many tokens. -/
theorem ModelGateway.Answers.retains (h : gateway.Answers circumstances answer) :
    gateway.persistRawResponse circumstances prepared ≠ none ↔
      (gateway.rawArtifacts = true →
        ∀ tokens ∈ prepared.request.maxOutputTokens, tokens ≤ 131072) := by
  unfold ModelGateway.persistRawResponse
  cases hraw : gateway.rawArtifacts with
  | false => simp
  | true =>
    rcases Option.ne_none_iff_exists'.mp (h.retained hraw) with ⟨reference, hreference⟩
    rw [hreference]
    by_cases htokens : ∃ tokens ∈ prepared.request.maxOutputTokens, 131072 < tokens <;> simp

section

variable (hfiled : Filed state.ledger) (hanswers : gateway.Answers circumstances answer)
    (hrecordable : Recordable gateway request)

include hfiled hanswers hrecordable

/-- An attempt that clears the ledger. -/
theorem generateText_clears (hclears : gateway.Clears state request) :
    ∃ record passed state', gateway.generateText heldCalls circumstances request state =
        (.ok (answer.text, record), state') ∧
      passed.requestId = request.requestId ∧ state'.sends = state.sends ++ [passed] ∧
      (∃ entry, state'.ledger.lookup request.requestId = some entry ∧
        entry.requestId = request.requestId ∧ entry.status = .completed) ∧
      ∀ other, other ≠ request.requestId →
        state'.budgetResults.lookup other = state.budgetResults.lookup other := by
  rcases hclears with ⟨prepared, hprepared, htokens, hentry⟩
  rcases hanswers.identity with ⟨identity, hidentity⟩
  have hid := prepared_requestId hprepared
  have hadmitted : ¬ (gateway.admissionController = true ∧ circumstances.admitted = false) := by
    rw [hanswers.admitted]
    simp
  have hfiled' : Filed (state.budgeted request prepared.budget).ledger := hfiled
  rcases reserve_clear hid hfiled' hidentity
      (fun entry hlookup => ⟨(hentry entry hlookup).1, (hentry entry hlookup).2.1⟩) with
    ⟨sent, state', hreserved, hown, hheld, hsends, hbudgets, hopen⟩
  have hopened : sent.Open := hopen.mpr fun entry hlookup => (hentry entry hlookup).2.2
  rcases hrecordable.record hprepared answer circumstances.latencyMs sent.requestedAt
    circumstances.completedAt with ⟨record, hrecord⟩
  rcases Option.ne_none_iff_exists'.mp (hanswers.retains.mpr htokens) with
    ⟨rawArtifactRef, hretained⟩
  let settled := sent.answered .completed (answer.providerRequestId.or sent.providerRequestId)
    answer.text rawArtifactRef record sent.transportErrorType circumstances.completedAt
  have hsettled : heldCalls.settle settled state'.ledger =
      .ok (settled, state'.ledger.insert request.requestId settled) := by
    have hheld' : state'.ledger.lookup settled.requestId = some sent := by
      rw [show settled.requestId = request.requestId from hown]
      exact hheld
    simp only [heldCalls, hheld', settlementError_answered sent _ _ _ _ _ _ |>.mpr hopened, settled]
    rw [← hown]
    rfl
  refine ⟨record, prepared.request, { state' with
    ledger := state'.ledger.insert request.requestId settled
    sends := state'.sends ++ [prepared.request]
    settlements := state'.settlements ++ [(settled, none)] }, ?_, hid, ?_,
    ⟨settled, AList.lookup_insert _, hown, rfl⟩, ?_⟩
  · rw [generateText_admitted hprepared hadmitted, Session.bind_apply, hreserved]
    exact converse_completes hanswers.lives hanswers.outcome hrecord hretained hsettled
  · exact congrArg (· ++ [prepared.request]) hsends
  · intro other hother
    change state'.budgetResults.lookup other = _
    rw [hbudgets]
    unfold GatewayState.budgeted
    dsimp only
    split
    · exact AList.lookup_insert_ne hother
    · rfl

/-- One that does not. -/
theorem generateText_blocked (hblocked : ¬ gateway.Clears state request) :
    ∃ error, (gateway.generateText heldCalls circumstances request state).1 = .error error ∧
      ((gateway.generateText heldCalls circumstances request state).2.sends = state.sends ∨
        (∃ passed, (gateway.generateText heldCalls circumstances request state).2.sends =
          state.sends ++ [passed]) ∧ error ≠ .validation ∧ error ≠ .invalid) := by
  cases hprepared : gateway.prepared request state.budgetResults with
  | error error =>
    rw [generateText_unprepared hprepared]
    exact ⟨error, rfl, .inl rfl⟩
  | ok prepared =>
    rcases hanswers.identity with ⟨identity, hidentity⟩
    have hid := prepared_requestId hprepared
    have hadmitted : ¬ (gateway.admissionController = true ∧
        circumstances.admitted = false) := by
      rw [hanswers.admitted]
      simp
    have hfiled' : Filed (state.budgeted request prepared.budget).ledger := hfiled
    rw [generateText_admitted hprepared hadmitted, Session.bind_apply]
    by_cases hclear : ∀ entry, state.ledger.lookup request.requestId = some entry →
        gateway.Recognises entry request prepared ∧ entry.status ≠ .uncertain
    · rcases reserve_clear hid hfiled' hidentity hclear with
        ⟨sent, state', hreserved, hown, hheld, hsends, _, hopen⟩
      rcases hrecordable.record hprepared answer circumstances.latencyMs sent.requestedAt
        circumstances.completedAt with ⟨record, hrecord⟩
      -- What passes these checks and does not clear cannot be retained or settled.
      have hlost : gateway.persistRawResponse circumstances prepared = none ∨ ¬ sent.Open := by
        by_contra hkept
        rw [not_or, not_not] at hkept
        exact hblocked ⟨prepared, hprepared, hanswers.retains.mp hkept.1, fun entry hlookup =>
          ⟨(hclear entry hlookup).1, (hclear entry hlookup).2, hopen.mp hkept.2 entry hlookup⟩⟩
      have hheld' : ({ state' with sends := state'.sends ++ [prepared.request] } :
          GatewayState HeldCalls).ledger.lookup sent.requestId = some sent := by
        rw [hown]
        exact hheld
      have hconverse : gateway.converse heldCalls circumstances sent prepared state' =
          gateway.settleResult heldCalls circumstances sent prepared answer
            { state' with sends := state'.sends ++ [prepared.request] } := by
        unfold ModelGateway.converse Circumstances.halt ModelGateway.conclude
          Circumstances.halt
        rw [hanswers.lives, hanswers.outcome]
        rfl
      have hpassed : (gateway.converse heldCalls circumstances sent prepared state').2.sends =
          state'.sends ++ [prepared.request] :=
        converse_sends (by rw [hanswers.lives]; simp)
      rcases settleResult_lost hrecord hheld' hlost with ⟨error, herror, hnamed⟩
      rw [hreserved]
      dsimp only
      rw [hpassed, hsends]
      exact ⟨error, by rw [hconverse, herror], .inr ⟨⟨_, rfl⟩, hnamed⟩⟩
    · push Not at hclear
      rcases hclear with ⟨entry, hlookup, hunclear⟩
      have hown : entry.requestId = prepared.request.requestId := by
        rw [hid]
        exact hfiled _ _ hlookup
      have hheld : (state.budgeted request prepared.budget).ledger.lookup
          prepared.request.requestId = some entry := by
        rw [hid]
        exact hlookup
      have hkept := reserve_kept gateway circumstances request hown hheld
      unfold Ensures at hkept
      rcases hresult : gateway.reserve heldCalls circumstances request prepared
        (state.budgeted request prepared.budget) with ⟨outcome, state'⟩
      rw [hresult] at hkept
      cases outcome with
      | ok sent => exact absurd (hunclear hkept.2.1) hkept.2.2.1
      | error error => exact ⟨error, rfl, .inl hkept.1.sends⟩

end

/-! ### An attempt at a structured answer -/

theorem settles_reject (requestId : StableId) (detail : String) :
    Keeps (fun state state' => Filed state.ledger → Settles requestId state state')
      (rejectOutput heldCalls requestId detail) := by
  intro state hfiled
  unfold rejectOutput
  cases hlookup : state.ledger.lookup requestId with
  | none =>
    have hload : heldCalls.load requestId state.ledger = .ok (none, state.ledger) := by
      simp only [heldCalls, hlookup]
    rw [bind_onLedger_ok hload]
    exact Settles.refl _ _
  | some entry =>
    rw [bind_onLedger_ok (load_held hlookup)]
    have hown : (entry.rejected detail).requestId = requestId := hfiled requestId entry hlookup
    exact settles_put (entry.rejected detail) hown state

/-- An attempt touches the entry of its own request only. -/
theorem attempt_frame (gateway : ModelGateway) (circumstances : Circumstances)
    (output : OutputType α) (request : TextRequest) (hfiled : Filed state.ledger) :
    Touches request.requestId state
      (gateway.attemptStructured heldCalls circumstances output request state).2 := by
  have hcall := generateText_frame gateway circumstances request hfiled
  unfold ModelGateway.attemptStructured
  rw [Session.bind_apply]
  rcases hresult : gateway.generateText heldCalls circumstances request state with
    ⟨outcome, state'⟩
  rw [hresult] at hcall
  cases outcome with
  | error error => exact hcall
  | ok result =>
    dsimp only
    cases parseStructuredOutput output result.1 with
    | ok value => exact hcall
    | error detail =>
      have hreject := settles_reject request.requestId detail state' (hcall.filed hfiled)
      dsimp only
      rw [Session.bind_apply]
      rcases hrejected : rejectOutput heldCalls request.requestId detail state' with
        ⟨outcome', state''⟩
      rw [hrejected] at hreject
      cases outcome' with
      | error error => exact hcall.trans hreject.touches
      | ok u => exact hcall.trans hreject.touches

section

variable (hfiled : Filed state.ledger) (hanswers : gateway.Answers circumstances answer)
    (hrecordable : Recordable gateway request)

include hfiled hanswers hrecordable

theorem attempt_returns (hclears : gateway.Clears state request) {value : α}
    (hparsed : parseStructuredOutput output answer.text = .ok value) :
    ∃ record passed state', gateway.attemptStructured heldCalls circumstances output request state =
        (.ok (.ok (value, record)), state') ∧
      passed.requestId = request.requestId ∧ state'.sends = state.sends ++ [passed] := by
  rcases generateText_clears hfiled hanswers hrecordable hclears with
    ⟨record, passed, state', hcall, hpassed, hsends, _⟩
  refine ⟨record, passed, state', ?_, hpassed, hsends⟩
  unfold ModelGateway.attemptStructured
  rw [Session.bind_apply, hcall]
  simp only [hparsed]
  rfl

/-- An attempt that clears rejects the answer that is not one of the type. -/
theorem attempt_rejects (hclears : gateway.Clears state request) {detail : String}
    (hparsed : parseStructuredOutput output answer.text = .error detail) :
    ∃ passed state', gateway.attemptStructured heldCalls circumstances output request state =
        (.ok (.error detail), state') ∧
      passed.requestId = request.requestId ∧ state'.sends = state.sends ++ [passed] ∧
      (∃ entry, state'.ledger.lookup request.requestId = some entry ∧
        entry.status = .validationRejected) ∧
      ∀ other, other ≠ request.requestId →
        state'.budgetResults.lookup other = state.budgetResults.lookup other := by
  rcases generateText_clears hfiled hanswers hrecordable hclears with
    ⟨record, passed, state', hcall, hpassed, hsends, ⟨entry, hlookup, hown, hcompleted⟩, hbudgets⟩
  have hguard : settlementError entry (entry.rejected detail) = none := by
    simp [settlementError, Entry.rejected, hcompleted]
  have hheld : state'.ledger.lookup (entry.rejected detail).requestId = some entry := by
    rw [show (entry.rejected detail).requestId = request.requestId from hown]
    exact hlookup
  have hput := put_guarded state' (entry.rejected detail) hheld hguard
  refine ⟨passed, { state' with
    ledger := state'.ledger.insert entry.requestId (entry.rejected detail)
    settlements := state'.settlements ++ [(entry.rejected detail, none)] }, ?_, hpassed, hsends,
    ⟨entry.rejected detail, ?_, rfl⟩, hbudgets⟩
  · unfold ModelGateway.attemptStructured rejectOutput
    rw [Session.bind_apply, hcall]
    simp only [hparsed]
    rw [Session.bind_apply, bind_onLedger_ok (load_held hlookup)]
    dsimp only
    rw [hput]
    rfl
  · rw [hown]
    exact AList.lookup_insert _

/-- An attempt that does not clear raises: it is not sent, or its answer is lost. -/
theorem attempt_blocked (hblocked : ¬ gateway.Clears state request) :
    ∃ error state', gateway.attemptStructured heldCalls circumstances output request state =
        (.error error, state') ∧
      (state'.sends = state.sends ∨
        (∃ passed, state'.sends = state.sends ++ [passed]) ∧
          error ≠ .validation ∧ error ≠ .invalid) := by
  rcases generateText_blocked hfiled hanswers hrecordable hblocked with ⟨error, herror, hsends⟩
  rcases hresult : gateway.generateText heldCalls circumstances request state with
    ⟨outcome, state'⟩
  rw [hresult] at herror hsends
  refine ⟨error, state', ?_, hsends⟩
  unfold ModelGateway.attemptStructured
  rw [Session.bind_apply, hresult]
  dsimp only at herror
  rw [herror]

end

end

/-! ### The attempts -/

variable {gateway : ModelGateway} {circumstances : Nat → Circumstances} {output : OutputType α}
    {request constrained : TextRequest} {answers : Nat → ProviderModelResult}
    {state state' : GatewayState HeldCalls} {attempt : Nat} {sent : List TextRequest}

/-- The request of an attempt has the schema, and the texts and the budget of the request. -/
theorem attemptRequest_texts
    (h : attemptRequest output request answers attempt = some constrained) :
    constrained.responseSchema = some output.schema ∧ constrained.traceId = request.traceId ∧
      constrained.spanId = request.spanId ∧ constrained.budgetSource = request.budgetSource := by
  cases attempt with
  | zero =>
    cases h
    exact ⟨rfl, rfl, rfl, rfl⟩
  | succ attempt =>
    rw [attemptRequest] at h
    split at h
    · exact absurd h (by simp)
    · rcases Option.map_eq_some_iff.mp h with ⟨retryId, _, rfl⟩
      exact ⟨rfl, rfl, rfl, rfl⟩

/-- The number of a retry can be read off the end of its identity, whatever stands before. -/
theorem retryNumber_inj {first second : String} {m n : Nat}
    (h : first ++ (".schema-retry" ++ toString m) = second ++ (".schema-retry" ++ toString n)) :
    m = n := by
  have htail (head : String) (k : Nat) :
      (head ++ (".schema-retry" ++ toString k)).toList.reverse.takeWhile Char.isDigit =
        (Nat.repr k).toList.reverse := by
    have hdigits : ∀ c ∈ (Nat.repr k).toList.reverse, c.isDigit = true := fun c hc =>
      Nat.isDigit_of_mem_toDigits (by decide) (by decide)
        (Nat.toList_repr ▸ mem_reverse.mp hc)
    have hword : (".schema-retry".toList.reverse).takeWhile Char.isDigit = [] := by decide
    rw [Nat.toString_eq_repr, String.toList_append, String.toList_append, reverse_append,
      reverse_append, append_assoc, takeWhile_append_of_pos hdigits]
    simp [Char.isDigit]
  have hsame := congrArg (fun text => text.toList.reverse.takeWhile Char.isDigit) h
  simp only [htail, reverse_inj, Nat.toList_repr] at hsame
  simpa using congrArg (fun digits => Nat.ofDigitChars 10 digits 0) hsame

/-- All candidates for a child's identity end with its suffix, the digest scheme included. -/
theorem boundedModelRequestId_ends {request : TextRequest} {suffix : String} {id : StableId}
    (h : boundedModelRequestId request suffix = some id) : ∃ head, id.root = head ++ suffix := by
  rw [boundedModelRequestId, boundedStableId] at h
  obtain ⟨candidate, hmem, hid⟩ := exists_of_findSome?_eq_some h
  rw [(StableId.ofString?_eq_some _ _).mp hid]
  cases hattempt : request.attemptId with
  | none =>
    simp only [hattempt, append_nil, singleton_append, mem_cons, not_mem_nil,
      or_false] at hmem
    rcases hmem with rfl | rfl | rfl <;> exact ⟨_, rfl⟩
  | some attemptId =>
    simp only [hattempt, cons_append, nil_append, mem_cons, not_mem_nil,
      or_false] at hmem
    rcases hmem with rfl | rfl | rfl | rfl | rfl <;> exact ⟨_, rfl⟩
theorem attemptRequest_succ_ends
    (h : attemptRequest output request answers (attempt + 1) = some constrained) :
    ∃ head, constrained.requestId.root =
      head ++ (".schema-retry" ++ toString (attempt + 1)) := by
  rw [attemptRequest] at h
  split at h
  · exact absurd h (by simp)
  · obtain ⟨retryId, hid, rfl⟩ := Option.map_eq_some_iff.mp h
    exact boundedModelRequestId_ends hid

/-- Retries differ from one another by their numbers, so an identity is new as soon as it is
    not that of the first attempt. -/
theorem attemptRequest_fresh_iff
    (h : attemptRequest output request answers attempt = some constrained) :
    (∀ earlier < attempt, ∀ before ∈ attemptRequest output request answers earlier,
        before.requestId ≠ constrained.requestId) ↔
      (0 < attempt → constrained.requestId ≠ request.requestId) := by
  constructor
  · exact fun hfresh hpos => (hfresh 0 hpos _ rfl).symm
  · intro hown earlier hlt before hbefore hsame
    obtain ⟨last, rfl⟩ := Nat.exists_eq_add_one_of_ne_zero (Nat.ne_of_gt (by omega : 0 < attempt))
    cases earlier with
    | zero =>
      rw [attemptRequest, Option.mem_def, Option.some.injEq] at hbefore
      exact hown (Nat.succ_pos last) (hsame.symm.trans (by rw [← hbefore]; rfl))
    | succ earlier =>
      obtain ⟨head, hhead⟩ := attemptRequest_succ_ends (Option.mem_def.mp hbefore)
      obtain ⟨head', hhead'⟩ := attemptRequest_succ_ends h
      rw [hsame, hhead'] at hhead
      have hnumber := retryNumber_inj hhead
      omega

theorem Recordable.retry (h : Recordable gateway request)
    (hrequest : attemptRequest output request answers attempt = some constrained) :
    Recordable gateway constrained := by
  rcases attemptRequest_texts hrequest with ⟨_, htrace, hspan, _⟩
  exact ⟨htrace ▸ h.trace, hspan ▸ h.span, h.endpoints⟩

/-- How far the attempts have come: those so far were sent and rejected. -/
structure ModelGateway.Progress (gateway : ModelGateway) (output : OutputType α)
    (request : TextRequest) (answers : Nat → ProviderModelResult)
    (state : GatewayState HeldCalls) (attempt : Nat) (sent : List TextRequest)
    (state' : GatewayState HeldCalls) : Prop where
  filed : Filed state'.ledger
  sends : state'.sends = state.sends ++ sent
  ids : (sent.map fun passed => some passed.requestId) = (List.range attempt).map fun earlier =>
    (attemptRequest output request answers earlier).map (·.requestId)
  distinct : (sent.map (·.requestId)).Nodup
  rejects : ∀ earlier < attempt, output.Rejects (answers earlier)
  cleared : ∀ earlier < attempt, gateway.ClearedAt output request answers state earlier
  rejected : ∀ passed ∈ sent, ∃ entry, state'.ledger.lookup passed.requestId = some entry ∧
    entry.status = .validationRejected
  others : ∀ requestId, requestId ∉ sent.map (·.requestId) →
    state'.ledger.lookup requestId = state.ledger.lookup requestId ∧
    state'.budgetResults.lookup requestId = state.budgetResults.lookup requestId

section

variable (h : gateway.Progress output request answers state attempt sent state')

include h

theorem ModelGateway.Progress.length : sent.length = attempt := by
  have hids := congrArg List.length h.ids
  rwa [length_map, length_map, length_range] at hids

/-- The identities that were sent are those of the attempts. -/
theorem ModelGateway.Progress.mem_iff (requestId : StableId) :
    requestId ∈ sent.map (·.requestId) ↔ ∃ earlier < attempt,
      ∃ before ∈ attemptRequest output request answers earlier,
        before.requestId = requestId := by
  have hmem : some requestId ∈ (sent.map fun passed => some passed.requestId) ↔
      some requestId ∈ (List.range attempt).map fun earlier =>
        (attemptRequest output request answers earlier).map (·.requestId) := by
    rw [h.ids]
  simpa using hmem

/-- The attempt is cleared exactly when its identity is new and its request clears now. -/
theorem ModelGateway.Progress.clearedAt_iff
    (hrequest : attemptRequest output request answers attempt = some constrained) :
    gateway.ClearedAt output request answers state attempt ↔
      constrained.requestId ∉ sent.map (·.requestId) ∧ gateway.Clears state' constrained := by
  have hnew : constrained.requestId ∉ sent.map (·.requestId) ↔
      (0 < attempt → constrained.requestId ≠ request.requestId) := by
    rw [h.mem_iff, ← attemptRequest_fresh_iff hrequest]
    push Not
    rfl
  constructor
  · rintro ⟨found, hfound, hclears, hfresh⟩
    rw [Option.some.inj (hfound.symm.trans hrequest)] at hclears hfresh
    have hunsent := hnew.mpr hfresh
    exact ⟨hunsent, (clears_congr (h.others _ hunsent).1 (h.others _ hunsent).2).mpr hclears⟩
  · rintro ⟨hunsent, hclears⟩
    exact ⟨constrained, hrequest,
      (clears_congr (h.others _ hunsent).1 (h.others _ hunsent).2).mp hclears, hnew.mp hunsent⟩

end

/-- How the attempts can go: an answer is returned, all attempts are used up, or an attempt
    that is not cleared fails. An identity that was sent twice stays sent twice. -/
inductive ModelGateway.Course (gateway : ModelGateway) (output : OutputType α)
    (request : TextRequest) (answers : Nat → ProviderModelResult) (state : GatewayState HeldCalls)
    (after : Except GatewayError (α × ModelCallRecord) × GatewayState HeldCalls) : Prop
  | returned (attempt : Nat) (sent : List TextRequest) (passed : TextRequest)
      (state' : GatewayState HeldCalls) (value : α) (record : ModelCallRecord)
      (hle : attempt ≤ gateway.structuredMaxRetries)
      (hprogress : gateway.Progress output request answers state attempt sent state')
      (hcleared : gateway.ClearedAt output request answers state attempt)
      (hparsed : parseStructuredOutput output (answers attempt).text = .ok value)
      (houtcome : after.1 = .ok (value, record)) (hsends : after.2.sends = state'.sends ++ [passed])
      (hfresh : passed.requestId ∉ sent.map (·.requestId))
      (hkept : ∀ requestId, requestId ≠ passed.requestId →
        after.2.ledger.lookup requestId = state'.ledger.lookup requestId)
  | exhausted (sent : List TextRequest) (houtcome : after.1 = .error .validation)
      (hprogress : gateway.Progress output request answers state
        (gateway.structuredMaxRetries + 1) sent after.2)
  | blocked (attempt : Nat) (sent : List TextRequest) (hle : attempt ≤ gateway.structuredMaxRetries)
      (hrejects : ∀ earlier < attempt, output.Rejects (answers earlier))
      (hblocked : ¬ gateway.ClearedAt output request answers state attempt)
      (hsends : after.2.sends = state.sends ++ sent)
      (hfailed : ¬ (sent.map (·.requestId)).Nodup ∨ ∃ error, after.1 = .error error ∧
        (sent.length = attempt ∨
          sent.length = attempt + 1 ∧ error ≠ .validation ∧ error ≠ .invalid))

section

variable {retries : Nat} {answer : α × ModelCallRecord} {error : GatewayError} {detail : String}

theorem attempts_returned
    (h : gateway.attemptStructured heldCalls (circumstances attempt) output constrained state =
      (.ok (.ok answer), state')) :
    gateway.structuredAttempts heldCalls circumstances output request attempt retries constrained
      state = (.ok answer, state') := by
  cases retries with
  | zero =>
    rw [ModelGateway.structuredAttempts, Session.bind_apply, h]
    rfl
  | succ retries =>
    rw [ModelGateway.structuredAttempts, Session.bind_apply, h]
    rfl

theorem attempts_raised
    (h : gateway.attemptStructured heldCalls (circumstances attempt) output constrained state =
      (.error error, state')) :
    gateway.structuredAttempts heldCalls circumstances output request attempt retries constrained
      state = (.error error, state') := by
  cases retries with
  | zero => rw [ModelGateway.structuredAttempts, Session.bind_apply, h]
  | succ retries => rw [ModelGateway.structuredAttempts, Session.bind_apply, h]

theorem attempts_used_up
    (h : gateway.attemptStructured heldCalls (circumstances attempt) output constrained state =
      (.ok (.error detail), state')) :
    gateway.structuredAttempts heldCalls circumstances output request attempt 0 constrained
      state = (.error .validation, state') := by
  rw [ModelGateway.structuredAttempts, Session.bind_apply, h]
  rfl

/-- A rejected answer leads to the request of the next attempt, if that has an identity. -/
theorem attempts_retried
    (h : gateway.attemptStructured heldCalls (circumstances attempt) output constrained state =
      (.ok (.error detail), state'))
    (hparsed : parseStructuredOutput output (answers attempt).text = .error detail)
    (hschema : constrained.responseSchema = some output.schema) :
    gateway.structuredAttempts heldCalls circumstances output request attempt (retries + 1)
        constrained state =
      match attemptRequest output request answers (attempt + 1) with
      | none => (.error (.routing ("structured retry request identity has no bounded " ++
          "request, attempt, or task scope")), state')
      | some next => gateway.structuredAttempts heldCalls circumstances output request
          (attempt + 1) retries next state' := by
  rw [ModelGateway.structuredAttempts, Session.bind_apply, h]
  simp only [attemptRequest, hparsed]
  cases boundedModelRequestId request (".schema-retry" ++ toString (attempt + 1)) with
  | none => rfl
  | some retryId =>
    simp only [Option.map_some, retryRequest, constrainedRequest, hschema]

end

/-- Whatever follows an attempt, what it has sent stays sent. -/
theorem attempts_extend (gateway : ModelGateway) (circumstances : Nat → Circumstances)
    (output : OutputType α) (request : TextRequest) :
    ∀ (retries attempt : Nat) (constrained : TextRequest) (state : GatewayState HeldCalls),
      Filed state.ledger →
      (gateway.attemptStructured heldCalls (circumstances attempt) output constrained state).2.sends
        <+: (gateway.structuredAttempts heldCalls circumstances output request attempt retries
          constrained state).2.sends := by
  intro retries
  induction retries with
  | zero =>
    intro attempt constrained state hfiled
    rw [ModelGateway.structuredAttempts, Session.bind_apply]
    rcases gateway.attemptStructured heldCalls (circumstances attempt) output constrained state
      with ⟨_ | _ | _, state'⟩ <;> exact prefix_rfl
  | succ retries ih =>
    intro attempt constrained state hfiled
    have hfiled' :=
      (attempt_frame gateway (circumstances attempt) output constrained hfiled).filed hfiled
    rw [ModelGateway.structuredAttempts, Session.bind_apply]
    rcases hresult : gateway.attemptStructured heldCalls (circumstances attempt) output
      constrained state with ⟨_ | _ | _, state'⟩
    · exact prefix_rfl
    · rw [hresult] at hfiled'
      dsimp only
      cases boundedModelRequestId request (".schema-retry" ++ toString (attempt + 1)) with
      | none => exact prefix_rfl
      | some retryId =>
        rcases (attempt_frame gateway (circumstances (attempt + 1)) output
          (retryRequest request constrained retryId _) hfiled').sent with ⟨new, hnew, _⟩
        exact List.IsPrefix.trans ⟨new, hnew.symm⟩ (ih (attempt + 1) _ state' hfiled')
    · exact prefix_rfl

section

variable (hanswers : ∀ attempt, gateway.Answers (circumstances attempt) (answers attempt))
    (hrecordable : Recordable gateway request)

include hanswers hrecordable

/-- A rejected answer of an attempt that is cleared is one more. -/
theorem ModelGateway.Progress.next
    (h : gateway.Progress output request answers state attempt sent state')
    (hrequest : attemptRequest output request answers attempt = some constrained)
    (hcleared : gateway.ClearedAt output request answers state attempt) {detail : String}
    (hparsed : parseStructuredOutput output (answers attempt).text = .error detail) :
    ∃ passed state'', gateway.attemptStructured heldCalls (circumstances attempt) output
        constrained state' = (.ok (.error detail), state'') ∧
      gateway.Progress output request answers state (attempt + 1) (sent ++ [passed]) state'' := by
  rcases (h.clearedAt_iff hrequest).mp hcleared with ⟨hunsent, hclears⟩
  have hrecordable' := hrecordable.retry hrequest
  have hframe := attempt_frame gateway (circumstances attempt) output constrained h.filed
  rcases attempt_rejects h.filed (hanswers attempt) hrecordable' hclears hparsed with
    ⟨passed, state'', hattempt, hpassed, hsends, hentry, hbudgets⟩
  rw [hattempt] at hframe
  have hids : (sent ++ [passed]).map (·.requestId) =
      sent.map (·.requestId) ++ [constrained.requestId] := by
    rw [map_append, map_singleton, hpassed]
  refine ⟨passed, state'', hattempt, hframe.filed h.filed, ?_, ?_, ?_, ?_, ?_, ?_, ?_⟩
  · rw [hsends, h.sends, append_assoc]
  · rw [map_append, h.ids, range_succ, map_append, map_singleton,
      map_singleton, hrequest, hpassed]
    rfl
  · rw [hids, nodup_append]
    refine ⟨h.distinct, nodup_singleton _, fun requestId hmem other hother hsame => ?_⟩
    rw [mem_singleton] at hother
    exact hunsent (hother ▸ hsame ▸ hmem)
  · intro earlier hearlier
    rcases Nat.lt_succ_iff_lt_or_eq.mp hearlier with hbefore | rfl
    · exact h.rejects earlier hbefore
    · exact ⟨detail, hparsed⟩
  · intro earlier hearlier
    rcases Nat.lt_succ_iff_lt_or_eq.mp hearlier with hbefore | rfl
    · exact h.cleared earlier hbefore
    · exact hcleared
  · intro found hfound
    rcases mem_append.mp hfound with hbefore | hlast
    · rcases h.rejected found hbefore with ⟨entry, hlookup, hstatus⟩
      have hother : found.requestId ≠ constrained.requestId := fun hsame =>
        hunsent (hsame ▸ mem_map_of_mem hbefore)
      exact ⟨entry, (hframe.others _ hother).trans hlookup, hstatus⟩
    · rw [mem_singleton.mp hlast, hpassed]
      exact hentry
  · intro requestId hnew
    rw [hids, mem_append, not_or, mem_singleton] at hnew
    have hbefore := h.others requestId hnew.1
    exact ⟨(hframe.others _ hnew.2).trans hbefore.1, (hbudgets _ hnew.2).trans hbefore.2⟩

/-- An attempt that is not cleared, or whose answer is of the type, is the last. -/
theorem attempt_course (hle : attempt ≤ gateway.structuredMaxRetries)
    (hrequest : attemptRequest output request answers attempt = some constrained)
    (h : gateway.Progress output request answers state attempt sent state')
    (hlast : ¬ (gateway.ClearedAt output request answers state attempt ∧
      output.Rejects (answers attempt))) (retries : Nat) :
    gateway.Course output request answers state (gateway.structuredAttempts heldCalls
      circumstances output request attempt retries constrained state') := by
  have hrecordable' := hrecordable.retry hrequest
  have hframe := attempt_frame gateway (circumstances attempt) output constrained h.filed
  by_cases hcleared : gateway.ClearedAt output request answers state attempt
  · rcases (h.clearedAt_iff hrequest).mp hcleared with ⟨hunsent, hclears⟩
    cases hparsed : parseStructuredOutput output (answers attempt).text with
    | error detail => exact absurd ⟨hcleared, detail, hparsed⟩ hlast
    | ok value =>
      rcases attempt_returns h.filed (hanswers attempt) hrecordable' hclears hparsed with
        ⟨record, passed, state'', hattempt, hpassed, hsends⟩
      rw [hattempt] at hframe
      rw [attempts_returned hattempt]
      refine .returned attempt sent passed state' value record hle h hcleared hparsed rfl hsends
        (hpassed ▸ hunsent) fun requestId hother => hframe.others requestId (hpassed ▸ hother)
  · by_cases hclears : gateway.Clears state' constrained
    · -- What clears now and is not cleared was sent before, and is sent again.
      have hrepeated : constrained.requestId ∈ sent.map (·.requestId) := by
        by_contra hunsent
        exact hcleared ((h.clearedAt_iff hrequest).mpr ⟨hunsent, hclears⟩)
      have hagain : ∃ passed : TextRequest, passed.requestId = constrained.requestId ∧
          (gateway.attemptStructured heldCalls (circumstances attempt) output constrained
            state').2.sends = state'.sends ++ [passed] := by
        cases hparsed : parseStructuredOutput output (answers attempt).text with
        | error detail =>
          rcases attempt_rejects h.filed (hanswers attempt) hrecordable' hclears hparsed with
            ⟨passed, state'', hattempt, hpassed, hsends, _⟩
          exact ⟨passed, hpassed, by rw [hattempt, hsends]⟩
        | ok value =>
          rcases attempt_returns h.filed (hanswers attempt) hrecordable' hclears hparsed with
            ⟨record, passed, state'', hattempt, hpassed, hsends⟩
          exact ⟨passed, hpassed, by rw [hattempt, hsends]⟩
      rcases hagain with ⟨passed, hpassed, hsends⟩
      rcases attempts_extend gateway circumstances output request retries attempt constrained state'
        h.filed with ⟨rest, hrest⟩
      refine .blocked attempt (sent ++ [passed] ++ rest) hle h.rejects hcleared ?_ (.inl ?_)
      · rw [← hrest, hsends, h.sends, append_assoc, append_assoc, append_assoc]
      · intro hnodup
        rw [map_append, map_append, map_singleton, hpassed] at hnodup
        exact (nodup_append.mp (nodup_append.mp hnodup).1).2.2 _ hrepeated _
          (mem_singleton_self _) rfl
    · rcases attempt_blocked h.filed (hanswers attempt) hrecordable' hclears with
        ⟨error, state'', hattempt, hsends⟩
      rw [attempts_raised hattempt]
      rcases hsends with hunsent | ⟨⟨passed, hsends⟩, hnamed⟩
      · refine .blocked attempt sent hle h.rejects hcleared ?_ (.inr ⟨error, rfl, .inl h.length⟩)
        rw [hunsent, h.sends]
      · refine .blocked attempt (sent ++ [passed]) hle h.rejects hcleared ?_
          (.inr ⟨error, rfl, .inr ⟨?_, hnamed⟩⟩)
        · rw [hsends, h.sends, append_assoc]
        · rw [length_append, h.length, length_singleton]

/-- How the attempts can go. -/
theorem structuredAttempts_course :
    ∀ (retries attempt : Nat) (sent : List TextRequest) (constrained : TextRequest)
      (state' : GatewayState HeldCalls), attempt + retries = gateway.structuredMaxRetries →
      attemptRequest output request answers attempt = some constrained →
      gateway.Progress output request answers state attempt sent state' →
      gateway.Course output request answers state (gateway.structuredAttempts heldCalls
        circumstances output request attempt retries constrained state') := by
  intro retries
  induction retries with
  | zero =>
    intro attempt sent constrained state' hle hrequest h
    by_cases hnext : gateway.ClearedAt output request answers state attempt ∧
        output.Rejects (answers attempt)
    · rcases hnext with ⟨hcleared, detail, hparsed⟩
      rcases h.next hanswers hrecordable hrequest hcleared hparsed with
        ⟨passed, state'', hattempt, hprogress⟩
      rw [attempts_used_up hattempt]
      rw [Nat.add_zero] at hle
      exact .exhausted _ rfl (hle ▸ hprogress)
    · exact attempt_course hanswers hrecordable (by omega) hrequest h hnext 0
  | succ retries ih =>
    intro attempt sent constrained state' hle hrequest h
    by_cases hnext : gateway.ClearedAt output request answers state attempt ∧
        output.Rejects (answers attempt)
    · rcases hnext with ⟨hcleared, detail, hparsed⟩
      rcases h.next hanswers hrecordable hrequest hcleared hparsed with
        ⟨passed, state'', hattempt, hprogress⟩
      rw [attempts_retried hattempt hparsed (attemptRequest_texts hrequest).1]
      cases hfound : attemptRequest output request answers (attempt + 1) with
      | none =>
        refine .blocked (attempt + 1) _ (by omega) hprogress.rejects ?_ hprogress.sends
          (.inr ⟨_, rfl, .inl hprogress.length⟩)
        rintro ⟨next, hsome, _⟩
        exact absurd (hfound.symm.trans hsome) (by simp)
      | some next => exact ih (attempt + 1) _ next state'' (by omega) hfound hprogress
    · exact attempt_course hanswers hrecordable (by omega) hrequest h hnext (retries + 1)

end

/-! ### The entries of the attempts -/

/-- The listed entries are those of some identities exactly when these are the identities
    under the prefix that the ledger holds. -/
theorem listForPrefix_perm_iff {ledger : HeldCalls} (hfiled : Filed ledger)
    {requestIds : List StableId} (hdistinct : requestIds.Nodup)
    (hheld : ∀ requestId ∈ requestIds, ∃ entry, ledger.lookup requestId = some entry)
    (requestIdPrefix : String) :
    ((HeldCalls.listForPrefix ledger requestIdPrefix).map some).Perm
        (requestIds.map ledger.lookup) ↔
      ∀ requestId, (Under requestIdPrefix requestId.root ∧
        ∃ entry, ledger.lookup requestId = some entry) ↔ requestId ∈ requestIds := by
  let sorted := List.insertionSort (fun a b => a.1.root ≤ b.1.root) ledger.entries
  let listed := sorted.filter fun item => Under requestIdPrefix item.1.root
  have hsorted : sorted.Perm ledger.entries := perm_insertionSort _ _
  have hkeys : (listed.map Sigma.fst).Nodup :=
    Nodup.sublist (filter_sublist.map Sigma.fst)
      ((hsorted.map Sigma.fst).nodup_iff.mpr ledger.nodupKeys)
  have hlookup : ∀ item ∈ listed, ledger.lookup item.1 = some item.2 := fun item hitem =>
    AList.mem_lookup_iff.mpr (hsorted.mem_iff.mp (mem_of_mem_filter hitem))
  have hmem : ∀ requestId, requestId ∈ listed.map Sigma.fst ↔
      Under requestIdPrefix requestId.root ∧ ∃ entry, ledger.lookup requestId = some entry := by
    intro requestId
    constructor
    · intro hkey
      rcases mem_map.mp hkey with ⟨item, hitem, rfl⟩
      exact ⟨(mem_filter.mp hitem).2, item.2, hlookup item hitem⟩
    · rintro ⟨hunder, entry, hentry⟩
      refine mem_map.mpr ⟨⟨requestId, entry⟩, mem_filter.mpr ⟨?_, hunder⟩, rfl⟩
      exact hsorted.mem_iff.mpr (AList.mem_lookup_iff.mp hentry)
  have hvalues : (HeldCalls.listForPrefix ledger requestIdPrefix).map some =
      (listed.map Sigma.fst).map ledger.lookup := by
    unfold HeldCalls.listForPrefix
    rw [map_map, map_map]
    exact map_congr_left fun item hitem => (hlookup item hitem).symm
  have howned : ∀ requestIds' : List StableId,
      (∀ requestId ∈ requestIds', ∃ entry, ledger.lookup requestId = some entry) →
      (requestIds'.map ledger.lookup).map (Option.map LedgerFields.requestId) =
        requestIds'.map some := by
    intro requestIds' hheld'
    rw [map_map]
    refine map_congr_left fun requestId hmem => ?_
    rcases hheld' requestId hmem with ⟨entry, hentry⟩
    rw [Function.comp_apply, hentry, Option.map_some, hfiled requestId entry hentry]
  rw [hvalues]
  constructor
  · intro hperm requestId
    have hsame := hperm.map (Option.map LedgerFields.requestId)
    rw [howned _ hheld, howned _ fun requestId hkey => ((hmem requestId).mp hkey).2] at hsame
    rw [← hmem]
    simpa using hsame.mem_iff (a := some requestId)
  · intro hsame
    exact ((perm_ext_iff_of_nodup hkeys hdistinct).mpr fun requestId =>
      (hmem requestId).trans (hsame requestId)).map _

/-! ### Evidence -/

/-- What an audited call makes of the outcome of its attempts. -/
theorem generateStructuredAudited_eq (gateway : ModelGateway) (circumstances : Nat → Circumstances)
    (output : OutputType α) (request : TextRequest) (state : GatewayState HeldCalls) :
    let after := gateway.structuredAttempts heldCalls circumstances output request 0
      gateway.structuredMaxRetries (constrainedRequest output request) state
    gateway.generateStructuredAudited circumstances output request state =
      (match after.1 with
        | .ok answer => .ok answer
        | .error error =>
          if gateway.audits request error then
            .error (.exhausted (HeldCalls.listForPrefix after.2.ledger request.requestId.root))
          else .error (.gateway error), after.2) := by
  intro after
  have hgenerate : gateway.generateStructured heldCalls circumstances output false request state =
      after := rfl
  unfold ModelGateway.generateStructuredAudited
  rw [hgenerate]
  rcases after with ⟨_ | _, _⟩
  · dsimp only
    split <;> rfl
  · rfl

/-- Attempts that are used up are evidenced exactly when their entries are listed. -/
theorem ModelGateway.Progress.evidenced_iff {final : GatewayState HeldCalls}
    (h : gateway.Progress output request answers state (gateway.structuredMaxRetries + 1) sent
      final) :
    (∃ sent', gateway.Evidenced output answers state
      (.error (.exhausted (HeldCalls.listForPrefix final.ledger request.requestId.root)), final)
      sent') ↔ gateway.Cleared output request answers state := by
  have hids : ∀ requestId, requestId ∈ sent.map (·.requestId) ↔
      ∃ attempt ≤ gateway.structuredMaxRetries,
        ∃ before ∈ attemptRequest output request answers attempt,
          before.requestId = requestId := by
    intro requestId
    rw [h.mem_iff]
    simp only [Nat.lt_succ_iff]
  have hheld : ∀ requestId ∈ sent.map (·.requestId),
      ∃ entry, final.ledger.lookup requestId = some entry := by
    intro requestId hmem
    rcases mem_map.mp hmem with ⟨passed, hpassed, rfl⟩
    rcases h.rejected passed hpassed with ⟨entry, hlookup, _⟩
    exact ⟨entry, hlookup⟩
  -- The ledger holds what it held at first, and the attempts.
  have hkeys : ∀ requestId, (∃ entry, final.ledger.lookup requestId = some entry) ↔
      (∃ entry, state.ledger.lookup requestId = some entry) ∨
        requestId ∈ sent.map (·.requestId) := by
    intro requestId
    by_cases hmem : requestId ∈ sent.map (·.requestId)
    · exact ⟨fun _ => .inr hmem, fun _ => hheld requestId hmem⟩
    · rw [(h.others requestId hmem).1]
      exact ⟨.inl, fun hor => hor.resolve_right hmem⟩
  have hlisted := listForPrefix_perm_iff h.filed h.distinct hheld request.requestId.root
  simp only [hkeys, hids] at hlisted
  rw [map_map] at hlisted
  constructor
  · rintro ⟨sent', hevidenced⟩
    have hsame : sent' = sent :=
      append_cancel_left (hevidenced.sends.symm.trans h.sends)
    subst hsame
    refine ⟨fun attempt hle _ => h.cleared attempt (by omega), fun _ => ?_⟩
    rcases hevidenced.exhausted fun attempt hlt => h.rejects attempt (h.length ▸ hlt) with
      ⟨_, entries, hentries, hperm⟩
    cases hentries
    exact hlisted.mp hperm
  · intro hcleared
    refine ⟨sent, h.sends, h.length.le, h.distinct, ?_, ?_, by simp, fun _ => ⟨h.length, _, rfl, ?_⟩⟩
    · intro attempt hlt value _ hparsed
      rcases h.rejects attempt (h.length ▸ hlt) with ⟨detail, hrejected⟩
      exact absurd (hparsed.symm.trans hrejected) (by simp)
    · exact fun attempt hlt _ => h.rejected _ (getElem_mem hlt)
    · exact hlisted.mpr (hcleared.listed fun attempt hle => h.rejects attempt (by omega))

/-- A call is evidenced exactly when its attempts are cleared. -/
theorem evidenced_iff_cleared (hanswers : ∀ attempt, gateway.Answers (circumstances attempt)
      (answers attempt)) (hrecordable : Recordable gateway request) (hfiled : Filed state.ledger) :
    (∃ sent, gateway.Evidenced output answers state
        (gateway.generateStructuredAudited circumstances output request state) sent) ↔
      gateway.Cleared output request answers state := by
  have hstart : gateway.Progress output request answers state 0 [] state :=
    ⟨hfiled, (append_nil _).symm, rfl, nodup_nil, by simp, by simp, by simp,
      fun _ _ => ⟨rfl, rfl⟩⟩
  have hcourse : gateway.Course output request answers state _ :=
    structuredAttempts_course hanswers hrecordable gateway.structuredMaxRetries 0 []
      (constrainedRequest output request) state (Nat.zero_add _) rfl hstart
  have hafter := generateStructuredAudited_eq gateway circumstances output request state
  dsimp only at hafter
  rw [hafter]
  rcases hcourse with
    ⟨attempt, sent, passed, state', value, record, hle, hprogress, hcleared, hparsed, houtcome,
      hsends, hfresh, hkept⟩ | ⟨sent, houtcome, hprogress⟩ |
    ⟨attempt, sent, hle, hrejects, hblocked, hsends, hfailed⟩
  · have hreturned : ¬ output.Rejects (answers attempt) := by
      rintro ⟨detail, hrejected⟩
      exact absurd (hparsed.symm.trans hrejected) (by simp)
    rw [houtcome]
    dsimp only
    constructor
    · rintro -
      refine ⟨fun earlier _ hrejects => ?_, fun hall => absurd (hall attempt hle) hreturned⟩
      rcases Nat.lt_trichotomy earlier attempt with hbefore | rfl | hlater
      · exact hprogress.cleared earlier hbefore
      · exact hcleared
      · exact absurd (hrejects attempt hlater) hreturned
    · rintro -
      have hlength : (sent ++ [passed]).length = attempt + 1 := by
        rw [length_append, hprogress.length, length_singleton]
      refine ⟨sent ++ [passed], ?_, by omega, ?_, ?_, ?_, by simp, fun hall => ?_⟩
      · rw [hsends, hprogress.sends, append_assoc]
      · rw [map_append, map_singleton, nodup_append]
        exact ⟨hprogress.distinct, nodup_singleton _, fun requestId hmem other hother hsame =>
          hfresh (mem_singleton.mp hother ▸ hsame ▸ hmem)⟩
      · intro earlier hlt found _ hfound
        rcases Nat.lt_succ_iff_lt_or_eq.mp (hlength ▸ hlt) with hbefore | rfl
        · rcases hprogress.rejects earlier hbefore with ⟨detail, hrejected⟩
          exact absurd (hfound.symm.trans hrejected) (by simp)
        · rw [Except.ok.inj (hfound.symm.trans hparsed)]
          exact ⟨record, rfl⟩
      · intro earlier hlt hrejects
        rcases Nat.lt_succ_iff_lt_or_eq.mp (hlength ▸ hlt) with hbefore | rfl
        · have hmem : earlier < sent.length := hprogress.length ▸ hbefore
          rw [getElem_append_left hmem]
          rcases hprogress.rejected _ (getElem_mem hmem) with ⟨entry, hlookup, hstatus⟩
          refine ⟨entry, (hkept _ fun hsame => hfresh ?_).trans hlookup, hstatus⟩
          exact hsame ▸ mem_map_of_mem (getElem_mem hmem)
        · exact absurd (hrejects _ le_rfl) hreturned
      · exact absurd (hall attempt (by omega)) hreturned
  · rw [houtcome]
    exact hprogress.evidenced_iff
  · constructor
    · rintro ⟨sent', hevidenced⟩
      have hsame : sent' = sent := append_cancel_left (hevidenced.sends.symm.trans hsends)
      subst hsame
      rcases hfailed with hrepeated | ⟨error, herror, hfew⟩
      · exact absurd hevidenced.distinct hrepeated
      · rw [herror] at hevidenced
        -- Answers that are all rejected end in the listing, after all attempts.
        have hnone : ¬ ∀ earlier < sent'.length, output.Rejects (answers earlier) := by
          intro hall
          rcases hevidenced.exhausted hall with ⟨hlength, entries, hentries, _⟩
          rcases hfew with hunsent | ⟨_, hvalidation, hinvalid⟩
          · omega
          · have hplain : gateway.audits request error = false := by
              cases error <;> simp_all [ModelGateway.audits]
            simp [hplain] at hentries
        rcases hfew with hunsent | ⟨hlength, _⟩
        · exact absurd (fun earlier hlt => hrejects earlier (hunsent ▸ hlt)) hnone
        · cases hparsed : parseStructuredOutput output (answers attempt).text with
          | error detail =>
            refine absurd (fun earlier hlt => ?_) hnone
            rcases Nat.lt_succ_iff_lt_or_eq.mp (hlength ▸ hlt) with hbefore | rfl
            · exact hrejects earlier hbefore
            · exact ⟨detail, hparsed⟩
          | ok value =>
            rcases hevidenced.returned attempt (by omega) value hrejects hparsed with
              ⟨record, hreturned⟩
            dsimp only at hreturned
            split at hreturned <;> simp at hreturned
    · exact fun hcleared => absurd (hcleared.attempts attempt hle hrejects) hblocked

def ModelGateway.SendsFirst (gateway : ModelGateway) (circumstances : Nat → Circumstances)
    (output : OutputType α) (request : TextRequest) (state : GatewayState HeldCalls) : Prop :=
  (gateway.generateText heldCalls (circumstances 0) (constrainedRequest output request)
    state).2.sends ≠ state.sends

/-- Whatever the request, the retry limit, the answers and the calls before are, the retries
    of a call whose first attempt is sent are evidenced exactly when they are cleared. -/
theorem structured_retries_iff (gateway : ModelGateway) (circumstances : Nat → Circumstances)
    (output : OutputType α) (request : TextRequest) (answers : Nat → ProviderModelResult)
    (state : GatewayState HeldCalls)
    (hanswers : ∀ attempt, gateway.Answers (circumstances attempt) (answers attempt))
    (hrecordable : Recordable gateway request) (hfiled : Filed state.ledger) :
    (gateway.SendsFirst circumstances output request state →
        ∃ sent, gateway.Evidenced output answers state
          (gateway.generateStructuredAudited circumstances output request state) sent) ↔
      (gateway.SendsFirst circumstances output request state →
        gateway.Cleared output request answers state) := by
  rw [evidenced_iff_cleared hanswers hrecordable hfiled]

namespace Sample

def nothing : OutputType String := ⟨.null, fun _ => .error "Field required"⟩

theorem answers_smooth {gateway : ModelGateway} (h : gateway.rawArtifacts = false)
    (answer : ProviderModelResult) :
    gateway.Answers { smooth with outcome := .result answer } answer where
  admitted := rfl
  identity := ⟨none, rfl⟩
  outcome := rfl
  retained hraw := by simp [h] at hraw
  lives := rfl

def retryingGateway : ModelGateway :=
  { localGateway with
    structuredMaxRetries := 1
    retries := Nat.two_pos }

def keptBudget : EffectiveBudgetResult where
  budgetSource := .explicitRequest
  contextLimit := 1000
  estimatedInputTokens := 2
  bodyOutputBudget := 4
  thinkingBudget := 0
  totalOutputBudget := 4
  safetyAllowanceTokens := 256
  reservedSequenceTokens := 262
  availableInputTokens := 740
  positive := by decide
  reserved := rfl
  available := rfl

def boundRequest : TextRequest := textRequest.bound keptBudget

def boundState : GatewayState HeldCalls :=
  { GatewayState.initial with budgetResults := AList.insert boundRequest.requestId keptBudget ∅ }

theorem prepared_boundRequest :
    retryingGateway.prepared (constrainedRequest nothing boundRequest) boundState.budgetResults =
      .ok ⟨constrainedRequest nothing boundRequest, keptBudget, endpoint⟩ := by
  let first := constrainedRequest nothing boundRequest
  have hbudget : boundState.budgetResults.lookup first.requestId = some keptBudget :=
    AList.lookup_insert _
  have hbound : retryingGateway.boundBudget first endpoint boundState.budgetResults =
      .ok (first, keptBudget) := by
    have htokens : first.maxOutputTokens = some 4 := rfl
    unfold ModelGateway.boundBudget
    simp only [hbudget, htokens]
    rfl
  change (retryingGateway.boundBudget first endpoint boundState.budgetResults >>= fun bound =>
    pure (Prepared.mk bound.1 bound.2 endpoint)) = _
  rw [hbound]
  rfl

/-- Only one text is an answer. -/
def yes : OutputType String :=
  ⟨.null, fun text => if text = "Yes." then .ok text else .error "Field required"⟩

def yesAnswer : ProviderModelResult := { providerAnswer with text := "Yes." }

/-- A first answer that is none, and what every retry is answered with. -/
def answersOf (retried : ProviderModelResult) : Nat → ProviderModelResult
  | 0 => providerAnswer
  | _ + 1 => retried

def retryId : StableId := ⟨"q.schema-retry1", .refl true⟩

variable (retried : ProviderModelResult)

/-- The call whose retries are answered so. -/
def retriedCall : Except AuditedError (String × ModelCallRecord) × GatewayState HeldCalls :=
  retryingGateway.generateStructuredAudited
    (fun attempt => { smooth with outcome := .result (answersOf retried attempt) }) yes textRequest
    .initial

theorem parse_first :
    parseStructuredOutput yes (answersOf retried 0).text = .error "Field required" := by
  rw [show (answersOf retried 0).text = "Done." from rfl]
  decide +kernel

theorem attemptRequest_retry : attemptRequest yes textRequest (answersOf retried) 1 =
    some (retryRequest textRequest (constrainedRequest yes textRequest) retryId
      "Field required") := by
  have hid : boundedModelRequestId textRequest ".schema-retry1" = some retryId := rfl
  rw [attemptRequest, parse_first]
  exact congrArg (Option.map _) hid

theorem clears_initial {request : TextRequest}
    (h : (retryingGateway.prepared request ∅).isOk = true) :
    retryingGateway.Clears .initial request := by
  obtain ⟨prepared, hprepared⟩ := isOk_iff.mp h
  refine ⟨prepared, hprepared, fun hraw => ?_, fun entry hlookup => ?_⟩
  · simp [retryingGateway, localGateway] at hraw
  · exact absurd hlookup (by simp [GatewayState.initial])

theorem cleared_yes :
    retryingGateway.Cleared yes textRequest (answersOf retried) .initial := by
  constructor
  · intro attempt hle _
    rcases Nat.le_one_iff_eq_zero_or_eq_one.mp hle with rfl | rfl
    · exact ⟨_, rfl, clears_initial (by decide +kernel), fun h => absurd h (Nat.lt_irrefl 0)⟩
    · exact ⟨_, attemptRequest_retry retried, clears_initial (by decide +kernel), fun _ => by decide⟩
  · intro _ requestId
    refine ⟨fun h => h.2.resolve_left (by simp [GatewayState.initial]), fun h => ⟨?_, .inr h⟩⟩
    obtain ⟨attempt, hle, before, hbefore, rfl⟩ := h
    rcases Nat.le_one_iff_eq_zero_or_eq_one.mp hle with rfl | rfl
    · rw [attemptRequest, Option.mem_def, Option.some.injEq] at hbefore
      rw [← hbefore]
      rfl
    · rw [attemptRequest_retry, Option.mem_def, Option.some.injEq] at hbefore
      rw [← hbefore]
      rfl

theorem recordable_textRequest : Recordable retryingGateway textRequest :=
  ⟨by decide, by decide, by simp [retryingGateway, localGateway, endpoint]⟩

theorem sendsFirst_retried : retryingGateway.SendsFirst
    (fun attempt => { smooth with outcome := .result (answersOf retried attempt) }) yes textRequest
    .initial := by
  have hrecordable : Recordable retryingGateway (constrainedRequest yes textRequest) :=
    ⟨recordable_textRequest.trace, recordable_textRequest.span, recordable_textRequest.endpoints⟩
  have hclears : retryingGateway.Clears .initial (constrainedRequest yes textRequest) :=
    clears_initial (by decide +kernel)
  obtain ⟨_, passed, state', hcall, _, hsends, _⟩ :=
    generateText_clears filed_initial (answers_smooth rfl (answersOf retried 0)) hrecordable hclears
  unfold ModelGateway.SendsFirst
  rw [hcall]
  simp [hsends]

end Sample

open Sample

/-- An answer to the retry is returned, with the answer before it rejected; and a retry that is
    answered like the first attempt leaves both entries with the error. -/
theorem structured_retries_iff_sample :
    (∃ sent record, retryingGateway.Evidenced yes (answersOf yesAnswer)
        .initial (retriedCall yesAnswer) sent ∧ sent.length = 2 ∧
      (retriedCall yesAnswer).1 = .ok ("Yes.", record)) ∧
    ∃ sent entries, retryingGateway.Evidenced yes
        (answersOf providerAnswer) .initial (retriedCall providerAnswer)
        sent ∧ sent.length = 2 ∧
      (retriedCall providerAnswer).1 = .error (.exhausted entries) := by
  have hevidenced (retried : ProviderModelResult) :
      ∃ sent, retryingGateway.Evidenced yes (answersOf retried) .initial
        (retriedCall retried) sent :=
    (structured_retries_iff retryingGateway _ yes textRequest
      (answersOf retried) .initial (fun _ => answers_smooth rfl _)
      recordable_textRequest filed_initial).mpr (fun _ => cleared_yes retried)
      (sendsFirst_retried retried)
  have hfirst (retried : ProviderModelResult) :
      yes.Rejects (answersOf retried 0) := ⟨_, parse_first retried⟩
  constructor
  · obtain ⟨sent, hsent⟩ := hevidenced yesAnswer
    have hlength : sent.length = 2 := by
      by_contra hother
      have hbounded : sent.length ≤ 2 := hsent.bounded
      -- Fewer than two answers are all rejected, and then there are two.
      refine hother (hsent.exhausted fun attempt hlt => ?_).1
      obtain rfl : attempt = 0 := by omega
      exact hfirst _
    obtain ⟨record, hrecord⟩ := hsent.returned 1 (by omega) "Yes."
      (fun earlier hlt => by
        obtain rfl : earlier = 0 := by omega
        exact hfirst _) rfl
    exact ⟨sent, record, hsent, hlength, hrecord⟩
  · obtain ⟨sent, hsent⟩ := hevidenced providerAnswer
    have hrejects : ∀ attempt, yes.Rejects (answersOf providerAnswer attempt) := by
      intro attempt
      cases attempt with
      | zero => exact hfirst _
      | succ _ => exact ⟨_, parse_first providerAnswer⟩
    obtain ⟨hlength, entries, hentries, _⟩ := hsent.exhausted fun attempt _ => hrejects attempt
    exact ⟨sent, entries, hsent, hlength, hentries⟩

/-- A request that names a budget passes the checks only if the process knows its budget. -/
theorem bound_budget_known {constrained : TextRequest} {prepared : Prepared}
    {budgetResults : Table StableId EffectiveBudgetResult}
    (h : gateway.prepared constrained budgetResults = .ok prepared)
    (hbound : constrained.budgetSource ≠ none) :
    budgetResults.lookup constrained.requestId ≠ none := by
  intro hunknown
  unfold ModelGateway.prepared at h
  rcases (bind_eq_ok _ _ _).mp h with ⟨_, _, h⟩
  split at h
  · exact absurd h (by simp [throw, throwThe, MonadExceptOf.throw])
  · split at h
    · exact absurd h (by simp [throw, throwThe, MonadExceptOf.throw])
    · rcases (bind_eq_ok _ _ _).mp h with ⟨bound, hbudget, _⟩
      unfold ModelGateway.boundBudget at hbudget
      rw [if_pos hbound, hunknown] at hbudget
      split at hbudget
      · exact absurd hbudget (by simp [throw, throwThe, MonadExceptOf.throw])
      · exact absurd hbudget (by simp [throw, throwThe, MonadExceptOf.throw])

/-- The first answer to a request with a budget is rejected, and its retry is refused: no
    budget is kept under the identity of the retry. -/
theorem bound_budget_refused :
    ¬ ∀ (gateway : ModelGateway) (circumstances : Nat → Circumstances)
      (output : OutputType String) (request : TextRequest) (answers : Nat → ProviderModelResult)
      (state : GatewayState HeldCalls),
      (∀ attempt, gateway.Answers (circumstances attempt) (answers attempt)) →
      Recordable gateway request → Filed state.ledger →
      gateway.SendsFirst circumstances output request state →
      ∃ sent, gateway.Evidenced output answers state
        (gateway.generateStructuredAudited circumstances output request state) sent := by
  intro hevidenced
  have hanswers : ∀ _ : Nat, retryingGateway.Answers smooth providerAnswer :=
    fun _ => answers_smooth rfl _
  have hrecordable : Recordable retryingGateway boundRequest :=
    ⟨by decide, by decide, by
      simp [retryingGateway, localGateway, endpoint]⟩
  have hfiled : Filed boundState.ledger := filed_initial
  let first := constrainedRequest nothing boundRequest
  have hrecordable' : Recordable retryingGateway first :=
    ⟨hrecordable.trace, hrecordable.span, hrecordable.endpoints⟩
  have hclears : retryingGateway.Clears boundState first := by
    refine ⟨_, prepared_boundRequest, fun hraw => ?_, fun entry hlookup => ?_⟩
    · simp [retryingGateway, localGateway] at hraw
    · exact absurd hlookup (by simp [boundState, GatewayState.initial])
  have hsent : retryingGateway.SendsFirst (fun _ => smooth) nothing
      boundRequest boundState := by
    rcases generateText_clears hfiled (hanswers 0) hrecordable' hclears with
      ⟨_, passed, state', hcall, _, hsends, _⟩
    unfold ModelGateway.SendsFirst
    rw [hcall]
    dsimp only
    rw [hsends]
    simp
  have hcleared := (evidenced_iff_cleared hanswers hrecordable hfiled).mp
    (hevidenced _ (fun _ => smooth) nothing _ _ boundState hanswers
      hrecordable hfiled hsent)
  rcases hcleared.attempts 1 le_rfl fun _ _ => ⟨_, rfl⟩ with
    ⟨retry, hretry, ⟨prepared, hprepared, _⟩, hfresh⟩
  have hbound : retry.budgetSource ≠ none := by
    rw [(attemptRequest_texts hretry).2.2.2]
    simp [boundRequest, TextRequest.bound]
  refine bound_budget_known hprepared hbound ?_
  exact AList.lookup_insert_ne (hfresh Nat.one_pos)

end NovelAgent.ModelCalls
