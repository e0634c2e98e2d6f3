import NovelAgent.Core.Run
import NovelAgent.ModelCalls.Gateway

/-!
# Resending a Model Call

Which calls for text pass a request to its provider although the ledger already says
that it was answered, or may have been.
-/

namespace NovelAgent.ModelCalls

open Core Domain Core.Session Core.Outcome List

/-! ### The ledger in memory -/

/-- The dictionary of a ledger that holds what it is given. -/
abbrev HeldCalls := Table StableId Entry

/-- The ledger in memory, on the fields of entries. -/
def heldCalls : LedgerPort HeldCalls where
  createRequested request effectiveBudget reasoningIncluded now := fun ledger =>
    match ledger.lookup request.requestId with
    | some existing =>
      match identityError existing request effectiveBudget reasoningIncluded with
      | some error => .error error
      | none => .ok (existing, ledger)
    | none =>
      let entry : Entry :=
        (requestedEntry request effectiveBudget reasoningIncluded now).toLedgerFields
      .ok (entry, ledger.insert request.requestId entry)
  rebindRequested request expectedRequestHash effectiveBudget reasoningIncluded := fun ledger =>
    match ledger.lookup request.requestId with
    | none => .error (.notReserved request.requestId.root)
    | some existing =>
      match rebindError existing expectedRequestHash effectiveBudget reasoningIncluded with
      | some error => .error error
      | none =>
        let rebound : Entry := { existing with requestHash := modelRequestHash request }
        .ok (rebound, ledger.insert request.requestId rebound)
  settle entry := fun ledger =>
    match ledger.lookup entry.requestId with
    | none => .error (.notReserved entry.requestId.root)
    | some existing =>
      match settlementError existing entry with
      | some error => .error error
      | none => .ok (entry, ledger.insert entry.requestId entry)
  load requestId := fun ledger => .ok (ledger.lookup requestId, ledger)

/-- One call of the gateway. -/
structure TextCall where
  request : TextRequest
  circumstances : Circumstances

/-- One call of a gateway. Where the process stops, its budgets and marks go with it. -/
def ModelGateway.call (gateway : ModelGateway) (state : GatewayState HeldCalls)
    (call : TextCall) : GatewayState HeldCalls :=
  let after := (gateway.generateText heldCalls call.circumstances call.request state).2
  if call.circumstances.stop = none then after
  else { after with budgetResults := ∅, marked := [] }

/-- The request of this entry is not to be sent again: it was answered, or it was sent
    and nobody knows. A marker of the process at hand tells of a call that has ended. -/
def Blocks (marked : List StableId) (requestId : StableId) (entry : Entry) : Prop :=
  entry.status.Answered ∨ entry.status = .uncertain ∨
    (entry.status = .requested ∧ entry.providerSentAt ≠ none ∧ requestId ∉ marked)

/-- The request under this identity is blocked. -/
def Blocked (state : GatewayState HeldCalls) (requestId : StableId) : Prop :=
  ∃ entry, state.ledger.lookup requestId = some entry ∧ Blocks state.marked requestId entry

/-- The ledger takes the request for the one that this entry was reserved for. -/
def ModelGateway.Recognises (gateway : ModelGateway) (entry : Entry) (request : TextRequest)
    (prepared : Prepared) : Prop :=
  identityError entry (gateway.ledgerRequest prepared.request) prepared.budget
      prepared.endpoint.reasoningIncludedInCompletionTokens = none ∨
    (entry.requestHash = gateway.requestHash request ∧
      rebindError entry entry.requestHash prepared.budget
        prepared.endpoint.reasoningIncludedInCompletionTokens = none)

/-- The call sends a blocked request again: it passes every check before the ledger, the
    ledger recognises it, its entry is not uncertain, and the process lives to send it. -/
def ModelGateway.Resends (gateway : ModelGateway) (state : GatewayState HeldCalls)
    (call : TextCall) : Prop :=
  ∃ entry prepared, state.ledger.lookup call.request.requestId = some entry ∧
    Blocks state.marked call.request.requestId entry ∧
    gateway.prepared call.request state.budgetResults = .ok prepared ∧
    ¬ (gateway.admissionController = true ∧ call.circumstances.admitted = false) ∧
    gateway.Recognises entry call.request prepared ∧ entry.status ≠ .uncertain ∧
    (∃ identity, call.circumstances.identity = .ok identity) ∧
    call.circumstances.stop ≠ some .beforeSend

/-- The evidence of an entry: what the provider answered. -/
def Entry.evidence (entry : Entry) :
    Option ArtifactId × Option ArtifactRef × Option ModelCallRecord :=
  (entry.rawResponseHash, entry.rawArtifactRef, entry.callRecord)

/-- The call does not send a blocked request, and no completed call gets the evidence of
    another send. -/
def ModelGateway.SafeCall (gateway : ModelGateway) (state : GatewayState HeldCalls)
    (call : TextCall) : Prop :=
  (Blocked state call.request.requestId → (gateway.call state call).sends = state.sends) ∧
    ∀ requestId entry, state.ledger.lookup requestId = some entry → entry.status = .completed →
      ∃ entry', (gateway.call state call).ledger.lookup requestId = some entry' ∧
        entry'.evidence = entry.evidence

/-- The requests passed to an adapter under an identity. -/
def GatewayState.sendsOf {σ : Type} (state : GatewayState σ) (requestId : StableId) :
    List TextRequest :=
  state.sends.filter (·.requestId = requestId)

/-! ### What a call touches -/

/-- The entries of the dictionary stand under their own identities. -/
def Filed (ledger : HeldCalls) : Prop :=
  ∀ requestId entry, ledger.lookup requestId = some entry → entry.requestId = requestId

/-- Only the request under this identity is touched, and entries stay filed. -/
structure Touches (requestId : StableId) (state state' : GatewayState HeldCalls) : Prop where
  filed : Filed state.ledger → Filed state'.ledger
  others : ∀ other, other ≠ requestId → state'.ledger.lookup other = state.ledger.lookup other
  marks : ∀ other, other ≠ requestId → (other ∈ state'.marked → other ∈ state.marked)
  sent : ∃ new, state'.sends = state.sends ++ new ∧ ∀ request ∈ new, request.requestId = requestId

/-- The same, and nothing is marked or sent. -/
structure Settles (requestId : StableId) (state state' : GatewayState HeldCalls) : Prop where
  filed : Filed state.ledger → Filed state'.ledger
  others : ∀ other, other ≠ requestId → state'.ledger.lookup other = state.ledger.lookup other
  marked : state'.marked = state.marked
  sends : state'.sends = state.sends

variable {requestId : StableId} {state state' state'' : GatewayState HeldCalls} {α : Type}

theorem Settles.refl (requestId : StableId) (state : GatewayState HeldCalls) :
    Settles requestId state state :=
  ⟨id, fun _ _ => rfl, rfl, rfl⟩

theorem Settles.trans (h : Settles requestId state state')
    (h' : Settles requestId state' state'') : Settles requestId state state'' where
  filed hfiled := h'.filed (h.filed hfiled)
  others other hother := (h'.others other hother).trans (h.others other hother)
  marked := h'.marked.trans h.marked
  sends := h'.sends.trans h.sends

theorem Settles.touches (h : Settles requestId state state') : Touches requestId state state' where
  filed := h.filed
  others := h.others
  marks other _ hmem := by
    rw [h.marked] at hmem
    exact hmem
  sent := ⟨[], by rw [h.sends, append_nil], by simp⟩

theorem Touches.trans (h : Touches requestId state state')
    (h' : Touches requestId state' state'') : Touches requestId state state'' where
  filed hfiled := h'.filed (h.filed hfiled)
  others other hother := (h'.others other hother).trans (h.others other hother)
  marks other hother hmem := h.marks other hother (h'.marks other hother hmem)
  sent := by
    rcases h.sent with ⟨new, hnew, hids⟩
    rcases h'.sent with ⟨new', hnew', hids'⟩
    refine ⟨new ++ new', by rw [hnew', hnew, append_assoc], ?_⟩
    intro request hmem
    rcases mem_append.mp hmem with hfirst | hsecond
    · exact hids request hfirst
    · exact hids' request hsecond

theorem Filed.insert {ledger : HeldCalls} (h : Filed ledger) (entry : Entry) :
    Filed (ledger.insert entry.requestId entry) := by
  intro other found hfound
  rw [Table.lookup_insert_if] at hfound
  by_cases hother : other = entry.requestId
  · rw [if_pos hother, Option.some.injEq] at hfound
    rw [← hfound, hother]
  · rw [if_neg hother] at hfound
    exact h other found hfound

theorem put_held (entry : Entry) (state : GatewayState HeldCalls) :
    (∃ existing, state.ledger.lookup entry.requestId = some existing ∧
      settlementError existing entry = none ∧
      heldCalls.put entry state = (.ok (), { state with
        ledger := state.ledger.insert entry.requestId entry
        settlements := state.settlements ++ [(entry, none)] })) ∨
    ∃ error, heldCalls.put entry state = (.error (.ledger error), { state with
      settlements := state.settlements ++ [(entry, some error)] }) := by
  unfold LedgerPort.put heldCalls
  dsimp only
  cases hlookup : state.ledger.lookup entry.requestId with
  | none => exact .inr ⟨_, rfl⟩
  | some existing =>
    dsimp only
    cases hguard : settlementError existing entry with
    | none => exact .inl ⟨existing, rfl, hguard, rfl⟩
    | some error => exact .inr ⟨error, rfl⟩

theorem settles_put (entry : Entry) (hid : entry.requestId = requestId) :
    Keeps (Settles requestId) (heldCalls.put entry) := by
  intro state
  rcases put_held entry state with ⟨existing, _, _, hput⟩ | ⟨error, hput⟩
  · rw [hput]
    refine ⟨fun hfiled => hfiled.insert entry, fun other hother => ?_, rfl, rfl⟩
    rw [Table.lookup_insert_if, if_neg (by rw [hid]; exact hother)]
  · rw [hput]
    exact ⟨id, fun _ _ => rfl, rfl, rfl⟩

variable {x : Session (GatewayState HeldCalls) GatewayError α}

theorem settles_bind {β : Type} {f : α → Session (GatewayState HeldCalls) GatewayError β}
    (hx : Keeps (Settles requestId) x) (hf : ∀ a, Keeps (Settles requestId) (f a)) :
    Keeps (Settles requestId) (x >>= f) :=
  keeps_bind (fun _ _ _ h h' => h.trans h') hx hf

theorem settles_raise (error : GatewayError) :
    Keeps (Settles requestId)
      (raise error : Session (GatewayState HeldCalls) GatewayError α) :=
  keeps_raise (Settles.refl requestId) error

theorem settles_pure (a : α) :
    Keeps (Settles requestId)
      (pure a : Session (GatewayState HeldCalls) GatewayError α) :=
  keeps_pure (Settles.refl requestId) a

theorem settles_halt (circumstances : Circumstances) (point : StopPoint) :
    Keeps (Settles requestId)
      (circumstances.halt point : Session (GatewayState HeldCalls) GatewayError Unit) := by
  unfold Circumstances.halt
  by_cases hstop : circumstances.stop = some point
  · rw [if_pos hstop]
    exact settles_raise _
  · rw [if_neg hstop]
    exact settles_pure _

variable (gateway : ModelGateway) (circumstances : Circumstances)

variable {sent : Entry}

theorem settles_settleIncomplete (hid : sent.requestId = requestId) (prepared : Prepared)
    (typeName : String) (answer : OutputIncomplete) :
    Keeps (Settles requestId) (gateway.settleIncomplete (α := α) heldCalls circumstances sent
      prepared typeName answer) := by
  have hlost : Keeps (Settles requestId) (do
      heldCalls.put (sent.unretained sent.providerRequestId circumstances.completedAt)
      raise .rawResponsePersistence : Session (GatewayState HeldCalls) GatewayError α) :=
    settles_bind (settles_put _ hid) fun _ => settles_raise _
  unfold ModelGateway.settleIncomplete
  cases hentry : gateway.incompleteEntry circumstances sent prepared answer with
  | none => exact hlost
  | some entry =>
    have hsame : entry.requestId = requestId := by
      unfold ModelGateway.incompleteEntry at hentry
      simp only [bind, Option.bind_eq_some_iff, pure, Option.some.injEq] at hentry
      rcases hentry with ⟨record, _, rawArtifactRef, _, rfl⟩
      exact hid
    intro state
    have hput := settles_put _ hsame state
    dsimp only
    rcases hresult : heldCalls.put entry state with ⟨outcome, state'⟩
    rw [hresult] at hput
    cases outcome with
    | ok u => exact hput
    | error e => exact hput.trans (hlost state')

theorem settles_conclude (hid : sent.requestId = requestId) (prepared : Prepared) :
    Keeps (Settles requestId) (gateway.conclude heldCalls circumstances sent prepared) := by
  unfold ModelGateway.conclude
  cases circumstances.outcome with
  | interrupted => exact settles_raise _
  | cancelled typeName =>
    exact settles_bind (settles_halt _ _) fun _ =>
      settles_bind (settles_put _ hid) fun _ => settles_raise _
  | timeout typeName =>
    exact settles_bind (settles_halt _ _) fun _ =>
      settles_bind (settles_put _ hid) fun _ => settles_raise _
  | incomplete typeName answer =>
    exact settles_bind (settles_halt _ _) fun _ =>
      settles_settleIncomplete gateway circumstances hid prepared typeName answer
  | failed typeName =>
    exact settles_bind (settles_halt _ _) fun _ =>
      settles_bind (settles_put _ hid) fun _ => settles_raise _
  | result result =>
    refine settles_bind (settles_halt _ _) fun _ => ?_
    unfold ModelGateway.settleResult
    dsimp only
    split
    · exact settles_raise _
    · split
      · exact settles_bind (settles_put _ hid) fun _ => settles_raise _
      · exact settles_bind (settles_put _ hid) fun _ => settles_pure _

/-! ### The reservation -/

variable {gateway circumstances} {unbound : TextRequest} {prepared : Prepared} {entry : Entry}

/-- The entry that a new request is reserved as. -/
def ModelGateway.fresh (gateway : ModelGateway) (circumstances : Circumstances)
    (prepared : Prepared) : Entry :=
  (requestedEntry (gateway.ledgerRequest prepared.request) prepared.budget
    prepared.endpoint.reasoningIncludedInCompletionTokens circumstances.requestedAt).toLedgerFields

theorem reserveEntry_new (gateway : ModelGateway) (circumstances : Circumstances)
    (unbound : TextRequest) (hlookup : state.ledger.lookup prepared.request.requestId = none) :
    gateway.reserveEntry heldCalls circumstances unbound prepared state =
      (.ok (gateway.fresh circumstances prepared), { state with
        ledger := state.ledger.insert prepared.request.requestId
          (gateway.fresh circumstances prepared) }) := by
  have hcreated : heldCalls.createRequested (gateway.ledgerRequest prepared.request)
      prepared.budget prepared.endpoint.reasoningIncludedInCompletionTokens
      circumstances.requestedAt state.ledger =
      .ok (gateway.fresh circumstances prepared, state.ledger.insert prepared.request.requestId
        (gateway.fresh circumstances prepared)) := by
    have hlookup' : state.ledger.lookup (gateway.ledgerRequest prepared.request).requestId =
        none := hlookup
    simp only [heldCalls, hlookup']
    rfl
  unfold ModelGateway.reserveEntry
  rw [bind_tryLedger_ok hcreated]
  rfl

variable {error : LedgerError}

theorem identityError_collision {request : ModelRequest} {budget : EffectiveBudgetResult}
    {reasoningIncluded : Bool}
    (h : identityError entry request budget reasoningIncluded = some error) :
    ∃ message, error = .collision message := by
  unfold identityError at h
  split at h
  · exact ⟨_, (Option.some.inj h).symm⟩
  · split at h
    · exact ⟨_, (Option.some.inj h).symm⟩
    · exact absurd h (by simp)

theorem createRequested_refused {now : Int}
    (hlookup : state.ledger.lookup prepared.request.requestId = some entry)
    (hidentity : identityError entry (gateway.ledgerRequest prepared.request) prepared.budget
      prepared.endpoint.reasoningIncludedInCompletionTokens = some error) :
    heldCalls.createRequested (gateway.ledgerRequest prepared.request) prepared.budget
      prepared.endpoint.reasoningIncludedInCompletionTokens now state.ledger = .error error := by
  have hlookup' : state.ledger.lookup (gateway.ledgerRequest prepared.request).requestId =
      some entry := hlookup
  simp only [heldCalls, hlookup', hidentity]

theorem load_held (hlookup : state.ledger.lookup requestId = some entry) :
    heldCalls.load requestId state.ledger = .ok (some entry, state.ledger) := by
  simp only [heldCalls, hlookup]

/-- A request that the ledger recognises is reserved already. At most the hash of its
    entry changes. -/
theorem reserveEntry_recognised (circumstances : Circumstances)
    (hlookup : state.ledger.lookup prepared.request.requestId = some entry)
    (h : gateway.Recognises entry unbound prepared) :
    ∃ hash ledger, gateway.reserveEntry heldCalls circumstances unbound prepared state =
        (.ok { entry with requestHash := hash }, { state with ledger }) ∧
      ledger.lookup prepared.request.requestId = some { entry with requestHash := hash } ∧
      (∀ other, other ≠ prepared.request.requestId →
        ledger.lookup other = state.ledger.lookup other) := by
  have hlookup' : state.ledger.lookup (gateway.ledgerRequest prepared.request).requestId =
      some entry := hlookup
  unfold ModelGateway.reserveEntry
  cases hidentity : identityError entry (gateway.ledgerRequest prepared.request) prepared.budget
      prepared.endpoint.reasoningIncludedInCompletionTokens with
  | none =>
    have hcreated : heldCalls.createRequested (gateway.ledgerRequest prepared.request)
        prepared.budget prepared.endpoint.reasoningIncludedInCompletionTokens
        circumstances.requestedAt state.ledger = .ok (entry, state.ledger) := by
      simp only [heldCalls, hlookup', hidentity]
    refine ⟨entry.requestHash, state.ledger, ?_, hlookup, fun _ _ => rfl⟩
    rw [bind_tryLedger_ok hcreated]
    rfl
  | some error =>
    rcases identityError_collision hidentity with ⟨message, rfl⟩
    rcases h with h | ⟨hhash, hrebind⟩
    · exact absurd (hidentity.symm.trans h) (by simp)
    · refine ⟨gateway.requestHash prepared.request,
        state.ledger.insert prepared.request.requestId
          { entry with requestHash := gateway.requestHash prepared.request }, ?_,
        AList.lookup_insert _, fun other hother => AList.lookup_insert_ne hother⟩
      rw [bind_tryLedger_error (createRequested_refused hlookup hidentity)]
      dsimp only
      rw [bind_onLedger_ok (load_held hlookup)]
      dsimp only
      rw [if_neg (not_not.mpr hhash)]
      refine onLedger_ok ?_
      simp only [heldCalls, hlookup', hrebind]
      rfl

theorem reserveEntry_refused (circumstances : Circumstances)
    (hlookup : state.ledger.lookup prepared.request.requestId = some entry)
    (h : ¬ gateway.Recognises entry unbound prepared) :
    ∃ error, gateway.reserveEntry heldCalls circumstances unbound prepared state =
      (.error error, state) := by
  unfold ModelGateway.Recognises at h
  rw [not_or] at h
  rcases h with ⟨hidentity, hrebind⟩
  rcases Option.ne_none_iff_exists'.mp hidentity with ⟨error, hidentity⟩
  rcases identityError_collision hidentity with ⟨message, rfl⟩
  have hlookup' : state.ledger.lookup (gateway.ledgerRequest prepared.request).requestId =
      some entry := hlookup
  unfold ModelGateway.reserveEntry
  rw [bind_tryLedger_error (createRequested_refused hlookup hidentity)]
  dsimp only
  rw [bind_onLedger_ok (load_held hlookup)]
  dsimp only
  by_cases hhash : entry.requestHash = gateway.requestHash unbound
  · rw [if_neg (not_not.mpr hhash)]
    have hrefused : rebindError entry entry.requestHash prepared.budget
        prepared.endpoint.reasoningIncludedInCompletionTokens ≠ none :=
      fun hnone => hrebind ⟨hhash, hnone⟩
    rcases Option.ne_none_iff_exists'.mp hrefused with ⟨error, herror⟩
    refine ⟨.ledger error, onLedger_error ?_⟩
    simp only [heldCalls, hlookup', herror]
  · rw [if_pos hhash]
    exact ⟨_, rfl⟩

theorem reserveEntry_spec (hfiled : Filed state.ledger)
    (hid : prepared.request.requestId = requestId) :
    Ensures (gateway.reserveEntry heldCalls circumstances unbound prepared)
      (fun found state' => Settles requestId state state' ∧ found.requestId = requestId)
      (fun _ state' => Settles requestId state state') state := by
  subst hid
  cases hlookup : state.ledger.lookup prepared.request.requestId with
  | none =>
    unfold Ensures
    rw [reserveEntry_new gateway circumstances unbound hlookup]
    refine ⟨⟨fun _ => hfiled.insert (gateway.fresh circumstances prepared), fun other hother => ?_,
      rfl, rfl⟩, rfl⟩
    exact AList.lookup_insert_ne hother
  | some entry =>
    have hown : entry.requestId = prepared.request.requestId := hfiled _ _ hlookup
    by_cases hknown : gateway.Recognises entry unbound prepared
    · rcases reserveEntry_recognised circumstances hlookup hknown with
        ⟨hash, ledger, hreserved, hheld, hothers⟩
      unfold Ensures
      rw [hreserved]
      refine ⟨⟨fun _ other found hfound => ?_, hothers, rfl, rfl⟩, hown⟩
      by_cases hother : other = prepared.request.requestId
      · rw [hother] at hfound
        rw [Option.some.inj (hfound.symm.trans hheld), hother]
        exact hown
      · exact hfiled other found ((hothers other hother).symm.trans hfound)
    · rcases reserveEntry_refused circumstances hlookup hknown with
        ⟨error, hrefused⟩
      unfold Ensures
      rw [hrefused]
      exact Settles.refl _ _

theorem ensures_of_settles (hx : Keeps (Settles requestId) x) (h : Touches requestId state state') :
    Ensures x (fun _ state'' => Touches requestId state state'')
      (fun _ state'' => Touches requestId state state'') state' := by
  have hkept := hx state'
  unfold Ensures
  rcases hresult : x state' with ⟨outcome, state''⟩
  rw [hresult] at hkept
  cases outcome with
  | ok a => exact h.trans hkept.touches
  | error e => exact h.trans hkept.touches

theorem ensures_change (f : GatewayState HeldCalls → GatewayState HeldCalls)
    {Q : Unit → GatewayState HeldCalls → Prop} {E : GatewayError → GatewayState HeldCalls → Prop} :
    Ensures (change f) Q E state ↔ Q () (f state) :=
  Iff.rfl

theorem reserve_spec (gateway : ModelGateway) (circumstances : Circumstances)
    (unbound : TextRequest) (hfiled : Filed state.ledger)
    (hid : prepared.request.requestId = requestId) :
    Ensures (gateway.reserve heldCalls circumstances unbound prepared)
      (fun sent state' => Touches requestId state state' ∧ sent.requestId = requestId)
      (fun _ state' => Touches requestId state state') state := by
  unfold ModelGateway.reserve
  rw [ensures_bind]
  refine (reserveEntry_spec hfiled hid).mono (fun found state₁ hfound => ?_)
    fun _ _ hraised => hraised.touches
  rcases hfound with ⟨hsettled, hown⟩
  by_cases huncertain : found.status = .uncertain
  · rw [if_pos huncertain]
    exact hsettled.touches
  · rw [if_neg huncertain, ensures_bind]
    cases circumstances.identity with
    | error typeName => exact hsettled.touches
    | ok identity =>
      have hidentity : (ofExcept ((Except.ok identity).mapError GatewayError.adapter) :
          Session (GatewayState HeldCalls) GatewayError (Option String)) = pure identity := rfl
      rw [hidentity, ensures_pure, ensures_bind]
      refine (ensures_of_settles (settles_put (found.sent identity circumstances.sentAt)
        hown) hsettled.touches).mono (fun _ state₂ htouched => ?_) fun _ _ hraised => hraised
      rw [ensures_bind, ensures_change]
      refine ⟨htouched.trans ⟨id, fun _ _ => rfl, fun other hother hmem => ?_,
        [], (append_nil _).symm, by simp⟩, hown⟩
      rcases mem_cons.mp hmem with hsame | hmem
      · exact absurd (hsame.trans hown) hother
      · exact hmem

theorem converse_spec (hown : sent.requestId = requestId)
    (hid : prepared.request.requestId = requestId) (h : Touches requestId state state') :
    Touches requestId state (gateway.converse heldCalls circumstances sent prepared state').2 := by
  have hensures : Ensures (gateway.converse heldCalls circumstances sent prepared)
      (fun _ state'' => Touches requestId state state'')
      (fun _ state'' => Touches requestId state state'') state' := by
    unfold ModelGateway.converse
    rw [ensures_bind]
    refine (ensures_of_settles (settles_halt _ _) h).imp fun _ state₁ h₁ => ?_
    rw [ensures_bind, ensures_change, ensures_bind]
    have h₂ : Touches requestId state { state₁ with sends := state₁.sends ++ [prepared.request] } :=
      h₁.trans ⟨id, fun _ _ => rfl, fun _ _ hmem => hmem, [prepared.request], rfl, by simp [hid]⟩
    refine (ensures_of_settles (settles_halt _ _) h₂).imp fun _ state₃ h₃ => ?_
    exact ensures_of_settles (settles_conclude gateway circumstances hown prepared) h₃
  unfold Ensures at hensures
  rcases hresult : gateway.converse heldCalls circumstances sent prepared state' with
    ⟨outcome, state''⟩
  rw [hresult] at hensures
  cases outcome with
  | ok a => exact hensures
  | error e => exact hensures

/-! ### A call for text -/

variable {request : TextRequest}

theorem generateText_unprepared {error : GatewayError}
    (h : gateway.prepared request state.budgetResults = .error error) :
    gateway.generateText heldCalls circumstances request state = (.error error, state) := by
  unfold ModelGateway.generateText
  rw [Session.bind_apply, prepare_error h]

theorem generateText_unadmitted
    (h : gateway.prepared request state.budgetResults = .ok prepared)
    (hrefused : gateway.admissionController = true ∧ circumstances.admitted = false) :
    gateway.generateText heldCalls circumstances request state =
      (.error .admission, state.budgeted request prepared.budget) := by
  unfold ModelGateway.generateText
  rw [Session.bind_apply, prepare_ok h]
  unfold ModelGateway.acquireLease
  rw [if_pos hrefused]
  rfl

theorem touches_budgeted (requestId : StableId) (state : GatewayState HeldCalls)
    (request : TextRequest) (budget : EffectiveBudgetResult) :
    Touches requestId state (state.budgeted request budget) :=
  ⟨id, fun _ _ => rfl, fun _ _ hmem => hmem, [], (append_nil _).symm, by simp⟩

/-- What a call does to other requests. -/
theorem generateText_frame (gateway : ModelGateway) (circumstances : Circumstances)
    (request : TextRequest) (hfiled : Filed state.ledger) :
    Touches request.requestId state
      (gateway.generateText heldCalls circumstances request state).2 := by
  cases hprepared : gateway.prepared request state.budgetResults with
  | error error =>
    rw [generateText_unprepared hprepared]
    exact (Settles.refl _ _).touches
  | ok prepared =>
    have hid := prepared_requestId hprepared
    have hbudgeted := touches_budgeted request.requestId state request prepared.budget
    by_cases hadmitted : gateway.admissionController = true ∧ circumstances.admitted = false
    · rw [generateText_unadmitted hprepared hadmitted]
      exact hbudgeted
    · rw [generateText_admitted hprepared hadmitted, Session.bind_apply]
      have hfiled' : Filed (state.budgeted request prepared.budget).ledger := hfiled
      have hreserve := reserve_spec gateway circumstances request hfiled' hid
      unfold Ensures at hreserve
      rcases hresult : gateway.reserve heldCalls circumstances request prepared
        (state.budgeted request prepared.budget) with ⟨outcome, state'⟩
      rw [hresult] at hreserve
      cases outcome with
      | ok sent => exact converse_spec hreserve.2 hid (hbudgeted.trans hreserve.1)
      | error e => exact hbudgeted.trans hreserve

theorem put_guarded (state : GatewayState HeldCalls) (entry : Entry) {existing : Entry}
    (hlookup : state.ledger.lookup entry.requestId = some existing)
    (hguard : settlementError existing entry = none) :
    heldCalls.put entry state = (.ok (), { state with
      ledger := state.ledger.insert entry.requestId entry
      settlements := state.settlements ++ [(entry, none)] }) := by
  unfold LedgerPort.put heldCalls
  simp only [hlookup, hguard]

theorem put_sent (state : GatewayState HeldCalls) (known : Entry)
    (hown : known.requestId = requestId) (hlookup : state.ledger.lookup requestId = some known)
    (identity : Option String) (sentAt : Int) :
    heldCalls.put (known.sent identity sentAt) state = (.ok (), { state with
      ledger := state.ledger.insert requestId (known.sent identity sentAt)
      settlements := state.settlements ++ [(known.sent identity sentAt, none)] }) := by
  subst hown
  have hguard : settlementError known (known.sent identity sentAt) = none := by
    unfold settlementError Entry.sent
    simp
  exact put_guarded state (known.sent identity sentAt) hlookup hguard

variable {identity : Option String}

/-- A request that the ledger recognises and whose entry is not uncertain is marked as
    sent again, its entry otherwise as it was but for its hash. -/
theorem reserve_recognised (hown : entry.requestId = prepared.request.requestId)
    (hlookup : state.ledger.lookup prepared.request.requestId = some entry)
    (hknown : gateway.Recognises entry unbound prepared) (hcertain : entry.status ≠ .uncertain)
    (hidentity : circumstances.identity = .ok identity) :
    ∃ hash state', gateway.reserve heldCalls circumstances unbound prepared state =
        (.ok (Entry.sent { entry with requestHash := hash } identity circumstances.sentAt),
          state') ∧
      state'.ledger.lookup prepared.request.requestId =
        some (Entry.sent { entry with requestHash := hash } identity circumstances.sentAt) ∧
      state'.sends = state.sends ∧ state'.budgetResults = state.budgetResults := by
  rcases reserveEntry_recognised circumstances hlookup hknown with
    ⟨hash, ledger, hreserved, hheld, _⟩
  unfold ModelGateway.reserve
  rw [Session.bind_apply, hreserved]
  dsimp only
  rw [if_neg hcertain, hidentity]
  have hput := put_sent { state with ledger } { entry with requestHash := hash } hown hheld identity
    circumstances.sentAt
  refine ⟨hash, { state with
    ledger := ledger.insert prepared.request.requestId
      (Entry.sent { entry with requestHash := hash } identity circumstances.sentAt)
    settlements := state.settlements ++
      [(Entry.sent { entry with requestHash := hash } identity circumstances.sentAt, none)]
    marked := entry.requestId :: state.marked }, ?_, AList.lookup_insert _, rfl, rfl⟩
  change (heldCalls.put _ >>= _ : Session (GatewayState HeldCalls) GatewayError Entry) _ = _
  rw [Session.bind_apply, hput]
  rfl

theorem converse_stopped (hstop : circumstances.stop = some .beforeSend) :
    gateway.converse heldCalls circumstances sent prepared state = (.error .stopped, state) := by
  unfold ModelGateway.converse Circumstances.halt
  rw [Session.bind_apply, if_pos hstop]
  rfl

theorem converse_sends (hstop : circumstances.stop ≠ some .beforeSend) :
    (gateway.converse heldCalls circumstances sent prepared state).2.sends =
      state.sends ++ [prepared.request] := by
  have hrest : Keeps (Settles sent.requestId) (do
      circumstances.halt .whileSent
      gateway.conclude heldCalls circumstances sent prepared) :=
    settles_bind (settles_halt _ _) fun _ => settles_conclude gateway circumstances rfl prepared
  unfold ModelGateway.converse
  rw [Session.bind_apply]
  unfold Circumstances.halt at hrest ⊢
  rw [if_neg hstop]
  exact (hrest { state with sends := state.sends ++ [prepared.request] }).sends

/-- The entry of a blocked request after a call: its status and evidence are the same,
    and a marker is not lost. -/
structure Entry.Kept (entry entry' : Entry) : Prop where
  own : entry'.requestId = entry.requestId
  status : entry'.status = entry.status
  evidence : entry'.evidence = entry.evidence
  marker : entry.providerSentAt ≠ none → entry'.providerSentAt ≠ none

theorem Entry.Kept.refl (entry : Entry) : entry.Kept entry :=
  ⟨rfl, rfl, rfl, id⟩

theorem Entry.Kept.trans {entry entry' entry'' : Entry} (h : entry.Kept entry')
    (h' : entry'.Kept entry'') : entry.Kept entry'' where
  own := h'.own.trans h.own
  status := h'.status.trans h.status
  evidence := h'.evidence.trans h.evidence
  marker hmarker := h'.marker (h.marker hmarker)

/-- Nothing was sent, and the entry under the identity was kept. -/
structure Unsent (requestId : StableId) (entry : Entry) (state state' : GatewayState HeldCalls) :
    Prop where
  sends : state'.sends = state.sends
  kept : ∃ entry', state'.ledger.lookup requestId = some entry' ∧ entry.Kept entry'

/-- A known request is reserved only if the ledger recognises it, its entry is not
    uncertain, and the adapter says what it calls it. -/
theorem reserve_kept (gateway : ModelGateway) (circumstances : Circumstances)
    (unbound : TextRequest) (hown : entry.requestId = prepared.request.requestId)
    (hlookup : state.ledger.lookup prepared.request.requestId = some entry) :
    Ensures (gateway.reserve heldCalls circumstances unbound prepared)
      (fun _ state' => Unsent prepared.request.requestId entry state state' ∧
        gateway.Recognises entry unbound prepared ∧ entry.status ≠ .uncertain ∧
        ∃ identity, circumstances.identity = .ok identity)
      (fun _ state' => Unsent prepared.request.requestId entry state state' ∧
        state'.marked = state.marked) state := by
  by_cases hknown : gateway.Recognises entry unbound prepared
  · by_cases hcertain : entry.status = .uncertain
    · rcases reserveEntry_recognised circumstances hlookup hknown with
        ⟨hash, ledger, hreserved, hheld, _⟩
      unfold ModelGateway.reserve Ensures
      rw [Session.bind_apply, hreserved]
      dsimp only
      rw [if_pos hcertain]
      exact ⟨⟨rfl, _, hheld, ⟨rfl, rfl, rfl, id⟩⟩, rfl⟩
    · cases hidentity : circumstances.identity with
      | ok identity =>
        rcases reserve_recognised hown hlookup hknown hcertain hidentity with
          ⟨hash, state', hreserved, hheld, hsends, _⟩
        unfold Ensures
        rw [hreserved]
        exact ⟨⟨hsends, _, hheld, ⟨rfl, rfl, rfl, by simp [Entry.sent]⟩⟩, hknown, hcertain,
          identity, rfl⟩
      | error typeName =>
        rcases reserveEntry_recognised circumstances hlookup hknown with
          ⟨hash, ledger, hreserved, hheld, _⟩
        unfold ModelGateway.reserve Ensures
        rw [Session.bind_apply, hreserved]
        dsimp only
        rw [if_neg hcertain, hidentity]
        exact ⟨⟨rfl, _, hheld, ⟨rfl, rfl, rfl, id⟩⟩, rfl⟩
  · rcases reserveEntry_refused circumstances hlookup hknown with
      ⟨error, hrefused⟩
    unfold ModelGateway.reserve Ensures
    rw [Session.bind_apply, hrefused]
    exact ⟨⟨rfl, entry, hlookup, .refl entry⟩, rfl⟩

/-- A call on a blocked request that does not resend leaves it unsent, its status and
    evidence as they are, and marks it only if the process then stops. -/
theorem generateText_kept {call : TextCall} (hfiled : Filed state.ledger)
    (hlookup : state.ledger.lookup call.request.requestId = some entry)
    (hblocks : Blocks state.marked call.request.requestId entry)
    (hclear : ¬ gateway.Resends state call) :
    Unsent call.request.requestId entry state
        (gateway.generateText heldCalls call.circumstances call.request state).2 ∧
      ((gateway.generateText heldCalls call.circumstances call.request state).2.marked =
          state.marked ∨ call.circumstances.stop ≠ none) := by
  cases hprepared : gateway.prepared call.request state.budgetResults with
  | error error =>
    rw [generateText_unprepared hprepared]
    exact ⟨⟨rfl, entry, hlookup, .refl entry⟩, .inl rfl⟩
  | ok prepared =>
    have hid := prepared_requestId hprepared
    by_cases hadmitted :
        gateway.admissionController = true ∧ call.circumstances.admitted = false
    · rw [generateText_unadmitted hprepared hadmitted]
      exact ⟨⟨rfl, entry, hlookup, .refl entry⟩, .inl rfl⟩
    have hown : entry.requestId = prepared.request.requestId := by
      rw [hid]
      exact hfiled _ _ hlookup
    have hheld : (state.budgeted call.request prepared.budget).ledger.lookup
        prepared.request.requestId = some entry := by
      rw [hid]
      exact hlookup
    have hreserve := reserve_kept gateway call.circumstances call.request hown hheld
    rw [generateText_admitted hprepared hadmitted, Session.bind_apply]
    unfold Ensures at hreserve
    rcases hresult : gateway.reserve heldCalls call.circumstances call.request prepared
      (state.budgeted call.request prepared.budget) with ⟨outcome, state'⟩
    rw [hresult, hid] at hreserve
    cases outcome with
    | error e => exact ⟨⟨hreserve.1.sends, hreserve.1.kept⟩, .inl hreserve.2⟩
    | ok sent =>
      rcases hreserve with ⟨hunsent, hknown, hcertain, hidentity⟩
      -- What the ledger lets through is a resend, unless the process stops first.
      have hstop : call.circumstances.stop = some .beforeSend := by
        by_contra hlives
        exact hclear ⟨entry, prepared, hlookup, hblocks, hprepared, hadmitted, hknown,
          hcertain, hidentity, hlives⟩
      dsimp only
      rw [converse_stopped hstop]
      exact ⟨⟨hunsent.sends, hunsent.kept⟩, .inr (by rw [hstop]; simp)⟩

theorem generateText_resends {call : TextCall} (hfiled : Filed state.ledger)
    (hresends : gateway.Resends state call) :
    ∃ sent, (gateway.generateText heldCalls call.circumstances call.request state).2.sends =
      state.sends ++ [sent] := by
  rcases hresends with ⟨entry, prepared, hlookup, _, hprepared, hadmitted, hknown, hcertain,
    ⟨identity, hidentity⟩, hlives⟩
  have hid := prepared_requestId hprepared
  have hown : entry.requestId = prepared.request.requestId := by
    rw [hid]
    exact hfiled _ _ hlookup
  have hheld : (state.budgeted call.request prepared.budget).ledger.lookup
      prepared.request.requestId = some entry := by
    rw [hid]
    exact hlookup
  rcases reserve_recognised hown hheld hknown hcertain hidentity with
    ⟨hash, state', hreserved, _, hsends, _⟩
  rw [generateText_admitted hprepared hadmitted, Session.bind_apply, hreserved]
  refine ⟨prepared.request, ?_⟩
  dsimp only
  rw [converse_sends hlives, hsends]
  rfl

/-! ### Runs of calls -/

variable {call : TextCall}

/-- What a call leaves is what its text generation leaves, but for the memory of a process
    that stops. -/
theorem call_cases (gateway : ModelGateway) (state : GatewayState HeldCalls) (call : TextCall) :
    (gateway.call state call).ledger =
        (gateway.generateText heldCalls call.circumstances call.request state).2.ledger ∧
      (gateway.call state call).sends =
        (gateway.generateText heldCalls call.circumstances call.request state).2.sends ∧
      (gateway.call state call).marked =
        if call.circumstances.stop = none then
          (gateway.generateText heldCalls call.circumstances call.request state).2.marked
        else [] := by
  unfold ModelGateway.call
  by_cases hstop : call.circumstances.stop = none
  · rw [if_pos hstop, if_pos hstop]
    exact ⟨rfl, rfl, rfl⟩
  · rw [if_neg hstop, if_neg hstop]
    exact ⟨rfl, rfl, rfl⟩

theorem call_filed (gateway : ModelGateway) (state : GatewayState HeldCalls) (call : TextCall)
    (hfiled : Filed state.ledger) : Filed (gateway.call state call).ledger := by
  rw [(call_cases gateway state call).1]
  exact (generateText_frame gateway call.circumstances call.request hfiled).filed hfiled

/-- A blocked request stays blocked, with its status and its evidence, and is not sent, by
    any call that does not resend. -/
theorem blocked_kept (hfiled : Filed state.ledger)
    (hlookup : state.ledger.lookup requestId = some entry)
    (hblocks : Blocks state.marked requestId entry) (hclear : ¬ gateway.Resends state call) :
    (gateway.call state call).sendsOf requestId = state.sendsOf requestId ∧
      ∃ entry', (gateway.call state call).ledger.lookup requestId = some entry' ∧
        entry.Kept entry' ∧ Blocks (gateway.call state call).marked requestId entry' := by
  rcases call_cases gateway state call with ⟨hledger, hsends, hmarked⟩
  unfold GatewayState.sendsOf
  rw [hledger, hsends, hmarked]
  by_cases hown : requestId = call.request.requestId
  · subst hown
    rcases generateText_kept hfiled hlookup hblocks hclear with ⟨hunsent, hmarks⟩
    rcases hunsent.kept with ⟨entry', hheld, hkept⟩
    refine ⟨by rw [hunsent.sends], entry', hheld, hkept, ?_⟩
    rcases hblocks with hanswered | huncertain | ⟨hrequested, hmarker, hnot⟩
    · exact .inl (by rw [hkept.status]; exact hanswered)
    · exact .inr (.inl (by rw [hkept.status]; exact huncertain))
    · refine .inr (.inr ⟨by rw [hkept.status]; exact hrequested, hkept.marker hmarker, ?_⟩)
      by_cases hstop : call.circumstances.stop = none
      · rw [if_pos hstop]
        rcases hmarks with hsame | hstopped
        · rw [hsame]
          exact hnot
        · exact absurd hstop hstopped
      · rw [if_neg hstop]
        exact not_mem_nil
  · have hframe := generateText_frame gateway call.circumstances call.request hfiled
    rcases hframe.sent with ⟨new, hnew, hids⟩
    have hnone : new.filter (fun request => decide (request.requestId = requestId)) = [] := by
      rw [filter_eq_nil_iff]
      intro request hmem
      have hother : request.requestId ≠ requestId := by
        rw [hids request hmem]
        exact Ne.symm hown
      simpa using hother
    refine ⟨by rw [hnew, filter_append, hnone, append_nil], entry,
      by rw [hframe.others requestId hown, hlookup], .refl entry, ?_⟩
    rcases hblocks with hanswered | huncertain | ⟨hrequested, hmarker, hnot⟩
    · exact .inl hanswered
    · exact .inr (.inl huncertain)
    · refine .inr (.inr ⟨hrequested, hmarker, ?_⟩)
      by_cases hstop : call.circumstances.stop = none
      · rw [if_pos hstop]
        exact fun hmem => hnot (hframe.marks requestId hown hmem)
      · rw [if_neg hstop]
        exact not_mem_nil

/-- A call is safe exactly when it does not resend. -/
theorem safeCall_iff (hfiled : Filed state.ledger) :
    gateway.SafeCall state call ↔ ¬ gateway.Resends state call := by
  constructor
  · rintro ⟨hunsent, _⟩ hresends
    rcases generateText_resends hfiled hresends with ⟨sent, hsent⟩
    rcases hresends with ⟨entry, _, hlookup, hblocks, _⟩
    have hsame := hunsent ⟨entry, hlookup, hblocks⟩
    rw [(call_cases gateway state call).2.1, hsent] at hsame
    exact absurd hsame (by simp)
  · intro hclear
    constructor
    · rintro ⟨entry, hlookup, hblocks⟩
      rw [(call_cases gateway state call).2.1]
      exact (generateText_kept hfiled hlookup hblocks hclear).1.sends
    · intro requestId entry hlookup hcompleted
      rcases blocked_kept hfiled hlookup (.inl (.inl hcompleted)) hclear with
        ⟨_, entry', hheld, hkept, _⟩
      exact ⟨entry', hheld, hkept.evidence⟩

def GatewayState.initial : GatewayState HeldCalls where
  ledger := ∅
  budgetResults := ∅
  marked := []
  sends := []
  settlements := []

theorem filed_initial : Filed GatewayState.initial.ledger := by
  intro requestId entry hlookup
  exact absurd hlookup (by simp [GatewayState.initial])

/-- The calls of a run are safe exactly when none of them resends, and from where a
    request is blocked on, a run without resends never sends it again and never changes its
    status or its evidence. -/
theorem resend_free_iff (gateway : ModelGateway) (calls : List TextCall) :
    (Guarded gateway.call gateway.SafeCall .initial calls ↔
      Guarded gateway.call (fun state call => ¬ gateway.Resends state call) .initial calls) ∧
    ∀ before after, calls = before ++ after →
      Guarded gateway.call (fun state call => ¬ gateway.Resends state call) .initial calls →
      ∀ requestId entry,
        (run gateway.call .initial before).ledger.lookup requestId = some entry →
        Blocks (run gateway.call .initial before).marked requestId entry →
        (run gateway.call .initial calls).sendsOf requestId =
            (run gateway.call .initial before).sendsOf requestId ∧
          ∃ entry', (run gateway.call .initial calls).ledger.lookup requestId = some entry' ∧
            entry'.status = entry.status ∧ entry'.evidence = entry.evidence := by
  have hfiled : ∀ state call, Filed state.ledger → Filed (gateway.call state call).ledger :=
    call_filed gateway
  constructor
  · exact guarded_congr gateway.call (fun state => Filed state.ledger) hfiled
      (fun state call h => safeCall_iff h) calls .initial filed_initial
  · intro before after hcalls hguard requestId entry hlookup hblocks
    rw [hcalls, guarded_append] at hguard
    have hbefore : Filed (run gateway.call .initial before).ledger :=
      run_invariant gateway.call (fun state => Filed state.ledger) hfiled .initial filed_initial
        before
    -- From here on the entry is only changed where it is kept.
    have hrun := run_guarded gateway.call (fun state call => ¬ gateway.Resends state call)
      (fun state => Filed state.ledger ∧
        state.sendsOf requestId = (run gateway.call .initial before).sendsOf requestId ∧
        ∃ entry', state.ledger.lookup requestId = some entry' ∧ entry.Kept entry' ∧
          Blocks state.marked requestId entry')
      (fun state call hinv hclear => by
        rcases hinv with ⟨hheld, hsends, entry', hlookup', hkept, hblocks'⟩
        rcases blocked_kept hheld hlookup' hblocks' hclear with
          ⟨hsends', entry'', hlookup'', hkept', hblocks''⟩
        exact ⟨hfiled state call hheld, hsends'.trans hsends, entry'', hlookup'',
          hkept.trans hkept', hblocks''⟩)
      after _ hguard.2 ⟨hbefore, rfl, entry, hlookup, .refl entry, hblocks⟩
    rw [hcalls, run_append]
    rcases hrun with ⟨_, hsends, entry', hheld, hkept, _⟩
    exact ⟨hsends, entry', hheld, hkept.status, hkept.evidence⟩

/-! ### A request sent twice -/

/-- The entry of a new request that was marked as sent. -/
def ModelGateway.marked (gateway : ModelGateway) (circumstances : Circumstances)
    (prepared : Prepared) (identity : Option String) : Entry :=
  (gateway.fresh circumstances prepared).sent identity circumstances.sentAt

theorem reserve_new (gateway : ModelGateway) (circumstances : Circumstances)
    (unbound : TextRequest) (hlookup : state.ledger.lookup prepared.request.requestId = none)
    (hidentity : circumstances.identity = .ok identity) :
    ∃ state', gateway.reserve heldCalls circumstances unbound prepared state =
        (.ok (gateway.marked circumstances prepared identity), state') ∧
      state'.ledger.lookup prepared.request.requestId =
        some (gateway.marked circumstances prepared identity) ∧
      state'.sends = state.sends ∧ state'.budgetResults = state.budgetResults := by
  have hput := put_sent { state with
      ledger := state.ledger.insert prepared.request.requestId
        (gateway.fresh circumstances prepared) }
    (gateway.fresh circumstances prepared) rfl (AList.lookup_insert _) identity
    circumstances.sentAt
  unfold ModelGateway.reserve
  rw [Session.bind_apply, reserveEntry_new gateway circumstances unbound hlookup]
  dsimp only
  rw [if_neg (by simp [ModelGateway.fresh, requestedEntry]), hidentity]
  change ∃ state', (heldCalls.put _ >>= _ : Session (GatewayState HeldCalls) GatewayError Entry) _ =
    _ ∧ _
  rw [Session.bind_apply, hput]
  exact ⟨_, rfl, AList.lookup_insert _, rfl, rfl⟩

/-- The first call of a request whose result comes back and is retained is settled as
    completed, and the ledger recognises the request from then on. -/
theorem call_completes {result : ProviderModelResult} {record : ModelCallRecord}
    {rawArtifactRef : Option ArtifactRef}
    (hlookup : state.ledger.lookup call.request.requestId = none)
    (hprepared : gateway.prepared call.request state.budgetResults = .ok prepared)
    (hadmitted : ¬ (gateway.admissionController = true ∧ call.circumstances.admitted = false))
    (hidentity : call.circumstances.identity = .ok identity)
    (hstop : call.circumstances.stop = none)
    (houtcome : call.circumstances.outcome = .result result)
    (hrecord : ModelCallRecord.validate (callFields prepared result.modelVersion result.usage
      call.circumstances.latencyMs (.aware call.circumstances.requestedAt)
      call.circumstances.completedAt) = some record)
    (hretained : gateway.persistRawResponse call.circumstances prepared = some rawArtifactRef) :
    ∃ entry, (gateway.call state call).ledger.lookup call.request.requestId = some entry ∧
      entry.status = .completed ∧ identityError entry (gateway.ledgerRequest prepared.request)
        prepared.budget prepared.endpoint.reasoningIncludedInCompletionTokens = none := by
  have hid := prepared_requestId hprepared
  have hheld : (state.budgeted call.request prepared.budget).ledger.lookup
      prepared.request.requestId = none := by
    rw [hid]
    exact hlookup
  rcases reserve_new gateway call.circumstances call.request hheld hidentity with
    ⟨state', hreserved, hmarked, _⟩
  let sent := gateway.marked call.circumstances prepared identity
  let settled := sent.answered .completed (result.providerRequestId.or sent.providerRequestId)
    result.text rawArtifactRef record sent.transportErrorType call.circumstances.completedAt
  have hguard : settlementError sent settled = none := by
    simp [settlementError, settled, Entry.answered, sent, ModelGateway.marked, Entry.sent,
      ModelGateway.fresh, requestedEntry]
  have hsettled : heldCalls.settle settled state'.ledger =
      .ok (settled, state'.ledger.insert prepared.request.requestId settled) := by
    have hmarked' : state'.ledger.lookup settled.requestId = some sent := hmarked
    simp only [heldCalls, hmarked', hguard]
    rfl
  refine ⟨settled, ?_, rfl, ?_⟩
  · rw [(call_cases gateway state call).1, generateText_admitted hprepared hadmitted,
      Session.bind_apply, hreserved]
    dsimp only
    rw [converse_completes hstop houtcome hrecord hretained hsettled, ← hid]
    exact AList.lookup_insert _
  · simp [identityError, settled, Entry.answered, sent, ModelGateway.marked, Entry.sent,
      ModelGateway.fresh, requestedEntry]

theorem prepared_unbound (gateway : ModelGateway) {request : TextRequest}
    (h : request.budgetSource = none) (budgetResults : Table StableId EffectiveBudgetResult) :
    gateway.prepared request budgetResults = gateway.prepared request ∅ := by
  unfold ModelGateway.prepared ModelGateway.boundBudget
  rw [h]
  rfl

namespace Sample

def endpoint : RegisteredModelEndpoint where
  role := .implementation
  endpointName := "local"
  modelName := "writer"
  adapter := ⟨false, none, none, none⟩
  sequenceLimit := 1000
  outputLimit := none
  safetyAllowanceTokens := none
  estimatedReasoningReserve := 0
  defaultThinking := false
  reasoningIncludedInCompletionTokens := false
  globalOutputCap := 1000

def localGateway : ModelGateway where
  endpoints := [endpoint]
  forbidExternalCalls := false
  structuredMaxRetries := 0
  rawArtifacts := false
  admissionController := false
  budgetProfile := .canary
  requestJson request := request.prompt
  roles := by simp
  retries := by decide

def textRequest : TextRequest where
  requestId := ⟨"q", .refl true⟩
  runId := ⟨"r", .refl true⟩
  taskId := ⟨"t", .refl true⟩
  attemptId := none
  modelRole := .implementation
  purpose := .development
  traceId := "trace"
  spanId := none
  prompt := "Write."
  responseSchema := none
  maxOutputTokens := none
  enableThinking := none
  thinkingTokenBudget := none
  schedulingStage := none
  budgetSource := none
  others := .null

def usage : ModelUsage where
  inputTokens := 2
  outputTokens := 2
  reasoningTokens := 0
  costUsd := 0
  costAvailability := .unknown
  nonneg := free_nonneg

def providerAnswer : ProviderModelResult where
  text := "Done."
  modelVersion := "1"
  usage := usage
  providerRequestId := none
  versioned := by decide
  named := by decide

def smooth : Circumstances where
  admitted := true
  requestedAt := 0
  identity := .ok none
  sentAt := 1
  outcome := .result providerAnswer
  latencyMs := 1
  completedAt := 2
  retained := none
  stop := none

def textCall : TextCall := ⟨textRequest, smooth⟩

theorem prepared_textRequest : ∃ budget,
    localGateway.prepared textRequest ∅ = .ok ⟨textRequest.bound budget, budget, endpoint⟩ := by
  have hok : (localGateway.boundBudget textRequest endpoint ∅).isOk = true := by decide +kernel
  cases hbound : localGateway.boundBudget textRequest endpoint ∅ with
  | error error =>
    rw [hbound] at hok
    exact absurd hok Bool.false_ne_true
  | ok bound =>
    have hprepared : localGateway.prepared textRequest ∅ = .ok ⟨bound.1, bound.2, endpoint⟩ := by
      change (localGateway.boundBudget textRequest endpoint ∅ >>= fun bound =>
        pure (Prepared.mk bound.1 bound.2 endpoint)) = _
      rw [hbound]
      rfl
    have hrequest : bound.1 = textRequest.bound bound.2 := by
      rcases (bind_eq_ok _ _ _).mp hbound with ⟨limits, _, hresolved⟩
      rcases (bind_eq_ok _ _ _).mp hresolved with ⟨budget, _, hpure⟩
      rw [pure_eq_ok] at hpure
      rw [← hpure]
    exact ⟨bound.2, by rw [hprepared, hrequest]⟩

end Sample

open Sample

/-- The same request sent twice: its first call completes, and the second sends it again. -/
theorem resends_completed :
    ¬ ∀ (gateway : ModelGateway) (calls : List TextCall),
      Guarded gateway.call gateway.SafeCall .initial calls := by
  intro hsafe
  have hguard := hsafe localGateway [textCall, textCall]
  rcases prepared_textRequest with ⟨budget, hprepared⟩
  have hadmitted : ¬ (localGateway.admissionController = true ∧
      textCall.circumstances.admitted = false) := by decide
  have hvalid : (callFields ⟨textRequest.bound budget, budget, endpoint⟩
      providerAnswer.modelVersion providerAnswer.usage 1 (.aware 0) 2).Valid := by
    simp [CallFields.Valid, callFields, TextRequest.bound, textRequest, endpoint,
      providerAnswer]
  have hempty : GatewayState.initial.ledger.lookup textCall.request.requestId = none := rfl
  rcases call_completes hempty hprepared hadmitted rfl rfl rfl
    (dif_pos hvalid) rfl with ⟨entry, hlookup, hcompleted, hidentity⟩
  have hagain : localGateway.prepared textCall.request
      (localGateway.call .initial textCall).budgetResults = _ :=
    (prepared_unbound _ rfl _).trans hprepared
  -- Nothing but uncertainty stops the second call, and the entry is completed.
  refine (safeCall_iff (call_filed _ _ _ filed_initial)).mp hguard.2.1 ⟨entry, _, hlookup,
    .inl (.inl hcompleted), hagain, hadmitted, .inl hidentity, ?_, ⟨none, rfl⟩, by decide⟩
  rw [hcompleted]
  decide

end NovelAgent.ModelCalls
