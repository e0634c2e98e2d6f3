import NovelAgent.Admission.EventLoop

/-!
# No Lease Is Lost

Which runs of the event loop give every lease back.
-/

namespace NovelAgent.Admission

open Core AdmissionController List

/-! ### What a turn keeps -/

/-- A call has a lease that is yet to be given back. -/
@[grind]
def Owns (mine : List CallbackKind) (call : LeaseCall) : Prop :=
  call.thread = .admitted ∨ .settleResult ∈ mine ∨
    (call.completed = .result ∧ call.task = .awaiting) ∨ call.task = .holding

/-- The call goes on before the callback of a lease runs. -/
@[grind]
def WokenFirst : List CallbackKind → Prop
  | [] => False
  | .wakeup :: _ => True
  | .settleResult :: _ => False
  | .settleError :: rest => WokenFirst rest
  | .innerDone :: rest => WokenFirst rest

@[grind ←]
theorem WokenFirst.append {mine : List CallbackKind} (h : WokenFirst mine)
    (more : List CallbackKind) : WokenFirst (mine ++ more) := by
  induction mine with
  | nil => exact absurd h id
  | cons kind rest ih =>
    cases kind with
    | settleResult => exact absurd h id
    | settleError => exact ih h
    | innerDone => exact ih h
    | wakeup => trivial

theorem wokenFirst_wakeup {mine : List CallbackKind} (h : .settleResult ∉ mine) :
    WokenFirst (mine ++ [.wakeup]) := by
  induction mine with
  | nil => trivial
  | cons kind rest ih =>
    have hrest := ih fun hmem => h (mem_cons_of_mem _ hmem)
    cases kind with
    | settleResult => exact absurd (mem_cons_self ..) h
    | settleError => exact hrest
    | innerDone => exact hrest
    | wakeup => trivial

/-- How the thread, the futures and the callbacks of a call go together. -/
@[grind]
structure CallKept (mine : List CallbackKind) (call : LeaseCall) : Prop where
  owned : Owns mine call → call.granted = 1 ∧ call.released = 0
  settled : ¬ Owns mine call → call.granted = call.released ∧ call.granted ≤ 1
  unposted : call.thread ≠ .posted → .settleResult ∉ mine ∧ .settleError ∉ mine
  ungranted : call.thread ≠ .posted → call.thread ≠ .admitted → call.granted = 0
  unsettled : call.thread ≠ .posted ∨ .settleResult ∈ mine →
    call.completed = .pending ∨ call.completed = .cancelled
  once : mine.count .settleResult ≤ 1
  apart : .settleError ∈ mine → .settleResult ∉ mine
  inner : .innerDone ∈ mine → call.completed ≠ .pending
  shielded : call.outer = .pending → call.task = .awaiting ∧ call.mustCancel = false
  woken : .wakeup ∈ mine → call.outer ≠ .pending
  result : call.outer = .result → call.completed = .result
  exception : call.outer = .exception → call.completed = .exception
  gone : call.task ≠ .awaiting → call.completed ≠ .pending
  holds : call.task = .holding → call.completed = .result
  doomed : call.task = .awaiting → call.mustCancel = true ∨ call.outer = .cancelled →
    call.completed ≠ .result
  order : call.task = .awaiting → call.outer = .cancelled → WokenFirst mine
  cancelled : call.completed = .cancelled → call.task = .ended

/-- The reservations are those of the calls that own a lease. -/
structure LeaseInv (config : AdmissionConfig) (s : LoopState) : Prop where
  accounted : Accounted config s.controller
  attended : Attended s.controller
  kept : ∀ id call, s.calls.lookup id = some call → CallKept (s.mine id) call
  unknown : ∀ id, s.calls.lookup id = none → s.mine id = []
  reserved : ∀ id call, s.calls.lookup id = some call → Owns (s.mine id) call →
    call.info ∈ s.controller.active
  owners : ∀ info ∈ s.controller.active,
    ∃ id call, s.calls.lookup id = some call ∧ Owns (s.mine id) call ∧ call.info = info
  alone : ∀ id call id' call', s.calls.lookup id = some call → s.calls.lookup id' = some call' →
    Owns (s.mine id) call → Owns (s.mine id') call' →
      call.info.requestId = call'.info.requestId → id = id'
  asleep : ∀ waiter ∈ s.controller.waiters, ∃ id call, s.calls.lookup id = some call ∧
    call.thread = .waiting waiter.entry.sequence ∧ call.info = waiter.entry.info
  numbers : ∀ id call number, s.calls.lookup id = some call → call.thread = .waiting number →
    number < s.controller.sequence
  distinct : ∀ id call id' call' number, s.calls.lookup id = some call →
    s.calls.lookup id' = some call' → call.thread = .waiting number →
      call'.thread = .waiting number → id = id'

theorem mine_callSoon_self (s : LoopState) (id : Nat) (kind : CallbackKind) :
    (s.callSoon id kind).mine id = s.mine id ++ [kind] := by
  simp [LoopState.mine, LoopState.callSoon]

theorem mine_callSoon_other (s : LoopState) {id other : Nat} (h : other ≠ id)
    (kind : CallbackKind) : (s.callSoon id kind).mine other = s.mine other := by
  simp [LoopState.mine, LoopState.callSoon, Ne.symm h]

section

variable {config : AdmissionConfig} {s s' : LoopState} {id : Nat} {call call' : LeaseCall}

/-- The other calls and their callbacks are as they were. -/
structure Beside (s s' : LoopState) (id : Nat) : Prop where
  others : ∀ other, other ≠ id → s'.calls.lookup other = s.calls.lookup other
  mine : ∀ other, other ≠ id → s'.mine other = s.mine other

/-- One call changes and no other. -/
structure Changes (s s' : LoopState) (id : Nat) (call' : LeaseCall) : Prop
    extends Beside s s' id where
  self : s'.calls.lookup id = some call'

theorem changes_put {s s' : LoopState} {id : Nat} {call' : LeaseCall} (h : Beside s s' id) :
    Changes s (s'.put id call') id call' where
  others := fun other hne => (AList.lookup_insert_ne hne).trans (h.others other hne)
  mine := h.mine
  self := AList.lookup_insert _

theorem Changes.callSoon {s s' : LoopState} {id : Nat} {call' : LeaseCall}
    (h : Changes s s' id call') (kind : CallbackKind) :
    Changes s (s'.callSoon id kind) id call' where
  others := h.others
  mine := fun other hne => (mine_callSoon_other s' hne kind).trans (h.mine other hne)
  self := h.self

/-- What has to be checked when one call changes. -/
structure Moves (config : AdmissionConfig) (s s' : LoopState) (id : Nat) (call call' : LeaseCall) :
    Prop where
  changes : Changes s s' id call'
  info : call'.info = call.info
  accounted : Accounted config s'.controller
  attended : Attended s'.controller
  kept : CallKept (s'.mine id) call'
  active : ∀ info, info ∈ s'.controller.active ↔ (Owns (s'.mine id) call' ∧ info = call.info) ∨
    ∃ other call₂, other ≠ id ∧ s.calls.lookup other = some call₂ ∧ Owns (s.mine other) call₂ ∧
      call₂.info = info
  alone : Owns (s'.mine id) call' → ∀ other call₂, other ≠ id → s.calls.lookup other = some call₂ →
    Owns (s.mine other) call₂ → call₂.info.requestId ≠ call.info.requestId
  asleep : ∀ waiter ∈ s'.controller.waiters,
    (call'.thread = .waiting waiter.entry.sequence ∧ call.info = waiter.entry.info) ∨
      ∃ old ∈ s.controller.waiters, old.entry = waiter.entry ∧
        call.thread ≠ .waiting old.entry.sequence
  grows : s.controller.sequence ≤ s'.controller.sequence
  number : ∀ number, call'.thread = .waiting number → number < s'.controller.sequence ∧
    ∀ other call₂, other ≠ id → s.calls.lookup other = some call₂ →
      call₂.thread ≠ .waiting number

/-- A checked change keeps the invariant. -/
theorem LeaseInv.move (h : LeaseInv config s) (hcall : s.calls.lookup id = some call)
    (hmove : Moves config s s' id call call') : LeaseInv config s' := by
  have hself := hmove.changes.self
  have hother := hmove.changes.others
  -- Every call is the one that moved, or was there before with the same callbacks.
  have hcases : ∀ other call₂, s'.calls.lookup other = some call₂ →
      (other = id ∧ call₂ = call') ∨
        (other ≠ id ∧ s.calls.lookup other = some call₂ ∧ s'.mine other = s.mine other) := by
    intro other call₂ hlookup
    by_cases hsame : other = id
    · subst hsame
      exact .inl ⟨rfl, Option.some.inj (hlookup.symm.trans hself)⟩
    · exact .inr ⟨hsame, (hother other hsame).symm.trans hlookup, hmove.changes.mine other hsame⟩
  refine
    { accounted := hmove.accounted
      attended := hmove.attended
      kept := ?_, unknown := ?_, reserved := ?_, owners := ?_, alone := ?_, asleep := ?_
      numbers := ?_, distinct := ?_ }
  · intro other call₂ hlookup
    rcases hcases other call₂ hlookup with ⟨rfl, rfl⟩ | ⟨_, hbefore, hmine⟩
    · exact hmove.kept
    · rw [hmine]
      exact h.kept other call₂ hbefore
  · intro other hlookup
    by_cases hsame : other = id
    · subst hsame
      exact absurd (hself.symm.trans hlookup) (by simp)
    · rw [hmove.changes.mine other hsame]
      exact h.unknown other ((hother other hsame).symm.trans hlookup)
  · intro other call₂ hlookup howns
    rw [hmove.active]
    rcases hcases other call₂ hlookup with ⟨rfl, rfl⟩ | ⟨hne, hbefore, hmine⟩
    · exact .inl ⟨howns, hmove.info⟩
    · rw [hmine] at howns
      exact .inr ⟨other, call₂, hne, hbefore, howns, rfl⟩
  · intro info hinfo
    rcases (hmove.active info).mp hinfo with ⟨howns, rfl⟩ | ⟨other, call₂, hne, hbefore, howns, rfl⟩
    · exact ⟨id, call', hself, howns, hmove.info⟩
    · exact ⟨other, call₂, (hother other hne).trans hbefore, by rw [hmove.changes.mine other hne]; exact howns,
        rfl⟩
  · intro other call₂ other' call₂' hlookup hlookup' howns howns' hid
    rcases hcases other call₂ hlookup with ⟨rfl, rfl⟩ | ⟨hne, hbefore, hmine⟩
    · rcases hcases other' call₂' hlookup' with ⟨rfl, rfl⟩ | ⟨hne', hbefore', hmine'⟩
      · rfl
      · rw [hmine'] at howns'
        rw [hmove.info] at hid
        exact absurd hid.symm (hmove.alone howns other' call₂' hne' hbefore' howns')
    · rw [hmine] at howns
      rcases hcases other' call₂' hlookup' with ⟨rfl, rfl⟩ | ⟨_, hbefore', hmine'⟩
      · rw [hmove.info] at hid
        exact absurd hid (hmove.alone howns' other call₂ hne hbefore howns)
      · rw [hmine'] at howns'
        exact h.alone other call₂ other' call₂' hbefore hbefore' howns howns' hid
  · intro waiter hwaiter
    rcases hmove.asleep waiter hwaiter with ⟨hthread, hinfo⟩ | ⟨old, hold, hentry, hne⟩
    · exact ⟨id, call', hself, hthread, hmove.info.trans hinfo⟩
    · rcases h.asleep old hold with ⟨other, call₂, hbefore, hthread, hinfo⟩
      have hother' : other ≠ id := by
        rintro rfl
        rw [Option.some.inj (hcall.symm.trans hbefore)] at hne
        exact hne hthread
      rw [hentry] at hthread hinfo
      exact ⟨other, call₂, (hother other hother').trans hbefore, hthread, hinfo⟩
  · intro other call₂ number hlookup hthread
    rcases hcases other call₂ hlookup with ⟨rfl, rfl⟩ | ⟨_, hbefore, _⟩
    · exact (hmove.number number hthread).1
    · exact lt_of_lt_of_le (h.numbers other call₂ number hbefore hthread) hmove.grows
  · intro other call₂ other' call₂' number hlookup hlookup' hthread hthread'
    rcases hcases other call₂ hlookup with ⟨rfl, rfl⟩ | ⟨hne, hbefore, _⟩
    · rcases hcases other' call₂' hlookup' with ⟨rfl, rfl⟩ | ⟨hne', hbefore', _⟩
      · rfl
      · exact absurd hthread' ((hmove.number number hthread).2 other' call₂' hne' hbefore')
    · rcases hcases other' call₂' hlookup' with ⟨rfl, rfl⟩ | ⟨_, hbefore', _⟩
      · exact absurd hthread ((hmove.number number hthread').2 other call₂ hne hbefore)
      · exact h.distinct other call₂ other' call₂' number hbefore hbefore' hthread hthread'

/-! ### Steps of a call -/

section

variable {mine rest : List CallbackKind} {call : LeaseCall}

theorem kept_new (info : ModelRequestSchedulingInfo) : CallKept [] (.new info) := by
  constructor <;> simp [Owns, LeaseCall.new]

section

variable (h : CallKept mine call)

include h

theorem kept_admitted (hposted : call.thread ≠ .posted) (hadmitted : call.thread ≠ .admitted) :
    CallKept mine { call with thread := .admitted, granted := call.granted + 1 } := by
  have hnothing := h.unposted hposted
  have hnone := h.ungranted hposted hadmitted
  have hopen := h.unsettled (.inl hposted)
  constructor <;> grind

theorem kept_thread (hposted : call.thread ≠ .posted) (hadmitted : call.thread ≠ .admitted)
    {thread : ThreadPhase} (hadmitted' : thread ≠ .admitted) :
    CallKept mine { call with thread } := by
  have hnothing := h.unposted hposted
  have hnone := h.ungranted hposted hadmitted
  have hopen := h.unsettled (.inl hposted)
  constructor <;> grind

theorem kept_postLease (hadmitted : call.thread = .admitted) :
    CallKept (mine ++ [.settleResult]) { call with thread := .posted } := by
  have hposted : call.thread ≠ .posted := by rw [hadmitted]; decide
  have hnothing := h.unposted hposted
  have hopen := h.unsettled (.inl hposted)
  have howned := h.owned (.inl hadmitted)
  constructor <;> grind

theorem kept_postError (hrefused : call.thread = .refused) :
    CallKept (mine ++ [.settleError]) { call with thread := .posted } := by
  have hposted : call.thread ≠ .posted := by rw [hrefused]; decide
  have hadmitted : call.thread ≠ .admitted := by rw [hrefused]; decide
  have hnothing := h.unposted hposted
  have hopen := h.unsettled (.inl hposted)
  have hnone := h.ungranted hposted hadmitted
  constructor <;> grind

theorem kept_cancel (htask : call.task = .awaiting) (houter : call.outer = .pending)
    (hclear : .settleResult ∉ mine ∧ call.completed ≠ .result) :
    CallKept (mine ++ [.wakeup]) { call with outer := .cancelled } := by
  have hfirst := wokenFirst_wakeup hclear.1
  constructor <;> grind

theorem kept_mustCancel (htask : call.task = .awaiting) (houter : call.outer ≠ .pending)
    (hclear : call.outer = .cancelled ∨ call.completed ≠ .result) :
    CallKept mine { call with mustCancel := true } := by
  constructor <;> grind

end

theorem kept_returned (h : CallKept (.settleResult :: rest) call)
    (hcancelled : call.completed = .cancelled) :
    CallKept rest { call with released := call.released + 1 } := by
  have howned := h.owned (.inr (.inl (mem_cons_self ..)))
  have honce := h.once
  have hposted : call.thread = .posted := by
    by_contra hposted
    exact (h.unposted hposted).1 (mem_cons_self ..)
  have hended := h.cancelled hcancelled
  have hlast : .settleResult ∉ rest := by
    rw [count_cons_self] at honce
    exact count_eq_zero.mp (by omega)
  constructor <;> grind

theorem kept_settleResult (h : CallKept (.settleResult :: rest) call)
    (hpending : call.completed = .pending) :
    CallKept (rest ++ [.innerDone]) { call with completed := .result } := by
  have howned := h.owned (.inr (.inl (mem_cons_self ..)))
  have honce := h.once
  have hposted : call.thread = .posted := by
    by_contra hposted
    exact (h.unposted hposted).1 (mem_cons_self ..)
  have hlast : .settleResult ∉ rest := by
    rw [count_cons_self] at honce
    exact count_eq_zero.mp (by omega)
  have hawaits : call.task = .awaiting := by
    by_contra htask
    exact h.gone htask hpending
  -- The call would have gone on before this callback, had it been cancelled.
  have hcertain : call.outer ≠ .cancelled := by
    intro houter
    exact absurd (h.order hawaits houter) id
  have houter : call.outer = .pending := by
    cases houter : call.outer with
    | pending => rfl
    | result => exact absurd (h.result houter) (by rw [hpending]; decide)
    | exception => exact absurd (h.exception houter) (by rw [hpending]; decide)
    | cancelled => exact absurd houter hcertain
  have hshielded := h.shielded houter
  constructor <;> grind

theorem kept_settleError (h : CallKept (.settleError :: rest) call)
    (hpending : call.completed = .pending) :
    CallKept (rest ++ [.innerDone]) { call with completed := .exception } := by
  have hposted : call.thread = .posted := by
    by_contra hposted
    exact (h.unposted hposted).2 (mem_cons_self ..)
  have hapart := h.apart (mem_cons_self ..)
  constructor <;> grind

theorem kept_drop {kind : CallbackKind} (h : CallKept (kind :: rest) call)
    (hkind : kind ≠ .settleResult) (hwakeup : kind = .wakeup → call.task ≠ .awaiting) :
    CallKept rest call := by
  have hmem : .settleResult ∈ kind :: rest ↔ .settleResult ∈ rest := by
    simp [Ne.symm hkind]
  have horder : call.task = .awaiting → call.outer = .cancelled → WokenFirst rest := by
    intro htask houter
    have hfirst := h.order htask houter
    cases kind with
    | settleResult => exact absurd rfl hkind
    | settleError => exact hfirst
    | innerDone => exact hfirst
    | wakeup => exact absurd htask (hwakeup rfl)
  constructor <;> grind

theorem kept_innerDone (h : CallKept (.innerDone :: rest) call) (houter : call.outer = .pending) :
    CallKept (rest ++ [.wakeup]) { call with outer := call.completed } := by
  have hshielded := h.shielded houter
  have hdone := h.inner (mem_cons_self ..)
  have hlive : call.completed ≠ .cancelled := by
    intro hcancelled
    rw [h.cancelled hcancelled] at hshielded
    exact absurd hshielded.1 (by decide)
  constructor <;> grind

section

variable (h : CallKept (.wakeup :: rest) call) (htask : call.task = .awaiting)

include h htask

theorem kept_abandonPending (hdoomed : call.mustCancel = true ∨ call.outer = .cancelled)
    (hpending : call.completed = .pending) :
    CallKept (rest ++ [.innerDone]) { call with completed := .cancelled, task := .ended } := by
  constructor <;> grind

theorem kept_abandonDone (hdoomed : call.mustCancel = true ∨ call.outer = .cancelled)
    (hdone : call.completed ≠ .pending) : CallKept rest { call with task := .ended } := by
  have hnone := h.doomed htask hdoomed
  constructor <;> grind

theorem kept_raise (houter : call.outer = .exception) :
    CallKept rest { call with task := .ended } := by
  have hexception := h.exception houter
  constructor <;> grind

theorem kept_hold (hresult : call.completed = .result) (houter : call.outer = .result) :
    CallKept rest { call with task := .holding } := by
  have howned := h.owned (.inr (.inr (.inl ⟨hresult, htask⟩)))
  constructor <;> grind

theorem kept_ledgerFails (hresult : call.completed = .result) (houter : call.outer = .result) :
    CallKept rest { call with task := .ended, released := call.released + 1 } := by
  have howned := h.owned (.inr (.inr (.inl ⟨hresult, htask⟩)))
  constructor <;> grind

end

theorem kept_finish (h : CallKept mine call) (htask : call.task = .holding) :
    CallKept mine { call with task := .ended, released := call.released + 1 } := by
  have howned := h.owned (.inr (.inr (.inr htask)))
  have hresult := h.holds htask
  constructor <;> grind

end

/-! ### One call moves -/

section

variable (h : LeaseInv config s) (hcall : s.calls.lookup id = some call)

include h hcall

theorem LeaseInv.active_iff (info : ModelRequestSchedulingInfo) :
    info ∈ s.controller.active ↔ (Owns (s.mine id) call ∧ info = call.info) ∨
      ∃ other call₂, other ≠ id ∧ s.calls.lookup other = some call₂ ∧ Owns (s.mine other) call₂ ∧
        call₂.info = info := by
  constructor
  · intro hinfo
    rcases h.owners info hinfo with ⟨other, call₂, hlookup, howns, rfl⟩
    by_cases hsame : other = id
    · subst hsame
      rw [Option.some.inj (hcall.symm.trans hlookup)]
      exact .inl ⟨howns, rfl⟩
    · exact .inr ⟨other, call₂, hsame, hlookup, howns, rfl⟩
  · rintro (⟨howns, rfl⟩ | ⟨other, call₂, _, hlookup, howns, rfl⟩)
    · exact h.reserved id call hcall howns
    · exact h.reserved other call₂ hlookup howns

variable {controller : AdmissionController}

theorem LeaseInv.asleep_same
    (hwaiters : ∀ waiter ∈ controller.waiters, ∃ old ∈ s.controller.waiters,
      old.entry = waiter.entry)
    (hthread : ∀ number, call'.thread = .waiting number ↔ call.thread = .waiting number) :
    ∀ waiter ∈ controller.waiters,
      (call'.thread = .waiting waiter.entry.sequence ∧ call.info = waiter.entry.info) ∨
        ∃ old ∈ s.controller.waiters, old.entry = waiter.entry ∧
          call.thread ≠ .waiting old.entry.sequence := by
  intro waiter hwaiter
  rcases hwaiters waiter hwaiter with ⟨old, hold, hentry⟩
  by_cases hown : call.thread = .waiting old.entry.sequence
  · rcases h.asleep old hold with ⟨other, call₂, hlookup, hsleeps, hslept⟩
    have hsame := h.distinct other call₂ id call _ hlookup hcall hsleeps hown
    subst hsame
    rw [Option.some.inj (hcall.symm.trans hlookup), ← hentry]
    exact .inl ⟨(hthread _).mpr hown, hslept⟩
  · exact .inr ⟨old, hold, hentry, hown⟩

theorem LeaseInv.number_same (hsequence : controller.sequence = s.controller.sequence)
    (hthread : ∀ number, call'.thread = .waiting number ↔ call.thread = .waiting number) :
    ∀ number, call'.thread = .waiting number → number < controller.sequence ∧
      ∀ other call₂, other ≠ id → s.calls.lookup other = some call₂ →
        call₂.thread ≠ .waiting number := by
  intro number hnumber
  have hbefore := (hthread number).mp hnumber
  refine ⟨by rw [hsequence]; exact h.numbers id call number hcall hbefore, ?_⟩
  intro other call₂ hne hlookup hother
  exact hne (h.distinct other call₂ id call number hlookup hcall hother hbefore)

theorem LeaseInv.still (hchanges : Changes s s' id call')
    (haccounted : Accounted config s'.controller) (hattended : Attended s'.controller)
    (hactive : s'.controller.active = s.controller.active)
    (hwaiters : ∀ waiter ∈ s'.controller.waiters, ∃ old ∈ s.controller.waiters,
      old.entry = waiter.entry) (hsequence : s'.controller.sequence = s.controller.sequence)
    (hinfo : call'.info = call.info) (howns : Owns (s'.mine id) call' ↔ Owns (s.mine id) call)
    (hthread : ∀ number, call'.thread = .waiting number ↔ call.thread = .waiting number)
    (hkept : CallKept (s'.mine id) call') : LeaseInv config s' := by
  refine h.move hcall
    { changes := hchanges, info := hinfo, accounted := haccounted
      attended := hattended, kept := hkept, active := ?_, alone := ?_
      asleep := h.asleep_same hcall hwaiters hthread, grows := le_of_eq hsequence.symm
      number := h.number_same hcall hsequence hthread }
  · intro info
    rw [hactive, howns]
    exact h.active_iff hcall info
  · intro howns' other call₂ hne hlookup hother hid
    exact hne (h.alone other call₂ id call hlookup hcall hother (howns.mp howns') hid)

end

theorem mem_eraseP_id {active : List ModelRequestSchedulingInfo}
    (hnodup : (active.map (·.requestId)).Nodup) (requestId : String)
    (info : ModelRequestSchedulingInfo) :
    info ∈ active.eraseP (fun other => other.requestId = requestId) ↔
      info ∈ active ∧ info.requestId ≠ requestId := by
  induction active with
  | nil => simp
  | cons first rest ih =>
    rw [map_cons, nodup_cons] at hnodup
    by_cases hfirst : first.requestId = requestId
    · rw [eraseP_cons_of_pos (by simpa using hfirst), mem_cons]
      constructor
      · intro hmem
        refine ⟨.inr hmem, fun hid => hnodup.1 ?_⟩
        rw [hfirst, ← hid]
        exact mem_map_of_mem hmem
      · rintro ⟨rfl | hmem, hne⟩
        · exact absurd hfirst hne
        · exact hmem
    · rw [eraseP_cons_of_neg (by simpa using hfirst), mem_cons, mem_cons,
        ih hnodup.2]
      constructor
      · rintro (rfl | ⟨hmem, hne⟩)
        · exact ⟨.inl rfl, hfirst⟩
        · exact ⟨.inr hmem, hne⟩
      · rintro ⟨rfl | hmem, hne⟩
        · exact .inl rfl
        · exact .inr ⟨hmem, hne⟩

theorem mem_released (h : Accounted config controller) {given : ModelRequestSchedulingInfo}
    (hgiven : given ∈ controller.active) (info : ModelRequestSchedulingInfo) :
    info ∈ (controller.releaseReservation given.requestId).2.active ↔
      info ∈ controller.active ∧ info.requestId ≠ given.requestId := by
  unfold AdmissionController.releaseReservation
  cases hfind : controller.active.find? fun other => other.requestId = given.requestId with
  | none => exact absurd (List.find?_eq_none.mp hfind given hgiven) (by simp)
  | some found =>
    dsimp only
    rw [if_neg (h.no_underflow hfind)]
    exact mem_eraseP_id h.activeIds given.requestId info

theorem release_frame (controller : AdmissionController) (requestId : String) :
    (controller.releaseReservation requestId).2.sequence = controller.sequence ∧
      ∀ waiter ∈ (controller.releaseReservation requestId).2.waiters,
        ∃ old ∈ controller.waiters, old.entry = waiter.entry := by
  unfold AdmissionController.releaseReservation
  cases controller.active.find? fun info => info.requestId = requestId with
  | none => exact ⟨rfl, fun waiter hwaiter => ⟨waiter, hwaiter, rfl⟩⟩
  | some info =>
    dsimp only
    split
    · exact ⟨rfl, fun waiter hwaiter => ⟨waiter, hwaiter, rfl⟩⟩
    · refine ⟨rfl, fun waiter hwaiter => ?_⟩
      rcases mem_map.mp hwaiter with ⟨old, hold, rfl⟩
      exact ⟨old, hold, rfl⟩

theorem LeaseInv.releases (h : LeaseInv config s) (hcall : s.calls.lookup id = some call)
    (hchanges : Changes s s' id call')
    (hcontroller : s'.controller = (s.controller.releaseReservation call.info.requestId).2)
    (hinfo : call'.info = call.info) (howns : Owns (s.mine id) call)
    (hgone : ¬ Owns (s'.mine id) call')
    (hthread : ∀ number, call'.thread = .waiting number ↔ call.thread = .waiting number)
    (hkept : CallKept (s'.mine id) call') : LeaseInv config s' := by
  have hreserved := h.reserved id call hcall howns
  have hframe := release_frame s.controller call.info.requestId
  rw [← hcontroller] at hframe
  refine h.move hcall
    { changes := hchanges, info := hinfo
      accounted := by rw [hcontroller]; exact h.accounted.releaseReservation _
      attended := by
        rw [hcontroller]
        exact step_attended h.accounted h.attended (.releaseReservation call.info.requestId)
      kept := hkept, active := ?_, alone := fun howns' => absurd howns' hgone
      asleep := h.asleep_same hcall hframe.2 hthread, grows := le_of_eq hframe.1.symm
      number := h.number_same hcall hframe.1 hthread }
  · intro info
    rw [hcontroller, mem_released h.accounted hreserved, h.active_iff hcall]
    constructor
    · rintro ⟨⟨_, rfl⟩ | hother, hne⟩
      · exact absurd rfl hne
      · exact .inr hother
    · rintro (⟨howns', _⟩ | ⟨other, call₂, hne, hlookup, hother, rfl⟩)
      · exact absurd howns' hgone
      · refine ⟨.inr ⟨other, call₂, hne, hlookup, hother, rfl⟩, fun hid => ?_⟩
        exact hne (h.alone other call₂ id call hlookup hcall hother howns hid)

theorem not_owns_of_early {mine : List CallbackKind} (hkept : CallKept mine call)
    (hposted : call.thread ≠ .posted) (hadmitted : call.thread ≠ .admitted) : ¬ Owns mine call := by
  have hopen := hkept.unsettled (.inl hposted)
  rintro (hthread | hmem | ⟨hresult, _⟩ | hholding)
  · exact hadmitted hthread
  · exact (hkept.unposted hposted).1 hmem
  · rw [hresult] at hopen
    exact absurd hopen (by decide)
  · rw [hkept.holds hholding] at hopen
    exact absurd hopen (by decide)

/-- A thread that is not done takes a turn. -/
theorem LeaseInv.turns (h : LeaseInv config s) (hcall : s.calls.lookup id = some call)
    (hposted : call.thread ≠ .posted) (hadmitted : call.thread ≠ .admitted)
    {sequence : Nat} {answer : Reply × AdmissionController}
    (hturn : Turn s.controller call.info sequence answer)
    (hown : ∀ number, call.thread = .waiting number → number = sequence)
    (hothers : ∀ other call₂, other ≠ id → s.calls.lookup other = some call₂ →
      call₂.thread ≠ .waiting sequence)
    (haccounted : Accounted config answer.2) (hattended : Attended answer.2) :
    LeaseInv config (s.answered id call sequence answer) := by
  have hkept := h.kept id call hcall
  have hnone := not_owns_of_early hkept hposted hadmitted
  have hasleep : ∀ call' : LeaseCall, (answer.1 = .waits → call'.thread = .waiting sequence) →
      ∀ waiter ∈ answer.2.waiters,
        (call'.thread = .waiting waiter.entry.sequence ∧ call.info = waiter.entry.info) ∨
          ∃ old ∈ s.controller.waiters, old.entry = waiter.entry ∧
            call.thread ≠ .waiting old.entry.sequence := by
    intro call' hwaits waiter hwaiter
    rcases hturn.asleep waiter hwaiter with ⟨old, hold, hentry, hne⟩ | ⟨hreply, hentry⟩
    · exact .inr ⟨old, hold, hentry, fun hthread => hne (hown _ hthread)⟩
    · rw [hentry]
      exact .inl ⟨hwaits hreply, rfl⟩
  rcases hturn.replies with ⟨hreply, hactive⟩ | ⟨hreply, hactive⟩
  · -- The lease is granted to the thread.
    let call' : LeaseCall := { call with thread := .admitted, granted := call.granted + 1 }
    have hafter : s.answered id call sequence answer =
        { s with controller := answer.2 }.put id call' := by
      unfold LoopState.answered
      rw [hreply]
    have howns : Owns (s.mine id) call' := .inl rfl
    have hchanges : Changes s ({ s with controller := answer.2 }.put id call') id call' :=
      changes_put ⟨fun _ _ => rfl, fun _ _ => rfl⟩
    rw [hafter]
    refine h.move hcall
      { changes := hchanges, info := rfl, accounted := haccounted
        attended := hattended, kept := kept_admitted hkept hposted hadmitted, active := ?_
        alone := ?_, asleep := hasleep call' fun hwaits => absurd (hreply.symm.trans hwaits) nofun
        grows := hturn.grows, number := nofun }
    · intro info
      change info ∈ answer.2.active ↔ _
      rw [hactive, mem_append, mem_singleton, h.active_iff hcall]
      constructor
      · rintro ((⟨howns', _⟩ | hother) | rfl)
        · exact absurd howns' hnone
        · exact .inr hother
        · exact .inl ⟨howns, rfl⟩
      · rintro (⟨_, rfl⟩ | hother)
        · exact .inr rfl
        · exact .inl (.inr hother)
    · intro _ other call₂ _ hlookup hother hid
      have hids := haccounted.activeIds
      rw [hactive, map_append, nodup_append] at hids
      exact hids.2.2 _ (mem_map_of_mem (h.reserved other call₂ hlookup hother)) _
        (mem_singleton_self _) hid
  · -- The reservations are as they were, and the thread sleeps or raises.
    have hmove : ∀ thread : ThreadPhase, thread ≠ .admitted →
        (answer.1 = .waits → thread = .waiting sequence) →
        (∀ number, thread = .waiting number → number = sequence) →
        LeaseInv config ({ s with controller := answer.2 }.put id { call with thread }) := by
      intro thread hthread hwaits hnumber
      have hafter := kept_thread hkept hposted hadmitted hthread
      have hstill : ¬ Owns (s.mine id) { call with thread } := by
        rintro (hadmitted' | hmem | ⟨hresult, _⟩ | hholding)
        · exact hthread hadmitted'
        · exact (hkept.unposted hposted).1 hmem
        · rcases hkept.unsettled (.inl hposted) with hopen | hopen
          · exact absurd (hopen.symm.trans hresult) (by decide)
          · exact absurd (hopen.symm.trans hresult) (by decide)
        · exact hnone (.inr (.inr (.inr hholding)))
      have hchanges : Changes s ({ s with controller := answer.2 }.put id { call with thread }) id
          { call with thread } := changes_put ⟨fun _ _ => rfl, fun _ _ => rfl⟩
      refine h.move hcall
        { changes := hchanges, info := rfl, accounted := haccounted
          attended := hattended, kept := hafter, active := ?_
          alone := fun howns => absurd howns hstill, asleep := hasleep _ hwaits
          grows := hturn.grows, number := ?_ }
      · intro info
        change info ∈ answer.2.active ↔ _
        rw [hactive, h.active_iff hcall]
        exact or_congr_left (iff_of_false (fun howns => hnone howns.1) fun howns => hstill howns.1)
      · intro number hwaiting
        rw [hnumber number hwaiting]
        exact ⟨hturn.below, hothers⟩
    unfold LoopState.answered
    rcases hreply with hreply | ⟨error, hreply⟩
    · rw [hreply]
      exact hmove (.waiting sequence) nofun (fun _ => rfl) fun _ heq => (ThreadPhase.waiting.inj heq).symm
    · rw [hreply]
      exact hmove .refused nofun (fun hwaits => absurd (hreply.symm.trans hwaits) nofun) nofun

/-! ### Turns of the loop -/

theorem onCall_some (hcall : s.calls.lookup id = some call) (f : LeaseCall → LoopState) :
    s.onCall id f = f call := by
  unfold LoopState.onCall
  rw [hcall]

theorem LeaseInv.loop (h : LeaseInv config s) (hcall : s.calls.lookup id = some call)
    (hchanges : Changes s s' id call') (hcontroller : s'.controller = s.controller)
    (hinfo : call'.info = call.info) (howns : Owns (s'.mine id) call' ↔ Owns (s.mine id) call)
    (hthread : ∀ number, call'.thread = .waiting number ↔ call.thread = .waiting number)
    (hkept : CallKept (s'.mine id) call') : LeaseInv config s' :=
  h.still hcall hchanges (by rw [hcontroller]; exact h.accounted)
    (by rw [hcontroller]; exact h.attended) (by rw [hcontroller])
    (fun waiter hwaiter => ⟨waiter, by rw [← hcontroller]; exact hwaiter, rfl⟩)
    (by rw [hcontroller]) hinfo howns hthread hkept

theorem LeaseInv.joins (h : LeaseInv config s) (hnew : s.calls.lookup id = none)
    (info : ModelRequestSchedulingInfo) : LeaseInv config (s.put id (.new info)) := by
  have hmine : s.mine id = [] := h.unknown id hnew
  have hnone : ¬ Owns (s.mine id) (.new info) := by
    rw [hmine]
    simp [Owns, LeaseCall.new]
  have hcases : ∀ other call₂, (s.put id (.new info)).calls.lookup other = some call₂ →
      (other = id ∧ call₂ = .new info) ∨ s.calls.lookup other = some call₂ := by
    intro other call₂ hlookup
    have hlookup' : (s.calls.insert id (.new info)).lookup other = some call₂ := hlookup
    rw [Table.lookup_insert_if] at hlookup'
    by_cases hsame : other = id
    · rw [if_pos hsame] at hlookup'
      exact .inl ⟨hsame, (Option.some.inj hlookup').symm⟩
    · rw [if_neg hsame] at hlookup'
      exact .inr hlookup'
  have hbefore : ∀ other call₂, s.calls.lookup other = some call₂ →
      (s.put id (.new info)).calls.lookup other = some call₂ := by
    intro other call₂ hlookup
    have hne : other ≠ id := by
      rintro rfl
      exact absurd (hnew.symm.trans hlookup) nofun
    exact (AList.lookup_insert_ne hne).trans hlookup
  refine
    { accounted := h.accounted, attended := h.attended, kept := ?_, unknown := ?_, reserved := ?_
      owners := ?_, alone := ?_, asleep := ?_, numbers := ?_, distinct := ?_ }
  · intro other call₂ hlookup
    rcases hcases other call₂ hlookup with ⟨rfl, rfl⟩ | hlookup
    · change CallKept (s.mine other) _
      rw [hmine]
      exact kept_new info
    · exact h.kept other call₂ hlookup
  · intro other hlookup
    refine h.unknown other ?_
    by_contra hne
    rcases Option.ne_none_iff_exists'.mp hne with ⟨call₂, hold⟩
    exact absurd (hlookup.symm.trans (hbefore other call₂ hold)) nofun
  · intro other call₂ hlookup howns
    rcases hcases other call₂ hlookup with ⟨rfl, rfl⟩ | hlookup
    · exact absurd howns hnone
    · exact h.reserved other call₂ hlookup howns
  · intro info' hinfo
    rcases h.owners info' hinfo with ⟨other, call₂, hlookup, howns, hsame⟩
    exact ⟨other, call₂, hbefore other call₂ hlookup, howns, hsame⟩
  · intro other call₂ other' call₂' hlookup hlookup' howns howns'
    rcases hcases other call₂ hlookup with ⟨rfl, rfl⟩ | hlookup
    · exact absurd howns hnone
    · rcases hcases other' call₂' hlookup' with ⟨rfl, rfl⟩ | hlookup'
      · exact absurd howns' hnone
      · exact h.alone other call₂ other' call₂' hlookup hlookup' howns howns'
  · intro waiter hwaiter
    rcases h.asleep waiter hwaiter with ⟨other, call₂, hlookup, hthread⟩
    exact ⟨other, call₂, hbefore other call₂ hlookup, hthread⟩
  · intro other call₂ number hlookup hthread
    rcases hcases other call₂ hlookup with ⟨rfl, rfl⟩ | hlookup
    · exact absurd hthread nofun
    · exact h.numbers other call₂ number hlookup hthread
  · intro other call₂ other' call₂' number hlookup hlookup' hthread hthread'
    rcases hcases other call₂ hlookup with ⟨rfl, rfl⟩ | hlookup
    · exact absurd hthread nofun
    · rcases hcases other' call₂' hlookup' with ⟨rfl, rfl⟩ | hlookup'
      · exact absurd hthread' nofun
      · exact h.distinct other call₂ other' call₂' number hlookup hlookup' hthread hthread'

section

variable (h : LeaseInv config s) (hcall : s.calls.lookup id = some call)

include h hcall

theorem LeaseInv.cancel (hclear : ¬ InWindow s id) : LeaseInv config (s.cancel id call) := by
  have hkept := h.kept id call hcall
  by_cases htask : call.task = .awaiting
  · have houtside : call.outer = .cancelled ∨
        (.settleResult ∉ s.mine id ∧ call.completed ≠ .result) := by
      by_contra hinside
      push Not at hinside
      refine hclear ⟨call, hcall, htask, hinside.1, ?_⟩
      by_cases hmem : .settleResult ∈ s.mine id
      · exact .inl hmem
      · exact .inr (hinside.2 hmem)
    by_cases houter : call.outer = .pending
    · have hafter : s.cancel id call =
          (s.put id { call with outer := .cancelled }).callSoon id .wakeup := by
        simp only [LoopState.cancel, htask, houter, if_true]
      have hready := houtside.resolve_left (by rw [houter]; decide)
      have hchanges : Changes s ((s.put id { call with outer := .cancelled }).callSoon id .wakeup) id
          { call with outer := .cancelled } :=
        (changes_put ⟨fun _ _ => rfl, fun _ _ => rfl⟩).callSoon _
      rw [hafter]
      refine h.loop hcall hchanges rfl rfl ?_ (fun _ => Iff.rfl) ?_
      · rw [mine_callSoon_self]
        simp [Owns, LoopState.put, LoopState.mine]
      · rw [mine_callSoon_self]
        exact kept_cancel hkept htask houter hready
    · have hafter : s.cancel id call = s.put id { call with mustCancel := true } := by
        simp only [LoopState.cancel, htask, houter, if_false]
      have hchanges : Changes s (s.put id { call with mustCancel := true }) id
          { call with mustCancel := true } := changes_put ⟨fun _ _ => rfl, fun _ _ => rfl⟩
      rw [hafter]
      exact h.loop hcall hchanges rfl rfl Iff.rfl (fun _ => Iff.rfl)
        (kept_mustCancel hkept htask houter (houtside.imp_right (·.2)))
  · have hafter : s.cancel id call = s := by
      unfold LoopState.cancel
      cases htask' : call.task with
      | awaiting => exact absurd htask' htask
      | holding => rfl
      | ended => rfl
    rw [hafter]
    exact h

theorem LeaseInv.acquire (expired : Bool) : LeaseInv config (s.acquire config id call expired) := by
  have hkept := h.kept id call hcall
  unfold LoopState.acquire
  by_cases hstarting : call.thread = .starting
  · rw [if_pos hstarting]
    have hposted : call.thread ≠ .posted := by rw [hstarting]; decide
    have hadmitted : call.thread ≠ .admitted := by rw [hstarting]; decide
    have haccounted : Accounted config (s.controller.acquire config call.info expired).2 :=
      step_accounted h.accounted (.acquire call.info expired)
    have hattended : Attended (s.controller.acquire config call.info expired).2 :=
      step_attended h.accounted h.attended (.acquire call.info expired)
    rcases acquire_turn h.accounted h.attended call.info expired with
      ⟨error, hreply, hactive, hwaiters, hsequence⟩ | hturn
    · -- No entry of the queue was made for the request.
      have hafter : s.answered id call s.controller.sequence
            (s.controller.acquire config call.info expired) =
          { s with controller := (s.controller.acquire config call.info expired).2 }.put id
            { call with thread := .refused } := by
        unfold LoopState.answered
        rw [hreply]
      have hchanges : Changes s
          ({ s with controller := (s.controller.acquire config call.info expired).2 }.put id
            { call with thread := .refused }) id { call with thread := .refused } :=
        changes_put ⟨fun _ _ => rfl, fun _ _ => rfl⟩
      rw [hafter]
      refine h.still hcall hchanges haccounted hattended hactive ?_ hsequence rfl ?_ ?_ ?_
      · intro waiter hwaiter
        exact ⟨waiter, hwaiters ▸ hwaiter, rfl⟩
      · simp [Owns, LoopState.put, LoopState.mine, hstarting]
      · intro number
        simp [hstarting]
      · exact kept_thread hkept hposted hadmitted (by decide)
    · refine h.turns hcall hposted hadmitted hturn ?_ ?_ haccounted hattended
      · intro number hwaiting
        exact absurd (hstarting.symm.trans hwaiting) nofun
      · intro other call₂ _ hlookup hwaiting
        exact absurd (h.numbers other call₂ _ hlookup hwaiting) (lt_irrefl _)
  · rw [if_neg hstarting]
    exact h

/-- A thread wakes up. -/
theorem LeaseInv.wake (expired : Bool) : LeaseInv config (s.wake config id call expired) := by
  by_cases hwaits : ∃ sequence, call.thread = .waiting sequence
  · rcases hwaits with ⟨sequence, hthread⟩
    have hafter : s.wake config id call expired =
        s.answered id call sequence (s.controller.wake config sequence expired) := by
      unfold LoopState.wake
      rw [hthread]
    rw [hafter]
    have hposted : call.thread ≠ .posted := by rw [hthread]; nofun
    have hadmitted : call.thread ≠ .admitted := by rw [hthread]; nofun
    cases hsleeper : s.controller.sleeper sequence with
    | none =>
      have hnobody : s.controller.wake config sequence expired = (.nobody, s.controller) := by
        unfold AdmissionController.wake
        rw [hsleeper]
      have hchanges : Changes s (s.put id call) id call :=
        changes_put ⟨fun _ _ => rfl, fun _ _ => rfl⟩
      rw [hnobody]
      exact h.loop hcall hchanges rfl rfl Iff.rfl (fun _ => Iff.rfl) (h.kept id call hcall)
    | some waiter =>
      rcases wake_turn h.accounted h.attended hsleeper expired with ⟨hmem, hnumber, hturn⟩
      -- The number is the call's own, so the request is the call's too.
      rcases h.asleep waiter hmem with ⟨other, call₂, hlookup, hsleeps, hslept⟩
      rw [hnumber] at hsleeps
      have hsame := h.distinct other call₂ id call sequence hlookup hcall hsleeps hthread
      subst hsame
      rw [← hslept, Option.some.inj (hlookup.symm.trans hcall)] at hturn
      refine h.turns hcall hposted hadmitted hturn ?_ ?_
        (step_accounted h.accounted (.wake sequence expired))
        (step_attended h.accounted h.attended (.wake sequence expired))
      · intro number hwaiting
        exact (ThreadPhase.waiting.inj (hthread.symm.trans hwaiting)).symm
      · intro other' call₂' hne hlookup' hwaiting
        exact hne (h.distinct other' call₂' other call sequence hlookup' hcall hwaiting hthread)
  · have hafter : s.wake config id call expired = s := by
      unfold LoopState.wake
      cases hthread : call.thread with
      | waiting sequence => exact absurd ⟨sequence, hthread⟩ hwaits
      | starting => rfl
      | admitted => rfl
      | refused => rfl
      | posted => rfl
    rw [hafter]
    exact h

theorem LeaseInv.post : LeaseInv config (s.post id call) := by
  have hkept := h.kept id call hcall
  have hposts : ∀ kind : CallbackKind, (∀ number, call.thread ≠ .waiting number) →
      (Owns (s.mine id ++ [kind]) { call with thread := .posted } ↔ Owns (s.mine id) call) →
      CallKept (s.mine id ++ [kind]) { call with thread := .posted } →
      LeaseInv config ((s.put id { call with thread := .posted }).callSoon id kind) := by
    intro kind hthread howns hafter
    have hchanges : Changes s ((s.put id { call with thread := .posted }).callSoon id kind) id
        { call with thread := .posted } :=
      (changes_put ⟨fun _ _ => rfl, fun _ _ => rfl⟩).callSoon _
    refine h.loop hcall hchanges rfl rfl ?_ ?_ ?_
    · rw [mine_callSoon_self]
      exact howns
    · intro number
      exact ⟨nofun, fun hwaiting => absurd hwaiting (hthread number)⟩
    · rw [mine_callSoon_self]
      exact hafter
  unfold LoopState.post
  cases hthread : call.thread with
  | admitted =>
    refine hposts .settleResult (by rw [hthread]; nofun) ?_ (kept_postLease hkept hthread)
    simp [Owns, hthread]
  | refused =>
    refine hposts .settleError (by rw [hthread]; nofun) ?_ (kept_postError hkept hthread)
    simp [Owns, hthread]
  | starting => exact h
  | waiting sequence => exact h
  | posted => exact h

end

/-- The loop has taken the first callback, which is this one. -/
structure Pops (s s' : LoopState) (id : Nat) (kind : CallbackKind) : Prop
    extends Beside s s' id where
  calls : s'.calls = s.calls
  controller : s'.controller = s.controller
  first : s.mine id = kind :: s'.mine id

theorem pops_head {head : Callback} {rest : List Callback} (hready : s.ready = head :: rest) :
    Pops s { s with ready := rest } head.call head.kind where
  others := fun _ _ => rfl
  mine := by
    intro other hne
    simp [LoopState.mine, hready, Ne.symm hne]
  calls := rfl
  controller := rfl
  first := by simp [LoopState.mine, hready]

section

variable {popped : LoopState} {kind : CallbackKind}

theorem LeaseInv.drop (h : LeaseInv config s) (hpops : Pops s popped id kind)
    (hcall : s.calls.lookup id = some call) (hkind : kind ≠ .settleResult)
    (hwakeup : kind = .wakeup → call.task ≠ .awaiting) : LeaseInv config popped := by
  have hkept := h.kept id call hcall
  rw [hpops.first] at hkept
  have hchanges : Changes s popped id call :=
    { hpops.toBeside with self := by rw [hpops.calls]; exact hcall }
  refine h.loop hcall hchanges hpops.controller rfl ?_ (fun _ => Iff.rfl)
    (kept_drop hkept hkind hwakeup)
  rw [hpops.first]
  simp [Owns, Ne.symm hkind]

theorem LeaseInv.gives (h : LeaseInv config s) (hcall : s.calls.lookup id = some call)
    (hbeside : Beside s popped id) (hcontroller : popped.controller = s.controller)
    (howns : Owns (s.mine id) call) (task : TaskPhase)
    (hkept : CallKept (popped.mine id) { call with task, released := call.released + 1 }) :
    LeaseInv config (popped.release id { call with task }) := by
  have hchanges : Changes s (popped.release id { call with task }) id
      { call with task, released := call.released + 1 } :=
    changes_put ⟨hbeside.others, hbeside.mine⟩
  have hgone : ¬ Owns (popped.mine id) { call with task, released := call.released + 1 } :=
    fun hstill => Nat.succ_ne_zero _ (hkept.owned hstill).2
  refine h.releases hcall hchanges ?_ rfl howns hgone (fun _ => Iff.rfl) hkept
  unfold LoopState.release
  rw [hcontroller]
  rfl

theorem LeaseInv.settleResult (h : LeaseInv config s) (hpops : Pops s popped id .settleResult)
    (hcall : s.calls.lookup id = some call) : LeaseInv config (popped.settleResult id call) := by
  have hkept := h.kept id call hcall
  rw [hpops.first] at hkept
  have hopen := hkept.unsettled (.inr (mem_cons_self ..))
  have howns : Owns (s.mine id) call := by
    rw [hpops.first]
    exact .inr (.inl (mem_cons_self ..))
  unfold LoopState.settleResult
  rcases hopen with hpending | hcancelled
  · have hchanges : Changes s
        ((popped.put id { call with completed := .result }).callSoon id .innerDone) id
        { call with completed := .result } := (changes_put hpops.toBeside).callSoon _
    have hawaits : call.task = .awaiting := by
      by_contra htask
      exact hkept.gone htask hpending
    rw [hpending]
    refine h.loop hcall hchanges hpops.controller rfl (iff_of_true ?_ howns) (fun _ => Iff.rfl) ?_
    · exact .inr (.inr (.inl ⟨rfl, hawaits⟩))
    · rw [mine_callSoon_self]
      exact kept_settleResult hkept hpending
  · rw [hcancelled]
    exact h.gives hcall hpops.toBeside hpops.controller howns call.task
      (kept_returned hkept hcancelled)

theorem LeaseInv.settleError (h : LeaseInv config s) (hpops : Pops s popped id .settleError)
    (hcall : s.calls.lookup id = some call) : LeaseInv config (popped.settleError id call) := by
  have hkept := h.kept id call hcall
  rw [hpops.first] at hkept
  unfold LoopState.settleError
  by_cases hpending : call.completed = .pending
  · have hchanges : Changes s
        ((popped.put id { call with completed := .exception }).callSoon id .innerDone) id
        { call with completed := .exception } := (changes_put hpops.toBeside).callSoon _
    rw [if_pos hpending]
    refine h.loop hcall hchanges hpops.controller rfl ?_ (fun _ => Iff.rfl) ?_
    · rw [mine_callSoon_self, hpops.first]
      simp [Owns, hpending, LoopState.put, LoopState.mine]
    · rw [mine_callSoon_self]
      exact kept_settleError hkept hpending
  · rw [if_neg hpending]
    exact h.drop hpops hcall (by decide) nofun

theorem LeaseInv.innerDone (h : LeaseInv config s) (hpops : Pops s popped id .innerDone)
    (hcall : s.calls.lookup id = some call) : LeaseInv config (popped.innerDone id call) := by
  have hkept := h.kept id call hcall
  rw [hpops.first] at hkept
  unfold LoopState.innerDone
  by_cases houter : call.outer = .pending
  · have hchanges : Changes s
        ((popped.put id { call with outer := call.completed }).callSoon id .wakeup) id
        { call with outer := call.completed } := (changes_put hpops.toBeside).callSoon _
    rw [if_pos houter]
    refine h.loop hcall hchanges hpops.controller rfl ?_ (fun _ => Iff.rfl) ?_
    · rw [mine_callSoon_self, hpops.first]
      simp [Owns, LoopState.put, LoopState.mine]
    · rw [mine_callSoon_self]
      exact kept_innerDone hkept houter
  · rw [if_neg houter]
    exact h.drop hpops hcall (by decide) nofun

theorem abandon_frame (controller : AdmissionController) (requestId : String) :
    (controller.abandonRequest requestId).2.active = controller.active ∧
      (controller.abandonRequest requestId).2.sequence = controller.sequence ∧
      ∀ waiter ∈ (controller.abandonRequest requestId).2.waiters,
        ∃ old ∈ controller.waiters, old.entry = waiter.entry := by
  unfold AdmissionController.abandonRequest
  dsimp only
  split
  · refine ⟨rfl, rfl, fun waiter hwaiter => ?_⟩
    rcases mem_map.mp hwaiter with ⟨old, hold, rfl⟩
    exact ⟨old, hold, rfl⟩
  · exact ⟨rfl, rfl, fun waiter hwaiter => ⟨waiter, hwaiter, rfl⟩⟩

theorem LeaseInv.abandon (h : LeaseInv config s) (hpops : Pops s popped id .wakeup)
    (hcall : s.calls.lookup id = some call) (htask : call.task = .awaiting)
    (hdoomed : call.mustCancel = true ∨ call.outer = .cancelled) :
    LeaseInv config (popped.abandon id call) := by
  have hkept := h.kept id call hcall
  rw [hpops.first] at hkept
  have hnone := hkept.doomed htask hdoomed
  rcases abandon_frame s.controller call.info.requestId with ⟨hactive, hsequence, hwaiters⟩
  have haccounted : Accounted config (s.controller.abandonRequest call.info.requestId).2 :=
    step_accounted h.accounted (.abandonRequest call.info.requestId)
  have hattended : Attended (s.controller.abandonRequest call.info.requestId).2 :=
    step_attended h.accounted h.attended (.abandonRequest call.info.requestId)
  have hbeside : Beside s
      { popped with controller := (s.controller.abandonRequest call.info.requestId).2 } id :=
    ⟨hpops.others, hpops.mine⟩
  unfold LoopState.abandon
  rw [hpops.controller]
  by_cases hpending : call.completed = .pending
  · have hchanges : Changes s
        (({ popped with controller := (s.controller.abandonRequest call.info.requestId).2 }.put id
          { call with completed := .cancelled, task := .ended }).callSoon id .innerDone) id
        { call with completed := .cancelled, task := .ended } :=
      (changes_put hbeside).callSoon _
    rw [if_pos hpending]
    refine h.still hcall hchanges haccounted hattended hactive hwaiters hsequence rfl ?_
      (fun _ => Iff.rfl) ?_
    · rw [mine_callSoon_self, hpops.first]
      simp [Owns, LoopState.put, LoopState.mine, hnone, htask]
    · rw [mine_callSoon_self]
      exact kept_abandonPending hkept htask hdoomed hpending
  · have hchanges : Changes s
        ({ popped with controller := (s.controller.abandonRequest call.info.requestId).2 }.put id
          { call with task := .ended }) id { call with task := .ended } :=
      changes_put hbeside
    rw [if_neg hpending]
    refine h.still hcall hchanges haccounted hattended hactive hwaiters hsequence rfl ?_
      (fun _ => Iff.rfl) (kept_abandonDone hkept htask hdoomed hpending)
    rw [hpops.first]
    simp [Owns, LoopState.put, LoopState.mine, hnone, htask]

theorem LeaseInv.resume (h : LeaseInv config s) (hpops : Pops s popped id .wakeup)
    (hcall : s.calls.lookup id = some call) (ledgerFails : Bool) :
    LeaseInv config (popped.resume id call ledgerFails) := by
  have hkept := h.kept id call hcall
  rw [hpops.first] at hkept
  have hends : ∀ task : TaskPhase, Changes s (popped.put id { call with task }) id
      { call with task } := fun _ => changes_put hpops.toBeside
  unfold LoopState.resume
  by_cases htask : call.task = .awaiting
  · rw [if_pos htask]
    by_cases hdoomed : call.mustCancel = true ∨ call.outer = .cancelled
    · rw [if_pos hdoomed]
      exact h.abandon hpops hcall htask hdoomed
    · rw [if_neg hdoomed]
      by_cases hexception : call.outer = .exception
      · have hcompleted := hkept.exception hexception
        rw [if_pos hexception]
        refine h.loop hcall (hends .ended) hpops.controller rfl ?_ (fun _ => Iff.rfl)
          (kept_raise hkept htask hexception)
        rw [hpops.first]
        simp [Owns, LoopState.put, LoopState.mine, htask, hcompleted]
      · have houter : call.outer = .result := by
          cases houter : call.outer with
          | pending => exact absurd houter (hkept.woken (mem_cons_self ..))
          | result => rfl
          | exception => exact absurd houter hexception
          | cancelled => exact absurd (.inr houter) hdoomed
        have hresult := hkept.result houter
        have howns : Owns (s.mine id) call := .inr (.inr (.inl ⟨hresult, htask⟩))
        rw [if_neg hexception]
        cases ledgerFails with
        | true =>
          exact h.gives hcall hpops.toBeside hpops.controller howns .ended
            (kept_ledgerFails hkept htask hresult houter)
        | false =>
          exact h.loop hcall (hends .holding) hpops.controller rfl
            (iff_of_true (.inr (.inr (.inr rfl))) howns) (fun _ => Iff.rfl)
            (kept_hold hkept htask hresult houter)
  · rw [if_neg htask]
    exact h.drop hpops hcall (by decide) fun _ => htask

end

theorem LeaseInv.finish (h : LeaseInv config s) (hcall : s.calls.lookup id = some call) :
    LeaseInv config (s.finish id call) := by
  unfold LoopState.finish
  by_cases htask : call.task = .holding
  · rw [if_pos htask]
    exact h.gives hcall ⟨fun _ _ => rfl, fun _ _ => rfl⟩ rfl (.inr (.inr (.inr htask))) .ended
      (kept_finish (h.kept id call hcall) htask)
  · rw [if_neg htask]
    exact h

/-- What a turn keeps, if it cancels no call in the window. -/
theorem loopStep_kept (h : LeaseInv config s) (event : LoopEvent) (hguard : CancelsOutside s event) :
    LeaseInv config (loopStep config s event) := by
  have hon : ∀ (id : Nat) (f : LeaseCall → LoopState),
      (∀ call, s.calls.lookup id = some call → LeaseInv config (f call)) →
      LeaseInv config (s.onCall id f) := by
    intro id f hf
    unfold LoopState.onCall
    cases hcall : s.calls.lookup id with
    | none => exact h
    | some call => exact hf call hcall
  cases event with
  | call id info =>
    cases hcall : s.calls.lookup id with
    | none =>
      simp only [loopStep, hcall]
      exact h.joins hcall info
    | some call =>
      simp only [loopStep, hcall]
      exact h
  | cancel id => exact hon id _ fun call hcall => h.cancel hcall hguard
  | acquire id expired => exact hon id _ fun call hcall => h.acquire hcall expired
  | wake id expired => exact hon id _ fun call hcall => h.wake hcall expired
  | post id => exact hon id _ fun call hcall => h.post hcall
  | tick ledgerFails =>
    unfold loopStep
    cases hready : s.ready with
    | nil => exact h
    | cons head rest =>
      have hpops := pops_head hready
      cases hcall : s.calls.lookup head.call with
      | none =>
        have hnothing := h.unknown head.call hcall
        rw [hpops.first] at hnothing
        exact absurd hnothing nofun
      | some call =>
        have hcall' : ({ s with ready := rest } : LoopState).calls.lookup head.call =
            some call := hcall
        dsimp only
        rw [onCall_some hcall']
        rcases head with ⟨id, kind⟩
        cases kind with
        | settleResult => exact h.settleResult hpops hcall
        | settleError => exact h.settleError hpops hcall
        | innerDone => exact h.innerDone hpops hcall
        | wakeup => exact h.resume hpops hcall ledgerFails
  | finish id => exact hon id _ fun call hcall => h.finish hcall

theorem initial_kept (config : AdmissionConfig) : LeaseInv config .initial := by
  have hempty : ∀ (id : Nat) (call : LeaseCall), LoopState.initial.calls.lookup id ≠ some call := by
    intro id call hcall
    exact absurd ((AList.lookup_empty id).symm.trans hcall) nofun
  exact
    { accounted := initial_accounted config
      attended := initial_attended
      kept := fun id call hcall => absurd hcall (hempty id call)
      unknown := fun _ _ => rfl
      reserved := fun id call hcall => absurd hcall (hempty id call)
      owners := fun _ hinfo => absurd hinfo not_mem_nil
      alone := fun id call _ _ hcall => absurd hcall (hempty id call)
      asleep := fun _ hwaiter => absurd hwaiter not_mem_nil
      numbers := fun id call _ hcall => absurd hcall (hempty id call)
      distinct := fun id call _ _ _ hcall => absurd hcall (hempty id call) }

theorem LeaseInv.noLeak (h : LeaseInv config s) : NoLeak s := by
  constructor
  · intro id call hcall
    have hkept := h.kept id call hcall
    by_cases howns : Owns (s.mine id) call
    · have howned := hkept.owned howns
      omega
    · have hsettled := hkept.settled howns
      omega
  · rintro ⟨hready, hended⟩
    have hnothing : ∀ id, s.mine id = [] := by
      intro id
      unfold LoopState.mine
      rw [hready]
      rfl
    have hnone : ∀ id call, s.calls.lookup id = some call → ¬ Owns (s.mine id) call := by
      intro id call hcall howns
      have hdone := hended id call hcall
      rw [hnothing] at howns
      rcases howns with hadmitted | hmem | ⟨_, hawaits⟩ | hholding
      · exact absurd (hadmitted.symm.trans hdone.2) (by decide)
      · exact absurd hmem (not_mem_nil)
      · exact absurd (hawaits.symm.trans hdone.1) (by decide)
      · exact absurd (hholding.symm.trans hdone.1) (by decide)
    refine ⟨?_, ?_, ?_⟩
    · refine eq_nil_iff_forall_not_mem.mpr fun info hinfo => ?_
      rcases h.owners info hinfo with ⟨id, call, hcall, howns, _⟩
      exact hnone id call hcall howns
    · refine eq_nil_iff_forall_not_mem.mpr fun entry hentry => ?_
      rcases h.attended.attended entry hentry with ⟨waiter, hwaiter, _⟩
      rcases h.asleep waiter hwaiter with ⟨id, call, hcall, hthread, _⟩
      exact absurd (hthread.symm.trans (hended id call hcall).2) nofun
    · intro id call hcall
      exact ((h.kept id call hcall).settled (hnone id call hcall)).1.symm

/-- Leases are given back once, and none is left, as long as no call is cancelled while its
    lease is on its way from the thread to it. -/
theorem no_lease_leaked (config : AdmissionConfig) (events : List LoopEvent)
    (houtside : Guarded (loopStep config) CancelsOutside .initial events) :
    NoLeak (run (loopStep config) .initial events) :=
  (run_guarded (loopStep config) CancelsOutside (LeaseInv config)
    (fun _ event h hguard => loopStep_kept h event hguard) events .initial houtside
    (initial_kept config)).noLeak

end

namespace Sample

theorem a_ne : "a" ≠ "" := by decide

def cancelledInTime : List LoopEvent :=
  [.call 0 (request "a" a_ne), .acquire 0 false, .cancel 0, .tick false, .post 0,
    .tick false, .tick false]

theorem no_lease_leaked_sample : NoLeak (run (loopStep config) .initial cancelledInTime) := by
  refine no_lease_leaked config cancelledInTime ⟨trivial, trivial, ?_, trivial, trivial, trivial,
    trivial, trivial⟩
  have hpending : ((run (loopStep config) .initial (cancelledInTime.take 2)).calls.lookup 0).map
      (·.completed) = some .pending := by decide +kernel
  rintro ⟨call, hcall, _, _, hready | hresult⟩
  · exact absurd hready not_mem_nil
  · have hsame : some call.completed = some .pending := (congrArg _ hcall).symm.trans hpending
    exact absurd (Option.some.inj (hsame.symm.trans (congrArg some hresult))) (by decide)

def cancelledTooLate : List LoopEvent :=
  [.call 0 (request "a" a_ne), .acquire 0 false, .post 0, .tick false, .cancel 0,
    .tick false, .tick false]

/-- A run that does. -/
theorem lease_leaked : ¬ ∀ (config : AdmissionConfig) (events : List LoopEvent),
    NoLeak (run (loopStep config) .initial events) := by
  intro hnever
  have hleak := (hnever config cancelledTooLate).2
  have hquiet : Quiet (run (loopStep config) .initial cancelledTooLate) := by
    have hkeys : (run (loopStep config) .initial cancelledTooLate).calls.keys = [0] := rfl
    refine ⟨rfl, fun id call hcall => ?_⟩
    have hmem : id ∈ (run (loopStep config) .initial cancelledTooLate).calls :=
      AList.lookup_isSome.mp (by rw [hcall]; rfl)
    rw [AList.mem_keys, hkeys] at hmem
    obtain rfl := mem_singleton.mp hmem
    obtain rfl := Option.some.inj hcall
    exact ⟨rfl, rfl⟩
  exact absurd (hleak hquiet).1 nofun

end Sample

end NovelAgent.Admission
