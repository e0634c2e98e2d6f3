import NovelAgent.Admission.WakeUp
import NovelAgent.Core.Table

/-!
# Leases on the Event Loop

How a lease gets from the thread that waits for it to the call that asked for it, and
who gives it back.
-/

namespace NovelAgent.Admission

open Core AdmissionController

/-- The states of a future. -/
inductive FutureState
  | pending
  | result
  | exception
  | cancelled
deriving DecidableEq

/-- Where the thread of a call is. A waiting thread sleeps with a number of the queue. -/
inductive ThreadPhase where
  | starting
  | waiting (sequence : Nat)
  | admitted
  | refused
  | posted
deriving DecidableEq

/-- Where a call is: it awaits its lease, it has it, or it has ended. -/
inductive TaskPhase
  | awaiting
  | holding
  | ended
deriving DecidableEq

/-- One call, with its thread, the future that the thread settles, and the future that
    shields it. What was granted to it and what it gave back is counted for the reader. -/
structure LeaseCall where
  info : ModelRequestSchedulingInfo
  thread : ThreadPhase
  completed : FutureState
  outer : FutureState
  mustCancel : Bool
  task : TaskPhase
  granted : Nat
  released : Nat

/-- A call that has just started its thread. -/
def LeaseCall.new (info : ModelRequestSchedulingInfo) : LeaseCall where
  info := info
  thread := .starting
  completed := .pending
  outer := .pending
  mustCancel := false
  task := .awaiting
  granted := 0
  released := 0

/-- What a callback does. -/
inductive CallbackKind
  | settleResult
  | settleError
  | innerDone
  | wakeup
deriving DecidableEq

/-- A callback of the event loop, on behalf of a call. -/
structure Callback where
  call : Nat
  kind : CallbackKind

/-- The controller, the calls, and the callbacks that are ready to run. -/
structure LoopState where
  controller : AdmissionController
  calls : Table Nat LeaseCall
  ready : List Callback

/-- A loop with no calls yet. -/
def LoopState.initial : LoopState where
  controller := .initial
  calls := ∅
  ready := []

/-- What happens next: a turn of a thread, a callback or a cancellation. -/
inductive LoopEvent where
  | call (call : Nat) (info : ModelRequestSchedulingInfo)
  | cancel (call : Nat)
  | acquire (call : Nat) (expired : Bool)
  | wake (call : Nat) (expired : Bool)
  | post (call : Nat)
  | tick (ledgerFails : Bool)
  | finish (call : Nat)

namespace LoopState

variable (config : AdmissionConfig)

/-- The state with another value of a call. -/
def put (s : LoopState) (id : Nat) (call : LeaseCall) : LoopState :=
  { s with calls := s.calls.insert id call }

/-- The loop is to run a callback. -/
def callSoon (s : LoopState) (id : Nat) (kind : CallbackKind) : LoopState :=
  { s with ready := s.ready ++ [⟨id, kind⟩] }

/-- Give the lease of a call back. -/
def release (s : LoopState) (id : Nat) (call : LeaseCall) : LoopState :=
  { s with controller := (s.controller.releaseReservation call.info.requestId).2 }.put id
    { call with released := call.released + 1 }

/-- Cancel a call. A call that awaits a future that is done is cancelled when it goes on;
    one that has its lease is cancelled in the adapter. -/
def cancel (s : LoopState) (id : Nat) (call : LeaseCall) : LoopState :=
  match call.task with
  | .awaiting =>
    if call.outer = .pending then (s.put id { call with outer := .cancelled }).callSoon id .wakeup
    else s.put id { call with mustCancel := true }
  | .holding => s
  | .ended => s

/-- What the controller answered to the thread of a call, which then sleeps with this
    number if it has to. -/
def answered (s : LoopState) (id : Nat) (call : LeaseCall) (sequence : Nat)
    (answer : Reply × AdmissionController) : LoopState :=
  { s with controller := answer.2 }.put id
    (match answer.1 with
      | .lease _ => { call with thread := .admitted, granted := call.granted + 1 }
      | .waits => { call with thread := .waiting sequence }
      | .raises _ => { call with thread := .refused }
      | _ => call)

/-- The thread of a call takes `acquire`. -/
def acquire (s : LoopState) (id : Nat) (call : LeaseCall) (expired : Bool) : LoopState :=
  if call.thread = .starting then
    s.answered id call s.controller.sequence (s.controller.acquire config call.info expired)
  else s

/-- The thread of a call wakes up. -/
def wake (s : LoopState) (id : Nat) (call : LeaseCall) (expired : Bool) : LoopState :=
  match call.thread with
  | .waiting number =>
    s.answered id call number (s.controller.wake config number expired)
  | _ => s

/-- The thread of a call posts what it got. -/
def post (s : LoopState) (id : Nat) (call : LeaseCall) : LoopState :=
  match call.thread with
  | .admitted => (s.put id { call with thread := .posted }).callSoon id .settleResult
  | .refused => (s.put id { call with thread := .posted }).callSoon id .settleError
  | _ => s

/-- The callback of a lease. -/
def settleResult (s : LoopState) (id : Nat) (call : LeaseCall) : LoopState :=
  match call.completed with
  | .cancelled => s.release id call
  | .pending => (s.put id { call with completed := .result }).callSoon id .innerDone
  | _ => s

def settleError (s : LoopState) (id : Nat) (call : LeaseCall) : LoopState :=
  if call.completed = .pending then
    (s.put id { call with completed := .exception }).callSoon id .innerDone
  else s

/-- The inner future is done: the outer one takes over what it has. -/
def innerDone (s : LoopState) (id : Nat) (call : LeaseCall) : LoopState :=
  if call.outer = .pending then
    (s.put id { call with outer := call.completed }).callSoon id .wakeup
  else s

/-- A cancelled call cancels the inner future, if it is not done, and drops its request. -/
def abandon (s : LoopState) (id : Nat) (call : LeaseCall) : LoopState :=
  let s := { s with controller := (s.controller.abandonRequest call.info.requestId).2 }
  if call.completed = .pending then
    (s.put id { call with completed := .cancelled, task := .ended }).callSoon id .innerDone
  else s.put id { call with task := .ended }

/-- A call goes on after it has awaited its lease. With the lease it reserves its request
    in the ledger, which may fail. -/
def resume (s : LoopState) (id : Nat) (call : LeaseCall) (ledgerFails : Bool) : LoopState :=
  if call.task = .awaiting then
    if call.mustCancel = true ∨ call.outer = .cancelled then s.abandon id call
    else if call.outer = .exception then s.put id { call with task := .ended }
    else if ledgerFails then s.release id { call with task := .ended }
    else s.put id { call with task := .holding }
  else s

/-- The adapter of a call has returned or raised. -/
def finish (s : LoopState) (id : Nat) (call : LeaseCall) : LoopState :=
  if call.task = .holding then s.release id { call with task := .ended } else s

def callback (s : LoopState) (id : Nat) (call : LeaseCall) (ledgerFails : Bool) :
    CallbackKind → LoopState
  | .settleResult => s.settleResult id call
  | .settleError => s.settleError id call
  | .innerDone => s.innerDone id call
  | .wakeup => s.resume id call ledgerFails

/-- Something happens to a call, if there is one. -/
def onCall (s : LoopState) (id : Nat) (f : LeaseCall → LoopState) : LoopState :=
  match s.calls.lookup id with
  | none => s
  | some call => f call

end LoopState

/-- One turn. -/
def loopStep (config : AdmissionConfig) (s : LoopState) : LoopEvent → LoopState
  | .call id info =>
    match s.calls.lookup id with
    | none => s.put id (.new info)
    | some _ => s
  | .cancel id => s.onCall id (s.cancel id)
  | .acquire id expired => s.onCall id fun call => s.acquire config id call expired
  | .wake id expired => s.onCall id fun call => s.wake config id call expired
  | .post id => s.onCall id (s.post id)
  | .tick ledgerFails =>
    match s.ready with
    | [] => s
    | head :: rest =>
      let s := { s with ready := rest }
      s.onCall head.call fun call => s.callback head.call call ledgerFails head.kind
  | .finish id => s.onCall id (s.finish id)

/-- The callbacks of a call that are ready, in their order. -/
def LoopState.mine (s : LoopState) (id : Nat) : List CallbackKind :=
  (s.ready.filter (·.call = id)).map (·.kind)

/-- The lease of the call is on its way to it: the callback is posted or the inner future
    has it, and the call has not been cancelled yet. -/
def InWindow (s : LoopState) (id : Nat) : Prop :=
  ∃ call, s.calls.lookup id = some call ∧ call.task = .awaiting ∧ call.outer ≠ .cancelled ∧
    (.settleResult ∈ s.mine id ∨ call.completed = .result)

/-- No call is cancelled in the window. -/
def CancelsOutside (s : LoopState) : LoopEvent → Prop
  | .cancel id => ¬ InWindow s id
  | _ => True

/-- All calls have ended, all threads too, and all callbacks have run. -/
def Quiet (s : LoopState) : Prop :=
  s.ready = [] ∧ ∀ id call, s.calls.lookup id = some call →
    call.task = .ended ∧ call.thread = .posted

/-- No lease is given back twice. Once everything has ended each was given back, and no
    reservation is active or queued. -/
def NoLeak (s : LoopState) : Prop :=
  (∀ id call, s.calls.lookup id = some call → call.released ≤ call.granted ∧ call.granted ≤ 1) ∧
    (Quiet s → s.controller.active = [] ∧ s.controller.queue = [] ∧
      ∀ id call, s.calls.lookup id = some call → call.released = call.granted)

/-! ### One turn of a thread -/

/-- What one turn of the thread with this request and this number leaves behind: a lease,
    a thread asleep, or an error. -/
structure Turn (s : AdmissionController) (info : ModelRequestSchedulingInfo) (sequence : Nat)
    (answer : Reply × AdmissionController) : Prop where
  replies : (answer.1 = .lease info ∧ answer.2.active = s.active ++ [info]) ∨
    ((answer.1 = .waits ∨ ∃ error, answer.1 = .raises error) ∧ answer.2.active = s.active)
  asleep : ∀ waiter ∈ answer.2.waiters,
    (∃ old ∈ s.waiters, old.entry = waiter.entry ∧ old.entry.sequence ≠ sequence) ∨
      (answer.1 = .waits ∧ waiter.entry = ⟨sequence, info⟩)
  grows : s.sequence ≤ answer.2.sequence
  below : sequence < answer.2.sequence

section

variable {config : AdmissionConfig} {s : AdmissionController} {entry : QueueEntry}
    {info : ModelRequestSchedulingInfo} {sequence : Nat}

theorem withdraw_frame (s : AdmissionController) (entry : QueueEntry) :
    (s.withdraw entry).sequence = s.sequence ∧
      ∀ waiter ∈ (s.withdraw entry).waiters, ∃ old ∈ s.waiters, old.entry = waiter.entry := by
  unfold AdmissionController.withdraw
  by_cases hqueued : entry ∈ s.queue
  · rw [if_pos hqueued]
    refine ⟨rfl, fun waiter hwaiter => ?_⟩
    rcases List.mem_map.mp hwaiter with ⟨old, hold, rfl⟩
    exact ⟨old, hold, rfl⟩
  · rw [if_neg hqueued]
    exact ⟨rfl, fun waiter hwaiter => ⟨waiter, hwaiter, rfl⟩⟩

/-- One turn of the loop of `acquire`, for a caller that is awake. -/
theorem check_turn (haccounted : Accounted config s) (hawake : Awake entry s)
    (waited expired : Bool) :
    Turn s entry.info entry.sequence (AdmissionController.check config waited entry expired s) := by
  have hold : ∀ waiter ∈ s.waiters, ∃ old ∈ s.waiters, old.entry = waiter.entry ∧
      old.entry.sequence ≠ entry.sequence :=
    fun waiter hwaiter => ⟨waiter, hwaiter, rfl, hawake.awake waiter hwaiter⟩
  unfold AdmissionController.check
  by_cases hqueued : entry ∈ s.queue
  · simp only [hqueued, not_true_eq_false, if_false]
    by_cases hadmits : s.sortQueue.queue.head? = some entry ∧
        s.sortQueue.HasCapacity config entry.info
    · rw [if_pos hadmits]
      exact
        { replies := .inl ⟨rfl, reserve_of_fresh (haccounted.fresh hqueued)⟩
          asleep := fun waiter hwaiter => .inl (hold waiter hwaiter)
          grows := le_refl _
          below := hawake.given }
    · rw [if_neg hadmits]
      cases expired with
      | true =>
        have hframe := withdraw_frame
          { s.sortQueue.countWait waited entry with
            timeouts := (s.sortQueue.countWait waited entry).timeouts + 1 } entry
        refine
          { replies := .inr ⟨.inr ⟨_, rfl⟩, expire_active _ _⟩
            asleep := fun waiter hwaiter => .inl ?_
            grows := le_of_eq hframe.1.symm
            below := lt_of_lt_of_eq hawake.given hframe.1.symm }
        rcases hframe.2 waiter hwaiter with ⟨old, hmem, hsame⟩
        exact ⟨old, hmem, hsame, hawake.awake old hmem⟩
      | false =>
        refine
          { replies := .inr ⟨.inl rfl, rfl⟩
            asleep := fun waiter hwaiter => ?_
            grows := le_refl _
            below := hawake.given }
        rcases List.mem_append.mp hwaiter with hbefore | hlast
        · exact .inl (hold waiter hbefore)
        · exact .inr ⟨rfl, by rw [List.mem_singleton.mp hlast]⟩
  · rw [if_pos hqueued]
    have hframe := withdraw_frame s entry
    refine
      { replies := .inr ⟨.inr ⟨_, rfl⟩, withdraw_active _ _⟩
        asleep := fun waiter hwaiter => .inl ?_
        grows := le_of_eq hframe.1.symm
        below := lt_of_lt_of_eq hawake.given hframe.1.symm }
    rcases hframe.2 waiter hwaiter with ⟨old, hmem, hsame⟩
    exact ⟨old, hmem, hsame, hawake.awake old hmem⟩

/-- What one turn of a thread that asks for a lease does. -/
theorem acquire_turn (haccounted : Accounted config s) (hattended : Attended s)
    (info : ModelRequestSchedulingInfo) (expired : Bool) :
    (∃ error, (s.acquire config info expired).1 = .raises error ∧
      (s.acquire config info expired).2.active = s.active ∧
      (s.acquire config info expired).2.waiters = s.waiters ∧
      (s.acquire config info expired).2.sequence = s.sequence) ∨
    Turn s info s.sequence (s.acquire config info expired) := by
  unfold AdmissionController.acquire
  cases hcapacity : capacityError config info with
  | some error => exact .inl ⟨error, rfl, by cases error <;> exact ⟨rfl, rfl, rfl⟩⟩
  | none =>
    by_cases hknown : s.Known info.requestId
    · rw [if_pos hknown]
      exact .inl ⟨_, rfl, rfl, rfl, rfl⟩
    · rw [if_neg hknown]
      have hturn := check_turn (haccounted.enqueue hknown) (hattended.enqueue info) false expired
      exact .inr
        { replies := hturn.replies
          asleep := hturn.asleep
          grows := Nat.le_of_succ_le hturn.grows
          below := hturn.below }

/-- What one turn that delivers a wake-up does. -/
theorem wake_turn (haccounted : Accounted config s) (hattended : Attended s)
    {waiter : Waiter} (hsleeper : s.sleeper sequence = some waiter) (expired : Bool) :
    waiter ∈ s.waiters ∧ waiter.entry.sequence = sequence ∧
      Turn s waiter.entry.info sequence (s.wake config sequence expired) := by
  have hmem : waiter ∈ s.waiters := List.mem_of_find?_eq_some hsleeper
  have hnumber : waiter.entry.sequence = sequence := by simpa using List.find?_some hsleeper
  have hroused : Accounted config (s.rouse sequence) := haccounted.rouse sequence
  have hturn := check_turn hroused (hattended.rouse hsleeper) true expired
  refine ⟨hmem, hnumber, ?_⟩
  unfold AdmissionController.wake
  rw [hsleeper]
  subst hnumber
  refine
    { replies := hturn.replies
      asleep := fun other hother => ?_
      grows := hturn.grows
      below := hturn.below }
  rcases hturn.asleep other hother with ⟨old, hold, hsame, hne⟩ | hlast
  · exact .inl ⟨old, (List.mem_filter.mp hold).1, hsame, hne⟩
  · exact .inr hlast

end

end NovelAgent.Admission
