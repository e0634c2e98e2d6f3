import Mathlib.Data.List.Sort
import NovelAgent.Core.Run

/-!
# Model Request Admission

The scheduler that every caller of one model endpoint shares. A caller that asks
for capacity stands in a queue until its request is the first of it and fits the
free slots and the free tokens; a caller that has to wait sleeps on one condition
variable with all others.
-/

namespace NovelAgent.Admission

/-- What a caller asks for. -/
@[ext]
structure ModelRequestSchedulingInfo where
  requestId : String
  endpointId : String
  stage : String
  contextHash : String
  estimatedPromptTokens : Nat
  reservedOutputTokens : Nat
  safetyAllowanceTokens : Nat
  reservedSequenceTokens : Nat
  priority : Nat
  named : requestId ≠ "" ∧ endpointId ≠ "" ∧ stage ≠ "" ∧ contextHash ≠ ""
  summed : reservedSequenceTokens =
    estimatedPromptTokens + reservedOutputTokens + safetyAllowanceTokens
  positive : 1 ≤ reservedSequenceTokens
  ranked : priority ≤ 100

instance : DecidableEq ModelRequestSchedulingInfo := fun _ _ => decidable_of_iff _ ModelRequestSchedulingInfo.ext_iff.symm

theorem default_ranked : 50 ≤ 100 := by decide

/-- A request in the queue, with the number it was given there. -/
structure QueueEntry where
  sequence : Nat
  info : ModelRequestSchedulingInfo
deriving DecidableEq

/-- The sort key of the queue does not put `b` before `a`. -/
def QueueEntry.Before (a b : QueueEntry) : Prop :=
  b.info.priority < a.info.priority ∨
    a.info.priority = b.info.priority ∧ a.sequence ≤ b.sequence

instance : DecidableRel QueueEntry.Before := fun a b =>
  inferInstanceAs (Decidable (b.info.priority < a.info.priority ∨
    a.info.priority = b.info.priority ∧ a.sequence ≤ b.sequence))

/-- A caller asleep on the condition variable. -/
structure Waiter where
  entry : QueueEntry
  notified : Bool

/-- How a controller was built. The effective budget is the configured one less
    its safety reserve, rounded down. -/
structure AdmissionConfig where
  endpointRequestLimit : Nat
  effectiveKvBudget : Option Nat
  modelSequenceLimit : Nat
  limitPositive : 1 ≤ endpointRequestLimit
  budgetPositive : effectiveKvBudget ≠ some 0
  sequencePositive : 1 ≤ modelSequenceLimit

/-- Why a call raised. -/
inductive SchedulingError where
  | reservedTokensNotPositive
  | contextBudgetExceeded (requestId : String) (reservedSequenceTokens modelSequenceLimit : Nat)
  | budgetUnsatisfiable (requestId : String)
      (reservedSequenceTokens effectiveKvTokenBudget : Nat)
  | alreadyActiveOrQueued
  | cancelled (requestId : String)
  | timeout (requestId : String) (activeRequestIds queuedRequestIds : List String)
  | interrupted
  | noMatchingReservation
  | leaseNotActive
  | kvCounterUnderflow

/-- What a turn ends with. -/
inductive Reply where
  | lease (info : ModelRequestSchedulingInfo)
  | waits
  | raises (error : SchedulingError)
  | descriptor (info : ModelRequestSchedulingInfo)
  | reservation (requestId : String)
  | abandoned (dropped : Bool)
  | released
  | nobody

/-- What the lock protects. The reservations stand in the order of the dictionary
    they are kept in. -/
structure AdmissionController where
  queue : List QueueEntry
  active : List ModelRequestSchedulingInfo
  sequence : Nat
  legacySequence : Nat
  inflightKvTokens : Int
  acquiredRequests : Nat
  releasedRequests : Nat
  acquiredKvTokens : Nat
  releasedKvTokens : Nat
  timeouts : Nat
  unsatisfiable : Nat
  maxInflightRequests : Nat
  maxInflightKvTokens : Int
  admittedDescriptors : List ModelRequestSchedulingInfo
  waitsByStage : List (String × Nat)
  admissionsByEndpoint : List (String × Nat)
  waiters : List Waiter

/-- A controller nobody has called yet. -/
def AdmissionController.initial : AdmissionController where
  queue := []
  active := []
  sequence := 0
  legacySequence := 0
  inflightKvTokens := 0
  acquiredRequests := 0
  releasedRequests := 0
  acquiredKvTokens := 0
  releasedKvTokens := 0
  timeouts := 0
  unsatisfiable := 0
  maxInflightRequests := 0
  maxInflightKvTokens := 0
  admittedDescriptors := []
  waitsByStage := []
  admissionsByEndpoint := []
  waiters := []

def countOne (name : String) : List (String × Nat) → List (String × Nat)
  | [] => [(name, 1)]
  | (other, n) :: rest =>
    if other = name then (other, n + 1) :: rest else (other, n) :: countOne name rest

/-- Write a reservation under its request identity. -/
def reserve (info : ModelRequestSchedulingInfo) :
    List ModelRequestSchedulingInfo → List ModelRequestSchedulingInfo
  | [] => [info]
  | other :: rest =>
    if other.requestId = info.requestId then info :: rest else other :: reserve info rest

namespace AdmissionController

variable (config : AdmissionConfig)

/-- The request fits the free slots and the free tokens. -/
def HasCapacity (s : AdmissionController) (info : ModelRequestSchedulingInfo) : Prop :=
  s.active.length < config.endpointRequestLimit ∧
    ∀ budget ∈ config.effectiveKvBudget,
      s.inflightKvTokens + info.reservedSequenceTokens ≤ budget

instance (s : AdmissionController) (info : ModelRequestSchedulingInfo) :
    Decidable (s.HasCapacity config info) := by
  unfold HasCapacity
  infer_instance

/-- Every sleeping caller is told to look again. -/
def notifyAll (s : AdmissionController) : AdmissionController :=
  { s with waiters := s.waiters.map fun waiter => { waiter with notified := true } }

/-- The request of the entry leaves the queue for the reservations. -/
def activate (s : AdmissionController) (entry : QueueEntry) : AdmissionController :=
  let active := reserve entry.info s.active
  let inflight := s.inflightKvTokens + entry.info.reservedSequenceTokens
  { s with
    queue := s.queue.erase entry
    active := active
    inflightKvTokens := inflight
    acquiredRequests := s.acquiredRequests + 1
    acquiredKvTokens := s.acquiredKvTokens + entry.info.reservedSequenceTokens
    maxInflightRequests := max s.maxInflightRequests active.length
    maxInflightKvTokens := max s.maxInflightKvTokens inflight
    admissionsByEndpoint := countOne entry.info.endpointId s.admissionsByEndpoint
    admittedDescriptors := s.admittedDescriptors ++ [entry.info] }

/-- The `finally` of `acquire` for a caller that was not admitted. -/
def withdraw (s : AdmissionController) (entry : QueueEntry) : AdmissionController :=
  if entry ∈ s.queue then { s with queue := s.queue.erase entry }.notifyAll else s

def sortQueue (s : AdmissionController) : AdmissionController :=
  { s with queue := s.queue.insertionSort QueueEntry.Before }

/-- Count a caller that has to wait for the first time. -/
def countWait (s : AdmissionController) (waited : Bool) (entry : QueueEntry) :
    AdmissionController :=
  { s with
    waitsByStage :=
      if waited then s.waitsByStage else countOne entry.info.stage s.waitsByStage }

/-- What a caller whose deadline has passed is told. -/
def timeoutError (s : AdmissionController) (entry : QueueEntry) : SchedulingError :=
  .timeout entry.info.requestId ((s.active.map (·.requestId)).insertionSort (· ≤ ·))
    ((s.queue.filter (· ≠ entry)).map (·.info.requestId))

/-- The deadline of the caller has passed. -/
def expire (s : AdmissionController) (entry : QueueEntry) : AdmissionController :=
  { s with timeouts := s.timeouts + 1 }.withdraw entry

/-- The caller goes to sleep, or back to sleep. -/
def sleep (s : AdmissionController) (entry : QueueEntry) : AdmissionController :=
  { s with waiters := s.waiters ++ [⟨entry, false⟩] }

/-- One turn of the loop of `acquire`, for a caller that is awake. -/
def check (waited : Bool) (entry : QueueEntry) (expired : Bool) (s : AdmissionController) :
    Reply × AdmissionController :=
  if entry ∉ s.queue then
    (.raises (.cancelled entry.info.requestId), s.withdraw entry)
  else
    let s := s.sortQueue
    if s.queue.head? = some entry ∧ s.HasCapacity config entry.info then
      (.lease entry.info, s.activate entry)
    else
      let s := s.countWait waited entry
      if expired then (.raises (s.timeoutError entry), s.expire entry)
      else (.waits, s.sleep entry)

/-- The identity is taken by a reservation or by an entry of the queue. -/
def Known (s : AdmissionController) (requestId : String) : Prop :=
  (∃ info ∈ s.active, info.requestId = requestId) ∨
    ∃ entry ∈ s.queue, entry.info.requestId = requestId

instance (s : AdmissionController) (requestId : String) : Decidable (s.Known requestId) := by
  unfold Known
  infer_instance

/-- The entry that a new request stands in the queue with. -/
def newEntry (s : AdmissionController) (info : ModelRequestSchedulingInfo) : QueueEntry :=
  ⟨s.sequence, info⟩

/-- A new request joins the end of the queue. -/
def enqueue (s : AdmissionController) (info : ModelRequestSchedulingInfo) : AdmissionController :=
  { s with queue := s.queue ++ [s.newEntry info], sequence := s.sequence + 1 }

/-- Why a request can never be admitted, if so. -/
def capacityError (info : ModelRequestSchedulingInfo) : Option SchedulingError :=
  if config.modelSequenceLimit < info.reservedSequenceTokens then
    some (.contextBudgetExceeded info.requestId info.reservedSequenceTokens
      config.modelSequenceLimit)
  else
    match config.effectiveKvBudget with
    | none => none
    | some budget =>
      if budget < info.reservedSequenceTokens then
        some (.budgetUnsatisfiable info.requestId info.reservedSequenceTokens budget)
      else none

/-- Count a request that no budget can hold. -/
def countUnsatisfiable (s : AdmissionController) : SchedulingError → AdmissionController
  | .budgetUnsatisfiable _ _ _ => { s with unsatisfiable := s.unsatisfiable + 1 }
  | _ => s

/-- The call of `acquire`, up to its first wait. -/
def acquire (info : ModelRequestSchedulingInfo) (expired : Bool) (s : AdmissionController) :
    Reply × AdmissionController :=
  match capacityError config info with
  | some error => (.raises error, s.countUnsatisfiable error)
  | none =>
    if s.Known info.requestId then (.raises .alreadyActiveOrQueued, s)
    else check config false (s.newEntry info) expired (s.enqueue info)

/-- The caller that sleeps with the entry of this number. -/
def sleeper (s : AdmissionController) (sequence : Nat) : Option Waiter :=
  s.waiters.find? fun waiter => waiter.entry.sequence = sequence

/-- The caller of this number is awake. -/
def rouse (s : AdmissionController) (sequence : Nat) : AdmissionController :=
  { s with waiters := s.waiters.filter fun waiter => waiter.entry.sequence ≠ sequence }

/-- A sleeping caller wakes up, because it was told to or because its time is over. -/
def wake (sequence : Nat) (expired : Bool) (s : AdmissionController) :
    Reply × AdmissionController :=
  match s.sleeper sequence with
  | none => (.nobody, s)
  | some waiter => check config true waiter.entry expired (s.rouse sequence)

/-- A sleeping caller leaves with an exception of its own. -/
def interrupt (sequence : Nat) (s : AdmissionController) : Reply × AdmissionController :=
  match s.sleeper sequence with
  | none => (.nobody, s)
  | some waiter => (.raises .interrupted, (s.rouse sequence).withdraw waiter.entry)

def abandonRequest (requestId : String) (s : AdmissionController) :
    Reply × AdmissionController :=
  let remaining := s.queue.filter fun entry => entry.info.requestId ≠ requestId
  if remaining.length ≠ s.queue.length then
    (.abandoned true, { s with queue := remaining }.notifyAll)
  else (.abandoned false, s)

def releaseReservation (reservationId : String) (s : AdmissionController) :
    Reply × AdmissionController :=
  match s.active.find? fun info => info.requestId = reservationId with
  | none => (.raises .leaseNotActive, s)
  | some info =>
    let s := { s with
      active := s.active.eraseP fun other => other.requestId = reservationId
      inflightKvTokens := s.inflightKvTokens - info.reservedSequenceTokens }
    if s.inflightKvTokens < 0 then (.raises .kvCounterUnderflow, s)
    else
      (.released, { s with
        releasedRequests := s.releasedRequests + 1
        releasedKvTokens := s.releasedKvTokens + info.reservedSequenceTokens }.notifyAll)

/-- The reservation that an older caller gives back when it names its tokens only. -/
def legacyReservation (estimatedTokens : Nat) (s : AdmissionController) : Reply :=
  if estimatedTokens < 1 then .raises .reservedTokensNotPositive
  else
    match s.active.find? fun info =>
        info.stage = "legacy" ∧ info.reservedSequenceTokens = estimatedTokens with
    | none => .raises .noMatchingReservation
    | some info => .reservation info.requestId

end AdmissionController

theorem label_ne_empty {label : String} (h : label ≠ "") (text : String) : label ++ text ≠ "" := by
  intro hempty
  exact h (String.append_eq_empty_iff.mp hempty).1

/-- The descriptor of an older caller, which names its tokens only. -/
def legacyDescriptor (sequence tokens : Nat) (h : 1 ≤ tokens) : ModelRequestSchedulingInfo where
  requestId := "legacy-" ++ toString sequence
  endpointId := "legacy-endpoint"
  stage := "legacy"
  contextHash := "legacy-" ++ (toString sequence ++ "-" ++ toString tokens)
  estimatedPromptTokens := tokens
  reservedOutputTokens := 0
  safetyAllowanceTokens := 0
  reservedSequenceTokens := tokens
  priority := 50
  named := ⟨label_ne_empty (by decide) _, by decide, by decide, label_ne_empty (by decide) _⟩
  summed := rfl
  positive := h
  ranked := default_ranked

/-- Number an older caller. -/
def AdmissionController.coerceDescriptor (tokens : Nat) (s : AdmissionController) :
    Reply × AdmissionController :=
  if h : 1 ≤ tokens then
    (.descriptor (legacyDescriptor s.legacySequence tokens h),
      { s with legacySequence := s.legacySequence + 1 })
  else (.raises .reservedTokensNotPositive, s)

/-- What a thread can do when its turn comes. -/
inductive Command where
  | coerceDescriptor (tokens : Nat)
  | acquire (info : ModelRequestSchedulingInfo) (expired : Bool)
  | wake (sequence : Nat) (expired : Bool)
  | interrupt (sequence : Nat)
  | abandonRequest (requestId : String)
  | legacyReservation (estimatedTokens : Nat)
  | releaseReservation (reservationId : String)

/-- What a turn answers and leaves behind. -/
def perform (config : AdmissionConfig) (s : AdmissionController) :
    Command → Reply × AdmissionController
  | .coerceDescriptor tokens => s.coerceDescriptor tokens
  | .acquire info expired => s.acquire config info expired
  | .wake sequence expired => s.wake config sequence expired
  | .interrupt sequence => s.interrupt sequence
  | .abandonRequest requestId => s.abandonRequest requestId
  | .legacyReservation tokens => (s.legacyReservation tokens, s)
  | .releaseReservation reservationId => s.releaseReservation reservationId

/-- The state a turn leaves behind. -/
def step (config : AdmissionConfig) (s : AdmissionController) (command : Command) :
    AdmissionController :=
  (perform config s command).2

end NovelAgent.Admission
