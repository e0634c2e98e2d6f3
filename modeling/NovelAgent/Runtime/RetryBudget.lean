import Mathlib.Algebra.GroupWithZero.Nat
import NovelAgent.Runtime.Ownership

/-!
# The Retry Budget

What becomes of the attempts a task may still fail.
-/

namespace NovelAgent.Runtime

open Core Domain List

def failureCost (failure : Option FailureClass) : Nat :=
  if consumesTaskBudget failure = true then 1 else 0

/-- What an event takes from the budget of its task. -/
def spentBy : EventPayload → Nat
  | .attemptSettled settled => failureCost settled.failureClass
  | _ => 0

/-- What an event adds to it. -/
def grantedBy : EventPayload → Nat
  | .controlRecorded intent =>
    if intent.action = .extendBudget then intent.additionalAttempts else 0
  | _ => 0

/-- The budget that a task is created with. -/
def createdWith? : EventPayload → Option Nat
  | .taskCreated task => some task.failureBudget
  | _ => none

def settledBy? : EventPayload → Option AttemptSettled
  | .attemptSettled settled => some settled
  | _ => none

def payloadsOf (taskId : TaskId) (events : List RunEvent) : List EventPayload :=
  (events.filter fun event => event.taskId = some taskId).map RunEvent.payload

def budgetSpent (taskId : TaskId) (events : List RunEvent) : Nat :=
  ((payloadsOf taskId events).map spentBy).sum

def budgetGranted (taskId : TaskId) (events : List RunEvent) : Nat :=
  ((payloadsOf taskId events).map grantedBy).sum

def initialBudgets (taskId : TaskId) (events : List RunEvent) : List Nat :=
  (payloadsOf taskId events).filterMap createdWith?

variable {payload : EventPayload} {runId : RunId} {entries : List Entry} {k : TaskId}

section Payloads

variable {taskId : TaskId} {events more : List RunEvent}

theorem payloadsOf_append :
    payloadsOf taskId (events ++ more) = payloadsOf taskId events ++ payloadsOf taskId more := by
  rw [payloadsOf, filter_append, map_append]
  rfl

theorem budgetSpent_append :
    budgetSpent taskId (events ++ more) = budgetSpent taskId events + budgetSpent taskId more := by
  rw [budgetSpent, payloadsOf_append, map_append, sum_append]
  rfl

theorem budgetGranted_append : budgetGranted taskId (events ++ more) =
    budgetGranted taskId events + budgetGranted taskId more := by
  rw [budgetGranted, payloadsOf_append, map_append, sum_append]
  rfl

theorem initialBudgets_append : initialBudgets taskId (events ++ more) =
    initialBudgets taskId events ++ initialBudgets taskId more := by
  rw [initialBudgets, payloadsOf_append, filterMap_append]
  rfl

theorem mem_payloadsOf : payload ∈ payloadsOf taskId events ↔
    ∃ event ∈ events, event.taskId = some taskId ∧ event.payload = payload := by
  simp [payloadsOf, and_assoc]

theorem Records.taskId_eq :
    ∀ {entries : List Entry} {events : List RunEvent} {log : EventLog},
      Records log runId taskId entries events → ∀ event ∈ events, event.taskId = some taskId
  | [], [], _, _ => by simp
  | _ :: _, _ :: _, _, h => by
      rw [forall_mem_cons]
      exact ⟨h.1.taskId_eq, h.2.taskId_eq⟩
  | [], _ :: _, _, h => h.elim
  | _ :: _, [], _, h => h.elim

theorem Records.payloads_eq :
    ∀ {entries : List Entry} {events : List RunEvent} {log : EventLog},
      Records log runId taskId entries events →
      events.map RunEvent.payload = entries.map Entry.payload
  | [], [], _, _ => rfl
  | _ :: _, _ :: _, _, h => by
      rw [map_cons, map_cons, h.1.payload_eq, h.2.payloads_eq]
  | [], _ :: _, _, h => h.elim
  | _ :: _, [], _, h => h.elim

theorem Records.payloadsOf_eq {log : EventLog} (h : Records log runId taskId entries events) :
    payloadsOf taskId events = entries.map Entry.payload := by
  have hall : events.filter (fun event => event.taskId = some taskId) = events :=
    filter_eq_self.mpr fun event hevent => decide_eq_true (h.taskId_eq event hevent)
  rw [payloadsOf, hall, h.payloads_eq]

theorem payloadsOf_other (h : ∀ event ∈ events, event.taskId = some taskId) (hk : k ≠ taskId) :
    payloadsOf k events = [] := by
  rw [payloadsOf, map_eq_nil_iff, filter_eq_nil_iff]
  intro event hevent
  rw [h event hevent]
  simp [Ne.symm hk]

end Payloads

/-- What a move does to the budget of the task it is about. -/
inductive Posting (task task' : TaskRecord) (payloads : List EventPayload) : Prop
  | kept (hsettled : ∀ payload ∈ payloads, settledBy? payload = none)
      (hcreated : ∀ payload ∈ payloads, createdWith? payload = none)
      (hbudget : task'.failureBudget =
        task.failureBudget + (payloads.map grantedBy).sum)
      (hopened : task'.currentAttemptId ≠ none → task.currentAttemptId = none →
        0 < task.failureBudget)
  | settled (settled : AttemptSettled)
      (hsettled : ∀ payload ∈ payloads, ∀ other, settledBy? payload = some other →
        other = settled)
      (hspent : (payloads.map spentBy).sum = failureCost settled.failureClass)
      (hgranted : (payloads.map grantedBy).sum = 0)
      (hcreated : ∀ payload ∈ payloads, createdWith? payload = none)
      (hbudget : task'.failureBudget = task.failureBudget - failureCost settled.failureClass)
      (hactive : task.currentAttemptId ≠ none) (hclosed : task'.currentAttemptId = none)

variable {command : Command} {task task' : TaskRecord}

theorem Rewrites.posting (h : Rewrites command task task' entries) :
    Posting task task' (entries.map Entry.payload) := by
  have hopened : task'.currentAttemptId ≠ none → task.currentAttemptId = none →
      0 < task.failureBudget := fun hcurrent hidle => absurd (h.current_eq.trans hidle) hcurrent
  cases h with
  | controlled _ commandId request action actorId reason observed haction hretry =>
    have hplain : action ≠ .extendBudget := by
      rintro rfl
      cases request <;> simp [RequestedControl.action?] at haction
    refine .kept (by simp [settledBy?]) (by simp [createdWith?]) ?_ hopened
    simp [grantedBy, hplain, controlledTask]
  | _ =>
    exact .kept (by simp [settledBy?]) (by simp [createdWith?]) rfl hopened

/-- The payload means nothing for a budget. -/
def Silent (payload : EventPayload) : Prop :=
  settledBy? payload = none ∧ spentBy payload = 0 ∧ grantedBy payload = 0 ∧
    createdWith? payload = none

theorem IsBlockNotice.silent {notices : List Entry} (h : ∀ entry ∈ notices, IsBlockNotice entry) :
    ∀ payload ∈ notices.map Entry.payload, Silent payload := by
  intro payload hpayload
  rcases mem_map.mp hpayload with ⟨entry, hentry, rfl⟩
  rcases h entry hentry with ⟨failure, fingerprint, message, ref, hnotice⟩
  rw [hnotice]
  exact ⟨rfl, rfl, rfl, rfl⟩

variable {payloads : List EventPayload}

theorem sum_map_eq_zero {weight : EventPayload → Nat}
    (h : ∀ payload ∈ payloads, weight payload = 0) : (payloads.map weight).sum = 0 := by
  induction payloads with
  | nil => rfl
  | cons payload payloads ih =>
    rw [forall_mem_cons] at h
    rw [map_cons, sum_cons, h.1, ih h.2]

theorem Posting.of_settlement (before : List EventPayload) (settled : AttemptSettled)
    (hsilent : ∀ payload ∈ before, Silent payload)
    (hbudget : task'.failureBudget = task.failureBudget - failureCost settled.failureClass)
    (hactive : task.currentAttemptId ≠ none) (hclosed : task'.currentAttemptId = none) :
    Posting task task' (before ++ [.attemptSettled settled]) := by
  have hspent := sum_map_eq_zero fun payload hpayload => (hsilent payload hpayload).2.1
  have hgranted := sum_map_eq_zero fun payload hpayload => (hsilent payload hpayload).2.2.1
  refine .settled settled ?_ ?_ ?_ ?_ hbudget hactive hclosed
  · intro payload hpayload other hother
    rcases mem_append.mp hpayload with hbefore | hlast
    · rw [(hsilent payload hbefore).1] at hother
      exact absurd hother (by simp)
    · rw [mem_singleton.mp hlast] at hother
      exact (Option.some.inj hother).symm
  · rw [map_append, sum_append, hspent]
    simp [spentBy]
  · rw [map_append, sum_append, hgranted]
    simp [grantedBy]
  · intro payload hpayload
    rcases mem_append.mp hpayload with hbefore | hlast
    · exact (hsilent payload hbefore).2.2.2
    · rw [mem_singleton.mp hlast]
      rfl

variable {env : Env}

theorem Closes.posting {attempt attempt' : TaskAttempt}
    (h : Closes env command task task' attempt attempt' entries)
    (hactive : task.currentAttemptId ≠ none) : Posting task task' (entries.map Entry.payload) := by
  have hclosed := h.current_eq
  cases h with
  | reclaimed =>
    refine .of_settlement [_] _ ?_ rfl hactive hclosed
    rw [forall_mem_singleton]
    exact ⟨rfl, rfl, rfl, rfl⟩
  | settled _ _ fence outcome terminalStatus refs reported successors failure status notices identity
      htask hfailure hstatus hcancel hsettleable hnotices =>
    rw [map_append]
    exact .of_settlement _ _ (IsBlockNotice.silent hnotices) rfl hactive hclosed
  | gapSettled _ _ fence findingRef maintenance notice identity htask hkind hnotice =>
    refine .of_settlement [_] _ ?_ rfl hactive hclosed
    exact IsBlockNotice.silent (forall_mem_singleton.mpr hnotice)
  | maintenanceSettled => exact .of_settlement [] _ (by simp) rfl hactive hclosed
  | reconciled _ _ commandId identity actorId reason terminalStatus given observed refs decision
      failure status notices hdecision hfailure hstatus hnotices =>
    rw [map_cons, map_append]
    refine .of_settlement (_ :: _) _ ?_ rfl hactive hclosed
    rw [forall_mem_cons]
    exact ⟨⟨rfl, rfl, rfl, rfl⟩, IsBlockNotice.silent hnotices⟩
  | committed _ _ fence request successors result notices commitIdentity identity htask hkind
      hnotices =>
    have hevent : Silent (commitSettlement result).event := by
      unfold commitSettlement
      split <;> exact ⟨rfl, rfl, rfl, rfl⟩
    rw [map_append, map_cons, append_cons]
    refine .of_settlement _ _ ?_ rfl hactive hclosed
    intro payload hpayload
    rcases mem_append.mp hpayload with hnotice | hlast
    · exact IsBlockNotice.silent hnotices payload hnotice
    · rw [mem_singleton.mp hlast]
      exact hevent
  | externallySettled =>
    refine .of_settlement [_] _ ?_ rfl hactive hclosed
    rw [forall_mem_singleton]
    exact ⟨rfl, rfl, rfl, rfl⟩

/-- A move as it looks to all budgets: it creates a task, posts to the budget of one task, which it
    has not touched since the command began, or means nothing for any. -/
inductive Booked (db₀ db db' : Db) (events : List RunEvent) : Prop
  | created (task : TaskRecord) (habsent : db.stored task.taskId = none)
      (hidle : task.currentAttemptId = none)
      (hstored : ∀ k, db'.stored k = if k = task.taskId then some task else db.stored k)
      (htask : ∀ event ∈ events, event.taskId = some task.taskId)
      (hpayloads : payloadsOf task.taskId events = [.taskCreated task])
  | posted (k : TaskId) (task task' : TaskRecord) (hstart : db₀.stored k = some task)
      (hrow : db.stored k = some task)
      (hstored : ∀ k', db'.stored k' = if k' = k then some task' else db.stored k')
      (htask : ∀ event ∈ events, event.taskId = some k)
      (hposting : Posting task task' (payloadsOf k events))
  | apart (hstored : ∀ k, db'.stored k = db.stored k)
      (hknown : ∀ event ∈ events, ∀ k, event.taskId = some k → db.stored k ≠ none)
      (hsilent : ∀ k, ∀ payload ∈ payloadsOf k events, Silent payload)

variable {db₀ db db' : Db}

theorem Booked.of_records {events : List RunEvent} {task : TaskRecord}
    (hrow : db.stored k = some task) (hstored : ∀ k', db'.stored k' = db.stored k')
    (hrecords : Records db.log runId k entries events)
    (hsilent : ∀ entry ∈ entries, Silent entry.payload) : Booked db₀ db db' events := by
  refine .apart hstored ?_ ?_
  · intro event hevent k' hk'
    rw [hrecords.taskId_eq event hevent, Option.some.injEq] at hk'
    rw [← hk', hrow]
    simp
  · intro k' payload hpayload
    by_cases hk : k' = k
    · rw [hk, hrecords.payloadsOf_eq] at hpayload
      rcases mem_map.mp hpayload with ⟨entry, hentry, rfl⟩
      exact hsilent entry hentry
    · rw [payloadsOf_other hrecords.taskId_eq hk] at hpayload
      exact absurd hpayload (by simp)

theorem Move.booked (h : Move env command db₀ db db') (hdb₀ : Owning db₀.tasks db₀.attempts)
    (hcommand : command.unclaimed = true) :
    ∃ events, db'.log.events = db.log.events ++ events ∧ Booked db₀ db db' events := by
  cases h with
  | created task entry events habsent hcurrent hlater hentry hrecords =>
    refine ⟨events, EventLog.pushAll_events _ _, ?_⟩
    have hidle : task.currentAttemptId = none := by
      rcases hcurrent with hnone | rfl | ⟨planner, hplanner, hblocked, hsame⟩
      · exact hnone
      · exact Option.isNone_iff_eq_none.mp hcommand
      · rw [Db.stored, Option.map_eq_some_iff] at hplanner
        rcases hplanner with ⟨row, hrow, rfl⟩
        rw [hsame]
        exact hdb₀.idle_of_not hrow (by simp [mayOwn, hblocked])
    refine .created task ?_ hidle (Db.stored_putTask _ _ · _) hrecords.taskId_eq ?_
    · rw [Db.stored, habsent]
      rfl
    · rw [hrecords.payloadsOf_eq, map_cons, map_nil, hentry]
  | rewritten row task entries events hrow hstart hrewrites hrecords =>
    refine ⟨events, EventLog.pushAll_events _ _, ?_⟩
    refine .posted _ row.taskJson task hstart (stored_of_lookup hrow)
      (Db.stored_putTask _ _ · _) hrecords.taskId_eq ?_
    rw [hrecords.payloadsOf_eq]
    exact hrewrites.posting
  | opened row attempt fenceDigest identity events workerId observed hrow hstart hclaim hready hidle
      hbudget habsent htask hopen hrecords =>
    refine ⟨events, EventLog.pushAll_events _ _, ?_⟩
    refine .posted _ row.taskJson _ hstart (stored_of_lookup hrow)
      (Db.stored_putTask _ _ · _) hrecords.taskId_eq ?_
    rw [hrecords.payloadsOf_eq]
    exact .kept (by simp [settledBy?]) (by simp [createdWith?]) rfl
      fun _ _ => Nat.pos_of_ne_zero hbudget
  | touched row arow attempt entries events hunsigned hrow hcurrent harow hid htask hended hentries
      hrecords =>
    refine ⟨events, EventLog.pushAll_events _ _, ?_⟩
    refine .of_records (stored_of_lookup hrow) (fun _ => rfl) hrecords ?_
    rcases hentries with rfl | ⟨workerId, startedAt, identity, rfl⟩
    · simp
    · exact forall_mem_singleton.mpr ⟨rfl, rfl, rfl, rfl⟩
  | closed row task arow attempt entries events hrow hstart hcurrent harow hcloses heffects hfrontier
      hrecords =>
    refine ⟨events, EventLog.pushAll_events _ _, ?_⟩
    refine .posted _ row.taskJson task hstart (stored_of_lookup hrow)
      (Db.stored_putTask _ _ · _) hrecords.taskId_eq ?_
    rw [hrecords.payloadsOf_eq]
    exact hcloses.posting (by simp [hcurrent])
  | requested row erow receipt identity events hunsigned hrow hcurrent hagrees habsent hrecords =>
    refine ⟨events, EventLog.pushAll_events _ _, ?_⟩
    exact .of_records (stored_of_lookup hrow) (fun _ => rfl) hrecords
      (forall_mem_singleton.mpr ⟨rfl, rfl, rfl, rfl⟩)
  | resolved row erow receipt identity refs events hfirst hrow herow hstatus howner hrecords =>
    refine ⟨events, EventLog.pushAll_events _ _, ?_⟩
    exact .of_records (stored_of_lookup hrow) (fun _ => rfl) hrecords
      (forall_mem_singleton.mpr ⟨rfl, rfl, rfl, rfl⟩)
  | laneTaken row attempt fence generation identity events hfirst hrow hstart hclaim hcurrent harow
      hgeneration hrecords =>
    refine ⟨events, EventLog.pushAll_events _ _, ?_⟩
    refine .posted _ row.taskJson _ hstart (stored_of_lookup hrow)
      (Db.stored_putTask _ _ · _) hrecords.taskId_eq ?_
    rw [hrecords.payloadsOf_eq]
    refine .kept (by simp [settledBy?]) (by simp [createdWith?]) rfl ?_
    intro _ hidle
    rw [hcurrent] at hidle
    exact absurd hidle (by simp)
  | advanced canon hunsigned hproject =>
    exact ⟨[], (append_nil _).symm, .apart (fun _ => rfl) (by simp) (by simp [payloadsOf])⟩
  | checkpointed row attemptId checkpoint crow identity refs events hunsigned hrow hrecords =>
    refine ⟨events, EventLog.pushAll_events _ _, ?_⟩
    exact .of_records (stored_of_lookup hrow) (fun _ => rfl) hrecords
      (forall_mem_singleton.mpr ⟨rfl, rfl, rfl, rfl⟩)

/-- The account of every task is right: one creation gave it its budget, the
    extensions added to that, and the failures took from it. -/
structure Balanced (db : Db) : Prop where
  active : ∀ k task, db.stored k = some task → task.currentAttemptId ≠ none →
    0 < task.failureBudget
  known : ∀ event ∈ db.log.events, ∀ k, event.taskId = some k → db.stored k ≠ none
  account : ∀ k task, db.stored k = some task → ∃ initial,
    initialBudgets k db.log.events = [initial] ∧
    task.failureBudget + budgetSpent k db.log.events = initial + budgetGranted k db.log.events

theorem failureCost_le (failure : Option FailureClass) : failureCost failure ≤ 1 := by
  unfold failureCost
  split <;> omega

theorem spentBy_eq_zero (h : settledBy? payload = none) : spentBy payload = 0 := by
  cases payload with
  | attemptSettled settled => exact absurd h (by simp [settledBy?])
  | _ => rfl

theorem initialBudgets_eq_nil {events : List RunEvent}
    (h : ∀ payload ∈ payloadsOf k events, createdWith? payload = none) :
    initialBudgets k events = [] :=
  filterMap_eq_nil_iff.mpr h

theorem Balanced.silent {db : Db} (hdb : Balanced db) {task : TaskRecord}
    (htask : db.stored k = some task) {events : List RunEvent}
    (h : ∀ payload ∈ payloadsOf k events, Silent payload) : ∃ initial,
    initialBudgets k (db.log.events ++ events) = [initial] ∧
      task.failureBudget + budgetSpent k (db.log.events ++ events) =
        initial + budgetGranted k (db.log.events ++ events) := by
  have hspent : budgetSpent k events = 0 := sum_map_eq_zero fun payload hp => (h payload hp).2.1
  have hgranted : budgetGranted k events = 0 :=
    sum_map_eq_zero fun payload hp => (h payload hp).2.2.1
  rw [initialBudgets_append, initialBudgets_eq_nil fun payload hp => (h payload hp).2.2.2,
    budgetSpent_append, budgetGranted_append, hspent, hgranted, append_nil]
  exact hdb.account k task htask

/-- What a posting does to the account of its task. The task is active when a
    settlement is posted, so its budget covers the cost. -/
theorem Posting.account {old events : List RunEvent} {initial : Nat}
    (h : Posting task task' (payloadsOf k events))
    (hactive : task.currentAttemptId ≠ none → 0 < task.failureBudget)
    (hinitial : initialBudgets k old = [initial])
    (haccount : task.failureBudget + budgetSpent k old = initial + budgetGranted k old) :
    initialBudgets k (old ++ events) = [initial] ∧
      task'.failureBudget + budgetSpent k (old ++ events) =
        initial + budgetGranted k (old ++ events) := by
  cases h with
  | kept hsettled hcreated hbudget hopened =>
    have hspent : budgetSpent k events = 0 :=
      sum_map_eq_zero fun payload hp => spentBy_eq_zero (hsettled payload hp)
    rw [initialBudgets_append, initialBudgets_eq_nil hcreated, hinitial, budgetSpent_append,
      budgetGranted_append, hspent]
    have hgranted : budgetGranted k events = ((payloadsOf k events).map grantedBy).sum := rfl
    exact ⟨rfl, by omega⟩
  | settled settled hsettled hspent hgranted hcreated hbudget hcurrent hclosed =>
    have hpositive := hactive hcurrent
    have hcost := failureCost_le settled.failureClass
    have hspentHere : budgetSpent k events = failureCost settled.failureClass := hspent
    have hgrantedHere : budgetGranted k events = 0 := hgranted
    rw [initialBudgets_append, initialBudgets_eq_nil hcreated, hinitial, budgetSpent_append,
      budgetGranted_append, hspentHere, hgrantedHere]
    exact ⟨rfl, by omega⟩

theorem Posting.active (h : Posting task task' payloads)
    (hactive : task.currentAttemptId ≠ none → 0 < task.failureBudget)
    (hcurrent : task'.currentAttemptId ≠ none) : 0 < task'.failureBudget := by
  cases h with
  | kept hsettled hcreated hbudget hopened =>
    by_cases hidle : task.currentAttemptId = none
    · have hpositive := hopened hcurrent hidle
      omega
    · have hpositive := hactive hidle
      omega
  | settled settled hsettled hspent hgranted hcreated hbudget hcurrent' hclosed =>
    exact absurd hclosed hcurrent

/-- A record is written and the new events are its task's. The accounts are right
    when that task's is. -/
theorem Balanced.written {db db' : Db} {events : List RunEvent} {task : TaskRecord}
    (hdb : Balanced db) (hlog : db'.log.events = db.log.events ++ events)
    (hstored : ∀ k', db'.stored k' = if k' = k then some task else db.stored k')
    (htask : ∀ event ∈ events, event.taskId = some k)
    (hactive : task.currentAttemptId ≠ none → 0 < task.failureBudget)
    (haccount : ∃ initial, initialBudgets k (db.log.events ++ events) = [initial] ∧
      task.failureBudget + budgetSpent k (db.log.events ++ events) =
        initial + budgetGranted k (db.log.events ++ events)) : Balanced db' := by
  refine ⟨?_, ?_, ?_⟩
  · intro k' stored hk' hcurrent
    rw [hstored] at hk'
    by_cases hsame : k' = k
    · rw [if_pos hsame, Option.some.injEq] at hk'
      subst hk'
      exact hactive hcurrent
    · rw [if_neg hsame] at hk'
      exact hdb.active k' stored hk' hcurrent
  · intro event hevent k' hk'
    rw [hstored]
    by_cases hsame : k' = k
    · simp [hsame]
    · rw [if_neg hsame]
      rw [hlog] at hevent
      rcases mem_append.mp hevent with hold | hnew
      · exact hdb.known event hold k' hk'
      · rw [htask event hnew, Option.some.injEq] at hk'
        exact absurd hk'.symm hsame
  · intro k' stored hk'
    rw [hstored] at hk'
    rw [hlog]
    by_cases hsame : k' = k
    · rw [if_pos hsame, Option.some.injEq] at hk'
      subst hsame hk'
      exact haccount
    · rw [if_neg hsame] at hk'
      exact hdb.silent hk' (by simp [payloadsOf_other htask hsame])

theorem Booked.balanced {events : List RunEvent} (h : Booked db₀ db db' events)
    (hlog : db'.log.events = db.log.events ++ events) (hdb : Balanced db) : Balanced db' := by
  cases h with
  | created task habsent hidle hstored htask hpayloads =>
    -- Nothing was ever recorded for the task.
    have hnothing : payloadsOf task.taskId db.log.events = [] := by
      rw [payloadsOf, map_eq_nil_iff, filter_eq_nil_iff]
      intro event hevent heq
      exact hdb.known event hevent _ (of_decide_eq_true heq) habsent
    refine hdb.written hlog hstored htask (absurd hidle) ⟨task.failureBudget, ?_, ?_⟩
    · rw [initialBudgets, payloadsOf_append, hnothing, hpayloads]
      rfl
    · rw [budgetSpent, budgetGranted, payloadsOf_append, hnothing, hpayloads]
      rfl
  | posted k task task' hstart hrow hstored htask hposting =>
    have hactive := hdb.active k task hrow
    rcases hdb.account k task hrow with ⟨initial, hinitial, haccount⟩
    exact hdb.written hlog hstored htask (hposting.active hactive)
      ⟨initial, hposting.account hactive hinitial haccount⟩
  | apart hstored hknown hsilent =>
    refine ⟨?_, ?_, ?_⟩
    · intro k stored hk hcurrent
      rw [hstored] at hk
      exact hdb.active k stored hk hcurrent
    · intro event hevent k hk
      rw [hstored]
      rw [hlog] at hevent
      rcases mem_append.mp hevent with hold | hnew
      · exact hdb.known event hold k hk
      · exact hknown event hnew k hk
    · intro k stored hk
      rw [hstored] at hk
      rw [hlog]
      exact hdb.silent hk (hsilent k)

/-- What a command has posted so far. A task whose record is still the one the
    command found has had nothing settled; any other has its one posting. -/
structure Posted (db₀ db : Db) (events : List RunEvent) : Prop where
  log : db.log.events = db₀.log.events ++ events
  stored : ∀ k task, db₀.stored k = some task → ∃ task', db.stored k = some task' ∧
    (task' = task ∧ (∀ payload ∈ payloadsOf k events, settledBy? payload = none) ∨
      task' ≠ task ∧ ∀ payload ∈ payloadsOf k events, ∀ settled,
        settledBy? payload = some settled →
        task'.failureBudget + failureCost settled.failureClass = task.failureBudget)
  absent : ∀ k, db₀.stored k = none → ∀ payload ∈ payloadsOf k events, settledBy? payload = none

theorem Posted.refl (db : Db) : Posted db db [] :=
  ⟨(append_nil _).symm, fun _ task htask => ⟨task, htask, .inl ⟨rfl, by simp [payloadsOf]⟩⟩,
    by simp [payloadsOf]⟩

theorem Posted.unsettled {events new : List RunEvent} (h : Posted db₀ db events)
    {task : TaskRecord} (htask : db₀.stored k = some task) (hsame : db'.stored k = db.stored k)
    (hnew : ∀ payload ∈ payloadsOf k new, settledBy? payload = none) :
    ∃ task', db'.stored k = some task' ∧
      (task' = task ∧ (∀ payload ∈ payloadsOf k (events ++ new), settledBy? payload = none) ∨
        task' ≠ task ∧ ∀ payload ∈ payloadsOf k (events ++ new), ∀ settled,
          settledBy? payload = some settled →
          task'.failureBudget + failureCost settled.failureClass = task.failureBudget) := by
  rcases h.stored k task htask with ⟨task', htask', hcases⟩
  refine ⟨task', hsame.trans htask', ?_⟩
  rw [payloadsOf_append]
  rcases hcases with ⟨heq, hnone⟩ | ⟨hne, hposted⟩
  · refine .inl ⟨heq, ?_⟩
    intro payload hpayload
    rcases mem_append.mp hpayload with hold | hlate
    · exact hnone payload hold
    · exact hnew payload hlate
  · refine .inr ⟨hne, ?_⟩
    intro payload hpayload settled hsettled
    rcases mem_append.mp hpayload with hold | hlate
    · exact hposted payload hold settled hsettled
    · rw [hnew payload hlate] at hsettled
      exact absurd hsettled (by simp)

/-- Every booked move posts to a task it has not posted to yet. -/
theorem Booked.posted_next {events new : List RunEvent} (h : Booked db₀ db db' new)
    (hlog : db'.log.events = db.log.events ++ new) (hdb₀ : Balanced db₀)
    (hdb : Posted db₀ db events) : Posted db₀ db' (events ++ new) := by
  have hall : db'.log.events = db₀.log.events ++ (events ++ new) := by
    rw [hlog, hdb.log, append_assoc]
  have habsent : ∀ k, db₀.stored k = none →
      (∀ payload ∈ payloadsOf k new, settledBy? payload = none) →
      ∀ payload ∈ payloadsOf k (events ++ new), settledBy? payload = none := by
    intro k hk hnew payload hpayload
    rw [payloadsOf_append] at hpayload
    rcases mem_append.mp hpayload with hold | hlate
    · exact hdb.absent k hk payload hold
    · exact hnew payload hlate
  cases h with
  | created task hnone hidle hstored htask hpayloads =>
    have hnew : ∀ k, ∀ payload ∈ payloadsOf k new, settledBy? payload = none := by
      intro k payload hpayload
      by_cases hk : k = task.taskId
      · rw [hk, hpayloads, mem_singleton] at hpayload
        rw [hpayload]
        rfl
      · rw [payloadsOf_other htask hk] at hpayload
        exact absurd hpayload (by simp)
    refine ⟨hall, ?_, fun k hk => habsent k hk (hnew k)⟩
    intro k stored hk
    refine hdb.unsettled hk ?_ (hnew k)
    rw [hstored, if_neg]
    rintro rfl
    rcases hdb.stored _ stored hk with ⟨found, hfound, _⟩
    rw [hnone] at hfound
    exact absurd hfound (by simp)
  | posted k task task' hstart hrow hstored htask hposting =>
    have hother : ∀ k', k' ≠ k → ∀ payload ∈ payloadsOf k' new, settledBy? payload = none := by
      intro k' hk' payload hpayload
      rw [payloadsOf_other htask hk'] at hpayload
      exact absurd hpayload (by simp)
    refine ⟨hall, ?_, ?_⟩
    · intro k' stored hk'
      by_cases hsame : k' = k
      · subst hsame
        rw [hstart, Option.some.injEq] at hk'
        subst hk'
        -- The record is still the one the command found, so nothing has
        -- been settled for the task before this move.
        rcases hdb.stored k' task hstart with ⟨found, hfound, ⟨_, hnone⟩ | ⟨hne, _⟩⟩
        · refine ⟨task', by rw [hstored, if_pos rfl], ?_⟩
          rw [payloadsOf_append]
          cases hposting with
          | kept hsettled hcreated hbudget hopened =>
            have hquiet : ∀ payload ∈ payloadsOf k' events ++ payloadsOf k' new,
                settledBy? payload = none := by
              intro payload hpayload
              rcases mem_append.mp hpayload with hold | hlate
              · exact hnone payload hold
              · exact hsettled payload hlate
            by_cases heq : task' = task
            · exact .inl ⟨heq, hquiet⟩
            · refine .inr ⟨heq, ?_⟩
              intro payload hpayload settled hsettled
              rw [hquiet payload hpayload] at hsettled
              exact absurd hsettled (by simp)
          | settled settled hsettled hspent hgranted hcreated hbudget hactive hclosed =>
            refine .inr ⟨?_, ?_⟩
            · rintro rfl
              exact hactive hclosed
            · intro payload hpayload other hother'
              rcases mem_append.mp hpayload with hold | hlate
              · rw [hnone payload hold] at hother'
                exact absurd hother' (by simp)
              · rw [hsettled payload hlate other hother']
                have hpositive := hdb₀.active k' task hstart hactive
                have hcost := failureCost_le settled.failureClass
                omega
        · rw [hrow, Option.some.injEq] at hfound
          exact absurd hfound.symm hne
      · refine hdb.unsettled hk' ?_ (hother k' hsame)
        rw [hstored, if_neg hsame]
    · intro k' hk'
      refine habsent k' hk' (hother k' ?_)
      rintro rfl
      rw [hstart] at hk'
      exact absurd hk' (by simp)
  | apart hstored hknown hsilent =>
    have hnew : ∀ k, ∀ payload ∈ payloadsOf k new, settledBy? payload = none :=
      fun k payload hpayload => (hsilent k payload hpayload).1
    exact ⟨hall, fun k stored hk => hdb.unsettled hk (hstored k) (hnew k),
      fun k hk => habsent k hk (hnew k)⟩

theorem Move.balanced (h : Move env command db₀ db db') (hdb₀ : Owning db₀.tasks db₀.attempts)
    (hcommand : command.unclaimed = true) (hdb : Balanced db) : Balanced db' := by
  rcases h.booked hdb₀ hcommand with ⟨events, hlog, hbooked⟩
  exact hbooked.balanced hlog hdb

theorem balanced_fresh (canon : Canon) : Balanced (Db.fresh canon) := by
  refine ⟨?_, ?_, ?_⟩
  · intro k task htask
    exact absurd htask (by simp [Db.stored, Db.fresh])
  · intro event hevent
    exact absurd hevent (by simp [Db.fresh])
  · intro k task htask
    exact absurd htask (by simp [Db.stored, Db.fresh])

variable (service : Service)

theorem runCalls_balanced (canon : Canon) (calls : List Call) (hcalls : Disciplined calls) :
    Balanced (runCalls service (Db.fresh canon) calls) :=
  (runCalls_invariant service (fun db => Owning db.tasks db.attempts ∧ Balanced db)
    (fun canon => ⟨owning_fresh canon, balanced_fresh canon⟩)
    (fun _ _ _ _ _ _ hdb₀ hcommand hmove hdb =>
      ⟨hmove.owning hdb₀.1 hcommand hdb.1, hmove.balanced hdb₀.1 hcommand hdb.2⟩)
    canon calls hcalls).2

theorem step_posted {db : Db} {call : Call} (hdb : Coherent db)
    (hown : Owning db.tasks db.attempts) (hbalanced : Balanced db)
    (hcommand : call.command.unclaimed = true) :
    ∃ events, Posted db (step service db call) events := by
  refine Moves.invariant (fun reached => ∃ events, Posted db reached events) ?_
    (step_moves service db call hdb) ⟨[], Posted.refl db⟩
  rintro before after hmove ⟨events, hposted⟩
  rcases hmove.booked hown hcommand with ⟨new, hlog, hbooked⟩
  exact ⟨events ++ new, hbooked.posted_next hlog hbalanced hposted⟩

/-- Every attempt that was running when the command began and has ended since
    has its settlement among the events of the command. -/
def Settlements (command : Command) (db₀ db : Db) (events : List RunEvent) : Prop :=
  ∀ a arow, db₀.attempts.lookup a = some arow → arow.attemptJson.endedAt = none →
    ∃ found, db.attempts.lookup a = some found ∧
      found.attemptJson.taskId = arow.attemptJson.taskId ∧
      (found.attemptJson.endedAt ≠ none → ∃ event ∈ events, ∃ settled,
        event.taskId = some arow.attemptJson.taskId ∧ event.payload = .attemptSettled settled ∧
        settled.attemptId = a ∧ command.SettledAs settled.failureClass)

theorem Settlements.next {events new : List RunEvent} (hdb : Settlements command db₀ db events)
    (h : Move env command db₀ db db') (hown : Owning db.tasks db.attempts)
    (hlog : db'.log.events = db.log.events ++ new) :
    Settlements command db₀ db' (events ++ new) := by
  intro a arow harow hopen
  rcases hdb a arow harow hopen with ⟨found, hfound, htask, hsettled⟩
  have hkept : db'.attempts.lookup a = some found → ∃ found, db'.attempts.lookup a = some found ∧
      found.attemptJson.taskId = arow.attemptJson.taskId ∧
      (found.attemptJson.endedAt ≠ none → ∃ event ∈ events ++ new, ∃ settled,
        event.taskId = some arow.attemptJson.taskId ∧ event.payload = .attemptSettled settled ∧
        settled.attemptId = a ∧ command.SettledAs settled.failureClass) := by
    refine fun hsame => ⟨found, hsame, htask, fun hended => ?_⟩
    rcases hsettled hended with ⟨event, hevent, hrest⟩
    exact ⟨event, mem_append_left _ hevent, hrest⟩
  cases h with
  | opened row attempt _ _ _ _ _ _ _ _ _ _ _ habsent =>
    refine hkept ((AList.lookup_insert_ne ?_).trans hfound)
    rintro rfl
    rw [habsent] at hfound
    exact absurd hfound (by simp)
  | touched row other attempt entries _ _ hrow hcurrent hother _ hsame hended =>
    by_cases ha : a = other.attemptJson.attemptId
    · subst ha
      obtain rfl : other = found := Option.some.inj (hother.symm.trans hfound)
      refine ⟨_, AList.lookup_insert _, hsame.trans htask, fun hend => ?_⟩
      -- The current attempt of a task has not ended.
      exact absurd ⟨other, hother, fun hnone => hend (hended.trans hnone)⟩
        (hown.not_ended hrow hcurrent)
    · exact hkept ((AList.lookup_insert_ne ha).trans hfound)
  | closed row task other attempt entries posted hrow _ hcurrent hother hcloses _ _ hrecords =>
    by_cases ha : a = other.attemptJson.attemptId
    · subst ha
      obtain rfl : other = found := Option.some.inj (hother.symm.trans hfound)
      refine ⟨_, AList.lookup_insert _, hcloses.attempt_eq.2.1.trans htask, fun _ => ?_⟩
      rcases hcloses.settlement with ⟨entry, hentry, settled, hpayload, hid, hfailure⟩
      have hmem : entry.payload ∈ posted.map RunEvent.payload := by
        rw [hrecords.payloads_eq]
        exact mem_map_of_mem hentry
      rcases mem_map.mp hmem with ⟨event, hevent, heq⟩
      obtain rfl : posted = new :=
        append_cancel_left ((EventLog.pushAll_events _ _).symm.trans hlog)
      rcases hown.currentOpen _ _ _ hrow hcurrent with ⟨open', hopen', howner, _⟩
      obtain rfl : other = open' := Option.some.inj (hother.symm.trans hopen')
      refine ⟨event, mem_append_right _ hevent, settled, ?_, heq.trans hpayload, hid,
        hfailure⟩
      rw [hrecords.taskId_eq event hevent, ← htask, howner]
    · exact hkept ((AList.lookup_insert_ne ha).trans hfound)
  | _ => exact hkept hfound

theorem step_settlements {db : Db} {call : Call} (hdb : Coherent db)
    (hown : Owning db.tasks db.attempts) (hcommand : call.command.unclaimed = true) :
    ∃ events, (step service db call).log.events = db.log.events ++ events ∧
      Settlements call.command db (step service db call) events := by
  refine (Moves.invariant (fun reached => Owning reached.tasks reached.attempts ∧
    ∃ events, reached.log.events = db.log.events ++ events ∧
      Settlements call.command db reached events) ?_ (step_moves service db call hdb)
    ⟨hown, [], (append_nil _).symm, ?_⟩).2
  · rintro before after hmove ⟨hbefore, events, hlog, hsettlements⟩
    rcases hmove.booked hown hcommand with ⟨new, hnew, _⟩
    refine ⟨hmove.owning hown hcommand hbefore, events ++ new, ?_,
      hsettlements.next hmove hbefore hnew⟩
    rw [hnew, hlog, append_assoc]
  · exact fun a arow harow hopen => ⟨arow, harow, rfl, fun hended => absurd hopen hended⟩

/-- The end of an attempt of the task is on file, and has cost the task one
    failure if its own counts as one, and nothing otherwise. -/
def Charged (command : Command) (db db' : Db) (k : TaskId) (a : StableId) : Prop :=
  ∃ event ∈ db'.log.events, ∃ settled task task', event.taskId = some k ∧
    event.payload = .attemptSettled settled ∧ settled.attemptId = a ∧
    command.SettledAs settled.failureClass ∧
    db.stored k = some task ∧ db'.stored k = some task' ∧
    if consumesTaskBudget settled.failureClass = true then
      task.failureBudget = task'.failureBudget + 1
    else task'.failureBudget = task.failureBudget

/-- A settlement among the events of a step has been charged. -/
theorem Posted.charges {events : List RunEvent} (h : Posted db db' events) {event : RunEvent}
    {settled : AttemptSettled} (hevent : event ∈ events) (hk : event.taskId = some k)
    (hsettled : event.payload = .attemptSettled settled) :
    ∃ task task', db.stored k = some task ∧ db'.stored k = some task' ∧
      if consumesTaskBudget settled.failureClass = true then
        task.failureBudget = task'.failureBudget + 1
      else task'.failureBudget = task.failureBudget := by
  have hpayload : EventPayload.attemptSettled settled ∈ payloadsOf k events :=
    mem_payloadsOf.mpr ⟨event, hevent, hk, hsettled⟩
  cases hstored : db.stored k with
  | none => exact absurd (h.absent k hstored _ hpayload) (by simp [settledBy?])
  | some task =>
    rcases h.stored k task hstored with ⟨task', htask', ⟨_, hnone⟩ | ⟨_, hspent⟩⟩
    · exact absurd (hnone _ hpayload) (by simp [settledBy?])
    · have hbudget := hspent _ hpayload settled rfl
      refine ⟨task, task', rfl, htask', ?_⟩
      unfold failureCost at hbudget
      split at hbudget
      · rename_i hconsumes
        rw [if_pos hconsumes]
        exact hbudget.symm
      · rename_i hconsumes
        rw [if_neg hconsumes]
        exact hbudget

theorem claim_budget {service : Service} {taskId : TaskId} {workerId : String}
    {observed : Option Nat} {db db' : Db} {result : TaskAttempt × AttemptFence}
    (h : claim service env taskId workerId observed db = .ok (result, db')) :
    ∃ task, db.stored taskId = some task ∧ 0 < task.failureBudget := by
  simp only [claim, Transaction.bind_ok, Transaction.raiseWhen_ok, loadTask_ok,
    requireObservedRevision_ok, Transaction.get_ok, Transaction.fromOption_ok] at h
  rcases h with ⟨_, _, ⟨_, rfl⟩, _, _, ⟨⟨row, hrow, rfl, _⟩, rfl⟩, _, _, ⟨_, rfl⟩, _, _,
    ⟨rfl, rfl⟩, _, _, ⟨_, rfl⟩, statuses, _, hstatuses, _, _, ⟨heligible, _⟩, _⟩
  rcases evaluateTaskEligibility_eligible (by simpa using heligible) with ⟨_, _, hbudget⟩
  exact ⟨row.taskJson, stored_of_lookup hrow, Nat.pos_of_ne_zero hbudget⟩

/-- In every store a run of disciplined calls reaches: a claim succeeds only on a task with budget
    left; a settlement that the next call records lowers the stored budget of its task by one if
    its failure consumes the budget and leaves it alone otherwise; a settling command that succeeds
    ends the attempt its task was running, and whatever ends an attempt records and charges that;
    and what a task has left is what it was created with and what was added, less its
    budget-consuming failures, which therefore never exceed these two together. -/
theorem retry_budget (service : Service) (canon : Canon) (calls : List Call)
    (hcalls : Disciplined calls) :
    let db := runCalls service (Db.fresh canon) calls
    (∀ env taskId workerId observed result db',
      claim service env taskId workerId observed db = .ok (result, db') →
      ∃ task, db.stored taskId = some task ∧ 0 < task.failureBudget) ∧
    (∀ call, call.command.unclaimed = true → ∀ events,
      (step service db call).log.events = db.log.events ++ events →
      ∀ event ∈ events, ∀ k settled, event.taskId = some k →
        event.payload = .attemptSettled settled →
        ∃ task task', db.stored k = some task ∧ (step service db call).stored k = some task' ∧
          if consumesTaskBudget settled.failureClass = true then
            task.failureBudget = task'.failureBudget + 1
          else task'.failureBudget = task.failureBudget) ∧
    (∀ call : Call, call.command.unclaimed = true → ∀ k task a db',
      call.command.settles? = some k → db.stored k = some task → task.currentAttemptId = some a →
      perform service call.env call.command db = .ok ((), db') →
      db'.Ended a ∧ Charged call.command db db' k a) ∧
    (∀ call : Call, call.command.unclaimed = true → ∀ a arow, db.attempts.lookup a = some arow →
      arow.attemptJson.endedAt = none → (step service db call).Ended a →
      Charged call.command db (step service db call) arow.attemptJson.taskId a) ∧
    (∀ k task, db.stored k = some task → ∃ initial,
      initialBudgets k db.log.events = [initial] ∧
      task.failureBudget + budgetSpent k db.log.events =
        initial + budgetGranted k db.log.events ∧
      budgetSpent k db.log.events ≤ initial + budgetGranted k db.log.events) := by
  intro db
  have hbalanced : Balanced db := runCalls_balanced service canon calls hcalls
  have hcoherent : Coherent db := runCalls_coherent service canon calls
  have hown : Owning db.tasks db.attempts := runCalls_owning service canon calls hcalls
  have hcharged : ∀ call : Call, call.command.unclaimed = true → ∀ a arow,
      db.attempts.lookup a = some arow → arow.attemptJson.endedAt = none →
      (step service db call).Ended a →
      Charged call.command db (step service db call) arow.attemptJson.taskId a := by
    rintro call hcommand a arow harow hopen ⟨found', hfound', hended⟩
    rcases step_posted service hcoherent hown hbalanced hcommand with ⟨posted, hposted⟩
    rcases step_settlements service hcoherent hown hcommand with ⟨events, hlog, hsettlements⟩
    obtain rfl : events = posted := append_cancel_left (hlog.symm.trans hposted.log)
    rcases hsettlements a arow harow hopen with ⟨found, hfound, _, hsettled⟩
    obtain rfl : found = found' := Option.some.inj (hfound.symm.trans hfound')
    rcases hsettled hended with ⟨event, hevent, settled, hk, hpayload, hid, hfailure⟩
    rcases hposted.charges hevent hk hpayload with ⟨task, task', hcharge⟩
    exact ⟨event, hlog ▸ mem_append_right _ hevent, settled, task, task', hk, hpayload, hid,
      hfailure, hcharge⟩
  refine ⟨fun _ _ _ _ _ _ h => claim_budget h, ?_, ?_, hcharged, ?_⟩
  · intro call hcommand events hlog event hevent k settled hk hsettled
    rcases step_posted service hcoherent hown hbalanced hcommand with ⟨posted, hposted⟩
    obtain rfl : events = posted := append_cancel_left (hlog.symm.trans hposted.log)
    exact hposted.charges hevent hk hsettled
  · intro call hcommand k task a db' hsettles htask hcurrent hperform
    have hended := perform_endsCurrent service call.env call.command db db' () k hcoherent hsettles
      hperform task a htask hcurrent
    rw [Db.stored, Option.map_eq_some_iff] at htask
    rcases htask with ⟨row, hrow, rfl⟩
    rcases hown.currentOpen k row a hrow hcurrent with ⟨arow, harow, howner, hopen⟩
    have hstep := step_of_ok service db db' call hperform
    have hcharge := hcharged call hcommand a arow harow hopen (hstep.symm ▸ hended)
    rw [hstep, howner] at hcharge
    exact ⟨hended, hcharge⟩
  · intro k task htask
    rcases hbalanced.account k task htask with ⟨initial, hinitial, haccount⟩
    exact ⟨initial, hinitial, haccount, by omega⟩

/-- The answers of the sample attempt did not fit their schema. -/
def Sample.leafRejected : Call :=
  ⟨Sample.env 3 0, .settleAttempt (Sample.fence 1 0) .failed .waitingRetry []
    (some (.ofClass .leafSchemaRejected)) []⟩

def Sample.rejectedLeaf : List Call :=
  Sample.claimed .planCandidate ++ [Sample.leafRejected]

theorem Sample.rejectedLeaf_run :
    ((Sample.after (Sample.claimed .planCandidate)).attempts.lookup (Sample.attemptId 1)).any
      (fun arow => arow.attemptJson.endedAt = none ∧ arow.attemptJson.taskId = Sample.taskId) =
      true ∧
    ((Sample.after Sample.rejectedLeaf).attempts.lookup (Sample.attemptId 1)).any
      (·.attemptJson.endedAt ≠ none) = true ∧
    ((Sample.after Sample.rejectedLeaf).stored Sample.taskId).isSome = true ∧
    budgetSpent Sample.taskId (Sample.after Sample.rejectedLeaf).log.events = 1 := by
  decide +kernel

/-- The settlement of a rejected leaf is charged to its task, whose account
    then shows the one failure. -/
theorem retry_budget_rejectedLeaf :
    Disciplined Sample.rejectedLeaf ∧
    Charged Sample.leafRejected.command (Sample.after (Sample.claimed .planCandidate))
      (Sample.after Sample.rejectedLeaf) Sample.taskId (Sample.attemptId 1) ∧
    ∃ task initial, (Sample.after Sample.rejectedLeaf).stored Sample.taskId = some task ∧
      initialBudgets Sample.taskId (Sample.after Sample.rejectedLeaf).log.events = [initial] ∧
      task.failureBudget + 1 =
        initial + budgetGranted Sample.taskId (Sample.after Sample.rejectedLeaf).log.events := by
  have hcalls : Disciplined Sample.rejectedLeaf := by decide
  rcases Sample.rejectedLeaf_run with ⟨hrunning, hended, hstored, hspent⟩
  simp only [Option.any_eq_true, decide_eq_true_eq] at hrunning hended
  rcases hrunning with ⟨arow, harow, hopen, howner⟩
  rcases hended with ⟨found, hfound, hended⟩
  rcases Option.isSome_iff_exists.mp hstored with ⟨task, htask⟩
  have hstep : step Sample.service (Sample.after (Sample.claimed .planCandidate))
      Sample.leafRejected = Sample.after Sample.rejectedLeaf := by
    rw [Sample.rejectedLeaf, Sample.after, Sample.after, runCalls, runCalls, run_append, run_cons,
      run_nil]
  refine ⟨hcalls, ?_, ?_⟩
  · have hcharged : (step Sample.service (Sample.after (Sample.claimed .planCandidate))
        Sample.leafRejected).Ended (Sample.attemptId 1) →
        Charged Sample.leafRejected.command (Sample.after (Sample.claimed .planCandidate))
          (step Sample.service (Sample.after (Sample.claimed .planCandidate)) Sample.leafRejected)
          Sample.taskId (Sample.attemptId 1) := by
      rw [← howner]
      exact (retry_budget Sample.service Sample.canon (Sample.claimed .planCandidate)
        (by decide)).2.2.2.1 Sample.leafRejected rfl (Sample.attemptId 1) arow harow hopen
    rw [hstep] at hcharged
    exact hcharged ⟨found, hfound, hended⟩
  · rw [Sample.after] at htask hspent ⊢
    rcases (retry_budget Sample.service Sample.canon _ hcalls).2.2.2.2 Sample.taskId task htask with
      ⟨initial, hinitial, haccount, _⟩
    rw [hspent] at haccount
    exact ⟨task, initial, htask, hinitial, haccount⟩

end NovelAgent.Runtime
