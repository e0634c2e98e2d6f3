import Mathlib.Algebra.GroupWithZero.Nat
import NovelAgent.Admission.Controller

/-!
# Accounting of Admission

What the counters of the controller say, in whatever order its callers take their
turns.
-/

namespace NovelAgent.Admission

open Core AdmissionController List

/-- The account of a controller: what its counters say about its reservations. -/
structure Accounted (config : AdmissionConfig) (s : AdmissionController) : Prop where
  withinLimit : s.active.length ≤ config.endpointRequestLimit
  inflight : s.inflightKvTokens = ((s.active.map (·.reservedSequenceTokens)).sum : Nat)
  withinBudget : ∀ budget ∈ config.effectiveKvBudget, s.inflightKvTokens ≤ budget
  balance : s.acquiredRequests = s.releasedRequests + s.active.length
  balanceKv : (s.acquiredKvTokens : Int) = s.releasedKvTokens + s.inflightKvTokens
  activeIds : (s.active.map (·.requestId)).Nodup
  queuedIds : (s.queue.map (·.info.requestId)).Nodup
  apart : ∀ info ∈ s.active, ∀ entry ∈ s.queue, info.requestId ≠ entry.info.requestId
  numbered : ∀ entry ∈ s.queue, entry.sequence < s.sequence
  sequences : (s.queue.map (·.sequence)).Nodup

/-- The entry goes before the other: it has the higher priority, or the same one and
    the earlier number. -/
def Precedes (entry other : QueueEntry) : Prop :=
  other.info.priority < entry.info.priority ∨
    entry.info.priority = other.info.priority ∧ entry.sequence < other.sequence

/-- The entries in the queue when a turn looks at it. -/
def contenders (s : AdmissionController) : Command → List QueueEntry
  | .acquire info _ => s.queue ++ [s.newEntry info]
  | _ => s.queue

variable {config : AdmissionConfig} {s : AdmissionController}

theorem before_total (a b : QueueEntry) : a.Before b ∨ b.Before a := by
  unfold QueueEntry.Before
  omega

theorem before_trans {a b c : QueueEntry} (hab : a.Before b) (hbc : b.Before c) : a.Before c := by
  unfold QueueEntry.Before at *
  omega

instance : Std.Total QueueEntry.Before := ⟨before_total⟩

instance : IsTrans QueueEntry QueueEntry.Before := ⟨fun _ _ _ => before_trans⟩

theorem precedes_of_before {a b : QueueEntry} (h : a.Before b) (hne : a.sequence ≠ b.sequence) :
    Precedes a b := by
  unfold QueueEntry.Before at h
  unfold Precedes
  omega

theorem initial_accounted (config : AdmissionConfig) : Accounted config .initial where
  withinLimit := Nat.zero_le _
  inflight := rfl
  withinBudget := fun budget _ => Int.natCast_nonneg budget
  balance := rfl
  balanceKv := rfl
  activeIds := nodup_nil
  queuedIds := nodup_nil
  apart := by simp [AdmissionController.initial]
  numbered := by simp [AdmissionController.initial]
  sequences := nodup_nil

theorem nodup_map_subperm {α β : Type} {items others : List α} (f : α → β)
    (h : items.Subperm others) (hnodup : (others.map f).Nodup) : (items.map f).Nodup := by
  rcases h with ⟨kept, hperm, hsub⟩
  exact (hperm.map f).nodup_iff.mp ((hsub.map f).nodup hnodup)

variable {info : ModelRequestSchedulingInfo} {active : List ModelRequestSchedulingInfo}

theorem reserve_of_fresh (h : ∀ other ∈ active, other.requestId ≠ info.requestId) :
    reserve info active = active ++ [info] := by
  induction active with
  | nil => rfl
  | cons other rest ih =>
    rw [forall_mem_cons] at h
    rw [reserve, if_neg h.1, ih h.2, cons_append]

theorem sum_eraseP {requestId : String}
    (h : active.find? (fun other => other.requestId = requestId) = some info) :
    (active.map (·.reservedSequenceTokens)).sum =
      info.reservedSequenceTokens +
        ((active.eraseP fun other => other.requestId = requestId).map
          (·.reservedSequenceTokens)).sum := by
  induction active with
  | nil => simp at h
  | cons other rest ih =>
    by_cases hid : other.requestId = requestId
    · rw [List.find?_cons_of_pos (by simpa using hid), Option.some_inj] at h
      rw [eraseP_cons_of_pos (by simpa using hid), h, map_cons, sum_cons]
    · rw [List.find?_cons_of_neg (by simpa using hid)] at h
      rw [eraseP_cons_of_neg (by simpa using hid), map_cons, sum_cons, ih h,
        map_cons, sum_cons]
      omega

variable {entry : QueueEntry}

namespace Accounted

section

variable (h : Accounted config s)

include h

/-- The moves keep the account. -/
theorem requeue {queue : List QueueEntry} (hqueue : queue.Subperm s.queue) :
    Accounted config { s with queue := queue } :=
  { h with
    queuedIds := nodup_map_subperm _ hqueue h.queuedIds
    apart := fun info hinfo entry hentry => h.apart info hinfo entry (hqueue.subset hentry)
    numbered := fun entry hentry => h.numbered entry (hqueue.subset hentry)
    sequences := nodup_map_subperm _ hqueue h.sequences }

theorem sortQueue : Accounted config s.sortQueue :=
  h.requeue (perm_insertionSort _ _).subperm

theorem notifyAll : Accounted config s.notifyAll :=
  { h with }

theorem withdraw (entry : QueueEntry) : Accounted config (s.withdraw entry) := by
  unfold AdmissionController.withdraw
  by_cases hqueued : entry ∈ s.queue
  · rw [if_pos hqueued]
    exact (h.requeue erase_sublist.subperm).notifyAll
  · rwa [if_neg hqueued]

theorem countWait (waited : Bool) (entry : QueueEntry) :
    Accounted config (s.countWait waited entry) :=
  { h with }

theorem expire (entry : QueueEntry) : Accounted config (s.expire entry) :=
  withdraw (s := { s with timeouts := s.timeouts + 1 }) { h with } entry

theorem sleep (entry : QueueEntry) : Accounted config (s.sleep entry) :=
  { h with }

theorem rouse (sequence : Nat) : Accounted config (s.rouse sequence) :=
  { h with }

theorem enqueue (hnew : ¬ s.Known info.requestId) : Accounted config (s.enqueue info) := by
  unfold Known at hnew
  push Not at hnew
  rcases hnew with ⟨hactive, hqueue⟩
  exact
    { h with
      queuedIds := by
        unfold AdmissionController.enqueue newEntry
        rw [map_append, map_singleton, nodup_append]
        refine ⟨h.queuedIds, nodup_singleton _, ?_⟩
        simp only [mem_map, mem_singleton]
        rintro _ ⟨entry, hentry, rfl⟩ _ rfl
        exact hqueue entry hentry
      apart := by
        intro other hother entry hentry
        rcases mem_append.mp hentry with hold | hlast
        · exact h.apart other hother entry hold
        · rw [mem_singleton.mp hlast]
          exact hactive other hother
      numbered := by
        intro entry hentry
        change entry.sequence < s.sequence + 1
        rcases mem_append.mp hentry with hold | hlast
        · exact Nat.lt_succ_of_lt (h.numbered entry hold)
        · rw [mem_singleton.mp hlast]
          exact Nat.lt_succ_self _
      sequences := by
        unfold AdmissionController.enqueue newEntry
        rw [map_append, map_singleton, nodup_append]
        refine ⟨h.sequences, nodup_singleton _, ?_⟩
        simp only [mem_map, mem_singleton]
        rintro _ ⟨entry, hentry, rfl⟩ _ rfl
        exact Nat.ne_of_lt (h.numbered entry hentry) }

theorem fresh (hentry : entry ∈ s.queue) :
    ∀ other ∈ s.active, other.requestId ≠ entry.info.requestId :=
  fun other hother => h.apart other hother entry hentry

theorem activate (hentry : entry ∈ s.queue) (hfits : s.HasCapacity config entry.info) :
    Accounted config (s.activate entry) := by
  have hactive : (s.activate entry).active = s.active ++ [entry.info] :=
    reserve_of_fresh (h.fresh hentry)
  have hinflight : (s.activate entry).inflightKvTokens =
      s.inflightKvTokens + entry.info.reservedSequenceTokens := rfl
  have hleft : (s.queue.erase entry).Subperm s.queue := erase_sublist.subperm
  have hids : (s.queue.map (·.info.requestId)).Nodup := h.queuedIds
  refine
    { withinLimit := ?_, inflight := ?_, withinBudget := hfits.2, balance := ?_, balanceKv := ?_,
      activeIds := ?_, queuedIds := nodup_map_subperm _ hleft h.queuedIds, apart := ?_,
      numbered := fun other hother => h.numbered other (hleft.subset hother),
      sequences := nodup_map_subperm _ hleft h.sequences }
  · rw [hactive, length_append, length_singleton]
    exact hfits.1
  · rw [hactive, hinflight, h.inflight, map_append, sum_append, map_singleton,
      sum_singleton, Int.natCast_add]
  · change s.acquiredRequests + 1 = s.releasedRequests + _
    rw [hactive, length_append, length_singleton, h.balance, Nat.add_assoc]
  · change ((s.acquiredKvTokens + entry.info.reservedSequenceTokens : Nat) : Int) =
      s.releasedKvTokens + _
    rw [hinflight, Int.natCast_add, h.balanceKv, Int.add_assoc]
  · rw [hactive, map_append, map_singleton, nodup_append]
    refine ⟨h.activeIds, nodup_singleton _, ?_⟩
    simp only [mem_map, mem_singleton]
    rintro _ ⟨other, hother, rfl⟩ _ rfl
    exact h.fresh hentry other hother
  · intro info hinfo other hother
    rw [hactive] at hinfo
    rcases mem_append.mp hinfo with hold | hlast
    · exact h.apart info hold other (hleft.subset hother)
    · -- The entries left have other identities, because the queue has each once.
      rw [mem_singleton.mp hlast]
      intro hsame
      have hother' : other ∈ s.queue := hleft.subset hother
      have : entry = other := inj_on_of_nodup_map hids hentry hother' hsame
      have hnodup : s.queue.Nodup := Nodup.of_map _ hids
      exact (Nodup.not_mem_erase hnodup) (this ▸ hother)

theorem no_underflow {reservationId : String}
    (hfind : s.active.find? (fun info => info.requestId = reservationId) = some info) :
    ¬ s.inflightKvTokens - info.reservedSequenceTokens < 0 := by
  have htokens := sum_eraseP hfind
  have hinflight := h.inflight
  omega

/-- A reservation is given back. -/
theorem releaseReservation (reservationId : String) :
    Accounted config (s.releaseReservation reservationId).2 := by
  unfold AdmissionController.releaseReservation
  cases hfind : s.active.find? fun info => info.requestId = reservationId with
  | none => exact h
  | some info =>
    have htokens := sum_eraseP hfind
    have hmem : info ∈ s.active := mem_of_find?_eq_some hfind
    have hlength : (s.active.eraseP fun other => other.requestId = reservationId).length + 1 =
        s.active.length := by
      have hid : decide (info.requestId = reservationId) = true :=
        List.find?_some
          (p := fun info : ModelRequestSchedulingInfo => decide (info.requestId = reservationId))
          hfind
      rw [length_eraseP_of_mem hmem hid]
      exact Nat.succ_pred_eq_of_pos (length_pos_of_mem hmem)
    have hsub : (s.active.eraseP fun other => other.requestId = reservationId).Sublist s.active :=
      eraseP_sublist
    have hinflight := h.inflight
    have hbalanceKv := h.balanceKv
    have hbalance := h.balance
    have hlimit := h.withinLimit
    simp only [h.no_underflow hfind, if_false]
    refine Accounted.notifyAll
      { withinLimit := ?_, inflight := ?_, withinBudget := ?_, balance := ?_, balanceKv := ?_,
        activeIds := (hsub.map _).nodup h.activeIds, queuedIds := h.queuedIds,
        apart := fun info hinfo entry hentry => h.apart info (hsub.subset hinfo) entry hentry,
        numbered := h.numbered, sequences := h.sequences }
    · change (s.active.eraseP _).length ≤ _
      omega
    · change s.inflightKvTokens - info.reservedSequenceTokens =
        (((s.active.eraseP fun other => other.requestId = reservationId).map
          (·.reservedSequenceTokens)).sum : Nat)
      omega
    · intro budget hbudget
      have := h.withinBudget budget hbudget
      change s.inflightKvTokens - info.reservedSequenceTokens ≤ budget
      omega
    · change s.acquiredRequests = s.releasedRequests + 1 + (s.active.eraseP _).length
      omega
    · change (s.acquiredKvTokens : Int) = ((s.releasedKvTokens + info.reservedSequenceTokens : Nat) : Int) +
        (s.inflightKvTokens - info.reservedSequenceTokens)
      omega

theorem check (waited : Bool) (entry : QueueEntry) (expired : Bool) :
    Accounted config (check config waited entry expired s).2 := by
  unfold AdmissionController.check
  by_cases hqueued : entry ∈ s.queue
  · have hsorted : Accounted config s.sortQueue := h.sortQueue
    simp only [hqueued, not_true_eq_false, if_false]
    by_cases hadmits : s.sortQueue.queue.head? = some entry ∧
        s.sortQueue.HasCapacity config entry.info
    · rw [if_pos hadmits]
      exact hsorted.activate ((mem_insertionSort _).mpr hqueued) hadmits.2
    · rw [if_neg hadmits]
      cases expired with
      | true => exact (hsorted.countWait waited entry).expire entry
      | false => exact (hsorted.countWait waited entry).sleep entry
  · rw [if_pos hqueued]
    exact h.withdraw entry

end

end Accounted

/-- A turn keeps the account. -/
theorem step_accounted (h : Accounted config s) (command : Command) :
    Accounted config (step config s command) := by
  cases command with
  | coerceDescriptor tokens =>
    simp only [step, perform, AdmissionController.coerceDescriptor]
    by_cases htokens : 1 ≤ tokens
    · rw [dif_pos htokens]
      exact { h with }
    · rw [dif_neg htokens]
      exact h
  | acquire info expired =>
    simp only [step, perform, AdmissionController.acquire]
    cases hcapacity : capacityError config info with
    | some error => cases error <;> exact { h with }
    | none =>
      by_cases hknown : s.Known info.requestId
      · simp only [hknown, if_true]
        exact h
      · simp only [hknown, if_false]
        exact (h.enqueue hknown).check _ _ _
  | wake sequence expired =>
    simp only [step, perform, AdmissionController.wake]
    cases s.sleeper sequence with
    | none => exact h
    | some waiter => exact (h.rouse sequence).check _ _ _
  | interrupt sequence =>
    simp only [step, perform, AdmissionController.interrupt]
    cases s.sleeper sequence with
    | none => exact h
    | some waiter => exact (h.rouse sequence).withdraw _
  | abandonRequest requestId =>
    simp only [step, perform, AdmissionController.abandonRequest]
    split
    · exact (h.requeue filter_sublist.subperm).notifyAll
    · exact h
  | legacyReservation tokens => exact h
  | releaseReservation reservationId => exact h.releaseReservation reservationId

/-- So does a run. -/
theorem run_accounted (config : AdmissionConfig) (commands : List Command) :
    Accounted config (run (step config) .initial commands) :=
  run_invariant (step config) (Accounted config) (fun _ command h => step_accounted h command)
    .initial (initial_accounted config) commands

@[simp] theorem withdraw_active (s : AdmissionController) (entry : QueueEntry) :
    (s.withdraw entry).active = s.active := by
  unfold AdmissionController.withdraw
  split <;> rfl

@[simp] theorem expire_active (s : AdmissionController) (entry : QueueEntry) :
    (s.expire entry).active = s.active :=
  withdraw_active _ entry

theorem precedes_of_head (hsequences : (s.queue.map (·.sequence)).Nodup)
    (hhead : s.sortQueue.queue.head? = some entry) :
    ∀ other ∈ s.queue, other ≠ entry → Precedes entry other := by
  intro other hother hne
  have hperm : s.sortQueue.queue.Perm s.queue := perm_insertionSort _ _
  have hordered : s.sortQueue.queue.Pairwise QueueEntry.Before := pairwise_insertionSort _ _
  rcases List.head?_eq_some_iff.mp hhead with ⟨rest, hrest⟩
  have hentry : entry ∈ s.queue := hperm.mem_iff.mp (mem_of_head? hhead)
  have hinrest : other ∈ rest := by
    have : other ∈ s.sortQueue.queue := hperm.mem_iff.mpr hother
    rw [hrest, mem_cons] at this
    exact this.resolve_left hne
  rw [hrest, pairwise_cons] at hordered
  refine precedes_of_before (hordered.1 other hinrest) ?_
  intro hsame
  exact hne (inj_on_of_nodup_map hsequences hentry hother hsame).symm

theorem check_admits (h : Accounted config s) {waited : Bool} {expired : Bool}
    (hnew : info ∈ (AdmissionController.check config waited entry expired s).2.active)
    (hold : info ∉ s.active) :
    entry ∈ s.queue ∧ entry.info = info ∧
      ∀ other ∈ s.queue, other ≠ entry → Precedes entry other := by
  unfold AdmissionController.check at hnew
  by_cases hqueued : entry ∈ s.queue
  · simp only [hqueued, not_true_eq_false, if_false] at hnew
    by_cases hadmits : s.sortQueue.queue.head? = some entry ∧
        s.sortQueue.HasCapacity config entry.info
    · rw [if_pos hadmits] at hnew
      have hactive : (s.sortQueue.activate entry).active = s.active ++ [entry.info] :=
        reserve_of_fresh (h.fresh hqueued)
      rw [hactive] at hnew
      have hinfo : info = entry.info :=
        mem_singleton.mp ((mem_append.mp hnew).resolve_left hold)
      exact ⟨hqueued, hinfo.symm, precedes_of_head h.sequences hadmits.1⟩
    · -- A caller that is not admitted leaves the reservations as they are.
      rw [if_neg hadmits] at hnew
      cases expired with
      | true =>
        simp only [if_true, expire_active] at hnew
        exact absurd hnew hold
      | false => exact absurd hnew hold
  · simp only [hqueued, not_false_eq_true, if_true, withdraw_active] at hnew
    exact absurd hnew hold

/-- Only the first of the queue is admitted. -/
theorem admits_first (h : Accounted config s) {command : Command}
    (hnew : info ∈ (step config s command).active) (hold : info ∉ s.active) :
    ∃ entry ∈ contenders s command, entry.info = info ∧
      ∀ other ∈ contenders s command, other ≠ entry → Precedes entry other := by
  cases command with
  | coerceDescriptor tokens =>
    simp only [step, perform, AdmissionController.coerceDescriptor] at hnew
    split at hnew <;> exact absurd hnew hold
  | acquire request expired =>
    simp only [step, perform, AdmissionController.acquire] at hnew
    cases hcapacity : capacityError config request with
    | some error =>
      simp only [hcapacity] at hnew
      cases error <;> exact absurd hnew hold
    | none =>
      by_cases hknown : s.Known request.requestId
      · simp only [hcapacity, hknown, if_true] at hnew
        exact absurd hnew hold
      · simp only [hcapacity, hknown, if_false] at hnew
        have hfirst := check_admits (h.enqueue hknown) hnew hold
        exact ⟨_, hfirst.1, hfirst.2⟩
  | wake sequence expired =>
    simp only [step, perform, AdmissionController.wake] at hnew
    cases hsleeper : s.sleeper sequence with
    | none =>
      simp only [hsleeper] at hnew
      exact absurd hnew hold
    | some waiter =>
      simp only [hsleeper] at hnew
      have hfirst := check_admits (h.rouse sequence) hnew hold
      exact ⟨_, hfirst.1, hfirst.2⟩
  | interrupt sequence =>
    simp only [step, perform, AdmissionController.interrupt] at hnew
    cases hsleeper : s.sleeper sequence with
    | none =>
      simp only [hsleeper] at hnew
      exact absurd hnew hold
    | some waiter =>
      simp only [hsleeper, withdraw_active] at hnew
      exact absurd hnew hold
  | abandonRequest requestId =>
    simp only [step, perform, AdmissionController.abandonRequest] at hnew
    split at hnew <;> exact absurd hnew hold
  | legacyReservation tokens => exact absurd hnew hold
  | releaseReservation reservationId =>
    simp only [step, perform, AdmissionController.releaseReservation] at hnew
    cases hfind : s.active.find? fun other => other.requestId = reservationId with
    | none =>
      simp only [hfind] at hnew
      exact absurd hnew hold
    | some released =>
      simp only [hfind] at hnew
      have hsub : (s.active.eraseP fun other => other.requestId = reservationId).Sublist
          s.active := eraseP_sublist
      split at hnew <;> exact absurd (hsub.subset hnew) hold

/-- Whatever the callers do in whatever order, the reservations stay within the limit
    and the budget, the counters agree with them, no request both waits and is active,
    and the next turn admits only the first of the queue. -/
theorem admission_accounting (config : AdmissionConfig) (commands : List Command)
    (command : Command) :
    let s := run (step config) .initial commands
    s.active.length ≤ config.endpointRequestLimit ∧
      s.inflightKvTokens = ((s.active.map (·.reservedSequenceTokens)).sum : Nat) ∧
      (∀ budget ∈ config.effectiveKvBudget, s.inflightKvTokens ≤ budget) ∧
      (s.acquiredRequests : Int) - s.releasedRequests = s.active.length ∧
      (∀ info ∈ s.active, ∀ entry ∈ s.queue, info.requestId ≠ entry.info.requestId) ∧
      ∀ info ∈ (step config s command).active, info ∉ s.active →
        ∃ entry ∈ contenders s command, entry.info = info ∧
          ∀ other ∈ contenders s command, other ≠ entry → Precedes entry other := by
  intro s
  have h : Accounted config s := run_accounted config commands
  have hbalance := h.balance
  refine ⟨h.withinLimit, h.inflight, h.withinBudget, ?_, h.apart, ?_⟩
  · omega
  · intro info hnew hold
    exact admits_first h hnew hold

end NovelAgent.Admission
