import NovelAgent.Admission.Accounting

/-!
# Wake-ups of Admission

Whether a request that fits the free capacity can be left asleep at the head of the
queue.
-/

namespace NovelAgent.Admission

open Core AdmissionController List

/-- Every entry of the queue has its caller asleep, each caller has a number of its
    own, and the queue is in the order of its sort key. -/
structure Attended (s : AdmissionController) : Prop where
  ordered : s.queue.Pairwise QueueEntry.Before
  attended : ∀ entry ∈ s.queue, ∃ waiter ∈ s.waiters, waiter.entry = entry
  numbered : ∀ waiter ∈ s.waiters, waiter.entry.sequence < s.sequence
  own : (s.waiters.map (·.entry.sequence)).Nodup

/-- The caller of this entry sleeps with a notification it has not looked at. -/
def Told (s : AdmissionController) (entry : QueueEntry) : Prop :=
  ∃ waiter ∈ s.waiters, waiter.entry = entry ∧ waiter.notified = true

/-- Somebody in the queue has been told. -/
def Pending (s : AdmissionController) : Prop :=
  ∃ entry ∈ s.queue, Told s entry

/-- The head does not fit, unless somebody in the queue has been told. -/
def NoLostWakeUp (config : AdmissionConfig) (s : AdmissionController) : Prop :=
  ¬ Pending s → ∀ entry ∈ s.queue.head?, ¬ s.HasCapacity config entry.info

/-- A head that fits has been told. -/
def Served (config : AdmissionConfig) (s : AdmissionController) : Prop :=
  ∀ entry ∈ s.queue.head?, s.HasCapacity config entry.info → Told s entry

/-- Both requests fit the free slots and the free tokens. -/
def FitBoth (config : AdmissionConfig) (s : AdmissionController) (entry next : QueueEntry) :
    Prop :=
  s.active.length + 1 < config.endpointRequestLimit ∧
    ∀ budget ∈ config.effectiveKvBudget,
      s.inflightKvTokens + entry.info.reservedSequenceTokens + next.info.reservedSequenceTokens ≤
        budget

/-- When the head wakes up, the next request does not fit beside it or has been told. -/
def HandsOn (config : AdmissionConfig) (s : AdmissionController) : Command → Prop
  | .wake number _ => ∀ entry next rest, s.queue = entry :: next :: rest →
      entry.sequence = number → FitBoth config s entry next → Told s next
  | _ => True

section

variable {config : AdmissionConfig} {s : AdmissionController} {entry : QueueEntry}

/-- A caller of this entry is awake, and all others in the queue are asleep. -/
structure Awake (entry : QueueEntry) (s : AdmissionController) : Prop where
  attended : ∀ other ∈ s.queue, other ≠ entry → ∃ waiter ∈ s.waiters, waiter.entry = other
  numbered : ∀ waiter ∈ s.waiters, waiter.entry.sequence < s.sequence
  own : (s.waiters.map (·.entry.sequence)).Nodup
  awake : ∀ waiter ∈ s.waiters, waiter.entry.sequence ≠ entry.sequence
  given : entry.sequence < s.sequence

theorem initial_attended : Attended .initial where
  ordered := Pairwise.nil
  attended := by simp [AdmissionController.initial]
  numbered := by simp [AdmissionController.initial]
  own := nodup_nil

variable {waiter : Waiter} {sequence : Nat}

namespace Attended

theorem notifyAll (h : Attended s) : Attended s.notifyAll where
  ordered := h.ordered
  attended := by
    intro entry hentry
    rcases h.attended entry hentry with ⟨waiter, hwaiter, hsame⟩
    exact ⟨_, mem_map_of_mem hwaiter, hsame⟩
  numbered := by
    intro waiter hwaiter
    rcases mem_map.mp hwaiter with ⟨asleep, hasleep, rfl⟩
    exact h.numbered asleep hasleep
  own := by
    unfold AdmissionController.notifyAll
    rw [map_map]
    exact h.own

theorem requeue (h : Attended s) {queue : List QueueEntry} (hqueue : queue.Sublist s.queue) :
    Attended { s with queue := queue } :=
  { h with
    ordered := h.ordered.sublist hqueue
    attended := fun entry hentry => h.attended entry (hqueue.subset hentry) }

theorem sleeper (h : Attended s) (hentry : entry ∈ s.queue) :
    ∃ waiter, s.sleeper entry.sequence = some waiter ∧ waiter ∈ s.waiters ∧
      waiter.entry = entry := by
  rcases h.attended entry hentry with ⟨waiter, hwaiter, rfl⟩
  have hfound : (s.sleeper waiter.entry.sequence).isSome := by
    rw [AdmissionController.sleeper, List.find?_isSome]
    exact ⟨waiter, hwaiter, by simp⟩
  rcases Option.isSome_iff_exists.mp hfound with ⟨found, hsome⟩
  have hmem : found ∈ s.waiters := mem_of_find?_eq_some hsome
  have hnumber : found.entry.sequence = waiter.entry.sequence := by
    simpa using List.find?_some hsome
  have : found = waiter := inj_on_of_nodup_map h.own hmem hwaiter hnumber
  exact ⟨waiter, this ▸ hsome, hwaiter, rfl⟩

theorem rouse (h : Attended s) (hsleeper : s.sleeper sequence = some waiter) :
    Awake waiter.entry (s.rouse sequence) := by
  have hmem : waiter ∈ s.waiters := mem_of_find?_eq_some hsleeper
  have hnumber : waiter.entry.sequence = sequence := by simpa using List.find?_some hsleeper
  have hsub : (s.rouse sequence).waiters.Sublist s.waiters := filter_sublist
  exact
    { attended := by
        intro other hother hne
        rcases h.attended other hother with ⟨asleep, hasleep, rfl⟩
        refine ⟨asleep, mem_filter.mpr ⟨hasleep, ?_⟩, rfl⟩
        -- Another caller with the same number would be the same caller.
        have : asleep.entry.sequence ≠ sequence := by
          intro hsame
          have := inj_on_of_nodup_map h.own hasleep hmem (hsame.trans hnumber.symm)
          exact hne (congrArg Waiter.entry this)
        simpa using this
      numbered := fun other hother => h.numbered other (hsub.subset hother)
      own := (hsub.map _).nodup h.own
      awake := by
        intro other hother
        have := (mem_filter.mp hother).2
        rw [hnumber]
        simpa using this
      given := h.numbered waiter hmem }

theorem enqueue (h : Attended s) (info : ModelRequestSchedulingInfo) :
    Awake (s.newEntry info) (s.enqueue info) where
  attended := by
    intro other hother hne
    rcases mem_append.mp hother with hold | hlast
    · exact h.attended other hold
    · exact absurd (mem_singleton.mp hlast) hne
  numbered := fun waiter hwaiter => Nat.lt_succ_of_lt (h.numbered waiter hwaiter)
  own := h.own
  awake := fun waiter hwaiter => Nat.ne_of_lt (h.numbered waiter hwaiter)
  given := Nat.lt_succ_self _

end Attended

namespace Awake

theorem attended_of_gone (h : Awake entry s) (hgone : entry ∉ s.queue)
    (hordered : s.queue.Pairwise QueueEntry.Before) : Attended s :=
  { h with
    ordered := hordered
    attended := by
      intro other hother
      refine h.attended other hother ?_
      rintro rfl
      exact hgone hother }

theorem erase (h : Awake entry s) (hordered : s.queue.Pairwise QueueEntry.Before)
    (hnodup : s.queue.Nodup) : Attended { s with queue := s.queue.erase entry } :=
  { h with
    ordered := hordered.sublist erase_sublist
    attended := by
      intro other hother
      have hkept := (hnodup.mem_erase_iff).mp hother
      exact h.attended other hkept.2 hkept.1 }

theorem sleep (h : Awake entry s) (hordered : s.queue.Pairwise QueueEntry.Before) :
    Attended (s.sleep entry) where
  ordered := hordered
  attended := by
    intro other hother
    by_cases hsame : other = entry
    · exact ⟨⟨entry, false⟩, mem_append_right _ (mem_singleton_self _), hsame.symm⟩
    · rcases h.attended other hother hsame with ⟨waiter, hwaiter, hentry⟩
      exact ⟨waiter, mem_append_left _ hwaiter, hentry⟩
  numbered := by
    intro waiter hwaiter
    rcases mem_append.mp hwaiter with hold | hlast
    · exact h.numbered waiter hold
    · rw [mem_singleton.mp hlast]
      exact h.given
  own := by
    unfold AdmissionController.sleep
    rw [map_append, map_singleton, nodup_append]
    refine ⟨h.own, nodup_singleton _, ?_⟩
    simp only [mem_map, mem_singleton]
    rintro _ ⟨waiter, hwaiter, rfl⟩ _ rfl
    exact h.awake waiter hwaiter

end Awake

variable (config) in
/-- What one turn of the loop does for an entry of the queue: it is admitted as the head
    that fits, it leaves when its time is over, or its caller sleeps. -/
theorem check_cases (hentry : entry ∈ s.queue) (waited expired : Bool) :
    (s.sortQueue.queue.head? = some entry ∧ s.HasCapacity config entry.info ∧
      (check config waited entry expired s).2 = s.sortQueue.activate entry) ∨
    (¬ (s.sortQueue.queue.head? = some entry ∧ s.HasCapacity config entry.info) ∧
      (check config waited entry expired s).2 =
        if expired then (s.sortQueue.countWait waited entry).expire entry
        else (s.sortQueue.countWait waited entry).sleep entry) := by
  unfold AdmissionController.check
  simp only [hentry, not_true_eq_false, if_false]
  by_cases hadmits : s.sortQueue.queue.head? = some entry ∧
      s.sortQueue.HasCapacity config entry.info
  · left
    rw [if_pos hadmits]
    exact ⟨hadmits.1, hadmits.2, rfl⟩
  · right
    rw [if_neg hadmits]
    refine ⟨hadmits, ?_⟩
    cases expired <;> rfl

theorem sortQueue_perm (s : AdmissionController) : s.sortQueue.queue.Perm s.queue :=
  perm_insertionSort _ _

theorem sortQueue_ordered (s : AdmissionController) :
    s.sortQueue.queue.Pairwise QueueEntry.Before :=
  pairwise_insertionSort _ _

theorem Awake.sortQueue (h : Awake entry s) : Awake entry s.sortQueue :=
  { h with
    attended := fun other hother => h.attended other ((sortQueue_perm s).mem_iff.mp hother) }

theorem expire_of_mem (hentry : entry ∈ s.queue) :
    s.expire entry =
      { s with timeouts := s.timeouts + 1, queue := s.queue.erase entry }.notifyAll :=
  if_pos hentry

theorem check_of_gone (hgone : entry ∉ s.queue) (waited expired : Bool) :
    (check config waited entry expired s).2 = s := by
  unfold AdmissionController.check AdmissionController.withdraw
  rw [if_pos hgone, if_neg hgone]

theorem check_attended (h : Awake entry s) (hnodup : s.queue.Nodup)
    (hordered : entry ∉ s.queue → s.queue.Pairwise QueueEntry.Before) (waited expired : Bool) :
    Attended (check config waited entry expired s).2 := by
  by_cases hentry : entry ∈ s.queue
  · have hsortedEntry : entry ∈ s.sortQueue.queue := (sortQueue_perm s).mem_iff.mpr hentry
    have hsortedNodup : s.sortQueue.queue.Nodup := (sortQueue_perm s).nodup_iff.mpr hnodup
    have herased := h.sortQueue.erase (sortQueue_ordered s) hsortedNodup
    rcases check_cases config hentry waited expired with
      ⟨_, _, hresult⟩ | ⟨_, hresult⟩
    · rw [hresult]
      exact { herased with }
    · rw [hresult]
      cases expired with
      | true =>
        simp only [if_true]
        rw [expire_of_mem (s := s.sortQueue.countWait waited entry) hsortedEntry]
        exact Attended.notifyAll { herased with }
      | false =>
        have hsorted : Awake entry (s.sortQueue.countWait waited entry) :=
          { h.sortQueue with }
        exact hsorted.sleep (sortQueue_ordered s)
  · rw [check_of_gone hentry]
    exact h.attended_of_gone hentry (hordered hentry)

theorem withdraw_attended (h : Awake entry s) (hordered : s.queue.Pairwise QueueEntry.Before)
    (hnodup : s.queue.Nodup) : Attended (s.withdraw entry) := by
  unfold AdmissionController.withdraw
  by_cases hentry : entry ∈ s.queue
  · rw [if_pos hentry]
    exact (h.erase hordered hnodup).notifyAll
  · rw [if_neg hentry]
    exact h.attended_of_gone hentry hordered

theorem Accounted.nodup (h : Accounted config s) : s.queue.Nodup :=
  h.sequences.of_map

/-- A turn keeps the callers and the order. -/
theorem step_attended (haccounted : Accounted config s) (h : Attended s) (command : Command) :
    Attended (step config s command) := by
  cases command with
  | coerceDescriptor tokens =>
    simp only [step, perform, AdmissionController.coerceDescriptor]
    split
    · exact { h with }
    · exact h
  | acquire info expired =>
    simp only [step, perform, AdmissionController.acquire]
    cases capacityError config info with
    | some error => cases error <;> exact { h with }
    | none =>
      by_cases hknown : s.Known info.requestId
      · simp only [hknown, if_true]
        exact h
      · simp only [hknown, if_false]
        refine check_attended (h.enqueue info) (haccounted.enqueue hknown).nodup ?_ _ _
        intro hgone
        exact absurd (mem_append_right _ (mem_singleton_self _)) hgone
  | wake sequence expired =>
    simp only [step, perform, AdmissionController.wake]
    cases hsleeper : s.sleeper sequence with
    | none => exact h
    | some waiter =>
      exact check_attended (h.rouse hsleeper) haccounted.nodup (fun _ => h.ordered) _ _
  | interrupt sequence =>
    simp only [step, perform, AdmissionController.interrupt]
    cases hsleeper : s.sleeper sequence with
    | none => exact h
    | some waiter => exact withdraw_attended (h.rouse hsleeper) h.ordered haccounted.nodup
  | abandonRequest requestId =>
    simp only [step, perform, AdmissionController.abandonRequest]
    split
    · exact (h.requeue filter_sublist).notifyAll
    · exact h
  | legacyReservation tokens => exact h
  | releaseReservation reservationId =>
    simp only [step, perform, AdmissionController.releaseReservation]
    cases s.active.find? fun info => info.requestId = reservationId with
    | none => exact h
    | some info =>
      simp only
      split
      · exact { h with }
      · exact Attended.notifyAll { h with }

theorem run_attended (config : AdmissionConfig) (commands : List Command) :
    Attended (run (step config) .initial commands) := by
  have hboth := run_invariant (step config) (fun s => Accounted config s ∧ Attended s)
    (fun _ command h => ⟨step_accounted h.1 command, step_attended h.1 h.2 command⟩)
    .initial ⟨initial_accounted config, initial_attended⟩ commands
  exact hboth.2

theorem Served.noLostWakeUp (h : Served config s) : NoLostWakeUp config s := by
  intro hquiet entry hhead hfits
  exact hquiet ⟨entry, mem_of_head? hhead, h entry hhead hfits⟩

theorem Attended.served_notifyAll (h : Attended s) : Served config s.notifyAll := by
  intro entry hhead _
  rcases h.attended entry (mem_of_head? hhead) with ⟨waiter, hwaiter, hsame⟩
  exact ⟨_, mem_map_of_mem hwaiter, hsame, rfl⟩

theorem fitBoth_of_activate (haccounted : Accounted config s) (hentry : entry ∈ s.queue)
    (next : QueueEntry) :
    (s.activate entry).HasCapacity config next.info ↔ FitBoth config s entry next := by
  have hactive : (s.activate entry).active = s.active ++ [entry.info] :=
    reserve_of_fresh (haccounted.fresh hentry)
  unfold HasCapacity FitBoth
  rw [hactive, length_append, length_singleton]
  exact Iff.rfl

theorem FitBoth.hasCapacity {next : QueueEntry} (h : FitBoth config s entry next) :
    s.HasCapacity config entry.info ∧ s.HasCapacity config next.info := by
  refine ⟨⟨Nat.lt_of_succ_lt h.1, ?_⟩, ⟨Nat.lt_of_succ_lt h.1, ?_⟩⟩
  · intro budget hbudget
    have := h.2 budget hbudget
    omega
  · intro budget hbudget
    have := h.2 budget hbudget
    omega

/-- One turn of the loop serves the queue when the requests behind the caller that are
    or become the head have been told if they fit. -/
theorem check_served (haccounted : Accounted config s) (h : Awake entry s)
    (hentry : entry ∈ s.queue)
    (hahead : s.sortQueue.queue.head? ≠ some entry →
      ∀ other ∈ s.sortQueue.queue.head?, s.HasCapacity config other.info → Told s other)
    (hbehind : s.sortQueue.queue.head? = some entry →
      ∀ next ∈ s.sortQueue.queue.tail.head?, FitBoth config s entry next → Told s next)
    (waited expired : Bool) : Served config (check config waited entry expired s).2 := by
  rcases check_cases config hentry waited expired with
    ⟨hhead, _, hresult⟩ | ⟨hnot, hresult⟩
  · -- The entry is admitted, and the one behind it becomes the head.
    rw [hresult]
    intro next hnext hfits
    have hqueue : (s.sortQueue.activate entry).queue = s.sortQueue.queue.tail := by
      rcases List.head?_eq_some_iff.mp hhead with ⟨rest, hrest⟩
      change s.sortQueue.queue.erase entry = _
      rw [hrest, erase_cons_head, tail_cons]
    rw [hqueue] at hnext
    have hboth := (fitBoth_of_activate haccounted.sortQueue
      ((sortQueue_perm s).mem_iff.mpr hentry) next).mp hfits
    exact hbehind hhead next hnext hboth
  · rw [hresult]
    cases expired with
    | true =>
      -- The caller tells everybody when it leaves.
      have hsortedEntry : entry ∈ s.sortQueue.queue := (sortQueue_perm s).mem_iff.mpr hentry
      have herased := h.sortQueue.erase (sortQueue_ordered s)
        ((sortQueue_perm s).nodup_iff.mpr haccounted.nodup)
      simp only [if_true]
      rw [expire_of_mem (s := s.sortQueue.countWait waited entry) hsortedEntry]
      exact Attended.served_notifyAll { herased with }
    | false =>
      intro other hhead hfits
      by_cases hsame : s.sortQueue.queue.head? = some entry
      · have : other = entry := Option.some_inj.mp (hhead.symm.trans hsame)
        exact absurd ⟨hsame, this ▸ hfits⟩ hnot
      · rcases hahead hsame other hhead hfits with ⟨waiter, hwaiter, htold⟩
        exact ⟨waiter, mem_append_left _ hwaiter, htold⟩

theorem Attended.sortQueue_eq (h : Attended s) : s.sortQueue.queue = s.queue :=
  h.ordered.insertionSort_eq

theorem Attended.told_rouse (h : Attended s) (hsleeper : s.sleeper sequence = some waiter)
    {other : QueueEntry} (hne : other ≠ waiter.entry) (htold : Told s other) :
    Told (s.rouse sequence) other := by
  rcases htold with ⟨asleep, hasleep, rfl, htold⟩
  refine ⟨asleep, mem_filter.mpr ⟨hasleep, ?_⟩, rfl, htold⟩
  have hmem : waiter ∈ s.waiters := mem_of_find?_eq_some hsleeper
  have hnumber : waiter.entry.sequence = sequence := by simpa using List.find?_some hsleeper
  have : asleep.entry.sequence ≠ sequence := by
    intro hsame
    have := inj_on_of_nodup_map h.own hasleep hmem (hsame.trans hnumber.symm)
    exact hne (congrArg Waiter.entry this)
  simpa using this

theorem enqueue_others (haccounted : Accounted config s) (h : Attended s)
    {info : ModelRequestSchedulingInfo} (hnew : ¬ s.Known info.requestId) :
    (s.enqueue info).sortQueue.queue.erase (s.newEntry info) = s.queue := by
  have hlater : Accounted config (s.enqueue info) := haccounted.enqueue hnew
  have hnot : s.newEntry info ∉ s.queue := fun hmem =>
    Nat.lt_irrefl _ (haccounted.numbered _ hmem)
  have hperm : ((s.enqueue info).sortQueue.queue.erase (s.newEntry info)).Perm s.queue := by
    have hend : (s.queue ++ [s.newEntry info]).erase (s.newEntry info) = s.queue := by
      rw [erase_append_right _ hnot, erase_cons_head, append_nil]
    have := (sortQueue_perm (s.enqueue info)).erase (s.newEntry info)
    change Perm _ ((s.queue ++ [s.newEntry info]).erase (s.newEntry info)) at this
    rwa [hend] at this
  refine Perm.eq_of_pairwise ?_ ((sortQueue_ordered _).sublist erase_sublist)
    h.ordered hperm
  intro a b ha hb hab hba
  have hnumbers : a.sequence = b.sequence := by
    unfold QueueEntry.Before at hab hba
    omega
  exact inj_on_of_nodup_map haccounted.sequences (hperm.mem_iff.mp ha) hb hnumbers

theorem served_of_gone (h : Attended s) (hserved : Served config s)
    (hsleeper : s.sleeper sequence = some waiter) (hgone : waiter.entry ∉ s.queue) :
    Served config (s.rouse sequence) := by
  intro entry hhead hfits
  have hentry : entry ∈ s.queue := mem_of_head? hhead
  have hne : entry ≠ waiter.entry := fun hsame => hgone (hsame ▸ hentry)
  exact h.told_rouse hsleeper hne (hserved entry hhead hfits)

section

variable (haccounted : Accounted config s) (h : Attended s) (hserved : Served config s)

include haccounted h hserved

theorem acquire_served (info : ModelRequestSchedulingInfo) (expired : Bool) :
    Served config (s.acquire config info expired).2 := by
  unfold AdmissionController.acquire
  cases capacityError config info with
  | some error => cases error <;> exact hserved
  | none =>
    by_cases hknown : s.Known info.requestId
    · simp only [hknown, if_true]
      exact hserved
    · simp only [hknown, if_false]
      have hothers := enqueue_others haccounted h hknown
      have hmem : s.newEntry info ∈ (s.enqueue info).queue :=
        mem_append_right _ (mem_singleton_self _)
      refine check_served (haccounted.enqueue hknown) (h.enqueue info) hmem ?_ ?_ _ _
      · -- The head is an old entry, and it was the head before.
        intro hahead other hhead hfits
        rcases List.head?_eq_some_iff.mp hhead with ⟨rest, hrest⟩
        have hne : ¬ (other == s.newEntry info) = true := by
          intro hsame
          rw [beq_iff_eq] at hsame
          exact hahead (hsame ▸ hhead)
        rw [hrest, erase_cons_tail hne] at hothers
        exact hserved other (by rw [← hothers]; rfl) hfits
      · -- The new entry is the head, and the old head stands behind it.
        intro hhead next hnext hboth
        rcases List.head?_eq_some_iff.mp hhead with ⟨rest, hrest⟩
        rw [hrest, erase_cons_head] at hothers
        rw [hrest, tail_cons, hothers] at hnext
        exact hserved next hnext hboth.hasCapacity.2

theorem wake_served {expired : Bool} (hon : HandsOn config s (.wake sequence expired)) :
    Served config (s.wake config sequence expired).2 := by
  unfold AdmissionController.wake
  cases hsleeper : s.sleeper sequence with
  | none => exact hserved
  | some waiter =>
    have hnumber : waiter.entry.sequence = sequence := by simpa using List.find?_some hsleeper
    by_cases hentry : waiter.entry ∈ s.queue
    · have hsorted : (s.rouse sequence).sortQueue.queue = s.queue := h.sortQueue_eq
      refine check_served (haccounted.rouse sequence) (h.rouse hsleeper) hentry ?_ ?_ _ _
      · rw [hsorted]
        intro hahead other hhead hfits
        refine h.told_rouse hsleeper ?_ (hserved other hhead hfits)
        rintro rfl
        exact hahead hhead
      · -- The caller is the head, so this is the turn the condition speaks about.
        rw [hsorted]
        intro hhead next hnext hboth
        rcases List.head?_eq_some_iff.mp hhead with ⟨tail, htail⟩
        rw [htail, tail_cons] at hnext
        rcases List.head?_eq_some_iff.mp hnext with ⟨rest, hrest⟩
        rw [hrest] at htail
        refine h.told_rouse hsleeper ?_ (hon _ next rest htail hnumber hboth)
        rintro rfl
        have hnodup := haccounted.nodup
        rw [htail, nodup_cons] at hnodup
        exact hnodup.1 mem_cons_self
    · have hgone : waiter.entry ∉ (s.rouse sequence).queue := hentry
      simp only [check_of_gone hgone]
      exact served_of_gone h hserved hsleeper hentry

variable {command : Command}

/-- A turn that hands on keeps a served queue. -/
theorem step_served (hon : HandsOn config s command) : Served config (step config s command) := by
  cases command with
  | coerceDescriptor tokens =>
    simp only [step, perform, AdmissionController.coerceDescriptor]
    split <;> exact hserved
  | acquire info expired => exact acquire_served haccounted h hserved info expired
  | wake sequence expired => exact wake_served haccounted h hserved hon
  | interrupt sequence =>
    simp only [step, perform, AdmissionController.interrupt]
    cases hsleeper : s.sleeper sequence with
    | none => exact hserved
    | some waiter =>
      simp only [AdmissionController.withdraw]
      by_cases hentry : waiter.entry ∈ (s.rouse sequence).queue
      · rw [if_pos hentry]
        have herased := (h.rouse hsleeper).erase h.ordered haccounted.nodup
        exact herased.served_notifyAll
      · rw [if_neg hentry]
        exact served_of_gone h hserved hsleeper hentry
  | abandonRequest requestId =>
    simp only [step, perform, AdmissionController.abandonRequest]
    split
    · exact (h.requeue filter_sublist).served_notifyAll
    · exact hserved
  | legacyReservation tokens => exact hserved
  | releaseReservation reservationId =>
    simp only [step, perform, AdmissionController.releaseReservation]
    cases hfind : s.active.find? fun info => info.requestId = reservationId with
    | none => exact hserved
    | some info =>
      simp only [haccounted.no_underflow hfind, if_false]
      exact Attended.served_notifyAll { h with }

end

theorem step_wake (h : Attended s) (hentry : entry ∈ s.queue) (expired : Bool) :
    step config s (.wake entry.sequence expired) =
      (check config true entry expired (s.rouse entry.sequence)).2 := by
  rcases h.sleeper hentry with ⟨waiter, hsleeper, _, hsame⟩
  simp only [step, perform, AdmissionController.wake, hsleeper, hsame]

theorem not_served_of_not_handsOn (haccounted : Accounted config s) (h : Attended s)
    (hon : ¬ HandsOn config s command) : ¬ Served config (step config s command) := by
  cases command with
  | wake sequence expired =>
    unfold HandsOn at hon
    push Not at hon
    rcases hon with ⟨entry, next, rest, hqueue, hnumber, hboth, huntold⟩
    subst hnumber
    have hentry : entry ∈ s.queue := by
      rw [hqueue]
      exact mem_cons_self
    have hsorted : (s.rouse entry.sequence).sortQueue.queue = entry :: next :: rest :=
      h.sortQueue_eq.trans hqueue
    rw [step_wake h hentry]
    have hroused : entry ∈ (s.rouse entry.sequence).queue := hentry
    rcases check_cases config hroused true expired with
      ⟨_, _, hresult⟩ | ⟨hnot, _⟩
    · rw [hresult]
      intro hserved
      have hnext : (((s.rouse entry.sequence).sortQueue.activate entry).queue).head? =
          some next := by
        change ((s.rouse entry.sequence).sortQueue.queue.erase entry).head? = _
        rw [hsorted, erase_cons_head, List.head?_cons]
      have hfits := (fitBoth_of_activate (haccounted.rouse entry.sequence).sortQueue
        ((sortQueue_perm _).mem_iff.mpr hroused) next).mpr hboth
      rcases hserved next hnext hfits with ⟨waiter, hwaiter, htold⟩
      exact huntold ⟨waiter, mem_of_mem_filter hwaiter, htold⟩
    · exact absurd ⟨by rw [hsorted]; rfl, hboth.hasCapacity.1⟩ hnot
  | coerceDescriptor => exact absurd trivial hon
  | acquire => exact absurd trivial hon
  | interrupt => exact absurd trivial hon
  | abandonRequest => exact absurd trivial hon
  | legacyReservation => exact absurd trivial hon
  | releaseReservation => exact absurd trivial hon

/-- How many callers have been told. -/
def toldCount (s : AdmissionController) : Nat :=
  s.waiters.countP (·.notified)

variable (config) in
theorem look_again (h : Attended s) {head other : QueueEntry} (hhead : s.queue.head? = some head)
    (hother : other ∈ s.queue) (hne : other ≠ head) (htold : Told s other) :
    (step config s (.wake other.sequence false)).queue = s.queue ∧
      (∀ info, (step config s (.wake other.sequence false)).HasCapacity config info ↔
        s.HasCapacity config info) ∧
      (Told (step config s (.wake other.sequence false)) head → Told s head) ∧
      toldCount (step config s (.wake other.sequence false)) < toldCount s := by
  have hsorted : (s.rouse other.sequence).sortQueue.queue = s.queue := h.sortQueue_eq
  have hroused : other ∈ (s.rouse other.sequence).queue := hother
  rw [step_wake h hother]
  rcases check_cases config hroused true false with ⟨hfirst, _, _⟩ | ⟨_, hresult⟩
  · rw [hsorted, hhead] at hfirst
    exact absurd (Option.some_inj.mp hfirst).symm hne
  · rw [hresult]
    refine ⟨hsorted, fun info => Iff.rfl, ?_, ?_⟩
    · rintro ⟨waiter, hwaiter, hsame, hnotified⟩
      rcases mem_append.mp hwaiter with hold | hlast
      · exact ⟨waiter, mem_of_mem_filter hold, hsame, hnotified⟩
      · rw [mem_singleton.mp hlast] at hnotified
        simp at hnotified
    · -- The notification it slept with is gone, and it sleeps again without one.
      rcases htold with ⟨waiter, hwaiter, hsame, hnotified⟩
      have hsplit := countP_eq_countP_filter_add s.waiters (·.notified)
        (fun waiter => decide (waiter.entry.sequence ≠ other.sequence))
      have hgone : 0 < (s.waiters.filter fun waiter =>
          !decide (waiter.entry.sequence ≠ other.sequence)).countP (·.notified) := by
        refine countP_pos_iff.mpr ⟨waiter, mem_filter.mpr ⟨hwaiter, ?_⟩, hnotified⟩
        simp [hsame]
      have hkept : toldCount (((s.rouse other.sequence).sortQueue.countWait true other).sleep
          other) = (s.waiters.filter fun waiter =>
            decide (waiter.entry.sequence ≠ other.sequence)).countP (·.notified) := by
        unfold toldCount AdmissionController.sleep
        rw [countP_append]
        rfl
      unfold toldCount at hkept ⊢
      simp only [Bool.false_eq_true, if_false]
      omega

/-- When the head fits and has not been told, it is enough that the callers behind it look: no time
    passes and nobody else comes. The induction is on the number of callers that have been told. -/
theorem lost_of_not_served (n : Nat) : ∀ {s : AdmissionController}, toldCount s ≤ n →
    Accounted config s → Attended s → ¬ Served config s →
      ∃ numbers : List Nat,
        ¬ NoLostWakeUp config (run (step config) s (numbers.map (Command.wake · false))) := by
  induction n with
  | zero =>
    intro s hcount _ _ hunserved
    refine ⟨[], fun hlost => hunserved ?_⟩
    intro entry hhead hfits
    refine absurd hfits (hlost ?_ entry hhead)
    rintro ⟨other, _, waiter, hwaiter, _, hnotified⟩
    have : 0 < toldCount s := countP_pos_iff.mpr ⟨waiter, hwaiter, hnotified⟩
    omega
  | succ n ih =>
    intro s hcount haccounted h hunserved
    by_cases hpending : Pending s
    · rcases hpending with ⟨other, hother, htold⟩
      unfold Served at hunserved
      push Not at hunserved
      rcases hunserved with ⟨head, hhead, hfits, huntold⟩
      have hne : other ≠ head := by
        rintro rfl
        exact huntold htold
      have hlook := look_again config h hhead hother hne htold
      have hstill : ¬ Served config (step config s (.wake other.sequence false)) := by
        intro hserved
        refine huntold (hlook.2.2.1 (hserved head ?_ ((hlook.2.1 _).mpr hfits)))
        rw [hlook.1]
        exact hhead
      have hfewer := hlook.2.2.2
      rcases ih (by omega) (step_accounted haccounted _) (step_attended haccounted h _) hstill
        with ⟨numbers, hlost⟩
      exact ⟨other.sequence :: numbers, hlost⟩
    · exact ⟨[], fun hlost => hunserved fun entry hhead hfits =>
        absurd hfits (hlost hpending entry hhead)⟩

/-- A run whose turns all hand on loses no wake-up. A turn after it that does not is
    followed by a lost wake-up as soon as the callers that have been told look. -/
theorem no_lost_wakeUp (config : AdmissionConfig) (commands : List Command)
    (hon : Guarded (step config) (HandsOn config) .initial commands) :
    NoLostWakeUp config (run (step config) .initial commands) ∧
      ∀ command, ¬ HandsOn config (run (step config) .initial commands) command →
        ∃ numbers : List Nat, ¬ NoLostWakeUp config (run (step config) .initial
          (commands ++ command :: numbers.map (Command.wake · false))) := by
  have haccounted := run_accounted config commands
  have hattended := run_attended config commands
  constructor
  · have hall := run_guarded (step config) (HandsOn config)
      (fun s => (Accounted config s ∧ Attended s) ∧ Served config s)
      (fun _ command h hon => ⟨⟨step_accounted h.1.1 command, step_attended h.1.1 h.1.2 command⟩,
        step_served h.1.1 h.1.2 h.2 hon⟩)
      commands .initial hon
      ⟨⟨initial_accounted config, initial_attended⟩, fun _ hhead => by cases hhead⟩
    exact hall.2.noLostWakeUp
  · intro command hnot
    have hunserved := not_served_of_not_handsOn haccounted hattended hnot
    rcases lost_of_not_served _ (Nat.le_refl _) (step_accounted haccounted command)
      (step_attended haccounted hattended command) hunserved with ⟨numbers, hlost⟩
    refine ⟨numbers, ?_⟩
    rwa [run_append]

end

namespace Sample

def config : AdmissionConfig where
  endpointRequestLimit := 2
  effectiveKvBudget := none
  modelSequenceLimit := 131072
  limitPositive := by decide
  budgetPositive := by decide
  sequencePositive := by decide

def request (requestId : String) (h : requestId ≠ "") : ModelRequestSchedulingInfo where
  requestId := requestId
  endpointId := "endpoint"
  stage := "planner"
  contextHash := "sha256"
  estimatedPromptTokens := 1
  reservedOutputTokens := 0
  safetyAllowanceTokens := 0
  reservedSequenceTokens := 1
  priority := 50
  named := ⟨h, by decide, by decide, by decide⟩
  summed := rfl
  positive := Nat.one_pos
  ranked := default_ranked

/-- Two requests run, two wait, and both slots are given back before a waiting caller
    looks. The later one looks first. -/
def twoReleases : List Command :=
  [.acquire (request "a" (by decide)) false, .acquire (request "b" (by decide)) false,
    .acquire (request "x" (by decide)) false, .acquire (request "y" (by decide)) false,
    .releaseReservation "a", .releaseReservation "b", .wake 3 false]

theorem wakeUp_lost : ¬ ∀ (config : AdmissionConfig) (commands : List Command),
    NoLostWakeUp config (run (step config) .initial commands) := by
  intro hnever
  have hlost := hnever config (twoReleases ++ [.wake 2 false])
  have hquiet : ¬ Pending (run (step config) .initial (twoReleases ++ [.wake 2 false])) := by
    unfold Pending Told
    decide +kernel
  have hhead : (run (step config) .initial (twoReleases ++ [.wake 2 false])).queue.head? =
      some ⟨3, request "y" (by decide)⟩ := by decide +kernel
  have hfits : (run (step config) .initial (twoReleases ++ [.wake 2 false])).HasCapacity config
      (request "y" (by decide)) := by decide +kernel
  exact hlost hquiet _ hhead hfits

def oneRelease : List Command :=
  [.acquire (request "a" (by decide)) false, .acquire (request "b" (by decide)) false,
    .acquire (request "x" (by decide)) false, .acquire (request "y" (by decide)) false,
    .releaseReservation "a"]

/-- The first of the waiting callers takes the slot. Nothing fits beside it, so the run
    hands on. -/
theorem no_lost_wakeUp_sample :
    NoLostWakeUp config (run (step config) .initial (oneRelease ++ [.wake 2 false])) ∧
      ∀ command, ¬ HandsOn config
          (run (step config) .initial (oneRelease ++ [.wake 2 false])) command →
        ∃ numbers : List Nat, ¬ NoLostWakeUp config (run (step config) .initial
          (oneRelease ++ [.wake 2 false] ++ command :: numbers.map (Command.wake · false))) := by
  have hactive : (run (step config) .initial oneRelease).active.length = 1 := by decide +kernel
  refine no_lost_wakeUp config _ ((guarded_append _ _ _ _ _).mpr
    ⟨⟨trivial, trivial, trivial, trivial, trivial, trivial⟩, ?_, trivial⟩)
  intro entry next rest _ _ hboth
  have hslots := hboth.1
  rw [hactive] at hslots
  exact absurd hslots (by decide)

end Sample

end NovelAgent.Admission
