import NovelAgent.MemoryWrite.ProposalAttempts

/-!
# Attempts Are Settled Once

An attempt that has an outcome keeps its receipt, a call that raises leaves
nothing behind, and a rejection is stored for the rejected attempts and no
others. The repository keeps to this as long as no call meets one of three
conditions: a settlement of an attempt that was given up, a rejection that is
written for a settlement that does not succeed, and a restored receipt whose
rejection cannot be had or does not belong to a rejected attempt.
-/

namespace NovelAgent.MemoryWrite.ProposalAttempts

open Core Domain

/-- The checks of a settlement pass: the attempt is stored, the receipt is one of it in the given
    status, and it is the stored one, if that is final, or can be stored. -/
def Settles (artifacts : ArtifactStore) (repository : Repository) (attemptId : StableId)
    (receipt : StoredReceipt) (status : CuratorProposalAttemptStatus) : Prop :=
  ∃ current, repository.items.get? attemptId = some current ∧
    receipt.attemptId = attemptId ∧ current.identity = receipt.identity ∧
    receipt.status = status ∧
    (current.status = .accepted ∨ current.status = .rejected → current = receipt) ∧
    (¬ (current.status = .accepted ∨ current.status = .rejected) →
      ∃ ref, artifacts.put receipt = .ok ref)

def GivenUp (repository : Repository) (attemptId : StableId) : Prop :=
  ∃ current, repository.items.get? attemptId = some current ∧ current.status = .abandoned

/-- The checks of a restored receipt pass. -/
def TakesOver (artifacts : ArtifactStore) (repository : Repository) (receiptRef : ArtifactRef)
    (receipt : StoredReceipt) : Prop :=
  receiptRef.mediaType = receiptMediaType ∧ artifacts.readReceipt receiptRef = .ok receipt ∧
    (∀ existing, repository.items.get? receipt.attemptId = some existing → existing = receipt) ∧
    ∀ ref, repository.refs.get? receipt.attemptId = some ref → ref = receiptRef

/-- The rejection can be read and belongs to the receipt. -/
def RejectionOf (artifacts : ArtifactStore) (receipt : StoredReceipt)
    (rejectionRef : ArtifactRef) : Prop :=
  ∃ rejection, artifacts.readRejection rejectionRef = .ok rejection ∧
    rejection.attemptId = receipt.attemptId

/-- The call settles no attempt that was given up, writes a rejection only with a settlement that
    succeeds, and restores a receipt that names a rejection only when it is rejected and the
    rejection is its own, or when it is stored already and the rejection cannot be had. -/
def Clean (repository : Repository) : ArtifactStore × Call → Prop
  | (artifacts, .settleAccepted attemptId receipt) =>
    GivenUp repository attemptId → ¬ Settles artifacts repository attemptId receipt .accepted
  | (artifacts, .settleRejected attemptId rejection receipt) =>
    rejection.attemptId = attemptId → repository.rejections.get? attemptId = none →
      ¬ GivenUp repository attemptId ∧
        Settles artifacts repository attemptId receipt .rejected
  | (artifacts, .restore receiptRef) =>
    ∀ receipt, TakesOver artifacts repository receiptRef receipt →
      ∀ rejectionRef, receipt.rejectionRef = some rejectionRef →
        receipt.status = .rejected ∧ RejectionOf artifacts receipt rejectionRef ∨
          (repository.items.get? receipt.attemptId).isSome = true ∧
            ¬ RejectionOf artifacts receipt rejectionRef
  | _ => True

/-- The three maps fit together. -/
structure Consistent (repository : Repository) : Prop where
  keyed : ∀ id receipt, repository.items.get? id = some receipt → receipt.attemptId = id
  referenced : ∀ id, (repository.items.get? id).isSome = true →
    (repository.refs.get? id).isSome = true
  rejections : ∀ id, (∃ rejection, repository.rejections.get? id = some rejection) ↔
    ∃ receipt, repository.items.get? id = some receipt ∧ receipt.status = .rejected

/-- What a call may make of the repository. -/
inductive Change (repository : Repository) : Repository → Prop
  | nothing : Change repository repository
  | receipt (receipt : StoredReceipt) (ref : ArtifactRef)
      (inflight : ∀ current, repository.items.get? receipt.attemptId = some current →
        terminal current.status = false)
      (notRejected : receipt.status ≠ .rejected) :
      Change repository (repository.store receipt ref)
  | rejected (receipt : StoredReceipt) (ref : ArtifactRef) (rejection : StoredRejection)
      (inflight : ∀ current, repository.items.get? receipt.attemptId = some current →
        terminal current.status = false)
      (isRejected : receipt.status = .rejected) :
      Change repository { repository.store receipt ref with
        rejections := repository.rejections.set receipt.attemptId rejection }
  | rejection (receipt : StoredReceipt) (rejection : StoredRejection)
      (stored : repository.items.get? receipt.attemptId = some receipt)
      (isRejected : receipt.status = .rejected) :
      Change repository { repository with
        rejections := repository.rejections.set receipt.attemptId rejection }

/-- A call left everything as it was, or returned and made one change. -/
def Fine {α : Type} (repository : Repository) (answered : Answered α) : Prop :=
  answered.2 = repository ∨ (∃ a, answered.1 = .ok a) ∧ Change repository answered.2

variable {receipt : StoredReceipt}

section Methods

variable {artifacts : ArtifactStore} {repository : Repository}

theorem Fine.map {α β : Type} {f : α → β} {answered : Answered α} (h : Fine repository answered) :
    Fine repository (answered.map (Except.map f) id) := by
  rcases h with hsame | ⟨⟨a, ha⟩, hchange⟩
  · exact .inl hsame
  · exact .inr ⟨⟨f a, by simp [Prod.map, ha, Except.map]⟩, hchange⟩

variable {attemptId : StableId}

theorem load_eq_ok {current : StoredReceipt} :
    load repository attemptId = .ok current ↔
      repository.items.get? attemptId = some current := by
  unfold load
  cases repository.items.get? attemptId <;> simp

theorem persist_fine
    (hinflight : ∀ current, repository.items.get? receipt.attemptId = some current →
      terminal current.status = false) (hstatus : receipt.status ≠ .rejected) :
    Fine repository (persist artifacts repository receipt) := by
  unfold persist
  cases hput : artifacts.put receipt with
  | error message => exact .inl rfl
  | ok ref => exact .inr ⟨⟨ref, rfl⟩, .receipt receipt ref hinflight hstatus⟩

theorem createRequested_fine (receipt : StoredReceipt) :
    Fine repository (createRequested artifacts repository receipt) := by
  unfold createRequested
  by_cases hstatus : receipt.status = .requested
  · rw [if_neg (not_not_intro hstatus)]
    cases hget : repository.items.get? receipt.attemptId with
    | none =>
      refine persist_fine (fun current hcurrent => ?_) (by simp [hstatus])
      rw [hget] at hcurrent
      exact absurd hcurrent (by simp)
    | some existing =>
      simp only
      split
      · exact .inl rfl
      · exact .inl rfl
  · rw [if_pos hstatus]
    exact .inl rfl

theorem persist_loaded_fine (h : Consistent repository) {current next : StoredReceipt}
    (hcurrent : repository.items.get? attemptId = some current)
    (hopen : terminal current.status = false) (hid : next.attemptId = current.attemptId)
    (hstatus : next.status ≠ .rejected) : Fine repository (persist artifacts repository next) := by
  refine persist_fine (fun stored hstored => ?_) hstatus
  rw [hid, h.keyed attemptId current hcurrent, hcurrent] at hstored
  rw [← Option.some.inj hstored]
  exact hopen

theorem markRunning_fine (h : Consistent repository) (attemptId modelRequestId : StableId) :
    Fine repository (markRunning artifacts repository attemptId modelRequestId) := by
  unfold markRunning
  cases hload : load repository attemptId with
  | error e => exact .inl rfl
  | ok current =>
    simp only
    by_cases hopen : terminal current.status = false
    · rw [dif_pos hopen]
      exact persist_loaded_fine h (load_eq_ok.mp hload) hopen rfl (by simp [running])
    · rw [dif_neg hopen]
      exact .inl rfl

theorem markUncertain_fine (h : Consistent repository) (attemptId : StableId) (reason : String) :
    Fine repository (markUncertain artifacts repository attemptId reason) := by
  unfold markUncertain
  by_cases hreason : reason = ""
  · rw [if_pos hreason]
    exact .inl rfl
  · rw [if_neg hreason]
    cases hload : load repository attemptId with
    | error e => exact .inl rfl
    | ok current =>
      simp only
      by_cases hopen : terminal current.status = false
      · rw [dif_pos hopen]
        exact persist_loaded_fine h (load_eq_ok.mp hload) hopen rfl (by simp [uncertain])
      · rw [dif_neg hopen]
        exact .inl rfl

theorem markAbandoned_fine (h : Consistent repository) (attemptId : StableId) (reason : String)
    (now : Int) : Fine repository (markAbandoned artifacts repository attemptId reason now) := by
  unfold markAbandoned
  by_cases hreason : reason = ""
  · rw [if_pos hreason]
    exact .inl rfl
  · rw [if_neg hreason]
    cases hload : load repository attemptId with
    | error e => exact .inl rfl
    | ok current =>
      simp only
      by_cases hsettled : current.status = .accepted ∨ current.status = .rejected
      · rw [dif_pos hsettled]
        exact .inl rfl
      · rw [dif_neg hsettled]
        by_cases habandoned : current.status = .abandoned
        · rw [if_pos habandoned]
          exact .inl rfl
        · rw [if_neg habandoned]
          rw [not_or] at hsettled
          have hopen : terminal current.status = false := by
            simp [terminal, hsettled, habandoned]
          exact persist_loaded_fine h (load_eq_ok.mp hload) hopen rfl (by simp [abandoned])

/-- A settlement is refused, finds the receipt it would store, or stores it. -/
theorem settle_cases (artifacts : ArtifactStore) (repository : Repository) (attemptId : StableId)
    (receipt : StoredReceipt) (status : CuratorProposalAttemptStatus)
    (statusValue : String) :
    (settle artifacts repository attemptId receipt status statusValue).2 = repository ∧
        ¬ Settles artifacts repository attemptId receipt status ∨
      (settle artifacts repository attemptId receipt status statusValue).2 = repository ∧
        repository.items.get? attemptId = some receipt ∧ receipt.status = status ∨
      ∃ current ref, repository.items.get? attemptId = some current ∧
        ¬ (current.status = .accepted ∨ current.status = .rejected) ∧
        receipt.attemptId = attemptId ∧ receipt.status = status ∧
        Settles artifacts repository attemptId receipt status ∧
        settle artifacts repository attemptId receipt status statusValue =
          (.ok ref, repository.store receipt ref) := by
  unfold settle
  cases hload : load repository attemptId with
  | error e =>
    refine .inl ⟨rfl, ?_⟩
    rintro ⟨current, hcurrent, _⟩
    rw [load_eq_ok.mpr hcurrent] at hload
    exact absurd hload (by simp)
  | ok current =>
    have hget := load_eq_ok.mp hload
    -- The checks are made in this order, and the first that fails refuses.
    by_cases hidentity : receipt.attemptId ≠ attemptId ∨ current.identity ≠ receipt.identity
    · simp only [if_pos hidentity]
      refine .inl ⟨trivial, ?_⟩
      rintro ⟨other, hother, hid, hsame, _⟩
      rw [hget, Option.some.injEq] at hother
      subst hother
      exact hidentity.elim (fun h => h hid) (fun h => h hsame)
    · simp only [if_neg hidentity]
      rw [not_or, not_ne_iff, not_ne_iff] at hidentity
      by_cases hstatus : receipt.status ≠ status
      · simp only [if_pos hstatus]
        refine .inl ⟨trivial, ?_⟩
        rintro ⟨_, _, _, _, hsame, _⟩
        exact hstatus hsame
      · simp only [if_neg hstatus]
        rw [not_ne_iff] at hstatus
        by_cases hfinal : current.status = .accepted ∨ current.status = .rejected
        · simp only [if_pos hfinal]
          by_cases hchanged : current ≠ receipt
          · simp only [if_pos hchanged]
            refine .inl ⟨trivial, ?_⟩
            rintro ⟨other, hother, _, _, _, hequal, _⟩
            rw [hget, Option.some.injEq] at hother
            subst hother
            exact hchanged (hequal hfinal)
          · simp only [if_neg hchanged]
            rw [not_ne_iff] at hchanged
            exact .inr (.inl ⟨trivial, hchanged ▸ hget, hstatus⟩)
        · simp only [if_neg hfinal]
          unfold persist
          cases hput : artifacts.put receipt with
          | error message =>
            refine .inl ⟨rfl, ?_⟩
            rintro ⟨other, hother, _, _, _, _, hstored⟩
            rw [hget, Option.some.injEq] at hother
            subst hother
            rcases hstored hfinal with ⟨ref, hok⟩
            rw [hput] at hok
            exact absurd hok (by simp)
          | ok ref =>
            refine .inr (.inr ⟨current, ref, hget, hfinal, hidentity.1, hstatus, ?_, rfl⟩)
            exact ⟨current, hget, hidentity.1, hidentity.2, hstatus,
              fun h => absurd h hfinal, fun _ => ⟨ref, hput⟩⟩

theorem settleAccepted_fine (attemptId : StableId) (receipt : StoredReceipt)
    (hclean : GivenUp repository attemptId →
      ¬ Settles artifacts repository attemptId receipt .accepted) :
    Fine repository (settleAccepted artifacts repository attemptId receipt) := by
  unfold settleAccepted
  rcases settle_cases artifacts repository attemptId receipt .accepted "accepted" with
    ⟨hsame, _⟩ | ⟨hsame, _⟩ | ⟨current, ref, hget, hfinal, hid, hstatus, hsettles, hanswer⟩
  · exact .inl hsame
  · exact .inl hsame
  · rw [hanswer]
    refine .inr ⟨⟨ref, rfl⟩, .receipt receipt ref (fun stored hstored => ?_) (by simp [hstatus])⟩
    rw [hid, hget, Option.some.injEq] at hstored
    subst hstored
    have hopen : current.status ≠ .abandoned := fun habandoned =>
      hclean ⟨current, hget, habandoned⟩ hsettles
    rw [not_or] at hfinal
    simp [terminal, hfinal, hopen]

theorem settleRejected_fine (h : Consistent repository) (attemptId : StableId)
    (rejection : StoredRejection) (receipt : StoredReceipt)
    (hclean : rejection.attemptId = attemptId → repository.rejections.get? attemptId = none →
      ¬ GivenUp repository attemptId ∧ Settles artifacts repository attemptId receipt .rejected) :
    Fine repository (settleRejected artifacts repository attemptId rejection receipt) := by
  unfold settleRejected
  by_cases hid : rejection.attemptId = attemptId
  · rw [if_neg (not_not_intro hid)]
    cases hstored : repository.rejections.get? attemptId with
    | some existing =>
      by_cases hsame : existing = rejection
      · -- The rejection is there, so the attempt is rejected and nothing is stored.
        subst hsame
        rw [if_neg (by simp), Dict.set_self hstored]
        rcases (h.rejections attemptId).mp ⟨existing, hstored⟩ with ⟨item, hitem, hrejected⟩
        rcases settle_cases artifacts repository attemptId receipt .rejected "rejected" with
          ⟨hkept, _⟩ | ⟨hkept, _⟩ | ⟨current, _, hget, hfinal, _⟩
        · exact .inl hkept
        · exact .inl hkept
        · rw [hitem, Option.some.injEq] at hget
          exact absurd (.inr (hget ▸ hrejected)) hfinal
      · rw [if_pos (by simpa using hsame)]
        exact .inl rfl
    | none =>
      rw [if_neg (by simp)]
      rcases hclean hid hstored with ⟨hopen, hsettles⟩
      rcases settle_cases artifacts
          { repository with rejections := repository.rejections.set attemptId rejection }
          attemptId receipt .rejected "rejected" with
        ⟨_, hrefused⟩ | ⟨_, hget, hstatus⟩ |
          ⟨current, ref, hget, hfinal, hown, hstatus, _, hanswer⟩
      · exact absurd hsettles hrefused
      · -- A rejected attempt has a rejection, and there is none.
        rcases (h.rejections attemptId).mpr ⟨receipt, hget, hstatus⟩ with ⟨other, hother⟩
        rw [hstored] at hother
        exact absurd hother (by simp)
      · rw [hanswer, ← hown]
        refine .inr ⟨⟨ref, rfl⟩, .rejected receipt ref rejection (fun stored hitem => ?_) hstatus⟩
        rw [hown, hget, Option.some.injEq] at hitem
        subst hitem
        have hgiven : current.status ≠ .abandoned := fun habandoned =>
          hopen ⟨current, hget, habandoned⟩
        rw [not_or] at hfinal
        simp [terminal, hfinal, hgiven]
  · rw [if_pos hid]
    exact .inl rfl

/-- A receipt that is stored already, under the same reference, is taken over without a trace. -/
theorem store_stored (h : Consistent repository) {ref : ArtifactRef}
    (hitem : repository.items.get? receipt.attemptId = some receipt)
    (href : ∀ stored, repository.refs.get? receipt.attemptId = some stored → stored = ref) :
    repository.store receipt ref = repository := by
  have hsome := h.referenced receipt.attemptId (by rw [hitem]; rfl)
  rcases Option.isSome_iff_exists.mp hsome with ⟨stored, hstored⟩
  unfold Repository.store
  rw [Dict.set_self hitem, Dict.set_self (href stored hstored ▸ hstored)]

/-- A restored receipt is stored with its rejection. There is a case for the
    receipt that is stored already and one for the new one. -/
theorem restoreRejection_fine (h : Consistent repository) {receiptRef : ArtifactRef}
    (hsame : ∀ existing, repository.items.get? receipt.attemptId = some existing →
      existing = receipt)
    (hsameRef : ∀ ref, repository.refs.get? receipt.attemptId = some ref → ref = receiptRef)
    (hclean : ∀ rejectionRef, receipt.rejectionRef = some rejectionRef →
      receipt.status = .rejected ∧ RejectionOf artifacts receipt rejectionRef ∨
        (repository.items.get? receipt.attemptId).isSome = true ∧
          ¬ RejectionOf artifacts receipt rejectionRef) :
    Fine repository
      (restoreRejection artifacts (repository.store receipt receiptRef) receipt) := by
  have hkept : (repository.items.get? receipt.attemptId).isSome = true →
      repository.items.get? receipt.attemptId = some receipt ∧
        repository.store receipt receiptRef = repository := by
    intro hsome
    rcases Option.isSome_iff_exists.mp hsome with ⟨existing, hexisting⟩
    have hitem := hsame existing hexisting ▸ hexisting
    exact ⟨hitem, store_stored h hitem hsameRef⟩
  have hnew : ¬ (repository.items.get? receipt.attemptId).isSome = true →
      ∀ current, repository.items.get? receipt.attemptId = some current →
        terminal current.status = false := by
    intro hnone current hcurrent
    rw [hcurrent] at hnone
    exact absurd rfl hnone
  unfold restoreRejection
  cases hrejection : receipt.rejectionRef with
  | none =>
    have hstatus : receipt.status ≠ .rejected := fun hstatus =>
      (receipt.valid.rejected hstatus).1 hrejection
    by_cases hstored : (repository.items.get? receipt.attemptId).isSome = true
    · exact .inl (hkept hstored).2
    · exact .inr ⟨⟨receipt, rfl⟩, .receipt receipt receiptRef (hnew hstored) hstatus⟩
  | some rejectionRef =>
    -- A rejection that cannot be had was promised to be one of a stored receipt.
    have hwithout : ¬ RejectionOf artifacts receipt rejectionRef →
        repository.store receipt receiptRef = repository := by
      intro hnot
      rcases hclean rejectionRef hrejection with ⟨_, hof⟩ | ⟨hstored, _⟩
      · exact absurd hof hnot
      · exact (hkept hstored).2
    dsimp only
    cases hread : artifacts.readRejection rejectionRef with
    | error message =>
      refine .inl (hwithout ?_)
      rintro ⟨rejection, hok, _⟩
      rw [hread] at hok
      exact absurd hok (by simp)
    | ok rejection =>
      simp only
      by_cases hown : rejection.attemptId = receipt.attemptId
      · rw [if_neg (not_not_intro hown)]
        have hstatus : receipt.status = .rejected := by
          rcases hclean rejectionRef hrejection with ⟨hstatus, _⟩ | ⟨_, hnot⟩
          · exact hstatus
          · exact absurd ⟨rejection, hread, hown⟩ hnot
        refine .inr ⟨⟨receipt, rfl⟩, ?_⟩
        by_cases hstored : (repository.items.get? receipt.attemptId).isSome = true
        · rw [(hkept hstored).2]
          exact .rejection receipt rejection (hkept hstored).1 hstatus
        · exact .rejected receipt receiptRef rejection (hnew hstored) hstatus
      · rw [if_pos hown]
        refine .inl (hwithout ?_)
        rintro ⟨other, hok, hother⟩
        rw [hread, Except.ok.injEq] at hok
        exact hown (hok ▸ hother)

theorem restore_fine (h : Consistent repository) (receiptRef : ArtifactRef)
    (hclean : Clean repository (artifacts, .restore receiptRef)) :
    Fine repository (restore artifacts repository receiptRef) := by
  unfold restore
  by_cases hmedia : receiptRef.mediaType = receiptMediaType
  · rw [if_neg (not_not_intro hmedia)]
    cases hread : artifacts.readReceipt receiptRef with
    | error message => exact .inl rfl
    | ok receipt =>
      simp only
      by_cases hitem : (repository.items.get? receipt.attemptId).any
          (fun existing => existing ≠ receipt) = true
      · rw [if_pos hitem]
        exact .inl rfl
      · rw [if_neg hitem]
        by_cases href : (repository.refs.get? receipt.attemptId).any
            (fun ref => ref ≠ receiptRef) = true
        · rw [if_pos href]
          exact .inl rfl
        · rw [if_neg href]
          have hsame : ∀ existing, repository.items.get? receipt.attemptId = some existing →
              existing = receipt := by
            intro existing hexisting
            simpa [hexisting] using hitem
          have hsameRef : ∀ ref, repository.refs.get? receipt.attemptId = some ref →
              ref = receiptRef := by
            intro ref hstored
            simpa [hstored] using href
          exact restoreRejection_fine h hsame hsameRef
            (hclean receipt ⟨hmedia, hread, hsame, hsameRef⟩)
  · rw [if_pos hmedia]
    exact .inl rfl

end Methods

variable {id : StableId}

section Changes

variable {repository next : Repository}

/-- What a change keeps of the receipts with an outcome, and of their references. -/
theorem Change.settled (h : Change repository next)
    (hget : repository.items.get? id = some receipt) (hterminal : terminal receipt.status = true) :
    next.items.get? id = some receipt ∧ next.refs.get? id = repository.refs.get? id := by
  -- An attempt in flight is not the one in question.
  have hother : ∀ other : StoredReceipt,
      (∀ current, repository.items.get? other.attemptId = some current →
        terminal current.status = false) → id ≠ other.attemptId := by
    intro other hinflight heq
    have := hinflight receipt (heq ▸ hget)
    rw [hterminal] at this
    exact absurd this (by simp)
  cases h with
  | nothing => exact ⟨hget, rfl⟩
  | receipt other ref inflight =>
    have hne := hother other inflight
    simp only [Repository.store, Dict.get?_set, if_neg hne]
    exact ⟨hget, trivial⟩
  | rejected other ref rejection inflight =>
    have hne := hother other inflight
    simp only [Repository.store, Dict.get?_set, if_neg hne]
    exact ⟨hget, trivial⟩
  | rejection => exact ⟨hget, rfl⟩

theorem store_keyed (h : Consistent repository) (receipt : StoredReceipt) (ref : ArtifactRef)
    (id : StableId) (found : StoredReceipt)
    (hget : (repository.store receipt ref).items.get? id = some found) : found.attemptId = id := by
  simp only [Repository.store, Dict.get?_set] at hget
  by_cases hid : id = receipt.attemptId
  · rw [if_pos hid, Option.some.injEq] at hget
    rw [← hget, hid]
  · rw [if_neg hid] at hget
    exact h.keyed id found hget

theorem store_referenced (h : Consistent repository) (receipt : StoredReceipt) (ref : ArtifactRef)
    (id : StableId) (hsome : ((repository.store receipt ref).items.get? id).isSome = true) :
    ((repository.store receipt ref).refs.get? id).isSome = true := by
  simp only [Repository.store, Dict.get?_set] at hsome ⊢
  by_cases hid : id = receipt.attemptId
  · rw [if_pos hid]
    rfl
  · rw [if_neg hid] at hsome ⊢
    exact h.referenced id hsome

theorem no_rejection (h : Consistent repository)
    (hinflight : ∀ current, repository.items.get? id = some current →
      terminal current.status = false) :
    ¬ ∃ rejection, repository.rejections.get? id = some rejection := by
  intro hrejection
  rcases (h.rejections id).mp hrejection with ⟨receipt, hget, hstatus⟩
  have := hinflight receipt hget
  simp [terminal, hstatus] at this

theorem Change.consistent (h : Change repository next) (hc : Consistent repository) :
    Consistent next := by
  cases h with
  | nothing => exact hc
  | receipt receipt ref inflight notRejected =>
    refine ⟨store_keyed hc receipt ref, store_referenced hc receipt ref, fun id => ?_⟩
    simp only [Repository.store, Dict.get?_set]
    by_cases hid : id = receipt.attemptId
    · rw [if_pos hid]
      have hnone := no_rejection hc inflight
      rw [← hid] at hnone
      constructor
      · intro hrejection
        exact absurd hrejection hnone
      · intro hreceipt
        rcases hreceipt with ⟨found, hfound, hstatus⟩
        rw [Option.some.injEq] at hfound
        exact absurd (hfound ▸ hstatus) notRejected
    · rw [if_neg hid]
      exact hc.rejections id
  | rejected receipt ref rejection inflight isRejected =>
    refine ⟨store_keyed hc receipt ref, store_referenced hc receipt ref, fun id => ?_⟩
    simp only [Repository.store, Dict.get?_set]
    by_cases hid : id = receipt.attemptId
    · rw [if_pos hid, if_pos hid]
      exact ⟨fun _ => ⟨receipt, rfl, isRejected⟩, fun _ => ⟨rejection, rfl⟩⟩
    · rw [if_neg hid, if_neg hid]
      exact hc.rejections id
  | rejection receipt rejection stored isRejected =>
    refine ⟨hc.keyed, hc.referenced, fun id => ?_⟩
    simp only [Dict.get?_set]
    by_cases hid : id = receipt.attemptId
    · rw [if_pos hid, hid]
      exact ⟨fun _ => ⟨receipt, stored, isRejected⟩, fun _ => ⟨rejection, rfl⟩⟩
    · rw [if_neg hid]
      exact hc.rejections id

end Changes

/-- A clean call raises without a trace or makes one `Change`. -/
theorem perform_fine {repository : Repository} (h : Consistent repository)
    (call : ArtifactStore × Call) (hclean : Clean repository call) :
    Fine repository (perform repository call) := by
  rcases call with ⟨artifacts, call⟩
  cases call with
  | createRequested receipt => exact (createRequested_fine receipt).map
  | markRunning attemptId modelRequestId => exact (markRunning_fine h attemptId modelRequestId).map
  | settleAccepted attemptId receipt => exact (settleAccepted_fine attemptId receipt hclean).map
  | settleRejected attemptId rejection receipt =>
    exact (settleRejected_fine h attemptId rejection receipt hclean).map
  | markUncertain attemptId reason => exact (markUncertain_fine h attemptId reason).map
  | markAbandoned attemptId reason now => exact (markAbandoned_fine h attemptId reason now).map
  | restore receiptRef => exact (restore_fine h receiptRef hclean).map
  | load attemptId => exact .inl rfl
  | loadRejection attemptId => exact .inl rfl
  | listForWorkflow requestId => exact .inl rfl
  | reference attemptId => exact .inl rfl

theorem empty_consistent : Consistent Repository.empty where
  keyed := by
    intro id receipt hget
    exact absurd hget (by simp [Repository.empty])
  referenced := by
    intro id hsome
    simp [Repository.empty] at hsome
  rejections := by
    intro id
    simp [Repository.empty]

/-- Every step of the run leaves a settled attempt as it is, whatever follows;
    a call that raises leaves everything; and wherever the run stands, there is
    a rejection for the rejected attempts and no others. -/
structure SoundRun (calls : List (ArtifactStore × Call)) : Prop where
  settled : ∀ before middle after, calls = before ++ middle ++ after →
    ∀ id receipt, (run step Repository.empty before).items.get? id = some receipt →
      terminal receipt.status = true →
        (run step Repository.empty (before ++ middle)).items.get? id = some receipt ∧
        (run step Repository.empty (before ++ middle)).refs.get? id =
          (run step Repository.empty before).refs.get? id
  atomic : ∀ before call after, calls = before ++ call :: after →
    ∀ e, (perform (run step Repository.empty before) call).1 = .error e →
      (perform (run step Repository.empty before) call).2 = run step Repository.empty before
  rejections : ∀ before after, calls = before ++ after → ∀ id,
    (∃ rejection, (run step Repository.empty before).rejections.get? id = some rejection) ↔
      ∃ receipt, (run step Repository.empty before).items.get? id = some receipt ∧
        receipt.status = .rejected

/-- A fine answer keeps the invariant, settled attempts, and, when it is an
    exception, everything. -/
theorem Fine.change {α : Type} {repository : Repository} {answered : Answered α}
    (h : Fine repository answered) :
    Change repository answered.2 ∧ ∀ e, answered.1 = .error e → answered.2 = repository := by
  rcases h with hsame | ⟨⟨a, hok⟩, hchange⟩
  · rw [hsame]
    exact ⟨.nothing, fun _ _ => rfl⟩
  · refine ⟨hchange, fun e he => ?_⟩
    rw [hok] at he
    exact absurd he (by simp)

theorem step_change {repository : Repository} (h : Consistent repository)
    {call : ArtifactStore × Call} (hclean : Clean repository call) :
    Change repository (step repository call) :=
  (perform_fine h call hclean).change.1

variable {calls : List (ArtifactStore × Call)}

theorem run_consistent {repository : Repository} (hclean : Guarded step Clean repository calls)
    (h : Consistent repository) : Consistent (run step repository calls) :=
  run_guarded step Clean Consistent
    (fun _ _ hc hclean => (step_change hc hclean).consistent hc) calls repository hclean h

theorem run_settled {repository : Repository} (hclean : Guarded step Clean repository calls)
    (h : Consistent repository) (hget : repository.items.get? id = some receipt)
    (hterminal : terminal receipt.status = true) :
    (run step repository calls).items.get? id = some receipt ∧
      (run step repository calls).refs.get? id = repository.refs.get? id := by
  induction calls generalizing repository with
  | nil => exact ⟨hget, rfl⟩
  | cons call calls ih =>
    have hchange := step_change h hclean.1
    have hstep := hchange.settled hget hterminal
    have hrest := ih hclean.2 (hchange.consistent h) hstep.1
    rw [run_cons]
    exact ⟨hrest.1, hrest.2.trans hstep.2⟩

/-- Attempts are settled once and failures leave no trace, in every run whose
    calls are clean where they are made. -/
theorem attempts_settled_once (calls : List (ArtifactStore × Call))
    (hclean : Guarded step Clean Repository.empty calls) : SoundRun calls where
  settled := by
    intro before middle after hcalls id receipt hget hterminal
    rw [hcalls, guarded_append, guarded_append] at hclean
    rw [run_append]
    exact run_settled hclean.1.2 (run_consistent hclean.1.1 empty_consistent) hget hterminal
  atomic := by
    intro before call after hcalls e he
    rw [hcalls, guarded_append] at hclean
    have hconsistent := run_consistent hclean.1 empty_consistent
    exact (perform_fine hconsistent call hclean.2.1).change.2 e he
  rejections := by
    intro before after hcalls
    rw [hcalls, guarded_append] at hclean
    exact (run_consistent hclean.1 empty_consistent).rejections

namespace Sample

def contentHash : ContentHash :=
  ⟨"sha256:0000000000000000000000000000000000000000000000000000000000000000", .refl true⟩

def proposalRef (text : String) : ArtifactRef where
  artifactId := digest text
  mediaType := receiptMediaType
  byteLength := text.utf8ByteSize
  schemaVersion := ⟨"0.1.0", .refl true⟩

def proposalStore : ArtifactStore where
  put := fun receipt => .ok (proposalRef
    (receipt.attemptId.root ++ if terminal receipt.status then ".over" else ".open"))
  readReceipt := fun _ => .error "unknown artifact"
  readRejection := fun _ => .error "unknown artifact"

def firstAttempt : StableId := ⟨"attempt.1", by decide⟩

def requestedReceipt : StoredReceipt where
  attemptId := firstAttempt
  workflowRequestId := ⟨"request", .refl true⟩
  runId := ⟨"run", .refl true⟩
  taskId := ⟨"task", .refl true⟩
  attemptNo := 1
  baseCommit := contentHash
  boundaryId := ⟨"boundary", by decide⟩
  configurationFingerprint := contentHash
  status := .requested
  modelRequestIds := []
  rawResponseRefs := []
  normalizedOutputRef := none
  rejectionRef := none
  producerReceiptRef := none
  providerCallCount := 0
  transportAttemptCount := 0
  inputTokens := 0
  outputTokens := 0
  modelCallReceiptRefs := []
  promptFingerprint := contentHash
  feedbackArtifactRef := none
  parsedDraftRef := none
  outputHashes := []
  agentExecutionReceiptRef := none
  transformReceiptRefs := []
  startedAt := 0
  completedAt := none
  valid := by constructor <;> simp

def rejectedReceipt : StoredReceipt where
  toReceiptFields := { requestedReceipt.toReceiptFields with
    status := .rejected
    rejectionRef := some (proposalRef "rejection")
    completedAt := some 1 }
  valid := by constructor <;> simp [requestedReceipt, CuratorProposalAttemptStatus.inflight]

def firstRejection : StoredRejection where
  rejectionId := ⟨"rejection.1", by decide⟩
  attemptId := firstAttempt
  workflowRequestId := ⟨"request", .refl true⟩
  baseCommit := contentHash
  stage := .structuredSchema
  kind := .schemaRejected
  reasonCode := "SCHEMA_REJECTED"
  retryable := true
  rejectionSignature := contentHash
  outputHash := none
  conflicts := []
  validationErrorPaths := []
  safeFeedback := []
  operationIndexes := []
  jsonPointers := []
  violationRule := none
  rawDraftRef := none
  normalizedOutputRef := none
  createdAt := 1
  boundary_final := by simp
  feedback_bounded := by simp

/-- An attempt is requested, and its rejection is settled with the receipt
    that it was requested with. -/
def unsettledCalls : List (ArtifactStore × Call) :=
  [(proposalStore, .createRequested requestedReceipt),
    (proposalStore, .settleRejected firstAttempt firstRejection requestedReceipt)]

/-- The settlement raises, because the receipt is not a rejected one, and the rejection stays. -/
theorem rejection_left_behind : ¬ SoundRun unsettledCalls := by
  intro h
  have hrejections := h.rejections unsettledCalls [] (List.append_nil _).symm firstAttempt
  have hstored : (run step Repository.empty unsettledCalls).rejections.get? firstAttempt =
      some firstRejection := by
    rfl
  have hitem : (run step Repository.empty unsettledCalls).items.get? firstAttempt =
      some requestedReceipt := by
    rfl
  rcases hrejections.mp ⟨firstRejection, hstored⟩ with ⟨receipt, hget, hstatus⟩
  rw [hitem, Option.some.injEq] at hget
  rw [← hget] at hstatus
  exact absurd hstatus (by decide)

def settledCalls : List (ArtifactStore × Call) :=
  [(proposalStore, .createRequested requestedReceipt),
    (proposalStore, .settleRejected firstAttempt firstRejection rejectedReceipt)]

theorem attempts_settled_once_sample : Guarded step Clean Repository.empty settledCalls ∧
    SoundRun settledCalls := by
  have hitem : (step Repository.empty
      (proposalStore, .createRequested requestedReceipt)).items.get? firstAttempt =
        some requestedReceipt := by
    rfl
  have hclean : Guarded step Clean Repository.empty settledCalls := by
    refine ⟨trivial, fun _ _ => ⟨?_, ?_⟩, trivial⟩
    · rintro ⟨current, hget, hstatus⟩
      rw [hitem, Option.some.injEq] at hget
      rw [← hget] at hstatus
      exact absurd hstatus (by decide)
    · exact ⟨requestedReceipt, hitem, rfl, rfl, rfl, fun h => absurd h (by decide),
        fun _ => ⟨_, rfl⟩⟩
  exact ⟨hclean, attempts_settled_once settledCalls hclean⟩

end Sample

end NovelAgent.MemoryWrite.ProposalAttempts
