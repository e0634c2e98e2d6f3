import NovelAgent.Context.Phases

/-!
# What a Compaction Writes Down

When the receipts of a compaction can be formed.
-/

namespace NovelAgent.Context

open Core Domain Session

/-- The reserves of the window are not negative, and its tokenizer has a name and a version. -/
def ContextWindowPolicy.Reported (policy : ContextWindowPolicy) : Prop :=
  0 ≤ policy.reservedOutputTokens ∧ 0 ≤ policy.safetyAllowanceTokens ∧ policy.tokenizer ≠ "" ∧
    policy.tokenizerVersion ≠ ""

instance (policy : ContextWindowPolicy) : Decidable policy.Reported :=
  inferInstanceAs (Decidable (_ ∧ _))

/-- The identity of a provider's word on a revision of a view. -/
def wordName (view : AgentContextView) (revision : Nat) : String :=
  "provider-validity." ++ view.runId.root ++ "." ++ toString revision

/-- The identity of the receipt of the next compaction of a view. -/
def receiptName (view : AgentContextView) : String :=
  "compaction." ++ view.runId.root ++ "." ++ toString (view.generation + 1)

/-- The events that an item stands for are not later than those of its view. -/
def Known (basisEventPosition : Nat) (item : ContextViewItem) : Prop :=
  ∀ range ∈ item.sourceEventRange, range.2 ≤ max 1 basisEventPosition

instance (basisEventPosition : Nat) (item : ContextViewItem) :
    Decidable (Known basisEventPosition item) :=
  inferInstanceAs (Decidable (∀ range ∈ item.sourceEventRange, _))

section Ranges

variable {α : Type} (f : α → Nat)

theorem foldl_max_le_iff (rest : List α) (first bound : Nat) :
    rest.foldl (fun stop other => max stop (f other)) first ≤ bound ↔
      first ≤ bound ∧ ∀ other ∈ rest, f other ≤ bound := by
  induction rest generalizing first with
  | nil => simp
  | cons other rest ih =>
    rw [List.foldl_cons, ih, max_le_iff, List.forall_mem_cons, and_assoc]

theorem le_foldl_min_iff (rest : List α) (first bound : Nat) :
    bound ≤ rest.foldl (fun start other => min start (f other)) first ↔
      bound ≤ first ∧ ∀ other ∈ rest, bound ≤ f other := by
  induction rest generalizing first with
  | nil => simp
  | cons other rest ih =>
    rw [List.foldl_cons, ih, le_min_iff, List.forall_mem_cons, and_assoc]

/-- The covered events can be recorded exactly when every item is of known events. -/
theorem coveredRange_iff (removed : List ContextViewItem) (basisEventPosition : Nat) :
    rangeOrdered (coveredRange removed basisEventPosition) = true ∧
        (coveredRange removed basisEventPosition).2 ≤ max 1 basisEventPosition ↔
      ∀ item ∈ removed, Known basisEventPosition item := by
  have hmem (range : Nat × Nat) : range ∈ removed.filterMap (fun item => item.sourceEventRange) ↔
      ∃ item ∈ removed, item.sourceEventRange = some range := List.mem_filterMap
  have hknown : (∀ item ∈ removed, Known basisEventPosition item) ↔
      ∀ range ∈ removed.filterMap fun item => item.sourceEventRange,
        range.2 ≤ max 1 basisEventPosition := by
    simp only [hmem, Known, Option.mem_def]
    exact ⟨fun h range ⟨item, hitem, hrange⟩ => h item hitem range hrange,
      fun h item hitem range hrange => h range ⟨item, hitem, hrange⟩⟩
  have hordered : ∀ range ∈ removed.filterMap fun item => item.sourceEventRange,
      1 ≤ range.1 ∧ range.1 ≤ range.2 := by
    intro range hrange
    obtain ⟨item, _, hitem⟩ := (hmem range).mp hrange
    have hvalid := item.valid
    simp only [validateItem, refusal_eq_none, hitem, Option.all_some, not_not] at hvalid
    simpa [rangeOrdered] using hvalid.2.1
  rw [hknown]
  unfold coveredRange
  cases hranges : removed.filterMap fun item => item.sourceEventRange with
  | nil => simp [rangeOrdered]
  | cons range ranges =>
    rw [hranges, List.forall_mem_cons] at hordered
    have hstart := (le_foldl_min_iff Prod.fst ranges range.1 1).mpr
      ⟨hordered.1.1, fun other hother => (hordered.2 other hother).1⟩
    have hmin := ((le_foldl_min_iff Prod.fst ranges range.1 _).mp le_rfl).1
    have hmax := ((foldl_max_le_iff Prod.snd ranges range.2 _).mp le_rfl).1
    have hbetween := hmin.trans (hordered.1.2.trans hmax)
    simp only [rangeOrdered, Bool.and_eq_true, decide_eq_true_eq, foldl_max_le_iff,
      List.forall_mem_cons]
    exact ⟨fun h => h.2, fun h => ⟨⟨hstart, hbetween⟩, h⟩⟩

end Ranges

namespace Compactor

variable (compactor : Compactor) {view : AgentContextView} {policy : ContextWindowPolicy}

theorem identity_iff (text : String) : (∃ id, identity text = .ok id) ↔ isStableId text = true := by
  unfold identity
  constructor
  · rintro ⟨id, hid⟩
    cases hfound : StableId.ofString? text with
    | none => rw [hfound] at hid; exact absurd hid (by simp)
    | some found => exact (StableId.ofString?_eq_some text found).mp hfound ▸ found.valid
  · intro hvalid
    exact ⟨⟨text, hvalid⟩, by rw [(StableId.ofString?_eq_some text ⟨text, hvalid⟩).mpr rfl]⟩

theorem tokens_of_nonneg {count : Int} (h : 0 ≤ count) : tokens count = .ok count.toNat := if_pos h

theorem nonEmpty_iff (text : String) : (∃ content, nonEmpty text = .ok content) ↔ text ≠ "" := by
  unfold nonEmpty
  by_cases h : text = "" <;> simp [h]

/-- When the receipt of a provider can be formed. -/
theorem withProviderReceipt_iff (hsize : 0 ≤ compactor.size view) :
    (∃ view', compactor.withProviderReceipt view policy = .ok view') ↔
      policy.Reported ∧ isStableId (wordName view view.revision) = true := by
  have hcapacity := policy.capacity
  have hlimit : 0 ≤ policy.hardLimitTokens := by
    unfold ContextWindowPolicy.hardLimitTokens
    omega
  constructor
  · rintro ⟨view', h⟩
    simp only [withProviderReceipt, providerReceipt, Outcome.bind_eq_ok] at h
    obtain ⟨_, ⟨id, hid, name, hname, version, hversion, _, _, reserved, hreserved, allowance,
      hallowance, _⟩, _⟩ := h
    have hreserved := tokens_eq_ok hreserved
    have hallowance := tokens_eq_ok hallowance
    exact ⟨⟨by omega, by omega, (nonEmpty_iff _).mp ⟨name, hname⟩,
      (nonEmpty_iff _).mp ⟨version, hversion⟩⟩, (identity_iff _).mp ⟨id, hid⟩⟩
  · rintro ⟨⟨hreserved, hallowance, htokenizer, hversion⟩, hid⟩
    obtain ⟨id, hid⟩ := (identity_iff _).mpr hid
    obtain ⟨name, hname⟩ := (nonEmpty_iff _).mpr htokenizer
    obtain ⟨version, hversion⟩ := (nonEmpty_iff _).mpr hversion
    let fields : ProviderValidityFields :=
      { receiptId := id
        tokenizer := name
        tokenizerVersion := version
        sequenceLimit := policy.sequenceLimit.toNat
        reservedOutputTokens := policy.reservedOutputTokens.toNat
        safetyAllowanceTokens := policy.safetyAllowanceTokens.toNat
        renderedInputTokens := (compactor.size view).toNat
        availableInputTokens := policy.hardLimitTokens.toNat
        atomicGroupsValid := atomicGroupsValid view
        providerValid := atomicGroupsValid view &&
          decide (compactor.size view ≤ policy.hardLimitTokens)
        contextHash := view.contextHash }
    have hexpected : policy.sequenceLimit.toNat - policy.reservedOutputTokens.toNat -
        policy.safetyAllowanceTokens.toNat = policy.hardLimitTokens.toNat := by
      unfold ContextWindowPolicy.hardLimitTokens
      omega
    have hfits : compactor.size view ≤ policy.hardLimitTokens ↔
        (compactor.size view).toNat ≤ policy.hardLimitTokens.toNat := by omega
    have hvalid : validateCapacity fields = none := by
      simp only [validateCapacity, refusal_eq_none, fields, hexpected, hfits, ne_eq,
        not_true_eq_false, not_false_eq_true, and_true]
      omega
    refine ⟨{ view with providerValidityReceipt := some ⟨fields, hvalid⟩ }, ?_⟩
    simp only [withProviderReceipt, providerReceipt, Outcome.bind_eq_ok]
    refine ⟨⟨fields, hvalid⟩, ⟨id, hid, name, hname, version, hversion, _,
      tokens_of_nonneg (by omega), _, tokens_of_nonneg hreserved, _, tokens_of_nonneg hallowance, _,
      tokens_of_nonneg hsize, _, tokens_of_nonneg hlimit, ?_⟩, rfl⟩
    split
    · rfl
    · rename_i message hmessage
      exact absurd (hmessage.symm.trans hvalid) (by simp)

/-- Where a candidate is smaller than its view, nothing but the identity and the
    covered events stands against its receipt. -/
theorem receipt_iff {prepared : AgentContextView} {removed : List ContextViewItem}
    {inputTokens : Nat} (summaryRef detailRef : ArtifactRef) (hinput : 1 ≤ inputTokens)
    (hsize : 0 ≤ compactor.size prepared) (hless : compactor.size prepared ≤ inputTokens) :
    (∃ receipt, compactor.receipt view prepared removed inputTokens summaryRef detailRef =
        .ok receipt) ↔
      isStableId (receiptName view) = true ∧
        ∀ item ∈ removed, Known view.basisEventPosition item := by
  have hpositive : (0 : ℚ) < inputTokens := by exact_mod_cast hinput
  have houtput : ((compactor.size prepared).toNat : ℚ) ≤ inputTokens := by
    exact_mod_cast (by omega : (compactor.size prepared).toNat ≤ inputTokens)
  have hratio : 0 ≤ ((inputTokens : ℚ) - (compactor.size prepared).toNat) / inputTokens ∧
      ((inputTokens : ℚ) - (compactor.size prepared).toNat) / inputTokens ≤ 1 := by
    refine ⟨div_nonneg (sub_nonneg.mpr houtput) hpositive.le, ?_⟩
    rw [div_le_one hpositive]
    exact sub_le_self _ (Nat.cast_nonneg _)
  rw [← coveredRange_iff, ← identity_iff, ← exists_and_right]
  unfold receipt
  rw [tokens_of_nonneg hsize]
  simp only [Outcome.bind_eq_ok, Except.ok.injEq, exists_eq_left']
  rw [exists_comm]
  refine exists_congr fun id => ?_
  rw [exists_and_left]
  refine and_congr_right fun _ => ?_
  rw [if_neg (by omega)]
  constructor
  · rintro ⟨made, hmade⟩
    split at hmade
    · rename_i hvalid
      simp only [validateReceipt, refusal_eq_none, not_or, not_not, not_lt] at hvalid
      exact hvalid.2.2.1
    · cases hmade
  · rintro ⟨hordered, hknown⟩
    split
    · exact ⟨_, rfl⟩
    · rename_i message hmessage
      refine absurd (hmessage.symm.trans ?_ : some message = none) (by simp)
      simp [validateReceipt, validateTokenCounts, refusal_eq_none, hordered, hratio]
      omega

/-- The receipt of a cut and the provider's word on the view that comes of it can be formed. -/
def Records (view : AgentContextView) (policy : ContextWindowPolicy)
    (candidate : AgentContextView) (removed : List ContextViewItem)
    (summaryRef detailRef : ArtifactRef) : Prop :=
  let prepared := refreshTokens compactor.projectorTokens
    (prepare view candidate removed summaryRef).withHash
  (∃ receipt, compactor.receipt view prepared removed (compactor.size view).toNat summaryRef
    detailRef = .ok receipt) ∧
  ∃ published, compactor.withProviderReceipt prepared policy = .ok published

theorem records_iff {candidate : AgentContextView} {removed : List ContextViewItem}
    (summaryRef detailRef : ArtifactRef) (hrun : candidate.runId = view.runId)
    (hsize : 0 ≤ compactor.size candidate) (hless : compactor.size candidate < compactor.size view) :
    compactor.Records view policy candidate removed summaryRef detailRef ↔
      (isStableId (receiptName view) = true ∧
        ∀ item ∈ removed, Known view.basisEventPosition item) ∧
      policy.Reported ∧ isStableId (wordName view (view.revision + 1)) = true := by
  have hname : wordName view (view.revision + 1) =
      wordName (refreshTokens compactor.projectorTokens
        (prepare view candidate removed summaryRef).withHash) (view.revision + 1) := by
    unfold wordName
    rw [← hrun]
    rfl
  rw [hname]
  refine and_congr (compactor.receipt_iff summaryRef detailRef (by omega) hsize ?_)
    (compactor.withProviderReceipt_iff hsize)
  have hsame : compactor.size (refreshTokens compactor.projectorTokens
      (prepare view candidate removed summaryRef).withHash) = compactor.size candidate := rfl
  omega

section Soft

variable (hsize : 0 ≤ compactor.size view) {hard : Bool} (artifacts : Artifacts)
  {error : ContextError}

include hsize

theorem pressure_of_nonneg : ∃ pressure, compactor.pressure view policy = .ok pressure ∧
    pressure.renderedInputTokens = (compactor.size view).toNat := by
  unfold pressure
  rw [tokens_of_nonneg hsize]
  exact ⟨_, rfl, rfl⟩

theorem compact_unworded (hfits : compactor.size view ≤ policy.target hard)
    (h : compactor.withProviderReceipt view policy = .error error) :
    (compactor.compact view policy hard artifacts).1 = .error error := by
  rcases compactor.pressure_of_nonneg hsize with ⟨pressure, hpressure, hrendered⟩
  unfold compact
  rw [bind_ofExcept_ok hpressure, hrendered, Int.toNat_of_nonneg hsize, if_pos hfits,
    bind_ofExcept_error h]

theorem compact_unreduced (hlarge : policy.target hard < compactor.size view)
    (h : compactor.reduce view (policy.target hard) = .error error) :
    (compactor.compact view policy hard artifacts).1 = .error error := by
  rcases compactor.pressure_of_nonneg hsize with ⟨pressure, hpressure, hrendered⟩
  unfold compact
  rw [bind_ofExcept_ok hpressure, hrendered, Int.toNat_of_nonneg hsize,
    if_neg (not_le.mpr hlarge), bind_ofExcept_error h]

/-- What stands behind the error of a soft compaction: the artifact store, the provider's word on a
    view that fits, the second phase, or a cut that cannot be recorded. -/
theorem compact_soft_error (h : (compactor.compact view policy false artifacts).1 = .error error) :
    (∃ message, error = .integrity message) ∨
    (compactor.size view ≤ policy.target false ∧
      compactor.withProviderReceipt view policy = .error error) ∨
    (policy.target false < compactor.size view ∧
      compactor.reduce view (policy.target false) = .error error) ∨
    ∃ candidate removed summaryRef detailRef, policy.target false < compactor.size view ∧
      compactor.reduce view (policy.target false) = .ok (candidate, removed) ∧
      compactor.size candidate ≤ policy.target false ∧
      ¬ compactor.Records view policy candidate removed summaryRef detailRef := by
  rcases compactor.pressure_of_nonneg hsize with ⟨pressure, hpressure, hrendered⟩
  unfold compact at h
  rw [bind_ofExcept_ok hpressure, hrendered, Int.toNat_of_nonneg hsize] at h
  by_cases hfits : compactor.size view ≤ policy.target false
  · rw [if_pos hfits] at h
    cases hword : compactor.withProviderReceipt view policy with
    | ok view' =>
      rw [bind_ofExcept_ok hword] at h
      cases h
    | error raised =>
      rw [bind_ofExcept_error hword] at h
      exact Or.inr (Or.inl ⟨hfits, congrArg _ (Except.error.inj h)⟩)
  rw [if_neg hfits] at h
  rw [not_le] at hfits
  cases hreduce : compactor.reduce view (policy.target false) with
  | error raised =>
    rw [bind_ofExcept_error hreduce] at h
    exact Or.inr (Or.inr (Or.inl ⟨hfits, congrArg _ (Except.error.inj h)⟩))
  | ok result =>
    rcases result with ⟨candidate, removed⟩
    rw [bind_ofExcept_ok hreduce] at h
    dsimp only at h
    by_cases hlarge : policy.target false < compactor.size candidate
    · rw [if_pos hlarge] at h
      cases h
    rw [if_neg hlarge, ← outcome_error] at h
    simp only [outcome_bind, outcome_transact, outcome_ofExcept,
      outcome_pure, Transaction.bind_error] at h
    rcases h with hdetail | ⟨detailRef, _, _, hsummary | ⟨summaryRef, _, _, hrest⟩⟩
    · exact Or.inl (put_refuses _ _ _ _ _ hdetail)
    · exact Or.inl (put_refuses _ _ _ _ _ hsummary)
    · refine Or.inr (Or.inr (Or.inr ⟨candidate, removed, summaryRef, detailRef, hfits, rfl,
        not_lt.mp hlarge, ?_⟩))
      rintro ⟨⟨receipt, hreceipt⟩, published, hpublished⟩
      rw [hreceipt, hpublished] at hrest
      rcases hrest with hraised | ⟨_, _, _, hraised | ⟨_, _, _, hraised⟩⟩
      · cases hraised
      · cases hraised
      · exact absurd hraised (Transaction.pure_error _ _ _)

end Soft

end Compactor

end NovelAgent.Context
