import Mathlib.Data.List.Nodup
import NovelAgent.Core.Outcome
import NovelAgent.Evidence.Gateway

/-!
# Closure of the Gateway

What the gateway freezes agrees with itself. A rewritten trace is copied
without being validated, the counts are folded over the needs, and the stop
reason is corrected by the counts, each in its own place. Here they are tied
together: the trace would still load, the counts compare as the closed facets
do, and a stop that says that enough was found is true.
-/

namespace NovelAgent.Evidence

open Core Domain Retrieval List

/-- What an arm's answer is like: no need has two traces, and each trace is valid and lists the
    facets that its need's completion requires. The arms count no facets themselves. -/
structure ArmAnswers (request : GatewayRequest) (selected : PairedContextArmResult) : Prop where
  traces_nodup : (selected.context.retrievalTraces.map RetrievalTrace.needId).Nodup
  valid : ∀ trace ∈ selected.context.retrievalTraces, trace.Valid
  declared : ∀ need ∈ request.needs, ∀ trace ∈ selected.context.retrievalTraces,
    trace.needId = need.needId → trace.requiredNeedFacetIds = need.declaredFacetIds
  uncounted : request.needs = [] →
    selected.mandatoryNeedFacetsClosed = selected.mandatoryNeedFacetsTotal

def ClosedIn (traces : List RetrievalTrace) (need : PublicNeed) (facetId : StableId) : Prop :=
  ∃ trace ∈ traces, trace.needId = need.needId ∧ facetId ∈ trace.closedNeedFacetIds

/-- Every required facet of a mandatory need is closed. -/
def AllClosed (needs : List PublicNeed) (traces : List RetrievalTrace) : Prop :=
  ∀ need ∈ needs, need.mandatory = true → ∀ id ∈ need.requiredFacetIds, ClosedIn traces need id

/-- The closure of an answer agrees with itself. -/
structure SelfConsistent (request : GatewayRequest) (output : PairedContextArmResult) :
    Prop where
  /-- Every trace would load. -/
  valid : ∀ trace ∈ output.context.retrievalTraces, trace.Valid
  /-- The closed facets of a need are required, and are those with a supporting receipt. -/
  closed_iff : ∀ need ∈ request.needs, ∀ trace ∈ output.context.retrievalTraces,
    trace.needId = need.needId →
      (∀ id ∈ trace.closedNeedFacetIds, id ∈ need.requiredFacetIds) ∧
      ∀ id, id ∈ trace.closedNeedFacetIds ↔ id ∈ supportedFacetIds trace.facetReceipts
  counts_le : output.mandatoryNeedFacetsClosed ≤ output.mandatoryNeedFacetsTotal
  counts_eq : output.mandatoryNeedFacetsClosed = output.mandatoryNeedFacetsTotal ↔
    AllClosed request.needs output.context.retrievalTraces
  stopped : output.stopReason = .sufficient ∨ output.stopReason = .noAdditionalEvidence →
    AllClosed request.needs output.context.retrievalTraces

section Lookup

theorem mem_of_findRev? {α : Type} {p : α → Bool} {l : List α} {a : α}
    (h : l.findRev? p = some a) : a ∈ l ∧ p a = true := by
  rw [List.findRev?_eq_find?_reverse] at h
  exact ⟨mem_reverse.mp (mem_of_find?_eq_some h), List.find?_some h⟩

theorem findRev?_eq_none {α : Type} {p : α → Bool} {l : List α} (h : l.findRev? p = none)
    (a : α) (ha : a ∈ l) : p a = false := by
  rw [List.findRev?_eq_find?_reverse, List.find?_eq_none] at h
  have := h a (mem_reverse.mpr ha)
  simpa using this

theorem traceFor_mem {traces : List RetrievalTrace} {needId : StableId} {trace : RetrievalTrace}
    (h : traceFor traces needId = some trace) : trace ∈ traces ∧ trace.needId = needId := by
  have hmem := mem_of_findRev? h
  exact ⟨hmem.1, of_decide_eq_true hmem.2⟩

/-- Among distinct identities the trace of an identity is the one that has it. -/
theorem traceFor_of_mem {traces : List RetrievalTrace} {trace : RetrievalTrace}
    (hnodup : (traces.map RetrievalTrace.needId).Nodup) (h : trace ∈ traces) :
    traceFor traces trace.needId = some trace := by
  cases hfind : traceFor traces trace.needId with
  | none =>
    have := findRev?_eq_none hfind trace h
    simp at this
  | some other =>
    have hother := traceFor_mem hfind
    have := inj_on_of_nodup_map hnodup hother.1 h hother.2
    rw [this]

theorem closedIn_iff {traces : List RetrievalTrace} {need : PublicNeed} {trace : RetrievalTrace}
    (hnodup : (traces.map RetrievalTrace.needId).Nodup)
    (h : traceFor traces need.needId = some trace) (facetId : StableId) :
    ClosedIn traces need facetId ↔ facetId ∈ trace.closedNeedFacetIds := by
  have htrace := traceFor_mem h
  constructor
  · rintro ⟨other, hother, hid, hclosed⟩
    have := inj_on_of_nodup_map hnodup hother htrace.1 (hid.trans htrace.2.symm)
    rwa [← this]
  · intro hclosed
    exact ⟨trace, htrace.1, htrace.2, hclosed⟩

end Lookup

section Receipts

theorem receiptFor_mem {α : Type} {facetOf : α → StableId} {receipts : List α}
    {facetId : StableId} {receipt : α} (h : receiptFor facetOf receipts facetId = some receipt) :
    receipt ∈ receipts ∧ facetOf receipt = facetId := by
  have hmem := mem_of_findRev? h
  exact ⟨hmem.1, of_decide_eq_true hmem.2⟩

/-- Whichever branch decides a facet, the receipt is about that facet of that
    need. An old receipt has to be one already. -/
theorem facetReceipt_belongs (need : PublicNeed) (selection : NeedEvidenceSelection)
    (locationUnits relationCoverUnits : List StableId)
    (semantic : Option NeedFacetSemanticReceipt) (old : Option FacetEvidenceReceipt)
    (facet : NeedFacet)
    (hold : ∀ receipt ∈ old,
      receipt.needId = need.needId ∧ receipt.needFacetId = facet.needFacetId) :
    (facetReceipt need selection locationUnits relationCoverUnits semantic old facet).needId =
        need.needId ∧
      (facetReceipt need selection locationUnits relationCoverUnits semantic old
        facet).needFacetId = facet.needFacetId := by
  unfold facetReceipt
  cases semantic with
  | none =>
    cases old with
    | none => simp
    | some receipt => exact hold receipt rfl
  | some receipt =>
    dsimp only
    split
    · simp
    · simp
    · simp
    · split
      · simp
      · split <;> simp

theorem facetReceiptsFor_belong {need : PublicNeed} {trace : RetrievalTrace}
    {selection : NeedEvidenceSelection} {semanticReceipts : List NeedFacetSemanticReceipt}
    {receipts : List FacetEvidenceReceipt}
    (h : facetReceiptsFor need trace selection semanticReceipts = .ok receipts)
    (hvalid : trace.Valid) (hid : trace.needId = need.needId)
    (receipt : FacetEvidenceReceipt) (hmem : receipt ∈ receipts) :
    receipt.needId = need.needId ∧ receipt.needFacetId ∈ need.requiredFacetIds := by
  unfold facetReceiptsFor at h
  rcases (Outcome.mapM_mem h receipt).mp hmem with ⟨facet, hfacet, hreceipt⟩
  have hrequired : facet.needFacetId ∈ need.requiredFacetIds :=
    of_decide_eq_true (mem_filter.mp hfacet).2
  rcases (Outcome.bind_eq_ok _ _ _).mp hreceipt with ⟨relationCoverUnits, _, hok⟩
  have hbelongs := facetReceipt_belongs need selection (currentLocationUnitIds trace selection)
    relationCoverUnits
    (receiptFor NeedFacetSemanticReceipt.needFacetId semanticReceipts facet.needFacetId)
    (receiptFor FacetEvidenceReceipt.needFacetId trace.facetReceipts facet.needFacetId) facet
    (fun old hold => by
      have hfound := receiptFor_mem (Option.mem_def.mp hold)
      exact ⟨(hvalid.receipts_belong old hfound.1).1.trans hid, hfound.2⟩)
  rw [Except.ok.inj hok] at hbelongs
  rw [hbelongs.2]
  exact ⟨hbelongs.1, hrequired⟩

theorem declared_nil_of_receipts {need : PublicNeed} {trace : RetrievalTrace}
    {selection : NeedEvidenceSelection} {semanticReceipts : List NeedFacetSemanticReceipt}
    (h : facetReceiptsFor need trace selection semanticReceipts = .ok []) :
    need.declaredFacetIds = [] := by
  have hlength := Outcome.mapM_length h
  rw [← need.requiredFacetIds_eq]
  refine eq_nil_iff_forall_not_mem.mpr fun id hrequired => ?_
  rcases mem_map.mp (need.required_mem_facets id hrequired) with ⟨facet, hfacet, rfl⟩
  have hkept : facet ∈ need.needFacets.filter fun facet =>
      decide (facet.needFacetId ∈ need.requiredFacetIds) :=
    mem_filter.mpr ⟨hfacet, decide_eq_true hrequired⟩
  have hpos := length_pos_of_mem hkept
  rw [← hlength] at hpos
  exact absurd hpos (by simp)

end Receipts

section Rewriting

theorem fallbackStatus_ne {trace : RetrievalTrace} (hvalid : trace.Valid)
    (semanticReceipts : List NeedFacetSemanticReceipt)
    (judgeError : Option World.NonEmptyText) :
    fallbackStatus trace semanticReceipts judgeError ≠ some "" := by
  have hold := hvalid.fallbackStatus_ne
  unfold fallbackStatus
  dsimp only
  split
  · simp
  · split
    · simp
    · split
      · simp
      · split
        · simp
        · split
          · simp
          · exact hold

theorem traceWithLiveClosure_ok {trace updated : RetrievalTrace} {need : PublicNeed}
    {selection own : NeedEvidenceSelection} {semanticReceipts : List NeedFacetSemanticReceipt}
    {receiptRef : Option ArtifactRef} {judgeError : Option World.NonEmptyText}
    (h : traceWithLiveClosure trace need selection own semanticReceipts receiptRef judgeError =
      .ok updated) :
    ∃ receipts, facetReceiptsFor need trace selection semanticReceipts = .ok receipts ∧
      updated.needId = trace.needId ∧
      updated.candidates = trace.candidates ∧
      updated.needExecutionStatus = trace.needExecutionStatus ∧
      updated.callsAllocated = trace.callsAllocated ∧
      updated.requiredNeedFacetIds = trace.requiredNeedFacetIds ∧
      updated.closedNeedFacetIds = supportedFacetIds receipts ∧
      updated.facetReceipts = (if receipts = [] then trace.facetReceipts else receipts) ∧
      updated.semanticFallbackStatus = fallbackStatus trace semanticReceipts judgeError ∧
      (updated.semanticFallbackReason = trace.semanticFallbackReason ∨
        updated.semanticFallbackReason =
          some (judgeError.elim "gateway_live_exact_l0" World.NonEmptyText.text)) := by
  unfold traceWithLiveClosure at h
  rcases (Outcome.bind_eq_ok _ _ _).mp h with ⟨receipts, hreceipts, hok⟩
  rw [← Except.ok.inj hok]
  refine ⟨receipts, hreceipts, rfl, rfl, rfl, rfl, rfl, rfl, rfl, rfl, ?_⟩
  dsimp only
  split
  · exact Or.inl rfl
  · exact Or.inr rfl

/-- A rewritten trace keeps the rules of a trace. Its closed facets are
    required, and are those that a receipt supports. -/
theorem traceWithLiveClosure_valid {trace updated : RetrievalTrace} {need : PublicNeed}
    {selection own : NeedEvidenceSelection} {semanticReceipts : List NeedFacetSemanticReceipt}
    {receiptRef : Option ArtifactRef} {judgeError : Option World.NonEmptyText}
    (h : traceWithLiveClosure trace need selection own semanticReceipts receiptRef judgeError =
      .ok updated)
    (hvalid : trace.Valid) (hid : trace.needId = need.needId)
    (hdeclared : trace.requiredNeedFacetIds = need.declaredFacetIds) :
    updated.Valid ∧ (∀ id ∈ updated.closedNeedFacetIds, id ∈ need.requiredFacetIds) ∧
      ∀ id, id ∈ updated.closedNeedFacetIds ↔ id ∈ supportedFacetIds updated.facetReceipts := by
  rcases traceWithLiveClosure_ok h with ⟨receipts, hreceipts, hneed, hcandidates, hexecution,
    hcalls, hrequired, hclosed, hfacets, hstatus, hreason⟩
  have hbelong := facetReceiptsFor_belong hreceipts hvalid hid
  -- Without receipts nothing is required, so the trace had none either.
  have hempty : receipts = [] → trace.facetReceipts = [] := by
    rintro rfl
    have hnone := declared_nil_of_receipts hreceipts
    refine eq_nil_iff_forall_not_mem.mpr fun receipt hmem => ?_
    have := (hvalid.receipts_belong receipt hmem).2
    rw [hdeclared, hnone] at this
    exact absurd this (by simp)
  have hfacets' : updated.facetReceipts = receipts := by
    rw [hfacets]
    split
    · rename_i hnil
      rw [hempty hnil, hnil]
    · rfl
  have hclosedRequired : ∀ id ∈ updated.closedNeedFacetIds, id ∈ need.requiredFacetIds := by
    intro id hmem
    rw [hclosed] at hmem
    rcases mem_map.mp hmem with ⟨receipt, hreceipt, rfl⟩
    exact (hbelong receipt (mem_filter.mp hreceipt).1).2
  have hsupported : ∀ id,
      id ∈ updated.closedNeedFacetIds ↔ id ∈ supportedFacetIds updated.facetReceipts := by
    intro id
    rw [hclosed, hfacets']
  refine ⟨?_, hclosedRequired, hsupported⟩
  constructor
  · rw [hexecution, hcalls]
    exact hvalid.uncalled
  · rw [hexecution, hcandidates]
    exact hvalid.unsearched
  · rw [hexecution, hcandidates]
    exact hvalid.found
  · rw [hexecution, hcandidates]
    exact hvalid.foundNothing
  · intro id hmem
    rw [hrequired, hdeclared, ← need.requiredFacetIds_eq]
    exact hclosedRequired id hmem
  · intro receipt hmem
    rw [hfacets'] at hmem
    rw [hneed, hid, hrequired, hdeclared, ← need.requiredFacetIds_eq]
    exact hbelong receipt hmem
  · intro _
    exact hsupported
  · rw [hstatus]
    exact fallbackStatus_ne hvalid semanticReceipts judgeError
  · rcases hreason with hreason | hreason
    · rw [hreason]
      exact hvalid.fallbackReason_ne
    · rw [hreason]
      cases judgeError with
      | none => simp
      | some name => simp [name.nonEmpty]

end Rewriting

section Counts

def closedCount (traces : List RetrievalTrace) (need : PublicNeed) : Nat :=
  match traceFor traces need.needId with
  | none => 0
  | some trace =>
    (need.requiredFacetIds.filter fun id => decide (id ∈ trace.closedNeedFacetIds)).length

theorem closedCount_le (traces : List RetrievalTrace) (need : PublicNeed) :
    closedCount traces need ≤ need.requiredFacetIds.length := by
  unfold closedCount
  split
  · exact Nat.zero_le _
  · exact length_filter_le _ _

theorem closedCount_eq_iff {traces : List RetrievalTrace}
    (hnodup : (traces.map RetrievalTrace.needId).Nodup) (need : PublicNeed) :
    closedCount traces need = need.requiredFacetIds.length ↔
      ∀ id ∈ need.requiredFacetIds, ClosedIn traces need id := by
  unfold closedCount
  cases h : traceFor traces need.needId with
  | none =>
    have hopen : ∀ id, ¬ ClosedIn traces need id := by
      rintro id ⟨trace, hmem, hid, _⟩
      have := findRev?_eq_none h trace hmem
      simp [hid] at this
    simp only [hopen, imp_false]
    rw [eq_comm, length_eq_zero_iff, eq_nil_iff_forall_not_mem]
  | some trace =>
    simp only [length_filter_eq_length_iff, decide_eq_true_eq]
    refine forall₂_congr fun id _ => ?_
    rw [closedIn_iff hnodup h]

variable (needs : List PublicNeed)

theorem mandatoryFacetCounts_fold (traces : List RetrievalTrace) (total closed : Nat) :
    needs.foldl
      (fun (total, closed) need =>
        if need.mandatory then
          (total + need.requiredFacetIds.length, closed + match traceFor traces need.needId with
            | none => 0
            | some trace => (need.requiredFacetIds.filter fun id =>
              decide (id ∈ trace.closedNeedFacetIds)).length)
        else (total, closed))
      (total, closed) =
    (total + ((needs.filter PublicNeed.mandatory).map fun need =>
        need.requiredFacetIds.length).sum,
      closed + ((needs.filter PublicNeed.mandatory).map (closedCount traces)).sum) := by
  induction needs generalizing total closed with
  | nil => simp
  | cons need needs ih =>
    rw [foldl_cons]
    by_cases hmandatory : need.mandatory = true
    · rw [filter_cons_of_pos hmandatory, map_cons, map_cons, sum_cons,
        sum_cons, ← Nat.add_assoc, ← Nat.add_assoc]
      simp only [hmandatory, if_true]
      exact ih _ _
    · rw [filter_cons_of_neg hmandatory]
      simp only [hmandatory]
      exact ih total closed

theorem mandatoryFacetCounts_eq (traces : List RetrievalTrace) :
    mandatoryFacetCounts needs traces =
      (((needs.filter PublicNeed.mandatory).map fun need => need.requiredFacetIds.length).sum,
        ((needs.filter PublicNeed.mandatory).map (closedCount traces)).sum) := by
  have := mandatoryFacetCounts_fold needs traces 0 0
  rw [Nat.zero_add, Nat.zero_add] at this
  exact this

theorem sum_le_and_eq_iff {α : Type} (l : List α) (f g : α → Nat) (hle : ∀ a ∈ l, f a ≤ g a) :
    (l.map f).sum ≤ (l.map g).sum ∧
      ((l.map f).sum = (l.map g).sum ↔ ∀ a ∈ l, f a = g a) := by
  induction l with
  | nil => simp
  | cons a l ih =>
    have hfirst := hle a (mem_cons_self ..)
    have hrest := ih fun b hb => hle b (mem_cons_of_mem a hb)
    simp only [map_cons, sum_cons, forall_mem_cons, ← hrest.2]
    omega

/-- The closed count stays within the total, and reaches it when everything is closed. -/
theorem counts_eq_iff {traces : List RetrievalTrace}
    (hnodup : (traces.map RetrievalTrace.needId).Nodup) (needs : List PublicNeed) :
    (mandatoryFacetCounts needs traces).2 ≤ (mandatoryFacetCounts needs traces).1 ∧
      ((mandatoryFacetCounts needs traces).2 = (mandatoryFacetCounts needs traces).1 ↔
        AllClosed needs traces) := by
  rw [mandatoryFacetCounts_eq]
  have hsums := sum_le_and_eq_iff (needs.filter PublicNeed.mandatory) (closedCount traces)
    (fun need => need.requiredFacetIds.length) fun need _ => closedCount_le traces need
  refine ⟨hsums.1, hsums.2.trans ?_⟩
  unfold AllClosed
  constructor
  · intro h need hneed hmandatory
    exact (closedCount_eq_iff hnodup need).mp
      (h need (mem_filter.mpr ⟨hneed, hmandatory⟩))
  · intro h need hneed
    have hmem := mem_filter.mp hneed
    exact (closedCount_eq_iff hnodup need).mpr (h need hmem.1 hmem.2)

theorem committedStopReason_sound {total closed : Nat} {stopReason : ControllerStopReason}
    (hle : closed ≤ total)
    (h : committedStopReason total closed stopReason = .sufficient ∨
      committedStopReason total closed stopReason = .noAdditionalEvidence) :
    closed = total := by
  by_contra hne
  have hlt : closed < total := by omega
  have hpos : 0 < total := by omega
  unfold committedStopReason at h
  rw [if_neg (fun hall => hne hall.2.1)] at h
  by_cases hstop : stopReason = .sufficient ∨ stopReason = .noAdditionalEvidence
  · rw [if_pos ⟨hpos, hlt, hstop⟩] at h
    simp at h
  · rw [if_neg (fun hall => hstop hall.2.2)] at h
    exact hstop h

end Counts

section Committing

variable {gateway : MemoryGateway} {request : GatewayRequest}
  {textRoot : World.TextRootDocument}

theorem needFor_mem {needId : StableId} {need : PublicNeed}
    (h : needFor request needId = some need) : need ∈ request.needs ∧ need.needId = needId := by
  have hmem := mem_of_findRev? h
  exact ⟨hmem.1, of_decide_eq_true hmem.2⟩

theorem needFor_isSome {need : PublicNeed} (h : need ∈ request.needs) :
    ∃ known, needFor request need.needId = some known := by
  cases hfind : needFor request need.needId with
  | some known => exact ⟨known, rfl⟩
  | none =>
    have := findRev?_eq_none hfind need h
    simp at this

theorem prepareSelections_need (selected : PairedContextArmResult) :
    (prepareSelections gateway request textRoot selected).map (fun s => s.need.needId) =
      request.needs.map fun need => need.needId := by
  unfold prepareSelections
  rw [map_map]
  refine map_congr_left fun need _ => ?_
  dsimp only [Function.comp_apply]
  split
  · split
    · rename_i known hknown
      exact (needFor_mem hknown).2
    · rfl
  · rfl

/-- A trace after the rewriting: it is the same need's, it keeps the rules of
    a trace, and if the request has its need, its closure is the need's. -/
structure Rewritten (request : GatewayRequest) (trace updated : RetrievalTrace) : Prop where
  needId_eq : updated.needId = trace.needId
  valid : updated.Valid
  closed_iff : ∀ need ∈ request.needs, updated.needId = need.needId →
    (∀ id ∈ updated.closedNeedFacetIds, id ∈ need.requiredFacetIds) ∧
      ∀ id, id ∈ updated.closedNeedFacetIds ↔ id ∈ supportedFacetIds updated.facetReceipts

theorem updatedTrace_rewritten {selections : List NeedEvidenceSelection}
    {semanticReceipts : List NeedFacetSemanticReceipt} {receiptRef : Option ArtifactRef}
    {judgeError : Option World.NonEmptyText} {trace updated : RetrievalTrace}
    (h : updatedTrace gateway request textRoot selections semanticReceipts receiptRef judgeError
      trace = .ok updated)
    (hids : (request.needs.map fun need => need.needId).Nodup)
    (hselections : selections.map (fun s => s.need.needId) =
      request.needs.map fun need => need.needId)
    (hvalid : trace.Valid)
    (hdeclared : ∀ need ∈ request.needs, trace.needId = need.needId →
      trace.requiredNeedFacetIds = need.declaredFacetIds) :
    Rewritten request trace updated := by
  unfold updatedTrace at h
  cases hneed : needFor request trace.needId with
  | none =>
    rw [hneed] at h
    rw [← Except.ok.inj h]
    refine ⟨rfl, hvalid, fun need hmem hid => ?_⟩
    rcases needFor_isSome hmem with ⟨known, hknown⟩
    rw [hid, hknown] at hneed
    exact absurd hneed (by simp)
  | some need =>
    rw [hneed] at h
    have hknown := needFor_mem hneed
    -- Every need has a selection, so the trace is rewritten.
    cases hselection : selections.find? fun s => s.need.needId = trace.needId with
    | none =>
      have hmem : need.needId ∈ selections.map fun s => s.need.needId := by
        rw [hselections]
        exact mem_map_of_mem hknown.1
      rcases mem_map.mp hmem with ⟨selection, hmem, hid⟩
      have := List.find?_eq_none.mp hselection selection hmem
      simp [hid, hknown.2] at this
    | some selection =>
      rw [hselection] at h
      have hdecl := hdeclared need hknown.1 hknown.2.symm
      have hrewritten := traceWithLiveClosure_valid h hvalid hknown.2.symm hdecl
      rcases traceWithLiveClosure_ok h with ⟨_, _, hid, _⟩
      refine ⟨hid, hrewritten.1, fun other hother hotherId => ?_⟩
      have hsame : other = need :=
        inj_on_of_nodup_map hids hother hknown.1
          (hotherId.symm.trans (hid.trans hknown.2.symm))
      rw [hsame]
      exact hrewritten.2

theorem map_lookup {lookup : StableId → Option RetrievalTrace}
    {traces updated : List RetrievalTrace}
    (hlinked : List.Forall₂ (fun trace new => new.needId = trace.needId) traces updated)
    (hfound : ∀ new ∈ updated, lookup new.needId = some new) :
    traces.map (fun trace => (lookup trace.needId).getD trace) = updated := by
  induction hlinked with
  | nil => rfl
  | cons hid _ ih =>
    rw [forall_mem_cons] at hfound
    rw [map_cons, ih hfound.2, ← hid, hfound.1, Option.getD_some]

theorem map_needId {traces updated : List RetrievalTrace}
    (hlinked : List.Forall₂ (fun trace new => new.needId = trace.needId) traces updated) :
    updated.map RetrievalTrace.needId = traces.map RetrievalTrace.needId := by
  induction hlinked with
  | nil => rfl
  | cons hid _ ih => rw [map_cons, map_cons, hid, ih]

/-- The answer over rewritten traces agrees with itself. -/
theorem committed_consistent {selected : PairedContextArmResult}
    {traces : List RetrievalTrace}
    (hnodup : (traces.map RetrievalTrace.needId).Nodup)
    (hvalid : ∀ trace ∈ traces, trace.Valid)
    (hclosed : ∀ need ∈ request.needs, ∀ trace ∈ traces, trace.needId = need.needId →
      (∀ id ∈ trace.closedNeedFacetIds, id ∈ need.requiredFacetIds) ∧
        ∀ id, id ∈ trace.closedNeedFacetIds ↔ id ∈ supportedFacetIds trace.facetReceipts) :
    SelfConsistent request (committed request selected traces) := by
  have hcounts := counts_eq_iff hnodup request.needs
  constructor
  · exact hvalid
  · exact hclosed
  · exact hcounts.1
  · exact hcounts.2
  · intro hstop
    exact hcounts.2.mp (committedStopReason_sound hcounts.1 hstop)

/-- The run over all traces: what the gateway commits agrees with itself. -/
theorem commitLiveOutput_consistent {selected output : PairedContextArmResult}
    {selections : List NeedEvidenceSelection}
    {semanticResult : Option NeedEvidenceSemanticResult}
    {judgeError : Option World.NonEmptyText}
    (h : commitLiveOutput gateway request textRoot selected selections semanticResult judgeError =
      .ok output)
    (hids : (request.needs.map fun need => need.needId).Nodup)
    (hselections : selections.map (fun s => s.need.needId) =
      request.needs.map fun need => need.needId)
    (hselected : ArmAnswers request selected) :
    SelfConsistent request output := by
  unfold commitLiveOutput at h
  rcases (Outcome.bind_eq_ok _ _ _).mp h with ⟨receiptRef, _, h⟩
  rcases (Outcome.bind_eq_ok _ _ _).mp h with ⟨updated, hupdated, h⟩
  have hstep : ∀ trace ∈ selected.context.retrievalTraces, ∀ new,
      updatedTrace gateway request textRoot selections
        (judgedReceipts gateway selections semanticResult) receiptRef judgeError trace =
          .ok new → Rewritten request trace new :=
    fun trace hmem new hnew => updatedTrace_rewritten hnew hids hselections
      (hselected.valid trace hmem) fun need hneed => hselected.declared need hneed trace hmem
  have hlinked : List.Forall₂ (fun trace new => new.needId = trace.needId)
      selected.context.retrievalTraces updated := by
    have hcalls := Outcome.mapM_linked.mp hupdated
    refine (forall₂_iff_get.mpr ⟨hcalls.length_eq, fun i hi hj => ?_⟩)
    exact (hstep _ (get_mem _ _) _ (hcalls.get hi hj)).needId_eq
  have hrewritten : ∀ new ∈ updated, ∃ trace ∈ selected.context.retrievalTraces,
      Rewritten request trace new := by
    intro new hnew
    rcases (Outcome.mapM_mem hupdated new).mp hnew with ⟨trace, hmem, hcall⟩
    exact ⟨trace, hmem, hstep trace hmem new hcall⟩
  have hnodup : (updated.map RetrievalTrace.needId).Nodup := by
    rw [map_needId hlinked]
    exact hselected.traces_nodup
  rw [map_lookup hlinked fun new hnew => traceFor_of_mem hnodup hnew] at h
  rw [← Except.ok.inj h]
  refine committed_consistent hnodup ?_ ?_
  · intro new hnew
    rcases hrewritten new hnew with ⟨trace, _, hnew⟩
    exact hnew.valid
  · intro need hneed new hnew hid
    rcases hrewritten new hnew with ⟨trace, _, hnew⟩
    exact hnew.closed_iff need hneed hid

end Committing

section Resolving

variable {gateway : MemoryGateway} {request : GatewayRequest}
  {textRoot : World.TextRootDocument} {threadId : String}
  {evaluatorOnlyArtifacts : List ArtifactId}

/-- The judge answers alike through both its entries. -/
def SameAnswers (gateway : MemoryGateway) : Prop :=
  ∀ judge ∈ gateway.semanticJudge, ∀ judgeAsync ∈ judge.judgeAsync,
    ∀ selections, judgeAsync selections = judge.judge selections

theorem consistent_of_needs_nil {selected : PairedContextArmResult}
    (hnone : request.needs = []) (hselected : ArmAnswers request selected) :
    SelfConsistent request selected := by
  have hall : AllClosed request.needs selected.context.retrievalTraces := by
    intro need hneed
    rw [hnone] at hneed
    exact absurd hneed (by simp)
  have hcounts := hselected.uncounted hnone
  constructor
  · exact hselected.valid
  · intro need hneed
    rw [hnone] at hneed
    exact absurd hneed (by simp)
  · omega
  · exact ⟨fun _ => hall, fun _ => by omega⟩
  · exact fun _ => hall

theorem needIds_nodup_of_putSelections {selections : List NeedEvidenceSelection}
    {ref : ArtifactRef} (h : putSelections gateway request selections = .ok ref) :
    (request.needs.map fun need => need.needId).Nodup := by
  unfold putSelections at h
  dsimp only at h
  by_cases hcover : (selections.map fun s => s.need.needId) =
      request.needs.map fun need => need.needId
  · rw [if_neg (fun hne => hne hcover)] at h
    by_contra hdup
    rw [hcover, if_pos hdup] at h
    exact absurd h (by simp)
  · rw [if_pos hcover] at h
    exact absurd h (by simp)

theorem freezeResult_ok {selection : ArmSelection} {selected : PairedContextArmResult}
    {selections : List NeedEvidenceSelection} {result : MemoryGatewayResult}
    (h : freezeResult gateway request selection selected selections = .ok result) :
    result.selectedResult = selected ∧ result.context = selected.context ∧
      (request.needs.map fun need => need.needId).Nodup := by
  unfold freezeResult at h
  rcases (Outcome.bind_eq_ok _ _ _).mp h with ⟨frozen, _, h⟩
  rcases (Outcome.bind_eq_ok _ _ _).mp h with ⟨frozenSelections, hput, h⟩
  have hnodup := needIds_nodup_of_putSelections hput
  cases hid : StableId.ofString? ("gateway-result." ++ request.requestId.root) with
  | none =>
    rw [hid] at h
    exact absurd h (by simp)
  | some gatewayResultId =>
    rw [hid] at h
    dsimp only [validateGatewaySelection] at h
    split at h
    · exact absurd h (by simp)
    · split at h
      · exact absurd h (by simp)
      · split at h
        · exact absurd h (by simp)
        · split at h
          · exact absurd h (by simp)
          · split at h
            · exact absurd h (by simp)
            · rw [← Except.ok.inj h]
              exact ⟨rfl, rfl, hnodup⟩

theorem resolveWith_consistent
    {ask : List NeedEvidenceSelection →
      Option NeedEvidenceSemanticResult × Option World.NonEmptyText}
    {result : MemoryGatewayResult}
    (hselected : ∀ selection,
      selectArm gateway request textRoot threadId evaluatorOnlyArtifacts = .ok selection →
        ArmAnswers request selection.selected)
    (h : resolveWith gateway request textRoot threadId evaluatorOnlyArtifacts ask =
      .ok result) :
    result.context = result.selectedResult.context ∧
      SelfConsistent request result.selectedResult := by
  unfold resolveWith at h
  rcases (Outcome.bind_eq_ok _ _ _).mp h with ⟨selection, hselection, h⟩
  rcases (Outcome.bind_eq_ok _ _ _).mp h with ⟨⟨selected, selections⟩, hassemble, h⟩
  have hfrozen := freezeResult_ok h
  rw [hfrozen.1, hfrozen.2.1]
  refine ⟨rfl, ?_⟩
  have harm := hselected selection hselection
  unfold assembleLiveOutput at hassemble
  by_cases hnone : request.needs = []
  · rw [if_pos hnone, Except.ok.injEq, Prod.mk.injEq] at hassemble
    rw [← hassemble.1]
    exact consistent_of_needs_nil hnone harm
  · rw [if_neg hnone] at hassemble
    rcases (Outcome.bind_eq_ok _ _ _).mp hassemble with ⟨output, hcommit, hok⟩
    rw [Except.ok.injEq, Prod.mk.injEq] at hok
    rw [← hok.1]
    exact commitLiveOutput_consistent hcommit hfrozen.2.2
      (prepareSelections_need selection.selected) harm

theorem judgeSelectionsAsync_eq (hsame : SameAnswers gateway)
    (selections : List NeedEvidenceSelection) :
    judgeSelectionsAsync gateway selections = judgeSelections gateway selections := by
  unfold judgeSelectionsAsync judgeSelections
  cases hjudge : gateway.semanticJudge with
  | none => rfl
  | some judge =>
    dsimp only
    cases hasync : judge.judgeAsync with
    | none => rfl
    | some judgeAsync =>
      have := hsame judge hjudge judgeAsync hasync selections
      simp only [Option.getD_some, askJudge, this]

/-- For every request and whatever the judge does: in a frozen result every trace would load, its
    closed facets are required and are those with a supporting receipt, the closed count stays
    within the total and reaches it only when every required facet of every mandatory need is
    closed, and a stop that says that enough was found is true. Asked on an event loop, the gateway
    returns the same. -/
theorem resolve_consistent (gateway : MemoryGateway) (request : GatewayRequest)
    (textRoot : World.TextRootDocument) (threadId : String)
    (evaluatorOnlyArtifacts : List ArtifactId)
    (hselected : ∀ selection,
      selectArm gateway request textRoot threadId evaluatorOnlyArtifacts = .ok selection →
        ArmAnswers request selection.selected) :
    (∀ result, resolve gateway request textRoot threadId evaluatorOnlyArtifacts = .ok result →
      result.context = result.selectedResult.context ∧
        SelfConsistent request result.selectedResult) ∧
    (∀ result,
      resolveAsync gateway request textRoot threadId evaluatorOnlyArtifacts = .ok result →
        result.context = result.selectedResult.context ∧
          SelfConsistent request result.selectedResult) ∧
    (SameAnswers gateway →
      resolveAsync gateway request textRoot threadId evaluatorOnlyArtifacts =
        resolve gateway request textRoot threadId evaluatorOnlyArtifacts) := by
  refine ⟨fun result h => resolveWith_consistent hselected h,
    fun result h => resolveWith_consistent hselected h, fun hsame => ?_⟩
  unfold resolveAsync resolve
  rw [funext (judgeSelectionsAsync_eq hsame)]

end Resolving

namespace GatewaySample

def hash : ContentHash where
  root := "sha256:0000000000000000000000000000000000000000000000000000000000000000"
  valid := by decide

def ref : ArtifactRef := ⟨hash, "application/json", 0, ⟨"1.0.0", .refl true⟩⟩

def needId : StableId := ⟨"need.1", .refl true⟩

def facetId : StableId := ⟨"facet.1", by decide⟩

def unitId : StableId := ⟨"unit.1", .refl true⟩

def sliceId : StableId := ⟨"slice.1", by decide⟩

def need : PublicNeed where
  needId := needId
  runId := ⟨"run.1", .refl true⟩
  taskId := ⟨"task.1", .refl true⟩
  baseCommit := hash
  queryIntent := .currentState
  queryText := "where is the sword"
  accessScope := "writer_safe"
  retrievalMayReturnPlan := false
  riskLevel := .low
  requirement := .mandatory
  allowedCandidatePools := [.r1]
  priority := 50
  needFacets := [⟨facetId, .currentState⟩]
  completionSpec := some ⟨[facetId]⟩
  priority_le := Retrieval.fifty_le_hundred
  pools_ne_nil := by decide
  facets_iff := by decide
  required_mem := by decide
  needType := "state"
  whyNeeded := "the next scene"
  semanticQuestion := "where is the sword"
  entityIds := []
  expectedSection := none
  expectedClaimScopes := [.current]
  queryText_ne := by decide
  needType_ne := by decide
  whyNeeded_ne := by decide
  scopes_length := rfl
  facets_nodup := by decide
  required_nodup := by decide
  required_ne_nil := by decide

def request : GatewayRequest where
  requestId := ⟨"request.1", .refl true⟩
  runId := need.runId
  taskId := need.taskId
  projectId := ⟨"project.1", by decide⟩
  baseCommit := hash
  snapshotId := ⟨"snapshot.1", .refl true⟩
  initialMemoryNeeds := [need.toStage1MemoryNeed]
  worldline := "main"
  narrativeChapter := 1
  accessScope := .writerSafe
  allowFuturePlan := false
  retrievalBudget := ⟨1, 1, 1, 1, Nat.one_pos, Nat.one_pos, Nat.one_pos, by decide, Nat.one_pos⟩
  needs_belong := by
    intro need hneed
    rw [mem_singleton.mp hneed]
    exact ⟨rfl, rfl, rfl⟩
  writerSafe := fun _ => rfl
  needs := [need]
  needs_eq := rfl

def textRoot : World.TextRootDocument where
  rootHash := hash
  schemaVersion := ⟨"1.0.0", .refl true⟩
  prelude := none
  chapters := []
  valid := by decide

def evidence : World.EvidenceRef where
  evidenceId := ⟨"evidence.1", .refl true⟩
  rootHash := hash
  objectHash := hash
  chapterId := none
  sceneId := none
  span := none
  quoteHash := none
  supportStatus := .current
  resolvedAtCommit := hash

/-- What the resolver cuts out for the one unit. -/
def slice : EvidenceSlice where
  sliceId := sliceId
  parentBlockId := ⟨"block.1", .refl true⟩
  chapterId := ⟨"chapter.1", .refl true⟩
  sceneId := none
  start := 0
  stop := 25
  text := "The sword is in the lake."
  objectHash := hash
  quoteHash := hash
  sourceCommit := hash
  snapshotId := request.snapshotId
  accessScope := "writer_safe"
  text_ne := by decide
  scope_ne := by decide
  ordered := by decide

def candidate : FusedCandidate where
  unit :=
    { unitId := unitId
      unitKind := .stateAnchor
      text := "sword lake"
      entityIds := []
      predicate := none
      sourceCommit := hash
      snapshotId := request.snapshotId
      evidenceRefs := [evidence]
      text_ne := by decide }
  fusedRank := 1
  firstHit := ⟨.r1Exact, 1⟩
  otherHits := []
  selected := true

/-- The arm found the unit, and no facet support for it. -/
def trace : RetrievalTrace where
  needId := needId
  candidates := [candidate]
  needExecutionStatus := .executedWithCandidates
  callsAllocated := 1
  requiredNeedFacetIds := [facetId]
  closedNeedFacetIds := []
  facetReceipts := []
  l0FallbackEvidenceRefs := []
  l0FallbackSliceIds := []
  l0FallbackTruncated := false
  semanticReceiptRefs := []
  semanticFallbackStatus := none
  semanticFallbackReason := none

def selected : PairedContextArmResult where
  arm := .deterministic
  context :=
    { contextId := ⟨"context.1", .refl true⟩
      baseCommit := hash
      snapshotId := request.snapshotId
      sections := ""
      unresolvedGaps := ["where is the sword"]
      retrievalTraces := [trace]
      tokenBudget := 100 }
  stopReason := .mandatoryGapUnresolved
  comparisonBasisFingerprint := hash
  futureLeakageCount := 0
  qualityEligible := true
  mandatoryNeedFacetsTotal := 0
  mandatoryNeedFacetsClosed := 0

/-- What the judge says when it is offered the slice. -/
def receipt : NeedFacetSemanticReceipt where
  needId := needId
  needFacetId := facetId
  facetKind := "current_state"
  mandatory := true
  status := .supported
  evaluatedSliceIds := [sliceId]
  supportingSliceIds := [sliceId]
  partialSliceIds := []
  unsupportedSliceIds := []
  reason := "names the place"
  batchReceiptIds := []
  judgeVersion := "v1"
  facetKind_ne := by decide
  classified_nodup := by decide
  classified_evaluated := by decide
  evaluated_nodup := by decide
  batches_nodup := by decide
  supported_rule := by decide
  partial_rule := by decide
  unsupported_rule := by decide

def gateway : MemoryGateway where
  paired :=
    { comparisonBasisFingerprint := hash
      runDeterministic := fun _ _ _ => .ok selected
      runAgentic := fun _ _ _ _ => .error .indexError }
  policy :=
    { policyId := ⟨"policy.1", by decide⟩
      mode := .deterministic
      allowDeterministicFallback := true
      promotionEvidence := none
      configurationFingerprint := hash
      promoted := by decide }
  put := fun _ => .ok ref
  semanticJudge := some ⟨fun _ => .ok ⟨[receipt], []⟩, none⟩
  resolveLiveEvidence := fun _ => some [slice]
  configured := rfl

theorem selectArm_eq : selectArm gateway request textRoot "thread.1" [] =
    .ok ⟨selected, none, false, none⟩ := rfl

theorem armAnswers : ArmAnswers request selected where
  traces_nodup := by decide
  valid := by
    intro found hfound
    rw [mem_singleton.mp hfound]
    constructor <;> simp [trace, supportedFacetIds, NeedExecutionStatus.notExecuted]
  declared := by
    intro known hknown found hfound _
    rw [mem_singleton.mp hknown, mem_singleton.mp hfound]
    rfl
  uncounted := fun _ => rfl

/-- The judge closes the facet, the arm's gap is gone, and the result agrees with itself. -/
theorem resolve_consistent_sample :
    ∃ result, resolve gateway request textRoot "thread.1" [] = .ok result ∧
      result.selectedResult.stopReason = .noAdditionalEvidence ∧
      result.context.unresolvedGaps = [] ∧ SelfConsistent request result.selectedResult := by
  have hconsistent := resolve_consistent gateway request textRoot "thread.1" []
    (fun selection hselection => by
      rw [selectArm_eq] at hselection
      rw [← Except.ok.inj hselection]
      exact armAnswers)
  have hrun : (resolve gateway request textRoot "thread.1" []).toOption.map (fun result =>
      (result.selectedResult.stopReason, result.context.unresolvedGaps)) =
        some (.noAdditionalEvidence, []) := by
    decide +kernel
  rcases Outcome.ok_of_map hrun with ⟨result, hresult, hfound⟩
  rcases Prod.mk.inj hfound with ⟨hstop, hgaps⟩
  exact ⟨result, hresult, hstop, hgaps, (hconsistent.1 result hresult).2⟩

end GatewaySample

end NovelAgent.Evidence
