import Mathlib.Data.List.Induction
import NovelAgent.Core.Outcome
import NovelAgent.World.Normalizer
import NovelAgent.World.OverlayOrder
import NovelAgent.World.Reordered

/-!
# When Normalization Preserves Meaning

The normalized operations against the ones that were given.
-/

namespace NovelAgent.World

open Core Domain List

namespace MutationNormalizer

variable {operation : ChangeOperation} {kind : WorldRecordKind} {record : kind.Record}

theorem shape_of_readRecord (h : readRecord operation = .ok ⟨kind, record⟩) :
    ∃ given, shape? operation.payload = some (kind, .object given) ∧
      recordKind? operation.payload = some kind ∧
      operation.payload.get? "record" = some (.object given) ∧
      kind.codec.load (.object given) = some record := by
  have hdecode := (readRecord_ok h).2.1
  simp only [decode, bind, Option.bind_eq_some_iff, pure, Option.some.injEq] at hdecode
  rcases hdecode with ⟨kind', hkind, raw, hraw, given, hgiven, loaded, hload, heq⟩
  cases heq
  have hobject : raw = .object given := by
    cases raw <;> simp_all [JsonValue.fields?]
  subst hobject
  refine ⟨given, ?_, hkind, hraw, hload⟩
  simp [shape?, hkind, hraw, JsonValue.fields?]

/-- The second operation asks for the same with its evidence in another order. -/
structure Reorders (operation operation' : ChangeOperation) (kind : WorldRecordKind)
    (record : kind.Record) : Prop where
  operationId : operation'.operationId = operation.operationId
  rootKind : operation'.rootKind = operation.rootKind
  targetId : operation'.targetId = operation.targetId
  type : operation'.operation = operation.operation
  reads : ∃ record', readRecord operation' = .ok ⟨kind, record'⟩ ∧ SameRecord kind record record'

theorem Reorders.refl (h : readRecord operation = .ok ⟨kind, record⟩) :
    Reorders operation operation kind record :=
  ⟨rfl, rfl, rfl, rfl, record, h, SameRecord.refl record⟩

variable {given : List (String × JsonValue)}

theorem readRecord_ordered (h : readRecord operation = .ok ⟨kind, record⟩)
    (hgiven : operation.payload.get? "record" = some (.object given))
    {items items' : List JsonValue} (hitems : given.lookup "evidence_refs" = some (.array items))
    (hperm : items.Perm items') (evidenceRefs : List EvidenceRef) :
    Reorders operation
      { operation with
        payload := operation.payload.set "record"
          ((JsonValue.object given).set "evidence_refs" (.array items'))
        evidenceRefs := evidenceRefs } kind record := by
  refine ⟨rfl, rfl, rfl, rfl, ?_⟩
  rcases shape_of_readRecord h with ⟨given', _, hkind, hgiven', hload⟩
  have hsame : given' = given := by
    rw [hgiven] at hgiven'
    cases hgiven'
    rfl
  subst hsame
  have hset : (JsonValue.object given').set "evidence_refs" (.array items') =
      .object (given'.map fun field =>
        if field.1 = "evidence_refs" then ("evidence_refs", .array items') else field) :=
    JsonValue.set_of_mem (by rw [hitems]; rfl)
  rcases load_reordered hload hitems
      (by rw [JsonValue.lookup_map_set, if_pos rfl, hitems]; rfl) hperm
      (by
        rw [map_map]
        refine map_congr_left fun field _ => ?_
        rw [Function.comp_apply]
        split
        · rename_i hfield
          exact hfield.symm
        · rfl)
      (fun key hkey => by rw [JsonValue.lookup_map_set, if_neg hkey]) with
    ⟨record', hload', hsame⟩
  refine ⟨record', ?_, hsame⟩
  have hthere : (operation.payload.get? "record").isSome := by rw [hgiven']; rfl
  rcases readRecord_ok h with ⟨hroot, _, hidentity⟩
  have hkind' : recordKind? (operation.payload.set "record"
      ((JsonValue.object given').set "evidence_refs" (.array items'))) = some kind := by
    unfold recordKind? at hkind ⊢
    rw [JsonValue.get?_set hthere, if_neg (by decide)]
    exact hkind
  have hrecord' : (operation.payload.set "record"
      ((JsonValue.object given').set "evidence_refs" (.array items'))).get? "record" =
      some ((JsonValue.object given').set "evidence_refs" (.array items')) := by
    rw [JsonValue.get?_set hthere, if_pos rfl]
  have hdecode : decode (operation.payload.set "record"
      ((JsonValue.object given').set "evidence_refs" (.array items'))) = some ⟨kind, record'⟩ := by
    rw [hset] at hrecord' hkind' ⊢
    simp [decode, hkind', hrecord', JsonValue.fields?, hload']
  have hfields : (operation.payload.set "record"
      ((JsonValue.object given').set "evidence_refs" (.array items'))).fields? ≠ none := by
    intro hnone
    simp [JsonValue.get?, hnone] at hrecord'
  simp only [readRecord]
  rw [if_neg (by simp [hroot, hfields]), hdecode]
  simp [← hsame.identity_eq, hidentity]

variable {operations : List ChangeOperation} {transforms : List NormalizationTransformReceipt}

theorem orderEvidence_ok (h : readRecord operation = .ok ⟨kind, record⟩)
    (hgiven : operation.payload.get? "record" = some (.object given))
    (horder : orderEvidence operation (.object given) = .ok (operations, transforms)) :
    ∃ operation', operations = [operation'] ∧ Reorders operation operation' kind record := by
  have hkept : Except.ok ([operation], []) = (.ok (operations, transforms) :
      Except NormalizationError (List ChangeOperation × List NormalizationTransformReceipt)) →
      ∃ operation', operations = [operation'] ∧ Reorders operation operation' kind record := by
    intro hsame
    cases hsame
    exact ⟨operation, rfl, Reorders.refl h⟩
  unfold orderEvidence at horder
  split at horder
  · rename_i items hitems
    dsimp only at horder
    split at horder
    · rw [Outcome.bind_eq_ok] at horder
      rcases horder with ⟨done, _, horder⟩
      rw [Outcome.pure_eq_ok, Prod.mk.injEq] at horder
      rcases horder with ⟨rfl, _⟩
      exact ⟨_, rfl, readRecord_ordered h hgiven hitems (mergeSort_perm _ _).symm _⟩
    · exact hkept horder
  · exact hkept horder

/-- The canonical world has the record that an operation names. -/
def InBase (world : WorldRootDocument) (operation : ChangeOperation) : Prop :=
  ∃ kind record, shape? operation.payload = some (kind, record) ∧
    (existing (some world) kind operation.targetId).isSome

/-- The operation is rewritten to the end of a state and its successor. -/
def UsesSuccessor (world : WorldRootDocument) (directive : Option Directive)
    (operation : ChangeOperation) : Prop :=
  touched directive operation = true ∧ ∃ record current, shape? operation.payload = some (.state, record) ∧
    operation.operation = .replace ∧
    existing (some world) .state operation.targetId = some current ∧
    sameIdentity .state current record = false ∧
    successorProof record operation.payload directive = true ∧
    (successorOperations operation current record).isOk = true

/-- What an operation is rewritten to. -/
theorem normalizeOperation_ok {world : WorldRootDocument} {directive : Option Directive}
    (h : readRecord operation = .ok ⟨kind, record⟩)
    (htouched : touched directive operation = true)
    (hsuccessor : ¬ UsesSuccessor world directive operation)
    (hnormal : normalizeOperation (some world) directive operation = .ok (operations, transforms)) :
    (operation.operation = .create ∧ InBase world operation ∧
      (operations = [] ∨ operations = [{ operation with operation := .replace }])) ∨
    (operation.operation = .replace ∧ ¬ InBase world operation ∧
      operations = [{ operation with operation := .create }]) ∨
    (¬ (operation.operation = .create ∧ InBase world operation) ∧
      ¬ (operation.operation = .replace ∧ ¬ InBase world operation) ∧
      ∃ operation', operations = [operation'] ∧ Reorders operation operation' kind record) := by
  rcases shape_of_readRecord h with ⟨given, hshape, _, hgiven, _⟩
  have hbase : InBase world operation ↔
      (existing (some world) kind operation.targetId).isSome := by
    constructor
    · rintro ⟨kind', raw, hshape', hthere⟩
      rw [hshape] at hshape'
      cases hshape'
      exact hthere
    · exact fun hthere => ⟨kind, _, hshape, hthere⟩
  unfold normalizeOperation at hnormal
  rw [hshape] at hnormal
  simp only at hnormal
  split at hnormal
  · rename_i current htype hcurrent
    have hin : InBase world operation := hbase.mpr (by rw [hcurrent]; rfl)
    refine Or.inl ⟨htype, hin, ?_⟩
    split at hnormal
    · rw [Outcome.bind_eq_ok] at hnormal
      rcases hnormal with ⟨_, _, hnormal⟩
      exact Or.inl (Prod.mk.inj ((Outcome.pure_eq_ok _ _).mp hnormal)).1.symm
    · split at hnormal
      · rw [Outcome.bind_eq_ok] at hnormal
        rcases hnormal with ⟨_, _, hnormal⟩
        exact Or.inr (Prod.mk.inj ((Outcome.pure_eq_ok _ _).mp hnormal)).1.symm
      · exact absurd hnormal (by simp)
  · rename_i htype hcurrent
    have hout : ¬ InBase world operation := by
      rw [hbase, hcurrent]
      simp
    refine Or.inr (Or.inl ⟨htype, hout, ?_⟩)
    rw [Outcome.bind_eq_ok] at hnormal
    rcases hnormal with ⟨_, _, hnormal⟩
    rw [Outcome.ite_throw_bind_eq_ok] at hnormal
    have hnormal := hnormal.2
    rw [Outcome.bind_eq_ok] at hnormal
    rcases hnormal with ⟨_, _, hnormal⟩
    exact (Prod.mk.inj ((Outcome.pure_eq_ok _ _).mp hnormal)).1.symm
  · rename_i current htype hcurrent
    have hin : InBase world operation := hbase.mpr (by rw [hcurrent]; rfl)
    refine Or.inr (Or.inr ⟨by simp [htype], by simp [hin], ?_⟩)
    split at hnormal
    · rename_i hstate
      rcases hstate with ⟨rfl, hdiffers⟩
      split at hnormal
      · rename_i hproof
        -- The successor was made, against the assumption.
        exact absurd ⟨htouched, _, current, hshape, htype, hcurrent, hdiffers, hproof,
          Outcome.isOk_iff.mpr ⟨_, hnormal⟩⟩ hsuccessor
      · exact absurd hnormal (by simp)
    · split at hnormal
      · exact orderEvidence_ok h hgiven hnormal
      · exact absurd hnormal (by simp)
  · rename_i hcreate hnone hsome
    refine Or.inr (Or.inr ⟨?_, ?_, orderEvidence_ok h hgiven hnormal⟩)
    · rintro ⟨htype, hin⟩
      rcases Option.isSome_iff_exists.mp (hbase.mp hin) with ⟨current, hcurrent⟩
      exact hcreate current htype hcurrent
    · rintro ⟨htype, hout⟩
      rw [hbase, Option.not_isSome_iff_eq_none] at hout
      exact hnone htype hout

/-- The operations that stand for an operation before the merging. One that is
    not touched, or is ambiguous, stands for itself. -/
def image (world : WorldRootDocument) (directive : Option Directive)
    (operation : ChangeOperation) : List ChangeOperation :=
  if touched directive operation then
    match normalizeOperation (some world) directive operation with
    | .ok (operations, _) => operations
    | .error _ => [operation]
  else [operation]

/-- The operation cannot be rewritten without guessing. -/
def Ambiguous (world : WorldRootDocument) (directive : Option Directive)
    (operation : ChangeOperation) : Prop :=
  touched directive operation = true ∧
    ∃ message, normalizeOperation (some world) directive operation = .error (.ambiguity message)

/-- The identities that the rewriting of an operation makes up are not too long. -/
def RewriteFits (world : WorldRootDocument) (directive : Option Directive)
    (operation : ChangeOperation) : Prop :=
  touched directive operation = true →
    ∀ message, normalizeOperation (some world) directive operation ≠ .error (.validation message)

/-- The operation repeats the first one on its target. -/
def repeated (seen : List ChangeOperation) (operation : ChangeOperation) : Bool :=
  (seen.find? fun first => ChangeOperation.target first = ChangeOperation.target operation).any
    fun first => repeats first operation

/-- The operations that are left when the ones that repeat the first on their
    target are dropped. -/
def dropRepeats : (seen operations : List ChangeOperation) → List ChangeOperation
  | _, [] => []
  | seen, operation :: rest =>
    (if repeated seen operation then [] else [operation]) ++
      dropRepeats (seen ++ [operation]) rest

/-- The identity of the receipt for a dropped operation is not too long. -/
def DropFits (seen : List ChangeOperation) (operation : ChangeOperation) : Prop :=
  repeated seen operation = true →
    isStableId ("normalization.duplicate." ++ operation.operationId.root) = true

variable {world : WorldRootDocument} {directive : Option Directive}

theorem normalizeStep_ok {done done' : Normalized}
    (h : normalizeStep (some world) directive done operation = .ok done') :
    RewriteFits world directive operation ∧
      done'.operations = done.operations ++ image world directive operation ∧
      (done'.ambiguous = [] ↔ done.ambiguous = [] ∧ ¬ Ambiguous world directive operation) := by
  unfold normalizeStep at h
  by_cases htouched : touched directive operation = true
  · rw [if_pos htouched] at h
    split at h
    · rename_i operations transforms hnormal
      cases h
      refine ⟨fun _ message => by simp [hnormal], by simp [image, htouched, hnormal], ?_⟩
      simp [Ambiguous, hnormal]
    · rename_i message hnormal
      cases h
      refine ⟨fun _ message => by simp [hnormal], by simp [image, htouched, hnormal], ?_⟩
      simp [Ambiguous, htouched, hnormal]
    · exact absurd h (by simp)
  · rw [if_neg htouched] at h
    cases h
    exact ⟨fun h => absurd h htouched, by simp [image, htouched], by simp [Ambiguous, htouched]⟩

theorem exists_normalizeStep (h : RewriteFits world directive operation) (done : Normalized) :
    ∃ done', normalizeStep (some world) directive done operation = .ok done' := by
  unfold normalizeStep
  by_cases htouched : touched directive operation = true
  · rw [if_pos htouched]
    cases hnormal : normalizeOperation (some world) directive operation with
    | ok result => exact ⟨_, rfl⟩
    | error error =>
      cases error with
      | ambiguity message => exact ⟨_, rfl⟩
      | validation message => exact absurd hnormal (h htouched message)
  · exact ⟨_, if_neg htouched⟩

variable {done : Normalized}

theorem foldlM_normalizeStep_ok
    (h : operations.foldlM (normalizeStep (some world) directive) ⟨[], [], []⟩ = .ok done) :
    (∀ operation ∈ operations, RewriteFits world directive operation) ∧
      done.operations = operations.flatMap (image world directive) ∧
      (done.ambiguous = [] ↔ ∀ operation ∈ operations, ¬ Ambiguous world directive operation) := by
  refine Outcome.foldlM_induct
    (motive := fun operations (done : Normalized) =>
      (∀ operation ∈ operations, RewriteFits world directive operation) ∧
      done.operations = operations.flatMap (image world directive) ∧
      (done.ambiguous = [] ↔
        ∀ operation ∈ operations, ¬ Ambiguous world directive operation)) ?_ [] (by simp) h
  intro before operation done done' hdone hstep
  rcases normalizeStep_ok hstep with ⟨hfits, hoperations, hambiguous⟩
  rcases hdone with ⟨hfits', hoperations', hambiguous'⟩
  refine ⟨?_, ?_, ?_⟩
  · intro other hother
    rcases mem_append.mp hother with hother | hother
    · exact hfits' other hother
    · rw [mem_singleton.mp hother]
      exact hfits
  · rw [hoperations, hoperations', flatMap_append, flatMap_singleton]
  · rw [hambiguous, hambiguous', forall_mem_append, forall_mem_singleton]

theorem exists_foldlM_normalizeStep
    (h : ∀ operation ∈ operations, RewriteFits world directive operation) (start : Normalized) :
    ∃ done, operations.foldlM (normalizeStep (some world) directive) start = .ok done := by
  induction operations generalizing start with
  | nil => exact ⟨start, rfl⟩
  | cons operation rest ih =>
    rw [forall_mem_cons] at h
    rcases exists_normalizeStep h.1 start with ⟨next, hnext⟩
    rcases ih h.2 next with ⟨done, hdone⟩
    exact ⟨done, by rw [foldlM_cons, hnext]; exact hdone⟩

/-- The table of the merging holds the first operation on every target. -/
def Remembers (table : Table (RootKind × StableId) ChangeOperation)
    (seen : List ChangeOperation) : Prop :=
  ∀ target, table.lookup target = seen.find? fun first => ChangeOperation.target first = target

/-- One operation of the merging. -/
theorem mergeStep_ok {done done' : Merged} {seen : List ChangeOperation}
    (hseen : Remembers done.byIdentity seen) (h : mergeStep done operation = .ok done') :
    DropFits seen operation ∧ Remembers done'.byIdentity (seen ++ [operation]) ∧
      done'.operations =
        done.operations ++ if repeated seen operation then [] else [operation] := by
  unfold mergeStep at h
  have hlookup := hseen (ChangeOperation.target operation)
  -- A target that is seen already keeps its first operation.
  have hkept : ∀ previous,
      done.byIdentity.lookup (ChangeOperation.target operation) = some previous →
      Remembers done.byIdentity (seen ++ [operation]) := by
    intro previous hprevious target
    rw [List.find?_append, hseen target]
    by_cases htarget : ChangeOperation.target operation = target
    · rw [← htarget, ← hlookup, hprevious]
      rfl
    · simp [htarget]
  split at h
  · rename_i hnone
    cases h
    rw [hnone] at hlookup
    have hfresh : repeated seen operation = false := by simp [repeated, ← hlookup]
    refine ⟨fun hrepeated => by simp [hfresh] at hrepeated, ?_, by simp [hfresh]⟩
    intro target
    rw [Table.lookup_insert_if, List.find?_append, hseen target]
    by_cases htarget : ChangeOperation.target operation = target
    · rw [if_pos htarget.symm, ← htarget, ← hlookup]
      simp
    · rw [if_neg (Ne.symm htarget)]
      simp [htarget]
  · rename_i previous hprevious
    rw [hprevious] at hlookup
    have hrepeated : repeated seen operation = repeats previous operation := by
      simp [repeated, ← hlookup]
    split at h
    · rename_i hsame
      rw [Outcome.bind_eq_ok] at h
      rcases h with ⟨receipt, hreceipt, h⟩
      rw [Outcome.pure_eq_ok] at h
      subst h
      refine ⟨fun _ => ?_, hkept previous hprevious, by simp [hrepeated, hsame]⟩
      rw [duplicateReceipt, Outcome.bind_eq_ok] at hreceipt
      rcases hreceipt with ⟨id, hid, _⟩
      unfold stableId at hid
      split at hid
      · exact absurd hid (by simp)
      · rename_i found hfound
        rw [← (StableId.ofString?_eq_some _ _).mp hfound]
        exact found.valid
    · rename_i hdiffers
      cases h
      exact ⟨fun h => absurd (hrepeated ▸ h) hdiffers, hkept previous hprevious,
        by simp [hrepeated, hdiffers]⟩

theorem exists_mergeStep {done : Merged} {seen : List ChangeOperation}
    (hseen : Remembers done.byIdentity seen) (h : DropFits seen operation) :
    ∃ done', mergeStep done operation = .ok done' := by
  unfold mergeStep
  split
  · exact ⟨_, rfl⟩
  · rename_i previous hprevious
    split
    · rename_i hsame
      have hrepeated : repeated seen operation = true := by
        rw [hseen] at hprevious
        simp [repeated, hprevious, hsame]
      have hid : stableId ("normalization.duplicate." ++ operation.operationId.root) =
          .ok ⟨_, h hrepeated⟩ := by
        unfold stableId
        rw [StableId.ofString?, dif_pos (h hrepeated)]
      simp only [duplicateReceipt, hid]
      exact ⟨_, rfl⟩
    · exact ⟨_, rfl⟩

/-- The merging from some point on. The induction is on the operations that
    are left; what was seen before them is general. -/
theorem foldlM_mergeStep_ok {operations seen : List ChangeOperation} {done done' : Merged}
    (hseen : Remembers done.byIdentity seen)
    (h : operations.foldlM mergeStep done = .ok done') :
    done'.operations = done.operations ++ dropRepeats seen operations ∧
      ∀ before operation after, operations = before ++ operation :: after →
        DropFits (seen ++ before) operation := by
  induction operations generalizing seen done with
  | nil =>
    cases h
    exact ⟨by simp [dropRepeats], by simp⟩
  | cons first rest ih =>
    rw [foldlM_cons, Outcome.bind_eq_ok] at h
    rcases h with ⟨next, hnext, hrest⟩
    rcases mergeStep_ok hseen hnext with ⟨hfits, hseen', hoperations⟩
    rcases ih hseen' hrest with ⟨hdone, hfits'⟩
    refine ⟨by rw [hdone, hoperations, dropRepeats, append_assoc], ?_⟩
    intro before operation after hsplit
    cases before with
    | nil =>
      rw [nil_append] at hsplit
      cases hsplit
      rwa [append_nil]
    | cons head before =>
      cases hsplit
      have := hfits' before operation after rfl
      rwa [append_assoc] at this

theorem exists_foldlM_mergeStep {operations seen : List ChangeOperation} {done : Merged}
    (hseen : Remembers done.byIdentity seen)
    (h : ∀ before operation after, operations = before ++ operation :: after →
      DropFits (seen ++ before) operation) :
    ∃ done', operations.foldlM mergeStep done = .ok done' := by
  induction operations generalizing seen done with
  | nil => exact ⟨done, rfl⟩
  | cons first rest ih =>
    have hfirst : DropFits seen first := by
      have := h [] first rest rfl
      rwa [append_nil] at this
    rcases exists_mergeStep hseen hfirst with ⟨next, hnext⟩
    have hseen' := (mergeStep_ok hseen hnext).2.1
    have hrest : ∀ before operation after, rest = before ++ operation :: after →
        DropFits (seen ++ [first] ++ before) operation := by
      rintro before operation after rfl
      have := h (first :: before) operation after rfl
      rwa [append_assoc]
    rcases ih hseen' hrest with ⟨done', hdone'⟩
    exact ⟨done', by rw [foldlM_cons, hnext]; exact hdone'⟩

/-- The list that operations become. -/
def normalForm (world : WorldRootDocument) (directive : Option Directive)
    (operations : List ChangeOperation) : List ChangeOperation :=
  dropRepeats [] (operations.flatMap (image world directive))

/-- No identity that the normalizer makes up for a receipt is too long. -/
structure ReceiptsFit (world : WorldRootDocument) (directive : Option Directive)
    (operations : List ChangeOperation) : Prop where
  rewrites : ∀ operation ∈ operations, RewriteFits world directive operation
  drops : ∀ before operation after,
    operations.flatMap (image world directive) = before ++ operation :: after →
      DropFits before operation

theorem ReceiptsFit.of_append {before after : List ChangeOperation}
    (h : ReceiptsFit world directive (before ++ after)) : ReceiptsFit world directive before := by
  refine ⟨fun operation hoperation => h.rewrites operation (mem_append_left _ hoperation), ?_⟩
  intro first operation rest hsplit
  refine h.drops first operation (rest ++ after.flatMap (image world directive)) ?_
  rw [flatMap_append, hsplit, append_assoc, cons_append]

/-- When the rewriting returns, and with what. -/
theorem normalizeOperations_ok
    (h : normalizeOperations (some world) directive operations = .ok done) :
    ReceiptsFit world directive operations ∧
      done.operations = normalForm world directive operations ∧
      (done.ambiguous = [] ↔ ∀ operation ∈ operations, ¬ Ambiguous world directive operation) := by
  rw [normalizeOperations, Outcome.bind_eq_ok] at h
  rcases h with ⟨loop, hloop, h⟩
  rw [Outcome.bind_eq_ok] at h
  rcases h with ⟨merged, hmerged, h⟩
  rw [Outcome.pure_eq_ok] at h
  subst h
  rcases foldlM_normalizeStep_ok hloop with ⟨hfits, hoperations, hambiguous⟩
  rw [mergeDuplicateOperations, hoperations] at hmerged
  have hstart : Remembers (⟨∅, [], loop.transforms⟩ : Merged).byIdentity [] := fun _ => rfl
  rcases foldlM_mergeStep_ok hstart hmerged with ⟨hkept, hdrops⟩
  exact ⟨⟨hfits, hdrops⟩, hkept, hambiguous⟩

theorem exists_normalizeOperations (h : ReceiptsFit world directive operations) :
    ∃ done, normalizeOperations (some world) directive operations = .ok done := by
  rcases exists_foldlM_normalizeStep h.rewrites ⟨[], [], []⟩ with ⟨loop, hloop⟩
  have hdrops := h.drops
  rw [← (foldlM_normalizeStep_ok hloop).2.1] at hdrops
  have hstart : Remembers (⟨∅, [], loop.transforms⟩ : Merged).byIdentity [] := fun _ => rfl
  rcases exists_foldlM_mergeStep hstart hdrops with ⟨merged, hmerged⟩
  refine ⟨⟨merged.operations, merged.transforms, loop.ambiguous⟩, ?_⟩
  exact (Outcome.bind_eq_ok _ _ _).mpr
    ⟨loop, hloop, (Outcome.bind_eq_ok _ _ _).mpr ⟨merged, hmerged, rfl⟩⟩

theorem dropRepeats_append (seen first second : List ChangeOperation) :
    dropRepeats seen (first ++ second) =
      dropRepeats seen first ++ dropRepeats (seen ++ first) second := by
  induction first generalizing seen with
  | nil => simp [dropRepeats]
  | cons operation first ih =>
    rw [cons_append, dropRepeats, dropRepeats, ih, append_assoc, append_assoc,
      singleton_append]

theorem normalForm_append (before : List ChangeOperation) (operation : ChangeOperation) :
    normalForm world directive (before ++ [operation]) =
      normalForm world directive before ++
        dropRepeats (before.flatMap (image world directive)) (image world directive operation) := by
  rw [normalForm, flatMap_append, flatMap_singleton, dropRepeats_append,
    nil_append]
  rfl

/-- The operation gives a record that is there already, up to the order of its evidence. -/
def Restates (records : Collections) (operation : ChangeOperation) : Prop :=
  ∃ kind record, readRecord operation = .ok ⟨kind, record⟩ ∧
    ∃ x ∈ records kind, SameRecord kind x record

/-- What stands for the operation repeats what stands for the first one on its target. -/
def Repeats (world : WorldRootDocument) (directive : Option Directive)
    (before : List ChangeOperation) (operation : ChangeOperation) : Prop :=
  ∃ operation' ∈ image world directive operation,
    repeated (before.flatMap (image world directive)) operation' = true

/-- The operation is safe to rewrite in the state that the operations before it lead to. -/
structure Harmless (world : WorldRootDocument) (directive : Option Directive)
    (before : List ChangeOperation) (records : Collections) (operation : ChangeOperation) :
    Prop where
  create : touched directive operation = true → operation.operation = .create →
    ¬ InBase world operation
  replace : touched directive operation = true → operation.operation = .replace →
    ¬ InBase world operation → Repeats world directive before operation
  repeats : Repeats world directive before operation →
    operation.operation = .replace ∧ Restates records operation

variable {records : Collections}

theorem applyOperations_append {first second : List ChangeOperation} :
    applyOperations records (first ++ second) =
      applyOperations records first >>= fun next => applyOperations next second := by
  rw [applyOperations, foldlM_append]
  rfl

theorem applyOperations_singleton :
    applyOperations records [operation] = applyOperation records operation := by
  rw [applyOperations, foldlM_cons]
  cases applyOperation records operation <;> rfl

theorem image_cases (hread : readRecord operation = .ok ⟨kind, record⟩)
    (hsuccessor : ¬ UsesSuccessor world directive operation)
    (hfits : RewriteFits world directive operation)
    (hclear : ¬ Ambiguous world directive operation) :
    (touched directive operation = true ∧ operation.operation = .create ∧
      InBase world operation ∧
      (image world directive operation = [] ∨
        image world directive operation = [{ operation with operation := .replace }])) ∨
    (touched directive operation = true ∧ operation.operation = .replace ∧
      ¬ InBase world operation ∧
      image world directive operation = [{ operation with operation := .create }]) ∨
    ((touched directive operation = true →
        ¬ (operation.operation = .create ∧ InBase world operation) ∧
        ¬ (operation.operation = .replace ∧ ¬ InBase world operation)) ∧
      ∃ operation', image world directive operation = [operation'] ∧
        Reorders operation operation' kind record) := by
  by_cases htouched : touched directive operation = true
  · cases hnormal : normalizeOperation (some world) directive operation with
    | error error =>
      cases error with
      | ambiguity message => exact absurd ⟨htouched, message, hnormal⟩ hclear
      | validation message => exact absurd hnormal (hfits htouched message)
    | ok result =>
      rcases result with ⟨operations, transforms⟩
      have himage : image world directive operation = operations := by
        simp [image, htouched, hnormal]
      rw [himage]
      rcases normalizeOperation_ok hread htouched hsuccessor hnormal with
        ⟨htype, hin, hcases⟩ | ⟨htype, hout, hcases⟩ | ⟨hcreate, hreplace, hcases⟩
      · exact Or.inl ⟨htouched, htype, hin, hcases⟩
      · exact Or.inr (Or.inl ⟨htouched, htype, hout, hcases⟩)
      · exact Or.inr (Or.inr ⟨fun _ => ⟨hcreate, hreplace⟩, hcases⟩)
  · refine Or.inr (Or.inr ⟨fun h => absurd h htouched, operation, ?_, Reorders.refl hread⟩)
    simp [image, htouched]

variable {before : List ChangeOperation} {a b a' : Collections}

theorem aligned_step (h : Aligned a b) (hdistinct : Distinct a)
    (hsuccessor : ¬ UsesSuccessor world directive operation)
    (hfits : RewriteFits world directive operation)
    (hclear : ¬ Ambiguous world directive operation)
    (hharmless : Harmless world directive before a operation)
    (happly : applyOperation a operation = .ok a') :
    ∃ b', applyOperations b (dropRepeats (before.flatMap (image world directive))
        (image world directive operation)) = .ok b' ∧ Aligned a' b' := by
  rcases applyOperation_eq_ok.mp happly with ⟨kind, record, _, hread, _, _⟩
  have hrestated : Repeats world directive before operation → Aligned a' b := by
    intro hrepeats
    rcases hharmless.repeats hrepeats with ⟨htype, kind', record', hread', hthere⟩
    rw [hread] at hread'
    cases hread'
    exact h.restated hdistinct hread htype hthere happly
  rcases image_cases hread hsuccessor hfits hclear with
    ⟨htouched, htype, hin, _⟩ | ⟨htouched, htype, hout, himage⟩ | ⟨_, operation', himage, hreorders⟩
  · exact absurd hin (hharmless.create htouched htype)
  · -- A replacement that became a creation is harmless only if it is dropped.
    have hrepeats := hharmless.replace htouched htype hout
    rcases hrepeats with ⟨operation', hmem, hrepeated⟩
    rw [himage, mem_singleton] at hmem
    subst hmem
    refine ⟨b, ?_, hrestated ⟨_, by rw [himage]; exact mem_singleton_self _, hrepeated⟩⟩
    rw [himage, dropRepeats, hrepeated]
    rfl
  · rw [himage, dropRepeats]
    by_cases hrepeated :
        repeated (before.flatMap (image world directive)) operation' = true
    · refine ⟨b, ?_, hrestated ⟨operation', by rw [himage]; exact mem_singleton_self _,
        hrepeated⟩⟩
      rw [if_pos hrepeated]
      rfl
    · rw [if_neg hrepeated, dropRepeats, append_nil, applyOperations_singleton]
      rcases hreorders.reads with ⟨record', hread', hsame⟩
      exact h.applyOperation hread hread' hsame hreorders.type happly

/-- Harmless operations keep the worlds aligned, after any number of them. The
    induction adds one operation at the end. -/
theorem aligned_of_harmless {result : Collections}
    (happly : applyOperations world.records operations = .ok result)
    (hsuccessor : ∀ operation ∈ operations, ¬ UsesSuccessor world directive operation)
    (hfits : ReceiptsFit world directive operations)
    (hclear : ∀ operation ∈ operations, ¬ Ambiguous world directive operation)
    (hharmless : ∀ before operation after records,
      operations = before ++ operation :: after →
      applyOperations world.records before = .ok records →
      Harmless world directive before records operation) (before after : List ChangeOperation)
    (hsplit : operations = before ++ after) :
    ∃ a b, applyOperations world.records before = .ok a ∧
      applyOperations world.records (normalForm world directive before) = .ok b ∧
      Aligned a b ∧ Distinct a := by
  induction before using List.reverseRecOn generalizing after with
  | nil => exact ⟨world.records, world.records, rfl, rfl, Aligned.refl _, world.nodup_identities⟩
  | append_singleton before operation ih =>
    have hsplit' : operations = before ++ operation :: after := by
      rw [hsplit, append_assoc, singleton_append]
    rcases ih (operation :: after) hsplit' with ⟨a, b, ha, hb, haligned, hdistinct⟩
    have hmem : operation ∈ operations := by
      rw [hsplit']
      exact mem_append_right _ (mem_cons_self ..)
    -- The operation applies, since the whole list does.
    rw [hsplit', applyOperations_append, ha] at happly
    have hcons : applyOperations a (operation :: after) =
        applyOperation a operation >>= fun next => applyOperations next after := rfl
    rcases (Outcome.bind_eq_ok _ _ _).mp (hcons ▸ happly) with ⟨a', ha', _⟩
    rcases aligned_step haligned hdistinct (hsuccessor operation hmem)
        (hfits.rewrites operation hmem) (hclear operation hmem)
        (hharmless before operation after a hsplit' ha) ha' with ⟨b', hb', haligned'⟩
    refine ⟨a', b', ?_, ?_, haligned', hdistinct.applyOperation ha'⟩
    · rw [applyOperations_append, ha]
      exact applyOperations_singleton.trans ha'
    · rw [normalForm_append, applyOperations_append, hb]
      exact hb'

theorem distinct_of_apply (h : applyOperations world.records operations = .ok records) :
    Distinct records := by
  refine Outcome.foldlM_induct (motive := fun _ records => Distinct records) ?_ []
    world.nodup_identities h
  intro before operation records records' hdistinct hstep
  exact hdistinct.applyOperation hstep

theorem applyOperation_effect {a a' : Collections} (hdistinct : Distinct a)
    (hread : readRecord operation = .ok ⟨kind, record⟩)
    (happly : applyOperation a operation = .ok a') :
    match operation.operation with
    | .create => kind.identity record ∉ (a kind).map kind.identity ∧ record ∈ a' kind
    | .replace => kind.identity record ∈ (a kind).map kind.identity ∧ record ∈ a' kind
    | .retire => kind.identity record ∈ (a kind).map kind.identity ∧
        kind.identity record ∉ (a' kind).map kind.identity := by
  rcases applyOperation_eq_ok.mp happly with ⟨kind', found, edited, hfound, hedit, rfl⟩
  rw [hread] at hfound
  cases hfound
  rw [Function.update_self]
  rcases Keyed.edit_eq_some.mp hedit with ⟨happ, rfl⟩
  cases htype : operation.operation with
  | create =>
    rw [htype] at happ
    exact ⟨happ, mem_append_right _ (mem_singleton_self _)⟩
  | replace =>
    rw [htype] at happ
    exact ⟨happ, Keyed.mem_replaceFirst happ⟩
  | retire =>
    rw [htype] at happ
    refine ⟨happ, ?_⟩
    have hwrite : Keyed.write kind.identity (a kind) ⟨ChangeOperationType.retire.action, record⟩ =
        (a kind).eraseP fun x => kind.identity x = kind.identity record := rfl
    rw [hwrite, Keyed.eraseP_eq_filter (hdistinct kind)]
    intro hmem
    rcases mem_map.mp hmem with ⟨x, hx, hkey⟩
    simp [hkey] at hx

theorem restates_of_dropped (hdistinct : Distinct a)
    (hread : readRecord operation = .ok ⟨kind, record⟩)
    (happly : applyOperation a operation = .ok a') (hsame : SameRecords a b)
    (hsame' : SameRecords a' b) : operation.operation = .replace ∧ Restates a operation := by
  have heffect := applyOperation_effect hdistinct hread happly
  have hids : kind.identity record ∈ (a' kind).map kind.identity ↔
      kind.identity record ∈ (a kind).map kind.identity := by
    rw [← hsame'.mem_identities, hsame.mem_identities]
  cases htype : operation.operation with
  | create =>
    rw [htype] at heffect
    exact absurd (hids.mp (mem_map_of_mem heffect.2)) heffect.1
  | replace =>
    rw [htype] at heffect
    rcases hsame'.exists_right heffect.2 with ⟨y, hy, hry⟩
    rcases hsame.exists_left hy with ⟨x, hx, hxy⟩
    exact ⟨rfl, kind, record, hread, x, hx, hxy.trans hry.symm⟩
  | retire =>
    rw [htype] at heffect
    exact absurd (hids.mpr heffect.1) heffect.2

/-- Operations whose effect is kept are harmless. -/
theorem harmless_of_same {a b a' b' : Collections} (hdistinct : Distinct a)
    (hsuccessor : ¬ UsesSuccessor world directive operation)
    (hfits : RewriteFits world directive operation)
    (hclear : ¬ Ambiguous world directive operation)
    (happly : applyOperation a operation = .ok a')
    (happly' : applyOperations b (dropRepeats (before.flatMap (image world directive))
      (image world directive operation)) = .ok b') (hsame : SameRecords a b)
    (hsame' : SameRecords a' b') : Harmless world directive before a operation := by
  rcases applyOperation_eq_ok.mp happly with ⟨kind, record, _, hread, _, _⟩
  have heffect := applyOperation_effect hdistinct hread happly
  -- If nothing is left of the operation, both worlds are as they were.
  have hdropped : dropRepeats (before.flatMap (image world directive))
      (image world directive operation) = [] →
      operation.operation = .replace ∧ Restates a operation := by
    intro hnil
    rw [hnil] at happly'
    cases happly'
    exact restates_of_dropped hdistinct hread happly hsame hsame'
  -- If it became an operation of another type, that one applies to the same
  -- identity.
  have hretyped : ∀ type, applyOperations b [{ operation with operation := type }] = .ok b' →
      ∃ edited, Keyed.edit kind.identity (b kind) ⟨type.action, record⟩ = some edited := by
    intro type happlied
    rw [applyOperations_singleton] at happlied
    rcases applyOperation_eq_ok.mp happlied with ⟨kind', found, edited, hfound, hedit, _⟩
    have hread' : readRecord { operation with operation := type } = .ok ⟨kind, record⟩ := hread
    rw [hread'] at hfound
    cases hfound
    exact ⟨edited, hedit⟩
  have hrepeats : Repeats world directive before operation →
      operation.operation = .replace ∧ Restates a operation := by
    rintro ⟨operation', hmem, hrepeated⟩
    apply hdropped
    have hsingle : image world directive operation = [operation'] := by
      rcases image_cases hread hsuccessor hfits hclear with
        ⟨_, _, _, himage | himage⟩ | ⟨_, _, _, himage⟩ | ⟨_, _, himage, _⟩
      · rw [himage] at hmem
        exact absurd hmem not_mem_nil
      · rw [himage, mem_singleton] at hmem
        rw [himage, hmem]
      · rw [himage, mem_singleton] at hmem
        rw [himage, hmem]
      · rw [himage, mem_singleton] at hmem
        rw [himage, hmem]
    rw [hsingle, dropRepeats, hrepeated]
    rfl
  refine ⟨?_, ?_, hrepeats⟩
  · intro htouched htype hin
    rw [htype] at heffect
    rcases image_cases hread hsuccessor hfits hclear with
      ⟨_, _, _, himage | himage⟩ | ⟨_, htype', _⟩ | ⟨hnot, _⟩
    · have := (hdropped (by rw [himage]; rfl)).1
      simp [htype] at this
    · by_cases hrepeated : repeated (before.flatMap (image world directive))
          { operation with operation := .replace } = true
      · have := (hdropped (by rw [himage, dropRepeats, hrepeated]; rfl)).1
        simp [htype] at this
      · rw [himage, dropRepeats, if_neg hrepeated, dropRepeats, append_nil] at happly'
        rcases hretyped .replace happly' with ⟨edited, hedit⟩
        have hthere : kind.identity record ∈ (b kind).map kind.identity :=
          (Keyed.edit_eq_some.mp hedit).1
        exact absurd ((hsame.mem_identities kind _).mp hthere) heffect.1
    · simp [htype] at htype'
    · exact (hnot htouched).1 ⟨htype, hin⟩
  · intro htouched htype hout
    rw [htype] at heffect
    rcases image_cases hread hsuccessor hfits hclear with
      ⟨_, htype', _⟩ | ⟨_, _, _, himage⟩ | ⟨hnot, _⟩
    · simp [htype] at htype'
    · by_contra hnot
      have hrepeated : ¬ repeated (before.flatMap (image world directive))
          { operation with operation := .create } = true := by
        intro hrepeated
        exact hnot ⟨_, by rw [himage]; exact mem_singleton_self _, hrepeated⟩
      rw [himage, dropRepeats, if_neg hrepeated, dropRepeats, append_nil] at happly'
      rcases hretyped .create happly' with ⟨edited, hedit⟩
      have hnotThere : kind.identity record ∉ (b kind).map kind.identity :=
        (Keyed.edit_eq_some.mp hedit).1
      exact hnotThere ((hsame.mem_identities kind _).mpr heffect.1)
    · exact absurd ⟨htype, hout⟩ (hnot htouched).2

/-- The normalized operations do what the given ones do. The changes handed on apply to the same
    world and propose the same one, and nothing is dropped or done twice on the way: what every
    initial part of the operations becomes has the effect of that part. An ambiguous candidate is
    handed on as it is. -/
def PreservesMeaning (payloadHash : ObservedChangeSet → ArtifactId) (world : WorldRootDocument)
    (directive : Option Directive) (changes : ObservedChangeSet) (commit : Option CommitId)
    (proposed : WorldRootDocument) : Prop :=
  ∃ result, normalize payloadHash (some world) directive changes = .ok result ∧
    (∃ normalized, apply world result.changes commit = .ok normalized ∧
      SameRecords proposed.records normalized.records) ∧
    (result.status = .ambiguous ∨
      ∀ before after, changes.operations = before ++ after →
        ∃ done a b, normalizeOperations (some world) directive before = .ok done ∧
          applyOperations world.records before = .ok a ∧
          applyOperations world.records done.operations = .ok b ∧ SameRecords a b)

/-- Receipts fit, and an operation is ambiguous or all of them are harmless. -/
def SafeToNormalize (world : WorldRootDocument) (directive : Option Directive)
    (operations : List ChangeOperation) : Prop :=
  ReceiptsFit world directive operations ∧
    ((∃ operation ∈ operations, Ambiguous world directive operation) ∨
      ∀ before operation after records, operations = before ++ operation :: after →
        applyOperations world.records before = .ok records →
        Harmless world directive before records operation)

variable {payloadHash : ObservedChangeSet → ArtifactId} {changes : ObservedChangeSet}

/-- What the rewriting returns is handed on, unless it is ambiguous or nothing has changed. -/
theorem exists_normalize
    (h : normalizeOperations (some world) directive changes.operations = .ok done) :
    ∃ result, normalize payloadHash (some world) directive changes = .ok result ∧
      (result.status = .ambiguous ↔ done.ambiguous ≠ []) ∧
      (result.changes = changes ∨
        done.ambiguous = [] ∧ result.changes.baseCommit = changes.baseCommit ∧
          result.changes.operations = done.operations) := by
  simp only [normalize, h, bind, Except.bind]
  by_cases hambiguous : done.ambiguous = []
  · rw [if_neg (not_not.mpr hambiguous)]
    split
    · exact ⟨_, rfl, by simp [hambiguous], Or.inl rfl⟩
    · split
      · exact ⟨_, rfl, by simp [hambiguous], Or.inl rfl⟩
      · exact ⟨_, rfl, by simp [hambiguous], Or.inr ⟨hambiguous, rfl, rfl⟩⟩
  · rw [if_pos hambiguous]
    exact ⟨_, rfl, by simp [hambiguous], Or.inl rfl⟩

theorem normalize_ok {result : NormalizationResult}
    (h : normalize payloadHash (some world) directive changes = .ok result) :
    ∃ done, normalizeOperations (some world) directive changes.operations = .ok done ∧
      (result.status = .ambiguous → done.ambiguous ≠ []) := by
  rcases (Outcome.bind_eq_ok _ _ _).mp h with ⟨done, hdone, _⟩
  refine ⟨done, hdone, ?_⟩
  rcases exists_normalize hdone with ⟨result', hresult', hstatus, _⟩
  rw [h] at hresult'
  cases hresult'
  exact hstatus.mp

end MutationNormalizer

namespace Sample

def payloadHash (changes : ObservedChangeSet) : ArtifactId :=
  digest (JsonValue.render (.array (changes.operations.map fun operation =>
    stableIdCodec.dump operation.operationId)))

def recreated : ObservedChangeSet := changes [operation .retire hero, operation .create hero]

theorem normalize_recreated :
    ((MutationNormalizer.normalize payloadHash (some world) none recreated).toOption.map
      fun result => (result.status, result.changes.baseCommit, result.changes.operations)) =
    some (.transformed, commit, [operation .retire hero]) := by
  decide +kernel

def heroRenamed : ChangeOperation :=
  { operation .replace { hero with internalLabel := ⟨"Champion", by decide⟩ } with
    operationId := ⟨"op.hero", .refl true⟩ }

def lampRestated : ChangeOperation :=
  { operation .replace lamp with operationId := ⟨"op.again", .refl true⟩ }

/-- Two operations on the lamp with one on the hero between them. -/
def restated : ObservedChangeSet := changes [operation .create lamp, heroRenamed, lampRestated]

theorem normalizeOperation_restated : ∀ operation ∈ restated.operations,
    (MutationNormalizer.normalizeOperation (some world) none operation).isOk = true := by
  decide +kernel

theorem image_restated : restated.operations.map (MutationNormalizer.image world none) =
    [[operation .create lamp], [heroRenamed], [{ lampRestated with operation := .create }]] := by
  decide +kernel

theorem normalize_restated :
    ((MutationNormalizer.normalize payloadHash (some world) none restated).toOption.map
      fun result => (result.status, result.changes.operations)) =
    some (.transformed, [operation .create lamp, heroRenamed]) := by
  decide +kernel

end Sample

namespace MutationNormalizer

theorem receiptsFit_restated : ReceiptsFit Sample.world none Sample.restated.operations := by
  constructor
  · intro operation hmem _ message hnormal
    have hok := Sample.normalizeOperation_restated operation hmem
    rw [hnormal] at hok
    exact absurd hok (by simp [Except.isOk, Except.toBool])
  · intro before operation after hsplit _
    have hids : ∀ operation ∈ Sample.restated.operations.flatMap (image Sample.world none),
        isStableId ("normalization.duplicate." ++ operation.operationId.root) = true := by
      rw [List.flatMap, Sample.image_restated]
      decide
    exact hids operation (hsplit ▸ mem_append_right _ (mem_cons_self ..))

/-- Only the last operation repeats another one, and it gives the lamp that the first one
    has made. -/
theorem harmless_restated {before after : List ChangeOperation} {operation : ChangeOperation}
    {records : Collections} (hsplit : Sample.restated.operations = before ++ operation :: after)
    (hrecords : applyOperations Sample.world.records before = .ok records) :
    Harmless Sample.world none before records operation := by
  have himages := Sample.image_restated
  simp only [Sample.restated, Sample.changes, map_cons, map_nil, List.cons.injEq,
    and_true] at himages
  obtain ⟨hlamp, hhero, hagain⟩ := himages
  have hmissing : ¬ InBase Sample.world (Sample.operation .create Sample.lamp) := by
    rintro ⟨kind, record, hshape, hthere⟩
    have hshape' : shape? (Sample.operation .create Sample.lamp).payload =
        some (.entity, Entity.codec.dump Sample.lamp) := rfl
    rw [hshape', Option.some.injEq, Prod.mk.injEq] at hshape
    rw [← hshape.1] at hthere
    exact absurd hthere (by decide)
  have hbase : InBase Sample.world Sample.heroRenamed := ⟨.entity, _, rfl, by decide⟩
  rcases cons_eq_append_iff.mp hsplit with ⟨rfl, hfirst⟩ | ⟨rest, rfl, hrest⟩
  · rw [List.cons.injEq] at hfirst
    rw [hfirst.1]
    refine ⟨fun _ _ => hmissing, fun _ htype => absurd htype (by decide), ?_⟩
    rintro ⟨operation', _, hrepeated⟩
    exact absurd hrepeated (by simp [repeated])
  rcases cons_eq_append_iff.mp hrest with ⟨rfl, hsecond⟩ | ⟨rest, rfl, hlast⟩
  · rw [List.cons.injEq] at hsecond
    rw [hsecond.1]
    refine ⟨fun _ htype => absurd htype (by decide), fun _ _ hout => absurd hbase hout, ?_⟩
    rintro ⟨operation', hmem, hrepeated⟩
    rw [hhero, mem_singleton] at hmem
    rw [hmem, flatMap_singleton, hlamp] at hrepeated
    exact absurd hrepeated (by decide +kernel)
  rcases cons_eq_append_iff.mp hlast with ⟨rfl, hthird⟩ | ⟨rest, rfl, hnone⟩
  · rw [List.cons.injEq] at hthird
    rw [hthird.1]
    have hrepeats : Repeats Sample.world none
        [Sample.operation .create Sample.lamp, Sample.heroRenamed] Sample.lampRestated := by
      refine ⟨_, by rw [hagain]; exact mem_singleton_self _, ?_⟩
      simp only [flatMap_cons, flatMap_nil, hlamp, hhero]
      decide +kernel
    refine ⟨fun _ htype => absurd htype (by decide), fun _ _ _ => hrepeats, fun _ => ⟨rfl, ?_⟩⟩
    have hstands : ((applyOperations Sample.world.records
        [Sample.operation .create Sample.lamp, Sample.heroRenamed]).toOption.map fun records =>
          decide (Sample.lamp ∈ records .entity)) = some true := by
      decide +kernel
    obtain ⟨stored, hstored, hthere⟩ := Outcome.ok_of_map hstands
    have hsame : stored = records := Except.ok.inj (hstored.symm.trans hrecords)
    exact ⟨.entity, Sample.lamp, rfl, Sample.lamp, hsame ▸ of_decide_eq_true hthere, .refl _⟩
  · exact absurd hnone (by simp)

end MutationNormalizer

end NovelAgent.World
