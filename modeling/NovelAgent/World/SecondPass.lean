import NovelAgent.World.NormalForm
import NovelAgent.World.Successor

/-!
# The Second Pass

What the normalizer makes of a candidate that it has made itself.
-/

namespace NovelAgent.World

open Core Domain List

variable {α : Type}

/-- A list that is as long as what its items become, when no item becomes more
    than one, is a list of items that stay. -/
theorem flatMap_eq_self {f : α → List α} {items : List α}
    (hone : ∀ item ∈ items, (f item).length ≤ 1) (hsub : items.Sublist (items.flatMap f)) :
    ∀ item ∈ items, f item = [item] := by
  induction items with
  | nil => exact fun _ h => absurd h not_mem_nil
  | cons first rest ih =>
    have hrest : (rest.flatMap f).length ≤ rest.length := by
      have hall : ∀ item ∈ rest, (f item).length ≤ 1 :=
        fun item hitem => hone item (mem_cons_of_mem _ hitem)
      clear ih hsub hone
      induction rest with
      | nil => simp
      | cons item rest ih =>
        have hitem := hall item (mem_cons_self ..)
        have := ih fun item hitem => hall item (mem_cons_of_mem _ hitem)
        rw [flatMap_cons, length_append, length_cons]
        omega
    rw [flatMap_cons] at hsub
    have hfirst := hone first (mem_cons_self ..)
    match hf : f first with
    | [] =>
      rw [hf, nil_append] at hsub
      have := hsub.length_le
      rw [length_cons] at this
      omega
    | [item] =>
      rw [hf, singleton_append] at hsub
      have heq : first :: rest = item :: rest.flatMap f := by
        refine hsub.eq_of_length_le ?_
        rw [length_cons, length_cons]
        omega
      rw [List.cons.injEq] at heq
      intro other hother
      rcases mem_cons.mp hother with rfl | hother
      · rw [hf, heq.1]
      · refine ih (fun item hitem => hone item (mem_cons_of_mem _ hitem)) ?_ other hother
        rw [← heq.2]
    | item :: item' :: more =>
      rw [hf] at hfirst
      simp only [length_cons] at hfirst
      omega

namespace MutationNormalizer

theorem dropRepeats_sublist (seen operations : List ChangeOperation) :
    (dropRepeats seen operations).Sublist operations := by
  induction operations generalizing seen with
  | nil => exact List.Sublist.refl _
  | cons operation rest ih =>
    rw [dropRepeats]
    split
    · exact (ih _).cons operation
    · exact (ih _).cons_cons operation

/-- Two lists that have the same first operation on every target. -/
def SameFirsts (seen seen' : List ChangeOperation) : Prop :=
  ∀ target, (seen.find? fun first => ChangeOperation.target first = target) =
    seen'.find? fun first => ChangeOperation.target first = target

theorem SameFirsts.append {seen seen' : List ChangeOperation} (h : SameFirsts seen seen')
    (operation : ChangeOperation) : SameFirsts (seen ++ [operation]) (seen' ++ [operation]) := by
  intro target
  rw [List.find?_append, List.find?_append, h target]

theorem repeated_congr {seen seen' : List ChangeOperation} (h : SameFirsts seen seen')
    (operation : ChangeOperation) : repeated seen operation = repeated seen' operation := by
  rw [repeated, repeated, h]

theorem SameFirsts.of_repeated {seen : List ChangeOperation} {operation : ChangeOperation}
    (h : repeated seen operation = true) : SameFirsts (seen ++ [operation]) seen := by
  intro target
  rw [List.find?_append]
  cases hfind : seen.find? fun first => ChangeOperation.target first = target with
  | some first => rfl
  | none =>
    have hother : ChangeOperation.target operation ≠ target := by
      rintro rfl
      simp [repeated, hfind] at h
    simp [hother]

/-- Merging once is enough. The induction is on the operations; what was seen
    before them may differ in what was dropped. -/
theorem dropRepeats_dropRepeats {seen seen' operations : List ChangeOperation}
    (h : SameFirsts seen seen') :
    dropRepeats seen' (dropRepeats seen operations) = dropRepeats seen operations := by
  induction operations generalizing seen seen' with
  | nil => rfl
  | cons operation rest ih =>
    rw [dropRepeats]
    by_cases hrepeated : repeated seen operation = true
    · rw [if_pos hrepeated, nil_append]
      exact ih fun target => (SameFirsts.of_repeated hrepeated target).trans (h target)
    · have hrepeated' : ¬ repeated seen' operation = true := by rwa [← repeated_congr h]
      rw [if_neg hrepeated, singleton_append, dropRepeats, if_neg hrepeated',
        singleton_append, ih (h.append operation)]

theorem repeated_of_dropRepeats_eq {before after : List ChangeOperation}
    {operation : ChangeOperation}
    (h : dropRepeats [] (before ++ operation :: after) = before ++ operation :: after) :
    repeated before operation = false := by
  by_contra hrepeated
  rw [Bool.not_eq_false] at hrepeated
  have hlength := congrArg List.length h
  rw [dropRepeats_append, nil_append, dropRepeats, if_pos hrepeated, nil_append] at hlength
  have hbefore := (dropRepeats_sublist [] before).length_le
  have hafter := (dropRepeats_sublist (before ++ [operation]) after).length_le
  simp only [length_append, length_cons] at hlength
  omega

theorem mem_dropRepeats_flatMap {f : ChangeOperation → List ChangeOperation}
    {seen operations : List ChangeOperation} {kept : ChangeOperation} :
    kept ∈ dropRepeats seen (operations.flatMap f) ↔
      ∃ before operation after, operations = before ++ operation :: after ∧
        kept ∈ dropRepeats (seen ++ before.flatMap f) (f operation) := by
  induction operations generalizing seen with
  | nil => simp [dropRepeats]
  | cons first rest ih =>
    rw [flatMap_cons, dropRepeats_append, mem_append, ih]
    constructor
    · rintro (hfirst | ⟨before, operation, after, rfl, hkept⟩)
      · exact ⟨[], first, rest, rfl, by simpa using hfirst⟩
      · exact ⟨first :: before, operation, after, rfl, by simpa using hkept⟩
    · rintro ⟨before, operation, after, hsplit, hkept⟩
      cases before with
      | nil =>
        rw [nil_append, List.cons.injEq] at hsplit
        rcases hsplit with ⟨rfl, rfl⟩
        exact .inl (by simpa using hkept)
      | cons head before =>
        rw [cons_append, List.cons.injEq] at hsplit
        rcases hsplit with ⟨rfl, rfl⟩
        exact .inr ⟨before, operation, after, rfl, by simpa using hkept⟩

/-- The evidence of an operation, and of the record in its payload, is in
    order, or it is none that the normalizer puts in order. -/
def EvidenceOrdered (operation : ChangeOperation) : Prop :=
  ∀ items, ((operation.payload.get? "record").bind fun record => record.get? "evidence_refs") =
      some (.array items) →
    (items.all fun item => item.fields?.isSome) = true →
    (JsonValue.array (sortEvidence items)).same (.array items) = true ∧
      (operation.evidenceRefs.mergeSort fun a b =>
        decide (a.evidenceId.root ≤ b.evidenceId.root)) = operation.evidenceRefs

theorem mergeSort_again (key : α → String) (items : List α) :
    ((items.mergeSort fun a b => decide (key a ≤ key b)).mergeSort
      fun a b => decide (key a ≤ key b)) = items.mergeSort fun a b => decide (key a ≤ key b) := by
  refine mergeSort_of_pairwise (pairwise_mergeSort ?_ ?_ items)
  · intro a b c hab hbc
    rw [decide_eq_true_eq] at hab hbc ⊢
    exact String.le_trans hab hbc
  · intro a b
    rw [Bool.or_eq_true, decide_eq_true_eq, decide_eq_true_eq]
    exact String.le_total _ _

theorem shape?_eq_some {payload record : JsonValue} {kind : WorldRecordKind} :
    shape? payload = some (kind, record) ↔
      recordKind? payload = some kind ∧ payload.get? "record" = some record ∧
        ∃ given, record = .object given := by
  simp only [shape?, Option.bind_eq_bind, Option.bind_eq_some_iff, Option.pure_def,
    Option.some.injEq, Prod.mk.injEq]
  constructor
  · rintro ⟨kind', hkind, raw, hraw, given, hgiven, rfl, rfl⟩
    refine ⟨hkind, hraw, given, ?_⟩
    cases raw <;> simp_all [JsonValue.fields?]
  · rintro ⟨hkind, hrecord, given, rfl⟩
    exact ⟨kind, hkind, _, hrecord, given, rfl, rfl, rfl⟩

def withOrder (operation : ChangeOperation) (record : JsonValue) (items : List JsonValue) :
    ChangeOperation :=
  { operation with
    payload := operation.payload.set "record"
      (record.set "evidence_refs" (.array (sortEvidence items)))
    evidenceRefs := operation.evidenceRefs.mergeSort fun a b =>
      decide (a.evidenceId.root ≤ b.evidenceId.root) }

variable {transforms : List NormalizationTransformReceipt}

theorem orderEvidence_eq_ok {operation : ChangeOperation} {record : JsonValue}
    {operations : List ChangeOperation} (hrecord : operation.payload.get? "record" = some record)
    (h : orderEvidence operation record = .ok (operations, transforms)) :
    (EvidenceOrdered operation ∧ operations = [operation]) ∨
      ∃ items, record.get? "evidence_refs" = some (.array items) ∧
        (items.all fun item => item.fields?.isSome) = true ∧ ¬ EvidenceOrdered operation ∧
        operations = [withOrder operation record items] := by
  unfold orderEvidence at h
  split at h
  · rename_i items hitems
    dsimp only at h
    have hfound : ((operation.payload.get? "record").bind fun record =>
        record.get? "evidence_refs") = some (.array items) := by rw [hrecord]; exact hitems
    split at h
    · rename_i hchanged
      rcases hchanged with ⟨hall, hchanged⟩
      rw [Outcome.bind_eq_ok] at h
      rcases h with ⟨_, _, h⟩
      refine .inr ⟨items, hitems, hall, ?_,
        (Prod.mk.inj ((Outcome.pure_eq_ok _ _).mp h)).1.symm⟩
      intro hordered
      rcases hordered items hfound hall with ⟨hsame, hrefs⟩
      rcases hchanged with hdiffers | hdiffers
      · rw [hsame] at hdiffers
        exact absurd hdiffers (by simp)
      · exact hdiffers hrefs
    · rename_i hkept
      refine .inl ⟨?_, (Prod.mk.inj (Except.ok.inj h)).1.symm⟩
      intro items' hitems' hall
      rw [hfound] at hitems'
      cases hitems'
      simpa [hall] using hkept
  · rename_i hnone
    refine .inl ⟨?_, (Prod.mk.inj (Except.ok.inj h)).1.symm⟩
    intro items hitems
    rw [hrecord, Option.bind_some] at hitems
    exact absurd hitems (hnone items)

theorem orderEvidence_of_ordered {operation : ChangeOperation} {record : JsonValue}
    (hrecord : operation.payload.get? "record" = some record)
    (hordered : EvidenceOrdered operation) :
    orderEvidence operation record = .ok ([operation], []) := by
  unfold orderEvidence
  split
  · rename_i items hitems
    dsimp only
    refine if_neg ?_
    rintro ⟨hall, hchanged⟩
    rcases hordered items (by rw [hrecord]; exact hitems) hall with ⟨hsame, hrefs⟩
    rcases hchanged with hdiffers | hdiffers
    · rw [hsame] at hdiffers
      exact absurd hdiffers (by simp)
    · exact hdiffers hrefs
  · rfl

section Ordered

variable {operation : ChangeOperation} {kind : WorldRecordKind} {record : JsonValue}
  {items : List JsonValue}

theorem shape?_withOrder (hshape : shape? operation.payload = some (kind, record))
    (hitems : record.get? "evidence_refs" = some (.array items)) :
    ∃ record', shape? (withOrder operation record items).payload = some (kind, record') ∧
      record'.get? "evidence_refs" = some (.array (sortEvidence items)) ∧
      ∀ field, field ≠ "evidence_refs" → record'.get? field = record.get? field := by
  rcases shape?_eq_some.mp hshape with ⟨hkind, hrecord, given, rfl⟩
  have hthere : (operation.payload.get? "record").isSome := by rw [hrecord]; rfl
  have hrefs : ((JsonValue.object given).get? "evidence_refs").isSome := by rw [hitems]; rfl
  have hkind' : recordKind? (withOrder operation (.object given) items).payload = some kind := by
    unfold recordKind? at hkind ⊢
    rw [withOrder, JsonValue.get?_set hthere, if_neg (by decide)]
    exact hkind
  refine ⟨(JsonValue.object given).set "evidence_refs" (.array (sortEvidence items)),
    shape?_eq_some.mpr ⟨hkind', ?_, ?_⟩, ?_, ?_⟩
  · rw [withOrder, JsonValue.get?_set hthere, if_pos rfl]
  · exact ⟨_, JsonValue.set_of_mem hrefs⟩
  · rw [JsonValue.get?_set hrefs, if_pos rfl]
  · intro field hfield
    rw [JsonValue.get?_set hrefs, if_neg hfield]

theorem evidenceOrdered_withOrder (hshape : shape? operation.payload = some (kind, record))
    (hitems : record.get? "evidence_refs" = some (.array items)) :
    EvidenceOrdered (withOrder operation record items) := by
  rcases shape?_withOrder hshape hitems with ⟨record', hshape', hitems', _⟩
  intro found hfound _
  rw [(shape?_eq_some.mp hshape').2.1, Option.bind_some, hitems'] at hfound
  cases hfound
  have hagain : sortEvidence (sortEvidence items) = sortEvidence items :=
    mergeSort_again _ items
  rw [hagain]
  exact ⟨by simp [JsonValue.same], mergeSort_again _ _⟩

end Ordered

/-- The operations that stand for an operation before the merging. One that is
    not touched, or is ambiguous, stands for itself. -/
def rewritten (world : Option WorldRootDocument) (directive : Option Directive)
    (operation : ChangeOperation) : List ChangeOperation :=
  if touched directive operation then
    match normalizeOperation world directive operation with
    | .ok (operations, _) => operations
    | .error _ => [operation]
  else [operation]

/-- The evidence of an operation is in order, if the operation is kept and the
    directive is about it. -/
def LeftAlone (directive : Option Directive) (seen : List ChangeOperation)
    (operation : ChangeOperation) : Prop :=
  repeated seen operation = false → touched directive operation = true →
    EvidenceOrdered operation

/-- The second pass leaves alone what stands for an operation. There is something to ask only where
    a rule has rewritten the operation without looking at its evidence. -/
structure AtRest (world : Option WorldRootDocument) (directive : Option Directive)
    (seen : List ChangeOperation) (operation : ChangeOperation) : Prop where
  created : ∀ kind record current, shape? operation.payload = some (kind, record) →
    operation.operation = .create → existing world kind operation.targetId = some current →
    sameBusinessRecord kind current record = false →
    LeftAlone directive seen { operation with operation := .replace }
  replaced : ∀ kind record, shape? operation.payload = some (kind, record) →
    operation.operation = .replace → existing world kind operation.targetId = none →
    LeftAlone directive seen { operation with operation := .create }
  split : ∀ record current ended successor transforms,
    shape? operation.payload = some (.state, record) → operation.operation = .replace →
    existing world .state operation.targetId = some current →
    sameIdentity .state current record = false → touched directive operation = true →
    successorOperations operation current record = .ok ([ended, successor], transforms) →
    LeftAlone directive seen ended ∧ LeftAlone directive (seen ++ [ended]) successor ∧
      (repeated (seen ++ [ended]) successor = false → touched directive successor = true →
        existing world .state successor.targetId = none)

/-- The operation stays, apart from the merging. -/
def Steady (world : Option WorldRootDocument) (directive : Option Directive)
    (operation : ChangeOperation) : Prop :=
  touched directive operation = true →
    ∃ transforms, normalizeOperation world directive operation = .ok ([operation], transforms)

/-- Nothing but its evidence is looked at in an operation. -/
structure Plain (world : Option WorldRootDocument) (operation : ChangeOperation)
    (kind : WorldRecordKind) (record : JsonValue) : Prop where
  create : operation.operation = .create → existing world kind operation.targetId = none
  replace : operation.operation = .replace → ∃ current,
    existing world kind operation.targetId = some current ∧
      sameIdentity kind current record = true

section Operation

variable {world : Option WorldRootDocument} {directive : Option Directive}
  {operation : ChangeOperation} {kind : WorldRecordKind} {record : JsonValue}

theorem normalizeOperation_of_plain (hshape : shape? operation.payload = some (kind, record))
    (hplain : Plain world operation kind record) :
    normalizeOperation world directive operation = orderEvidence operation record := by
  unfold normalizeOperation
  rw [hshape]
  dsimp only
  split
  · rename_i current htype hcurrent
    rw [hplain.create htype] at hcurrent
    exact absurd hcurrent (by simp)
  · rename_i htype hcurrent
    rcases hplain.replace htype with ⟨current, hsome, _⟩
    rw [hcurrent] at hsome
    exact absurd hsome (by simp)
  · rename_i current htype hcurrent
    rcases hplain.replace htype with ⟨current', hsome, hsame⟩
    rw [hcurrent] at hsome
    cases hsome
    have hnotState : ¬ (kind = .state ∧ sameIdentity .state current record = false) := by
      rintro ⟨rfl, hdiffers⟩
      rw [hsame] at hdiffers
      exact absurd hdiffers (by simp)
    rw [if_neg hnotState, if_pos hsame]
  · rfl

/-- What an operation is rewritten to, by the rule that does it. -/
theorem normalizeOperation_cases (hshape : shape? operation.payload = some (kind, record))
    {operations : List ChangeOperation}
    (h : normalizeOperation world directive operation = .ok (operations, transforms)) :
    (∃ current, operation.operation = .create ∧
      existing world kind operation.targetId = some current ∧
      ((sameBusinessRecord kind current record = true ∧ operations = []) ∨
        (sameBusinessRecord kind current record = false ∧ sameIdentity kind current record = true ∧
          operations = [{ operation with operation := .replace }]))) ∨
    (operation.operation = .replace ∧ existing world kind operation.targetId = none ∧
      operations = [{ operation with operation := .create }]) ∨
    (∃ current, kind = .state ∧ operation.operation = .replace ∧
      existing world .state operation.targetId = some current ∧
      sameIdentity .state current record = false ∧
      successorOperations operation current record = .ok (operations, transforms)) ∨
    (Plain world operation kind record ∧
      orderEvidence operation record = .ok (operations, transforms)) := by
  unfold normalizeOperation at h
  rw [hshape] at h
  dsimp only at h
  split at h
  · rename_i current htype hcurrent
    refine .inl ⟨current, htype, hcurrent, ?_⟩
    split at h
    · rename_i hsame
      rw [Outcome.bind_eq_ok] at h
      rcases h with ⟨_, _, h⟩
      exact .inl ⟨hsame, (Prod.mk.inj ((Outcome.pure_eq_ok _ _).mp h)).1.symm⟩
    · rename_i hdiffers
      split at h
      · rename_i hsame
        rw [Outcome.bind_eq_ok] at h
        rcases h with ⟨_, _, h⟩
        exact .inr ⟨by simpa using hdiffers, hsame,
          (Prod.mk.inj ((Outcome.pure_eq_ok _ _).mp h)).1.symm⟩
      · exact absurd h (by simp)
  · rename_i htype hcurrent
    rw [Outcome.bind_eq_ok] at h
    rcases h with ⟨_, _, h⟩
    rw [Outcome.ite_throw_bind_eq_ok] at h
    have h := h.2
    rw [Outcome.bind_eq_ok] at h
    rcases h with ⟨_, _, h⟩
    exact .inr (.inl ⟨htype, hcurrent, (Prod.mk.inj ((Outcome.pure_eq_ok _ _).mp h)).1.symm⟩)
  · rename_i current htype hcurrent
    split at h
    · rename_i hstate
      rcases hstate with ⟨rfl, hdiffers⟩
      split at h
      · exact .inr (.inr (.inl ⟨current, rfl, htype, hcurrent, hdiffers, h⟩))
      · exact absurd h (by simp)
    · split at h
      · rename_i hsame
        exact .inr (.inr (.inr
          ⟨⟨by simp [htype], fun _ => ⟨current, hcurrent, hsame⟩⟩, h⟩))
      · exact absurd h (by simp)
  · rename_i hcreate hreplace hsome
    refine .inr (.inr (.inr ⟨⟨fun htype => ?_, fun htype => ?_⟩, h⟩))
    · cases hcurrent : existing world kind operation.targetId with
      | none => rfl
      | some current => exact absurd hcurrent (hcreate current htype)
    · cases hcurrent : existing world kind operation.targetId with
      | none => exact absurd hcurrent (hreplace htype)
      | some current => exact absurd hcurrent (hsome current htype)

theorem steady_of_plain (hshape : shape? operation.payload = some (kind, record))
    (hplain : Plain world operation kind record) :
    Steady world directive operation ↔
      (touched directive operation = true → EvidenceOrdered operation) := by
  rcases shape?_eq_some.mp hshape with ⟨_, hrecord, _⟩
  unfold Steady
  rw [normalizeOperation_of_plain hshape hplain]
  refine imp_congr_right fun _ => ⟨?_, fun h => ⟨[], orderEvidence_of_ordered hrecord h⟩⟩
  rintro ⟨transforms, horder⟩
  rcases orderEvidence_eq_ok hrecord horder with ⟨hordered, _⟩ | ⟨items, hitems, _, _, hsame⟩
  · exact hordered
  · -- The sorted operation is the operation itself.
    have hordered := evidenceOrdered_withOrder hshape hitems
    rw [List.cons.injEq] at hsame
    rwa [← hsame.1] at hordered

theorem sameIdentity_congr {current record' : JsonValue}
    (h : ∀ field ∈ identityFields kind, record'.get? field = record.get? field) :
    sameIdentity kind current record' = sameIdentity kind current record := by
  unfold sameIdentity
  rw [Bool.eq_iff_iff, all_eq_true, all_eq_true]
  refine forall₂_congr fun field hfield => ?_
  rw [h field hfield]

theorem plain_withOrder {record' : JsonValue} {items : List JsonValue}
    (hplain : Plain world operation kind record)
    (hfields : ∀ field, field ≠ "evidence_refs" → record'.get? field = record.get? field) :
    Plain world (withOrder operation record items) kind record' := by
  refine ⟨hplain.create, fun htype => ?_⟩
  rcases hplain.replace htype with ⟨current, hcurrent, hsame⟩
  refine ⟨current, hcurrent, (sameIdentity_congr fun field hfield => hfields field ?_).trans hsame⟩
  rintro rfl
  cases kind <;> simp [identityFields] at hfield

section Split

variable {current : JsonValue} {ended successor : ChangeOperation}
  {oldTime : List (String × JsonValue)} {oldStart newStart : Int}

theorem object_of_get? {document value : JsonValue} {key : String}
    (h : document.get? key = some value) : ∃ given, document = .object given := by
  cases document <;> simp_all [JsonValue.get?, JsonValue.fields?]

theorem Split.plain_ended
    (h : Split operation current record ended successor oldTime oldStart newStart)
    (hcurrent : existing world .state operation.targetId = some current) :
    ∃ record', shape? ended.payload = some (.state, record') ∧
      Plain world ended .state record' := by
  rcases object_of_get? h.holdsTime with ⟨given, rfl⟩
  have hthere : ((JsonValue.object given).get? "valid_time").isSome := by rw [h.holdsTime]; rfl
  refine ⟨(JsonValue.object given).set "valid_time"
    ((JsonValue.object oldTime).set "end_ordinal" (.int (newStart - 1))), ?_, ?_, ?_⟩
  · rw [h.ended_eq]
    exact shape?_eq_some.mpr ⟨rfl, rfl, _, JsonValue.set_of_mem hthere⟩
  · intro htype
    rw [h.ended_eq] at htype
    exact absurd htype (by simp)
  · intro _
    rw [h.ended_eq]
    refine ⟨_, hcurrent, ?_⟩
    have hself : sameIdentity .state (.object given) (.object given) = true := by
      simp [sameIdentity, JsonValue.sameField, JsonValue.same]
    rw [← hself]
    refine sameIdentity_congr fun field hfield => ?_
    rw [JsonValue.get?_set hthere, if_neg]
    rintro rfl
    simp [identityFields] at hfield

theorem Split.shape_successor
    (h : Split operation current record ended successor oldTime oldStart newStart) :
    successor.operation = .create ∧
      ∃ record', shape? successor.payload = some (.state, record') := by
  rw [h.successor_eq]
  have hobject : ∃ given, record = .object given := by
    rcases Option.bind_eq_some_iff.mp h.startsAnew with ⟨_, hfound, _⟩
    rcases Option.bind_eq_some_iff.mp hfound with ⟨_, htime, _⟩
    exact object_of_get? htime
  rcases hobject with ⟨given, rfl⟩
  have hset : ∃ given', (JsonValue.object given).set "state_id"
      (.string (successorId operation.targetId (.object given)).root) = .object given' := by
    rw [JsonValue.set]
    split
    · exact ⟨_, rfl⟩
    · exact ⟨_, rfl⟩
  rcases hset with ⟨given', hset⟩
  exact ⟨rfl, _, shape?_eq_some.mpr ⟨rfl, rfl, given', hset⟩⟩

end Split

theorem normalizeOperation_of_none (hshape : shape? operation.payload = none) :
    normalizeOperation world directive operation = .ok ([operation], []) := by
  rw [normalizeOperation, hshape]

/-- What was rewritten replaces no state by one about something else. -/
theorem sameIdentity_of_rewritten {operations : List ChangeOperation}
    (h : normalizeOperation world directive operation = .ok (operations, transforms))
    {result : ChangeOperation} (hresult : result ∈ operations) {record' current : JsonValue}
    (hshape' : shape? result.payload = some (.state, record'))
    (htype : result.operation = .replace)
    (hcurrent : existing world .state result.targetId = some current) :
    sameIdentity .state current record' = true := by
  -- A plain operation is about what is there.
  have hplain : ∀ record'', shape? result.payload = some (.state, record'') →
      Plain world result .state record'' → sameIdentity .state current record' = true := by
    intro record'' hshape'' hplain
    rw [hshape'] at hshape''
    cases hshape''
    rcases hplain.replace htype with ⟨current', hcurrent', hsame⟩
    rw [hcurrent] at hcurrent'
    cases hcurrent'
    exact hsame
  cases hshape : shape? operation.payload with
  | none =>
    rw [normalizeOperation_of_none hshape] at h
    cases h
    rw [mem_singleton.mp hresult, hshape] at hshape'
    exact absurd hshape' (by simp)
  | some shape =>
    rcases shape with ⟨kind, record⟩
    rcases normalizeOperation_cases hshape h with
      ⟨current', _, hcurrent', ⟨_, rfl⟩ | ⟨_, hsame, rfl⟩⟩ | ⟨_, _, rfl⟩ |
      ⟨current', rfl, _, hcurrent', _, hpair⟩ | ⟨hplain', horder⟩
    · exact absurd hresult not_mem_nil
    · cases mem_singleton.mp hresult
      have hsome : some (kind, record) = some (.state, record') := hshape.symm.trans hshape'
      cases hsome
      have heq : some current' = some current := hcurrent'.symm.trans hcurrent
      cases heq
      exact hsame
    · cases mem_singleton.mp hresult
      exact absurd htype (by simp)
    · rcases successorOperations_ok hpair with ⟨ended, successor, _, _, _, rfl, hsplit⟩
      rcases mem_cons.mp hresult with rfl | hresult
      · rcases hsplit.plain_ended hcurrent' with ⟨record'', hshape'', hplain''⟩
        exact hplain record'' hshape'' hplain''
      · cases mem_singleton.mp hresult
        rw [hsplit.shape_successor.1] at htype
        exact absurd htype (by simp)
    · rcases orderEvidence_eq_ok (shape?_eq_some.mp hshape).2.1 horder with
        ⟨_, rfl⟩ | ⟨items, hitems, _, _, rfl⟩
      · cases mem_singleton.mp hresult
        rw [hshape] at hshape'
        cases hshape'
        exact hplain _ hshape hplain'
      · cases mem_singleton.mp hresult
        rcases shape?_withOrder hshape hitems with ⟨record'', hshape'', _, hfields⟩
        rw [hshape''] at hshape'
        cases hshape'
        exact hplain _ hshape'' (plain_withOrder hplain' hfields)

theorem length_rewritten_again {result : ChangeOperation}
    (hresult : result ∈ rewritten world directive operation) :
    (rewritten world directive result).length ≤ 1 := by
  by_cases htouched : touched directive result = true
  · cases hagain : normalizeOperation world directive result with
    | error error => simp [rewritten, htouched, hagain]
    | ok pair =>
      rcases pair with ⟨operations, transforms⟩
      simp only [rewritten, if_pos htouched, hagain]
      cases hshape : shape? result.payload with
      | none =>
        rw [normalizeOperation_of_none hshape] at hagain
        cases hagain
        simp
      | some shape =>
        rcases shape with ⟨kind, record⟩
        rcases normalizeOperation_cases hshape hagain with
          ⟨_, _, _, ⟨_, rfl⟩ | ⟨_, _, rfl⟩⟩ | ⟨_, _, rfl⟩ |
          ⟨current, rfl, htype, hcurrent, hdiffers, _⟩ | ⟨_, horder⟩
        · simp
        · simp
        · simp
        · -- The first pass would have had to leave such a replacement.
          exfalso
          rw [rewritten] at hresult
          split at hresult
          · split at hresult
            · rename_i hfirst
              rw [sameIdentity_of_rewritten hfirst hresult hshape htype hcurrent] at hdiffers
              exact absurd hdiffers (by simp)
            · rename_i hfirst
              cases mem_singleton.mp hresult
              rw [hagain] at hfirst
              exact absurd hfirst (by simp)
          · rename_i hfirst
            cases mem_singleton.mp hresult
            exact hfirst htouched
        · rcases orderEvidence_single horder with ⟨_, rfl⟩
          simp
  · simp [rewritten, htouched]

theorem not_steady_of_existing (hshape : shape? operation.payload = some (kind, record))
    (htype : operation.operation = .create) {current : JsonValue}
    (hcurrent : existing world kind operation.targetId = some current)
    (htouched : touched directive operation = true) : ¬ Steady world directive operation := by
  intro hsteady
  rcases hsteady htouched with ⟨transforms, hnormal⟩
  rcases normalizeOperation_cases hshape hnormal with
    ⟨_, _, _, ⟨_, hsame⟩ | ⟨_, _, hsame⟩⟩ | ⟨hreplace, _⟩ | ⟨_, _, hreplace, _⟩ | ⟨hplain, _⟩
  · exact absurd hsame (by simp)
  · rw [List.cons.injEq] at hsame
    have := congrArg ChangeOperation.operation hsame.1
    rw [htype] at this
    exact absurd this (by simp)
  · rw [htype] at hreplace
    exact absurd hreplace (by simp)
  · rw [htype] at hreplace
    exact absurd hreplace (by simp)
  · rw [hplain.create htype] at hcurrent
    exact absurd hcurrent (by simp)

theorem mem_dropRepeats_singleton {seen : List ChangeOperation} {kept result : ChangeOperation} :
    kept ∈ dropRepeats seen [result] ↔ kept = result ∧ repeated seen result = false := by
  rw [dropRepeats, dropRepeats, append_nil]
  split
  · rename_i hrepeated
    simp [hrepeated]
  · rename_i hrepeated
    simp [hrepeated]

theorem steady_dropRepeats_singleton {seen : List ChangeOperation}
    (hshape : shape? operation.payload = some (kind, record))
    (hplain : Plain world operation kind record) :
    (∀ kept ∈ dropRepeats seen [operation], Steady world directive kept) ↔
      LeftAlone directive seen operation := by
  simp only [mem_dropRepeats_singleton, LeftAlone]
  constructor
  · intro h hkept
    exact (steady_of_plain hshape hplain).mp (h operation ⟨rfl, hkept⟩)
  · rintro h kept ⟨rfl, hkept⟩
    exact (steady_of_plain hshape hplain).mpr (h hkept)

section AtRest

variable {seen : List ChangeOperation} {current : JsonValue}

theorem atRest_of_create (hshape : shape? operation.payload = some (kind, record))
    (htype : operation.operation = .create)
    (hcurrent : existing world kind operation.targetId = some current) :
    AtRest world directive seen operation ↔
      (sameBusinessRecord kind current record = false →
        LeftAlone directive seen { operation with operation := .replace }) := by
  constructor
  · intro hrest
    exact hrest.created kind record current hshape htype hcurrent
  · intro hleft
    refine ⟨?_, by simp [htype], by simp [htype]⟩
    intro kind' record' current' hshape' _ hcurrent'
    rw [hshape] at hshape'
    cases hshape'
    rw [hcurrent] at hcurrent'
    cases hcurrent'
    exact hleft

theorem atRest_of_replace (hshape : shape? operation.payload = some (kind, record))
    (htype : operation.operation = .replace)
    (hcurrent : existing world kind operation.targetId = none) :
    AtRest world directive seen operation ↔
      LeftAlone directive seen { operation with operation := .create } := by
  constructor
  · intro hrest
    exact hrest.replaced kind record hshape htype hcurrent
  · intro hleft
    refine ⟨by simp [htype], fun _ _ _ _ _ => hleft, ?_⟩
    intro record' current' _ _ _ hshape' _ hcurrent'
    rw [hshape] at hshape'
    cases hshape'
    rw [hcurrent] at hcurrent'
    exact absurd hcurrent' (by simp)

theorem atRest_of_split (hshape : shape? operation.payload = some (.state, record))
    (htype : operation.operation = .replace)
    (hcurrent : existing world .state operation.targetId = some current)
    (hdiffers : sameIdentity .state current record = false)
    (htouched : touched directive operation = true) {ended successor : ChangeOperation}
    (hpair : successorOperations operation current record = .ok ([ended, successor], transforms)) :
    AtRest world directive seen operation ↔
      LeftAlone directive seen ended ∧ LeftAlone directive (seen ++ [ended]) successor ∧
        (repeated (seen ++ [ended]) successor = false → touched directive successor = true →
          existing world .state successor.targetId = none) := by
  constructor
  · intro hrest
    exact hrest.split record current ended successor transforms hshape htype hcurrent hdiffers
      htouched hpair
  · intro hleft
    refine ⟨by simp [htype], ?_, ?_⟩
    · intro kind' record' hshape' _ hcurrent'
      rw [hshape] at hshape'
      cases hshape'
      rw [hcurrent] at hcurrent'
      exact absurd hcurrent' (by simp)
    · intro record' current' ended' successor' transforms' hshape' _ hcurrent' _ _ hpair'
      rw [hshape] at hshape'
      cases hshape'
      rw [hcurrent] at hcurrent'
      cases hcurrent'
      rw [hpair] at hpair'
      cases hpair'
      exact hleft

theorem atRest_of_plain (hshape : shape? operation.payload = some (kind, record))
    (hplain : Plain world operation kind record) : AtRest world directive seen operation := by
  refine ⟨?_, ?_, ?_⟩
  · intro kind' record' current' hshape' htype hcurrent'
    rw [hshape] at hshape'
    cases hshape'
    rw [hplain.create htype] at hcurrent'
    exact absurd hcurrent' (by simp)
  · intro kind' record' hshape' htype hcurrent'
    rw [hshape] at hshape'
    cases hshape'
    rcases hplain.replace htype with ⟨current', hsome, _⟩
    rw [hcurrent'] at hsome
    exact absurd hsome (by simp)
  · intro record' current' _ _ _ hshape' htype hcurrent' hdiffers
    rw [hshape] at hshape'
    cases hshape'
    rcases hplain.replace htype with ⟨current'', hsome, hsame⟩
    rw [hcurrent'] at hsome
    cases hsome
    rw [hsame] at hdiffers
    exact absurd hdiffers (by simp)

theorem steady_pair {ended successor : ChangeOperation} {oldTime : List (String × JsonValue)}
    {oldStart newStart : Int}
    (hsplit : Split operation current record ended successor oldTime oldStart newStart)
    (hcurrent : existing world .state operation.targetId = some current) :
    (∀ kept ∈ dropRepeats seen [ended, successor], Steady world directive kept) ↔
      LeftAlone directive seen ended ∧ LeftAlone directive (seen ++ [ended]) successor ∧
        (repeated (seen ++ [ended]) successor = false → touched directive successor = true →
          existing world .state successor.targetId = none) := by
  rcases hsplit.plain_ended hcurrent with ⟨record', hshape, hplain⟩
  rcases hsplit.shape_successor with ⟨htype, record'', hshape'⟩
  have happend : dropRepeats seen [ended, successor] =
      dropRepeats seen [ended] ++ dropRepeats (seen ++ [ended]) [successor] :=
    dropRepeats_append seen [ended] [successor]
  have hsuccessor : (∀ kept ∈ dropRepeats (seen ++ [ended]) [successor],
      Steady world directive kept) ↔
      LeftAlone directive (seen ++ [ended]) successor ∧
        (repeated (seen ++ [ended]) successor = false → touched directive successor = true →
          existing world .state successor.targetId = none) := by
    cases hthere : existing world .state successor.targetId with
    | none =>
      have hplain' : Plain world successor .state record'' :=
        ⟨fun _ => hthere, fun h => absurd (htype.symm.trans h) (by simp)⟩
      rw [steady_dropRepeats_singleton hshape' hplain']
      simp
    | some there =>
      -- A successor that is there already is taken back, or refused.
      simp only [mem_dropRepeats_singleton, reduceCtorEq, imp_false, LeftAlone]
      constructor
      · intro h
        have hmoves : repeated (seen ++ [ended]) successor = false →
            ¬ touched directive successor = true := fun hkept htouched =>
          not_steady_of_existing hshape' htype hthere htouched (h successor ⟨rfl, hkept⟩)
        exact ⟨fun hkept htouched => absurd htouched (hmoves hkept), hmoves⟩
      · rintro ⟨_, hmoves⟩ kept ⟨rfl, hkept⟩ htouched
        exact absurd htouched (hmoves hkept)
  rw [happend, forall_mem_append, steady_dropRepeats_singleton hshape hplain, hsuccessor]

/-- What stands for one operation stays. The cases are the rules that rewrite an operation. -/
theorem steady_iff (hnormal : touched directive operation = true →
      (normalizeOperation world directive operation).isOk = true) :
    (∀ kept ∈ dropRepeats seen (rewritten world directive operation),
      Steady world directive kept) ↔ AtRest world directive seen operation := by
  by_cases htouched : touched directive operation = true
  · rcases Outcome.isOk_iff.mp (hnormal htouched) with ⟨⟨operations, transforms⟩, h⟩
    have hrewritten : rewritten world directive operation = operations := by
      simp [rewritten, htouched, h]
    rw [hrewritten]
    cases hshape : shape? operation.payload with
    | none =>
      rw [normalizeOperation_of_none hshape] at h
      cases h
      constructor
      · intro _
        exact ⟨by simp [hshape], by simp [hshape], by simp [hshape]⟩
      · intro _ kept hkept _
        rw [(mem_dropRepeats_singleton.mp hkept).1]
        exact ⟨[], normalizeOperation_of_none hshape⟩
    | some shape =>
      rcases shape with ⟨kind, record⟩
      rcases normalizeOperation_cases hshape h with
        ⟨current, htype, hcurrent, hcreate⟩ | ⟨htype, hcurrent, rfl⟩ |
        ⟨current, rfl, htype, hcurrent, hdiffers, hpair⟩ | ⟨hplain, horder⟩
      · rw [atRest_of_create hshape htype hcurrent]
        rcases hcreate with ⟨hsame, rfl⟩ | ⟨hother, hsame, rfl⟩
        · simp [dropRepeats, hsame]
        · have hshape' : shape? ({ operation with operation := .replace } :
              ChangeOperation).payload = some (kind, record) := hshape
          rw [steady_dropRepeats_singleton hshape'
            ⟨by simp, fun _ => ⟨current, hcurrent, hsame⟩⟩]
          exact ⟨fun hleft _ => hleft, fun hleft => hleft hother⟩
      · have hshape' : shape? ({ operation with operation := .create } :
            ChangeOperation).payload = some (kind, record) := hshape
        rw [atRest_of_replace hshape htype hcurrent,
          steady_dropRepeats_singleton hshape' ⟨fun _ => hcurrent, by simp⟩]
      · rcases successorOperations_ok hpair with ⟨ended, successor, _, _, _, rfl, hsplit⟩
        rw [atRest_of_split hshape htype hcurrent hdiffers htouched hpair,
          steady_pair hsplit hcurrent]
      · refine iff_of_true ?_ (atRest_of_plain hshape hplain)
        rcases orderEvidence_eq_ok (shape?_eq_some.mp hshape).2.1 horder with
          ⟨hordered, rfl⟩ | ⟨items, hitems, _, _, rfl⟩
        · rw [steady_dropRepeats_singleton hshape hplain]
          exact fun _ _ => hordered
        · rcases shape?_withOrder hshape hitems with ⟨record', hshape', _, hfields⟩
          rw [steady_dropRepeats_singleton hshape' (plain_withOrder hplain hfields)]
          exact fun _ _ => evidenceOrdered_withOrder hshape hitems
  · have hrewritten : rewritten world directive operation = [operation] := by
      simp [rewritten, htouched]
    rw [hrewritten]
    constructor
    · intro _
      exact ⟨fun _ _ _ _ _ _ _ _ h => absurd h htouched, fun _ _ _ _ _ _ h => absurd h htouched,
        fun _ _ _ _ _ _ _ _ _ h => absurd h htouched⟩
    · intro _ kept hkept h
      rw [(mem_dropRepeats_singleton.mp hkept).1] at h
      exact absurd h htouched

end AtRest

end Operation

variable {done : Normalized}

section Pass

variable {world : Option WorldRootDocument} {directive : Option Directive}
  {operations : List ChangeOperation}

/-- Without a canonical world, the normalizer works as it does on a world that holds nothing. -/
theorem exists_basis (world : Option WorldRootDocument) (directive : Option Directive) :
    ∃ basis : WorldRootDocument,
      normalizeOperation world directive = normalizeOperation (some basis) directive ∧
      rewritten world directive = image basis directive ∧
      normalizeOperations world directive = normalizeOperations (some basis) directive := by
  have hcongr : ∀ basis : WorldRootDocument, existing world = existing (some basis) →
      normalizeOperation world directive = normalizeOperation (some basis) directive ∧
      rewritten world directive = image basis directive ∧
      normalizeOperations world directive = normalizeOperations (some basis) directive := by
    intro basis hexisting
    have hnormal : normalizeOperation world directive =
        normalizeOperation (some basis) directive := by
      funext operation
      unfold normalizeOperation
      rw [hexisting]
    have hstep : normalizeStep world directive = normalizeStep (some basis) directive := by
      funext done operation
      simp only [normalizeStep, hnormal]
    refine ⟨hnormal, ?_, ?_⟩
    · funext operation
      change rewritten world directive operation = rewritten (some basis) directive operation
      unfold rewritten
      rw [hnormal]
    · funext operations
      rw [normalizeOperations, normalizeOperations, hstep]
  cases world with
  | some basis => exact ⟨basis, hcongr basis rfl⟩
  | none =>
    refine ⟨⟨digest "", ⟨"1.0.0", by decide⟩, digest "", fun _ => [], by decide⟩, hcongr _ ?_⟩
    funext kind id
    cases kind <;> rfl

/-- The operation is rewritten, if the directive is about it. -/
def Rewrites (world : Option WorldRootDocument) (directive : Option Directive)
    (operation : ChangeOperation) : Prop :=
  touched directive operation = true → (normalizeOperation world directive operation).isOk = true

theorem normalizeOperations_rewritten
    (h : normalizeOperations world directive operations = .ok done) :
    done.operations = dropRepeats [] (operations.flatMap (rewritten world directive)) ∧
      (done.ambiguous = [] ↔ ∀ operation ∈ operations, Rewrites world directive operation) := by
  rcases exists_basis world directive with ⟨basis, hbasis, himage, hpass⟩
  have h' : normalizeOperations (some basis) directive operations = .ok done := by
    rw [← h, hpass]
  rcases normalizeOperations_ok h' with ⟨hfits, hform, hambiguous⟩
  refine ⟨by rw [hform, himage]; rfl, hambiguous.trans (forall₂_congr fun operation hmem => ?_)⟩
  unfold Rewrites Ambiguous
  rw [hbasis]
  constructor
  · intro hclear htouched
    cases hnormal : normalizeOperation (some basis) directive operation with
    | ok result => rfl
    | error error =>
      cases error with
      | ambiguity message => exact absurd ⟨htouched, message, hnormal⟩ hclear
      | validation message => exact absurd hnormal (hfits.rewrites operation hmem htouched message)
  · rintro hok ⟨htouched, message, hnormal⟩
    have := hok htouched
    rw [hnormal] at this
    exact absurd this (by simp [Except.isOk, Except.toBool])

theorem exists_normalizeOperations_of_steady
    (hsteady : ∀ operation ∈ operations, Steady world directive operation)
    (hmerged : dropRepeats [] operations = operations) :
    ∃ done, normalizeOperations world directive operations = .ok done ∧
      done.operations = operations ∧ done.ambiguous = [] := by
  have hrewritten : ∀ operation ∈ operations, rewritten world directive operation = [operation] := by
    intro operation hmem
    by_cases htouched : touched directive operation = true
    · rcases hsteady operation hmem htouched with ⟨transforms, hnormal⟩
      simp [rewritten, htouched, hnormal]
    · simp [rewritten, htouched]
  have hflat : operations.flatMap (rewritten world directive) = operations := by
    rw [flatMap_congr hrewritten, flatMap_singleton']
  rcases exists_basis world directive with ⟨basis, hbasis, himage, hpass⟩
  have hfits : ReceiptsFit basis directive operations := by
    refine ⟨fun operation hmem htouched message => ?_, ?_⟩
    · rcases hsteady operation hmem htouched with ⟨transforms, hnormal⟩
      rw [← hbasis, hnormal]
      simp
    · intro before operation after hsplit hrepeated
      rw [← himage, hflat] at hsplit
      rw [hsplit] at hmerged
      rw [repeated_of_dropRepeats_eq hmerged] at hrepeated
      exact absurd hrepeated (by simp)
  rcases exists_normalizeOperations hfits with ⟨done, hdone⟩
  have hdone' : normalizeOperations world directive operations = .ok done := by
    rw [← hdone, hpass]
  rcases normalizeOperations_rewritten hdone' with ⟨hform, hclear⟩
  refine ⟨done, hdone', by rw [hform, hflat, hmerged], hclear.mpr fun operation hmem htouched => ?_⟩
  rcases hsteady operation hmem htouched with ⟨transforms, hnormal⟩
  exact Outcome.isOk_iff.mpr ⟨_, hnormal⟩

/-- The list that a pass makes stays as it is if what stands for each operation stays. -/
theorem normalizeOperations_again
    (hrewrites : ∀ operation ∈ operations, Rewrites world directive operation)
    {kept : List ChangeOperation}
    (hkept : kept = dropRepeats [] (operations.flatMap (rewritten world directive))) :
    (∃ done, normalizeOperations world directive kept = .ok done ∧ done.operations = kept ∧
      done.ambiguous = []) ↔
    ∀ before operation after, operations = before ++ operation :: after →
      AtRest world directive (before.flatMap (rewritten world directive)) operation := by
  have hmerged : dropRepeats [] kept = kept := by
    rw [hkept]
    exact dropRepeats_dropRepeats fun _ => rfl
  have hlength : ∀ operation ∈ kept, (rewritten world directive operation).length ≤ 1 := by
    intro operation hmem
    rw [hkept] at hmem
    rcases mem_flatMap.mp ((dropRepeats_sublist _ _).subset hmem) with ⟨given, _, hgiven⟩
    exact length_rewritten_again hgiven
  have hrest : (∀ operation ∈ kept, Steady world directive operation) ↔
      ∀ before operation after, operations = before ++ operation :: after →
        AtRest world directive (before.flatMap (rewritten world directive)) operation := by
    have hone : ∀ before operation after, operations = before ++ operation :: after →
        ((∀ result ∈ dropRepeats (before.flatMap (rewritten world directive))
          (rewritten world directive operation), Steady world directive result) ↔
        AtRest world directive (before.flatMap (rewritten world directive)) operation) := by
      rintro before operation after rfl
      exact steady_iff (hrewrites operation (by simp))
    constructor
    · intro h before operation after hsplit
      refine (hone before operation after hsplit).mp fun result hresult => h result ?_
      rw [hkept]
      exact mem_dropRepeats_flatMap.mpr ⟨before, operation, after, hsplit, by simpa using hresult⟩
    · intro h result hresult
      rw [hkept] at hresult
      rcases mem_dropRepeats_flatMap.mp hresult with ⟨before, operation, after, hsplit, hmem⟩
      exact (hone before operation after hsplit).mpr (h before operation after hsplit) result
        (by simpa using hmem)
  rw [← hrest]
  constructor
  · rintro ⟨done, hdone, hsame, hambiguous⟩ operation hmem
    rcases normalizeOperations_rewritten hdone with ⟨hform, hclear⟩
    have hsub : kept.Sublist (kept.flatMap (rewritten world directive)) := by
      have := dropRepeats_sublist [] (kept.flatMap (rewritten world directive))
      rwa [← hform, hsame] at this
    have hself := flatMap_eq_self hlength hsub operation hmem
    intro htouched
    rcases Outcome.isOk_iff.mp (hclear.mp hambiguous operation hmem htouched) with
      ⟨⟨results, transforms⟩, hnormal⟩
    simp only [rewritten, if_pos htouched, hnormal] at hself
    exact ⟨transforms, by rw [hnormal, hself]⟩
  · exact fun hsteady => exists_normalizeOperations_of_steady hsteady hmerged

end Pass

/-- The changes with other operations, and the identity that goes with them. -/
def renormalized (changes : ObservedChangeSet) (operations : List ChangeOperation) :
    ObservedChangeSet :=
  { changes with
    operations := operations
    changeSetId := normalizedChangeSetId operations }

section Again

variable {payloadHash : ObservedChangeSet → ArtifactId} {world : Option WorldRootDocument}
  {directive : Option Directive} {changes : ObservedChangeSet}

variable (payloadHash changes) in
/-- What the normalizer says of a candidate, by what the pass returns. -/
def Says (done : Normalized) (result : NormalizationResult) : Prop :=
  (done.ambiguous ≠ [] ∧ result.status = .ambiguous ∧ result.changes = changes) ∨
  (done.ambiguous = [] ∧ result.status = .unchanged ∧ result.changes = changes ∧
    (done.operations = changes.operations ∨
      payloadHash (renormalized changes done.operations) = payloadHash changes)) ∨
  (done.ambiguous = [] ∧ result.status = .transformed ∧
    result.changes = renormalized changes done.operations ∧
    payloadHash (renormalized changes done.operations) ≠ payloadHash changes)

variable (payloadHash) in
theorem normalize_of_pass (h : normalizeOperations world directive changes.operations = .ok done) :
    ∃ result, normalize payloadHash world directive changes = .ok result ∧
      Says payloadHash changes done result := by
  simp only [normalize, h, bind, Except.bind]
  by_cases hambiguous : done.ambiguous = []
  · rw [if_neg (not_not.mpr hambiguous)]
    split
    · rename_i hsame
      exact ⟨_, rfl, .inr (.inl ⟨hambiguous, rfl, rfl, .inl hsame.2⟩)⟩
    · split
      · rename_i hhash
        exact ⟨_, rfl, .inr (.inl ⟨hambiguous, rfl, rfl, .inr hhash⟩)⟩
      · rename_i hhash
        exact ⟨_, rfl, .inr (.inr ⟨hambiguous, rfl, rfl, hhash⟩)⟩
  · rw [if_pos hambiguous]
    exact ⟨_, rfl, .inl ⟨hambiguous, rfl, rfl⟩⟩

variable {result : NormalizationResult}

theorem normalize_cases (h : normalize payloadHash world directive changes = .ok result) :
    ∃ done, normalizeOperations world directive changes.operations = .ok done ∧
      Says payloadHash changes done result := by
  rcases (Outcome.bind_eq_ok _ _ _).mp h with ⟨done, hdone, _⟩
  rcases normalize_of_pass payloadHash hdone with ⟨result', hresult', hcases⟩
  rw [h] at hresult'
  cases hresult'
  exact ⟨done, hdone, hcases⟩

end Again

end MutationNormalizer

namespace Sample

/-- The hash of a payload, over what its operations do and with which evidence. -/
def evidenceHash (changes : ObservedChangeSet) : ArtifactId :=
  digest (String.join (changes.operations.map fun operation =>
    String.join (operation.operation.value ::
      operation.evidenceRefs.map fun ref => ref.evidenceId.root)))

def source (second : Bool) : EvidenceRef where
  evidenceId := if second then ⟨"b", .refl true⟩ else ⟨"a", by decide⟩
  rootHash := commit
  objectHash := commit
  chapterId := none
  sceneId := none
  span := none
  quoteHash := none
  supportStatus := .current
  resolvedAtCommit := commit

/-- What the character feels is created although it is there, with its evidence out of order. -/
def angered : ChangeOperation where
  operationId := ⟨"op", .refl true⟩
  rootKind := .world
  operation := .create
  targetId := mood.stateId
  payload := recordPayload .state { mood with value := .string "angry" }
  evidenceRefs := [source true, source false]

def angeredNow : ChangeOperation := { angered with operation := .replace }

def anger : JsonValue := StateRecord.codec.dump { mood with value := .string "angry" }

end Sample

namespace MutationNormalizer

theorem normalize_angered :
    ((normalize Sample.evidenceHash (some Sample.moodWorld) none
      (Sample.changes [Sample.angered])).toOption.map fun result =>
        (result.status, result.changes.operations)) =
      some (.transformed, [Sample.angeredNow]) := by
  decide +kernel

theorem sorted_angeredNow : (withOrder Sample.angeredNow Sample.anger []).evidenceRefs =
    [Sample.source false, Sample.source true] := by
  have hle : ¬ (Sample.source true).evidenceId.root ≤ (Sample.source false).evidenceId.root := by
    decide
  simp [withOrder, Sample.angeredNow, Sample.angered, List.mergeSort,
    List.MergeSort.Internal.splitInTwo, hle]

theorem normalizeOperation_angeredNow :
    ∃ done, normalizeOperation (some Sample.moodWorld) none Sample.angeredNow =
      .ok ([withOrder Sample.angeredNow Sample.anger []], [done]) := by
  have hsorted : (withOrder Sample.angeredNow Sample.anger []).evidenceRefs ≠
      Sample.angeredNow.evidenceRefs := by
    rw [sorted_angeredNow]
    decide
  have hshape : shape? Sample.angeredNow.payload = some (.state, Sample.anger) := rfl
  have hplain : Plain (some Sample.moodWorld) Sample.angeredNow .state Sample.anger :=
    ⟨by simp [Sample.angeredNow],
      fun _ => ⟨StateRecord.codec.dump Sample.mood, rfl, by decide +kernel⟩⟩
  have hreceipt : ∃ done, receipt Sample.angeredNow ⟨"normalize.evidence-order-v1", by decide⟩
      "EvidenceRef order normalized without changing spans"
      (withOrder Sample.angeredNow Sample.anger []).json = .ok done := ⟨_, rfl⟩
  rcases hreceipt with ⟨done, hdone⟩
  have hitems : Sample.anger.get? "evidence_refs" = some (.array []) := rfl
  refine ⟨done, ?_⟩
  rw [normalizeOperation_of_plain hshape hplain, orderEvidence, hitems]
  dsimp only
  rw [if_pos ⟨rfl, .inr hsorted⟩, Outcome.bind_eq_ok]
  exact ⟨done, hdone, rfl⟩

end MutationNormalizer

end NovelAgent.World
