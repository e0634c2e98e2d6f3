import NovelAgent.World.SecondPass

/-!
# The Frame of a Directive

What a directive keeps the normalizer away from.
-/

namespace NovelAgent.World

open Core Domain List

namespace MutationNormalizer

/-- The operations outside a directive stay as they are and in their order, and every reference
    that an operation has is still there on its target, if anything is. -/
structure Framed (directive : Directive) (operations operations' : List ChangeOperation) :
    Prop where
  outside : (operations.filter fun operation =>
    operation.operationId ∉ directive.operationIds).Sublist operations'
  evidence : ∀ operation ∈ operations,
    (∃ kept ∈ operations', ChangeOperation.target kept = ChangeOperation.target operation) →
    ∀ ref ∈ operation.evidenceRefs, ∃ kept ∈ operations',
      ChangeOperation.target kept = ChangeOperation.target operation ∧ ref ∈ kept.evidenceRefs

/-- No operation outside the directive repeats the first one on its target, and
    where all that stands for an operation repeats the first one, its evidence
    is on an operation that does not. -/
structure Separate (world : Option WorldRootDocument) (directive : Directive)
    (operations : List ChangeOperation) : Prop where
  outside : ∀ before operation after, operations = before ++ operation :: after →
    operation.operationId ∉ directive.operationIds →
    repeated (before.flatMap (rewritten world (some directive))) operation = false
  evidence : ∀ operation ∈ operations, ∀ first,
    ((operations.flatMap (rewritten world (some directive))).find? fun other =>
      ChangeOperation.target other = ChangeOperation.target operation) = some first →
    (∀ result ∈ rewritten world (some directive) operation,
      ChangeOperation.target result = ChangeOperation.target operation →
      repeats first result = true) →
    ∀ ref ∈ operation.evidenceRefs,
      ∃ other ∈ operations.flatMap (rewritten world (some directive)),
        ChangeOperation.target other = ChangeOperation.target operation ∧
        (other = first ∨ repeats first other = false) ∧ ref ∈ other.evidenceRefs

/-- An operation inside the directive is rewritten to one that is given outside of it. -/
def Produced (world : Option WorldRootDocument) (directive : Directive)
    (operations : List ChangeOperation) : Prop :=
  ∃ operation ∈ operations, ∃ other ∈ operations,
    operation.operationId ∈ directive.operationIds ∧
    other.operationId ∉ directive.operationIds ∧
    other ∈ rewritten world (some directive) operation

variable {seen : List ChangeOperation}

section Merging

variable {operations : List ChangeOperation} {kept : ChangeOperation}

theorem mem_dropRepeats :
    kept ∈ dropRepeats seen operations ↔
      ∃ before after, operations = before ++ kept :: after ∧
        repeated (seen ++ before) kept = false := by
  have h : kept ∈ dropRepeats seen (operations.flatMap fun operation => [operation]) ↔ _ :=
    mem_dropRepeats_flatMap
  simp only [flatMap_singleton', mem_dropRepeats_singleton] at h
  rw [h]
  constructor
  · rintro ⟨before, operation, after, hsplit, rfl, hkept⟩
    exact ⟨before, after, hsplit, hkept⟩
  · rintro ⟨before, after, hsplit, hkept⟩
    exact ⟨before, kept, after, hsplit, rfl, hkept⟩

/-- What is left on a target: the first operation, and what does not repeat it. -/
theorem mem_dropRepeats_iff {first : ChangeOperation}
    (hfirst : (operations.find? fun other =>
      ChangeOperation.target other = ChangeOperation.target kept) = some first) :
    kept ∈ dropRepeats [] operations ↔
      kept ∈ operations ∧ (kept = first ∨ repeats first kept = false) := by
  have hseen : ∀ before after, operations = before ++ after →
      (before.find? fun other => ChangeOperation.target other = ChangeOperation.target kept) =
        some first ∨
      (before.find? fun other => ChangeOperation.target other = ChangeOperation.target kept) =
        none := by
    rintro before after rfl
    rw [List.find?_append] at hfirst
    cases hfind : before.find? fun other =>
        ChangeOperation.target other = ChangeOperation.target kept with
    | none => exact .inr rfl
    | some found =>
      rw [hfind, Option.some_or] at hfirst
      exact .inl hfirst
  rw [mem_dropRepeats]
  constructor
  · rintro ⟨before, after, hsplit, hkept⟩
    refine ⟨by rw [hsplit]; exact mem_append_right _ (mem_cons_self ..), ?_⟩
    rcases hseen before (kept :: after) hsplit with hfind | hfind
    · right
      simpa [repeated, hfind] using hkept
    · left
      rw [hsplit, List.find?_append, hfind, List.find?_cons_of_pos (by simp)] at hfirst
      exact Option.some.inj hfirst
  · rintro ⟨hmem, rfl | hdiffers⟩
    · -- The first one on a target repeats nothing.
      rcases List.find?_eq_some_iff_append.mp hfirst with ⟨_, before, after, hsplit, hnone⟩
      refine ⟨before, after, hsplit, ?_⟩
      have hfind : (before.find? fun other =>
          ChangeOperation.target other = ChangeOperation.target kept) = none := by
        rw [List.find?_eq_none]
        intro other hother
        simpa using hnone other hother
      simp [repeated, hfind]
    · rcases append_of_mem hmem with ⟨before, after, hsplit⟩
      refine ⟨before, after, hsplit, ?_⟩
      rcases hseen before (kept :: after) hsplit with hfind | hfind
      · simp [repeated, hfind, hdiffers]
      · simp [repeated, hfind]

end Merging

section Frame

variable {world : Option WorldRootDocument} {directive : Directive}
  {operations : List ChangeOperation}

theorem rewritten_of_outside {operation : ChangeOperation} (hids : directive.operationIds ≠ [])
    (hout : operation.operationId ∉ directive.operationIds) :
    rewritten world (some directive) operation = [operation] := by
  have htouched : touched (some directive) operation = false := by
    simp [touched, hids, hout]
  simp [rewritten, htouched]

theorem evidence_of_rewritten {directive : Option Directive} {operation result : ChangeOperation}
    (h : result ∈ rewritten world directive operation) (ref : EvidenceRef) :
    ref ∈ result.evidenceRefs ↔ ref ∈ operation.evidenceRefs := by
  have hself : result ∈ [operation] → (ref ∈ result.evidenceRefs ↔ ref ∈ operation.evidenceRefs) :=
    fun hmem => by rw [mem_singleton.mp hmem]
  rw [rewritten] at h
  split at h
  · split at h
    · rename_i results transforms hnormal
      cases hshape : shape? operation.payload with
      | none =>
        rw [normalizeOperation_of_none hshape] at hnormal
        cases hnormal
        exact hself h
      | some shape =>
        rcases shape with ⟨kind, record⟩
        rcases normalizeOperation_cases hshape hnormal with
          ⟨_, _, _, ⟨_, rfl⟩ | ⟨_, _, rfl⟩⟩ | ⟨_, _, rfl⟩ | ⟨_, rfl, _, _, _, hpair⟩ |
          ⟨_, horder⟩
        · exact absurd h not_mem_nil
        · rw [mem_singleton.mp h]
        · rw [mem_singleton.mp h]
        · rcases successorOperations_ok hpair with ⟨ended, successor, _, _, _, rfl, hsplit⟩
          rcases mem_cons.mp h with rfl | h
          · rw [hsplit.ended_eq]
          · rw [mem_singleton.mp h, hsplit.successor_eq]
        · rcases orderEvidence_eq_ok (shape?_eq_some.mp hshape).2.1 horder with
            ⟨_, rfl⟩ | ⟨items, _, _, _, rfl⟩
          · exact hself h
          · rw [mem_singleton.mp h]
            exact (mergeSort_perm operation.evidenceRefs _).mem_iff
    · exact hself h
  · exact hself h

/-- What is outside stays if none of it repeats anything. The induction is on
    the operations; what stands for the ones before them is general. -/
theorem outside_sublist (hids : directive.operationIds ≠ [])
    (h : ∀ before operation after, operations = before ++ operation :: after →
      operation.operationId ∉ directive.operationIds →
      repeated (seen ++ before.flatMap (rewritten world (some directive))) operation = false) :
    (operations.filter fun operation =>
      operation.operationId ∉ directive.operationIds).Sublist
      (dropRepeats seen (operations.flatMap (rewritten world (some directive)))) := by
  induction operations generalizing seen with
  | nil => exact List.Sublist.refl _
  | cons operation rest ih =>
    have hlater : ∀ before other after, rest = before ++ other :: after →
        other.operationId ∉ directive.operationIds →
        repeated (seen ++ rewritten world (some directive) operation ++
          before.flatMap (rewritten world (some directive))) other = false := by
      rintro before other after rfl hout
      have := h (operation :: before) other after rfl hout
      rwa [flatMap_cons, ← append_assoc] at this
    have hrest := ih hlater
    rw [flatMap_cons, dropRepeats_append]
    by_cases hout : operation.operationId ∈ directive.operationIds
    · rw [filter_cons_of_neg (by simpa using hout)]
      exact hrest.trans (sublist_append_right _ _)
    · have hkept : repeated seen operation = false := by
        simpa using h [] operation rest rfl hout
      rw [filter_cons_of_pos (by simpa using hout)]
      rw [rewritten_of_outside hids hout] at hrest ⊢
      rw [dropRepeats, hkept, dropRepeats]
      exact hrest.cons_cons operation

/-- Separate directives keep to their frame. -/
theorem framed_of_separate (hids : directive.operationIds ≠ [])
    (h : Separate world directive operations) :
    Framed directive operations
      (dropRepeats [] (operations.flatMap (rewritten world (some directive)))) := by
  refine ⟨outside_sublist hids (by simpa using h.outside), ?_⟩
  rintro operation hmem ⟨survivor, hsurvivor, htarget⟩ ref href
  have hthere := (dropRepeats_sublist [] _).subset hsurvivor
  cases hfirst : (operations.flatMap (rewritten world (some directive))).find? fun other =>
      ChangeOperation.target other = ChangeOperation.target operation with
  | none =>
    have := List.find?_eq_none.mp hfirst survivor hthere
    simp [htarget] at this
  | some first =>
    have hkeep : ∀ other ∈ operations.flatMap (rewritten world (some directive)),
        ChangeOperation.target other = ChangeOperation.target operation →
        (other = first ∨ repeats first other = false) → ref ∈ other.evidenceRefs →
        ∃ kept ∈ dropRepeats [] (operations.flatMap (rewritten world (some directive))),
          ChangeOperation.target kept = ChangeOperation.target operation ∧
            ref ∈ kept.evidenceRefs := by
      intro other hother hon hkept hcarries
      rw [← hon] at hfirst
      exact ⟨other, (mem_dropRepeats_iff hfirst).mpr ⟨hother, hkept⟩, hon, hcarries⟩
    by_cases hall : ∀ result ∈ rewritten world (some directive) operation,
        ChangeOperation.target result = ChangeOperation.target operation →
        repeats first result = true
    · rcases h.evidence operation hmem first hfirst hall ref href with
        ⟨other, hother, hon, hkept, hcarries⟩
      exact hkeep other hother hon hkept hcarries
    · push Not at hall
      rcases hall with ⟨result, hresult, hon, hdiffers⟩
      exact hkeep result (mem_flatMap.mpr ⟨operation, hmem, hresult⟩) hon
        (.inr (by simpa using hdiffers)) ((evidence_of_rewritten hresult ref).mpr href)

/-- What is outside and not produced stands for itself only, as often as it is given. -/
theorem count_rewritten (hids : directive.operationIds ≠ []) {other : ChangeOperation}
    (hproduced : ∀ operation ∈ operations, operation.operationId ∈ directive.operationIds →
      other ∉ rewritten world (some directive) operation) :
    (operations.flatMap (rewritten world (some directive))).count other =
      (operations.filter fun operation =>
        operation.operationId ∉ directive.operationIds).count other := by
  induction operations with
  | nil => rfl
  | cons operation rest ih =>
    have hrest := ih fun operation hmem => hproduced operation (mem_cons_of_mem _ hmem)
    rw [flatMap_cons, count_append, hrest]
    by_cases hin : operation.operationId ∈ directive.operationIds
    · have hnone := hproduced operation (mem_cons_self ..) hin
      rw [filter_cons_of_neg (by simpa using hin), count_eq_zero_of_not_mem hnone,
        Nat.zero_add]
    · rw [filter_cons_of_pos (by simpa using hin), rewritten_of_outside hids hin,
        count_cons, count_cons, count_nil]
      omega

/-- Where the frame is kept, the merging drops nothing that is needed, or an
    operation that it drops is produced elsewhere. -/
theorem separate_or_produced (hids : directive.operationIds ≠ [])
    (h : Framed directive operations
      (dropRepeats [] (operations.flatMap (rewritten world (some directive))))) :
    Separate world directive operations ∨ Produced world directive operations := by
  by_cases hproduced : Produced world directive operations
  · exact .inr hproduced
  left
  constructor
  · intro before operation after hsplit hout
    by_contra hrepeated
    rw [Bool.not_eq_false] at hrepeated
    have hmem : operation ∈ operations := by rw [hsplit]; simp
    -- A dropped operation is left less often than it is given.
    have hcount : (operations.flatMap (rewritten world (some directive))).count operation = _ :=
      count_rewritten hids fun other hother hin hresult =>
        hproduced ⟨other, hother, operation, hmem, hin, hout, hresult⟩
    have hless := h.outside.count_le operation
    rw [← hcount, hsplit, flatMap_append, flatMap_cons, rewritten_of_outside hids hout,
      singleton_append, dropRepeats_append, nil_append, dropRepeats,
      if_pos hrepeated, nil_append] at hless
    simp only [count_append, count_cons_self] at hless
    have hbefore := (dropRepeats_sublist []
      (before.flatMap (rewritten world (some directive)))).count_le operation
    have hafter := (dropRepeats_sublist
      (before.flatMap (rewritten world (some directive)) ++ [operation])
      (after.flatMap (rewritten world (some directive)))).count_le operation
    omega
  · intro operation hmem first hfirst _ ref href
    have htarget : ChangeOperation.target first = ChangeOperation.target operation := by
      simpa using List.find?_some hfirst
    have hkept : first ∈ dropRepeats [] (operations.flatMap (rewritten world (some directive))) := by
      have hfound := hfirst
      rw [← htarget] at hfound
      exact (mem_dropRepeats_iff hfound).mpr ⟨mem_of_find?_eq_some hfirst, .inl rfl⟩
    rcases h.evidence operation hmem ⟨first, hkept, htarget⟩ ref href with
      ⟨other, hother, hon, hcarries⟩
    rw [← hon] at hfirst
    rcases (mem_dropRepeats_iff hfirst).mp hother with ⟨hthere, hcases⟩
    exact ⟨other, hthere, hon, hcases, hcarries⟩

end Frame

end MutationNormalizer

namespace Sample

def lampAgain : ChangeOperation :=
  { operation .create lamp with operationId := ⟨"op.again", by decide⟩ }

def heroRetired : ChangeOperation :=
  { operation .retire hero with operationId := ⟨"op.retire", by decide⟩ }

def onlyOp : MutationNormalizer.Directive := ⟨[⟨"op", .refl true⟩], false⟩

/-- The replacement of the missing lamp, and its creation once more with some of the same
    evidence. -/
def lampReplaced : ChangeOperation :=
  { operation .replace lamp with evidenceRefs := [source false, source true] }

def lampSeen : ChangeOperation := { lampAgain with evidenceRefs := [source true] }

def heroGone : ChangeOperation := { heroRetired with evidenceRefs := [source false] }

def onLamp : MutationNormalizer.Directive :=
  ⟨[⟨"op", .refl true⟩, ⟨"op.again", .refl true⟩], false⟩

def framed : ObservedChangeSet := changes [lampReplaced, lampSeen, heroGone]

end Sample

open Sample

namespace MutationNormalizer

theorem rewritten_framed :
    framed.operations.map (rewritten (some world) (some onLamp)) =
      [[{ lampReplaced with operation := .create }], [lampSeen],
        [heroGone]] := by
  decide +kernel

theorem separate_framed :
    Separate (some world) onLamp framed.operations := by
  have hrewritten : framed.operations.flatMap
      (rewritten (some world) (some onLamp)) =
        [{ lampReplaced with operation := .create }, lampSeen, heroGone] := by
    rw [List.flatMap, rewritten_framed]
    rfl
  constructor
  · intro before operation after hsplit hout
    have hinside : ∀ operation ∈ [lampReplaced, lampSeen],
        operation.operationId ∈ onLamp.operationIds := by decide
    -- The directive is about every operation but the last.
    rcases eq_nil_or_concat after with rfl | ⟨front, last, rfl⟩
    · have hends : [lampReplaced, lampSeen] ++ [heroGone] =
          before ++ [operation] := hsplit
      have hlast := append_inj' hends rfl
      rw [← hlast.1, ← (List.cons.inj hlast.2).1, List.flatMap]
      have hmap := rewritten_framed
      simp only [framed, changes, map_cons, map_nil, List.cons.injEq,
        and_true] at hmap
      simp only [map_cons, map_nil, hmap.1, hmap.2.1]
      decide
    · have hends : [lampReplaced, lampSeen] ++ [heroGone] =
          before ++ operation :: front ++ [last] := by
        rw [concat_eq_append] at hsplit
        rw [append_assoc, cons_append]
        exact hsplit
      have hfront := (append_inj' hends rfl).1
      exact absurd (hinside operation (hfront ▸ by simp)) hout
  · intro operation hmem first hfirst _ ref href
    rw [hrewritten] at hfirst ⊢
    have hcovered : ∀ operation ∈ framed.operations, ∀ ref ∈ operation.evidenceRefs,
        ∀ first ∈ ([{ lampReplaced with operation := .create }, lampSeen,
          heroGone] : List ChangeOperation).find? fun other =>
            ChangeOperation.target other = ChangeOperation.target operation,
          ref ∈ first.evidenceRefs := by
      decide
    exact ⟨first, mem_of_find?_eq_some hfirst, by simpa using List.find?_some hfirst, .inl rfl,
      hcovered operation hmem ref href first hfirst⟩

end MutationNormalizer

end NovelAgent.World
