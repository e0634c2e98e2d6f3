import NovelAgent.Pipeline.ContextBudget

/-!
# Passages Charged Twice

Whether a context holds a passage in full and its excerpt as well. An excerpt that is
already included keeps its passage out, but only when the passage competes by itself.
In a group with another new unit nobody looks for excerpts.
-/

namespace NovelAgent.Pipeline

open Core Domain World List

open Retrieval (Stage1MemoryNeed)

def IsExcerptOf (excerpt unit : RetrievalUnit) : Prop :=
  excerpt.unitId.root = "compact." ++ unit.unitId.root

/-- A grounded unit and its excerpt are both there. -/
def ChargedTwice (units : List RetrievalUnit) : Prop :=
  ∃ unit ∈ units, unit.isGrounded = true ∧ ∃ excerpt ∈ units, IsExcerptOf excerpt unit

/-- An admission that is asked for, with the packer before it. -/
structure Call where
  packer : Packer
  need : Stage1MemoryNeed
  group : List RetrievalUnit

def Call.newUnits (call : Call) : List RetrievalUnit := call.packer.newUnits call.group

def Call.Charges (casefold : String → String) (call : Call) (units : List RetrievalUnit) : Prop :=
  call.newUnits ≠ [] ∧
    call.packer.chargedUnits casefold call.need call.newUnits = .ok (some units) ∧
    tokensOf units ≤ call.packer.remaining

/-- What the call charges is charged twice. -/
def Call.Doubles (casefold : String → String) (mandatory : List RetrievalUnit) (call : Call) :
    Prop :=
  ¬ ChargedTwice (mandatory ++ call.packer.selectedOptional) ∧
    ∃ units, call.Charges casefold units ∧
      ChargedTwice (mandatory ++ call.packer.selectedOptional ++ units)

/-- Several new units fit, and one of them has its excerpt included. -/
def Call.GroupDoubles (call : Call) : Prop :=
  2 ≤ call.newUnits.length ∧ tokensOf call.newUnits ≤ call.packer.remaining ∧
    ∃ unit ∈ call.newUnits, unit.isGrounded = true ∧
      ∃ excerpt ∈ call.packer.selectedOptional, IsExcerptOf excerpt unit

/-- The passes include units if they fit, and keep a log of what they ask for. -/
def loggedAdmission (casefold : String → String) : Admission (Packer × List Call) where
  admits s need group := do
    let admitted ← includeIfFits casefold s.1 need group
    pure ((admitted.1, s.2 ++ [⟨s.1, need, group⟩]), admitted.2)
  includes s id := id ∈ s.1.includedIds

/-- The admissions that the passes ask for. -/
def calls (casefold : String → String) (pairs : List (Stage1MemoryNeed × RetrievalTrace))
    (root : TextRootDocument) (baseCommit : CommitId) (snapshotId : StableId) (tokenBudget : Int) :
    Except CompileError (List Call) := do
  let collection ← raising (collect pairs root baseCommit snapshotId tokenBudget)
  let packed ← pack (loggedAdmission casefold) (collection.packer, []) collection.lanes
  pure packed.1.2

section Logged

variable {casefold : String → String} {packer packer' : Packer} {need : Stage1MemoryNeed}
  {group units : List RetrievalUnit} {admitted : Bool} {mandatory : List RetrievalUnit}

theorem ChargedTwice.mono {others : List RetrievalUnit} (h : ChargedTwice units)
    (hsubset : units ⊆ others) : ChargedTwice others := by
  rcases h with ⟨unit, hunit, hgrounded, excerpt, hexcerpt, hnamed⟩
  exact ⟨unit, hsubset hunit, hgrounded, excerpt, hsubset hexcerpt, hnamed⟩

theorem includeIfFits_chargedTwice
    (h : includeIfFits casefold packer need group = .ok (packer', admitted)) :
    ChargedTwice (mandatory ++ packer'.selectedOptional) ↔
      ChargedTwice (mandatory ++ packer.selectedOptional) ∨
        Call.Doubles casefold mandatory ⟨packer, need, group⟩ := by
  by_cases hbefore : ChargedTwice (mandatory ++ packer.selectedOptional)
  · refine iff_of_true ?_ (Or.inl hbefore)
    rcases includeIfFits_cases h with ⟨rfl, _⟩ | ⟨units, _, _, _, rfl⟩
    · exact hbefore
    · refine hbefore.mono ?_
      simp only [Packer.add, ← append_assoc]
      exact subset_append_left _ _
  · rw [or_iff_right hbefore]
    rcases includeIfFits_cases h with ⟨rfl, hnone⟩ | ⟨units, hsome, hcharged, hfits, rfl⟩
    · refine iff_of_false hbefore ?_
      intro hdoubles
      rcases hdoubles.2 with ⟨units, ⟨hsome, hcharged, hfits⟩, _⟩
      rcases hnone units hcharged with hnil | hlarge
      · exact hsome hnil
      · exact absurd hfits (not_le.mpr hlarge)
    · simp only [Packer.add, ← append_assoc]
      constructor
      · exact fun htwice => ⟨hbefore, units, ⟨hsome, hcharged, hfits⟩, htwice⟩
      · intro hdoubles
        rcases hdoubles.2 with ⟨others, ⟨_, hothers, _⟩, htwice⟩
        have hsame : Except.ok (some others) = .ok (some units) := hothers.symm.trans hcharged
        rw [Except.ok.injEq, Option.some.injEq] at hsame
        rwa [hsame] at htwice

theorem includeIfFits_grows
    (h : includeIfFits casefold packer need group = .ok (packer', admitted)) :
    packer.selectedOptional ⊆ packer'.selectedOptional := by
  rcases includeIfFits_cases h with ⟨rfl, _⟩ | ⟨units, _, _, _, rfl⟩
  · exact List.Subset.refl _
  · exact subset_append_left _ _

/-- A log of the charges so far. -/
structure LogOf (casefold : String → String) (mandatory : List RetrievalUnit)
    (Fact : Packer → Prop) (P : List RetrievalUnit → Prop) (packer : Packer) (log : List Call) :
    Prop where
  fact : Fact packer
  decides : ChargedTwice (mandatory ++ packer.selectedOptional) ↔
    ChargedTwice mandatory ∨ ∃ call ∈ log, call.Doubles casefold mandatory
  calls : ∀ call ∈ log, Fact call.packer ∧ P call.group ∧
    call.packer.selectedOptional ⊆ packer.selectedOptional

/-- A run without a log is followed by one with a log, which decides whether a passage
    is charged twice. A fact of packers that admissions keep is there at every call. -/
theorem pack_logged {Fact : Packer → Prop} {P : List RetrievalUnit → Prop} {lanes lanes' : List Lane}
    (hfact : ∀ packer need group packer' admitted, Fact packer → P group →
      includeIfFits casefold packer need group = .ok (packer', admitted) → Fact packer')
    (hstart : Fact packer) (hempty : packer.selectedOptional = [])
    (hlanes : ∀ lane ∈ lanes, lane.Holds P)
    (h : pack (packerAdmission casefold) packer lanes = .ok (packer', lanes')) :
    ∃ log, pack (loggedAdmission casefold) (packer, []) lanes = .ok ((packer', log), lanes') ∧
      LogOf casefold mandatory Fact P packer' log := by
  have hkept : Kept (packerAdmission casefold) (loggedAdmission casefold)
      (fun p s => s.1 = p ∧ LogOf casefold mandatory Fact P p s.2) P := by
    constructor
    · intro p s need group hrelated hgroup
      rcases s with ⟨q, log⟩
      rcases hrelated with ⟨rfl, hlog⟩
      simp only [packerAdmission, loggedAdmission]
      cases hadmits : includeIfFits casefold q need group with
      | error e => exact Related.error e
      | ok result =>
        refine Related.ok ⟨rfl, hfact q need group result.1 result.2 hlog.fact hgroup hadmits,
          ?_, ?_⟩ trivial
        · rw [includeIfFits_chargedTwice hadmits, hlog.decides]
          simp only [mem_append, mem_singleton, or_and_right, exists_or,
            exists_eq_left, or_assoc]
        · have hgrows := includeIfFits_grows hadmits
          intro call hcall
          rcases mem_append.mp hcall with hcall | hcall
          · have hbefore := hlog.calls call hcall
            exact ⟨hbefore.1, hbefore.2.1, List.Subset.trans hbefore.2.2 hgrows⟩
          · rw [mem_singleton.mp hcall]
            exact ⟨hlog.fact, hgroup, hgrows⟩
    · intro p s id hrelated
      simp only [packerAdmission, loggedAdmission, hrelated.1]
  have hnone : LogOf casefold mandatory Fact P packer [] := by
    refine ⟨hstart, ?_, fun _ hcall => absurd hcall not_mem_nil⟩
    rw [hempty, append_nil]
    simp
  have hrun := pack_related hkept (s := packer) (t := (packer, [])) ⟨rfl, hnone⟩ hlanes
  rw [h] at hrun
  rcases hrun.ok_left with ⟨⟨last, log⟩, hlogged, ⟨hsame, hlog⟩, _⟩
  simp only at hsame hlog
  subst hsame
  exact ⟨log, hlogged, hlog⟩

end Logged

section Supply

variable {casefold : String → String} {pairs : List (Stage1MemoryNeed × RetrievalTrace)}
  {root : TextRootDocument}

/-- The unit is a selected one, or a passage behind one. -/
def Supplied (pairs : List (Stage1MemoryNeed × RetrievalTrace)) (root : TextRootDocument)
    (unit : RetrievalUnit) : Prop :=
  ∃ pair ∈ pairs, ∃ candidate expansion, Brings root pair candidate expansion ∧
    unit ∈ candidate.unit :: expansion

/-- The identities of the units supplied mean what they should: none of them is named
    as an excerpt, and they tell apart what is text and which text it is. -/
structure Regular (pairs : List (Stage1MemoryNeed × RetrievalTrace)) (root : TextRootDocument) :
    Prop where
  unnamed : ∀ unit, Supplied pairs root unit → ∀ rest, unit.unitId.root ≠ "compact." ++ rest
  told : ∀ unit other, Supplied pairs root unit → Supplied pairs root other →
    unit.unitId = other.unitId → unit.isGrounded = other.isGrounded ∧ unit.text = other.text

/-- The unit is the excerpt of a passage that was supplied, and that is still too large. -/
def ExcerptFrom (casefold : String → String) (supplied : RetrievalUnit → Prop) (packer : Packer)
    (excerpt : RetrievalUnit) : Prop :=
  ∃ source, supplied source ∧ IsExcerptOf excerpt source ∧ packer.tooLarge source = true ∧
    ∃ queryText, (compactBlockSegments casefold source.text.toList queryText
      compactBlockExcerptLimit).isSome = true

/-- Where the units that are included come from. -/
structure Sourced (casefold : String → String) (supplied : RetrievalUnit → Prop)
    (mandatory : List RetrievalUnit) (budget : Nat) (packer : Packer) : Prop where
  balanced : packer.Balanced mandatory budget
  units : ∀ unit ∈ packer.selectedOptional,
    supplied unit ∨ ExcerptFrom casefold supplied packer unit

variable {supplied : RetrievalUnit → Prop} {mandatory group : List RetrievalUnit} {budget : Nat}
  {packer packer' : Packer} {need : Stage1MemoryNeed} {admitted : Bool} {unit : RetrievalUnit}

theorem ExcerptFrom.add {units : List RetrievalUnit} (h : ExcerptFrom casefold supplied packer unit) :
    ExcerptFrom casefold supplied (packer.add units) unit := by
  rcases h with ⟨source, hsupplied, hnamed, hlarge, hexcerpt⟩
  refine ⟨source, hsupplied, hnamed, ?_, hexcerpt⟩
  rw [tooLarge_iff] at hlarge ⊢
  refine ⟨hlarge.1, hlarge.2.imp_left ?_⟩
  intro hless
  exact lt_of_le_of_lt (Nat.sub_le _ _) hless

theorem includeIfFits_sourced (hpacker : Sourced casefold supplied mandatory budget packer)
    (hnodup : (group.map RetrievalUnit.unitId).Nodup) (hgroup : ∀ unit ∈ group, supplied unit)
    (h : includeIfFits casefold packer need group = .ok (packer', admitted)) :
    Sourced casefold supplied mandatory budget packer' := by
  refine ⟨includeIfFits_balanced hpacker.balanced hnodup h, ?_⟩
  rcases includeIfFits_cases h with ⟨rfl, _⟩ | ⟨units, _, hcharged, _, rfl⟩
  · exact hpacker.units
  · intro unit hunit
    rcases mem_append.mp hunit with hunit | hunit
    · exact (hpacker.units unit hunit).imp_right ExcerptFrom.add
    · rcases chargedUnits_cases hcharged with rfl | ⟨source, compact, hnew, hlarge, hcompact, _, rfl⟩
      · exact Or.inl (hgroup unit (mem_filter.mp hunit).1)
      · right
        rw [mem_singleton.mp hunit]
        have hsource : source ∈ packer.newUnits group := hnew ▸ mem_cons_self
        rcases compactBlockUnit_cases (tooLarge_iff.mp hlarge).1 hcompact with
          ⟨hnone, _⟩ | ⟨same, hsame, _, hnamed, hexcerpt, _⟩
        · cases hnone
        · rw [Option.some.injEq] at hsame
          subst hsame
          exact ExcerptFrom.add ⟨source, hgroup source (mem_filter.mp hsource).1, hnamed,
            hlarge, need.queryText, hexcerpt⟩

theorem IsExcerptOf.unitId_inj {excerpt excerpt' unit unit' : RetrievalUnit}
    (h : IsExcerptOf excerpt unit) (h' : IsExcerptOf excerpt' unit')
    (hsame : excerpt.unitId = excerpt'.unitId) : unit.unitId = unit'.unitId := by
  have hroots : "compact." ++ unit.unitId.root = "compact." ++ unit'.unitId.root := by
    rw [← h, ← h', hsame]
  have hlists := congrArg String.toList hroots
  rw [String.toList_append, String.toList_append, append_cancel_left_eq] at hlists
  exact StableId.root_inj.mp (String.toList_inj.mp hlists)

section

variable (hregular : Regular pairs root)
    (hpacker : Sourced casefold (Supplied pairs root) mandatory budget packer)
    (hmandatory : ∀ unit ∈ mandatory, Supplied pairs root unit)

include hregular hpacker hmandatory

/-- An included unit that is named as the excerpt of a supplied one was made from a
    passage under the same identity, which is the same text and still too large. -/
theorem Sourced.excerpt {excerpt : RetrievalUnit}
    (hexcerpt : excerpt ∈ mandatory ++ packer.selectedOptional)
    (hnamed : IsExcerptOf excerpt unit) :
    excerpt ∈ packer.selectedOptional ∧ ∃ source, Supplied pairs root source ∧
      source.unitId = unit.unitId ∧ packer.tooLarge source = true ∧
      ∃ queryText, (compactBlockSegments casefold source.text.toList queryText
        compactBlockExcerptLimit).isSome = true := by
  rcases mem_append.mp hexcerpt with hmem | hmem
  · exact absurd hnamed (hregular.unnamed excerpt (hmandatory excerpt hmem) _)
  · refine ⟨hmem, ?_⟩
    rcases hpacker.units excerpt hmem with hsupplied | ⟨source, hsource, hof, hlarge, hsome⟩
    · exact absurd hnamed (hregular.unnamed excerpt hsupplied _)
    · exact ⟨source, hsource, hof.unitId_inj hnamed rfl, hlarge, hsome⟩

/-- A passage that competes by itself is not charged in full when its excerpt is there:
    it is still too large, and it still has the excerpt. -/
theorem Sourced.chargedUnits_ne {excerpt : RetrievalUnit}
    (hexcerpt : excerpt ∈ mandatory ++ packer.selectedOptional)
    (hnamed : IsExcerptOf excerpt unit) (hunit : Supplied pairs root unit)
    (units : List RetrievalUnit) : packer.chargedUnits casefold need [unit] ≠ .ok (some units) := by
  rcases hpacker.excerpt hregular hmandatory hexcerpt hnamed with
    ⟨_, source, hsource, hid, hlarge, queryText, hsome⟩
  rcases hregular.told source unit hsource hunit hid with ⟨hgrounded, htext⟩
  have hlimit : (0 : Int) ≤ compactBlockExcerptLimit := by decide
  have hlarge : packer.tooLarge unit = true := by
    rw [tooLarge_iff, htext, hgrounded] at hlarge
    exact tooLarge_iff.mpr hlarge
  -- whether there is an excerpt does not depend on what is asked for
  have hsome : (compactBlockSegments casefold unit.text.toList need.queryText
      compactBlockExcerptLimit).isSome = true := by
    rw [compactBlockSegments_isSome_iff hlimit, htext] at hsome
    exact (compactBlockSegments_isSome_iff hlimit).mpr hsome
  intro h
  unfold Packer.chargedUnits Packer.substitution at h
  simp only at h
  rw [if_pos hlarge, Outcome.bind_eq_ok] at h
  rcases h with ⟨result, hresult, h⟩
  rcases compactBlockUnit_cases (tooLarge_iff.mp hlarge).1 hresult with
    ⟨_, hnone⟩ | ⟨compact, rfl, _, hcompact, _⟩
  · rw [hnone] at hsome
    cases hsome
  · have hsame : compact.unitId = excerpt.unitId := StableId.root_inj.mp (hcompact.trans hnamed.symm)
    have hincluded : compact.unitId ∈ packer.includedIds := by
      rw [hpacker.balanced.ids, hsame]
      exact mem_map_of_mem hexcerpt
    simp only [if_pos hincluded, Outcome.pure_eq_ok] at h
    cases h

/-- An excerpt that is charged is the only one under its name, and its passage is not there. -/
theorem Sourced.compact_alone {source compact : RetrievalUnit}
    (hsource : Supplied pairs root source) (hnew : source.unitId ∉ packer.includedIds)
    (hnamed : IsExcerptOf compact source)
    (hbefore : ¬ ChargedTwice (mandatory ++ packer.selectedOptional)) :
    ¬ ChargedTwice (mandatory ++ packer.selectedOptional ++ [compact]) := by
  intro htwice
  rcases htwice with ⟨unit, hunit, hgrounded, excerpt, hexcerpt, hof⟩
  rw [mem_append, mem_singleton] at hunit hexcerpt
  rcases hexcerpt with hexcerpt | rfl
  · rcases hunit with hunit | rfl
    · exact hbefore ⟨unit, hunit, hgrounded, excerpt, hexcerpt, hof⟩
    · -- an excerpt of the excerpt would be made from a passage with the excerpt's name
      rcases hpacker.excerpt hregular hmandatory hexcerpt hof with ⟨_, other, hother, hid, _⟩
      refine hregular.unnamed other hother source.unitId.root ?_
      rw [hid]
      exact hnamed
  · have hid := hof.unitId_inj hnamed rfl
    rcases hunit with hunit | rfl
    · apply hnew
      rw [hpacker.balanced.ids, ← hid]
      exact mem_map_of_mem hunit
    · refine hregular.unnamed source hsource source.unitId.root ?_
      rw [← hid]
      exact hnamed.trans (by rw [hid])

end

/-- For regular units, a call doubles exactly if a passage is charged in a group although
    its excerpt is included. -/
theorem Call.doubles_iff {call : Call} (hregular : Regular pairs root)
    (hpacker : Sourced casefold (Supplied pairs root) mandatory budget call.packer)
    (hmandatory : ∀ unit ∈ mandatory, Supplied pairs root unit)
    (hgroup : ∀ unit ∈ call.group, Supplied pairs root unit) :
    call.Doubles casefold mandatory ↔
      ¬ ChargedTwice (mandatory ++ call.packer.selectedOptional) ∧ call.GroupDoubles := by
  have hnew : ∀ unit ∈ call.newUnits,
      Supplied pairs root unit ∧ unit.unitId ∉ call.packer.includedIds := by
    intro unit hunit
    have hmem := mem_filter.mp hunit
    rw [decide_eq_true_eq] at hmem
    exact ⟨hgroup unit hmem.1, hmem.2⟩
  unfold Call.Doubles
  refine and_congr_right fun hbefore => ?_
  constructor
  · intro hdoubles
    rcases hdoubles with ⟨units, ⟨hsome, hcharged, hfits⟩, htwice⟩
    rcases chargedUnits_cases hcharged with rfl | ⟨source, compact, honly, hlarge, hcompact, _, rfl⟩
    · -- the group is charged as it is, so it has a passage whose excerpt was included
      rcases htwice with ⟨unit, hunit, hgrounded, excerpt, hexcerpt, hof⟩
      rw [mem_append] at hunit hexcerpt
      rcases hexcerpt with hexcerpt | hexcerpt
      · rcases hunit with hunit | hunit
        · exact absurd ⟨unit, hunit, hgrounded, excerpt, hexcerpt, hof⟩ hbefore
        · refine ⟨?_, hfits, unit, hunit, hgrounded, excerpt,
            (hpacker.excerpt hregular hmandatory hexcerpt hof).1, hof⟩
          by_contra hfew
          have hlength := length_pos_iff.mpr hsome
          rcases length_eq_one_iff.mp (by omega : call.newUnits.length = 1) with ⟨only, honly⟩
          rw [honly, mem_singleton] at hunit
          subst hunit
          rw [honly] at hcharged
          exact hpacker.chargedUnits_ne hregular hmandatory hexcerpt hof
            (hnew unit (honly ▸ mem_cons_self)).1 _ hcharged
      · exact absurd hof (hregular.unnamed excerpt (hnew excerpt hexcerpt).1 _)
    · -- an excerpt is charged, which does not double anything
      have hsource := hnew source (honly ▸ mem_cons_self)
      rcases compactBlockUnit_cases (tooLarge_iff.mp hlarge).1 hcompact with
        ⟨hnone, _⟩ | ⟨same, hsame, _, hnamed, _⟩
      · cases hnone
      · rw [Option.some.injEq] at hsame
        subst hsame
        exact absurd htwice
          (hpacker.compact_alone hregular hmandatory hsource.1 hsource.2 hnamed hbefore)
  · intro hdoubles
    rcases hdoubles with ⟨hseveral, hfits, unit, hunit, hgrounded, excerpt, hexcerpt, hof⟩
    refine ⟨call.newUnits, ⟨ne_nil_of_mem hunit, ?_, hfits⟩, unit,
      mem_append_right _ hunit, hgrounded, excerpt,
      mem_append_left _ (mem_append_right _ hexcerpt), hof⟩
    unfold Packer.chargedUnits
    split
    · rename_i only honly
      rw [honly] at hseveral
      exact absurd hseveral (by simp)
    · rfl

end Supply

section Charges

variable {casefold : String → String} {pairs : List (Stage1MemoryNeed × RetrievalTrace)}
  {root : TextRootDocument} {baseCommit : CommitId} {snapshotId : StableId} {tokenBudget : Int}
  {collection : Collection}

theorem collect_supplied
    (h : collect pairs root baseCommit snapshotId tokenBudget = .ok collection) :
    (∀ unit ∈ collection.mandatory, Supplied pairs root unit) ∧
      ∀ lane ∈ collection.lanes,
        lane.Holds fun group => ∀ unit ∈ group, Supplied pairs root unit := by
  rcases collect_eq_ok h with ⟨hlinked, hmandatory, _, hlanes⟩
  constructor
  · intro unit hunit
    rw [hmandatory] at hunit
    rcases mem_flatMap.mp (mem_of_mem_dedupe hunit) with ⟨item, hitem, hunit⟩
    rcases Linked.exists_left hlinked hitem with ⟨pair, hpair, hitem⟩
    exact ⟨pair, hpair, (contribution_brings hitem).1 unit hunit⟩
  · intro lane hlane group hgroup
    rcases (hlanes lane).mp hlane with ⟨item, hitem, rfl⟩
    rcases Linked.exists_left hlinked hitem with ⟨pair, hpair, hitem⟩
    rcases (contribution_brings hitem).2 group hgroup with ⟨candidate, expansion, hbrings, rfl⟩
    constructor
    · intro unit hunit
      rw [mem_singleton.mp hunit]
      exact ⟨pair, hpair, candidate, expansion, hbrings, mem_cons_self⟩
    · intro unit hunit
      exact ⟨pair, hpair, candidate, expansion, hbrings,
        mem_cons_of_mem _ (mem_of_mem_dedupe hunit)⟩

end Charges

/-- No passage is charged twice exactly if none of the mandatory units is, and no call of
    the run charges one that is there already in the other form. For regular units this
    means that no call has several new units that fit, one of which is a grounded unit
    whose excerpt was included before. -/
theorem passages_charged_once_iff (casefold : String → String)
    (pairs : List (Stage1MemoryNeed × RetrievalTrace)) (root : TextRootDocument)
    (contextId : StableId) (baseCommit : CommitId) (snapshotId : StableId) (taskContract : String)
    (tokenBudget : Int) (compilation : Compilation)
    (h : compile casefold pairs root contextId baseCommit snapshotId taskContract tokenBudget =
      .ok compilation) :
    ∃ log, calls casefold pairs root baseCommit snapshotId tokenBudget = .ok log ∧
      (¬ ChargedTwice compilation.included ↔
        ¬ ChargedTwice compilation.mandatory ∧
          ∀ call ∈ log, ¬ call.Doubles casefold compilation.mandatory) ∧
      (Regular pairs root →
        (¬ ChargedTwice compilation.included ↔ ∀ call ∈ log, ¬ call.GroupDoubles)) := by
  rcases compile_eq_ok h with
    ⟨collection, packer, lanes, hcollection, hpacked, hmandatory, hoptional, _⟩
  have hsupplied := collect_supplied hcollection
  have hempty : collection.packer.selectedOptional = [] := by
    rw [(collect_eq_ok hcollection).2.2.1]
  have hstart : Sourced casefold (Supplied pairs root) collection.mandatory
      (tokenBudget - tokensOf collection.mandatory).toNat collection.packer := by
    refine ⟨collect_balanced hcollection, ?_⟩
    rw [hempty]
    exact fun _ hunit => absurd hunit not_mem_nil
  have hlanes : ∀ lane ∈ collection.lanes, lane.Holds fun group =>
      (group.map RetrievalUnit.unitId).Nodup ∧ ∀ unit ∈ group, Supplied pairs root unit := by
    intro lane hlane group hgroup
    have hdistinct := collect_distinct hcollection lane hlane group hgroup
    have hsupply := hsupplied.2 lane hlane group hgroup
    exact ⟨⟨hdistinct.1, hsupply.1⟩, hdistinct.2, hsupply.2⟩
  rcases @pack_logged _ _ _ collection.mandatory _ _ _ _
    (fun _ _ _ _ _ hfact hgroup hadmits => includeIfFits_sourced hfact hgroup.1 hgroup.2 hadmits)
    hstart hempty hlanes hpacked with ⟨log, hlogged, hlog⟩
  refine ⟨log, ?_, ?_, ?_⟩
  · unfold calls
    simp only [Outcome.bind_eq_ok, Outcome.pure_eq_ok, raising_eq_ok]
    exact ⟨collection, hcollection, _, hlogged, rfl⟩
  · rw [Compilation.included, hmandatory, hoptional, hlog.decides, not_or]
    refine and_congr_right fun _ => ?_
    push Not
    rfl
  · intro hregular
    have hdecides := hlog.decides
    have hmandatoryOnce : ¬ ChargedTwice collection.mandatory := by
      intro htwice
      rcases htwice with ⟨_, _, _, excerpt, hexcerpt, hof⟩
      exact hregular.unnamed excerpt (hsupplied.1 excerpt hexcerpt) _ hof
    rw [or_iff_right hmandatoryOnce] at hdecides
    have hcall : ∀ call ∈ log, call.Doubles casefold collection.mandatory ↔
        ¬ ChargedTwice (collection.mandatory ++ call.packer.selectedOptional) ∧
          call.GroupDoubles := by
      intro call hcall
      have hfact := hlog.calls call hcall
      exact Call.doubles_iff hregular hfact.1 hsupplied.1 hfact.2.1.2
    rw [Compilation.included, hmandatory, hoptional]
    constructor
    · intro honce call hmem hgroup
      apply honce
      by_cases hbefore : ChargedTwice (collection.mandatory ++ call.packer.selectedOptional)
      · refine hbefore.mono ?_
        exact append_subset.mpr ⟨subset_append_left _ _, List.Subset.trans
          (hlog.calls call hmem).2.2 (subset_append_right _ _)⟩
      · exact hdecides.mpr ⟨call, hmem, (hcall call hmem).mpr ⟨hbefore, hgroup⟩⟩
    · intro hclear htwice
      rcases hdecides.mp htwice with ⟨call, hmem, hdoubles⟩
      exact hclear call hmem ((hcall call hmem).mp hdoubles).2

/-- A block that two needs cite is represented by its excerpt for the first one, and
    charged in full for the second one, where its first sentence comes with it. -/
theorem passage_charged_twice : ∃ compilation,
    compile id Sample.ringPairs Sample.longRoot ⟨"context.1", by decide⟩ (digest "commit")
        Sample.ringSnapshot "write" 1000 = .ok compilation ∧
      ChargedTwice compilation.included := by
  rcases Sample.compile_ring with ⟨compilation, hcompile, compact, hincluded, hid⟩
  refine ⟨compilation, hcompile, Sample.wholePassage Sample.secondAnchor, ?_, rfl, compact, ?_, ?_⟩
  · rw [hincluded]
    simp only [mem_cons, true_or, or_true]
  · rw [hincluded]
    simp only [mem_cons, true_or, or_true]
  · unfold IsExcerptOf
    rw [hid]
    rfl

namespace Sample

theorem supplied_ring {unit : RetrievalUnit} (h : Supplied ringPairs longRoot unit) :
    unit ∈ [firstAnchor, wholePassage firstAnchor, secondAnchor, wholePassage secondAnchor,
      sentencePassage secondAnchor] := by
  rcases h with ⟨pair, hpair, candidate, expansion, ⟨hcandidate, _, hexpand⟩, hunit⟩
  unfold ringPairs at hpair
  rw [mem_cons, mem_singleton] at hpair
  rcases hpair with rfl | rfl
  · rw [mem_singleton.mp hcandidate, expand_firstAnchor, Except.ok.injEq] at hexpand
    rw [mem_singleton.mp hcandidate, ← hexpand] at hunit
    exact mem_append_left [secondAnchor, wholePassage secondAnchor,
      sentencePassage secondAnchor] hunit
  · rw [mem_singleton.mp hcandidate, expand_secondAnchor, Except.ok.injEq] at hexpand
    rw [mem_singleton.mp hcandidate, ← hexpand] at hunit
    exact mem_append_right [firstAnchor, wholePassage firstAnchor] hunit

theorem regular_ring : Regular ringPairs longRoot := by
  constructor
  · intro unit hunit rest hnamed
    have hroots : ∀ unit ∈ [firstAnchor, wholePassage firstAnchor, secondAnchor,
        wholePassage secondAnchor, sentencePassage secondAnchor],
          unit.unitId.root.toList.head? ≠ some 'c' := by
      simp only [forall_mem_cons]
      exact ⟨by decide, by decide, by decide, by decide, by decide,
        fun _ hmem => absurd hmem not_mem_nil⟩
    apply hroots unit (supplied_ring hunit)
    rw [hnamed, String.toList_append]
    rfl
  · intro unit other hunit hother hsame
    have hunit := supplied_ring hunit
    have hother := supplied_ring hother
    simp only [mem_cons, not_mem_nil, or_false] at hunit hother
    -- only the whole block has one identity behind both anchors
    rcases hunit with rfl | rfl | rfl | rfl | rfl <;>
      rcases hother with rfl | rfl | rfl | rfl | rfl <;>
        first
          | exact absurd hsame (by decide)
          | exact ⟨rfl, rfl⟩

end Sample

open Sample

/-- In the same compilation, whose units are regular, a call charges a passage in a group
    although its excerpt was included. -/
theorem passages_charged_once_iff_sample : ∃ compilation log,
    compile id ringPairs longRoot ⟨"context.1", by decide⟩ (digest "commit")
        ringSnapshot "write" 1000 = .ok compilation ∧
      calls id ringPairs longRoot (digest "commit") ringSnapshot 1000 =
        .ok log ∧
      (¬ ChargedTwice compilation.included ↔ ¬ ChargedTwice compilation.mandatory ∧
        ∀ call ∈ log, ¬ call.Doubles id compilation.mandatory) ∧
      (¬ ChargedTwice compilation.included ↔ ∀ call ∈ log, ¬ call.GroupDoubles) := by
  rcases compile_ring with ⟨compilation, hcompile, _⟩
  rcases passages_charged_once_iff id ringPairs longRoot ⟨"context.1", by decide⟩
    (digest "commit") ringSnapshot "write" 1000 compilation hcompile with
    ⟨log, hlog, honce, hregular⟩
  exact ⟨compilation, log, hcompile, hlog, honce, hregular regular_ring⟩

end NovelAgent.Pipeline
