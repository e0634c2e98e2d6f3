import Mathlib.Data.Int.ConditionallyCompleteOrder
import Mathlib.Data.List.Perm.Subperm
import Mathlib.Logic.Relation
import Mathlib.Order.ConditionallyCompleteLattice.Basic
import Mathlib.Order.WithBot
import NovelAgent.MemoryWrite.InformationBoundary

/-!
# Derivations Cannot Launder

What an accepted derivation says about everything behind it.
-/

namespace NovelAgent.MemoryWrite

open Core Domain Relation List

/-! ### Checks that passed -/

variable (bad : Prop) (message : String)

theorem refuse_eq_ok [Decidable bad] (u : Unit) : refuse bad message = .ok u ↔ ¬ bad := by
  unfold refuse
  split <;> simp_all

theorem bind_eq_ok {α β : Type} (x : Except BoundaryError α) (f : α → Except BoundaryError β)
    (b : β) : (x >>= f) = .ok b ↔ ∃ a, x = .ok a ∧ f a = .ok b := by
  cases x <;> simp [bind, Except.bind]

variable {α : Type}

theorem forM_eq_ok (f : α → Except BoundaryError Unit) (items : List α) (u : Unit) :
    items.forM f = .ok u ↔ ∀ a ∈ items, f a = .ok () := by
  induction items with
  | nil => simp [pure, Except.pure]
  | cons a items ih =>
    change (f a >>= fun _ => items.forM f) = .ok u ↔ _
    rw [bind_eq_ok, forall_mem_cons, ← ih]
    constructor
    · rintro ⟨_, hfirst, hrest⟩
      exact ⟨hfirst, hrest⟩
    · rintro ⟨hfirst, hrest⟩
      exact ⟨(), hfirst, hrest⟩

namespace BoundaryPort

variable {port : BoundaryPort} {boundary : InformationBoundary}

variable (effective : AccessScope) (parents : List AccessScope)

theorem verifyScope_eq_ok (u : Unit) :
    verifyScope boundary effective parents = .ok u ↔
      ¬ (boundary.evaluatorSourcesForbidden = true ∧ effective = .evaluator) ∧
        ∀ parent ∈ parents, scopeWidth effective ≤ scopeWidth parent := by
  simp only [verifyScope, bind_eq_ok, refuse_eq_ok]
  simp

/-- What the walk has checked of a receipt. -/
structure Checked (port : BoundaryPort) (boundary : InformationBoundary)
    (receipt : BoundaryPropagationReceipt) : Prop where
  boundary_eq : receipt.boundaryId = boundary.boundaryId
  base_eq : receipt.baseCommit = boundary.baseCommit
  trusted : receipt.builderPolicyHash ∈ port.trustedPolicyHashes
  sources : ∀ source ∈ receipt.inputSourceArtifactRefs, ∃ visibility,
    port.visibilityFor boundary source = some visibility ∧
      visibility.boundaryId = boundary.boundaryId ∧
      ¬ (boundary.evaluatorSourcesForbidden = true ∧ visibility.accessScope = .evaluator) ∧
      positionWithin visibility.visibleThrough boundary.maximumVisiblePosition = true ∧
      positionWithin receipt.effectiveVisibleThrough visibility.visibleThrough = true ∧
      scopeWidth receipt.effectiveAccessScope ≤ scopeWidth visibility.accessScope

/-- What it has checked of a receipt and its input. -/
structure Narrows (receipt parent : BoundaryPropagationReceipt) : Prop where
  position : positionWithin receipt.effectiveVisibleThrough parent.effectiveVisibleThrough = true
  scope : scopeWidth receipt.effectiveAccessScope ≤ scopeWidth parent.effectiveAccessScope

theorem verifySource_ok (receipt : BoundaryPropagationReceipt) (source : ArtifactRef) (u : Unit)
    (h : port.verifySource boundary receipt source = .ok u) :
    ∃ visibility, port.visibilityFor boundary source = some visibility ∧
      visibility.boundaryId = boundary.boundaryId ∧
      ¬ (boundary.evaluatorSourcesForbidden = true ∧ visibility.accessScope = .evaluator) ∧
      positionWithin visibility.visibleThrough boundary.maximumVisiblePosition = true ∧
      positionWithin receipt.effectiveVisibleThrough visibility.visibleThrough = true ∧
      scopeWidth receipt.effectiveAccessScope ≤ scopeWidth visibility.accessScope := by
  unfold verifySource at h
  split at h
  · exact absurd h (by simp)
  · rename_i visibility hvisibility
    simp only [bind_eq_ok, refuse_eq_ok, verifyVisibility, if_true, verifyScope_eq_ok] at h
    rcases h with ⟨_, _, _, ⟨_, hboundary, _, hevaluator, _, hcutoff, _, hposition, _, hscope⟩, _⟩
    refine ⟨visibility, hvisibility, not_not.mp hboundary, hevaluator, ?_, ?_, ?_⟩
    · simpa using hcutoff
    · simpa using hposition
    · exact hscope visibility.accessScope mem_cons_self

theorem verifyReceipt_ok (receipt : BoundaryPropagationReceipt) (artifact : ArtifactRef)
    (expected : Option ArtifactId) (u : Unit)
    (h : port.verifyReceipt boundary receipt artifact expected = .ok u) :
    Checked port boundary receipt := by
  simp only [verifyReceipt, bind_eq_ok, refuse_eq_ok, verifyBuilderPolicy, forM_eq_ok] at h
  rcases h with ⟨_, hboundary, _, hbase, _, _, _, _, _, htrusted, _, _, _, _, _, _, _, _, _, _,
    hsources⟩
  exact ⟨not_not.mp hboundary, not_not.mp hbase, not_not.mp htrusted,
    fun source hsource => verifySource_ok receipt source () (hsources source hsource)⟩

theorem verifyNarrows_ok (receipt parent : BoundaryPropagationReceipt) (u : Unit)
    (h : verifyNarrows boundary receipt parent = .ok u) : Narrows receipt parent := by
  simp only [verifyNarrows, bind_eq_ok, refuse_eq_ok, verifyScope_eq_ok] at h
  rcases h with ⟨_, hposition, _, hscope⟩
  exact ⟨by simpa using hposition, hscope _ mem_cons_self⟩

/-! ### Everything behind a receipt -/

/-- One receipt names another as an input. -/
def DerivedFrom (port : BoundaryPort) (receipt parent : BoundaryPropagationReceipt) : Prop :=
  ∃ reference ∈ receipt.inputDerivationReceiptRefs, port.resolveDerivation reference = .ok parent

/-- The receipt itself or one behind it. -/
abbrev Behind (port : BoundaryPort) : BoundaryPropagationReceipt → BoundaryPropagationReceipt → Prop :=
  ReflTransGen (DerivedFrom port)

variable (fuel : Nat)

theorem verifyDerivation_ok (receipt : BoundaryPropagationReceipt) (artifact : ArtifactRef)
    (expected : Option ArtifactId) (visited : List ArtifactId) (u : Unit)
    (h : port.verifyDerivation boundary (fuel + 1) receipt artifact expected visited = .ok u) :
    Checked port boundary receipt ∧ ∀ parent, DerivedFrom port receipt parent →
      Narrows receipt parent ∧
        port.verifyDerivation boundary fuel parent (port.outputRef parent) none
          (receipt.receiptHash :: visited) = .ok () := by
  simp only [verifyDerivation, bind_eq_ok, refuse_eq_ok, forM_eq_ok] at h
  rcases h with ⟨_, _, _, hreceipt, hparents⟩
  refine ⟨verifyReceipt_ok receipt artifact expected _ hreceipt, ?_⟩
  rintro parent ⟨reference, hreference, hresolve⟩
  rcases hparents reference hreference with ⟨parent', hresolve', _, hparent, hnarrows⟩
  obtain rfl : parent = parent' := Except.ok.inj (hresolve.symm.trans hresolve')
  exact ⟨verifyNarrows_ok receipt parent _ hnarrows, hparent⟩

/-- Everything behind an accepted receipt was checked, and so was every edge between two of them.
    The induction is on the fuel, which the walk spends one of for every edge. -/
theorem verifyDerivation_sound :
    ∀ (receipt : BoundaryPropagationReceipt) (artifact : ArtifactRef)
      (expected : Option ArtifactId) (visited : List ArtifactId),
      port.verifyDerivation boundary fuel receipt artifact expected visited = .ok () →
      ∀ behind, Behind port receipt behind →
        Checked port boundary behind ∧ ∀ parent, DerivedFrom port behind parent →
          Narrows behind parent := by
  induction fuel with
  | zero =>
    intro receipt artifact expected visited h
    exact absurd h (by simp [verifyDerivation])
  | succ fuel ih =>
    intro receipt artifact expected visited h behind hbehind
    rcases verifyDerivation_ok fuel receipt artifact expected visited () h with
      ⟨hchecked, hparents⟩
    rcases ReflTransGen.cases_head hbehind with rfl | ⟨parent, hparent, hrest⟩
    · exact ⟨hchecked, fun parent hparent => (hparents parent hparent).1⟩
    · exact ih parent _ _ _ (hparents parent hparent).2 behind hrest

/-! ### The walk ends -/

/-- The hashes that a path of the walk can meet. -/
def hashes (port : BoundaryPort) : List ArtifactId :=
  port.receipts.map BoundaryPropagationReceipt.receiptHash

theorem resolveDerivation_mem (reference : ArtifactRef) (receipt : BoundaryPropagationReceipt)
    (h : port.resolveDerivation reference = .ok receipt) : receipt.receiptHash ∈ port.hashes := by
  have hentry : ∀ (table : Table ArtifactId BoundaryPropagationReceipt) key stored,
      table.lookup key = some stored → stored ∈ table.entries.map Sigma.snd := by
    intro table key stored hlookup
    exact mem_map.mpr ⟨⟨key, stored⟩, AList.mem_lookup_iff.mp hlookup, rfl⟩
  refine mem_map.mpr ⟨receipt, ?_, rfl⟩
  rw [receipts]
  simp only [resolveDerivation, bind_eq_ok] at h
  rcases h with ⟨resolved, hresolved, _, _, hreceipt⟩
  obtain rfl : resolved = receipt := Except.ok.inj hreceipt
  unfold findDerivation at hresolved
  split at hresolved
  · rename_i registered hregistered
    obtain rfl : registered = resolved := Except.ok.inj hresolved
    rcases Option.or_eq_some_iff.mp hregistered with hlookup | ⟨_, hlookup⟩
    · exact mem_append_left _ (hentry _ _ _ hlookup)
    · exact mem_append_left _ (hentry _ _ _ hlookup)
  · simp only [storedDerivation] at hresolved
    split at hresolved
    · exact absurd hresolved (by simp)
    · rename_i reader hreader
      split at hresolved
      · rename_i stored hstored
        split at hresolved
        · obtain rfl : stored = resolved := Except.ok.inj hresolved
          exact mem_append_right _ (hentry _ _ _ hstored)
        · exact absurd hresolved (by simp)
      · exact absurd hresolved (by simp)

/-- The path of a walk: no hash twice, and all of them known. -/
structure IsPath (port : BoundaryPort) (visited : List ArtifactId) : Prop where
  nodup : visited.Nodup
  known : visited ⊆ port.hashes

variable {visited : List ArtifactId}

theorem IsPath.length_le (h : IsPath port visited) : visited.length ≤ port.receipts.length := by
  have hle := (Nodup.subperm h.nodup h.known).length_le
  rwa [hashes, length_map] at hle

theorem IsPath.cons (h : IsPath port visited) {hash : ArtifactId} (hnew : hash ∉ visited)
    (hknown : hash ∈ port.hashes) : IsPath port (hash :: visited) :=
  ⟨nodup_cons.mpr ⟨hnew, h.nodup⟩, cons_subset.mpr ⟨hknown, h.known⟩⟩

theorem forM_congr (f g : α → Except BoundaryError Unit) (items : List α) (h : ∀ a, f a = g a) :
    items.forM f = items.forM g := by
  rw [funext h]

/-- With more steps left than receipts that are not on the path, a walk does
    not depend on how many steps it has. -/
theorem verifyDerivation_eq :
    ∀ (more : Nat) (receipt : BoundaryPropagationReceipt) (artifact : ArtifactRef)
      (expected : Option ArtifactId) (visited : List ArtifactId),
      receipt.receiptHash ∈ port.hashes → IsPath port visited →
      port.receipts.length < fuel + visited.length →
      port.verifyDerivation boundary (fuel + more) receipt artifact expected visited =
        port.verifyDerivation boundary fuel receipt artifact expected visited := by
  induction fuel with
  | zero =>
    intro more receipt artifact expected visited _ hpath hfuel
    have hle := hpath.length_le
    omega
  | succ fuel ih =>
    intro more receipt artifact expected visited hknown hpath hfuel
    rw [show fuel + 1 + more = fuel + more + 1 by omega]
    simp only [verifyDerivation]
    by_cases hcycle : receipt.receiptHash ∈ visited
    · simp [refuse, hcycle, bind, Except.bind]
    · congr 1
      funext _
      congr 1
      funext _
      refine forM_congr _ _ _ ?_
      intro reference
      cases hresolve : port.resolveDerivation reference with
      | error e => rfl
      | ok parent =>
        simp only [bind, Except.bind]
        rw [ih more parent _ _ _ (resolveDerivation_mem reference parent hresolve)
          (hpath.cons hcycle hknown)]
        rw [length_cons]
        omega

/-- An outcome that the source has. -/
def Finishes {α : Type} (outcome : Except BoundaryError α) : Prop :=
  outcome ≠ .error .outOfFuel

theorem finishes_pure (a : α) : Finishes (pure a) := by
  simp [Finishes, pure, Except.pure]

theorem finishes_refuse [Decidable bad] : Finishes (refuse bad message) := by
  unfold Finishes refuse
  split <;> simp

theorem finishes_bind {α β : Type} {x : Except BoundaryError α} {f : α → Except BoundaryError β}
    (hx : Finishes x) (hf : ∀ a, x = .ok a → Finishes (f a)) : Finishes (x >>= f) := by
  cases x with
  | error e => simpa [Finishes, bind, Except.bind] using hx
  | ok a => exact hf a rfl

theorem finishes_forM {f : α → Except BoundaryError Unit} (items : List α)
    (h : ∀ a ∈ items, Finishes (f a)) : Finishes (items.forM f) := by
  induction items with
  | nil => simp [Finishes, pure, Except.pure]
  | cons a items ih =>
    refine finishes_bind (h a mem_cons_self) fun _ _ => ?_
    exact ih fun b hb => h b (mem_cons_of_mem a hb)

theorem finishes_mapM {α β : Type} {f : α → Except BoundaryError β} (items : List α)
    (h : ∀ a, Finishes (f a)) : Finishes (items.mapM f) := by
  induction items with
  | nil => simp [Finishes, pure, Except.pure]
  | cons a items ih =>
    rw [mapM_cons]
    exact finishes_bind (h a) fun _ _ => finishes_bind ih fun _ _ => finishes_pure _

theorem finishes_verifyScope : Finishes (verifyScope boundary effective parents) :=
  finishes_bind (finishes_refuse _ _) fun _ _ => finishes_refuse _ _

theorem finishes_verifyVisibility (visibility : SourceVisibilityReceipt) (scope : AccessScope)
    (position : Option NarrativePosition) (derived : Bool) :
    Finishes (verifyVisibility boundary visibility scope position derived) := by
  refine finishes_bind (finishes_refuse _ _) fun _ _ => ?_
  refine finishes_bind (finishes_refuse _ _) fun _ _ => ?_
  refine finishes_bind (finishes_refuse _ _) fun _ _ => ?_
  refine finishes_bind (finishes_refuse _ _) fun _ _ => ?_
  split
  · exact finishes_verifyScope _ _
  · exact finishes_verifyScope _ _

theorem finishes_verifyArtifactHash (artifact : ArtifactRef) :
    Finishes (port.verifyArtifactHash artifact) := by
  unfold verifyArtifactHash
  split
  · simp [Finishes]
  · exact finishes_bind (finishes_refuse _ _) fun _ _ => finishes_refuse _ _

theorem finishes_verifySource (receipt : BoundaryPropagationReceipt) (source : ArtifactRef) :
    Finishes (port.verifySource boundary receipt source) := by
  unfold verifySource
  split
  · simp [Finishes]
  · exact finishes_bind (finishes_refuse _ _) fun _ _ =>
      finishes_bind (finishes_verifyVisibility _ _ _ _) fun _ _ => finishes_verifyArtifactHash _

theorem finishes_resolveVisibilityReceipt (reference : ArtifactRef) :
    Finishes (port.resolveVisibilityReceipt boundary reference) := by
  unfold resolveVisibilityReceipt
  split
  · simp [Finishes]
  · split
    · simp [Finishes]
    · simp [Finishes]

theorem finishes_verifyReceipt (receipt : BoundaryPropagationReceipt) (artifact : ArtifactRef)
    (expected : Option ArtifactId) :
    Finishes (port.verifyReceipt boundary receipt artifact expected) := by
  refine finishes_bind (finishes_refuse _ _) fun _ _ => ?_
  refine finishes_bind (finishes_refuse _ _) fun _ _ => ?_
  refine finishes_bind (finishes_refuse _ _) fun _ _ => ?_
  refine finishes_bind (finishes_refuse _ _) fun _ _ => ?_
  refine finishes_bind (finishes_refuse _ _) fun _ _ => ?_
  refine finishes_bind (finishes_verifyArtifactHash _) fun _ _ => ?_
  refine finishes_bind (finishes_refuse _ _) fun _ _ => ?_
  refine finishes_bind (finishes_verifyScope _ _) fun _ _ => ?_
  refine finishes_bind (finishes_mapM _ finishes_resolveVisibilityReceipt) fun _ _ => ?_
  refine finishes_bind (finishes_refuse _ _) fun _ _ => ?_
  exact finishes_forM _ fun source _ => finishes_verifySource receipt source

theorem finishes_resolveDerivation (reference : ArtifactRef) :
    Finishes (port.resolveDerivation reference) := by
  refine finishes_bind ?_ fun receipt _ =>
    finishes_bind (finishes_refuse _ _) fun _ _ => finishes_pure receipt
  unfold findDerivation
  split
  · simp [Finishes]
  · unfold storedDerivation
    split
    · simp [Finishes]
    · split
      · split
        · simp [Finishes]
        · simp [Finishes]
      · simp [Finishes]

/-- With more steps left than receipts that are not on the path, a walk does
    not run out of them. -/
theorem verifyDerivation_finishes :
    ∀ (receipt : BoundaryPropagationReceipt) (artifact : ArtifactRef)
      (expected : Option ArtifactId) (visited : List ArtifactId),
      receipt.receiptHash ∈ port.hashes → IsPath port visited →
      port.receipts.length < fuel + visited.length →
      Finishes (port.verifyDerivation boundary fuel receipt artifact expected visited) := by
  induction fuel with
  | zero =>
    intro receipt artifact expected visited _ hpath hfuel
    have hle := hpath.length_le
    omega
  | succ fuel ih =>
    intro receipt artifact expected visited hknown hpath hfuel
    rw [verifyDerivation]
    refine finishes_bind (finishes_refuse _ _) fun _ hcycle => ?_
    rw [refuse_eq_ok] at hcycle
    refine finishes_bind (finishes_verifyReceipt _ _ _) fun _ _ => ?_
    refine finishes_forM _ fun reference _ => ?_
    refine finishes_bind (finishes_resolveDerivation _) fun parent hresolve => ?_
    refine finishes_bind ?_ fun _ _ =>
      finishes_bind (finishes_refuse _ _) fun _ _ => finishes_verifyScope _ _
    refine ih parent _ _ _ (resolveDerivation_mem reference parent hresolve)
      (hpath.cons hcycle hknown) ?_
    rw [length_cons]
    omega

/-! ### How far a derivation reaches -/

/-- How far a position reaches, a missing one without limit. -/
def reach (position : Option NarrativePosition) : WithTop (ℤ ×ₗ ℤ ×ₗ ℤ) :=
  match position with
  | none => ⊤
  | some position => (positionKey position : WithTop (ℤ ×ₗ ℤ ×ₗ ℤ))

/-- The port's comparison is the order, except that it lets a missing position
    pass below one that is given. -/
theorem reach_le_iff (value maximum : Option NarrativePosition) :
    reach value ≤ reach maximum ↔
      positionWithin value maximum = true ∧ (value = none → maximum = none) := by
  cases value with
  | none =>
    cases maximum with
    | none => simp [reach, positionWithin]
    | some maximum => simp [reach, positionWithin]
  | some value =>
    cases maximum with
    | none => simp [reach, positionWithin]
    | some maximum => simp [reach, positionWithin, WithTop.coe_le_coe]

/-- The receipt reaches no further than anything behind it. -/
def KeepsReach (port : BoundaryPort) (boundary : InformationBoundary)
    (receipt : BoundaryPropagationReceipt) : Prop :=
  ∀ behind, Behind port receipt behind →
    reach receipt.effectiveVisibleThrough ≤ reach behind.effectiveVisibleThrough ∧
    ∀ source ∈ behind.inputSourceArtifactRefs, ∀ visibility,
      port.visibilityFor boundary source = some visibility →
      reach receipt.effectiveVisibleThrough ≤ reach visibility.visibleThrough ∧
        reach visibility.visibleThrough ≤ reach boundary.maximumVisiblePosition

/-- A position is missing where something it is compared with has one: the receipt has none but one
    of its inputs has, or a source of it has none but the boundary has. -/
def DropsPosition (port : BoundaryPort) (boundary : InformationBoundary)
    (receipt : BoundaryPropagationReceipt) : Prop :=
  (receipt.effectiveVisibleThrough = none ∧
    ((∃ parent, DerivedFrom port receipt parent ∧ parent.effectiveVisibleThrough ≠ none) ∨
      ∃ source ∈ receipt.inputSourceArtifactRefs, ∃ visibility,
        port.visibilityFor boundary source = some visibility ∧ visibility.visibleThrough ≠ none)) ∨
  (boundary.maximumVisiblePosition ≠ none ∧
    ∃ source ∈ receipt.inputSourceArtifactRefs, ∃ visibility,
      port.visibilityFor boundary source = some visibility ∧ visibility.visibleThrough = none)

variable {receipt : BoundaryPropagationReceipt}

theorem KeepsReach.not_drops (h : KeepsReach port boundary receipt) :
    ¬ DropsPosition port boundary receipt := by
  rintro (⟨hnone, ⟨parent, hparent, hsome⟩ | ⟨source, hsource, visibility, hvisibility, hsome⟩⟩ |
    ⟨hmaximum, source, hsource, visibility, hvisibility, hnone⟩)
  · exact hsome (((reach_le_iff _ _).mp (h parent (.single hparent)).1).2 hnone)
  · exact hsome (((reach_le_iff _ _).mp
      ((h receipt .refl).2 source hsource visibility hvisibility).1).2 hnone)
  · exact hmaximum (((reach_le_iff _ _).mp
      ((h receipt .refl).2 source hsource visibility hvisibility).2).2 hnone)

/-- Where nothing behind a receipt drops a position, the checks of the single
    edges add up along every path. -/
theorem keepsReach_of_not_drops
    (hsound : ∀ behind, Behind port receipt behind → Checked port boundary behind ∧
      ∀ parent, DerivedFrom port behind parent → Narrows behind parent)
    (hkept : ∀ behind, Behind port receipt behind → ¬ DropsPosition port boundary behind) :
    KeepsReach port boundary receipt := by
  have hedge : ∀ behind parent, Behind port receipt behind → DerivedFrom port behind parent →
      reach behind.effectiveVisibleThrough ≤ reach parent.effectiveVisibleThrough := by
    intro behind parent hbehind hparent
    refine (reach_le_iff _ _).mpr ⟨((hsound behind hbehind).2 parent hparent).position, ?_⟩
    intro hnone
    by_contra hsome
    exact hkept behind hbehind (.inl ⟨hnone, .inl ⟨parent, hparent, hsome⟩⟩)
  intro behind hbehind
  have hpath : reach receipt.effectiveVisibleThrough ≤ reach behind.effectiveVisibleThrough := by
    induction hbehind with
    | refl => exact le_refl _
    | tail hprefix hlast ih => exact ih.trans (hedge _ _ hprefix hlast)
  refine ⟨hpath, ?_⟩
  intro source hsource visibility hvisibility
  rcases (hsound behind hbehind).1.sources source hsource with
    ⟨visibility', hvisibility', _, _, hcutoff, hposition, _⟩
  obtain rfl : visibility' = visibility :=
    Option.some.inj (hvisibility'.symm.trans hvisibility)
  constructor
  · refine hpath.trans ((reach_le_iff _ _).mpr ⟨hposition, ?_⟩)
    intro hnone
    by_contra hsome
    exact hkept behind hbehind
      (.inl ⟨hnone, .inr ⟨source, hsource, visibility', hvisibility, hsome⟩⟩)
  · refine (reach_le_iff _ _).mpr ⟨hcutoff, ?_⟩
    intro hnone
    by_contra hmaximum
    exact hkept behind hbehind (.inr ⟨hmaximum, source, hsource, visibility', hvisibility, hnone⟩)

theorem scope_le {receipt behind : BoundaryPropagationReceipt}
    (hsound : ∀ behind, Behind port receipt behind → Checked port boundary behind ∧
      ∀ parent, DerivedFrom port behind parent → Narrows behind parent)
    (hbehind : Behind port receipt behind) :
    scopeWidth receipt.effectiveAccessScope ≤ scopeWidth behind.effectiveAccessScope := by
  induction hbehind with
  | refl => exact Nat.le_refl _
  | tail hprefix hlast ih => exact ih.trans ((hsound _ hprefix).2 _ hlast).scope

/-- An accepting verification is an accepting walk from the receipt it returns. -/
theorem verifyDerivationChain_ok (artifact producerReceipt : ArtifactRef)
    (expected : Option ArtifactId) (receipt : BoundaryPropagationReceipt)
    (h : port.verifyDerivationChain artifact producerReceipt boundary expected = .ok receipt) :
    ∀ behind, Behind port receipt behind → Checked port boundary behind ∧
      ∀ parent, DerivedFrom port behind parent → Narrows behind parent := by
  simp only [verifyDerivationChain, verifyDerivationChainWith, bind_eq_ok] at h
  rcases h with ⟨resolved, _, _, hwalk, hreceipt⟩
  obtain rfl : resolved = receipt := Except.ok.inj hreceipt
  exact verifyDerivation_sound _ resolved artifact expected [] hwalk

/-- A verification ends after at most one step more than there are receipts. When it accepts, every
    receipt behind the accepted one is of the boundary and its base commit and was built under a
    trusted policy, every source behind it has a visibility receipt of the boundary that is not of
    a forbidden scope, and no scope is widened on the way. No receipt that was accepted on the way
    reaches further than anything behind it, and no source further than the boundary, exactly when
    none of them drops a position. -/
theorem no_laundering (port : BoundaryPort) (boundary : InformationBoundary)
    (artifact producerReceipt : ArtifactRef) (expected : Option ArtifactId) :
    (∀ more, port.verifyDerivationChainWith (port.receipts.length + 1 + more) artifact
        producerReceipt boundary expected =
        port.verifyDerivationChain artifact producerReceipt boundary expected) ∧
    port.verifyDerivationChain artifact producerReceipt boundary expected ≠
      .error .outOfFuel ∧
    ∀ receipt, port.verifyDerivationChain artifact producerReceipt boundary expected =
        .ok receipt →
      (∀ behind, Behind port receipt behind →
        behind.boundaryId = boundary.boundaryId ∧ behind.baseCommit = boundary.baseCommit ∧
        behind.builderPolicyHash ∈ port.trustedPolicyHashes ∧
        scopeWidth receipt.effectiveAccessScope ≤ scopeWidth behind.effectiveAccessScope ∧
        ∀ source ∈ behind.inputSourceArtifactRefs, ∃ visibility,
          port.visibilityFor boundary source = some visibility ∧
          visibility.boundaryId = boundary.boundaryId ∧
          ¬ (boundary.evaluatorSourcesForbidden = true ∧ visibility.accessScope = .evaluator) ∧
          scopeWidth receipt.effectiveAccessScope ≤ scopeWidth visibility.accessScope) ∧
      ((∀ behind, Behind port receipt behind → KeepsReach port boundary behind) ↔
        ∀ behind, Behind port receipt behind → ¬ DropsPosition port boundary behind) := by
  have hpath : IsPath port [] := ⟨nodup_nil, nil_subset _⟩
  refine ⟨?_, ?_, ?_⟩
  · intro more
    rw [verifyDerivationChain, verifyDerivationChainWith, verifyDerivationChainWith]
    cases hresolve : port.resolveDerivation producerReceipt with
    | error e => rfl
    | ok receipt =>
      simp only [bind, Except.bind]
      rw [verifyDerivation_eq _ more receipt _ _ _
        (resolveDerivation_mem producerReceipt receipt hresolve) hpath (by simp)]
  · rw [verifyDerivationChain, verifyDerivationChainWith]
    refine finishes_bind (finishes_resolveDerivation _) fun receipt hresolve => ?_
    refine finishes_bind ?_ fun _ _ => finishes_pure receipt
    exact verifyDerivation_finishes _ receipt _ _ _
      (resolveDerivation_mem producerReceipt receipt hresolve) hpath (by simp)
  · intro receipt h
    have hsound := verifyDerivationChain_ok artifact producerReceipt expected receipt h
    refine ⟨?_, ?_, ?_⟩
    · intro behind hbehind
      have hchecked := (hsound behind hbehind).1
      have hscope := scope_le hsound hbehind
      refine ⟨hchecked.boundary_eq, hchecked.base_eq, hchecked.trusted, hscope, ?_⟩
      intro source hsource
      rcases hchecked.sources source hsource with
        ⟨visibility, hvisibility, hboundary, hevaluator, _, _, hwidth⟩
      exact ⟨visibility, hvisibility, hboundary, hevaluator, hscope.trans hwidth⟩
    · intro h behind hbehind
      exact (h behind hbehind).not_drops
    · intro h behind hbehind
      exact keepsReach_of_not_drops
        (fun further hfurther => hsound further (hbehind.trans hfurther))
        (fun further hfurther => h further (hbehind.trans hfurther))

end BoundaryPort

/-! ### A dropped position -/

open BoundaryPort

namespace Sample

def artifact : ArtifactRef := ⟨zeroArtifact, "text/plain", 1, ⟨"0.1.0", .refl true⟩⟩

def boundary : InformationBoundary where
  boundaryId := ⟨"b", .refl true⟩
  baseCommit := zeroArtifact
  revealPosition := none
  maximumVisiblePosition := some ⟨1, none, none⟩
  evaluatorSourcesForbidden := true
  positions := rfl

/-- The contents of the receipt of a source that reaches to the first chapter. -/
def visibilityContents : SourceVisibilityReceipt where
  receiptId := ⟨"v", .refl true⟩
  sourceArtifact := artifact
  boundaryId := ⟨"b", .refl true⟩
  visibleThrough := some ⟨1, none, none⟩
  accessScope := .writerSafe
  provenance := .revealedText
  issuer := ⟨"i", by decide⟩
  receiptHash := zeroArtifact

def sealVisibility (contents : SourceVisibilityReceipt) : SourceVisibilityReceipt :=
  { contents with receiptHash := contents.contentHash }

def sealDerivation (contents : BoundaryPropagationReceipt) : BoundaryPropagationReceipt :=
  { contents with receiptHash := contents.contentHash }

theorem sealDerivation_hash (contents : BoundaryPropagationReceipt) :
    (sealDerivation contents).receiptHash = (sealDerivation contents).contentHash := rfl

def visibility : SourceVisibilityReceipt := sealVisibility visibilityContents

/-- The contents of the receipt of something derived from the source, without a position. -/
def derivedContents : BoundaryPropagationReceipt where
  receiptId := ⟨"d", by decide⟩
  boundaryId := ⟨"b", .refl true⟩
  baseCommit := zeroArtifact
  inputSourceArtifactRefs := [artifact]
  sourceVisibilityReceiptRefs := [{ artifact with artifactId := visibility.receiptHash }]
  inputDerivationReceiptRefs := []
  outputArtifactHash := zeroArtifact
  builderPolicyHash := zeroArtifact
  effectiveVisibleThrough := none
  effectiveAccessScope := .writerSafe
  receiptHash := zeroArtifact
  hasInput := rfl
  uniqueInputs := by simp

def derived : BoundaryPropagationReceipt := sealDerivation derivedContents

def port : BoundaryPort where
  artifactReader := none
  trustedPolicyHashes := [zeroArtifact]
  visibilityBySource := [(.scoped zeroArtifact ⟨"b", .refl true⟩, visibility)]
  derivationByReceipt := AList.insert zeroArtifact derived ∅
  derivationArtifactByOutput := AList.insert zeroArtifact zeroArtifact ∅
  outputRefByArtifact := ∅

theorem port_resolves : port.resolveDerivation artifact = .ok derived := by
  have hfound : port.registeredDerivation artifact = some derived := by
    rw [registeredDerivation, port, artifact, AList.lookup_insert]
    rfl
  have hhash : validateReceiptHash derived = .ok () := by
    rw [validateReceiptHash, refuse_eq_ok, derived]
    exact not_not.mpr (sealDerivation_hash derivedContents)
  rw [resolveDerivation, bind_eq_ok]
  refine ⟨derived, ?_, ?_⟩
  · rw [findDerivation, hfound]
  · rw [hhash]
    rfl

theorem port_covers : port.visibilityFor boundary artifact = some visibility := by
  simp [visibilityFor, BoundaryPort.visibility, port, artifact, boundary]

theorem resolveVisibilityReceipt_first (port : BoundaryPort) (boundary : InformationBoundary)
    (reference : ArtifactRef) (key : VisibilityKey) (first : SourceVisibilityReceipt)
    (rest : List (VisibilityKey × SourceVisibilityReceipt))
    (hport : port.visibilityBySource = (key, first) :: rest)
    (hhash : first.receiptHash = reference.artifactId)
    (hboundary : first.boundaryId = boundary.boundaryId) :
    port.resolveVisibilityReceipt boundary reference = .ok first := by
  simp [resolveVisibilityReceipt, hport, hhash, hboundary]

theorem port_reads : port.resolveVisibilityReceipt boundary
    { artifact with artifactId := visibility.receiptHash } = .ok visibility :=
  resolveVisibilityReceipt_first port boundary _ _ visibility [] rfl rfl rfl

theorem port_verifies_source : port.verifySource boundary derived artifact = .ok () := by
  simp only [verifySource, port_covers]
  simp [verifyVisibility, verifyScope, verifyArtifactHash, refuse, port, visibility,
    sealVisibility, visibilityContents, derived, sealDerivation, derivedContents, boundary,
    positionWithin, bind, Except.bind]

theorem port_verifies : port.verifyReceipt boundary derived artifact none = .ok () := by
  simp only [verifyReceipt, bind_eq_ok, refuse_eq_ok, verifyBuilderPolicy, verifyScope_eq_ok,
    forM_eq_ok]
  refine ⟨(), ?_, (), ?_, (), ?_, (), ?_, (), ?_, (), rfl, (), ?_, (), ?_, [visibility], ?_, (),
    ?_, ?_⟩
  · simp [derived, sealDerivation, derivedContents, boundary]
  · simp [derived, sealDerivation, derivedContents, boundary]
  · simp [derived, sealDerivation, derivedContents, artifact]
  · simp
  · simp [derived, sealDerivation, derivedContents, port]
  · simp [derived, sealDerivation, derivedContents, positionWithin]
  · simp [derived, sealDerivation, derivedContents]
  · rw [derived, sealDerivation, derivedContents, mapM_cons, port_reads]
    rfl
  · simp [sameArtifacts, derived, sealDerivation, derivedContents, visibility, sealVisibility,
      visibilityContents]
  · intro source hmem
    obtain rfl : source = artifact := by
      simpa [derived, sealDerivation, derivedContents] using hmem
    exact port_verifies_source

theorem port_accepts :
    port.verifyDerivationChain artifact artifact boundary none = .ok derived := by
  simp only [verifyDerivationChain, verifyDerivationChainWith, bind_eq_ok, port_resolves]
  refine ⟨derived, rfl, (), ?_, rfl⟩
  simp only [verifyDerivation, bind_eq_ok, refuse_eq_ok, port_verifies]
  exact ⟨(), by simp, (), trivial, rfl⟩

end Sample

/-- A source that reaches to the first chapter is derived from without a
    position, and the derivation is accepted. -/
theorem position_laundered :
    ¬ ∀ (port : BoundaryPort) (boundary : InformationBoundary) (artifact producer : ArtifactRef)
      (expected : Option ArtifactId) (receipt : BoundaryPropagationReceipt),
      port.verifyDerivationChain artifact producer boundary expected = .ok receipt →
      KeepsReach port boundary receipt := by
  intro h
  have hkeeps := h Sample.port Sample.boundary Sample.artifact Sample.artifact none Sample.derived
    Sample.port_accepts Sample.derived .refl
  have hmem : Sample.artifact ∈ Sample.derived.inputSourceArtifactRefs := by
    simp [Sample.derived, Sample.sealDerivation, Sample.derivedContents]
  have hle := (hkeeps.2 Sample.artifact hmem Sample.visibility Sample.port_covers).1
  have hnone := ((reach_le_iff _ _).mp hle).2
  simp [Sample.derived, Sample.sealDerivation, Sample.derivedContents, Sample.visibility,
    Sample.sealVisibility, Sample.visibilityContents] at hnone

end NovelAgent.MemoryWrite
