import NovelAgent.Core.Rounds
import NovelAgent.Pipeline.Units

/-!
# Packing Passes

How the optional groups of several needs compete for a place in a context, in four
passes. Each need has a lane with its groups and with the places up to which two of
the passes have come. The passes ask one operation to admit a group, and one
question, whether a unit is included. They do not care what the state is.
-/

namespace NovelAgent.Pipeline

open Core Domain

open Retrieval (Stage1MemoryNeed)

/-- What a compilation raises. That the passes do not end is told from the rest. -/
inductive CompileError
  | raised (message : String)
  | unfinished
deriving DecidableEq

/-- The optional groups of a need, each with its expansions, and how far the passes have come. -/
structure Lane where
  need : Stage1MemoryNeed
  groups : List (RetrievalUnit × List RetrievalUnit)
  hasRequired : Bool
  nextGroup : Nat
  groundedOffset : Nat

/-- What the passes ask for: to admit a group for a need, and whether a unit is included. -/
structure Admission (σ : Type) where
  admits : σ → Stage1MemoryNeed → List RetrievalUnit → Except CompileError (σ × Bool)
  includes : σ → StableId → Bool

section Passes

variable {σ : Type} (admission : Admission σ)

/-- The first group of a need without a required one gets a chance. Whether it was
    admitted is noted by the source, and never read. -/
def firstOpportunity (s : σ) (lane : Lane) : Except CompileError (σ × Lane) :=
  match lane.groups with
  | [] => .ok (s, lane)
  | group :: _ =>
    if lane.hasRequired then .ok (s, lane)
    else do
      let admitted ← admission.admits s lane.need [group.1]
      pure (admitted.1, { lane with nextGroup := 1 })

/-- The place of the next group that is text itself and not included. -/
def groundedPlace (s : σ) (lane : Lane) : Nat :=
  lane.groundedOffset + ((lane.groups.drop lane.groundedOffset).takeWhile fun group =>
    admission.includes s group.1.unitId || !group.1.isGrounded).length

/-- One grounded group of a lane gets a chance. -/
def groundedTurn (s : σ) (lane : Lane) : Except CompileError (σ × Lane) :=
  let offset := groundedPlace admission s lane
  match lane.groups[offset]? with
  | none => .ok (s, { lane with groundedOffset := offset })
  | some group => do
      let admitted ← admission.admits s lane.need [group.1]
      pure (admitted.1, { lane with groundedOffset := offset + 1 })

/-- The expansions of a first group that had its chance in the first pass and is included. -/
def expandFirst (s : σ) (lane : Lane) : Except CompileError (σ × Lane) :=
  match lane.groups with
  | [] => .ok (s, lane)
  | group :: _ =>
    if lane.nextGroup = 1 ∧ admission.includes s group.1.unitId = true then do
      let admitted ← admission.admits s lane.need group.2
      pure (admitted.1, lane)
    else .ok (s, lane)

/-- The expansions of a group follow it if it was admitted. -/
def followUp (admitted : σ × Bool) (need : Stage1MemoryNeed) (expansions : List RetrievalUnit) :
    Except CompileError (σ × Bool) :=
  if admitted.2 then admission.admits admitted.1 need expansions else .ok admitted

/-- The next group of a lane gets a chance, and its expansions after it. -/
def tailTurn (s : σ) (lane : Lane) : Except CompileError (σ × Lane) :=
  match lane.groups[lane.nextGroup]? with
  | none => .ok (s, lane)
  | some group => do
      let admitted ← admission.admits s lane.need [group.1]
      let expanded ← followUp admission admitted lane.need group.2
      pure (expanded.1, { lane with nextGroup := lane.nextGroup + 1 })

def Lane.groundedLeft (lane : Lane) : Bool := lane.groundedOffset < lane.groups.length

def Lane.groupsLeft (lane : Lane) : Bool := lane.nextGroup < lane.groups.length

/-- How many groups lanes have. -/
def groupCount (lanes : List Lane) : Nat := (lanes.map fun lane => lane.groups.length).sum

/-- The four passes over the lanes in their packing order. The source's last round of
    the grounded pass, in which no lane moves, does nothing and is left out. -/
def pack (s : σ) (lanes : List Lane) : Except CompileError (σ × List Lane) := do
  let first ← turns (firstOpportunity admission) s lanes
  let grounded ← rounds (groundedTurn admission) Lane.groundedLeft .unfinished
    (groupCount first.2) first.1 first.2
  let expanded ← turns (expandFirst admission) grounded.1 grounded.2
  rounds (tailTurn admission) Lane.groupsLeft .unfinished
    (groupCount expanded.2) expanded.1 expanded.2

end Passes

section Kept

variable {σ τ : Type} {admission : Admission σ} {admission' : Admission τ} {R : σ → τ → Prop}
  {P : List RetrievalUnit → Prop}

/-- The groups of a lane, and their expansions, have a property. -/
def Lane.Holds (P : List RetrievalUnit → Prop) (lane : Lane) : Prop :=
  ∀ group ∈ lane.groups, P [group.1] ∧ P group.2

/-- Related states stay related when a group with the property is admitted, and
    include the same units. -/
structure Kept (admission : Admission σ) (admission' : Admission τ) (R : σ → τ → Prop)
    (P : List RetrievalUnit → Prop) : Prop where
  admits : ∀ s t need group, R s t → P group →
    Related R (fun _ => True) (admission.admits s need group) (admission'.admits t need group)
  includes : ∀ s t id, R s t → admission.includes s id = admission'.includes t id

section

variable (hkept : Kept admission admission' R P) (s : σ) (t : τ) (lane : Lane) (h : R s t)
    (hlane : lane.Holds P)

include hkept s t lane h hlane

theorem firstOpportunity_related :
    Related R (Lane.Holds P) (firstOpportunity admission s lane)
      (firstOpportunity admission' t lane) := by
  unfold firstOpportunity
  cases hgroups : lane.groups with
  | nil => exact Related.ok h hlane
  | cons group rest =>
    have hgroup := hlane group (hgroups ▸ List.mem_cons_self)
    by_cases hrequired : lane.hasRequired = true
    · simp only [if_pos hrequired]
      exact Related.ok h hlane
    · simp only [if_neg hrequired]
      refine (hkept.admits s t lane.need [group.1] h hgroup.1).bind ?_
      intro s' t' _ h' _
      exact Related.ok h' fun other hother => hlane other (hgroups ▸ hother)

theorem groundedTurn_related :
    Related R (Lane.Holds P) (groundedTurn admission s lane)
      (groundedTurn admission' t lane) := by
  have hplace : groundedPlace admission' t lane = groundedPlace admission s lane := by
    unfold groundedPlace
    simp only [hkept.includes s t _ h]
  unfold groundedTurn
  rw [hplace]
  simp only
  cases hgroup : lane.groups[groundedPlace admission s lane]? with
  | none => exact Related.ok h hlane
  | some group =>
    have hholds := hlane group (List.mem_of_getElem? hgroup)
    refine (hkept.admits s t lane.need [group.1] h hholds.1).bind ?_
    intro s' t' _ h' _
    exact Related.ok h' hlane

theorem expandFirst_related :
    Related R (Lane.Holds P) (expandFirst admission s lane) (expandFirst admission' t lane) := by
  unfold expandFirst
  cases hgroups : lane.groups with
  | nil => exact Related.ok h hlane
  | cons group rest =>
    have hgroup := hlane group (hgroups ▸ List.mem_cons_self)
    simp only [hkept.includes s t _ h]
    by_cases hfirst : lane.nextGroup = 1 ∧ admission'.includes t group.1.unitId = true
    · rw [if_pos hfirst, if_pos hfirst]
      refine (hkept.admits s t lane.need group.2 h hgroup.2).bind ?_
      intro s' t' _ h' _
      exact Related.ok h' hlane
    · rw [if_neg hfirst, if_neg hfirst]
      exact Related.ok h hlane

theorem tailTurn_related :
    Related R (Lane.Holds P) (tailTurn admission s lane) (tailTurn admission' t lane) := by
  unfold tailTurn
  cases hgroup : lane.groups[lane.nextGroup]? with
  | none => exact Related.ok h hlane
  | some group =>
    have hholds := hlane group (List.mem_of_getElem? hgroup)
    refine (hkept.admits s t lane.need [group.1] h hholds.1).bind ?_
    intro s₁ t₁ admitted h₁ _
    have hexpanded : Related R (fun _ => True)
        (followUp admission (s₁, admitted) lane.need group.2)
        (followUp admission' (t₁, admitted) lane.need group.2) := by
      unfold followUp
      by_cases hadmitted : admitted = true
      · rw [if_pos hadmitted, if_pos hadmitted]
        exact hkept.admits s₁ t₁ lane.need group.2 h₁ hholds.2
      · rw [if_neg hadmitted, if_neg hadmitted]
        exact Related.ok h₁ trivial
    refine hexpanded.bind ?_
    intro s₂ t₂ _ h₂ _
    exact Related.ok h₂ hlane

end

/-- The passes keep what every admission of a group with the property keeps, if the
    groups of the lanes have it. -/
theorem pack_related (hkept : Kept admission admission' R P) {s : σ} {t : τ} {lanes : List Lane}
    (h : R s t) (hlanes : ∀ lane ∈ lanes, lane.Holds P) :
    Related R (fun results => ∀ lane ∈ results, lane.Holds P) (pack admission s lanes)
      (pack admission' t lanes) := by
  unfold pack
  refine (turns_related (firstOpportunity_related hkept) h hlanes).bind ?_
  intro s₁ t₁ lanes₁ h₁ hlanes₁
  refine (rounds_related (groundedTurn_related hkept) _ h₁ hlanes₁).bind ?_
  intro s₂ t₂ lanes₂ h₂ hlanes₂
  refine (turns_related (expandFirst_related hkept) h₂ hlanes₂).bind ?_
  intro s₃ t₃ lanes₃ h₃ hlanes₃
  exact rounds_related (tailTurn_related hkept) _ h₃ hlanes₃

end Kept

section Ends

variable {σ : Type} {admission : Admission σ}

theorem groundedTurn_moves (s : σ) (lane : Lane) (s' : σ) (lane' : Lane)
    (h : groundedTurn admission s lane = .ok (s', lane')) :
    lane'.groups.length - lane'.groundedOffset ≤ lane.groups.length - lane.groundedOffset ∧
      (lane.groundedLeft = true → lane'.groups.length - lane'.groundedOffset <
        lane.groups.length - lane.groundedOffset) := by
  have hplace : lane.groundedOffset ≤ groundedPlace admission s lane := Nat.le_add_right _ _
  unfold groundedTurn at h
  simp only at h
  cases hgroup : lane.groups[groundedPlace admission s lane]? with
  | none =>
    simp only [hgroup] at h
    rw [Except.ok.injEq, Prod.mk.injEq] at h
    have hend := List.getElem?_eq_none_iff.mp hgroup
    rw [← h.2]
    unfold Lane.groundedLeft
    simp only [decide_eq_true_eq]
    omega
  | some group =>
    simp only [hgroup, Outcome.bind_eq_ok, Outcome.pure_eq_ok, Prod.mk.injEq] at h
    rcases h with ⟨_, _, _, hlane⟩
    rw [← hlane]
    unfold Lane.groundedLeft
    simp only [decide_eq_true_eq]
    omega

theorem tailTurn_moves (s : σ) (lane : Lane) (s' : σ) (lane' : Lane)
    (h : tailTurn admission s lane = .ok (s', lane')) :
    lane'.groups.length - lane'.nextGroup ≤ lane.groups.length - lane.nextGroup ∧
      (lane.groupsLeft = true → lane'.groups.length - lane'.nextGroup <
        lane.groups.length - lane.nextGroup) := by
  unfold tailTurn at h
  unfold Lane.groupsLeft
  simp only [decide_eq_true_eq]
  cases hgroup : lane.groups[lane.nextGroup]? with
  | none =>
    simp only [hgroup] at h
    rw [Except.ok.injEq, Prod.mk.injEq] at h
    have hend := List.getElem?_eq_none_iff.mp hgroup
    rw [← h.2]
    omega
  | some group =>
    simp only [hgroup, Outcome.bind_eq_ok, Outcome.pure_eq_ok, Prod.mk.injEq] at h
    rcases h with ⟨_, _, _, _, _, hlane⟩
    rw [← hlane]
    simp only
    omega

theorem sum_left_le (place : Lane → Nat) (lanes : List Lane) :
    (lanes.map fun lane => lane.groups.length - place lane).sum ≤ groupCount lanes := by
  induction lanes with
  | nil => exact Nat.zero_le _
  | cons lane lanes ih =>
    unfold groupCount at ih ⊢
    simp only [List.map_cons, List.sum_cons]
    omega

variable (hadmits : ∀ s need group, admission.admits s need group ≠ .error .unfinished)
include hadmits

theorem groundedTurn_raises (s : σ) (lane : Lane) :
    groundedTurn admission s lane ≠ .error .unfinished := by
  intro h
  unfold groundedTurn at h
  simp only at h
  cases hgroup : lane.groups[groundedPlace admission s lane]? with
  | none =>
    simp only [hgroup] at h
    cases h
  | some group =>
    simp only [hgroup, Outcome.bind_eq_error] at h
    rcases h with h | ⟨_, _, h⟩
    · exact hadmits _ _ _ h
    · cases h

theorem tailTurn_raises (s : σ) (lane : Lane) :
    tailTurn admission s lane ≠ .error .unfinished := by
  intro h
  unfold tailTurn at h
  cases hgroup : lane.groups[lane.nextGroup]? with
  | none =>
    simp only [hgroup] at h
    cases h
  | some group =>
    simp only [hgroup, Outcome.bind_eq_error] at h
    rcases h with h | ⟨admitted, _, h | ⟨_, _, h⟩⟩
    · exact hadmits _ _ _ h
    · unfold followUp at h
      split_ifs at h
      exact hadmits _ _ _ h
    · cases h

theorem firstOpportunity_raises (s : σ) (lane : Lane) :
    firstOpportunity admission s lane ≠ .error .unfinished := by
  intro h
  unfold firstOpportunity at h
  cases hgroups : lane.groups with
  | nil =>
    simp only [hgroups] at h
    cases h
  | cons group rest =>
    simp only [hgroups] at h
    split_ifs at h
    simp only [Outcome.bind_eq_error] at h
    rcases h with h | ⟨_, _, h⟩
    · exact hadmits _ _ _ h
    · cases h

theorem expandFirst_raises (s : σ) (lane : Lane) :
    expandFirst admission s lane ≠ .error .unfinished := by
  intro h
  unfold expandFirst at h
  cases hgroups : lane.groups with
  | nil =>
    simp only [hgroups] at h
    cases h
  | cons group rest =>
    simp only [hgroups] at h
    split_ifs at h
    simp only [Outcome.bind_eq_error] at h
    rcases h with h | ⟨_, _, h⟩
    · exact hadmits _ _ _ h
    · cases h

/-- The passes end: rounds are taken as long as a lane has groups left, and each of
    them moves it. -/
theorem pack_end (s : σ) (lanes : List Lane) : pack admission s lanes ≠ .error .unfinished := by
  intro h
  unfold pack at h
  simp only [Outcome.bind_eq_error] at h
  rcases h with h | ⟨first, _, h | ⟨grounded, _, h | ⟨expanded, _, h⟩⟩⟩
  · rcases turns_error h with ⟨s', lane, h⟩
    exact firstOpportunity_raises hadmits s' lane h
  · refine rounds_end groundedTurn_moves ?_ (groundedTurn_raises hadmits) _
      (sum_left_le Lane.groundedOffset first.2) h
    intro lane hleft
    unfold Lane.groundedLeft at hleft
    rw [decide_eq_true_eq] at hleft
    omega
  · rcases turns_error h with ⟨s', lane, h⟩
    exact expandFirst_raises hadmits s' lane h
  · refine rounds_end tailTurn_moves ?_ (tailTurn_raises hadmits) _
      (sum_left_le Lane.nextGroup expanded.2) h
    intro lane hleft
    unfold Lane.groupsLeft at hleft
    rw [decide_eq_true_eq] at hleft
    omega

end Ends

end NovelAgent.Pipeline
