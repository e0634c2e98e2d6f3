import Mathlib.Data.List.Chain
import NovelAgent.World.Verdict

/-!
# The Life of an Obligation

What a chain of passed bundles makes of an obligation.
-/

namespace NovelAgent.World

open Core Domain List

/-- One world follows another by a passed bundle. -/
def Validated (canonical proposed : WorldRootDocument) : Prop :=
  ∃ policy bundle root canonicalCommit now,
    (validate policy bundle canonical proposed root canonicalCommit now).status = .passed

/-- The status of an obligation in a world. -/
def obligationStatus (id : StableId) (world : WorldRootDocument) : Option ObligationStatus :=
  (world.find .obligation id).map PlanObligation.status

/-- A status that may be found after another. -/
def MayFollow (old new : ObligationStatus) : Prop :=
  new = old ∨ new ∈ obligationTransitions old

/-- A status that nothing follows. -/
def Settled (status : ObligationStatus) : Prop :=
  status = .resolved ∨ status = .abandoned

variable {old new : ObligationStatus}

theorem MayFollow.eq_of_settled (h : MayFollow old new) (hsettled : Settled old) : new = old := by
  rcases h with hsame | hmoved
  · exact hsame
  · rcases hsettled with rfl | rfl
    · exact absurd hmoved (by simp [obligationTransitions])
    · exact absurd hmoved (by simp [obligationTransitions])

variable {id : StableId}

theorem obligationStatus_some {world : WorldRootDocument} {status : ObligationStatus}
    (h : obligationStatus id world = some status) :
    ∃ obligation ∈ world.records .obligation,
      obligation.obligationId = id ∧ obligation.status = status := by
  rcases Option.map_eq_some_iff.mp h with ⟨obligation, hfound, hstatus⟩
  have hid : WorldRecordKind.obligation.identity obligation = id := by
    simpa using List.find?_some hfound
  exact ⟨obligation, mem_of_find?_eq_some hfound, hid, hstatus⟩

/-- One passed bundle keeps the status of an obligation that stands in both
    worlds, or moves it along the table. -/
theorem validated_step {canonical proposed : WorldRootDocument} (h : Validated canonical proposed)
    (hold : obligationStatus id canonical = some old)
    (hnew : obligationStatus id proposed = some new) : MayFollow old new := by
  rcases h with ⟨policy, bundle, root, canonicalCommit, now, hpassed⟩
  rcases obligationStatus_some hold with ⟨before, hbefore, hidBefore, rfl⟩
  rcases obligationStatus_some hnew with ⟨after, hafter, hidAfter, rfl⟩
  exact passed_obligation hpassed hbefore hafter (hidAfter.trans hidBefore.symm)

/-- The statuses along a chain in which the obligation always stands. The
    induction is on the worlds; each step needs the two worlds at its ends. -/
theorem chain_statuses {worlds : List WorldRootDocument} (hchain : worlds.IsChain Validated)
    (hstands : ∀ world ∈ worlds, obligationStatus id world ≠ none) :
    (worlds.filterMap (obligationStatus id)).length = worlds.length ∧
      (worlds.filterMap (obligationStatus id)).IsChain MayFollow := by
  induction worlds with
  | nil => exact ⟨rfl, .nil⟩
  | cons world rest ih =>
    rcases Option.ne_none_iff_exists'.mp (hstands world (mem_cons_self ..)) with
      ⟨status, hstatus⟩
    have hrest : ∀ world ∈ rest, obligationStatus id world ≠ none := fun world hworld =>
      hstands world (mem_cons_of_mem _ hworld)
    rcases ih hchain.tail hrest with ⟨hlength, hstatuses⟩
    rw [filterMap_cons_some hstatus]
    refine ⟨congrArg (· + 1) hlength, ?_⟩
    cases rest with
    | nil => exact .singleton _
    | cons next rest =>
      rcases Option.ne_none_iff_exists'.mp (hrest next (mem_cons_self ..)) with
        ⟨status', hstatus'⟩
      rw [filterMap_cons_some hstatus'] at hstatuses ⊢
      rw [isChain_cons_cons] at hchain
      exact isChain_cons_cons.mpr
        ⟨validated_step hchain.1 hstatus hstatus', hstatuses⟩

theorem settled_stays {statuses : List ObligationStatus} (h : statuses.IsChain MayFollow) :
    statuses.Pairwise fun old new => Settled old → new = old := by
  -- Staying settled is transitive, so it carries from neighbours to all pairs.
  have hneighbours : statuses.IsChain fun old new => Settled old → new = old :=
    h.imp fun _ _ hfollow hsettled => hfollow.eq_of_settled hsettled
  have htrans : IsTrans ObligationStatus fun old new => Settled old → new = old := by
    refine ⟨fun a b c hab hbc ha => ?_⟩
    have hb := hab ha
    rw [hbc (hb ▸ ha), hb]
  exact hneighbours.pairwise

/-- Along any chain of passed bundles, while an obligation stands its status only moves along the
    table, and once it is resolved or abandoned it does not move again. -/
theorem obligation_lifecycle (earlier worlds later : List WorldRootDocument)
    (hchain : (earlier ++ worlds ++ later).IsChain Validated) (id : StableId)
    (hstands : ∀ world ∈ worlds, obligationStatus id world ≠ none) :
    (worlds.filterMap (obligationStatus id)).length = worlds.length ∧
    (worlds.filterMap (obligationStatus id)).IsChain MayFollow ∧
    (worlds.filterMap (obligationStatus id)).Pairwise fun old new => Settled old → new = old := by
  have hworlds : worlds.IsChain Validated := hchain.left_of_append.right_of_append
  rcases chain_statuses hworlds hstands with ⟨hlength, hstatuses⟩
  exact ⟨hlength, hstatuses, settled_stays hstatuses⟩

/-- A promise that is kept at once. -/
theorem obligation_lifecycle_promise :
    let worlds := [Sample.promiseWorld .open, Sample.promiseWorld .resolved]
    (∀ world ∈ worlds, obligationStatus ⟨"obligation.promise", by decide⟩ world ≠ none) ∧
    (worlds.filterMap (obligationStatus ⟨"obligation.promise", by decide⟩)).IsChain MayFollow := by
  have hstands : ∀ world ∈ [Sample.promiseWorld .open, Sample.promiseWorld .resolved],
      obligationStatus ⟨"obligation.promise", by decide⟩ world ≠ none := by
    simp only [forall_mem_cons]
    exact ⟨by decide, by decide, fun _ h => absurd h not_mem_nil⟩
  have hchain : [Sample.promiseWorld .open, Sample.promiseWorld .resolved].IsChain Validated :=
    isChain_cons_cons.mpr ⟨⟨_, _, _, _, _, Sample.promise_resolved⟩, .singleton _⟩
  exact ⟨hstands, (obligation_lifecycle [] _ [] (by simpa using hchain) _ hstands).2.1⟩

/-- A status does not only move to progress and from there on: an open
    obligation may be resolved at once. -/
theorem obligation_skips_progress :
    ¬ ∀ canonical proposed, Validated canonical proposed → ∀ id old new,
      obligationStatus id canonical = some old → obligationStatus id proposed = some new →
      new = old ∨ (old = .open ∧ new = .progressed) ∨
        (old = .progressed ∧ (new = .resolved ∨ new = .abandoned)) := by
  intro h
  have hpromise := h (Sample.promiseWorld .open) (Sample.promiseWorld .resolved)
    ⟨_, _, _, _, _, Sample.promise_resolved⟩ ⟨"obligation.promise", by decide⟩ .open .resolved
    (by decide) (by decide)
  simp at hpromise

end NovelAgent.World
