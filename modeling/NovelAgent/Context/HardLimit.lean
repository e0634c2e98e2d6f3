import NovelAgent.Context.CompactionSafety

/-!
# The Hard Limit

When a hard compaction that gives up had nothing left to try.
-/

namespace NovelAgent.Context

open Core Domain

namespace Compactor

variable (compactor : Compactor)

/-- The compaction of a view gets as far as the stripped view would: there is no
    summary function, the first phase is enough, the stripped view does not fit
    either, or there is a summary, and the view fits with it. -/
def Exhausts (view : AgentContextView) (limit : Int) : Prop :=
  compactor.summary = none ∨ compactor.size (compactor.heldBack view) ≤ limit ∨
    limit < compactor.size (stripped view) ∨
    ∃ summarizer content, compactor.summary = some summarizer ∧
      content.text = summaryText summarizer (removableGroups (compactor.heldBack view)).flatten ∧
      ¬ Text.isBlank content.text = true ∧
      ∀ itemId, summaryId view = .ok itemId →
        compactor.size (compactor.summarized view itemId content) ≤ limit

variable {compactor} {view : AgentContextView}

theorem size_without (hcounts : CountsParts compactor.countTokens) (view : AgentContextView)
    (removed : List StableId) : compactor.size (without view removed) ≤ compactor.size view :=
  hcounts _ _ (shown_without view removed)

/-- Where the first phase cannot do it, no part of it can. -/
theorem large_of_heldBack (hcounts : CountsParts compactor.countTokens) {limit : Int}
    (h : limit < compactor.size (compactor.heldBack view)) : limit < compactor.size view ∧
      ∀ n, limit < compactor.size
        (without view (ids ((compactor.extractiveGroups view).take n).flatten)) := by
  have hsplit : ∀ n, compactor.heldBack view =
      without (without view (ids ((compactor.extractiveGroups view).take n).flatten))
        (ids ((compactor.extractiveGroups view).drop n).flatten) := by
    intro n
    unfold heldBack
    rw [without_without, ← ids_append, ← List.flatten_append, List.take_append_drop]
  refine ⟨lt_of_lt_of_le h (size_without hcounts view _), fun n => ?_⟩
  rw [hsplit n] at h
  exact lt_of_lt_of_le h (size_without hcounts _ _)

theorem heldBack_of_none (h : compactor.summary = none) (view : AgentContextView) :
    compactor.heldBack view = stripped view := by
  unfold heldBack extractiveGroups stripped
  rw [h]
  rfl

theorem size_stripped_of_nil (compactor : Compactor) (h : removableGroups view = []) :
    compactor.size (stripped view) = compactor.size (compactor.heldBack view) := by
  unfold stripped heldBack
  rw [h, extractiveGroups_of_nil h]

theorem heldBack_large {target : Int} {candidate : AgentContextView}
    {removed : List ContextViewItem} (hview : target < compactor.size view)
    (h : compactor.reduce view target = .ok (candidate, removed))
    (hlarge : target < compactor.size candidate) :
    target < compactor.size (compactor.heldBack view) := by
  have hfirst := compactor.extract_cases (compactor.extractiveGroups view) hview
  rcases hextract : compactor.extract target view (compactor.extractiveGroups view) with
    ⟨rest, taken⟩
  simp only [hextract] at hfirst
  rcases hfirst with ⟨_, _, _, hfits⟩ | ⟨hrest, hrestLarge, _⟩
  · -- What fits after the first phase is the candidate.
    simp only [reduce, hextract, summarize] at h
    cases hsummary : compactor.summary with
    | none =>
      simp only [hsummary, Except.ok.injEq, Prod.mk.injEq] at h
      rw [h.1] at hfits
      omega
    | some summarizer =>
      simp only [hsummary] at h
      rw [if_pos (Or.inl hfits)] at h
      simp only [Except.ok.injEq, Prod.mk.injEq] at h
      rw [h.1] at hfits
      omega
  · have hsame : compactor.size rest = compactor.size rest.bare := rfl
    rw [hsame, hrest] at hrestLarge
    exact hrestLarge

/-- A hard compaction that raises the limit error leaves nothing to try exactly
    when it exhausts the view. -/
theorem hard_limit_iff (compactor : Compactor) (hcounts : CountsParts compactor.countTokens)
    (view : AgentContextView) (hvalid : view.Valid) (policy : ContextWindowPolicy)
    (artifacts : Artifacts) :
    ((∃ message, (compactor.compact view policy true artifacts).1 = .error (.limit message)) →
      policy.hardLimitTokens < compactor.size (stripped view)) ↔
    compactor.Exhausts view policy.hardLimitTokens := by
  have hunique := nodup_removableItems hvalid.unique
  have hcapacity : 1 ≤ policy.hardLimitTokens := policy.capacity.2
  have hraises := compactor.compact_limit_iff view policy true artifacts
  have htarget : policy.target true = policy.hardLimitTokens := rfl
  rw [htarget] at hraises
  constructor
  · intro hclaim
    by_contra hnot
    unfold Exhausts at hnot
    push Not at hnot
    rcases hnot with ⟨hsome, hheld, hstripped, hsummaries⟩
    rcases large_of_heldBack hcounts hheld with ⟨hview, hcuts⟩
    have hgiveUp : ∀ candidate removed,
        compactor.reduce view policy.hardLimitTokens = .ok (candidate, removed) →
        compactor.size candidate ≤ policy.hardLimitTokens := by
      intro candidate removed hreduce
      by_contra hlarge
      have hlimit := hclaim (hraises.mpr ⟨rfl, by omega, hview, candidate, removed, hreduce,
        by omega⟩)
      omega
    have hne : removableGroups view ≠ [] := by
      intro hnil
      have hsame := size_stripped_of_nil compactor hnil
      omega
    rcases Option.ne_none_iff_exists'.mp hsome with ⟨summarizer, hsummary⟩
    by_cases hblank : Text.isBlank (summaryText summarizer
        (removableGroups (compactor.heldBack view)).flatten) = true
    · rcases compactor.reduce_blank hunique hview hcuts hsummary hne hblank with
        ⟨candidate, removed, hreduce, hcandidate⟩
      have hfits := hgiveUp candidate removed hreduce
      have hsame : compactor.size candidate = compactor.size candidate.bare := rfl
      rw [hsame, hcandidate] at hfits
      omega
    · rcases hsummaries summarizer ⟨_, Text.ne_empty_of_not_isBlank hblank⟩ hsummary rfl hblank
        with ⟨itemId, hid, hlong⟩
      rcases compactor.reduce_summarizes hunique hview hcuts hsummary hne hid hblank with
        ⟨candidate, removed, hreduce, hcandidate⟩
      have hfits := hgiveUp candidate removed hreduce
      have hsame : compactor.size candidate = compactor.size candidate.bare := rfl
      rw [hsame, hcandidate] at hfits
      omega
  · intro hexhausts hraised
    rcases hraises.mp hraised with ⟨_, _, hview, candidate, removed, hreduce, hlarge⟩
    have hheld := heldBack_large hview hreduce hlarge
    rcases hexhausts with hnone | hfits | hstripped | ⟨summarizer, content, hsummary, htext,
      hblank, hfits⟩
    · rw [← heldBack_of_none hnone]
      exact hheld
    · omega
    · exact hstripped
    · by_cases hnil : removableGroups view = []
      · rw [size_stripped_of_nil compactor hnil]
        exact hheld
      · rcases large_of_heldBack hcounts hheld with ⟨_, hcuts⟩
        rw [htext] at hblank
        cases hid : summaryId view with
        | error error =>
          rw [compactor.reduce_malformed hunique hview hcuts hsummary hnil hid hblank] at hreduce
          cases hreduce
        | ok itemId =>
          rcases compactor.reduce_summarizes hunique hview hcuts hsummary hnil hid hblank with
            ⟨other, taken, hother, hbare⟩
          rw [hother] at hreduce
          have hsame : compactor.size candidate = compactor.size other.bare := by
            cases hreduce
            rfl
          have hcontent : content = ⟨summaryText summarizer
              (removableGroups (compactor.heldBack view)).flatten,
              Text.ne_empty_of_not_isBlank hblank⟩ := by
            cases content
            simpa using htext
          have hsummarized := hfits itemId hid
          rw [hcontent, ← hbare, ← hsame] at hsummarized
          omega

end Compactor

/-- A window that takes so much. -/
def windowOf (limit : Int) (h : 1 ≤ limit) : ContextWindowPolicy where
  sequenceLimit := limit
  reservedOutputTokens := 0
  safetyAllowanceTokens := 0
  softLimitTokens := limit
  tokenizer := "characters"
  tokenizerVersion := "1"
  capacity := by omega
  softFits := by omega

/-- A compactor that counts characters. Its summaries, if it makes any, are blank. -/
def counting (summarizes : Bool) : Compactor where
  projectorTokens := characters
  countTokens := characters
  schemaVersion := Sample.version
  summary := if summarizes then some fun _ => "" else none

/-- A window of eighty characters is too small even for the stripped view. -/
theorem hard_limit_claim : (counting true).Exhausts Sample.view 80 := by
  refine (Compactor.hard_limit_iff (counting true) characters_countsParts Sample.view
    ((AgentContextView.validateView_eq_none _).mp (by decide +kernel))
    (windowOf 80 (by decide)) ∅).mp fun _ => ?_
  decide +kernel

/-- A blank summary leaves the last claim where it is: the limit error is raised,
    although the view without its claims fits. -/
theorem blank_summary_gives_up :
    Sample.view.Valid ∧ CountsParts (counting true).countTokens ∧
    (∃ message, ((counting true).compact Sample.view (windowOf 100 (by decide)) true ∅).1 =
      .error (.limit message)) ∧
    (counting true).size (stripped Sample.view) ≤ 100 := by
  have hvalid : Sample.view.Valid :=
    (AgentContextView.validateView_eq_none _).mp (by decide +kernel)
  refine ⟨hvalid, characters_countsParts, ?_, by decide +kernel⟩
  have hheld : 100 < (counting true).size ((counting true).heldBack Sample.view) := by
    decide +kernel
  rcases Compactor.large_of_heldBack characters_countsParts hheld with ⟨hview, hcuts⟩
  have hsome : removableGroups Sample.view ≠ [] := by decide +kernel
  rcases (counting true).reduce_blank (nodup_of_valid hvalid) hview hcuts rfl hsome rfl with
    ⟨candidate, removed, hreduce, hcandidate⟩
  have hlarge : 100 < (counting true).size candidate.bare := by
    rw [hcandidate]
    exact hheld
  exact ((counting true).compact_limit_iff _ (windowOf 100 (by decide)) true ∅).mpr
    ⟨rfl, le_trans (by decide) hview.le, hview, candidate, removed, hreduce, hlarge⟩

end NovelAgent.Context
