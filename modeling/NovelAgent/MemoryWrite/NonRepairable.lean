import NovelAgent.MemoryWrite.RepairPolicy

/-!
# Findings That Cannot Be Repaired

When a finding that cannot be repaired keeps the candidate policy from trying.
-/

namespace NovelAgent.MemoryWrite

open Domain List

namespace BoundedMemoryRepairPolicy

variable (policy : BoundedMemoryRepairPolicy)

/-- The action of a finding's code, or the one for codes without a rule. -/
def defaultAction (finding : ValidationFinding) : RepairAction :=
  (findingRegistry.lookup finding.code).getD (fallbackAction finding)

/-- A finding that is registered as fatal or says so itself. -/
def NonRepairable (finding : ValidationFinding) : Prop :=
  findingRegistry.lookup finding.code = some .stopFatal ∨ finding.retryability = .nonRepairable

/-- An action that goes on to work on the candidate. -/
def Repairs (action : RepairAction) : Prop :=
  action = .deterministicRepair ∨ action = .curatorRepair ∨ action = .guardianReview ∨
    action = .retryAfterSourceContextRefresh

def withFindings (context : RepairContext) (findings : List ValidationFinding) : RepairContext :=
  { context with
    validation := context.validation.map fun validation => { validation with findings := findings } }

/-- The policy does not repair, whatever the order of the findings, and a
    guardian's decision about another change set does not count. -/
structure NeverRepaired (context : RepairContext) (changeSetId : StableId) : Prop where
  action : ¬ Repairs (policy.decide context).action
  order : ∀ findings, context.findings.Perm findings →
    (policy.decide (withFindings context findings)).action = (policy.decide context).action
  leftover : ∀ decision, context.guardian = some decision → decision.proposalId ≠ changeSetId →
    (policy.decide context).action = (policy.decide { context with guardian := none }).action

section Condition

variable (context : RepairContext)

def CuratorSpent : Prop :=
  context.budgetRemaining.curatorRepairs = 0 ∨ context.budgetRemaining.totalModelCalls = 0

def GuardianSpent : Prop :=
  context.budgetRemaining.guardianReviews = 0 ∨ context.budgetRemaining.totalModelCalls = 0

/-- The candidate was repaired deterministically before. -/
def DeterministicSeen : Prop :=
  ∃ receipt ∈ context.priorActions, receipt.action = .deterministicRepair ∧
    receipt.candidateId = context.candidate.candidateId

def AnyFuture : Prop := ∃ finding ∈ context.findings, finding.code = "FUTURE_EVIDENCE"

def AnyBaseMismatch : Prop :=
  ∃ finding ∈ context.findings,
    finding.code = "BASE_COMMIT_MISMATCH" ∨ finding.code = "BASE_MISMATCH"

def AnyHuman : Prop := ∃ finding ∈ context.findings, finding.requiresHuman = true

def AnyRefresh : Prop := ∃ finding ∈ context.findings, finding.requiresContextRefresh = true

instance : Decidable (CuratorSpent context) := by unfold CuratorSpent; infer_instance
instance : Decidable (GuardianSpent context) := by unfold GuardianSpent; infer_instance
instance : Decidable (DeterministicSeen context) := by unfold DeterministicSeen; infer_instance
instance : Decidable (AnyFuture context) := by unfold AnyFuture; infer_instance
instance : Decidable (AnyBaseMismatch context) := by unfold AnyBaseMismatch; infer_instance
instance : Decidable (AnyHuman context) := by unfold AnyHuman; infer_instance
instance : Decidable (AnyRefresh context) := by unfold AnyRefresh; infer_instance

/-- What the finding asks for can no longer be paid for. -/
def Unaffordable (finding : ValidationFinding) : Prop :=
  match defaultAction finding with
  | .stopFatal | .replan => False
  | .guardianReview => GuardianSpent context
  | .retryAfterSourceContextRefresh =>
    context.budgetRemaining.contextRefreshes = 0 ∧ CuratorSpent context
  | .deterministicRepair =>
    (DeterministicSeen context ∨ context.budgetRemaining.normalizationPasses = 0) ∧
      CuratorSpent context
  | .curatorRepair | .quarantineOperation | .human | .stopBudgetExhausted => CuratorSpent context

/-- The branches before the guardian: the canon moved, or the candidate goes in circles. -/
def StopsEarly : Prop :=
  context.currentCanonicalCommit ≠ context.candidate.baseCommit ∨
    findingSignature context.findings ≠ [] ∧ policy.findingLimit ≤
      repeatedFindingSignature context.priorActions (findingSignature context.findings) ∨
    policy.contentLimit ≤ context.repeatedContentHashes.count context.candidate.contentHash

/-- The gate leaves the decision to the findings. -/
def GatePasses : Prop :=
  ∀ gate, context.gate = some gate → gate.outcome = .allowCommit ∨ gate.outcome = .blockValidation

def GateIs (outcome : WriteGateOutcome) : Prop :=
  ∃ gate, context.gate = some gate ∧ gate.outcome = outcome

/-- No test that looks at every finding ends the workflow. -/
def NoneEnds : Prop := ¬ AnyFuture context ∧ ¬ AnyBaseMismatch context ∧ ¬ AnyHuman context

/-- Gate and findings stop for want of a budget. -/
def RestStops : Prop :=
  GateIs context .requireGuardian ∧ GuardianSpent context ∨
    GatePasses context ∧ NoneEnds context ∧
      (AnyRefresh context ∧ context.budgetRemaining.contextRefreshes = 0 ∧ CuratorSpent context ∨
        ¬ AnyRefresh context ∧ ∃ first, context.findings.head? = some first ∧
          Unaffordable context first)

/-- Gate and findings put the candidate into quarantine. -/
def RestQuarantines : Prop := GateIs context .blockGuardian ∨ GateIs context .blockHuman

def RestAsksHuman : Prop :=
  GateIs context .requireHuman ∨
    GatePasses context ∧ ¬ AnyFuture context ∧ ¬ AnyBaseMismatch context ∧ AnyHuman context

/-- Gate and findings keep off, whatever the order of the findings. -/
def RestKeepsOff : Prop :=
  GateIs context .requireHuman ∨ RestQuarantines context ∨
    GateIs context .requireGuardian ∧ GuardianSpent context ∨
    GatePasses context ∧ (¬ NoneEnds context ∨
      AnyRefresh context ∧ context.budgetRemaining.contextRefreshes = 0 ∧ CuratorSpent context ∨
      ¬ AnyRefresh context ∧
        ((∀ finding ∈ context.findings, defaultAction finding = .stopFatal) ∨
          ∀ finding ∈ context.findings, Unaffordable context finding))

/-- The contexts in which a finding that cannot be repaired is not repaired. -/
def KeepsOff (changeSetId : StableId) : Prop :=
  StopsEarly policy context ∨
    match context.guardian with
    | none => RestKeepsOff context
    | some decision =>
      match decision.outcome with
      | .approve => RestKeepsOff context
      | .revise => CuratorSpent context ∧
          (decision.proposalId ≠ changeSetId → RestStops context)
      | .reject => decision.proposalId ≠ changeSetId → RestQuarantines context
      | .humanReview => decision.proposalId ≠ changeSetId → RestAsksHuman context

end Condition

variable (finding : ValidationFinding)

section Actions

variable {policy} {context : RepairContext}

@[simp]
theorem directive_action (action : RepairAction) (findingIds operationIds : List StableId)
    (allowedScope : Option RepairScope) (reasonCodes : List String) (checkpoint : Bool) :
    (policy.directive action findingIds operationIds allowedScope reasonCodes checkpoint).action =
      action :=
  rfl

/-- The curator repairs while there is a budget for it. -/
def curatorAction (context : RepairContext) : RepairAction :=
  if CuratorSpent context then .stopBudgetExhausted else .curatorRepair

def guardianAction (context : RepairContext) : RepairAction :=
  if GuardianSpent context then .stopBudgetExhausted else .guardianReview

def refreshAction (context : RepairContext) : RepairAction :=
  if 0 < context.budgetRemaining.contextRefreshes then .retryAfterSourceContextRefresh
  else curatorAction context

variable (ids : List StableId)

/-- What an action that costs a budget comes to. -/
@[simp]
theorem curatorOrBudget_action (reason : String) (ids : List StableId) :
    (policy.curatorOrBudget context reason ids).action = curatorAction context := by
  have htest : (context.budgetRemaining.curatorRepairs = 0 ||
      context.budgetRemaining.totalModelCalls = 0) = true ↔ CuratorSpent context := by
    simp [CuratorSpent]
  unfold curatorOrBudget curatorAction
  by_cases hspent : CuratorSpent context
  · rw [if_pos (htest.mpr hspent), if_pos hspent]
    rfl
  · rw [if_neg (mt htest.mp hspent), if_neg hspent]
    cases context.findings <;> rfl

@[simp]
theorem guardianOrBudget_action :
    (policy.guardianOrBudget context ids).action = guardianAction context := by
  have htest : (context.budgetRemaining.guardianReviews = 0 ||
      context.budgetRemaining.totalModelCalls = 0) = true ↔ GuardianSpent context := by
    simp [GuardianSpent]
  unfold guardianOrBudget guardianAction
  by_cases hspent : GuardianSpent context
  · rw [if_pos (htest.mpr hspent), if_pos hspent]
    rfl
  · rw [if_neg (mt htest.mp hspent), if_neg hspent]
    rfl

@[simp]
theorem refreshOrCurator_action :
    (policy.refreshOrCurator context ids).action = refreshAction context := by
  unfold refreshOrCurator refreshAction
  by_cases hleft : 0 < context.budgetRemaining.contextRefreshes
  · simp [hleft]
  · simp [hleft]

def findingAction (context : RepairContext) (finding : ValidationFinding) : RepairAction :=
  match defaultAction finding with
  | .stopFatal => .stopFatal
  | .replan => .replan
  | .retryAfterSourceContextRefresh => refreshAction context
  | .guardianReview => guardianAction context
  | .deterministicRepair =>
    if DeterministicSeen context ∨ context.budgetRemaining.normalizationPasses = 0 then
      curatorAction context
    else .deterministicRepair
  | .curatorRepair | .quarantineOperation | .human | .stopBudgetExhausted => curatorAction context

theorem onFinding_action :
    (policy.onFinding context finding).action = findingAction context finding := by
  have hseen : (context.priorActions.any fun receipt =>
      receipt.action = .deterministicRepair && receipt.candidateId = context.candidate.candidateId) =
        true ↔ DeterministicSeen context := by
    simp [DeterministicSeen, any_eq_true]
  unfold onFinding findingAction defaultAction
  cases (findingRegistry.lookup finding.code).getD (fallbackAction finding) with
  | deterministicRepair =>
    simp only
    by_cases hspent : DeterministicSeen context ∨ context.budgetRemaining.normalizationPasses = 0
    · rw [if_pos hspent, if_pos (by simpa [← hseen] using hspent)]
      exact curatorOrBudget_action ..
    · rw [if_neg hspent, if_neg (by simpa [← hseen] using hspent)]
      rfl
  | _ => simp [fatal]

/-- The tests that look at every finding, and then the first finding. -/
def findingsAction (context : RepairContext) (first : ValidationFinding) : RepairAction :=
  if AnyFuture context then .stopFatal
  else if AnyBaseMismatch context then .replan
  else if AnyHuman context then .human
  else if AnyRefresh context then refreshAction context
  else findingAction context first

/-- The action of the findings. -/
theorem onFindings_action {first : ValidationFinding} {others : List ValidationFinding}
    (h : context.findings = first :: others) :
    (policy.onFindings context).action = findingsAction context first := by
  have hfuture : (context.findings.any fun finding => finding.code = "FUTURE_EVIDENCE") = true ↔
      AnyFuture context := by
    simp [AnyFuture, any_eq_true]
  have hbase : (context.findings.any fun finding =>
      finding.code = "BASE_COMMIT_MISMATCH" || finding.code = "BASE_MISMATCH") = true ↔
        AnyBaseMismatch context := by
    simp [AnyBaseMismatch, any_eq_true]
  have hhuman : context.findings.any ValidationFinding.requiresHuman = true ↔ AnyHuman context := by
    simp [AnyHuman, any_eq_true]
  have hrefresh : context.findings.any ValidationFinding.requiresContextRefresh = true ↔
      AnyRefresh context := by
    simp [AnyRefresh, any_eq_true]
  unfold onFindings findingsAction
  rw [h] at hfuture hbase hhuman hrefresh ⊢
  simp only [hfuture, hbase, hhuman, hrefresh]
  split
  · rfl
  · split
    · rfl
    · split
      · rfl
      · split
        · exact refreshOrCurator_action ..
        · exact onFinding_action first

/-- What gate and findings come to. -/
def restAction (context : RepairContext) (first : ValidationFinding) : RepairAction :=
  match context.gate.map WriteGateDecision.outcome with
  | some .requireHuman => .human
  | some .requireGuardian => guardianAction context
  | some .blockGuardian | some .blockHuman => .quarantineOperation
  | some .allowCommit | some .blockValidation | none => findingsAction context first

/-- What everything after the early stops comes to. -/
def lateAction (context : RepairContext) (first : ValidationFinding) : RepairAction :=
  match context.guardian.map GuardianDecision.outcome with
  | some .revise => curatorAction context
  | some .reject => .quarantineOperation
  | some .humanReview => .human
  | some .approve | none => restAction context first

theorem decide_action {first : ValidationFinding} {others : List ValidationFinding}
    (h : context.findings = first :: others) (hlate : ¬ StopsEarly policy context) :
    (policy.decide context).action = lateAction context first := by
  unfold StopsEarly at hlate
  rw [not_or, not_or, not_ne_iff] at hlate
  have hfinding : ¬ ((!(findingSignature context.findings).isEmpty &&
      Decidable.decide (policy.findingLimit ≤ repeatedFindingSignature context.priorActions
        (findingSignature context.findings))) = true) := by
    simpa using hlate.2.1
  unfold decide
  simp only [hlate.1, not_true_eq_false, if_false, hfinding, hlate.2.2, ne_eq]
  unfold lateAction restAction onGuardian onGate
  cases context.guardian.map GuardianDecision.outcome with
  | some outcome =>
    cases outcome with
    | approve =>
      simp only
      cases context.gate.map WriteGateDecision.outcome with
      | none => exact onFindings_action h
      | some outcome => cases outcome <;> first | exact onFindings_action h | simp [quarantine]
    | _ => simp [quarantine]
  | none =>
    cases context.gate.map WriteGateDecision.outcome with
    | none => exact onFindings_action h
    | some outcome => cases outcome <;> first | exact onFindings_action h | simp [quarantine]

end Actions

section Characterizations

variable {context : RepairContext} {first : ValidationFinding} {others : List ValidationFinding}

theorem curatorAction_eq_stop : curatorAction context = .stopBudgetExhausted ↔
    CuratorSpent context := by
  unfold curatorAction
  by_cases hspent : CuratorSpent context <;> simp [hspent]

theorem guardianAction_eq_stop : guardianAction context = .stopBudgetExhausted ↔
    GuardianSpent context := by
  unfold guardianAction
  by_cases hspent : GuardianSpent context <;> simp [hspent]

theorem refreshAction_eq_stop : refreshAction context = .stopBudgetExhausted ↔
    context.budgetRemaining.contextRefreshes = 0 ∧ CuratorSpent context := by
  unfold refreshAction
  by_cases hleft : 0 < context.budgetRemaining.contextRefreshes
  · rw [if_pos hleft]
    simp [Nat.pos_iff_ne_zero.mp hleft]
  · rw [if_neg hleft, curatorAction_eq_stop]
    rw [Nat.pos_iff_ne_zero, not_not] at hleft
    simp [hleft]

theorem curatorAction_cases (context : RepairContext) : curatorAction context = .stopBudgetExhausted ∨
    curatorAction context = .curatorRepair := by
  unfold curatorAction
  by_cases hspent : CuratorSpent context <;> simp [hspent]

theorem guardianAction_cases (context : RepairContext) : guardianAction context = .stopBudgetExhausted ∨
    guardianAction context = .guardianReview := by
  unfold guardianAction
  by_cases hspent : GuardianSpent context <;> simp [hspent]

theorem refreshAction_cases (context : RepairContext) : refreshAction context = .stopBudgetExhausted ∨
    Repairs (refreshAction context) := by
  unfold refreshAction
  by_cases hleft : 0 < context.budgetRemaining.contextRefreshes
  · simp [hleft, Repairs]
  · rw [if_neg hleft]
    rcases curatorAction_cases context with h | h
    · exact .inl h
    · exact .inr (.inr (.inl h))

/-- A finding is fatal, asks for a new plan, stops for want of a budget, or is repaired. -/
theorem findingAction_cases (context : RepairContext) (finding : ValidationFinding) :
    findingAction context finding = .stopFatal ∧ defaultAction finding = .stopFatal ∧
        ¬ Unaffordable context finding ∨
      findingAction context finding = .replan ∧ defaultAction finding = .replan ∧
        ¬ Unaffordable context finding ∨
      findingAction context finding = .stopBudgetExhausted ∧ Unaffordable context finding ∧
        defaultAction finding ≠ .stopFatal ∨
      Repairs (findingAction context finding) ∧ ¬ Unaffordable context finding ∧
        defaultAction finding ≠ .stopFatal := by
  have hcurator : curatorAction context = .stopBudgetExhausted ∧ CuratorSpent context ∨
      Repairs (curatorAction context) ∧ ¬ CuratorSpent context := by
    rcases curatorAction_cases context with h | h
    · exact .inl ⟨h, curatorAction_eq_stop.mp h⟩
    · exact .inr ⟨.inr (.inl h), fun hspent => by
        rw [curatorAction_eq_stop.mpr hspent] at h
        exact absurd h (by simp)⟩
  unfold findingAction Unaffordable
  cases hdefault : defaultAction finding with
  | stopFatal => simp
  | replan => simp
  | guardianReview =>
    simp only
    rcases guardianAction_cases context with h | h
    · simp [h, guardianAction_eq_stop.mp h]
    · have hleft : ¬ GuardianSpent context := fun hspent => by
        rw [guardianAction_eq_stop.mpr hspent] at h
        exact absurd h (by simp)
      simp [h, hleft, Repairs]
  | retryAfterSourceContextRefresh =>
    simp only
    rcases refreshAction_cases context with h | h
    · simp [h, refreshAction_eq_stop.mp h]
    · have hleft : ¬ (context.budgetRemaining.contextRefreshes = 0 ∧ CuratorSpent context) :=
        fun hspent => by
          rw [refreshAction_eq_stop.mpr hspent] at h
          exact absurd h (by simp [Repairs])
      exact .inr (.inr (.inr ⟨h, hleft, by simp⟩))
  | deterministicRepair =>
    simp only
    by_cases hseen : DeterministicSeen context ∨ context.budgetRemaining.normalizationPasses = 0
    · rw [if_pos hseen]
      rcases hcurator with ⟨h, hspent⟩ | ⟨h, hspent⟩
      · exact .inr (.inr (.inl ⟨h, ⟨hseen, hspent⟩, by simp⟩))
      · exact .inr (.inr (.inr ⟨h, fun hboth => hspent hboth.2, by simp⟩))
    · rw [if_neg hseen]
      exact .inr (.inr (.inr ⟨.inl rfl, fun hboth => hseen hboth.1, by simp⟩))
  | _ =>
    simp only
    rcases hcurator with ⟨h, hspent⟩ | ⟨h, hspent⟩
    · exact .inr (.inr (.inl ⟨h, hspent, by simp⟩))
    · exact .inr (.inr (.inr ⟨h, hspent, by simp⟩))

theorem code_of_replan {finding : ValidationFinding} (h : defaultAction finding = .replan) :
    finding.code = "BASE_COMMIT_MISMATCH" := by
  unfold defaultAction at h
  cases hrule : findingRegistry.lookup finding.code with
  | none =>
    rw [hrule, Option.getD_none] at h
    unfold fallbackAction at h
    cases hretry : finding.retryability <;> rw [hretry] at h <;> exact absurd h (by simp)
  | some action =>
    rw [hrule, Option.getD_some] at h
    subst h
    have hregistry : ∀ rule ∈ findingRegistry, rule.2 = .replan →
        rule.1 = "BASE_COMMIT_MISMATCH" := by
      decide
    rcases lookup_eq_some_iff.mp hrule with ⟨before, after, hlist, _⟩
    refine hregistry (finding.code, .replan) ?_ rfl
    rw [hlist]
    exact mem_append_right _ mem_cons_self

theorem findingAction_eq_stop :
    findingAction context finding = .stopBudgetExhausted ↔ Unaffordable context finding := by
  rcases findingAction_cases context finding with ⟨h, _, hnot⟩ | ⟨h, _, hnot⟩ |
    ⟨h, hspent, _⟩ | ⟨h, hnot, _⟩
  · simp [h, hnot]
  · simp [h, hnot]
  · simp [h, hspent]
  · refine iff_of_false (fun heq => ?_) hnot
    rw [heq] at h
    exact absurd h (by simp [Repairs])

theorem findingsAction_eq_stop :
    findingsAction context finding = .stopBudgetExhausted ↔ NoneEnds context ∧
      (AnyRefresh context ∧ context.budgetRemaining.contextRefreshes = 0 ∧ CuratorSpent context ∨
        ¬ AnyRefresh context ∧ Unaffordable context finding) := by
  unfold findingsAction NoneEnds
  by_cases hfuture : AnyFuture context
  · simp [hfuture]
  · by_cases hbase : AnyBaseMismatch context
    · simp [hfuture, hbase]
    · by_cases hhuman : AnyHuman context
      · simp [hfuture, hbase, hhuman]
      · by_cases hrefresh : AnyRefresh context
        · simp [hfuture, hbase, hhuman, hrefresh, refreshAction_eq_stop]
        · simp [hfuture, hbase, hhuman, hrefresh, findingAction_eq_stop]

/-- Findings never quarantine a candidate, and ask a human only where one of them says so. -/
theorem findingsAction_ne_quarantine : findingsAction context finding ≠ .quarantineOperation := by
  intro heq
  unfold findingsAction at heq
  have hrefresh : refreshAction context ≠ .quarantineOperation := by
    rcases refreshAction_cases context with h | h
    · simp [h]
    · intro hquarantine
      rw [hquarantine] at h
      exact absurd h (by simp [Repairs])
  have hfinding : findingAction context finding ≠ .quarantineOperation := by
    rcases findingAction_cases context finding with ⟨h, _⟩ | ⟨h, _⟩ | ⟨h, _⟩ | ⟨h, _⟩
    · simp [h]
    · simp [h]
    · simp [h]
    · intro hquarantine
      rw [hquarantine] at h
      exact absurd h (by simp [Repairs])
  split_ifs at heq
  · exact hrefresh heq
  · exact hfinding heq

theorem findingsAction_eq_human :
    findingsAction context finding = .human ↔
      ¬ AnyFuture context ∧ ¬ AnyBaseMismatch context ∧ AnyHuman context := by
  have hrefresh : refreshAction context ≠ .human := by
    rcases refreshAction_cases context with h | h
    · simp [h]
    · intro hask
      rw [hask] at h
      exact absurd h (by simp [Repairs])
  have hfinding : findingAction context finding ≠ .human := by
    rcases findingAction_cases context finding with ⟨h, _⟩ | ⟨h, _⟩ | ⟨h, _⟩ | ⟨h, _⟩
    · simp [h]
    · simp [h]
    · simp [h]
    · intro hask
      rw [hask] at h
      exact absurd h (by simp [Repairs])
  unfold findingsAction
  by_cases hfuture : AnyFuture context
  · simp [hfuture]
  · by_cases hbase : AnyBaseMismatch context
    · simp [hfuture, hbase]
    · by_cases hhuman : AnyHuman context
      · simp [hfuture, hbase, hhuman]
      · simp only [hfuture, hbase, hhuman, if_false, and_false, iff_false]
        split_ifs
        · exact hrefresh
        · exact hfinding

theorem restAction_eq_stop (h : context.findings = first :: others) :
    restAction context first = .stopBudgetExhausted ↔ RestStops context := by
  unfold restAction RestStops GateIs GatePasses
  rw [h]
  cases hgate : context.gate with
  | none => simp [findingsAction_eq_stop]
  | some gate =>
    cases houtcome : gate.outcome <;>
      simp [houtcome, findingsAction_eq_stop, guardianAction_eq_stop]

theorem restAction_eq_quarantine :
    restAction context first = .quarantineOperation ↔ RestQuarantines context := by
  have hguardian : guardianAction context ≠ .quarantineOperation := by
    rcases guardianAction_cases context with h | h <;> simp [h]
  unfold restAction RestQuarantines GateIs
  cases hgate : context.gate with
  | none => simp [findingsAction_ne_quarantine]
  | some gate =>
    cases houtcome : gate.outcome <;> simp [houtcome, findingsAction_ne_quarantine, hguardian]

theorem restAction_eq_human : restAction context first = .human ↔ RestAsksHuman context := by
  have hguardian : guardianAction context ≠ .human := by
    rcases guardianAction_cases context with h | h <;> simp [h]
  unfold restAction RestAsksHuman GateIs GatePasses
  cases hgate : context.gate with
  | none => simp [findingsAction_eq_human]
  | some gate =>
    cases houtcome : gate.outcome <;> simp [houtcome, findingsAction_eq_human, hguardian]

theorem findingAction_eq_fatal (context : RepairContext) (finding : ValidationFinding) :
    findingAction context finding = .stopFatal ↔ defaultAction finding = .stopFatal := by
  rcases findingAction_cases context finding with ⟨h, hfatal, _⟩ | ⟨h, hreplan, _⟩ |
    ⟨h, _, hnot⟩ | ⟨h, _, hnot⟩
  · simp [h, hfatal]
  · simp [h, hreplan]
  · simp [h, hnot]
  · refine iff_of_false (fun heq => ?_) hnot
    rw [heq] at h
    exact absurd h (by simp [Repairs])

theorem agreeing_iff (h : context.findings = first :: others)
    (hbase : ¬ AnyBaseMismatch context) :
    (¬ Repairs (findingAction context first) ∧
      ∀ finding ∈ context.findings, findingAction context finding = findingAction context first) ↔
        (∀ finding ∈ context.findings, defaultAction finding = .stopFatal) ∨
          ∀ finding ∈ context.findings, Unaffordable context finding := by
  have hfirst : first ∈ context.findings := by
    rw [h]
    exact mem_cons_self
  constructor
  · intro hkeeps
    rcases findingAction_cases context first with ⟨hstop, _⟩ | ⟨_, hreplan, _⟩ |
      ⟨hstop, _⟩ | ⟨hrepair, _⟩
    · refine .inl fun finding hfinding => ?_
      rw [← findingAction_eq_fatal context, hkeeps.2 finding hfinding, hstop]
    · exact absurd ⟨first, hfirst, .inl (code_of_replan hreplan)⟩ hbase
    · refine .inr fun finding hfinding => ?_
      rw [← findingAction_eq_stop, hkeeps.2 finding hfinding, hstop]
    · exact absurd hrepair hkeeps.1
  · intro hagree
    rcases hagree with hfatal | hspent
    · have hall : ∀ finding ∈ context.findings, findingAction context finding = .stopFatal :=
        fun finding hfinding => (findingAction_eq_fatal context finding).mpr (hfatal finding hfinding)
      refine ⟨?_, fun finding hfinding => by rw [hall finding hfinding, hall first hfirst]⟩
      rw [hall first hfirst]
      simp [Repairs]
    · have hall : ∀ finding ∈ context.findings,
          findingAction context finding = .stopBudgetExhausted :=
        fun finding hfinding => (findingAction_eq_stop finding).mpr (hspent finding hfinding)
      refine ⟨?_, fun finding hfinding => by rw [hall finding hfinding, hall first hfirst]⟩
      rw [hall first hfirst]
      simp [Repairs]

theorem findings_keepsOff (h : context.findings = first :: others) :
    (¬ Repairs (findingsAction context first) ∧
      ∀ finding ∈ context.findings,
        findingsAction context finding = findingsAction context first) ↔
      (¬ NoneEnds context ∨
        AnyRefresh context ∧ context.budgetRemaining.contextRefreshes = 0 ∧ CuratorSpent context ∨
        ¬ AnyRefresh context ∧
          ((∀ finding ∈ context.findings, defaultAction finding = .stopFatal) ∨
            ∀ finding ∈ context.findings, Unaffordable context finding)) := by
  unfold findingsAction NoneEnds
  by_cases hfuture : AnyFuture context
  · simp [hfuture, Repairs]
  · by_cases hbase : AnyBaseMismatch context
    · simp [hfuture, hbase, Repairs]
    · by_cases hhuman : AnyHuman context
      · simp [hfuture, hbase, hhuman, Repairs]
      · by_cases hrefresh : AnyRefresh context
        · have hkeeps : ¬ Repairs (refreshAction context) ↔
              context.budgetRemaining.contextRefreshes = 0 ∧ CuratorSpent context := by
            rw [← refreshAction_eq_stop]
            constructor
            · intro hnot
              exact (refreshAction_cases context).resolve_right hnot
            · intro hstop
              simp [hstop, Repairs]
          simp [hfuture, hbase, hhuman, hrefresh, hkeeps]
        · simp only [hfuture, hbase, hhuman, hrefresh, if_false, not_false_eq_true, and_self,
            not_true_eq_false, false_and, true_and, false_or]
          exact agreeing_iff h hbase

theorem rest_keepsOff (h : context.findings = first :: others) :
    (¬ Repairs (restAction context first) ∧
      ∀ finding ∈ context.findings, restAction context finding = restAction context first) ↔
        RestKeepsOff context := by
  have hfindings := findings_keepsOff h
  have hguardian : ¬ Repairs (guardianAction context) ↔ GuardianSpent context := by
    rw [← guardianAction_eq_stop]
    rcases guardianAction_cases context with h | h <;> simp [h, Repairs]
  unfold restAction RestKeepsOff RestQuarantines GateIs GatePasses
  cases hgate : context.gate with
  | none => simpa using hfindings
  | some gate =>
    cases houtcome : gate.outcome with
    | allowCommit | blockValidation => simpa [houtcome] using hfindings
    | requireGuardian => simp [houtcome, hguardian]
    | requireHuman | blockGuardian | blockHuman => simp [houtcome, Repairs]

end Characterizations

section Verdict

variable {policy} {context : RepairContext} {first : ValidationFinding}
variable {others findings : List ValidationFinding}

theorem withFindings_findings (h : context.findings = first :: others)
    (findings : List ValidationFinding) :
    (withFindings context findings).findings = findings := by
  unfold withFindings RepairContext.findings at *
  cases hvalidation : context.validation with
  | none =>
    rw [hvalidation] at h
    exact absurd h (by simp)
  | some validation => rfl

theorem findingSignature_mem (findings : List ValidationFinding) (code : String) :
    code ∈ findingSignature findings ↔ ∃ finding ∈ findings,
      (finding.severity = .error ∨ finding.severity = .critical) ∧ finding.code = code := by
  unfold findingSignature
  rw [mem_eraseDups]
  simp [and_assoc]

theorem repeatedFindingSignature_congr {signature other : List String}
    (h : ∀ code, code ∈ signature ↔ code ∈ other) (actions : List RepairActionReceipt) :
    repeatedFindingSignature actions signature = repeatedFindingSignature actions other := by
  unfold repeatedFindingSignature
  congr 1
  funext receipt
  rw [Bool.eq_iff_iff, all_eq_true, all_eq_true]
  exact forall_congr' fun code => by rw [h code]

theorem stopsEarly_withFindings (h : context.findings = first :: others)
    (hperm : context.findings.Perm findings) :
    StopsEarly policy (withFindings context findings) ↔ StopsEarly policy context := by
  have hsame : ∀ code, code ∈ findingSignature findings ↔
      code ∈ findingSignature context.findings := by
    intro code
    simp only [findingSignature_mem, hperm.mem_iff]
  have hempty : findingSignature findings ≠ [] ↔ findingSignature context.findings ≠ [] := by
    simp only [ne_eq, eq_nil_iff_forall_not_mem, hsame]
  unfold StopsEarly
  rw [withFindings_findings h findings, hempty, repeatedFindingSignature_congr hsame]
  rfl

theorem lateAction_withFindings (h : context.findings = first :: others)
    (hperm : context.findings.Perm findings) (finding : ValidationFinding) :
    lateAction (withFindings context findings) finding = lateAction context finding := by
  have hfindings := withFindings_findings h findings
  have hfuture : AnyFuture (withFindings context findings) ↔ AnyFuture context := by
    unfold AnyFuture
    rw [hfindings]
    simp only [hperm.mem_iff]
  have hbase : AnyBaseMismatch (withFindings context findings) ↔ AnyBaseMismatch context := by
    unfold AnyBaseMismatch
    rw [hfindings]
    simp only [hperm.mem_iff]
  have hhuman : AnyHuman (withFindings context findings) ↔ AnyHuman context := by
    unfold AnyHuman
    rw [hfindings]
    simp only [hperm.mem_iff]
  have hrefresh : AnyRefresh (withFindings context findings) ↔ AnyRefresh context := by
    unfold AnyRefresh
    rw [hfindings]
    simp only [hperm.mem_iff]
  have hall : findingsAction (withFindings context findings) finding =
      findingsAction context finding := by
    unfold findingsAction
    simp only [hfuture, hbase, hhuman, hrefresh]
    rfl
  unfold lateAction restAction
  rw [hall]
  rfl

/-- Where the policy stops early, it does so before it looks at the guardian
    or at the order of the findings. -/
theorem decide_early (h : StopsEarly policy context) :
    (policy.decide context).action =
      if context.currentCanonicalCommit ≠ context.candidate.baseCommit then .replan
      else .quarantineOperation := by
  unfold decide
  simp only
  by_cases hbase : context.currentCanonicalCommit = context.candidate.baseCommit
  · rw [if_neg (not_not_intro hbase), if_neg (not_not_intro hbase)]
    unfold StopsEarly at h
    have hrest := h.resolve_left (not_not_intro hbase)
    by_cases hfinding : (!(findingSignature context.findings).isEmpty &&
        Decidable.decide (policy.findingLimit ≤ repeatedFindingSignature context.priorActions
          (findingSignature context.findings))) = true
    · rw [if_pos hfinding]
      rfl
    · rw [if_neg hfinding]
      have hcontent := hrest.resolve_left (by simpa using hfinding)
      rw [if_pos hcontent]
      rfl
  · rw [if_pos hbase, if_pos hbase]
    rfl

theorem neverRepaired_of_early (h : context.findings = first :: others)
    (hearly : StopsEarly policy context) (changeSetId : StableId) :
    NeverRepaired policy context changeSetId where
  action := by
    rw [decide_early hearly]
    split <;> simp [Repairs]
  order := by
    intro findings hperm
    rw [decide_early hearly, decide_early ((stopsEarly_withFindings h hperm).mpr hearly)]
    rfl
  leftover := by
    intro decision _ _
    have hsame : StopsEarly policy { context with guardian := none } := hearly
    rw [decide_early hearly, decide_early hsame]

theorem neverRepaired_late (h : context.findings = first :: others)
    (hlate : ¬ StopsEarly policy context) (changeSetId : StableId) :
    NeverRepaired policy context changeSetId ↔
      ¬ Repairs (lateAction context first) ∧
      (∀ finding ∈ context.findings, lateAction context finding = lateAction context first) ∧
      ∀ decision, context.guardian = some decision → decision.proposalId ≠ changeSetId →
        lateAction context first = restAction context first := by
  have haction := decide_action h hlate
  have hordered : ∀ finding others', context.findings.Perm (finding :: others') →
      (policy.decide (withFindings context (finding :: others'))).action =
        lateAction context finding := by
    intro finding others' hperm
    rw [decide_action (withFindings_findings h _) (mt (stopsEarly_withFindings h hperm).mp hlate),
      lateAction_withFindings h hperm]
  have hsame : ({ context with guardian := none } : RepairContext).findings = first :: others := h
  have hwithout : (policy.decide { context with guardian := none }).action =
      restAction context first :=
    decide_action hsame hlate
  constructor
  · intro hnever
    refine ⟨haction ▸ hnever.action, fun finding hfinding => ?_, fun decision hdecision hid => ?_⟩
    · have hperm := perm_cons_erase hfinding
      rw [← hordered finding _ hperm, hnever.order _ hperm, haction]
    · rw [← haction, hnever.leftover decision hdecision hid, hwithout]
  · intro hall
    refine ⟨haction ▸ hall.1, fun findings hperm => ?_, fun decision hdecision hid => ?_⟩
    · cases hfindings : findings with
      | nil =>
        rw [hfindings, h] at hperm
        exact absurd hperm.length_eq (by simp)
      | cons finding others' =>
        rw [hfindings] at hperm
        rw [hordered finding others' hperm, haction]
        exact hall.2.1 finding (hperm.mem_iff.mpr mem_cons_self)
    · rw [haction, hwithout]
      exact hall.2.2 decision hdecision hid

end Verdict

/-- A finding that cannot be repaired keeps the policy from repairing, in every order and whatever
    guardian's decision is left over, exactly where the branches before it, the tests over all
    findings, or the findings' agreement see to that. -/
theorem neverRepaired_iff (context : RepairContext) (changeSetId : StableId)
    (hfinding : ∃ finding ∈ context.findings, NonRepairable finding) :
    NeverRepaired policy context changeSetId ↔ KeepsOff policy context changeSetId := by
  rcases hfinding with ⟨finding, hmem, _⟩
  rcases exists_cons_of_ne_nil (ne_nil_of_mem hmem) with ⟨first, others, h⟩
  unfold KeepsOff
  by_cases hearly : StopsEarly policy context
  · exact iff_of_true (neverRepaired_of_early h hearly changeSetId) (.inl hearly)
  · rw [neverRepaired_late h hearly, or_iff_right hearly]
    have hrest := rest_keepsOff h
    unfold lateAction
    cases hguardian : context.guardian with
    | none => simpa using hrest
    | some decision =>
      cases houtcome : decision.outcome with
      | approve => simpa [houtcome] using hrest
      | revise =>
        have hkeeps : ¬ Repairs (curatorAction context) ↔ CuratorSpent context := by
          rw [← curatorAction_eq_stop]
          rcases curatorAction_cases context with h | h <;> simp [h, Repairs]
        simp only [Option.map_some, houtcome, hkeeps, implies_true, true_and,
          Option.some.injEq, forall_eq']
        refine and_congr_right fun hspent => imp_congr_right fun _ => ?_
        rw [curatorAction_eq_stop.mpr hspent, eq_comm]
        exact restAction_eq_stop h
      | reject =>
        simp only [Option.map_some, houtcome, implies_true, true_and, Option.some.injEq,
          forall_eq', eq_comm (a := RepairAction.quarantineOperation),
          restAction_eq_quarantine]
        simp [Repairs]
      | humanReview =>
        simp only [Option.map_some, houtcome, implies_true, true_and, Option.some.injEq,
          forall_eq', eq_comm (a := RepairAction.human), restAction_eq_human]
        simp [Repairs]

namespace Sample

def zeroHash : ContentHash :=
  ⟨"sha256:0000000000000000000000000000000000000000000000000000000000000000", .refl true⟩

def artifact : ArtifactRef := ⟨zeroHash, "application/json", 1, ⟨"0.1.0", .refl true⟩⟩

def findingOf (code : String) (retryability : FindingRetryability) : ValidationFinding where
  findingId := ⟨"finding", by decide⟩
  code := code
  severity := .error
  operationIds := [⟨"operation", by decide⟩]
  retryability := retryability
  allowedRepairScope := { operationIds := [⟨"operation", by decide⟩] }
  requiresContextRefresh := false
  requiresGuardian := false
  requiresHuman := false

def contextOf (findings : List ValidationFinding) : RepairContext where
  requestId := ⟨"request", .refl true⟩
  candidate := {
    candidateId := ⟨"candidate", .refl true⟩, parentCandidateId := none, revisionNo := 1,
    baseCommit := zeroHash, basisHash := zeroHash, candidateArtifact := artifact,
    sourceArtifacts := [], sourceEvidenceRequirement := none, producerKind := .curatorPropose,
    producerReceipt := none, originProposalAttemptId := none, repairScope := none,
    appliedDirectiveIds := [], supersedesCandidateId := none, contentHash := zeroHash,
    createdAt := 0 }
  validation := some {
    decisionId := ⟨"decision", by decide⟩, candidateId := ⟨"candidate", .refl true⟩,
    candidateContentHash := zeroHash, materializationReceipt := artifact,
    proposedRootsHash := zeroHash, baseCommit := zeroHash, disposition := .nonRepairable,
    findings := findings }
  risk := none
  guardian := none
  gate := none
  budgetRemaining := ⟨1, 1, 1, 1, 1, 1, 1⟩
  priorActions := []
  repeatedContentHashes := []
  currentCanonicalCommit := zeroHash

def repairPolicy : BoundedMemoryRepairPolicy where
  directiveId := fun _ => ⟨"repair.000000000000000000000000", by decide⟩

def targetExists : ValidationFinding := findingOf "CREATE_TARGET_EXISTS" .repairable

def boundaryViolation : ValidationFinding :=
  findingOf "INFORMATION_DERIVATION_BOUNDARY_VIOLATION" .nonRepairable

theorem boundaryViolation_repaired :
    (∃ finding ∈ (contextOf [targetExists, boundaryViolation]).findings, NonRepairable finding) ∧
      ¬ NeverRepaired repairPolicy (contextOf [targetExists, boundaryViolation])
        ⟨"changes", by decide⟩ := by
  constructor
  · exact ⟨boundaryViolation, by decide, .inl (by decide)⟩
  · intro h
    have haction : (repairPolicy.decide (contextOf [targetExists, boundaryViolation])).action =
        .deterministicRepair := by
      rfl
    exact h.action (.inl haction)

/-- With no finding that can be repaired, nothing is. -/
theorem neverRepaired_sample :
    NeverRepaired repairPolicy
      (contextOf [boundaryViolation, findingOf "UNREGISTERED" .nonRepairable])
      ⟨"changes", by decide⟩ := by
  refine (neverRepaired_iff repairPolicy _ _ ⟨boundaryViolation, by decide, .inl (by decide)⟩).mpr ?_
  -- Both findings are fatal, and nothing before them ends the round.
  exact .inr (.inr (.inr (.inr ⟨nofun, .inr (.inr ⟨by decide, .inl (by decide)⟩)⟩)))

end Sample

end BoundedMemoryRepairPolicy

end NovelAgent.MemoryWrite
