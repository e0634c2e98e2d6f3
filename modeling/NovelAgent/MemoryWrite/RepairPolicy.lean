import Mathlib.Data.List.Sort
import NovelAgent.Domain.WriteWorkflow

/-!
# The Repair Policy

Which edge the workflow takes after a verdict that is not a pass.
-/

namespace NovelAgent.MemoryWrite

open Domain

/-- What the candidate policy decides on. -/
structure RepairContext where
  requestId : StableId
  candidate : CandidateRevision
  validation : Option ValidationDecision
  risk : Option PatchRiskAssessment
  guardian : Option GuardianDecision
  gate : Option WriteGateDecision
  budgetRemaining : MemoryWriteBudgetRemaining
  priorActions : List RepairActionReceipt
  repeatedContentHashes : List ArtifactId
  currentCanonicalCommit : CommitId

def RepairContext.findings (context : RepairContext) : List ValidationFinding :=
  match context.validation with
  | none => []
  | some validation => validation.findings

/-- The default action of every registered finding code. -/
def findingRegistry : List (String × RepairAction) := [
  ("STATE_IDENTITY_MUTATION", .deterministicRepair),
  ("CREATE_TARGET_EXISTS", .deterministicRepair),
  ("REPLACE_TARGET_MISSING", .deterministicRepair),
  ("OPERATION_TARGET_MISMATCH", .deterministicRepair),
  ("RECORD_EVIDENCE_MISMATCH", .deterministicRepair),
  ("INVALID_EVIDENCE_REF", .retryAfterSourceContextRefresh),
  ("ILLEGAL_STATE_TRANSITION", .curatorRepair),
  ("UNLISTED_STATE_TRANSITION", .guardianReview),
  ("TRUTH_PROMOTION", .guardianReview),
  ("FUTURE_EVIDENCE", .stopFatal),
  ("BASE_COMMIT_MISMATCH", .replan),
  ("INFORMATION_DERIVATION_BOUNDARY_VIOLATION", .stopFatal)]

/-- The action for a code that is not registered. -/
def fallbackAction (finding : ValidationFinding) : RepairAction :=
  match finding.retryability with
  | .nonRepairable => .stopFatal
  | .review => .guardianReview
  | .repairable | .conditional => .curatorRepair

def findingIds (findings : List ValidationFinding) : List StableId :=
  findings.map ValidationFinding.findingId

def findingOperationIds (findings : List ValidationFinding) : List StableId :=
  (findings.flatMap ValidationFinding.operationIds).eraseDups

/-- The codes of the findings that block. -/
def findingSignature (findings : List ValidationFinding) : List String :=
  ((findings.filter fun finding =>
    finding.severity = .error || finding.severity = .critical).map
      ValidationFinding.code).eraseDups

/-- How many earlier actions name every code of the signature. -/
def repeatedFindingSignature (priorActions : List RepairActionReceipt)
    (signature : List String) : Nat :=
  priorActions.countP fun receipt => signature.all fun code => receipt.reasonCodes.contains code

/-- The candidate policy. The digest turns the seed of a directive into its identity. -/
structure BoundedMemoryRepairPolicy where
  contentLimit : Nat := 2
  findingLimit : Nat := 2
  directiveId : String → StableId

namespace BoundedMemoryRepairPolicy

variable (policy : BoundedMemoryRepairPolicy)

/-- Build a directive. Operations outside the scope are dropped. -/
def directive (action : RepairAction) (findingIds operationIds : List StableId)
    (allowedScope : Option RepairScope) (reasonCodes : List String) (checkpoint : Bool) :
    RepairDirective :=
  let scope := allowedScope.getD { operationIds := operationIds }
  { directiveId := policy.directiveId
      (".".intercalate (action.value :: reasonCodes ++ findingIds.map StableId.root))
    action := action
    findingIds := findingIds
    operationIds := operationIds.filter fun id => scope.operationIds.contains id
    allowedScope := scope
    reasonCodes := reasonCodes
    checkpointRequired := checkpoint }

def budget (reason : String) : RepairDirective :=
  policy.directive .stopBudgetExhausted [] [] none
    ["SEMANTIC_REPAIR_BUDGET_EXHAUSTED", reason] true

def fatal (reason : String) : RepairDirective :=
  policy.directive .stopFatal [] [] none [reason] false

/-- Quarantine the operations that the findings name. -/
def quarantine (context : RepairContext) (reason : String) : RepairDirective :=
  let operationIds := findingOperationIds context.findings
  policy.directive .quarantineOperation [] operationIds (some { operationIds := operationIds })
    [reason] true

def curatorOrBudget (context : RepairContext) (reason : String) (ids : List StableId) :
    RepairDirective :=
  if context.budgetRemaining.curatorRepairs = 0 || context.budgetRemaining.totalModelCalls = 0 then
    policy.budget reason
  else
    match context.findings with
    | [] => policy.directive .curatorRepair ids [] (some {}) [reason] false
    | finding :: _ =>
      policy.directive .curatorRepair (if ids.isEmpty then [finding.findingId] else ids)
        finding.operationIds (some finding.allowedRepairScope) [reason] false

def guardianOrBudget (context : RepairContext) (ids : List StableId) : RepairDirective :=
  if context.budgetRemaining.guardianReviews = 0 || context.budgetRemaining.totalModelCalls = 0 then
    policy.budget "GUARDIAN_REVIEW"
  else
    policy.directive .guardianReview ids [] none ["GUARDIAN_REVIEW"] false

def refreshOrCurator (context : RepairContext) (ids : List StableId) : RepairDirective :=
  if 0 < context.budgetRemaining.contextRefreshes then
    policy.directive .retryAfterSourceContextRefresh ids [] none ["SOURCE_CONTEXT_REFRESH"] false
  else
    policy.curatorOrBudget context "SOURCE_CONTEXT_REFRESH_EXHAUSTED" ids

/-- What the guardian's verdict asks for, if it asks for anything. -/
def onGuardian (context : RepairContext) : Option RepairDirective :=
  match context.guardian.map GuardianDecision.outcome with
  | some .revise => some (policy.curatorOrBudget context "GUARDIAN_REVISE" [])
  | some .reject => some (policy.quarantine context "GUARDIAN_REJECT")
  | some .humanReview =>
    some (policy.directive .human [] [] none ["GUARDIAN_HUMAN_REVIEW"] true)
  | some .approve => none
  | none => none

/-- What the gate's verdict asks for, if it asks for anything. -/
def onGate (context : RepairContext) : Option RepairDirective :=
  match context.gate.map WriteGateDecision.outcome with
  | some .requireHuman =>
    some (policy.directive .human [] [] none ["WRITE_GATE_REQUIRE_HUMAN"] true)
  | some .requireGuardian => some (policy.guardianOrBudget context [])
  | some .blockGuardian => some (policy.quarantine context "WRITE_GATE_BLOCKED")
  | some .blockHuman => some (policy.quarantine context "WRITE_GATE_BLOCKED")
  | some .allowCommit => none
  | some .blockValidation => none
  | none => none

/-- The default action of the first finding, as far as the budget allows. -/
def onFinding (context : RepairContext) (first : ValidationFinding) : RepairDirective :=
  let ids := findingIds context.findings
  match (findingRegistry.lookup first.code).getD (fallbackAction first) with
  | .stopFatal => policy.fatal first.code
  | .replan => policy.directive .replan ids [] none [first.code] true
  | .retryAfterSourceContextRefresh => policy.refreshOrCurator context ids
  | .guardianReview => policy.guardianOrBudget context ids
  | .deterministicRepair =>
    let seen := context.priorActions.any fun receipt =>
      receipt.action = .deterministicRepair && receipt.candidateId = context.candidate.candidateId
    if seen || context.budgetRemaining.normalizationPasses = 0 then
      policy.curatorOrBudget context first.code ids
    else
      policy.directive .deterministicRepair ids first.operationIds
        (some first.allowedRepairScope) [first.code] false
  | .curatorRepair | .quarantineOperation | .human | .stopBudgetExhausted =>
    policy.curatorOrBudget context first.code ids

def onFindings (context : RepairContext) : RepairDirective :=
  match context.findings with
  | [] =>
    if context.risk.any PatchRiskAssessment.requiresGuardian then
      policy.guardianOrBudget context []
    else policy.fatal "NO_REPAIR_DECISION"
  | first :: _ =>
    if context.findings.any fun finding => finding.code = "FUTURE_EVIDENCE" then
      policy.fatal "FUTURE_EVIDENCE"
    else if context.findings.any fun finding =>
        finding.code = "BASE_COMMIT_MISMATCH" || finding.code = "BASE_MISMATCH" then
      policy.directive .replan [] [] none ["BASE_COMMIT_MISMATCH"] true
    else if context.findings.any ValidationFinding.requiresHuman then
      policy.directive .human [] [] none ["FINDING_REQUIRES_HUMAN"] true
    else if context.findings.any ValidationFinding.requiresContextRefresh then
      policy.refreshOrCurator context []
    else policy.onFinding context first

/-- Select exactly one next edge. -/
def decide (context : RepairContext) : RepairDirective :=
  let signature := findingSignature context.findings
  if context.currentCanonicalCommit ≠ context.candidate.baseCommit then
    policy.directive .replan [] [] none ["BASE_COMMIT_MISMATCH"] true
  else if !signature.isEmpty &&
      policy.findingLimit ≤ repeatedFindingSignature context.priorActions signature then
    policy.quarantine context "POISON_LOOP_FINDING"
  else if policy.contentLimit ≤
      context.repeatedContentHashes.count context.candidate.contentHash then
    policy.quarantine context "POISON_LOOP_CONTENT"
  else
    match policy.onGuardian context, policy.onGate context with
    | some directive, _ => directive
    | none, some directive => directive
    | none, none => policy.onFindings context

end BoundedMemoryRepairPolicy

end NovelAgent.MemoryWrite
