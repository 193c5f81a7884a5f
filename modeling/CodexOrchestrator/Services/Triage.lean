import Mathlib.Data.Finset.Option
import Mathlib.Data.Finset.Union
import CodexOrchestrator.Lib.Dict
import CodexOrchestrator.Schemas.Management

/-!
# Triage — from the changed areas to a decision and a work order

`app/services/continuation.py`, `triage.py` and `work_order.py`.  A `set` is a `Finset`.  The decision
and the risk of a continuation are `str` enumerations with the values of the schema's literals.
-/

open PyText

namespace CodexOrchestrator

/-! ## Continuation -/

abbrev ContinuationDecision := DecisionValue

abbrev ContinuationRisk := RiskLevel

inductive HardGateTrigger where
  | authenticationBehavior | authorizationBehavior | approvalFlow | policyModel | strictMode
  | actorTrustModel | auditSemantics | databaseSchema | providerContract | dependencyAddition
  | destructiveRefactor | productionBehavior | externalWrite | envHandling | roadmapPhase
  | architectureDirection
  deriving DecidableEq, Repr

def HardGateTrigger.value : HardGateTrigger → String
  | .authenticationBehavior => "authentication_behavior_change"
  | .authorizationBehavior => "authorization_behavior_change"
  | .approvalFlow => "approval_flow_change"
  | .policyModel => "policy_model_change"
  | .strictMode => "strict_mode_change"
  | .actorTrustModel => "actor_identity_trust_change"
  | .auditSemantics => "audit_logging_semantics_change"
  | .databaseSchema => "database_schema_or_migration"
  | .providerContract => "external_provider_contract_change"
  | .dependencyAddition => "dependency_addition_required"
  | .destructiveRefactor => "destructive_refactor"
  | .productionBehavior => "production_behavior_change"
  | .externalWrite => "external_write_send_publish_action"
  | .envHandling => "secrets_credentials_env_handling_change"
  | .roadmapPhase => "roadmap_phase_change_required"
  | .architectureDirection => "architecture_direction_change_required"

/-- The gates in the order of their values, which is how the code sorts them. -/
def HardGateTrigger.sortedByValue : List HardGateTrigger :=
  [.actorTrustModel, .approvalFlow, .architectureDirection, .auditSemantics,
    .authenticationBehavior, .authorizationBehavior, .databaseSchema, .dependencyAddition,
    .destructiveRefactor, .providerContract, .externalWrite, .policyModel, .productionBehavior,
    .roadmapPhase, .envHandling, .strictMode]

/-- `sorted(trigger.value for trigger in triggers)`. -/
def sortedTriggerValues (triggers : Finset HardGateTrigger) : List String :=
  (HardGateTrigger.sortedByValue.filter fun trigger => trigger ∈ triggers).map
    HardGateTrigger.value

def areaToHardGate : Dict HardGateTrigger :=
  ⟨[("auth", .authenticationBehavior), ("authorization", .authorizationBehavior),
    ("approval", .approvalFlow), ("policy", .policyModel), ("strict_mode", .strictMode),
    ("actor_trust", .actorTrustModel), ("audit", .auditSemantics), ("schema", .databaseSchema),
    ("migration", .databaseSchema), ("provider_contract", .providerContract),
    ("dependency", .dependencyAddition), ("destructive_refactor", .destructiveRefactor),
    ("production_behavior", .productionBehavior), ("external_write", .externalWrite),
    ("env", .envHandling), ("phase_change", .roadmapPhase),
    ("architecture_change", .architectureDirection)], by decide +kernel⟩

structure ContinuationContext where
  taskInActivePhase : Bool
  nextStepClear : Bool
  verificationPassed : Bool
  hardGateTriggers : Finset HardGateTrigger := ∅
  deriving DecidableEq

structure ContinuationAssessment where
  decision : ContinuationDecision
  risk : ContinuationRisk
  reason : String
  deriving DecidableEq, Repr

/-- `{area.strip().lower() for area in areas if area.strip()}`. -/
def normalizedAreas (changedAreas : Finset String) : Finset String :=
  (changedAreas.filter fun area => strip area ≠ "").image fun area => lower (strip area)

def detectHardGateTriggers (changedAreas : Finset String) : Finset HardGateTrigger :=
  (normalizedAreas changedAreas).biUnion fun area => (areaToHardGate.get? area).toFinset

def assessContinuation (context : ContinuationContext) : ContinuationAssessment :=
  if context.hardGateTriggers ≠ ∅ then
    { decision := .review
      risk := .high
      reason := "hard gate triggered: " ++ join ", " (sortedTriggerValues context.hardGateTriggers) }
  else if context.taskInActivePhase = false then
    { decision := .review
      risk := .high
      reason := "task is outside the active roadmap phase." }
  else if context.nextStepClear = false then
    { decision := .pause
      risk := .medium
      reason := "next valid step is unclear." }
  else if context.verificationPassed = false then
    { decision := .pause
      risk := .medium
      reason := "verification is failing or not yet isolated." }
  else
    { decision := .go
      risk := .low
      reason := "safe to continue with smallest phase-aligned change." }

/-! ## Triage -/

inductive RoutingDepartment where
  | management | progressControl | action | implementation | auditReview
  deriving DecidableEq, Repr

def RoutingDepartment.value : RoutingDepartment → String
  | .management => "management_department"
  | .progressControl => "progress_control_department"
  | .action => "action_department"
  | .implementation => "implementation_department"
  | .auditReview => "audit_review_department"

inductive EscalationReason where
  | none | hardGateTriggered | phaseMismatch | verificationUnstable | ambiguousScope
  | crossDepartment
  deriving DecidableEq, Repr

def EscalationReason.value : EscalationReason → String
  | .none => "none"
  | .hardGateTriggered => "hard_gate_triggered"
  | .phaseMismatch => "phase_mismatch"
  | .verificationUnstable => "verification_unstable"
  | .ambiguousScope => "ambiguous_scope"
  | .crossDepartment => "cross_department_routing"

def lowRiskAreas : Finset String :=
  {"docs", "formatting", "tests", "summary", "classification", "extraction"}

structure TriageContext where
  changedAreas : Finset String := ∅
  taskInActivePhase : Bool := true
  verificationPassed : Bool := true
  ambiguousScope : Bool := false
  deriving DecidableEq

structure TriageResult where
  riskLevel : ContinuationRisk
  routingTarget : RoutingDepartment
  escalationReason : EscalationReason
  escalationLikelyRequired : Bool
  decision : ContinuationDecision
  hardGateTriggers : Finset HardGateTrigger := ∅
  deriving DecidableEq

def triageTask (context : TriageContext) : TriageResult :=
  let areas := normalizedAreas context.changedAreas
  let hardGates := detectHardGateTriggers areas
  let continuation := assessContinuation
    { taskInActivePhase := context.taskInActivePhase
      nextStepClear := !context.ambiguousScope
      verificationPassed := context.verificationPassed
      hardGateTriggers := hardGates }
  if "cross_department" ∈ areas then
    { riskLevel := .high
      routingTarget := .management
      escalationReason := .crossDepartment
      escalationLikelyRequired := true
      decision := .review
      hardGateTriggers := hardGates }
  else if hardGates ≠ ∅ then
    { riskLevel := .high
      routingTarget := .management
      escalationReason := .hardGateTriggered
      escalationLikelyRequired := true
      decision := .review
      hardGateTriggers := hardGates }
  else if context.taskInActivePhase = false then
    { riskLevel := .high
      routingTarget := .management
      escalationReason := .phaseMismatch
      escalationLikelyRequired := true
      decision := .review
      hardGateTriggers := hardGates }
  else if context.verificationPassed = false then
    { riskLevel := .medium
      routingTarget := .progressControl
      escalationReason := .verificationUnstable
      escalationLikelyRequired := false
      decision := .pause
      hardGateTriggers := hardGates }
  else if context.ambiguousScope = true then
    { riskLevel := .medium
      routingTarget := .progressControl
      escalationReason := .ambiguousScope
      escalationLikelyRequired := false
      decision := .pause
      hardGateTriggers := hardGates }
  else if areas ≠ ∅ ∧ areas ⊆ lowRiskAreas then
    { riskLevel := .low
      routingTarget := .action
      escalationReason := .none
      escalationLikelyRequired := false
      decision := .go
      hardGateTriggers := hardGates }
  else if continuation.decision = .go then
    { riskLevel := .medium
      routingTarget := .implementation
      escalationReason := .none
      escalationLikelyRequired := false
      decision := .go
      hardGateTriggers := hardGates }
  else
    -- defensive fallback for future context expansion
    { riskLevel := .medium
      routingTarget := .progressControl
      escalationReason := .ambiguousScope
      escalationLikelyRequired := false
      decision := .pause
      hardGateTriggers := hardGates }

/-! ## Work orders -/

def defaultConstraints : List String :=
  ["No new dependencies", "No auth/approval/policy/audit behavior change"]

def defaultCompletionCriteria : List String :=
  ["Requested artifact exists", "No unrelated code change", "Verification passed"]

structure WorkOrderInput where
  taskSummary : String
  requiredFiles : List String := []
  optionalFiles : List String := []
  constraints : List String := defaultConstraints
  deriving DecidableEq, Repr

structure WorkOrderVerification where
  commands : List String := []
  expectedResult : String := "pass"
  deriving DecidableEq, Repr

structure WorkOrderGovernance where
  decisionOutcome : ContinuationDecision
  riskLevel : ContinuationRisk
  hardGateTriggers : Finset HardGateTrigger := ∅
  escalationReason : EscalationReason := .none
  managementReviewRequired : Bool := false
  deriving DecidableEq

structure WorkOrderDraft where
  workOrderId : String
  projectId : String
  title : String
  objective : String
  assignedDepartment : RoutingDepartment
  nextActionSuggestion : String
  inputs : WorkOrderInput
  governance : WorkOrderGovernance
  verification : WorkOrderVerification := {}
  completionCriteria : List String := defaultCompletionCriteria
  deriving DecidableEq

def managementReviewRequired (triageResult : TriageResult) : Bool :=
  decide (triageResult.decision = .review ∨
    triageResult.routingTarget ∈ [RoutingDepartment.management, .auditReview]) ||
    triageResult.escalationLikelyRequired

def nextActionSuggestion (triageResult : TriageResult) : String :=
  if triageResult.decision = .review then
    "Escalate to Management Department for REVIEW; do not continue autonomously."
  else if triageResult.decision = .pause then
    "PAUSE and isolate blockers in Progress Control before implementation handoff."
  else if triageResult.routingTarget = .action then
    "Run low-risk Action Department support task, then re-triage before implementation."
  else if triageResult.routingTarget = .implementation then
    "Proceed with the smallest implementation change and run targeted verification."
  else "Follow routed department instructions and keep GO/PAUSE/REVIEW governance intact."

def buildWorkOrderDraft (triageResult : TriageResult) (workOrderId projectId objective : String)
    (title : String := "Draft work order")
    (requiredFiles optionalFiles verificationCommands : Option (List String) := none) :
    WorkOrderDraft where
  workOrderId := workOrderId
  projectId := projectId
  title := title
  objective := objective
  assignedDepartment := triageResult.routingTarget
  nextActionSuggestion := nextActionSuggestion triageResult
  inputs :=
    { taskSummary := objective
      requiredFiles := requiredFiles.getD []
      optionalFiles := optionalFiles.getD [] }
  governance :=
    { decisionOutcome := triageResult.decision
      riskLevel := triageResult.riskLevel
      hardGateTriggers := triageResult.hardGateTriggers
      escalationReason := triageResult.escalationReason
      managementReviewRequired := managementReviewRequired triageResult }
  verification := { commands := verificationCommands.getD [] }

/-! ## What a triage says -/

theorem HardGateTrigger.mem_sortedByValue (trigger : HardGateTrigger) :
    trigger ∈ sortedByValue := by
  cases trigger <;> decide

/-- The code's order of gates is the order of their values. -/
theorem HardGateTrigger.sortedByValue_sorted :
    (sortedByValue.map value).Pairwise (· < ·) := by
  decide +kernel

theorem mem_sortedTriggerValues {triggers : Finset HardGateTrigger} {text : String} :
    text ∈ sortedTriggerValues triggers ↔ ∃ trigger ∈ triggers, trigger.value = text := by
  simp [sortedTriggerValues, HardGateTrigger.mem_sortedByValue]

/-- The three kinds of triage: a review, which is escalated to the management; a pause, which is not;
    and a go.  Only a review has hard gates. -/
inductive Triaged : TriageResult → Prop where
  | review {reason : EscalationReason} {gates : Finset HardGateTrigger}
      (escalated : reason ≠ .none) : Triaged ⟨.high, .management, reason, true, .review, gates⟩
  | pause {reason : EscalationReason} (escalated : reason ≠ .none) :
      Triaged ⟨.medium, .progressControl, reason, false, .pause, ∅⟩
  | go {risk : ContinuationRisk} {routing : RoutingDepartment}
      (routed : routing = .action ∨ routing = .implementation) :
      Triaged ⟨risk, routing, .none, false, .go, ∅⟩

theorem triageTask_triaged (context : TriageContext) : Triaged (triageTask context) := by
  unfold triageTask
  dsimp only
  generalize detectHardGateTriggers (normalizedAreas context.changedAreas) = gates
  split
  · exact .review (by decide)
  · split
    · exact .review (by decide)
    · -- from here on there is no hard gate
      rename_i hgates
      rw [not_not.mp hgates]
      split
      · exact .review (by decide)
      split
      · exact .pause (by decide)
      split
      · exact .pause (by decide)
      split
      · exact .go (.inl rfl)
      split
      · exact .go (.inr rfl)
      · exact .pause (by decide)

end CodexOrchestrator
