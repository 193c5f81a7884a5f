import CodexOrchestrator.Schemas
import CodexOrchestrator.Schemas.Management

/-!
# Activation decision — the dry-run judgment on limited live provider use

`app/services/activation_decision.py`: the decision artifact and how it is derived, and
`approval_record_builder.py`: the approval record that is built from it.
-/

open PyText

namespace CodexOrchestrator

structure DryRunActivationDecision where
  activationTarget : JsonDict
  activationScope : Dict (List String)
  preconditionsSatisfied : List String
  remainingBlockers : List String
  humanApprovalsRecorded : List (Dict String)
  recommendation : DecisionValue
  autonomousContinuationStatus : String
  autonomousContinuationNote : String
  rollbackDisableExpectation : String
  escalationDestination : Option String := none
  reReviewRequired : Bool := false

/-! ## The decision -/

def activationTarget : JsonDict :=
  [("department", .str "action_department"),
    ("provider_use_mode", .str "limited_live_provider_use"),
    ("provider_aliases", .strings ["gemini-flash-lite-latest", "gemini-flash-latest"])]

def activationScope : Dict (List String) :=
  ⟨[("allowed_use_cases", ["low-risk extraction", "low-risk classification",
      "draft summarization for management review artifacts"]),
    ("excluded_use_cases", ["final authority for risky continuation",
      "auth/approval/policy/audit decisions", "automatic autonomous continuation"])],
    (by decide : ["allowed_use_cases", "excluded_use_cases"].Nodup)⟩

def activationCheckpoint : String := "limited_live_provider_use_activation"

def auditAndReviewDepartment : String := "Audit and Review Department"

def autonomousNotApproved : String := "not_approved"

def autonomousNote : String :=
  "Autonomous continuation remains not approved unless explicitly approved " ++
    "through the required governance process."

/-- `_unique_preserve_order`. -/
def uniquePreserveOrder (values : List String) : List String :=
  distinctTrimmed values

/-- The entries of the item that can block: its triggers, its reasons and its one reason, as they
    stand. -/
def blockerEntries (reviewQueueItem : ReviewQueueItem) : List String :=
  let blockers := reviewQueueItem.hardGateTriggers ++ reviewQueueItem.escalationReasons
  match reviewQueueItem.escalationReason with
  | some reason => if reason = "" then blockers else blockers ++ [reason]
  | none => blockers

def collectUnresolvedBlockers (reviewQueueItem : ReviewQueueItem) : List String :=
  let blockers := blockerEntries reviewQueueItem
  -- the default goes in before blank entries are taken out
  let blockers :=
    if reviewQueueItem.hardGateStatus = true ∧ blockers = [] then blockers ++ ["hard_gate_active"]
    else blockers
  uniquePreserveOrder blockers

def buildPreconditions (unresolvedBlockers : List String)
    (managementReviewPacket : ManagementReviewPacket) : List String :=
  ["management_review_packet validated", "review_queue_item validated",
    "management_decision validated"] ++
    if unresolvedBlockers = [] ∧ managementReviewPacket.requiredReview = false then
      ["no unresolved blockers detected"]
    else []

def humanStatusForDecision : DecisionValue → String
  | .go => "approved"
  | .pause => "pending"
  | .review => "withheld"

def rollbackExpectationForDecision : DecisionValue → String
  | .go => "If any guardrail fails, disable limited live provider use immediately " ++
      "and route work to REVIEW."
  | .pause => "Keep limited live provider use disabled until blockers are resolved and " ++
      "re-review is completed."
  | .review => "Do not activate limited live provider use; maintain disabled state and route " ++
      "all related work through REVIEW escalation."

/-- A GO of the management stands only without blockers and without a required review. -/
def recommendationFor (unresolvedBlockers : List String) (requiredReview : Bool)
    (decision : DecisionValue) : DecisionValue :=
  if decision = .go ∧ (unresolvedBlockers ≠ [] ∨ requiredReview = true) then .pause else decision

def deriveDryRunActivationDecision (managementReviewPacket : ManagementReviewPacket)
    (reviewQueueItem : ReviewQueueItem) (managementDecision : ManagementDecisionRecord) :
    DryRunActivationDecision :=
  let unresolvedBlockers := collectUnresolvedBlockers reviewQueueItem
  let recommendation := recommendationFor unresolvedBlockers managementReviewPacket.requiredReview
    managementDecision.decision
  { activationTarget := activationTarget
    activationScope := activationScope
    preconditionsSatisfied := buildPreconditions unresolvedBlockers managementReviewPacket
    remainingBlockers := unresolvedBlockers
    humanApprovalsRecorded :=
      [⟨[("checkpoint", activationCheckpoint),
        ("status", humanStatusForDecision recommendation),
        ("approver_id", managementDecision.reviewerId),
        ("approver_type", managementDecision.reviewerType.value),
        ("note", "Derived from management decision artifact in dry-run mode.")],
        (by decide : ["checkpoint", "status", "approver_id", "approver_type", "note"].Nodup)⟩]
    recommendation := recommendation
    autonomousContinuationStatus := autonomousNotApproved
    autonomousContinuationNote := autonomousNote
    rollbackDisableExpectation := rollbackExpectationForDecision recommendation
    escalationDestination :=
      if recommendation = .review then some auditAndReviewDepartment else none
    reReviewRequired :=
      decide (unresolvedBlockers ≠ []) || decide (recommendation ∈ [DecisionValue.pause, .review]) }

/-! ## The approval record -/

def retainedConstraintsByDecision : DecisionValue → List String
  | .go => ["latest-alias outputs remain advisory-only for risky work",
      "hard-gate-first REVIEW escalation remains mandatory",
      "external sends and production-impacting actions remain separately approval-gated"]
  | .pause => ["latest-alias outputs remain advisory-only for risky work",
      "hard-gate-first REVIEW escalation remains mandatory"]
  | .review => ["latest-alias outputs remain advisory-only for risky work",
      "no live provider activation while hard-gate concerns remain unresolved"]

/-- An optional text between two literals, as an f-string shows it. -/
def showOption : Option String → String
  | none => "None"
  | some text => text

def managementReviewNoteForDecision (recommendation : DecisionValue)
    (escalationDestination : Option String) (reReviewRequired : Bool) : String :=
  match recommendation with
  | .go => "GO for limited activation review path only."
  | .pause =>
      if reReviewRequired then "Pause until blockers are resolved and re-review is completed."
      else "Pause until blockers are resolved."
  | .review =>
      "Escalate to " ++ showOption escalationDestination ++ " for unresolved blocker set."

def followUpActionsForDecision (recommendation : DecisionValue)
    (escalationDestination : Option String) (reReviewRequired : Bool) : List String :=
  match recommendation with
  | .go => ["Complete authn/policy hardening backlog",
      "Run rollback drills for limited live provider incidents",
      "Document broadened live-use criteria with Management + Audit sign-off"]
  | .pause => ["Resolve remaining blockers before activation reconsideration."] ++
      if reReviewRequired then ["Complete re-review before continuation."] else []
  | .review => ["Escalate to " ++ showOption escalationDestination ++
        " before activation reconsideration.",
      "Resolve retained blockers and resubmit through management review."]

/-- `given or fallback` on an optional text. -/
def orDefault (given : Option String) (fallback : String) : String :=
  orElse (given.getD "") fallback

/-- `if value is not None: record[key] = value`, for a key that is new. -/
def recordIfGiven (key : String) (value : Option String) : JsonDict :=
  match value with
  | some text => [(key, .str text)]
  | none => []

def buildActionDepartmentActivationApprovalRecord (decision : DryRunActivationDecision)
    (activationReviewItemId : String)
    (approvalRecordId reviewerId reviewerType rationale relatedProjectId
      relatedActivationDecisionId relatedPacketId relatedQueueItemId : Option String := none) :
    Except PyError JsonDict :=
  match decision.humanApprovalsRecorded with
  | [] => .error (.other "IndexError" "list index out of range")
  | firstApproval :: _ =>
      if decision.recommendation = .review ∧ orDefault decision.escalationDestination "" = "" then
        .error (.valueError "REVIEW recommendation requires explicit escalation destination.")
      else
        let approval := fun key fallback => (firstApproval.get? key).getD fallback
        .ok ([
          ("approval_record_id", .str (orDefault approvalRecordId
            ("approval_record_for_" ++ activationReviewItemId))),
          ("activation_review_item_id", .str activationReviewItemId),
          ("activation_target", .obj decision.activationTarget),
          ("activation_scope", .obj (decision.activationScope.entries.map fun entry =>
            (entry.1, .strings entry.2))),
          ("human_approval_status", .obj [
            ("status", .str (approval "status" "pending")),
            ("checkpoint", .str (approval "checkpoint" "limited_live_provider_use_activation")),
            ("approver_id", .str (approval "approver_id" "unknown-reviewer")),
            ("note", .str (approval "note" "Derived from projected activation decision."))]),
          ("management_review_status", .obj [
            ("status", .str "completed"),
            ("reviewer_id", .str (orDefault reviewerId
              (approval "approver_id" "unknown-reviewer"))),
            ("reviewer_type", .str (orDefault reviewerType
              (approval "approver_type" "unknown-type"))),
            ("review_outcome", .str decision.recommendation.value),
            ("note", .str (managementReviewNoteForDecision decision.recommendation
              decision.escalationDestination decision.reReviewRequired))]),
          ("recommendation", .str decision.recommendation.value),
          ("autonomous_continuation_status", .str decision.autonomousContinuationStatus),
          ("autonomous_continuation_note", .str decision.autonomousContinuationNote),
          ("retained_constraints",
            .strings (retainedConstraintsByDecision decision.recommendation)),
          ("blocker_notes", .strings decision.remainingBlockers),
          ("rollback_disable_expectation", .str decision.rollbackDisableExpectation),
          ("follow_up_actions_before_broader_live_use",
            .strings (followUpActionsForDecision decision.recommendation
              decision.escalationDestination decision.reReviewRequired)),
          ("rationale", .str (orDefault rationale
            "Derived from projected activation decision in dry-run mode."))] ++
          recordIfGiven "related_project_id" relatedProjectId ++
          recordIfGiven "related_activation_decision_id" relatedActivationDecisionId ++
          recordIfGiven "related_packet_id" relatedPacketId ++
          recordIfGiven "related_queue_item_id" relatedQueueItemId)

end CodexOrchestrator
