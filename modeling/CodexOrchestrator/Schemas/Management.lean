import CodexOrchestrator.Lib.Raise
import CodexOrchestrator.Lib.Text

/-!
# Management schemas — what a review hands on

`app/schemas/management.py`, `management_decision.py` and `review_queue.py`.  A field that the schema
keeps from being empty carries that as a field of its structure.
-/

open PyText

namespace CodexOrchestrator

/-- `Literal["GO", "PAUSE", "REVIEW"]`, which the services name `DecisionValue`. -/
inductive DecisionValue where
  | go | pause | review
  deriving DecidableEq, Repr

def DecisionValue.value : DecisionValue → String
  | .go => "GO"
  | .pause => "PAUSE"
  | .review => "REVIEW"

/-- `Literal["low", "medium", "high"]`. -/
inductive RiskLevel where
  | low | medium | high
  deriving DecidableEq, Repr

/-! ## The brief under review -/

structure DepartmentContext where
  originDepartment : String := "intake_department"
  candidateRouting : String := "progress_control_department"
  ownershipBoundaryNote : String :=
    "Intake prepares draft brief data and does not self-approve governance-sensitive work."
  deriving DecidableEq, Repr

structure RiskSnapshot where
  riskLevel : RiskLevel := .low
  hardGateTriggered : Bool := false
  hardGateTriggers : List String := []
  escalationLikelyRequired : Bool := false
  deriving DecidableEq, Repr

structure ProposedActionDraft where
  summary : String := "Route to Progress Control for triage and management review."
  verificationPlan : List String := []
  deriving DecidableEq, Repr

structure CurrentBriefArtifact where
  briefId : String
  projectId : String
  activePhase : String := "phase_4"
  currentTask : String
  requestedScope : List String := []
  outOfScope : List String := []
  departmentContext : DepartmentContext := {}
  riskSnapshot : RiskSnapshot := {}
  proposedAction : ProposedActionDraft := {}
  intakeMissingFields : List String := []
  clarifyingQuestions : List String := []
  deriving DecidableEq, Repr

/-! ## The review -/

structure ManagementReviewSummary where
  projectId : String
  briefId : Option String := none
  currentTask : String
  decisionOutcome : DecisionValue
  riskLevel : RiskLevel
  departmentRouting : String
  hardGateTriggered : Bool
  hardGateTriggers : List String := []
  proposedAction : String
  requiredReview : Bool
  escalationReason : Option String := none
  trendProvider : Option String := none
  trendCandidateCount : Nat := 0
  workOrderId : Option String := none
  deriving DecidableEq, Repr

structure BriefSummary where
  requestedScope : List String := []
  outOfScope : List String := []
  missingFields : List String := []
  clarifyingQuestions : List String := []
  deriving DecidableEq, Repr

structure ManagementReviewPacket where
  packetId : String
  projectId : String
  briefId : Option String := none
  currentTask : String
  summarizedBrief : BriefSummary
  riskLevel : RiskLevel
  departmentRoutingRecommendation : String
  hardGateStatus : Bool
  hardGateTriggers : List String := []
  escalationReasons : List String := []
  proposedNextAction : String
  recommendation : DecisionValue
  requiredReview : Bool
  workOrderId : Option String := none
  trendProvider : Option String := none
  trendCandidateCount : Nat := 0
  deriving DecidableEq, Repr

/-- `Literal["human", "model", "system", "unknown"]`. -/
inductive ReviewerType where
  | human | model | system | unknown
  deriving DecidableEq, Repr

def ReviewerType.value : ReviewerType → String
  | .human => "human"
  | .model => "model"
  | .system => "system"
  | .unknown => "unknown"

structure ManagementDecisionRecord where
  itemId : String
  decision : DecisionValue
  reviewerId : String
  reviewerType : ReviewerType := .unknown
  rationale : String
  constraints : List String := []
  followUpNotes : List String := []
  approvedNextAction : String := ""
  decidedAt : Option String := none
  relatedProjectId : Option String := none
  relatedQueueItemId : Option String := none
  relatedPacketId : Option String := none
  itemId_ne : itemId ≠ "" := by decide
  reviewerId_ne : reviewerId ≠ "" := by decide
  rationale_ne : rationale ≠ "" := by decide
  deriving DecidableEq

inductive ReviewQueueStatus where
  | pending | inReview | resolved | escalated
  deriving DecidableEq, Repr

structure ReviewQueueItem where
  itemId : String
  currentTask : String
  riskLevel : RiskLevel
  departmentRouting : String
  hardGateStatus : Bool
  hardGateTriggers : List String := []
  escalationReason : Option String := none
  escalationReasons : List String := []
  recommendation : DecisionValue
  reviewStatus : ReviewQueueStatus := .pending
  relatedProjectId : Option String := none
  relatedBriefId : Option String := none
  relatedWorkOrderId : Option String := none
  createdAt : Option String := none
  updatedAt : Option String := none
  note : String := ""
  itemId_ne : itemId ≠ "" := by decide
  currentTask_ne : currentTask ≠ "" := by decide
  departmentRouting_ne : departmentRouting ≠ "" := by decide
  deriving DecidableEq

/-- The `ValidationError` of a model with fields that are shorter than `min_length=1`: it lists each
    of them with the same reason. -/
def tooShort (model : String) (fields : List (String × String)) : PyError :=
  .other "ValidationError" (model ++ ": " ++ join "; "
    ((fields.filter fun field => field.2 = "").map fun field =>
      field.1 ++ ": String should have at least 1 character"))

end CodexOrchestrator
