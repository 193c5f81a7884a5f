import Mathlib.Data.Rat.Defs
import CodexOrchestrator.Lib.Dict

/-!
# Schemas — the data model of a project

`app/schemas/project.py`, `brief.py` and `trend.py`.  A `dict[str, Any]` holds JSON values.
-/

namespace CodexOrchestrator

/-- A JSON value, as `model_dump()` and the event metadata hold them. -/
inductive Json where
  | null
  | bool (b : Bool)
  | num (q : ℚ)
  | str (s : String)
  | arr (items : List Json)
  | obj (fields : List (String × Json))

mutual

/-- Values of JSON columns are compared when a changed row is written. -/
def Json.decEq : (a b : Json) → Decidable (a = b)
  | .null, b => match b with
      | .null => isTrue rfl
      | .bool _ | .num _ | .str _ | .arr _ | .obj _ => isFalse nofun
  | .bool x, b => match b with
      | .bool y => decidable_of_iff (x = y) (Json.bool.injEq x y).symm.to_iff
      | .null | .num _ | .str _ | .arr _ | .obj _ => isFalse nofun
  | .num x, b => match b with
      | .num y => decidable_of_iff (x = y) (Json.num.injEq x y).symm.to_iff
      | .null | .bool _ | .str _ | .arr _ | .obj _ => isFalse nofun
  | .str x, b => match b with
      | .str y => decidable_of_iff (x = y) (Json.str.injEq x y).symm.to_iff
      | .null | .bool _ | .num _ | .arr _ | .obj _ => isFalse nofun
  | .arr xs, b => match b with
      | .arr ys =>
          have := Json.decEqItems xs ys
          decidable_of_iff (xs = ys) (Json.arr.injEq xs ys).symm.to_iff
      | .null | .bool _ | .num _ | .str _ | .obj _ => isFalse nofun
  | .obj xs, b => match b with
      | .obj ys =>
          have := Json.decEqFields xs ys
          decidable_of_iff (xs = ys) (Json.obj.injEq xs ys).symm.to_iff
      | .null | .bool _ | .num _ | .str _ | .arr _ => isFalse nofun

def Json.decEqItems : (xs ys : List Json) → Decidable (xs = ys)
  | [], [] => isTrue rfl
  | [], _ :: _ | _ :: _, [] => isFalse nofun
  | x :: xs, y :: ys =>
      have := Json.decEq x y
      have := Json.decEqItems xs ys
      decidable_of_iff (x = y ∧ xs = ys) (List.cons.injEq x xs y ys).symm.to_iff

def Json.decEqFields : (xs ys : List (String × Json)) → Decidable (xs = ys)
  | [], [] => isTrue rfl
  | [], _ :: _ | _ :: _, [] => isFalse nofun
  | (k, x) :: xs, (l, y) :: ys =>
      have := Json.decEq x y
      have := Json.decEqFields xs ys
      decidable_of_iff (k = l ∧ x = y ∧ xs = ys) (by simp [and_assoc])

end

instance : DecidableEq Json := Json.decEq

/-- The entries of a `dict[str, Any]` written out as a literal. -/
abbrev JsonDict := List (String × Json)

def Json.ofOption : Option String → Json
  | none => .null
  | some s => .str s

def Json.strings (items : List String) : Json :=
  .arr (items.map .str)

inductive Department where
  | research | design | build | review | trend
  deriving DecidableEq, Repr

inductive ActorRole where
  | owner | operator | approver | admin | viewer
  deriving DecidableEq, Repr

def ActorRole.value : ActorRole → String
  | .owner => "owner"
  | .operator => "operator"
  | .approver => "approver"
  | .admin => "admin"
  | .viewer => "viewer"

inductive ActorType where
  | human | service | system
  deriving DecidableEq, Repr

structure ActorContext where
  actorId : String
  actorRole : ActorRole
  actorType : ActorType := .human
  deriving DecidableEq, Repr

structure ProjectPolicyActionRule where
  allowedRoles : List ActorRole := []
  allowedActorIds : List String := []
  deriving DecidableEq, Repr

structure ProjectPolicy where
  projectOwnerActorId : Option String := none
  strictMode : Bool := false
  actionRules : Dict ProjectPolicyActionRule := .empty
  deriving DecidableEq

inductive TaskStatus where
  | pending | inProgress | waitingApproval | revisionRequested | done | blocked
  deriving DecidableEq, Repr

def TaskStatus.value : TaskStatus → String
  | .pending => "pending"
  | .inProgress => "in_progress"
  | .waitingApproval => "waiting_approval"
  | .revisionRequested => "revision_requested"
  | .done => "done"
  | .blocked => "blocked"

inductive ProjectStatus where
  | draft | intakePending | readyForPlanning | inProgress | waitingApproval | reviewFailed
  | revisionRequested | completed
  deriving DecidableEq, Repr

def ProjectStatus.value : ProjectStatus → String
  | .draft => "draft"
  | .intakePending => "intake_pending"
  | .readyForPlanning => "ready_for_planning"
  | .inProgress => "in_progress"
  | .waitingApproval => "waiting_approval"
  | .reviewFailed => "review_failed"
  | .revisionRequested => "revision_requested"
  | .completed => "completed"

/-- The member, as an f-string shows it from Python 3.11 on. -/
def ProjectStatus.member : ProjectStatus → String
  | .draft => "ProjectStatus.DRAFT"
  | .intakePending => "ProjectStatus.INTAKE_PENDING"
  | .readyForPlanning => "ProjectStatus.READY_FOR_PLANNING"
  | .inProgress => "ProjectStatus.IN_PROGRESS"
  | .waitingApproval => "ProjectStatus.WAITING_APPROVAL"
  | .reviewFailed => "ProjectStatus.REVIEW_FAILED"
  | .revisionRequested => "ProjectStatus.REVISION_REQUESTED"
  | .completed => "ProjectStatus.COMPLETED"

structure ProjectBrief where
  title : Option String := none
  objective : String
  scope : Option String := none
  constraints : List String := []
  successCriteria : List String := []
  deadline : Option String := none
  stakeholders : List String := []
  assumptions : List String := []
  rawRequest : String
  deriving DecidableEq, Repr

structure IntakeResult where
  brief : ProjectBrief
  missingFields : List String := []
  clarifyingQuestions : List String := []
  deriving DecidableEq, Repr

structure Project where
  id : String
  brief : ProjectBrief
  policy : ProjectPolicy := {}
  status : ProjectStatus := .draft
  deriving DecidableEq

structure Task where
  id : String
  title : String
  department : Department
  status : TaskStatus := .pending
  dependsOn : List String := []
  note : String := ""
  deriving DecidableEq, Repr

structure Artifact where
  id : String
  taskId : String
  artifactType : String
  content : JsonDict := []

structure Review where
  id : String
  taskId : String
  verdict : String
  findings : List String := []
  deriving DecidableEq, Repr

structure Checkpoint where
  id : String
  name : String
  approved : Bool := false
  approver : String := "human"
  note : String := ""
  deriving DecidableEq, Repr

inductive ApprovalActionType where
  | externalApiSend | destructiveChange | bulkModify | productionAffectingChange
  deriving DecidableEq, Repr

def ApprovalActionType.value : ApprovalActionType → String
  | .externalApiSend => "external_api_send"
  | .destructiveChange => "destructive_change"
  | .bulkModify => "bulk_modify"
  | .productionAffectingChange => "production_affecting_change"

/-- The action types in the order of their values, which is how the code sorts them. -/
def ApprovalActionType.sortedByValue : List ApprovalActionType :=
  [.bulkModify, .destructiveChange, .externalApiSend, .productionAffectingChange]

/-- `ApprovalActionType(text)`; `none` is its `ValueError`. -/
def ApprovalActionType.ofValue? (text : String) : Option ApprovalActionType :=
  sortedByValue.find? fun action => action.value = text

inductive ApprovalStatus where
  | pending | approved | rejected
  deriving DecidableEq, Repr

structure ApprovalRequest where
  id : String
  actionType : ApprovalActionType
  status : ApprovalStatus := .pending
  reason : String
  requestedBy : String := "system"
  decisionNote : String := ""
  deriving DecidableEq, Repr

inductive RevisionResumeMode where
  | replanning | rebuilding | rereview
  deriving DecidableEq, Repr

def RevisionResumeMode.value : RevisionResumeMode → String
  | .replanning => "replanning"
  | .rebuilding => "rebuilding"
  | .rereview => "rereview"

inductive HistoryEventType where
  | authenticationSucceeded | authenticationFailed | actorResolved | stateTransition
  | approvalRequested | approvalApproved | approvalRejected | authorizationGranted
  | authorizationFailed | policyOverrideApplied | revisionRequested | replanningStarted
  | resumeTriggered | taskStatusChanged
  deriving DecidableEq, Repr

structure HistoryEvent where
  eventType : HistoryEventType
  actor : String := "system"
  actorRole : ActorRole := .admin
  actorType : ActorType := .system
  timestamp : String
  reason : String := ""
  metadata : JsonDict := []

structure ProjectRecord where
  project : Project
  tasks : List Task := []
  artifacts : List Artifact := []
  reviews : List Review := []
  checkpoints : List Checkpoint := []
  approvals : List ApprovalRequest := []
  history : List String := []
  events : List HistoryEvent := []

structure ProjectSummary where
  projectId : String
  status : ProjectStatus
  completedTasks : Nat
  artifactCount : Nat
  nextSteps : List String := []
  deriving DecidableEq, Repr

structure OrchestrationResult where
  record : ProjectRecord
  summary : ProjectSummary

/-! ## Trend analysis -/

structure TrendEvidence where
  source : String
  title : String
  url : Option String := none
  publishedAt : Option String := none
  snippet : String := ""
  deriving DecidableEq, Repr

structure TrendCandidate where
  name : String
  description : String
  evidence : List TrendEvidence := []
  freshness : ℚ
  confidence : ℚ
  adoptionNote : String
  freshness_range : 0 ≤ freshness ∧ freshness ≤ 1 := by decide
  confidence_range : 0 ≤ confidence ∧ confidence ≤ 1 := by decide
  deriving DecidableEq

structure TrendAnalysisRequest where
  trendTopic : String
  context : Option String := none
  maxItems : Nat := 3
  maxItems_range : 1 ≤ maxItems ∧ maxItems ≤ 10 := by decide
  deriving DecidableEq

structure TrendAnalysisResult where
  provider : String
  trendTopic : String
  candidateTrends : List TrendCandidate := []
  deriving DecidableEq

structure TrendWorkflowReport where
  provider : String
  providerHint : String
  trendTopic : String
  candidateTrends : List TrendCandidate := []
  governanceNote : String
  nextActionSuggestion : String
  deriving DecidableEq

def TrendEvidence.modelDump (evidence : TrendEvidence) : Json :=
  .obj [("source", .str evidence.source), ("title", .str evidence.title),
    ("url", .ofOption evidence.url), ("published_at", .ofOption evidence.publishedAt),
    ("snippet", .str evidence.snippet)]

def TrendCandidate.modelDump (candidate : TrendCandidate) : Json :=
  .obj [("name", .str candidate.name), ("description", .str candidate.description),
    ("evidence", .arr (candidate.evidence.map TrendEvidence.modelDump)),
    ("freshness", .num candidate.freshness), ("confidence", .num candidate.confidence),
    ("adoption_note", .str candidate.adoptionNote)]

def TrendAnalysisResult.modelDump (result : TrendAnalysisResult) : JsonDict :=
  [("provider", .str result.provider), ("trend_topic", .str result.trendTopic),
    ("candidate_trends", .arr (result.candidateTrends.map TrendCandidate.modelDump))]

/-! ## Enumeration values -/

theorem ApprovalActionType.mem_sortedByValue (action : ApprovalActionType) :
    action ∈ sortedByValue := by
  cases action <;> decide

theorem ApprovalActionType.ofValue?_value (action : ApprovalActionType) :
    ofValue? action.value = some action := by
  cases action <;> decide

theorem ApprovalActionType.value_injective : Function.Injective value := by
  intro a b h
  have ha := ofValue?_value a
  rw [h, ofValue?_value b] at ha
  exact (Option.some.inj ha).symm

/-- The code's order of action types is the order of their values. -/
theorem ApprovalActionType.sortedByValue_sorted :
    (sortedByValue.map value).Pairwise (· < ·) := by
  decide

end CodexOrchestrator
