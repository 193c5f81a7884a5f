import CodexOrchestrator.Intake
import CodexOrchestrator.Services.DryRunOrchestration
import CodexOrchestrator.Services.ManagementReview

/-!
# Dry run — from a request to its projections

`app/services/dry_run_orchestration.py`, up to `build_dry_run_artifact_bundle`.  The eight hex digits
that each `uuid4()` gives are parameters.
-/

open Raise

namespace CodexOrchestrator

/-- The fresh parts of the ids that a dry run makes up where none is given. -/
structure DryRunUuids where
  project : String
  brief : String
  workOrder : String
  packet : String
  queueItem : String

structure DryRunOrchestrationRequest where
  userRequest : String
  changedAreas : Finset String := ∅
  includeTrend : Bool := false
  trendProviderHint : String := "mock"
  taskInActivePhase : Bool := true
  verificationPassed : Bool := true
  ambiguousScope : Bool := false
  generateWorkOrder : Bool := true
  projectId : Option String := none
  briefId : Option String := none
  workOrderId : Option String := none
  currentTask : Option String := none
  managementDecision : Option ManagementDecisionRecord := none

structure DryRunDecisionProjection where
  decision : DecisionValue
  rationale : String
  nextStep : String
  autonomousContinuationAllowed : Bool
  deriving DecidableEq, Repr

structure DryRunOrchestrationResult where
  mode : String
  notice : String
  intakeResult : IntakeResult
  currentBrief : CurrentBriefArtifact
  triageResult : TriageResult
  trendReport : Option TrendWorkflowReport
  workOrder : Option WorkOrderDraft
  managementSummary : ManagementReviewSummary
  managementDecision : Option ManagementDecisionRecord
  decisionProjection : DryRunDecisionProjection
  projectedActivationDecision : Option DryRunActivationDecision := none

/-! ## The two projections -/

/-- The decision, its rationale and the next step it suggests: those of the management, else those
    of the summary. -/
def projectionBasis (managementSummary : ManagementReviewSummary) :
    Option ManagementDecisionRecord → DecisionValue × String × String
  | some record => (record.decision, record.rationale,
      PyText.orElse record.approvedNextAction managementSummary.proposedAction)
  | none => (managementSummary.decisionOutcome, "Derived from management summary recommendation.",
      managementSummary.proposedAction)

def projectDryRunDecision (managementSummary : ManagementReviewSummary)
    (managementDecision : Option ManagementDecisionRecord) : DryRunDecisionProjection :=
  let (decision, rationale, candidateNext) := projectionBasis managementSummary managementDecision
  if decision = .review then
    { decision, rationale
      nextStep := "Escalate to Management/Audit review; do not continue autonomously."
      autonomousContinuationAllowed := false }
  else if decision = .pause then
    { decision, rationale
      nextStep :=
        "Pause dry-run progression and resolve blockers before next simulation step."
      autonomousContinuationAllowed := false }
  else if managementSummary.requiredReview then
    { decision, rationale
      nextStep := "Management review is still required for this dry-run outcome; " ++
        "do not continue autonomously."
      autonomousContinuationAllowed := false }
  else if managementSummary.hardGateTriggered then
    { decision, rationale
      nextStep := "GO noted in dry-run, but hard gate remains active; " ++
        "keep management-led review path."
      autonomousContinuationAllowed := false }
  else
    { decision, rationale
      nextStep := candidateNext
      autonomousContinuationAllowed := true }

/-- The decision record that stands in for a missing one. -/
def systemDecision (managementSummary : ManagementReviewSummary)
    (packet : ManagementReviewPacket) (queueItem : ReviewQueueItem) : ManagementDecisionRecord where
  itemId := queueItem.itemId
  decision := managementSummary.decisionOutcome
  reviewerId := "dry-run-system"
  reviewerType := .system
  rationale := "Derived from management summary in dry-run mode."
  approvedNextAction := managementSummary.proposedAction
  relatedProjectId := some managementSummary.projectId
  relatedQueueItemId := some queueItem.itemId
  relatedPacketId := some packet.packetId
  itemId_ne := queueItem.itemId_ne

def buildProjectedActivationDecision (uuids : DryRunUuids) (currentBrief : CurrentBriefArtifact)
    (managementSummary : ManagementReviewSummary)
    (managementDecision : Option ManagementDecisionRecord) :
    Except PyError DryRunActivationDecision := do
  let packet := buildManagementReviewPacket currentBrief managementSummary uuids.packet
  let queueItem ← reviewPacketToQueueItem packet uuids.queueItem
  let effectiveDecision :=
    managementDecision.getD (systemDecision managementSummary packet queueItem)
  return deriveDryRunActivationDecision packet queueItem effectiveDecision

/-! ## The run -/

def simulationNotice : String :=
  "Dry-run simulation only. This output cannot authorize risky continuation by itself."

theorem trendItems_range : 1 ≤ 3 ∧ 3 ≤ 10 := by decide

def intakeResultToTrendRequest (intakeResult : IntakeResult) : TrendAnalysisRequest where
  trendTopic := intakeResult.brief.objective
  context := intakeResult.brief.scope
  maxItems := 3
  maxItems_range := trendItems_range

def DryRunOrchestrationRequest.triageContext (request : DryRunOrchestrationRequest) :
    TriageContext where
  changedAreas := request.changedAreas
  taskInActivePhase := request.taskInActivePhase
  verificationPassed := request.verificationPassed
  ambiguousScope := request.ambiguousScope

def DryRunOrchestrationRequest.trendReport (request : DryRunOrchestrationRequest)
    (intakeResult : IntakeResult) : Except PyError (Option TrendWorkflowReport) :=
  if request.includeTrend then do
    let report ← runTrendMockWorkflow (intakeResultToTrendRequest intakeResult)
      request.trendProviderHint
    return some report
  else return none

def runDryRunOrchestration (uuids : DryRunUuids) (request : DryRunOrchestrationRequest) :
    Except PyError DryRunOrchestrationResult := do
  let intakeResult := buildBrief request.userRequest
  let projectId := idOr request.projectId "dryrun-project-" uuids.project
  let briefId := idOr request.briefId "dryrun-brief-" uuids.brief
  let currentBrief :=
    intakeResultToCurrentBriefArtifact intakeResult briefId projectId request.currentTask
  let triageResult := triageTask request.triageContext
  let trendReport ← request.trendReport intakeResult
  let workOrder :=
    if request.generateWorkOrder then
      some (buildWorkOrderDraft triageResult
        (idOr request.workOrderId "dryrun-wo-" uuids.workOrder) projectId
        currentBrief.currentTask)
    else none
  let managementSummary :=
    buildManagementReviewSummary currentBrief (some triageResult) trendReport workOrder
  let projectedActivationDecision ← buildProjectedActivationDecision uuids currentBrief
    managementSummary request.managementDecision
  return {
    mode := "dry_run"
    notice := simulationNotice
    intakeResult := intakeResult
    currentBrief := currentBrief
    triageResult := triageResult
    trendReport := trendReport
    workOrder := workOrder
    managementSummary := managementSummary
    managementDecision := request.managementDecision
    decisionProjection := projectDryRunDecision managementSummary request.managementDecision
    projectedActivationDecision := some projectedActivationDecision }

/-! ## The artifact bundle -/

def buildApprovalRecordFromProjectionContext (projectedActivationDecision : DryRunActivationDecision)
    (activationReviewItemId : String) (managementDecision : Option ManagementDecisionRecord)
    (approvalRecordId relatedProjectId relatedActivationDecisionId relatedPacketId
      relatedQueueItemId : Option String) : Except PyError JsonDict :=
  buildActionDepartmentActivationApprovalRecord projectedActivationDecision activationReviewItemId
    approvalRecordId (managementDecision.map ManagementDecisionRecord.reviewerId)
    (managementDecision.map fun record => record.reviewerType.value)
    (managementDecision.map ManagementDecisionRecord.rationale) relatedProjectId
    relatedActivationDecisionId relatedPacketId relatedQueueItemId

def buildDryRunArtifactBundle (orchestrationResult : DryRunOrchestrationResult)
    (activationReviewItemId : String)
    (approvalRecordId relatedProjectId relatedActivationDecisionId relatedPacketId
      relatedQueueItemId : Option String := none) : Except PyError DryRunArtifactBundle :=
  match orchestrationResult.projectedActivationDecision with
  | none => .error (.valueError
      "DryRunOrchestrationResult must include projected_activation_decision.")
  | some projectedActivationDecision => do
      let approvalRecord ← buildApprovalRecordFromProjectionContext projectedActivationDecision
        activationReviewItemId orchestrationResult.managementDecision approvalRecordId
        relatedProjectId relatedActivationDecisionId relatedPacketId relatedQueueItemId
      return { projectedActivationDecision, approvalRecord }

end CodexOrchestrator
