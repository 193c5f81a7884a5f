import CodexOrchestrator.Providers
import CodexOrchestrator.Services.Triage

/-!
# Management review — summary, packet and queue item

`app/services/trend_workflow.py`, `management_review.py`, `review_packet.py` and `review_queue.py`.
Each of the three forms of a review is built from the one before it, and normalizes its entries
again.
-/

open PyText

namespace CodexOrchestrator

/-! ## The trend workflow -/

def providerHintAliases : Dict String :=
  ⟨[("gemini-flash-latest", "gemini"), ("gemini-flash-lite-latest", "gemini"),
    ("grok-latest", "grok"), ("openai-latest", "openai")], by decide⟩

def trendGovernanceNote : String :=
  "Trend output is informational only and cannot self-authorize risky continuation."

def trendNextAction : String :=
  "Route findings to Progress Control and Management for GO/PAUSE/REVIEW governance."

def resolveProviderHint (providerHint : String) : String :=
  let normalized := lower (strip (orElse providerHint "mock"))
  (providerHintAliases.get? normalized).getD normalized

def runTrendMockWorkflow (request : TrendAnalysisRequest) (providerHint : String) :
    Except PyError TrendWorkflowReport := do
  let result ← (getTrendProviderLenient (resolveProviderHint providerHint)).analyze request
  return {
    provider := result.provider
    providerHint := providerHint
    trendTopic := result.trendTopic
    candidateTrends := result.candidateTrends.take request.maxItems
    governanceNote := trendGovernanceNote
    nextActionSuggestion := trendNextAction }

/-! ## The summary -/

def selectDecision (workOrder : Option WorkOrderDraft) (triageResult : Option TriageResult) :
    ContinuationDecision :=
  match workOrder, triageResult with
  | some workOrder, _ => workOrder.governance.decisionOutcome
  | none, some triageResult => triageResult.decision
  | none, none => .pause

def selectRiskLevel (currentBrief : CurrentBriefArtifact) (triageResult : Option TriageResult)
    (workOrder : Option WorkOrderDraft) : ContinuationRisk :=
  match workOrder, triageResult with
  | some workOrder, _ => workOrder.governance.riskLevel
  | none, some triageResult => triageResult.riskLevel
  | none, none => currentBrief.riskSnapshot.riskLevel

def selectRouting (currentBrief : CurrentBriefArtifact) (triageResult : Option TriageResult)
    (workOrder : Option WorkOrderDraft) : String :=
  match workOrder, triageResult with
  | some workOrder, _ => workOrder.assignedDepartment.value
  | none, some triageResult => triageResult.routingTarget.value
  | none, none => currentBrief.departmentContext.candidateRouting

def selectHardGateTriggers (currentBrief : CurrentBriefArtifact)
    (triageResult : Option TriageResult) (workOrder : Option WorkOrderDraft) : List String :=
  match workOrder, triageResult with
  | some workOrder, _ => sortedTriggerValues workOrder.governance.hardGateTriggers
  | none, some triageResult => sortedTriggerValues triageResult.hardGateTriggers
  | none, none => currentBrief.riskSnapshot.hardGateTriggers.mergeSort (· ≤ ·)

/-- What a triage without a work order proposes; a GO leaves it to the trend report or the brief. -/
def triageProposal (triageResult : Option TriageResult) : Option String :=
  match triageResult.map TriageResult.decision with
  | some .review => some "Escalate to Management Department for REVIEW."
  | some .pause => some "Pause and isolate blockers before continuing."
  | _ => none

def selectProposedAction (currentBrief : CurrentBriefArtifact) (triageResult : Option TriageResult)
    (trendReport : Option TrendWorkflowReport) (workOrder : Option WorkOrderDraft) : String :=
  match workOrder, triageProposal triageResult, trendReport with
  | some workOrder, _, _ => workOrder.nextActionSuggestion
  | none, some proposal, _ => proposal
  | none, none, some trendReport => trendReport.nextActionSuggestion
  | none, none, none => currentBrief.proposedAction.summary

def isReviewRequired (triageResult : Option TriageResult) (workOrder : Option WorkOrderDraft) :
    Bool :=
  match workOrder, triageResult with
  | some workOrder, _ => workOrder.governance.managementReviewRequired
  | none, some triageResult =>
      decide (triageResult.decision = .review) || triageResult.escalationLikelyRequired
  -- both branches of the source answer `True` here, whatever the brief says
  | none, none => true

def selectEscalationReason (triageResult : Option TriageResult)
    (workOrder : Option WorkOrderDraft) : Option String :=
  match workOrder, triageResult with
  | some workOrder, _ => some workOrder.governance.escalationReason.value
  | none, some triageResult => some triageResult.escalationReason.value
  | none, none => none

def buildManagementReviewSummary (currentBrief : CurrentBriefArtifact)
    (triageResult : Option TriageResult) (trendReport : Option TrendWorkflowReport)
    (workOrder : Option WorkOrderDraft) : ManagementReviewSummary :=
  let hardGateTriggers := selectHardGateTriggers currentBrief triageResult workOrder
  { projectId := currentBrief.projectId
    briefId := some currentBrief.briefId
    currentTask := currentBrief.currentTask
    decisionOutcome := selectDecision workOrder triageResult
    riskLevel := selectRiskLevel currentBrief triageResult workOrder
    departmentRouting := selectRouting currentBrief triageResult workOrder
    hardGateTriggered := !hardGateTriggers.isEmpty
    hardGateTriggers := hardGateTriggers
    proposedAction := selectProposedAction currentBrief triageResult trendReport workOrder
    requiredReview := isReviewRequired triageResult workOrder
    escalationReason := selectEscalationReason triageResult workOrder
    trendProvider := trendReport.map TrendWorkflowReport.provider
    trendCandidateCount := (trendReport.map fun report => report.candidateTrends.length).getD 0
    workOrderId := workOrder.map WorkOrderDraft.workOrderId }

/-! ## The packet -/

def buildEscalationReasons (summary : ManagementReviewSummary) : List String :=
  let escalationReason := strip (summary.escalationReason.getD "")
  let reasons :=
    if escalationReason ≠ "" ∧ lower escalationReason ≠ "none" then [escalationReason] else []
  let reasons :=
    if summary.hardGateTriggered ∧ "hard_gate_triggered" ∉ reasons then
      reasons ++ ["hard_gate_triggered"]
    else reasons
  if summary.requiredReview ∧ summary.decisionOutcome = .review ∧ reasons = [] then
    ["review_required"]
  else reasons

/-- `packet_id or f"packet-{uuid4().hex[:8]}"` and the like. -/
def idOr (given : Option String) (start freshHex : String) : String :=
  orElse (given.getD "") (start ++ freshHex)

def buildManagementReviewPacket (currentBrief : CurrentBriefArtifact)
    (managementSummary : ManagementReviewSummary) (packetHex : String)
    (packetId : Option String := none) : ManagementReviewPacket where
  packetId := idOr packetId "packet-" packetHex
  projectId := managementSummary.projectId
  briefId := managementSummary.briefId
  currentTask := managementSummary.currentTask
  summarizedBrief :=
    { requestedScope := currentBrief.requestedScope
      outOfScope := currentBrief.outOfScope
      missingFields := currentBrief.intakeMissingFields
      clarifyingQuestions := currentBrief.clarifyingQuestions }
  riskLevel := managementSummary.riskLevel
  departmentRoutingRecommendation := managementSummary.departmentRouting
  hardGateStatus := managementSummary.hardGateTriggered
  hardGateTriggers := managementSummary.hardGateTriggers
  escalationReasons := buildEscalationReasons managementSummary
  proposedNextAction := managementSummary.proposedAction
  recommendation := managementSummary.decisionOutcome
  requiredReview := managementSummary.requiredReview
  workOrderId := managementSummary.workOrderId
  trendProvider := managementSummary.trendProvider
  trendCandidateCount := managementSummary.trendCandidateCount

/-! ## The queue item -/

/-- `_normalize_values`. -/
def normalizeValues (values : List String) : List String :=
  distinctTrimmed values

def reviewPacketToQueueItem (packet : ManagementReviewPacket) (itemHex : String)
    (itemId : Option String := none) (reviewStatus : ReviewQueueStatus := .pending)
    (createdAt updatedAt : Option String := none) (note : String := "") :
    Except PyError ReviewQueueItem :=
  let escalationReasons := normalizeValues packet.escalationReasons
  let hardGateTriggers := normalizeValues packet.hardGateTriggers
  let itemId := idOr itemId "rq-" itemHex
  if h : itemId ≠ "" ∧ packet.currentTask ≠ "" ∧ packet.departmentRoutingRecommendation ≠ "" then
    .ok
      { itemId := itemId
        currentTask := packet.currentTask
        riskLevel := packet.riskLevel
        departmentRouting := packet.departmentRoutingRecommendation
        hardGateStatus := packet.hardGateStatus
        hardGateTriggers := hardGateTriggers
        escalationReason := escalationReasons.head?
        escalationReasons := escalationReasons
        recommendation := packet.recommendation
        reviewStatus := reviewStatus
        relatedProjectId := some packet.projectId
        relatedBriefId := packet.briefId
        relatedWorkOrderId := packet.workOrderId
        createdAt := createdAt
        updatedAt := updatedAt
        note := note
        itemId_ne := h.1
        currentTask_ne := h.2.1
        departmentRouting_ne := h.2.2 }
  else
    .error (tooShort "ReviewQueueItem"
      [("item_id", itemId), ("current_task", packet.currentTask),
        ("department_routing", packet.departmentRoutingRecommendation)])

end CodexOrchestrator
