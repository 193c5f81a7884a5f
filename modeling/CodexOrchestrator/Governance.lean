import CodexOrchestrator.HardGates
import CodexOrchestrator.Services.DryRun

/-!
# Governance — what the triage of a dry run decides about its projections

The judgment of the triage reaches the projections through the work order, the summary, the packet
and the queue item.  Whatever the other parts of a request are, the summary says what the triage
said, and the two projections follow from that and from the decision of the management.
-/

open PyText Raise

namespace CodexOrchestrator

/-- The summary says about its governance what the triage said. -/
structure FollowsTriage (triage : TriageResult) (summary : ManagementReviewSummary) : Prop where
  outcome : summary.decisionOutcome = triage.decision
  risk : summary.riskLevel = triage.riskLevel
  routing : summary.departmentRouting = triage.routingTarget.value
  triggered : summary.hardGateTriggered = !(sortedTriggerValues triage.hardGateTriggers).isEmpty
  triggers : summary.hardGateTriggers = sortedTriggerValues triage.hardGateTriggers
  required : summary.requiredReview = decide (triage.decision = .review)
  reason : summary.escalationReason = some triage.escalationReason.value

/-- What a dry run that returns has computed. -/
structure Returned (uuids : DryRunUuids) (request : DryRunOrchestrationRequest)
    (result : DryRunOrchestrationResult) : Prop where
  triage : result.triageResult = triageTask request.triageContext
  management : result.managementDecision = request.managementDecision
  summary : FollowsTriage result.triageResult result.managementSummary
  projection : result.decisionProjection =
    projectDryRunDecision result.managementSummary request.managementDecision
  activation : ∃ decision, result.projectedActivationDecision = some decision ∧
    buildProjectedActivationDecision uuids result.currentBrief result.managementSummary
      request.managementDecision = .ok decision

/-- The status of the human approval in an approval record. -/
def humanApprovalStatus (record : JsonDict) : Option String :=
  match record.lookup "human_approval_status" with
  | some (.obj fields) =>
      match fields.lookup "status" with
      | some (.str status) => some status
      | _ => none
  | _ => none

/-! ## The summary -/

section Summary

variable {triage : TriageResult}

/-- Only a review goes to the management, and nothing goes to the audit department. -/
theorem managementReviewRequired_eq (h : Triaged triage) :
    managementReviewRequired triage = decide (triage.decision = .review) := by
  cases h with
  | review => rfl
  | pause => rfl
  | go routed => rcases routed with rfl | rfl <;> rfl

theorem isReviewRequired_eq (h : Triaged triage) :
    (decide (triage.decision = .review) || triage.escalationLikelyRequired) =
      decide (triage.decision = .review) := by
  cases h <;> rfl

/-- The work order hands on what the triage said, so that it makes no difference. -/
theorem buildManagementReviewSummary_follows (h : Triaged triage)
    (currentBrief : CurrentBriefArtifact) (trendReport : Option TrendWorkflowReport)
    (workOrder : Option WorkOrderDraft)
    (hworkOrder : ∀ order, workOrder = some order →
      ∃ workOrderId projectId objective,
        order = buildWorkOrderDraft triage workOrderId projectId objective) :
    FollowsTriage triage
      (buildManagementReviewSummary currentBrief (some triage) trendReport workOrder) := by
  cases workOrder with
  | none => exact ⟨rfl, rfl, rfl, rfl, rfl, isReviewRequired_eq h, rfl⟩
  | some order =>
      obtain ⟨workOrderId, projectId, objective, rfl⟩ := hworkOrder order rfl
      exact ⟨rfl, rfl, rfl, rfl, rfl, managementReviewRequired_eq h, rfl⟩

/-- Every triage is routed to a department. -/
theorem selectRouting_ne_empty (currentBrief : CurrentBriefArtifact) (triage : TriageResult)
    (workOrder : Option WorkOrderDraft) :
    selectRouting currentBrief (some triage) workOrder ≠ "" := by
  have hvalue : ∀ department : RoutingDepartment, department.value ≠ "" := by
    intro department
    cases department <;> decide
  cases workOrder with
  | none => exact hvalue _
  | some order => exact hvalue _

/-- A reason is listed under its value. -/
theorem EscalationReason.value_shown {reason : EscalationReason} (h : reason ≠ .none) :
    strip reason.value = reason.value ∧ reason.value ≠ "" ∧ lower reason.value ≠ "none" := by
  revert h
  cases reason <;> decide

variable {summary : ManagementReviewSummary}

/-- A triage that lets the work go on gives no reason to escalate. -/
theorem FollowsTriage.reasons_of_go (h : FollowsTriage triage summary) (ht : Triaged triage)
    (hgo : triage.decision = .go) :
    summary.hardGateTriggers = [] ∧ buildEscalationReasons summary = [] := by
  cases ht with
  | review => cases hgo
  | pause => cases hgo
  | go =>
      have htriggers : summary.hardGateTriggers = [] := h.triggers
      have htriggered : summary.hardGateTriggered = false := h.triggered
      refine ⟨htriggers, ?_⟩
      have hnone : ¬ (strip "none" ≠ "" ∧ lower (strip "none") ≠ "none") := by decide
      rw [buildEscalationReasons, h.reason, h.required, htriggered]
      simp [EscalationReason.value, hnone]

/-- A pause is escalated with its one reason. -/
theorem FollowsTriage.reasons_of_pause (h : FollowsTriage triage summary) (ht : Triaged triage)
    (hpause : triage.decision = .pause) :
    summary.hardGateTriggers = [] ∧ summary.hardGateTriggered = false ∧
      buildEscalationReasons summary = [triage.escalationReason.value] := by
  cases ht with
  | review => cases hpause
  | go => cases hpause
  | @pause reason escalated =>
      have htriggers : summary.hardGateTriggers = [] := h.triggers
      have htriggered : summary.hardGateTriggered = false := h.triggered
      refine ⟨htriggers, htriggered, ?_⟩
      -- a pause has its escalation reason, and nothing else to escalate
      obtain ⟨hstrip, hshown⟩ := EscalationReason.value_shown escalated
      rw [buildEscalationReasons, h.reason, h.required, htriggered, Option.getD_some, hstrip]
      dsimp only
      rw [if_pos hshown]
      simp

/-- A triage that stops the work gives its reason first. -/
theorem FollowsTriage.mem_reasons (h : FollowsTriage triage summary) (ht : Triaged triage)
    (hstop : triage.decision ≠ .go) :
    triage.escalationReason.value ∈ buildEscalationReasons summary := by
  have hreason : triage.escalationReason ≠ .none := by
    cases ht with
    | review escalated => exact escalated
    | pause escalated => exact escalated
    | go => exact absurd rfl hstop
  obtain ⟨hstrip, hshown⟩ := EscalationReason.value_shown hreason
  rw [buildEscalationReasons, h.reason, Option.getD_some, hstrip, if_pos hshown]
  split <;> simp

end Summary

/-! ## The activation projection -/

section Projection

variable {uuids : DryRunUuids} {currentBrief : CurrentBriefArtifact}
variable {summary : ManagementReviewSummary} {record? : Option ManagementDecisionRecord}
variable {decision : DryRunActivationDecision}

/-- The queue item carries what the summary says about hard gates and reasons. -/
structure ItemOf (summary : ManagementReviewSummary) (item : ReviewQueueItem) : Prop where
  status : item.hardGateStatus = summary.hardGateTriggered
  triggers : item.hardGateTriggers = distinctTrimmed summary.hardGateTriggers
  reasons : item.escalationReasons = distinctTrimmed (buildEscalationReasons summary)
  reason : item.escalationReason = (distinctTrimmed (buildEscalationReasons summary)).head?

theorem buildProjectedActivationDecision_eq_ok
    (h : buildProjectedActivationDecision uuids currentBrief summary record? = .ok decision) :
    ∃ item, ItemOf summary item ∧
      decision = deriveDryRunActivationDecision
        (buildManagementReviewPacket currentBrief summary uuids.packet) item
        (record?.getD (systemDecision summary
          (buildManagementReviewPacket currentBrief summary uuids.packet) item)) := by
  unfold buildProjectedActivationDecision at h
  obtain ⟨item, hitem, h⟩ := bind_eq_ok.mp h
  refine ⟨item, ?_, (Except.ok.inj h).symm⟩
  unfold reviewPacketToQueueItem at hitem
  dsimp only at hitem
  split at hitem
  · cases hitem
    exact ⟨rfl, rfl, rfl, rfl⟩
  · cases hitem

/-- A summary with a task and a department makes a queue item that the schema accepts. -/
theorem buildProjectedActivationDecision_answers (htask : summary.currentTask ≠ "")
    (hrouting : summary.departmentRouting ≠ "") :
    ∃ decision,
      buildProjectedActivationDecision uuids currentBrief summary record? = .ok decision := by
  have hid : idOr none "rq-" uuids.queueItem ≠ "" := by simp [idOr, orElse]
  have hitem : ∃ item, reviewPacketToQueueItem
      (buildManagementReviewPacket currentBrief summary uuids.packet) uuids.queueItem =
        .ok item := by
    rw [reviewPacketToQueueItem]
    exact ⟨_, dif_pos ⟨hid, htask, hrouting⟩⟩
  obtain ⟨item, hitem⟩ := hitem
  rw [buildProjectedActivationDecision, hitem]
  exact ⟨_, rfl⟩

/-- The blockers of two items of summaries that say the same are the same. -/
theorem ItemOf.blockers_eq {summary' : ManagementReviewSummary} {item item' : ReviewQueueItem}
    (h : ItemOf summary item) (h' : ItemOf summary' item')
    (htriggered : summary.hardGateTriggered = summary'.hardGateTriggered)
    (htriggers : summary.hardGateTriggers = summary'.hardGateTriggers)
    (hreasons : buildEscalationReasons summary = buildEscalationReasons summary') :
    collectUnresolvedBlockers item = collectUnresolvedBlockers item' := by
  rw [collectUnresolvedBlockers, collectUnresolvedBlockers, blockerEntries, blockerEntries,
    h.status, h.triggers, h.reasons, h.reason, h'.status, h'.triggers, h'.reasons, h'.reason,
    htriggered, htriggers, hreasons]

variable {item : ReviewQueueItem} {triage : TriageResult}

theorem ItemOf.blockers_of_go (h : ItemOf summary item) (hs : FollowsTriage triage summary)
    (ht : Triaged triage) (hgo : triage.decision = .go) : collectUnresolvedBlockers item = [] := by
  obtain ⟨htriggers, hreasons⟩ := hs.reasons_of_go ht hgo
  have hstatus : item.hardGateStatus = false := by
    rw [h.status, hs.triggered, ← hs.triggers, htriggers]
    rfl
  rw [collectUnresolvedBlockers, blockerEntries, hstatus, h.triggers, h.reasons, h.reason,
    htriggers, hreasons]
  decide

theorem ItemOf.blockers_of_pause (h : ItemOf summary item) (hs : FollowsTriage triage summary)
    (ht : Triaged triage) (hpause : triage.decision = .pause) :
    collectUnresolvedBlockers item = [triage.escalationReason.value] := by
  obtain ⟨htriggers, htriggered, hreasons⟩ := hs.reasons_of_pause ht hpause
  rw [collectUnresolvedBlockers, blockerEntries, h.status, h.triggers, h.reasons, h.reason,
    htriggers, htriggered, hreasons]
  cases triage.escalationReason <;> decide

/-- Every entry of the summary that is not blank is a blocker. -/
theorem ItemOf.mem_blockers (h : ItemOf summary item) {entry : String}
    (hentry : entry ∈ summary.hardGateTriggers ∨ entry ∈ buildEscalationReasons summary)
    (hblank : strip entry ≠ "") : strip entry ∈ collectUnresolvedBlockers item := by
  have hmem : strip entry ∈ item.entries := by
    unfold ReviewQueueItem.entries
    rw [h.triggers, h.reasons, List.mem_append, List.mem_append]
    rcases hentry with hentry | hentry
    · exact .inl (.inl (mem_distinctTrimmed.mpr ⟨hblank, entry, hentry, rfl⟩))
    · exact .inl (.inr (mem_distinctTrimmed.mpr ⟨hblank, entry, hentry, rfl⟩))
  have hblocker := mem_collectUnresolvedBlockers hmem (by rwa [strip_strip])
  rwa [strip_strip] at hblocker

end Projection

/-! ## The run -/

section Run

variable {uuids : DryRunUuids} {request : DryRunOrchestrationRequest}
variable {result : DryRunOrchestrationResult}

theorem returned_of_ok (h : runDryRunOrchestration uuids request = .ok result) :
    Returned uuids request result := by
  unfold runDryRunOrchestration at h
  obtain ⟨trendReport, -, h⟩ := bind_eq_ok.mp h
  obtain ⟨decision, hdecision, h⟩ := bind_eq_ok.mp h
  cases h
  refine ⟨rfl, rfl, ?_, rfl, decision, rfl, hdecision⟩
  apply buildManagementReviewSummary_follows (triageTask_triaged _)
  intro order horder
  split at horder
  · exact ⟨_, _, _, (Option.some.inj horder).symm⟩
  · cases horder

theorem Returned.triaged (h : Returned uuids request result) : Triaged result.triageResult := by
  rw [h.triage]
  exact triageTask_triaged _

theorem trendReport_answers (request : DryRunOrchestrationRequest) (intakeResult : IntakeResult) :
    ∃ trendReport, request.trendReport intakeResult = .ok trendReport := by
  unfold DryRunOrchestrationRequest.trendReport
  split
  · obtain ⟨trend, htrend, -⟩ := getTrendProviderLenient_answers
      (resolveProviderHint request.trendProviderHint) (intakeResultToTrendRequest intakeResult)
    exact ⟨_, by rw [runTrendMockWorkflow, htrend]; rfl⟩
  · exact ⟨none, rfl⟩

/-- A dry run returns when there is a task to review, given or in the request. -/
theorem exists_returned (uuids : DryRunUuids) (request : DryRunOrchestrationRequest)
    (h : orElse (request.currentTask.getD "") (normalizeUserRequest request.userRequest) ≠ "") :
    ∃ result, runDryRunOrchestration uuids request = .ok result := by
  unfold runDryRunOrchestration
  refine exists_ok_bind (trendReport_answers request _) fun trendReport => ?_
  refine exists_ok_bind (buildProjectedActivationDecision_answers h ?_) fun _ => ⟨_, rfl⟩
  exact selectRouting_ne_empty _ _ _

end Run

/-! ## Hard gates over management decisions -/

section Bundle

variable {decision : DryRunActivationDecision} {activationReviewItemId : String}
variable {approvalRecordId reviewerId reviewerType rationale relatedProjectId
  relatedActivationDecisionId relatedPacketId relatedQueueItemId : Option String}

/-- The approval record of a derived decision: a REVIEW has its destination, and the human approval
    has the status that goes with the recommendation. -/
theorem approvalRecord_of_derived (packet : ManagementReviewPacket) (item : ReviewQueueItem)
    (record : ManagementDecisionRecord)
    (h : decision = deriveDryRunActivationDecision packet item record) :
    ∃ approvalRecord, buildActionDepartmentActivationApprovalRecord decision activationReviewItemId
        approvalRecordId reviewerId reviewerType rationale relatedProjectId
        relatedActivationDecisionId relatedPacketId relatedQueueItemId = .ok approvalRecord ∧
      humanApprovalStatus approvalRecord =
        some (humanStatusForDecision decision.recommendation) := by
  subst h
  have hdestination : ¬ ((deriveDryRunActivationDecision packet item record).recommendation =
        .review ∧
      orDefault (deriveDryRunActivationDecision packet item record).escalationDestination "" =
        "") := by
    rintro ⟨hreview, hnone⟩
    -- a REVIEW is sent to the audit department, which has a name
    have hgiven : (deriveDryRunActivationDecision packet item record).escalationDestination =
        some auditAndReviewDepartment := if_pos hreview
    rw [hgiven] at hnone
    revert hnone
    decide
  refine ⟨_, if_neg hdestination, rfl⟩

end Bundle

theorem humanStatusForDecision_eq_iff {recommendation : DecisionValue} :
    humanStatusForDecision recommendation = "approved" ↔ recommendation = .go := by
  cases recommendation <;> decide

/-- No decision of the management overrides a triage that stops the work. -/
theorem runDryRunOrchestration_gates_hold (uuids : DryRunUuids)
    (request : DryRunOrchestrationRequest) (result : DryRunOrchestrationResult)
    (hrun : runDryRunOrchestration uuids request = .ok result)
    (hstop : result.triageResult.decision ≠ .go) :
    ∃ decision, result.projectedActivationDecision = some decision ∧
      decision.recommendation ≠ .go ∧
      decision.remainingBlockers ≠ [] ∧
      (∀ gate ∈ result.triageResult.hardGateTriggers, gate.value ∈ decision.remainingBlockers) ∧
      decision.reReviewRequired = true ∧
      ∀ activationReviewItemId approvalRecordId relatedProjectId relatedActivationDecisionId
        relatedPacketId relatedQueueItemId,
        ∃ bundle status, buildDryRunArtifactBundle result activationReviewItemId approvalRecordId
            relatedProjectId relatedActivationDecisionId relatedPacketId relatedQueueItemId =
              .ok bundle ∧
          humanApprovalStatus bundle.approvalRecord = some status ∧ status ≠ "approved" := by
  have h := returned_of_ok hrun
  have ht := h.triaged
  obtain ⟨decision, hdecision, hbuild⟩ := h.activation
  obtain ⟨item, hitem, hderived⟩ := buildProjectedActivationDecision_eq_ok hbuild
  have hblockers : decision.remainingBlockers = collectUnresolvedBlockers item := by
    rw [hderived]
    rfl
  -- the reason of the triage is a blocker, whatever the gates are
  have hsome : decision.remainingBlockers ≠ [] := by
    rw [hblockers]
    have hvalue : strip result.triageResult.escalationReason.value ≠ "" := by
      cases result.triageResult.escalationReason <;> decide
    exact List.ne_nil_of_mem (hitem.mem_blockers (.inr (h.summary.mem_reasons ht hstop)) hvalue)
  have hno : decision.recommendation ≠ .go := by
    intro hgo
    rw [hblockers] at hsome
    rw [hderived] at hgo
    exact hsome (recommendationFor_eq_go_iff.mp hgo).2.1
  refine ⟨decision, hdecision, hno, hsome, ?_, ?_, ?_⟩
  · intro gate hgate
    -- a gate of the triage is shown in the summary, and every trigger of the summary blocks
    have htrigger : gate.value ∈ result.managementSummary.hardGateTriggers := by
      rw [h.summary.triggers]
      exact mem_sortedTriggerValues.mpr ⟨gate, hgate, rfl⟩
    have hvalue : strip gate.value = gate.value ∧ gate.value ≠ "" := by
      cases gate <;> decide
    have hmem := hitem.mem_blockers (.inl htrigger) (by rw [hvalue.1]; exact hvalue.2)
    rwa [hvalue.1, ← hblockers] at hmem
  · rw [hblockers] at hsome
    rw [hderived]
    simp [deriveDryRunActivationDecision, hsome]
  · intro activationReviewItemId approvalRecordId relatedProjectId relatedActivationDecisionId
      relatedPacketId relatedQueueItemId
    obtain ⟨approvalRecord, hrecord, hstatus⟩ := approvalRecord_of_derived _ item _ hderived
    refine ⟨⟨decision, approvalRecord⟩, _, ?_, hstatus, mt humanStatusForDecision_eq_iff.mp hno⟩
    rw [buildDryRunArtifactBundle, hdecision]
    dsimp only
    rw [buildApprovalRecordFromProjectionContext, hrecord]
    rfl

/-- A request that touches the authentication, with a GO of the management. -/
def authRequest : DryRunOrchestrationRequest where
  userRequest := "Change the login"
  changedAreas := {" Auth "}
  currentTask := some "Change the login"
  managementDecision := some
    { itemId := "item", decision := .go, reviewerId := "reviewer", rationale := "reviewed" }

def sampleUuids : DryRunUuids := ⟨"00000001", "00000002", "00000003", "00000004", "00000005"⟩

theorem runDryRunOrchestration_gates_hold_auth :
    ∃ result decision, runDryRunOrchestration sampleUuids authRequest = .ok result ∧
      result.projectedActivationDecision = some decision ∧ decision.recommendation ≠ .go := by
  obtain ⟨result, hrun⟩ := exists_returned sampleUuids authRequest (by decide)
  have hstop : result.triageResult.decision ≠ .go := by
    rw [(returned_of_ok hrun).triage]
    decide +kernel
  obtain ⟨decision, hdecision, hno, -⟩ :=
    runDryRunOrchestration_gates_hold sampleUuids authRequest result hrun hstop
  exact ⟨result, decision, hrun, hdecision, hno⟩

/-! ## The two projections of one run -/

section Projections

variable {summary : ManagementReviewSummary} {record? : Option ManagementDecisionRecord}

theorem projectDryRunDecision_decision :
    (projectDryRunDecision summary record?).decision = (projectionBasis summary record?).1 := by
  unfold projectDryRunDecision
  dsimp only
  split_ifs <;> rfl

/-- The work goes on by itself on a GO without a required review or an active gate. -/
theorem projectDryRunDecision_allowed_iff :
    (projectDryRunDecision summary record?).autonomousContinuationAllowed = true ↔
      (projectionBasis summary record?).1 = .go ∧ summary.requiredReview = false ∧
        summary.hardGateTriggered = false := by
  unfold projectDryRunDecision
  generalize projectionBasis summary record? = basis
  obtain ⟨decision, rationale, candidateNext⟩ := basis
  dsimp only
  cases decision <;> cases summary.requiredReview <;> cases summary.hardGateTriggered <;> simp

/-- Both projections start from the same decision. -/
theorem getD_systemDecision (packet : ManagementReviewPacket) (item : ReviewQueueItem) :
    (record?.getD (systemDecision summary packet item)).decision =
      (projectionBasis summary record?).1 := by
  cases record? <;> rfl

end Projections

/-- Where the work may go on by itself, the activation is recommended without blockers, unless the
    management said GO over a pause of the triage: then the reason of the pause blocks the
    activation. -/
theorem runDryRunOrchestration_projections_agree (uuids : DryRunUuids)
    (request : DryRunOrchestrationRequest) (result : DryRunOrchestrationResult)
    (hrun : runDryRunOrchestration uuids request = .ok result)
    (hallowed : result.decisionProjection.autonomousContinuationAllowed = true) :
    ∃ decision, result.projectedActivationDecision = some decision ∧
      (decision.recommendation = .go ∧ decision.remainingBlockers = [] ∨
        result.triageResult.decision = .pause ∧
          (∃ record, request.managementDecision = some record ∧ record.decision = .go) ∧
          decision.recommendation = .pause ∧
          decision.remainingBlockers = [result.triageResult.escalationReason.value]) := by
  have h := returned_of_ok hrun
  have ht := h.triaged
  obtain ⟨decision, hdecision, hbuild⟩ := h.activation
  obtain ⟨item, hitem, hderived⟩ := buildProjectedActivationDecision_eq_ok hbuild
  refine ⟨decision, hdecision, ?_⟩
  rw [h.projection] at hallowed
  obtain ⟨hgo, hrequired, -⟩ := projectDryRunDecision_allowed_iff.mp hallowed
  have heffective := hgo
  rw [← getD_systemDecision (buildManagementReviewPacket result.currentBrief
    result.managementSummary uuids.packet) item] at heffective
  cases hkind : result.triageResult.decision with
  | review =>
      -- a review is required, and then the work does not go on by itself
      rw [h.summary.required, hkind] at hrequired
      cases hrequired
  | pause =>
      have hblockers := hitem.blockers_of_pause h.summary ht hkind
      refine .inr ⟨rfl, ?_, ?_, by rw [hderived]; exact hblockers⟩
      · cases hrecord : request.managementDecision with
        | some record =>
            rw [hrecord] at heffective
            exact ⟨record, rfl, heffective⟩
        -- without a record the system decides, and a pause is not a GO
        | none =>
            have houtcome : result.managementSummary.decisionOutcome = .go := by
              rw [hrecord] at heffective
              exact heffective
            rw [h.summary.outcome, hkind] at houtcome
            cases houtcome
      · have hrecommended : decision.recommendation = recommendationFor
            (collectUnresolvedBlockers item) result.managementSummary.requiredReview .go := by
          rw [hderived, ← heffective]
          rfl
        rw [hrecommended, hblockers, recommendationFor, if_pos ⟨rfl, .inl (by simp)⟩]
  | go =>
      have hblockers := hitem.blockers_of_go h.summary ht hkind
      refine .inl ⟨?_, by rw [hderived]; exact hblockers⟩
      rw [hderived]
      exact recommendationFor_eq_go_iff.mpr ⟨heffective, hblockers, hrequired⟩

/-- A request whose verification failed, with a GO of the management. -/
def unstableRequest : DryRunOrchestrationRequest where
  userRequest := "Fix the build"
  verificationPassed := false
  currentTask := some "Fix the build"
  managementDecision := some
    { itemId := "item", decision := .go, reviewerId := "reviewer", rationale := "reviewed" }

/-- The work may go on by itself, and the activation is held back. -/
theorem runDryRunOrchestration_projections_differ :
    ∃ (uuids : DryRunUuids) (request : DryRunOrchestrationRequest)
      (result : DryRunOrchestrationResult) (decision : DryRunActivationDecision),
      runDryRunOrchestration uuids request = .ok result ∧
      result.decisionProjection.autonomousContinuationAllowed = true ∧
      result.projectedActivationDecision = some decision ∧
      ¬ (decision.recommendation = .go ∧ decision.remainingBlockers = []) := by
  obtain ⟨result, hrun⟩ := exists_returned sampleUuids unstableRequest (by decide)
  have h := returned_of_ok hrun
  have ht := h.triaged
  have hkind : result.triageResult.decision = .pause := by
    rw [h.triage]
    decide +kernel
  obtain ⟨decision, hdecision, hbuild⟩ := h.activation
  obtain ⟨item, hitem, hderived⟩ := buildProjectedActivationDecision_eq_ok hbuild
  have hblockers := hitem.blockers_of_pause h.summary ht hkind
  refine ⟨sampleUuids, unstableRequest, result, decision, hrun, ?_, hdecision, ?_⟩
  · have hrequired : result.managementSummary.requiredReview = false := by
      rw [h.summary.required, hkind]
      rfl
    have htriggered := (h.summary.reasons_of_pause ht hkind).2.1
    rw [h.projection]
    exact projectDryRunDecision_allowed_iff.mpr ⟨rfl, hrequired, htriggered⟩
  · rintro ⟨-, hnone⟩
    rw [hderived] at hnone
    have hempty : collectUnresolvedBlockers item = [] := hnone
    rw [hblockers] at hempty
    cases hempty

theorem runDryRunOrchestration_projections_agree_docs :
    ∃ result decision,
      runDryRunOrchestration sampleUuids { unstableRequest with verificationPassed := true } =
        .ok result ∧
      result.projectedActivationDecision = some decision ∧ decision.recommendation = .go := by
  obtain ⟨result, hrun⟩ := exists_returned sampleUuids
    { unstableRequest with verificationPassed := true } (by decide)
  have h := returned_of_ok hrun
  have ht := h.triaged
  have hkind : result.triageResult.decision = .go := by
    rw [h.triage]
    decide +kernel
  have hallowed : result.decisionProjection.autonomousContinuationAllowed = true := by
    have hrequired : result.managementSummary.requiredReview = false := by
      rw [h.summary.required, hkind]
      rfl
    have htriggered : result.managementSummary.hardGateTriggered = false := by
      rw [h.summary.triggered, ← h.summary.triggers, (h.summary.reasons_of_go ht hkind).1]
      rfl
    rw [h.projection]
    exact projectDryRunDecision_allowed_iff.mpr ⟨rfl, hrequired, htriggered⟩
  obtain ⟨decision, hdecision, hagree⟩ :=
    runDryRunOrchestration_projections_agree _ _ result hrun hallowed
  rcases hagree with ⟨hgo, -⟩ | ⟨hpause, -⟩
  · exact ⟨result, decision, hrun, hdecision, hgo⟩
  · rw [hkind] at hpause
    cases hpause

/-! ## Trend and work order -/

/-- A run says the same about its governance as another one of the same triage and the same
    decision of the management. -/
structure SameGovernance (result result' : DryRunOrchestrationResult) : Prop where
  activation : result.projectedActivationDecision = result'.projectedActivationDecision
  decision : result.decisionProjection.decision = result'.decisionProjection.decision
  allowed : result.decisionProjection.autonomousContinuationAllowed =
    result'.decisionProjection.autonomousContinuationAllowed
  outcome : result.managementSummary.decisionOutcome = result'.managementSummary.decisionOutcome
  risk : result.managementSummary.riskLevel = result'.managementSummary.riskLevel
  routing :
    result.managementSummary.departmentRouting = result'.managementSummary.departmentRouting
  triggered :
    result.managementSummary.hardGateTriggered = result'.managementSummary.hardGateTriggered
  triggers :
    result.managementSummary.hardGateTriggers = result'.managementSummary.hardGateTriggers
  required : result.managementSummary.requiredReview = result'.managementSummary.requiredReview
  reason :
    result.managementSummary.escalationReason = result'.managementSummary.escalationReason

section Independence

variable {triage : TriageResult} {summary summary' : ManagementReviewSummary}
variable {record? : Option ManagementDecisionRecord}

theorem FollowsTriage.reasons_eq (h : FollowsTriage triage summary)
    (h' : FollowsTriage triage summary') :
    buildEscalationReasons summary = buildEscalationReasons summary' := by
  rw [buildEscalationReasons, buildEscalationReasons, h.reason, h.triggered, h.required, h.outcome,
    h'.reason, h'.triggered, h'.required, h'.outcome]

/-- The activation decision reads the summary only for what it says about the governance. -/
theorem FollowsTriage.activation_eq {uuids uuids' : DryRunUuids}
    {currentBrief currentBrief' : CurrentBriefArtifact}
    {decision decision' : DryRunActivationDecision} (h : FollowsTriage triage summary)
    (h' : FollowsTriage triage summary')
    (hbuild : buildProjectedActivationDecision uuids currentBrief summary record? = .ok decision)
    (hbuild' : buildProjectedActivationDecision uuids' currentBrief' summary' record? =
      .ok decision') : decision = decision' := by
  obtain ⟨item, hitem, rfl⟩ := buildProjectedActivationDecision_eq_ok hbuild
  obtain ⟨item', hitem', rfl⟩ := buildProjectedActivationDecision_eq_ok hbuild'
  have hblockers := hitem.blockers_eq hitem' (h.triggered.trans h'.triggered.symm)
    (h.triggers.trans h'.triggers.symm) (h.reasons_eq h')
  have hrequired := h.required.trans h'.required.symm
  have houtcome := h.outcome.trans h'.outcome.symm
  unfold deriveDryRunActivationDecision buildPreconditions buildManagementReviewPacket
  dsimp only
  rw [hblockers, hrequired]
  cases record? with
  | some record => rfl
  | none =>
      rw [Option.getD_none, Option.getD_none, systemDecision, systemDecision]
      dsimp only
      rw [houtcome]

variable (record?) in
theorem FollowsTriage.projection_eq (h : FollowsTriage triage summary)
    (h' : FollowsTriage triage summary') :
    (projectDryRunDecision summary record?).decision =
        (projectDryRunDecision summary' record?).decision ∧
      (projectDryRunDecision summary record?).autonomousContinuationAllowed =
        (projectDryRunDecision summary' record?).autonomousContinuationAllowed := by
  have hbasis : (projectionBasis summary record?).1 = (projectionBasis summary' record?).1 := by
    cases record? with
    | some record => rfl
    | none => exact h.outcome.trans h'.outcome.symm
  rw [projectDryRunDecision_decision, projectDryRunDecision_decision, Bool.eq_iff_iff,
    projectDryRunDecision_allowed_iff, projectDryRunDecision_allowed_iff, hbasis, h.required,
    h'.required, h.triggered, h'.triggered]
  exact ⟨rfl, Iff.rfl⟩

end Independence

/-- The trend analysis and the drafting of a work order do not touch the governance. -/
theorem runDryRunOrchestration_governance_independent (uuids uuids' : DryRunUuids)
    (request : DryRunOrchestrationRequest) (includeTrend : Bool) (trendProviderHint : String)
    (generateWorkOrder : Bool) (workOrderId : Option String)
    (result result' : DryRunOrchestrationResult)
    (hrun : runDryRunOrchestration uuids request = .ok result)
    (hrun' : runDryRunOrchestration uuids'
      { request with includeTrend, trendProviderHint, generateWorkOrder, workOrderId } =
        .ok result') :
    SameGovernance result result' := by
  have h := returned_of_ok hrun
  have h' := returned_of_ok hrun'
  have htriage : result'.triageResult = result.triageResult := by
    rw [h'.triage, h.triage]
    rfl
  have hs := h.summary
  have hs' := h'.summary
  rw [htriage] at hs'
  obtain ⟨decision, hdecision, hbuild⟩ := h.activation
  obtain ⟨decision', hdecision', hbuild'⟩ := h'.activation
  have hprojection := hs.projection_eq request.managementDecision hs'
  exact {
    activation := by rw [hdecision, hdecision', hs.activation_eq hs' hbuild hbuild']
    decision := by rw [h.projection, h'.projection]; exact hprojection.1
    allowed := by rw [h.projection, h'.projection]; exact hprojection.2
    outcome := hs.outcome.trans hs'.outcome.symm
    risk := hs.risk.trans hs'.risk.symm
    routing := hs.routing.trans hs'.routing.symm
    triggered := hs.triggered.trans hs'.triggered.symm
    triggers := hs.triggers.trans hs'.triggers.symm
    required := hs.required.trans hs'.required.symm
    reason := hs.reason.trans hs'.reason.symm }

theorem runDryRunOrchestration_governance_independent_auth :
    ∃ result result', runDryRunOrchestration sampleUuids authRequest = .ok result ∧
      SameGovernance result result' := by
  obtain ⟨result, hrun⟩ := exists_returned sampleUuids authRequest (by decide)
  obtain ⟨result', hrun'⟩ := exists_returned sampleUuids
    { authRequest with
      includeTrend := true
      trendProviderHint := "gemini"
      generateWorkOrder := false
      workOrderId := some "order" } (by decide)
  exact ⟨result, result', hrun, runDryRunOrchestration_governance_independent sampleUuids
    sampleUuids authRequest true "gemini" false (some "order") result result' hrun hrun'⟩

end CodexOrchestrator
