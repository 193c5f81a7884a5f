import CodexOrchestrator.Governance

/-!
# Approvers — who a dry run records as having approved

The approval of an activation carries the reviewer of the management decision.  Where none is
supplied, the dry run decides as the triage did, and its own system reviewer stands as the approver,
so an approval does not tell that a human gave it.
-/

open PyText Raise

namespace CodexOrchestrator

/-- The reviewer behind the decision of a dry run. -/
def DryRunOrchestrationRequest.reviewer (request : DryRunOrchestrationRequest) : String × String :=
  match request.managementDecision with
  | some record => (record.reviewerId, record.reviewerType.value)
  | none => ("dry-run-system", "system")

/-- The entry says that an approval was given. -/
def SaysApproved (entry : Dict String) : Prop := entry.get? "status" = some "approved"

/-- The entry names the approver. -/
def NamesApprover (approver : String × String) (entry : Dict String) : Prop :=
  entry.get? "approver_id" = some approver.1 ∧ entry.get? "approver_type" = some approver.2

section Derived

variable {packet : ManagementReviewPacket} {item : ReviewQueueItem}
variable {record : ManagementDecisionRecord} {entry : Dict String}

/-- The one approval of a derived decision. -/
theorem mem_humanApprovalsRecorded
    (h : entry ∈ (deriveDryRunActivationDecision packet item record).humanApprovalsRecorded) :
    entry.get? "status" = some (humanStatusForDecision
        (deriveDryRunActivationDecision packet item record).recommendation) ∧
      NamesApprover (record.reviewerId, record.reviewerType.value) entry := by
  rw [List.mem_singleton.mp h]
  exact ⟨rfl, rfl, rfl⟩

theorem exists_humanApproval (packet : ManagementReviewPacket) (item : ReviewQueueItem)
    (record : ManagementDecisionRecord) :
    ∃ entry, entry ∈
      (deriveDryRunActivationDecision packet item record).humanApprovalsRecorded :=
  ⟨_, List.mem_singleton_self _⟩

/-- The bundle of a derived decision: its record shows the status of the one approval. -/
theorem exists_artifactBundle {result : DryRunOrchestrationResult}
    (hdecision : result.projectedActivationDecision =
      some (deriveDryRunActivationDecision packet item record)) (activationReviewItemId : String)
    (approvalRecordId relatedProjectId relatedActivationDecisionId relatedPacketId
      relatedQueueItemId : Option String) :
    ∃ bundle, buildDryRunArtifactBundle result activationReviewItemId approvalRecordId
        relatedProjectId relatedActivationDecisionId relatedPacketId relatedQueueItemId =
          .ok bundle ∧
      humanApprovalStatus bundle.approvalRecord = some (humanStatusForDecision
        (deriveDryRunActivationDecision packet item record).recommendation) := by
  obtain ⟨approvalRecord, hrecord, hshown⟩ := approvalRecord_of_derived packet item record rfl
  refine ⟨⟨deriveDryRunActivationDecision packet item record, approvalRecord⟩, ?_, hshown⟩
  rw [buildDryRunArtifactBundle, hdecision]
  dsimp only
  rw [buildApprovalRecordFromProjectionContext, hrecord]
  rfl

end Derived

section Runs

variable {uuids : DryRunUuids} {request : DryRunOrchestrationRequest}
variable {result : DryRunOrchestrationResult} {decision : DryRunActivationDecision}

/-- The decision that a dry run derives its activation from, and the item that it is about. -/
theorem Returned.derived (h : Returned uuids request result) :
    ∃ item record, ItemOf result.managementSummary item ∧
      result.projectedActivationDecision = some (deriveDryRunActivationDecision
        (buildManagementReviewPacket result.currentBrief result.managementSummary uuids.packet) item
        record) ∧
      (record.reviewerId, record.reviewerType.value) = request.reviewer ∧
      record.decision = (projectionBasis result.managementSummary request.managementDecision).1 := by
  obtain ⟨decision, hdecision, hbuild⟩ := h.activation
  obtain ⟨item, hitem, hderived⟩ := buildProjectedActivationDecision_eq_ok hbuild
  refine ⟨item, _, hitem, hdecision.trans (congrArg some hderived), ?_, getD_systemDecision _ _⟩
  unfold DryRunOrchestrationRequest.reviewer
  cases request.managementDecision <;> rfl

/-- An activation that is recommended was let go on by the triage and by whoever decided. -/
theorem Returned.go_of_recommended (h : Returned uuids request result)
    {item : ReviewQueueItem} (hitem : ItemOf result.managementSummary item)
    {record : ManagementDecisionRecord} (hgo : (deriveDryRunActivationDecision
      (buildManagementReviewPacket result.currentBrief result.managementSummary uuids.packet) item
      record).recommendation = .go) :
    result.triageResult.decision = .go ∧ record.decision = .go := by
  obtain ⟨hdecided, hblockers, hrequired⟩ := recommendationFor_eq_go_iff.mp hgo
  refine ⟨?_, hdecided⟩
  cases hkind : result.triageResult.decision with
  | go => rfl
  | pause =>
      -- the reason of a pause blocks the activation
      rw [hitem.blockers_of_pause h.summary h.triaged hkind] at hblockers
      cases hblockers
  | review =>
      have hreview : result.managementSummary.requiredReview = true := by
        rw [h.summary.required, hkind]
        rfl
      exact absurd hrequired (by rw [Bool.not_eq_false]; exact hreview)

/-- Who is recorded as having approved is the reviewer of the management decision, which is a GO,
    or the system reviewer where no decision is supplied; the triage is a GO in both cases. -/
theorem approved_only_by_reviewer (uuids : DryRunUuids) (request : DryRunOrchestrationRequest)
    (result : DryRunOrchestrationResult)
    (hrun : runDryRunOrchestration uuids request = .ok result) :
    ∃ decision, result.projectedActivationDecision = some decision ∧
      (∀ entry ∈ decision.humanApprovalsRecorded, SaysApproved entry →
        NamesApprover request.reviewer entry ∧ result.triageResult.decision = .go ∧
        ∀ record, request.managementDecision = some record → record.decision = .go) ∧
      ∀ activationReviewItemId approvalRecordId relatedProjectId relatedActivationDecisionId
        relatedPacketId relatedQueueItemId bundle,
        buildDryRunArtifactBundle result activationReviewItemId approvalRecordId relatedProjectId
          relatedActivationDecisionId relatedPacketId relatedQueueItemId = .ok bundle →
        humanApprovalStatus bundle.approvalRecord = some "approved" →
        ∃ entry ∈ decision.humanApprovalsRecorded,
          SaysApproved entry ∧ NamesApprover request.reviewer entry := by
  have h := returned_of_ok hrun
  obtain ⟨item, record, hitem, hdecision, hreviewer, hbasis⟩ := h.derived
  refine ⟨_, hdecision, ?_, ?_⟩
  · intro entry hentry happroved
    obtain ⟨hstatus, hnames⟩ := mem_humanApprovalsRecorded hentry
    have hgo := humanStatusForDecision_eq_iff.mp
      (Option.some.inj (hstatus.symm.trans happroved))
    obtain ⟨htriage, hdecided⟩ := h.go_of_recommended hitem hgo
    refine ⟨hreviewer ▸ hnames, htriage, fun supplied hsupplied => ?_⟩
    rw [hsupplied] at hbasis
    exact hbasis.symm.trans hdecided
  · intro activationReviewItemId approvalRecordId relatedProjectId relatedActivationDecisionId
      relatedPacketId relatedQueueItemId bundle hbundle happroved
    obtain ⟨entry, hentry⟩ := exists_humanApproval
      (buildManagementReviewPacket result.currentBrief result.managementSummary uuids.packet) item
      record
    obtain ⟨hstatus, hnames⟩ := mem_humanApprovalsRecorded hentry
    refine ⟨entry, hentry, ?_, hreviewer ▸ hnames⟩
    -- the record has the status of the one approval
    obtain ⟨bundle', hbundle', hshown⟩ := exists_artifactBundle hdecision activationReviewItemId
      approvalRecordId relatedProjectId relatedActivationDecisionId relatedPacketId
      relatedQueueItemId
    rw [hbundle] at hbundle'
    rw [← Except.ok.inj hbundle', happroved] at hshown
    exact hstatus.trans hshown.symm

/-- A change of the documents, without a decision of the management. -/
def docsRequest : DryRunOrchestrationRequest where
  userRequest := "Update the documents"
  changedAreas := {"docs"}
  currentTask := some "Update the documents"

theorem docsRequest_go (h : Returned uuids docsRequest result) :
    result.triageResult.decision = .go := by
  rw [h.triage]
  decide +kernel

/-- The approval of a dry run nobody has looked at: the system gave it, and no human did. -/
theorem docs_approved_by_system : ∃ result decision bundle,
    runDryRunOrchestration sampleUuids docsRequest = .ok result ∧
    result.projectedActivationDecision = some decision ∧
    (∃ entry ∈ decision.humanApprovalsRecorded,
      SaysApproved entry ∧ entry.get? "approver_type" = some "system") ∧
    buildDryRunArtifactBundle result "item-1" = .ok bundle ∧
    humanApprovalStatus bundle.approvalRecord = some "approved" ∧
    ¬ ∃ entry ∈ decision.humanApprovalsRecorded,
      SaysApproved entry ∧ entry.get? "approver_type" = some "human" := by
  obtain ⟨result, hrun⟩ := exists_returned sampleUuids docsRequest (by decide)
  have h := returned_of_ok hrun
  have hkind := docsRequest_go h
  obtain ⟨item, record, hitem, hdecision, hreviewer, hbasis⟩ := h.derived
  have hdecided : record.decision = .go := hbasis.trans (h.summary.outcome.trans hkind)
  have hrequired : result.managementSummary.requiredReview = false := by
    rw [h.summary.required, hkind]
    rfl
  have hgo : (deriveDryRunActivationDecision (buildManagementReviewPacket result.currentBrief
      result.managementSummary sampleUuids.packet) item record).recommendation = .go :=
    recommendationFor_eq_go_iff.mpr
      ⟨hdecided, hitem.blockers_of_go h.summary h.triaged hkind, hrequired⟩
  obtain ⟨bundle, hbundle, hshown⟩ := exists_artifactBundle hdecision "item-1" none none none none none
  refine ⟨result, _, bundle, hrun, hdecision, ?_, hbundle, ?_, ?_⟩
  · obtain ⟨entry, hentry⟩ := exists_humanApproval (buildManagementReviewPacket result.currentBrief
      result.managementSummary sampleUuids.packet) item record
    obtain ⟨hstatus, -, htype⟩ := mem_humanApprovalsRecorded hentry
    rw [hgo] at hstatus
    exact ⟨entry, hentry, hstatus, htype.trans (congrArg some (congrArg Prod.snd hreviewer))⟩
  · rw [hshown, hgo]
    rfl
  · rintro ⟨entry, hentry, -, hhuman⟩
    obtain ⟨-, -, htype⟩ := mem_humanApprovalsRecorded hentry
    have hsystem : record.reviewerType.value = "system" := congrArg Prod.snd hreviewer
    rw [hsystem, hhuman] at htype
    exact absurd (Option.some.inj htype) (by decide : "human" ≠ "system")

theorem approved_only_by_reviewer_docs : ∃ result decision,
    runDryRunOrchestration sampleUuids docsRequest = .ok result ∧
    result.projectedActivationDecision = some decision ∧
    ∀ entry ∈ decision.humanApprovalsRecorded, SaysApproved entry →
      NamesApprover ("dry-run-system", "system") entry := by
  obtain ⟨result, hrun⟩ := exists_returned sampleUuids docsRequest (by decide)
  obtain ⟨decision, hdecision, hentries, -⟩ :=
    approved_only_by_reviewer sampleUuids docsRequest result hrun
  exact ⟨result, decision, hrun, hdecision,
    fun entry hentry happroved => (hentries entry hentry happroved).1⟩

end Runs

end CodexOrchestrator
