import CodexOrchestrator.Orchestrator.Record

/-!
# Execute — the task loop

`PMOrchestrator._execute_pending_tasks`.  The loop reads the plan in list order; it ends the call
early when the trend task needs an approval that is missing.
-/

open PyText

namespace CodexOrchestrator

/-- What the loop carries from task to task. -/
structure LoopState where
  record : ProjectRecord
  currentCycleReviewFailed : Bool := false
  reviewRan : Bool := false

/-- How a round of the loop ends: the call returns, or the loop goes on. -/
inductive LoopExit where
  | paused (completion : Completion)
  | finished (state : LoopState)

def isMockProvider (provider : TrendProvider) : Bool :=
  lower (strip provider.name) = "mock"

/-- The test in front of the trend task. -/
def trendApprovalMissing (provider : TrendProvider)
    (approvedActionSet : Finset ApprovalActionType) : Bool :=
  -- the approved types are those that the caller of the pass gives, not those of the record
  !isMockProvider provider && requiresHumanApproval .externalApiSend &&
    decide (.externalApiSend ∉ approvedActionSet)

def simulatedFinding : String := "Simulated review failure for rollback flow test."

def simulateReview (simulateReviewFailure : Bool) (review : Review) : Review :=
  -- the finding is added once, and the verdict is overwritten
  if simulateReviewFailure then
    { review with
      verdict := "changes_requested"
      findings :=
        if simulatedFinding ∈ review.findings then review.findings
        else review.findings ++ [simulatedFinding] }
  else review

def approvalCheckpoint (projectId : String) : Checkpoint where
  id := approvalCheckpointId projectId
  name := "External provider approval"
  approved := false
  approver := "human"
  note := "Approve `external_api_send` to continue trend analysis."

def deliveryCheckpoint (projectId : String) : Checkpoint where
  id := deliveryCheckpointId projectId
  name := "Delivery checkpoint"
  approved := true
  approver := "system"
  note := "Auto-approved for deterministic scaffold run."

def hasPendingApproval (record : ProjectRecord) (actionType : ApprovalActionType) : Bool :=
  record.approvals.any fun approval =>
    decide (approval.actionType = actionType) && decide (approval.status = .pending)

section Loop

variable (rt : Runtime)

def trendApprovalRequest : ApprovalRequest :=
  createRequest rt.approvalUuid .externalApiSend
    "Trend analysis with external provider requires human approval." systemActor

/-- Open a request for the external send, unless one is pending already. -/
def requestTrendApproval (record : ProjectRecord) : ProjectRecord :=
  if hasPendingApproval record .externalApiSend then record
  else
    recordEvent rt { record with approvals := record.approvals ++ [trendApprovalRequest rt] }
      .approvalRequested systemActor (trendApprovalRequest rt).reason
      [("action_type", .str ApprovalActionType.externalApiSend.value)]

def pauseForApproval (record : ProjectRecord) (i : Nat) (actor : ActorContext) :
    Action Completion := do
  let record := setTaskStatus rt record i .waitingApproval actor
    "Required action approval is missing."
  -- the checkpoint of an earlier request is replaced, so that it is open again
  let record := requestTrendApproval rt record
  let record := upsertCheckpoint record (approvalCheckpoint record.project.id)
  let record ← transition rt record .waitingApproval actor "Execution paused for approval."
  return {
    saved := some record
    result := summary record
      ["Approve action `external_api_send`.",
       "Call approval resume API with `approved_actions=[\"external_api_send\"]`."] }

def finishTask (state : LoopState) (i : Nat) (actor : ActorContext) : LoopExit :=
  .finished { state with record := setTaskStatus rt state.record i .done actor }

/-- One round of the loop, for the task at position `i`. -/
def executeTask (provider : TrendProvider) (approvedActionSet : Finset ApprovalActionType)
    (simulateReviewFailure : Bool) (actor : ActorContext) (i : Nat) (task : Task)
    (state : LoopState) : Action LoopExit :=
  -- a finished task keeps its artifact
  if task.status = .done then .ok (.finished state)
  else
    let record := setTaskStatus rt state.record i .inProgress actor
    let brief := record.project.brief
    match task.department with
    | .research =>
        .ok (finishTask rt { state with record := upsertArtifact record (researchAgentRun task brief) }
          i actor)
    | .design =>
        .ok (finishTask rt { state with record := upsertArtifact record (designAgentRun task brief) }
          i actor)
    | .build =>
        .ok (finishTask rt { state with record := upsertArtifact record (buildAgentRun task brief) }
          i actor)
    | .trend =>
        if trendApprovalMissing provider approvedActionSet then do
          let completion ← pauseForApproval rt record i actor
          return .paused completion
        else do
          -- the provider may raise; nothing has been saved by then
          let artifact ← Action.lift (trendAgentRun provider task brief)
          return finishTask rt { state with record := upsertArtifact record artifact } i actor
    | .review =>
        let review := simulateReview simulateReviewFailure (reviewAgentRun task record.artifacts)
        .ok (finishTask rt
          -- a review is appended, under an id made from its task
          { record := { record with reviews := record.reviews ++ [review] }
            currentCycleReviewFailed := review.verdict = "changes_requested"
            reviewRan := true } i actor)

def executeTasks (provider : TrendProvider) (approvedActionSet : Finset ApprovalActionType)
    (simulateReviewFailure : Bool) (actor : ActorContext) :
    Nat → List Task → LoopState → Action LoopExit
  | _, [], state => .ok (.finished state)
  | i, task :: rest, state => do
      match ← executeTask rt provider approvedActionSet simulateReviewFailure actor i task state with
      | .paused completion => return .paused completion
      | .finished state =>
          executeTasks provider approvedActionSet simulateReviewFailure actor (i + 1) rest state

/-- The end of a cycle whose review failed. -/
def requestRevision (record : ProjectRecord) (actor : ActorContext) : Action Completion := do
  let record ← transition rt record .reviewFailed actor "Review returned blocking findings."
  let record ← transition rt record .revisionRequested actor
    "Revision requested after review failure."
  let record := recordEvent rt record .revisionRequested actor "Review requested revisions."
  return {
    saved := some record
    result := summary record
      ["Use revision resume API with `resume_mode`.",
       "Provide revision reason and actor for audit logging."] }

/-- The end of a cycle without a failed review. -/
def completeDelivery (record : ProjectRecord) (actor : ActorContext) : Action Completion := do
  let record := upsertCheckpoint record (deliveryCheckpoint record.project.id)
  let record ← transition rt record .completed actor
    "Execution finished without blocking review findings."
  return {
    saved := some record
    result := summary record
      ["Connect real provider APIs with approval gate.",
       "Move DB bootstrap SQL to managed migrations."] }

def executePendingTasks (record : ProjectRecord) (trendProviderName : String)
    (approvedActionSet : Finset ApprovalActionType) (simulateReviewFailure : Bool := false)
    (actor : ActorContext := systemActor) : Action Completion := do
  let provider ← Action.lift (rt.getTrendProvider trendProviderName)
  match ← executeTasks rt provider approvedActionSet simulateReviewFailure actor 0 record.tasks
      { record } with
  | .paused completion => return completion
  | .finished state =>
      -- only the last review of this pass counts
      if state.reviewRan && state.currentCycleReviewFailed then requestRevision rt state.record actor
      else completeDelivery rt state.record actor

end Loop

end CodexOrchestrator
