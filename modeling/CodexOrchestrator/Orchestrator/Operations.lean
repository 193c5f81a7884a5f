import CodexOrchestrator.Orchestrator.Execute

/-!
# Operations — the public operations of `PMOrchestrator`

Each operation on an existing project is given here from the point where its record is loaded: it
saves at most one version of the record, as the last thing before it returns or raises.
-/

open PyText Raise

namespace CodexOrchestrator

structure RunArgs where
  brief : ProjectBrief
  projectPolicy : Option ProjectPolicy := none
  trendProviderName : String := "mock"
  approvedActions : List ActionArg := []
  simulateReviewFailure : Bool := false

structure ApprovalResumeArgs where
  approvedActions : List ActionArg
  actor : ActorArg := .none
  note : String := ""
  trendProviderName : String := "mock"
  projectAllowedActorIdsByAction : Option (Dict (List String)) := none

structure ApprovalRejectArgs where
  rejectedActions : List ActionArg
  actor : ActorArg
  reason : String
  note : String := ""
  projectAllowedActorIdsByAction : Option (Dict (List String)) := none

structure RevisionResumeArgs where
  resumeMode : RevisionResumeMode
  actor : ActorArg := .none
  reason : String := ""
  trendProviderName : String := "mock"
  approvedActions : List ActionArg := []

structure ReplanningStartArgs where
  actor : ActorArg
  note : String := ""
  trendProviderName : String := "mock"
  approvedActions : List ActionArg := []
  resetDownstreamTasks : Bool := true

def invalidStateError (expectedStatus currentStatus : ProjectStatus) : PyError :=
  .valueError ("Project is not in " ++ expectedStatus.value ++ " state (current: " ++
    currentStatus.value ++ ").")

/-- The idempotent handlers are tried in order; the first result wins. -/
def firstIdempotentResult (error : PyError) :
    List (Action (Option OrchestrationResult)) → Action (Option OrchestrationResult)
  | [] => .raise error
  | handler :: rest => do
      match ← handler with
      | some result => return some result
      | none => firstIdempotentResult error rest

def resolveResultOrRaiseInvalidState (record : ProjectRecord) (expectedStatus : ProjectStatus)
    (idempotentHandlers : List (Action (Option OrchestrationResult))) :
    Action (Option OrchestrationResult) :=
  -- `none`: the call goes on with the record
  if record.project.status = expectedStatus then .ok none
  else firstIdempotentResult (invalidStateError expectedStatus record.project.status)
    idempotentHandlers

/-! ## Idempotent answers -/

def idempotentResumeFromApprovalIfCompleted (record : ProjectRecord)
    (approvedActionSet : Finset ApprovalActionType) : Action (Option OrchestrationResult) :=
  if record.project.status ≠ .completed then return none
  else
    let actionState := approvalActionState record
    -- a project that never asked for an approval was not resumed from one
    if actionState.knownActions = ∅ then return none
    else do
      validateApprovalActionRequest approvedActionSet actionState.knownActions
        actionState.rejectedActions
      if actionState.pendingApprovals.isEmpty ∧ approvedActionSet ⊆ actionState.approvedActions then
        return some (summary record
          ["Project already completed; approval resume request treated as idempotent."])
      else return none

def idempotentRejectIfRevisionRequested (record : ProjectRecord)
    (rejectedActionSet : Finset ApprovalActionType) : Action (Option OrchestrationResult) :=
  if record.project.status ≠ .revisionRequested then return none
  else do
    let actionState := approvalActionState record
    -- raises for a type that was not rejected, so that only a repetition is answered
    raiseIfActionsOutsideAllowedSet rejectedActionSet actionState.rejectedActions
      "Cannot reject non-pending action(s)"
    if rejectedActionSet ≠ ∅ ∧ rejectedActionSet ⊆ actionState.rejectedActions then
      return some (summary record revisionResumeNextSteps)
    else return none

def idempotentResumeFromRevisionIfReadyForPlanning (record : ProjectRecord)
    (resumeMode : RevisionResumeMode) : Action (Option OrchestrationResult) :=
  if record.project.status = .readyForPlanning ∧ resumeMode = .replanning then
    return some (summary record replanningStartNextSteps)
  else return none

/-- `_has_event`: the mode is compared only when one is given. -/
def hasEvent (record : ProjectRecord) (eventType : HistoryEventType)
    (mode : Option String := none) : Bool :=
  record.events.any fun event =>
    decide (event.eventType = eventType) &&
      match mode with
      | none => true
      | some mode =>
          match event.metadata.lookup "mode" with
          | some (.str found) => decide (found = mode)
          | _ => false

def idempotentIfCompletedWithEvent (record : ProjectRecord) (eventType : HistoryEventType)
    (nextStep : String) (mode : Option String := none) : Action (Option OrchestrationResult) :=
  if record.project.status ≠ .completed then return none
  else if hasEvent record eventType mode then return some (summary record [nextStep])
  else return none

def idempotentResumeFromRevisionIfCompleted (record : ProjectRecord)
    (resumeMode : RevisionResumeMode) : Action (Option OrchestrationResult) :=
  idempotentIfCompletedWithEvent record .resumeTriggered
    "Project already completed; revision resume request treated as idempotent."
    (some resumeMode.value)

def idempotentStartReplanningIfCompleted (record : ProjectRecord) :
    Action (Option OrchestrationResult) :=
  idempotentIfCompletedWithEvent record .replanningStarted
    "Project already completed; replanning start request treated as idempotent."

section Operations

variable (rt : Runtime)

/-! ## Starting a project -/

/-- The record a run starts from, in `draft`. -/
def initialRecord (args : RunArgs) : ProjectRecord where
  project := {
    id := rt.projectUuid
    brief := args.brief
    policy := args.projectPolicy.getD {}
    status := .draft }
  tasks := buildPlan

def run (args : RunArgs) : Action Completion := do
  let record := initialRecord rt args
  -- these actions are taken as approved: no request is opened and nobody is authorized
  let approvedActionSet ← parseApprovedActions args.approvedActions
  let record ← transition rt record .intakePending systemActor "Brief intake started."
  let record ← transition rt record .readyForPlanning systemActor "Brief accepted for planning."
  let record ← transition rt record .inProgress systemActor "Execution started."
  executePendingTasks rt record args.trendProviderName approvedActionSet
    args.simulateReviewFailure systemActor

/-! ## Approval decisions -/

def approvalCompletedIdempotentHandler (args : ApprovalResumeArgs) (record : ProjectRecord) :
    Action (Option OrchestrationResult) :=
  if record.project.status = .completed then do
    let approvedActionSet ← parseApprovedActions args.approvedActions
    raiseIf (approvedActionSet = ∅) { error := .valueError "approved_actions is required." }
    idempotentResumeFromApprovalIfCompleted record approvedActionSet
  else return none

/-- `if actions_to_approve: self._authorize_actions_or_raise(...)`. -/
def authorizeNewActions (record : ProjectRecord) (actor : ActorContext)
    (actionsToApprove : Finset ApprovalActionType) (allowList : Option (Dict (List String))) :
    Action ProjectRecord :=
  if actionsToApprove = ∅ then .ok record
  else authorizeActionsOrRaise rt record actor actionsToApprove allowList

/-- Some pending action types were not named: nothing is executed, and the record is saved only when
    something was approved. -/
def resumePartially (record : ProjectRecord)
    (actionsToApprove missingActions : Finset ApprovalActionType) (actor : ActorContext)
    (note : String) : Completion :=
  let missing := formattedMissingActions missingActions
  let nextSteps :=
    ["Approve remaining action(s): " ++ missing.1 ++ ".",
     "Call approval resume API with `approved_actions=[" ++ missing.2 ++ "]`."]
  -- nothing was decided, so nothing is saved
  if actionsToApprove = ∅ then { result := summary record nextSteps }
  else
    let record := recordResumeTriggered rt record actor "approval_resume_partial"
      (orElse note "Partial approval recorded.") [("missing_actions", .str missing.1)]
    { saved := some record, result := summary record nextSteps }

/-- Every pending action type was named: the waiting tasks are released and the plan runs on. -/
def resumeFully (record : ProjectRecord) (effectiveApprovedActionSet : Finset ApprovalActionType)
    (actor : ActorContext) (note trendProviderName : String) : Action Completion := do
  let record := moveWaitingTasks rt record .pending actor
  let record := recordResumeTriggered rt record actor "approval_resume"
    (orElse note "Approval resume requested.")
  let record ← transition rt record .inProgress actor "Approval requirements satisfied."
  -- the pass runs as the actor who approved
  executePendingTasks rt record trendProviderName effectiveApprovedActionSet false actor

/-- The decision part of `resume_from_approval`, for a project that waits for approval. -/
def approveAndResume (args : ApprovalResumeArgs) (actor : ActorContext) (note : String)
    (record : ProjectRecord) : Action Completion := do
  let approvedActionSet ← parseApprovedActions args.approvedActions
  raiseIf (approvedActionSet = ∅) { error := .valueError "approved_actions is required." }
  let actionState := approvalActionState record
  raiseIf (actionState.pendingApprovals.isEmpty = true)
    { error := .valueError "No pending approvals found." }
  validateApprovalActionRequest approvedActionSet actionState.knownActions
    actionState.rejectedActions
  let requiredActions := actionState.pendingActionTypes
  -- a type that some request has approved before is not authorized again
  let actionsToApprove := approvedActionSet \ actionState.approvedActions
  let missingActions := requiredActions \ approvedActionSet
  let record ← authorizeNewActions rt record actor actionsToApprove
    args.projectAllowedActorIdsByAction
  let record := approvePending rt record actionState.pendingApprovals actionsToApprove actor note
  if missingActions ≠ ∅ then
    return resumePartially rt record actionsToApprove missingActions actor note
  else
    resumeFully rt record (actionState.approvedActions ∪ actionsToApprove) actor note
      args.trendProviderName

def resumeFromApproval (args : ApprovalResumeArgs) (record : ProjectRecord) :
    Action Completion := do
  let actorContext := coerceActor args.actor .approver
  let noteClean := normalizeText args.note
  match ← resolveResultOrRaiseInvalidState record .waitingApproval
      [approvalCompletedIdempotentHandler args record] with
  | some result => return { result }
  | none => approveAndResume rt args actorContext noteClean record

def revisionRequestedIdempotentHandler (args : ApprovalRejectArgs) (record : ProjectRecord) :
    Action (Option OrchestrationResult) :=
  if record.project.status = .revisionRequested then do
    let rejectedActionSet ← parseApprovedActions args.rejectedActions
    idempotentRejectIfRevisionRequested record
      (if rejectedActionSet = ∅ then (approvalActionState record).rejectedActions
       else rejectedActionSet)
  else return none

/-- The decision part of `reject_approval`: every pending request is closed, named or not. -/
def rejectAndRevise (args : ApprovalRejectArgs) (actor : ActorContext) (reason note : String)
    (record : ProjectRecord) : Action Completion := do
  let actionState := approvalActionState record
  raiseIf (actionState.pendingApprovals.isEmpty = true)
    { error := .valueError "No pending approvals found." }
  let pendingActionSet := actionState.pendingActionTypes
  let named ← parseApprovedActions args.rejectedActions
  -- no names: everything that is pending is rejected
  let rejectedActionSet := if named = ∅ then pendingActionSet else named
  raiseIfActionsOutsideAllowedSet rejectedActionSet pendingActionSet
    "Cannot reject non-pending action(s)"
  -- all pending types are authorized, named or not
  let record ← authorizeActionsOrRaise rt record actor pendingActionSet
    args.projectAllowedActorIdsByAction
  let record := rejectPending rt record actionState.pendingApprovals rejectedActionSet actor reason
    note
  let record := moveWaitingTasks rt record .revisionRequested actor "Approval rejected."
    (some reason)
  let record ← transition rt record .revisionRequested actor
    "Approval rejected; moved to revision lane."
  return { saved := some record, result := summary record revisionResumeNextSteps }

def rejectApproval (args : ApprovalRejectArgs) (record : ProjectRecord) : Action Completion := do
  let actorContext := coerceActor args.actor .approver
  let reasonClean := normalizeText args.reason
  let noteClean := normalizeText args.note
  raiseIf (reasonClean = "")
    { error := .valueError "reason is required for approval rejection." }
  match ← resolveResultOrRaiseInvalidState record .waitingApproval
      [revisionRequestedIdempotentHandler args record] with
  | some result => return { result }
  | none => rejectAndRevise rt args actorContext reasonClean noteClean record

/-! ## Revision lanes -/

/-- The departments a lane resets, the reset's reason, the next status and the default reason. -/
structure RevisionResumeConfig where
  departments : List Department
  taskResetReason : String
  nextStatus : ProjectStatus
  transitionReason : String

def downstreamDepartments : List Department := [.design, .build, .trend, .review]

def revisionResumeConfig : RevisionResumeMode → RevisionResumeConfig
  | .replanning =>
      { departments := downstreamDepartments
        taskResetReason := "Replanning requested."
        nextStatus := .readyForPlanning
        transitionReason := "Moved back to planning lane." }
  | .rebuilding =>
      { departments := [.build, .trend, .review]
        taskResetReason := "Rebuilding requested."
        nextStatus := .inProgress
        transitionReason := "Rebuild flow resumed." }
  | .rereview =>
      { departments := [.review]
        taskResetReason := "Re-review requested."
        nextStatus := .inProgress
        transitionReason := "Re-review flow resumed." }

def resumeRevisionWithTransition (record : ProjectRecord) (actor : ActorContext)
    (reason : String) (config : RevisionResumeConfig) : Action ProjectRecord :=
  let record := resetTasksForDepartments rt record config.departments .pending actor
    config.taskResetReason (some reason)
  transition rt record config.nextStatus actor (orElse reason config.transitionReason)

def resumeRevisionForMode (args : RevisionResumeArgs) (actor : ActorContext) (reason : String)
    (record : ProjectRecord) : Action Completion := do
  let config := revisionResumeConfig args.resumeMode
  let record ← resumeRevisionWithTransition rt record actor reason config
  if config.nextStatus = .readyForPlanning then
    return { saved := some record, result := summary record replanningStartNextSteps }
  else do
    -- parsed after the tasks are reset; an error leaves the stored record alone
    let approvedActionSet ← parseApprovedActions args.approvedActions
    executePendingTasks rt record args.trendProviderName approvedActionSet false actor

def resumeFromRevision (args : RevisionResumeArgs) (record : ProjectRecord) :
    Action Completion := do
  let actorContext := coerceActor args.actor .operator
  let reasonClean := normalizeText args.reason
  match ← resolveResultOrRaiseInvalidState record .revisionRequested
      [idempotentResumeFromRevisionIfReadyForPlanning record args.resumeMode,
       idempotentResumeFromRevisionIfCompleted record args.resumeMode] with
  | some result => return { result }
  | none =>
      let record := recordResumeTriggered rt record actorContext args.resumeMode.value
        (orElse reasonClean "Revision resume requested.")
      resumeRevisionForMode rt args actorContext reasonClean record

/-- The part of `start_replanning` for a project that is ready for planning. -/
def restartPlan (args : ReplanningStartArgs) (actor : ActorContext) (note : String)
    (record : ProjectRecord) : Action Completion := do
  let record :=
    if args.resetDownstreamTasks then
      resetTasksForDepartments rt record downstreamDepartments .pending actor
        "Replanning start reset."
    else record
  let record := recordEvent rt record .replanningStarted actor
    (orElse note "Replanning execution started.")
    [("reset_downstream_tasks", .bool args.resetDownstreamTasks)]
  let record ← transition rt record .inProgress actor
    "Replanning execution moved to in_progress."
  let approvedActionSet ← parseApprovedActions args.approvedActions
  executePendingTasks rt record args.trendProviderName approvedActionSet false actor

def startReplanning (args : ReplanningStartArgs) (record : ProjectRecord) :
    Action Completion := do
  let actorContext := coerceActor args.actor .operator
  let noteClean := normalizeText args.note
  match ← resolveResultOrRaiseInvalidState record .readyForPlanning
      [idempotentStartReplanningIfCompleted record] with
  | some result => return { result }
  | none => restartPlan rt args actorContext noteClean record

/-! ## Authentication bookkeeping -/

def recordAuthenticationSuccess (actor : ActorContext) (record : ProjectRecord) : ProjectRecord :=
  let record := recordEvent rt record .authenticationSucceeded actor "Authentication succeeded."
  recordEvent rt record .actorResolved actor "Actor resolved from authentication context."

def anonymousActor : ActorContext where
  actorId := "anonymous"
  actorRole := .viewer
  actorType := .human

def recordAuthenticationFailure (reason : String) (record : ProjectRecord) : ProjectRecord :=
  recordEvent rt record .authenticationFailed anonymousActor reason

end Operations

end CodexOrchestrator
