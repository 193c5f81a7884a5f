import CodexOrchestrator.Agents
import CodexOrchestrator.Services.Approval
import CodexOrchestrator.Orchestrator.Graph

/-!
# Record — the edits `PMOrchestrator` makes to a loaded record

`app/orchestrator/service.py`, from `_build_plan` to `_upsert_artifact`.  A method that mutates the
loaded record is a function from the record before to the record after; a task or an approval that
the code holds by reference is named by its position in the record.
-/

open PyText Raise

namespace CodexOrchestrator

/-- What a call reads from outside: the provider factory, the uuids it draws, and the clock.  The
    clock is read once for each event, and is indexed by the length of the log at the reading. -/
structure Runtime where
  getTrendProvider : String → Except PyError TrendProvider
  projectUuid : String
  approvalUuid : String
  now : Nat → String

/-- An exception that leaves a call, with the record saved before it was raised, if one was. -/
structure Abort where
  error : PyError
  saved : Option ProjectRecord := none

/-- The normal end of a call: the record it saved, if it saved, and what it returns. -/
structure Completion where
  saved : Option ProjectRecord := none
  result : OrchestrationResult

abbrev Action (α : Type) := Except Abort α

def Action.raise {α : Type} (error : PyError) : Action α := .error { error }

/-- A step that may raise, inside a call that has saved nothing. -/
def Action.lift {α : Type} : Except PyError α → Action α
  | .ok a => .ok a
  | .error e => .error { error := e }

/-- An actor as the methods take it: `ActorContext | str | None`. -/
inductive ActorArg where
  | context (actor : ActorContext)
  | text (actorId : String)
  | none

/-- An item of `approved_actions`: an enum member, a string, or any other value (by its `repr`). -/
inductive ActionArg where
  | action (actionType : ApprovalActionType)
  | text (value : String)
  | other (text : String)

structure ApprovalActionState where
  knownActions : Finset ApprovalActionType
  approvedActions : Finset ApprovalActionType
  rejectedActions : Finset ApprovalActionType
  pendingApprovals : List (ApprovalRequest × Nat)
  pendingActionTypes : Finset ApprovalActionType

def buildPlan : List Task :=
  [{ id := "task-research", title := "Research baseline", department := .research },
   { id := "task-design", title := "Design architecture", department := .design
     dependsOn := ["task-research"] },
   { id := "task-build", title := "Build scaffold", department := .build
     dependsOn := ["task-design"] },
   { id := "task-trend", title := "Trend analysis", department := .trend
     dependsOn := ["task-design"] },
   { id := "task-review", title := "Review output", department := .review
     dependsOn := ["task-build", "task-trend"] }]

def systemActor : ActorContext where
  actorId := "system"
  actorRole := .admin
  actorType := .system

def coerceActor (actor : ActorArg) (defaultRole : ActorRole := .operator)
    (defaultType : ActorType := .human) : ActorContext :=
  match actor with
  | .none => ⟨"unknown", defaultRole, defaultType⟩
  | .context actor => actor
  | .text actorId => ⟨orElse (strip actorId) "unknown", defaultRole, defaultType⟩

def normalizeText (value : String) : String := strip value

def composeDecisionNote (primary secondary : String) : String :=
  join " " ([primary, secondary].filter fun part => part ≠ "")

def revisionResumeNextSteps : List String :=
  ["Use revision resume API to continue with replanning/rebuilding/rereview."]

def replanningStartNextSteps : List String :=
  ["Call replanning start API to begin execution from ready_for_planning."]

/-! ## Actions asked for -/

def unsupportedAction (text : String) : PyError :=
  .valueError ("Unsupported approval action value: " ++ text)

def parseApprovedAction : ActionArg → Action ApprovalActionType
  | .action actionType => .ok actionType
  | .other text => .raise (unsupportedAction text)
  | .text value =>
      -- the text is normalized before it is looked up, and quoted as it was given
      match ApprovalActionType.ofValue? (lower (strip value)) with
      | some actionType => .ok actionType
      | none => .raise (unsupportedAction (PyText.repr value))

/-- The loop of `_parse_approved_actions`; `None` and an empty collection parse to the empty set. -/
def parseApprovedActions : List ActionArg → Action (Finset ApprovalActionType)
  | [] => .ok ∅
  | action :: rest => do
      let actionType ← parseApprovedAction action
      let parsed ← parseApprovedActions rest
      return insert actionType parsed

/-- `sorted(actions, key=value)`. -/
def sortedActions (actions : Finset ApprovalActionType) : List ApprovalActionType :=
  ApprovalActionType.sortedByValue.filter (· ∈ actions)

def formatActionValues (actions : Finset ApprovalActionType) : String :=
  join ", " ((sortedActions actions).map ApprovalActionType.value)

def formattedMissingActions (missingActions : Finset ApprovalActionType) : String × String :=
  let missingActionValues := (sortedActions missingActions).map ApprovalActionType.value
  (join ", " missingActionValues, join ", " (missingActionValues.map fun a => "\"" ++ a ++ "\""))

def raiseIfActionsOutsideAllowedSet
    (requestedActions allowedActions : Finset ApprovalActionType) (errorPrefix : String) :
    Action Unit :=
  let disallowedActions := requestedActions \ allowedActions
  raiseIf (disallowedActions ≠ ∅)
    { error := .valueError (errorPrefix ++ ": " ++ formatActionValues disallowedActions) }

def raiseIfActionsPreviouslyRejected
    (requestedActions rejectedActions : Finset ApprovalActionType) (errorPrefix : String) :
    Action Unit :=
  let alreadyRejected := requestedActions ∩ rejectedActions
  raiseIf (alreadyRejected ≠ ∅)
    { error := .valueError (errorPrefix ++ ": " ++ formatActionValues alreadyRejected) }

def validateApprovalActionRequest
    (requestedActions knownActions rejectedActions : Finset ApprovalActionType) : Action Unit := do
  raiseIfActionsOutsideAllowedSet requestedActions knownActions "Unknown approval action(s)"
  raiseIfActionsPreviouslyRejected requestedActions rejectedActions "Action(s) already rejected"

def approvalActionTypes (record : ProjectRecord) (status : ApprovalStatus) :
    Finset ApprovalActionType :=
  ((record.approvals.filter fun approval => approval.status = status).map
    ApprovalRequest.actionType).toFinset

def approvalActionState (record : ProjectRecord) : ApprovalActionState where
  knownActions := (record.approvals.map ApprovalRequest.actionType).toFinset
  approvedActions := approvalActionTypes record .approved
  rejectedActions := approvalActionTypes record .rejected
  pendingApprovals := record.approvals.zipIdx.filter fun entry => entry.1.status = .pending
  pendingActionTypes := approvalActionTypes record .pending

/-! ## Lists that are updated by id -/

/-- Replace the first element with the id of `x`, or append `x`. -/
def upsertBy {α : Type} (id : α → String) (x : α) : List α → List α
  | [] => [x]
  | existing :: rest =>
      -- the first match only: a later element with the same id stays
      if id existing = id x then x :: rest else existing :: upsertBy id x rest

def upsertCheckpoint (record : ProjectRecord) (checkpoint : Checkpoint) : ProjectRecord :=
  { record with checkpoints := upsertBy Checkpoint.id checkpoint record.checkpoints }

def upsertArtifact (record : ProjectRecord) (artifact : Artifact) : ProjectRecord :=
  { record with artifacts := upsertBy Artifact.id artifact record.artifacts }

def approvalCheckpointId (projectId : String) : String := "checkpoint-approval-" ++ projectId

def deliveryCheckpointId (projectId : String) : String := "checkpoint-" ++ projectId

/-- Edit the first checkpoint with the given id. -/
def editCheckpoint (checkpointId : String) (edit : Checkpoint → Checkpoint) :
    List Checkpoint → List Checkpoint
  | [] => []
  | checkpoint :: rest =>
      if checkpoint.id = checkpointId then edit checkpoint :: rest
      else checkpoint :: editCheckpoint checkpointId edit rest

def updateApprovalCheckpoint (record : ProjectRecord) (approved : Bool) (approver note : String) :
    ProjectRecord :=
  { record with
    checkpoints := editCheckpoint (approvalCheckpointId record.project.id)
      (fun checkpoint => { checkpoint with approved, approver, note }) record.checkpoints }

/-! ## The event log -/

section Log

variable (rt : Runtime)

def recordEvent (record : ProjectRecord) (eventType : HistoryEventType)
    (actor : ActorContext := systemActor) (reason : String := "") (metadata : JsonDict := []) :
    ProjectRecord :=
  { record with
    events := record.events ++ [{
      eventType := eventType
      actor := actor.actorId
      actorRole := actor.actorRole
      actorType := actor.actorType
      -- one reading of the clock for each event
      timestamp := rt.now record.events.length
      reason := reason
      metadata := metadata }] }

def recordAuthorizationFailure (record : ProjectRecord) (actor : ActorContext)
    (actionType : ApprovalActionType) (message policySource : String)
    (strictMode overrideApplied : Bool) : ProjectRecord :=
  recordEvent rt record .authorizationFailed actor message
    [("action_type", .str actionType.value), ("policy_source", .str policySource),
      ("strict_mode", .bool strictMode), ("override_applied", .bool overrideApplied)]

/-- The event of a policy override, when one was applied. -/
def recordPolicyOverride (record : ProjectRecord) (actor : ActorContext)
    (actionType : ApprovalActionType) (reason : String) (decision : AuthorizationDecision) :
    ProjectRecord :=
  if decision.overrideApplied then
    recordEvent rt record .policyOverrideApplied actor reason
      [("action_type", .str actionType.value), ("policy_source", .str decision.policySource),
        ("strict_mode", .bool decision.strictMode)]
  else record

def recordAuthorizationGranted (record : ProjectRecord) (actor : ActorContext)
    (actionType : ApprovalActionType) (decision : AuthorizationDecision) : ProjectRecord :=
  let record := recordPolicyOverride rt record actor actionType
    "Project policy override was applied for authorization." decision
  recordEvent rt record .authorizationGranted actor "Authorization granted."
    [("action_type", .str actionType.value), ("policy_source", .str decision.policySource),
      ("strict_mode", .bool decision.strictMode)]

/-- The record that is saved when authorization is denied. -/
def recordAuthorizationDenied (record : ProjectRecord) (actor : ActorContext)
    (actionType : ApprovalActionType) (decision : AuthorizationDecision) : ProjectRecord :=
  let record := recordPolicyOverride rt record actor actionType
    "Project policy override was evaluated for authorization." decision
  recordAuthorizationFailure rt record actor actionType decision.reason decision.policySource
    decision.strictMode decision.overrideApplied

/-- The loop of `_authorize_actions_or_raise` over the sorted action types.  A denial saves the
    record, with the events of the loop so far, and raises. -/
def authorizeEach (actor : ActorContext) (allowList : Option (Dict (List String))) :
    List ApprovalActionType → ProjectRecord → Action ProjectRecord
  | [], record => .ok record
  | actionType :: rest, record =>
      let decision := authorizeAction actionType actor (some record.project.policy) allowList
      if decision.allowed then
        authorizeEach actor allowList rest
          (recordAuthorizationGranted rt record actor actionType decision)
      else
        .error
          { error := .permissionError decision.reason
            saved := some (recordAuthorizationDenied rt record actor actionType decision) }

def authorizeActionsOrRaise (record : ProjectRecord) (actor : ActorContext)
    (actionTypes : Finset ApprovalActionType) (allowList : Option (Dict (List String))) :
    Action ProjectRecord :=
  authorizeEach rt actor allowList (sortedActions actionTypes) record

def renderTransition (current nextStatus : ProjectStatus) : String :=
  current.value ++ " -> " ++ nextStatus.value

def transitionMetadata (current nextStatus : ProjectStatus) : JsonDict :=
  [("from", .str current.value), ("to", .str nextStatus.value)]

def transition (record : ProjectRecord) (nextStatus : ProjectStatus)
    (actor : ActorContext := systemActor) (reason : String := "") : Action ProjectRecord :=
  let current := record.project.status
  -- a transition to the status itself is not logged
  if current = nextStatus then .ok record
  else if canTransition current nextStatus then
    let record := { record with
      history := record.history ++ [renderTransition current nextStatus]
      project := { record.project with status := nextStatus } }
    .ok (recordEvent rt record .stateTransition actor reason (transitionMetadata current nextStatus))
  else .raise (.valueError ("Invalid transition: " ++ current.member ++ " -> " ++ nextStatus.member))

def taskMetadata (taskId : String) (current nextStatus : TaskStatus) : JsonDict :=
  [("task_id", .str taskId), ("from", .str current.value), ("to", .str nextStatus.value)]

/-- `_set_task_status` of the task at position `i`. -/
def setTaskStatus (record : ProjectRecord) (i : Nat) (nextStatus : TaskStatus)
    (actor : ActorContext) (reason : String := "") : ProjectRecord :=
  match record.tasks[i]? with
  | none => record
  | some task =>
      -- no event for a status that does not change
      if task.status = nextStatus then record
      else
        recordEvent rt
          { record with tasks := record.tasks.set i { task with status := nextStatus } }
          .taskStatusChanged actor reason (taskMetadata task.id task.status nextStatus)

/-- `task.note = note` for the task at position `i`. -/
def setTaskNote (record : ProjectRecord) (i : Nat) (note : String → String) : ProjectRecord :=
  { record with tasks := record.tasks.modify i fun task => { task with note := note task.note } }

/-- `_reset_tasks_for_departments`; `noteReason` is `none` when `update_note` is false. -/
def resetTasksForDepartments (record : ProjectRecord) (departments : List Department)
    (nextStatus : TaskStatus) (actor : ActorContext) (reason : String)
    (noteReason : Option String := none) : ProjectRecord :=
  record.tasks.zipIdx.foldl (fun record entry =>
    if entry.1.department ∈ departments then
      let record := setTaskStatus rt record entry.2 nextStatus actor reason
      match noteReason with
      | none => record
      -- an empty reason keeps the note of the task
      | some noteReason => setTaskNote record entry.2 (orElse noteReason)
    else record) record

/-- Move every task that waits for approval to `nextStatus`, with a note when one is given. -/
def moveWaitingTasks (record : ProjectRecord) (nextStatus : TaskStatus) (actor : ActorContext)
    (reason : String := "") (note : Option String := none) : ProjectRecord :=
  record.tasks.zipIdx.foldl (fun record entry =>
    if entry.1.status = .waitingApproval then
      let record := setTaskStatus rt record entry.2 nextStatus actor reason
      match note with
      | none => record
      | some note => setTaskNote record entry.2 fun _ => note
    else record) record

/-! ## Decisions on approval requests -/

/-- Write a decision on the approval request at position `i`. -/
def decideApproval (record : ProjectRecord) (i : Nat) (approval : ApprovalRequest)
    (status : ApprovalStatus) (requestedBy decisionNote : String) : ProjectRecord :=
  { record with
    approvals := record.approvals.set i { approval with status, requestedBy, decisionNote } }

/-- The body of the approval loop of `resume_from_approval`. -/
def approveApprovalRequest (record : ProjectRecord) (entry : ApprovalRequest × Nat)
    (actor : ActorContext) (note : String) : ProjectRecord :=
  let approval := entry.1
  let record := decideApproval record entry.2 approval .approved actor.actorId note
  -- whatever the type of the request, it is the one checkpoint that is approved
  let record := updateApprovalCheckpoint record true actor.actorId
    (orElse note "Approved `external_api_send` to continue trend analysis.")
  recordEvent rt record .approvalApproved actor (orElse note "Approval granted.")
    [("action_type", .str approval.actionType.value)]

def rejectionMetadata (actionType : ApprovalActionType) (note : String) (autoClosed : Bool) :
    JsonDict :=
  [("action_type", .str actionType.value), ("note", .str note)] ++
    if autoClosed then [("auto_closed", .bool true)] else []

def rejectApprovalRequest (record : ProjectRecord) (entry : ApprovalRequest × Nat)
    (actor : ActorContext) (reason note : String) (autoClosed : Bool := false) : ProjectRecord :=
  let approval := entry.1
  let decisionNote := composeDecisionNote reason note
  let record := decideApproval record entry.2 approval .rejected actor.actorId decisionNote
  let record := recordEvent rt record .approvalRejected actor reason
    (rejectionMetadata approval.actionType note autoClosed)
  updateApprovalCheckpoint record false actor.actorId decisionNote

def approvePending (record : ProjectRecord) (pendingApprovals : List (ApprovalRequest × Nat))
    (actionsToApprove : Finset ApprovalActionType) (actor : ActorContext) (note : String) :
    ProjectRecord :=
  pendingApprovals.foldl (fun record entry =>
    if entry.1.actionType ∈ actionsToApprove then approveApprovalRequest rt record entry actor note
    else record) record

def rejectPending (record : ProjectRecord) (pendingApprovals : List (ApprovalRequest × Nat))
    (rejectedActionSet : Finset ApprovalActionType) (actor : ActorContext) (reason note : String) :
    ProjectRecord :=
  pendingApprovals.foldl (fun record entry =>
    rejectApprovalRequest rt record entry actor reason note
      -- a pending request that was not named is closed with the others
      (decide (entry.1.actionType ∉ rejectedActionSet))) record

def recordResumeTriggered (record : ProjectRecord) (actor : ActorContext) (mode reason : String)
    (metadata : JsonDict := []) : ProjectRecord :=
  recordEvent rt record .resumeTriggered actor reason (("mode", .str mode) :: metadata)

end Log

def summary (record : ProjectRecord) (nextSteps : List String) : OrchestrationResult where
  record := record
  summary := {
    projectId := record.project.id
    status := record.project.status
    completedTasks := (record.tasks.filter fun task => task.status = .done).length
    artifactCount := record.artifacts.length
    nextSteps := nextSteps }

end CodexOrchestrator
