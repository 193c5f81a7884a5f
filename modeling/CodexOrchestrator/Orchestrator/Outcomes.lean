import CodexOrchestrator.Orchestrator.Decisions
import CodexOrchestrator.Orchestrator.Execution
import CodexOrchestrator.Orchestrator.System

/-!
# Outcomes — what each operation saves

For each operation, one relation between the loaded record and the version that is saved.  The stages
of the code are its fields: the checks, the authorization, the decisions, and the pass over the plan.
-/

open PyText Raise

namespace CodexOrchestrator

/-! ## Code that saves nothing when it raises -/

/-- When the computation raises, it has saved nothing. -/
abbrev Action.Quiet {α : Type} (x : Action α) : Prop := RaisesOnly (fun abort => abort.saved = none) x

section Quiet

variable {α : Type}

theorem quiet_raise (error : PyError) : (Action.raise error : Action α).Quiet := .error rfl

theorem quiet_lift (x : Except PyError α) : (Action.lift x).Quiet := by
  cases x with
  | error e => exact .error rfl
  | ok a => exact .ok a

theorem quiet_parseApprovedAction (action : ActionArg) : (parseApprovedAction action).Quiet := by
  unfold parseApprovedAction
  split
  · exact .ok _
  · exact quiet_raise _
  · split
    · exact .ok _
    · exact quiet_raise _

theorem quiet_parseApprovedActions (actions : List ActionArg) :
    (parseApprovedActions actions).Quiet := by
  induction actions with
  | nil => exact .ok _
  | cons action rest ih =>
      exact .bind (quiet_parseApprovedAction action) fun _ _ => .bind ih fun _ _ => .ok _

theorem quiet_validateApprovalActionRequest (requested known rejected : Finset ApprovalActionType) :
    (validateApprovalActionRequest requested known rejected).Quiet :=
  .bind (.raiseIf rfl) fun _ _ => .raiseIf rfl

variable (rt : Runtime)

theorem quiet_transition (r : ProjectRecord) (nextStatus : ProjectStatus) (actor : ActorContext)
    (reason : String) : (transition rt r nextStatus actor reason).Quiet := by
  unfold transition
  dsimp only
  split
  · exact .ok _
  split
  · exact .ok _
  · exact quiet_raise _

theorem quiet_pauseForApproval (r : ProjectRecord) (i : Nat) (actor : ActorContext) :
    (pauseForApproval rt r i actor).Quiet :=
  .bind (quiet_transition rt _ _ _ _) fun _ _ => .ok _

theorem quiet_executeTask (provider : TrendProvider) (approved : Finset ApprovalActionType)
    (simulate : Bool) (actor : ActorContext) (i : Nat) (task : Task) (s : LoopState) :
    (executeTask rt provider approved simulate actor i task s).Quiet := by
  unfold executeTask
  split
  · exact .ok _
  · dsimp only
    split
    · exact .ok _
    · exact .ok _
    · exact .ok _
    · split
      · exact .bind (quiet_pauseForApproval rt _ _ _) fun _ _ => .ok _
      · exact .bind (quiet_lift _) fun _ _ => .ok _
    · exact .ok _

theorem quiet_executeTasks (provider : TrendProvider) (approved : Finset ApprovalActionType)
    (simulate : Bool) (actor : ActorContext) (i : Nat) (tasks : List Task) (s : LoopState) :
    (executeTasks rt provider approved simulate actor i tasks s).Quiet := by
  induction tasks generalizing i s with
  | nil => exact .ok _
  | cons task rest ih =>
      rw [executeTasks]
      refine .bind (quiet_executeTask rt provider approved simulate actor i task s) fun exit _ => ?_
      cases exit with
      | paused completion => exact .ok _
      | finished s₁ => exact ih (i + 1) s₁

/-- The pass over the plan saves only when it returns. -/
theorem quiet_executePendingTasks (r : ProjectRecord) (trendProviderName : String)
    (approved : Finset ApprovalActionType) (simulate : Bool) (actor : ActorContext) :
    (executePendingTasks rt r trendProviderName approved simulate actor).Quiet := by
  refine .bind (quiet_lift _) fun provider _ => .bind (quiet_executeTasks rt _ _ _ _ _ _ _) ?_
  intro exit _
  cases exit with
  | paused completion => exact .ok _
  | finished s =>
      dsimp only
      split
      · exact .bind (quiet_transition rt _ _ _ _) fun _ _ =>
          .bind (quiet_transition rt _ _ _ _) fun _ _ => .ok _
      · exact .bind (quiet_transition rt _ _ _ _) fun _ _ => .ok _

end Quiet

theorem savedBy_of_quiet {x : Action Completion} {r' : ProjectRecord} (hx : x.Quiet)
    (h : savedBy x = some r') : ∃ completion, x = .ok completion ∧ completion.saved = some r' := by
  cases x with
  | ok completion => exact ⟨completion, rfl, h⟩
  | error abort =>
      have hnone : abort.saved = none := hx abort rfl
      rw [savedBy, hnone] at h
      cases h

theorem savedBy_bind {α : Type} {x : Action α} {f : α → Action Completion} {r' : ProjectRecord}
    (hx : x.Quiet) (h : savedBy (x >>= f) = some r') : ∃ a, x = .ok a ∧ savedBy (f a) = some r' := by
  cases x with
  | ok a => exact ⟨a, rfl, h⟩
  | error abort =>
      have hnone : abort.saved = none := hx abort rfl
      rw [error_bind, savedBy, hnone] at h
      cases h

/-! ## Idempotent answers -/

/-- Without the expected status, an operation answers from the record or raises; it saves nothing. -/
theorem quiet_firstIdempotentResult {error : PyError}
    {handlers : List (Action (Option OrchestrationResult))} (h : ∀ handler ∈ handlers, handler.Quiet) :
    (firstIdempotentResult error handlers).Quiet ∧
      firstIdempotentResult error handlers ≠ .ok none := by
  induction handlers with
  | nil => exact ⟨quiet_raise error, fun he => by cases he⟩
  | cons handler rest ih =>
      obtain ⟨hquiet, hne⟩ := ih fun x hx => h x (List.mem_cons_of_mem _ hx)
      rw [firstIdempotentResult]
      constructor
      · refine .bind (h handler List.mem_cons_self) fun result _ => ?_
        cases result with
        | none => exact hquiet
        | some result => exact .ok _
      · intro he
        obtain ⟨result, -, he⟩ := bind_eq_ok.mp he
        cases result with
        | none => exact hne he
        | some result => cases he

section Idempotent

variable (r : ProjectRecord)

theorem quiet_approvalCompletedIdempotentHandler (args : ApprovalResumeArgs) :
    (approvalCompletedIdempotentHandler args r).Quiet := by
  unfold approvalCompletedIdempotentHandler
  split
  · refine .bind (quiet_parseApprovedActions _) fun _ _ => .bind (.raiseIf rfl) fun _ _ => ?_
    unfold idempotentResumeFromApprovalIfCompleted
    split
    · exact .ok _
    · dsimp only
      split
      · exact .ok _
      · refine .bind (quiet_validateApprovalActionRequest _ _ _) fun _ _ => ?_
        split <;> exact .ok _
  · exact .ok _

theorem quiet_idempotentRejectIfRevisionRequested (rejected : Finset ApprovalActionType) :
    (idempotentRejectIfRevisionRequested r rejected).Quiet := by
  unfold idempotentRejectIfRevisionRequested
  split
  · exact .ok _
  · refine .bind (.raiseIf rfl) fun _ _ => ?_
    split <;> exact .ok _

theorem quiet_revisionRequestedIdempotentHandler (args : ApprovalRejectArgs) :
    (revisionRequestedIdempotentHandler args r).Quiet := by
  unfold revisionRequestedIdempotentHandler
  split
  · exact .bind (quiet_parseApprovedActions _) fun _ _ =>
      quiet_idempotentRejectIfRevisionRequested r _
  · exact .ok _

theorem quiet_idempotentIfCompletedWithEvent (eventType : HistoryEventType) (nextStep : String)
    (mode : Option String) :
    (idempotentIfCompletedWithEvent r eventType nextStep mode).Quiet := by
  unfold idempotentIfCompletedWithEvent
  split
  · exact .ok _
  · split <;> exact .ok _

theorem quiet_idempotentResumeFromRevisionIfReadyForPlanning (mode : RevisionResumeMode) :
    (idempotentResumeFromRevisionIfReadyForPlanning r mode).Quiet := by
  unfold idempotentResumeFromRevisionIfReadyForPlanning
  split <;> exact .ok _

end Idempotent

theorem quiet_resolveResultOrRaiseInvalidState {r : ProjectRecord} {expected : ProjectStatus}
    {handlers : List (Action (Option OrchestrationResult))}
    (hquiet : ∀ handler ∈ handlers, handler.Quiet) :
    (resolveResultOrRaiseInvalidState r expected handlers).Quiet := by
  unfold resolveResultOrRaiseInvalidState
  split
  · exact .ok _
  · exact (quiet_firstIdempotentResult hquiet).1

/-- The code goes on to its deciding part only in the expected status. -/
theorem status_of_resolved {r : ProjectRecord} {expected : ProjectStatus}
    {handlers : List (Action (Option OrchestrationResult))}
    (hquiet : ∀ handler ∈ handlers, handler.Quiet)
    (h : resolveResultOrRaiseInvalidState r expected handlers = .ok none) :
    r.project.status = expected := by
  unfold resolveResultOrRaiseInvalidState at h
  split at h
  -- in another status a handler answers or the call raises: it never goes on
  · assumption
  · exact absurd h (quiet_firstIdempotentResult hquiet).2

theorem resolved_of_status {r : ProjectRecord} {expected : ProjectStatus}
    (handlers : List (Action (Option OrchestrationResult))) (hstatus : r.project.status = expected) :
    resolveResultOrRaiseInvalidState r expected handlers = .ok none := by
  unfold resolveResultOrRaiseInvalidState
  rw [if_pos hstatus]

/-- An operation behind its status check: the version it saves comes from its deciding part. -/
theorem savedBy_resolved {r r' : ProjectRecord} {expected : ProjectStatus}
    {handlers : List (Action (Option OrchestrationResult))} {deciding : Action Completion}
    (hquiet : ∀ handler ∈ handlers, handler.Quiet)
    (h : savedBy (do
      match ← resolveResultOrRaiseInvalidState r expected handlers with
      | some result => return { result }
      | none => deciding) = some r') :
    r.project.status = expected ∧ savedBy deciding = some r' := by
  obtain ⟨result, hresult, h⟩ := savedBy_bind (quiet_resolveResultOrRaiseInvalidState hquiet) h
  cases result with
  | some result => cases h
  | none => exact ⟨status_of_resolved hquiet hresult, h⟩

section Handlers

variable (r : ProjectRecord)

theorem quiet_approvalHandlers (args : ApprovalResumeArgs) :
    ∀ handler ∈ [approvalCompletedIdempotentHandler args r], handler.Quiet := by
  intro handler hmem
  rw [List.mem_singleton.mp hmem]
  exact quiet_approvalCompletedIdempotentHandler r args

theorem quiet_rejectHandlers (args : ApprovalRejectArgs) :
    ∀ handler ∈ [revisionRequestedIdempotentHandler args r], handler.Quiet := by
  intro handler hmem
  rw [List.mem_singleton.mp hmem]
  exact quiet_revisionRequestedIdempotentHandler r args

theorem quiet_revisionHandlers (args : RevisionResumeArgs) :
    ∀ handler ∈ [idempotentResumeFromRevisionIfReadyForPlanning r args.resumeMode,
      idempotentResumeFromRevisionIfCompleted r args.resumeMode], handler.Quiet := by
  intro handler hmem
  rcases List.mem_cons.mp hmem with rfl | hmem
  · exact quiet_idempotentResumeFromRevisionIfReadyForPlanning r args.resumeMode
  · rw [List.mem_singleton.mp hmem]
    exact quiet_idempotentIfCompletedWithEvent r _ _ _

theorem quiet_replanningHandlers :
    ∀ handler ∈ [idempotentStartReplanningIfCompleted r], handler.Quiet := by
  intro handler hmem
  rw [List.mem_singleton.mp hmem]
  exact quiet_idempotentIfCompletedWithEvent r _ _ _

end Handlers

/-! ## Approval decisions -/

section Operations

variable {rt : Runtime} {r r' : ProjectRecord}

/-- The checks in front of the authorization, with the set of action types asked for. -/
structure ApprovalChecks (args : ApprovalResumeArgs) (r : ProjectRecord)
    (requested : Finset ApprovalActionType) : Prop where
  parsed : parseApprovedActions args.approvedActions = .ok requested
  nonempty : requested ≠ ∅
  pending : ∃ approval ∈ r.approvals, approval.status = .pending
  known : requested ⊆ (approvalActionState r).knownActions
  notRejected : requested ∩ (approvalActionState r).rejectedActions = ∅

def actionsToApprove (r : ProjectRecord) (requested : Finset ApprovalActionType) :
    Finset ApprovalActionType :=
  requested \ (approvalActionState r).approvedActions

def missingActions (r : ProjectRecord) (requested : Finset ApprovalActionType) :
    Finset ApprovalActionType :=
  (approvalActionState r).pendingActionTypes \ requested

/-- The record after the approval loop of a call by `actor`. -/
def afterApproval (rt : Runtime) (actor : ActorContext) (note : String) (r granted : ProjectRecord)
    (requested : Finset ApprovalActionType) : ProjectRecord :=
  approvePending rt granted (approvalActionState r).pendingApprovals (actionsToApprove r requested)
    actor note

theorem validateApprovalActionRequest_eq_ok {requested known rejected : Finset ApprovalActionType}
    {u : Unit} : validateApprovalActionRequest requested known rejected = .ok u ↔
      requested ⊆ known ∧ requested ∩ rejected = ∅ := by
  constructor
  · intro h
    obtain ⟨_, hknown, hrejected⟩ := bind_eq_ok.mp h
    have hk := raiseIf_eq_ok.mp hknown
    have hr := raiseIf_eq_ok.mp hrejected
    rw [not_not] at hk hr
    exact ⟨Finset.sdiff_eq_empty_iff_subset.mp hk, hr⟩
  · rintro ⟨hk, hr⟩
    have hknown : requested \ known = ∅ := Finset.sdiff_eq_empty_iff_subset.mpr hk
    unfold validateApprovalActionRequest raiseIfActionsOutsideAllowedSet
      raiseIfActionsPreviouslyRejected
    dsimp only
    rw [raiseIf_of_not (not_not.mpr hknown), ok_bind, raiseIf_of_not (not_not.mpr hr)]

/-- A call on a waiting project goes on to its deciding part. -/
theorem resumeFromApproval_of_waiting (args : ApprovalResumeArgs)
    (hstatus : r.project.status = .waitingApproval) :
    resumeFromApproval rt args r =
      approveAndResume rt args (coerceActor args.actor .approver) (normalizeText args.note) r := by
  show (resolveResultOrRaiseInvalidState r .waitingApproval _ >>= _) = _
  rw [resolved_of_status _ hstatus, ok_bind]

/-- A call whose checks pass goes on to the authorization. -/
theorem approveAndResume_of_checks {args : ApprovalResumeArgs} {requested : Finset ApprovalActionType}
    (actor : ActorContext) (note : String) (checks : ApprovalChecks args r requested) :
    approveAndResume rt args actor note r =
      authorizeNewActions rt r actor (actionsToApprove r requested)
          args.projectAllowedActorIdsByAction >>= fun granted =>
        if missingActions r requested ≠ ∅ then
          .ok (resumePartially rt (afterApproval rt actor note r granted requested)
            (actionsToApprove r requested) (missingActions r requested) actor note)
        else
          resumeFully rt (afterApproval rt actor note r granted requested)
            ((approvalActionState r).approvedActions ∪ actionsToApprove r requested) actor note
            args.trendProviderName := by
  have hpending : ¬ (approvalActionState r).pendingApprovals.isEmpty = true := by
    rw [pendingApprovals_isEmpty]
    intro hnone
    obtain ⟨approval, hmem, hstatus⟩ := checks.pending
    exact hnone approval hmem hstatus
  have hvalid : validateApprovalActionRequest requested (approvalActionState r).knownActions
      (approvalActionState r).rejectedActions = .ok () :=
    validateApprovalActionRequest_eq_ok.mpr ⟨checks.known, checks.notRejected⟩
  -- each check of the code passes, in the order in which it is made
  unfold approveAndResume
  rw [checks.parsed, ok_bind, raiseIf_of_not checks.nonempty, ok_bind]
  dsimp only
  rw [raiseIf_of_not hpending, ok_bind, hvalid, ok_bind]
  rfl

/-- The steps in front of the authorization, as the code runs them. -/
theorem ApprovalChecks.of_steps {args : ApprovalResumeArgs} {requested : Finset ApprovalActionType}
    {u : Unit} (parsed : parseApprovedActions args.approvedActions = .ok requested)
    (nonempty : requested ≠ ∅) (pending : ¬ (approvalActionState r).pendingApprovals.isEmpty = true)
    (valid : validateApprovalActionRequest requested (approvalActionState r).knownActions
      (approvalActionState r).rejectedActions = .ok u) : ApprovalChecks args r requested := by
  obtain ⟨hknown, hrejected⟩ := validateApprovalActionRequest_eq_ok.mp valid
  exact ⟨parsed, nonempty, exists_pending pending, hknown, hrejected⟩

/-- A call that saves a version has passed its checks. -/
theorem approvalChecks_of_saved {args : ApprovalResumeArgs} {actor : ActorContext} {note : String}
    (h : savedBy (approveAndResume rt args actor note r) = some r') :
    ∃ requested, ApprovalChecks args r requested := by
  obtain ⟨requested, hparsed, h⟩ := savedBy_bind (quiet_parseApprovedActions _) h
  obtain ⟨_, hnonempty, h⟩ := savedBy_bind (.raiseIf rfl) h
  obtain ⟨_, hpending, h⟩ := savedBy_bind (.raiseIf rfl) h
  obtain ⟨_, hvalid, -⟩ := savedBy_bind (quiet_validateApprovalActionRequest _ _ _) h
  exact ⟨requested, .of_steps hparsed (raiseIf_eq_ok.mp hnonempty) (raiseIf_eq_ok.mp hpending) hvalid⟩

/-- The record in which the plan runs on: the waiting tasks are released. -/
structure Released (r r' : ProjectRecord) : Prop where
  edits : Edits nobody r r'
  state : r'.state = { r.state with
    project := { r.project with status := .inProgress }
    tasks := r.tasks.map (Task.move .pending none) }

theorem Released.status (h : Released r r') : r'.project.status = .inProgress := by
  rw [(ProjectRecord.project_of_state h.state :)]

variable (rt) in
theorem resumeFully_of_waiting (effective : Finset ApprovalActionType) (actor : ActorContext)
    (note trendProviderName : String) (hstatus : r.project.status = .waitingApproval) :
    ∃ released, Released r released ∧
      resumeFully rt r effective actor note trendProviderName =
        executePendingTasks rt released trendProviderName effective false actor := by
  let moved := recordResumeTriggered rt (moveWaitingTasks rt r .pending actor) actor
    "approval_resume" (orElse note "Approval resume requested.")
  have hmoved : moved.state = { r.state with tasks := r.tasks.map (Task.move .pending none) } := by
    show (recordResumeTriggered rt _ _ _ _ _).state = _
    rw [recordResumeTriggered_state, moveWaitingTasks_state]
  have hproject : moved.project = r.project := (ProjectRecord.project_of_state hmoved :)
  have hcan : canTransition moved.project.status .inProgress = true := by
    rw [hproject, hstatus]
    rfl
  obtain ⟨released, htransition, hstate⟩ := transition_of_can rt moved actor
    "Approval requirements satisfied." hcan
  refine ⟨released, ⟨?_, ?_⟩, ?_⟩
  · have hmove : Edits nobody r (moveWaitingTasks rt r .pending actor) :=
      edits_moveWaitingTasks rt _ _ _ _
    have htrigger : Edits nobody (moveWaitingTasks rt r .pending actor) moved :=
      edits_recordEvent rt rfl
    exact (hmove.trans htrigger).trans (edits_transition rt htransition)
  · rw [hstate, hproject, hmoved]
  · show (transition rt moved .inProgress actor "Approval requirements satisfied." >>= _) = _
    rw [htransition, ok_bind]

/-- What `resume_from_approval` saves. -/
inductive ApprovalResumeSaved (rt : Runtime) (args : ApprovalResumeArgs) (r : ProjectRecord) :
    ProjectRecord → Prop where
  | denied {actions : List ApprovalActionType} {abort : Abort} {r' : ProjectRecord}
      (denied : Denied (coerceActor args.actor .approver) args.projectAllowedActorIdsByAction actions
        r abort) (saved : abort.saved = some r') : ApprovalResumeSaved rt args r r'
  | partly {requested : Finset ApprovalActionType} {granted r' : ProjectRecord}
      (checks : ApprovalChecks args r requested)
      (grant : Granted (coerceActor args.actor .approver) args.projectAllowedActorIdsByAction
        (sortedActions (actionsToApprove r requested)) r granted)
      (missing : missingActions r requested ≠ ∅) (some : actionsToApprove r requested ≠ ∅)
      (state : r'.state = (afterApproval rt (coerceActor args.actor .approver)
        (normalizeText args.note) r granted requested).state)
      (edits : Edits nobody (afterApproval rt (coerceActor args.actor .approver)
        (normalizeText args.note) r granted requested) r') : ApprovalResumeSaved rt args r r'
  | fully {requested : Finset ApprovalActionType} {granted released r' : ProjectRecord}
      {completion : Completion} (checks : ApprovalChecks args r requested)
      (grant : Granted (coerceActor args.actor .approver) args.projectAllowedActorIdsByAction
        (sortedActions (actionsToApprove r requested)) r granted)
      (missing : missingActions r requested = ∅)
      (release : Released (afterApproval rt (coerceActor args.actor .approver)
        (normalizeText args.note) r granted requested) released)
      (executed : executePendingTasks rt released args.trendProviderName
        ((approvalActionState r).approvedActions ∪ actionsToApprove r requested) false
        (coerceActor args.actor .approver) = .ok completion)
      (saved : completion.saved = some r') : ApprovalResumeSaved rt args r r'

variable (rt) in
theorem afterApproval_decided {granted : ProjectRecord} (requested : Finset ApprovalActionType)
    (actor : ActorContext) (note : String) (hstate : granted.state = r.state) :
    Decided (fun x a => x = actor ∧ a ∈ actionsToApprove r requested)
      (fun approval => decide (approval.status = .pending) &&
        decide (approval.actionType ∈ actionsToApprove r requested))
      (ApprovalRequest.approve actor note)
      (Checkpoint.decided true actor.actorId
        (orElse note "Approved `external_api_send` to continue trend analysis."))
      granted (afterApproval rt actor note r granted requested) :=
  approvePending_decided rt r (ProjectRecord.approvals_of_state hstate :) _ _ _

variable (rt) in
/-- The project, the policy and the status are the loaded ones until the plan runs on. -/
theorem afterApproval_project {granted : ProjectRecord} (requested : Finset ApprovalActionType)
    (actor : ActorContext) (note : String) (hstate : granted.state = r.state) :
    (afterApproval rt actor note r granted requested).project = r.project := by
  have hdecided := afterApproval_decided rt requested actor note hstate
  have hproject := (ProjectRecord.project_of_state hdecided.state :)
  exact hproject.trans (ProjectRecord.project_of_state hstate :)

/-- The requests after the approval loop. -/
theorem afterApproval_approvals {granted : ProjectRecord} (requested : Finset ApprovalActionType)
    (actor : ActorContext) (note : String) (hstate : granted.state = r.state) :
    (afterApproval rt actor note r granted requested).approvals = r.approvals.map fun approval =>
      if decide (approval.status = .pending) &&
          decide (approval.actionType ∈ actionsToApprove r requested) then approval.approve actor note
      else approval := by
  have hgranted : granted.approvals = r.approvals := (ProjectRecord.approvals_of_state hstate :)
  have hdecided := afterApproval_decided rt requested actor note hstate
  rw [ProjectRecord.approvals_of_state hdecided.state]
  dsimp only
  rw [hgranted]

/-- The checkpoints after the approval loop. -/
theorem afterApproval_checkpoints {granted : ProjectRecord} (requested : Finset ApprovalActionType)
    (actor : ActorContext) (note : String) (hstate : granted.state = r.state) :
    (afterApproval rt actor note r granted requested).checkpoints =
      if r.approvals.any fun approval => decide (approval.status = .pending) &&
          decide (approval.actionType ∈ actionsToApprove r requested) then
        editCheckpoint (approvalCheckpointId r.project.id) (Checkpoint.decided true actor.actorId
          (orElse note "Approved `external_api_send` to continue trend analysis.")) r.checkpoints
      else r.checkpoints := by
  have hgranted : granted.approvals = r.approvals := (ProjectRecord.approvals_of_state hstate :)
  have hproject : granted.project = r.project := (ProjectRecord.project_of_state hstate :)
  have hcheckpoints : granted.checkpoints = r.checkpoints :=
    (ProjectRecord.checkpoints_of_state hstate :)
  have hdecided := afterApproval_decided rt requested actor note hstate
  rw [ProjectRecord.checkpoints_of_state hdecided.state]
  dsimp only
  rw [hgranted, hproject, hcheckpoints]

theorem saved_resumeFromApproval {args : ApprovalResumeArgs}
    (h : savedBy (resumeFromApproval rt args r) = some r') :
    r.project.status = .waitingApproval ∧ ApprovalResumeSaved rt args r r' := by
  obtain ⟨hstatus, h⟩ := savedBy_resolved (quiet_approvalHandlers r args) h
  refine ⟨hstatus, ?_⟩
  obtain ⟨requested, checks⟩ := approvalChecks_of_saved h
  rw [approveAndResume_of_checks _ _ checks] at h
  cases hauthorize : authorizeNewActions rt r (coerceActor args.actor .approver)
      (actionsToApprove r requested) args.projectAllowedActorIdsByAction with
  | error abort =>
      -- the denial is all that the call saves
      rw [hauthorize, error_bind] at h
      exact .denied (denied_of_authorizeNewActions rt hauthorize) h
  | ok granted =>
      rw [hauthorize, ok_bind] at h
      have grant := granted_of_authorizeNewActions rt hauthorize
      split at h
      · rename_i hmissing
        unfold resumePartially at h
        dsimp only at h
        -- a call that approved nothing new saves nothing
        split at h
        · cases h
        · rename_i hsome
          cases h
          exact .partly checks grant hmissing hsome rfl (edits_recordEvent rt rfl)
      · rename_i hmissing
        rw [not_not] at hmissing
        -- the decisions leave the status, so the project may move on to `in_progress`
        have hwaiting : (afterApproval rt (coerceActor args.actor .approver)
            (normalizeText args.note) r granted requested).project.status = .waitingApproval := by
          rw [afterApproval_project rt _ _ _ grant.state, hstatus]
        obtain ⟨released, release, hfully⟩ := resumeFully_of_waiting rt
          ((approvalActionState r).approvedActions ∪ actionsToApprove r requested)
          (coerceActor args.actor .approver) (normalizeText args.note) args.trendProviderName hwaiting
        rw [hfully] at h
        obtain ⟨completion, hexecuted, hsaved⟩ :=
          savedBy_of_quiet (quiet_executePendingTasks rt _ _ _ _ _) h
        exact .fully checks grant hmissing release hexecuted hsaved

/-- A call that names every pending type, with an allowed actor, goes on to a pass. -/
theorem resumeFromApproval_of_named {args : ApprovalResumeArgs}
    {requested : Finset ApprovalActionType} (hstatus : r.project.status = .waitingApproval)
    (checks : ApprovalChecks args r requested)
    (hallowed : ∀ actionType ∈ actionsToApprove r requested,
      Allowed r (coerceActor args.actor .approver) args.projectAllowedActorIdsByAction actionType)
    (hmissing : missingActions r requested = ∅) :
    ∃ granted released, granted.state = r.state ∧
      Released (afterApproval rt (coerceActor args.actor .approver) (normalizeText args.note) r granted
        requested) released ∧
      resumeFromApproval rt args r = executePendingTasks rt released args.trendProviderName
        ((approvalActionState r).approvedActions ∪ actionsToApprove r requested) false
        (coerceActor args.actor .approver) := by
  obtain ⟨granted, hgranted⟩ := authorizeNewActions_of_allowed rt hallowed
  have grant := granted_of_authorizeNewActions rt hgranted
  have hwaiting : (afterApproval rt (coerceActor args.actor .approver) (normalizeText args.note) r
      granted requested).project.status = .waitingApproval := by
    rw [afterApproval_project rt _ _ _ grant.state, hstatus]
  obtain ⟨released, release, hfully⟩ := resumeFully_of_waiting rt
    ((approvalActionState r).approvedActions ∪ actionsToApprove r requested)
    (coerceActor args.actor .approver) (normalizeText args.note) args.trendProviderName hwaiting
  refine ⟨granted, released, grant.state, release, ?_⟩
  rw [resumeFromApproval_of_waiting args hstatus, approveAndResume_of_checks _ _ checks, hgranted,
    ok_bind, if_neg (not_not.mpr hmissing), hfully]

/-- With a provider that answers, such a call returns, and saves the record at the end of the
    pass. -/
theorem resumeFromApproval_fully {args : ApprovalResumeArgs} {requested : Finset ApprovalActionType}
    {provider : TrendProvider} (hstatus : r.project.status = .waitingApproval)
    (checks : ApprovalChecks args r requested)
    (hallowed : ∀ actionType ∈ actionsToApprove r requested,
      Allowed r (coerceActor args.actor .approver) args.projectAllowedActorIdsByAction actionType)
    (hmissing : missingActions r requested = ∅)
    (hprovider : rt.getTrendProvider args.trendProviderName = .ok provider)
    (hanswers : provider.Answers) :
    ∃ granted released completion r', granted.state = r.state ∧
      Released (afterApproval rt (coerceActor args.actor .approver) (normalizeText args.note) r granted
        requested) released ∧
      resumeFromApproval rt args r = .ok completion ∧ completion.saved = some r' ∧
      Executed rt provider ((approvalActionState r).approvedActions ∪ actionsToApprove r requested)
        false released r' := by
  obtain ⟨granted, released, hgranted, release, hpass⟩ :=
    @resumeFromApproval_of_named rt r args requested hstatus checks hallowed hmissing
  obtain ⟨completion, hcompletion⟩ := executePendingTasks_answers rt false
    ((approvalActionState r).approvedActions ∪ actionsToApprove r requested)
    (coerceActor args.actor .approver) release.status hprovider hanswers
  obtain ⟨provider', r', hprovider', hsaved, -, hexecuted⟩ :=
    executed_of_ok release.status hcompletion
  have hsame : provider = provider' := Except.ok.inj (hprovider.symm.trans hprovider')
  subst hsame
  exact ⟨granted, released, completion, r', hgranted, release, hpass.trans hcompletion, hsaved,
    hexecuted⟩

/-- A call that leaves a pending type out, with an allowed actor, ends there. -/
theorem resumeFromApproval_of_unnamed {args : ApprovalResumeArgs}
    {requested : Finset ApprovalActionType} (hstatus : r.project.status = .waitingApproval)
    (checks : ApprovalChecks args r requested)
    (hallowed : ∀ actionType ∈ actionsToApprove r requested,
      Allowed r (coerceActor args.actor .approver) args.projectAllowedActorIdsByAction actionType)
    (hmissing : missingActions r requested ≠ ∅) :
    ∃ granted, granted.state = r.state ∧
      resumeFromApproval rt args r = .ok (resumePartially rt (afterApproval rt
        (coerceActor args.actor .approver) (normalizeText args.note) r granted requested)
        (actionsToApprove r requested) (missingActions r requested)
        (coerceActor args.actor .approver) (normalizeText args.note)) := by
  obtain ⟨granted, hgranted⟩ := authorizeNewActions_of_allowed rt hallowed
  refine ⟨granted, (granted_of_authorizeNewActions rt hgranted).state, ?_⟩
  rw [resumeFromApproval_of_waiting args hstatus, approveAndResume_of_checks _ _ checks, hgranted,
    ok_bind, if_pos hmissing]

/-- When it approves something, such a call saves the approvals it made. -/
theorem resumeFromApproval_partly {args : ApprovalResumeArgs} {requested : Finset ApprovalActionType}
    (hstatus : r.project.status = .waitingApproval) (checks : ApprovalChecks args r requested)
    (hallowed : ∀ actionType ∈ actionsToApprove r requested,
      Allowed r (coerceActor args.actor .approver) args.projectAllowedActorIdsByAction actionType)
    (hmissing : missingActions r requested ≠ ∅) (hsome : actionsToApprove r requested ≠ ∅) :
    ∃ granted r' nextSteps, granted.state = r.state ∧
      resumeFromApproval rt args r = .ok { saved := some r', result := summary r' nextSteps } ∧
      r'.state = (afterApproval rt (coerceActor args.actor .approver) (normalizeText args.note) r
        granted requested).state := by
  obtain ⟨granted, hgranted, hpartly⟩ :=
    @resumeFromApproval_of_unnamed rt r args requested hstatus checks hallowed hmissing
  unfold resumePartially at hpartly
  dsimp only at hpartly
  rw [if_neg hsome] at hpartly
  exact ⟨granted, _, _, hgranted, hpartly, rfl⟩

/-! ## Rejections -/

/-- The record in which every pending request is rejected and the waiting tasks are sent back. -/
structure SentBack (reason : String) (r r' : ProjectRecord) : Prop where
  edits : Edits nobody r r'
  state : r'.state = { r.state with
    project := { r.project with status := .revisionRequested }
    tasks := r.tasks.map (Task.move .revisionRequested (some reason)) }

/-- What `reject_approval` saves. -/
inductive RejectSaved (rt : Runtime) (args : ApprovalRejectArgs) (r : ProjectRecord) :
    ProjectRecord → Prop where
  | denied {actions : List ApprovalActionType} {abort : Abort} {r' : ProjectRecord}
      (denied : Denied (coerceActor args.actor .approver) args.projectAllowedActorIdsByAction actions
        r abort) (saved : abort.saved = some r') : RejectSaved rt args r r'
  | rejected {named : Finset ApprovalActionType} {granted r' : ProjectRecord}
      (pending : ∃ approval ∈ r.approvals, approval.status = .pending)
      (grant : Granted (coerceActor args.actor .approver) args.projectAllowedActorIdsByAction
        (sortedActions (approvalActionState r).pendingActionTypes) r granted)
      (sentBack : SentBack (normalizeText args.reason)
        (rejectPending rt granted (approvalActionState r).pendingApprovals named
          (coerceActor args.actor .approver) (normalizeText args.reason) (normalizeText args.note))
        r') : RejectSaved rt args r r'

variable (rt) in
theorem sendBack_of_waiting (actor : ActorContext) (reason : String)
    (hstatus : r.project.status = .waitingApproval) :
    ∃ r', transition rt
        (moveWaitingTasks rt r .revisionRequested actor "Approval rejected." (some reason))
        .revisionRequested actor "Approval rejected; moved to revision lane." = .ok r' ∧
      SentBack reason r r' := by
  have hmoved := moveWaitingTasks_state rt r .revisionRequested actor "Approval rejected."
    (some reason)
  have hproject : (moveWaitingTasks rt r .revisionRequested actor "Approval rejected."
      (some reason)).project = r.project := (ProjectRecord.project_of_state hmoved :)
  have hcan : canTransition (moveWaitingTasks rt r .revisionRequested actor "Approval rejected."
      (some reason)).project.status .revisionRequested = true := by
    rw [hproject, hstatus]
    rfl
  obtain ⟨r', htransition, hstate⟩ := transition_of_can rt _ actor
    "Approval rejected; moved to revision lane." hcan
  refine ⟨r', htransition, ?_, ?_⟩
  · exact (edits_moveWaitingTasks rt _ _ _ _).trans (edits_transition rt htransition)
  · rw [hstate, hproject, hmoved]

variable (rt) in
theorem rejectPending_project {granted : ProjectRecord} (named : Finset ApprovalActionType)
    (actor : ActorContext) (reason note : String) (hstate : granted.state = r.state) :
    (rejectPending rt granted (approvalActionState r).pendingApprovals named actor reason
      note).project = r.project := by
  have hdecided := rejectPending_decided rt r (ProjectRecord.approvals_of_state hstate :) named actor
    reason note
  have hproject := (ProjectRecord.project_of_state hdecided.state :)
  exact hproject.trans (ProjectRecord.project_of_state hstate :)

theorem saved_rejectApproval {args : ApprovalRejectArgs}
    (h : savedBy (rejectApproval rt args r) = some r') :
    r.project.status = .waitingApproval ∧ RejectSaved rt args r r' := by
  obtain ⟨_, -, h⟩ := savedBy_bind (.raiseIf rfl) h
  obtain ⟨hstatus, h⟩ := savedBy_resolved (quiet_rejectHandlers r args) h
  refine ⟨hstatus, ?_⟩
  obtain ⟨_, hpending, h⟩ := savedBy_bind (.raiseIf rfl) h
  obtain ⟨named, -, h⟩ := savedBy_bind (quiet_parseApprovedActions _) h
  obtain ⟨_, -, h⟩ := savedBy_bind (.raiseIf rfl) h
  -- the checks passed, so some request is pending
  have hexists := exists_pending (raiseIf_eq_ok.mp hpending)
  cases hauthorize : authorizeActionsOrRaise rt r (coerceActor args.actor .approver)
      (approvalActionState r).pendingActionTypes args.projectAllowedActorIdsByAction with
  | error abort =>
      rw [hauthorize, error_bind] at h
      exact .denied (denied_of_authorizeEach rt hauthorize) h
  | ok granted =>
      rw [hauthorize, ok_bind] at h
      have grant := granted_of_authorizeEach rt hauthorize
      obtain ⟨sent, htransition, hsent⟩ := sendBack_of_waiting rt (coerceActor args.actor .approver)
        (normalizeText args.reason)
        ((rejectPending_project rt (if named = ∅ then (approvalActionState r).pendingActionTypes
          else named) (coerceActor args.actor .approver) (normalizeText args.reason)
          (normalizeText args.note) grant.state).symm ▸ hstatus)
      dsimp only at h
      rw [htransition, ok_bind] at h
      cases h
      exact .rejected hexists grant hsent

/-! ## Revision lanes and replanning -/

/-- The record in which a lane runs on: its departments are reset. -/
structure Reset (departments : List Department) (noteReason : Option String)
    (nextStatus : ProjectStatus) (r r' : ProjectRecord) : Prop where
  edits : Edits nobody r r'
  state : r'.state = { r.state with
    project := { r.project with status := nextStatus }
    tasks := r.tasks.map (Task.reset departments .pending noteReason) }

theorem Reset.status {departments : List Department} {noteReason : Option String}
    {nextStatus : ProjectStatus} (h : Reset departments noteReason nextStatus r r') :
    r'.project.status = nextStatus := by
  rw [(ProjectRecord.project_of_state h.state :)]

/-- What `resume_from_revision` saves. -/
inductive RevisionResumeSaved (rt : Runtime) (args : RevisionResumeArgs) (r : ProjectRecord) :
    ProjectRecord → Prop where
  | replanned {r' : ProjectRecord} (mode : args.resumeMode = .replanning)
      (reset : Reset downstreamDepartments (some (normalizeText args.reason)) .readyForPlanning r r') :
      RevisionResumeSaved rt args r r'
  | executed {approved : Finset ApprovalActionType} {resumed r' : ProjectRecord}
      {completion : Completion} (mode : args.resumeMode ≠ .replanning)
      (reset : Reset (revisionResumeConfig args.resumeMode).departments
        (some (normalizeText args.reason)) .inProgress r resumed)
      (parsed : parseApprovedActions args.approvedActions = .ok approved)
      (executed : executePendingTasks rt resumed args.trendProviderName approved false
        (coerceActor args.actor .operator) = .ok completion)
      (saved : completion.saved = some r') : RevisionResumeSaved rt args r r'

/-- What `start_replanning` saves. -/
structure ReplanningSaved (rt : Runtime) (args : ReplanningStartArgs) (r r' : ProjectRecord) :
    Prop where
  restarted : ∃ approved resumed completion,
    Reset (if args.resetDownstreamTasks then downstreamDepartments else []) none .inProgress r
      resumed ∧
    parseApprovedActions args.approvedActions = .ok approved ∧
    executePendingTasks rt resumed args.trendProviderName approved false
      (coerceActor args.actor .operator) = .ok completion ∧
    completion.saved = some r'

/-- What `run` saves. -/
structure RunSaved (rt : Runtime) (args : RunArgs) (r' : ProjectRecord) : Prop where
  started : ∃ approved started completion,
    Edits nobody (initialRecord rt args) started ∧
    started.state = { (initialRecord rt args).state with
      project := { (initialRecord rt args).project with status := .inProgress } } ∧
    parseApprovedActions args.approvedActions = .ok approved ∧
    executePendingTasks rt started args.trendProviderName approved args.simulateReviewFailure
      systemActor = .ok completion ∧
    completion.saved = some r'

variable (rt) in
/-- A lane that the state machine lets the project enter. -/
theorem resumeRevisionWithTransition_of_can {config : RevisionResumeConfig} (actor : ActorContext)
    (reason : String) (hcan : canTransition r.project.status config.nextStatus = true) :
    ∃ r', resumeRevisionWithTransition rt r actor reason config = .ok r' ∧
      Reset config.departments (some reason) config.nextStatus r r' := by
  have hreset := resetTasksForDepartments_state rt r config.departments .pending actor
    config.taskResetReason (some reason)
  have hproject : (resetTasksForDepartments rt r config.departments .pending actor
      config.taskResetReason (some reason)).project = r.project :=
    (ProjectRecord.project_of_state hreset :)
  rw [← hproject] at hcan
  obtain ⟨r', htransition, hstate⟩ := transition_of_can rt _ actor
    (orElse reason config.transitionReason) hcan
  refine ⟨r', htransition, ?_, ?_⟩
  · exact (edits_resetTasksForDepartments rt _ _ _ _ _).trans (edits_transition rt htransition)
  · rw [hstate, hproject, hreset]

/-- Entries at the front of a lane do not change what the lane does. -/
theorem Reset.of_log {departments : List Department} {noteReason : Option String}
    {nextStatus : ProjectStatus} {logged : ProjectRecord} (hedits : Edits nobody r logged)
    (hstate : logged.state = r.state) (h : Reset departments noteReason nextStatus logged r') :
    Reset departments noteReason nextStatus r r' := by
  refine ⟨hedits.trans h.edits, ?_⟩
  have htasks : logged.tasks = r.tasks := (ProjectRecord.tasks_of_state hstate :)
  have hproject : logged.project = r.project := (ProjectRecord.project_of_state hstate :)
  rw [h.state, htasks, hproject, hstate]

theorem saved_resumeFromRevision {args : RevisionResumeArgs}
    (h : savedBy (resumeFromRevision rt args r) = some r') :
    r.project.status = .revisionRequested ∧ RevisionResumeSaved rt args r r' := by
  obtain ⟨hstatus, h⟩ := savedBy_resolved (quiet_revisionHandlers r args) h
  refine ⟨hstatus, ?_⟩
  let logged := recordResumeTriggered rt r (coerceActor args.actor .operator) args.resumeMode.value
    (orElse (normalizeText args.reason) "Revision resume requested.")
  have hlogged : Edits nobody r logged := edits_recordEvent rt rfl
  -- every lane may be entered from `revision_requested`
  have hcan : canTransition logged.project.status (revisionResumeConfig args.resumeMode).nextStatus =
      true := by
    show canTransition r.project.status _ = true
    rw [hstatus]
    cases args.resumeMode <;> rfl
  obtain ⟨resumed, hresumed, hlane⟩ := resumeRevisionWithTransition_of_can rt
    (coerceActor args.actor .operator) (normalizeText args.reason) hcan
  have hreset := Reset.of_log hlogged rfl hlane
  unfold resumeRevisionForMode at h
  dsimp only at h
  rw [hresumed, ok_bind] at h
  split at h
  -- only replanning ends the call here
  · rename_i hnext
    cases h
    cases hmode : args.resumeMode with
    | replanning =>
        rw [hmode] at hreset
        exact .replanned hmode hreset
    | rebuilding =>
        rw [hmode] at hnext
        cases hnext
    | rereview =>
        rw [hmode] at hnext
        cases hnext
  · rename_i hnext
    obtain ⟨approved, hparsed, h⟩ := savedBy_bind (quiet_parseApprovedActions _) h
    obtain ⟨completion, hexecuted, hsaved⟩ :=
      savedBy_of_quiet (quiet_executePendingTasks rt _ _ _ _ _) h
    have hmode : args.resumeMode ≠ .replanning := by
      intro hmode
      rw [hmode] at hnext
      exact hnext rfl
    have hstep : (revisionResumeConfig args.resumeMode).nextStatus = .inProgress := by
      cases hm : args.resumeMode with
      | replanning => exact absurd hm hmode
      | rebuilding => rfl
      | rereview => rfl
    rw [hstep] at hreset
    exact .executed hmode hreset hparsed hexecuted hsaved

variable (rt) (r) in
/-- The optional reset at the start of replanning. -/
theorem restartReset (actor : ActorContext) (resetDownstreamTasks : Bool) :
    (if resetDownstreamTasks then
        resetTasksForDepartments rt r downstreamDepartments .pending actor "Replanning start reset."
      else r).state = { r.state with
        tasks := r.tasks.map
          (Task.reset (if resetDownstreamTasks then downstreamDepartments else []) .pending none) } ∧
    Edits nobody r (if resetDownstreamTasks then
        resetTasksForDepartments rt r downstreamDepartments .pending actor "Replanning start reset."
      else r) := by
  cases resetDownstreamTasks with
  | true =>
      rw [if_pos rfl, if_pos rfl]
      exact ⟨resetTasksForDepartments_state rt r _ _ _ _ _,
        edits_resetTasksForDepartments rt _ _ _ _ _⟩
  | false =>
      -- no reset is the reset of no departments
      have hsame : r.tasks.map (Task.reset [] .pending none) = r.tasks := by
        rw [show Task.reset [] .pending none = id from funext fun _ => rfl, List.map_id]
      simp only [Bool.false_eq_true, if_false]
      rw [hsame]
      exact ⟨rfl, .refl r⟩

theorem saved_startReplanning {args : ReplanningStartArgs}
    (h : savedBy (startReplanning rt args r) = some r') :
    r.project.status = .readyForPlanning ∧ ReplanningSaved rt args r r' := by
  obtain ⟨hstatus, h⟩ := savedBy_resolved (quiet_replanningHandlers r) h
  refine ⟨hstatus, ?_⟩
  unfold restartPlan at h
  dsimp only at h
  let reset := if args.resetDownstreamTasks then
      resetTasksForDepartments rt r downstreamDepartments .pending
        (coerceActor args.actor .operator) "Replanning start reset."
    else r
  let logged := recordEvent rt reset .replanningStarted (coerceActor args.actor .operator)
    (orElse (normalizeText args.note) "Replanning execution started.")
    [("reset_downstream_tasks", .bool args.resetDownstreamTasks)]
  have hreset := restartReset rt r (coerceActor args.actor .operator) args.resetDownstreamTasks
  have hlogged : logged.project = r.project := (ProjectRecord.project_of_state hreset.1 :)
  -- the reset and the log entry leave the status
  have hcan : canTransition logged.project.status .inProgress = true := by
    rw [hlogged, hstatus]
    rfl
  obtain ⟨resumed, htransition, hstate⟩ := transition_of_can rt logged
    (coerceActor args.actor .operator) "Replanning execution moved to in_progress." hcan
  have hlogedits : Edits nobody reset logged := edits_recordEvent rt rfl
  rw [htransition, ok_bind] at h
  obtain ⟨approved, hparsed, h⟩ := savedBy_bind (quiet_parseApprovedActions _) h
  obtain ⟨completion, hexecuted, hsaved⟩ :=
    savedBy_of_quiet (quiet_executePendingTasks rt _ _ _ _ _) h
  refine ⟨approved, resumed, completion, ⟨?_, ?_⟩, hparsed, hexecuted, hsaved⟩
  · exact (hreset.2.trans hlogedits).trans (edits_transition rt htransition)
  · have hsame : logged.state = reset.state := rfl
    rw [hstate, hlogged, hsame, hreset.1]

theorem saved_run {args : RunArgs} (h : savedBy (run rt args) = some r') : RunSaved rt args r' := by
  unfold run at h
  obtain ⟨approved, hparsed, h⟩ := savedBy_bind (quiet_parseApprovedActions _) h
  -- the three transitions of a new project are all allowed, so `run` can only raise in the pass
  have hcan₁ : canTransition (initialRecord rt args).project.status .intakePending = true := rfl
  obtain ⟨r₁, hfirst, hstate₁⟩ := transition_of_can rt _ systemActor "Brief intake started." hcan₁
  have hproject₁ := (ProjectRecord.project_of_state hstate₁ :)
  have hcan₂ : canTransition r₁.project.status .readyForPlanning = true := by rw [hproject₁]; rfl
  obtain ⟨r₂, hsecond, hstate₂⟩ := transition_of_can rt _ systemActor
    "Brief accepted for planning." hcan₂
  have hproject₂ := (ProjectRecord.project_of_state hstate₂ :)
  have hcan₃ : canTransition r₂.project.status .inProgress = true := by rw [hproject₂]; rfl
  obtain ⟨r₃, hthird, hstate₃⟩ := transition_of_can rt _ systemActor "Execution started." hcan₃
  rw [hfirst, ok_bind, hsecond, ok_bind, hthird, ok_bind] at h
  obtain ⟨completion, hexecuted, hsaved⟩ :=
    savedBy_of_quiet (quiet_executePendingTasks rt _ _ _ _ _) h
  refine ⟨approved, r₃, completion, ?_, ?_, hparsed, hexecuted, hsaved⟩
  · exact ((edits_transition rt hfirst).trans (edits_transition rt hsecond)).trans
      (edits_transition rt hthird)
  · rw [hstate₃, hproject₂, hproject₁, hstate₂, hproject₁, hstate₁]

end Operations

/-! ## The parts of a call -/

section Calls

variable {rt : Runtime} {r r' : ProjectRecord}

theorem executed_of_saved {actor : ActorContext} {trendProviderName : String}
    {approved : Finset ApprovalActionType} {simulate : Bool} {completion : Completion}
    (hstatus : r.project.status = .inProgress)
    (h : executePendingTasks rt r trendProviderName approved simulate actor = .ok completion)
    (hsaved : completion.saved = some r') :
    ∃ provider, rt.getTrendProvider trendProviderName = .ok provider ∧ Edits nobody r r' ∧
      Executed rt provider approved simulate r r' := by
  obtain ⟨provider, r₁, hprovider, hsaved₁, hedits, hexecuted⟩ := executed_of_ok hstatus h
  rw [hsaved] at hsaved₁
  cases hsaved₁
  exact ⟨provider, hprovider, hedits, hexecuted⟩

/-- A call that decides: `actor` is granted every action type of `actions`, then decides about
    requests of these types, then the code runs on without deciding anything. -/
structure DecidingCall (actor : ActorContext) (allowList : Option (Dict (List String)))
    (actions : Finset ApprovalActionType) (r r' : ProjectRecord) : Prop where
  parts : ∃ granted decided, Granted actor allowList (sortedActions actions) r granted ∧
    Edits (fun x a => x = actor ∧ a ∈ actions) granted decided ∧ Edits nobody decided r'

/-- The actor and the allow-list of an operation that decides about requests. -/
def ProjectOperation.decider : ProjectOperation →
    Option (ActorContext × Option (Dict (List String)))
  | .resumeFromApproval args =>
      some (coerceActor args.actor .approver, args.projectAllowedActorIdsByAction)
  | .rejectApproval args =>
      some (coerceActor args.actor .approver, args.projectAllowedActorIdsByAction)
  | .resumeFromRevision _ => none
  | .startReplanning _ => none

theorem ApprovalResumeSaved.call {args : ApprovalResumeArgs}
    (h : ApprovalResumeSaved rt args r r') :
    Edits nobody r r' ∨ ∃ actions,
      DecidingCall (coerceActor args.actor .approver) args.projectAllowedActorIdsByAction actions r r' := by
  cases h with
  | denied denied saved => exact .inl (denied.edits saved)
  | @partly requested _ _ _ grant _ _ _ edits =>
      exact .inr ⟨actionsToApprove r requested, _, _, grant,
        (afterApproval_decided rt requested _ _ grant.state).edits, edits⟩
  | @fully requested _ released _ _ _ grant _ release executed saved =>
      obtain ⟨provider, -, hedits, -⟩ := executed_of_saved release.status executed saved
      exact .inr ⟨actionsToApprove r requested, _, _, grant,
        (afterApproval_decided rt requested _ _ grant.state).edits, release.edits.trans hedits⟩

/-- A rejection decides about the types of all pending requests. -/
theorem RejectSaved.call {args : ApprovalRejectArgs} (h : RejectSaved rt args r r') :
    (r'.state = r.state ∧ Edits nobody r r') ∨ DecidingCall (coerceActor args.actor .approver)
      args.projectAllowedActorIdsByAction (approvalActionState r).pendingActionTypes r r' := by
  cases h with
  | denied denied saved => exact .inl ⟨denied.state saved, denied.edits saved⟩
  | rejected _ grant sentBack =>
      have hdecided := rejectPending_decided rt r (ProjectRecord.approvals_of_state grant.state :)
      exact .inr ⟨_, _, grant, (hdecided _ _ _ _).edits, sentBack.edits⟩

theorem RevisionResumeSaved.edits {args : RevisionResumeArgs}
    (h : RevisionResumeSaved rt args r r') : Edits nobody r r' := by
  cases h with
  | replanned _ reset => exact reset.edits
  | executed _ reset _ executed saved =>
      obtain ⟨provider, -, hedits, -⟩ := executed_of_saved reset.status executed saved
      exact reset.edits.trans hedits

theorem ReplanningSaved.edits {args : ReplanningStartArgs} (h : ReplanningSaved rt args r r') :
    Edits nobody r r' := by
  obtain ⟨approved, resumed, completion, hreset, -, hexecuted, hsaved⟩ := h.restarted
  obtain ⟨provider, -, hedits, -⟩ := executed_of_saved hreset.status hexecuted hsaved
  exact hreset.edits.trans hedits

theorem RunSaved.edits {args : RunArgs} (h : RunSaved rt args r') :
    Edits nobody (initialRecord rt args) r' := by
  obtain ⟨approved, started, completion, hedits, hstate, -, hexecuted, hsaved⟩ := h.started
  obtain ⟨provider, -, hlater, -⟩ := executed_of_saved
    (by rw [(ProjectRecord.project_of_state hstate :)]) hexecuted hsaved
  exact hedits.trans hlater

/-- Every version that an operation saves comes from the loaded one by edits, and decisions are
    made only by a call that was granted the authority for them. -/
theorem ProjectOperation.saved_call {operation : ProjectOperation}
    (h : savedBy (operation.body rt r) = some r') :
    Edits nobody r r' ∨ ∃ actor allowList actions,
      operation.decider = some (actor, allowList) ∧ DecidingCall actor allowList actions r r' := by
  cases operation with
  | resumeFromApproval args =>
      rcases (saved_resumeFromApproval h).2.call with hedits | ⟨actions, hcall⟩
      · exact .inl hedits
      · exact .inr ⟨_, _, actions, rfl, hcall⟩
  | rejectApproval args =>
      rcases (saved_rejectApproval h).2.call with ⟨-, hedits⟩ | hcall
      · exact .inl hedits
      · exact .inr ⟨_, _, _, rfl, hcall⟩
  | resumeFromRevision args => exact .inl (saved_resumeFromRevision h).2.edits
  | startReplanning args => exact .inl (saved_startReplanning h).2.edits

/-- Any authority. -/
def anybody : ActorContext → ApprovalActionType → Prop := fun _ _ => True

theorem DecidingCall.edits {actor : ActorContext} {allowList : Option (Dict (List String))}
    {actions : Finset ApprovalActionType} (h : DecidingCall actor allowList actions r r') :
    Edits anybody r r' := by
  obtain ⟨granted, decided, hgrant, hdecide, hlater⟩ := h.parts
  exact (hgrant.edits.trans (hdecide.mono fun _ _ _ => trivial)).trans hlater.of_nobody

theorem ProjectOperation.saved_edits {operation : ProjectOperation}
    (h : savedBy (operation.body rt r) = some r') : Edits anybody r r' := by
  rcases ProjectOperation.saved_call h with hedits | ⟨actor, allowList, actions, -, hcall⟩
  · exact hedits.of_nobody
  · exact hcall.edits

/-- The version that an operation saves is stored under the id of its project. -/
theorem get_of_saved {repository : InMemoryProjectRepository} {projectId : String}
    {operation : ProjectOperation} (hget : repository.get projectId = some r)
    (h : savedBy (operation.body rt r) = some r') :
    (perform rt repository (.onProject projectId operation)).1.get projectId = some r' := by
  have hid : r'.project.id = projectId :=
    (ProjectOperation.saved_edits h).projectId.trans (InMemoryProjectRepository.id_of_get hget)
  rw [perform_onProject rt operation hget, h, ← hid]
  exact InMemoryProjectRepository.get_save_self _ _

/-- An operation that saves nothing leaves the stored record. -/
theorem get_of_unsaved {repository : InMemoryProjectRepository} {projectId : String}
    {operation : ProjectOperation} (hget : repository.get projectId = some r)
    (h : savedBy (operation.body rt r) = none) :
    (perform rt repository (.onProject projectId operation)).1.get projectId = some r := by
  rw [perform_onProject rt operation hget, h]
  exact hget

theorem edits_recordAuthenticationSuccess (actor : ActorContext) :
    Edits nobody r (recordAuthenticationSuccess rt actor r) := by
  have hfirst : Edits nobody r (recordEvent rt r .authenticationSucceeded actor
      "Authentication succeeded.") := edits_recordEvent rt rfl
  exact hfirst.trans (edits_recordEvent rt rfl)

theorem edits_recordAuthenticationFailure (reason : String) :
    Edits nobody r (recordAuthenticationFailure rt reason r) :=
  edits_recordEvent rt rfl

end Calls

/-- The rule for what one edit keeps: it holds of every stored record, when it holds of the record a
    run starts from. -/
theorem stored_of_edits {inv : ProjectRecord → Prop}
    (hinit : ∀ rt args, inv (initialRecord rt args))
    (hedit : ∀ {r r' : ProjectRecord}, Edit anybody r r' → inv r → inv r')
    {calls : List Call} {projectId : String} {record : ProjectRecord}
    (hget : (afterCalls calls).get projectId = some record) : inv record := by
  refine stored_of_operations ?_ ?_ ?_ ?_ hget
  · intro rt args record h
    exact (saved_run h).edits.of_nobody.keeps hedit (hinit rt args)
  · intro rt operation loaded record hinv h
    exact (ProjectOperation.saved_edits h).keeps hedit hinv
  · intro rt actor loaded hinv
    exact (edits_recordAuthenticationSuccess actor).of_nobody.keeps hedit hinv
  · intro rt reason loaded hinv
    exact (edits_recordAuthenticationFailure reason).of_nobody.keeps hedit hinv

end CodexOrchestrator
