import CodexOrchestrator.Concurrency
import CodexOrchestrator.Lifecycle

/-!
# Retries — a request that is sent again

An operation behind its status check is answered from the record when it comes a second time: the
handlers look for what the first call left there.  On a stored project they always find it, so the
second call saves nothing; and a delivered project is not changed by any operation any more.
-/

open PyText Raise

namespace CodexOrchestrator

/-- The status in which an operation does its work. -/
def ProjectOperation.expectedStatus : ProjectOperation → ProjectStatus
  | .resumeFromApproval _ => .waitingApproval
  | .rejectApproval _ => .waitingApproval
  | .resumeFromRevision _ => .revisionRequested
  | .startReplanning _ => .readyForPlanning

/-- No operation does its work on a delivered project. -/
theorem ProjectOperation.ne_expectedStatus_of_completed {r : ProjectRecord}
    (h : r.project.status = .completed) (operation : ProjectOperation) :
    r.project.status ≠ operation.expectedStatus := by
  rw [h]
  cases operation <;> exact fun he => by cases he

/-- In every environment, the operation on this record saves nothing, and unless the project waits
    for approval it answers with the status. -/
def Repeats (operation : ProjectOperation) (r : ProjectRecord) : Prop :=
  ∀ rt, savedBy (operation.body rt r) = none ∧
    (r.project.status ≠ .waitingApproval → ∃ completion, operation.body rt r = .ok completion ∧
      completion.result.summary.status = r.project.status)

/-- The completion saves a version, and reports its status. -/
def Completion.Stores (completion : Completion) : Prop :=
  ∃ r', completion.saved = some r' ∧ completion.result.summary.status = r'.project.status

/-! ## What a call stores -/

section Stores

variable {rt : Runtime} {r : ProjectRecord} {completion : Completion}

theorem stores_summary (r : ProjectRecord) (nextSteps : List String) :
    Completion.Stores { saved := some r, result := summary r nextSteps } :=
  ⟨r, rfl, rfl⟩

theorem stores_pauseForApproval {i : Nat} {actor : ActorContext}
    (h : pauseForApproval rt r i actor = .ok completion) : completion.Stores := by
  obtain ⟨_, -, h⟩ := bind_eq_ok.mp h
  rw [← Except.ok.inj h]
  exact stores_summary _ _

theorem stores_executeTask {provider : TrendProvider} {approved : Finset ApprovalActionType}
    {simulate : Bool} {actor : ActorContext} {i : Nat} {task : Task} {s : LoopState}
    (h : executeTask rt provider approved simulate actor i task s = .ok (.paused completion)) :
    completion.Stores := by
  unfold executeTask at h
  split at h
  · cases h
  · dsimp only at h
    split at h
    · cases h
    · cases h
    · cases h
    · split at h
      -- only the pause in front of the trend task ends the call
      · obtain ⟨paused, hpaused, h⟩ := bind_eq_ok.mp h
        rw [← LoopExit.paused.inj (Except.ok.inj h)]
        exact stores_pauseForApproval hpaused
      · obtain ⟨_, -, h⟩ := bind_eq_ok.mp h
        cases h
    · cases h

theorem stores_executeTasks {provider : TrendProvider} {approved : Finset ApprovalActionType}
    {simulate : Bool} {actor : ActorContext} {i : Nat} {tasks : List Task} {s : LoopState}
    (h : executeTasks rt provider approved simulate actor i tasks s = .ok (.paused completion)) :
    completion.Stores := by
  induction tasks generalizing i s with
  | nil => cases h
  | cons task rest ih =>
      rw [executeTasks] at h
      obtain ⟨exit, hexit, h⟩ := bind_eq_ok.mp h
      cases exit with
      | paused paused =>
          rw [← LoopExit.paused.inj (Except.ok.inj h)]
          exact stores_executeTask hexit
      | finished s₁ => exact ih h

theorem stores_executePendingTasks {trendProviderName : String}
    {approved : Finset ApprovalActionType} {simulate : Bool} {actor : ActorContext}
    (h : executePendingTasks rt r trendProviderName approved simulate actor = .ok completion) :
    completion.Stores := by
  obtain ⟨_, -, h⟩ := bind_eq_ok.mp h
  obtain ⟨exit, hexit, h⟩ := bind_eq_ok.mp h
  cases exit with
  | paused paused =>
      rw [← Except.ok.inj h]
      exact stores_executeTasks hexit
  | finished s =>
      dsimp only at h
      split at h
      · obtain ⟨_, -, h⟩ := bind_eq_ok.mp h
        obtain ⟨_, -, h⟩ := bind_eq_ok.mp h
        rw [← Except.ok.inj h]
        exact stores_summary _ _
      · obtain ⟨_, -, h⟩ := bind_eq_ok.mp h
        rw [← Except.ok.inj h]
        exact stores_summary _ _

theorem stores_resumeRevisionForMode {args : RevisionResumeArgs} {actor : ActorContext}
    {reason : String} (h : resumeRevisionForMode rt args actor reason r = .ok completion) :
    completion.Stores := by
  obtain ⟨_, -, h⟩ := bind_eq_ok.mp h
  split at h
  · rw [← Except.ok.inj h]
    exact stores_summary _ _
  · obtain ⟨_, -, h⟩ := bind_eq_ok.mp h
    exact stores_executePendingTasks h

theorem stores_restartPlan {args : ReplanningStartArgs} {actor : ActorContext} {note : String}
    (h : restartPlan rt args actor note r = .ok completion) : completion.Stores := by
  obtain ⟨_, -, h⟩ := bind_eq_ok.mp h
  obtain ⟨_, -, h⟩ := bind_eq_ok.mp h
  exact stores_executePendingTasks h

end Stores

/-! ## Calls in another status -/

section OtherStatus

variable {rt : Runtime} {r : ProjectRecord} {operation : ProjectOperation}

/-- Behind a status check that does not let the call go on, the deciding part is not read. -/
theorem resolved_congr {expected : ProjectStatus}
    {handlers : List (Action (Option OrchestrationResult))}
    (hquiet : ∀ handler ∈ handlers, handler.Quiet) (hstatus : r.project.status ≠ expected)
    (deciding deciding' : Action Completion) :
    (do
      match ← resolveResultOrRaiseInvalidState r expected handlers with
      | some result => return { result }
      | none => deciding : Action Completion) =
    (do
      match ← resolveResultOrRaiseInvalidState r expected handlers with
      | some result => return { result }
      | none => deciding') := by
  cases hresolved : resolveResultOrRaiseInvalidState r expected handlers with
  | error abort => rfl
  | ok result =>
      cases result with
      | some result => rfl
      | none => exact absurd (status_of_resolved hquiet hresolved) hstatus

/-- In another status than its own, an operation saves nothing. -/
theorem savedBy_of_other_status (rt : Runtime)
    (hstatus : r.project.status ≠ operation.expectedStatus) :
    savedBy (operation.body rt r) = none := by
  rw [Option.eq_none_iff_forall_ne_some]
  intro r' hsaved
  refine hstatus ?_
  cases operation with
  | resumeFromApproval args => exact (saved_resumeFromApproval hsaved).1
  | rejectApproval args => exact (saved_rejectApproval hsaved).1
  | resumeFromRevision args => exact (saved_resumeFromRevision hsaved).1
  | startReplanning args => exact (saved_startReplanning hsaved).1

/-- In another status than its own, an operation answers from the record alone. -/
theorem body_of_other_status (rt rt' : Runtime)
    (hstatus : r.project.status ≠ operation.expectedStatus) :
    operation.body rt r = operation.body rt' r := by
  cases operation with
  | resumeFromApproval args => exact resolved_congr (quiet_approvalHandlers r args) hstatus _ _
  | rejectApproval args =>
      exact congrArg (raiseIf _ _ >>= ·) (funext fun _ =>
        resolved_congr (quiet_rejectHandlers r args) hstatus _ _)
  | resumeFromRevision args => exact resolved_congr (quiet_revisionHandlers r args) hstatus _ _
  | startReplanning args => exact resolved_congr (quiet_replanningHandlers r) hstatus _ _

/-- A handler that answers, behind handlers that do not, ends the call. -/
theorem resolved_of_answer {expected : ProjectStatus} {result : OrchestrationResult}
    (before after : List (Action (Option OrchestrationResult)))
    (hstatus : r.project.status ≠ expected) (hbefore : ∀ handler ∈ before, handler = .ok none) :
    resolveResultOrRaiseInvalidState r expected (before ++ .ok (some result) :: after) =
      .ok (some result) := by
  unfold resolveResultOrRaiseInvalidState
  rw [if_neg hstatus]
  induction before with
  | nil => rfl
  | cons handler rest ih =>
      rw [List.cons_append, firstIdempotentResult, hbefore handler List.mem_cons_self, ok_bind]
      exact ih fun h hmem => hbefore h (List.mem_cons_of_mem _ hmem)

/-- A project that waits is not what a revision or a replanning expects. -/
theorem repeats_of_waiting (hstatus : r.project.status = .waitingApproval)
    (hexpected : operation.expectedStatus ≠ .waitingApproval) : Repeats operation r := by
  refine fun rt => ⟨savedBy_of_other_status rt ?_, fun hne => absurd hstatus hne⟩
  rw [hstatus]
  exact hexpected.symm

/-- An operation that a handler answers with the record repeats itself. -/
theorem repeats_of_resolved {handlers : List (Action (Option OrchestrationResult))}
    {nextSteps : List String} (deciding : Runtime → Action Completion)
    (hstatus : r.project.status ≠ operation.expectedStatus)
    (hresolved : resolveResultOrRaiseInvalidState r operation.expectedStatus handlers =
      .ok (some (summary r nextSteps)))
    (hbody : ∀ rt, operation.body rt r = do
      match ← resolveResultOrRaiseInvalidState r operation.expectedStatus handlers with
      | some result => return { result }
      | none => deciding rt) : Repeats operation r := by
  refine fun rt => ⟨savedBy_of_other_status rt hstatus, fun _ =>
    ⟨{ result := summary r nextSteps }, ?_, rfl⟩⟩
  rw [hbody, hresolved, ok_bind]
  rfl

end OtherStatus

/-! ## A second approval -/

section Approval

variable {rt : Runtime} {r r' : ProjectRecord} {requested : Finset ApprovalActionType}

/-- Code that decides nothing leaves every request, and what it adds is pending. -/
theorem Edits.approvals (h : Edits nobody r r') : ∃ opened,
    r'.approvals = r.approvals ++ opened ∧ ∀ approval ∈ opened, approval.status = .pending := by
  induction h with
  | refl => exact ⟨[], (List.append_nil _).symm, fun _ hmem => absurd hmem List.not_mem_nil⟩
  | @tail r₁ r₂ _ he ih =>
      obtain ⟨opened, happrovals, hpending⟩ := ih
      cases he with
      | annotate same => exact ⟨opened, same.approvals.trans happrovals, hpending⟩
      | log => exact ⟨opened, happrovals, hpending⟩
      | transition => exact ⟨opened, happrovals, hpending⟩
      | task => exact ⟨opened, happrovals, hpending⟩
      | request approval event pending =>
          refine ⟨opened ++ [approval], ?_, ?_⟩
          · dsimp only
            rw [happrovals, List.append_assoc]
          · intro a hmem
            rcases List.mem_append.mp hmem with hmem | hmem
            · exact hpending a hmem
            · rw [List.mem_singleton.mp hmem]
              exact pending
      | decide status requestedBy decisionNote event found pending decided type concerns allowed =>
          exact allowed.elim

/-- Code that decides nothing and leaves nothing pending has opened no request. -/
theorem Edits.approvals_of_settled (h : Edits nobody r r')
    (hsettled : ∀ approval ∈ r'.approvals, approval.status ≠ .pending) :
    r'.approvals = r.approvals := by
  obtain ⟨opened, happrovals, hpending⟩ := h.approvals
  have hnone : opened = [] := by
    rw [List.eq_nil_iff_forall_not_mem]
    intro approval hmem
    refine hsettled approval ?_ (hpending approval hmem)
    rw [happrovals]
    exact List.mem_append_right _ hmem
  rw [happrovals, hnone, List.append_nil]

/-- A call that answers has passed its checks. -/
theorem approvalChecks_of_ok {args : ApprovalResumeArgs} {actor : ActorContext} {note : String}
    {completion : Completion} (h : approveAndResume rt args actor note r = .ok completion) :
    ∃ requested, ApprovalChecks args r requested := by
  obtain ⟨requested, hparsed, h⟩ := bind_eq_ok.mp h
  obtain ⟨_, hnonempty, h⟩ := bind_eq_ok.mp h
  obtain ⟨_, hpending, h⟩ := bind_eq_ok.mp h
  obtain ⟨_, hvalid, -⟩ := bind_eq_ok.mp h
  exact ⟨requested, .of_steps hparsed (raiseIf_eq_ok.mp hnonempty) (raiseIf_eq_ok.mp hpending) hvalid⟩

/-- What the second approval looks for: its types were approved, none was rejected, and nothing is
    pending. -/
structure AllApproved (r : ProjectRecord) (requested : Finset ApprovalActionType) : Prop where
  approved : requested ⊆ (approvalActionState r).approvedActions
  notRejected : requested ∩ (approvalActionState r).rejectedActions = ∅
  settled : ∀ approval ∈ r.approvals, approval.status ≠ .pending

theorem approvedActions_subset_known :
    (approvalActionState r).approvedActions ⊆ (approvalActionState r).knownActions := by
  intro actionType hmem
  obtain ⟨approval, happroval, -, htype⟩ := mem_approvalActionTypes.mp hmem
  exact mem_knownActions.mpr ⟨approval, happroval, htype⟩

theorem AllApproved.answer (h : AllApproved r requested) {args : ApprovalResumeArgs}
    (hstatus : r.project.status = .completed)
    (hparsed : parseApprovedActions args.approvedActions = .ok requested)
    (hnonempty : requested ≠ ∅) :
    ∃ nextSteps, approvalCompletedIdempotentHandler args r = .ok (some (summary r nextSteps)) := by
  have hknown : requested ⊆ (approvalActionState r).knownActions :=
    h.approved.trans approvedActions_subset_known
  have hsome : (approvalActionState r).knownActions ≠ ∅ := by
    intro hnone
    rw [hnone, Finset.subset_empty] at hknown
    exact hnonempty hknown
  have hvalid : validateApprovalActionRequest requested (approvalActionState r).knownActions
      (approvalActionState r).rejectedActions = .ok () :=
    validateApprovalActionRequest_eq_ok.mpr ⟨hknown, h.notRejected⟩
  unfold approvalCompletedIdempotentHandler idempotentResumeFromApprovalIfCompleted
  rw [if_pos hstatus, hparsed, ok_bind, raiseIf_of_not hnonempty, ok_bind, if_neg (not_not.mpr hstatus)]
  dsimp only
  rw [if_neg hsome, hvalid, ok_bind, if_pos ⟨pendingApprovals_isEmpty.mpr h.settled, h.approved⟩]
  exact ⟨_, rfl⟩

/-- The loop over the pending requests approves the type that the project waits for. -/
theorem OnLane.allApproved (h : OnLane .awaiting r) {args : ApprovalResumeArgs}
    (checks : ApprovalChecks args r requested) {actor : ActorContext} {note : String}
    (hnew : ApprovalActionType.externalApiSend ∈ actionsToApprove r requested)
    (happrovals : r'.approvals = r.approvals.map fun approval =>
      if decide (approval.status = .pending) &&
          decide (approval.actionType ∈ actionsToApprove r requested) then approval.approve actor note
      else approval)
    (hsettled : ∀ approval ∈ r'.approvals, approval.status ≠ .pending) :
    AllApproved r' requested := by
  refine ⟨?_, ?_, hsettled⟩
  · obtain ⟨approval, hmem, hpending⟩ := checks.pending
    have htype := h.requests approval hmem
    rw [h.requested_eq checks, Finset.singleton_subset_iff]
    refine mem_approvalActionTypes.mpr ⟨approval.approve actor note, ?_, rfl, htype⟩
    rw [happrovals]
    refine List.mem_map.mpr ⟨approval, hmem, ?_⟩
    rw [if_pos (by simp [hpending, htype, hnew])]
  · rw [Finset.eq_empty_iff_forall_notMem]
    intro actionType hmem
    obtain ⟨hrequested, hrejected⟩ := Finset.mem_inter.mp hmem
    obtain ⟨approval, happroval, hstatus, rfl⟩ := mem_approvalActionTypes.mp hrejected
    rw [happrovals] at happroval
    obtain ⟨request, hrequest, rfl⟩ := List.mem_map.mp happroval
    split at hstatus
    · cases hstatus
    · rename_i hskip
      rw [if_neg hskip] at hrequested
      -- a rejected request was rejected before the call, which the checks refuse
      have hbefore : request.actionType ∈ (approvalActionState r).rejectedActions :=
        mem_approvalActionTypes.mpr ⟨request, hrequest, hstatus, rfl⟩
      have hnone := checks.notRejected
      rw [Finset.eq_empty_iff_forall_notMem] at hnone
      exact hnone request.actionType (Finset.mem_inter.mpr ⟨hrequested, hbefore⟩)

/-- An approval that answers on a waiting project delivers it, with its types approved. -/
theorem OnLane.approved_of_ok (h : OnLane .awaiting r) {args : ApprovalResumeArgs}
    {completion : Completion} (hok : resumeFromApproval rt args r = .ok completion) :
    ∃ requested r', ApprovalChecks args r requested ∧ completion.saved = some r' ∧
      completion.result.summary.status = r'.project.status ∧ OnLane .completed r' ∧
      AllApproved r' requested := by
  rw [resumeFromApproval_of_waiting args h.status] at hok
  obtain ⟨requested, checks⟩ := approvalChecks_of_ok hok
  rw [approveAndResume_of_checks _ _ checks] at hok
  obtain ⟨granted, hgranted, hok⟩ := bind_eq_ok.mp hok
  have grant := granted_of_authorizeNewActions rt hgranted
  have hmissing := h.missingActions_eq checks
  have hnew := h.mem_actionsToApprove hmissing
  have hwaiting : (CodexOrchestrator.afterApproval rt (coerceActor args.actor .approver)
      (normalizeText args.note) r granted requested).project.status = .waitingApproval := by
    rw [afterApproval_project rt _ _ _ grant.state, h.status]
    rfl
  obtain ⟨released, release, hfully⟩ := resumeFully_of_waiting rt
    ((approvalActionState r).approvedActions ∪ actionsToApprove r requested)
    (coerceActor args.actor .approver) (normalizeText args.note) args.trendProviderName hwaiting
  rw [if_neg (not_not.mpr hmissing), hfully] at hok
  obtain ⟨r', hsaved, hreported⟩ := stores_executePendingTasks hok
  obtain ⟨provider, -, hedits, hpass⟩ := executed_of_saved release.status hok hsaved
  have hopen := trendApprovalMissing_eq_false provider
    (Finset.mem_union_right (approvalActionState r).approvedActions hnew)
  have hcompleted := ((h.afterApproval rt _ _ grant.state hnew).released h release).executed_of_open
    hpass hopen
  have hsettled := length_pendingRequests_eq_zero.mp hcompleted.pending
  -- the pass opened no request, since none is pending
  have happrovals := (release.edits.trans hedits).approvals_of_settled hsettled
  rw [afterApproval_approvals requested _ _ grant.state] at happrovals
  exact ⟨requested, r', checks, hsaved, hreported, hcompleted,
    h.allApproved checks hnew happrovals hsettled⟩

/-- Approving twice is approving once. -/
theorem OnLane.approval_repeats (h : OnLane .awaiting r) {args : ApprovalResumeArgs}
    {completion : Completion} (hok : resumeFromApproval rt args r = .ok completion) :
    completion.Stores ∧ ∀ r', completion.saved = some r' → Repeats (.resumeFromApproval args) r' := by
  obtain ⟨requested, r', checks, hsaved, hreported, hcompleted, hall⟩ := h.approved_of_ok hok
  refine ⟨⟨r', hsaved, hreported⟩, fun r'' hsaved' => ?_⟩
  have hsame : r' = r'' := Option.some.inj (hsaved.symm.trans hsaved')
  subst hsame
  have hstatus : r'.project.status = .completed := hcompleted.status
  have hother := ProjectOperation.ne_expectedStatus_of_completed hstatus (.resumeFromApproval args)
  obtain ⟨nextSteps, hanswer⟩ := hall.answer hstatus checks.parsed checks.nonempty
  -- the second call does not expect this status, and its handler finds the first one
  have hresolved : resolveResultOrRaiseInvalidState r' .waitingApproval
      [approvalCompletedIdempotentHandler args r'] = .ok (some (summary r' nextSteps)) := by
    rw [hanswer]
    exact resolved_of_answer [] [] hother (by simp)
  exact repeats_of_resolved _ hother hresolved fun rt => rfl

end Approval

/-! ## A second rejection -/

section Rejection

variable {rt : Runtime} {r r' : ProjectRecord} {named : Finset ApprovalActionType}

/-- The types that a rejection rejects: the named ones, or all of them. -/
def typesToReject (all named : Finset ApprovalActionType) : Finset ApprovalActionType :=
  if named = ∅ then all else named

theorem idempotentReject_answer {args : ApprovalRejectArgs} {all : Finset ApprovalActionType}
    (hstatus : r.project.status = .revisionRequested)
    (hparsed : parseApprovedActions args.rejectedActions = .ok named) (hall : all ≠ ∅)
    (hsubset : typesToReject all named ⊆ all)
    (hrejected : all ⊆ (approvalActionState r).rejectedActions) :
    revisionRequestedIdempotentHandler args r =
      .ok (some (summary r revisionResumeNextSteps)) := by
  -- the second call falls back to the rejected types, where the first one took the pending types
  have hnow : typesToReject (approvalActionState r).rejectedActions named ⊆
      (approvalActionState r).rejectedActions := by
    unfold typesToReject at hsubset ⊢
    split
    · exact Finset.Subset.refl _
    · rename_i hnamed
      rw [if_neg hnamed] at hsubset
      exact hsubset.trans hrejected
  have hsome : typesToReject (approvalActionState r).rejectedActions named ≠ ∅ := by
    unfold typesToReject
    split
    · intro hnone
      rw [hnone, Finset.subset_empty] at hrejected
      exact hall hrejected
    · assumption
  have hnone := Finset.sdiff_eq_empty_iff_subset.mpr hnow
  unfold revisionRequestedIdempotentHandler idempotentRejectIfRevisionRequested
  rw [if_pos hstatus, hparsed, ok_bind, ← typesToReject, if_neg (not_not.mpr hstatus)]
  dsimp only
  unfold raiseIfActionsOutsideAllowedSet
  dsimp only
  rw [raiseIf_of_not (not_not.mpr hnone), ok_bind, if_pos ⟨hsome, hnow⟩]
  rfl

/-- The loop over the pending requests rejects every type that was pending. -/
theorem pendingActionTypes_rejected {granted : ProjectRecord} {actor : ActorContext}
    {reason note : String} (hgranted : granted.approvals = r.approvals)
    (types : Finset ApprovalActionType)
    (happrovals : r'.approvals = (rejectPending rt granted (approvalActionState r).pendingApprovals
      types actor reason note).approvals) :
    (approvalActionState r).pendingActionTypes ⊆ (approvalActionState r').rejectedActions := by
  intro actionType htype
  obtain ⟨request, hrequest, hrequested, rfl⟩ := mem_approvalActionTypes.mp htype
  have hdecided := rejectPending_decided rt r hgranted types actor reason note
  refine mem_approvalActionTypes.mpr ⟨request.reject actor reason note, ?_, rfl, rfl⟩
  rw [happrovals, ProjectRecord.approvals_of_state hdecided.state]
  dsimp only
  rw [hgranted]
  refine List.mem_map.mpr ⟨request, hrequest, ?_⟩
  rw [if_pos (by simp [hrequested])]

/-- A rejection that answers on a waiting project sends it back, with every pending type rejected. -/
theorem rejected_of_ok {args : ApprovalRejectArgs} {completion : Completion}
    (hstatus : r.project.status = .waitingApproval)
    (hok : rejectApproval rt args r = .ok completion) :
    ∃ named r', normalizeText args.reason ≠ "" ∧
      parseApprovedActions args.rejectedActions = .ok named ∧
      (approvalActionState r).pendingActionTypes ≠ ∅ ∧
      typesToReject (approvalActionState r).pendingActionTypes named ⊆
        (approvalActionState r).pendingActionTypes ∧
      completion.saved = some r' ∧ completion.result.summary.status = r'.project.status ∧
      r'.project.status = .revisionRequested ∧
      (approvalActionState r).pendingActionTypes ⊆ (approvalActionState r').rejectedActions := by
  obtain ⟨_, hreason, hok⟩ := bind_eq_ok.mp hok
  rw [resolved_of_status _ hstatus, ok_bind] at hok
  obtain ⟨_, hpending, hok⟩ := bind_eq_ok.mp hok
  obtain ⟨named, hparsed, hok⟩ := bind_eq_ok.mp hok
  obtain ⟨_, hsubset, hok⟩ := bind_eq_ok.mp hok
  obtain ⟨granted, hgranted, hok⟩ := bind_eq_ok.mp hok
  have grant := granted_of_authorizeEach rt hgranted
  have hproject := rejectPending_project rt
    (typesToReject (approvalActionState r).pendingActionTypes named)
    (coerceActor args.actor .approver) (normalizeText args.reason) (normalizeText args.note) grant.state
  obtain ⟨r', htransition, hsent⟩ := sendBack_of_waiting rt (coerceActor args.actor .approver)
    (normalizeText args.reason) (hproject.symm ▸ hstatus)
  dsimp only at hok
  unfold typesToReject at htransition
  rw [htransition, ok_bind] at hok
  cases hok
  have hsub := raiseIf_eq_ok.mp hsubset
  rw [not_not, Finset.sdiff_eq_empty_iff_subset] at hsub
  obtain ⟨approval, hmem, happroval⟩ := exists_pending (raiseIf_eq_ok.mp hpending)
  refine ⟨named, r', raiseIf_eq_ok.mp hreason, hparsed, ?_, hsub, rfl, rfl, ?_, ?_⟩
  · exact Finset.ne_empty_of_mem (mem_approvalActionTypes.mpr ⟨approval, hmem, happroval, rfl⟩)
  · rw [(ProjectRecord.project_of_state hsent.state :)]
  · exact pendingActionTypes_rejected (ProjectRecord.approvals_of_state grant.state :) _
      (ProjectRecord.approvals_of_state hsent.state :)

/-- Rejecting twice is rejecting once. -/
theorem rejection_repeats {args : ApprovalRejectArgs} {completion : Completion}
    (hstatus : r.project.status = .waitingApproval)
    (hok : rejectApproval rt args r = .ok completion) :
    completion.Stores ∧ ∀ r', completion.saved = some r' → Repeats (.rejectApproval args) r' := by
  obtain ⟨named, r', hreason, hparsed, hsome, hsubset, hsaved, hreported, hsent, hrejected⟩ :=
    rejected_of_ok hstatus hok
  refine ⟨⟨r', hsaved, hreported⟩, fun r'' hsaved' => ?_⟩
  have hsame : r' = r'' := Option.some.inj (hsaved.symm.trans hsaved')
  subst hsame
  have hother : r'.project.status ≠ (ProjectOperation.rejectApproval args).expectedStatus := by
    rw [hsent]
    exact fun h => by cases h
  have hresolved : resolveResultOrRaiseInvalidState r' .waitingApproval
      [revisionRequestedIdempotentHandler args r'] =
        .ok (some (summary r' revisionResumeNextSteps)) := by
    rw [idempotentReject_answer hsent hparsed hsome hsubset hrejected]
    exact resolved_of_answer [] [] hother (by simp)
  refine repeats_of_resolved (fun rt => rejectAndRevise rt args (coerceActor args.actor .approver)
    (normalizeText args.reason) (normalizeText args.note) r') hother hresolved fun rt => ?_
  show (raiseIf (normalizeText args.reason = "") _ >>= _) = _
  rw [raiseIf_of_not hreason, ok_bind]
  rfl

end Rejection

/-! ## A second start of a lane -/

section Lanes

variable {rt : Runtime} {r r' : ProjectRecord} {lane : Lane}

/-- A logged event stays logged. -/
theorem Edits.hasEvent (h : Edits nobody r r') {eventType : HistoryEventType} {mode : Option String}
    (hevent : hasEvent r eventType mode = true) : hasEvent r' eventType mode = true := by
  obtain ⟨later, hlater⟩ := h.keepsAudit.events
  unfold CodexOrchestrator.hasEvent at hevent ⊢
  rw [← hlater, List.any_append, hevent, Bool.true_or]

theorem transition_status {nextStatus : ProjectStatus} {actor : ActorContext} {reason : String}
    (h : transition rt r nextStatus actor reason = .ok r') : r'.project.status = nextStatus := by
  unfold transition at h
  dsimp only at h
  split at h
  · rename_i hsame
    rw [← Except.ok.inj h]
    exact hsame
  split at h
  · rw [← Except.ok.inj h]
    rfl
  · cases h

/-- Everything that a lane saves comes after the record it got. -/
theorem edits_resumeRevisionForMode {args : RevisionResumeArgs} {actor : ActorContext}
    {reason : String} (h : savedBy (resumeRevisionForMode rt args actor reason r) = some r') :
    Edits nobody r r' := by
  obtain ⟨resumed, hresumed, h⟩ := savedBy_bind (quiet_transition rt _ _ _ _) h
  have hreset : Edits nobody r resumed :=
    (edits_resetTasksForDepartments rt _ _ _ _ _).trans (edits_transition rt hresumed)
  have hstatus := transition_status hresumed
  split at h
  · rw [← Option.some.inj h]
    exact hreset
  · rename_i hnext
    obtain ⟨approved, -, h⟩ := savedBy_bind (quiet_parseApprovedActions _) h
    obtain ⟨completion, hexecuted, hsaved⟩ :=
      savedBy_of_quiet (quiet_executePendingTasks rt _ _ _ _ _) h
    have hprogress : resumed.project.status = .inProgress := by
      rw [hstatus]
      cases hmode : args.resumeMode with
      | replanning => exact absurd (by rw [hmode]; rfl) hnext
      | rebuilding => rfl
      | rereview => rfl
    obtain ⟨provider, -, hedits, -⟩ := executed_of_saved hprogress hexecuted hsaved
    exact hreset.trans hedits

/-- The mode of a resumed revision is in the log of what it saves. -/
theorem resumeTriggered_of_saved {args : RevisionResumeArgs}
    (h : savedBy (resumeFromRevision rt args r) = some r') :
    hasEvent r' .resumeTriggered (some args.resumeMode.value) = true := by
  obtain ⟨-, h⟩ := savedBy_resolved (quiet_revisionHandlers r args) h
  refine (edits_resumeRevisionForMode h).hasEvent ?_
  simp [hasEvent, recordResumeTriggered, recordEvent]

/-- A started replanning is in the log of what it saves. -/
theorem replanningStarted_of_saved {args : ReplanningStartArgs}
    (h : savedBy (startReplanning rt args r) = some r') :
    hasEvent r' .replanningStarted = true := by
  obtain ⟨-, h⟩ := savedBy_resolved (quiet_replanningHandlers r) h
  obtain ⟨resumed, hresumed, h⟩ := savedBy_bind (quiet_transition rt _ _ _ _) h
  obtain ⟨approved, -, h⟩ := savedBy_bind (quiet_parseApprovedActions _) h
  obtain ⟨completion, hexecuted, hsaved⟩ :=
    savedBy_of_quiet (quiet_executePendingTasks rt _ _ _ _ _) h
  obtain ⟨provider, -, hedits, -⟩ := executed_of_saved (transition_status hresumed) hexecuted hsaved
  refine ((edits_transition rt hresumed).trans hedits).hasEvent ?_
  simp [hasEvent, recordEvent]

theorem idempotentIfCompletedWithEvent_answer {eventType : HistoryEventType} {mode : Option String}
    (nextStep : String) (hstatus : r.project.status = .completed)
    (hevent : hasEvent r eventType mode = true) :
    idempotentIfCompletedWithEvent r eventType nextStep mode =
      .ok (some (summary r [nextStep])) := by
  unfold idempotentIfCompletedWithEvent
  rw [if_neg (not_not.mpr hstatus), if_pos hevent]
  rfl

/-- Resuming a revision twice in the same mode is resuming it once. -/
theorem OnLane.revision_repeats (h : OnLane lane r) {args : RevisionResumeArgs}
    (hsaved : savedBy (resumeFromRevision rt args r) = some r') :
    Repeats (.resumeFromRevision args) r' := by
  obtain ⟨hstatus, hcall⟩ := saved_resumeFromRevision hsaved
  have hlane := Lane.eq_revision (h.status.symm.trans hstatus)
  rcases revision_lane_cases h hlane hcall with ⟨hmode, hreplanned⟩ | ⟨next, hnext, hlane'⟩
  -- the replanning mode stops before the pass
  · have hready : r'.project.status = .readyForPlanning := hreplanned.status
    have hother : r'.project.status ≠
        (ProjectOperation.resumeFromRevision args).expectedStatus := by
      rw [hready]
      exact fun h => by cases h
    have hanswer : idempotentResumeFromRevisionIfReadyForPlanning r' args.resumeMode =
        .ok (some (summary r' replanningStartNextSteps)) := by
      unfold idempotentResumeFromRevisionIfReadyForPlanning
      rw [if_pos ⟨hready, hmode⟩]
      rfl
    have hresolved : resolveResultOrRaiseInvalidState r' .revisionRequested
        [idempotentResumeFromRevisionIfReadyForPlanning r' args.resumeMode,
          idempotentResumeFromRevisionIfCompleted r' args.resumeMode] =
        .ok (some (summary r' replanningStartNextSteps)) := by
      rw [hanswer]
      exact resolved_of_answer [] _ hother (by simp)
    exact repeats_of_resolved _ hother hresolved fun rt => rfl
  · rcases List.mem_pair.mp hnext with rfl | rfl
    · exact repeats_of_waiting hlane'.status fun h => by cases h
    · have hcompleted : r'.project.status = .completed := hlane'.status
      have hother := ProjectOperation.ne_expectedStatus_of_completed hcompleted
        (.resumeFromRevision args)
      -- the first handler passes on, and the second finds the event of the first call
      have hpass : idempotentResumeFromRevisionIfReadyForPlanning r' args.resumeMode = .ok none := by
        unfold idempotentResumeFromRevisionIfReadyForPlanning
        rw [if_neg]
        · rfl
        · rintro ⟨hready, -⟩
          rw [hcompleted] at hready
          cases hready
      have hresolved : resolveResultOrRaiseInvalidState r' .revisionRequested
          [idempotentResumeFromRevisionIfReadyForPlanning r' args.resumeMode,
            idempotentResumeFromRevisionIfCompleted r' args.resumeMode] =
          .ok (some (summary r'
            ["Project already completed; revision resume request treated as idempotent."])) := by
        unfold idempotentResumeFromRevisionIfCompleted
        rw [idempotentIfCompletedWithEvent_answer _ hcompleted (resumeTriggered_of_saved hsaved)]
        exact resolved_of_answer [_] [] hother (by simpa using hpass)
      exact repeats_of_resolved _ hother hresolved fun rt => rfl

/-- Starting a replanning twice is starting it once. -/
theorem OnLane.replanning_repeats (h : OnLane lane r) {args : ReplanningStartArgs}
    (hsaved : savedBy (startReplanning rt args r) = some r') :
    Repeats (.startReplanning args) r' := by
  obtain ⟨hstatus, hcall⟩ := saved_startReplanning hsaved
  have hlane := Lane.eq_replanned (h.status.symm.trans hstatus)
  subst hlane
  obtain ⟨next, hnext, hlane'⟩ := replanning_lane h hcall
  rcases List.mem_pair.mp hnext with rfl | rfl
  · exact repeats_of_waiting hlane'.status fun h => by cases h
  · have hcompleted : r'.project.status = .completed := hlane'.status
    have hother := ProjectOperation.ne_expectedStatus_of_completed hcompleted (.startReplanning args)
    have hresolved : resolveResultOrRaiseInvalidState r' .readyForPlanning
        [idempotentStartReplanningIfCompleted r'] = .ok (some (summary r'
          ["Project already completed; replanning start request treated as idempotent."])) := by
      unfold idempotentStartReplanningIfCompleted
      rw [idempotentIfCompletedWithEvent_answer _ hcompleted (replanningStarted_of_saved hsaved)]
      exact resolved_of_answer [] [] hother (by simp)
    exact repeats_of_resolved _ hother hresolved fun rt => rfl

end Lanes

/-! ## Runs -/

/-- The event types of the authentication bookkeeping. -/
def HistoryEventType.isAuthentication : HistoryEventType → Bool
  | .authenticationSucceeded | .authenticationFailed | .actorResolved => true
  | _ => false

/-- The call starts a project under this id. -/
def Call.Draws (call : Call) (projectId : String) : Prop :=
  (∃ args, call.operation = .run args) ∧ call.env.projectUuid = projectId

/-- The call logs an authentication for this project. -/
def Call.Authenticates (call : Call) (projectId : String) : Prop :=
  (∃ actor, call.operation = .recordAuthenticationSuccess projectId actor) ∨
    ∃ reason, call.operation = .recordAuthenticationFailure projectId reason

/-- `stored` is `r` with log entries of the authentication, if any may be there. -/
structure Authenticated (r stored : ProjectRecord) (logged : Prop) : Prop where
  log : ∃ events, stored = { r with events := r.events ++ events } ∧
    (∀ event ∈ events, event.eventType.isAuthentication = true) ∧ (¬ logged → events = [])

section Runs

variable {rt : Runtime} {r : ProjectRecord} {lane : Lane} {operation : ProjectOperation}
  {completion : Completion}

/-- In the status it expects, an operation that answers stores a version that it finds again. -/
theorem OnLane.repeats (h : OnLane lane r) (hstatus : r.project.status = operation.expectedStatus)
    (hok : operation.body rt r = .ok completion) :
    completion.Stores ∧ ∀ r', completion.saved = some r' → Repeats operation r' := by
  have hsavedBy : ∀ r', completion.saved = some r' → savedBy (operation.body rt r) = some r' := by
    intro r' hsaved
    rw [hok]
    exact hsaved
  cases operation with
  | resumeFromApproval args =>
      have hlane := Lane.eq_awaiting (h.status.symm.trans hstatus)
      subst hlane
      exact h.approval_repeats hok
  | rejectApproval args => exact rejection_repeats hstatus hok
  | resumeFromRevision args =>
      refine ⟨?_, fun r' hsaved => h.revision_repeats (hsavedBy r' hsaved)⟩
      have hrevision : r.project.status = .revisionRequested := hstatus
      have hdecided : resumeFromRevision rt args r = .ok completion := hok
      unfold resumeFromRevision at hdecided
      dsimp only at hdecided
      rw [resolved_of_status _ hrevision, ok_bind] at hdecided
      exact stores_resumeRevisionForMode hdecided
  | startReplanning args =>
      refine ⟨?_, fun r' hsaved => h.replanning_repeats (hsavedBy r' hsaved)⟩
      have hready : r.project.status = .readyForPlanning := hstatus
      have hdecided : startReplanning rt args r = .ok completion := hok
      unfold startReplanning at hdecided
      dsimp only at hdecided
      rw [resolved_of_status _ hready, ok_bind] at hdecided
      exact stores_restartPlan hdecided

theorem Authenticated.refl (r : ProjectRecord) (logged : Prop) : Authenticated r r logged :=
  ⟨[], by rw [List.append_nil], by simp, fun _ => rfl⟩

theorem Authenticated.trans {r₁ r₂ r₃ : ProjectRecord} {logged logged' : Prop}
    (h : Authenticated r₁ r₂ logged) (h' : Authenticated r₂ r₃ logged') :
    Authenticated r₁ r₃ (logged ∨ logged') := by
  obtain ⟨events, rfl, htype, hnone⟩ := h.log
  obtain ⟨later, rfl, htype', hnone'⟩ := h'.log
  refine ⟨events ++ later, by dsimp only; rw [List.append_assoc], ?_, ?_⟩
  · intro event hmem
    exact (List.mem_append.mp hmem).elim (htype event) (htype' event)
  · intro hnot
    rw [hnone fun hl => hnot (.inl hl), hnone' fun hl => hnot (.inr hl)]
    rfl

/-- A call that concerns another project leaves the stored record. -/
theorem get_step_of_ne {repository : InMemoryProjectRepository} {call : Call} {projectId : String}
    (h : ∀ saved, (call.outcome repository).saved = some saved → saved.project.id ≠ projectId) :
    (call.step repository).get projectId = repository.get projectId := by
  rw [Call.step_eq]
  exact repository.get_saveSome_of_ne h

/-- A call that saves nothing, or a version of another project, leaves the stored record. -/
theorem authenticated_of_other {repository : InMemoryProjectRepository} {call : Call}
    {projectId : String} (hget : repository.get projectId = some r)
    (hother : ∀ saved, (call.outcome repository).saved = some saved → saved.project.id ≠ projectId) :
    ∃ stored, (call.step repository).get projectId = some stored ∧
      Authenticated r stored (call.Authenticates projectId) :=
  ⟨r, (get_step_of_ne hother).trans hget, .refl r _⟩

/-- A call that appends entries to the log of the project `id`, if there is one. -/
theorem authenticated_of_log {repository : InMemoryProjectRepository} {call : Call}
    {projectId id : String} {log : ProjectRecord → ProjectRecord}
    (hget : repository.get projectId = some r)
    (hsaves : (call.outcome repository).saved = (repository.get id).map log)
    (hproject : ∀ loaded, (log loaded).project = loaded.project)
    (hlog : id = projectId → Authenticated r (log r) (call.Authenticates projectId)) :
    ∃ stored, (call.step repository).get projectId = some stored ∧
      Authenticated r stored (call.Authenticates projectId) := by
  by_cases hid : id = projectId
  · subst hid
    refine ⟨log r, ?_, hlog rfl⟩
    have hsame : (log r).project.id = id := by
      rw [hproject]
      exact InMemoryProjectRepository.id_of_get hget
    rw [Call.step_eq, hsaves, hget, ← hsame]
    exact InMemoryProjectRepository.get_save_self _ _
  · refine authenticated_of_other hget fun saved hsaved hsame => hid ?_
    rw [hsaves] at hsaved
    obtain ⟨loaded, hloaded, rfl⟩ := Option.map_eq_some_iff.mp hsaved
    rw [hproject] at hsame
    exact (InMemoryProjectRepository.id_of_get hloaded).symm.trans hsame

/-- What one call does to a delivered project. -/
theorem delivered_step {repository : InMemoryProjectRepository} {call : Call} {projectId : String}
    (hget : repository.get projectId = some r) (hstatus : r.project.status = .completed)
    (hdraws : ¬ call.Draws projectId) :
    ∃ stored, (call.step repository).get projectId = some stored ∧
      Authenticated r stored (call.Authenticates projectId) := by
  obtain ⟨operation, env⟩ := call
  cases operation with
  | run args =>
      refine authenticated_of_other hget fun saved hsaved hid => hdraws ⟨⟨args, rfl⟩, ?_⟩
      have hrun : savedBy (CodexOrchestrator.run env.runtime args) = some saved := by
        rw [← Outcome.of_saved]
        exact hsaved
      have huuid : saved.project.id = env.projectUuid := (saved_run hrun).edits.projectId
      exact huuid.symm.trans hid
  | onProject id operation =>
      refine authenticated_of_other hget fun saved hsaved hid => ?_
      cases hloaded : repository.get id with
      | none =>
          rw [Call.outcome, Operation.outcome, hloaded] at hsaved
          cases hsaved
      | some loaded =>
          have hbody : savedBy (operation.body env.runtime loaded) = some saved := by
            rw [Call.outcome, Operation.outcome, hloaded, Outcome.of_saved] at hsaved
            exact hsaved
          have hsame : saved.project.id = id :=
            (ProjectOperation.saved_edits hbody).projectId.trans
              (InMemoryProjectRepository.id_of_get hloaded)
          rw [hsame] at hid
          subst hid
          have hrecord : loaded = r := Option.some.inj (hloaded.symm.trans hget)
          subst hrecord
          -- no operation expects a completed project, so none saves a version of it
          rw [savedBy_of_other_status env.runtime
            (operation.ne_expectedStatus_of_completed hstatus)] at hbody
          cases hbody
  | recordAuthenticationSuccess id actor =>
      refine @authenticated_of_log r repository _ projectId id
        (recordAuthenticationSuccess env.runtime actor) hget rfl (fun _ => rfl) fun hid => ?_
      subst hid
      refine ⟨_, by
        rw [recordAuthenticationSuccess, recordEvent, recordEvent]
        dsimp only
        rw [List.append_assoc], by simp [HistoryEventType.isAuthentication],
        fun hnot => absurd (.inl ⟨actor, rfl⟩) hnot⟩
  | recordAuthenticationFailure id reason =>
      refine @authenticated_of_log r repository _ projectId id
        (recordAuthenticationFailure env.runtime reason) hget rfl (fun _ => rfl) fun hid => ?_
      subst hid
      exact ⟨_, rfl, by simp [HistoryEventType.isAuthentication],
        fun hnot => absurd (.inr ⟨reason, rfl⟩) hnot⟩

/-- What a run does to a delivered project. -/
theorem delivered_run {calls later : List Call} {projectId : String}
    (hget : (afterCalls calls).get projectId = some r) (hstatus : r.project.status = .completed)
    (hdraws : ∀ call ∈ later, ¬ call.Draws projectId) :
    ∃ stored, (afterCalls (calls ++ later)).get projectId = some stored ∧
      Authenticated r stored (∃ call ∈ later, call.Authenticates projectId) := by
  induction later using List.reverseRecOn with
  | nil =>
      rw [List.append_nil]
      exact ⟨r, hget, .refl r _⟩
  | append_singleton later call ih =>
      obtain ⟨stored, hstored, hlogged⟩ := ih fun c hmem =>
        hdraws c (List.mem_append_left _ hmem)
      -- the calls so far only wrote to the log, so the project is still delivered
      obtain ⟨events, rfl, -⟩ := hlogged.log
      obtain ⟨stored', hstored', hlogged'⟩ := delivered_step hstored hstatus
        (hdraws call (List.mem_append_right _ List.mem_cons_self))
      have hafter : afterCalls (calls ++ (later ++ [call])) =
          call.step (afterCalls (calls ++ later)) := by
        rw [← List.append_assoc]
        exact Runs.after_concat _ _ _ _
      refine ⟨stored', by rw [hafter, hstored'], ?_⟩
      obtain ⟨log, he, htype, hnone⟩ := (hlogged.trans hlogged').log
      refine ⟨log, he, htype, fun hnot => hnone ?_⟩
      rintro (⟨c, hmem, hc⟩ | hc)
      · exact hnot ⟨c, List.mem_append_left _ hmem, hc⟩
      · exact hnot ⟨call, List.mem_append_right _ List.mem_cons_self, hc⟩

end Runs

/-- A call that answers may be sent again at once: the second call leaves the repository as the
    first one left it, and unless the project waits for approval it reports the same status.  And a
    delivered project stays as it is, up to entries of the authentication in its log. -/
theorem stored_retry_final {calls : List Call} {projectId : String} {record : ProjectRecord}
    (hget : (afterCalls calls).get projectId = some record) :
    (∀ (operation : ProjectOperation) (env env' : Environment) (result : OrchestrationResult),
      (perform env.runtime (afterCalls calls) (.onProject projectId operation)).2 =
        .ok (some result) →
      (perform env'.runtime
          (perform env.runtime (afterCalls calls) (.onProject projectId operation)).1
          (.onProject projectId operation)).1 =
        (perform env.runtime (afterCalls calls) (.onProject projectId operation)).1 ∧
      (result.summary.status ≠ .waitingApproval → ∃ again,
        (perform env'.runtime
          (perform env.runtime (afterCalls calls) (.onProject projectId operation)).1
          (.onProject projectId operation)).2 = .ok (some again) ∧
        again.summary.status = result.summary.status)) ∧
    (record.project.status = .completed → ∀ later : List Call,
      (∀ call ∈ later, ¬ call.Draws projectId) →
      ∃ stored, (afterCalls (calls ++ later)).get projectId = some stored ∧
        Authenticated record stored (∃ call ∈ later, call.Authenticates projectId)) := by
  refine ⟨fun operation env env' result hanswer => ?_,
    fun hstatus later hdraws => delivered_run hget hstatus hdraws⟩
  obtain ⟨lane, hlane⟩ := stored_lane hget
  rw [perform_onProject env.runtime operation hget] at hanswer
  obtain ⟨completion, hok, hresult⟩ := Outcome.answer_eq_ok hanswer
  subst hresult
  by_cases hexpected : record.project.status = operation.expectedStatus
  · obtain ⟨⟨saved, hsaved, hreported⟩, hrepeats⟩ := hlane.repeats hexpected hok
    have hsavedBy : savedBy (operation.body env.runtime record) = some saved := by
      rw [hok]
      exact hsaved
    have hstored := get_of_saved hget hsavedBy
    obtain ⟨hnone, hagain⟩ := hrepeats saved hsaved env'.runtime
    rw [perform_onProject env'.runtime operation hstored, hnone]
    refine ⟨rfl, fun hwaiting => ?_⟩
    rw [hreported] at hwaiting ⊢
    obtain ⟨completion', hbody, hstatus⟩ := hagain hwaiting
    refine ⟨completion'.result, ?_, hstatus⟩
    rw [hbody]
    rfl
  · -- in another status both calls are the same reading of the record
    have hnone := savedBy_of_other_status env.runtime hexpected
    have hsame : (perform env.runtime (afterCalls calls) (.onProject projectId operation)).1 =
        afterCalls calls := by
      rw [perform_onProject env.runtime operation hget, hnone]
      rfl
    rw [hsame, perform_onProject env'.runtime operation hget,
      savedBy_of_other_status env'.runtime hexpected,
      body_of_other_status env'.runtime env.runtime hexpected, hok]
    exact ⟨rfl, fun _ => ⟨completion.result, rfl, rfl⟩⟩

/-- The sample project is approved, and approved again; then the owner logs in and tries to resume a
    revision. -/
theorem stored_retry_final_sample : ∃ record,
    (afterCalls [sampleRun, sampleApproval]).get "p" = some record ∧
    (∃ result, (perform sampleApproval.env.runtime (afterCalls [sampleRun, sampleApproval])
        sampleApproval.operation).2 = .ok (some result) ∧
      result.summary.status = .completed) ∧
    ∃ stored, (afterCalls ([sampleRun, sampleApproval] ++
        [sampleCall "5" (.recordAuthenticationSuccess "p" sampleOwner),
          sampleRevision .rebuilding])).get "p" = some stored ∧
      Authenticated record stored True := by
  have hstored : ((afterCalls [sampleRun, sampleApproval]).get "p").any (fun record =>
      decide (record.project.status = .completed)) = true := by decide
  obtain ⟨record, hget, hstatus⟩ := (Option.any_eq_true _ _).mp hstored
  obtain ⟨result, hfirst, hcompleted⟩ : ∃ result, (perform sampleApproval.env.runtime
      (afterCalls [sampleRun]) sampleApproval.operation).2 = .ok (some result) ∧
        result.summary.status = .completed := ⟨_, rfl, by decide⟩
  have hwaiting : ((afterCalls [sampleRun]).get "p").isSome = true := by decide
  obtain ⟨before, hbefore⟩ := Option.isSome_iff_exists.mp hwaiting
  obtain ⟨again, hagain, hsame⟩ := ((stored_retry_final hbefore).1
    (.resumeFromApproval sampleApprovalArgs) sampleApproval.env sampleApproval.env result hfirst).2
      (by rw [hcompleted]; decide)
  refine ⟨record, hget, ⟨again, hagain, hsame.trans hcompleted⟩, ?_⟩
  have hdraws : ∀ call ∈ [sampleCall "5" (.recordAuthenticationSuccess "p" sampleOwner),
      sampleRevision .rebuilding], ¬ call.Draws "p" := by
    rintro call hmem ⟨⟨args, hrun⟩, -⟩
    rcases List.mem_pair.mp hmem with rfl | rfl <;> cases hrun
  obtain ⟨stored, hlater, hlogged⟩ :=
    (stored_retry_final hget).2 (of_decide_eq_true hstatus) _ hdraws
  obtain ⟨events, he, htype, -⟩ := hlogged.log
  exact ⟨stored, hlater, events, he, htype, fun h => absurd trivial h⟩

end CodexOrchestrator
