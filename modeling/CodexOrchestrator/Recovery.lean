import CodexOrchestrator.ApiConcurrency
import CodexOrchestrator.Reapproval

/-!
# Recovery — which projects can still be completed

A rejected request cannot be approved again, so the way out of a waiting project that always works
leads through a rejection and a rebuild with a provider that needs no approval.  What remains is who
may reject: the requests of a server complete a stored project, sooner or later, if and only if some
token of its service belongs to an actor who can take the first step.
-/

open PyText Raise

namespace CodexOrchestrator

/-! ## Ways on -/

section Ways

variable {rt : Runtime} {r : ProjectRecord} {lane : Lane}

theorem OnLane.exists_pending (h : OnLane .awaiting r) :
    ∃ approval ∈ r.approvals, approval.status = .pending := by
  have hmem : .externalApiSend ∈ (approvalActionState r).pendingActionTypes := by
    rw [h.pendingActionTypes]
    exact Finset.mem_singleton_self _
  obtain ⟨approval, happroval, hstatus, -⟩ := mem_approvalActionTypes.mp hmem
  exact ⟨approval, happroval, hstatus⟩

/-- A rejection that names nothing, by an actor whom the policy allows to decide about every pending
    type, sends a waiting project back. -/
theorem rejectApproval_unnamed {args : ApprovalRejectArgs}
    (hstatus : r.project.status = .waitingApproval)
    (hpending : ∃ approval ∈ r.approvals, approval.status = .pending)
    (hunnamed : args.rejectedActions = []) (hreason : normalizeText args.reason ≠ "")
    (hallowed : ∀ actionType ∈ (approvalActionState r).pendingActionTypes,
      Allowed r (coerceActor args.actor .approver) args.projectAllowedActorIdsByAction actionType) :
    ∃ r', savedBy (rejectApproval rt args r) = some r' ∧ r'.project.status = .revisionRequested := by
  obtain ⟨approval, happroval, hopen⟩ := hpending
  have hsome : (approvalActionState r).pendingApprovals.isEmpty ≠ true := fun hempty =>
    pendingApprovals_isEmpty.mp hempty approval happroval hopen
  obtain ⟨granted, hgranted⟩ : ∃ granted, authorizeActionsOrRaise rt r
      (coerceActor args.actor .approver) (approvalActionState r).pendingActionTypes
      args.projectAllowedActorIdsByAction = .ok granted :=
    authorizeEach_of_allowed rt fun actionType hmem => hallowed actionType (mem_sortedActions.mp hmem)
  have hproject := rejectPending_project rt (approvalActionState r).pendingActionTypes
    (coerceActor args.actor .approver) (normalizeText args.reason) (normalizeText args.note)
    (granted_of_authorizeEach rt hgranted).state
  obtain ⟨sent, htransition, hsent⟩ := sendBack_of_waiting rt (coerceActor args.actor .approver)
    (normalizeText args.reason) (hproject.symm ▸ hstatus)
  refine ⟨sent, ?_, (ProjectRecord.project_of_state hsent.state :) ▸ rfl⟩
  have hparsed : parseApprovedActions args.rejectedActions = .ok ∅ := by
    rw [hunnamed]
    rfl
  -- no name stands for every pending type, so the check on the names passes
  have hchecked : raiseIfActionsOutsideAllowedSet (approvalActionState r).pendingActionTypes
      (approvalActionState r).pendingActionTypes "Cannot reject non-pending action(s)" = .ok () := by
    unfold raiseIfActionsOutsideAllowedSet
    rw [Finset.sdiff_self]
    rfl
  unfold rejectApproval rejectAndRevise
  dsimp only
  rw [raiseIf_of_not hreason, ok_bind, resolved_of_status _ hstatus, ok_bind]
  dsimp only
  rw [raiseIf_of_not hsome, ok_bind, hparsed, ok_bind, if_pos rfl, hchecked, ok_bind, hgranted,
    ok_bind, htransition, ok_bind]
  rfl

/-- A pass without approvals, with a provider that answers and asks for none, delivers a record
    whose departments were reset. -/
theorem ResetLane.delivered {a b c d : TaskStatus} (h : ResetLane [a, b, c, d, .pending] .inProgress r)
    {name : String} {provider : TrendProvider} (hprovider : rt.getTrendProvider name = .ok provider)
    (hanswers : provider.Answers) (hmock : isMockProvider provider = true)
    (approved : Finset ApprovalActionType) (actor : ActorContext) :
    ∃ completion r', executePendingTasks rt r name approved false actor = .ok completion ∧
      completion.saved = some r' ∧ OnLane .completed r' := by
  obtain ⟨completion, hcompletion⟩ := executePendingTasks_answers rt false approved actor h.status
    hprovider hanswers
  obtain ⟨provider', r', hprovider', hsaved, -, hexecuted⟩ := executed_of_ok h.status hcompletion
  have hsame : provider = provider' := Except.ok.inj (hprovider.symm.trans hprovider')
  subst hsame
  refine ⟨completion, r', hcompletion, hsaved, h.underway.executed_of_open hexecuted ?_⟩
  rw [trendApprovalMissing, hmock]
  rfl

/-- A revision other than a replanning completes a project that was sent back. -/
theorem OnLane.revised (h : OnLane lane r) (hlane : lane = .sentBack ∨ lane = .reviewed)
    {args : RevisionResumeArgs} (hmode : args.resumeMode ≠ .replanning)
    {approved : Finset ApprovalActionType}
    (hparsed : parseApprovedActions args.approvedActions = .ok approved) {provider : TrendProvider}
    (hprovider : rt.getTrendProvider args.trendProviderName = .ok provider)
    (hanswers : provider.Answers) (hmock : isMockProvider provider = true) :
    ∃ r', savedBy (resumeFromRevision rt args r) = some r' ∧ OnLane .completed r' := by
  have hstatus : r.project.status = .revisionRequested := by
    rw [h.status]
    rcases hlane with rfl | rfl <;> rfl
  have hopen : lane.openRequests = 0 := by rcases hlane with rfl | rfl <;> rfl
  have hne : lane ≠ .completed := by rcases hlane with rfl | rfl <;> decide
  let logged := recordResumeTriggered rt r (coerceActor args.actor .operator) args.resumeMode.value
    (orElse (normalizeText args.reason) "Revision resume requested.")
  have hlogged : Edits nobody r logged := edits_recordEvent rt rfl
  have hnext : (revisionResumeConfig args.resumeMode).nextStatus = .inProgress := by
    cases hm : args.resumeMode with
    | replanning => exact absurd hm hmode
    | rebuilding => rfl
    | rereview => rfl
  have hcan : canTransition logged.project.status (revisionResumeConfig args.resumeMode).nextStatus =
      true := by
    rw [hnext]
    show canTransition r.project.status _ = true
    rw [hstatus]
    rfl
  obtain ⟨resumed, hresumed, hreset⟩ := resumeRevisionWithTransition_of_can rt
    (coerceActor args.actor .operator) (normalizeText args.reason) hcan
  have hreset := Reset.of_log hlogged rfl hreset
  rw [hnext] at hreset
  obtain ⟨a, b, c, d, hstages⟩ := revision_reset hlane hmode
  obtain ⟨completion, r', hcompletion, hsaved, hcompleted⟩ :=
    (h.reset hreset hopen hne hstages).delivered hprovider hanswers hmock approved
      (coerceActor args.actor .operator)
  refine ⟨r', ?_, hcompleted⟩
  unfold resumeFromRevision resumeRevisionForMode
  dsimp only
  rw [resolved_of_status _ hstatus, ok_bind]
  dsimp only
  rw [hresumed, ok_bind, if_neg (by rw [hnext]; decide), hparsed, ok_bind, hcompletion]
  exact hsaved

/-- The start of replanning completes a project that is ready for planning. -/
theorem OnLane.restarted (h : OnLane .replanned r) {args : ReplanningStartArgs}
    {approved : Finset ApprovalActionType}
    (hparsed : parseApprovedActions args.approvedActions = .ok approved) {provider : TrendProvider}
    (hprovider : rt.getTrendProvider args.trendProviderName = .ok provider)
    (hanswers : provider.Answers) (hmock : isMockProvider provider = true) :
    ∃ r', savedBy (startReplanning rt args r) = some r' ∧ OnLane .completed r' := by
  have hstatus : r.project.status = .readyForPlanning := h.status
  have hfirst := restartReset rt r (coerceActor args.actor .operator) args.resetDownstreamTasks
  let logged := recordEvent rt (if args.resetDownstreamTasks then
      resetTasksForDepartments rt r downstreamDepartments .pending
        (coerceActor args.actor .operator) "Replanning start reset."
    else r) .replanningStarted (coerceActor args.actor .operator)
    (orElse (normalizeText args.note) "Replanning execution started.")
    [("reset_downstream_tasks", .bool args.resetDownstreamTasks)]
  have hproject : logged.project = r.project := (ProjectRecord.project_of_state hfirst.1 :)
  have hcan : canTransition logged.project.status .inProgress = true := by
    rw [hproject, hstatus]
    rfl
  obtain ⟨resumed, htransition, hstate⟩ := transition_of_can rt logged
    (coerceActor args.actor .operator) "Replanning execution moved to in_progress." hcan
  have hreset : Reset (if args.resetDownstreamTasks then downstreamDepartments else []) none
      .inProgress r resumed := by
    refine ⟨(hfirst.2.trans (edits_recordEvent rt rfl)).trans (edits_transition rt htransition), ?_⟩
    rw [hstate, hproject]
    exact congrArg (fun state : ProjectRecord =>
      { state with project := { r.project with status := .inProgress } }) hfirst.1
  have hstages : (planStages Lane.replanned.taskStatuses).map
      (Stage.reset (if args.resetDownstreamTasks then downstreamDepartments else [])) =
      planStages [.done, .pending, .pending, .pending, .pending] := by
    cases args.resetDownstreamTasks <;> rfl
  obtain ⟨completion, r', hcompletion, hsaved, hcompleted⟩ :=
    (h.reset hreset rfl (by decide) hstages).delivered hprovider hanswers hmock approved
      (coerceActor args.actor .operator)
  refine ⟨r', ?_, hcompleted⟩
  unfold startReplanning restartPlan
  dsimp only
  rw [resolved_of_status _ hstatus, ok_bind]
  dsimp only
  rw [htransition, ok_bind, hparsed, ok_bind, hcompletion]
  exact hsaved

end Ways

/-! ## Requests that lead there -/

/-- The request that takes a project from a lane towards `completed`. -/
def Lane.request (projectId : String) (hne : projectId ≠ "") : Lane → ProtectedPayload
  | .awaiting => .rejectApproval {
      projectId := projectId
      reason := "Rejected."
      projectId_ne := hne
      reason_ne := by decide }
  | .sentBack | .reviewed => .resumeRevision {
      projectId := projectId
      resumeMode := .rebuilding
      projectId_ne := hne }
  | .replanned | .completed => .startReplanning {
      projectId := projectId
      projectId_ne := hne }

section Requests

variable {service : DevTokenAuthService} {repository : InMemoryProjectRepository}
  {projectId : String} {record : ProjectRecord} {lane : Lane} {authorization : Option String}
  {actor : ActorContext}

theorem Lane.request_projectId (hne : projectId ≠ "") (lane : Lane) :
    (lane.request projectId hne).projectId = projectId := by
  cases lane <;> rfl

/-- A protected request with an accepted token stores what its operation saves for the record with
    the log of the authentication. -/
theorem get_of_request {payload : ProtectedPayload} {authentication execution : Environment}
    {saved : ProjectRecord} (haccepted : service.resolveActor authorization = .ok actor)
    (hget : repository.get payload.projectId = some record)
    (hsaved : savedBy ((payload.operation actor).body execution.runtime
      (recordAuthenticationSuccess authentication.runtime actor record)) = some saved) :
    (Exchange.step service repository
      ⟨.onProject payload authorization, authentication, execution⟩).get payload.projectId =
      some saved := by
  rw [Exchange.step_eq_calls]
  simp only [Exchange.calls, haccepted]
  have hlogged : (Call.step repository
      ⟨.recordAuthenticationSuccess payload.projectId actor, authentication⟩).get payload.projectId =
      some (recordAuthenticationSuccess authentication.runtime actor record) := by
    refine (InMemoryProjectRepository.get_saveSome_map repository payload.projectId
      (recordAuthenticationSuccess authentication.runtime actor) fun _ => rfl).trans ?_
    rw [hget]
    rfl
  exact get_of_saved hlogged hsaved

theorem getTrendProvider_mock (strict : Option String) :
    getTrendProvider strict "mock" = .ok mockTrendProvider := rfl

/-- From every lane the request leads to `completed`, from the waiting one by way of a revision. -/
theorem OnLane.requested (h : OnLane lane record) (hget : repository.get projectId = some record)
    (hne : projectId ≠ "") (hlane : lane ≠ .completed)
    (haccepted : service.resolveActor authorization = .ok actor)
    (hallowed : lane = .awaiting → Allowed record actor none .externalApiSend) (env : Environment) :
    ∃ saved next, (Exchange.step service repository
        ⟨.onProject (lane.request projectId hne) authorization, env, env⟩).get projectId =
          some saved ∧ OnLane next saved ∧
      (next = .completed ∨ lane = .awaiting ∧ (next = .sentBack ∨ next = .reviewed)) := by
  have hid := lane.request_projectId hne
  have hlogged : OnLane lane (recordAuthenticationSuccess env.runtime actor record) := h.of_state rfl
  let logged := recordAuthenticationSuccess env.runtime actor record
  let operation := (lane.request projectId hne).operation actor
  have hprovider : env.runtime.getTrendProvider "mock" = .ok mockTrendProvider := by
    rw [Environment.runtime_getTrendProvider, getTrendProvider_mock]
  have hsaves : ∃ saved next, savedBy (operation.body env.runtime logged) = some saved ∧
      OnLane next saved ∧
      (next = .completed ∨ lane = .awaiting ∧ (next = .sentBack ∨ next = .reviewed)) := by
    cases lane with
    | completed => exact absurd rfl hlane
    | replanned =>
        obtain ⟨saved, hsaved, hcompleted⟩ : ∃ saved,
            savedBy (operation.body env.runtime logged) = some saved ∧ OnLane .completed saved :=
          hlogged.restarted rfl hprovider mockTrendProvider_answers rfl
        exact ⟨saved, .completed, hsaved, hcompleted, .inl rfl⟩
    | sentBack =>
        obtain ⟨saved, hsaved, hcompleted⟩ : ∃ saved,
            savedBy (operation.body env.runtime logged) = some saved ∧ OnLane .completed saved :=
          hlogged.revised (.inl rfl) nofun rfl hprovider mockTrendProvider_answers rfl
        exact ⟨saved, .completed, hsaved, hcompleted, .inl rfl⟩
    | reviewed =>
        obtain ⟨saved, hsaved, hcompleted⟩ : ∃ saved,
            savedBy (operation.body env.runtime logged) = some saved ∧ OnLane .completed saved :=
          hlogged.revised (.inr rfl) nofun rfl hprovider mockTrendProvider_answers rfl
        exact ⟨saved, .completed, hsaved, hcompleted, .inl rfl⟩
    | awaiting =>
        have hactor : ∀ actionType ∈ (approvalActionState logged).pendingActionTypes,
            Allowed logged actor none actionType := by
          rw [hlogged.pendingActionTypes]
          intro actionType hmem
          rw [Finset.mem_singleton.mp hmem]
          exact hallowed rfl
        have hreason : normalizeText "Rejected." ≠ "" := by decide
        obtain ⟨saved, hsaved, hstatus⟩ : ∃ saved,
            savedBy (operation.body env.runtime logged) = some saved ∧
              saved.project.status = .revisionRequested :=
          rejectApproval_unnamed hlogged.status hlogged.exists_pending rfl hreason hactor
        obtain ⟨next, -, hnext⟩ := saved_lane hlogged hsaved
        exact ⟨saved, next, hsaved, hnext,
          .inr ⟨rfl, Lane.eq_revision (hnext.status.symm.trans hstatus)⟩⟩
  obtain ⟨saved, next, hsaved, hnext, hcases⟩ := hsaves
  refine ⟨saved, next, ?_, hnext, hcases⟩
  rw [← hid] at hget
  have hstored := get_of_request haccepted hget hsaved
  rw [hid] at hstored
  exact hstored

variable (service) (repository) (projectId) in
/-- The requests complete the project, and none of them is a run that draws its id again. -/
def Completes (later : List Exchange) : Prop :=
  (∀ exchange ∈ later, ∀ payload, exchange.request = .orchestratorRun payload →
    exchange.execution.projectUuid ≠ projectId) ∧
  ∃ saved, (Runs.after (Exchange.step service) repository later).get projectId = some saved ∧
    saved.project.status = .completed

/-- At most two requests complete the project. -/
theorem OnLane.completes (h : OnLane lane record) (hget : repository.get projectId = some record)
    (hne : projectId ≠ "") (haccepted : service.resolveActor authorization = .ok actor)
    (hallowed : lane = .awaiting → Allowed record actor none .externalApiSend) :
    ∃ later, later.length ≤ 2 ∧ Completes service repository projectId later := by
  let env : Environment := { projectUuid := "", approvalUuid := "" }
  let request (lane : Lane) : Exchange :=
    ⟨.onProject (lane.request projectId hne) authorization, env, env⟩
  have hkeeps : ∀ lanes : List Lane, ∀ exchange ∈ lanes.map request, ∀ payload,
      exchange.request = .orchestratorRun payload → exchange.execution.projectUuid ≠ projectId := by
    intro lanes exchange hmem payload hrun
    obtain ⟨lane, -, rfl⟩ := List.mem_map.mp hmem
    cases hrun
  by_cases hlane : lane = .completed
  · refine ⟨[], Nat.zero_le _, hkeeps [], record, hget, ?_⟩
    rw [h.status, hlane]
    rfl
  · obtain ⟨saved, next, hsaved, hnext, hcases⟩ :=
      h.requested hget hne hlane haccepted hallowed env
    rcases hcases with rfl | ⟨-, hrevision⟩
    · exact ⟨[lane].map request, Nat.le_succ 1, hkeeps [lane], saved, hsaved, hnext.status⟩
    · have hopen : next ≠ .completed ∧ next ≠ .awaiting := by
        rcases hrevision with rfl | rfl <;> decide
      obtain ⟨saved', last, hsaved', hlast, hcases⟩ :=
        hnext.requested hsaved hne hopen.1 haccepted (fun he => absurd he hopen.2) env
      rcases hcases with rfl | ⟨hawaiting, -⟩
      · exact ⟨[lane, next].map request, Nat.le_refl 2, hkeeps [lane, next], saved', hsaved',
          hlast.status⟩
      · exact absurd hawaiting hopen.2

/-! ## Projects that nobody can complete -/

/-- A decision of an actor whom the policy does not allow to make it saves a log entry at most. -/
theorem OnLane.operation_denied (h : OnLane .awaiting record) {payload : ProtectedPayload}
    (hdenied : ¬ Allowed record actor none .externalApiSend) {rt : Runtime} {saved : ProjectRecord}
    (hsaved : savedBy ((payload.operation actor).body rt record) = some saved) :
    saved.state = record.state := by
  cases payload with
  | resumeApproval payload =>
      obtain ⟨-, hresumed⟩ := saved_resumeFromApproval hsaved
      cases hresumed with
      | denied denied saved => exact denied.state saved
      | partly checks grant missing some state edits =>
          exact absurd (h.missingActions_eq checks) missing
      | fully checks grant missing release executed saved =>
          exact absurd (grant.allowed _ (mem_sortedActions.mpr (h.mem_actionsToApprove missing)))
            hdenied
  | rejectApproval payload =>
      obtain ⟨-, hrejected⟩ := saved_rejectApproval hsaved
      cases hrejected with
      | denied denied saved => exact denied.state saved
      | rejected pending grant sentBack =>
          refine absurd (grant.allowed .externalApiSend (mem_sortedActions.mpr ?_)) hdenied
          rw [h.pendingActionTypes]
          exact Finset.mem_singleton_self _
  | resumeRevision payload =>
      obtain ⟨hstatus, -⟩ := saved_resumeFromRevision hsaved
      cases h.status.symm.trans hstatus
  | startReplanning payload =>
      obtain ⟨hstatus, -⟩ := saved_startReplanning hsaved
      cases h.status.symm.trans hstatus

variable (service) (record) in
/-- Whoever has a token finds the project waiting, and is not allowed to decide. -/
def Stuck : Prop :=
  ∀ authorization actor, service.resolveActor authorization = .ok actor →
    record.project.status = .waitingApproval ∧ ¬ Allowed record actor none .externalApiSend

/-- The stored record after a call: the one that was stored, or the one that the call saves. -/
theorem get_step_cases (call : Call) (hget : repository.get projectId = some record) :
    (call.step repository).get projectId = some record ∨
    ∃ saved, call.projectId = projectId ∧ call.saves (some record) = some saved ∧
      (call.step repository).get projectId = some saved := by
  have hloaded : ∀ stored, repository.get call.projectId = some stored →
      stored.project.id = call.projectId := fun stored => InMemoryProjectRepository.id_of_get
  rw [Call.step_eq, Call.outcome_saved]
  by_cases hid : call.projectId = projectId
  · rw [hid, hget]
    rw [hid, hget] at hloaded
    cases hsaves : call.saves (some record) with
    | none => exact .inl hget
    | some saved =>
        refine .inr ⟨saved, rfl, rfl, ?_⟩
        have hsavedId : saved.project.id = projectId :=
          (Call.saves_id (hid ▸ hloaded) hsaves).trans hid
        rw [← hsavedId]
        exact InMemoryProjectRepository.get_save_self _ _
  · refine .inl (Eq.trans ?_ hget)
    refine InMemoryProjectRepository.get_saveSome_of_ne _ fun saved hsaves he => hid ?_
    rw [← Call.saves_id hloaded hsaves, he]

/-- A call of a request leaves the parts of a stuck project as they are. -/
theorem Stuck.call (hstuck : Stuck service record) (h : OnLane lane record)
    (hget : repository.get projectId = some record) {exchange : Exchange} {call : Call}
    (hcall : CallOf service exchange call)
    (hkeeps : ∀ payload, exchange.request = .orchestratorRun payload →
      exchange.execution.projectUuid ≠ projectId) :
    ∃ saved, (call.step repository).get projectId = some saved ∧ saved.state = record.state := by
  rcases get_step_cases call hget with hkept | ⟨saved, hid, hsaves, hstored⟩
  · exact ⟨record, hkept, rfl⟩
  · refine ⟨saved, hstored, ?_⟩
    cases hcall with
    | run request => exact absurd hid (hkeeps _ request)
    | failure request refused => exact (Option.some.inj hsaves) ▸ rfl
    | success request accepted => exact (Option.some.inj hsaves) ▸ rfl
    | operation request accepted =>
        obtain ⟨hwaiting, hdenied⟩ := hstuck _ _ accepted
        have hlane := Lane.eq_awaiting (h.status.symm.trans hwaiting)
        subst hlane
        exact h.operation_denied hdenied hsaves

theorem Stuck.of_state (hstuck : Stuck service record) {saved : ProjectRecord}
    (hstate : saved.state = record.state) : Stuck service saved := by
  have hproject := ProjectRecord.project_of_state hstate
  intro authorization actor haccepted
  rw [Allowed, hproject]
  exact hstuck authorization actor haccepted

/-- The stored record of the project is in the state of the given one. -/
def StoredInState (projectId : String) (record : ProjectRecord)
    (repository : InMemoryProjectRepository) : Prop :=
  ∃ saved, repository.get projectId = some saved ∧ saved.state = record.state

/-- So does a run of requests. -/
theorem Stuck.after (hstuck : Stuck service record) (h : OnLane lane record)
    (hget : repository.get projectId = some record) {later : List Exchange}
    (hkeeps : ∀ exchange ∈ later, ∀ payload, exchange.request = .orchestratorRun payload →
      exchange.execution.projectUuid ≠ projectId) :
    StoredInState projectId record (Runs.after (Exchange.step service) repository later) := by
  refine Runs.invariant_of_steps ⟨record, hget, rfl⟩ (fun repository exchange hinv hkeep => ?_) later
    (.of_forall hkeeps)
  rw [Exchange.step_eq_calls]
  refine Runs.invariant_of_steps hinv (fun repository call hinv hcall => ?_) (exchange.calls service)
    (.of_forall fun call hmem => exchange.mem_calls service hmem)
  obtain ⟨saved, hsaved, hstate⟩ := hinv
  obtain ⟨saved', hsaved', hstate'⟩ :=
    (hstuck.of_state hstate).call (h.of_state hstate) hsaved hcall hkeep
  exact ⟨saved', hsaved', hstate'.trans hstate⟩

/-- Later requests can complete a stored project if and only if it is completed, or some token of the
    service belongs to an actor who, should the project wait for an approval, is allowed to decide
    about the external send. -/
theorem recoverable_iff {exchanges : List Exchange}
    (hget : (afterExchanges service exchanges).get projectId = some record) (hne : projectId ≠ "") :
    (∃ later, Completes service (afterExchanges service exchanges) projectId later) ↔
      record.project.status = .completed ∨
      ∃ authorization actor, service.resolveActor authorization = .ok actor ∧
        (record.project.status = .waitingApproval → Allowed record actor none .externalApiSend) := by
  have hcalls := hget
  rw [afterExchanges_eq_afterCalls] at hcalls
  obtain ⟨lane, h⟩ := stored_lane hcalls
  constructor
  · rintro ⟨later, hkeeps, saved, hsaved, hcompleted⟩
    by_contra hnot
    obtain ⟨hopen, hnobody⟩ := not_or.mp hnot
    have hblocked : Stuck service record := fun authorization actor haccepted =>
      Classical.not_imp.mp fun hallowed => hnobody ⟨authorization, actor, haccepted, hallowed⟩
    obtain ⟨stuck, hstuck, hstate⟩ := hblocked.after h hget hkeeps
    have hsame := Option.some.inj (hsaved.symm.trans hstuck)
    subst hsame
    rw [ProjectRecord.project_of_state hstate] at hcompleted
    exact hopen hcompleted
  · rintro (hcompleted | ⟨authorization, actor, haccepted, hallowed⟩)
    · exact ⟨[], fun _ hmem => absurd hmem List.not_mem_nil, record, hget, hcompleted⟩
    · have hawaiting : lane = .awaiting → Allowed record actor none .externalApiSend := by
        rintro rfl
        exact hallowed h.status
      obtain ⟨later, -, hcompletes⟩ := h.completes hget hne haccepted hawaiting
      exact ⟨later, hcompletes⟩

/-- The owner can complete a project that waits. -/
theorem recoverable_iff_waiting :
    ∃ later, Completes sampleAuthService (afterExchanges sampleAuthService [sampleRunExchange]) "p"
      later := by
  have hstored : ((afterExchanges sampleAuthService [sampleRunExchange]).get "p").any (fun record =>
      Allowed record ⟨"owner-1", .owner, .human⟩ none .externalApiSend) = true := by decide +kernel
  obtain ⟨record, hget, hallowed⟩ := (Option.any_eq_true _ _).mp hstored
  have haccepted : sampleAuthService.resolveActor (some "Bearer dev-owner-token") =
      .ok ⟨"owner-1", .owner, .human⟩ := by decide +kernel
  exact (recoverable_iff hget (by decide)).mpr
    (.inr ⟨_, _, haccepted, fun _ => of_decide_eq_true hallowed⟩)

end Requests

end CodexOrchestrator
