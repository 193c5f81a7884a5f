import CodexOrchestrator.Api.Routes
import CodexOrchestrator.Atomicity
import CodexOrchestrator.Authentication
import CodexOrchestrator.Orchestrator.Answers

/-!
# ApiContract — status codes, and what a response says about the store

Every request is answered with 200, 401, 403, 404 or 409.  A request that is refused adds to the log
of its project and changes nothing else; a request that is answered shows the record that is stored.
-/

open PyText Raise

namespace CodexOrchestrator

/-! ## When a request is refused -/

/-- The policy of the project denies the actor a decision that the payload asks for. -/
inductive Forbidden (loaded : ProjectRecord) (actor : ActorContext) : ProtectedPayload → Prop where
  | approval {payload : ApprovalResumeRequest} {requested : Finset ApprovalActionType}
      {actionType : ApprovalActionType} (waiting : loaded.project.status = .waitingApproval)
      (checks : ApprovalChecks { approvedActions := payload.approvedActions.map .text } loaded
        requested)
      (needed : actionType ∈ actionsToApprove loaded requested)
      (denied : ¬ Allowed loaded actor none actionType) :
      Forbidden loaded actor (.resumeApproval payload)
  | rejection {payload : ApprovalRejectRequest} {named : Finset ApprovalActionType}
      {actionType : ApprovalActionType} (waiting : loaded.project.status = .waitingApproval)
      (reason : normalizeText payload.reason ≠ "")
      (parsed : parseApprovedActions (payload.rejectedActions.map .text) = .ok named)
      (subset : (if named = ∅ then (approvalActionState loaded).pendingActionTypes else named) ⊆
        (approvalActionState loaded).pendingActionTypes)
      (needed : actionType ∈ (approvalActionState loaded).pendingActionTypes)
      (denied : ¬ Allowed loaded actor none actionType) :
      Forbidden loaded actor (.rejectApproval payload)

section Requests

variable (authService : DevTokenAuthService) (repository : InMemoryProjectRepository)

/-- A decision that the actor of the token may not make. -/
def ApiRequest.Denied : ApiRequest → Prop
  | .onProject payload authorization => ∃ actor loaded,
      authService.resolveActor authorization = .ok actor ∧
        repository.get payload.projectId = some loaded ∧ Forbidden loaded actor payload
  | _ => False

end Requests

section Denials

variable {rt : Runtime} {actor : ActorContext} {loaded : ProjectRecord}
  {allowList : Option (Dict (List String))} {actions : Finset ApprovalActionType}

variable (rt) in
theorem authorizeActionsOrRaise_raises {actionType : ApprovalActionType} (hmem : actionType ∈ actions)
    (hdenied : ¬ Allowed loaded actor allowList actionType) :
    ∃ abort, authorizeActionsOrRaise rt loaded actor actions allowList = .error abort := by
  cases h : authorizeActionsOrRaise rt loaded actor actions allowList with
  | error abort => exact ⟨abort, rfl⟩
  | ok granted =>
      have hgranted := granted_of_authorizeEach rt h
      exact absurd (hgranted.allowed actionType (mem_sortedActions.mpr hmem)) hdenied

/-- The operation of a forbidden payload is denied, and no other operation is. -/
theorem deniedIn_iff_forbidden (rt : Runtime) (loaded : ProjectRecord) (actor : ActorContext)
    (payload : ProtectedPayload) :
    (∃ abort, DeniedIn rt loaded abort (payload.operation actor)) ↔
      Forbidden loaded actor payload := by
  constructor
  · rintro ⟨abort, h⟩
    cases payload with
    | resumeApproval payload =>
        cases h with
        | @approval _ requested waiting checks raised =>
            obtain ⟨actionType, hmem, hnot, -⟩ := (denied_of_authorizeNewActions rt raised).denied
            exact .approval waiting ⟨checks.parsed, checks.nonempty, checks.pending, checks.known,
              checks.notRejected⟩ (mem_sortedActions.mp hmem) hnot
    | rejectApproval payload =>
        cases h with
        | @rejection _ named waiting reason pending parsed subset raised =>
            obtain ⟨actionType, hmem, hnot, -⟩ := (denied_of_authorizeEach rt raised).denied
            exact .rejection waiting reason parsed subset (mem_sortedActions.mp hmem) hnot
    | resumeRevision payload => cases h
    | startReplanning payload => cases h
  · intro h
    cases h with
    | @approval payload requested actionType waiting checks needed denied =>
        obtain ⟨abort, hraised⟩ := authorizeActionsOrRaise_raises rt needed denied
        refine ⟨abort, .approval waiting ⟨checks.parsed, checks.nonempty, checks.pending,
          checks.known, checks.notRejected⟩ ?_⟩
        unfold authorizeNewActions
        rw [if_neg (Finset.ne_empty_of_mem needed)]
        exact hraised
    | @rejection payload named actionType waiting reason parsed subset needed denied =>
        obtain ⟨abort, hraised⟩ := authorizeActionsOrRaise_raises rt needed denied
        obtain ⟨approval, hmem, hstatus, -⟩ := mem_approvalActionTypes.mp needed
        exact ⟨abort, .rejection waiting reason ⟨approval, hmem, hstatus⟩ parsed subset hraised⟩

/-- The log of the authentication makes no difference to a denial. -/
theorem forbidden_authenticated {payload : ProtectedPayload} (actor' : ActorContext) :
    Forbidden (recordAuthenticationSuccess rt actor' loaded) actor payload ↔
      Forbidden loaded actor payload := by
  constructor
  · intro h
    cases h with
    | approval waiting checks needed denied =>
        exact .approval waiting ⟨checks.parsed, checks.nonempty, checks.pending, checks.known,
          checks.notRejected⟩ needed denied
    | rejection waiting reason parsed subset needed denied =>
        exact .rejection waiting reason parsed subset needed denied
  · intro h
    cases h with
    | approval waiting checks needed denied =>
        exact .approval waiting ⟨checks.parsed, checks.nonempty, checks.pending, checks.known,
          checks.notRejected⟩ needed denied
    | rejection waiting reason parsed subset needed denied =>
        exact .rejection waiting reason parsed subset needed denied

end Denials

/-! ## One protected request -/

/-- How a protected request with an accepted token ends on a stored project: refused with a conflict,
    denied, or answered with the record that is stored. -/
inductive Served (repository : InMemoryProjectRepository) (authenticated : ProjectRecord)
    (denied : Prop) : InMemoryProjectRepository → ApiResponse → Prop where
  | conflict (allowed : ¬ denied) (message : String) :
      Served repository authenticated denied (repository.save authenticated)
        ⟨409, .detail message⟩
  | denial (refused : denied) {stored' : ProjectRecord} {entries : List HistoryEvent}
      {failed : HistoryEvent}
      (logged : stored' =
        { authenticated with events := authenticated.events ++ (entries ++ [failed]) })
      (grants : ∀ event ∈ entries, event.eventType.isGrant = true)
      (type : failed.eventType = .authorizationFailed) (message : String) :
      Served repository authenticated denied
        ((repository.save authenticated).save stored') ⟨403, .detail message⟩
  | answer (allowed : ¬ denied) {completion : Completion}
      (shows : completion.Shows authenticated)
      (saved : ∀ record, completion.saved = some record →
        record.project.id = authenticated.project.id) :
      Served repository authenticated denied
        ((repository.save authenticated).saveSome completion.saved) ⟨200, .result completion.result⟩

section Serve

variable (authService : DevTokenAuthService) (repository : InMemoryProjectRepository)
  {payload : ProtectedPayload} {authorization : Option String} (authentication execution : Environment)

theorem serve_unauthenticated {exc : PyError}
    (hauth : authService.resolveActor authorization = .error exc) :
    serve authService repository ⟨.onProject payload authorization, authentication, execution⟩ =
      (repository.saveSome ((repository.get payload.projectId).map
          (recordAuthenticationFailure authentication.runtime (strOf exc))),
        ⟨401, .detail (strOf exc)⟩) := by
  obtain ⟨message, rfl⟩ := exists_authenticationError hauth
  simp only [serve, handle, runProtectedOrchestratorAction, runWithAuthenticatedActor,
    resolveAuthenticatedActor, hauth]
  rfl

variable {actor : ActorContext} (hauth : authService.resolveActor authorization = .ok actor)

include hauth

theorem serve_unknown (hget : repository.get payload.projectId = none) :
    serve authService repository ⟨.onProject payload authorization, authentication, execution⟩ =
      (repository, ⟨404, .detail ("Project not found: " ++ payload.projectId)⟩) := by
  have hsame : (perform authentication.runtime repository
      (.recordAuthenticationSuccess payload.projectId actor)).1 = repository := by
    rw [perform, Operation.outcome, hget]
    rfl
  simp only [serve, handle, runProtectedOrchestratorAction, runWithAuthenticatedActor,
    resolveAuthenticatedActor, hauth, performAtRoute, hsame, perform_unknown _ _ hget]
  rfl

theorem serve_known {loaded : ProjectRecord} (hget : repository.get payload.projectId = some loaded) :
    Served repository (recordAuthenticationSuccess authentication.runtime actor loaded)
      (Forbidden loaded actor payload)
      (serve authService repository ⟨.onProject payload authorization, authentication, execution⟩).1
      (serve authService repository
        ⟨.onProject payload authorization, authentication, execution⟩).2 := by
  let authenticated := recordAuthenticationSuccess authentication.runtime actor loaded
  have hid : payload.projectId = authenticated.project.id :=
    (InMemoryProjectRepository.id_of_get hget).symm
  have hrecorded : (perform authentication.runtime repository
      (.recordAuthenticationSuccess payload.projectId actor)).1 =
        repository.save authenticated := by
    rw [perform, Operation.outcome, hget]
    rfl
  have hstored : (repository.save authenticated).get payload.projectId = some authenticated := by
    rw [hid, InMemoryProjectRepository.get_save_self]
  have hforbidden := deniedIn_iff_forbidden execution.runtime authenticated actor payload
  rw [forbidden_authenticated] at hforbidden
  have hshows := ProjectOperation.shows execution.deployed (payload.operation actor) authenticated
  simp only [serve, handle, runProtectedOrchestratorAction, runWithAuthenticatedActor,
    resolveAuthenticatedActor, hauth, performAtRoute, hrecorded,
    perform_onProject execution.runtime _ hstored]
  cases hbody : (payload.operation actor).body execution.runtime authenticated with
  | ok completion =>
      have hallowed : ¬ Forbidden loaded actor payload := by
        rw [← hforbidden]
        rintro ⟨abort, hdenied⟩
        rw [hdenied.body_eq] at hbody
        cases hbody
      refine .answer hallowed (hshows.returns completion hbody) fun record hsaved => ?_
      exact (ProjectOperation.saved_edits (by rw [hbody]; exact hsaved)).projectId
  | error abort =>
      rcases hshows.raises abort hbody with ⟨hnone, message, herror⟩ | ⟨⟨saved, hsome⟩, message, herror⟩
      · have hallowed : ¬ Forbidden loaded actor payload := by
          rw [← hforbidden]
          rintro ⟨abort', hdenied⟩
          obtain ⟨_, _, _, -, hd⟩ := hdenied.denied
          obtain ⟨_, _, hsaved, -⟩ := hd.saved
          rw [hdenied.body_eq] at hbody
          rw [Except.error.inj hbody, hnone] at hsaved
          cases hsaved
        have hserved : Served repository authenticated (Forbidden loaded actor payload) _ _ :=
          .conflict hallowed message
        simp only [savedBy, hnone, Outcome.of, herror]
        exact hserved
      · rcases ProjectOperation.error_cases hbody with hnone | hdenied
        · rw [hnone] at hsome
          cases hsome
        · obtain ⟨_, _, _, -, hd⟩ := hdenied.denied
          obtain ⟨entries, failed, hsaved, hgrants, htype⟩ := hd.saved
          have hserved : Served repository authenticated (Forbidden loaded actor payload) _ _ :=
            .denial (hforbidden.mp ⟨abort, hdenied⟩) rfl hgrants htype message
          simp only [savedBy, hsaved, Outcome.of, herror]
          exact hserved

end Serve

/-! ## Every request -/

section Contract

variable (authService : DevTokenAuthService) (repository : InMemoryProjectRepository)

/-- A run is refused with a conflict and stores nothing, or it shows the project that it stores. -/
theorem serve_run_cases (payload : OrchestratorRunRequest) (authentication execution : Environment) :
    (∃ message, serve authService repository ⟨.orchestratorRun payload, authentication, execution⟩ =
      (repository, ⟨409, .detail message⟩)) ∨
    ∃ result, serve authService repository ⟨.orchestratorRun payload, authentication, execution⟩ =
        (repository.save result.record, ⟨200, .result result⟩) ∧
      ∃ nextSteps, result = summary result.record nextSteps := by
  have hshows := shows_run execution.deployed payload.args
  simp only [serve, handle, runOrchestratorAction, performAtRoute, perform_run]
  cases hrun : CodexOrchestrator.run execution.runtime payload.args with
  | error abort =>
      obtain ⟨hnone, message, herror⟩ := hshows.raises abort hrun
      left
      refine ⟨message, ?_⟩
      simp only [savedBy, hnone, Outcome.of, herror]
      rfl
  | ok completion =>
      obtain ⟨record, nextSteps, hsaved, hresult⟩ := hshows.returns completion hrun
      right
      refine ⟨completion.result, ?_, nextSteps, ?_⟩
      · simp only [savedBy, hsaved, Outcome.of, hresult]
        rfl
      · rw [hresult]
        rfl

theorem serve_audit_unknown {projectId : String} (authentication execution : Environment)
    (hget : repository.get projectId = none) :
    serve authService repository ⟨.projectAudit projectId, authentication, execution⟩ =
      (repository, ⟨404, .detail ("Project not found: " ++ projectId)⟩) := by
  simp only [serve, handle, runOrchestratorAction, getProjectAudit, hget]
  rfl

theorem serve_audit_known {projectId : String} {record : ProjectRecord}
    (authentication execution : Environment) (hget : repository.get projectId = some record) :
    serve authService repository ⟨.projectAudit projectId, authentication, execution⟩ =
      (repository, ⟨200, .audit (auditOf record)⟩) := by
  simp only [serve, handle, runOrchestratorAction, getProjectAudit, hget]
  rfl

/-- The project a request names. -/
def ApiRequest.projectId? : ApiRequest → Option String
  | .onProject payload _ => some payload.projectId
  | .projectAudit projectId => some projectId
  | _ => none

theorem authenticated_eq (rt : Runtime) (actor : ActorContext) (loaded : ProjectRecord) :
    ∃ succeeded resolved, recordAuthenticationSuccess rt actor loaded =
        { loaded with events := loaded.events ++ [succeeded, resolved] } ∧
      succeeded.eventType = .authenticationSucceeded ∧ succeeded.actorContext = actor ∧
      resolved.eventType = .actorResolved ∧ resolved.actorContext = actor := by
  obtain ⟨succeeded, hsucceeded, htype, hactor, -⟩ := recordEvent_log rt loaded
    .authenticationSucceeded actor "Authentication succeeded." []
  obtain ⟨resolved, hresolved, htype', hactor', -⟩ := recordEvent_log rt
    { loaded with events := loaded.events ++ [succeeded] } .actorResolved actor
    "Actor resolved from authentication context." []
  refine ⟨succeeded, resolved, ?_, htype, hactor, htype', hactor'⟩
  unfold recordAuthenticationSuccess
  rw [hsucceeded, hresolved, List.append_assoc]
  rfl

/-- The body of an answer shows the record that is stored after the request. -/
def ShownRecord (repository : InMemoryProjectRepository) (result : OrchestrationResult) : Prop :=
  repository.get result.record.project.id = some result.record ∧
    ∃ nextSteps, result = summary result.record nextSteps

/-- What the body of an answer says about the store: the record of the project that the request is
    about, or nothing. -/
def AnswerShows (before after : InMemoryProjectRepository) : ApiRequest → Body → Prop
  | .health, .health status => after = before ∧ status = "ok"
  | .intakeBrief payload, .brief result => after = before ∧ result = buildBrief payload.userRequest
  | .orchestratorRun _, .result result => ShownRecord after result
  | .onProject payload _, .result result =>
      ShownRecord after result ∧ result.record.project.id = payload.projectId
  | .projectAudit projectId, .audit audit =>
      after = before ∧ ∃ record, before.get projectId = some record ∧ audit = auditOf record
  | _, _ => False

/-- A request that is answered with 200 shows what is stored when the answer is sent: the record of
    its project with its status and its counts, or the audit of the record as it was. -/
theorem answered_request_shows (exchange : Exchange)
    (hanswered : (serve authService repository exchange).2.statusCode = 200) :
    AnswerShows repository (serve authService repository exchange).1 exchange.request
      (serve authService repository exchange).2.body := by
  obtain ⟨request, authentication, execution⟩ := exchange
  cases request with
  | health => exact ⟨rfl, rfl⟩
  | intakeBrief payload => exact ⟨rfl, rfl⟩
  | orchestratorRun payload =>
      rcases serve_run_cases authService repository payload authentication execution with
        ⟨message, h⟩ | ⟨result, h, hshown⟩
      · rw [h] at hanswered
        cases hanswered
      · rw [h]
        exact ⟨InMemoryProjectRepository.get_save_self _ _, hshown⟩
  | projectAudit projectId =>
      cases hget : repository.get projectId with
      | none =>
          rw [serve_audit_unknown authService repository authentication execution hget] at hanswered
          cases hanswered
      | some record =>
          rw [serve_audit_known authService repository authentication execution hget]
          exact ⟨rfl, record, hget, rfl⟩
  | onProject payload authorization =>
      cases hauth : authService.resolveActor authorization with
      | error exc =>
          rw [serve_unauthenticated authService repository authentication execution hauth]
            at hanswered
          cases hanswered
      | ok actor =>
          cases hget : repository.get payload.projectId with
          | none =>
              rw [serve_unknown authService repository authentication execution hauth hget]
                at hanswered
              cases hanswered
          | some loaded =>
              have hid := InMemoryProjectRepository.id_of_get hget
              have hcases := serve_known authService repository authentication execution hauth hget
              generalize serve authService repository _ = served at hcases hanswered ⊢
              obtain ⟨repository', response⟩ := served
              cases hcases with
              | conflict allowed message => cases hanswered
              | denial refused logged grants type message => cases hanswered
              | @answer allowed completion shows saved =>
                  obtain ⟨nextSteps, hresult⟩ := shows
                  -- the record that the call saved, or the one that the authentication saved
                  rw [hresult]
                  cases hsaved : completion.saved with
                  | none =>
                      exact ⟨⟨InMemoryProjectRepository.get_save_self _ _, nextSteps, rfl⟩, hid⟩
                  | some record =>
                      exact ⟨⟨InMemoryProjectRepository.get_save_self _ _, nextSteps, rfl⟩,
                        (saved record hsaved).trans hid⟩

theorem answered_request_shows_owner :
    ∃ repository exchange, (serve sampleAuthService repository exchange).2.statusCode = 200 ∧
      exchange.request.projectId? = some "p" ∧
      AnswerShows repository (serve sampleAuthService repository exchange).1 exchange.request
        (serve sampleAuthService repository exchange).2.body :=
  ⟨afterExchanges sampleAuthService [sampleRunExchange], sampleApprovalExchange "dev-owner-token",
    by decide +kernel, rfl,
    answered_request_shows sampleAuthService (afterExchanges sampleAuthService [sampleRunExchange])
      (sampleApprovalExchange "dev-owner-token") (by decide +kernel)⟩

end Contract

end CodexOrchestrator
