import CodexOrchestrator.Intake
import CodexOrchestrator.Orchestrator.System
import CodexOrchestrator.Services.Auth

/-!
# Routes — the HTTP interface of the orchestrator

`app/api/routes.py` and `app/schemas/api.py`.  A handler gets the orchestrator and the authentication
service that are bound to the application; it is a function from the repository of the orchestrator
to the repository after the request, and the response or the exception that leaves the route.
-/

open PyText

namespace CodexOrchestrator

/-! ## Payloads

The `min_length` of a field is a fact that the payload carries: another payload is answered with 422
before the handler runs. -/

structure IntakeBriefRequest where
  userRequest : String
  userRequest_ne : userRequest ≠ ""

structure OrchestratorRunRequest where
  brief : ProjectBrief
  projectPolicy : Option ProjectPolicy := none
  trendProvider : String := "mock"
  approvedActions : List String := []
  simulateReviewFailure : Bool := false

structure ApprovalResumeRequest where
  projectId : String
  approvedActions : List String := []
  actor : Option ActorContext := none
  note : String := ""
  trendProvider : String := "mock"
  projectId_ne : projectId ≠ ""

structure ApprovalRejectRequest where
  projectId : String
  rejectedActions : List String := []
  actor : Option ActorContext := none
  reason : String
  note : String := ""
  projectId_ne : projectId ≠ ""
  reason_ne : reason ≠ ""

structure RevisionResumeRequest where
  projectId : String
  resumeMode : RevisionResumeMode
  actor : Option ActorContext := none
  reason : String := ""
  trendProvider : String := "mock"
  approvedActions : List String := []
  projectId_ne : projectId ≠ ""

structure ReplanningStartRequest where
  projectId : String
  actor : Option ActorContext := none
  note : String := ""
  trendProvider : String := "mock"
  approvedActions : List String := []
  resetDownstreamTasks : Bool := true
  projectId_ne : projectId ≠ ""

structure ProjectAudit where
  projectId : String
  status : ProjectStatus
  history : List String := []
  events : List HistoryEvent := []
  approvals : List ApprovalRequest := []
  reviews : List Review := []
  checkpoints : List Checkpoint := []

/-- A payload of one of the four endpoints that ask for a bearer token. -/
inductive ProtectedPayload where
  | resumeApproval (payload : ApprovalResumeRequest)
  | rejectApproval (payload : ApprovalRejectRequest)
  | resumeRevision (payload : RevisionResumeRequest)
  | startReplanning (payload : ReplanningStartRequest)

inductive ApiRequest where
  | health
  | intakeBrief (payload : IntakeBriefRequest)
  | orchestratorRun (payload : OrchestratorRunRequest)
  | onProject (payload : ProtectedPayload) (authorization : Option String)
  | projectAudit (projectId : String)

inductive Body where
  | health (status : String)
  | brief (result : IntakeResult)
  | result (result : OrchestrationResult)
  | audit (audit : ProjectAudit)
  | detail (message : String)
  | null

structure ApiResponse where
  statusCode : Nat
  body : Body

/-! ## Exceptions -/

/-- What a route raises: an `HTTPException`, or an exception of the code it calls. -/
inductive RouteException where
  | http (statusCode : Nat) (detail : String)
  | raised (exc : PyError)

/-- `str(exc)`. -/
def strOf : PyError → String
  | .valueError message => message
  | .lookupError message => message
  | .permissionError message => message
  | .keyError key => repr key
  | .other _ message => message

def mapExceptionToHttpException : RouteException → Option (Nat × String)
  | .http statusCode detail => some (statusCode, detail)
  | .raised exc =>
      match exc with
      | .lookupError _ => some (404, strOf exc)
      -- `KeyError` is a `LookupError`
      | .keyError _ => some (404, strOf exc)
      | .permissionError _ => some (403, strOf exc)
      | .valueError _ => some (409, strOf exc)
      | .other className _ =>
          if className = "AuthenticationError" then some (401, strOf exc) else none

def raiseRouteHttpError (exc : RouteException) : RouteException :=
  match mapExceptionToHttpException exc with
  | some (statusCode, detail) => .http statusCode detail
  | none => exc

/-- `_run_with_route_error_mapping`, for what the action did. -/
def runWithRouteErrorMapping {α : Type} (action : Except RouteException α) :
    Except RouteException α :=
  action.mapError raiseRouteHttpError

/-- What the framework sends for the end of a route; an exception that is no `HTTPException` is an
    internal error. -/
def respond : Except RouteException Body → ApiResponse
  | .ok body => ⟨200, body⟩
  | .error (.http statusCode detail) => ⟨statusCode, .detail detail⟩
  | .error (.raised _) => ⟨500, .detail "Internal Server Error"⟩

/-! ## Handlers -/

section Handlers

variable (authService : DevTokenAuthService) (repository : InMemoryProjectRepository)

def resolveAuthenticatedActor (env : Environment) (authorization : Option String)
    (projectId : String) : InMemoryProjectRepository × Except RouteException ActorContext :=
  match authService.resolveActor authorization with
  | .ok actor =>
      ((perform env.runtime repository (.recordAuthenticationSuccess projectId actor)).1, .ok actor)
  | .error exc =>
      ((perform env.runtime repository (.recordAuthenticationFailure projectId (strOf exc))).1,
        .error (raiseRouteHttpError (.raised exc)))

/-- The answer of an operation, as the body of a response. -/
def Body.ofAnswer : Option OrchestrationResult → Body
  | some answer => .result answer
  | none => .null

/-- An operation of the orchestrator, at the end of a route. -/
def performAtRoute (env : Environment) (operation : Operation) :
    InMemoryProjectRepository × Except RouteException Body :=
  let performed := perform env.runtime repository operation
  (performed.1, (performed.2.mapError .raised).map Body.ofAnswer)

/-- What an action of a route does: the repository after it, and its value or exception. -/
abbrev RouteAction (α : Type) :=
  InMemoryProjectRepository → InMemoryProjectRepository × Except RouteException α

def runWithAuthenticatedActor (env : Environment) (authorization : Option String)
    (projectId : String) (action : ActorContext → RouteAction Body) :
    InMemoryProjectRepository × Except RouteException Body :=
  let authenticated := resolveAuthenticatedActor authService repository env authorization projectId
  match authenticated.2 with
  -- the exception is mapped a second time, which leaves an `HTTPException` as it is
  | .error exc => (authenticated.1, runWithRouteErrorMapping (.error exc))
  | .ok actor =>
      let performed := action actor authenticated.1
      (performed.1, runWithRouteErrorMapping performed.2)

def runProtectedOrchestratorAction (authentication execution : Environment)
    (authorization : Option String) (projectId : String)
    (action : ActorContext → ProjectOperation) :
    InMemoryProjectRepository × Except RouteException Body :=
  runWithAuthenticatedActor authService repository authentication authorization projectId
    fun actor repository => performAtRoute repository execution (.onProject projectId (action actor))

def runOrchestratorAction (action : RouteAction Body) :
    InMemoryProjectRepository × Except RouteException Body :=
  let performed := action repository
  (performed.1, runWithRouteErrorMapping performed.2)

/-- The fields of a record that its audit shows. -/
def auditOf (record : ProjectRecord) : ProjectAudit where
  projectId := record.project.id
  status := record.project.status
  history := record.history
  events := record.events
  approvals := record.approvals
  reviews := record.reviews
  checkpoints := record.checkpoints

def getProjectAudit (projectId : String) : Except PyError ProjectAudit :=
  match repository.get projectId with
  | none => .error (projectNotFound projectId)
  | some record => .ok (auditOf record)

end Handlers

def ProtectedPayload.projectId : ProtectedPayload → String
  | .resumeApproval payload => payload.projectId
  | .rejectApproval payload => payload.projectId
  | .resumeRevision payload => payload.projectId
  | .startReplanning payload => payload.projectId

/-- The operation of a protected endpoint.  The actor is the one of the token: `payload.actor` is not
    read, and no endpoint passes an allow-list. -/
def ProtectedPayload.operation (actor : ActorContext) : ProtectedPayload → ProjectOperation
  | .resumeApproval payload =>
      .resumeFromApproval {
        approvedActions := payload.approvedActions.map .text
        actor := .context actor
        note := payload.note
        trendProviderName := payload.trendProvider }
  | .rejectApproval payload =>
      .rejectApproval {
        rejectedActions := payload.rejectedActions.map .text
        actor := .context actor
        reason := payload.reason
        note := payload.note }
  | .resumeRevision payload =>
      .resumeFromRevision {
        resumeMode := payload.resumeMode
        actor := .context actor
        reason := payload.reason
        trendProviderName := payload.trendProvider
        approvedActions := payload.approvedActions.map .text }
  | .startReplanning payload =>
      .startReplanning {
        actor := .context actor
        note := payload.note
        trendProviderName := payload.trendProvider
        approvedActions := payload.approvedActions.map .text
        resetDownstreamTasks := payload.resetDownstreamTasks }

def OrchestratorRunRequest.args (payload : OrchestratorRunRequest) : RunArgs where
  brief := payload.brief
  projectPolicy := payload.projectPolicy
  trendProviderName := payload.trendProvider
  approvedActions := payload.approvedActions.map .text
  simulateReviewFailure := payload.simulateReviewFailure

/-! ## The server -/

/-- A request, with the environments of its two stages. -/
structure Exchange where
  request : ApiRequest
  authentication : Environment
  execution : Environment

/-- The handler of the endpoint, and the exception that leaves it. -/
def handle (authService : DevTokenAuthService) (repository : InMemoryProjectRepository)
    (exchange : Exchange) : InMemoryProjectRepository × Except RouteException Body :=
  match exchange.request with
  | .health => (repository, .ok (.health "ok"))
  | .intakeBrief payload => (repository, .ok (.brief (buildBrief payload.userRequest)))
  | .orchestratorRun payload =>
      runOrchestratorAction repository fun repository =>
        performAtRoute repository exchange.execution (.run payload.args)
  | .onProject payload authorization =>
      runProtectedOrchestratorAction authService repository exchange.authentication
        exchange.execution authorization payload.projectId payload.operation
  | .projectAudit projectId =>
      runOrchestratorAction repository fun repository =>
        (repository, ((getProjectAudit repository projectId).mapError .raised).map .audit)

def serve (authService : DevTokenAuthService) (repository : InMemoryProjectRepository)
    (exchange : Exchange) : InMemoryProjectRepository × ApiResponse :=
  let handled := handle authService repository exchange
  (handled.1, respond handled.2)

/-- The repository after a request. -/
def Exchange.step (authService : DevTokenAuthService) (repository : InMemoryProjectRepository)
    (exchange : Exchange) : InMemoryProjectRepository :=
  (serve authService repository exchange).1

/-- The repository of a new application after the given requests. -/
def afterExchanges (authService : DevTokenAuthService) (exchanges : List Exchange) :
    InMemoryProjectRepository :=
  Runs.after (Exchange.step authService) .new exchanges

/-! ## A sample server -/

def sampleAuthService : DevTokenAuthService := { tokenMap := parseTokenSeed none }

def sampleExchange (approvalUuid : String) (request : ApiRequest) : Exchange where
  request := request
  authentication := { projectUuid := "p", approvalUuid := approvalUuid }
  execution := { projectUuid := "p", approvalUuid := approvalUuid }

/-- A run that waits for the approval of the external send. -/
def sampleRunExchange : Exchange :=
  sampleExchange "1" (.orchestratorRun { brief := sampleBrief, trendProvider := "gemini" })

/-- The bearer of the token approves the external send. -/
def sampleApprovalExchange (token : String) : Exchange :=
  sampleExchange "2" (.onProject (.resumeApproval {
    projectId := "p"
    approvedActions := ["external_api_send"]
    trendProvider := "gemini"
    projectId_ne := by decide }) (some ("Bearer " ++ token)))

/-! ## The calls behind a request -/

/-- The calls of the orchestrator that a request makes, in order. -/
def Exchange.calls (authService : DevTokenAuthService) (exchange : Exchange) : List Call :=
  match exchange.request with
  | .health | .intakeBrief _ | .projectAudit _ => []
  | .orchestratorRun payload => [⟨.run payload.args, exchange.execution⟩]
  | .onProject payload authorization =>
      match authService.resolveActor authorization with
      | .error exc =>
          [⟨.recordAuthenticationFailure payload.projectId (strOf exc), exchange.authentication⟩]
      | .ok actor =>
          [⟨.recordAuthenticationSuccess payload.projectId actor, exchange.authentication⟩,
            ⟨.onProject payload.projectId (payload.operation actor), exchange.execution⟩]

/-- The project that a request is about, if it is about one. -/
def Exchange.project? (exchange : Exchange) : Option String :=
  match exchange.request with
  | .health | .intakeBrief _ => none
  | .orchestratorRun _ => some exchange.execution.projectUuid
  | .onProject payload _ => some payload.projectId
  | .projectAudit projectId => some projectId

/-- The calls of a request, one constructor a kind. -/
inductive CallOf (authService : DevTokenAuthService) (exchange : Exchange) : Call → Prop where
  | run {payload : OrchestratorRunRequest} (request : exchange.request = .orchestratorRun payload) :
      CallOf authService exchange ⟨.run payload.args, exchange.execution⟩
  | failure {payload : ProtectedPayload} {authorization : Option String} {exc : PyError}
      (request : exchange.request = .onProject payload authorization)
      (refused : authService.resolveActor authorization = .error exc) :
      CallOf authService exchange
        ⟨.recordAuthenticationFailure payload.projectId (strOf exc), exchange.authentication⟩
  | success {payload : ProtectedPayload} {authorization : Option String} {actor : ActorContext}
      (request : exchange.request = .onProject payload authorization)
      (accepted : authService.resolveActor authorization = .ok actor) :
      CallOf authService exchange
        ⟨.recordAuthenticationSuccess payload.projectId actor, exchange.authentication⟩
  | operation {payload : ProtectedPayload} {authorization : Option String} {actor : ActorContext}
      (request : exchange.request = .onProject payload authorization)
      (accepted : authService.resolveActor authorization = .ok actor) :
      CallOf authService exchange
        ⟨.onProject payload.projectId (payload.operation actor), exchange.execution⟩

section Calls

variable (authService : DevTokenAuthService)

theorem Exchange.mem_calls {exchange : Exchange} {call : Call}
    (h : call ∈ exchange.calls authService) : CallOf authService exchange call := by
  obtain ⟨request, authentication, execution⟩ := exchange
  cases request with
  | health => cases h
  | intakeBrief payload => cases h
  | projectAudit projectId => cases h
  | orchestratorRun payload =>
      rw [List.mem_singleton.mp h]
      exact .run rfl
  | onProject payload authorization =>
      cases hauth : authService.resolveActor authorization with
      | error exc =>
          simp only [calls, hauth] at h
          rw [List.mem_singleton.mp h]
          exact .failure rfl hauth
      | ok actor =>
          simp only [calls, hauth] at h
          rcases List.mem_cons.mp h with rfl | h
          · exact .success rfl hauth
          · rw [List.mem_singleton.mp h]
            exact .operation rfl hauth

/-- A request does to the repository what its calls do. -/
theorem Exchange.step_eq_calls (repository : InMemoryProjectRepository) (exchange : Exchange) :
    exchange.step authService repository =
      Runs.after Call.step repository (exchange.calls authService) := by
  obtain ⟨request, authentication, execution⟩ := exchange
  cases request with
  | health => rfl
  | intakeBrief payload => rfl
  | orchestratorRun payload => rfl
  | projectAudit projectId => rfl
  | onProject payload authorization =>
      simp only [step, serve, handle, runProtectedOrchestratorAction,
        runWithAuthenticatedActor, resolveAuthenticatedActor, calls]
      cases authService.resolveActor authorization with
      | error exc => rfl
      | ok actor => rfl

/-- Runs of the server are runs of the orchestrator. -/
theorem afterExchanges_eq_afterCalls (exchanges : List Exchange) :
    afterExchanges authService exchanges =
      afterCalls (exchanges.flatMap (Exchange.calls authService)) := by
  induction exchanges using List.reverseRecOn with
  | nil => rfl
  | append_singleton exchanges exchange ih =>
      rw [afterExchanges, Runs.after_concat, ← afterExchanges, ih, Exchange.step_eq_calls, afterCalls,
        afterCalls, Runs.after, Runs.after, Runs.after, ← List.foldl_append, List.flatMap_append,
        List.flatMap_singleton]

end Calls

end CodexOrchestrator
