import CodexOrchestrator.Authorization
import CodexOrchestrator.Lifecycle
import CodexOrchestrator.Orchestrator.Passes

/-!
# ExternalSend — who let the trend task use an external provider

The approved actions of a pass come from the stored requests on one route only, the approval of a
waiting project.  On the other routes the caller names them, and nobody is asked.  In a run in which
no caller names the external send on such a route for an external provider, every external trend
artifact stands next to a request that an authorized actor approved.
-/

open Raise

namespace CodexOrchestrator

/-- The provider that an artifact names. -/
def Artifact.provider? (artifact : Artifact) : Option String :=
  match artifact.content.lookup "provider" with
  | some (.str name) => some name
  | _ => none

/-- A trend artifact of a provider other than the mock. -/
def Artifact.isExternalTrend (artifact : Artifact) : Bool :=
  decide (artifact.artifactType = "trend_analysis") &&
    artifact.provider?.any fun name => decide (name ≠ "mock")

/-- The call starts a pass that runs an unfinished trend task with an external provider. -/
inductive RunsExternally (repository : InMemoryProjectRepository) (call : Call) : Prop where
  | run {args : RunArgs} {approved : Finset ApprovalActionType} {provider : TrendProvider}
      (operation : call.operation = .run args)
      (parsed : parseApprovedActions args.approvedActions = .ok approved)
      (supported : call.env.runtime.getTrendProvider args.trendProviderName = .ok provider)
      (named : .externalApiSend ∈ approved) (foreign : isMockProvider provider = false)
  | onProject {projectId : String} {operation : ProjectOperation} {record : ProjectRecord}
      {provider : TrendProvider} {approved : Finset ApprovalActionType} {tasks : List Task}
      (operation_eq : call.operation = .onProject projectId operation)
      (loaded : repository.get projectId = some record)
      (starts : Starts call.env.runtime record operation provider approved tasks)
      (named : .externalApiSend ∈ approved) (foreign : isMockProvider provider = false)
      (open_ : ∃ task ∈ tasks, task.department = .trend ∧ task.Unfinished)

/-- The call does so on a route on which the caller names the approved actions: on every route but
    the approval of a waiting project. -/
def SelfApproves (repository : InMemoryProjectRepository) (call : Call) : Prop :=
  RunsExternally repository call ∧
    ∀ projectId args, call.operation ≠ .onProject projectId (.resumeFromApproval args)

/-- The call approves a waiting project, and its actor is allowed to approve the external send. -/
def AllowedApproval (repository : InMemoryProjectRepository) (call : Call) : Prop :=
  ∃ projectId args record, call.operation = .onProject projectId (.resumeFromApproval args) ∧
    repository.get projectId = some record ∧
    Allowed record (coerceActor args.actor .approver) args.projectAllowedActorIdsByAction
      .externalApiSend

/-- The record holds an approved request for the external send, which was pending until a call
    approved it whose actor was allowed to do so. -/
def SendApproved (calls : List Call) (projectId : String) (record : ProjectRecord) : Prop :=
  ∃ (i : Nat) (request approval : ApprovalRequest) (args : ApprovalResumeArgs)
    (loaded saved : ProjectRecord),
    record.approvals[i]? = some approval ∧ approval.actionType = .externalApiSend ∧
    approval.status = .approved ∧
    CallOn calls projectId record (.resumeFromApproval args) loaded saved ∧
    loaded.approvals[i]? = some request ∧ request.status = .pending ∧
    saved.approvals[i]? = some approval ∧
    Allowed record (coerceActor args.actor .approver) args.projectAllowedActorIdsByAction
      .externalApiSend

/-! ## Providers -/

/-- The artifact of a trend answer names the provider that gave it. -/
theorem provider?_of_content {artifact : Artifact} {trend : TrendAnalysisResult}
    (h : artifact.content = trend.modelDump) : artifact.provider? = some trend.provider := by
  rw [Artifact.provider?, h]
  rfl

/-- Among the providers of the package, only the mock counts as mock. -/
theorem foreign_of_name {env : Environment} {name : String} {provider : TrendProvider}
    (h : env.runtime.getTrendProvider name = .ok provider) (hname : provider.name ≠ "mock") :
    isMockProvider provider = false := by
  rw [Environment.runtime_getTrendProvider] at h
  rcases getTrendProvider_cases h with rfl | rfl | rfl | rfl
  · exact absurd rfl hname
  · decide
  · decide
  · decide

/-- A new external artifact comes from an external provider that the pass was allowed to use. -/
theorem Executed.external {env : Environment} {name : String} {provider : TrendProvider}
    {approvedActionSet : Finset ApprovalActionType} {simulateReviewFailure : Bool}
    {r r' : ProjectRecord}
    (h : Executed env.runtime provider approvedActionSet simulateReviewFailure r r')
    (hprovider : env.runtime.getTrendProvider name = .ok provider) {artifact : Artifact}
    (hmem : artifact ∈ r'.artifacts) (hexternal : artifact.isExternalTrend = true) :
    artifact ∈ r.artifacts ∨ (.externalApiSend ∈ approvedActionSet ∧
      isMockProvider provider = false ∧
      ∃ task ∈ r.tasks, task.department = .trend ∧ task.Unfinished) := by
  obtain ⟨htype, hname⟩ := (Bool.and_eq_true _ _).mp hexternal
  rcases h.trends artifact hmem (of_decide_eq_true htype) with
    hold | ⟨task, htask, trend, hdepartment, hopen, hgate, hanalyze, hcontent⟩
  · exact .inl hold
  · have hanswers : provider.Answers := by
      rw [Environment.runtime_getTrendProvider] at hprovider
      exact getTrendProvider_answers hprovider
    obtain ⟨result, hresult, hresultName⟩ := hanswers (trendRequest r.project.brief)
    have hsame : result = trend := Except.ok.inj (hresult.symm.trans hanalyze)
    rw [provider?_of_content hcontent, ← hsame, hresultName, Option.any_some] at hname
    -- the artifact names the provider that answered, so this one is not the mock
    have hforeign := foreign_of_name hprovider (of_decide_eq_true hname)
    refine .inr ⟨?_, hforeign, task, htask, hdepartment, hopen⟩
    by_contra hnot
    simp [trendApprovalMissing, hforeign, hnot] at hgate

/-! ## The approval of a waiting project -/

/-- An approval that runs the plan on has approved a request that was pending. -/
theorem approval_sends {rt : Runtime} {args : ApprovalResumeArgs} {r r' : ProjectRecord}
    (h : OnLane .awaiting r) (hsaved : ApprovalResumeSaved rt args r r') :
    r'.artifacts = r.artifacts ∨ ∃ (i : Nat) (request approval : ApprovalRequest),
      r.approvals[i]? = some request ∧ request.status = .pending ∧
      r'.approvals[i]? = some approval ∧ approval.actionType = .externalApiSend ∧
      approval.status = .approved ∧
      Allowed r (coerceActor args.actor .approver) args.projectAllowedActorIdsByAction
        .externalApiSend := by
  cases hsaved with
  | denied denied saved => exact .inl (ProjectRecord.artifacts_of_state (denied.state saved) :)
  | @partly requested granted _ checks grant missing some state edits =>
      exact .inl ((afterApproval_prepared rt requested _ _ grant.state).trans (.of_same state)).artifacts
  | @fully requested granted released _ completion checks grant missing release executed saved =>
      have hnew := h.mem_actionsToApprove missing
      have hallowed := grant.allowed .externalApiSend (mem_sortedActions.mpr hnew)
      obtain ⟨request, hmem, hpending⟩ := checks.pending
      have htype := h.requests request hmem
      obtain ⟨i, hi⟩ := List.mem_iff_getElem?.mp hmem
      -- the loop approves the request at its place, and the release leaves it there
      have happroved : released.approvals[i]? = some (request.approve
          (coerceActor args.actor .approver) (normalizeText args.note)) := by
        rw [ProjectRecord.approvals_of_state release.state]
        dsimp only
        rw [ProjectRecord.state_approvals, afterApproval_approvals _ _ _ grant.state,
          List.getElem?_map, hi, Option.map_some]
        simp [hpending, htype, hnew]
      obtain ⟨provider, -, -, hexecuted⟩ := executed_of_saved release.status executed saved
      refine .inr ⟨i, request, request.approve (coerceActor args.actor .approver)
        (normalizeText args.note), hi, hpending, ?_, htype, rfl, hallowed⟩
      rcases hexecuted.approvals with happrovals | happrovals
      · rw [happrovals, happroved]
      · rw [happrovals]
        exact getElem?_of_prefix (List.prefix_append _ _) happroved

/-! ## Runs -/

section Runs

variable {calls calls' : List Call} {projectId : String} {record record' : ProjectRecord}

/-- Later versions with the same requests keep the approval. -/
theorem SendApproved.extend (h : SendApproved calls projectId record)
    (hevents : record.events <+: record'.events)
    (hpolicy : record'.project.policy = record.project.policy)
    (happrovals : record'.approvals = record.approvals) :
    SendApproved (calls ++ calls') projectId record' := by
  obtain ⟨i, request, approval, args, loaded, saved, hat, htype, hstatus, hcall, hrequest, hpending,
    hsaved, hallowed⟩ := h
  refine ⟨i, request, approval, args, loaded, saved, by rw [happrovals, hat], htype, hstatus,
    hcall.extend hevents hpolicy, hrequest, hpending, hsaved, ?_⟩
  unfold Allowed
  rw [hpolicy]
  exact hallowed

/-- A project with an approved request is delivered: no operation saves it again. -/
theorem SendApproved.final (h : SendApproved calls projectId record) {lane : Lane}
    (hlane : OnLane lane record) {rt : Runtime} {operation : ProjectOperation}
    (hsaved : savedBy (operation.body rt record) = some record') : False := by
  obtain ⟨i, _, approval, _, _, _, hat, -, hstatus, -⟩ := h
  have hcompleted : lane = .completed := by
    by_contra hne
    exact hlane.unapproved hne approval (List.mem_of_getElem? hat) hstatus
  subst hcompleted
  obtain ⟨next, hnext, -⟩ := saved_lane hlane hsaved
  cases hnext

/-- Every external trend artifact of the record stands next to an approved request. -/
def SendsApproved (calls : List Call) (projectId : String) (record : ProjectRecord) : Prop :=
  ∀ artifact ∈ record.artifacts, artifact.isExternalTrend = true →
    SendApproved calls projectId record

theorem SendsApproved.extend (h : SendsApproved calls projectId record)
    (hedits : Edits nobody record record') (hstate : record'.state = record.state) :
    SendsApproved (calls ++ calls') projectId record' := by
  intro artifact hmem hexternal
  have hartifacts : record'.artifacts = record.artifacts :=
    (ProjectRecord.artifacts_of_state hstate :)
  rw [hartifacts] at hmem
  obtain ⟨entries, hentries, -⟩ := hedits.entries
  exact (h artifact hmem hexternal).extend (hentries ▸ List.prefix_append _ _) hedits.policy
    (ProjectRecord.approvals_of_state hstate :)

/-- One operation on a stored project. -/
theorem sendsApproved_onProject {call : Call} {operation : ProjectOperation}
    {loaded saved : ProjectRecord} (hcall : call.operation = .onProject projectId operation)
    (hloaded : (afterCalls calls).get projectId = some loaded)
    (hstored : (afterCalls (calls ++ [call])).get projectId = some saved)
    (hsaved : savedBy (operation.body call.env.runtime loaded) = some saved)
    (hasked : ¬ SelfApproves (afterCalls calls) call) (hinv : SendsApproved calls projectId loaded) :
    SendsApproved (calls ++ [call]) projectId saved := by
  obtain ⟨lane, hlane⟩ := stored_lane hloaded
  -- a project that was sent out is delivered, and nothing more is saved for it
  have hbefore : ∀ artifact ∈ loaded.artifacts, artifact.isExternalTrend = false := by
    intro artifact hmem
    by_contra hexternal
    rw [Bool.not_eq_false] at hexternal
    exact (hinv artifact hmem hexternal).final hlane hsaved
  have hnotOld : ∀ artifact ∈ loaded.artifacts, artifact.isExternalTrend = true → False := by
    intro artifact hmem hexternal
    rw [hbefore artifact hmem] at hexternal
    cases hexternal
  intro artifact hmem hexternal
  -- only an approval may send; any other pass would have named the type by itself
  by_cases hroute : ∃ args, operation = .resumeFromApproval args
  · obtain ⟨args, rfl⟩ := hroute
    obtain ⟨hwaiting, hsavedBy⟩ := saved_resumeFromApproval hsaved
    have hawaiting := Lane.eq_awaiting (hlane.status.symm.trans hwaiting)
    subst hawaiting
    rcases approval_sends hlane hsavedBy with hsame | ⟨i, request, approval, hrequest, hpending, hat,
      htype, hstatus, hallowed⟩
    · rw [hsame] at hmem
      exact (hnotOld artifact hmem hexternal).elim
    · have hedits := ProjectOperation.saved_edits hsaved
      obtain ⟨entries, hentries, -⟩ := hedits.entries
      refine ⟨i, request, approval, args, loaded, saved, hat, htype, hstatus,
        ⟨⟨calls, call, [], rfl, hcall, hloaded, hstored⟩, hentries ▸ List.prefix_append _ _,
          List.prefix_refl _, hedits.policy⟩, hrequest, hpending, hat, ?_⟩
      unfold Allowed
      rw [hedits.policy]
      exact hallowed
  · rcases saved_pass hsaved with hprepared | ⟨mid, provider, approved, hprepared, hstarts, hexecuted⟩
    · rw [hprepared.artifacts] at hmem
      exact (hnotOld artifact hmem hexternal).elim
    · obtain ⟨name, hprovider⟩ := hstarts.supported
      rcases hexecuted.external hprovider hmem hexternal with
        hold | ⟨hnamed, hforeign, hopen⟩
      · rw [hprepared.artifacts] at hold
        exact (hnotOld artifact hold hexternal).elim
      · refine absurd ⟨.onProject hcall hloaded hstarts hnamed hforeign hopen, ?_⟩ hasked
        intro id args he
        rw [hcall] at he
        cases he
        exact hroute ⟨args, rfl⟩

theorem stored_sendsApproved
    (hasked : Runs.EachStep Call.step .new (fun repository call => ¬ SelfApproves repository call)
      calls)
    (hget : (afterCalls calls).get projectId = some record) :
    SendsApproved calls projectId record := by
  refine stored_trace_of_steps ?_ ?_ hasked hget
  · intro calls call projectId record h
    exact h.extend (.refl _) rfl
  · intro calls call saved hinv hasked hsaved hstored
    rcases Operation.saved_cases hsaved with ⟨args, hop, h⟩ | ⟨id, op, loaded, hop, hloaded, h⟩ |
      ⟨id, actor, loaded, -, hloaded, he⟩ | ⟨id, reason, loaded, -, hloaded, he⟩
    · obtain ⟨approved, started, completion, -, hstate, hparsed, hexecuted, hcompletion⟩ :=
        (saved_run h).started
      obtain ⟨provider, hprovider, -, hpass⟩ := executed_of_saved
        (by rw [(ProjectRecord.project_of_state hstate :)]) hexecuted hcompletion
      intro artifact hmem hexternal
      rcases hpass.external hprovider hmem hexternal with hold | ⟨hnamed, hforeign, -⟩
      -- a new project has no artifact from before
      · have hnone : started.artifacts = [] := (ProjectRecord.artifacts_of_state hstate :)
        rw [hnone] at hold
        cases hold
      · refine absurd ⟨.run hop hparsed hprovider hnamed hforeign, ?_⟩ hasked
        intro id args he
        rw [hop] at he
        cases he
    · have hid : saved.project.id = id :=
        (ProjectOperation.saved_edits h).projectId.trans (InMemoryProjectRepository.id_of_get hloaded)
      rw [hid] at hstored ⊢
      exact sendsApproved_onProject hop hloaded hstored h hasked (hinv id loaded hloaded)
    · have hedits : Edits nobody loaded saved := by
        rw [he]
        exact edits_recordAuthenticationSuccess actor
      have hid := hedits.projectId.trans (InMemoryProjectRepository.id_of_get hloaded)
      rw [hid]
      exact (hinv id loaded hloaded).extend hedits (by rw [he]; rfl)
    · have hedits : Edits nobody loaded saved := by
        rw [he]
        exact edits_recordAuthenticationFailure reason
      have hid := hedits.projectId.trans (InMemoryProjectRepository.id_of_get hloaded)
      rw [hid]
      exact (hinv id loaded hloaded).extend hedits (by rw [he]; rfl)

/-- The approval of a waiting project approves the external send anew: no request of a project that
    waits was approved before. -/
theorem allowedApproval_of_runsExternally {call : Call}
    (h : RunsExternally (afterCalls calls) call) (hasked : ¬ SelfApproves (afterCalls calls) call) :
    AllowedApproval (afterCalls calls) call := by
  have hroute : ∃ projectId args,
      call.operation = .onProject projectId (.resumeFromApproval args) := by
    by_contra hnone
    exact hasked ⟨h, fun projectId args he => hnone ⟨projectId, args, he⟩⟩
  obtain ⟨projectId, args, hcall⟩ := hroute
  cases h with
  | run operation =>
      rw [hcall] at operation
      cases operation
  | @onProject _ _ loaded _ _ _ operation_eq hloaded starts named =>
      rw [hcall] at operation_eq
      cases operation_eq
      refine ⟨projectId, args, loaded, hcall, hloaded, ?_⟩
      obtain ⟨lane, hlane⟩ := stored_lane hloaded
      cases starts with
      | approval status _ _ allowed =>
          have hawaiting := Lane.eq_awaiting (hlane.status.symm.trans status)
          subst hawaiting
          rcases Finset.mem_union.mp named with hbefore | hnew
          · obtain ⟨approval, hmem, hstatus, -⟩ := mem_approvalActionTypes.mp hbefore
            exact absurd hstatus (hlane.unapproved (by decide) approval hmem)
          · exact allowed _ hnew

/-- In a run in which no call names the external send by itself for an external provider, every
    external trend artifact of a stored record stands next to a request for the external send that
    an authorized actor approved, and every call that runs an external provider is an approval of a
    waiting project by an actor who is allowed to approve the external send. -/
theorem external_send_approved
    (hasked : Runs.EachStep Call.step .new (fun repository call => ¬ SelfApproves repository call)
      calls) :
    (∀ projectId record, (afterCalls calls).get projectId = some record →
      SendsApproved calls projectId record) ∧
    Runs.EachStep Call.step .new (fun repository call =>
      RunsExternally repository call → AllowedApproval repository call) calls :=
  ⟨fun _ _ hget => stored_sendsApproved hasked hget, fun before call later he hruns =>
    allowedApproval_of_runsExternally hruns (hasked before call later he)⟩

end Runs

/-- The sample run, approved by the owner, has an external artifact with its approval. -/
theorem external_send_approved_sample : ∃ record artifact,
    (afterCalls [sampleRun, sampleApproval]).get "p" = some record ∧ artifact ∈ record.artifacts ∧
      artifact.isExternalTrend = true ∧ SendApproved [sampleRun, sampleApproval] "p" record := by
  have hstored : ((afterCalls [sampleRun, sampleApproval]).get "p").any (fun record =>
      record.artifacts.any Artifact.isExternalTrend) = true := by decide
  obtain ⟨record, hget, hany⟩ := (Option.any_eq_true _ _).mp hstored
  obtain ⟨artifact, hmem, hexternal⟩ := List.any_eq_true.mp hany
  have hfirst : ¬ SelfApproves (afterCalls []) sampleRun := by
    rintro ⟨⟨operation, parsed, -, named, -⟩ | ⟨operation, -⟩, -⟩
    · cases operation
      cases parsed
      cases named
    · cases operation
  have hsecond : ¬ SelfApproves (afterCalls [sampleRun]) sampleApproval :=
    fun hself => hself.2 _ _ rfl
  have hasked : Runs.EachStep Call.step .new
      (fun repository call => ¬ SelfApproves repository call) ([sampleRun] ++ [sampleApproval]) :=
    (Runs.EachStep.nil.concat hfirst).concat hsecond
  exact ⟨record, artifact, hget, hmem, hexternal,
    (external_send_approved hasked).1 _ _ hget artifact hmem hexternal⟩

/-- A run whose caller names the external send itself. -/
def sampleSelfApproved : Call :=
  sampleCall "1" (.run
    { brief := sampleBrief, trendProviderName := "gemini", approvedActions := [.action .externalApiSend] })

/-- That run uses the external provider and is delivered; nobody was asked. -/
theorem self_approved_run_sends : ∃ record,
    (afterCalls [sampleSelfApproved]).get "p" = some record ∧
      (∃ artifact ∈ record.artifacts, artifact.isExternalTrend = true) ∧
      record.project.status = .completed ∧ record.approvals = [] ∧
      ¬ SendsApproved [sampleSelfApproved] "p" record := by
  have hstored : ((afterCalls [sampleSelfApproved]).get "p").any (fun record =>
      record.artifacts.any Artifact.isExternalTrend &&
      decide (record.project.status = .completed) && decide (record.approvals = [])) = true := by
    decide
  obtain ⟨record, hget, hfacts⟩ := (Option.any_eq_true _ _).mp hstored
  simp only [Bool.and_eq_true, decide_eq_true_eq] at hfacts
  obtain ⟨⟨hany, hcompleted⟩, hnone⟩ := hfacts
  obtain ⟨artifact, hmem, hexternal⟩ := List.any_eq_true.mp hany
  refine ⟨record, hget, ⟨artifact, hmem, hexternal⟩, hcompleted, hnone, fun hsends => ?_⟩
  obtain ⟨i, _, approval, _, _, _, hat, -⟩ := hsends artifact hmem hexternal
  rw [hnone] at hat
  cases hat

end CodexOrchestrator
