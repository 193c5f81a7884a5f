import CodexOrchestrator.Orchestrator.Outcomes

/-!
# Atomicity — a call that raises leaves the project as it was

The operations edit the loaded record long before their last raising step, but they save only when
they return.  The one exception is the authorization loop, which saves its log before it raises.
-/

open PyText Raise

namespace CodexOrchestrator

/-! ## Where an operation raises -/

/-- The authorization loop of the operation, run on the loaded record, raises `abort`. -/
inductive DeniedIn (rt : Runtime) (r : ProjectRecord) (abort : Abort) : ProjectOperation → Prop where
  | approval {args : ApprovalResumeArgs} {requested : Finset ApprovalActionType}
      (waiting : r.project.status = .waitingApproval) (checks : ApprovalChecks args r requested)
      (raised : authorizeNewActions rt r (coerceActor args.actor .approver)
        (actionsToApprove r requested) args.projectAllowedActorIdsByAction = .error abort) :
      DeniedIn rt r abort (.resumeFromApproval args)
  | rejection {args : ApprovalRejectArgs} {named : Finset ApprovalActionType}
      (waiting : r.project.status = .waitingApproval) (reason : normalizeText args.reason ≠ "")
      (pending : ∃ approval ∈ r.approvals, approval.status = .pending)
      (parsed : parseApprovedActions args.rejectedActions = .ok named)
      (subset : (if named = ∅ then (approvalActionState r).pendingActionTypes else named) ⊆
        (approvalActionState r).pendingActionTypes)
      (raised : authorizeActionsOrRaise rt r (coerceActor args.actor .approver)
        (approvalActionState r).pendingActionTypes args.projectAllowedActorIdsByAction =
          .error abort) :
      DeniedIn rt r abort (.rejectApproval args)

section

variable {rt : Runtime} {r : ProjectRecord} {abort : Abort}

theorem quiet_resumeFully (effective : Finset ApprovalActionType) (actor : ActorContext)
    (note trendProviderName : String) :
    (resumeFully rt r effective actor note trendProviderName).Quiet :=
  .bind (quiet_transition rt _ _ _ _) fun _ _ => quiet_executePendingTasks rt _ _ _ _ _

/-- A step that raises without saving decides how the sequence raises. -/
theorem error_of_bind {α : Type} {x : Action α} {f : α → Action Completion} (hx : x.Quiet)
    (h : (x >>= f) = .error abort) : abort.saved = none ∨ ∃ a, x = .ok a ∧ f a = .error abort := by
  rcases bind_eq_error.mp h with h | h
  · exact .inl (hx abort h)
  · exact .inr h

theorem approveAndResume_error {args : ApprovalResumeArgs} {actor : ActorContext} {note : String}
    (h : approveAndResume rt args actor note r = .error abort) :
    abort.saved = none ∨ ∃ requested, ApprovalChecks args r requested ∧
      authorizeNewActions rt r actor (actionsToApprove r requested)
        args.projectAllowedActorIdsByAction = .error abort := by
  rcases error_of_bind (quiet_parseApprovedActions _) h with hnone | ⟨requested, hparsed, h⟩
  · exact .inl hnone
  rcases error_of_bind (.raiseIf rfl) h with hnone | ⟨_, hnonempty, h⟩
  · exact .inl hnone
  rcases error_of_bind (.raiseIf rfl) h with hnone | ⟨_, hpending, h⟩
  · exact .inl hnone
  rcases error_of_bind (quiet_validateApprovalActionRequest _ _ _) h with hnone | ⟨_, hvalid, h⟩
  · exact .inl hnone
  -- past the checks, only the authorization and the pass can raise
  have checks : ApprovalChecks args r requested :=
    ApprovalChecks.of_steps hparsed (raiseIf_eq_ok.mp hnonempty) (raiseIf_eq_ok.mp hpending) hvalid
  rcases bind_eq_error.mp h with hraised | ⟨granted, -, h⟩
  · exact .inr ⟨requested, checks, hraised⟩
  -- the pass has saved nothing when it raises
  · left
    split at h
    · cases h
    · exact quiet_resumeFully _ _ _ _ abort h

theorem rejectAndRevise_error {args : ApprovalRejectArgs} {actor : ActorContext}
    {reason note : String} (h : rejectAndRevise rt args actor reason note r = .error abort) :
    abort.saved = none ∨ ∃ named, (∃ approval ∈ r.approvals, approval.status = .pending) ∧
      parseApprovedActions args.rejectedActions = .ok named ∧
      (if named = ∅ then (approvalActionState r).pendingActionTypes else named) ⊆
        (approvalActionState r).pendingActionTypes ∧
      authorizeActionsOrRaise rt r actor (approvalActionState r).pendingActionTypes
        args.projectAllowedActorIdsByAction = .error abort := by
  rcases error_of_bind (.raiseIf rfl) h with hnone | ⟨_, hpending, h⟩
  · exact .inl hnone
  rcases error_of_bind (quiet_parseApprovedActions _) h with hnone | ⟨named, hparsed, h⟩
  · exact .inl hnone
  rcases error_of_bind (.raiseIf rfl) h with hnone | ⟨_, hsubset, h⟩
  · exact .inl hnone
  rcases bind_eq_error.mp h with hraised | ⟨granted, -, h⟩
  · have hsub := raiseIf_eq_ok.mp hsubset
    rw [not_not, Finset.sdiff_eq_empty_iff_subset] at hsub
    exact .inr ⟨named, exists_pending (raiseIf_eq_ok.mp hpending), hparsed, hsub, hraised⟩
  · rcases error_of_bind (quiet_transition rt _ _ _ _) h with hnone | ⟨_, -, h⟩
    · exact .inl hnone
    · cases h

/-- An operation behind its status check: it raises in its deciding part, or saves nothing. -/
theorem error_of_resolved {expected : ProjectStatus}
    {handlers : List (Action (Option OrchestrationResult))} {deciding : Action Completion}
    (hquiet : ∀ handler ∈ handlers, handler.Quiet)
    (h : (do
      match ← resolveResultOrRaiseInvalidState r expected handlers with
      | some result => return { result }
      | none => deciding : Action Completion) = .error abort) :
    abort.saved = none ∨ (r.project.status = expected ∧ deciding = .error abort) := by
  rcases error_of_bind (quiet_resolveResultOrRaiseInvalidState hquiet) h with
    hnone | ⟨result, hresult, h⟩
  · exact .inl hnone
  · cases result with
    | some result => cases h
    | none => exact .inr ⟨status_of_resolved hquiet hresult, h⟩

/-- An operation that raises saves nothing, unless its authorization loop raises. -/
theorem ProjectOperation.error_cases {operation : ProjectOperation}
    (h : operation.body rt r = .error abort) :
    abort.saved = none ∨ DeniedIn rt r abort operation := by
  cases operation with
  | resumeFromApproval args =>
      rcases error_of_resolved (quiet_approvalHandlers r args) h with hnone | ⟨hstatus, h⟩
      · exact .inl hnone
      rcases approveAndResume_error h with hnone | ⟨requested, checks, hraised⟩
      · exact .inl hnone
      · exact .inr (.approval hstatus checks hraised)
  | rejectApproval args =>
      rcases error_of_bind (.raiseIf rfl) h with hnone | ⟨_, hreason, h⟩
      · exact .inl hnone
      rcases error_of_resolved (quiet_rejectHandlers r args) h with hnone | ⟨hstatus, h⟩
      · exact .inl hnone
      rcases rejectAndRevise_error h with hnone | ⟨named, hpending, hparsed, hsubset, hraised⟩
      · exact .inl hnone
      · exact .inr (.rejection hstatus (raiseIf_eq_ok.mp hreason) hpending hparsed hsubset hraised)
  | resumeFromRevision args =>
      rcases error_of_resolved (quiet_revisionHandlers r args) h with hnone | ⟨-, h⟩
      · exact .inl hnone
      rcases error_of_bind (quiet_transition rt _ _ _ _) h with hnone | ⟨_, -, h⟩
      · exact .inl hnone
      split at h
      · cases h
      · rcases error_of_bind (quiet_parseApprovedActions _) h with hnone | ⟨_, -, h⟩
        · exact .inl hnone
        · exact .inl (quiet_executePendingTasks rt _ _ _ _ _ abort h)
  | startReplanning args =>
      rcases error_of_resolved (quiet_replanningHandlers r) h with hnone | ⟨-, h⟩
      · exact .inl hnone
      rcases error_of_bind (quiet_transition rt _ _ _ _) h with hnone | ⟨_, -, h⟩
      · exact .inl hnone
      rcases error_of_bind (quiet_parseApprovedActions _) h with hnone | ⟨_, -, h⟩
      · exact .inl hnone
      · exact .inl (quiet_executePendingTasks rt _ _ _ _ _ abort h)

theorem run_error {args : RunArgs} (h : CodexOrchestrator.run rt args = .error abort) :
    abort.saved = none := by
  refine RaisesOnly.bind (quiet_parseApprovedActions _) (fun _ _ => ?_) abort h
  refine .bind (quiet_transition rt _ _ _ _) fun _ _ => ?_
  refine .bind (quiet_transition rt _ _ _ _) fun _ _ => ?_
  refine .bind (quiet_transition rt _ _ _ _) fun _ _ => ?_
  exact quiet_executePendingTasks rt _ _ _ _ _

/-- A denial ends the operation. -/
theorem DeniedIn.body_eq {operation : ProjectOperation} (h : DeniedIn rt r abort operation) :
    operation.body rt r = .error abort := by
  cases h with
  | @approval args requested waiting checks raised =>
      show resumeFromApproval rt args r = _
      rw [resumeFromApproval_of_waiting args waiting, approveAndResume_of_checks _ _ checks, raised,
        error_bind]
  | @rejection args named waiting reason pending parsed subset raised =>
      have hpending : ¬ (approvalActionState r).pendingApprovals.isEmpty = true := by
        rw [pendingApprovals_isEmpty]
        obtain ⟨approval, hmem, hstatus⟩ := pending
        exact fun hnone => hnone approval hmem hstatus
      have hsubset := Finset.sdiff_eq_empty_iff_subset.mpr subset
      show CodexOrchestrator.rejectApproval rt args r = _
      unfold CodexOrchestrator.rejectApproval
      dsimp only
      rw [raiseIf_of_not reason, ok_bind, resolved_of_status _ waiting, ok_bind]
      dsimp only
      unfold rejectAndRevise raiseIfActionsOutsideAllowedSet
      dsimp only
      rw [raiseIf_of_not hpending, ok_bind, parsed, ok_bind, raiseIf_of_not (not_not.mpr hsubset),
        ok_bind, raised, error_bind]

/-- The actor, the allow-list and the actions of a denial. -/
theorem DeniedIn.denied {operation : ProjectOperation} (h : DeniedIn rt r abort operation) :
    ∃ actor allowList actions, operation.decider = some (actor, allowList) ∧
      Denied actor allowList actions r abort := by
  cases h with
  | approval _ _ raised => exact ⟨_, _, _, rfl, denied_of_authorizeNewActions rt raised⟩
  | rejection _ _ _ _ _ raised => exact ⟨_, _, _, rfl, denied_of_authorizeEach rt raised⟩

end

/-! ## Failed calls -/

/-- The stored record after a denial: the loaded one with the log of the authorization loop. -/
structure DenialLogged (repository stored : InMemoryProjectRepository) (loaded : ProjectRecord)
    (operation : ProjectOperation) (error : PyError) : Prop where
  denied : ∃ actor allowList actionType, operation.decider = some (actor, allowList) ∧
    ¬ Allowed loaded actor allowList actionType ∧
    error = .permissionError
      (authorizeAction actionType actor (some loaded.project.policy) allowList).reason
  stored : ∃ events failed,
    stored = repository.save { loaded with events := loaded.events ++ (events ++ [failed]) } ∧
    (∀ event ∈ events, event.eventType = .authorizationGranted ∨
      event.eventType = .policyOverrideApplied) ∧
    failed.eventType = .authorizationFailed

theorem isGrant_iff {eventType : HistoryEventType} :
    eventType.isGrant = true ↔
      eventType = .authorizationGranted ∨ eventType = .policyOverrideApplied := by
  cases eventType <;> decide

/-- A call that raises leaves the repository as it was, unless its authorization loop raised: then
    the record is stored with the log of the loop.  A run that raises stores nothing. -/
theorem failed_call_keeps (rt : Runtime) (repository : InMemoryProjectRepository) :
    (∀ projectId operation error,
      (perform rt repository (.onProject projectId operation)).2 = .error error →
      ((¬ ∃ loaded abort, repository.get projectId = some loaded ∧
          DeniedIn rt loaded abort operation) →
        (perform rt repository (.onProject projectId operation)).1 = repository) ∧
      ∀ loaded abort, repository.get projectId = some loaded → DeniedIn rt loaded abort operation →
        DenialLogged repository (perform rt repository (.onProject projectId operation)).1 loaded
          operation error) ∧
    ∀ args error, (perform rt repository (.run args)).2 = .error error →
      (perform rt repository (.run args)).1 = repository := by
  refine ⟨fun projectId operation error herror =>
    ⟨fun hnot => ?_, fun loaded abort hget hdenied => ?_⟩, fun args error herror => ?_⟩
  · cases hget : repository.get projectId with
    | none => rw [perform_unknown rt operation hget]
    | some loaded =>
        rw [perform_onProject rt operation hget] at herror ⊢
        obtain ⟨abort, hbody, -⟩ := Outcome.answer_eq_error herror
        rcases ProjectOperation.error_cases hbody with hnone | hdenied
        · rw [hbody, savedBy, hnone]
          rfl
        · exact absurd ⟨loaded, abort, hget, hdenied⟩ hnot
  · rw [perform_onProject rt operation hget] at herror ⊢
    obtain ⟨abort', hbody, herror⟩ := Outcome.answer_eq_error herror
    -- the operation raises once, so the denial is what the caller got
    have hsame : abort = abort' := Except.error.inj (hdenied.body_eq.symm.trans hbody)
    subst hsame
    obtain ⟨actor, allowList, actions, hdecider, hd⟩ := hdenied.denied
    obtain ⟨actionType, -, hnot, hreason⟩ := hd.denied
    obtain ⟨events, failed, hsaved, hgrant, hfailed⟩ := hd.saved
    refine ⟨⟨actor, allowList, actionType, hdecider, hnot, ?_⟩, events, failed, ?_, ?_, hfailed⟩
    · rw [← herror, hreason]
    · rw [hbody, savedBy, hsaved]
      rfl
    · exact fun event hmem => isGrant_iff.mp (hgrant event hmem)
  · rw [perform_run] at herror ⊢
    obtain ⟨abort, hrun, -⟩ := Outcome.answer_eq_error herror
    rw [hrun, savedBy, run_error hrun]
    rfl

/-- A viewer tries to approve the external send of the sample run. -/
def sampleDenial : ProjectOperation :=
  .resumeFromApproval
    { approvedActions := [.action .externalApiSend], actor := .context ⟨"guest", .viewer, .human⟩ }

/-- A run with an unknown provider under the strict flag stores nothing; the denial of a viewer
    stores the log of the authorization loop. -/
theorem failed_call_keeps_sample :
    (∃ error, (perform
        { projectUuid := "q", approvalUuid := "1", trendProviderStrict := some "1" : Environment }.runtime
        (afterCalls [sampleRun]) (.run { brief := sampleBrief, trendProviderName := "other" })).2 =
          .error error ∧
      (perform
        { projectUuid := "q", approvalUuid := "1", trendProviderStrict := some "1" : Environment }.runtime
        (afterCalls [sampleRun]) (.run { brief := sampleBrief, trendProviderName := "other" })).1 =
          afterCalls [sampleRun]) ∧
    ∃ loaded error, (afterCalls [sampleRun]).get "p" = some loaded ∧
      DenialLogged (afterCalls [sampleRun]) (perform sampleRun.env.runtime (afterCalls [sampleRun])
        (.onProject "p" sampleDenial)).1 loaded sampleDenial error := by
  constructor
  · exact ⟨_, rfl, (failed_call_keeps _ _).2 _ _ rfl⟩
  · obtain ⟨error, herror⟩ : ∃ error, (perform sampleRun.env.runtime (afterCalls [sampleRun])
        (.onProject "p" sampleDenial)).2 = .error error := ⟨_, rfl⟩
    have hcall := (failed_call_keeps sampleRun.env.runtime (afterCalls [sampleRun])).1 "p"
      sampleDenial error herror
    have hdenied : ∃ loaded abort, (afterCalls [sampleRun]).get "p" = some loaded ∧
        DeniedIn sampleRun.env.runtime loaded abort sampleDenial := by
      by_contra hnot
      have hlogged : ((perform sampleRun.env.runtime (afterCalls [sampleRun])
          (.onProject "p" sampleDenial)).1.get "p").map (fun r => r.events.length) ≠
          ((afterCalls [sampleRun]).get "p").map fun r => r.events.length := by decide
      rw [hcall.1 hnot] at hlogged
      exact hlogged rfl
    obtain ⟨loaded, abort, hget, hin⟩ := hdenied
    exact ⟨loaded, error, hget, hcall.2 loaded abort hget hin⟩

end CodexOrchestrator
