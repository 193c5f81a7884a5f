import CodexOrchestrator.Orchestrator.Outcomes

/-!
# Answers — what a call shows to its caller

A call that returns shows the record as it is stored afterwards.  A call that raises before it has
saved anything raises a `ValueError`; the only other exception is the denial of an authorization.
-/

open PyText Raise

namespace CodexOrchestrator

/-- An exception from before the save: a `ValueError`. -/
def Abort.Conflict (abort : Abort) : Prop :=
  abort.saved = none ∧ ∃ message, abort.error = .valueError message

/-- The result is the summary of the record that the call saved. -/
def Completion.ShowsSaved (completion : Completion) : Prop :=
  ∃ r' nextSteps, completion.saved = some r' ∧ completion.result = summary r' nextSteps

/-- The result is the summary of the record that is stored after the call on `r`: the saved one, or
    `r` itself. -/
def Completion.Shows (r : ProjectRecord) (completion : Completion) : Prop :=
  ∃ nextSteps, completion.result = summary (completion.saved.getD r) nextSteps

/-- What an idempotent handler answers for `r`, when it answers. -/
def ShowsLoaded (r : ProjectRecord) (answer : Option OrchestrationResult) : Prop :=
  ∀ result, answer = some result → ∃ nextSteps, result = summary r nextSteps

theorem Completion.showsSaved (r' : ProjectRecord) (nextSteps : List String) :
    Completion.ShowsSaved { saved := some r', result := summary r' nextSteps } :=
  ⟨r', nextSteps, rfl, rfl⟩

theorem Completion.ShowsSaved.shows {completion : Completion} (h : completion.ShowsSaved)
    (r : ProjectRecord) : completion.Shows r := by
  obtain ⟨r', nextSteps, hsaved, hresult⟩ := h
  exact ⟨nextSteps, by rw [hsaved, Option.getD_some, hresult]⟩

/-! ## Steps in front of the save -/

section Steps

variable {α : Type}

theorem conflict_raise (message : String) :
    RaisesOnly Abort.Conflict (Action.raise (.valueError message) : Action α) :=
  .error ⟨rfl, message, rfl⟩

theorem conflict_raiseIf {c : Prop} [Decidable c] (message : String) :
    RaisesOnly Abort.Conflict (raiseIf c ({ error := .valueError message } : Abort)) :=
  .raiseIf ⟨rfl, message, rfl⟩

theorem conflict_parseApprovedAction (action : ActionArg) :
    RaisesOnly Abort.Conflict (parseApprovedAction action) := by
  unfold parseApprovedAction
  split
  · exact .ok _
  · exact conflict_raise _
  · split
    · exact .ok _
    · exact conflict_raise _

theorem conflict_parseApprovedActions (actions : List ActionArg) :
    RaisesOnly Abort.Conflict (parseApprovedActions actions) := by
  induction actions with
  | nil => exact .ok _
  | cons action rest ih =>
      exact .bind (conflict_parseApprovedAction action) fun _ _ => .bind ih fun _ _ => .ok _

theorem conflict_validateApprovalActionRequest
    (requested known rejected : Finset ApprovalActionType) :
    RaisesOnly Abort.Conflict (validateApprovalActionRequest requested known rejected) :=
  .bind (conflict_raiseIf _) fun _ _ => conflict_raiseIf _

variable (rt : Runtime)

theorem conflict_transition (r : ProjectRecord) (nextStatus : ProjectStatus) (actor : ActorContext)
    (reason : String) : RaisesOnly Abort.Conflict (transition rt r nextStatus actor reason) := by
  unfold transition
  dsimp only
  split
  · exact .ok _
  split
  · exact .ok _
  · exact conflict_raise _

end Steps

/-! ## The pass over the plan -/

section Pass

variable {rt : Runtime} {provider : TrendProvider} {r : ProjectRecord}

theorem shows_pauseForApproval (i : Nat) (actor : ActorContext) :
    Ends Completion.ShowsSaved Abort.Conflict (pauseForApproval rt r i actor) :=
  .bind (conflict_transition rt _ _ _ _).ends fun _ _ _ => .ok (Completion.showsSaved _ _)

/-- What a round of the loop can end with. -/
def LoopExit.ShowsSaved : LoopExit → Prop
  | .paused completion => completion.ShowsSaved
  | .finished _ => True

variable (hanswers : provider.Answers)

include hanswers

theorem shows_executeTask (approved : Finset ApprovalActionType) (simulate : Bool)
    (actor : ActorContext) (i : Nat) (task : Task) (s : LoopState) :
    Ends LoopExit.ShowsSaved Abort.Conflict
      (executeTask rt provider approved simulate actor i task s) := by
  unfold executeTask
  split
  · exact .ok trivial
  · dsimp only
    split
    · exact .ok trivial
    · exact .ok trivial
    · exact .ok trivial
    · split
      · exact .bind (shows_pauseForApproval i actor) fun _ _ h => .ok h
      · -- a provider that answers does not raise
        obtain ⟨result, hresult, -⟩ := hanswers (trendRequest s.record.project.brief)
        have hartifact : ∃ artifact, Action.lift (trendAgentRun provider task
            s.record.project.brief) = .ok artifact := by
          unfold trendAgentRun
          rw [hresult]
          exact ⟨_, rfl⟩
        obtain ⟨artifact, hartifact⟩ := hartifact
        have hbrief : (setTaskStatus rt s.record i .inProgress actor).project.brief =
            s.record.project.brief := by
          unfold setTaskStatus
          split
          · rfl
          · split <;> rfl
        rw [hbrief, hartifact]
        exact .ok trivial
    · exact .ok trivial

theorem shows_executeTasks (approved : Finset ApprovalActionType) (simulate : Bool)
    (actor : ActorContext) (i : Nat) (tasks : List Task) (s : LoopState) :
    Ends LoopExit.ShowsSaved Abort.Conflict
      (executeTasks rt provider approved simulate actor i tasks s) := by
  induction tasks generalizing i s with
  | nil => exact .ok trivial
  | cons task rest ih =>
      rw [executeTasks]
      refine .bind (shows_executeTask hanswers approved simulate actor i task s)
        fun exit _ h => ?_
      cases exit with
      | paused completion => exact .ok h
      | finished s₁ => exact ih (i + 1) s₁

end Pass

/-- The factory of the runtime raises `ValueError` only, and gives providers that answer. -/
structure Runtime.Deployed (rt : Runtime) : Prop where
  conflict : ∀ name, RaisesOnly (fun error => ∃ message, error = .valueError message)
    (rt.getTrendProvider name)
  answers : ∀ name provider, rt.getTrendProvider name = .ok provider → provider.Answers

theorem Environment.deployed (env : Environment) : env.runtime.Deployed where
  conflict name := by
    rw [Environment.runtime_getTrendProvider]
    unfold getTrendProvider
    dsimp only
    split_ifs
    · exact .ok _
    · exact .ok _
    · exact .ok _
    · exact .ok _
    · exact .error ⟨_, rfl⟩
    · exact .ok _
  answers name provider h := by
    rw [Environment.runtime_getTrendProvider] at h
    exact getTrendProvider_answers h

section Operations

variable {rt : Runtime} (hdeployed : rt.Deployed)

include hdeployed

theorem shows_executePendingTasks (r : ProjectRecord) (trendProviderName : String)
    (approved : Finset ApprovalActionType) (simulate : Bool) (actor : ActorContext) :
    Ends Completion.ShowsSaved Abort.Conflict
      (executePendingTasks rt r trendProviderName approved simulate actor) := by
  have hprovider : Ends TrendProvider.Answers Abort.Conflict
      (Action.lift (rt.getTrendProvider trendProviderName)) := by
    cases hget : rt.getTrendProvider trendProviderName with
    | error error => exact .error ⟨rfl, hdeployed.conflict _ error hget⟩
    | ok provider => exact .ok (hdeployed.answers _ provider hget)
  refine hprovider.bind fun provider _ hanswers => ?_
  refine .bind (shows_executeTasks hanswers _ _ _ _ _ _) fun exit _ h => ?_
  cases exit with
  | paused completion => exact .ok h
  | finished s =>
      dsimp only
      split
      · exact .bind (conflict_transition rt _ _ _ _).ends fun _ _ _ =>
          .bind (conflict_transition rt _ _ _ _).ends fun _ _ _ => .ok (Completion.showsSaved _ _)
      · exact .bind (conflict_transition rt _ _ _ _).ends fun _ _ _ => .ok (Completion.showsSaved _ _)

theorem shows_run (args : RunArgs) :
    Ends Completion.ShowsSaved Abort.Conflict (CodexOrchestrator.run rt args) := by
  refine .bind (conflict_parseApprovedActions _).ends fun _ _ _ => ?_
  refine .bind (conflict_transition rt _ _ _ _).ends fun _ _ _ => ?_
  refine .bind (conflict_transition rt _ _ _ _).ends fun _ _ _ => ?_
  refine .bind (conflict_transition rt _ _ _ _).ends fun _ _ _ => ?_
  exact shows_executePendingTasks hdeployed _ _ _ _ _

end Operations

/-! ## Idempotent answers -/

section Idempotent

variable (r : ProjectRecord)

theorem shows_none : Ends (ShowsLoaded r) Abort.Conflict (.ok none : Action _) :=
  .ok fun _ h => by cases h

theorem shows_some (nextSteps : List String) :
    Ends (ShowsLoaded r) Abort.Conflict (.ok (some (summary r nextSteps)) : Action _) :=
  .ok fun _ h => ⟨nextSteps, (Option.some.inj h).symm⟩

theorem shows_approvalCompletedIdempotentHandler (args : ApprovalResumeArgs) :
    Ends (ShowsLoaded r) Abort.Conflict (approvalCompletedIdempotentHandler args r) := by
  unfold approvalCompletedIdempotentHandler
  split
  · refine .bind (conflict_parseApprovedActions _).ends fun _ _ _ =>
      .bind (conflict_raiseIf _).ends fun _ _ _ => ?_
    unfold idempotentResumeFromApprovalIfCompleted
    split
    · exact shows_none r
    · dsimp only
      split
      · exact shows_none r
      · refine .bind (conflict_validateApprovalActionRequest _ _ _).ends fun _ _ _ => ?_
        split
        · exact shows_some r _
        · exact shows_none r
  · exact shows_none r

theorem shows_idempotentRejectIfRevisionRequested (rejected : Finset ApprovalActionType) :
    Ends (ShowsLoaded r) Abort.Conflict (idempotentRejectIfRevisionRequested r rejected) := by
  unfold idempotentRejectIfRevisionRequested
  split
  · exact shows_none r
  · refine .bind (conflict_raiseIf _).ends fun _ _ _ => ?_
    split
    · exact shows_some r _
    · exact shows_none r

theorem shows_revisionRequestedIdempotentHandler (args : ApprovalRejectArgs) :
    Ends (ShowsLoaded r) Abort.Conflict (revisionRequestedIdempotentHandler args r) := by
  unfold revisionRequestedIdempotentHandler
  split
  · exact .bind (conflict_parseApprovedActions _).ends fun _ _ _ =>
      shows_idempotentRejectIfRevisionRequested r _
  · exact shows_none r

theorem shows_idempotentIfCompletedWithEvent (eventType : HistoryEventType) (nextStep : String)
    (mode : Option String) :
    Ends (ShowsLoaded r) Abort.Conflict (idempotentIfCompletedWithEvent r eventType nextStep mode) := by
  unfold idempotentIfCompletedWithEvent
  split
  · exact shows_none r
  · split
    · exact shows_some r _
    · exact shows_none r

theorem shows_idempotentResumeFromRevisionIfReadyForPlanning (mode : RevisionResumeMode) :
    Ends (ShowsLoaded r) Abort.Conflict
      (idempotentResumeFromRevisionIfReadyForPlanning r mode) := by
  unfold idempotentResumeFromRevisionIfReadyForPlanning
  split
  · exact shows_some r _
  · exact shows_none r

variable {r}

theorem shows_resolveResultOrRaiseInvalidState {expected : ProjectStatus}
    {handlers : List (Action (Option OrchestrationResult))}
    (h : ∀ handler ∈ handlers, Ends (ShowsLoaded r) Abort.Conflict handler) :
    Ends (ShowsLoaded r) Abort.Conflict
      (resolveResultOrRaiseInvalidState r expected handlers) := by
  unfold resolveResultOrRaiseInvalidState
  split
  · exact shows_none r
  · induction handlers with
    | nil => exact .error ⟨rfl, _, rfl⟩
    | cons handler rest ih =>
        rw [firstIdempotentResult]
        refine .bind (h handler List.mem_cons_self) fun answer _ hshows => ?_
        cases answer with
        | some result => exact .ok hshows
        | none => exact ih fun x hx => h x (List.mem_cons_of_mem _ hx)

/-- An operation behind its status check: it shows what a handler answers, or goes on. -/
theorem shows_resolved {expected : ProjectStatus} {P : Abort → Prop}
    {handlers : List (Action (Option OrchestrationResult))} {deciding : Action Completion}
    (h : ∀ handler ∈ handlers, Ends (ShowsLoaded r) Abort.Conflict handler)
    (hP : ∀ abort, Abort.Conflict abort → P abort)
    (hdeciding : Ends (Completion.Shows r) P deciding) :
    Ends (Completion.Shows r) P (do
      match ← resolveResultOrRaiseInvalidState r expected handlers with
      | some result => return { result }
      | none => deciding) := by
  have hresolve : Ends (ShowsLoaded r) Abort.Conflict
      (resolveResultOrRaiseInvalidState r expected handlers) :=
    shows_resolveResultOrRaiseInvalidState h
  refine .bind (hresolve.mono (fun _ ha => ha) hP) fun answer _ hshows => ?_
  cases answer with
  | some result => exact .ok (hshows result rfl)
  | none => exact hdeciding

end Idempotent

/-! ## Operations -/

/-- The `PermissionError` of a denial, which saves the log of the authorization loop. -/
def Abort.Denial (abort : Abort) : Prop :=
  (∃ saved, abort.saved = some saved) ∧ ∃ message, abort.error = .permissionError message

/-- The exceptions of an operation on a project. -/
def Abort.Refusal (abort : Abort) : Prop := abort.Conflict ∨ abort.Denial

section Operations

variable {rt : Runtime} {r : ProjectRecord}

theorem refusal_authorizeEach (actor : ActorContext) (allowList : Option (Dict (List String)))
    (actions : List ApprovalActionType) (r : ProjectRecord) :
    RaisesOnly Abort.Refusal (authorizeEach rt actor allowList actions r) := by
  induction actions generalizing r with
  | nil => exact .ok r
  | cons actionType rest ih =>
      rw [authorizeEach]
      split
      · exact ih _
      · exact .error (.inr ⟨⟨_, rfl⟩, _, rfl⟩)

/-- A step that raises conflicts only, in an operation. -/
theorem refusal_of_conflict {α : Type} {x : Action α} (h : RaisesOnly Abort.Conflict x) :
    Ends (fun _ => True) Abort.Refusal x where
  returns _ _ := trivial
  raises abort he := .inl (h abort he)

variable (hdeployed : rt.Deployed)

include hdeployed

omit hdeployed in
/-- A loop that approves no type leaves the record as it is. -/
theorem approvePending_empty (pending : List (ApprovalRequest × Nat)) (actor : ActorContext)
    (note : String) : approvePending rt r pending ∅ actor note = r := by
  unfold approvePending
  induction pending with
  | nil => rfl
  | cons entry rest ih =>
      rw [List.foldl_cons, if_neg (Finset.notMem_empty _)]
      exact ih

theorem shows_approveAndResume (args : ApprovalResumeArgs) (actor : ActorContext) (note : String) :
    Ends (Completion.Shows r) Abort.Refusal (approveAndResume rt args actor note r) := by
  refine .bind (refusal_of_conflict (conflict_parseApprovedActions _)) fun requested _ _ => ?_
  refine .bind (refusal_of_conflict (conflict_raiseIf _)) fun _ _ _ => ?_
  refine .bind (refusal_of_conflict (conflict_raiseIf _)) fun _ _ _ => ?_
  refine .bind (refusal_of_conflict (conflict_validateApprovalActionRequest _ _ _)) fun _ _ _ => ?_
  have hauthorize : Ends (fun granted => actionsToApprove r requested = ∅ → granted = r)
      Abort.Refusal (authorizeNewActions rt r actor (actionsToApprove r requested)
        args.projectAllowedActorIdsByAction) := by
    unfold authorizeNewActions
    split
    · exact .ok fun _ => rfl
    · rename_i hsome
      exact (refusal_authorizeEach _ _ _ _).ends.mono (fun _ _ hnone => absurd hnone hsome)
        fun _ h => h
  refine hauthorize.bind fun granted _ hgranted => ?_
  split
  · unfold resumePartially
    dsimp only
    split
    · -- nothing was authorized and nothing is approved: the record is the loaded one
      rename_i hnone
      have hloaded : approvePending rt granted (approvalActionState r).pendingApprovals
          (requested \ (approvalActionState r).approvedActions) actor note = r := by
        rw [hnone, hgranted hnone, approvePending_empty]
      rw [hloaded]
      exact .ok ⟨_, rfl⟩
    · exact .ok ((Completion.showsSaved _ _).shows r)
  · refine .bind (refusal_of_conflict (conflict_transition rt _ _ _ _)) fun _ _ _ => ?_
    exact (shows_executePendingTasks hdeployed _ _ _ _ _).mono (fun _ h => h.shows r) fun _ h => .inl h

omit hdeployed in
theorem shows_rejectAndRevise (args : ApprovalRejectArgs) (actor : ActorContext)
    (reason note : String) :
    Ends (Completion.Shows r) Abort.Refusal (rejectAndRevise rt args actor reason note r) := by
  refine .bind (refusal_of_conflict (conflict_raiseIf _)) fun _ _ _ => ?_
  refine .bind (refusal_of_conflict (conflict_parseApprovedActions _)) fun _ _ _ => ?_
  refine .bind (refusal_of_conflict (conflict_raiseIf _)) fun _ _ _ => ?_
  refine .bind (refusal_authorizeEach _ _ _ _).ends fun _ _ _ => ?_
  exact .bind (refusal_of_conflict (conflict_transition rt _ _ _ _)) fun _ _ _ => .ok ((Completion.showsSaved _ _).shows r)

/-- Every operation shows the stored record, or refuses the call. -/
theorem ProjectOperation.shows (operation : ProjectOperation) (r : ProjectRecord) :
    Ends (Completion.Shows r) Abort.Refusal (operation.body rt r) := by
  cases operation with
  | resumeFromApproval args =>
      refine shows_resolved ?_ (fun _ h => .inl h) (shows_approveAndResume hdeployed args _ _)
      intro handler hmem
      rw [List.mem_singleton.mp hmem]
      exact shows_approvalCompletedIdempotentHandler r args
  | rejectApproval args =>
      refine .bind (refusal_of_conflict (conflict_raiseIf _)) fun _ _ _ => ?_
      refine shows_resolved ?_ (fun _ h => .inl h) (shows_rejectAndRevise args _ _ _)
      intro handler hmem
      rw [List.mem_singleton.mp hmem]
      exact shows_revisionRequestedIdempotentHandler r args
  | resumeFromRevision args =>
      refine shows_resolved ?_ (fun _ h => .inl h) ?_
      · intro handler hmem
        rcases List.mem_cons.mp hmem with rfl | hmem
        · exact shows_idempotentResumeFromRevisionIfReadyForPlanning r args.resumeMode
        · rw [List.mem_singleton.mp hmem]
          exact shows_idempotentIfCompletedWithEvent r _ _ _
      · refine .bind (refusal_of_conflict (conflict_transition rt _ _ _ _)) fun _ _ _ => ?_
        split
        · exact .ok ((Completion.showsSaved _ _).shows r)
        · refine .bind (refusal_of_conflict (conflict_parseApprovedActions _)) fun _ _ _ => ?_
          exact (shows_executePendingTasks hdeployed _ _ _ _ _).mono (fun _ h => h.shows r)
            fun _ h => .inl h
  | startReplanning args =>
      refine shows_resolved ?_ (fun _ h => .inl h) ?_
      · intro handler hmem
        rw [List.mem_singleton.mp hmem]
        exact shows_idempotentIfCompletedWithEvent r _ _ _
      · refine .bind (refusal_of_conflict (conflict_transition rt _ _ _ _)) fun _ _ _ => ?_
        refine .bind (refusal_of_conflict (conflict_parseApprovedActions _)) fun _ _ _ => ?_
        exact (shows_executePendingTasks hdeployed _ _ _ _ _).mono (fun _ h => h.shows r)
          fun _ h => .inl h

end Operations

end CodexOrchestrator
