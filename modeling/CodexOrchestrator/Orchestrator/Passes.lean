import CodexOrchestrator.Orchestrator.Outcomes

/-!
# Passes — which pass over the plan a call starts

An operation on a project first prepares the record (it decides about requests, or moves and resets
tasks), then it may start one pass over the plan.  `Starts` says, from the arguments of the call and
the record before it, with which provider, which approved actions and which tasks the pass starts.
-/

open Raise

namespace CodexOrchestrator

section

variable {rt : Runtime} {r mid r' : ProjectRecord}

/-- The pass that an operation on `r` starts: its provider, its approved actions and its tasks. -/
inductive Starts (rt : Runtime) (r : ProjectRecord) : ProjectOperation → TrendProvider →
    Finset ApprovalActionType → List Task → Prop where
  | approval {args : ApprovalResumeArgs} {requested : Finset ApprovalActionType}
      {provider : TrendProvider} (status : r.project.status = .waitingApproval)
      (checks : ApprovalChecks args r requested) (named : missingActions r requested = ∅)
      (allowed : ∀ actionType ∈ actionsToApprove r requested, Allowed r
        (coerceActor args.actor .approver) args.projectAllowedActorIdsByAction actionType)
      (supported : rt.getTrendProvider args.trendProviderName = .ok provider) :
      Starts rt r (.resumeFromApproval args) provider
        ((approvalActionState r).approvedActions ∪ actionsToApprove r requested)
        (r.tasks.map (Task.move .pending none))
  | revision {args : RevisionResumeArgs} {approved : Finset ApprovalActionType}
      {provider : TrendProvider} (status : r.project.status = .revisionRequested)
      (mode : args.resumeMode ≠ .replanning)
      (parsed : parseApprovedActions args.approvedActions = .ok approved)
      (supported : rt.getTrendProvider args.trendProviderName = .ok provider) :
      Starts rt r (.resumeFromRevision args) provider approved
        (r.tasks.map (Task.reset (revisionResumeConfig args.resumeMode).departments .pending
          (some (normalizeText args.reason))))
  | replanning {args : ReplanningStartArgs} {approved : Finset ApprovalActionType}
      {provider : TrendProvider} (status : r.project.status = .readyForPlanning)
      (parsed : parseApprovedActions args.approvedActions = .ok approved)
      (supported : rt.getTrendProvider args.trendProviderName = .ok provider) :
      Starts rt r (.startReplanning args) provider approved
        (r.tasks.map (Task.reset (if args.resetDownstreamTasks then downstreamDepartments else [])
          .pending none))

theorem Starts.supported {operation : ProjectOperation} {provider : TrendProvider}
    {approved : Finset ApprovalActionType} {tasks : List Task}
    (h : Starts rt r operation provider approved tasks) :
    ∃ name, rt.getTrendProvider name = .ok provider := by
  cases h with
  | approval _ _ _ _ supported => exact ⟨_, supported⟩
  | revision _ _ _ supported => exact ⟨_, supported⟩
  | replanning _ _ supported => exact ⟨_, supported⟩

/-- What the preparation of a record leaves alone. -/
structure Prepared (r r' : ProjectRecord) : Prop where
  artifacts : r'.artifacts = r.artifacts
  reviews : r'.reviews = r.reviews
  checkpoints : r'.checkpoints.map Checkpoint.id = r.checkpoints.map Checkpoint.id
  approvals : r'.approvals.map ApprovalRequest.id = r.approvals.map ApprovalRequest.id

/-- A change of the project and of the tasks alone. -/
theorem Prepared.of_state {project : Project} {tasks : List Task}
    (h : r'.state = { r.state with project, tasks }) : Prepared r r' where
  artifacts := (ProjectRecord.artifacts_of_state h :)
  reviews := (ProjectRecord.reviews_of_state h :)
  checkpoints := by rw [(ProjectRecord.checkpoints_of_state h :)]; rfl
  approvals := by rw [(ProjectRecord.approvals_of_state h :)]; rfl

theorem Prepared.of_same (h : r'.state = r.state) : Prepared r r' :=
  @Prepared.of_state r r' r.project r.tasks h

theorem Prepared.trans {r'' : ProjectRecord} (h : Prepared r r') (h' : Prepared r' r'') :
    Prepared r r'' :=
  ⟨h'.artifacts.trans h.artifacts, h'.reviews.trans h.reviews, h'.checkpoints.trans h.checkpoints,
    h'.approvals.trans h.approvals⟩

/-- Decisions keep the ids of the requests and of the checkpoints. -/
theorem Decided.prepared {may : ActorContext → ApprovalActionType → Prop}
    {selected : ApprovalRequest → Bool} {decision : ApprovalRequest → ApprovalRequest}
    {mark : Checkpoint → Checkpoint} (h : Decided may selected decision mark r r')
    (hdecision : ∀ approval, (decision approval).id = approval.id)
    (hmark : ∀ checkpoint, (mark checkpoint).id = checkpoint.id) : Prepared r r' := by
  have hcheckpoints := ProjectRecord.checkpoints_of_state h.state
  have happrovals := ProjectRecord.approvals_of_state h.state
  dsimp only [ProjectRecord.state] at hcheckpoints happrovals
  refine ⟨(ProjectRecord.artifacts_of_state h.state :), (ProjectRecord.reviews_of_state h.state :),
    ?_, ?_⟩
  · rw [hcheckpoints]
    split
    · exact map_id_editCheckpoint hmark _
    · rfl
  · rw [happrovals, List.map_map]
    apply List.map_congr_left
    intro approval _
    show (if selected approval then decision approval else approval).id = approval.id
    split
    · exact hdecision approval
    · rfl

theorem Released.prepared (h : Released r r') : Prepared r r' :=
  .of_state h.state

theorem SentBack.prepared {reason : String} (h : SentBack reason r r') : Prepared r r' :=
  .of_state h.state

theorem Reset.prepared {departments : List Department} {noteReason : Option String}
    {nextStatus : ProjectStatus} (h : Reset departments noteReason nextStatus r r') :
    Prepared r r' :=
  .of_state h.state

variable (rt) in
theorem afterApproval_prepared {granted : ProjectRecord} (requested : Finset ApprovalActionType)
    (actor : ActorContext) (note : String) (hstate : granted.state = r.state) :
    Prepared r (afterApproval rt actor note r granted requested) :=
  (Prepared.of_same hstate).trans
    ((afterApproval_decided rt requested actor note hstate).prepared (fun _ => rfl) fun _ => rfl)

/-- The tasks that an approval runs on with. -/
theorem Released.tasks_eq {granted released : ProjectRecord} {actor : ActorContext} {note : String}
    (requested : Finset ApprovalActionType)
    (h : Released (afterApproval rt actor note r granted requested) released)
    (hstate : granted.state = r.state) : released.tasks = r.tasks.map (Task.move .pending none) := by
  have hgranted : granted.tasks = r.tasks := (ProjectRecord.tasks_of_state hstate :)
  have hdecided := afterApproval_decided rt requested actor note hstate
  rw [ProjectRecord.tasks_of_state h.state]
  dsimp only
  rw [ProjectRecord.tasks_of_state hdecided.state]
  dsimp only
  rw [ProjectRecord.state_tasks, hgranted]

/-- What an operation saves: a prepared record, or a prepared record after the pass it starts. -/
theorem saved_pass {operation : ProjectOperation} (h : savedBy (operation.body rt r) = some r') :
    Prepared r r' ∨ ∃ mid provider approved, Prepared r mid ∧
      Starts rt r operation provider approved mid.tasks ∧
      Executed rt provider approved false mid r' := by
  cases operation with
  | resumeFromApproval args =>
      obtain ⟨hstatus, hsaved⟩ := saved_resumeFromApproval h
      cases hsaved with
      | denied denied saved => exact .inl (.of_same (denied.state saved))
      | @partly requested granted _ checks grant missing some state edits =>
          exact .inl ((afterApproval_prepared rt requested _ _ grant.state).trans (.of_same state))
      | @fully requested granted released _ completion checks grant missing release executed saved =>
          obtain ⟨provider, hprovider, -, hexecuted⟩ := executed_of_saved release.status executed saved
          refine .inr ⟨released, provider, _,
            (afterApproval_prepared rt requested _ _ grant.state).trans release.prepared, ?_, hexecuted⟩
          rw [release.tasks_eq requested grant.state]
          exact .approval hstatus checks missing
            (fun actionType hmem => grant.allowed actionType (mem_sortedActions.mpr hmem)) hprovider
  | rejectApproval args =>
      obtain ⟨-, hsaved⟩ := saved_rejectApproval h
      cases hsaved with
      | denied denied saved => exact .inl (.of_same (denied.state saved))
      | @rejected named granted _ pending grant sentBack =>
          have hdecided := rejectPending_decided rt r (ProjectRecord.approvals_of_state grant.state :)
            named (coerceActor args.actor .approver) (normalizeText args.reason)
            (normalizeText args.note)
          exact .inl (((Prepared.of_same grant.state).trans
            (hdecided.prepared (fun _ => rfl) fun _ => rfl)).trans sentBack.prepared)
  | resumeFromRevision args =>
      obtain ⟨hstatus, hsaved⟩ := saved_resumeFromRevision h
      cases hsaved with
      | replanned mode reset => exact .inl reset.prepared
      | executed mode reset parsed executed saved =>
          obtain ⟨provider, hprovider, -, hexecuted⟩ := executed_of_saved reset.status executed saved
          refine .inr ⟨_, provider, _, reset.prepared, ?_, hexecuted⟩
          rw [ProjectRecord.tasks_of_state reset.state]
          exact .revision hstatus mode parsed hprovider
  | startReplanning args =>
      obtain ⟨hstatus, hsaved⟩ := saved_startReplanning h
      obtain ⟨approved, resumed, completion, hreset, hparsed, hexecuted, hsaved⟩ := hsaved.restarted
      obtain ⟨provider, hprovider, -, hpass⟩ := executed_of_saved hreset.status hexecuted hsaved
      refine .inr ⟨resumed, provider, approved, hreset.prepared, ?_, hpass⟩
      rw [ProjectRecord.tasks_of_state hreset.state]
      exact .replanning hstatus hparsed hprovider

end

/-! ## What a pass leaves behind -/

section Executed

variable {rt : Runtime} {provider : TrendProvider} {approvedActionSet : Finset ApprovalActionType}
  {simulateReviewFailure : Bool} {r r' : ProjectRecord}

/-- A pass opens at most one request, with the uuid of its call. -/
theorem Executed.approvals
    (h : Executed rt provider approvedActionSet simulateReviewFailure r r') :
    r'.approvals = r.approvals ∨ r'.approvals = r.approvals ++ [trendApprovalRequest rt] := by
  cases h with
  | @paused front back task s cut rounds trend unfinished missing state =>
      rw [rounds.paused_approvals state]
      split
      · exact .inl rfl
      · exact .inr rfl
  | revised rounds failed state =>
      rw [ProjectRecord.approvals_of_state state]
      exact .inl rounds.approvals
  | delivered rounds passed state =>
      rw [ProjectRecord.approvals_of_state state]
      exact .inl rounds.approvals

/-- Each trend artifact is one of the record's, or is made from an answer of the provider, behind the
    test in front of an unfinished trend task of the record. -/
def TrendsAnswered (provider : TrendProvider) (approvedActionSet : Finset ApprovalActionType)
    (r : ProjectRecord) (artifacts : List Artifact) : Prop :=
  ∀ artifact ∈ artifacts, artifact.artifactType = "trend_analysis" →
    artifact ∈ r.artifacts ∨ ∃ task ∈ r.tasks, ∃ trend, task.department = .trend ∧
      task.Unfinished ∧ trendApprovalMissing provider approvedActionSet = false ∧
      provider.analyze (trendRequest r.project.brief) = .ok trend ∧
      artifact.content = trend.modelDump

theorem Rounds.trendsAnswered {front : List Task} {s : LoopState}
    (h : Rounds provider approvedActionSet simulateReviewFailure 0 front { record := r } s)
    (hfront : ∀ task ∈ front, task ∈ r.tasks) :
    TrendsAnswered provider approvedActionSet r s.record.artifacts := by
  intro artifact hmem htype
  rcases h.trends artifact hmem htype with hold | ⟨task, htask, trend, hd, hopen, hanswer⟩
  · exact .inl hold
  · exact .inr ⟨task, hfront task htask, trend, hd, hopen, h.gate task htask hd hopen, hanswer⟩

theorem Executed.trends (h : Executed rt provider approvedActionSet simulateReviewFailure r r') :
    TrendsAnswered provider approvedActionSet r r'.artifacts := by
  cases h with
  | paused cut rounds trend unfinished missing state =>
      rw [(ProjectRecord.artifacts_of_state state :)]
      refine rounds.trendsAnswered fun task hmem => ?_
      rw [cut]
      exact List.mem_append_left _ hmem
  | revised rounds failed state =>
      rw [(ProjectRecord.artifacts_of_state state :)]
      exact rounds.trendsAnswered fun _ hmem => hmem
  | delivered rounds passed state =>
      rw [(ProjectRecord.artifacts_of_state state :)]
      exact rounds.trendsAnswered fun _ hmem => hmem

end Executed

end CodexOrchestrator
