import CodexOrchestrator.Orchestrator.Passes

/-!
# ApprovalGate — when an approval opens the gate of a waiting project

`resume_from_approval` compares sets of action types, while the decisions stand on single requests.
The two agree except in two cases.  A request whose type was approved before counts as approved, so
it stays pending and nobody is authorized for it; and an approval of some of the pending types marks
the approval checkpoint as approved while the rest is still pending.
-/

open Raise PyText

namespace CodexOrchestrator

/-- The approval checkpoint was not approved before the call, and is after it. -/
def CheckpointOpened (loaded after : ProjectRecord) : Prop :=
  ∃ (i : Nat) (before now : Checkpoint), loaded.checkpoints[i]? = some before ∧
    after.checkpoints[i]? = some now ∧ before.id = approvalCheckpointId loaded.project.id ∧
    before.approved = false ∧ now.approved = true

/-- When the gate opened, every request that was pending is approved, and the actor of the call was
    allowed to approve it. -/
def GateSound (loaded after : ProjectRecord) (actor : ActorContext)
    (allowList : Option (Dict (List String))) : Prop :=
  after.project.status ≠ .waitingApproval ∨ CheckpointOpened loaded after →
    ∀ (i : Nat) (request : ApprovalRequest), loaded.approvals[i]? = some request →
      request.status = .pending →
      (∃ approval, after.approvals[i]? = some approval ∧ approval.status = .approved) ∧
        Allowed loaded actor allowList request.actionType

/-- The pass stops in front of a trend task. -/
def Pauses (provider : TrendProvider) (approvedActionSet : Finset ApprovalActionType)
    (tasks : List Task) : Prop :=
  trendApprovalMissing provider approvedActionSet = true ∧
    ∃ task ∈ tasks, task.department = .trend ∧ task.Unfinished

/-- The two ways in which the gate opens too early: a call that approves a part of the pending types
    and finds the approval checkpoint not yet approved; a call that runs the plan on although the
    type of a pending request was approved before. -/
inductive OpensEarly (rt : Runtime) (args : ApprovalResumeArgs) (r : ProjectRecord) : Prop where
  | partly {requested : Finset ApprovalActionType} (checks : ApprovalChecks args r requested)
      (allowed : ∀ actionType ∈ actionsToApprove r requested, Allowed r
        (coerceActor args.actor .approver) args.projectAllowedActorIdsByAction actionType)
      (unnamed : missingActions r requested ≠ ∅)
      (named : ∃ request ∈ r.approvals, request.status = .pending ∧
        request.actionType ∈ actionsToApprove r requested)
      (unmarked : ∃ checkpoint, r.checkpoints.find? (fun checkpoint =>
        checkpoint.id = approvalCheckpointId r.project.id) = some checkpoint ∧
        checkpoint.approved = false)
  | fully {provider : TrendProvider} {approved : Finset ApprovalActionType} {tasks : List Task}
      (starts : Starts rt r (.resumeFromApproval args) provider approved tasks)
      (goes : ¬ Pauses provider approved tasks)
      (before : ∃ request ∈ r.approvals, request.status = .pending ∧
        request.actionType ∈ (approvalActionState r).approvedActions)

/-! ## The approval checkpoint -/

section Checkpoints

variable {checkpointId : String} {edit : Checkpoint → Checkpoint} {checkpoints : List Checkpoint}

/-- The edit touches the first checkpoint with the id. -/
theorem getElem?_editCheckpoint {i : Nat} {before now : Checkpoint}
    (hbefore : checkpoints[i]? = some before)
    (hnow : (editCheckpoint checkpointId edit checkpoints)[i]? = some now) :
    now = before ∨
      checkpoints.find? (fun checkpoint => checkpoint.id = checkpointId) = some before := by
  induction checkpoints generalizing i with
  | nil => cases hbefore
  | cons c rest ih =>
      rw [editCheckpoint] at hnow
      split at hnow
      · rename_i hid
        cases i with
        | zero =>
            cases hbefore
            exact .inr (List.find?_cons_of_pos (by simpa using hid))
        | succ i => exact .inl (Option.some.inj (hnow.symm.trans hbefore))
      · rename_i hid
        cases i with
        | zero => exact .inl (Option.some.inj (hnow.symm.trans hbefore))
        | succ i =>
            rw [List.find?_cons_of_neg (by simpa using hid)]
            exact ih hbefore hnow

theorem exists_editCheckpoint (edit : Checkpoint → Checkpoint) {checkpoint : Checkpoint}
    (h : checkpoints.find? (fun checkpoint => checkpoint.id = checkpointId) = some checkpoint) :
    ∃ i : Nat, checkpoints[i]? = some checkpoint ∧
      (editCheckpoint checkpointId edit checkpoints)[i]? = some (edit checkpoint) := by
  induction checkpoints with
  | nil => cases h
  | cons c rest ih =>
      rw [editCheckpoint]
      split
      · rename_i hid
        rw [List.find?_cons_of_pos (by simpa using hid)] at h
        cases h
        exact ⟨0, rfl, rfl⟩
      · rename_i hid
        rw [List.find?_cons_of_neg (by simpa using hid)] at h
        obtain ⟨i, hi, hedit⟩ := ih h
        exact ⟨i + 1, hi, hedit⟩

/-- The checkpoint that a pause writes replaces the edited one. -/
theorem upsert_editCheckpoint {checkpoint : Checkpoint}
    (hedit : ∀ c, (edit c).id = c.id) :
    upsertBy Checkpoint.id checkpoint (editCheckpoint checkpoint.id edit checkpoints) =
      upsertBy Checkpoint.id checkpoint checkpoints := by
  induction checkpoints with
  | nil => rfl
  | cons c rest ih =>
      rw [editCheckpoint]
      split
      · rename_i hid
        rw [upsertBy, if_pos ((hedit c).trans hid), upsertBy, if_pos hid]
      · rename_i hid
        rw [upsertBy, if_neg hid, upsertBy, if_neg hid, ih]

theorem getElem?_upsertBy {checkpoint before now : Checkpoint} {i : Nat}
    (hbefore : checkpoints[i]? = some before)
    (hnow : (upsertBy Checkpoint.id checkpoint checkpoints)[i]? = some now) :
    now = before ∨ now = checkpoint := by
  induction checkpoints generalizing i with
  | nil => cases hbefore
  | cons c rest ih =>
      rw [upsertBy] at hnow
      split at hnow
      · cases i with
        | zero => exact .inr (Option.some.inj hnow).symm
        | succ i => exact .inl (Option.some.inj (hnow.symm.trans hbefore))
      · cases i with
        | zero => exact .inl (Option.some.inj (hnow.symm.trans hbefore))
        | succ i => exact ih hbefore hnow

end Checkpoints

/-! ## One call -/

section Calls

variable {rt : Runtime} {args : ApprovalResumeArgs} {r r' : ProjectRecord}
  {actor : ActorContext} {allowList : Option (Dict (List String))}

/-- When nothing changes outside the logs, the gate stays closed. -/
theorem GateSound.of_same (hwaiting : r.project.status = .waitingApproval)
    (hstate : r'.state = r.state) : GateSound r r' actor allowList := by
  have hproject : r'.project = r.project := (ProjectRecord.project_of_state hstate :)
  have hcheckpoints : r'.checkpoints = r.checkpoints := (ProjectRecord.checkpoints_of_state hstate :)
  rintro (hleft | ⟨i, before, now, hbefore, hnow, -, hclosed, hopen⟩)
  · rw [hproject] at hleft
    exact absurd hwaiting hleft
  · rw [hcheckpoints, hbefore] at hnow
    rw [← Option.some.inj hnow, hclosed] at hopen
    cases hopen

/-- What a call that approves a part of the pending types does to the gate. -/
theorem gateSound_partly {requested : Finset ApprovalActionType} {granted : ProjectRecord}
    (note : String) (hwaiting : r.project.status = .waitingApproval)
    (hgranted : granted.state = r.state)
    (hstate : r'.state = (afterApproval rt actor note r granted requested).state)
    (hunmarked : ¬ ((∃ request ∈ r.approvals, request.status = .pending ∧
        request.actionType ∈ actionsToApprove r requested) ∧
      ∃ checkpoint, r.checkpoints.find? (fun checkpoint =>
        checkpoint.id = approvalCheckpointId r.project.id) = some checkpoint ∧
        checkpoint.approved = false)) : GateSound r r' actor allowList := by
  have hproject : r'.project = r.project :=
    (ProjectRecord.project_of_state hstate :).trans (afterApproval_project rt _ _ _ hgranted)
  have hcheckpoints : r'.checkpoints = _ :=
    (ProjectRecord.checkpoints_of_state hstate :).trans (afterApproval_checkpoints _ _ _ hgranted)
  rintro (hleft | ⟨i, before, now, hbefore, hnow, -, hclosed, hopen⟩)
  · rw [hproject] at hleft
    exact absurd hwaiting hleft
  · exfalso
    rw [hcheckpoints] at hnow
    split at hnow
    · rename_i hany
      obtain ⟨request, hmem, hhit⟩ := List.any_eq_true.mp hany
      simp only [Bool.and_eq_true, decide_eq_true_eq] at hhit
      -- the loop approves one checkpoint of the project, and only if it decided a request
      rcases getElem?_editCheckpoint hbefore hnow with hsame | hfound
      · rw [hsame, hclosed] at hopen
        cases hopen
      · exact hunmarked ⟨⟨request, hmem, hhit⟩, before, hfound, hclosed⟩
    · rw [hbefore] at hnow
      rw [← Option.some.inj hnow, hclosed] at hopen
      cases hopen

/-- Every request that a call approves stays approved to the end of its pass. -/
theorem approved_at {requested : Finset ApprovalActionType} {granted released : ProjectRecord}
    {provider : TrendProvider} {approved : Finset ApprovalActionType} {note : String}
    (hgranted : granted.state = r.state)
    (hreleased : Released (afterApproval rt actor note r granted requested) released)
    (hexecuted : Executed rt provider approved false released r') {i : Nat}
    {request : ApprovalRequest} (hi : r.approvals[i]? = some request)
    (hpending : request.status = .pending) :
    r'.approvals[i]? = some (if request.actionType ∈ actionsToApprove r requested then
      request.approve actor note else request) := by
  have hat : released.approvals[i]? = some (if request.actionType ∈ actionsToApprove r requested then
      request.approve actor note else request) := by
    rw [ProjectRecord.approvals_of_state hreleased.state]
    dsimp only
    rw [ProjectRecord.state_approvals, afterApproval_approvals _ _ _ hgranted, List.getElem?_map, hi,
      Option.map_some]
    simp [hpending]
  rcases hexecuted.approvals with happrovals | happrovals
  · rw [happrovals, hat]
  · rw [happrovals, List.getElem?_append_left (List.getElem?_eq_some_iff.mp hat).1, hat]

/-- A pass that pauses leaves the approval checkpoint unapproved. -/
theorem gateSound_paused {requested : Finset ApprovalActionType} {granted released : ProjectRecord}
    {provider : TrendProvider} {approved : Finset ApprovalActionType} {note : String}
    (hgranted : granted.state = r.state)
    (hreleased : Released (afterApproval rt actor note r granted requested) released)
    (hexecuted : Executed rt provider approved false released r')
    (hpauses : Pauses provider approved released.tasks) : GateSound r r' actor allowList := by
  obtain ⟨hmissing, task, hmem, htrend, hopen⟩ := hpauses
  have hproject : released.project.id = r.project.id := by
    rw [ProjectRecord.project_of_state hreleased.state]
    show (afterApproval rt actor note r granted requested).project.id = _
    rw [afterApproval_project rt _ _ _ hgranted]
  cases hexecuted with
  | @paused front back stopped s cut rounds trend unfinished missing state =>
      have hcheckpoints : r'.checkpoints =
          upsertBy Checkpoint.id (approvalCheckpoint r.project.id) r.checkpoints := by
        rw [rounds.paused_checkpoints state, hproject,
          ProjectRecord.checkpoints_of_state hreleased.state]
        dsimp only
        rw [ProjectRecord.state_checkpoints, afterApproval_checkpoints _ _ _ hgranted]
        split
        -- what the loop marked is replaced by the open checkpoint of the new pause
        · exact upsert_editCheckpoint fun _ => rfl
        · rfl
      rintro (hleft | ⟨i, before, now, hbefore, hnow, -, hclosed, hnowOpen⟩)
      · rw [ProjectRecord.project_of_state state] at hleft
        exact absurd rfl hleft
      · exfalso
        rw [hcheckpoints] at hnow
        rcases getElem?_upsertBy hbefore hnow with hsame | hsame
        · rw [hsame, hclosed] at hnowOpen
          cases hnowOpen
        · rw [hsame] at hnowOpen
          cases hnowOpen
  -- a pass that ends has passed the trend task, so its gate was open
  | revised rounds failed state =>
      rw [rounds.gate task hmem htrend hopen] at hmissing
      cases hmissing
  | delivered rounds passed state =>
      rw [rounds.gate task hmem htrend hopen] at hmissing
      cases hmissing

/-- A call that approves a part of the pending types opens an unmarked checkpoint too early. -/
theorem not_gateSound_partly {requested : Finset ApprovalActionType} {granted : ProjectRecord}
    {note : String} (hgranted : granted.state = r.state)
    (hstate : r'.state = (afterApproval rt actor note r granted requested).state)
    (hunnamed : missingActions r requested ≠ ∅)
    (hnamed : ∃ request ∈ r.approvals, request.status = .pending ∧
      request.actionType ∈ actionsToApprove r requested)
    (hunmarked : ∃ checkpoint, r.checkpoints.find? (fun checkpoint =>
      checkpoint.id = approvalCheckpointId r.project.id) = some checkpoint ∧
      checkpoint.approved = false) : ¬ GateSound r r' actor allowList := by
  intro hsound
  have happrovals : r'.approvals = _ :=
    (ProjectRecord.approvals_of_state hstate :).trans (afterApproval_approvals _ _ _ hgranted)
  have hcheckpoints : r'.checkpoints = _ :=
    (ProjectRecord.checkpoints_of_state hstate :).trans (afterApproval_checkpoints _ _ _ hgranted)
  have hopened : CheckpointOpened r r' := by
    obtain ⟨request, hmem, hpending, hselected⟩ := hnamed
    obtain ⟨checkpoint, hfound, hclosed⟩ := hunmarked
    have hid := List.find?_some hfound
    let mark := Checkpoint.decided true actor.actorId
      (orElse note "Approved `external_api_send` to continue trend analysis.")
    obtain ⟨i, hbefore, hnow⟩ := exists_editCheckpoint mark hfound
    refine ⟨i, checkpoint, mark checkpoint, hbefore, ?_, of_decide_eq_true hid, hclosed, rfl⟩
    rw [hcheckpoints, if_pos, hnow]
    exact List.any_eq_true.mpr ⟨request, hmem, by simp [hpending, hselected]⟩
  -- a request of a type that was left out is still pending
  obtain ⟨actionType, hmissing⟩ := Finset.nonempty_iff_ne_empty.mpr hunnamed
  obtain ⟨hpendingType, hleftOut⟩ := Finset.mem_sdiff.mp hmissing
  obtain ⟨request, hmem, hpending, rfl⟩ := mem_approvalActionTypes.mp hpendingType
  obtain ⟨i, hi⟩ := List.mem_iff_getElem?.mp hmem
  obtain ⟨⟨approval, hat, happroved⟩, -⟩ := hsound (.inr hopened) i request hi hpending
  have hskipped : request.actionType ∉ actionsToApprove r requested :=
    fun hin => hleftOut (Finset.sdiff_subset hin)
  rw [happrovals, List.getElem?_map, hi, Option.map_some] at hat
  simp only [hskipped, decide_false, Bool.and_false, Bool.false_eq_true, if_false,
    Option.some.injEq] at hat
  rw [← hat, hpending] at happroved
  cases happroved

/-- A call that runs the plan on leaves a request pending whose type was approved before. -/
theorem not_gateSound_fully {requested : Finset ApprovalActionType} {granted released : ProjectRecord}
    {provider : TrendProvider} {approved : Finset ApprovalActionType} {note : String}
    (hgranted : granted.state = r.state)
    (hreleased : Released (afterApproval rt actor note r granted requested) released)
    (hexecuted : Executed rt provider approved false released r')
    (hgoes : ¬ Pauses provider approved released.tasks)
    (hbefore : ∃ request ∈ r.approvals, request.status = .pending ∧
      request.actionType ∈ (approvalActionState r).approvedActions) :
    ¬ GateSound r r' actor allowList := by
  intro hsound
  have hleft : r'.project.status ≠ .waitingApproval := by
    cases hexecuted with
    | paused cut rounds trend unfinished missing state =>
        refine absurd ⟨missing, _, ?_, trend, unfinished⟩ hgoes
        rw [cut]
        exact List.mem_append_right _ List.mem_cons_self
    | revised rounds failed state =>
        rw [ProjectRecord.project_of_state state]
        exact fun hstatus => by cases hstatus
    | delivered rounds passed state =>
        rw [ProjectRecord.project_of_state state]
        exact fun hstatus => by cases hstatus
  obtain ⟨request, hmem, hpending, hold⟩ := hbefore
  obtain ⟨i, hi⟩ := List.mem_iff_getElem?.mp hmem
  obtain ⟨⟨approval, hat, happroved⟩, -⟩ := hsound (.inl hleft) i request hi hpending
  -- the type was approved before, so the loop skips its pending request
  have hskipped : request.actionType ∉ actionsToApprove r requested :=
    fun hin => (Finset.mem_sdiff.mp hin).2 hold
  rw [approved_at hgranted hreleased hexecuted hi hpending, if_neg hskipped] at hat
  rw [← Option.some.inj hat, hpending] at happroved
  cases happroved

/-- The saved version of a call that opens the gate only as it should. -/
theorem gateSound_saved (hsaved : ApprovalResumeSaved rt args r r')
    (hwaiting : r.project.status = .waitingApproval) (hsound : ¬ OpensEarly rt args r) :
    GateSound r r' (coerceActor args.actor .approver) args.projectAllowedActorIdsByAction := by
  cases hsaved with
  | denied denied saved => exact .of_same hwaiting (denied.state saved)
  | @partly requested granted _ checks grant missing some state edits =>
      have hallowed := fun actionType hmem => grant.allowed actionType (mem_sortedActions.mpr hmem)
      exact gateSound_partly _ hwaiting grant.state state fun ⟨hnamed, hunmarked⟩ =>
        hsound (.partly checks hallowed missing hnamed hunmarked)
  | @fully requested granted released _ completion checks grant missing release executed saved =>
      obtain ⟨provider, hprovider, -, hexecuted⟩ := executed_of_saved release.status executed saved
      have hallowed := fun actionType hmem => grant.allowed actionType (mem_sortedActions.mpr hmem)
      by_cases hpauses : Pauses provider
          ((approvalActionState r).approvedActions ∪ actionsToApprove r requested) released.tasks
      · exact gateSound_paused grant.state release hexecuted hpauses
      · intro _ i request hi hpending
        have hmem := List.mem_of_getElem? hi
        -- a type that was approved before would have opened the gate early
        have hnew : request.actionType ∉ (approvalActionState r).approvedActions := by
          intro hold
          rw [release.tasks_eq requested grant.state] at hpauses
          exact hsound (.fully (.approval hwaiting checks missing hallowed hprovider) hpauses
            ⟨request, hmem, hpending, hold⟩)
        have hnamed : request.actionType ∈ requested := by
          rw [missingActions, Finset.sdiff_eq_empty_iff_subset] at missing
          exact missing (mem_approvalActionTypes.mpr ⟨request, hmem, hpending, rfl⟩)
        have hselected : request.actionType ∈ actionsToApprove r requested :=
          Finset.mem_sdiff.mpr ⟨hnamed, hnew⟩
        refine ⟨⟨_, approved_at grant.state release hexecuted hi hpending, ?_⟩, hallowed _ hselected⟩
        rw [if_pos hselected]
        rfl

end Calls

/-- For every stored project that waits for approval, the gate opens only as it should, if and only
    if the call is not of one of the two kinds that open it too early. -/
theorem approval_gate_iff {repository : InMemoryProjectRepository} {projectId : String}
    {record after : ProjectRecord} (env : Environment) (args : ApprovalResumeArgs)
    (hget : repository.get projectId = some record)
    (hwaiting : record.project.status = .waitingApproval)
    (hafter : (perform env.runtime repository
      (.onProject projectId (.resumeFromApproval args))).1.get projectId = some after) :
    GateSound record after (coerceActor args.actor .approver) args.projectAllowedActorIdsByAction ↔
      ¬ OpensEarly env.runtime args record := by
  constructor
  · intro hsound hearly
    cases hearly with
    | @partly requested checks allowed unnamed named unmarked =>
        have hsome : actionsToApprove record requested ≠ ∅ := by
          obtain ⟨request, -, -, hmem⟩ := named
          exact Finset.ne_empty_of_mem hmem
        obtain ⟨granted, saved, nextSteps, hgranted, hok, hstate⟩ :=
          @resumeFromApproval_partly env.runtime record args requested hwaiting checks allowed unnamed
            hsome
        have hsavedBy : savedBy ((ProjectOperation.resumeFromApproval args).body env.runtime record) =
            some saved := by
          show savedBy (resumeFromApproval env.runtime args record) = _
          rw [hok]
          rfl
        rw [get_of_saved hget hsavedBy] at hafter
        cases hafter
        exact not_gateSound_partly hgranted hstate unnamed named unmarked hsound
    | @fully provider approved tasks starts goes before =>
        cases starts with
        | @approval _ requested _ status checks named allowed supported =>
            have hanswers : provider.Answers := by
              rw [Environment.runtime_getTrendProvider] at supported
              exact getTrendProvider_answers supported
            obtain ⟨granted, released, completion, saved, hgranted, hreleased, hcompletion, hsaved,
              hexecuted⟩ := resumeFromApproval_fully status checks allowed named supported hanswers
            have hsavedBy : savedBy ((ProjectOperation.resumeFromApproval args).body env.runtime
                record) = some saved := by
              show savedBy (resumeFromApproval env.runtime args record) = _
              rw [hcompletion]
              exact hsaved
            rw [get_of_saved hget hsavedBy] at hafter
            cases hafter
            rw [← hreleased.tasks_eq requested hgranted] at goes
            exact not_gateSound_fully hgranted hreleased hexecuted goes before hsound
  · intro hsound
    cases hsaved : savedBy ((ProjectOperation.resumeFromApproval args).body env.runtime record) with
    | none =>
        rw [get_of_unsaved hget hsaved] at hafter
        cases hafter
        exact .of_same hwaiting rfl
    | some saved =>
        rw [get_of_saved hget hsaved] at hafter
        cases hafter
        exact gateSound_saved (saved_resumeFromApproval hsaved).2 hwaiting hsound

theorem approval_gate_iff_sample : ∃ record after,
    (afterCalls [sampleRun]).get "p" = some record ∧
    (perform sampleApproval.env.runtime (afterCalls [sampleRun])
      (.onProject "p" (.resumeFromApproval sampleApprovalArgs))).1.get "p" = some after ∧
    GateSound record after sampleOwner none := by
  have hstored : ((afterCalls [sampleRun]).get "p").any (fun record =>
      decide (record.project.status = .waitingApproval) &&
      decide (missingActions record {.externalApiSend} = ∅) &&
      decide ((approvalActionState record).approvedActions = ∅)) = true := by decide
  have hafter : ((perform sampleApproval.env.runtime (afterCalls [sampleRun])
      (.onProject "p" (.resumeFromApproval sampleApprovalArgs))).1.get "p").isSome = true := by decide
  obtain ⟨record, hget, hfacts⟩ := (Option.any_eq_true _ _).mp hstored
  simp only [Bool.and_eq_true, decide_eq_true_eq] at hfacts
  obtain ⟨⟨hwaiting, hmissing⟩, hnone⟩ := hfacts
  obtain ⟨after, hafter⟩ := Option.isSome_iff_exists.mp hafter
  refine ⟨record, after, hget, hafter,
    (approval_gate_iff sampleApproval.env sampleApprovalArgs hget hwaiting hafter).mpr ?_⟩
  rintro (⟨checks, -, unnamed, -, -⟩ | ⟨-, -, request, -, -, hold⟩)
  · have hparsed : parseApprovedActions sampleApprovalArgs.approvedActions = .ok {.externalApiSend} := rfl
    rw [← Except.ok.inj (hparsed.symm.trans checks.parsed)] at unnamed
    exact unnamed hmissing
  · rw [hnone] at hold
    exact absurd hold (Finset.notMem_empty _)

/-- A waiting project with the given requests. -/
def sampleWaiting (approvals : List ApprovalRequest) : ProjectRecord where
  project := { id := "p", brief := sampleBrief, status := .waitingApproval }
  tasks := buildPlan.map (Task.withStatus .done)
  checkpoints := [approvalCheckpoint "p"]
  approvals := approvals

/-- Two pending requests of different types. -/
def sampleTwoTypes : ProjectRecord :=
  sampleWaiting [{ id := "a", actionType := .externalApiSend, reason := "" },
    { id := "b", actionType := .bulkModify, reason := "" }]

/-- A pending request of a type that was approved before. -/
def sampleRepeated : ProjectRecord :=
  sampleWaiting [{ id := "a", actionType := .externalApiSend, status := .approved, reason := "" },
    { id := "b", actionType := .externalApiSend, reason := "" }]

/-- A viewer names the external send. -/
def sampleViewerArgs : ApprovalResumeArgs where
  approvedActions := [.action .externalApiSend]
  actor := .context ⟨"guest", .viewer, .human⟩

/-- The owner's approval of one of two types opens the checkpoint; a viewer, whom nobody authorizes,
    opens the gate of a project with a repeated type. -/
theorem gate_opens_early :
    (∃ after, (perform sampleApproval.env.runtime (.save .new sampleTwoTypes)
        (.onProject "p" (.resumeFromApproval sampleApprovalArgs))).1.get "p" = some after ∧
      ¬ GateSound sampleTwoTypes after sampleOwner none) ∧
    ∃ after, (perform sampleApproval.env.runtime (.save .new sampleRepeated)
        (.onProject "p" (.resumeFromApproval sampleViewerArgs))).1.get "p" = some after ∧
      ¬ GateSound sampleRepeated after ⟨"guest", .viewer, .human⟩ none := by
  constructor
  · have hafter : ((perform sampleApproval.env.runtime (.save .new sampleTwoTypes)
        (.onProject "p" (.resumeFromApproval sampleApprovalArgs))).1.get "p").any (fun after =>
          after.checkpoints.any (fun checkpoint => checkpoint.approved) &&
          decide (after.checkpoints.length = 1) &&
          decide (after.approvals[1]?.map ApprovalRequest.status = some .pending)) = true := by decide
    obtain ⟨after, hget, hfacts⟩ := (Option.any_eq_true _ _).mp hafter
    simp only [Bool.and_eq_true, decide_eq_true_eq] at hfacts
    obtain ⟨⟨hopened, hone⟩, hpending⟩ := hfacts
    obtain ⟨checkpoint, hcheckpoint⟩ := List.length_eq_one_iff.mp hone
    rw [hcheckpoint] at hopened
    refine ⟨after, hget, fun hsound => ?_⟩
    have hnow : after.checkpoints[0]? = some checkpoint := by rw [hcheckpoint]; rfl
    obtain ⟨⟨approval, hat, happroved⟩, -⟩ := hsound
      (.inr ⟨0, approvalCheckpoint "p", checkpoint, rfl, hnow, rfl, rfl, by simpa using hopened⟩)
      1 _ rfl rfl
    rw [hat, Option.map_some, happroved] at hpending
    cases hpending
  · have hafter : ((perform sampleApproval.env.runtime (.save .new sampleRepeated)
        (.onProject "p" (.resumeFromApproval sampleViewerArgs))).1.get "p").any (fun after =>
          decide (after.project.status = .completed) &&
          decide (after.approvals[1]?.map ApprovalRequest.status = some .pending)) = true := by decide
    obtain ⟨after, hget, hfacts⟩ := (Option.any_eq_true _ _).mp hafter
    simp only [Bool.and_eq_true, decide_eq_true_eq] at hfacts
    obtain ⟨hcompleted, hpending⟩ := hfacts
    refine ⟨after, hget, fun hsound => ?_⟩
    have hleft : after.project.status ≠ .waitingApproval := by rw [hcompleted]; decide
    obtain ⟨⟨approval, hat, happroved⟩, -⟩ := hsound (.inl hleft) 1 _ rfl rfl
    rw [hat, Option.map_some, happroved] at hpending
    cases hpending

end CodexOrchestrator
