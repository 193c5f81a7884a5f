import CodexOrchestrator.Lifecycle
import CodexOrchestrator.Orchestrator.Trace

/-!
# Freshness — tasks run on finished outputs

A task is started when everything it depends on is done, and it is finished while nothing that
depends on it is done.  So the log of every stored record is a legal schedule of the plan, and a
delivered output was made from the final versions of what it depends on.
-/

open PyText Raise Schedule

namespace CodexOrchestrator

/-- In the plan, `t` depends on `d`. -/
def PlanDependsOn (t d : String) : Prop :=
  ∃ task ∈ buildPlan, task.id = t ∧ d ∈ task.dependsOn

/-- The task as it was planned. -/
def Task.planned (task : Task) : Task := task.stage.1

/-- The log replays to the record, its tasks are those of the plan, and it is a legal schedule. -/
structure Sound (r : ProjectRecord) : Prop where
  replays : Replays r
  plan : r.tasks.map Task.planned = buildPlan
  legal : Legal PlanDependsOn (moves r.events)

/-- Done up to some task, and put back from there on. -/
def Frontier : List TaskStatus → Prop
  | [] => True
  | status :: rest =>
      (status = .done ∧ Frontier rest) ∨ ∀ s ∈ status :: rest, s.move = .putBack

/-! ## The plan -/

/-- The plan lists every task behind the tasks it depends on. -/
theorem buildPlan_ordered {front back : List Task} {task : Task}
    (h : buildPlan = front ++ task :: back) : ∀ d ∈ task.dependsOn, d ∈ front.map Task.id := by
  have hall : ∀ i < buildPlan.length, ∀ t, buildPlan[i]? = some t →
      ∀ d ∈ t.dependsOn, d ∈ (buildPlan.take i).map Task.id := by decide
  have hget : buildPlan[front.length]? = some task := by rw [h, Loops.get_at_cut]
  have htake : buildPlan.take front.length = front := by rw [h, List.take_left]
  have hfront := hall front.length (List.getElem?_eq_some_iff.mp hget).1 task hget
  rw [htake] at hfront
  exact hfront

theorem buildPlan_nodup : (buildPlan.map Task.id).Nodup := by decide

/-- A task keeps its place in the plan, whatever is edited. -/
theorem Edit.plan {may : ActorContext → ApprovalActionType → Prop} {r r' : ProjectRecord}
    (h : Edit may r r') : r'.tasks.map Task.planned = r.tasks.map Task.planned := by
  have hcore : ∀ tasks : List Task, tasks.map Task.planned =
      (tasks.map Task.core).map Task.planned := by
    intro tasks
    rw [List.map_map]
    rfl
  cases h with
  | annotate same => rw [hcore, same.tasks, ← hcore]
  | log => rfl
  | transition => rfl
  | @task i task nextStatus event found =>
      obtain ⟨hlt, hget⟩ := List.getElem?_eq_some_iff.mp found
      dsimp only
      rw [List.map_set]
      show (r.tasks.map Task.planned).set i task.planned = _
      rw [← hget, ← List.getElem_map Task.planned, List.set_getElem_self]
      rw [List.length_map]
      exact hlt
  | request => rfl
  | decide => rfl

/-! ## One task -/

section Sound

variable {rt : Runtime} {r r' : ProjectRecord} {seen rest : List Task} {task : Task}

theorem Sound.edits (h : Sound r) {may : ActorContext → ApprovalActionType → Prop}
    (hedits : Edits may r r') (hlegal : Legal PlanDependsOn (moves r'.events)) : Sound r' where
  replays := hedits.keeps (fun he hr => hr.edit he) h.replays
  plan := @Edits.keeps may r r' (fun r => r.tasks.map Task.planned = buildPlan)
    (fun he hr => he.plan.trans hr) hedits h.plan
  legal := hlegal

theorem Sound.calm (h : Sound r) (hcalm : Calm r r') : Sound r' := by
  obtain ⟨later, hmoves, hback⟩ := hcalm.trace
  refine h.edits hcalm.edits ?_
  rw [hmoves]
  exact h.legal.putBacks hback

/-- The last move of a task of the record. -/
theorem Sound.lastMove (h : Sound r) (hmem : task ∈ r.tasks) :
    lastMove (moves r.events) task.id = task.status.move := by
  rw [lastMove_moves, (h.replays.tasks task hmem).replayedStatus]

/-- What a task depends on in the plan stands in front of it. -/
theorem Sound.dependency (h : Sound r) (hcut : r.tasks = seen ++ task :: rest) {d : String}
    (hd : PlanDependsOn task.id d) : ∃ dependency ∈ seen, dependency.id = d := by
  have hplan := h.plan
  rw [hcut, List.map_append, List.map_cons] at hplan
  obtain ⟨other, hother, hid, hdepends⟩ := hd
  have hsame : other = task.planned := by
    refine List.inj_on_of_nodup_map buildPlan_nodup hother ?_ hid
    rw [← hplan]
    exact List.mem_append_right _ List.mem_cons_self
  rw [hsame] at hdepends
  have hmem := buildPlan_ordered hplan.symm d hdepends
  rw [List.map_map] at hmem
  obtain ⟨dependency, hdependency, rfl⟩ := List.mem_map.mp hmem
  exact ⟨dependency, hdependency, rfl⟩

/-- What depends on a task in the plan stands behind it. -/
theorem Sound.dependent (h : Sound r) (hcut : r.tasks = seen ++ task :: rest) {u : String}
    (hu : PlanDependsOn u task.id) : ∃ dependent ∈ rest, dependent.id = u := by
  have hdistinct := h.replays.distinct
  have hmem : ∃ dependent ∈ r.tasks, dependent.id = u := by
    obtain ⟨other, hother, hid, -⟩ := hu
    rw [← h.plan] at hother
    obtain ⟨dependent, hdependent, rfl⟩ := List.mem_map.mp hother
    exact ⟨dependent, hdependent, hid⟩
  obtain ⟨dependent, hdependent, rfl⟩ := hmem
  obtain ⟨front, back, hcut'⟩ := List.append_of_mem hdependent
  obtain ⟨earlier, hearlier, hid⟩ := h.dependency hcut' hu
  -- `task` stands in front of its dependent, and only once in the list
  refine ⟨dependent, ?_, rfl⟩
  obtain ⟨front', between, hfront⟩ := List.append_of_mem hearlier
  have hsplit : r.tasks = front' ++ earlier :: (between ++ dependent :: back) := by
    rw [hcut', hfront, List.append_assoc, List.cons_append]
  -- the ids are distinct, so both cuts are at the same place
  have hlength : front'.length = seen.length := by
    have hi : (r.tasks.map Task.id)[front'.length]? = some task.id := by
      rw [List.getElem?_map, hsplit, Loops.get_at_cut, Option.map_some, hid]
    have hj : (r.tasks.map Task.id)[seen.length]? = some task.id := by
      rw [List.getElem?_map, hcut, Loops.get_at_cut, Option.map_some]
    exact (List.getElem?_inj (List.getElem?_eq_some_iff.mp hi).1 hdistinct).mp (hi.trans hj.symm)
  have hrest : task :: rest = earlier :: (between ++ dependent :: back) :=
    (List.append_inj (hcut.symm.trans hsplit) hlength.symm).2
  rw [(List.cons.inj hrest).2]
  exact List.mem_append_right _ List.mem_cons_self

/-- A task may start behind tasks that are done. -/
theorem Sound.start (h : Sound r) (hcut : r.tasks = seen ++ task :: rest)
    (hseen : ∀ t ∈ seen, t.status = .done) (hback : task.status.move = .putBack)
    (actor : ActorContext) (reason : String) :
    Sound (setTaskStatus rt r seen.length .inProgress actor reason) := by
  have hi : r.tasks[seen.length]? = some task := by rw [hcut, Loops.get_at_cut]
  have hne : task.status ≠ .inProgress := by
    intro hrunning
    rw [hrunning] at hback
    cases hback
  have hedits : Edits anybody r (setTaskStatus rt r seen.length .inProgress actor reason) :=
    edits_setTaskStatus rt _ _ _ _
  refine h.edits hedits ?_
  rw [moves_setTaskStatus rt actor reason hi hne]
  refine h.legal.start fun d hd => ?_
  obtain ⟨dependency, hdependency, rfl⟩ := h.dependency hcut hd
  have hmem : dependency ∈ r.tasks := by
    rw [hcut]
    exact List.mem_append_left _ hdependency
  rw [h.lastMove hmem, hseen dependency hdependency]
  rfl

/-- A running task may finish in front of tasks that are put back. -/
theorem Sound.finish (h : Sound r) (hcut : r.tasks = seen ++ task :: rest)
    (hrunning : task.status = .inProgress) (hrest : ∀ t ∈ rest, t.status.move = .putBack)
    (actor : ActorContext) (reason : String) :
    Sound (setTaskStatus rt r seen.length .done actor reason) := by
  have hi : r.tasks[seen.length]? = some task := by rw [hcut, Loops.get_at_cut]
  have hmem : ∀ t ∈ task :: rest, t ∈ r.tasks := by
    intro t ht
    rw [hcut]
    exact List.mem_append_right _ ht
  have hne : task.status ≠ .done := by
    rw [hrunning]
    decide
  have hedits : Edits anybody r (setTaskStatus rt r seen.length .done actor reason) :=
    edits_setTaskStatus rt _ _ _ _
  refine h.edits hedits ?_
  rw [moves_setTaskStatus rt actor reason hi hne]
  refine h.legal.finish ?_ fun u hu => ?_
  · rw [h.lastMove (hmem task List.mem_cons_self), hrunning]
    rfl
  · obtain ⟨dependent, hdependent, rfl⟩ := h.dependent hcut hu
    rw [h.lastMove (hmem dependent (List.mem_cons_of_mem _ hdependent)),
      hrest dependent hdependent]

/-- A task runs behind tasks that are done and in front of tasks that are put back. -/
theorem Sound.ran (h : Sound r) (hcut : r.tasks = seen ++ task :: rest)
    (hseen : ∀ t ∈ seen, t.status = .done) (hback : ∀ t ∈ task :: rest, t.status.move = .putBack)
    (actor : ActorContext) (artifacts : List Artifact) (reviews : List Review) :
    Sound (ranTask rt actor r seen.length artifacts reviews) := by
  have hstarted : Sound (setTaskStatus rt r seen.length .inProgress actor "") :=
    h.start hcut hseen (hback task List.mem_cons_self) actor ""
  have hwritten : Sound { setTaskStatus rt r seen.length .inProgress actor "" with
      artifacts, reviews } :=
    hstarted.calm (.of_events (.of (.annotate ⟨rfl, rfl, rfl, rfl, rfl⟩)) rfl)
  have htasks : (setTaskStatus rt r seen.length .inProgress actor "").tasks =
      seen ++ task.withStatus .inProgress :: rest :=
    (ProjectRecord.tasks_of_state (setTaskStatus_at_cut rt .inProgress actor "" hcut) :)
  exact hwritten.finish htasks rfl (fun t ht => hback t (List.mem_cons_of_mem _ ht)) actor ""

end Sound

/-! ## A pass over the plan -/

section Pass

variable {rt : Runtime} {provider : TrendProvider} {approvedActionSet : Finset ApprovalActionType}
  {simulateReviewFailure : Bool} {actor : ActorContext} {r r' : ProjectRecord}
  {seen rest tasks : List Task} {task : Task} {s s' : LoopState} {completion : Completion}

/-- The completion saves a sound record. -/
def Completion.Sound (completion : Completion) : Prop :=
  ∃ r', completion.saved = some r' ∧ CodexOrchestrator.Sound r'

/-- Either way a round ends, the record is sound. -/
def LoopExit.Sound : LoopExit → Prop
  | .paused completion => completion.Sound
  | .finished s => CodexOrchestrator.Sound s.record

/-- The round of an unfinished task is a run of the task. -/
theorem ranTask_of_executeTask {i : Nat} (hopen : task.Unfinished)
    (h : executeTask rt provider approvedActionSet simulateReviewFailure actor i task s =
      .ok (.finished s')) :
    ∃ artifacts reviews, s'.record = ranTask rt actor s.record i artifacts reviews := by
  unfold executeTask at h
  rw [if_neg hopen] at h
  dsimp only at h
  split at h
  · rw [← LoopExit.finished.inj (Except.ok.inj h)]
    exact ⟨_, _, rfl⟩
  · rw [← LoopExit.finished.inj (Except.ok.inj h)]
    exact ⟨_, _, rfl⟩
  · rw [← LoopExit.finished.inj (Except.ok.inj h)]
    exact ⟨_, _, rfl⟩
  · split at h
    · obtain ⟨paused, -, h⟩ := bind_eq_ok.mp h
      cases h
    · obtain ⟨artifact, -, h⟩ := bind_eq_ok.mp h
      rw [← LoopExit.finished.inj (Except.ok.inj h)]
      exact ⟨_, _, rfl⟩
  · rw [← LoopExit.finished.inj (Except.ok.inj h)]
    exact ⟨_, _, rfl⟩

/-- The pause puts the started task back. -/
theorem calm_pauseForApproval {i : Nat} (h : pauseForApproval rt r i actor = .ok completion) :
    ∃ r', completion.saved = some r' ∧ Calm r r' := by
  obtain ⟨paused, hpaused, h⟩ := bind_eq_ok.mp h
  refine ⟨paused, ?_, ?_⟩
  · rw [← Except.ok.inj h]
  · have hwaiting : Calm r (setTaskStatus rt r i .waitingApproval actor
        "Required action approval is missing.") := calm_setTaskStatus i actor _ rfl
    exact ((hwaiting.trans (calm_requestTrendApproval rt _)).trans (calm_upsertCheckpoint _)).trans
      (calm_transition hpaused)

theorem frontier_of_done (h : Frontier ((task :: rest).map Task.status)) (hdone : task.status = .done) :
    Frontier (rest.map Task.status) := by
  rcases h with ⟨-, hrest⟩ | hback
  · exact hrest
  · have hself := hback task.status List.mem_cons_self
    rw [hdone] at hself
    cases hself

theorem putBack_of_open (h : Frontier ((task :: rest).map Task.status)) (hopen : task.Unfinished) :
    ∀ t ∈ task :: rest, t.status.move = .putBack := by
  rcases h with ⟨hdone, -⟩ | hback
  · exact absurd hdone hopen
  · exact fun t ht => hback t.status (List.mem_map_of_mem ht)

theorem frontier_of_putBack (h : ∀ t ∈ rest, t.status.move = .putBack) :
    Frontier (rest.map Task.status) := by
  cases rest with
  | nil => exact trivial
  | cons t rest =>
      refine .inr ?_
      show ∀ status ∈ (t :: rest).map Task.status, status.move = .putBack
      intro status hmem
      obtain ⟨u, hu, rfl⟩ := List.mem_map.mp hmem
      exact h u hu

/-- One round of the loop keeps the log legal, and moves the frontier by one task. -/
theorem sound_executeTask {exit : LoopExit} (hs : Sound s.record)
    (hcut : s.record.tasks = seen ++ task :: rest) (hseen : ∀ t ∈ seen, t.status = .done)
    (hfrontier : Frontier ((task :: rest).map Task.status))
    (h : executeTask rt provider approvedActionSet simulateReviewFailure actor seen.length task s =
      .ok exit) : exit.Sound ∧ Frontier (rest.map Task.status) := by
  by_cases hdone : task.status = .done
  · -- a finished task is skipped, and its round changes nothing
    unfold executeTask at h
    rw [if_pos hdone] at h
    cases h
    exact ⟨hs, frontier_of_done hfrontier hdone⟩
  · have hback := putBack_of_open hfrontier hdone
    refine ⟨?_, frontier_of_putBack fun t ht => hback t (List.mem_cons_of_mem _ ht)⟩
    cases exit with
    | paused completion =>
        obtain ⟨-, -, -, hpause⟩ := paused_of_executeTask h
        obtain ⟨r', hsaved, hcalm⟩ := calm_pauseForApproval hpause
        have hstarted : Sound (setTaskStatus rt s.record seen.length .inProgress actor "") :=
          hs.start hcut hseen (hback task List.mem_cons_self) actor ""
        exact ⟨r', hsaved, hstarted.calm hcalm⟩
    | finished s₁ =>
        obtain ⟨artifacts, reviews, hran⟩ := ranTask_of_executeTask hdone h
        show Sound s₁.record
        rw [hran]
        exact hs.ran hcut hseen hback actor artifacts reviews

/-- The task loop keeps the log legal: behind it everything is done, in front of it the tasks are
    done up to the frontier. -/
theorem sound_executeTasks {exit : LoopExit} (hs : Sound s.record)
    (hcut : s.record.tasks = seen ++ tasks) (hseen : ∀ t ∈ seen, t.status = .done)
    (hfrontier : Frontier (tasks.map Task.status))
    (h : executeTasks rt provider approvedActionSet simulateReviewFailure actor seen.length tasks s =
      .ok exit) : exit.Sound := by
  induction tasks generalizing seen s with
  | nil =>
      cases h
      exact hs
  | cons task rest ih =>
      rw [executeTasks] at h
      obtain ⟨roundExit, hround, h⟩ := bind_eq_ok.mp h
      obtain ⟨hsound, hrest⟩ := sound_executeTask hs hcut hseen hfrontier hround
      cases roundExit with
      | paused completion =>
          cases h
          exact hsound
      | finished s₁ =>
          have hi : s.record.tasks[seen.length]? = some task := by rw [hcut, Loops.get_at_cut]
          have hnext := (round_of_executeTask hi hround).tasks_at_cut hcut
          have hlen : seen.length + 1 = (seen ++ [task.withStatus .done]).length := by simp
          have hseen' : ∀ t ∈ seen ++ [task.withStatus .done], t.status = .done := by
            intro t ht
            rcases List.mem_append.mp ht with ht | ht
            · exact hseen t ht
            · rw [List.mem_singleton.mp ht]
              rfl
          dsimp only at h
          rw [hlen] at h
          exact ih hsound hnext hseen' hrest h

/-- A pass from the frontier of the plan. -/
theorem sound_executePendingTasks {trendProviderName : String} (hr : Sound r)
    (hfrontier : Frontier (r.tasks.map Task.status))
    (h : executePendingTasks rt r trendProviderName approvedActionSet simulateReviewFailure actor =
      .ok completion) : completion.Sound := by
  obtain ⟨provider, -, h⟩ := bind_eq_ok.mp h
  obtain ⟨exit, hexit, h⟩ := bind_eq_ok.mp h
  have hstart : Sound ({ record := r } : LoopState).record := hr
  have hcut : ({ record := r } : LoopState).record.tasks = [] ++ r.tasks := rfl
  have hloop : exit.Sound := sound_executeTasks hstart hcut (by simp) hfrontier hexit
  cases exit with
  | paused paused =>
      rw [← Except.ok.inj h]
      exact hloop
  | finished s =>
      have hs : Sound s.record := hloop
      dsimp only at h
      split at h
      · obtain ⟨failed, hfailed, h⟩ := bind_eq_ok.mp h
        obtain ⟨revised, hrevised, h⟩ := bind_eq_ok.mp h
        rw [← Except.ok.inj h]
        exact ⟨_, rfl, ((hs.calm (calm_transition hfailed)).calm (calm_transition hrevised)).calm
          (calm_recordEvent rfl)⟩
      · obtain ⟨delivered, hdelivered, h⟩ := bind_eq_ok.mp h
        rw [← Except.ok.inj h]
        exact ⟨_, rfl, (hs.calm (calm_upsertCheckpoint _)).calm (calm_transition hdelivered)⟩

end Pass

/-! ## Operations -/

section Operations

variable {rt : Runtime} {r r' : ProjectRecord} {lane : Lane}

/-- A call that prepares `mid` without starting a task, and saves the end of a pass from there. -/
structure PassFrom (rt : Runtime) (r mid r' : ProjectRecord) : Prop where
  calm : Calm r mid
  pass : ∃ trendProviderName approved simulate actor completion,
    executePendingTasks rt mid trendProviderName approved simulate actor = .ok completion ∧
      completion.saved = some r'

theorem PassFrom.sound {mid : ProjectRecord} (h : PassFrom rt r mid r') (hr : Sound r)
    (hfrontier : Frontier (mid.tasks.map Task.status)) : Sound r' := by
  obtain ⟨trendProviderName, approved, simulate, actor, completion, hpass, hsaved⟩ := h.pass
  obtain ⟨saved, hsaved', hsound⟩ := sound_executePendingTasks (hr.calm h.calm) hfrontier hpass
  rw [hsaved] at hsaved'
  rw [Option.some.inj hsaved']
  exact hsound

theorem transition_tasks {nextStatus : ProjectStatus} {actor : ActorContext} {reason : String}
    (h : transition rt r nextStatus actor reason = .ok r') : r'.tasks = r.tasks := by
  unfold transition at h
  dsimp only at h
  split at h
  · rw [← Except.ok.inj h]
  split at h
  · rw [← Except.ok.inj h]
    rfl
  · cases h

theorem saved_run_pass {args : RunArgs} (h : savedBy (run rt args) = some r') :
    ∃ mid, PassFrom rt (initialRecord rt args) mid r' ∧ mid.tasks = buildPlan := by
  obtain ⟨approved, -, h⟩ := savedBy_bind (quiet_parseApprovedActions _) h
  obtain ⟨r₁, hfirst, h⟩ := savedBy_bind (quiet_transition rt _ _ _ _) h
  obtain ⟨r₂, hsecond, h⟩ := savedBy_bind (quiet_transition rt _ _ _ _) h
  obtain ⟨r₃, hthird, h⟩ := savedBy_bind (quiet_transition rt _ _ _ _) h
  obtain ⟨completion, hexecuted, hsaved⟩ :=
    savedBy_of_quiet (quiet_executePendingTasks rt _ _ _ _ _) h
  refine ⟨r₃, ⟨?_, _, _, _, _, completion, hexecuted, hsaved⟩, ?_⟩
  · exact ((calm_transition hfirst).trans (calm_transition hsecond)).trans (calm_transition hthird)
  · rw [transition_tasks hthird, transition_tasks hsecond, transition_tasks hfirst]
    rfl

theorem saved_approval_pass {args : ApprovalResumeArgs}
    (h : savedBy (resumeFromApproval rt args r) = some r') :
    Calm r r' ∨ ∃ mid, PassFrom rt r mid r' ∧ mid.tasks = r.tasks.map (Task.move .pending none) := by
  obtain ⟨-, h⟩ := savedBy_resolved (quiet_approvalHandlers r args) h
  obtain ⟨requested, checks⟩ := approvalChecks_of_saved h
  rw [approveAndResume_of_checks _ _ checks] at h
  cases hauthorize : authorizeNewActions rt r (coerceActor args.actor .approver)
      (actionsToApprove r requested) args.projectAllowedActorIdsByAction with
  | error abort =>
      rw [hauthorize, error_bind] at h
      -- a denial is logged, and no task is touched
      exact .inl ((denied_of_authorizeNewActions rt hauthorize).calm h)
  | ok granted =>
      rw [hauthorize, ok_bind] at h
      have grant := granted_of_authorizeNewActions rt hauthorize
      have hdecided : Calm r (afterApproval rt (coerceActor args.actor .approver)
          (normalizeText args.note) r granted requested) :=
        grant.calm.trans (calm_afterApproval requested _ _ grant.state)
      split at h
      · unfold resumePartially at h
        dsimp only at h
        split at h
        · cases h
        · rw [← Option.some.inj h]
          exact .inl (hdecided.trans (calm_recordEvent rfl))
      · right
        obtain ⟨released, hreleased, h⟩ := savedBy_bind (quiet_transition rt _ _ _ _) h
        obtain ⟨completion, hexecuted, hsaved⟩ :=
          savedBy_of_quiet (quiet_executePendingTasks rt _ _ _ _ _) h
        refine ⟨released, ⟨?_, _, _, _, _, completion, hexecuted, hsaved⟩, ?_⟩
        · have hmoved := hdecided.trans
            (calm_moveWaitingTasks rt _ (coerceActor args.actor .approver) "" none
              (rfl : TaskStatus.pending.move = .putBack))
          exact (hmoved.trans (calm_recordEvent rfl)).trans (calm_transition hreleased)
        · have hmoved := moveWaitingTasks_state rt (afterApproval rt
            (coerceActor args.actor .approver) (normalizeText args.note) r granted requested) .pending
            (coerceActor args.actor .approver) "" none
          have htasks : (afterApproval rt (coerceActor args.actor .approver)
              (normalizeText args.note) r granted requested).tasks = r.tasks := by
            have hstate := afterApproval_decided rt requested (coerceActor args.actor .approver)
              (normalizeText args.note) grant.state
            exact (ProjectRecord.tasks_of_state hstate.state).trans
              (ProjectRecord.tasks_of_state grant.state :)
          rw [transition_tasks hreleased, ← htasks]
          exact (ProjectRecord.tasks_of_state hmoved :)

theorem saved_rejection_calm {args : ApprovalRejectArgs}
    (h : savedBy (rejectApproval rt args r) = some r') : Calm r r' := by
  obtain ⟨_, -, h⟩ := savedBy_bind (.raiseIf rfl) h
  obtain ⟨-, h⟩ := savedBy_resolved (quiet_rejectHandlers r args) h
  obtain ⟨_, -, h⟩ := savedBy_bind (.raiseIf rfl) h
  obtain ⟨named, -, h⟩ := savedBy_bind (quiet_parseApprovedActions _) h
  obtain ⟨_, -, h⟩ := savedBy_bind (.raiseIf rfl) h
  cases hauthorize : authorizeActionsOrRaise rt r (coerceActor args.actor .approver)
      (approvalActionState r).pendingActionTypes args.projectAllowedActorIdsByAction with
  | error abort =>
      rw [hauthorize, error_bind] at h
      exact (denied_of_authorizeEach rt hauthorize).calm h
  | ok granted =>
      rw [hauthorize, ok_bind] at h
      have grant := granted_of_authorizeEach rt hauthorize
      obtain ⟨sent, hsent, h⟩ := savedBy_bind (quiet_transition rt _ _ _ _) h
      rw [← Option.some.inj h]
      exact ((grant.calm.trans (calm_rejectPending _ _ _ _ grant.state)).trans
        (calm_moveWaitingTasks rt _ _ _ _ rfl)).trans (calm_transition hsent)

theorem saved_revision_pass {args : RevisionResumeArgs}
    (h : savedBy (resumeFromRevision rt args r) = some r') :
    Calm r r' ∨ args.resumeMode ≠ .replanning ∧ ∃ mid, PassFrom rt r mid r' ∧
      mid.tasks = r.tasks.map (Task.reset (revisionResumeConfig args.resumeMode).departments .pending
        (some (normalizeText args.reason))) := by
  obtain ⟨-, h⟩ := savedBy_resolved (quiet_revisionHandlers r args) h
  obtain ⟨resumed, hresumed, h⟩ := savedBy_bind (quiet_transition rt _ _ _ _) h
  have hlogged : Calm r (recordResumeTriggered rt r (coerceActor args.actor .operator)
      args.resumeMode.value (orElse (normalizeText args.reason) "Revision resume requested.")) :=
    calm_recordEvent rfl
  have hcalm : Calm r resumed :=
    (hlogged.trans (calm_resetTasksForDepartments rt _ _ _ _ _)).trans (calm_transition hresumed)
  split at h
  · rw [← Option.some.inj h]
    exact .inl hcalm
  · rename_i hnext
    right
    obtain ⟨approved, -, h⟩ := savedBy_bind (quiet_parseApprovedActions _) h
    obtain ⟨completion, hexecuted, hsaved⟩ :=
      savedBy_of_quiet (quiet_executePendingTasks rt _ _ _ _ _) h
    refine ⟨?_, resumed, ⟨hcalm, _, _, _, _, completion, hexecuted, hsaved⟩, ?_⟩
    · intro hmode
      rw [hmode] at hnext
      exact hnext rfl
    · rw [transition_tasks hresumed]
      exact (ProjectRecord.tasks_of_state (resetTasksForDepartments_state rt _ _ _ _ _ _) :)

theorem saved_replanning_pass {args : ReplanningStartArgs}
    (h : savedBy (startReplanning rt args r) = some r') :
    ∃ mid, PassFrom rt r mid r' ∧ mid.tasks = r.tasks.map
      (Task.reset (if args.resetDownstreamTasks then downstreamDepartments else []) .pending none) := by
  obtain ⟨-, h⟩ := savedBy_resolved (quiet_replanningHandlers r) h
  obtain ⟨resumed, hresumed, h⟩ := savedBy_bind (quiet_transition rt _ _ _ _) h
  obtain ⟨approved, -, h⟩ := savedBy_bind (quiet_parseApprovedActions _) h
  obtain ⟨completion, hexecuted, hsaved⟩ :=
    savedBy_of_quiet (quiet_executePendingTasks rt _ _ _ _ _) h
  have hreset : Calm r (if args.resetDownstreamTasks then
      resetTasksForDepartments rt r downstreamDepartments .pending
        (coerceActor args.actor .operator) "Replanning start reset."
      else r) := by
    split
    · exact calm_resetTasksForDepartments rt _ _ _ _ _
    · exact .refl r
  refine ⟨resumed, ⟨(hreset.trans (calm_recordEvent rfl)).trans (calm_transition hresumed), _, _, _,
    _, completion, hexecuted, hsaved⟩, ?_⟩
  rw [transition_tasks hresumed]
  exact (ProjectRecord.tasks_of_state (restartReset rt r (coerceActor args.actor .operator)
    args.resetDownstreamTasks).1 :)

/-- The frontier of the plan, when a lane is left. -/
theorem frontier_of_stages {tasks : List Task} {a b c d : TaskStatus}
    (h : tasks.map Task.stage = planStages [a, b, c, d, .pending])
    (hfrontier : Frontier [a, b, c, d, .pending]) : Frontier (tasks.map Task.status) := by
  have hmap := congrArg (List.map Prod.snd) h
  rw [List.map_map] at hmap
  have hstatuses : tasks.map Task.status = [a, b, c, d, .pending] := hmap
  rw [hstatuses]
  exact hfrontier

/-- A lane that is run again goes back to a frontier, whichever departments its mode resets. -/
theorem revision_frontier (hlane : lane = .sentBack ∨ lane = .reviewed) {mode : RevisionResumeMode}
    (hmode : mode ≠ .replanning) :
    Frontier (((planStages lane.taskStatuses).map
      (Stage.reset (revisionResumeConfig mode).departments)).map Prod.snd) := by
  rcases hlane with rfl | rfl
  · cases mode with
    | replanning => exact absurd rfl hmode
    | rebuilding =>
        show Frontier [.done, .done, .pending, .pending, .pending]
        simp [Frontier, TaskStatus.move]
    | rereview =>
        show Frontier [.done, .done, .done, .revisionRequested, .pending]
        simp [Frontier, TaskStatus.move]
  · cases mode with
    | replanning => exact absurd rfl hmode
    | rebuilding =>
        show Frontier [.done, .done, .pending, .pending, .pending]
        simp [Frontier, TaskStatus.move]
    | rereview =>
        show Frontier [.done, .done, .done, .done, .pending]
        simp [Frontier, TaskStatus.move]

/-- An operation keeps the log of a project on a lane a legal schedule. -/
theorem Sound.operation (h : Sound r) (hlane : OnLane lane r) {operation : ProjectOperation}
    (hsaved : savedBy (operation.body rt r) = some r') : Sound r' := by
  cases operation with
  | resumeFromApproval args =>
      rcases saved_approval_pass hsaved with hcalm | ⟨mid, hpass, htasks⟩
      · exact h.calm hcalm
      -- the waiting tasks go back to pending: three tasks are done, two are to do
      · have hwaiting := (saved_resumeFromApproval hsaved).1
        have hawaiting := Lane.eq_awaiting (hlane.status.symm.trans hwaiting)
        subst hawaiting
        refine hpass.sound h (frontier_of_stages (a := .done) (b := .done) (c := .done)
          (d := .pending) ?_ ?_)
        · rw [htasks, stages_move, ← ProjectRecord.stages, hlane.tasks]
          rfl
        · simp [Frontier, TaskStatus.move]
  | rejectApproval args => exact h.calm (saved_rejection_calm hsaved)
  | resumeFromRevision args =>
      rcases saved_revision_pass hsaved with hcalm | ⟨hmode, mid, hpass, htasks⟩
      · exact h.calm hcalm
      · have hrevision := (saved_resumeFromRevision hsaved).1
        have hsides := Lane.eq_revision (hlane.status.symm.trans hrevision)
        refine hpass.sound h ?_
        have hstages : mid.tasks.map Task.stage = (planStages lane.taskStatuses).map
            (Stage.reset (revisionResumeConfig args.resumeMode).departments) := by
          rw [htasks, stages_reset, ← ProjectRecord.stages, hlane.tasks]
        have hstatuses := congrArg (List.map Prod.snd) hstages
        rw [List.map_map] at hstatuses
        have hmid : mid.tasks.map Task.status = _ := hstatuses
        rw [hmid]
        -- each mode resets a back part of the plan
        exact revision_frontier hsides hmode
  | startReplanning args =>
      obtain ⟨mid, hpass, htasks⟩ := saved_replanning_pass hsaved
      have hready := (saved_startReplanning hsaved).1
      have hreplanned := Lane.eq_replanned (hlane.status.symm.trans hready)
      subst hreplanned
      refine hpass.sound h (frontier_of_stages (a := .done) (b := .pending) (c := .pending)
        (d := .pending) ?_ ?_)
      · rw [htasks, stages_reset, ← ProjectRecord.stages, hlane.tasks]
        cases args.resetDownstreamTasks <;> rfl
      · simp [Frontier, TaskStatus.move]

end Operations

/-! ## Runs -/

section Runs

theorem sound_initialRecord (rt : Runtime) (args : RunArgs) : Sound (initialRecord rt args) where
  replays := replays_initialRecord rt args
  plan := rfl
  legal := .nil

/-- The log of every stored record is a legal schedule of the plan. -/
theorem stored_sound {calls : List Call} {projectId : String} {record : ProjectRecord}
    (hget : (afterCalls calls).get projectId = some record) : Sound record := by
  refine (@stored_of_operations (fun record => Sound record ∧ ∃ lane, OnLane lane record)
    ?_ ?_ ?_ ?_ calls projectId record hget).1
  · intro rt args record hsaved
    obtain ⟨mid, hpass, htasks⟩ := saved_run_pass hsaved
    obtain ⟨lane, -, hlane⟩ := run_lane (saved_run hsaved)
    refine ⟨hpass.sound (sound_initialRecord rt args) ?_, lane, hlane⟩
    rw [htasks]
    show Frontier [.pending, .pending, .pending, .pending, .pending]
    simp [Frontier, TaskStatus.move]
  · rintro rt operation loaded record ⟨hsound, lane, hlane⟩ hsaved
    obtain ⟨next, -, hnext⟩ := saved_lane hlane hsaved
    exact ⟨hsound.operation hlane hsaved, next, hnext⟩
  · rintro rt actor loaded ⟨hsound, lane, hlane⟩
    exact ⟨hsound.calm ((calm_recordEvent rfl).trans (calm_recordEvent rfl)), lane, hlane.of_state rfl⟩
  · rintro rt reason loaded ⟨hsound, lane, hlane⟩
    exact ⟨hsound.calm (calm_recordEvent rfl), lane, hlane.of_state rfl⟩

/-- A dependency of a task of the record is one of the plan. -/
theorem Sound.planDependsOn {r : ProjectRecord} (h : Sound r) {task : Task} (hmem : task ∈ r.tasks)
    {d : String} (hd : d ∈ task.dependsOn) : PlanDependsOn task.id d := by
  refine ⟨task.planned, ?_, rfl, hd⟩
  rw [← h.plan]
  exact List.mem_map_of_mem hmem

/-- The last `finish` of a trace, in the log. -/
theorem precedes_events {events : List HistoryEvent} {d t : String}
    (h : Precedes (moves events) d t) :
    ∃ before event after, events = before ++ event :: after ∧
      event.movedTo? t = some .inProgress ∧
      (∃ earlier ∈ before, earlier.movedTo? d = some .done) ∧
      (∀ later ∈ after, later.movedTo? t ≠ some .inProgress) ∧
      ∀ later ∈ after, later.movedTo? d ≠ some .done := by
  obtain ⟨before, after, hmoves, hmem, hnostart, hnofinish⟩ := h
  -- the moves are the events that change a task; the others stand between them
  obtain ⟨front, back, rfl, hfront, hback⟩ := List.filterMap_eq_append_iff.mp hmoves
  obtain ⟨quiet, event, later, rfl, hquiet, hevent, hlater⟩ := List.filterMap_eq_cons_iff.mp hback
  refine ⟨front ++ quiet, event, later, by rw [List.append_assoc], ?_, ?_, ?_, ?_⟩
  · obtain ⟨status, hmoved, hstatus⟩ := movedTo?_of_move? hevent
    rw [hmoved, TaskStatus.move_eq_start.mp hstatus]
  · rw [← hfront] at hmem
    obtain ⟨earlier, hearlier, hmove⟩ := List.mem_filterMap.mp hmem
    obtain ⟨status, hmoved, hstatus⟩ := movedTo?_of_move? hmove
    refine ⟨earlier, List.mem_append_left _ hearlier, ?_⟩
    rw [hmoved, TaskStatus.move_eq_finish.mp hstatus]
  · intro e hmem' hmoved
    apply hnostart
    rw [← hlater]
    exact List.mem_filterMap.mpr ⟨e, hmem', move?_of_movedTo? hmoved⟩
  · intro e hmem' hmoved
    apply hnofinish
    rw [← hlater]
    exact List.mem_filterMap.mpr ⟨e, hmem', move?_of_movedTo? hmoved⟩

end Runs

/-- In the log of every stored record, a task is started only when everything it depends on has been
    replayed to `done`; and in a delivered project every task was started, for the last time, after
    the last time that anything it depends on was finished. -/
theorem stored_fresh_inputs {calls : List Call} {projectId : String} {record : ProjectRecord}
    (hget : (afterCalls calls).get projectId = some record) :
    (∀ before event after, record.events = before ++ event :: after →
      ∀ task ∈ record.tasks, event.movedTo? task.id = some .inProgress →
      ∀ d ∈ task.dependsOn, replayedStatus before d = .done) ∧
    (record.project.status = .completed → ∀ task ∈ record.tasks, ∀ d ∈ task.dependsOn,
      ∃ before event after, record.events = before ++ event :: after ∧
        event.movedTo? task.id = some .inProgress ∧
        (∃ earlier ∈ before, earlier.movedTo? d = some .done) ∧
        (∀ later ∈ after, later.movedTo? task.id ≠ some .inProgress) ∧
        ∀ later ∈ after, later.movedTo? d ≠ some .done) := by
  have hsound := stored_sound hget
  constructor
  · intro before event after hevents task hmem hstart d hd
    have hlegal := hsound.legal
    have hcons : moves (event :: after) = (task.id, .start) :: moves after :=
      List.filterMap_cons_some (move?_of_movedTo? hstart)
    rw [hevents, moves_append, hcons] at hlegal
    -- when the task was started, the last move of its dependency was a finish
    have hready := hlegal.ready (hsound.planDependsOn hmem hd)
    rw [lastMove_moves] at hready
    exact TaskStatus.move_eq_finish.mp hready
  · intro hstatus task hmem d hd
    -- every task of a delivered project is done, so its last move was a finish
    have hdone := (stored_consistent hget).completed hstatus
    refine precedes_events (hsound.legal.precedes (hsound.planDependsOn hmem hd) ?_)
    rw [hsound.lastMove hmem, hdone.1 task hmem]
    decide

/-- The review of a project fails, it is rebuilt up to the trend task, and then approved. -/
def sampleRebuild : List Call :=
  [sampleCall "1" (.run { brief := sampleBrief, simulateReviewFailure := true }),
    sampleRevision .rebuilding, sampleApproval]

theorem stored_fresh_inputs_rebuilt : ∃ record,
    (afterCalls sampleRebuild).get "p" = some record ∧
    ∀ task ∈ record.tasks, ∀ d ∈ task.dependsOn,
      ∃ before event after, record.events = before ++ event :: after ∧
        event.movedTo? task.id = some .inProgress ∧
        (∃ earlier ∈ before, earlier.movedTo? d = some .done) ∧
        (∀ later ∈ after, later.movedTo? task.id ≠ some .inProgress) ∧
        ∀ later ∈ after, later.movedTo? d ≠ some .done := by
  have hstored : ((afterCalls sampleRebuild).get "p").any (fun record =>
      decide (record.project.status = .completed)) = true := by decide
  obtain ⟨record, hget, hstatus⟩ := (Option.any_eq_true _ _).mp hstored
  exact ⟨record, hget, (stored_fresh_inputs hget).2 (of_decide_eq_true hstatus)⟩

end CodexOrchestrator
