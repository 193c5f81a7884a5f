import CodexOrchestrator.Orchestrator.Plan

/-!
# Lifecycle — the lanes of a project

A stored project is in one of five lanes.  A lane fixes the status of the project and the status of
every task; the lists of the record agree with it.  Each operation takes a project from lane to lane.
-/

open Raise

namespace CodexOrchestrator

/-- The lanes: in front of the trend task, sent back by a rejection, sent back by the review, ready
    to be planned again, delivered. -/
inductive Lane where
  | awaiting | sentBack | reviewed | replanned | completed
  deriving DecidableEq

def Lane.status : Lane → ProjectStatus
  | .awaiting => .waitingApproval
  | .sentBack => .revisionRequested
  | .reviewed => .revisionRequested
  | .replanned => .readyForPlanning
  | .completed => .completed

def Lane.taskStatuses : Lane → List TaskStatus
  | .awaiting => [.done, .done, .done, .waitingApproval, .pending]
  | .sentBack => [.done, .done, .done, .revisionRequested, .pending]
  | .reviewed => [.done, .done, .done, .done, .done]
  | .replanned => [.done, .pending, .pending, .pending, .pending]
  | .completed => [.done, .done, .done, .done, .done]

/-- The lanes that one call can lead to. -/
def Lane.next : Lane → List Lane
  | .awaiting => [.awaiting, .sentBack, .completed]
  | .sentBack => [.replanned, .awaiting, .completed]
  | .reviewed => [.replanned, .awaiting, .completed]
  | .replanned => [.awaiting, .completed]
  | .completed => []

/-- The number of open requests. -/
def Lane.openRequests : Lane → Nat
  | .awaiting => 1
  | _ => 0

def pendingRequests (approvals : List ApprovalRequest) : List ApprovalRequest :=
  approvals.filter fun approval => approval.status = .pending

/-- What the tasks, the artifacts and the requests have in common wherever a record is stored or a
    pass over the plan starts. -/
structure Ordered (statuses : List TaskStatus) (r : ProjectRecord) : Prop where
  tasks : r.stages = planStages statuses
  outputs : Filed r.stages (r.artifacts.map Artifact.key)
  requests : ∀ approval ∈ r.approvals, approval.actionType = .externalApiSend

/-- The delivery checkpoint is there. -/
def Delivered (r : ProjectRecord) : Prop :=
  deliveryCheckpointId r.project.id ∈ r.checkpoints.map Checkpoint.id

structure OnLane (lane : Lane) (r : ProjectRecord) : Prop extends Ordered lane.taskStatuses r where
  status : r.project.status = lane.status
  pending : (pendingRequests r.approvals).length = lane.openRequests
  unapproved : lane ≠ .completed → ∀ approval ∈ r.approvals, approval.status ≠ .approved
  delivered : Delivered r ↔ lane = .completed
  passed : lane = .completed → ∃ review, r.reviews.getLast? = some review ∧
    review.verdict = "approved"

/-- A record about to be executed: the review is still to come, and nothing is asked for. -/
structure Underway (a b c d : TaskStatus) (r : ProjectRecord) : Prop
    extends Ordered [a, b, c, d, .pending] r where
  settled : ∀ approval ∈ r.approvals, approval.status ≠ .pending
  undelivered : ¬ Delivered r

/-! ## Lists of the record -/

theorem pendingRequests_eq_nil {approvals : List ApprovalRequest} :
    pendingRequests approvals = [] ↔ ∀ approval ∈ approvals, approval.status ≠ .pending := by
  simp [pendingRequests]

theorem length_pendingRequests_eq_zero {approvals : List ApprovalRequest} :
    (pendingRequests approvals).length = 0 ↔ ∀ approval ∈ approvals, approval.status ≠ .pending := by
  rw [List.length_eq_zero_iff, pendingRequests_eq_nil]

/-- The delivery checkpoint and the approval checkpoint of a project are two. -/
theorem deliveryCheckpointId_ne (projectId : String) :
    deliveryCheckpointId projectId ≠ approvalCheckpointId projectId := by
  unfold deliveryCheckpointId approvalCheckpointId
  exact PyText.append_ne_of_length (by decide)

section Transfer

variable {r r' : ProjectRecord} {statuses statuses' : List TaskStatus}

/-- Lanes do not depend on the logs. -/
theorem OnLane.of_state {lane : Lane} (h : OnLane lane r) (hstate : r'.state = r.state) :
    OnLane lane r' := by
  have hsame : OnLane lane r.state := ⟨⟨h.tasks, h.outputs, h.requests⟩, h.status, h.pending,
    h.unapproved, h.delivered, h.passed⟩
  rw [← hstate] at hsame
  exact ⟨⟨hsame.tasks, hsame.outputs, hsame.requests⟩, hsame.status, hsame.pending,
    hsame.unapproved, hsame.delivered, hsame.passed⟩

/-- A change of the tasks that finishes none, and of the requests that keeps their types. -/
theorem Ordered.change (h : Ordered statuses r) (htasks : r'.stages = planStages statuses')
    (hdone : ∀ stage ∈ planStages statuses', stage.2 = .done → stage ∈ planStages statuses)
    (hartifacts : r'.artifacts = r.artifacts)
    (hrequests : ∀ approval ∈ r'.approvals, approval.actionType = .externalApiSend) :
    Ordered statuses' r' := by
  refine ⟨htasks, ?_, hrequests⟩
  rw [hartifacts]
  refine h.outputs.mono fun stage hmem hd => ?_
  rw [htasks] at hmem
  rw [h.tasks]
  exact hdone stage hmem hd

end Transfer

/-! ## A pass over the plan -/

section Pass

variable {rt : Runtime} {provider : TrendProvider} {approvedActionSet : Finset ApprovalActionType}
  {simulateReviewFailure : Bool} {r r' : ProjectRecord} {s : LoopState} {front back : List Task}
  {task : Task} {statuses : List TaskStatus} {a b c d : TaskStatus}

/-- The record after the rounds of the tasks in front of `back`. -/
structure AfterRounds (r : ProjectRecord) (front back : List Task) (r' : ProjectRecord) : Prop where
  tasks : r'.tasks = front.map (Task.withStatus .done) ++ back
  outputs : Filed ((front.map Task.stage).map (Stage.withStatus .done) ++ r.stages)
    (r'.artifacts.map Artifact.key)
  project : r'.project = r.project
  approvals : r'.approvals = r.approvals
  checkpoints : r'.checkpoints = r.checkpoints

theorem Ordered.afterRounds (h : Ordered statuses r) (hcut : r.tasks = front ++ back)
    (hrounds : Rounds provider approvedActionSet simulateReviewFailure 0 front { record := r } s) :
    AfterRounds r front back s.record := by
  have hstart : ({ record := r } : LoopState).record.tasks = [] ++ (front ++ back) := hcut
  have hstate := Rounds.state hrounds hstart
  have hkeys := hrounds.keys
  refine ⟨(ProjectRecord.tasks_of_state hstate :), ?_, (ProjectRecord.project_of_state hstate :),
    (ProjectRecord.approvals_of_state hstate :), (ProjectRecord.checkpoints_of_state hstate :)⟩
  rw [hkeys]
  refine h.outputs.rounds fun t ht => ?_
  rw [ProjectRecord.stages, hcut]
  exact List.mem_map_of_mem (List.mem_append_left _ ht)

section Paused

variable (h : Underway a b c d r) (hcut : r.tasks = front ++ task :: back)
  (hrounds : Rounds provider approvedActionSet simulateReviewFailure 0 front { record := r } s)
  (hstate : r'.state = pausedState rt s.record front.length)

include h hcut hrounds hstate

theorem Underway.paused_tasks : r'.tasks =
    front.map (Task.withStatus .done) ++ task.withStatus .waitingApproval :: back := by
  rw [ProjectRecord.tasks_of_state hstate]
  show s.record.tasks.modify front.length _ = _
  rw [(h.toOrdered.afterRounds hcut hrounds).tasks,
    ← List.length_map (f := Task.withStatus .done), Loops.modify_at_cut]

/-- The three tasks in front of the trend task are done, and the trend task waits. -/
theorem Underway.paused_stages (htrend : task.department = .trend) :
    r'.stages = planStages Lane.awaiting.taskStatuses := by
  have hstages := h.tasks
  rw [ProjectRecord.stages, hcut] at hstages
  obtain ⟨-, hfront, hback⟩ := cut_at_trend hstages htrend
  obtain ⟨htask, hrest⟩ := List.cons.inj hback
  rw [ProjectRecord.stages, h.paused_tasks hcut hrounds hstate, List.map_append, stages_withStatus,
    List.map_cons, stage_withStatus, hfront, htask, hrest]
  rfl

theorem Underway.paused_outputs : Filed r'.stages (r'.artifacts.map Artifact.key) := by
  rw [ProjectRecord.artifacts_of_state hstate]
  refine (h.toOrdered.afterRounds hcut hrounds).outputs.mono fun stage hmem hdone => ?_
  rw [ProjectRecord.stages, h.paused_tasks hcut hrounds hstate, List.map_append, stages_withStatus,
    List.map_cons] at hmem
  rcases List.mem_append.mp hmem with hmem | hmem
  · exact List.mem_append_left _ hmem
  · rcases List.mem_cons.mp hmem with rfl | hmem
    · -- the waiting task is not done
      cases hdone
    · refine List.mem_append_right _ ?_
      rw [ProjectRecord.stages, hcut, List.map_append, List.map_cons]
      exact List.mem_append_right _ (List.mem_cons_of_mem _ hmem)

omit hcut in
/-- Nothing was asked for, so the pause opens the one request. -/
theorem Underway.paused_approvals : r'.approvals = r.approvals ++ [trendApprovalRequest rt] := by
  have hnone : hasPendingApproval r .externalApiSend = false := by
    rw [hasPendingApproval, List.any_eq_false]
    intro approval hmem
    simp [h.settled approval hmem]
  rw [hrounds.paused_approvals hstate, hnone]
  rfl

omit hcut in
/-- The pause writes the approval checkpoint, which is not the one of the delivery. -/
theorem Underway.paused_undelivered : ¬ Delivered r' := by
  intro hdelivered
  rw [Delivered, hrounds.paused_project hstate, hrounds.paused_checkpoints hstate] at hdelivered
  obtain ⟨checkpoint, hmem, hid⟩ := List.mem_map.mp hdelivered
  rcases mem_upsertBy hmem with rfl | hmem
  · exact absurd hid.symm (deliveryCheckpointId_ne r.project.id)
  · exact absurd (List.mem_map.mpr ⟨checkpoint, hmem, hid⟩) h.undelivered

/-- A pass that stops in front of the trend task. -/
theorem Underway.paused (htrend : task.department = .trend)
    (hunapproved : ∀ approval ∈ r.approvals, approval.status ≠ .approved) :
    OnLane .awaiting r' := by
  have happrovals := h.paused_approvals hrounds hstate
  have hundelivered := h.paused_undelivered hrounds hstate
  refine ⟨⟨h.paused_stages hcut hrounds hstate htrend, h.paused_outputs hcut hrounds hstate, ?_⟩,
    ?_, ?_, ?_, ?_, fun hlane => by cases hlane⟩
  · rw [happrovals]
    intro approval hmem
    rcases List.mem_append.mp hmem with hmem | hmem
    · exact h.requests approval hmem
    · rw [List.mem_singleton.mp hmem]
      rfl
  · rw [hrounds.paused_project hstate]
    rfl
  -- nothing was pending, so the request that was opened is the only one
  · have hnone := pendingRequests_eq_nil.mpr h.settled
    rw [happrovals, pendingRequests, List.filter_append, ← pendingRequests, hnone]
    rfl
  · intro _ approval hmem
    rw [happrovals] at hmem
    rcases List.mem_append.mp hmem with hmem | hmem
    · exact hunapproved approval hmem
    · rw [List.mem_singleton.mp hmem]
      show ApprovalStatus.pending ≠ .approved
      decide
  · exact ⟨fun hdelivered => absurd hdelivered hundelivered, fun hlane => by cases hlane⟩

end Paused

/-- A pass that goes through runs the review task over at least one artifact: the verdict depends on
    the simulated failure only. -/
theorem Underway.review (h : Underway a b c d r)
    (hrounds : Rounds provider approvedActionSet simulateReviewFailure 0 r.tasks { record := r } s) :
    (s.reviewRan && s.currentCycleReviewFailed) = simulateReviewFailure ∧
    ∃ review, s.record.reviews.getLast? = some review ∧
      review.verdict = if simulateReviewFailure then "changes_requested" else "approved" := by
  obtain ⟨front, task, hcut, hdepartment, hstatus, hne, hquiet⟩ := cut_at_review h.tasks
  rw [hcut] at hrounds
  obtain ⟨s₁, hfront, hlast⟩ := hrounds.concat
  have hopen : task.Unfinished := by
    rw [Task.Unfinished, hstatus]
    decide
  -- the tasks before the review are done, and the first of them has written its artifact
  have hartifacts : s₁.record.artifacts ≠ [] := by
    intro hnil
    obtain ⟨first, rest, hfirst⟩ := List.exists_cons_of_ne_nil hne
    have hfiled := (h.toOrdered.afterRounds hcut hfront).outputs.filed
      (Stage.withStatus .done first.stage) (by rw [hfirst]; exact List.mem_cons_self) rfl
      (hquiet first (by rw [hfirst]; exact List.mem_cons_self))
    rw [hnil] at hfiled
    cases hfiled
  obtain ⟨hreviews, hran, hfailed⟩ := hlast.reviewed hdepartment hopen
  have hverdict := cycleReview_verdict simulateReviewFailure task hartifacts
  constructor
  · rw [hran, hfailed, hverdict]
    cases simulateReviewFailure <;> decide
  · refine ⟨cycleReview simulateReviewFailure task s₁.record.artifacts, ?_, hverdict⟩
    rw [hreviews, List.getLast?_concat]

/-- What a pass that goes through leaves behind, whether the review failed or not. -/
theorem Underway.finished (h : Underway a b c d r)
    (hrounds : Rounds provider approvedActionSet simulateReviewFailure 0 r.tasks { record := r } s)
    (htasks : r'.tasks = s.record.tasks) (hartifacts : r'.artifacts = s.record.artifacts)
    (happrovals : r'.approvals = s.record.approvals) :
    Ordered [.done, .done, .done, .done, .done] r' ∧ (pendingRequests r'.approvals).length = 0 := by
  have hafter := h.toOrdered.afterRounds (List.append_nil _).symm hrounds
  have hstages : r'.stages = r.stages.map (Stage.withStatus .done) := by
    rw [ProjectRecord.stages, htasks, hafter.tasks, List.append_nil, stages_withStatus]
    rfl
  refine ⟨⟨?_, ?_, ?_⟩, ?_⟩
  · rw [hstages, h.tasks]
    rfl
  · rw [hartifacts, hstages]
    exact hafter.outputs.mono fun stage hmem _ => List.mem_append_left _ hmem
  · rw [happrovals, hafter.approvals]
    exact h.requests
  · rw [happrovals, hafter.approvals, length_pendingRequests_eq_zero]
    exact h.settled

theorem Underway.revised (h : Underway a b c d r)
    (hrounds : Rounds provider approvedActionSet simulateReviewFailure 0 r.tasks { record := r } s)
    (hstate : r'.state = revisionState s.record)
    (hunapproved : ∀ approval ∈ r.approvals, approval.status ≠ .approved) : OnLane .reviewed r' := by
  have hafter := h.toOrdered.afterRounds (List.append_nil _).symm hrounds
  have happrovals : r'.approvals = s.record.approvals := (ProjectRecord.approvals_of_state hstate :)
  have hproject := ProjectRecord.project_of_state hstate
  obtain ⟨hordered, hpending⟩ := h.finished hrounds (ProjectRecord.tasks_of_state hstate :)
    (ProjectRecord.artifacts_of_state hstate :) happrovals
  refine ⟨hordered, ?_, hpending, ?_, ?_, fun hlane => by cases hlane⟩
  · rw [hproject]
    rfl
  · rw [happrovals, hafter.approvals]
    exact fun _ => hunapproved
  · have hid : r'.project.id = r.project.id := by
      rw [hproject, ← hafter.project]
      rfl
    have hcheckpoints : r'.checkpoints = r.checkpoints :=
      (ProjectRecord.checkpoints_of_state hstate).trans hafter.checkpoints
    rw [Delivered, hid, hcheckpoints]
    exact ⟨fun hdelivered => absurd hdelivered h.undelivered, fun hlane => by cases hlane⟩

theorem Underway.delivered (h : Underway a b c d r)
    (hrounds : Rounds provider approvedActionSet false 0 r.tasks { record := r } s)
    (hstate : r'.state = deliveredState s.record) : OnLane .completed r' := by
  have hproject := ProjectRecord.project_of_state hstate
  obtain ⟨hordered, hpending⟩ := h.finished hrounds (ProjectRecord.tasks_of_state hstate :)
    (ProjectRecord.artifacts_of_state hstate :) (ProjectRecord.approvals_of_state hstate :)
  have hreviews : r'.reviews = s.record.reviews := (ProjectRecord.reviews_of_state hstate :)
  refine ⟨hordered, ?_, hpending, fun hne => absurd rfl hne, ?_, fun _ => ?_⟩
  · rw [hproject]
    rfl
  · refine ⟨fun _ => rfl, fun _ => ?_⟩
    rw [Delivered, hproject, ProjectRecord.checkpoints_of_state hstate]
    exact List.mem_map.mpr ⟨deliveryCheckpoint s.record.project.id, mem_upsertBy_self _ _, rfl⟩
  · rw [hreviews]
    exact (h.review hrounds).2

/-- A pass that simulates no failure ends in front of the trend task, or delivers. -/
theorem Underway.executed (h : Underway a b c d r)
    (hexecuted : Executed rt provider approvedActionSet false r r')
    (hunapproved : trendApprovalMissing provider approvedActionSet = true →
      ∀ approval ∈ r.approvals, approval.status ≠ .approved) :
    (trendApprovalMissing provider approvedActionSet = true ∧ OnLane .awaiting r') ∨
      OnLane .completed r' := by
  cases hexecuted with
  | paused cut rounds trend unfinished missing state =>
      exact .inl ⟨missing, h.paused cut rounds state trend (hunapproved missing)⟩
  | revised rounds failed state =>
      rw [(h.review rounds).1] at failed
      cases failed
  | delivered rounds passed state => exact .inr (h.delivered rounds state)

/-- With the external send approved, a pass delivers. -/
theorem Underway.executed_of_open (h : Underway a b c d r)
    (hexecuted : Executed rt provider approvedActionSet false r r')
    (hopen : trendApprovalMissing provider approvedActionSet = false) : OnLane .completed r' := by
  rcases h.executed hexecuted fun hmissing => absurd hmissing (by simp [hopen]) with
    ⟨hmissing, -⟩ | hlane
  · rw [hopen] at hmissing
    cases hmissing
  · exact hlane

end Pass

/-! ## Operations -/

section Operations

variable {rt : Runtime} {r r' : ProjectRecord} {lane : Lane}

theorem Lane.eq_awaiting (h : lane.status = .waitingApproval) : lane = .awaiting := by
  cases lane <;> first | rfl | cases h

theorem Lane.eq_replanned (h : lane.status = .readyForPlanning) : lane = .replanned := by
  cases lane <;> first | rfl | cases h

theorem Lane.eq_revision (h : lane.status = .revisionRequested) :
    lane = .sentBack ∨ lane = .reviewed := by
  cases lane <;> first | exact .inl rfl | exact .inr rfl | cases h

/-- A run starts with nothing but the plan. -/
theorem run_lane {args : RunArgs} (h : RunSaved rt args r') :
    ∃ lane ∈ [Lane.awaiting, .reviewed, .completed], OnLane lane r' := by
  obtain ⟨approved, started, completion, -, hstate, -, hexecuted, hsaved⟩ := h.started
  have hproject := ProjectRecord.project_of_state hstate
  have htasks : started.tasks = buildPlan := (ProjectRecord.tasks_of_state hstate :)
  have hartifacts : started.artifacts = [] := (ProjectRecord.artifacts_of_state hstate :)
  have happrovals : started.approvals = [] := (ProjectRecord.approvals_of_state hstate :)
  have hcheckpoints : started.checkpoints = [] := (ProjectRecord.checkpoints_of_state hstate :)
  have hstages : started.stages = planStages [.pending, .pending, .pending, .pending, .pending] := by
    rw [ProjectRecord.stages, htasks]
    rfl
  have hunapproved : ∀ approval ∈ started.approvals, approval.status ≠ .approved := by
    rw [happrovals]
    exact fun _ hmem => absurd hmem List.not_mem_nil
  -- a new project: every task is to do, and nothing was asked for or delivered
  have hunderway : Underway .pending .pending .pending .pending started := by
    refine ⟨⟨hstages, ?_, ?_⟩, ?_, ?_⟩
    · rw [hartifacts, hstages]
      exact filed_nil (by decide)
    · rw [happrovals]
      exact fun _ hmem => absurd hmem List.not_mem_nil
    · rw [happrovals]
      exact fun _ hmem => absurd hmem List.not_mem_nil
    · rw [Delivered, hcheckpoints]
      exact List.not_mem_nil
  obtain ⟨provider, -, -, hpass⟩ := executed_of_saved (by rw [hproject]) hexecuted hsaved
  cases hpass with
  | paused cut rounds trend unfinished missing state =>
      exact ⟨.awaiting, by simp, hunderway.paused cut rounds state trend hunapproved⟩
  | revised rounds failed state =>
      exact ⟨.reviewed, by simp, hunderway.revised rounds state hunapproved⟩
  | delivered rounds passed state =>
      rw [(hunderway.review rounds).1] at passed
      rw [passed] at rounds
      exact ⟨.completed, by simp, hunderway.delivered rounds state⟩

/-- While a project waits, every pending request is for the external send. -/
theorem OnLane.pendingActionTypes (h : OnLane .awaiting r) :
    (approvalActionState r).pendingActionTypes = {.externalApiSend} := by
  ext actionType
  rw [Finset.mem_singleton]
  constructor
  · intro hmem
    obtain ⟨approval, happroval, -, rfl⟩ := mem_approvalActionTypes.mp hmem
    exact h.requests approval happroval
  · rintro rfl
    have hlength : (pendingRequests r.approvals).length = 1 := h.pending
    obtain ⟨approval, hone⟩ := List.length_eq_one_iff.mp hlength
    have hmem : approval ∈ pendingRequests r.approvals := hone ▸ List.mem_cons_self
    obtain ⟨hmem, hstatus⟩ := List.mem_filter.mp hmem
    exact mem_approvalActionTypes.mpr
      ⟨approval, hmem, of_decide_eq_true hstatus, h.requests approval hmem⟩

theorem OnLane.approvedActions (h : OnLane lane r) (hlane : lane ≠ .completed) :
    (approvalActionState r).approvedActions = ∅ := by
  rw [Finset.eq_empty_iff_forall_notMem]
  intro actionType hmem
  obtain ⟨approval, hmem, hstatus, -⟩ := mem_approvalActionTypes.mp hmem
  exact h.unapproved hlane approval hmem hstatus

/-- A call that names every pending type approves the external send anew. -/
theorem OnLane.mem_actionsToApprove (h : OnLane .awaiting r) {requested : Finset ApprovalActionType}
    (hmissing : missingActions r requested = ∅) :
    .externalApiSend ∈ actionsToApprove r requested := by
  have hnamed : .externalApiSend ∈ requested := by
    rw [missingActions, h.pendingActionTypes, Finset.sdiff_eq_empty_iff_subset,
      Finset.singleton_subset_iff] at hmissing
    exact hmissing
  rw [actionsToApprove, h.approvedActions (by decide), Finset.sdiff_empty]
  exact hnamed

/-- The only known type is the external send, so a call that names any type names it. -/
theorem OnLane.requested_eq (h : OnLane lane r) {args : ApprovalResumeArgs}
    {requested : Finset ApprovalActionType} (checks : ApprovalChecks args r requested) :
    requested = {.externalApiSend} := by
  refine Finset.eq_singleton_iff_nonempty_unique_mem.mpr
    ⟨Finset.nonempty_iff_ne_empty.mpr checks.nonempty, fun actionType hmem => ?_⟩
  obtain ⟨approval, happroval, rfl⟩ := mem_knownActions.mp (checks.known hmem)
  exact h.requests approval happroval

theorem OnLane.missingActions_eq (h : OnLane .awaiting r) {args : ApprovalResumeArgs}
    {requested : Finset ApprovalActionType} (checks : ApprovalChecks args r requested) :
    missingActions r requested = ∅ := by
  rw [missingActions, h.pendingActionTypes, h.requested_eq checks, Finset.sdiff_self]

/-- The record of a waiting project after its pending requests got the given status. -/
structure Settled (status : ApprovalStatus) (r r' : ProjectRecord) : Prop where
  project : r'.project = r.project
  tasks : r'.tasks = r.tasks
  artifacts : r'.artifacts = r.artifacts
  requests : ∀ approval ∈ r'.approvals, approval.actionType = .externalApiSend
  settled : ∀ approval ∈ r'.approvals, approval.status ≠ .pending
  approved : ∀ approval ∈ r'.approvals, approval.status = .approved → status = .approved
  undelivered : ¬ Delivered r'

/-- A decision loop that selects every pending request settles a waiting project. -/
theorem OnLane.settled (h : OnLane .awaiting r) {granted decided : ProjectRecord}
    {may : ActorContext → ApprovalActionType → Prop} {selected : ApprovalRequest → Bool}
    {decision : ApprovalRequest → ApprovalRequest} {mark : Checkpoint → Checkpoint}
    {status : ApprovalStatus} (hgranted : granted.state = r.state)
    (hdecided : Decided may selected decision mark granted decided)
    (hselected : ∀ approval ∈ r.approvals, approval.status = .pending → selected approval = true)
    (htype : ∀ approval, (decision approval).actionType = approval.actionType)
    (hstatus : ∀ approval, (decision approval).status = status) (hclosed : status ≠ .pending)
    (hmark : ∀ c, (mark c).id = c.id) : Settled status r decided := by
  have hproject : granted.project = r.project := (ProjectRecord.project_of_state hgranted :)
  have happrovals : granted.approvals = r.approvals := (ProjectRecord.approvals_of_state hgranted :)
  have hcheckpoints : granted.checkpoints = r.checkpoints :=
    (ProjectRecord.checkpoints_of_state hgranted :)
  have hproject' : decided.project = granted.project :=
    (ProjectRecord.project_of_state hdecided.state :)
  have htasks' : decided.tasks = granted.tasks := (ProjectRecord.tasks_of_state hdecided.state :)
  have hartifacts' : decided.artifacts = granted.artifacts :=
    (ProjectRecord.artifacts_of_state hdecided.state :)
  -- a request after the loop is a request from before it, decided or left alone
  have hmember : ∀ approval ∈ decided.approvals, ∃ request ∈ r.approvals,
      approval = if selected request then decision request else request := by
    intro approval hmem
    rw [ProjectRecord.approvals_of_state hdecided.state] at hmem
    dsimp only at hmem
    rw [happrovals] at hmem
    obtain ⟨request, hrequest, he⟩ := List.mem_map.mp hmem
    exact ⟨request, hrequest, he.symm⟩
  refine ⟨hproject'.trans hproject, htasks'.trans (ProjectRecord.tasks_of_state hgranted :),
    hartifacts'.trans (ProjectRecord.artifacts_of_state hgranted :), ?_, ?_, ?_, ?_⟩
  · intro approval hmem
    obtain ⟨request, hrequest, rfl⟩ := hmember approval hmem
    split
    · rw [htype, h.requests request hrequest]
    · exact h.requests request hrequest
  · intro approval hmem hpending
    obtain ⟨request, hrequest, rfl⟩ := hmember approval hmem
    split at hpending
    · exact hclosed ((hstatus request).symm.trans hpending)
    · rename_i hskip
      exact hskip (hselected request hrequest hpending)
  · intro approval hmem happroved
    obtain ⟨request, hrequest, rfl⟩ := hmember approval hmem
    split at happroved
    · exact (hstatus request).symm.trans happroved
    · exact absurd happroved (h.unapproved (by decide) request hrequest)
  · have hids : decided.checkpoints.map Checkpoint.id = r.checkpoints.map Checkpoint.id := by
      rw [ProjectRecord.checkpoints_of_state hdecided.state, ← hcheckpoints]
      dsimp only
      split
      · exact map_id_editCheckpoint hmark _
      · rfl
    rw [Delivered, hproject', hproject, hids]
    exact fun hdelivered => by cases h.delivered.mp hdelivered

variable (rt) in
theorem OnLane.afterApproval (h : OnLane .awaiting r) {granted : ProjectRecord}
    {requested : Finset ApprovalActionType} (actor : ActorContext) (note : String)
    (hgranted : granted.state = r.state) (hnew : .externalApiSend ∈ actionsToApprove r requested) :
    Settled .approved r (CodexOrchestrator.afterApproval rt actor note r granted requested) := by
  have hselected : ∀ approval ∈ r.approvals, approval.status = .pending →
      (decide (approval.status = .pending) &&
        decide (approval.actionType ∈ actionsToApprove r requested)) = true := by
    intro approval hmem hpending
    simp [hpending, h.requests approval hmem, hnew]
  exact h.settled hgranted (afterApproval_decided rt requested actor note hgranted) hselected
    (fun _ => rfl) (fun _ => rfl) (by decide) fun _ => rfl

/-- The plan runs on from the trend task. -/
theorem Settled.released {status : ApprovalStatus} {settled released : ProjectRecord}
    (hsettled : Settled status r settled) (h : OnLane .awaiting r)
    (hrelease : Released settled released) : Underway .done .done .done .pending released := by
  have hproject := ProjectRecord.project_of_state hrelease.state
  have happrovals : released.approvals = settled.approvals :=
    (ProjectRecord.approvals_of_state hrelease.state :)
  have hcheckpoints : released.checkpoints = settled.checkpoints :=
    (ProjectRecord.checkpoints_of_state hrelease.state :)
  have hartifacts : released.artifacts = settled.artifacts :=
    (ProjectRecord.artifacts_of_state hrelease.state :)
  have hstages : released.stages = r.stages.map (Stage.move .pending) := by
    rw [ProjectRecord.stages, ProjectRecord.tasks_of_state hrelease.state]
    dsimp only
    rw [stages_move, hsettled.tasks]
    rfl
  refine ⟨h.toOrdered.change ?_ ?_ (hartifacts.trans hsettled.artifacts) ?_, ?_, ?_⟩
  · rw [hstages, h.tasks]
    rfl
  · decide
  · rw [happrovals]
    exact hsettled.requests
  · rw [happrovals]
    exact hsettled.settled
  · have hundelivered := hsettled.undelivered
    rw [Delivered] at hundelivered ⊢
    rw [hproject, hcheckpoints]
    exact hundelivered

/-- An approval of the one pending request delivers the project. -/
theorem approval_lane {args : ApprovalResumeArgs} (h : OnLane .awaiting r)
    (hsaved : ApprovalResumeSaved rt args r r') :
    ∃ lane ∈ Lane.awaiting.next, OnLane lane r' := by
  cases hsaved with
  | denied denied saved => exact ⟨.awaiting, by decide, h.of_state (denied.state saved)⟩
  | partly checks grant missing some state edits =>
      exact absurd (h.missingActions_eq checks) missing
  | @fully requested granted released _ completion checks grant missing release executed saved =>
      have hnew := h.mem_actionsToApprove missing
      have hunderway := (h.afterApproval rt _ _ grant.state hnew).released h release
      obtain ⟨provider, -, -, hpass⟩ := executed_of_saved release.status executed saved
      have hopen := trendApprovalMissing_eq_false provider
        (Finset.mem_union_right (approvalActionState r).approvedActions hnew)
      exact ⟨.completed, by decide, hunderway.executed_of_open hpass hopen⟩

variable (rt) in
theorem OnLane.rejectPending (h : OnLane .awaiting r) {granted : ProjectRecord}
    (named : Finset ApprovalActionType) (actor : ActorContext) (reason note : String)
    (hgranted : granted.state = r.state) :
    Settled .rejected r (CodexOrchestrator.rejectPending rt granted
      (approvalActionState r).pendingApprovals named actor reason note) := by
  have happrovals : granted.approvals = r.approvals := (ProjectRecord.approvals_of_state hgranted :)
  have hselected : ∀ approval ∈ r.approvals, approval.status = .pending →
      (decide (approval.status = .pending) && true) = true := by
    intro approval _ hpending
    rw [hpending]
    rfl
  exact h.settled hgranted (rejectPending_decided rt r happrovals named actor reason note) hselected
    (fun _ => rfl) (fun _ => rfl) (by decide) fun _ => rfl

/-- A rejection closes the pending request. -/
theorem reject_lane {args : ApprovalRejectArgs} (h : OnLane .awaiting r)
    (hsaved : RejectSaved rt args r r') : ∃ lane ∈ Lane.awaiting.next, OnLane lane r' := by
  cases hsaved with
  | denied denied saved => exact ⟨.awaiting, by decide, h.of_state (denied.state saved)⟩
  | @rejected named granted _ pending grant sentBack =>
      refine ⟨.sentBack, by decide, ?_⟩
      have hsettled := h.rejectPending rt named (coerceActor args.actor .approver)
        (normalizeText args.reason) (normalizeText args.note) grant.state
      have hproject := ProjectRecord.project_of_state sentBack.state
      have happrovals := ProjectRecord.approvals_of_state sentBack.state
      have hcheckpoints := ProjectRecord.checkpoints_of_state sentBack.state
      have hartifacts := ProjectRecord.artifacts_of_state sentBack.state
      have hstages : r'.stages = r.stages.map (Stage.move .revisionRequested) := by
        rw [ProjectRecord.stages, ProjectRecord.tasks_of_state sentBack.state]
        dsimp only
        rw [stages_move, hsettled.tasks]
        rfl
      dsimp only [ProjectRecord.state] at happrovals hcheckpoints hartifacts
      refine ⟨h.toOrdered.change ?_ ?_ (hartifacts.trans hsettled.artifacts) ?_, ?_, ?_, ?_, ?_,
        fun hlane => by cases hlane⟩
      · rw [hstages, h.tasks]
        rfl
      · decide
      · rw [happrovals]
        exact hsettled.requests
      · rw [hproject]
        rfl
      · rw [happrovals]
        exact length_pendingRequests_eq_zero.mpr hsettled.settled
      -- what the loop rejected is not approved
      · intro _ approval hmem happroved
        rw [happrovals] at hmem
        cases hsettled.approved approval hmem happroved
      · refine ⟨fun hdelivered => absurd ?_ hsettled.undelivered, fun hlane => by cases hlane⟩
        rw [Delivered, hproject, hcheckpoints] at hdelivered
        exact hdelivered

/-! ## Revision lanes -/

theorem Stage.reset_done {departments : List Department} {stage : Stage}
    (h : (Stage.reset departments stage).2 = .done) : Stage.reset departments stage = stage := by
  unfold Stage.reset at h ⊢
  split at h
  · cases h
  · rename_i hkeep
    exact if_neg hkeep

/-- A record whose requests are all closed, with departments reset. -/
structure ResetLane (statuses : List TaskStatus) (nextStatus : ProjectStatus) (r : ProjectRecord) :
    Prop extends Ordered statuses r where
  status : r.project.status = nextStatus
  settled : ∀ approval ∈ r.approvals, approval.status ≠ .pending
  unapproved : ∀ approval ∈ r.approvals, approval.status ≠ .approved
  undelivered : ¬ Delivered r

theorem OnLane.reset {departments : List Department} {noteReason : Option String}
    {nextStatus : ProjectStatus} {statuses : List TaskStatus} (h : OnLane lane r)
    (hreset : Reset departments noteReason nextStatus r r') (hclosed : lane.openRequests = 0)
    (hlane : lane ≠ .completed)
    (hstages : (planStages lane.taskStatuses).map (Stage.reset departments) = planStages statuses) :
    ResetLane statuses nextStatus r' := by
  have hproject := ProjectRecord.project_of_state hreset.state
  have happrovals : r'.approvals = r.approvals := (ProjectRecord.approvals_of_state hreset.state :)
  have hcheckpoints : r'.checkpoints = r.checkpoints :=
    (ProjectRecord.checkpoints_of_state hreset.state :)
  have hartifacts : r'.artifacts = r.artifacts := (ProjectRecord.artifacts_of_state hreset.state :)
  have htasks : r'.stages = planStages statuses := by
    rw [← hstages, ← h.tasks, ProjectRecord.stages, ProjectRecord.tasks_of_state hreset.state]
    exact stages_reset departments noteReason r.tasks
  -- a reset task is not done, so what is done after the reset was done before
  have hdone : ∀ stage ∈ planStages statuses, stage.2 = .done →
      stage ∈ planStages lane.taskStatuses := by
    intro stage hmem hd
    rw [← hstages] at hmem
    obtain ⟨before, hbefore, rfl⟩ := List.mem_map.mp hmem
    rw [Stage.reset_done hd]
    exact hbefore
  refine ⟨h.toOrdered.change htasks hdone hartifacts ?_, ?_, ?_, ?_, ?_⟩
  · rw [happrovals]
    exact h.requests
  · rw [hproject]
  · rw [happrovals]
    exact length_pendingRequests_eq_zero.mp (h.pending.trans hclosed)
  · rw [happrovals]
    exact h.unapproved hlane
  · rw [Delivered, hproject, hcheckpoints]
    exact fun hdelivered => hlane (h.delivered.mp hdelivered)

theorem ResetLane.underway {a b c d : TaskStatus}
    (h : ResetLane [a, b, c, d, .pending] .inProgress r) : Underway a b c d r :=
  ⟨h.toOrdered, h.settled, h.undelivered⟩

theorem ResetLane.executed {a b c d : TaskStatus} {provider : TrendProvider}
    {approved : Finset ApprovalActionType} (h : ResetLane [a, b, c, d, .pending] .inProgress r)
    (hexecuted : Executed rt provider approved false r r') :
    ∃ lane ∈ [Lane.awaiting, .completed], OnLane lane r' := by
  rcases h.underway.executed hexecuted fun _ => h.unapproved with ⟨-, hlane⟩ | hlane
  · exact ⟨.awaiting, by decide, hlane⟩
  · exact ⟨.completed, by decide, hlane⟩

/-- The statuses a lane leaves, for both ways into a revision. -/
theorem revision_reset (hlane : lane = .sentBack ∨ lane = .reviewed) {mode : RevisionResumeMode}
    (hmode : mode ≠ .replanning) :
    ∃ a b c d, (planStages lane.taskStatuses).map
      (Stage.reset (revisionResumeConfig mode).departments) = planStages [a, b, c, d, .pending] := by
  rcases hlane with rfl | rfl
  · cases mode with
    | replanning => exact absurd rfl hmode
    | rebuilding => exact ⟨_, _, _, _, rfl⟩
    | rereview => exact ⟨_, _, _, _, rfl⟩
  · cases mode with
    | replanning => exact absurd rfl hmode
    | rebuilding => exact ⟨_, _, _, _, rfl⟩
    | rereview => exact ⟨_, _, _, _, rfl⟩

theorem revision_lane_cases {args : RevisionResumeArgs} (h : OnLane lane r)
    (hlane : lane = .sentBack ∨ lane = .reviewed) (hsaved : RevisionResumeSaved rt args r r') :
    (args.resumeMode = .replanning ∧ OnLane .replanned r') ∨
      ∃ next ∈ [Lane.awaiting, .completed], OnLane next r' := by
  have hopen : lane.openRequests = 0 := by rcases hlane with rfl | rfl <;> rfl
  have hne : lane ≠ .completed := by rcases hlane with rfl | rfl <;> decide
  cases hsaved with
  -- only the replanning mode stops before the pass
  | replanned mode reset =>
      have hstages : (planStages lane.taskStatuses).map (Stage.reset downstreamDepartments) =
          planStages Lane.replanned.taskStatuses := by rcases hlane with rfl | rfl <;> rfl
      have hreset := h.reset reset hopen hne hstages
      refine .inl ⟨mode, hreset.toOrdered, hreset.status, ?_, fun _ => hreset.unapproved, ?_,
        fun hlane => by cases hlane⟩
      · exact length_pendingRequests_eq_zero.mpr hreset.settled
      · exact ⟨fun hdelivered => absurd hdelivered hreset.undelivered, fun hlane => by cases hlane⟩
  | executed mode reset parsed executed saved =>
      obtain ⟨a, b, c, d, hstages⟩ := revision_reset hlane mode
      obtain ⟨provider, -, -, hpass⟩ := executed_of_saved reset.status executed saved
      exact .inr ((h.reset reset hopen hne hstages).executed hpass)

theorem revision_lane {args : RevisionResumeArgs} (h : OnLane lane r)
    (hlane : lane = .sentBack ∨ lane = .reviewed) (hsaved : RevisionResumeSaved rt args r r') :
    ∃ next ∈ lane.next, OnLane next r' := by
  have hnext : lane.next = [.replanned, .awaiting, .completed] := by
    rcases hlane with rfl | rfl <;> rfl
  rw [hnext]
  rcases revision_lane_cases h hlane hsaved with ⟨-, hreplanned⟩ | ⟨next, hmem, hnextLane⟩
  · exact ⟨.replanned, by decide, hreplanned⟩
  · exact ⟨next, List.mem_cons_of_mem _ hmem, hnextLane⟩

theorem replanning_lane {args : ReplanningStartArgs} (h : OnLane .replanned r)
    (hsaved : ReplanningSaved rt args r r') : ∃ lane ∈ Lane.replanned.next, OnLane lane r' := by
  obtain ⟨approved, resumed, completion, hreset, -, hexecuted, hsaved⟩ := hsaved.restarted
  have hstages : (planStages Lane.replanned.taskStatuses).map
      (Stage.reset (if args.resetDownstreamTasks then downstreamDepartments else [])) =
      planStages [.done, .pending, .pending, .pending, .pending] := by
    cases args.resetDownstreamTasks <;> rfl
  obtain ⟨provider, -, -, hpass⟩ := executed_of_saved hreset.status hexecuted hsaved
  exact (h.reset hreset rfl (by decide) hstages).executed hpass

/-- Every operation takes a project along an edge between the lanes. -/
theorem saved_lane {operation : ProjectOperation} (h : OnLane lane r)
    (hsaved : savedBy (operation.body rt r) = some r') : ∃ next ∈ lane.next, OnLane next r' := by
  have hstatus := h.status
  -- an operation saves in one status only, and the status of a stored record gives its lane
  cases operation with
  | resumeFromApproval args =>
      obtain ⟨hwaiting, hsaved⟩ := saved_resumeFromApproval hsaved
      have hlane := Lane.eq_awaiting (hstatus.symm.trans hwaiting)
      subst hlane
      exact approval_lane h hsaved
  | rejectApproval args =>
      obtain ⟨hwaiting, hsaved⟩ := saved_rejectApproval hsaved
      have hlane := Lane.eq_awaiting (hstatus.symm.trans hwaiting)
      subst hlane
      exact reject_lane h hsaved
  | resumeFromRevision args =>
      obtain ⟨hrevision, hsaved⟩ := saved_resumeFromRevision hsaved
      exact revision_lane h (Lane.eq_revision (hstatus.symm.trans hrevision)) hsaved
  | startReplanning args =>
      obtain ⟨hready, hsaved⟩ := saved_startReplanning hsaved
      have hlane := Lane.eq_replanned (hstatus.symm.trans hready)
      subst hlane
      exact replanning_lane h hsaved

end Operations

/-- Every stored record is in a lane. -/
theorem stored_lane {calls : List Call} {projectId : String} {record : ProjectRecord}
    (hget : (afterCalls calls).get projectId = some record) : ∃ lane, OnLane lane record := by
  refine @stored_of_operations (fun record => ∃ lane, OnLane lane record) ?_ ?_ ?_ ?_ calls projectId
    record hget
  · intro rt args record h
    obtain ⟨lane, -, hlane⟩ := run_lane (saved_run h)
    exact ⟨lane, hlane⟩
  · rintro rt operation loaded record ⟨lane, h⟩ hsaved
    obtain ⟨next, -, hnext⟩ := saved_lane h hsaved
    exact ⟨next, hnext⟩
  · rintro rt actor loaded ⟨lane, h⟩
    exact ⟨lane, h.of_state rfl⟩
  · rintro rt reason loaded ⟨lane, h⟩
    exact ⟨lane, h.of_state rfl⟩

/-! ## The parts of a stored record agree -/

/-- Status, tasks, approvals, artifacts, reviews and checkpoints of a record fit together. -/
structure Consistent (r : ProjectRecord) : Prop where
  status : r.project.status ∈
    [ProjectStatus.waitingApproval, .revisionRequested, .readyForPlanning, .completed]
  idle : ∀ task ∈ r.tasks, task.status ≠ .inProgress
  waiting_iff_request : r.project.status = .waitingApproval ↔
    (pendingRequests r.approvals).length = 1
  request_iff_task : (pendingRequests r.approvals).length = 1 ↔
    (r.tasks.filter fun task => task.status = .waitingApproval).length = 1
  waitingTask : ∀ task ∈ r.tasks, task.status = .waitingApproval → task.department = .trend
  dependencies : ∀ task ∈ r.tasks, task.status = .done → ∀ id ∈ task.dependsOn,
    ∃ dependency ∈ r.tasks, dependency.id = id ∧ dependency.status = .done
  outputs : ∀ task ∈ r.tasks, task.status = .done → task.department ≠ .review →
    (r.artifacts.filter fun artifact => artifact.taskId = task.id).length = 1
  completed : r.project.status = .completed →
    (∀ task ∈ r.tasks, task.status = .done) ∧
    (∀ approval ∈ r.approvals, approval.status ≠ .pending) ∧
    ∃ review, r.reviews.getLast? = some review ∧ review.verdict = "approved"
  delivery : (∃ checkpoint ∈ r.checkpoints, checkpoint.id = deliveryCheckpointId r.project.id) ↔
    r.project.status = .completed

section Consistent

variable {r : ProjectRecord} {lane : Lane}

/-- A property of the statuses of a lane holds of the tasks of its records. -/
theorem OnLane.stage_mem (h : OnLane lane r) {task : Task} (hmem : task ∈ r.tasks) :
    task.stage ∈ planStages lane.taskStatuses :=
  h.tasks ▸ List.mem_map_of_mem hmem

theorem OnLane.task_of_stage (h : OnLane lane r) {stage : Stage}
    (hmem : stage ∈ planStages lane.taskStatuses) : ∃ task ∈ r.tasks, task.stage = stage := by
  rw [← h.tasks] at hmem
  exact List.mem_map.mp hmem

theorem Lane.dependencies (lane : Lane) : ∀ stage ∈ planStages lane.taskStatuses, stage.2 = .done →
    ∀ id ∈ stage.1.dependsOn, ∃ dependency ∈ planStages lane.taskStatuses,
      dependency.1.id = id ∧ dependency.2 = .done := by
  cases lane <;> decide

theorem Lane.idle (lane : Lane) : ∀ stage ∈ planStages lane.taskStatuses, stage.2 ≠ .inProgress := by
  cases lane <;> decide

theorem Lane.waitingTask (lane : Lane) : ∀ stage ∈ planStages lane.taskStatuses,
    stage.2 = .waitingApproval → stage.1.department = .trend := by
  cases lane <;> decide

theorem Lane.openRequests_eq (lane : Lane) : lane.openRequests =
    ((planStages lane.taskStatuses).filter fun stage => stage.2 = .waitingApproval).length := by
  cases lane <;> rfl

theorem OnLane.consistent (h : OnLane lane r) : Consistent r := by
  have hcompleted : r.project.status = .completed ↔ lane = .completed := by
    rw [h.status]
    cases lane <;> decide
  constructor
  · rw [h.status]
    cases lane <;> decide
  · exact fun task hmem => lane.idle task.stage (h.stage_mem hmem)
  · rw [h.status, h.pending]
    cases lane <;> decide
  · have hwaiting : (r.tasks.filter fun task => task.status = .waitingApproval).length =
        (r.stages.filter fun stage => stage.2 = .waitingApproval).length := by
      rw [ProjectRecord.stages, List.filter_map, List.length_map]
      rfl
    rw [h.pending, hwaiting, h.tasks, lane.openRequests_eq]
  · exact fun task hmem => lane.waitingTask task.stage (h.stage_mem hmem)
  · intro task hmem hdone id hid
    obtain ⟨stage, hstage, hstageId, hstageDone⟩ :=
      lane.dependencies task.stage (h.stage_mem hmem) hdone id hid
    obtain ⟨dependency, hdependency, rfl⟩ := h.task_of_stage hstage
    exact ⟨dependency, hdependency, hstageId, hstageDone⟩
  · intro task hmem hdone hreview
    -- a done task other than the review has filed one artifact
    have hone := h.outputs.length_filter (List.mem_map_of_mem hmem) hdone hreview
    rw [List.filter_map, List.length_map] at hone
    exact hone
  · intro hstatus
    have hlane := hcompleted.mp hstatus
    subst hlane
    refine ⟨fun task hmem => ?_, length_pendingRequests_eq_zero.mp h.pending, h.passed rfl⟩
    have hall : ∀ stage ∈ planStages Lane.completed.taskStatuses, stage.2 = .done := by decide
    exact hall task.stage (h.stage_mem hmem)
  · rw [hcompleted, ← h.delivered, Delivered, List.mem_map]

end Consistent

theorem stored_consistent {calls : List Call} {projectId : String} {record : ProjectRecord}
    (hget : (afterCalls calls).get projectId = some record) : Consistent record := by
  obtain ⟨lane, hlane⟩ := stored_lane hget
  exact hlane.consistent

/-- A project that was sent back and rebuilt, up to the next request. -/
theorem stored_consistent_sample : ∃ record,
    (afterCalls [sampleRun, sampleRejection, sampleRevision .rebuilding]).get "p" = some record ∧
      Consistent record := by
  have hstored : ((afterCalls [sampleRun, sampleRejection, sampleRevision .rebuilding]).get
      "p").isSome = true := by decide
  obtain ⟨record, hget⟩ := Option.isSome_iff_exists.mp hstored
  exact ⟨record, hget, stored_consistent hget⟩

end CodexOrchestrator
