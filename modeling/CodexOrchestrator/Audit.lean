import CodexOrchestrator.Orchestrator.Outcomes

/-!
# Audit — the event log replays to the state

Each tracked field of a record has its events: the project status, the status of every task, and the
numbers of requests and decisions of each action type.  One edit writes the field and its event
together, so the log of every stored record replays to the record.
-/

open Runs

namespace CodexOrchestrator

/-- The metadata of the events that `keep` selects, in order. -/
def metadataOf (keep : HistoryEvent → Bool) (events : List HistoryEvent) : List JsonDict :=
  (events.filter keep).map HistoryEvent.metadata

def HistoryEvent.isTransition (event : HistoryEvent) : Bool :=
  decide (event.eventType = .stateTransition)

def HistoryEvent.isTaskChange (taskId : String) (event : HistoryEvent) : Bool :=
  decide (event.eventType = .taskStatusChanged) && decide (event.text? "task_id" = some taskId)

/-- The number of events of a type about an action type. -/
def eventCount (eventType : HistoryEventType) (actionType : ApprovalActionType)
    (events : List HistoryEvent) : Nat :=
  events.countP fun event => decide (event.eventType = eventType) && decide (event.concerns actionType)

def requestCount (actionType : ApprovalActionType) (approvals : List ApprovalRequest) : Nat :=
  approvals.countP fun approval => decide (approval.actionType = actionType)

def decisionCount (status : ApprovalStatus) (actionType : ApprovalActionType)
    (approvals : List ApprovalRequest) : Nat :=
  approvals.countP fun approval =>
    decide (approval.actionType = actionType) && decide (approval.status = status)

/-- The transition events are a walk of the state machine from `draft` to the status, and the history
    is the same walk, rendered. -/
def StatusReplays (r : ProjectRecord) : Prop :=
  ∃ path : List (ProjectStatus × ProjectStatus),
    Walk (fun a b => canTransition a b = true) .draft path r.project.status ∧
    metadataOf HistoryEvent.isTransition r.events = path.map (fun e => transitionMetadata e.1 e.2) ∧
    r.history = path.map (fun e => renderTransition e.1 e.2)

/-- The events of a task are a walk from `pending` to its status. -/
def TaskReplays (events : List HistoryEvent) (task : Task) : Prop :=
  ∃ path : List (TaskStatus × TaskStatus),
    Walk (fun _ _ => True) .pending path task.status ∧
    metadataOf (HistoryEvent.isTaskChange task.id) events =
      path.map (fun e => taskMetadata task.id e.1 e.2)

/-- The events about an action type count its requests, its approvals and its rejections. -/
structure ApprovalsReplay (r : ProjectRecord) (actionType : ApprovalActionType) : Prop where
  requested : eventCount .approvalRequested actionType r.events = requestCount actionType r.approvals
  approved : eventCount .approvalApproved actionType r.events =
    decisionCount .approved actionType r.approvals
  rejected : eventCount .approvalRejected actionType r.events =
    decisionCount .rejected actionType r.approvals

structure Replays (r : ProjectRecord) : Prop where
  status : StatusReplays r
  distinct : (r.tasks.map Task.id).Nodup
  tasks : ∀ task ∈ r.tasks, TaskReplays r.events task
  approvals : ∀ actionType, ApprovalsReplay r actionType

/-! ## Adding one event -/

theorem metadataOf_concat (keep : HistoryEvent → Bool) (events : List HistoryEvent)
    (event : HistoryEvent) :
    metadataOf keep (events ++ [event]) =
      metadataOf keep events ++ if keep event then [event.metadata] else [] := by
  unfold metadataOf
  rw [List.filter_append, List.map_append, List.filter_singleton]
  cases keep event <;> rfl

theorem eventCount_concat (eventType : HistoryEventType) (actionType : ApprovalActionType)
    (events : List HistoryEvent) (event : HistoryEvent) :
    eventCount eventType actionType (events ++ [event]) = eventCount eventType actionType events +
      if event.eventType = eventType ∧ event.concerns actionType then 1 else 0 := by
  unfold eventCount
  rw [List.countP_append, List.countP_singleton]
  simp only [Bool.and_eq_true, decide_eq_true_eq]

theorem metadataOf_concat_of_ne {keep : HistoryEvent → Bool} {event : HistoryEvent}
    (events : List HistoryEvent) (h : keep event = false) :
    metadataOf keep (events ++ [event]) = metadataOf keep events := by
  rw [metadataOf_concat, h]
  exact List.append_nil _

theorem isTransition_of_ne {event : HistoryEvent} (h : event.eventType ≠ .stateTransition) :
    event.isTransition = false :=
  decide_eq_false h

theorem isTaskChange_of_ne {event : HistoryEvent} (taskId : String)
    (h : event.eventType ≠ .taskStatusChanged) : event.isTaskChange taskId = false := by
  rw [HistoryEvent.isTaskChange, decide_eq_false h, Bool.false_and]

/-- An event of another type changes no count. -/
theorem eventCount_concat_of_ne {eventType : HistoryEventType} {event : HistoryEvent}
    (actionType : ApprovalActionType) (events : List HistoryEvent) (h : event.eventType ≠ eventType) :
    eventCount eventType actionType (events ++ [event]) = eventCount eventType actionType events := by
  rw [eventCount_concat, if_neg fun ⟨he, _⟩ => h he, Nat.add_zero]

/-- An event concerns one action type only. -/
theorem concerns_iff {event : HistoryEvent} {actionType : ApprovalActionType}
    (h : event.concerns actionType) (other : ApprovalActionType) :
    event.concerns other ↔ actionType = other := by
  constructor
  · intro ho
    exact ApprovalActionType.value_injective (Option.some.inj (h.symm.trans ho))
  · rintro rfl
    exact h

/-! ## Adding and deciding a request -/

theorem requestCount_concat (actionType : ApprovalActionType) (approvals : List ApprovalRequest)
    (approval : ApprovalRequest) :
    requestCount actionType (approvals ++ [approval]) = requestCount actionType approvals +
      if approval.actionType = actionType then 1 else 0 := by
  unfold requestCount
  rw [List.countP_append, List.countP_singleton]
  simp only [decide_eq_true_eq]

theorem decisionCount_concat (status : ApprovalStatus) (actionType : ApprovalActionType)
    (approvals : List ApprovalRequest) (approval : ApprovalRequest) :
    decisionCount status actionType (approvals ++ [approval]) =
      decisionCount status actionType approvals +
        if approval.actionType = actionType ∧ approval.status = status then 1 else 0 := by
  unfold decisionCount
  rw [List.countP_append, List.countP_singleton]
  simp only [Bool.and_eq_true, decide_eq_true_eq]

/-- A decision keeps the action type of its request. -/
theorem requestCount_set {actionType : ApprovalActionType} {approvals : List ApprovalRequest}
    {i : Nat} {approval approval' : ApprovalRequest} (found : approvals[i]? = some approval)
    (htype : approval'.actionType = approval.actionType) :
    requestCount actionType (approvals.set i approval') = requestCount actionType approvals := by
  obtain ⟨hlt, hget⟩ := List.getElem?_eq_some_iff.mp found
  unfold requestCount
  have hle := List.boole_getElem_le_countP
    (p := fun approval : ApprovalRequest => decide (approval.actionType = actionType)) hlt
  rw [List.countP_set hlt, hget, htype]
  rw [hget] at hle
  omega

/-- A decision on a pending request adds one to the count of its own status. -/
theorem decisionCount_set {status : ApprovalStatus} {actionType : ApprovalActionType}
    {approvals : List ApprovalRequest} {i : Nat} {approval approval' : ApprovalRequest}
    (found : approvals[i]? = some approval) (pending : approval.status = .pending)
    (hstatus : status ≠ .pending) :
    decisionCount status actionType (approvals.set i approval') =
      decisionCount status actionType approvals +
        if approval'.actionType = actionType ∧ approval'.status = status then 1 else 0 := by
  obtain ⟨hlt, hget⟩ := List.getElem?_eq_some_iff.mp found
  have hbefore : ¬ (decide (approval.actionType = actionType) &&
      decide (approval.status = status)) = true := by
    rw [pending]
    simp [hstatus.symm]
  unfold decisionCount
  rw [List.countP_set hlt, hget, if_neg hbefore, Nat.sub_zero]
  simp only [Bool.and_eq_true, decide_eq_true_eq]

/-! ## One edit -/

section Edits

variable {may : ActorContext → ApprovalActionType → Prop} {r r' : ProjectRecord}

/-- The history and the transition events grow together, or not at all. -/
theorem StatusReplays.edit (he : Edit may r r') (h : StatusReplays r) : StatusReplays r' := by
  obtain ⟨path, hwalk, hevents, hhistory⟩ := h
  have hkeep : ∀ event : HistoryEvent, event.eventType ≠ .stateTransition →
      metadataOf HistoryEvent.isTransition (r.events ++ [event]) =
        path.map (fun e => transitionMetadata e.1 e.2) := by
    intro event hne
    rw [metadataOf_concat_of_ne r.events (isTransition_of_ne hne), hevents]
  cases he with
  | annotate same =>
      refine ⟨path, ?_, ?_, ?_⟩
      · rw [same.project]
        exact hwalk
      · rw [same.events, hevents]
      · rw [same.history, hhistory]
  | log event type =>
      refine ⟨path, hwalk, hkeep event ?_, hhistory⟩
      intro ht
      rw [ht] at type
      cases type
  | transition nextStatus event can type metadata =>
      -- the transition is the next edge of the walk
      refine ⟨path ++ [(r.project.status, nextStatus)], hwalk.concat can, ?_, ?_⟩
      · have hself : event.isTransition = true := decide_eq_true type
        rw [metadataOf_concat, hself, hevents, metadata, List.map_append]
        rfl
      · rw [hhistory, List.map_append]
        rfl
  | task nextStatus event found type metadata =>
      exact ⟨path, hwalk, hkeep event (by rw [type]; decide), hhistory⟩
  | request approval event pending type concerns =>
      exact ⟨path, hwalk, hkeep event (by rw [type]; decide), hhistory⟩
  | decide status requestedBy decisionNote event found pending decided type concerns allowed =>
      refine ⟨path, hwalk, hkeep event ?_, hhistory⟩
      rw [type]
      cases status <;> decide

theorem id_of_core {task task' : Task} (h : task'.core = task.core) : task'.id = task.id :=
  (congrArg Task.id h :)

theorem map_id_of_core {tasks tasks' : List Task}
    (h : tasks'.map Task.core = tasks.map Task.core) : tasks'.map Task.id = tasks.map Task.id := by
  have hids := congrArg (List.map Task.id) h
  rw [List.map_map, List.map_map] at hids
  exact hids

/-- The ids of the tasks never change. -/
theorem Edit.taskIds (he : Edit may r r') : r'.tasks.map Task.id = r.tasks.map Task.id := by
  cases he with
  | annotate same => exact map_id_of_core same.tasks
  | log => rfl
  | transition => rfl
  | @task i task nextStatus event found =>
      obtain ⟨hlt, hget⟩ := List.getElem?_eq_some_iff.mp found
      rw [List.map_set]
      show (r.tasks.map Task.id).set i task.id = _
      rw [← hget, ← List.getElem_map Task.id, List.set_getElem_self]
      rw [List.length_map]
      exact hlt
  | request => rfl
  | decide => rfl

/-- A task that differs in its note only has the same trail. -/
theorem TaskReplays.of_core {events : List HistoryEvent} {task task' : Task}
    (h : TaskReplays events task) (hcore : task'.core = task.core) : TaskReplays events task' := by
  obtain ⟨path, hwalk, hevents⟩ := h
  have hstatus : task'.status = task.status := (congrArg Task.status hcore :)
  refine ⟨path, ?_, ?_⟩
  · rw [hstatus]
    exact hwalk
  · rw [id_of_core hcore, hevents]

/-- An event about something else leaves the trail of a task alone. -/
theorem TaskReplays.concat_of_ne {events : List HistoryEvent} {task : Task} {event : HistoryEvent}
    (h : TaskReplays events task) (hother : event.isTaskChange task.id = false) :
    TaskReplays (events ++ [event]) task := by
  obtain ⟨path, hwalk, hevents⟩ := h
  refine ⟨path, hwalk, ?_⟩
  rw [metadataOf_concat_of_ne events hother, hevents]

section TaskChange

variable {events : List HistoryEvent} {event : HistoryEvent} {task : Task}
  {nextStatus : TaskStatus}

/-- The event of a task change names the task. -/
theorem text?_of_taskMetadata
    (metadata : event.metadata = taskMetadata task.id task.status nextStatus) :
    event.text? "task_id" = some task.id := by
  rw [HistoryEvent.text?, metadata]
  rfl

/-- The event of a task change is in the trail of no other task. -/
theorem isTaskChange_of_id_ne (task' : Task)
    (metadata : event.metadata = taskMetadata task.id task.status nextStatus)
    (hne : task.id ≠ task'.id) : event.isTaskChange task'.id = false := by
  have hother : ¬ event.text? "task_id" = some task'.id := by
    rw [text?_of_taskMetadata metadata]
    exact fun he => hne (Option.some.inj he)
  rw [HistoryEvent.isTaskChange, decide_eq_false hother, Bool.and_false]

/-- The trail of the changed task grows by the change. -/
theorem TaskReplays.concat (h : TaskReplays events task)
    (type : event.eventType = .taskStatusChanged)
    (metadata : event.metadata = taskMetadata task.id task.status nextStatus) :
    TaskReplays (events ++ [event]) { task with status := nextStatus } := by
  obtain ⟨path, hwalk, hevents⟩ := h
  have hself : event.isTaskChange task.id = true := by
    rw [HistoryEvent.isTaskChange, decide_eq_true type,
      decide_eq_true (text?_of_taskMetadata metadata)]
    rfl
  refine ⟨path ++ [(task.status, nextStatus)], hwalk.concat trivial, ?_⟩
  rw [metadataOf_concat, hself, hevents, metadata, List.map_append]
  rfl

end TaskChange

/-- Tasks at two places of a list with distinct ids have two ids. -/
theorem id_ne_of_getElem? {tasks : List Task} (hdistinct : (tasks.map Task.id).Nodup) {i j : Nat}
    {task task' : Task} (hi : tasks[i]? = some task) (hj : tasks[j]? = some task') (hij : i ≠ j) :
    task.id ≠ task'.id := by
  intro hid
  obtain ⟨hlt, -⟩ := List.getElem?_eq_some_iff.mp hi
  have hsame : (tasks.map Task.id)[i]? = (tasks.map Task.id)[j]? := by
    rw [List.getElem?_map, List.getElem?_map, hi, hj, Option.map_some, Option.map_some, hid]
  have hlt' : i < (tasks.map Task.id).length := by
    rw [List.length_map]
    exact hlt
  exact hij ((List.getElem?_inj hlt' hdistinct).mp hsame)

/-- A task status and its events change together. -/
theorem tasksReplay_edit (he : Edit may r r') (hdistinct : (r.tasks.map Task.id).Nodup)
    (h : ∀ task ∈ r.tasks, TaskReplays r.events task) :
    ∀ task ∈ r'.tasks, TaskReplays r'.events task := by
  have hkeep : ∀ event : HistoryEvent, event.eventType ≠ .taskStatusChanged →
      ∀ task ∈ r.tasks, TaskReplays (r.events ++ [event]) task :=
    fun event hne task hmem => (h task hmem).concat_of_ne (isTaskChange_of_ne task.id hne)
  cases he with
  | annotate same =>
      intro task' hmem'
      -- an annotation may change the note of a task, which the trail does not look at
      have hcore : task'.core ∈ r.tasks.map Task.core := by
        rw [← same.tasks]
        exact List.mem_map_of_mem hmem'
      obtain ⟨task, hmem, he⟩ := List.mem_map.mp hcore
      rw [same.events]
      exact (h task hmem).of_core he.symm
  | log event type =>
      apply hkeep event
      intro ht
      rw [ht] at type
      cases type
  | transition nextStatus event can type metadata => exact hkeep event (by rw [type]; decide)
  | @task i task nextStatus event found type metadata =>
      intro task' hmem'
      obtain ⟨j, hj⟩ := List.mem_iff_getElem?.mp hmem'
      by_cases hij : i = j
      · -- the changed task itself: the event is the last step of its trail
        subst hij
        rw [List.getElem?_set_self (List.getElem?_eq_some_iff.mp found).1] at hj
        rw [← Option.some.inj hj]
        exact (h task (List.mem_of_getElem? found)).concat type metadata
      · -- any other task: its id differs, so the event is not about it
        rw [List.getElem?_set_ne hij] at hj
        have hne := id_ne_of_getElem? hdistinct found hj hij
        exact (h task' (List.mem_of_getElem? hj)).concat_of_ne
          (isTaskChange_of_id_ne task' metadata hne)
  | request approval event pending type concerns => exact hkeep event (by rw [type]; decide)
  | decide status requestedBy decisionNote event found pending decided type concerns allowed =>
      apply hkeep event
      rw [type]
      cases status <;> decide

/-- An edit that neither asks nor decides leaves the counts alone. -/
theorem ApprovalsReplay.concat_of_ne {actionType : ApprovalActionType} {event : HistoryEvent}
    (h : ApprovalsReplay r actionType) (happrovals : r'.approvals = r.approvals)
    (hevents : r'.events = r.events ++ [event]) (hrequested : event.eventType ≠ .approvalRequested)
    (happroved : event.eventType ≠ .approvalApproved)
    (hrejected : event.eventType ≠ .approvalRejected) : ApprovalsReplay r' actionType := by
  refine ⟨?_, ?_, ?_⟩
  · rw [hevents, happrovals, eventCount_concat_of_ne _ _ hrequested, h.requested]
  · rw [hevents, happrovals, eventCount_concat_of_ne _ _ happroved, h.approved]
  · rw [hevents, happrovals, eventCount_concat_of_ne _ _ hrejected, h.rejected]

/-- The counts of requests and decisions change together with their events. -/
theorem ApprovalsReplay.edit {actionType : ApprovalActionType} (he : Edit may r r')
    (h : ApprovalsReplay r actionType) : ApprovalsReplay r' actionType := by
  cases he with
  | annotate same =>
      refine ⟨?_, ?_, ?_⟩
      · rw [same.events, same.approvals, h.requested]
      · rw [same.events, same.approvals, h.approved]
      · rw [same.events, same.approvals, h.rejected]
  | log event type =>
      refine h.concat_of_ne rfl rfl ?_ ?_ ?_
      all_goals
        intro ht
        rw [ht] at type
        cases type
  | transition nextStatus event can type metadata =>
      refine h.concat_of_ne rfl rfl ?_ ?_ ?_
      all_goals
        rw [type]
        decide
  | task nextStatus event found type metadata =>
      refine h.concat_of_ne rfl rfl ?_ ?_ ?_
      all_goals
        rw [type]
        decide
  | request approval event pending type concerns =>
      have hconcerns := concerns_iff concerns actionType
      refine ⟨?_, ?_, ?_⟩
      · rw [eventCount_concat, h.requested, requestCount_concat]
        simp only [type, hconcerns, true_and]
      -- a request that was just opened is not decided yet
      · rw [eventCount_concat_of_ne _ _ (by rw [type]; decide), h.approved, decisionCount_concat,
          if_neg (by simp [pending]), Nat.add_zero]
      · rw [eventCount_concat_of_ne _ _ (by rw [type]; decide), h.rejected, decisionCount_concat,
          if_neg (by simp [pending]), Nat.add_zero]
  | decide status requestedBy decisionNote event found pending decided type concerns allowed =>
      have hconcerns := concerns_iff concerns actionType
      -- the event of a decision is not counted as a request
      have hrequested : event.eventType ≠ .approvalRequested := by
        rw [type]
        cases status <;> decide
      refine ⟨?_, ?_, ?_⟩
      · rw [eventCount_concat_of_ne _ _ hrequested, h.requested]
        symm
        exact requestCount_set found rfl
      · rw [eventCount_concat, h.approved, decisionCount_set found pending (by decide)]
        simp only [type, hconcerns]
        cases status <;> simp [decisionEventType]
      · rw [eventCount_concat, h.rejected, decisionCount_set found pending (by decide)]
        simp only [type, hconcerns]
        cases status with
        | pending => exact absurd rfl decided
        | approved => simp [decisionEventType]
        | rejected => simp [decisionEventType]

theorem Replays.edit (he : Edit may r r') (h : Replays r) : Replays r' where
  status := h.status.edit he
  distinct := by
    rw [he.taskIds]
    exact h.distinct
  tasks := tasksReplay_edit he h.distinct h.tasks
  approvals actionType := (h.approvals actionType).edit he

end Edits

/-! ## Runs -/

/-- A new project has an empty log, and its plan has distinct ids. -/
theorem replays_initialRecord (rt : Runtime) (args : RunArgs) : Replays (initialRecord rt args) where
  status := ⟨[], .nil, rfl, rfl⟩
  distinct := show (buildPlan.map Task.id).Nodup by decide
  tasks task hmem := by
    have hplan : ∀ task ∈ buildPlan, task.status = .pending := by decide
    have hpending := hplan task hmem
    exact ⟨[], hpending ▸ .nil, rfl⟩
  approvals actionType := ⟨rfl, rfl, rfl⟩

/-- The audit log of every stored record replays to the record, after any run. -/
theorem stored_replays {calls : List Call} {projectId : String} {record : ProjectRecord}
    (h : (afterCalls calls).get projectId = some record) : Replays record :=
  stored_of_edits replays_initialRecord (fun he hr => hr.edit he) h

theorem stored_replays_sample : ∃ record,
    (afterCalls [sampleRun, sampleApproval]).get "p" = some record ∧ Replays record := by
  have hsome : ((afterCalls [sampleRun, sampleApproval]).get "p").isSome = true := by decide
  obtain ⟨record, h⟩ := Option.isSome_iff_exists.mp hsome
  exact ⟨record, h, stored_replays h⟩

end CodexOrchestrator
