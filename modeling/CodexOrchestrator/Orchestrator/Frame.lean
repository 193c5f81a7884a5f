import CodexOrchestrator.Lib.Loops
import CodexOrchestrator.Orchestrator.Operations

/-!
# Frame — what the record edits do outside the logs

`state` drops the two logs of a record.  One equation for each edit says how it changes what is left;
everything that the equation does not name is unchanged.
-/

open PyText Raise

namespace CodexOrchestrator

/-- The record without its history and its events. -/
def ProjectRecord.state (record : ProjectRecord) : ProjectRecord :=
  { record with history := [], events := [] }

def Task.withStatus (status : TaskStatus) (task : Task) : Task := { task with status }

namespace ProjectRecord

variable (r : ProjectRecord)

@[simp] theorem state_tasks : r.state.tasks = r.tasks := rfl
@[simp] theorem state_artifacts : r.state.artifacts = r.artifacts := rfl
@[simp] theorem state_reviews : r.state.reviews = r.reviews := rfl
@[simp] theorem state_checkpoints : r.state.checkpoints = r.checkpoints := rfl
@[simp] theorem state_approvals : r.state.approvals = r.approvals := rfl

variable {r} {s : ProjectRecord}

theorem project_of_state (h : r.state = s) : r.project = s.project :=
  (congrArg ProjectRecord.project h :)

theorem tasks_of_state (h : r.state = s) : r.tasks = s.tasks :=
  (congrArg ProjectRecord.tasks h :)

theorem artifacts_of_state (h : r.state = s) : r.artifacts = s.artifacts :=
  (congrArg ProjectRecord.artifacts h :)

theorem reviews_of_state (h : r.state = s) : r.reviews = s.reviews :=
  (congrArg ProjectRecord.reviews h :)

theorem checkpoints_of_state (h : r.state = s) : r.checkpoints = s.checkpoints :=
  (congrArg ProjectRecord.checkpoints h :)

theorem approvals_of_state (h : r.state = s) : r.approvals = s.approvals :=
  (congrArg ProjectRecord.approvals h :)

end ProjectRecord

section

variable (rt : Runtime) (r : ProjectRecord)

/-! ## Log entries -/

@[simp] theorem recordEvent_state (eventType : HistoryEventType) (actor : ActorContext)
    (reason : String) (metadata : JsonDict) :
    (recordEvent rt r eventType actor reason metadata).state = r.state := rfl

@[simp] theorem recordResumeTriggered_state (actor : ActorContext) (mode reason : String)
    (metadata : JsonDict) :
    (recordResumeTriggered rt r actor mode reason metadata).state = r.state := rfl

/-! ## Status and tasks -/

theorem transition_of_can {nextStatus : ProjectStatus} (actor : ActorContext) (reason : String)
    (h : canTransition r.project.status nextStatus = true) :
    ∃ r', transition rt r nextStatus actor reason = .ok r' ∧
      r'.state = { r.state with project := { r.project with status := nextStatus } } := by
  have hne : r.project.status ≠ nextStatus := by
    intro he
    rw [he, canTransition_irrefl] at h
    cases h
  unfold transition
  rw [if_neg hne, if_pos h]
  exact ⟨_, rfl, rfl⟩

theorem setTaskStatus_state (i : Nat) (nextStatus : TaskStatus) (actor : ActorContext)
    (reason : String) :
    (setTaskStatus rt r i nextStatus actor reason).state =
      { r.state with tasks := r.tasks.modify i (Task.withStatus nextStatus) } := by
  have hmodify : ∀ task, r.tasks[i]? = some task →
      r.tasks.modify i (Task.withStatus nextStatus) = r.tasks.set i (task.withStatus nextStatus) := by
    intro task hi
    obtain ⟨hlt, he⟩ := List.getElem?_eq_some_iff.mp hi
    rw [List.modify_eq_set_getElem?, hi]
    rfl
  unfold setTaskStatus
  split
  · rename_i hi
    rw [List.modify_eq_self (List.getElem?_eq_none_iff.mp hi)]
    rfl
  · rename_i task hi
    rw [hmodify task hi]
    split
    · rename_i hs
      have hself : task.withStatus nextStatus = task := by rw [← hs]; rfl
      obtain ⟨hlt, he⟩ := List.getElem?_eq_some_iff.mp hi
      rw [hself, ← he, List.set_getElem_self]
      rfl
    · rfl

@[simp] theorem setTaskStatus_project (i : Nat) (nextStatus : TaskStatus) (actor : ActorContext)
    (reason : String) : (setTaskStatus rt r i nextStatus actor reason).project = r.project :=
  (congrArg ProjectRecord.project (setTaskStatus_state rt r i nextStatus actor reason) :)

@[simp] theorem setTaskStatus_artifacts (i : Nat) (nextStatus : TaskStatus) (actor : ActorContext)
    (reason : String) : (setTaskStatus rt r i nextStatus actor reason).artifacts = r.artifacts :=
  (congrArg ProjectRecord.artifacts (setTaskStatus_state rt r i nextStatus actor reason) :)

@[simp] theorem setTaskStatus_reviews (i : Nat) (nextStatus : TaskStatus) (actor : ActorContext)
    (reason : String) : (setTaskStatus rt r i nextStatus actor reason).reviews = r.reviews :=
  (congrArg ProjectRecord.reviews (setTaskStatus_state rt r i nextStatus actor reason) :)

@[simp] theorem setTaskNote_state (i : Nat) (note : String → String) :
    (setTaskNote r i note).state =
      { r.state with tasks := r.tasks.modify i fun task => { task with note := note task.note } } :=
  rfl

/-- What a reset does to one task. -/
def Task.reset (departments : List Department) (nextStatus : TaskStatus)
    (noteReason : Option String) (task : Task) : Task :=
  if task.department ∈ departments then
    { task with
      status := nextStatus
      note := match noteReason with
        | none => task.note
        | some noteReason => orElse noteReason task.note }
  else task

/-- What releasing the waiting tasks does to one task. -/
def Task.move (nextStatus : TaskStatus) (note : Option String) (task : Task) : Task :=
  if task.status = .waitingApproval then
    { task with status := nextStatus, note := note.getD task.note }
  else task

@[simp] theorem Task.reset_id (departments : List Department) (nextStatus : TaskStatus)
    (noteReason : Option String) (task : Task) :
    (task.reset departments nextStatus noteReason).id = task.id := by
  unfold Task.reset
  split <;> rfl

@[simp] theorem Task.move_id (nextStatus : TaskStatus) (note : Option String) (task : Task) :
    (task.move nextStatus note).id = task.id := by
  unfold Task.move
  split <;> rfl

/-- A loop over the tasks that edits, in each round, the task at its own position. -/
theorem taskLoop_state (body : ProjectRecord → Task × Nat → ProjectRecord) (edit : Task → Task)
    (hbody : ∀ (r : ProjectRecord) (seen rest : List Task) (task : Task),
      r.tasks = seen ++ task :: rest →
      (body r (task, seen.length)).state = { r.state with tasks := seen ++ edit task :: rest }) :
    (r.tasks.zipIdx.foldl body r).state = { r.state with tasks := r.tasks.map edit } := by
  have hloop := Loops.foldl_zipIdx body
    (fun seen rest s => s.state = { r.state with tasks := seen.map edit ++ rest }) r.tasks
    (fun seen task rest s _ hs => by
      have htasks : s.tasks = seen.map edit ++ task :: rest := congrArg ProjectRecord.tasks hs
      have hround := hbody s (seen.map edit) rest task htasks
      rw [List.length_map] at hround
      rw [hround, hs, List.map_append, List.map_singleton, List.append_assoc,
        List.singleton_append])
    r rfl
  rw [hloop, List.append_nil]

variable {r} in
theorem setTaskStatus_at_cut (nextStatus : TaskStatus) (actor : ActorContext) (reason : String)
    {seen rest : List Task} {task : Task} (htasks : r.tasks = seen ++ task :: rest) :
    (setTaskStatus rt r seen.length nextStatus actor reason).state =
      { r.state with tasks := seen ++ task.withStatus nextStatus :: rest } := by
  rw [setTaskStatus_state, htasks, Loops.modify_at_cut]

variable {r} in
theorem setTaskNote_at_cut (nextStatus : TaskStatus) (actor : ActorContext) (reason : String)
    (note : String → String) {seen rest : List Task} {task : Task}
    (htasks : r.tasks = seen ++ task :: rest) :
    (setTaskNote (setTaskStatus rt r seen.length nextStatus actor reason) seen.length note).state =
      { r.state with
        tasks := seen ++ { task with status := nextStatus, note := note task.note } :: rest } := by
  have hstatus := setTaskStatus_at_cut rt nextStatus actor reason htasks
  have htasks' : (setTaskStatus rt r seen.length nextStatus actor reason).tasks =
      seen ++ task.withStatus nextStatus :: rest := (congrArg ProjectRecord.tasks hstatus :)
  rw [setTaskNote_state, htasks', Loops.modify_at_cut, hstatus]
  rfl

theorem resetTasksForDepartments_state (departments : List Department) (nextStatus : TaskStatus)
    (actor : ActorContext) (reason : String) (noteReason : Option String) :
    (resetTasksForDepartments rt r departments nextStatus actor reason noteReason).state =
      { r.state with tasks := r.tasks.map (Task.reset departments nextStatus noteReason) } := by
  apply taskLoop_state
  intro r seen rest task htasks
  unfold Task.reset
  split
  · cases noteReason with
    | none => exact setTaskStatus_at_cut rt nextStatus actor reason htasks
    | some noteReason => exact setTaskNote_at_cut rt nextStatus actor reason _ htasks
  · rw [← htasks]
    rfl

theorem moveWaitingTasks_state (nextStatus : TaskStatus) (actor : ActorContext) (reason : String)
    (note : Option String) :
    (moveWaitingTasks rt r nextStatus actor reason note).state =
      { r.state with tasks := r.tasks.map (Task.move nextStatus note) } := by
  apply taskLoop_state
  intro r seen rest task htasks
  unfold Task.move
  split
  · cases note with
    | none => exact setTaskStatus_at_cut rt nextStatus actor reason htasks
    | some note => exact setTaskNote_at_cut rt nextStatus actor reason _ htasks
  · rw [← htasks]
    rfl

end

end CodexOrchestrator
