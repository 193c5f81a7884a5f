import CodexOrchestrator.Audit
import CodexOrchestrator.Lib.Schedule
import CodexOrchestrator.Orchestrator.Plan

/-!
# Trace — the moves of the tasks in the event log

The task events of a log are a trace of starts and finishes, and of tasks that are put back.  Most of
the code only puts tasks back; the rounds of the task loop start and finish them.
-/

open PyText Raise Schedule

namespace CodexOrchestrator

/-- `TaskStatus(text)`. -/
def TaskStatus.ofValue? (text : String) : Option TaskStatus :=
  [pending, inProgress, waitingApproval, revisionRequested, done, blocked].find? fun status =>
    status.value = text

/-- The status that the event moves the task to, if it is about the task. -/
def HistoryEvent.movedTo? (event : HistoryEvent) (taskId : String) : Option TaskStatus :=
  if event.isTaskChange taskId then (event.text? "to").bind TaskStatus.ofValue? else none

/-- The status of a task after its events. -/
def replayedStatus (events : List HistoryEvent) (taskId : String) : TaskStatus :=
  events.foldl (fun status event => (event.movedTo? taskId).getD status) .pending

def TaskStatus.move : TaskStatus → Move
  | .inProgress => .start
  | .done => .finish
  | _ => .putBack

/-- The move of a task event. -/
def HistoryEvent.move? (event : HistoryEvent) : Option (String × Move) :=
  if event.eventType = .taskStatusChanged then
    match event.text? "task_id", (event.text? "to").bind TaskStatus.ofValue? with
    | some taskId, some status => some (taskId, status.move)
    | _, _ => none
  else none

/-- The log as a trace. -/
def moves (events : List HistoryEvent) : List (String × Move) :=
  events.filterMap HistoryEvent.move?

/-! ## The trace and the replay -/

theorem TaskStatus.ofValue?_value (status : TaskStatus) : ofValue? status.value = some status := by
  cases status <;> decide

theorem TaskStatus.move_eq_start {status : TaskStatus} : status.move = .start ↔ status = .inProgress := by
  cases status <;> decide

theorem TaskStatus.move_eq_finish {status : TaskStatus} : status.move = .finish ↔ status = .done := by
  cases status <;> decide

section Events

variable {event : HistoryEvent} {events : List HistoryEvent} {taskId : String} {status : TaskStatus}

theorem moves_append (events later : List HistoryEvent) :
    moves (events ++ later) = moves events ++ moves later :=
  List.filterMap_append

theorem replayedStatus_concat (events : List HistoryEvent) (event : HistoryEvent) (taskId : String) :
    replayedStatus (events ++ [event]) taskId =
      (event.movedTo? taskId).getD (replayedStatus events taskId) := by
  rw [replayedStatus, List.foldl_append]
  rfl

theorem move?_of_ne (h : event.eventType ≠ .taskStatusChanged) : event.move? = none :=
  if_neg h

theorem move?_of_movedTo? (h : event.movedTo? taskId = some status) :
    event.move? = some (taskId, status.move) := by
  unfold HistoryEvent.movedTo? at h
  split at h
  · rename_i hchange
    obtain ⟨htype, hid⟩ := Bool.and_eq_true_iff.mp hchange
    unfold HistoryEvent.move?
    rw [if_pos (of_decide_eq_true htype), of_decide_eq_true hid, h]
  · cases h

theorem movedTo?_of_move? {move : Move} (h : event.move? = some (taskId, move)) :
    ∃ status, event.movedTo? taskId = some status ∧ status.move = move := by
  unfold HistoryEvent.move? at h
  split at h
  · rename_i htype
    split at h
    · rename_i id status hid hto
      obtain ⟨rfl, rfl⟩ := Prod.mk.inj (Option.some.inj h)
      refine ⟨status, ?_, rfl⟩
      have hchange : event.isTaskChange id = true := by
        rw [HistoryEvent.isTaskChange, decide_eq_true htype, decide_eq_true hid, Bool.and_self]
      unfold HistoryEvent.movedTo?
      rw [if_pos hchange, hto]
    · cases h
  · cases h

/-- The last move of a task in the trace is the move to its replayed status. -/
theorem lastMove_moves (events : List HistoryEvent) (taskId : String) :
    lastMove (moves events) taskId = (replayedStatus events taskId).move := by
  induction events using List.reverseRecOn with
  | nil => rfl
  | append_singleton events event ih =>
      rw [replayedStatus_concat, moves_append]
      cases hmoved : event.movedTo? taskId with
      | some status =>
          have hmove : moves [event] = [(taskId, status.move)] := by
            rw [moves, List.filterMap_cons_some (move?_of_movedTo? hmoved)]
            rfl
          rw [hmove, lastMove_concat, if_pos rfl]
          rfl
      | none =>
          rw [Option.getD_none]
          -- an event about another task moves that task, or none
          cases hmove : event.move? with
          | none =>
              have hnone : moves [event] = [] := List.filterMap_cons_none hmove
              rw [hnone, List.append_nil, ih]
          | some entry =>
              have hone : moves [event] = [entry] := List.filterMap_cons_some hmove
              have hother : entry.1 ≠ taskId := by
                rintro rfl
                obtain ⟨status, hstatus, -⟩ := movedTo?_of_move? hmove
                rw [hmoved] at hstatus
                cases hstatus
              rw [hone, lastMove_concat, if_neg hother, ih]

/-- The replay reads the metadata of the task's events only. -/
theorem replayedStatus_eq (events : List HistoryEvent) (taskId : String) :
    replayedStatus events taskId =
      (metadataOf (HistoryEvent.isTaskChange taskId) events).foldl (fun status metadata =>
        ((match metadata.lookup "to" with
          | some (.str text) => some text
          | _ => none).bind TaskStatus.ofValue?).getD status) .pending := by
  induction events using List.reverseRecOn with
  | nil => rfl
  | append_singleton events event ih =>
      rw [replayedStatus_concat, metadataOf_concat, HistoryEvent.movedTo?]
      split
      · rw [List.foldl_append, ← ih]
        rfl
      · rw [List.append_nil, ← ih]
        rfl

/-- A log that replays to a task replays to its status. -/
theorem TaskReplays.replayedStatus {task : Task} (h : TaskReplays events task) :
    replayedStatus events task.id = task.status := by
  obtain ⟨path, hwalk, hevents⟩ := h
  rw [replayedStatus_eq, hevents]
  clear hevents
  generalize task.status = status at hwalk
  induction hwalk with
  | nil => rfl
  | @concat path a b before next ih =>
      rw [List.map_append, List.foldl_append]
      show (TaskStatus.ofValue? b.value).getD _ = b
      rw [TaskStatus.ofValue?_value]
      rfl

end Events

/-! ## Code that only puts tasks back -/

/-- `r'` comes from `r` by edits that neither start nor finish a task. -/
structure Calm (r r' : ProjectRecord) : Prop where
  edits : Edits anybody r r'
  trace : ∃ later, moves r'.events = moves r.events ++ later ∧ ∀ entry ∈ later, entry.2 = .putBack

section Calm

variable {rt : Runtime} {r r' r'' : ProjectRecord}

theorem Calm.refl (r : ProjectRecord) : Calm r r :=
  ⟨.refl r, [], (List.append_nil _).symm, fun _ hmem => absurd hmem List.not_mem_nil⟩

theorem Calm.trans (h : Calm r r') (h' : Calm r' r'') : Calm r r'' := by
  obtain ⟨first, hfirst, hback⟩ := h.trace
  obtain ⟨second, hsecond, hback'⟩ := h'.trace
  refine ⟨h.edits.trans h'.edits, first ++ second, ?_, ?_⟩
  · rw [hsecond, hfirst, List.append_assoc]
  · intro entry hmem
    exact (List.mem_append.mp hmem).elim (hback entry) (hback' entry)

/-- Edits that log no task event. -/
theorem Calm.of_log (hedits : Edits anybody r r') {events : List HistoryEvent}
    (hevents : r'.events = r.events ++ events)
    (htype : ∀ event ∈ events, event.eventType ≠ .taskStatusChanged) : Calm r r' := by
  have hnone : moves events = [] :=
    List.filterMap_eq_nil_iff.mpr fun event hmem => move?_of_ne (htype event hmem)
  refine ⟨hedits, [], ?_, fun _ hmem => absurd hmem List.not_mem_nil⟩
  rw [hevents, moves_append, hnone]

theorem Calm.of_events (hedits : Edits anybody r r') (hevents : r'.events = r.events) : Calm r r' :=
  @Calm.of_log r r' hedits [] (by rw [hevents, List.append_nil]) (by simp)

theorem calm_foldl {α : Type} (body : ProjectRecord → α → ProjectRecord)
    (hbody : ∀ r x, Calm r (body r x)) (xs : List α) (r : ProjectRecord) :
    Calm r (xs.foldl body r) := by
  induction xs generalizing r with
  | nil => exact .refl r
  | cons x rest ih => exact (hbody r x).trans (ih _)

theorem ne_of_tracksChange {eventType : HistoryEventType} (h : eventType.tracksChange = false) :
    eventType ≠ .taskStatusChanged := by
  rintro rfl
  cases h

theorem calm_recordEvent {eventType : HistoryEventType} {actor : ActorContext} {reason : String}
    {metadata : JsonDict} (h : eventType.tracksChange = false) :
    Calm r (recordEvent rt r eventType actor reason metadata) := by
  refine .of_log (edits_recordEvent rt h) rfl fun event hmem => ?_
  rw [List.mem_singleton.mp hmem]
  exact ne_of_tracksChange h

theorem calm_transition {nextStatus : ProjectStatus} {actor : ActorContext} {reason : String}
    (h : transition rt r nextStatus actor reason = .ok r') : Calm r r' := by
  have hedits : Edits anybody r r' := edits_transition rt h
  unfold transition at h
  dsimp only at h
  split at h
  · rw [← Except.ok.inj h]
    exact .refl r
  split at h
  · rw [← Except.ok.inj h] at hedits ⊢
    refine .of_log hedits rfl fun event hmem => ?_
    rw [List.mem_singleton.mp hmem]
    exact fun he => by cases he
  · cases h

variable (rt) in
/-- The event of a status change is the move of the task. -/
theorem moves_setTaskStatus {i : Nat} {task : Task} {nextStatus : TaskStatus} (actor : ActorContext)
    (reason : String) (hi : r.tasks[i]? = some task) (hne : task.status ≠ nextStatus) :
    moves (setTaskStatus rt r i nextStatus actor reason).events =
      moves r.events ++ [(task.id, nextStatus.move)] := by
  unfold setTaskStatus
  rw [hi]
  dsimp only
  rw [if_neg hne, recordEvent]
  dsimp only
  rw [moves_append]
  congr 1
  refine List.filterMap_cons_some ?_
  show (match some task.id, TaskStatus.ofValue? nextStatus.value with
    | some taskId, some status => some (taskId, status.move)
    | _, _ => none) = _
  rw [TaskStatus.ofValue?_value]

theorem calm_setTaskStatus (i : Nat) {nextStatus : TaskStatus} (actor : ActorContext)
    (reason : String) (hback : nextStatus.move = .putBack) :
    Calm r (setTaskStatus rt r i nextStatus actor reason) := by
  have hedits : Edits anybody r (setTaskStatus rt r i nextStatus actor reason) :=
    edits_setTaskStatus rt i nextStatus actor reason
  cases hi : r.tasks[i]? with
  | none =>
      unfold setTaskStatus
      rw [hi]
      exact .refl r
  | some task =>
      -- a task that has the status already is left alone, without an entry
      by_cases hne : task.status = nextStatus
      · unfold setTaskStatus
        rw [hi]
        dsimp only
        rw [if_pos hne]
        exact .refl r
      · refine ⟨hedits, _, moves_setTaskStatus rt actor reason hi hne, fun entry hmem => ?_⟩
        rw [List.mem_singleton.mp hmem]
        exact hback

theorem calm_setTaskNote (i : Nat) (note : String → String) : Calm r (setTaskNote r i note) :=
  .of_events (edits_setTaskNote i note) rfl

variable (rt) (r) in
theorem calm_resetTasksForDepartments (departments : List Department) (actor : ActorContext)
    (reason : String) (noteReason : Option String) :
    Calm r (resetTasksForDepartments rt r departments .pending actor reason noteReason) := by
  apply calm_foldl
  intro r entry
  split
  · have hstatus : Calm r (setTaskStatus rt r entry.2 .pending actor reason) :=
      calm_setTaskStatus _ _ _ rfl
    cases noteReason with
    | none => exact hstatus
    | some noteReason => exact hstatus.trans (calm_setTaskNote _ _)
  · exact .refl r

variable (rt) (r) in
theorem calm_moveWaitingTasks {nextStatus : TaskStatus} (actor : ActorContext) (reason : String)
    (note : Option String) (hback : nextStatus.move = .putBack) :
    Calm r (moveWaitingTasks rt r nextStatus actor reason note) := by
  apply calm_foldl
  intro r entry
  split
  · have hstatus : Calm r (setTaskStatus rt r entry.2 nextStatus actor reason) :=
      calm_setTaskStatus _ _ _ hback
    cases note with
    | none => exact hstatus
    | some note => exact hstatus.trans (calm_setTaskNote _ _)
  · exact .refl r

/-! ### Authorization and decisions -/

theorem ne_of_isGrant {eventType : HistoryEventType} (h : eventType.isGrant = true) :
    eventType ≠ .taskStatusChanged := by
  rintro rfl
  cases h

theorem Granted.calm {actor : ActorContext} {allowList : Option (Dict (List String))}
    {actions : List ApprovalActionType} (h : Granted actor allowList actions r r') : Calm r r' := by
  have hedits : Edits anybody r r' := h.edits
  obtain ⟨events, he, hgrant, -⟩ := h.log
  rw [he] at hedits ⊢
  exact .of_log hedits rfl fun event hmem => ne_of_isGrant (hgrant event hmem)

theorem Denied.calm {actor : ActorContext} {allowList : Option (Dict (List String))}
    {actions : List ApprovalActionType} {abort : Abort} (h : Denied actor allowList actions r abort)
    (hsaved : abort.saved = some r') : Calm r r' := by
  have hedits : Edits anybody r r' := h.edits hsaved
  obtain ⟨events, failed, he, hgrant, hfailed⟩ := h.saved
  rw [hsaved] at he
  rw [Option.some.inj he] at hedits ⊢
  refine .of_log hedits rfl fun event hmem => ?_
  rcases List.mem_append.mp hmem with hmem | hmem
  · exact ne_of_isGrant (hgrant event hmem)
  · rw [List.mem_singleton.mp hmem, hfailed]
    decide

/-- A loop whose every round logs no task event. -/
theorem log_foldl {α : Type} (body : ProjectRecord → α → ProjectRecord)
    (hbody : ∀ r x, ∃ events, (body r x).events = r.events ++ events ∧
      ∀ event ∈ events, event.eventType ≠ .taskStatusChanged) (xs : List α) (r : ProjectRecord) :
    ∃ events, (xs.foldl body r).events = r.events ++ events ∧
      ∀ event ∈ events, event.eventType ≠ .taskStatusChanged := by
  induction xs generalizing r with
  | nil => exact ⟨[], (List.append_nil _).symm, by simp⟩
  | cons x rest ih =>
      obtain ⟨events, hevents, htype⟩ := hbody r x
      obtain ⟨later, hlater, htype'⟩ := ih (body r x)
      refine ⟨events ++ later, ?_, ?_⟩
      · rw [List.foldl_cons, hlater, hevents, List.append_assoc]
      · intro event hmem
        exact (List.mem_append.mp hmem).elim (htype event) (htype' event)

theorem calm_afterApproval {granted : ProjectRecord} (requested : Finset ApprovalActionType)
    (actor : ActorContext) (note : String) (hstate : granted.state = r.state) :
    Calm granted (afterApproval rt actor note r granted requested) := by
  have hdecided := afterApproval_decided rt requested actor note hstate
  obtain ⟨events, hevents, htype⟩ : ∃ events, (afterApproval rt actor note r granted
      requested).events = granted.events ++ events ∧
        ∀ event ∈ events, event.eventType ≠ .taskStatusChanged := by
    refine log_foldl _ (fun s entry => ?_) _ granted
    split
    · refine ⟨_, rfl, fun event hmem => ?_⟩
      rw [List.mem_singleton.mp hmem]
      exact fun he => by cases he
    · exact ⟨[], (List.append_nil _).symm, by simp⟩
  exact .of_log (hdecided.edits.mono fun _ _ _ => trivial) hevents htype

theorem calm_rejectPending {granted : ProjectRecord} (named : Finset ApprovalActionType)
    (actor : ActorContext) (reason note : String) (hstate : granted.state = r.state) :
    Calm granted (rejectPending rt granted (approvalActionState r).pendingApprovals named actor
      reason note) := by
  have hdecided := rejectPending_decided rt r (ProjectRecord.approvals_of_state hstate :) named
    actor reason note
  obtain ⟨events, hevents, htype⟩ : ∃ events, (rejectPending rt granted
      (approvalActionState r).pendingApprovals named actor reason note).events =
        granted.events ++ events ∧ ∀ event ∈ events, event.eventType ≠ .taskStatusChanged := by
    refine log_foldl _ (fun s entry => ⟨_, rfl, fun event hmem => ?_⟩) _ granted
    rw [List.mem_singleton.mp hmem]
    exact fun he => by cases he
  exact .of_log (hdecided.edits.mono fun _ _ _ => trivial) hevents htype

variable (rt) (r) in
theorem calm_requestTrendApproval : Calm r (requestTrendApproval rt r) := by
  have hedits : Edits anybody r (requestTrendApproval rt r) :=
    (edits_requestTrendApproval rt r).of_nobody
  unfold requestTrendApproval at hedits ⊢
  split
  · exact .refl r
  · rename_i hnone
    rw [if_neg hnone] at hedits
    refine .of_log hedits rfl fun event hmem => ?_
    rw [List.mem_singleton.mp hmem]
    exact fun he => by cases he

theorem calm_upsertCheckpoint (checkpoint : Checkpoint) : Calm r (upsertCheckpoint r checkpoint) :=
  .of_events (edits_upsertCheckpoint checkpoint) rfl

end Calm

end CodexOrchestrator
