import Mathlib.Logic.Relation
import CodexOrchestrator.Lib.Loops
import CodexOrchestrator.Orchestrator.Operations

/-!
# Edits — what a call can do to the record it loaded

Every version an operation saves comes from the loaded record by a sequence of edits of six kinds: a
note or an output that the audit does not follow, a log entry, a state transition, a task status, a
new approval request, and a decision on a pending one.  Facts about the audit log are proved for one
edit and carried along the sequence.  `may` says which actor may decide about which action type; a
part of the code that decides nothing is a sequence of edits under `nobody`.
-/

open PyText Raise Relation

namespace CodexOrchestrator

/-- The actor an event names. -/
def HistoryEvent.actorContext (event : HistoryEvent) : ActorContext :=
  ⟨event.actor, event.actorRole, event.actorType⟩

/-- A text entry of an event's metadata. -/
def HistoryEvent.text? (event : HistoryEvent) (key : String) : Option String :=
  match event.metadata.lookup key with
  | some (.str text) => some text
  | _ => none

/-- The event's `action_type` entry names the action type. -/
def HistoryEvent.concerns (event : HistoryEvent) (actionType : ApprovalActionType) : Prop :=
  event.text? "action_type" = some actionType.value

instance (event : HistoryEvent) (actionType : ApprovalActionType) :
    Decidable (event.concerns actionType) :=
  inferInstanceAs (Decidable (_ = _))

/-- The event types that stand for a change of the record. -/
def HistoryEventType.tracksChange : HistoryEventType → Bool
  | .stateTransition | .taskStatusChanged | .approvalRequested | .approvalApproved
  | .approvalRejected => true
  | _ => false

/-- A task without its note. -/
def Task.core (task : Task) : Task := { task with note := "" }

/-- The two records agree in everything the audit log follows. -/
structure SameAudit (r r' : ProjectRecord) : Prop where
  project : r'.project = r.project
  tasks : r'.tasks.map Task.core = r.tasks.map Task.core
  approvals : r'.approvals = r.approvals
  history : r'.history = r.history
  events : r'.events = r.events

/-- The event type that records a decision. -/
def decisionEventType : ApprovalStatus → HistoryEventType
  | .approved => .approvalApproved
  | _ => .approvalRejected

inductive Edit (may : ActorContext → ApprovalActionType → Prop) :
    ProjectRecord → ProjectRecord → Prop where
  | annotate {r r' : ProjectRecord} (same : SameAudit r r') : Edit may r r'
  | log {r : ProjectRecord} (event : HistoryEvent)
      (type : event.eventType.tracksChange = false) :
      Edit may r { r with events := r.events ++ [event] }
  | transition {r : ProjectRecord} (nextStatus : ProjectStatus) (event : HistoryEvent)
      (can : canTransition r.project.status nextStatus = true)
      (type : event.eventType = .stateTransition)
      (metadata : event.metadata = transitionMetadata r.project.status nextStatus) :
      Edit may r { r with
        history := r.history ++ [renderTransition r.project.status nextStatus]
        project := { r.project with status := nextStatus }
        events := r.events ++ [event] }
  | task {r : ProjectRecord} {i : Nat} {task : Task} (nextStatus : TaskStatus)
      (event : HistoryEvent) (found : r.tasks[i]? = some task)
      (type : event.eventType = .taskStatusChanged)
      (metadata : event.metadata = taskMetadata task.id task.status nextStatus) :
      Edit may r { r with
        tasks := r.tasks.set i { task with status := nextStatus }
        events := r.events ++ [event] }
  | request {r : ProjectRecord} (approval : ApprovalRequest) (event : HistoryEvent)
      (pending : approval.status = .pending) (type : event.eventType = .approvalRequested)
      (concerns : event.concerns approval.actionType) :
      Edit may r { r with
        approvals := r.approvals ++ [approval]
        events := r.events ++ [event] }
  | decide {r : ProjectRecord} {i : Nat} {approval : ApprovalRequest} (status : ApprovalStatus)
      (requestedBy decisionNote : String) (event : HistoryEvent)
      (found : r.approvals[i]? = some approval) (pending : approval.status = .pending)
      (decided : status ≠ .pending) (type : event.eventType = decisionEventType status)
      (concerns : event.concerns approval.actionType)
      (allowed : may event.actorContext approval.actionType) :
      Edit may r { r with
        approvals := r.approvals.set i { approval with status, requestedBy, decisionNote }
        events := r.events ++ [event] }

/-- A sequence of edits. -/
def Edits (may : ActorContext → ApprovalActionType → Prop) : ProjectRecord → ProjectRecord → Prop :=
  ReflTransGen (Edit may)

/-- The authority of code that decides nothing. -/
def nobody : ActorContext → ApprovalActionType → Prop := fun _ _ => False

variable {may : ActorContext → ApprovalActionType → Prop} {r r' r'' : ProjectRecord}

theorem Edits.refl (r : ProjectRecord) : Edits may r r := ReflTransGen.refl

theorem Edits.trans (h : Edits may r r') (h' : Edits may r' r'') : Edits may r r'' :=
  ReflTransGen.trans h h'

theorem Edits.of (h : Edit may r r') : Edits may r r' := ReflTransGen.single h

theorem Edits.tail (h : Edits may r r') (h' : Edit may r' r'') : Edits may r r'' :=
  ReflTransGen.tail h h'

/-- More authority allows more edits. -/
theorem Edit.mono {may' : ActorContext → ApprovalActionType → Prop}
    (hm : ∀ x a, may x a → may' x a) (h : Edit may r r') : Edit may' r r' := by
  cases h with
  | annotate same => exact .annotate same
  | log event type => exact .log event type
  | transition nextStatus event can type metadata =>
      exact .transition nextStatus event can type metadata
  | task nextStatus event found type metadata => exact .task nextStatus event found type metadata
  | request approval event pending type concerns =>
      exact .request approval event pending type concerns
  | decide status requestedBy decisionNote event found pending decided type concerns allowed =>
      exact .decide status requestedBy decisionNote event found pending decided type concerns
        (hm _ _ allowed)

theorem Edits.mono {may' : ActorContext → ApprovalActionType → Prop}
    (hm : ∀ x a, may x a → may' x a) (h : Edits may r r') : Edits may' r r' := by
  induction h with
  | refl => exact .refl r
  | tail _ he ih => exact ih.tail (he.mono hm)

theorem Edits.of_nobody (h : Edits nobody r r') : Edits may r r' :=
  h.mono fun _ _ hf => hf.elim

/-- What one edit keeps, a sequence of edits keeps. -/
theorem Edits.keeps {inv : ProjectRecord → Prop}
    (hedit : ∀ {r r'}, Edit may r r' → inv r → inv r') (h : Edits may r r') (hr : inv r) :
    inv r' := by
  induction h with
  | refl => exact hr
  | tail _ he ih => exact hedit he ih

/-- The status is all that an edit can change in the project. -/
theorem Edit.project (h : Edit may r r') :
    r'.project.id = r.project.id ∧ r'.project.policy = r.project.policy := by
  cases h with
  | annotate same => rw [same.project]; exact ⟨rfl, rfl⟩
  | log => exact ⟨rfl, rfl⟩
  | transition => exact ⟨rfl, rfl⟩
  | task => exact ⟨rfl, rfl⟩
  | request => exact ⟨rfl, rfl⟩
  | decide => exact ⟨rfl, rfl⟩

theorem Edits.projectId (h : Edits may r r') : r'.project.id = r.project.id := by
  induction h with
  | refl => rfl
  | tail _ he ih => rw [he.project.1, ih]

theorem Edits.policy (h : Edits may r r') : r'.project.policy = r.project.policy := by
  induction h with
  | refl => rfl
  | tail _ he ih => rw [he.project.2, ih]

/-! ## The record edits of the code are edits -/

section

variable (rt : Runtime)

theorem edits_recordEvent {eventType : HistoryEventType} {actor : ActorContext} {reason : String}
    {metadata : JsonDict} (h : eventType.tracksChange = false) :
    Edits may r (recordEvent rt r eventType actor reason metadata) :=
  .of (.log _ h)

theorem edits_upsertCheckpoint (checkpoint : Checkpoint) :
    Edits may r (upsertCheckpoint r checkpoint) :=
  .of (.annotate ⟨rfl, rfl, rfl, rfl, rfl⟩)

theorem edits_updateApprovalCheckpoint (approved : Bool) (approver note : String) :
    Edits may r (updateApprovalCheckpoint r approved approver note) :=
  .of (.annotate ⟨rfl, rfl, rfl, rfl, rfl⟩)

theorem edits_setTaskNote (i : Nat) (note : String → String) :
    Edits may r (setTaskNote r i note) := by
  refine .of (.annotate ⟨rfl, ?_, rfl, rfl, rfl⟩)
  apply List.ext_getElem?
  intro j
  simp only [setTaskNote, List.getElem?_map, List.getElem?_modify]
  cases r.tasks[j]? with
  | none => simp
  | some task => by_cases hj : i = j <;> simp [hj, Task.core]

theorem edits_transition {nextStatus : ProjectStatus} {actor : ActorContext} {reason : String}
    (h : transition rt r nextStatus actor reason = .ok r') : Edits may r r' := by
  unfold transition at h
  dsimp only at h
  split at h
  · rw [← Except.ok.inj h]
    exact .refl r
  split at h
  · rename_i hcan
    rw [← Except.ok.inj h]
    exact .of (.transition nextStatus _ hcan rfl rfl)
  · cases h

theorem edits_setTaskStatus (i : Nat) (nextStatus : TaskStatus) (actor : ActorContext)
    (reason : String) : Edits may r (setTaskStatus rt r i nextStatus actor reason) := by
  unfold setTaskStatus
  split
  · exact .refl r
  · rename_i task hi
    split
    · exact .refl r
    · exact .of (.task nextStatus _ hi rfl rfl)

/-- A loop whose every round is a sequence of edits. -/
theorem edits_foldl {α : Type} (body : ProjectRecord → α → ProjectRecord)
    (hbody : ∀ r x, Edits may r (body r x)) (xs : List α) (r : ProjectRecord) :
    Edits may r (xs.foldl body r) := by
  induction xs generalizing r with
  | nil => exact .refl r
  | cons x rest ih => exact (hbody r x).trans (ih _)

theorem edits_resetTasksForDepartments (departments : List Department) (nextStatus : TaskStatus)
    (actor : ActorContext) (reason : String) (noteReason : Option String) :
    Edits may r (resetTasksForDepartments rt r departments nextStatus actor reason noteReason) := by
  apply edits_foldl
  intro r entry
  split
  · have hstatus : Edits may r (setTaskStatus rt r entry.2 nextStatus actor reason) :=
      edits_setTaskStatus rt _ _ _ _
    cases noteReason with
    | none => exact hstatus
    | some noteReason => exact hstatus.trans (edits_setTaskNote _ _)
  · exact .refl r

theorem edits_moveWaitingTasks (nextStatus : TaskStatus) (actor : ActorContext) (reason : String)
    (note : Option String) :
    Edits may r (moveWaitingTasks rt r nextStatus actor reason note) := by
  apply edits_foldl
  intro r entry
  split
  · have hstatus : Edits may r (setTaskStatus rt r entry.2 nextStatus actor reason) :=
      edits_setTaskStatus rt _ _ _ _
    cases note with
    | none => exact hstatus
    | some note => exact hstatus.trans (edits_setTaskNote _ _)
  · exact .refl r

end

end CodexOrchestrator
