import CodexOrchestrator.Lib.Table
import CodexOrchestrator.State.Payloads
import CodexOrchestrator.State.TaskOrder

/-!
# Postgres — the store that keeps a project in seven tables

`PostgresProjectRepository`.  A JSONB column gives its document back with the object keys in the
order that the server likes; rows are read in the order of their ids under the collation of the
database.  A transaction either gives the database after it or raises.
-/

open Table

namespace CodexOrchestrator

/-- What the repository relies on in the server. -/
structure PostgresServer where
  /-- A document as a JSONB column gives it back; a Python dict has no key twice. -/
  jsonb : Json → Json
  jsonb_same : ∀ document, (jsonb document).Same document
  /-- `ORDER BY` of a TEXT column. -/
  collation : String → String → Bool
  collation_total : ∀ a b, collation a b = true ∨ collation b a = true
  collation_trans : ∀ a b c, collation a b = true → collation b c = true → collation a c = true
  /-- Words come in alphabetical order, as far as the plan needs it. -/
  collation_words : collation "task-trend" "task-build" = false

/-- A server that sorts object keys as JSONB does, with a database in the C collation. -/
def sampleServer : PostgresServer where
  jsonb := Json.canon
  jsonb_same := Json.canon_same
  collation a b := a ≤ b
  collation_total a b := by simpa using String.le_total a b
  collation_trans a b c h h' := by
    rw [decide_eq_true_eq] at h h' ⊢
    exact String.le_trans h h'
  collation_words := by decide

/-! ## Rows -/

structure ProjectRow where
  id : String
  status : String
  briefJson : Json
  policyJson : Json

structure TaskRow where
  id : String
  projectId : String
  title : String
  department : String
  status : String
  dependsOn : Json
  note : String

structure ArtifactRow where
  id : String
  projectId : String
  taskId : String
  artifactType : String
  content : Json

structure ReviewRow where
  id : String
  projectId : String
  taskId : String
  verdict : String
  findings : Json

structure CheckpointRow where
  id : String
  projectId : String
  name : String
  approved : Bool
  approver : String
  note : String

structure ApprovalRow where
  id : String
  projectId : String
  actionType : String
  status : String
  reason : String
  requestedBy : String
  decisionNote : String

structure HistoryRow where
  projectId : String
  events : Json

structure Database where
  projects : List ProjectRow := []
  tasks : List TaskRow := []
  artifacts : List ArtifactRow := []
  reviews : List ReviewRow := []
  checkpoints : List CheckpointRow := []
  approvals : List ApprovalRow := []
  projectHistory : List HistoryRow := []

/-! ### The primary keys -/

def TaskRow.key : Key TaskRow String String := ⟨TaskRow.id, TaskRow.projectId⟩
def ArtifactRow.key : Key ArtifactRow String String := ⟨ArtifactRow.id, ArtifactRow.projectId⟩
def ReviewRow.key : Key ReviewRow String String := ⟨ReviewRow.id, ReviewRow.projectId⟩
def CheckpointRow.key : Key CheckpointRow String String :=
  ⟨CheckpointRow.id, CheckpointRow.projectId⟩
def ApprovalRow.key : Key ApprovalRow String String := ⟨ApprovalRow.id, ApprovalRow.projectId⟩
def HistoryRow.key : Key HistoryRow String String := ⟨HistoryRow.projectId, HistoryRow.projectId⟩

/-! ### What is inserted -/

section Rows

variable (server : PostgresServer) (projectId : String)

def projectRow (project : Project) : ProjectRow where
  id := project.id
  status := project.status.value
  briefJson := server.jsonb project.brief.modelDump
  policyJson := server.jsonb project.policy.modelDump

def taskRow (task : Task) : TaskRow where
  id := task.id
  projectId := projectId
  title := task.title
  department := task.department.value
  status := task.status.value
  dependsOn := server.jsonb (.strings task.dependsOn)
  note := task.note

def artifactRow (artifact : Artifact) : ArtifactRow where
  id := artifact.id
  projectId := projectId
  taskId := artifact.taskId
  artifactType := artifact.artifactType
  content := server.jsonb (.obj artifact.content)

def reviewRow (review : Review) : ReviewRow where
  id := review.id
  projectId := projectId
  taskId := review.taskId
  verdict := review.verdict
  findings := server.jsonb (.strings review.findings)

def checkpointRow (checkpoint : Checkpoint) : CheckpointRow where
  id := checkpoint.id
  projectId := projectId
  name := checkpoint.name
  approved := checkpoint.approved
  approver := checkpoint.approver
  note := checkpoint.note

def approvalRow (approval : ApprovalRequest) : ApprovalRow where
  id := approval.id
  projectId := projectId
  actionType := approval.actionType.value
  status := approval.status.value
  reason := approval.reason
  requestedBy := approval.requestedBy
  decisionNote := approval.decisionNote

def historyRow (history : List String) (events : List HistoryEvent) : HistoryRow where
  projectId := projectId
  events := server.jsonb (historyPayload history events)

end Rows

/-! ### What is read -/

def ProjectRow.project? (row : ProjectRow) : Option Project := do
  let brief ← ProjectBrief.modelValidate row.briefJson
  let policy ← ProjectPolicy.modelValidate (row.policyJson.orDefault (.obj []))
  let status ← memberOf ProjectStatus.members ProjectStatus.value row.status
  return { id := row.id, brief, policy, status }

def TaskRow.task? (row : TaskRow) : Option Task := do
  let department ← memberOf Department.members Department.value row.department
  let status ← memberOf TaskStatus.members TaskStatus.value row.status
  let dependsOn ← (row.dependsOn.orDefault (.arr [])).texts?
  return { id := row.id, title := row.title, department, status, dependsOn, note := row.note }

def ArtifactRow.artifact? (row : ArtifactRow) : Option Artifact := do
  let content ← (row.content.orDefault (.obj [])).fields?
  return { id := row.id, taskId := row.taskId, artifactType := row.artifactType, content }

def ReviewRow.review? (row : ReviewRow) : Option Review := do
  let findings ← (row.findings.orDefault (.arr [])).texts?
  return { id := row.id, taskId := row.taskId, verdict := row.verdict, findings }

def CheckpointRow.checkpoint? (row : CheckpointRow) : Option Checkpoint :=
  some { id := row.id, name := row.name, approved := row.approved, approver := row.approver
         note := row.note }

def ApprovalRow.approval? (row : ApprovalRow) : Option ApprovalRequest := do
  let actionType ← ApprovalActionType.ofValue? row.actionType
  let status ← memberOf ApprovalStatus.members ApprovalStatus.value row.status
  return { id := row.id, actionType, status, reason := row.reason, requestedBy := row.requestedBy
           decisionNote := row.decisionNote }

/-! ## The repository -/

def uniqueViolation (table : String) : PyError :=
  .other "UniqueViolation"
    ("duplicate key value violates unique constraint \"" ++ table ++ "_pkey\"")

def validationError (model : String) : PyError :=
  .other "ValidationError" ("validation errors for " ++ model)

namespace PostgresServer

variable (server : PostgresServer)

/-- The rows of a project in one table, deleted and inserted again. -/
def replaceRows {ρ : Type} (key : Key ρ String String) (table projectId : String)
    (rows new : List ρ) : Except PyError (List ρ) :=
  match insertRows key (deleteOwner key projectId rows) new with
  | some rows => .ok rows
  | none => .error (uniqueViolation table)

/-- `save(record)`, as one transaction. -/
def save (database : Database) (record : ProjectRecord) : Except PyError Database := do
  let projectId := record.project.id
  let projects := upsertBy ProjectRow.id (projectRow server record.project) database.projects
  let tasks ← replaceRows TaskRow.key "tasks" projectId database.tasks
    (record.tasks.map (taskRow server projectId))
  let artifacts ← replaceRows ArtifactRow.key "artifacts" projectId database.artifacts
    (record.artifacts.map (artifactRow server projectId))
  let reviews ← replaceRows ReviewRow.key "reviews" projectId database.reviews
    (record.reviews.map (reviewRow server projectId))
  let checkpoints ← replaceRows CheckpointRow.key "checkpoints" projectId database.checkpoints
    (record.checkpoints.map (checkpointRow projectId))
  let approvals ← replaceRows ApprovalRow.key "approvals" projectId database.approvals
    (record.approvals.map (approvalRow projectId))
  let projectHistory ← replaceRows HistoryRow.key "project_history" projectId
    database.projectHistory [historyRow server projectId record.history record.events]
  return { projects, tasks, artifacts, reviews, checkpoints, approvals, projectHistory }

/-- The rows of a project in one table, each made into a value. -/
def readRows {ρ α : Type} (key : Key ρ String String) (model projectId : String)
    (read : ρ → Option α) (rows : List ρ) : Except PyError (List α) :=
  match (selectOwner key server.collation projectId rows).mapM read with
  | some values => .ok values
  | none => .error (validationError model)

def readOrRaise {α : Type} (model : String) : Option α → Except PyError α
  | some a => .ok a
  | none => .error (validationError model)

/-- `get(project_id)`. -/
def get (database : Database) (projectId : String) : Except PyError (Option ProjectRecord) :=
  match database.projects.find? fun row => row.id = projectId with
  | none => .ok none
  | some row => do
      let project ← readOrRaise "Project" row.project?
      let tasks ← server.readRows TaskRow.key "Task" projectId TaskRow.task? database.tasks
      let artifacts ← server.readRows ArtifactRow.key "Artifact" projectId ArtifactRow.artifact?
        database.artifacts
      let reviews ← server.readRows ReviewRow.key "Review" projectId ReviewRow.review?
        database.reviews
      let checkpoints ← server.readRows CheckpointRow.key "Checkpoint" projectId
        CheckpointRow.checkpoint? database.checkpoints
      let approvals ← server.readRows ApprovalRow.key "ApprovalRequest" projectId
        ApprovalRow.approval? database.approvals
      let history ← readOrRaise "HistoryEvent" (readHistory
        (((database.projectHistory.find? fun row => row.projectId = projectId).map
          HistoryRow.events).getD (.obj [])))
      return some {
        project
        tasks := orderTasksForExecution tasks
        artifacts, reviews, checkpoints, approvals
        history := history.1
        events := history.2 }

end PostgresServer

/-! ## What is read back -/

/-- No id stands twice in a list of the record. -/
structure ProjectRecord.DistinctIds (record : ProjectRecord) : Prop where
  tasks : (record.tasks.map Task.id).Nodup
  artifacts : (record.artifacts.map Artifact.id).Nodup
  reviews : (record.reviews.map Review.id).Nodup
  checkpoints : (record.checkpoints.map Checkpoint.id).Nodup
  approvals : (record.approvals.map ApprovalRequest.id).Nodup

instance (record : ProjectRecord) : Decidable record.DistinctIds :=
  decidable_of_iff ((record.tasks.map Task.id).Nodup ∧ (record.artifacts.map Artifact.id).Nodup ∧
      (record.reviews.map Review.id).Nodup ∧ (record.checkpoints.map Checkpoint.id).Nodup ∧
      (record.approvals.map ApprovalRequest.id).Nodup)
    ⟨fun ⟨tasks, artifacts, reviews, checkpoints, approvals⟩ =>
      ⟨tasks, artifacts, reviews, checkpoints, approvals⟩,
    fun h => ⟨h.tasks, h.artifacts, h.reviews, h.checkpoints, h.approvals⟩⟩

/-- The artifact with the keys of its content sorted. -/
def Artifact.canon (artifact : Artifact) : Artifact :=
  { artifact with content := canonDict artifact.content }

/-- What `get` makes of a saved record. -/
structure Restored (server : PostgresServer) (record restored : ProjectRecord) : Prop where
  projectId : restored.project.id = record.project.id
  brief : restored.project.brief = record.project.brief
  status : restored.project.status = record.project.status
  policy : record.project.policy.Same restored.project.policy
  tasks : restored.tasks = orderTasksForExecution (orderById Task.id server.collation record.tasks)
  artifacts : (restored.artifacts.map Artifact.canon).Perm (record.artifacts.map Artifact.canon)
  reviews : restored.reviews.Perm record.reviews
  checkpoints : restored.checkpoints.Perm record.checkpoints
  approvals : restored.approvals.Perm record.approvals
  history : restored.history = record.history
  events : restored.events.map HistoryEvent.canon = record.events.map HistoryEvent.canon

section Reading

variable (server : PostgresServer)

theorem fields?_orDefault_of_same {document : Json} {fields : JsonDict}
    (h : document.Same (.obj fields)) : ∃ fields',
      (document.orDefault (.obj [])).fields? = some fields' ∧ canonDict fields' = canonDict fields := by
  cases document with
  | obj fields' =>
      have hcanon : canonDict fields' = canonDict fields := Json.obj.inj h
      unfold Json.orDefault
      split
      · exact ⟨fields', rfl, hcanon⟩
      · rename_i hfalsy
        -- only the empty object is falsy
        cases fields' with
        | nil => exact ⟨[], rfl, hcanon⟩
        | cons entry rest => exact absurd rfl hfalsy
  | _ => cases h

theorem task?_taskRow (projectId : String) (task : Task) :
    (taskRow server projectId task).task? = some task := by
  have hdependsOn := texts?_orDefault_of_same (server.jsonb_same (.strings task.dependsOn))
  simp only [TaskRow.task?, taskRow, Department.memberOf_value, TaskStatus.memberOf_value, hdependsOn,
    Option.bind_eq_bind, Option.bind_some, Option.pure_def]

theorem artifact?_artifactRow (projectId : String) (artifact : Artifact) :
    ∃ artifact', (artifactRow server projectId artifact).artifact? = some artifact' ∧
      artifact'.canon = artifact.canon := by
  obtain ⟨content, hcontent, hcanon⟩ :=
    fields?_orDefault_of_same (server.jsonb_same (.obj artifact.content))
  refine ⟨{ artifact with content }, ?_, ?_⟩
  · simp only [ArtifactRow.artifact?, artifactRow, hcontent, Option.bind_eq_bind, Option.bind_some,
      Option.pure_def]
  · rw [Artifact.canon, Artifact.canon, hcanon]

theorem review?_reviewRow (projectId : String) (review : Review) :
    (reviewRow server projectId review).review? = some review := by
  have hfindings := texts?_orDefault_of_same (server.jsonb_same (.strings review.findings))
  simp only [ReviewRow.review?, reviewRow, hfindings, Option.bind_eq_bind, Option.bind_some,
    Option.pure_def]

theorem approval?_approvalRow (projectId : String) (approval : ApprovalRequest) :
    (approvalRow projectId approval).approval? = some approval := by
  simp only [ApprovalRow.approval?, approvalRow, ApprovalActionType.ofValue?_value,
    ApprovalStatus.memberOf_value, Option.bind_eq_bind, Option.bind_some, Option.pure_def]

theorem project?_projectRow (project : Project) : ∃ policy, project.policy.Same policy ∧
    (projectRow server project).project? = some { project with policy } := by
  have hbrief := ProjectBrief.modelValidate_of_same (server.jsonb_same project.brief.modelDump)
  -- a dumped policy is never empty, so `or {}` keeps it
  have htruthy : (server.jsonb project.policy.modelDump).truthy = true :=
    (server.jsonb_same project.policy.modelDump).of_reader Json.truthy_canon
  obtain ⟨policy, hpolicy, hsame⟩ :=
    ProjectPolicy.modelValidate_of_same (server.jsonb_same project.policy.modelDump)
  refine ⟨policy, hsame, ?_⟩
  simp only [ProjectRow.project?, projectRow, hbrief, Json.orDefault, htruthy, if_true, hpolicy,
    ProjectStatus.memberOf_value, Option.bind_eq_bind, Option.bind_some, Option.pure_def]

/-- A reader that gives each value back, up to `norm`, does so for a list of rows. -/
theorem mapM_rows {ρ α : Type} {row : α → ρ} {read : ρ → Option α} {norm : α → α}
    (hread : ∀ a, ∃ a', read (row a) = some a' ∧ norm a' = norm a) (values : List α) :
    ∃ values', (values.map row).mapM read = some values' ∧ values'.map norm = values.map norm := by
  induction values with
  | nil => exact ⟨[], rfl, rfl⟩
  | cons a rest ih =>
      obtain ⟨a', ha', hnorm⟩ := hread a
      obtain ⟨rest', hrest', hnorms⟩ := ih
      refine ⟨a' :: rest', ?_, ?_⟩
      · rw [List.map_cons, List.mapM_cons, ha', hrest']
        rfl
      · rw [List.map_cons, List.map_cons, hnorm, hnorms]

/-- The rows of a project that were replaced are read back in the order of their ids. -/
theorem readRows_replaced {ρ α : Type} {key : Key ρ String String} {model projectId : String}
    {row : α → ρ} {read : ρ → Option α} {id : α → String} {norm : α → α}
    (hid : ∀ a, key.id (row a) = id a) (howner : ∀ a, key.owner (row a) = projectId)
    (hread : ∀ a, ∃ a', read (row a) = some a' ∧ norm a' = norm a) (rows : List ρ)
    (values : List α) :
    ∃ values', server.readRows key model projectId read
        (deleteOwner key projectId rows ++ values.map row) = .ok values' ∧
      values'.map norm = (orderById id server.collation values).map norm := by
  have howners : ∀ r ∈ values.map row, key.owner r = projectId := by
    intro r hr
    obtain ⟨a, -, rfl⟩ := List.mem_map.mp hr
    exact howner a
  obtain ⟨values', hvalues', hnorm⟩ := mapM_rows hread (orderById id server.collation values)
  refine ⟨values', ?_, hnorm⟩
  rw [PostgresServer.readRows, selectOwner_replaced key server.collation rows howners,
    orderById_map id server.collation row key.id hid, hvalues']

/-- The database after a save. -/
def savedDatabase (database : Database) (record : ProjectRecord) : Database :=
  let projectId := record.project.id
  { projects := upsertBy ProjectRow.id (projectRow server record.project) database.projects
    tasks := deleteOwner TaskRow.key projectId database.tasks ++
      record.tasks.map (taskRow server projectId)
    artifacts := deleteOwner ArtifactRow.key projectId database.artifacts ++
      record.artifacts.map (artifactRow server projectId)
    reviews := deleteOwner ReviewRow.key projectId database.reviews ++
      record.reviews.map (reviewRow server projectId)
    checkpoints := deleteOwner CheckpointRow.key projectId database.checkpoints ++
      record.checkpoints.map (checkpointRow projectId)
    approvals := deleteOwner ApprovalRow.key projectId database.approvals ++
      record.approvals.map (approvalRow projectId)
    projectHistory := deleteOwner HistoryRow.key projectId database.projectHistory ++
      [historyRow server projectId record.history record.events] }

theorem replaceRows_of_distinct {ρ α : Type} {key : Key ρ String String}
    {table projectId : String} {row : α → ρ} {id : α → String} (hid : ∀ a, key.id (row a) = id a)
    (howner : ∀ a, key.owner (row a) = projectId) (rows : List ρ) {values : List α}
    (h : (values.map id).Nodup) :
    PostgresServer.replaceRows key table projectId rows (values.map row) =
      .ok (deleteOwner key projectId rows ++ values.map row) := by
  have howners : ∀ r ∈ values.map row, key.owner r = projectId := by
    intro r hr
    obtain ⟨a, -, rfl⟩ := List.mem_map.mp hr
    exact howner a
  have hids : ((values.map row).map key.id).Nodup := by
    rw [List.map_map]
    exact (List.map_congr_left fun a _ => hid a) ▸ h
  rw [PostgresServer.replaceRows, insertRows_deleteOwner rows howners hids]

/-- With distinct ids the transaction commits. -/
theorem save_of_distinct (database : Database) {record : ProjectRecord}
    (h : record.DistinctIds) :
    server.save database record = .ok (savedDatabase server database record) := by
  have hhistory : PostgresServer.replaceRows HistoryRow.key "project_history" record.project.id
      database.projectHistory [historyRow server record.project.id record.history record.events] =
      .ok (deleteOwner HistoryRow.key record.project.id database.projectHistory ++
        [historyRow server record.project.id record.history record.events]) := by
    have howner : ∀ r ∈ [historyRow server record.project.id record.history record.events],
        HistoryRow.key.owner r = record.project.id := by
      intro r hr
      rw [List.mem_singleton.mp hr]
      rfl
    rw [PostgresServer.replaceRows, insertRows_deleteOwner _ howner (List.nodup_singleton _)]
  have htasks := @replaceRows_of_distinct _ _ TaskRow.key "tasks" record.project.id
    (taskRow server record.project.id) Task.id (fun _ => rfl) (fun _ => rfl) database.tasks _ h.tasks
  have hartifacts := @replaceRows_of_distinct _ _ ArtifactRow.key "artifacts" record.project.id
    (artifactRow server record.project.id) Artifact.id (fun _ => rfl) (fun _ => rfl)
    database.artifacts _ h.artifacts
  have hreviews := @replaceRows_of_distinct _ _ ReviewRow.key "reviews" record.project.id
    (reviewRow server record.project.id) Review.id (fun _ => rfl) (fun _ => rfl)
    database.reviews _ h.reviews
  have hcheckpoints := @replaceRows_of_distinct _ _ CheckpointRow.key "checkpoints"
    record.project.id (checkpointRow record.project.id) Checkpoint.id (fun _ => rfl) (fun _ => rfl)
    database.checkpoints _ h.checkpoints
  have happrovals := @replaceRows_of_distinct _ _ ApprovalRow.key "approvals" record.project.id
    (approvalRow record.project.id) ApprovalRequest.id (fun _ => rfl) (fun _ => rfl)
    database.approvals _ h.approvals
  unfold PostgresServer.save
  dsimp only
  rw [htasks, Raise.ok_bind, hartifacts, Raise.ok_bind, hreviews, Raise.ok_bind, hcheckpoints,
    Raise.ok_bind, happrovals, Raise.ok_bind, hhistory, Raise.ok_bind]
  rfl

theorem find?_upsertBy {α : Type} {id : α → String} (x : α) (xs : List α) (key : String) :
    (upsertBy id x xs).find? (fun y => id y = key) =
      if key = id x then some x else xs.find? fun y => id y = key := by
  induction xs with
  | nil =>
      rw [upsertBy]
      split
      · rename_i hkey
        exact List.find?_cons_of_pos (decide_eq_true hkey.symm)
      · rename_i hkey
        exact List.find?_cons_of_neg (by simpa using Ne.symm hkey)
  | cons y rest ih =>
      rw [upsertBy]
      split
      · rename_i hsame
        rw [List.find?_cons, List.find?_cons, hsame]
        by_cases hkey : id x = key
        · rw [decide_eq_true hkey, if_pos hkey.symm]
        · rw [decide_eq_false hkey, if_neg (Ne.symm hkey)]
      · rename_i hother
        rw [List.find?_cons, List.find?_cons, ih]
        by_cases hy : id y = key
        · have hkey : ¬ key = id x := fun he => hother (hy.trans he)
          rw [decide_eq_true hy]
          exact (if_neg hkey).symm
        · rw [decide_eq_false hy]

theorem readOrRaise_some {α : Type} (model : String) (a : α) :
    PostgresServer.readOrRaise model (some a) = .ok a := rfl

/-- The saved project is read back. -/
theorem get_saved (database : Database) (record : ProjectRecord) :
    ∃ restored, server.get (savedDatabase server database record) record.project.id =
      .ok (some restored) ∧ Restored server record restored := by
  let projectId := record.project.id
  have hrow : (savedDatabase server database record).projects.find? (fun row =>
      row.id = projectId) = some (projectRow server record.project) := by
    refine (find?_upsertBy (projectRow server record.project) database.projects projectId).trans ?_
    exact if_pos rfl
  obtain ⟨policy, hpolicy, hproject⟩ := project?_projectRow server record.project
  -- each table is read on its own; what it gives is the list that was saved, by id
  obtain ⟨tasks, hreadTasks, htasks⟩ := @readRows_replaced server _ _ TaskRow.key "Task" projectId
    (taskRow server projectId) TaskRow.task? Task.id id (fun _ => rfl) (fun _ => rfl)
    (fun task => ⟨task, task?_taskRow server projectId task, rfl⟩) database.tasks record.tasks
  obtain ⟨artifacts, hreadArtifacts, hartifacts⟩ := @readRows_replaced server _ _ ArtifactRow.key
    "Artifact" projectId (artifactRow server projectId) ArtifactRow.artifact? Artifact.id
    Artifact.canon (fun _ => rfl) (fun _ => rfl) (artifact?_artifactRow server projectId)
    database.artifacts record.artifacts
  obtain ⟨reviews, hreadReviews, hreviews⟩ := @readRows_replaced server _ _ ReviewRow.key "Review"
    projectId (reviewRow server projectId) ReviewRow.review? Review.id id (fun _ => rfl)
    (fun _ => rfl) (fun review => ⟨review, review?_reviewRow server projectId review, rfl⟩)
    database.reviews record.reviews
  obtain ⟨checkpoints, hreadCheckpoints, hcheckpoints⟩ := @readRows_replaced server _ _
    CheckpointRow.key "Checkpoint" projectId (checkpointRow projectId) CheckpointRow.checkpoint?
    Checkpoint.id id (fun _ => rfl) (fun _ => rfl) (fun checkpoint => ⟨checkpoint, rfl, rfl⟩)
    database.checkpoints record.checkpoints
  obtain ⟨approvals, hreadApprovals, happrovals⟩ := @readRows_replaced server _ _ ApprovalRow.key
    "ApprovalRequest" projectId (approvalRow projectId) ApprovalRow.approval? ApprovalRequest.id id
    (fun _ => rfl) (fun _ => rfl)
    (fun approval => ⟨approval, approval?_approvalRow projectId approval, rfl⟩)
    database.approvals record.approvals
  have hhistoryRow : (savedDatabase server database record).projectHistory.find? (fun row =>
      row.projectId = projectId) = some (historyRow server projectId record.history record.events) := by
    refine List.find?_append.trans ?_
    -- the old history row was deleted, so the new one is the first of the project
    have hnone : (deleteOwner HistoryRow.key projectId database.projectHistory).find? (fun row =>
        row.projectId = projectId) = none := find?_deleteOwner_self HistoryRow.key projectId _
    rw [hnone, Option.none_or]
    exact List.find?_cons_of_pos (decide_eq_true rfl)
  obtain ⟨events, hreadHistory, hevents⟩ :=
    readHistory_of_same (server.jsonb_same (historyPayload record.history record.events))
  rw [List.map_id, List.map_id] at htasks hreviews hcheckpoints happrovals
  refine ⟨{ project := { record.project with policy }
            tasks := orderTasksForExecution tasks
            artifacts, reviews, checkpoints, approvals
            history := record.history
            events }, ?_, rfl, rfl, rfl, hpolicy, ?_, ?_, ?_, ?_, ?_, rfl, hevents⟩
  · unfold PostgresServer.get
    rw [hrow, hhistoryRow]
    dsimp only
    rw [hproject, readOrRaise_some, Raise.ok_bind]
    simp only [savedDatabase]
    rw [hreadTasks, Raise.ok_bind, hreadArtifacts, Raise.ok_bind, hreadReviews, Raise.ok_bind,
      hreadCheckpoints, Raise.ok_bind, hreadApprovals, Raise.ok_bind, Option.map_some,
      Option.getD_some, historyRow, hreadHistory, readOrRaise_some, Raise.ok_bind]
    rfl
  · rw [htasks]
  · rw [hartifacts]
    exact (orderById_perm _ _ _).map _
  · rw [hreviews]
    exact orderById_perm _ _ _
  · rw [hcheckpoints]
    exact orderById_perm _ _ _
  · rw [happrovals]
    exact orderById_perm _ _ _

/-- A save changes nothing for the other projects. -/
theorem get_saved_of_ne (database : Database) (record : ProjectRecord) {projectId : String}
    (h : projectId ≠ record.project.id) :
    server.get (savedDatabase server database record) projectId = server.get database projectId := by
  have hrow : (savedDatabase server database record).projects.find? (fun row =>
      row.id = projectId) = database.projects.find? fun row => row.id = projectId := by
    refine (find?_upsertBy (projectRow server record.project) database.projects projectId).trans ?_
    exact if_neg h
  -- the deleted and the inserted rows belong to the saved project
  have hother : ∀ {ρ : Type} {key : Key ρ String String} {rows new : List ρ},
      (∀ row ∈ new, key.owner row = record.project.id) →
      selectOwner key server.collation projectId
        (deleteOwner key record.project.id rows ++ new) =
      selectOwner key server.collation projectId rows :=
    fun howner => selectOwner_of_ne _ _ h _ howner
  have hmap : ∀ {ρ α : Type} {key : Key ρ String String} {row : α → ρ} (values : List α),
      (∀ a, key.owner (row a) = record.project.id) →
      ∀ r ∈ values.map row, key.owner r = record.project.id := by
    intro ρ α key row values howner r hr
    obtain ⟨a, -, rfl⟩ := List.mem_map.mp hr
    exact howner a
  have hhistory : (savedDatabase server database record).projectHistory.find? (fun row =>
      row.projectId = projectId) =
        database.projectHistory.find? fun row => row.projectId = projectId := by
    refine List.find?_append.trans ?_
    have hold := find?_deleteOwner_of_ne HistoryRow.key h database.projectHistory
    have hnew : [historyRow server record.project.id record.history record.events].find? (fun row =>
        row.projectId = projectId) = none :=
      List.find?_cons_of_neg fun hsame => h (of_decide_eq_true hsame).symm
    rw [hnew, Option.or_none]
    exact hold
  unfold PostgresServer.get PostgresServer.readRows
  rw [hrow, hhistory]
  simp only [savedDatabase]
  rw [hother (hmap _ fun _ => rfl), hother (hmap _ fun _ => rfl), hother (hmap _ fun _ => rfl),
    hother (hmap _ fun _ => rfl), hother (hmap _ fun _ => rfl)]

end Reading

end CodexOrchestrator
