import CodexOrchestrator.State.Postgres
import CodexOrchestrator.State.TaskTopology

/-!
# RoundTrip — a saved project is read back from Postgres

`PostgresProjectRepository.save` followed by `get`, for every content of the database.  The tables
hold the rows of the record and none of an earlier version; the tasks come back in the order of
their dependencies; another project is read as before.
-/

open Table

namespace CodexOrchestrator

variable {server : PostgresServer} {database : Database} {record restored : ProjectRecord}

/-! ## The rows of the project -/

/-- The rows of the project are those of the record, in every table. -/
structure HoldsOnly (server : PostgresServer) (record : ProjectRecord) (database : Database) :
    Prop where
  projects : database.projects.filter (fun row => row.id = record.project.id) =
    [projectRow server record.project]
  tasks : database.tasks.filter (fun row => row.projectId = record.project.id) =
    record.tasks.map (taskRow server record.project.id)
  artifacts : database.artifacts.filter (fun row => row.projectId = record.project.id) =
    record.artifacts.map (artifactRow server record.project.id)
  reviews : database.reviews.filter (fun row => row.projectId = record.project.id) =
    record.reviews.map (reviewRow server record.project.id)
  checkpoints : database.checkpoints.filter (fun row => row.projectId = record.project.id) =
    record.checkpoints.map (checkpointRow record.project.id)
  approvals : database.approvals.filter (fun row => row.projectId = record.project.id) =
    record.approvals.map (approvalRow record.project.id)
  projectHistory : database.projectHistory.filter (fun row => row.projectId = record.project.id) =
    [historyRow server record.project.id record.history record.events]

/-- Under a primary key an upsert leaves one row of the id. -/
theorem filter_upsertBy {α : Type} {id : α → String} (x : α) {xs : List α}
    (h : (xs.map id).Nodup) : (upsertBy id x xs).filter (fun y => id y = id x) = [x] := by
  induction xs with
  | nil => exact List.filter_cons_of_pos (decide_eq_true rfl)
  | cons y rest ih =>
      rw [List.map_cons, List.nodup_cons] at h
      rw [upsertBy]
      split
      · rename_i hsame
        have hnone : rest.filter (fun y => id y = id x) = [] := by
          rw [List.filter_eq_nil_iff]
          intro z hz hid
          exact h.1 (hsame.trans (of_decide_eq_true hid).symm ▸ List.mem_map_of_mem hz)
        rw [List.filter_cons_of_pos (by simp), hnone]
      · rename_i hother
        rw [List.filter_cons_of_neg (by simpa using hother), ih h.2]

theorem holdsOnly_savedDatabase (hprimary : (database.projects.map ProjectRow.id).Nodup) :
    HoldsOnly server record (savedDatabase server database record) := by
  have hrows : ∀ {ρ α : Type} (key : Key ρ String String) (row : α → ρ) (rows : List ρ)
      (values : List α), (∀ a, key.owner (row a) = record.project.id) →
      (deleteOwner key record.project.id rows ++ values.map row).filter
        (fun r => key.owner r = record.project.id) = values.map row := by
    intro ρ α key row rows values howner
    refine filter_replaced key rows fun r hr => ?_
    obtain ⟨a, -, rfl⟩ := List.mem_map.mp hr
    exact howner a
  constructor
  case projects => exact filter_upsertBy (projectRow server record.project) hprimary
  case tasks => exact hrows TaskRow.key _ _ _ fun _ => rfl
  case artifacts => exact hrows ArtifactRow.key _ _ _ fun _ => rfl
  case reviews => exact hrows ReviewRow.key _ _ _ fun _ => rfl
  case checkpoints => exact hrows CheckpointRow.key _ _ _ fun _ => rfl
  case approvals => exact hrows ApprovalRow.key _ _ _ fun _ => rfl
  case projectHistory =>
    exact hrows HistoryRow.key (fun _ : Unit => historyRow server record.project.id record.history
      record.events) _ [()] fun _ => rfl

/-! ## The tasks -/

theorem Restored.perm_tasks (h : Restored server record restored)
    (hdistinct : (record.tasks.map Task.id).Nodup) : restored.tasks.Perm record.tasks := by
  have hperm := orderById_perm Task.id server.collation record.tasks
  rw [h.tasks]
  exact (orderTasksForExecution_perm (((hperm.map Task.id).nodup_iff).mpr hdistinct)).trans hperm

/-- The order of the rows does not decide whether the dependencies have a cycle. -/
theorem AcyclicTasks.of_perm {tasks rows : List Task} (h : AcyclicTasks tasks)
    (hperm : rows.Perm tasks) : AcyclicTasks rows := by
  intro task hwaits
  refine h task (Relation.TransGen.mono (fun a b hab => ?_) _ _ hwaits)
  exact ⟨hperm.mem_iff.mp hab.1, hperm.mem_iff.mp hab.2.1, hab.2.2⟩

theorem Restored.dependenciesFirst (h : Restored server record restored)
    (hdistinct : (record.tasks.map Task.id).Nodup) (hacyclic : AcyclicTasks record.tasks) :
    DependenciesFirst restored.tasks := by
  have hperm := orderById_perm Task.id server.collation record.tasks
  rw [h.tasks]
  exact orderTasksForExecution_dependenciesFirst (((hperm.map Task.id).nodup_iff).mpr hdistinct)
    (hacyclic.of_perm hperm)

/-! ## The round trip -/

/-- What is read back is what was saved. -/
structure ReadsBack (record restored : ProjectRecord) : Prop where
  projectId : restored.project.id = record.project.id
  brief : restored.project.brief = record.project.brief
  policy : record.project.policy.Same restored.project.policy
  status : restored.project.status = record.project.status
  history : restored.history = record.history
  events : restored.events.map HistoryEvent.canon = record.events.map HistoryEvent.canon
  artifacts : (restored.artifacts.map Artifact.canon).Perm (record.artifacts.map Artifact.canon)
  reviews : restored.reviews.Perm record.reviews
  checkpoints : restored.checkpoints.Perm record.checkpoints
  approvals : restored.approvals.Perm record.approvals
  tasks : restored.tasks.Perm record.tasks
  dependencies : AcyclicTasks record.tasks → DependenciesFirst restored.tasks

/-- A saved record is read back, nothing of an earlier version stays in the tables (`id` is the
    primary key of `projects`), and the other projects are read as before. -/
theorem get_save_postgres (server : PostgresServer) (database : Database) {record : ProjectRecord}
    (hdistinct : record.DistinctIds) :
    ∃ saved, server.save database record = .ok saved ∧
      (∃ restored, server.get saved record.project.id = .ok (some restored) ∧
        ReadsBack record restored) ∧
      ((database.projects.map ProjectRow.id).Nodup → HoldsOnly server record saved) ∧
      ∀ projectId, projectId ≠ record.project.id →
        server.get saved projectId = server.get database projectId := by
  obtain ⟨restored, hget, hrestored⟩ := get_saved server database record
  refine ⟨savedDatabase server database record, save_of_distinct server database hdistinct,
    ⟨restored, hget, ?_⟩, holdsOnly_savedDatabase, fun projectId hother => ?_⟩
  · exact
      { hrestored with
        tasks := hrestored.perm_tasks hdistinct.tasks
        dependencies := hrestored.dependenciesFirst hdistinct.tasks }
  · exact get_saved_of_ne server database record hother

/-- A project with two tasks, one of which waits for the other. -/
def sampleRecord : ProjectRecord where
  project := { id := "project-1", brief := { objective := "Ship", rawRequest := "Ship" } }
  tasks := shipBeforeBuild
  history := ["created"]

theorem acyclicTasks_shipBeforeBuild : AcyclicTasks shipBeforeBuild := by
  have hgreedy : (Topological.greedy (taskDependencies shipBeforeBuild)
      (shipBeforeBuild.map Task.id)).Perm (shipBeforeBuild.map Task.id) := by decide +kernel
  exact (acyclicTasks_iff (by decide)).mpr
    ((Topological.greedy_perm_iff (by decide) (closed_taskDependencies _)).mp hgreedy)

theorem get_save_postgres_sample : ∃ saved, sampleServer.save {} sampleRecord = .ok saved ∧
    ∃ restored, sampleServer.get saved "project-1" = .ok (some restored) ∧
      restored.tasks.Perm shipBeforeBuild ∧ DependenciesFirst restored.tasks := by
  obtain ⟨saved, hsave, ⟨restored, hget, hreads⟩, -, -⟩ :=
    get_save_postgres sampleServer {} (by decide : sampleRecord.DistinctIds)
  exact ⟨saved, hsave, restored, hget, hreads.tasks, hreads.dependencies acyclicTasks_shipBeforeBuild⟩

end CodexOrchestrator
