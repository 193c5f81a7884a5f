import Mathlib.Data.List.Permutation
import Mathlib.Data.List.Sort
import CodexOrchestrator.Lib.Table
import CodexOrchestrator.Orchestrator.Plan

/-!
# TaskOrder — the order in which loaded tasks are executed

`PostgresProjectRepository._order_tasks_for_execution`.  The rows come back in the order of their
ids; the dependencies give the order of execution, and the position of the rows decides between
tasks that are ready together.  The ordering reads the id and the dependencies of a task only.
-/

namespace CodexOrchestrator

/-- The id of a task and its `depends_on`. -/
abbrev TaskNode := String × List String

def Task.node (task : Task) : TaskNode := (task.id, task.dependsOn)

section Ordering

variable (nodes : List TaskNode)

/-- The ids in `depends_on` that belong to the list, each once. -/
def localDependencies (node : TaskNode) : List String :=
  (node.2.filter fun dependencyId => dependencyId ∈ nodes.map Prod.fst).dedup

def dependentsById (dependencyId : String) : List String :=
  (nodes.filter fun node => dependencyId ∈ localDependencies nodes node).map Prod.fst

/-- A dict comprehension: a later task of the same id overwrites an earlier one. -/
def inboundCountById : String → Int :=
  nodes.foldl (fun inbound node =>
    Function.update inbound node.1 (localDependencies nodes node).length) fun _ => 0

def positionById : String → Nat :=
  nodes.zipIdx.foldl (fun position entry => Function.update position entry.1.1 entry.2) fun _ => 0

def sortByPosition (taskIds : List String) : List String :=
  taskIds.insertionSort fun a b => positionById nodes a ≤ positionById nodes b

/-- The variables of the loop. -/
structure OrderState where
  readyTaskIds : List String
  inboundCount : String → Int
  orderedTaskIds : List String := []

/-- One dependent of the task that was taken: its last open dependency makes it ready. -/
def releaseDependent (state : OrderState) (dependentTaskId : String) : OrderState :=
  let count := state.inboundCount dependentTaskId - 1
  { state with
    inboundCount := Function.update state.inboundCount dependentTaskId count
    readyTaskIds :=
      if count = 0 then state.readyTaskIds ++ [dependentTaskId] else state.readyTaskIds }

/-- The loop over the ready tasks; every round takes one, so the number of tasks bounds them. -/
def orderLoop : Nat → OrderState → List String
  | 0, state => state.orderedTaskIds
  | rounds + 1, state =>
      match state.readyTaskIds with
      | [] => state.orderedTaskIds
      | currentTaskId :: rest =>
          let released := (dependentsById nodes currentTaskId).foldl releaseDependent
            { state with
              readyTaskIds := rest
              orderedTaskIds := state.orderedTaskIds ++ [currentTaskId] }
          orderLoop rounds
            { released with readyTaskIds := sortByPosition nodes released.readyTaskIds }

def orderedTaskIds : List String :=
  orderLoop nodes nodes.length
    { readyTaskIds := sortByPosition nodes
        ((nodes.filter fun node => inboundCountById nodes node.1 = 0).map Prod.fst)
      inboundCount := inboundCountById nodes }

end Ordering

def orderTasksForExecution (tasks : List Task) : List Task :=
  if tasks.length < 2 then tasks
  else
    let ordered := orderedTaskIds (tasks.map Task.node)
    -- a cycle leaves tasks out, and the rows keep their order
    if ordered.length ≠ tasks.length then tasks
    else ordered.filterMap fun taskId => tasks.reverse.find? fun task => task.id = taskId

/-! ## The tasks of the plan -/

/-- The plan is recovered from every order of its tasks in which the build comes before the trend
    analysis, which depend on the same tasks. -/
theorem orderedTaskIds_plan : ∀ nodes ∈ (buildPlan.map Task.node).permutations',
    (nodes.map Prod.fst).idxOf "task-build" < (nodes.map Prod.fst).idxOf "task-trend" →
      orderedTaskIds nodes = buildPlan.map Task.id := by
  decide +kernel

theorem nodes_of_stages {tasks : List Task} {statuses : List TaskStatus}
    (h : tasks.map Task.stage = planStages statuses) (hlength : statuses.length = 5) :
    tasks.map Task.node = buildPlan.map Task.node := by
  have hnode : Task.node = (fun stage : Stage => stage.1.node) ∘ Task.stage := rfl
  rw [hnode, ← List.map_map, h, planStages]
  have hplan : (buildPlan.zip statuses).map Prod.fst = buildPlan :=
    List.map_fst_zip (by rw [hlength]; rfl)
  rw [← Function.comp_def, ← List.map_map, hplan]
  rfl

/-- Loading gives the tasks of a plan back in their order, whatever order the rows come in, as long
    as the build comes before the trend analysis. -/
theorem orderTasksForExecution_plan {tasks rows : List Task} {statuses : List TaskStatus}
    (h : tasks.map Task.stage = planStages statuses) (hlength : statuses.length = 5)
    (hperm : rows.Perm tasks)
    (hbefore : (rows.map Task.id).idxOf "task-build" < (rows.map Task.id).idxOf "task-trend") :
    orderTasksForExecution rows = tasks := by
  have hnodes := nodes_of_stages h hlength
  have hfst : ∀ tasks : List Task, (tasks.map Task.node).map Prod.fst = tasks.map Task.id := by
    intro tasks
    rw [List.map_map]
    rfl
  have hids : tasks.map Task.id = buildPlan.map Task.id := by
    rw [← hfst, hnodes, hfst]
  have hcount : rows.length = 5 := by
    rw [hperm.length_eq, ← List.length_map Task.id, hids]
    rfl
  -- five ids and their dependencies are fixed, so the order is checked for each order of the rows
  have hordered : orderedTaskIds (rows.map Task.node) = tasks.map Task.id := by
    rw [hids]
    refine orderedTaskIds_plan _ (List.mem_permutations'.mpr ?_) ?_
    · rw [← hnodes]
      exact hperm.map _
    · rw [hfst]
      exact hbefore
  -- a dict keeps the last task of an id; here each id has one
  have hnodup : (rows.reverse.map Task.id).Nodup := by
    rw [((rows.reverse_perm.trans hperm).map Task.id).nodup_iff, hids]
    decide
  have hfind : ∀ task ∈ tasks, rows.reverse.find? (fun other => other.id = task.id) = some task :=
    fun task hmem => Table.find?_of_nodup hnodup (List.mem_reverse.mpr (hperm.mem_iff.mpr hmem))
  unfold orderTasksForExecution
  rw [if_neg (by rw [hcount]; decide)]
  dsimp only
  rw [hordered, if_neg (by rw [List.length_map, hperm.length_eq, not_not]), List.filterMap_map]
  exact (List.filterMap_congr hfind).trans List.filterMap_some

end CodexOrchestrator
