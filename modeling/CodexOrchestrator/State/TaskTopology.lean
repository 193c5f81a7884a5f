import CodexOrchestrator.Lib.Topological
import CodexOrchestrator.State.TaskOrder

/-!
# TaskTopology — what the ordering of loaded tasks does with arbitrary dependencies

The loop of `_order_tasks_for_execution` counts the open dependencies of each task down and keeps the
tasks that are ready sorted by position, so each round takes what the greedy order takes.  Hence the
tasks come out in the least order that respects their dependencies, or as they went in when the
dependencies have a cycle.
-/

open Topological

namespace CodexOrchestrator

/-! ## Positions and counters -/

section Positions

variable {nodes : List TaskNode}

/-- A dict filled in a loop holds, for a key that comes once, the value of its own round. -/
theorem foldl_update_of_nodup {α β : Type} (key : α → String) (value : α → β) (table : String → β)
    {items : List α} (hnodup : (items.map key).Nodup) {item : α} (hmem : item ∈ items) :
    items.foldl (fun table item => Function.update table (key item) (value item)) table (key item) =
      value item := by
  induction items using List.reverseRecOn with
  | nil => cases hmem
  | append_singleton items last ih =>
      rw [List.foldl_concat]
      rw [List.map_append, List.map_singleton] at hnodup
      obtain ⟨hnodup, -, hdisjoint⟩ := List.nodup_append.mp hnodup
      rcases List.mem_append.mp hmem with hold | hlast
      · have hne : key item ≠ key last :=
          hdisjoint _ (List.mem_map_of_mem hold) _ (List.mem_singleton.mpr rfl)
        rw [Function.update_of_ne hne]
        exact ih hnodup hold
      · rw [List.mem_singleton.mp hlast, Function.update_self]

theorem positionById_eq (hnodup : (nodes.map Prod.fst).Nodup) {taskId : String}
    (hmem : taskId ∈ nodes.map Prod.fst) :
    positionById nodes taskId = (nodes.map Prod.fst).idxOf taskId := by
  refine Loops.foldl_zipIdx _ (fun seen _ (position : String → Nat) =>
    ∀ taskId ∈ seen.map Prod.fst,
      position taskId = (nodes.map Prod.fst).idxOf taskId) nodes ?_ _ (fun _ h => nomatch h) taskId hmem
  intro seen node rest position hnodes h taskId hseen
  rw [hnodes, List.map_append, List.map_cons] at hnodup ⊢
  have hnode : node.1 ∉ seen.map Prod.fst := by
    intro hold
    exact (List.nodup_append.mp hnodup).2.2 _ hold _ List.mem_cons_self rfl
  rw [List.map_append, List.map_singleton] at hseen
  rcases List.mem_append.mp hseen with hold | hnew
  · have hne : taskId ≠ node.1 := fun he => hnode (he ▸ hold)
    rw [Function.update_of_ne hne, h taskId hold, hnodes, List.map_append, List.map_cons]
  · rw [List.mem_singleton.mp hnew, Function.update_self, List.idxOf_append_of_notMem hnode,
      List.idxOf_cons_self, List.length_map, Nat.add_zero]

/-- Sorting tasks of the list by position puts them in the order of the list. -/
theorem sortByPosition_eq (hnodup : (nodes.map Prod.fst).Nodup) {taskIds : List String}
    (hdistinct : taskIds.Nodup) (hsubset : taskIds ⊆ nodes.map Prod.fst) :
    sortByPosition nodes taskIds = (nodes.map Prod.fst).filter fun taskId => taskId ∈ taskIds := by
  have hperm : (sortByPosition nodes taskIds).Perm
      ((nodes.map Prod.fst).filter fun taskId => taskId ∈ taskIds) := by
    refine (List.perm_insertionSort _ taskIds).trans ?_
    refine (List.perm_ext_iff_of_nodup hdistinct (hnodup.filter _)).mpr fun taskId => ?_
    rw [List.mem_filter, decide_eq_true_eq]
    exact ⟨fun h => ⟨hsubset h, h⟩, fun h => h.2⟩
  have htotal : Std.Total fun a b : String => positionById nodes a ≤ positionById nodes b :=
    ⟨fun a b => Nat.le_total _ _⟩
  have htrans : IsTrans String fun a b => positionById nodes a ≤ positionById nodes b :=
    ⟨fun a b c => Nat.le_trans⟩
  -- both lists are in the order of the positions, and a position belongs to one task
  refine hperm.eq_of_pairwise (fun a b ha hb hab hba => ?_) (List.pairwise_insertionSort _ taskIds) ?_
  · have ha' := (List.mem_filter.mp (hperm.mem_iff.mp ha)).1
    have hb' := (List.mem_filter.mp hb).1
    have heq := Nat.le_antisymm hab hba
    rw [positionById_eq hnodup ha', positionById_eq hnodup hb'] at heq
    exact (List.idxOf_inj ha').mp heq
  · refine List.Pairwise.filter _ (List.pairwise_iff_getElem.mpr fun i j hi hj hij => ?_)
    rw [positionById_eq hnodup (List.getElem_mem hi), positionById_eq hnodup (List.getElem_mem hj),
      hnodup.idxOf_getElem, hnodup.idxOf_getElem]
    exact hij.le

/-- What a listed task depends on, by its id. -/
def listedDependencies (nodes : List TaskNode) (taskId : String) : List String :=
  match nodes.find? fun node => node.1 = taskId with
  | some node => localDependencies nodes node
  | none => []

theorem listedDependencies_eq (hnodup : (nodes.map Prod.fst).Nodup) {node : TaskNode}
    (hmem : node ∈ nodes) : listedDependencies nodes node.1 = localDependencies nodes node := by
  rw [listedDependencies, Table.find?_of_nodup hnodup hmem]

theorem mem_localDependencies {node : TaskNode} {dependencyId : String} :
    dependencyId ∈ localDependencies nodes node ↔
      dependencyId ∈ node.2 ∧ dependencyId ∈ nodes.map Prod.fst := by
  rw [localDependencies, List.mem_dedup, List.mem_filter, decide_eq_true_eq]

theorem closed_listedDependencies (nodes : List TaskNode) :
    Closed (listedDependencies nodes) (nodes.map Prod.fst) := by
  intro taskId _ dependencyId hd
  unfold listedDependencies at hd
  split at hd
  · exact (mem_localDependencies.mp hd).2
  · cases hd

end Positions

/-! ## The loop -/

section OrderLoop

variable {nodes : List TaskNode}

/-- The dependencies of a task that the loop has not come to. -/
def openDependencies (nodes : List TaskNode) (ordered : List String) (node : TaskNode) :
    List String :=
  (localDependencies nodes node).filter fun dependencyId => dependencyId ∉ ordered

/-- Between two rounds the counters count the open dependencies, and the ready list has the tasks that
    can be taken, in the order of the rows. -/
structure OrderState.Tracks (nodes : List TaskNode) (state : OrderState) : Prop where
  inbound : ∀ node ∈ nodes, state.inboundCount node.1 =
    ((openDependencies nodes state.orderedTaskIds node).length : Int)
  ready : state.readyTaskIds = (nodes.map Prod.fst).filter fun taskId =>
    IsReady (listedDependencies nodes) state.orderedTaskIds taskId
  ordered : Legal (listedDependencies nodes) [] state.orderedTaskIds

/-- The state before the first round. -/
def startState (nodes : List TaskNode) : OrderState where
  readyTaskIds := sortByPosition nodes
    ((nodes.filter fun node => inboundCountById nodes node.1 = 0).map Prod.fst)
  inboundCount := inboundCountById nodes

theorem openDependencies_eq_nil_iff {ordered : List String} {node : TaskNode} :
    openDependencies nodes ordered node = [] ↔
      ∀ dependencyId ∈ localDependencies nodes node, dependencyId ∈ ordered := by
  rw [openDependencies, List.filter_eq_nil_iff]
  simp only [decide_eq_true_eq, not_not]

/-- Taking a task closes one dependency of those that depend on it, and none of the others. -/
theorem length_openDependencies_concat {ordered : List String} {node : TaskNode} {taskId : String}
    (hnew : taskId ∉ ordered) :
    ((openDependencies nodes (ordered ++ [taskId]) node).length : Int) =
      (openDependencies nodes ordered node).length -
        if taskId ∈ localDependencies nodes node then 1 else 0 := by
  have hnodup : (openDependencies nodes ordered node).Nodup := (List.nodup_dedup _).filter _
  have herase : openDependencies nodes (ordered ++ [taskId]) node =
      (openDependencies nodes ordered node).erase taskId := by
    rw [hnodup.erase_eq_filter, openDependencies, openDependencies, List.filter_filter]
    refine List.filter_congr fun dependencyId _ => ?_
    rw [bne, beq_eq_decide, Bool.eq_iff_iff]
    simp [and_comm]
  have hmem : taskId ∈ openDependencies nodes ordered node ↔
      taskId ∈ localDependencies nodes node := by
    simp [openDependencies, hnew]
  rw [herase]
  split
  · rename_i hdepends
    have hopen := hmem.mpr hdepends
    have hpos := List.length_pos_of_mem hopen
    rw [List.length_erase_of_mem hopen]
    omega
  · rename_i hfree
    rw [List.erase_of_not_mem (mt hmem.mp hfree), sub_zero]

/-- The dependents of the task that was taken are counted down, and those that reach zero are
    ready. -/
theorem foldl_releaseDependent {dependents : List String} (hnodup : dependents.Nodup)
    (state : OrderState) :
    let released := dependents.foldl releaseDependent state
    (∀ taskId, released.inboundCount taskId =
      state.inboundCount taskId - if taskId ∈ dependents then 1 else 0) ∧
    released.readyTaskIds = state.readyTaskIds ++
      dependents.filter (fun taskId => state.inboundCount taskId - 1 = 0) ∧
    released.orderedTaskIds = state.orderedTaskIds := by
  induction dependents generalizing state with
  | nil => simp
  | cons first rest ih =>
      rw [List.nodup_cons] at hnodup
      obtain ⟨hcount, hready, hordered⟩ := ih hnodup.2 (releaseDependent state first)
      dsimp only
      rw [List.foldl_cons]
      refine ⟨fun taskId => ?_, ?_, hordered⟩
      · rw [hcount, releaseDependent]
        by_cases hfirst : taskId = first
        · subst hfirst
          simp [hnodup.1]
        · simp [hfirst]
      · rw [hready, releaseDependent]
        dsimp only
        -- the counter of the first dependent is read by its own round only
        have hrest : rest.filter (fun taskId => Function.update state.inboundCount first
            (state.inboundCount first - 1) taskId - 1 = 0) =
            rest.filter fun taskId => state.inboundCount taskId - 1 = 0 := by
          refine List.filter_congr fun taskId hmem => ?_
          have hne : taskId ≠ first := fun he => hnodup.1 (he ▸ hmem)
          rw [Function.update_of_ne hne]
        rw [hrest]
        rw [List.filter_cons]
        by_cases hzero : state.inboundCount first - 1 = 0
        · rw [if_pos hzero, if_pos (decide_eq_true hzero), List.append_assoc, List.singleton_append]
        · rw [if_neg hzero, if_neg (by simpa using hzero)]

theorem mem_dependentsById (hnodup : (nodes.map Prod.fst).Nodup) {node : TaskNode}
    (hmem : node ∈ nodes) {taskId : String} :
    node.1 ∈ dependentsById nodes taskId ↔ taskId ∈ localDependencies nodes node := by
  rw [dependentsById, List.mem_map]
  constructor
  · rintro ⟨other, hother, hid⟩
    obtain ⟨hother, hdepends⟩ := List.mem_filter.mp hother
    have hsame : other = node := List.inj_on_of_nodup_map hnodup hother hmem hid
    rw [← hsame]
    exact of_decide_eq_true hdepends
  · intro hdepends
    exact ⟨node, List.mem_filter.mpr ⟨hmem, decide_eq_true hdepends⟩, rfl⟩

theorem dependentsById_subset (taskId : String) :
    (dependentsById nodes taskId).Sublist (nodes.map Prod.fst) :=
  (List.filter_sublist (l := nodes)).map Prod.fst

theorem tracks_startState (hnodup : (nodes.map Prod.fst).Nodup) :
    (startState nodes).Tracks nodes := by
  have hcount : ∀ node ∈ nodes, inboundCountById nodes node.1 =
      ((localDependencies nodes node).length : Int) := fun node hmem =>
    foldl_update_of_nodup Prod.fst
      (fun node => ((localDependencies nodes node).length : Int)) _ hnodup hmem
  refine ⟨fun node hmem => ?_, ?_, trivial⟩
  · have hopen : openDependencies nodes [] node = localDependencies nodes node :=
      List.filter_eq_self.mpr fun _ _ => by simp
    exact (hcount node hmem).trans (congrArg (fun listed => (List.length listed : Int)) hopen.symm)
  · have hsublist : ((nodes.filter fun node => inboundCountById nodes node.1 = 0).map
        Prod.fst).Sublist (nodes.map Prod.fst) := List.filter_sublist.map _
    refine (sortByPosition_eq hnodup (hsublist.nodup hnodup) hsublist.subset).trans ?_
    refine List.filter_congr fun taskId htask => ?_
    obtain ⟨node, hmem, rfl⟩ := List.mem_map.mp htask
    rw [decide_eq_decide, List.mem_map, IsReady, listedDependencies_eq hnodup hmem]
    constructor
    · rintro ⟨other, hother, hid⟩
      obtain ⟨hother, hzero⟩ := List.mem_filter.mp hother
      have hsame : other = node := List.inj_on_of_nodup_map hnodup hother hmem hid
      have hlength := of_decide_eq_true hzero
      rw [hsame, hcount node hmem, Int.natCast_eq_zero] at hlength
      rw [List.length_eq_zero_iff.mp hlength]
      exact ⟨List.not_mem_nil, fun _ h => nomatch h⟩
    · rintro ⟨-, hdeps⟩
      have hnil : localDependencies nodes node = [] :=
        List.eq_nil_iff_forall_not_mem.mpr fun d hd => nomatch hdeps d hd
      refine ⟨node, List.mem_filter.mpr ⟨hmem, decide_eq_true ?_⟩, rfl⟩
      rw [hcount node hmem, hnil]
      rfl

/-- The state after the round that takes a task. -/
def OrderState.take (nodes : List TaskNode) (state : OrderState) (taskId : String)
    (rest : List String) : OrderState :=
  let released := (dependentsById nodes taskId).foldl releaseDependent
    { state with
      readyTaskIds := rest
      orderedTaskIds := state.orderedTaskIds ++ [taskId] }
  { released with readyTaskIds := sortByPosition nodes released.readyTaskIds }

@[simp] theorem OrderState.take_orderedTaskIds (hnodup : (nodes.map Prod.fst).Nodup)
    (state : OrderState) (taskId : String) (rest : List String) :
    (state.take nodes taskId rest).orderedTaskIds = state.orderedTaskIds ++ [taskId] :=
  (foldl_releaseDependent ((dependentsById_subset taskId).nodup hnodup) _).2.2

/-- A ready task is the first of its list: the rest are the other ready ones. -/
theorem OrderState.Tracks.mem_rest (hnodup : (nodes.map Prod.fst).Nodup) {state : OrderState}
    (h : state.Tracks nodes) {taskId other : String} {rest : List String}
    (hready : state.readyTaskIds = taskId :: rest) :
    other ∈ rest ↔ other ∈ nodes.map Prod.fst ∧
      IsReady (listedDependencies nodes) state.orderedTaskIds other ∧ other ≠ taskId := by
  have hfilter := hready.symm.trans h.ready
  have hdistinct : (taskId :: rest).Nodup := hfilter ▸ hnodup.filter _
  have hmem : other ∈ taskId :: rest ↔ other ∈ nodes.map Prod.fst ∧
      IsReady (listedDependencies nodes) state.orderedTaskIds other := by
    rw [hfilter, List.mem_filter, decide_eq_true_eq]
  rw [← and_assoc, ← hmem, List.mem_cons]
  constructor
  · intro hrest
    exact ⟨.inr hrest, fun he => (List.nodup_cons.mp hdistinct).1 (he ▸ hrest)⟩
  · rintro ⟨hsame | hrest, hne⟩
    · exact absurd hsame hne
    · exact hrest

theorem OrderState.Tracks.isReady_head {state : OrderState} (h : state.Tracks nodes)
    {taskId : String} {rest : List String} (hready : state.readyTaskIds = taskId :: rest) :
    IsReady (listedDependencies nodes) state.orderedTaskIds taskId := by
  have hmem : taskId ∈ state.readyTaskIds := hready ▸ List.mem_cons_self
  rw [h.ready, List.mem_filter, decide_eq_true_eq] at hmem
  exact hmem.2

/-- The counters after a round. -/
theorem OrderState.Tracks.count_take (hnodup : (nodes.map Prod.fst).Nodup) {state : OrderState}
    (h : state.Tracks nodes) {taskId : String} (hnew : taskId ∉ state.orderedTaskIds)
    {node : TaskNode} (hmem : node ∈ nodes) :
    (state.inboundCount node.1 - if node.1 ∈ dependentsById nodes taskId then 1 else 0) =
      ((openDependencies nodes (state.orderedTaskIds ++ [taskId]) node).length : Int) := by
  rw [length_openDependencies_concat hnew, h.inbound node hmem]
  simp only [mem_dependentsById hnodup hmem]

/-- The ready list after a round, before it is sorted. -/
theorem OrderState.Tracks.mem_released (hnodup : (nodes.map Prod.fst).Nodup) {state : OrderState}
    (h : state.Tracks nodes) {taskId : String} {rest : List String}
    (hready : state.readyTaskIds = taskId :: rest) {node : TaskNode} (hmem : node ∈ nodes) :
    node.1 ∈ rest ++ (dependentsById nodes taskId).filter
        (fun other => state.inboundCount other - 1 = 0) ↔
      IsReady (listedDependencies nodes) (state.orderedTaskIds ++ [taskId]) node.1 := by
  have hhead := h.isReady_head hready
  have hlisted : node.1 ∈ nodes.map Prod.fst := List.mem_map_of_mem hmem
  have hcount := h.count_take hnodup hhead.1 hmem
  rw [isReady_concat h.ordered hhead, List.mem_append, h.mem_rest hnodup hready, List.mem_filter,
    decide_eq_true_eq, mem_dependentsById hnodup hmem, listedDependencies_eq hnodup hmem]
  refine or_congr (and_iff_right hlisted) (and_congr_right fun hwaits => ?_)
  -- the counter is zero when no dependency is open any more
  rw [if_pos ((mem_dependentsById hnodup hmem).mpr hwaits)] at hcount
  rw [hcount, Int.natCast_eq_zero, List.length_eq_zero_iff]
  exact openDependencies_eq_nil_iff

theorem OrderState.Tracks.nodup_released (hnodup : (nodes.map Prod.fst).Nodup) {state : OrderState}
    (h : state.Tracks nodes) {taskId : String} {rest : List String}
    (hready : state.readyTaskIds = taskId :: rest) :
    (rest ++ (dependentsById nodes taskId).filter
      (fun other => state.inboundCount other - 1 = 0)).Nodup := by
  have hdistinct : (taskId :: rest).Nodup := (hready.symm.trans h.ready) ▸ hnodup.filter _
  refine List.nodup_append.mpr ⟨(List.nodup_cons.mp hdistinct).2,
    ((dependentsById_subset taskId).nodup hnodup).filter _, ?_⟩
  rintro other hrest _ hother rfl
  -- a task that was ready does not wait for the one that was taken
  obtain ⟨hlisted, hwas, -⟩ := (h.mem_rest hnodup hready).mp hrest
  obtain ⟨node, hmem, rfl⟩ := List.mem_map.mp hlisted
  have hwaits := (mem_dependentsById hnodup hmem).mp (List.mem_filter.mp hother).1
  rw [← listedDependencies_eq hnodup hmem] at hwaits
  exact (h.isReady_head hready).1 (hwas.2 taskId hwaits)

/-- One round of the loop keeps the counters and the ready list right. -/
theorem OrderState.Tracks.take (hnodup : (nodes.map Prod.fst).Nodup) {state : OrderState}
    (h : state.Tracks nodes) {taskId : String} {rest : List String}
    (hready : state.readyTaskIds = taskId :: rest) : (state.take nodes taskId rest).Tracks nodes := by
  have hhead := h.isReady_head hready
  have hsublist : (dependentsById nodes taskId).Sublist _ := dependentsById_subset taskId
  obtain ⟨hcount, hreleased, -⟩ := foldl_releaseDependent (hsublist.nodup hnodup)
    { state with
      readyTaskIds := rest
      orderedTaskIds := state.orderedTaskIds ++ [taskId] }
  constructor
  · intro node hmem
    rw [OrderState.take_orderedTaskIds hnodup, ← h.count_take hnodup hhead.1 hmem]
    exact hcount node.1
  · have hsubset : rest ++ (dependentsById nodes taskId).filter
        (fun other => state.inboundCount other - 1 = 0) ⊆ nodes.map Prod.fst := by
      refine List.append_subset.mpr ⟨fun other hrest => ?_, fun other hother => ?_⟩
      · exact ((h.mem_rest hnodup hready).mp hrest).1
      · exact hsublist.subset (List.mem_filter.mp hother).1
    have hsorted := sortByPosition_eq hnodup (h.nodup_released hnodup hready) hsubset
    rw [OrderState.take_orderedTaskIds hnodup]
    refine (congrArg (sortByPosition nodes) hreleased).trans (hsorted.trans ?_)
    refine List.filter_congr fun other hother => ?_
    obtain ⟨node, hmem, rfl⟩ := List.mem_map.mp hother
    rw [decide_eq_decide]
    exact h.mem_released hnodup hready hmem
  · rw [OrderState.take_orderedTaskIds hnodup]
    exact h.ordered.concat hhead.2

/-- The loop takes what the greedy order takes. -/
theorem orderLoop_eq (hnodup : (nodes.map Prod.fst).Nodup) (rounds : Nat) {state : OrderState}
    (h : state.Tracks nodes) :
    orderLoop nodes rounds state = state.orderedTaskIds ++
      greedyFrom (listedDependencies nodes) (nodes.map Prod.fst) rounds state.orderedTaskIds := by
  induction rounds generalizing state with
  | zero => rw [orderLoop, greedyFrom, List.append_nil]
  | succ rounds ih =>
      have hnext : next? (listedDependencies nodes) (nodes.map Prod.fst) state.orderedTaskIds =
          state.readyTaskIds.head? := by
        rw [h.ready, List.head?_filter, next?]
      rw [orderLoop, greedyFrom, hnext]
      cases hready : state.readyTaskIds with
      | nil => rw [List.head?_nil, List.append_nil]
      | cons taskId rest =>
          have hrest := ih (h.take hnodup hready)
          rw [OrderState.take_orderedTaskIds hnodup, List.append_assoc, List.singleton_append]
            at hrest
          exact hrest

end OrderLoop

/-! ## The order of the tasks -/

section TaskLists

variable {tasks : List Task}

/-- `task` waits for another task of the list. -/
def WaitsFor (tasks : List Task) (task other : Task) : Prop :=
  task ∈ tasks ∧ other ∈ tasks ∧ other.id ∈ task.dependsOn

/-- No task waits for itself, directly or through other tasks of the list. -/
def AcyclicTasks (tasks : List Task) : Prop :=
  ∀ task, ¬ Relation.TransGen (WaitsFor tasks) task task

/-- Every task comes after the tasks that it waits for. -/
def DependenciesFirst (tasks : List Task) : Prop :=
  ∀ task other, WaitsFor tasks task other → tasks.idxOf other < tasks.idxOf task

/-- The dependencies among the tasks of a list, by their ids. -/
def taskDependencies (tasks : List Task) : String → List String :=
  listedDependencies (tasks.map Task.node)

theorem fst_node (tasks : List Task) : (tasks.map Task.node).map Prod.fst = tasks.map Task.id := by
  rw [List.map_map]
  rfl

theorem waitsFor_iff (hdistinct : (tasks.map Task.id).Nodup) {task other : Task}
    (hmem : task ∈ tasks) (hother : other ∈ tasks) :
    WaitsFor tasks task other ↔ other.id ∈ taskDependencies tasks task.id := by
  have hnode : task.node ∈ tasks.map Task.node := List.mem_map_of_mem hmem
  have hlisted : taskDependencies tasks task.id =
      localDependencies (tasks.map Task.node) task.node :=
    listedDependencies_eq (by rwa [fst_node]) hnode
  rw [hlisted, mem_localDependencies, fst_node]
  exact ⟨fun h => ⟨h.2.2, List.mem_map_of_mem hother⟩, fun h => ⟨hmem, hother, h.1⟩⟩

theorem closed_taskDependencies (tasks : List Task) :
    Closed (taskDependencies tasks) (tasks.map Task.id) := by
  rw [← fst_node]
  exact closed_listedDependencies _

theorem idxOf_id (hdistinct : (tasks.map Task.id).Nodup) {task : Task} (hmem : task ∈ tasks) :
    (tasks.map Task.id).idxOf task.id = tasks.idxOf task := by
  induction tasks with
  | nil => cases hmem
  | cons other rest ih =>
      rw [List.map_cons, List.nodup_cons] at hdistinct
      by_cases hsame : other = task
      · subst hsame
        rw [List.map_cons, List.idxOf_cons_self, List.idxOf_cons_self]
      · have hrest : task ∈ rest := (List.mem_cons.mp hmem).resolve_left (Ne.symm hsame)
        have hid : other.id ≠ task.id := fun he => hdistinct.1 (he ▸ List.mem_map_of_mem hrest)
        rw [List.map_cons, List.idxOf_cons_ne _ hid, List.idxOf_cons_ne _ hsame,
          ih hdistinct.2 hrest]

theorem acyclicTasks_iff (hdistinct : (tasks.map Task.id).Nodup) :
    AcyclicTasks tasks ↔ Acyclic (taskDependencies tasks) (tasks.map Task.id) := by
  constructor
  · -- a chain of ids is a chain of the tasks that have them
    have hlift : ∀ {a d}, Relation.TransGen (fun a d => d ∈ taskDependencies tasks a) a d →
        ∀ task ∈ tasks, task.id = a → ∃ other ∈ tasks, other.id = d ∧
          Relation.TransGen (WaitsFor tasks) task other := by
      intro a d hchain task hmem hid
      induction hchain with
      | single hd =>
          subst hid
          obtain ⟨other, hother, rfl⟩ := List.mem_map.mp
            (closed_taskDependencies tasks _ (List.mem_map_of_mem hmem) _ hd)
          exact ⟨other, hother, rfl, .single ((waitsFor_iff hdistinct hmem hother).mpr hd)⟩
      | tail _ hd ih =>
          obtain ⟨middle, hmiddle, rfl, hwaits⟩ := ih
          obtain ⟨other, hother, rfl⟩ := List.mem_map.mp
            (closed_taskDependencies tasks _ (List.mem_map_of_mem hmiddle) _ hd)
          exact ⟨other, hother, rfl,
            hwaits.tail ((waitsFor_iff hdistinct hmiddle hother).mpr hd)⟩
    intro h taskId htask hchain
    obtain ⟨task, hmem, rfl⟩ := List.mem_map.mp htask
    obtain ⟨other, hother, hid, hwaits⟩ := hlift hchain task hmem rfl
    rw [List.inj_on_of_nodup_map hdistinct hother hmem hid] at hwaits
    exact h task hwaits
  · intro h task hwaits
    have hmem : task ∈ tasks := by
      obtain ⟨_, hfirst, -⟩ := Relation.TransGen.head'_iff.mp hwaits
      exact hfirst.1
    refine h task.id (List.mem_map_of_mem hmem) (hwaits.lift Task.id ?_)
    intro a b hab
    exact (waitsFor_iff hdistinct hab.1 hab.2.1).mp hab

/-- Being in the order of the dependencies, for a list of the same tasks. -/
theorem dependenciesFirst_iff (hdistinct : (tasks.map Task.id).Nodup) {ordered : List Task}
    (hperm : ordered.Perm tasks) :
    DependenciesFirst ordered ↔ Respects (taskDependencies tasks) (ordered.map Task.id) := by
  have hordered : (ordered.map Task.id).Nodup := ((hperm.map Task.id).nodup_iff).mpr hdistinct
  constructor
  · intro h taskId htask dependencyId hd
    obtain ⟨task, hmem, rfl⟩ := List.mem_map.mp htask
    have hlisted : task ∈ tasks := hperm.mem_iff.mp hmem
    obtain ⟨other, hother, rfl⟩ := List.mem_map.mp
      (closed_taskDependencies tasks _ (List.mem_map_of_mem hlisted) _ hd)
    have hwaits := (waitsFor_iff hdistinct hlisted hother).mpr hd
    have hother' : other ∈ ordered := hperm.mem_iff.mpr hother
    rw [idxOf_id hordered hmem, idxOf_id hordered hother']
    exact h task other ⟨hmem, hother', hwaits.2.2⟩
  · intro h task other hwaits
    have hd := (waitsFor_iff hdistinct (hperm.mem_iff.mp hwaits.1)
      (hperm.mem_iff.mp hwaits.2.1)).mp
        ⟨hperm.mem_iff.mp hwaits.1, hperm.mem_iff.mp hwaits.2.1, hwaits.2.2⟩
    have hlt := h task.id (List.mem_map_of_mem hwaits.1) other.id hd
    rwa [idxOf_id hordered hwaits.1, idxOf_id hordered hwaits.2.1] at hlt

theorem orderedTaskIds_eq (hdistinct : (tasks.map Task.id).Nodup) :
    orderedTaskIds (tasks.map Task.node) = greedy (taskDependencies tasks) (tasks.map Task.id) := by
  have hnodup : ((tasks.map Task.node).map Prod.fst).Nodup := by rwa [fst_node]
  have hloop := orderLoop_eq hnodup (tasks.map Task.node).length (tracks_startState hnodup)
  rw [fst_node, List.length_map] at hloop
  rw [greedy, List.length_map]
  refine Eq.trans ?_ hloop
  rw [orderedTaskIds, List.length_map]
  rfl

/-- The tasks with the given ids, in the order of the ids. -/
theorem tasksById_eq (hdistinct : (tasks.map Task.id).Nodup) {taskIds : List String}
    (hsubset : taskIds ⊆ tasks.map Task.id) :
    (taskIds.filterMap fun taskId => tasks.reverse.find? fun task => task.id = taskId).map Task.id =
      taskIds := by
  induction taskIds with
  | nil => rfl
  | cons taskId rest ih =>
      rw [List.cons_subset] at hsubset
      obtain ⟨task, hmem, rfl⟩ := List.mem_map.mp hsubset.1
      have hreverse : (tasks.reverse.map Task.id).Nodup := by
        rw [List.map_reverse, List.nodup_reverse]
        exact hdistinct
      have hfind := Table.find?_of_nodup hreverse (List.mem_reverse.mpr hmem)
      rw [List.filterMap_cons, hfind]
      dsimp only
      rw [List.map_cons, ih hsubset.2]

/-- Without a cycle the tasks come out in the greedy order. -/
theorem orderTasksForExecution_of_acyclic (hdistinct : (tasks.map Task.id).Nodup)
    (h : AcyclicTasks tasks) : (orderTasksForExecution tasks).Perm tasks ∧
      (orderTasksForExecution tasks).map Task.id =
        greedy (taskDependencies tasks) (tasks.map Task.id) := by
  have hperm := (greedy_perm_iff hdistinct (closed_taskDependencies tasks)).mpr
    ((acyclicTasks_iff hdistinct).mp h)
  unfold orderTasksForExecution
  split
  · rename_i hshort
    refine ⟨List.Perm.refl _, ?_⟩
    -- a list with at most one task has one order
    cases tasks with
    | nil => exact (List.nil_perm.mp hperm.symm).symm
    | cons task rest =>
        cases rest with
        | nil => exact List.singleton_perm.mp hperm.symm
        | cons second rest => exact absurd hshort (by simp)
  · dsimp only
    rw [orderedTaskIds_eq hdistinct, hperm.length_eq, List.length_map, if_neg (by simp)]
    have hids := tasksById_eq hdistinct fun taskId hmem => hperm.mem_iff.mp hmem
    refine ⟨?_, hids⟩
    have hgreedy : (greedy (taskDependencies tasks) (tasks.map Task.id)).Nodup := nodup_greedy
    have hnodup := hids ▸ hgreedy
    refine (List.perm_ext_iff_of_nodup (List.Nodup.of_map _ hnodup)
      (List.Nodup.of_map _ hdistinct)).mpr fun task => ⟨fun hmem => ?_, fun hmem => ?_⟩
    · obtain ⟨taskId, -, hfind⟩ := List.mem_filterMap.mp hmem
      exact List.mem_reverse.mp (List.mem_of_find?_eq_some hfind)
    · refine List.mem_filterMap.mpr ⟨task.id, hperm.mem_iff.mpr (List.mem_map_of_mem hmem), ?_⟩
      refine Table.find?_of_nodup ?_ (List.mem_reverse.mpr hmem)
      rw [List.map_reverse, List.nodup_reverse]
      exact hdistinct

/-- With a cycle the rows keep their order. -/
theorem orderTasksForExecution_of_cycle (hdistinct : (tasks.map Task.id).Nodup)
    (h : ¬ AcyclicTasks tasks) : orderTasksForExecution tasks = tasks := by
  have hshort : ¬ (greedy (taskDependencies tasks) (tasks.map Task.id)).length = tasks.length := by
    intro hlength
    refine h ((acyclicTasks_iff hdistinct).mpr ((greedy_perm_iff hdistinct
      (closed_taskDependencies tasks)).mp ?_))
    exact (List.subperm_of_subset nodup_greedy greedyFrom_subset).perm_of_length_le
      (by rw [hlength, List.length_map])
  unfold orderTasksForExecution
  split
  · rfl
  · dsimp only
    rw [orderedTaskIds_eq hdistinct, if_pos hshort]

theorem orderTasksForExecution_dependenciesFirst (hdistinct : (tasks.map Task.id).Nodup)
    (h : AcyclicTasks tasks) : DependenciesFirst (orderTasksForExecution tasks) := by
  obtain ⟨hperm, hids⟩ := orderTasksForExecution_of_acyclic hdistinct h
  rw [dependenciesFirst_iff hdistinct hperm, hids]
  exact (legal_iff_respects nodup_greedy).mp legal_greedyFrom

theorem orderTasksForExecution_perm (hdistinct : (tasks.map Task.id).Nodup) :
    (orderTasksForExecution tasks).Perm tasks := by
  by_cases hacyclic : AcyclicTasks tasks
  · exact (orderTasksForExecution_of_acyclic hdistinct hacyclic).1
  · rw [orderTasksForExecution_of_cycle hdistinct hacyclic]

/-- The indices of the ids are those of the tasks. -/
theorem map_idxOf_id (hdistinct : (tasks.map Task.id).Nodup) {ordered : List Task}
    (hsubset : ordered ⊆ tasks) :
    (ordered.map Task.id).map (tasks.map Task.id).idxOf = ordered.map tasks.idxOf := by
  rw [List.map_map]
  exact List.map_congr_left fun task hmem => idxOf_id hdistinct (hsubset hmem)

/-- No other order of the tasks with the dependencies first has an earlier task at the first place
    where they differ. -/
theorem orderTasksForExecution_le (hdistinct : (tasks.map Task.id).Nodup) (h : AcyclicTasks tasks)
    {other : List Task} (hother : other.Perm tasks) (hfirst : DependenciesFirst other) :
    (orderTasksForExecution tasks).map tasks.idxOf ≤ other.map tasks.idxOf := by
  obtain ⟨hperm, hids⟩ := orderTasksForExecution_of_acyclic hdistinct h
  have hnodup : (other.map Task.id).Nodup := ((hother.map Task.id).nodup_iff).mpr hdistinct
  have hlegal := (legal_iff_respects hnodup).mpr ((dependenciesFirst_iff hdistinct hother).mp hfirst)
  have hsame : (greedy (taskDependencies tasks) (tasks.map Task.id)).Perm (other.map Task.id) :=
    hids ▸ (hperm.trans hother.symm).map Task.id
  have hle := greedyFrom_le hlegal (by rwa [List.nil_append]) hsame
  rw [← map_idxOf_id hdistinct hperm.subset, ← map_idxOf_id hdistinct hother.subset, hids]
  exact hle

/-- A list that has the dependencies first stays as it is. -/
theorem orderTasksForExecution_of_dependenciesFirst (hdistinct : (tasks.map Task.id).Nodup)
    (h : DependenciesFirst tasks) : orderTasksForExecution tasks = tasks := by
  have hrespects := (dependenciesFirst_iff hdistinct (List.Perm.refl tasks)).mp h
  have hacyclic := (acyclicTasks_iff hdistinct).mpr
    (hrespects.acyclic (closed_taskDependencies tasks))
  obtain ⟨hperm, hids⟩ := orderTasksForExecution_of_acyclic hdistinct hacyclic
  rw [greedy_of_respects hdistinct hrespects] at hids
  -- the ids decide which tasks stand where
  refine List.ext_getElem hperm.length_eq fun i hi hi' => ?_
  have hid : ((orderTasksForExecution tasks).map Task.id)[i]? = (tasks.map Task.id)[i]? := by
    rw [hids]
  rw [List.getElem?_map, List.getElem?_map, List.getElem?_eq_getElem hi,
    List.getElem?_eq_getElem hi'] at hid
  exact List.inj_on_of_nodup_map hdistinct (hperm.subset (List.getElem_mem hi))
    (List.getElem_mem hi') (Option.some_injective _ hid)

/-- The rounds end by themselves: more of them take nothing more. -/
theorem orderLoop_of_le (hdistinct : (tasks.map Task.id).Nodup) (more : Nat) :
    orderLoop (tasks.map Task.node) (tasks.length + more) (startState (tasks.map Task.node)) =
      orderedTaskIds (tasks.map Task.node) := by
  have hnodup : ((tasks.map Task.node).map Prod.fst).Nodup := by rwa [fst_node]
  have hrounds : greedyFrom (taskDependencies tasks) _ _ _ = _ := greedyFrom_of_le List.nodup_nil
    (List.nil_subset (tasks.map Task.id)) (Nat.le_add_left (tasks.map Task.id).length _) more
  rw [List.length_map] at hrounds
  rw [orderLoop_eq hnodup _ (tracks_startState hnodup), orderedTaskIds_eq hdistinct, fst_node,
    greedy, List.length_map]
  exact hrounds

/-- The ordering is a stable topological sort: the rounds end, the result is an order of the tasks,
    without a cycle it is the least one with the dependencies first, and with a cycle the list is
    left as it is. -/
theorem orderTasksForExecution_topological (hdistinct : (tasks.map Task.id).Nodup) :
    (∀ more, orderLoop (tasks.map Task.node) (tasks.length + more)
        (startState (tasks.map Task.node)) = orderedTaskIds (tasks.map Task.node)) ∧
    (orderTasksForExecution tasks).Perm tasks ∧
    (AcyclicTasks tasks → DependenciesFirst (orderTasksForExecution tasks) ∧
      ∀ other, other.Perm tasks → DependenciesFirst other →
        (orderTasksForExecution tasks).map tasks.idxOf ≤ other.map tasks.idxOf) ∧
    (DependenciesFirst tasks → orderTasksForExecution tasks = tasks) ∧
    orderTasksForExecution (orderTasksForExecution tasks) = orderTasksForExecution tasks ∧
    (¬ AcyclicTasks tasks → orderTasksForExecution tasks = tasks) := by
  have hperm := orderTasksForExecution_perm hdistinct
  refine ⟨orderLoop_of_le hdistinct, hperm, fun hacyclic => ⟨?_, ?_⟩, ?_, ?_, ?_⟩
  · exact orderTasksForExecution_dependenciesFirst hdistinct hacyclic
  · exact fun other hother hfirst => orderTasksForExecution_le hdistinct hacyclic hother hfirst
  · exact orderTasksForExecution_of_dependenciesFirst hdistinct
  · by_cases hacyclic : AcyclicTasks tasks
    · exact orderTasksForExecution_of_dependenciesFirst
        (((hperm.map Task.id).nodup_iff).mpr hdistinct)
        (orderTasksForExecution_dependenciesFirst hdistinct hacyclic)
    · rw [orderTasksForExecution_of_cycle hdistinct hacyclic,
        orderTasksForExecution_of_cycle hdistinct hacyclic]
  · exact orderTasksForExecution_of_cycle hdistinct

/-- A task that names the one after it twice, and one that is not in the list. -/
def shipBeforeBuild : List Task :=
  [{ id := "task-ship", title := "Ship", department := .review,
     dependsOn := ["task-build", "task-build", "task-gone"] },
   { id := "task-build", title := "Build", department := .build }]

theorem orderTasksForExecution_topological_shipBeforeBuild :
    (orderTasksForExecution shipBeforeBuild).map Task.id = ["task-build", "task-ship"] ∧
    (orderTasksForExecution shipBeforeBuild).Perm shipBeforeBuild ∧
    orderTasksForExecution (orderTasksForExecution shipBeforeBuild) =
      orderTasksForExecution shipBeforeBuild := by
  obtain ⟨-, hperm, -, -, htwice, -⟩ :=
    orderTasksForExecution_topological (by decide : (shipBeforeBuild.map Task.id).Nodup)
  exact ⟨by decide +kernel, hperm, htwice⟩

end TaskLists

end CodexOrchestrator
