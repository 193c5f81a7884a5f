import CodexOrchestrator.Orchestrator.Outcomes

/-!
# Plan — the tasks of a project and their outputs

The tasks of a record are those of `_build_plan`, whatever happens to the project; only their
statuses and notes change.  A stage is a task of the plan with its status.  `Filed` says that the
outputs of the finished tasks are there, each once.
-/

namespace CodexOrchestrator

/-! ## Stages -/

abbrev Stage := Task × TaskStatus

/-- The task as it was planned, and its status. -/
def Task.stage (task : Task) : Stage := ({ task with status := .pending, note := "" }, task.status)

def ProjectRecord.stages (r : ProjectRecord) : List Stage := r.tasks.map Task.stage

/-- The plan with the given statuses. -/
def planStages (statuses : List TaskStatus) : List Stage := buildPlan.zip statuses

def Stage.withStatus (status : TaskStatus) (stage : Stage) : Stage := (stage.1, status)

def Stage.reset (departments : List Department) (stage : Stage) : Stage :=
  if stage.1.department ∈ departments then stage.withStatus .pending else stage

def Stage.move (nextStatus : TaskStatus) (stage : Stage) : Stage :=
  if stage.2 = .waitingApproval then stage.withStatus nextStatus else stage

theorem stage_withStatus (status : TaskStatus) (task : Task) :
    (task.withStatus status).stage = Stage.withStatus status task.stage := rfl

theorem stages_withStatus (status : TaskStatus) (tasks : List Task) :
    (tasks.map (Task.withStatus status)).map Task.stage =
      (tasks.map Task.stage).map (Stage.withStatus status) := by
  rw [List.map_map, List.map_map]
  rfl

theorem stages_reset (departments : List Department) (noteReason : Option String)
    (tasks : List Task) :
    (tasks.map (Task.reset departments .pending noteReason)).map Task.stage =
      (tasks.map Task.stage).map (Stage.reset departments) := by
  rw [List.map_map, List.map_map]
  apply List.map_congr_left
  intro task _
  show (Task.reset departments .pending noteReason task).stage = Stage.reset departments task.stage
  have hdepartment : task.stage.1.department = task.department := rfl
  unfold Task.reset Stage.reset
  rw [hdepartment]
  split <;> rfl

theorem stages_move (nextStatus : TaskStatus) (note : Option String) (tasks : List Task) :
    (tasks.map (Task.move nextStatus note)).map Task.stage =
      (tasks.map Task.stage).map (Stage.move nextStatus) := by
  rw [List.map_map, List.map_map]
  apply List.map_congr_left
  intro task _
  show (Task.move nextStatus note task).stage = Stage.move nextStatus task.stage
  have hstatus : task.stage.2 = task.status := rfl
  unfold Task.move Stage.move
  rw [hstatus]
  split <;> rfl

/-! ## Outputs -/

/-- The key of the artifact that a task writes. -/
def Task.output (task : Task) : String × String := (artifactId task, task.id)

/-- Every finished task that produces an artifact has it among the keys, and no key stands twice. -/
structure Filed (stages : List Stage) (keys : List (String × String)) : Prop where
  form : ∀ key ∈ keys, key.1 = "artifact-" ++ key.2
  nodup : (keys.map Prod.fst).Nodup
  filed : ∀ stage ∈ stages, stage.2 = .done → stage.1.department ≠ .review → stage.1.output ∈ keys

section Filed

variable {stages stages' : List Stage} {keys : List (String × String)}

theorem filed_nil (h : ∀ stage ∈ stages, stage.2 ≠ .done) : Filed stages [] :=
  ⟨fun _ hmem => absurd hmem List.not_mem_nil, List.nodup_nil,
    fun stage hmem hdone => absurd hdone (h stage hmem)⟩

/-- A plan in which no further task is finished. -/
theorem Filed.mono (h : Filed stages keys)
    (hdone : ∀ stage ∈ stages', stage.2 = .done → stage ∈ stages) : Filed stages' keys :=
  ⟨h.form, h.nodup, fun stage hmem hd => h.filed stage (hdone stage hmem hd) hd⟩

/-- Two keys of one task are the same key. -/
theorem Filed.key_eq (h : Filed stages keys) {key : String × String} (hmem : key ∈ keys) {task : Task}
    (hkey : key.2 = task.id) : key = task.output := by
  have hform := h.form key hmem
  rw [hkey] at hform
  exact Prod.ext hform hkey

/-- The round of a task files its output. -/
theorem Filed.round (h : Filed stages keys) {task : Task} (hmem : task.stage ∈ stages) :
    Filed (Stage.withStatus .done task.stage :: stages) (keysAfter keys task) := by
  unfold keysAfter
  split
  · constructor
    · intro key hkey
      rcases mem_upsertBy hkey with rfl | hkey
      · rfl
      · exact h.form key hkey
    · exact nodup_upsertBy _ h.nodup
    · intro stage hstage hdone hreview
      rcases List.mem_cons.mp hstage with rfl | hstage
      · exact mem_upsertBy_self _ _
      · refine mem_upsertBy_of_mem (h.filed stage hstage hdone hreview) fun hid => ?_
        have hsame : stage.1.id = task.id := PyText.append_left_cancel hid
        exact Prod.ext hid hsame
  · rename_i hskip
    refine ⟨h.form, h.nodup, fun stage hstage hdone hreview => ?_⟩
    rcases List.mem_cons.mp hstage with rfl | hstage
    · have hfinished : task.stage.2 = .done := by
        by_contra hopen
        exact hskip ⟨hopen, hreview⟩
      exact h.filed task.stage hmem hfinished hreview
    · exact h.filed stage hstage hdone hreview

/-- A pass over tasks of the plan files their outputs. -/
theorem Filed.rounds {tasks : List Task} (h : Filed stages keys)
    (hmem : ∀ task ∈ tasks, task.stage ∈ stages) :
    Filed ((tasks.map Task.stage).map (Stage.withStatus .done) ++ stages)
      (tasks.foldl keysAfter keys) := by
  induction tasks generalizing stages keys with
  | nil => exact h
  | cons task rest ih =>
      have hfirst := h.round (hmem task List.mem_cons_self)
      have hrest := ih hfirst fun t ht =>
        List.mem_cons_of_mem _ (hmem t (List.mem_cons_of_mem _ ht))
      rw [List.foldl_cons]
      refine hrest.mono fun stage hstage _ => ?_
      simp only [List.map_cons, List.cons_append, List.mem_cons, List.mem_append] at hstage ⊢
      tauto

/-- A finished task has exactly one artifact. -/
theorem Filed.length_filter (h : Filed stages keys) {task : Task} (hmem : task.stage ∈ stages)
    (hdone : task.status = .done) (hreview : task.department ≠ .review) :
    (keys.filter fun key => key.2 = task.id).length = 1 := by
  have hkey : task.output ∈ keys := h.filed task.stage hmem hdone hreview
  have hsame : ∀ key ∈ keys, decide (key.2 = task.id) = (key == task.output) := by
    intro key hk
    by_cases hid : key.2 = task.id
    · simp [h.key_eq hk hid, Task.output]
    · have hne : key ≠ task.output := fun he => hid (by rw [he]; rfl)
      simp [hid, hne]
  rw [List.filter_congr hsame, ← List.countP_eq_length_filter]
  exact List.count_eq_one_of_mem (List.Nodup.of_map _ h.nodup) hkey

end Filed

/-! ## The cut of a pass -/

/-- Where a pass stops: the trend task is the fourth of the plan. -/
theorem cut_at_trend {front back : List Task} {task : Task} {a b c d e : TaskStatus}
    (h : (front ++ task :: back).map Task.stage = planStages [a, b, c, d, e])
    (htrend : task.department = .trend) :
    front.length = 3 ∧ front.map Task.stage = (planStages [a, b, c, d, e]).take 3 ∧
      (task :: back).map Task.stage = (planStages [a, b, c, d, e]).drop 3 := by
  have hdepartments : (front ++ task :: back).map Task.department =
      buildPlan.map Task.department := by
    have hmap := congrArg (List.map fun stage : Stage => stage.1.department) h
    rw [List.map_map] at hmap
    exact hmap
  have hget : (buildPlan.map Task.department)[front.length]? = some .trend := by
    rw [← hdepartments, List.getElem?_map, Loops.get_at_cut, Option.map_some, htrend]
  have hlt : front.length < (buildPlan.map Task.department).length :=
    (List.getElem?_eq_some_iff.mp hget).1
  have hlength : front.length = 3 :=
    (List.getElem?_inj hlt (by decide)).mp hget
  refine ⟨hlength, ?_, ?_⟩
  · rw [← h, List.map_append, List.take_left' (by rw [List.length_map, hlength])]
  · rw [← h, List.map_append, List.drop_left' (by rw [List.length_map, hlength])]

/-- The review task is the last of the plan. -/
theorem cut_at_review {tasks : List Task} {a b c d e : TaskStatus}
    (h : tasks.map Task.stage = planStages [a, b, c, d, e]) :
    ∃ front task, tasks = front ++ [task] ∧ task.department = .review ∧ task.status = e ∧
      front ≠ [] ∧ ∀ t ∈ front, t.department ≠ .review := by
  rcases List.eq_nil_or_concat tasks with hnil | ⟨front, task, hcut⟩
  · rw [hnil] at h
    cases h
  · rw [List.concat_eq_append] at hcut
    have hsplit : planStages [a, b, c, d, e] =
        (planStages [a, b, c, d, e]).take 4 ++ (planStages [a, b, c, d, e]).drop 4 := rfl
    rw [hcut, List.map_append, List.map_singleton, hsplit] at h
    obtain ⟨hfront, hlast⟩ := List.append_inj' h rfl
    have hstage := (List.cons.inj hlast).1
    refine ⟨front, task, hcut, congrArg (fun stage => stage.1.department) hstage,
      congrArg Prod.snd hstage, ?_, ?_⟩
    · rintro rfl
      cases hfront
    · intro t ht
      have hmem : t.stage ∈ (planStages [a, b, c, d, e]).take 4 := hfront ▸ List.mem_map_of_mem ht
      have hall : ∀ stage ∈ (planStages [a, b, c, d, e]).take 4, stage.1.department ≠ .review := by
        simp [planStages, buildPlan]
      exact hall t.stage hmem

end CodexOrchestrator
