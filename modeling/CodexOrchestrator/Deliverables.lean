import CodexOrchestrator.Freshness
import CodexOrchestrator.Orchestrator.Passes
import Mathlib.Tactic.IntervalCases

/-!
# Deliverables — what a project delivers does not depend on its route

Runs, rejections, revisions and replanning write the artifacts of a project again and again.  Every
stored record has the same ones: the outputs of the three internal departments for its brief, and in
front of the end at most one trend analysis, an answer of a deployed provider for that brief.
-/

open PyText Raise

namespace CodexOrchestrator

/-! ## What the departments make of a brief -/

def departmentOutput (brief : ProjectBrief) (task : Task) : List Artifact :=
  match task.department with
  | .research => [researchAgentRun task brief]
  | .design => [designAgentRun task brief]
  | .build => [buildAgentRun task brief]
  | .trend | .review => []

/-- The outputs of the internal departments, in the order of the plan. -/
def internalDeliverables (brief : ProjectBrief) : List Artifact :=
  buildPlan.flatMap (departmentOutput brief)

/-- The trend task's output. -/
def trendDeliverable (trend : TrendAnalysisResult) : List Artifact :=
  (buildPlan.filter fun task => task.department = .trend).map fun task => trendArtifact task trend

def deployedProviders : List TrendProvider :=
  [mockTrendProvider, geminiTrendProvider, grokTrendProvider, openAITrendProvider]

/-- The answer of a deployed provider for the brief. -/
def AnalysedFor (brief : ProjectBrief) (provider : TrendProvider) (trend : TrendAnalysisResult) :
    Prop :=
  provider ∈ deployedProviders ∧ provider.analyze (trendRequest brief) = .ok trend

/-- The artifacts of a project with the brief: without a trend analysis, or with one. -/
inductive OnFile (brief : ProjectBrief) : List Artifact → Prop where
  | internal : OnFile brief (internalDeliverables brief)
  | analysed {provider : TrendProvider} {trend : TrendAnalysisResult}
      (answer : AnalysedFor brief provider trend) :
      OnFile brief (internalDeliverables brief ++ trendDeliverable trend)

/-! ## One pass -/

/-- Writing the output of an internal department again changes nothing. -/
theorem upsert_internal {brief : ProjectBrief} {task : Task} (hplan : task.planned ∈ buildPlan)
    {artifact : Artifact} (hmem : artifact ∈ departmentOutput brief task.planned)
    (rest : List Artifact) :
    upsertBy Artifact.id artifact (internalDeliverables brief ++ rest) =
      internalDeliverables brief ++ rest := by
  generalize task.planned = planned at hplan hmem
  simp only [buildPlan, List.mem_cons, List.not_mem_nil, or_false] at hplan
  rcases hplan with rfl | rfl | rfl | rfl | rfl
  · cases List.mem_singleton.mp hmem
    rfl
  · cases List.mem_singleton.mp hmem
    rfl
  · cases List.mem_singleton.mp hmem
    rfl
  · cases hmem
  · cases hmem

/-- The trend analysis takes the place of an earlier one. -/
theorem upsert_trend {brief : ProjectBrief} {task : Task} (hplan : task.planned ∈ buildPlan)
    (htrend : task.department = .trend) {artifacts : List Artifact} (h : OnFile brief artifacts)
    (trend : TrendAnalysisResult) :
    upsertBy Artifact.id (trendArtifact task trend) artifacts =
      internalDeliverables brief ++ trendDeliverable trend := by
  have hsame : trendArtifact task trend = trendArtifact task.planned trend := rfl
  have hdepartment : task.planned.department = .trend := htrend
  rw [hsame]
  generalize task.planned = planned at hplan hdepartment
  simp only [buildPlan, List.mem_cons, List.not_mem_nil, or_false] at hplan
  rcases hplan with rfl | rfl | rfl | rfl | rfl
  · cases hdepartment
  · cases hdepartment
  · cases hdepartment
  · cases h <;> rfl
  · cases hdepartment

/-- Where the loop stands: in front of one of the internal tasks of a new project, or at any task of
    the plan with everything on file that is due. -/
inductive Filing (brief : ProjectBrief) : List Task → List Artifact → Prop where
  | starting (k : Nat) (h : k < 3) :
      Filing brief (buildPlan.drop k) ((internalDeliverables brief).take k)
  | filed {rest : List Task} {artifacts : List Artifact}
      (planned : ∀ task ∈ rest, task.planned ∈ buildPlan) (file : OnFile brief artifacts) :
      Filing brief rest artifacts

/-- The completion saves a record with the brief and its artifacts on file. -/
def Completion.Files (brief : ProjectBrief) (completion : Completion) : Prop :=
  ∃ r', completion.saved = some r' ∧ r'.project.brief = brief ∧ OnFile brief r'.artifacts

section Pass

variable {rt : Runtime} {provider : TrendProvider} {approvedActionSet : Finset ApprovalActionType}
  {simulateReviewFailure : Bool} {actor : ActorContext} {brief : ProjectBrief} {s s' : LoopState}
  {task : Task} {rest : List Task}

/-- The artifacts after the round of an unfinished task. -/
theorem artifacts_of_executeTask {i : Nat} (hbrief : s.record.project.brief = brief)
    (hopen : task.Unfinished)
    (h : executeTask rt provider approvedActionSet simulateReviewFailure actor i task s =
      .ok (.finished s')) :
    (∃ artifact ∈ departmentOutput brief task,
      s'.record.artifacts = upsertBy Artifact.id artifact s.record.artifacts) ∨
    (task.department = .trend ∧ ∃ trend, provider.analyze (trendRequest brief) = .ok trend ∧
      s'.record.artifacts = upsertBy Artifact.id (trendArtifact task trend) s.record.artifacts) ∨
    (task.department = .review ∧ s'.record.artifacts = s.record.artifacts) := by
  have hstarted : (setTaskStatus rt s.record i .inProgress actor "").project.brief = brief := by
    rw [setTaskStatus_project, hbrief]
  have hwritten : ∀ artifact, (setTaskStatus rt
      (upsertArtifact (setTaskStatus rt s.record i .inProgress actor "") artifact) i .done actor
        "").artifacts = upsertBy Artifact.id artifact s.record.artifacts := by
    intro artifact
    rw [setTaskStatus_artifacts, upsertArtifact, setTaskStatus_artifacts]
  have houtput : ∀ artifact, departmentOutput brief task = [artifact] →
      artifact ∈ departmentOutput brief task := fun _ he => he ▸ List.mem_singleton_self _
  unfold executeTask at h
  rw [if_neg hopen] at h
  dsimp only at h
  rw [hstarted] at h
  split at h
  · rename_i hdepartment
    rw [← LoopExit.finished.inj (Except.ok.inj h)]
    exact .inl ⟨_, houtput _ (by rw [departmentOutput, hdepartment]), hwritten _⟩
  · rename_i hdepartment
    rw [← LoopExit.finished.inj (Except.ok.inj h)]
    exact .inl ⟨_, houtput _ (by rw [departmentOutput, hdepartment]), hwritten _⟩
  · rename_i hdepartment
    rw [← LoopExit.finished.inj (Except.ok.inj h)]
    exact .inl ⟨_, houtput _ (by rw [departmentOutput, hdepartment]), hwritten _⟩
  · rename_i hdepartment
    split at h
    · obtain ⟨paused, -, h⟩ := bind_eq_ok.mp h
      cases h
    · obtain ⟨artifact, hartifact, h⟩ := bind_eq_ok.mp h
      obtain ⟨trend, hanalyze, rfl⟩ := trendAgentRun_eq_ok hartifact
      rw [← LoopExit.finished.inj (Except.ok.inj h)]
      exact .inr (.inl ⟨hdepartment, trend, hanalyze, hwritten _⟩)
  · rename_i hdepartment
    rw [← LoopExit.finished.inj (Except.ok.inj h)]
    refine .inr (.inr ⟨hdepartment, ?_⟩)
    dsimp only
    rw [setTaskStatus_artifacts, setTaskStatus_artifacts]

/-- The first three tasks of a new project file the internal outputs one by one. -/
theorem upsert_starting {k : Nat} (hk : k < 3) (htasks : task :: rest = buildPlan.drop k)
    {artifact : Artifact} (hmem : artifact ∈ departmentOutput brief task) :
    task.Unfinished ∧ task.department ≠ .trend ∧ task.department ≠ .review ∧
      Filing brief rest (upsertBy Artifact.id artifact ((internalDeliverables brief).take k)) := by
  have hplanned : ∀ t ∈ buildPlan.drop 3, t.planned ∈ buildPlan := by decide
  interval_cases k
  · cases htasks
    cases List.mem_singleton.mp hmem
    exact ⟨by decide, by decide, by decide, .starting 1 (by decide)⟩
  · cases htasks
    cases List.mem_singleton.mp hmem
    exact ⟨by decide, by decide, by decide, .starting 2 (by decide)⟩
  · cases htasks
    cases List.mem_singleton.mp hmem
    exact ⟨by decide, by decide, by decide, .filed hplanned .internal⟩

/-- A round keeps the file. -/
theorem Filing.round {i : Nat} (hbrief : s.record.project.brief = brief)
    (hprovider : provider ∈ deployedProviders)
    (hfile : Filing brief (task :: rest) s.record.artifacts)
    (h : executeTask rt provider approvedActionSet simulateReviewFailure actor i task s =
      .ok (.finished s')) : Filing brief rest s'.record.artifacts := by
  generalize htasks : task :: rest = tasks at hfile
  generalize hartifacts : s.record.artifacts = artifacts at hfile
  cases hfile with
  | starting k hk =>
      have hinternal : (departmentOutput brief task).length = 1 ∧ task.Unfinished := by
        interval_cases k <;> cases htasks <;> exact ⟨rfl, by decide⟩
      obtain ⟨output, houtput⟩ := List.length_eq_one_iff.mp hinternal.1
      have hstart := upsert_starting hk htasks (houtput ▸ List.mem_singleton_self output :
        output ∈ departmentOutput brief task)
      rcases artifacts_of_executeTask hbrief hinternal.2 h with ⟨artifact, hmem, hwritten⟩ |
        ⟨htrend, -⟩ | ⟨hreview, -⟩
      · rw [hwritten, hartifacts]
        exact (upsert_starting hk htasks hmem).2.2.2
      · exact absurd htrend hstart.2.1
      · exact absurd hreview hstart.2.2.1
  | filed planned file =>
      subst htasks hartifacts
      have hplan := planned task List.mem_cons_self
      refine .filed (fun t ht => planned t (List.mem_cons_of_mem _ ht)) ?_
      by_cases hdone : task.status = .done
      · unfold executeTask at h
        rw [if_pos hdone] at h
        rw [← LoopExit.finished.inj (Except.ok.inj h)]
        exact file
      rcases artifacts_of_executeTask hbrief hdone h with ⟨artifact, hmem, hwritten⟩ |
        ⟨htrend, trend, hanalyze, hwritten⟩ | ⟨-, hsame⟩
      · have hplanned : artifact ∈ departmentOutput brief task.planned := hmem
        have hrest := upsert_internal hplan hplanned
        rw [hwritten]
        generalize s.record.artifacts = artifacts at file
        cases file with
        | internal =>
            have hsame := hrest []
            rw [List.append_nil] at hsame
            rw [hsame]
            exact .internal
        | analysed answer =>
            rw [hrest]
            exact .analysed answer
      · rw [hwritten, upsert_trend hplan htrend file]
        exact .analysed ⟨hprovider, hanalyze⟩
      · rw [hsame]
        exact file

/-- A pause keeps the file: the trend task comes behind the internal ones. -/
theorem Filing.paused {i : Nat} {completion : Completion}
    (hstatus : s.record.project.status = .inProgress) (hbrief : s.record.project.brief = brief)
    (hfile : Filing brief (task :: rest) s.record.artifacts)
    (h : executeTask rt provider approvedActionSet simulateReviewFailure actor i task s =
      .ok (.paused completion)) : completion.Files brief := by
  obtain ⟨-, htrend, -, hpause⟩ := paused_of_executeTask h
  obtain ⟨completion', r', hpause', hsaved, hstate, -⟩ := pauseForApproval_eq_ok rt actor i hstatus
  have hsame : completion = completion' := Except.ok.inj (hpause.symm.trans hpause')
  subst hsame
  have hfiled : OnFile brief s.record.artifacts := by
    generalize htasks : task :: rest = tasks at hfile
    generalize s.record.artifacts = artifacts at hfile
    cases hfile with
    | starting k hk => interval_cases k <;> cases htasks <;> cases htrend
    | filed planned file => exact file
  refine ⟨r', hsaved, ?_, ?_⟩
  · rw [(ProjectRecord.project_of_state hstate :)]
    exact hbrief
  · rw [(ProjectRecord.artifacts_of_state hstate :)]
    exact hfiled

/-- The task loop keeps the file. -/
theorem filing_executeTasks {seen tasks : List Task} {exit : LoopExit}
    (hcut : s.record.tasks = seen ++ tasks) (hstatus : s.record.project.status = .inProgress)
    (hbrief : s.record.project.brief = brief) (hprovider : provider ∈ deployedProviders)
    (hfile : Filing brief tasks s.record.artifacts)
    (h : executeTasks rt provider approvedActionSet simulateReviewFailure actor seen.length tasks
      s = .ok exit) :
    (∃ completion, exit = .paused completion ∧ completion.Files brief) ∨
    ∃ s', exit = .finished s' ∧ s'.record.project = s.record.project ∧
      OnFile brief s'.record.artifacts := by
  induction tasks generalizing seen s with
  | nil =>
      cases h
      refine .inr ⟨s, rfl, rfl, ?_⟩
      generalize htasks : ([] : List Task) = tasks at hfile
      generalize s.record.artifacts = artifacts at hfile ⊢
      cases hfile with
      | starting k hk => interval_cases k <;> cases htasks
      | filed planned file => exact file
  | cons task rest ih =>
      rw [executeTasks] at h
      obtain ⟨roundExit, hround, h⟩ := bind_eq_ok.mp h
      cases roundExit with
      | paused completion =>
          cases h
          exact .inl ⟨completion, rfl, hfile.paused hstatus hbrief hround⟩
      | finished s₁ =>
          have hi : s.record.tasks[seen.length]? = some task := by rw [hcut, Loops.get_at_cut]
          have hfirst := round_of_executeTask hi hround
          have hproject := hfirst.project
          have hlen : seen.length + 1 = (seen ++ [task.withStatus .done]).length := by simp
          dsimp only at h
          rw [hlen] at h
          have hnext := hfile.round hbrief hprovider hround
          rw [← hproject] at hstatus hbrief
          rcases ih (hfirst.tasks_at_cut hcut) hstatus hbrief hnext h with
            hpaused | ⟨s', hexit, hsame, hfiled⟩
          · exact .inl hpaused
          · exact .inr ⟨s', hexit, hsame.trans hproject, hfiled⟩

/-- The runtime knows the providers of the package, and no others. -/
def Runtime.Packaged (rt : Runtime) : Prop :=
  ∀ name provider, rt.getTrendProvider name = .ok provider → provider ∈ deployedProviders

theorem Environment.packaged (env : Environment) : env.runtime.Packaged := by
  intro name provider h
  rw [Environment.runtime_getTrendProvider] at h
  rcases getTrendProvider_cases h with rfl | rfl | rfl | rfl <;> simp [deployedProviders]

/-- A pass over the plan keeps the file. -/
theorem files_executePendingTasks (hpackaged : rt.Packaged) {r : ProjectRecord}
    {trendProviderName : String} {completion : Completion}
    (hstatus : r.project.status = .inProgress)
    (hfile : Filing r.project.brief r.tasks r.artifacts)
    (h : executePendingTasks rt r trendProviderName approvedActionSet simulateReviewFailure actor =
      .ok completion) : completion.Files r.project.brief := by
  unfold executePendingTasks at h
  obtain ⟨provider, hlift, h⟩ := bind_eq_ok.mp h
  obtain ⟨exit, htasks, h⟩ := bind_eq_ok.mp h
  have hprovider : provider ∈ deployedProviders := by
    cases hget : rt.getTrendProvider trendProviderName with
    | error e =>
        rw [hget] at hlift
        cases hlift
    | ok found =>
        rw [hget] at hlift
        cases hlift
        exact hpackaged _ _ hget
  have hcut : ({ record := r } : LoopState).record.tasks = [] ++ r.tasks := rfl
  have hstart : Filing r.project.brief r.tasks ({ record := r } : LoopState).record.artifacts :=
    hfile
  rcases filing_executeTasks hcut hstatus rfl hprovider hstart htasks with
    ⟨paused, rfl, hfiles⟩ | ⟨s, rfl, hproject, hfiled⟩
  · cases h
    exact hfiles
  · have hs : s.record.project.status = .inProgress := by rw [hproject]; exact hstatus
    obtain ⟨completion', r', hend, hsaved, hstate, -⟩ := finish_eq_ok rt actor hs
    have hsame : completion = completion' := Except.ok.inj (h.symm.trans hend)
    subst hsame
    refine ⟨r', hsaved, ?_, ?_⟩
    · have hbrief : s.record.project.brief = r.project.brief := by rw [hproject]
      rw [(ProjectRecord.project_of_state hstate :)]
      split <;> exact hbrief
    · rw [(ProjectRecord.artifacts_of_state hstate :)]
      split <;> exact hfiled

end Pass

/-! ## Operations -/

section Operations

variable {rt : Runtime} {r r' : ProjectRecord}

theorem Edit.brief {may : ActorContext → ApprovalActionType → Prop} (h : Edit may r r') :
    r'.project.brief = r.project.brief := by
  cases h with
  | annotate same => rw [same.project]
  | log => rfl
  | transition => rfl
  | task => rfl
  | request => rfl
  | decide => rfl

theorem Edits.brief {may : ActorContext → ApprovalActionType → Prop} (h : Edits may r r') :
    r'.project.brief = r.project.brief := by
  induction h with
  | refl => rfl
  | tail _ he ih => rw [he.brief, ih]

theorem Edits.plan {may : ActorContext → ApprovalActionType → Prop} (h : Edits may r r') :
    r'.tasks.map Task.planned = r.tasks.map Task.planned := by
  induction h with
  | refl => rfl
  | tail _ he ih => rw [he.plan, ih]

/-- The record that enters the pass of an operation has the artifacts of the loaded record. -/
structure Entered (r mid : ProjectRecord) : Prop where
  edits : Edits anybody r mid
  artifacts : mid.artifacts = r.artifacts
  status : mid.project.status = .inProgress

/-- An operation saves the artifacts that it loaded, or what a pass makes of them. -/
theorem saved_artifacts {operation : ProjectOperation}
    (h : savedBy (operation.body rt r) = some r') :
    r'.artifacts = r.artifacts ∨ ∃ mid trendProviderName approved actor completion,
      Entered r mid ∧ executePendingTasks rt mid trendProviderName approved false actor =
        .ok completion ∧ completion.saved = some r' := by
  cases operation with
  | resumeFromApproval args =>
      obtain ⟨-, hsaved⟩ := saved_resumeFromApproval h
      cases hsaved with
      | denied denied saved => exact .inl (ProjectRecord.artifacts_of_state (denied.state saved) :)
      | @partly requested granted _ checks grant missing some state edits =>
          exact .inl ((Prepared.of_same state).artifacts.trans
            (afterApproval_prepared rt requested _ _ grant.state).artifacts)
      | @fully requested granted released _ completion _ grant missing release executed saved =>
          have hprepared := (afterApproval_prepared rt requested (coerceActor args.actor .approver)
            (normalizeText args.note) grant.state).trans release.prepared
          have hdecided := (afterApproval_decided rt requested (coerceActor args.actor .approver)
            (normalizeText args.note) grant.state).edits
          exact .inr ⟨released, _, _, _, completion,
            ⟨(grant.edits.trans (hdecided.mono fun _ _ _ => trivial)).trans release.edits.of_nobody,
              hprepared.artifacts, release.status⟩, executed, saved⟩
  | rejectApproval args =>
      obtain ⟨-, hsaved⟩ := saved_rejectApproval h
      cases hsaved with
      | denied denied saved => exact .inl (ProjectRecord.artifacts_of_state (denied.state saved) :)
      | @rejected named granted _ pending grant sentBack =>
          have happrovals := ProjectRecord.approvals_of_state grant.state
          have hdecided := rejectPending_decided rt r happrovals named
            (coerceActor args.actor .approver) (normalizeText args.reason) (normalizeText args.note)
          exact .inl (((Prepared.of_same grant.state).trans
            (hdecided.prepared (fun _ => rfl) fun _ => rfl)).trans sentBack.prepared).artifacts
  | resumeFromRevision args =>
      obtain ⟨-, hsaved⟩ := saved_resumeFromRevision h
      cases hsaved with
      | replanned mode reset => exact .inl reset.prepared.artifacts
      | executed mode reset parsed executed saved =>
          exact .inr ⟨_, _, _, _, _,
            ⟨reset.edits.of_nobody, reset.prepared.artifacts, reset.status⟩, executed, saved⟩
  | startReplanning args =>
      obtain ⟨-, hsaved⟩ := saved_startReplanning h
      obtain ⟨approved, resumed, completion, hreset, -, hexecuted, hsaved⟩ := hsaved.restarted
      exact .inr ⟨resumed, _, _, _, completion,
        ⟨hreset.edits.of_nobody, hreset.prepared.artifacts, hreset.status⟩, hexecuted, hsaved⟩

/-- The artifacts of a record are on file, and its tasks are those of the plan. -/
structure Shelved (r : ProjectRecord) : Prop where
  file : OnFile r.project.brief r.artifacts
  plan : r.tasks.map Task.planned = buildPlan

theorem Shelved.of_edits {may : ActorContext → ApprovalActionType → Prop} (h : Shelved r)
    (hedits : Edits may r r') (hartifacts : r'.artifacts = r.artifacts) : Shelved r' := by
  constructor
  · rw [hedits.brief, hartifacts]
    exact h.file
  · rw [hedits.plan, h.plan]

/-- An operation keeps the file. -/
theorem Shelved.operation (hpackaged : rt.Packaged) (h : Shelved r) {operation : ProjectOperation}
    (hsaved : savedBy (operation.body rt r) = some r') : Shelved r' := by
  have hedits := ProjectOperation.saved_edits hsaved
  rcases saved_artifacts hsaved with
    hsame | ⟨mid, _, _, _, completion, hentered, hpass, hcompletion⟩
  · exact h.of_edits hedits hsame
  · have hmid : Shelved mid := h.of_edits hentered.edits hentered.artifacts
    have hplanned : ∀ task ∈ mid.tasks, task.planned ∈ buildPlan := by
      intro task hmem
      rw [← hmid.plan]
      exact List.mem_map_of_mem hmem
    obtain ⟨saved, hsaved', hbrief, hfile⟩ := files_executePendingTasks hpackaged hentered.status
      (.filed hplanned hmid.file) hpass
    rw [hcompletion] at hsaved'
    rw [← Option.some.inj hsaved'] at hbrief hfile
    rw [← hbrief] at hfile
    exact ⟨hfile, by rw [hedits.plan, h.plan]⟩

/-- A new project has its internal outputs on file before anything is saved. -/
theorem shelved_run (hpackaged : rt.Packaged) {args : RunArgs}
    (h : savedBy (CodexOrchestrator.run rt args) = some r') : Shelved r' := by
  have hrun := saved_run h
  obtain ⟨approved, started, completion, hedits, hstate, -, hpass, hsaved⟩ := hrun.started
  have hstatus : started.project.status = .inProgress := by
    rw [(ProjectRecord.project_of_state hstate :)]
  have hstart : Filing started.project.brief started.tasks started.artifacts := by
    rw [(ProjectRecord.tasks_of_state hstate :), (ProjectRecord.artifacts_of_state hstate :)]
    exact .starting 0 (by decide)
  obtain ⟨saved, hsaved', hbrief, hfile⟩ := files_executePendingTasks hpackaged hstatus hstart hpass
  rw [hsaved] at hsaved'
  rw [← Option.some.inj hsaved'] at hbrief hfile
  rw [← hbrief] at hfile
  exact ⟨hfile, by rw [hrun.edits.plan]; rfl⟩

end Operations

/-! ## Runs -/

/-- The artifacts of a stored record are on file, after any run. -/
theorem stored_shelved {calls : List Call} {projectId : String} {record : ProjectRecord}
    (hget : (afterCalls calls).get projectId = some record) : Shelved record := by
  refine stored_of_steps (fun repository call record hinv (_ : True) hsaved => ?_)
    (fun _ _ _ _ => trivial) hget
  rcases Operation.saved_cases hsaved with ⟨args, -, h⟩ | ⟨id, op, loaded, -, hloaded, h⟩ |
    ⟨id, actor, loaded, -, hloaded, rfl⟩ | ⟨id, reason, loaded, -, hloaded, rfl⟩
  · exact shelved_run call.env.packaged h
  · exact (hinv id loaded hloaded).operation call.env.packaged h
  · exact (hinv id loaded hloaded).of_edits (edits_recordAuthenticationSuccess actor) rfl
  · exact (hinv id loaded hloaded).of_edits (edits_recordAuthenticationFailure reason) rfl

/-- The artifacts of a project with the brief whose trend analysis is the provider's. -/
def deliverables (brief : ProjectBrief) (provider : TrendProvider) :
    Except PyError (List Artifact) := do
  let trend ← provider.analyze (trendRequest brief)
  return internalDeliverables brief ++ trendDeliverable trend

/-- Whatever route a project took, its artifacts are those of its brief: the internal outputs, with
    the analysis of one of the deployed providers as soon as there is one, and always when it is
    completed. -/
theorem stored_deliverables {calls : List Call} {projectId : String} {record : ProjectRecord}
    (hget : (afterCalls calls).get projectId = some record) :
    (record.artifacts = internalDeliverables record.project.brief ∧
      record.project.status ≠ .completed) ∨
    ∃ provider ∈ deployedProviders,
      deliverables record.project.brief provider = .ok record.artifacts := by
  have hfile := (stored_shelved hget).file
  obtain ⟨lane, hlane⟩ := stored_lane hget
  generalize hartifacts : record.artifacts = artifacts at hfile
  cases hfile with
  | @analysed provider trend answer =>
      refine .inr ⟨provider, answer.1, ?_⟩
      rw [deliverables, answer.2]
      rfl
  | internal =>
      refine .inl ⟨rfl, fun hcompleted => ?_⟩
      -- in a completed project the trend task is done, so its output is filed
      have hdone : lane = .completed := by
        have hstatus := hlane.status.symm.trans hcompleted
        cases lane <;> first | rfl | cases hstatus
      subst hdone
      have hstage : ((buildPlan[3], .done) : Stage) ∈ record.stages := by
        rw [hlane.tasks]
        exact List.mem_of_getElem? (i := 3) rfl
      have hfiled := hlane.outputs.filed _ hstage rfl (by decide)
      rw [hartifacts] at hfiled
      have hnone : buildPlan[3].output ∉
          (internalDeliverables record.project.brief).map Artifact.key := by
        show _ ∉ [buildPlan[0].output, buildPlan[1].output, buildPlan[2].output]
        decide
      exact hnone hfiled

theorem stored_deliverables_sample : ∃ record,
    (afterCalls [sampleRun, sampleApproval]).get "p" = some record ∧
    record.project.status = .completed ∧
    ((record.artifacts = internalDeliverables record.project.brief ∧
      record.project.status ≠ .completed) ∨
    ∃ provider ∈ deployedProviders,
      deliverables record.project.brief provider = .ok record.artifacts) := by
  have hstored : ((afterCalls [sampleRun, sampleApproval]).get "p").any (fun record =>
      record.project.status = .completed) = true := by decide
  obtain ⟨record, hget, hcompleted⟩ := (Option.any_eq_true _ _).mp hstored
  exact ⟨record, hget, of_decide_eq_true hcompleted, stored_deliverables hget⟩

end CodexOrchestrator
