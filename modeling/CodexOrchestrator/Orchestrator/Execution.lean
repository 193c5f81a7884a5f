import CodexOrchestrator.Orchestrator.Edits
import CodexOrchestrator.Orchestrator.Frame

/-!
# Execution — what one pass over the plan does

A round of the task loop either leaves a finished task alone, or runs the task and marks it done;
the pass ends early in front of a trend task whose approval is missing.  `Rounds` is the relation of
the rounds that went through, and `Executed` the relation between the record that enters
`_execute_pending_tasks` and the one that is saved.
-/

open PyText Raise

namespace CodexOrchestrator

/-! ## Lists that are updated by id -/

section Upsert

variable {α β : Type} {id : α → String}

theorem map_upsertBy {id' : β → String} {f : α → β} (hid : ∀ a, id' (f a) = id a) (x : α)
    (xs : List α) : (upsertBy id x xs).map f = upsertBy id' (f x) (xs.map f) := by
  induction xs with
  | nil => rfl
  | cons y rest ih =>
      rw [upsertBy, List.map_cons, upsertBy, hid, hid]
      split
      · rw [List.map_cons]
      · rw [List.map_cons, ih]

theorem mem_upsertBy {x y : α} {xs : List α} (h : y ∈ upsertBy id x xs) : y = x ∨ y ∈ xs := by
  induction xs with
  | nil => exact .inl (List.mem_singleton.mp h)
  | cons z rest ih =>
      rw [upsertBy] at h
      split at h
      · rcases List.mem_cons.mp h with h | h
        · exact .inl h
        · exact .inr (List.mem_cons_of_mem _ h)
      · rcases List.mem_cons.mp h with h | h
        · exact .inr (h ▸ List.mem_cons_self)
        · exact (ih h).imp_right (List.mem_cons_of_mem _)

theorem mem_upsertBy_self (x : α) (xs : List α) : x ∈ upsertBy id x xs := by
  induction xs with
  | nil => exact List.mem_cons_self
  | cons y rest ih =>
      rw [upsertBy]
      split
      · exact List.mem_cons_self
      · exact List.mem_cons_of_mem _ ih

/-- An element stays, unless it is replaced by a different one with its id. -/
theorem mem_upsertBy_of_mem {x y : α} {xs : List α} (h : y ∈ xs) (hsame : id y = id x → y = x) :
    y ∈ upsertBy id x xs := by
  induction xs with
  | nil => cases h
  | cons z rest ih =>
      rw [upsertBy]
      rcases List.mem_cons.mp h with rfl | h
      · split
        · rename_i hid
          exact hsame hid ▸ List.mem_cons_self
        · exact List.mem_cons_self
      · split
        · exact List.mem_cons_of_mem _ h
        · exact List.mem_cons_of_mem _ (ih h)

/-- The ids of an updated list: nothing new when the id is there, else the new id at the end. -/
theorem map_id_upsertBy (x : α) (xs : List α) :
    (upsertBy id x xs).map id = if id x ∈ xs.map id then xs.map id else xs.map id ++ [id x] := by
  induction xs with
  | nil => rfl
  | cons y rest ih =>
      rw [upsertBy]
      by_cases hy : id y = id x
      · simp [hy]
      · rw [if_neg hy, List.map_cons, ih]
        by_cases hrest : id x ∈ rest.map id
        · simp only [List.map_cons, List.mem_cons, hrest, or_true, if_true]
        · have hx : ¬ id x = id y := fun h => hy h.symm
          simp only [List.map_cons, List.mem_cons, hrest, hx, or_false, if_false, List.cons_append]

theorem nodup_upsertBy (x : α) {xs : List α} (h : (xs.map id).Nodup) :
    ((upsertBy id x xs).map id).Nodup := by
  rw [map_id_upsertBy]
  split
  · exact h
  · rename_i hx
    exact List.nodup_append.mpr ⟨h, List.nodup_singleton _, by
      intro a ha b hb he
      rw [List.mem_singleton] at hb
      exact hx (hb ▸ he ▸ ha)⟩

end Upsert

theorem map_id_editCheckpoint {checkpointId : String} {edit : Checkpoint → Checkpoint}
    (hedit : ∀ c, (edit c).id = c.id) (checkpoints : List Checkpoint) :
    (editCheckpoint checkpointId edit checkpoints).map Checkpoint.id =
      checkpoints.map Checkpoint.id := by
  induction checkpoints with
  | nil => rfl
  | cons c rest ih =>
      rw [editCheckpoint]
      split
      · rw [List.map_cons, List.map_cons, hedit]
      · rw [List.map_cons, List.map_cons, ih]

/-! ## One round -/

theorem trendApprovalMissing_eq_false (provider : TrendProvider)
    {approvedActionSet : Finset ApprovalActionType} (h : .externalApiSend ∈ approvedActionSet) :
    trendApprovalMissing provider approvedActionSet = false := by
  simp [trendApprovalMissing, h]

def Artifact.key (artifact : Artifact) : String × String := (artifact.id, artifact.taskId)

theorem map_key_upsertBy (artifact : Artifact) (artifacts : List Artifact) :
    (upsertBy Artifact.id artifact artifacts).map Artifact.key =
      upsertBy Prod.fst artifact.key (artifacts.map Artifact.key) := by
  have hid : ∀ a : Artifact, Prod.fst a.key = Artifact.id a := fun _ => rfl
  exact map_upsertBy hid artifact artifacts

/-- The tasks that the loop still has to run. -/
def Task.Unfinished (task : Task) : Prop := task.status ≠ .done

instance (task : Task) : Decidable task.Unfinished := inferInstanceAs (Decidable (_ ≠ _))

/-- The artifact keys after the round of a task. -/
def keysAfter (keys : List (String × String)) (task : Task) : List (String × String) :=
  if task.Unfinished ∧ task.department ≠ .review then
    upsertBy Prod.fst (artifactId task, task.id) keys
  else keys

/-- The review that the review task writes over the artifacts at hand. -/
def cycleReview (simulateReviewFailure : Bool) (task : Task) (artifacts : List Artifact) : Review :=
  simulateReview simulateReviewFailure (reviewAgentRun task artifacts)

theorem cycleReview_id (simulateReviewFailure : Bool) (task : Task) (artifacts : List Artifact) :
    (cycleReview simulateReviewFailure task artifacts).id = "review-" ++ task.id := by
  unfold cycleReview simulateReview
  split <;> rfl

theorem cycleReview_verdict (simulateReviewFailure : Bool) (task : Task)
    {artifacts : List Artifact} (h : artifacts ≠ []) :
    (cycleReview simulateReviewFailure task artifacts).verdict =
      if simulateReviewFailure then "changes_requested" else "approved" := by
  unfold cycleReview simulateReview
  split
  · rfl
  · exact reviewAgentRun_verdict task h

/-- What the round of `task`, at position `i`, does when it does not end the call. -/
structure Round (provider : TrendProvider) (approvedActionSet : Finset ApprovalActionType)
    (simulateReviewFailure : Bool) (i : Nat) (task : Task) (s s' : LoopState) : Prop where
  edits : Edits nobody s.record s'.record
  state : s'.record.state = { s.record.state with
    tasks := s.record.tasks.modify i (Task.withStatus .done)
    artifacts := s'.record.artifacts
    reviews := s'.record.reviews }
  keys : s'.record.artifacts.map Artifact.key = keysAfter (s.record.artifacts.map Artifact.key) task
  trends : ∀ artifact ∈ s'.record.artifacts, artifact.artifactType = "trend_analysis" →
    artifact ∈ s.record.artifacts ∨ ∃ trend, task.department = .trend ∧ task.Unfinished ∧
      provider.analyze (trendRequest s.record.project.brief) = .ok trend ∧
      artifact.content = trend.modelDump
  quiet : ¬ (task.department = .review ∧ task.Unfinished) →
    s'.record.reviews = s.record.reviews ∧ s'.reviewRan = s.reviewRan ∧
      s'.currentCycleReviewFailed = s.currentCycleReviewFailed
  gate : task.department = .trend → task.Unfinished →
    trendApprovalMissing provider approvedActionSet = false
  reviewed : task.department = .review → task.Unfinished →
    s'.record.reviews = s.record.reviews ++
      [cycleReview simulateReviewFailure task s.record.artifacts] ∧ s'.reviewRan = true ∧
      s'.currentCycleReviewFailed =
        decide ((cycleReview simulateReviewFailure task s.record.artifacts).verdict =
          "changes_requested")

section

variable {rt : Runtime} {provider : TrendProvider} {simulateReviewFailure : Bool}
  {approvedActionSet : Finset ApprovalActionType} {actor : ActorContext}

/-- The record after a task has run: marked as running, its output written, marked as done. -/
def ranTask (rt : Runtime) (actor : ActorContext) (r : ProjectRecord) (i : Nat)
    (artifacts : List Artifact) (reviews : List Review) : ProjectRecord :=
  setTaskStatus rt { setTaskStatus rt r i .inProgress actor "" with artifacts, reviews }
    i .done actor ""

theorem ranTask_state (r : ProjectRecord) (i : Nat) (artifacts : List Artifact)
    (reviews : List Review) :
    (ranTask rt actor r i artifacts reviews).state = { r.state with
      tasks := r.tasks.modify i (Task.withStatus .done), artifacts, reviews } := by
  have hstart := setTaskStatus_state rt r i .inProgress actor ""
  have hstate : ({ setTaskStatus rt r i .inProgress actor "" with artifacts, reviews } :
      ProjectRecord).state = { (setTaskStatus rt r i .inProgress actor "").state with
        artifacts, reviews } := rfl
  have htasks := ProjectRecord.tasks_of_state hstart
  rw [ranTask, setTaskStatus_state, hstate, hstart]
  dsimp only
  rw [htasks, List.modify_modify_eq]
  rfl

@[simp] theorem ranTask_artifacts (r : ProjectRecord) (i : Nat) (artifacts : List Artifact)
    (reviews : List Review) : (ranTask rt actor r i artifacts reviews).artifacts = artifacts :=
  (congrArg ProjectRecord.artifacts (ranTask_state r i artifacts reviews) :)

@[simp] theorem ranTask_reviews (r : ProjectRecord) (i : Nat) (artifacts : List Artifact)
    (reviews : List Review) : (ranTask rt actor r i artifacts reviews).reviews = reviews :=
  (congrArg ProjectRecord.reviews (ranTask_state r i artifacts reviews) :)

theorem edits_ranTask (r : ProjectRecord) (i : Nat) (artifacts : List Artifact)
    (reviews : List Review) : Edits nobody r (ranTask rt actor r i artifacts reviews) := by
  have hstart : Edits nobody r (setTaskStatus rt r i .inProgress actor "") :=
    edits_setTaskStatus rt _ _ _ _
  have houtput : Edits nobody (setTaskStatus rt r i .inProgress actor "")
      { setTaskStatus rt r i .inProgress actor "" with artifacts, reviews } :=
    .of (.annotate ⟨rfl, rfl, rfl, rfl, rfl⟩)
  exact (hstart.trans houtput).trans (edits_setTaskStatus rt _ _ _ _)

/-- The round of a task that produces an artifact. -/
theorem round_of_artifact {i : Nat} {task : Task} {s : LoopState} {artifact : Artifact}
    (hopen : task.Unfinished) (hdep : task.department ≠ .review)
    (hkey : artifact.key = (artifactId task, task.id))
    (htrend : artifact.artifactType = "trend_analysis" → ∃ trend, task.department = .trend ∧
      provider.analyze (trendRequest s.record.project.brief) = .ok trend ∧
      artifact.content = trend.modelDump)
    (hgate : task.department = .trend → trendApprovalMissing provider approvedActionSet = false) :
    Round provider approvedActionSet simulateReviewFailure i task s
      { s with
        record := setTaskStatus rt
          (upsertArtifact (setTaskStatus rt s.record i .inProgress actor "") artifact)
          i .done actor "" } := by
  -- start, write, finish: the three edits of a round as one
  have hran : setTaskStatus rt
      (upsertArtifact (setTaskStatus rt s.record i .inProgress actor "") artifact) i .done actor "" =
      ranTask rt actor s.record i (upsertBy Artifact.id artifact s.record.artifacts)
        s.record.reviews := by
    rw [ranTask, upsertArtifact, setTaskStatus_artifacts, ← setTaskStatus_reviews rt s.record i]
  rw [hran]
  refine ⟨edits_ranTask _ _ _ _, ?_, ?_, ?_, fun _ => ⟨ranTask_reviews _ _ _ _, rfl, rfl⟩,
    fun hd _ => hgate hd, fun hd => absurd hd hdep⟩
  · dsimp only
    rw [ranTask_state, ranTask_artifacts, ranTask_reviews]
  · dsimp only
    rw [ranTask_artifacts, map_key_upsertBy, hkey, keysAfter, if_pos ⟨hopen, hdep⟩]
  · intro a ha htype
    dsimp only at ha
    rw [ranTask_artifacts] at ha
    -- the artifact of this round, or one from before
    rcases mem_upsertBy ha with rfl | ha
    · obtain ⟨trend, hd, hanalyze, hcontent⟩ := htrend htype
      exact .inr ⟨trend, hd, hopen, hanalyze, hcontent⟩
    · exact .inl ha

/-- The round of an unfinished review task. -/
theorem round_of_review {i : Nat} {task : Task} {s : LoopState} (hopen : task.Unfinished)
    (hdep : task.department = .review) :
    Round provider approvedActionSet simulateReviewFailure i task s
      { record := setTaskStatus rt
          { setTaskStatus rt s.record i .inProgress actor "" with
            reviews := (setTaskStatus rt s.record i .inProgress actor "").reviews ++
              [cycleReview simulateReviewFailure task
                (setTaskStatus rt s.record i .inProgress actor "").artifacts] }
          i .done actor ""
        currentCycleReviewFailed := decide ((cycleReview simulateReviewFailure task
          (setTaskStatus rt s.record i .inProgress actor "").artifacts).verdict =
            "changes_requested")
        reviewRan := true } := by
  rw [setTaskStatus_artifacts, setTaskStatus_reviews]
  have hran : setTaskStatus rt
      { setTaskStatus rt s.record i .inProgress actor "" with
        reviews := s.record.reviews ++
          [cycleReview simulateReviewFailure task s.record.artifacts] } i .done actor "" =
      ranTask rt actor s.record i s.record.artifacts
        (s.record.reviews ++ [cycleReview simulateReviewFailure task s.record.artifacts]) := by
    rw [ranTask, ← setTaskStatus_artifacts rt s.record i]
  rw [hran]
  refine ⟨edits_ranTask _ _ _ _, ?_, ?_, ?_, fun hd => absurd ⟨hdep, hopen⟩ hd,
    fun hd => ?_, fun _ _ => ⟨ranTask_reviews _ _ _ _, rfl, rfl⟩⟩
  · dsimp only
    rw [ranTask_state, ranTask_artifacts, ranTask_reviews]
  · dsimp only
    rw [ranTask_artifacts, keysAfter, if_neg fun h => h.2 hdep]
  · intro a ha _
    dsimp only at ha
    rw [ranTask_artifacts] at ha
    exact .inl ha
  · rw [hdep] at hd
    cases hd

/-- An artifact of the trend agent is made from an answer of the provider. -/
theorem trendAgentRun_eq_ok {task : Task} {brief : ProjectBrief} {artifact : Artifact}
    (h : Action.lift (trendAgentRun provider task brief) = .ok artifact) :
    ∃ trend, provider.analyze (trendRequest brief) = .ok trend ∧
      artifact = trendArtifact task trend := by
  unfold trendAgentRun at h
  cases hanalyze : provider.analyze (trendRequest brief) with
  | error e =>
      rw [hanalyze] at h
      cases h
  | ok trend =>
      rw [hanalyze] at h
      cases h
      exact ⟨trend, rfl, rfl⟩

/-- A round that goes through. -/
theorem round_of_executeTask {i : Nat} {task : Task} {s s' : LoopState}
    (hi : s.record.tasks[i]? = some task)
    (h : executeTask rt provider approvedActionSet simulateReviewFailure actor i task s =
      .ok (.finished s')) :
    Round provider approvedActionSet simulateReviewFailure i task s s' := by
  unfold executeTask at h
  split at h
  · rename_i hdone
    cases h
    -- a finished task is skipped, and marking it done once more changes nothing
    have hself : s.record.tasks.modify i (Task.withStatus .done) = s.record.tasks := by
      obtain ⟨hlt, he⟩ := List.getElem?_eq_some_iff.mp hi
      rw [List.modify_eq_set_getElem?, hi]
      have htask : task.withStatus .done = task := by rw [← hdone]; rfl
      show s.record.tasks.set i (task.withStatus .done) = _
      rw [htask, ← he, List.set_getElem_self]
    refine ⟨.refl _, ?_, ?_, fun a ha _ => .inl ha, fun _ => ⟨rfl, rfl, rfl⟩,
      fun _ hopen => absurd hdone hopen, fun _ hopen => absurd hdone hopen⟩
    · rw [hself]
      rfl
    · rw [keysAfter, if_neg fun h => h.1 hdone]
  · rename_i hopen
    dsimp only at h
    split at h
    · rename_i hdep
      cases h
      -- research, then design and build: an artifact of the agent's own type
      exact round_of_artifact hopen (by simp [hdep]) rfl (by simp [researchAgentRun])
        fun hd => absurd hd (by simp [hdep])
    · rename_i hdep
      cases h
      exact round_of_artifact hopen (by simp [hdep]) rfl (by simp [designAgentRun])
        fun hd => absurd hd (by simp [hdep])
    · rename_i hdep
      cases h
      exact round_of_artifact hopen (by simp [hdep]) rfl (by simp [buildAgentRun])
        fun hd => absurd hd (by simp [hdep])
    · rename_i hdep
      split at h
      -- the trend task without its approval ends the call, so this is no round
      · obtain ⟨completion, -, he⟩ := bind_eq_ok.mp h
        cases he
      · rename_i hmissing
        rw [Bool.not_eq_true] at hmissing
        obtain ⟨artifact, hagent, he⟩ := bind_eq_ok.mp h
        cases he
        obtain ⟨trend, hanalyze, hartifact⟩ := trendAgentRun_eq_ok hagent
        rw [setTaskStatus_project] at hanalyze
        exact round_of_artifact hopen (by simp [hdep]) (by rw [hartifact]; rfl)
          (fun _ => ⟨trend, hdep, hanalyze, by rw [hartifact]; rfl⟩) fun _ => hmissing
    · rename_i hdep
      cases h
      exact round_of_review hopen hdep

/-! ## A pass over the plan -/

/-- The rounds of consecutive tasks, the first at position `i`, that all went through. -/
inductive Rounds (provider : TrendProvider) (approvedActionSet : Finset ApprovalActionType)
    (simulateReviewFailure : Bool) : Nat → List Task → LoopState → LoopState → Prop where
  | nil {i : Nat} {s : LoopState} : Rounds provider approvedActionSet simulateReviewFailure i [] s s
  | cons {i : Nat} {task : Task} {rest : List Task} {s s₁ s' : LoopState}
      (first : Round provider approvedActionSet simulateReviewFailure i task s s₁)
      (later : Rounds provider approvedActionSet simulateReviewFailure (i + 1) rest s₁ s') :
      Rounds provider approvedActionSet simulateReviewFailure i (task :: rest) s s'

theorem Round.tasks_at_cut {s s' : LoopState} {seen rest : List Task} {task : Task}
    (h : Round provider approvedActionSet simulateReviewFailure seen.length task s s')
    (hs : s.record.tasks = seen ++ task :: rest) :
    s'.record.tasks = (seen ++ [task.withStatus .done]) ++ rest := by
  rw [← ProjectRecord.state_tasks, h.state]
  show s.record.tasks.modify seen.length _ = _
  rw [hs, Loops.modify_at_cut, List.append_assoc, List.singleton_append]

/-- The pass leaves the project, the requests and the checkpoints alone, and finishes its tasks. -/
theorem Rounds.state {tasks back : List Task} {s s' : LoopState} {seen : List Task}
    (h : Rounds provider approvedActionSet simulateReviewFailure seen.length tasks s s')
    (hs : s.record.tasks = seen ++ (tasks ++ back)) :
    s'.record.state = { s.record.state with
      tasks := seen ++ (tasks.map (Task.withStatus .done) ++ back)
      artifacts := s'.record.artifacts
      reviews := s'.record.reviews } := by
  -- the rounds move the cut between `seen` and the rest through the list
  induction tasks generalizing seen s with
  | nil =>
      cases h
      rw [List.map_nil, List.nil_append]
      rw [List.nil_append] at hs
      rw [← hs]
      rfl
  | cons task rest ih =>
      cases h with
      | cons first later =>
          have hnext := first.tasks_at_cut hs
          have hlen : seen.length + 1 = (seen ++ [task.withStatus .done]).length := by simp
          rw [hlen] at later
          rw [ih later hnext, first.state, List.append_assoc, List.singleton_append, List.map_cons,
            List.cons_append]

theorem Rounds.edits {i : Nat} {tasks : List Task} {s s' : LoopState}
    (h : Rounds provider approvedActionSet simulateReviewFailure i tasks s s') :
    Edits nobody s.record s'.record := by
  induction h with
  | nil => exact .refl _
  | cons first _ ih => exact first.edits.trans ih

theorem Rounds.keys {i : Nat} {tasks : List Task} {s s' : LoopState}
    (h : Rounds provider approvedActionSet simulateReviewFailure i tasks s s') :
    s'.record.artifacts.map Artifact.key =
      tasks.foldl keysAfter (s.record.artifacts.map Artifact.key) := by
  induction h with
  | nil => rfl
  | cons first _ ih => rw [ih, first.keys, List.foldl_cons]

theorem Round.project {i : Nat} {task : Task} {s s' : LoopState}
    (h : Round provider approvedActionSet simulateReviewFailure i task s s') :
    s'.record.project = s.record.project :=
  (congrArg ProjectRecord.project h.state :)

/-- A trend artifact that a pass adds is made from an answer of its provider, for a trend task that
    was not done. -/
theorem Rounds.trends {i : Nat} {tasks : List Task} {s s' : LoopState}
    (h : Rounds provider approvedActionSet simulateReviewFailure i tasks s s') :
    ∀ artifact ∈ s'.record.artifacts, artifact.artifactType = "trend_analysis" →
      artifact ∈ s.record.artifacts ∨ ∃ task ∈ tasks, ∃ trend, task.department = .trend ∧
        task.Unfinished ∧ provider.analyze (trendRequest s.record.project.brief) = .ok trend ∧
        artifact.content = trend.modelDump := by
  induction h with
  | nil => exact fun artifact ha _ => .inl ha
  | cons first _ ih =>
      intro artifact ha htype
      rcases ih artifact ha htype with ha | ⟨task, hmem, trend, hd, hopen, hanalyze, hcontent⟩
      · rcases first.trends artifact ha htype with ha | ⟨trend, hd, hopen, hanalyze, hcontent⟩
        · exact .inl ha
        · exact .inr ⟨_, List.mem_cons_self, trend, hd, hopen, hanalyze, hcontent⟩
      · rw [first.project] at hanalyze
        exact .inr ⟨task, List.mem_cons_of_mem _ hmem, trend, hd, hopen, hanalyze, hcontent⟩

/-- A trend task runs only behind the test in front of it. -/
theorem Rounds.gate {i : Nat} {tasks : List Task} {s s' : LoopState}
    (h : Rounds provider approvedActionSet simulateReviewFailure i tasks s s') :
    ∀ task ∈ tasks, task.department = .trend → task.Unfinished →
      trendApprovalMissing provider approvedActionSet = false := by
  induction h with
  | nil => exact fun task hmem => absurd hmem List.not_mem_nil
  | cons first _ ih =>
      intro task hmem
      rcases List.mem_cons.mp hmem with rfl | hmem
      · exact first.gate
      · exact ih task hmem

/-- The review tasks that a pass has to run. -/
def openReviews (tasks : List Task) : List Task :=
  tasks.filter fun task => task.department = .review ∧ task.Unfinished

/-- Each unfinished review task appends one review, with an id made from the id of the task. -/
theorem Rounds.reviews {i : Nat} {tasks : List Task} {s s' : LoopState}
    (h : Rounds provider approvedActionSet simulateReviewFailure i tasks s s') :
    ∃ written, s'.record.reviews = s.record.reviews ++ written ∧
      written.map Review.id = (openReviews tasks).map fun task => "review-" ++ task.id := by
  induction h with
  | nil => exact ⟨[], (List.append_nil _).symm, rfl⟩
  | @cons i task rest s s₁ s' first _ ih =>
      obtain ⟨written, hwritten, hids⟩ := ih
      by_cases hreview : task.department = .review ∧ task.Unfinished
      · obtain ⟨hfirst, -⟩ := first.reviewed hreview.1 hreview.2
        refine ⟨cycleReview simulateReviewFailure task s.record.artifacts :: written, ?_, ?_⟩
        · rw [hwritten, hfirst, List.append_assoc, List.singleton_append]
        · have hopen : openReviews (task :: rest) = task :: openReviews rest :=
            List.filter_cons_of_pos (by simpa using hreview)
          rw [List.map_cons, hids, hopen, List.map_cons, cycleReview_id]
      · have hopen : openReviews (task :: rest) = openReviews rest :=
          List.filter_cons_of_neg (by simpa using hreview)
        exact ⟨written, by rw [hwritten, (first.quiet hreview).1], by rw [hids, hopen]⟩

/-- The last round of a pass. -/
theorem Rounds.concat {i : Nat} {tasks : List Task} {task : Task} {s s' : LoopState}
    (h : Rounds provider approvedActionSet simulateReviewFailure i (tasks ++ [task]) s s') :
    ∃ s₁, Rounds provider approvedActionSet simulateReviewFailure i tasks s s₁ ∧
      Round provider approvedActionSet simulateReviewFailure (i + tasks.length) task s₁ s' := by
  induction tasks generalizing i s with
  | nil =>
      cases h with
      | cons first later =>
          cases later
          exact ⟨s, .nil, first⟩
  | cons t rest ih =>
      cases h with
      | cons first later =>
          obtain ⟨s₁, hrest, hlast⟩ := ih later
          have hlen : i + 1 + rest.length = i + (t :: rest).length := by
            rw [List.length_cons]
            omega
          exact ⟨s₁, .cons first hrest, hlen ▸ hlast⟩

/-- A round that ends the call. -/
theorem paused_of_executeTask {i : Nat} {task : Task} {s : LoopState} {completion : Completion}
    (h : executeTask rt provider approvedActionSet simulateReviewFailure actor i task s =
      .ok (.paused completion)) :
    task.Unfinished ∧ task.department = .trend ∧
      trendApprovalMissing provider approvedActionSet = true ∧
      pauseForApproval rt (setTaskStatus rt s.record i .inProgress actor "") i actor =
        .ok completion := by
  unfold executeTask at h
  split at h
  · cases h
  · rename_i hopen
    dsimp only at h
    split at h
    · cases h
    · cases h
    · cases h
    · rename_i hdep
      split at h
      · rename_i hmissing
        obtain ⟨c, hpause, he⟩ := bind_eq_ok.mp h
        cases he
        exact ⟨hopen, hdep, hmissing, hpause⟩
      · obtain ⟨artifact, -, he⟩ := bind_eq_ok.mp h
        cases he
    · cases h

/-- How a pass ends: it goes through, or it stops in front of a trend task. -/
theorem executeTasks_cases {seen tasks : List Task} {s : LoopState} {exit : LoopExit}
    (hs : s.record.tasks = seen ++ tasks)
    (h : executeTasks rt provider approvedActionSet simulateReviewFailure actor seen.length tasks s =
      .ok exit) :
    (∃ s', exit = .finished s' ∧
      Rounds provider approvedActionSet simulateReviewFailure seen.length tasks s s') ∨
    (∃ front task back s₁ completion, exit = .paused completion ∧ tasks = front ++ task :: back ∧
      Rounds provider approvedActionSet simulateReviewFailure seen.length front s s₁ ∧
      task.department = .trend ∧ task.Unfinished ∧ trendApprovalMissing provider approvedActionSet = true ∧
      pauseForApproval rt (setTaskStatus rt s₁.record (seen.length + front.length) .inProgress actor "")
        (seen.length + front.length) actor = .ok completion) := by
  induction tasks generalizing seen s with
  | nil =>
      cases h
      exact .inl ⟨s, rfl, .nil⟩
  | cons task rest ih =>
      rw [executeTasks] at h
      obtain ⟨roundExit, hround, h⟩ := bind_eq_ok.mp h
      have hi : s.record.tasks[seen.length]? = some task := by rw [hs, Loops.get_at_cut]
      cases roundExit with
      | paused completion =>
          cases h
          obtain ⟨hopen, hd, hmissing, hpause⟩ := paused_of_executeTask hround
          exact .inr ⟨[], task, rest, s, completion, rfl, rfl, .nil, hd, hopen, hmissing, hpause⟩
      | finished s₁ =>
          have first := round_of_executeTask hi hround
          -- the round has moved the cut behind `task`, which is done now
          have hnext := first.tasks_at_cut hs
          have hlen : seen.length + 1 = (seen ++ [task.withStatus .done]).length := by simp
          dsimp only at h
          rw [hlen] at h
          rcases ih hnext h with ⟨s', he, hlater⟩ |
            ⟨front, t, back, s₂, completion, he, hsplit, hfront, hd, hopen, hmissing, hpause⟩
          · rw [← hlen] at hlater
            exact .inl ⟨s', he, .cons first hlater⟩
          · rw [← hlen] at hfront hpause
            have hpos : seen.length + 1 + front.length = seen.length + (task :: front).length := by
              rw [List.length_cons]
              omega
            rw [hpos] at hpause
            exact .inr ⟨task :: front, t, back, s₂, completion, he, by rw [hsplit, List.cons_append],
              .cons first hfront, hd, hopen, hmissing, hpause⟩

/-! ## The pause in front of the trend task -/

variable (rt) (actor)

theorem requestTrendApproval_state (r : ProjectRecord) :
    (requestTrendApproval rt r).state = { r.state with
      approvals := if hasPendingApproval r .externalApiSend then r.approvals
        else r.approvals ++ [trendApprovalRequest rt] } := by
  unfold requestTrendApproval
  split
  · rfl
  · rfl

theorem edits_requestTrendApproval (r : ProjectRecord) :
    Edits nobody r (requestTrendApproval rt r) := by
  unfold requestTrendApproval
  split
  · exact .refl r
  · exact .of (.request (trendApprovalRequest rt) _ rfl rfl rfl)

/-- The record that is saved when the pass stops at the task at position `i`. -/
def pausedState (rt : Runtime) (r : ProjectRecord) (i : Nat) : ProjectRecord :=
  { r.state with
    project := { r.project with status := .waitingApproval }
    tasks := r.tasks.modify i (Task.withStatus .waitingApproval)
    approvals := if hasPendingApproval r .externalApiSend then r.approvals
      else r.approvals ++ [trendApprovalRequest rt]
    checkpoints := upsertBy Checkpoint.id (approvalCheckpoint r.project.id) r.checkpoints }

theorem upsertCheckpoint_state (r : ProjectRecord) (checkpoint : Checkpoint) :
    (upsertCheckpoint r checkpoint).state =
      { r.state with checkpoints := upsertBy Checkpoint.id checkpoint r.checkpoints } := rfl

/-- The record in front of the last transition of the pause. -/
def askedForApproval (rt : Runtime) (actor : ActorContext) (r : ProjectRecord) (i : Nat) :
    ProjectRecord :=
  let waiting := setTaskStatus rt (setTaskStatus rt r i .inProgress actor "") i .waitingApproval
    actor "Required action approval is missing."
  let requested := requestTrendApproval rt waiting
  upsertCheckpoint requested (approvalCheckpoint requested.project.id)

theorem askedForApproval_state (r : ProjectRecord) (i : Nat) :
    (askedForApproval rt actor r i).state = { pausedState rt r i with project := r.project } := by
  have hstart := setTaskStatus_state rt r i .inProgress actor ""
  have htasks := ProjectRecord.tasks_of_state hstart
  have hwaiting : (setTaskStatus rt (setTaskStatus rt r i .inProgress actor "") i .waitingApproval
      actor "Required action approval is missing.").state = { r.state with
        tasks := r.tasks.modify i (Task.withStatus .waitingApproval) } := by
    rw [setTaskStatus_state, hstart, htasks, List.modify_modify_eq]
    rfl
  have hrequested := requestTrendApproval_state rt (setTaskStatus rt
    (setTaskStatus rt r i .inProgress actor "") i .waitingApproval actor
    "Required action approval is missing.")
  rw [hwaiting, hasPendingApproval, ProjectRecord.approvals_of_state hwaiting] at hrequested
  have hproject := ProjectRecord.project_of_state hrequested
  have hcheckpoints := ProjectRecord.checkpoints_of_state hrequested
  rw [askedForApproval, upsertCheckpoint_state, hrequested, hproject, hcheckpoints]
  rfl

theorem edits_askedForApproval (r : ProjectRecord) (i : Nat) :
    Edits nobody r (askedForApproval rt actor r i) :=
  (((edits_setTaskStatus rt _ _ _ _).trans (edits_setTaskStatus rt _ _ _ _)).trans
    (edits_requestTrendApproval rt _)).trans (edits_upsertCheckpoint _)

/-- A pass in progress can always stop, and saves the record with the request. -/
theorem pauseForApproval_eq_ok {r : ProjectRecord} (i : Nat)
    (hstatus : r.project.status = .inProgress) :
    ∃ completion r', pauseForApproval rt (setTaskStatus rt r i .inProgress actor "") i actor =
        .ok completion ∧ completion.saved = some r' ∧ r'.state = pausedState rt r i ∧
      Edits nobody r r' := by
  have hasked := askedForApproval_state rt actor r i
  have hproject : (askedForApproval rt actor r i).project = r.project :=
    (ProjectRecord.project_of_state hasked :)
  have hcan : canTransition (askedForApproval rt actor r i).project.status .waitingApproval =
      true := by
    rw [hproject, hstatus]
    rfl
  obtain ⟨r', htransition, hstate⟩ := transition_of_can rt (askedForApproval rt actor r i) actor
    "Execution paused for approval." hcan
  have hpause : ∃ completion, pauseForApproval rt (setTaskStatus rt r i .inProgress actor "") i
      actor = .ok completion ∧ completion.saved = some r' := by
    show ∃ completion, (transition rt (askedForApproval rt actor r i) .waitingApproval actor
      "Execution paused for approval." >>= _) = Except.ok completion ∧ _
    rw [htransition, ok_bind]
    exact ⟨_, rfl, rfl⟩
  obtain ⟨completion, hcompletion, hsaved⟩ := hpause
  refine ⟨completion, r', hcompletion, hsaved, ?_,
    (edits_askedForApproval rt actor r i).trans (edits_transition rt htransition)⟩
  rw [hstate, hasked, hproject]
  rfl

/-! ## The end of a pass -/

/-- The record that is saved after a failed review. -/
def revisionState (r : ProjectRecord) : ProjectRecord :=
  { r.state with project := { r.project with status := .revisionRequested } }

/-- The record that is saved when the project is delivered. -/
def deliveredState (r : ProjectRecord) : ProjectRecord :=
  { r.state with
    project := { r.project with status := .completed }
    checkpoints := upsertBy Checkpoint.id (deliveryCheckpoint r.project.id) r.checkpoints }

theorem requestRevision_eq_ok {r : ProjectRecord} (hstatus : r.project.status = .inProgress) :
    ∃ completion r', requestRevision rt r actor = .ok completion ∧ completion.saved = some r' ∧
      r'.state = revisionState r ∧ Edits nobody r r' := by
  have hcan : canTransition r.project.status .reviewFailed = true := by rw [hstatus]; rfl
  obtain ⟨r₁, hfirst, hstate₁⟩ := transition_of_can rt r actor "Review returned blocking findings."
    hcan
  have hproject : r₁.project = { r.project with status := .reviewFailed } :=
    (ProjectRecord.project_of_state hstate₁ :)
  have hcan₁ : canTransition r₁.project.status .revisionRequested = true := by rw [hproject]; rfl
  obtain ⟨r₂, hsecond, hstate₂⟩ := transition_of_can rt r₁ actor
    "Revision requested after review failure." hcan₁
  unfold requestRevision
  rw [hfirst, ok_bind, hsecond, ok_bind]
  refine ⟨_, _, rfl, rfl, ?_, ?_⟩
  · rw [recordEvent_state, hstate₂, hstate₁, hproject]
    rfl
  · exact ((edits_transition rt hfirst).trans (edits_transition rt hsecond)).trans
      (edits_recordEvent rt rfl)

theorem completeDelivery_eq_ok {r : ProjectRecord} (hstatus : r.project.status = .inProgress) :
    ∃ completion r', completeDelivery rt r actor = .ok completion ∧ completion.saved = some r' ∧
      r'.state = deliveredState r ∧ Edits nobody r r' := by
  have hcan : canTransition
      (upsertCheckpoint r (deliveryCheckpoint r.project.id)).project.status .completed = true := by
    show canTransition r.project.status .completed = true
    rw [hstatus]
    rfl
  obtain ⟨r', htransition, hstate⟩ := transition_of_can rt
    (upsertCheckpoint r (deliveryCheckpoint r.project.id)) actor
    "Execution finished without blocking review findings." hcan
  have hdelivery : ∃ completion, completeDelivery rt r actor = .ok completion ∧
      completion.saved = some r' := by
    unfold completeDelivery
    dsimp only
    rw [htransition, ok_bind]
    exact ⟨_, rfl, rfl⟩
  obtain ⟨completion, hcompletion, hsaved⟩ := hdelivery
  refine ⟨completion, r', hcompletion, hsaved, ?_, ?_⟩
  · rw [hstate]
    rfl
  · exact (edits_upsertCheckpoint _).trans (edits_transition rt htransition)

/-- The pass over the plan of `r`, up to the record that is saved. -/
inductive Executed (rt : Runtime) (provider : TrendProvider)
    (approvedActionSet : Finset ApprovalActionType) (simulateReviewFailure : Bool)
    (r r' : ProjectRecord) : Prop where
  | paused {front back : List Task} {task : Task} {s : LoopState}
      (cut : r.tasks = front ++ task :: back)
      (rounds : Rounds provider approvedActionSet simulateReviewFailure 0 front { record := r } s)
      (trend : task.department = .trend) (unfinished : task.Unfinished)
      (missing : trendApprovalMissing provider approvedActionSet = true)
      (state : r'.state = pausedState rt s.record front.length)
  | revised {s : LoopState}
      (rounds : Rounds provider approvedActionSet simulateReviewFailure 0 r.tasks { record := r } s)
      (failed : (s.reviewRan && s.currentCycleReviewFailed) = true)
      (state : r'.state = revisionState s.record)
  | delivered {s : LoopState}
      (rounds : Rounds provider approvedActionSet simulateReviewFailure 0 r.tasks { record := r } s)
      (passed : (s.reviewRan && s.currentCycleReviewFailed) = false)
      (state : r'.state = deliveredState s.record)

theorem Rounds.project {i : Nat} {tasks : List Task} {s s' : LoopState}
    (h : Rounds provider approvedActionSet simulateReviewFailure i tasks s s') :
    s'.record.project = s.record.project := by
  induction h with
  | nil => rfl
  | cons first _ ih => exact ih.trans first.project

theorem Rounds.approvals {i : Nat} {tasks : List Task} {s s' : LoopState}
    (h : Rounds provider approvedActionSet simulateReviewFailure i tasks s s') :
    s'.record.approvals = s.record.approvals := by
  induction h with
  | nil => rfl
  | cons first _ ih => exact ih.trans (congrArg ProjectRecord.approvals first.state :)

theorem Rounds.checkpoints {i : Nat} {tasks : List Task} {s s' : LoopState}
    (h : Rounds provider approvedActionSet simulateReviewFailure i tasks s s') :
    s'.record.checkpoints = s.record.checkpoints := by
  induction h with
  | nil => rfl
  | cons first _ ih => exact ih.trans (congrArg ProjectRecord.checkpoints first.state :)

section Paused

variable {rt} {r r' : ProjectRecord} {front : List Task} {s : LoopState} {i : Nat}

/-- A pass that pauses changes nothing of the project but its status. -/
theorem Rounds.paused_project
    (h : Rounds provider approvedActionSet simulateReviewFailure 0 front { record := r } s)
    (hstate : r'.state = pausedState rt s.record i) :
    r'.project = { r.project with status := .waitingApproval } := by
  rw [ProjectRecord.project_of_state hstate]
  show ({ s.record.project with status := .waitingApproval } : Project) = _
  rw [h.project]

/-- A pass that pauses writes the approval checkpoint anew. -/
theorem Rounds.paused_checkpoints
    (h : Rounds provider approvedActionSet simulateReviewFailure 0 front { record := r } s)
    (hstate : r'.state = pausedState rt s.record i) : r'.checkpoints =
      upsertBy Checkpoint.id (approvalCheckpoint r.project.id) r.checkpoints := by
  rw [ProjectRecord.checkpoints_of_state hstate]
  show upsertBy Checkpoint.id (approvalCheckpoint s.record.project.id) s.record.checkpoints = _
  rw [h.project, h.checkpoints]

/-- A pass that pauses asks for the external send, unless it has been asked for. -/
theorem Rounds.paused_approvals
    (h : Rounds provider approvedActionSet simulateReviewFailure 0 front { record := r } s)
    (hstate : r'.state = pausedState rt s.record i) : r'.approvals =
      if hasPendingApproval r .externalApiSend then r.approvals
      else r.approvals ++ [trendApprovalRequest rt] := by
  rw [ProjectRecord.approvals_of_state hstate]
  show (if hasPendingApproval s.record .externalApiSend then s.record.approvals
    else s.record.approvals ++ [trendApprovalRequest rt]) = _
  rw [hasPendingApproval, hasPendingApproval, h.approvals]

end Paused

/-- The end of a pass that went through. -/
theorem finish_eq_ok {s : LoopState} (hstatus : s.record.project.status = .inProgress) :
    ∃ completion r',
      (if s.reviewRan && s.currentCycleReviewFailed then requestRevision rt s.record actor
        else completeDelivery rt s.record actor) = .ok completion ∧ completion.saved = some r' ∧
      r'.state = (if s.reviewRan && s.currentCycleReviewFailed then revisionState s.record
        else deliveredState s.record) ∧ Edits nobody s.record r' := by
  cases s.reviewRan && s.currentCycleReviewFailed with
  | false => exact completeDelivery_eq_ok rt actor hstatus
  | true => exact requestRevision_eq_ok rt actor hstatus

variable {rt} {actor} in
/-- A pass that does not raise, from a record in progress. -/
theorem executed_of_ok {r : ProjectRecord} {trendProviderName : String} {completion : Completion}
    (hstatus : r.project.status = .inProgress)
    (h : executePendingTasks rt r trendProviderName approvedActionSet simulateReviewFailure actor =
      .ok completion) :
    ∃ provider r', rt.getTrendProvider trendProviderName = .ok provider ∧
      completion.saved = some r' ∧ Edits nobody r r' ∧
      Executed rt provider approvedActionSet simulateReviewFailure r r' := by
  unfold executePendingTasks at h
  obtain ⟨provider, hprovider, h⟩ := bind_eq_ok.mp h
  obtain ⟨exit, htasks, h⟩ := bind_eq_ok.mp h
  refine ⟨provider, ?_⟩
  have hname : rt.getTrendProvider trendProviderName = .ok provider := by
    cases hget : rt.getTrendProvider trendProviderName with
    | error e =>
        rw [hget] at hprovider
        cases hprovider
    | ok p =>
        rw [hget] at hprovider
        cases hprovider
        rfl
  have hcut : ({ record := r } : LoopState).record.tasks = [] ++ r.tasks := rfl
  -- the transitions at the end of a pass in progress are allowed, so the end is known to be saved
  rcases executeTasks_cases hcut htasks with ⟨s, rfl, hrounds⟩ |
    ⟨front, task, back, s, c, rfl, hsplit, hfront, htrend, hopen, hmissing, hpause⟩
  · have hs : s.record.project.status = .inProgress := by rw [hrounds.project]; exact hstatus
    obtain ⟨c, r', hend, hsaved, hstate, hedits⟩ := finish_eq_ok rt actor hs
    have hc : completion = c := Except.ok.inj (h.symm.trans hend)
    subst hc
    refine ⟨r', hname, hsaved, hrounds.edits.trans hedits, ?_⟩
    cases hfailed : s.reviewRan && s.currentCycleReviewFailed with
    | false =>
        rw [hfailed] at hstate
        exact .delivered hrounds hfailed hstate
    | true =>
        rw [hfailed] at hstate
        exact .revised hrounds hfailed hstate
  · have hs : s.record.project.status = .inProgress := by rw [hfront.project]; exact hstatus
    rw [List.length_nil, Nat.zero_add] at hpause
    obtain ⟨c', r', hpause', hsaved, hstate, hedits⟩ :=
      pauseForApproval_eq_ok rt actor front.length hs
    have hc : completion = c' := by
      have hcc : c = c' := Except.ok.inj (hpause.symm.trans hpause')
      rw [← hcc]
      exact (Except.ok.inj h).symm
    subst hc
    exact ⟨r', hname, hsaved, hfront.edits.trans hedits,
      .paused hsplit hfront htrend hopen hmissing hstate⟩

/-! ## A pass that does not raise -/

variable (simulateReviewFailure) (approvedActionSet)

theorem trendAgentRun_answers (hanswers : provider.Answers) (task : Task) (brief : ProjectBrief) :
    ∃ artifact, Action.lift (trendAgentRun provider task brief) = .ok artifact := by
  obtain ⟨trend, hanalyze, -⟩ := hanswers (trendRequest brief)
  unfold trendAgentRun
  rw [hanalyze]
  exact ⟨_, rfl⟩

theorem executeTask_answers (hanswers : provider.Answers) (i : Nat) (task : Task) {s : LoopState}
    (hstatus : s.record.project.status = .inProgress) :
    ∃ exit, executeTask rt provider approvedActionSet simulateReviewFailure actor i task s =
      .ok exit := by
  unfold executeTask
  split
  · exact ⟨_, rfl⟩
  · dsimp only
    split
    · exact ⟨_, rfl⟩
    · exact ⟨_, rfl⟩
    · exact ⟨_, rfl⟩
    · split
      -- only the trend task can raise, and a provider that answers does not
      · obtain ⟨completion, r', hpause, -⟩ :=
          pauseForApproval_eq_ok rt actor i hstatus
        rw [hpause]
        exact ⟨_, rfl⟩
      · obtain ⟨artifact, hartifact⟩ := trendAgentRun_answers hanswers task
          (setTaskStatus rt s.record i .inProgress actor "").project.brief
        rw [hartifact]
        exact ⟨_, rfl⟩
    · exact ⟨_, rfl⟩

theorem executeTasks_answers (hanswers : provider.Answers) {seen tasks : List Task} {s : LoopState}
    (hs : s.record.tasks = seen ++ tasks) (hstatus : s.record.project.status = .inProgress) :
    ∃ exit, executeTasks rt provider approvedActionSet simulateReviewFailure actor seen.length tasks
      s = .ok exit := by
  induction tasks generalizing seen s with
  | nil => exact ⟨_, rfl⟩
  | cons task rest ih =>
      obtain ⟨roundExit, hround⟩ := executeTask_answers rt
        simulateReviewFailure approvedActionSet actor hanswers seen.length task hstatus
      rw [executeTasks, hround, ok_bind]
      cases roundExit with
      | paused completion => exact ⟨_, rfl⟩
      | finished s₁ =>
          have hi : s.record.tasks[seen.length]? = some task := by rw [hs, Loops.get_at_cut]
          have first := round_of_executeTask hi hround
          have hlen : seen.length + 1 = (seen ++ [task.withStatus .done]).length := by simp
          dsimp only
          rw [hlen]
          exact ih (first.tasks_at_cut hs) (by rw [first.project]; exact hstatus)

/-- With a provider that answers, a pass from a record in progress returns. -/
theorem executePendingTasks_answers {r : ProjectRecord} {trendProviderName : String}
    (hstatus : r.project.status = .inProgress)
    (hprovider : rt.getTrendProvider trendProviderName = .ok provider)
    (hanswers : provider.Answers) :
    ∃ completion, executePendingTasks rt r trendProviderName approvedActionSet simulateReviewFailure
      actor = .ok completion := by
  have hcut : ({ record := r } : LoopState).record.tasks = [] ++ r.tasks := rfl
  obtain ⟨exit, htasks⟩ := executeTasks_answers rt
    simulateReviewFailure approvedActionSet actor hanswers hcut hstatus
  unfold executePendingTasks
  have hcases := executeTasks_cases hcut htasks
  rw [List.length_nil] at htasks
  rw [hprovider, Action.lift, ok_bind, htasks, ok_bind]
  rcases hcases with ⟨s, rfl, hrounds⟩ | ⟨_, _, _, _, c, rfl, -⟩
  · have hs : s.record.project.status = .inProgress := by rw [hrounds.project]; exact hstatus
    obtain ⟨c, r', hend, -⟩ := finish_eq_ok rt actor hs
    exact ⟨c, hend⟩
  · exact ⟨c, rfl⟩

end

end CodexOrchestrator
