import CodexOrchestrator.Orchestrator.Passes
import CodexOrchestrator.Lifecycle

/-!
# Identifiers — the keys of the stored lists

Every list of a record is written to a table whose key is the id together with the project.  Tasks,
artifacts and checkpoints are updated by id and requests draw a fresh one, but a review is appended
under an id made from its task: a second review of a project repeats the id of the first.
-/

namespace CodexOrchestrator

/-- The ids are distinct within each list. -/
structure DistinctIds (r : ProjectRecord) : Prop where
  tasks : (r.tasks.map Task.id).Nodup
  artifacts : (r.artifacts.map Artifact.id).Nodup
  reviews : (r.reviews.map Review.id).Nodup
  checkpoints : (r.checkpoints.map Checkpoint.id).Nodup
  approvals : (r.approvals.map ApprovalRequest.id).Nodup

/-- A pass over `tasks` gets to an unfinished review task. -/
def ReachesReview (provider : TrendProvider) (approvedActionSet : Finset ApprovalActionType)
    (tasks : List Task) : Prop :=
  ∃ front task back, tasks = front ++ task :: back ∧ task.department = .review ∧ task.Unfinished ∧
    ∀ t ∈ front, t.department = .trend → t.Unfinished →
      trendApprovalMissing provider approvedActionSet = false

/-- The call starts no pass that gets to the review of a project that has been reviewed before. -/
def ReviewsOnce (repository : InMemoryProjectRepository) (call : Call) : Prop :=
  ∀ projectId operation record provider approved tasks,
    call.operation = .onProject projectId operation → repository.get projectId = some record →
    Starts call.env.runtime record operation provider approved tasks →
    ReachesReview provider approved tasks → record.reviews = []

/-! ## One pass -/

section Pass

variable {rt : Runtime} {provider : TrendProvider} {approvedActionSet : Finset ApprovalActionType}
  {simulateReviewFailure : Bool} {r r' : ProjectRecord}

/-- The ids of the reviews that a task list can write. -/
def reviewIds (tasks : List Task) : List String := tasks.map fun task => "review-" ++ task.id

theorem nodup_reviewIds {tasks : List Task} (h : (tasks.map Task.id).Nodup) :
    (reviewIds tasks).Nodup := by
  have hmap : reviewIds tasks = (tasks.map Task.id).map fun id => "review-" ++ id := by
    rw [List.map_map]
    rfl
  rw [hmap]
  exact h.map fun _ _ he => PyText.append_left_cancel he

/-- What the rounds of the first tasks of a pass write. -/
theorem Rounds.written {front : List Task} {s s' : LoopState}
    (h : Rounds provider approvedActionSet simulateReviewFailure 0 front s s') (back : List Task) :
    ∃ written, s'.record.reviews = s.record.reviews ++ written ∧
      (written.map Review.id).Sublist (reviewIds (front ++ back)) ∧
      (written ≠ [] → ReachesReview provider approvedActionSet (front ++ back)) := by
  obtain ⟨written, hreviews, hids⟩ := h.reviews
  refine ⟨written, hreviews, ?_, fun hne => ?_⟩
  · rw [hids]
    exact (List.filter_sublist.trans (List.sublist_append_left _ _)).map _
  · have hopen : openReviews front ≠ [] := by
      intro hnil
      rw [hnil, List.map_nil, List.map_eq_nil_iff] at hids
      exact hne hids
    obtain ⟨task, hmem⟩ := List.exists_mem_of_ne_nil _ hopen
    obtain ⟨hmem, htask⟩ := List.mem_filter.mp hmem
    obtain ⟨hreview, hunfinished⟩ := of_decide_eq_true htask
    obtain ⟨before, after, hsplit⟩ := List.append_of_mem hmem
    refine ⟨before, task, after ++ back, by rw [hsplit, List.append_assoc, List.cons_append], hreview,
      hunfinished, fun t ht => ?_⟩
    exact h.gate t (by rw [hsplit]; exact List.mem_append_left _ ht)

theorem Executed.reviews
    (h : Executed rt provider approvedActionSet simulateReviewFailure r r') :
    ∃ written, r'.reviews = r.reviews ++ written ∧
      (written.map Review.id).Sublist (reviewIds r.tasks) ∧
      (written ≠ [] → ReachesReview provider approvedActionSet r.tasks) := by
  cases h with
  | paused cut rounds trend unfinished missing state =>
      rw [ProjectRecord.reviews_of_state state, cut]
      exact rounds.written _
  | revised rounds failed state =>
      rw [ProjectRecord.reviews_of_state state]
      have hwritten := rounds.written []
      rw [List.append_nil] at hwritten
      exact hwritten
  | delivered rounds passed state =>
      rw [ProjectRecord.reviews_of_state state]
      have hwritten := rounds.written []
      rw [List.append_nil] at hwritten
      exact hwritten

theorem Executed.nodup_checkpoints
    (h : Executed rt provider approvedActionSet simulateReviewFailure r r')
    (hr : (r.checkpoints.map Checkpoint.id).Nodup) : (r'.checkpoints.map Checkpoint.id).Nodup := by
  cases h with
  | paused cut rounds trend unfinished missing state =>
      rw [ProjectRecord.checkpoints_of_state state]
      exact nodup_upsertBy _ (rounds.checkpoints ▸ hr)
  | revised rounds failed state =>
      rw [ProjectRecord.checkpoints_of_state state]
      exact rounds.checkpoints ▸ hr
  | delivered rounds passed state =>
      rw [ProjectRecord.checkpoints_of_state state]
      exact nodup_upsertBy _ (rounds.checkpoints ▸ hr)

end Pass

/-! ## Runs -/

section Runs

variable {rt : Runtime} {r r' mid : ProjectRecord} {calls : List Call} {call : Call}

theorem Starts.tasks_ids {operation : ProjectOperation} {provider : TrendProvider}
    {approved : Finset ApprovalActionType} {tasks : List Task}
    (h : Starts rt r operation provider approved tasks) :
    tasks.map Task.id = r.tasks.map Task.id := by
  have hedit : ∀ edit : Task → Task, (∀ task, (edit task).id = task.id) →
      (r.tasks.map edit).map Task.id = r.tasks.map Task.id := by
    intro edit hid
    rw [List.map_map]
    exact List.map_congr_left fun task _ => hid task
  cases h with
  | approval => exact hedit _ (Task.move_id .pending none)
  | revision => exact hedit _ (Task.reset_id _ .pending _)
  | replanning => exact hedit _ (Task.reset_id _ .pending none)

/-- The ids of the lists that are not bound to the plan; every request drew its id in a call. -/
structure Identified (calls : List Call) (r : ProjectRecord) : Prop where
  reviews : (r.reviews.map Review.id).Nodup
  checkpoints : (r.checkpoints.map Checkpoint.id).Nodup
  approvals : (r.approvals.map ApprovalRequest.id).Nodup
  drawn : ∀ id ∈ r.approvals.map ApprovalRequest.id, ∃ call ∈ calls,
    id = "approval-" ++ call.env.approvalUuid

theorem Identified.prepared (h : Identified calls r) (hprepared : Prepared r r') :
    Identified calls r' := by
  refine ⟨?_, ?_, ?_, ?_⟩
  · rw [hprepared.reviews]
    exact h.reviews
  · rw [hprepared.checkpoints]
    exact h.checkpoints
  · rw [hprepared.approvals]
    exact h.approvals
  · rw [hprepared.approvals]
    exact h.drawn

theorem Identified.later (h : Identified calls r) (call : Call) : Identified (calls ++ [call]) r :=
  ⟨h.reviews, h.checkpoints, h.approvals, fun id hid => by
    obtain ⟨drawer, hmem, he⟩ := h.drawn id hid
    exact ⟨drawer, List.mem_append_left _ hmem, he⟩⟩

/-- A pass keeps the ids apart, when it reviews a project that has no review yet. -/
theorem Identified.executed {provider : TrendProvider} {approved : Finset ApprovalActionType}
    {simulateReviewFailure : Bool} (h : Identified calls r) (htasks : (r.tasks.map Task.id).Nodup)
    (honce : ReachesReview provider approved r.tasks → r.reviews = [])
    (hfresh : ((calls ++ [call]).map fun c => c.env.approvalUuid).Nodup)
    (hexecuted : Executed call.env.runtime provider approved simulateReviewFailure r r') :
    Identified (calls ++ [call]) r' := by
  -- an old request with this id would have been drawn by an earlier call
  have hnew : "approval-" ++ call.env.approvalUuid ∉ r.approvals.map ApprovalRequest.id := by
    intro hid
    obtain ⟨drawer, hmem, he⟩ := h.drawn _ hid
    rw [List.map_append, List.map_singleton] at hfresh
    have hdisjoint := (List.nodup_append.mp hfresh).2.2
    exact hdisjoint _ (List.mem_map_of_mem hmem) _ (List.mem_singleton_self _)
      (PyText.append_left_cancel he).symm
  refine ⟨?_, hexecuted.nodup_checkpoints h.checkpoints, ?_, ?_⟩
  · obtain ⟨written, hreviews, hsublist, hreaches⟩ := hexecuted.reviews
    rw [hreviews]
    -- a pass that writes reviews is the first one to do so
    by_cases hnone : written = []
    · rw [hnone, List.append_nil]
      exact h.reviews
    · rw [honce (hreaches hnone), List.nil_append]
      exact (nodup_reviewIds htasks).sublist hsublist
  · rcases hexecuted.approvals with happrovals | happrovals
    · rw [happrovals]
      exact h.approvals
    · rw [happrovals, List.map_append, List.map_singleton]
      refine List.nodup_append.mpr ⟨h.approvals, List.nodup_singleton _, ?_⟩
      intro id hid other hother he
      have hrequest : id = "approval-" ++ call.env.approvalUuid :=
        he.trans (List.mem_singleton.mp hother)
      exact hnew (hrequest ▸ hid)
  · intro id hid
    rcases hexecuted.approvals with happrovals | happrovals
    · rw [happrovals] at hid
      exact (h.later call).drawn id hid
    · rw [happrovals, List.map_append, List.map_singleton] at hid
      rcases List.mem_append.mp hid with hid | hid
      · exact (h.later call).drawn id hid
      · exact ⟨call, List.mem_append_right _ (List.mem_singleton_self _), List.mem_singleton.mp hid⟩

theorem OnLane.task_ids {lane : Lane} (h : OnLane lane r) :
    r.tasks.map Task.id = buildPlan.map Task.id := by
  have hstages := congrArg (List.map fun stage : Stage => stage.1.id) h.tasks
  rw [ProjectRecord.stages, List.map_map] at hstages
  have hplan : (planStages lane.taskStatuses).map (fun stage => stage.1.id) =
      buildPlan.map Task.id := by
    cases lane <;> rfl
  rw [hplan] at hstages
  exact hstages

theorem nodup_planIds : (buildPlan.map Task.id).Nodup := by decide

/-- The record that `run` stores. -/
theorem identified_run {args : RunArgs} (h : RunSaved call.env.runtime args r')
    (hfresh : ((calls ++ [call]).map fun c => c.env.approvalUuid).Nodup) :
    Identified (calls ++ [call]) r' := by
  obtain ⟨approved, started, completion, -, hstate, -, hexecuted, hsaved⟩ := h.started
  obtain ⟨provider, -, -, hpass⟩ := executed_of_saved
    (by rw [(ProjectRecord.project_of_state hstate :)]) hexecuted hsaved
  have hreviews : started.reviews = [] := (ProjectRecord.reviews_of_state hstate :)
  have hcheckpoints : started.checkpoints = [] := (ProjectRecord.checkpoints_of_state hstate :)
  have happrovals : started.approvals = [] := (ProjectRecord.approvals_of_state hstate :)
  have htasks : started.tasks = buildPlan := (ProjectRecord.tasks_of_state hstate :)
  have hstart : Identified calls started := by
    refine ⟨?_, ?_, ?_, ?_⟩
    · rw [hreviews]
      exact List.nodup_nil
    · rw [hcheckpoints]
      exact List.nodup_nil
    · rw [happrovals]
      exact List.nodup_nil
    · rw [happrovals]
      exact fun id hid => absurd hid List.not_mem_nil
  exact hstart.executed (by rw [htasks]; exact nodup_planIds) (fun _ => hreviews) hfresh hpass

theorem stored_identified {projectId : String} {record : ProjectRecord}
    (honce : Runs.EachStep Call.step .new ReviewsOnce calls)
    (hfresh : (calls.map fun c => c.env.approvalUuid).Nodup)
    (hget : (afterCalls calls).get projectId = some record) : Identified calls record := by
  have hrule := @stored_trace_of_steps
    (fun calls _ record => (calls.map fun c => c.env.approvalUuid).Nodup → Identified calls record)
    ReviewsOnce ?_ ?_ calls honce projectId record hget
  · exact hrule hfresh
  · intro calls call _ record h hfresh
    rw [List.map_append] at hfresh
    exact (h (List.nodup_append.mp hfresh).1).later call
  · intro calls call record hinv honce hsaved _ hfresh
    have hbefore : (calls.map fun c => c.env.approvalUuid).Nodup := by
      rw [List.map_append] at hfresh
      exact (List.nodup_append.mp hfresh).1
    rcases Operation.saved_cases hsaved with ⟨args, -, h⟩ | ⟨id, op, loaded, hop, hloaded, h⟩ |
      ⟨id, actor, loaded, -, hloaded, he⟩ | ⟨id, reason, loaded, -, hloaded, he⟩
    · exact identified_run (saved_run h) hfresh
    · have hidentified := hinv id loaded hloaded hbefore
      rcases saved_pass h with hprepared | ⟨mid, provider, approved, hprepared, hstarts, hexecuted⟩
      · exact (hidentified.prepared hprepared).later call
      · obtain ⟨lane, hlane⟩ := stored_lane hloaded
        -- the pass keeps the ids of the plan
        have htasks : (mid.tasks.map Task.id).Nodup := by
          rw [hstarts.tasks_ids, hlane.task_ids]
          exact nodup_planIds
        refine (hidentified.prepared hprepared).executed htasks (fun hreaches => ?_) hfresh hexecuted
        rw [hprepared.reviews]
        exact honce id op loaded provider approved mid.tasks hop hloaded hstarts hreaches
    · have hsame : record.state = loaded.state := by rw [he]; rfl
      exact ((hinv id loaded hloaded hbefore).prepared (.of_same hsame)).later call
    · have hsame : record.state = loaded.state := by rw [he]; rfl
      exact ((hinv id loaded hloaded hbefore).prepared (.of_same hsame)).later call

/-- In a run with fresh uuids, in which no call gets to the review of a project that has been
    reviewed before, every record handed to the repository has distinct ids in each list. -/
theorem saved_distinctIds {record : ProjectRecord}
    (honce : Runs.EachStep Call.step .new ReviewsOnce (calls ++ [call]))
    (hfresh : ((calls ++ [call]).map fun c => c.env.approvalUuid).Nodup)
    (hsaved : (call.outcome (afterCalls calls)).saved = some record) : DistinctIds record := by
  have hget : (afterCalls (calls ++ [call])).get record.project.id = some record := by
    rw [afterCalls, Runs.after_concat, Call.step_eq, ← afterCalls, hsaved]
    exact InMemoryProjectRepository.get_save_self _ _
  have hidentified := stored_identified honce hfresh hget
  obtain ⟨lane, hlane⟩ := stored_lane hget
  have htasks : (record.tasks.map Task.id).Nodup := by
    rw [hlane.task_ids]
    exact nodup_planIds
  have hartifacts := hlane.outputs.nodup
  rw [List.map_map] at hartifacts
  exact ⟨htasks, hartifacts, hidentified.reviews, hidentified.checkpoints, hidentified.approvals⟩

end Runs

/-- The approval of the sample run saves a record with distinct ids. -/
theorem saved_distinctIds_sample : ∃ record,
    (sampleApproval.outcome (afterCalls [sampleRun])).saved = some record ∧ DistinctIds record := by
  have hsaved : ((sampleApproval.outcome (afterCalls [sampleRun])).saved).isSome = true := by decide
  obtain ⟨record, hrecord⟩ := Option.isSome_iff_exists.mp hsaved
  have hfirst : ReviewsOnce (afterCalls []) sampleRun := by
    intro projectId operation record provider approved tasks hoperation
    cases hoperation
  have hsecond : ReviewsOnce (afterCalls [sampleRun]) sampleApproval := by
    intro projectId operation record provider approved tasks hoperation hget _ _
    cases hoperation
    have hnone : ((afterCalls [sampleRun]).get "p").all (fun record => record.reviews.isEmpty) =
        true := by decide
    rw [hget] at hnone
    exact List.isEmpty_iff.mp hnone
  have honce : Runs.EachStep Call.step .new ReviewsOnce ([sampleRun] ++ [sampleApproval]) :=
    (Runs.EachStep.nil.concat hfirst).concat hsecond
  exact ⟨record, hrecord, saved_distinctIds honce (by decide) hrecord⟩

/-- A run whose review fails, as the request can ask for. -/
def sampleFailedRun : Call :=
  sampleCall "1" (.run { brief := sampleBrief, simulateReviewFailure := true })

/-- A second review of a project repeats the id of the first. -/
theorem rereview_repeats_id : ∃ record,
    ((sampleRevision .rereview).outcome (afterCalls [sampleFailedRun])).saved = some record ∧
      record.reviews.map Review.id = ["review-task-review", "review-task-review"] ∧
      ¬ DistinctIds record := by
  have hsaved : (((sampleRevision .rereview).outcome (afterCalls [sampleFailedRun])).saved).any
      (fun record => decide (record.reviews.map Review.id =
        ["review-task-review", "review-task-review"])) = true := by decide
  obtain ⟨record, hrecord, hids⟩ := (Option.any_eq_true _ _).mp hsaved
  have hreviews := of_decide_eq_true hids
  refine ⟨record, hrecord, hreviews, fun h => ?_⟩
  have hnodup := h.reviews
  rw [hreviews] at hnodup
  exact absurd hnodup (by decide)

end CodexOrchestrator
