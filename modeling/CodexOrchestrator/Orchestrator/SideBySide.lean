import CodexOrchestrator.Lib.Related
import CodexOrchestrator.Orchestrator.Execute

/-!
# SideBySide — two passes over related records

Two runs of the execution loop start from related records, each with its own runtime and actor.  When
every part of a round keeps the relation, so does the pass: both raise, or both pause or end alike.
-/

open Raise

namespace CodexOrchestrator

/-- The parts of a pass keep `related`; `answered` and `raised` relate how the two passes end. -/
structure PassKeeps (rt rt' : Runtime) (actor actor' : ActorContext)
    (raised : Abort → Abort → Prop) (answered : Completion → Completion → Prop)
    (related : ProjectRecord → ProjectRecord → Prop) : Prop where
  raises : ∀ error : PyError, raised { error } { error }
  brief : ∀ {r r'}, related r r' → r'.project.brief = r.project.brief
  tasks : ∀ {r r'}, related r r' → r'.tasks = r.tasks
  findings : ∀ {r r'} task, related r r' →
    reviewAgentRun task r'.artifacts = reviewAgentRun task r.artifacts
  setTaskStatus : ∀ {r r'} i nextStatus, related r r' →
    related (setTaskStatus rt r i nextStatus actor) (setTaskStatus rt' r' i nextStatus actor')
  upsertArtifact : ∀ {r r'} artifact, related r r' →
    related (upsertArtifact r artifact) (upsertArtifact r' artifact)
  addReview : ∀ {r r'} review, related r r' →
    related { r with reviews := r.reviews ++ [review] } { r' with reviews := r'.reviews ++ [review] }
  pauseForApproval : ∀ {r r'} i, related r r' →
    Related raised answered (pauseForApproval rt r i actor) (pauseForApproval rt' r' i actor')
  requestRevision : ∀ {r r'}, related r r' →
    Related raised answered (requestRevision rt r actor) (requestRevision rt' r' actor')
  completeDelivery : ∀ {r r'}, related r r' →
    Related raised answered (completeDelivery rt r actor) (completeDelivery rt' r' actor')

/-- The states of the two loops, between two rounds. -/
structure LoopsRelated (related : ProjectRecord → ProjectRecord → Prop) (s s' : LoopState) :
    Prop where
  record : related s.record s'.record
  failed : s'.currentCycleReviewFailed = s.currentCycleReviewFailed
  ran : s'.reviewRan = s.reviewRan

/-- Both loops pause, or both go on. -/
inductive ExitsRelated (answered : Completion → Completion → Prop)
    (related : ProjectRecord → ProjectRecord → Prop) : LoopExit → LoopExit → Prop where
  | paused {completion completion' : Completion} (answers : answered completion completion') :
      ExitsRelated answered related (.paused completion) (.paused completion')
  | finished {s s' : LoopState} (same : LoopsRelated related s s') :
      ExitsRelated answered related (.finished s) (.finished s')

namespace PassKeeps

variable {rt rt' : Runtime} {actor actor' : ActorContext} {raised : Abort → Abort → Prop}
  {answered : Completion → Completion → Prop} {related : ProjectRecord → ProjectRecord → Prop}
  {provider : TrendProvider} {approvedActionSet : Finset ApprovalActionType}
  {simulateReviewFailure : Bool} {s s' : LoopState}

/-- Code outside the repository answers both passes the same. -/
theorem lift (keeps : PassKeeps rt rt' actor actor' raised answered related) {α : Type}
    (action : Except PyError α) : Related raised Eq (Action.lift action) (Action.lift action) := by
  cases action with
  | ok a => exact .ok rfl
  | error error => exact .error (keeps.raises error)

theorem finishTask (keeps : PassKeeps rt rt' actor actor' raised answered related)
    {r r' : ProjectRecord} (h : related r r') (failed ran : Bool) (i : Nat) :
    Related raised (ExitsRelated answered related) (.ok (finishTask rt ⟨r, failed, ran⟩ i actor))
      (.ok (CodexOrchestrator.finishTask rt' ⟨r', failed, ran⟩ i actor')) :=
  .ok (.finished ⟨keeps.setTaskStatus i .done h, rfl, rfl⟩)

theorem executeTask (keeps : PassKeeps rt rt' actor actor' raised answered related)
    (h : LoopsRelated related s s') (i : Nat) (task : Task) :
    Related raised (ExitsRelated answered related)
      (executeTask rt provider approvedActionSet simulateReviewFailure actor i task s)
      (CodexOrchestrator.executeTask rt' provider approvedActionSet simulateReviewFailure actor' i
        task s') := by
  obtain ⟨r, failed, ran⟩ := s
  obtain ⟨r', failed', ran'⟩ := s'
  obtain ⟨hrecord, hfailed, hran⟩ := h
  dsimp only at hrecord hfailed hran
  subst hfailed hran
  have hstart := keeps.setTaskStatus i .inProgress hrecord
  unfold CodexOrchestrator.executeTask
  refine .ite Iff.rfl (fun _ => .ok (.finished ⟨hrecord, rfl, rfl⟩)) fun _ => ?_
  dsimp only
  -- both agents read the same brief, so that they write the same artifact
  rw [keeps.brief hstart]
  cases task.department with
  | research => exact keeps.finishTask (keeps.upsertArtifact _ hstart) _ _ i
  | design => exact keeps.finishTask (keeps.upsertArtifact _ hstart) _ _ i
  | build => exact keeps.finishTask (keeps.upsertArtifact _ hstart) _ _ i
  | trend =>
      refine .ite Iff.rfl (fun _ => ?_) fun _ => ?_
      · exact .bind (keeps.pauseForApproval i hstart) fun _ _ hpaused => .ok (.paused hpaused)
      · refine .bind (keeps.lift _) fun artifact artifact' hsame => ?_
        subst hsame
        exact keeps.finishTask (keeps.upsertArtifact artifact hstart) _ _ i
  | review =>
      rw [keeps.findings task hstart]
      exact keeps.finishTask (keeps.addReview _ hstart) _ _ i

theorem executeTasks (keeps : PassKeeps rt rt' actor actor' raised answered related)
    (h : LoopsRelated related s s') (i : Nat) (tasks : List Task) :
    Related raised (ExitsRelated answered related)
      (executeTasks rt provider approvedActionSet simulateReviewFailure actor i tasks s)
      (CodexOrchestrator.executeTasks rt' provider approvedActionSet simulateReviewFailure actor' i
        tasks s') := by
  induction tasks generalizing i s s' with
  | nil => exact .ok (.finished h)
  | cons task rest ih =>
      rw [CodexOrchestrator.executeTasks, CodexOrchestrator.executeTasks]
      refine .bind (keeps.executeTask h i task) fun exit exit' hexit => ?_
      cases hexit with
      | paused answers => exact .ok (.paused answers)
      | finished same => exact ih same (i + 1)

/-- A whole pass, with the provider that each side gets for its name. -/
theorem executePendingTasks {r r' : ProjectRecord} {name name' : String}
    (keeps : PassKeeps rt rt' actor actor' raised answered related) (h : related r r')
    (hprovider : Related raised Eq (Action.lift (rt.getTrendProvider name))
      (Action.lift (rt'.getTrendProvider name'))) :
    Related raised answered
      (executePendingTasks rt r name approvedActionSet simulateReviewFailure actor)
      (CodexOrchestrator.executePendingTasks rt' r' name' approvedActionSet simulateReviewFailure
        actor') := by
  have hstart : LoopsRelated related { record := r } { record := r' } := ⟨h, rfl, rfl⟩
  unfold CodexOrchestrator.executePendingTasks
  refine .bind hprovider fun provider provider' hsame => ?_
  subst hsame
  rw [keeps.tasks h]
  refine .bind (keeps.executeTasks hstart 0 r.tasks) fun exit exit' hexit => ?_
  cases hexit with
  | paused answers => exact .ok answers
  | finished same =>
      dsimp only
      rw [same.ran, same.failed]
      exact .ite Iff.rfl (fun _ => keeps.requestRevision same.record) fun _ =>
        keeps.completeDelivery same.record

end PassKeeps

end CodexOrchestrator
