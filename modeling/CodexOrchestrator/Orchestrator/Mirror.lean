import Mathlib.Data.List.Perm.Basic
import CodexOrchestrator.Lifecycle
import CodexOrchestrator.Orchestrator.SideBySide
import CodexOrchestrator.State.Postgres

/-!
# Mirror — one operation on a record and on its copy in another order

A record that was stored in tables comes back with its artifacts, reviews, checkpoints and requests
in another order, and with other key orders in its JSON.  Every operation does the same on the copy
as on the record: it raises the same, or it answers the same and leaves a copy again.
-/

open PyText Raise

namespace CodexOrchestrator

/-! ## Lists in another order -/

section Lists

variable {α : Type} {key : α → String} {xs ys : List α}

theorem upsertBy_perm (x : α) (h : xs.Perm ys) (hnodup : (xs.map key).Nodup) :
    (upsertBy key x xs).Perm (upsertBy key x ys) := by
  induction h with
  | nil => exact .refl _
  | cons y hrest ih =>
      rw [List.map_cons, List.nodup_cons] at hnodup
      rw [upsertBy, upsertBy]
      split
      · exact hrest.cons x
      · exact (ih hnodup.2).cons y
  | swap y z rest =>
      rw [List.map_cons, List.map_cons, List.nodup_cons, List.mem_cons, not_or] at hnodup
      by_cases hy : key y = key x
      · -- the other element in front has another id
        have hz : ¬ key z = key x := fun hz => hnodup.1.1 (hz.trans hy.symm)
        simp only [upsertBy, hy, hz, if_true, if_false]
        exact .swap _ _ _
      · by_cases hz : key z = key x
        · simp only [upsertBy, hy, hz, if_true, if_false]
          exact .swap _ _ _
        · simp only [upsertBy, hy, hz, if_false]
          exact .swap _ _ _
  | trans h₁ _ ih₁ ih₂ => exact (ih₁ hnodup).trans (ih₂ ((h₁.map key).nodup_iff.mp hnodup))

theorem editCheckpoint_perm {checkpointId : String} {edit : Checkpoint → Checkpoint}
    {checkpoints checkpoints' : List Checkpoint} (h : checkpoints.Perm checkpoints')
    (hnodup : (checkpoints.map Checkpoint.id).Nodup) :
    (editCheckpoint checkpointId edit checkpoints).Perm
      (editCheckpoint checkpointId edit checkpoints') := by
  induction h with
  | nil => exact .refl _
  | cons c hrest ih =>
      rw [List.map_cons, List.nodup_cons] at hnodup
      rw [editCheckpoint, editCheckpoint]
      split
      · exact hrest.cons _
      · exact (ih hnodup.2).cons c
  | swap c d rest =>
      rw [List.map_cons, List.map_cons, List.nodup_cons, List.mem_cons, not_or] at hnodup
      by_cases hc : c.id = checkpointId
      · have hd : ¬ d.id = checkpointId := fun hd => hnodup.1.1 (hd.trans hc.symm)
        simp only [editCheckpoint, hc, hd, if_true, if_false]
        exact .swap _ _ _
      · by_cases hd : d.id = checkpointId
        · simp only [editCheckpoint, hc, hd, if_true, if_false]
          exact .swap _ _ _
        · simp only [editCheckpoint, hc, hd, if_false]
          exact .swap _ _ _
  | trans h₁ _ ih₁ ih₂ =>
      exact (ih₁ hnodup).trans (ih₂ ((h₁.map Checkpoint.id).nodup_iff.mp hnodup))

/-- Overwriting one value, wherever it stands in the two lists. -/
theorem set_perm {i j : Nat} {a b : α} (h : xs.Perm ys) (hi : xs[i]? = some a)
    (hj : ys[j]? = some a) : (xs.set i b).Perm (ys.set j b) := by
  obtain ⟨hi, hia⟩ := List.getElem?_eq_some_iff.mp hi
  obtain ⟨hj, hja⟩ := List.getElem?_eq_some_iff.mp hj
  have hrest : (xs.eraseIdx i).Perm (ys.eraseIdx j) := by
    have hx := List.getElem_cons_eraseIdx_perm hi
    have hy := List.getElem_cons_eraseIdx_perm hj
    rw [hia] at hx
    rw [hja] at hy
    exact (hx.trans (h.trans hy.symm)).cons_inv
  exact (List.set_perm_cons_eraseIdx hi b).trans
    ((hrest.cons b).trans (List.set_perm_cons_eraseIdx hj b).symm)

end Lists

/-! ## The copy of a record -/

/-- `r'` is a copy of `r`, up to the order of some lists and of the keys in the JSON. -/
structure Mirrors (r r' : ProjectRecord) : Prop where
  projectId : r'.project.id = r.project.id
  brief : r'.project.brief = r.project.brief
  status : r'.project.status = r.project.status
  policy : r.project.policy.Same r'.project.policy
  tasks : r'.tasks = r.tasks
  artifacts : (r'.artifacts.map Artifact.canon).Perm (r.artifacts.map Artifact.canon)
  reviews : r'.reviews.Perm r.reviews
  checkpoints : r'.checkpoints.Perm r.checkpoints
  approvals : r'.approvals.Perm r.approvals
  history : r'.history = r.history
  events : r'.events.map HistoryEvent.canon = r.events.map HistoryEvent.canon

/-- A copy that the operations keep: the lists that are updated by id have distinct ids, and the
    rules of the policy are unambiguous. -/
structure Tracks (r r' : ProjectRecord) : Prop extends Mirrors r r' where
  artifactIds : (r'.artifacts.map Artifact.id).Nodup
  checkpointIds : (r'.checkpoints.map Checkpoint.id).Nodup
  unambiguous : Unambiguous r.project.policy.actionRules

structure MirroredResult (result result' : OrchestrationResult) : Prop where
  summary : result'.summary = result.summary
  record : Mirrors result.record result'.record

structure MirroredCompletion (completion completion' : Completion) : Prop where
  saved : Option.Rel Tracks completion.saved completion'.saved
  result : MirroredResult completion.result completion'.result

structure MirroredAbort (abort abort' : Abort) : Prop where
  error : abort'.error = abort.error
  saved : Option.Rel Tracks abort.saved abort'.saved

/-- Both steps raise the same exception, or both answer, and both leave copies. -/
abbrev MirroredStep {α : Type} (answered : α → α → Prop) : Action α → Action α → Prop :=
  Related MirroredAbort answered

theorem mirroredAbort_raised (error : PyError) : MirroredAbort { error } { error } :=
  ⟨rfl, .none⟩

/-- A step that does not look at the record. -/
theorem MirroredStep.refl {α : Type} {action : Action α} (h : action.Quiet) :
    MirroredStep Eq action action := by
  cases action with
  | ok a => exact .ok rfl
  | error abort =>
      refine .error ⟨rfl, ?_⟩
      rw [h abort rfl]
      exact .none

/-! ## Authorization -/

/-- The decision depends on the content of the rules, not on their order. -/
theorem authorizeAction_of_same {policy policy' : ProjectPolicy} (h : policy.Same policy')
    (hu : Unambiguous policy.actionRules) (actionType : ApprovalActionType) (actor : ActorContext)
    (allowList : Option (Dict (List String))) :
    authorizeAction actionType actor (some policy') allowList =
      authorizeAction actionType actor (some policy) allowList := by
  have hrel : Option.Rel ProjectPolicy.Same (some policy) (some policy') := .some h
  -- one key at most matches, whatever the order of the rules is
  have hrule : ruleFor (some policy') actionType = ruleFor (some policy) actionType :=
    (findActionMappingValue_of_same hu h.rules actionType.value).symm
  have hpolicy : resolveEffectivePolicy actionType (some policy') allowList =
      resolveEffectivePolicy actionType (some policy) allowList := by
    rw [resolveEffectivePolicy_eq, resolveEffectivePolicy_eq, hrule, chosenPolicy_of_same hrel]
  unfold authorizeAction
  rw [hpolicy, actorRoles_of_same hrel]

/-! ## Edits -/

section Edits

variable {rt : Runtime} {actor : ActorContext} {r r' : ProjectRecord}

theorem Mirrors.length_events (h : Mirrors r r') : r'.events.length = r.events.length := by
  rw [← List.length_map HistoryEvent.canon, h.events, List.length_map]

theorem Tracks.recordEvent (h : Tracks r r') (eventType : HistoryEventType) (actor : ActorContext)
    (reason : String) (metadata : JsonDict) :
    Tracks (recordEvent rt r eventType actor reason metadata)
      (CodexOrchestrator.recordEvent rt r' eventType actor reason metadata) := by
  refine ⟨⟨h.projectId, h.brief, h.status, h.policy, h.tasks, h.artifacts, h.reviews, h.checkpoints,
    h.approvals, h.history, ?_⟩, h.artifactIds, h.checkpointIds, h.unambiguous⟩
  unfold CodexOrchestrator.recordEvent
  dsimp only
  -- both logs are of one length, so that the clock is read at the same time
  rw [List.map_append, List.map_append, h.events, h.length_events]

theorem Tracks.authorizeAction (h : Tracks r r') (actionType : ApprovalActionType)
    (actor : ActorContext) (allowList : Option (Dict (List String))) :
    authorizeAction actionType actor (some r'.project.policy) allowList =
      CodexOrchestrator.authorizeAction actionType actor (some r.project.policy) allowList :=
  authorizeAction_of_same h.policy h.unambiguous actionType actor allowList

theorem Tracks.recordPolicyOverride (h : Tracks r r') (actionType : ApprovalActionType)
    (reason : String) (decision : AuthorizationDecision) :
    Tracks (recordPolicyOverride rt r actor actionType reason decision)
      (CodexOrchestrator.recordPolicyOverride rt r' actor actionType reason decision) := by
  unfold CodexOrchestrator.recordPolicyOverride
  split
  · exact h.recordEvent _ _ _ _
  · exact h

theorem Tracks.recordAuthorizationGranted (h : Tracks r r') (actionType : ApprovalActionType)
    (decision : AuthorizationDecision) :
    Tracks (recordAuthorizationGranted rt r actor actionType decision)
      (CodexOrchestrator.recordAuthorizationGranted rt r' actor actionType decision) :=
  (h.recordPolicyOverride actionType _ decision).recordEvent _ _ _ _

theorem Tracks.recordAuthorizationDenied (h : Tracks r r') (actionType : ApprovalActionType)
    (decision : AuthorizationDecision) :
    Tracks (recordAuthorizationDenied rt r actor actionType decision)
      (CodexOrchestrator.recordAuthorizationDenied rt r' actor actionType decision) :=
  (h.recordPolicyOverride actionType _ decision).recordEvent _ _ _ _

theorem mirrored_authorizeEach (h : Tracks r r') (allowList : Option (Dict (List String)))
    (actionTypes : List ApprovalActionType) :
    MirroredStep Tracks (authorizeEach rt actor allowList actionTypes r)
      (authorizeEach rt actor allowList actionTypes r') := by
  induction actionTypes generalizing r r' with
  | nil => exact .ok h
  | cons actionType rest ih =>
      rw [authorizeEach, authorizeEach, h.authorizeAction]
      refine .ite Iff.rfl (fun _ => ih (h.recordAuthorizationGranted _ _)) fun _ => ?_
      exact .error ⟨rfl, .some (h.recordAuthorizationDenied _ _)⟩

theorem mirrored_authorizeNewActions (h : Tracks r r') (actions : Finset ApprovalActionType)
    (allowList : Option (Dict (List String))) :
    MirroredStep Tracks (authorizeNewActions rt r actor actions allowList)
      (authorizeNewActions rt r' actor actions allowList) := by
  unfold authorizeNewActions
  exact .ite Iff.rfl (fun _ => .ok h) fun _ => mirrored_authorizeEach h _ _

theorem mirrored_transition (h : Tracks r r') (nextStatus : ProjectStatus) (reason : String) :
    MirroredStep Tracks (transition rt r nextStatus actor reason)
      (transition rt r' nextStatus actor reason) := by
  unfold transition
  dsimp only
  rw [h.status]
  have hmoved : Tracks
      { r with
        history := r.history ++ [renderTransition r.project.status nextStatus]
        project := { r.project with status := nextStatus } }
      { r' with
        history := r'.history ++ [renderTransition r.project.status nextStatus]
        project := { r'.project with status := nextStatus } } := by
    refine ⟨⟨h.projectId, h.brief, rfl, h.policy, h.tasks, h.artifacts, h.reviews, h.checkpoints,
      h.approvals, ?_, h.events⟩, h.artifactIds, h.checkpointIds, h.unambiguous⟩
    dsimp only
    rw [h.history]
  exact .ite Iff.rfl (fun _ => .ok h) fun _ => .ite Iff.rfl
    (fun _ => .ok (hmoved.recordEvent _ _ _ _)) fun _ => .error (mirroredAbort_raised _)

theorem Tracks.withTasks (h : Tracks r r') (tasks : List Task) :
    Tracks { r with tasks } { r' with tasks } :=
  ⟨⟨h.projectId, h.brief, h.status, h.policy, rfl, h.artifacts, h.reviews, h.checkpoints, h.approvals,
    h.history, h.events⟩, h.artifactIds, h.checkpointIds, h.unambiguous⟩

theorem Tracks.setTaskStatus (h : Tracks r r') (i : Nat) (nextStatus : TaskStatus)
    (reason : String) :
    Tracks (setTaskStatus rt r i nextStatus actor reason)
      (CodexOrchestrator.setTaskStatus rt r' i nextStatus actor reason) := by
  unfold CodexOrchestrator.setTaskStatus
  rw [h.tasks]
  split
  · exact h
  · split
    · exact h
    · exact (h.withTasks _).recordEvent _ _ _ _

theorem Tracks.setTaskNote (h : Tracks r r') (i : Nat) (note : String → String) :
    Tracks (setTaskNote r i note) (CodexOrchestrator.setTaskNote r' i note) := by
  unfold CodexOrchestrator.setTaskNote
  rw [h.tasks]
  exact h.withTasks _

/-- A loop whose rounds keep the copy keeps it. -/
theorem Tracks.foldl {β : Type} {f : ProjectRecord → β → ProjectRecord}
    (hf : ∀ r r' b, Tracks r r' → Tracks (f r b) (f r' b)) (h : Tracks r r') (bs : List β) :
    Tracks (bs.foldl f r) (bs.foldl f r') := by
  induction bs generalizing r r' with
  | nil => exact h
  | cons b rest ih => exact ih (hf r r' b h)

theorem Tracks.resetTasksForDepartments (h : Tracks r r') (departments : List Department)
    (nextStatus : TaskStatus) (reason : String) (noteReason : Option String) :
    Tracks (resetTasksForDepartments rt r departments nextStatus actor reason noteReason)
      (CodexOrchestrator.resetTasksForDepartments rt r' departments nextStatus actor reason
        noteReason) := by
  unfold CodexOrchestrator.resetTasksForDepartments
  rw [h.tasks]
  refine Tracks.foldl (fun s s' entry hs => ?_) h _
  split
  · have hmoved : Tracks (CodexOrchestrator.setTaskStatus rt s entry.2 nextStatus actor reason)
        (CodexOrchestrator.setTaskStatus rt s' entry.2 nextStatus actor reason) :=
      hs.setTaskStatus _ _ _
    cases noteReason with
    | none => exact hmoved
    | some noteReason => exact hmoved.setTaskNote _ _
  · exact hs

theorem Tracks.moveWaitingTasks (h : Tracks r r') (nextStatus : TaskStatus) (reason : String)
    (note : Option String) :
    Tracks (moveWaitingTasks rt r nextStatus actor reason note)
      (CodexOrchestrator.moveWaitingTasks rt r' nextStatus actor reason note) := by
  unfold CodexOrchestrator.moveWaitingTasks
  rw [h.tasks]
  refine Tracks.foldl (fun s s' entry hs => ?_) h _
  split
  · have hmoved : Tracks (CodexOrchestrator.setTaskStatus rt s entry.2 nextStatus actor reason)
        (CodexOrchestrator.setTaskStatus rt s' entry.2 nextStatus actor reason) :=
      hs.setTaskStatus _ _ _
    cases note with
    | none => exact hmoved
    | some note => exact hmoved.setTaskNote _ _
  · exact hs

theorem Tracks.upsertArtifact (h : Tracks r r') (artifact : Artifact) :
    Tracks (upsertArtifact r artifact) (CodexOrchestrator.upsertArtifact r' artifact) := by
  refine ⟨⟨h.projectId, h.brief, h.status, h.policy, h.tasks, ?_, h.reviews, h.checkpoints,
    h.approvals, h.history, h.events⟩, nodup_upsertBy artifact h.artifactIds, h.checkpointIds,
    h.unambiguous⟩
  -- sorting the keys of the content leaves the id
  have hids : ((r'.artifacts.map Artifact.canon).map Artifact.id).Nodup := by
    rw [List.map_map]
    exact h.artifactIds
  show ((upsertBy Artifact.id artifact r'.artifacts).map Artifact.canon).Perm
    ((upsertBy Artifact.id artifact r.artifacts).map Artifact.canon)
  have hmap : ∀ artifacts : List Artifact,
      (upsertBy Artifact.id artifact artifacts).map Artifact.canon =
        upsertBy Artifact.id artifact.canon (artifacts.map Artifact.canon) :=
    @map_upsertBy _ _ Artifact.id Artifact.id Artifact.canon (fun _ => rfl) artifact
  rw [hmap, hmap]
  exact upsertBy_perm _ h.artifacts hids

theorem Tracks.upsertCheckpoint (h : Tracks r r') (checkpoint : Checkpoint) :
    Tracks (upsertCheckpoint r checkpoint) (CodexOrchestrator.upsertCheckpoint r' checkpoint) :=
  ⟨⟨h.projectId, h.brief, h.status, h.policy, h.tasks, h.artifacts, h.reviews,
    upsertBy_perm checkpoint h.checkpoints h.checkpointIds, h.approvals, h.history, h.events⟩,
    h.artifactIds, nodup_upsertBy checkpoint h.checkpointIds, h.unambiguous⟩

theorem Tracks.updateApprovalCheckpoint (h : Tracks r r') (approved : Bool)
    (approver note : String) :
    Tracks (updateApprovalCheckpoint r approved approver note)
      (CodexOrchestrator.updateApprovalCheckpoint r' approved approver note) := by
  have hid : ∀ c : Checkpoint, ({ c with approved, approver, note } : Checkpoint).id = c.id :=
    fun _ => rfl
  unfold CodexOrchestrator.updateApprovalCheckpoint
  rw [h.projectId]
  refine ⟨⟨h.projectId, h.brief, h.status, h.policy, h.tasks, h.artifacts, h.reviews,
    editCheckpoint_perm h.checkpoints h.checkpointIds, h.approvals, h.history, h.events⟩,
    h.artifactIds, ?_, h.unambiguous⟩
  dsimp only
  rw [map_id_editCheckpoint hid]
  exact h.checkpointIds

theorem Tracks.withApprovals (h : Tracks r r') {approvals approvals' : List ApprovalRequest}
    (hperm : approvals'.Perm approvals) : Tracks { r with approvals } { r' with approvals := approvals' } :=
  ⟨⟨h.projectId, h.brief, h.status, h.policy, h.tasks, h.artifacts, h.reviews, h.checkpoints, hperm,
    h.history, h.events⟩, h.artifactIds, h.checkpointIds, h.unambiguous⟩

theorem Mirrors.summary (h : Mirrors r r') (nextSteps : List String) :
    MirroredResult (summary r nextSteps) (CodexOrchestrator.summary r' nextSteps) := by
  refine ⟨?_, h⟩
  have hartifacts : r'.artifacts.length = r.artifacts.length := by
    have hlength := h.artifacts.length_eq
    rwa [List.length_map, List.length_map] at hlength
  unfold CodexOrchestrator.summary
  dsimp only
  rw [h.projectId, h.status, h.tasks, hartifacts]

end Edits

/-! ## Requests and decisions -/

section Requests

variable {rt : Runtime} {actor : ActorContext} {r r' g g' : ProjectRecord}

theorem approvalActionTypes_of_perm (h : r'.approvals.Perm r.approvals) (status : ApprovalStatus) :
    approvalActionTypes r' status = approvalActionTypes r status :=
  List.toFinset_eq_of_perm _ _ ((h.filter _).map _)

theorem knownActions_of_perm (h : r'.approvals.Perm r.approvals) :
    (approvalActionState r').knownActions = (approvalActionState r).knownActions :=
  List.toFinset_eq_of_perm _ _ (h.map _)

theorem hasPendingApproval_of_perm (h : r'.approvals.Perm r.approvals)
    (actionType : ApprovalActionType) :
    hasPendingApproval r' actionType = hasPendingApproval r actionType :=
  h.any_eq

theorem map_fst_pendingApprovals (r : ProjectRecord) :
    (approvalActionState r).pendingApprovals.map Prod.fst = pendingRequests r.approvals := by
  have hfst : r.approvals.zipIdx.map Prod.fst = r.approvals := List.zipIdx_map_fst 0 r.approvals
  rw [pendingRequests]
  conv_rhs => rw [← hfst, List.filter_map]
  rfl

/-- The pending requests of a record and of its copy: none, or one, at some place in each. -/
inductive SamePending (r r' : ProjectRecord) : Prop where
  | none (pending : (approvalActionState r).pendingApprovals = [])
      (pending' : (approvalActionState r').pendingApprovals = []) : SamePending r r'
  | one {approval : ApprovalRequest} {i j : Nat} (found : r.approvals[i]? = some approval)
      (found' : r'.approvals[j]? = some approval)
      (pending : (approvalActionState r).pendingApprovals = [(approval, i)])
      (pending' : (approvalActionState r').pendingApprovals = [(approval, j)]) : SamePending r r'

theorem found_of_pendingApprovals {approval : ApprovalRequest} {i : Nat}
    (h : (approvalActionState r).pendingApprovals = [(approval, i)]) :
    r.approvals[i]? = some approval := by
  have hmem : (approval, i) ∈ (approvalActionState r).pendingApprovals := by
    rw [h]
    exact List.mem_singleton_self _
  exact List.mem_zipIdx_iff_getElem?.mp (List.mem_filter.mp hmem).1

theorem samePending_of_perm (h : r'.approvals.Perm r.approvals)
    (hone : (pendingRequests r.approvals).length ≤ 1) : SamePending r r' := by
  have hperm : (pendingRequests r'.approvals).Perm (pendingRequests r.approvals) := h.filter _
  have hfst := map_fst_pendingApprovals r
  have hfst' := map_fst_pendingApprovals r'
  cases hpending : pendingRequests r.approvals with
  | nil =>
      rw [hpending] at hperm hfst
      rw [hperm.eq_nil] at hfst'
      exact .none (List.map_eq_nil_iff.mp hfst) (List.map_eq_nil_iff.mp hfst')
  | cons approval rest =>
      rw [hpending] at hone hperm hfst
      have hrest : rest = [] := List.length_eq_zero_iff.mp (by simpa using hone)
      rw [hrest] at hperm hfst
      rw [hperm.eq_singleton] at hfst'
      -- one request is pending, so the two loops find it, each at its place
      obtain ⟨⟨approval₁, i⟩, hi, rfl⟩ := List.map_eq_singleton_iff.mp hfst
      obtain ⟨⟨approval₂, j⟩, hj, he⟩ := List.map_eq_singleton_iff.mp hfst'
      dsimp only at he
      subst he
      exact .one (found_of_pendingApprovals hi) (found_of_pendingApprovals hj) hi hj

theorem Tracks.decideApproval (h : Tracks g g') {approval : ApprovalRequest} {i j : Nat}
    (hi : g.approvals[i]? = some approval) (hj : g'.approvals[j]? = some approval)
    (status : ApprovalStatus) (requestedBy decisionNote : String) :
    Tracks (decideApproval g i approval status requestedBy decisionNote)
      (CodexOrchestrator.decideApproval g' j approval status requestedBy decisionNote) :=
  h.withApprovals (set_perm h.approvals hj hi)

theorem Tracks.approvePending (h : Tracks g g') (hpending : SamePending r r')
    (hg : g.approvals = r.approvals) (hg' : g'.approvals = r'.approvals)
    (actions : Finset ApprovalActionType) (note : String) :
    Tracks (approvePending rt g (approvalActionState r).pendingApprovals actions actor note)
      (CodexOrchestrator.approvePending rt g' (approvalActionState r').pendingApprovals actions actor
        note) := by
  unfold CodexOrchestrator.approvePending
  cases hpending with
  | none pending pending' =>
      rw [pending, pending']
      exact h
  | one found found' pending pending' =>
      rw [pending, pending', List.foldl_cons, List.foldl_cons, List.foldl_nil, List.foldl_nil]
      split
      · have hdecided := h.decideApproval (hg ▸ found) (hg' ▸ found') .approved actor.actorId note
        exact (hdecided.updateApprovalCheckpoint _ _ _).recordEvent _ _ _ _
      · exact h

theorem Tracks.rejectPending (h : Tracks g g') (hpending : SamePending r r')
    (hg : g.approvals = r.approvals) (hg' : g'.approvals = r'.approvals)
    (actions : Finset ApprovalActionType) (reason note : String) :
    Tracks (rejectPending rt g (approvalActionState r).pendingApprovals actions actor reason note)
      (CodexOrchestrator.rejectPending rt g' (approvalActionState r').pendingApprovals actions actor
        reason note) := by
  unfold CodexOrchestrator.rejectPending
  cases hpending with
  | none pending pending' =>
      rw [pending, pending']
      exact h
  | one found found' pending pending' =>
      rw [pending, pending', List.foldl_cons, List.foldl_cons, List.foldl_nil, List.foldl_nil]
      have hdecided := h.decideApproval (hg ▸ found) (hg' ▸ found') .rejected actor.actorId
        (composeDecisionNote reason note)
      exact (hdecided.recordEvent _ _ _ _).updateApprovalCheckpoint _ _ _

theorem Tracks.requestTrendApproval (h : Tracks r r') :
    Tracks (requestTrendApproval rt r) (CodexOrchestrator.requestTrendApproval rt r') := by
  unfold CodexOrchestrator.requestTrendApproval
  rw [hasPendingApproval_of_perm h.approvals]
  split
  · exact h
  · exact (h.withApprovals (h.approvals.append_right _)).recordEvent _ _ _ _

end Requests

/-! ## A pass -/

section Pass

variable {rt : Runtime} {actor : ActorContext} {r r' : ProjectRecord}

/-- A call that ends by saving the record. -/
theorem mirroredCompletion_saved (h : Tracks r r') (nextSteps : List String) :
    MirroredCompletion { saved := some r, result := summary r nextSteps }
      { saved := some r', result := summary r' nextSteps } :=
  ⟨.some h, h.summary nextSteps⟩

theorem mirrored_pauseForApproval (h : Tracks r r') (i : Nat) :
    MirroredStep MirroredCompletion (pauseForApproval rt r i actor)
      (pauseForApproval rt r' i actor) := by
  have hwaiting := @Tracks.setTaskStatus rt actor _ _ h i .waitingApproval
    "Required action approval is missing."
  have hrequested := @Tracks.requestTrendApproval rt _ _ hwaiting
  unfold pauseForApproval
  dsimp only
  rw [hrequested.projectId]
  exact .bind (mirrored_transition (hrequested.upsertCheckpoint _) _ _) fun _ _ hsaved =>
    .ok (mirroredCompletion_saved hsaved _)

theorem reviewAgentRun_of_mirrors (h : Mirrors r r') (task : Task) :
    reviewAgentRun task r'.artifacts = reviewAgentRun task r.artifacts := by
  have hempty : r'.artifacts.isEmpty = r.artifacts.isEmpty := by
    have hperm := h.artifacts.isEmpty_eq
    rwa [List.isEmpty_map, List.isEmpty_map] at hperm
  rw [reviewAgentRun, reviewAgentRun, hempty]

theorem mirrored_requestRevision (h : Tracks r r') :
    MirroredStep MirroredCompletion (requestRevision rt r actor) (requestRevision rt r' actor) := by
  unfold requestRevision
  refine .bind (mirrored_transition h .reviewFailed _) fun _ _ hfailed => ?_
  exact .bind (mirrored_transition hfailed .revisionRequested _) fun _ _ hsent =>
    .ok (mirroredCompletion_saved (hsent.recordEvent _ _ _ _) _)

theorem mirrored_completeDelivery (h : Tracks r r') :
    MirroredStep MirroredCompletion (completeDelivery rt r actor) (completeDelivery rt r' actor) := by
  unfold completeDelivery
  dsimp only
  rw [h.projectId]
  exact .bind (mirrored_transition (h.upsertCheckpoint _) .completed _) fun _ _ hsent =>
    .ok (mirroredCompletion_saved hsent _)

/-- Every part of a pass does the same on the copy. -/
theorem passKeeps_tracks : PassKeeps rt rt actor actor MirroredAbort MirroredCompletion Tracks where
  raises := mirroredAbort_raised
  brief h := h.brief
  tasks h := h.tasks
  findings task h := reviewAgentRun_of_mirrors h.toMirrors task
  setTaskStatus i nextStatus h := h.setTaskStatus i nextStatus ""
  upsertArtifact artifact h := h.upsertArtifact artifact
  addReview _ h :=
    ⟨⟨h.projectId, h.brief, h.status, h.policy, h.tasks, h.artifacts, h.reviews.append_right _,
      h.checkpoints, h.approvals, h.history, h.events⟩, h.artifactIds, h.checkpointIds,
      h.unambiguous⟩
  pauseForApproval i h := mirrored_pauseForApproval h i
  requestRevision h := mirrored_requestRevision h
  completeDelivery h := mirrored_completeDelivery h

theorem mirrored_executePendingTasks (h : Tracks r r') (trendProviderName : String)
    (approvedActionSet : Finset ApprovalActionType) (simulateReviewFailure : Bool) :
    MirroredStep MirroredCompletion
      (executePendingTasks rt r trendProviderName approvedActionSet simulateReviewFailure actor)
      (executePendingTasks rt r' trendProviderName approvedActionSet simulateReviewFailure actor) :=
  passKeeps_tracks.executePendingTasks h (MirroredStep.refl (quiet_lift _))

end Pass

/-! ## Answers without an edit -/

section Answers

variable {r r' : ProjectRecord}

/-- The sets of action types of a record and of its copy. -/
theorem approvalActionState_of_perm (h : r'.approvals.Perm r.approvals) :
    (approvalActionState r').knownActions = (approvalActionState r).knownActions ∧
    (approvalActionState r').approvedActions = (approvalActionState r).approvedActions ∧
    (approvalActionState r').rejectedActions = (approvalActionState r).rejectedActions ∧
    (approvalActionState r').pendingActionTypes = (approvalActionState r).pendingActionTypes :=
  ⟨knownActions_of_perm h, approvalActionTypes_of_perm h _, approvalActionTypes_of_perm h _,
    approvalActionTypes_of_perm h _⟩

theorem pendingApprovals_isEmpty_of_perm (h : r'.approvals.Perm r.approvals) :
    (approvalActionState r').pendingApprovals.isEmpty =
      (approvalActionState r).pendingApprovals.isEmpty := by
  rw [Bool.eq_iff_iff, pendingApprovals_isEmpty, pendingApprovals_isEmpty]
  exact forall_congr' fun approval => imp_congr_left h.mem_iff

theorem hasEvent_of_mirrors (h : Mirrors r r') (eventType : HistoryEventType)
    (mode : Option String) : hasEvent r' eventType mode = hasEvent r eventType mode := by
  have hcanon : ∀ record : ProjectRecord,
      hasEvent { record with events := record.events.map HistoryEvent.canon } eventType mode =
        hasEvent record eventType mode := by
    intro record
    rw [hasEvent, hasEvent, List.any_map]
    refine congrArg (record.events.any ·) (funext fun event => ?_)
    cases mode with
    | none => rfl
    | some mode =>
        -- a sorted object has the same entry under the key
        have hlookup : event.canon.metadata.lookup "mode" =
            (event.metadata.lookup "mode").map Json.canon :=
          (lookup_sortFields _ _).trans (lookup_canonFields _ _)
        rw [Function.comp_apply, hlookup]
        cases event.metadata.lookup "mode" with
        | none => rfl
        | some value => cases value <;> rfl
  rw [← hcanon r', ← hcanon r, h.events]
  rfl

theorem mirrored_idempotentResumeFromApprovalIfCompleted (h : Mirrors r r')
    (approvedActionSet : Finset ApprovalActionType) :
    MirroredStep (Option.Rel MirroredResult)
      (idempotentResumeFromApprovalIfCompleted r approvedActionSet)
      (idempotentResumeFromApprovalIfCompleted r' approvedActionSet) := by
  obtain ⟨hknown, happroved, hrejected, -⟩ := approvalActionState_of_perm h.approvals
  unfold idempotentResumeFromApprovalIfCompleted
  dsimp only
  rw [h.status, hknown, happroved, hrejected, pendingApprovals_isEmpty_of_perm h.approvals]
  refine .ite Iff.rfl (fun _ => .ok .none) fun _ => .ite Iff.rfl (fun _ => .ok .none) fun _ => ?_
  refine .bind (MirroredStep.refl (quiet_validateApprovalActionRequest _ _ _)) fun _ _ _ => ?_
  exact .ite Iff.rfl (fun _ => .ok (.some (h.summary _))) fun _ => .ok .none

theorem mirrored_approvalCompletedIdempotentHandler (h : Mirrors r r') (args : ApprovalResumeArgs) :
    MirroredStep (Option.Rel MirroredResult) (approvalCompletedIdempotentHandler args r)
      (approvalCompletedIdempotentHandler args r') := by
  unfold approvalCompletedIdempotentHandler
  rw [h.status]
  refine .ite Iff.rfl (fun _ => ?_) fun _ => .ok .none
  refine .bind (MirroredStep.refl (quiet_parseApprovedActions _)) fun parsed parsed' hsame => ?_
  subst hsame
  exact .bind (.raiseIf Iff.rfl (mirroredAbort_raised _)) fun _ _ _ =>
    mirrored_idempotentResumeFromApprovalIfCompleted h parsed

theorem mirrored_revisionRequestedIdempotentHandler (h : Mirrors r r') (args : ApprovalRejectArgs) :
    MirroredStep (Option.Rel MirroredResult) (revisionRequestedIdempotentHandler args r)
      (revisionRequestedIdempotentHandler args r') := by
  obtain ⟨-, -, hrejected, -⟩ := approvalActionState_of_perm h.approvals
  unfold revisionRequestedIdempotentHandler
  rw [h.status]
  refine .ite Iff.rfl (fun _ => ?_) fun _ => .ok .none
  refine .bind (MirroredStep.refl (quiet_parseApprovedActions _)) fun named named' hsame => ?_
  subst hsame
  unfold idempotentRejectIfRevisionRequested
  dsimp only
  rw [h.status, hrejected]
  refine .ite Iff.rfl (fun _ => .ok .none) fun _ => ?_
  refine .bind (.raiseIf Iff.rfl (mirroredAbort_raised _)) fun _ _ _ => ?_
  exact .ite Iff.rfl (fun _ => .ok (.some (h.summary _))) fun _ => .ok .none

theorem mirrored_idempotentResumeFromRevisionIfReadyForPlanning (h : Mirrors r r')
    (resumeMode : RevisionResumeMode) :
    MirroredStep (Option.Rel MirroredResult)
      (idempotentResumeFromRevisionIfReadyForPlanning r resumeMode)
      (idempotentResumeFromRevisionIfReadyForPlanning r' resumeMode) := by
  unfold idempotentResumeFromRevisionIfReadyForPlanning
  rw [h.status]
  exact .ite Iff.rfl (fun _ => .ok (.some (h.summary _))) fun _ => .ok .none

theorem mirrored_idempotentIfCompletedWithEvent (h : Mirrors r r') (eventType : HistoryEventType)
    (nextStep : String) (mode : Option String) :
    MirroredStep (Option.Rel MirroredResult)
      (idempotentIfCompletedWithEvent r eventType nextStep mode)
      (idempotentIfCompletedWithEvent r' eventType nextStep mode) := by
  unfold idempotentIfCompletedWithEvent
  rw [h.status, hasEvent_of_mirrors h]
  exact .ite Iff.rfl (fun _ => .ok .none) fun _ =>
    .ite Iff.rfl (fun _ => .ok (.some (h.summary _))) fun _ => .ok .none

theorem mirrored_firstIdempotentResult (error : PyError)
    {handlers handlers' : List (Action (Option OrchestrationResult))}
    (h : List.Forall₂ (MirroredStep (Option.Rel MirroredResult)) handlers handlers') :
    MirroredStep (Option.Rel MirroredResult) (firstIdempotentResult error handlers)
      (firstIdempotentResult error handlers') := by
  induction h with
  | nil => exact .error (mirroredAbort_raised _)
  | cons hfirst _ ih =>
      rw [firstIdempotentResult, firstIdempotentResult]
      refine .bind hfirst fun answer answer' hanswer => ?_
      cases hanswer with
      | none => exact ih
      | some hresult => exact .ok (.some hresult)

theorem mirrored_resolveResultOrRaiseInvalidState (h : Mirrors r r') (expected : ProjectStatus)
    {handlers handlers' : List (Action (Option OrchestrationResult))}
    (hhandlers : List.Forall₂ (MirroredStep (Option.Rel MirroredResult)) handlers handlers') :
    MirroredStep (Option.Rel MirroredResult) (resolveResultOrRaiseInvalidState r expected handlers)
      (resolveResultOrRaiseInvalidState r' expected handlers') := by
  unfold resolveResultOrRaiseInvalidState
  rw [h.status]
  exact .ite Iff.rfl (fun _ => .ok .none) fun _ => mirrored_firstIdempotentResult _ hhandlers

end Answers

/-! ## The operations -/

section Operations

variable {rt : Runtime} {actor : ActorContext} {r r' : ProjectRecord}

/-- An operation that answers at once, or goes on with the record. -/
theorem mirrored_resolved {answer answer' : Action (Option OrchestrationResult)}
    {next next' : Action Completion}
    (h : MirroredStep (Option.Rel MirroredResult) answer answer')
    (hnext : MirroredStep MirroredCompletion next next') :
    MirroredStep MirroredCompletion
      (answer >>= fun
        | some result => pure { result }
        | none => next)
      (answer' >>= fun
        | some result => pure { result }
        | none => next') := by
  refine .bind h fun result result' hresult => ?_
  cases hresult with
  | none => exact hnext
  | some hresult => exact .ok ⟨.none, hresult⟩

theorem mirrored_resumePartially (h : Tracks r r')
    (actionsToApprove missingActions : Finset ApprovalActionType) (note : String) :
    MirroredCompletion (resumePartially rt r actionsToApprove missingActions actor note)
      (resumePartially rt r' actionsToApprove missingActions actor note) := by
  unfold resumePartially
  dsimp only
  split
  · exact ⟨.none, h.summary _⟩
  · exact mirroredCompletion_saved (h.recordEvent _ _ _ _) _

theorem mirrored_resumeFully (h : Tracks r r') (effective : Finset ApprovalActionType)
    (note trendProviderName : String) :
    MirroredStep MirroredCompletion (resumeFully rt r effective actor note trendProviderName)
      (resumeFully rt r' effective actor note trendProviderName) := by
  have hmoved := @Tracks.moveWaitingTasks rt actor _ _ h .pending "" none
  exact .bind (mirrored_transition (hmoved.recordEvent _ _ _ _) .inProgress _) fun _ _ hreleased =>
    mirrored_executePendingTasks hreleased _ _ _

theorem mirrored_approveAndResume (h : Tracks r r') (hpending : SamePending r r')
    (args : ApprovalResumeArgs) (note : String) :
    MirroredStep MirroredCompletion (approveAndResume rt args actor note r)
      (approveAndResume rt args actor note r') := by
  obtain ⟨hknown, happroved, hrejected, htypes⟩ := approvalActionState_of_perm h.approvals
  unfold approveAndResume
  refine .bind (MirroredStep.refl (quiet_parseApprovedActions _)) fun parsed parsed' hsame => ?_
  subst hsame
  refine .bind (.raiseIf Iff.rfl (mirroredAbort_raised _)) fun _ _ _ => ?_
  dsimp only
  rw [pendingApprovals_isEmpty_of_perm h.approvals, hknown, happroved, hrejected, htypes]
  refine .bind (.raiseIf Iff.rfl (mirroredAbort_raised _)) fun _ _ _ => ?_
  refine .bind (MirroredStep.refl (quiet_validateApprovalActionRequest _ _ _)) fun _ _ _ => ?_
  refine .bind_of_eq (mirrored_authorizeNewActions h _ _) fun granted granted' hg hg' hgranted => ?_
  -- the authorization leaves the requests, so the decisions meet the requests that were read
  have hdecided := @Tracks.approvePending rt actor _ _ _ _ hgranted hpending
    (ProjectRecord.approvals_of_state (granted_of_authorizeNewActions rt hg).state :)
    (ProjectRecord.approvals_of_state (granted_of_authorizeNewActions rt hg').state :)
    (parsed \ (approvalActionState r).approvedActions) note
  exact .ite Iff.rfl (fun _ => .ok (mirrored_resumePartially hdecided _ _ _)) fun _ =>
    mirrored_resumeFully hdecided _ _ _

theorem mirrored_resumeFromApproval (h : Tracks r r') (hpending : SamePending r r')
    (args : ApprovalResumeArgs) :
    MirroredStep MirroredCompletion (resumeFromApproval rt args r)
      (resumeFromApproval rt args r') :=
  mirrored_resolved (mirrored_resolveResultOrRaiseInvalidState h.toMirrors _
      (.cons (mirrored_approvalCompletedIdempotentHandler h.toMirrors args) .nil))
    (mirrored_approveAndResume h hpending _ _)

theorem mirrored_rejectAndRevise (h : Tracks r r') (hpending : SamePending r r')
    (args : ApprovalRejectArgs) (reason note : String) :
    MirroredStep MirroredCompletion (rejectAndRevise rt args actor reason note r)
      (rejectAndRevise rt args actor reason note r') := by
  obtain ⟨-, -, -, htypes⟩ := approvalActionState_of_perm h.approvals
  unfold rejectAndRevise
  dsimp only
  rw [pendingApprovals_isEmpty_of_perm h.approvals, htypes]
  refine .bind (.raiseIf Iff.rfl (mirroredAbort_raised _)) fun _ _ _ => ?_
  refine .bind (MirroredStep.refl (quiet_parseApprovedActions _)) fun named named' hsame => ?_
  subst hsame
  refine .bind (.raiseIf Iff.rfl (mirroredAbort_raised _)) fun _ _ _ => ?_
  refine .bind_of_eq (mirrored_authorizeEach h _ _) fun granted granted' hg hg' hgranted => ?_
  have hdecided := @Tracks.rejectPending rt actor _ _ _ _ hgranted hpending
    (ProjectRecord.approvals_of_state (granted_of_authorizeEach rt hg).state :)
    (ProjectRecord.approvals_of_state (granted_of_authorizeEach rt hg').state :)
    (if named = ∅ then (approvalActionState r).pendingActionTypes else named) reason note
  exact .bind (mirrored_transition (hdecided.moveWaitingTasks _ _ _) .revisionRequested _)
    fun _ _ hsent => .ok (mirroredCompletion_saved hsent _)

theorem mirrored_rejectApproval (h : Tracks r r') (hpending : SamePending r r')
    (args : ApprovalRejectArgs) :
    MirroredStep MirroredCompletion (rejectApproval rt args r) (rejectApproval rt args r') :=
  .bind (.raiseIf Iff.rfl (mirroredAbort_raised _)) fun _ _ _ =>
    mirrored_resolved (mirrored_resolveResultOrRaiseInvalidState h.toMirrors _
        (.cons (mirrored_revisionRequestedIdempotentHandler h.toMirrors args) .nil))
      (mirrored_rejectAndRevise h hpending _ _ _)

theorem mirrored_resumeRevisionForMode (h : Tracks r r') (args : RevisionResumeArgs)
    (reason : String) :
    MirroredStep MirroredCompletion (resumeRevisionForMode rt args actor reason r)
      (resumeRevisionForMode rt args actor reason r') := by
  unfold resumeRevisionForMode resumeRevisionWithTransition
  refine .bind (mirrored_transition (h.resetTasksForDepartments _ _ _ _) _ _) fun _ _ hreset => ?_
  refine .ite Iff.rfl (fun _ => .ok (mirroredCompletion_saved hreset _)) fun _ => ?_
  refine .bind (MirroredStep.refl (quiet_parseApprovedActions _)) fun parsed parsed' hsame => ?_
  subst hsame
  exact mirrored_executePendingTasks hreset _ _ _

theorem mirrored_resumeFromRevision (h : Tracks r r') (args : RevisionResumeArgs) :
    MirroredStep MirroredCompletion (resumeFromRevision rt args r)
      (resumeFromRevision rt args r') :=
  mirrored_resolved (mirrored_resolveResultOrRaiseInvalidState h.toMirrors _
      (.cons (mirrored_idempotentResumeFromRevisionIfReadyForPlanning h.toMirrors _)
        (.cons (mirrored_idempotentIfCompletedWithEvent h.toMirrors _ _ _) .nil)))
    (mirrored_resumeRevisionForMode (h.recordEvent _ _ _ _) _ _)

theorem mirrored_restartPlan (h : Tracks r r') (args : ReplanningStartArgs) (note : String) :
    MirroredStep MirroredCompletion (restartPlan rt args actor note r)
      (restartPlan rt args actor note r') := by
  have hreset : Tracks
      (if args.resetDownstreamTasks then
        resetTasksForDepartments rt r downstreamDepartments .pending actor "Replanning start reset."
      else r)
      (if args.resetDownstreamTasks then
        resetTasksForDepartments rt r' downstreamDepartments .pending actor "Replanning start reset."
      else r') := by
    split
    · exact h.resetTasksForDepartments _ _ _ _
    · exact h
  unfold restartPlan
  refine .bind (mirrored_transition (hreset.recordEvent _ _ _ _) _ _) fun _ _ hmoved => ?_
  refine .bind (MirroredStep.refl (quiet_parseApprovedActions _)) fun parsed parsed' hsame => ?_
  subst hsame
  exact mirrored_executePendingTasks hmoved _ _ _

theorem mirrored_startReplanning (h : Tracks r r') (args : ReplanningStartArgs) :
    MirroredStep MirroredCompletion (startReplanning rt args r) (startReplanning rt args r') :=
  mirrored_resolved (mirrored_resolveResultOrRaiseInvalidState h.toMirrors _
      (.cons (mirrored_idempotentIfCompletedWithEvent h.toMirrors _ _ _) .nil))
    (mirrored_restartPlan h _ _)

/-- Every operation on a loaded record does the same on a copy of it. -/
theorem mirrored_body (h : Tracks r r') (hpending : SamePending r r')
    (operation : ProjectOperation) :
    MirroredStep MirroredCompletion (operation.body rt r) (operation.body rt r') := by
  cases operation with
  | resumeFromApproval args => exact mirrored_resumeFromApproval h hpending args
  | rejectApproval args => exact mirrored_rejectApproval h hpending args
  | resumeFromRevision args => exact mirrored_resumeFromRevision h args
  | startReplanning args => exact mirrored_startReplanning h args

theorem Tracks.recordAuthenticationSuccess (h : Tracks r r') (actor : ActorContext) :
    Tracks (recordAuthenticationSuccess rt actor r)
      (CodexOrchestrator.recordAuthenticationSuccess rt actor r') :=
  (h.recordEvent _ _ _ _).recordEvent _ _ _ _

theorem Tracks.recordAuthenticationFailure (h : Tracks r r') (reason : String) :
    Tracks (recordAuthenticationFailure rt reason r)
      (CodexOrchestrator.recordAuthenticationFailure rt reason r') :=
  h.recordEvent _ _ _ _

end Operations

end CodexOrchestrator
