import Mathlib.Data.Finset.Lattice.Lemmas
import CodexOrchestrator.Orchestrator.Outcomes
import CodexOrchestrator.Orchestrator.SideBySide

/-!
# Piecewise — approving in several calls

The pending action types of a waiting project may be approved in one call or in several.  A call that
leaves a type out only writes its decisions; the last call runs the plan on, with the same approved
types as the one call would.  Two passes that start from the same work do the same work.
-/

open PyText Raise

namespace CodexOrchestrator

/-- What an approval request stands for. -/
def ApprovalRequest.standing (approval : ApprovalRequest) : ApprovalActionType × ApprovalStatus :=
  (approval.actionType, approval.status)

/-- The two records agree in what a pass reads and writes, up to ids, notes and logs. -/
structure SameWork (r r' : ProjectRecord) : Prop where
  brief : r'.project.brief = r.project.brief
  status : r'.project.status = r.project.status
  tasks : r'.tasks = r.tasks
  artifacts : r'.artifacts = r.artifacts
  reviews : r'.reviews = r.reviews
  standings : r'.approvals.map ApprovalRequest.standing = r.approvals.map ApprovalRequest.standing

/-- The completion saves the record and reports its status. -/
structure Completion.Writes (completion : Completion) (r : ProjectRecord) : Prop where
  saved : completion.saved = some r
  reported : completion.result.summary.status = r.project.status

/-- Both completions save, and what they save agrees. -/
def SameSaved (completion completion' : Completion) : Prop :=
  ∃ r r', completion.Writes r ∧ completion'.Writes r' ∧ SameWork r r'

/-- Both steps raise the same exception, or both answer with related values. -/
abbrev SameStep {α : Type} (answered : α → α → Prop) : Action α → Action α → Prop :=
  Related (fun abort abort' => abort'.error = abort.error) answered

/-! ## Two passes -/

section Pass

variable {rt rt' : Runtime} {actor actor' : ActorContext} {reason reason' : String}
  {r r' : ProjectRecord}

theorem SameWork.setTaskStatus (h : SameWork r r') (i : Nat) (nextStatus : TaskStatus) :
    SameWork (setTaskStatus rt r i nextStatus actor reason)
      (CodexOrchestrator.setTaskStatus rt' r' i nextStatus actor' reason') := by
  have hstate := setTaskStatus_state rt r i nextStatus actor reason
  have hstate' := setTaskStatus_state rt' r' i nextStatus actor' reason'
  refine ⟨?_, ?_, ?_, ?_, ?_, ?_⟩
  · rw [setTaskStatus_project, setTaskStatus_project, h.brief]
  · rw [setTaskStatus_project, setTaskStatus_project, h.status]
  · rw [ProjectRecord.tasks_of_state hstate, ProjectRecord.tasks_of_state hstate']
    dsimp only
    rw [h.tasks]
  · rw [setTaskStatus_artifacts, setTaskStatus_artifacts, h.artifacts]
  · rw [setTaskStatus_reviews, setTaskStatus_reviews, h.reviews]
  · rw [ProjectRecord.approvals_of_state hstate, ProjectRecord.approvals_of_state hstate']
    exact h.standings

theorem SameWork.upsertArtifact (h : SameWork r r') (artifact : Artifact) :
    SameWork (upsertArtifact r artifact) (CodexOrchestrator.upsertArtifact r' artifact) := by
  refine ⟨h.brief, h.status, h.tasks, ?_, h.reviews, h.standings⟩
  show upsertBy Artifact.id artifact r'.artifacts = upsertBy Artifact.id artifact r.artifacts
  rw [h.artifacts]

theorem sameWork_transition (h : SameWork r r') (nextStatus : ProjectStatus) :
    SameStep SameWork (transition rt r nextStatus actor reason)
      (transition rt' r' nextStatus actor' reason') := by
  unfold transition
  rw [h.status]
  refine .ite Iff.rfl (fun _ => .ok h) fun _ => .ite Iff.rfl (fun _ => .ok ?_) fun _ => .error rfl
  exact ⟨h.brief, rfl, h.tasks, h.artifacts, h.reviews, h.standings⟩

theorem hasPendingApproval_eq (r : ProjectRecord) (actionType : ApprovalActionType) :
    hasPendingApproval r actionType = (r.approvals.map ApprovalRequest.standing).any fun standing =>
      decide (standing.1 = actionType) && decide (standing.2 = .pending) := by
  rw [List.any_map]
  rfl

theorem SameWork.requestTrendApproval (h : SameWork r r') :
    SameWork (requestTrendApproval rt r) (CodexOrchestrator.requestTrendApproval rt' r') := by
  have hsame : hasPendingApproval r' .externalApiSend = hasPendingApproval r .externalApiSend := by
    rw [hasPendingApproval_eq, hasPendingApproval_eq, h.standings]
  unfold CodexOrchestrator.requestTrendApproval
  rw [hsame]
  split
  · exact h
  · refine ⟨h.brief, h.status, h.tasks, h.artifacts, h.reviews, ?_⟩
    show (r'.approvals ++ [trendApprovalRequest rt']).map ApprovalRequest.standing =
      (r.approvals ++ [trendApprovalRequest rt]).map ApprovalRequest.standing
    rw [List.map_append, List.map_append, h.standings]
    rfl

theorem sameWork_pauseForApproval (h : SameWork r r') (i : Nat) :
    SameStep SameSaved (pauseForApproval rt r i actor) (pauseForApproval rt' r' i actor') := by
  refine .bind (sameWork_transition ?_ .waitingApproval) fun saved saved' hsaved =>
    .ok ⟨saved, saved', ⟨rfl, rfl⟩, ⟨rfl, rfl⟩, hsaved⟩
  have hwaiting : SameWork
      (setTaskStatus rt r i .waitingApproval actor "Required action approval is missing.")
      (setTaskStatus rt' r' i .waitingApproval actor' "Required action approval is missing.") :=
    h.setTaskStatus i .waitingApproval
  have hrequested : SameWork (requestTrendApproval rt _) (requestTrendApproval rt' _) :=
    hwaiting.requestTrendApproval
  exact ⟨hrequested.brief, hrequested.status, hrequested.tasks, hrequested.artifacts,
    hrequested.reviews, hrequested.standings⟩

theorem sameWork_requestRevision (h : SameWork r r') :
    SameStep SameSaved (requestRevision rt r actor) (requestRevision rt' r' actor') := by
  refine .bind (sameWork_transition h .reviewFailed) fun failed failed' hfailed => ?_
  refine .bind (sameWork_transition hfailed .revisionRequested) fun sent sent' hsent => ?_
  exact .ok ⟨_, _, ⟨rfl, rfl⟩, ⟨rfl, rfl⟩, hsent.brief, hsent.status, hsent.tasks, hsent.artifacts,
    hsent.reviews, hsent.standings⟩

theorem sameWork_completeDelivery (h : SameWork r r') :
    SameStep SameSaved (completeDelivery rt r actor) (completeDelivery rt' r' actor') := by
  have hcheckpoint : SameWork (upsertCheckpoint r (deliveryCheckpoint r.project.id))
      (upsertCheckpoint r' (deliveryCheckpoint r'.project.id)) :=
    ⟨h.brief, h.status, h.tasks, h.artifacts, h.reviews, h.standings⟩
  exact .bind (sameWork_transition hcheckpoint .completed) fun sent sent' hsent =>
    .ok ⟨sent, sent', ⟨rfl, rfl⟩, ⟨rfl, rfl⟩, hsent⟩

/-- Every part of a pass does the same work. -/
theorem passKeeps_sameWork : PassKeeps rt rt' actor actor'
    (fun abort abort' => abort'.error = abort.error) SameSaved SameWork where
  raises _ := rfl
  brief h := h.brief
  tasks h := h.tasks
  findings _ h := by rw [h.artifacts]
  setTaskStatus i nextStatus h := h.setTaskStatus i nextStatus
  upsertArtifact artifact h := h.upsertArtifact artifact
  addReview _ h := ⟨h.brief, h.status, h.tasks, h.artifacts, by dsimp only; rw [h.reviews],
    h.standings⟩
  pauseForApproval i h := sameWork_pauseForApproval h i
  requestRevision h := sameWork_requestRevision h
  completeDelivery h := sameWork_completeDelivery h

/-- Two passes with one provider and one set of approved types, from the same work. -/
theorem sameWork_executePendingTasks {provider : TrendProvider} {name name' : String}
    {approvedActionSet : Finset ApprovalActionType} {simulateReviewFailure : Bool}
    (h : SameWork r r') (hprovider : rt.getTrendProvider name = .ok provider)
    (hprovider' : rt'.getTrendProvider name' = .ok provider) :
    SameStep SameSaved
      (executePendingTasks rt r name approvedActionSet simulateReviewFailure actor)
      (executePendingTasks rt' r' name' approvedActionSet simulateReviewFailure actor') := by
  refine passKeeps_sameWork.executePendingTasks h ?_
  rw [hprovider, hprovider']
  exact .ok rfl

end Pass

/-! ## Calls that approve a part of the pending types -/

/-- A call of `resume_from_approval`, with the action types that its arguments name. -/
structure ApprovalCall where
  args : ApprovalResumeArgs
  env : Environment
  types : Finset ApprovalActionType

/-- The types that the calls name together. -/
def typesOf : List ApprovalCall → Finset ApprovalActionType
  | [] => ∅
  | call :: rest => call.types ∪ typesOf rest

/-- The call may be made on the record: it names some types, and its actor may approve them. -/
structure MayApprove (record : ProjectRecord) (call : ApprovalCall) : Prop where
  parsed : parseApprovedActions call.args.approvedActions = .ok call.types
  nonempty : call.types ≠ ∅
  allowed : ∀ actionType ∈ call.types, Allowed record (coerceActor call.args.actor .approver)
    call.args.projectAllowedActorIdsByAction actionType

/-- The calls split the pending types among them. -/
structure Splits (record : ProjectRecord) (calls : List ApprovalCall) : Prop where
  each : ∀ call ∈ calls, MayApprove record call
  disjoint : calls.Pairwise fun call call' => Disjoint call.types call'.types
  cover : typesOf calls = (approvalActionState record).pendingActionTypes

/-- No pending action type was approved or rejected before. -/
def Undecided (record : ProjectRecord) : Prop :=
  ∀ actionType ∈ (approvalActionState record).pendingActionTypes,
    actionType ∉ (approvalActionState record).approvedActions ∧
      actionType ∉ (approvalActionState record).rejectedActions

/-- The standing of a request after the types of `done` are approved. -/
def ApprovalRequest.standingAfter (done : Finset ApprovalActionType) (approval : ApprovalRequest) :
    ApprovalActionType × ApprovalStatus :=
  if approval.status = .pending ∧ approval.actionType ∈ done then (approval.actionType, .approved)
  else approval.standing

/-- `r` is the record with the pending requests of the types of `done` approved, and no more. -/
structure ApprovedUpTo (record : ProjectRecord) (done : Finset ApprovalActionType)
    (r : ProjectRecord) : Prop where
  project : r.project = record.project
  tasks : r.tasks = record.tasks
  artifacts : r.artifacts = record.artifacts
  reviews : r.reviews = record.reviews
  standings : r.approvals.map ApprovalRequest.standing =
    record.approvals.map (ApprovalRequest.standingAfter done)

section Standings

variable {record r : ProjectRecord} {done : Finset ApprovalActionType}
  {actionType : ApprovalActionType}

theorem mem_typesOf {calls : List ApprovalCall} :
    actionType ∈ typesOf calls ↔ ∃ call ∈ calls, actionType ∈ call.types := by
  induction calls with
  | nil => simp [typesOf]
  | cons call rest ih => rw [typesOf, Finset.mem_union, ih, List.exists_mem_cons_iff]

theorem mem_approvalActionTypes_iff {status : ApprovalStatus} :
    actionType ∈ approvalActionTypes r status ↔
      (actionType, status) ∈ r.approvals.map ApprovalRequest.standing := by
  rw [mem_approvalActionTypes, List.mem_map]
  refine exists_congr fun approval => and_congr_right fun _ => ?_
  rw [ApprovalRequest.standing, Prod.mk.injEq, and_comm]

theorem mem_knownActions_iff :
    actionType ∈ (approvalActionState r).knownActions ↔
      ∃ status, (actionType, status) ∈ r.approvals.map ApprovalRequest.standing := by
  rw [mem_knownActions]
  constructor
  · rintro ⟨approval, hmem, rfl⟩
    exact ⟨approval.status, List.mem_map_of_mem hmem⟩
  · rintro ⟨status, hmem⟩
    obtain ⟨approval, happroval, he⟩ := List.mem_map.mp hmem
    exact ⟨approval, happroval, congrArg Prod.fst he⟩

theorem ApprovedUpTo.refl (record : ProjectRecord) : ApprovedUpTo record ∅ record := by
  refine ⟨rfl, rfl, rfl, rfl, List.map_congr_left fun approval _ => ?_⟩
  rw [ApprovalRequest.standingAfter, if_neg (by simp)]

/-- The standings of a record after an approval, from the requests before it. -/
theorem ApprovedUpTo.mem (h : ApprovedUpTo record done r) {status : ApprovalStatus} :
    (actionType, status) ∈ r.approvals.map ApprovalRequest.standing ↔
      ∃ approval ∈ record.approvals, approval.standingAfter done = (actionType, status) := by
  rw [h.standings, List.mem_map]

theorem ApprovedUpTo.mem_pending (h : ApprovedUpTo record done r) :
    actionType ∈ (approvalActionState r).pendingActionTypes ↔
      actionType ∈ (approvalActionState record).pendingActionTypes ∧ actionType ∉ done := by
  refine mem_approvalActionTypes_iff.trans (h.mem.trans ?_)
  constructor
  · rintro ⟨approval, hmem, he⟩
    unfold ApprovalRequest.standingAfter at he
    split at he
    · cases he
    · rename_i hopen
      obtain ⟨rfl, hpending⟩ := Prod.mk.inj he
      exact ⟨mem_approvalActionTypes.mpr ⟨approval, hmem, hpending, rfl⟩,
        fun hdone => hopen ⟨hpending, hdone⟩⟩
  · rintro ⟨hpending, hdone⟩
    obtain ⟨approval, hmem, hstatus, rfl⟩ := mem_approvalActionTypes.mp hpending
    refine ⟨approval, hmem, ?_⟩
    rw [ApprovalRequest.standingAfter, if_neg fun h => hdone h.2, ApprovalRequest.standing, hstatus]

theorem ApprovedUpTo.mem_approved (h : ApprovedUpTo record done r) :
    actionType ∈ (approvalActionState r).approvedActions ↔
      actionType ∈ (approvalActionState record).approvedActions ∨
        actionType ∈ (approvalActionState record).pendingActionTypes ∧ actionType ∈ done := by
  refine mem_approvalActionTypes_iff.trans (h.mem.trans ?_)
  constructor
  · rintro ⟨approval, hmem, he⟩
    unfold ApprovalRequest.standingAfter at he
    split at he
    · rename_i happroved
      obtain ⟨rfl, -⟩ := Prod.mk.inj he
      exact .inr ⟨mem_approvalActionTypes.mpr ⟨approval, hmem, happroved.1, rfl⟩, happroved.2⟩
    · obtain ⟨rfl, hstatus⟩ := Prod.mk.inj he
      exact .inl (mem_approvalActionTypes.mpr ⟨approval, hmem, hstatus, rfl⟩)
  · rintro (happroved | ⟨hpending, hdone⟩)
    · obtain ⟨approval, hmem, hstatus, rfl⟩ := mem_approvalActionTypes.mp happroved
      refine ⟨approval, hmem, ?_⟩
      rw [ApprovalRequest.standingAfter, if_neg (by simp [hstatus]), ApprovalRequest.standing, hstatus]
    · obtain ⟨approval, hmem, hstatus, rfl⟩ := mem_approvalActionTypes.mp hpending
      exact ⟨approval, hmem, if_pos ⟨hstatus, hdone⟩⟩

theorem ApprovedUpTo.mem_rejected (h : ApprovedUpTo record done r) :
    actionType ∈ (approvalActionState r).rejectedActions ↔
      actionType ∈ (approvalActionState record).rejectedActions := by
  refine mem_approvalActionTypes_iff.trans (h.mem.trans ?_)
  constructor
  · rintro ⟨approval, hmem, he⟩
    unfold ApprovalRequest.standingAfter at he
    split at he
    · cases he
    · obtain ⟨rfl, hstatus⟩ := Prod.mk.inj he
      exact mem_approvalActionTypes.mpr ⟨approval, hmem, hstatus, rfl⟩
  · intro hrejected
    obtain ⟨approval, hmem, hstatus, rfl⟩ := mem_approvalActionTypes.mp hrejected
    refine ⟨approval, hmem, ?_⟩
    rw [ApprovalRequest.standingAfter, if_neg (by simp [hstatus]), ApprovalRequest.standing, hstatus]

theorem ApprovedUpTo.known (h : ApprovedUpTo record done r)
    (hpending : actionType ∈ (approvalActionState record).pendingActionTypes) :
    actionType ∈ (approvalActionState r).knownActions := by
  obtain ⟨approval, hmem, -, rfl⟩ := mem_approvalActionTypes.mp hpending
  refine mem_knownActions_iff.mpr ⟨(approval.standingAfter done).2, h.mem.mpr ⟨approval, hmem, ?_⟩⟩
  refine Prod.ext ?_ rfl
  unfold ApprovalRequest.standingAfter
  split <;> rfl

/-- The checks of a call that names pending types, while some type is still pending. -/
theorem ApprovedUpTo.checks (h : ApprovedUpTo record done r) (hundecided : Undecided record)
    {call : ApprovalCall} (hmay : MayApprove record call)
    (hsubset : call.types ⊆ (approvalActionState record).pendingActionTypes)
    (hleft : ∃ a ∈ (approvalActionState record).pendingActionTypes, a ∉ done) :
    ApprovalChecks call.args r call.types := by
  refine ⟨hmay.parsed, hmay.nonempty, ?_, fun a ha => h.known (hsubset ha), ?_⟩
  · obtain ⟨a, hpending, hdone⟩ := hleft
    obtain ⟨approval, hmem, hstatus, -⟩ :=
      mem_approvalActionTypes.mp (h.mem_pending.mpr ⟨hpending, hdone⟩)
    exact ⟨approval, hmem, hstatus⟩
  · rw [Finset.eq_empty_iff_forall_notMem]
    intro a ha
    obtain ⟨hnamed, hrejected⟩ := Finset.mem_inter.mp ha
    exact (hundecided a (hsubset hnamed)).2 (h.mem_rejected.mp hrejected)

theorem ApprovedUpTo.missing (h : ApprovedUpTo record done r) {types : Finset ApprovalActionType} :
    missingActions r types =
      (approvalActionState record).pendingActionTypes \ (done ∪ types) := by
  ext a
  rw [missingActions, Finset.mem_sdiff, h.mem_pending, Finset.mem_sdiff, Finset.mem_union]
  tauto

theorem ApprovedUpTo.toApprove (h : ApprovedUpTo record done r) (hundecided : Undecided record)
    {types : Finset ApprovalActionType}
    (hsubset : types ⊆ (approvalActionState record).pendingActionTypes) :
    actionsToApprove r types = types \ done := by
  ext a
  rw [actionsToApprove, Finset.mem_sdiff, h.mem_approved, Finset.mem_sdiff]
  refine and_congr_right fun hnamed => not_congr ?_
  constructor
  · rintro (happroved | ⟨-, hdone⟩)
    -- no pending type was approved before the first call
    · exact absurd happroved (hundecided a (hsubset hnamed)).1
    · exact hdone
  · exact fun hdone => .inr ⟨hsubset hnamed, hdone⟩

end Standings

/-! ## One call after another -/

section Calls

variable {repository : InMemoryProjectRepository} {projectId : String}
  {record r : ProjectRecord} {done : Finset ApprovalActionType} {call : ApprovalCall}

/-- The decision of a call on a standing. -/
def approveStanding (types : Finset ApprovalActionType)
    (standing : ApprovalActionType × ApprovalStatus) : ApprovalActionType × ApprovalStatus :=
  if standing.2 = .pending ∧ standing.1 ∈ types then (standing.1, .approved) else standing

theorem approveStanding_standingAfter (done types : Finset ApprovalActionType)
    (approval : ApprovalRequest) :
    approveStanding (types \ done) (approval.standingAfter done) =
      approval.standingAfter (done ∪ types) := by
  unfold approveStanding ApprovalRequest.standingAfter ApprovalRequest.standing
  by_cases hpending : approval.status = .pending
  · by_cases hdone : approval.actionType ∈ done
    · simp [hpending, hdone]
    · simp [hpending, hdone]
  · simp [hpending]

/-- The record after the approval loop of a call that names pending types. -/
theorem ApprovedUpTo.extend (h : ApprovedUpTo record done r) (hundecided : Undecided record)
    {types : Finset ApprovalActionType}
    (hsubset : types ⊆ (approvalActionState record).pendingActionTypes) {rt : Runtime}
    {actor : ActorContext} {note : String} {granted r' : ProjectRecord}
    (hgranted : granted.state = r.state)
    (hstate : r'.state = (afterApproval rt actor note r granted types).state) :
    ApprovedUpTo record (done ∪ types) r' := by
  have hafter := hstate.trans (afterApproval_decided rt types actor note hgranted).state
  refine ⟨?_, ?_, ?_, ?_, ?_⟩
  · have hproject : granted.project = record.project :=
      (ProjectRecord.project_of_state hgranted :).trans h.project
    exact (ProjectRecord.project_of_state hafter :).trans hproject
  · have htasks : granted.tasks = record.tasks :=
      (ProjectRecord.tasks_of_state hgranted :).trans h.tasks
    exact (ProjectRecord.tasks_of_state hafter :).trans htasks
  · have hartifacts : granted.artifacts = record.artifacts :=
      (ProjectRecord.artifacts_of_state hgranted :).trans h.artifacts
    exact (ProjectRecord.artifacts_of_state hafter :).trans hartifacts
  · have hreviews : granted.reviews = record.reviews :=
      (ProjectRecord.reviews_of_state hgranted :).trans h.reviews
    exact (ProjectRecord.reviews_of_state hafter :).trans hreviews
  · have happrovals : r'.approvals = _ :=
      (ProjectRecord.approvals_of_state hstate :).trans
        (afterApproval_approvals types actor note hgranted)
    -- each request first takes the standing that the calls before gave it, then that of this call
    have hdecision : ∀ approval : ApprovalRequest,
        (if decide (approval.status = .pending) &&
            decide (approval.actionType ∈ actionsToApprove r types) then
          approval.approve actor note else approval).standing =
          approveStanding (types \ done) approval.standing := by
      intro approval
      rw [h.toApprove hundecided hsubset]
      simp only [Bool.and_eq_true, decide_eq_true_eq]
      unfold approveStanding
      by_cases hopen : approval.status = .pending ∧ approval.actionType ∈ types \ done
      · rw [if_pos hopen]
        exact (if_pos hopen).symm
      · rw [if_neg hopen]
        exact (if_neg hopen).symm
    -- the loop of this call, then the calls before it
    calc r'.approvals.map ApprovalRequest.standing
        = (r.approvals.map ApprovalRequest.standing).map (approveStanding (types \ done)) := by
          rw [happrovals, List.map_map, List.map_map]
          exact List.map_congr_left fun approval _ => hdecision approval
      _ = record.approvals.map (ApprovalRequest.standingAfter (done ∪ types)) := by
          rw [h.standings, List.map_map]
          exact List.map_congr_left fun approval _ =>
            approveStanding_standingAfter done types approval

theorem Allowed.of_project {actor : ActorContext} {allowList : Option (Dict (List String))}
    {actionType : ApprovalActionType} (h : Allowed record actor allowList actionType)
    (hproject : r.project = record.project) : Allowed r actor allowList actionType := by
  unfold Allowed
  rw [hproject]
  exact h

/-- What the calls before this one leave to do. -/
structure Open (record : ProjectRecord) (done : Finset ApprovalActionType) (r : ProjectRecord) :
    Prop where
  upTo : ApprovedUpTo record done r
  undecided : Undecided record
  status : record.project.status = .waitingApproval

theorem Open.waiting (h : Open record done r) : r.project.status = .waitingApproval := by
  rw [h.upTo.project, h.status]

theorem Open.allowed (h : Open record done r) (hmay : MayApprove record call) :
    ∀ actionType ∈ actionsToApprove r call.types, Allowed r (coerceActor call.args.actor .approver)
      call.args.projectAllowedActorIdsByAction actionType := by
  intro actionType hmem
  exact (hmay.allowed actionType (Finset.mem_sdiff.mp hmem).1).of_project h.upTo.project

/-- The call on the project. -/
def ApprovalCall.on (projectId : String) (call : ApprovalCall) : Call where
  operation := .onProject projectId (.resumeFromApproval call.args)
  env := call.env

/-- The repository after the calls, made one after another. -/
def approving (repository : InMemoryProjectRepository) (projectId : String)
    (calls : List ApprovalCall) : InMemoryProjectRepository :=
  Runs.after Call.step repository (calls.map (ApprovalCall.on projectId))

/-- The call answers, and reports the status. -/
def Reports (repository : InMemoryProjectRepository) (call : Call) (status : ProjectStatus) : Prop :=
  ∃ result, (call.outcome repository).answer = .ok (some result) ∧ result.summary.status = status

theorem approving_concat (calls : List ApprovalCall) (call : ApprovalCall) :
    approving repository projectId (calls ++ [call]) =
      (call.on projectId).step (approving repository projectId calls) := by
  rw [approving, List.map_append]
  exact Runs.after_concat _ _ _ _

theorem Call.outcome_on (hget : repository.get projectId = some r) (call : ApprovalCall) :
    (call.on projectId).outcome repository =
      .of (resumeFromApproval call.env.runtime call.args r) := by
  unfold Call.outcome ApprovalCall.on
  rw [Operation.outcome, hget]
  rfl

/-- A call that names some new types and leaves some out writes its decisions, and no more. -/
theorem step_of_part (hget : repository.get projectId = some r) (hopen : Open record done r)
    (hmay : MayApprove record call)
    (hsubset : call.types ⊆ (approvalActionState record).pendingActionTypes)
    (hnew : ¬ call.types ⊆ done)
    (hleft : ∃ a ∈ (approvalActionState record).pendingActionTypes, a ∉ done ∪ call.types) :
    Reports repository (call.on projectId) .waitingApproval ∧
      ∃ r', ((call.on projectId).step repository).get projectId = some r' ∧
        Open record (done ∪ call.types) r' := by
  obtain ⟨a, hpending, ha⟩ := hleft
  -- the type that is left out is pending still, so the checks of the call pass
  have hchecks : ApprovalChecks call.args r call.types := hopen.upTo.checks hopen.undecided hmay hsubset
    ⟨a, hpending, fun h => ha (Finset.mem_union_left _ h)⟩
  have hmissing : missingActions r call.types ≠ ∅ := by
    rw [hopen.upTo.missing]
    exact Finset.ne_empty_of_mem (Finset.mem_sdiff.mpr ⟨hpending, ha⟩)
  -- the call has a type that no call before it approved
  have hsome : actionsToApprove r call.types ≠ ∅ := by
    rw [hopen.upTo.toApprove hopen.undecided hsubset]
    exact fun h => hnew (Finset.sdiff_eq_empty_iff_subset.mp h)
  obtain ⟨granted, r', nextSteps, hgranted, hanswer, hstate⟩ :=
    @resumeFromApproval_partly call.env.runtime _ _ _ hopen.waiting hchecks (hopen.allowed hmay)
      hmissing hsome
  have hopen' : Open record (done ∪ call.types) r' :=
    ⟨hopen.upTo.extend hopen.undecided hsubset hgranted hstate, hopen.undecided, hopen.status⟩
  have hsaved : savedBy ((ProjectOperation.resumeFromApproval call.args).body call.env.runtime r) =
      some r' := by
    show savedBy (resumeFromApproval call.env.runtime call.args r) = some r'
    rw [hanswer, savedBy]
  refine ⟨⟨summary r' nextSteps, ?_, hopen'.waiting⟩, r', get_of_saved hget hsaved, hopen'⟩
  rw [Call.outcome_on hget, hanswer, Outcome.of]

/-- A call whose types are approved already, while some type is pending, changes nothing. -/
theorem step_of_repeated (hget : repository.get projectId = some r) (hopen : Open record done r)
    (hmay : MayApprove record call)
    (hsubset : call.types ⊆ (approvalActionState record).pendingActionTypes)
    (hdone : call.types ⊆ done)
    (hleft : ∃ a ∈ (approvalActionState record).pendingActionTypes, a ∉ done) :
    Reports repository (call.on projectId) .waitingApproval ∧
      (call.on projectId).step repository = repository := by
  have hchecks : ApprovalChecks call.args r call.types :=
    hopen.upTo.checks hopen.undecided hmay hsubset hleft
  obtain ⟨a, hpending, ha⟩ := hleft
  have hmissing : missingActions r call.types ≠ ∅ := by
    rw [hopen.upTo.missing, Finset.union_eq_left.mpr hdone]
    exact Finset.ne_empty_of_mem (Finset.mem_sdiff.mpr ⟨hpending, ha⟩)
  -- every type was approved by the calls before, and their decisions are in the record
  have hnone : actionsToApprove r call.types = ∅ := by
    rw [hopen.upTo.toApprove hopen.undecided hsubset]
    exact Finset.sdiff_eq_empty_iff_subset.mpr hdone
  obtain ⟨granted, hgranted, hanswer⟩ := @resumeFromApproval_of_unnamed call.env.runtime _ _ _
    hopen.waiting hchecks (hopen.allowed hmay) hmissing
  have hproject := afterApproval_project call.env.runtime call.types
    (coerceActor call.args.actor .approver) (normalizeText call.args.note) hgranted
  unfold resumePartially at hanswer
  dsimp only at hanswer
  rw [if_pos hnone] at hanswer
  have houtcome := Call.outcome_on hget call
  rw [hanswer, Outcome.of] at houtcome
  refine ⟨⟨_, by rw [houtcome], ?_⟩, ?_⟩
  -- the loop over an empty set of types leaves the project waiting
  · show (afterApproval _ _ _ _ _ _).project.status = .waitingApproval
    rw [hproject, hopen.waiting]
  · rw [Call.step_eq, houtcome]
    rfl

/-- A call that names every type that is left goes on to a pass, with every pending type approved. -/
theorem resume_of_last (hopen : Open record done r) (hmay : MayApprove record call)
    (hcover : done ∪ call.types = (approvalActionState record).pendingActionTypes)
    (hleft : ∃ a ∈ (approvalActionState record).pendingActionTypes, a ∉ done) :
    ∃ approved released, ApprovedUpTo record (approvalActionState record).pendingActionTypes approved ∧
      Released approved released ∧
      resumeFromApproval call.env.runtime call.args r =
        executePendingTasks call.env.runtime released call.args.trendProviderName
          ((approvalActionState record).approvedActions ∪
            (approvalActionState record).pendingActionTypes) false
          (coerceActor call.args.actor .approver) := by
  have hsubset : call.types ⊆ (approvalActionState record).pendingActionTypes :=
    hcover ▸ Finset.subset_union_right
  have hmissing : missingActions r call.types = ∅ := by
    rw [hopen.upTo.missing, hcover, Finset.sdiff_self]
  obtain ⟨granted, released, hgranted, hreleased, hpass⟩ :=
    @resumeFromApproval_of_named call.env.runtime _ _ _ hopen.waiting
      (hopen.upTo.checks hopen.undecided hmay hsubset hleft) (hopen.allowed hmay) hmissing
  refine ⟨_, released, ?_, hreleased, ?_⟩
  · rw [← hcover]
    exact hopen.upTo.extend hopen.undecided hsubset hgranted rfl
  · -- the types of the calls before are recomputed from the stored requests
    have heffective : (approvalActionState r).approvedActions ∪ actionsToApprove r call.types =
        (approvalActionState record).approvedActions ∪
          (approvalActionState record).pendingActionTypes := by
      ext a
      rw [hopen.upTo.toApprove hopen.undecided hsubset, Finset.mem_union, hopen.upTo.mem_approved,
        Finset.mem_sdiff, Finset.mem_union, ← hcover, Finset.mem_union]
      tauto
    rw [hpass, heffective]

/-- The passes of two such calls start from the same work. -/
theorem sameWork_released {approved approved' released released' : ProjectRecord}
    (h : ApprovedUpTo record done approved) (h' : ApprovedUpTo record done approved')
    (hreleased : Released approved released) (hreleased' : Released approved' released') :
    SameWork released released' := by
  have hproject := (ProjectRecord.project_of_state hreleased.state :)
  have hproject' := (ProjectRecord.project_of_state hreleased'.state :)
  have htasks := (ProjectRecord.tasks_of_state hreleased.state :)
  have htasks' := (ProjectRecord.tasks_of_state hreleased'.state :)
  have hartifacts := (ProjectRecord.artifacts_of_state hreleased.state :)
  have hartifacts' := (ProjectRecord.artifacts_of_state hreleased'.state :)
  have hreviews := (ProjectRecord.reviews_of_state hreleased.state :)
  have hreviews' := (ProjectRecord.reviews_of_state hreleased'.state :)
  have happrovals := (ProjectRecord.approvals_of_state hreleased.state :)
  have happrovals' := (ProjectRecord.approvals_of_state hreleased'.state :)
  refine ⟨?_, ?_, ?_, ?_, ?_, ?_⟩
  · rw [hproject, hproject', h.project, h'.project]
  · rw [hproject, hproject']
  · rw [htasks, htasks', h.tasks, h'.tasks]
  · exact (hartifacts'.trans h'.artifacts).trans (hartifacts.trans h.artifacts).symm
  · exact (hreviews'.trans h'.reviews).trans (hreviews.trans h.reviews).symm
  · rw [happrovals, happrovals']
    exact h'.standings.trans h.standings.symm

/-! ## The calls of a split -/

theorem typesOf_append (calls later : List ApprovalCall) :
    typesOf (calls ++ later) = typesOf calls ∪ typesOf later := by
  induction calls with
  | nil => rw [List.nil_append, typesOf, Finset.empty_union]
  | cons call rest ih => rw [List.cons_append, typesOf, typesOf, ih, Finset.union_assoc]

/-- The calls name pending types, each of its own, and some pending type is left. -/
structure Begun (record : ProjectRecord) (calls : List ApprovalCall) : Prop where
  each : ∀ call ∈ calls, MayApprove record call
  disjoint : calls.Pairwise fun call call' => Disjoint call.types call'.types
  subset : typesOf calls ⊆ (approvalActionState record).pendingActionTypes
  left : ∃ a ∈ (approvalActionState record).pendingActionTypes, a ∉ typesOf calls

/-- A call names no type that the calls before it named. -/
theorem disjoint_typesOf {calls later : List ApprovalCall}
    (h : (calls ++ call :: later).Pairwise fun call call' => Disjoint call.types call'.types) :
    Disjoint (typesOf calls) call.types := by
  rw [Finset.disjoint_left]
  intro a ha
  obtain ⟨call', hmem, ha'⟩ := mem_typesOf.mp ha
  have hcross := (List.pairwise_append.mp h).2.2 call' hmem call List.mem_cons_self
  exact Finset.disjoint_left.mp hcross ha'

theorem Splits.begun {calls later : List ApprovalCall} (h : Splits record (calls ++ call :: later)) :
    Begun record calls := by
  have hcover := h.cover
  rw [typesOf_append, typesOf] at hcover
  refine ⟨fun c hmem => h.each c (List.mem_append_left _ hmem),
    (List.pairwise_append.mp h.disjoint).1, ?_, ?_⟩
  · rw [← hcover]
    exact Finset.subset_union_left
  · -- the next call names a type, and it is a new one
    have hnext := h.each call (List.mem_append_right _ List.mem_cons_self)
    obtain ⟨a, ha⟩ := Finset.nonempty_iff_ne_empty.mpr hnext.nonempty
    refine ⟨a, ?_, fun hbefore => Finset.disjoint_left.mp (disjoint_typesOf h.disjoint) hbefore ha⟩
    rw [← hcover]
    exact Finset.mem_union_right _ (Finset.mem_union_left _ ha)

theorem Begun.init {calls : List ApprovalCall} (h : Begun record (calls ++ [call])) :
    Begun record calls := by
  have hsubset := h.subset
  obtain ⟨a, hpending, ha⟩ := h.left
  rw [typesOf_append, Finset.union_subset_iff] at hsubset
  rw [typesOf_append] at ha
  exact ⟨fun c hmem => h.each c (List.mem_append_left _ hmem),
    (List.pairwise_append.mp h.disjoint).1, hsubset.1, a, hpending,
    fun hbefore => ha (Finset.mem_union_left _ hbefore)⟩

theorem typesOf_concat (calls : List ApprovalCall) (call : ApprovalCall) :
    typesOf (calls ++ [call]) = typesOf calls ∪ call.types := by
  rw [typesOf_append, typesOf, typesOf, Finset.union_empty]

/-- One more call of a split that has begun. -/
theorem Begun.step {calls : List ApprovalCall} (h : Begun record (calls ++ [call]))
    (hget : (approving repository projectId calls).get projectId = some r)
    (hopen : Open record (typesOf calls) r) :
    Reports (approving repository projectId calls) (call.on projectId) .waitingApproval ∧
      ∃ r', (approving repository projectId (calls ++ [call])).get projectId = some r' ∧
        Open record (typesOf (calls ++ [call])) r' := by
  have hmay := h.each call (List.mem_append_right _ List.mem_cons_self)
  have hsubset := h.subset
  have hleft := h.left
  rw [typesOf_concat] at hsubset hleft
  have hnew : ¬ call.types ⊆ typesOf calls := by
    obtain ⟨a, ha⟩ := Finset.nonempty_iff_ne_empty.mpr hmay.nonempty
    exact fun hsub => Finset.disjoint_left.mp (disjoint_typesOf h.disjoint) (hsub ha) ha
  rw [approving_concat, typesOf_concat]
  exact step_of_part hget hopen hmay (Finset.union_subset_iff.mp hsubset).2 hnew hleft

/-- Along the calls of a split, the stored record is the first one with the decisions written. -/
theorem Begun.run {calls : List ApprovalCall} (h : Begun record calls)
    (hget : repository.get projectId = some record) (hundecided : Undecided record)
    (hwaiting : record.project.status = .waitingApproval) :
    ∃ r, (approving repository projectId calls).get projectId = some r ∧
      Open record (typesOf calls) r := by
  induction calls using List.reverseRecOn with
  | nil => exact ⟨record, hget, ApprovedUpTo.refl record, hundecided, hwaiting⟩
  | append_singleton calls call ih =>
      obtain ⟨r, hr, hopen⟩ := ih h.init
      exact (h.step hr hopen).2

/-- Nothing that was called up to now does anything again, in any environment. -/
theorem Begun.repeated {calls : List ApprovalCall} (h : Begun record calls)
    (hget : (approving repository projectId calls).get projectId = some r)
    (hopen : Open record (typesOf calls) r) {call : ApprovalCall} (hmem : call ∈ calls)
    (env : Environment) :
    Reports (approving repository projectId calls) ({ call with env }.on projectId)
        .waitingApproval ∧
      ({ call with env }.on projectId).step (approving repository projectId calls) =
        approving repository projectId calls := by
  have hmay := h.each call hmem
  have hdone : call.types ⊆ typesOf calls := fun a ha => mem_typesOf.mpr ⟨call, hmem, ha⟩
  have hrepeated : MayApprove record { call with env } := ⟨hmay.parsed, hmay.nonempty, hmay.allowed⟩
  exact step_of_repeated hget hopen hrepeated (hdone.trans h.subset) hdone h.left

/-- The call at the end of a split: what it stores is what the pass from the released record stores. -/
theorem Splits.last {front : List ApprovalCall} {provider : TrendProvider}
    (h : Splits record (front ++ [call])) (hget : repository.get projectId = some record)
    (hundecided : Undecided record) (hwaiting : record.project.status = .waitingApproval)
    (hprovider : getTrendProvider call.env.trendProviderStrict call.args.trendProviderName =
      .ok provider) :
    ∃ approved released completion saved,
      ApprovedUpTo record (approvalActionState record).pendingActionTypes approved ∧
      Released approved released ∧
      executePendingTasks call.env.runtime released call.args.trendProviderName
        ((approvalActionState record).approvedActions ∪
          (approvalActionState record).pendingActionTypes) false
        (coerceActor call.args.actor .approver) = .ok completion ∧
      completion.saved = some saved ∧
      (approving repository projectId (front ++ [call])).get projectId = some saved ∧
      ((call.on projectId).outcome (approving repository projectId front)).answer =
        .ok (some completion.result) := by
  have hbegun := h.begun
  obtain ⟨r, hr, hopen⟩ := hbegun.run hget hundecided hwaiting
  have hcover := h.cover
  rw [typesOf_concat] at hcover
  obtain ⟨approved, released, happroved, hreleased, hpass⟩ :=
    resume_of_last hopen (h.each call (List.mem_append_right _ List.mem_cons_self)) hcover hbegun.left
  have hruntime : call.env.runtime.getTrendProvider call.args.trendProviderName = .ok provider := by
    rw [Environment.runtime_getTrendProvider, hprovider]
  obtain ⟨completion, hcompletion⟩ := executePendingTasks_answers call.env.runtime false
    ((approvalActionState record).approvedActions ∪ (approvalActionState record).pendingActionTypes)
    (coerceActor call.args.actor .approver) hreleased.status hruntime
    (getTrendProvider_answers hprovider)
  obtain ⟨_, saved, -, hsaved, -⟩ := executed_of_ok hreleased.status hcompletion
  have hanswer := hpass.trans hcompletion
  have hsavedBy : savedBy ((ProjectOperation.resumeFromApproval call.args).body call.env.runtime r) =
      some saved := by
    show savedBy (resumeFromApproval call.env.runtime call.args r) = some saved
    rw [hanswer, savedBy, hsaved]
  refine ⟨approved, released, completion, saved, happroved, hreleased, hcompletion, hsaved, ?_, ?_⟩
  · rw [approving_concat]
    exact get_of_saved hr hsavedBy
  · rw [Call.outcome_on hr, hanswer, Outcome.of]

end Calls

/-- Approving piecewise.  Every call of a split but the last reports that the project still waits,
    leaves its tasks, and does nothing when it is repeated; the last call answers as the one call
    with every pending type does, and the two stored records agree. -/
theorem approved_piecewise {repository : InMemoryProjectRepository} {projectId : String}
    {record : ProjectRecord} {front : List ApprovalCall} {last whole : ApprovalCall}
    {provider : TrendProvider} (hget : repository.get projectId = some record)
    (hwaiting : record.project.status = .waitingApproval) (hundecided : Undecided record)
    (hsplits : Splits record (front ++ [last])) (hwhole : Splits record [whole])
    (hprovider : getTrendProvider last.env.trendProviderStrict last.args.trendProviderName =
      .ok provider)
    (hprovider' : getTrendProvider whole.env.trendProviderStrict whole.args.trendProviderName =
      .ok provider) :
    (∀ before call later, front = before ++ call :: later →
      Reports (approving repository projectId before) (call.on projectId) .waitingApproval ∧
      (∃ r, (approving repository projectId (before ++ [call])).get projectId = some r ∧
        r.project.status = .waitingApproval ∧ r.tasks = record.tasks) ∧
      ∀ repeated ∈ before ++ [call], ∀ env,
        Reports (approving repository projectId (before ++ [call]))
          ({ repeated with env }.on projectId) .waitingApproval ∧
        ({ repeated with env }.on projectId).step
          (approving repository projectId (before ++ [call])) =
            approving repository projectId (before ++ [call])) ∧
    ∃ status r r', Reports (approving repository projectId front) (last.on projectId) status ∧
      Reports repository (whole.on projectId) status ∧
      (approving repository projectId (front ++ [last])).get projectId = some r ∧
      (approving repository projectId [whole]).get projectId = some r' ∧
      r.project.status = status ∧ SameWork r' r := by
  constructor
  · rintro before call later rfl
    have hsplit := hsplits
    rw [List.append_assoc, List.cons_append, ← List.singleton_append, ← List.append_assoc] at hsplit
    obtain ⟨next, rest, hnext⟩ := List.exists_cons_of_ne_nil
      (List.append_ne_nil_of_right_ne_nil later (List.cons_ne_nil last []))
    rw [hnext] at hsplit
    have hbegun := hsplit.begun
    obtain ⟨r, hr, hopen⟩ := hbegun.init.run hget hundecided hwaiting
    obtain ⟨hreports, r', hr', hopen'⟩ := hbegun.step hr hopen
    exact ⟨hreports, ⟨r', hr', hopen'.waiting, hopen'.upTo.tasks⟩,
      fun repeated hmem env => hbegun.repeated hr' hopen' hmem env⟩
  · have hone : Splits record ([] ++ [whole]) := hwhole
    obtain ⟨approved, released, completion, saved, happroved, hreleased, hcompletion, hsaved, hstored,
      hanswer⟩ := hsplits.last hget hundecided hwaiting hprovider
    obtain ⟨approved', released', completion', saved', happroved', hreleased', hcompletion', hsaved',
      hstored', hanswer'⟩ := hone.last hget hundecided hwaiting hprovider'
    have hruntime : last.env.runtime.getTrendProvider last.args.trendProviderName = .ok provider := by
      rw [Environment.runtime_getTrendProvider, hprovider]
    have hruntime' : whole.env.runtime.getTrendProvider whole.args.trendProviderName =
        .ok provider := by
      rw [Environment.runtime_getTrendProvider, hprovider']
    have hpasses := @sameWork_executePendingTasks whole.env.runtime last.env.runtime
      (coerceActor whole.args.actor .approver) (coerceActor last.args.actor .approver) released'
      released provider whole.args.trendProviderName last.args.trendProviderName
      ((approvalActionState record).approvedActions ∪ (approvalActionState record).pendingActionTypes)
      false (sameWork_released happroved' happroved hreleased' hreleased) hruntime' hruntime
    rw [hcompletion, hcompletion'] at hpasses
    obtain ⟨r', r, hwrites', hwrites, hsame⟩ := hpasses.of_ok
    have hr : saved = r := Option.some.inj (hsaved.symm.trans hwrites.saved)
    have hr' : saved' = r' := Option.some.inj (hsaved'.symm.trans hwrites'.saved)
    subst hr hr'
    exact ⟨saved.project.status, saved, saved', ⟨_, hanswer, hwrites.reported⟩,
      ⟨_, hanswer', hwrites'.reported.trans hsame.status.symm⟩, hstored, hstored', rfl, hsame⟩

/-! ### Two pending types, one call each -/

/-- A project that waits for the approval of two action types. -/
def sampleTwoPending : ProjectRecord where
  project := { id := "p", brief := sampleBrief, status := .waitingApproval }
  tasks := [{ id := "t", title := "Trends", department := .trend, status := .waitingApproval }]
  approvals :=
    [{ id := "approval-1", actionType := .externalApiSend, reason := "Trend request." },
     { id := "approval-2", actionType := .bulkModify, reason := "Cleanup." }]

def sampleApprover : ActorContext := ⟨"approver-1", .approver, .human⟩

/-- The approver approves the action types. -/
def samplePart (actions : List ApprovalActionType) : ApprovalCall where
  args := { approvedActions := actions.map .action, actor := .context sampleApprover,
            trendProviderName := "gemini" }
  env := { projectUuid := "p", approvalUuid := "2" }
  types := actions.toFinset

theorem approved_piecewise_sample :
    ∃ status r r', Reports (approving (.save .new sampleTwoPending) "p" [samplePart [.bulkModify]])
        ((samplePart [.externalApiSend]).on "p") status ∧
      Reports (.save .new sampleTwoPending)
        ((samplePart [.externalApiSend, .bulkModify]).on "p") status ∧
      (approving (.save .new sampleTwoPending) "p"
        [samplePart [.bulkModify], samplePart [.externalApiSend]]).get "p" = some r ∧
      (approving (.save .new sampleTwoPending) "p"
        [samplePart [.externalApiSend, .bulkModify]]).get "p" = some r' ∧
      r.project.status = status ∧ SameWork r' r := by
  have hallowed : ∀ actions : List ApprovalActionType,
      actions.toFinset ⊆ {.externalApiSend, .bulkModify} → ∀ actionType ∈ actions.toFinset,
      Allowed sampleTwoPending sampleApprover none actionType := by
    intro actions hsubset actionType hmem
    rcases Finset.mem_insert.mp (hsubset hmem) with rfl | hmem
    · decide
    · rw [Finset.mem_singleton.mp hmem]
      decide
  have hbulk : MayApprove sampleTwoPending (samplePart [.bulkModify]) :=
    ⟨rfl, by decide, hallowed _ (by decide)⟩
  have hexternal : MayApprove sampleTwoPending (samplePart [.externalApiSend]) :=
    ⟨rfl, by decide, hallowed _ (by decide)⟩
  have hboth : MayApprove sampleTwoPending (samplePart [.externalApiSend, .bulkModify]) :=
    ⟨rfl, by decide, hallowed _ (by decide)⟩
  have hundecided : Undecided sampleTwoPending := by
    unfold Undecided
    decide
  have hsplits : Splits sampleTwoPending
      ([samplePart [.bulkModify]] ++ [samplePart [.externalApiSend]]) := by
    refine ⟨?_, ?_, by decide⟩
    · rw [List.singleton_append, List.forall_mem_cons, List.forall_mem_singleton]
      exact ⟨hbulk, hexternal⟩
    · rw [List.singleton_append, List.pairwise_pair]
      decide
  have hwhole : Splits sampleTwoPending [samplePart [.externalApiSend, .bulkModify]] := by
    refine ⟨?_, List.pairwise_singleton _ _, by decide⟩
    rw [List.forall_mem_singleton]
    exact hboth
  have hprovider : getTrendProvider none "gemini" = .ok geminiTrendProvider := by rfl
  have hget := InMemoryProjectRepository.get_save_self .new sampleTwoPending
  exact (approved_piecewise hget rfl hundecided hsplits hwhole hprovider hprovider).2

end CodexOrchestrator
