import CodexOrchestrator.Lifecycle

/-!
# Reapproval — approving a project that waits

A waiting project has one pending request, for the external send.  An approval of exactly this type
goes through, unless an earlier request of the type was rejected: the rejected request stays in the
record, and the check on rejected actions does not tell it from the pending one.
-/

open Raise

namespace CodexOrchestrator

section

variable {rt : Runtime} {r r' : ProjectRecord} {args : ApprovalResumeArgs}

/-- No request of a type that is pending was rejected before. -/
def NoneRejected (r : ProjectRecord) : Prop :=
  ∀ approval ∈ r.approvals, approval.status = .rejected →
    approval.actionType ∉ (approvalActionState r).pendingActionTypes

theorem noneRejected_iff : NoneRejected r ↔
    (approvalActionState r).pendingActionTypes ∩ (approvalActionState r).rejectedActions = ∅ := by
  rw [Finset.eq_empty_iff_forall_notMem]
  constructor
  · intro h actionType hmem
    obtain ⟨hpending, hrejected⟩ := Finset.mem_inter.mp hmem
    obtain ⟨approval, happroval, hstatus, rfl⟩ := mem_approvalActionTypes.mp hrejected
    exact h approval happroval hstatus hpending
  · intro h approval hmem hstatus hpending
    exact h approval.actionType (Finset.mem_inter.mpr
      ⟨hpending, mem_approvalActionTypes.mpr ⟨approval, hmem, hstatus, rfl⟩⟩)

theorem pendingActionTypes_subset_known :
    (approvalActionState r).pendingActionTypes ⊆ (approvalActionState r).knownActions := by
  intro actionType hmem
  obtain ⟨approval, happroval, -, htype⟩ := mem_approvalActionTypes.mp hmem
  exact mem_knownActions.mpr ⟨approval, happroval, htype⟩

/-- The call that names exactly the pending types passes its checks. -/
theorem OnLane.approvalChecks (h : OnLane .awaiting r)
    (hparsed : parseApprovedActions args.approvedActions =
      .ok (approvalActionState r).pendingActionTypes) (hnone : NoneRejected r) :
    ApprovalChecks args r (approvalActionState r).pendingActionTypes := by
  have hpending : .externalApiSend ∈ (approvalActionState r).pendingActionTypes := by
    rw [h.pendingActionTypes]
    exact Finset.mem_singleton_self _
  obtain ⟨approval, hmem, hstatus, -⟩ := mem_approvalActionTypes.mp hpending
  exact ⟨hparsed, Finset.ne_empty_of_mem hpending, ⟨approval, hmem, hstatus⟩,
    pendingActionTypes_subset_known, noneRejected_iff.mp hnone⟩

/-- A call whose checks pass delivers the project, when the actor is allowed and the provider
    answers. -/
theorem OnLane.approved (h : OnLane .awaiting r)
    (checks : ApprovalChecks args r (approvalActionState r).pendingActionTypes)
    (hallowed : ∀ actionType ∈ (approvalActionState r).pendingActionTypes,
      Allowed r (coerceActor args.actor .approver) args.projectAllowedActorIdsByAction actionType)
    {provider : TrendProvider} (hprovider : rt.getTrendProvider args.trendProviderName = .ok provider)
    (hanswers : provider.Answers) :
    ∃ completion r', resumeFromApproval rt args r = .ok completion ∧ completion.saved = some r' ∧
      OnLane .completed r' := by
  have hsend : .externalApiSend ∈ actionsToApprove r (approvalActionState r).pendingActionTypes := by
    rw [actionsToApprove, h.approvedActions (by decide), h.pendingActionTypes, Finset.sdiff_empty]
    exact Finset.mem_singleton_self _
  obtain ⟨granted, released, completion, r', hgranted, hreleased, hcompletion, hsaved, hexecuted⟩ :=
    resumeFromApproval_fully h.status checks
      (fun actionType hmem => hallowed actionType (Finset.sdiff_subset hmem))
      (Finset.sdiff_self _) hprovider hanswers
  have hunderway := (h.afterApproval rt _ _ hgranted hsend).released h hreleased
  have hopen := trendApprovalMissing_eq_false provider
    (Finset.mem_union_right (approvalActionState r).approvedActions hsend)
  exact ⟨completion, r', hcompletion, hsaved, hunderway.executed_of_open hexecuted hopen⟩

end

/-- An approval of exactly the pending types, by an actor who is allowed to make it and with a
    supported provider, returns and takes the project out of `waiting_approval` if and only if no
    request of these types was rejected before. -/
theorem waiting_approved_iff {calls : List Call} {projectId : String} {record : ProjectRecord}
    (hget : (afterCalls calls).get projectId = some record)
    (hwaiting : record.project.status = .waitingApproval) (env : Environment)
    {args : ApprovalResumeArgs}
    (hparsed : parseApprovedActions args.approvedActions =
      .ok (approvalActionState record).pendingActionTypes)
    (hallowed : ∀ actionType ∈ (approvalActionState record).pendingActionTypes,
      Allowed record (coerceActor args.actor .approver) args.projectAllowedActorIdsByAction actionType)
    {provider : TrendProvider}
    (hprovider : getTrendProvider env.trendProviderStrict args.trendProviderName = .ok provider) :
    ((∃ result, (perform env.runtime (afterCalls calls)
        (.onProject projectId (.resumeFromApproval args))).2 = .ok result) ∧
      ∃ saved, (perform env.runtime (afterCalls calls)
          (.onProject projectId (.resumeFromApproval args))).1.get projectId = some saved ∧
        saved.project.status ≠ .waitingApproval) ↔ NoneRejected record := by
  obtain ⟨lane, hlane⟩ := stored_lane hget
  have hawaiting := Lane.eq_awaiting (hlane.status.symm.trans hwaiting)
  subst hawaiting
  constructor
  · rintro ⟨-, saved, hstored, hleft⟩
    cases hsaved : savedBy (resumeFromApproval env.runtime args record) with
    -- without a save the project would still wait
    | none =>
        have hnone : savedBy ((ProjectOperation.resumeFromApproval args).body env.runtime record) =
            none := hsaved
        rw [get_of_unsaved hget hnone] at hstored
        rw [← Option.some.inj hstored] at hleft
        exact absurd hwaiting hleft
    | some r' =>
        rw [resumeFromApproval_of_waiting args hwaiting] at hsaved
        obtain ⟨requested, checks⟩ := approvalChecks_of_saved hsaved
        have hrequested := Except.ok.inj (checks.parsed.symm.trans hparsed)
        have hnotRejected := checks.notRejected
        rw [hrequested] at hnotRejected
        exact noneRejected_iff.mpr hnotRejected
  · intro hnone
    have hruntime : env.runtime.getTrendProvider args.trendProviderName = .ok provider := by
      rw [Environment.runtime_getTrendProvider, hprovider]
    obtain ⟨completion, saved, hcompletion, hsaved, hcompleted⟩ :=
      hlane.approved (hlane.approvalChecks hparsed hnone) hallowed hruntime
        (getTrendProvider_answers hprovider)
    have hsavedBy : savedBy ((ProjectOperation.resumeFromApproval args).body env.runtime record) =
        some saved := by
      show savedBy (resumeFromApproval env.runtime args record) = _
      rw [hcompletion]
      exact hsaved
    have hanswer : (perform env.runtime (afterCalls calls)
        (.onProject projectId (.resumeFromApproval args))).2 = .ok (some completion.result) := by
      rw [perform_onProject env.runtime _ hget]
      show (Outcome.of (resumeFromApproval env.runtime args record)).answer = _
      rw [hcompletion]
      rfl
    refine ⟨⟨_, hanswer⟩, saved, get_of_saved hget hsavedBy, ?_⟩
    rw [hcompleted.status]
    decide

theorem waiting_approved_iff_sample : ∃ saved,
    (perform sampleApproval.env.runtime (afterCalls [sampleRun])
      (.onProject "p" (.resumeFromApproval sampleApprovalArgs))).1.get "p" = some saved ∧
    saved.project.status ≠ .waitingApproval := by
  have hstored : ((afterCalls [sampleRun]).get "p").any (fun record =>
      decide (record.project.status = .waitingApproval) &&
      decide ((approvalActionState record).pendingActionTypes = {.externalApiSend}) &&
      decide (Allowed record sampleOwner none .externalApiSend) &&
      decide ((approvalActionState record).pendingActionTypes ∩
        (approvalActionState record).rejectedActions = ∅)) = true := by decide
  obtain ⟨record, hget, hfacts⟩ := (Option.any_eq_true _ _).mp hstored
  simp only [Bool.and_eq_true, decide_eq_true_eq] at hfacts
  obtain ⟨⟨⟨hwaiting, htypes⟩, hallowed⟩, hrejected⟩ := hfacts
  have hparsed : parseApprovedActions sampleApprovalArgs.approvedActions =
      .ok (approvalActionState record).pendingActionTypes := by
    rw [htypes]
    rfl
  have hactor : ∀ actionType ∈ (approvalActionState record).pendingActionTypes,
      Allowed record (coerceActor sampleApprovalArgs.actor .approver)
        sampleApprovalArgs.projectAllowedActorIdsByAction actionType := by
    rw [htypes]
    intro actionType hmem
    rw [Finset.mem_singleton.mp hmem]
    exact hallowed
  have hprovider : getTrendProvider sampleApproval.env.trendProviderStrict
      sampleApprovalArgs.trendProviderName = .ok geminiTrendProvider := by rfl
  exact ((waiting_approved_iff hget hwaiting sampleApproval.env hparsed hactor hprovider).mpr
    (noneRejected_iff.mpr hrejected)).2

/-- After a rejection and a rebuild the project waits again, and its new request cannot be
    approved. -/
theorem reapproval_raises :
    ((afterCalls [sampleRun, sampleRejection, sampleRevision .rebuilding]).get "p").any (fun record =>
      decide (record.project.status = .waitingApproval) &&
      decide ((approvalActionState record).pendingActionTypes = {.externalApiSend}) &&
      decide (Allowed record sampleOwner none .externalApiSend)) = true ∧
    parseApprovedActions sampleApprovalArgs.approvedActions = .ok {.externalApiSend} ∧
    getTrendProvider none sampleApprovalArgs.trendProviderName = .ok geminiTrendProvider ∧
    (perform sampleApproval.env.runtime
        (afterCalls [sampleRun, sampleRejection, sampleRevision .rebuilding])
        (.onProject "p" (.resumeFromApproval sampleApprovalArgs))).2 =
      .error (.valueError "Action(s) already rejected: external_api_send") ∧
    ((perform sampleApproval.env.runtime
        (afterCalls [sampleRun, sampleRejection, sampleRevision .rebuilding])
        (.onProject "p" (.resumeFromApproval sampleApprovalArgs))).1.get "p").any (fun record =>
      decide (record.project.status = .waitingApproval)) = true := by
  refine ⟨by decide, rfl, rfl, ?_, by decide⟩
  rfl

end CodexOrchestrator
