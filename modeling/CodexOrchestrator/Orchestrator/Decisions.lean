import CodexOrchestrator.Orchestrator.Edits
import CodexOrchestrator.Orchestrator.Frame

/-!
# Decisions — authorization and the decision loops

The authorization loop either grants every action type it is given, or saves its log and raises at
the first denial.  The decision loops write one decision on each pending request they select, and
mark the approval checkpoint when they select any.
-/

open PyText Raise

namespace CodexOrchestrator

/-! ## Sets of action types -/

@[simp] theorem mem_sortedActions {actionType : ApprovalActionType}
    {actions : Finset ApprovalActionType} : actionType ∈ sortedActions actions ↔ actionType ∈ actions := by
  simp [sortedActions, ApprovalActionType.mem_sortedByValue]

theorem mem_approvalActionTypes {r : ProjectRecord} {status : ApprovalStatus}
    {actionType : ApprovalActionType} :
    actionType ∈ approvalActionTypes r status ↔
      ∃ approval ∈ r.approvals, approval.status = status ∧ approval.actionType = actionType := by
  simp [approvalActionTypes, and_assoc]

theorem mem_knownActions {r : ProjectRecord} {actionType : ApprovalActionType} :
    actionType ∈ (approvalActionState r).knownActions ↔
      ∃ approval ∈ r.approvals, approval.actionType = actionType := by
  simp [approvalActionState]

theorem pendingApprovals_isEmpty {r : ProjectRecord} :
    (approvalActionState r).pendingApprovals.isEmpty = true ↔
      ∀ approval ∈ r.approvals, approval.status ≠ .pending := by
  constructor
  · intro h approval hmem hpending
    obtain ⟨i, hi, he⟩ := List.mem_iff_getElem.mp hmem
    have hentry : (approval, i) ∈ (approvalActionState r).pendingApprovals := by
      rw [approvalActionState, List.mem_filter]
      refine ⟨?_, by simpa using hpending⟩
      rw [List.mem_zipIdx_iff_getElem?]
      exact List.getElem?_eq_some_iff.mpr ⟨hi, he⟩
    rw [List.isEmpty_iff.mp h] at hentry
    cases hentry
  · intro h
    rw [List.isEmpty_iff, approvalActionState, List.filter_eq_nil_iff]
    intro entry hentry
    have hmem : entry.1 ∈ r.approvals := by
      rw [List.mem_zipIdx_iff_getElem?] at hentry
      exact List.mem_of_getElem? hentry
    simpa using h entry.1 hmem

theorem exists_pending {r : ProjectRecord}
    (h : ¬ (approvalActionState r).pendingApprovals.isEmpty = true) :
    ∃ approval ∈ r.approvals, approval.status = .pending := by
  rw [pendingApprovals_isEmpty] at h
  by_contra hnone
  exact h fun approval hmem hstatus => hnone ⟨approval, hmem, hstatus⟩

/-! ## Authorization -/

/-- The policy of a record lets the actor decide about the action type, under the allow-list. -/
def Allowed (r : ProjectRecord) (actor : ActorContext) (allowList : Option (Dict (List String)))
    (actionType : ApprovalActionType) : Prop :=
  (authorizeAction actionType actor (some r.project.policy) allowList).allowed = true

instance (r : ProjectRecord) (actor : ActorContext) (allowList : Option (Dict (List String)))
    (actionType : ApprovalActionType) : Decidable (Allowed r actor allowList actionType) :=
  inferInstanceAs (Decidable (_ = true))

/-- The event types of an authorization loop without a denial. -/
def HistoryEventType.isGrant : HistoryEventType → Bool
  | .authorizationGranted | .policyOverrideApplied => true
  | _ => false

/-- `r'` is `r` with the log of an authorization loop, which granted every action of `actions`. -/
structure Granted (actor : ActorContext) (allowList : Option (Dict (List String)))
    (actions : List ApprovalActionType) (r r' : ProjectRecord) : Prop where
  log : ∃ events, r' = { r with events := r.events ++ events } ∧
    (∀ event ∈ events, event.eventType.isGrant = true) ∧
    ∀ actionType ∈ actions, ∃ event ∈ events, event.eventType = .authorizationGranted ∧
      event.actorContext = actor ∧ event.concerns actionType
  allowed : ∀ actionType ∈ actions, Allowed r actor allowList actionType

section

variable (rt : Runtime) {actor : ActorContext} {allowList : Option (Dict (List String))}
  {r r' : ProjectRecord}

theorem recordEvent_log (r : ProjectRecord) (eventType : HistoryEventType) (actor : ActorContext)
    (reason : String) (metadata : JsonDict) :
    ∃ event, recordEvent rt r eventType actor reason metadata =
        { r with events := r.events ++ [event] } ∧
      event.eventType = eventType ∧ event.actorContext = actor ∧ event.metadata = metadata :=
  ⟨_, rfl, rfl, rfl, rfl⟩

theorem recordPolicyOverride_log (actor : ActorContext) (actionType : ApprovalActionType)
    (reason : String) (decision : AuthorizationDecision) :
    ∃ events, recordPolicyOverride rt r actor actionType reason decision =
        { r with events := r.events ++ events } ∧
      ∀ event ∈ events, event.eventType.isGrant = true := by
  unfold recordPolicyOverride
  split
  · refine ⟨_, rfl, ?_⟩
    intro event hevent
    rw [List.mem_singleton.mp hevent]
    rfl
  · exact ⟨[], by rw [List.append_nil], by simp⟩

theorem recordAuthorizationGranted_log (actor : ActorContext) (actionType : ApprovalActionType)
    (decision : AuthorizationDecision) :
    ∃ events, recordAuthorizationGranted rt r actor actionType decision =
        { r with events := r.events ++ events } ∧
      (∀ event ∈ events, event.eventType.isGrant = true) ∧
      ∃ event ∈ events, event.eventType = .authorizationGranted ∧ event.actorContext = actor ∧
        event.concerns actionType := by
  obtain ⟨events, hoverride, hgrant⟩ := recordPolicyOverride_log rt (r := r) actor actionType
    "Project policy override was applied for authorization." decision
  unfold recordAuthorizationGranted
  rw [hoverride]
  obtain ⟨granted, he, htype, hactor, hmetadata⟩ := recordEvent_log rt
    { r with events := r.events ++ events } .authorizationGranted actor "Authorization granted."
    [("action_type", .str actionType.value), ("policy_source", .str decision.policySource),
      ("strict_mode", .bool decision.strictMode)]
  refine ⟨events ++ [granted], ?_, ?_, granted, by simp, htype, hactor, ?_⟩
  · dsimp only
    rw [he, List.append_assoc]
  · intro event hevent
    rcases List.mem_append.mp hevent with hevent | hevent
    · exact hgrant event hevent
    · rw [List.mem_singleton.mp hevent, htype]
      rfl
  · rw [HistoryEvent.concerns, HistoryEvent.text?, hmetadata]
    rfl

/-- The record that a denial saves. -/
theorem recordAuthorizationDenied_log (actor : ActorContext) (actionType : ApprovalActionType)
    (decision : AuthorizationDecision) :
    ∃ events failed, recordAuthorizationDenied rt r actor actionType decision =
        { r with events := r.events ++ (events ++ [failed]) } ∧
      (∀ event ∈ events, event.eventType.isGrant = true) ∧
      failed.eventType = .authorizationFailed := by
  obtain ⟨events, hoverride, hgrant⟩ := recordPolicyOverride_log rt (r := r) actor actionType
    "Project policy override was evaluated for authorization." decision
  unfold recordAuthorizationDenied recordAuthorizationFailure
  rw [hoverride]
  obtain ⟨failed, he, htype, -⟩ := recordEvent_log rt { r with events := r.events ++ events }
    .authorizationFailed actor decision.reason
    [("action_type", .str actionType.value), ("policy_source", .str decision.policySource),
      ("strict_mode", .bool decision.strictMode),
      ("override_applied", .bool decision.overrideApplied)]
  refine ⟨events, failed, ?_, hgrant, htype⟩
  dsimp only
  rw [he, List.append_assoc]

theorem granted_of_authorizeEach {actions : List ApprovalActionType}
    (h : authorizeEach rt actor allowList actions r = .ok r') :
    Granted actor allowList actions r r' := by
  induction actions generalizing r with
  | nil =>
      cases h
      exact ⟨⟨[], by rw [List.append_nil], by simp, by simp⟩, by simp⟩
  | cons actionType rest ih =>
      rw [authorizeEach] at h
      split at h
      · rename_i hallowed
        obtain ⟨events, hgranted, hgrant, event, hmem, hevent⟩ :=
          recordAuthorizationGranted_log rt (r := r) actor actionType
            (authorizeAction actionType actor (some r.project.policy) allowList)
        rw [hgranted] at h
        -- the log of this type, then the log of the types after it
        obtain ⟨⟨later, he, hlater, hrest⟩, hall⟩ := ih h
        refine ⟨⟨events ++ later, ?_, ?_, ?_⟩, ?_⟩
        · rw [he, List.append_assoc]
        · intro e hmem
          exact (List.mem_append.mp hmem).elim (hgrant e) (hlater e)
        · intro a ha
          rcases List.mem_cons.mp ha with rfl | ha
          · exact ⟨event, List.mem_append_left _ hmem, hevent⟩
          · obtain ⟨e, hmem, he⟩ := hrest a ha
            exact ⟨e, List.mem_append_right _ hmem, he⟩
        · intro a ha
          rcases List.mem_cons.mp ha with rfl | ha
          · exact hallowed
          · exact hall a ha
      · cases h

/-- When every action is allowed, the loop goes through. -/
theorem authorizeEach_of_allowed {actions : List ApprovalActionType}
    (h : ∀ actionType ∈ actions, Allowed r actor allowList actionType) :
    ∃ r', authorizeEach rt actor allowList actions r = .ok r' := by
  induction actions generalizing r with
  | nil => exact ⟨r, rfl⟩
  | cons actionType rest ih =>
      rw [authorizeEach]
      have hallowed : (authorizeAction actionType actor (some r.project.policy) allowList).allowed =
          true := h actionType List.mem_cons_self
      rw [if_pos hallowed]
      obtain ⟨events, hgranted, -⟩ := recordAuthorizationGranted_log rt (r := r) actor actionType
        (authorizeAction actionType actor (some r.project.policy) allowList)
      rw [hgranted]
      exact ih fun a ha => h a (List.mem_cons_of_mem _ ha)

/-- A denial: the loop saves its log, which ends with the failure, and raises the reason. -/
structure Denied (actor : ActorContext) (allowList : Option (Dict (List String)))
    (actions : List ApprovalActionType) (r : ProjectRecord) (abort : Abort) : Prop where
  denied : ∃ actionType ∈ actions, ¬ Allowed r actor allowList actionType ∧
    abort.error = .permissionError
      (authorizeAction actionType actor (some r.project.policy) allowList).reason
  saved : ∃ events failed,
    abort.saved = some { r with events := r.events ++ (events ++ [failed]) } ∧
    (∀ event ∈ events, event.eventType.isGrant = true) ∧ failed.eventType = .authorizationFailed

theorem denied_of_authorizeEach {actions : List ApprovalActionType} {abort : Abort}
    (h : authorizeEach rt actor allowList actions r = .error abort) :
    Denied actor allowList actions r abort := by
  induction actions generalizing r with
  | nil => cases h
  | cons actionType rest ih =>
      rw [authorizeEach] at h
      split at h
      · obtain ⟨events, hgranted, hgrant, -⟩ :=
          recordAuthorizationGranted_log rt (r := r) actor actionType
            (authorizeAction actionType actor (some r.project.policy) allowList)
        rw [hgranted] at h
        obtain ⟨⟨a, ha, hdenied, herror⟩, later, failed, hsaved, hlater, hfailed⟩ := ih h
        refine ⟨⟨a, List.mem_cons_of_mem _ ha, hdenied, herror⟩, events ++ later, failed, ?_, ?_,
          hfailed⟩
        · rw [hsaved, List.append_assoc, List.append_assoc]
        · intro e hmem
          exact (List.mem_append.mp hmem).elim (hgrant e) (hlater e)
      -- the first type that is denied ends the loop; the types before it were granted
      · rename_i hdenied
        cases h
        obtain ⟨events, failed, he, hgrant, hfailed⟩ :=
          recordAuthorizationDenied_log rt (r := r) actor actionType
            (authorizeAction actionType actor (some r.project.policy) allowList)
        exact ⟨⟨actionType, List.mem_cons_self, hdenied, rfl⟩, events, failed, by rw [he], hgrant,
          hfailed⟩

/-- `authorize_action` for every action of a set, as the operations call it. -/
theorem granted_of_authorizeNewActions {actions : Finset ApprovalActionType}
    (h : authorizeNewActions rt r actor actions allowList = .ok r') :
    Granted actor allowList (sortedActions actions) r r' := by
  unfold authorizeNewActions at h
  split at h
  · rename_i hempty
    cases h
    subst hempty
    exact ⟨⟨[], by rw [List.append_nil], by simp, by simp⟩, by simp⟩
  · exact granted_of_authorizeEach rt h

theorem authorizeNewActions_of_allowed {actions : Finset ApprovalActionType}
    (h : ∀ actionType ∈ actions, Allowed r actor allowList actionType) :
    ∃ r', authorizeNewActions rt r actor actions allowList = .ok r' := by
  unfold authorizeNewActions
  split
  · exact ⟨r, rfl⟩
  · exact authorizeEach_of_allowed rt fun a ha => h a (mem_sortedActions.mp ha)

theorem denied_of_authorizeNewActions {actions : Finset ApprovalActionType} {abort : Abort}
    (h : authorizeNewActions rt r actor actions allowList = .error abort) :
    Denied actor allowList (sortedActions actions) r abort := by
  unfold authorizeNewActions at h
  split at h
  · cases h
  · exact denied_of_authorizeEach rt h

theorem Granted.state {actions : List ApprovalActionType}
    (h : Granted actor allowList actions r r') : r'.state = r.state := by
  obtain ⟨events, he, -⟩ := h.log
  rw [he]
  rfl

/-- The authorization log is made of log entries only. -/
theorem edits_log {may : ActorContext → ApprovalActionType → Prop} (events : List HistoryEvent)
    (h : ∀ event ∈ events, event.eventType.tracksChange = false) :
    Edits may r { r with events := r.events ++ events } := by
  induction events generalizing r with
  | nil =>
      rw [List.append_nil]
      exact .refl r
  | cons event rest ih =>
      have hrest := ih (r := { r with events := r.events ++ [event] }) fun e he =>
        h e (List.mem_cons_of_mem _ he)
      have hfirst : Edit may r { r with events := r.events ++ [event] } :=
        .log event (h event List.mem_cons_self)
      dsimp only at hrest
      rw [List.append_assoc, List.singleton_append] at hrest
      exact (Edits.of hfirst).trans hrest

theorem tracksChange_of_isGrant {eventType : HistoryEventType} (h : eventType.isGrant = true) :
    eventType.tracksChange = false := by
  cases eventType <;> first | rfl | cases h

theorem Granted.edits {may : ActorContext → ApprovalActionType → Prop}
    {actions : List ApprovalActionType} (h : Granted actor allowList actions r r') :
    Edits may r r' := by
  obtain ⟨events, he, hgrant, -⟩ := h.log
  rw [he]
  exact edits_log events fun event hmem => tracksChange_of_isGrant (hgrant event hmem)

theorem Denied.edits {may : ActorContext → ApprovalActionType → Prop}
    {actions : List ApprovalActionType} {abort : Abort} (h : Denied actor allowList actions r abort)
    (hsaved : abort.saved = some r') : Edits may r r' := by
  obtain ⟨events, failed, he, hgrant, hfailed⟩ := h.saved
  rw [hsaved] at he
  rw [Option.some.inj he]
  apply edits_log
  intro event hmem
  rcases List.mem_append.mp hmem with hmem | hmem
  · exact tracksChange_of_isGrant (hgrant event hmem)
  · rw [List.mem_singleton.mp hmem, hfailed]
    rfl

theorem Denied.state {actions : List ApprovalActionType} {abort : Abort}
    (h : Denied actor allowList actions r abort) (hsaved : abort.saved = some r') :
    r'.state = r.state := by
  obtain ⟨events, failed, he, -⟩ := h.saved
  rw [hsaved] at he
  rw [Option.some.inj he]
  rfl

end

/-! ## The decision loops -/

/-- The mark that a decision leaves on the approval checkpoint. -/
def Checkpoint.decided (approved : Bool) (approver note : String) (checkpoint : Checkpoint) :
    Checkpoint :=
  { checkpoint with approved, approver, note }

/-- What a decision loop does: each selected request gets the decision, and the approval checkpoint
    is marked when there is one. -/
structure Decided (may : ActorContext → ApprovalActionType → Prop)
    (selected : ApprovalRequest → Bool) (decision : ApprovalRequest → ApprovalRequest)
    (mark : Checkpoint → Checkpoint) (r r' : ProjectRecord) : Prop where
  edits : Edits may r r'
  state : r'.state = { r.state with
    approvals := r.approvals.map fun approval =>
      if selected approval then decision approval else approval
    checkpoints :=
      if r.approvals.any selected then
        editCheckpoint (approvalCheckpointId r.project.id) mark r.checkpoints
      else r.checkpoints }

theorem editCheckpoint_decided_twice {checkpointId approver note : String} {approved : Bool}
    (checkpoints : List Checkpoint) :
    editCheckpoint checkpointId (Checkpoint.decided approved approver note)
        (editCheckpoint checkpointId (Checkpoint.decided approved approver note) checkpoints) =
      editCheckpoint checkpointId (Checkpoint.decided approved approver note) checkpoints := by
  induction checkpoints with
  | nil => rfl
  | cons c rest ih =>
      rw [editCheckpoint]
      split
      · rename_i hc
        have hmarked : (Checkpoint.decided approved approver note c).id = checkpointId := hc
        rw [editCheckpoint, if_pos hmarked]
        rfl
      · rename_i hc
        rw [editCheckpoint, if_neg hc, ih]

/-- A decision loop that has come past the requests `seen`, with `rest` still in front of it. -/
structure DecidedUpTo (may : ActorContext → ApprovalActionType → Prop)
    (selected : ApprovalRequest → Bool) (decision : ApprovalRequest → ApprovalRequest)
    (mark : Checkpoint → Checkpoint) (r : ProjectRecord) (seen rest : List ApprovalRequest)
    (s : ProjectRecord) : Prop where
  edits : Edits may r s
  state : s.state = { r.state with
    approvals :=
      seen.map (fun approval => if selected approval then decision approval else approval) ++ rest
    checkpoints :=
      if seen.any selected then
        editCheckpoint (approvalCheckpointId r.project.id) mark r.checkpoints
      else r.checkpoints }

section DecisionLoop

variable {may : ActorContext → ApprovalActionType → Prop} {selected : ApprovalRequest → Bool}
  {decision : ApprovalRequest → ApprovalRequest} {approved : Bool} {approver note : String}
  {r s s' : ProjectRecord} {approval : ApprovalRequest} {seen rest : List ApprovalRequest}

/-- The loop passes a request that is not selected. -/
theorem DecidedUpTo.skip {mark : Checkpoint → Checkpoint}
    (h : DecidedUpTo may selected decision mark r seen (approval :: rest) s)
    (hselected : selected approval = false) :
    DecidedUpTo may selected decision mark r (seen ++ [approval]) rest s where
  edits := h.edits
  state := by
    rw [h.state]
    simp [hselected]

/-- The loop decides about a request that is selected.  Marking the checkpoint once more leaves it as
    it is, so that all the marks of the loop are one. -/
theorem DecidedUpTo.decide
    (h : DecidedUpTo may selected decision (Checkpoint.decided approved approver note) r seen
      (approval :: rest) s)
    (hselected : selected approval = true) (hedits : Edits may s s')
    (hstate : s'.state = { s.state with
      approvals :=
        seen.map (fun approval => if selected approval then decision approval else approval) ++
          decision approval :: rest
      checkpoints := editCheckpoint (approvalCheckpointId s.project.id)
        (Checkpoint.decided approved approver note) s.checkpoints }) :
    DecidedUpTo may selected decision (Checkpoint.decided approved approver note) r
      (seen ++ [approval]) rest s' where
  edits := h.edits.trans hedits
  state := by
    have hproject : s.project = r.project := (ProjectRecord.project_of_state h.state :)
    have hcheckpoints := ProjectRecord.checkpoints_of_state h.state
    dsimp only at hcheckpoints
    -- the one checkpoint of the project is marked again; the last mark stays
    have hmark : editCheckpoint (approvalCheckpointId r.project.id)
        (Checkpoint.decided approved approver note) s.checkpoints =
        editCheckpoint (approvalCheckpointId r.project.id)
          (Checkpoint.decided approved approver note) r.checkpoints := by
      rw [hcheckpoints]
      split
      · exact editCheckpoint_decided_twice _
      · rfl
    rw [hstate, hproject, hmark, h.state]
    simp [hselected]

/-- A loop over the pending requests whose body, on a request that `test` selects, writes the
    decision at the request's own position and marks the approval checkpoint. -/
theorem decisionLoop {test : ApprovalRequest → Bool}
    (body : ProjectRecord → ApprovalRequest × Nat → ProjectRecord) (r : ProjectRecord)
    (hskip : ∀ s entry, test entry.1 = false → body s entry = s)
    (hbody : ∀ (s : ProjectRecord) (seen rest : List ApprovalRequest), ∀ approval ∈ r.approvals,
      s.approvals = seen ++ approval :: rest → approval.status = .pending → test approval = true →
      Edits may s (body s (approval, seen.length)) ∧
      (body s (approval, seen.length)).state = { s.state with
        approvals := seen ++ decision approval :: rest
        checkpoints := editCheckpoint (approvalCheckpointId s.project.id)
          (Checkpoint.decided approved approver note) s.checkpoints }) :
    Decided may (fun approval => decide (approval.status = .pending) && test approval) decision
      (Checkpoint.decided approved approver note) r
      ((approvalActionState r).pendingApprovals.foldl body r) := by
  -- the loop invariant: the requests seen are decided, those to come are as they were
  have hloop := Loops.foldl_filter_zipIdx (fun approval => decide (approval.status = .pending)) body
    (DecidedUpTo may (fun approval => decide (approval.status = .pending) && test approval) decision
      (Checkpoint.decided approved approver note) r) r.approvals ?_ ?_ r ⟨.refl r, rfl⟩
  · have hstate := hloop.state
    rw [List.append_nil] at hstate
    exact ⟨hloop.edits, hstate⟩
  · intro seen approval rest s _ hpending h
    exact h.skip (by rw [hpending, Bool.false_and])
  · intro seen approval rest s hcut hpending h
    have hmem : approval ∈ r.approvals := by
      rw [hcut]
      exact List.mem_append_right _ List.mem_cons_self
    -- a pending request that the body leaves alone, or one that it decides
    cases htest : test approval with
    | false =>
        rw [hskip _ _ htest]
        exact h.skip (by rw [htest, Bool.and_false])
    | true =>
        obtain ⟨hedits, hstate⟩ := hbody s _ rest approval hmem
          (ProjectRecord.approvals_of_state h.state) (of_decide_eq_true hpending) htest
        rw [List.length_map] at hedits hstate
        exact h.decide (by rw [hpending, htest, Bool.true_and]) hedits hstate

end DecisionLoop

section

variable (rt : Runtime) (r : ProjectRecord)

/-- The decision of an approval. -/
def ApprovalRequest.approve (actor : ActorContext) (note : String) (approval : ApprovalRequest) :
    ApprovalRequest :=
  { approval with status := .approved, requestedBy := actor.actorId, decisionNote := note }

/-- The decision of a rejection. -/
def ApprovalRequest.reject (actor : ActorContext) (reason note : String)
    (approval : ApprovalRequest) : ApprovalRequest :=
  { approval with
    status := .rejected
    requestedBy := actor.actorId
    decisionNote := composeDecisionNote reason note }

theorem approvePending_decided {r' : ProjectRecord} (happrovals : r'.approvals = r.approvals)
    (actionsToApprove : Finset ApprovalActionType) (actor : ActorContext) (note : String) :
    Decided (fun x a => x = actor ∧ a ∈ actionsToApprove)
      (fun approval => decide (approval.status = .pending) &&
        decide (approval.actionType ∈ actionsToApprove))
      (ApprovalRequest.approve actor note)
      (Checkpoint.decided true actor.actorId
        (orElse note "Approved `external_api_send` to continue trend analysis."))
      r' (approvePending rt r' (approvalActionState r).pendingApprovals actionsToApprove actor note) := by
  have hpending : (approvalActionState r).pendingApprovals =
      (approvalActionState r').pendingApprovals := by
    simp only [approvalActionState, happrovals]
  rw [hpending]
  apply decisionLoop
  · intro s entry htest
    rw [if_neg (by simpa using htest)]
  · intro s seen rest approval _ hs hstatus htest
    rw [if_pos (by simpa using htest)]
    have hfound : s.approvals[seen.length]? = some approval := by rw [hs, Loops.get_at_cut]
    constructor
    · have hdecide : Edit (fun x a => x = actor ∧ a ∈ actionsToApprove) s _ :=
        .decide .approved actor.actorId note
          { eventType := .approvalApproved, actor := actor.actorId, actorRole := actor.actorRole
            actorType := actor.actorType, timestamp := rt.now s.events.length
            reason := orElse note "Approval granted."
            metadata := [("action_type", .str approval.actionType.value)] }
          hfound hstatus (by decide) rfl rfl ⟨rfl, by simpa using htest⟩
      exact (Edits.of hdecide).trans (edits_updateApprovalCheckpoint true actor.actorId _)
    · show ({ s with approvals := s.approvals.set seen.length _, checkpoints := _, events := _ } :
        ProjectRecord).state = _
      rw [hs, Loops.set_at_cut]
      rfl

theorem rejectPending_decided {r' : ProjectRecord} (happrovals : r'.approvals = r.approvals)
    (rejectedActionSet : Finset ApprovalActionType) (actor : ActorContext) (reason note : String) :
    Decided (fun x a => x = actor ∧ a ∈ (approvalActionState r).pendingActionTypes)
      (fun approval => decide (approval.status = .pending) && true)
      (ApprovalRequest.reject actor reason note)
      (Checkpoint.decided false actor.actorId (composeDecisionNote reason note))
      r' (rejectPending rt r' (approvalActionState r).pendingApprovals rejectedActionSet actor reason
        note) := by
  have hpending : (approvalActionState r).pendingApprovals =
      (approvalActionState r').pendingApprovals := by
    simp only [approvalActionState, happrovals]
  rw [hpending]
  apply decisionLoop
  · intro s entry htest
    cases htest
  · intro s seen rest approval hmem hs hstatus _
    have hfound : s.approvals[seen.length]? = some approval := by rw [hs, Loops.get_at_cut]
    -- a rejection needs no named type: every pending request is rejected
    have htype : approval.actionType ∈ (approvalActionState r).pendingActionTypes :=
      mem_approvalActionTypes.mpr ⟨approval, happrovals ▸ hmem, hstatus, rfl⟩
    constructor
    · have hdecide : Edit (fun x a => x = actor ∧ a ∈ (approvalActionState r).pendingActionTypes) s _ :=
        .decide .rejected actor.actorId (composeDecisionNote reason note)
          { eventType := .approvalRejected, actor := actor.actorId, actorRole := actor.actorRole
            actorType := actor.actorType, timestamp := rt.now s.events.length
            reason := reason
            metadata := rejectionMetadata approval.actionType note
              (decide (approval.actionType ∉ rejectedActionSet)) }
          hfound hstatus (by decide) rfl rfl ⟨rfl, htype⟩
      exact (Edits.of hdecide).trans
        (edits_updateApprovalCheckpoint false actor.actorId (composeDecisionNote reason note))
    · show ({ s with approvals := s.approvals.set seen.length _, checkpoints := _, events := _ } :
        ProjectRecord).state = _
      rw [hs, Loops.set_at_cut]
      rfl

end

end CodexOrchestrator
