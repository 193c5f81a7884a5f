import CodexOrchestrator.Orchestrator.Outcomes

/-!
# Authorization — no decision without a grant

Every entry of a log that records a decision was written by a call that had authorized its actor for
that action type before; the grant stands earlier in the entries of the same call.
-/

namespace CodexOrchestrator

/-- The event types that record a decision on a request. -/
def HistoryEventType.isDecision : HistoryEventType → Bool
  | .approvalApproved | .approvalRejected => true
  | _ => false

theorem isDecision_false_of_tracksChange {eventType : HistoryEventType}
    (h : eventType.tracksChange = false) : eventType.isDecision = false := by
  cases eventType <;> first | rfl | cases h

theorem isDecision_false_of_isGrant {eventType : HistoryEventType}
    (h : eventType.isGrant = true) : eventType.isDecision = false := by
  cases eventType <;> first | rfl | cases h

/-! ## The entries of a sequence of edits -/

section Edits

variable {may : ActorContext → ApprovalActionType → Prop} {r r' : ProjectRecord}

/-- An entry that an actor with the authority `may` can have written. -/
def HistoryEvent.Authored (may : ActorContext → ApprovalActionType → Prop)
    (event : HistoryEvent) : Prop :=
  event.eventType.isDecision = true →
    ∃ actionType, event.concerns actionType ∧ may event.actorContext actionType

theorem Edit.entries (h : Edit may r r') : ∃ entries, r'.events = r.events ++ entries ∧
    ∀ event ∈ entries, event.Authored may := by
  have hone : ∀ event : HistoryEvent, event.Authored may →
      ∀ e ∈ [event], HistoryEvent.Authored may e := by
    intro event hevent e hmem
    rw [List.mem_singleton.mp hmem]
    exact hevent
  cases h with
  | annotate same => exact ⟨[], by rw [same.events, List.append_nil], by simp⟩
  | log event type =>
      refine ⟨[event], rfl, hone event fun hd => ?_⟩
      rw [isDecision_false_of_tracksChange type] at hd
      cases hd
  | transition nextStatus event can type =>
      refine ⟨[event], rfl, hone event fun hd => ?_⟩
      rw [type] at hd
      cases hd
  | task nextStatus event found type =>
      refine ⟨[event], rfl, hone event fun hd => ?_⟩
      rw [type] at hd
      cases hd
  | request approval event pending type =>
      refine ⟨[event], rfl, hone event fun hd => ?_⟩
      rw [type] at hd
      cases hd
  | @decide _ approval status requestedBy decisionNote event found pending decided type concerns
      allowed =>
      exact ⟨[event], rfl, hone event fun _ => ⟨approval.actionType, concerns, allowed⟩⟩

theorem Edits.entries (h : Edits may r r') : ∃ entries, r'.events = r.events ++ entries ∧
    ∀ event ∈ entries, event.Authored may := by
  induction h with
  | refl => exact ⟨[], by rw [List.append_nil], by simp⟩
  | tail _ he ih =>
      obtain ⟨entries, hentries, hall⟩ := ih
      obtain ⟨last, hlast, hlastAll⟩ := he.entries
      refine ⟨entries ++ last, by rw [hlast, hentries, List.append_assoc], fun event hmem => ?_⟩
      exact (List.mem_append.mp hmem).elim (hall event) (hlastAll event)

theorem not_decision_of_nobody {event : HistoryEvent} (h : event.Authored nobody) :
    event.eventType.isDecision = false := by
  cases hd : event.eventType.isDecision with
  | false => rfl
  | true =>
      obtain ⟨actionType, -, hnobody⟩ := h hd
      exact hnobody.elim

end Edits

/-! ## One call -/

/-- A grant for the actor and the action type, at position `k` of the log. -/
def GrantAt (events : List HistoryEvent) (k : Nat) (actor : ActorContext)
    (actionType : ApprovalActionType) : Prop :=
  ∃ grant, events[k]? = some grant ∧ grant.eventType = .authorizationGranted ∧
    grant.actorContext = actor ∧ grant.concerns actionType

section Calls

variable {rt : Runtime} {r r' : ProjectRecord} {actor : ActorContext}
  {allowList : Option (Dict (List String))} {actions : Finset ApprovalActionType}

/-- The entries of a call that decides: first the grants, then the decisions, then the rest. -/
theorem DecidingCall.entries (h : DecidingCall actor allowList actions r r') :
    ∃ grants decisions rest, r'.events = r.events ++ (grants ++ (decisions ++ rest)) ∧
      (∀ event ∈ grants, event.eventType.isGrant = true) ∧
      (∀ actionType ∈ actions, Allowed r actor allowList actionType ∧
        ∃ event ∈ grants, event.eventType = .authorizationGranted ∧ event.actorContext = actor ∧
          event.concerns actionType) ∧
      (∀ event ∈ decisions, event.Authored fun x a => x = actor ∧ a ∈ actions) ∧
      ∀ event ∈ rest, event.eventType.isDecision = false := by
  obtain ⟨granted, decided, hgrant, hdecide, hrest⟩ := h.parts
  obtain ⟨grants, hgranted, htypes, hgrants⟩ := hgrant.log
  obtain ⟨decisions, hdecisions, hauthored⟩ := hdecide.entries
  obtain ⟨rest, hrestEntries, hquiet⟩ := hrest.entries
  refine ⟨grants, decisions, rest, ?_, htypes, ?_, hauthored, ?_⟩
  · rw [hrestEntries, hdecisions, hgranted, List.append_assoc, List.append_assoc]
  · intro actionType hmem
    have hsorted := mem_sortedActions.mpr hmem
    exact ⟨hgrant.allowed actionType hsorted, hgrants actionType hsorted⟩
  · exact fun event hmem => not_decision_of_nobody (hquiet event hmem)

/-- Every action type that a call decides about was granted in it. -/
theorem DecidingCall.grantAt (h : DecidingCall actor allowList actions r r')
    {actionType : ApprovalActionType} (hmem : actionType ∈ actions) :
    Allowed r actor allowList actionType ∧ ∃ k, r.events.length ≤ k ∧ k < r'.events.length ∧
      GrantAt r'.events k actor actionType := by
  obtain ⟨grants, decisions, rest, he, -, hactions, -, -⟩ := h.entries
  obtain ⟨hallowed, grant, hgrantMem, hgrantType, hgrantActor, hgrantAction⟩ :=
    hactions actionType hmem
  obtain ⟨i, hi, hget⟩ := List.mem_iff_getElem.mp hgrantMem
  have hat : r'.events[r.events.length + i]? = some grant := by
    rw [he, List.getElem?_append_right (by omega), Nat.add_sub_cancel_left,
      List.getElem?_append_left hi]
    exact List.getElem?_eq_some_iff.mpr ⟨hi, hget⟩
  exact ⟨hallowed, r.events.length + i, by omega, (List.getElem?_eq_some_iff.mp hat).1, grant, hat,
    hgrantType, hgrantActor, hgrantAction⟩

/-- A decision that a call adds to the log comes after the call's grant for it. -/
theorem DecidingCall.decision (h : DecidingCall actor allowList actions r r') {j : Nat}
    {event : HistoryEvent} (hj : r'.events[j]? = some event) (hnew : r.events.length ≤ j)
    (hdecision : event.eventType.isDecision = true) :
    ∃ actionType k, event.actorContext = actor ∧ event.concerns actionType ∧
      Allowed r actor allowList actionType ∧ r.events.length ≤ k ∧ k < j ∧
      GrantAt r'.events k actor actionType := by
  obtain ⟨grants, decisions, rest, he, htypes, hactions, hauthored, hquiet⟩ := h.entries
  -- what the call appended: the grants first, then the decisions, then the rest
  have hoffset : (grants ++ (decisions ++ rest))[j - r.events.length]? = some event := by
    rw [← List.getElem?_append_right hnew, ← he, hj]
  have hafter : grants.length ≤ j - r.events.length := by
    by_contra hlt
    rw [List.getElem?_append_left (by omega)] at hoffset
    have hgrant := htypes event (List.mem_of_getElem? hoffset)
    rw [isDecision_false_of_isGrant hgrant] at hdecision
    cases hdecision
  rw [List.getElem?_append_right hafter] at hoffset
  -- the decision is no grant, and the rest of the call decides nothing
  have hmem : event ∈ decisions := by
    rcases List.mem_append.mp (List.mem_of_getElem? hoffset) with hmem | hmem
    · exact hmem
    · rw [hquiet event hmem] at hdecision
      cases hdecision
  obtain ⟨actionType, hconcerns, hactor, haction⟩ := hauthored event hmem hdecision
  obtain ⟨hallowed, grant, hgrantMem, hgrantType, hgrantActor, hgrantAction⟩ :=
    hactions actionType haction
  obtain ⟨i, hi, hget⟩ := List.mem_iff_getElem.mp hgrantMem
  refine ⟨actionType, r.events.length + i, hactor, hconcerns, hallowed, by omega, by omega, grant, ?_,
    hgrantType, hgrantActor, hgrantAction⟩
  rw [he, List.getElem?_append_right (by omega), Nat.add_sub_cancel_left,
    List.getElem?_append_left hi]
  exact List.getElem?_eq_some_iff.mpr ⟨hi, hget⟩

end Calls

/-! ## Runs -/

/-- `loaded` and `saved` are the versions before and after a call of the run, and the log of `saved`
    is still the front of the log of `record`. -/
structure CallOn (calls : List Call) (projectId : String) (record : ProjectRecord)
    (operation : ProjectOperation) (loaded saved : ProjectRecord) : Prop where
  call : ∃ before call later, calls = before ++ call :: later ∧
    call.operation = .onProject projectId operation ∧
    (afterCalls before).get projectId = some loaded ∧
    (afterCalls (before ++ [call])).get projectId = some saved
  appended : loaded.events <+: saved.events
  kept : saved.events <+: record.events
  policy : record.project.policy = loaded.project.policy

/-- The decision in the entry at position `j` was made in a call on the project, by the actor of that
    call, who was allowed to make it and was granted it by an earlier entry of the same call. -/
def AuthorizedEntry (calls : List Call) (projectId : String) (record : ProjectRecord) (j : Nat)
    (event : HistoryEvent) (actionType : ApprovalActionType) : Prop :=
  ∃ operation loaded saved allowList k, CallOn calls projectId record operation loaded saved ∧
    operation.decider = some (event.actorContext, allowList) ∧
    loaded.events.length ≤ k ∧ k < j ∧ j < saved.events.length ∧
    GrantAt record.events k event.actorContext actionType ∧
    Allowed record event.actorContext allowList actionType

/-- Later calls, and later versions of the record, keep what a call did. -/
theorem CallOn.extend {calls calls' : List Call} {projectId : String} {record record' : ProjectRecord}
    {operation : ProjectOperation} {loaded saved : ProjectRecord}
    (h : CallOn calls projectId record operation loaded saved)
    (hevents : record.events <+: record'.events)
    (hpolicy : record'.project.policy = record.project.policy) :
    CallOn (calls ++ calls') projectId record' operation loaded saved := by
  obtain ⟨before, call, later, he, hcall⟩ := h.call
  refine ⟨⟨before, call, later ++ calls', ?_, hcall⟩, h.appended, h.kept.trans hevents,
    hpolicy.trans h.policy⟩
  rw [he, List.append_assoc, List.cons_append]

theorem getElem?_of_prefix {α : Type} {xs ys : List α} {i : Nat} {a : α} (h : xs <+: ys)
    (hi : xs[i]? = some a) : ys[i]? = some a := by
  obtain ⟨rest, rfl⟩ := h
  rw [List.getElem?_append_left (List.getElem?_eq_some_iff.mp hi).1, hi]

theorem AuthorizedEntry.extend {calls calls' : List Call} {projectId : String}
    {record record' : ProjectRecord} {j : Nat} {event : HistoryEvent}
    {actionType : ApprovalActionType}
    (h : AuthorizedEntry calls projectId record j event actionType)
    (hevents : record.events <+: record'.events)
    (hpolicy : record'.project.policy = record.project.policy) :
    AuthorizedEntry (calls ++ calls') projectId record' j event actionType := by
  obtain ⟨operation, loaded, saved, allowList, k, hcall, hdecider, hk, hkj, hj,
    ⟨grant, hget, hgrant⟩, hallowed⟩ := h
  refine ⟨operation, loaded, saved, allowList, k, hcall.extend hevents hpolicy, hdecider,
    hk, hkj, hj, ⟨grant, getElem?_of_prefix hevents hget, hgrant⟩, ?_⟩
  unfold Allowed
  rw [hpolicy]
  exact hallowed

/-- Every decision of the log is an authorized entry. -/
def DecisionsAuthorized (calls : List Call) (projectId : String) (record : ProjectRecord) : Prop :=
  ∀ (j : Nat) (event : HistoryEvent), record.events[j]? = some event →
    event.eventType.isDecision = true →
    ∃ actionType, event.concerns actionType ∧
      AuthorizedEntry calls projectId record j event actionType

/-- Entries that stood in the loaded version stay authorized. -/
theorem DecisionsAuthorized.old {calls calls' : List Call} {projectId : String}
    {loaded saved : ProjectRecord} {may : ActorContext → ApprovalActionType → Prop}
    (h : DecisionsAuthorized calls projectId loaded) (hedits : Edits may loaded saved) {j : Nat}
    {event : HistoryEvent} (hj : saved.events[j]? = some event) (hold : j < loaded.events.length)
    (hdecision : event.eventType.isDecision = true) :
    ∃ actionType, event.concerns actionType ∧
      AuthorizedEntry (calls ++ calls') projectId saved j event actionType := by
  obtain ⟨entries, he, -⟩ := hedits.entries
  rw [he, List.getElem?_append_left hold] at hj
  obtain ⟨actionType, hconcerns, hentry⟩ := h j event hj hdecision
  exact ⟨actionType, hconcerns, hentry.extend (he ▸ List.prefix_append _ _) hedits.policy⟩

/-- A part that decides nothing keeps the log authorized. -/
theorem DecisionsAuthorized.quiet {calls calls' : List Call} {projectId : String}
    {loaded saved : ProjectRecord} (h : DecisionsAuthorized calls projectId loaded)
    (hedits : Edits nobody loaded saved) :
    DecisionsAuthorized (calls ++ calls') projectId saved := by
  intro j event hj hdecision
  by_cases hold : j < loaded.events.length
  · exact h.old hedits hj hold hdecision
  · obtain ⟨entries, he, hquiet⟩ := hedits.entries
    rw [he, List.getElem?_append_right (Nat.le_of_not_lt hold)] at hj
    rw [not_decision_of_nobody (hquiet event (List.mem_of_getElem? hj))] at hdecision
    cases hdecision

theorem stored_decisionsAuthorized {calls : List Call} {projectId : String} {record : ProjectRecord}
    (hget : (afterCalls calls).get projectId = some record) :
    DecisionsAuthorized calls projectId record := by
  have hsteps : Runs.EachStep Call.step .new (fun _ _ => True) calls := fun _ _ _ _ => trivial
  refine stored_trace_of_steps (fun calls call projectId record h => ?_)
    (fun calls call saved hinv _ hsaved hstored => ?_) hsteps hget
  · intro j event hj hdecision
    obtain ⟨actionType, hconcerns, hentry⟩ := h j event hj hdecision
    exact ⟨actionType, hconcerns, hentry.extend (List.prefix_refl _) rfl⟩
  · rcases Operation.saved_cases hsaved with ⟨args, -, h⟩ | ⟨id, op, loaded, hop, hloaded, h⟩ |
      ⟨id, actor, loaded, -, hloaded, he⟩ | ⟨id, reason, loaded, -, hloaded, he⟩
    · have hedits := (saved_run h).edits
      -- `run` starts from an empty log and decides nothing
      have hnone : DecisionsAuthorized calls saved.project.id (initialRecord call.env.runtime args) :=
        fun j event hj _ => by cases hj
      exact hnone.quiet hedits
    · have hid : saved.project.id = id :=
        (ProjectOperation.saved_edits h).projectId.trans (InMemoryProjectRepository.id_of_get hloaded)
      rw [hid] at hstored ⊢
      rcases ProjectOperation.saved_call h with hedits | ⟨actor, allowList, actions, hdecider, hcall⟩
      · exact (hinv id loaded hloaded).quiet hedits
      · intro j event hj hdecision
        -- an entry from before the call is authorized by the invariant, a new one by the call
        by_cases hold : j < loaded.events.length
        · exact (hinv id loaded hloaded).old hcall.edits hj hold hdecision
        · obtain ⟨actionType, k, hactor, hconcerns, hallowed, hk, hkj, hgrant⟩ :=
            hcall.decision hj (Nat.le_of_not_lt hold) hdecision
          have hpolicy := hcall.edits.policy
          obtain ⟨entries, hentries, -⟩ := hcall.edits.entries
          have happended : loaded.events <+: saved.events := hentries ▸ List.prefix_append _ _
          refine ⟨actionType, hconcerns, op, loaded, saved, allowList, k,
            ⟨⟨calls, call, [], rfl, hop, hloaded, hstored⟩, happended, List.prefix_refl _, hpolicy⟩,
            hactor ▸ hdecider, hk, hkj, (List.getElem?_eq_some_iff.mp hj).1, hactor ▸ hgrant, ?_⟩
          unfold Allowed
          rw [hpolicy, hactor]
          exact hallowed
    · have hedits : Edits nobody loaded saved := by
        rw [he]
        exact edits_recordAuthenticationSuccess actor
      have hid := hedits.projectId.trans (InMemoryProjectRepository.id_of_get hloaded)
      rw [hid]
      exact (hinv id loaded hloaded).quiet hedits
    · have hedits : Edits nobody loaded saved := by
        rw [he]
        exact edits_recordAuthenticationFailure reason
      have hid := hedits.projectId.trans (InMemoryProjectRepository.id_of_get hloaded)
      rw [hid]
      exact (hinv id loaded hloaded).quiet hedits

/-- A rejection that closes the pending requests was granted for the type of each of them, named or
    not. -/
theorem reject_granted {before : List Call} {call : Call} {projectId : String}
    {args : ApprovalRejectArgs} {loaded saved : ProjectRecord}
    (hcall : call.operation = .onProject projectId (.rejectApproval args))
    (hloaded : (afterCalls before).get projectId = some loaded)
    (hsaved : (afterCalls (before ++ [call])).get projectId = some saved)
    (hstatus : saved.project.status ≠ loaded.project.status) {approval : ApprovalRequest}
    (hmem : approval ∈ loaded.approvals) (hpending : approval.status = .pending) :
    Allowed loaded (coerceActor args.actor .approver) args.projectAllowedActorIdsByAction
        approval.actionType ∧
      ∃ k, loaded.events.length ≤ k ∧ k < saved.events.length ∧
        GrantAt saved.events k (coerceActor args.actor .approver) approval.actionType := by
  rcases saved_of_onProject hcall hloaded hsaved with hsame | h
  · exact absurd (by rw [hsame]) hstatus
  · rcases (saved_rejectApproval h).2.call with ⟨hstate, -⟩ | hdeciding
    · have hproject : saved.project = loaded.project := (ProjectRecord.project_of_state hstate :)
      exact absurd (by rw [hproject]) hstatus
    · exact hdeciding.grantAt (mem_approvalActionTypes.mpr ⟨approval, hmem, hpending, rfl⟩)

/-- In every run, each decision in the log of a stored record was authorized in its own call, and a
    call that sends a waiting project back was authorized for every pending request. -/
theorem decisions_authorized (calls : List Call) (projectId : String) :
    (∀ record, (afterCalls calls).get projectId = some record →
      ∀ (j : Nat) (event : HistoryEvent), record.events[j]? = some event →
        event.eventType.isDecision = true →
        ∃ actionType, event.concerns actionType ∧
          AuthorizedEntry calls projectId record j event actionType ∧
          event.actorRole ≠ .viewer ∧
          (record.project.policy.strictMode = true →
            (findProjectActionRule record.project.policy actionType).isSome)) ∧
    ∀ before call later args loaded saved, calls = before ++ call :: later →
      call.operation = .onProject projectId (.rejectApproval args) →
      (afterCalls before).get projectId = some loaded →
      (afterCalls (before ++ [call])).get projectId = some saved →
      saved.project.status ≠ loaded.project.status →
      ∀ approval ∈ loaded.approvals, approval.status = .pending →
        Allowed loaded (coerceActor args.actor .approver) args.projectAllowedActorIdsByAction
            approval.actionType ∧
          ∃ k, loaded.events.length ≤ k ∧ k < saved.events.length ∧
            GrantAt saved.events k (coerceActor args.actor .approver) approval.actionType := by
  constructor
  · intro record hget j event hj hdecision
    obtain ⟨actionType, hconcerns, hentry⟩ := stored_decisionsAuthorized hget j event hj hdecision
    have hauthorized := hentry
    obtain ⟨operation, loaded, saved, allowList, k, -, -, -, -, -, -, hallowed⟩ := hentry
    exact ⟨actionType, hconcerns, hauthorized, not_viewer_of_allowed hallowed,
      rule_of_allowed_strict hallowed⟩
  · intro before call later args loaded saved _ hcall hloaded hsaved hstatus approval hmem hpending
    exact reject_granted hcall hloaded hsaved hstatus hmem hpending

/-- The owner's approval of the sample run is an entry of the log, with its grant before it. -/
theorem decisions_authorized_sample :
    ∃ record, (afterCalls [sampleRun, sampleApproval]).get "p" = some record ∧
      ∃ j event, record.events[j]? = some event ∧ event.eventType = .approvalApproved ∧
        ∃ actionType, AuthorizedEntry [sampleRun, sampleApproval] "p" record j event actionType := by
  have hstored : ((afterCalls [sampleRun, sampleApproval]).get "p").any (fun record =>
      record.events.any fun event => event.eventType = .approvalApproved) = true := by decide
  obtain ⟨record, hget, hany⟩ := (Option.any_eq_true _ _).mp hstored
  obtain ⟨event, hmem, htype⟩ := List.any_eq_true.mp hany
  obtain ⟨j, hj⟩ := List.mem_iff_getElem?.mp hmem
  have happroved : event.eventType = .approvalApproved := by simpa using htype
  have hdecision : event.eventType.isDecision = true := by rw [happroved]; rfl
  obtain ⟨actionType, -, hentry, -⟩ :=
    (decisions_authorized [sampleRun, sampleApproval] "p").1 record hget j event hj hdecision
  exact ⟨record, hget, j, event, hj, happroved, actionType, hentry⟩

end CodexOrchestrator
