import CodexOrchestrator.ApiContract
import CodexOrchestrator.Authorization

/-!
# ApiProvenance — who decided, over HTTP

Whatever requests a server has answered: every decision in the log of a project was made by a request
with an accepted token, by the actor of that token, whom the policy of the project allows to decide.
-/

namespace CodexOrchestrator

/-! ## The request behind a call -/

/-- An element of a flattened list, with the list that it comes from. -/
theorem split_of_flatMap {α β : Type} {f : α → List β} {xs : List α} {before later : List β} {y : β}
    (h : xs.flatMap f = before ++ y :: later) :
    ∃ front x back start rest, xs = front ++ x :: back ∧ f x = start ++ y :: rest ∧
      before = front.flatMap f ++ start := by
  induction xs generalizing before with
  | nil =>
      rw [List.flatMap_nil] at h
      exact absurd h.symm (List.append_ne_nil_of_right_ne_nil _ (List.cons_ne_nil _ _))
  | cons x xs ih =>
      rw [List.flatMap_cons] at h
      rcases List.append_eq_append_iff.mp h with ⟨middle, hbefore, hrest⟩ | ⟨middle, hx, hrest⟩
      · obtain ⟨front, x', back, start, rest, rfl, hfx, rfl⟩ := ih hrest
        refine ⟨x :: front, x', back, start, rest, rfl, hfx, ?_⟩
        rw [hbefore, List.flatMap_cons, List.append_assoc]
      · cases middle with
        -- the element opens a later list
        | nil =>
            rw [List.append_nil] at hx
            obtain ⟨front, x', back, start, rest, rfl, hfx, hnil⟩ := @ih [] hrest.symm
            refine ⟨x :: front, x', back, start, rest, rfl, hfx, ?_⟩
            rw [List.flatMap_cons, List.append_assoc, ← hnil, List.append_nil, hx]
        | cons z middle =>
            obtain ⟨rfl, -⟩ := List.cons.inj hrest
            exact ⟨[], x, xs, before, middle, rfl, hx, rfl⟩

section Requests

variable (service : DevTokenAuthService)

/-- An operation on a project is the second call of a protected request with an accepted token. -/
theorem request_of_call {exchanges : List Exchange} {before later : List Call} {call : Call}
    {projectId : String} {operation : ProjectOperation}
    (h : exchanges.flatMap (Exchange.calls service) = before ++ call :: later)
    (hcall : call.operation = .onProject projectId operation) :
    ∃ front exchange back payload authorization actor, exchanges = front ++ exchange :: back ∧
      exchange.request = .onProject payload authorization ∧ payload.projectId = projectId ∧
      service.resolveActor authorization = .ok actor ∧ operation = payload.operation actor ∧
      before = front.flatMap (Exchange.calls service) ++
        [⟨.recordAuthenticationSuccess projectId actor, exchange.authentication⟩] ∧
      (front ++ [exchange]).flatMap (Exchange.calls service) = before ++ [call] := by
  obtain ⟨front, ⟨request, authentication, execution⟩, back, start, rest, hexchanges, hcalls, hbefore⟩ :=
    split_of_flatMap h
  subst hbefore
  have hmem : call ∈ Exchange.calls service ⟨request, authentication, execution⟩ := by
    rw [hcalls]
    exact List.mem_append_right _ List.mem_cons_self
  cases request with
  | health => cases hmem
  | intakeBrief payload => cases hmem
  | projectAudit id => cases hmem
  | orchestratorRun payload =>
      rw [List.mem_singleton.mp hmem] at hcall
      cases hcall
  | onProject payload authorization =>
      cases hauth : service.resolveActor authorization with
      | error exc =>
          simp only [Exchange.calls, hauth] at hmem
          rw [List.mem_singleton.mp hmem] at hcall
          cases hcall
      | ok actor =>
          simp only [Exchange.calls, hauth] at hcalls
          -- the first call of the request writes the log of the authentication
          rcases List.cons_eq_append_iff.mp hcalls with ⟨rfl, hfirst⟩ | ⟨start, rfl, hlast⟩
          · obtain ⟨rfl, -⟩ := List.cons.inj hfirst
            cases hcall
          · rcases List.cons_eq_append_iff.mp hlast with ⟨rfl, hsecond⟩ | ⟨tail, rfl, hnil⟩
            · obtain ⟨rfl, -⟩ := List.cons.inj hsecond
              cases hcall
              refine ⟨front, _, back, payload, authorization, actor, hexchanges, rfl, rfl, hauth, rfl,
                rfl, ?_⟩
              rw [List.flatMap_append, List.flatMap_singleton, List.append_assoc]
              simp only [Exchange.calls, hauth]
              rfl
            · exact absurd hnil.symm (List.append_ne_nil_of_right_ne_nil _ (List.cons_ne_nil _ _))

/-- An event of the given type by the actor, at position `i` of the log. -/
def EventAt (events : List HistoryEvent) (i : Nat) (eventType : HistoryEventType)
    (actor : ActorContext) : Prop :=
  ∃ event, events[i]? = some event ∧ event.eventType = eventType ∧ event.actorContext = actor

/-- The decision in the entry at position `j` was made by a request with an accepted token, by the
    actor of the token: of the entries between the records before and after the request, the first
    two are those of its authentication, a later one is the grant for the action type, and the
    decision comes after it. -/
structure DecidedByRequest (exchanges : List Exchange) (projectId : String) (record : ProjectRecord)
    (j : Nat) (event : HistoryEvent) (actionType : ApprovalActionType) : Prop where
  request : ∃ front exchange back payload authorization loaded saved k,
    exchanges = front ++ exchange :: back ∧
    exchange.request = .onProject payload authorization ∧ payload.projectId = projectId ∧
    service.resolveActor authorization = .ok event.actorContext ∧
    (afterExchanges service front).get projectId = some loaded ∧
    (afterExchanges service (front ++ [exchange])).get projectId = some saved ∧
    saved.events <+: record.events ∧
    EventAt record.events loaded.events.length .authenticationSucceeded event.actorContext ∧
    EventAt record.events (loaded.events.length + 1) .actorResolved event.actorContext ∧
    loaded.events.length + 2 ≤ k ∧ k < j ∧ j < saved.events.length ∧
    GrantAt record.events k event.actorContext actionType
  allowed : Allowed record event.actorContext none actionType

variable {service}

/-- The record after the first stage of a protected request. -/
theorem get_of_authenticated {front : List Exchange} {projectId : String} {actor : ActorContext}
    {env : Environment} {authenticated : ProjectRecord}
    (h : (afterCalls (front.flatMap (Exchange.calls service) ++
      [⟨.recordAuthenticationSuccess projectId actor, env⟩])).get projectId = some authenticated) :
    ∃ loaded, (afterExchanges service front).get projectId = some loaded ∧
      authenticated = recordAuthenticationSuccess env.runtime actor loaded := by
  rw [afterCalls, Runs.after_concat, ← afterCalls, ← afterExchanges_eq_afterCalls] at h
  have hmap : ((afterExchanges service front).get projectId).map
      (recordAuthenticationSuccess env.runtime actor) = some authenticated :=
    (InMemoryProjectRepository.get_saveSome_map (afterExchanges service front) projectId
      (recordAuthenticationSuccess env.runtime actor) fun _ => rfl).symm.trans h
  obtain ⟨loaded, hloaded, rfl⟩ := Option.map_eq_some_iff.mp hmap
  exact ⟨loaded, hloaded, rfl⟩

/-- Every decision in the log of a stored record was made by a request with an accepted token, by the
    actor of the token, whom the policy of the project allows to make it. -/
theorem decisions_over_http {exchanges : List Exchange} {projectId : String} {record : ProjectRecord}
    (hget : (afterExchanges service exchanges).get projectId = some record) {j : Nat}
    {event : HistoryEvent} (hj : record.events[j]? = some event)
    (hdecision : event.eventType.isDecision = true) :
    ∃ actionType, event.concerns actionType ∧
      DecidedByRequest service exchanges projectId record j event actionType := by
  rw [afterExchanges_eq_afterCalls] at hget
  obtain ⟨actionType, hconcerns, operation, authenticated, saved, allowList, k, hcall, hdecider, hk,
    hkj, hjsaved, hgrant, hallowed⟩ := stored_decisionsAuthorized hget j event hj hdecision
  obtain ⟨before, call, later, hcalls, hoperation, hloaded, hsaved⟩ := hcall.call
  obtain ⟨front, exchange, back, payload, authorization, actor, hexchanges, hrequest, hproject, hauth,
    rfl, rfl, hrequested⟩ := request_of_call service hcalls hoperation
  rw [← hrequested, ← afterExchanges_eq_afterCalls] at hsaved
  obtain ⟨loaded, hget', rfl⟩ := get_of_authenticated hloaded
  obtain ⟨succeeded, resolved, hlogged, hsucceeded, hactor, hresolved, hactor'⟩ :=
    authenticated_eq exchange.authentication.runtime actor loaded
  -- the deciding actor is the actor of the token, and no endpoint passes an allow-list
  have hdecided : actor = event.actorContext ∧ allowList = none := by
    cases payload with
    | resumeApproval payload => cases hdecider; exact ⟨rfl, rfl⟩
    | rejectApproval payload => cases hdecider; exact ⟨rfl, rfl⟩
    | resumeRevision payload => cases hdecider
    | startReplanning payload => cases hdecider
  obtain ⟨rfl, rfl⟩ := hdecided
  have hkept := hcall.appended.trans hcall.kept
  rw [hlogged] at hkept hk
  have hentry : ∀ i entry, (loaded.events ++ [succeeded, resolved])[i]? = some entry →
      record.events[i]? = some entry := fun i entry => getElem?_of_prefix hkept
  refine ⟨actionType, hconcerns, ⟨front, exchange, back, payload, authorization, loaded, saved, k,
    hexchanges, hrequest, hproject, hauth, hget', hsaved, hcall.kept,
    ⟨succeeded, hentry _ _ ?_, hsucceeded, hactor⟩, ⟨resolved, hentry _ _ ?_, hresolved, hactor'⟩, ?_,
    hkj, hjsaved, hgrant⟩, hallowed⟩
  · rw [List.getElem?_append_right (Nat.le_refl _), Nat.sub_self]
    rfl
  · rw [List.getElem?_append_right (Nat.le_add_right _ 1), Nat.add_sub_cancel_left]
    rfl
  · rw [List.length_append] at hk
    exact hk

theorem decisions_over_http_sample :
    let exchanges := [sampleRunExchange, sampleApprovalExchange "dev-owner-token"]
    ∃ record event, (afterExchanges sampleAuthService exchanges).get "p" = some record ∧
      record.events[16]? = some event ∧ event.eventType = .approvalApproved ∧
      ∃ actionType, event.concerns actionType ∧
        DecidedByRequest sampleAuthService exchanges "p" record 16 event actionType := by
  intro exchanges
  have hget : (afterExchanges sampleAuthService exchanges).get "p" =
      some (((afterExchanges sampleAuthService exchanges).get "p").get (by decide +kernel)) :=
    (Option.some_get _).symm
  refine ⟨_, _, hget, (Option.some_get (by decide +kernel)).symm, by decide +kernel, ?_⟩
  exact decisions_over_http hget (Option.some_get (by decide +kernel)).symm (by decide +kernel)

end Requests

end CodexOrchestrator
