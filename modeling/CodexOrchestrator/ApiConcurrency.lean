import CodexOrchestrator.Api.Routes
import CodexOrchestrator.Audit
import CodexOrchestrator.Authorization
import CodexOrchestrator.Lib.Transactions
import CodexOrchestrator.Lifecycle

/-!
# ApiConcurrency — requests that interleave on any projects

The endpoints run in a pool of threads.  Each call of the orchestrator gets the record of its project
and saves it later; nothing keeps another request from saving the project between the two.
-/

open Runs Transactions

namespace CodexOrchestrator

/-! ## The two repository steps of a call -/

/-- The project that a call gets and saves. -/
def Call.projectId (call : Call) : String :=
  match call.operation with
  | .run _ => call.env.projectUuid
  | .onProject projectId _ => projectId
  | .recordAuthenticationSuccess projectId _ => projectId
  | .recordAuthenticationFailure projectId _ => projectId

/-- What a call saves for the record that it got. -/
def Call.saves (call : Call) (loaded : Option ProjectRecord) : Option ProjectRecord :=
  match call.operation with
  | .run args => savedBy (CodexOrchestrator.run call.env.runtime args)
  | .onProject _ operation =>
      loaded.bind fun record => savedBy (operation.body call.env.runtime record)
  | .recordAuthenticationSuccess _ actor =>
      loaded.map (recordAuthenticationSuccess call.env.runtime actor)
  | .recordAuthenticationFailure _ reason =>
      loaded.map (recordAuthenticationFailure call.env.runtime reason)

/-- A call, as an action on the stored records. -/
def callProtocol : Protocol Call String ProjectRecord where
  key := Call.projectId
  write := Call.saves

/-- What a call can save, with the record that it got. -/
theorem Call.saves_cases {call : Call} {loaded : Option ProjectRecord} {saved : ProjectRecord}
    (h : call.saves loaded = some saved) :
    (∃ args, call.operation = .run args ∧
      savedBy (CodexOrchestrator.run call.env.runtime args) = some saved) ∨
    (∃ projectId operation record, call.operation = .onProject projectId operation ∧
      loaded = some record ∧ savedBy (operation.body call.env.runtime record) = some saved) ∨
    ∃ record, loaded = some record ∧ saved.state = record.state ∧ Edits nobody record saved := by
  obtain ⟨operation, env⟩ := call
  cases operation with
  | run args => exact .inl ⟨args, rfl, h⟩
  | onProject projectId operation =>
      obtain ⟨record, hloaded, hsaved⟩ := Option.bind_eq_some_iff.mp h
      exact .inr (.inl ⟨projectId, operation, record, rfl, hloaded, hsaved⟩)
  | recordAuthenticationSuccess projectId actor =>
      obtain ⟨record, hloaded, rfl⟩ := Option.map_eq_some_iff.mp h
      exact .inr (.inr ⟨record, hloaded, rfl, edits_recordAuthenticationSuccess actor⟩)
  | recordAuthenticationFailure projectId reason =>
      obtain ⟨record, hloaded, rfl⟩ := Option.map_eq_some_iff.mp h
      exact .inr (.inr ⟨record, hloaded, rfl, edits_recordAuthenticationFailure reason⟩)

/-- A call saves the project that it got. -/
theorem Call.saves_id {call : Call} {loaded : Option ProjectRecord} {saved : ProjectRecord}
    (hloaded : ∀ record, loaded = some record → record.project.id = call.projectId)
    (h : call.saves loaded = some saved) : saved.project.id = call.projectId := by
  rcases Call.saves_cases h with ⟨args, hrun, hsaved⟩ | ⟨_, _, record, -, rfl, hsaved⟩ |
    ⟨record, rfl, -, hedits⟩
  · rw [(saved_run hsaved).edits.projectId, projectId, hrun]
    rfl
  · rw [(ProjectOperation.saved_edits hsaved).projectId]
    exact hloaded record rfl
  · rw [hedits.projectId]
    exact hloaded record rfl

theorem Call.outcome_saved (repository : InMemoryProjectRepository) (call : Call) :
    (call.outcome repository).saved = call.saves (repository.get call.projectId) := by
  obtain ⟨operation, env⟩ := call
  cases operation with
  | run args => exact Outcome.of_saved _
  | onProject projectId operation =>
      unfold outcome Operation.outcome saves Call.projectId
      dsimp only
      cases repository.get projectId with
      | none => rfl
      | some record => exact Outcome.of_saved _
  | recordAuthenticationSuccess projectId actor => rfl
  | recordAuthenticationFailure projectId reason => rfl

/-- A call at once is its action, executed. -/
theorem Call.step_store (repository : InMemoryProjectRepository) (call : Call) :
    (call.step repository).store = execute callProtocol repository.store call := by
  rw [Call.step_eq, Call.outcome_saved]
  have hloaded : ∀ record, repository.get call.projectId = some record →
      record.project.id = call.projectId := fun record => InMemoryProjectRepository.id_of_get
  have hexecute : execute callProtocol repository.store call =
      put repository.store call.projectId (call.saves (repository.get call.projectId)) := rfl
  rw [hexecute]
  cases hsaved : call.saves (repository.get call.projectId) with
  | none => rfl
  | some saved =>
      funext projectId
      have hid := Call.saves_id hloaded hsaved
      change (repository.save saved).get projectId = _
      rw [InMemoryProjectRepository.get_save, hid, put, Function.update_apply]
      rfl

theorem after_calls_store (repository : InMemoryProjectRepository) (calls : List Call) :
    (after Call.step repository calls).store =
      after (execute callProtocol) repository.store calls := by
  induction calls using List.reverseRecOn with
  | nil => rfl
  | append_singleton calls call ih => rw [after_concat, after_concat, Call.step_store, ih]

/-! ## Interleavings -/

section Interleavings

variable (authService : DevTokenAuthService) (repository : InMemoryProjectRepository)
  (exchanges : Nat → Exchange) (schedule : List Nat)

/-- Requests none of which has begun. -/
def requested : State Call String ProjectRecord Nat :=
  start repository.store fun i => (exchanges i).calls authService

/-- The system after a schedule, which names the request that takes each step. -/
def interleaved : State Call String ProjectRecord Nat :=
  after (step callProtocol) (requested authService repository exchanges) schedule

/-- What is stored under a key, and what a request got there, is a record of that project. -/
theorem interleaved_keyed : Holds callProtocol (fun projectId record => record.project.id = projectId)
    (interleaved authService repository exchanges schedule) :=
  holds_of_preserves repository.keyed (fun _ _ _ _ _ hseen hsaved => Call.saves_id hseen hsaved)
    schedule

/-- The store after a schedule, as a repository. -/
def interleavedRepository : InMemoryProjectRepository where
  store := (interleaved authService repository exchanges schedule).store
  keyed := (interleaved_keyed authService repository exchanges schedule).stored

/-- A step that ends a call is the `save` of the record that the call makes of the one that it got:
    the key of the call is the id of that record. -/
theorem interleavedRepository_concat {i : Nat} {call : Call} {rest : List Call}
    {seen : Option ProjectRecord}
    (hclient : (interleaved authService repository exchanges schedule).clients i =
      ⟨call :: rest, some seen⟩) :
    interleavedRepository authService repository exchanges (schedule ++ [i]) =
      (interleavedRepository authService repository exchanges schedule).saveSome
        (call.saves seen) := by
  have hseen : ∀ record, seen = some record → record.project.id = call.projectId := by
    rintro record rfl
    exact ((interleaved_keyed authService repository exchanges schedule).clients i).seen call rest
      record hclient
  have hstore : (interleaved authService repository exchanges (schedule ++ [i])).store =
      put (interleaved authService repository exchanges schedule).store call.projectId
        (call.saves seen) := by
    rw [interleaved, after_concat, ← interleaved, store_of_seen hclient]
    rfl
  rw [interleavedRepository, InMemoryProjectRepository.ext_iff]
  refine hstore.trans ?_
  cases hsaved : call.saves seen with
  | none => rfl
  | some saved =>
      funext projectId
      rw [put, Function.update_apply, ← Call.saves_id hseen hsaved]
      rfl

/-- A run, and two requests of the owner that approve its external send. -/
def sampleRequests (i : Nat) : Exchange :=
  if i = 0 then sampleRunExchange else sampleApprovalExchange "dev-owner-token"

/-- The rule: what `run` establishes, and what every operation that a request can ask for and every
    log entry keep, holds of every record that an interleaving stores. -/
theorem interleaved_of_calls (inv : String → ProjectRecord → Prop)
    (hrun : ∀ rt args record, savedBy (CodexOrchestrator.run rt args) = some record →
      inv rt.projectUuid record)
    (hoperation : ∀ i payload authorization actor rt loaded record,
      (exchanges i).request = .onProject payload authorization →
      authService.resolveActor authorization = .ok actor → inv payload.projectId loaded →
      savedBy ((payload.operation actor).body rt loaded) = some record →
      inv payload.projectId record)
    (hlog : ∀ projectId loaded record, inv projectId loaded → record.state = loaded.state →
      Edits nobody loaded record → inv projectId record)
    {projectId : String} {record : ProjectRecord}
    (hget : (interleaved authService .new exchanges schedule).store projectId = some record) :
    inv projectId record := by
  refine (holds_of_preserves (fun key v h => nomatch h)
    (fun i call hmem seen saved hseen hsaved => ?_) schedule).stored projectId record hget
  have hsaves : call.saves seen = some saved := hsaved
  rcases Call.saves_cases hsaves with ⟨args, hcall, h⟩ | ⟨id, operation, loaded, hcall, rfl, h⟩ |
    ⟨loaded, rfl, hstate, hedits⟩
  · have hkey : callProtocol.key call = call.env.runtime.projectUuid := by
      change call.projectId = _
      rw [Call.projectId, hcall]
      rfl
    rw [hkey]
    exact hrun _ args saved h
  · have hkey : callProtocol.key call = id := by
      change call.projectId = _
      rw [Call.projectId, hcall]
    rw [hkey] at hseen ⊢
    cases (exchanges i).mem_calls authService hmem with
    | run request => cases hcall
    | failure request refused => cases hcall
    | success request accepted => cases hcall
    | operation request accepted =>
        cases hcall
        exact hoperation i _ _ _ _ loaded saved request accepted (hseen loaded rfl) h
  · exact hlog _ loaded saved (hseen loaded rfl) hstate hedits

/-- The record is one of the project, on a lane of the lifecycle, and its log replays to it. -/
structure OnTrack (projectId : String) (record : ProjectRecord) : Prop where
  id : record.project.id = projectId
  lane : ∃ lane, OnLane lane record
  replays : Replays record

/-- Saves overwrite each other, but they overwrite whole records: in every interleaving the parts of
    a stored record agree, and its log replays to it. -/
theorem interleaved_consistent {projectId : String} {record : ProjectRecord}
    (hget : (interleaved authService .new exchanges schedule).store projectId = some record) :
    record.project.id = projectId ∧ Consistent record ∧ Replays record := by
  have htrack : OnTrack projectId record := by
    refine interleaved_of_calls authService exchanges schedule OnTrack ?_ ?_ ?_ hget
    · intro rt args record h
      obtain ⟨lane, -, hlane⟩ := run_lane (saved_run h)
      have hedits := (saved_run h).edits
      exact ⟨hedits.projectId, ⟨lane, hlane⟩,
        hedits.keeps Replays.edit (replays_initialRecord rt args)⟩
    · rintro i payload authorization actor rt loaded record - - ⟨hid, ⟨lane, hlane⟩, hreplays⟩ h
      obtain ⟨next, -, hnext⟩ := saved_lane hlane h
      have hedits := ProjectOperation.saved_edits h
      exact ⟨hedits.projectId.trans hid, ⟨next, hnext⟩, hedits.keeps Replays.edit hreplays⟩
    · rintro projectId loaded record ⟨hid, ⟨lane, hlane⟩, hreplays⟩ hstate hedits
      exact ⟨hedits.projectId.trans hid, ⟨lane, hlane.of_state hstate⟩,
        hedits.keeps Replays.edit hreplays⟩
  obtain ⟨hid, ⟨lane, hlane⟩, hreplays⟩ := htrack
  exact ⟨hid, hlane.consistent, hreplays⟩

/-- Both approvals get the waiting project, and the second save overwrites the first. -/
theorem interleaved_consistent_sample : ∃ record,
    (interleaved sampleAuthService .new sampleRequests [0, 0, 1, 1, 2, 2, 1, 2, 1, 2]).store "p" =
      some record ∧ record.project.id = "p" ∧ Consistent record ∧ Replays record := by
  have hstored : ((interleaved sampleAuthService .new sampleRequests
      [0, 0, 1, 1, 2, 2, 1, 2, 1, 2]).store "p").isSome = true := by decide +kernel
  obtain ⟨record, hget⟩ := Option.isSome_iff_exists.mp hstored
  exact ⟨record, hget, interleaved_consistent sampleAuthService sampleRequests _ hget⟩

/-- The decision in the entry at position `j` was granted by an earlier entry, to an actor whom the
    policy of the project allows to make it and for whom one of the requests on the project carried a
    token. -/
structure GrantedToBearer (projectId : String) (record : ProjectRecord) (j : Nat)
    (event : HistoryEvent) (actionType : ApprovalActionType) : Prop where
  concerns : event.concerns actionType
  bearer : ∃ i payload authorization, (exchanges i).request = .onProject payload authorization ∧
    payload.projectId = projectId ∧ authService.resolveActor authorization = .ok event.actorContext
  granted : ∃ k, k < j ∧ GrantAt record.events k event.actorContext actionType
  allowed : Allowed record event.actorContext none actionType

theorem GrantedToBearer.extend {authService : DevTokenAuthService} {exchanges : Nat → Exchange}
    {projectId : String} {record record' : ProjectRecord} {j : Nat} {event : HistoryEvent}
    {actionType : ApprovalActionType}
    (h : GrantedToBearer authService exchanges projectId record j event actionType)
    {may : ActorContext → ApprovalActionType → Prop} (hedits : Edits may record record') :
    GrantedToBearer authService exchanges projectId record' j event actionType := by
  obtain ⟨entries, he, -⟩ := hedits.entries
  obtain ⟨k, hk, grant, hget, hgrant⟩ := h.granted
  refine ⟨h.concerns, h.bearer, ⟨k, hk, grant, ?_, hgrant⟩, ?_⟩
  · exact getElem?_of_prefix (he ▸ List.prefix_append _ _) hget
  · unfold Allowed
    rw [hedits.policy]
    exact h.allowed

/-- Every decision of the log was granted to a bearer. -/
def DecisionsGranted (projectId : String) (record : ProjectRecord) : Prop :=
  ∀ (j : Nat) (event : HistoryEvent), record.events[j]? = some event →
    event.eventType.isDecision = true →
    ∃ actionType, GrantedToBearer authService exchanges projectId record j event actionType

theorem DecisionsGranted.quiet {authService : DevTokenAuthService} {exchanges : Nat → Exchange}
    {projectId : String} {loaded saved : ProjectRecord}
    (h : DecisionsGranted authService exchanges projectId loaded) (hedits : Edits nobody loaded saved) :
    DecisionsGranted authService exchanges projectId saved := by
  intro j event hj hdecision
  obtain ⟨entries, he, hquiet⟩ := hedits.entries
  by_cases hold : j < loaded.events.length
  · rw [he, List.getElem?_append_left hold] at hj
    obtain ⟨actionType, hgranted⟩ := h j event hj hdecision
    exact ⟨actionType, hgranted.extend hedits⟩
  · rw [he, List.getElem?_append_right (Nat.le_of_not_lt hold)] at hj
    rw [not_decision_of_nobody (hquiet event (List.mem_of_getElem? hj))] at hdecision
    cases hdecision

/-- No endpoint passes an allow-list, and the deciding actor is the one of the token. -/
theorem ProtectedPayload.decider_operation {payload : ProtectedPayload} {actor decider : ActorContext}
    {allowList : Option (Dict (List String))}
    (h : (payload.operation actor).decider = some (decider, allowList)) :
    decider = actor ∧ allowList = none := by
  cases payload with
  | resumeApproval payload => cases h; exact ⟨rfl, rfl⟩
  | rejectApproval payload => cases h; exact ⟨rfl, rfl⟩
  | resumeRevision payload => cases h
  | startReplanning payload => cases h

/-- However the requests interleave, every decision in the log of a stored record was granted before
    it, to the actor of a token that one of the requests on the project carried and whom the policy of
    the project allows to make it. -/
theorem interleaved_decisions {projectId : String} {record : ProjectRecord}
    (hget : (interleaved authService .new exchanges schedule).store projectId = some record) :
    DecisionsGranted authService exchanges projectId record := by
  refine interleaved_of_calls authService exchanges schedule _ ?_ ?_ ?_ hget
  · intro rt args record h
    have hnone : DecisionsGranted authService exchanges rt.projectUuid (initialRecord rt args) :=
      fun j event hj _ => by cases hj
    exact hnone.quiet (saved_run h).edits
  · intro i payload authorization actor rt loaded record hrequest haccepted hloaded hsaved
    rcases ProjectOperation.saved_call hsaved with hedits | ⟨decider, allowList, actions, hdecider, hcall⟩
    · exact hloaded.quiet hedits
    · obtain ⟨rfl, rfl⟩ := ProtectedPayload.decider_operation hdecider
      intro j event hj hdecision
      by_cases hold : j < loaded.events.length
      · obtain ⟨entries, he, -⟩ := hcall.edits.entries
        rw [he, List.getElem?_append_left hold] at hj
        obtain ⟨actionType, hgranted⟩ := hloaded j event hj hdecision
        exact ⟨actionType, hgranted.extend hcall.edits⟩
      · obtain ⟨actionType, k, hactor, hconcerns, hallowed, -, hkj, hgrant⟩ :=
          hcall.decision hj (Nat.le_of_not_lt hold) hdecision
        subst hactor
        refine ⟨actionType, hconcerns, ⟨i, payload, authorization, hrequest, rfl, haccepted⟩,
          ⟨k, hkj, hgrant⟩, ?_⟩
        unfold Allowed
        rw [hcall.edits.policy]
        exact hallowed
  · exact fun projectId loaded record hloaded _ hedits => hloaded.quiet hedits

theorem interleaved_decisions_sample : ∃ record,
    (interleaved sampleAuthService .new sampleRequests [0, 0, 1, 1, 2, 2, 1, 2, 1, 2]).store "p" =
      some record ∧ DecisionsGranted sampleAuthService sampleRequests "p" record := by
  have hstored : ((interleaved sampleAuthService .new sampleRequests
      [0, 0, 1, 1, 2, 2, 1, 2, 1, 2]).store "p").isSome = true := by decide +kernel
  obtain ⟨record, hget⟩ := Option.isSome_iff_exists.mp hstored
  exact ⟨record, hget, interleaved_decisions sampleAuthService sampleRequests _ hget⟩

/-- The requests that take turns: none begins a call on a project while another one is between the
    get and the save of a call on it.  Then the repository is the one after the same calls, one at a
    time, and each request made its calls in order. -/
theorem interleaved_serial
    (hturns : EachStep (step callProtocol) (requested authService repository exchanges)
      (Exclusive callProtocol) schedule) :
    ∃ calls : List (Nat × Call),
      (interleaved authService repository exchanges schedule).store =
        (after Call.step repository (calls.map Prod.snd)).store ∧
      ∀ i, (exchanges i).calls authService =
        (calls.filter fun call => call.1 = i).map Prod.snd ++
          ((interleaved authService repository exchanges schedule).clients i).todo := by
  refine ⟨commits callProtocol (requested authService repository exchanges) schedule, ?_, fun i => ?_⟩
  · rw [after_calls_store]
    exact store_of_eachStep (current_of_exclusive hturns)
  · exact todo_eq_commits callProtocol (requested authService repository exchanges) schedule i

/-- After the run, two approvals of the same project whose calls alternate. -/
theorem interleaved_serial_sample : ∃ calls : List (Nat × Call),
    (interleaved sampleAuthService .new sampleRequests [0, 0, 1, 1, 2, 2, 1, 1, 2, 2]).store =
      (after Call.step .new (calls.map Prod.snd)).store ∧
    ∀ i, (sampleRequests i).calls sampleAuthService =
      (calls.filter fun call => call.1 = i).map Prod.snd ++
        ((interleaved sampleAuthService .new sampleRequests
          [0, 0, 1, 1, 2, 2, 1, 1, 2, 2]).clients i).todo :=
  interleaved_serial sampleAuthService .new sampleRequests _ (exclusive_of_turns [0, 1, 2, 1, 2])

/-- Requests on other projects are not noticed: what is stored of a project after an interleaving is
    what the requests on it alone store. -/
theorem interleaved_isolated (projectId : String) :
    (interleaved authService repository exchanges schedule).store projectId =
      (interleaved authService repository exchanges
        (schedule.filter fun i => (exchanges i).project? = some projectId)).store projectId := by
  refine stored_of_keyed (fun i => (exchanges i).project?) (fun i call hmem => ?_) schedule
    projectId
  cases (exchanges i).mem_calls authService hmem with
  | run request => rw [Exchange.project?, request]; rfl
  | failure request refused => rw [Exchange.project?, request]; rfl
  | success request accepted => rw [Exchange.project?, request]; rfl
  | operation request accepted => rw [Exchange.project?, request]; rfl

end Interleavings

end CodexOrchestrator
