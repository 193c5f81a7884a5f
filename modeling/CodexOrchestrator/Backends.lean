import CodexOrchestrator.Orchestrator.Mirror

/-!
# Backends — the same calls over the two repositories

A run over `PostgresProjectRepository` starts from empty tables and makes the same calls, in the same
environments, as a run over `InMemoryProjectRepository`.  After every call the two have answered the
same, and what they load for a project is a record and a copy of it.
-/

open Raise Table

namespace CodexOrchestrator

/-! ## A call over Postgres -/

section Calls

variable (server : PostgresServer)

/-- `_get_record_or_raise`, then the operation; what `get` raises is not a `LookupError`. -/
def Operation.outcomeOnPostgres (rt : Runtime) (database : Database) : Operation → Outcome
  | .run args => .of (CodexOrchestrator.run rt args)
  | .onProject projectId operation =>
      match server.get database projectId with
      | .error error => ⟨none, .error error⟩
      | .ok none => ⟨none, .error (projectNotFound projectId)⟩
      | .ok (some record) => .of (operation.body rt record)
  | .recordAuthenticationSuccess projectId actor =>
      match server.get database projectId with
      | .error error => ⟨none, .error error⟩
      | .ok record =>
          ⟨record.map (CodexOrchestrator.recordAuthenticationSuccess rt actor), .ok none⟩
  | .recordAuthenticationFailure projectId reason =>
      match server.get database projectId with
      | .error error => ⟨none, .error error⟩
      | .ok record =>
          ⟨record.map (CodexOrchestrator.recordAuthenticationFailure rt reason), .ok none⟩

/-- A transaction that fails is rolled back, and the call raises what it raised. -/
def commitOutcome (database : Database) (outcome : Outcome) :
    Database × Except PyError (Option OrchestrationResult) :=
  match outcome.saved with
  | none => (database, outcome.answer)
  | some record =>
      match server.save database record with
      | .ok database => (database, outcome.answer)
      | .error error => (database, .error error)

def performOnPostgres (rt : Runtime) (database : Database) (operation : Operation) :
    Database × Except PyError (Option OrchestrationResult) :=
  commitOutcome server database (operation.outcomeOnPostgres server rt database)

def Call.stepOnPostgres (database : Database) (call : Call) : Database :=
  (performOnPostgres server call.env.runtime database call.operation).1

/-- The tables after a run. -/
def afterCallsOnPostgres (calls : List Call) : Database :=
  Runs.after (Call.stepOnPostgres server) {} calls

end Calls

/-! ## What the two sides agree on -/

/-- The same exception, or results with the same summary and records that mirror each other. -/
abbrev SameAnswer :
    Except PyError (Option OrchestrationResult) → Except PyError (Option OrchestrationResult) →
      Prop :=
  Related (fun error error' => error' = error) (Option.Rel MirroredResult)

structure MirroredOutcome (outcome outcome' : Outcome) : Prop where
  saved : Option.Rel Tracks outcome.saved outcome'.saved
  answer : SameAnswer outcome.answer outcome'.answer

/-- What the two load for a project is related by `related`. -/
def LoadsAlike (related : ProjectRecord → ProjectRecord → Prop) (server : PostgresServer)
    (repository : InMemoryProjectRepository) (database : Database) (projectId : String) : Prop :=
  ∃ copy, server.get database projectId = .ok copy ∧
    Option.Rel related (repository.get projectId) copy

/-! ## Copies of copies -/

section Copies

variable {server : PostgresServer} {r r' restored : ProjectRecord}

theorem Mirrors.refl (r : ProjectRecord) : Mirrors r r :=
  ⟨rfl, rfl, rfl, ⟨rfl, rfl, .refl _⟩, rfl, .refl _, .refl _, .refl _, .refl _, rfl, rfl⟩

theorem Tracks.refl (hdistinct : r.DistinctIds) (hu : Unambiguous r.project.policy.actionRules) :
    Tracks r r :=
  ⟨.refl r, hdistinct.artifacts, hdistinct.checkpoints, hu⟩

theorem map_id_canon (artifacts : List Artifact) :
    (artifacts.map Artifact.canon).map Artifact.id = artifacts.map Artifact.id := by
  rw [List.map_map]
  rfl

/-- A copy has the ids of the record. -/
theorem Mirrors.distinctIds (h : Mirrors r r') (hdistinct : r.DistinctIds) : r'.DistinctIds := by
  refine ⟨?_, ?_, ?_, ?_, ?_⟩
  · rw [h.tasks]
    exact hdistinct.tasks
  · have hids := h.artifacts.map Artifact.id
    rw [map_id_canon, map_id_canon] at hids
    exact hids.nodup_iff.mpr hdistinct.artifacts
  · exact (h.reviews.map Review.id).nodup_iff.mpr hdistinct.reviews
  · exact (h.checkpoints.map Checkpoint.id).nodup_iff.mpr hdistinct.checkpoints
  · exact (h.approvals.map ApprovalRequest.id).nodup_iff.mpr hdistinct.approvals

/-- Rows in the order of their ids have the build before the trend analysis. -/
theorem build_before_trend {tasks : List Task} {statuses : List TaskStatus}
    (h : tasks.map Task.stage = planStages statuses) (hlength : statuses.length = 5) :
    ((orderById Task.id server.collation tasks).map Task.id).idxOf "task-build" <
      ((orderById Task.id server.collation tasks).map Task.id).idxOf "task-trend" := by
  let rows := orderById Task.id server.collation tasks
  have hids : tasks.map Task.id = buildPlan.map Task.id := by
    have hnodes := congrArg (List.map Prod.fst) (nodes_of_stages h hlength)
    rwa [List.map_map, List.map_map] at hnodes
  have hperm : (rows.map Task.id).Perm (buildPlan.map Task.id) := by
    rw [← hids]
    exact (orderById_perm _ _ _).map _
  have hsorted : (rows.map Task.id).Pairwise fun a b => server.collation a b = true := by
    rw [List.pairwise_map]
    exact orderById_pairwise _ _ server.collation_total server.collation_trans _
  -- both ids are in the plan, and the collation puts them in alphabetical order
  have hbuild : "task-build" ∈ rows.map Task.id := hperm.mem_iff.mpr (by decide)
  exact idxOf_lt_of_pairwise _ server.collation_total hsorted hbuild server.collation_words

/-- The plan of a stored record is loaded in its order. -/
theorem orderTasksForExecution_orderById {lane : Lane} (h : OnLane lane r) :
    orderTasksForExecution (orderById Task.id server.collation r.tasks) = r.tasks := by
  have hlength : lane.taskStatuses.length = 5 := by cases lane <;> rfl
  exact orderTasksForExecution_plan h.tasks hlength (orderById_perm _ _ _)
    (build_before_trend h.tasks hlength)

/-- What the tables give back for a copy is a copy. -/
theorem Tracks.reloaded (h : Tracks r r') {lane : Lane} (hlane : OnLane lane r)
    (hrestored : Restored server r' restored) : Tracks r restored := by
  refine ⟨⟨?_, ?_, ?_, ?_, ?_, ?_, ?_, ?_, ?_, ?_, ?_⟩, ?_, ?_, h.unambiguous⟩
  · rw [hrestored.projectId, h.projectId]
  · rw [hrestored.brief, h.brief]
  · rw [hrestored.status, h.status]
  · exact h.policy.trans hrestored.policy
  · rw [hrestored.tasks, h.tasks, orderTasksForExecution_orderById hlane]
  · exact hrestored.artifacts.trans h.artifacts
  · exact hrestored.reviews.trans h.reviews
  · exact hrestored.checkpoints.trans h.checkpoints
  · exact hrestored.approvals.trans h.approvals
  · rw [hrestored.history, h.history]
  · rw [hrestored.events, h.events]
  · have hids := hrestored.artifacts.map Artifact.id
    rw [map_id_canon, map_id_canon] at hids
    exact hids.nodup_iff.mpr h.artifactIds
  · exact (hrestored.checkpoints.map Checkpoint.id).nodup_iff.mpr h.checkpointIds

end Copies

/-! ## One call on both sides -/

section Step

variable {server : PostgresServer} {rt : Runtime} {repository : InMemoryProjectRepository}
  {database : Database} {operation : Operation}

theorem mirroredOutcome_of {action action' : Action Completion}
    (h : MirroredStep MirroredCompletion action action') :
    MirroredOutcome (.of action) (.of action') := by
  cases h with
  | ok answers => exact ⟨answers.saved, .ok (.some answers.result)⟩
  | error raises => exact ⟨raises.saved, .error raises.error⟩

theorem mirroredOutcome_raised (error : PyError) :
    MirroredOutcome ⟨none, .error error⟩ ⟨none, .error error⟩ :=
  ⟨.none, .error rfl⟩

/-- A log entry of the authentication, for a project that may be unknown. -/
theorem mirroredOutcome_logged {log : ProjectRecord → ProjectRecord}
    {stored copy : Option ProjectRecord} (hlog : ∀ r r', Tracks r r' → Tracks (log r) (log r'))
    (h : Option.Rel Tracks stored copy) :
    MirroredOutcome ⟨stored.map log, .ok none⟩ ⟨copy.map log, .ok none⟩ := by
  cases h with
  | none => exact ⟨.none, .ok .none⟩
  | some hcopy => exact ⟨.some (hlog _ _ hcopy), .ok .none⟩

/-- `run` does not look at the repository, and its record is a copy of itself. -/
theorem mirroredOutcome_run {args : RunArgs}
    (hpolicy : Unambiguous (args.projectPolicy.getD {}).actionRules)
    (hdistinct : ∀ record, (Outcome.of (run rt args)).saved = some record → record.DistinctIds) :
    MirroredOutcome (.of (run rt args)) (.of (run rt args)) := by
  refine ⟨?_, ?_⟩
  · cases hsaved : (Outcome.of (run rt args)).saved with
    | none => exact .none
    | some record =>
        -- the policy of a new project stays the one it was created with
        have hkept : record.project.policy = args.projectPolicy.getD {} := by
          rw [Outcome.of_saved] at hsaved
          exact (saved_run hsaved).edits.policy
        exact .some (.refl (hdistinct record hsaved) (by rw [hkept]; exact hpolicy))
  · cases run rt args with
    | ok completion => exact .ok (.some ⟨rfl, .refl _⟩)
    | error abort => exact .error rfl

/-- The operation does the same on what the two sides load. -/
theorem mirrored_outcome (hload : ∀ projectId, LoadsAlike Tracks server repository database projectId)
    (hpending : ∀ projectId record, repository.get projectId = some record →
      (pendingRequests record.approvals).length ≤ 1)
    (hpolicy : ∀ args, operation = .run args →
      Unambiguous (args.projectPolicy.getD {}).actionRules)
    (hdistinct : ∀ record, (operation.outcome rt repository).saved = some record →
      record.DistinctIds) :
    MirroredOutcome (operation.outcome rt repository)
      (operation.outcomeOnPostgres server rt database) := by
  cases operation with
  | run args => exact mirroredOutcome_run (hpolicy args rfl) hdistinct
  | onProject projectId operation =>
      obtain ⟨copy, hget, hcopy⟩ := hload projectId
      rw [Operation.outcome, Operation.outcomeOnPostgres, hget]
      cases hstored : repository.get projectId with
      | none =>
          rw [hstored] at hcopy
          -- an unknown project is unknown to both, with the same message
          cases hcopy
          exact mirroredOutcome_raised _
      | some record =>
          rw [hstored] at hcopy
          cases hcopy with
          | some htracks =>
              exact mirroredOutcome_of (mirrored_body htracks
                (samePending_of_perm htracks.approvals (hpending projectId record hstored)) operation)
  | recordAuthenticationSuccess projectId actor =>
      obtain ⟨copy, hget, hcopy⟩ := hload projectId
      rw [Operation.outcome, Operation.outcomeOnPostgres, hget]
      exact mirroredOutcome_logged (fun _ _ h => h.recordAuthenticationSuccess actor) hcopy
  | recordAuthenticationFailure projectId reason =>
      obtain ⟨copy, hget, hcopy⟩ := hload projectId
      rw [Operation.outcome, Operation.outcomeOnPostgres, hget]
      exact mirroredOutcome_logged (fun _ _ h => h.recordAuthenticationFailure reason) hcopy

/-- With distinct ids the transaction of the copy commits as well. -/
theorem commitOutcome_of_mirrored {outcome outcome' : Outcome} (h : MirroredOutcome outcome outcome')
    (hdistinct : ∀ record, outcome.saved = some record → record.DistinctIds) :
    commitOutcome server database outcome' =
      ((outcome'.saved.map (savedDatabase server database)).getD database, outcome'.answer) := by
  unfold commitOutcome
  have hsaved := h.saved
  cases hsame : outcome'.saved with
  | none => rfl
  | some copy =>
      rw [hsame] at hsaved
      cases hrecord : outcome.saved with
      | none =>
          rw [hrecord] at hsaved
          cases hsaved
      | some record =>
          rw [hrecord] at hsaved
          cases hsaved with
          | some htracks =>
              have hids := htracks.distinctIds (hdistinct record hrecord)
              dsimp only
              rw [save_of_distinct server database hids]
              rfl

/-- After the saves, the two sides load alike again. -/
theorem loadsAlike_saved {saved saved' : Option ProjectRecord}
    (hload : ∀ projectId, LoadsAlike Tracks server repository database projectId)
    (hsaved : Option.Rel Tracks saved saved')
    (hlane : ∀ record, saved = some record → ∃ lane, OnLane lane record) (projectId : String) :
    LoadsAlike Tracks server (repository.saveSome saved)
      ((saved'.map (savedDatabase server database)).getD database) projectId := by
  cases hsaved with
  | none => exact hload projectId
  | @some record copy htracks =>
      rw [Option.map_some, Option.getD_some]
      by_cases hid : projectId = record.project.id
      -- the project of the call: what was just written is read back
      · obtain ⟨restored, hget, hrestored⟩ := get_saved server database copy
        obtain ⟨lane, hlane⟩ := hlane record rfl
        refine ⟨some restored, ?_, ?_⟩
        · rw [hid, ← htracks.projectId]
          exact hget
        · rw [hid, InMemoryProjectRepository.saveSome, InMemoryProjectRepository.get_save_self]
          exact .some (htracks.reloaded hlane hrestored)
      -- another project: both stores kept it
      · obtain ⟨loaded, hget, hloaded⟩ := hload projectId
        refine ⟨loaded, ?_, ?_⟩
        · rw [get_saved_of_ne server database copy (by rw [htracks.projectId]; exact hid)]
          exact hget
        · rw [InMemoryProjectRepository.saveSome, InMemoryProjectRepository.get_save, if_neg hid]
          exact hloaded

end Step

/-! ## Runs -/

/-- A new project has a policy without two spellings of one action. -/
def Call.UnambiguousPolicy (call : Call) : Prop :=
  ∀ args, call.operation = .run args → Unambiguous (args.projectPolicy.getD {}).actionRules

/-- The record that the call saves has distinct ids in each list. -/
def Call.SavesDistinctIds (repository : InMemoryProjectRepository) (call : Call) : Prop :=
  ∀ record, (call.outcome repository).saved = some record → record.DistinctIds

section Runs

variable {server : PostgresServer} {calls : List Call} {call : Call}

theorem Lane.openRequests_le_one (lane : Lane) : lane.openRequests ≤ 1 := by
  cases lane <;> decide

theorem mirrored_call (hload : ∀ projectId, LoadsAlike Tracks server (afterCalls calls)
      (afterCallsOnPostgres server calls) projectId)
    (hpolicy : call.UnambiguousPolicy) (hdistinct : call.SavesDistinctIds (afterCalls calls)) :
    MirroredOutcome (call.outcome (afterCalls calls)) (call.operation.outcomeOnPostgres server
      call.env.runtime (afterCallsOnPostgres server calls)) := by
  refine mirrored_outcome hload (fun projectId record hget => ?_) hpolicy hdistinct
  obtain ⟨lane, hlane⟩ := stored_lane hget
  rw [hlane.pending]
  exact lane.openRequests_le_one

/-- The record that a call saves is in a lane. -/
theorem saved_call_lane {record : ProjectRecord}
    (hsaved : (call.outcome (afterCalls calls)).saved = some record) :
    ∃ lane, OnLane lane record := by
  have hafter : afterCalls (calls ++ [call]) = Call.step (afterCalls calls) call :=
    Runs.after_concat _ _ _ _
  have hget : (afterCalls (calls ++ [call])).get record.project.id = some record := by
    rw [hafter, Call.step_eq, hsaved]
    exact InMemoryProjectRepository.get_save_self _ _
  exact stored_lane hget

variable (server) in
/-- After the calls, the two sides load a record and a copy of it. -/
def LoadsAlikeAfter (calls : List Call) (repository : InMemoryProjectRepository) : Prop :=
  ∀ projectId, LoadsAlike Tracks server repository (afterCallsOnPostgres server calls) projectId

theorem loadsAlike_afterCalls (hpolicies : ∀ call ∈ calls, call.UnambiguousPolicy)
    (hdistinct : Runs.EachStep Call.step .new Call.SavesDistinctIds calls) :
    LoadsAlikeAfter server calls (afterCalls calls) := by
  have hinit : LoadsAlikeAfter server [] .new := fun projectId => ⟨none, rfl, .none⟩
  have hsteps : Runs.EachStep Call.step .new (fun repository call =>
      call.UnambiguousPolicy ∧ call.SavesDistinctIds repository) calls := by
    intro before call later he
    have hmem : call ∈ calls := by
      rw [he]
      exact List.mem_append_right _ List.mem_cons_self
    exact ⟨hpolicies call hmem, hdistinct before call later he⟩
  refine @Runs.trace_invariant _ _ Call.step .new (LoadsAlikeAfter server) _ hinit ?_ calls hsteps
  intro calls call hload ⟨hpolicy, hdistinct⟩ projectId
  have hmirrored := mirrored_call hload hpolicy hdistinct
  have hafter : afterCallsOnPostgres server (calls ++ [call]) =
      Call.stepOnPostgres server (afterCallsOnPostgres server calls) call :=
    Runs.after_concat _ _ _ _
  rw [hafter, Call.stepOnPostgres, performOnPostgres, commitOutcome_of_mirrored hmirrored hdistinct]
  exact loadsAlike_saved hload hmirrored.saved (fun record => saved_call_lane) projectId

theorem LoadsAlike.toMirrors {repository : InMemoryProjectRepository} {database : Database}
    {projectId : String} (h : LoadsAlike Tracks server repository database projectId) :
    LoadsAlike Mirrors server repository database projectId := by
  obtain ⟨copy, hget, hcopy⟩ := h
  refine ⟨copy, hget, ?_⟩
  generalize repository.get projectId = stored at hcopy
  cases hcopy with
  | none => exact .none
  | some htracks => exact .some htracks.toMirrors

variable (server) in
/-- Step by step, a run over Postgres answers what the run over the in-memory repository answers, and
    stores the same records, up to the order of four lists. -/
theorem postgres_simulates (hpolicies : ∀ call ∈ calls, call.UnambiguousPolicy)
    (hdistinct : Runs.EachStep Call.step .new Call.SavesDistinctIds calls)
    {before later : List Call} (hcalls : calls = before ++ call :: later) :
    SameAnswer (perform call.env.runtime (afterCalls before) call.operation).2
      (performOnPostgres server call.env.runtime (afterCallsOnPostgres server before)
        call.operation).2 ∧
    ∀ projectId, LoadsAlike Mirrors server (afterCalls (before ++ [call]))
      (afterCallsOnPostgres server (before ++ [call])) projectId := by
  have hsplit : calls = (before ++ [call]) ++ later := by
    rw [hcalls, List.append_assoc, List.singleton_append]
  rw [hsplit] at hpolicies hdistinct
  have hpolicies : ∀ c ∈ before ++ [call], c.UnambiguousPolicy :=
    fun c hc => hpolicies c (List.mem_append_left _ hc)
  obtain ⟨hbefore, hlast⟩ := hdistinct.of_append.of_concat
  have hload := @loadsAlike_afterCalls server before
    (fun c hc => hpolicies c (List.mem_append_left _ hc)) hbefore
  have hmirrored := mirrored_call hload
    (hpolicies call (List.mem_append_right _ (List.mem_singleton_self _))) hlast
  constructor
  · rw [performOnPostgres, commitOutcome_of_mirrored hmirrored hlast]
    exact hmirrored.answer
  · intro projectId
    exact (loadsAlike_afterCalls hpolicies hdistinct.of_append projectId).toMirrors

/-- The external send is asked for and approved, over both repositories. -/
theorem postgres_simulates_sample :
    SameAnswer (perform sampleApproval.env.runtime (afterCalls [sampleRun])
        sampleApproval.operation).2
      (performOnPostgres sampleServer sampleApproval.env.runtime
        (afterCallsOnPostgres sampleServer [sampleRun]) sampleApproval.operation).2 ∧
    ∀ projectId, LoadsAlike Mirrors sampleServer (afterCalls [sampleRun, sampleApproval])
      (afterCallsOnPostgres sampleServer [sampleRun, sampleApproval]) projectId := by
  have hpolicies : ∀ call ∈ [sampleRun, sampleApproval], call.UnambiguousPolicy := by
    intro call hmem args hargs key key' hkey
    have hnone : args.projectPolicy = none := by
      rcases List.mem_pair.mp hmem with rfl | rfl <;> cases hargs
      rfl
    rw [hnone] at hkey
    exact absurd rfl hkey
  have hfirst : ∀ record ∈ (sampleRun.outcome .new).saved, record.DistinctIds := by decide
  have hsecond : ∀ record ∈ (sampleApproval.outcome (afterCalls [sampleRun])).saved,
      record.DistinctIds := by decide
  have hdistinct : Runs.EachStep Call.step .new Call.SavesDistinctIds
      ([sampleRun] ++ [sampleApproval]) := (Runs.EachStep.nil.concat hfirst).concat hsecond
  exact postgres_simulates sampleServer hpolicies hdistinct
    (rfl : _ = [sampleRun] ++ sampleApproval :: [])

end Runs

end CodexOrchestrator
