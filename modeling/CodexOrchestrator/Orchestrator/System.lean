import CodexOrchestrator.Lib.Runs
import CodexOrchestrator.Orchestrator.Operations
import CodexOrchestrator.State.Repository

/-!
# System — runs of calls against one repository

A call is an operation of `PMOrchestrator` with the environment it runs in.  A run is any finite
sequence of calls, by any actors and with any arguments, from the empty in-memory repository.
-/

namespace CodexOrchestrator

/-- The operations that load an existing project and decide what to do with it. -/
inductive ProjectOperation where
  | resumeFromApproval (args : ApprovalResumeArgs)
  | rejectApproval (args : ApprovalRejectArgs)
  | resumeFromRevision (args : RevisionResumeArgs)
  | startReplanning (args : ReplanningStartArgs)

inductive Operation where
  | run (args : RunArgs)
  | onProject (projectId : String) (operation : ProjectOperation)
  | recordAuthenticationSuccess (projectId : String) (actor : ActorContext)
  | recordAuthenticationFailure (projectId reason : String)

/-- What an operation does with the record it loaded. -/
def ProjectOperation.body (rt : Runtime) : ProjectOperation → ProjectRecord → Action Completion
  | .resumeFromApproval args => CodexOrchestrator.resumeFromApproval rt args
  | .rejectApproval args => CodexOrchestrator.rejectApproval rt args
  | .resumeFromRevision args => CodexOrchestrator.resumeFromRevision rt args
  | .startReplanning args => CodexOrchestrator.startReplanning rt args

/-- The effect of a call: the record it hands to `repository.save`, if any, and its answer. -/
structure Outcome where
  saved : Option ProjectRecord
  answer : Except PyError (Option OrchestrationResult)

def Outcome.of : Action Completion → Outcome
  | .ok completion => ⟨completion.saved, .ok (some completion.result)⟩
  | .error abort => ⟨abort.saved, .error abort.error⟩

def projectNotFound (projectId : String) : PyError :=
  .lookupError ("Project not found: " ++ projectId)

/-- `_get_record_or_raise`, then the operation. -/
def Operation.outcome (rt : Runtime) (repository : InMemoryProjectRepository) :
    Operation → Outcome
  | .run args => .of (CodexOrchestrator.run rt args)
  | .onProject projectId operation =>
      match repository.get projectId with
      | none => ⟨none, .error (projectNotFound projectId)⟩
      | some record => .of (operation.body rt record)
  | .recordAuthenticationSuccess projectId actor =>
      ⟨(repository.get projectId).map (CodexOrchestrator.recordAuthenticationSuccess rt actor),
        .ok none⟩
  | .recordAuthenticationFailure projectId reason =>
      ⟨(repository.get projectId).map (CodexOrchestrator.recordAuthenticationFailure rt reason),
        .ok none⟩

def perform (rt : Runtime) (repository : InMemoryProjectRepository) (operation : Operation) :
    InMemoryProjectRepository × Except PyError (Option OrchestrationResult) :=
  let outcome := operation.outcome rt repository
  (repository.saveSome outcome.saved, outcome.answer)

/-- The environment of a call: `TREND_PROVIDER_STRICT`, the uuids it would draw, and the clock. -/
structure Environment where
  trendProviderStrict : Option String := none
  projectUuid : String
  approvalUuid : String
  now : Nat → String := fun _ => ""

/-- The deployed runtime: the provider factory of the package. -/
def Environment.runtime (env : Environment) : Runtime where
  getTrendProvider := CodexOrchestrator.getTrendProvider env.trendProviderStrict
  projectUuid := env.projectUuid
  approvalUuid := env.approvalUuid
  now := env.now

theorem Environment.runtime_getTrendProvider (env : Environment) (name : String) :
    env.runtime.getTrendProvider name =
      CodexOrchestrator.getTrendProvider env.trendProviderStrict name := by
  rw [Environment.runtime]

structure Call where
  operation : Operation
  env : Environment

def Call.outcome (repository : InMemoryProjectRepository) (call : Call) : Outcome :=
  call.operation.outcome call.env.runtime repository

def Call.step (repository : InMemoryProjectRepository) (call : Call) :
    InMemoryProjectRepository :=
  (perform call.env.runtime repository call.operation).1

/-- The repository after a run. -/
def afterCalls (calls : List Call) : InMemoryProjectRepository :=
  Runs.after Call.step .new calls

theorem Call.step_eq (repository : InMemoryProjectRepository) (call : Call) :
    call.step repository = repository.saveSome (call.outcome repository).saved := rfl

/-! ## A sample project -/

def sampleBrief : ProjectBrief where
  objective := "AI support desk"
  rawRequest := "Build an AI support desk"

def sampleCall (approvalUuid : String) (operation : Operation) : Call where
  operation := operation
  env := { projectUuid := "p", approvalUuid := approvalUuid }

def sampleOwner : ActorContext := ⟨"owner-1", .owner, .human⟩

/-- `run` with the Gemini provider, which waits for the approval of the external send. -/
def sampleRun : Call :=
  sampleCall "1" (.run { brief := sampleBrief, trendProviderName := "gemini" })

def sampleApprovalArgs : ApprovalResumeArgs where
  approvedActions := [.action .externalApiSend]
  actor := .context sampleOwner
  trendProviderName := "gemini"

/-- The owner approves the external send. -/
def sampleApproval : Call :=
  sampleCall "2" (.onProject "p" (.resumeFromApproval sampleApprovalArgs))

/-- The owner rejects the external send. -/
def sampleRejection : Call :=
  sampleCall "3" (.onProject "p" (.rejectApproval
    { rejectedActions := [], actor := .context sampleOwner, reason := "Not yet." }))

/-- The owner resumes a revision in the given mode. -/
def sampleRevision (resumeMode : RevisionResumeMode) : Call :=
  sampleCall "4" (.onProject "p" (.resumeFromRevision
    { resumeMode, actor := .context sampleOwner, trendProviderName := "gemini" }))

/-! ## What a call can save -/

/-- The record an operation on a project saves, if it saves one. -/
def savedBy : Action Completion → Option ProjectRecord
  | .ok completion => completion.saved
  | .error abort => abort.saved

theorem Outcome.of_saved (action : Action Completion) : (Outcome.of action).saved = savedBy action := by
  cases action <;> rfl

theorem perform_run (rt : Runtime) (repository : InMemoryProjectRepository) (args : RunArgs) :
    perform rt repository (.run args) =
      (repository.saveSome (savedBy (CodexOrchestrator.run rt args)),
        (Outcome.of (CodexOrchestrator.run rt args)).answer) := by
  rw [← Outcome.of_saved]
  rfl

theorem perform_onProject (rt : Runtime) {repository : InMemoryProjectRepository}
    {projectId : String} {loaded : ProjectRecord} (operation : ProjectOperation)
    (h : repository.get projectId = some loaded) :
    perform rt repository (.onProject projectId operation) =
      (repository.saveSome (savedBy (operation.body rt loaded)),
        (Outcome.of (operation.body rt loaded)).answer) := by
  have houtcome : (Operation.onProject projectId operation).outcome rt repository =
      .of (operation.body rt loaded) := by
    rw [Operation.outcome, h]
  rw [perform, houtcome, Outcome.of_saved]

theorem perform_unknown (rt : Runtime) {repository : InMemoryProjectRepository}
    {projectId : String} (operation : ProjectOperation) (h : repository.get projectId = none) :
    perform rt repository (.onProject projectId operation) =
      (repository, .error (projectNotFound projectId)) := by
  have houtcome : (Operation.onProject projectId operation).outcome rt repository =
      ⟨none, .error (projectNotFound projectId)⟩ := by
    rw [Operation.outcome, h]
  rw [perform, houtcome]
  rfl

theorem Outcome.answer_eq_error {action : Action Completion} {error : PyError}
    (h : (Outcome.of action).answer = .error error) :
    ∃ abort, action = .error abort ∧ abort.error = error := by
  cases action with
  | ok completion => cases h
  | error abort => exact ⟨abort, rfl, Except.error.inj h⟩

theorem Outcome.answer_eq_ok {action : Action Completion} {result : OrchestrationResult}
    (h : (Outcome.of action).answer = .ok (some result)) :
    ∃ completion, action = .ok completion ∧ completion.result = result := by
  cases action with
  | ok completion => exact ⟨completion, rfl, Option.some.inj (Except.ok.inj h)⟩
  | error abort => cases h

/-- A record that a call saves comes from `run`, or from one operation on the stored record. -/
theorem Operation.saved_cases {rt : Runtime} {repository : InMemoryProjectRepository}
    {operation : Operation} {record : ProjectRecord}
    (h : (operation.outcome rt repository).saved = some record) :
    (∃ args, operation = .run args ∧ savedBy (CodexOrchestrator.run rt args) = some record) ∨
    (∃ projectId op loaded, operation = .onProject projectId op ∧
      repository.get projectId = some loaded ∧ savedBy (op.body rt loaded) = some record) ∨
    (∃ projectId actor loaded, operation = .recordAuthenticationSuccess projectId actor ∧
      repository.get projectId = some loaded ∧
      record = CodexOrchestrator.recordAuthenticationSuccess rt actor loaded) ∨
    (∃ projectId reason loaded, operation = .recordAuthenticationFailure projectId reason ∧
      repository.get projectId = some loaded ∧
      record = CodexOrchestrator.recordAuthenticationFailure rt reason loaded) := by
  cases operation with
  | run args =>
      rw [outcome, Outcome.of_saved] at h
      exact .inl ⟨args, rfl, h⟩
  | onProject projectId op =>
      rw [outcome] at h
      split at h
      · cases h
      · rename_i loaded hl
        rw [Outcome.of_saved] at h
        exact .inr (.inl ⟨projectId, op, loaded, rfl, hl, h⟩)
  | recordAuthenticationSuccess projectId actor =>
      obtain ⟨loaded, hl, he⟩ := Option.map_eq_some_iff.mp h
      exact .inr (.inr (.inl ⟨projectId, actor, loaded, rfl, hl, he.symm⟩))
  | recordAuthenticationFailure projectId reason =>
      obtain ⟨loaded, hl, he⟩ := Option.map_eq_some_iff.mp h
      exact .inr (.inr (.inr ⟨projectId, reason, loaded, rfl, hl, he.symm⟩))

/-- After an operation on a project, the stored record is the one from before, or the one that the
    operation saved. -/
theorem saved_of_onProject {before : List Call} {call : Call} {projectId : String}
    {operation : ProjectOperation} {loaded saved : ProjectRecord}
    (hcall : call.operation = .onProject projectId operation)
    (hloaded : (afterCalls before).get projectId = some loaded)
    (hsaved : (afterCalls (before ++ [call])).get projectId = some saved) :
    saved = loaded ∨ savedBy (operation.body call.env.runtime loaded) = some saved := by
  have hafter : afterCalls (before ++ [call]) = Call.step (afterCalls before) call :=
    Runs.after_concat _ _ _ _
  rw [hafter, Call.step, hcall, perform_onProject _ _ hloaded] at hsaved
  rcases InMemoryProjectRepository.get_saveSome hsaved with h | h
  · exact .inr h
  · rw [hloaded] at h
    exact .inl (Option.some.inj h).symm

/-! ## Invariants of the stored records -/

/-- Every record of the repository has `inv`, for its project. -/
def StoredAll (inv : String → ProjectRecord → Prop) (repository : InMemoryProjectRepository) : Prop :=
  ∀ projectId stored, repository.get projectId = some stored → inv projectId stored

theorem storedAll_new (inv : String → ProjectRecord → Prop) : StoredAll inv .new :=
  fun _ _ hnew => nomatch hnew

/-- What holds of every record a call saves, as long as it held of the stored ones, holds of every
    record that a run stores; `cond` is a condition on the steps of the run. -/
theorem stored_of_steps {inv : ProjectRecord → Prop}
    {cond : InMemoryProjectRepository → Call → Prop}
    (hsave : ∀ repository call record,
      (∀ projectId stored, repository.get projectId = some stored → inv stored) →
      cond repository call → (call.outcome repository).saved = some record → inv record)
    {calls : List Call} (h : Runs.EachStep Call.step .new cond calls) {projectId : String}
    {record : ProjectRecord} (hget : (afterCalls calls).get projectId = some record) :
    inv record := by
  have hstep : ∀ repository call, StoredAll (fun _ => inv) repository → cond repository call →
      StoredAll (fun _ => inv) (Call.step repository call) := by
    intro repository call hinv hcond projectId stored hstored
    rw [Call.step_eq] at hstored
    rcases InMemoryProjectRepository.get_saveSome hstored with hsaved | hbefore
    · exact hsave repository call stored hinv hcond hsaved
    · exact hinv projectId stored hbefore
  exact Runs.invariant_of_steps (storedAll_new _) hstep calls h projectId record hget

/-- The rule for facts about a stored record and the calls that led to it. -/
theorem stored_trace_of_steps {inv : List Call → String → ProjectRecord → Prop}
    {cond : InMemoryProjectRepository → Call → Prop}
    (hstay : ∀ calls call projectId record, inv calls projectId record →
      inv (calls ++ [call]) projectId record)
    (hsave : ∀ calls call record,
      (∀ projectId stored, (afterCalls calls).get projectId = some stored →
        inv calls projectId stored) →
      cond (afterCalls calls) call → (call.outcome (afterCalls calls)).saved = some record →
      (afterCalls (calls ++ [call])).get record.project.id = some record →
      inv (calls ++ [call]) record.project.id record)
    {calls : List Call} (h : Runs.EachStep Call.step .new cond calls) {projectId : String}
    {record : ProjectRecord} (hget : (afterCalls calls).get projectId = some record) :
    inv calls projectId record := by
  have hstep : ∀ calls call, StoredAll (inv calls) (afterCalls calls) →
      cond (afterCalls calls) call →
      StoredAll (inv (calls ++ [call])) (Call.step (afterCalls calls) call) := by
    intro calls call hinv hcond projectId stored hstored
    have hafter : afterCalls (calls ++ [call]) = Call.step (afterCalls calls) call :=
      Runs.after_concat _ _ _ _
    have hid := InMemoryProjectRepository.id_of_get hstored
    rw [← hafter] at hstored
    have hcases := hstored
    rw [hafter, Call.step_eq] at hcases
    rcases InMemoryProjectRepository.get_saveSome hcases with hsaved | hbefore
    · subst hid
      exact hsave calls call stored hinv hcond hsaved hstored
    · exact hstay calls call projectId stored (hinv projectId stored hbefore)
  exact @Runs.trace_invariant _ _ Call.step .new (fun calls => StoredAll (inv calls)) cond
    (storedAll_new _) hstep calls h projectId record hget

/-- The rule for one record at a time: what `run` establishes, and every operation and every log
    entry of the authentication keeps. -/
theorem stored_of_operations {inv : ProjectRecord → Prop}
    (hrun : ∀ rt args record, savedBy (CodexOrchestrator.run rt args) = some record → inv record)
    (hop : ∀ rt (operation : ProjectOperation) loaded record, inv loaded →
      savedBy (operation.body rt loaded) = some record → inv record)
    (hsuccess : ∀ rt actor loaded, inv loaded →
      inv (CodexOrchestrator.recordAuthenticationSuccess rt actor loaded))
    (hfailure : ∀ rt reason loaded, inv loaded →
      inv (CodexOrchestrator.recordAuthenticationFailure rt reason loaded))
    {calls : List Call} {projectId : String} {record : ProjectRecord}
    (hget : (afterCalls calls).get projectId = some record) : inv record := by
  refine stored_of_steps (fun repository call record hinv (_ : True) hsaved => ?_)
    (fun _ _ _ _ => trivial) hget
  rcases Operation.saved_cases hsaved with ⟨args, -, h⟩ | ⟨id, op, loaded, -, hloaded, h⟩ |
    ⟨id, actor, loaded, -, hloaded, rfl⟩ | ⟨id, reason, loaded, -, hloaded, rfl⟩
  · exact hrun _ args record h
  · exact hop _ op loaded record (hinv id loaded hloaded) h
  · exact hsuccess _ actor loaded (hinv id loaded hloaded)
  · exact hfailure _ reason loaded (hinv id loaded hloaded)

end CodexOrchestrator
