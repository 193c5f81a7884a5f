import CodexOrchestrator.Schemas

/-!
# Graph — the state machine of a project

`app/orchestrator/graph.py`.
-/

namespace CodexOrchestrator

def stateTransitions : ProjectStatus → List ProjectStatus
  | .draft => [.intakePending]
  | .intakePending => [.readyForPlanning]
  | .readyForPlanning => [.inProgress]
  | .inProgress => [.waitingApproval, .reviewFailed, .completed]
  | .waitingApproval => [.inProgress, .revisionRequested]
  | .reviewFailed => [.revisionRequested]
  | .revisionRequested => [.readyForPlanning, .inProgress]
  | .completed => []

def canTransition (current nextStatus : ProjectStatus) : Bool :=
  nextStatus ∈ stateTransitions current

/-- No state is its own successor, so a recorded transition always changes the status. -/
theorem canTransition_irrefl (status : ProjectStatus) : canTransition status status = false := by
  cases status <;> decide

end CodexOrchestrator
