import CodexOrchestrator.Providers

/-!
# Agents — the specialist departments

`app/agents/departments.py`: each agent turns a task into an artifact, or a review.
-/

namespace CodexOrchestrator

def artifactId (task : Task) : String := "artifact-" ++ task.id

def researchAgentRun (task : Task) (brief : ProjectBrief) : Artifact where
  id := artifactId task
  taskId := task.id
  artifactType := "research_notes"
  content := [
    ("summary", .str ("Initial research framing for objective: " ++ brief.objective)),
    ("risks", .strings ["Requirements ambiguity", "External dependency uncertainty"])]

def designAgentRun (task : Task) (brief : ProjectBrief) : Artifact where
  id := artifactId task
  taskId := task.id
  artifactType := "design_outline"
  content := [
    ("architecture", .str "Intake -> Orchestrator -> Specialist Agents -> Artifacts"),
    ("constraints", .strings brief.constraints)]

def buildAgentRun (task : Task) (brief : ProjectBrief) : Artifact where
  id := artifactId task
  taskId := task.id
  artifactType := "build_report"
  content := [("status", .str "MVP scaffold generated"), ("scope", .ofOption brief.scope)]

def trendRequest (brief : ProjectBrief) : TrendAnalysisRequest where
  trendTopic := brief.objective
  context := brief.scope
  maxItems := 3

/-- The trend artifact of a provider's answer. -/
def trendArtifact (task : Task) (trend : TrendAnalysisResult) : Artifact where
  id := artifactId task
  taskId := task.id
  artifactType := "trend_analysis"
  content := trend.modelDump

/-- `TrendAgent(provider).run(task, brief)`: raises what the provider raises. -/
def trendAgentRun (provider : TrendProvider) (task : Task) (brief : ProjectBrief) :
    Except PyError Artifact := do
  let trend ← provider.analyze (trendRequest brief)
  return trendArtifact task trend

def reviewAgentRun (task : Task) (artifacts : List Artifact) : Review :=
  let findings := if artifacts.isEmpty then ["No artifacts produced for review."] else []
  { id := "review-" ++ task.id
    taskId := task.id
    verdict := if findings.isEmpty then "approved" else "changes_requested"
    findings }

theorem reviewAgentRun_verdict (task : Task) {artifacts : List Artifact} (h : artifacts ≠ []) :
    (reviewAgentRun task artifacts).verdict = "approved" := by
  cases artifacts with
  | nil => exact absurd rfl h
  | cons a rest => rfl

end CodexOrchestrator
