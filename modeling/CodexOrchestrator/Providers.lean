import Mathlib.Algebra.Order.Ring.Rat
import Mathlib.Tactic.NormNum
import CodexOrchestrator.Lib.Text
import CodexOrchestrator.Lib.Raise
import CodexOrchestrator.Schemas

/-!
# Providers — trend providers and their factory

`app/runtime_flags.py` and `app/providers/`.  A provider is what the abstract class `TrendProvider`
asks for: a name and an `analyze` that may raise.  The three external adapters answer from the mock
provider under their own name.
-/

open PyText

namespace CodexOrchestrator

/-! ## Environment flags -/

def truthyTokens : List String := ["1", "true", "yes", "on"]

def falsyTokens : List String := ["0", "false", "no", "off"]

def parseEnvBool (value : Option String) (default : Bool) : Bool :=
  let normalized := lower (strip (value.getD ""))
  if normalized ∈ truthyTokens then true
  else if normalized ∈ falsyTokens then false
  else default

def parseStrictEnvFlag (value : Option String) : Bool :=
  let normalized := strip (value.getD "")
  -- Malformed strict flags fail-safe to strict mode.
  if normalized = "" then false else parseEnvBool (some normalized) true

/-! ## Providers -/

structure TrendProvider where
  name : String
  analyze : TrendAnalysisRequest → Except PyError TrendAnalysisResult

def mockCandidates (topic : String) : List TrendCandidate :=
  [{ name := topic ++ " workflow automation"
     description := "Growing use of workflow-native AI agents for repeatable delivery."
     evidence := [{ source := "mock_report", title := "Mock trend summary"
                    snippet := "Teams are adopting reusable orchestration patterns." }]
     freshness := 72 / 100
     confidence := 68 / 100
     adoptionNote := "Start with one narrow workflow and add guardrails before expansion."
     freshness_range := by constructor <;> norm_num
     confidence_range := by constructor <;> norm_num },
   { name := topic ++ " retrieval quality controls"
     description := "Focus on evidence quality and freshness scoring in trend pipelines."
     evidence := [{ source := "mock_briefing", title := "Mock evidence set"
                    snippet := "Confidence signals are being standardized across providers." }]
     freshness := 64 / 100
     confidence := 62 / 100
     adoptionNote := "Define confidence thresholds before using trend output in decisions."
     freshness_range := by constructor <;> norm_num
     confidence_range := by constructor <;> norm_num }]

def mockAnalyze (request : TrendAnalysisRequest) : TrendAnalysisResult where
  provider := "mock"
  trendTopic := request.trendTopic
  candidateTrends := (mockCandidates request.trendTopic).take request.maxItems

def mockTrendProvider : TrendProvider where
  name := "mock"
  analyze request := .ok (mockAnalyze request)

/-- What the fallback adapter does to each candidate of the mock provider. -/
def TrendCandidate.asFallback (adapterLabel : String) (candidate : TrendCandidate) :
    TrendCandidate :=
  { candidate with
    adoptionNote := candidate.adoptionNote ++
      (" (" ++ adapterLabel ++ " adapter currently running in mock fallback mode.)")
    confidence := min candidate.confidence (1 / 2)
    confidence_range := ⟨le_min candidate.confidence_range.1 (by norm_num),
      (min_le_left _ _).trans candidate.confidence_range.2⟩ }

/-- `MockFallbackAdapterTrendProvider`: no live external call, the mock result under `name`. -/
def mockFallbackAdapterTrendProvider (name adapterLabel : String) : TrendProvider where
  name := name
  analyze request := do
    let result ← mockTrendProvider.analyze request
    return { result with
      provider := name
      candidateTrends := result.candidateTrends.map (TrendCandidate.asFallback adapterLabel) }

def geminiTrendProvider : TrendProvider := mockFallbackAdapterTrendProvider "gemini" "Gemini"

def grokTrendProvider : TrendProvider := mockFallbackAdapterTrendProvider "grok" "Grok"

def openAITrendProvider : TrendProvider := mockFallbackAdapterTrendProvider "openai" "OpenAI"

/-- `get_trend_provider(name)`, with the value of `TREND_PROVIDER_STRICT`. -/
def getTrendProvider (trendProviderStrict : Option String) (name : String) :
    Except PyError TrendProvider :=
  let normalized := orElse (lower (strip name)) "mock"
  if normalized = "mock" then .ok mockTrendProvider
  else if normalized = "gemini" ∨ startsWith normalized "gemini-" then .ok geminiTrendProvider
  else if normalized = "grok" ∨ startsWith normalized "grok-" then .ok grokTrendProvider
  else if normalized = "openai" ∨ startsWith normalized "openai-" ∨ startsWith normalized "gpt-" then
    .ok openAITrendProvider
  else if parseStrictEnvFlag trendProviderStrict then
    .error (.valueError ("Unsupported trend provider: " ++ name))
  else .ok mockTrendProvider

/-! ## What every deployed provider does -/

/-- A provider that answers every request under its own name. -/
def TrendProvider.Answers (provider : TrendProvider) : Prop :=
  ∀ request, ∃ result, provider.analyze request = .ok result ∧ result.provider = provider.name

theorem mockTrendProvider_answers : mockTrendProvider.Answers :=
  fun request => ⟨mockAnalyze request, rfl, rfl⟩

theorem mockFallbackAdapterTrendProvider_answers (name adapterLabel : String) :
    (mockFallbackAdapterTrendProvider name adapterLabel).Answers :=
  fun _ => ⟨_, rfl, rfl⟩

/-- The factory returns one of the four providers of the package, or raises. -/
theorem getTrendProvider_cases {strict : Option String} {name : String} {provider : TrendProvider}
    (h : getTrendProvider strict name = .ok provider) :
    provider = mockTrendProvider ∨ provider = geminiTrendProvider ∨
      provider = grokTrendProvider ∨ provider = openAITrendProvider := by
  unfold getTrendProvider at h
  dsimp only at h
  split at h
  · exact .inl (Except.ok.inj h).symm
  split at h
  · exact .inr (.inl (Except.ok.inj h).symm)
  split at h
  · exact .inr (.inr (.inl (Except.ok.inj h).symm))
  split at h
  · exact .inr (.inr (.inr (Except.ok.inj h).symm))
  split at h
  · cases h
  · exact .inl (Except.ok.inj h).symm

theorem getTrendProvider_answers {strict : Option String} {name : String}
    {provider : TrendProvider} (h : getTrendProvider strict name = .ok provider) :
    provider.Answers := by
  rcases getTrendProvider_cases h with rfl | rfl | rfl | rfl
  · exact mockTrendProvider_answers
  · exact mockFallbackAdapterTrendProvider_answers _ _
  · exact mockFallbackAdapterTrendProvider_answers _ _
  · exact mockFallbackAdapterTrendProvider_answers _ _

/-- `get_trend_provider(name, strict=False)`: an unknown name falls back to the mock. -/
def getTrendProviderLenient (name : String) : TrendProvider :=
  let normalized := orElse (lower (strip name)) "mock"
  if normalized = "mock" then mockTrendProvider
  else if normalized = "gemini" ∨ startsWith normalized "gemini-" then geminiTrendProvider
  else if normalized = "grok" ∨ startsWith normalized "grok-" then grokTrendProvider
  else if normalized = "openai" ∨ startsWith normalized "openai-" ∨ startsWith normalized "gpt-" then
    openAITrendProvider
  else mockTrendProvider

/-- Without the strict flag in the environment every name is supported. -/
theorem getTrendProvider_lenient {strict : Option String} (name : String)
    (h : parseStrictEnvFlag strict = false) :
    getTrendProvider strict name = .ok (getTrendProviderLenient name) := by
  unfold getTrendProvider getTrendProviderLenient
  simp only [h, Bool.false_eq_true, if_false]
  split_ifs <;> rfl

theorem getTrendProviderLenient_answers (name : String) :
    (getTrendProviderLenient name).Answers :=
  getTrendProvider_answers
    (getTrendProvider_lenient name (by decide : parseStrictEnvFlag none = false))

end CodexOrchestrator
