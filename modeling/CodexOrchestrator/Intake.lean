import CodexOrchestrator.Lib.Regex
import CodexOrchestrator.Schemas
import CodexOrchestrator.Schemas.Management

/-!
# Intake — from a request to a brief

`app/intake/service.py` and `review_artifacts.py`.  A field of the brief is searched in the text by a
pattern of its own.
-/

open PyText Regex

namespace CodexOrchestrator

/-! ## The patterns -/

def constraintsHeader : Pattern := .sequence [word "constraint", .optional (word "s")]

def successCriteriaHeader : Pattern :=
  .sequence [word "success", .star (.char fun c => isSpace c || c == '_' || c == '-'),
    word "criteria"]

def stakeholdersHeader : Pattern := .sequence [word "stakeholder", .optional (word "s")]

/-- `header\s*:\s*([^\n]+)`. -/
def labelled (header : Pattern) : Pattern :=
  .sequence [header, .star space, oneOf [':'], .star space, .group "1" (.plus notNewline)]

def fieldPatterns : Dict (List Pattern) :=
  ⟨[("title", [labelled (word "title")]), ("scope", [labelled (word "scope")]),
    ("constraints", [labelled constraintsHeader]),
    ("success_criteria", [labelled successCriteriaHeader]),
    ("deadline", [labelled (word "deadline")]),
    ("stakeholders", [labelled stakeholdersHeader])],
    (by decide : ["title", "scope", "constraints", "success_criteria", "deadline",
      "stakeholders"].Nodup)⟩

def listFieldHeaders : Dict Pattern :=
  ⟨[("constraints", constraintsHeader), ("success_criteria", successCriteriaHeader),
    ("stakeholders", stakeholdersHeader)],
    (by decide : ["constraints", "success_criteria", "stakeholders"].Nodup)⟩

/-- `(?:[-*]|\d+[.)])`. -/
def bullet : Pattern := .either (oneOf ['-', '*']) (.seq (.plus digit) (oneOf ['.', ')']))

/-- `\r?\n`. -/
def newline : Pattern := .seq (.optional (oneOf ['\r'])) (oneOf ['\n'])

/-- `header\s*:\s*(?:\r?\n)(?P<body>…)`: the lines of the body start with a bullet. -/
def multilineList (header : Pattern) : Pattern :=
  .sequence [header, .star space, oneOf [':'], .star space, newline,
    .group "body" (.plus (.sequence [.star space, bullet, .star space, .plus notNewline,
      .either newline .textEnd]))]

/-- `header\s*:[ \t]*([^\n]+)`. -/
def inlineList (header : Pattern) : Pattern :=
  .sequence [header, .star space, oneOf [':'], .star (oneOf [' ', '\t']),
    .group "1" (.plus notNewline)]

/-! ## The agent -/

def extractValue (text field : String) : Option String :=
  ((fieldPatterns.get? field).getD []).findSome? fun pattern =>
    ((search pattern text).bind fun found => found.group? "1").map strip

def splitListValues (raw : String) : List String :=
  distinctTrimmed (splitAt [',', ';'] raw)

def extractMultilineListValues (text field : String) : List String :=
  match listFieldHeaders.get? field with
  | none => []
  | some header =>
      match (search (multilineList header) text).bind fun found => found.group? "body" with
      | none => []
      | some body =>
          let cleaned := (splitlines body).map fun line =>
            strip (dropAtStart (.sequence [.star space, bullet, .star space]) line)
          Loops.distinct (cleaned.filter fun value => value ≠ "")

def extractInlineListValues (text field : String) : List String :=
  match listFieldHeaders.get? field with
  | none => []
  | some header =>
      match (search (inlineList header) text).bind fun found => found.group? "1" with
      | none => []
      | some raw => splitListValues (strip raw)

def extractListField (text field : String) : List String :=
  let inlineValues := extractInlineListValues text field
  if inlineValues = [] then extractMultilineListValues text field else inlineValues

/-- Three spellings of a line break are rewritten one after the other. -/
def normalizeUserRequest (userRequest : String) : String :=
  let request := Regex.replace userRequest "`r`n" "\n"
  let request := Regex.replace request "`n" "\n"
  strip (Regex.replace request "\r\n" "\n")

def fieldQuestions : Dict String :=
  ⟨[("scope", "What is the scope boundary (in-scope and out-of-scope)?"),
    ("success_criteria", "How will we measure success for this project?"),
    ("constraints", "What key constraints should we respect (time, budget, policy, stack)?"),
    ("deadline", "Is there a target deadline or milestone date?")], by decide⟩

def missingFields (brief : ProjectBrief) : List String :=
  (if brief.scope.getD "" = "" then ["scope"] else []) ++
  (if brief.successCriteria = [] then ["success_criteria"] else []) ++
  (if brief.constraints = [] then ["constraints"] else []) ++
  if brief.deadline.getD "" = "" then ["deadline"] else []

def buildBrief (userRequest : String) : IntakeResult :=
  let normalizedRequest := normalizeUserRequest userRequest
  let brief : ProjectBrief :=
    { title := extractValue normalizedRequest "title"
      objective := normalizedRequest
      scope := extractValue normalizedRequest "scope"
      constraints := extractListField normalizedRequest "constraints"
      successCriteria := extractListField normalizedRequest "success_criteria"
      deadline := extractValue normalizedRequest "deadline"
      stakeholders := extractListField normalizedRequest "stakeholders"
      assumptions := ["Unspecified fields remain unset until user clarification.",
        "This brief is a draft and not final project approval."]
      rawRequest := normalizedRequest }
  { brief := brief
    missingFields := missingFields brief
    clarifyingQuestions := ((missingFields brief).take 3).filterMap fieldQuestions.get? }

theorem mem_missingFields_iff {brief : ProjectBrief} {field : String} :
    field ∈ missingFields brief ↔
      (brief.scope.getD "" = "" ∧ field = "scope") ∨
      (brief.successCriteria = [] ∧ field = "success_criteria") ∨
      (brief.constraints = [] ∧ field = "constraints") ∨
      (brief.deadline.getD "" = "" ∧ field = "deadline") := by
  simp only [missingFields, List.mem_append, List.mem_ite_nil_right, List.mem_singleton, or_assoc]

/-- Every field that can be missing has its question. -/
theorem fieldQuestions_of_missing {brief : ProjectBrief} {field : String}
    (h : field ∈ missingFields brief) : (fieldQuestions.get? field).isSome := by
  -- the fields that can be missing, as the intake asks for them
  have hfield : field ∈ ["scope", "success_criteria", "constraints", "deadline"] := by
    simp only [List.mem_cons, List.not_mem_nil, or_false]
    rcases mem_missingFields_iff.mp h with ⟨-, rfl⟩ | ⟨-, rfl⟩ | ⟨-, rfl⟩ | ⟨-, rfl⟩ <;> simp
  have hquestions : ∀ name ∈ ["scope", "success_criteria", "constraints", "deadline"],
      (fieldQuestions.get? name).isSome := by decide
  exact hquestions field hfield

/-! ## The brief under review -/

def deriveRequestedScope (intakeResult : IntakeResult) : List String :=
  let scope := intakeResult.brief.scope.getD ""
  if scope = "" then [intakeResult.brief.objective] else [scope]

def deriveOutOfScope (intakeResult : IntakeResult) : List String :=
  if intakeResult.missingFields = [] then []
  else ["Final approval and detailed planning until missing fields are clarified."]

/-- `intake_result_to_current_brief_artifact`, with the scopes, the phase and the proposed action
    that the dry run leaves at their defaults. -/
def intakeResultToCurrentBriefArtifact (intakeResult : IntakeResult) (briefId projectId : String)
    (currentTask : Option String) : CurrentBriefArtifact where
  briefId := briefId
  projectId := projectId
  activePhase := "phase_4"
  currentTask := orElse (currentTask.getD "") intakeResult.brief.objective
  requestedScope := deriveRequestedScope intakeResult
  outOfScope := deriveOutOfScope intakeResult
  proposedAction :=
    { summary := "Route to Progress Control for triage and management review."
      verificationPlan := [] }
  intakeMissingFields := intakeResult.missingFields
  clarifyingQuestions := intakeResult.clarifyingQuestions

example : buildBrief "Title: X\nScope:  docs \nConstraints: a, b; a" =
    { brief :=
        { title := some "X"
          objective := "Title: X\nScope:  docs \nConstraints: a, b; a"
          scope := some "docs"
          constraints := ["a", "b"]
          assumptions := ["Unspecified fields remain unset until user clarification.",
            "This brief is a draft and not final project approval."]
          rawRequest := "Title: X\nScope:  docs \nConstraints: a, b; a" }
      missingFields := ["success_criteria", "deadline"]
      clarifyingQuestions := ["How will we measure success for this project?",
        "Is there a target deadline or milestone date?"] } := by
  decide +kernel

end CodexOrchestrator
