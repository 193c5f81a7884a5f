import CodexOrchestrator.PolicyLaws
import CodexOrchestrator.State.Documents

/-!
# Payloads — what the JSON columns of a project hold

`model_dump` of the brief, of the policy and of an event, and the `model_validate` that reads them
back, with the defaults of the fields; `none` is a `ValidationError`.  A value of another type than
`model_dump` writes is not converted.
-/

namespace CodexOrchestrator

/-! ## Enumerations as text -/

/-- `Enum(text)`: the member with the value. -/
def memberOf {α : Type} (members : List α) (value : α → String) (text : String) : Option α :=
  members.find? fun member => value member = text

def Department.members : List Department := [.research, .design, .build, .review, .trend]

def Department.value : Department → String
  | .research => "research"
  | .design => "design"
  | .build => "build"
  | .review => "review"
  | .trend => "trend"

def ActorRole.members : List ActorRole := [.owner, .operator, .approver, .admin, .viewer]

def ActorType.members : List ActorType := [.human, .service, .system]

def ActorType.value : ActorType → String
  | .human => "human"
  | .service => "service"
  | .system => "system"

def TaskStatus.members : List TaskStatus :=
  [.pending, .inProgress, .waitingApproval, .revisionRequested, .done, .blocked]

def ProjectStatus.members : List ProjectStatus :=
  [.draft, .intakePending, .readyForPlanning, .inProgress, .waitingApproval, .reviewFailed,
    .revisionRequested, .completed]

def ApprovalStatus.members : List ApprovalStatus := [.pending, .approved, .rejected]

def ApprovalStatus.value : ApprovalStatus → String
  | .pending => "pending"
  | .approved => "approved"
  | .rejected => "rejected"

def HistoryEventType.members : List HistoryEventType :=
  [.authenticationSucceeded, .authenticationFailed, .actorResolved, .stateTransition,
    .approvalRequested, .approvalApproved, .approvalRejected, .authorizationGranted,
    .authorizationFailed, .policyOverrideApplied, .revisionRequested, .replanningStarted,
    .resumeTriggered, .taskStatusChanged]

def HistoryEventType.value : HistoryEventType → String
  | .authenticationSucceeded => "authentication_succeeded"
  | .authenticationFailed => "authentication_failed"
  | .actorResolved => "actor_resolved"
  | .stateTransition => "state_transition"
  | .approvalRequested => "approval_requested"
  | .approvalApproved => "approval_approved"
  | .approvalRejected => "approval_rejected"
  | .authorizationGranted => "authorization_granted"
  | .authorizationFailed => "authorization_failed"
  | .policyOverrideApplied => "policy_override_applied"
  | .revisionRequested => "revision_requested"
  | .replanningStarted => "replanning_started"
  | .resumeTriggered => "resume_triggered"
  | .taskStatusChanged => "task_status_changed"

@[simp] theorem Department.memberOf_value (department : Department) :
    memberOf members value department.value = some department := by
  cases department <;> rfl

@[simp] theorem ActorRole.memberOf_value (role : ActorRole) :
    memberOf members value role.value = some role := by
  cases role <;> rfl

@[simp] theorem ActorType.memberOf_value (actorType : ActorType) :
    memberOf members value actorType.value = some actorType := by
  cases actorType <;> rfl

@[simp] theorem TaskStatus.memberOf_value (status : TaskStatus) :
    memberOf members value status.value = some status := by
  cases status <;> rfl

@[simp] theorem ProjectStatus.memberOf_value (status : ProjectStatus) :
    memberOf members value status.value = some status := by
  cases status <;> rfl

@[simp] theorem ApprovalStatus.memberOf_value (status : ApprovalStatus) :
    memberOf members value status.value = some status := by
  cases status <;> rfl

@[simp] theorem HistoryEventType.memberOf_value (eventType : HistoryEventType) :
    memberOf members value eventType.value = some eventType := by
  cases eventType <;> rfl

/-! ## Reading a field -/

namespace Json

/-- The field of an object, read as `read` does. -/
def field {α : Type} (document : Json) (key : String) (read : Json → Option α) : Option α :=
  (document.get? key).bind read

/-- A field with a default. -/
def fieldOr {α : Type} (document : Json) (key : String) (read : Json → Option α) (default : α) :
    Option α :=
  match document.get? key with
  | none => some default
  | some value => read value

/-- A field that holds a member of an enumeration. -/
def member? {α : Type} (members : List α) (value : α → String) (document : Json) : Option α :=
  document.text?.bind (memberOf members value)

theorem field_canon {α : Type} {read : Json → Option α}
    (hread : ∀ document, read document.canon = read document) (document : Json) (key : String) :
    document.canon.field key read = document.field key read := by
  rw [field, field, get?_canon, Option.bind_map]
  exact congrArg _ (funext hread)

theorem fieldOr_canon {α : Type} {read : Json → Option α}
    (hread : ∀ document, read document.canon = read document) (document : Json) (key : String)
    (default : α) : document.canon.fieldOr key read default = document.fieldOr key read default := by
  rw [fieldOr, fieldOr, get?_canon]
  cases document.get? key with
  | none => rfl
  | some value => exact hread value

theorem fieldOr_fields?_canon (document : Json) (key : String) :
    document.canon.fieldOr key fields? [] = (document.fieldOr key fields? []).map canonDict := by
  rw [fieldOr, fieldOr, get?_canon]
  cases document.get? key with
  | none => rfl
  | some value => exact fields?_canon value

theorem member?_canon {α : Type} (members : List α) (value : α → String) (document : Json) :
    document.canon.member? members value = document.member? members value := by
  rw [member?, text?_canon, member?]

theorem texts?_strings (items : List String) : (strings items).texts? = some items := by
  rw [strings, texts?, items?, Option.bind_some]
  induction items with
  | nil => rfl
  | cons item rest ih => rw [List.map_cons, List.mapM_cons, ih]; rfl

theorem optionalText?_ofOption (text : Option String) : (ofOption text).optionalText? = some text := by
  cases text <;> rfl

end Json

open Json

/-! ## The brief -/

def ProjectBrief.modelDump (brief : ProjectBrief) : Json :=
  .obj [("title", .ofOption brief.title), ("objective", .str brief.objective),
    ("scope", .ofOption brief.scope), ("constraints", .strings brief.constraints),
    ("success_criteria", .strings brief.successCriteria), ("deadline", .ofOption brief.deadline),
    ("stakeholders", .strings brief.stakeholders), ("assumptions", .strings brief.assumptions),
    ("raw_request", .str brief.rawRequest)]

def ProjectBrief.modelValidate (payload : Json) : Option ProjectBrief := do
  let title ← payload.fieldOr "title" optionalText? none
  let objective ← payload.field "objective" text?
  let scope ← payload.fieldOr "scope" optionalText? none
  let constraints ← payload.fieldOr "constraints" texts? []
  let successCriteria ← payload.fieldOr "success_criteria" texts? []
  let deadline ← payload.fieldOr "deadline" optionalText? none
  let stakeholders ← payload.fieldOr "stakeholders" texts? []
  let assumptions ← payload.fieldOr "assumptions" texts? []
  let rawRequest ← payload.field "raw_request" text?
  return { title, objective, scope, constraints, successCriteria, deadline, stakeholders,
           assumptions, rawRequest }

theorem ProjectBrief.modelValidate_canon (payload : Json) :
    modelValidate payload.canon = modelValidate payload := by
  unfold modelValidate
  simp only [fieldOr_canon optionalText?_canon, field_canon text?_canon,
    fieldOr_canon texts?_canon]

theorem ProjectBrief.modelValidate_modelDump (brief : ProjectBrief) :
    modelValidate brief.modelDump = some brief := by
  have htitle : brief.modelDump.fieldOr "title" optionalText? none = some brief.title :=
    optionalText?_ofOption _
  have hobjective : brief.modelDump.field "objective" text? = some brief.objective := rfl
  have hscope : brief.modelDump.fieldOr "scope" optionalText? none = some brief.scope :=
    optionalText?_ofOption _
  have hconstraints : brief.modelDump.fieldOr "constraints" texts? [] = some brief.constraints :=
    texts?_strings _
  have hcriteria : brief.modelDump.fieldOr "success_criteria" texts? [] = some brief.successCriteria :=
    texts?_strings _
  have hdeadline : brief.modelDump.fieldOr "deadline" optionalText? none = some brief.deadline :=
    optionalText?_ofOption _
  have hstakeholders : brief.modelDump.fieldOr "stakeholders" texts? [] = some brief.stakeholders :=
    texts?_strings _
  have hassumptions : brief.modelDump.fieldOr "assumptions" texts? [] = some brief.assumptions :=
    texts?_strings _
  have hraw : brief.modelDump.field "raw_request" text? = some brief.rawRequest := rfl
  simp only [modelValidate, htitle, hobjective, hscope, hconstraints, hcriteria, hdeadline,
    hstakeholders, hassumptions, hraw, Option.bind_eq_bind, Option.bind_some, Option.pure_def]

/-! ## The policy -/

def ProjectPolicyActionRule.modelDump (rule : ProjectPolicyActionRule) : Json :=
  .obj [("allowed_roles", .strings (rule.allowedRoles.map ActorRole.value)),
    ("allowed_actor_ids", .strings rule.allowedActorIds)]

def ProjectPolicyActionRule.modelValidate (payload : Json) : Option ProjectPolicyActionRule := do
  let roles ← payload.fieldOr "allowed_roles" texts? []
  let allowedRoles ← roles.mapM (memberOf ActorRole.members ActorRole.value)
  let allowedActorIds ← payload.fieldOr "allowed_actor_ids" texts? []
  return { allowedRoles, allowedActorIds }

theorem ProjectPolicyActionRule.modelValidate_canon (payload : Json) :
    modelValidate payload.canon = modelValidate payload := by
  unfold modelValidate
  simp only [fieldOr_canon texts?_canon]

theorem ProjectPolicyActionRule.modelValidate_modelDump (rule : ProjectPolicyActionRule) :
    modelValidate rule.modelDump = some rule := by
  have hroles : (rule.allowedRoles.map ActorRole.value).mapM
      (memberOf ActorRole.members ActorRole.value) = some rule.allowedRoles := by
    rw [List.mapM_map]
    induction rule.allowedRoles with
    | nil => rfl
    | cons role rest ih =>
        rw [List.mapM_cons, ih, Function.comp_apply, ActorRole.memberOf_value]
        rfl
  have hrolesField : rule.modelDump.fieldOr "allowed_roles" texts? [] =
      some (rule.allowedRoles.map ActorRole.value) := texts?_strings _
  have hidsField : rule.modelDump.fieldOr "allowed_actor_ids" texts? [] = some rule.allowedActorIds :=
    texts?_strings _
  simp only [modelValidate, hrolesField, hidsField, hroles, Option.bind_eq_bind, Option.bind_some,
    Option.pure_def]

/-- The values of a `dict[str, ProjectPolicyActionRule]`, in the order of the payload. -/
def actionRulesOf : JsonDict → Option (List (String × ProjectPolicyActionRule))
  | [] => some []
  | (key, payload) :: rest => do
      let rule ← ProjectPolicyActionRule.modelValidate payload
      let rules ← actionRulesOf rest
      return (key, rule) :: rules

/-- A dict of the entries; an object as Python reads it has no key twice. -/
def Dict.ofEntries? {α : Type} (entries : List (String × α)) : Option (Dict α) :=
  if h : (entries.map Prod.fst).Nodup then some ⟨entries, h⟩ else none

def ProjectPolicy.modelDump (policy : ProjectPolicy) : Json :=
  .obj [("project_owner_actor_id", .ofOption policy.projectOwnerActorId),
    ("strict_mode", .bool policy.strictMode),
    ("action_rules", .obj (policy.actionRules.entries.map fun entry =>
      (entry.1, entry.2.modelDump)))]

def ProjectPolicy.modelValidate (payload : Json) : Option ProjectPolicy := do
  let projectOwnerActorId ← payload.fieldOr "project_owner_actor_id" optionalText? none
  let strictMode ← payload.fieldOr "strict_mode" flag? false
  let fields ← payload.fieldOr "action_rules" fields? []
  let actionRules ← (actionRulesOf fields).bind Dict.ofEntries?
  return { projectOwnerActorId, strictMode, actionRules }

theorem actionRulesOf_modelDump (entries : List (String × ProjectPolicyActionRule)) :
    actionRulesOf (entries.map fun entry => (entry.1, entry.2.modelDump)) = some entries := by
  induction entries with
  | nil => rfl
  | cons entry rest ih =>
      rw [List.map_cons, actionRulesOf, ProjectPolicyActionRule.modelValidate_modelDump, ih]
      rfl

theorem Dict.ofEntries?_entries {α : Type} (d : Dict α) : Dict.ofEntries? d.entries = some d := by
  rw [Dict.ofEntries?, dif_pos d.nodup]

theorem ProjectPolicy.modelValidate_modelDump (policy : ProjectPolicy) :
    modelValidate policy.modelDump = some policy := by
  have howner : policy.modelDump.fieldOr "project_owner_actor_id" optionalText? none =
      some policy.projectOwnerActorId := optionalText?_ofOption _
  have hstrict : policy.modelDump.fieldOr "strict_mode" flag? false = some policy.strictMode := rfl
  have hrules : policy.modelDump.fieldOr "action_rules" fields? [] =
      some (policy.actionRules.entries.map fun entry => (entry.1, entry.2.modelDump)) := rfl
  simp only [modelValidate, howner, hstrict, hrules, actionRulesOf_modelDump,
    Dict.ofEntries?_entries, Option.bind_eq_bind, Option.bind_some, Option.pure_def]

theorem actionRulesOf_orderedInsert (key : String) (payload : Json) (fields : JsonDict) :
    actionRulesOf (fields.orderedInsert (fun a b => KeyLe a.1 b.1) (key, payload)) =
      (ProjectPolicyActionRule.modelValidate payload).bind fun rule =>
        (actionRulesOf fields).map fun rules =>
          rules.orderedInsert (fun a b => KeyLe a.1 b.1) (key, rule) := by
  induction fields with
  | nil => cases h : ProjectPolicyActionRule.modelValidate payload <;> simp [actionRulesOf, h]
  | cons other rest ih =>
      obtain ⟨name, document⟩ := other
      rw [List.orderedInsert_cons]
      split
      · rename_i hle
        cases h : ProjectPolicyActionRule.modelValidate payload <;>
        cases h' : ProjectPolicyActionRule.modelValidate document <;>
        cases h'' : actionRulesOf rest <;>
          simp [actionRulesOf, h, h', h'', List.orderedInsert_cons, hle]
      · rename_i hgt
        rw [actionRulesOf, ih]
        cases h : ProjectPolicyActionRule.modelValidate payload <;>
        cases h' : ProjectPolicyActionRule.modelValidate document <;>
        cases h'' : actionRulesOf rest <;>
          simp [actionRulesOf, h', h'', List.orderedInsert_cons, hgt]

theorem actionRulesOf_canonDict (fields : JsonDict) :
    actionRulesOf (canonDict fields) = (actionRulesOf fields).map sortFields := by
  induction fields with
  | nil => rfl
  | cons entry rest ih =>
      obtain ⟨key, payload⟩ := entry
      have hsort : canonDict ((key, payload) :: rest) =
          (canonDict rest).orderedInsert (fun a b => KeyLe a.1 b.1) (key, payload.canon) := by
        rw [canonDict, canonFields, sortFields, List.insertionSort_cons]
        rfl
      rw [hsort, actionRulesOf_orderedInsert, ih, ProjectPolicyActionRule.modelValidate_canon,
        actionRulesOf]
      cases ProjectPolicyActionRule.modelValidate payload with
      | none => rfl
      | some rule => cases actionRulesOf rest <;> rfl

/-- A policy read from a document with other key orders differs at most in the order of its rules. -/
theorem ProjectPolicy.modelValidate_canon (payload : Json) :
    Option.Rel Same (modelValidate payload) (modelValidate payload.canon) := by
  unfold modelValidate
  rw [fieldOr_canon optionalText?_canon, fieldOr_canon flag?_canon, fieldOr_fields?_canon]
  cases payload.fieldOr "project_owner_actor_id" optionalText? none with
  | none => exact .none
  | some owner =>
      cases payload.fieldOr "strict_mode" flag? false with
      | none => exact .none
      | some strict =>
          cases payload.fieldOr "action_rules" fields? [] with
          | none => exact .none
          | some fields =>
              simp only [Option.map_some, Option.bind_eq_bind, Option.bind_some,
                actionRulesOf_canonDict]
              cases actionRulesOf fields with
              | none => exact .none
              | some entries =>
                  have hperm := sortFields_perm entries
                  have hnodup : ((sortFields entries).map Prod.fst).Nodup ↔
                      (entries.map Prod.fst).Nodup := (hperm.map Prod.fst).nodup_iff
                  rw [Option.map_some, Option.bind_some, Option.bind_some, Dict.ofEntries?,
                    Dict.ofEntries?]
                  by_cases h : (entries.map Prod.fst).Nodup
                  · rw [dif_pos h, dif_pos (hnodup.mpr h)]
                    exact .some ⟨rfl, rfl, Dict.same_of_perm hperm.symm⟩
                  · rw [dif_neg h, dif_neg (mt hnodup.mp h)]
                    exact .none

theorem ProjectPolicy.Same.symm {policy policy' : ProjectPolicy} (h : policy.Same policy') :
    policy'.Same policy :=
  ⟨h.owner.symm, h.strict.symm, h.rules.symm⟩

theorem ProjectPolicy.Same.trans {policy policy' policy'' : ProjectPolicy}
    (h : policy.Same policy') (h' : policy'.Same policy'') : policy.Same policy'' :=
  ⟨h.owner.trans h'.owner, h.strict.trans h'.strict, h.rules.trans h'.rules⟩

/-- The policy read back from a stored document. -/
theorem ProjectPolicy.modelValidate_of_same {policy : ProjectPolicy} {payload : Json}
    (h : payload.Same policy.modelDump) :
    ∃ policy', modelValidate payload = some policy' ∧ policy.Same policy' := by
  have hdump := modelValidate_canon policy.modelDump
  have hpayload := modelValidate_canon payload
  rw [modelValidate_modelDump, ← h] at hdump
  -- both agree with the policy read from the sorted document
  cases hcanon : modelValidate payload.canon with
  | none =>
      rw [hcanon] at hdump
      cases hdump
  | some sorted =>
      rw [hcanon] at hdump hpayload
      cases hread : modelValidate payload with
      | none =>
          rw [hread] at hpayload
          cases hpayload
      | some policy' =>
          rw [hread] at hpayload
          cases hdump with
          | some hdump =>
              cases hpayload with
              | some hpayload => exact ⟨policy', rfl, hdump.trans hpayload.symm⟩

theorem ProjectBrief.modelValidate_of_same {brief : ProjectBrief} {payload : Json}
    (h : payload.Same brief.modelDump) : modelValidate payload = some brief :=
  (h.of_reader modelValidate_canon).trans brief.modelValidate_modelDump

/-! ## The event log -/

def HistoryEvent.modelDump (event : HistoryEvent) : Json :=
  .obj [("event_type", .str event.eventType.value), ("actor", .str event.actor),
    ("actor_role", .str event.actorRole.value), ("actor_type", .str event.actorType.value),
    ("timestamp", .str event.timestamp), ("reason", .str event.reason),
    ("metadata", .obj event.metadata)]

def HistoryEvent.modelValidate (payload : Json) : Option HistoryEvent := do
  let eventType ← payload.field "event_type"
    (member? HistoryEventType.members HistoryEventType.value)
  let actor ← payload.fieldOr "actor" Json.text? "system"
  let actorRole ← payload.fieldOr "actor_role" (member? ActorRole.members ActorRole.value) .admin
  let actorType ← payload.fieldOr "actor_type" (member? ActorType.members ActorType.value) .system
  -- the default is the clock; every event that was saved has its time
  let timestamp ← payload.field "timestamp" Json.text?
  let reason ← payload.fieldOr "reason" Json.text? ""
  let metadata ← payload.fieldOr "metadata" fields? []
  return { eventType, actor, actorRole, actorType, timestamp, reason, metadata }

/-- The event with the keys of its metadata sorted. -/
def HistoryEvent.canon (event : HistoryEvent) : HistoryEvent :=
  { event with metadata := canonDict event.metadata }

theorem HistoryEvent.modelValidate_modelDump (event : HistoryEvent) :
    modelValidate event.modelDump = some event := by
  have htype : event.modelDump.field "event_type"
      (member? HistoryEventType.members HistoryEventType.value) = some event.eventType :=
    HistoryEventType.memberOf_value _
  have hactor : event.modelDump.fieldOr "actor" Json.text? "system" = some event.actor := rfl
  have hrole : event.modelDump.fieldOr "actor_role"
      (member? ActorRole.members ActorRole.value) .admin = some event.actorRole :=
    ActorRole.memberOf_value _
  have hactorType : event.modelDump.fieldOr "actor_type"
      (member? ActorType.members ActorType.value) .system = some event.actorType :=
    ActorType.memberOf_value _
  have htimestamp : event.modelDump.field "timestamp" Json.text? = some event.timestamp := rfl
  have hreason : event.modelDump.fieldOr "reason" Json.text? "" = some event.reason := rfl
  have hmetadata : event.modelDump.fieldOr "metadata" fields? [] = some event.metadata := rfl
  simp only [modelValidate, htype, hactor, hrole, hactorType, htimestamp, hreason, hmetadata,
    Option.bind_eq_bind, Option.bind_some, Option.pure_def]

theorem HistoryEvent.modelValidate_canon (payload : Json) :
    modelValidate payload.canon = (modelValidate payload).map canon := by
  unfold modelValidate
  rw [field_canon (member?_canon _ _), fieldOr_canon text?_canon,
    fieldOr_canon (member?_canon _ _), fieldOr_canon (member?_canon _ _), field_canon text?_canon,
    fieldOr_canon text?_canon, fieldOr_fields?_canon]
  simp only [Option.bind_eq_bind, Option.pure_def, Option.map_bind, Option.bind_map,
    Function.comp_def, Option.map_some]
  rfl

/-- The document in `project_history.events`. -/
def historyPayload (history : List String) (events : List HistoryEvent) : Json :=
  .obj [("history", .strings history), ("events", .arr (events.map HistoryEvent.modelDump))]

/-- The history and the events of the document; a list is the older form of the column. -/
def readHistory : Json → Option (List String × List HistoryEvent)
  | .obj fields => do
      let history ← (((Json.obj fields).get? "history").getD (.arr [])).orDefault (.arr []) |>.texts?
      let rawEvents ← (((Json.obj fields).get? "events").getD (.arr [])).orDefault (.arr [])
        |>.items?
      let events ← rawEvents.mapM HistoryEvent.modelValidate
      return (history, events)
  | .arr (.obj first :: rest) => do
      let events ← (.obj first :: rest).mapM HistoryEvent.modelValidate
      return ([], events)
  | .arr items => do
      let history ← items.mapM text?
      return (history, [])
  | _ => return ([], [])

/-- A document read as `document or []`, where a list of texts was stored. -/
theorem texts?_orDefault_of_same {document : Json} {texts : List String}
    (h : document.Same (.strings texts)) : (document.orDefault (.arr [])).texts? = some texts := by
  have htexts := h.of_reader texts?_canon
  have htruthy := h.of_reader truthy_canon
  rw [texts?_strings] at htexts
  unfold Json.orDefault
  split
  · exact htexts
  · rename_i hfalsy
    -- only the empty list of texts is falsy
    rw [htruthy] at hfalsy
    cases texts with
    | nil => rfl
    | cons text rest => exact absurd rfl hfalsy

theorem mapM_modelValidate_of_same {items : List Json} {events : List HistoryEvent}
    (h : canonItems items = canonItems (events.map HistoryEvent.modelDump)) :
    ∃ events', items.mapM HistoryEvent.modelValidate = some events' ∧
      events'.map HistoryEvent.canon = events.map HistoryEvent.canon := by
  induction events generalizing items with
  | nil =>
      cases items with
      | nil => exact ⟨[], rfl, rfl⟩
      | cons item rest => cases h
  | cons event events ih =>
      cases items with
      | nil => cases h
      | cons item rest =>
          rw [List.map_cons, canonItems, canonItems] at h
          obtain ⟨hitem, hrest⟩ := List.cons.inj h
          have hread := HistoryEvent.modelValidate_canon item
          rw [hitem, HistoryEvent.modelValidate_canon, HistoryEvent.modelValidate_modelDump,
            Option.map_some] at hread
          obtain ⟨event', hevent', hcanon⟩ := Option.map_eq_some_iff.mp hread.symm
          obtain ⟨events', hevents', hcanons⟩ := ih hrest
          refine ⟨event' :: events', ?_, ?_⟩
          · rw [List.mapM_cons, hevent', hevents']
            rfl
          · rw [List.map_cons, List.map_cons, hcanon, hcanons]

theorem get?_of_same {document document' value : Json} {key : String} (h : document.Same document')
    (hget : document'.get? key = some value) :
    ∃ value', document.get? key = some value' ∧ value'.Same value := by
  have hcanon := get?_canon document key
  rw [h, get?_canon, hget, Option.map_some] at hcanon
  exact Option.map_eq_some_iff.mp hcanon.symm

/-- The history is read back as it was, and the events up to the order of their metadata. -/
theorem readHistory_of_same {history : List String} {events : List HistoryEvent} {payload : Json}
    (h : payload.Same (historyPayload history events)) :
    ∃ events', readHistory payload = some (history, events') ∧
      events'.map HistoryEvent.canon = events.map HistoryEvent.canon := by
  obtain ⟨historyDocument, hhistory, hsameHistory⟩ :=
    get?_of_same h (rfl : (historyPayload history events).get? "history" = some (.strings history))
  obtain ⟨eventsDocument, hevents, hsameEvents⟩ := get?_of_same h
    (rfl : (historyPayload history events).get? "events" =
      some (.arr (events.map HistoryEvent.modelDump)))
  have hitems : ∃ items, (eventsDocument.orDefault (.arr [])).items? = some items ∧
      canonItems items = canonItems (events.map HistoryEvent.modelDump) := by
    cases eventsDocument with
    | arr items =>
        have hcanon : canonItems items = canonItems (events.map HistoryEvent.modelDump) :=
          Json.arr.inj hsameEvents
        unfold Json.orDefault
        split
        · exact ⟨items, rfl, hcanon⟩
        · rename_i hfalsy
          cases items with
          | nil => exact ⟨[], rfl, hcanon⟩
          | cons item rest => exact absurd rfl hfalsy
    | _ => cases hsameEvents
  obtain ⟨items, hitems, hcanon⟩ := hitems
  obtain ⟨events', hread, hsame⟩ := mapM_modelValidate_of_same hcanon
  refine ⟨events', ?_, hsame⟩
  cases payload with
  | obj fields =>
      simp only [readHistory, hhistory, hevents, Option.getD_some,
        texts?_orDefault_of_same hsameHistory, hitems, hread, Option.bind_eq_bind, Option.bind_some,
        Option.pure_def]
  | _ => cases hhistory

end CodexOrchestrator
