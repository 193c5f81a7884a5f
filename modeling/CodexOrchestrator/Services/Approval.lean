import Mathlib.Data.Finset.Basic
import CodexOrchestrator.Lib.Text
import CodexOrchestrator.Schemas

/-!
# Approval — who may decide about a high-risk action

`app/services/approval.py`: the default `ApprovalPolicy`.  A `set` is a `Finset`.
-/

open PyText

namespace CodexOrchestrator

structure AuthorizationDecision where
  allowed : Bool
  reason : String
  effectiveRoles : Finset ActorRole
  effectiveActorIds : Option (Finset String)
  policySource : String
  strictMode : Bool
  overrideApplied : Bool
  deriving DecidableEq

def approvalRequiredActions : Finset ApprovalActionType :=
  {.externalApiSend, .destructiveChange, .bulkModify, .productionAffectingChange}

def defaultActionRoleRules : ApprovalActionType → Finset ActorRole
  | .externalApiSend => {.owner, .approver, .admin}
  | .destructiveChange => {.approver, .admin}
  | .bulkModify => {.operator, .approver, .admin}
  | .productionAffectingChange => {.admin}

def requiresHumanApproval (actionType : ApprovalActionType) : Bool :=
  actionType ∈ approvalRequiredActions

def normalizeActorIds (actorIds : List String) : Finset String :=
  ((actorIds.map strip).filter fun cleaned => cleaned ≠ "").toFinset

def normalizeActionKey (actionKey : String) : String :=
  lower (strip actionKey)

/-- An exact key wins; otherwise the first key, in insertion order, that normalizes to it. -/
def findActionMappingValue {α : Type} (actionMapping : Dict α) (actionKey : String) : Option α :=
  match actionMapping.get? actionKey with
  | some value => some value
  | none =>
      (actionMapping.entries.find? fun candidate => normalizeActionKey candidate.1 = actionKey).map
        Prod.snd

def findProjectActionRule (projectPolicy : ProjectPolicy) (actionType : ApprovalActionType) :
    Option ProjectPolicyActionRule :=
  findActionMappingValue projectPolicy.actionRules actionType.value

/-- The runtime allow-list of an action; `none` when there is no mapping, or no entry in it. -/
def findRuntimeActorIds (projectAllowedActorIdsByAction : Option (Dict (List String)))
    (actionType : ApprovalActionType) : Option (List String) :=
  match projectAllowedActorIdsByAction with
  | none => none
  | some mapping => findActionMappingValue mapping actionType.value

structure EffectivePolicy where
  effectiveRoles : Finset ActorRole
  effectiveActorIds : Option (Finset String)
  policySource : String
  strictMode : Bool
  overrideApplied : Bool
  deriving DecidableEq

/-- The runtime allow-list replaces the actor ids of the policy found so far. -/
def EffectivePolicy.withRuntimeActorIds (policy : EffectivePolicy) :
    Option (List String) → EffectivePolicy
  | none => policy
  | some rawIds =>
      { policy with
        overrideApplied := true
        effectiveActorIds := some (normalizeActorIds rawIds)
        policySource := "project_runtime_override" }

def defaultEffectivePolicy (actionType : ApprovalActionType) (strictMode : Bool) :
    EffectivePolicy where
  effectiveRoles := defaultActionRoleRules actionType
  effectiveActorIds := none
  policySource := "default_rbac"
  strictMode := strictMode
  overrideApplied := false

def ruleEffectivePolicy (actionType : ApprovalActionType) (strictMode : Bool)
    (rule : ProjectPolicyActionRule) : EffectivePolicy where
  effectiveRoles :=
    if rule.allowedRoles.isEmpty then defaultActionRoleRules actionType
    else rule.allowedRoles.toFinset
  effectiveActorIds :=
    if rule.allowedActorIds.isEmpty then none else some (normalizeActorIds rule.allowedActorIds)
  policySource := "project_policy"
  strictMode := strictMode
  overrideApplied := true

def resolveEffectivePolicy (actionType : ApprovalActionType) (projectPolicy : Option ProjectPolicy)
    (projectAllowedActorIdsByAction : Option (Dict (List String))) : EffectivePolicy :=
  let runtimeActorIds := findRuntimeActorIds projectAllowedActorIdsByAction actionType
  match projectPolicy with
  | none => (defaultEffectivePolicy actionType false).withRuntimeActorIds runtimeActorIds
  | some policy =>
      match findProjectActionRule policy actionType with
      | some rule =>
          (ruleEffectivePolicy actionType policy.strictMode rule).withRuntimeActorIds runtimeActorIds
      | none =>
          if policy.strictMode then
            -- strict mode without a rule returns at once: the runtime allow-list is not read
            ⟨∅, some ∅, "project_policy_strict", policy.strictMode, true⟩
          else
            (defaultEffectivePolicy actionType policy.strictMode).withRuntimeActorIds
              runtimeActorIds

/-- The roles an actor has in a project: its own, and `owner` when the policy names it as owner. -/
def actorRoles (actor : ActorContext) (projectPolicy : Option ProjectPolicy) : Finset ActorRole :=
  let ownerActorId := match projectPolicy with
    | none => ""
    | some policy => strip (policy.projectOwnerActorId.getD "")
  if ownerActorId ≠ "" ∧ ownerActorId = strip actor.actorId then {actor.actorRole, .owner}
  else {actor.actorRole}

def EffectivePolicy.verdict (policy : EffectivePolicy) (allowed : Bool) (reason : String) :
    AuthorizationDecision :=
  { allowed, reason
    effectiveRoles := policy.effectiveRoles
    effectiveActorIds := policy.effectiveActorIds
    policySource := policy.policySource
    strictMode := policy.strictMode
    overrideApplied := policy.overrideApplied }

def authorizeAction (actionType : ApprovalActionType) (actor : ActorContext)
    (projectPolicy : Option ProjectPolicy := none)
    (projectAllowedActorIdsByAction : Option (Dict (List String)) := none) :
    AuthorizationDecision :=
  if actor.actorRole = .viewer then
    { allowed := false
      reason := "viewer role cannot approve actions."
      effectiveRoles := ∅
      effectiveActorIds := none
      policySource := "default_rbac"
      strictMode := false
      overrideApplied := false }
  else
    let policy := resolveEffectivePolicy actionType projectPolicy projectAllowedActorIdsByAction
    let actorId := strip actor.actorId
    if policy.strictMode ∧ policy.effectiveRoles = ∅ then
      policy.verdict false ("strict_mode requires explicit policy for `" ++ actionType.value ++ "`.")
    else if actorRoles actor projectPolicy ∩ policy.effectiveRoles = ∅ then
      policy.verdict false ("role `" ++ actor.actorRole.value ++ "` is not allowed for `" ++
        actionType.value ++ "` under `" ++ policy.policySource ++ "`.")
    else if policy.effectiveActorIds.any (fun ids => actorId ∉ ids) then
      policy.verdict false ("actor `" ++ actorId ++ "` is not in allowed actor IDs.")
    else policy.verdict true "authorized"

def createRequest (approvalUuid : String) (actionType : ApprovalActionType) (reason : String)
    (requestedBy : ActorContext) : ApprovalRequest where
  id := "approval-" ++ approvalUuid
  actionType := actionType
  status := .pending
  reason := reason
  requestedBy := requestedBy.actorId

/-! ## What a grant implies -/

/-- Every action type is gated by default. -/
@[simp] theorem requiresHumanApproval_eq_true (actionType : ApprovalActionType) :
    requiresHumanApproval actionType = true := by
  cases actionType <;> decide

/-- A viewer is never authorized, whatever the policy and the allow-list say. -/
theorem not_viewer_of_allowed {actionType : ApprovalActionType} {actor : ActorContext}
    {policy : Option ProjectPolicy} {allowList : Option (Dict (List String))}
    (h : (authorizeAction actionType actor policy allowList).allowed = true) :
    actor.actorRole ≠ .viewer := by
  intro hv
  rw [authorizeAction, if_pos hv] at h
  cases h

/-- In strict mode nobody is authorized for an action that the policy has no rule for. -/
theorem rule_of_allowed_strict {actionType : ApprovalActionType} {actor : ActorContext}
    {policy : ProjectPolicy} {allowList : Option (Dict (List String))}
    (h : (authorizeAction actionType actor (some policy) allowList).allowed = true)
    (hs : policy.strictMode = true) : (findProjectActionRule policy actionType).isSome := by
  cases hr : findProjectActionRule policy actionType with
  | some rule => rfl
  | none =>
      have hp : resolveEffectivePolicy actionType (some policy) allowList =
          ⟨∅, some ∅, "project_policy_strict", true, true⟩ := by
        simp only [resolveEffectivePolicy, hr, hs, if_true]
      rw [authorizeAction, if_neg (not_viewer_of_allowed h)] at h
      dsimp only at h
      rw [hp, if_pos ⟨rfl, rfl⟩] at h
      cases h

end CodexOrchestrator
