import CodexOrchestrator.Services.Approval

/-!
# PolicyLaws — what the entries of a policy and of a runtime allow-list decide

An authorization reads two mappings by action: the rules of the project policy and the runtime
allow-list.  Which actors it lets through depends on the two entries it finds, and on nothing else
of the mappings.  Two laws one would expect of that fail: a runtime list can let an actor through
whom the rule keeps out, and with several spellings of one action the order of the entries counts.
-/

open PyText

namespace CodexOrchestrator

/-- The policy that results from the rule and the runtime allow-list found for an action. -/
def chosenPolicy (actionType : ApprovalActionType) (projectPolicy : Option ProjectPolicy)
    (rule : Option ProjectPolicyActionRule) (runtimeActorIds : Option (List String)) :
    EffectivePolicy :=
  match projectPolicy, rule with
  | none, _ => (defaultEffectivePolicy actionType false).withRuntimeActorIds runtimeActorIds
  | some policy, some rule =>
      (ruleEffectivePolicy actionType policy.strictMode rule).withRuntimeActorIds runtimeActorIds
  | some policy, none =>
      if policy.strictMode then ⟨∅, some ∅, "project_policy_strict", policy.strictMode, true⟩
      else (defaultEffectivePolicy actionType policy.strictMode).withRuntimeActorIds runtimeActorIds

/-- The rule that a policy, if there is one, has for an action. -/
def ruleFor (projectPolicy : Option ProjectPolicy) (actionType : ApprovalActionType) :
    Option ProjectPolicyActionRule :=
  projectPolicy.bind fun policy => findProjectActionRule policy actionType

/-- The effective policy lets the actor through: the actor has a role that it admits, and the list
    of actor ids, if it has one, names the actor. -/
def EffectivePolicy.Admits (policy : EffectivePolicy) (roles : Finset ActorRole)
    (actorId : String) : Prop :=
  roles ∩ policy.effectiveRoles ≠ ∅ ∧ ∀ ids, policy.effectiveActorIds = some ids → actorId ∈ ids

/-- The list of an entry names the actor, white space around the ids aside. -/
def NamesActor (actor : ActorContext) (rawIds : List String) : Prop :=
  strip actor.actorId ∈ normalizeActorIds rawIds

theorem resolveEffectivePolicy_eq (actionType : ApprovalActionType)
    (projectPolicy : Option ProjectPolicy) (allowList : Option (Dict (List String))) :
    resolveEffectivePolicy actionType projectPolicy allowList =
      chosenPolicy actionType projectPolicy (ruleFor projectPolicy actionType)
        (findRuntimeActorIds allowList actionType) := by
  cases projectPolicy with
  | none => rfl
  | some policy =>
      simp only [resolveEffectivePolicy, chosenPolicy, ruleFor, Option.bind_some]
      cases findProjectActionRule policy actionType <;> rfl

theorem chosenPolicy_strict {actionType : ApprovalActionType} {policy : ProjectPolicy}
    (h : policy.strictMode = true) (runtimeActorIds : Option (List String)) :
    chosenPolicy actionType (some policy) none runtimeActorIds =
      ⟨∅, some ∅, "project_policy_strict", true, true⟩ := by
  simp only [chosenPolicy, h, if_true]

theorem chosenPolicy_default {actionType : ApprovalActionType} {policy : ProjectPolicy}
    (h : ¬ policy.strictMode = true) (runtimeActorIds : Option (List String)) :
    chosenPolicy actionType (some policy) none runtimeActorIds =
      (defaultEffectivePolicy actionType policy.strictMode).withRuntimeActorIds
        runtimeActorIds := by
  simp only [chosenPolicy, if_neg h]

/-- An actor is authorized when it is no viewer and the effective policy lets it through. -/
theorem allowed_iff {actionType : ApprovalActionType} {actor : ActorContext}
    {projectPolicy : Option ProjectPolicy} {allowList : Option (Dict (List String))} :
    (authorizeAction actionType actor projectPolicy allowList).allowed = true ↔
      actor.actorRole ≠ .viewer ∧
      (resolveEffectivePolicy actionType projectPolicy allowList).Admits
        (actorRoles actor projectPolicy) (strip actor.actorId) := by
  unfold authorizeAction EffectivePolicy.Admits
  split
  · simp_all
  · rename_i hviewer
    generalize resolveEffectivePolicy actionType projectPolicy allowList = policy
    dsimp only
    split
    · -- strict mode without roles: no role of the actor is admitted either
      rename_i hstrict
      simp [EffectivePolicy.verdict, hstrict.2]
    · split
      · rename_i hroles
        simp [EffectivePolicy.verdict, hroles]
      · rename_i hroles
        cases hids : policy.effectiveActorIds with
        | none => simp [EffectivePolicy.verdict, hviewer, hroles]
        | some ids =>
            by_cases hid : strip actor.actorId ∈ ids
            · simp [EffectivePolicy.verdict, hviewer, hroles, hid]
            · simp [EffectivePolicy.verdict, hid]

@[simp] theorem findRuntimeActorIds_none (actionType : ApprovalActionType) :
    findRuntimeActorIds none actionType = none := rfl

@[simp] theorem findRuntimeActorIds_some (mapping : Dict (List String))
    (actionType : ApprovalActionType) :
    findRuntimeActorIds (some mapping) actionType =
      findActionMappingValue mapping actionType.value := rfl

@[simp] theorem EffectivePolicy.withRuntimeActorIds_none (policy : EffectivePolicy) :
    policy.withRuntimeActorIds none = policy := rfl

/-- With a runtime list, the roles are those of the policy, and the list alone names the actors. -/
theorem EffectivePolicy.admits_withRuntimeActorIds {policy : EffectivePolicy}
    {roles : Finset ActorRole} {actorId : String} {rawIds : List String} :
    (policy.withRuntimeActorIds (some rawIds)).Admits roles actorId ↔
      roles ∩ policy.effectiveRoles ≠ ∅ ∧ actorId ∈ normalizeActorIds rawIds := by
  simp [EffectivePolicy.Admits, EffectivePolicy.withRuntimeActorIds]

theorem defaultEffectivePolicy_admits {actionType : ApprovalActionType} {strictMode : Bool}
    {roles : Finset ActorRole} {actorId : String} :
    (defaultEffectivePolicy actionType strictMode).Admits roles actorId ↔
      roles ∩ defaultActionRoleRules actionType ≠ ∅ := by
  simp [EffectivePolicy.Admits, defaultEffectivePolicy]

theorem ruleEffectivePolicy_admits {actionType : ApprovalActionType} {strictMode : Bool}
    {rule : ProjectPolicyActionRule} {roles : Finset ActorRole} {actorId : String} :
    (ruleEffectivePolicy actionType strictMode rule).Admits roles actorId ↔
      roles ∩ (ruleEffectivePolicy actionType strictMode rule).effectiveRoles ≠ ∅ ∧
      (rule.allowedActorIds ≠ [] → actorId ∈ normalizeActorIds rule.allowedActorIds) := by
  unfold EffectivePolicy.Admits
  apply and_congr_right
  intro _
  dsimp only [ruleEffectivePolicy]
  cases hids : rule.allowedActorIds <;> simp

/-! ## The runtime allow-list -/

/-- The runtime list replaces the actor ids of the rule where they keep the actor out: the rule has
    a list that does not name the actor, the mapping has one for the action that does, and the
    actor has a role that the rule admits. -/
inductive ReplacesActorIds (actionType : ApprovalActionType) (actor : ActorContext)
    (projectPolicy : Option ProjectPolicy) (mapping : Dict (List String)) : Prop where
  | intro {policy : ProjectPolicy} {rule : ProjectPolicyActionRule} {rawIds : List String}
      (policy_eq : projectPolicy = some policy)
      (rule_eq : findProjectActionRule policy actionType = some rule)
      (restricts : rule.allowedActorIds ≠ []) (unnamed : ¬ NamesActor actor rule.allowedActorIds)
      (found : findActionMappingValue mapping actionType.value = some rawIds)
      (named : NamesActor actor rawIds) (not_viewer : actor.actorRole ≠ .viewer)
      (role : actorRoles actor projectPolicy ∩
        (ruleEffectivePolicy actionType policy.strictMode rule).effectiveRoles ≠ ∅)

/-- A runtime allow-list lets nobody in whom the policy keeps out, except where it replaces the actor
    ids of the rule. -/
theorem authorizeAction_runtime_restricts_iff (actionType : ApprovalActionType)
    (actor : ActorContext) (projectPolicy : Option ProjectPolicy) (mapping : Dict (List String)) :
    ((authorizeAction actionType actor projectPolicy (some mapping)).allowed = true →
      (authorizeAction actionType actor projectPolicy none).allowed = true) ↔
      ¬ ReplacesActorIds actionType actor projectPolicy mapping := by
  rw [allowed_iff, allowed_iff, resolveEffectivePolicy_eq, resolveEffectivePolicy_eq,
    findRuntimeActorIds_some, findRuntimeActorIds_none]
  constructor
  · rintro himp ⟨rfl, hrule, hlisted, hunnamed, hfound, hnamed, hviewer, hrole⟩
    have hruleFor : ruleFor (some _) actionType = some _ := hrule
    rw [hruleFor, hfound] at himp
    -- the runtime list lets the actor in, whom the rule of the project leaves out
    have hwith := EffectivePolicy.admits_withRuntimeActorIds.mpr ⟨hrole, hnamed⟩
    have hwithout := (himp ⟨hviewer, hwith⟩).2
    exact hunnamed ((ruleEffectivePolicy_admits.mp hwithout).2 hlisted)
  · rintro hnot ⟨hviewer, hwith⟩
    refine ⟨hviewer, ?_⟩
    cases hfound : findActionMappingValue mapping actionType.value with
    -- without an entry for the action the call is the one without a list
    | none =>
        rw [hfound] at hwith
        exact hwith
    | some rawIds =>
        rw [hfound] at hwith
        cases projectPolicy with
        | none =>
            exact defaultEffectivePolicy_admits.mpr
              (EffectivePolicy.admits_withRuntimeActorIds.mp hwith).1
        | some policy =>
            cases hrule : ruleFor (some policy) actionType with
            | none =>
                rw [hrule] at hwith
                by_cases hstrict : policy.strictMode = true
                · -- strict mode without a rule does not read the runtime list
                  rwa [chosenPolicy_strict hstrict] at hwith ⊢
                · rw [chosenPolicy_default hstrict] at hwith ⊢
                  exact defaultEffectivePolicy_admits.mpr
                    (EffectivePolicy.admits_withRuntimeActorIds.mp hwith).1
            | some rule =>
                rw [hrule] at hwith
                obtain ⟨hrole, hnamed⟩ := EffectivePolicy.admits_withRuntimeActorIds.mp hwith
                -- the rule lists other actors: this is the case that the right side excludes
                refine ruleEffectivePolicy_admits.mpr ⟨hrole, fun hlisted => ?_⟩
                by_contra hunnamed
                exact hnot ⟨rfl, hrule, hlisted, hunnamed, hfound, hnamed, hviewer, hrole⟩

/-- The project lets only `a` approve the external send; a runtime list with `b` lets `b` approve
    it. -/
theorem authorizeAction_runtime_widens :
    ∃ (actionType : ApprovalActionType) (actor : ActorContext)
      (projectPolicy : Option ProjectPolicy) (mapping : Dict (List String)),
      (authorizeAction actionType actor projectPolicy (some mapping)).allowed = true ∧
      ¬ (authorizeAction actionType actor projectPolicy none).allowed = true := by
  refine ⟨.externalApiSend, { actorId := "b", actorRole := .approver },
    some { actionRules := ⟨[("external_api_send", { allowedActorIds := ["a"] })], by decide⟩ },
    ⟨[("external_api_send", ["b"])], by decide⟩, ?_, ?_⟩ <;> decide

/-! ## The order of the entries -/

/-- What the lookup of an action key can find, for some order of the entries: the entry of the exact
    key, or any entry whose key normalizes to it when there is no such entry. -/
inductive Competes {α : Type} (mapping : Dict α) (actionKey : String) : Option α → Prop where
  | exact {value : α} (found : mapping.get? actionKey = some value) :
      Competes mapping actionKey (some value)
  | spelling {key : String} {value : α} (unset : mapping.get? actionKey = none)
      (entry : mapping.get? key = some value) (normalizes : normalizeActionKey key = actionKey) :
      Competes mapping actionKey (some value)
  | absent (unset : mapping.get? actionKey = none)
      (unspelled : ∀ key, normalizeActionKey key = actionKey → mapping.get? key = none) :
      Competes mapping actionKey none

section Lookup

variable {α : Type} {mapping mapping' : Dict α} {actionKey : String} {found : Option α}

/-- Which entries compete does not depend on the order. -/
theorem Competes.of_same (h : mapping.Same mapping') (hc : Competes mapping actionKey found) :
    Competes mapping' actionKey found := by
  cases hc with
  | exact hfound => exact .exact ((h actionKey).symm.trans hfound)
  | spelling hunset hentry hkey =>
      exact .spelling ((h actionKey).symm.trans hunset) ((h _).symm.trans hentry) hkey
  | absent hunset hnone =>
      exact .absent ((h actionKey).symm.trans hunset)
        fun key hkey => (h key).symm.trans (hnone key hkey)

theorem competes_findActionMappingValue (mapping : Dict α) (actionKey : String) :
    Competes mapping actionKey (findActionMappingValue mapping actionKey) := by
  unfold findActionMappingValue
  cases hexact : mapping.get? actionKey with
  | some value => exact .exact hexact
  | none =>
      dsimp only
      cases hfind : mapping.entries.find? fun candidate =>
          normalizeActionKey candidate.1 = actionKey with
      | some entry =>
          have hkey := List.find?_some hfind
          have hentry := (mapping.get?_eq_some_iff_mem _ _).mpr (List.mem_of_find?_eq_some hfind)
          exact .spelling hexact hentry (of_decide_eq_true hkey)
      | none =>
          refine .absent hexact fun key hkey => ?_
          rw [Dict.get?_eq_none_iff]
          intro hmem
          obtain ⟨entry, hentry, rfl⟩ := List.mem_map.mp hmem
          exact List.find?_eq_none.mp hfind entry hentry (decide_eq_true hkey)

/-- Every entry that competes comes first in some order of the entries. -/
theorem Competes.exists_order (hc : Competes mapping actionKey found) :
    ∃ mapping' : Dict α, mapping.Same mapping' ∧
      findActionMappingValue mapping' actionKey = found := by
  cases hc with
  | exact hfound =>
      exact ⟨mapping, Dict.Same.refl _, by rw [findActionMappingValue, hfound]⟩
  | @spelling key value hunset hentry hkey =>
      -- put the spelling first; the lookup falls through to it
      obtain ⟨mapping', hsame, rest, hrest⟩ :=
        Dict.exists_same_cons ((mapping.get?_eq_some_iff_mem _ _).mp hentry)
      refine ⟨mapping', hsame, ?_⟩
      rw [findActionMappingValue, ← hsame, hunset, hrest]
      simp [hkey]
  | absent hunset hnone =>
      refine ⟨mapping, Dict.Same.refl _, ?_⟩
      have hfind : mapping.entries.find? (fun candidate =>
          normalizeActionKey candidate.1 = actionKey) = none := by
        rw [List.find?_eq_none]
        intro entry hentry hkey
        have habsent := hnone entry.1 (of_decide_eq_true hkey)
        rw [(mapping.get?_eq_some_iff_mem entry.1 entry.2).mpr hentry] at habsent
        cases habsent
      rw [findActionMappingValue, hunset, hfind]
      rfl

/-- No two keys of the mapping are spellings of one action. -/
def Unambiguous (mapping : Dict α) : Prop :=
  ∀ key key', mapping.get? key ≠ none → mapping.get? key' ≠ none →
    normalizeActionKey key = normalizeActionKey key' → key = key'

theorem Competes.unique {found' : Option α} (hu : Unambiguous mapping)
    (hc : Competes mapping actionKey found) (hc' : Competes mapping actionKey found') :
    found = found' := by
  cases hc with
  | exact hfound =>
      cases hc' with
      | exact hfound' => exact hfound.symm.trans hfound'
      | spelling hunset' => simp [hfound] at hunset'
      | absent hunset' => simp [hfound] at hunset'
  | spelling hunset hentry hkey =>
      cases hc' with
      | exact hfound' => simp [hunset] at hfound'
      | spelling _ hentry' hkey' =>
          -- two spellings of one action are one key
          have heq := hu _ _ (by simp [hentry]) (by simp [hentry']) (hkey.trans hkey'.symm)
          subst heq
          exact hentry.symm.trans hentry'
      | absent _ hnone' => simp [hnone' _ hkey] at hentry
  | absent hunset hnone =>
      cases hc' with
      | exact hfound' => simp [hunset] at hfound'
      | spelling _ hentry' hkey' => simp [hnone _ hkey'] at hentry'
      | absent => rfl

/-- With one spelling for each action, the lookup depends on the content alone. -/
theorem findActionMappingValue_of_same (hu : Unambiguous mapping) (h : mapping.Same mapping')
    (actionKey : String) :
    findActionMappingValue mapping actionKey = findActionMappingValue mapping' actionKey :=
  (competes_findActionMappingValue mapping actionKey).unique hu
    ((competes_findActionMappingValue mapping' actionKey).of_same h.symm)

end Lookup

/-- Two policies that differ at most in the order of their rules. -/
structure ProjectPolicy.Same (policy policy' : ProjectPolicy) : Prop where
  owner : policy.projectOwnerActorId = policy'.projectOwnerActorId
  strict : policy.strictMode = policy'.strictMode
  rules : policy.actionRules.Same policy'.actionRules

/-- The rules that compete for an action; without a policy there is none. -/
def RuleCompetes (projectPolicy : Option ProjectPolicy) (actionType : ApprovalActionType)
    (rule : Option ProjectPolicyActionRule) : Prop :=
  match projectPolicy with
  | none => rule = none
  | some policy => Competes policy.actionRules actionType.value rule

/-- The runtime lists that compete for an action. -/
def ListCompetes (allowList : Option (Dict (List String))) (actionType : ApprovalActionType)
    (runtimeActorIds : Option (List String)) : Prop :=
  match allowList with
  | none => runtimeActorIds = none
  | some mapping => Competes mapping actionType.value runtimeActorIds

/-- The roles that may decide about an action: those that the rule lists, or the default ones.
    Without a rule, strict mode admits no role. -/
def rolesFor (actionType : ApprovalActionType) (projectPolicy : Option ProjectPolicy) :
    Option ProjectPolicyActionRule → Finset ActorRole
  | some rule =>
      if rule.allowedRoles.isEmpty then defaultActionRoleRules actionType
      else rule.allowedRoles.toFinset
  | none =>
      if projectPolicy.any ProjectPolicy.strictMode then ∅ else defaultActionRoleRules actionType

/-- The list of actor ids that counts, if there is one: the runtime list, or else that of the
    rule. -/
def actorIdsFor : Option ProjectPolicyActionRule → Option (List String) → Option (List String)
  | _, some rawIds => some rawIds
  | some rule, none => if rule.allowedActorIds.isEmpty then none else some rule.allowedActorIds
  | none, none => none

/-- With this rule and this runtime list the actor may decide: it is no viewer, has a role that may,
    and is named where there is a list. -/
structure LetsIn (actionType : ApprovalActionType) (actor : ActorContext)
    (projectPolicy : Option ProjectPolicy) (rule : Option ProjectPolicyActionRule)
    (runtimeActorIds : Option (List String)) : Prop where
  not_viewer : actor.actorRole ≠ .viewer
  role : actorRoles actor projectPolicy ∩ rolesFor actionType projectPolicy rule ≠ ∅
  named : ∀ rawIds, actorIdsFor rule runtimeActorIds = some rawIds → NamesActor actor rawIds

/-- The entries that compete for the action all let the actor in, or all keep it out. -/
def Agree (actionType : ApprovalActionType) (actor : ActorContext)
    (projectPolicy : Option ProjectPolicy) (allowList : Option (Dict (List String))) : Prop :=
  ∀ rule rule' runtimeActorIds runtimeActorIds',
    RuleCompetes projectPolicy actionType rule → RuleCompetes projectPolicy actionType rule' →
    ListCompetes allowList actionType runtimeActorIds →
    ListCompetes allowList actionType runtimeActorIds' →
    LetsIn actionType actor projectPolicy rule runtimeActorIds →
    LetsIn actionType actor projectPolicy rule' runtimeActorIds'

@[simp] theorem actorIdsFor_none (runtimeActorIds : Option (List String)) :
    actorIdsFor none runtimeActorIds = runtimeActorIds := by
  cases runtimeActorIds <;> rfl

theorem defaultEffectivePolicy_withRuntimeActorIds_admits {actionType : ApprovalActionType}
    {strictMode : Bool} {roles : Finset ActorRole} {actorId : String}
    (runtimeActorIds : Option (List String)) :
    ((defaultEffectivePolicy actionType strictMode).withRuntimeActorIds runtimeActorIds).Admits
        roles actorId ↔
      roles ∩ defaultActionRoleRules actionType ≠ ∅ ∧
      ∀ rawIds, runtimeActorIds = some rawIds → actorId ∈ normalizeActorIds rawIds := by
  cases runtimeActorIds with
  | none => simp [defaultEffectivePolicy_admits]
  | some rawIds => simp [EffectivePolicy.admits_withRuntimeActorIds, defaultEffectivePolicy]

theorem ruleEffectivePolicy_withRuntimeActorIds_admits {actionType : ApprovalActionType}
    {strictMode : Bool} {rule : ProjectPolicyActionRule} {roles : Finset ActorRole}
    {actorId : String} (runtimeActorIds : Option (List String)) :
    ((ruleEffectivePolicy actionType strictMode rule).withRuntimeActorIds runtimeActorIds).Admits
        roles actorId ↔
      roles ∩ (ruleEffectivePolicy actionType strictMode rule).effectiveRoles ≠ ∅ ∧
      ∀ rawIds, actorIdsFor (some rule) runtimeActorIds = some rawIds →
        actorId ∈ normalizeActorIds rawIds := by
  cases runtimeActorIds with
  | none =>
      rw [EffectivePolicy.withRuntimeActorIds_none, ruleEffectivePolicy_admits]
      cases hids : rule.allowedActorIds <;> simp [actorIdsFor, hids]
  | some rawIds => simp [EffectivePolicy.admits_withRuntimeActorIds, actorIdsFor]

/-- The effective policy in terms of the two entries; the rule is one of the policy. -/
theorem chosenPolicy_admits {actionType : ApprovalActionType} {projectPolicy : Option ProjectPolicy}
    {rule : Option ProjectPolicyActionRule} {roles : Finset ActorRole} {actorId : String}
    (hrule : projectPolicy = none → rule = none) (runtimeActorIds : Option (List String)) :
    (chosenPolicy actionType projectPolicy rule runtimeActorIds).Admits roles actorId ↔
      roles ∩ rolesFor actionType projectPolicy rule ≠ ∅ ∧
      ∀ rawIds, actorIdsFor rule runtimeActorIds = some rawIds →
        actorId ∈ normalizeActorIds rawIds := by
  cases projectPolicy with
  | none =>
      rw [hrule rfl, actorIdsFor_none]
      exact defaultEffectivePolicy_withRuntimeActorIds_admits runtimeActorIds
  | some policy =>
      cases rule with
      | some rule => exact ruleEffectivePolicy_withRuntimeActorIds_admits runtimeActorIds
      | none =>
          rw [actorIdsFor_none]
          by_cases hstrict : policy.strictMode = true
          · -- strict mode without a rule admits no role
            simp [chosenPolicy_strict hstrict, EffectivePolicy.Admits, rolesFor, hstrict]
          · have hroles : rolesFor actionType (some policy) none =
                defaultActionRoleRules actionType := by
              rw [rolesFor, Option.any_some, if_neg hstrict]
            rw [chosenPolicy_default hstrict, hroles]
            exact defaultEffectivePolicy_withRuntimeActorIds_admits runtimeActorIds

theorem ruleFor_eq_none {actionType : ApprovalActionType} {projectPolicy : Option ProjectPolicy}
    (h : projectPolicy = none) : ruleFor projectPolicy actionType = none := by
  rw [h, ruleFor, Option.bind_none]

theorem allowed_iff_letsIn {actionType : ApprovalActionType} {actor : ActorContext}
    {projectPolicy : Option ProjectPolicy} {allowList : Option (Dict (List String))} :
    (authorizeAction actionType actor projectPolicy allowList).allowed = true ↔
      LetsIn actionType actor projectPolicy (ruleFor projectPolicy actionType)
        (findRuntimeActorIds allowList actionType) := by
  rw [allowed_iff, resolveEffectivePolicy_eq, chosenPolicy_admits ruleFor_eq_none]
  constructor
  · rintro ⟨hviewer, hrole, hnamed⟩
    exact ⟨hviewer, hrole, hnamed⟩
  · rintro ⟨hviewer, hrole, hnamed⟩
    exact ⟨hviewer, hrole, hnamed⟩

theorem ruleCompetes_ruleFor (projectPolicy : Option ProjectPolicy)
    (actionType : ApprovalActionType) :
    RuleCompetes projectPolicy actionType (ruleFor projectPolicy actionType) := by
  cases projectPolicy with
  | none => rfl
  | some policy => exact competes_findActionMappingValue _ _

theorem listCompetes_findRuntimeActorIds (allowList : Option (Dict (List String)))
    (actionType : ApprovalActionType) :
    ListCompetes allowList actionType (findRuntimeActorIds allowList actionType) := by
  cases allowList with
  | none => rfl
  | some mapping => exact competes_findActionMappingValue _ _

section Reordered

variable {actionType : ApprovalActionType} {actor : ActorContext}
variable {projectPolicy projectPolicy' : Option ProjectPolicy}
variable {allowList allowList' : Option (Dict (List String))}

theorem RuleCompetes.of_same {rule : Option ProjectPolicyActionRule}
    (h : Option.Rel ProjectPolicy.Same projectPolicy projectPolicy')
    (hc : RuleCompetes projectPolicy' actionType rule) :
    RuleCompetes projectPolicy actionType rule := by
  cases h with
  | none => exact hc
  | some h => exact Competes.of_same h.rules.symm hc

theorem ListCompetes.of_same {runtimeActorIds : Option (List String)}
    (h : Option.Rel Dict.Same allowList allowList')
    (hc : ListCompetes allowList' actionType runtimeActorIds) :
    ListCompetes allowList actionType runtimeActorIds := by
  cases h with
  | none => exact hc
  | some h => exact Competes.of_same h.symm hc

theorem actorRoles_of_same (h : Option.Rel ProjectPolicy.Same projectPolicy projectPolicy') :
    actorRoles actor projectPolicy = actorRoles actor projectPolicy' := by
  cases h with
  | none => rfl
  | some h => simp only [actorRoles, h.owner]

/-- Apart from the rule and the list, a policy counts with its strict mode. -/
theorem chosenPolicy_of_same (h : Option.Rel ProjectPolicy.Same projectPolicy projectPolicy')
    (rule : Option ProjectPolicyActionRule) (runtimeActorIds : Option (List String)) :
    chosenPolicy actionType projectPolicy rule runtimeActorIds =
      chosenPolicy actionType projectPolicy' rule runtimeActorIds := by
  cases h with
  | none => rfl
  | some h => cases rule <;> simp only [chosenPolicy, h.strict]

theorem rolesFor_of_same (h : Option.Rel ProjectPolicy.Same projectPolicy projectPolicy')
    (rule : Option ProjectPolicyActionRule) :
    rolesFor actionType projectPolicy rule = rolesFor actionType projectPolicy' rule := by
  cases h with
  | none => rfl
  | some h => cases rule <;> simp only [rolesFor, Option.any_some, h.strict]

theorem letsIn_of_same {rule : Option ProjectPolicyActionRule}
    {runtimeActorIds : Option (List String)}
    (h : Option.Rel ProjectPolicy.Same projectPolicy projectPolicy') :
    LetsIn actionType actor projectPolicy' rule runtimeActorIds ↔
      LetsIn actionType actor projectPolicy rule runtimeActorIds := by
  have hactor : actorRoles actor projectPolicy = actorRoles actor projectPolicy' :=
    actorRoles_of_same h
  have hroles : rolesFor actionType projectPolicy rule = rolesFor actionType projectPolicy' rule :=
    rolesFor_of_same h rule
  constructor
  · rintro ⟨hviewer, hrole, hnamed⟩
    rw [← hactor, ← hroles] at hrole
    exact ⟨hviewer, hrole, hnamed⟩
  · rintro ⟨hviewer, hrole, hnamed⟩
    rw [hactor, hroles] at hrole
    exact ⟨hviewer, hrole, hnamed⟩

theorem RuleCompetes.exists_order {rule : Option ProjectPolicyActionRule}
    (hc : RuleCompetes projectPolicy actionType rule) :
    ∃ projectPolicy', Option.Rel ProjectPolicy.Same projectPolicy projectPolicy' ∧
      ruleFor projectPolicy' actionType = rule := by
  cases projectPolicy with
  | none => exact ⟨none, .none, hc.symm⟩
  | some policy =>
      obtain ⟨rules, hsame, hfind⟩ := Competes.exists_order hc
      exact ⟨some { policy with actionRules := rules }, .some ⟨rfl, rfl, hsame⟩, hfind⟩

theorem ListCompetes.exists_order {runtimeActorIds : Option (List String)}
    (hc : ListCompetes allowList actionType runtimeActorIds) :
    ∃ allowList', Option.Rel Dict.Same allowList allowList' ∧
      findRuntimeActorIds allowList' actionType = runtimeActorIds := by
  cases allowList with
  | none => exact ⟨none, .none, hc.symm⟩
  | some mapping =>
      obtain ⟨mapping', hsame, hfind⟩ := Competes.exists_order hc
      exact ⟨some mapping', .some hsame, hfind⟩

end Reordered

/-- The answer is the same for every order of the rules and of the runtime lists exactly when the
    entries that compete for the action agree about the actor. -/
theorem authorizeAction_order_iff (actionType : ApprovalActionType) (actor : ActorContext)
    (projectPolicy : Option ProjectPolicy) (allowList : Option (Dict (List String))) :
    (∀ projectPolicy' allowList', Option.Rel ProjectPolicy.Same projectPolicy projectPolicy' →
      Option.Rel Dict.Same allowList allowList' →
      (authorizeAction actionType actor projectPolicy' allowList').allowed =
        (authorizeAction actionType actor projectPolicy allowList).allowed) ↔
      Agree actionType actor projectPolicy allowList := by
  constructor
  · intro hsame rule rule' ids ids' hrule hrule' hids hids' hlets
    -- one order in which the first pair is found, one in which the second is
    obtain ⟨policy₁, hpolicy₁, hrule₁⟩ := hrule.exists_order
    obtain ⟨policy₂, hpolicy₂, hrule₂⟩ := hrule'.exists_order
    obtain ⟨list₁, hlist₁, hids₁⟩ := hids.exists_order
    obtain ⟨list₂, hlist₂, hids₂⟩ := hids'.exists_order
    have h₁ : (authorizeAction actionType actor policy₁ list₁).allowed = true := by
      rw [allowed_iff_letsIn, hrule₁, hids₁]
      exact (letsIn_of_same hpolicy₁).mpr hlets
    have h₂ : (authorizeAction actionType actor policy₂ list₂).allowed = true := by
      rw [hsame policy₂ list₂ hpolicy₂ hlist₂, ← hsame policy₁ list₁ hpolicy₁ hlist₁]
      exact h₁
    rw [allowed_iff_letsIn, hrule₂, hids₂] at h₂
    exact (letsIn_of_same hpolicy₂).mp h₂
  · intro hagree policy' list' hpolicy hlist
    have hrule := (ruleCompetes_ruleFor policy' actionType).of_same hpolicy
    have hids := (listCompetes_findRuntimeActorIds list' actionType).of_same hlist
    rw [Bool.eq_iff_iff, allowed_iff_letsIn, allowed_iff_letsIn, letsIn_of_same hpolicy]
    -- what is found in either order competes in both
    have hrule₀ := ruleCompetes_ruleFor projectPolicy actionType
    have hids₀ := listCompetes_findRuntimeActorIds allowList actionType
    exact ⟨hagree _ _ _ _ hrule hrule₀ hids hids₀, hagree _ _ _ _ hrule₀ hrule hids₀ hids⟩

/-- Two spellings of the external send, one rule for approvers and one for admins: the one that was
    inserted first decides. -/
theorem authorizeAction_order_matters :
    ∃ (actionType : ApprovalActionType) (actor : ActorContext) (policy policy' : ProjectPolicy),
      policy.Same policy' ∧
      (authorizeAction actionType actor (some policy) none).allowed = true ∧
      ¬ (authorizeAction actionType actor (some policy') none).allowed = true := by
  refine ⟨.externalApiSend, { actorId := "b", actorRole := .approver },
    { actionRules := ⟨[(" external_api_send", { allowedRoles := [.approver] }),
      ("EXTERNAL_API_SEND", { allowedRoles := [.admin] })], by decide⟩ },
    { actionRules := ⟨[("EXTERNAL_API_SEND", { allowedRoles := [.admin] }),
      (" external_api_send", { allowedRoles := [.approver] })], by decide⟩ },
    ⟨rfl, rfl, Dict.same_of_perm (List.Perm.swap _ _ _)⟩, ?_, ?_⟩ <;> decide

end CodexOrchestrator
