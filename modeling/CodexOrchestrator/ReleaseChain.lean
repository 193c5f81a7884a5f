import CodexOrchestrator.Services.DryRunOrchestration

/-!
# The release chain — the labels at the end of the delivery chain against its start

Every bundle runs through the chain, and each label at the end is a function of the recommendation at
the start (`deliver_labels`).  The tables of the receiver take caution up from `open` to
`blocked_for_review`; those of the consumer read that caution as urgency, and urgency as authority, so
that the clearance at the end comes out the other way round: a bundle that is sent to review is
released, and one that may go is not.
-/

namespace CodexOrchestrator

open Relabel

/-! ### The start of the chain -/

theorem keeps_setIfGiven {keys : List String} {key : String} (value : Option String)
    (target : DryRunDict) (h : key ∉ keys) : Keeps keys target (setIfGiven key value target) := by
  intro other hother
  unfold setIfGiven
  cases value with
  | none => rfl
  | some s =>
      have hne : other ≠ key := by
        intro he
        subst he
        exact h hother
      exact Dict.get?_set_of_ne _ _ hne

/-- The envelope holds the artifacts of the bundle, whichever ids were given. -/
theorem buildDryRunHandoffEnvelope_ok {artifactBundle : DryRunDict}
    (h : ∀ key ∈ artifactKeys, (artifactBundle.get? key).isSome)
    (projectId activationDecisionId packetId queueItemId : Option String) :
    ∃ envelope, buildDryRunHandoffEnvelope artifactBundle projectId activationDecisionId packetId
        queueItemId = .ok envelope ∧ Keeps artifactKeys artifactBundle envelope := by
  obtain ⟨copies, hcopies, hget⟩ := Dict.copyKeys_ok h Dict.empty
  have hkeeps : Keeps artifactKeys artifactBundle copies := by
    intro key hkey
    rw [hget, if_pos hkey]
  unfold buildDryRunHandoffEnvelope
  rw [hcopies, Raise.ok_bind]
  refine ⟨_, rfl, ?_⟩
  have step {target : DryRunDict} (key : String) (value : Option String)
      (ht : Keeps artifactKeys artifactBundle target) (hkey : key ∉ artifactKeys) :
      Keeps artifactKeys artifactBundle (setIfGiven key value target) :=
    ht.trans (keeps_setIfGiven value target hkey) (List.Subset.refl _)
  exact step _ _ (step _ _ (step _ _ (step _ _ hkeeps (by decide)) (by decide)) (by decide))
    (by decide)

/-- The first label, as a function of the recommendation. -/
def classificationOf : DecisionValue → String
  | .go => "ready"
  | .pause => "hold"
  | .review => "needs_review"

theorem classificationByRecommendation_getItem (recommendation : DecisionValue) :
    classificationByRecommendation.getItem recommendation.value =
      .ok (classificationOf recommendation) := by
  cases recommendation <;> rfl

/-- What the classification of a manifest with both artifacts holds. -/
theorem get?_classification {manifest : DryRunDict} {decision : DryRunActivationDecision}
    (h : ∀ key ∈ artifactKeys, (manifest.get? key).isSome)
    (hdecision : manifest.get? "projected_activation_decision" =
      some (.object (.activationDecision decision))) :
    ∃ out, buildConsumerReceiverReadinessClassificationFromManifest manifest = .ok out ∧
      ∀ key, out.get? key = if key = "receiver_readiness_classification" then
          some (.text (classificationOf decision.recommendation))
        else if key ∈ artifactKeys ++ relatedIds then manifest.get? key else none := by
  obtain ⟨copies, hcopies, hget⟩ := Dict.copyKeys_ok h Dict.empty
  unfold buildConsumerReceiverReadinessClassificationFromManifest
  rw [Dict.getItem_eq_ok.mpr hdecision, Raise.ok_bind, recommendationOf, Raise.ok_bind, hcopies,
    Raise.ok_bind, classificationByRecommendation_getItem, Raise.ok_bind]
  refine ⟨_, rfl, fun key => ?_⟩
  rw [Dict.get?_copyPresent, Dict.get?_set, hget]
  by_cases hlabel : key = "receiver_readiness_classification"
  · subst hlabel
    rw [if_neg (by decide), if_pos rfl, if_pos rfl]
  · rw [if_neg hlabel, if_neg hlabel]
    by_cases hartifact : key ∈ artifactKeys
    · rw [if_pos hartifact, if_pos (List.mem_append_left _ hartifact), Option.or_self, ite_self]
    · rw [if_neg hartifact]
      by_cases hrelated : key ∈ relatedIds
      · rw [if_pos hrelated, if_pos (List.mem_append_right _ hrelated)]
        exact Option.or_none
      · rw [if_neg hrelated, if_neg (by simp [hartifact, hrelated])]
        rfl

/-- A manifest with both artifacts is classified by the decision in it. -/
theorem classification_ok {manifest : DryRunDict} {decision : DryRunActivationDecision}
    (h : ∀ key ∈ artifactKeys, (manifest.get? key).isSome)
    (hdecision : manifest.get? "projected_activation_decision" =
      some (.object (.activationDecision decision))) :
    ∃ out, buildConsumerReceiverReadinessClassificationFromManifest manifest = .ok out ∧
      Carries out classificationKeys
        [("receiver_readiness_classification", classificationOf decision.recommendation)] := by
  obtain ⟨out, hout, hget⟩ := get?_classification h hdecision
  have hartifacts : ∀ key ∈ artifactKeys, (out.get? key).isSome := by
    intro key hkey
    have hne : key ≠ "receiver_readiness_classification" := by
      rintro rfl
      exact absurd hkey (by decide)
    rw [hget, if_neg hne, if_pos (List.mem_append_left _ hkey)]
    exact h key hkey
  exact ⟨out, hout, (Carries.nil hartifacts).cons (by rw [hget, if_pos rfl])⟩

/-! ### The labels of the chain -/

theorem deliveryBuilders_linked : Linked artifactKeys deliveryBuilders := by
  unfold deliveryBuilders
  repeat' constructor

theorem releaseBuilders_linked : Linked classificationKeys releaseBuilders := by
  unfold releaseBuilders
  repeat' constructor

/-- All the labels that a bundle with this recommendation has at the end, the newest first. -/
def releaseLabels (recommendation : DecisionValue) : List (String × String) :=
  (relabel releaseBuilders
    [("receiver_readiness_classification", classificationOf recommendation)]).getD []

/-- No table of the chain lacks an entry that can be looked up. -/
theorem relabel_releaseBuilders (recommendation : DecisionValue) :
    relabel releaseBuilders
        [("receiver_readiness_classification", classificationOf recommendation)] =
      some (releaseLabels recommendation) := by
  cases recommendation <;> rfl

/-- `final[key] == label`. -/
def Says (final : DryRunDict) (key label : String) : Prop :=
  final.get? key = some (.text label)

theorem Says.iff_eq {final : DryRunDict} {key label : String} (h : Says final key label)
    (other : String) : Says final key other ↔ label = other := by
  unfold Says at *
  rw [h]
  simp

/-- Every bundle comes out at the end of the chain, with the labels of its recommendation. -/
theorem deliver_labels (bundle : DryRunArtifactBundle)
    (projectId activationDecisionId packetId queueItemId : Option String) :
    ∃ final, deliver bundle.toDict projectId activationDecisionId packetId queueItemId = .ok final ∧
      ∀ key label,
        (releaseLabels bundle.projectedActivationDecision.recommendation).lookup key = some label →
          Says final key label := by
  have hbundle : ∀ key ∈ artifactKeys, (bundle.toDict.get? key).isSome := by
    intro key hkey
    rcases List.mem_pair.mp hkey with rfl | rfl
    · rfl
    · rfl
  obtain ⟨envelope, henvelope, hkept⟩ :=
    buildDryRunHandoffEnvelope_ok hbundle projectId activationDecisionId packetId queueItemId
  -- up to the manifest nothing is labelled, and the bundle is carried along
  obtain ⟨manifest, hmanifest, hkept', -⟩ :=
    runBuilders_of_relabel deliveryBuilders_linked ((Carries.nil hbundle).of_keeps hkept) rfl
  have hkeeps : Keeps artifactKeys bundle.toDict manifest :=
    hkept.trans hkept' (List.Subset.refl _)
  have hdecision : manifest.get? "projected_activation_decision" =
      some (.object (.activationDecision bundle.projectedActivationDecision)) :=
    hkeeps _ (List.mem_cons_self)
  obtain ⟨classification, hclassification, hcarries⟩ :=
    classification_ok ((Carries.nil hbundle).of_keeps hkeeps).has hdecision
  -- from the classification on, each label is read off the one before it
  obtain ⟨final, hfinal, -, hshows⟩ :=
    runBuilders_of_relabel releaseBuilders_linked hcarries (relabel_releaseBuilders _)
  refine ⟨final, ?_, hshows⟩
  unfold deliver
  rw [henvelope, Raise.ok_bind, hmanifest, Raise.ok_bind, hclassification, Raise.ok_bind, hfinal]

/-! ### The end against the start -/

def releaseGateOf : DecisionValue → String
  | .go => "open"
  | .pause => "deferred"
  | .review => "blocked_for_review"

def dispatchPermissionOf : DecisionValue → String
  | .go => "not_permitted"
  | .pause => "conditionally_permitted"
  | .review => "permitted"

def executionRequirementOf : DecisionValue → String
  | .go => "do_not_execute"
  | .pause => "execute_with_guard"
  | .review => "execute_release"

def releaseClearanceOf : DecisionValue → String
  | .go => "blocked"
  | .pause => "gated"
  | .review => "clear"

/-- The clearance rises with the caution that the gate expresses. -/
theorem releaseLabels_lookup (recommendation : DecisionValue) :
    (releaseLabels recommendation).lookup "receiver_release_gate" =
        some (releaseGateOf recommendation) ∧
      (releaseLabels recommendation).lookup "consumer_dispatch_permission" =
        some (dispatchPermissionOf recommendation) ∧
      (releaseLabels recommendation).lookup "consumer_release_execution_requirement" =
        some (executionRequirementOf recommendation) ∧
      (releaseLabels recommendation).lookup "consumer_release_clearance" =
        some (releaseClearanceOf recommendation) := by
  cases recommendation with
  | go => exact ⟨rfl, rfl, rfl, rfl⟩
  | pause => exact ⟨rfl, rfl, rfl, rfl⟩
  | review => exact ⟨rfl, rfl, rfl, rfl⟩

def Cleared (final : DryRunDict) : Prop := Says final "consumer_release_clearance" "clear"

/-- The end of the chain does not contradict its start: the three labels of a release say the same,
    and a release has an open gate and a decision to go behind it. -/
structure EndAgrees (decision : DryRunActivationDecision) (final : DryRunDict) : Prop where
  execution :
    Cleared final ↔ Says final "consumer_release_execution_requirement" "execute_release"
  dispatch : Cleared final ↔ Says final "consumer_dispatch_permission" "permitted"
  gate : Cleared final → Says final "receiver_release_gate" "open"
  go : Cleared final → decision.recommendation = .go
  held : decision.recommendation = .review ∨
    decision.recommendation = .pause ∧ decision.remainingBlockers ≠ [] → ¬ Cleared final

/-- The end of the chain agrees with its start for exactly the bundles not sent to review. -/
theorem end_agrees_iff (bundle : DryRunArtifactBundle)
    (projectId activationDecisionId packetId queueItemId : Option String) :
    (∃ final,
      deliver bundle.toDict projectId activationDecisionId packetId queueItemId = .ok final ∧
        EndAgrees bundle.projectedActivationDecision final) ↔
      bundle.projectedActivationDecision.recommendation ≠ .review := by
  obtain ⟨final, hfinal, hlabels⟩ :=
    deliver_labels bundle projectId activationDecisionId packetId queueItemId
  obtain ⟨hgate, hpermission, hrequirement, hclearance⟩ :=
    releaseLabels_lookup bundle.projectedActivationDecision.recommendation
  have hcleared : Cleared final ↔
      releaseClearanceOf bundle.projectedActivationDecision.recommendation = "clear" :=
    (hlabels _ _ hclearance).iff_eq _
  constructor
  · rintro ⟨final', hfinal', hagrees⟩ hreview
    rw [hfinal] at hfinal'
    cases hfinal'
    refine hagrees.held (Or.inl hreview) (hcleared.mpr ?_)
    rw [hreview]
    rfl
  · intro hreview
    have hkept : ¬ Cleared final := by
      rw [hcleared]
      cases hr : bundle.projectedActivationDecision.recommendation with
      | go => decide
      | pause => decide
      | review => exact absurd hr hreview
    refine ⟨final, hfinal, ?_, ?_, fun h => absurd h hkept, fun h => absurd h hkept,
      fun _ => hkept⟩
    · rw [hcleared, (hlabels _ _ hrequirement).iff_eq]
      cases bundle.projectedActivationDecision.recommendation <;> decide
    · rw [hcleared, (hlabels _ _ hpermission).iff_eq]
      cases bundle.projectedActivationDecision.recommendation <;> decide

/-- A decision that sends the activation to review because of a hard gate. -/
def sampleReviewDecision : DryRunActivationDecision where
  activationTarget := [
    ("department", .str "action_department"),
    ("provider_use_mode", .str "limited_live_provider_use"),
    ("provider_aliases", .strings ["gemini-flash-lite-latest", "gemini-flash-latest"])]
  activationScope := ⟨[
    ("allowed_use_cases", ["low-risk extraction", "low-risk classification",
      "draft summarization for management review artifacts"]),
    ("excluded_use_cases", ["final authority for risky continuation",
      "auth/approval/policy/audit decisions", "automatic autonomous continuation"])], by decide⟩
  preconditionsSatisfied := ["management_review_packet validated", "review_queue_item validated",
    "management_decision validated"]
  remainingBlockers := ["approval_flow_change"]
  humanApprovalsRecorded := [⟨[
    ("checkpoint", "limited_live_provider_use_activation"),
    ("status", "withheld"),
    ("approver_id", "dry-run-system"),
    ("approver_type", "system"),
    ("note", "Derived from management decision artifact in dry-run mode.")], by decide⟩]
  recommendation := .review
  autonomousContinuationStatus := "not_approved"
  autonomousContinuationNote := "Autonomous continuation remains not approved unless explicitly " ++
    "approved through the required governance process."
  rollbackDisableExpectation := "Do not activate limited live provider use; maintain disabled " ++
    "state and route all related work through REVIEW escalation."
  escalationDestination := some "Audit and Review Department"
  reReviewRequired := true

def sampleReviewBundle : DryRunArtifactBundle where
  projectedActivationDecision := sampleReviewDecision
  approvalRecord := [
    ("approval_record_id", .str "approval_record_for_item-1"),
    ("activation_review_item_id", .str "item-1"),
    ("recommendation", .str "REVIEW"),
    ("retained_constraints", .strings [
      "latest-alias outputs remain advisory-only for risky work",
      "no live provider activation while hard-gate concerns remain unresolved"]),
    ("blocker_notes", .strings ["approval_flow_change"])]

/-- The gate of the bundle is blocked for review, and its release is cleared. -/
theorem review_is_released :
    ∃ final, deliver sampleReviewBundle.toDict none none none none = .ok final ∧
      Says final "receiver_release_gate" "blocked_for_review" ∧ Cleared final ∧
      ¬ EndAgrees sampleReviewDecision final := by
  obtain ⟨final, hfinal, hlabels⟩ := deliver_labels sampleReviewBundle none none none none
  obtain ⟨hgate, -, -, hclearance⟩ := releaseLabels_lookup .review
  have hcleared : Cleared final := hlabels _ _ hclearance
  exact ⟨final, hfinal, hlabels _ _ hgate, hcleared,
    fun hagrees => hagrees.held (Or.inl rfl) hcleared⟩

end CodexOrchestrator
