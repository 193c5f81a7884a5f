import CodexOrchestrator.Lib.Relabel
import CodexOrchestrator.Services.ActivationDecision

/-!
# Dry-run orchestration — the delivery chain

`app/services/dry_run_orchestration.py`, from `build_dry_run_handoff_envelope` to
`build_consumer_release_clearance_from_permission`.  Each function builds a new dict from the last
one's: it copies the keys by hand, most add one label, and the related ids are copied where they are
given.  A function that does only this is the `Builder` of what it copies and adds, and
`Relabel.Builder.build` runs it.
-/

namespace CodexOrchestrator

open Relabel

/-- The objects in the dicts of the chain. -/
inductive DryRunArtifact where
  | activationDecision (decision : DryRunActivationDecision)
  | approvalRecord (fields : JsonDict)

/-- A `dict[str, Any]` of the chain. -/
abbrev DryRunDict := Dict (DictValue DryRunArtifact)

def artifactKeys : List String := ["projected_activation_decision", "approval_record"]

/-- The ids that a dict of the chain has only if they were given. -/
def relatedIds : List String :=
  ["related_project_id", "related_activation_decision_id", "related_packet_id",
    "related_queue_item_id"]

/-- What `build_dry_run_artifact_bundle` returns. -/
structure DryRunArtifactBundle where
  projectedActivationDecision : DryRunActivationDecision
  approvalRecord : JsonDict

def DryRunArtifactBundle.toDict (bundle : DryRunArtifactBundle) : DryRunDict :=
  ⟨[("projected_activation_decision",
      .object (.activationDecision bundle.projectedActivationDecision)),
    ("approval_record", .object (.approvalRecord bundle.approvalRecord))],
    (by decide : artifactKeys.Nodup)⟩

/-- `if value is not None: target[key] = value`. -/
def setIfGiven (key : String) (value : Option String) (target : DryRunDict) : DryRunDict :=
  match value with
  | some s => target.set key (.text s)
  | none => target

def buildDryRunHandoffEnvelope (artifactBundle : DryRunDict)
    (relatedProjectId relatedActivationDecisionId relatedPacketId relatedQueueItemId :
      Option String) : Except PyError DryRunDict := do
  let envelope ← Dict.copyKeys artifactBundle artifactKeys .empty
  let envelope := setIfGiven "related_project_id" relatedProjectId envelope
  let envelope :=
    setIfGiven "related_activation_decision_id" relatedActivationDecisionId envelope
  let envelope := setIfGiven "related_packet_id" relatedPacketId envelope
  return setIfGiven "related_queue_item_id" relatedQueueItemId envelope

/-- A builder that adds nothing. -/
def passOn (copied : List String) : Builder where
  copied
  present := relatedIds
  label? := none
  fresh := by
    intro label h
    cases h

/-- A builder that adds `key`: the table's entry at the label under `reads`. -/
def labelBuilder (copied : List String) (reads key : String) (table : List (String × String))
    (nodup : (table.map Prod.fst).Nodup := by decide +kernel)
    (fresh : key ∉ copied ++ relatedIds := by decide +kernel) : Builder where
  copied
  present := relatedIds
  label? := some { key, reads, table := ⟨table, nodup⟩ }
  fresh := by
    intro label h
    rw [← Option.some.inj h]
    exact fresh

/-! ### Handing the artifacts down: each builder copies them -/

def buildNextLayerIntakeFromHandoffEnvelope : Builder :=
  passOn ["projected_activation_decision", "approval_record"]

def buildDownstreamWorkItemFromIntake : Builder :=
  passOn ["projected_activation_decision", "approval_record"]

def buildDownstreamExecutionIntentFromWorkItem : Builder :=
  passOn ["projected_activation_decision", "approval_record"]

def buildExecutionReadinessViewFromIntent : Builder :=
  passOn ["projected_activation_decision", "approval_record"]

def buildExecutionReadinessAssessmentFromView : Builder :=
  passOn ["projected_activation_decision", "approval_record"]

def buildExecutionReadinessSignalFromAssessment : Builder :=
  passOn ["projected_activation_decision", "approval_record"]

def buildExecutionReadinessOutcomeFromSignal : Builder :=
  passOn ["projected_activation_decision", "approval_record"]

def buildDownstreamConsumerPayloadFromOutcome : Builder :=
  passOn ["projected_activation_decision", "approval_record"]

def buildConsumerReceiverIntakeFromPayload : Builder :=
  passOn ["projected_activation_decision", "approval_record"]

def buildConsumerReceiverReadinessViewFromIntake : Builder :=
  passOn ["projected_activation_decision", "approval_record"]

def buildConsumerReceiverReadinessAssessmentFromView : Builder :=
  passOn ["projected_activation_decision", "approval_record"]

def buildConsumerReceiverReadinessSignalFromAssessment : Builder :=
  passOn ["projected_activation_decision", "approval_record"]

def buildConsumerReceiverReadinessOutcomeFromSignal : Builder :=
  passOn ["projected_activation_decision", "approval_record"]

def buildConsumerReceiverDeliveryPayloadFromOutcome : Builder :=
  passOn ["projected_activation_decision", "approval_record"]

def buildConsumerReceiverDeliveryPacketFromPayload : Builder :=
  passOn ["projected_activation_decision", "approval_record"]

def buildConsumerReceiverDeliveryManifestFromPacket : Builder :=
  passOn ["projected_activation_decision", "approval_record"]

/-- `value.recommendation`. -/
def recommendationOf : DictValue DryRunArtifact → Except PyError DecisionValue
  | .object (.activationDecision decision) => .ok decision.recommendation
  | .object (.approvalRecord _) =>
      .error (.other "AttributeError" "'dict' object has no attribute 'recommendation'")
  | .text _ => .error (.other "AttributeError" "'str' object has no attribute 'recommendation'")

def classificationByRecommendation : Dict String :=
  ⟨[("GO", "ready"), ("PAUSE", "hold"), ("REVIEW", "needs_review")], by decide⟩

/-- The first label is read off the decision itself, before anything is copied. -/
def buildConsumerReceiverReadinessClassificationFromManifest
    (consumerReceiverDeliveryManifest : DryRunDict) : Except PyError DryRunDict := do
  let decision ← consumerReceiverDeliveryManifest.getItem "projected_activation_decision"
  let recommendation ← recommendationOf decision
  let classification ← Dict.copyKeys consumerReceiverDeliveryManifest artifactKeys .empty
  let label ← classificationByRecommendation.getItem recommendation.value
  return Dict.copyPresent consumerReceiverDeliveryManifest relatedIds
    (classification.set "receiver_readiness_classification" (.text label))

def classificationKeys : List String :=
  artifactKeys ++ ["receiver_readiness_classification"]

/-! ### The receiver: from the classification to the release gate -/

def buildConsumerReceiverHandlingDirectiveFromClassification : Builder :=
  labelBuilder
    ["projected_activation_decision", "approval_record", "receiver_readiness_classification"]
    "receiver_readiness_classification" "receiver_handling_directive"
    [("ready", "deliver"), ("hold", "defer"), ("needs_review", "route_for_review")]

def buildConsumerReceiverActionLabelFromDirective : Builder :=
  labelBuilder
    ["projected_activation_decision", "approval_record", "receiver_readiness_classification",
      "receiver_handling_directive"]
    "receiver_handling_directive" "receiver_action_label"
    [("deliver", "dispatch"), ("defer", "wait"), ("route_for_review", "review_queue")]

def buildConsumerReceiverDispatchIntentFromActionLabel : Builder :=
  labelBuilder
    ["projected_activation_decision", "approval_record", "receiver_readiness_classification",
      "receiver_handling_directive", "receiver_action_label"]
    "receiver_action_label" "receiver_dispatch_intent"
    [("dispatch", "send"), ("wait", "park"), ("review_queue", "review")]

def buildConsumerReceiverDispatchModeFromIntent : Builder :=
  labelBuilder
    ["projected_activation_decision", "approval_record", "receiver_readiness_classification",
      "receiver_handling_directive", "receiver_action_label", "receiver_dispatch_intent"]
    "receiver_dispatch_intent" "receiver_dispatch_mode"
    [("send", "active"), ("park", "queued"), ("review", "review_pending")]

def buildConsumerReceiverReleaseGateFromDispatchMode : Builder :=
  labelBuilder
    ["projected_activation_decision", "approval_record", "receiver_readiness_classification",
      "receiver_handling_directive", "receiver_action_label", "receiver_dispatch_intent",
      "receiver_dispatch_mode"]
    "receiver_dispatch_mode" "receiver_release_gate"
    [("active", "open"), ("queued", "deferred"), ("review_pending", "blocked_for_review")]

/-! ### The receiver: progress and the response to it -/

def buildConsumerReceiverProgressStateFromReleaseGate : Builder :=
  labelBuilder
    ["projected_activation_decision", "approval_record", "receiver_readiness_classification",
      "receiver_handling_directive", "receiver_action_label", "receiver_dispatch_intent",
      "receiver_dispatch_mode", "receiver_release_gate"]
    "receiver_release_gate" "receiver_progress_state"
    [("open", "in_progress"), ("deferred", "pending"), ("blocked_for_review", "review_hold")]

def buildConsumerReceiverProgressSignalFromState : Builder :=
  labelBuilder
    ["projected_activation_decision", "approval_record", "receiver_readiness_classification",
      "receiver_handling_directive", "receiver_action_label", "receiver_dispatch_intent",
      "receiver_dispatch_mode", "receiver_release_gate", "receiver_progress_state"]
    "receiver_progress_state" "receiver_progress_signal"
    [("in_progress", "advance"), ("pending", "await"), ("review_hold", "review_wait")]

def buildConsumerReceiverProgressOutcomeFromSignal : Builder :=
  labelBuilder
    ["projected_activation_decision", "approval_record", "receiver_readiness_classification",
      "receiver_handling_directive", "receiver_action_label", "receiver_dispatch_intent",
      "receiver_dispatch_mode", "receiver_release_gate", "receiver_progress_state",
      "receiver_progress_signal"]
    "receiver_progress_signal" "receiver_progress_outcome"
    [("advance", "moving"), ("await", "standing_by"), ("review_wait", "awaiting_review")]

def buildConsumerReceiverInterventionRequirementFromProgressOutcome : Builder :=
  labelBuilder
    ["projected_activation_decision", "approval_record", "receiver_readiness_classification",
      "receiver_handling_directive", "receiver_action_label", "receiver_dispatch_intent",
      "receiver_dispatch_mode", "receiver_release_gate", "receiver_progress_state",
      "receiver_progress_signal", "receiver_progress_outcome"]
    "receiver_progress_outcome" "receiver_intervention_requirement"
    [("moving", "none"), ("standing_by", "monitor"), ("awaiting_review", "review_required")]

def buildConsumerReceiverAttentionLevelFromInterventionRequirement : Builder :=
  labelBuilder
    ["projected_activation_decision", "approval_record", "receiver_readiness_classification",
      "receiver_handling_directive", "receiver_action_label", "receiver_dispatch_intent",
      "receiver_dispatch_mode", "receiver_release_gate", "receiver_progress_state",
      "receiver_progress_signal", "receiver_progress_outcome", "receiver_intervention_requirement"]
    "receiver_intervention_requirement" "receiver_attention_level"
    [("none", "low"), ("monitor", "medium"), ("review_required", "high")]

def buildConsumerReceiverNotificationRequirementFromAttentionLevel : Builder :=
  labelBuilder
    ["projected_activation_decision", "approval_record", "receiver_readiness_classification",
      "receiver_handling_directive", "receiver_action_label", "receiver_dispatch_intent",
      "receiver_dispatch_mode", "receiver_release_gate", "receiver_progress_state",
      "receiver_progress_signal", "receiver_progress_outcome", "receiver_intervention_requirement",
      "receiver_attention_level"]
    "receiver_attention_level" "receiver_notification_requirement"
    [("low", "none"), ("medium", "notify"), ("high", "escalate")]

def buildConsumerReceiverResponsePriorityFromNotificationRequirement : Builder :=
  labelBuilder
    ["projected_activation_decision", "approval_record", "receiver_readiness_classification",
      "receiver_handling_directive", "receiver_action_label", "receiver_dispatch_intent",
      "receiver_dispatch_mode", "receiver_release_gate", "receiver_progress_state",
      "receiver_progress_signal", "receiver_progress_outcome", "receiver_intervention_requirement",
      "receiver_attention_level", "receiver_notification_requirement"]
    "receiver_notification_requirement" "receiver_response_priority"
    [("none", "normal"), ("notify", "elevated"), ("escalate", "urgent")]

def buildConsumerReceiverResponseChannelFromPriority : Builder :=
  labelBuilder
    ["projected_activation_decision", "approval_record", "receiver_readiness_classification",
      "receiver_handling_directive", "receiver_action_label", "receiver_dispatch_intent",
      "receiver_dispatch_mode", "receiver_release_gate", "receiver_progress_state",
      "receiver_progress_signal", "receiver_progress_outcome", "receiver_intervention_requirement",
      "receiver_attention_level", "receiver_notification_requirement", "receiver_response_priority"]
    "receiver_response_priority" "receiver_response_channel"
    [("normal", "standard_channel"), ("elevated", "priority_channel"),
      ("urgent", "escalation_channel")]

def buildConsumerReceiverResponseRouteFromChannel : Builder :=
  labelBuilder
    ["projected_activation_decision", "approval_record", "receiver_readiness_classification",
      "receiver_handling_directive", "receiver_action_label", "receiver_dispatch_intent",
      "receiver_dispatch_mode", "receiver_release_gate", "receiver_progress_state",
      "receiver_progress_signal", "receiver_progress_outcome", "receiver_intervention_requirement",
      "receiver_attention_level", "receiver_notification_requirement", "receiver_response_priority",
      "receiver_response_channel"]
    "receiver_response_channel" "receiver_response_route"
    [("standard_channel", "standard_route"), ("priority_channel", "priority_route"),
      ("escalation_channel", "escalation_route")]

def buildConsumerReceiverFollowupRequirementFromResponseRoute : Builder :=
  labelBuilder
    ["projected_activation_decision", "approval_record", "receiver_readiness_classification",
      "receiver_handling_directive", "receiver_action_label", "receiver_dispatch_intent",
      "receiver_dispatch_mode", "receiver_release_gate", "receiver_progress_state",
      "receiver_progress_signal", "receiver_progress_outcome", "receiver_intervention_requirement",
      "receiver_attention_level", "receiver_notification_requirement", "receiver_response_priority",
      "receiver_response_channel", "receiver_response_route"]
    "receiver_response_route" "receiver_followup_requirement"
    [("standard_route", "none"), ("priority_route", "follow_up"),
      ("escalation_route", "escalation_follow_up")]

/-! ### The consumer: from the follow-up to the timing of the work -/

def buildConsumerDecisionSurfaceFromFollowupRequirement : Builder :=
  passOn
    ["projected_activation_decision", "approval_record", "receiver_readiness_classification",
      "receiver_handling_directive", "receiver_action_label", "receiver_dispatch_intent",
      "receiver_dispatch_mode", "receiver_release_gate", "receiver_progress_state",
      "receiver_progress_signal", "receiver_progress_outcome", "receiver_intervention_requirement",
      "receiver_attention_level", "receiver_notification_requirement", "receiver_response_priority",
      "receiver_response_channel", "receiver_response_route", "receiver_followup_requirement"]

def buildConsumerDecisionPostureFromSurface : Builder :=
  labelBuilder
    ["projected_activation_decision", "approval_record", "receiver_readiness_classification",
      "receiver_handling_directive", "receiver_action_label", "receiver_dispatch_intent",
      "receiver_dispatch_mode", "receiver_release_gate", "receiver_progress_state",
      "receiver_progress_signal", "receiver_progress_outcome", "receiver_intervention_requirement",
      "receiver_attention_level", "receiver_notification_requirement", "receiver_response_priority",
      "receiver_response_channel", "receiver_response_route", "receiver_followup_requirement"]
    "receiver_followup_requirement" "consumer_decision_posture"
    [("none", "observe"), ("follow_up", "engage"), ("escalation_follow_up", "escalate")]

def buildConsumerActionRequirementFromPosture : Builder :=
  labelBuilder
    ["projected_activation_decision", "approval_record", "receiver_readiness_classification",
      "receiver_handling_directive", "receiver_action_label", "receiver_dispatch_intent",
      "receiver_dispatch_mode", "receiver_release_gate", "receiver_progress_state",
      "receiver_progress_signal", "receiver_progress_outcome", "receiver_intervention_requirement",
      "receiver_attention_level", "receiver_notification_requirement", "receiver_response_priority",
      "receiver_response_channel", "receiver_response_route", "receiver_followup_requirement",
      "consumer_decision_posture"]
    "consumer_decision_posture" "consumer_action_requirement"
    [("observe", "no_action"), ("engage", "action_required"), ("escalate", "escalation_required")]

def buildConsumerWorkQueueAssignmentFromActionRequirement : Builder :=
  labelBuilder
    ["projected_activation_decision", "approval_record", "receiver_readiness_classification",
      "receiver_handling_directive", "receiver_action_label", "receiver_dispatch_intent",
      "receiver_dispatch_mode", "receiver_release_gate", "receiver_progress_state",
      "receiver_progress_signal", "receiver_progress_outcome", "receiver_intervention_requirement",
      "receiver_attention_level", "receiver_notification_requirement", "receiver_response_priority",
      "receiver_response_channel", "receiver_response_route", "receiver_followup_requirement",
      "consumer_decision_posture", "consumer_action_requirement"]
    "consumer_action_requirement" "consumer_work_queue_assignment"
    [("no_action", "observation_queue"), ("action_required", "action_queue"),
      ("escalation_required", "escalation_queue")]

def buildConsumerProcessingPlanFromWorkQueueAssignment : Builder :=
  labelBuilder
    ["projected_activation_decision", "approval_record", "receiver_readiness_classification",
      "receiver_handling_directive", "receiver_action_label", "receiver_dispatch_intent",
      "receiver_dispatch_mode", "receiver_release_gate", "receiver_progress_state",
      "receiver_progress_signal", "receiver_progress_outcome", "receiver_intervention_requirement",
      "receiver_attention_level", "receiver_notification_requirement", "receiver_response_priority",
      "receiver_response_channel", "receiver_response_route", "receiver_followup_requirement",
      "consumer_decision_posture", "consumer_action_requirement", "consumer_work_queue_assignment"]
    "consumer_work_queue_assignment" "consumer_processing_plan"
    [("observation_queue", "observe_only"), ("action_queue", "process_action"),
      ("escalation_queue", "process_escalation")]

def buildConsumerOperatorRequirementFromProcessingPlan : Builder :=
  labelBuilder
    ["projected_activation_decision", "approval_record", "receiver_readiness_classification",
      "receiver_handling_directive", "receiver_action_label", "receiver_dispatch_intent",
      "receiver_dispatch_mode", "receiver_release_gate", "receiver_progress_state",
      "receiver_progress_signal", "receiver_progress_outcome", "receiver_intervention_requirement",
      "receiver_attention_level", "receiver_notification_requirement", "receiver_response_priority",
      "receiver_response_channel", "receiver_response_route", "receiver_followup_requirement",
      "consumer_decision_posture", "consumer_action_requirement", "consumer_work_queue_assignment",
      "consumer_processing_plan"]
    "consumer_processing_plan" "consumer_operator_requirement"
    [("observe_only", "none"), ("process_action", "operator_required"),
      ("process_escalation", "senior_operator_required")]

def buildConsumerAssignmentLaneFromOperatorRequirement : Builder :=
  labelBuilder
    ["projected_activation_decision", "approval_record", "receiver_readiness_classification",
      "receiver_handling_directive", "receiver_action_label", "receiver_dispatch_intent",
      "receiver_dispatch_mode", "receiver_release_gate", "receiver_progress_state",
      "receiver_progress_signal", "receiver_progress_outcome", "receiver_intervention_requirement",
      "receiver_attention_level", "receiver_notification_requirement", "receiver_response_priority",
      "receiver_response_channel", "receiver_response_route", "receiver_followup_requirement",
      "consumer_decision_posture", "consumer_action_requirement", "consumer_work_queue_assignment",
      "consumer_processing_plan", "consumer_operator_requirement"]
    "consumer_operator_requirement" "consumer_assignment_lane"
    [("none", "self_service_lane"), ("operator_required", "operator_lane"),
      ("senior_operator_required", "senior_operator_lane")]

def buildConsumerServiceTierFromAssignmentLane : Builder :=
  labelBuilder
    ["projected_activation_decision", "approval_record", "receiver_readiness_classification",
      "receiver_handling_directive", "receiver_action_label", "receiver_dispatch_intent",
      "receiver_dispatch_mode", "receiver_release_gate", "receiver_progress_state",
      "receiver_progress_signal", "receiver_progress_outcome", "receiver_intervention_requirement",
      "receiver_attention_level", "receiver_notification_requirement", "receiver_response_priority",
      "receiver_response_channel", "receiver_response_route", "receiver_followup_requirement",
      "consumer_decision_posture", "consumer_action_requirement", "consumer_work_queue_assignment",
      "consumer_processing_plan", "consumer_operator_requirement", "consumer_assignment_lane"]
    "consumer_assignment_lane" "consumer_service_tier"
    [("self_service_lane", "self_service"), ("operator_lane", "operator_managed"),
      ("senior_operator_lane", "senior_managed")]

def buildConsumerSlaClassFromServiceTier : Builder :=
  labelBuilder
    ["projected_activation_decision", "approval_record", "receiver_readiness_classification",
      "receiver_handling_directive", "receiver_action_label", "receiver_dispatch_intent",
      "receiver_dispatch_mode", "receiver_release_gate", "receiver_progress_state",
      "receiver_progress_signal", "receiver_progress_outcome", "receiver_intervention_requirement",
      "receiver_attention_level", "receiver_notification_requirement", "receiver_response_priority",
      "receiver_response_channel", "receiver_response_route", "receiver_followup_requirement",
      "consumer_decision_posture", "consumer_action_requirement", "consumer_work_queue_assignment",
      "consumer_processing_plan", "consumer_operator_requirement", "consumer_assignment_lane",
      "consumer_service_tier"]
    "consumer_service_tier" "consumer_sla_class"
    [("self_service", "deferred"), ("operator_managed", "standard"), ("senior_managed", "priority")]

def buildConsumerResponseWindowFromSlaClass : Builder :=
  labelBuilder
    ["projected_activation_decision", "approval_record", "receiver_readiness_classification",
      "receiver_handling_directive", "receiver_action_label", "receiver_dispatch_intent",
      "receiver_dispatch_mode", "receiver_release_gate", "receiver_progress_state",
      "receiver_progress_signal", "receiver_progress_outcome", "receiver_intervention_requirement",
      "receiver_attention_level", "receiver_notification_requirement", "receiver_response_priority",
      "receiver_response_channel", "receiver_response_route", "receiver_followup_requirement",
      "consumer_decision_posture", "consumer_action_requirement", "consumer_work_queue_assignment",
      "consumer_processing_plan", "consumer_operator_requirement", "consumer_assignment_lane",
      "consumer_service_tier", "consumer_sla_class"]
    "consumer_sla_class" "consumer_response_window"
    [("deferred", "backlog_window"), ("standard", "standard_window"),
      ("priority", "priority_window")]

def buildConsumerTimingPostureFromResponseWindow : Builder :=
  labelBuilder
    ["projected_activation_decision", "approval_record", "receiver_readiness_classification",
      "receiver_handling_directive", "receiver_action_label", "receiver_dispatch_intent",
      "receiver_dispatch_mode", "receiver_release_gate", "receiver_progress_state",
      "receiver_progress_signal", "receiver_progress_outcome", "receiver_intervention_requirement",
      "receiver_attention_level", "receiver_notification_requirement", "receiver_response_priority",
      "receiver_response_channel", "receiver_response_route", "receiver_followup_requirement",
      "consumer_decision_posture", "consumer_action_requirement", "consumer_work_queue_assignment",
      "consumer_processing_plan", "consumer_operator_requirement", "consumer_assignment_lane",
      "consumer_service_tier", "consumer_sla_class", "consumer_response_window"]
    "consumer_response_window" "consumer_timing_posture"
    [("backlog_window", "later"), ("standard_window", "scheduled"),
      ("priority_window", "immediate")]

def buildConsumerSchedulingCommitmentFromTimingPosture : Builder :=
  labelBuilder
    ["projected_activation_decision", "approval_record", "receiver_readiness_classification",
      "receiver_handling_directive", "receiver_action_label", "receiver_dispatch_intent",
      "receiver_dispatch_mode", "receiver_release_gate", "receiver_progress_state",
      "receiver_progress_signal", "receiver_progress_outcome", "receiver_intervention_requirement",
      "receiver_attention_level", "receiver_notification_requirement", "receiver_response_priority",
      "receiver_response_channel", "receiver_response_route", "receiver_followup_requirement",
      "consumer_decision_posture", "consumer_action_requirement", "consumer_work_queue_assignment",
      "consumer_processing_plan", "consumer_operator_requirement", "consumer_assignment_lane",
      "consumer_service_tier", "consumer_sla_class", "consumer_response_window",
      "consumer_timing_posture"]
    "consumer_timing_posture" "consumer_scheduling_commitment"
    [("later", "backlog_commitment"), ("scheduled", "scheduled_commitment"),
      ("immediate", "immediate_commitment")]

/-! ### The consumer: dispatch -/

def buildConsumerExecutionReadinessFromSchedulingCommitment : Builder :=
  labelBuilder
    ["projected_activation_decision", "approval_record", "receiver_readiness_classification",
      "receiver_handling_directive", "receiver_action_label", "receiver_dispatch_intent",
      "receiver_dispatch_mode", "receiver_release_gate", "receiver_progress_state",
      "receiver_progress_signal", "receiver_progress_outcome", "receiver_intervention_requirement",
      "receiver_attention_level", "receiver_notification_requirement", "receiver_response_priority",
      "receiver_response_channel", "receiver_response_route", "receiver_followup_requirement",
      "consumer_decision_posture", "consumer_action_requirement", "consumer_work_queue_assignment",
      "consumer_processing_plan", "consumer_operator_requirement", "consumer_assignment_lane",
      "consumer_service_tier", "consumer_sla_class", "consumer_response_window",
      "consumer_timing_posture", "consumer_scheduling_commitment"]
    "consumer_scheduling_commitment" "consumer_execution_readiness"
    [("backlog_commitment", "deferred_readiness"), ("scheduled_commitment", "planned_readiness"),
      ("immediate_commitment", "ready_now")]

def buildConsumerDispatchReadinessFromExecutionReadiness : Builder :=
  labelBuilder
    ["projected_activation_decision", "approval_record", "receiver_readiness_classification",
      "receiver_handling_directive", "receiver_action_label", "receiver_dispatch_intent",
      "receiver_dispatch_mode", "receiver_release_gate", "receiver_progress_state",
      "receiver_progress_signal", "receiver_progress_outcome", "receiver_intervention_requirement",
      "receiver_attention_level", "receiver_notification_requirement", "receiver_response_priority",
      "receiver_response_channel", "receiver_response_route", "receiver_followup_requirement",
      "consumer_decision_posture", "consumer_action_requirement", "consumer_work_queue_assignment",
      "consumer_processing_plan", "consumer_operator_requirement", "consumer_assignment_lane",
      "consumer_service_tier", "consumer_sla_class", "consumer_response_window",
      "consumer_timing_posture", "consumer_scheduling_commitment", "consumer_execution_readiness"]
    "consumer_execution_readiness" "consumer_dispatch_readiness"
    [("deferred_readiness", "parked"), ("planned_readiness", "prepared"),
      ("ready_now", "dispatch_ready")]

def buildConsumerDispatchAuthorityFromReadiness : Builder :=
  labelBuilder
    ["projected_activation_decision", "approval_record", "receiver_readiness_classification",
      "receiver_handling_directive", "receiver_action_label", "receiver_dispatch_intent",
      "receiver_dispatch_mode", "receiver_release_gate", "receiver_progress_state",
      "receiver_progress_signal", "receiver_progress_outcome", "receiver_intervention_requirement",
      "receiver_attention_level", "receiver_notification_requirement", "receiver_response_priority",
      "receiver_response_channel", "receiver_response_route", "receiver_followup_requirement",
      "consumer_decision_posture", "consumer_action_requirement", "consumer_work_queue_assignment",
      "consumer_processing_plan", "consumer_operator_requirement", "consumer_assignment_lane",
      "consumer_service_tier", "consumer_sla_class", "consumer_response_window",
      "consumer_timing_posture", "consumer_scheduling_commitment", "consumer_execution_readiness",
      "consumer_dispatch_readiness"]
    "consumer_dispatch_readiness" "consumer_dispatch_authority"
    [("parked", "withhold"), ("prepared", "pre_authorize"), ("dispatch_ready", "authorize")]

def buildConsumerDispatchPermissionFromAuthority : Builder :=
  labelBuilder
    ["projected_activation_decision", "approval_record", "receiver_readiness_classification",
      "receiver_handling_directive", "receiver_action_label", "receiver_dispatch_intent",
      "receiver_dispatch_mode", "receiver_release_gate", "receiver_progress_state",
      "receiver_progress_signal", "receiver_progress_outcome", "receiver_intervention_requirement",
      "receiver_attention_level", "receiver_notification_requirement", "receiver_response_priority",
      "receiver_response_channel", "receiver_response_route", "receiver_followup_requirement",
      "consumer_decision_posture", "consumer_action_requirement", "consumer_work_queue_assignment",
      "consumer_processing_plan", "consumer_operator_requirement", "consumer_assignment_lane",
      "consumer_service_tier", "consumer_sla_class", "consumer_response_window",
      "consumer_timing_posture", "consumer_scheduling_commitment", "consumer_execution_readiness",
      "consumer_dispatch_readiness", "consumer_dispatch_authority"]
    "consumer_dispatch_authority" "consumer_dispatch_permission"
    [("withhold", "not_permitted"), ("pre_authorize", "conditionally_permitted"),
      ("authorize", "permitted")]

def buildConsumerDispatchClearanceFromPermission : Builder :=
  labelBuilder
    ["projected_activation_decision", "approval_record", "receiver_readiness_classification",
      "receiver_handling_directive", "receiver_action_label", "receiver_dispatch_intent",
      "receiver_dispatch_mode", "receiver_release_gate", "receiver_progress_state",
      "receiver_progress_signal", "receiver_progress_outcome", "receiver_intervention_requirement",
      "receiver_attention_level", "receiver_notification_requirement", "receiver_response_priority",
      "receiver_response_channel", "receiver_response_route", "receiver_followup_requirement",
      "consumer_decision_posture", "consumer_action_requirement", "consumer_work_queue_assignment",
      "consumer_processing_plan", "consumer_operator_requirement", "consumer_assignment_lane",
      "consumer_service_tier", "consumer_sla_class", "consumer_response_window",
      "consumer_timing_posture", "consumer_scheduling_commitment", "consumer_execution_readiness",
      "consumer_dispatch_readiness", "consumer_dispatch_authority", "consumer_dispatch_permission"]
    "consumer_dispatch_permission" "consumer_dispatch_clearance"
    [("not_permitted", "blocked"), ("conditionally_permitted", "gated"), ("permitted", "clear")]

/-! ### The consumer: release -/

def buildConsumerReleaseDecisionFromDispatchClearance : Builder :=
  labelBuilder
    ["projected_activation_decision", "approval_record", "receiver_readiness_classification",
      "receiver_handling_directive", "receiver_action_label", "receiver_dispatch_intent",
      "receiver_dispatch_mode", "receiver_release_gate", "receiver_progress_state",
      "receiver_progress_signal", "receiver_progress_outcome", "receiver_intervention_requirement",
      "receiver_attention_level", "receiver_notification_requirement", "receiver_response_priority",
      "receiver_response_channel", "receiver_response_route", "receiver_followup_requirement",
      "consumer_decision_posture", "consumer_action_requirement", "consumer_work_queue_assignment",
      "consumer_processing_plan", "consumer_operator_requirement", "consumer_assignment_lane",
      "consumer_service_tier", "consumer_sla_class", "consumer_response_window",
      "consumer_timing_posture", "consumer_scheduling_commitment", "consumer_execution_readiness",
      "consumer_dispatch_readiness", "consumer_dispatch_authority", "consumer_dispatch_permission",
      "consumer_dispatch_clearance"]
    "consumer_dispatch_clearance" "consumer_release_decision"
    [("blocked", "hold_release"), ("gated", "conditional_release"), ("clear", "release")]

def buildConsumerReleaseModeFromReleaseDecision : Builder :=
  labelBuilder
    ["projected_activation_decision", "approval_record", "receiver_readiness_classification",
      "receiver_handling_directive", "receiver_action_label", "receiver_dispatch_intent",
      "receiver_dispatch_mode", "receiver_release_gate", "receiver_progress_state",
      "receiver_progress_signal", "receiver_progress_outcome", "receiver_intervention_requirement",
      "receiver_attention_level", "receiver_notification_requirement", "receiver_response_priority",
      "receiver_response_channel", "receiver_response_route", "receiver_followup_requirement",
      "consumer_decision_posture", "consumer_action_requirement", "consumer_work_queue_assignment",
      "consumer_processing_plan", "consumer_operator_requirement", "consumer_assignment_lane",
      "consumer_service_tier", "consumer_sla_class", "consumer_response_window",
      "consumer_timing_posture", "consumer_scheduling_commitment", "consumer_execution_readiness",
      "consumer_dispatch_readiness", "consumer_dispatch_authority", "consumer_dispatch_permission",
      "consumer_dispatch_clearance", "consumer_release_decision"]
    "consumer_release_decision" "consumer_release_mode"
    [("hold_release", "hold_mode"), ("conditional_release", "guarded_mode"),
      ("release", "release_mode")]

def buildConsumerReleaseExecutionRequirementFromReleaseMode : Builder :=
  labelBuilder
    ["projected_activation_decision", "approval_record", "receiver_readiness_classification",
      "receiver_handling_directive", "receiver_action_label", "receiver_dispatch_intent",
      "receiver_dispatch_mode", "receiver_release_gate", "receiver_progress_state",
      "receiver_progress_signal", "receiver_progress_outcome", "receiver_intervention_requirement",
      "receiver_attention_level", "receiver_notification_requirement", "receiver_response_priority",
      "receiver_response_channel", "receiver_response_route", "receiver_followup_requirement",
      "consumer_decision_posture", "consumer_action_requirement", "consumer_work_queue_assignment",
      "consumer_processing_plan", "consumer_operator_requirement", "consumer_assignment_lane",
      "consumer_service_tier", "consumer_sla_class", "consumer_response_window",
      "consumer_timing_posture", "consumer_scheduling_commitment", "consumer_execution_readiness",
      "consumer_dispatch_readiness", "consumer_dispatch_authority", "consumer_dispatch_permission",
      "consumer_dispatch_clearance", "consumer_release_decision", "consumer_release_mode"]
    "consumer_release_mode" "consumer_release_execution_requirement"
    [("hold_mode", "do_not_execute"), ("guarded_mode", "execute_with_guard"),
      ("release_mode", "execute_release")]

def buildConsumerReleaseExecutionLaneFromExecutionRequirement : Builder :=
  labelBuilder
    ["projected_activation_decision", "approval_record", "receiver_readiness_classification",
      "receiver_handling_directive", "receiver_action_label", "receiver_dispatch_intent",
      "receiver_dispatch_mode", "receiver_release_gate", "receiver_progress_state",
      "receiver_progress_signal", "receiver_progress_outcome", "receiver_intervention_requirement",
      "receiver_attention_level", "receiver_notification_requirement", "receiver_response_priority",
      "receiver_response_channel", "receiver_response_route", "receiver_followup_requirement",
      "consumer_decision_posture", "consumer_action_requirement", "consumer_work_queue_assignment",
      "consumer_processing_plan", "consumer_operator_requirement", "consumer_assignment_lane",
      "consumer_service_tier", "consumer_sla_class", "consumer_response_window",
      "consumer_timing_posture", "consumer_scheduling_commitment", "consumer_execution_readiness",
      "consumer_dispatch_readiness", "consumer_dispatch_authority", "consumer_dispatch_permission",
      "consumer_dispatch_clearance", "consumer_release_decision", "consumer_release_mode",
      "consumer_release_execution_requirement"]
    "consumer_release_execution_requirement" "consumer_release_execution_lane"
    [("do_not_execute", "blocked_lane"), ("execute_with_guard", "guarded_lane"),
      ("execute_release", "release_lane")]

def buildConsumerReleaseHandlingIntentFromExecutionLane : Builder :=
  labelBuilder
    ["projected_activation_decision", "approval_record", "receiver_readiness_classification",
      "receiver_handling_directive", "receiver_action_label", "receiver_dispatch_intent",
      "receiver_dispatch_mode", "receiver_release_gate", "receiver_progress_state",
      "receiver_progress_signal", "receiver_progress_outcome", "receiver_intervention_requirement",
      "receiver_attention_level", "receiver_notification_requirement", "receiver_response_priority",
      "receiver_response_channel", "receiver_response_route", "receiver_followup_requirement",
      "consumer_decision_posture", "consumer_action_requirement", "consumer_work_queue_assignment",
      "consumer_processing_plan", "consumer_operator_requirement", "consumer_assignment_lane",
      "consumer_service_tier", "consumer_sla_class", "consumer_response_window",
      "consumer_timing_posture", "consumer_scheduling_commitment", "consumer_execution_readiness",
      "consumer_dispatch_readiness", "consumer_dispatch_authority", "consumer_dispatch_permission",
      "consumer_dispatch_clearance", "consumer_release_decision", "consumer_release_mode",
      "consumer_release_execution_requirement", "consumer_release_execution_lane"]
    "consumer_release_execution_lane" "consumer_release_handling_intent"
    [("blocked_lane", "do_not_route"), ("guarded_lane", "route_with_guard"),
      ("release_lane", "route_for_release")]

def buildConsumerReleaseActionPlanFromHandlingIntent : Builder :=
  labelBuilder
    ["projected_activation_decision", "approval_record", "receiver_readiness_classification",
      "receiver_handling_directive", "receiver_action_label", "receiver_dispatch_intent",
      "receiver_dispatch_mode", "receiver_release_gate", "receiver_progress_state",
      "receiver_progress_signal", "receiver_progress_outcome", "receiver_intervention_requirement",
      "receiver_attention_level", "receiver_notification_requirement", "receiver_response_priority",
      "receiver_response_channel", "receiver_response_route", "receiver_followup_requirement",
      "consumer_decision_posture", "consumer_action_requirement", "consumer_work_queue_assignment",
      "consumer_processing_plan", "consumer_operator_requirement", "consumer_assignment_lane",
      "consumer_service_tier", "consumer_sla_class", "consumer_response_window",
      "consumer_timing_posture", "consumer_scheduling_commitment", "consumer_execution_readiness",
      "consumer_dispatch_readiness", "consumer_dispatch_authority", "consumer_dispatch_permission",
      "consumer_dispatch_clearance", "consumer_release_decision", "consumer_release_mode",
      "consumer_release_execution_requirement", "consumer_release_execution_lane",
      "consumer_release_handling_intent"]
    "consumer_release_handling_intent" "consumer_release_action_plan"
    [("do_not_route", "hold_plan"), ("route_with_guard", "guarded_release_plan"),
      ("route_for_release", "release_plan")]

def buildConsumerReleaseQueueFromActionPlan : Builder :=
  labelBuilder
    ["projected_activation_decision", "approval_record", "receiver_readiness_classification",
      "receiver_handling_directive", "receiver_action_label", "receiver_dispatch_intent",
      "receiver_dispatch_mode", "receiver_release_gate", "receiver_progress_state",
      "receiver_progress_signal", "receiver_progress_outcome", "receiver_intervention_requirement",
      "receiver_attention_level", "receiver_notification_requirement", "receiver_response_priority",
      "receiver_response_channel", "receiver_response_route", "receiver_followup_requirement",
      "consumer_decision_posture", "consumer_action_requirement", "consumer_work_queue_assignment",
      "consumer_processing_plan", "consumer_operator_requirement", "consumer_assignment_lane",
      "consumer_service_tier", "consumer_sla_class", "consumer_response_window",
      "consumer_timing_posture", "consumer_scheduling_commitment", "consumer_execution_readiness",
      "consumer_dispatch_readiness", "consumer_dispatch_authority", "consumer_dispatch_permission",
      "consumer_dispatch_clearance", "consumer_release_decision", "consumer_release_mode",
      "consumer_release_execution_requirement", "consumer_release_execution_lane",
      "consumer_release_handling_intent", "consumer_release_action_plan"]
    "consumer_release_action_plan" "consumer_release_queue"
    [("hold_plan", "hold_queue"), ("guarded_release_plan", "guarded_release_queue"),
      ("release_plan", "release_queue")]

def buildConsumerReleasePriorityFromQueue : Builder :=
  labelBuilder
    ["projected_activation_decision", "approval_record", "receiver_readiness_classification",
      "receiver_handling_directive", "receiver_action_label", "receiver_dispatch_intent",
      "receiver_dispatch_mode", "receiver_release_gate", "receiver_progress_state",
      "receiver_progress_signal", "receiver_progress_outcome", "receiver_intervention_requirement",
      "receiver_attention_level", "receiver_notification_requirement", "receiver_response_priority",
      "receiver_response_channel", "receiver_response_route", "receiver_followup_requirement",
      "consumer_decision_posture", "consumer_action_requirement", "consumer_work_queue_assignment",
      "consumer_processing_plan", "consumer_operator_requirement", "consumer_assignment_lane",
      "consumer_service_tier", "consumer_sla_class", "consumer_response_window",
      "consumer_timing_posture", "consumer_scheduling_commitment", "consumer_execution_readiness",
      "consumer_dispatch_readiness", "consumer_dispatch_authority", "consumer_dispatch_permission",
      "consumer_dispatch_clearance", "consumer_release_decision", "consumer_release_mode",
      "consumer_release_execution_requirement", "consumer_release_execution_lane",
      "consumer_release_handling_intent", "consumer_release_action_plan", "consumer_release_queue"]
    "consumer_release_queue" "consumer_release_priority"
    [("hold_queue", "low"), ("guarded_release_queue", "medium"), ("release_queue", "high")]

def buildConsumerReleaseWindowFromPriority : Builder :=
  labelBuilder
    ["projected_activation_decision", "approval_record", "receiver_readiness_classification",
      "receiver_handling_directive", "receiver_action_label", "receiver_dispatch_intent",
      "receiver_dispatch_mode", "receiver_release_gate", "receiver_progress_state",
      "receiver_progress_signal", "receiver_progress_outcome", "receiver_intervention_requirement",
      "receiver_attention_level", "receiver_notification_requirement", "receiver_response_priority",
      "receiver_response_channel", "receiver_response_route", "receiver_followup_requirement",
      "consumer_decision_posture", "consumer_action_requirement", "consumer_work_queue_assignment",
      "consumer_processing_plan", "consumer_operator_requirement", "consumer_assignment_lane",
      "consumer_service_tier", "consumer_sla_class", "consumer_response_window",
      "consumer_timing_posture", "consumer_scheduling_commitment", "consumer_execution_readiness",
      "consumer_dispatch_readiness", "consumer_dispatch_authority", "consumer_dispatch_permission",
      "consumer_dispatch_clearance", "consumer_release_decision", "consumer_release_mode",
      "consumer_release_execution_requirement", "consumer_release_execution_lane",
      "consumer_release_handling_intent", "consumer_release_action_plan", "consumer_release_queue",
      "consumer_release_priority"]
    "consumer_release_priority" "consumer_release_window"
    [("low", "deferred_window"), ("medium", "controlled_window"), ("high", "immediate_window")]

def buildConsumerReleaseScheduleFromWindow : Builder :=
  labelBuilder
    ["projected_activation_decision", "approval_record", "receiver_readiness_classification",
      "receiver_handling_directive", "receiver_action_label", "receiver_dispatch_intent",
      "receiver_dispatch_mode", "receiver_release_gate", "receiver_progress_state",
      "receiver_progress_signal", "receiver_progress_outcome", "receiver_intervention_requirement",
      "receiver_attention_level", "receiver_notification_requirement", "receiver_response_priority",
      "receiver_response_channel", "receiver_response_route", "receiver_followup_requirement",
      "consumer_decision_posture", "consumer_action_requirement", "consumer_work_queue_assignment",
      "consumer_processing_plan", "consumer_operator_requirement", "consumer_assignment_lane",
      "consumer_service_tier", "consumer_sla_class", "consumer_response_window",
      "consumer_timing_posture", "consumer_scheduling_commitment", "consumer_execution_readiness",
      "consumer_dispatch_readiness", "consumer_dispatch_authority", "consumer_dispatch_permission",
      "consumer_dispatch_clearance", "consumer_release_decision", "consumer_release_mode",
      "consumer_release_execution_requirement", "consumer_release_execution_lane",
      "consumer_release_handling_intent", "consumer_release_action_plan", "consumer_release_queue",
      "consumer_release_priority", "consumer_release_window"]
    "consumer_release_window" "consumer_release_schedule"
    [("deferred_window", "backlog_schedule"), ("controlled_window", "guarded_schedule"),
      ("immediate_window", "immediate_schedule")]

def buildConsumerReleaseReadinessFromSchedule : Builder :=
  labelBuilder
    ["projected_activation_decision", "approval_record", "receiver_readiness_classification",
      "receiver_handling_directive", "receiver_action_label", "receiver_dispatch_intent",
      "receiver_dispatch_mode", "receiver_release_gate", "receiver_progress_state",
      "receiver_progress_signal", "receiver_progress_outcome", "receiver_intervention_requirement",
      "receiver_attention_level", "receiver_notification_requirement", "receiver_response_priority",
      "receiver_response_channel", "receiver_response_route", "receiver_followup_requirement",
      "consumer_decision_posture", "consumer_action_requirement", "consumer_work_queue_assignment",
      "consumer_processing_plan", "consumer_operator_requirement", "consumer_assignment_lane",
      "consumer_service_tier", "consumer_sla_class", "consumer_response_window",
      "consumer_timing_posture", "consumer_scheduling_commitment", "consumer_execution_readiness",
      "consumer_dispatch_readiness", "consumer_dispatch_authority", "consumer_dispatch_permission",
      "consumer_dispatch_clearance", "consumer_release_decision", "consumer_release_mode",
      "consumer_release_execution_requirement", "consumer_release_execution_lane",
      "consumer_release_handling_intent", "consumer_release_action_plan", "consumer_release_queue",
      "consumer_release_priority", "consumer_release_window", "consumer_release_schedule"]
    "consumer_release_schedule" "consumer_release_readiness"
    [("backlog_schedule", "not_ready"), ("guarded_schedule", "prepared"),
      ("immediate_schedule", "ready")]

def buildConsumerReleaseAuthorityFromReadiness : Builder :=
  labelBuilder
    ["projected_activation_decision", "approval_record", "receiver_readiness_classification",
      "receiver_handling_directive", "receiver_action_label", "receiver_dispatch_intent",
      "receiver_dispatch_mode", "receiver_release_gate", "receiver_progress_state",
      "receiver_progress_signal", "receiver_progress_outcome", "receiver_intervention_requirement",
      "receiver_attention_level", "receiver_notification_requirement", "receiver_response_priority",
      "receiver_response_channel", "receiver_response_route", "receiver_followup_requirement",
      "consumer_decision_posture", "consumer_action_requirement", "consumer_work_queue_assignment",
      "consumer_processing_plan", "consumer_operator_requirement", "consumer_assignment_lane",
      "consumer_service_tier", "consumer_sla_class", "consumer_response_window",
      "consumer_timing_posture", "consumer_scheduling_commitment", "consumer_execution_readiness",
      "consumer_dispatch_readiness", "consumer_dispatch_authority", "consumer_dispatch_permission",
      "consumer_dispatch_clearance", "consumer_release_decision", "consumer_release_mode",
      "consumer_release_execution_requirement", "consumer_release_execution_lane",
      "consumer_release_handling_intent", "consumer_release_action_plan", "consumer_release_queue",
      "consumer_release_priority", "consumer_release_window", "consumer_release_schedule",
      "consumer_release_readiness"]
    "consumer_release_readiness" "consumer_release_authority"
    [("not_ready", "withhold"), ("prepared", "conditional_authority"), ("ready", "full_authority")]

def buildConsumerReleasePermissionFromAuthority : Builder :=
  labelBuilder
    ["projected_activation_decision", "approval_record", "receiver_readiness_classification",
      "receiver_handling_directive", "receiver_action_label", "receiver_dispatch_intent",
      "receiver_dispatch_mode", "receiver_release_gate", "receiver_progress_state",
      "receiver_progress_signal", "receiver_progress_outcome", "receiver_intervention_requirement",
      "receiver_attention_level", "receiver_notification_requirement", "receiver_response_priority",
      "receiver_response_channel", "receiver_response_route", "receiver_followup_requirement",
      "consumer_decision_posture", "consumer_action_requirement", "consumer_work_queue_assignment",
      "consumer_processing_plan", "consumer_operator_requirement", "consumer_assignment_lane",
      "consumer_service_tier", "consumer_sla_class", "consumer_response_window",
      "consumer_timing_posture", "consumer_scheduling_commitment", "consumer_execution_readiness",
      "consumer_dispatch_readiness", "consumer_dispatch_authority", "consumer_dispatch_permission",
      "consumer_dispatch_clearance", "consumer_release_decision", "consumer_release_mode",
      "consumer_release_execution_requirement", "consumer_release_execution_lane",
      "consumer_release_handling_intent", "consumer_release_action_plan", "consumer_release_queue",
      "consumer_release_priority", "consumer_release_window", "consumer_release_schedule",
      "consumer_release_readiness", "consumer_release_authority"]
    "consumer_release_authority" "consumer_release_permission"
    [("withhold", "not_permitted"), ("conditional_authority", "conditionally_permitted"),
      ("full_authority", "permitted")]

def buildConsumerReleaseClearanceFromPermission : Builder :=
  labelBuilder
    ["projected_activation_decision", "approval_record", "receiver_readiness_classification",
      "receiver_handling_directive", "receiver_action_label", "receiver_dispatch_intent",
      "receiver_dispatch_mode", "receiver_release_gate", "receiver_progress_state",
      "receiver_progress_signal", "receiver_progress_outcome", "receiver_intervention_requirement",
      "receiver_attention_level", "receiver_notification_requirement", "receiver_response_priority",
      "receiver_response_channel", "receiver_response_route", "receiver_followup_requirement",
      "consumer_decision_posture", "consumer_action_requirement", "consumer_work_queue_assignment",
      "consumer_processing_plan", "consumer_operator_requirement", "consumer_assignment_lane",
      "consumer_service_tier", "consumer_sla_class", "consumer_response_window",
      "consumer_timing_posture", "consumer_scheduling_commitment", "consumer_execution_readiness",
      "consumer_dispatch_readiness", "consumer_dispatch_authority", "consumer_dispatch_permission",
      "consumer_dispatch_clearance", "consumer_release_decision", "consumer_release_mode",
      "consumer_release_execution_requirement", "consumer_release_execution_lane",
      "consumer_release_handling_intent", "consumer_release_action_plan", "consumer_release_queue",
      "consumer_release_priority", "consumer_release_window", "consumer_release_schedule",
      "consumer_release_readiness", "consumer_release_authority", "consumer_release_permission"]
    "consumer_release_permission" "consumer_release_clearance"
    [("not_permitted", "blocked"), ("conditionally_permitted", "gated"), ("permitted", "clear")]

/-! ### The whole chain -/

/-- From the envelope to the delivery manifest. -/
def deliveryBuilders : List Builder := [
    buildNextLayerIntakeFromHandoffEnvelope,
    buildDownstreamWorkItemFromIntake,
    buildDownstreamExecutionIntentFromWorkItem,
    buildExecutionReadinessViewFromIntent,
    buildExecutionReadinessAssessmentFromView,
    buildExecutionReadinessSignalFromAssessment,
    buildExecutionReadinessOutcomeFromSignal,
    buildDownstreamConsumerPayloadFromOutcome,
    buildConsumerReceiverIntakeFromPayload,
    buildConsumerReceiverReadinessViewFromIntake,
    buildConsumerReceiverReadinessAssessmentFromView,
    buildConsumerReceiverReadinessSignalFromAssessment,
    buildConsumerReceiverReadinessOutcomeFromSignal,
    buildConsumerReceiverDeliveryPayloadFromOutcome,
    buildConsumerReceiverDeliveryPacketFromPayload,
    buildConsumerReceiverDeliveryManifestFromPacket]

/-- From the classification to the release clearance. -/
def releaseBuilders : List Builder := [
    buildConsumerReceiverHandlingDirectiveFromClassification,
    buildConsumerReceiverActionLabelFromDirective,
    buildConsumerReceiverDispatchIntentFromActionLabel,
    buildConsumerReceiverDispatchModeFromIntent,
    buildConsumerReceiverReleaseGateFromDispatchMode,
    buildConsumerReceiverProgressStateFromReleaseGate,
    buildConsumerReceiverProgressSignalFromState,
    buildConsumerReceiverProgressOutcomeFromSignal,
    buildConsumerReceiverInterventionRequirementFromProgressOutcome,
    buildConsumerReceiverAttentionLevelFromInterventionRequirement,
    buildConsumerReceiverNotificationRequirementFromAttentionLevel,
    buildConsumerReceiverResponsePriorityFromNotificationRequirement,
    buildConsumerReceiverResponseChannelFromPriority,
    buildConsumerReceiverResponseRouteFromChannel,
    buildConsumerReceiverFollowupRequirementFromResponseRoute,
    buildConsumerDecisionSurfaceFromFollowupRequirement,
    buildConsumerDecisionPostureFromSurface,
    buildConsumerActionRequirementFromPosture,
    buildConsumerWorkQueueAssignmentFromActionRequirement,
    buildConsumerProcessingPlanFromWorkQueueAssignment,
    buildConsumerOperatorRequirementFromProcessingPlan,
    buildConsumerAssignmentLaneFromOperatorRequirement,
    buildConsumerServiceTierFromAssignmentLane,
    buildConsumerSlaClassFromServiceTier,
    buildConsumerResponseWindowFromSlaClass,
    buildConsumerTimingPostureFromResponseWindow,
    buildConsumerSchedulingCommitmentFromTimingPosture,
    buildConsumerExecutionReadinessFromSchedulingCommitment,
    buildConsumerDispatchReadinessFromExecutionReadiness,
    buildConsumerDispatchAuthorityFromReadiness,
    buildConsumerDispatchPermissionFromAuthority,
    buildConsumerDispatchClearanceFromPermission,
    buildConsumerReleaseDecisionFromDispatchClearance,
    buildConsumerReleaseModeFromReleaseDecision,
    buildConsumerReleaseExecutionRequirementFromReleaseMode,
    buildConsumerReleaseExecutionLaneFromExecutionRequirement,
    buildConsumerReleaseHandlingIntentFromExecutionLane,
    buildConsumerReleaseActionPlanFromHandlingIntent,
    buildConsumerReleaseQueueFromActionPlan,
    buildConsumerReleasePriorityFromQueue,
    buildConsumerReleaseWindowFromPriority,
    buildConsumerReleaseScheduleFromWindow,
    buildConsumerReleaseReadinessFromSchedule,
    buildConsumerReleaseAuthorityFromReadiness,
    buildConsumerReleasePermissionFromAuthority,
    buildConsumerReleaseClearanceFromPermission]

/-- The chain from the handoff envelope to the release clearance, each function applied to the last
    one's result. -/
def deliver (artifactBundle : DryRunDict)
    (relatedProjectId relatedActivationDecisionId relatedPacketId relatedQueueItemId :
      Option String) : Except PyError DryRunDict := do
  let envelope ← buildDryRunHandoffEnvelope artifactBundle relatedProjectId
    relatedActivationDecisionId relatedPacketId relatedQueueItemId
  let manifest ← runBuilders deliveryBuilders envelope
  let classification ← buildConsumerReceiverReadinessClassificationFromManifest manifest
  runBuilders releaseBuilders classification

end CodexOrchestrator
