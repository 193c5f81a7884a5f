import CodexOrchestrator.ReleaseChain

/-!
# DeliveryFrame — the delivery chain loses and alters nothing

Each function of the chain copies by hand what the last one left.  Applied to a bundle with any
decision and any of the related ids, none of them raises, and what one of them is given stands in
every later dict with the same value.
-/

namespace CodexOrchestrator

open Relabel

/-- The functions of the chain after the envelope. -/
def deliveryStages : List (DryRunDict → Except PyError DryRunDict) :=
  deliveryBuilders.map Builder.build ++
    buildConsumerReceiverReadinessClassificationFromManifest :: releaseBuilders.map Builder.build

theorem runBuilders_eq_run (builders : List Builder) (source : DryRunDict) :
    runBuilders builders source = Stages.run (builders.map Builder.build) source := by
  induction builders generalizing source with
  | nil => rfl
  | cons builder rest ih =>
      rw [runBuilders, List.map_cons, Stages.run]
      exact congrArg (builder.build source >>= ·) (funext ih)

/-! ## The envelope -/

/-- What the envelope is made from: the artifacts of the bundle and the ids that are given. -/
def handoffInput (artifactBundle : DryRunDict)
    (projectId activationDecisionId packetId queueItemId : Option String) (key : String) :
    Option (DictValue DryRunArtifact) :=
  (artifactBundle.get? key).or
    (([("related_project_id", projectId), ("related_activation_decision_id", activationDecisionId),
      ("related_packet_id", packetId), ("related_queue_item_id", queueItemId)].lookup key).join.map
        DictValue.text)

theorem get?_setIfGiven (key : String) (value : Option String) (target : DryRunDict)
    (other : String) : (setIfGiven key value target).get? other =
      if other = key then (value.map DictValue.text).or (target.get? other)
      else target.get? other := by
  unfold setIfGiven
  cases value with
  | none => rw [Option.map_none, Option.none_or, ite_self]
  | some s => rw [Dict.get?_set, Option.map_some, Option.some_or]

theorem get?_toDict_of_notMem (bundle : DryRunArtifactBundle) {key : String}
    (h : key ∉ artifactKeys) : bundle.toDict.get? key = none := by
  rw [artifactKeys, List.mem_pair, not_or] at h
  unfold DryRunArtifactBundle.toDict Dict.get?
  rw [Dict.lookup_cons_of_ne _ _ h.1, Dict.lookup_cons_of_ne _ _ h.2, List.lookup_nil]

/-- The envelope holds what it is made from and nothing else. -/
theorem get?_handoffEnvelope (bundle : DryRunArtifactBundle)
    (projectId activationDecisionId packetId queueItemId : Option String) :
    ∃ envelope, buildDryRunHandoffEnvelope bundle.toDict projectId activationDecisionId packetId
        queueItemId = .ok envelope ∧ ∀ key, envelope.get? key =
      handoffInput bundle.toDict projectId activationDecisionId packetId queueItemId key := by
  have hbundle : ∀ key ∈ artifactKeys, (bundle.toDict.get? key).isSome := by
    intro key hkey
    rcases List.mem_pair.mp hkey with rfl | rfl
    · rfl
    · rfl
  obtain ⟨copies, hcopies, hget⟩ := Dict.copyKeys_ok hbundle Dict.empty
  unfold buildDryRunHandoffEnvelope
  rw [hcopies, Raise.ok_bind]
  refine ⟨_, rfl, fun key => ?_⟩
  simp only [get?_setIfGiven, hget]
  by_cases hartifact : key ∈ artifactKeys
  · rcases List.mem_pair.mp hartifact with rfl | rfl
    · rfl
    · rfl
  · rw [if_neg hartifact, handoffInput, get?_toDict_of_notMem bundle hartifact, Option.none_or]
    by_cases hproject : key = "related_project_id"
    · subst hproject
      cases projectId <;> rfl
    by_cases hactivation : key = "related_activation_decision_id"
    · subst hactivation
      cases activationDecisionId <;> rfl
    by_cases hpacket : key = "related_packet_id"
    · subst hpacket
      cases packetId <;> rfl
    by_cases hqueue : key = "related_queue_item_id"
    · subst hqueue
      cases queueItemId <;> rfl
    rw [if_neg hqueue, if_neg hpacket, if_neg hactivation, if_neg hproject,
      Dict.lookup_cons_of_ne _ _ hproject, Dict.lookup_cons_of_ne _ _ hactivation,
      Dict.lookup_cons_of_ne _ _ hpacket, Dict.lookup_cons_of_ne _ _ hqueue]
    rfl

theorem handoffInput_within (bundle : DryRunArtifactBundle)
    (projectId activationDecisionId packetId queueItemId : Option String) {key : String}
    (h : handoffInput bundle.toDict projectId activationDecisionId packetId queueItemId key ≠ none) :
    key ∈ artifactKeys ++ relatedIds := by
  by_contra hkey
  rw [List.mem_append, not_or] at hkey
  obtain ⟨hartifact, hrelated⟩ := hkey
  simp only [relatedIds, List.mem_cons, List.not_mem_nil, or_false, not_or] at hrelated
  obtain ⟨hproject, hactivation, hpacket, hqueue⟩ := hrelated
  refine h ?_
  rw [handoffInput, get?_toDict_of_notMem bundle hartifact,
    Dict.lookup_cons_of_ne _ _ hproject, Dict.lookup_cons_of_ne _ _ hactivation,
    Dict.lookup_cons_of_ne _ _ hpacket, Dict.lookup_cons_of_ne _ _ hqueue]
  rfl

/-! ## The stages -/

/-- The functions of the chain that are builders all copy the related ids if they are there. -/
theorem present_deliveryBuilders : ∀ builder ∈ deliveryBuilders, builder.present = relatedIds := by
  have hpresent : deliveryBuilders.map Builder.present = List.replicate 16 relatedIds := rfl
  intro builder hbuilder
  exact List.eq_of_mem_replicate (hpresent ▸ List.mem_map_of_mem hbuilder)

theorem present_releaseBuilders : ∀ builder ∈ releaseBuilders, builder.present = relatedIds := by
  have hpresent : releaseBuilders.map Builder.present = List.replicate 46 relatedIds := rfl
  intro builder hbuilder
  exact List.eq_of_mem_replicate (hpresent ▸ List.mem_map_of_mem hbuilder)

/-- What stands in a dict stands in every later one. -/
theorem kept_of_chain {stages : List (DryRunDict → Except PyError DryRunDict)}
    {source final : DryRunDict} (h : Stages.Chain (Extends relatedIds) stages source final) :
    ∀ key value, source.get? key = some value → final.get? key = some value :=
  h.lift (S := fun a b : DryRunDict => ∀ key value, a.get? key = some value →
      b.get? key = some value) (fun _ _ _ hvalue => hvalue)
    fun _ _ _ hstep hrest key value hvalue => hrest key value (hstep.kept key value hvalue)

/-- An id that was not given is in no later dict. -/
theorem absent_of_chain {stages : List (DryRunDict → Except PyError DryRunDict)}
    {source final : DryRunDict} (h : Stages.Chain (Extends relatedIds) stages source final) :
    ∀ key ∈ relatedIds, source.get? key = none → final.get? key = none :=
  h.lift (S := fun a b : DryRunDict => ∀ key ∈ relatedIds, a.get? key = none →
      b.get? key = none) (fun _ _ _ hnone => hnone)
    fun _ _ _ hstep hrest key hkey hnone => hrest key hkey (hstep.absent key hkey hnone)

/-- The classification adds its label to the manifest. -/
theorem classification_extends {manifest out : DryRunDict} {decision : DryRunActivationDecision}
    (h : ∀ key ∈ artifactKeys, (manifest.get? key).isSome)
    (hdecision : manifest.get? "projected_activation_decision" =
      some (.object (.activationDecision decision)))
    (hwithin : Within (artifactKeys ++ relatedIds) manifest)
    (hout : buildConsumerReceiverReadinessClassificationFromManifest manifest = .ok out) :
    Extends relatedIds manifest out ∧ Within (classificationKeys ++ relatedIds) out := by
  obtain ⟨out', hout', hget⟩ := get?_classification h hdecision
  rw [hout] at hout'
  rw [← Except.ok.inj hout'] at hget
  refine extends_of_same hwithin
    (by decide : ["receiver_readiness_classification"].length ≤ 1) ?_ ?_
  · intro key hkey
    have hne : key ≠ "receiver_readiness_classification" := by
      rintro rfl
      exact absurd hkey (by decide)
    rw [hget, if_neg hne, if_pos hkey]
  · intro key hkey hsome
    rw [List.mem_singleton]
    by_contra hne
    rw [hget, if_neg hne, if_neg hkey] at hsome
    exact hsome rfl

/-- The whole chain on an envelope that holds what a bundle was handed off with. -/
theorem chain_deliveryStages (bundle : DryRunArtifactBundle)
    (projectId activationDecisionId packetId queueItemId : Option String) {envelope : DryRunDict}
    (h : ∀ key, envelope.get? key =
      handoffInput bundle.toDict projectId activationDecisionId packetId queueItemId key) :
    ∃ final, Stages.Chain (Extends relatedIds) deliveryStages envelope final := by
  have hwithin : Within (artifactKeys ++ relatedIds) envelope := by
    intro key hkey
    rw [h] at hkey
    exact handoffInput_within bundle _ _ _ _ hkey
  have hartifacts : ∀ key ∈ artifactKeys, (envelope.get? key).isSome := by
    intro key hkey
    rw [h]
    rcases List.mem_pair.mp hkey with rfl | rfl
    · rfl
    · rfl
  obtain ⟨manifest, hdelivery, hcarries, hmanifest⟩ := chain_of_relabel deliveryBuilders_linked
    present_deliveryBuilders (Carries.nil hartifacts) hwithin rfl
  have hdecision : manifest.get? "projected_activation_decision" =
      some (.object (.activationDecision bundle.projectedActivationDecision)) := by
    refine kept_of_chain hdelivery _ _ ?_
    rw [h]
    rfl
  obtain ⟨classification, hclassification, hlabels⟩ := classification_ok hcarries.has hdecision
  obtain ⟨hextends, hclassified⟩ :=
    classification_extends hcarries.has hdecision hmanifest hclassification
  obtain ⟨final, hrelease, -, -⟩ := chain_of_relabel releaseBuilders_linked present_releaseBuilders
    hlabels hclassified (relabel_releaseBuilders _)
  exact ⟨final, hdelivery.append (.cons hclassification hextends hrelease)⟩

theorem deliver_eq (artifactBundle : DryRunDict)
    (projectId activationDecisionId packetId queueItemId : Option String) :
    deliver artifactBundle projectId activationDecisionId packetId queueItemId =
      buildDryRunHandoffEnvelope artifactBundle projectId activationDecisionId packetId
        queueItemId >>= Stages.run deliveryStages := by
  unfold deliver
  refine congrArg _ (funext fun envelope => ?_)
  rw [deliveryStages, Stages.run_append, runBuilders_eq_run]
  refine congrArg _ (funext fun manifest => ?_)
  exact congrArg _ (funext fun classification => runBuilders_eq_run releaseBuilders classification)

/-- The delivery chain loses and alters nothing: the envelope holds the artifacts and the ids that
    are given; no stage after it raises, and each keeps every key of the dict that it is given with
    its value, adds at most one and leaves an absent id absent; so the clearance at the end has what
    stood in any dict on the way. -/
theorem deliver_frame (bundle : DryRunArtifactBundle)
    (projectId activationDecisionId packetId queueItemId : Option String) :
    ∃ envelope final,
      buildDryRunHandoffEnvelope bundle.toDict projectId activationDecisionId packetId queueItemId =
        .ok envelope ∧
      (∀ key, envelope.get? key =
        handoffInput bundle.toDict projectId activationDecisionId packetId queueItemId key) ∧
      (∀ before stage after, deliveryStages = before ++ stage :: after →
        ∃ source out, Stages.run before envelope = .ok source ∧ stage source = .ok out ∧
          Extends relatedIds source out) ∧
      deliver bundle.toDict projectId activationDecisionId packetId queueItemId = .ok final ∧
      (∀ before after source, deliveryStages = before ++ after →
        Stages.run before envelope = .ok source →
        ∀ key value, source.get? key = some value → final.get? key = some value) ∧
      final.get? "projected_activation_decision" =
        some (.object (.activationDecision bundle.projectedActivationDecision)) ∧
      final.get? "approval_record" = some (.object (.approvalRecord bundle.approvalRecord)) ∧
      ∀ key ∈ relatedIds, final.get? key =
        handoffInput bundle.toDict projectId activationDecisionId packetId queueItemId key := by
  obtain ⟨envelope, henvelope, hinput⟩ :=
    get?_handoffEnvelope bundle projectId activationDecisionId packetId queueItemId
  obtain ⟨final, hchain⟩ := chain_deliveryStages bundle _ _ _ _ hinput
  refine ⟨envelope, final, henvelope, hinput, ?_, ?_, ?_, ?_, ?_, ?_⟩
  · intro before stage after hstages
    obtain ⟨source, hbefore, hafter⟩ := (hstages ▸ hchain).split
    cases hafter with
    | cons ran step _ => exact ⟨source, _, hbefore.run_eq, ran, step⟩
  · rw [deliver_eq, henvelope, Raise.ok_bind, hchain.run_eq]
  · intro before after source hstages hrun
    obtain ⟨mid, hbefore, hafter⟩ := (hstages ▸ hchain).split
    rw [hbefore.run_eq] at hrun
    rw [← Except.ok.inj hrun]
    exact kept_of_chain hafter
  · exact kept_of_chain hchain _ _ ((hinput _).trans rfl)
  · exact kept_of_chain hchain _ _ ((hinput _).trans rfl)
  · intro key hkey
    rw [← hinput]
    cases hvalue : envelope.get? key with
    | none => exact absent_of_chain hchain key hkey hvalue
    | some value => exact kept_of_chain hchain key value hvalue

end CodexOrchestrator
