import CodexOrchestrator.Services.Triage

/-!
# TriageLaws — the triage against the continuation assessment, and against more areas

`triage_task` and `assess_continuation` write the same rules down twice and ask for the scope and the
verification in different orders.  They agree unless the task crosses departments, and a task that
changes more areas is never triaged more leniently.
-/

open PyText

namespace CodexOrchestrator

/-! ## The order of the outcomes -/

/-- GO, then PAUSE, then REVIEW. -/
def DecisionValue.rank : DecisionValue → Nat
  | .go => 0
  | .pause => 1
  | .review => 2

def RiskLevel.rank : RiskLevel → Nat
  | .low => 0
  | .medium => 1
  | .high => 2

theorem DecisionValue.rank_le_review (decision : DecisionValue) :
    decision.rank ≤ DecisionValue.review.rank := by
  cases decision <;> decide

theorem RiskLevel.rank_le_high (risk : RiskLevel) : risk.rank ≤ RiskLevel.high.rank := by
  cases risk <;> decide

/-! ## The areas -/

section Areas

variable {changedAreas changedAreas' : Finset String} {gate : HardGateTrigger}

theorem mem_normalizedAreas {name : String} : name ∈ normalizedAreas changedAreas ↔
    ∃ area ∈ changedAreas, strip area ≠ "" ∧ lower (strip area) = name := by
  simp only [normalizedAreas, Finset.mem_image, Finset.mem_filter, and_assoc]

/-- The areas that the triage normalizes are normalized again by the detection. -/
@[simp] theorem normalizedAreas_normalizedAreas (changedAreas : Finset String) :
    normalizedAreas (normalizedAreas changedAreas) = normalizedAreas changedAreas := by
  ext name
  rw [mem_normalizedAreas]
  constructor
  · rintro ⟨area, harea, -, rfl⟩
    obtain ⟨raw, hraw, hblank, rfl⟩ := mem_normalizedAreas.mp harea
    rw [strip_lower, strip_strip, lower_lower]
    exact mem_normalizedAreas.mpr ⟨raw, hraw, hblank, rfl⟩
  · intro hname
    obtain ⟨raw, -, hblank, rfl⟩ := mem_normalizedAreas.mp hname
    refine ⟨lower (strip raw), hname, ?_, ?_⟩
    · rwa [strip_lower, strip_strip, ne_eq, lower_eq_empty_iff]
    · rw [strip_lower, strip_strip, lower_lower]

theorem mem_detectHardGateTriggers : gate ∈ detectHardGateTriggers changedAreas ↔
    ∃ name ∈ normalizedAreas changedAreas, areaToHardGate.get? name = some gate := by
  simp only [detectHardGateTriggers, Finset.mem_biUnion, Option.mem_toFinset, Option.mem_def]

theorem normalizedAreas_mono (h : changedAreas ⊆ changedAreas') :
    normalizedAreas changedAreas ⊆ normalizedAreas changedAreas' := by
  intro name hname
  obtain ⟨area, harea, hrest⟩ := mem_normalizedAreas.mp hname
  exact mem_normalizedAreas.mpr ⟨area, h harea, hrest⟩

theorem detectHardGateTriggers_mono (h : changedAreas ⊆ changedAreas') :
    detectHardGateTriggers changedAreas ⊆ detectHardGateTriggers changedAreas' := by
  intro gate hgate
  obtain ⟨name, hname, hget⟩ := mem_detectHardGateTriggers.mp hgate
  exact mem_detectHardGateTriggers.mpr ⟨name, normalizedAreas_mono h hname, hget⟩

theorem detectHardGateTriggers_eq_empty_iff : detectHardGateTriggers changedAreas = ∅ ↔
    ∀ name ∈ normalizedAreas changedAreas, areaToHardGate.get? name = none := by
  constructor
  · intro hnone name hname
    cases hget : areaToHardGate.get? name with
    | none => rfl
    | some gate =>
        have hgate := mem_detectHardGateTriggers.mpr ⟨name, hname, hget⟩
        rw [hnone] at hgate
        exact absurd hgate (Finset.notMem_empty gate)
  · intro h
    refine Finset.eq_empty_of_forall_notMem fun gate hgate => ?_
    obtain ⟨name, hname, hget⟩ := mem_detectHardGateTriggers.mp hgate
    rw [h name hname] at hget
    cases hget

end Areas

/-! ## The outcome of a triage -/

section Outcomes

variable {context context' : TriageContext}

/-- The hard gates that a triage detects. -/
def TriageContext.hardGates (context : TriageContext) : Finset HardGateTrigger :=
  detectHardGateTriggers context.changedAreas

/-- The continuation context of a triage. -/
def TriageContext.continuation (context : TriageContext) : ContinuationContext where
  taskInActivePhase := context.taskInActivePhase
  nextStepClear := !context.ambiguousScope
  verificationPassed := context.verificationPassed
  hardGateTriggers := context.hardGates

/-- The two contexts differ in their areas only. -/
def TriageContext.SameFlags (context context' : TriageContext) : Prop :=
  context.taskInActivePhase = context'.taskInActivePhase ∧
    context.verificationPassed = context'.verificationPassed ∧
    context.ambiguousScope = context'.ambiguousScope

/-- The areas send the task to the management. -/
def TriageContext.Escalates (context : TriageContext) : Prop :=
  "cross_department" ∈ normalizedAreas context.changedAreas ∨ context.hardGates ≠ ∅

/-- Every area is of low risk, and there is one. -/
def TriageContext.LowRisk (context : TriageContext) : Prop :=
  normalizedAreas context.changedAreas ≠ ∅ ∧ normalizedAreas context.changedAreas ⊆ lowRiskAreas

instance (context : TriageContext) : Decidable context.Escalates :=
  inferInstanceAs (Decidable (_ ∨ _))

instance (context : TriageContext) : Decidable context.LowRisk :=
  inferInstanceAs (Decidable (_ ∧ _))

/-- The conditions under which the last branch of `triage_task` is taken. -/
def TriageContext.ReachesFallback (context : TriageContext) : Prop :=
  ¬ context.Escalates ∧ context.taskInActivePhase = true ∧ context.verificationPassed = true ∧
    context.ambiguousScope = false ∧ ¬ context.LowRisk ∧
    (assessContinuation context.continuation).decision ≠ .go

theorem detectHardGateTriggers_normalizedAreas (context : TriageContext) :
    detectHardGateTriggers (normalizedAreas context.changedAreas) = context.hardGates := by
  rw [detectHardGateTriggers, normalizedAreas_normalizedAreas, TriageContext.hardGates,
    detectHardGateTriggers]

theorem hardGateTriggers_triageTask (context : TriageContext) :
    (triageTask context).hardGateTriggers = context.hardGates := by
  rw [← detectHardGateTriggers_normalizedAreas]
  unfold triageTask
  dsimp only
  repeat' split
  all_goals rfl

/-- The decision and the risk of a triage. -/
def TriageContext.outcome (context : TriageContext) : ContinuationDecision × ContinuationRisk :=
  if context.Escalates ∨ context.taskInActivePhase = false then (.review, .high)
  else if context.verificationPassed = false ∨ context.ambiguousScope = true then (.pause, .medium)
  else (.go, if context.LowRisk then .low else .medium)

/-- The continuation is reviewed, paused and let go on as the triage is, crossing of departments
    aside. -/
theorem assessContinuation_decision (context : TriageContext) :
    (assessContinuation context.continuation).decision =
      if context.hardGates ≠ ∅ ∨ context.taskInActivePhase = false then .review
      else if context.verificationPassed = false ∨ context.ambiguousScope = true then .pause
      else .go := by
  unfold assessContinuation TriageContext.continuation
  dsimp only
  by_cases hgates : context.hardGates = ∅
  · cases context.taskInActivePhase <;> cases context.verificationPassed <;>
      cases context.ambiguousScope <;> simp [hgates]
  · simp [hgates]

/-- After the other branches the continuation goes on, so the last branch is not taken. -/
theorem not_reachesFallback (context : TriageContext) : ¬ context.ReachesFallback := by
  rintro ⟨hescalates, hphase, hverified, hscope, -, hcontinuation⟩
  refine hcontinuation ?_
  have hgates : context.hardGates = ∅ := by
    by_contra hne
    exact hescalates (.inr hne)
  simp [assessContinuation_decision, hgates, hphase, hverified, hscope]

theorem triageTask_outcome (context : TriageContext) :
    ((triageTask context).decision, (triageTask context).riskLevel) = context.outcome := by
  unfold triageTask TriageContext.outcome
  simp only [detectHardGateTriggers_normalizedAreas]
  by_cases hcross : "cross_department" ∈ normalizedAreas context.changedAreas
  · have hescalates : context.Escalates := .inl hcross
    rw [if_pos hcross, if_pos (.inl hescalates)]
  by_cases hgates : context.hardGates = ∅
  · have hescalates : ¬ context.Escalates := by
      rintro (h | h)
      · exact hcross h
      · exact h hgates
    rw [if_neg hcross, if_neg (not_not.mpr hgates)]
    cases hphase : context.taskInActivePhase with
    | false => simp
    | true =>
        cases hverified : context.verificationPassed with
        | false => simp [hescalates]
        | true =>
            cases hscope : context.ambiguousScope with
            | true => simp [hescalates]
            | false =>
                have hgo : (assessContinuation context.continuation).decision = .go := by
                  simp [assessContinuation_decision, hgates, hphase, hverified, hscope]
                rw [TriageContext.continuation, hphase, hverified, hscope, Bool.not_false] at hgo
                by_cases hlow : context.LowRisk
                · rw [if_pos hlow]
                  simp only [TriageContext.LowRisk] at hlow
                  simp [hescalates, hlow]
                · rw [if_neg hlow]
                  simp only [TriageContext.LowRisk] at hlow
                  simp [hescalates, hlow, hgo]
  · have hescalates : context.Escalates := .inr hgates
    rw [if_neg hcross, if_pos hgates, if_pos (.inl hescalates)]

theorem decision_triageTask (context : TriageContext) :
    (triageTask context).decision = context.outcome.1 :=
  congrArg Prod.fst (triageTask_outcome context)

theorem riskLevel_triageTask (context : TriageContext) :
    (triageTask context).riskLevel = context.outcome.2 :=
  congrArg Prod.snd (triageTask_outcome context)

/-- Unless the task crosses departments, the triage decides as the continuation does. -/
theorem decision_eq_continuation (context : TriageContext) : (triageTask context).decision =
    if "cross_department" ∈ normalizedAreas context.changedAreas then .review
    else (assessContinuation context.continuation).decision := by
  rw [decision_triageTask, assessContinuation_decision, TriageContext.outcome]
  by_cases hcross : "cross_department" ∈ normalizedAreas context.changedAreas
  · have hescalates : context.Escalates := .inl hcross
    rw [if_pos hcross, if_pos (.inl hescalates)]
  · have hescalates : context.Escalates ↔ context.hardGates ≠ ∅ := or_iff_right hcross
    simp only [if_neg hcross, hescalates]
    split
    · rfl
    · split <;> rfl

/-- A task goes on exactly when its areas are no matter of the management and its flags are good. -/
theorem decision_eq_go_iff (context : TriageContext) : (triageTask context).decision = .go ↔
    (∀ name ∈ normalizedAreas context.changedAreas,
      areaToHardGate.get? name = none ∧ name ≠ "cross_department") ∧
    context.taskInActivePhase = true ∧ context.verificationPassed = true ∧
    context.ambiguousScope = false := by
  have hareas : (∀ name ∈ normalizedAreas context.changedAreas,
      areaToHardGate.get? name = none ∧ name ≠ "cross_department") ↔ ¬ context.Escalates := by
    rw [TriageContext.Escalates, not_or, not_not, TriageContext.hardGates,
      detectHardGateTriggers_eq_empty_iff]
    constructor
    · exact fun h => ⟨fun hcross => (h _ hcross).2 rfl, fun name hname => (h name hname).1⟩
    · exact fun h name hname => ⟨h.2 name hname, fun he => h.1 (he ▸ hname)⟩
  rw [decision_triageTask, hareas, TriageContext.outcome]
  by_cases hescalates : context.Escalates
  · simp [hescalates]
  · cases context.taskInActivePhase <;> cases context.verificationPassed <;>
      cases context.ambiguousScope <;> simp [hescalates]

/-! ## More areas -/

theorem TriageContext.Escalates.mono (h : context.Escalates)
    (hsubset : context.changedAreas ⊆ context'.changedAreas) : context'.Escalates := by
  rcases h with hcross | hgates
  · exact .inl (normalizedAreas_mono hsubset hcross)
  · refine .inr fun hnone => hgates (Finset.subset_empty.mp ?_)
    exact hnone ▸ detectHardGateTriggers_mono hsubset

/-- Among fewer areas there is none of a higher risk. -/
theorem TriageContext.LowRisk.anti (h : context'.LowRisk)
    (hsubset : context.changedAreas ⊆ context'.changedAreas)
    (hnonblank : ∃ area ∈ context.changedAreas, strip area ≠ "") : context.LowRisk := by
  obtain ⟨area, harea, hblank⟩ := hnonblank
  refine ⟨fun hnone => ?_, (normalizedAreas_mono hsubset).trans h.2⟩
  have hname := mem_normalizedAreas.mpr ⟨area, harea, hblank, rfl⟩
  rw [hnone] at hname
  exact absurd hname (Finset.notMem_empty _)

theorem outcome_mono (hflags : context.SameFlags context')
    (hsubset : context.changedAreas ⊆ context'.changedAreas)
    (hnonblank : ∃ area ∈ context.changedAreas, strip area ≠ "") :
    context.outcome.1.rank ≤ context'.outcome.1.rank ∧
      context.outcome.2.rank ≤ context'.outcome.2.rank := by
  obtain ⟨hphase, hverified, hscope⟩ := hflags
  unfold TriageContext.outcome
  rw [hphase, hverified, hscope]
  by_cases hreview : context'.Escalates ∨ context'.taskInActivePhase = false
  · rw [if_pos hreview]
    exact ⟨DecisionValue.rank_le_review _, RiskLevel.rank_le_high _⟩
  -- the greater context is not reviewed, so the smaller one is not either
  have hless : ¬ (context.Escalates ∨ context'.taskInActivePhase = false) := by
    rintro (h | h)
    · exact hreview (.inl (h.mono hsubset))
    · exact hreview (.inr h)
  rw [if_neg hreview, if_neg hless]
  by_cases hpause : context'.verificationPassed = false ∨ context'.ambiguousScope = true
  · rw [if_pos hpause, if_pos hpause]
    exact ⟨le_refl _, le_refl _⟩
  rw [if_neg hpause, if_neg hpause]
  refine ⟨le_refl _, ?_⟩
  by_cases hlow : context'.LowRisk
  · rw [if_pos (hlow.anti hsubset hnonblank), if_pos hlow]
  · rw [if_neg hlow]
    dsimp only
    split <;> decide

/-- The triage decides as the continuation assessment does, lets a task go on exactly when nothing
    speaks against it, never falls through its branches, and is not more lenient with more areas. -/
theorem triageTask_laws :
    (∀ context : TriageContext, (triageTask context).decision =
      if "cross_department" ∈ normalizedAreas context.changedAreas then .review
      else (assessContinuation context.continuation).decision) ∧
    (∀ context : TriageContext, (triageTask context).decision = .go ↔
      (∀ name ∈ normalizedAreas context.changedAreas,
        areaToHardGate.get? name = none ∧ name ≠ "cross_department") ∧
      context.taskInActivePhase = true ∧ context.verificationPassed = true ∧
      context.ambiguousScope = false) ∧
    (∀ context : TriageContext, ¬ context.ReachesFallback) ∧
    ∀ context context' : TriageContext, context.SameFlags context' →
      context.changedAreas ⊆ context'.changedAreas →
      (∃ area ∈ context.changedAreas, strip area ≠ "") →
      (triageTask context).decision.rank ≤ (triageTask context').decision.rank ∧
      (triageTask context).riskLevel.rank ≤ (triageTask context').riskLevel.rank ∧
      (triageTask context).hardGateTriggers ⊆ (triageTask context').hardGateTriggers := by
  refine ⟨decision_eq_continuation, decision_eq_go_iff, not_reachesFallback, ?_⟩
  intro context context' hflags hsubset hnonblank
  obtain ⟨hdecision, hrisk⟩ := outcome_mono hflags hsubset hnonblank
  rw [decision_triageTask, decision_triageTask, riskLevel_triageTask, riskLevel_triageTask,
    hardGateTriggers_triageTask, hardGateTriggers_triageTask]
  exact ⟨hdecision, hrisk, detectHardGateTriggers_mono hsubset⟩

/-- A change of the documents that turns out to change the authentication as well, whose area is
    written with a space and a capital: it is reviewed. -/
theorem triageTask_laws_docs :
    (triageTask { changedAreas := {"docs", " Auth"} }).decision = .review ∧
    (triageTask { changedAreas := {"docs"} }).decision.rank ≤
      (triageTask { changedAreas := {"docs", " Auth"} }).decision.rank ∧
    (triageTask { changedAreas := {"docs"} }).riskLevel.rank ≤
      (triageTask { changedAreas := {"docs", " Auth"} }).riskLevel.rank ∧
    (triageTask { changedAreas := {"docs"} }).hardGateTriggers ⊆
      (triageTask { changedAreas := {"docs", " Auth"} }).hardGateTriggers :=
  ⟨by decide, triageTask_laws.2.2.2 { changedAreas := {"docs"} }
    { changedAreas := {"docs", " Auth"} } ⟨rfl, rfl, rfl⟩ (by decide) ⟨"docs", by decide, by decide⟩⟩

end Outcomes

end CodexOrchestrator
