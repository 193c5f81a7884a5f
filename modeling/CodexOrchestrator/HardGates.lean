import CodexOrchestrator.Services.ActivationDecision

/-!
# HardGates — a hard gate keeps the activation from being recommended

The blockers of an activation decision are the entries of the queue item without white space and
repetitions.  An active gate without entries counts as one blocker of its own.  Whether there are
entries is asked before the blank ones are dropped, so a gate whose entries are all blank is lost.
-/

open PyText

namespace CodexOrchestrator

/-- The triggers and the reasons of an item. -/
def ReviewQueueItem.entries (item : ReviewQueueItem) : List String :=
  item.hardGateTriggers ++ item.escalationReasons ++ item.escalationReason.toList

/-- The gate of the item is active, or one of its entries says something. -/
def ReviewQueueItem.Gated (item : ReviewQueueItem) : Prop :=
  item.hardGateStatus = true ∨ ∃ entry ∈ item.entries, strip entry ≠ ""

/-- A decision on an item that blocks: a gated item is not recommended and has a blocker; the
    blockers are distinct, trimmed and not blank, and every entry that is not blank is one. -/
structure Blocks (item : ReviewQueueItem) (decision : DryRunActivationDecision) : Prop where
  stopped : item.Gated → decision.recommendation ≠ .go
  blocked : item.Gated → decision.remainingBlockers ≠ []
  distinct : decision.remainingBlockers.Nodup
  trimmed : ∀ blocker ∈ decision.remainingBlockers, strip blocker = blocker ∧ blocker ≠ ""
  complete : ∀ entry ∈ item.entries, strip entry ≠ "" → strip entry ∈ decision.remainingBlockers

/-- The gate of the item is active, and it has entries (an empty reason is none), but only blank
    ones. -/
structure BlankGate (item : ReviewQueueItem) : Prop where
  active : item.hardGateStatus = true
  given : item.hardGateTriggers ≠ [] ∨ item.escalationReasons ≠ [] ∨
    ∃ reason, item.escalationReason = some reason ∧ reason ≠ ""
  blank : ∀ entry ∈ item.entries, strip entry = ""

/-! ## The blockers of an item -/

section Blockers

variable {item : ReviewQueueItem}

theorem blockerEntries_eq_nil_iff : blockerEntries item = [] ↔
    ¬ (item.hardGateTriggers ≠ [] ∨ item.escalationReasons ≠ [] ∨
      ∃ reason, item.escalationReason = some reason ∧ reason ≠ "") := by
  unfold blockerEntries
  cases hreason : item.escalationReason with
  | none => simp
  | some reason => by_cases hempty : reason = "" <;> simp [hempty]

/-- Only an empty reason is left out. -/
theorem mem_blockerEntries_iff {entry : String} (h : strip entry ≠ "") :
    entry ∈ blockerEntries item ↔ entry ∈ item.entries := by
  unfold blockerEntries ReviewQueueItem.entries
  cases hreason : item.escalationReason with
  | none => simp
  | some reason =>
      by_cases hempty : reason = ""
      · subst hempty
        have hne : entry ≠ "" := by
          rintro rfl
          exact h (by decide)
        simp [hne]
      · simp [hempty]

theorem mem_entries_of_mem_blockerEntries {entry : String} (h : entry ∈ blockerEntries item) :
    entry ∈ item.entries := by
  unfold blockerEntries at h
  unfold ReviewQueueItem.entries
  cases hreason : item.escalationReason with
  | none => simpa [hreason] using h
  | some reason =>
      by_cases hempty : reason = ""
      · rw [hreason] at h
        simp only [hempty, if_true] at h
        exact List.mem_append_left _ h
      · simpa [hreason, hempty] using h

/-- Without the default, the blockers are what the entries leave. -/
theorem collectUnresolvedBlockers_of_entries
    (h : ¬ (item.hardGateStatus = true ∧ blockerEntries item = [])) :
    collectUnresolvedBlockers item = distinctTrimmed (blockerEntries item) := by
  rw [collectUnresolvedBlockers, if_neg h, uniquePreserveOrder]

/-- An active gate without entries blocks under its own name. -/
theorem collectUnresolvedBlockers_of_no_entries (h : item.hardGateStatus = true)
    (hnone : blockerEntries item = []) :
    collectUnresolvedBlockers item = ["hard_gate_active"] := by
  rw [collectUnresolvedBlockers, hnone, if_pos ⟨h, rfl⟩]
  decide

theorem mem_collectUnresolvedBlockers {entry : String} (h : entry ∈ item.entries)
    (hblank : strip entry ≠ "") : strip entry ∈ collectUnresolvedBlockers item := by
  have hmem := (mem_blockerEntries_iff hblank).mpr h
  rw [collectUnresolvedBlockers_of_entries fun hc => by simp [hc.2] at hmem]
  exact mem_distinctTrimmed.mpr ⟨hblank, entry, hmem, rfl⟩

/-- The blockers of a gated item are lost exactly when its entries are all blank. -/
theorem collectUnresolvedBlockers_eq_nil_iff (hgated : item.Gated) :
    collectUnresolvedBlockers item = [] ↔ BlankGate item := by
  constructor
  · intro hnil
    -- an entry with a text would have been collected
    have hblank : ∀ entry ∈ item.entries, strip entry = "" := by
      intro entry hentry
      by_contra hne
      have hmem := mem_collectUnresolvedBlockers hentry hne
      rw [hnil] at hmem
      cases hmem
    have hactive : item.hardGateStatus = true := by
      rcases hgated with hactive | ⟨entry, hentry, hne⟩
      · exact hactive
      · exact absurd (hblank entry hentry) hne
    refine ⟨hactive, ?_, hblank⟩
    -- an active gate without entries gets the default blocker
    by_contra hgiven
    rw [collectUnresolvedBlockers_of_no_entries hactive
      (blockerEntries_eq_nil_iff.mpr hgiven)] at hnil
    cases hnil
  · intro hblank
    have hsome : blockerEntries item ≠ [] := fun hnone =>
      blockerEntries_eq_nil_iff.mp hnone hblank.given
    rw [collectUnresolvedBlockers_of_entries fun hc => hsome hc.2, distinctTrimmed_eq_nil_iff]
    exact fun entry hentry => hblank.blank entry (mem_entries_of_mem_blockerEntries hentry)

theorem collectUnresolvedBlockers_nodup (item : ReviewQueueItem) :
    (collectUnresolvedBlockers item).Nodup :=
  nodup_distinctTrimmed _

theorem trimmed_of_mem_collectUnresolvedBlockers {blocker : String}
    (h : blocker ∈ collectUnresolvedBlockers item) : strip blocker = blocker ∧ blocker ≠ "" :=
  ⟨strip_of_mem_distinctTrimmed h, (mem_distinctTrimmed.mp h).1⟩

end Blockers

/-- A GO that remains a GO met no blocker and no required review. -/
theorem recommendationFor_eq_go_iff {blockers : List String} {requiredReview : Bool}
    {decision : DecisionValue} :
    recommendationFor blockers requiredReview decision = .go ↔
      decision = .go ∧ blockers = [] ∧ requiredReview = false := by
  unfold recommendationFor
  split
  · rename_i h
    constructor
    · intro hgo
      cases hgo
    · rintro ⟨-, hnil, hreview⟩
      rcases h.2 with hne | htrue
      · exact absurd hnil hne
      · simp [hreview] at htrue
  · rename_i h
    constructor
    · intro hgo
      refine ⟨hgo, ?_, ?_⟩
      · by_contra hne
        exact h ⟨hgo, .inl hne⟩
      · rw [Bool.eq_false_iff]
        exact fun htrue => h ⟨hgo, .inr htrue⟩
    · exact fun hgo => hgo.1

/-! ## An active gate blocks, unless its entries are all blank -/

/-- A decision blocks what the item gates exactly when the item is not an active gate with only
    blank entries. -/
theorem deriveDryRunActivationDecision_blocks_iff (managementReviewPacket : ManagementReviewPacket)
    (reviewQueueItem : ReviewQueueItem) (managementDecision : ManagementDecisionRecord) :
    Blocks reviewQueueItem (deriveDryRunActivationDecision managementReviewPacket reviewQueueItem
      managementDecision) ↔ ¬ BlankGate reviewQueueItem := by
  constructor
  · intro hblocks hblank
    have hgated : reviewQueueItem.Gated := .inl hblank.active
    exact hblocks.blocked hgated ((collectUnresolvedBlockers_eq_nil_iff hgated).mpr hblank)
  · intro hnot
    have hblocked : reviewQueueItem.Gated → collectUnresolvedBlockers reviewQueueItem ≠ [] :=
      fun hgated hnil => hnot ((collectUnresolvedBlockers_eq_nil_iff hgated).mp hnil)
    exact {
      stopped := fun hgated hgo => hblocked hgated (recommendationFor_eq_go_iff.mp hgo).2.1
      blocked := hblocked
      distinct := collectUnresolvedBlockers_nodup reviewQueueItem
      trimmed := fun _ h => trimmed_of_mem_collectUnresolvedBlockers h
      complete := fun _ h hne => mem_collectUnresolvedBlockers h hne }

/-- An active gate whose one trigger is a blank: the activation is recommended. -/
theorem deriveDryRunActivationDecision_blank_gate :
    ∃ (managementReviewPacket : ManagementReviewPacket) (reviewQueueItem : ReviewQueueItem)
      (managementDecision : ManagementDecisionRecord),
      reviewQueueItem.hardGateStatus = true ∧
      (deriveDryRunActivationDecision managementReviewPacket reviewQueueItem
        managementDecision).recommendation = .go ∧
      (deriveDryRunActivationDecision managementReviewPacket reviewQueueItem
        managementDecision).remainingBlockers = [] :=
  ⟨{ packetId := "packet", projectId := "project", currentTask := "task", summarizedBrief := {}
     riskLevel := .high, departmentRoutingRecommendation := "management_department"
     hardGateStatus := true, hardGateTriggers := [" "], proposedNextAction := "wait"
     recommendation := .go, requiredReview := false },
   { itemId := "item", currentTask := "task", riskLevel := .high
     departmentRouting := "management_department", hardGateStatus := true
     hardGateTriggers := [" "], recommendation := .go },
   { itemId := "item", decision := .go, reviewerId := "reviewer", rationale := "reviewed" },
   rfl, by decide, by decide⟩

end CodexOrchestrator
