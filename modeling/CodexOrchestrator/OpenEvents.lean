import CodexOrchestrator.Db.Queries
import CodexOrchestrator.Lib.JoinedLines
import CodexOrchestrator.MonitorEvents

/-!
# OpenEvents — which monitor events are open, and the last success of the live cycle

A key is open when the last call that set its status opened it, and its row shows what that call wrote.
All queries for open events see one set of such rows.  The last success of the live cycle is read from
the details that were last written for its key.  Both hold as long as no `resolve_event` works on an
object that hides what it would have to write.
-/

namespace CodexOrchestrator

open MonitorEventRepository

variable {τ : Type}

/-! ## The last opening -/

/-- What an `upsert_open_event` writes. -/
structure Opening (τ : Type) where
  args : MonitorEventArgs τ
  releaseId : Option String
  marketTicker : Option String

namespace MonitorStep

def opening? : MonitorStep τ → Option (Opening τ)
  | call (.upsertOpenEvent _ args releaseId marketTicker) => some ⟨args, releaseId, marketTicker⟩
  | _ => none

/-- The step sets the status of the row of its key. -/
def setsStatus : MonitorStep τ → Bool
  | call (.markAlertSent _ _) | find _ | release _ => false
  | _ => true

end MonitorStep

section Opening

variable (values : MonitorValues)

/-- The opening that the last call that set the status of the key was. -/
def lastOpening (key : String) (steps : List (MonitorStep τ)) : Option (Opening τ) :=
  (steps.filter fun step => key = step.key values ∧ step.setsStatus = true).getLast?.bind
    MonitorStep.opening?

theorem lastOpening_concat (key : String) (steps : List (MonitorStep τ)) (step : MonitorStep τ) :
    lastOpening values key (steps ++ [step]) =
      if key = step.key values ∧ step.setsStatus = true then step.opening?
      else lastOpening values key steps := by
  rw [lastOpening, Query.filter_concat fun step : MonitorStep τ =>
    key = step.key values ∧ step.setsStatus = true]
  split
  · rw [List.getLast?_concat, Option.bind_some]
  · rfl

/-- The row shows what the opening wrote. -/
structure Shows (opening : Opening τ) (row : MonitorEvent τ) : Prop where
  status : row.status = values.openStatus
  monitorType : row.monitorType = opening.args.monitorType
  component : row.component = opening.args.component
  severity : row.severity = opening.args.severity
  title : row.title = opening.args.title
  message : row.message = opening.args.message
  releaseId : row.releaseId = opening.releaseId
  marketTicker : row.marketTicker = opening.marketTicker
  detailsJson : row.detailsJson = opening.args.detailsJson
  lastSeen : row.lastSeenAtUtc = opening.args.nowUtc
  resolvedAt : row.resolvedAtUtc = none

/-- The row of a key with the given last opening. -/
inductive LeftBy : Option (Opening τ) → Option (MonitorEvent τ) → Prop
  | opened {opening : Opening τ} {row : MonitorEvent τ} (shows : Shows values opening row) :
      LeftBy (some opening) (some row)
  | resolved {row : MonitorEvent τ} (status : row.status = values.resolvedStatus) :
      LeftBy none (some row)
  | unknown : LeftBy none none

variable [DecidableEq τ] {values} {isoformat : τ → String}

variable (isoformat) in
/-- One informed step keeps the row as its last opening left it. -/
theorem LeftBy.effect {opening : Option (Opening τ)} {slot : Slot (MonitorEvent τ)}
    (h : LeftBy values opening slot.row) (step : MonitorStep τ)
    (hinformed : Informed values slot step) :
    LeftBy values (if step.setsStatus = true then step.opening? else opening)
      (step.effect values isoformat slot).row := by
  obtain ⟨row, held⟩ := slot
  cases step with
  | find dedupeKey => cases row <;> exact h
  | release dedupeKey => exact h
  | call call =>
      cases call with
      | upsertOpenEvent eventId args releaseId marketTicker =>
          cases row <;> exact .opened ⟨rfl, rfl, rfl, rfl, rfl, rfl, rfl, rfl, rfl, rfl, rfl⟩
      | upsertResolvedEvent eventId args => cases row <;> exact .resolved rfl
      | recordLiveCycleSuccess eventId nowUtc => cases row <;> exact .resolved rfl
      | resolveEvent dedupeKey nowUtc detailsJson =>
          cases row with
          | none => exact .unknown
          | some row =>
              -- where the status is not written, the row shows the event resolved as its object does
              rcases Column.write_cases (held.getD row).status values.resolvedStatus row.status with
                hwritten | ⟨hobject, hkept⟩
              · exact .resolved hwritten
              · exact .resolved (hkept.trans (resolved_of_object hinformed rfl hobject.symm))
      | markAlertSent dedupeKey sentAtUtc =>
          cases h with
          | unknown => exact .unknown
          | resolved status => exact .resolved ((Column.write_unchanged _ _).trans status)
          | opened shows =>
              obtain ⟨h₁, h₂, h₃, h₄, h₅, h₆, h₇, h₈, h₉, h₁₀, h₁₁⟩ := shows
              exact .opened ⟨(Column.write_unchanged _ _).trans h₁,
                (Column.write_unchanged _ _).trans h₂, (Column.write_unchanged _ _).trans h₃,
                (Column.write_unchanged _ _).trans h₄, (Column.write_unchanged _ _).trans h₅,
                (Column.write_unchanged _ _).trans h₆, (Column.write_unchanged _ _).trans h₇,
                (Column.write_unchanged _ _).trans h₈, (Column.write_unchanged _ _).trans h₉,
                (Column.write_unchanged _ _).trans h₁₀, (Column.write_unchanged _ _).trans h₁₁⟩

theorem leftBy_slotAfter (key : String) {steps : List (MonitorStep τ)}
    (hinformed : InformedRun values isoformat steps) :
    LeftBy values (lastOpening values key steps) (slotAfter values isoformat key steps).row := by
  induction steps using List.reverseRecOn with
  | nil => exact .unknown
  | append_singleton steps step ih =>
      obtain ⟨hearlier, hstep⟩ := EachSlot.of_concat hinformed
      rw [lastOpening_concat, slotAfter_concat]
      by_cases hkey : key = step.key values
      · rw [if_pos hkey]
        rw [← hkey] at hstep
        have heffect := (ih hearlier).effect isoformat step hstep
        simpa only [hkey, true_and] using heffect
      · rw [if_neg hkey, if_neg fun h => hkey h.1]
        exact ih hearlier

end Opening

/-! ## The queries for open events -/

section Queries

variable {values : MonitorStatuses}

/-- No call acknowledges or suppresses an event. -/
theorem LeftBy.mem_openLike_iff {opening : Option (Opening τ)} {row : MonitorEvent τ}
    (h : LeftBy values.toMonitorValues opening (some row)) :
    row.status ∈ values.openLike ↔ row.status = values.openStatus := by
  cases h with
  | opened shows =>
      rw [shows.status]
      exact iff_of_true List.mem_cons_self rfl
  | resolved status =>
      rw [status]
      refine iff_of_false (fun hmem => ?_) values.statuses_ne.symm
      simp only [MonitorStatuses.openLike, List.mem_cons, List.not_mem_nil, or_false] at hmem
      rcases hmem with hopen | hacknowledged | hsuppressed
      · exact values.statuses_ne hopen.symm
      · exact values.acknowledged_ne hacknowledged.symm
      · exact values.suppressed_ne hsuppressed.symm

/-- The row is open when there is a last opening. -/
theorem LeftBy.exists_iff {opening : Option (Opening τ)} {row : Option (MonitorEvent τ)}
    (h : LeftBy values.toMonitorValues opening row) :
    (∃ event ∈ row, event.status ∈ values.openLike) ↔ opening.isSome := by
  cases h with
  | unknown => exact iff_of_false (fun ⟨event, hevent, _⟩ => by cases hevent) (fun hsome => by cases hsome)
  | opened shows =>
      exact iff_of_true ⟨_, rfl, (LeftBy.opened shows).mem_openLike_iff.mpr shows.status⟩ rfl
  | resolved status =>
      refine iff_of_false ?_ fun hsome => by cases hsome
      rintro ⟨event, hevent, hopen⟩
      cases hevent
      rw [(LeftBy.resolved status).mem_openLike_iff, status] at hopen
      exact values.statuses_ne hopen.symm

theorem isOpen_eq (key : String) (session : MonitorSession τ) :
    isOpen values key session =
      .ok ((session.table.get? key).any fun row => row.status ∈ values.openLike) := by
  rw [isOpen, session.table.filter_key, scalarOneOrNone_take_one, Raise.ok_bind]
  cases session.table.get? key <;> rfl

/-- After any informed steps there is one set of open rows, one for each key whose last status was set
    by an opening, and showing what it wrote.  `list_open_like` gives out the objects of the first of
    them in an order by the time they were last seen, latest first; rows that were last seen at one time
    come in any order.  `is_open` and the counts are read off the same rows. -/
theorem open_queries_runMonitor [LinearOrder τ] (values : MonitorStatuses) (isoformat : τ → String)
    (steps : List (MonitorStep τ))
    (hinformed : InformedRun values.toMonitorValues isoformat steps) :
    ∃ session, runMonitor values.toMonitorValues isoformat steps = .ok session ∧
      ∃ opened : List (MonitorEvent τ),
        (opened.map MonitorEvent.dedupeKey).Nodup ∧
        (∀ key, key ∈ opened.map MonitorEvent.dedupeKey ↔
          (lastOpening values.toMonitorValues key steps).isSome) ∧
        (∀ row ∈ opened, ∃ opening ∈ lastOpening values.toMonitorValues row.dedupeKey steps,
          Shows values.toMonitorValues opening row) ∧
        (∀ limit scan, ∃ listed : List (MonitorEvent τ), listed.Perm opened ∧
          (listed.Pairwise fun a b => b.lastSeenAtUtc ≤ a.lastSeenAtUtc) ∧
          listOpenLike values limit session scan = session.objects (listed.take limit)) ∧
        (∀ row ∈ opened, (session.slot row.dedupeKey).UpToDate → session.object row = row) ∧
        (∀ key, isOpen values key session =
          .ok (decide (key ∈ opened.map MonitorEvent.dedupeKey))) ∧
        countByStatuses values.openLike session = opened.length ∧
        ∀ severity, countOpenBySeverity values severity session =
          (opened.filter fun row => row.severity = severity).length := by
  obtain ⟨session, hrun, hslots⟩ := runMonitor_spec values.toMonitorValues isoformat steps
  have hleft : ∀ key, LeftBy values.toMonitorValues (lastOpening values.toMonitorValues key steps)
      (session.table.get? key) := fun key => by
    have hrow : session.table.get? key =
        (slotAfter values.toMonitorValues isoformat key steps).row := congrArg Slot.row (hslots key)
    rw [hrow]
    exact leftBy_slotAfter key hinformed
  have hleftRow : ∀ row ∈ session.table.rows, LeftBy values.toMonitorValues
      (lastOpening values.toMonitorValues row.dedupeKey steps) (some row) := fun row hrow =>
    Indexed.mem_rows_iff.mp hrow ▸ hleft row.dedupeKey
  let opened := session.table.rows.filter fun row => row.status ∈ values.openLike
  have hmem : ∀ row, row ∈ opened ↔ row ∈ session.table.rows ∧ row.status ∈ values.openLike :=
    fun row => by rw [List.mem_filter, decide_eq_true_eq]
  have hkey : ∀ key, key ∈ opened.map MonitorEvent.dedupeKey ↔
      ∃ row ∈ session.table.get? key, row.status ∈ values.openLike := fun key => by
    simp only [List.mem_map, hmem, Option.mem_def, Indexed.get?_eq_some_iff]
    exact exists_congr fun row => and_right_comm
  refine ⟨session, hrun, opened, ?_, fun key => ?_, fun row hrow => ?_, fun limit scan => ?_,
    fun row hrow hcurrent => ?_, fun key => ?_, ?_, fun severity => ?_⟩
  · exact session.table.unique.sublist (List.filter_sublist.map _)
  · exact (hkey key).trans (hleft key).exists_iff
  · obtain ⟨hrow, hopen⟩ := (hmem row).mp hrow
    have hrowLeft := hleftRow row hrow
    obtain ⟨opening, hopening⟩ := Option.isSome_iff_exists.mp (hrowLeft.exists_iff.mp ⟨row, rfl, hopen⟩)
    rw [hopening] at hrowLeft
    cases hrowLeft with
    | opened shows => exact ⟨opening, hopening, shows⟩
  · refine ⟨Query.orderByDesc MonitorEvent.lastSeenAtUtc (scan.rows.filter fun row =>
      row.status ∈ values.openLike), ?_, Query.orderByDesc_pairwise _ _, rfl⟩
    exact (Query.orderByDesc_perm _ _).trans (scan.perm.filter _)
  · have hstored := Indexed.mem_rows_iff.mp ((hmem row).mp hrow).1
    exact (session.object_eq_slot row).trans (hcurrent.object_eq hstored)
  · rw [isOpen_eq, Except.ok.injEq, Bool.eq_iff_iff, Option.any_eq_true, decide_eq_true_eq, hkey]
    simp only [decide_eq_true_eq, Option.mem_def]
  · have hne : values.openLike ≠ [] := List.cons_ne_nil _ _
    rw [countByStatuses, if_neg hne]
  · have hsame : opened.filter (fun row => row.severity = severity) =
        session.table.rows.filter fun row =>
          row.status = values.openStatus ∧ row.severity = severity := by
      rw [List.filter_filter]
      refine List.filter_congr fun row hrow => ?_
      rw [Bool.eq_iff_iff, Bool.and_eq_true, decide_eq_true_eq, decide_eq_true_eq, decide_eq_true_eq,
        (hleftRow row hrow).mem_openLike_iff]
      exact And.comm
    rw [countOpenBySeverity, ← hsame]

def sampleStatuses : MonitorStatuses where
  toMonitorValues := sampleValues
  acknowledgedStatus := "acknowledged"
  suppressedStatus := "suppressed"
  acknowledged_ne := by decide
  suppressed_ne := by decide

/-- Two events that are last seen at one time: the database may list either first. -/
theorem open_queries_runMonitor_stalled : ∃ session,
    runMonitor sampleValues toString
      (sampleSteps ++ [sampleOpening "e-4" 5,
        .call (.upsertOpenEvent "e-5" ⟨"feed", "feed", "warning", "feed", "Late", "", [], 5⟩ none none)]) =
        .ok session ∧
      isOpen sampleStatuses "live_cycle_stalled" session = .ok true ∧
      isOpen sampleStatuses "unknown" session = .ok false ∧
      ∀ scan, (listOpenLike sampleStatuses 1 session scan).length = 1 := by
  obtain ⟨session, hrun, opened, -, hkeys, -, hlist, -, hopen, hcount, -⟩ :=
    open_queries_runMonitor sampleStatuses toString
      (sampleSteps ++ [sampleOpening "e-4" 5,
        .call (.upsertOpenEvent "e-5" ⟨"feed", "feed", "warning", "feed", "Late", "", [], 5⟩ none none)])
      (by decide)
  refine ⟨session, hrun, ?_, ?_, fun scan => ?_⟩
  · rw [hopen, decide_eq_true ((hkeys _).mpr (by decide))]
  · rw [hopen, decide_eq_false fun h => absurd ((hkeys _).mp h) (by decide)]
  · obtain ⟨listed, hperm, -, hlisted⟩ := hlist 1 scan
    have hlength : opened.length = 2 := by
      rw [← hcount]
      cases hrun
      rfl
    rw [hlisted, Session.objects, List.length_map, List.length_take, hperm.length_eq, hlength]
    rfl

end Queries

/-! ## The last success of the live cycle -/

section LiveCycle

namespace MonitorStep

/-- What the step writes to the details of a row that is there. -/
def details? (values : MonitorValues) (isoformat : τ → String) : MonitorStep τ → Option JsonDict
  | call (.upsertOpenEvent _ args _ _) => some args.detailsJson
  | call (.upsertResolvedEvent _ args) => some args.detailsJson
  | call (.recordLiveCycleSuccess _ nowUtc) => some (liveCycleArgs values isoformat nowUtc).detailsJson
  | call (.resolveEvent _ _ detailsJson) => detailsJson
  | call (.markAlertSent _ _) | find _ | release _ => none

def inserts : MonitorStep τ → Bool
  | call c => c.inserts
  | find _ | release _ => false

end MonitorStep

variable (values : MonitorValues) (isoformat : τ → String)

def stepsFor (key : String) (steps : List (MonitorStep τ)) : List (MonitorStep τ) :=
  steps.filter fun step => key = step.key values

/-- The details that were last written for the key, if one of its calls inserts. -/
def lastDetails (key : String) (steps : List (MonitorStep τ)) : Option JsonDict :=
  if (stepsFor values key steps).any MonitorStep.inserts then
    ((stepsFor values key steps).filterMap (MonitorStep.details? values isoformat)).getLast?
  else none

/-- The held object, if there is one, has the details of the row. -/
def ShowsDetails (slot : Slot (MonitorEvent τ)) : Prop :=
  ∀ object ∈ slot.held, ∀ row ∈ slot.row, object.detailsJson = row.detailsJson

instance (slot : Slot (MonitorEvent τ)) : Decidable (ShowsDetails slot) :=
  inferInstanceAs (Decidable (∀ object ∈ slot.held, ∀ row ∈ slot.row,
    object.detailsJson = row.detailsJson))

theorem ShowsDetails.object {slot : Slot (MonitorEvent τ)} (h : ShowsDetails slot)
    {row : MonitorEvent τ} (hrow : slot.row = some row) :
    (slot.object row).detailsJson = row.detailsJson := by
  unfold Slot.object
  cases hheld : slot.held with
  | none => rfl
  | some object => exact h object hheld row hrow

/-- The step does not give details to a `resolve_event` whose object has other details than the row. -/
def InformedOfDetails (slot : Slot (MonitorEvent τ)) : MonitorStep τ → Prop
  | .call (.resolveEvent _ _ (some _)) => ShowsDetails slot
  | _ => True

instance (slot : Slot (MonitorEvent τ)) : DecidablePred (InformedOfDetails slot)
  | .call (.resolveEvent _ _ (some _)) => inferInstanceAs (Decidable (ShowsDetails slot))
  | .call (.resolveEvent _ _ none) | .call (.upsertOpenEvent ..) | .call (.upsertResolvedEvent ..)
  | .call (.markAlertSent ..) | .call (.recordLiveCycleSuccess ..) | .find _ | .release _ =>
      isTrue trivial

variable {values isoformat}

theorem stepsFor_concat (key : String) (steps : List (MonitorStep τ)) (step : MonitorStep τ) :
    stepsFor values key (steps ++ [step]) =
      if key = step.key values then stepsFor values key steps ++ [step]
      else stepsFor values key steps :=
  Query.filter_concat (fun step : MonitorStep τ => key = step.key values) steps step

/-- A step writes its details, when it inserts or the row is there. -/
theorem details_effect [DecidableEq τ] (step : MonitorStep τ) (slot : Slot (MonitorEvent τ))
    (hinformed : InformedOfDetails slot step) :
    (step.effect values isoformat slot).row.map MonitorEvent.detailsJson =
      if slot.row.isSome || step.inserts then
        (step.details? values isoformat).or (slot.row.map MonitorEvent.detailsJson)
      else none := by
  obtain ⟨row, held⟩ := slot
  cases step with
  | find dedupeKey => cases row <;> rfl
  | release dedupeKey => cases row <;> rfl
  | call call =>
      cases call with
      | upsertOpenEvent eventId args releaseId marketTicker => cases row <;> rfl
      | upsertResolvedEvent eventId args => cases row <;> rfl
      | recordLiveCycleSuccess eventId nowUtc => cases row <;> rfl
      | resolveEvent dedupeKey nowUtc detailsJson =>
          cases row with
          | none => rfl
          | some row =>
              cases detailsJson with
              | none => exact congrArg some (Column.write_unchanged _ _)
              | some details =>
                  refine congrArg some ?_
                  rcases Column.write_cases (held.getD row).detailsJson details row.detailsJson with
                    hwritten | ⟨hobject, hkept⟩
                  · exact hwritten
                  · exact hkept.trans ((hinformed.object rfl).symm.trans hobject.symm)
      | markAlertSent dedupeKey sentAtUtc =>
          cases row with
          | none => rfl
          | some row => exact congrArg some (Column.write_unchanged _ _)

variable (values isoformat) in
theorem MonitorStep.isSome_details? {step : MonitorStep τ} (h : step.inserts = true) :
    (step.details? values isoformat).isSome := by
  cases step with
  | find dedupeKey => cases h
  | release dedupeKey => cases h
  | call call =>
      cases call with
      | upsertOpenEvent eventId args releaseId marketTicker => rfl
      | upsertResolvedEvent eventId args => rfl
      | recordLiveCycleSuccess eventId nowUtc => rfl
      | resolveEvent dedupeKey nowUtc detailsJson => cases h
      | markAlertSent dedupeKey sentAtUtc => cases h

variable (values isoformat) in
theorem lastDetails_isSome (key : String) (steps : List (MonitorStep τ)) :
    (lastDetails values isoformat key steps).isSome ↔
      (stepsFor values key steps).any MonitorStep.inserts = true := by
  rw [lastDetails]
  split
  · rename_i hany
    refine iff_of_true ?_ hany
    obtain ⟨step, hstep, hinserts⟩ := List.any_eq_true.mp hany
    obtain ⟨details, hdetails⟩ := Option.isSome_iff_exists.mp
      (MonitorStep.isSome_details? values isoformat hinserts)
    rw [List.getLast?_isSome]
    exact List.ne_nil_of_mem (List.mem_filterMap.mpr ⟨step, hstep, hdetails⟩)
  · rename_i hany
    exact iff_of_false (fun h => by cases h) hany

theorem details_slotAfter [DecidableEq τ] (key : String) {steps : List (MonitorStep τ)}
    (hinformed : EachSlot values isoformat
      (fun slot step => key = step.key values → InformedOfDetails slot step) steps) :
    (slotAfter values isoformat key steps).row.map MonitorEvent.detailsJson =
      lastDetails values isoformat key steps := by
  induction steps using List.reverseRecOn with
  | nil => rfl
  | append_singleton steps step ih =>
      obtain ⟨hearlier, hstep⟩ := EachSlot.of_concat hinformed
      have hdetails := ih hearlier
      rw [slotAfter_concat]
      by_cases hkey : key = step.key values
      · have hsome : (slotAfter values isoformat key steps).row.isSome =
            (stepsFor values key steps).any MonitorStep.inserts := by
          rw [Bool.eq_iff_iff, ← lastDetails_isSome values isoformat, ← hdetails, Option.isSome_map]
        rw [if_pos hkey, details_effect step _ (hkey ▸ hstep hkey), hdetails, hsome, lastDetails,
          lastDetails, stepsFor_concat, if_pos hkey, List.any_append, List.filterMap_append,
          List.any_cons, List.any_nil, Bool.or_false]
        cases hwritten : step.details? values isoformat with
        | some details =>
            rw [List.filterMap_cons_some hwritten, List.filterMap_nil, List.getLast?_concat,
              Option.some_or]
        | none =>
            have hinserts : step.inserts = false := by
              by_contra hinserts
              have hsome := MonitorStep.isSome_details? values isoformat
                (Bool.not_eq_false _ ▸ hinserts)
              rw [hwritten] at hsome
              cases hsome
            rw [List.filterMap_cons_none hwritten, List.filterMap_nil, List.append_nil, hinserts,
              Bool.or_false, Option.none_or]
            split <;> rfl
      · rw [if_neg hkey, hdetails, lastDetails, lastDetails, stepsFor_concat, if_neg hkey]

/-- The time of success in the details, as it is parsed. -/
def successIn (fromisoformat : String → Option τ) (details : JsonDict) : Option τ :=
  match details.lookup "last_live_cycle_success_at_utc" with
  | some (.str raw) => fromisoformat (Regex.replace raw "Z" "+00:00")
  | _ => none

/-- Only the steps from the last one on that wrote details count. -/
theorem lastDetails_of_quiet {key : String} {before later : List (MonitorStep τ)}
    {step : MonitorStep τ} {details : JsonDict} (hkey : key = step.key values)
    (hinserts : step.inserts = true) (hdetails : step.details? values isoformat = some details)
    (hquiet : ∀ other ∈ later, key = other.key values → other.details? values isoformat = none) :
    lastDetails values isoformat key (before ++ step :: later) = some details := by
  have hsteps : stepsFor values key (before ++ step :: later) =
      stepsFor values key before ++ step :: stepsFor values key later := by
    rw [stepsFor, List.filter_append, List.filter_cons, if_pos (decide_eq_true hkey)]
    rfl
  have hlater : (stepsFor values key later).filterMap (MonitorStep.details? values isoformat) = [] := by
    refine List.filterMap_eq_nil_iff.mpr fun other hother => ?_
    obtain ⟨hmem, hsame⟩ := List.mem_filter.mp hother
    exact hquiet other hmem (of_decide_eq_true hsame)
  have hany : (stepsFor values key (before ++ step :: later)).any MonitorStep.inserts = true := by
    rw [hsteps, List.any_append, List.any_cons, hinserts, Bool.true_or, Bool.or_true]
  rw [lastDetails, if_pos hany, hsteps, List.filterMap_append, List.filterMap_cons_some hdetails,
    hlater, List.getLast?_concat]

/-- `isoformat` and `fromisoformat` as they are documented: the second is the inverse of the first,
    which writes the offset of a time in digits. -/
structure IsoFormat (isoformat : τ → String) (fromisoformat : String → Option τ) : Prop where
  inverse : ∀ time, fromisoformat (isoformat time) = some time
  digits : ∀ time, 'Z' ∉ (isoformat time).toList

theorem IsoFormat.parse {isoformat : τ → String} {fromisoformat : String → Option τ}
    (h : IsoFormat isoformat fromisoformat) (time : τ) :
    fromisoformat (Regex.replace (isoformat time) "Z" "+00:00") = some time := by
  have hsame : Regex.replace (isoformat time) "Z" "+00:00" = isoformat time := by
    rw [Regex.replace]
    exact (congrArg String.ofList (PyText.replaceChars_of_not_mem (h.digits time) [] _)).trans
      String.ofList_toList
  rw [hsame, h.inverse]

/-- After any steps that are informed of the details of the live cycle, in a session that shows them:
    `get_last_live_cycle_success_at` reads the details that were last written for it.  It is the time of
    a recorded success while no later call writes details for it, and nothing once an opening has written
    details without a success. -/
theorem lastLiveCycleSuccess_runMonitor [DecidableEq τ] (values : MonitorStatuses)
    (isoformat : τ → String) (fromisoformat : String → Option τ)
    (hiso : IsoFormat isoformat fromisoformat) (steps : List (MonitorStep τ))
    (hinformed : EachSlot values.toMonitorValues isoformat (fun slot step =>
      values.liveCycleStalled = step.key values.toMonitorValues → InformedOfDetails slot step) steps) :
    ∃ session, runMonitor values.toMonitorValues isoformat steps = .ok session ∧
      (ShowsDetails (session.slot values.liveCycleStalled) →
        getLastLiveCycleSuccessAt values fromisoformat session =
          (lastDetails values.toMonitorValues isoformat values.liveCycleStalled steps).bind
            (successIn fromisoformat) ∧
        (∀ before later eventId nowUtc,
          steps = before ++ .call (.recordLiveCycleSuccess eventId nowUtc) :: later →
          (∀ other ∈ later, values.liveCycleStalled = other.key values.toMonitorValues →
            other.details? values.toMonitorValues isoformat = none) →
          getLastLiveCycleSuccessAt values fromisoformat session = some nowUtc) ∧
        ∀ before later eventId args releaseId marketTicker,
          steps = before ++ .call (.upsertOpenEvent eventId args releaseId marketTicker) :: later →
          args.dedupeKey = values.liveCycleStalled →
          args.detailsJson.lookup "last_live_cycle_success_at_utc" = none →
          (∀ other ∈ later, values.liveCycleStalled = other.key values.toMonitorValues →
            other.details? values.toMonitorValues isoformat = none) →
          getLastLiveCycleSuccessAt values fromisoformat session = none) := by
  obtain ⟨session, hrun, hslots⟩ := runMonitor_spec values.toMonitorValues isoformat steps
  refine ⟨session, hrun, fun hshown => ?_⟩
  have hread : getLastLiveCycleSuccessAt values fromisoformat session =
      (lastDetails values.toMonitorValues isoformat values.liveCycleStalled steps).bind
        (successIn fromisoformat) := by
    rw [← details_slotAfter values.liveCycleStalled hinformed, ← hslots, getLastLiveCycleSuccessAt,
      getByDedupeKey, Session.get_fst]
    cases hrow : (session.slot values.liveCycleStalled).row with
    | none => rfl
    | some row =>
        rw [Option.map_some, Option.map_some, Option.bind_some, ← hshown.object hrow]
        rfl
  refine ⟨hread, ?_, ?_⟩
  · rintro before later eventId nowUtc rfl hquiet
    have hlast : lastDetails values.toMonitorValues isoformat values.liveCycleStalled
        (before ++ .call (.recordLiveCycleSuccess eventId nowUtc) :: later) =
          some (liveCycleArgs values.toMonitorValues isoformat nowUtc).detailsJson :=
      lastDetails_of_quiet rfl rfl rfl hquiet
    rw [hread, hlast]
    exact hiso.parse nowUtc
  · rintro before later eventId args releaseId marketTicker rfl hkey hnone hquiet
    rw [hread, lastDetails_of_quiet hkey.symm rfl rfl hquiet, Option.bind_some, successIn, hnone]

def sampleIsoformat (time : Fin 2) : String :=
  if time = 0 then "2026-01-01T00:00:00+00:00" else "2026-01-02T00:00:00+00:00"

def sampleFromisoformat (raw : String) : Option (Fin 2) :=
  if raw = "2026-01-01T00:00:00+00:00" then some 0
  else if raw = "2026-01-02T00:00:00+00:00" then some 1
  else none

theorem sampleIsoFormat : IsoFormat sampleIsoformat sampleFromisoformat where
  inverse := by decide
  digits := by decide

/-- The live cycle stalls and recovers; the object of its event is released before the time of the
    success is read. -/
theorem lastLiveCycleSuccess_runMonitor_stalled : ∃ session,
    runMonitor sampleValues sampleIsoformat
      [.call (.upsertOpenEvent "e-1" ⟨"live_cycle_stalled", "live_runner", "critical",
        "live_cycle_stalled", "Stalled", "", [], 0⟩ none none),
      .call (.recordLiveCycleSuccess "e-2" 1), .release "live_cycle_stalled"] = .ok session ∧
      getLastLiveCycleSuccessAt sampleStatuses sampleFromisoformat session = some 1 := by
  obtain ⟨session, hrun, hread⟩ := lastLiveCycleSuccess_runMonitor sampleStatuses sampleIsoformat
    sampleFromisoformat sampleIsoFormat
    [.call (.upsertOpenEvent "e-1" ⟨"live_cycle_stalled", "live_runner", "critical",
      "live_cycle_stalled", "Stalled", "", [], 0⟩ none none),
    .call (.recordLiveCycleSuccess "e-2" 1), .release "live_cycle_stalled"] (by decide)
  have hshown : ShowsDetails (session.slot sampleStatuses.liveCycleStalled) := by
    cases hrun
    decide
  refine ⟨session, hrun, (hread hshown).2.1 [_] [.release "live_cycle_stalled"] "e-2" 1 rfl ?_⟩
  exact fun other hmem _ => List.mem_singleton.mp hmem ▸ rfl

end LiveCycle

end CodexOrchestrator
