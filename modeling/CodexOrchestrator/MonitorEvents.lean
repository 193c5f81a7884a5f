import CodexOrchestrator.Db.Repositories
import CodexOrchestrator.Lib.Runs
import Mathlib.Order.Defs.PartialOrder

/-!
# MonitorEvents — the open and resolved bookkeeping of monitor events

Five methods write overlapping parts of a row, two of them through the object that the session holds of
it.  Each step is described by what it does to the row and the object of its key; what holds of a row
after any order of steps follows from what one step does to it.

`resolve_event` writes the columns in which its object changes.  An object that showed the event
resolved, and was held while the row was opened again, leaves `status` as it is: the row stays open,
with a time of resolution.
-/

namespace CodexOrchestrator

open Runs

variable {τ : Type}

/-! ## Calls -/

/-- A call, with the id that it would insert a row under. -/
inductive MonitorCall (τ : Type) where
  | upsertOpenEvent (eventId : String) (args : MonitorEventArgs τ)
      (releaseId marketTicker : Option String)
  | upsertResolvedEvent (eventId : String) (args : MonitorEventArgs τ)
  | recordLiveCycleSuccess (eventId : String) (nowUtc : τ)
  | resolveEvent (dedupeKey : String) (nowUtc : τ) (detailsJson : Option JsonDict)
  | markAlertSent (dedupeKey : String) (sentAtUtc : τ)

namespace MonitorCall

def time : MonitorCall τ → τ
  | upsertOpenEvent _ args _ _ => args.nowUtc
  | upsertResolvedEvent _ args => args.nowUtc
  | recordLiveCycleSuccess _ nowUtc => nowUtc
  | resolveEvent _ nowUtc _ => nowUtc
  | markAlertSent _ sentAtUtc => sentAtUtc

/-- The call is an `upsert_open_event` for the key. -/
def opens (key : String) : MonitorCall τ → Bool
  | upsertOpenEvent _ args _ _ => args.dedupeKey = key
  | _ => false

def inserts : MonitorCall τ → Bool
  | upsertOpenEvent .. | upsertResolvedEvent .. | recordLiveCycleSuccess .. => true
  | resolveEvent .. | markAlertSent .. => false

variable (values : MonitorValues) (isoformat : τ → String)

def key : MonitorCall τ → String
  | upsertOpenEvent _ args _ _ => args.dedupeKey
  | upsertResolvedEvent _ args => args.dedupeKey
  | recordLiveCycleSuccess _ _ => values.liveCycleStalled
  | resolveEvent dedupeKey _ _ => dedupeKey
  | markAlertSent dedupeKey _ => dedupeKey

variable [DecidableEq τ]

def execute (call : MonitorCall τ) (session : MonitorSession τ) :
    Except PyError (MonitorSession τ) :=
  match call with
  | upsertOpenEvent eventId args releaseId marketTicker =>
      (CodexOrchestrator.upsertOpenEvent values eventId args releaseId marketTicker session).map
        Prod.snd
  | upsertResolvedEvent eventId args =>
      (CodexOrchestrator.upsertResolvedEvent values eventId args session).map Prod.snd
  | recordLiveCycleSuccess eventId nowUtc =>
      (CodexOrchestrator.recordLiveCycleSuccess values isoformat eventId nowUtc session).map Prod.snd
  | resolveEvent dedupeKey nowUtc detailsJson =>
      .ok (CodexOrchestrator.resolveEvent values dedupeKey nowUtc detailsJson session).2
  | markAlertSent dedupeKey sentAtUtc =>
      .ok (CodexOrchestrator.markAlertSent dedupeKey sentAtUtc session)

/-- What the call makes of the row and the object of its key. -/
def effect (call : MonitorCall τ) (slot : Slot (MonitorEvent τ)) : Slot (MonitorEvent τ) :=
  match call with
  | upsertOpenEvent eventId args releaseId marketTicker =>
      slot.upsert (openRow values eventId args releaseId marketTicker)
        (openAssignment values args releaseId marketTicker).set
  | upsertResolvedEvent eventId args =>
      slot.upsert (resolvedRow values eventId args) (resolvedAssignment values args).set
  | recordLiveCycleSuccess eventId nowUtc =>
      let args := liveCycleArgs values isoformat nowUtc
      slot.upsert (resolvedRow values eventId args) (resolvedAssignment values args).set
  | resolveEvent _ nowUtc detailsJson =>
      slot.modify monitorColumns (setResolved values nowUtc detailsJson)
  | markAlertSent _ sentAtUtc => slot.modify monitorColumns (setAlertSent sentAtUtc)

end MonitorCall

/-! ## Steps -/

/-- What happens in a session: a call; another query finds an event and its object is kept; an object
    is kept no longer. -/
inductive MonitorStep (τ : Type) where
  | call (call : MonitorCall τ)
  | find (dedupeKey : String)
  | release (dedupeKey : String)

namespace MonitorStep

def time? : MonitorStep τ → Option τ
  | call c => some c.time
  | _ => none

def opens (key : String) : MonitorStep τ → Bool
  | call c => c.opens key
  | _ => false

variable (values : MonitorValues) (isoformat : τ → String)

def key : MonitorStep τ → String
  | call c => c.key values
  | find dedupeKey => dedupeKey
  | release dedupeKey => dedupeKey

variable [DecidableEq τ]

def execute (step : MonitorStep τ) (session : MonitorSession τ) :
    Except PyError (MonitorSession τ) :=
  match step with
  | call c => c.execute values isoformat session
  | find dedupeKey => .ok (getByDedupeKey dedupeKey session).2
  | release dedupeKey => .ok (session.release dedupeKey)

def effect (step : MonitorStep τ) (slot : Slot (MonitorEvent τ)) : Slot (MonitorEvent τ) :=
  match step with
  | call c => c.effect values isoformat slot
  | find _ => slot.load
  | release _ => { slot with held := none }

end MonitorStep

section Steps

variable [DecidableEq τ] (values : MonitorValues) (isoformat : τ → String)

/-- A step of a session that no call has failed in. -/
def monitorStep (session : Except PyError (MonitorSession τ)) (step : MonitorStep τ) :
    Except PyError (MonitorSession τ) :=
  session.bind (step.execute values isoformat)

/-- The steps one after another, from an empty table and a session that holds nothing. -/
def runMonitor (steps : List (MonitorStep τ)) : Except PyError (MonitorSession τ) :=
  after (monitorStep values isoformat) (.ok .empty) steps

/-- The row and the object of a key after the steps. -/
def slotAfter (key : String) (steps : List (MonitorStep τ)) : Slot (MonitorEvent τ) :=
  steps.foldl
    (fun slot step => if key = step.key values then step.effect values isoformat slot else slot) {}

end Steps

/-- The times of the calls. -/
def times (steps : List (MonitorStep τ)) : List τ := steps.filterMap MonitorStep.time?

/-! ## What a step does to the session -/

section Session

variable [DecidableEq τ] {values : MonitorValues} {isoformat : τ → String}

/-- An unknown key is left unknown, and nothing else changes either. -/
theorem resolveEvent_of_none {session : MonitorSession τ} {key : String}
    (h : session.table.get? key = none) (nowUtc : τ) (detailsJson : Option JsonDict) :
    resolveEvent values key nowUtc detailsJson session = (none, session) := by
  rw [resolveEvent, getByDedupeKey, Session.get_of_none h]

theorem markAlertSent_of_none {session : MonitorSession τ} {key : String}
    (h : session.table.get? key = none) (sentAtUtc : τ) :
    markAlertSent key sentAtUtc session = session := by
  rw [markAlertSent, getByDedupeKey, Session.get_of_none h]

omit [DecidableEq τ] in
/-- The row that was written is found again. -/
theorem upsertAndRead_spec (failure : String) (row : MonitorEvent τ)
    (assignment : Indexed.Assignment (MonitorEvent.dedupeKey (τ := τ))) (session : MonitorSession τ) :
    ∃ next, (upsertAndRead failure row assignment session).map Prod.snd = .ok next ∧
      ∀ key, next.slot key = if key = row.dedupeKey then
        (session.slot key).upsert row assignment.set else session.slot key := by
  obtain ⟨event, read, hread, hslots⟩ := Session.slot_upsert_get row assignment session
  refine ⟨read, ?_, hslots⟩
  unfold upsertAndRead getByDedupeKey
  dsimp only
  rw [hread]
  rfl

variable (values isoformat) in
/-- No call raises; the row and the object of its key are what its effect makes of them, and the others
    are as before. -/
theorem MonitorCall.execute_spec (call : MonitorCall τ) (session : MonitorSession τ) :
    ∃ next, call.execute values isoformat session = .ok next ∧ ∀ key, next.slot key =
      if key = call.key values then call.effect values isoformat (session.slot key)
      else session.slot key := by
  cases call with
  | upsertOpenEvent eventId args releaseId marketTicker => exact upsertAndRead_spec _ _ _ session
  | upsertResolvedEvent eventId args => exact upsertAndRead_spec _ _ _ session
  | recordLiveCycleSuccess eventId nowUtc => exact upsertAndRead_spec _ _ _ session
  | resolveEvent dedupeKey nowUtc detailsJson =>
      refine ⟨_, rfl, fun key => Session.slot_get_flush monitorColumns
        (setResolved values nowUtc detailsJson) (fun _ => rfl) dedupeKey key session
        (fun hnone => ?_) fun event hsome => ?_⟩
      · rw [CodexOrchestrator.resolveEvent, getByDedupeKey, ← Prod.mk.eta (p := session.get dedupeKey),
          hnone]
      · rw [CodexOrchestrator.resolveEvent, getByDedupeKey, ← Prod.mk.eta (p := session.get dedupeKey),
          hsome]
  | markAlertSent dedupeKey sentAtUtc =>
      refine ⟨_, rfl, fun key => Session.slot_get_flush monitorColumns
        (setAlertSent sentAtUtc) (fun _ => rfl) dedupeKey key session
        (fun hnone => ?_) fun event hsome => ?_⟩
      · rw [CodexOrchestrator.markAlertSent, getByDedupeKey,
          ← Prod.mk.eta (p := session.get dedupeKey), hnone]
      · rw [CodexOrchestrator.markAlertSent, getByDedupeKey,
          ← Prod.mk.eta (p := session.get dedupeKey), hsome]

variable (values isoformat) in
theorem MonitorStep.execute_spec (step : MonitorStep τ) (session : MonitorSession τ) :
    ∃ next, step.execute values isoformat session = .ok next ∧ ∀ key, next.slot key =
      if key = step.key values then step.effect values isoformat (session.slot key)
      else session.slot key := by
  cases step with
  | call call => exact call.execute_spec values isoformat session
  | find dedupeKey => exact ⟨_, rfl, fun key => Session.slot_get dedupeKey key session⟩
  | release dedupeKey => exact ⟨_, rfl, fun key => Session.slot_release dedupeKey key session⟩

theorem slotAfter_concat (key : String) (steps : List (MonitorStep τ)) (step : MonitorStep τ) :
    slotAfter values isoformat key (steps ++ [step]) =
      if key = step.key values then
        step.effect values isoformat (slotAfter values isoformat key steps)
      else slotAfter values isoformat key steps := by
  unfold slotAfter
  rw [List.foldl_append]
  rfl

variable (values isoformat) in
theorem runMonitor_spec (steps : List (MonitorStep τ)) :
    ∃ session, runMonitor values isoformat steps = .ok session ∧
      ∀ key, session.slot key = slotAfter values isoformat key steps := by
  induction steps using List.reverseRecOn with
  | nil => exact ⟨.empty, rfl, fun key => rfl⟩
  | append_singleton steps step ih =>
      obtain ⟨session, hrun, hslots⟩ := ih
      obtain ⟨next, hnext, hsteps⟩ := step.execute_spec values isoformat session
      refine ⟨next, ?_, fun key => ?_⟩
      · unfold runMonitor at hrun ⊢
        rw [after_concat, hrun]
        exact hnext
      · rw [hsteps, slotAfter_concat, hslots]

end Session

/-! ## Conditions on the steps of a run -/

section Conditions

variable [DecidableEq τ] (values : MonitorValues) (isoformat : τ → String)
  (cond : Slot (MonitorEvent τ) → MonitorStep τ → Prop)

/-- The step meets the condition on the row and the object of its key, as the session has them. -/
def OnSlot (session : Except PyError (MonitorSession τ)) (step : MonitorStep τ) : Prop :=
  ∀ s, session = .ok s → cond (s.slot (step.key values)) step

instance [∀ slot step, Decidable (cond slot step)] (session : Except PyError (MonitorSession τ))
    (step : MonitorStep τ) : Decidable (OnSlot values cond session step) :=
  match session with
  | .error _ => isTrue fun _ h => nomatch h
  | .ok s => decidable_of_iff (cond (s.slot (step.key values)) step)
      ⟨fun h _ hs => Except.ok.inj hs ▸ h, fun h => h s rfl⟩

/-- Every step of the run meets the condition. -/
def EachSlot (steps : List (MonitorStep τ)) : Prop :=
  EachStep (monitorStep values isoformat) (.ok .empty) (OnSlot values cond) steps

instance [∀ slot step, Decidable (cond slot step)] :
    DecidablePred (EachSlot values isoformat cond) :=
  fun steps => inferInstanceAs (Decidable (EachStep (monitorStep values isoformat) (.ok .empty)
    (OnSlot values cond) steps))

variable {values isoformat cond}

theorem EachSlot.of_concat {steps : List (MonitorStep τ)} {step : MonitorStep τ}
    (h : EachSlot values isoformat cond (steps ++ [step])) :
    EachSlot values isoformat cond steps ∧
      cond (slotAfter values isoformat (step.key values) steps) step := by
  obtain ⟨hearlier, hlast⟩ := EachStep.of_concat h
  obtain ⟨session, hrun, hslots⟩ := runMonitor_spec values isoformat steps
  exact ⟨hearlier, hslots (step.key values) ▸ hlast session hrun⟩

end Conditions

/-! ## What a step does to a row -/

section Row

variable (values : MonitorValues) (isoformat : τ → String)

/-- `status`, `resolved_at_utc` and `last_seen_at_utc` after a call that sets them at `time`. -/
def Stamped (time : τ) (row : MonitorEvent τ) : Prop :=
  row.lastSeenAtUtc = time ∧
    (row.status = values.openStatus ∧ row.resolvedAtUtc = none ∨
      row.status = values.resolvedStatus ∧ row.resolvedAtUtc = some time)

/-- A row as a call inserts it. -/
structure InsertedAt (time : τ) (row : MonitorEvent τ) : Prop where
  firstSeen : row.firstSeenAtUtc = time
  stamped : Stamped values time row
  occurrences : row.occurrenceCount = 1
  alert : row.alertSentAtUtc = none

/-- What a step leaves of a row that is there, whatever object is held. -/
structure TouchedBy (step : MonitorStep τ) (row row' : MonitorEvent τ) : Prop where
  eventId : row'.eventId = row.eventId
  createdAt : row'.createdAtUtc = row.createdAtUtc
  firstSeen : row'.firstSeenAtUtc = row.firstSeenAtUtc
  lastSeen : row'.lastSeenAtUtc = row.lastSeenAtUtc ∨ step.time? = some row'.lastSeenAtUtc
  occurrences : row'.occurrenceCount = row.occurrenceCount + (step.opens (step.key values)).toNat
  alert : row'.alertSentAtUtc = row.alertSentAtUtc ∨
    ∃ sentAtUtc, step = .call (.markAlertSent (step.key values) sentAtUtc)

variable {values isoformat}

theorem TouchedBy.refl {step : MonitorStep τ} (row : MonitorEvent τ)
    (hopens : step.opens (step.key values) = false) : TouchedBy values step row row :=
  ⟨rfl, rfl, rfl, .inl rfl, by rw [hopens]; rfl, .inl rfl⟩

variable [DecidableEq τ]

/-- Only a call inserts a row. -/
theorem MonitorStep.effect_none {step : MonitorStep τ} {slot : Slot (MonitorEvent τ)}
    (hnone : slot.row = none) {row : MonitorEvent τ}
    (h : (step.effect values isoformat slot).row = some row) :
    ∃ call, step = .call call ∧ InsertedAt values call.time row := by
  obtain ⟨_, held⟩ := slot
  subst hnone
  cases step with
  | find dedupeKey => cases h
  | release dedupeKey => cases h
  | call call =>
      refine ⟨call, rfl, ?_⟩
      cases call with
      | upsertOpenEvent eventId args releaseId marketTicker =>
          cases h
          exact ⟨rfl, ⟨rfl, .inl ⟨rfl, rfl⟩⟩, rfl, rfl⟩
      | upsertResolvedEvent eventId args =>
          cases h
          exact ⟨rfl, ⟨rfl, .inr ⟨rfl, rfl⟩⟩, rfl, rfl⟩
      | recordLiveCycleSuccess eventId nowUtc =>
          cases h
          exact ⟨rfl, ⟨rfl, .inr ⟨rfl, rfl⟩⟩, rfl, rfl⟩
      | resolveEvent dedupeKey nowUtc detailsJson => cases h
      | markAlertSent dedupeKey sentAtUtc => cases h

variable (values isoformat) in
theorem MonitorStep.effect_some (step : MonitorStep τ) {slot : Slot (MonitorEvent τ)}
    {row : MonitorEvent τ} (hrow : slot.row = some row) :
    ∃ row', (step.effect values isoformat slot).row = some row' ∧ TouchedBy values step row row' := by
  obtain ⟨_, held⟩ := slot
  subst hrow
  cases step with
  | find dedupeKey => exact ⟨row, rfl, .refl row rfl⟩
  | release dedupeKey => exact ⟨row, rfl, .refl row rfl⟩
  | call call =>
      cases call with
      | upsertOpenEvent eventId args releaseId marketTicker =>
          have hopens : (MonitorStep.call (.upsertOpenEvent eventId args releaseId marketTicker)).opens
              args.dedupeKey = true := decide_eq_true rfl
          refine ⟨_, rfl, rfl, rfl, rfl, .inr rfl, ?_, .inl rfl⟩
          rw [key, MonitorCall.key, hopens]
          rfl
      | upsertResolvedEvent eventId args => exact ⟨_, rfl, rfl, rfl, rfl, .inr rfl, rfl, .inl rfl⟩
      | recordLiveCycleSuccess eventId nowUtc =>
          exact ⟨_, rfl, rfl, rfl, rfl, .inr rfl, rfl, .inl rfl⟩
      | resolveEvent dedupeKey nowUtc detailsJson =>
          -- the columns that the object does not change are not written
          refine ⟨_, rfl, Column.write_unchanged _ _, Column.write_unchanged _ _,
            Column.write_unchanged _ _, ?_, Column.write_unchanged _ _,
            .inl (Column.write_unchanged _ _)⟩
          rcases Column.write_cases (held.getD row).lastSeenAtUtc nowUtc row.lastSeenAtUtc with
            hwritten | ⟨-, hkept⟩
          · exact .inr (congrArg some hwritten.symm)
          · exact .inl hkept
      | markAlertSent dedupeKey sentAtUtc =>
          exact ⟨_, rfl, Column.write_unchanged _ _, Column.write_unchanged _ _,
            Column.write_unchanged _ _, .inl (Column.write_unchanged _ _), Column.write_unchanged _ _,
            .inr ⟨sentAtUtc, rfl⟩⟩

end Row

/-! ## Runs -/

section History

variable [DecidableEq τ] {values : MonitorValues} {isoformat : τ → String}

/-- What the steps after the insertion leave of a row. -/
structure KeptBy (later : List (MonitorStep τ)) (row row' : MonitorEvent τ) : Prop where
  eventId : row'.eventId = row.eventId
  createdAt : row'.createdAtUtc = row.createdAtUtc
  firstSeen : row'.firstSeenAtUtc = row.firstSeenAtUtc
  alert : row'.alertSentAtUtc = row.alertSentAtUtc ∨
    ∃ sentAtUtc, .call (.markAlertSent row.dedupeKey sentAtUtc) ∈ later

theorem slotAfter_kept {key : String} {before : List (MonitorStep τ)} (later : List (MonitorStep τ))
    {row : MonitorEvent τ} (hkey : row.dedupeKey = key)
    (h : (slotAfter values isoformat key before).row = some row) :
    ∃ row', (slotAfter values isoformat key (before ++ later)).row = some row' ∧
      KeptBy later row row' := by
  induction later using List.reverseRecOn with
  | nil => exact ⟨row, by rwa [List.append_nil], rfl, rfl, rfl, .inl rfl⟩
  | append_singleton later step ih =>
      obtain ⟨mid, hmid, hkept⟩ := ih
      have halert : mid.alertSentAtUtc = row.alertSentAtUtc ∨
          ∃ sentAtUtc, .call (.markAlertSent row.dedupeKey sentAtUtc) ∈ later ++ [step] :=
        hkept.alert.imp_right fun ⟨sentAtUtc, hmem⟩ => ⟨sentAtUtc, List.mem_append_left _ hmem⟩
      rw [← List.append_assoc, slotAfter_concat]
      split
      · rename_i hstep
        obtain ⟨row', hrow', htouched⟩ := step.effect_some values isoformat hmid
        refine ⟨row', hrow', htouched.eventId.trans hkept.eventId,
          htouched.createdAt.trans hkept.createdAt, htouched.firstSeen.trans hkept.firstSeen, ?_⟩
        rcases htouched.alert with hsame | ⟨sentAtUtc, hmark⟩
        · exact hsame ▸ halert
        · refine .inr ⟨sentAtUtc, ?_⟩
          rw [hkey, hstep, ← hmark]
          exact List.mem_append_right _ (List.mem_singleton_self _)
      · exact ⟨mid, hmid, hkept.eventId, hkept.createdAt, hkept.firstSeen, halert⟩

omit [DecidableEq τ] in
theorem MonitorStep.key_of_opens {step : MonitorStep τ} {key : String} (h : step.opens key = true) :
    key = step.key values := by
  cases step with
  | find dedupeKey => cases h
  | release dedupeKey => cases h
  | call call =>
      cases call with
      | upsertOpenEvent eventId args releaseId marketTicker => exact (of_decide_eq_true h).symm
      | upsertResolvedEvent eventId args => cases h
      | recordLiveCycleSuccess eventId nowUtc => cases h
      | resolveEvent dedupeKey nowUtc detailsJson => cases h
      | markAlertSent dedupeKey sentAtUtc => cases h

/-- A row was inserted by one of the calls, and counts the openings since. -/
theorem slotAfter_counted {key : String} {steps : List (MonitorStep τ)} {row : MonitorEvent τ}
    (h : (slotAfter values isoformat key steps).row = some row) :
    ∃ before creating later, steps = before ++ .call creating :: later ∧
      (slotAfter values isoformat key before).row = none ∧
      (slotAfter values isoformat key (before ++ [.call creating])).row.isSome ∧
      row.occurrenceCount = 1 + later.countP (MonitorStep.opens key) ∧
      (row.alertSentAtUtc ≠ none → ∃ sentAtUtc, .call (.markAlertSent key sentAtUtc) ∈ later) := by
  induction steps using List.reverseRecOn generalizing row with
  | nil => cases h
  | append_singleton steps step ih =>
      cases hold : (slotAfter values isoformat key steps).row with
      | none =>
          -- this step inserts the row
          have hsome := h
          rw [slotAfter_concat] at h
          split at h
          · obtain ⟨call, rfl, hinserted⟩ := MonitorStep.effect_none hold h
            exact ⟨steps, call, [], rfl, hold, by rw [hsome]; rfl, hinserted.occurrences,
              fun hne => absurd hinserted.alert hne⟩
          · cases hold.symm.trans h
      | some old =>
          obtain ⟨before, creating, later, rfl, habsent, hpresent, hcount, halert⟩ := ih hold
          refine ⟨before, creating, later ++ [step], by simp, habsent, hpresent, ?_⟩
          rw [slotAfter_concat] at h
          rw [List.countP_append, List.countP_singleton]
          have hearlier : old.alertSentAtUtc ≠ none →
              ∃ sentAtUtc, .call (.markAlertSent key sentAtUtc) ∈ later ++ [step] := fun hne =>
            (halert hne).imp fun sentAtUtc hmem => List.mem_append_left _ hmem
          split at h
          · rename_i hstep
            obtain ⟨row', hrow', htouched⟩ := step.effect_some values isoformat hold
            cases h.symm.trans hrow'
            refine ⟨?_, fun hne => ?_⟩
            · rw [htouched.occurrences, hcount, ← hstep]
              cases step.opens key <;> simp [Nat.add_assoc]
            · rcases htouched.alert with hsame | ⟨sentAtUtc, hmark⟩
              · exact hearlier (hsame ▸ hne)
              · refine ⟨sentAtUtc, ?_⟩
                rw [hstep, ← hmark]
                exact List.mem_append_right _ (List.mem_singleton_self _)
          · rename_i hstep
            cases hold.symm.trans h
            have hopens : ¬ step.opens key = true := fun ho => hstep (MonitorStep.key_of_opens ho)
            exact ⟨by rw [hcount, if_neg hopens, Nat.add_zero], hearlier⟩

variable (values isoformat) in
/-- An upsert leaves a row under its key, and it stays. -/
theorem isSome_slotAfter {steps : List (MonitorStep τ)} {call : MonitorCall τ}
    (hmem : .call call ∈ steps) (hinserts : call.inserts = true) :
    (slotAfter values isoformat (call.key values) steps).row.isSome := by
  induction steps using List.reverseRecOn with
  | nil => cases hmem
  | append_singleton steps step ih =>
      rw [slotAfter_concat]
      rcases List.mem_append.mp hmem with hearlier | hlast
      · obtain ⟨row, hrow⟩ := Option.isSome_iff_exists.mp (ih hearlier)
        split
        · obtain ⟨row', hrow', -⟩ := step.effect_some values isoformat hrow
          rw [hrow']
          rfl
        · exact ih hearlier
      · obtain rfl := List.mem_singleton.mp hlast
        rw [MonitorStep.key, if_pos rfl]
        cases call with
        | upsertOpenEvent eventId args releaseId marketTicker => rfl
        | upsertResolvedEvent eventId args => rfl
        | recordLiveCycleSuccess eventId nowUtc => rfl
        | resolveEvent dedupeKey nowUtc detailsJson => cases hinserts
        | markAlertSent dedupeKey sentAtUtc => cases hinserts

end History

/-! ## The bookkeeping -/

section Bookkeeping

/-- `status` and `resolved_at_utc` agree, and a row is not last seen before it is first seen. -/
structure MonitorEvent.Consistent [LE τ] (values : MonitorValues) (row : MonitorEvent τ) : Prop where
  open_iff : row.status = values.openStatus ↔ row.resolvedAtUtc = none
  resolved : row.resolvedAtUtc ≠ none →
    row.status = values.resolvedStatus ∧ row.resolvedAtUtc = some row.lastSeenAtUtc
  seen : row.firstSeenAtUtc ≤ row.lastSeenAtUtc

/-- The session holds an object that shows the event resolved, and the row is not: it was opened again
    while the object was held. -/
def Misleading (values : MonitorValues) (slot : Slot (MonitorEvent τ)) : Prop :=
  ∃ object ∈ slot.held, object.status = values.resolvedStatus ∧
    ∃ row ∈ slot.row, row.status ≠ values.resolvedStatus

instance (values : MonitorValues) (slot : Slot (MonitorEvent τ)) :
    Decidable (Misleading values slot) :=
  inferInstanceAs (Decidable (∃ object ∈ slot.held, object.status = values.resolvedStatus ∧
    ∃ row ∈ slot.row, row.status ≠ values.resolvedStatus))

/-- The step is no `resolve_event` on a misleading object. -/
def Informed (values : MonitorValues) (slot : Slot (MonitorEvent τ)) : MonitorStep τ → Prop
  | .call (.resolveEvent ..) => ¬ Misleading values slot
  | _ => True

instance (values : MonitorValues) (slot : Slot (MonitorEvent τ)) :
    DecidablePred (Informed values slot)
  | .call (.resolveEvent ..) => inferInstanceAs (Decidable (¬ Misleading values slot))
  | .call (.upsertOpenEvent ..) | .call (.upsertResolvedEvent ..) | .call (.markAlertSent ..)
  | .call (.recordLiveCycleSuccess ..) | .find _ | .release _ => isTrue trivial

def InformedRun [DecidableEq τ] (values : MonitorValues) (isoformat : τ → String)
    (steps : List (MonitorStep τ)) : Prop :=
  EachSlot values isoformat (Informed values) steps

instance [DecidableEq τ] (values : MonitorValues) (isoformat : τ → String) :
    DecidablePred (InformedRun (τ := τ) values isoformat) :=
  fun steps => inferInstanceAs (Decidable (EachSlot values isoformat (Informed values) steps))

/-- What holds of the row and the object of a key after informed steps. -/
structure Bookkept [LE τ] (values : MonitorValues) (slot : Slot (MonitorEvent τ)) : Prop where
  row : ∀ row ∈ slot.row, row.Consistent values
  held : ∀ object ∈ slot.held, object.Consistent values ∧
    ∃ row ∈ slot.row, object.lastSeenAtUtc ≤ row.lastSeenAtUtc

variable [PartialOrder τ] {values : MonitorValues} {isoformat : τ → String}

theorem Stamped.consistent {time : τ} {row : MonitorEvent τ} (h : Stamped values time row)
    (hseen : row.firstSeenAtUtc ≤ time) : row.Consistent values := by
  obtain ⟨rfl, ⟨hstatus, hresolved⟩ | ⟨hstatus, hresolved⟩⟩ := h
  · exact ⟨by simp [hstatus, hresolved], fun hne => absurd hresolved hne, hseen⟩
  · refine ⟨?_, fun _ => ⟨hstatus, hresolved⟩, hseen⟩
    simp [hstatus, hresolved, values.statuses_ne.symm]

theorem Bookkept.object {slot : Slot (MonitorEvent τ)} (h : Bookkept values slot)
    {row : MonitorEvent τ} (hrow : slot.row = some row) :
    (slot.object row).Consistent values ∧ (slot.object row).lastSeenAtUtc ≤ row.lastSeenAtUtc := by
  unfold Slot.object
  cases hheld : slot.held with
  | none => exact ⟨h.row row hrow, le_refl _⟩
  | some object =>
      obtain ⟨hconsistent, row', hrow', hle⟩ := h.held object hheld
      cases hrow.symm.trans hrow'
      exact ⟨hconsistent, hle⟩

theorem MonitorEvent.Consistent.congr {row row' : MonitorEvent τ} (h : row.Consistent values)
    (hstatus : row'.status = row.status) (hresolved : row'.resolvedAtUtc = row.resolvedAtUtc)
    (hfirst : row'.firstSeenAtUtc = row.firstSeenAtUtc)
    (hlast : row'.lastSeenAtUtc = row.lastSeenAtUtc) : row'.Consistent values :=
  ⟨by rw [hstatus, hresolved]; exact h.open_iff, by rw [hstatus, hresolved, hlast]; exact h.resolved,
    by rw [hfirst, hlast]; exact h.seen⟩

omit [PartialOrder τ] in
theorem resolved_of_object {slot : Slot (MonitorEvent τ)} (h : ¬ Misleading values slot)
    {row : MonitorEvent τ} (hrow : slot.row = some row)
    (hobject : (slot.object row).status = values.resolvedStatus) :
    row.status = values.resolvedStatus := by
  by_contra hne
  unfold Slot.object at hobject
  cases hheld : slot.held with
  | none =>
      rw [hheld] at hobject
      exact hne hobject
  | some object =>
      rw [hheld] at hobject
      exact h ⟨object, hheld, hobject, row, hrow, hne⟩

/-- A query leaves the row, and its object was held before or is the row. -/
theorem Bookkept.load {slot : Slot (MonitorEvent τ)} (h : Bookkept values slot) :
    Bookkept values slot.load := by
  unfold Slot.load
  split
  · exact h
  · rename_i row hrow
    refine ⟨h.row, fun object hobject => ?_⟩
    cases hobject
    exact ⟨(h.object hrow).1, row, hrow, (h.object hrow).2⟩

/-- An upsert stamps the row, and an object that was held shows an earlier state. -/
theorem Bookkept.upsert {slot : Slot (MonitorEvent τ)} (h : Bookkept values slot) {time : τ}
    (htime : ∀ row ∈ slot.row, row.lastSeenAtUtc ≤ time) {inserted : MonitorEvent τ}
    {set : MonitorEvent τ → MonitorEvent τ} (hinserted : Stamped values time inserted)
    (hfirst : inserted.firstSeenAtUtc = time) (hset : ∀ row, Stamped values time (set row))
    (hkept : ∀ row, (set row).firstSeenAtUtc = row.firstSeenAtUtc) :
    Bookkept values (slot.upsert inserted set) := by
  have hstamped : Stamped values time (slot.row.elim inserted set) ∧
      (slot.row.elim inserted set).firstSeenAtUtc ≤ time := by
    cases hrow : slot.row with
    | none => exact ⟨hinserted, hfirst.le⟩
    | some row =>
        refine ⟨hset row, ?_⟩
        rw [Option.elim_some, hkept]
        exact (h.row row hrow).seen.trans (htime row hrow)
  refine Bookkept.load ⟨fun row hrow => ?_, fun object hobject => ⟨(h.held object hobject).1, _, rfl, ?_⟩⟩
  · cases hrow
    exact hstamped.1.consistent hstamped.2
  · obtain ⟨-, row, hrow, hle⟩ := h.held object hobject
    exact hstamped.1.1 ▸ hle.trans (htime row hrow)

variable [DecidableEq τ]

/-- `resolve_event` through an object that is not misleading: whichever columns it writes, the row ends
    resolved at the time of the call. -/
theorem stamped_resolved {object row : MonitorEvent τ} {nowUtc : τ} (detailsJson : Option JsonDict)
    (hobject : object.Consistent values) (hrow : row.Consistent values)
    (hle : object.lastSeenAtUtc ≤ row.lastSeenAtUtc) (htime : row.lastSeenAtUtc ≤ nowUtc)
    (hinformed : object.status = values.resolvedStatus → row.status = values.resolvedStatus) :
    Stamped values nowUtc
      (monitorColumns.write object (setResolved values nowUtc detailsJson object) row) := by
  -- an object that was last seen now shows a row that was last seen now
  have hnow : object.lastSeenAtUtc = nowUtc → row.lastSeenAtUtc = nowUtc := fun h =>
    le_antisymm htime (h ▸ hle)
  refine ⟨?_, .inr ⟨?_, ?_⟩⟩
  · rcases Column.write_cases object.lastSeenAtUtc nowUtc row.lastSeenAtUtc with hwritten | ⟨h, hkept⟩
    · exact hwritten
    · exact hkept.trans (hnow h.symm)
  · rcases Column.write_cases object.status values.resolvedStatus row.status with
      hwritten | ⟨h, hkept⟩
    · exact hwritten
    · exact hkept.trans (hinformed h.symm)
  · rcases Column.write_cases object.resolvedAtUtc (some nowUtc) row.resolvedAtUtc with
      hwritten | ⟨h, hkept⟩
    · exact hwritten
    · obtain ⟨hstatus, hseen⟩ := hobject.resolved (h ▸ Option.some_ne_none nowUtc)
      have hresolved : row.resolvedAtUtc ≠ none := fun hnone =>
        values.statuses_ne ((hrow.open_iff.mpr hnone).symm.trans (hinformed hstatus))
      refine hkept.trans ((hrow.resolved hresolved).2.trans (congrArg some (hnow ?_)))
      exact Option.some.inj (hseen.symm.trans h.symm)

/-- A flush: the row that it leaves, and the object, which does not show a later one. -/
theorem Bookkept.modify {slot : Slot (MonitorEvent τ)} (h : Bookkept values slot)
    {set : MonitorEvent τ → MonitorEvent τ}
    (hset : ∀ row, slot.row = some row →
      (monitorColumns.write (slot.object row) (set (slot.object row)) row).Consistent values ∧
      (set (slot.object row)).Consistent values ∧
      (set (slot.object row)).lastSeenAtUtc ≤
        (monitorColumns.write (slot.object row) (set (slot.object row)) row).lastSeenAtUtc) :
    Bookkept values (slot.modify monitorColumns set) := by
  unfold Slot.modify
  split
  · exact h
  · rename_i row hrow
    obtain ⟨hstored, hobject, hle⟩ := hset row hrow
    constructor
    · intro row' hrow'
      cases hrow'
      exact hstored
    · intro object hobject'
      cases hobject'
      exact ⟨hobject, _, rfl, hle⟩

/-- One informed step, at a time that is not before the row was last seen. -/
theorem Bookkept.effect {slot : Slot (MonitorEvent τ)} (h : Bookkept values slot)
    (step : MonitorStep τ) (hinformed : Informed values slot step)
    (htime : ∀ time ∈ step.time?, ∀ row ∈ slot.row, row.lastSeenAtUtc ≤ time) :
    Bookkept values (step.effect values isoformat slot) := by
  cases step with
  | find dedupeKey => exact h.load
  | release dedupeKey => exact ⟨h.row, fun object hobject => nomatch hobject⟩
  | call call =>
      have hseen : ∀ row ∈ slot.row, row.lastSeenAtUtc ≤ call.time := htime call.time rfl
      cases call with
      | upsertOpenEvent eventId args releaseId marketTicker =>
          exact h.upsert hseen ⟨rfl, .inl ⟨rfl, rfl⟩⟩ rfl (fun _ => ⟨rfl, .inl ⟨rfl, rfl⟩⟩)
            fun _ => rfl
      | upsertResolvedEvent eventId args =>
          exact h.upsert hseen ⟨rfl, .inr ⟨rfl, rfl⟩⟩ rfl (fun _ => ⟨rfl, .inr ⟨rfl, rfl⟩⟩)
            fun _ => rfl
      | recordLiveCycleSuccess eventId nowUtc =>
          exact h.upsert hseen ⟨rfl, .inr ⟨rfl, rfl⟩⟩ rfl (fun _ => ⟨rfl, .inr ⟨rfl, rfl⟩⟩)
            fun _ => rfl
      | resolveEvent dedupeKey nowUtc detailsJson =>
          refine h.modify fun row hrow => ?_
          obtain ⟨hobject, hle⟩ := h.object hrow
          have hnow : row.lastSeenAtUtc ≤ nowUtc := hseen row hrow
          have hstamped := stamped_resolved detailsJson hobject (h.row row hrow) hle hnow
            (resolved_of_object hinformed hrow)
          refine ⟨hstamped.consistent ?_, ?_, hstamped.1.ge⟩
          · exact (Column.write_unchanged _ _).trans_le ((h.row row hrow).seen.trans hnow)
          · have hset : Stamped values nowUtc (setResolved values nowUtc detailsJson (slot.object row)) :=
              ⟨rfl, .inr ⟨rfl, rfl⟩⟩
            exact hset.consistent (hobject.seen.trans (hle.trans hnow))
      | markAlertSent dedupeKey sentAtUtc =>
          refine h.modify fun row hrow => ?_
          obtain ⟨hobject, hle⟩ := h.object hrow
          refine ⟨(h.row row hrow).congr (Column.write_unchanged _ _) (Column.write_unchanged _ _)
            (Column.write_unchanged _ _) (Column.write_unchanged _ _), hobject.congr rfl rfl rfl rfl, ?_⟩
          exact hle.trans (Column.write_unchanged _ _).ge

/-- After informed steps at times that do not decrease, a row is last seen at the time of a call. -/
theorem slotAfter_bookkept {steps : List (MonitorStep τ)} (htimes : (times steps).Pairwise (· ≤ ·))
    (hinformed : InformedRun values isoformat steps) (key : String) :
    Bookkept values (slotAfter values isoformat key steps) ∧
      ∀ row ∈ (slotAfter values isoformat key steps).row, row.lastSeenAtUtc ∈ times steps := by
  induction steps using List.reverseRecOn with
  | nil => exact ⟨⟨fun _ h => (nomatch h), fun _ h => (nomatch h)⟩, fun _ h => nomatch h⟩
  | append_singleton steps step ih =>
      rw [times, List.filterMap_append, ← times, List.pairwise_append] at htimes
      rw [times, List.filterMap_append, ← times]
      obtain ⟨hearlier, hstep⟩ := EachSlot.of_concat hinformed
      obtain ⟨hbookkept, hseen⟩ := ih htimes.1 hearlier
      rw [slotAfter_concat]
      split
      · rename_i hkey
        rw [← hkey] at hstep
        refine ⟨hbookkept.effect step hstep fun time htime row hrow => ?_, fun row' hrow' => ?_⟩
        · refine htimes.2.2 _ (hseen row hrow) time ?_
          rw [List.mem_filterMap]
          exact ⟨step, List.mem_singleton_self _, htime⟩
        · cases hold : (slotAfter values isoformat key steps).row with
          | none =>
              obtain ⟨call, rfl, hinserted⟩ := MonitorStep.effect_none hold hrow'
              refine List.mem_append_right _ (List.mem_filterMap.mpr ⟨_, List.mem_singleton_self _, ?_⟩)
              exact congrArg some hinserted.stamped.1.symm
          | some row =>
              obtain ⟨same, hsame, htouched⟩ := step.effect_some values isoformat hold
              cases hrow'.symm.trans hsame
              rcases htouched.lastSeen with hlast | htime
              · rw [hlast]
                exact List.mem_append_left _ (hseen row hold)
              · exact List.mem_append_right _
                  (List.mem_filterMap.mpr ⟨step, List.mem_singleton_self _, htime⟩)
      · exact ⟨hbookkept, fun row hrow => List.mem_append_left _ (hseen row hrow)⟩

end Bookkeeping

/-! ## After any steps -/

section AnySteps

variable [DecidableEq τ] (values : MonitorValues) (isoformat : τ → String)

/-- The row of the key was inserted by the call `creating`, after the steps `before`. -/
structure Inserts (key : String) (before : List (MonitorStep τ)) (creating : MonitorCall τ) :
    Prop where
  absent : ∃ session, runMonitor values isoformat before = .ok session ∧
    session.table.get? key = none
  present : ∃ session row, runMonitor values isoformat (before ++ [.call creating]) = .ok session ∧
    session.table.get? key = some row

/-- After any steps with calls at times that do not decrease, none of which is a `resolve_event` on an
    object that shows the event resolved while its row is open: no call has raised and no key has two
    rows; a row is consistent, counts the openings since its insertion, and has an alert time only
    through `mark_alert_sent`; a key that was upserted has a row, and what an earlier row was inserted
    with has stayed; and the two methods that only update do nothing for an unknown key. -/
theorem runMonitor_bookkeeping [PartialOrder τ] (steps : List (MonitorStep τ))
    (htimes : (times steps).Pairwise (· ≤ ·)) (hinformed : InformedRun values isoformat steps) :
    ∃ session, runMonitor values isoformat steps = .ok session ∧
      (session.table.rows.map MonitorEvent.dedupeKey).Nodup ∧
      (∀ row ∈ session.table.rows, row.Consistent values ∧ ∃ before creating later,
        steps = before ++ .call creating :: later ∧
        Inserts values isoformat row.dedupeKey before creating ∧
        row.occurrenceCount = 1 + later.countP (MonitorStep.opens row.dedupeKey) ∧
        (row.alertSentAtUtc ≠ none →
          ∃ sentAtUtc, .call (.markAlertSent row.dedupeKey sentAtUtc) ∈ later)) ∧
      (∀ call, .call call ∈ steps → call.inserts = true →
        ∃ row ∈ session.table.rows, row.dedupeKey = call.key values) ∧
      (∀ before later earlier, steps = before ++ later →
        runMonitor values isoformat before = .ok earlier → ∀ row ∈ earlier.table.rows,
          ∃ row' ∈ session.table.rows, row'.dedupeKey = row.dedupeKey ∧ KeptBy later row row') ∧
      ∀ (known : MonitorSession τ) key, known.table.get? key = none → ∀ time,
        (∀ detailsJson, resolveEvent values key time detailsJson known = (none, known)) ∧
        markAlertSent key time known = known := by
  obtain ⟨session, hrun, hslots⟩ := runMonitor_spec values isoformat steps
  have hget : ∀ key, session.table.get? key = (slotAfter values isoformat key steps).row := fun key =>
    congrArg Slot.row (hslots key)
  refine ⟨session, hrun, session.table.unique, fun row hrow => ?_, fun call hcall hinserts => ?_, ?_,
    fun known key hnone time => ?_⟩
  · have hafter : (slotAfter values isoformat row.dedupeKey steps).row = some row :=
      (hget _).symm.trans (Indexed.get?_eq_some_iff.mpr ⟨hrow, rfl⟩)
    refine ⟨(slotAfter_bookkept htimes hinformed row.dedupeKey).1.row row hafter, ?_⟩
    obtain ⟨before, creating, later, hsteps, habsent, hpresent, hcount, halert⟩ :=
      slotAfter_counted hafter
    refine ⟨before, creating, later, hsteps, ⟨?_, ?_⟩, hcount, halert⟩
    · obtain ⟨earlier, hearlier, hrows⟩ := runMonitor_spec values isoformat before
      exact ⟨earlier, hearlier, (congrArg Slot.row (hrows _)).trans habsent⟩
    · obtain ⟨created, hcreated, hrows⟩ :=
        runMonitor_spec values isoformat (before ++ [.call creating])
      obtain ⟨new, hnew⟩ := Option.isSome_iff_exists.mp hpresent
      exact ⟨created, new, hcreated, (congrArg Slot.row (hrows _)).trans hnew⟩
  · have hsome := isSome_slotAfter values isoformat hcall hinserts
    obtain ⟨row, hrow⟩ := Option.isSome_iff_exists.mp hsome
    exact ⟨row, Indexed.get?_eq_some_iff.mp ((hget _).trans hrow)⟩
  · rintro before later earlier rfl hearlier row hrow
    obtain ⟨same, hsame, hrows⟩ := runMonitor_spec values isoformat before
    cases hearlier.symm.trans hsame
    have hbefore : (slotAfter values isoformat row.dedupeKey before).row = some row :=
      (congrArg Slot.row (hrows _)).symm.trans (Indexed.get?_eq_some_iff.mpr ⟨hrow, rfl⟩)
    obtain ⟨row', hrow', hkept⟩ := slotAfter_kept later rfl hbefore
    have hmem := Indexed.get?_eq_some_iff.mp ((hget _).trans hrow')
    exact ⟨row', hmem.1, hmem.2, hkept⟩
  · exact ⟨resolveEvent_of_none hnone time, markAlertSent_of_none hnone time⟩

end AnySteps

def sampleValues : MonitorValues where
  openStatus := "open"
  resolvedStatus := "resolved"
  liveCycleStalled := "live_cycle_stalled"
  critical := "critical"
  statuses_ne := by decide

/-- An opening of the live-cycle event. -/
def sampleOpening (eventId : String) (nowUtc : Nat) : MonitorStep Nat :=
  .call (.upsertOpenEvent eventId ⟨"live_cycle_stalled", "live_runner", "critical",
    "live_cycle_stalled", "Stalled", "", [], nowUtc⟩ none none)

def sampleResolution (nowUtc : Nat) : MonitorStep Nat :=
  .call (.resolveEvent "live_cycle_stalled" nowUtc none)

/-- The live cycle stalls, recovers and stalls again, and its event is read anew before it is
    resolved. -/
def sampleSteps : List (MonitorStep Nat) :=
  [sampleOpening "e-1" 1, .call (.markAlertSent "live_cycle_stalled" 2),
    .call (.recordLiveCycleSuccess "e-2" 3), sampleOpening "e-3" 3, .release "live_cycle_stalled",
    sampleResolution 4, .call (.resolveEvent "unknown" 5 none)]

theorem runMonitor_bookkeeping_stalled : ∃ session row,
    runMonitor sampleValues toString sampleSteps = .ok session ∧ session.table.rows = [row] ∧
      row.eventId = "e-1" ∧ row.status = "resolved" ∧ row.resolvedAtUtc = some 4 ∧
      row.occurrenceCount = 2 ∧ row.alertSentAtUtc = some 2 ∧ row.Consistent sampleValues := by
  obtain ⟨session, hrun, -, hrows, -⟩ :=
    runMonitor_bookkeeping sampleValues toString sampleSteps (by decide) (by decide)
  cases hrun
  exact ⟨_, _, rfl, rfl, rfl, rfl, rfl, rfl, rfl, (hrows _ List.mem_cons_self).1⟩

/-- The caller keeps the event that the first opening returned, and so its object, which shows it
    resolved when it is opened again: the second resolution leaves the row open. -/
theorem resolveEvent_leaves_open : ¬ ∀ (values : MonitorValues) (isoformat : Nat → String)
    (steps : List (MonitorStep Nat)), (times steps).Pairwise (· ≤ ·) →
    ∃ session, runMonitor values isoformat steps = .ok session ∧ ∀ row ∈ session.table.rows,
      (row.status = values.openStatus ↔ row.resolvedAtUtc = none) := by
  intro hall
  obtain ⟨session, hrun, hrows⟩ := hall sampleValues toString
    [sampleOpening "e-1" 1, sampleResolution 2, sampleOpening "e-2" 3, sampleResolution 4] (by decide)
  cases hrun
  exact nomatch (hrows _ List.mem_cons_self).mp rfl

end CodexOrchestrator
