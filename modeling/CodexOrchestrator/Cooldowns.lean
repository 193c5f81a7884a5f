import CodexOrchestrator.Db.Queries
import CodexOrchestrator.Notifications

/-!
# Cooldowns — which deliveries hold back later notifications

Signals and notifications are written in any order, and the cooldown queries join them.  A delivery
holds back the notifications that its signal, as it was first written, is a duplicate of; no later
write takes it away.
-/

namespace CodexOrchestrator

open SignalRepository NotificationRepository

variable {τ : Type}

/-! ## Calls -/

inductive RecordCall (τ : Type) where
  | upsertSignal (values : Signal τ)
  | createNotification (attempt : Notification τ)

/-- The two tables. -/
structure Records (τ : Type) where
  signals : SignalTable τ
  notifications : NotificationTable τ

namespace RecordCall

def signal? : RecordCall τ → Option (Signal τ)
  | upsertSignal values => some values
  | createNotification _ => none

def attempt? : RecordCall τ → Option (Notification τ)
  | upsertSignal _ => none
  | createNotification attempt => some attempt

def execute (failed : String) (call : RecordCall τ) (records : Records τ) :
    Except PyError (Records τ) :=
  match call with
  | upsertSignal values =>
      .ok { records with signals := SignalRepository.upsertSignal values records.signals }
  | createNotification attempt => do
      let notifications ← attempt.create failed records.notifications
      return { records with notifications }

end RecordCall

/-- The calls one after another, on empty tables. -/
def runRecords (failed : String) (calls : List (RecordCall τ)) : Except PyError (Records τ) :=
  calls.foldlM (fun records call => call.execute failed records)
    ⟨Indexed.empty, NotificationTable.empty⟩

def signalsOf (calls : List (RecordCall τ)) : List (Signal τ) := calls.filterMap RecordCall.signal?

def attemptsOf (calls : List (RecordCall τ)) : List (Notification τ) :=
  calls.filterMap RecordCall.attempt?

def Signal.statement (values : Signal τ) : Indexed.Upsert (Signal.signalId (τ := τ)) :=
  ⟨values, signalAssignment values⟩

theorem createAll_concat (failed : String) (attempts : List (Notification τ))
    (attempt : Notification τ) : createAll failed (attempts ++ [attempt]) =
      (createAll failed attempts).bind fun table => attempt.create failed table := by
  unfold createAll
  rw [List.foldlM_append]
  refine congrArg (Except.bind _) (funext fun table => ?_)
  rw [List.foldlM_cons]
  cases attempt.create failed table <;> rfl

/-- The two tables are written independently. -/
theorem runRecords_eq (failed : String) (calls : List (RecordCall τ)) :
    runRecords failed calls = (createAll failed (attemptsOf calls)).map fun notifications =>
      ⟨Indexed.upsertAll ((signalsOf calls).map Signal.statement), notifications⟩ := by
  induction calls using List.reverseRecOn with
  | nil => rfl
  | append_singleton calls call ih =>
      have hstep : runRecords failed (calls ++ [call]) =
          (runRecords failed calls).bind fun records => call.execute failed records := by
        unfold runRecords
        rw [List.foldlM_append]
        refine congrArg (Except.bind _) (funext fun records => ?_)
        rw [List.foldlM_cons]
        cases call.execute failed records <;> rfl
      have hattempts : attemptsOf (calls ++ [call]) = attemptsOf calls ++ call.attempt?.toList := by
        rw [attemptsOf, List.filterMap_append, ← attemptsOf]
        cases call <;> rfl
      have hsignals : signalsOf (calls ++ [call]) = signalsOf calls ++ call.signal?.toList := by
        rw [signalsOf, List.filterMap_append, ← signalsOf]
        cases call <;> rfl
      rw [hstep, ih, hattempts, hsignals]
      cases call with
      | upsertSignal values =>
          rw [RecordCall.attempt?, Option.toList_none, List.append_nil, RecordCall.signal?,
            Option.toList_some, List.map_append, Indexed.upsertAll, Indexed.upsertAll,
            List.foldl_append]
          cases createAll failed (attemptsOf calls) <;> rfl
      | createNotification attempt =>
          rw [RecordCall.signal?, Option.toList_none, List.append_nil, RecordCall.attempt?,
            Option.toList_some, createAll_concat]
          cases createAll failed (attemptsOf calls) with
          | error e => rfl
          | ok table =>
              dsimp only [Except.map, Except.bind, RecordCall.execute]
              cases attempt.create failed table <;> rfl

/-! ## The identity of a signal -/

/-- The columns that an upsert of a signal that is there leaves alone. -/
def Signal.identity (signal : Signal τ) : String × String × String :=
  (signal.releaseId, signal.signalType, signal.marketTicker)

/-- What a signal was first written with. -/
def firstIdentity (signalId : String) (signals : List (Signal τ)) :
    Option (String × String × String) :=
  (signals.find? fun signal => signal.signalId = signalId).map Signal.identity

theorem identity_rowAfter (signalId : String) (signals : List (Signal τ)) :
    (Indexed.rowAfter signalId (signals.map Signal.statement)).map Signal.identity =
      firstIdentity signalId signals := by
  induction signals using List.reverseRecOn with
  | nil => rfl
  | append_singleton signals signal ih =>
      rw [List.map_append, List.map_singleton, Indexed.rowAfter_concat, firstIdentity,
        List.find?_append, Option.map_or, ← firstIdentity, ← ih]
      by_cases hid : signal.signalId = signalId
      · rw [if_pos (show signal.statement.values.signalId = signalId from hid)]
        cases Indexed.rowAfter signalId (signals.map Signal.statement) with
        | none => simp [Indexed.Upsert.effect, Signal.statement, hid]
        | some row => rfl
      · rw [if_neg (show ¬ signal.statement.values.signalId = signalId from hid)]
        simp [hid]

/-- The identity stays. -/
theorem firstIdentity_append {signalId : String} {signals : List (Signal τ)}
    {identity : String × String × String} (h : firstIdentity signalId signals = some identity)
    (later : List (Signal τ)) : firstIdentity signalId (signals ++ later) = some identity := by
  rw [firstIdentity, List.find?_append, Option.map_or, ← firstIdentity, h, Option.some_or]

/-! ## The queries on the tables -/

theorem mem_joinSignals {notifications : NotificationTable τ} {signals : SignalTable τ}
    {notification : Notification τ} {signal : Signal τ} :
    (notification, signal) ∈ joinSignals notifications signals ↔
      notification ∈ notifications.index.rows ∧
        signals.get? notification.signalId = some signal := by
  rw [joinSignals, List.mem_flatMap]
  constructor
  · rintro ⟨other, hother, hpair⟩
    obtain ⟨signal', hsignal, he⟩ := List.mem_map.mp hpair
    cases he
    obtain ⟨hmem, hid⟩ := List.mem_filter.mp hsignal
    exact ⟨hother, Indexed.get?_eq_some_iff.mpr ⟨hmem, (of_decide_eq_true hid).symm⟩⟩
  · rintro ⟨hmem, hget⟩
    obtain ⟨hsignal, hid⟩ := Indexed.get?_eq_some_iff.mp hget
    exact ⟨notification, hmem, List.mem_map.mpr ⟨signal,
      List.mem_filter.mpr ⟨hsignal, decide_eq_true hid.symm⟩, rfl⟩⟩

section Queries

variable {values : DeliveryValues} {minusSeconds : τ → Int → Except PyError τ}
  {nowUtc threshold : τ} {releaseId signalType marketTicker : String} {cooldownSeconds : Int}
  {notifications : NotificationTable τ} {signals : SignalTable τ}

/-- Both queries ask whether some notification and its signal meet a condition. -/
theorem exists_joined_iff (hthreshold : minusSeconds nowUtc cooldownSeconds = .ok threshold)
    (cond : τ → Notification τ × Signal τ → Bool) :
    (do
        let threshold ← minusSeconds nowUtc cooldownSeconds
        let row ← scalarOneOrNone
          (((joinSignals notifications signals).filter (cond threshold)).take 1)
        return row.isSome) = Except.ok true ↔
      ∃ notification ∈ notifications.index.rows, ∃ signal,
        signals.get? notification.signalId = some signal ∧
        cond threshold (notification, signal) = true := by
  rw [hthreshold, Raise.ok_bind, scalarOneOrNone_take_one, Raise.ok_bind, List.head?_filter]
  change Except.ok _ = Except.ok true ↔ _
  rw [Except.ok.injEq, List.find?_isSome]
  constructor
  · rintro ⟨⟨notification, signal⟩, hjoin, hcond⟩
    obtain ⟨hmem, hget⟩ := mem_joinSignals.mp hjoin
    exact ⟨notification, hmem, signal, hget, hcond⟩
  · rintro ⟨notification, hmem, signal, hget, hcond⟩
    exact ⟨(notification, signal), mem_joinSignals.mpr ⟨hmem, hget⟩, hcond⟩

variable [LinearOrder τ]

theorem hasDuplicateInCooldown_iff
    (hthreshold : minusSeconds nowUtc cooldownSeconds = .ok threshold) :
    hasDuplicateInCooldown values minusSeconds nowUtc releaseId signalType marketTicker
        cooldownSeconds notifications signals = .ok true ↔
      ∃ notification ∈ notifications.index.rows, ∃ signal,
        signals.get? notification.signalId = some signal ∧
        signal.identity = (releaseId, signalType, marketTicker) ∧
        threshold ≤ notification.sentAtUtc ∧ notification.deliveryStatus = values.sent := by
  rw [hasDuplicateInCooldown, exists_joined_iff hthreshold]
  simp only [decide_eq_true_eq, Signal.identity, Prod.mk.injEq, and_assoc]

theorem hasRecentForMarket_iff
    (hthreshold : minusSeconds nowUtc cooldownSeconds = .ok threshold) :
    hasRecentForMarket values minusSeconds nowUtc marketTicker cooldownSeconds notifications
        signals = .ok true ↔
      ∃ releaseId signalType, hasDuplicateInCooldown values minusSeconds nowUtc releaseId signalType
        marketTicker cooldownSeconds notifications signals = .ok true := by
  simp only [hasDuplicateInCooldown_iff hthreshold]
  rw [hasRecentForMarket, exists_joined_iff hthreshold]
  simp only [decide_eq_true_eq, Signal.identity, Prod.mk.injEq]
  constructor
  · rintro ⟨notification, hmem, signal, hget, hmarket, hsent⟩
    exact ⟨signal.releaseId, signal.signalType, notification, hmem, signal, hget, ⟨rfl, rfl, hmarket⟩,
      hsent⟩
  · rintro ⟨releaseId, signalType, notification, hmem, signal, hget, ⟨-, -, hmarket⟩, hsent⟩
    exact ⟨notification, hmem, signal, hget, hmarket, hsent⟩

end Queries

/-! ## After any calls -/

section History

variable (values : DeliveryValues)

/-- The attempt delivered the notification of its signal and channel, before any other attempt that
    did not fail. -/
def IsDelivery (attempts : List (Notification τ)) (attempt : Notification τ) : Prop :=
  settled values.failed (attemptsFor attempt.target attempts) = some attempt ∧
    attempt.deliveryStatus = values.sent

/-- A delivery stays the delivery of its signal and channel. -/
theorem IsDelivery.append {values : DeliveryValues} {attempts : List (Notification τ)}
    {attempt : Notification τ} (h : IsDelivery values attempts attempt)
    (later : List (Notification τ)) : IsDelivery values (attempts ++ later) attempt := by
  induction later using List.reverseRecOn with
  | nil => rwa [List.append_nil]
  | append_singleton later next ih =>
      refine ⟨?_, h.2⟩
      have hattempts : attemptsFor attempt.target (attempts ++ (later ++ [next])) =
          if next.target = attempt.target then attemptsFor attempt.target (attempts ++ later) ++ [next]
          else attemptsFor attempt.target (attempts ++ later) := by
        rw [← List.append_assoc]
        exact Query.filter_concat (fun other : Notification τ => other.target = attempt.target) _ next
      rw [hattempts]
      by_cases htarget : next.target = attempt.target
      · have hkept : ¬ attempt.deliveryStatus = values.failed := h.2 ▸ values.sent_ne
        rw [if_pos htarget, settled_concat, ih.1, Option.elim_some, if_neg hkept]
      · rw [if_neg htarget]
        exact ih.1

variable [LinearOrder τ]

/-- What holds back a notification. -/
def HeldBack (calls : List (RecordCall τ)) (identity : String × String × String) (threshold : τ) :
    Prop :=
  ∃ attempt, IsDelivery values (attemptsOf calls) attempt ∧ threshold ≤ attempt.sentAtUtc ∧
    firstIdentity attempt.signalId (signalsOf calls) = some identity

theorem hasDuplicateInCooldown_runRecords {values : DeliveryValues} {calls : List (RecordCall τ)}
    (hfresh : ((attemptsOf calls).map Notification.notificationId).Nodup) :
    ∃ records, runRecords values.failed calls = .ok records ∧
      ∀ {minusSeconds : τ → Int → Except PyError τ} {nowUtc threshold : τ}
        {releaseId signalType marketTicker : String} {cooldownSeconds : Int},
        minusSeconds nowUtc cooldownSeconds = .ok threshold →
          (hasDuplicateInCooldown values minusSeconds nowUtc releaseId signalType marketTicker
              cooldownSeconds records.notifications records.signals = .ok true ↔
            HeldBack values calls (releaseId, signalType, marketTicker) threshold) := by
  obtain ⟨notifications, hrun, -, hget⟩ := createAll_spec values.failed (attemptsOf calls) hfresh
  refine ⟨⟨Indexed.upsertAll ((signalsOf calls).map Signal.statement), notifications⟩, ?_, ?_⟩
  · rw [runRecords_eq, hrun]
    rfl
  · intro minusSeconds nowUtc threshold releaseId signalType marketTicker cooldownSeconds hthreshold
    have hrow : ∀ row : Notification τ, row ∈ notifications.index.rows ↔
        settled values.failed (attemptsFor row.target (attemptsOf calls)) = some row := fun row => by
      rw [← hget]
      exact Indexed.mem_rows_iff
    have hidentity : ∀ signalId, ((Indexed.upsertAll ((signalsOf calls).map Signal.statement)).get?
        signalId).map Signal.identity = firstIdentity signalId (signalsOf calls) := fun signalId => by
      rw [Indexed.get?_upsertAll, identity_rowAfter]
    rw [hasDuplicateInCooldown_iff hthreshold]
    constructor
    · rintro ⟨attempt, hmem, signal, hsignal, hsame, hsince, hsent⟩
      refine ⟨attempt, ⟨(hrow attempt).mp hmem, hsent⟩, hsince, ?_⟩
      rw [← hidentity, hsignal, Option.map_some, hsame]
    · rintro ⟨attempt, ⟨hsettled, hsent⟩, hsince, hfirst⟩
      rw [← hidentity, Option.map_eq_some_iff] at hfirst
      obtain ⟨signal, hsignal, hsame⟩ := hfirst
      exact ⟨attempt, (hrow attempt).mpr hsettled, signal, hsignal, hsame, hsince, hsent⟩

theorem HeldBack.append {values : DeliveryValues} {calls : List (RecordCall τ)}
    {identity : String × String × String} {threshold : τ}
    (h : HeldBack values calls identity threshold) (later : List (RecordCall τ)) :
    HeldBack values (calls ++ later) identity threshold := by
  obtain ⟨attempt, hdelivered, hsince, hfirst⟩ := h
  refine ⟨attempt, ?_, hsince, ?_⟩
  · rw [attemptsOf, List.filterMap_append]
    exact hdelivered.append _
  · rw [signalsOf, List.filterMap_append]
    exact firstIdentity_append hfirst _

/-- After any calls, with notification ids of their own: a notification is a duplicate in its cooldown
    exactly when some signal was first written with its release, type and market, and the first attempt
    on a channel of that signal that did not fail was sent, at the threshold or later; a market has a
    recent notification exactly when there is such a duplicate for it; and no later calls take the
    answer back. -/
theorem cooldowns_runRecords (values : DeliveryValues) (calls later : List (RecordCall τ))
    (hfresh : ((attemptsOf (calls ++ later)).map Notification.notificationId).Nodup)
    (minusSeconds : τ → Int → Except PyError τ) (nowUtc threshold : τ) (cooldownSeconds : Int)
    (hthreshold : minusSeconds nowUtc cooldownSeconds = .ok threshold) :
    ∃ before after, runRecords values.failed calls = .ok before ∧
      runRecords values.failed (calls ++ later) = .ok after ∧
      ∀ releaseId signalType marketTicker,
        let duplicate (records : Records τ) : Except PyError Bool :=
          hasDuplicateInCooldown values minusSeconds nowUtc releaseId signalType marketTicker
            cooldownSeconds records.notifications records.signals
        (duplicate before = .ok true ↔
          HeldBack values calls (releaseId, signalType, marketTicker) threshold) ∧
        (hasRecentForMarket values minusSeconds nowUtc marketTicker cooldownSeconds
            before.notifications before.signals = .ok true ↔
          ∃ releaseId signalType,
            HeldBack values calls (releaseId, signalType, marketTicker) threshold) ∧
        (duplicate before = .ok true → duplicate after = .ok true) := by
  have hbefore : ((attemptsOf calls).map Notification.notificationId).Nodup := by
    rw [attemptsOf, List.filterMap_append, List.map_append] at hfresh
    exact hfresh.of_append_left
  obtain ⟨before, hrun, hduplicate⟩ := hasDuplicateInCooldown_runRecords hbefore
  obtain ⟨after, hrunAfter, hduplicateAfter⟩ := hasDuplicateInCooldown_runRecords hfresh
  refine ⟨before, after, hrun, hrunAfter, fun releaseId signalType marketTicker => ⟨?_, ?_, ?_⟩⟩
  · exact hduplicate hthreshold
  · rw [hasRecentForMarket_iff hthreshold]
    simp only [hduplicate hthreshold]
  · intro h
    exact (hduplicateAfter hthreshold).mpr (((hduplicate hthreshold).mp h).append later)

end History

def sampleDeliveryValues : DeliveryValues := ⟨"failed", "sent", by decide⟩

/-- A signal, a failed attempt and its retry. -/
def sampleRecordCalls : List (RecordCall Nat) :=
  [.upsertSignal ⟨"s", "r", "m", "jump", 80, "high", [], [], 1⟩,
    .createNotification ⟨"n-1", "s", "slack", 2, "failed", []⟩,
    .createNotification ⟨"n-2", "s", "slack", 5, "sent", []⟩]

/-- Ten seconds later and after a new score of the signal, it is held back for a minute. -/
theorem cooldowns_runRecords_sample : ∃ after,
    runRecords "failed" (sampleRecordCalls ++
      [.upsertSignal ⟨"s", "r", "m", "jump", 90, "high", [], [], 12⟩]) = .ok after ∧
    hasDuplicateInCooldown sampleDeliveryValues (fun time seconds => .ok (time - seconds.toNat)) 15 "r"
      "jump" "m" 60 after.notifications after.signals = .ok true := by
  obtain ⟨before, after, -, hafter, h⟩ := cooldowns_runRecords sampleDeliveryValues sampleRecordCalls
    [.upsertSignal ⟨"s", "r", "m", "jump", 90, "high", [], [], 12⟩] (by decide)
    (fun time seconds => .ok (time - seconds.toNat)) 15 0 60 rfl
  obtain ⟨hduplicate, -, hkept⟩ := h "r" "jump" "m"
  exact ⟨after, hafter, hkept (hduplicate.mpr ⟨⟨"n-2", "s", "slack", 5, "sent", []⟩, ⟨rfl, rfl⟩,
    by decide, rfl⟩)⟩

/-! ## What is still failing -/

section Failures

variable (failed : String)

/-- The latest of the attempts, when all have failed. -/
def failing (attempts : List (Notification τ)) : Option (Notification τ) :=
  if attempts.all fun attempt => attempt.deliveryStatus = failed then attempts.getLast? else none

variable {failed}

theorem failing_eq_some_iff {attempts : List (Notification τ)} {row : Notification τ} :
    failing failed attempts = some row ↔
      settled failed attempts = some row ∧ row.deliveryStatus = failed := by
  rw [failing, settled]
  split
  · rename_i hall
    rw [List.all_eq_true] at hall
    have hnone : attempts.find? (fun attempt => attempt.deliveryStatus ≠ failed) = none := by
      rw [List.find?_eq_none]
      intro attempt hattempt
      simpa using hall attempt hattempt
    rw [hnone, Option.none_or]
    exact (and_iff_left_of_imp fun hlast =>
      of_decide_eq_true (hall row (List.mem_of_getLast? hlast))).symm
  · rename_i hnot
    refine iff_of_false (fun h => by cases h) fun ⟨hsettled, hfailed⟩ => hnot ?_
    cases hfirst : attempts.find? fun attempt => attempt.deliveryStatus ≠ failed with
    | none => simpa using List.find?_eq_none.mp hfirst
    | some first =>
        rw [hfirst, Option.some_or] at hsettled
        cases hsettled
        exact absurd hfailed (of_decide_eq_true (List.find?_some hfirst :))

variable [LinearOrder τ]

/-- After any attempts, with ids of their own: `count_failed_since` counts the signals and channels
    whose attempts have all failed, the latest of them at the time or later, and `last_failed_at` is the
    greatest time of a latest one. -/
theorem failed_queries_createAll (values : DeliveryValues) (attempts : List (Notification τ))
    (hfresh : (attempts.map Notification.notificationId).Nodup) :
    ∃ table, createAll values.failed attempts = .ok table ∧
      (∀ sinceUtc, countFailedSince values sinceUtc table =
        ((attempts.map Notification.target).dedup.filter fun target =>
          (failing values.failed (attemptsFor target attempts)).any fun row =>
            sinceUtc ≤ row.sentAtUtc).length) ∧
      ∃ latest, lastFailedAt values table = .ok latest ∧
        (∀ time ∈ latest, ∃ target, ∃ row ∈ failing values.failed (attemptsFor target attempts),
          row.sentAtUtc = time) ∧
        ∀ target, ∀ row ∈ failing values.failed (attemptsFor target attempts),
          ∃ time ∈ latest, row.sentAtUtc ≤ time := by
  obtain ⟨table, hrun, hrows, hget⟩ := createAll_spec values.failed attempts hfresh
  have hfailing : ∀ target, ∀ row : Notification τ,
      row ∈ failing values.failed (attemptsFor target attempts) ↔
        table.index.get? target = some row ∧ row.deliveryStatus = values.failed := fun target row => by
    rw [hget]
    exact failing_eq_some_iff
  let rows := table.index.rows.filter fun row => row.deliveryStatus = values.failed
  have hmem : ∀ row, row ∈ rows ↔
      ∃ target, row ∈ failing values.failed (attemptsFor target attempts) := by
    intro row
    rw [List.mem_filter, decide_eq_true_eq]
    constructor
    · rintro ⟨hrow, hfailed⟩
      exact ⟨row.target, (hfailing _ _).mpr ⟨Indexed.mem_rows_iff.mp hrow, hfailed⟩⟩
    · rintro ⟨target, hrow⟩
      obtain ⟨hrow, hfailed⟩ := (hfailing _ _).mp hrow
      exact ⟨(Indexed.get?_eq_some_iff.mp hrow).1, hfailed⟩
  have hlast : lastFailedAt values table =
      .ok ((Query.orderByDesc Notification.sentAtUtc rows).head?.map Notification.sentAtUtc) := by
    rw [lastFailedAt, scalarOneOrNone_take_one, List.head?_map]
  refine ⟨table, hrun, fun sinceUtc => ?_, _, hlast, fun time htime => ?_, fun target row hrow => ?_⟩
  · rw [countFailedSince, Indexed.length_filter_rows table.index (attempts.map Notification.target)
      fun row hrow => List.mem_map_of_mem (hrows row hrow)]
    refine congrArg List.length (List.filter_congr fun target _ => ?_)
    rw [Bool.eq_iff_iff, Option.any_eq_true, Option.any_eq_true]
    refine exists_congr fun row => ?_
    rw [← Option.mem_def (a := row) (b := failing _ _), hfailing, decide_eq_true_eq, decide_eq_true_eq,
      and_assoc]
  · obtain ⟨row, hrow, rfl⟩ := Option.map_eq_some_iff.mp htime
    obtain ⟨target, hfailed⟩ := (hmem row).mp (Query.greatest_of_head? hrow).1
    exact ⟨target, row, hfailed, rfl⟩
  · have hrow := (hmem row).mpr ⟨target, hrow⟩
    cases hhead : (Query.orderByDesc Notification.sentAtUtc rows).head? with
    | none =>
        rw [Query.head?_eq_none_iff.mp hhead] at hrow
        cases hrow
    | some first => exact ⟨first.sentAtUtc, rfl, (Query.greatest_of_head? hhead).2 row hrow⟩

end Failures

theorem failed_queries_createAll_sample : ∃ table,
    createAll "failed" sampleAttempts = .ok table ∧
      countFailedSince sampleDeliveryValues 3 table = 1 := by
  obtain ⟨table, hrun, hcount, -⟩ :=
    failed_queries_createAll sampleDeliveryValues sampleAttempts (by decide)
  exact ⟨table, hrun, (hcount 3).trans (by decide)⟩

end CodexOrchestrator
