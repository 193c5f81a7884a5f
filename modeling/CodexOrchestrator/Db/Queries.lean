import CodexOrchestrator.Db.Repositories
import CodexOrchestrator.Lib.Queries
import CodexOrchestrator.Lib.Regex

/-!
# Queries — snapshots, signals, releases, and what the repositories answer

`app/db/repositories.py`, besides the statements of `Repositories`.  `market_snapshots` has a unique
index on `(market_ticker, captured_at_utc)`; `signals` and `release_calendar` have their primary keys.
`ν` is the type of the numbers, which are only stored.  A query for a model finds rows of the table and
gives out the objects of the session; a query for columns or counts reads the table alone.
-/

namespace CodexOrchestrator

variable {ρ τ ν : Type}

/-- `Result.scalar_one_or_none`. -/
def scalarOneOrNone : List ρ → Except PyError (Option ρ)
  | [] => .ok none
  | [row] => .ok (some row)
  | _ :: _ :: _ => .error (.other "MultipleResultsFound"
      "Multiple rows were found when one or none was required")

/-- A query with `LIMIT 1` finds the first row. -/
theorem scalarOneOrNone_take_one (rows : List ρ) : scalarOneOrNone (rows.take 1) = .ok rows.head? := by
  cases rows <;> rfl

theorem scalarOneOrNone_toList (row : Option ρ) : scalarOneOrNone row.toList = .ok row := by
  cases row <;> rfl

/-- The objects of what a query finds. -/
theorem scalarOneOrNone_map {σ : Type} (f : ρ → σ) (rows : List ρ) :
    scalarOneOrNone (rows.map f) = (scalarOneOrNone rows).map (Option.map f) := by
  match rows with
  | [] => rfl
  | [row] => rfl
  | first :: second :: rest => rfl

theorem scalarOneOrNone_eq_none_iff {rows : List ρ} : scalarOneOrNone rows = .ok none ↔ rows = [] := by
  match rows with
  | [] => exact iff_of_true rfl rfl
  | [row] => exact iff_of_false (fun h => by cases h) (List.cons_ne_nil _ _)
  | first :: second :: rest => exact iff_of_false (fun h => by cases h) (List.cons_ne_nil _ _)

theorem scalarOneOrNone_eq_some_iff {rows : List ρ} (hnodup : rows.Nodup) {row : ρ} :
    scalarOneOrNone rows = .ok (some row) ↔ row ∈ rows ∧ ∀ other ∈ rows, other = row := by
  match rows with
  | [] => exact iff_of_false (fun h => by cases h) fun h => by cases h.1
  | [only] => simp [scalarOneOrNone, eq_comm]
  | first :: second :: rest =>
      refine iff_of_false (fun h => by cases h) fun h => ?_
      have hfirst := h.2 first List.mem_cons_self
      have hsecond := h.2 second (List.mem_cons_of_mem _ List.mem_cons_self)
      exact (List.nodup_cons.mp hnodup).1 (hfirst.trans hsecond.symm ▸ List.mem_cons_self)

theorem scalarOneOrNone_eq_error_iff {rows : List ρ} (hnodup : rows.Nodup) :
    (∃ e, scalarOneOrNone rows = .error e) ↔ ∃ a ∈ rows, ∃ b ∈ rows, a ≠ b := by
  match rows with
  | [] => exact iff_of_false (fun ⟨e, h⟩ => by cases h) fun ⟨a, ha, _⟩ => by cases ha
  | [only] =>
      refine iff_of_false (fun ⟨e, h⟩ => by cases h) fun ⟨a, ha, b, hb, hne⟩ => hne ?_
      rw [List.mem_singleton.mp ha, List.mem_singleton.mp hb]
  | first :: second :: rest =>
      refine iff_of_true ⟨_, rfl⟩ ⟨first, List.mem_cons_self, second,
        List.mem_cons_of_mem _ List.mem_cons_self, fun hsame => ?_⟩
      exact (List.nodup_cons.mp hnodup).1 (hsame ▸ List.mem_cons_self)

theorem scalarOneOrNone_map_eq_some {σ : Type} {f : ρ → σ} {rows : List ρ} {object : σ} :
    scalarOneOrNone (rows.map f) = .ok (some object) ↔
      ∃ row, f row = object ∧ scalarOneOrNone rows = .ok (some row) := by
  match rows with
  | [] => exact iff_of_false (fun h => by cases h) fun ⟨_, _, h⟩ => by cases h
  | [row] => simp [scalarOneOrNone]
  | first :: second :: rest => exact iff_of_false (fun h => by cases h) fun ⟨_, _, h⟩ => by cases h

theorem scalarOneOrNone_map_eq_error {σ : Type} {f : ρ → σ} {rows : List ρ} :
    (∃ e, scalarOneOrNone (rows.map f) = .error e) ↔ ∃ e, scalarOneOrNone rows = .error e := by
  match rows with
  | [] => exact iff_of_false (fun ⟨_, h⟩ => by cases h) fun ⟨_, h⟩ => by cases h
  | [row] => exact iff_of_false (fun ⟨_, h⟩ => by cases h) fun ⟨_, h⟩ => by cases h
  | first :: second :: rest => exact iff_of_true ⟨_, rfl⟩ ⟨_, rfl⟩

/-! ## Snapshots -/

structure Snapshot (τ ν : Type) where
  marketTicker : String
  capturedAtUtc : τ
  yesBid : Option ν
  yesAsk : Option ν
  mid : Option ν
  spread : Option ν
  lastPrice : Option ν
  volume : Option ν

/-- What the unique index is on. -/
def Snapshot.slot (snapshot : Snapshot τ ν) : String × τ :=
  (snapshot.marketTicker, snapshot.capturedAtUtc)

abbrev SnapshotTable (τ ν : Type) := Indexed (Snapshot.slot (τ := τ) (ν := ν))

abbrev SnapshotSession (τ ν : Type) := Session (Snapshot.slot (τ := τ) (ν := ν))

namespace SnapshotRepository

/-- The `SET` list of `upsert_snapshot`. -/
def snapshotAssignment (values : Snapshot τ ν) :
    Indexed.Assignment (Snapshot.slot (τ := τ) (ν := ν)) where
  set row :=
    { row with
      yesBid := values.yesBid
      yesAsk := values.yesAsk
      mid := values.mid
      spread := values.spread
      lastPrice := values.lastPrice
      volume := values.volume }
  key_set _ := rfl

section Statements

variable [DecidableEq τ]

def addSnapshot (values : Snapshot τ ν) (table : SnapshotTable τ ν) : SnapshotTable τ ν :=
  table.insertOnConflict values (.nothing _) fun _ => true

def upsertSnapshot (values : Snapshot τ ν) (table : SnapshotTable τ ν) : SnapshotTable τ ν :=
  table.insertOnConflict values (snapshotAssignment values) fun _ => true

def getByMarketAndTime (marketTicker : String) (capturedAtUtc : τ) (session : SnapshotSession τ ν) :
    Except PyError (Option (Snapshot τ ν)) :=
  scalarOneOrNone (session.objects (session.table.rows.filter fun row =>
    row.marketTicker = marketTicker ∧ row.capturedAtUtc = capturedAtUtc))

end Statements

section Queries

variable [LinearOrder τ]

def listSnapshots (marketTicker : String) (startUtc endUtc : τ) (session : SnapshotSession τ ν) :
    List (Snapshot τ ν) :=
  session.objects (Query.orderBy Snapshot.capturedAtUtc (session.table.rows.filter fun row =>
    row.marketTicker = marketTicker ∧ startUtc ≤ row.capturedAtUtc ∧ row.capturedAtUtc ≤ endUtc))

def latestSnapshotBefore (marketTicker : String) (tsUtc : τ) (session : SnapshotSession τ ν) :
    Except PyError (Option (Snapshot τ ν)) :=
  scalarOneOrNone (session.objects ((Query.orderByDesc Snapshot.capturedAtUtc
    (session.table.rows.filter fun row =>
      row.marketTicker = marketTicker ∧ row.capturedAtUtc ≤ tsUtc)).take 1))

def latestSnapshotAnytime (marketTicker : String) (session : SnapshotSession τ ν) :
    Except PyError (Option (Snapshot τ ν)) :=
  scalarOneOrNone (session.objects ((Query.orderByDesc Snapshot.capturedAtUtc
    (session.table.rows.filter fun row => row.marketTicker = marketTicker)).take 1))

def countForMarketsSince (marketTickers : List String) (sinceUtc : τ)
    (session : SnapshotSession τ ν) : Nat :=
  if marketTickers = [] then 0
  else (session.table.rows.filter fun row =>
    row.marketTicker ∈ marketTickers ∧ sinceUtc ≤ row.capturedAtUtc).length

def countForMarketsBetween (marketTickers : List String) (startUtc endUtc : τ)
    (session : SnapshotSession τ ν) : Nat :=
  if marketTickers = [] then 0
  else (session.table.rows.filter fun row =>
    row.marketTicker ∈ marketTickers ∧ startUtc ≤ row.capturedAtUtc ∧
      row.capturedAtUtc ≤ endUtc).length

end Queries

end SnapshotRepository

/-! ## Signals -/

structure Signal (τ : Type) where
  signalId : String
  releaseId : String
  marketTicker : String
  signalType : String
  score : Int
  severity : String
  reasonCodesJson : List String
  metricsJson : JsonDict
  emittedAtUtc : τ

abbrev SignalTable (τ : Type) := Indexed (Signal.signalId (τ := τ))

namespace SignalRepository

/-- The `SET` list of `upsert_signal`. -/
def signalAssignment (values : Signal τ) : Indexed.Assignment (Signal.signalId (τ := τ)) where
  set row :=
    { row with
      score := values.score
      severity := values.severity
      reasonCodesJson := values.reasonCodesJson
      metricsJson := values.metricsJson
      emittedAtUtc := values.emittedAtUtc }
  key_set _ := rfl

def upsertSignal (values : Signal τ) (table : SignalTable τ) : SignalTable τ :=
  table.insertOnConflict values (signalAssignment values) fun _ => true

end SignalRepository

/-! ## Notifications -/

/-- The values of `DeliveryStatus` that the methods compare with. -/
structure DeliveryValues where
  failed : String
  sent : String
  sent_ne : sent ≠ failed

namespace NotificationRepository

section Queries

variable [LinearOrder τ] (values : DeliveryValues)

/-- `notifications JOIN signals ON notifications.signal_id = signals.signal_id`. -/
def joinSignals (notifications : NotificationTable τ) (signals : SignalTable τ) :
    List (Notification τ × Signal τ) :=
  notifications.index.rows.flatMap fun notification =>
    (signals.rows.filter fun signal => notification.signalId = signal.signalId).map
      fun signal => (notification, signal)

/-- `minusSeconds` is the subtraction of a `timedelta(seconds=...)`, which can overflow, and `nowUtc`
    is what `utc_now` returns. -/
def hasRecentForMarket (minusSeconds : τ → Int → Except PyError τ) (nowUtc : τ)
    (marketTicker : String) (cooldownSeconds : Int) (notifications : NotificationTable τ)
    (signals : SignalTable τ) : Except PyError Bool := do
  let threshold ← minusSeconds nowUtc cooldownSeconds
  let row ← scalarOneOrNone (((joinSignals notifications signals).filter fun (notification, signal) =>
    signal.marketTicker = marketTicker ∧ threshold ≤ notification.sentAtUtc ∧
      notification.deliveryStatus = values.sent).take 1)
  return row.isSome

def hasDuplicateInCooldown (minusSeconds : τ → Int → Except PyError τ) (nowUtc : τ)
    (releaseId signalType marketTicker : String) (cooldownSeconds : Int)
    (notifications : NotificationTable τ) (signals : SignalTable τ) : Except PyError Bool := do
  let threshold ← minusSeconds nowUtc cooldownSeconds
  let row ← scalarOneOrNone (((joinSignals notifications signals).filter fun (notification, signal) =>
    signal.releaseId = releaseId ∧ signal.signalType = signalType ∧
      signal.marketTicker = marketTicker ∧ threshold ≤ notification.sentAtUtc ∧
      notification.deliveryStatus = values.sent).take 1)
  return row.isSome

def countFailedSince (sinceUtc : τ) (notifications : NotificationTable τ) : Nat :=
  (notifications.index.rows.filter fun row =>
    row.deliveryStatus = values.failed ∧ sinceUtc ≤ row.sentAtUtc).length

def lastFailedAt (notifications : NotificationTable τ) : Except PyError (Option τ) :=
  scalarOneOrNone (((Query.orderByDesc Notification.sentAtUtc (notifications.index.rows.filter
    fun row => row.deliveryStatus = values.failed)).map Notification.sentAtUtc).take 1)

end Queries

end NotificationRepository

/-! ## Monitor events -/

/-- The values of `MonitorStatus`. -/
structure MonitorStatuses extends MonitorValues where
  acknowledgedStatus : String
  suppressedStatus : String
  acknowledged_ne : acknowledgedStatus ≠ resolvedStatus
  suppressed_ne : suppressedStatus ≠ resolvedStatus

def MonitorStatuses.openLike (values : MonitorStatuses) : List String :=
  [values.openStatus, values.acknowledgedStatus, values.suppressedStatus]

namespace MonitorEventRepository

variable (values : MonitorStatuses)

def isOpen (dedupeKey : String) (session : MonitorSession τ) : Except PyError Bool := do
  let status ← scalarOneOrNone (((session.table.rows.filter fun row =>
    row.dedupeKey = dedupeKey).map MonitorEvent.status).take 1)
  return status.any fun status => status ∈ values.openLike

/-- The database reads the rows in the order of `scan`, and keeps rows that were last seen at one time
    in it. -/
def listOpenLike [LinearOrder τ] (limit : Nat) (session : MonitorSession τ)
    (scan : Indexed.Scan session.table) : List (MonitorEvent τ) :=
  session.objects ((Query.orderByDesc MonitorEvent.lastSeenAtUtc (scan.rows.filter fun row =>
    row.status ∈ values.openLike)).take limit)

def countOpenBySeverity (severity : String) (session : MonitorSession τ) : Nat :=
  (session.table.rows.filter fun row =>
    row.status = values.openStatus ∧ row.severity = severity).length

def countByStatuses (statuses : List String) (session : MonitorSession τ) : Nat :=
  if statuses = [] then 0
  else (session.table.rows.filter fun row => row.status ∈ statuses).length

/-- `fromisoformat` is the class method of the timestamp, `none` for a `ValueError`. -/
def getLastLiveCycleSuccessAt (fromisoformat : String → Option τ) (session : MonitorSession τ) :
    Option τ :=
  match (getByDedupeKey values.liveCycleStalled session).1 with
  | none => none
  | some event =>
      match event.detailsJson.lookup "last_live_cycle_success_at_utc" with
      | some (.str raw) => fromisoformat (Regex.replace raw "Z" "+00:00")
      | _ => none

end MonitorEventRepository

/-! ## Releases -/

structure Release (τ : Type) where
  releaseId : String
  releaseType : String
  releaseName : String
  scheduledTimeUtc : τ
  sourceUrl : String
  status : String

abbrev ReleaseTable (τ : Type) := Indexed (Release.releaseId (τ := τ))

abbrev ReleaseSession (τ : Type) := Session (Release.releaseId (τ := τ))

namespace ReleaseRepository

/-- The `SET` list of `upsert_release`. -/
def releaseAssignment (values : Release τ) : Indexed.Assignment (Release.releaseId (τ := τ)) where
  set row :=
    { row with
      releaseType := values.releaseType
      releaseName := values.releaseName
      scheduledTimeUtc := values.scheduledTimeUtc
      sourceUrl := values.sourceUrl
      status := values.status }
  key_set _ := rfl

def upsertRelease (values : Release τ) (table : ReleaseTable τ) : ReleaseTable τ :=
  table.insertOnConflict values (releaseAssignment values) fun _ => true

def getById (releaseId : String) (session : ReleaseSession τ) :
    Except PyError (Option (Release τ)) :=
  scalarOneOrNone (session.objects (session.table.rows.filter fun row => row.releaseId = releaseId))

def findByIdentity [DecidableEq τ] (releaseType releaseName : String) (scheduledTimeUtc : τ)
    (session : ReleaseSession τ) : Except PyError (Option (Release τ)) :=
  scalarOneOrNone (session.objects (session.table.rows.filter fun row =>
    row.releaseType = releaseType ∧ row.releaseName = releaseName ∧
      row.scheduledTimeUtc = scheduledTimeUtc))

end ReleaseRepository

end CodexOrchestrator
