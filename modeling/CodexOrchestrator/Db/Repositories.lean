import CodexOrchestrator.Lib.Raise
import CodexOrchestrator.Lib.Session
import CodexOrchestrator.Schemas

/-!
# Repositories — notifications and monitor events in PostgreSQL

`app/db/repositories.py`.  The models of the two tables and the enumerations are not part of the
repository: `notifications` has the primary key `notification_id` and a unique index on
`(signal_id, channel)`, `monitor_events` has one on `dedupe_key`.  `τ` is the type of the timestamps.
A repository works in the session that it is given: a statement writes to the table, a query for a
model gives out the objects that the session holds.
-/

namespace CodexOrchestrator

variable {τ : Type}

/-! ## Notifications -/

structure Notification (τ : Type) where
  notificationId : String
  signalId : String
  channel : String
  sentAtUtc : τ
  deliveryStatus : String
  payloadJson : JsonDict

/-- What the unique index is on. -/
def Notification.target (notification : Notification τ) : String × String :=
  (notification.signalId, notification.channel)

structure NotificationTable (τ : Type) where
  index : Indexed (Notification.target (τ := τ))
  primaryKey : (index.rows.map Notification.notificationId).Nodup

def NotificationTable.empty : NotificationTable τ := ⟨Indexed.empty, List.nodup_nil⟩

/-- The `SET` list of `create_notification`. -/
def notificationAssignment (notificationId : String) (sentAtUtc : τ) (deliveryStatus : String)
    (payloadJson : JsonDict) : Indexed.Assignment (Notification.target (τ := τ)) where
  set row := { row with notificationId, sentAtUtc, deliveryStatus, payloadJson }
  key_set _ := rfl

/-- `failed` is `DeliveryStatus.FAILED.value`. -/
def createNotification (failed : String) (notificationId signalId channel : String) (sentAtUtc : τ)
    (deliveryStatus : String) (payloadJson : JsonDict) (table : NotificationTable τ) :
    Except PyError (NotificationTable τ) :=
  let written := table.index.insertOnConflict
    { notificationId, signalId, channel, sentAtUtc, deliveryStatus, payloadJson }
    (notificationAssignment notificationId sentAtUtc deliveryStatus payloadJson)
    fun row => row.deliveryStatus = failed
  if h : (written.rows.map Notification.notificationId).Nodup then .ok ⟨written, h⟩
  else .error (.other "IntegrityError" "duplicate key value violates unique constraint")

/-! ## Monitor events -/

/-- The values of the enumerations that the methods write. -/
structure MonitorValues where
  openStatus : String
  resolvedStatus : String
  liveCycleStalled : String
  critical : String
  statuses_ne : openStatus ≠ resolvedStatus

structure MonitorEvent (τ : Type) where
  eventId : String
  createdAtUtc : τ
  updatedAtUtc : τ
  monitorType : String
  component : String
  severity : String
  status : String
  dedupeKey : String
  title : String
  message : String
  releaseId : Option String
  marketTicker : Option String
  detailsJson : JsonDict
  firstSeenAtUtc : τ
  lastSeenAtUtc : τ
  occurrenceCount : Nat
  alertSentAtUtc : Option τ
  resolvedAtUtc : Option τ

abbrev MonitorSession (τ : Type) := Session (MonitorEvent.dedupeKey (τ := τ))

/-- The columns of `monitor_events`. -/
def monitorColumns [DecidableEq τ] : Columns (MonitorEvent.dedupeKey (τ := τ)) where
  write loaded changed stored :=
    { eventId := Column.write loaded.eventId changed.eventId stored.eventId
      createdAtUtc := Column.write loaded.createdAtUtc changed.createdAtUtc stored.createdAtUtc
      updatedAtUtc := Column.write loaded.updatedAtUtc changed.updatedAtUtc stored.updatedAtUtc
      monitorType := Column.write loaded.monitorType changed.monitorType stored.monitorType
      component := Column.write loaded.component changed.component stored.component
      severity := Column.write loaded.severity changed.severity stored.severity
      status := Column.write loaded.status changed.status stored.status
      dedupeKey := Column.write loaded.dedupeKey changed.dedupeKey stored.dedupeKey
      title := Column.write loaded.title changed.title stored.title
      message := Column.write loaded.message changed.message stored.message
      releaseId := Column.write loaded.releaseId changed.releaseId stored.releaseId
      marketTicker := Column.write loaded.marketTicker changed.marketTicker stored.marketTicker
      detailsJson := Column.write loaded.detailsJson changed.detailsJson stored.detailsJson
      firstSeenAtUtc := Column.write loaded.firstSeenAtUtc changed.firstSeenAtUtc stored.firstSeenAtUtc
      lastSeenAtUtc := Column.write loaded.lastSeenAtUtc changed.lastSeenAtUtc stored.lastSeenAtUtc
      occurrenceCount :=
        Column.write loaded.occurrenceCount changed.occurrenceCount stored.occurrenceCount
      alertSentAtUtc := Column.write loaded.alertSentAtUtc changed.alertSentAtUtc stored.alertSentAtUtc
      resolvedAtUtc := Column.write loaded.resolvedAtUtc changed.resolvedAtUtc stored.resolvedAtUtc }
  key_write loaded changed stored h := by
    rw [h, Column.write_unchanged]
  write_stored loaded changed := by
    simp only [Column.write_stored]

/-- The arguments that the two upserts share. -/
structure MonitorEventArgs (τ : Type) where
  monitorType : String
  component : String
  severity : String
  dedupeKey : String
  title : String
  message : String
  detailsJson : JsonDict
  nowUtc : τ

variable (values : MonitorValues)

/-- The row that `upsert_open_event` inserts under the id `eventId`, which is a new `uuid4`. -/
def openRow (eventId : String) (args : MonitorEventArgs τ) (releaseId marketTicker : Option String) :
    MonitorEvent τ where
  eventId := eventId
  createdAtUtc := args.nowUtc
  updatedAtUtc := args.nowUtc
  monitorType := args.monitorType
  component := args.component
  severity := args.severity
  status := values.openStatus
  dedupeKey := args.dedupeKey
  title := args.title
  message := args.message
  releaseId := releaseId
  marketTicker := marketTicker
  detailsJson := args.detailsJson
  firstSeenAtUtc := args.nowUtc
  lastSeenAtUtc := args.nowUtc
  occurrenceCount := 1
  alertSentAtUtc := none
  resolvedAtUtc := none

def openAssignment (args : MonitorEventArgs τ) (releaseId marketTicker : Option String) :
    Indexed.Assignment (MonitorEvent.dedupeKey (τ := τ)) where
  set row :=
    { row with
      updatedAtUtc := args.nowUtc
      monitorType := args.monitorType
      component := args.component
      severity := args.severity
      status := values.openStatus
      title := args.title
      message := args.message
      releaseId := releaseId
      marketTicker := marketTicker
      detailsJson := args.detailsJson
      lastSeenAtUtc := args.nowUtc
      occurrenceCount := row.occurrenceCount + 1
      resolvedAtUtc := none }
  key_set _ := rfl

def resolvedRow (eventId : String) (args : MonitorEventArgs τ) : MonitorEvent τ where
  eventId := eventId
  createdAtUtc := args.nowUtc
  updatedAtUtc := args.nowUtc
  monitorType := args.monitorType
  component := args.component
  severity := args.severity
  status := values.resolvedStatus
  dedupeKey := args.dedupeKey
  title := args.title
  message := args.message
  releaseId := none
  marketTicker := none
  detailsJson := args.detailsJson
  firstSeenAtUtc := args.nowUtc
  lastSeenAtUtc := args.nowUtc
  occurrenceCount := 1
  alertSentAtUtc := none
  resolvedAtUtc := some args.nowUtc

def resolvedAssignment (args : MonitorEventArgs τ) :
    Indexed.Assignment (MonitorEvent.dedupeKey (τ := τ)) where
  set row :=
    { row with
      updatedAtUtc := args.nowUtc
      monitorType := args.monitorType
      component := args.component
      severity := args.severity
      status := values.resolvedStatus
      title := args.title
      message := args.message
      detailsJson := args.detailsJson
      lastSeenAtUtc := args.nowUtc
      resolvedAtUtc := some args.nowUtc }
  key_set _ := rfl

def getByDedupeKey (dedupeKey : String) (session : MonitorSession τ) :
    Option (MonitorEvent τ) × MonitorSession τ :=
  session.get dedupeKey

/-- The statement of an upsert, and the event that is read back: the object of the session. -/
def upsertAndRead (failure : String) (row : MonitorEvent τ)
    (assignment : Indexed.Assignment (MonitorEvent.dedupeKey (τ := τ))) (session : MonitorSession τ) :
    Except PyError (MonitorEvent τ × MonitorSession τ) :=
  let written := session.execute fun table => table.insertOnConflict row assignment fun _ => true
  match getByDedupeKey row.dedupeKey written with
  | (none, _) => .error (.other "RuntimeError" (failure ++ row.dedupeKey))
  | (some event, read) => .ok (event, read)

def upsertOpenEvent (eventId : String) (args : MonitorEventArgs τ)
    (releaseId marketTicker : Option String) (session : MonitorSession τ) :
    Except PyError (MonitorEvent τ × MonitorSession τ) :=
  upsertAndRead "failed to upsert monitor event: " (openRow values eventId args releaseId marketTicker)
    (openAssignment values args releaseId marketTicker) session

def upsertResolvedEvent (eventId : String) (args : MonitorEventArgs τ) (session : MonitorSession τ) :
    Except PyError (MonitorEvent τ × MonitorSession τ) :=
  upsertAndRead "failed to resolve monitor event: " (resolvedRow values eventId args)
    (resolvedAssignment values args) session

/-- The attributes that `resolve_event` sets. -/
def setResolved (nowUtc : τ) (detailsJson : Option JsonDict) (event : MonitorEvent τ) :
    MonitorEvent τ :=
  { event with
    status := values.resolvedStatus
    updatedAtUtc := nowUtc
    lastSeenAtUtc := nowUtc
    resolvedAtUtc := some nowUtc
    detailsJson := detailsJson.getD event.detailsJson }

/-- The attributes that `mark_alert_sent` sets. -/
def setAlertSent (sentAtUtc : τ) (event : MonitorEvent τ) : MonitorEvent τ :=
  { event with alertSentAtUtc := some sentAtUtc, updatedAtUtc := sentAtUtc }

section Flushes

variable [DecidableEq τ]

def resolveEvent (dedupeKey : String) (nowUtc : τ) (detailsJson : Option JsonDict)
    (session : MonitorSession τ) : Option (MonitorEvent τ) × MonitorSession τ :=
  match getByDedupeKey dedupeKey session with
  | (none, session) => (none, session)
  | (some event, session) =>
      let event := setResolved values nowUtc detailsJson event
      (some event, session.flush monitorColumns event)

def markAlertSent (dedupeKey : String) (sentAtUtc : τ) (session : MonitorSession τ) :
    MonitorSession τ :=
  match getByDedupeKey dedupeKey session with
  | (none, session) => session
  | (some event, session) => session.flush monitorColumns (setAlertSent sentAtUtc event)

end Flushes

/-- What `record_live_cycle_success` passes on; `isoformat` is the method of the timestamp. -/
def liveCycleArgs (isoformat : τ → String) (nowUtc : τ) : MonitorEventArgs τ where
  monitorType := values.liveCycleStalled
  component := "live_runner"
  severity := values.critical
  dedupeKey := values.liveCycleStalled
  title := "Live cycle running normally"
  message := "Live cycle completed successfully."
  detailsJson := [("last_live_cycle_success_at_utc", .str (isoformat nowUtc))]
  nowUtc := nowUtc

def recordLiveCycleSuccess (isoformat : τ → String) (eventId : String) (nowUtc : τ)
    (session : MonitorSession τ) : Except PyError (MonitorEvent τ × MonitorSession τ) :=
  upsertResolvedEvent values eventId (liveCycleArgs values isoformat nowUtc) session

end CodexOrchestrator
