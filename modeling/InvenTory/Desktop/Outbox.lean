import InvenTory.Desktop.Commands
import Mathlib.Data.List.Sort

/-!
# The outbox

The commands with which a sync run moves outbox events and transactions through their states:
`get_pending_outbox_events`, the batch updates of both statuses, each in one transaction, and
`cleanup_expired_outbox_events`.
-/

namespace Desktop

open Relational Sql Sql.Prog

/-! ## Reading the queue -/

/-- The type of a legacy `TRANSFER` payload. -/
def repairedType (p : OutboxPayload) : String :=
  let reference := p.referenceNumber.getD ""
  if reference.startsWith "TRF-RECV-" then "TRANSFER_IN"
  else if reference.startsWith "TRF-DISP-" || reference.startsWith "TRF-CNCL-" then "TRANSFER_OUT"
  else if p.quantityDelta < 0 then "TRANSFER_OUT"
  else "TRANSFER_IN"

/-- Rewrite the type of a legacy `TRANSFER` event and of its transaction; errors are ignored. -/
def repairTransfers : List OutboxEvent → Prog String Db Unit
  | [] => pure ()
  | e :: rest => do
    onlyIf (e.payload.movementType = "TRANSFER") do
      let _ ← attempt (autocommit fun db => .ok (db.updateEvent e.eventId fun e' =>
        { e' with payload := { e.payload with movementType := repairedType e.payload } }))
      let _ ← attempt (autocommit fun db => .ok (db.updateTransaction e.payload.transactionId
        fun r => { r with movementType := repairedType e.payload }))
    repairTransfers rest

/-- Forced: also take back permanent rejections, drop all backoffs and repair legacy events. -/
def resetForced : Prog String Db Unit := do
  context "Failed to reset pending changes" (autocommit fun db => .ok (db.updateEvents
    (·.status ∈ [.sending, .permanentRejection]) fun e => { e with status := .pending }))
  context "Failed to reset retry backoff" (autocommit fun db => .ok (db.updateEvents
    (·.status = .retryableError) fun e => { e with nextAttemptAt := none }))
  let events ← context "Failed to query outbox for repair" (query (·.outbox.rows))
  repairTransfers events

/-- Events left in SENDING by an earlier run are pending again. -/
def OutboxEvent.recover (e : OutboxEvent) : OutboxEvent := { e with status := .pending }

def resetSending : Prog String Db Unit :=
  context "Failed to reset syncing changes"
    (autocommit fun db => .ok (db.updateEvents (·.status = .sending) OutboxEvent.recover))

/-- `status = 'PENDING'`, or a retry that is due. -/
def OutboxEvent.due (now : Instant) (e : OutboxEvent) : Bool :=
  e.status = .pending || (e.status = .retryableError && e.nextAttemptAt.all (· ≤ now))

def batchLimit (limit : Option Int32) : Nat := (min (max (limit.getD 100) 1) 500).toInt.toNat

/-- `ORDER BY created_at ASC LIMIT ..`; events of one second stay in the order of the table. -/
def selectDue (now : Instant) (limit : Nat) (db : Db) : List OutboxEvent :=
  ((db.outbox.rows.filter (·.due now)).insertionSort fun a b => a.createdAt ≤ b.createdAt).take
    limit

def getPendingOutboxEvents (now : Instant) (limit : Option Int32) (force : Option Bool) :
    Prog String Db (List OutboxEvent) := do
  if force.getD false then resetForced else resetSending
  context "Failed to query pending changes" (query (selectDue now (batchLimit limit)))

/-! ## Writing outcomes -/

structure StatusUpdate where
  eventId : String
  targetStatus : Status
  errorMsg : Option String

/-- `min(5 * 2^(retry - 1), 3600)` seconds, on `i64`s; a negative delay becomes the largest. -/
def backoff (retry : Int) : Int :=
  let delay := min (5 * 2 ^ (max (retry - 1) 0).toNat : Int64) 3600
  if delay < 0 then 3600 else delay.toInt

/-- What a status update does to its event. -/
def OutboxEvent.transition (u : StatusUpdate) (now : Instant) (e : OutboxEvent) : OutboxEvent :=
  match u.targetStatus with
  | .retryableError =>
    { e with
      status := u.targetStatus
      retryCount := e.retryCount + 1
      nextAttemptAt := some (now + backoff (e.retryCount + 1))
      lastError := u.errorMsg }
  | .accepted | .synced =>
    { e with status := u.targetStatus, lastError := none, nextAttemptAt := none }
  | .permanentRejection | .exceptionReview =>
    { e with status := u.targetStatus, lastError := u.errorMsg }
  | .pending | .sending => { e with status := u.targetStatus }

def applyStatusUpdate (now : Instant) (u : StatusUpdate) : Prog String (Conn Db) Unit := do
  match ← select (·.outbox.get? u.eventId) with
  | none => throw ("Outbox event '" ++ u.eventId ++ "' not found.")
  | some _ =>
    context "Failed to update queued change"
      (execute fun db => .ok (db.updateEvent u.eventId (OutboxEvent.transition u now)))

def applyStatusUpdates (now : Instant) : List StatusUpdate → Prog String (Conn Db) Unit
  | [] => pure ()
  | u :: us => do
    applyStatusUpdate now u
    applyStatusUpdates now us

def updateOutboxEventStatuses (now : Instant) (updates : List StatusUpdate) :
    Prog String Db Unit :=
  session (applyStatusUpdates now updates)

structure TransactionUpdate where
  transactionId : String
  syncStatus : Status
  serverAcceptedAt : Option Server.DateTime

/-- A deleted transaction is no error: there is no row to update. -/
def TransactionUpdate.apply (u : TransactionUpdate) (r : InventoryTransaction) :
    InventoryTransaction :=
  { r with
    syncStatus := u.syncStatus
    serverAcceptedAt := u.serverAcceptedAt.or r.serverAcceptedAt }

def applyTransactionUpdates : List TransactionUpdate → Prog String (Conn Db) Unit
  | [] => pure ()
  | u :: us => do
    context "Failed to update transaction sync status"
      (execute fun db => .ok (db.updateTransaction u.transactionId u.apply))
    applyTransactionUpdates us

def updateTransactionSyncStatuses (updates : List TransactionUpdate) : Prog String Db Unit :=
  session (applyTransactionUpdates updates)

/-! ## Archiving -/

/-- A state that the sync no longer leaves. -/
def Status.terminal (s : Status) : Bool :=
  s ∈ [.accepted, .synced, .permanentRejection, .exceptionReview]

/-- Seconds of a day. -/
def day : Int := 86400

def OutboxEvent.expired (cutoff : Instant) (e : OutboxEvent) : Bool :=
  e.createdAt < cutoff && e.status.terminal

def archive (cutoff : Instant) (db : Db) : Db :=
  { db with outbox := db.outbox.filter (!·.expired cutoff) }

def cleanupExpiredOutboxEvents (now : Instant) (retentionDays : Option Int) :
    Prog String Db Unit :=
  let cutoff := now - max (retentionDays.getD 7) 1 * day
  context "Failed to archive expired outbox events" (autocommit fun db => .ok (archive cutoff db))

end Desktop
