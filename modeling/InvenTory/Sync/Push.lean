import InvenTory.Desktop.Outbox
import InvenTory.Server.Batch

/-!
# Pushing the outbox

The part of `tauriSyncService.ts` between the two databases: the item that an outbox event is sent
as (`buildPushItem`, and the handler's `PushItem.payload`), the order of a request, and what the
receipts of a response make of the events and transactions (`outcomes`). A response has a receipt
for every item or it is an error, so the request is not checked against the response.
-/

namespace Sync

open Desktop (OutboxEvent OutboxPayload StatusUpdate TransactionUpdate Status)
open Server (TransactionPayload SyncReceipt)

/-- What the code takes from JavaScript: `toLowerCase`, and `a.localeCompare(b) <= 0`. -/
structure Js where
  toLowerCase : String → String
  localeLe : String → String → Bool

/-- White space to `String.prototype.trim`. -/
def isJsSpace (c : Char) : Bool :=
  (9 ≤ c.val && c.val ≤ 13) || c.val = 32 || c.val = 0xa0 || c.val = 0x1680 ||
  (0x2000 ≤ c.val && c.val ≤ 0x200a) || c.val = 0x2028 || c.val = 0x2029 || c.val = 0x202f ||
  c.val = 0x205f || c.val = 0x3000 || c.val = 0xfeff

def jsTrim (s : String) : String :=
  String.ofList ((s.toList.dropWhile isJsSpace).reverse.dropWhile isJsSpace).reverse

/-- `s || fallback` -/
def orDefault (s fallback : String) : String := if s = "" then fallback else s

/-! ## Requests -/

/-- A `TransactionPushItem`; its user is replaced by the authenticated one. -/
structure PushItem where
  transactionId : String
  storeId : String
  productId : String
  movementType : String
  quantityDelta : Int
  occurredAt : Desktop.Instant
  deviceId : String
  stockBucket : String
  referenceNumber : Option String
  reasonCode : Option String
  transferId : Option String
  deriving DecidableEq, Repr

def buildPushItem (p : OutboxPayload) : PushItem where
  transactionId := p.transactionId
  storeId := p.storeId
  productId := p.productId
  movementType := p.movementType
  quantityDelta := p.quantityDelta.toInt
  occurredAt := p.occurredAt
  deviceId := orDefault (jsTrim p.deviceId) "SINGLE-USER-DEVICE"
  stockBucket := orDefault p.stockBucket "AVAILABLE"
  referenceNumber := p.referenceNumber
  reasonCode := p.reasonCode
  transferId := p.transferId

/-- The payload that `push_events` makes of an item. -/
def PushItem.payload (i : PushItem) (authenticatedUserId : Int) : TransactionPayload where
  transactionId := i.transactionId
  storeId := i.storeId
  productId := i.productId
  movementType := i.movementType
  quantityDelta := i.quantityDelta
  occurredAt := ⟨i.occurredAt * 1000000, some 0⟩
  userId := authenticatedUserId
  deviceId := i.deviceId
  stockBucket := i.stockBucket
  referenceNumber := i.referenceNumber
  reasonCode := i.reasonCode
  transferId := i.transferId
  purchaseOrderId := none
  batchId := none
  clientSequence := none
  originalTransactionId := none

/-- `_sortPushItems`: by movement type, time and `localeCompare` of the ids. -/
def pushLe (js : Js) (a b : OutboxEvent) : Prop :=
  let p := Server.movementPriority a.payload.movementType
  let q := Server.movementPriority b.payload.movementType
  p < q ∨ p = q ∧ (a.payload.occurredAt < b.payload.occurredAt ∨
    a.payload.occurredAt = b.payload.occurredAt ∧
      js.localeLe a.payload.transactionId b.payload.transactionId = true)

instance (js : Js) : DecidableRel (pushLe js) := fun a b => by
  unfold pushLe
  infer_instance

def sortPushItems (js : Js) (rows : List OutboxEvent) : List OutboxEvent :=
  rows.insertionSort (pushLe js)

/-- The payloads of a request, with what processing each takes from the outside. -/
def request (userId : Int) (env : Nat → Server.Env) (rows : List OutboxEvent) :
    List Server.Submission :=
  rows.zipIdx.map fun x => ⟨(buildPushItem x.1.payload).payload userId, env x.2⟩

/-! ## Responses -/

def permanentRejectionPrefixes : List String :=
  ["transaction_id is required", "store_id is required", "product_id is required",
    "user_id must be a positive integer", "device_id is required", "movement_type is required",
    "quantity_delta must be non-zero", "movement_type must be one of"]

def isPermanentRejection (js : Js) (reason : String) : Bool :=
  permanentRejectionPrefixes.any fun m => m.toList.isPrefixOf (js.toLowerCase reason).toList

/-- `receiptMap.get(id)`; a later receipt replaces an earlier one. -/
def receiptOf (receipts : List SyncReceipt) (id : String) : Option SyncReceipt :=
  receipts.reverse.find? (·.transactionId = id)

/-- The state that a rejection puts an event in. -/
def rejectedStatus (js : Js) (reason : String) : Status :=
  if isPermanentRejection js reason then .permanentRejection else .retryableError

/-- The update of an event, and that of its transaction if there is a receipt. -/
def outcome (js : Js) (receipts : List SyncReceipt) (row : OutboxEvent) :
    StatusUpdate × Option TransactionUpdate :=
  let id := row.payload.transactionId
  match receiptOf receipts id with
  | none => (⟨row.eventId, .retryableError, some "No receipt returned from server"⟩, none)
  | some r =>
    if r.accepted then
      (⟨row.eventId, .synced, none⟩, some ⟨id, .synced, some r.receivedAt⟩)
    else
      let reason := r.rejectionReason.getD "Server rejected transaction"
      let status := rejectedStatus js reason
      (⟨row.eventId, status, some reason⟩, some ⟨id, status, none⟩)

def outboxStatusUpdates (js : Js) (receipts : List SyncReceipt) (rows : List OutboxEvent) :
    List StatusUpdate :=
  rows.map fun row => (outcome js receipts row).1

def txStatusUpdates (js : Js) (receipts : List SyncReceipt) (rows : List OutboxEvent) :
    List TransactionUpdate :=
  rows.filterMap fun row => (outcome js receipts row).2

/-- Before the request every event that was read is marked. -/
def sendingUpdates (rows : List OutboxEvent) : List StatusUpdate :=
  rows.map fun row => ⟨row.eventId, .sending, none⟩

/-- When the retries of a push are used up. -/
def failureUpdates (rows : List OutboxEvent) (error : String) : List StatusUpdate :=
  rows.map fun row => ⟨row.eventId, .retryableError, some error⟩

end Sync
