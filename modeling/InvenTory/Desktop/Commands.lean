import InvenTory.Desktop.Schema
import InvenTory.Lib.Session

/-!
# The stock commands

The commands of `src-tauri/src/lib.rs` that write transactions, with their checks and the texts of
their errors. Each reads the clock (`Clock`): `now_iso` once, `generate_id` once for each id.
`receive_stock` and `sell_stock` write in one transaction; the others commit every statement.
-/

namespace Desktop

open Relational Sql Sql.Prog
open Server (StockKey)

/-- What the code takes from Rust's libraries: `str::to_uppercase`, and the text of a time. -/
structure Rust where
  toUppercase : String → String
  rfc3339 : Instant → String

/-- The clock as a command reads it. -/
structure Clock where
  now : Instant
  nanos : Nat → Nat

/-- `format!("{}-{:X}", prefix, nanos)` -/
def generateId (kind : String) (nanos : Nat) : String :=
  kind ++ "-" ++ String.ofList ((Nat.toDigits 16 nanos).map Char.toUpper)

/-- White space to `str::trim`. -/
def isWhitespace (c : Char) : Bool :=
  (9 ≤ c.val && c.val ≤ 13) || c.val = 32 || c.val = 0x85 || c.val = 0xa0 || c.val = 0x1680 ||
  (0x2000 ≤ c.val && c.val ≤ 0x200a) || c.val = 0x2028 || c.val = 0x2029 || c.val = 0x202f ||
  c.val = 0x205f || c.val = 0x3000

def trim (s : String) : String :=
  String.ofList ((s.toList.dropWhile isWhitespace).reverse.dropWhile isWhitespace).reverse

/-! ## Statements in commands -/

variable {σ α : Type}

/-- `.map_err(|e| format!("{label}: {}", e))` -/
def context (label : String) (p : Prog String σ α) : Prog String σ α :=
  mapError (fun e => label ++ ": " ++ e) p

/-- `if !p { return Err(message) }` -/
def require (p : Prop) [Decidable p] (message : String) : Prog String σ Unit :=
  if p then pure () else throw message

/-- `if p { x }` -/
def onlyIf (p : Prop) [Decidable p] (x : Prog String σ Unit) : Prog String σ Unit :=
  if p then x else pure ()

def ensureForeignKeysExist (userId deviceId storeId productId : String) : Prog String Db Unit := do
  onlyIf (userId ≠ "")
    (context "Failed to ensure user foreign key" (autocommit (·.ensureUser userId)))
  onlyIf (storeId ≠ "")
    (context "Failed to ensure store foreign key" (autocommit (·.ensureStore storeId)))
  onlyIf (productId ≠ "")
    (context "Failed to ensure product foreign key" (autocommit (·.ensureProduct productId)))
  let targetStoreId := if storeId = "" then "SINGLE-USER-STORE" else storeId
  onlyIf (deviceId ≠ "") (context "Failed to ensure device foreign key"
    (autocommit (·.ensureDevice deviceId targetStoreId)))

/-- `.query_row(..).unwrap_or(0)`: a SELECT that fails reads 0 too. -/
def selectBalance (k : StockKey) : Prog String Db Int32 := do
  let held ← attempt (query (·.readBalance k))
  pure (held.toOption.getD 0)

/-- Refuse to take `quantity` out of a balance that does not hold it. -/
def requireStock (k : StockKey) (quantity : Int32) (message : Int32 → String) :
    Prog String Db Unit := do
  let held ← selectBalance k
  require (quantity ≤ held) (message held)

/-! ## Movements -/

/-- A movement that a command records. -/
structure Movement where
  transactionId : String
  storeId : String
  productId : String
  movementType : String
  stockBucket : String
  quantityDelta : Int32
  userId : String
  deviceId : String
  referenceNumber : Option String
  reasonCode : Option String
  transferId : Option String

namespace Movement

def stock (m : Movement) : StockKey := ⟨m.storeId, m.productId, m.stockBucket⟩

/-- The row of a new transaction. -/
def row (m : Movement) (now : Instant) : InventoryTransaction where
  transactionId := m.transactionId
  storeId := m.storeId
  productId := m.productId
  movementType := m.movementType
  stockBucket := m.stockBucket
  quantityDelta := m.quantityDelta.toInt
  occurredAt := now
  recordedAt := now
  userId := m.userId
  deviceId := m.deviceId
  referenceNumber := m.referenceNumber
  reasonCode := m.reasonCode
  transferId := m.transferId
  syncStatus := .pending
  serverAcceptedAt := none

def payload (m : Movement) (now : Instant) : OutboxPayload where
  transactionId := m.transactionId
  storeId := m.storeId
  productId := m.productId
  movementType := m.movementType
  stockBucket := m.stockBucket
  quantityDelta := m.quantityDelta
  occurredAt := now
  userId := m.userId
  deviceId := m.deviceId
  transferId := m.transferId
  referenceNumber := m.referenceNumber
  reasonCode := m.reasonCode

end Movement

def eventId (transactionId : String) : String := "EVT-" ++ transactionId

/-- A new outbox event. -/
def newEvent (id eventId : String) (p : OutboxPayload) (now : Instant) : OutboxEvent :=
  ⟨id, eventId, p, .pending, 0, none, now, none⟩

/-- The event of a movement; the payload of a dispatch or a receipt of a transfer has no reason. -/
def Movement.event (m : Movement) (outboxId : String) (now : Instant) : OutboxEvent :=
  newEvent outboxId (eventId m.transactionId)
    { m.payload now with reasonCode := if m.transferId.isSome then none else m.reasonCode } now

/-- What the errors of the three statements of a movement say. -/
structure Labels where
  transaction : String
  balance : String

def queueFailed : String := "Failed to queue change for sync"

/-- Insert a transaction, add it to its balance and queue it, with statements run by `exec`. -/
def recordMovement (exec : (Db → Except String Db) → Prog String σ Unit) (labels : Labels)
    (m : Movement) (outboxId : String) (now : Instant) : Prog String σ Unit := do
  context labels.transaction (exec (·.insertTransaction (m.row now)))
  context labels.balance (exec (·.addToBalance m.stock m.quantityDelta.toInt))
  context queueFailed (exec (·.insertEvent (m.event outboxId now)))

def insertFailed : String := "Failed to insert inventory transaction"

def balanceFailed : String := "Failed to update stock balance"

def quantityRequired : String := "Quantity must be greater than zero."

def receiptRequired : String := "Receipt number is required for Sale / Issue transactions."

def available (storeId productId : String) : StockKey := ⟨storeId, productId, "AVAILABLE"⟩

/-! ## Receipts and sales -/

structure ReceiveStockInput where
  storeId : String
  productId : String
  quantity : Int32
  referenceNumber : Option String
  supplier : Option String
  userId : String
  deviceId : String

def receiveStock (clk : Clock) (input : ReceiveStockInput) :
    Prog String Db InventoryTransaction := do
  require (0 < input.quantity) quantityRequired
  ensureForeignKeysExist input.userId input.deviceId input.storeId input.productId
  let m : Movement := ⟨generateId "TX" (clk.nanos 0), input.storeId, input.productId, "RECEIPT",
    "AVAILABLE", input.quantity, input.userId, input.deviceId, input.referenceNumber,
    input.supplier, none⟩
  session (recordMovement execute ⟨insertFailed, balanceFailed⟩ m
    (generateId "OB" (clk.nanos 1)) clk.now)
  pure (m.row clk.now)

structure SellStockInput where
  storeId : String
  productId : String
  quantity : Int32
  referenceNumber : Option String
  userId : String
  deviceId : String

def sellStock (clk : Clock) (input : SellStockInput) : Prog String Db InventoryTransaction := do
  require (0 < input.quantity) quantityRequired
  require (trim (input.referenceNumber.getD "") ≠ "") receiptRequired
  ensureForeignKeysExist input.userId input.deviceId input.storeId input.productId
  requireStock (available input.storeId input.productId) input.quantity fun held =>
    "Insufficient stock. Available quantity: " ++ toString held ++ ". Cannot sell " ++
      toString input.quantity ++ " units."
  let m : Movement := ⟨generateId "TX" (clk.nanos 0), input.storeId, input.productId, "SALE",
    "AVAILABLE", -input.quantity, input.userId, input.deviceId, input.referenceNumber, none, none⟩
  session (recordMovement execute ⟨insertFailed, balanceFailed⟩ m
    (generateId "OB" (clk.nanos 1)) clk.now)
  pure (m.row clk.now)

/-! ## Returns, moves between buckets and adjustments -/

structure ReturnStockInput where
  storeId : String
  productId : String
  returnType : String
  stockBucket : String
  quantity : Int32
  referenceNumber : Option String
  reason : Option String
  userId : String
  deviceId : String

def returnStock (rs : Rust) (clk : Clock) (input : ReturnStockInput) :
    Prog String Db InventoryTransaction := do
  require (0 < input.quantity) quantityRequired
  let returnType := rs.toUppercase (trim input.returnType)
  require (returnType ∈ ["CUSTOMER", "SUPPLIER"]) "Return type must be CUSTOMER or SUPPLIER."
  let bucket := rs.toUppercase (trim input.stockBucket)
  require (bucket ∈ ["AVAILABLE", "DAMAGED", "QUARANTINE", "IN_TRANSIT"])
    "Invalid stock bucket condition."
  onlyIf (returnType ≠ "CUSTOMER") (requireStock ⟨input.storeId, input.productId, bucket⟩
    input.quantity fun held =>
      "Insufficient stock in " ++ bucket ++ " bucket. Available quantity: " ++ toString held ++
        ". Cannot return " ++ toString input.quantity ++ " units to supplier.")
  ensureForeignKeysExist input.userId input.deviceId input.storeId input.productId
  let quantityDelta := if returnType = "CUSTOMER" then input.quantity else -input.quantity
  let m : Movement := ⟨generateId "TX" (clk.nanos 0), input.storeId, input.productId, "RETURN",
    bucket, quantityDelta, input.userId, input.deviceId, input.referenceNumber, input.reason, none⟩
  recordMovement autocommit ⟨insertFailed, balanceFailed⟩ m (generateId "OB" (clk.nanos 1)) clk.now
  pure (m.row clk.now)

structure MoveStockBucketInput where
  storeId : String
  productId : String
  fromBucket : String
  toBucket : String
  quantity : Int32
  reason : String
  userId : String
  deviceId : String

/-- The two movements of a move: both transactions first, then both balances and both events. -/
def recordMove (out into : Movement) (clk : Clock) : Prog String Db Unit := do
  context "Failed to insert outflow inventory transaction"
    (autocommit (·.insertTransaction (out.row clk.now)))
  context "Failed to insert inflow inventory transaction"
    (autocommit (·.insertTransaction (into.row clk.now)))
  context "Failed to update source stock balance"
    (autocommit (·.addToBalance out.stock out.quantityDelta.toInt))
  context "Failed to update destination stock balance"
    (autocommit (·.addToBalance into.stock into.quantityDelta.toInt))
  context queueFailed
    (autocommit (·.insertEvent (out.event (generateId "OB" (clk.nanos 2)) clk.now)))
  context queueFailed
    (autocommit (·.insertEvent (into.event (generateId "OB" (clk.nanos 3)) clk.now)))

def moveStockBucket (rs : Rust) (clk : Clock) (input : MoveStockBucketInput) :
    Prog String Db (List InventoryTransaction) := do
  require (0 < input.quantity) quantityRequired
  let reason := trim input.reason
  require (reason ≠ "") "Reason is required for damage/quarantine movements."
  let fromBucket := rs.toUppercase (trim input.fromBucket)
  let toBucket := rs.toUppercase (trim input.toBucket)
  let validBuckets := ["AVAILABLE", "DAMAGED", "QUARANTINE"]
  require (fromBucket ∈ validBuckets ∧ toBucket ∈ validBuckets)
    "Invalid stock bucket. Must be AVAILABLE, DAMAGED, or QUARANTINE."
  require (fromBucket ≠ toBucket) "Source and destination buckets must be different."
  requireStock ⟨input.storeId, input.productId, fromBucket⟩ input.quantity fun held =>
    "Insufficient stock in " ++ fromBucket ++ " bucket. Available quantity: " ++ toString held ++
      ". Cannot move " ++ toString input.quantity ++ " units."
  ensureForeignKeysExist input.userId input.deviceId input.storeId input.productId
  let out : Movement := ⟨generateId "TX" (clk.nanos 0), input.storeId, input.productId, "DAMAGE",
    fromBucket, -input.quantity, input.userId, input.deviceId, none, some reason, none⟩
  let into : Movement := ⟨generateId "TX" (clk.nanos 1), input.storeId, input.productId, "DAMAGE",
    toBucket, input.quantity, input.userId, input.deviceId, none, some reason, none⟩
  recordMove out into clk
  pure [out.row clk.now, into.row clk.now]

structure AdjustStockInput where
  storeId : String
  productId : String
  quantityDelta : Int32
  reason : String
  countReference : Option String
  userId : String
  deviceId : String

/-- The check of a negative adjustment, on `i32`s. -/
def requireAdjustable (input : AdjustStockInput) : Prog String Db Unit := do
  let held ← selectBalance (available input.storeId input.productId)
  let newBalance := held + input.quantityDelta
  require (0 ≤ newBalance) ("Adjustment would drive stock negative (" ++ toString newBalance ++
    ") for store '" ++ input.storeId ++ "', product '" ++ input.productId ++
    "'. Cannot apply delta " ++ toString input.quantityDelta ++ ".")

def adjustStock (rs : Rust) (clk : Clock) (input : AdjustStockInput) :
    Prog String Db InventoryTransaction := do
  let reason := trim input.reason
  require (reason ≠ "") "Adjustment reason is required."
  onlyIf (input.quantityDelta < 0) (requireAdjustable input)
  let reference := input.countReference.getD ("COUNT-ADJ-" ++ rs.rfc3339 clk.now)
  ensureForeignKeysExist input.userId input.deviceId input.storeId input.productId
  let m : Movement := ⟨generateId "TX-ADJ" (clk.nanos 0), input.storeId, input.productId,
    "ADJUSTMENT", "AVAILABLE", input.quantityDelta, input.userId, input.deviceId, some reference,
    some reason, none⟩
  recordMovement autocommit ⟨"Failed to insert adjustment transaction", balanceFailed⟩ m
    (generateId "OB" (clk.nanos 1)) clk.now
  pure (m.row clk.now)

/-! ## Transfers -/

structure CreateTransferInput where
  sourceStoreId : String
  destinationStoreId : String
  productId : String
  quantity : Int32
  createdByUserId : String
  notes : Option String

def createTransfer (clk : Clock) (input : CreateTransferInput) : Prog String Db Transfer := do
  require (0 < input.quantity) quantityRequired
  require (input.sourceStoreId ≠ input.destinationStoreId)
    "Source store and destination store must be different."
  let device := "SINGLE-USER-DEVICE"
  ensureForeignKeysExist input.createdByUserId device input.sourceStoreId input.productId
  ensureForeignKeysExist input.createdByUserId device input.destinationStoreId input.productId
  let transfer : Transfer := ⟨generateId "TRF" (clk.nanos 0), input.sourceStoreId,
    input.destinationStoreId, input.productId, input.quantity, "DRAFT", input.createdByUserId,
    input.notes, clk.now, clk.now⟩
  context "Failed to insert transfer into database" (autocommit (·.insertTransfer transfer))
  pure transfer

def selectTransfer (transferId : String) : Prog String Db Transfer := do
  match ← query (·.transfers.get? transferId) with
  | some t => pure t
  | none => throw ("Transfer with ID '" ++ transferId ++ "' not found.")

/-- `UPDATE transfers SET status = .., updated_at = ..` -/
def setTransferStatus (transferId status : String) (now : Instant) : Prog String Db Unit :=
  context "Failed to update transfer status"
    (autocommit fun db => .ok (db.updateTransfer transferId fun t =>
      { t with status := status, updatedAt := now }))

def dispatchTransfer (clk : Clock) (transferId userId deviceId : String) :
    Prog String Db Transfer := do
  let t ← selectTransfer transferId
  require (t.status = "DRAFT") ("Cannot dispatch transfer in '" ++ t.status ++
    "' status. Must be in DRAFT status.")
  requireStock (available t.sourceStoreId t.productId) t.quantity fun held =>
    "Insufficient stock at source store. Available: " ++ toString held ++ ", required: " ++
      toString t.quantity ++ "."
  ensureForeignKeysExist userId deviceId t.sourceStoreId t.productId
  setTransferStatus transferId "DISPATCHED" clk.now
  let m : Movement := ⟨generateId "TX" (clk.nanos 0), t.sourceStoreId, t.productId, "TRANSFER_OUT",
    "AVAILABLE", -t.quantity, userId, deviceId, some ("TRF-DISP-" ++ transferId),
    some ("TRANSFER DISPATCH -> Store " ++ t.destinationStoreId), some transferId⟩
  recordMovement autocommit
    ⟨"Failed to insert dispatch transaction", "Failed to update source stock balance"⟩ m
    (generateId "OB" (clk.nanos 1)) clk.now
  pure { t with status := "DISPATCHED", updatedAt := clk.now }

def receiveTransfer (clk : Clock) (transferId userId deviceId : String) :
    Prog String Db Transfer := do
  let t ← selectTransfer transferId
  require (t.status ∈ ["DISPATCHED", "EXCEPTION"])
    ("Cannot confirm receipt for transfer in '" ++ t.status ++ "' status.")
  ensureForeignKeysExist userId deviceId t.destinationStoreId t.productId
  setTransferStatus transferId "RECEIVED" clk.now
  let m : Movement := ⟨generateId "TX" (clk.nanos 0), t.destinationStoreId, t.productId,
    "TRANSFER_IN", "AVAILABLE", t.quantity, userId, deviceId, some ("TRF-RECV-" ++ transferId),
    some ("TRANSFER RECEIVE <- Store " ++ t.sourceStoreId), some transferId⟩
  recordMovement autocommit
    ⟨"Failed to insert receive transaction", "Failed to update destination stock balance"⟩ m
    (generateId "OB" (clk.nanos 1)) clk.now
  pure { t with status := "RECEIVED", updatedAt := clk.now }

/-- Cancelling a transfer that is on its way books its stock back, as a positive `TRANSFER_OUT`. -/
def cancelTransfer (clk : Clock) (transferId userId deviceId : String) :
    Prog String Db Transfer := do
  let t ← selectTransfer transferId
  require (t.status ∉ ["RECEIVED", "CANCELLED"])
    ("Cannot cancel transfer in terminal status '" ++ t.status ++ "'.")
  ensureForeignKeysExist userId deviceId t.sourceStoreId t.productId
  let m : Movement := ⟨generateId "TX" (clk.nanos 0), t.sourceStoreId, t.productId,
    "TRANSFER_OUT", "AVAILABLE", t.quantity, userId, deviceId, some ("TRF-CNCL-" ++ transferId),
    some "TRANSFER CANCELLED -> Stock Restored", some transferId⟩
  onlyIf (t.status ∈ ["DISPATCHED", "EXCEPTION"]) (recordMovement autocommit
    ⟨"Failed to insert cancellation compensation transaction",
      "Failed to restore source stock balance"⟩ m (generateId "OB" (clk.nanos 1)) clk.now)
  setTransferStatus transferId "CANCELLED" clk.now
  pure { t with status := "CANCELLED", updatedAt := clk.now }

def exceptionNotes : Option String → Option String → String
  | some existing, some note => existing ++ "; EXCEPTION: " ++ note
  | none, some note => "EXCEPTION: " ++ note
  | some existing, none => existing
  | none, none => "EXCEPTION: Flagged for discrepancy review"

/-- The row of a transfer that is flagged. -/
def Transfer.flag (notes : String) (now : Instant) (t : Transfer) : Transfer :=
  { t with status := "EXCEPTION", notes := some notes, updatedAt := now }

def markTransferException (clk : Clock) (transferId : String) (notes : Option String) :
    Prog String Db Transfer := do
  let t ← selectTransfer transferId
  require (t.status = "DISPATCHED") ("Cannot mark exception for transfer in '" ++ t.status ++
    "' status. Must be in DISPATCHED status.")
  let updatedNotes := exceptionNotes t.notes notes
  context "Failed to update transfer status"
    (autocommit fun db => .ok (db.updateTransfer transferId (Transfer.flag updatedNotes clk.now)))
  pure (t.flag updatedNotes clk.now)

/-! ## Corrections -/

/-- The columns of a transaction that the corrections read; the quantity as an `i32`. -/
def selectTransaction (transactionId : String) :
    Prog String Db (Option (InventoryTransaction × Int32)) := do
  match ← query (·.transactions.get? transactionId) with
  | none => pure none
  | some r =>
    match Db.readI32 r.quantityDelta with
    | some q => pure (some (r, q))
    | none => throw ("Failed to query transaction: Integer " ++ toString r.quantityDelta ++
        " out of range at index 0")

structure UpdateTransactionInput where
  transactionId : String
  quantityDelta : Int32
  referenceNumber : Option String
  reasonCode : Option String

/-- The edited row. -/
def UpdateTransactionInput.edit (input : UpdateTransactionInput) (r : InventoryTransaction) :
    InventoryTransaction :=
  { r with
    quantityDelta := input.quantityDelta.toInt
    referenceNumber := input.referenceNumber
    reasonCode := input.reasonCode }

/-- The payload of an edited transaction. -/
def UpdateTransactionInput.payload (input : UpdateTransactionInput) (r : InventoryTransaction)
    (now : Instant) : OutboxPayload :=
  ⟨input.transactionId, r.storeId, r.productId, r.movementType, r.stockBucket,
    input.quantityDelta, now, r.userId, r.deviceId, none, input.referenceNumber, input.reasonCode⟩

/-- `UPDATE outbox_events SET payload = .., status = 'PENDING', retry_count = 0, last_error = NULL` -/
def OutboxEvent.requeue (p : OutboxPayload) (e : OutboxEvent) : OutboxEvent :=
  { e with payload := p, status := .pending, retryCount := 0, lastError := none }

def updateTransaction (clk : Clock) (input : UpdateTransactionInput) :
    Prog String Db InventoryTransaction := do
  match ← selectTransaction input.transactionId with
  | none => throw ("Transaction '" ++ input.transactionId ++ "' not found.")
  | some (old, oldDelta) =>
    let deltaDiff := input.quantityDelta - oldDelta
    require (old.movementType = "SALE" → trim (input.referenceNumber.getD "") ≠ "") receiptRequired
    context "Failed to update transaction"
      (autocommit fun db => .ok (db.updateTransaction input.transactionId input.edit))
    onlyIf (deltaDiff ≠ 0)
      (context balanceFailed (autocommit (·.addToBalance old.stock deltaDiff.toInt)))
    context "Failed to update queued change"
      (autocommit fun db => .ok (db.updateEvent (eventId input.transactionId)
        (OutboxEvent.requeue (input.payload old clk.now))))
    pure { input.edit old with
      occurredAt := clk.now
      recordedAt := clk.now
      transferId := none
      syncStatus := .pending
      serverAcceptedAt := none }

def voidEventId (transactionId : String) : String := "EVT-VOID-" ++ transactionId

/-- The compensating movement of a deleted transaction; it has the id of that transaction. -/
def voidPayload (r : InventoryTransaction) (q : Int32) (now : Instant) : OutboxPayload where
  transactionId := r.transactionId
  storeId := r.storeId
  productId := r.productId
  movementType := if q < 0 then "RECEIPT" else "SALE"
  stockBucket := r.stockBucket
  quantityDelta := -q
  occurredAt := now
  userId := r.userId
  deviceId := r.deviceId
  transferId := none
  referenceNumber := none
  reasonCode := some ("Reversal of deleted transaction " ++ r.transactionId ++ " (" ++
    r.movementType ++ ")")

/-- `UPDATE outbox_events SET status = 'PERMANENT_REJECTION', last_error = ..` -/
def OutboxEvent.withdraw (e : OutboxEvent) : OutboxEvent :=
  { e with
    status := .permanentRejection
    lastError := some "Transaction deleted locally before sync" }

def deleteTransaction (clk : Clock) (transactionId : String) : Prog String Db Unit := do
  match ← selectTransaction transactionId with
  | none => pure ()
  | some (r, q) =>
    context "Failed to reverse stock balance"
      (autocommit (·.addToBalance r.stock (-q).toInt))
    -- of a table that is left out
    context "Failed to delete day-book entries" (autocommit .ok)
    context "Failed to delete transaction"
      (autocommit fun db => .ok (db.deleteTransaction transactionId))
    if r.syncStatus ∈ [.synced, .accepted] then
      context "Failed to queue tombstone change for sync"
        (autocommit (·.insertEvent (newEvent (generateId "OB" (clk.nanos 0))
          (voidEventId transactionId) (voidPayload r q clk.now) clk.now)))
    else
      context "Failed to update queued change status"
        (autocommit fun db => .ok (db.updateEvent (eventId transactionId) OutboxEvent.withdraw))

end Desktop
