import InvenTory.Server.Schema

/-!
# The desktop database

The tables of the local SQLite database (`src-tauri/src/lib.rs`) that the stock commands and the
sync use, and the statements run on them. A statement that breaks a key or a foreign key fails
with SQLite's message and changes nothing.

A time is what `now_iso` prints, in seconds since the epoch; the texts have one width, so that SQLite
compares them as times. Integer columns hold any `Int`, while the code computes on `Int32`.
-/

namespace Desktop

open Relational
open Server (StockKey)

abbrev Instant := Int

/-- The status of an outbox event, and the `sync_status` of a transaction. -/
inductive Status
  | pending
  | sending
  | accepted
  | synced
  | retryableError
  | permanentRejection
  | exceptionReview
  deriving DecidableEq, Repr

/-! ## Rows -/

structure User where
  id : String
  username : String
  deriving DecidableEq, Repr

structure Store where
  id : String
  code : String
  name : String
  isActive : Bool
  deriving DecidableEq, Repr

structure Product where
  id : String
  sku : String
  name : String
  isActive : Bool
  deriving DecidableEq, Repr

structure Device where
  id : String
  storeId : String
  deriving DecidableEq, Repr

structure InventoryTransaction where
  transactionId : String
  storeId : String
  productId : String
  movementType : String
  stockBucket : String
  quantityDelta : Int
  occurredAt : Instant
  recordedAt : Instant
  userId : String
  deviceId : String
  referenceNumber : Option String
  reasonCode : Option String
  transferId : Option String
  syncStatus : Status
  serverAcceptedAt : Option Server.DateTime
  deriving DecidableEq, Repr

structure StockBalance where
  id : String
  stock : StockKey
  quantity : Int
  deriving DecidableEq, Repr

structure Transfer where
  id : String
  sourceStoreId : String
  destinationStoreId : String
  productId : String
  quantity : Int32
  status : String
  createdByUserId : String
  notes : Option String
  createdAt : Instant
  updatedAt : Instant
  deriving DecidableEq, Repr

/-- The JSON object in the `payload` of an `INVENTORY_TRANSACTION` event. -/
structure OutboxPayload where
  transactionId : String
  storeId : String
  productId : String
  movementType : String
  stockBucket : String
  quantityDelta : Int32
  occurredAt : Instant
  userId : String
  deviceId : String
  transferId : Option String
  referenceNumber : Option String
  reasonCode : Option String
  deriving DecidableEq, Repr

structure OutboxEvent where
  id : String
  eventId : String
  payload : OutboxPayload
  status : Status
  retryCount : Int
  nextAttemptAt : Option Instant
  createdAt : Instant
  lastError : Option String
  deriving DecidableEq, Repr

instance : Keyed User String := ⟨User.id⟩
instance : Keyed Store String := ⟨Store.id⟩
instance : Keyed Product String := ⟨Product.id⟩
instance : Keyed Device String := ⟨Device.id⟩
instance : Keyed InventoryTransaction String := ⟨InventoryTransaction.transactionId⟩
instance : Keyed StockBalance StockKey := ⟨StockBalance.stock⟩
instance : Keyed Transfer String := ⟨Transfer.id⟩
instance : Keyed OutboxEvent String := ⟨OutboxEvent.eventId⟩

def InventoryTransaction.stock (r : InventoryTransaction) : StockKey :=
  ⟨r.storeId, r.productId, r.stockBucket⟩

def OutboxPayload.stock (p : OutboxPayload) : StockKey := ⟨p.storeId, p.productId, p.stockBucket⟩

/-! ## Tables -/

structure Db where
  users : Table User
  stores : Table Store
  products : Table Product
  devices : Table Device
  transactions : Table InventoryTransaction
  balances : Table StockBalance
  outbox : Table OutboxEvent
  transfers : Table Transfer

namespace Db

def empty : Db := ⟨∅, ∅, ∅, ∅, ∅, ∅, ∅, ∅⟩

variable (db : Db)

/-- The quantity of a `stock_balances` row, 0 when there is none. -/
def quantity (k : StockKey) : Int := ((db.balances.get? k).map StockBalance.quantity).getD 0

/-- A column read as an `i32`; SQLite's integers are longer. -/
def readI32 (n : Int) : Option Int32 :=
  if -2 ^ 31 ≤ n ∧ n < 2 ^ 31 then some (Int32.ofInt n) else none

/-- `SELECT quantity .. ` with `unwrap_or(0)` -/
def readBalance (k : StockKey) : Int32 :=
  ((db.balances.get? k).bind fun b => readI32 b.quantity).getD 0

/-! ## Statements -/

def uniqueFailed (column : String) : String := "UNIQUE constraint failed: " ++ column

def foreignKeyFailed : String := "FOREIGN KEY constraint failed"

/-- `INSERT INTO users .. ON CONFLICT(id) DO NOTHING` -/
def ensureUser (id : String) : Except String Db :=
  if (db.users.get? id).isSome then .ok db
  else if db.users.rows.any (·.username = id) then .error (uniqueFailed "users.username")
  else .ok { db with users := db.users.put ⟨id, id⟩ }

def ensureStore (id : String) : Except String Db :=
  if (db.stores.get? id).isSome then .ok db
  else if db.stores.rows.any (·.code = id) then .error (uniqueFailed "stores.code")
  else .ok { db with stores := db.stores.put ⟨id, id, id, true⟩ }

def ensureProduct (id : String) : Except String Db :=
  if (db.products.get? id).isSome then .ok db
  else if db.products.rows.any (·.sku = id) then .error (uniqueFailed "products.sku")
  else .ok { db with products := db.products.put ⟨id, id, id, true⟩ }

def ensureDevice (id storeId : String) : Except String Db :=
  if (db.devices.get? id).isSome then .ok db
  else if (db.stores.get? storeId).isNone then .error foreignKeyFailed
  else .ok { db with devices := db.devices.put ⟨id, storeId⟩ }

def insertTransaction (r : InventoryTransaction) : Except String Db :=
  if (db.transactions.get? r.transactionId).isSome then
    .error (uniqueFailed "inventory_transactions.transaction_id")
  else if (db.stores.get? r.storeId).isNone ∨ (db.products.get? r.productId).isNone then
    .error foreignKeyFailed
  else .ok { db with transactions := db.transactions.put r }

/-- `INSERT .. ON CONFLICT(id) DO UPDATE SET sku, name, is_active` -/
def upsertProduct (p : Product) : Except String Db :=
  if db.products.rows.any fun q => q.sku = p.sku ∧ q.id ≠ p.id then
    .error (uniqueFailed "products.sku")
  else .ok { db with products := db.products.put p }

/-- `INSERT .. ON CONFLICT(id) DO UPDATE SET code, name, is_active` -/
def upsertStore (s : Store) : Except String Db :=
  if db.stores.rows.any fun t => t.code = s.code ∧ t.id ≠ s.id then
    .error (uniqueFailed "stores.code")
  else .ok { db with stores := db.stores.put s }

/-- `UPDATE products SET is_active` -/
def setProductActive (id : String) (isActive : Bool) : Db :=
  match db.products.get? id with
  | some p => { db with products := db.products.put { p with isActive := isActive } }
  | none => db

/-- `UPDATE stores SET is_active` -/
def setStoreActive (id : String) (isActive : Bool) : Db :=
  match db.stores.get? id with
  | some s => { db with stores := db.stores.put { s with isActive := isActive } }
  | none => db

/-- `INSERT OR REPLACE INTO inventory_transactions` -/
def replaceTransaction (r : InventoryTransaction) : Except String Db :=
  if (db.stores.get? r.storeId).isNone ∨ (db.products.get? r.productId).isNone then
    .error foreignKeyFailed
  else .ok { db with transactions := db.transactions.put r }

/-- `INSERT OR IGNORE INTO inventory_transactions` -/
def insertTransactionOrIgnore (r : InventoryTransaction) : Except String Db :=
  if (db.transactions.get? r.transactionId).isSome then .ok db else db.replaceTransaction r

/-- `UPDATE inventory_transactions` of the row with `id`, if there is one. -/
def updateTransaction (id : String) (f : InventoryTransaction → InventoryTransaction) : Db :=
  match db.transactions.get? id with
  | some r => { db with transactions := db.transactions.put (f r) }
  | none => db

def deleteTransaction (id : String) : Db := { db with transactions := db.transactions.erase id }

/-- The key of a balance that a command creates. -/
def balanceId (k : StockKey) : String := "SB-" ++ k.storeId ++ "-" ++ k.productId ++ "-" ++ k.stockBucket

/-- `INSERT INTO stock_balances .. ON CONFLICT(store_id, product_id, stock_bucket) DO UPDATE`: `b`
as it is when there is no row with its key, else `f` of that row. -/
def upsertBalance (b : StockBalance) (f : StockBalance → StockBalance) : Except String Db :=
  match db.balances.get? b.stock with
  | some old => .ok { db with balances := db.balances.put { f old with stock := b.stock } }
  | none =>
    if db.balances.rows.any (·.id = b.id) then .error (uniqueFailed "stock_balances.id")
    else if (db.stores.get? b.stock.storeId).isNone ∨ (db.products.get? b.stock.productId).isNone
    then .error foreignKeyFailed
    else .ok { db with balances := db.balances.put b }

/-- `.. DO UPDATE SET quantity = quantity + ?5` -/
def addToBalance (k : StockKey) (delta : Int) : Except String Db :=
  db.upsertBalance ⟨balanceId k, k, delta⟩ fun b => { b with quantity := b.quantity + delta }

/-- `.. DO UPDATE SET quantity = excluded.quantity` -/
def setBalance (b : StockBalance) : Except String Db :=
  db.upsertBalance b fun old => { old with quantity := b.quantity }

def insertEvent (e : OutboxEvent) : Except String Db :=
  if db.outbox.rows.any (·.id = e.id) then .error (uniqueFailed "outbox_events.id")
  else if (db.outbox.get? e.eventId).isSome then .error (uniqueFailed "outbox_events.event_id")
  else .ok { db with outbox := db.outbox.put e }

/-- `f e` where `p` holds of `e`, with the key of `e`. -/
def changeWhere (p : OutboxEvent → Bool) (f : OutboxEvent → OutboxEvent) (e : OutboxEvent) :
    OutboxEvent :=
  if p e then { f e with eventId := e.eventId } else e

theorem key_changeWhere (p : OutboxEvent → Bool) (f : OutboxEvent → OutboxEvent)
    (e : OutboxEvent) : key (changeWhere p f e) = key e := by
  unfold changeWhere
  split <;> rfl

/-- `UPDATE outbox_events .. WHERE p` -/
def updateEvents (p : OutboxEvent → Bool) (f : OutboxEvent → OutboxEvent) : Db :=
  { db with outbox := db.outbox.modify (changeWhere p f) (key_changeWhere p f) }

/-- `UPDATE outbox_events .. WHERE event_id = ..` -/
def updateEvent (eventId : String) (f : OutboxEvent → OutboxEvent) : Db :=
  db.updateEvents (·.eventId = eventId) f

def insertTransfer (t : Transfer) : Except String Db :=
  if (db.transfers.get? t.id).isSome then .error (uniqueFailed "transfers.id")
  else if (db.stores.get? t.sourceStoreId).isNone ∨ (db.stores.get? t.destinationStoreId).isNone ∨
      (db.products.get? t.productId).isNone then .error foreignKeyFailed
  else .ok { db with transfers := db.transfers.put t }

def updateTransfer (id : String) (f : Transfer → Transfer) : Db :=
  match db.transfers.get? id with
  | some t => { db with transfers := db.transfers.put { f t with id := id } }
  | none => db

end Db

end Desktop
