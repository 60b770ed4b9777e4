import InvenTory.Lib.Table
import InvenTory.Lib.Session
import InvenTory.Lib.PyString

/-!
# The central database

The tables of `app/models` that ingestion reads or writes, and the statements it runs on them
(`Db.insertStore`, `Db.upsertStockBalance`, ..). A statement that breaks a primary key, a unique
constraint or a foreign key raises the `IntegrityError` of that constraint and changes nothing.
Primary keys drawn from `uuid4` (day books and their entries) are taken to be fresh.
-/

namespace Server

open Relational

/-- A `datetime`: microseconds of its wall clock, and the UTC offset of an aware one. -/
structure DateTime where
  wall : Int
  offset : Option Int
  deriving DecidableEq, Repr

namespace DateTime

/-- The instant the database stores; a naive time is taken as UTC. -/
def instant (d : DateTime) : Int := d.wall - d.offset.getD 0

/-- Comparing a naive with an aware `datetime` raises a `TypeError`. -/
def aware (d : DateTime) : Bool := d.offset.isSome

/-- Microseconds of a day. -/
def day : Int := 86400000000

/-- `d.replace(hour=0, minute=0, second=0, microsecond=0)` -/
def startOfDay (d : DateTime) : DateTime := { d with wall := d.wall / day * day }

end DateTime

/-- An exception: its class and its `str()`. -/
structure Exn where
  type : String
  text : String
  deriving DecidableEq, Repr

/-! ## Rows -/

structure Store where
  id : String
  code : String
  name : String
  isActive : Bool
  deriving DecidableEq, Repr

structure Product where
  id : String
  sku : String
  name : String
  category : String
  unit : String
  isActive : Bool
  deriving DecidableEq, Repr

structure Device where
  id : String
  storeId : String
  deviceName : String
  isActive : Bool
  deriving DecidableEq, Repr

/-- The `sync_status` of a ledger row. -/
inductive LedgerStatus
  | accepted
  | rejected
  deriving DecidableEq, Repr

structure InventoryTransaction where
  transactionId : String
  storeId : String
  productId : String
  movementType : String
  stockBucket : String
  quantityDelta : Int
  occurredAt : DateTime
  recordedAt : DateTime
  userId : Int
  deviceId : String
  referenceNumber : Option String
  reasonCode : Option String
  transferId : Option String
  purchaseOrderId : Option String
  batchId : Option String
  clientSequence : Option Int
  syncStatus : LedgerStatus
  serverAcceptedAt : Option DateTime
  originalTransactionId : Option String
  deriving DecidableEq, Repr

/-- The unique key of `stock_balances`. -/
structure StockKey where
  storeId : String
  productId : String
  stockBucket : String
  deriving DecidableEq, Repr

structure StockBalance where
  id : String
  stock : StockKey
  quantity : Int
  updatedAt : DateTime
  deriving DecidableEq, Repr

structure SyncReceipt where
  transactionId : String
  accepted : Bool
  rejectionReason : Option String
  receivedAt : DateTime
  processedAt : DateTime
  deriving DecidableEq, Repr

structure DayBook where
  id : String
  storeId : String
  bookDate : DateTime
  openingBalance : Int
  balanceSheetGenerated : Bool
  deriving DecidableEq, Repr

structure DayBookEntry where
  id : String
  dayBookId : String
  transactionId : String
  movementType : String
  productId : String
  quantityDelta : Int
  stockBucket : String
  referenceNumber : Option String
  reasonCode : Option String
  occurredAt : DateTime
  deriving DecidableEq, Repr

instance : Keyed Store String := ⟨Store.id⟩
instance : Keyed Product String := ⟨Product.id⟩
instance : Keyed Device String := ⟨Device.id⟩
instance : Keyed InventoryTransaction String := ⟨InventoryTransaction.transactionId⟩
instance : Keyed StockBalance StockKey := ⟨StockBalance.stock⟩
instance : Keyed SyncReceipt String := ⟨SyncReceipt.transactionId⟩

/-- The balance a ledger row counts towards. -/
def InventoryTransaction.stock (r : InventoryTransaction) : StockKey :=
  ⟨r.storeId, r.productId, r.stockBucket⟩

/-! ## Tables -/

/-- The central database. `storeRefs` are the stores that `users` and `transfers` refer to. -/
structure Db where
  stores : Table Store
  products : Table Product
  devices : Table Device
  ledger : Table InventoryTransaction
  balances : Table StockBalance
  receipts : Table SyncReceipt
  dayBooks : List DayBook
  entries : List DayBookEntry
  storeRefs : List String

namespace Db

/-- The database after the migrations. -/
def empty : Db := ⟨∅, ∅, ∅, ∅, ∅, ∅, [], [], []⟩

variable (db : Db)

/-- The quantity of a `stock_balances` row, 0 when there is none. -/
def quantity (k : StockKey) : Int := ((db.balances.get? k).map StockBalance.quantity).getD 0

/-- What a ledger row adds to the projection of `k`. -/
def contribution (k : StockKey) (r : InventoryTransaction) : Int :=
  if r.stock = k ∧ r.syncStatus ≠ .rejected then r.quantityDelta else 0

/-- `SELECT COALESCE(SUM(quantity_delta), 0)` over the rows of `k` that are not REJECTED. -/
def projection (k : StockKey) : Int := db.ledger.total (contribution k)

/-! ## Statements -/

/-- The `IntegrityError` of a statement: the driver's message, then the SQL and its parameters. -/
def integrityError (message sql : String) (params : List String) : Exn where
  type := "IntegrityError"
  text := message ++ "\n[SQL: " ++ sql ++ "]\n[parameters: (" ++ ", ".intercalate params ++ ")]"

/-- Duplicate key. -/
def uniqueViolation (constraint sql : String) (params : List String) : Exn :=
  integrityError ("duplicate key value violates unique constraint \"" ++ constraint ++ "\"")
    sql params

/-- Missing or still referenced row. -/
def foreignKeyViolation (table constraint sql : String) (params : List String) : Exn :=
  integrityError ("insert, update or delete on table \"" ++ table ++
    "\" violates foreign key constraint \"" ++ constraint ++ "\"") sql params

/-- A text as it is shown among the parameters. -/
def quoted (s : String) : String := "'" ++ s ++ "'"

def quotedOpt : Option String → String
  | some s => quoted s
  | none => "None"

def insertStore (r : Store) : Except Exn Db :=
  let err c := uniqueViolation c "INSERT INTO stores" [quoted r.id, quoted r.code, quoted r.name]
  if (db.stores.get? r.id).isSome then .error (err "stores_pkey")
  else if db.stores.rows.any (·.code = r.code) then .error (err "ix_stores_code")
  else .ok { db with stores := db.stores.put r }

def insertProduct (r : Product) : Except Exn Db :=
  let err c := uniqueViolation c "INSERT INTO products" [quoted r.id, quoted r.sku, quoted r.name]
  if (db.products.get? r.id).isSome then .error (err "products_pkey")
  else if db.products.rows.any (·.sku = r.sku) then .error (err "ix_products_sku")
  else .ok { db with products := db.products.put r }

def insertDevice (r : Device) : Except Exn Db :=
  let sql := "INSERT INTO devices"
  let params := [quoted r.id, quoted r.storeId, quoted r.deviceName]
  if (db.devices.get? r.id).isSome then .error (uniqueViolation "devices_pkey" sql params)
  else if (db.stores.get? r.storeId).isNone then
    .error (foreignKeyViolation "devices" "devices_store_id_fkey" sql params)
  else .ok { db with devices := db.devices.put r }

/-- Delete a store with its day books and their entries (`cascade="all, delete-orphan"`). -/
def deleteStore (id : String) : Except Exn Db :=
  let books := (db.dayBooks.filter (·.storeId = id)).map DayBook.id
  let err table :=
    foreignKeyViolation "stores" (table ++ "_store_id_fkey") "DELETE FROM stores" [quoted id]
  if db.devices.rows.any (·.storeId = id) then .error (err "devices")
  else if db.ledger.rows.any (·.storeId = id) then .error (err "inventory_transactions")
  else if db.balances.rows.any (·.stock.storeId = id) then .error (err "stock_balances")
  else if id ∈ db.storeRefs then .error (err "users")
  else .ok { db with
    stores := db.stores.erase id
    dayBooks := db.dayBooks.filter (·.storeId ≠ id)
    entries := db.entries.filter (·.dayBookId ∉ books) }

/-- The parameters of an `INSERT INTO inventory_transactions`. -/
def ledgerParams (r : InventoryTransaction) : List String :=
  [quoted r.transactionId, quoted r.storeId, quoted r.productId, quoted r.movementType,
    quoted r.stockBucket, toString r.quantityDelta, toString r.userId, quoted r.deviceId,
    quotedOpt r.referenceNumber, quotedOpt r.reasonCode, quotedOpt r.transferId,
    quotedOpt r.purchaseOrderId, quotedOpt r.batchId, quotedOpt r.originalTransactionId]

def insertLedger (r : InventoryTransaction) : Except Exn Db :=
  let sql := "INSERT INTO inventory_transactions"
  let fk c := foreignKeyViolation "inventory_transactions" c sql (ledgerParams r)
  if (db.ledger.get? r.transactionId).isSome then
    .error (uniqueViolation "inventory_transactions_pkey" sql (ledgerParams r))
  else if (db.stores.get? r.storeId).isNone then .error (fk "inventory_transactions_store_id_fkey")
  else if (db.products.get? r.productId).isNone then
    .error (fk "inventory_transactions_product_id_fkey")
  else if (db.devices.get? r.deviceId).isNone then
    .error (fk "inventory_transactions_device_id_fkey")
  else .ok { db with ledger := db.ledger.put r }

/-- `UPDATE inventory_transactions` of a row that was selected before. -/
def updateLedger (r : InventoryTransaction) : Db := { db with ledger := db.ledger.put r }

def insertReceipt (r : SyncReceipt) : Except Exn Db :=
  if (db.receipts.get? r.transactionId).isSome then
    .error (uniqueViolation "sync_receipts_pkey" "INSERT INTO sync_receipts"
      [quoted r.transactionId, toString r.accepted, quotedOpt r.rejectionReason])
  else .ok { db with receipts := db.receipts.put r }

/-- `UPDATE sync_receipts` of a row that was selected before. -/
def updateReceipt (r : SyncReceipt) : Db := { db with receipts := db.receipts.put r }

def deleteReceipt (id : String) : Db := { db with receipts := db.receipts.erase id }

/-- `INSERT INTO stock_balances .. ON CONFLICT (store_id, product_id, stock_bucket) DO UPDATE
SET quantity = stock_balances.quantity + delta` -/
def upsertStockBalance (id : String) (k : StockKey) (delta : Int) (now : DateTime) :
    Except Exn Db :=
  let fk c := foreignKeyViolation "stock_balances" c "INSERT INTO stock_balances"
    [quoted id, quoted k.storeId, quoted k.productId, quoted k.stockBucket, toString delta]
  match db.balances.get? k with
  | some b =>
    let b' := { b with quantity := b.quantity + delta, updatedAt := now }
    .ok { db with balances := db.balances.put b' }
  | none =>
    if (db.stores.get? k.storeId).isNone then .error (fk "stock_balances_store_id_fkey")
    else if (db.products.get? k.productId).isNone then
      .error (fk "stock_balances_product_id_fkey")
    else .ok { db with balances := db.balances.put ⟨id, k, delta, now⟩ }

def insertDayBook (b : DayBook) : Except Exn Db :=
  if (db.stores.get? b.storeId).isNone then
    .error (foreignKeyViolation "day_books" "day_books_store_id_fkey" "INSERT INTO day_books"
      [quoted b.id, quoted b.storeId])
  else .ok { db with dayBooks := db.dayBooks ++ [b] }

def insertDayBookEntry (e : DayBookEntry) : Except Exn Db :=
  let fk c := foreignKeyViolation "day_book_entries" c "INSERT INTO day_book_entries"
    [quoted e.id, quoted e.dayBookId, quoted e.transactionId, quoted e.productId,
      toString e.quantityDelta, quotedOpt e.referenceNumber, quotedOpt e.reasonCode]
  if ¬db.dayBooks.any (·.id = e.dayBookId) then .error (fk "day_book_entries_day_book_id_fkey")
  else if (db.ledger.get? e.transactionId).isNone then
    .error (fk "day_book_entries_transaction_id_fkey")
  else if (db.products.get? e.productId).isNone then
    .error (fk "day_book_entries_product_id_fkey")
  else .ok { db with entries := db.entries ++ [e] }

/-- `UPDATE day_books SET opening_balance` -/
def setOpeningBalance (bookId : String) (total : Int) : Db :=
  { db with dayBooks := db.dayBooks.map fun b =>
      if b.id = bookId then { b with openingBalance := total } else b }

end Db

end Server
