import InvenTory.Desktop.Commands
import InvenTory.Lib.Writes

/-!
# The day books of the desktop

After their own statements the commands that write transactions call `upsert_day_book_entry`, whose
errors they ignore; `delete_transaction` has statements of its own, and the transfers have none. A row
of `day_books` has the id `DB-{store_id}-{book_date}`, in which the date is of fixed length, and an entry
the id `DBE-{transaction_id}`: the keys here are the parts of the ids.
-/

namespace Desktop

open Relational Sql Sql.Prog
open Server (StockKey)

/-- The day of a time, which is the first ten characters of its text. -/
def bookDate (t : Instant) : Int := t / 86400

structure DayBook where
  storeId : String
  bookDate : Int
  closingBalance : Int32
  deriving DecidableEq, Repr

structure DayBookEntry where
  transactionId : String
  dayBook : String × Int
  movementType : String
  productId : String
  quantityDelta : Int
  stockBucket : String
  referenceNumber : Option String
  reasonCode : Option String
  occurredAt : Instant
  deriving DecidableEq, Repr

instance : Keyed DayBook (String × Int) := ⟨fun b => (b.storeId, b.bookDate)⟩
instance : Keyed DayBookEntry String := ⟨DayBookEntry.transactionId⟩

/-- The stock tables with the two of the day book. -/
structure BooksDb where
  stock : Db
  dayBooks : Table DayBook
  entries : Table DayBookEntry

namespace BooksDb

def empty : BooksDb := ⟨.empty, ∅, ∅⟩

variable (db : BooksDb)

/-! ## Statements -/

/-- `INSERT INTO day_books`, with nothing in the balances. -/
def insertDayBook (k : String × Int) : Except String BooksDb :=
  if (db.dayBooks.get? k).isSome then .error (Db.uniqueFailed "day_books.id")
  else if (db.stock.stores.get? k.1).isNone then .error Db.foreignKeyFailed
  else .ok { db with dayBooks := db.dayBooks.put ⟨k.1, k.2, 0⟩ }

/-- `INSERT INTO day_book_entries .. ON CONFLICT(id) DO UPDATE SET quantity_delta, reference_number,
reason_code` -/
def upsertEntry (e : DayBookEntry) : Except String BooksDb :=
  match db.entries.get? e.transactionId with
  | some old => .ok { db with entries := db.entries.put { old with
      transactionId := e.transactionId
      quantityDelta := e.quantityDelta
      referenceNumber := e.referenceNumber
      reasonCode := e.reasonCode } }
  | none =>
    if (db.dayBooks.get? e.dayBook).isNone ∨ (db.stock.transactions.get? e.transactionId).isNone ∨
        (db.stock.products.get? e.productId).isNone then .error Db.foreignKeyFailed
    else .ok { db with entries := db.entries.put e }

/-- `UPDATE day_books SET closing_balance = .. WHERE id = ..` -/
def setClosing (k : String × Int) (closing : Int32) : BooksDb :=
  match db.dayBooks.get? k with
  | some b => { db with dayBooks := db.dayBooks.put { b with closingBalance := closing } }
  | none => db

/-- `DELETE FROM day_book_entries WHERE transaction_id = ..` -/
def deleteEntries (transactionId : String) : BooksDb :=
  { db with entries := db.entries.erase transactionId }

/-- `SELECT COALESCE(SUM(quantity), 0) FROM stock_balances WHERE store_id = .. AND stock_bucket =
'AVAILABLE'` -/
def availableStock (storeId : String) : Int :=
  db.stock.balances.total fun b =>
    if b.stock.storeId = storeId ∧ b.stock.stockBucket = "AVAILABLE" then b.quantity else 0

end BooksDb

variable {α : Type}

def onBooks (p : Prog String Db α) : Prog String BooksDb α :=
  zoom BooksDb.stock (fun stock db => { db with stock := stock }) p

/-! ## The day book -/

/-- The closing balance of a store, `unwrap_or(0)`. -/
def selectClosing (storeId : String) : Prog String BooksDb Int32 := do
  let closing ← attempt (query fun db => Db.readI32 (db.availableStock storeId))
  pure (closing.toOption.join.getD 0)

/-- Movements that are no lines of the day book. -/
def hiddenMovements : List String := ["ADJUSTMENT", "RETURN", "DAMAGE"]

/-- Every call passes the columns of the transaction that its command returns. -/
def upsertDayBookEntry (r : InventoryTransaction) : Prog String BooksDb Unit := do
  let dayBook := (r.storeId, bookDate r.occurredAt)
  let existing ← attempt (query (·.dayBooks.get? dayBook))
  onlyIf existing.toOption.join.isNone
    (context "Failed to create day_books row" (autocommit (·.insertDayBook dayBook)))
  onlyIf (r.movementType ∉ hiddenMovements) (context "Failed to upsert day_book_entries row"
    (autocommit (·.upsertEntry ⟨r.transactionId, dayBook, r.movementType, r.productId,
      r.quantityDelta, r.stockBucket, r.referenceNumber, r.reasonCode, r.occurredAt⟩)))
  let closing ← selectClosing r.storeId
  context "Failed to update day_books closing_balance"
    (autocommit fun db => .ok (db.setClosing dayBook closing))

/-- `let _ = upsert_day_book_entry(..)` -/
def enterInDayBook (r : InventoryTransaction) : Prog String BooksDb Unit := do
  let _ ← attempt (upsertDayBookEntry r)
  pure ()

/-- A command, with its transaction in the day book. -/
def withDayBook (p : Prog String Db InventoryTransaction) :
    Prog String BooksDb InventoryTransaction := do
  let r ← onBooks p
  enterInDayBook r
  pure r

/-! ## The commands -/

namespace Books

variable (rs : Rust) (clk : Clock)

def receiveStock (input : ReceiveStockInput) : Prog String BooksDb InventoryTransaction :=
  withDayBook (Desktop.receiveStock clk input)

def sellStock (input : SellStockInput) : Prog String BooksDb InventoryTransaction :=
  withDayBook (Desktop.sellStock clk input)

def returnStock (input : ReturnStockInput) : Prog String BooksDb InventoryTransaction :=
  withDayBook (Desktop.returnStock rs clk input)

def enterAllInDayBook : List InventoryTransaction → Prog String BooksDb Unit
  | [] => pure ()
  | r :: rows => do
    enterInDayBook r
    enterAllInDayBook rows

def moveStockBucket (input : MoveStockBucketInput) :
    Prog String BooksDb (List InventoryTransaction) := do
  let rows ← onBooks (Desktop.moveStockBucket rs clk input)
  enterAllInDayBook rows
  pure rows

def adjustStock (input : AdjustStockInput) : Prog String BooksDb InventoryTransaction :=
  withDayBook (Desktop.adjustStock rs clk input)

/-- The transaction goes into the day book of the day of the edit. -/
def updateTransaction (input : UpdateTransactionInput) :
    Prog String BooksDb InventoryTransaction :=
  withDayBook (Desktop.updateTransaction clk input)

/-- The outbox after a deletion. -/
def queueReversal (transactionId : String) (r : InventoryTransaction) (q : Int32) :
    Prog String Db Unit :=
  if r.syncStatus ∈ [.synced, .accepted] then
    context "Failed to queue tombstone change for sync"
      (autocommit (·.insertEvent (newEvent (generateId "OB" (clk.nanos 0))
        (voidEventId transactionId) (voidPayload r q clk.now) clk.now)))
  else
    context "Failed to update queued change status"
      (autocommit fun db => .ok (db.updateEvent (eventId transactionId) OutboxEvent.withdraw))

/-- What `delete_transaction` does before it comes to the day book: the store of the transaction, if
there is one. -/
def deleteRow (transactionId : String) : Prog String BooksDb (Option String) := do
  match ← onBooks (selectTransaction transactionId) with
  | none => pure none
  | some (r, q) =>
    context "Failed to reverse stock balance"
      (onBooks (autocommit (·.addToBalance r.stock (-q).toInt)))
    context "Failed to delete day-book entries"
      (autocommit fun db => .ok (db.deleteEntries transactionId))
    context "Failed to delete transaction"
      (onBooks (autocommit fun db => .ok (db.deleteTransaction transactionId)))
    onBooks (queueReversal clk transactionId r q)
    pure (some r.storeId)

/-- The closing balance of today is set, if there is a row of today. -/
def deleteTransaction (transactionId : String) : Prog String BooksDb Unit := do
  match ← deleteRow clk transactionId with
  | none => pure ()
  | some storeId => do
    let closing ← selectClosing storeId
    let _ ← attempt (autocommit fun db => .ok (db.setClosing (storeId, bookDate clk.now) closing))
    pure ()

end Books

end Desktop
