import InvenTory.Server.Schema
import Mathlib.Data.List.Sort

/-!
# The day book

`app/services/day_book_service.py`: the book of a store and a day gets an entry for every ledger
row that ingestion inserts, and its opening balance is recomputed from the ledger. A balance sheet
adds the movements of the day to the opening balance that is stored. `getDayBookWithEntries` shows
receipts and sales only, with a running balance that also counts the movements it does not show.
-/

namespace Server

open Sql Sql.Prog

/-- Statements inside an open session of the central database. -/
abbrev Tx := Prog Exn (Conn Db)

/-- The keys `uuid4` hands out while one item is processed, and the clock it reads. -/
structure Env where
  now : DateTime
  /-- `uuid4().hex[:8]` of an alias store and of an alias product. -/
  storeHex : String
  productHex : String
  dayBookId : String
  entryId : String
  balanceId : String
  deriving DecidableEq, Repr

/-- `SELECT .. FROM day_books` of a store within the day that starts at `d`. -/
def Db.dayBookOf (db : Db) (storeId : String) (d : DateTime) : Option DayBook :=
  db.dayBooks.find? fun b => b.storeId = storeId ∧ d.instant ≤ b.bookDate.instant ∧
    b.bookDate.instant < d.instant + DateTime.day

def getOrCreateDayBook (env : Env) (storeId : String) (bookDate : DateTime) : Tx DayBook := do
  let bookDateNormalized := bookDate.startOfDay
  match ← select (·.dayBookOf storeId bookDateNormalized) with
  | some b => pure b
  | none =>
    let b : DayBook := ⟨env.dayBookId, storeId, bookDateNormalized, 0, false⟩
    execute (·.insertDayBook b)
    pure b

/-- `SELECT SUM(quantity_delta)` of a store's AVAILABLE rows before the book's day. -/
def Db.openingTotal (db : Db) (b : DayBook) : Int :=
  db.ledger.total fun r =>
    if r.storeId = b.storeId ∧ r.stockBucket = "AVAILABLE" ∧
      r.occurredAt.instant < b.bookDate.instant ∧ r.syncStatus ≠ .rejected then r.quantityDelta
    else 0

def recalculateDayBookBalance (b : DayBook) : Tx Unit := do
  let totalDelta ← select (·.openingTotal b)
  execute fun db => .ok (db.setOpeningBalance b.id totalDelta)

def addTransactionToDayBook (env : Env) (tx : InventoryTransaction) : Tx DayBookEntry := do
  let b ← getOrCreateDayBook env tx.storeId tx.occurredAt
  match ← select (·.entries.find? (·.transactionId = tx.transactionId)) with
  | some e => pure e
  | none =>
    let e : DayBookEntry :=
      ⟨env.entryId, b.id, tx.transactionId, tx.movementType, tx.productId, tx.quantityDelta,
        tx.stockBucket, tx.referenceNumber, tx.reasonCode, tx.occurredAt⟩
    execute (·.insertDayBookEntry e)
    recalculateDayBookBalance b
    pure e

/-! ## Balance sheets -/

structure BalanceSheet where
  dayBookId : String
  storeId : String
  bookDate : DateTime
  openingBalance : Int
  closingBalance : Int
  entriesCount : Nat
  generatedAt : DateTime
  entries : List DayBookEntry
  deriving Repr

/-- `SELECT SUM(quantity_delta)` of a store's AVAILABLE rows within the book's day. -/
def Db.dayTotal (db : Db) (b : DayBook) : Int :=
  db.ledger.total fun r =>
    if r.storeId = b.storeId ∧ r.stockBucket = "AVAILABLE" ∧
      b.bookDate.instant ≤ r.occurredAt.instant ∧
      r.occurredAt.instant < b.bookDate.instant + DateTime.day ∧ r.syncStatus ≠ .rejected then
      r.quantityDelta
    else 0

/-- `UPDATE day_books SET balance_sheet_generated`; the closing balance is not read again. -/
def Db.setBalanceSheetGenerated (db : Db) (bookId : String) : Db :=
  { db with dayBooks := db.dayBooks.map fun b =>
      if b.id = bookId then { b with balanceSheetGenerated := true } else b }

/-- `SELECT .. FROM day_book_entries .. ORDER BY occurred_at` -/
def Db.entriesOf (db : Db) (bookId : String) : List DayBookEntry :=
  (db.entries.filter (·.dayBookId = bookId)).insertionSort fun a b =>
    a.occurredAt.instant ≤ b.occurredAt.instant

def dayBookNotFound (dayBookId : String) : Exn :=
  ⟨"ValueError", "Day book " ++ dayBookId ++ " not found"⟩

def generateBalanceSheet (now : DateTime) (dayBookId : String) : Tx BalanceSheet := do
  match ← select (·.dayBooks.find? (·.id = dayBookId)) with
  | none => throw (dayBookNotFound dayBookId)
  | some b =>
    let dayTotal ← select (·.dayTotal b)
    execute fun db => .ok (db.setBalanceSheetGenerated b.id)
    let entries ← select (·.entriesOf dayBookId)
    pure {
      dayBookId
      storeId := b.storeId
      bookDate := b.bookDate
      openingBalance := b.openingBalance
      closingBalance := b.openingBalance + dayTotal
      entriesCount := entries.length
      generatedAt := now
      entries }

/-! ## Running balances -/

/-- `_DAY_BOOK_VISIBLE_TYPES` -/
def dayBookVisibleTypes : List String := ["RECEIPT", "SALE"]

structure DayBookLine where
  id : String
  transactionId : String
  movementType : String
  productId : String
  productName : String
  quantityDelta : Int
  referenceNumber : Option String
  reasonCode : Option String
  occurredAt : DateTime
  runningBalance : Int
  deriving DecidableEq, Repr

structure DayBookView where
  id : String
  storeId : String
  bookDate : DateTime
  openingBalance : Int
  balanceSheetGenerated : Bool
  entries : List DayBookLine
  deriving DecidableEq, Repr

/-- The entries of a book that are shown, with the names of their products. -/
def Db.visibleEntries (db : Db) (dayBookId : String) : List (DayBookEntry × String) :=
  let shown := db.entries.filter fun e =>
    e.dayBookId = dayBookId ∧ e.movementType ∈ dayBookVisibleTypes
  (shown.filterMap fun e => (db.products.get? e.productId).map fun p => (e, p.name)).insertionSort
    fun a b => a.1.occurredAt.instant ≤ b.1.occurredAt.instant

/-- The sum of a product's AVAILABLE rows before the day; other products get none. -/
def Db.priorSums (db : Db) (b : DayBook) (productIds : List String) (productId : String) : Int :=
  if productId ∈ productIds then db.ledger.total fun r =>
    if r.storeId = b.storeId ∧ r.productId = productId ∧ r.stockBucket = "AVAILABLE" ∧
      r.occurredAt.instant < b.bookDate.instant ∧ r.syncStatus ≠ .rejected then r.quantityDelta
    else 0
  else 0

/-- The AVAILABLE rows of the day that are not shown. -/
def Db.sameDayHidden (db : Db) (b : DayBook) (productIds : List String) :
    List InventoryTransaction :=
  (db.ledger.rows.filter fun r =>
    r.storeId = b.storeId ∧ r.productId ∈ productIds ∧ r.stockBucket = "AVAILABLE" ∧
      b.bookDate.instant ≤ r.occurredAt.instant ∧
      r.occurredAt.instant < b.bookDate.instant + DateTime.day ∧
      r.movementType ∉ dayBookVisibleTypes ∧ r.syncStatus ≠ .rejected).insertionSort
    fun a b => a.occurredAt.instant ≤ b.occurredAt.instant

/-- A hidden row of the entry's product that comes before it. -/
def DayBookEntry.Due (e : DayBookEntry) (tx : InventoryTransaction) : Prop :=
  tx.productId = e.productId ∧ tx.occurredAt.instant < e.occurredAt.instant

instance (e : DayBookEntry) : DecidablePred e.Due := fun tx => by
  unfold DayBookEntry.Due
  infer_instance

def DayBookEntry.line (e : DayBookEntry) (productName : String) (runningBalance : Int) :
    DayBookLine :=
  ⟨e.id, e.transactionId, e.movementType, e.productId, productName, e.quantityDelta,
    e.referenceNumber, e.reasonCode, e.occurredAt, runningBalance⟩

/-- The loop over the entries. `productRunning` is a dictionary that answers 0 for what it lacks. -/
def entriesData : (String → Int) → List InventoryTransaction → List (DayBookEntry × String) →
    List DayBookLine
  | _, _, [] => []
  | productRunning, sameDayHidden, (entry, productName) :: rest =>
    let productRunning := sameDayHidden.foldl (fun running tx =>
      if entry.Due tx then
        Function.update running tx.productId (running tx.productId + tx.quantityDelta)
      else running) productRunning
    let sameDayHidden := sameDayHidden.filter fun tx => ¬ entry.Due tx
    let after := productRunning entry.productId + entry.quantityDelta
    let productRunning := Function.update productRunning entry.productId after
    entry.line productName after :: entriesData productRunning sameDayHidden rest

def selectPriorSums (b : DayBook) (productIds : List String) : Tx (String → Int) :=
  if productIds = [] then pure fun _ => 0 else select (·.priorSums b productIds)

def selectSameDayHidden (b : DayBook) (productIds : List String) : Tx (List InventoryTransaction) :=
  if productIds = [] then pure [] else select (·.sameDayHidden b productIds)

def getDayBookWithEntries (dayBookId : String) : Tx (Option DayBookView) := do
  match ← select (·.dayBooks.find? (·.id = dayBookId)) with
  | none => pure none
  | some b =>
    let entriesWithProducts ← select (·.visibleEntries dayBookId)
    let productIds := (entriesWithProducts.map (·.1.productId)).dedup
    let productRunning ← selectPriorSums b productIds
    let sameDayHidden ← selectSameDayHidden b productIds
    pure (some {
      id := b.id
      storeId := b.storeId
      bookDate := b.bookDate
      openingBalance := b.openingBalance
      balanceSheetGenerated := b.balanceSheetGenerated
      entries := entriesData productRunning sameDayHidden entriesWithProducts })

end Server
