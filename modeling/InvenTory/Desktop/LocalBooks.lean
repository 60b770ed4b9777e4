import InvenTory.Lib.Tally
import InvenTory.Sync.Push
import Mathlib.Data.String.Basic

/-!
# The day books that the desktop shows

`DayBooksView` makes the books of a store from the local transactions (`_buildLocalDayBooks`): what the
products had before the first one is reckoned back from the current balances, and the transactions are
replayed from there. The balance sheet of a book (`buildBalanceSheetData`) starts from the current balance
of each product in the book. Quantities are integers, as the sums of the code are exact.
-/

namespace Desktop.View

open Relational
open Sync (Js)

/-! ## Times -/

def isIsoDate (s : String) : Bool :=
  match s.toList with
  | [y1, y2, y3, y4, '-', m1, m2, '-', d1, d2] =>
    [y1, y2, y3, y4, m1, m2, d1, d2].all Char.isDigit
  | _ => false

/-- `_toDateStr` -/
def toDateStr (iso : String) : String := String.ofList (iso.toList.take 10)

/-- The text of a time: a date, and a time of day in one of the forms of ISO 8601. -/
structure IsoTime where
  text : String
  isDate : isIsoDate (toDateStr text) = true
  isTime : (text.toList.drop 10).all (fun c => c.isDigit || c ∈ ['T', ':', '.', '+', '-', 'Z']) = true
  deriving DecidableEq, Repr

def IsoTime.date (t : IsoTime) : String := toDateStr t.text

/-- `a.localeCompare(b) <= 0` -/
def IsoTime.le (js : Js) (a b : IsoTime) : Bool := js.localeLe a.text b.text

/-- Whether `localeCompare` orders ISO texts character by character. -/
structure Collates (js : Js) : Prop where
  total : ∀ a b : IsoTime, a.le js b = true ∨ b.le js a = true
  trans : ∀ a b c : IsoTime, a.le js b = true → b.le js c = true → a.le js c = true
  antisymm : ∀ a b : IsoTime, a.le js b = true → b.le js a = true → a = b
  dates : ∀ a b : IsoTime, a.le js b = true → a.date ≤ b.date
  date : ∀ a b : IsoTime, js.localeLe a.date b.date = true ↔ a.date ≤ b.date

/-! ## Day books -/

structure InventoryTransaction where
  transactionId : String
  storeId : String
  productId : String
  movementType : String
  stockBucket : String
  quantityDelta : Int
  occurredAt : IsoTime
  referenceNumber : Option String
  reasonCode : Option String
  deriving DecidableEq, Repr

structure DayBookEntry where
  id : String
  transactionId : String
  movementType : String
  productId : String
  productName : String
  quantityDelta : Int
  referenceNumber : Option String
  reasonCode : Option String
  occurredAt : IsoTime
  runningBalance : Int
  deriving DecidableEq, Repr

structure DayBook where
  id : String
  storeId : String
  bookDate : String
  openingBalance : Int
  closingBalance : Int
  createdAt : String
  updatedAt : String
  deriving DecidableEq, Repr

structure DayBookDetail where
  id : String
  storeId : String
  bookDate : String
  openingBalance : Int
  closingBalance : Int
  entries : List DayBookEntry
  deriving DecidableEq, Repr

instance : Keyed DayBookDetail String := ⟨DayBookDetail.id⟩

/-- `DAY_BOOK_HIDDEN_MOVEMENT_TYPES` -/
def dayBookHiddenMovementTypes : List String := ["ADJUSTMENT", "RETURN", "DAMAGE"]

def InventoryTransaction.hidden (t : InventoryTransaction) : Bool :=
  t.movementType ∈ dayBookHiddenMovementTypes

/-- A product by its id. -/
abbrev ProductMap := String → Option String

def entry (productMap : ProductMap) (t : InventoryTransaction) (after : Int) : DayBookEntry where
  id := t.transactionId
  transactionId := t.transactionId
  movementType := t.movementType
  productId := t.productId
  productName := (productMap t.productId).getD t.productId
  quantityDelta := t.quantityDelta
  referenceNumber := t.referenceNumber
  reasonCode := t.reasonCode
  occurredAt := t.occurredAt
  runningBalance := after

/-- The entries of a day, and `productRunning` after it. -/
def walk (productMap : ProductMap) :
    Tally String Int → List InventoryTransaction → List DayBookEntry × Tally String Int
  | productRunning, [] => ([], productRunning)
  | productRunning, t :: txns =>
    let after := productRunning.of t.productId + t.quantityDelta
    let (entries, running) := walk productMap (productRunning.put ⟨t.productId, after⟩) txns
    (if t.hidden then entries else entry productMap t after :: entries, running)

def bookId (storeId date : String) : String := "local-" ++ storeId ++ "-" ++ date

/-- A date, with its transactions: the book and the detail, and `carryOver` for the next date. -/
def bookDay (storeId : String) (productMap : ProductMap) (carryOver : Tally String Int) (date : String)
    (txns : List InventoryTransaction) : DayBook × DayBookDetail × Tally String Int :=
  let openingBalanceAggregate := carryOver.sum
  let (entries, productRunning) := walk productMap carryOver txns
  let closingBalanceAggregate := productRunning.sum
  (⟨bookId storeId date, storeId, date, openingBalanceAggregate, closingBalanceAggregate,
      (txns.head?.map (·.occurredAt.text)).getD date, (txns.getLast?.map (·.occurredAt.text)).getD date⟩,
    ⟨bookId storeId date, storeId, date, openingBalanceAggregate, closingBalanceAggregate, entries⟩,
    carryOver.putAll productRunning.rows)

def bookDays (storeId : String) (productMap : ProductMap) (txnsOf : String → List InventoryTransaction) :
    Tally String Int → List String → List (DayBook × DayBookDetail)
  | _, [] => []
  | carryOver, date :: dates =>
    let (book, detail, carryOver) := bookDay storeId productMap carryOver date (txnsOf date)
    (book, detail) :: bookDays storeId productMap txnsOf carryOver dates

/-- `allStoreTxns` -/
def allStoreTxns (js : Js) (transactions : List InventoryTransaction) (storeId : String) :
    List InventoryTransaction :=
  (transactions.filter (·.storeId = storeId)).insertionSort fun a b =>
    a.occurredAt.le js b.occurredAt = true

/-- What each product had before the first transaction, where that is not zero. -/
def seeds (currentBalances : Option (Tally String Int)) (txns : List InventoryTransaction) :
    Tally String Int :=
  match currentBalances with
  | none => ∅
  | some balances =>
    if 0 < balances.rows.length then
      let totalDeltas := Tally.addAll (·.productId) (·.quantityDelta) txns ∅
      balances.rows.foldl (fun carryOver b =>
        let seed := b.amount - totalDeltas.of b.key
        if seed ≠ 0 then carryOver.put ⟨b.key, seed⟩ else carryOver) ∅
    else ∅

def byDate (txns : List InventoryTransaction) : Groups String InventoryTransaction :=
  Groups.group (·.occurredAt.date) txns

def sortedDates (txns : List InventoryTransaction) : List String :=
  ((byDate txns).rows.map Group.key).insertionSort (· ≤ ·)

/-- The books, oldest first. -/
def localBooks (js : Js) (transactions : List InventoryTransaction) (storeId : String)
    (productMap : ProductMap) (currentBalances : Option (Tally String Int)) :
    List (DayBook × DayBookDetail) :=
  let txns := allStoreTxns js transactions storeId
  bookDays storeId productMap (byDate txns).membersOf (seeds currentBalances txns) (sortedDates txns)

/-- `_buildLocalDayBooks` -/
def buildLocalDayBooks (js : Js) (transactions : List InventoryTransaction) (storeId : String)
    (productMap : ProductMap) (currentBalances : Option (Tally String Int)) :
    List DayBook × Table DayBookDetail :=
  let books := localBooks js transactions storeId productMap currentBalances
  ((books.map Prod.fst).insertionSort fun a b => js.localeLe b.bookDate a.bookDate = true,
    (books.map Prod.snd).foldl Table.put ∅)

/-! ## Balance sheets -/

structure DayBookEntryForSheet extends DayBookEntry where
  sku : Option String
  deriving DecidableEq, Repr

structure BalanceSheetRow where
  productId : String
  productName : String
  sku : Option String
  openingBalance : Int
  cumulativeIn : Int
  cumulativeOut : Int
  closingBalance : Int
  deriving DecidableEq, Repr

/-- What the entries with `p` add up to. -/
def sumOf (p : Int → Bool) (entries : List DayBookEntryForSheet) : Int :=
  ((entries.filter fun e => p e.quantityDelta).map fun e => e.quantityDelta).sum

def cumulativeIn (entries : List DayBookEntryForSheet) : Int := sumOf (· > 0) entries

def cumulativeOut (entries : List DayBookEntryForSheet) : Int := (sumOf (· < 0) entries).natAbs

/-- The row of a product, whose texts are those of its first entry. -/
def sheetRow (js : Js) (currentBalances : Tally String Int)
    (g : Group String DayBookEntryForSheet) : Option BalanceSheetRow :=
  let productEntries := g.members.insertionSort fun a b => a.occurredAt.le js b.occurredAt = true
  let totalIn := cumulativeIn productEntries
  let totalOut := cumulativeOut productEntries
  let currentBalance := ((currentBalances.get? g.key).map Amount.amount).getD (totalIn - totalOut)
  productEntries.head?.map fun e =>
    ⟨g.key, e.productName, e.sku, currentBalance - totalIn + totalOut, totalIn, totalOut, currentBalance⟩

def buildBalanceSheetData (js : Js) (entries : List DayBookEntryForSheet)
    (currentBalances : Tally String Int) : List BalanceSheetRow :=
  ((Groups.group (·.productId) entries).rows.filterMap (sheetRow js currentBalances)).insertionSort
    fun a b => js.localeLe a.productName b.productName = true

/-- The balances of the products of a book, zero where `getStockBalance` fails. -/
def currentBalancesMap (getStockBalance : String → Option Int) (d : DayBookDetail) :
    Tally String Int :=
  let productIds := (Groups.group DayBookEntry.productId d.entries).rows.map Group.key
  Table.putAll ∅ (productIds.map fun p => ⟨p, (getStockBalance p).getD 0⟩)

/-- `balanceSheetRows` of the selected book. -/
def balanceSheetRows (js : Js) (productSkuMap : String → Option String)
    (getStockBalance : String → Option Int) (d : DayBookDetail) : List BalanceSheetRow :=
  if d.entries = [] then []
  else buildBalanceSheetData js (d.entries.map fun e => ⟨e, productSkuMap e.productId⟩)
    (currentBalancesMap getStockBalance d)

/-! ## Sample values -/

namespace Sample

def js : Js := ⟨id, fun a b => decide (a ≤ b)⟩

/-- Half past nine on the first days of January. -/
def first : IsoTime := ⟨"2024-01-01T09:30:00Z", by decide, by decide⟩

def second : IsoTime := ⟨"2024-01-02T09:30:00Z", by decide, by decide⟩

def transaction (transactionId movementType stockBucket : String) (quantityDelta : Int)
    (occurredAt : IsoTime) : InventoryTransaction :=
  ⟨transactionId, "STORE", "PROD", movementType, stockBucket, quantityDelta, occurredAt, none, none⟩

def receipts : List InventoryTransaction :=
  [transaction "TX-1" "RECEIPT" "AVAILABLE" 5 first, transaction "TX-2" "RECEIPT" "AVAILABLE" 3 second]

/-- A receipt, and a return of goods that are damaged. -/
def returned : List InventoryTransaction :=
  [transaction "TX-1" "RECEIPT" "AVAILABLE" 5 first, transaction "TX-2" "RETURN" "DAMAGED" 2 second]

/-- The current balances of the store. -/
def balances (quantity : Int) : Tally String Int := ⟨[⟨"PROD", quantity⟩], by simp⟩

end Sample

end Desktop.View
