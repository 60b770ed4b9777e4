import InvenTory.Desktop.DayBooks
import InvenTory.Desktop.Provision
import InvenTory.Desktop.Pull

/-!
# Restoring from the server

`do_restore` runs in a thread of its own: it logs in, asks for the data in three requests and writes
them row by row, each statement committed by itself and its error ignored. What it writes is a list of
statements (`restoreOps`), with the local variables that `upsert_day_book_entry` goes by in between
(`Locals`). `cancel_restore` may come between any two of them.
-/

namespace Desktop

open Relational Sql
open Server (StockKey)

/-! ## The database -/

/-- A row of `users`, with the columns that the login reads. -/
structure Account where
  id : String
  username : String
  email : Option String
  pinHash : Option String
  fullName : Option String
  role : String
  isActive : Bool
  deriving DecidableEq, Repr

/-- A row of `daily_stock_snapshot`, which a trigger on `stock_balances` writes. -/
structure StockSnapshot where
  stock : StockKey
  date : Int
  quantity : Int
  deriving DecidableEq, Repr

instance : Keyed Account String := ⟨Account.id⟩
instance : Keyed StockSnapshot (StockKey × Int) := ⟨fun s => (s.stock, s.date)⟩

/-- The accounts are in `accounts` here, and not in the `users` of the stock tables.
`restoreCompleted` is whether `kv_store` has the flag. -/
structure RestoreDb where
  books : BooksDb
  accounts : Table Account
  snapshots : Table StockSnapshot
  restoreCompleted : Bool

namespace RestoreDb

def empty : RestoreDb := ⟨.empty, ∅, ∅, false⟩

variable (db : RestoreDb)

def stores : Table Store := db.books.stock.stores

def products : Table Product := db.books.stock.products

def balances : Table StockBalance := db.books.stock.balances

def transactions : Table InventoryTransaction := db.books.stock.transactions

/-- Change the stock tables. -/
def withStock (f : Db → Db) : RestoreDb :=
  { db with books := { db.books with stock := f db.books.stock } }

/-! ## Statements -/

/-- The rows of the tables that refer to a store: its id is in this list. -/
def storeReferences : List String :=
  db.books.stock.devices.rows.map (·.storeId) ++ db.balances.rows.map (·.stock.storeId) ++
    db.transactions.rows.map (·.storeId) ++ db.books.stock.transfers.rows.map (·.sourceStoreId) ++
    db.books.stock.transfers.rows.map (·.destinationStoreId) ++
    db.books.dayBooks.rows.map (·.storeId) ++ db.snapshots.rows.map (·.stock.storeId)

def productReferences : List String :=
  db.balances.rows.map (·.stock.productId) ++ db.transactions.rows.map (·.productId) ++
    db.books.stock.transfers.rows.map (·.productId) ++ db.books.entries.rows.map (·.productId) ++
    db.snapshots.rows.map (·.stock.productId)

end RestoreDb

/-- `INSERT OR REPLACE`: the rows in conflict with the new one are deleted first. -/
def replaceRow {ρ κ : Type} [Keyed ρ κ] [DecidableEq κ] (t : Table ρ) (conflicts : ρ → Bool) (r : ρ) :
    Table ρ :=
  (t.filter fun x => ¬ (key x = key r ∨ conflicts x = true)).put r

namespace RestoreDb

variable (db : RestoreDb)

/-- A store that gives way to one with its code must not be referred to. -/
def replaceStore (s : Store) : RestoreDb :=
  if db.stores.rows.any fun t => t.code = s.code ∧ t.id ≠ s.id ∧ t.id ∈ db.storeReferences then db
  else db.withStock fun d => { d with stores := replaceRow d.stores (·.code = s.code) s }

def replaceProduct (p : Product) : RestoreDb :=
  if db.products.rows.any fun q => q.sku = p.sku ∧ q.id ≠ p.id ∧ q.id ∈ db.productReferences then db
  else db.withStock fun d => { d with products := replaceRow d.products (·.sku = p.sku) p }

/-- The trigger keeps the quantity of today. -/
def replaceBalance (today : Int) (b : StockBalance) : RestoreDb :=
  if (db.stores.get? b.stock.storeId).isNone ∨ (db.products.get? b.stock.productId).isNone then db
  else { db.withStock (fun d => { d with balances := replaceRow d.balances (·.id = b.id) b }) with
    snapshots := db.snapshots.put ⟨b.stock, today, b.quantity⟩ }

def replaceAccount (u : Account) : RestoreDb :=
  { db with accounts := replaceRow db.accounts (·.username = u.username) u }

/-- `INSERT OR IGNORE INTO inventory_transactions`; a foreign key is not ignored. -/
def insertTransactionOrIgnore (r : InventoryTransaction) : RestoreDb :=
  db.withStock fun d => match d.insertTransactionOrIgnore r with
    | .ok d' => d'
    | .error _ => d

end RestoreDb

/-! ## The thread -/

/-- The variables of `upsert_day_book_entry`: whether there is a day book, whether a statement has
failed, and the closing balance. -/
structure Locals where
  found : Bool
  failed : Bool
  closing : Int32
  deriving DecidableEq, Repr

inductive RestoreOp
  | writeStore (s : Store)
  | writeProduct (p : Product)
  | writeBalance (today : Int) (b : StockBalance)
  | writeUser (u : Account)
  | writeTransaction (r : InventoryTransaction)
  | findDayBook (k : String × Int)
  | createDayBook (k : String × Int)
  | upsertEntry (e : DayBookEntry)
  | readClosing (storeId : String)
  | setClosing (k : String × Int)
  | setCompleted

/-- A statement of the day book that may fail. -/
def Locals.guarded (l : Locals) (db : RestoreDb) (f : BooksDb → Except String BooksDb) :
    Locals × RestoreDb :=
  if l.failed then (l, db)
  else match f db.books with
    | .ok books => (l, { db with books := books })
    | .error _ => ({ l with failed := true }, db)

namespace RestoreOp

def run (x : Locals × RestoreDb) : RestoreOp → Locals × RestoreDb
  | writeStore s => (x.1, x.2.replaceStore s)
  | writeProduct p => (x.1, x.2.replaceProduct p)
  | writeBalance today b => (x.1, x.2.replaceBalance today b)
  | writeUser u => (x.1, x.2.replaceAccount u)
  | writeTransaction r => (x.1, x.2.insertTransactionOrIgnore r)
  | findDayBook k => ({ x.1 with found := (x.2.books.dayBooks.get? k).isSome, failed := false }, x.2)
  | createDayBook k =>
    if x.1.found then x else x.1.guarded x.2 (·.insertDayBook k)
  | upsertEntry e =>
    if e.movementType ∈ hiddenMovements then x else x.1.guarded x.2 (·.upsertEntry e)
  | readClosing storeId =>
    ({ x.1 with closing := (Db.readI32 (x.2.books.availableStock storeId)).getD 0 }, x.2)
  | setClosing k => x.1.guarded x.2 fun books => .ok (books.setClosing k x.1.closing)
  | setCompleted => (x.1, { x.2 with restoreCompleted := true })

/-- The statements from one to the next. -/
def runAll (ops : List RestoreOp) (x : Locals × RestoreDb) : Locals × RestoreDb :=
  ops.foldl RestoreOp.run x

end RestoreOp

/-- `let _ = upsert_day_book_entry(..)`, statement by statement. -/
def dayBookOps (r : InventoryTransaction) : List RestoreOp :=
  let k := (r.storeId, bookDate r.occurredAt)
  [.findDayBook k, .createDayBook k, .upsertEntry ⟨r.transactionId, k, r.movementType, r.productId,
    r.quantityDelta, r.stockBucket, r.referenceNumber, r.reasonCode, r.occurredAt⟩,
    .readClosing r.storeId, .setClosing k]

/-! ## What is written -/

structure SrvUser where
  id : String
  username : String
  email : Option String
  fullName : Option String
  role : String
  isActive : Bool
  deriving DecidableEq, Repr

/-- The numbers of an INTEGER column are `i32`s. -/
structure CriticalRestoreData where
  stores : List Store
  users : List SrvUser
  products : List Product
  stockBalances : List StockBalance
  recentTransactions : List RestoredTransaction

/-- The replies to the requests: to the login, and to the three for data. -/
structure Replies where
  start : Except String Unit
  critical : Except String CriticalRestoreData
  important : Option (List RestoredTransaction)
  background : Option (List RestoredTransaction)

/-- The phase of the progress at the end of the thread. -/
def Replies.phase (r : Replies) : String :=
  match r.start, r.critical with
  | .ok _, .ok _ => "complete"
  | _, _ => "error"

/-- `bcrypt`, with the salt that is drawn for a hash. -/
structure Bcrypt where
  hash : Nat → String → String
  verify : String → String → Bool

/-- Only the password itself is verified against its hash. -/
def Bcrypt.Ideal (b : Bcrypt) : Prop := ∀ salt p q, b.verify q (b.hash salt p) = true ↔ q = p

/-- What `do_restore` is called with, and the time and the salts that it draws. -/
structure RestoreCall where
  bcrypt : Bcrypt
  username : String
  password : String
  now : Instant
  salt : String → Nat

namespace RestoreCall

variable (c : RestoreCall)

/-- The password of the restore for the user that has been typed; a default for the others. -/
def pin (u : SrvUser) : String := if u.username = c.username then c.password else "123456"

def account (u : SrvUser) : Account where
  id := u.id
  username := u.username
  email := u.email
  pinHash := some (c.bcrypt.hash (c.salt u.id) (c.pin u))
  fullName := u.fullName
  role := u.role
  isActive := u.isActive

def transactionOps (t : RestoredTransaction) : List RestoreOp :=
  let r := t.row c.now "1" "unknown" .synced
  .writeTransaction r :: dayBookOps r

def criticalOps (data : CriticalRestoreData) : List RestoreOp :=
  data.stores.map .writeStore ++ data.products.map .writeProduct ++
    data.stockBalances.map (.writeBalance (bookDate c.now)) ++
    data.users.map (fun u => .writeUser (c.account u)) ++
    data.recentTransactions.flatMap c.transactionOps ++ [.setCompleted]

/-- The later requests are given up silently. -/
def restoreOps (r : Replies) : List RestoreOp :=
  match r.start, r.critical with
  | .ok _, .ok data => c.criticalOps data ++ (r.important.getD []).flatMap c.transactionOps ++
      (r.background.getD []).flatMap c.transactionOps
  | _, _ => []

/-- The local variables before the first call of `upsert_day_book_entry`. -/
def locals : Locals := ⟨false, false, 0⟩

def doRestore (r : Replies) (db : RestoreDb) : RestoreDb :=
  (RestoreOp.runAll (c.restoreOps r) (locals, db)).2

end RestoreCall

/-! ## Giving up -/

namespace RestoreDb

variable (db : RestoreDb)

/-- `DELETE FROM stores`, which fails while a row refers to one. -/
def deleteStores : RestoreDb :=
  if db.stores.rows.any fun s => s.id ∈ db.storeReferences then db
  else db.withStock fun d => { d with stores := ∅ }

def deleteProducts : RestoreDb :=
  if db.products.rows.any fun p => p.id ∈ db.productReferences then db
  else db.withStock fun d => { d with products := ∅ }

def deleteBalances : RestoreDb := db.withStock fun d => { d with balances := ∅ }

def deleteSnapshots : RestoreDb := { db with snapshots := ∅ }

/-- The entries of the day books go with their transactions. -/
def deleteTransactions : RestoreDb :=
  { db with books := { db.books with
      stock := { db.books.stock with transactions := ∅ }
      entries := ∅ } }

def deleteUsers : RestoreDb := { db with accounts := ∅ }

def deleteEntries : RestoreDb := { db with books := { db.books with entries := ∅ } }

def deleteDayBooks : RestoreDb := { db with books := { db.books with dayBooks := ∅, entries := ∅ } }

def deleteOutbox : RestoreDb := db.withStock fun d => { d with outbox := ∅ }

def clearCompleted : RestoreDb := { db with restoreCompleted := false }

/-- `cancel_restore`, in one transaction: the parents first. -/
def cancelRestore : RestoreDb :=
  db.deleteStores.deleteProducts.deleteBalances.deleteSnapshots.deleteTransactions.deleteUsers
    |>.deleteEntries.deleteDayBooks.deleteOutbox.clearCompleted

end RestoreDb

namespace RestoreCall

variable (c : RestoreCall) (r : Replies) (n : Nat) (db : RestoreDb)

/-- The thread after `n` statements. -/
def after : Locals × RestoreDb := RestoreOp.runAll ((c.restoreOps r).take n) (locals, db)

/-- The database when the thread has ended, and `cancel_restore` has come after `n` statements. -/
def cancelledAfter : RestoreDb :=
  let x := c.after r n db
  (RestoreOp.runAll ((c.restoreOps r).drop n) (x.1, x.2.cancelRestore)).2

end RestoreCall

/-! ## Logging in -/

structure LocalSession where
  userId : String
  username : String
  fullName : Option String
  role : String
  deriving DecidableEq, Repr

/-- The login of the account that has been found. -/
def Account.login (bcrypt : Bcrypt) (u : Account) (password : String) : Except String LocalSession :=
  if u.isActive = false then .error "Account is inactive."
  else match u.pinHash with
    | none =>
      .error "Offline login not available — please connect to the server at least once."
    | some h =>
      if bcrypt.verify password h then .ok ⟨u.id, u.username, u.fullName, u.role⟩
      else .error "Invalid username or password."

def localLogin (bcrypt : Bcrypt) (db : RestoreDb) (username password : String) :
    Except String LocalSession :=
  match db.accounts.rows.find? fun u => sqlLower u.username = sqlLower (trim username) with
  | none => .error "Invalid username or password."
  | some u => u.login bcrypt password

end Desktop
