import InvenTory.Desktop.Outbox

/-!
# Data from the server

`apply_sync_pull` writes a snapshot of the server's products, stores and balances in one
transaction; the quantity of a balance is replaced. `apply_restore_transactions` and the
transaction loop of `do_restore` bring back rows of the server's ledger, without outbox events.
-/

namespace Desktop

open Relational Sql Sql.Prog
open Server (StockKey)

/-! ## Applying a snapshot -/

def isPlaceholderProduct (sku name : String) : Bool :=
  (sku.startsWith "OFFLINE-" || sku.startsWith "AUTO-") &&
    (name.startsWith "OFFLINE-PROD-" || name.startsWith "Offline Item (")

def isPlaceholderStore (name : String) : Bool := name.startsWith "Auto Store ("

/-- A placeholder does not replace a real product; the count of rows written. -/
def pullProduct (p : Product) : Prog String (Conn Db) Nat :=
  let upsert : Prog String (Conn Db) Nat := do
    execute (·.upsertProduct p)
    pure 1
  if isPlaceholderProduct p.sku p.name then do
    let row ← attempt (select fun db => (db.products.get? p.id).map Product.name)
    match row.toOption.join with
    | some name =>
      if isPlaceholderProduct p.sku name then upsert
      else do
        execute fun db => .ok (db.setProductActive p.id p.isActive)
        pure 0
    | none => upsert
  else upsert

def pullStore (s : Store) : Prog String (Conn Db) Nat :=
  let upsert : Prog String (Conn Db) Nat := do
    execute (·.upsertStore s)
    pure 1
  if isPlaceholderStore s.name then do
    let row ← attempt (select fun db => (db.stores.get? s.id).map Store.name)
    match row.toOption.join with
    | some name =>
      if isPlaceholderStore name then upsert
      else do
        execute fun db => .ok (db.setStoreActive s.id s.isActive)
        pure 0
    | none => upsert
  else upsert

structure StockBalanceSnapshot where
  id : String
  stock : StockKey
  quantity : Int32
  deriving DecidableEq, Repr

def StockBalanceSnapshot.row (b : StockBalanceSnapshot) : StockBalance :=
  ⟨b.id, b.stock, b.quantity.toInt⟩

def pullBalance (b : StockBalanceSnapshot) : Prog String (Conn Db) Nat := do
  execute (·.setBalance b.row)
  pure 1

/-- Run `f` on every row, and add up the counts. -/
def pullAll {ρ : Type} (f : ρ → Prog String (Conn Db) Nat) : List ρ → Prog String (Conn Db) Nat
  | [] => pure 0
  | r :: rs => do
    let n ← f r
    let m ← pullAll f rs
    pure (n + m)

structure PullSummary where
  products : Nat
  stores : Nat
  stockBalances : Nat
  deriving DecidableEq, Repr

def applySyncPull (products : List Product) (stores : List Store)
    (stockBalances : List StockBalanceSnapshot) : Prog String Db PullSummary :=
  context "Failed to apply sync pull (rolled back)" (session do
    let p ← pullAll pullProduct products
    let s ← pullAll pullStore stores
    let b ← pullAll pullBalance stockBalances
    pure ⟨p, s, b⟩)

/-! ## Restoring transactions -/

/-- A transaction as `/sync/restore` sends it. -/
structure RestoredTransaction where
  transactionId : String
  storeId : String
  productId : String
  movementType : String
  quantityDelta : Int
  occurredAt : Option Instant
  userId : Option String
  deviceId : Option String
  stockBucket : Option String

def RestoredTransaction.row (t : RestoredTransaction) (now : Instant) (user device : String)
    (status : Status) : InventoryTransaction where
  transactionId := t.transactionId
  storeId := t.storeId
  productId := t.productId
  movementType := t.movementType
  stockBucket := t.stockBucket.getD "AVAILABLE"
  quantityDelta := t.quantityDelta
  occurredAt := t.occurredAt.getD now
  recordedAt := now
  userId := t.userId.getD user
  deviceId := t.deviceId.getD device
  referenceNumber := none
  reasonCode := none
  transferId := none
  syncStatus := status
  serverAcceptedAt := none

/-- `apply_restore_transactions`: the rows are PENDING, and errors are ignored. -/
def applyRestoreTransactions (now : Instant) : List RestoredTransaction → Prog String Db Unit
  | [] => pure ()
  | t :: ts => do
    let _ ← attempt (autocommit (·.replaceTransaction (t.row now "unknown" "unknown" .pending)))
    applyRestoreTransactions now ts

/-- The transactions that `do_restore` writes: existing rows stay, new ones are SYNCED. -/
def restoreTransactions (now : Instant) : List RestoredTransaction → Prog String Db Unit
  | [] => pure ()
  | t :: ts => do
    let _ ← attempt (autocommit
      (·.insertTransactionOrIgnore (t.row now "1" "unknown" .synced)))
    restoreTransactions now ts

end Desktop
