import InvenTory.Desktop.Restore
import InvenTory.Server.Auth

/-!
# A restore from the server

The endpoints that `do_restore` asks: the login of `admin.py` and the three requests for data of
`sync.py`, of which only the first pages its lists, and what the desktop reads of their answers.
-/

namespace Server

open Relational

/-- The database with its users, as the restore reads it. -/
structure RestoreSource where
  db : Db
  users : Table User

/-- `.limit(limit).offset(offset)` -/
def pageOf {α : Type} (limit offset : Nat) (rows : List α) : List α := (rows.drop offset).take limit

structure CriticalRestoreResponse where
  stores : List Store
  users : List User
  products : List Product
  stockBalances : List StockBalance
  recentTransactions : List InventoryTransaction

namespace RestoreSource

variable (s : RestoreSource)

def activeStores : List Store := s.db.stores.rows.filter (·.isActive)

def activeUsers : List User := s.users.rows.filter (·.isActive)

/-- The ledger from a time on. -/
def ledgerSince (t : Int) : List InventoryTransaction :=
  s.db.ledger.rows.filter fun r => t ≤ r.occurredAt.instant

/-- `GET /sync/restore/critical` -/
def restoreCritical (limit offset : Nat) (now : DateTime) : CriticalRestoreResponse where
  stores := pageOf limit offset s.activeStores
  users := pageOf limit offset s.activeUsers
  products := pageOf limit offset s.db.products.rows
  stockBalances := pageOf limit offset s.db.balances.rows
  recentTransactions := pageOf limit offset (s.ledgerSince (now.instant - DateTime.day))

/-- `GET /sync/restore/important`: the ledger of seven days. -/
def restoreImportant (now : DateTime) : List InventoryTransaction :=
  s.ledgerSince (now.instant - 7 * DateTime.day)

/-- `GET /sync/restore/background`: the ledger before. -/
def restoreBackground (now : DateTime) : List InventoryTransaction :=
  s.db.ledger.rows.filter fun r => r.occurredAt.instant < now.instant - 7 * DateTime.day

end RestoreSource

end Server

namespace Sync

open Desktop (Replies RestoreCall CriticalRestoreData RestoredTransaction SrvUser)
open Server (CriticalRestoreResponse RestoreSource DateTime)

/-! ## What the desktop reads -/

def restoredStore (r : Server.Store) : Desktop.Store := ⟨r.id, r.code, r.name, r.isActive⟩

def restoredProduct (r : Server.Product) : Desktop.Product := ⟨r.id, r.sku, r.name, r.isActive⟩

def restoredBalance (r : Server.StockBalance) : Desktop.StockBalance := ⟨r.id, r.stock, r.quantity⟩

/-- `str(u.id)` -/
def restoredUser (u : Server.User) : SrvUser :=
  ⟨toString u.id, u.username, some u.email, u.fullName, u.role, u.isActive⟩

def restoredTransaction (r : Server.InventoryTransaction) : RestoredTransaction where
  transactionId := r.transactionId
  storeId := r.storeId
  productId := r.productId
  movementType := r.movementType
  quantityDelta := r.quantityDelta
  occurredAt := some (r.occurredAt.instant / 1000000)
  userId := some (toString r.userId)
  deviceId := some (Py.orElse r.deviceId "unknown")
  stockBucket := some r.stockBucket

def criticalData (r : CriticalRestoreResponse) : CriticalRestoreData where
  stores := r.stores.map restoredStore
  users := r.users.map restoredUser
  products := r.products.map restoredProduct
  stockBalances := r.stockBalances.map restoredBalance
  recentTransactions := r.recentTransactions.map restoredTransaction

/-- A restore, the time of the answer to its first request for data, and those of the other two if
they are answered. -/
structure RestoreSession where
  call : RestoreCall
  verifyPassword : String → String → Bool
  critical : DateTime
  important : Option DateTime
  background : Option DateTime

namespace RestoreSession

variable (x : RestoreSession) (s : RestoreSource)

/-- The user who has logged in. -/
def loggedIn : Except String Server.User :=
  Server.restoreUser s.users x.verifyPassword x.call.username x.call.password

/-- The answers; a request for data names no page. -/
def replies : Replies where
  start := (x.loggedIn s).map fun _ => ()
  critical := .ok (criticalData (s.restoreCritical 100 0 x.critical))
  important := x.important.map fun t => (s.restoreImportant t).map restoredTransaction
  background := x.background.map fun t => (s.restoreBackground t).map restoredTransaction

/-- The desktop after the restore. -/
def restored (db : Desktop.RestoreDb) : Desktop.RestoreDb := x.call.doRestore (x.replies s) db

end RestoreSession

end Sync
