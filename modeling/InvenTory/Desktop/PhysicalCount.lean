import InvenTory.Desktop.BalanceCache
import InvenTory.Desktop.Pull
import InvenTory.Desktop.Proof.Records
import InvenTory.Sync.Push

/-!
# The physical count

`handleCountCommit` of `PhysicalCountAdjustmentView.tsx` books what was counted as an adjustment by the
difference to what the stock service says is in stock. Here the services are called one after another:
`Operation` has the calls that come before the count.
-/

namespace Desktop

open Relational Sql Sql.Prog
open Server (StockKey)

/-! ## Services one after another -/

/-- The database, the cache of the balances and `Date.now()`. -/
structure App where
  db : Db
  cache : StockBalanceCache
  now : Nat

/-- What comes of the command that reads a balance: its SELECT can fail, which reads 0, and so can the
connection. -/
inductive Invoked
  | answered
  | selectFailed
  | rejected (error : String)

/-- The continuation of the command's service drops the cache. -/
def Command.invalidates : Command → Bool
  | .receiveStock _ => Service.receiveStock.invalidates
  | .sellStock _ => Service.sellStock.invalidates
  | .returnStock _ => Service.returnStock.invalidates
  | .moveStockBucket _ => Service.moveStockBucket.invalidates
  | .adjustStock _ => Service.adjustStock.invalidates
  | .createTransfer _ => false
  | .dispatchTransfer .. => Service.dispatchTransfer.invalidates
  | .receiveTransfer .. => Service.receiveTransfer.invalidates
  | .cancelTransfer .. => Service.cancelTransfer.invalidates
  | .updateTransaction _ => Service.updateTransaction.invalidates
  | .deleteTransaction _ => Service.deleteTransaction.invalidates

namespace App

variable (a : App)

def opened (db : Db) : App := ⟨db, ∅, 0⟩

def cached (k : StockKey) : Option Int32 := (a.cache.readBalanceCache a.now (balanceCacheKey k)).1

/-- `getStockBalance` and `getStockBalanceForBucket` -/
def getBalance (invoked : Invoked) (k : StockKey) : Except String Int32 × App :=
  match a.cache.readBalanceCache a.now (balanceCacheKey k) with
  | (some quantity, cache) => (.ok quantity, { a with cache })
  | (none, cache) =>
    match invoked with
    | .answered =>
      let quantity := a.db.getStockBalanceForBucket k.storeId k.productId k.stockBucket
      (.ok quantity,
        { a with cache := cache.writeBalanceCache a.now (balanceCacheKey k) quantity })
    | .selectFailed =>
      (.ok 0, { a with cache := cache.writeBalanceCache a.now (balanceCacheKey k) 0 })
    | .rejected error => (.error ("Failed to get stock balance: " ++ error), { a with cache })

/-- `getStockBalancesForStore`, whose command has no fallback: without an answer the map is empty. -/
def getBalancesForStore (invoked : Invoked) (storeId : String) : App :=
  match invoked with
  | .answered =>
    let rows := (ReadRequest.getStockBalancesForStore storeId).select a.db
    { a with cache := a.cache.writeBalances a.now rows }
  | _ => a

/-- A call that changes the database and drops the cache, if it goes through. -/
def mutate {α : Type} (invalidates : Bool) (faults : List (Option String)) (p : Prog String Db α) : App :=
  match p.run faults a.db with
  | ⟨.ok _, db, _⟩ => { a with db, cache := if invalidates then ∅ else a.cache }
  | ⟨.error _, db, _⟩ => { a with db }

inductive Operation
  | getBalance (invoked : Invoked) (k : StockKey)
  | getBalancesForStore (invoked : Invoked) (storeId : String)
  | command (clk : Clock) (cmd : Command) (faults : List (Option String))
  | markTransferException (clk : Clock) (transferId : String) (notes : Option String)
    (faults : List (Option String))
  | syncPull (products : List Product) (stores : List Store)
    (stockBalances : List StockBalanceSnapshot) (faults : List (Option String))
  | pass (ms : Nat)

def perform (rs : Rust) (a : App) : Operation → App
  | .getBalance invoked k => (a.getBalance invoked k).2
  | .getBalancesForStore invoked storeId => a.getBalancesForStore invoked storeId
  | .command clk cmd faults => a.mutate cmd.invalidates faults (cmd.run rs clk)
  | .markTransferException clk transferId notes faults =>
    a.mutate false faults (Desktop.markTransferException clk transferId notes)
  | .syncPull products stores stockBalances faults =>
    a.mutate Service.applySyncPull.invalidates faults (applySyncPull products stores stockBalances)
  | .pass ms => { a with now := a.now + ms }

/-- After a history of calls, none of which is still on its way. -/
def after (rs : Rust) (db : Db) (ops : List Operation) : App := ops.foldl (perform rs) (opened db)

end App

/-! ## The view -/

/-- The values of a row of the grid, as `String(..)` and `Number(..)` read them. -/
structure CountRow where
  id : String
  product : String
  productId : String
  countedQty : Int

structure CountEntry where
  id : String
  productId : String
  productName : String
  sku : String
  systemQty : Int
  countedQty : Int
  variance : Int
  deriving DecidableEq, Repr

structure CountView where
  activeStoreId : String
  sessionUserId : String
  sessionDeviceId : String
  productMap : String → Option Product
  nameToId : String → Option String
  storeQtyCache : String → Option Int
  countEntries : List CountEntry
  error : Option String

/-- What the commands meet: the clock, what comes of the two calls, and the text for a quantity that is
not an `i32`. -/
structure CountCalls where
  rs : Rust
  clk : Clock
  invoked : Invoked
  faults : List (Option String)
  invalidArgs : String

/-- What a commit leaves; it has gone through if there is no error. -/
structure Counted where
  view : CountView
  app : App

/-- The quantity is an `i32`. -/
def Db.Fits (db : Db) (k : StockKey) : Prop := -2 ^ 31 ≤ db.quantity k ∧ db.quantity k < 2 ^ 31

/-- **A count of `n` sets the stock**: it is `n`, and what was recorded is the difference. -/
def App.SetsStock (a a' : App) (k : StockKey) (n : Int) : Prop :=
  a'.db.quantity k = n ∧
    ∀ t ∈ a'.db.transactions.rows, t ∉ a.db.transactions.rows →
      t.quantityDelta = n - a.db.quantity k

namespace CountView

variable (v : CountView)

def product (row : CountRow) : Option Product :=
  v.productMap (Sync.orDefault row.productId
    ((v.nameToId (Sync.jsTrim row.product)).getD ""))

/-- `adjustStock(input)`, whose quantity has to be an `i32`. -/
def adjust (c : CountCalls) (a : App) (productId : String) (systemQty countedQty : Int) :
    Except String InventoryTransaction × App :=
  match Db.readI32 (countedQty - systemQty) with
  | none => (.error c.invalidArgs, a)
  | some quantityDelta =>
    let input : AdjustStockInput := {
      storeId := v.activeStoreId
      productId
      quantityDelta
      reason := "Physical count: system " ++ toString systemQty ++ ", counted " ++ toString countedQty
      userId := Sync.orDefault v.sessionUserId "USER-LOCAL"
      deviceId := Sync.orDefault v.sessionDeviceId "SINGLE-USER-DEVICE"
      countReference := some ("COUNT-" ++ v.activeStoreId ++ "-" ++ toString a.now) }
    match (adjustStock c.rs c.clk input).run c.faults a.db with
    | ⟨.ok res, db, _⟩ => (.ok res, { a with db, cache := ∅ })
    | ⟨.error e, db, _⟩ => (.error e, { a with db })

/-- The count is in the sheet, with or without an adjustment. -/
def logCount (row : CountRow) (product : Product) (systemQty : Int) : CountView :=
  { v with
    countEntries := v.countEntries ++ [⟨row.id, product.id, product.name, product.sku, systemQty,
      row.countedQty, row.countedQty - systemQty⟩] }

def handleCountCommit (c : CountCalls) (a : App) (row : CountRow) : Counted :=
  let v := { v with error := none }
  if v.activeStoreId = "" then
    ⟨{ v with error := some "Please select a store from the header." }, a⟩
  else
    let productName := Sync.jsTrim row.product
    if productName = "" then ⟨{ v with error := some "Please select a product." }, a⟩
    else
      match v.product row with
      | none =>
        ⟨{ v with error := some ("Product \"" ++ productName ++
          "\" not found — search and select from the list.") }, a⟩
      | some product =>
        -- The quantity of the view stands in when the service throws.
        let fallback := (v.storeQtyCache product.id).getD 0
        let (balance, a) := a.getBalance c.invoked (available v.activeStoreId product.id)
        let systemQty := (balance.toOption.map Int32.toInt).getD fallback
        if row.countedQty - systemQty = 0 then ⟨v.logCount row product systemQty, a⟩
        else
          match v.adjust c a product.id systemQty row.countedQty with
          | (.error e, a) => ⟨{ v with error := some e }, a⟩
          | (.ok _, a) =>
            let storeQtyCache := fun id =>
              if id = product.id then some row.countedQty else v.storeQtyCache id
            ⟨{ v.logCount row product systemQty with storeQtyCache }, a⟩

/-- The count reads what is in stock: in an unexpired cache entry of the product if there is one, else in
the database, which may fail. -/
def ReadsStock (invoked : Invoked) (a : App) (productId : String) : Prop :=
  let stored := a.db.quantity (available v.activeStoreId productId)
  match a.cached (available v.activeStoreId productId) with
  | some quantity => quantity.toInt = stored
  | none =>
    match invoked with
    | .answered => (a.db.readBalance (available v.activeStoreId productId)).toInt = stored
    | .selectFailed => 0 = stored
    | .rejected _ => (v.storeQtyCache productId).getD 0 = stored

end CountView

/-- A read puts a quantity in the cache that its whole cache key has; a mutation changes no balance that is
in the cache when it is through. -/
def App.Careful (rs : Rust) (a : App) : App.Operation → Prop
  | .getBalance .answered k => a.cached k = none →
    ∀ k', balanceCacheKey k' = balanceCacheKey k → a.db.readBalance k' = a.db.readBalance k
  | .getBalance .selectFailed k => a.cached k = none →
    ∀ k', balanceCacheKey k' = balanceCacheKey k → a.db.readBalance k' = 0
  | .getBalance (.rejected _) _ => True
  | .getBalancesForStore .answered storeId =>
    ∀ row ∈ (ReadRequest.getStockBalancesForStore storeId).select a.db,
      ∀ k', balanceCacheKey k' = balanceCacheKey row.1 → a.db.readBalance k' = row.2
  | .getBalancesForStore _ _ | .pass _ => True
  | op => ∀ k quantity, (a.perform rs op).cached k = some quantity →
    (a.perform rs op).db.readBalance k = a.db.readBalance k

end Desktop
