import InvenTory.Desktop.Schema

/-!
# The cache of stock balances

`tauriTransactionService.ts` keeps the quantities it read in `_stockBalanceCache` for 30 seconds, and
the services that change the stock drop it. The machine below has the calls that are on their way: a read
that the cache does not answer asks the database, and fills the cache when the answer is back; a mutation
changes the database, and its continuation runs when its command has returned. All of these come in any
order.
-/

namespace Desktop

open Relational
open Server (StockKey)

/-! ## The cache -/

/-- An entry of `_stockBalanceCache`; `Date.now()` is in milliseconds. -/
structure CachedBalance where
  key : String
  quantity : Int32
  cachedAt : Nat
  deriving DecidableEq, Repr

instance : Keyed CachedBalance String := ⟨CachedBalance.key⟩

abbrev StockBalanceCache := Table CachedBalance

def stockBalanceTtlMs : Nat := 30000

/-- `_balanceCacheKey` -/
def balanceCacheKey (k : StockKey) : String := k.storeId ++ ":" ++ k.productId ++ ":" ++ k.stockBucket

namespace StockBalanceCache

/-- `_readBalanceCache`: the quantity of an entry that has not expired, and the cache without one that
has. -/
def readBalanceCache (cache : StockBalanceCache) (now : Nat) (key : String) :
    Option Int32 × StockBalanceCache :=
  match cache.get? key with
  | none => (none, cache)
  | some hit =>
    if stockBalanceTtlMs < now - hit.cachedAt then (none, cache.erase key)
    else (some hit.quantity, cache)

/-- `_writeBalanceCache` -/
def writeBalanceCache (cache : StockBalanceCache) (now : Nat) (key : String) (quantity : Int32) :
    StockBalanceCache := cache.put ⟨key, quantity, now⟩

/-- The loop over what a read brings. -/
def writeBalances (cache : StockBalanceCache) (now : Nat) (rows : List (StockKey × Int32)) :
    StockBalanceCache :=
  rows.foldl (fun cache row => writeBalanceCache cache now (balanceCacheKey row.1) row.2) cache

end StockBalanceCache

/-! ## The commands that read -/

namespace Db

variable (db : Db)

def getStockBalance (storeId productId : String) : Int32 :=
  db.readBalance ⟨storeId, productId, "AVAILABLE"⟩

def getStockBalanceForBucket (storeId productId stockBucket : String) : Int32 :=
  db.readBalance ⟨storeId, productId, stockBucket⟩

/-- A quantity that is not an `i32` fails the command. -/
def getStockBalancesForStore (storeId : String) : Option (List (String × Int32)) :=
  (db.balances.rows.filter fun b =>
    b.stock.storeId = storeId ∧ b.stock.stockBucket = "AVAILABLE").mapM fun b =>
      (readI32 b.quantity).map fun quantity => (b.stock.productId, quantity)

end Db

/-! ## The services -/

/-- The services that change the stock, and the sync that applies a pull. -/
inductive Service
  | receiveStock
  | sellStock
  | returnStock
  | moveStockBucket
  | adjustStock
  | updateTransaction
  | deleteTransaction
  | dispatchTransfer
  | receiveTransfer
  | cancelTransfer
  | applySyncPull
  deriving DecidableEq, Repr

/-- The continuation of the service calls `invalidateStockBalanceCache`. -/
def Service.invalidates : Service → Bool
  | .dispatchTransfer | .receiveTransfer | .cancelTransfer => false
  | _ => true

inductive ReadRequest
  | getStockBalance (storeId productId : String)
  | getStockBalanceForBucket (storeId productId stockBucket : String)
  | getStockBalancesForStore (storeId : String)
  deriving DecidableEq, Repr

/-- What the database answers. The store's balances are an empty map if the command fails. -/
def ReadRequest.select (db : Db) : ReadRequest → List (StockKey × Int32)
  | .getStockBalance storeId productId =>
    [(⟨storeId, productId, "AVAILABLE"⟩, db.getStockBalance storeId productId)]
  | .getStockBalanceForBucket storeId productId stockBucket =>
    [(⟨storeId, productId, stockBucket⟩,
      db.getStockBalanceForBucket storeId productId stockBucket)]
  | .getStockBalancesForStore storeId =>
    ((db.getStockBalancesForStore storeId).getD []).map fun (productId, quantity) =>
      (⟨storeId, productId, "AVAILABLE"⟩, quantity)

/-- The balance that a read looks up in the cache first. -/
def ReadRequest.cachedKey : ReadRequest → Option StockKey
  | .getStockBalance storeId productId => some ⟨storeId, productId, "AVAILABLE"⟩
  | .getStockBalanceForBucket storeId productId stockBucket => some ⟨storeId, productId, stockBucket⟩
  | .getStockBalancesForStore _ => none

/-- A read on its way, with the version of the stock that it may not go behind. -/
structure Reading where
  request : ReadRequest
  since : Nat
  answer : Option (List (StockKey × Int32))

/-- A mutation on its way, with the version that its last statement left. -/
structure Mutating where
  service : Service
  written : Nat

/-- A quantity that a read has returned. -/
structure Returned where
  stock : StockKey
  since : Nat
  quantity : Int32
  deriving DecidableEq, Repr

/-- The services over the database. `earlier` has its states before the present one, and `resolved` is the
newest of them that a mutation left whose promise has resolved. -/
structure BalanceServices where
  db : Db
  earlier : List Db
  resolved : Nat
  now : Nat
  cache : StockBalanceCache
  reads : Nat → Option Reading
  mutations : Nat → Option Mutating
  returned : List Returned

namespace BalanceServices

def opened (db : Db) : BalanceServices := ⟨db, [], 0, 0, ∅, fun _ => none, fun _ => none, []⟩

/-- `answer` and `write` happen in the database, `finish` and `resolve` are the continuations of a call
that went through; a call that fails changes nothing more. -/
inductive Event
  | start (call : Nat) (request : ReadRequest)
  | answer (call : Nat)
  | finish (call : Nat)
  | failRead (call : Nat)
  | issue (call : Nat) (service : Service)
  | write (call : Nat) (db : Db)
  | resolve (call : Nat)
  | reject (call : Nat)
  | pass (ms : Nat)

variable (s : BalanceServices)

def versions : List Db := s.earlier ++ [s.db]

/-- What the cache answers. -/
def cached (k : StockKey) : Option Int32 :=
  (s.cache.readBalanceCache s.now (balanceCacheKey k)).1

def ask (call : Nat) (request : ReadRequest) : BalanceServices :=
  { s with reads := Function.update s.reads call (some ⟨request, s.resolved, none⟩) }

def start (call : Nat) (request : ReadRequest) : BalanceServices :=
  match request.cachedKey with
  | none => s.ask call request
  | some k =>
    match s.cache.readBalanceCache s.now (balanceCacheKey k) with
    | (some quantity, cache) =>
      { s with cache, returned := ⟨k, s.resolved, quantity⟩ :: s.returned }
    | (none, cache) => ({ s with cache }).ask call request

def answer (call : Nat) : BalanceServices :=
  match s.reads call with
  | some ⟨request, since, none⟩ =>
    { s with
      reads := Function.update s.reads call (some ⟨request, since, some (request.select s.db)⟩) }
  | _ => s

/-- The continuation puts what it read in the cache and returns it. -/
def finish (call : Nat) : BalanceServices :=
  match s.reads call with
  | some ⟨_, since, some rows⟩ =>
    { s with
      cache := s.cache.writeBalances s.now rows
      reads := Function.update s.reads call none
      returned := (rows.map fun row => ⟨row.1, since, row.2⟩) ++ s.returned }
  | _ => s

/-- A statement of the mutation leaves the database as `db`. -/
def write (call : Nat) (db : Db) : BalanceServices :=
  match s.mutations call with
  | some m =>
    { s with
      db
      earlier := s.versions
      mutations := Function.update s.mutations call (some { m with written := s.versions.length }) }
  | none => s

def resolve (call : Nat) : BalanceServices :=
  match s.mutations call with
  | some m =>
    { s with
      cache := if m.service.invalidates then ∅ else s.cache
      resolved := max s.resolved m.written
      mutations := Function.update s.mutations call none }
  | none => s

def step (s : BalanceServices) : Event → BalanceServices
  | .start call request => s.start call request
  | .answer call => s.answer call
  | .finish call => s.finish call
  | .failRead call => { s with reads := Function.update s.reads call none }
  | .issue call service => { s with mutations := Function.update s.mutations call (some ⟨service, 0⟩) }
  | .write call db => s.write call db
  | .resolve call => s.resolve call
  | .reject call => { s with mutations := Function.update s.mutations call none }
  | .pass ms => { s with now := s.now + ms }

/-! ## Coherence -/

/-- The stock had this quantity in version `i` or a later one. -/
def Since (i : Nat) (k : StockKey) (quantity : Int32) : Prop :=
  ∃ db ∈ s.versions.drop i, db.readBalance k = quantity

/-- **No read has returned a quantity older** than a mutation that had resolved when it started. -/
def Coherent : Prop := ∀ r ∈ s.returned, s.Since r.since r.stock r.quantity

/-- No step puts an older quantity in the cache, and no transfer resolves over one. -/
def Careful (s : BalanceServices) : Event → Prop
  | .finish call => ∀ request since rows, s.reads call = some ⟨request, since, some rows⟩ →
    ∀ row ∈ rows, ∀ k, balanceCacheKey k = balanceCacheKey row.1 → s.Since s.resolved k row.2
  | .resolve call => ∀ m, s.mutations call = some m → m.service.invalidates = false →
    ∀ k quantity, s.cached k = some quantity → s.Since m.written k quantity
  | _ => True

end BalanceServices

end Desktop
