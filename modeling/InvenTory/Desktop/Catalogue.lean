import InvenTory.Desktop.Pull
import InvenTory.Lib.Runs
import InvenTory.Lib.Upserts

/-!
# The catalogue with all its columns

The tables `products`, `stores` and `stock_balances` of the desktop as a pull writes them, both ways:
`applySyncPull` takes a whole response in one transaction, and the commands `upsert_.._from_server` take
a row each (`perRow`). They are twins with rules of their own for placeholders and for stores whose code
is taken. `Pull.lean` has the first of them on the columns that the other commands read.

A time is an instant in microseconds.
-/

namespace Desktop.Catalogue

open Relational
open Server (StockKey)

abbrev Stamp := Int

structure Product where
  id : String
  sku : String
  name : String
  brand : Option String
  model : Option String
  category : String
  unit : String
  barcode : Option String
  alternateNames : Option String
  serialTrackingEnabled : Bool
  isActive : Bool
  lowStockThreshold : Option Int32
  createdAt : Stamp
  updatedAt : Stamp
  deriving DecidableEq, Repr

structure Store where
  id : String
  code : String
  name : String
  address : Option String
  isActive : Bool
  createdAt : Stamp
  updatedAt : Stamp
  deriving DecidableEq, Repr

/-- A row of `stock_balances`, and the `StockBalanceSnapshot` of a response. -/
structure StockBalance where
  id : String
  stock : StockKey
  quantity : Int
  updatedAt : Stamp
  deriving DecidableEq, Repr

instance : Keyed Product String := ⟨Product.id⟩
instance : Keyed Store String := ⟨Store.id⟩
instance : Keyed StockBalance StockKey := ⟨StockBalance.stock⟩

structure Tables where
  products : Table Product
  stores : Table Store
  balances : Table StockBalance

def Tables.empty : Tables := ⟨∅, ∅, ∅⟩

/-! ## Statements -/

namespace Tables

variable (t : Tables)

def skuTaken (_ : Product) : String := Db.uniqueFailed "products.sku"

def codeTaken (_ : Store) : String := Db.uniqueFailed "stores.code"

/-- `ON CONFLICT(id) DO UPDATE SET` of all columns but `created_at`. -/
def productRow (p : Product) : Product :=
  match t.products.get? p.id with
  | some old => { p with createdAt := old.createdAt }
  | none => p

def upsertProduct (p : Product) : Except String Tables :=
  (t.products.upsert Product.sku skuTaken (t.productRow p)).map fun ps => { t with products := ps }

/-- `UPDATE products SET is_active, updated_at` of the row of `p`. -/
def setProductStatus (p : Product) : Tables :=
  match t.products.get? p.id with
  | some old =>
    let row := { old with isActive := p.isActive, updatedAt := p.updatedAt }
    { t with products := t.products.put row }
  | none => t

def storeRow (s : Store) : Store :=
  match t.stores.get? s.id with
  | some old => { s with createdAt := old.createdAt }
  | none => s

def upsertStore (s : Store) : Except String Tables :=
  (t.stores.upsert Store.code codeTaken (t.storeRow s)).map fun ss => { t with stores := ss }

def setStoreStatus (s : Store) : Tables :=
  match t.stores.get? s.id with
  | some old =>
    let row := { old with isActive := s.isActive, updatedAt := s.updatedAt }
    { t with stores := t.stores.put row }
  | none => t

/-- `UPDATE stores SET name, address, is_active, updated_at` of the row `old`. -/
def healedRow (old s : Store) : Store :=
  { old with name := s.name, address := s.address, isActive := s.isActive, updatedAt := s.updatedAt }

def healStore (old s : Store) : Tables := { t with stores := t.stores.put (healedRow old s) }

/-- `INSERT .. ON CONFLICT(store_id, product_id, stock_bucket) DO UPDATE SET quantity, updated_at` -/
def setBalance (b : StockBalance) : Except String Tables :=
  match t.balances.get? b.stock with
  | some old =>
    let row := { old with quantity := b.quantity, updatedAt := b.updatedAt }
    .ok { t with balances := t.balances.put row }
  | none =>
    if t.balances.rows.any (·.id = b.id) then .error (Db.uniqueFailed "stock_balances.id")
    else if (t.stores.get? b.stock.storeId).isNone ∨ (t.products.get? b.stock.productId).isNone then
      .error Db.foreignKeyFailed
    else .ok { t with balances := t.balances.put b }

end Tables

/-! ## A pull in one transaction -/

structure Response where
  products : List Product
  stores : List Store
  stockBalances : List StockBalance

/-- Here the incoming SKU is tested with the local name. -/
def pullProduct (t : Tables) (p : Product) : Except String (Nat × Tables) :=
  let upsert := (t.upsertProduct p).map fun t => (1, t)
  if isPlaceholderProduct p.sku p.name then
    match t.products.get? p.id with
    | some local_ =>
      if isPlaceholderProduct p.sku local_.name then upsert else .ok (0, t.setProductStatus p)
    | none => upsert
  else upsert

def pullStore (t : Tables) (s : Store) : Except String (Nat × Tables) :=
  let upsert := (t.upsertStore s).map fun t => (1, t)
  if isPlaceholderStore s.name then
    match t.stores.get? s.id with
    | some local_ => if isPlaceholderStore local_.name then upsert else .ok (0, t.setStoreStatus s)
    | none => upsert
  else upsert

def pullBalance (t : Tables) (b : StockBalance) : Except String (Nat × Tables) :=
  (t.setBalance b).map fun t => (1, t)

/-- Run `f` on every row, and add up the counts. -/
def pullAll {ρ : Type} (f : Tables → ρ → Except String (Nat × Tables)) :
    Tables → List ρ → Except String (Nat × Tables)
  | t, [] => .ok (0, t)
  | t, r :: rs => do
    let (n, t) ← f t r
    let (m, t) ← pullAll f t rs
    return (n + m, t)

/-- The loops over the three sections. -/
def pullSections (r : Response) (t : Tables) : Except String (PullSummary × Tables) := do
  let (p, t) ← pullAll pullProduct t r.products
  let (s, t) ← pullAll pullStore t r.stores
  let (b, t) ← pullAll pullBalance t r.stockBalances
  return (⟨p, s, b⟩, t)

/-- An error rolls the transaction back. -/
def applySyncPull (r : Response) (t : Tables) : Except String PullSummary × Tables :=
  match pullSections r t with
  | .ok (summary, t') => (.ok summary, t')
  | .error e => (.error ("Failed to apply sync pull (rolled back): " ++ e), t)

/-! ## A pull row by row -/

/-- Here the local SKU is tested with the local name. -/
def upsertProductFromServer (t : Tables) (p : Product) : Except String (Product × Tables) :=
  let localIsPlaceholder := match t.products.get? p.id with
    | some local_ => isPlaceholderProduct local_.sku local_.name
    | none => true
  if isPlaceholderProduct p.sku p.name && !localIsPlaceholder then .ok (p, t.setProductStatus p)
  else ((t.upsertProduct p).mapError ("Failed to upsert product: " ++ ·)).map fun t => (p, t)

/-- A store with a real name whose code another local store has is written to that store. -/
def upsertStoreFromServer (t : Tables) (s : Store) : Except String (Store × Tables) :=
  let upsert := ((t.upsertStore s).mapError ("Failed to upsert store: " ++ ·)).map fun t => (s, t)
  if isPlaceholderStore s.name then
    let localIsPlaceholder := match t.stores.get? s.id with
      | some local_ => isPlaceholderStore local_.name
      | none => true
    if !localIsPlaceholder then .ok (s, t.setStoreStatus s) else upsert
  else
    match t.stores.rows.find? fun q => q.code = s.code ∧ q.id ≠ s.id with
    | some old => .ok (Tables.healedRow old s, t.healStore old s)
    | none => upsert

def upsertStockBalanceFromServer (t : Tables) (b : StockBalance) : Except String Tables :=
  (t.setBalance b).mapError ("Failed to upsert stock balance: " ++ ·)

/-- The commands on the rows of a response, in their order; each is its own transaction. -/
def perRow (r : Response) (t : Tables) : Except String Tables := do
  let t ← r.products.foldlM (fun t p => (upsertProductFromServer t p).map Prod.snd) t
  let t ← r.stores.foldlM (fun t s => (upsertStoreFromServer t s).map Prod.snd) t
  r.stockBalances.foldlM upsertStockBalanceFromServer t

end Desktop.Catalogue
