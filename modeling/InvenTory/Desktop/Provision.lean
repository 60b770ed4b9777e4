import InvenTory.Desktop.Products
import InvenTory.Lib.Writes

/-!
# Stores and products with their balances

`create_store` and `create_products_batch`, which write zero balances along with the rows they create,
and `create_product`, which does not. They work on the whole local database (`LocalDb`): the tables of
the stock commands, where a store or a product has only the columns that those read, and the
`PRODUCT_UPDATE` events.
-/

namespace Desktop

open Relational Sql Sql.Prog
open Server (StockKey)
open Catalogue (CatalogueRust ProductPayload ProductsDb NewProductInput sqlUpper byteSum defaultSku
  nameRequired categoryRequired stamp enqueueProductUpsert)

/-! ## Statements -/

namespace Db

variable (db : Db)

def insertStore (s : Store) : Except String Db :=
  if (db.stores.get? s.id).isSome then .error (uniqueFailed "stores.id")
  else if db.stores.rows.any (·.code = s.code) then .error (uniqueFailed "stores.code")
  else .ok { db with stores := db.stores.put s }

def insertProduct (p : Product) : Except String Db :=
  if (db.products.get? p.id).isSome then .error (uniqueFailed "products.id")
  else if db.products.rows.any (·.sku = p.sku) then .error (uniqueFailed "products.sku")
  else .ok { db with products := db.products.put p }

/-- `INSERT INTO stock_balances` -/
def insertBalance (b : StockBalance) : Except String Db :=
  if db.balances.rows.any (·.id = b.id) then .error (uniqueFailed "stock_balances.id")
  else if (db.balances.get? b.stock).isSome then
    .error (uniqueFailed
      "stock_balances.store_id, stock_balances.product_id, stock_balances.stock_bucket")
  else if (db.stores.get? b.stock.storeId).isNone ∨ (db.products.get? b.stock.productId).isNone then
    .error foreignKeyFailed
  else .ok { db with balances := db.balances.put b }

/-- `INSERT INTO stock_balances .. ON CONFLICT(store_id, product_id, stock_bucket) DO NOTHING` -/
def insertBalanceOrNothing (b : StockBalance) : Except String Db :=
  if (db.balances.get? b.stock).isSome then .ok db else db.insertBalance b

end Db

/-! ## Stores -/

structure NewStoreInput where
  code : String
  name : String
  address : Option String

/-- A balance of nothing for each of the products. -/
def createBalances (storeId : String) : List String → Prog String Db Unit
  | [] => pure ()
  | productId :: productIds => do
    context ("Failed to create stock balance for product " ++ productId) (autocommit (·.insertBalance
      ⟨"SB-" ++ storeId ++ "-" ++ productId, available storeId productId, 0⟩))
    createBalances storeId productIds

def createStore (rs : Rust) (input : NewStoreInput) : Prog String Db Store := do
  let code := rs.toUppercase (trim input.code)
  let name := trim input.name
  require (code ≠ "") "Store code cannot be empty."
  require (name ≠ "") "Store name cannot be empty."
  let taken ← context "Failed to verify store code uniqueness"
    (query fun db => db.stores.rows.any fun s => sqlUpper s.code = code)
  require (taken = false) ("Store code '" ++ code ++ "' already exists.")
  let store : Store := ⟨"STORE-" ++ code, code, name, true⟩
  context "Failed to insert store into database" (autocommit (·.insertStore store))
  let productIds ← context "Failed to map product IDs"
    (query fun db => (db.products.rows.filter Product.isActive).map Product.id)
  createBalances store.id productIds
  pure store

/-! ## Products -/

structure LocalDb where
  stock : Db
  productEvents : Queue ProductPayload

namespace LocalDb

def empty : LocalDb := ⟨.empty, ∅⟩

variable {α : Type}

def onStock (p : Prog String Db α) : Prog String LocalDb α :=
  zoom LocalDb.stock (fun stock db => { db with stock := stock }) p

/-- A program that works on the queue alone. -/
def onEvents (p : Prog String ProductsDb α) : Prog String LocalDb α :=
  zoom (fun db => ⟨∅, db.productEvents⟩) (fun q db => { db with productEvents := q.outbox }) p

end LocalDb

open LocalDb (onStock onEvents)

/-- The columns of a product that the stock commands read. -/
def productColumns (p : Catalogue.Product) : Product := ⟨p.id, p.sku, p.name, p.isActive⟩

/-- The clock is read twice, first for the SKU. -/
def createProduct (rs : CatalogueRust) (clk : Clock) (earlier : Instant) (input : NewProductInput) :
    Prog String LocalDb Catalogue.Product := do
  let sku := if trim input.sku = "" then defaultSku rs (trim input.category) earlier
    else rs.toUppercase (trim input.sku)
  require (trim input.name ≠ "") nameRequired
  require (trim input.category ≠ "") categoryRequired
  let taken ← onStock (context "Failed to verify SKU uniqueness"
    (query fun db => db.products.rows.any fun q => sqlUpper q.sku = sku))
  require (taken = false) ("Product SKU '" ++ sku ++ "' already exists.")
  let product := input.row (generateId "PROD" (clk.nanos 0)) sku clk.now
  onStock (context "Failed to insert product" (autocommit (·.insertProduct (productColumns product))))
  onEvents (enqueueProductUpsert (generateId "OB" (clk.nanos 1)) product clk.now)
  pure product

/-! ## Products in bulk -/

structure BatchProductItem where
  sku : String
  name : String
  brand : Option String
  model : Option String
  category : String
  unit : Option String
  barcode : Option String
  alternateNames : Option String

structure BatchProductResult where
  rowIndex : Nat
  success : Bool
  error : Option String
  productId : Option String
  sku : Option String

/-- SQLite's `LOWER`, which leaves everything but ASCII as it is. -/
def sqlLower (s : String) : String := String.ofList (s.toList.map Char.toLower)

/-- The SKU of a row without one; its sum is a `u32`. -/
def batchSku (rs : CatalogueRust) (category name : String) (now : Instant) (idx : Nat) : String :=
  let letters := rs.toUppercase (String.ofList ((category.toList.filter rs.isAlphanumeric).take 4))
  let contentHash := byteSum (rs.rfc3339 now) + byteSum name + idx
  (if letters = "" then "PROD" else letters) ++ "-" ++
    toString (contentHash * 17 % 2 ^ 32 % 9000 + 1000)

def BatchProductItem.row (input : BatchProductItem) (id sku : String) (now : Instant) :
    Catalogue.Product where
  id := id
  sku := sku
  name := trim input.name
  brand := input.brand
  model := input.model
  category := trim input.category
  unit := trim (input.unit.getD "pcs")
  barcode := input.barcode
  alternateNames := input.alternateNames
  serialTrackingEnabled := false
  isActive := true
  lowStockThreshold := none
  createdAt := stamp now
  updatedAt := stamp now

/-- A balance of nothing in each of the stores; errors are ignored. -/
def createBalancesOrNothing (productId : String) : List String → Prog String Db Unit
  | [] => pure ()
  | storeId :: storeIds => do
    let _ ← attempt (autocommit (·.insertBalanceOrNothing
      ⟨Db.balanceId (available storeId productId), available storeId productId, 0⟩))
    createBalancesOrNothing productId storeIds

/-- One row of a batch. An error of a check's SELECT is ignored, as is one of queueing. -/
def createBatchProduct (rs : CatalogueRust) (clk : Clock) (storeIds : List String) (idx : Nat)
    (input : BatchProductItem) : Prog String LocalDb BatchProductResult := do
  let failure (message : String) : BatchProductResult := ⟨idx, false, some message, none, none⟩
  let name := trim input.name
  if name = "" then return failure nameRequired
  let existingName ← attempt (onStock
    (query fun db => db.products.rows.any fun q => sqlLower q.name = sqlLower name))
  if existingName.toOption.getD false then
    return failure ("Product name '" ++ name ++ "' already exists.")
  let sku := if trim input.sku = "" then batchSku rs (trim input.category) name clk.now idx
    else rs.toUppercase (trim input.sku)
  let dup ← attempt (onStock (query fun db => db.products.rows.any fun q => sqlUpper q.sku = sku))
  if dup.toOption.getD false then return failure ("SKU '" ++ sku ++ "' already exists.")
  let product := input.row (generateId "PROD" (clk.nanos (2 * idx))) sku clk.now
  match ← attempt (onStock (autocommit (·.insertProduct (productColumns product)))) with
  | .error e => return failure ("Insert failed: " ++ e)
  | .ok _ =>
    onStock (createBalancesOrNothing product.id storeIds)
    let _ ← attempt
      (onEvents (enqueueProductUpsert (generateId "OB" (clk.nanos (2 * idx + 1))) product clk.now))
    return ⟨idx, true, none, some product.id, some product.sku⟩

def createBatchProducts (rs : CatalogueRust) (clk : Clock) (storeIds : List String) :
    Nat → List BatchProductItem → Prog String LocalDb (List BatchProductResult)
  | _, [] => pure []
  | idx, input :: inputs => do
    let result ← createBatchProduct rs clk storeIds idx input
    let results ← createBatchProducts rs clk storeIds (idx + 1) inputs
    pure (result :: results)

def createProductsBatch (rs : CatalogueRust) (clk : Clock) (inputs : List BatchProductItem) :
    Prog String LocalDb (List BatchProductResult) := do
  let storeIds ← onStock (context "Failed to query stores"
    (query fun db => (db.stores.rows.filter Store.isActive).map Store.id))
  createBatchProducts rs clk storeIds 0 inputs

end Desktop
