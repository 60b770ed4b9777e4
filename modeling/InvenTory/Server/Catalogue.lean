import InvenTory.Server.Schema

/-!
# The catalogue

The requests that change products and stores by hand: the product upsert of `push_events`
(`app/api/v1/sync.py`), and `create_store`, `update_store`, `patch_store` and `toggle_store_active`
(`app/api/v1/stores.py`). `CentralDb` adds to the tables of `Db` the columns that only these
requests and the pull use. An UPDATE is sent when a column changes, and then `onupdate` stamps
`updated_at` with the server's clock, unless the request sets it.
-/

namespace Server

open Relational Py

structure ProductColumns where
  brand : Option String
  model : Option String
  barcode : Option String
  alternateNames : Option String
  serialTrackingEnabled : Bool
  updatedAt : DateTime
  deriving DecidableEq, Repr

structure StoreColumns where
  address : Option String
  updatedAt : DateTime
  deriving DecidableEq, Repr

/-- The central database with all columns of its products and stores. -/
structure CentralDb where
  db : Db
  productColumns : String → ProductColumns
  storeColumns : String → StoreColumns

/-- Why a request is refused: with a status and a text, or by an exception. -/
inductive Refusal
  | http (status : Nat) (detail : String)
  | raised (exc : Exn)

/-! ## Statements -/

namespace Db

/-- `UPDATE products` of a row that was selected before. -/
def updateProduct (db : Db) (r : Product) : Except Exn Db :=
  if db.products.rows.any fun q => q.sku = r.sku ∧ q.id ≠ r.id then
    .error (uniqueViolation "ix_products_sku" "UPDATE products" [quoted r.sku, quoted r.id])
  else .ok { db with products := db.products.put r }

/-- `UPDATE stores` of a row that was selected before. -/
def updateStore (db : Db) (r : Store) : Except Exn Db :=
  if db.stores.rows.any fun q => q.code = r.code ∧ q.id ≠ r.id then
    .error (uniqueViolation "ix_stores_code" "UPDATE stores" [quoted r.code, quoted r.id])
  else .ok { db with stores := db.stores.put r }

def insertBalance (db : Db) (b : StockBalance) : Except Exn Db :=
  let sql := "INSERT INTO stock_balances"
  let params := [quoted b.id, quoted b.stock.storeId, quoted b.stock.productId]
  if (db.balances.get? b.stock).isSome then
    .error (uniqueViolation "uq_stock_balances_store_product_bucket" sql params)
  else if (db.stores.get? b.stock.storeId).isNone then
    .error (foreignKeyViolation "stock_balances" "stock_balances_store_id_fkey" sql params)
  else if (db.products.get? b.stock.productId).isNone then
    .error (foreignKeyViolation "stock_balances" "stock_balances_product_id_fkey" sql params)
  else .ok { db with balances := db.balances.put b }

end Db

/-! ## Products -/

structure ProductSnapshot where
  id : String
  sku : String
  name : String
  brand : Option String
  model : Option String
  category : String
  unit : String
  barcode : Option String
  alternateNames : Option String
  serialTrackingEnabled : Bool
  isActive : Bool
  updatedAt : Option DateTime
  deriving DecidableEq, Repr

/-- The columns that a snapshot brings, with the stamp `updatedAt`. -/
def ProductSnapshot.columns (p : ProductSnapshot) (updatedAt : DateTime) : ProductColumns :=
  ⟨p.brand, p.model, p.barcode, p.alternateNames, p.serialTrackingEnabled, updatedAt⟩

/-- The first product with `sku` that `p` holds of; an empty id does not count. -/
def Db.skuOwner (db : Db) (sku : String) (p : Product → Bool) : Option String :=
  ((db.products.rows.find? fun q => q.sku = sku ∧ p q).map Product.id).filter (· ≠ "")

namespace CentralDb

/-- The row after `r`'s UPDATE, and its columns. -/
def putProduct (c : CentralDb) (db : Db) (id : String) (columns : ProductColumns) : CentralDb :=
  { c with db := db, productColumns := Function.update c.productColumns id columns }

def putStore (c : CentralDb) (db : Db) (id : String) (columns : StoreColumns) : CentralDb :=
  { c with db := db, storeColumns := Function.update c.storeColumns id columns }

def insertProductSnapshot (now : DateTime) (c : CentralDb) (p : ProductSnapshot) :
    Except Exn CentralDb := do
  let finalSku := if (c.db.skuOwner p.sku fun _ => true).isSome then
      p.sku ++ "-" ++ takeFirst 8 p.id else p.sku
  let db ← c.db.insertProduct ⟨p.id, finalSku, p.name, orElse p.category "General",
    orElse p.unit "pcs", p.isActive⟩
  pure (c.putProduct db p.id (p.columns (p.updatedAt.getD now)))

/-- Whether the SELECT of the SKU's owner has sent an UPDATE of the name before. -/
def flushedName (old : Product) (p : ProductSnapshot) : Bool :=
  !startsWith p.sku "OFFLINE-" && old.name ≠ p.name

/-- The stamp of an updated product: setting `updated_at` to the value it has is no change, so that
`onupdate` stamps what else has changed. -/
def productStamp (now : DateTime) (old : DateTime) (flushed changed : Bool) :
    Option DateTime → DateTime
  | none => now
  | some t =>
    if t.aware ∧ t.instant = old.instant ∧ ¬ flushed then if changed then now else old else t

def updateProductSnapshot (now : DateTime) (c : CentralDb) (old : Product) (p : ProductSnapshot) :
    Except Exn CentralDb := do
  let sku := if startsWith p.sku "OFFLINE-" then old.sku
    else if (c.db.skuOwner p.sku fun q => q.id ≠ p.id).isSome then old.sku else p.sku
  let row : Product := ⟨old.id, sku, p.name, orElse p.category old.category, orElse p.unit old.unit,
    p.isActive⟩
  let columns := c.productColumns p.id
  let changed := row ≠ old ∨ p.columns columns.updatedAt ≠ columns
  let stamp := productStamp now columns.updatedAt (flushedName old p) changed p.updatedAt
  let db ← c.db.updateProduct row
  pure (c.putProduct db p.id (p.columns stamp))

def upsertProduct (now : DateTime) (c : CentralDb) (p : ProductSnapshot) : Except Exn CentralDb :=
  match c.db.products.get? p.id with
  | none => c.insertProductSnapshot now p
  | some old => c.updateProductSnapshot now old p

/-- The products of a push, in one transaction. -/
def upsertProducts (now : DateTime) (c : CentralDb) (ps : List ProductSnapshot) :
    Except Exn CentralDb := ps.foldlM (upsertProduct now) c

/-! ## Stores -/

/-- UPDATE a store; nothing is sent when no column changes. -/
def changeStore (now : DateTime) (c : CentralDb) (old row : Store) (address : Option String) :
    Except Exn CentralDb :=
  if row = old ∧ address = (c.storeColumns old.id).address then .ok c
  else do
    let db ← c.db.updateStore row
    pure (c.putStore db old.id ⟨address, now⟩)

end CentralDb

structure CreateStoreRequest where
  id : Option String
  code : String
  name : String
  address : Option String
  deriving DecidableEq, Repr

/-- The id of the client if it is `STORE-{CODE}`, else a new one. -/
def CreateStoreRequest.storeId (r : CreateStoreRequest) (uuid : String) : String :=
  match r.id with
  | none => uuid
  | some id =>
    if id = "" ∨ ¬ startsWith id "STORE-" ∨ id ≠ "STORE-" ++ r.code then uuid else id

def isAutoStore (s : Store) : Bool := startsWith s.name "Auto Store ("

def codeExists (code : String) : Refusal :=
  .http 409 ("Store with code '" ++ code ++ "' already exists")

namespace CentralDb

/-- A placeholder becomes the store that is asked for. -/
def healStore (now : DateTime) (c : CentralDb) (s : Store) (r : CreateStoreRequest) :
    Except Refusal CentralDb :=
  (c.changeStore now s ⟨s.id, r.code, r.name, true⟩ r.address).mapError .raised

/-- A zero balance of every active product, with ids drawn from `balanceId`. -/
def insertZeroBalances (now : DateTime) (balanceId : String → String) (storeId : String) (db : Db) :
    Except Exn Db :=
  (db.products.rows.filter (·.isActive)).foldlM
    (fun db p => db.insertBalance ⟨balanceId p.id, ⟨storeId, p.id, "AVAILABLE"⟩, 0, now⟩) db

/-- The new store is committed before its balances are inserted. -/
def insertNewStore (now : DateTime) (balanceId : String → String) (c : CentralDb) (storeId : String)
    (r : CreateStoreRequest) : Except Refusal CentralDb := do
  let db ← (c.db.insertStore ⟨storeId, r.code, r.name, true⟩).mapError .raised
  let c := c.putStore db storeId ⟨r.address, now⟩
  match insertZeroBalances now balanceId storeId db with
  | .ok db => pure { c with db }
  | .error _ => pure c

def createStore (now : DateTime) (uuid : String) (balanceId : String → String) (c : CentralDb)
    (r : CreateStoreRequest) : Except Refusal CentralDb :=
  let storeId := r.storeId uuid
  let byId := c.db.stores.get? storeId
  match byId.filter isAutoStore with
  | some s =>
    if r.code ≠ s.code ∧ c.db.stores.rows.any fun q => q.code = r.code ∧ q.id ≠ storeId then
      .error (codeExists r.code)
    else c.healStore now s r
  | none =>
    match c.db.stores.rows.find? fun q => q.code = r.code ∧ isAutoStore q with
    | some s =>
      if c.db.stores.rows.any fun q => q.code = r.code ∧ q.id ≠ s.id ∧ ¬ isAutoStore q then
        .error (codeExists r.code)
      else c.healStore now s r
    | none =>
      match byId with
      | some s =>
        if s.code = r.code then .ok c
        else .error (.http 409 ("Store with id '" ++ storeId ++
          "' already exists with different code"))
      | none =>
        if c.db.stores.rows.any (·.code = r.code) then .error (codeExists r.code)
        else c.insertNewStore now balanceId storeId r

def storeNotFound : Refusal := .http 404 "Store not found"

/-- `PUT` of a name and an address. -/
def updateStore (now : DateTime) (c : CentralDb) (id name : String) (address : Option String) :
    Except Refusal CentralDb :=
  match c.db.stores.get? id with
  | none => .error storeNotFound
  | some s => (c.changeStore now s { s with name } address).mapError .raised

/-- `PATCH` of the fields that are present; the column of the name takes no NULL. -/
def patchStore (now : DateTime) (c : CentralDb) (id : String) (name : Option (Option String))
    (address : Option (Option String)) : Except Refusal CentralDb :=
  match c.db.stores.get? id with
  | none => .error storeNotFound
  | some s =>
    match name with
    | some none => .error (.raised (Db.integrityError "null value in column \"name\""
        "UPDATE stores" [Db.quoted id]))
    | some (some n) =>
      (c.changeStore now s { s with name := n }
        (address.getD (c.storeColumns id).address)).mapError .raised
    | none => (c.changeStore now s s (address.getD (c.storeColumns id).address)).mapError .raised

def toggleStoreActive (now : DateTime) (c : CentralDb) (id : String) (isActive : Bool) :
    Except Refusal CentralDb :=
  match c.db.stores.get? id with
  | none => .error storeNotFound
  | some s => (c.changeStore now s { s with isActive } (c.storeColumns id).address).mapError .raised

end CentralDb

/-! ## Requests -/

/-- A request, with what its handling draws from `uuid4`. -/
inductive CatalogueRequest
  | pushProducts (products : List ProductSnapshot)
  | createStore (request : CreateStoreRequest) (uuid : String) (balanceId : String → String)
  | updateStore (id name : String) (address : Option String)
  | patchStore (id : String) (name address : Option (Option String))
  | toggleStoreActive (id : String) (isActive : Bool)

namespace CentralDb

def answer (now : DateTime) (c : CentralDb) : CatalogueRequest → Except Refusal CentralDb
  | .pushProducts ps => (c.upsertProducts now ps).mapError .raised
  | .createStore r uuid balanceId => c.createStore now uuid balanceId r
  | .updateStore id name address => c.updateStore now id name address
  | .patchStore id name address => c.patchStore now id name address
  | .toggleStoreActive id isActive => c.toggleStoreActive now id isActive

/-- The database after a request; one that is refused is rolled back. -/
def handle (now : DateTime) (c : CentralDb) (r : CatalogueRequest) : CentralDb :=
  match c.answer now r with
  | .ok c' => c'
  | .error _ => c

end CentralDb

end Server
