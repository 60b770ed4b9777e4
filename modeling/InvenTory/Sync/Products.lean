import InvenTory.Desktop.Products
import InvenTory.Server.Widths
import InvenTory.Sync.Pages
import InvenTory.Sync.Wire

/-!
# Products on the wire

A product goes from the outbox of a desktop (`ProductPayload.json`) through `_buildProductUpdate`, the
request model (`validateProduct`) and the upsert of `push_events` into the central catalogue (`Replica`),
and from there with a pull (`Replica.response`) into the tables of another desktop.
-/

namespace Sync

open Desktop.Catalogue (ProductPayload Response Stamp)
open Server (CentralDb DateTime Exn)
open Wire (Json Runtime)

/-! ## Payloads -/

def optText : Option String → Json
  | none => .null
  | some s => .str s

/-- The JSON text of the payload, with times written as `text` does. -/
def payloadJson (text : Stamp → String) (p : ProductPayload) : Json :=
  .obj [("product_id", .str p.productId), ("sku", .str p.sku), ("name", .str p.name),
    ("brand", optText p.brand), ("model", optText p.model), ("category", .str p.category),
    ("unit", .str p.unit), ("barcode", optText p.barcode),
    ("alternate_names", optText p.alternateNames),
    ("serial_tracking_enabled", .bool p.serialTrackingEnabled), ("is_active", .bool p.isActive),
    ("created_at", .str (text p.createdAt)), ("updated_at", .str (text p.updatedAt))]

/-- A row of `get_products` as a forced sync sends it; the fields that the server does not declare are
left out. -/
def localProduct (text : Stamp → String) (p : Desktop.Catalogue.Product) : Wire.ProductSnapshot where
  id := some (.str p.id)
  sku := some (.str p.sku)
  name := some (.str p.name)
  brand := optText p.brand
  model := optText p.model
  category := some (.str p.category)
  unit := some (.str p.unit)
  barcode := optText p.barcode
  alternateNames := optText p.alternateNames
  serialTrackingEnabled := some (.bool p.serialTrackingEnabled)
  isActive := some (.bool p.isActive)
  createdAt := some (.str (text p.createdAt))
  updatedAt := .str (text p.updatedAt)

/-! ## The request model -/

/-- What the server takes from Pydantic: how a field that is no string is read. -/
structure Pydantic where
  datetime : Json → Option DateTime
  bool : Json → Option Bool
  int : Json → Option Int

/-- `str` -/
def readStr : Json → Option String
  | .str s => some s
  | _ => none

/-- `T | None` -/
def readOptional {α : Type} (read : Json → Option α) : Json → Option (Option α)
  | .null => some none
  | j => (read j).map some

/-- A field with a default. -/
def readDefault {α : Type} (default : α) (read : Json → Option α) : Option Json → Option α
  | none => some default
  | some j => read j

/-- The server's `ProductSnapshot`. -/
structure PushedProduct extends Server.ProductSnapshot where
  createdAt : Option DateTime

def validateProduct (py : Pydantic) (w : Wire.ProductSnapshot) : Option PushedProduct := do
  some {
    id := ← w.id.bind readStr
    sku := ← w.sku.bind readStr
    name := ← w.name.bind readStr
    brand := ← readOptional readStr w.brand
    model := ← readOptional readStr w.model
    category := ← readDefault "General" readStr w.category
    unit := ← readDefault "pcs" readStr w.unit
    barcode := ← readOptional readStr w.barcode
    alternateNames := ← readOptional readStr w.alternateNames
    serialTrackingEnabled := ← readDefault false py.bool w.serialTrackingEnabled
    isActive := ← readDefault true py.bool w.isActive
    createdAt := ← readDefault none (readOptional py.datetime) w.createdAt
    updatedAt := ← readOptional py.datetime w.updatedAt }

/-! ## The central catalogue -/

/-- The central database, with the `created_at` of its products and stores. -/
structure Replica where
  central : CentralDb
  productCreatedAt : String → DateTime
  storeCreatedAt : String → DateTime

namespace Replica

/-- A row that is there keeps its `created_at`. -/
def pushProduct (now : DateTime) (r : Replica) (p : PushedProduct) : Except Exn Replica := do
  let c ← r.central.upsertFitting now p.toProductSnapshot
  let createdAt := if (r.central.db.products.get? p.id).isNone then
      Function.update r.productCreatedAt p.id (p.createdAt.getD now)
    else r.productCreatedAt
  .ok { r with central := c, productCreatedAt := createdAt }

/-- A product as the desktop reads it from a response, without a threshold. -/
def sentProduct (r : Replica) (x : Server.Product × Server.ProductColumns) :
    Desktop.Catalogue.Product where
  id := x.1.id
  sku := x.1.sku
  name := x.1.name
  brand := x.2.brand
  model := x.2.model
  category := x.1.category
  unit := x.1.unit
  barcode := x.2.barcode
  alternateNames := x.2.alternateNames
  serialTrackingEnabled := x.2.serialTrackingEnabled
  isActive := x.1.isActive
  lowStockThreshold := none
  createdAt := (r.productCreatedAt x.1.id).instant
  updatedAt := x.2.updatedAt.instant

def sentStore (r : Replica) (x : Server.Store × Server.StoreColumns) : Desktop.Catalogue.Store :=
  ⟨x.1.id, x.1.code, x.1.name, x.2.address, x.1.isActive, (r.storeCreatedAt x.1.id).instant,
    x.2.updatedAt.instant⟩

/-- A quantity is read as an `i32`. -/
def sentBalance (b : Server.StockBalance) : Option Desktop.Catalogue.StockBalance :=
  (Desktop.Db.readI32 b.quantity).map fun q => ⟨b.id, b.stock, q.toInt, b.updatedAt.instant⟩

/-- The rows of a pull as the arguments of `apply_sync_pull`. -/
def response (r : Replica) (rows : Rows) : Option Response := do
  let balances ← rows.stockBalances.mapM sentBalance
  some ⟨rows.products.map r.sentProduct, rows.stores.map r.sentStore, balances⟩

/-- A pull of all pages, while nothing changes. -/
def pullWhole (r : Replica) (now : DateTime) (limit : Nat) : Option PullResponse :=
  let pages := (pulledRows none r.central).length + 1
  match httpPullAll none limit 0 none (List.replicate pages (some (r.central, now))) with
  | .done resp => some resp
  | _ => none

end Replica

/-- The row of a product on a fresh desktop, after one device has pushed it at `now` and the other has
pulled at `later`. -/
def replicate (rt : Runtime) (py : Pydantic) (text : Stamp → String) (jsNow : String)
    (now later : DateTime) (limit : Nat) (r : Replica) (p : Desktop.Catalogue.Product) :
    Option Desktop.Catalogue.Product := do
  let update ← Wire.buildProductUpdate rt jsNow (payloadJson text p.payload)
  let pushed ← validateProduct py update
  let r ← (r.pushProduct now pushed).toOption
  let resp ← r.pullWhole later limit
  let response ← r.response resp.rows
  (Desktop.Catalogue.applySyncPull response .empty).2.products.get? p.id

end Sync
