import InvenTory.Desktop.Catalogue
import InvenTory.Desktop.Queue

/-!
# The product commands

`create_product`, `update_product` and `toggle_product_active`, each of which ends in
`enqueue_product_upsert`. The events of one product share an event, `EVT-PROD-UPDATE-{id}`, that an
edit overwrites, unless it is being sent: then the edit is queued under an id of its own. The queue here
holds the `PRODUCT_UPDATE` events only.
-/

namespace Desktop.Catalogue

open Relational Sql Sql.Prog

/-- What these commands take from Rust besides: `char::is_alphanumeric`. -/
structure CatalogueRust extends Rust where
  isAlphanumeric : Char → Bool

/-- The JSON object that is queued; it has no `low_stock_threshold`. -/
structure ProductPayload where
  productId : String
  sku : String
  name : String
  brand : Option String
  model : Option String
  category : String
  unit : String
  barcode : Option String
  alternateNames : Option String
  serialTrackingEnabled : Bool
  isActive : Bool
  createdAt : Stamp
  updatedAt : Stamp
  deriving DecidableEq, Repr

def Product.payload (p : Product) : ProductPayload :=
  ⟨p.id, p.sku, p.name, p.brand, p.model, p.category, p.unit, p.barcode, p.alternateNames,
    p.serialTrackingEnabled, p.isActive, p.createdAt, p.updatedAt⟩

structure ProductsDb where
  products : Table Product
  outbox : Queue ProductPayload

/-- What a clock reading is as a stamp. -/
def stamp (now : Instant) : Stamp := now * 1000000

/-! ## Statements -/

namespace ProductsDb

variable (db : ProductsDb)

def insertProduct (p : Product) : Except String ProductsDb :=
  if (db.products.get? p.id).isSome then .error (Db.uniqueFailed "products.id")
  else if db.products.rows.any (·.sku = p.sku) then .error (Db.uniqueFailed "products.sku")
  else .ok { db with products := db.products.put p }

/-- `UPDATE products SET .. WHERE id` -/
def updateProduct (id : String) (edit : Product → Product) : ProductsDb :=
  match db.products.get? id with
  | some old => { db with products := db.products.put (edit old) }
  | none => db

def insertEvent (e : QueuedEvent ProductPayload) : Except String ProductsDb :=
  if db.outbox.rows.any (·.id = e.id) then .error (Db.uniqueFailed "outbox_events.id")
  else if (db.outbox.get? e.eventId).isSome then .error (Db.uniqueFailed "outbox_events.event_id")
  else .ok { db with outbox := db.outbox.put e }

/-- `ON CONFLICT(event_id) DO UPDATE SET` of all columns but the ids. -/
def upsertEvent (e : QueuedEvent ProductPayload) : Except String ProductsDb :=
  if db.outbox.rows.any (·.id = e.id) then .error (Db.uniqueFailed "outbox_events.id")
  else
    let id := ((db.outbox.get? e.eventId).map QueuedEvent.id).getD e.id
    .ok { db with outbox := db.outbox.put { e with id := id } }

end ProductsDb

/-! ## Queueing -/

def baseEventId (productId : String) : String := "EVT-PROD-UPDATE-" ++ productId

def followUpEventId (productId outboxId : String) : String :=
  baseEventId productId ++ "-" ++ outboxId

def newProductEvent (id eventId : String) (p : Product) (now : Instant) : QueuedEvent ProductPayload :=
  ⟨id, eventId, p.payload, .pending, 0, none, now, none⟩

def productQueueFailed : String := "Failed to queue product update for sync"

def enqueueProductUpsert (outboxId : String) (p : Product) (now : Instant) :
    Prog String ProductsDb Unit := do
  let existing ← context "Failed to read product outbox state"
    (query fun db => (db.outbox.get? (baseEventId p.id)).map QueuedEvent.status)
  if existing = some .sending then
    context productQueueFailed (autocommit
      (·.insertEvent (newProductEvent outboxId (followUpEventId p.id outboxId) p now)))
  else
    context productQueueFailed (autocommit
      (·.upsertEvent (newProductEvent outboxId (baseEventId p.id) p now)))

/-! ## Commands -/

/-- SQLite's `UPPER`, which leaves everything but ASCII as it is. -/
def sqlUpper (s : String) : String := String.ofList (s.toList.map Char.toUpper)

def byteSum (s : String) : Nat := (s.toUTF8.toList.map UInt8.toNat).sum

/-- A SKU of the category and the time. -/
def defaultSku (rs : CatalogueRust) (category : String) (now : Instant) : String :=
  let letters := rs.toUppercase (String.ofList ((category.toList.filter rs.isAlphanumeric).take 4))
  (if letters = "" then "PROD" else letters) ++ "-" ++
    toString (byteSum (rs.rfc3339 now) * 17 % 9000 + 1000)

structure NewProductInput where
  sku : String
  name : String
  brand : Option String
  model : Option String
  category : String
  unit : Option String
  barcode : Option String
  alternateNames : Option String
  serialTrackingEnabled : Option Bool
  isActive : Option Bool

def NewProductInput.row (input : NewProductInput) (id sku : String) (now : Instant) : Product where
  id := id
  sku := sku
  name := trim input.name
  brand := input.brand
  model := input.model
  category := trim input.category
  unit := trim (input.unit.getD "pcs")
  barcode := input.barcode
  alternateNames := input.alternateNames
  serialTrackingEnabled := input.serialTrackingEnabled.getD false
  isActive := input.isActive.getD true
  lowStockThreshold := none
  createdAt := stamp now
  updatedAt := stamp now

def nameRequired : String := "Product name cannot be empty."

def categoryRequired : String := "Product category cannot be empty."

/-- The clock is read twice, first for the SKU. -/
def createProduct (rs : CatalogueRust) (clk : Clock) (earlier : Instant) (input : NewProductInput) :
    Prog String ProductsDb Product := do
  let sku := if trim input.sku = "" then defaultSku rs (trim input.category) earlier
    else rs.toUppercase (trim input.sku)
  require (trim input.name ≠ "") nameRequired
  require (trim input.category ≠ "") categoryRequired
  let taken ← context "Failed to verify SKU uniqueness"
    (query fun db => db.products.rows.any fun q => sqlUpper q.sku = sku)
  require (taken = false) ("Product SKU '" ++ sku ++ "' already exists.")
  let product := input.row (generateId "PROD" (clk.nanos 0)) sku clk.now
  context "Failed to insert product" (autocommit (·.insertProduct product))
  enqueueProductUpsert (generateId "OB" (clk.nanos 1)) product clk.now
  pure product

/-- Change the row of a product, and queue it. -/
def editProduct (clk : Clock) (updateFailed fetchFailed id : String) (edit : Product → Product) :
    Prog String ProductsDb Product := do
  context updateFailed (autocommit fun db => .ok (db.updateProduct id edit))
  let row ← context fetchFailed (query (·.products.get? id))
  match row with
  | none => throw ("Product with ID '" ++ id ++ "' not found.")
  | some product =>
    enqueueProductUpsert (generateId "OB" (clk.nanos 0)) product clk.now
    pure product

structure UpdateProductInput where
  id : String
  name : String
  brand : Option String
  model : Option String
  category : String
  unit : String
  barcode : Option String
  alternateNames : Option String
  serialTrackingEnabled : Bool

def UpdateProductInput.edit (input : UpdateProductInput) (now : Instant) (old : Product) : Product :=
  { old with
    name := trim input.name
    brand := input.brand
    model := input.model
    category := trim input.category
    unit := trim input.unit
    barcode := input.barcode
    alternateNames := input.alternateNames
    serialTrackingEnabled := input.serialTrackingEnabled
    updatedAt := stamp now }

def updateProduct (clk : Clock) (input : UpdateProductInput) : Prog String ProductsDb Product := do
  require (trim input.name ≠ "") nameRequired
  require (trim input.category ≠ "") categoryRequired
  editProduct clk "Failed to update product" "Failed to fetch updated product" input.id
    (input.edit clk.now)

def toggleProductActive (clk : Clock) (id : String) (isActive : Bool) :
    Prog String ProductsDb Product :=
  editProduct clk "Failed to toggle product status" "Failed to fetch product status" id
    fun old => { old with isActive := isActive, updatedAt := stamp clk.now }

end Desktop.Catalogue
