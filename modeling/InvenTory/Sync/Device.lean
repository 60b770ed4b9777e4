import InvenTory.Sync.Proof.Apply

/-!
# A device and its master data

`Device` adds to the desktop's tables the columns of products and stores that only the pull uses.
`Agrees c d`: the real products and the stores of the device `d` are those of the server `c`.
`Evolves t` are the requests of the catalogue after the time `t`.
-/

namespace Sync

open Server (CentralDb CatalogueRequest DateTime ProductColumns isAutoStore)

/-- The columns of a product besides its SKU, its name and `is_active`. -/
structure Attributes where
  category : String
  unit : String
  brand : Option String
  model : Option String
  barcode : Option String
  alternateNames : Option String
  serialTrackingEnabled : Bool
  deriving DecidableEq, Repr

def attributes (p : Server.Product) (c : ProductColumns) : Attributes :=
  ⟨p.category, p.unit, c.brand, c.model, c.barcode, c.alternateNames, c.serialTrackingEnabled⟩

structure Device where
  db : Desktop.Db
  attributes : String → Attributes
  address : String → Option String

/-- The columns after the upserts of `rs`, one after the other. -/
def writeColumns {ρ α : Type} (id : ρ → String) (column : ρ → α) (rs : List ρ) (f : String → α) :
    String → α :=
  rs.foldl (fun f r => Function.update f (id r) (column r)) f

/-- The device after `apply_sync_pull` of rows that are all upserted. -/
def Device.apply (r : Rows) (d : Device) : Device :=
  match applyRows r d.db with
  | none => d
  | some db =>
    { db
      attributes := writeColumns (fun p => p.1.id) (fun p => Sync.attributes p.1 p.2) r.products
        d.attributes
      address := writeColumns (fun s => s.1.id) (fun s => s.2.address) r.stores d.address }

/-! ## Agreement -/

/-- A product of the server that is no placeholder, as it is sent. -/
def centralProduct (c : CentralDb) (id : String) : Option (Desktop.Product × Attributes) :=
  ((c.db.products.get? id).filter fun p => !isPlaceholder p).map fun p =>
    (desktopProduct p, attributes (sentProduct p) (c.productColumns id))

def centralStore (c : CentralDb) (id : String) : Option (Desktop.Store × Option String) :=
  (c.db.stores.get? id).map fun s => (desktopStore s, (c.storeColumns id).address)

namespace Device

def product (d : Device) (id : String) : Option (Desktop.Product × Attributes) :=
  ((d.db.products.get? id).filter fun p => !Desktop.isPlaceholderProduct p.sku p.name).map fun p =>
    (p, d.attributes id)

def store (d : Device) (id : String) : Option (Desktop.Store × Option String) :=
  (d.db.stores.get? id).map fun s => (s, d.address id)

end Device

/-- A store that is pulled when it is new. -/
def InUse (c : CentralDb) (id : String) : Prop :=
  ∃ s, c.db.stores.get? id = some s ∧ s.isActive = true ∧ isAutoStore s = false

structure Agrees (c : CentralDb) (d : Device) : Prop where
  products : ∀ id, d.product id = centralProduct c id
  stores : ∀ id, (d.store id).isSome → d.store id = centralStore c id
  inUse : ∀ id, InUse c id → (d.store id).isSome

/-! ## Evolution -/

/-- What requests after the time `t`, one after the other, make of the server. -/
inductive Evolves (t : DateTime) : CentralDb → CentralDb → Prop
  | refl (c : CentralDb) : Evolves t c c
  | request {c c' : CentralDb} (h : Evolves t c c') {now : DateTime} (hnow : t.instant < now.instant)
    (r : CatalogueRequest) : Evolves t c (c'.handle now r)

end Sync
