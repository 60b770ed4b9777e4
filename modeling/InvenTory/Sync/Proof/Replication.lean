import InvenTory.Desktop.Proof.Fresh
import InvenTory.Server.Proof.Products
import InvenTory.Sync.Products
import InvenTory.Sync.Proof.Closure
import InvenTory.Sync.PushLoop

/-!
# The way of a product

An edited product is queued, pushed, and pulled by another desktop. `validate_update` and
`push_update_iff` say what the server makes of it, and `pullWhole_response` what a pull of all pages
brings. `replicate_self_iff`: the other desktop gets the row as it was exactly under `Replicates`.
-/

namespace Sync

open Relational Runs
open Desktop.Catalogue (ProductPayload Response Stamp Tables applySyncPull)
open Server (CentralDb DateTime Exn)
open Wire (Json Runtime)

variable {rt : Runtime} {py : Pydantic} {text : Stamp → String} {jsNow : String}

/-! ## The request -/

/-- Pydantic reads the booleans and the time of an update as they were written. -/
structure Reads (py : Pydantic) (text : Stamp → String) (updatedAt : Stamp) : Prop where
  bool : ∀ b, py.bool (.bool b) = some b
  text_ne : text updatedAt ≠ ""
  datetime : py.datetime (.str (text updatedAt)) = some ⟨updatedAt, some 0⟩

/-- An update as the server reads it; the `created_at` of the payload is not sent. -/
def pushedUpdate (p : ProductPayload) : PushedProduct where
  id := p.productId
  sku := p.sku
  name := p.name
  brand := p.brand
  model := p.model
  category := p.category
  unit := p.unit
  barcode := p.barcode
  alternateNames := p.alternateNames
  serialTrackingEnabled := p.serialTrackingEnabled
  isActive := p.isActive
  updatedAt := some ⟨p.updatedAt, some 0⟩
  createdAt := none

@[simp] theorem nullish_optText (s : Option String) : Wire.nullish (some (optText s)) .null = optText s := by
  cases s <;> rfl

@[simp] theorem readOptional_optText (s : Option String) : readOptional readStr (optText s) = some s := by
  cases s <;> rfl

/-- An event as it is sent; without a time it has the device's. -/
theorem build_payload (p : ProductPayload) :
    Wire.buildProductUpdate rt jsNow (payloadJson text p) = some {
      id := some (.str p.productId)
      sku := some (.str p.sku)
      name := some (.str p.name)
      brand := optText p.brand
      model := optText p.model
      category := some (.str p.category)
      unit := some (.str p.unit)
      barcode := optText p.barcode
      alternateNames := optText p.alternateNames
      serialTrackingEnabled := some (.bool p.serialTrackingEnabled)
      isActive := some (.bool p.isActive)
      createdAt := none
      updatedAt := Wire.orElse rt (some (.str (text p.updatedAt))) (.str jsNow) } := by
  simp [Wire.buildProductUpdate, payloadJson, Json.property, List.lookup_cons]

/-- **What an event becomes** in the request. -/
theorem validate_update {p : ProductPayload} (h : Reads py text p.updatedAt) :
    (Wire.buildProductUpdate rt jsNow (payloadJson text p)).bind (validateProduct py) =
      some (pushedUpdate p) := by
  have hsent : Wire.orElse rt (some (.str (text p.updatedAt))) (.str jsNow) =
      .str (text p.updatedAt) := by
    simp [Wire.orElse, Json.truthy, h.text_ne]
  have hupdated : readOptional py.datetime (.str (text p.updatedAt)) =
      some (some ⟨p.updatedAt, some 0⟩) := by
    simp [readOptional, h.datetime]
  rw [build_payload, Option.bind_some, hsent]
  simp [validateProduct, readStr, readDefault, h.bool, hupdated, pushedUpdate]

/-! ## The upsert -/

variable {r r' : Replica} {now later : DateTime} {p : Desktop.Catalogue.Product}

/-- The catalogue after an update. -/
def Replica.updated (now : DateTime) (r : Replica) (p : PushedProduct) : Replica :=
  { r with
    central := r.central.pushed now p.toProductSnapshot
    productCreatedAt := if (r.central.db.products.get? p.id).isNone then
        Function.update r.productCreatedAt p.id (p.createdAt.getD now)
      else r.productCreatedAt }

theorem pushProduct_ok_iff {u : PushedProduct} : r.pushProduct now u = .ok r' ↔
    (∀ q ∈ r.central.db.products.rows,
        q.sku = (r.central.pushedRow u.toProductSnapshot).sku → q.id = u.id) ∧
      (r.central.pushedRow u.toProductSnapshot).fits = true ∧
      (u.toProductSnapshot.columns now).fits = true ∧ r' = r.updated now u := by
  unfold Replica.pushProduct
  rw [bind_ok_iff]
  simp only [CentralDb.upsertFitting_ok_iff]
  constructor
  · rintro ⟨_, ⟨hsku, hrow, hcolumns, rfl⟩, h⟩
    exact ⟨hsku, hrow, hcolumns, (Except.ok.inj h).symm⟩
  · rintro ⟨hsku, hrow, hcolumns, rfl⟩
    exact ⟨_, ⟨hsku, hrow, hcolumns, rfl⟩, rfl⟩

/-- No other product of the server has the SKU. -/
def OwnSku (c : CentralDb) (p : Desktop.Catalogue.Product) : Prop :=
  ∀ q ∈ c.db.products.rows, q.sku = p.sku → q.id = p.id

theorem skuOwner_none {c : CentralDb} {sku : String} {P : Server.Product → Bool}
    (h : ∀ q ∈ c.db.products.rows, q.sku = sku → P q = false) : c.db.skuOwner sku P = none := by
  unfold Server.Db.skuOwner
  rw [List.find?_eq_none.2 fun q hq hc => ?_]
  · rfl
  · simp only [decide_eq_true_eq] at hc
    exact absurd hc.2 (by simp [h q hq hc.1])

/-- The row of a product whose SKU is free; an offline SKU does not replace another. -/
def updatedRow (c : CentralDb) (p : Desktop.Catalogue.Product) : Server.Product :=
  match c.db.products.get? p.id with
  | none => ⟨p.id, p.sku, p.name, Py.orElse p.category "General", Py.orElse p.unit "pcs", p.isActive⟩
  | some old =>
    ⟨p.id, if Py.startsWith p.sku "OFFLINE-" then old.sku else p.sku, p.name,
      Py.orElse p.category old.category, Py.orElse p.unit old.unit, p.isActive⟩

theorem pushedRow_eq (h : OwnSku r.central p) :
    r.central.pushedRow (pushedUpdate p.payload).toProductSnapshot = updatedRow r.central p := by
  unfold CentralDb.pushedRow updatedRow
  have hid : (pushedUpdate p.payload).id = p.id := rfl
  rw [hid]
  cases hget : r.central.db.products.get? p.id with
  | none =>
    have howner : r.central.db.skuOwner p.sku (fun _ => true) = none :=
      skuOwner_none fun q hq hsku => by
        have hq' : r.central.db.products.get? q.id = some q := Table.get?_of_mem hq
        rw [h q hq hsku, hget] at hq'
        cases hq'
    simp [pushedUpdate, Desktop.Catalogue.Product.payload, howner]
  | some old =>
    have howner : r.central.db.skuOwner p.sku (fun q => !decide (q.id = p.id)) = none :=
      skuOwner_none fun q hq hsku => by simp [h q hq hsku]
    have hold : old.id = p.id := Table.key_of_get? hget
    simp [pushedUpdate, Desktop.Catalogue.Product.payload, howner, hold]

/-- **An update is taken** exactly if its row fits the columns. -/
theorem push_update_iff (now : DateTime) (h : OwnSku r.central p) (hc : Server.Referenced r.central.db) :
    r.pushProduct now (pushedUpdate p.payload) = .ok r' ↔
      (updatedRow r.central p).fits = true ∧
        ((pushedUpdate p.payload).toProductSnapshot.columns now).fits = true ∧
        r' = r.updated now (pushedUpdate p.payload) := by
  rw [pushProduct_ok_iff, pushedRow_eq h]
  refine and_iff_right fun q hq hsku => ?_
  unfold updatedRow at hsku
  cases hget : r.central.db.products.get? p.id with
  | none =>
    rw [hget] at hsku
    exact h q hq hsku
  | some old =>
    rw [hget] at hsku
    dsimp only at hsku
    split at hsku
    · rw [hc.skus q hq old (Table.mem_of_get? hget) hsku]
      exact Table.key_of_get? hget
    · exact h q hq hsku

/-! ## The pull -/

theorem updated_get? (now : DateTime) (h : OwnSku r.central p) :
    (r.updated now (pushedUpdate p.payload)).central.db.products.get? p.id =
      some (updatedRow r.central p) := by
  rw [← pushedRow_eq h]
  exact CentralDb.pushed_get?_self

theorem sentBalances_some {bs : List Server.StockBalance} (h : ∀ b ∈ bs, IsI32 b.quantity) :
    bs.mapM Replica.sentBalance = some (bs.map fun b =>
      ⟨b.id, b.stock, b.quantity, b.updatedAt.instant⟩) := by
  induction bs with
  | nil => rfl
  | cons b bs ih =>
    rw [List.forall_mem_cons] at h
    have hb : Replica.sentBalance b = some ⟨b.id, b.stock, b.quantity, b.updatedAt.instant⟩ := by
      have hq : (Int32.ofInt b.quantity).toInt = b.quantity :=
        Int32.toInt_ofInt_of_le h.1.1 h.1.2
      obtain ⟨hlo, hhi⟩ := h.1
      unfold Replica.sentBalance Desktop.Db.readI32
      rw [if_pos ⟨hlo, hhi⟩, Option.map_some, hq]
    rw [List.mapM_cons, hb, ih h.2]
    rfl

/-- The response to a pull of everything. -/
def Replica.wholeResponse (r : Replica) : Response where
  products := (pulledRows none r.central).products.map r.sentProduct
  stores := (pulledRows none r.central).stores.map r.sentStore
  stockBalances := (pulledBalances none r.central.db).map fun b =>
    ⟨b.id, b.stock, b.quantity, b.updatedAt.instant⟩

/-- **A pull of all pages** brings all rows. -/
theorem pullWhole_response {limit : Nat} (ht : Typed r.central.db) (hlimit : 0 < limit) :
    (r.pullWhole later limit).bind (fun resp => r.response resp.rows) = some r.wholeResponse := by
  obtain ⟨resp, hresp⟩ := pullAll_done later hlimit (merged_start (pulledRows none r.central))
    (show (pulledRows none r.central).length < 0 + ((pulledRows none r.central).length + 1) by omega)
  have hrows : resp.rows = pulledRows none r.central := by
    refine pullAll_rows (fun c' now' hx => ?_) (merged_start (pulledRows none r.central)) hresp
    cases List.eq_of_mem_replicate hx
    rfl
  have hquantity : ∀ b ∈ pulledBalances none r.central.db, IsI32 b.quantity := fun b hb =>
    ht.quantity b (mem_pulledBalances.1 hb).1
  have hbalances := sentBalances_some hquantity
  have hwhole : r.pullWhole later limit = some resp := by
    unfold Replica.pullWhole
    dsimp only
    rw [hresp]
  rw [hwhole, Option.bind_some, Replica.response, hrows]
  change ((pulledBalances none r.central.db).mapM Replica.sentBalance).bind _ = _
  rw [hbalances]
  rfl

theorem wholeResponse_distinct (h : Constrained r.central.db) : r.wholeResponse.Distinct := by
  have hd := pulled_distinct h none
  constructor
  · rw [Replica.wholeResponse, List.map_map]
    exact hd.products
  · rw [Replica.wholeResponse, List.map_map]
    exact hd.skus
  · rw [Replica.wholeResponse, List.map_map]
    exact hd.stores
  · rw [Replica.wholeResponse, List.map_map]
    exact hd.codes
  · rw [Replica.wholeResponse, List.map_map]
    exact hd.stocks
  · rw [Replica.wholeResponse, List.map_map]
    exact hd.ids

theorem wholeResponse_complete_iff (h : Server.Referenced r.central.db) :
    r.wholeResponse.Complete ↔ Visible r.central.db := by
  rw [← closed_iff h]
  unfold Response.Complete Replica.wholeResponse
  simp only [List.forall_mem_map, List.map_map]
  exact ⟨fun hc => ⟨fun b hb => (hc b hb).2, fun b hb => (hc b hb).1⟩,
    fun hc b hb => ⟨hc.store b hb, hc.product b hb⟩⟩

/-- The product with an id in the response. -/
theorem mem_wholeResponse {x : Desktop.Catalogue.Product} {row : Server.Product}
    (hrow : r.central.db.products.get? x.id = some row) : x ∈ r.wholeResponse.products ↔
      isPlaceholder row = false ∧
        r.sentProduct (sentProduct row, r.central.productColumns row.id) = x := by
  unfold Replica.wholeResponse pulledRows
  simp only [List.map_map, List.mem_map, mem_pulledProducts]
  constructor
  · rintro ⟨q, ⟨hq, hreal, -⟩, rfl⟩
    have hget := Table.get?_of_mem hq
    have hsame : row = q := Option.some.inj (hrow.symm.trans hget)
    subst hsame
    exact ⟨hreal, rfl⟩
  · rintro ⟨hreal, hx⟩
    exact ⟨row, ⟨Table.mem_of_get? hrow, hreal, rfl⟩, hx⟩

/-! ## The whole way -/

/-- The server's tables keep their constraints. -/
structure Sound (db : Server.Db) : Prop where
  referenced : Server.Referenced db
  typed : Typed db

/-- The catalogue after an update of a product. -/
abbrev Replica.after (now : DateTime) (r : Replica) (p : Desktop.Catalogue.Product) : Replica :=
  r.updated now (pushedUpdate p.payload)

theorem after_sound (h : OwnSku r.central p) (hs : Sound r.central.db)
    (hrow : (updatedRow r.central p).fits = true)
    (hcolumns : ((pushedUpdate p.payload).toProductSnapshot.columns now).fits = true) :
    Sound (r.after now p).central.db := by
  have hpush := (push_update_iff now h hs.referenced).2 ⟨hrow, hcolumns, rfl⟩
  have hup := (CentralDb.upsertFitting_ok_iff.1 (bind_ok_iff.1 hpush).choose_spec.1)
  refine ⟨?_, hs.typed.ids, hs.typed.quantity⟩
  exact CentralDb.upsertProduct_referenced hs.referenced
    (CentralDb.upsertProduct_ok_iff.2 ⟨hup.1, rfl⟩)

theorem replicate_iff {limit : Nat} (hlimit : 0 < limit) (hread : Reads py text p.updatedAt)
    (h : OwnSku r.central p) (hs : Sound r.central.db) :
    replicate rt py text jsNow now later limit r p = some p ↔
      ((updatedRow r.central p).fits = true ∧
        ((pushedUpdate p.payload).toProductSnapshot.columns now).fits = true) ∧
      Visible (r.after now p).central.db ∧ isPlaceholder (updatedRow r.central p) = false ∧
      (r.after now p).sentProduct
        (sentProduct (updatedRow r.central p), (r.after now p).central.productColumns p.id) = p := by
  have hsplit : replicate rt py text jsNow now later limit r p =
      ((Wire.buildProductUpdate rt jsNow (payloadJson text p.payload)).bind (validateProduct py)).bind
        fun pushed => (r.pushProduct now pushed).toOption.bind fun r' =>
          ((r'.pullWhole later limit).bind fun resp => r'.response resp.rows).bind fun response =>
            (applySyncPull response .empty).2.products.get? p.id := by
    unfold replicate
    simp only [Option.bind_assoc]
    rfl
  rw [hsplit, validate_update hread, Option.bind_some]
  by_cases hfits : (updatedRow r.central p).fits = true ∧
      ((pushedUpdate p.payload).toProductSnapshot.columns now).fits = true
  · have hpush := (push_update_iff _ h hs.referenced).2 ⟨hfits.1, hfits.2, rfl⟩
    have hsound := after_sound h hs hfits.1 hfits.2
    have hcon : Constrained (r.after now p).central.db := ⟨hsound.referenced, hsound.typed.ids⟩
    have hrow : (r.after now p).central.db.products.get? p.id = some (updatedRow r.central p) :=
      updated_get? _ h
    have hid : (updatedRow r.central p).id = p.id := Table.key_of_get? hrow
    rw [hpush]
    change ((((r.after now p).pullWhole later limit).bind fun resp =>
      (r.after now p).response resp.rows).bind fun response =>
        (applySyncPull response .empty).2.products.get? p.id) = some p ↔ _
    rw [pullWhole_response hsound.typed hlimit, Option.bind_some,
      Desktop.Catalogue.fresh_product_iff (wholeResponse_distinct hcon),
      wholeResponse_complete_iff hsound.referenced, mem_wholeResponse hrow, hid, and_iff_left rfl]
    exact (and_iff_right hfits).symm
  · cases hpush : r.pushProduct now (pushedUpdate p.payload) with
    | error e => exact ⟨(fun he => by cases he), fun he => absurd he.1 hfits⟩
    | ok r' =>
      obtain ⟨h1, h2, -⟩ := (push_update_iff _ h hs.referenced).1 hpush
      exact absurd ⟨h1, h2⟩ hfits

/-! ## When a product comes through -/

def serverRow (p : Desktop.Catalogue.Product) : Server.Product :=
  ⟨p.id, p.sku, p.name, p.category, p.unit, p.isActive⟩

/-- The other columns, with a stamp. -/
def serverColumns (p : Desktop.Catalogue.Product) (updatedAt : DateTime) : Server.ProductColumns :=
  ⟨p.brand, p.model, p.barcode, p.alternateNames, p.serialTrackingEnabled, updatedAt⟩

/-- The server has the product with another row of the same `updated_at`. Then the upsert does not change
that column, and `onupdate` stamps it with the server's clock. -/
def Restamped (c : CentralDb) (p : Desktop.Catalogue.Product) : Prop :=
  ∃ old, c.db.products.get? p.id = some old ∧
    (c.productColumns p.id).updatedAt.instant = p.updatedAt ∧
    (Py.startsWith p.sku "OFFLINE-" = true ∨ old.name = p.name) ∧
    (serverRow p ≠ old ∨
      serverColumns p (c.productColumns p.id).updatedAt ≠ c.productColumns p.id)

/-- What the way of a product keeps. -/
structure Replicates (r : Replica) (now : DateTime) (p : Desktop.Catalogue.Product) : Prop where
  fits : (serverRow p).fits = true ∧ (serverColumns p now).fits = true
  real : isPlaceholder (serverRow p) = false
  sku : ∀ old, r.central.db.products.get? p.id = some old → Py.startsWith p.sku "OFFLINE-" = true →
    old.sku = p.sku
  category : p.category = "" → ∃ old, r.central.db.products.get? p.id = some old ∧ old.category = ""
  unit : p.unit ≠ ""
  threshold : p.lowStockThreshold = none
  createdAt : (if (r.central.db.products.get? p.id).isNone then now
    else r.productCreatedAt p.id).instant = p.createdAt
  updatedAt : Restamped r.central p → now.instant = p.updatedAt
  stores : ∀ b ∈ r.central.db.balances.rows, ∀ s,
    r.central.db.stores.get? b.stock.storeId = some s → s.isActive = true ∧ Server.isAutoStore s = false
  products : ∀ b ∈ r.central.db.balances.rows, ∀ q,
    r.central.db.products.get? b.stock.productId = some q → q.id ≠ p.id → isPlaceholder q = false

theorem orElse_eq_self {s d : String} : Py.orElse s d = s ↔ (s = "" → d = "") := by
  unfold Py.orElse
  split
  · rename_i h
    simp [h]
  · rename_i h
    simp [h]

theorem orElse_ne_empty {s d : String} (hd : d ≠ "") : Py.orElse s d ≠ "" := by
  unfold Py.orElse
  split
  · exact hd
  · assumption

theorem eq_serverRow {row : Server.Product} (hid : row.id = p.id) (hsku : row.sku = p.sku)
    (hname : row.name = p.name) (hcategory : row.category = p.category) (hunit : row.unit = p.unit)
    (hactive : row.isActive = p.isActive) : row = serverRow p := by
  cases row
  simp_all [serverRow]

theorem updatedRow_unit (hunit : p.unit ≠ "") : (updatedRow r.central p).unit = p.unit := by
  have hu : ∀ d, Py.orElse p.unit d = p.unit := fun d => orElse_eq_self.2 fun h => absurd h hunit
  unfold updatedRow
  split
  · exact hu _
  · exact hu _

/-- The row is that of the product. -/
theorem updatedRow_eq_iff (hunit : p.unit ≠ "") : updatedRow r.central p = serverRow p ↔
    (∀ old, r.central.db.products.get? p.id = some old → Py.startsWith p.sku "OFFLINE-" = true →
      old.sku = p.sku) ∧
    (p.category = "" → ∃ old, r.central.db.products.get? p.id = some old ∧ old.category = "") := by
  have hu : ∀ d, Py.orElse p.unit d = p.unit := fun d => orElse_eq_self.2 fun h => absurd h hunit
  unfold updatedRow serverRow
  cases r.central.db.products.get? p.id with
  | none => simp [hu, orElse_eq_self]
  | some old =>
    by_cases hoff : Py.startsWith p.sku "OFFLINE-" = true <;> simp [hu, hoff, orElse_eq_self]

theorem visible_after (h : OwnSku r.central p) (hreal : isPlaceholder (updatedRow r.central p) = false) :
    Visible (r.after now p).central.db ↔
      (∀ b ∈ r.central.db.balances.rows, ∀ s, r.central.db.stores.get? b.stock.storeId = some s →
        s.isActive = true ∧ Server.isAutoStore s = false) ∧
      (∀ b ∈ r.central.db.balances.rows, ∀ q, r.central.db.products.get? b.stock.productId = some q →
        q.id ≠ p.id → isPlaceholder q = false) := by
  have hother : ∀ id, id ≠ p.id → (r.after now p).central.db.products.get? id =
      r.central.db.products.get? id := fun id hid => CentralDb.pushed_get?_of_ne hid
  constructor
  · intro hv
    refine ⟨hv.store, fun b hb q hq hne => hv.product b hb q ?_⟩
    have hid : q.id = b.stock.productId := Table.key_of_get? hq
    rw [hother _ (hid ▸ hne)]
    exact hq
  · rintro ⟨hstores, hproducts⟩
    refine ⟨fun b hb q hq => ?_, hstores⟩
    by_cases hid : b.stock.productId = p.id
    · rw [hid, updated_get? _ h] at hq
      exact Option.some.inj hq ▸ hreal
    · rw [hother _ hid] at hq
      have hq' : q.id = b.stock.productId := Table.key_of_get? hq
      exact hproducts b hb q hq (hq' ▸ hid)

/-- The stamp that the update leaves. -/
theorem pushedStamp_iff (h : OwnSku r.central p) (hrow : updatedRow r.central p = serverRow p) :
    (r.central.pushedStamp now (pushedUpdate p.payload).toProductSnapshot).instant = p.updatedAt ↔
      (Restamped r.central p → now.instant = p.updatedAt) := by
  have ht : (⟨p.updatedAt, some 0⟩ : DateTime).instant = p.updatedAt := by
    simp [DateTime.instant]
  have hid : (pushedUpdate p.payload).id = p.id := rfl
  have hcols : (pushedUpdate p.payload).columns (r.central.productColumns p.id).updatedAt =
      serverColumns p (r.central.productColumns p.id).updatedAt := rfl
  unfold CentralDb.pushedStamp Restamped
  rw [hid]
  cases hget : r.central.db.products.get? p.id with
  | none => simp [pushedUpdate, Desktop.Catalogue.Product.payload, ht]
  | some old =>
    dsimp only
    rw [pushedRow_eq h, hrow, hcols]
    have hflush : CentralDb.flushedName old (pushedUpdate p.payload).toProductSnapshot = false ↔
        Py.startsWith p.sku "OFFLINE-" = true ∨ old.name = p.name := by
      by_cases hname : old.name = p.name <;>
        simp [CentralDb.flushedName, pushedUpdate, Desktop.Catalogue.Product.payload, hname]
    have hstamp : (pushedUpdate p.payload).toProductSnapshot.updatedAt =
        some ⟨p.updatedAt, some 0⟩ := rfl
    rw [hstamp, CentralDb.productStamp]
    split
    · rename_i hc
      obtain ⟨-, hsame, hfl⟩ := hc
      have hold : (r.central.productColumns p.id).updatedAt.instant = p.updatedAt :=
        hsame.symm.trans ht
      have hfl' := hflush.1 (Bool.eq_false_iff.2 hfl)
      split
      · rename_i hch
        exact ⟨fun hn _ => hn, fun hn => hn ⟨old, rfl, hold, hfl', of_decide_eq_true hch⟩⟩
      · rename_i hch
        refine iff_of_true hold ?_
        rintro ⟨old', hold', -, -, hdiff⟩
        cases hold'
        exact absurd (decide_eq_true hdiff) hch
    · rename_i hc
      refine iff_of_true ht ?_
      rintro ⟨old', hold', hsame, hfl, -⟩
      cases hold'
      exact absurd ⟨rfl, ht.trans hsame.symm, Bool.eq_false_iff.1 (hflush.2 hfl)⟩ hc

theorem productCreatedAt_after : (r.after now p).productCreatedAt p.id =
    if (r.central.db.products.get? p.id).isNone then now else r.productCreatedAt p.id := by
  have hid : (pushedUpdate p.payload).id = p.id := rfl
  unfold Replica.after Replica.updated
  rw [hid]
  split
  · exact Function.update_self ..
  · rfl

/-- The row that the other desktop gets. -/
theorem sentProduct_eq_iff (h : OwnSku r.central p) :
    (r.after now p).sentProduct
        (sentProduct (updatedRow r.central p), (r.after now p).central.productColumns p.id) = p ↔
      updatedRow r.central p = serverRow p ∧ p.unit ≠ "" ∧ p.lowStockThreshold = none ∧
        ((r.after now p).productCreatedAt p.id).instant = p.createdAt ∧
        (Restamped r.central p → now.instant = p.updatedAt) := by
  have hid : (updatedRow r.central p).id = p.id := Table.key_of_get? (updated_get? now h)
  have hcolumns : (r.after now p).central.productColumns p.id = serverColumns p
      (r.central.pushedStamp now (pushedUpdate p.payload).toProductSnapshot) :=
    CentralDb.pushed_columns_self
  rw [hcolumns]
  constructor
  · intro he
    have hpcs : Py.orElse (updatedRow r.central p).unit "pcs" = p.unit :=
      congrArg Desktop.Catalogue.Product.unit he
    have hunit : p.unit ≠ "" := by
      rw [← hpcs]
      exact orElse_ne_empty (by decide)
    have hrow : updatedRow r.central p = serverRow p := by
      apply eq_serverRow
      · exact hid
      · exact congrArg Desktop.Catalogue.Product.sku he
      · exact congrArg Desktop.Catalogue.Product.name he
      · exact congrArg Desktop.Catalogue.Product.category he
      · exact updatedRow_unit hunit
      · exact congrArg Desktop.Catalogue.Product.isActive he
    refine ⟨hrow, hunit, (congrArg Desktop.Catalogue.Product.lowStockThreshold he).symm, ?_, ?_⟩
    · rw [← hid]
      exact congrArg Desktop.Catalogue.Product.createdAt he
    · exact (pushedStamp_iff h hrow).1 (congrArg Desktop.Catalogue.Product.updatedAt he)
  · rintro ⟨hrow, hunit, hthreshold, hcreated, hstamp⟩
    rw [← pushedStamp_iff h hrow] at hstamp
    have hpcs : Py.orElse p.unit "pcs" = p.unit := orElse_eq_self.2 fun he => absurd he hunit
    rw [hrow]
    cases p
    simp only [Replica.sentProduct, sentProduct, serverRow, serverColumns] at *
    rw [hpcs, hcreated, hstamp, hthreshold]

/-- **The way of a product**: the other desktop gets the row exactly if it fits the server's columns and
none of the hand-written steps changes it. -/
theorem replicate_self_iff {limit : Nat} (hlimit : 0 < limit) (hread : Reads py text p.updatedAt)
    (h : OwnSku r.central p) (hs : Sound r.central.db) :
    replicate rt py text jsNow now later limit r p = some p ↔ Replicates r now p := by
  rw [replicate_iff hlimit hread h hs, sentProduct_eq_iff h, productCreatedAt_after]
  constructor
  · rintro ⟨hfits, hv, hreal, hrow, hunit, hthreshold, hcreated, hstamp⟩
    obtain ⟨hsku, hcategory⟩ := (updatedRow_eq_iff hunit).1 hrow
    obtain ⟨hstores, hproducts⟩ := (visible_after h hreal).1 hv
    rw [hrow] at hfits hreal
    exact ⟨hfits, hreal, hsku, hcategory, hunit, hthreshold, hcreated, hstamp, hstores, hproducts⟩
  · intro hr
    have hrow := (updatedRow_eq_iff hr.unit).2 ⟨hr.sku, hr.category⟩
    have hreal : isPlaceholder (updatedRow r.central p) = false := hrow ▸ hr.real
    refine ⟨?_, (visible_after h hreal).2 ⟨hr.stores, hr.products⟩, hreal, hrow, hr.unit,
      hr.threshold, hr.createdAt, hr.updatedAt⟩
    rw [hrow]
    exact hr.fits

/-! ## A product made offline -/

namespace Sample

def madeAt : Stamp := 1714550400000000

def made : Desktop.Catalogue.Product :=
  { Desktop.Catalogue.Sample.product "PROD-1" "BOLT" "Bolt" with
    createdAt := madeAt
    updatedAt := madeAt }

def written (_ : Stamp) : String := "2024-05-01T08:00:00Z"

def pydantic : Pydantic where
  datetime
    | .str s => if s = "2024-05-01T08:00:00Z" then some ⟨madeAt, some 0⟩ else none
    | _ => none
  bool
    | .bool b => some b
    | _ => none
  int _ := none

def replica : Replica := ⟨startup, fun _ => noon, fun _ => noon⟩

theorem made_reads : Reads pydantic written made.updatedAt :=
  ⟨fun _ => rfl, by decide, rfl⟩

theorem made_ownSku : OwnSku replica.central made := fun _ hq => absurd hq List.not_mem_nil

theorem replica_sound : Sound replica.central.db :=
  ⟨.empty, fun _ ha => absurd ha List.not_mem_nil, fun _ hb => absurd hb List.not_mem_nil⟩

/-- The server's clock when the product is pushed. -/
def atOnce : DateTime := ⟨madeAt, some 0⟩

/-- Five minutes later. -/
def afterwards : DateTime := ⟨madeAt + 300000000, some 0⟩

theorem made_replicates : Replicates replica atOnce made where
  fits := by decide +kernel
  real := by decide +kernel
  sku _ h := by cases h
  category h := absurd h (by decide)
  unit := by decide
  threshold := rfl
  createdAt := by decide
  updatedAt h := by
    obtain ⟨old, h, -⟩ := h
    cases h
  stores _ hb := absurd hb List.not_mem_nil
  products _ hb := absurd hb List.not_mem_nil

end Sample

theorem replicate_self_iff_made : replicate PushLoop.Sample.runtime Sample.pydantic Sample.written ""
    Sample.atOnce Sample.afterwards 10 Sample.replica Sample.made = some Sample.made :=
  (replicate_self_iff (by decide) Sample.made_reads Sample.made_ownSku Sample.replica_sound).2
    Sample.made_replicates

/-- A product that is pushed later than it was made comes out with another `created_at`. -/
theorem made_not_replicated : OwnSku Sample.replica.central Sample.made ∧
    replicate PushLoop.Sample.runtime Sample.pydantic Sample.written "" Sample.afterwards
      Sample.afterwards 10 Sample.replica Sample.made ≠ some Sample.made := by
  refine ⟨Sample.made_ownSku, fun h => ?_⟩
  rw [replicate_iff (by decide) Sample.made_reads Sample.made_ownSku Sample.replica_sound,
    sentProduct_eq_iff Sample.made_ownSku, productCreatedAt_after] at h
  exact absurd h.2.2.2.2.2.2.1 (by decide)

end Sync
