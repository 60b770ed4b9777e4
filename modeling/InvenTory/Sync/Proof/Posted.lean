import InvenTory.Lib.Latest
import InvenTory.Sync.Edits
import InvenTory.Sync.Proof.Replication

/-!
# What a request makes of the catalogue

The products of a request are those of the payloads that it is built from (`request_carries`), and the
server takes them in order: it ends with the last one of each product (`pushAll_agrees`), and the
products that are not in the request stay as they are (`pushAll_other`).
-/

namespace Sync.Edits

open Latest Relational Runs
open Desktop.Catalogue (Product ProductPayload)
open Server (CentralDb DateTime)
open Wire (Runtime)

variable {w : Setting} {jsNow : String} {now : DateTime} {rows : List Row} {products : List Product}
  {r r' : Replica} {u : PushedProduct} {x y : ProductPayload} {id : String}

/-- The server's fields of a product are those of the payload. -/
structure Agrees (c : CentralDb) (x : ProductPayload) : Prop where
  row : ∃ row, c.db.products.get? x.productId = some row ∧ row.name = x.name ∧
    row.category = x.category ∧ row.unit = x.unit ∧ row.isActive = x.isActive
  brand : (c.productColumns x.productId).brand = x.brand
  model : (c.productColumns x.productId).model = x.model
  barcode : (c.productColumns x.productId).barcode = x.barcode
  alternateNames : (c.productColumns x.productId).alternateNames = x.alternateNames
  serialTrackingEnabled : (c.productColumns x.productId).serialTrackingEnabled = x.serialTrackingEnabled

/-- A snapshot with these fields of the payload. -/
structure Carries (u : PushedProduct) (x : ProductPayload) : Prop where
  id : u.id = x.productId
  name : u.name = x.name
  brand : u.brand = x.brand
  model : u.model = x.model
  category : u.category = x.category
  unit : u.unit = x.unit
  barcode : u.barcode = x.barcode
  alternateNames : u.alternateNames = x.alternateNames
  serialTrackingEnabled : u.serialTrackingEnabled = x.serialTrackingEnabled
  isActive : u.isActive = x.isActive

/-- Neither category nor unit is empty; the server has its own for those. -/
def Filled (x : ProductPayload) : Prop := x.category ≠ "" ∧ x.unit ≠ ""

/-- The row of the product is the same. -/
def SameProduct (id : String) (r r' : Replica) : Prop :=
  r'.central.db.products.get? id = r.central.db.products.get? id ∧
    r'.central.productColumns id = r.central.productColumns id ∧
    r'.productCreatedAt id = r.productCreatedAt id

/-! ## The products of a request -/

/-- Pydantic reads booleans as they are. -/
def ReadsBool (py : Pydantic) : Prop := ∀ b, py.bool (.bool b) = some b

theorem carries_update {rt : Runtime} {py : Pydantic} {text : Desktop.Catalogue.Stamp → String}
    (hb : ReadsBool py) {v : Wire.ProductSnapshot}
    (hv : Wire.buildProductUpdate rt jsNow (payloadJson text x) = some v)
    (h : validateProduct py v = some u) : Carries u x := by
  rw [build_payload] at hv
  cases hv
  simp only [validateProduct, readStr, readDefault, readOptional_optText, hb x.serialTrackingEnabled,
    hb x.isActive, Option.bind_eq_bind, Option.bind_some, Option.bind_eq_some_iff] at h
  obtain ⟨_, -, h⟩ := h
  cases h
  exact ⟨rfl, rfl, rfl, rfl, rfl, rfl, rfl, rfl, rfl, rfl⟩

theorem carries_local {py : Pydantic} {text : Desktop.Catalogue.Stamp → String} (hb : ReadsBool py)
    {p : Product} (h : validateProduct py (localProduct text p) = some u) : Carries u p.payload := by
  simp only [validateProduct, localProduct, readStr, readDefault, readOptional_optText,
    hb p.serialTrackingEnabled, hb p.isActive, Option.bind_eq_bind, Option.bind_some,
    Option.bind_eq_some_iff] at h
  obtain ⟨_, -, _, -, h⟩ := h
  cases h
  exact ⟨rfl, rfl, rfl, rfl, rfl, rfl, rfl, rfl, rfl, rfl⟩

theorem forall₂_comp {α β γ : Type} {R : α → β → Prop} {S : α → γ → Prop} {T : β → γ → Prop}
    (hT : ∀ a b c, R a b → S a c → T b c) : ∀ {as : List α} {bs : List β} {cs : List γ},
    List.Forall₂ R as bs → List.Forall₂ S as cs → List.Forall₂ T bs cs
  | _, _, _, .nil, .nil => .nil
  | _, _, _, .cons h hs, .cons h' hs' => .cons (hT _ _ _ h h') (forall₂_comp hT hs hs')

/-- The payloads of a request, in the order in which they are sent. -/
def sent (rows : List Row) (products : List Product) : List ProductPayload :=
  products.map Product.payload ++ rows.map (·.payload)

/-- **What the server reads** of a request. -/
theorem request_carries (hb : ReadsBool w.py) {us : List PushedProduct}
    (h : request w jsNow rows products = some us) : List.Forall₂ Carries us (sent rows products) := by
  simp only [request, Option.bind_eq_bind, Option.bind_eq_some_iff] at h
  obtain ⟨updates, hupdates, pushed, hpushed, h⟩ := h
  split at h
  · cases h
  cases h
  have hproducts : List.Forall₂ (fun v x => ∀ u, validateProduct w.py v = some u → Carries u x)
      (products.map (localProduct w.text)) (products.map Product.payload) := by
    rw [List.forall₂_map_left_iff, List.forall₂_map_right_iff, List.forall₂_same]
    exact fun p _ u hu => carries_local hb hu
  have hrows : List.Forall₂ (fun v x => ∀ u, validateProduct w.py v = some u → Carries u x)
      updates (rows.map (·.payload)) := by
    rw [List.forall₂_map_right_iff]
    exact (Runs.forall₂_of_mapM hupdates).flip.imp fun v e hv u hu => carries_update hb hv hu
  exact forall₂_comp (fun v u x hu hx => hx u hu) (Runs.forall₂_of_mapM hpushed)
    (List.rel_append hproducts hrows)

/-! ## The upserts -/

theorem pushProduct_steps : Steps (Replica.pushProduct now) (Replica.updated now) fun r u =>
    (∀ q ∈ r.central.db.products.rows,
        q.sku = (r.central.pushedRow u.toProductSnapshot).sku → q.id = u.id) ∧
      (r.central.pushedRow u.toProductSnapshot).fits = true ∧
      (u.toProductSnapshot.columns now).fits = true := fun r u r' => by
  rw [pushProduct_ok_iff]
  simp only [and_assoc]

/-- **A request that succeeds** is taken update by update. -/
theorem pushAll_eq (h : pushAll w jsNow now rows products r = some r') :
    ∃ us, request w jsNow rows products = some us ∧ r' = us.foldl (Replica.updated now) r := by
  simp only [pushAll, Option.bind_eq_bind, Option.bind_eq_some_iff] at h
  obtain ⟨us, hus, h⟩ := h
  cases hfold : us.foldlM (Replica.pushProduct now) r with
  | error e =>
    rw [hfold] at h
    cases h
  | ok r₁ =>
    rw [hfold] at h
    cases h
    exact ⟨us, hus, (pushProduct_steps.foldlM_ok_iff.1 hfold).2⟩

theorem SameProduct.refl (id : String) (r : Replica) : SameProduct id r r := ⟨rfl, rfl, rfl⟩

theorem sameProduct_updated (hne : u.id ≠ id) : SameProduct id r (r.updated now u) := by
  refine ⟨CentralDb.pushed_get?_of_ne hne.symm, CentralDb.pushed_columns_of_ne hne.symm, ?_⟩
  unfold Replica.updated
  dsimp only
  split
  · exact Function.update_of_ne hne.symm ..
  · rfl

theorem Agrees.congr (h : Agrees r.central x) (hs : SameProduct x.productId r r') :
    Agrees r'.central x := by
  obtain ⟨hrow, hcolumns, -⟩ := hs
  constructor
  · rw [hrow]
    exact h.row
  · rw [hcolumns]
    exact h.brand
  · rw [hcolumns]
    exact h.model
  · rw [hcolumns]
    exact h.barcode
  · rw [hcolumns]
    exact h.alternateNames
  · rw [hcolumns]
    exact h.serialTrackingEnabled

theorem orElse_of_ne {s d : String} (h : s ≠ "") : Py.orElse s d = s :=
  orElse_eq_self.2 fun h' => absurd h' h

/-- The row of an update. -/
theorem agrees_updated (hu : Carries u x) (hx : Filled x) : Agrees (r.updated now u).central x := by
  have hrow : (r.updated now u).central.db.products.get? u.id =
      some (r.central.pushedRow u.toProductSnapshot) := CentralDb.pushed_get?_self
  have hcolumns : (r.updated now u).central.productColumns u.id =
      u.columns (r.central.pushedStamp now u.toProductSnapshot) := CentralDb.pushed_columns_self
  obtain ⟨hcategory, hunit⟩ := hx
  rw [← hu.category] at hcategory
  rw [← hu.unit] at hunit
  have hshown : (r.central.pushedRow u.toProductSnapshot).name = u.name ∧
      (r.central.pushedRow u.toProductSnapshot).category = u.category ∧
      (r.central.pushedRow u.toProductSnapshot).unit = u.unit ∧
      (r.central.pushedRow u.toProductSnapshot).isActive = u.isActive := by
    unfold CentralDb.pushedRow
    split <;> simp [orElse_of_ne hcategory, orElse_of_ne hunit]
  rw [hu.name, hu.category, hu.unit, hu.isActive] at hshown
  rw [hu.id] at hrow hcolumns
  constructor
  · exact ⟨_, hrow, hshown⟩
  · rw [hcolumns]
    exact hu.brand
  · rw [hcolumns]
    exact hu.model
  · rw [hcolumns]
    exact hu.barcode
  · rw [hcolumns]
    exact hu.alternateNames
  · rw [hcolumns]
    exact hu.serialTrackingEnabled

/-- **A product that is not in the request** stays as it is. -/
theorem pushAll_other (hb : ReadsBool w.py) (h : pushAll w jsNow now rows products r = some r')
    (hid : ∀ y ∈ sent rows products, y.productId ≠ id) : SameProduct id r r' := by
  obtain ⟨us, hrequest, rfl⟩ := pushAll_eq h
  have hus := request_carries hb hrequest
  generalize sent rows products = ys at hus hid
  clear h hrequest
  induction hus generalizing r with
  | nil => exact .refl id r
  | @cons u y us ys hu _ ih =>
    rw [List.forall_mem_cons] at hid
    have h1 : SameProduct id r (r.updated now u) := sameProduct_updated (hu.id ▸ hid.1)
    have h2 := ih (r := r.updated now u) hid.2
    exact ⟨h2.1.trans h1.1, h2.2.1.trans h1.2.1, h2.2.2.trans h1.2.2⟩

/-- **The last payload of a product** is what the server has of it. -/
theorem pushAll_agrees (hb : ReadsBool w.py) (h : pushAll w jsNow now rows products r = some r')
    (hf : x ∈ sent rows products → Filled x)
    (hx : Ends ProductPayload.productId (Agrees r.central x) x (sent rows products)) :
    Agrees r'.central x := by
  cases hlast : latest ProductPayload.productId x.productId (sent rows products) with
  | none =>
    have hsame := pushAll_other hb h (latest_eq_none.1 hlast)
    unfold Ends at hx
    rw [hlast] at hx
    exact Agrees.congr hx hsame
  | some y =>
    have hmem := mem_of_latest hlast
    have hyx : y = x := by
      unfold Ends at hx
      rwa [hlast] at hx
    have hfilled := hf (hyx ▸ hmem)
    obtain ⟨us, hus, rfl⟩ := pushAll_eq h
    let shows (r : Replica) : Prop := Agrees r.central x
    have hself : ∀ (r : Replica) u, Carries u x → shows (r.updated now u) :=
      fun _ _ hu => agrees_updated hu hfilled
    have hother : ∀ (r : Replica) u y, Carries u y → y.productId ≠ x.productId → shows r →
        shows (r.updated now u) := by
      intro r u y hu hne hr
      rw [← hu.id] at hne
      exact hr.congr (sameProduct_updated hne)
    exact shows_foldl hself hother (request_carries hb hus) hx

end Sync.Edits
