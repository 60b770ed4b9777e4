import InvenTory.Desktop.Products
import InvenTory.Desktop.Proof.Effect
import InvenTory.Lib.Statements

/-!
# What a product command does

A command that succeeds puts one product and one pending event with that product (`Queued`): the event of
the product, or one of its own if that is being sent. However a command ends, the events of all other
products are as they were (`Old`).
-/

namespace Desktop.Catalogue

open Relational Sql Sql.Prog

variable {F : String → Prop} {db db' : ProductsDb} {p : Product}

/-- The event of the product is being sent. -/
def Sending (q : Queue ProductPayload) (productId : String) : Prop :=
  ∃ e, q.get? (baseEventId productId) = some e ∧ e.status = .sending

/-- The outbox after the product has been queued. -/
structure Enqueued (p : Product) (now : Instant) (e : QueuedEvent ProductPayload)
    (q q' : Queue ProductPayload) : Prop where
  outbox : q' = q.put e
  payload : e.payload = p.payload
  status : e.status = .pending
  createdAt : e.createdAt = now
  event : (Sending q p.id ∧ q.get? e.eventId = none) ∨
    (¬ Sending q p.id ∧ e.eventId = baseEventId p.id)

theorem insertEvent_ok {e : QueuedEvent ProductPayload} (h : db.insertEvent e = .ok db') :
    db.outbox.get? e.eventId = none ∧ db' = { db with outbox := db.outbox.put e } := by
  unfold ProductsDb.insertEvent at h
  split at h
  · cases h
  · split at h
    · cases h
    · rename_i hnone
      exact ⟨by simpa using hnone, (Except.ok.inj h).symm⟩

theorem upsertEvent_ok {e : QueuedEvent ProductPayload} (h : db.upsertEvent e = .ok db') :
    ∃ id, db' = { db with outbox := db.outbox.put { e with id := id } } := by
  unfold ProductsDb.upsertEvent at h
  split at h
  · cases h
  · exact ⟨_, (Except.ok.inj h).symm⟩

theorem sending_iff {q : Queue ProductPayload} {id : String} :
    (q.get? (baseEventId id)).map QueuedEvent.status = some .sending ↔ Sending q id := by
  rw [Option.map_eq_some_iff]
  rfl

theorem enqueueProductUpsert_ok {outboxId : String} {now : Instant} {u : Unit}
    (h : (enqueueProductUpsert outboxId p now).Yields F db (.ok u) db') :
    ∃ e, Enqueued p now e db.outbox db'.outbox ∧ db'.products = db.products := by
  unfold enqueueProductUpsert at h
  obtain ⟨existing, db1, h1, h⟩ := yields_bind_ok h
  obtain ⟨rfl, rfl⟩ := yields_query_ok (yields_context_ok h1)
  split at h
  · rename_i hs
    obtain ⟨hnone, rfl⟩ := insertEvent_ok (yields_autocommit_ok (yields_context_ok h))
    exact ⟨_, ⟨rfl, rfl, rfl, rfl, .inl ⟨sending_iff.1 hs, hnone⟩⟩, rfl⟩
  · rename_i hs
    obtain ⟨id, rfl⟩ := upsertEvent_ok (yields_autocommit_ok (yields_context_ok h))
    exact ⟨_, ⟨rfl, rfl, rfl, rfl, .inr ⟨fun hs' => hs (sending_iff.2 hs'), rfl⟩⟩, rfl⟩

/-- The tables after a command that leaves the row `p`. -/
structure Queued (p : Product) (now : Instant) (db db' : ProductsDb) : Prop where
  products : db'.products = db.products.put p
  outbox : ∃ e, Enqueued p now e db.outbox db'.outbox

theorem insertProduct_ok (h : db.insertProduct p = .ok db') :
    db' = { db with products := db.products.put p } := by
  unfold ProductsDb.insertProduct at h
  split at h
  · cases h
  · split at h
    · cases h
    · exact (Except.ok.inj h).symm

theorem createProduct_ok {rs : CatalogueRust} {clk : Clock} {earlier : Instant} {input : NewProductInput}
    (h : (createProduct rs clk earlier input).Yields F db (.ok p) db') :
    (∃ sku, p = input.row (generateId "PROD" (clk.nanos 0)) sku clk.now) ∧ p.category ≠ "" ∧
      Queued p clk.now db db' := by
  unfold createProduct at h
  obtain ⟨-, h⟩ := yields_require_bind h
  obtain ⟨hcategory, h⟩ := yields_require_bind h
  obtain ⟨taken, db1, h1, hrest⟩ := yields_bind_ok h
  obtain ⟨-, rfl⟩ := yields_query_ok (yields_context_ok h1)
  obtain ⟨-, hrest⟩ := yields_require_bind hrest
  obtain ⟨_, db2, h2, hrest⟩ := yields_bind_ok hrest
  obtain ⟨_, db3, h3, hrest⟩ := yields_bind_ok hrest
  obtain ⟨hp, rfl⟩ := yields_pure hrest
  obtain rfl := insertProduct_ok (yields_autocommit_ok (yields_context_ok h2))
  obtain ⟨e, he, hproducts⟩ := enqueueProductUpsert_ok h3
  cases hp
  exact ⟨⟨_, rfl⟩, hcategory, hproducts, e, he⟩

theorem editProduct_ok {clk : Clock} {updateFailed fetchFailed id : String}
    {edit : Product → Product} (hid : ∀ old, (edit old).id = old.id)
    (h : (editProduct clk updateFailed fetchFailed id edit).Yields F db (.ok p) db') :
    ∃ old, db.products.get? id = some old ∧ p = edit old ∧ Queued p clk.now db db' := by
  unfold editProduct at h
  obtain ⟨_, db1, h1, h⟩ := yields_bind_ok h
  obtain ⟨row, db2, h2, h⟩ := yields_bind_ok h
  obtain ⟨rfl, rfl⟩ := yields_query_ok (yields_context_ok h2)
  have h1 := yields_autocommit_ok (yields_context_ok h1)
  cases hold : db.products.get? id with
  | none =>
    simp only [ProductsDb.updateProduct, hold] at h1
    cases h1
    simp only [hold] at h
    cases (yields_throw h).1
  | some old =>
    simp only [ProductsDb.updateProduct, hold] at h1
    cases h1
    have hkey : key (edit old) = id := (hid old).trans (Table.key_of_get? hold)
    have hget : (db.products.put (edit old)).get? id = some (edit old) := by
      have hself := Table.get?_put_self db.products (edit old)
      rwa [hkey] at hself
    simp only [hget] at h
    obtain ⟨_, db3, h3, h⟩ := yields_bind_ok h
    obtain ⟨hp, rfl⟩ := yields_pure h
    obtain ⟨e, he, hproducts⟩ := enqueueProductUpsert_ok h3
    cases hp
    exact ⟨old, rfl, rfl, hproducts, e, he⟩

theorem updateProduct_ok {clk : Clock} {input : UpdateProductInput}
    (h : (updateProduct clk input).Yields F db (.ok p) db') :
    ∃ old, db.products.get? input.id = some old ∧ p = input.edit clk.now old ∧
      p.category ≠ "" ∧ Queued p clk.now db db' := by
  unfold updateProduct at h
  obtain ⟨-, h⟩ := yields_require_bind h
  obtain ⟨hcategory, h⟩ := yields_require_bind h
  have hid : ∀ old, (input.edit clk.now old).id = old.id := fun _ => rfl
  obtain ⟨old, hold, hp, hq⟩ := editProduct_ok hid h
  have hp' : p.category = trim input.category := by
    rw [hp]
    rfl
  exact ⟨old, hold, hp, hp' ▸ hcategory, hq⟩

theorem toggleProductActive_ok {clk : Clock} {id : String} {isActive : Bool}
    (h : (toggleProductActive clk id isActive).Yields F db (.ok p) db') :
    ∃ old, db.products.get? id = some old ∧
      p = { old with isActive := isActive, updatedAt := stamp clk.now } ∧ Queued p clk.now db db' := by
  have hid : ∀ old : Product,
      ({ old with isActive := isActive, updatedAt := stamp clk.now } : Product).id = old.id :=
    fun _ => rfl
  apply editProduct_ok hid
  exact h

/-! ## Other products -/

/-- The events of the product are among those of `q`. -/
def Old (id : String) (q q' : Queue ProductPayload) : Prop :=
  ∀ e ∈ q'.rows, e.payload.productId = id → e ∈ q.rows

section
variable {id : String} {q : Queue ProductPayload}

theorem Old.put {q' : Queue ProductPayload} {e : QueuedEvent ProductPayload} (h : Old id q q')
    (he : e.payload.productId ≠ id) : Old id q (q'.put e) := by
  intro x hx hid
  rcases Table.mem_put.1 hx with rfl | ⟨hx, -⟩
  · exact absurd hid he
  · exact h x hx hid

theorem require_keeps {σ : Type} {I : σ → Prop} {P : Prop} [Decidable P] {m : String} :
    Keeps I (require P m : Prog String σ Unit) := by
  unfold require
  split
  · exact .ret _
  · exact .raise _

theorem enqueueProductUpsert_keeps {outboxId : String} {now : Instant} (hid : p.id ≠ id) :
    Keeps (fun db => Old id q db.outbox) (enqueueProductUpsert outboxId p now) := by
  unfold enqueueProductUpsert
  refine Keeps.query fun s => ?_
  split
  · refine Keeps.mapError _ (Keeps.autocommit fun db db' h hdb => ?_)
    obtain ⟨-, rfl⟩ := insertEvent_ok hdb
    exact h.put hid
  · refine Keeps.mapError _ (Keeps.autocommit fun db db' h hdb => ?_)
    obtain ⟨_, rfl⟩ := upsertEvent_ok hdb
    exact h.put hid

theorem createProduct_keeps {rs : CatalogueRust} {clk : Clock} {earlier : Instant}
    {input : NewProductInput} (hid : generateId "PROD" (clk.nanos 0) ≠ id) :
    Keeps (fun db => Old id q db.outbox) (createProduct rs clk earlier input) := by
  unfold createProduct
  refine Keeps.seq require_keeps fun _ => Keeps.seq require_keeps fun _ => Keeps.query fun _ =>
    Keeps.seq require_keeps fun _ => Keeps.seq ?_ fun _ =>
      Keeps.seq (enqueueProductUpsert_keeps hid) fun _ => Keeps.ret _
  refine Keeps.mapError _ (Keeps.autocommit fun db db' h hdb => ?_)
  rw [insertProduct_ok hdb]
  exact h

theorem editProduct_keeps {clk : Clock} {updateFailed fetchFailed id' : String}
    {edit : Product → Product} (hid : id' ≠ id) :
    Keeps (fun db => Old id q db.outbox) (editProduct clk updateFailed fetchFailed id' edit) := by
  unfold editProduct
  refine Keeps.seq (Keeps.mapError _ (Keeps.autocommit fun db db' h hdb => ?_)) fun _ =>
    Keeps.query fun db => ?_
  · cases hdb
    unfold ProductsDb.updateProduct
    split
    · exact h
    · exact h
  · cases hget : db.products.get? id' with
    | none => exact .raise _
    | some product =>
      have hproduct : product.id = id' := Table.key_of_get? hget
      exact Keeps.seq (enqueueProductUpsert_keeps (hproduct ▸ hid)) fun _ => Keeps.ret _

theorem updateProduct_keeps {clk : Clock} {input : UpdateProductInput} (hid : input.id ≠ id) :
    Keeps (fun db => Old id q db.outbox) (updateProduct clk input) := by
  unfold updateProduct
  exact Keeps.seq require_keeps fun _ => Keeps.seq require_keeps fun _ => editProduct_keeps hid

theorem toggleProductActive_keeps {clk : Clock} {id' : String} {isActive : Bool} (hid : id' ≠ id) :
    Keeps (fun db => Old id q db.outbox) (toggleProductActive clk id' isActive) := by
  unfold toggleProductActive
  exact editProduct_keeps hid

end

end Desktop.Catalogue
