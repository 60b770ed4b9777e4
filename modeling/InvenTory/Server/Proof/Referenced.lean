import InvenTory.Server.Catalogue
import InvenTory.Server.Proof.Item
import InvenTory.Server.Proof.Stamps
import InvenTory.Server.Proof.Statements

/-!
# References and unique columns

`Referenced` is what the foreign keys of `stock_balances` and the unique columns of `products` and
`stores` guarantee. Every statement of ingestion and every request of the catalogue keeps it, so
that it holds of every database that they lead to (`Reachable.referenced`).
-/

namespace Server

open Relational Sql Sql.Prog

structure Referenced (db : Db) : Prop where
  stores : ∀ b ∈ db.balances.rows, (db.stores.get? b.stock.storeId).isSome
  products : ∀ b ∈ db.balances.rows, (db.products.get? b.stock.productId).isSome
  skus : db.products.Unique Product.sku
  codes : db.stores.Unique Store.code

variable {db db' : Db}

theorem Referenced.empty : Referenced Db.empty where
  stores b hb := by cases hb
  products b hb := by cases hb
  skus a ha := by cases ha
  codes a ha := by cases ha

theorem Referenced.congr (h : Referenced db) (hs : db'.stores = db.stores)
    (hp : db'.products = db.products) (hb : db'.balances = db.balances) : Referenced db' where
  stores := by rw [hs, hb]; exact h.stores
  products := by rw [hp, hb]; exact h.products
  skus := by rw [hp]; exact h.skus
  codes := by rw [hs]; exact h.codes

theorem isSome_put {ρ κ : Type} [Keyed ρ κ] [DecidableEq κ] {t : Table ρ} {r : ρ} {k : κ}
    (h : (t.get? k).isSome) : ((t.put r).get? k).isSome := by
  rw [Table.get?_put]
  split
  · rfl
  · exact h

/-- A store that is written, with a code that no other store has. -/
theorem Referenced.putStore (h : Referenced db) {r : Store}
    (hr : ∀ q ∈ db.stores.rows, q.code = r.code → q.id = r.id) :
    Referenced { db with stores := db.stores.put r } where
  stores b hb := isSome_put (h.stores b hb)
  products := h.products
  skus := h.skus
  codes := h.codes.put hr

theorem Referenced.putProduct (h : Referenced db) {r : Product}
    (hr : ∀ q ∈ db.products.rows, q.sku = r.sku → q.id = r.id) :
    Referenced { db with products := db.products.put r } where
  stores := h.stores
  products b hb := isSome_put (h.products b hb)
  skus := h.skus.put hr
  codes := h.codes

theorem Referenced.putBalance (h : Referenced db) {b : StockBalance}
    (hs : (db.stores.get? b.stock.storeId).isSome)
    (hp : (db.products.get? b.stock.productId).isSome) :
    Referenced { db with balances := db.balances.put b } where
  stores x hx := by
    rcases Table.mem_put.1 hx with rfl | ⟨hx, -⟩
    · exact hs
    · exact h.stores x hx
  products x hx := by
    rcases Table.mem_put.1 hx with rfl | ⟨hx, -⟩
    · exact hp
    · exact h.products x hx
  skus := h.skus
  codes := h.codes

/-! ## Statements -/

theorem insertStore_referenced {r : Store} (h : Referenced db) (hok : db.insertStore r = .ok db') :
    Referenced db' := by
  obtain ⟨-, hcode, rfl⟩ := insertStore_ok hok
  exact h.putStore fun q hq he => absurd he (hcode q hq)

theorem deleteStore_referenced {id : String} (h : Referenced db)
    (hok : db.deleteStore id = .ok db') : Referenced db' := by
  obtain ⟨-, -, hbal, -, rfl⟩ := deleteStore_ok hok
  refine ⟨fun b hb => ?_, h.products, h.skus, h.codes.erase id⟩
  show ((db.stores.erase id).get? b.stock.storeId).isSome
  -- no balance refers to the store
  rw [Table.get?_erase, if_neg (Ne.symm (hbal b hb))]
  exact h.stores b hb

theorem insertProduct_referenced {r : Product} (h : Referenced db)
    (hok : db.insertProduct r = .ok db') : Referenced db' := by
  obtain ⟨-, hsku, rfl⟩ := insertProduct_ok hok
  exact h.putProduct fun q hq he => absurd he (hsku q hq)

theorem upsertStockBalance_referenced {id : String} {k : StockKey} {d : Int} {now : DateTime}
    (h : Referenced db) (hok : db.upsertStockBalance id k d now = .ok db') : Referenced db' := by
  unfold Db.upsertStockBalance at hok
  split at hok
  · rename_i b hb
    cases hok
    have hm := Table.mem_of_get? hb
    exact h.putBalance (h.stores b hm) (h.products b hm)
  · simp only at hok
    split at hok <;> [cases hok; split at hok] <;> cases hok
    rename_i hs hp
    exact h.putBalance (Option.isSome_iff_ne_none.2 (by simpa using hs))
      (Option.isSome_iff_ne_none.2 (by simpa using hp))

/-- **Every statement of ingestion keeps the references.** -/
theorem statement_referenced (env : Env) (f : Db → Except Exn Db) (hf : ItemStatement env f)
    (db db' : Db) (h : Referenced db) (hok : f db = .ok db') : Referenced db' := by
  cases hf with
  | insertStore r => exact insertStore_referenced h hok
  | deleteStore id => exact deleteStore_referenced h hok
  | insertProduct r => exact insertProduct_referenced h hok
  | insertDevice r =>
    obtain ⟨-, -, rfl⟩ := insertDevice_ok hok
    exact h.congr rfl rfl rfl
  | insertLedger r =>
    obtain ⟨-, rfl⟩ := insertLedger_ok hok
    exact h.congr rfl rfl rfl
  | updateLedger r =>
    cases hok
    exact h.congr rfl rfl rfl
  | insertReceipt r =>
    obtain ⟨-, rfl⟩ := insertReceipt_ok hok
    exact h.congr rfl rfl rfl
  | updateReceipt r =>
    cases hok
    exact h.congr rfl rfl rfl
  | deleteReceipt id =>
    cases hok
    exact h.congr rfl rfl rfl
  | upsertStockBalance k d => exact upsertStockBalance_referenced h hok
  | insertDayBook b =>
    obtain ⟨-, rfl⟩ := insertDayBook_ok hok
    exact h.congr rfl rfl rfl
  | insertDayBookEntry e =>
    obtain ⟨-, -, -, rfl⟩ := insertDayBookEntry_ok hok
    exact h.congr rfl rfl rfl
  | setOpeningBalance id total =>
    cases hok
    exact h.congr rfl rfl rfl

/-! ## Requests of the catalogue -/

theorem updateProduct_ok {r : Product} (h : db.updateProduct r = .ok db') :
    (∀ q ∈ db.products.rows, q.sku = r.sku → q.id = r.id) ∧
      db' = { db with products := db.products.put r } := by
  unfold Db.updateProduct at h
  split at h <;> cases h
  rename_i hsku
  exact ⟨by simpa using hsku, rfl⟩

theorem updateStore_ok {r : Store} (h : db.updateStore r = .ok db') :
    (∀ q ∈ db.stores.rows, q.code = r.code → q.id = r.id) ∧
      db' = { db with stores := db.stores.put r } := by
  unfold Db.updateStore at h
  split at h <;> cases h
  rename_i hcode
  exact ⟨by simpa using hcode, rfl⟩

theorem insertBalance_ok {b : StockBalance} (h : db.insertBalance b = .ok db') :
    (db.stores.get? b.stock.storeId).isSome ∧ (db.products.get? b.stock.productId).isSome ∧
      db' = { db with balances := db.balances.put b } := by
  simp only [Db.insertBalance] at h
  repeat' split at h
  all_goals cases h
  rename_i hs hp
  exact ⟨Option.isSome_iff_ne_none.2 (by simpa using hs),
    Option.isSome_iff_ne_none.2 (by simpa using hp), rfl⟩

theorem updateProduct_referenced {r : Product} (h : Referenced db)
    (hok : db.updateProduct r = .ok db') : Referenced db' := by
  obtain ⟨hsku, rfl⟩ := updateProduct_ok hok
  exact h.putProduct hsku

theorem updateStore_referenced {r : Store} (h : Referenced db) (hok : db.updateStore r = .ok db') :
    Referenced db' := by
  obtain ⟨hcode, rfl⟩ := updateStore_ok hok
  exact h.putStore hcode

theorem insertBalance_referenced {b : StockBalance} (h : Referenced db)
    (hok : db.insertBalance b = .ok db') : Referenced db' := by
  obtain ⟨hs, hp, rfl⟩ := insertBalance_ok hok
  exact h.putBalance hs hp

/-- What every step of a fold keeps, the fold keeps. -/
theorem foldlM_keeps {α β ε : Type} {I : β → Prop} {f : β → α → Except ε β} :
    ∀ {l : List α} {b b' : β}, (∀ b, ∀ a ∈ l, ∀ b', I b → f b a = .ok b' → I b') → I b →
      l.foldlM f b = .ok b' → I b'
  | [], _, _, _, hb, h => by
    cases h
    exact hb
  | a :: l, b, b', hf, hb, h => by
    rw [List.foldlM_cons] at h
    cases ha : f b a with
    | error e =>
      rw [ha] at h
      cases h
    | ok b1 =>
      rw [ha] at h
      exact foldlM_keeps (fun b x hx => hf b x (List.mem_cons_of_mem _ hx))
        (hf b a List.mem_cons_self b1 hb ha) h

/-- The statements that the request `r` may run on `db`. -/
inductive CatalogueStatement (r : CatalogueRequest) (db : Db) : (Db → Except Exn Db) → Prop
  | insertProduct {ps : List ProductSnapshot} {p : ProductSnapshot} (hr : r = .pushProducts ps)
    (hp : p ∈ ps) (q : Product) (hq : q.id = p.id) : CatalogueStatement r db (·.insertProduct q)
  | updateProduct (q : Product) (hq : (db.products.get? q.id).isSome) :
    CatalogueStatement r db (·.updateProduct q)
  | insertStore {request : CreateStoreRequest} {uuid : String} {balanceId : String → String}
    (hr : r = .createStore request uuid balanceId) (q : Store) (hq : q.id = request.storeId uuid) :
    CatalogueStatement r db (·.insertStore q)
  | updateStore (q : Store) (hq : (db.stores.get? q.id).isSome) :
    CatalogueStatement r db (·.updateStore q)
  | insertBalance (b : StockBalance) : CatalogueStatement r db (·.insertBalance b)

namespace CentralDb

section
variable {now : DateTime} {c c' : CentralDb} {I : Db → Prop} {r : CatalogueRequest}
  (hI : ∀ db db' f, CatalogueStatement r db f → I db → f db = .ok db' → I db')
include hI

theorem upsertProduct_keeps {ps : List ProductSnapshot} {p : ProductSnapshot}
    (hr : r = .pushProducts ps) (hp : p ∈ ps) (h : I c.db)
    (hok : c.upsertProduct now p = .ok c') : I c'.db := by
  unfold upsertProduct at hok
  split at hok
  · unfold insertProductSnapshot at hok
    simp only at hok
    generalize hdb : c.db.insertProduct _ = res at hok
    cases res with
    | error e => cases hok
    | ok db =>
      cases hok
      exact hI _ _ _ (.insertProduct hr hp _ rfl) h hdb
  · rename_i old hold
    unfold updateProductSnapshot at hok
    simp only at hok
    generalize hdb : c.db.updateProduct _ = res at hok
    cases res with
    | error e => cases hok
    | ok db =>
      cases hok
      refine hI _ _ _ (.updateProduct _ ?_) h hdb
      rw [show old.id = p.id from Table.key_of_get? hold, hold]
      rfl

theorem changeStore_keeps {old row : Store} {address : Option String} (h : I c.db)
    (hrow : (c.db.stores.get? row.id).isSome)
    (hok : (c.changeStore now old row address).mapError Refusal.raised = .ok c') : I c'.db := by
  unfold changeStore at hok
  split at hok
  · cases hok
    exact h
  · cases hdb : c.db.updateStore row with
    | error e =>
      rw [hdb] at hok
      cases hok
    | ok db =>
      rw [hdb] at hok
      cases hok
      exact hI _ _ _ (.updateStore row hrow) h hdb

/-- The row of the store `id`, with other columns. -/
theorem changeRow_keeps {id : String} {s row : Store} {address : Option String} (h : I c.db)
    (hs : c.db.stores.get? id = some s)
    (hok : (c.changeStore now s row address).mapError Refusal.raised = .ok c')
    (hrow : row.id = s.id) : I c'.db := by
  refine changeStore_keeps hI h ?_ hok
  rw [hrow, show s.id = id from Table.key_of_get? hs, hs]
  rfl

theorem insertNewStore_keeps {request : CreateStoreRequest} {uuid : String}
    {balanceId : String → String} (hr : r = .createStore request uuid balanceId) (h : I c.db)
    (hok : c.insertNewStore now balanceId (request.storeId uuid) request = .ok c') : I c'.db := by
  obtain ⟨db, hdb, hc⟩ := insertNewStore_ok hok
  have h1 := hI _ _ _ (.insertStore hr _ rfl) h hdb
  rcases hc with rfl | ⟨db', hz, rfl⟩
  · exact h1
  · exact foldlM_keeps (fun _ _ _ _ hb hs => hI _ _ _ (.insertBalance _) hb hs) h1 hz

theorem createStore_keeps {request : CreateStoreRequest} {uuid : String}
    {balanceId : String → String} (hr : r = .createStore request uuid balanceId) (h : I c.db)
    (hok : c.createStore now uuid balanceId request = .ok c') : I c'.db := by
  unfold createStore at hok
  simp only at hok
  split at hok
  · rename_i s hs
    split at hok
    · cases hok
    · exact changeRow_keeps hI h (Option.filter_eq_some_iff.1 hs).1 hok rfl
  split at hok
  · rename_i s hs
    split at hok
    · cases hok
    · exact changeRow_keeps hI h (Table.get?_of_mem (List.mem_of_find?_eq_some hs)) hok rfl
  split at hok
  · split at hok <;> cases hok
    exact h
  split at hok
  · cases hok
  · exact insertNewStore_keeps hI hr h hok

theorem patchStore_keeps {id : String} {name address : Option (Option String)}
    (h : I c.db) (hok : c.patchStore now id name address = .ok c') : I c'.db := by
  unfold patchStore at hok
  split at hok
  · cases hok
  rename_i s hs
  split at hok
  · cases hok
  · exact changeRow_keeps hI h hs hok rfl
  · exact changeRow_keeps hI h hs hok rfl

/-- **A request keeps what its statements keep.** -/
theorem handle_keeps (h : I c.db) : I (c.handle now r).db := by
  unfold handle
  split
  · rename_i c' hok
    cases r with
    | pushProducts ps =>
      change (c.upsertProducts now ps).mapError Refusal.raised = .ok c' at hok
      cases hps : c.upsertProducts now ps with
      | error e =>
        rw [hps] at hok
        cases hok
      | ok c1 =>
        rw [hps] at hok
        cases hok
        exact foldlM_keeps (I := fun c : CentralDb => I c.db)
          (fun _ _ hmem _ hc hp => upsertProduct_keeps hI rfl hmem hc hp) h hps
    | createStore r uuid balanceId => exact createStore_keeps hI rfl h hok
    | updateStore id name address =>
      change c.updateStore now id name address = .ok c' at hok
      unfold updateStore at hok
      split at hok
      · cases hok
      · rename_i s hs
        exact changeRow_keeps hI h hs hok rfl
    | patchStore id name address => exact patchStore_keeps hI h hok
    | toggleStoreActive id isActive =>
      change c.toggleStoreActive now id isActive = .ok c' at hok
      unfold toggleStoreActive at hok
      split at hok
      · cases hok
      · rename_i s hs
        exact changeRow_keeps hI h hs hok rfl
  · exact h

end

theorem CatalogueStatement.referenced {r : CatalogueRequest} (db db' : Db)
    (f : Db → Except Exn Db) (hf : CatalogueStatement r db f) (h : Referenced db)
    (hok : f db = .ok db') : Referenced db' := by
  cases hf with
  | insertProduct hr hp q hq => exact insertProduct_referenced h hok
  | updateProduct q hq => exact updateProduct_referenced h hok
  | insertStore hr q hq => exact insertStore_referenced h hok
  | updateStore q hq => exact updateStore_referenced h hok
  | insertBalance b => exact insertBalance_referenced h hok

theorem upsertProduct_referenced {now : DateTime} {c c' : CentralDb} {p : ProductSnapshot}
    (h : Referenced c.db) (hok : c.upsertProduct now p = .ok c') : Referenced c'.db :=
  upsertProduct_keeps CatalogueStatement.referenced rfl (List.mem_singleton_self p) h hok

/-- **Every request of the catalogue keeps the references.** -/
theorem handle_referenced {now : DateTime} {c : CentralDb} (h : Referenced c.db)
    (r : CatalogueRequest) : Referenced (c.handle now r).db :=
  handle_keeps CatalogueStatement.referenced h

/-- The database after a batch; the rows that it provisioned have the stamps `stamp`. -/
def ingested (c : CentralDb) (stamp : String → DateTime) (db : Db) : CentralDb where
  db := db
  productColumns id := if (c.db.products.get? id).isSome then c.productColumns id
    else ⟨none, none, none, none, false, stamp id⟩
  storeColumns id := if (c.db.stores.get? id).isSome then c.storeColumns id else ⟨none, stamp id⟩

end CentralDb

/-- What batches and requests, one after the other, make of the migrated database. Any statement of
a batch may fail. -/
inductive Reachable (py : Python) : CentralDb → Prop
  | start {c : CentralDb} (h : c.db = .empty) : Reachable py c
  | batch {c : CentralDb} {subs : List Submission} {res : Except Exn (List SyncReceipt)} {db : Db}
    {F : Exn → Prop} (h : Reachable py c) (hr : (ingestBatch py subs).Yields F c.db res db)
    (stamp : String → DateTime) : Reachable py (c.ingested stamp db)
  | request {c : CentralDb} (h : Reachable py c) (now : DateTime) (r : CatalogueRequest) :
    Reachable py (c.handle now r)

theorem Reachable.referenced {py : Python} {c : CentralDb} (h : Reachable py c) :
    Referenced c.db := by
  induction h with
  | start h =>
    rw [h]
    exact .empty
  | batch _ hr _ ih => exact ingestBatch_keeps statement_referenced py _ _ _ _ _ hr ih
  | request _ now r ih => exact CentralDb.handle_referenced ih r

end Server
