import InvenTory.Server.Proof.Prefetch
import InvenTory.Server.Proof.Referenced
import InvenTory.Server.Proof.Statements
import InvenTory.Server.Requests

/-!
# Provisioning a store

The store of an item that is missing is created under the code that is derived from its id. A store that
has the code keeps it, unless it is a placeholder, which is deleted first. `turn_provides` says what a
turn may do to the stores, whatever fails; `provisioning` that it takes the item unless rows refer to the
placeholder, in every state that batches and the requests of the catalogue lead to (`Supplied`).
-/

namespace Server

open Relational Sql Sql.Prog Py

/-- `q` is a placeholder with the code that is derived from `id`. -/
structure Placeholder (py : Python) (db : Db) (id : String) (q : Store) : Prop where
  row : q ∈ db.stores.rows
  name : isAutoStore q = true
  code : q.code = derivedCode py id

/-- No row refers to the store `id`, but for its day books. -/
structure Unreferenced (db : Db) (id : String) : Prop where
  devices : ∀ d ∈ db.devices.rows, d.storeId ≠ id
  ledger : ∀ r ∈ db.ledger.rows, r.storeId ≠ id
  balances : ∀ b ∈ db.balances.rows, b.stock.storeId ≠ id
  others : id ∉ db.storeRefs

/-- What provisioning the store `id` may do to the stores. -/
inductive Provides (py : Python) (id : String) (db db' : Db) : Prop
  | known (h : db'.stores = db.stores)
  | created {row : Store} (hid : row.id = id) (hnew : db.stores.get? id = none)
    (h : db'.stores = db.stores.put row)
  /-- A placeholder makes room for the store. -/
  | replaced {q row : Store} (hq : Placeholder py db id q) (hun : Unreferenced db q.id)
    (hid : row.id = id) (hnew : db.stores.get? id = none)
    (h : db'.stores = (db.stores.erase q.id).put row)

variable {F : Exn → Prop} {py : Python} {env : Env} {c : Option IngestPrefetch}
  {p : TransactionPayload} {db db' db'' : Db} {cn cn' : Conn Db} {u : Unit} {id : String}

theorem Provides.congr (h : Provides py id db db') (hs : db''.stores = db'.stores) :
    Provides py id db db'' := by
  cases h with
  | known h => exact .known (hs.trans h)
  | created hid hnew h => exact .created hid hnew (hs.trans h)
  | replaced hq hun hid hnew h => exact .replaced hq hun hid hnew (hs.trans h)

/-- A row that is there stays, unless it is a placeholder that nothing refers to. -/
theorem Provides.keeps (h : Provides py id db db') {q : Store} (hq : q ∈ db.stores.rows) :
    q ∈ db'.stores.rows ∨ Placeholder py db id q ∧ Unreferenced db q.id := by
  have hne : ∀ {row : Store}, row.id = id → db.stores.get? id = none → key q ≠ key row := by
    intro row hid hnew he
    have hsome := Table.get?_of_mem hq
    rw [he, show key row = id from hid, hnew] at hsome
    cases hsome
  cases h with
  | known h => exact .inl (h ▸ hq)
  | created hid hnew h =>
    rw [h]
    exact .inl (Table.mem_put.2 (.inr ⟨hq, hne hid hnew⟩))
  | @replaced q' row hq' hun hid hnew h =>
    by_cases he : q.id = q'.id
    · have hrow : q = q' := by
        have h1 := Table.get?_of_mem hq
        rw [show key q = key q' from he, Table.get?_of_mem hq'.row] at h1
        exact (Option.some.inj h1).symm
      exact .inr (hrow ▸ ⟨hq', hun⟩)
    · rw [h]
      have hk : q'.id ≠ key q := Ne.symm he
      refine .inl (Table.mem_put.2 (.inr ⟨?_, hne hid hnew⟩))
      rw [Table.mem_rows_iff, Table.get?_erase, if_neg hk]
      exact Table.get?_of_mem hq

/-! ## The store -/

theorem insertStore_provides {r : Store} (hid : r.id = id) (h : db.insertStore r = .ok db') :
    Provides py id db db' := by
  obtain ⟨hnew, -, rfl⟩ := insertStore_ok h
  exact .created hid (hid ▸ hnew) rfl

/-- The owner of the derived code. -/
theorem placeholder_of_owner {owner : String} {q : Store}
    (hown : ((db.stores.rows.find? (·.code = derivedCode py id)).map Store.id).filter (· ≠ "") =
      some owner) (hq : db.stores.get? owner = some q) (hauto : isAutoStore q = true) :
    Placeholder py db id q := by
  obtain ⟨hmap, -⟩ := Option.filter_eq_some_iff.1 hown
  obtain ⟨x, hx, rfl⟩ := Option.map_eq_some_iff.1 hmap
  have hrow := List.mem_of_find?_eq_some hx
  have hcode := List.find?_some hx
  rw [show x.id = key x from rfl, Table.get?_of_mem hrow] at hq
  cases hq
  exact ⟨hrow, hauto, of_decide_eq_true hcode⟩

theorem createStore_provides (hnew : cn.work.stores.get? id = none)
    (h : (createStore py env id).Yields F cn (.ok u) cn') : Provides py id cn.work cn'.work := by
  unfold createStore at h
  extract_lets rawId suffix targetCode autoStore aliasCode at h
  have h1 := yields_select_bind h
  split at h1
  · exact insertStore_provides rfl (yields_execute_ok h1).1
  rename_i owner hown
  have h2 := yields_select_bind h1
  split at h2
  · rename_i q hq
    split at h2
    · rename_i hauto
      obtain ⟨w, hw, h3⟩ := yields_execute_bind h2
      obtain ⟨hdev, hled, hbal, hrefs, rfl⟩ := deleteStore_ok hw
      obtain ⟨-, -, hok⟩ := insertStore_ok (yields_execute_ok h3).1
      exact .replaced (placeholder_of_owner hown hq hauto) ⟨hdev, hled, hbal, hrefs⟩ rfl hnew
        (by rw [hok])
    · exact insertStore_provides rfl (yields_execute_ok h2).1
  · exact insertStore_provides rfl (yields_execute_ok h2).1

theorem provisionStore_provides (h : (provisionStore py env c id).Yields F cn (.ok u) cn') :
    Provides py id cn.work cn'.work := by
  obtain ⟨known, c1, h1, h2⟩ := yields_bind_ok h
  unfold isKnown at h1
  split at h1
  · obtain ⟨hk, rfl⟩ := yields_pure h1
    cases hk
    rw [(yields_pure h2).2]
    exact .known rfl
  · obtain ⟨rfl, rfl⟩ := yields_select_ok h1
    split at h2
    · rw [(yields_pure h2).2]
      exact .known rfl
    · rename_i hk
      exact createStore_provides (by simpa using hk) h2

/-! ## The rest of the item -/

/-- `db'` has the stores and products of `db`. -/
structure Kept (db db' : Db) : Prop where
  stores : db'.stores = db.stores
  products : db'.products = db.products

theorem Kept.refl (db : Db) : Kept db db := ⟨rfl, rfl⟩

theorem Kept.trans (h : Kept db db') (h' : Kept db' db'') : Kept db db'' :=
  ⟨h'.stores.trans h.stores, h'.products.trans h.products⟩

/-- What ingesting `p` may do to the stores and products. -/
structure Provisions (py : Python) (p : TransactionPayload) (db db' : Db) : Prop where
  valid : validatePayload py p = none
  store : Provides py p.storeId db db'
  product : db'.products = db.products ∨
    ∃ row : Product, row.id = p.productId ∧ db'.products = db.products.put row

/-- The product that is created has the id of the item. -/
theorem provisionProduct_provides (h : (provisionProduct env c id).Yields F cn (.ok u) cn') :
    cn'.work.stores = cn.work.stores ∧ (cn'.work.products = cn.work.products ∨
      ∃ row : Product, row.id = id ∧ cn'.work.products = cn.work.products.put row) := by
  let R : Db → Db → Prop := fun db db' => db'.stores = db.stores ∧ (db'.products = db.products ∨
    ∃ row : Product, row.id = id ∧ db'.products = db.products.put row)
  have hcreate : ∀ cn cn', (createProduct env id).Yields F cn (.ok u) cn' → R cn.work cn'.work := by
    intro cn cn' hc
    have h1 := yields_select_bind hc
    obtain ⟨-, -, hw⟩ := insertProduct_ok (yields_execute_ok h1).1
    rw [hw]
    exact ⟨rfl, .inr ⟨_, rfl, rfl⟩⟩
  exact isKnown_rel (R := R) (fun _ => ⟨rfl, .inl rfl⟩) hcreate h

theorem provisionDevice_kept {storeId : String}
    (h : (provisionDevice c id storeId).Yields F cn (.ok u) cn') : Kept cn.work cn'.work := by
  have hins : ∀ r db db', Db.insertDevice db r = .ok db' → Kept db db' := by
    intro r db db' hi
    obtain ⟨-, -, rfl⟩ := insertDevice_ok hi
    exact ⟨rfl, rfl⟩
  exact isKnown_rel Kept.refl (fun _ _ => execute_rel (hins _)) h

theorem reject_kept {reason : String} {ret : Returned}
    (h : (reject env p reason).Yields F cn (.ok ret) cn') : Kept cn.work cn'.work := by
  obtain ⟨w, hw, h1⟩ := yields_execute_bind h
  obtain ⟨-, rfl⟩ := insertReceipt_ok hw
  rw [(yields_pure h1).2]
  exact ⟨rfl, rfl⟩

theorem addTransactionToDayBook_kept {tx : InventoryTransaction} {e : DayBookEntry}
    (h : (addTransactionToDayBook env tx).Yields F cn (.ok e) cn') : Kept cn.work cn'.work := by
  obtain ⟨b, c1, h1, h2⟩ := yields_bind_ok h
  have hget : Kept cn.work c1.work := by
    have h3 := yields_select_bind h1
    split at h3
    · rw [(yields_pure h3).2]
      exact .refl _
    · obtain ⟨w, hw, h4⟩ := yields_execute_bind h3
      obtain ⟨-, rfl⟩ := insertDayBook_ok hw
      rw [(yields_pure h4).2]
      exact ⟨rfl, rfl⟩
  have h3 := yields_select_bind h2
  split at h3
  · rw [(yields_pure h3).2]
    exact hget
  · obtain ⟨w, hw, h4⟩ := yields_execute_bind h3
    obtain ⟨-, -, -, rfl⟩ := insertDayBookEntry_ok hw
    obtain ⟨_, c2, h5, h6⟩ := yields_bind_ok h4
    have h7 := yields_select_bind h5
    have hset := Except.ok.inj (yields_execute_ok h7).1
    rw [(yields_pure h6).2, ← hset]
    exact ⟨hget.stores, hget.products⟩

theorem upsertStockBalance_kept {bid : String} {k : StockKey} {d : Int} {now : DateTime}
    (h : db.upsertStockBalance bid k d now = .ok db') : Kept db db' := by
  simp only [Db.upsertStockBalance] at h
  repeat' split at h
  all_goals cases h
  · exact ⟨rfl, rfl⟩
  · exact ⟨rfl, rfl⟩

theorem insertMovement_kept {ret : Returned}
    (h : (insertMovement env p).Yields F cn (.ok ret) cn') : Kept cn.work cn'.work := by
  obtain ⟨w1, hw1, h1⟩ := yields_execute_bind h
  obtain ⟨e, c2, h2, h3⟩ := yields_bind_ok h1
  obtain ⟨w3, hw3, h4⟩ := yields_execute_bind h3
  obtain ⟨w4, hw4, h5⟩ := yields_execute_bind h4
  obtain ⟨-, rfl⟩ := insertLedger_ok hw1
  obtain ⟨-, rfl⟩ := insertReceipt_ok hw4
  rw [(yields_pure h5).2]
  have hbook := addTransactionToDayBook_kept h2
  have hmoved := hbook.trans (upsertStockBalance_kept hw3)
  exact ⟨hmoved.stores, hmoved.products⟩

theorem checkAndInsert_kept {ret : Returned}
    (h : (checkAndInsert env p).Yields F cn (.ok ret) cn') : Kept cn.work cn'.work := by
  unfold checkAndInsert at h
  split at h
  · have h1 := yields_select_bind h
    split at h1
    · exact reject_kept h1
    · exact insertMovement_kept h1
  · exact insertMovement_kept h

theorem ledgerFirst_kept {row : InventoryTransaction} {r : SyncReceipt}
    (h : (ledgerFirst env c p row).Yields F cn (.ok r) cn') : Kept cn.work cn'.work := by
  obtain ⟨_, c1, h1, h2⟩ := yields_bind_ok h
  obtain ⟨o, c2, h3, h4⟩ := yields_bind_ok h2
  obtain ⟨rfl, -⟩ := lookupReceipt_ok h3
  have hedit : Kept cn.work c2.work := by
    unfold editLedgerRow at h1
    split at h1
    · obtain ⟨w, hw, h5⟩ := yields_execute_bind h1
      have hset := Except.ok.inj (yields_execute_ok h5).1
      have hmoved := upsertStockBalance_kept hw
      rw [← hset]
      exact ⟨hmoved.stores, hmoved.products⟩
    · rw [(yields_pure h1).2]
      exact .refl _
  split at h4
  · split at h4
    · rw [(yields_pure h4).2]
      exact hedit
    · obtain ⟨w, hw, h5⟩ := yields_execute_bind h4
      cases hw
      rw [(yields_pure h5).2]
      exact ⟨hedit.stores, hedit.products⟩
  · obtain ⟨w, hw, h5⟩ := yields_execute_bind h4
    obtain ⟨-, rfl⟩ := insertReceipt_ok hw
    rw [(yields_pure h5).2]
    exact ⟨hedit.stores, hedit.products⟩

theorem ingestNew_provides {ret : Returned}
    (h : (ingestNew py env c p).Yields F cn (.ok ret) cn') :
    Kept cn.work cn'.work ∨ Provisions py p cn.work cn'.work := by
  unfold ingestNew at h
  split at h
  · exact .inl (reject_kept h)
  · rename_i hvalid
    obtain ⟨_, c1, h1, h2⟩ := yields_bind_ok h
    obtain ⟨_, c2, h3, h4⟩ := yields_bind_ok h2
    obtain ⟨_, c3, h5, h6⟩ := yields_bind_ok h4
    obtain ⟨hs, hp⟩ := provisionProduct_provides h3
    have hrest := (provisionDevice_kept h5).trans (checkAndInsert_kept h6)
    refine .inr ⟨hvalid, (provisionStore_provides h1).congr (hrest.stores.trans hs), ?_⟩
    rw [hrest.products, ← (provisionStore_goods h1).1]
    exact hp

theorem retryStale_provides {ret : Returned}
    (h : (retryStale py env c p).Yields F cn (.ok ret) cn') :
    Kept cn.work cn'.work ∨ Provisions py p cn.work cn'.work := by
  obtain ⟨w, hw, h1⟩ := yields_execute_bind h
  cases hw
  rcases ingestNew_provides h1 with hs | hp
  · exact .inl ⟨hs.stores, hs.products⟩
  · refine .inr ⟨hp.valid, ?_, hp.product⟩
    cases hp.store with
    | known h => exact .known h
    | created hid hnew h => exact .created hid hnew h
    | replaced hq hun hid hnew h =>
      exact .replaced ⟨hq.row, hq.name, hq.code⟩
        ⟨hun.devices, hun.ledger, hun.balances, hun.others⟩ hid hnew h

theorem impl_provides {cn' : Conn Db} {ret : Returned}
    (h : (ingestTransactionImpl py env p c).Yields F ⟨db, db⟩ (.ok ret) cn') :
    Kept db cn'.work ∨ Provisions py p db cn'.work := by
  obtain ⟨o, c1, h1, h2⟩ := yields_bind_ok h
  obtain ⟨rfl, -⟩ := selectLedgerRow_ok h1
  cases o with
  | some row =>
    obtain ⟨r, c2, h3, h4⟩ := yields_bind_ok h2
    rw [(yields_pure h4).2]
    exact .inl (ledgerFirst_kept h3)
  | none =>
    obtain ⟨o, c2, h3, h4⟩ := yields_bind_ok h2
    obtain ⟨rfl, -⟩ := lookupReceipt_ok h3
    cases o with
    | none => exact ingestNew_provides h4
    | some r =>
      simp only at h4
      split at h4
      · rw [(yields_pure h4).2]
        exact .inl (.refl _)
      split at h4
      · exact retryStale_provides h4
      obtain ⟨a, c3, h5, h6⟩ := yields_bind_ok h4
      obtain ⟨rfl, -⟩ := staleCheck_work h5
      split at h6
      · exact retryStale_provides h6
      · rw [(yields_pure h6).2]
        exact .inl (.refl _)
      · rw [(yields_pure h6).2]
        exact .inl (.refl _)

theorem handleError_kept {s : Submission} {exc : Exn} {res : Except Exn SyncReceipt}
    (h : (handleError s exc).Yields F db res db') : Kept db db' := by
  have hkeep : Prog.Keeps (Kept db) (handleError s exc) := by
    refine handleError_keeps_of (fun f hf x x' hx hok => ?_) s exc
    cases hf with
    | insertReceipt r =>
      obtain ⟨-, rfl⟩ := insertReceipt_ok hok
      exact ⟨hx.stores, hx.products⟩
    | updateReceipt r =>
      cases hok
      exact ⟨hx.stores, hx.products⟩
  exact hkeep F db res db' h (.refl db)

/-- **What a turn does to the stores and products**, whatever fails. -/
theorem turn_provides {k : IngestPrefetch} {s : Submission}
    {res : Except Exn (SyncReceipt × IngestPrefetch)}
    (h : (ingestItem py k s).Yields F db res db') :
    Kept db db' ∨ Provisions py s.payload db db' := by
  rcases yields_bind h with ⟨e, h1, -⟩ | ⟨o, db1, h1, h2⟩
  · obtain ⟨r, he, -⟩ := yields_attempt h1
    cases he
  obtain ⟨o, ho, h3⟩ := yields_attempt h1
  cases ho
  rcases yields_session h3 with ⟨e, rfl, rfl, -⟩ | ⟨a, cn, rfl, h4, rfl⟩
  · rcases yields_bind h2 with ⟨e', h5, -⟩ | ⟨r, db2, h5, h6⟩
    · exact .inl (handleError_kept h5)
    · rw [(yields_pure h6).2]
      exact .inl (handleError_kept h5)
  · cases a with
    | live r =>
      rw [(yields_pure h2).2]
      exact impl_provides h4
    | expired =>
      rw [(yields_throw h2).2]
      exact impl_provides h4

/-! ## The states -/

/-- No row that the request makes has an empty id; `uuid4` draws none. -/
def CatalogueRequest.Identified : CatalogueRequest → Prop
  | .createStore _ uuid _ => uuid ≠ ""
  | .pushProducts ps => ∀ p ∈ ps, p.id ≠ ""
  | _ => True

/-- What batches and requests make of the migrated database, as in `Reachable`. -/
inductive Supplied (py : Python) : CentralDb → Prop
  | start {c : CentralDb} (h : c.db = .empty) : Supplied py c
  | batch {c : CentralDb} {subs : List Submission} {res : Except Exn (List SyncReceipt)} {db : Db}
    {F : Exn → Prop} (h : Supplied py c) (hr : (ingestBatch py subs).Yields F c.db res db)
    (stamp : String → DateTime) : Supplied py (c.ingested stamp db)
  | request {c : CentralDb} (h : Supplied py c) (now : DateTime) (r : CatalogueRequest)
    (hr : r.Identified) : Supplied py (c.handle now r)

theorem Supplied.reachable {c : CentralDb} (h : Supplied py c) : Reachable py c := by
  induction h with
  | start h => exact .start h
  | batch _ hr stamp ih => exact .batch ih hr stamp
  | request _ now r _ ih => exact .request ih now r

/-- Every store and product has an id. -/
structure Named (db : Db) : Prop where
  stores : ∀ q ∈ db.stores.rows, q.id ≠ ""
  products : ∀ q ∈ db.products.rows, q.id ≠ ""

theorem Named.congr (h : Named db) (hk : Kept db db') : Named db' where
  stores := by
    rw [hk.stores]
    exact h.stores
  products := by
    rw [hk.products]
    exact h.products

theorem forall_mem_put {ρ κ : Type} [Keyed ρ κ] [DecidableEq κ] {t : Table ρ} {r : ρ}
    {P : ρ → Prop} (h : ∀ q ∈ t.rows, P q) (hr : P r) : ∀ q ∈ (t.put r).rows, P q := by
  intro q hq
  rcases Table.mem_put.1 hq with rfl | ⟨hq, -⟩
  · exact hr
  · exact h q hq

theorem Provides.named (h : Provides py id db db') (hid : id ≠ "")
    (hdb : ∀ q ∈ db.stores.rows, q.id ≠ "") : ∀ q ∈ db'.stores.rows, q.id ≠ "" := by
  cases h with
  | known h =>
    rw [h]
    exact hdb
  | created hrow _ h =>
    rw [h]
    exact forall_mem_put hdb (hrow ▸ hid)
  | replaced _ _ hrow _ h =>
    rw [h]
    exact forall_mem_put (fun x hx => hdb x (List.mem_of_mem_filter hx)) (hrow ▸ hid)

theorem strip_empty : strip "" = "" := by decide

/-- A valid payload names its store and its product. -/
theorem names_of_valid (h : validatePayload py p = none) : p.storeId ≠ "" ∧ p.productId ≠ "" := by
  unfold validatePayload at h
  split at h
  · cases h
  split at h
  · cases h
  split at h
  · cases h
  rename_i hstore hproduct
  exact ⟨fun he => hstore (he ▸ strip_empty), fun he => hproduct (he ▸ strip_empty)⟩

theorem ingestBatch_named (subs : List Submission) : Prog.Keeps Named (ingestBatch py subs) := by
  refine ingestBatch_keeps_of (fun k s F db res db' h hdb => ?_) subs
  rcases turn_provides h with hk | hp
  · exact hdb.congr hk
  · obtain ⟨hstore, hproduct⟩ := names_of_valid hp.valid
    refine ⟨hp.store.named hstore hdb.stores, ?_⟩
    rcases hp.product with hsame | ⟨row, hrow, hput⟩
    · rw [hsame]
      exact hdb.products
    · rw [hput]
      exact forall_mem_put hdb.products (hrow ▸ hproduct)

theorem storeId_identified {r : CreateStoreRequest} {uuid : String} (h : uuid ≠ "") :
    r.storeId uuid ≠ "" := by
  unfold CreateStoreRequest.storeId
  split
  · exact h
  · split
    · exact h
    · rename_i hcond
      exact fun he => hcond (.inl he)

/-- A row that a table has may be written. -/
theorem id_ne_of_isSome {ρ : Type} [Keyed ρ String] {t : Table ρ} {k : String}
    (h : ∀ q ∈ t.rows, key q ≠ "") (hk : (t.get? k).isSome) : k ≠ "" := by
  obtain ⟨q, hq⟩ := Option.isSome_iff_exists.1 hk
  rw [← Table.key_of_get? hq]
  exact h q (Table.mem_of_get? hq)

theorem handle_named {c : CentralDb} {now : DateTime} {r : CatalogueRequest} (hr : r.Identified)
    (h : Named c.db) : Named (c.handle now r).db := by
  refine CentralDb.handle_keeps (r := r) (fun db db' f hf hdb hok => ?_) h
  cases hf with
  | insertProduct hreq hp q hq =>
    obtain ⟨-, -, rfl⟩ := insertProduct_ok hok
    subst hreq
    exact ⟨hdb.stores, forall_mem_put hdb.products (hq ▸ hr _ hp)⟩
  | updateProduct q hq =>
    obtain ⟨-, rfl⟩ := updateProduct_ok hok
    exact ⟨hdb.stores, forall_mem_put hdb.products (id_ne_of_isSome hdb.products hq)⟩
  | insertStore hreq q hq =>
    obtain ⟨-, -, rfl⟩ := insertStore_ok hok
    subst hreq
    exact ⟨forall_mem_put hdb.stores (hq ▸ storeId_identified hr), hdb.products⟩
  | updateStore q hq =>
    obtain ⟨-, rfl⟩ := updateStore_ok hok
    exact ⟨forall_mem_put hdb.stores (id_ne_of_isSome hdb.stores hq), hdb.products⟩
  | insertBalance b =>
    obtain ⟨-, -, rfl⟩ := insertBalance_ok hok
    exact ⟨hdb.stores, hdb.products⟩

theorem Supplied.named {c : CentralDb} (h : Supplied py c) : Named c.db := by
  induction h with
  | start h =>
    rw [h]
    exact ⟨List.forall_mem_nil _, List.forall_mem_nil _⟩
  | batch _ hr _ ih => exact ingestBatch_named _ _ _ _ _ hr ih
  | request _ now r hr ih => exact handle_named hr ih

/-! ## Acceptance -/

/-- What is drawn from `uuid4` is not in use yet. -/
structure Unused (py : Python) (env : Env) (db : Db) (p : TransactionPayload) : Prop where
  code : ∀ q ∈ db.stores.rows, q.code ≠
    py.caseMap.upper (takeFirst 12 (derivedCode py p.storeId) ++ "-" ++ env.storeHex)
  sku : ∀ q ∈ db.products.rows, q.sku ≠
    "OFFLINE-" ++ takeFirst 70 (takeFirst 80 p.productId) ++ "-" ++ env.productHex

theorem eval_insertStore {r : Store} (hnew : cn.work.stores.get? r.id = none)
    (hcode : ∀ q ∈ cn.work.stores.rows, q.code ≠ r.code) :
    ∃ w, (execute (·.insertStore r)).eval cn = (.ok (), ⟨cn.base, w⟩) ∧
      (w.stores.get? r.id).isSome := by
  have hok : cn.work.insertStore r = .ok { cn.work with stores := cn.work.stores.put r } := by
    have hany : cn.work.stores.rows.any (fun q => q.code = r.code) = false := by simpa using hcode
    simp [Db.insertStore, hnew, hany]
  refine ⟨_, eval_execute_ok hok, ?_⟩
  show ((cn.work.stores.put r).get? (key r)).isSome
  rw [Table.get?_put_self]
  rfl

theorem deleteStore_of_unreferenced (h : Unreferenced db id) : ∃ w, db.deleteStore id = .ok w ∧
    w.stores = db.stores.erase id := by
  have hdev : db.devices.rows.any (fun d => d.storeId = id) = false := by simpa using h.devices
  have hled : db.ledger.rows.any (fun r => r.storeId = id) = false := by simpa using h.ledger
  have hbal : db.balances.rows.any (fun b => b.stock.storeId = id) = false := by
    simpa using h.balances
  simp [Db.deleteStore, hdev, hled, hbal, h.others]

/-- A store with the derived code, if there is one, is its owner. -/
theorem owner_of_code (hnamed : Named db) (hcodes : db.stores.Unique Store.code) {q : Store}
    (hq : q ∈ db.stores.rows) (hcode : q.code = derivedCode py id) :
    ((db.stores.rows.find? (·.code = derivedCode py id)).map Store.id).filter (· ≠ "") =
      some q.id := by
  have hfind : db.stores.rows.find? (·.code = derivedCode py id) = some q := by
    obtain ⟨x, hx⟩ := Option.isSome_iff_exists.1
      (List.find?_isSome.2 ⟨q, hq, decide_eq_true hcode⟩ :
        (db.stores.rows.find? (·.code = derivedCode py id)).isSome)
    have hxcode := List.find?_some hx
    rw [hx, hcodes x (List.mem_of_find?_eq_some hx) q hq
      ((of_decide_eq_true hxcode).trans hcode.symm)]
  rw [hfind]
  simpa using hnamed.stores q hq

/-- **The store is created**, under one code or the other. -/
theorem eval_createStore (hnamed : Named cn.work) (hcodes : cn.work.stores.Unique Store.code)
    (hnew : cn.work.stores.get? id = none)
    (halias : ∀ q ∈ cn.work.stores.rows, q.code ≠
      py.caseMap.upper (takeFirst 12 (derivedCode py id) ++ "-" ++ env.storeHex))
    (hun : ∀ q, Placeholder py cn.work id q → Unreferenced cn.work q.id) :
    ∃ w, (createStore py env id).eval cn = (.ok (), ⟨cn.base, w⟩) ∧ (w.stores.get? id).isSome := by
  unfold createStore
  extract_lets rawId suffix targetCode autoStore aliasCode
  rw [eval_select_bind]
  by_cases hfree : ∀ q ∈ cn.work.stores.rows, q.code ≠ targetCode
  · have hnone : cn.work.stores.rows.find? (·.code = targetCode) = none :=
      List.find?_eq_none.2 fun q hq => by simpa using hfree q hq
    rw [hnone]
    exact eval_insertStore (r := autoStore) hnew hfree
  simp only [not_forall, not_not] at hfree
  obtain ⟨q, hq, hcode⟩ := hfree
  have hown : ((cn.work.stores.rows.find? (·.code = targetCode)).map Store.id).filter (· ≠ "") =
      some q.id := owner_of_code hnamed hcodes hq hcode
  have hget : cn.work.stores.get? q.id = some q := Table.get?_of_mem hq
  rw [hown]
  simp only
  rw [eval_select_bind, hget]
  simp only
  split
  · rename_i hauto
    obtain ⟨w, hw, hstores⟩ := deleteStore_of_unreferenced (hun q ⟨hq, hauto, hcode⟩)
    rw [eval_execute_bind hw]
    refine eval_insertStore (r := autoStore) ?_ ?_
    · show w.stores.get? id = none
      rw [hstores, Table.get?_erase]
      split
      · rfl
      · exact hnew
    · -- the code was the placeholder's only
      intro x hx he
      have hx' : x ∈ (cn.work.stores.erase q.id).rows := hstores ▸ hx
      obtain ⟨hx1, hx2⟩ := List.mem_filter.1 hx'
      have hxq := hcodes x hx1 q hq (he.trans hcode.symm)
      rw [hxq] at hx2
      exact absurd rfl (of_decide_eq_true hx2)
  · exact eval_insertStore (r := { autoStore with code := aliasCode }) hnew halias

theorem eval_provisionStore (hcached : c.any (id ∈ ·.storeIds) = true → (cn.work.stores.get? id).isSome)
    (hnamed : Named cn.work) (hcodes : cn.work.stores.Unique Store.code)
    (hnew : cn.work.stores.get? id = none)
    (halias : ∀ q ∈ cn.work.stores.rows, q.code ≠
      py.caseMap.upper (takeFirst 12 (derivedCode py id) ++ "-" ++ env.storeHex))
    (hun : ∀ q, Placeholder py cn.work id q → Unreferenced cn.work q.id) :
    ∃ w, (provisionStore py env c id).eval cn = (.ok (), ⟨cn.base, w⟩) ∧
      (w.stores.get? id).isSome := by
  have hunknown : (c.any (id ∈ ·.storeIds) || (cn.work.stores.get? id).isSome) = false := by
    rw [hnew] at hcached ⊢
    simpa using hcached
  unfold provisionStore
  rw [eval_bind_ok (eval_isKnown_or ..), hunknown]
  exact eval_createStore hnamed hcodes hnew halias hun

/-- **The product is created**, under one SKU or the other. -/
theorem eval_provisionProduct
    (hcached : c.any (id ∈ ·.productIds) = true → (cn.work.products.get? id).isSome)
    (hnamed : ∀ q ∈ cn.work.products.rows, q.id ≠ "")
    (hsku : ∀ q ∈ cn.work.products.rows, q.sku ≠
      "OFFLINE-" ++ takeFirst 70 (takeFirst 80 id) ++ "-" ++ env.productHex) :
    ∃ w, (provisionProduct env c id).eval cn = (.ok (), ⟨cn.base, w⟩) ∧
      (w.products.get? id).isSome := by
  unfold provisionProduct
  rw [eval_bind_ok (eval_isKnown_or ..)]
  cases hget : cn.work.products.get? id with
  | some q =>
    simp only [Option.isSome_some, Bool.or_true, if_true]
    exact ⟨cn.work, rfl, by rw [hget]; rfl⟩
  | none =>
    have hnot : c.any (id ∈ ·.productIds) = false := by
      rw [hget] at hcached
      simpa using hcached
    rw [hnot]
    simp only [Option.isSome_none, Bool.or_false, Bool.false_eq_true, if_false]
    unfold createProduct
    extract_lets skuToken targetSku
    rw [eval_select_bind]
    extract_lets sku
    have hfree : ∀ q ∈ cn.work.products.rows, q.sku ≠ sku := by
      intro q hq he
      by_cases howned : ((((cn.work.products.rows.find? (·.sku = targetSku)).map Product.id).filter
          (· ≠ "")).isSome)
      · exact hsku q hq (he.trans (if_pos howned))
      · -- an owner would have an id
        have htarget : q.sku = targetSku := he.trans (if_neg howned)
        obtain ⟨x, hx⟩ := Option.isSome_iff_exists.1
          (List.find?_isSome.2 ⟨q, hq, decide_eq_true htarget⟩ :
            (cn.work.products.rows.find? (·.sku = targetSku)).isSome)
        have hid := hnamed x (List.mem_of_find?_eq_some hx)
        simp [hx, hid] at howned
    let row : Product := ⟨id, sku, "OFFLINE-PROD-" ++ takeFirst 70 skuToken, "General", "pcs", true⟩
    have hany : cn.work.products.rows.any (fun q => q.sku = sku) = false := by simpa using hfree
    have hok : cn.work.insertProduct row =
        .ok { cn.work with products := cn.work.products.put row } := by
      simp [Db.insertProduct, row, hget, hany]
    refine ⟨_, eval_execute_ok hok, ?_⟩
    show ((cn.work.products.put row).get? (key row)).isSome
    rw [Table.get?_put_self]
    rfl

theorem eval_provisionDevice {storeId : String}
    (hcached : c.any (id ∈ ·.deviceIds) = true → (cn.work.devices.get? id).isSome)
    (hstore : (cn.work.stores.get? storeId).isSome) :
    ∃ w, (provisionDevice c id storeId).eval cn = (.ok (), ⟨cn.base, w⟩) ∧
      (w.devices.get? id).isSome := by
  unfold provisionDevice
  rw [eval_bind_ok (eval_isKnown_or ..)]
  cases hget : cn.work.devices.get? id with
  | some q =>
    simp only [Option.isSome_some, Bool.or_true, if_true]
    exact ⟨cn.work, rfl, by rw [hget]; rfl⟩
  | none =>
    have hnot : c.any (id ∈ ·.deviceIds) = false := by
      rw [hget] at hcached
      simpa using hcached
    rw [hnot]
    simp only [Option.isSome_none, Bool.or_false, Bool.false_eq_true, if_false]
    let row : Device := ⟨id, storeId, "Auto Device (" ++ takeFirst 12 id ++ ")", true⟩
    have hok : cn.work.insertDevice row =
        .ok { cn.work with devices := cn.work.devices.put row } := by
      simp [Db.insertDevice, row, hget, Option.isNone_eq_false_iff.2 hstore]
    refine ⟨_, eval_execute_ok hok, ?_⟩
    show ((cn.work.devices.put row).get? (key row)).isSome
    rw [Table.get?_put_self]
    rfl

/-! ## The item -/

/-- The store, product and device that the cache lists exist. -/
structure Listed (c : Option IngestPrefetch) (db : Db) (p : TransactionPayload) : Prop where
  store : c.any (p.storeId ∈ ·.storeIds) = true → (db.stores.get? p.storeId).isSome
  product : c.any (p.productId ∈ ·.productIds) = true → (db.products.get? p.productId).isSome
  device : c.any (p.deviceId ∈ ·.deviceIds) = true → (db.devices.get? p.deviceId).isSome

theorem Honest.listed {k : IngestPrefetch} (h : Honest k db p) : Listed (some k) db p where
  store hl := h.store (by simpa using hl)
  product hl := h.product (by simpa using hl)
  device hl := h.device (by simpa using hl)

/-- The provisioning of a payload has no reason to fail. -/
structure Providable (py : Python) (env : Env) (db : Db) (p : TransactionPayload) : Prop where
  named : Named db
  codes : db.stores.Unique Store.code
  unknown : db.stores.get? p.storeId = none
  unused : Unused py env db p
  unreferenced : ∀ q, Placeholder py db p.storeId q → Unreferenced db q.id

/-- **A new payload is provisioned, and inserted**. -/
theorem eval_ingestNew_accepts (hc : Listed c cn.work p) (h : Providable py env cn.work p)
    (hvalid : validatePayload py p = none) (hl : cn.work.ledger.get? p.transactionId = none)
    (hr : cn.work.receipts.get? p.transactionId = none) (ha : Admits cn.work p) :
    ∃ w, (ingestNew py env c p).eval cn =
      (.ok (.live (makeAcceptedReceipt env p.transactionId)), ⟨cn.base, w⟩) ∧
      Inserted env p cn.work w := by
  obtain ⟨w1, h1, hs1⟩ := eval_provisionStore (c := c) hc.store h.named h.codes h.unknown
    h.unused.code h.unreferenced
  have hf1 := provisionStore_frame (yields_of_eval (F := noFault) h1)
  obtain ⟨hp1, hd1⟩ := provisionStore_goods (yields_of_eval (F := noFault) h1)
  have hnamed1 : ∀ q ∈ w1.products.rows, q.id ≠ "" := by
    rw [hp1]
    exact h.named.products
  have hsku1 : ∀ q ∈ w1.products.rows, q.sku ≠
      "OFFLINE-" ++ takeFirst 70 (takeFirst 80 p.productId) ++ "-" ++ env.productHex := by
    rw [hp1]
    exact h.unused.sku
  obtain ⟨w2, h2, hs2⟩ : ∃ w, (provisionProduct env c p.productId).eval ⟨cn.base, w1⟩ =
      (.ok (), ⟨cn.base, w⟩) ∧ (w.products.get? p.productId).isSome :=
    eval_provisionProduct (fun hl => by rw [hp1]; exact hc.product hl) hnamed1 hsku1
  have hf2 := provisionProduct_frame (yields_of_eval (F := noFault) h2)
  have hst2 := (provisionProduct_provides (yields_of_eval (F := noFault) h2)).1
  have hd2 := provisionProduct_devices (yields_of_eval (F := noFault) h2)
  have hstore2 : (w2.stores.get? p.storeId).isSome := by
    rw [show w2.stores = w1.stores from hst2]
    exact hs1
  obtain ⟨w3, h3, hs3⟩ : ∃ w, (provisionDevice c p.deviceId p.storeId).eval ⟨cn.base, w2⟩ =
      (.ok (), ⟨cn.base, w⟩) ∧ (w.devices.get? p.deviceId).isSome :=
    eval_provisionDevice
      (fun hl => by rw [show w2.devices = cn.work.devices from hd2.trans hd1]; exact hc.device hl)
      hstore2
  have hf3 := provisionDevice_frame (yields_of_eval (F := noFault) h3)
  have hk3 := provisionDevice_kept (yields_of_eval (F := noFault) h3)
  have hf : Frame cn.work w3 := hf1.trans (hf2.trans hf3)
  have hready : Ready py w3 p := by
    refine ⟨hvalid, ?_, ?_, hs3⟩
    · rw [show w3.stores = w2.stores from hk3.stores]
      exact hstore2
    · rw [show w3.products = w2.products from hk3.products]
      exact hs2
  have hquantity : w3.quantity = cn.work.quantity := funext (quantity_congr hf.balances)
  obtain ⟨w, hw, -, hi⟩ := eval_checkAndInsert_admits env ⟨cn.base, w3⟩ hready
    (by rw [hf.ledger]; exact hl) (by rw [hf.receipts]; exact hr) (by
      unfold Admits
      rw [hquantity]
      exact ha)
  refine ⟨w, ?_, ?_⟩
  · unfold ingestNew
    rw [hvalid]
    simp only
    rw [eval_bind_ok h1, eval_bind_ok h2, eval_bind_ok h3, hw]
  · refine ⟨hl, ?_, fun q => ?_, fun q => ?_, fun q => ?_⟩
    · rw [hi.ledger, hf.ledger]
    · rw [hi.quantity, hquantity]
    · rw [hi.rows, hf.balances]
    · rw [hi.receipts, hf.receipts]

theorem staleCheck_of_stale {r : SyncReceipt} (h : Stale cn.work p r) :
    (staleDomainRejectionShouldRetry r p).eval cn = (.ok (.answered true), cn) := by
  obtain ⟨n, hn, h0, hge, hne⟩ := h
  unfold staleDomainRejectionShouldRetry
  simp only [hn]
  rw [if_neg (by omega), eval_bind_ok (eval_attempt ..)]
  simp only [eval_select]
  rw [eval_pure]
  simp [hge, hne]

theorem Providable.deleteReceipt (h : Providable py env db p) (tx : String) :
    Providable py env (db.deleteReceipt tx) p := by
  refine ⟨⟨h.named.stores, h.named.products⟩, h.codes, h.unknown, ⟨h.unused.code, h.unused.sku⟩,
    fun q hq => ?_⟩
  have hun := h.unreferenced q ⟨hq.row, hq.name, hq.code⟩
  exact ⟨hun.devices, hun.ledger, hun.balances, hun.others⟩

/-- A payload that neither the ledger nor a receipt answers is accepted. -/
theorem eval_impl_accepts (hread : Reads c db p.transactionId) (hc : Listed c db p)
    (h : Providable py env db p) (hp : Provisioned py db p) (ha : Admits db p) :
    ∃ w, (ingestTransactionImpl py env p c).eval ⟨db, db⟩ =
      (.ok (.live (makeAcceptedReceipt env p.transactionId)), ⟨db, w⟩) ∧ Inserted env p db w := by
  unfold ingestTransactionImpl
  rw [eval_bind_ok hread.row, hp.ledger]
  simp only
  rw [eval_bind_ok (hread.receipt _ rfl)]
  cases hs : db.receipts.get? p.transactionId with
  | none => exact eval_ingestNew_accepts hc h hp.valid hp.ledger hs ha
  | some r =>
    obtain ⟨hrej, hwhy⟩ := hp.receipt r hs
    have hn : (db.deleteReceipt p.transactionId).receipts.get? p.transactionId = none :=
      (Table.get?_erase ..).trans (if_pos rfl)
    obtain ⟨w, hw, hi⟩ : ∃ w, (ingestNew py env c p).eval ⟨db, db.deleteReceipt p.transactionId⟩ =
        (.ok (.live (makeAcceptedReceipt env p.transactionId)), ⟨db, w⟩) ∧
        Inserted env p (db.deleteReceipt p.transactionId) w :=
      eval_ingestNew_accepts ⟨hc.store, hc.product, hc.device⟩ (h.deleteReceipt _) hp.valid hp.ledger
        hn ha
    have hretry : (retryStale py env c p).eval ⟨db, db⟩ =
        (.ok (.live (makeAcceptedReceipt env p.transactionId)), ⟨db, w⟩) :=
      (eval_retryStale env c p _).trans hw
    simp only [hrej, Bool.false_eq_true, if_false]
    refine ⟨w, ?_, hi.of_delete⟩
    split
    · exact hretry
    · rename_i hint
      have hstale : (staleDomainRejectionShouldRetry r p).eval ⟨db, db⟩ =
          (.ok (.answered true), ⟨db, db⟩) := staleCheck_of_stale (hwhy.resolve_left hint)
      rw [eval_bind_ok hstale]
      exact hretry

/-- An item with an unknown store that passes its checks, at its turn in a state that batches and requests
lead to. The cache is right about the item. -/
structure Newcomer (py : Python) (c : CentralDb) (k : IngestPrefetch) (i : Nat) (s : Submission) :
    Prop where
  supplied : Supplied py c
  tracks : Tracks k [(i, s)] c.db
  honest : Honest k c.db s.payload
  provisioned : Provisioned py c.db s.payload
  unknown : c.db.stores.get? s.payload.storeId = none
  admits : Admits c.db s.payload
  unused : Unused py s.env c.db s.payload

theorem Newcomer.answered {c : CentralDb} {k : IngestPrefetch} {i : Nat} {s : Submission}
    (h : Newcomer py c k i s) :
    ∃ r w, (ingestItem py k s).eval c.db = (.ok (r, k.record s.payload r), w) := by
  rcases hw : (ingestItem py k s).eval c.db with ⟨res, w⟩
  obtain ⟨r, rfl, -⟩ := turn_tracks h.tracks hw
  exact ⟨r, w, rfl⟩

/-- **Provisioning**: a store goes only if it is a placeholder that has the derived code and that no row
refers to, and the item is accepted unless rows refer to such a placeholder. -/
theorem provisioning {c : CentralDb} {k : IngestPrefetch} {i : Nat} {s : Submission}
    (h : Newcomer py c k i s) :
    ∃ r w, (ingestItem py k s).eval c.db = (.ok (r, k.record s.payload r), w) ∧
      (∀ q ∈ c.db.stores.rows, q ∈ w.stores.rows ∨
        Placeholder py c.db s.payload.storeId q ∧ Unreferenced c.db q.id) ∧
      ((∀ q, Placeholder py c.db s.payload.storeId q → Unreferenced c.db q.id) →
        r.accepted = true ∧
          w.ledger.get? s.payload.transactionId = some (s.payload.ledgerRow s.env)) := by
  obtain ⟨r, w, hw⟩ := h.answered
  refine ⟨r, w, hw, fun q hq => ?_, fun hun => ?_⟩
  · rcases turn_provides (yields_of_eval (F := noFault) hw) with hkept | hprov
    · rw [hkept.stores]
      exact .inl hq
    · exact hprov.store.keeps hq
  · have href := h.supplied.reachable.referenced
    have hread := reads_some (h.tracks.ledger _ List.mem_cons_self)
      (h.tracks.receipt _ List.mem_cons_self)
    obtain ⟨w', hw', hi⟩ := eval_impl_accepts hread h.honest.listed
      ⟨h.supplied.named, href.codes, h.unknown, h.unused, hun⟩ h.provisioned h.admits
    have heval := hw.symm.trans (eval_ingestItem hw' rfl)
    cases heval
    have hkey : key (s.payload.ledgerRow s.env) = s.payload.transactionId := rfl
    refine ⟨rfl, ?_⟩
    rw [hi.ledger, ← hkey, Table.get?_put_self]

/-! ## A placeholder in the way -/

instance : Decidable (Unreferenced db id) := decidable_of_iff
  ((∀ d ∈ db.devices.rows, d.storeId ≠ id) ∧ (∀ r ∈ db.ledger.rows, r.storeId ≠ id) ∧
    (∀ b ∈ db.balances.rows, b.stock.storeId ≠ id) ∧ id ∉ db.storeRefs)
  ⟨fun ⟨h1, h2, h3, h4⟩ => ⟨h1, h2, h3, h4⟩, fun h => ⟨h.1, h.2, h.3, h.4⟩⟩

theorem honest_loaded (ps : List TransactionPayload) (db : Db) (p : TransactionPayload) :
    Honest (.loaded ps db) db p :=
  ⟨fun h => of_decide_eq_true (by simpa using (List.mem_filter.1 h).2),
    fun h => of_decide_eq_true (by simpa using (List.mem_filter.1 h).2),
    fun h => of_decide_eq_true (by simpa using (List.mem_filter.1 h).2)⟩

theorem Supplied.pushAll : ∀ (batches : List (List Submission)) {c : CentralDb}, Supplied py c →
    ∃ c', Supplied py c' ∧ c'.db = (Server.pushAll py c.db batches).2
  | [], c, h => ⟨c, h, rfl⟩
  | subs :: rest, c, h => by
    have hr := yields_eval noFault (ingestBatch py subs) c.db
    exact Supplied.pushAll rest (h.batch hr fun _ => ⟨0, none⟩)

namespace Sample

/-- A movement in the store `storeId`. -/
def movementAt (storeId transactionId movementType : String) (quantityDelta : Int) : Submission :=
  let s := movement transactionId movementType quantityDelta 0
  { s with payload := { s.payload with storeId } }

/-- `STORE-A` has stock; a sale out of `STORE-B` was turned down for want of it. -/
def twoStores : Db := (Server.pushAll python .empty
  [[movementAt "STORE-A" "T-1" "RECEIPT" 5], [movementAt "STORE-B" "T-2" "SALE" (-3)]]).2

theorem supplied_twoStores : ∃ c, Supplied python c ∧ c.db = twoStores :=
  Supplied.pushAll _ (c := ⟨.empty, fun _ => ⟨none, none, none, none, false, ⟨0, none⟩⟩,
    fun _ => ⟨none, ⟨0, none⟩⟩⟩) (.start rfl)

/-- A receipt of goods in the store `storeId`. -/
def deliveryTo (storeId : String) : Submission := movementAt storeId "T-3" "RECEIPT" 5

def answerTo (storeId : String) : Except Exn (SyncReceipt × IngestPrefetch) × Db :=
  (ingestItem python (.loaded [(deliveryTo storeId).payload] twoStores) (deliveryTo storeId)).eval
    twoStores

theorem newcomer {c : CentralDb} (hc : Supplied python c) (hdb : c.db = twoStores)
    (storeId : String) (hid : storeId ∈ ["A", "B"]) :
    Newcomer python c (.loaded [(deliveryTo storeId).payload] twoStores) 0 (deliveryTo storeId) := by
  have hall : ∀ id ∈ ["A", "B"], validatePayload python (deliveryTo id).payload = none ∧
      twoStores.ledger.get? (deliveryTo id).payload.transactionId = none ∧
      twoStores.receipts.get? (deliveryTo id).payload.transactionId = none ∧
      twoStores.stores.get? (deliveryTo id).payload.storeId = none ∧
      Admits twoStores (deliveryTo id).payload ∧
      (∀ q ∈ twoStores.stores.rows, q.code ≠ python.caseMap.upper
        (takeFirst 12 (derivedCode python (deliveryTo id).payload.storeId) ++ "-" ++
          (deliveryTo id).env.storeHex)) ∧
      ∀ q ∈ twoStores.products.rows, q.sku ≠ "OFFLINE-" ++ takeFirst 70
        (takeFirst 80 (deliveryTo id).payload.productId) ++ "-" ++ (deliveryTo id).env.productHex := by
    decide +kernel
  obtain ⟨hvalid, hl, hr, hs, ha, hcode, hsku⟩ := hall storeId hid
  refine ⟨hc, ?_, ?_, ?_, ?_, ?_, ?_⟩ <;> rw [hdb]
  · exact tracks_loaded twoStores fun x hx => by
      rw [List.mem_singleton.1 hx]
      exact List.mem_singleton_self _
  · exact honest_loaded _ _ _
  · exact ⟨hvalid, hl, fun r h => by rw [hr] at h; cases h⟩
  · exact hs
  · exact ha
  · exact ⟨hcode, hsku⟩

end Sample

/-- The placeholder that nothing refers to makes room for `B`. -/
theorem provisioning_replaces : ∃ r w, (Sample.answerTo "B") =
      (.ok (r, (IngestPrefetch.loaded [(Sample.deliveryTo "B").payload] Sample.twoStores).record
        (Sample.deliveryTo "B").payload r), w) ∧
      (∀ q ∈ Sample.twoStores.stores.rows, q ∈ w.stores.rows ∨
        Placeholder Sample.python Sample.twoStores "B" q ∧ Unreferenced Sample.twoStores q.id) ∧
      r.accepted = true ∧ w.ledger.get? "T-3" =
        some ((Sample.deliveryTo "B").payload.ledgerRow Sample.env) := by
  obtain ⟨c, hc, hdb⟩ := Sample.supplied_twoStores
  have hun : ∀ q ∈ Sample.twoStores.stores.rows, isAutoStore q = true →
      q.code = derivedCode Sample.python "B" → Unreferenced Sample.twoStores q.id := by
    decide +kernel
  obtain ⟨r, w, hw, hkeeps, hacc⟩ := provisioning (Sample.newcomer hc hdb "B" (by simp))
  rw [hdb] at hw hkeeps hacc
  exact ⟨r, w, hw, hkeeps, hacc fun q hq => hun q hq.row hq.name hq.code⟩

/-- Provisioning destroys the placeholder that has the code, or, when rows refer to it, turns the item
down. -/
theorem provisioning_destroys_or_blocks :
    (¬ ∀ (c : CentralDb) (k : IngestPrefetch) (i : Nat) (s : Submission) r w,
      Newcomer Sample.python c k i s → (ingestItem Sample.python k s).eval c.db = (.ok r, w) →
        ∀ q ∈ c.db.stores.rows, q ∈ w.stores.rows) ∧
    ¬ ∀ (c : CentralDb) (k : IngestPrefetch) (i : Nat) (s : Submission) r w,
      Newcomer Sample.python c k i s → (ingestItem Sample.python k s).eval c.db = (.ok r, w) →
        r.1.accepted = true := by
  obtain ⟨c, hc, hdb⟩ := Sample.supplied_twoStores
  constructor
  · intro h
    have hgone : ∃ q ∈ Sample.twoStores.stores.rows, q ∉ (Sample.answerTo "B").2.stores.rows := by
      decide +kernel
    obtain ⟨q, hq, hne⟩ := hgone
    obtain ⟨r, w, hw⟩ := (Sample.newcomer hc hdb "B" (by simp)).answered
    have hkept := h c _ 0 _ _ w (Sample.newcomer hc hdb "B" (by simp)) hw q (hdb ▸ hq)
    rw [hdb] at hw
    exact hne (by rw [Sample.answerTo, hw]; exact hkept)
  · intro h
    have hrejected : (Sample.answerTo "A").1.toOption.any (fun x => x.1.accepted) = false := by
      decide +kernel
    obtain ⟨r, w, hw⟩ := (Sample.newcomer hc hdb "A" (by simp)).answered
    have hacc := h c _ 0 _ _ w (Sample.newcomer hc hdb "A" (by simp)) hw
    rw [hdb] at hw
    rw [Sample.answerTo, hw] at hrejected
    simp only [Except.toOption, Option.any_some] at hrejected
    rw [hacc] at hrejected
    cases hrejected

end Server
