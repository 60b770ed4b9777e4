import InvenTory.Server.Batch

/-!
# What one item does

`Handled F env c p db ret db'`: ingesting `p` against the cache `c` may take `db` to `db'` and hand
back `ret`, when statements fail with exceptions in `F` only. It says what becomes of the ledger,
the balances and the receipts (`handled`); `Turn` says the same of a turn of the batch loop, the
handling of exceptions included (`turn`). The invariants never look into the code again.
-/

namespace Server

open Relational Sql Sql.Prog

variable {F : Exn → Prop}

/-- `db'` has the ledger, balances and receipts of `db`. -/
structure Frame (db db' : Db) : Prop where
  ledger : db'.ledger = db.ledger
  balances : db'.balances = db.balances
  receipts : db'.receipts = db.receipts

namespace Frame

theorem refl (db : Db) : Frame db db := ⟨rfl, rfl, rfl⟩

theorem trans {a b c : Db} (h : Frame a b) (h' : Frame b c) : Frame a c :=
  ⟨h'.ledger.trans h.ledger, h'.balances.trans h.balances, h'.receipts.trans h.receipts⟩

end Frame

/-! ## Statements -/

theorem insertStore_ok {db db' : Db} {r : Store} (h : db.insertStore r = .ok db') :
    db.stores.get? r.id = none ∧ (∀ q ∈ db.stores.rows, q.code ≠ r.code) ∧
      db' = { db with stores := db.stores.put r } := by
  unfold Db.insertStore at h
  split at h <;> [cases h; split at h] <;> cases h
  rename_i hn hcode
  exact ⟨by simpa using hn, by simpa using hcode, rfl⟩

theorem insertProduct_ok {db db' : Db} {r : Product} (h : db.insertProduct r = .ok db') :
    db.products.get? r.id = none ∧ (∀ q ∈ db.products.rows, q.sku ≠ r.sku) ∧
      db' = { db with products := db.products.put r } := by
  unfold Db.insertProduct at h
  split at h <;> [cases h; split at h] <;> cases h
  rename_i hn hsku
  exact ⟨by simpa using hn, by simpa using hsku, rfl⟩

theorem insertDevice_ok {db db' : Db} {r : Device} (h : db.insertDevice r = .ok db') :
    db.devices.get? r.id = none ∧ (db.stores.get? r.storeId).isSome ∧
      db' = { db with devices := db.devices.put r } := by
  unfold Db.insertDevice at h
  split at h <;> [cases h; split at h] <;> cases h
  rename_i hn hstore
  exact ⟨by simpa using hn, Option.isSome_iff_ne_none.2 (by simpa using hstore), rfl⟩

/-- A store that is deleted has no devices, ledger rows or balances, and nothing else refers to
it. -/
theorem deleteStore_ok {db db' : Db} {id : String} (h : db.deleteStore id = .ok db') :
    (∀ d ∈ db.devices.rows, d.storeId ≠ id) ∧ (∀ r ∈ db.ledger.rows, r.storeId ≠ id) ∧
      (∀ b ∈ db.balances.rows, b.stock.storeId ≠ id) ∧ id ∉ db.storeRefs ∧
      db' = { db with
        stores := db.stores.erase id
        dayBooks := db.dayBooks.filter (·.storeId ≠ id)
        entries := db.entries.filter
          (·.dayBookId ∉ (db.dayBooks.filter (·.storeId = id)).map DayBook.id) } := by
  simp only [Db.deleteStore] at h
  repeat' split at h
  all_goals cases h
  rename_i hdev hledger hbal hrefs
  exact ⟨by simpa using hdev, by simpa using hledger, by simpa using hbal, hrefs, rfl⟩

theorem insertDayBook_ok {db db' : Db} {b : DayBook} (h : db.insertDayBook b = .ok db') :
    (db.stores.get? b.storeId).isSome ∧ db' = { db with dayBooks := db.dayBooks ++ [b] } := by
  unfold Db.insertDayBook at h
  split at h <;> cases h
  rename_i hstore
  exact ⟨Option.isSome_iff_ne_none.2 (by simpa using hstore), rfl⟩

theorem insertDayBookEntry_ok {db db' : Db} {e : DayBookEntry}
    (h : db.insertDayBookEntry e = .ok db') :
    (∃ b ∈ db.dayBooks, b.id = e.dayBookId) ∧ (db.ledger.get? e.transactionId).isSome ∧
      (db.products.get? e.productId).isSome ∧ db' = { db with entries := db.entries ++ [e] } := by
  simp only [Db.insertDayBookEntry] at h
  repeat' split at h
  all_goals cases h
  rename_i hbook hledger hproduct
  exact ⟨by simpa using hbook, Option.isSome_iff_ne_none.2 (by simpa using hledger),
    Option.isSome_iff_ne_none.2 (by simpa using hproduct), rfl⟩

theorem insertStore_frame {db db' : Db} {r : Store} (h : db.insertStore r = .ok db') :
    Frame db db' := by
  obtain ⟨-, -, rfl⟩ := insertStore_ok h
  exact ⟨rfl, rfl, rfl⟩

theorem insertProduct_frame {db db' : Db} {r : Product} (h : db.insertProduct r = .ok db') :
    Frame db db' := by
  obtain ⟨-, -, rfl⟩ := insertProduct_ok h
  exact ⟨rfl, rfl, rfl⟩

theorem insertDevice_frame {db db' : Db} {r : Device} (h : db.insertDevice r = .ok db') :
    Frame db db' := by
  obtain ⟨-, -, rfl⟩ := insertDevice_ok h
  exact ⟨rfl, rfl, rfl⟩

theorem deleteStore_frame {db db' : Db} {id : String} (h : db.deleteStore id = .ok db') :
    Frame db db' := by
  obtain ⟨-, -, -, -, rfl⟩ := deleteStore_ok h
  exact ⟨rfl, rfl, rfl⟩

theorem insertDayBook_frame {db db' : Db} {b : DayBook} (h : db.insertDayBook b = .ok db') :
    Frame db db' := by
  obtain ⟨-, rfl⟩ := insertDayBook_ok h
  exact ⟨rfl, rfl, rfl⟩

theorem insertDayBookEntry_frame {db db' : Db} {e : DayBookEntry}
    (h : db.insertDayBookEntry e = .ok db') : Frame db db' := by
  obtain ⟨-, -, -, rfl⟩ := insertDayBookEntry_ok h
  exact ⟨rfl, rfl, rfl⟩

theorem insertLedger_ok {db db' : Db} {r : InventoryTransaction} (h : db.insertLedger r = .ok db') :
    db.ledger.get? r.transactionId = none ∧ db' = { db with ledger := db.ledger.put r } := by
  simp only [Db.insertLedger] at h
  repeat' split at h
  all_goals cases h
  rename_i hn _ _ _
  exact ⟨by simpa using hn, rfl⟩

theorem insertReceipt_ok {db db' : Db} {r : SyncReceipt} (h : db.insertReceipt r = .ok db') :
    db.receipts.get? r.transactionId = none ∧ db' = { db with receipts := db.receipts.put r } := by
  unfold Db.insertReceipt at h
  split at h <;> cases h
  rename_i hn
  exact ⟨by simpa using hn, rfl⟩

/-- The upsert moves one balance and nothing else. -/
theorem upsertStockBalance_ok {db db' : Db} {id : String} {k : StockKey} {d : Int} {now : DateTime}
    (h : db.upsertStockBalance id k d now = .ok db') :
    db'.ledger = db.ledger ∧ db'.receipts = db.receipts ∧
      (∀ k', db'.quantity k' = db.quantity k' + if k = k' then d else 0) ∧
      ∀ k', (db'.balances.get? k').isSome ↔ k = k' ∨ (db.balances.get? k').isSome := by
  simp only [Db.upsertStockBalance] at h
  repeat' split at h
  all_goals cases h
  · rename_i b hb
    have hb' : key b = k := Table.key_of_get? hb
    have hk : key { b with quantity := b.quantity + d, updatedAt := now } = k := hb'
    refine ⟨rfl, rfl, fun k' => ?_, fun k' => ?_⟩ <;>
      simp only [Db.quantity, Table.get?_put, hk] <;> split
    · rename_i he
      subst he
      simp [hb]
    · simp
    · rename_i he
      simp [he]
    · rename_i he
      simp [he]
  · rename_i hb _ _
    have hk : key (⟨id, k, d, now⟩ : StockBalance) = k := rfl
    refine ⟨rfl, rfl, fun k' => ?_, fun k' => ?_⟩ <;>
      simp only [Db.quantity, Table.get?_put, hk] <;> split
    · rename_i he
      subst he
      simp [hb]
    · simp
    · rename_i he
      simp [he]
    · rename_i he
      simp [he]

/-! ## Provisioning and the day book -/

section
variable {R : Db → Db → Prop}

theorem execute_rel {f : Db → Except Exn Db} {c c' : Conn Db} {u : Unit}
    (hf : ∀ db db', f db = .ok db' → R db db') (h : (execute f).Yields F c (.ok u) c') :
    R c.work c'.work := hf _ _ (yields_execute_ok h).1

theorem isKnown_rel {b : Bool} {f : Db → Bool} {create : Tx Unit} {c c' : Conn Db} {u : Unit}
    (hrefl : ∀ db, R db db) (hc : ∀ c c', create.Yields F c (.ok u) c' → R c.work c'.work)
    (h : (isKnown b f >>= fun known => if known then pure () else create).Yields F c (.ok u) c') :
    R c.work c'.work := by
  obtain ⟨known, c1, h1, h2⟩ := yields_bind_ok h
  have h3 : c1 = c := by
    unfold isKnown at h1
    split at h1
    · exact (yields_pure h1).2
    · exact (yields_select_ok h1).2
  subst h3
  split at h2
  · rw [(yields_pure h2).2]
    exact hrefl _
  · exact hc _ _ h2

/-- Creating a store inserts it, after deleting the placeholder that has its code. -/
theorem createStore_rel (htrans : ∀ a b c, R a b → R b c → R a c)
    (hins : ∀ r db db', Db.insertStore db r = .ok db' → R db db')
    (hdel : ∀ id db db', Db.deleteStore db id = .ok db' → R db db')
    {py : Python} {env : Env} {id : String} {c c' : Conn Db} {u : Unit}
    (h : (createStore py env id).Yields F c (.ok u) c') : R c.work c'.work := by
  have h1 := yields_select_bind h
  split at h1
  · exact execute_rel (hins _) h1
  have h2 := yields_select_bind h1
  split at h2
  · split at h2
    · obtain ⟨w, hw, h3⟩ := yields_execute_bind h2
      exact htrans _ _ _ (hdel _ _ _ hw) (execute_rel (hins _) h3)
    · exact execute_rel (hins _) h2
  · exact execute_rel (hins _) h2

end

theorem pure_frame {α : Type} {a b : α} {c c' : Conn Db}
    (h : (pure a : Tx α).Yields F c (.ok b) c') : Frame c.work c'.work := by
  rw [(yields_pure h).2]
  exact .refl _

theorem provisionStore_frame {py : Python} {env : Env} {p : Option IngestPrefetch} {id : String}
    {c c' : Conn Db} {u : Unit} (h : (provisionStore py env p id).Yields F c (.ok u) c') :
    Frame c.work c'.work :=
  isKnown_rel .refl (fun _ _ => createStore_rel (fun _ _ _ => .trans)
    (fun _ _ _ => insertStore_frame) fun _ _ _ => deleteStore_frame) h

theorem provisionProduct_frame {env : Env} {p : Option IngestPrefetch} {id : String}
    {c c' : Conn Db} {u : Unit} (h : (provisionProduct env p id).Yields F c (.ok u) c') :
    Frame c.work c'.work :=
  isKnown_rel .refl (fun _ _ hc => execute_rel (fun _ _ => insertProduct_frame)
    (yields_select_bind hc)) h

theorem provisionDevice_frame {p : Option IngestPrefetch} {id store : String}
    {c c' : Conn Db} {u : Unit} (h : (provisionDevice p id store).Yields F c (.ok u) c') :
    Frame c.work c'.work :=
  isKnown_rel .refl (fun _ _ => execute_rel fun _ _ => insertDevice_frame) h

theorem getOrCreateDayBook_frame {env : Env} {id : String} {d : DateTime} {b : DayBook}
    {c c' : Conn Db} (h : (getOrCreateDayBook env id d).Yields F c (.ok b) c') :
    Frame c.work c'.work := by
  have h1 := yields_select_bind h
  split at h1
  · exact pure_frame h1
  · obtain ⟨w, hw, h2⟩ := yields_execute_bind h1
    exact (insertDayBook_frame hw).trans (pure_frame h2)

theorem recalculateDayBookBalance_frame {b : DayBook} {c c' : Conn Db} {u : Unit}
    (h : (recalculateDayBookBalance b).Yields F c (.ok u) c') : Frame c.work c'.work := by
  have h1 := yields_select_bind h
  refine execute_rel (fun _ _ hd => ?_) h1
  cases hd
  exact ⟨rfl, rfl, rfl⟩

theorem addTransactionToDayBook_frame {env : Env} {tx : InventoryTransaction} {e : DayBookEntry}
    {c c' : Conn Db} (h : (addTransactionToDayBook env tx).Yields F c (.ok e) c') :
    Frame c.work c'.work := by
  obtain ⟨b, c1, h1, h2⟩ := yields_bind_ok h
  refine (getOrCreateDayBook_frame h1).trans ?_
  have h3 := yields_select_bind h2
  split at h3
  · exact pure_frame h3
  · obtain ⟨w, hw, h4⟩ := yields_execute_bind h3
    obtain ⟨_, c2, h5, h6⟩ := yields_bind_ok h4
    exact (insertDayBookEntry_frame hw).trans
      ((recalculateDayBookBalance_frame h5).trans (pure_frame h6))

/-! ## The item -/

/-- The receipt `r` of `id` is in the cache or in the table. -/
def Stored (c : Option IngestPrefetch) (db : Db) (id : String) (r : SyncReceipt) : Prop :=
  (∃ c', c = some c' ∧ c'.receiptByTx id = some r ∧ r.accepted = true) ∨
    db.receipts.get? id = some r

/-- `p` got a ledger row, which moved its balance, and an accepted receipt. -/
structure Inserted (env : Env) (p : TransactionPayload) (db db' : Db) : Prop where
  new : db.ledger.get? p.transactionId = none
  ledger : db'.ledger = db.ledger.put (p.ledgerRow env)
  quantity : ∀ k, db'.quantity k = db.quantity k + if p.stock = k then p.quantityDelta else 0
  rows : ∀ k, (db'.balances.get? k).isSome ↔ p.stock = k ∨ (db.balances.get? k).isSome
  receipts : ∀ id, db'.receipts.get? id = if p.transactionId = id then
    some (makeAcceptedReceipt env p.transactionId) else db.receipts.get? id

/-- What ingesting `p` may do to the ledger, the balances and the receipts (module doc). -/
inductive Handled (F : Exn → Prop) (env : Env) (c : Option IngestPrefetch)
    (p : TransactionPayload) (db : Db) : Returned → Db → Prop
  /-- The ledger has the id: an in-place edit, and an accepted receipt. -/
  | ledger {row : InventoryTransaction} {r : SyncReceipt} {db' : Db}
    (hrow : db.ledger.get? p.transactionId = some row)
    (hledger : db'.ledger = if row.quantityDelta ≠ p.quantityDelta then db.ledger.put (row.edit p)
      else db.ledger)
    (hquantity : ∀ k, db'.quantity k =
      db.quantity k + if row.stock = k then p.quantityDelta - row.quantityDelta else 0)
    (hrows : ∀ k, (db.balances.get? k).isSome → (db'.balances.get? k).isSome)
    (hacc : r.accepted = true)
    (hreceipts : db'.receipts = db.receipts ∧ Stored c db p.transactionId r ∨
      db'.receipts = db.receipts.put r ∧ r.transactionId = p.transactionId) :
    Handled F env c p db (.live r) db'
  /-- The receipt in the cache or in the table is handed back. -/
  | receipt {r : SyncReceipt} (hr : Stored c db p.transactionId r) : Handled F env c p db (.live r) db
  /-- The check of a stored rejection failed. -/
  | expired (hF : ∃ e, F e) : Handled F env c p db .expired db
  /-- Rejected, for its fields or for want of stock. -/
  | rejected {reason : String} {db' : Db}
    (hledger : db'.ledger = db.ledger) (hbalances : db'.balances = db.balances)
    (hreceipts : ∀ id, db'.receipts.get? id = if p.transactionId = id then
      some (makeRejectedReceipt env p.transactionId reason) else db.receipts.get? id) :
    Handled F env c p db (.live (makeRejectedReceipt env p.transactionId reason)) db'
  /-- A new ledger row. -/
  | inserted {db' : Db} (h : Inserted env p db db')
    (hstock : 0 ≤ p.quantityDelta ∨ 0 ≤ db.quantity p.stock + p.quantityDelta) :
    Handled F env c p db (.live (makeAcceptedReceipt env p.transactionId)) db'

theorem quantity_congr {db db' : Db} (h : db'.balances = db.balances) (k : StockKey) :
    db'.quantity k = db.quantity k := by
  unfold Db.quantity
  rw [h]

theorem lookupReceipt_ok {c : Option IngestPrefetch} {id : String} {cn cn' : Conn Db}
    {o : Option SyncReceipt} (h : (lookupReceipt c id).Yields F cn (.ok o) cn') :
    cn' = cn ∧ ∀ r, o = some r → Stored c cn.work id r := by
  unfold lookupReceipt at h
  split at h
  · obtain ⟨rfl, rfl⟩ := yields_select_ok h
    exact ⟨rfl, fun r hr => .inr hr⟩
  rename_i c'
  split at h
  · obtain ⟨ho, rfl⟩ := yields_pure h
    cases ho
    exact ⟨rfl, fun r hr => by cases hr⟩
  rename_i snap hsnap
  split at h
  · rename_i hacc
    obtain ⟨ho, rfl⟩ := yields_pure h
    cases ho
    refine ⟨rfl, fun r hr => .inl ⟨c', rfl, ?_⟩⟩
    cases hr
    exact ⟨hsnap, hacc⟩
  · obtain ⟨rfl, rfl⟩ := yields_select_ok h
    exact ⟨rfl, fun r hr => .inr hr⟩

theorem editLedgerRow_ok {env : Env} {p : TransactionPayload} {row : InventoryTransaction}
    {cn cn' : Conn Db} {u : Unit} (h : (editLedgerRow env p row).Yields F cn (.ok u) cn') :
    cn'.work.receipts = cn.work.receipts ∧
    cn'.work.ledger = (if row.quantityDelta ≠ p.quantityDelta then cn.work.ledger.put (row.edit p)
      else cn.work.ledger) ∧
    (∀ k, cn'.work.quantity k = cn.work.quantity k +
      if row.stock = k then p.quantityDelta - row.quantityDelta else 0) ∧
    ∀ k, (cn.work.balances.get? k).isSome → (cn'.work.balances.get? k).isSome := by
  unfold editLedgerRow at h
  split at h
  · rename_i hne
    obtain ⟨w, hw, h1⟩ := yields_execute_bind h
    obtain ⟨h2, -⟩ := yields_execute_ok h1
    obtain ⟨hl, hr, hq, hs⟩ := upsertStockBalance_ok hw
    simp only [Except.ok.injEq] at h2
    rw [← h2]
    exact ⟨hr, by simp [Db.updateLedger, hl, hne], hq, fun k hk => (hs k).2 (.inr hk)⟩
  · rename_i heq
    rw [(yields_pure h).2]
    have he : row.quantityDelta = p.quantityDelta := not_not.1 heq
    exact ⟨rfl, by simp [he], fun k => by simp [he], fun _ hk => hk⟩

theorem ledgerFirst_handled {env : Env} {c : Option IngestPrefetch} {p : TransactionPayload}
    {row : InventoryTransaction} {cn cn' : Conn Db} {r : SyncReceipt}
    (hrow : cn.work.ledger.get? p.transactionId = some row)
    (h : (ledgerFirst env c p row).Yields F cn (.ok r) cn') :
    Handled F env c p cn.work (.live r) cn'.work := by
  obtain ⟨_, c1, h1, h2⟩ := yields_bind_ok h
  obtain ⟨hr1, hl, hq, hs⟩ := editLedgerRow_ok h1
  obtain ⟨o, c2, h3, h4⟩ := yields_bind_ok h2
  obtain ⟨rfl, ho⟩ := lookupReceipt_ok h3
  simp only [Stored, hr1] at ho
  split at h4
  · rename_i r0
    split at h4
    · rename_i hacc
      obtain ⟨hr, rfl⟩ := yields_pure h4
      cases hr
      exact .ledger hrow hl hq hs hacc (.inl ⟨hr1, ho _ rfl⟩)
    · rename_i hacc
      obtain ⟨w, hw, h5⟩ := yields_execute_bind h4
      obtain ⟨hr, rfl⟩ := yields_pure h5
      cases hr
      cases hw
      have hid : r0.transactionId = p.transactionId := by
        rcases ho r0 rfl with ⟨_, _, _, ha⟩ | hg
        · exact absurd ha hacc
        · exact Table.key_of_get? hg
      exact .ledger hrow hl hq hs rfl (.inr ⟨by simp [Db.updateReceipt, hr1], hid⟩)
  · obtain ⟨w, hw, h5⟩ := yields_execute_bind h4
    obtain ⟨hr, rfl⟩ := yields_pure h5
    cases hr
    obtain ⟨-, rfl⟩ := insertReceipt_ok hw
    exact .ledger hrow hl hq hs rfl (.inr ⟨by rw [hr1], rfl⟩)

/-- A receipt put in a table that agrees with `t` elsewhere. -/
theorem get?_put_receipt {t t' : Table SyncReceipt} {r : SyncReceipt}
    (h : ∀ id, id ≠ r.transactionId → t'.get? id = t.get? id) (id : String) :
    (t'.put r).get? id = if r.transactionId = id then some r else t.get? id := by
  rw [Table.get?_put]
  by_cases he : r.transactionId = id
  · rw [if_pos he]
    exact if_pos he
  · rw [if_neg he, ← h id (Ne.symm he)]
    exact if_neg he

theorem get?_deleteReceipt {db : Db} {id id' : String} (h : id' ≠ id) :
    (db.deleteReceipt id).receipts.get? id' = db.receipts.get? id' := by
  unfold Db.deleteReceipt
  rw [Table.get?_erase, if_neg (Ne.symm h)]

theorem reject_handled {env : Env} {c : Option IngestPrefetch} {p : TransactionPayload}
    {reason : String} {db : Db} {cn cn' : Conn Db} {ret : Returned}
    (hl : cn.work.ledger = db.ledger) (hb : cn.work.balances = db.balances)
    (hr : ∀ id, id ≠ p.transactionId → cn.work.receipts.get? id = db.receipts.get? id)
    (h : (reject env p reason).Yields F cn (.ok ret) cn') : Handled F env c p db ret cn'.work := by
  obtain ⟨w, hw, h1⟩ := yields_execute_bind h
  obtain ⟨he, rfl⟩ := yields_pure h1
  cases he
  obtain ⟨-, rfl⟩ := insertReceipt_ok hw
  exact .rejected hl hb (get?_put_receipt hr)

theorem insertMovement_inserted {env : Env} {p : TransactionPayload} {db : Db} {cn cn' : Conn Db}
    {ret : Returned} (hl : cn.work.ledger = db.ledger) (hb : cn.work.balances = db.balances)
    (hr : ∀ id, id ≠ p.transactionId → cn.work.receipts.get? id = db.receipts.get? id)
    (h : (insertMovement env p).Yields F cn (.ok ret) cn') :
    ret = .live (makeAcceptedReceipt env p.transactionId) ∧ Inserted env p db cn'.work := by
  obtain ⟨w1, hw1, h1⟩ := yields_execute_bind h
  obtain ⟨e, c2, h2, h3⟩ := yields_bind_ok h1
  obtain ⟨w3, hw3, h4⟩ := yields_execute_bind h3
  obtain ⟨w4, hw4, h5⟩ := yields_execute_bind h4
  obtain ⟨he, rfl⟩ := yields_pure h5
  cases he
  obtain ⟨hnew, rfl⟩ := insertLedger_ok hw1
  have hf := addTransactionToDayBook_frame h2
  obtain ⟨hl3, hr3, hq3, hs3⟩ := upsertStockBalance_ok hw3
  obtain ⟨-, rfl⟩ := insertReceipt_ok hw4
  refine ⟨rfl, hl ▸ hnew, ?_, fun k => ?_, fun k => ?_, get?_put_receipt fun id hne => ?_⟩
  · change w3.ledger = _
    rw [hl3, hf.ledger, ← hl]
  · refine (hq3 k).trans ?_
    rw [quantity_congr (hf.balances.trans hb)]
  · refine (hs3 k).trans ?_
    rw [hf.balances.trans hb]
  · change w3.receipts.get? id = _
    rw [hr3, hf.receipts]
    exact hr id hne

theorem checkAndInsert_handled {env : Env} {c : Option IngestPrefetch} {p : TransactionPayload}
    {db : Db} {cn cn' : Conn Db} {ret : Returned}
    (hl : cn.work.ledger = db.ledger) (hb : cn.work.balances = db.balances)
    (hr : ∀ id, id ≠ p.transactionId → cn.work.receipts.get? id = db.receipts.get? id)
    (h : (checkAndInsert env p).Yields F cn (.ok ret) cn') : Handled F env c p db ret cn'.work := by
  unfold checkAndInsert at h
  split at h
  · have h1 := yields_select_bind h
    rw [quantity_congr hb] at h1
    split at h1
    · exact reject_handled hl hb hr h1
    · rename_i hge
      obtain ⟨rfl, hi⟩ := insertMovement_inserted hl hb hr h1
      exact .inserted hi (.inr (by omega))
  · rename_i hge
    obtain ⟨rfl, hi⟩ := insertMovement_inserted hl hb hr h
    exact .inserted hi (.inl (by omega))

theorem ingestNew_handled {py : Python} {env : Env} {c : Option IngestPrefetch}
    {p : TransactionPayload} {db : Db} {cn cn' : Conn Db} {ret : Returned}
    (hl : cn.work.ledger = db.ledger) (hb : cn.work.balances = db.balances)
    (hr : ∀ id, id ≠ p.transactionId → cn.work.receipts.get? id = db.receipts.get? id)
    (h : (ingestNew py env c p).Yields F cn (.ok ret) cn') : Handled F env c p db ret cn'.work := by
  unfold ingestNew at h
  split at h
  · exact reject_handled hl hb hr h
  · obtain ⟨_, c1, h1, h2⟩ := yields_bind_ok h
    obtain ⟨_, c2, h3, h4⟩ := yields_bind_ok h2
    obtain ⟨_, c3, h5, h6⟩ := yields_bind_ok h4
    have hf := (provisionStore_frame h1).trans
      ((provisionProduct_frame h3).trans (provisionDevice_frame h5))
    exact checkAndInsert_handled (hf.ledger.trans hl) (hf.balances.trans hb)
      (fun id hne => by rw [hf.receipts, hr id hne]) h6

theorem retryStale_handled {py : Python} {env : Env} {c : Option IngestPrefetch}
    {p : TransactionPayload} {cn cn' : Conn Db} {ret : Returned}
    (h : (retryStale py env c p).Yields F cn (.ok ret) cn') :
    Handled F env c p cn.work ret cn'.work := by
  obtain ⟨w, hw, h1⟩ := yields_execute_bind h
  have hw' : w = cn.work.deleteReceipt p.transactionId := (Except.ok.inj hw).symm
  subst hw'
  refine ingestNew_handled ?_ ?_ (fun id hne => ?_) h1
  · rfl
  · rfl
  · exact get?_deleteReceipt hne

/-- The check of a stored rejection only reads, and fails only by a fault. -/
theorem staleCheck_work {r : SyncReceipt} {p : TransactionPayload} {db : Db} {cn' : Conn Db}
    {a : StaleCheck}
    (h : (staleDomainRejectionShouldRetry r p).Yields F ⟨db, db⟩ (.ok a) cn') :
    cn' = ⟨db, db⟩ ∧ (a = .rolledBack → ∃ e, F e) := by
  unfold staleDomainRejectionShouldRetry at h
  split at h
  · obtain ⟨ha, rfl⟩ := yields_pure h
    cases ha
    exact ⟨rfl, fun hr => by cases hr⟩
  split at h
  · obtain ⟨ha, rfl⟩ := yields_pure h
    cases ha
    exact ⟨rfl, fun hr => by cases hr⟩
  obtain ⟨res, c1, h1, h2⟩ := yields_bind_ok h
  obtain ⟨res', hres, h3⟩ := yields_attempt h1
  cases hres
  cases res with
  | ok n =>
    obtain ⟨ha, rfl⟩ := yields_pure h2
    cases ha
    exact ⟨(yields_select_ok h3).2, fun hr => by cases hr⟩
  | error e =>
    obtain ⟨_, c2, h4, h5⟩ := yields_bind_ok h2
    obtain ⟨rfl, hF⟩ := yields_select_error h3
    rw [(yields_pure h5).2, (yields_rollback h4).2]
    exact ⟨rfl, fun _ => ⟨e, hF⟩⟩

theorem selectLedgerRow_ok {c : Option IngestPrefetch} {id : String} {cn cn' : Conn Db}
    {o : Option InventoryTransaction} (h : (selectLedgerRow c id).Yields F cn (.ok o) cn') :
    cn' = cn ∧ ∀ row, o = some row → cn.work.ledger.get? id = some row := by
  unfold selectLedgerRow at h
  split at h
  · obtain ⟨ho, rfl⟩ := yields_pure h
    exact ⟨rfl, fun row hr => by rw [hr] at ho; cases ho⟩
  · obtain ⟨rfl, rfl⟩ := yields_select_ok (yields_mapError_ok h)
    exact ⟨rfl, fun row hr => hr⟩

/-- **The spec of one item**: whatever fails on the way, a session that returns did this. -/
theorem handled {py : Python} {env : Env} {c : Option IngestPrefetch} {p : TransactionPayload}
    {db : Db} {cn' : Conn Db} {ret : Returned}
    (h : (ingestTransactionImpl py env p c).Yields F ⟨db, db⟩ (.ok ret) cn') :
    Handled F env c p db ret cn'.work := by
  obtain ⟨o, c1, h1, h2⟩ := yields_bind_ok h
  obtain ⟨rfl, hrow⟩ := selectLedgerRow_ok h1
  cases o with
  | some row =>
    obtain ⟨r, c2, h3, h4⟩ := yields_bind_ok h2
    obtain ⟨hr, rfl⟩ := yields_pure h4
    cases hr
    exact ledgerFirst_handled (hrow row rfl) h3
  | none =>
    obtain ⟨o, c2, h3, h4⟩ := yields_bind_ok h2
    obtain ⟨rfl, hr⟩ := lookupReceipt_ok h3
    cases o with
    | none => exact ingestNew_handled rfl rfl (fun _ _ => rfl) h4
    | some r =>
      simp only at h4
      split at h4
      · obtain ⟨he, rfl⟩ := yields_pure h4
        cases he
        exact .receipt (hr r rfl)
      split at h4
      · exact retryStale_handled h4
      obtain ⟨a, c3, h5, h6⟩ := yields_bind_ok h4
      obtain ⟨rfl, hF⟩ := staleCheck_work h5
      split at h6
      · exact retryStale_handled h6
      · obtain ⟨he, rfl⟩ := yields_pure h6
        cases he
        exact .receipt (hr r rfl)
      · obtain ⟨he, rfl⟩ := yields_pure h6
        cases he
        exact .expired (hF rfl)

/-! ## One turn of the loop -/

/-- The ledger and the balances are those of `db`, and so are the other receipts. -/
structure OnlyReceipt (id : String) (db db' : Db) : Prop where
  ledger : db'.ledger = db.ledger
  balances : db'.balances = db.balances
  receipts : ∀ id', id' ≠ id → db'.receipts.get? id' = db.receipts.get? id'

theorem OnlyReceipt.refl (id : String) (db : Db) : OnlyReceipt id db db :=
  ⟨rfl, rfl, fun _ _ => rfl⟩

theorem onlyReceipt_put (db : Db) (r : SyncReceipt) {id : String} (h : r.transactionId = id) :
    OnlyReceipt id db { db with receipts := db.receipts.put r } ∧
      ({ db with receipts := db.receipts.put r } : Db).receipts.get? id = some r :=
  ⟨⟨rfl, rfl, fun _ hne => Table.get?_put_of_ne _ fun he => hne (he.symm.trans h)⟩,
    h ▸ Table.get?_put_self ..⟩

/-- What `ensureAcceptedReceipt` and `persistRejection` do: the receipt is stored with the given
flag, or nothing happens because of a fault. -/
def StoresReceipt (F : Exn → Prop) (id : String) (accepted : Bool) (db db' : Db) :
    Except Exn SyncReceipt → Prop
  | .ok r => OnlyReceipt id db db' ∧ r.accepted = accepted ∧ db'.receipts.get? id = some r
  | .error _ => db' = db ∧ ∃ e, F e

theorem insertReceipt_none {db : Db} {r : SyncReceipt}
    (h : db.receipts.get? r.transactionId = none) :
    db.insertReceipt r = .ok { db with receipts := db.receipts.put r } := by
  simp [Db.insertReceipt, h]

/-- A session that inserts the receipt of an id that has none. -/
theorem insert_error {r : SyncReceipt} {cn cn' : Conn Db} {e : Exn}
    (hn : cn.work.receipts.get? r.transactionId = none)
    (h : (do execute (·.insertReceipt r); pure r : Tx SyncReceipt).Yields F cn (.error e) cn') :
    F e := by
  rcases yields_execute_bind_error h with hF | he | ⟨w, -, h1⟩
  · exact hF
  · rw [insertReceipt_none hn] at he
    cases he
  · cases (yields_pure h1).1

theorem insert_ok {r r' : SyncReceipt} {db : Db} {cn' : Conn Db}
    (h : (do execute (·.insertReceipt r); pure r : Tx SyncReceipt).Yields F ⟨db, db⟩ (.ok r') cn') :
    r' = r ∧ OnlyReceipt r.transactionId db cn'.work ∧
      cn'.work.receipts.get? r.transactionId = some r := by
  obtain ⟨w, hw, h1⟩ := yields_execute_bind h
  obtain ⟨he, rfl⟩ := yields_pure h1
  cases he
  obtain ⟨-, rfl⟩ := insertReceipt_ok hw
  exact ⟨rfl, onlyReceipt_put _ _ rfl⟩

/-- A session that updates a receipt to `r`. -/
theorem update_ok {r r' : SyncReceipt} {db : Db} {cn' : Conn Db}
    (h : (do execute (fun db => .ok (db.updateReceipt r)); pure r : Tx SyncReceipt).Yields F
      ⟨db, db⟩ (.ok r') cn') :
    r' = r ∧ OnlyReceipt r.transactionId db cn'.work ∧
      cn'.work.receipts.get? r.transactionId = some r := by
  obtain ⟨w, hw, h1⟩ := yields_execute_bind h
  obtain ⟨he, rfl⟩ := yields_pure h1
  cases he
  cases hw
  exact ⟨rfl, onlyReceipt_put _ _ rfl⟩

theorem update_error {r : SyncReceipt} {cn cn' : Conn Db} {e : Exn}
    (h : (do execute (fun db => .ok (db.updateReceipt r)); pure r : Tx SyncReceipt).Yields F cn
      (.error e) cn') : F e := by
  rcases yields_execute_bind_error h with hF | he | ⟨w, -, h1⟩
  · exact hF
  · cases he
  · cases (yields_pure h1).1

theorem ensureAcceptedReceipt_stores {env : Env} {id : String} {db db' : Db}
    {res : Except Exn SyncReceipt} (h : (ensureAcceptedReceipt env id).Yields F db res db') :
    StoresReceipt F id true db db' res := by
  rcases yields_session h with ⟨e, rfl, rfl, hF | ⟨c, hb⟩⟩ | ⟨r, c, rfl, hb, rfl⟩
  · exact ⟨rfl, e, hF⟩
  · refine ⟨rfl, e, ?_⟩
    rcases yields_select_bind_error hb with hF | h1
    · exact hF
    split at h1
    · exact update_error h1
    · exact insert_error (by assumption) h1
  · have h1 := yields_select_bind hb
    split at h1
    · rename_i r0 hr0
      have hid : r0.transactionId = id := Table.key_of_get? hr0
      obtain ⟨rfl, ho, hg⟩ := update_ok h1
      exact ⟨hid ▸ ho, rfl, hid ▸ hg⟩
    · obtain ⟨rfl, ho, hg⟩ := insert_ok h1
      exact ⟨ho, rfl, hg⟩

theorem persistRejection_stores {env : Env} {id : String} {exc : Exn} {db db' : Db}
    {res : Except Exn SyncReceipt} (h : (persistRejection env id exc).Yields F db res db') :
    StoresReceipt F id false db db' res := by
  rcases yields_session h with ⟨e, rfl, rfl, hF | ⟨c, hb⟩⟩ | ⟨r, c, rfl, hb, rfl⟩
  · exact ⟨rfl, e, hF⟩
  · refine ⟨rfl, ?_⟩
    rcases yields_bind hb with ⟨e', h1, -⟩ | ⟨o, c1, h1, h2⟩
    · obtain ⟨_, he, _⟩ := yields_attempt h1
      cases he
    obtain ⟨o', ho, h3⟩ := yields_attempt h1
    cases ho
    cases o with
    | error e' => exact ⟨e', (yields_select_error h3).2⟩
    | ok o =>
      obtain ⟨ho, rfl⟩ := yields_select_ok h3
      cases o with
      | some r0 => exact ⟨e, update_error h2⟩
      | none => exact ⟨e, insert_error ho.symm h2⟩
  · obtain ⟨o, c1, h1, h2⟩ := yields_bind_ok hb
    obtain ⟨o', ho, h3⟩ := yields_attempt h1
    cases ho
    cases o with
    | error e' =>
      obtain ⟨rfl, -⟩ := yields_select_error h3
      obtain ⟨rfl, ho, hg⟩ := insert_ok h2
      exact ⟨ho, rfl, hg⟩
    | ok o =>
      obtain ⟨ho, rfl⟩ := yields_select_ok h3
      cases o with
      | some r0 =>
        have hid : r0.transactionId = id := Table.key_of_get? ho.symm
        obtain ⟨rfl, ho, hg⟩ := update_ok h2
        exact ⟨hid ▸ ho, rfl, hid ▸ hg⟩
      | none =>
        obtain ⟨rfl, ho, hg⟩ := insert_ok h2
        exact ⟨ho, rfl, hg⟩

/-- An item that raised changes at most its own receipt, and is accepted only after a duplicate
key of the ledger. -/
theorem handleError_stores {s : Submission} {exc : Exn} {db db' : Db} {res : Except Exn SyncReceipt}
    (h : (handleError s exc).Yields F db res db') :
    ∃ r, res = .ok r ∧ r.accepted = isInventoryTransactionsPkeyCollision exc ∧
      OnlyReceipt s.payload.transactionId db db' ∧
      ((∃ e, F e) ∨ db'.receipts.get? s.payload.transactionId = some r) := by
  unfold handleError at h
  simp only at h
  split at h
  all_goals
    rename_i hcol
    rcases yields_bind h with ⟨e, h1, -⟩ | ⟨o, c1, h1, h2⟩
    · obtain ⟨_, he, _⟩ := yields_attempt h1
      cases he
    obtain ⟨o', ho, h3⟩ := yields_attempt h1
    cases ho
  · have hs := ensureAcceptedReceipt_stores h3
    cases o with
    | ok r =>
      obtain ⟨rfl, rfl⟩ := yields_pure h2
      exact ⟨r, rfl, hs.2.1.trans hcol.symm, hs.1, .inr hs.2.2⟩
    | error e =>
      obtain ⟨rfl, rfl⟩ := yields_pure h2
      obtain ⟨rfl, hF⟩ := hs
      exact ⟨_, rfl, hcol.symm, .refl _ _, .inl hF⟩
  · rw [Bool.not_eq_true] at hcol
    have hs := persistRejection_stores h3
    cases o with
    | ok r =>
      obtain ⟨rfl, rfl⟩ := yields_pure h2
      exact ⟨r, rfl, hs.2.1.trans hcol.symm, hs.1, .inr hs.2.2⟩
    | error e =>
      obtain ⟨rfl, rfl⟩ := yields_pure h2
      obtain ⟨rfl, hF⟩ := hs
      exact ⟨_, rfl, hcol.symm, .refl _ _, .inl hF⟩

/-- What a turn of the loop may do: the item is handled, or its session raised `exc` and left the
ledger and the balances alone, or a fault aborts the whole batch. -/
inductive Turn (F : Exn → Prop) (py : Python) (c : IngestPrefetch) (s : Submission) (db : Db) :
    Except Exn (SyncReceipt × IngestPrefetch) → Db → Prop
  | handled {r : SyncReceipt} {db' : Db} (h : Handled F s.env (some c) s.payload db (.live r) db') :
    Turn F py c s db (.ok (r, c.record s.payload r)) db'
  | raised {exc : Exn} {r : SyncReceipt} {db' : Db}
    (hexc : F exc ∨ ∃ cn,
      (ingestTransactionImpl py s.env s.payload (some c)).Yields F ⟨db, db⟩ (.error exc) cn)
    (hacc : r.accepted = isInventoryTransactionsPkeyCollision exc)
    (honly : OnlyReceipt s.payload.transactionId db db')
    (hstored : (∃ e, F e) ∨ db'.receipts.get? s.payload.transactionId = some r) :
    Turn F py c s db (.ok (r, c.record s.payload r)) db'
  | aborted {e : Exn} (hF : ∃ e, F e) : Turn F py c s db (.error e) db

/-- **The spec of a turn.** -/
theorem turn {py : Python} {c : IngestPrefetch} {s : Submission} {db db' : Db}
    {res : Except Exn (SyncReceipt × IngestPrefetch)} (h : (ingestItem py c s).Yields F db res db') :
    Turn F py c s db res db' := by
  rcases yields_bind h with ⟨e, h1, -⟩ | ⟨o, db1, h1, h2⟩
  · obtain ⟨_, he, _⟩ := yields_attempt h1
    cases he
  obtain ⟨o', ho, h3⟩ := yields_attempt h1
  cases ho
  rcases yields_session h3 with ⟨exc, rfl, rfl, hexc⟩ | ⟨ret, cn, rfl, hb, rfl⟩
  · rcases yields_bind h2 with ⟨e, h4, -⟩ | ⟨r, db2, h4, h5⟩
    · obtain ⟨_, he, _⟩ := handleError_stores h4
      cases he
    · obtain ⟨r', hr, hacc, honly, hstored⟩ := handleError_stores h4
      cases hr
      obtain ⟨rfl, rfl⟩ := yields_pure h5
      exact .raised hexc hacc honly hstored
  · have hd := handled hb
    cases ret with
    | live r =>
      obtain ⟨rfl, rfl⟩ := yields_pure h2
      exact .handled hd
    | expired =>
      obtain ⟨rfl, rfl⟩ := yields_throw h2
      cases hd with
      | expired hF => exact .aborted hF

end Server
