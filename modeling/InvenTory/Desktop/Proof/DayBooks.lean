import InvenTory.Desktop.DayBooks
import InvenTory.Desktop.Proof.Projection

/-!
# The closing balances of the day books

A command that goes into the day book sets the closing balance of its store's book of today to what the
store has available, which by `Projects` is what its ledger adds up to (`availableStock_eq`).
-/

namespace Desktop

open Relational Sql Sql.Prog
open Server (StockKey)

/-! ## The available stock of a store -/

/-- What a transaction adds to the available stock of a store by the end of a day. -/
def InventoryTransaction.availableTo (storeId : String) (date : Int) (r : InventoryTransaction) : Int :=
  if r.storeId = storeId ∧ r.stockBucket = "AVAILABLE" ∧ bookDate r.occurredAt ≤ date then
    r.quantityDelta
  else 0

/-- The available quantities of a store, by its transactions up to a day. -/
def Db.ledgerTo (d : Db) (storeId : String) (date : Int) : Int :=
  d.transactions.total (·.availableTo storeId date)

/-- The total of the balances is that of the ledger, once the day of every transaction has come. -/
theorem availableStock_eq (db : BooksDb) {date : Int} (h : Projects db.stock)
    (hdate : ∀ r ∈ db.stock.transactions.rows, bookDate r.occurredAt ≤ date) (storeId : String) :
    db.availableStock storeId = db.stock.ledgerTo storeId date := by
  have hgroups : db.availableStock storeId = db.stock.transactions.total fun r =>
      if r.stock.storeId = storeId ∧ r.stock.stockBucket = "AVAILABLE" then r.quantityDelta else 0 :=
    Table.total_groups (fun k : StockKey => k.storeId = storeId ∧ k.stockBucket = "AVAILABLE")
      fun k _ => h k
  rw [hgroups]
  refine congrArg List.sum (List.map_congr_left fun r hr => if_congr ?_ rfl rfl)
  exact ⟨fun hk => ⟨hk.1, hk.2, hdate r hr⟩, fun ha => ⟨ha.1, ha.2.1⟩⟩

/-! ## What the commands change in the ledger -/

section
variable {d d' : Db} {now : Instant} {rows : List InventoryTransaction}

/-- What the transactions add by the end of a day. -/
def addedTo (rows : List InventoryTransaction) (storeId : String) (date : Int) : Int :=
  (rows.map (·.availableTo storeId date)).sum

theorem ledgerTo_congr (h : d'.transactions = d.transactions) (storeId : String) (date : Int) :
    d'.ledgerTo storeId date = d.ledgerTo storeId date := by
  rw [Db.ledgerTo, Db.ledgerTo, h]

theorem RecordsAll.ledgerTo (h : RecordsAll now rows d d') (storeId : String) (date : Int) :
    d'.ledgerTo storeId date = d.ledgerTo storeId date + addedTo rows storeId date := by
  induction h with
  | same hs => rw [ledgerTo_congr hs.transactions, addedTo, List.map_nil, List.sum_nil, add_zero]
  | cons _ hr _ ih =>
    rw [ih, Db.ledgerTo, hr.transactions, Table.total_put_new _ hr.new, addedTo, addedTo,
      List.map_cons, List.sum_cons, ← add_assoc, Db.ledgerTo]

theorem RecordsAll.kept {r : InventoryTransaction} (h : RecordsAll now rows d d')
    (hr : r ∈ d.transactions.rows) : r ∈ d'.transactions.rows := by
  induction h with
  | same hs => exact hs.transactions.symm ▸ hr
  | @cons m _ _ _ _ _ _ hm _ ih =>
    refine ih (hm.transactions.symm ▸ Table.mem_put.2 (.inr ⟨hr, fun he => ?_⟩))
    have hget := Table.get?_of_mem hr
    rw [he, show key (m.row now) = m.transactionId from rfl, hm.new] at hget
    cases hget

/-- The rows are of now, and are in the ledger. -/
theorem RecordsAll.entered (h : RecordsAll now rows d d') :
    ∀ r ∈ rows, r.occurredAt = now ∧ r ∈ d'.transactions.rows := by
  induction h with
  | same _ => exact List.forall_mem_nil _
  | @cons m _ rows _ d1 _ _ hr hrest ih =>
    refine List.forall_mem_cons.2 ⟨⟨rfl, hrest.kept ?_⟩, ih⟩
    exact hr.transactions.symm ▸ Table.mem_put.2 (.inl rfl)

theorem RecordsAll.old_or_new (h : RecordsAll now rows d d') :
    ∀ r ∈ d'.transactions.rows, r ∈ d.transactions.rows ∨ r.occurredAt = now := by
  induction h with
  | same hs => exact fun r hr => .inl (hs.transactions ▸ hr)
  | cons _ hm _ ih =>
    intro r hr
    rcases ih r hr with hr | hr
    · rcases Table.mem_put.1 (hm.transactions ▸ hr) with rfl | ⟨hr, -⟩
      · exact .inr rfl
      · exact .inl hr
    · exact .inr hr

/-- Nothing is added for another store, or before the day of the rows. -/
theorem addedTo_eq_zero {storeId : String} {date : Int}
    (h : ∀ r ∈ rows, r.storeId = storeId → date < bookDate r.occurredAt) :
    addedTo rows storeId date = 0 := by
  refine List.sum_eq_zero fun x hx => ?_
  obtain ⟨r, hr, rfl⟩ := List.mem_map.1 hx
  exact if_neg fun ha => absurd ha.2.2 (not_le.2 (h r hr ha.1))

theorem Updated.ledgerTo {input : UpdateTransactionInput} {r : InventoryTransaction} {q : Int32}
    (h : Updated input now r q d d') (storeId : String) (date : Int) :
    d'.ledgerTo storeId date =
      d.ledgerTo storeId date - r.availableTo storeId date + (input.edit r).availableTo storeId date := by
  have hrow : key r = input.transactionId := Table.key_of_get? h.row
  have hkey : key (input.edit r) = input.transactionId := hrow
  rw [Db.ledgerTo, h.transactions, Table.total_put, hkey, Table.share_some h.row, Db.ledgerTo]

theorem Deleted.ledgerTo {outboxId : String} {r : InventoryTransaction} {q : Int32}
    (h : Deleted outboxId now r q d d') (storeId : String) (date : Int) :
    d'.ledgerTo storeId date = d.ledgerTo storeId date - r.availableTo storeId date := by
  rw [Db.ledgerTo, h.transactions, Table.total_erase, Table.share_some h.row, Db.ledgerTo]

end

/-! ## The day book of a store -/

/-- The closing balance that is read. -/
def BooksDb.closing (db : BooksDb) (storeId : String) : Int32 :=
  (Db.readI32 (db.availableStock storeId)).getD 0

/-- The day book `k`, if there is one, has been closed with what its store has available; the others are
as they were. -/
structure Refreshed (k : String × Int) (db db' : BooksDb) : Prop where
  stock : db'.stock = db.stock
  books : ∀ b ∈ db'.dayBooks.rows,
    key b = k ∧ b.closingBalance = db.closing k.1 ∨ key b ≠ k ∧ b ∈ db.dayBooks.rows

section
variable {db db' : BooksDb} {k : String × Int} {σ : Type}

theorem closing_congr (h : db'.stock = db.stock) (storeId : String) :
    db'.closing storeId = db.closing storeId := by
  rw [BooksDb.closing, BooksDb.closing, BooksDb.availableStock, BooksDb.availableStock, h]

theorem Refreshed.trans {db1 : BooksDb} (h : Refreshed k db db1) (h' : Refreshed k db1 db') :
    Refreshed k db db' := by
  refine ⟨h'.stock.trans h.stock, fun b hb => ?_⟩
  rcases h'.books b hb with ⟨hk, hc⟩ | ⟨hk, hb⟩
  · exact .inl ⟨hk, hc.trans (closing_congr h.stock _)⟩
  · exact (h.books b hb).imp (fun hb => absurd hb.1 hk) id

/-- What came before has changed the day book `k` only. -/
theorem Refreshed.of_before {db1 : BooksDb} (h : Refreshed k db1 db') (hs : db1.stock = db.stock)
    (hb : ∀ b ∈ db1.dayBooks.rows, key b ≠ k → b ∈ db.dayBooks.rows) : Refreshed k db db' := by
  refine ⟨h.stock.trans hs, fun b hb' => ?_⟩
  rcases h.books b hb' with ⟨hk, hc⟩ | ⟨hk, hb1⟩
  · exact .inl ⟨hk, hc.trans (closing_congr hs _)⟩
  · exact .inr ⟨hk, hb b hb1 hk⟩

theorem refreshed_of_none (h : db.dayBooks.get? k = none) : Refreshed k db db := by
  refine ⟨rfl, fun b hb => .inr ⟨fun he => ?_, hb⟩⟩
  have hget := Table.get?_of_mem hb
  rw [he, h] at hget
  cases hget

theorem eval_query (f : σ → α) (s : σ) : (query f : Prog String σ α).eval s = (.ok (f s), s) := rfl

theorem eval_autocommit_ok {f : σ → Except String σ} {s s' : σ} (h : f s = .ok s') :
    (autocommit f).eval s = (.ok (), s') := by
  simp [eval, autocommit, stmt, h, Except.map]

theorem eval_autocommit_error {f : σ → Except String σ} {s : σ} {e : String} (h : f s = .error e) :
    (autocommit f).eval s = (.error e, s) := by
  simp [eval, autocommit, stmt, h, Except.map]

theorem eval_selectClosing (db : BooksDb) (storeId : String) :
    (selectClosing storeId).eval db = (.ok (db.closing storeId), db) := by
  unfold selectClosing BooksDb.closing
  rw [eval_bind]
  simp only [eval_attempt, eval_query, eval_pure]
  rfl

/-- A failed step leaves the day book that is not there. -/
theorem insertDayBook_cases (hk : db.dayBooks.get? k = none) :
    (∃ e, db.insertDayBook k = .error e) ∨ ∃ b, key b = k ∧
      db.insertDayBook k = .ok { db with dayBooks := db.dayBooks.put b } := by
  unfold BooksDb.insertDayBook
  rw [hk, if_neg (by simp)]
  split
  · exact .inl ⟨_, rfl⟩
  · exact .inr ⟨⟨k.1, k.2, 0⟩, rfl, rfl⟩

/-- An entry goes in if its transaction, its product and its day book are there. -/
theorem upsertEntry_ok {e : DayBookEntry} (hb : (db.dayBooks.get? e.dayBook).isSome)
    (ht : (db.stock.transactions.get? e.transactionId).isSome)
    (hp : (db.stock.products.get? e.productId).isSome) :
    ∃ db', db.upsertEntry e = .ok db' ∧ db'.stock = db.stock ∧ db'.dayBooks = db.dayBooks := by
  unfold BooksDb.upsertEntry
  split
  · exact ⟨_, rfl, rfl, rfl⟩
  · rw [Option.isSome_iff_ne_none] at hb ht hp
    rw [if_neg (by simp [hb, ht, hp])]
    exact ⟨_, rfl, rfl, rfl⟩

theorem setClosing_refreshed (db : BooksDb) (k : String × Int) :
    Refreshed k db (db.setClosing k (db.closing k.1)) := by
  unfold BooksDb.setClosing
  cases hb : db.dayBooks.get? k with
  | none => exact refreshed_of_none hb
  | some b =>
    have hk : key b = k := Table.key_of_get? hb
    refine ⟨rfl, fun b' hb' => ?_⟩
    rcases Table.mem_put.1 hb' with rfl | ⟨hb', hne⟩
    · exact .inl ⟨hk, rfl⟩
    · exact .inr ⟨fun he => hne (he.trans hk.symm), hb'⟩

/-- From the entry of the transaction on. -/
theorem eval_closed (db : BooksDb) (p : Prop) [Decidable p] (e : DayBookEntry)
    (hk : (db.dayBooks.get? k).isSome) (he : e.dayBook = k) (ht : (db.stock.transactions.get? e.transactionId).isSome)
    (hp : (db.stock.products.get? e.productId).isSome) (label label' : String) :
    ∃ db', (onlyIf p (context label (autocommit (·.upsertEntry e))) >>= fun _ =>
      selectClosing k.1 >>= fun closing =>
        context label' (autocommit fun db => .ok (db.setClosing k closing))).eval db = (.ok (), db') ∧
      Refreshed k db db' := by
  obtain ⟨db1, hentry, hsame, hbooks⟩ : ∃ db1, (onlyIf p (context label
      (autocommit (·.upsertEntry e)))).eval db = (.ok (), db1) ∧ db1.stock = db.stock ∧
        db1.dayBooks = db.dayBooks := by
    unfold onlyIf
    split
    · obtain ⟨db1, h1, hs, hb⟩ := upsertEntry_ok (he ▸ hk) ht hp
      refine ⟨db1, ?_, hs, hb⟩
      rw [context, eval_mapError, eval_autocommit_ok h1]
      rfl
    · exact ⟨db, rfl, rfl, rfl⟩
  refine ⟨db1.setClosing k (db1.closing k.1), ?_, ?_⟩
  · rw [eval_bind_ok hentry, eval_bind_ok (eval_selectClosing db1 k.1)]
    rfl
  · exact (setClosing_refreshed db1 k).of_before hsame fun b hb _ => hbooks ▸ hb

/-- A transaction of the ledger goes into the day book of its day, or the day book cannot be created. -/
theorem eval_enterInDayBook (db : BooksDb) {r : InventoryTransaction}
    (ht : (db.stock.transactions.get? r.transactionId).isSome)
    (hp : (db.stock.products.get? r.productId).isSome) :
    ∃ db', (enterInDayBook r).eval db = (.ok (), db') ∧
      Refreshed (r.storeId, bookDate r.occurredAt) db db' := by
  suffices hupsert : ∃ u db', (upsertDayBookEntry r).eval db = (u, db') ∧
      Refreshed (r.storeId, bookDate r.occurredAt) db db' by
    obtain ⟨u, db', hu, hr⟩ := hupsert
    refine ⟨db', ?_, hr⟩
    rw [enterInDayBook, eval_bind, eval_attempt, hu]
    rfl
  unfold upsertDayBookEntry
  rw [eval_bind, eval_attempt, eval_query]
  cases hk : db.dayBooks.get? (r.storeId, bookDate r.occurredAt) with
  | some b =>
    have hcreate : ∀ p : Prog String BooksDb Unit,
        (onlyIf (Except.ok (some b) : Except String (Option DayBook)).toOption.join.isNone p).eval db =
          (.ok (), db) := fun p => rfl
    obtain ⟨db', hdb', hr⟩ := eval_closed db (r.movementType ∉ hiddenMovements)
      ⟨r.transactionId, (r.storeId, bookDate r.occurredAt), r.movementType, r.productId,
        r.quantityDelta, r.stockBucket, r.referenceNumber, r.reasonCode, r.occurredAt⟩
      (hk.symm ▸ rfl) rfl ht hp "Failed to upsert day_book_entries row"
      "Failed to update day_books closing_balance"
    exact ⟨.ok (), db', (eval_bind_ok (hcreate _)).trans hdb', hr⟩
  | none =>
    rcases insertDayBook_cases hk with ⟨e, he⟩ | ⟨b, hb, hput⟩
    · have hcreate : (context "Failed to create day_books row" (autocommit
          (·.insertDayBook (r.storeId, bookDate r.occurredAt)))).eval db =
          (.error ("Failed to create day_books row" ++ ": " ++ e), db) := by
        rw [context, eval_mapError, eval_autocommit_error he]
        rfl
      exact ⟨_, db, eval_bind_error hcreate, refreshed_of_none hk⟩
    · let db1 : BooksDb := { db with dayBooks := db.dayBooks.put b }
      have hcreate : (context "Failed to create day_books row" (autocommit
          (·.insertDayBook (r.storeId, bookDate r.occurredAt)))).eval db = (.ok (), db1) := by
        rw [context, eval_mapError, eval_autocommit_ok hput]
        rfl
      have hbook : (db1.dayBooks.get? (r.storeId, bookDate r.occurredAt)).isSome := by
        rw [← hb]
        simp [db1]
      obtain ⟨db', hdb', hr⟩ := eval_closed db1 (r.movementType ∉ hiddenMovements)
        ⟨r.transactionId, (r.storeId, bookDate r.occurredAt), r.movementType, r.productId,
          r.quantityDelta, r.stockBucket, r.referenceNumber, r.reasonCode, r.occurredAt⟩
        hbook rfl ht hp "Failed to upsert day_book_entries row"
        "Failed to update day_books closing_balance"
      refine ⟨.ok (), db', (eval_bind_ok hcreate).trans hdb', hr.of_before rfl fun x hx hne => ?_⟩
      rcases Table.mem_put.1 hx with rfl | ⟨hx, -⟩
      · exact absurd hb hne
      · exact hx

end

end Desktop
