import InvenTory.Server.Bookkeeping
import InvenTory.Server.Proof.Statements

/-!
# What a turn does to the day books

`Booked py env p db db'`: what becomes of the ledger, the day books and their entries when `p` is
ingested. It holds of every session that returns (`booked`) and of every turn of the loop
(`turn_booked`), if each day book belongs to a store with ledger rows and each entry to a ledger row
(`Backed`), which every turn keeps. An invariant of such steps holds of every `Bookkeeping` state
(`Bookkeeping.invariant`).
-/

namespace Server

open Relational Sql Sql.Prog

variable {F : Exn → Prop} {py : Python} {env : Env} {p : TransactionPayload} {db db' : Db}

/-- `db'` has the ledger, the day books and the entries of `db`. -/
structure SameBooks (db db' : Db) : Prop where
  ledger : db'.ledger = db.ledger
  dayBooks : db'.dayBooks = db.dayBooks
  entries : db'.entries = db.entries

namespace SameBooks

theorem refl (db : Db) : SameBooks db db := ⟨rfl, rfl, rfl⟩

theorem trans {a b c : Db} (h : SameBooks a b) (h' : SameBooks b c) : SameBooks a c :=
  ⟨h'.ledger.trans h.ledger, h'.dayBooks.trans h.dayBooks, h'.entries.trans h.entries⟩

end SameBooks

/-- Day books belong to stores with ledger rows, and entries to ledger rows. -/
structure Backed (db : Db) : Prop where
  books : ∀ b ∈ db.dayBooks, ∃ r ∈ db.ledger.rows, r.storeId = b.storeId
  entries : ∀ e ∈ db.entries, (db.ledger.get? e.transactionId).isSome

theorem SameBooks.backed (h : SameBooks db db') (hb : Backed db) : Backed db' where
  books := by
    rw [h.dayBooks, h.ledger]
    exact hb.books
  entries := by
    rw [h.entries, h.ledger]
    exact hb.entries

theorem upsertStockBalance_books {id : String} {k : StockKey} {d : Int} {now : DateTime}
    (h : db.upsertStockBalance id k d now = .ok db') : SameBooks db db' := by
  unfold Db.upsertStockBalance at h
  split at h
  · cases h
    exact ⟨rfl, rfl, rfl⟩
  · simp only at h
    split at h <;> [cases h; split at h] <;> cases h
    exact ⟨rfl, rfl, rfl⟩

/-! ## Provisioning -/

/-- From a backed database `db'` has the same books. -/
def LeavesBooks (db db' : Db) : Prop := Backed db → SameBooks db db'

theorem LeavesBooks.refl (db : Db) : LeavesBooks db db := fun _ => .refl db

theorem LeavesBooks.trans {a b c : Db} (h : LeavesBooks a b) (h' : LeavesBooks b c) :
    LeavesBooks a c := fun ha => (h ha).trans (h' ((h ha).backed ha))

/-- A store that can be deleted has no ledger rows, and so no day books. -/
theorem deleteStore_leaves {id : String} (h : db.deleteStore id = .ok db') :
    LeavesBooks db db' := by
  obtain ⟨-, hledger, -, -, rfl⟩ := deleteStore_ok h
  intro hb
  have hbooks : ∀ b ∈ db.dayBooks, b.storeId ≠ id := fun b hm => by
    obtain ⟨r, hr, he⟩ := hb.books b hm
    exact he ▸ hledger r hr
  have hnone : db.dayBooks.filter (·.storeId = id) = [] :=
    List.filter_eq_nil_iff.2 (by simpa using hbooks)
  refine ⟨rfl, ?_, ?_⟩
  · exact List.filter_eq_self.2 (by simpa using hbooks)
  · simp [hnone]

theorem insertStore_leaves {r : Store} (h : db.insertStore r = .ok db') : LeavesBooks db db' := by
  obtain ⟨-, -, rfl⟩ := insertStore_ok h
  exact fun _ => ⟨rfl, rfl, rfl⟩

theorem insertProduct_leaves {r : Product} (h : db.insertProduct r = .ok db') :
    LeavesBooks db db' := by
  obtain ⟨-, -, rfl⟩ := insertProduct_ok h
  exact fun _ => ⟨rfl, rfl, rfl⟩

theorem insertDevice_leaves {r : Device} (h : db.insertDevice r = .ok db') :
    LeavesBooks db db' := by
  obtain ⟨-, -, rfl⟩ := insertDevice_ok h
  exact fun _ => ⟨rfl, rfl, rfl⟩

section
variable {c c' : Conn Db} {u : Unit} {o : Option IngestPrefetch} {id : String}

theorem provisionStore_leaves (h : (provisionStore py env o id).Yields F c (.ok u) c') :
    LeavesBooks c.work c'.work :=
  isKnown_rel .refl (fun _ _ => createStore_rel (fun _ _ _ => .trans)
    (fun _ _ _ => insertStore_leaves) fun _ _ _ => deleteStore_leaves) h

theorem provisionProduct_leaves (h : (provisionProduct env o id).Yields F c (.ok u) c') :
    LeavesBooks c.work c'.work :=
  isKnown_rel .refl (fun _ _ hc => execute_rel (fun _ _ => insertProduct_leaves)
    (yields_select_bind hc)) h

theorem provisionDevice_leaves {store : String}
    (h : (provisionDevice o id store).Yields F c (.ok u) c') : LeavesBooks c.work c'.work :=
  isKnown_rel .refl (fun _ _ => execute_rel fun _ _ => insertDevice_leaves) h

end

/-! ## The day book -/

/-- The book of a store for the time `d`, and all books once it exists. -/
inductive BookFor (env : Env) (db : Db) (storeId : String) (d : DateTime) :
    DayBook → List DayBook → Prop
  | found {b : DayBook} (h : db.dayBookOf storeId d.startOfDay = some b) :
    BookFor env db storeId d b db.dayBooks
  | created (h : db.dayBookOf storeId d.startOfDay = none) :
    BookFor env db storeId d ⟨env.dayBookId, storeId, d.startOfDay, 0, false⟩
      (db.dayBooks ++ [⟨env.dayBookId, storeId, d.startOfDay, 0, false⟩])

/-- The entry that a ledger row gets in the book `bookId`. -/
def InventoryTransaction.entry (tx : InventoryTransaction) (env : Env) (bookId : String) :
    DayBookEntry :=
  ⟨env.entryId, bookId, tx.transactionId, tx.movementType, tx.productId, tx.quantityDelta,
    tx.stockBucket, tx.referenceNumber, tx.reasonCode, tx.occurredAt⟩

theorem getOrCreateDayBook_ok {id : String} {d : DateTime} {b : DayBook} {c c' : Conn Db}
    (h : (getOrCreateDayBook env id d).Yields F c (.ok b) c') :
    ∃ books, BookFor env c.work id d b books ∧ c'.work = { c.work with dayBooks := books } := by
  have h1 := yields_select_bind h
  split at h1
  · rename_i b' hb'
    obtain ⟨he, rfl⟩ := yields_pure h1
    cases he
    exact ⟨_, .found hb', rfl⟩
  · rename_i hb'
    obtain ⟨w, hw, h2⟩ := yields_execute_bind h1
    obtain ⟨he, rfl⟩ := yields_pure h2
    cases he
    exact ⟨_, .created hb', (insertDayBook_ok hw).2⟩

/-- A ledger row without an entry gets one, and its book the opening balance of the moment. -/
theorem addTransactionToDayBook_ok {tx : InventoryTransaction} {e : DayBookEntry} {c c' : Conn Db}
    (hnone : ∀ e ∈ c.work.entries, e.transactionId ≠ tx.transactionId)
    (h : (addTransactionToDayBook env tx).Yields F c (.ok e) c') :
    ∃ b books, BookFor env c.work tx.storeId tx.occurredAt b books ∧
      c'.work = { c.work with
        dayBooks := books.map fun x =>
          if x.id = b.id then { x with openingBalance := c.work.openingTotal b } else x
        entries := c.work.entries ++ [tx.entry env b.id] } := by
  obtain ⟨b, c1, h1, h2⟩ := yields_bind_ok h
  obtain ⟨books, hbook, hw1⟩ := getOrCreateDayBook_ok h1
  refine ⟨b, books, hbook, ?_⟩
  have h3 := yields_select_bind h2
  split at h3
  · rename_i e' he'
    rw [hw1] at he'
    exact absurd (by simpa using List.find?_some he') (hnone e' (List.mem_of_find?_eq_some he'))
  · obtain ⟨w, hw, h4⟩ := yields_execute_bind h3
    obtain ⟨-, -, -, rfl⟩ := insertDayBookEntry_ok hw
    obtain ⟨_, c2, h5, h6⟩ := yields_bind_ok h4
    have h7 := yields_select_bind h5
    obtain ⟨hw5, -⟩ := yields_execute_ok h7
    obtain ⟨-, rfl⟩ := yields_pure h6
    have hw6 := (Except.ok.inj hw5).symm
    rw [hw6, hw1]
    rfl

/-! ## The item -/

/-- What ingesting `p` may do to the ledger and the day books (module doc). -/
inductive Booked (py : Python) (env : Env) (p : TransactionPayload) (db db' : Db) : Prop
  | unchanged (h : SameBooks db db')
  /-- A ledger row is edited in place; its entry and the books are left alone. -/
  | edited {row : InventoryTransaction} (hrow : db.ledger.get? p.transactionId = some row)
    (hne : row.quantityDelta ≠ p.quantityDelta) (hledger : db'.ledger = db.ledger.put (row.edit p))
    (hbooks : db'.dayBooks = db.dayBooks) (hentries : db'.entries = db.entries)
  /-- A new ledger row and its entry; the book of the entry is refreshed, and no other. -/
  | inserted {b : DayBook} {books : List DayBook}
    (hnew : db.ledger.get? p.transactionId = none) (hvalid : validatePayload py p = none)
    (hstock : 0 ≤ p.quantityDelta ∨ 0 ≤ db.quantity p.stock + p.quantityDelta)
    (hledger : db'.ledger = db.ledger.put (p.ledgerRow env))
    (hbook : BookFor env db p.storeId p.occurredAt b books)
    (hbooks : db'.dayBooks = books.map fun x =>
      if x.id = b.id then { x with openingBalance := db'.openingTotal b } else x)
    (hentries : db'.entries = db.entries ++ [(p.ledgerRow env).entry env b.id])

theorem BookFor.congr {storeId : String} {d : DateTime} {b : DayBook} {books : List DayBook}
    (h : BookFor env db' storeId d b books) (hb : db'.dayBooks = db.dayBooks) :
    BookFor env db storeId d b books := by
  have hof : ∀ d, db'.dayBookOf storeId d = db.dayBookOf storeId d := fun d => by
    unfold Db.dayBookOf
    rw [hb]
  cases h with
  | found h1 =>
    rw [hb]
    rw [hof] at h1
    exact .found h1
  | created h1 =>
    rw [hb]
    rw [hof] at h1
    exact .created h1

section
variable {cn cn' : Conn Db} {ret : Returned}

theorem reject_booked {reason : String} (hs : SameBooks db cn.work)
    (h : (reject env p reason).Yields F cn (.ok ret) cn') : Booked py env p db cn'.work := by
  obtain ⟨w, hw, h1⟩ := yields_execute_bind h
  obtain ⟨-, rfl⟩ := insertReceipt_ok hw
  obtain ⟨-, rfl⟩ := yields_pure h1
  exact .unchanged (hs.trans ⟨rfl, rfl, rfl⟩)

theorem insertMovement_booked (hvalid : validatePayload py p = none)
    (hstock : 0 ≤ p.quantityDelta ∨ 0 ≤ db.quantity p.stock + p.quantityDelta)
    (hb : Backed db) (hs : SameBooks db cn.work)
    (h : (insertMovement env p).Yields F cn (.ok ret) cn') : Booked py env p db cn'.work := by
  obtain ⟨w1, hw1, h1⟩ := yields_execute_bind h
  obtain ⟨hnew, rfl⟩ := insertLedger_ok hw1
  change cn.work.ledger.get? p.transactionId = none at hnew
  obtain ⟨e, c2, h2, h3⟩ := yields_bind_ok h1
  have hnone : ∀ e ∈ cn.work.entries, e.transactionId ≠ p.transactionId := fun e he heq => by
    have hsome := (hs.backed hb).entries e he
    rw [heq, hnew] at hsome
    cases hsome
  obtain ⟨b, books, hbook, hw2⟩ := addTransactionToDayBook_ok hnone h2
  obtain ⟨w3, hw3, h4⟩ := yields_execute_bind h3
  obtain ⟨hl3, hd3, he3⟩ := upsertStockBalance_books hw3
  obtain ⟨w4, hw4, h5⟩ := yields_execute_bind h4
  obtain ⟨-, rfl⟩ := insertReceipt_ok hw4
  obtain ⟨-, rfl⟩ := yields_pure h5
  have hledger : w3.ledger = db.ledger.put (p.ledgerRow env) := by
    rw [hl3, hw2]
    show cn.work.ledger.put _ = _
    rw [hs.ledger]
  refine .inserted (hs.ledger ▸ hnew) hvalid hstock hledger (hbook.congr hs.dayBooks) ?_ ?_
  · show w3.dayBooks = _
    rw [hd3, hw2]
    unfold Db.openingTotal
    rw [hledger, ← hs.ledger]
  · show w3.entries = _
    rw [he3, hw2, ← hs.entries]

theorem checkAndInsert_booked (hvalid : validatePayload py p = none) (hb : Backed db)
    (hs : SameBooks db cn.work) (hbal : cn.work.balances = db.balances)
    (h : (checkAndInsert env p).Yields F cn (.ok ret) cn') : Booked py env p db cn'.work := by
  unfold checkAndInsert at h
  split at h
  · have h1 := yields_select_bind h
    rw [quantity_congr hbal] at h1
    split at h1
    · exact reject_booked hs h1
    · rename_i hge
      exact insertMovement_booked hvalid (.inr (by omega)) hb hs h1
  · rename_i hge
    exact insertMovement_booked hvalid (.inl (by omega)) hb hs h

theorem ingestNew_booked {o : Option IngestPrefetch} (hb : Backed db) (hs : SameBooks db cn.work)
    (hbal : cn.work.balances = db.balances)
    (h : (ingestNew py env o p).Yields F cn (.ok ret) cn') : Booked py env p db cn'.work := by
  unfold ingestNew at h
  split at h
  · exact reject_booked hs h
  rename_i hvalid
  obtain ⟨_, c1, h1, h2⟩ := yields_bind_ok h
  obtain ⟨_, c2, h3, h4⟩ := yields_bind_ok h2
  obtain ⟨_, c3, h5, h6⟩ := yields_bind_ok h4
  have hl := (provisionStore_leaves h1).trans
    ((provisionProduct_leaves h3).trans (provisionDevice_leaves h5))
  have hf := (provisionStore_frame h1).trans
    ((provisionProduct_frame h3).trans (provisionDevice_frame h5))
  exact checkAndInsert_booked hvalid hb (hs.trans (hl (hs.backed hb)))
    (hf.balances.trans hbal) h6

theorem retryStale_booked {o : Option IngestPrefetch} (hb : Backed cn.work)
    (h : (retryStale py env o p).Yields F cn (.ok ret) cn') :
    Booked py env p cn.work cn'.work := by
  obtain ⟨w, hw, h1⟩ := yields_execute_bind h
  cases hw
  refine ingestNew_booked hb ?_ ?_ h1
  · exact ⟨rfl, rfl, rfl⟩
  · rfl

theorem editLedgerRow_booked {row : InventoryTransaction} {u : Unit}
    (hrow : cn.work.ledger.get? p.transactionId = some row)
    (h : (editLedgerRow env p row).Yields F cn (.ok u) cn') :
    Booked py env p cn.work cn'.work := by
  unfold editLedgerRow at h
  split at h
  · rename_i hne
    obtain ⟨w, hw, h1⟩ := yields_execute_bind h
    obtain ⟨h2, -⟩ := yields_execute_ok h1
    obtain ⟨hl, hd, he⟩ := upsertStockBalance_books hw
    have h3 := (Except.ok.inj h2).symm
    rw [h3]
    refine .edited hrow hne ?_ hd he
    show w.ledger.put _ = _
    rw [hl]
  · rw [(yields_pure h).2]
    exact .unchanged (.refl _)

/-- Only the receipts are changed after the edit. -/
theorem Booked.then {db1 : Db} (h : Booked py env p db db1) (h1 : SameBooks db1 db') :
    Booked py env p db db' := by
  cases h with
  | unchanged h => exact .unchanged (h.trans h1)
  | edited hrow hne hledger hbooks hentries =>
    exact .edited hrow hne (h1.ledger.trans hledger) (h1.dayBooks.trans hbooks)
      (h1.entries.trans hentries)
  | inserted hnew hvalid hstock hledger hbook hbooks hentries =>
    refine .inserted hnew hvalid hstock (h1.ledger.trans hledger) hbook ?_
      (h1.entries.trans hentries)
    rw [h1.dayBooks, hbooks]
    unfold Db.openingTotal
    rw [h1.ledger]

theorem ledgerFirst_booked {o : Option IngestPrefetch} {row : InventoryTransaction}
    {r : SyncReceipt} (hrow : cn.work.ledger.get? p.transactionId = some row)
    (h : (ledgerFirst env o p row).Yields F cn (.ok r) cn') :
    Booked py env p cn.work cn'.work := by
  obtain ⟨_, c1, h1, h2⟩ := yields_bind_ok h
  refine (editLedgerRow_booked hrow h1).then ?_
  obtain ⟨found, c2, h3, h4⟩ := yields_bind_ok h2
  obtain ⟨rfl, -⟩ := lookupReceipt_ok h3
  split at h4
  · split at h4
    · rw [(yields_pure h4).2]
      exact .refl _
    · obtain ⟨w, hw, h5⟩ := yields_execute_bind h4
      cases hw
      rw [(yields_pure h5).2]
      exact ⟨rfl, rfl, rfl⟩
  · obtain ⟨w, hw, h5⟩ := yields_execute_bind h4
    obtain ⟨-, rfl⟩ := insertReceipt_ok hw
    rw [(yields_pure h5).2]
    exact ⟨rfl, rfl, rfl⟩

/-- **The spec of one item**: whatever fails on the way, a session that returns did this. -/
theorem booked {o : Option IngestPrefetch} (hb : Backed db)
    (h : (ingestTransactionImpl py env p o).Yields F ⟨db, db⟩ (.ok ret) cn') :
    Booked py env p db cn'.work := by
  obtain ⟨row, c1, h1, h2⟩ := yields_bind_ok h
  obtain ⟨rfl, hrow⟩ := selectLedgerRow_ok h1
  cases row with
  | some row =>
    obtain ⟨r, c2, h3, h4⟩ := yields_bind_ok h2
    rw [(yields_pure h4).2]
    exact ledgerFirst_booked (hrow row rfl) h3
  | none =>
    obtain ⟨r, c2, h3, h4⟩ := yields_bind_ok h2
    obtain ⟨rfl, -⟩ := lookupReceipt_ok h3
    cases r with
    | none => exact ingestNew_booked hb (.refl _) rfl h4
    | some r =>
      simp only at h4
      split at h4
      · rw [(yields_pure h4).2]
        exact .unchanged (.refl _)
      split at h4
      · exact retryStale_booked hb h4
      obtain ⟨a, c3, h5, h6⟩ := yields_bind_ok h4
      obtain ⟨rfl, -⟩ := staleCheck_work h5
      split at h6
      · exact retryStale_booked hb h6
      · rw [(yields_pure h6).2]
        exact .unchanged (.refl _)
      · rw [(yields_pure h6).2]
        exact .unchanged (.refl _)

end

/-! ## The turn -/

/-- The handling of an exception changes receipts only. -/
theorem handleError_books {s : Submission} {exc : Exn} {res : Except Exn SyncReceipt}
    (h : (handleError s exc).Yields F db res db') : SameBooks db db' := by
  refine handleError_keeps_of (I := SameBooks db) (fun f hf w w' hw hok => ?_) s exc F db res db' h
    (.refl db)
  cases hf with
  | insertReceipt r =>
    obtain ⟨-, rfl⟩ := insertReceipt_ok hok
    exact hw.trans ⟨rfl, rfl, rfl⟩
  | updateReceipt r =>
    cases hok
    exact hw.trans ⟨rfl, rfl, rfl⟩

/-- **The spec of a turn.** -/
theorem turn_booked {c : IngestPrefetch} {s : Submission}
    {res : Except Exn (SyncReceipt × IngestPrefetch)} (hb : Backed db)
    (h : (ingestItem py c s).Yields F db res db') : Booked py s.env s.payload db db' := by
  rcases yields_bind h with ⟨e, h1, -⟩ | ⟨o, db1, h1, h2⟩
  · obtain ⟨_, he, _⟩ := yields_attempt h1
    cases he
  obtain ⟨o', ho, h3⟩ := yields_attempt h1
  cases ho
  rcases yields_session h3 with ⟨exc, rfl, rfl, -⟩ | ⟨ret, cn, rfl, hok, rfl⟩
  · rcases yields_bind h2 with ⟨e, h4, -⟩ | ⟨r, db2, h4, h5⟩
    · exact .unchanged (handleError_books h4)
    · rw [(yields_pure h5).2]
      exact .unchanged (handleError_books h4)
  · have hbooked := booked hb hok
    cases ret with
    | live r =>
      rw [(yields_pure h2).2]
      exact hbooked
    | expired =>
      rw [(yields_throw h2).2]
      exact hbooked

theorem mem_put_of_store {t : Table InventoryTransaction} {r : InventoryTransaction}
    (row : InventoryTransaction) (h : r ∈ t.rows) (hstore : t.get? row.transactionId = some r → row.storeId = r.storeId) :
    ∃ x ∈ (t.put row).rows, x.storeId = r.storeId := by
  by_cases hk : r.transactionId = row.transactionId
  · have hget : t.get? row.transactionId = some r := hk ▸ Table.get?_of_mem h
    exact ⟨row, Table.mem_put.2 (.inl rfl), hstore hget⟩
  · exact ⟨r, Table.mem_put.2 (.inr ⟨h, hk⟩), rfl⟩

theorem Booked.backed (h : Booked py env p db db') (hb : Backed db) : Backed db' := by
  have hkeys : ∀ {row : InventoryTransaction}, db'.ledger = db.ledger.put row →
      ∀ id, (db.ledger.get? id).isSome → (db'.ledger.get? id).isSome := fun hput id hid => by
    rw [hput, Table.get?_put]
    split
    · rfl
    · exact hid
  cases h with
  | unchanged h => exact h.backed hb
  | edited hrow hne hledger hbooks hentries =>
    rename_i row
    have hid : row.transactionId = p.transactionId := Table.key_of_get? hrow
    refine ⟨fun b hm => ?_, fun e he => hkeys hledger _ (hb.entries e (hentries ▸ he))⟩
    obtain ⟨r, hr, hstore⟩ := hb.books b (hbooks ▸ hm)
    obtain ⟨x, hx, hxs⟩ := mem_put_of_store (row.edit p) hr fun hget => by
      change db.ledger.get? row.transactionId = some r at hget
      rw [hid, hrow] at hget
      cases hget
      rfl
    exact ⟨x, hledger ▸ hx, hxs.trans hstore⟩
  | inserted hnew hvalid hstock hledger hbook hbooks hentries =>
    have hself : p.ledgerRow env ∈ db'.ledger.rows := by
      rw [hledger]
      exact Table.mem_put.2 (.inl rfl)
    refine ⟨fun b' hm => ?_, fun e he => ?_⟩
    · -- a book of before, or the new one
      have hold : ∀ x ∈ db.dayBooks, ∃ r ∈ db'.ledger.rows, r.storeId = x.storeId := fun x hx => by
        obtain ⟨r, hr, hstore⟩ := hb.books x hx
        obtain ⟨y, hy, hys⟩ := mem_put_of_store (p.ledgerRow env) hr fun hget => by
          change db.ledger.get? p.transactionId = some r at hget
          rw [hnew] at hget
          cases hget
        exact ⟨y, hledger ▸ hy, hys.trans hstore⟩
      rw [hbooks] at hm
      obtain ⟨x, hx, rfl⟩ := List.mem_map.1 hm
      have hstore : ∃ r ∈ db'.ledger.rows, r.storeId = x.storeId := by
        cases hbook with
        | found _ => exact hold x hx
        | created _ =>
          rcases List.mem_append.1 hx with hx | hx
          · exact hold x hx
          · rw [List.mem_singleton.1 hx]
            exact ⟨_, hself, rfl⟩
      split
      · exact hstore
      · exact hstore
    · rw [hentries] at he
      rcases List.mem_append.1 he with he | he
      · exact hkeys hledger _ (hb.entries e he)
      · rw [List.mem_singleton.1 he]
        exact Option.isSome_iff_exists.2 ⟨_, Table.get?_of_mem hself⟩

/-! ## The machine -/

/-- A balance sheet, and the flag that it sets. -/
theorem generateBalanceSheet_ok {now : DateTime} {id : String} {sheet : BalanceSheet}
    {c c' : Conn Db} (h : (generateBalanceSheet now id).Yields F c (.ok sheet) c') :
    ∃ b ∈ c.work.dayBooks, sheet.storeId = b.storeId ∧ sheet.bookDate = b.bookDate ∧
      sheet.openingBalance = b.openingBalance ∧
      sheet.closingBalance = b.openingBalance + c.work.dayTotal b ∧
      c'.work = c.work.setBalanceSheetGenerated b.id := by
  have h1 := yields_select_bind h
  split at h1
  · cases (yields_throw h1).1
  rename_i b hb
  have h2 := yields_select_bind h1
  obtain ⟨w, hw, h3⟩ := yields_execute_bind h2
  cases hw
  have h4 := yields_select_bind h3
  obtain ⟨hs, rfl⟩ := yields_pure h4
  cases hs
  exact ⟨b, List.mem_of_find?_eq_some hb, rfl, rfl, rfl, rfl, rfl⟩

/-- A request for a balance sheet sets the flag of a book, or does nothing. -/
theorem balanceSheet_effect {now : DateTime} {id : String} {res : Except Exn BalanceSheet}
    (h : (session (generateBalanceSheet now id)).Yields F db res db') :
    db' = db ∨ ∃ id, db' = db.setBalanceSheetGenerated id := by
  rcases yields_session h with ⟨e, -, rfl, -⟩ | ⟨sheet, c, -, hok, rfl⟩
  · exact .inl rfl
  · obtain ⟨b, -, -, -, -, -, hw⟩ := generateBalanceSheet_ok hok
    exact .inr ⟨b.id, hw⟩

theorem setBalanceSheetGenerated_backed (hb : Backed db) (id : String) :
    Backed (db.setBalanceSheetGenerated id) := by
  refine ⟨fun b hm => ?_, hb.entries⟩
  obtain ⟨x, hx, rfl⟩ := List.mem_map.1 hm
  split
  · exact hb.books x hx
  · exact hb.books x hx

/-- **What the steps keep holds of every state.** -/
theorem Bookkeeping.invariant {G : Db → Submission → Prop} {I : Db → Prop}
    (h0 : ∀ db, Unbooked db → I db)
    (hturn : ∀ db db' s, Backed db → I db → G db s → Booked py s.env s.payload db db' → I db')
    (hsheet : ∀ db id, I db → I (db.setBalanceSheetGenerated id))
    {batch : Option (IngestPrefetch × List Item)} (h : Bookkeeping F py G db batch) :
    Backed db ∧ I db := by
  induction h with
  | start h =>
    refine ⟨⟨fun b hb => ?_, fun e he => ?_⟩, h0 _ h⟩
    · rw [h.dayBooks] at hb
      cases hb
    · rw [h.entries] at he
      cases he
  | request _ _ _ ih => exact ih
  | respond _ ih => exact ih
  | turn _ hG hi ih =>
    have hbooked := turn_booked ih.1 hi
    exact ⟨hbooked.backed ih.1, hturn _ _ _ ih.1 ih.2 hG hbooked⟩
  | balanceSheet _ hs ih =>
    rcases balanceSheet_effect hs with rfl | ⟨id, rfl⟩
    · exact ih
    · exact ⟨setBalanceSheetGenerated_backed ih.1 id, hsheet _ id ih.2⟩

end Server
