import InvenTory.Server.Proof.Books

/-!
# The balances of the day books

An opening balance is refreshed only when an entry is added to its very book. So the opening balances
agree with the ledger as long as no AVAILABLE movement is ingested, or edited, that is older than a
day book of its store (`openings_right`), and a balance sheet then closes with what the ledger says at
the end of the day (`books_right`). A movement that arrives late leaves the later books as they were
(`late_event_wrong`).
-/

namespace Server

open Relational Sql Sql.Prog

variable {F : Exn → Prop} {py : Python} {env : Env} {p : TransactionPayload} {db db' : Db}

/-! ## The ledger before a time -/

/-- What a ledger row adds to the AVAILABLE stock of a store before the time `t`. -/
def InventoryTransaction.availableBefore (storeId : String) (t : Int) (r : InventoryTransaction) :
    Int :=
  if r.storeId = storeId ∧ r.stockBucket = "AVAILABLE" ∧ r.occurredAt.instant < t ∧
    r.syncStatus ≠ .rejected then r.quantityDelta
  else 0

/-- The sum of a store's AVAILABLE deltas before `t`, REJECTED rows left out. -/
def Db.availableBefore (db : Db) (storeId : String) (t : Int) : Int :=
  db.ledger.total (InventoryTransaction.availableBefore storeId t)

/-- A row that does not count: of another bucket or store, or not before `t`. -/
theorem availableBefore_eq_zero {storeId : String} {t : Int} {r : InventoryTransaction}
    (h : r.stockBucket = "AVAILABLE" → r.storeId = storeId → t ≤ r.occurredAt.instant) :
    r.availableBefore storeId t = 0 := by
  unfold InventoryTransaction.availableBefore
  refine if_neg fun hr => ?_
  have hle := h hr.2.1 hr.1
  have hlt := hr.2.2.1
  omega

theorem availableBefore_put {r : InventoryTransaction} {storeId : String} {t : Int}
    (hledger : db'.ledger = db.ledger.put r) (hr : r.availableBefore storeId t = 0)
    (hold : ∀ x, db.ledger.get? r.transactionId = some x → x.availableBefore storeId t = 0) :
    db'.availableBefore storeId t = db.availableBefore storeId t := by
  have hshare : db.ledger.share (InventoryTransaction.availableBefore storeId t) (key r) = 0 := by
    cases hx : db.ledger.get? (key r) with
    | none => exact Table.share_none hx
    | some x => exact (Table.share_some hx).trans (hold x hx)
  unfold Db.availableBefore
  rw [hledger, Table.total_put, hshare, hr]
  omega

/-- Up to the end of a day, and on the day. -/
theorem availableBefore_add_dayTotal (db : Db) (b : DayBook) :
    db.availableBefore b.storeId b.bookDate.instant + db.dayTotal b =
      db.availableBefore b.storeId (b.bookDate.instant + DateTime.day) := by
  have hrow : ∀ r : InventoryTransaction, r.availableBefore b.storeId b.bookDate.instant +
      (if r.storeId = b.storeId ∧ r.stockBucket = "AVAILABLE" ∧
        b.bookDate.instant ≤ r.occurredAt.instant ∧
        r.occurredAt.instant < b.bookDate.instant + DateTime.day ∧ r.syncStatus ≠ .rejected then
        r.quantityDelta else 0) =
      r.availableBefore b.storeId (b.bookDate.instant + DateTime.day) := by
    intro r
    have hday : (0 : Int) < DateTime.day := by decide
    unfold InventoryTransaction.availableBefore
    by_cases hstore : r.storeId = b.storeId ∧ r.stockBucket = "AVAILABLE" ∧ r.syncStatus ≠ .rejected
    · obtain ⟨h1, h2, h3⟩ := hstore
      simp only [h1, h2, h3, true_and, and_true, ne_eq, not_false_eq_true]
      split <;> split <;> split <;> omega
    · have hno : ∀ q : Prop, ¬ (r.storeId = b.storeId ∧ r.stockBucket = "AVAILABLE" ∧ q ∧
          r.syncStatus ≠ .rejected) := fun q hq => hstore ⟨hq.1, hq.2.1, hq.2.2.2⟩
      rw [if_neg (hno _), if_neg (hno _), if_neg fun hq => hstore ⟨hq.1, hq.2.1, hq.2.2.2.2⟩]
      rfl
  unfold Db.availableBefore Db.dayTotal Table.total
  rw [← List.sum_map_add]
  exact congrArg List.sum (List.map_congr_left fun r _ => hrow r)

/-! ## Opening balances -/

/-- Every opening balance is what the ledger says, and no two books have one id. -/
structure OpeningsRight (db : Db) : Prop where
  opening : ∀ b ∈ db.dayBooks, b.openingBalance = db.availableBefore b.storeId b.bookDate.instant
  ids : (db.dayBooks.map DayBook.id).Nodup

/-- No day book of the store begins after `t`. -/
def Db.NoLaterBook (db : Db) (storeId : String) (t : Int) : Prop :=
  ∀ b ∈ db.dayBooks, b.storeId = storeId → b.bookDate.instant ≤ t

/-- The key of a new book is new, and the AVAILABLE row that the item edits or inserts, if it does so,
is not older than a day book of its store. -/
structure InOrder (py : Python) (db : Db) (s : Submission) : Prop where
  fresh : ∀ b ∈ db.dayBooks, b.id ≠ s.env.dayBookId
  edit : ∀ row, db.ledger.get? s.payload.transactionId = some row →
    row.quantityDelta ≠ s.payload.quantityDelta → row.stockBucket = "AVAILABLE" →
      db.NoLaterBook row.storeId row.occurredAt.instant
  insert : db.ledger.get? s.payload.transactionId = none → validatePayload py s.payload = none →
    (0 ≤ s.payload.quantityDelta ∨ 0 ≤ db.quantity s.payload.stock + s.payload.quantityDelta) →
      s.payload.stockBucket = "AVAILABLE" →
        db.NoLaterBook s.payload.storeId s.payload.occurredAt.instant

theorem startOfDay_instant_le (d : DateTime) : d.startOfDay.instant ≤ d.instant := by
  have hday : (0 : Int) < DateTime.day := by decide
  have hle : d.wall / DateTime.day * DateTime.day ≤ d.wall := Int.ediv_mul_le _ hday.ne'
  unfold DateTime.startOfDay DateTime.instant
  dsimp only
  omega

theorem eq_of_bookId {books : List DayBook} (hn : (books.map DayBook.id).Nodup) {a b : DayBook}
    (ha : a ∈ books) (hb : b ∈ books) (h : a.id = b.id) : a = b :=
  List.inj_on_of_nodup_map hn ha hb h

/-- The book of an item is one of the books, which are those of before and the new one. -/
theorem BookFor.mem {storeId : String} {d : DateTime} {b : DayBook} {books : List DayBook}
    (h : BookFor env db storeId d b books) : b ∈ books ∧ ∀ x ∈ books, x ≠ b → x ∈ db.dayBooks := by
  cases h with
  | found h => exact ⟨List.mem_of_find?_eq_some h, fun _ hx _ => hx⟩
  | created h =>
    refine ⟨List.mem_append.2 (.inr (List.mem_singleton.2 rfl)), fun x hx hne => ?_⟩
    rcases List.mem_append.1 hx with hx | hx
    · exact hx
    · exact absurd (List.mem_singleton.1 hx) hne

theorem BookFor.nodup {storeId : String} {d : DateTime} {b : DayBook} {books : List DayBook}
    (h : BookFor env db storeId d b books) (hids : (db.dayBooks.map DayBook.id).Nodup)
    (hfresh : ∀ b ∈ db.dayBooks, b.id ≠ env.dayBookId) : (books.map DayBook.id).Nodup := by
  cases h with
  | found _ => exact hids
  | created _ =>
    rw [List.map_append, List.nodup_append]
    refine ⟨hids, List.nodup_singleton _, fun a ha x hx => ?_⟩
    obtain ⟨b, hb, rfl⟩ := List.mem_map.1 ha
    rw [List.map_singleton, List.mem_singleton] at hx
    rw [hx]
    exact hfresh b hb

/-- An edit of a row that is not older than the books of its store. -/
theorem OpeningsRight.edit (h : OpeningsRight db) {row : InventoryTransaction}
    (hrow : db.ledger.get? p.transactionId = some row)
    (hlater : row.stockBucket = "AVAILABLE" → db.NoLaterBook row.storeId row.occurredAt.instant)
    (hledger : db'.ledger = db.ledger.put (row.edit p)) (hbooks : db'.dayBooks = db.dayBooks) :
    OpeningsRight db' := by
  refine ⟨fun b hb => ?_, hbooks ▸ h.ids⟩
  rw [hbooks] at hb
  have hzero : row.stockBucket = "AVAILABLE" → row.storeId = b.storeId →
      b.bookDate.instant ≤ row.occurredAt.instant := fun ha hs => hlater ha b hb hs.symm
  rw [h.opening b hb, availableBefore_put hledger]
  · exact availableBefore_eq_zero (r := row.edit p) hzero
  · intro x hx
    have hid : row.transactionId = p.transactionId := Table.key_of_get? hrow
    change db.ledger.get? row.transactionId = some x at hx
    rw [hid, hrow] at hx
    cases hx
    exact availableBefore_eq_zero hzero

/-- A new row that is not older than the books of its store: its own book is refreshed, and the
others need not be. -/
theorem OpeningsRight.insert (h : OpeningsRight db) {b : DayBook} {books : List DayBook}
    (hfresh : ∀ b ∈ db.dayBooks, b.id ≠ env.dayBookId)
    (hnew : db.ledger.get? p.transactionId = none)
    (hlater : p.stockBucket = "AVAILABLE" → db.NoLaterBook p.storeId p.occurredAt.instant)
    (hledger : db'.ledger = db.ledger.put (p.ledgerRow env))
    (hbook : BookFor env db p.storeId p.occurredAt b books)
    (hbooks : db'.dayBooks = books.map fun x =>
      if x.id = b.id then { x with openingBalance := db'.openingTotal b } else x) :
    OpeningsRight db' := by
  have hids := hbook.nodup h.ids hfresh
  obtain ⟨hmem, hold⟩ := hbook.mem
  refine ⟨fun y hy => ?_, ?_⟩
  · rw [hbooks] at hy
    obtain ⟨x, hx, rfl⟩ := List.mem_map.1 hy
    split
    · rename_i hid
      rw [eq_of_bookId hids hx hmem hid]
      rfl
    · rename_i hid
      have hx' := hold x hx fun he => hid (congrArg DayBook.id he)
      rw [h.opening x hx', availableBefore_put hledger]
      · exact availableBefore_eq_zero (r := p.ledgerRow env)
          fun ha hs => hlater ha x hx' hs.symm
      · intro r hr
        change db.ledger.get? p.transactionId = some r at hr
        rw [hnew] at hr
        cases hr
  · rw [hbooks, List.map_map]
    refine (congrArg List.Nodup (List.map_congr_left fun x _ => ?_)).mpr hids
    show (if x.id = b.id then _ else x : DayBook).id = x.id
    split
    · rfl
    · rfl

/-- **A turn that is in order keeps the opening balances right.** -/
theorem Booked.openingsRight {s : Submission} (h : Booked py s.env s.payload db db')
    (ho : OpeningsRight db) (hG : InOrder py db s) : OpeningsRight db' := by
  cases h with
  | unchanged h =>
    refine ⟨?_, h.dayBooks ▸ ho.ids⟩
    unfold Db.availableBefore
    rw [h.dayBooks, h.ledger]
    exact ho.opening
  | edited hrow hne hledger hbooks _ => exact ho.edit hrow (hG.edit _ hrow hne) hledger hbooks
  | inserted hnew hvalid hstock hledger hbook hbooks _ =>
    exact ho.insert hG.fresh hnew (hG.insert hnew hvalid hstock) hledger hbook hbooks

theorem openings_right {batch : Option (IngestPrefetch × List Item)}
    (h : Bookkeeping F py (InOrder py) db batch) : OpeningsRight db := by
  refine (h.invariant (fun db hdb => ?_) (fun _ _ _ _ ho hG hbooked =>
    hbooked.openingsRight ho hG) fun db id ho => ?_).2
  · refine ⟨fun b hb => ?_, ?_⟩
    · rw [hdb.dayBooks] at hb
      cases hb
    · rw [hdb.dayBooks]
      exact List.nodup_nil
  · refine ⟨fun b hb => ?_, ?_⟩
    · obtain ⟨x, hx, rfl⟩ := List.mem_map.1 hb
      split
      · exact ho.opening x hx
      · exact ho.opening x hx
    · show ((db.dayBooks.map _).map DayBook.id).Nodup
      rw [List.map_map]
      refine (congrArg List.Nodup (List.map_congr_left fun x _ => ?_)).mpr ho.ids
      show (if x.id = id then _ else x : DayBook).id = x.id
      split
      · rfl
      · rfl

/-- **The balances of the day books are right** in every state of a run that is in order: every
opening balance, and every closing balance that is asked for. -/
theorem books_right {batch : Option (IngestPrefetch × List Item)}
    (h : Bookkeeping F py (InOrder py) db batch) :
    (∀ b ∈ db.dayBooks, b.openingBalance = db.availableBefore b.storeId b.bookDate.instant) ∧
      ∀ now id sheet db', (session (generateBalanceSheet now id)).Yields F db (.ok sheet) db' →
        sheet.closingBalance =
          db.availableBefore sheet.storeId (sheet.bookDate.instant + DateTime.day) := by
  have ho := openings_right h
  refine ⟨ho.opening, fun now id sheet db' hy => ?_⟩
  rcases yields_session hy with ⟨e, he, -⟩ | ⟨sheet', c, he, hok, -⟩
  · cases he
  cases he
  obtain ⟨b, hb, hstore, hdate, -, hclosing, -⟩ := generateBalanceSheet_ok hok
  rw [hclosing, hstore, hdate, ho.opening b hb]
  exact availableBefore_add_dayTotal db b

/-! ## Runs -/

/-- The key of a new book is new, and the time is in UTC. -/
structure InUtc (db : Db) (s : Submission) : Prop where
  fresh : ∀ b ∈ db.dayBooks, b.id ≠ s.env.dayBookId
  utc : s.payload.occurredAt.offset = some 0

namespace Sample

/-- Receipts of the first and of the second day. -/
def firstDay : Submission := movement "T-1" "RECEIPT" 10 1000

def secondDay : Submission :=
  { movement "T-2" "RECEIPT" 5 (DateTime.day + 1000) with env := { Sample.env with dayBookId := "DB-2" } }

end Sample

/-- Two receipts as they happened, and the balance sheet of the second day. -/
theorem books_right_two :
    let db := (push Sample.python (push Sample.python .empty [Sample.firstDay]).2
      [Sample.secondDay]).2
    ∃ sheet, ((session (generateBalanceSheet Sample.env.now "DB-2")).eval db).1 = .ok sheet ∧
      sheet.closingBalance = 15 ∧ sheet.closingBalance =
        db.availableBefore sheet.storeId (sheet.bookDate.instant + DateTime.day) := by
  intro db
  have h1 : Bookkeeping anyFault Sample.python (InOrder Sample.python)
      (push Sample.python .empty [Sample.firstDay]).2 none := by
    refine bookkeeping_batched.pushSingle (.start Sample.unbooked) ⟨?_, ?_, ?_⟩
    · exact fun b hb => by cases hb
    · exact fun row hrow => by cases hrow
    · exact fun _ _ _ _ b hb => by cases hb
  have hG : InOrder Sample.python (push Sample.python .empty [Sample.firstDay]).2
      Sample.secondDay := by
    have hbooks : ∀ b ∈ (push Sample.python .empty [Sample.firstDay]).2.dayBooks,
        b.id ≠ "DB-2" ∧ b.bookDate.instant ≤ DateTime.day + 1000 := by decide +kernel
    have hnew : (push Sample.python .empty [Sample.firstDay]).2.ledger.get?
        Sample.secondDay.payload.transactionId = none := by decide +kernel
    refine ⟨fun b hb => (hbooks b hb).1, fun row hrow => ?_, fun _ _ _ _ b hb _ => (hbooks b hb).2⟩
    rw [hnew] at hrow
    cases hrow
  have h2 : Bookkeeping anyFault Sample.python (InOrder Sample.python) db none :=
    bookkeeping_batched.pushSingle h1 hG
  have hsheet := yields_eval anyFault (session (generateBalanceSheet Sample.env.now "DB-2")) db
  have hclosing : ((session (generateBalanceSheet Sample.env.now "DB-2")).eval db).1.toOption.map
      (·.closingBalance) = some 15 := by decide +kernel
  generalize (session (generateBalanceSheet Sample.env.now "DB-2")).eval db = res at hsheet hclosing
  obtain ⟨e | sheet, db'⟩ := res
  · cases hclosing
  · exact ⟨sheet, rfl, Option.some.inj hclosing, (books_right h2).2 _ _ _ _ hsheet⟩

/-- The receipt of the first day arrives after that of the second: the book of the second day keeps
the opening balance 0. -/
theorem late_event_wrong : ¬ ∀ db batch, Bookkeeping noFault Sample.python InUtc db batch →
    ∀ b ∈ db.dayBooks, b.openingBalance = db.availableBefore b.storeId b.bookDate.instant := by
  intro h
  have h1 : Bookkeeping noFault Sample.python InUtc
      (push Sample.python .empty [Sample.secondDay]).2 none :=
    bookkeeping_batched.pushSingle (.start Sample.unbooked) ⟨(fun b hb => by cases hb), rfl⟩
  have hfresh : ∀ b ∈ (push Sample.python .empty [Sample.secondDay]).2.dayBooks,
      b.id ≠ Sample.firstDay.env.dayBookId := by decide +kernel
  have h2 : Bookkeeping noFault Sample.python InUtc (push Sample.python
      (push Sample.python .empty [Sample.secondDay]).2 [Sample.firstDay]).2 none :=
    bookkeeping_batched.pushSingle h1 ⟨hfresh, rfl⟩
  have hwrong : ¬ ∀ b ∈ (push Sample.python (push Sample.python .empty [Sample.secondDay]).2
      [Sample.firstDay]).2.dayBooks,
        b.openingBalance = Db.availableBefore (push Sample.python
          (push Sample.python .empty [Sample.secondDay]).2 [Sample.firstDay]).2 b.storeId
            b.bookDate.instant := by decide +kernel
  exact hwrong (h _ _ h2)

end Server
