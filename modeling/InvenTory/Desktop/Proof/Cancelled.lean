import InvenTory.Desktop.Restore

/-!
# Restores that are given up

`cancel_restore` deletes the stores and the products before the rows that refer to them, which SQLite
refuses while there are any, and it does not stop the thread. What is left is nothing exactly when no
row refers to a store or a product by then and the thread has no row of its own left to write
(`cancelled_empty_iff`).
-/

namespace Desktop

open Relational

namespace RestoreDb

/-- The tables that a cancelled restore is to leave empty. -/
structure Blank (db : RestoreDb) : Prop where
  stores : db.stores.rows = []
  products : db.products.rows = []
  balances : db.balances.rows = []
  transactions : db.transactions.rows = []
  accounts : db.accounts.rows = []
  dayBooks : db.books.dayBooks.rows = []
  entries : db.books.entries.rows = []
  restoreCompleted : db.restoreCompleted = false

/-- There is a row that refers to nothing, or the flag. -/
def Marked (db : RestoreDb) : Prop :=
  db.stores.rows ≠ [] ∨ db.products.rows ≠ [] ∨ db.accounts.rows ≠ [] ∨ db.restoreCompleted = true

/-- No other row refers to a store or a product. -/
def Unreferenced (db : RestoreDb) : Prop :=
  (∀ s ∈ db.stores.rows, s.id ∉ db.storeReferences) ∧
    ∀ p ∈ db.products.rows, p.id ∉ db.productReferences

theorem Blank.not_marked {db : RestoreDb} (h : db.Blank) : ¬ db.Marked := by
  rintro (hs | hp | ha | hc)
  · exact hs h.stores
  · exact hp h.products
  · exact ha h.accounts
  · rw [h.restoreCompleted] at hc
    cases hc

end RestoreDb

/-! ## Statements of the thread -/

namespace RestoreOp

/-- The statement writes a row that refers to nothing, or sets the flag. -/
def IsRoot : RestoreOp → Prop
  | writeStore _ | writeProduct _ | writeUser _ | setCompleted => True
  | _ => False

end RestoreOp

section
variable {ρ κ : Type} [Keyed ρ κ] [DecidableEq κ] {t : Table ρ}

theorem get?_of_rows (h : t.rows = []) (k : κ) : t.get? k = none := by
  rw [Table.get?_eq_none, h]
  exact List.not_mem_nil

theorem rows_put_ne_nil (t : Table ρ) (r : ρ) : (t.put r).rows ≠ [] :=
  List.ne_nil_of_mem (Table.mem_put.2 (.inl rfl))

omit [DecidableEq κ] in
theorem rows_ne_nil_of_any {p : ρ → Bool} (h : t.rows.any p = true) : t.rows ≠ [] := by
  obtain ⟨x, hx, -⟩ := List.any_eq_true.1 h
  exact List.ne_nil_of_mem hx

end

section
variable {l : Locals} {db : RestoreDb} {op : RestoreOp}

/-! ## The tables of the day book -/

/-- Whether the statement is one of `upsert_day_book_entry`. -/
def RestoreOp.InDayBook : RestoreOp → Prop
  | .findDayBook _ | .createDayBook _ | .upsertEntry _ | .readClosing _ | .setClosing _ => True
  | _ => False

/-- The tables other than those of the day book are the same. -/
structure RestoreDb.SameRoots (db db' : RestoreDb) : Prop where
  stock : db'.books.stock = db.books.stock
  accounts : db'.accounts = db.accounts
  restoreCompleted : db'.restoreCompleted = db.restoreCompleted

theorem RestoreDb.SameRoots.refl (db : RestoreDb) : db.SameRoots db := ⟨rfl, rfl, rfl⟩

theorem guarded_same {f : BooksDb → Except String BooksDb}
    (hf : ∀ books books', f books = .ok books' → books'.stock = books.stock) :
    db.SameRoots (l.guarded db f).2 := by
  unfold Locals.guarded
  split
  · exact .refl db
  · cases h : f db.books with
    | ok books => exact ⟨hf _ _ h, rfl, rfl⟩
    | error e => exact .refl db

theorem insertDayBook_stock {k : String × Int} {books books' : BooksDb}
    (h : books.insertDayBook k = .ok books') : books'.stock = books.stock := by
  unfold BooksDb.insertDayBook at h
  split at h
  · cases h
  · split at h
    · cases h
    · cases h
      rfl

theorem upsertEntry_stock {e : DayBookEntry} {books books' : BooksDb}
    (h : books.upsertEntry e = .ok books') : books'.stock = books.stock := by
  unfold BooksDb.upsertEntry at h
  split at h
  · cases h
    rfl
  · split at h
    · cases h
    · cases h
      rfl

theorem setClosing_stock (books : BooksDb) (k : String × Int) (closing : Int32) :
    (books.setClosing k closing).stock = books.stock := by
  unfold BooksDb.setClosing
  split <;> rfl

theorem run_dayBook (h : op.InDayBook) : db.SameRoots (op.run (l, db)).2 := by
  cases op with
  | findDayBook k => exact .refl db
  | createDayBook k =>
    simp only [RestoreOp.run]
    split
    · exact .refl db
    · exact guarded_same fun _ _ => insertDayBook_stock
  | upsertEntry e =>
    simp only [RestoreOp.run]
    split
    · exact .refl db
    · exact guarded_same fun _ _ => upsertEntry_stock
  | readClosing storeId => exact .refl db
  | setClosing k =>
    refine guarded_same fun books books' hok => ?_
    cases hok
    exact setClosing_stock ..
  | _ => exact h.elim

/-! ## What a statement leaves -/

open RestoreDb

theorem RestoreDb.SameRoots.marked {db' : RestoreDb} (hsame : db.SameRoots db') (h : db.Marked) : db'.Marked := by
  unfold Marked RestoreDb.stores RestoreDb.products
  rw [hsame.stock, hsame.accounts, hsame.restoreCompleted]
  exact h

theorem RestoreDb.Marked.run (h : db.Marked) : (op.run (l, db)).2.Marked := by
  cases op with
  | writeStore s =>
    simp only [RestoreOp.run, replaceStore]
    split
    · exact h
    · exact .inl (rows_put_ne_nil _ _)
  | writeProduct p =>
    simp only [RestoreOp.run, replaceProduct]
    split
    · exact h
    · exact .inr (.inl (rows_put_ne_nil _ _))
  | writeBalance today b =>
    simp only [RestoreOp.run, replaceBalance]
    split <;> exact h
  | writeUser u => exact .inr (.inr (.inl (rows_put_ne_nil _ _)))
  | writeTransaction r =>
    simp only [RestoreOp.run, RestoreDb.insertTransactionOrIgnore, withStock]
    unfold Db.insertTransactionOrIgnore Db.replaceTransaction
    split
    · rename_i d hok
      split at hok
      · cases hok
        exact h
      · split at hok
        · cases hok
        · cases hok
          exact h
    · exact h
  | setCompleted => exact .inr (.inr (.inr rfl))
  | _ => exact SameRoots.marked (run_dayBook trivial) h

/-- What refers to nothing is never refused without being there already. -/
theorem marked_of_isRoot (hop : op.IsRoot) : (op.run (l, db)).2.Marked := by
  cases op with
  | writeStore s =>
    simp only [RestoreOp.run, replaceStore]
    split
    · rename_i hany
      exact .inl (rows_ne_nil_of_any hany)
    · exact .inl (rows_put_ne_nil _ _)
  | writeProduct p =>
    simp only [RestoreOp.run, replaceProduct]
    split
    · rename_i hany
      exact .inr (.inl (rows_ne_nil_of_any hany))
    · exact .inr (.inl (rows_put_ne_nil _ _))
  | writeUser u => exact .inr (.inr (.inl (rows_put_ne_nil _ _)))
  | setCompleted => exact .inr (.inr (.inr rfl))
  | _ => exact hop.elim

theorem guarded_error {f : BooksDb → Except String BooksDb} {e : String}
    (h : f db.books = .error e) : (l.guarded db f).2 = db := by
  unfold Locals.guarded
  split
  · rfl
  · rw [h]

theorem insertTransactionOrIgnore_error {r : InventoryTransaction} {e : String}
    (h : db.books.stock.insertTransactionOrIgnore r = .error e) :
    db.insertTransactionOrIgnore r = db := by
  simp only [RestoreDb.insertTransactionOrIgnore, withStock, h]

/-- Without stores and products, a statement that refers to one is refused. -/
theorem RestoreDb.Blank.run (h : db.Blank) (hop : ¬ op.IsRoot) : (op.run (l, db)).2 = db := by
  cases op with
  | writeBalance today b => exact if_pos (.inl (by rw [get?_of_rows h.stores]; rfl))
  | writeTransaction r =>
    have hnone : db.books.stock.stores.get? r.storeId = none := get?_of_rows h.stores _
    have hnew : db.books.stock.transactions.get? r.transactionId = none :=
      get?_of_rows h.transactions _
    refine insertTransactionOrIgnore_error (e := Db.foreignKeyFailed) ?_
    unfold Db.insertTransactionOrIgnore Db.replaceTransaction
    rw [hnew, hnone]
    rfl
  | findDayBook k => rfl
  | createDayBook k =>
    simp only [RestoreOp.run]
    split
    · rfl
    · have hstore : db.books.stock.stores.get? k.1 = none := get?_of_rows h.stores _
      refine guarded_error (e := Db.foreignKeyFailed) ?_
      unfold BooksDb.insertDayBook
      rw [get?_of_rows h.dayBooks, hstore]
      rfl
  | upsertEntry e =>
    simp only [RestoreOp.run]
    split
    · rfl
    · refine guarded_error (e := Db.foreignKeyFailed) ?_
      unfold BooksDb.upsertEntry
      rw [get?_of_rows h.entries, get?_of_rows h.dayBooks]
      rfl
  | readClosing storeId => rfl
  | setClosing k =>
    simp only [RestoreOp.run, Locals.guarded]
    split
    · rfl
    · unfold BooksDb.setClosing
      rw [get?_of_rows h.dayBooks]
  | _ => exact absurd trivial hop

end

/-! ## The rest of the thread -/

section
variable {x : Locals × RestoreDb}

open RestoreDb

theorem RestoreDb.Marked.runAll {ops : List RestoreOp} (h : x.2.Marked) : (RestoreOp.runAll ops x).2.Marked := by
  induction ops generalizing x with
  | nil => exact h
  | cons op ops ih => exact ih (x := op.run x) (Marked.run h)

theorem marked_of_mem {ops : List RestoreOp} {op : RestoreOp} (hmem : op ∈ ops) (hop : op.IsRoot) :
    (RestoreOp.runAll ops x).2.Marked := by
  induction ops generalizing x with
  | nil => cases hmem
  | cons op' ops ih =>
    rcases List.mem_cons.1 hmem with rfl | hmem
    · exact Marked.runAll (x := op.run x) (marked_of_isRoot hop)
    · exact ih (x := op'.run x) hmem

theorem RestoreDb.Blank.runAll {ops : List RestoreOp} (h : x.2.Blank) (hops : ∀ op ∈ ops, ¬ op.IsRoot) :
    (RestoreOp.runAll ops x).2.Blank := by
  induction ops generalizing x with
  | nil => exact h
  | cons op ops ih =>
    have hsame := Blank.run (l := x.1) h (hops op List.mem_cons_self)
    exact ih (x := op.run x) (hsame ▸ h) fun op' hop' => hops op' (.tail _ hop')

/-- Nothing is left at the end of the thread exactly when nothing is there before it, and it has no
row of its own left to write. -/
theorem blank_runAll_iff {ops : List RestoreOp} (h : x.2.Blank ∨ x.2.Marked) :
    (RestoreOp.runAll ops x).2.Blank ↔ x.2.Blank ∧ ∀ op ∈ ops, ¬ op.IsRoot := by
  constructor
  · intro hend
    refine ⟨h.resolve_right fun hm => hend.not_marked (Marked.runAll hm), fun op hop hroot => ?_⟩
    exact hend.not_marked (marked_of_mem hop hroot)
  · exact fun ⟨hblank, hops⟩ => Blank.runAll hblank hops

end

/-! ## Giving up -/

namespace RestoreDb

variable {db : RestoreDb}

theorem deleteStores_frame (db : RestoreDb) : db.deleteStores.products = db.products ∧
    db.deleteStores.productReferences = db.productReferences := by
  unfold deleteStores
  split <;> exact ⟨rfl, rfl⟩

theorem deleteProducts_stores (db : RestoreDb) : db.deleteProducts.stores = db.stores := by
  unfold deleteProducts
  split <;> rfl

/-- A store that a row refers to stays, and so do the others. -/
theorem deleteStores_stores (db : RestoreDb) : db.deleteStores.stores =
    if db.stores.rows.any (fun s => s.id ∈ db.storeReferences) then db.stores else ∅ := by
  unfold deleteStores
  split <;> rfl

theorem deleteProducts_products (db : RestoreDb) : db.deleteProducts.products =
    if db.products.rows.any (fun p => p.id ∈ db.productReferences) then db.products else ∅ := by
  unfold deleteProducts
  split <;> rfl

theorem cancelRestore_stores (db : RestoreDb) : db.cancelRestore.stores = db.deleteStores.stores :=
  deleteProducts_stores db.deleteStores

theorem cancelRestore_products (db : RestoreDb) : db.cancelRestore.products =
    if db.products.rows.any (fun p => p.id ∈ db.productReferences) then db.products else ∅ := by
  obtain ⟨hproducts, hrefs⟩ := deleteStores_frame db
  rw [← hproducts, ← hrefs]
  exact deleteProducts_products db.deleteStores

theorem Unreferenced.cancelRestore (h : db.Unreferenced) : db.cancelRestore.Blank where
  stores := by
    rw [cancelRestore_stores, deleteStores_stores, if_neg]
    · rfl
    · simpa using h.1
  products := by
    rw [cancelRestore_products, if_neg]
    · rfl
    · simpa using h.2
  balances := rfl
  transactions := rfl
  accounts := rfl
  dayBooks := rfl
  entries := rfl
  restoreCompleted := rfl

theorem marked_cancelRestore (h : ¬ db.Unreferenced) : db.cancelRestore.Marked := by
  rcases not_and_or.1 h with h | h
  · have hany : db.stores.rows.any (fun s => s.id ∈ db.storeReferences) = true := by simpa using h
    refine .inl ?_
    rw [cancelRestore_stores, deleteStores_stores, if_pos hany]
    exact rows_ne_nil_of_any hany
  · have hany : db.products.rows.any (fun p => p.id ∈ db.productReferences) = true := by simpa using h
    refine .inr (.inl ?_)
    rw [cancelRestore_products, if_pos hany]
    exact rows_ne_nil_of_any hany

end RestoreDb

/-- Nothing is left of a cancelled restore exactly when `cancel_restore` finds no row that refers to a
store or a product, and the thread has no store, product or user left to write, nor its flag. -/
theorem cancelled_empty_iff (c : RestoreCall) (r : Replies) (n : Nat) (db : RestoreDb) :
    (c.cancelledAfter r n db).Blank ↔ (c.after r n db).2.Unreferenced ∧
      ∀ op ∈ (c.restoreOps r).drop n, ¬ op.IsRoot := by
  have hcancel : (c.after r n db).2.cancelRestore.Blank ↔ (c.after r n db).2.Unreferenced :=
    ⟨fun hb => by_contra fun h => hb.not_marked (RestoreDb.marked_cancelRestore h),
      fun h => h.cancelRestore⟩
  have hrest : (c.after r n db).2.cancelRestore.Blank ∨ (c.after r n db).2.cancelRestore.Marked :=
    (em (c.after r n db).2.Unreferenced).imp (fun h => h.cancelRestore) RestoreDb.marked_cancelRestore
  rw [← hcancel]
  exact blank_runAll_iff (x := ((c.after r n db).1, (c.after r n db).2.cancelRestore)) hrest

/-! ## A store with stock -/

/-- A server with one store, one product and one balance. -/
def shopReplies : Replies where
  start := .ok ()
  critical := .ok ⟨[⟨"s", "S", "Shop", true⟩], [], [⟨"p", "P", "Lamp", true⟩],
    [⟨"b", ⟨"s", "p", "AVAILABLE"⟩, 5⟩], []⟩
  important := some []
  background := some []

/-- The password itself in the place of its hash. -/
def plainBcrypt : Bcrypt := ⟨fun _ p => p, fun p h => p = h⟩

def shopRestore : RestoreCall := ⟨plainBcrypt, "alice", "secret", 0, fun _ => 0⟩

/-- The store and the product are still there when the restore is cancelled at its end, although
nothing is written any more. -/
theorem cancelled_with_stock : ¬ (shopRestore.cancelledAfter shopReplies 4 .empty).Blank := by
  intro h
  exact absurd h.stores (by decide +kernel)

end Desktop
