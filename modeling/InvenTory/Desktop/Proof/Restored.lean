import InvenTory.Desktop.Proof.Cancelled
import InvenTory.Lib.Upserts

/-!
# What a restore writes

Into a database without rows that are in the way, `do_restore` puts the stores, the products and the
users as they come. A balance or a transaction is left out when its store or its product is not there.
-/

namespace Desktop

open Relational

/-! ## Replacing rows -/

section
variable {ρ κ ι : Type} [Keyed ρ κ] [DecidableEq κ] [DecidableEq ι]

omit [DecidableEq ι] in
/-- Without a row in conflict, the new row is put. -/
theorem replaceRow_of_free {t : Table ρ} {conflicts : ρ → Bool} {r : ρ}
    (h : ∀ q ∈ t.rows, key q ≠ key r ∧ conflicts q = false) : replaceRow t conflicts r = t.put r := by
  have hall : t.filter (fun x => ¬ (key x = key r ∨ conflicts x = true)) = t := by
    refine Table.ext (List.filter_eq_self.2 fun q hq => ?_)
    obtain ⟨hkey, hcon⟩ := h q hq
    simp [hkey, hcon]
  unfold replaceRow
  rw [hall]

omit [DecidableEq ι] in
theorem putRows_append {r : ρ} : ∀ {xs : List ρ}, key r ∉ xs.map key →
    Table.putRows r xs = xs ++ [r]
  | [], _ => rfl
  | x :: xs, h => by
    rw [List.map_cons, List.mem_cons, not_or] at h
    unfold Table.putRows
    rw [if_neg (Ne.symm h.1), putRows_append h.2]
    rfl

omit [DecidableEq ι] in
/-- New rows come after the others. -/
theorem rows_putAll_new {t : Table ρ} {rs : List ρ} (hnodup : (rs.map key).Nodup)
    (hnew : ∀ q ∈ t.rows, key q ∉ rs.map key) : (t.putAll rs).rows = t.rows ++ rs := by
  induction rs generalizing t with
  | nil => exact (List.append_nil _).symm
  | cons r rs ih =>
    obtain ⟨hr, hrs⟩ := List.nodup_cons.1 hnodup
    have hput : (t.put r).rows = t.rows ++ [r] := putRows_append fun hm => by
      obtain ⟨q, hq, hkey⟩ := List.mem_map.1 hm
      exact hnew q hq (by simp [hkey])
    show ((t.put r).putAll rs).rows = _
    rw [ih hrs, hput, List.append_assoc]
    · rfl
    · intro q hq
      rw [hput, List.mem_append, List.mem_singleton] at hq
      rcases hq with hq | rfl
      · exact fun hm => hnew q hq (List.mem_cons_of_mem _ hm)
      · exact hr

/-! ## The parts of the thread -/

theorem runAll_append (ops ops' : List RestoreOp) (x : Locals × RestoreDb) :
    RestoreOp.runAll (ops ++ ops') x = RestoreOp.runAll ops' (RestoreOp.runAll ops x) :=
  List.foldl_append

omit [DecidableEq ι] in
/-- Statements that write the rows of one table, with none in the way. -/
theorem runAll_put (op : ρ → RestoreOp) (get : RestoreDb → Table ρ)
    (set : RestoreDb → Table ρ → RestoreDb) (f : ρ → ι) (hf : Table.Field get set)
    (hop : ∀ l db r, (∀ q ∈ (get db).rows, key q ≠ key r ∧ f q ≠ f r) →
      (op r).run (l, db) = (l, set db ((get db).put r)))
    {rs : List ρ} {l : Locals} {db : RestoreDb} (hkeys : (rs.map key).Nodup) (hcol : (rs.map f).Nodup)
    (hnew : ∀ q ∈ (get db).rows, key q ∉ rs.map key ∧ f q ∉ rs.map f) :
    RestoreOp.runAll (rs.map op) (l, db) = (l, set db ((get db).putAll rs)) := by
  induction rs generalizing db with
  | nil => exact congrArg (Prod.mk l) (hf.set_get db).symm
  | cons r rs ih =>
    obtain ⟨hkey, hkeys⟩ := List.nodup_cons.1 hkeys
    obtain ⟨hval, hcol⟩ := List.nodup_cons.1 hcol
    have hrun := hop l db r fun q hq => by
      obtain ⟨h1, h2⟩ := hnew q hq
      rw [List.map_cons, List.mem_cons, not_or] at h1 h2
      exact ⟨h1.1, h2.1⟩
    show RestoreOp.runAll (rs.map op) ((op r).run (l, db)) = _
    rw [hrun, ih hkeys hcol, hf.get_set, hf.set_set]
    · rfl
    · intro q hq
      rw [hf.get_set, Table.mem_put] at hq
      rcases hq with rfl | ⟨hq, -⟩
      · exact ⟨hkey, hval⟩
      · obtain ⟨h1, h2⟩ := hnew q hq
        rw [List.map_cons, List.mem_cons, not_or] at h1 h2
        exact ⟨h1.2, h2.2⟩

end

section
variable {l : Locals} {x : Locals × RestoreDb} {db : RestoreDb} {op : RestoreOp} {ops : List RestoreOp}

/-- The table that a statement writes, but for those of the day book. -/
inductive RestoreTable
  | stores
  | products
  | balances
  | users
  | transactions

def RestoreOp.target : RestoreOp → Option RestoreTable
  | writeStore _ => some .stores
  | writeProduct _ => some .products
  | writeBalance .. => some .balances
  | writeUser _ => some .users
  | writeTransaction _ => some .transactions
  | _ => none

/-- The tables are left by the statements that write another. -/
structure Frame (op : RestoreOp) (db db' : RestoreDb) : Prop where
  stores : op.target ≠ some .stores → db'.stores = db.stores
  products : op.target ≠ some .products → db'.products = db.products
  balances : op.target ≠ some .balances → db'.balances = db.balances
  transactions : op.target ≠ some .transactions → db'.transactions = db.transactions
  accounts : op.target ≠ some .users → db'.accounts = db.accounts

theorem Frame.refl (op : RestoreOp) (db : RestoreDb) : Frame op db db :=
  ⟨fun _ => rfl, fun _ => rfl, fun _ => rfl, fun _ => rfl, fun _ => rfl⟩

theorem RestoreDb.SameRoots.frame {db' : RestoreDb} (h : db.SameRoots db') : Frame op db db' where
  stores _ := congrArg Db.stores h.stock
  products _ := congrArg Db.products h.stock
  balances _ := congrArg Db.balances h.stock
  transactions _ := congrArg Db.transactions h.stock
  accounts _ := h.accounts

/-- The store and the product are there. -/
def RestoreDb.Refers (db : RestoreDb) (storeId productId : String) : Prop :=
  (db.stores.get? storeId).isSome ∧ (db.products.get? productId).isSome

instance (db : RestoreDb) (storeId productId : String) : Decidable (db.Refers storeId productId) := by
  unfold RestoreDb.Refers
  infer_instance

theorem insertOrIgnore_ok {d : Db} {r : InventoryTransaction}
    (hnew : d.transactions.get? r.transactionId = none) (hstore : (d.stores.get? r.storeId).isSome)
    (hproduct : (d.products.get? r.productId).isSome) :
    d.insertTransactionOrIgnore r = .ok { d with transactions := d.transactions.put r } := by
  unfold Db.insertTransactionOrIgnore Db.replaceTransaction
  rw [if_neg (by simp [hnew]), if_neg (by simp [Option.isSome_iff_ne_none.1 hstore,
    Option.isSome_iff_ne_none.1 hproduct])]

theorem insertOrIgnore_same {d : Db} {r : InventoryTransaction}
    (h : ¬ (d.transactions.get? r.transactionId = none ∧ (d.stores.get? r.storeId).isSome ∧
      (d.products.get? r.productId).isSome)) :
    d.insertTransactionOrIgnore r = .ok d ∨ d.insertTransactionOrIgnore r = .error Db.foreignKeyFailed := by
  unfold Db.insertTransactionOrIgnore Db.replaceTransaction
  split
  · exact .inl rfl
  · rename_i hnew
    refine .inr (if_pos ?_)
    by_contra hrefs
    rw [not_or, ← Option.isSome_eq_false_iff, ← Option.isSome_eq_false_iff, Bool.not_eq_false,
      Bool.not_eq_false] at hrefs
    exact h ⟨by simpa using hnew, hrefs⟩

/-- A new transaction is inserted if it refers to what is there. -/
theorem insertTransactionOrIgnore_eq (db : RestoreDb) (r : InventoryTransaction) :
    db.insertTransactionOrIgnore r =
      if db.transactions.get? r.transactionId = none ∧ db.Refers r.storeId r.productId then
        db.withStock fun d => { d with transactions := d.transactions.put r }
      else db := by
  split
  · rename_i h
    have hok := insertOrIgnore_ok h.1 h.2.1 h.2.2
    simp only [RestoreDb.insertTransactionOrIgnore, RestoreDb.withStock, hok]
  · rename_i h
    rcases insertOrIgnore_same h with hok | herror
    · simp only [RestoreDb.insertTransactionOrIgnore, RestoreDb.withStock, hok]
    · exact insertTransactionOrIgnore_error herror

theorem replaceBalance_balances (db : RestoreDb) (today : Int) {b : StockBalance}
    (h : ∀ q ∈ db.balances.rows, key q ≠ key b ∧ q.id ≠ b.id) :
    (db.replaceBalance today b).balances =
      if db.Refers b.stock.storeId b.stock.productId then db.balances.put b else db.balances := by
  have hput : replaceRow db.balances (·.id = b.id) b = db.balances.put b :=
    replaceRow_of_free fun q hq => ⟨(h q hq).1, decide_eq_false (h q hq).2⟩
  unfold RestoreDb.replaceBalance
  split
  · rename_i hnone
    rw [if_neg]
    rintro ⟨hstore, hproduct⟩
    rcases hnone with hnone | hnone
    · rw [Option.isNone_iff_eq_none.1 hnone] at hstore
      cases hstore
    · rw [Option.isNone_iff_eq_none.1 hnone] at hproduct
      cases hproduct
  · rename_i hsome
    rw [not_or, ← Option.isSome_eq_false_iff, ← Option.isSome_eq_false_iff, Bool.not_eq_false,
      Bool.not_eq_false] at hsome
    exact hput.trans (if_pos hsome).symm

theorem run_frame (op : RestoreOp) (l : Locals) (db : RestoreDb) : Frame op db (op.run (l, db)).2 := by
  cases op with
  | writeStore s =>
    simp only [RestoreOp.run, RestoreDb.replaceStore]
    split
    · exact .refl _ db
    · exact ⟨fun h => absurd rfl h, fun _ => rfl, fun _ => rfl, fun _ => rfl, fun _ => rfl⟩
  | writeProduct p =>
    simp only [RestoreOp.run, RestoreDb.replaceProduct]
    split
    · exact .refl _ db
    · exact ⟨fun _ => rfl, fun h => absurd rfl h, fun _ => rfl, fun _ => rfl, fun _ => rfl⟩
  | writeBalance today b =>
    simp only [RestoreOp.run, RestoreDb.replaceBalance]
    split
    · exact .refl _ db
    · exact ⟨fun _ => rfl, fun _ => rfl, fun h => absurd rfl h, fun _ => rfl, fun _ => rfl⟩
  | writeUser u =>
    exact ⟨fun _ => rfl, fun _ => rfl, fun _ => rfl, fun _ => rfl, fun h => absurd rfl h⟩
  | writeTransaction r =>
    simp only [RestoreOp.run, insertTransactionOrIgnore_eq]
    split
    · exact ⟨fun _ => rfl, fun _ => rfl, fun _ => rfl, fun h => absurd rfl h, fun _ => rfl⟩
    · exact .refl _ db
  | setCompleted => exact ⟨fun _ => rfl, fun _ => rfl, fun _ => rfl, fun _ => rfl, fun _ => rfl⟩
  | _ => exact RestoreDb.SameRoots.frame (run_dayBook trivial)

theorem runAll_frame {τ : Type} (get : RestoreDb → τ)
    (h : ∀ op ∈ ops, ∀ l db, get (op.run (l, db)).2 = get db) :
    get (RestoreOp.runAll ops x).2 = get x.2 := by
  induction ops generalizing x with
  | nil => rfl
  | cons op ops ih =>
    show get (RestoreOp.runAll ops (op.run x)).2 = _
    rw [ih (fun op' hop' => h op' (.tail _ hop')), h op List.mem_cons_self x.1 x.2]

/-! ## The rows -/

theorem runAll_stores {rs : List Store} (hkeys : (rs.map key).Nodup) (hcodes : (rs.map (·.code)).Nodup)
    (hnew : db.stores.rows = []) :
    RestoreOp.runAll (rs.map .writeStore) (l, db) =
      (l, db.withStock fun d => { d with stores := d.stores.putAll rs }) := by
  refine runAll_put .writeStore RestoreDb.stores (fun db t => db.withStock fun d => { d with stores := t }) Store.code
    ⟨fun _ _ => rfl, fun _ _ _ => rfl, fun _ => rfl⟩ ?_ hkeys hcodes fun q hq => ?_
  · intro l db s hfree
    have hput : replaceRow db.stores (·.code = s.code) s = db.stores.put s :=
      replaceRow_of_free fun q hq => ⟨(hfree q hq).1, decide_eq_false (hfree q hq).2⟩
    have hnone : ¬ (db.stores.rows.any fun t =>
        t.code = s.code ∧ t.id ≠ s.id ∧ t.id ∈ db.storeReferences) = true := by
      rw [List.any_eq_true]
      rintro ⟨q, hq, hc⟩
      exact (hfree q hq).2 (of_decide_eq_true hc).1
    show (l, db.replaceStore s) = _
    unfold RestoreDb.replaceStore
    rw [if_neg hnone, ← hput]
    rfl
  · rw [hnew] at hq
    cases hq

theorem runAll_products {rs : List Product} (hkeys : (rs.map key).Nodup)
    (hskus : (rs.map (·.sku)).Nodup) (hnew : db.products.rows = []) :
    RestoreOp.runAll (rs.map .writeProduct) (l, db) =
      (l, db.withStock fun d => { d with products := d.products.putAll rs }) := by
  refine runAll_put .writeProduct RestoreDb.products (fun db t => db.withStock fun d => { d with products := t }) Product.sku
    ⟨fun _ _ => rfl, fun _ _ _ => rfl, fun _ => rfl⟩ ?_ hkeys hskus fun q hq => ?_
  · intro l db p hfree
    have hput : replaceRow db.products (·.sku = p.sku) p = db.products.put p :=
      replaceRow_of_free fun q hq => ⟨(hfree q hq).1, decide_eq_false (hfree q hq).2⟩
    have hnone : ¬ (db.products.rows.any fun q =>
        q.sku = p.sku ∧ q.id ≠ p.id ∧ q.id ∈ db.productReferences) = true := by
      rw [List.any_eq_true]
      rintro ⟨q, hq, hc⟩
      exact (hfree q hq).2 (of_decide_eq_true hc).1
    show (l, db.replaceProduct p) = _
    unfold RestoreDb.replaceProduct
    rw [if_neg hnone, ← hput]
    rfl
  · rw [hnew] at hq
    cases hq

theorem runAll_accounts (l : Locals) (db : RestoreDb) {rs : List Account} (hkeys : (rs.map key).Nodup)
    (hnames : (rs.map (·.username)).Nodup) (hnew : db.accounts.rows = []) :
    RestoreOp.runAll (rs.map .writeUser) (l, db) =
      (l, { db with accounts := db.accounts.putAll rs }) := by
  refine runAll_put .writeUser RestoreDb.accounts (fun db t => { db with accounts := t }) Account.username
    ⟨fun _ _ => rfl, fun _ _ _ => rfl, fun _ => rfl⟩ ?_ hkeys hnames fun q hq => ?_
  · intro l db u hfree
    have hput : replaceRow db.accounts (·.username = u.username) u = db.accounts.put u :=
      replaceRow_of_free fun q hq => ⟨(hfree q hq).1, decide_eq_false (hfree q hq).2⟩
    show (l, db.replaceAccount u) = _
    unfold RestoreDb.replaceAccount
    rw [hput]
  · rw [hnew] at hq
    cases hq

theorem run_keeps_refers (op : RestoreOp) (hs : op.target ≠ some .stores) (hp : op.target ≠ some .products)
    (l : Locals) (db : RestoreDb) : (op.run (l, db)).2.Refers = db.Refers := by
  have hf := run_frame op l db
  unfold RestoreDb.Refers
  rw [hf.stores hs, hf.products hp]

/-- The balances that refer to what is there are put. -/
theorem runAll_balances (today : Int) {bs : List StockBalance} (hkeys : (bs.map key).Nodup)
    (hids : (bs.map (·.id)).Nodup)
    (hnew : ∀ q ∈ x.2.balances.rows, key q ∉ bs.map key ∧ q.id ∉ bs.map (·.id)) :
    (RestoreOp.runAll (bs.map (.writeBalance today)) x).2.balances =
      x.2.balances.putAll (bs.filter fun b => x.2.Refers b.stock.storeId b.stock.productId) := by
  induction bs generalizing x with
  | nil => rfl
  | cons b bs ih =>
    obtain ⟨hkey, hkeys⟩ := List.nodup_cons.1 hkeys
    obtain ⟨hid, hids⟩ := List.nodup_cons.1 hids
    have hrefs := run_keeps_refers (.writeBalance today b) nofun nofun x.1 x.2
    have hbal : (RestoreOp.run x (.writeBalance today b)).2.balances = _ :=
      replaceBalance_balances x.2 today (b := b) fun q hq => by
        obtain ⟨h1, h2⟩ := hnew q hq
        rw [List.map_cons, List.mem_cons, not_or] at h1 h2
        exact ⟨h1.1, h2.1⟩
    show (RestoreOp.runAll (bs.map (.writeBalance today)) (RestoreOp.run x _)).2.balances = _
    rw [ih hkeys hids, hbal, List.filter_cons]
    · simp only [hrefs]
      split
      · rw [if_pos (decide_eq_true ‹_›)]
        rfl
      · rw [if_neg (by simpa using ‹¬ _›)]
    · intro q hq
      have hold : q ∈ x.2.balances.rows ∨ q = b := by
        rw [hbal] at hq
        split at hq
        · exact (Table.mem_put.1 hq).symm.imp And.left id
        · exact .inl hq
      rcases hold with hq | rfl
      · obtain ⟨h1, h2⟩ := hnew q hq
        rw [List.map_cons, List.mem_cons, not_or] at h1 h2
        exact ⟨h1.2, h2.2⟩
      · exact ⟨hkey, hid⟩

/-! ## The transactions -/

section
variable (c : RestoreCall) (t : RestoredTransaction)

/-- The row that the thread writes. -/
def RestoreCall.row : InventoryTransaction := t.row c.now "1" "unknown" .synced

theorem inDayBook_of_mem {r : InventoryTransaction} (h : op ∈ dayBookOps r) : op.InDayBook := by
  simp only [dayBookOps, List.mem_cons, List.not_mem_nil, or_false] at h
  rcases h with rfl | rfl | rfl | rfl | rfl <;> trivial

theorem target_dayBookOps {r : InventoryTransaction} (h : op ∈ dayBookOps r) : op.target = none := by
  simp only [dayBookOps, List.mem_cons, List.not_mem_nil, or_false] at h
  rcases h with rfl | rfl | rfl | rfl | rfl <;> rfl

/-- The day book of a transaction changes no other table. -/
theorem runAll_dayBook (h : ∀ op ∈ ops, op.InDayBook) : x.2.SameRoots (RestoreOp.runAll ops x).2 := by
  induction ops generalizing x with
  | nil => exact .refl x.2
  | cons op ops ih =>
    have h1 : x.2.SameRoots (op.run x).2 := run_dayBook (h op List.mem_cons_self)
    have h2 := ih (x := op.run x) fun op' hop' => h op' (.tail _ hop')
    exact ⟨h2.stock.trans h1.stock, h2.accounts.trans h1.accounts,
      h2.restoreCompleted.trans h1.restoreCompleted⟩

theorem runAll_transactionOps (c : RestoreCall) (t : RestoredTransaction) (x : Locals × RestoreDb) :
    (RestoreOp.runAll (c.transactionOps t) x).2.books.stock =
      (x.2.insertTransactionOrIgnore (c.row t)).books.stock :=
  (runAll_dayBook (x := RestoreOp.run x (.writeTransaction (c.row t))) fun _ => inDayBook_of_mem).stock

end

/-- What the transactions `ts` make of the table `T`. -/
structure Inserted (refers : String → String → Prop) (row : RestoredTransaction → InventoryTransaction)
    (ts : List RestoredTransaction) (T T' : Table InventoryTransaction) : Prop where
  kept : ∀ {id r}, T.get? id = some r → T'.get? id = some r
  all : ∀ {t}, t ∈ ts → refers t.storeId t.productId → (T'.get? t.transactionId).isSome
  only : ∀ {id r}, T'.get? id = some r → T.get? id = some r ∨
    ∃ t ∈ ts, refers t.storeId t.productId ∧ r = row t

theorem Inserted.append {refers : String → String → Prop}
    {row : RestoredTransaction → InventoryTransaction} {ts ts' : List RestoredTransaction}
    {T T' T'' : Table InventoryTransaction} (h : Inserted refers row ts T T')
    (h' : Inserted refers row ts' T' T'') : Inserted refers row (ts ++ ts') T T'' where
  kept hr := h'.kept (h.kept hr)
  all {t} ht href := by
    rcases List.mem_append.1 ht with ht | ht
    · obtain ⟨r, hr⟩ := Option.isSome_iff_exists.1 (h.all ht href)
      rw [h'.kept hr]
      rfl
    · exact h'.all ht href
  only {id r} hr := by
    rcases h'.only hr with hr | ⟨t, ht, hrow⟩
    · exact (h.only hr).imp_right fun ⟨t, ht, hrow⟩ => ⟨t, List.mem_append.2 (.inl ht), hrow⟩
    · exact .inr ⟨t, List.mem_append.2 (.inr ht), hrow⟩

theorem inserted_one (c : RestoreCall) (t : RestoredTransaction) (db : RestoreDb) :
    Inserted db.Refers c.row [t] db.transactions
      (db.insertTransactionOrIgnore (c.row t)).transactions := by
  rw [insertTransactionOrIgnore_eq]
  split
  · rename_i h
    obtain ⟨hnone, href⟩ := h
    have hput : (db.withStock fun d => { d with transactions := d.transactions.put (c.row t) }).transactions =
        db.transactions.put (c.row t) := rfl
    rw [hput]
    refine ⟨fun {id r} hr => ?_, fun {t'} ht _ => ?_, fun {id r} hr => ?_⟩
    · rw [Table.get?_put_of_ne]
      · exact hr
      · rintro rfl
        rw [show db.transactions.get? (key (c.row t)) = none from hnone] at hr
        cases hr
    · rw [List.mem_singleton] at ht
      subst ht
      exact Option.isSome_iff_exists.2 ⟨_, Table.get?_put_self db.transactions (c.row t')⟩
    · rw [Table.get?_put] at hr
      split at hr
      · cases hr
        exact .inr ⟨t, List.mem_singleton_self t, href, rfl⟩
      · exact .inl hr
  · rename_i h
    refine ⟨id, fun {t'} ht href => ?_, .inl⟩
    rw [List.mem_singleton] at ht
    subst ht
    exact Option.isSome_iff_ne_none.2 fun hnone => h ⟨hnone, href⟩

/-- The rows of the transactions that refer to what is there are inserted. -/
theorem runAll_transactions (c : RestoreCall) (ts : List RestoredTransaction)
    (x : Locals × RestoreDb) :
    Inserted x.2.Refers c.row ts x.2.transactions
      (RestoreOp.runAll (ts.flatMap c.transactionOps) x).2.transactions := by
  induction ts generalizing x with
  | nil => exact ⟨id, fun ht => (List.not_mem_nil ht).elim, .inl⟩
  | cons t ts ih =>
    have hstock := runAll_transactionOps c t x
    have hrefs : (RestoreOp.runAll (c.transactionOps t) x).2.Refers = x.2.Refers := by
      have hkeep := run_keeps_refers (.writeTransaction (c.row t)) nofun nofun x.1 x.2
      unfold RestoreDb.Refers RestoreDb.stores RestoreDb.products at hkeep ⊢
      rw [hstock]
      exact hkeep
    have htail := ih (RestoreOp.runAll (c.transactionOps t) x)
    rw [hrefs] at htail
    have hhead : Inserted x.2.Refers c.row [t] x.2.transactions
        (RestoreOp.runAll (c.transactionOps t) x).2.transactions := by
      rw [show (RestoreOp.runAll (c.transactionOps t) x).2.transactions = _ from
        congrArg Db.transactions hstock]
      exact inserted_one c t x.2
    rw [List.flatMap_cons, runAll_append]
    exact hhead.append htail

end

/-! ## The whole thread -/

namespace RestoreCall

variable (c : RestoreCall) (data : CriticalRestoreData) (later : List RestoredTransaction)

/-- The statements after those for the users. -/
def lastOps : List RestoreOp :=
  data.recentTransactions.flatMap c.transactionOps ++ [.setCompleted] ++
    later.flatMap c.transactionOps

/-- The statements of a restore whose first request for data is answered. -/
theorem restoreOps_eq {r : Replies} (hstart : r.start = .ok ()) (hdata : r.critical = .ok data)
    (hlater : later = r.important.getD [] ++ r.background.getD []) :
    c.restoreOps r = data.stores.map .writeStore ++ (data.products.map .writeProduct ++
      (data.stockBalances.map (.writeBalance (bookDate c.now)) ++
        ((data.users.map c.account).map .writeUser ++ c.lastOps data later))) := by
  unfold restoreOps criticalOps lastOps
  rw [hstart, hdata, hlater, List.flatMap_append, List.map_map]
  simp only [List.append_assoc]
  rfl

variable {c data later} {op : RestoreOp}

theorem target_transactionOps {ts : List RestoredTransaction} (h : op ∈ ts.flatMap c.transactionOps) :
    op.target = some .transactions ∨ op.target = none := by
  obtain ⟨t, -, ht⟩ := List.mem_flatMap.1 h
  rcases List.mem_cons.1 ht with rfl | ht
  · exact .inl rfl
  · exact .inr (target_dayBookOps ht)

theorem target_lastOps (h : op ∈ c.lastOps data later) :
    op.target = some .transactions ∨ op.target = none := by
  unfold lastOps at h
  rw [List.mem_append, List.mem_append, List.mem_singleton] at h
  rcases h with (h | rfl) | h
  · exact target_transactionOps h
  · exact .inr rfl
  · exact target_transactionOps h

theorem lastOps_avoid (h : op ∈ c.lastOps data later) (table : RestoreTable)
    (ht : table ≠ .transactions) : op.target ≠ some table := by
  intro he
  rcases target_lastOps h with h | h
  · exact ht (Option.some.inj (he.symm.trans h))
  · rw [h] at he
    cases he

end RestoreCall

/-- No two rows of a list agree on a key, or on a column that is unique. -/
structure CriticalRestoreData.Distinct (data : CriticalRestoreData) : Prop where
  stores : (data.stores.map key).Nodup
  codes : (data.stores.map (·.code)).Nodup
  products : (data.products.map key).Nodup
  skus : (data.products.map (·.sku)).Nodup
  balances : (data.stockBalances.map key).Nodup
  balanceIds : (data.stockBalances.map (·.id)).Nodup
  users : (data.users.map (·.id)).Nodup
  usernames : (data.users.map (·.username)).Nodup

section
variable {c : RestoreCall} {data : CriticalRestoreData} {later : List RestoredTransaction}
  {r : Replies} {db : RestoreDb}

/-- The accounts after a restore. -/
theorem doRestore_accounts (hstart : r.start = .ok ()) (hdata : r.critical = .ok data)
    (hids : (data.users.map (·.id)).Nodup) (hnames : (data.users.map (·.username)).Nodup)
    (hnone : db.accounts.rows = []) : (c.doRestore r db).accounts.rows = data.users.map c.account := by
  unfold RestoreCall.doRestore
  rw [c.restoreOps_eq data _ hstart hdata rfl, runAll_append, runAll_append, runAll_append,
    runAll_append]
  generalize hx : RestoreOp.runAll (data.stockBalances.map (.writeBalance (bookDate c.now)))
    (RestoreOp.runAll (data.products.map .writeProduct)
      (RestoreOp.runAll (data.stores.map .writeStore) (RestoreCall.locals, db))) = x
  have hfirst : x.2.accounts = db.accounts := by
    rw [← hx, runAll_frame RestoreDb.accounts, runAll_frame RestoreDb.accounts,
      runAll_frame RestoreDb.accounts]
    all_goals
      intro op hop l db
      obtain ⟨y, -, rfl⟩ := List.mem_map.1 hop
      exact (run_frame _ l db).accounts nofun
  have hkeys : ((data.users.map c.account).map key).Nodup := by
    rw [List.map_map]
    exact hids
  have hcol : ((data.users.map c.account).map (·.username)).Nodup := by
    rw [List.map_map]
    exact hnames
  have hempty : x.2.accounts.rows = [] := by
    rw [hfirst, hnone]
  have husers := runAll_accounts x.1 x.2 hkeys hcol hempty
  have hlast : ∀ y, (RestoreOp.runAll (c.lastOps data (r.important.getD [] ++ r.background.getD []))
      y).2.accounts = y.2.accounts := fun y =>
    runAll_frame RestoreDb.accounts fun op hop l db =>
      (run_frame op l db).accounts (RestoreCall.lastOps_avoid hop _ nofun)
  rw [hlast, show x = (x.1, x.2) from rfl, husers]
  show (x.2.accounts.putAll _).rows = _
  rw [rows_putAll_new hkeys, hempty, List.nil_append]
  intro q hq
  rw [hempty] at hq
  cases hq

/-- What a restore writes into an empty database. -/
structure RestoredRows (c : RestoreCall) (data : CriticalRestoreData) (later : List RestoredTransaction)
    (db : RestoreDb) : Prop where
  stores : db.stores.rows = data.stores
  products : db.products.rows = data.products
  balances : db.balances.rows =
    data.stockBalances.filter fun b => db.Refers b.stock.storeId b.stock.productId
  accounts : db.accounts.rows = data.users.map c.account
  transactions : Inserted db.Refers c.row (data.recentTransactions ++ later) ∅ db.transactions

theorem rows_putAll_empty {ρ κ : Type} [Keyed ρ κ] [DecidableEq κ] {rs : List ρ}
    (h : (rs.map key).Nodup) : ((∅ : Table ρ).putAll rs).rows = rs :=
  rows_putAll_new h fun _ hq => (List.not_mem_nil hq).elim

theorem lastOps_transactions (c : RestoreCall) (data : CriticalRestoreData)
    (later : List RestoredTransaction) (x : Locals × RestoreDb) :
    Inserted x.2.Refers c.row (data.recentTransactions ++ later) x.2.transactions
      (RestoreOp.runAll (c.lastOps data later) x).2.transactions := by
  unfold RestoreCall.lastOps
  rw [runAll_append, runAll_append]
  generalize hy : RestoreOp.runAll (data.recentTransactions.flatMap c.transactionOps) x = y
  have hrefs : y.2.Refers = x.2.Refers := by
    rw [← hy]
    refine runAll_frame RestoreDb.Refers fun op hop l db => ?_
    rcases RestoreCall.target_transactionOps hop with ht | ht
    · exact run_keeps_refers op (by rw [ht]; nofun) (by rw [ht]; nofun) l db
    · exact run_keeps_refers op (by rw [ht]; nofun) (by rw [ht]; nofun) l db
  have hfirst := runAll_transactions c data.recentTransactions x
  rw [hy] at hfirst
  have hflag : (RestoreOp.runAll [.setCompleted] y).2.transactions = y.2.transactions := rfl
  have hlater := runAll_transactions c later (RestoreOp.runAll [.setCompleted] y)
  rw [hflag, show (RestoreOp.runAll [.setCompleted] y).2.Refers = y.2.Refers from rfl, hrefs] at hlater
  exact hfirst.append hlater

theorem runAll_balances_frame (today : Int) (bs : List StockBalance) (x : Locals × RestoreDb) :
    let y := RestoreOp.runAll (bs.map (.writeBalance today)) x
    (y.2.stores, y.2.products, y.2.transactions) = (x.2.stores, x.2.products, x.2.transactions) := by
  refine runAll_frame (fun db => (db.stores, db.products, db.transactions)) fun op hop l db => ?_
  obtain ⟨b, -, rfl⟩ := List.mem_map.1 hop
  have hf := run_frame (.writeBalance today b) l db
  simp only [hf.stores nofun, hf.products nofun, hf.transactions nofun]

theorem runAll_accounts_frame (us : List Account) (x : Locals × RestoreDb) :
    let y := RestoreOp.runAll (us.map .writeUser) x
    (y.2.stores, y.2.products, y.2.balances, y.2.transactions) =
      (x.2.stores, x.2.products, x.2.balances, x.2.transactions) := by
  refine runAll_frame (fun db => (db.stores, db.products, db.balances, db.transactions))
    fun op hop l db => ?_
  obtain ⟨u, -, rfl⟩ := List.mem_map.1 hop
  have hf := run_frame (.writeUser u) l db
  simp only [hf.stores nofun, hf.products nofun, hf.balances nofun, hf.transactions nofun]

theorem lastOps_tables (c : RestoreCall) (data : CriticalRestoreData)
    (later : List RestoredTransaction) (x : Locals × RestoreDb) :
    let y := RestoreOp.runAll (c.lastOps data later) x
    (y.2.stores, y.2.products, y.2.balances) = (x.2.stores, x.2.products, x.2.balances) := by
  refine runAll_frame (fun db => (db.stores, db.products, db.balances)) fun op hop l db => ?_
  have hf := run_frame op l db
  have havoid := fun table => RestoreCall.lastOps_avoid hop table
  simp only [hf.stores (havoid _ nofun), hf.products (havoid _ nofun), hf.balances (havoid _ nofun)]

/-- What is in an empty database after a restore. -/
theorem doRestore_rows (hstart : r.start = .ok ()) (hdata : r.critical = .ok data)
    (hd : data.Distinct) :
    RestoredRows c data (r.important.getD [] ++ r.background.getD []) (c.doRestore r .empty) := by
  have hempty : ∀ {ρ κ : Type} [Keyed ρ κ] {p : ρ → Prop}, ∀ q ∈ (∅ : Table ρ).rows, p q :=
    fun q hq => (List.not_mem_nil hq).elim
  have haccounts : (c.doRestore r .empty).accounts.rows = _ :=
    doRestore_accounts hstart hdata hd.users hd.usernames rfl
  unfold RestoreCall.doRestore at haccounts ⊢
  rw [c.restoreOps_eq data _ hstart hdata rfl, runAll_append, runAll_append, runAll_append,
    runAll_append, runAll_stores hd.stores hd.codes rfl, runAll_products hd.products hd.skus rfl]
    at haccounts ⊢
  generalize hx2 : (RestoreCall.locals, (RestoreDb.empty.withStock fun d =>
    { d with stores := d.stores.putAll data.stores }).withStock fun d =>
      { d with products := d.products.putAll data.products }) = x2 at haccounts ⊢
  have hstores : x2.2.stores.rows = data.stores := by
    rw [← hx2]
    exact rows_putAll_empty hd.stores
  have hproducts : x2.2.products.rows = data.products := by
    rw [← hx2]
    exact rows_putAll_empty hd.products
  have hbal := runAll_balances (x := x2) (bookDate c.now) hd.balances hd.balanceIds (by
    rw [← hx2]
    exact hempty)
  have hx2b : x2.2.balances = ∅ := by rw [← hx2]; rfl
  have hx2t : x2.2.transactions = ∅ := by rw [← hx2]; rfl
  generalize hx3 : RestoreOp.runAll (data.stockBalances.map (.writeBalance (bookDate c.now))) x2 = x3
    at haccounts hbal ⊢
  have h3 : (x3.2.stores, x3.2.products, x3.2.transactions) =
      (x2.2.stores, x2.2.products, x2.2.transactions) := hx3 ▸ runAll_balances_frame _ _ x2
  generalize hx4 : RestoreOp.runAll ((data.users.map c.account).map .writeUser) x3 = x4 at haccounts ⊢
  have h4 : (x4.2.stores, x4.2.products, x4.2.balances, x4.2.transactions) =
      (x3.2.stores, x3.2.products, x3.2.balances, x3.2.transactions) :=
    hx4 ▸ runAll_accounts_frame _ x3
  have htx := lastOps_transactions c data (r.important.getD [] ++ r.background.getD []) x4
  have h5 := lastOps_tables c data (r.important.getD [] ++ r.background.getD []) x4
  generalize RestoreOp.runAll (c.lastOps data (r.important.getD [] ++ r.background.getD [])) x4 = x5
    at haccounts htx h5 ⊢
  simp only [Prod.mk.injEq] at h3 h4 h5
  obtain ⟨hs3, hp3, ht3⟩ := h3
  obtain ⟨hs4, hp4, hb4, ht4⟩ := h4
  obtain ⟨hs5, hp5, hb5⟩ := h5
  have hstores5 : x5.2.stores = x2.2.stores := hs5.trans (hs4.trans hs3)
  have hproducts5 : x5.2.products = x2.2.products := hp5.trans (hp4.trans hp3)
  have hrefs4 : x4.2.Refers = x5.2.Refers := by
    unfold RestoreDb.Refers
    rw [hs5, hp5]
  have hrefs2 : x2.2.Refers = x5.2.Refers := by
    unfold RestoreDb.Refers
    rw [hstores5, hproducts5]
  refine ⟨by rw [hstores5, hstores], by rw [hproducts5, hproducts], ?_, haccounts, ?_⟩
  · rw [hb5, hb4, hbal, hx2b]
    simp only [hrefs2]
    exact rows_putAll_empty (hd.balances.sublist (List.filter_sublist.map _))
  · rw [ht4, ht3, hx2t, hrefs4] at htx
    exact htx

end

end Desktop
