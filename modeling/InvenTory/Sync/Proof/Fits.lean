import InvenTory.Lib.Upserts
import InvenTory.Server.Proof.Referenced
import InvenTory.Sync.Proof.Apply

/-!
# When the rows of a pull fit

The statements of `apply_sync_pull` go through exactly if no row meets the SKU, the code or the id of
another row of the desktop that is not replaced before, and every new balance finds its store and its
product (`upsertAll_iff`). Then every row is as it was sent.
-/

namespace Sync

open Relational Sql Sql.Prog
open Desktop (StockBalanceSnapshot)
open Server (CentralDb Referenced isAutoStore)

variable {d d' : Desktop.Db} {ps : List Desktop.Product} {ss : List Desktop.Store}
  {bs : List StockBalanceSnapshot}

/-! ## Products and stores -/

def skuTaken (_ : Desktop.Product) : String := Desktop.Db.uniqueFailed "products.sku"

def codeTaken (_ : Desktop.Store) : String := Desktop.Db.uniqueFailed "stores.code"

theorem productsField : Table.Field Desktop.Db.products fun d t => { d with products := t } :=
  ⟨fun _ _ => rfl, fun _ _ _ => rfl, fun _ => rfl⟩

theorem storesField : Table.Field Desktop.Db.stores fun d t => { d with stores := t } :=
  ⟨fun _ _ => rfl, fun _ _ _ => rfl, fun _ => rfl⟩

theorem upsertProduct_eq (d : Desktop.Db) (p : Desktop.Product) : d.upsertProduct p =
    (d.products.upsert Desktop.Product.sku skuTaken p).map fun t => { d with products := t } := by
  unfold Desktop.Db.upsertProduct Table.upsert
  rw [apply_ite (Except.map _)]
  rfl

theorem upsertStore_eq (d : Desktop.Db) (s : Desktop.Store) : d.upsertStore s =
    (d.stores.upsert Desktop.Store.code codeTaken s).map fun t => { d with stores := t } := by
  unfold Desktop.Db.upsertStore Table.upsert
  rw [apply_ite (Except.map _)]
  rfl

theorem upsertProducts_iff (hps : (ps.map Desktop.Product.sku).Nodup) :
    ps.foldlM (fun d p => d.upsertProduct p) d = .ok d' ↔
      d.products.Room Desktop.Product.sku ps ∧ d' = { d with products := d.products.putAll ps } :=
  productsField.upserts_iff upsertProduct_eq hps

theorem upsertStores_iff (hss : (ss.map Desktop.Store.code).Nodup) :
    ss.foldlM (fun d s => d.upsertStore s) d = .ok d' ↔
      d.stores.Room Desktop.Store.code ss ∧ d' = { d with stores := d.stores.putAll ss } :=
  storesField.upserts_iff upsertStore_eq hss

/-! ## Balances -/

/-- A balance replaces the quantity of its row, or is new: then its id is, and it has references. -/
def BalanceFits (d : Desktop.Db) (b : StockBalanceSnapshot) : Prop :=
  (d.balances.get? b.stock).isSome ∨
    (∀ q ∈ d.balances.rows, q.id ≠ b.id) ∧ (d.stores.get? b.stock.storeId).isSome ∧
      (d.products.get? b.stock.productId).isSome

/-- The row after `setBalance`. -/
def setRow (d : Desktop.Db) (b : StockBalanceSnapshot) : Desktop.StockBalance :=
  ((d.balances.get? b.stock).map fun old =>
    { old with stock := b.stock, quantity := b.quantity.toInt }).getD b.row

theorem key_setRow (b : StockBalanceSnapshot) : key (setRow d b) = b.stock := by
  unfold setRow
  cases d.balances.get? b.stock <;> rfl

theorem quantity_setRow (b : StockBalanceSnapshot) : (setRow d b).quantity = b.quantity.toInt := by
  unfold setRow
  cases d.balances.get? b.stock <;> rfl

theorem setBalance_iff {b : StockBalanceSnapshot} : d.setBalance b.row = .ok d' ↔
    BalanceFits d b ∧ d' = { d with balances := d.balances.put (setRow d b) } := by
  unfold Desktop.Db.setBalance Desktop.Db.upsertBalance BalanceFits setRow
  have hstock : b.row.stock = b.stock := rfl
  rw [hstock]
  cases d.balances.get? b.stock with
  | some old =>
    exact ⟨fun h => ⟨.inl rfl, (Except.ok.inj h).symm⟩, fun h => congrArg _ h.2.symm⟩
  | none =>
    show (if d.balances.rows.any (fun q => q.id = b.id) = true then _ else if _ then _ else _) = _ ↔ _
    by_cases hany : (d.balances.rows.any fun q => q.id = b.id) = true
    · rw [if_pos hany]
      refine ⟨(fun h => by cases h), ?_⟩
      rintro ⟨h, -⟩
      obtain ⟨q, hq, he⟩ := List.any_eq_true.1 hany
      exact absurd (by simpa using he) ((h.resolve_left (by simp)).1 q hq)
    · rw [if_neg hany]
      have hid : ∀ q ∈ d.balances.rows, q.id ≠ b.id := fun q hq he =>
        hany (List.any_eq_true.2 ⟨q, hq, by simpa using he⟩)
      by_cases href : (d.stores.get? b.stock.storeId).isNone = true ∨
          (d.products.get? b.stock.productId).isNone = true
      · rw [if_pos href]
        refine ⟨(fun h => by cases h), ?_⟩
        rintro ⟨h, -⟩
        obtain ⟨-, hs, hp⟩ := h.resolve_left (by simp)
        rcases href with hn | hn
        · rw [Option.isNone_iff_eq_none] at hn
          exact absurd hn (Option.isSome_iff_ne_none.1 hs)
        · rw [Option.isNone_iff_eq_none] at hn
          exact absurd hn (Option.isSome_iff_ne_none.1 hp)
      · rw [if_neg href]
        rw [not_or, Option.isNone_iff_eq_none, Option.isNone_iff_eq_none,
          ← ne_eq, ← ne_eq, ← Option.isSome_iff_ne_none, ← Option.isSome_iff_ne_none] at href
        exact ⟨fun h => ⟨.inr ⟨hid, href.1, href.2⟩, (Except.ok.inj h).symm⟩,
          fun h => congrArg _ h.2.symm⟩

/-- A balance of another key and id fits as before. -/
theorem balanceFits_put {a b : StockBalanceSnapshot} (hstock : a.stock ≠ b.stock) (hid : a.id ≠ b.id) :
    BalanceFits { d with balances := d.balances.put (setRow d a) } b ↔ BalanceFits d b := by
  have hget : (d.balances.put (setRow d a)).get? b.stock = d.balances.get? b.stock :=
    Table.get?_put_of_ne _ (by rw [key_setRow]; exact hstock)
  have hrows : (∀ q ∈ (d.balances.put (setRow d a)).rows, q.id ≠ b.id) ↔
      ∀ q ∈ d.balances.rows, q.id ≠ b.id := by
    have hset : ∀ q ∈ d.balances.rows, key q = a.stock → (setRow d a).id = q.id := by
      intro q hq hk
      unfold setRow
      rw [← hk, Table.get?_of_mem hq]
      rfl
    constructor
    · intro h q hq
      by_cases hk : key q = a.stock
      · rw [← hset q hq hk]
        exact h _ (Table.mem_put.2 (.inl rfl))
      · exact h q (Table.mem_put.2 (.inr ⟨hq, by rw [key_setRow]; exact hk⟩))
    · intro h q hq
      rcases Table.mem_put.1 hq with rfl | ⟨hq, -⟩
      · cases hold : d.balances.get? a.stock with
        | some old =>
          rw [hset old (Table.mem_of_get? hold) (Table.key_of_get? hold)]
          exact h old (Table.mem_of_get? hold)
        | none =>
          unfold setRow
          rw [hold]
          exact hid
      · exact h q hq
  unfold BalanceFits
  simp only [hget, hrows]

/-- The rows of `bs` after their upserts. -/
def HasBalances (d : Desktop.Db) (bs : List StockBalanceSnapshot) : Prop :=
  ∀ b ∈ bs, (d.balances.get? b.stock).map Desktop.StockBalance.quantity = some b.quantity.toInt

/-- **When balances can be set**; no two have one key or one id. -/
theorem setBalances_iff : ∀ {bs : List StockBalanceSnapshot} {d : Desktop.Db},
    (bs.map StockBalanceSnapshot.stock).Nodup → (bs.map StockBalanceSnapshot.id).Nodup →
      ((∃ d', bs.foldlM (fun d b => d.setBalance b.row) d = .ok d') ↔ ∀ b ∈ bs, BalanceFits d b)
  | [], d, _, _ => ⟨(fun _ _ h => by cases h), fun _ => ⟨d, rfl⟩⟩
  | b :: bs, d, hkeys, hids => by
    obtain ⟨hk, hkeys⟩ := List.nodup_cons.1 hkeys
    obtain ⟨hi, hids⟩ := List.nodup_cons.1 hids
    rw [List.forall_mem_cons]
    have hrest : ∀ x ∈ bs, BalanceFits { d with balances := d.balances.put (setRow d b) } x ↔
        BalanceFits d x := fun x hx =>
      balanceFits_put (fun h => hk (h ▸ List.mem_map_of_mem hx))
        fun h => hi (h ▸ List.mem_map_of_mem hx)
    cases hb : d.setBalance b.row with
    | error e =>
      constructor
      · rintro ⟨d', h⟩
        rw [List.foldlM_cons, hb] at h
        cases h
      · rintro ⟨hfit, -⟩
        rw [setBalance_iff.2 ⟨hfit, rfl⟩] at hb
        cases hb
    | ok d1 =>
      obtain ⟨hfit, rfl⟩ := setBalance_iff.1 hb
      have ih := setBalances_iff (d := { d with balances := d.balances.put (setRow d b) }) hkeys hids
      constructor
      · rintro ⟨d', h⟩
        rw [List.foldlM_cons, hb] at h
        exact ⟨hfit, fun x hx => (hrest x hx).1 (ih.1 ⟨d', h⟩ x hx)⟩
      · rintro ⟨-, hall⟩
        obtain ⟨d', h⟩ := ih.2 fun x hx => (hrest x hx).2 (hall x hx)
        exact ⟨d', by rw [List.foldlM_cons, hb]; exact h⟩

/-- What they leave. -/
theorem setBalances_ok : ∀ {bs : List StockBalanceSnapshot} {d d' : Desktop.Db},
    (bs.map StockBalanceSnapshot.stock).Nodup →
      bs.foldlM (fun d b => d.setBalance b.row) d = .ok d' →
        d'.products = d.products ∧ d'.stores = d.stores ∧ HasBalances d' bs ∧
          ∀ k, k ∉ bs.map StockBalanceSnapshot.stock → d'.balances.get? k = d.balances.get? k
  | [], d, d', _, h => by
    cases h
    exact ⟨rfl, rfl, (fun b hb => by cases hb), fun k _ => rfl⟩
  | b :: bs, d, d', hkeys, h => by
    obtain ⟨hk, hkeys⟩ := List.nodup_cons.1 hkeys
    rw [List.foldlM_cons] at h
    cases hb : d.setBalance b.row with
    | error e =>
      rw [hb] at h
      cases h
    | ok d1 =>
      rw [hb] at h
      obtain ⟨-, rfl⟩ := setBalance_iff.1 hb
      obtain ⟨hp, hs, hbs, hother⟩ := setBalances_ok hkeys h
      refine ⟨hp, hs, fun x hx => ?_, fun k hk' => ?_⟩
      · rcases List.mem_cons.1 hx with rfl | hx
        · rw [hother x.stock hk]
          show ((d.balances.put (setRow d x)).get? x.stock).map _ = _
          rw [← key_setRow (d := d) x, Table.get?_put_self, Option.map_some, quantity_setRow]
        · exact hbs x hx
      · rw [List.map_cons, List.mem_cons, not_or] at hk'
        rw [hother k hk'.2]
        exact Table.get?_put_of_ne _ (by rw [key_setRow]; exact Ne.symm hk'.1)

/-! ## The rows of a pull -/

/-- The keys and the unique columns of the server's tables. -/
structure Distinct (r : Rows) : Prop where
  products : (r.products.map fun p => p.1.id).Nodup
  skus : (r.products.map fun p => p.1.sku).Nodup
  stores : (r.stores.map fun s => s.1.id).Nodup
  codes : (r.stores.map fun s => s.1.code).Nodup
  stocks : (r.stockBalances.map fun b => b.stock).Nodup
  ids : (r.stockBalances.map fun b => b.id).Nodup

def Rows.desktopProducts (r : Rows) : List Desktop.Product := r.products.map fun p => desktopProduct p.1

def Rows.desktopStores (r : Rows) : List Desktop.Store := r.stores.map fun s => desktopStore s.1

/-- An INTEGER of 32 bits. -/
def IsI32 (n : Int) : Prop := -2 ^ 31 ≤ n ∧ n < 2 ^ 31

/-- The rows break no constraint of the desktop. -/
structure Fits (r : Rows) (d : Desktop.Db) : Prop where
  products : d.products.Room Desktop.Product.sku r.desktopProducts
  stores : d.stores.Room Desktop.Store.code r.desktopStores
  quantities : ∀ b ∈ r.stockBalances, IsI32 b.quantity
  balances : ∀ b ∈ r.stockBalances, (d.balances.get? b.stock).isSome ∨
    (∀ q ∈ d.balances.rows, q.id ≠ b.id) ∧
      ((d.stores.get? b.stock.storeId).isSome ∨ b.stock.storeId ∈ r.stores.map fun s => s.1.id) ∧
      ((d.products.get? b.stock.productId).isSome ∨
        b.stock.productId ∈ r.products.map fun p => p.1.id)

/-- The rows are in the database, and it has nothing else new but balances. -/
structure Written (r : Rows) (d d' : Desktop.Db) : Prop where
  products : d'.products = d.products.putAll r.desktopProducts
  stores : d'.stores = d.stores.putAll r.desktopStores
  balances : ∀ b ∈ r.stockBalances,
    (d'.balances.get? b.stock).map Desktop.StockBalance.quantity = some b.quantity

def balanceSnapshot (b : Server.StockBalance) : StockBalanceSnapshot :=
  ⟨b.id, b.stock, Int32.ofInt b.quantity⟩

theorem decodeBalance_of (b : Server.StockBalance) (h : IsI32 b.quantity) :
    decodeBalance b = some (balanceSnapshot b) := by
  unfold IsI32 at h
  unfold decodeBalance Desktop.Db.readI32
  rw [if_pos h]
  rfl

theorem decodeBalances_iff : ∀ {bs : List Server.StockBalance} {as : List StockBalanceSnapshot},
    bs.mapM decodeBalance = some as ↔
      (∀ b ∈ bs, IsI32 b.quantity) ∧ as = bs.map balanceSnapshot
  | [], as => by simp [eq_comm]
  | b :: bs, as => by
    rw [List.mapM_cons, List.forall_mem_cons]
    by_cases hb : IsI32 b.quantity
    · rw [decodeBalance_of b hb]
      show (bs.mapM decodeBalance).bind (fun xs => some (balanceSnapshot b :: xs)) = _ ↔ _
      rw [Option.bind_eq_some_iff]
      constructor
      · rintro ⟨xs, hxs, he⟩
        obtain ⟨hall, rfl⟩ := decodeBalances_iff.1 hxs
        exact ⟨⟨hb, hall⟩, (Option.some.inj he).symm⟩
      · rintro ⟨⟨-, hall⟩, rfl⟩
        exact ⟨_, decodeBalances_iff.2 ⟨hall, rfl⟩, rfl⟩
    · have hnone : decodeBalance b = none := by
        unfold IsI32 at hb
        unfold decodeBalance Desktop.Db.readI32
        rw [if_neg hb]
        rfl
      rw [hnone]
      exact ⟨(fun h => by cases h), fun h => absurd h.1.1 hb⟩

theorem toInt_balanceSnapshot {b : Server.StockBalance} (h : IsI32 b.quantity) :
    (balanceSnapshot b).quantity.toInt = b.quantity := by
  obtain ⟨hlo, hhi⟩ := h
  exact Int32.toInt_ofInt_of_le hlo hhi

variable {r : Rows}

theorem arguments_iff {as : List StockBalanceSnapshot} :
    arguments r = some (ps, ss, as) ↔ ps = r.desktopProducts ∧ ss = r.desktopStores ∧
      (∀ b ∈ r.stockBalances, IsI32 b.quantity) ∧ as = r.stockBalances.map balanceSnapshot := by
  unfold arguments
  rw [Option.map_eq_some_iff]
  constructor
  · rintro ⟨bs, hbs, he⟩
    cases he
    obtain ⟨hall, rfl⟩ := decodeBalances_iff.1 hbs
    exact ⟨rfl, rfl, hall, rfl⟩
  · rintro ⟨rfl, rfl, hall, rfl⟩
    exact ⟨_, decodeBalances_iff.2 ⟨hall, rfl⟩, rfl⟩

theorem Distinct.desktopProducts (h : Distinct r) :
    (r.desktopProducts.map Desktop.Product.id).Nodup ∧
      (r.desktopProducts.map Desktop.Product.sku).Nodup := by
  unfold Rows.desktopProducts
  rw [List.map_map, List.map_map]
  exact ⟨h.products, h.skus⟩

theorem Distinct.desktopStores (h : Distinct r) :
    (r.desktopStores.map Desktop.Store.id).Nodup ∧
      (r.desktopStores.map Desktop.Store.code).Nodup := by
  unfold Rows.desktopStores
  rw [List.map_map, List.map_map]
  exact ⟨h.stores, h.codes⟩

theorem Distinct.balances (h : Distinct r) :
    ((r.stockBalances.map balanceSnapshot).map StockBalanceSnapshot.stock).Nodup ∧
      ((r.stockBalances.map balanceSnapshot).map StockBalanceSnapshot.id).Nodup := by
  rw [List.map_map, List.map_map]
  exact ⟨h.stocks, h.ids⟩

/-- The desktop when the products and the stores are written. -/
def Rows.master (r : Rows) (d : Desktop.Db) : Desktop.Db :=
  { d with
    products := d.products.putAll r.desktopProducts
    stores := d.stores.putAll r.desktopStores }

theorem isSome_master (h : Distinct r) (b : Server.StockBalance) :
    (((r.master d).stores.get? b.stock.storeId).isSome ↔
      (d.stores.get? b.stock.storeId).isSome ∨ b.stock.storeId ∈ r.stores.map fun s => s.1.id) ∧
    (((r.master d).products.get? b.stock.productId).isSome ↔
      (d.products.get? b.stock.productId).isSome ∨
        b.stock.productId ∈ r.products.map fun p => p.1.id) := by
  have hs : r.desktopStores.map key = r.stores.map fun s => s.1.id := List.map_map
  have hp : r.desktopProducts.map key = r.products.map fun p => p.1.id := List.map_map
  rw [← hs, ← hp]
  exact ⟨Table.isSome_get?_putAll h.desktopStores.1, Table.isSome_get?_putAll h.desktopProducts.1⟩

/-- The upserts, with the first two loops done. -/
theorem upsertAll_eq (h : Distinct r) : upsertAll r.desktopProducts r.desktopStores bs d = .ok d' ↔
    (d.products.Room Desktop.Product.sku r.desktopProducts ∧
      d.stores.Room Desktop.Store.code r.desktopStores) ∧
      bs.foldlM (fun d b => d.setBalance b.row) (r.master d) = .ok d' := by
  unfold upsertAll
  cases h1 : r.desktopProducts.foldlM (fun d p => d.upsertProduct p) d with
  | error e =>
    refine ⟨(fun h => by cases h), fun hroom => ?_⟩
    rw [(upsertProducts_iff h.desktopProducts.2).2 ⟨hroom.1.1, rfl⟩] at h1
    cases h1
  | ok d1 =>
    obtain ⟨hroom1, rfl⟩ := (upsertProducts_iff h.desktopProducts.2).1 h1
    cases h2 : r.desktopStores.foldlM (fun d s => d.upsertStore s)
        { d with products := d.products.putAll r.desktopProducts } with
    | error e =>
      simp only [bind, Except.bind, h2]
      refine ⟨(fun h => by cases h), fun hroom => ?_⟩
      have hok := (upsertStores_iff (d := { d with products := d.products.putAll r.desktopProducts })
        h.desktopStores.2).2 ⟨hroom.1.2, rfl⟩
      cases h2.symm.trans hok
    | ok d2 =>
      obtain ⟨hroom2, rfl⟩ := (upsertStores_iff h.desktopStores.2).1 h2
      simp only [bind, Except.bind, h2]
      exact ⟨fun h => ⟨⟨hroom1, hroom2⟩, h⟩, fun h => h.2⟩

/-- **When the upserts go through.** -/
theorem upsertAll_iff (h : Distinct r) (hq : ∀ b ∈ r.stockBalances, IsI32 b.quantity) :
    (∃ d', upsertAll r.desktopProducts r.desktopStores (r.stockBalances.map balanceSnapshot) d =
      .ok d') ↔ Fits r d := by
  have hfits : (∀ a ∈ r.stockBalances.map balanceSnapshot, BalanceFits (r.master d) a) ↔
      ∀ b ∈ r.stockBalances, BalanceFits (r.master d) (balanceSnapshot b) := by
    simp only [List.forall_mem_map]
  simp only [upsertAll_eq h, exists_and_left]
  rw [setBalances_iff h.balances.1 h.balances.2, hfits]
  constructor
  · rintro ⟨⟨hp, hs⟩, hbs⟩
    refine ⟨hp, hs, hq, fun b hb => (hbs b hb).imp id ?_⟩
    rintro ⟨hid, hstore, hproduct⟩
    exact ⟨hid, (isSome_master h b).1.1 hstore, (isSome_master h b).2.1 hproduct⟩
  · intro hf
    refine ⟨⟨hf.products, hf.stores⟩, fun b hb => (hf.balances b hb).imp id ?_⟩
    rintro ⟨hid, hstore, hproduct⟩
    exact ⟨hid, (isSome_master h b).1.2 hstore, (isSome_master h b).2.2 hproduct⟩

theorem upsertAll_written (h : Distinct r) (hq : ∀ b ∈ r.stockBalances, IsI32 b.quantity)
    (hd : upsertAll r.desktopProducts r.desktopStores (r.stockBalances.map balanceSnapshot) d =
      .ok d') : Written r d d' := by
  obtain ⟨hp, hs, hbs, -⟩ := setBalances_ok h.balances.1 ((upsertAll_eq h).1 hd).2
  refine ⟨hp, hs, fun b hb => ?_⟩
  rw [← toInt_balanceSnapshot (hq b hb)]
  exact hbs _ (List.mem_map_of_mem hb)

/-! ## The command -/

variable (hreal : Real r.desktopProducts r.desktopStores)

theorem applyRows_eq (hq : ∀ b ∈ r.stockBalances, IsI32 b.quantity) : applyRows r d =
    match (Desktop.applySyncPull r.desktopProducts r.desktopStores
      (r.stockBalances.map balanceSnapshot)).eval d with
    | (.ok _, d') => some d'
    | (.error _, _) => none := by
  unfold applyRows
  rw [arguments_iff.2 ⟨rfl, rfl, hq, rfl⟩]
  rfl

include hreal in
/-- **Applying rows** is their upserts. -/
theorem applyRows_some : applyRows r d = some d' ↔
    (∀ b ∈ r.stockBalances, IsI32 b.quantity) ∧
      upsertAll r.desktopProducts r.desktopStores (r.stockBalances.map balanceSnapshot) d =
        .ok d' := by
  by_cases hq : ∀ b ∈ r.stockBalances, IsI32 b.quantity
  · rw [applyRows_eq hq]
    cases hd : upsertAll r.desktopProducts r.desktopStores
        (r.stockBalances.map balanceSnapshot) d with
    | ok d1 =>
      obtain ⟨summary, he⟩ := eval_applySyncPull_ok hreal hd
      rw [he]
      exact ⟨fun h => ⟨hq, congrArg _ (Option.some.inj h)⟩, fun h => congrArg _ (Except.ok.inj h.2)⟩
    | error e =>
      obtain ⟨e', he⟩ := eval_applySyncPull_error hreal hd
      rw [he]
      exact ⟨(fun h => by cases h), fun h => by cases h.2⟩
  · refine ⟨fun h => ?_, fun h => absurd h.1 hq⟩
    have hnone : arguments r = none := by
      unfold arguments
      cases hb : r.stockBalances.mapM decodeBalance with
      | none => rfl
      | some as => exact absurd (decodeBalances_iff.1 hb).1 hq
    unfold applyRows at h
    rw [hnone] at h
    cases h

include hreal in
theorem applyRows_isSome (h : Distinct r) : (applyRows r d).isSome ↔ Fits r d := by
  rw [Option.isSome_iff_exists]
  simp only [applyRows_some hreal, exists_and_left]
  constructor
  · rintro ⟨hq, hd⟩
    exact (upsertAll_iff h hq).1 hd
  · intro hf
    exact ⟨hf.quantities, (upsertAll_iff h hf.quantities).2 hf⟩

include hreal in
theorem applyRows_written (h : Distinct r) (hd : applyRows r d = some d') : Written r d d' := by
  obtain ⟨hq, hup⟩ := (applyRows_some hreal).1 hd
  exact upsertAll_written h hq hup

/-! ## What a pull sends -/

/-- What the types of the columns guarantee: a primary key, and an INTEGER of 32 bits. -/
structure Typed (db : Server.Db) : Prop where
  ids : db.balances.Unique Server.StockBalance.id
  quantity : ∀ b ∈ db.balances.rows, -2 ^ 31 ≤ b.quantity ∧ b.quantity < 2 ^ 31

/-- The constraints of the server's tables. -/
structure Constrained (db : Server.Db) : Prop where
  references : Referenced db
  ids : db.balances.Unique Server.StockBalance.id

variable {c : CentralDb} {since : Option Server.DateTime}

theorem mem_pulledProducts {p : Server.Product} :
    p ∈ pulledProducts since c ↔ p ∈ c.db.products.rows ∧ isPlaceholder p = false ∧
      newer since (c.productColumns p.id).updatedAt = true := by
  unfold pulledProducts
  simp [List.mem_insertionSort]

theorem mem_pulledStores {s : Server.Store} :
    s ∈ pulledStores since c ↔ s ∈ c.db.stores.rows ∧ (s.isActive = true ∧ isAutoStore s = false) ∧
      newer since (c.storeColumns s.id).updatedAt = true := by
  unfold pulledStores
  simp [List.mem_insertionSort]

theorem mem_pulledBalances {b : Server.StockBalance} :
    b ∈ pulledBalances since c.db ↔ b ∈ c.db.balances.rows ∧ newerThan since b = true := by
  unfold pulledBalances
  simp [List.mem_insertionSort]

theorem startsWith_eq (s p : String) : s.startsWith p = Py.startsWith s p := by
  rw [Bool.eq_iff_iff]
  simp [Py.startsWith]

theorem isPlaceholderProduct_eq (p : Server.Product) :
    Desktop.isPlaceholderProduct p.sku p.name = isPlaceholder p := by
  simp only [Desktop.isPlaceholderProduct, isPlaceholder, startsWith_eq]

theorem isPlaceholderStore_eq (s : Server.Store) :
    Desktop.isPlaceholderStore s.name = isAutoStore s := startsWith_eq _ _

/-- A pull brings rows that are upserted. -/
theorem pulled_real :
    Real (pulledRows since c).desktopProducts (pulledRows since c).desktopStores := by
  constructor
  · intro p hp
    obtain ⟨x, hx, rfl⟩ := List.mem_map.1 hp
    obtain ⟨q, hq, rfl⟩ := List.mem_map.1 hx
    exact (isPlaceholderProduct_eq q).trans (mem_pulledProducts.1 hq).2.1
  · intro s hs
    obtain ⟨x, hx, rfl⟩ := List.mem_map.1 hs
    obtain ⟨q, hq, rfl⟩ := List.mem_map.1 hx
    exact (isPlaceholderStore_eq q).trans (mem_pulledStores.1 hq).2.1.2

/-- No two rows of a sorted selection agree on a column on which no two rows of the table do. -/
theorem nodup_sorted {ρ κ ι : Type} [Keyed ρ κ] {t : Table ρ} {f : ρ → ι} (h : t.Unique f)
    (p : ρ → Bool) (le : ρ → ρ → Prop) [DecidableRel le] :
    (((t.rows.filter p).insertionSort le).map f).Nodup := by
  have hrows : t.rows.Nodup := t.nodup.of_map
  have hsorted : ((t.rows.filter p).insertionSort le).Nodup :=
    (List.perm_insertionSort le _).nodup_iff.2 (hrows.filter p)
  refine hsorted.map_on fun a ha b hb hab => h a ?_ b ?_ hab
  · exact List.mem_of_mem_filter ((List.mem_insertionSort le).1 ha)
  · exact List.mem_of_mem_filter ((List.mem_insertionSort le).1 hb)

theorem unique_key {ρ κ : Type} [Keyed ρ κ] (t : Table ρ) : t.Unique (key : ρ → κ) :=
  fun _ ha _ hb h => List.inj_on_of_nodup_map t.nodup ha hb h

theorem pulled_distinct (h : Constrained c.db) (since : Option Server.DateTime) :
    Distinct (pulledRows since c) where
  products := by
    show (((pulledProducts since c).map _).map _).Nodup
    rw [List.map_map]
    exact nodup_sorted (unique_key c.db.products) _ productLe
  skus := by
    show (((pulledProducts since c).map _).map _).Nodup
    rw [List.map_map]
    exact nodup_sorted h.references.skus _ productLe
  stores := by
    show (((pulledStores since c).map _).map _).Nodup
    rw [List.map_map]
    exact nodup_sorted (unique_key c.db.stores) _ storeLe
  codes := by
    show (((pulledStores since c).map _).map _).Nodup
    rw [List.map_map]
    exact nodup_sorted h.references.codes _ storeLe
  stocks := nodup_sorted (unique_key c.db.balances) _ balanceLe
  ids := nodup_sorted h.ids _ balanceLe

end Sync
