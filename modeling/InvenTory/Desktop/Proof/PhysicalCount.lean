import InvenTory.Desktop.PhysicalCount
import InvenTory.Desktop.Proof.BalanceCache

/-!
# What a count sets the stock to

A count that goes through sets the stock to what was counted exactly if it reads what is in stock
(`handleCountCommit_iff`). It does so after operations that leave the cache right (`App.Right`), which all
but the transfers do (`count_sets_stock`).
-/

namespace Desktop

open Relational Sql Sql.Prog
open Server (StockKey)

/-! ## The adjustment -/

theorem Posts.quantity {now : Instant} {k : StockKey} {delta : Int} {r : InventoryTransaction} {d d' : Db}
    (h : Posts now k delta r d d') : d'.quantity k = d.quantity k + delta := by
  obtain ⟨hrecords, hstock, hdelta⟩ := h
  cases hrecords with
  | cons hm hr hrest =>
    cases hrest with
    | same hs =>
      rename_i m outboxId d1
      have hk : m.stock = k := hstock
      have hq : m.quantityDelta.toInt = delta := hdelta
      rw [quantity_congr hs.balances, hr.quantity, if_pos hk, hq]

/-- The one new row is the one that is returned. -/
theorem Posts.new_row {now : Instant} {k : StockKey} {delta : Int} {r t : InventoryTransaction} {d d' : Db}
    (h : Posts now k delta r d d') (ht : t ∈ d'.transactions.rows) (hn : t ∉ d.transactions.rows) :
    t = r := by
  obtain ⟨hrecords, -, -⟩ := h
  cases hrecords with
  | cons hm hr hrest =>
    cases hrest with
    | same hs =>
      rw [hs.transactions, hr.transactions] at ht
      rcases Table.mem_put.1 ht with rfl | ⟨ht, -⟩
      · rfl
      · exact absurd ht hn

theorem toInt_readBalance {db : Db} {k : StockKey} (h : db.Fits k) :
    (db.readBalance k).toInt = db.quantity k := by
  unfold Db.Fits Db.quantity at h
  unfold Db.readBalance Db.quantity
  cases hget : db.balances.get? k with
  | none => rfl
  | some b =>
    have hq : Db.readI32 b.quantity = some (Int32.ofInt b.quantity) :=
      if_pos (by simpa [hget] using h)
    rw [Option.bind_some, hq]
    exact readI32_eq hq

namespace CountView

variable {v : CountView} {c : CountCalls} {a a' : App} {row : CountRow}

theorem adjust_ok {productId : String} {systemQty countedQty : Int} {t : InventoryTransaction}
    (h : v.adjust c a productId systemQty countedQty = (.ok t, a')) :
    Posts c.clk.now (available v.activeStoreId productId) (countedQty - systemQty) t a.db a'.db := by
  unfold adjust at h
  cases hq : Db.readI32 (countedQty - systemQty) with
  | none =>
    simp only [hq] at h
    cases h
  | some delta =>
    simp only [hq] at h
    split at h
    · rename_i res db faults hrun
      cases h
      have hposts := adjustStock_ok (F := fun _ => True) ⟨c.faults, faults, fun _ _ => trivial, hrun⟩
      rw [readI32_eq hq] at hposts
      exact hposts
    · cases h

/-! ## The commit -/

theorem getBalance_db (invoked : Invoked) (k : StockKey) : (a.getBalance invoked k).2.db = a.db := by
  unfold App.getBalance
  split
  · rfl
  · cases invoked <;> rfl

/-- What the commit takes for the quantity in stock. -/
def systemQty (v : CountView) (invoked : Invoked) (a : App) (productId : String) : Int :=
  ((a.getBalance invoked (available v.activeStoreId productId)).1.toOption.map Int32.toInt).getD
    ((v.storeQtyCache productId).getD 0)

theorem readsStock_iff {invoked : Invoked} {productId : String} :
    v.ReadsStock invoked a productId ↔
      v.systemQty invoked a productId = a.db.quantity (available v.activeStoreId productId) := by
  unfold ReadsStock systemQty App.getBalance App.cached
  cases hread : (a.cache.readBalanceCache a.now
    (balanceCacheKey (available v.activeStoreId productId))) with
  | mk found cache =>
    cases found with
    | some quantity => rfl
    | none => cases invoked <;> rfl

/-- A commit that goes through has found its product, and has adjusted the stock if there is a
difference. -/
theorem handleCountCommit_ok (h : (v.handleCountCommit c a row).view.error = none) :
    ∃ product, v.product row = some product ∧
      let a' := (v.handleCountCommit c a row).app
      let systemQty := v.systemQty c.invoked a product.id
      (row.countedQty - systemQty = 0 ∧ a'.db = a.db ∨
        ∃ t, Posts c.clk.now (available v.activeStoreId product.id) (row.countedQty - systemQty) t
          a.db a'.db) := by
  by_cases hstore : v.activeStoreId = ""
  · simp [handleCountCommit, hstore] at h
  by_cases hname : Sync.jsTrim row.product = ""
  · simp [handleCountCommit, hstore, hname] at h
  cases hp : v.product row with
  | none =>
    have hp' : product { v with error := none } row = none := hp
    simp [handleCountCommit, hstore, hname, hp'] at h
  | some product =>
    have hp' : CountView.product { v with error := none } row = some product := hp
    refine ⟨product, rfl, ?_⟩
    simp only [handleCountCommit, hstore, hname, if_false, hp'] at h ⊢
    have hq : ((a.getBalance c.invoked (available v.activeStoreId product.id)).1.toOption.map
        Int32.toInt).getD ((v.storeQtyCache product.id).getD 0) =
          v.systemQty c.invoked a product.id := rfl
    simp only [hq] at h ⊢
    by_cases h0 : row.countedQty - v.systemQty c.invoked a product.id = 0
    · rw [if_pos h0]
      exact .inl ⟨h0, getBalance_db c.invoked _⟩
    · rw [if_neg h0] at h ⊢
      cases hadj : CountView.adjust { v with error := none } c
        (a.getBalance c.invoked (available v.activeStoreId product.id)).2 product.id
        (v.systemQty c.invoked a product.id) row.countedQty with
      | mk result a' =>
        rw [hadj] at h
        cases result with
        | error e => cases h
        | ok t =>
          have hposts := adjust_ok hadj
          rw [getBalance_db] at hposts
          exact .inr ⟨t, hposts⟩

/-- **A count that goes through** sets the stock exactly if it reads what is in stock. -/
theorem handleCountCommit_iff (h : (v.handleCountCommit c a row).view.error = none) :
    ∃ product, v.product row = some product ∧
      (a.SetsStock (v.handleCountCommit c a row).app (available v.activeStoreId product.id)
        row.countedQty ↔ v.ReadsStock c.invoked a product.id) := by
  obtain ⟨product, hp, hcommit⟩ := handleCountCommit_ok h
  refine ⟨product, hp, ?_⟩
  rw [readsStock_iff, App.SetsStock]
  dsimp only at hcommit
  rcases hcommit with ⟨h0, hdb⟩ | ⟨t, hposts⟩
  · rw [hdb]
    refine ⟨fun hs => by omega, fun hs => ⟨by omega, fun t ht hn => absurd ht hn⟩⟩
  · rw [hposts.quantity]
    refine ⟨fun hs => by omega, fun hs => ⟨by omega, fun t' ht hn => ?_⟩⟩
    rw [hposts.new_row ht hn, hposts.delta, hs]

end CountView

/-! ## What is in the cache -/

namespace App

variable {a : App} {rs : Rust}

/-- What the cache answers is in stock. -/
def Right (a : App) : Prop := ∀ k quantity, a.cached k = some quantity → a.db.readBalance k = quantity

theorem right_opened (db : Db) : Right (opened db) := fun k quantity hq => by
  simp [opened, cached, StockBalanceCache.readBalanceCache] at hq

/-- Quantities that are in stock are put in a cache that is right. -/
theorem Right.fill {cache : StockBalanceCache} (h : Right a) (rows : List (StockKey × Int32))
    (hcache : ∀ k, (cache.readBalanceCache a.now (balanceCacheKey k)).1 = a.cached k)
    (hn : (rows.map fun row => balanceCacheKey row.1).Nodup)
    (hrows : ∀ row ∈ rows, ∀ k, balanceCacheKey k = balanceCacheKey row.1 →
      a.db.readBalance k = row.2) :
    Right { a with cache := cache.writeBalances a.now rows } := by
  intro k quantity hq
  by_cases hrow : ∃ row ∈ rows, balanceCacheKey row.1 = balanceCacheKey k
  · obtain ⟨row, hrow, hkey⟩ := hrow
    have hread := StockBalanceCache.read_written cache a.now hn hrow
    rw [hkey] at hread
    obtain rfl : row.2 = quantity := Option.some.inj (hread.symm.trans hq)
    exact hrows row hrow k hkey.symm
  · have hread := StockBalanceCache.read_unwritten cache a.now
      (fun row hr hkey => hrow ⟨row, hr, hkey⟩)
    exact h k quantity ((hcache k).symm.trans (hread.symm.trans hq))

theorem Right.getBalance {invoked : Invoked} {k : StockKey} (h : Right a)
    (hc : Careful rs a (.getBalance invoked k)) : Right (a.getBalance invoked k).2 := by
  have hsame := StockBalanceCache.read_after_read a.cache a.now (balanceCacheKey k)
  unfold App.getBalance
  cases hread : a.cache.readBalanceCache a.now (balanceCacheKey k) with
  | mk found cache =>
    rw [hread] at hsame
    have hcache : ∀ k', (cache.readBalanceCache a.now (balanceCacheKey k')).1 = a.cached k' :=
      fun k' => hsame (balanceCacheKey k')
    cases found with
    | some quantity => exact fun k' quantity' hq => h k' quantity' ((hcache k').symm.trans hq)
    | none =>
      have hnone : a.cached k = none := congrArg Prod.fst hread
      cases invoked with
      | answered =>
        refine h.fill [(k, a.db.readBalance k)] hcache (List.nodup_singleton _) ?_
        intro row hrow k' hkey
        obtain rfl := List.mem_singleton.1 hrow
        exact hc hnone k' hkey
      | selectFailed =>
        refine h.fill [(k, 0)] hcache (List.nodup_singleton _) ?_
        intro row hrow k' hkey
        obtain rfl := List.mem_singleton.1 hrow
        exact hc hnone k' hkey
      | rejected error => exact fun k' quantity' hq => h k' quantity' ((hcache k').symm.trans hq)

theorem Right.getBalancesForStore {invoked : Invoked} {storeId : String} (h : Right a)
    (hc : Careful rs a (.getBalancesForStore invoked storeId)) :
    Right (a.getBalancesForStore invoked storeId) := by
  cases invoked with
  | answered => exact h.fill _ (fun _ => rfl) (ReadRequest.select_nodup a.db _) hc
  | selectFailed => exact h
  | rejected error => exact h

/-- What the cache answers after a mutation it answered before. -/
theorem cached_mutate {α : Type} {invalidates : Bool} {faults : List (Option String)}
    {p : Prog String Db α} {k : StockKey} {quantity : Int32}
    (h : (a.mutate invalidates faults p).cached k = some quantity) : a.cached k = some quantity := by
  unfold mutate at h
  split at h
  · cases invalidates with
    | true => simp [cached, StockBalanceCache.readBalanceCache] at h
    | false => exact h
  · exact h

theorem Right.mutate {α : Type} {invalidates : Bool} {faults : List (Option String)}
    {p : Prog String Db α} (h : Right a)
    (hc : ∀ k quantity, (a.mutate invalidates faults p).cached k = some quantity →
      (a.mutate invalidates faults p).db.readBalance k = a.db.readBalance k) :
    Right (a.mutate invalidates faults p) :=
  fun k quantity hq => (hc k quantity hq).trans (h k quantity (cached_mutate hq))

/-- **A careful operation leaves the cache right.** -/
theorem Right.perform {op : Operation} (h : Right a) (hc : Careful rs a op) :
    Right (a.perform rs op) := by
  cases op with
  | getBalance invoked k => exact h.getBalance hc
  | getBalancesForStore invoked storeId => exact h.getBalancesForStore hc
  | command clk cmd faults => exact h.mutate hc
  | markTransferException clk transferId notes faults => exact h.mutate hc
  | syncPull products stores stockBalances faults => exact h.mutate hc
  | pass ms => exact fun k quantity hq => h k quantity (StockBalanceCache.read_later hq)

theorem right_of_careful {db : Db} {ops : List Operation}
    (h : Runs.Along (App.perform rs) (Careful rs) (opened db) ops) : Right (after rs db ops) :=
  (h.always (right_opened db) fun _ _ ha hc => ha.perform hc).last

end App

/-- A cache that is right answers the count, and so does the database. -/
theorem App.Right.readsStock {a : App} {v : CountView} {productId : String} (h : a.Right)
    (hfits : a.db.Fits (available v.activeStoreId productId)) : v.ReadsStock .answered a productId := by
  have hread := toInt_readBalance hfits
  unfold CountView.ReadsStock
  cases hq : a.cached (available v.activeStoreId productId) with
  | none => exact hread
  | some quantity =>
    rw [← h _ _ hq]
    exact hread

/-- **A physical count sets the stock to the counted quantity**, after any history of operations, exactly if
it reads what is in stock; and it does after a history of careful operations. -/
theorem count_sets_stock (rs : Rust) (db : Db) (ops : List App.Operation) :
    (∀ (v : CountView) (c : CountCalls) (row : CountRow),
      (v.handleCountCommit c (App.after rs db ops) row).view.error = none →
      ∃ product, v.product row = some product ∧
        ((App.after rs db ops).SetsStock (v.handleCountCommit c (App.after rs db ops) row).app
            (available v.activeStoreId product.id) row.countedQty ↔
          v.ReadsStock c.invoked (App.after rs db ops) product.id)) ∧
    (Runs.Along (App.perform rs) (App.Careful rs) (.opened db) ops →
      ∀ (v : CountView) (c : CountCalls) (row : CountRow) (product : Product),
        (v.handleCountCommit c (App.after rs db ops) row).view.error = none →
        v.product row = some product → c.invoked = .answered →
        (App.after rs db ops).db.Fits (available v.activeStoreId product.id) →
        (App.after rs db ops).SetsStock (v.handleCountCommit c (App.after rs db ops) row).app
          (available v.activeStoreId product.id) row.countedQty) := by
  refine ⟨fun v c row h => CountView.handleCountCommit_iff h, fun hops v c row product h hp hc hfits => ?_⟩
  obtain ⟨product', hp', hiff⟩ := CountView.handleCountCommit_iff h
  cases hp.symm.trans hp'
  rw [hiff, hc]
  exact (App.right_of_careful hops).readsStock hfits

/-- Ten are read, then four of them are dispatched. -/
def dispatchedAfterLook : List App.Operation :=
  [.getBalance .answered (available "STORE-A" "PROD-1"),
    .command (Sample.clock 6) (.dispatchTransfer "TRF-5" "USER-1" "DEV-1") []]

def countSheet : CountView where
  activeStoreId := "STORE-A"
  sessionUserId := "USER-1"
  sessionDeviceId := "DEV-1"
  productMap := fun id => if id = "PROD-1" then some ⟨"PROD-1", "SKU-1", "Adapter", true⟩ else none
  nameToId := fun _ => none
  storeQtyCache := fun _ => some 10
  countEntries := []
  error := none

/-- Six are counted. -/
def commitSix (ops : List App.Operation) : Counted :=
  countSheet.handleCountCommit ⟨Sample.rust, Sample.clock 8, .answered, [], "invalid args"⟩
    (App.after Sample.rust Sample.drafted ops) ⟨"row-1", "Adapter", "PROD-1", 6⟩

example : (commitSix []).view.error = none ∧
    (commitSix []).app.db.quantity (available "STORE-A" "PROD-1") = 6 := by
  decide +kernel

/-- The six that are there are counted, and the count leaves two. -/
theorem count_after_dispatch :
    (App.after Sample.rust Sample.drafted dispatchedAfterLook).db.quantity
        (available "STORE-A" "PROD-1") = 6 ∧
      (commitSix dispatchedAfterLook).view.error = none ∧
      (commitSix dispatchedAfterLook).app.db.quantity (available "STORE-A" "PROD-1") = 2 := by
  decide +kernel

end Desktop
