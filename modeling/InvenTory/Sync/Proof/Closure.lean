import InvenTory.Server.Serving
import InvenTory.Sync.Proof.Fits

/-!
# A full pull

A pull without a cursor sends every balance, but no placeholders and no inactive stores. So it brings
the product and the store of every balance, and can be applied to a fresh desktop, exactly if
no balance is of a placeholder or an inactive store (`full_pull_closed_iff`). Ingestion provisions
placeholders (`full_pull_open`).
-/

namespace Sync

open Relational Sql Sql.Prog
open Server (CentralDb Referenced Reachable isAutoStore)

/-- The product and the store of every balance are among the rows. -/
structure Closed (r : Rows) : Prop where
  product : ∀ b ∈ r.stockBalances, b.stock.productId ∈ r.products.map fun p => p.1.id
  store : ∀ b ∈ r.stockBalances, b.stock.storeId ∈ r.stores.map fun s => s.1.id

/-- No balance is of a product or a store that a pull leaves out. -/
structure Visible (db : Server.Db) : Prop where
  product : ∀ b ∈ db.balances.rows, ∀ p, db.products.get? b.stock.productId = some p →
    isPlaceholder p = false
  store : ∀ b ∈ db.balances.rows, ∀ s, db.stores.get? b.stock.storeId = some s →
    s.isActive = true ∧ isAutoStore s = false

variable {c : CentralDb}

theorem closed_iff (h : Referenced c.db) : Closed (pulledRows none c) ↔ Visible c.db := by
  constructor
  · intro hc
    constructor
    · intro b hb p hp
      obtain ⟨x, hx, he⟩ := List.mem_map.1 (hc.product b (mem_pulledBalances.2 ⟨hb, rfl⟩))
      obtain ⟨q, hq, rfl⟩ := List.mem_map.1 hx
      obtain ⟨hrow, hreal, -⟩ := mem_pulledProducts.1 hq
      have hget : c.db.products.get? b.stock.productId = some q := he ▸ Table.get?_of_mem hrow
      rw [hp] at hget
      cases hget
      exact hreal
    · intro b hb s hs
      obtain ⟨x, hx, he⟩ := List.mem_map.1 (hc.store b (mem_pulledBalances.2 ⟨hb, rfl⟩))
      obtain ⟨q, hq, rfl⟩ := List.mem_map.1 hx
      obtain ⟨hrow, hreal, -⟩ := mem_pulledStores.1 hq
      have hget : c.db.stores.get? b.stock.storeId = some q := he ▸ Table.get?_of_mem hrow
      rw [hs] at hget
      cases hget
      exact hreal
  · intro hv
    constructor
    · intro b hb
      have hb' := (mem_pulledBalances.1 hb).1
      obtain ⟨p, hp⟩ := Option.isSome_iff_exists.1 (h.products b hb')
      refine List.mem_map.2 ⟨(sentProduct p, c.productColumns p.id), List.mem_map.2 ⟨p, ?_, rfl⟩, ?_⟩
      · exact mem_pulledProducts.2 ⟨Table.mem_of_get? hp, hv.product b hb' p hp, rfl⟩
      · exact Table.key_of_get? hp
    · intro b hb
      have hb' := (mem_pulledBalances.1 hb).1
      obtain ⟨s, hs⟩ := Option.isSome_iff_exists.1 (h.stores b hb')
      refine List.mem_map.2 ⟨(s, c.storeColumns s.id), List.mem_map.2 ⟨s, ?_, rfl⟩, ?_⟩
      · exact mem_pulledStores.2 ⟨Table.mem_of_get? hs, hv.store b hb' s hs, rfl⟩
      · exact Table.key_of_get? hs

/-- **Closed rows can be applied** to a fresh desktop. -/
theorem fits_closed (hcol : Typed c.db) (hc : Closed (pulledRows none c)) :
    Fits (pulledRows none c) Desktop.Db.empty where
  products _ _ _ _ _ hq := by cases hq
  stores _ _ _ _ _ hq := by cases hq
  quantities b hb := hcol.quantity b (mem_pulledBalances.1 hb).1
  balances b hb := .inr ⟨(fun _ hq => by cases hq), .inr (hc.store b hb), .inr (hc.product b hb)⟩

/-- **A full pull is closed exactly if every balance is visible.** Its pages bring the product and
the store of every balance, and can be applied to a fresh desktop, if and only if no balance is of a
placeholder or an inactive store. -/
theorem full_pull_closed_iff {py : Server.Python} (h : Reachable py c) (hcol : Typed c.db)
    {limit n : Nat} (hlimit : 0 < limit) (hn : (pulledRows none c).length < n)
    (now : Server.DateTime) :
    ∃ resp, httpPullAll none limit 0 none (List.replicate n (some (c, now))) = .done resp ∧
      ((Closed resp.rows ∧ (applyRows resp.rows Desktop.Db.empty).isSome) ↔ Visible c.db) := by
  obtain ⟨resp, hresp⟩ := pullAll_done now hlimit (merged_start (pulledRows none c))
    (show (pulledRows none c).length < 0 + n by omega)
  refine ⟨resp, hresp, ?_⟩
  have hrows : resp.rows = pulledRows none c := by
    refine pullAll_rows (fun c' now' hx => ?_) (merged_start (pulledRows none c)) hresp
    cases List.eq_of_mem_replicate hx
    rfl
  rw [hrows]
  constructor
  · intro hc
    exact (closed_iff h.referenced).1 hc.1
  · intro hv
    have hc := (closed_iff h.referenced).2 hv
    exact ⟨hc, (applyRows_isSome pulled_real (pulled_distinct ⟨h.referenced, hcol.ids⟩ none)).2
      (fits_closed hcol hc)⟩

/-! ## Sample runs -/

namespace Sample

open Server (CatalogueRequest ProductSnapshot CreateStoreRequest)

def noon : Server.DateTime := ⟨100, some 0⟩

def startup : CentralDb := ⟨.empty, fun _ => ⟨none, none, none, none, false, ⟨0, some 0⟩⟩,
  fun _ => ⟨none, ⟨0, some 0⟩⟩⟩

def product : ProductSnapshot where
  id := "PROD-1"
  sku := "SKU-1"
  name := "Screen"
  brand := none
  model := none
  category := "Parts"
  unit := "pcs"
  barcode := none
  alternateNames := none
  serialTrackingEnabled := false
  isActive := true
  updatedAt := some ⟨50, some 0⟩

def store : CreateStoreRequest := ⟨some "STORE-A", "A", "Main", none⟩

/-- A pushed product, and a store with its balance of it. -/
def stocked : CentralDb :=
  (startup.handle noon (.pushProducts [product])).handle noon
    (.createStore store "7c1d" fun id => "SB-" ++ id)

/-- The first receipt of an unknown product in an unknown store. -/
def provisioned : CentralDb :=
  startup.ingested (fun _ => noon)
    (Server.push Server.Sample.python .empty [Server.Sample.movement "T-1" "RECEIPT" 5 0]).2

theorem stocked_reachable : Reachable Server.Sample.python stocked :=
  .request (.request (.start rfl) noon (.pushProducts [product])) noon _

theorem provisioned_reachable : Reachable Server.Sample.python provisioned :=
  .batch (F := Server.noFault) (.start rfl) (yields_eval _ _ _) _

theorem stocked_balances : stocked.db.balances.rows =
    [⟨"SB-PROD-1", ⟨"STORE-A", "PROD-1", "AVAILABLE"⟩, 0, noon⟩] := by decide +kernel

theorem stocked_visible : Visible stocked.db := by
  constructor
  · rw [stocked_balances]
    intro b hb p hp
    cases List.mem_singleton.1 hb
    have hsome : stocked.db.products.get? "PROD-1" =
        some ⟨"PROD-1", "SKU-1", "Screen", "Parts", "pcs", true⟩ := by decide +kernel
    cases hsome.symm.trans hp
    decide +kernel
  · rw [stocked_balances]
    intro b hb s hs
    cases List.mem_singleton.1 hb
    have hsome : stocked.db.stores.get? "STORE-A" = some ⟨"STORE-A", "A", "Main", true⟩ := by
      decide +kernel
    cases hsome.symm.trans hs
    decide +kernel

theorem stocked_typed : Typed stocked.db := by
  constructor
  · unfold Relational.Table.Unique
    rw [stocked_balances]
    simp
  · rw [stocked_balances]
    decide

end Sample

theorem full_pull_closed_stocked : ∃ resp,
    httpPullAll none 2 0 none (List.replicate 4 (some (Sample.stocked, Sample.noon))) = .done resp ∧
      (applyRows resp.rows Desktop.Db.empty).isSome := by
  obtain ⟨resp, hresp, hiff⟩ := full_pull_closed_iff Sample.stocked_reachable Sample.stocked_typed
    (show 0 < 2 by decide) (show (pulledRows none Sample.stocked).length < 4 by decide +kernel)
    Sample.noon
  exact ⟨resp, hresp, (hiff.2 Sample.stocked_visible).2⟩

/-- The balance of a placeholder comes without its product and its store. -/
theorem full_pull_open : ¬ ∀ py c, Reachable py c → ∀ limit n now, 0 < limit →
    (pulledRows none c).length < n → ∃ resp,
      httpPullAll none limit 0 none (List.replicate n (some (c, now))) = .done resp ∧
        Closed resp.rows ∧ (applyRows resp.rows Desktop.Db.empty).isSome := by
  intro h
  have hlen : (pulledRows none Sample.provisioned).length < 2 := by decide +kernel
  obtain ⟨resp, hresp, hc, -⟩ := h _ _ Sample.provisioned_reachable 10 2 Sample.noon (by decide) hlen
  have hrows : resp.rows = pulledRows none Sample.provisioned := by
    refine pullAll_rows (fun c' now' hx => ?_) (merged_start _) hresp
    cases List.eq_of_mem_replicate hx
    rfl
  rw [hrows] at hc
  have hnone : (pulledRows none Sample.provisioned).products = [] := by decide +kernel
  have hbal : (pulledRows none Sample.provisioned).stockBalances.length = 1 := by decide +kernel
  obtain ⟨b, hb⟩ := List.length_eq_one_iff.1 hbal
  have hp := hc.product b (by rw [hb]; exact List.mem_singleton_self b)
  rw [hnone] at hp
  cases hp

end Sync
