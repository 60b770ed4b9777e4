import InvenTory.Desktop.Proof.Catalogue

/-!
# A pull into a fresh desktop

Into empty tables a response with distinct keys is applied exactly if it lists the store and the product
of every balance (`fresh_iff`), and then the products are the listed ones (`fresh_product_iff`).
-/

namespace Desktop.Catalogue

open Relational Runs

variable {r : Response} {t t' : Tables} {bs : List StockBalance}

/-- The keys and the unique columns of the rows. -/
structure Response.Distinct (r : Response) : Prop where
  products : (r.products.map Product.id).Nodup
  skus : (r.products.map Product.sku).Nodup
  stores : (r.stores.map Store.id).Nodup
  codes : (r.stores.map Store.code).Nodup
  stocks : (r.stockBalances.map StockBalance.stock).Nodup
  ids : (r.stockBalances.map StockBalance.id).Nodup

theorem along_balanceFree : ∀ {bs : List StockBalance} {t : Table StockBalance},
    (bs.map StockBalance.id).Nodup → (∀ q ∈ t.rows, q.id ∉ bs.map StockBalance.id) →
      Along (Table.merge StockBalance.stock pulledBalance) BalanceFree t bs
  | [], _, _, _ => trivial
  | b :: bs, t, hn, hnew => by
    obtain ⟨hb, hn⟩ := List.nodup_cons.1 hn
    refine ⟨.inr fun q hq he => absurd (by simp [he]) (hnew q hq), along_balanceFree hn fun q hq => ?_⟩
    have hold : ∀ q ∈ t.rows, q.id ∉ bs.map StockBalance.id := fun q hq h =>
      hnew q hq (List.mem_cons_of_mem _ h)
    rcases Table.mem_put.1 hq with rfl | ⟨hq, -⟩
    · cases hget : t.get? b.stock with
      | none => exact hb
      | some old => exact hold old (Table.mem_of_get? hget)
    · exact hold q hq

theorem Response.Distinct.free (h : r.Distinct) : r.Free Tables.empty where
  products := Table.Rule.along_free h.products h.skus fun _ hq => absurd hq List.not_mem_nil
  stores := Table.Rule.along_free h.stores h.codes fun _ hq => absurd hq List.not_mem_nil
  balances := along_balanceFree h.ids fun _ hq => absurd hq List.not_mem_nil

/-- Balances of new stocks are written only with their stores and products. -/
theorem refers_of_along (hn : (bs.map StockBalance.stock).Nodup)
    (hnew : ∀ b ∈ bs, t.balances.get? b.stock = none)
    (h : Along putBalance (fun t b => BalanceFree t.balances b ∧
      ((t.balances.get? b.stock).isSome ∨ Refers t b)) t bs) : ∀ b ∈ bs, Refers t b := by
  induction bs generalizing t with
  | nil => exact fun _ hb => absurd hb List.not_mem_nil
  | cons b bs ih =>
    obtain ⟨hb, hn⟩ := List.nodup_cons.1 hn
    rw [List.forall_mem_cons] at hnew
    have hrest : ∀ x ∈ bs, Refers (putBalance t b) x := by
      refine ih hn (fun x hx => ?_) h.2
      have hne : b.stock ≠ x.stock := fun he => hb (he ▸ List.mem_map_of_mem hx)
      exact (Table.get?_merge_of_ne key_pulledBalance t.balances hne).trans (hnew.2 x hx)
    refine List.forall_mem_cons.2 ⟨h.1.2.resolve_left ?_, hrest⟩
    rw [hnew.1]
    exact Bool.false_ne_true

/-- The store and the product of every balance are listed. -/
def Response.Complete (r : Response) : Prop :=
  ∀ b ∈ r.stockBalances,
    b.stock.storeId ∈ r.stores.map Store.id ∧ b.stock.productId ∈ r.products.map Product.id

/-- What is there after the products and stores of a response. -/
theorem refers_iff {b : StockBalance} : Refers (r.stores.foldl putStore
      (r.products.foldl (putProduct incomingSku) Tables.empty)) b ↔
    b.stock.storeId ∈ r.stores.map Store.id ∧ b.stock.productId ∈ r.products.map Product.id := by
  unfold Refers
  rw [foldl_putStore, foldl_putProduct]
  have hempty : ∀ {ρ : Type} [Keyed ρ String] (k : String), ¬ ((∅ : Table ρ).get? k).isSome :=
    fun k => by simp
  refine and_congr ?_ ?_
  · exact (Table.isSome_get?_mergeAll storeRule.key_write).trans (or_iff_right (hempty _))
  · exact (Table.isSome_get?_mergeAll (productRule incomingSku).key_write).trans
      (or_iff_right (hempty _))

/-- **A fresh desktop** takes a response exactly if it is complete. -/
theorem write_fresh_iff (h : r.Distinct) : r.write Tables.empty = .ok t' ↔
    r.Complete ∧ t' = r.applied Tables.empty := by
  have hrefers : r.Complete → r.Refers Tables.empty := fun hc b hb =>
    ⟨.inl (hc b hb).1, .inl (hc b hb).2⟩
  constructor
  · intro hw
    have hc : r.Complete := by
      unfold Response.write at hw
      simp only [bind_ok_iff, pullProduct_steps.foldlM_ok_iff, pullStore_steps.foldlM_ok_iff,
        setBalance_steps.foldlM_ok_iff] at hw
      obtain ⟨_, ⟨-, rfl⟩, _, ⟨-, rfl⟩, hbs, -⟩ := hw
      refine fun b hb => refers_iff.1 (refers_of_along h.stocks (fun _ _ => ?_) hbs b hb)
      rw [foldl_putStore, foldl_putProduct]
      rfl
    exact ⟨hc, ((write_ok_iff (hrefers hc)).1 hw).2⟩
  · rintro ⟨hc, rfl⟩
    exact (write_ok_iff (hrefers hc)).2 ⟨h.free, rfl⟩

/-- The products of a fresh desktop after a pull. -/
theorem fresh_product_iff (h : r.Distinct) {id : String} {x : Product} :
    (applySyncPull r Tables.empty).2.products.get? id = some x ↔
      r.Complete ∧ x ∈ r.products ∧ x.id = id := by
  by_cases hc : r.Complete
  · obtain ⟨summary, hs⟩ := applySyncPull_ok_iff.2 ((write_fresh_iff h).2 ⟨hc, rfl⟩)
    have happlied := r.applied_spec (t := Tables.empty) h.products h.stores
    rw [hs]
    constructor
    · intro hx
      by_cases hid : id ∈ r.products.map Product.id
      · obtain ⟨p, hp, rfl⟩ := List.mem_map.1 hid
        have hrow := (happlied.products p hp).symm.trans hx
        cases hrow
        exact ⟨hc, hp, rfl⟩
      · cases (happlied.otherProducts id hid).symm.trans hx
    · rintro ⟨-, hx, rfl⟩
      exact happlied.products x hx
  · obtain ⟨e, he⟩ := applySyncPull_error (r := r) (t := Tables.empty) fun t' hw =>
      hc ((write_fresh_iff h).1 hw).1
    rw [he]
    exact ⟨(fun hx => by cases hx), fun hx => absurd hx.1 hc⟩

end Desktop.Catalogue
