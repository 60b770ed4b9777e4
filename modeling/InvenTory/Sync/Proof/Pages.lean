import InvenTory.Sync.Proof.Closure

/-!
# The pages of a fixed database

Following `next_offset` comes to an end (`followPages_isSome`), and then the pages are the stream of
products, stores and balances, cut into pieces of at most `limit` rows (`pages_partition`).
-/

namespace Sync

open Relational
open Server (CentralDb DateTime)

namespace Rows

/-- No rows. -/
def none : Rows := ⟨[], [], []⟩

/-- The rows of all pages, one page after the other. -/
def concat (pages : List PullResponse) : Rows := pages.foldr (fun p r => p.rows.append r) none

theorem append_none (r : Rows) : r.append none = r := by
  simp [append, none]

theorem concat_cons (p : PullResponse) (pages : List PullResponse) :
    concat (p :: pages) = p.rows.append (concat pages) := rfl

theorem length_page (r : Rows) {start stop : Nat} (h : stop ≤ r.length) :
    (r.page start stop).length = stop - start := by
  have hslice : ∀ {α : Type} (xs : List α) (lo hi : Nat),
      (Pages.slice xs lo hi).length = min hi xs.length - lo := by
    intro α xs lo hi
    rw [Pages.slice, List.length_drop, List.length_take]
  rw [page_eq]
  simp only [length, hslice] at h ⊢
  omega

/-- No row is sent twice. -/
structure Once (r : Rows) : Prop where
  products : (r.products.map fun p => p.1.id).Nodup
  stores : (r.stores.map fun s => s.1.id).Nodup
  stockBalances : (r.stockBalances.map Server.StockBalance.stock).Nodup

end Rows

section
variable {since : Option DateTime} {limit offset : Nat} {c : CentralDb} {nows : List DateTime}
  {pages : List PullResponse}

/-- The rows of a table that a query selects and orders are different. -/
theorem nodup_selected {ρ κ : Type} [Keyed ρ κ] [DecidableEq κ] (t : Table ρ) (p : ρ → Bool)
    (le : ρ → ρ → Prop) [DecidableRel le] :
    (((t.rows.filter p).insertionSort le).map (key : ρ → κ)).Nodup := by
  have hperm := (List.perm_insertionSort le (t.rows.filter p)).map (key : ρ → κ)
  exact hperm.nodup_iff.2 (t.nodup.sublist (List.filter_sublist.map _))

theorem once_pulledRows (since : Option DateTime) (c : CentralDb) : (pulledRows since c).Once where
  products := by
    simp only [pulledRows, List.map_map]
    exact nodup_selected c.db.products _ productLe
  stores := by
    simp only [pulledRows, List.map_map]
    exact nodup_selected c.db.stores _ storeLe
  stockBalances := nodup_selected c.db.balances _ balanceLe

/-! ## The loop -/

/-- A page ends at most `limit` rows after its offset, and goes on unless that is the end. -/
theorem page_stop (hlimit : 0 < limit) (hoffset : offset ≤ (pulledRows since c).length)
    (now : DateTime) :
    let page := paginatedPull since limit offset c now
    page.rows = (pulledRows since c).page offset page.nextOffset ∧
      offset ≤ page.nextOffset ∧ page.nextOffset ≤ offset + limit ∧
        page.nextOffset ≤ (pulledRows since c).length ∧
          if page.hasMore then offset < page.nextOffset
          else page.nextOffset = (pulledRows since c).length := by
  refine ⟨rfl, ?_⟩
  simp only [paginatedPull, decide_eq_true_eq]
  split <;> omega

/-- **The loop ends** when it is answered often enough. -/
theorem followPages_isSome (hlimit : 0 < limit) (hoffset : offset ≤ (pulledRows since c).length)
    (hn : (pulledRows since c).length < offset + nows.length) :
    (followPages since limit c offset nows).isSome := by
  induction nows generalizing offset with
  | nil =>
    rw [List.length_nil] at hn
    omega
  | cons now nows ih =>
    obtain ⟨-, -, -, hle, hnext⟩ := page_stop hlimit hoffset now
    rw [List.length_cons] at hn
    unfold followPages
    simp only
    split
    · rename_i hmore
      rw [if_pos hmore] at hnext
      rw [Option.isSome_map]
      exact ih hle (by omega)
    · rfl

theorem followPages_rows (hlimit : 0 < limit) (hoffset : offset ≤ (pulledRows since c).length)
    (h : followPages since limit c offset nows = some pages) :
    Rows.concat pages = (pulledRows since c).page offset (pulledRows since c).length ∧
      ∀ p ∈ pages, p.rows.length ≤ limit := by
  induction nows generalizing offset pages with
  | nil => cases h
  | cons now nows ih =>
    obtain ⟨hrows, hge, hlimit', hle, hnext⟩ := page_stop hlimit hoffset now
    have hlength : (paginatedPull since limit offset c now).rows.length ≤ limit := by
      rw [hrows, Rows.length_page _ hle]
      omega
    unfold followPages at h
    simp only at h
    split at h
    · obtain ⟨rest, hrest, rfl⟩ := Option.map_eq_some_iff.1 h
      obtain ⟨hconcat, hall⟩ := ih hle hrest
      refine ⟨?_, List.forall_mem_cons.2 ⟨hlength, hall⟩⟩
      rw [Rows.concat_cons, hconcat, hrows, Rows.page_append _ hge hle]
    · rename_i hlast
      cases h
      rw [if_neg hlast] at hnext
      refine ⟨?_, List.forall_mem_singleton.2 hlength⟩
      rw [Rows.concat_cons, hrows, hnext]
      exact Rows.append_none _

end

/-- **The pages partition the stream**: following `next_offset` ends, and the pages that it brings hold the
products, then the stores, then the balances that match, each row once and in order. -/
theorem pages_partition (since : Option DateTime) {limit : Nat} (hlimit : 0 < limit) (c : CentralDb) :
    (∀ nows : List DateTime, (pulledRows since c).length < nows.length →
        (followPages since limit c 0 nows).isSome) ∧
      ∀ nows pages, followPages since limit c 0 nows = some pages →
        Rows.concat pages = pulledRows since c ∧ (Rows.concat pages).Once ∧
          ∀ p ∈ pages, p.rows.length ≤ limit := by
  refine ⟨fun nows hn => ?_, fun nows pages h => ?_⟩
  · exact followPages_isSome hlimit (Nat.zero_le _) (by omega)
  · obtain ⟨hconcat, hall⟩ := followPages_rows hlimit (Nat.zero_le _) h
    rw [Rows.page_all] at hconcat
    exact ⟨hconcat, hconcat ▸ once_pulledRows since c, hall⟩

/-- A store, a product and a balance, in pages of two. -/
theorem pages_of_stocked :
    (followPages none 2 Sample.stocked 0 (List.replicate 4 Sample.noon)).isSome ∧
      ∀ pages, followPages none 2 Sample.stocked 0 [Sample.noon, Sample.noon] = some pages →
        Rows.concat pages = pulledRows none Sample.stocked := by
  obtain ⟨hsome, hpages⟩ := pages_partition none Nat.two_pos Sample.stocked
  exact ⟨hsome _ (by decide +kernel), fun pages h => (hpages _ pages h).1⟩

end Sync
