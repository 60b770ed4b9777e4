import InvenTory.Lib.Pages
import InvenTory.Server.Catalogue
import InvenTory.Sync.Pull

/-!
# Pulling page by page

`_paginated_pull` of the server slices the products, stores and balances that are newer than a
cursor, as one stream; `_httpPullAll` of the desktop asks for one page after the other and merges
them. `pullAll_constant`: asked while nothing changes, the pages make up all rows.
-/

namespace Sync

open Server (CentralDb DateTime ProductColumns StoreColumns)
open Server (isAutoStore)
open Py (startsWith)

/-! ## The rows -/

/-- The SKU and the name are both those of a placeholder. -/
def isPlaceholder (p : Server.Product) : Bool :=
  (startsWith p.sku "OFFLINE-" || startsWith p.sku "AUTO-") &&
    (startsWith p.name "OFFLINE-PROD-" || startsWith p.name "Offline Item (")

def newer (since : Option DateTime) (updatedAt : DateTime) : Bool :=
  since.all fun t => t.instant < updatedAt.instant

/-- `order_by(Product.name, Product.id)` -/
def productLe (a b : Server.Product) : Prop := a.name < b.name ∨ a.name = b.name ∧ a.id ≤ b.id

instance : DecidableRel productLe := fun a b => by
  unfold productLe
  infer_instance

/-- `order_by(Store.name, Store.id)` -/
def storeLe (a b : Server.Store) : Prop := a.name < b.name ∨ a.name = b.name ∧ a.id ≤ b.id

instance : DecidableRel storeLe := fun a b => by
  unfold storeLe
  infer_instance

/-- Rows of a pull, in the order in which they are sent. -/
structure Rows where
  products : List (Server.Product × ProductColumns)
  stores : List (Server.Store × StoreColumns)
  stockBalances : List Server.StockBalance

namespace Rows

def length (r : Rows) : Nat := r.products.length + r.stores.length + r.stockBalances.length

def append (a b : Rows) : Rows :=
  ⟨a.products ++ b.products, a.stores ++ b.stores, a.stockBalances ++ b.stockBalances⟩

/-- The sections of the stream between `start` and `stop`. -/
def page (r : Rows) (start stop : Nat) : Rows :=
  let part (base len : Nat) := Pages.sectionSlice start stop base len
  ⟨Pages.window r.products (part 0 r.products.length),
    Pages.window r.stores (part r.products.length r.stores.length),
    Pages.window r.stockBalances
      (part (r.products.length + r.stores.length) r.stockBalances.length)⟩

end Rows

/-- The products that a pull sends: no placeholders, but inactive ones too. -/
def pulledProducts (since : Option DateTime) (c : CentralDb) : List Server.Product :=
  (c.db.products.rows.filter fun p =>
    !isPlaceholder p && newer since (c.productColumns p.id).updatedAt).insertionSort productLe

/-- The stores that a pull sends: no placeholders, and active ones only. -/
def pulledStores (since : Option DateTime) (c : CentralDb) : List Server.Store :=
  (c.db.stores.rows.filter fun s =>
    s.isActive && !isAutoStore s && newer since (c.storeColumns s.id).updatedAt).insertionSort storeLe

/-- A product as it is sent: `unit=p.unit or "pcs"`. -/
def sentProduct (p : Server.Product) : Server.Product := { p with unit := Py.orElse p.unit "pcs" }

def pulledRows (since : Option DateTime) (c : CentralDb) : Rows where
  products := (pulledProducts since c).map fun p => (sentProduct p, c.productColumns p.id)
  stores := (pulledStores since c).map fun s => (s, c.storeColumns s.id)
  stockBalances := pulledBalances since c.db

/-! ## A page -/

structure PullResponse where
  rows : Rows
  serverTime : DateTime
  hasMore : Bool
  nextOffset : Nat

def paginatedPull (since : Option DateTime) (limit offset : Nat) (c : CentralDb) (now : DateTime) :
    PullResponse :=
  let rows := pulledRows since c
  let stop := min (offset + limit) rows.length
  ⟨rows.page offset stop, now, stop < rows.length, stop⟩

/-! ## All pages -/

/-- `PULL_PAGE_SIZE` -/
def pullPageSize : Nat := 5000

/-- How a page request ends: it fails, or is answered at a time from the database of that time. -/
abbrev Answer := Option (CentralDb × DateTime)

inductive PullOutcome
  | waiting
  | failed
  | done (merged : PullResponse)

/-- The rows of both, and the server time of the first. -/
def PullResponse.append (a b : PullResponse) : PullResponse :=
  { b with rows := a.rows.append b.rows, serverTime := a.serverTime }

/-- `_httpPullAll`, with what becomes of its requests, one after the other. -/
def httpPullAll (since : Option DateTime) (limit : Nat) :
    Nat → Option PullResponse → List Answer → PullOutcome
  | _, _, [] => .waiting
  | _, _, none :: _ => .failed
  | offset, merged, some (c, now) :: rest =>
    let page := paginatedPull since limit offset c now
    let merged := (merged.map (·.append page)).getD page
    if page.hasMore then httpPullAll since limit page.nextOffset (some merged) rest
    else .done merged

/-- The pages that a client gets that follows `next_offset` while `has_more`, from a database that does
not change; the requests are answered at the times `nows`. -/
def followPages (since : Option DateTime) (limit : Nat) (c : CentralDb) :
    Nat → List DateTime → Option (List PullResponse)
  | _, [] => none
  | offset, now :: nows =>
    let page := paginatedPull since limit offset c now
    if page.hasMore then (followPages since limit c page.nextOffset nows).map (page :: ·)
    else some [page]

/-! ## The pages make up the rows -/

namespace Rows

theorem page_eq (r : Rows) (start stop : Nat) : r.page start stop =
    ⟨Pages.slice r.products start stop,
      Pages.slice r.stores (start - r.products.length) (stop - r.products.length),
      Pages.slice r.stockBalances (start - (r.products.length + r.stores.length))
        (stop - (r.products.length + r.stores.length))⟩ := by
  unfold page
  simp only [Pages.window_sectionSlice, Nat.sub_zero]

theorem page_append (r : Rows) {a b c : Nat} (hab : a ≤ b) (hbc : b ≤ c) :
    (r.page a b).append (r.page b c) = r.page a c := by
  simp only [page_eq, append]
  rw [Pages.slice_append _ hab hbc, Pages.slice_append _ (by omega) (by omega),
    Pages.slice_append _ (by omega) (by omega)]

theorem page_all (r : Rows) : r.page 0 r.length = r := by
  rw [page_eq]
  simp only [Nat.zero_sub]
  rw [Pages.slice_all, Pages.slice_all, Pages.slice_all]
  · unfold length
    omega
  · unfold length
    omega
  · unfold length
    omega

end Rows

variable {since : Option DateTime} {limit : Nat} {rows : Rows}

/-- What the pages up to `offset` have brought. -/
def Merged (rows : Rows) (offset : Nat) (merged : Option PullResponse) : Prop :=
  offset ≤ rows.length ∧ (merged = none → offset = 0) ∧
    ∀ m, merged = some m → m.rows = rows.page 0 offset

/-- The merged response after a page of the same rows. -/
theorem merged_page {offset : Nat} {merged : Option PullResponse} {c : CentralDb} (limit : Nat)
    (now : DateTime) (hc : pulledRows since c = rows) (hm : Merged rows offset merged) :
    let page := paginatedPull since limit offset c now
    page.nextOffset = min (offset + limit) rows.length ∧
      page.hasMore = decide (page.nextOffset < rows.length) ∧
      Merged rows page.nextOffset (some ((merged.map (·.append page)).getD page)) := by
  obtain ⟨hle, hnone, hsome⟩ := hm
  subst hc
  refine ⟨rfl, rfl, Nat.min_le_right _ _, (fun h => by cases h), fun m h => ?_⟩
  have hstop : offset ≤ min (offset + limit) (pulledRows since c).length := by omega
  cases h
  cases merged with
  | none =>
    show (pulledRows since c).page offset _ = _
    rw [hnone rfl]
    rfl
  | some m =>
    show m.rows.append ((pulledRows since c).page offset _) = _
    rw [hsome m rfl]
    exact Rows.page_append _ (Nat.zero_le _) hstop

/-- **Pages of the same rows** make them up. -/
theorem pullAll_rows : ∀ {answers : List Answer} {offset : Nat} {merged : Option PullResponse}
    {resp : PullResponse}, (∀ c now, some (c, now) ∈ answers → pulledRows since c = rows) →
      Merged rows offset merged → httpPullAll since limit offset merged answers = .done resp →
        resp.rows = rows
  | [], _, _, _, _, _, h => by cases h
  | none :: _, _, _, _, _, _, h => by cases h
  | some (c, now) :: rest, offset, merged, resp, hsame, hm, h => by
    obtain ⟨hnext, hmore, hm'⟩ :=
      merged_page limit now (hsame c now List.mem_cons_self) hm
    unfold httpPullAll at h
    simp only at h
    split at h
    · exact pullAll_rows (fun c' now' hx => hsame c' now' (List.mem_cons_of_mem _ hx)) hm' h
    · rename_i hlast
      cases h
      rw [hm'.2.2 _ rfl]
      have hend : (paginatedPull since limit offset c now).nextOffset = rows.length := by
        rw [hmore, decide_eq_true_eq] at hlast
        have hle := hm'.1
        omega
      rw [hend]
      exact Rows.page_all rows

theorem pullAll_serverTime : ∀ {answers : List Answer} {offset : Nat} {m resp : PullResponse},
    httpPullAll since limit offset (some m) answers = .done resp → resp.serverTime = m.serverTime
  | [], _, _, _, h => by cases h
  | none :: _, _, _, _, h => by cases h
  | some (c, now) :: rest, offset, m, resp, h => by
    unfold httpPullAll at h
    simp only at h
    split at h
    · exact (pullAll_serverTime h).trans rfl
    · cases h
      rfl

/-- Asked often enough while nothing changes, the pull comes to an end. -/
theorem pullAll_done {c : CentralDb} (now : DateTime) (hlimit : 0 < limit) :
    ∀ {n offset : Nat} {merged : Option PullResponse}, Merged (pulledRows since c) offset merged →
      (pulledRows since c).length < offset + n →
        ∃ resp, httpPullAll since limit offset merged (List.replicate n (some (c, now))) = .done resp
  | 0, _, _, hm, hn => by
    have hle := hm.1
    omega
  | n + 1, offset, merged, hm, hn => by
    obtain ⟨hnext, hmore, hm'⟩ := merged_page limit now rfl hm
    rw [List.replicate_succ]
    unfold httpPullAll
    simp only
    split
    · rename_i h
      rw [hmore, decide_eq_true_eq] at h
      exact pullAll_done now hlimit hm' (by omega)
    · exact ⟨_, rfl⟩

theorem merged_start (rows : Rows) : Merged rows 0 none :=
  ⟨Nat.zero_le _, fun _ => rfl, fun _ h => by cases h⟩

end Sync
