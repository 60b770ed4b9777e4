import InvenTory.Lib.Sort
import InvenTory.Server.Proof.Products
import InvenTory.Sync.Proof.Pages

/-!
# Pages of a database that changes

Offsets count in a stream that the writes between two page requests move. A row that no write touches is
pulled if it does not move from behind the offset of the next page to before it (`pulled_of_orderly`).
A rename of a product that has been sent moves the rows after it by one, and the next page begins
after the row that it should begin with (`rename_skips`).
-/

namespace Sync

open Relational
open Server (CentralDb DateTime ProductColumns StoreColumns ProductSnapshot isAutoStore)

/-- A row of the stream. -/
inductive Item
  | product (row : Server.Product) (columns : ProductColumns)
  | store (row : Server.Store) (columns : StoreColumns)
  | balance (row : Server.StockBalance)
  deriving DecidableEq

namespace Item

/-- It is a row of the database. -/
def In (c : CentralDb) : Item → Prop
  | .product p columns => p ∈ c.db.products.rows ∧ c.productColumns p.id = columns
  | .store s columns => s ∈ c.db.stores.rows ∧ c.storeColumns s.id = columns
  | .balance b => b ∈ c.db.balances.rows

def updatedAt : Item → DateTime
  | .product _ columns => columns.updatedAt
  | .store _ columns => columns.updatedAt
  | .balance b => b.updatedAt

/-- No placeholder, and no inactive store. -/
def visible : Item → Bool
  | .product p _ => !isPlaceholder p
  | .store s _ => s.isActive && !isAutoStore s
  | .balance _ => true

def sent : Item → Item
  | .product p columns => .product (sentProduct p) columns
  | .store s columns => .store s columns
  | .balance b => .balance b

end Item

namespace Rows

/-- The products, then the stores, then the balances. -/
def stream (r : Rows) : List Item :=
  r.products.map (fun p => .product p.1 p.2) ++
    (r.stores.map (fun s => .store s.1 s.2) ++ r.stockBalances.map .balance)

theorem length_stream (r : Rows) : r.stream.length = r.length := by
  simp only [stream, length, List.length_append, List.length_map]
  omega

theorem mem_stream_append {a b : Rows} {x : Item} :
    x ∈ (a.append b).stream ↔ x ∈ a.stream ∨ x ∈ b.stream := by
  simp only [stream, append, List.map_append, List.mem_append]
  tauto

theorem stream_page (r : Rows) (start stop : Nat) :
    (r.page start stop).stream = Pages.slice r.stream start stop := by
  have hmap : ∀ {α β : Type} (f : α → β) (xs : List α) (lo hi : Nat),
      (Pages.slice xs lo hi).map f = Pages.slice (xs.map f) lo hi := by
    intro α β f xs lo hi
    unfold Pages.slice
    rw [List.map_drop, List.map_take]
  rw [page_eq]
  simp only [stream, hmap, Pages.slice_append_lists, List.length_map]
  rw [Nat.sub_sub, Nat.sub_sub]

end Rows

section
variable {since : Option DateTime} {limit : Nat} {row : Item}

/-- The rows that match, as one list. -/
def pulledStream (since : Option DateTime) (c : CentralDb) : List Item := (pulledRows since c).stream

theorem mem_pulledStream {c : CentralDb} (hin : row.In c) (hvisible : row.visible)
    (hnewer : newer since row.updatedAt) : row.sent ∈ pulledStream since c := by
  unfold pulledStream Rows.stream pulledRows
  simp only [List.mem_append, List.mem_map]
  cases row with
  | product p columns =>
    obtain ⟨hp, rfl⟩ := hin
    have hreal : isPlaceholder p = false := by simpa [Item.visible] using hvisible
    exact .inl ⟨_, ⟨p, mem_pulledProducts.2 ⟨hp, hreal, hnewer⟩, rfl⟩, rfl⟩
  | store s columns =>
    obtain ⟨hs, rfl⟩ := hin
    have hreal : s.isActive = true ∧ isAutoStore s = false := by simpa [Item.visible] using hvisible
    exact .inr (.inl ⟨_, ⟨s, mem_pulledStores.2 ⟨hs, hreal, hnewer⟩, rfl⟩, rfl⟩)
  | balance b => exact .inr (.inr ⟨b, mem_pulledBalances.2 ⟨hin, hnewer⟩, rfl⟩)

/-- What `_httpPullAll` merges is what its requests read from the streams. -/
theorem pullAll_reads {found : List (CentralDb × DateTime)} {offset : Nat}
    {merged : Option PullResponse} {resp : PullResponse}
    (h : httpPullAll since limit offset merged (found.map some) = .done resp) :
    ∃ read, Pages.readAll limit offset (found.map fun f => pulledStream since f.1) = some read ∧
      ∀ x, x ∈ resp.rows.stream ↔ (∃ m, merged = some m ∧ x ∈ m.rows.stream) ∨ x ∈ read := by
  induction found generalizing offset merged with
  | nil => cases h
  | cons f found ih =>
    obtain ⟨c, now⟩ := f
    have hlen : (pulledStream since c).length = (pulledRows since c).length := Rows.length_stream _
    have hpage : (paginatedPull since limit offset c now).rows.stream =
        Pages.slice (pulledStream since c) offset (min (offset + limit) (pulledStream since c).length) := by
      rw [hlen]
      exact Rows.stream_page _ _ _
    -- the rows merged so far, and this page
    have hmerged : ∀ x, x ∈ ((merged.map (·.append (paginatedPull since limit offset c now))).getD
        (paginatedPull since limit offset c now)).rows.stream ↔
          (∃ m, merged = some m ∧ x ∈ m.rows.stream) ∨
            x ∈ (paginatedPull since limit offset c now).rows.stream := by
      intro x
      cases merged with
      | none => simp
      | some m =>
        simp only [Option.map_some, Option.getD_some, Option.some.injEq, exists_eq_left']
        exact Rows.mem_stream_append
    simp only [List.map_cons, httpPullAll] at h
    simp only [List.map_cons, Pages.readAll]
    split at h
    · rename_i hmore
      have hlt : min (offset + limit) (pulledStream since c).length < (pulledStream since c).length := by
        rw [hlen]
        exact of_decide_eq_true hmore
      obtain ⟨read, hread, hmem⟩ := ih h
      have hread' : Pages.readAll limit (min (offset + limit) (pulledStream since c).length)
          (found.map fun f => pulledStream since f.1) = some read := by
        rw [hlen]
        exact hread
      rw [if_pos hlt, hread']
      refine ⟨_, rfl, fun x => ?_⟩
      simp only [hmem, Option.some.injEq, exists_eq_left', hmerged, hpage, List.mem_append, or_assoc]
    · rename_i hlast
      have hge : ¬ min (offset + limit) (pulledStream since c).length < (pulledStream since c).length := by
        rw [hlen]
        exact fun hlt => hlast (decide_eq_true hlt)
      cases h
      rw [if_neg hge]
      exact ⟨_, rfl, fun x => by rw [hmerged, hpage]⟩

/-- Two pages end a pull if the first does not reach the end of its stream, and the second does. -/
theorem pullAll_two (since : Option DateTime) (limit : Nat) {a b : CentralDb × DateTime}
    (hmore : limit < (pulledStream since a.1).length)
    (hlast : (pulledStream since b.1).length ≤ limit + limit) :
    ∃ resp, httpPullAll since limit 0 none ([a, b].map some) = .done resp := by
  unfold pulledStream at hmore hlast
  rw [Rows.length_stream] at hmore hlast
  have hstop : min (0 + limit) (pulledRows since a.1).length = limit := by omega
  have ha : (paginatedPull since limit 0 a.1 a.2).hasMore = true := by
    simp only [paginatedPull, hstop]
    exact decide_eq_true hmore
  have hb : (paginatedPull since limit limit b.1 b.2).hasMore = false := by
    simp only [paginatedPull]
    exact decide_eq_false (by omega)
  simp only [List.map_cons, httpPullAll, ha, if_true]
  rw [show (paginatedPull since limit 0 a.1 a.2).nextOffset = limit from hstop, hb]
  exact ⟨_, rfl⟩

end

/-- **A row that stays behind the offset is pulled.** When the requests of a pull find the databases
`found`, and a row that matches and is in all of them does not move to before the end of a page
between the request of that page and the next one, then the merged response holds the row. -/
theorem pulled_of_orderly {since : Option DateTime} {limit : Nat} {row : Item}
    {found : List (CentralDb × DateTime)} {resp : PullResponse}
    (hdone : httpPullAll since limit 0 none (found.map some) = .done resp)
    (hin : ∀ f ∈ found, row.In f.1) (hvisible : row.visible) (hnewer : newer since row.updatedAt)
    (horderly : Pages.Orderly limit row.sent 0 (found.map fun f => pulledStream since f.1)) :
    row.sent ∈ resp.rows.stream := by
  obtain ⟨read, hread, hmem⟩ := pullAll_reads hdone
  cases found with
  | nil => cases hread
  | cons f found =>
    have hfirst : row.sent ∈ pulledStream since f.1 :=
      mem_pulledStream (hin f List.mem_cons_self) hvisible hnewer
    exact (hmem row.sent).2 (.inr (Pages.mem_readAll horderly hfirst hread))

namespace Sample

/-- The store has got a new name. -/
def moved : CentralDb := stocked.handle ⟨150, some 0⟩ (.updateStore "STORE-A" "Annex" none)

def balanceRow : Item := .balance ⟨"SB-PROD-1", ⟨"STORE-A", "PROD-1", "AVAILABLE"⟩, 0, noon⟩

end Sample

/-- The balance comes with the second page, after an edit of the store. -/
theorem balance_pulled : ∃ resp, httpPullAll none 2 0 none
    ([(Sample.stocked, Sample.noon), (Sample.moved, ⟨200, some 0⟩)].map some) = .done resp ∧
      Sample.balanceRow.sent ∈ resp.rows.stream := by
  obtain ⟨resp, hresp⟩ := pullAll_two none 2
    (a := (Sample.stocked, Sample.noon)) (b := (Sample.moved, ⟨200, some 0⟩))
    (by decide +kernel) (by decide +kernel)
  refine ⟨resp, hresp, pulled_of_orderly hresp ?_ rfl rfl ⟨fun _ => by decide +kernel, trivial⟩⟩
  refine List.forall_mem_cons.2 ⟨?_, List.forall_mem_singleton.2 ?_⟩
  · show _ ∈ _
    decide +kernel
  · show _ ∈ _
    decide +kernel

/-! ## A product that a rename moves -/

instance : IsTrans Server.Product productLe where
  trans a b c hab hbc := by
    rcases hab with hab | ⟨hab, hid⟩ <;> rcases hbc with hbc | ⟨hbc, hid'⟩
    · exact .inl (String.lt_trans hab hbc)
    · exact .inl (hbc ▸ hab)
    · exact .inl (hab ▸ hbc)
    · exact .inr ⟨hab.trans hbc, String.le_trans hid hid'⟩

instance : Std.Total productLe where
  total a b := by
    by_cases hab : a.name < b.name
    · exact .inl (.inl hab)
    by_cases hba : b.name < a.name
    · exact .inr (.inl hba)
    have h : a.name = b.name := String.le_antisymm hba hab
    exact (String.le_total a.id b.id).imp (fun hid => .inr ⟨h, hid⟩) fun hid => .inr ⟨h.symm, hid⟩

/-- The product with the greatest name is the last one. -/
theorem last_product {ps : List Server.Product} {p : Server.Product} {n : Nat}
    (hlen : ps.length = n + 1) (hp : p ∈ ps) (hlast : ∀ q ∈ ps, q = p ∨ q.name < p.name) :
    (ps.insertionSort productLe).drop n = [p] := by
  refine StableSort.drop_insertionSort hlen hp fun q hq hle => ?_
  refine (hlast q hq).resolve_right fun hlt => ?_
  rcases hle with h | ⟨h, -⟩
  · exact String.lt_asymm h hlt
  · exact String.lt_irrefl _ (h ▸ hlt)

namespace Sample

def part (id name : String) : Server.Product := ⟨id, id, name, "Parts", "pcs", true⟩

def cable (i : Nat) : Server.Product := part ("C-" ++ i.repr) "Cable"

/-- An adapter, a screen and `n` cables. -/
def parts (n : Nat) : List Server.Product :=
  part "A-1" "Adapter" :: part "S-1" "Screen" :: (List.range n).map cable

def zipTie : ProductSnapshot :=
  { product with id := "A-1", sku := "A-1", name := "Zip tie", updatedAt := some ⟨150, some 0⟩ }

theorem cable_id {i : Nat} {s : String} (hs : s.toList.head? ≠ some 'C') : (cable i).id ≠ s := by
  rintro rfl
  exact hs (by simp [cable, part])

theorem repr_injective {i j : Nat} (h : i.repr = j.repr) : i = j := by
  have hd := congrArg (fun s : String => Nat.ofDigitChars 10 s.toList 0) h
  simpa using hd

theorem parts_nodup (n : Nat) : ((parts n).map (key : Server.Product → String)).Nodup := by
  have hmem : ∀ s : String, s.toList.head? ≠ some 'C' →
      s ∉ ((List.range n).map cable).map (key : Server.Product → String) := by
    intro s hs hmem
    simp only [List.map_map, List.mem_map] at hmem
    obtain ⟨i, -, hi⟩ := hmem
    exact cable_id hs hi
  refine List.nodup_cons.2 ⟨?_, List.nodup_cons.2 ⟨hmem _ (by decide), ?_⟩⟩
  · rw [List.map_cons, List.mem_cons, not_or]
    exact ⟨by decide, hmem _ (by decide)⟩
  · rw [List.map_map]
    refine List.nodup_range.map fun i j h => ?_
    have h' : "C-" ++ i.repr = "C-" ++ j.repr := h
    exact repr_injective (by simpa using h')

def shelf (n : Nat) : CentralDb :=
  { startup with db := { Server.Db.empty with products := ⟨parts n, parts_nodup n⟩ } }

def afterNoon : DateTime := ⟨200, some 0⟩

/-- The adapter is renamed. -/
def relabelled (n : Nat) : CentralDb := (shelf n).handle afterNoon (.pushProducts [zipTie])

theorem parts_cases {n : Nat} {q : Server.Product} (h : q ∈ parts n) :
    q = part "A-1" "Adapter" ∨ q = part "S-1" "Screen" ∨ ∃ i, q = cable i := by
  rcases List.mem_cons.1 h with h | h
  · exact .inl h
  rcases List.mem_cons.1 h with h | h
  · exact .inr (.inl h)
  · obtain ⟨i, -, rfl⟩ := List.mem_map.1 h
    exact .inr (.inr ⟨i, rfl⟩)

theorem zipTieRow_sku (n : Nat) : ((shelf n).pushedRow zipTie).sku = "A-1" := by
  have h : ((shelf n).pushedRow zipTie).sku = if Py.startsWith "A-1" "OFFLINE-" then "A-1"
      else if ((shelf n).db.skuOwner "A-1" fun q => q.id ≠ "A-1").isSome then "A-1" else "A-1" := rfl
  rw [h, ite_self, ite_self]

theorem relabelled_eq (n : Nat) : relabelled n = (shelf n).pushed afterNoon zipTie := by
  have hok : (shelf n).upsertProduct afterNoon zipTie = .ok ((shelf n).pushed afterNoon zipTie) := by
    refine CentralDb.upsertProduct_ok_iff.2 ⟨fun q hq hsku => ?_, rfl⟩
    rw [zipTieRow_sku] at hsku
    rcases parts_cases hq with rfl | rfl | ⟨i, rfl⟩
    · rfl
    · exact absurd hsku (by decide)
    · exact absurd hsku (cable_id (by decide))
  have hall : (shelf n).upsertProducts afterNoon [zipTie] = .ok ((shelf n).pushed afterNoon zipTie) := by
    unfold CentralDb.upsertProducts
    rw [List.foldlM_cons, hok]
    rfl
  unfold relabelled CentralDb.handle CentralDb.answer
  dsimp only
  rw [hall]
  rfl

/-- The renamed adapter stands where it stood. -/
theorem relabelled_rows (n : Nat) : ∃ row : Server.Product, row.id = "A-1" ∧ row.name = "Zip tie" ∧
    (relabelled n).db.products.rows = row :: (parts n).tail := by
  refine ⟨(shelf n).pushedRow zipTie, CentralDb.pushedRow_id, rfl, ?_⟩
  rw [relabelled_eq]
  show Table.putRows ((shelf n).pushedRow zipTie) (parts n) = _
  have hkey : key (part "A-1" "Adapter") = key ((shelf n).pushedRow zipTie) :=
    (CentralDb.pushedRow_id (c := shelf n) (p := zipTie)).symm
  rw [parts, Table.putRows, if_pos hkey, List.tail_cons]

end Sample

section
variable {c : CentralDb}

/-- The stream where there are only products that are sent. -/
theorem pulledStream_products (hstores : c.db.stores.rows = []) (hbalances : c.db.balances.rows = [])
    (hreal : ∀ p ∈ c.db.products.rows, isPlaceholder p = false) : pulledStream none c =
      (c.db.products.rows.insertionSort productLe).map fun p =>
        .product (sentProduct p) (c.productColumns p.id) := by
  have hfilter : pulledProducts none c = c.db.products.rows.insertionSort productLe := by
    unfold pulledProducts
    rw [List.filter_eq_self.2 fun p hp => by simp [hreal p hp, newer]]
  unfold pulledStream Rows.stream pulledRows
  rw [hfilter]
  simp [pulledStores, pulledBalances, hstores, hbalances, Function.comp_def]

end

namespace Sample

theorem shelf_real (n : Nat) : ∀ p ∈ parts n, isPlaceholder p = false := by
  intro p hp
  have hname : p.name = "Adapter" ∨ p.name = "Screen" ∨ p.name = "Cable" := by
    rcases parts_cases hp with rfl | rfl | ⟨i, rfl⟩
    · exact .inl rfl
    · exact .inr (.inl rfl)
    · exact .inr (.inr rfl)
  unfold isPlaceholder
  rcases hname with h | h | h <;> rw [h] <;> exact Bool.and_false _

theorem length_parts (n : Nat) : (parts n).length = n + 2 := by
  simp [parts]

/-- The screen ends the stream before the rename. -/
theorem shelf_stream (n : Nat) : ∃ xs, pulledStream none (shelf n) =
    xs ++ [.product (part "S-1" "Screen") (startup.productColumns "S-1")] ∧ xs.length = n + 1 ∧
      ∀ p columns, Item.product p columns ∈ xs → p.id ≠ "S-1" := by
  have hlast : ((parts n).insertionSort productLe).drop (n + 1) = [part "S-1" "Screen"] := by
    refine last_product (length_parts n) (by simp [parts]) fun q hq => ?_
    rcases parts_cases hq with rfl | rfl | ⟨i, rfl⟩
    · exact .inr (by decide)
    · exact .inl rfl
    · exact .inr (show "Cable" < "Screen" by decide)
  have hsplit := List.take_append_drop (n + 1) ((parts n).insertionSort productLe)
  rw [hlast] at hsplit
  have hnodup : (((parts n).insertionSort productLe).map (key : Server.Product → String)).Nodup :=
    ((List.perm_insertionSort productLe (parts n)).map _).nodup_iff.2 (parts_nodup n)
  rw [← hsplit, List.map_append] at hnodup
  have hstream := pulledStream_products (show (shelf n).db.stores.rows = [] from rfl)
    (show (shelf n).db.balances.rows = [] from rfl) (shelf_real n)
  rw [show (shelf n).db.products.rows = parts n from rfl, ← hsplit, List.map_append] at hstream
  refine ⟨_, hstream, ?_, fun p columns hp hid => ?_⟩
  · rw [List.length_map, List.length_take, List.length_insertionSort, length_parts]
    omega
  · obtain ⟨q, hq, he⟩ := List.mem_map.1 hp
    cases he
    have hmem : "S-1" ∈ (((parts n).insertionSort productLe).take (n + 1)).map
        (key : Server.Product → String) := List.mem_map.2 ⟨q, hq, hid⟩
    exact List.disjoint_of_nodup_append hnodup hmem (List.mem_singleton_self _)

theorem screen_stays (n : Nat) : ∀ f ∈ [(shelf n, noon), (relabelled n, afterNoon)],
    (Item.product (part "S-1" "Screen") (startup.productColumns "S-1")).In f.1 := by
  refine List.forall_mem_cons.2 ⟨⟨by simp [shelf, parts], rfl⟩, List.forall_mem_singleton.2 ⟨?_, ?_⟩⟩
  · obtain ⟨row, -, -, hrows⟩ := relabelled_rows n
    rw [hrows]
    exact List.mem_cons_of_mem _ (by simp [parts])
  · rw [relabelled_eq]
    exact CentralDb.pushed_columns_of_ne (by decide)

/-- The adapter ends it afterwards. -/
theorem relabelled_stream (n : Nat) : ∃ xs row columns, pulledStream none (relabelled n) =
    xs ++ [.product row columns] ∧ xs.length = n + 1 ∧ row.id = "A-1" := by
  obtain ⟨row, hid, hname, hrows⟩ := relabelled_rows n
  have hreal : ∀ p ∈ (relabelled n).db.products.rows, isPlaceholder p = false := by
    rw [hrows]
    refine List.forall_mem_cons.2 ⟨?_, fun p hp => shelf_real n p (List.mem_of_mem_tail hp)⟩
    unfold isPlaceholder
    rw [hname]
    exact Bool.and_false _
  have hlen : (row :: (parts n).tail).length = n + 2 := by
    simp [parts]
  have hlast : ((row :: (parts n).tail).insertionSort productLe).drop (n + 1) = [row] := by
    refine last_product hlen List.mem_cons_self fun q hq => ?_
    rw [hname]
    rcases List.mem_cons.1 hq with rfl | hq
    · exact .inl rfl
    rcases parts_cases (List.mem_of_mem_tail hq) with rfl | rfl | ⟨i, rfl⟩
    · exact .inr (by decide)
    · exact .inr (by decide)
    · exact .inr (show "Cable" < "Zip tie" by decide)
  have hsplit := List.take_append_drop (n + 1) ((row :: (parts n).tail).insertionSort productLe)
  rw [hlast] at hsplit
  have hstream := pulledStream_products (c := relabelled n) (by rw [relabelled_eq]; rfl)
    (by rw [relabelled_eq]; rfl) hreal
  rw [hrows, ← hsplit, List.map_append] at hstream
  refine ⟨_, _, _, hstream, ?_, hid⟩
  rw [List.length_map, List.length_take, List.length_insertionSort, hlen]
  omega

end Sample

namespace Sample

/-- The first page holds all but the screen, the second one the adapter again. -/
theorem screen_skipped (n : Nat) : ∃ resp, httpPullAll none (n + 1) 0 none
    ([(shelf n, noon), (relabelled n, afterNoon)].map some) = .done resp ∧
      Item.product (part "S-1" "Screen") (startup.productColumns "S-1") ∉ resp.rows.stream := by
  obtain ⟨xs, hxs, hlen, hnot⟩ := shelf_stream n
  obtain ⟨ys, row, columns, hys, hlen', hid⟩ := relabelled_stream n
  obtain ⟨resp, hresp⟩ := pullAll_two none (n + 1) (a := (shelf n, noon)) (b := (relabelled n, afterNoon))
    (by simp [hxs, hlen]) (by simp [hys, hlen'])
  refine ⟨resp, hresp, fun hmem => ?_⟩
  obtain ⟨read, hread, hiff⟩ := pullAll_reads hresp
  have hpages : read = xs ++ [.product row columns] := by
    simp only [List.map_cons, List.map_nil, hxs, hys] at hread
    rw [Pages.readAll_two (Nat.succ_pos n) hlen hlen'] at hread
    exact (Option.some.inj hread).symm
  rw [hiff, hpages] at hmem
  rcases hmem with ⟨_, h, _⟩ | hmem
  · cases h
  rcases List.mem_append.1 hmem with hm | hm
  · exact hnot _ _ hm rfl
  · cases List.mem_singleton.1 hm
    exact absurd hid (by decide)

end Sample

/-- **A rename between two pages skips a row**: the screen is newer than the cursor and does not change, and
is on neither page. -/
theorem rename_skips : ¬ ∀ since (found : List (CentralDb × DateTime)) resp (row : Item),
    httpPullAll since pullPageSize 0 none (found.map some) = .done resp →
      found.IsChain (fun a b => ∃ now r, b.1 = a.1.handle now r) → (∀ f ∈ found, row.In f.1) →
        row.visible → newer since row.updatedAt →
          (∀ f ∈ found.head?, row.updatedAt.instant ≤ f.2.instant) →
            row.sent ∈ resp.rows.stream := by
  intro h
  obtain ⟨n, hn⟩ : ∃ n, pullPageSize = n + 1 := ⟨4999, rfl⟩
  rw [hn] at h
  obtain ⟨resp, hresp, hnot⟩ := Sample.screen_skipped n
  refine hnot (h none _ resp (.product (Sample.part "S-1" "Screen")
    (Sample.startup.productColumns "S-1")) hresp ?_ (Sample.screen_stays n) rfl rfl ?_)
  · exact .cons_cons ⟨_, _, rfl⟩ (.singleton _)
  · intro f hf
    cases hf
    exact show (0 : Int) ≤ 100 by decide

end Sync
