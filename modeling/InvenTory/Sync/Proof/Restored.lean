import InvenTory.Sync.Proof.Fits
import InvenTory.Sync.Proof.Logins

/-!
# What a restore leaves out

The first request for data sends a hundred rows of each table, and the desktop asks for no second page;
a row that refers to a store which is not sent is dropped. So a restore is complete exactly if the tables
are that small and nothing refers to an inactive store (`restored_complete_iff`).
-/

namespace Sync

open Relational Desktop
open Server (RestoreSource DateTime)

/-- The constraints of the server's tables. -/
structure SourceConstrained (s : RestoreSource) : Prop where
  tables : Constrained s.db
  usernames : s.users.Unique Server.User.username
  ledgerStores : ∀ r ∈ s.db.ledger.rows, (s.db.stores.get? r.storeId).isSome
  ledgerProducts : ∀ r ∈ s.db.ledger.rows, (s.db.products.get? r.productId).isSome

/-- Everything that the server has is on the desktop. -/
structure Complete (s : RestoreSource) (db : RestoreDb) : Prop where
  stores : ∀ r ∈ s.activeStores, restoredStore r ∈ db.stores.rows
  users : ∀ u ∈ s.activeUsers, ∃ a ∈ db.accounts.rows, a.id = toString u.id ∧
    a.username = u.username ∧ a.email = some u.email ∧ a.fullName = u.fullName ∧ a.role = u.role
  products : ∀ r ∈ s.db.products.rows, restoredProduct r ∈ db.products.rows
  balances : ∀ b ∈ s.db.balances.rows, restoredBalance b ∈ db.balances.rows
  transactions : ∀ r ∈ s.db.ledger.rows, ∃ t ∈ db.transactions.rows,
    t.transactionId = r.transactionId ∧ t.stock = r.stock ∧ t.movementType = r.movementType ∧
      t.quantityDelta = r.quantityDelta

/-- The store with this id is active. -/
def StoreActive (s : RestoreSource) (id : String) : Prop :=
  ∃ r, s.db.stores.get? id = some r ∧ r.isActive = true

/-! ## Pages -/

section
variable {α : Type} {l : List α} {n : Nat}

theorem length_le_of_mem_take (hnodup : l.Nodup) (h : ∀ a ∈ l, a ∈ l.take n) : l.length ≤ n := by
  have hsub : l ⊆ l.take n := h
  have hlen := (hnodup.subperm hsub).length_le
  rw [List.length_take] at hlen
  omega

/-- A page has all rows exactly if there are no more than it holds. -/
theorem mem_take_iff (hnodup : l.Nodup) : (∀ a ∈ l, a ∈ l.take n) ↔ l.length ≤ n :=
  ⟨length_le_of_mem_take hnodup, fun h a ha => by rwa [List.take_of_length_le h]⟩

theorem mem_map_take_iff {β : Type} {f : α → β} (hnodup : l.Nodup)
    (hf : ∀ a ∈ l, ∀ b ∈ l, f a = f b → a = b) :
    (∀ a ∈ l, f a ∈ (l.take n).map f) ↔ l.length ≤ n := by
  rw [← mem_take_iff hnodup]
  refine forall₂_congr fun a ha => ⟨fun h => ?_, List.mem_map_of_mem⟩
  obtain ⟨b, hb, hab⟩ := List.mem_map.1 h
  rwa [hf a ha b (List.mem_of_mem_take hb) hab.symm]

end

/-! ## What is sent -/

section
variable {x : RestoreSession} {s : RestoreSource} {t2 t3 : DateTime}

/-- The ledger rows of the three answers. -/
def sentLedger (x : RestoreSession) (s : RestoreSource) (t2 t3 : DateTime) :
    List Server.InventoryTransaction :=
  (s.restoreCritical 100 0 x.critical).recentTransactions ++
    (s.restoreImportant t2 ++ s.restoreBackground t3)

/-- The seven days of the second answer and the time before the third cover the ledger. -/
theorem mem_sentLedger (h : t2.instant ≤ t3.instant) {r : Server.InventoryTransaction} :
    r ∈ sentLedger x s t2 t3 ↔ r ∈ s.db.ledger.rows := by
  unfold sentLedger
  rw [List.mem_append, List.mem_append]
  constructor
  · rintro (hr | hr | hr)
    · exact List.mem_of_mem_filter (List.mem_of_mem_take hr)
    · exact List.mem_of_mem_filter hr
    · exact List.mem_of_mem_filter hr
  · intro hr
    right
    by_cases hold : r.occurredAt.instant < t3.instant - 7 * DateTime.day
    · exact .inr (List.mem_filter.2 ⟨hr, decide_eq_true hold⟩)
    · exact .inl (List.mem_filter.2 ⟨hr, decide_eq_true (by omega)⟩)

theorem nodup_of_sublist {ρ κ ι : Type} [Keyed ρ κ] {t : Table ρ} {f : ρ → ι} (h : t.Unique f)
    {l : List ρ} (hl : l.Sublist t.rows) : (l.map f).Nodup :=
  (t.nodup.of_map.map_on fun a ha b hb => h a ha b hb).sublist (hl.map f)

theorem criticalData_distinct (hs : SourceConstrained s) (n : Nat) (now : DateTime) :
    (criticalData (s.restoreCritical n 0 now)).Distinct := by
  have hstores : (s.activeStores.take n).Sublist s.db.stores.rows :=
    (List.take_sublist n _).trans List.filter_sublist
  have hproducts : (s.db.products.rows.take n).Sublist s.db.products.rows := List.take_sublist n _
  have hbalances : (s.db.balances.rows.take n).Sublist s.db.balances.rows := List.take_sublist n _
  obtain ⟨hids, hnames⟩ := restoredUsers_distinct hs.usernames n
  constructor
  · show ((List.map _ _).map _).Nodup
    rw [List.map_map]
    exact nodup_of_sublist (unique_key s.db.stores) hstores
  · show ((List.map _ _).map _).Nodup
    rw [List.map_map]
    exact nodup_of_sublist hs.tables.references.codes hstores
  · show ((List.map _ _).map _).Nodup
    rw [List.map_map]
    exact nodup_of_sublist (unique_key s.db.products) hproducts
  · show ((List.map _ _).map _).Nodup
    rw [List.map_map]
    exact nodup_of_sublist hs.tables.references.skus hproducts
  · show ((List.map _ _).map _).Nodup
    rw [List.map_map]
    exact nodup_of_sublist (unique_key s.db.balances) hbalances
  · show ((List.map _ _).map _).Nodup
    rw [List.map_map]
    exact nodup_of_sublist hs.tables.ids hbalances
  · exact hids
  · exact hnames

/-! ## What is there afterwards -/

theorem loggedIn_of_phase (h : (x.replies s).phase = "complete") : ∃ r, x.loggedIn s = .ok r := by
  unfold Replies.phase RestoreSession.replies at h
  cases hlogin : x.loggedIn s with
  | ok r => exact ⟨r, rfl⟩
  | error e =>
    rw [hlogin] at h
    have herror : "error" = "complete" := h
    exact absurd herror (by decide)

/-- What is in an empty database after a restore whose requests are all answered. -/
theorem restored_rows (hs : SourceConstrained s) {r : Server.User} (hlogin : x.loggedIn s = .ok r)
    (h2 : x.important = some t2) (h3 : x.background = some t3) :
    RestoredRows x.call (criticalData (s.restoreCritical 100 0 x.critical))
      ((s.restoreImportant t2 ++ s.restoreBackground t3).map restoredTransaction)
      (x.restored s .empty) := by
  have hrows := doRestore_rows (c := x.call) (replies_start hlogin) rfl
    (criticalData_distinct hs 100 x.critical)
  have himportant : (x.replies s).important.getD [] = (s.restoreImportant t2).map restoredTransaction := by
    simp [RestoreSession.replies, h2]
  have hbackground : (x.replies s).background.getD [] =
      (s.restoreBackground t3).map restoredTransaction := by
    simp [RestoreSession.replies, h3]
  rw [himportant, hbackground, ← List.map_append] at hrows
  exact hrows

section
variable {later : List RestoredTransaction} {db : RestoreDb}
  (hrows : RestoredRows x.call (criticalData (s.restoreCritical 100 0 x.critical)) later db)
include hrows

theorem stores_rows : db.stores.rows = (s.activeStores.take 100).map restoredStore := hrows.stores

theorem products_rows : db.products.rows = (s.db.products.rows.take 100).map restoredProduct :=
  hrows.products

/-- A row that refers to a store and a product is written if both are on their first page. -/
theorem refers_iff (storeId productId : String) : db.Refers storeId productId ↔
    storeId ∈ (s.activeStores.take 100).map (·.id) ∧
      productId ∈ (s.db.products.rows.take 100).map (·.id) := by
  unfold RestoreDb.Refers
  rw [Table.isSome_get?_iff, Table.isSome_get?_iff, stores_rows hrows, products_rows hrows, List.map_map,
    List.map_map]
  rfl

theorem storeActive_of_refers {storeId productId : String} (h : db.Refers storeId productId) :
    StoreActive s storeId := by
  obtain ⟨r, hr, rfl⟩ := List.mem_map.1 ((refers_iff hrows _ _).1 h).1
  obtain ⟨hmem, hactive⟩ := List.mem_filter.1 (List.mem_of_mem_take hr)
  exact ⟨r, Table.get?_of_mem hmem, hactive⟩

theorem refers_of_storeActive (hstores : s.activeStores.length ≤ 100)
    (hproducts : s.db.products.rows.length ≤ 100) {storeId productId : String}
    (hs : StoreActive s storeId) (hp : (s.db.products.get? productId).isSome) :
    db.Refers storeId productId := by
  rw [refers_iff hrows, List.take_of_length_le hstores, List.take_of_length_le hproducts]
  obtain ⟨r, hr, hactive⟩ := hs
  obtain ⟨p, hp⟩ := Option.isSome_iff_exists.1 hp
  exact ⟨List.mem_map.2 ⟨r, List.mem_filter.2 ⟨Table.mem_of_get? hr, hactive⟩, Table.key_of_get? hr⟩,
    List.mem_map.2 ⟨p, Table.mem_of_get? hp, Table.key_of_get? hp⟩⟩

/-- The balances of the first page that refer to what is sent. -/
theorem balances_complete_iff : (∀ b ∈ s.db.balances.rows, restoredBalance b ∈ db.balances.rows) ↔
    s.db.balances.rows.length ≤ 100 ∧
      ∀ b ∈ s.db.balances.rows, db.Refers b.stock.storeId b.stock.productId := by
  have hmem : ∀ b, restoredBalance b ∈ db.balances.rows ↔
      restoredBalance b ∈ (s.db.balances.rows.take 100).map restoredBalance ∧
        db.Refers b.stock.storeId b.stock.productId := by
    intro b
    rw [hrows.balances, List.mem_filter, decide_eq_true_iff]
    rfl
  have hinj : ∀ a ∈ s.db.balances.rows, ∀ b ∈ s.db.balances.rows, restoredBalance a = restoredBalance b →
      a = b := fun a ha b hb hab =>
    unique_key s.db.balances a ha b hb (congrArg Desktop.StockBalance.stock hab)
  simp only [hmem, forall_and]
  rw [mem_map_take_iff s.db.balances.nodup.of_map hinj]

/-- The ledger rows that refer to what is sent. -/
theorem transactions_complete_iff (hlater : later =
      (s.restoreImportant t2 ++ s.restoreBackground t3).map restoredTransaction)
    (h23 : t2.instant ≤ t3.instant) :
    (∀ r ∈ s.db.ledger.rows, ∃ t ∈ db.transactions.rows, t.transactionId = r.transactionId ∧
      t.stock = r.stock ∧ t.movementType = r.movementType ∧ t.quantityDelta = r.quantityDelta) ↔
    ∀ r ∈ s.db.ledger.rows, db.Refers r.storeId r.productId := by
  have hsent : (criticalData (s.restoreCritical 100 0 x.critical)).recentTransactions ++ later =
      (sentLedger x s t2 t3).map restoredTransaction := by
    rw [hlater]
    exact List.map_append.symm
  have hins := hrows.transactions
  rw [hsent] at hins
  have hfrom : ∀ {id t}, db.transactions.get? id = some t → ∃ r ∈ s.db.ledger.rows,
      db.Refers r.storeId r.productId ∧ t = x.call.row (restoredTransaction r) := by
    intro id t ht
    obtain ⟨t', ht', href, rfl⟩ := (hins.only ht).resolve_left nofun
    obtain ⟨r, hr, rfl⟩ := List.mem_map.1 ht'
    exact ⟨r, (mem_sentLedger h23).1 hr, href, rfl⟩
  refine forall₂_congr fun r hr => ⟨?_, fun href => ?_⟩
  · rintro ⟨t, ht, hid, -⟩
    obtain ⟨r', hr', href, rfl⟩ := hfrom (Table.get?_of_mem ht)
    have hsame : r' = r := unique_key s.db.ledger r' hr' r hr hid
    rwa [← hsame]
  · have hsome := hins.all (List.mem_map_of_mem ((mem_sentLedger h23).2 hr)) href
    obtain ⟨t, ht⟩ := Option.isSome_iff_exists.1 hsome
    obtain ⟨r', hr', -, rfl⟩ := hfrom ht
    have hkey : r'.transactionId = r.transactionId := Table.key_of_get? ht
    have hsame : r' = r := unique_key s.db.ledger r' hr' r hr hkey
    subst hsame
    exact ⟨_, Table.mem_of_get? ht, rfl, rfl, rfl, rfl⟩

theorem users_complete_iff : (∀ u ∈ s.activeUsers, ∃ a ∈ db.accounts.rows, a.id = toString u.id ∧
      a.username = u.username ∧ a.email = some u.email ∧ a.fullName = u.fullName ∧ a.role = u.role) ↔
    s.activeUsers.length ≤ 100 := by
  have hrows : db.accounts.rows = ((s.activeUsers.take 100).map restoredUser).map x.call.account :=
    hrows.accounts
  have hnodup : s.activeUsers.Nodup := s.users.nodup.of_map.filter _
  rw [← mem_take_iff hnodup]
  refine forall₂_congr fun u hu => ⟨?_, fun hmem => ?_⟩
  · rintro ⟨a, ha, hid, -⟩
    rw [hrows, List.map_map] at ha
    obtain ⟨w, hw, rfl⟩ := List.mem_map.1 ha
    have hmem : w ∈ s.users.rows := List.mem_of_mem_filter (List.mem_of_mem_take hw)
    have hsame : w = u := unique_key s.users w hmem u (List.mem_of_mem_filter hu)
      (toString_injective hid)
    rwa [← hsame]
  · refine ⟨x.call.account (restoredUser u), ?_, rfl, rfl, rfl, rfl, rfl⟩
    rw [hrows]
    exact List.mem_map_of_mem (List.mem_map_of_mem hmem)

end

end

/-! ## A product too many -/

namespace Sample

def lamp : Server.Product := ⟨"lamp", "L", "Lamp", "Light", "pcs", true⟩

/-- Alice restores, and every request is answered on the same day. -/
def answeredRestore : RestoreSession := { aliceRestores with
  important := some ⟨0, some 0⟩
  background := some ⟨0, some 0⟩ }

/-- A server with one user, and `n` products. -/
def crowded (n : Nat) : RestoreSource := { staffed [alice] with
  db := { Server.Db.empty with
    products := Table.putAll ∅ ((List.range n).map fun i => { lamp with
      id := toString i
      sku := toString i }) } }

/-- One row in each table. -/
def oneOfEach : RestoreSource := { staffed [alice] with
  db := { Server.Db.empty with
    stores := (∅ : Table Server.Store).put ⟨"shop", "S", "Shop", true⟩
    products := (∅ : Table Server.Product).put lamp
    balances := (∅ : Table Server.StockBalance).put
      ⟨"b", ⟨"shop", "lamp", "AVAILABLE"⟩, 5, ⟨0, some 0⟩⟩
    ledger := (∅ : Table Server.InventoryTransaction).put
      ⟨"t", "shop", "lamp", "RECEIVE", "AVAILABLE", 5, ⟨0, some 0⟩, ⟨0, some 0⟩, 1, "d", none, none,
        none, none, none, none, .accepted, none, none⟩ } }

theorem oneOfEach_constrained : SourceConstrained oneOfEach where
  tables := by
    refine ⟨⟨?_, ?_, ?_, ?_⟩, ?_⟩
    · exact List.forall_mem_singleton.2 rfl
    · exact List.forall_mem_singleton.2 rfl
    all_goals
      intro a ha b hb _
      rw [List.mem_singleton.1 ha, List.mem_singleton.1 hb]
  usernames a ha b hb _ := by rw [List.mem_singleton.1 ha, List.mem_singleton.1 hb]
  ledgerStores := List.forall_mem_singleton.2 rfl
  ledgerProducts := List.forall_mem_singleton.2 rfl

end Sample

end Sync
