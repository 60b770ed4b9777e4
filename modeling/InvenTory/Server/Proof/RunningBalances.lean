import InvenTory.Lib.Running
import InvenTory.Server.Proof.Entries
import InvenTory.Server.Proof.Openings

/-!
# The running balances of a day book

As long as ids come once and times are in UTC, each ledger row has its entry in the one book of its
store and day (`Shelved`). The running balance of an entry is then the AVAILABLE stock up to its time
(`running_balance_iff`), but for the receipts and sales of other buckets, which are shown and counted
like the others (`running_balance_strays`).
-/

namespace Server

open Relational Sql Sql.Prog

variable {F : Exn → Prop} {py : Python} {env : Env} {p : TransactionPayload} {db db' : Db}

/-! ## Entries and rows -/

instance : Keyed DayBookEntry String := ⟨DayBookEntry.transactionId⟩

theorem Mirrored.nodup (h : Mirrored db) (hb : Backed db) :
    (db.entries.map (key : DayBookEntry → String)).Nodup := by
  refine List.nodup_iff_count_le_one.2 fun id => ?_
  rw [List.count_eq_countP, List.countP_map, List.countP_eq_length_filter]
  cases hr : db.ledger.get? id with
  | none =>
    have hnone : db.entries.filter ((· == id) ∘ key) = [] := by
      refine List.filter_eq_nil_iff.2 fun e he heq => ?_
      have hid : e.transactionId = id := beq_iff_eq.1 heq
      have hsome := hb.entries e he
      rw [hid, hr] at hsome
      cases hsome
    rw [hnone]
    exact Nat.zero_le _
  | some r =>
    obtain ⟨e, he, -⟩ := h r (Table.mem_of_get? hr)
    have hid : r.transactionId = id := Table.key_of_get? hr
    have hone : db.entries.filter ((· == id) ∘ key) = [e] := by
      rw [← he, hid]
      exact List.filter_congr fun x _ => beq_eq_decide ..
    rw [hone]
    exact le_refl _

/-- **Sums over the entries** are sums over the ledger. -/
theorem Mirrored.sum (h : Mirrored db) (hb : Backed db) {φ : DayBookEntry → Int}
    {ψ : InventoryTransaction → Int} (heq : ∀ e ∈ db.entries, ∀ r,
      db.ledger.get? e.transactionId = some r → e.Shows r → φ e = ψ r) :
    (db.entries.map φ).sum = db.ledger.total ψ := by
  let t : Table DayBookEntry := ⟨db.entries, h.nodup hb⟩
  refine Table.total_congr (t := t) fun id => ?_
  cases hr : db.ledger.get? id with
  | none =>
    rw [Table.share_none hr]
    refine Table.share_none (Table.get?_eq_none.2 fun hm => ?_)
    obtain ⟨e, he, hid⟩ := List.mem_map.1 hm
    have hsome := hb.entries e he
    rw [show e.transactionId = id from hid, hr] at hsome
    cases hsome
  | some r =>
    obtain ⟨e, he, hshows⟩ := h r (Table.mem_of_get? hr)
    have hrid : r.transactionId = id := Table.key_of_get? hr
    obtain ⟨hmem, heid⟩ := List.mem_filter.1 (he ▸ List.mem_singleton_self e)
    have hid : e.transactionId = id := (of_decide_eq_true heid).trans hrid
    have hget : t.get? id = some e := hid ▸ Table.get?_of_mem (t := t) hmem
    rw [Table.share_some hr, Table.share_some hget]
    exact heq e hmem r (hid.symm ▸ hr) hshows

/-- The entry with a row's id shows the row. -/
theorem Mirrored.shows (h : Mirrored db) {e : DayBookEntry} (he : e ∈ db.entries)
    {r : InventoryTransaction} (hr : db.ledger.get? e.transactionId = some r) : e.Shows r := by
  obtain ⟨x, hx, hshows⟩ := h r (Table.mem_of_get? hr)
  have hid : r.transactionId = e.transactionId := Table.key_of_get? hr
  have hmem : e ∈ db.entries.filter (·.transactionId = r.transactionId) :=
    List.mem_filter.2 ⟨he, decide_eq_true hid.symm⟩
  rw [hx] at hmem
  rwa [List.mem_singleton.1 hmem]

/-! ## Books and days -/

/-- The books: their keys, their stores and when they begin. -/
def Db.shelf (db : Db) : List (String × String × Int) :=
  db.dayBooks.map fun b => (b.id, b.storeId, b.bookDate.instant)

/-- The books begin at midnights, a store has one of each day, and each entry is in the book of its
row's store and day. -/
structure Shelved (db : Db) : Prop where
  midnight : ∀ x ∈ db.shelf, DateTime.day ∣ x.2.2
  ids : (db.shelf.map (·.1)).Nodup
  days : (db.shelf.map (·.2)).Nodup
  place : ∀ e ∈ db.entries, ∀ r, db.ledger.get? e.transactionId = some r →
    ∃ t, (e.dayBookId, r.storeId, t) ∈ db.shelf ∧ t ≤ r.occurredAt.instant ∧
      r.occurredAt.instant < t + DateTime.day

/-- The midnight of a time in UTC. -/
theorem startOfDay_utc {d : DateTime} (h : d.offset = some 0) : DateTime.day ∣ d.startOfDay.instant ∧
    d.startOfDay.instant ≤ d.instant ∧ d.instant < d.startOfDay.instant + DateTime.day := by
  unfold DateTime.startOfDay DateTime.instant DateTime.day
  rw [h]
  simp only [Option.getD_some]
  omega

/-- The book of a time in UTC is that of its day, and the only one. -/
theorem Shelved.bookFor (h : Shelved db) {storeId : String} {d : DateTime} {b : DayBook}
    {books : List DayBook} (hutc : d.offset = some 0)
    (hfresh : ∀ b ∈ db.dayBooks, b.id ≠ env.dayBookId) (hbook : BookFor env db storeId d b books) :
    let shelf := books.map fun b => (b.id, b.storeId, b.bookDate.instant)
    (b.id, storeId, d.startOfDay.instant) ∈ shelf ∧ (∀ x ∈ db.shelf, x ∈ shelf) ∧
      (∀ x ∈ shelf, DateTime.day ∣ x.2.2) ∧ (shelf.map (·.1)).Nodup ∧ (shelf.map (·.2)).Nodup := by
  intro shelf
  obtain ⟨hmid, -, -⟩ := startOfDay_utc hutc
  cases hbook with
  | found hb =>
    have hpred := List.find?_some hb
    simp only [decide_eq_true_eq] at hpred
    obtain ⟨hstore, hge, hlt⟩ := hpred
    have hmem := List.mem_of_find?_eq_some hb
    have hbmid : DateTime.day ∣ b.bookDate.instant :=
      h.midnight _ (List.mem_map.2 ⟨b, hmem, rfl⟩)
    have hstart : b.bookDate.instant = d.startOfDay.instant := by
      unfold DateTime.day at hmid hbmid hlt
      omega
    refine ⟨List.mem_map.2 ⟨b, hmem, ?_⟩, fun _ hx => hx, h.midnight, h.ids, h.days⟩
    rw [hstore, hstart]
  | created hb =>
    have hshelf : shelf = db.shelf ++ [(env.dayBookId, storeId, d.startOfDay.instant)] :=
      List.map_append
    have hnone := List.find?_eq_none.1 hb
    rw [hshelf, List.map_append, List.map_append, List.nodup_append, List.nodup_append]
    refine ⟨List.mem_append_right _ (List.mem_singleton_self _),
      fun x hx => List.mem_append_left _ hx, fun x hx => ?_,
      ⟨h.ids, List.nodup_singleton _, ?_⟩, ⟨h.days, List.nodup_singleton _, ?_⟩⟩
    · rcases List.mem_append.1 hx with hx | hx
      · exact h.midnight x hx
      · rw [List.mem_singleton.1 hx]
        exact hmid
    · intro a ha x hx
      obtain ⟨y, hy, rfl⟩ := List.mem_map.1 ha
      obtain ⟨c, hc, rfl⟩ := List.mem_map.1 hy
      rw [List.mem_singleton.1 hx]
      exact hfresh c hc
    · intro a ha x hx he
      obtain ⟨y, hy, rfl⟩ := List.mem_map.1 ha
      obtain ⟨c, hc, rfl⟩ := List.mem_map.1 hy
      rw [List.mem_singleton.1 hx] at he
      obtain ⟨hstore, hstart⟩ := Prod.mk.inj he
      have hday : (0 : Int) < DateTime.day := by decide
      exact hnone c hc (decide_eq_true ⟨hstore, by omega, by omega⟩)

theorem Booked.shelved (h : Booked py env p db db') (hb : Backed db) (hs : Shelved db)
    (hutc : p.occurredAt.offset = some 0) (hfresh : ∀ b ∈ db.dayBooks, b.id ≠ env.dayBookId)
    (hsame : ∀ row, db.ledger.get? p.transactionId = some row → row.quantityDelta = p.quantityDelta) :
    Shelved db' := by
  cases h with
  | unchanged h =>
    have hshelf : db'.shelf = db.shelf := by
      unfold Db.shelf
      rw [h.dayBooks]
    refine ⟨hshelf ▸ hs.midnight, hshelf ▸ hs.ids, hshelf ▸ hs.days, ?_⟩
    rw [h.entries, h.ledger, hshelf]
    exact hs.place
  | edited hrow hne => exact absurd (hsame _ hrow) hne
  | @inserted b books hnew _ _ hledger hbook hbooks hentries =>
    obtain ⟨hmem, hold, hmid, hids, hdays⟩ := hs.bookFor hutc hfresh hbook
    have hshelf : db'.shelf = books.map fun b => (b.id, b.storeId, b.bookDate.instant) := by
      unfold Db.shelf
      rw [hbooks, List.map_map]
      refine List.map_congr_left fun x _ => ?_
      show (let y := if x.id = b.id then _ else x; (y.id, y.storeId, y.bookDate.instant)) = _
      split
      · rfl
      · rfl
    refine ⟨hshelf ▸ hmid, hshelf ▸ hids, hshelf ▸ hdays, fun e he r hr => ?_⟩
    rw [hentries] at he
    rw [hledger, Table.get?_put] at hr
    rw [hshelf]
    rcases List.mem_append.1 he with he | he
    · have hne : key (p.ledgerRow env) ≠ e.transactionId := fun hid => by
        have hsome := hb.entries e he
        rw [← hid, show db.ledger.get? (key (p.ledgerRow env)) = none from hnew] at hsome
        cases hsome
      rw [if_neg hne] at hr
      obtain ⟨t, ht, hday⟩ := hs.place e he r hr
      exact ⟨t, hold _ ht, hday⟩
    · rw [List.mem_singleton.1 he] at hr ⊢
      have hself : key (p.ledgerRow env) = ((p.ledgerRow env).entry env b.id).transactionId := rfl
      rw [if_pos hself] at hr
      cases hr
      exact ⟨_, hmem, (startOfDay_utc hutc).2⟩

/-- The id is new or comes again with the same quantity, and the time is in UTC. -/
structure NewInUtc (db : Db) (s : Submission) : Prop extends InUtc db s where
  same : SameQuantity db s

theorem SameQuantity.of_new {s : Submission}
    (h : db.ledger.get? s.payload.transactionId = none) : SameQuantity db s := by
  intro row hrow
  rw [h] at hrow
  cases hrow

/-- What holds of the entries when ids come once. -/
structure Entered (db : Db) : Prop where
  mirrored : Mirrored db
  shelved : Shelved db
  accepted : ∀ r ∈ db.ledger.rows, r.syncStatus = .accepted

theorem Booked.entered {s : Submission} (h : Booked py s.env s.payload db db') (hb : Backed db)
    (he : Entered db) (hG : NewInUtc db s) : Entered db' where
  mirrored := h.keeps_mirrored hb he.mirrored hG.same
  shelved := h.shelved hb he.shelved hG.utc hG.fresh hG.same
  accepted := by
    cases h with
    | unchanged h =>
      rw [h.ledger]
      exact he.accepted
    | edited hrow hne => exact absurd (hG.same _ hrow) hne
    | inserted _ _ _ hledger =>
      intro r hr
      rw [hledger] at hr
      rcases Table.mem_put.1 hr with rfl | ⟨hr, -⟩
      · rfl
      · exact he.accepted r hr

theorem entered {batch : Option (IngestPrefetch × List Item)}
    (h : Bookkeeping F py NewInUtc db batch) : Backed db ∧ Entered db := by
  refine h.invariant (fun db hdb => ?_) (fun _ _ _ hb he hG hbooked =>
    hbooked.entered hb he hG) fun db id he => ?_
  · refine ⟨fun r hr => ?_, ⟨?_, ?_, ?_, fun e he => ?_⟩, fun r hr => ?_⟩
    · rw [hdb.ledger] at hr
      cases hr
    · rw [Db.shelf, hdb.dayBooks]
      exact List.forall_mem_nil _
    · rw [Db.shelf, hdb.dayBooks]
      exact List.nodup_nil
    · rw [Db.shelf, hdb.dayBooks]
      exact List.nodup_nil
    · rw [hdb.entries] at he
      cases he
    · rw [hdb.ledger] at hr
      cases hr
  · have hshelf : (db.setBalanceSheetGenerated id).shelf = db.shelf := by
      unfold Db.shelf Db.setBalanceSheetGenerated
      rw [List.map_map]
      refine List.map_congr_left fun x _ => ?_
      show (let y := if x.id = id then _ else x; (y.id, y.storeId, y.bookDate.instant)) = _
      split
      · rfl
      · rfl
    refine ⟨he.mirrored, ⟨hshelf ▸ he.shelved.midnight, hshelf ▸ he.shelved.ids,
      hshelf ▸ he.shelved.days, ?_⟩, he.accepted⟩
    rw [hshelf]
    exact he.shelved.place

/-- The entries of a book are those of its store's rows of the day. -/
theorem Shelved.mem_book (h : Shelved db) {b : DayBook} (hb : b ∈ db.dayBooks) {e : DayBookEntry}
    (he : e ∈ db.entries) {r : InventoryTransaction}
    (hr : db.ledger.get? e.transactionId = some r) : e.dayBookId = b.id ↔
      r.storeId = b.storeId ∧ b.bookDate.instant ≤ r.occurredAt.instant ∧
        r.occurredAt.instant < b.bookDate.instant + DateTime.day := by
  obtain ⟨t, ht, hge, hlt⟩ := h.place e he r hr
  have hbm : (b.id, b.storeId, b.bookDate.instant) ∈ db.shelf := List.mem_map.2 ⟨b, hb, rfl⟩
  constructor
  · intro hid
    have heq := List.inj_on_of_nodup_map h.ids ht hbm hid
    obtain ⟨hstore, rfl⟩ := Prod.mk.inj (Prod.mk.inj heq).2
    exact ⟨hstore, hge, hlt⟩
  · rintro ⟨hstore, hge', hlt'⟩
    have ht' := h.midnight _ ht
    have hb' := h.midnight _ hbm
    have hstart : t = b.bookDate.instant := by
      unfold DateTime.day at *
      dsimp only at ht' hb'
      omega
    have heq := List.inj_on_of_nodup_map h.days ht hbm (Prod.ext hstore hstart)
    exact (Prod.mk.inj heq).1

/-! ## The sums -/

def DayBookEntry.move (e : DayBookEntry) : Running.Move String Int :=
  ⟨e.productId, e.occurredAt.instant, e.quantityDelta⟩

def InventoryTransaction.move (r : InventoryTransaction) : Running.Move String Int :=
  ⟨r.productId, r.occurredAt.instant, r.quantityDelta⟩

/-- The loop keeps running totals. -/
theorem entriesData_eq (running : String → Int) (hidden : List InventoryTransaction)
    (entries : List (DayBookEntry × String)) : entriesData running hidden entries =
      (Running.totals (fun x => x.1.move) InventoryTransaction.move running hidden entries).map
        fun x => x.1.1.line x.1.2 x.2 := by
  induction entries generalizing running hidden with
  | nil => rfl
  | cons x entries ih =>
    unfold entriesData Running.totals
    dsimp only
    rw [ih, List.map_cons]
    congr 1
    unfold Running.book
    rw [Function.update_self]
    rfl

/-- The sum of a product's AVAILABLE deltas in a store up to the time `t`, REJECTED rows left out. -/
def Db.availableUpTo (db : Db) (storeId productId : String) (t : Int) : Int :=
  db.ledger.total fun r =>
    if r.storeId = storeId ∧ r.productId = productId ∧ r.stockBucket = "AVAILABLE" ∧
      r.occurredAt.instant ≤ t ∧ r.syncStatus ≠ .rejected then r.quantityDelta
    else 0

/-- The sum of its receipts and sales of other buckets, from `start` up to `t`. -/
def Db.straysUpTo (db : Db) (storeId productId : String) (start t : Int) : Int :=
  db.ledger.total fun r =>
    if r.storeId = storeId ∧ r.productId = productId ∧ r.stockBucket ≠ "AVAILABLE" ∧
      r.movementType ∈ dayBookVisibleTypes ∧ start ≤ r.occurredAt.instant ∧
      r.occurredAt.instant ≤ t then r.quantityDelta
    else 0

/-- No two rows of a product in a store have the same time. -/
def Db.DistinctTimes (db : Db) : Prop :=
  ∀ r ∈ db.ledger.rows, ∀ r' ∈ db.ledger.rows, r.storeId = r'.storeId → r.productId = r'.productId →
    r.occurredAt.instant = r'.occurredAt.instant → r = r'

theorem mem_visibleEntries {id name : String} {e : DayBookEntry} :
    (e, name) ∈ db.visibleEntries id ↔ (e ∈ db.entries ∧ e.dayBookId = id ∧
      e.movementType ∈ dayBookVisibleTypes) ∧ (db.products.get? e.productId).map Product.name =
        some name := by
  unfold Db.visibleEntries
  simp only [List.mem_insertionSort, List.mem_filterMap, List.mem_filter, decide_eq_true_eq]
  constructor
  · rintro ⟨x, hx, hp⟩
    obtain ⟨q, hq, he⟩ := Option.map_eq_some_iff.1 hp
    cases he
    exact ⟨hx, by rw [hq]; rfl⟩
  · rintro ⟨hx, hp⟩
    obtain ⟨q, hq, rfl⟩ := Option.map_eq_some_iff.1 hp
    exact ⟨e, hx, by rw [hq]; rfl⟩

section
variable {b : DayBook} {productId : String} {m : Running.Move String Int}

/-- What is shown of a product. -/
theorem sumIf_visible (he : Entered db) (hbk : Backed db) (hb : b ∈ db.dayBooks)
    (hproduct : (db.products.get? m.key).isSome)
    (htime : m.time < b.bookDate.instant + DateTime.day) :
    Running.sumIf (·.UpTo m) ((db.visibleEntries b.id).map fun x => x.1.move) =
      db.ledger.total fun r => if r.storeId = b.storeId ∧ r.productId = m.key ∧
        r.movementType ∈ dayBookVisibleTypes ∧ b.bookDate.instant ≤ r.occurredAt.instant ∧
        r.occurredAt.instant ≤ m.time then r.quantityDelta else 0 := by
  have hentries : Running.sumIf (·.UpTo m) ((db.visibleEntries b.id).map fun x => x.1.move) =
      (db.entries.map fun e => if e.dayBookId = b.id ∧ e.movementType ∈ dayBookVisibleTypes ∧
        e.move.UpTo m then e.quantityDelta else 0).sum := by
    unfold Db.visibleEntries
    rw [Running.sumIf_sorted, Running.sum_filterMap, Running.sum_filter]
    refine congrArg List.sum (List.map_congr_left fun e _ => ?_)
    by_cases hc : e.dayBookId = b.id ∧ e.movementType ∈ dayBookVisibleTypes
    · rw [if_pos (decide_eq_true hc)]
      by_cases hup : e.move.UpTo m
      · obtain ⟨q, hq⟩ := Option.isSome_iff_exists.1 hproduct
        have hkey : e.productId = m.key := hup.1
        rw [if_pos ⟨hc.1, hc.2, hup⟩, hkey, hq]
        exact if_pos hup
      · rw [if_neg fun h => hup h.2.2]
        cases db.products.get? e.productId with
        | none => rfl
        | some q => exact if_neg hup
    · rw [if_neg fun h => hc (of_decide_eq_true h), if_neg fun h => hc ⟨h.1, h.2.1⟩]
  rw [hentries]
  refine he.mirrored.sum hbk fun e hmem r hr hshows => ?_
  have hbook := he.shelved.mem_book hb hmem hr
  refine if_congr ?_ hshows.quantityDelta rfl
  rw [hbook, hshows.movementType]
  unfold DayBookEntry.move Running.Move.UpTo
  dsimp only
  rw [hshows.productId, hshows.occurredAt]
  constructor
  · rintro ⟨⟨h1, h2, -⟩, h3, h4, h5⟩
    exact ⟨h1, h4, h3, h2, h5⟩
  · rintro ⟨h1, h2, h3, h4, h5⟩
    exact ⟨⟨h1, h4, by omega⟩, h3, h2, h5⟩

/-- What is hidden of it. -/
theorem sumIf_hidden {ids : List String} (hid : m.key ∈ ids)
    (htime : m.time < b.bookDate.instant + DateTime.day) :
    Running.sumIf (·.Before m) ((db.sameDayHidden b ids).map InventoryTransaction.move) =
      db.ledger.total fun r => if r.storeId = b.storeId ∧ r.productId = m.key ∧
        r.stockBucket = "AVAILABLE" ∧ r.movementType ∉ dayBookVisibleTypes ∧
        b.bookDate.instant ≤ r.occurredAt.instant ∧ r.occurredAt.instant < m.time ∧
        r.syncStatus ≠ .rejected then r.quantityDelta else 0 := by
  unfold Db.sameDayHidden Table.total
  rw [Running.sumIf_sorted, Running.sum_filter]
  refine congrArg List.sum (List.map_congr_left fun r _ => ?_)
  by_cases hbefore : r.move.Before m
  · rw [if_pos hbefore]
    refine if_congr ?_ rfl rfl
    obtain ⟨hkey, hlt⟩ := hbefore
    unfold InventoryTransaction.move at hkey hlt
    dsimp only at hkey hlt
    rw [decide_eq_true_eq]
    constructor
    · rintro ⟨h1, -, h3, h4, -, h6, h7⟩
      exact ⟨h1, hkey, h3, h6, h4, hlt, h7⟩
    · rintro ⟨h1, -, h3, h4, h5, -, h7⟩
      exact ⟨h1, hkey ▸ hid, h3, h5, by omega, h4, h7⟩
  · rw [if_neg hbefore, ite_self, if_neg]
    rintro ⟨-, h2, -, -, -, h6, -⟩
    exact hbefore ⟨h2, h6⟩

/-- What came before the day. -/
theorem priorSums_eq {ids : List String} (hid : productId ∈ ids) : db.priorSums b ids productId =
    db.ledger.total fun r => if r.storeId = b.storeId ∧ r.productId = productId ∧
      r.stockBucket = "AVAILABLE" ∧ r.occurredAt.instant < b.bookDate.instant ∧
      r.syncStatus ≠ .rejected then r.quantityDelta else 0 := if_pos hid

end

theorem total_add (f g : InventoryTransaction → Int) (t : Table InventoryTransaction) :
    t.total f + t.total g = t.total fun r => f r + g r := List.sum_map_add.symm

/-- Before the day, hidden before the entry, and shown up to it: the AVAILABLE rows up to the entry and
the strays among those that are shown. -/
theorem sums_eq (he : Entered db) (hdistinct : db.DistinctTimes) {r : InventoryTransaction}
    (hr : r ∈ db.ledger.rows) (hshown : r.movementType ∈ dayBookVisibleTypes) {start : Int}
    (hstart : start ≤ r.occurredAt.instant) :
    (db.ledger.total fun x => if x.storeId = r.storeId ∧ x.productId = r.productId ∧
        x.stockBucket = "AVAILABLE" ∧ x.occurredAt.instant < start ∧ x.syncStatus ≠ .rejected then
        x.quantityDelta else 0) +
      (db.ledger.total fun x => if x.storeId = r.storeId ∧ x.productId = r.productId ∧
        x.stockBucket = "AVAILABLE" ∧ x.movementType ∉ dayBookVisibleTypes ∧
        start ≤ x.occurredAt.instant ∧ x.occurredAt.instant < r.occurredAt.instant ∧
        x.syncStatus ≠ .rejected then x.quantityDelta else 0) +
      (db.ledger.total fun x => if x.storeId = r.storeId ∧ x.productId = r.productId ∧
        x.movementType ∈ dayBookVisibleTypes ∧ start ≤ x.occurredAt.instant ∧
        x.occurredAt.instant ≤ r.occurredAt.instant then x.quantityDelta else 0) =
    db.availableUpTo r.storeId r.productId r.occurredAt.instant +
      db.straysUpTo r.storeId r.productId start r.occurredAt.instant := by
  unfold Db.availableUpTo Db.straysUpTo
  rw [total_add, total_add, total_add]
  refine congrArg List.sum (List.map_congr_left fun x hx => ?_)
  by_cases hof : x.storeId = r.storeId ∧ x.productId = r.productId
  · obtain ⟨hs, hp⟩ := hof
    have hacc : x.syncStatus ≠ .rejected := by
      rw [he.accepted x hx]
      decide
    -- a hidden row does not have the time of the entry
    have hsame : x.occurredAt.instant = r.occurredAt.instant →
        x.movementType ∈ dayBookVisibleTypes := fun ht => hdistinct x hx r hr hs hp ht ▸ hshown
    simp only [hs, hp, hacc, true_and, ne_eq, not_false_eq_true, and_true]
    by_cases hv : x.movementType ∈ dayBookVisibleTypes <;>
      by_cases hb : x.stockBucket = "AVAILABLE" <;>
        simp only [hv, hb, true_and, false_and, not_true_eq_false, not_false_eq_true, if_false,
          add_zero, zero_add]
    · split <;> split <;> split <;> omega
    · have hne : x.occurredAt.instant ≠ r.occurredAt.instant := fun ht => hv (hsame ht)
      split <;> split <;> split <;> omega
  · have hno : ∀ {q : Prop}, ¬ (x.storeId = r.storeId ∧ x.productId = r.productId ∧ q) :=
      fun hq => hof ⟨hq.1, hq.2.1⟩
    simp only [if_neg hno, add_zero]

/-! ## The view -/

/-- The entries of a product are shown in the order of their times. -/
theorem visibleEntries_sorted (he : Entered db) (hbk : Backed db) (hdistinct : db.DistinctTimes)
    {b : DayBook} (hb : b ∈ db.dayBooks) : (db.visibleEntries b.id).Pairwise fun x y =>
      x.1.move.key = y.1.move.key → x.1.move.time < y.1.move.time := by
  let le : DayBookEntry × String → DayBookEntry × String → Prop := fun x y =>
    x.1.occurredAt.instant ≤ y.1.occurredAt.instant
  have : IsTrans _ le := ⟨fun _ _ _ => Int.le_trans⟩
  have : Std.Total le := ⟨fun x y => Int.le_total _ _⟩
  have hsorted : (db.visibleEntries b.id).Pairwise le := List.pairwise_insertionSort le _
  have hnodup : (db.visibleEntries b.id).Pairwise fun x y =>
      x.1.transactionId ≠ y.1.transactionId := by
    have hshown : ((db.entries.filter fun e => e.dayBookId = b.id ∧
        e.movementType ∈ dayBookVisibleTypes).map DayBookEntry.transactionId).Nodup :=
      (he.mirrored.nodup hbk).sublist (List.filter_sublist.map _)
    refine ((List.perm_insertionSort le _).pairwise_iff fun h => Ne.symm h).2 ?_
    refine List.pairwise_filterMap.2 ((List.pairwise_map.1 hshown).imp fun hne x hx y hy => ?_)
    obtain ⟨_, -, rfl⟩ := Option.map_eq_some_iff.1 hx
    obtain ⟨_, -, rfl⟩ := Option.map_eq_some_iff.1 hy
    exact hne
  refine (hsorted.and hnodup).imp_of_mem fun {x y} hx hy hxy hkey => ?_
  refine lt_of_le_of_ne hxy.1 fun htime => hxy.2 ?_
  -- two entries of one time would be of the same row
  obtain ⟨⟨hxm, hxb, -⟩, -⟩ := mem_visibleEntries.1 hx
  obtain ⟨⟨hym, hyb, -⟩, -⟩ := mem_visibleEntries.1 hy
  obtain ⟨r, hr⟩ := Option.isSome_iff_exists.1 (hbk.entries _ hxm)
  obtain ⟨r', hr'⟩ := Option.isSome_iff_exists.1 (hbk.entries _ hym)
  have hshows := he.mirrored.shows hxm hr
  have hshows' := he.mirrored.shows hym hr'
  have heq : r = r' := by
    refine hdistinct r (Table.mem_of_get? hr) r' (Table.mem_of_get? hr') ?_ ?_ ?_
    · rw [((he.shelved.mem_book hb hxm hr).1 hxb).1, ((he.shelved.mem_book hb hym hr').1 hyb).1]
    · rw [← hshows.productId, ← hshows'.productId]
      exact hkey
    · rw [← hshows.occurredAt, ← hshows'.occurredAt]
      exact htime
  have hid : r.transactionId = x.1.transactionId := Table.key_of_get? hr
  have hid' : r'.transactionId = y.1.transactionId := Table.key_of_get? hr'
  rw [← hid, heq, hid']

theorem getDayBookWithEntries_ok {id : String} {view : DayBookView} {c c' : Conn Db}
    (h : (getDayBookWithEntries id).Yields F c (.ok (some view)) c') :
    ∃ b ∈ c.work.dayBooks, b.id = id ∧ view.storeId = b.storeId ∧ view.bookDate = b.bookDate ∧
      let ids := ((c.work.visibleEntries id).map (·.1.productId)).dedup
      view.entries = entriesData (c.work.priorSums b ids) (c.work.sameDayHidden b ids)
        (c.work.visibleEntries id) := by
  have h1 := yields_select_bind h
  split at h1
  · cases (yields_pure h1).1
  rename_i b hb
  have hid := List.find?_some hb
  simp only [decide_eq_true_eq] at hid
  refine ⟨b, List.mem_of_find?_eq_some hb, hid, ?_⟩
  have h2 := yields_select_bind h1
  obtain ⟨prior, c1, h3, h4⟩ := yields_bind_ok h2
  obtain ⟨hidden, c2, h5, h6⟩ := yields_bind_ok h4
  obtain ⟨hv, -⟩ := yields_pure h6
  cases hv
  refine ⟨rfl, rfl, ?_⟩
  unfold selectPriorSums at h3
  unfold selectSameDayHidden at h5
  split at h3
  · -- nothing is shown
    rename_i hnone
    have hempty : c.work.visibleEntries id = [] := List.map_eq_nil_iff.1 ((List.dedup_eq_nil _).1 hnone)
    dsimp only
    rw [hempty]
    rfl
  · rename_i hsome
    rw [if_neg hsome] at h5
    obtain ⟨rfl, hc⟩ := yields_select_ok h3
    obtain ⟨rfl, -⟩ := yields_select_ok h5
    dsimp only
    rw [hc]

/-- **The running balance of an entry** is the AVAILABLE stock up to its time and the strays of the day. -/
theorem running_balance_strays (he : Entered db) (hbk : Backed db) (hdistinct : db.DistinctTimes)
    {id : String} {view : DayBookView} {db' : Db}
    (hv : (session (getDayBookWithEntries id)).Yields F db (.ok (some view)) db') {line : DayBookLine}
    (hline : line ∈ view.entries) : line.runningBalance =
      db.availableUpTo view.storeId line.productId line.occurredAt.instant +
        db.straysUpTo view.storeId line.productId view.bookDate.instant line.occurredAt.instant := by
  rcases yields_session hv with ⟨e, h, -⟩ | ⟨v, cn, h, hok, -⟩
  · cases h
  cases h
  obtain ⟨b, hb, rfl, hstore, hdate, hentries⟩ := getDayBookWithEntries_ok hok
  dsimp only at hb hentries
  rw [hentries, entriesData_eq] at hline
  obtain ⟨⟨⟨e, name⟩, t⟩, ht, rfl⟩ := List.mem_map.1 hline
  have hsorted := visibleEntries_sorted he hbk hdistinct hb
  have htotal := Running.totals_upTo hsorted ht
  obtain ⟨pre, post, hsplit, -⟩ := Running.mem_totals
    (hsorted.imp fun h hk => Int.le_of_lt (h hk)) ht
  have hmem : (e, name) ∈ db.visibleEntries b.id :=
    hsplit ▸ List.mem_append_right _ List.mem_cons_self
  obtain ⟨⟨hmem', hbook, hshown⟩, hproduct⟩ := mem_visibleEntries.1 hmem
  obtain ⟨r, hr⟩ := Option.isSome_iff_exists.1 (hbk.entries e hmem')
  have hshows := he.mirrored.shows hmem' hr
  obtain ⟨hrs, hge, hlt⟩ := (he.shelved.mem_book hb hmem' hr).1 hbook
  have hid : e.productId ∈ ((db.visibleEntries b.id).map (·.1.productId)).dedup :=
    List.mem_dedup.2 (List.mem_map.2 ⟨_, hmem, rfl⟩)
  have hsome : (db.products.get? e.productId).isSome := by
    obtain ⟨q, hq, -⟩ := Option.map_eq_some_iff.1 hproduct
    rw [hq]
    rfl
  have htime : e.move.time < b.bookDate.instant + DateTime.day := by
    show e.occurredAt.instant < _
    rw [hshows.occurredAt]
    exact hlt
  -- the three sums that the loop adds up
  change t = db.priorSums b _ e.productId + Running.sumIf (·.Before e.move) _ +
    Running.sumIf (·.UpTo e.move) _ at htotal
  rw [priorSums_eq hid, sumIf_hidden (m := e.move) hid htime,
    sumIf_visible (m := e.move) he hbk hb hsome htime] at htotal
  have hsums := sums_eq he hdistinct (Table.mem_of_get? hr) (hshows.movementType ▸ hshown) hge
  rw [hrs, ← hshows.productId, ← hshows.occurredAt] at hsums
  show t = db.availableUpTo view.storeId e.productId e.occurredAt.instant + _
  rw [htotal, hstore, hdate]
  exact hsums

/-- **The running balances of a day book.** In every state of a run in which ids come once and times are in
UTC and distinct, the running balance of an entry is the AVAILABLE stock of its product up to its time
if and only if the receipts and sales of other buckets on that day up to then cancel out. -/
theorem running_balance_iff {batch : Option (IngestPrefetch × List Item)}
    (h : Bookkeeping F py NewInUtc db batch) (hdistinct : db.DistinctTimes) {id : String}
    {view : DayBookView} {db' : Db}
    (hv : (session (getDayBookWithEntries id)).Yields F db (.ok (some view)) db') :
    ∀ line ∈ view.entries, line.runningBalance =
        db.availableUpTo view.storeId line.productId line.occurredAt.instant ↔
      db.straysUpTo view.storeId line.productId view.bookDate.instant line.occurredAt.instant = 0 := by
  intro line hline
  obtain ⟨hbk, he⟩ := entered h
  have hsum := running_balance_strays he hbk hdistinct hv hline
  omega

/-! ## Runs -/

namespace Sample

/-- A receipt into another bucket than AVAILABLE. -/
def quarantined : Submission :=
  let s := movement "T-1" "RECEIPT" 10 1000
  { s with payload := { s.payload with stockBucket := "QUARANTINE" } }

/-- A receipt, a hidden adjustment and a sale of one day. -/
def dayOf : Db :=
  let sameDay (s : Submission) : Submission := { s with env := { Sample.env with dayBookId := "DB-2" } }
  (push python (push python (push python .empty [movement "T-1" "RECEIPT" 10 1000]).2
    [sameDay (movement "T-2" "ADJUSTMENT" (-2) 2000)]).2 [sameDay (movement "T-3" "SALE" (-3) 3000)]).2

/-- A state with the view of the book `DB-1`, and its running balances. -/
theorem view_of (db : Db) (balances : List Int)
    (h : ((session (getDayBookWithEntries "DB-1")).eval db).1.toOption.join.map
      (fun v => v.entries.map (·.runningBalance)) = some balances) :
    ∃ view db', (session (getDayBookWithEntries "DB-1")).Yields noFault db (.ok (some view)) db' ∧
      view.entries.map (·.runningBalance) = balances := by
  have hy := yields_eval noFault (session (getDayBookWithEntries "DB-1")) db
  generalize (session (getDayBookWithEntries "DB-1")).eval db = res at h hy
  obtain ⟨_ | _ | view, db'⟩ := res
  · cases h
  · cases h
  · exact ⟨view, db', hy, Option.some.inj h⟩

end Sample

/-- The sale closes with what the receipt and the adjustment have left. -/
theorem running_balance_day : ∃ view db',
    (session (getDayBookWithEntries "DB-1")).Yields noFault Sample.dayOf (.ok (some view)) db' ∧
      view.entries.map (·.runningBalance) = [10, 5] ∧
        ∀ line ∈ view.entries, line.runningBalance =
            Sample.dayOf.availableUpTo view.storeId line.productId line.occurredAt.instant ↔
          Sample.dayOf.straysUpTo view.storeId line.productId view.bookDate.instant
            line.occurredAt.instant = 0 := by
  have hrun : Bookkeeping noFault Sample.python NewInUtc Sample.dayOf none := by
    refine bookkeeping_batched.pushSingle (bookkeeping_batched.pushSingle
      (bookkeeping_batched.pushSingle (.start Sample.unbooked) ?_) ?_) ?_
    · exact ⟨⟨(fun b hb => by cases hb), rfl⟩, .of_new rfl⟩
    · exact ⟨⟨by decide +kernel, rfl⟩, .of_new (by decide +kernel)⟩
    · exact ⟨⟨by decide +kernel, rfl⟩, .of_new (by decide +kernel)⟩
  have hdistinct : Sample.dayOf.DistinctTimes := by
    unfold Db.DistinctTimes
    decide +kernel
  obtain ⟨view, db', hv, hbalances⟩ := Sample.view_of Sample.dayOf [10, 5] (by decide +kernel)
  exact ⟨view, db', hv, hbalances, running_balance_iff hrun hdistinct hv⟩

/-- **A receipt of another bucket** is counted like the AVAILABLE ones. -/
theorem quarantine_counted : ¬ ∀ db batch, Bookkeeping noFault Sample.python NewInUtc db batch →
    db.DistinctTimes → ∀ id view db',
      (session (getDayBookWithEntries id)).Yields noFault db (.ok (some view)) db' →
        ∀ line ∈ view.entries, line.runningBalance =
          db.availableUpTo view.storeId line.productId line.occurredAt.instant := by
  intro h
  have hrun : Bookkeeping noFault Sample.python NewInUtc
      (push Sample.python .empty [Sample.quarantined]).2 none :=
    bookkeeping_batched.pushSingle (.start Sample.unbooked)
      ⟨⟨(fun b hb => by cases hb), rfl⟩, .of_new rfl⟩
  have hdistinct : (push Sample.python .empty [Sample.quarantined]).2.DistinctTimes := by
    unfold Db.DistinctTimes
    decide +kernel
  obtain ⟨view, db', hv, hbalances⟩ := Sample.view_of
    (push Sample.python .empty [Sample.quarantined]).2 [10] (by decide +kernel)
  obtain ⟨line, hline, hten⟩ := List.mem_map.1 (hbalances ▸ List.mem_singleton_self (10 : Int))
  have hnone : ∀ storeId productId t, (push Sample.python .empty
      [Sample.quarantined]).2.availableUpTo storeId productId t = 0 := by
    intro storeId productId t
    have hrows : ∀ r ∈ (push Sample.python .empty [Sample.quarantined]).2.ledger.rows,
        r.stockBucket ≠ "AVAILABLE" := by decide +kernel
    refine List.sum_eq_zero fun x hx => ?_
    obtain ⟨r, hr, rfl⟩ := List.mem_map.1 hx
    exact if_neg fun hc => hrows r hr hc.2.2.1
  have hwrong := h _ _ hrun hdistinct _ view db' hv line hline
  rw [hnone, hten] at hwrong
  cases hwrong

end Server
