import InvenTory.Desktop.Proof.LocalBalances

/-!
# The balance sheets of the day books

A row closes with the balance that the product has now, and opens with that balance less what the book shows
of the product (`balanceSheetRow_eq`). So the row is that of the day exactly if nothing AVAILABLE has moved
since, and if the book shows what moved on the day (`balanceSheetRow_iff`).
-/

namespace Desktop.View

open Relational
open Sync (Js)

variable {js : Js} {storeId : String} {productMap : ProductMap} {m : Tally String Int}
  {txns transactions : List InventoryTransaction} {row : BalanceSheetRow}
  {currentBalances : Tally String Int} {entries : List DayBookEntryForSheet}

/-! ## Rows -/

/-- What the entries of a sheet add up to. -/
def sheetDelta (entries : List DayBookEntryForSheet) : Int := (entries.map fun e => e.quantityDelta).sum

theorem sumOf_cons (p : Int → Bool) (e : DayBookEntryForSheet) (entries : List DayBookEntryForSheet) :
    sumOf p (e :: entries) = (if p e.quantityDelta then e.quantityDelta else 0) + sumOf p entries := by
  unfold sumOf
  rw [List.filter_cons]
  split <;> simp

theorem sumOf_neg (entries : List DayBookEntryForSheet) : sumOf (· < 0) entries ≤ 0 := by
  induction entries with
  | nil => exact le_rfl
  | cons e entries ih =>
    rw [sumOf_cons]
    split
    · rename_i h
      have := of_decide_eq_true h
      omega
    · omega

theorem sumOf_add (entries : List DayBookEntryForSheet) :
    sumOf (· > 0) entries + sumOf (· < 0) entries = sheetDelta entries := by
  induction entries with
  | nil => rfl
  | cons e entries ih =>
    have hcons : sheetDelta (e :: entries) = e.quantityDelta + sheetDelta entries := rfl
    rw [sumOf_cons, sumOf_cons, hcons, ← ih]
    simp only [decide_eq_true_eq]
    split <;> split <;> omega

theorem in_sub_out (entries : List DayBookEntryForSheet) :
    cumulativeIn entries - cumulativeOut entries = sheetDelta entries := by
  have hneg := sumOf_neg entries
  have hadd := sumOf_add entries
  unfold cumulativeIn cumulativeOut
  omega

/-- **A row** closes with the current balance, and opens with what the entries leave of it. -/
theorem row_eq (h : row ∈ buildBalanceSheetData js entries currentBalances) :
    (∃ e ∈ entries, e.productId = row.productId) ∧
      row.openingBalance = row.closingBalance -
        sheetDelta (entries.filter fun e => e.productId = row.productId) ∧
      ∀ b, currentBalances.get? row.productId = some b → row.closingBalance = b.amount := by
  unfold buildBalanceSheetData at h
  rw [List.mem_insertionSort] at h
  obtain ⟨g, hg, hrow⟩ := List.mem_filterMap.1 h
  obtain ⟨e, he, rfl⟩ := Option.map_eq_some_iff.1 hrow
  have hmembers := Groups.members_of_mem hg
  have hsort := in_sub_out (g.members.insertionSort fun a b =>
    a.occurredAt.le js b.occurredAt = true)
  have hperm : sheetDelta (g.members.insertionSort fun a b => a.occurredAt.le js b.occurredAt = true) =
      sheetDelta g.members := ((List.perm_insertionSort _ _).map _).sum_eq
  have hin : e ∈ g.members := (List.mem_insertionSort _).1 (List.mem_of_mem_head? he)
  refine ⟨?_, ?_, fun b hb => ?_⟩
  · rw [hmembers, List.mem_filter, decide_eq_true_eq] at hin
    exact ⟨e, hin⟩
  · dsimp only
    rw [← hmembers, ← hperm, ← hsort]
    omega
  · dsimp only at hb ⊢
    rw [hb]
    rfl

/-! ## The sheet of a book -/

theorem get?_currentBalancesMap {getStockBalance : String → Option Int} {d : DayBookDetail} {p : String}
    (h : ∃ e ∈ d.entries, e.productId = p) :
    (currentBalancesMap getStockBalance d).get? p = some ⟨p, (getStockBalance p).getD 0⟩ := by
  have hkeys : (Groups.group DayBookEntry.productId d.entries).rows.map Group.key =
      ((Groups.group DayBookEntry.productId d.entries).rows.map Group.key).map fun p =>
        Amount.key ⟨p, (getStockBalance p).getD 0⟩ := (List.map_id' _).symm
  have hn : ((Groups.group DayBookEntry.productId d.entries).rows.map Group.key).Nodup :=
    (Groups.group DayBookEntry.productId d.entries).nodup
  unfold currentBalancesMap
  refine Table.get?_putAll_mem (r := (⟨p, (getStockBalance p).getD 0⟩ : Amount String Int)) ?_ ?_
  · rw [List.map_map]
    rwa [hkeys] at hn
  · exact List.mem_map_of_mem (Groups.mem_keys_group.2 h)

/-- The entries of a day show the visible transactions. -/
theorem deltas_walk (p : String) : ((walk productMap m txns).1.filter fun e => e.productId = p).map
      DayBookEntry.quantityDelta =
    ((txns.filter fun t => !t.hidden).filter fun t => t.productId = p).map
      InventoryTransaction.quantityDelta := by
  induction txns generalizing m with
  | nil => rfl
  | cons t txns ih =>
    have hcons : (walk productMap m (t :: txns)).1 =
        if t.hidden then (walk productMap (m.add t.productId t.quantityDelta) txns).1
        else entry productMap t (m.of t.productId + t.quantityDelta) ::
          (walk productMap (m.add t.productId t.quantityDelta) txns).1 := rfl
    have hproduct : ∀ after, (entry productMap t after).productId = t.productId := fun _ => rfl
    rw [hcons]
    cases hh : t.hidden with
    | true => rw [if_pos rfl, List.filter_cons_of_neg (by simp [hh]), ih]
    | false =>
      have hvisible : (t :: txns).filter (fun t => !t.hidden) = t :: txns.filter (fun t => !t.hidden) :=
        List.filter_cons_of_pos (by simp [hh])
      rw [if_neg Bool.false_ne_true, hvisible, List.filter_cons, List.filter_cons, hproduct]
      split
      · rw [List.map_cons, List.map_cons, ih]
        rfl
      · exact ih

/-- What a store's movements of a product on a day add up to, as the book shows them. -/
def visibleOn (transactions : List InventoryTransaction) (storeId productId date : String) : Int :=
  delta (transactions.filter fun t => t.storeId = storeId ∧ t.productId = productId ∧
    t.occurredAt.date = date ∧ t.hidden = false)

/-- What the AVAILABLE movements of a product add up to, on the days with `p`. -/
def availableOn (transactions : List InventoryTransaction) (storeId productId : String)
    (p : String → Bool) : Int :=
  delta (transactions.filter fun t => t.storeId = storeId ∧ t.productId = productId ∧
    t.stockBucket = "AVAILABLE" ∧ p t.occurredAt.date = true)

theorem availableOn_split (q : String → Bool) {p p₁ p₂ : String → Bool}
    (h₁ : ∀ d, p₁ d = (p d && q d)) (h₂ : ∀ d, p₂ d = (p d && !q d)) (productId : String) :
    availableOn transactions storeId productId p = availableOn transactions storeId productId p₁ +
      availableOn transactions storeId productId p₂ := by
  unfold availableOn
  rw [delta_split fun t => q t.occurredAt.date, List.filter_filter, List.filter_filter]
  congr 2
  · refine List.filter_congr fun t _ => ?_
    rw [h₁]
    cases q t.occurredAt.date <;> simp
  · refine List.filter_congr fun t _ => ?_
    rw [h₂]
    cases q t.occurredAt.date <;> simp

theorem deltas_detail {balances : Option (Tally String Int)} {d : DayBookDetail}
    (hd : d ∈ (buildLocalDayBooks js transactions storeId productMap balances).2.rows) (p : String) :
    ((d.entries.filter fun e => e.productId = p).map DayBookEntry.quantityDelta).sum =
      visibleOn transactions storeId p d.bookDate := by
  rcases Table.mem_putAll hd with hd | hd
  · obtain ⟨b, hb, rfl⟩ := List.mem_map.1 hd
    obtain ⟨dates₁, date, dates₂, -, -, hdetail⟩ := mem_bookDays hb
    have hdate : b.2.bookDate = date := by
      rw [hdetail]
      rfl
    have hentries : b.2.entries = (walk productMap (carried storeId productMap
        (byDate (allStoreTxns js transactions storeId)).membersOf
        (seeds balances (allStoreTxns js transactions storeId)) dates₁)
        ((byDate (allStoreTxns js transactions storeId)).membersOf date)).1 := by
      rw [hdetail]
      rfl
    rw [hentries, deltas_walk, hdate, byDate, Groups.membersOf_group]
    have hshown : ∀ t : InventoryTransaction,
        (t.productId = p ∧ t.occurredAt.date = date ∧ t.hidden = false) ↔
          decide (t.occurredAt.date = date) = true ∧ (!t.hidden) = true ∧ decide (t.productId = p) = true := by
      intro t
      simp only [decide_eq_true_eq, Bool.not_eq_true']
      tauto
    exact (delta_select hshown).symm
  · cases hd

/-- **A row of the sheet**: the current balance, and that less what the book shows. It is the balance of
the product at the end of the day, and before it, exactly if no AVAILABLE movements of later days are left,
and those of the day are what the book shows. -/
theorem balanceSheetRow_iff (js : Js) (transactions : List InventoryTransaction) (storeId : String)
    (productMap productSkuMap : String → Option String) (balances : Option (Tally String Int))
    (getStockBalance : String → Option Int)
    (hexplains : ∀ p, getStockBalance p = some (availableOn transactions storeId p fun _ => true)) :
    ∀ d ∈ (buildLocalDayBooks js transactions storeId productMap balances).2.rows,
      ∀ row ∈ balanceSheetRows js productSkuMap getStockBalance d,
        row.closingBalance = availableOn transactions storeId row.productId (fun _ => true) ∧
        row.openingBalance = row.closingBalance -
          visibleOn transactions storeId row.productId d.bookDate ∧
        (row.closingBalance = availableOn transactions storeId row.productId (· ≤ d.bookDate) ∧
            row.openingBalance = availableOn transactions storeId row.productId (· < d.bookDate) ↔
          availableOn transactions storeId row.productId (d.bookDate < ·) = 0 ∧
            availableOn transactions storeId row.productId (· = d.bookDate) =
              visibleOn transactions storeId row.productId d.bookDate) := by
  intro d hd row hrow
  unfold balanceSheetRows at hrow
  split at hrow
  · cases hrow
  obtain ⟨⟨e, he, hproduct⟩, hopening, hclosing⟩ := row_eq hrow
  obtain ⟨e', he', rfl⟩ := List.mem_map.1 he
  have hcurrent : row.closingBalance = (getStockBalance row.productId).getD 0 :=
    hclosing _ (get?_currentBalancesMap ⟨e', he', hproduct⟩)
  rw [hexplains, Option.getD_some] at hcurrent
  have hvisible : sheetDelta ((d.entries.map fun e =>
      (⟨e, productSkuMap e.productId⟩ : DayBookEntryForSheet)).filter
        fun e => e.productId = row.productId) = visibleOn transactions storeId row.productId d.bookDate := by
    rw [← deltas_detail hd, sheetDelta, List.filter_map, List.map_map]
    rfl
  rw [hvisible] at hopening
  have hafter : availableOn transactions storeId row.productId (fun _ => true) =
      availableOn transactions storeId row.productId (· ≤ d.bookDate) +
        availableOn transactions storeId row.productId (d.bookDate < ·) := by
    refine availableOn_split (· ≤ d.bookDate) (fun _ => (Bool.true_and _).symm) (fun _ => ?_) _
    rw [Bool.true_and, ← decide_not, decide_eq_decide, not_le]
  have hday : availableOn transactions storeId row.productId (· ≤ d.bookDate) =
      availableOn transactions storeId row.productId (· < d.bookDate) +
        availableOn transactions storeId row.productId (· = d.bookDate) := by
    refine availableOn_split (· < d.bookDate) (fun _ => ?_) (fun _ => ?_) _
    · rw [← Bool.decide_and, decide_eq_decide]
      exact ⟨fun h => ⟨h.le, h⟩, And.right⟩
    · rw [← decide_not, ← Bool.decide_and, decide_eq_decide, not_lt]
      exact ⟨fun h => ⟨h.le, h.ge⟩, fun h => le_antisymm h.1 h.2⟩
  refine ⟨hcurrent, hopening, ?_⟩
  rw [hopening, hcurrent]
  omega

/-- The balance of a product, all of whose movements are local. -/
def Sample.stockBalance (p : String) : Option Int :=
  some (availableOn Sample.receipts "STORE" p fun _ => true)

theorem balanceSheetRow_receipts :
    Sample.stockBalance "PROD" = some (availableOn Sample.receipts "STORE" "PROD" fun _ => true) ∧
      ∀ d ∈ (buildLocalDayBooks Sample.js Sample.receipts "STORE" (fun _ => none)
        (some (Sample.balances 8))).2.rows,
        ∀ row ∈ balanceSheetRows Sample.js (fun _ => none) Sample.stockBalance d,
          row.closingBalance = availableOn Sample.receipts "STORE" row.productId (fun _ => true) :=
  ⟨rfl, fun d hd row hrow => (balanceSheetRow_iff Sample.js Sample.receipts "STORE" (fun _ => none)
    (fun _ => none) (some (Sample.balances 8)) Sample.stockBalance (fun _ => rfl) d hd row hrow).1⟩

/-- The sheet of the first day closes with what was received on the second day, too. -/
theorem balanceSheetRow_earlier :
    (∀ p, Sample.stockBalance p = some (availableOn Sample.receipts "STORE" p fun _ => true)) ∧
      ∃ d ∈ (buildLocalDayBooks Sample.js Sample.receipts "STORE" (fun _ => none)
        (some (Sample.balances 8))).2.rows,
        ∃ row ∈ balanceSheetRows Sample.js (fun _ => none) Sample.stockBalance d,
          row.closingBalance = 8 ∧
            availableOn Sample.receipts "STORE" row.productId (· ≤ d.bookDate) = 5 := by
  refine ⟨fun _ => rfl, ?_⟩
  decide +kernel

end Desktop.View
