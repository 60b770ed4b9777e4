import InvenTory.Desktop.LocalBooks
import InvenTory.Lib.Sort

/-!
# The chain of the day books

The replay of a day adds the deltas of its transactions to what is carried over (`closing_bookDay`), so the
books form a chain that starts from the seeds and ends with the current balances (`dayBooks_chain`).
-/

namespace Desktop.View

open Relational
open Sync (Js)

variable {js : Js} {storeId : String} {productMap : ProductMap} {carryOver m : Tally String Int}
  {txns transactions : List InventoryTransaction} {txnsOf : String → List InventoryTransaction}

/-- What transactions add up to. -/
def delta (txns : List InventoryTransaction) : Int := (txns.map (·.quantityDelta)).sum

/-! ## A day -/

theorem walk_snd (productMap : ProductMap) (m : Tally String Int) (txns : List InventoryTransaction) :
    (walk productMap m txns).2 = Tally.addAll (·.productId) (·.quantityDelta) txns m := by
  induction txns generalizing m with
  | nil => rfl
  | cons t txns ih => exact ih _

/-- What is carried over is what the day ends with. -/
theorem of_bookDay (date : String) (p : String) :
    (bookDay storeId productMap carryOver date txns).2.2.of p =
      carryOver.of p + delta (txns.filter (·.productId = p)) := by
  unfold bookDay
  dsimp only
  rw [Tally.of_putAll, walk_snd, Tally.of_addAll]
  · rfl
  · intro k hk
    rw [walk_snd]
    exact Tally.mem_keys_addAll.2 (.inl hk)

theorem sum_bookDay (date : String) :
    (bookDay storeId productMap carryOver date txns).2.2.sum = carryOver.sum + delta txns := by
  have hsame : ∀ p, (bookDay storeId productMap carryOver date txns).2.2.of p =
      (Tally.addAll (·.productId) (·.quantityDelta) txns carryOver).of p := fun p => by
    rw [of_bookDay, Tally.of_addAll]
    rfl
  rw [Tally.sum_congr hsame, Tally.sum_addAll]
  rfl

theorem closing_bookDay (date : String) :
    (bookDay storeId productMap carryOver date txns).1.closingBalance = carryOver.sum + delta txns := by
  unfold bookDay
  dsimp only
  rw [walk_snd, Tally.sum_addAll]
  rfl

/-! ## All days -/

theorem bookDays_cons (date : String) (dates : List String) :
    bookDays storeId productMap txnsOf carryOver (date :: dates) =
      ((bookDay storeId productMap carryOver date (txnsOf date)).1,
        (bookDay storeId productMap carryOver date (txnsOf date)).2.1) ::
        bookDays storeId productMap txnsOf
          (bookDay storeId productMap carryOver date (txnsOf date)).2.2 dates := rfl

/-- What is carried over after some dates. -/
def carried (storeId : String) (productMap : ProductMap) (txnsOf : String → List InventoryTransaction)
    (carryOver : Tally String Int) (dates : List String) : Tally String Int :=
  dates.foldl (fun carryOver date => (bookDay storeId productMap carryOver date (txnsOf date)).2.2)
    carryOver

theorem of_carried (dates : List String) (p : String) :
    (carried storeId productMap txnsOf carryOver dates).of p =
      carryOver.of p + delta ((dates.flatMap txnsOf).filter (·.productId = p)) := by
  induction dates generalizing carryOver with
  | nil => simp [carried, delta]
  | cons d dates ih =>
    refine (ih ..).trans ?_
    rw [of_bookDay, List.flatMap_cons, List.filter_append]
    simp only [delta, List.map_append, List.sum_append, add_assoc]

theorem sum_carried (dates : List String) :
    (carried storeId productMap txnsOf carryOver dates).sum =
      carryOver.sum + (dates.map fun date => delta (txnsOf date)).sum := by
  induction dates generalizing carryOver with
  | nil => simp [carried]
  | cons d dates ih =>
    refine (ih ..).trans ?_
    rw [sum_bookDay, List.map_cons, List.sum_cons, add_assoc]

/-- **A book** is made of what is carried over from the dates before its own. -/
theorem mem_bookDays {b : DayBook × DayBookDetail} {dates : List String}
    (h : b ∈ bookDays storeId productMap txnsOf carryOver dates) :
    ∃ dates₁ date dates₂, dates = dates₁ ++ date :: dates₂ ∧
      b.1 = (bookDay storeId productMap (carried storeId productMap txnsOf carryOver dates₁) date
        (txnsOf date)).1 ∧
      b.2 = (bookDay storeId productMap (carried storeId productMap txnsOf carryOver dates₁) date
        (txnsOf date)).2.1 := by
  induction dates generalizing carryOver with
  | nil => cases h
  | cons d dates ih =>
    rcases List.mem_cons.1 h with rfl | h
    · exact ⟨[], d, dates, rfl, rfl, rfl⟩
    · obtain ⟨dates₁, date, dates₂, rfl, h1, h2⟩ := ih h
      exact ⟨d :: dates₁, date, dates₂, rfl, h1, h2⟩

theorem dates_bookDays (dates : List String) :
    (bookDays storeId productMap txnsOf carryOver dates).map (·.1.bookDate) = dates := by
  induction dates generalizing carryOver with
  | nil => rfl
  | cons d dates ih => exact congrArg (d :: ·) ih

theorem opening_bookDays (dates : List String) :
    ∀ b ∈ (bookDays storeId productMap txnsOf carryOver dates).head?,
      b.1.openingBalance = carryOver.sum := by
  intro b hb
  cases dates with
  | nil => cases hb
  | cons d dates =>
    cases hb
    rfl

/-- **Every book opens** with what the one before it closes with. -/
theorem isChain_bookDays (dates : List String) :
    (bookDays storeId productMap txnsOf carryOver dates).IsChain fun b b' =>
      b'.1.openingBalance = b.1.closingBalance := by
  induction dates generalizing carryOver with
  | nil => exact .nil
  | cons d dates ih =>
    rw [bookDays_cons]
    refine List.isChain_cons.2 ⟨fun b hb => ?_, ih⟩
    rw [opening_bookDays dates b hb, sum_bookDay, closing_bookDay]

/-- **The last book closes** with all that was added. -/
theorem closing_bookDays (dates : List String) :
    ∀ b ∈ (bookDays storeId productMap txnsOf carryOver dates).getLast?,
      b.1.closingBalance = carryOver.sum + (dates.map fun date => delta (txnsOf date)).sum := by
  induction dates generalizing carryOver with
  | nil => exact fun b hb => by cases hb
  | cons d dates ih =>
    intro b hb
    cases dates with
    | nil =>
      cases hb
      refine (closing_bookDay d).trans ?_
      simp
    | cons d' dates =>
      rw [bookDays_cons, bookDays_cons, List.getLast?_cons_cons, ← bookDays_cons] at hb
      rw [ih b hb, sum_bookDay, List.map_cons (l := d' :: dates), List.sum_cons, add_assoc]

/-! ## Seeds -/

/-- The loop over the balances. -/
def seedRows (totalDeltas : Tally String Int) (carryOver : Tally String Int)
    (rows : List (Amount String Int)) : Tally String Int :=
  rows.foldl (fun carryOver b =>
    let seed := b.amount - totalDeltas.of b.key
    if seed ≠ 0 then carryOver.put ⟨b.key, seed⟩ else carryOver) carryOver

variable {balances : Tally String Int} {rows : List (Amount String Int)}

theorem of_seedRows_cons (totalDeltas : Tally String Int) (b : Amount String Int)
    (hzero : carryOver.of b.key = 0) (p : String) :
    (seedRows totalDeltas carryOver [b]).of p =
      if b.key = p then b.amount - totalDeltas.of b.key else carryOver.of p := by
  have hstep : seedRows totalDeltas carryOver [b] =
      if b.amount - totalDeltas.of b.key ≠ 0 then
        carryOver.put ⟨b.key, b.amount - totalDeltas.of b.key⟩ else carryOver := rfl
  rw [hstep]
  split
  · exact Tally.of_put ..
  · rename_i hseed
    rw [not_not] at hseed
    split
    · rename_i hp
      rw [← hp, hzero, hseed]
    · rfl

theorem of_seedRows (totalDeltas : Tally String Int) (hn : (rows.map Amount.key).Nodup)
    (hzero : ∀ b ∈ rows, carryOver.of b.key = 0) :
    (∀ p ∉ rows.map Amount.key, (seedRows totalDeltas carryOver rows).of p = carryOver.of p) ∧
      ∀ b ∈ rows, (seedRows totalDeltas carryOver rows).of b.key = b.amount - totalDeltas.of b.key := by
  induction rows generalizing carryOver with
  | nil => exact ⟨fun _ _ => rfl, fun b hb => by cases hb⟩
  | cons b rows ih =>
    obtain ⟨hb, hrows⟩ := List.nodup_cons.1 hn
    have hstep := of_seedRows_cons totalDeltas b (hzero b List.mem_cons_self)
    have hne : ∀ b' ∈ rows, b.key ≠ b'.key := fun b' hb' he =>
      hb (List.mem_map.2 ⟨b', hb', he.symm⟩)
    have hzero' : ∀ b' ∈ rows, (seedRows totalDeltas carryOver [b]).of b'.key = 0 := fun b' hb' => by
      rw [hstep, if_neg (hne b' hb')]
      exact hzero b' (List.mem_cons_of_mem _ hb')
    obtain ⟨hother, hmem⟩ := ih hrows hzero'
    refine ⟨fun p hp => ?_, fun b' hb' => ?_⟩
    · rw [List.map_cons, List.mem_cons, not_or] at hp
      refine (hother p hp.2).trans ?_
      rw [hstep, if_neg (Ne.symm hp.1)]
    · rcases List.mem_cons.1 hb' with rfl | hb'
      · refine (hother b'.key hb).trans ?_
        rw [hstep, if_pos rfl]
      · exact hmem b' hb'

theorem seeds_eq (balances : Tally String Int) (txns : List InventoryTransaction) :
    seeds (some balances) txns =
      seedRows (Tally.addAll (·.productId) (·.quantityDelta) txns ∅) ∅ balances.rows := by
  have hdef : seeds (some balances) txns = if 0 < balances.rows.length then
      seedRows (Tally.addAll (·.productId) (·.quantityDelta) txns ∅) ∅ balances.rows else ∅ := rfl
  rw [hdef]
  split
  · rfl
  · rename_i h
    rw [List.eq_nil_of_length_eq_zero (Nat.eq_zero_of_not_pos h)]
    rfl

/-- **What a product had** before its first transaction, if its balance is known. -/
theorem of_seeds (balances : Tally String Int) (txns : List InventoryTransaction) (p : String) :
    (seeds (some balances) txns).of p = if p ∈ balances.rows.map Amount.key then
      balances.of p - delta (txns.filter (·.productId = p)) else 0 := by
  have hzero : ∀ b ∈ balances.rows, (∅ : Tally String Int).of b.key = 0 := fun _ _ => rfl
  obtain ⟨hother, hmem⟩ := of_seedRows (Tally.addAll (·.productId) (·.quantityDelta) txns ∅)
    balances.nodup hzero
  rw [seeds_eq]
  split
  · rename_i hp
    obtain ⟨b, hb, rfl⟩ := List.mem_map.1 hp
    rw [hmem b hb, Tally.of_of_mem hb, Tally.of_addAll, Tally.of_empty, zero_add]
    rfl
  · rename_i hp
    exact hother p hp

theorem sum_seeds (h : ∀ t ∈ txns, t.productId ∈ balances.rows.map Amount.key) :
    (seeds (some balances) txns).sum = balances.sum - delta txns := by
  have hn : (balances.rows.map Amount.key).Nodup := balances.nodup
  have hkeys : ∀ m : Tally String Int, (∀ p ∉ balances.rows.map Amount.key, m.of p = 0) →
      m.sum = ((balances.rows.map Amount.key).map m.of).sum := fun m hm =>
    Tally.sum_eq hn fun p hp => by
      by_contra hno
      exact hp (hm p hno)
  have hdelta := Tally.sum_by_keys (f := InventoryTransaction.productId)
    (g := InventoryTransaction.quantityDelta) hn h
  rw [hkeys (seeds (some balances) txns) fun p hp => by rw [of_seeds, if_neg hp],
    hkeys balances fun p hp => Tally.of_not_mem hp, delta, ← hdelta, eq_sub_iff_add_eq,
    ← List.sum_map_add]
  refine congrArg List.sum (List.map_congr_left fun p hp => ?_)
  rw [of_seeds, if_pos hp]
  exact sub_add_cancel _ _

/-! ## Dates -/

theorem mem_allStoreTxns {t : InventoryTransaction} :
    t ∈ allStoreTxns js transactions storeId ↔ t ∈ transactions ∧ t.storeId = storeId := by
  unfold allStoreTxns
  rw [List.mem_insertionSort, List.mem_filter, decide_eq_true_eq]

/-- Sorting does not change sums. -/
theorem delta_allStoreTxns (p : InventoryTransaction → Bool) :
    delta ((allStoreTxns js transactions storeId).filter p) =
      delta (transactions.filter fun t => t.storeId = storeId ∧ p t) := by
  have hperm := (List.perm_insertionSort (fun a b : InventoryTransaction =>
    a.occurredAt.le js b.occurredAt = true) (transactions.filter (·.storeId = storeId))).filter p
  unfold delta
  refine ((hperm.map _).sum_eq).trans ?_
  rw [List.filter_filter]
  congr 2
  exact List.filter_congr fun t _ => by simp [Bool.and_comm]

theorem mem_sortedDates {date : String} :
    date ∈ sortedDates txns ↔ ∃ t ∈ txns, t.occurredAt.date = date := by
  unfold sortedDates
  rw [List.mem_insertionSort]
  exact Groups.mem_keys_group

theorem pairwise_sortedDates (txns : List InventoryTransaction) :
    (sortedDates txns).Pairwise (· < ·) := by
  have hle : (sortedDates txns).Pairwise (· ≤ ·) := List.pairwise_insertionSort _ _
  have hn : (sortedDates txns).Nodup :=
    (List.perm_insertionSort _ _).nodup_iff.2 (byDate txns).nodup
  exact List.Pairwise.imp₂ (fun _ _ => lt_of_le_of_ne) hle hn

/-- The order of the dates is that of the books. -/
theorem localeLe_dates (hjs : Collates js) {d d' : String} (hd : d ∈ sortedDates txns)
    (hd' : d' ∈ sortedDates txns) : js.localeLe d d' = true ↔ d ≤ d' := by
  obtain ⟨t, -, rfl⟩ := mem_sortedDates.1 hd
  obtain ⟨t', -, rfl⟩ := mem_sortedDates.1 hd'
  exact hjs.date t.occurredAt t'.occurredAt

/-! ## The books -/

variable {currentBalances : Option (Tally String Int)}

theorem dates_localBooks : (localBooks js transactions storeId productMap currentBalances).map
    (·.1.bookDate) = sortedDates (allStoreTxns js transactions storeId) := dates_bookDays _

/-- The newest first. -/
theorem dayBooks_eq (hjs : Collates js) :
    (buildLocalDayBooks js transactions storeId productMap currentBalances).1 =
      ((localBooks js transactions storeId productMap currentBalances).map Prod.fst).reverse := by
  have hdates : (localBooks js transactions storeId productMap currentBalances).map (·.1.bookDate) =
      sortedDates (allStoreTxns js transactions storeId) := dates_localBooks
  refine StableSort.insertionSort_reverse ?_
  rw [List.pairwise_map]
  have hlt := pairwise_sortedDates (allStoreTxns js transactions storeId)
  rw [← hdates, List.pairwise_map] at hlt
  refine hlt.imp_of_mem fun {b b'} hb hb' hlt => ?_
  have hmem : ∀ b ∈ localBooks js transactions storeId productMap currentBalances,
      b.1.bookDate ∈ sortedDates (allStoreTxns js transactions storeId) := fun b hb => by
    rw [← hdates]
    exact List.mem_map_of_mem hb
  rw [localeLe_dates hjs (hmem b' hb') (hmem b hb)]
  exact not_le.2 hlt

@[simp] theorem bookDate_bookDay (date : String) :
    (bookDay storeId productMap carryOver date txns).1.bookDate = date := rfl

@[simp] theorem opening_bookDay (date : String) :
    (bookDay storeId productMap carryOver date txns).1.openingBalance = carryOver.sum := rfl

theorem delta_byDate (js : Js) (date : String) :
    delta ((byDate (allStoreTxns js transactions storeId)).membersOf date) =
      delta (transactions.filter fun t => t.storeId = storeId ∧ t.occurredAt.date = date) := by
  unfold byDate
  rw [Groups.membersOf_group, delta_allStoreTxns]
  simp only [decide_eq_true_eq]

theorem delta_sortedDates (txns : List InventoryTransaction) :
    ((sortedDates txns).map fun date => delta ((byDate txns).membersOf date)).sum = delta txns := by
  have hn : (sortedDates txns).Nodup := (pairwise_sortedDates txns).imp ne_of_lt
  have hsum := Tally.sum_by_keys (f := fun t : InventoryTransaction => t.occurredAt.date)
    (g := InventoryTransaction.quantityDelta) hn fun t ht => mem_sortedDates.2 ⟨t, ht, rfl⟩
  unfold byDate
  simp only [Groups.membersOf_group]
  exact hsum

/-- **The chain of the day books.** -/
theorem dayBooks_chain (hjs : Collates js) (transactions : List InventoryTransaction)
    (storeId : String) (productMap : ProductMap) (balances : Tally String Int)
    (hall : ∀ t ∈ transactions, t.storeId = storeId → t.productId ∈ balances.rows.map Amount.key) :
    let books := (buildLocalDayBooks js transactions storeId productMap (some balances)).1
    (∀ date, date ∈ books.map (·.bookDate) ↔
      ∃ t ∈ transactions, t.storeId = storeId ∧ t.occurredAt.date = date) ∧
    books.Pairwise (fun b b' => b'.bookDate < b.bookDate) ∧
    books.IsChain (fun b b' => b.openingBalance = b'.closingBalance) ∧
    (∀ b ∈ books, b.closingBalance - b.openingBalance =
      delta (transactions.filter fun t => t.storeId = storeId ∧ t.occurredAt.date = b.bookDate)) ∧
    ∀ b ∈ books.head?, b.closingBalance = balances.sum := by
  have hdates : (localBooks js transactions storeId productMap (some balances)).map (·.1.bookDate) =
      sortedDates (allStoreTxns js transactions storeId) := dates_localBooks
  have hlt := pairwise_sortedDates (allStoreTxns js transactions storeId)
  rw [dayBooks_eq hjs]
  dsimp only
  refine ⟨fun date => ?_, ?_, ?_, fun b hb => ?_, fun b hb => ?_⟩
  · rw [List.map_reverse, List.mem_reverse, List.map_map]
    have hmem : date ∈ sortedDates (allStoreTxns js transactions storeId) ↔ _ := mem_sortedDates
    rw [← hdates] at hmem
    refine hmem.trans (exists_congr fun t => ?_)
    rw [mem_allStoreTxns, and_assoc]
  · rw [List.pairwise_reverse, List.pairwise_map]
    rwa [← hdates, List.pairwise_map] at hlt
  · rw [List.isChain_reverse, List.isChain_map]
    exact isChain_bookDays _
  · obtain ⟨b', hb', rfl⟩ := List.mem_map.1 (List.mem_reverse.1 hb)
    obtain ⟨dates₁, date, dates₂, -, hbook, -⟩ := mem_bookDays hb'
    rw [hbook, closing_bookDay, bookDate_bookDay, ← delta_byDate js date, opening_bookDay,
      add_sub_cancel_left]
  · rw [List.head?_reverse, List.getLast?_map] at hb
    obtain ⟨b', hb', rfl⟩ := Option.map_eq_some_iff.1 hb
    rw [closing_bookDays _ b' hb', delta_sortedDates, sum_seeds, sub_add_cancel]
    exact fun t ht => hall t (mem_allStoreTxns.1 ht).1 (mem_allStoreTxns.1 ht).2

theorem lt_of_take_lt : ∀ (n : Nat) {l l' : List Char}, l.take n < l'.take n → l < l'
  | 0, _, _, h => absurd h (lt_irrefl _)
  | _ + 1, _, [], h => absurd h (List.not_lt_nil _)
  | _ + 1, [], _ :: _, _ => List.nil_lt_cons _ _
  | n + 1, _ :: _, _ :: _, h => by
    rw [List.take_succ_cons, List.take_succ_cons, List.cons_lt_cons_iff] at h
    rw [List.cons_lt_cons_iff]
    exact h.imp_right fun h => ⟨h.1, lt_of_take_lt n h.2⟩

/-- The order of the characters is a collation. -/
theorem collates_sample : Collates Sample.js where
  total a b := by
    have h := le_total a.text b.text
    exact h.imp (fun h => decide_eq_true h) fun h => decide_eq_true h
  trans a b c hab hbc :=
    decide_eq_true (le_trans (of_decide_eq_true hab) (of_decide_eq_true hbc))
  antisymm a b hab hba := by
    obtain ⟨s, hdate, htime⟩ := a
    obtain ⟨s', hdate', htime'⟩ := b
    obtain rfl : s = s' := le_antisymm (of_decide_eq_true hab) (of_decide_eq_true hba)
    rfl
  dates a b hab := by
    have h : a.text ≤ b.text := of_decide_eq_true hab
    rw [String.le_iff_toList_le] at h
    unfold IsoTime.date toDateStr
    rw [String.le_iff_toList_le, String.toList_ofList, String.toList_ofList]
    exact not_lt.1 fun hlt => not_lt.2 h (lt_of_take_lt 10 hlt)
  date a b := decide_eq_true_iff

theorem dayBooks_receipts : (buildLocalDayBooks Sample.js Sample.receipts "STORE" (fun _ => none)
    (some (Sample.balances 10))).1.IsChain (fun b b' => b.openingBalance = b'.closingBalance) :=
  (dayBooks_chain collates_sample Sample.receipts "STORE" (fun _ => none) (Sample.balances 10)
    (by decide)).2.2.1

end Desktop.View
