import InvenTory.Desktop.Proof.LocalBooks

/-!
# The running balances of the day books

The running balance of an entry is what the product had at first, with all its movements up to the entry
(`runningBalance_eq`). What it had at first is reckoned from the AVAILABLE balance, but with the movements
of all buckets; so the balance of the entry is right exactly if those of the other buckets that come after
it cancel out (`runningBalance_iff`).
-/

namespace Desktop.View

open Relational
open Sync (Js)

variable {js : Js} {storeId : String} {productMap : ProductMap} {m : Tally String Int}
  {txns transactions : List InventoryTransaction} {e : DayBookEntry} {t : InventoryTransaction}

/-! ## The entries of a day -/

/-- **An entry** is of a visible transaction, and counts those before it in. -/
theorem mem_walk (h : e ∈ (walk productMap m txns).1) : ∃ pre t post, txns = pre ++ t :: post ∧
    t.hidden = false ∧ e = entry productMap t
      (m.of t.productId + delta ((pre ++ [t]).filter (·.productId = t.productId))) := by
  induction txns generalizing m with
  | nil => cases h
  | cons t txns ih =>
    have hcons : (walk productMap m (t :: txns)).1 =
        if t.hidden then (walk productMap (m.add t.productId t.quantityDelta) txns).1
        else entry productMap t (m.of t.productId + t.quantityDelta) ::
          (walk productMap (m.add t.productId t.quantityDelta) txns).1 := rfl
    -- an entry of a later transaction counts `t` in
    have hlater : e ∈ (walk productMap (m.add t.productId t.quantityDelta) txns).1 →
        ∃ pre t' post, t :: txns = pre ++ t' :: post ∧ t'.hidden = false ∧ e = entry productMap t'
          (m.of t'.productId + delta ((pre ++ [t']).filter (·.productId = t'.productId))) := by
      intro h
      obtain ⟨pre, t', post, rfl, hvisible, rfl⟩ := ih h
      refine ⟨t :: pre, t', post, rfl, hvisible, ?_⟩
      rw [Tally.of_add, List.cons_append, List.filter_cons]
      by_cases hp : t.productId = t'.productId
      · simp [hp, delta, add_assoc]
      · simp [hp]
    rw [hcons] at h
    split at h
    · exact hlater h
    · rename_i hvisible
      rcases List.mem_cons.1 h with rfl | h
      · exact ⟨[], t, txns, rfl, by simpa using hvisible, by simp [delta]⟩
      · exact hlater h

/-! ## Sums -/

/-- What is `q` and what is not. -/
theorem delta_split (q : InventoryTransaction → Bool) (txns : List InventoryTransaction) :
    delta txns = delta (txns.filter q) + delta (txns.filter fun t => !q t) := by
  induction txns with
  | nil => rfl
  | cons t txns ih =>
    simp only [delta, List.map_cons, List.sum_cons] at ih ⊢
    rw [List.filter_cons, List.filter_cons, ih]
    cases q t <;> simp <;> omega

theorem delta_flatMap (g : String → List InventoryTransaction) (p : InventoryTransaction → Bool)
    (dates : List String) :
    delta ((dates.flatMap g).filter p) = (dates.map fun d => delta ((g d).filter p)).sum := by
  induction dates with
  | nil => rfl
  | cons d dates ih =>
    rw [List.flatMap_cons, List.filter_append, List.map_cons, List.sum_cons, ← ih]
    simp only [delta, List.map_append, List.sum_append]

/-- The transactions of some dates. -/
theorem delta_dates {dates : List String} (hn : dates.Nodup) (p : InventoryTransaction → Bool) :
    delta ((dates.flatMap (byDate txns).membersOf).filter p) =
      delta (txns.filter fun t => p t && decide (t.occurredAt.date ∈ dates)) := by
  have hin : ∀ t ∈ txns.filter (fun t => p t && decide (t.occurredAt.date ∈ dates)),
      t.occurredAt.date ∈ dates := fun t ht => by
    simpa using (Bool.and_eq_true_iff.1 (List.mem_filter.1 ht).2).2
  have hsum := Tally.sum_by_keys (g := InventoryTransaction.quantityDelta) hn hin
  rw [delta_flatMap]
  refine Eq.trans ?_ hsum
  refine congrArg List.sum (List.map_congr_left fun d hd => ?_)
  unfold byDate delta
  rw [Groups.membersOf_group, List.filter_filter, List.filter_filter]
  congr 2
  refine List.filter_congr fun t _ => ?_
  by_cases ht : t.occurredAt.date = d
  · simp [ht, hd]
  · simp [ht]

/-! ## Up to an entry -/

/-- Times that are distinct increase. -/
theorem filter_upTo (hjs : Collates js) {pre post : List InventoryTransaction}
    (hsorted : (pre ++ t :: post).Pairwise fun a b => a.occurredAt.le js b.occurredAt = true)
    (hn : ((pre ++ t :: post).map (·.occurredAt)).Nodup) :
    (pre ++ t :: post).filter (fun a => a.occurredAt.le js t.occurredAt) = pre ++ [t] := by
  obtain ⟨-, htail, hpre⟩ := List.pairwise_append.1 hsorted
  obtain ⟨hpost, -⟩ := List.pairwise_cons.1 htail
  have hself : t.occurredAt.le js t.occurredAt = true := (hjs.total _ _).elim id id
  rw [List.filter_append, List.filter_cons, if_pos hself]
  congr 1
  · exact List.filter_eq_self.2 fun a ha => hpre a ha t List.mem_cons_self
  · refine congrArg (t :: ·) (List.filter_eq_nil_iff.2 fun a ha hle => ?_)
    rw [List.map_append, List.map_cons] at hn
    have hne := (List.nodup_cons.1 (List.nodup_append.1 hn).2.1).1
    have heq := hjs.antisymm _ _ hle (hpost a ha)
    exact hne (heq ▸ List.mem_map_of_mem ha)

variable {currentBalances : Option (Tally String Int)}

theorem sorted_allStoreTxns (hjs : Collates js) : (allStoreTxns js transactions storeId).Pairwise
    fun a b => a.occurredAt.le js b.occurredAt = true := by
  have : Std.Total fun a b : InventoryTransaction => a.occurredAt.le js b.occurredAt = true :=
    ⟨fun a b => hjs.total _ _⟩
  have : IsTrans InventoryTransaction fun a b => a.occurredAt.le js b.occurredAt = true :=
    ⟨fun a b c => hjs.trans _ _ _⟩
  exact List.pairwise_insertionSort _ _

/-- **Up to an entry**: the days before, and the transactions of its day up to it. -/
theorem delta_upTo (hjs : Collates js)
    (hsorted : txns.Pairwise fun a b => a.occurredAt.le js b.occurredAt = true)
    (hn : (txns.map (·.occurredAt)).Nodup) {dates₁ dates₂ : List String} {date : String}
    (hdates : sortedDates txns = dates₁ ++ date :: dates₂) {pre post : List InventoryTransaction}
    (hday : (byDate txns).membersOf date = pre ++ t :: post) (p : InventoryTransaction → Bool) :
    delta ((dates₁.flatMap (byDate txns).membersOf).filter p) + delta ((pre ++ [t]).filter p) =
      delta (txns.filter fun a => p a && a.occurredAt.le js t.occurredAt) := by
  have hlt := pairwise_sortedDates txns
  rw [hdates] at hlt
  obtain ⟨hlt₁, htail, hbefore⟩ := List.pairwise_append.1 hlt
  obtain ⟨hafter, -⟩ := List.pairwise_cons.1 htail
  rw [byDate, Groups.membersOf_group] at hday
  have ht : t.occurredAt.date = date := by
    have hmem : t ∈ txns.filter (fun t => t.occurredAt.date = date) := by
      rw [hday]
      exact List.mem_append_right _ List.mem_cons_self
    simpa using (List.mem_filter.1 hmem).2
  -- the dates before are those of `dates₁`
  have hdates₁ : ∀ a ∈ txns, a.occurredAt.date ∈ dates₁ ↔ a.occurredAt.date < date := by
    intro a ha
    have hin : a.occurredAt.date ∈ dates₁ ++ date :: dates₂ :=
      hdates ▸ mem_sortedDates.2 ⟨a, ha, rfl⟩
    refine ⟨fun h => hbefore _ h date List.mem_cons_self, fun h => ?_⟩
    rcases List.mem_append.1 hin with hin | hin
    · exact hin
    · rcases List.mem_cons.1 hin with hin | hin
      · exact absurd h (hin ▸ lt_irrefl _)
      · exact absurd h (hafter _ hin).not_gt
  have hupTo := filter_upTo hjs (hday ▸ hsorted.sublist List.filter_sublist) (hday ▸ hn.sublist (List.filter_sublist.map _))
  have hsplit := delta_split (fun a => decide (a.occurredAt.date ∈ dates₁))
    (txns.filter fun a => p a && a.occurredAt.le js t.occurredAt)
  rw [delta_dates (hlt₁.imp ne_of_lt), ← hupTo, ← hday, hsplit, List.filter_filter,
    List.filter_filter, List.filter_filter, List.filter_filter]
  congr 2
  · refine List.filter_congr fun a ha => ?_
    have hle : a.occurredAt.date < date → a.occurredAt.le js t.occurredAt = true := fun h => by
      refine (hjs.total _ _).resolve_right fun hle => ?_
      exact absurd (ht ▸ hjs.dates _ _ hle) h.not_ge
    by_cases hin : a.occurredAt.date ∈ dates₁
    · simp [hin, hle ((hdates₁ a ha).1 hin)]
    · simp [hin]
  · refine List.filter_congr fun a ha => ?_
    have hdate : a.occurredAt.le js t.occurredAt = true →
        (a.occurredAt.date = date ↔ a.occurredAt.date ∉ dates₁) := fun hle => by
      rw [hdates₁ a ha, not_lt]
      exact ⟨fun h => h.ge, fun h => le_antisymm (ht ▸ hjs.dates _ _ hle) h⟩
    cases hle : a.occurredAt.le js t.occurredAt with
    | false => simp
    | true => simp [hdate hle, Bool.and_comm]

/-- **The running balance** of an entry: what the product had at first, with all movements of the product
up to the entry. -/
theorem runningBalance_eq (hjs : Collates js)
    (hn : ((transactions.filter (·.storeId = storeId)).map (·.occurredAt)).Nodup) {d : DayBookDetail}
    (hd : d ∈ (buildLocalDayBooks js transactions storeId productMap currentBalances).2.rows)
    (he : e ∈ d.entries) : e.runningBalance =
      (seeds currentBalances (allStoreTxns js transactions storeId)).of e.productId +
        delta ((allStoreTxns js transactions storeId).filter fun t =>
          t.productId = e.productId && t.occurredAt.le js e.occurredAt) := by
  rcases Table.mem_putAll hd with hd | hd
  · obtain ⟨b, hb, rfl⟩ := List.mem_map.1 hd
    obtain ⟨dates₁, date, dates₂, hdates, -, hdetail⟩ := mem_bookDays hb
    rw [hdetail] at he
    obtain ⟨pre, t, post, hday, -, rfl⟩ := mem_walk he
    have hn' : ((allStoreTxns js transactions storeId).map (·.occurredAt)).Nodup :=
      ((List.perm_insertionSort _ _).map _).nodup_iff.2 hn
    have hupTo := delta_upTo hjs (sorted_allStoreTxns hjs) hn' hdates hday
      fun a => decide (a.productId = t.productId)
    refine Eq.trans ?_ (congrArg ((seeds currentBalances _).of t.productId + ·) hupTo)
    rw [← add_assoc, ← of_carried]
    rfl
  · cases hd

/-! ## AVAILABLE balances -/

/-- Each balance is what the AVAILABLE movements of its product add up to. -/
def Explains (transactions : List InventoryTransaction) (storeId : String)
    (balances : Tally String Int) : Prop :=
  ∀ b ∈ balances.rows, b.amount = delta (transactions.filter fun t =>
    t.storeId = storeId ∧ t.productId = b.key ∧ t.stockBucket = "AVAILABLE")

/-- What the AVAILABLE movements of a product up to a time add up to. -/
def availableUpTo (js : Js) (transactions : List InventoryTransaction) (storeId productId : String)
    (time : IsoTime) : Int :=
  delta (transactions.filter fun t => t.storeId = storeId ∧ t.productId = productId ∧
    t.stockBucket = "AVAILABLE" ∧ t.occurredAt.le js time = true)

/-- The movements of the product in other buckets cancel out: those after the time, if the balance of the
product is known, and those up to it otherwise. -/
def OthersCancel (js : Js) (transactions : List InventoryTransaction) (storeId : String)
    (balances : Tally String Int) (productId : String) (time : IsoTime) : Prop :=
  delta (transactions.filter fun t => t.storeId = storeId ∧ t.productId = productId ∧
    t.stockBucket ≠ "AVAILABLE" ∧ (t.occurredAt.le js time = false ↔
      productId ∈ balances.rows.map Amount.key)) = 0

theorem delta_parts (q₁ q₂ q₃ : InventoryTransaction → Bool) (txns : List InventoryTransaction) :
    delta (txns.filter fun t => q₁ t && q₃ t) = delta (((txns.filter q₁).filter q₂).filter q₃) +
      delta (((txns.filter q₁).filter fun t => !q₂ t).filter q₃) := by
  rw [delta_split q₂, List.filter_filter, List.filter_filter, List.filter_filter, List.filter_filter,
    List.filter_filter, List.filter_filter]
  congr 2
  · exact List.filter_congr fun t _ => by cases q₁ t <;> cases q₂ t <;> simp
  · exact List.filter_congr fun t _ => by cases q₁ t <;> cases q₂ t <;> simp

/-- A selection of the transactions of a store, from the sorted ones. -/
theorem delta_select {p : InventoryTransaction → Prop} [DecidablePred p]
    {q₁ q₂ q₃ : InventoryTransaction → Bool} (h : ∀ t, p t ↔ q₁ t = true ∧ q₂ t = true ∧ q₃ t = true) :
    delta (transactions.filter fun t => t.storeId = storeId ∧ p t) =
      delta ((((allStoreTxns js transactions storeId).filter q₁).filter q₂).filter q₃) := by
  rw [List.filter_filter, List.filter_filter, delta_allStoreTxns]
  refine congrArg delta (List.filter_congr fun t _ => ?_)
  rw [decide_eq_decide, h t, Bool.and_eq_true, Bool.and_eq_true]
  tauto

/-- **The running balance** of an entry is that of the AVAILABLE stock exactly if the movements of the
other buckets cancel out. -/
theorem runningBalance_iff (hjs : Collates js) (transactions : List InventoryTransaction)
    (storeId : String) (productMap : ProductMap) (balances : Tally String Int)
    (hexplains : Explains transactions storeId balances)
    (hn : ((transactions.filter (·.storeId = storeId)).map (·.occurredAt)).Nodup) :
    ∀ d ∈ (buildLocalDayBooks js transactions storeId productMap (some balances)).2.rows,
      ∀ e ∈ d.entries,
        (e.runningBalance = availableUpTo js transactions storeId e.productId e.occurredAt ↔
          OthersCancel js transactions storeId balances e.productId e.occurredAt) := by
  intro d hd e he
  let txns := allStoreTxns js transactions storeId
  let ofProduct (t : InventoryTransaction) : Bool := t.productId = e.productId
  let available (t : InventoryTransaction) : Bool := t.stockBucket = "AVAILABLE"
  let other (t : InventoryTransaction) : Bool := !available t
  let upTo (t : InventoryTransaction) : Bool := t.occurredAt.le js e.occurredAt
  let after (t : InventoryTransaction) : Bool := !upTo t
  have hrunning := runningBalance_eq hjs hn hd he
  rw [of_seeds] at hrunning
  have hbuckets : delta (txns.filter ofProduct) = delta ((txns.filter ofProduct).filter available) +
      delta ((txns.filter ofProduct).filter other) := delta_split available _
  have hothers : delta ((txns.filter ofProduct).filter other) =
      delta (((txns.filter ofProduct).filter other).filter upTo) +
        delta (((txns.filter ofProduct).filter other).filter after) := delta_split upTo _
  have hupTo : delta (txns.filter fun t => ofProduct t && upTo t) =
      delta (((txns.filter ofProduct).filter available).filter upTo) +
        delta (((txns.filter ofProduct).filter other).filter upTo) :=
    delta_parts ofProduct available upTo txns
  have hshown : availableUpTo js transactions storeId e.productId e.occurredAt =
      delta (((txns.filter ofProduct).filter available).filter upTo) :=
    delta_select fun t => by simp [ofProduct, available, upTo]
  have hrun : e.runningBalance = (if e.productId ∈ balances.rows.map Amount.key then
      balances.of e.productId - delta (txns.filter ofProduct) else 0) +
        delta (txns.filter fun t => ofProduct t && upTo t) := hrunning
  unfold OthersCancel
  by_cases hknown : e.productId ∈ balances.rows.map Amount.key
  · obtain ⟨b, hb, hkey⟩ := List.mem_map.1 hknown
    have hbalance : balances.of e.productId = delta ((txns.filter ofProduct).filter available) := by
      rw [← hkey, Tally.of_of_mem hb, hexplains b hb, hkey, List.filter_filter, delta_allStoreTxns]
      refine congrArg delta (List.filter_congr fun t _ => ?_)
      simp [ofProduct, available, and_comm]
    have hcancel : delta (transactions.filter fun t => t.storeId = storeId ∧
        t.productId = e.productId ∧ t.stockBucket ≠ "AVAILABLE" ∧
        (t.occurredAt.le js e.occurredAt = false ↔ e.productId ∈ balances.rows.map Amount.key)) =
        delta (((txns.filter ofProduct).filter other).filter after) :=
      delta_select fun t => by simp [ofProduct, other, available, after, upTo, hknown]
    rw [if_pos hknown] at hrun
    rw [hcancel, hshown]
    omega
  · have hcancel : delta (transactions.filter fun t => t.storeId = storeId ∧
        t.productId = e.productId ∧ t.stockBucket ≠ "AVAILABLE" ∧
        (t.occurredAt.le js e.occurredAt = false ↔ e.productId ∈ balances.rows.map Amount.key)) =
        delta (((txns.filter ofProduct).filter other).filter upTo) :=
      delta_select fun t => by simp [ofProduct, other, available, upTo, hknown]
    rw [if_neg hknown] at hrun
    rw [hcancel, hshown]
    omega

theorem runningBalance_receipts : Explains Sample.receipts "STORE" (Sample.balances 8) ∧
    ∀ d ∈ (buildLocalDayBooks Sample.js Sample.receipts "STORE" (fun _ => none)
      (some (Sample.balances 8))).2.rows, ∀ e ∈ d.entries,
        (e.runningBalance = availableUpTo Sample.js Sample.receipts "STORE" e.productId e.occurredAt ↔
          OthersCancel Sample.js Sample.receipts "STORE" (Sample.balances 8) e.productId
            e.occurredAt) := by
  have hexplains : Explains Sample.receipts "STORE" (Sample.balances 8) := by
    unfold Explains
    decide
  exact ⟨hexplains, runningBalance_iff collates_sample Sample.receipts "STORE" (fun _ => none)
    (Sample.balances 8) hexplains (by decide)⟩

/-- A return to the damaged stock lowers the running balance of the receipt before it. -/
theorem runningBalance_returned :
    Explains Sample.returned "STORE" (Sample.balances 5) ∧
      ((Sample.returned.filter (·.storeId = "STORE")).map (·.occurredAt)).Nodup ∧
      ∃ d ∈ (buildLocalDayBooks Sample.js Sample.returned "STORE" (fun _ => none)
        (some (Sample.balances 5))).2.rows, ∃ e ∈ d.entries, e.runningBalance = 3 ∧
          availableUpTo Sample.js Sample.returned "STORE" e.productId e.occurredAt = 5 := by
  refine ⟨by unfold Explains; decide, by decide, ?_⟩
  decide +kernel

end Desktop.View
