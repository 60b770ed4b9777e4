import InvenTory.Domain.Ledger
import Mathlib.Algebra.BigOperators.Group.List.Basic

/-!
# The projections of the ledger

`Counts` says which events a projection adds up, and `share` what one of them adds: a projection is the
sum of the shares (`projectBalance_eq`), and a balance by store the tally of the counted events
(`projectBalancesByStore_eq`). From it:

* `projections_agree`: the two projections and the total, under any order and any split.
* `nonneg_of_strict`: in a history of strict mode no key is ever negative.
* `projectBalance_reversal_iff`: when a reversal cancels its original.
-/

namespace Domain

open Relational

variable {T : Type}

/-! ## What a projection adds up -/

/-- The event has what the filters ask for. -/
def Selects (storeId productId : Option String) (stockBucket : Option StockBucket)
    (event : InventoryTransaction T) : Prop :=
  (∀ s ∈ storeId, event.storeId = s) ∧ (∀ p ∈ productId, event.productId = p) ∧
    ∀ b ∈ stockBucket, event.stockBucket = b

instance (storeId productId : Option String) (stockBucket : Option StockBucket) :
    DecidablePred (Selects (T := T) storeId productId stockBucket) := fun event =>
  inferInstanceAs (Decidable ((∀ s ∈ storeId, event.storeId = s) ∧
    (∀ p ∈ productId, event.productId = p) ∧ ∀ b ∈ stockBucket, event.stockBucket = b))

/-- The projection with these filters counts the event. -/
def Counts (storeId productId : Option String) (stockBucket : Option StockBucket)
    (event : InventoryTransaction T) : Prop :=
  event.syncStatus ≠ .rejected ∧ Selects storeId productId stockBucket event

instance (storeId productId : Option String) (stockBucket : Option StockBucket) :
    DecidablePred (Counts (T := T) storeId productId stockBucket) := fun event =>
  inferInstanceAs (Decidable (event.syncStatus ≠ .rejected ∧
    Selects storeId productId stockBucket event))

/-- What the event adds to the projection. -/
def share (storeId productId : Option String) (stockBucket : Option StockBucket)
    (event : InventoryTransaction T) : Int :=
  if Counts storeId productId stockBucket event then event.quantityDelta else 0

variable {storeId productId : Option String} {stockBucket : Option StockBucket}
variable {events : List (InventoryTransaction T)} {event transaction : InventoryTransaction T}

theorem any_ne_iff {α : Type} [DecidableEq α] {o : Option α} {a : α} :
    o.any (a ≠ ·) = true ↔ ¬∀ b ∈ o, a = b := by
  cases o <;> simp

/-- One turn of the loop of `projectBalance`. -/
theorem turn_eq (total : Int) :
    (if event.syncStatus = .rejected then total
      else if storeId.any (event.storeId ≠ ·) then total
      else if productId.any (event.productId ≠ ·) then total
      else if stockBucket.any (event.stockBucket ≠ ·) then total
      else total + event.quantityDelta) = total + share storeId productId stockBucket event := by
  simp only [any_ne_iff, share, Counts, Selects]
  split_ifs <;> simp_all

theorem projectBalance_eq :
    projectBalance events storeId productId stockBucket =
      (events.map (share storeId productId stockBucket)).sum := by
  unfold projectBalance
  simp only [turn_eq]
  rw [List.sum_eq_foldl, List.foldl_map]

@[simp] theorem projectBalance_nil :
    projectBalance ([] : List (InventoryTransaction T)) storeId productId stockBucket = 0 := rfl

theorem projectBalance_append (xs ys : List (InventoryTransaction T)) :
    projectBalance (xs ++ ys) storeId productId stockBucket =
      projectBalance xs storeId productId stockBucket +
        projectBalance ys storeId productId stockBucket := by
  simp only [projectBalance_eq, List.map_append, List.sum_append]

theorem projectBalance_cons (event : InventoryTransaction T) (events : List (InventoryTransaction T)) :
    projectBalance (event :: events) storeId productId stockBucket =
      share storeId productId stockBucket event +
        projectBalance events storeId productId stockBucket := by
  simp only [projectBalance_eq, List.map_cons, List.sum_cons]

theorem projectBalance_concat (events : List (InventoryTransaction T)) (event : InventoryTransaction T) :
    projectBalance (events ++ [event]) storeId productId stockBucket =
      projectBalance events storeId productId stockBucket +
        share storeId productId stockBucket event := by
  rw [projectBalance_append, projectBalance_cons, projectBalance_nil, add_zero]

theorem projectBalance_perm {events' : List (InventoryTransaction T)} (h : events'.Perm events) :
    projectBalance events' storeId productId stockBucket =
      projectBalance events storeId productId stockBucket := by
  rw [projectBalance_eq, projectBalance_eq, (h.map _).sum_eq]

/-! ## By store -/

/-- A filter on the store splits off from the others. -/
theorem counts_store {s : String} : Counts (some s) productId stockBucket event ↔
    Counts none productId stockBucket event ∧ event.storeId = s := by
  simp [Counts, Selects]
  tauto

/-- The balances by store are the tally of the counted events. -/
theorem projectBalancesByStore_eq : projectBalancesByStore events productId stockBucket =
    Tally.addAll (·.storeId) (·.quantityDelta)
      (events.filter fun event => Counts none productId stockBucket event) ∅ := by
  have hturn : ∀ (storeBalances : Tally String Int) (event : InventoryTransaction T),
      (if event.syncStatus = .rejected then storeBalances
        else if productId.any (event.productId ≠ ·) then storeBalances
        else if stockBucket.any (event.stockBucket ≠ ·) then storeBalances
        else storeBalances.put ⟨event.storeId, storeBalances.of event.storeId + event.quantityDelta⟩) =
      if Counts none productId stockBucket event then
        storeBalances.add event.storeId event.quantityDelta else storeBalances := fun m event => by
    simp only [any_ne_iff, Counts, Selects, Tally.add]
    split_ifs <;> simp_all
  unfold projectBalancesByStore Tally.addAll
  simp only [hturn]
  rw [List.foldl_filter]
  simp

theorem sum_filter_counts (events : List (InventoryTransaction T)) :
    ((events.filter fun event => Counts storeId productId stockBucket event).map
      (·.quantityDelta)).sum = projectBalance events storeId productId stockBucket := by
  rw [projectBalance_eq]
  induction events with
  | nil => rfl
  | cons event events ih =>
    rw [List.filter_cons, List.map_cons, List.sum_cons, ← ih]
    by_cases h : Counts storeId productId stockBucket event <;> simp [share, h]

theorem of_projectBalancesByStore (s : String) :
    (projectBalancesByStore events productId stockBucket).of s =
      projectBalance events (some s) productId stockBucket := by
  rw [projectBalancesByStore_eq, Tally.of_addAll, Tally.of_empty, zero_add, List.filter_filter,
    ← sum_filter_counts]
  simp only [counts_store, Bool.decide_and, Bool.and_comm]

theorem sum_projectBalancesByStore :
    (projectBalancesByStore events productId stockBucket).sum =
      projectGlobalBalance events productId stockBucket := by
  rw [projectBalancesByStore_eq, Tally.sum_addAll, Tally.sum_empty, zero_add, sum_filter_counts]
  rfl

/-- The stores with an entry are those of the counted events. -/
theorem mem_stores {s : String} :
    s ∈ (projectBalancesByStore events productId stockBucket).rows.map Amount.key ↔
      ∃ event ∈ events, Counts none productId stockBucket event ∧ event.storeId = s := by
  rw [projectBalancesByStore_eq, Tally.mem_keys_addAll]
  simp [and_assoc]

/-- **The two projections and the total agree**, and none of them sees the order of the events or a split
of them. -/
theorem projections_agree (events : List (InventoryTransaction T)) (productId : Option String)
    (stockBucket : Option StockBucket) :
    (∀ s, (projectBalancesByStore events productId stockBucket).of s =
      projectBalance events (some s) productId stockBucket) ∧
    (projectBalancesByStore events productId stockBucket).sum =
      projectGlobalBalance events productId stockBucket ∧
    (∀ events' : List (InventoryTransaction T), events'.Perm events →
      (∀ storeId, projectBalance events' storeId productId stockBucket =
        projectBalance events storeId productId stockBucket) ∧
      (∀ s, (projectBalancesByStore events' productId stockBucket).get? s =
        (projectBalancesByStore events productId stockBucket).get? s) ∧
      projectGlobalBalance events' productId stockBucket =
        projectGlobalBalance events productId stockBucket) ∧
    ∀ xs ys : List (InventoryTransaction T), events.Perm (xs ++ ys) →
      (∀ storeId, projectBalance events storeId productId stockBucket =
        projectBalance xs storeId productId stockBucket +
          projectBalance ys storeId productId stockBucket) ∧
      (∀ s, (projectBalancesByStore events productId stockBucket).of s =
          (projectBalancesByStore xs productId stockBucket).of s +
            (projectBalancesByStore ys productId stockBucket).of s ∧
        (s ∈ (projectBalancesByStore events productId stockBucket).rows.map Amount.key ↔
          s ∈ (projectBalancesByStore xs productId stockBucket).rows.map Amount.key ∨
          s ∈ (projectBalancesByStore ys productId stockBucket).rows.map Amount.key)) ∧
      projectGlobalBalance events productId stockBucket =
        projectGlobalBalance xs productId stockBucket +
          projectGlobalBalance ys productId stockBucket := by
  refine ⟨of_projectBalancesByStore, sum_projectBalancesByStore, fun events' h => ?_,
    fun xs ys h => ?_⟩
  · refine ⟨fun _ => projectBalance_perm h, fun s => Tally.get?_congr ?_ ?_,
      projectBalance_perm h⟩
    · rw [of_projectBalancesByStore, of_projectBalancesByStore, projectBalance_perm h]
    · rw [mem_stores, mem_stores]
      simp only [h.mem_iff]
  · have hsplit : ∀ storeId, projectBalance events storeId productId stockBucket =
        projectBalance xs storeId productId stockBucket +
          projectBalance ys storeId productId stockBucket := fun storeId => by
      rw [projectBalance_perm h, projectBalance_append]
    refine ⟨hsplit, fun s => ⟨?_, ?_⟩, hsplit none⟩
    · simp only [of_projectBalancesByStore]
      exact hsplit (some s)
    · simp only [mem_stores, h.mem_iff, List.mem_append, or_and_right, exists_or]

/-! ## Strict mode -/

/-- The check passes if the new event leaves its own key in stock. -/
theorem validateTransaction_ok {history : List (InventoryTransaction T)}
    (h : validateTransaction transaction history true = .ok ()) :
    0 ≤ projectBalance (history ++ [transaction]) (some transaction.storeId)
      (some transaction.productId) (some transaction.stockBucket) := by
  simp only [validateTransaction, Bool.not_true, Bool.false_eq_true, if_false] at h
  split at h
  · cases h
  · omega

/-- An event changes no key but its own. -/
theorem share_other {s p : String} {b : StockBucket}
    (h : ¬(event.storeId = s ∧ event.productId = p ∧ event.stockBucket = b)) :
    share (some s) (some p) (some b) event = 0 :=
  if_neg fun hc => h ⟨hc.2.1 s rfl, hc.2.2.1 p rfl, hc.2.2.2 b rfl⟩

/-- A history to which every event was added after it had passed the check. -/
inductive StrictHistory : List (InventoryTransaction T) → Prop
  | empty : StrictHistory []
  | append {history : List (InventoryTransaction T)} {transaction : InventoryTransaction T} :
    StrictHistory history → validateTransaction transaction history true = .ok () →
    StrictHistory (history ++ [transaction])

/-- Every key is in stock. -/
def InStock (history : List (InventoryTransaction T)) : Prop :=
  ∀ s p b, 0 ≤ projectBalance history (some s) (some p) (some b)

theorem InStock.append {history : List (InventoryTransaction T)} (hi : InStock history)
    (h : validateTransaction transaction history true = .ok ()) :
    InStock (history ++ [transaction]) := by
  intro s p b
  by_cases hkey : transaction.storeId = s ∧ transaction.productId = p ∧ transaction.stockBucket = b
  · obtain ⟨rfl, rfl, rfl⟩ := hkey
    exact validateTransaction_ok h
  · rw [projectBalance_concat, share_other hkey, add_zero]
    exact hi s p b

theorem StrictHistory.inStock {history : List (InventoryTransaction T)} (h : StrictHistory history) :
    InStock history := by
  induction h with
  | empty => exact fun s p b => le_refl 0
  | append _ hv ih => exact ih.append hv

/-- What was there before the last events passed the check too. -/
theorem StrictHistory.of_prefix {history earlier : List (InventoryTransaction T)}
    (h : StrictHistory history) (hp : earlier <+: history) : StrictHistory earlier := by
  induction h with
  | empty => rw [List.prefix_nil.1 hp]; exact .empty
  | append hh hv ih =>
    rcases List.prefix_concat_iff.1 hp with rfl | hp
    · exact .append hh hv
    · exact ih hp

/-- **Strict mode keeps every key in stock**, at every step of the history. -/
theorem nonneg_of_strict {history earlier : List (InventoryTransaction T)}
    (h : StrictHistory history) (hp : earlier <+: history) (storeId productId : String)
    (stockBucket : StockBucket) :
    0 ≤ projectBalance earlier (some storeId) (some productId) (some stockBucket) :=
  (h.of_prefix hp).inStock storeId productId stockBucket

/-- A movement of one product in one store. -/
def delivered (movementType : MovementType) (quantityDelta : Int) (syncStatus : SyncStatus) :
    InventoryTransaction Nat where
  storeId := "store-a"
  productId := "hisense-120l"
  movementType
  quantityDelta
  occurredAt := 0
  userId := "u1"
  deviceId := "d1"
  transactionId := "tx-" ++ toString quantityDelta
  recordedAt := 0
  syncStatus

theorem delivered_inStock :
    0 ≤ projectBalance [delivered .receipt 10 .accepted, delivered .sale (-4) .pending]
      (some "store-a") (some "hisense-120l") (some .available) :=
  nonneg_of_strict
    (.append (.append (.append .empty
      (rfl : validateTransaction (delivered .receipt 10 .accepted) [] true = .ok ()))
      (rfl : validateTransaction (delivered .sale (-4) .pending) [delivered .receipt 10 .accepted] true =
        .ok ()))
      (rfl : validateTransaction (delivered .sale (-1) .rejected)
        [delivered .receipt 10 .accepted, delivered .sale (-4) .pending] true = .ok ()))
    ⟨[delivered .sale (-1) .rejected], rfl⟩ _ _ _

/-! ## Corrections -/

/-- A reversal is pending: it counts under the filters of its original, whatever the status of that. -/
theorem share_createReversal (fresh : Factories T) (o : InventoryTransaction T) (reason : String)
    (userId deviceId : Option String) (occurredAt : Option T) :
    share storeId productId stockBucket
        (createReversal fresh o reason userId deviceId occurredAt) =
      if Selects storeId productId stockBucket o then -o.quantityDelta else 0 := by
  simp [share, Counts, createReversal, Selects]

/-- **A reversal cancels its original** unless that was rejected, had a quantity and is one the filters
select: then the projection never counted it. -/
theorem projectBalance_reversal_iff (fresh : Factories T) (before after later : List (InventoryTransaction T))
    (o : InventoryTransaction T) (reason : String) (userId deviceId : Option String)
    (occurredAt : Option T) (storeId productId : Option String) (stockBucket : Option StockBucket) :
    projectBalance (before ++ o :: after ++
        createReversal fresh o reason userId deviceId occurredAt :: later)
        storeId productId stockBucket =
      projectBalance (before ++ after ++ later) storeId productId stockBucket ↔
    o.syncStatus ≠ .rejected ∨ o.quantityDelta = 0 ∨ ¬Selects storeId productId stockBucket o := by
  simp only [projectBalance_append, projectBalance_cons, share_createReversal]
  by_cases hsel : Selects storeId productId stockBucket o
  · by_cases hr : o.syncStatus = .rejected
    · have ho : share storeId productId stockBucket o = 0 := if_neg fun hc => hc.1 hr
      simp only [ho, hsel, hr, if_true, ne_eq, not_true_eq_false, false_or, or_false]
      omega
    · have ho : share storeId productId stockBucket o = o.quantityDelta := if_pos ⟨hr, hsel⟩
      simp only [ho, hsel, hr, if_true, ne_eq, not_false_eq_true, true_or, iff_true]
      omega
  · have ho : share storeId productId stockBucket o = 0 := if_neg fun hc => hsel hc.2
    simp only [ho, hsel, if_false, not_false_eq_true, or_true, iff_true]
    omega

/-- The reversal of a sale that was rejected puts the goods in stock that never left it. -/
theorem rejected_sale_reversal :
    projectBalance ([] ++ delivered .sale (-4) .rejected :: [] ++
        createReversal ⟨"tx-rev", 1, 1⟩ (delivered .sale (-4) .rejected) "Wrong product" none none none ::
          [])
        (some "store-a") (some "hisense-120l") (some .available) = 4 ∧
      projectBalance ([] ++ [] ++ [] : List (InventoryTransaction Nat)) (some "store-a")
        (some "hisense-120l") (some .available) = 0 := by
  decide +kernel

/-- The adjustment of a count brings the available stock to what was counted. -/
theorem projectBalance_adjustment {fresh : Factories T} {history : List (InventoryTransaction T)}
    {s p reason userId deviceId : String} {counted : Int} {occurredAt : Option T}
    {countReference : Option String} {adjustment : InventoryTransaction T}
    (h : createAdjustmentTransaction fresh s p
      (projectBalance history (some s) (some p) (some .available)) counted reason userId deviceId
      occurredAt countReference = .ok adjustment) :
    projectBalance (history ++ [adjustment]) (some s) (some p) (some .available) = counted := by
  unfold createAdjustmentTransaction at h
  split at h
  · cases h
  · cases h
    rw [projectBalance_concat]
    simp [share, Counts, Selects]

end Domain
