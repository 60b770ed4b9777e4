import InvenTory.Desktop.Proof.Plans

/-!
# What a command plans

`Planned clk d cmd xs` lists the steps `xs` that `cmd` may go on to once its checks have passed in `d`,
with what the checks have found: that a balance covers what is taken from it (`Movement.Covered`),
the status of a transfer, the row that is corrected. A command plans nothing else
(`Command.planned`).
-/

namespace Desktop

open Relational Sql Sql.Prog
open Server (StockKey)

/-- If the balance of `m` is not negative, it is not after `m`. -/
def Movement.Covered (m : Movement) (d : Db) : Prop :=
  0 ≤ d.quantity m.stock → 0 ≤ d.quantity m.stock + m.quantityDelta.toInt

/-- `m` adds `delta` to the stock of a store, for the transfer `t`. -/
structure Movement.Carries (m : Movement) (t : Transfer) (storeId : String) (delta : Int32) :
    Prop where
  stock : m.stock = available storeId t.productId
  delta : m.quantityDelta = delta
  transfer : m.transferId = some t.id

/-- The statuses of a transfer that is on its way. -/
def onTheWay : List String := ["DISPATCHED", "EXCEPTION"]

/-- The command works on a transfer. -/
def Command.onTransfer : Command → Bool
  | .createTransfer _ | .dispatchTransfer _ _ _ | .receiveTransfer _ _ _ | .cancelTransfer _ _ _ => true
  | _ => false

inductive Planned (clk : Clock) (d : Db) : Command → List Step → Prop
  | record {cmd : Command} {m : Movement} {labels : Labels} {outboxId : String}
      (hcmd : cmd.onTransfer = false) (hm : m.Covered d) :
    Planned clk d cmd (m.steps labels outboxId clk.now)
  | move {cmd : Command} {out into : Movement} (hcmd : cmd.onTransfer = false)
      (hout : out.Covered d) (hin : 0 ≤ into.quantityDelta.toInt) :
    Planned clk d cmd (moveSteps out into clk)
  | create {input : CreateTransferInput} (hq : 0 < input.quantity) :
    Planned clk d (.createTransfer input) [createStep clk input]
  | dispatch {t : Transfer} {user device : String} {m : Movement} {labels : Labels}
      {outboxId : String} (ht : d.transfers.get? t.id = some t) (hs : t.status = "DRAFT")
      (hm : m.Carries t t.sourceStoreId (-t.quantity)) (hc : 0 < t.quantity → m.Covered d) :
    Planned clk d (.dispatchTransfer t.id user device)
      (statusStep t.id "DISPATCHED" clk.now :: m.steps labels outboxId clk.now)
  | receive {t : Transfer} {user device : String} {m : Movement} {labels : Labels}
      {outboxId : String} (ht : d.transfers.get? t.id = some t) (hs : t.status ∈ onTheWay)
      (hm : m.Carries t t.destinationStoreId t.quantity) :
    Planned clk d (.receiveTransfer t.id user device)
      (statusStep t.id "RECEIVED" clk.now :: m.steps labels outboxId clk.now)
  | restock {t : Transfer} {user device : String} {m : Movement} {labels : Labels}
      {outboxId : String} (ht : d.transfers.get? t.id = some t) (hs : t.status ∈ onTheWay)
      (hm : m.Carries t t.sourceStoreId t.quantity) :
    Planned clk d (.cancelTransfer t.id user device)
      (m.steps labels outboxId clk.now ++ [statusStep t.id "CANCELLED" clk.now])
  | cancel {t : Transfer} {user device : String} (ht : d.transfers.get? t.id = some t)
      (hs : t.status ∉ ["RECEIVED", "CANCELLED"]) (hw : t.status ∉ onTheWay) :
    Planned clk d (.cancelTransfer t.id user device) [statusStep t.id "CANCELLED" clk.now]
  | update {input : UpdateTransactionInput} {old : InventoryTransaction} {q : Int32}
      (ht : d.transactions.get? input.transactionId = some old)
      (hq : Db.readI32 old.quantityDelta = some q) :
    Planned clk d (.updateTransaction input)
      (updateSteps clk input old (input.quantityDelta - q))
  | absent {id : String} (ht : d.transactions.get? id = none) :
    Planned clk d (.deleteTransaction id) []
  | delete {r : InventoryTransaction} {q : Int32}
      (ht : d.transactions.get? r.transactionId = some r)
      (hq : Db.readI32 r.quantityDelta = some q) :
    Planned clk d (.deleteTransaction r.transactionId) (deleteSteps clk r.transactionId r q)

/-! ## What the checks find -/

section
variable {q : Int32} {d d1 : Db} {k : StockKey} {m : Movement}

theorem toInt_neg_of_pos (h : 0 < q) : (-q).toInt = -q.toInt := by
  have hpos := Int32.lt_iff_toInt_lt.1 h
  have hlt := q.toInt_lt
  rw [Int32.toInt_neg]
  exact Int.bmod_eq_of_le (by simp at *; omega) (by simp at *; omega)

/-- A quantity that does not fit an `i32` is read as 0. -/
theorem readBalance_cases (d : Db) (k : StockKey) :
    (d.readBalance k).toInt = d.quantity k ∨ d.readBalance k = 0 := by
  unfold Db.readBalance Db.quantity
  cases d.balances.get? k with
  | none => exact .inr rfl
  | some b =>
    rw [Option.bind_some, Db.readI32]
    split
    · rename_i h
      exact .inl (Int32.toInt_ofInt_of_le h.1 h.2)
    · exact .inr rfl

theorem quantity_of_le (hq : 0 < q) (h : q ≤ d.readBalance k ∨ q ≤ 0) :
    q.toInt ≤ d.quantity k := by
  have hpos := Int32.lt_iff_toInt_lt.1 hq
  have hle : q ≤ d.readBalance k := by
    rcases h with h | h
    · exact h
    · exact absurd (Int32.le_iff_toInt_le.1 h) (not_le.2 hpos)
  rcases readBalance_cases d k with hr | hr
  · rw [← hr]
    exact Int32.le_iff_toInt_le.1 hle
  · rw [hr] at hle
    exact absurd (Int32.le_iff_toInt_le.1 hle) (not_le.2 hpos)

theorem Movement.covered_of_nonneg (h : 0 ≤ m.quantityDelta.toInt) : m.Covered d :=
  fun hd => add_nonneg hd h

theorem Movement.covered_of_pos (h : 0 < m.quantityDelta) : m.Covered d :=
  covered_of_nonneg (le_of_lt (Int32.lt_iff_toInt_lt.1 h))

/-- The balance holds what is taken. -/
theorem Movement.covered_of_le (hm : m.quantityDelta = -q) (hq : 0 < q)
    (h : q ≤ d.readBalance m.stock ∨ q ≤ 0) : m.Covered d := by
  intro _
  have hle := quantity_of_le hq h
  rw [hm, toInt_neg_of_pos hq]
  omega

theorem Movement.Covered.same (h : m.Covered d) (hs : SameStock d d1) : m.Covered d1 := by
  unfold Movement.Covered
  rw [quantity_congr hs.balances]
  exact h

/-- A balance that does not become negative as an `i32` does not as a number. -/
theorem covered_of_adjustable (hm : m.quantityDelta = q) (hq : q < 0)
    (h : 0 ≤ d.readBalance m.stock + q ∨ 0 ≤ q) : m.Covered d := by
  intro hd
  have hneg := Int32.lt_iff_toInt_lt.1 hq
  have hge := q.le_toInt
  rcases h with h | h
  · have h := Int32.le_iff_toInt_le.1 h
    rw [Int32.toInt_add] at h
    have hread := (d.readBalance m.stock).toInt_lt
    rw [hm]
    rcases readBalance_cases d m.stock with hr | hr
    · rw [hr] at h hread
      rw [Int.bmod_eq_of_le (by simp at *; omega) (by simp at *; omega)] at h
      exact h
    · rw [hr, Int.bmod_eq_of_le (by simp at *; omega) (by simp at *; omega)] at h
      have h : 0 ≤ 0 + q.toInt := h
      simp at hneg
      omega
  · exact absurd (Int32.le_iff_toInt_le.1 h) (not_le.2 hneg)

end

/-! ## The commands one by one -/

section
variable {F : String → Prop} {rs : Rust} {clk : Clock} {d d1 : Db} {xs : List Step} {cmd : Command}

theorem ensureForeignKeysExist_same {user device store product : String} {u : Except String Unit}
    (h : (ensureForeignKeysExist user device store product).Yields F d u d1) : SameTables d d1 :=
  within_ensureForeignKeysExist user device store product F d u d1 h

theorem receiveStock_planned {input : ReceiveStockInput}
    (h : (receiveStock.staged clk input).plan.Yields F d (.ok xs) d1) :
    Planned clk d1 (.receiveStock input) xs := by
  simp only [receiveStock.staged, Staged.plan] at h
  obtain ⟨hq, h⟩ := yields_require_bind h
  obtain ⟨_, d2, -, h⟩ := yields_bind_ok h
  obtain ⟨he, -⟩ := yields_pure h
  cases he
  exact .record rfl (Movement.covered_of_pos hq)

theorem sellStock_planned {input : SellStockInput}
    (h : (sellStock.staged clk input).plan.Yields F d (.ok xs) d1) :
    Planned clk d1 (.sellStock input) xs := by
  simp only [sellStock.staged, Staged.plan] at h
  obtain ⟨hq, h⟩ := yields_require_bind h
  obtain ⟨-, h⟩ := yields_require_bind h
  obtain ⟨_, d2, -, h⟩ := yields_bind_ok h
  obtain ⟨_, d3, h3, h4⟩ := yields_bind_ok h
  obtain ⟨rfl, hheld⟩ := requireStock_ok h3
  obtain ⟨he, rfl⟩ := yields_pure h4
  cases he
  exact .record rfl (Movement.covered_of_le rfl hq hheld)

theorem returnStock_planned {input : ReturnStockInput}
    (h : (returnStock.staged rs clk input).plan.Yields F d (.ok xs) d1) :
    Planned clk d1 (.returnStock input) xs := by
  simp only [returnStock.staged, Staged.plan] at h
  obtain ⟨hq, h⟩ := yields_require_bind h
  obtain ⟨-, h⟩ := yields_require_bind h
  obtain ⟨-, h⟩ := yields_require_bind h
  obtain ⟨_, d2, h2, h⟩ := yields_bind_ok h
  obtain ⟨_, d3, h3, h⟩ := yields_bind_ok h
  obtain ⟨he, rfl⟩ := yields_pure h
  cases he
  refine .record rfl ?_
  rcases yields_onlyIf_ok h2 with ⟨hne, h2⟩ | ⟨heq, -⟩
  · obtain ⟨rfl, hheld⟩ := requireStock_ok h2
    refine Movement.Covered.same ?_ (ensureForeignKeysExist_same h3).toSameStock
    exact Movement.covered_of_le (if_neg hne) hq hheld
  · refine Movement.covered_of_pos ?_
    show 0 < ite _ _ _
    rw [if_pos (not_not.1 heq)]
    exact hq

theorem moveStockBucket_planned {input : MoveStockBucketInput}
    (h : (moveStockBucket.staged rs clk input).plan.Yields F d (.ok xs) d1) :
    Planned clk d1 (.moveStockBucket input) xs := by
  simp only [moveStockBucket.staged, Staged.plan] at h
  obtain ⟨hq, h⟩ := yields_require_bind h
  obtain ⟨-, h⟩ := yields_require_bind h
  obtain ⟨-, h⟩ := yields_require_bind h
  obtain ⟨-, h⟩ := yields_require_bind h
  obtain ⟨_, d2, h2, h'⟩ := yields_bind_ok h
  obtain ⟨rfl, hheld⟩ := requireStock_ok h2
  obtain ⟨_, d3, h3, h4⟩ := yields_bind_ok h'
  obtain ⟨he, rfl⟩ := yields_pure h4
  cases he
  refine .move rfl (Movement.Covered.same ?_ (ensureForeignKeysExist_same h3).toSameStock)
    (le_of_lt (Int32.lt_iff_toInt_lt.1 hq))
  exact Movement.covered_of_le rfl hq hheld

theorem adjustStock_planned {input : AdjustStockInput}
    (h : (adjustStock.staged rs clk input).plan.Yields F d (.ok xs) d1) :
    Planned clk d1 (.adjustStock input) xs := by
  simp only [adjustStock.staged, Staged.plan] at h
  obtain ⟨-, h⟩ := yields_require_bind h
  obtain ⟨_, d2, h2, h⟩ := yields_bind_ok h
  obtain ⟨_, d3, h3, h⟩ := yields_bind_ok h
  obtain ⟨he, rfl⟩ := yields_pure h
  cases he
  refine .record rfl ?_
  rcases yields_onlyIf_ok h2 with ⟨hneg, h2⟩ | ⟨hpos, -⟩
  · obtain ⟨rfl, hheld⟩ := requireAdjustable_ok h2
    refine Movement.Covered.same ?_ (ensureForeignKeysExist_same h3).toSameStock
    exact covered_of_adjustable rfl hneg hheld
  · refine Movement.covered_of_nonneg (not_lt.1 fun hneg => hpos ?_)
    exact Int32.lt_iff_toInt_lt.2 hneg

theorem createTransfer_planned {input : CreateTransferInput}
    (h : (createTransfer.staged clk input).plan.Yields F d (.ok xs) d1) :
    Planned clk d1 (.createTransfer input) xs := by
  simp only [createTransfer.staged, Staged.plan] at h
  obtain ⟨hq, h⟩ := yields_require_bind h
  obtain ⟨-, h⟩ := yields_require_bind h
  obtain ⟨_, d2, -, h⟩ := yields_bind_ok h
  obtain ⟨_, d3, -, h⟩ := yields_bind_ok h
  obtain ⟨he, -⟩ := yields_pure h
  cases he
  exact .create hq

theorem selectTransfer_row {id : String} {t : Transfer}
    (h : (selectTransfer id).Yields F d (.ok t) d1) :
    d1 = d ∧ t.id = id ∧ d.transfers.get? t.id = some t := by
  have h := yields_query_bind h
  split at h
  · rename_i t' ht
    obtain ⟨he, rfl⟩ := yields_pure h
    cases he
    have hid : t.id = id := Table.key_of_get? ht
    exact ⟨rfl, hid, hid ▸ ht⟩
  · cases (yields_throw h).1

theorem dispatchTransfer_planned {id user device : String}
    (h : (dispatchTransfer.staged clk id user device).plan.Yields F d (.ok xs) d1) :
    Planned clk d1 (.dispatchTransfer id user device) xs := by
  simp only [dispatchTransfer.staged, Staged.plan] at h
  obtain ⟨t, d2, h2, h'⟩ := yields_bind_ok h
  obtain ⟨rfl, rfl, ht⟩ := selectTransfer_row h2
  obtain ⟨hs, h'⟩ := yields_require_bind h'
  obtain ⟨_, d3, h3, h4⟩ := yields_bind_ok h'
  obtain ⟨rfl, hheld⟩ := requireStock_ok h3
  obtain ⟨_, d4, h5, h6⟩ := yields_bind_ok h4
  obtain ⟨he, rfl⟩ := yields_pure h6
  cases he
  have hsame := ensureForeignKeysExist_same h5
  refine .dispatch (hsame.transfers ▸ ht) hs ⟨rfl, rfl, rfl⟩ fun hq => ?_
  refine Movement.Covered.same ?_ hsame.toSameStock
  exact Movement.covered_of_le rfl hq hheld

theorem receiveTransfer_planned {id user device : String}
    (h : (receiveTransfer.staged clk id user device).plan.Yields F d (.ok xs) d1) :
    Planned clk d1 (.receiveTransfer id user device) xs := by
  simp only [receiveTransfer.staged, Staged.plan] at h
  obtain ⟨t, d2, h2, h'⟩ := yields_bind_ok h
  obtain ⟨rfl, rfl, ht⟩ := selectTransfer_row h2
  obtain ⟨hs, h'⟩ := yields_require_bind h'
  obtain ⟨_, d3, h3, h4⟩ := yields_bind_ok h'
  obtain ⟨he, rfl⟩ := yields_pure h4
  cases he
  exact .receive ((ensureForeignKeysExist_same h3).transfers ▸ ht) hs ⟨rfl, rfl, rfl⟩

theorem cancelTransfer_planned {id user device : String}
    (h : (cancelTransfer.staged clk id user device).plan.Yields F d (.ok xs) d1) :
    Planned clk d1 (.cancelTransfer id user device) xs := by
  simp only [cancelTransfer.staged, Staged.plan] at h
  obtain ⟨t, d2, h2, h'⟩ := yields_bind_ok h
  obtain ⟨rfl, rfl, ht⟩ := selectTransfer_row h2
  obtain ⟨hs, h'⟩ := yields_require_bind h'
  obtain ⟨_, d3, h3, h4⟩ := yields_bind_ok h'
  obtain ⟨he, rfl⟩ := yields_pure h4
  cases he
  have ht' : d1.transfers.get? t.id = some t := (ensureForeignKeysExist_same h3).transfers ▸ ht
  by_cases hw : t.status ∈ ["DISPATCHED", "EXCEPTION"]
  · rw [if_pos hw]
    exact .restock ht' hw ⟨rfl, rfl, rfl⟩
  · rw [if_neg hw]
    exact .cancel ht' hs hw

theorem updateTransaction_plan {input : UpdateTransactionInput}
    (h : (updateTransaction.staged clk input).plan.Yields F d (.ok xs) d1) :
    ∃ old q, d1.transactions.get? input.transactionId = some old ∧
      Db.readI32 old.quantityDelta = some q ∧
        xs = updateSteps clk input old (input.quantityDelta - q) := by
  simp only [updateTransaction.staged, Staged.plan] at h
  obtain ⟨row, d2, h2, h3⟩ := yields_bind_ok h
  obtain ⟨rfl, ⟨rfl, -⟩ | ⟨r, q, rfl, hr, hq⟩⟩ := selectTransaction_ok h2
  · cases (yields_throw h3).1
  · obtain ⟨-, h4⟩ := yields_require_bind h3
    obtain ⟨he, rfl⟩ := yields_pure h4
    cases he
    exact ⟨r, q, hr, hq, rfl⟩

theorem updateTransaction_planned {input : UpdateTransactionInput}
    (h : (updateTransaction.staged clk input).plan.Yields F d (.ok xs) d1) :
    Planned clk d1 (.updateTransaction input) xs := by
  obtain ⟨r, q, hr, hq, rfl⟩ := updateTransaction_plan h
  exact .update hr hq

theorem deleteTransaction_plan {id : String}
    (h : (deleteTransaction.staged clk id).plan.Yields F d (.ok xs) d1) :
    d1.transactions.get? id = none ∧ xs = [] ∨
      ∃ r q, r.transactionId = id ∧ d1.transactions.get? id = some r ∧
        Db.readI32 r.quantityDelta = some q ∧ xs = deleteSteps clk id r q := by
  simp only [deleteTransaction.staged, Staged.plan] at h
  obtain ⟨row, d2, h2, h3⟩ := yields_bind_ok h
  obtain ⟨rfl, ⟨rfl, hn⟩ | ⟨r, q, rfl, hr, hq⟩⟩ := selectTransaction_ok h2
  · obtain ⟨he, rfl⟩ := yields_pure h3
    cases he
    exact .inl ⟨hn, rfl⟩
  · obtain ⟨he, rfl⟩ := yields_pure h3
    cases he
    exact .inr ⟨r, q, Table.key_of_get? hr, hr, hq, rfl⟩

theorem deleteTransaction_planned {id : String}
    (h : (deleteTransaction.staged clk id).plan.Yields F d (.ok xs) d1) :
    Planned clk d1 (.deleteTransaction id) xs := by
  rcases deleteTransaction_plan h with ⟨hn, rfl⟩ | ⟨r, q, rfl, hr, hq, rfl⟩
  · exact .absent hn
  · exact .delete hr hq

/-- The checks change no table that the steps write. -/
theorem Command.plan_same {r : Except String (List Step)}
    (h : (cmd.plan rs clk).Yields F d r d1) : SameTables d d1 := by
  have hwithin : ∀ {α : Type} {tx : Bool} {p : Prog String Db α}
      (x : Staged SameTables Step.write tx p), Within SameTables x.plan :=
    fun x => x.plan_within SameTables.refl SameTables.trans
  cases cmd with
  | receiveStock input => exact hwithin (receiveStock.staged clk input) F d r d1 h
  | sellStock input => exact hwithin (sellStock.staged clk input) F d r d1 h
  | returnStock input => exact hwithin (returnStock.staged rs clk input) F d r d1 h
  | moveStockBucket input => exact hwithin (moveStockBucket.staged rs clk input) F d r d1 h
  | adjustStock input => exact hwithin (adjustStock.staged rs clk input) F d r d1 h
  | createTransfer input => exact hwithin (createTransfer.staged clk input) F d r d1 h
  | dispatchTransfer t user device =>
    exact hwithin (dispatchTransfer.staged clk t user device) F d r d1 h
  | receiveTransfer t user device =>
    exact hwithin (receiveTransfer.staged clk t user device) F d r d1 h
  | cancelTransfer t user device =>
    exact hwithin (cancelTransfer.staged clk t user device) F d r d1 h
  | updateTransaction input => exact hwithin (updateTransaction.staged clk input) F d r d1 h
  | deleteTransaction t => exact hwithin (deleteTransaction.staged clk t) F d r d1 h

/-- **What a command may plan.** -/
theorem Command.planned (h : (cmd.plan rs clk).Yields F d (.ok xs) d1) : Planned clk d1 cmd xs := by
  cases cmd with
  | receiveStock input => exact receiveStock_planned h
  | sellStock input => exact sellStock_planned h
  | returnStock input => exact returnStock_planned h
  | moveStockBucket input => exact moveStockBucket_planned h
  | adjustStock input => exact adjustStock_planned h
  | createTransfer input => exact createTransfer_planned h
  | dispatchTransfer t user device => exact dispatchTransfer_planned h
  | receiveTransfer t user device => exact receiveTransfer_planned h
  | cancelTransfer t user device => exact cancelTransfer_planned h
  | updateTransaction input => exact updateTransaction_planned h
  | deleteTransaction t => exact deleteTransaction_planned h

theorem Command.plan_cases {fs fs1 : List (Option String)} {r : Except String (List Step)}
    (h : (cmd.plan rs clk).run fs d = ⟨r, d1, fs1⟩) :
    SameTables d d1 ∧ ∀ xs, r = .ok xs → Planned clk d1 cmd xs := by
  have hy : (cmd.plan rs clk).Yields (fun _ => True) d r d1 := ⟨fs, fs1, fun _ _ => trivial, h⟩
  refine ⟨plan_same hy, fun xs hr => ?_⟩
  rw [hr] at hy
  exact planned hy

/-- **What holds between the steps holds after the command**, whether or not it fails. -/
theorem Command.run_through {P : Db → Prop} (fs : List (Option String)) (hd : P d)
    (hsame : ∀ d1, SameTables d d1 → P d → P d1)
    (hsteps : ∀ d1 xs, SameTables d d1 →
      (cmd.plan rs clk).Yields (fun _ => True) d (.ok xs) d1 → P d1 →
        Through P (xs.map Step.write) d1) :
    P ((cmd.run rs clk).run fs d).state := by
  rw [run_eq]
  rcases hp : (cmd.plan rs clk).run fs d with ⟨e | xs, d1, fs1⟩
  · rw [run_bind_error hp]
    exact hsame d1 (plan_cases hp).1 hd
  · have hs := (plan_cases hp).1
    rw [run_bind_ok hp]
    obtain ⟨n, hn⟩ := run_carryOut cmd.transactional (xs.map Step.write) fs1 d1
    exact (hsteps d1 xs hs ⟨fs, fs1, fun _ _ => trivial, hp⟩ (hsame d1 hs hd)).of_take hn

theorem Command.run_keeps {P : Db → Prop} (fs : List (Option String)) (hd : P d)
    (hsame : ∀ d1, SameTables d d1 → P d → P d1)
    (hsteps : ∀ d1 xs, SameTables d d1 → Planned clk d1 cmd xs → P d1 →
      Through P (xs.map Step.write) d1) :
    P ((cmd.run rs clk).run fs d).state :=
  run_through fs hd hsame fun d1 xs hs hp => hsteps d1 xs hs (planned hp)

end

end Desktop
