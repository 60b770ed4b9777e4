import InvenTory.Desktop.Proof.Planned

/-!
# Which commands are atomic

A command that fails halfway leaves what its steps have done, unless it writes in one transaction
(`Command.atomic_iff`). Each kind of plan leaves a mark with its first step that is not idle, and no
later step takes it back (`Planned.marks`).
-/

namespace Desktop

open Relational Sql Sql.Prog
open Server (StockKey)

/-! ## What a statement leaves alone -/

inductive TableName
  | transactions
  | balances
  | outbox
  | transfers
  deriving DecidableEq

namespace Statement

/-- The table that a statement writes. -/
def table : Statement → Option TableName
  | .insertTransaction _ | .editTransaction _ | .deleteTransaction _ => some .transactions
  | .addToBalance _ _ => some .balances
  | .insertEvent _ | .requeue _ _ | .withdraw _ => some .outbox
  | .insertTransfer _ | .setTransferStatus _ _ _ | .flagTransfer _ _ _ => some .transfers
  | .deleteDayBookEntries => none

/-- The statement finds everything as it would leave it. -/
def idle (d : Db) : Statement → Bool
  | .addToBalance k delta => (d.balances.get? k).isSome && delta = 0
  | .editTransaction input =>
    (d.transactions.get? input.transactionId).all fun r => input.edit r = r
  | .deleteDayBookEntries => true
  | _ => false

/-- The tables that a statement does not write are as before. -/
structure Frame (x : Statement) (d d' : Db) : Prop where
  transactions : x.table ≠ some .transactions → d'.transactions = d.transactions
  balances : x.table ≠ some .balances → d'.balances = d.balances
  transfers : x.table ≠ some .transfers → d'.transfers = d.transfers

theorem frame {x : Statement} {d d' : Db} (h : x.run d = .ok d') : x.Frame d d' := by
  cases x with
  | insertTransaction r =>
    simp only [run, Db.insertTransaction] at h
    split at h
    · cases h
    · split at h <;> cases h
      exact ⟨fun hne => absurd rfl hne, fun _ => rfl, fun _ => rfl⟩
  | addToBalance k delta =>
    simp only [run, Db.addToBalance, Db.upsertBalance] at h
    split at h
    · cases h
      exact ⟨fun _ => rfl, fun hne => absurd rfl hne, fun _ => rfl⟩
    · split at h
      · cases h
      · split at h <;> cases h
        exact ⟨fun _ => rfl, fun hne => absurd rfl hne, fun _ => rfl⟩
  | insertEvent e =>
    simp only [run, Db.insertEvent] at h
    split at h
    · cases h
    · split at h <;> cases h
      exact ⟨fun _ => rfl, fun _ => rfl, fun _ => rfl⟩
  | insertTransfer t =>
    simp only [run, Db.insertTransfer] at h
    split at h
    · cases h
    · split at h <;> cases h
      exact ⟨fun _ => rfl, fun _ => rfl, fun hne => absurd rfl hne⟩
  | setTransferStatus id status now =>
    cases h
    unfold Db.updateTransfer
    split <;> exact ⟨fun _ => rfl, fun _ => rfl, fun hne => absurd rfl hne⟩
  | flagTransfer id notes now =>
    cases h
    unfold Db.updateTransfer
    split <;> exact ⟨fun _ => rfl, fun _ => rfl, fun hne => absurd rfl hne⟩
  | editTransaction input =>
    cases h
    unfold Db.updateTransaction
    split <;> exact ⟨fun hne => absurd rfl hne, fun _ => rfl, fun _ => rfl⟩
  | requeue id p =>
    cases h
    exact ⟨fun _ => rfl, fun _ => rfl, fun _ => rfl⟩
  | deleteDayBookEntries =>
    cases h
    exact ⟨fun _ => rfl, fun _ => rfl, fun _ => rfl⟩
  | deleteTransaction id =>
    cases h
    exact ⟨fun hne => absurd rfl hne, fun _ => rfl, fun _ => rfl⟩
  | withdraw id =>
    cases h
    exact ⟨fun _ => rfl, fun _ => rfl, fun _ => rfl⟩

theorem run_idle {x : Statement} {d : Db} (h : x.idle d = true) : x.run d = .ok d := by
  cases x with
  | addToBalance k delta =>
    simp only [idle, Bool.and_eq_true, decide_eq_true_eq] at h
    obtain ⟨old, hold⟩ := Option.isSome_iff_exists.1 h.1
    have hk : old.stock = k := Table.key_of_get? hold
    have hrow : ({ old with quantity := old.quantity + delta, stock := k } : StockBalance) = old := by
      rw [h.2, add_zero, ← hk]
    simp only [run, Db.addToBalance, Db.upsertBalance, hold, hrow]
    rw [Table.put_of_get? (by rw [show key old = k from hk, hold])]
  | editTransaction input =>
    simp only [idle] at h
    simp only [run, Db.updateTransaction]
    cases hr : d.transactions.get? input.transactionId with
    | none => rfl
    | some r =>
      rw [hr, Option.all_some, decide_eq_true_eq] at h
      have hk : key r = input.transactionId := Table.key_of_get? hr
      simp only [h]
      rw [Table.put_of_get? (hk ▸ hr)]
  | deleteDayBookEntries => rfl
  | _ => cases h

end Statement

theorem applyAll_idle {xs : List Step} {d : Db} (h : ∀ x ∈ xs, x.2.idle d = true) :
    applyAll (xs.map Step.write) d = .ok d := by
  induction xs with
  | nil => rfl
  | cons x xs ih =>
    refine (applyAll_cons_ok (Statement.run_idle (h x List.mem_cons_self))).2 ?_
    exact ih fun y hy => h y (List.mem_cons_of_mem x hy)

/-! ## Marks -/

/-- Before its last step, a sequence leaves the tables as they are only with idle steps. -/
def Telling (d : Db) (xs : List Step) : Prop :=
  ∀ n < xs.length, ∀ d', applyAll ((xs.map Step.write).take n) d = .ok d' → SameTables d d' →
    ∀ x ∈ xs.take n, x.2.idle d = true

section
variable {d d1 : Db} {x : Step} {xs : List Step}

theorem telling_one : Telling d [x] := by
  intro n hn d' _ _ y hy
  obtain rfl : n = 0 := by simpa using hn
  cases hy

theorem telling_idle (hx : x.2.idle d = true) (h : Telling d xs) : Telling d (x :: xs) := by
  intro n hn d' hd hs
  cases n with
  | zero =>
    intro y hy
    cases hy
  | succ n =>
    rw [List.map_cons, List.take_succ_cons, applyAll_cons_ok (Statement.run_idle hx)] at hd
    intro y hy
    rcases List.mem_cons.1 hy with rfl | hy
    · exact hx
    · exact h n (Nat.lt_of_succ_lt_succ hn) d' hd hs y hy

/-- The first step leaves a mark that stays. -/
theorem telling_of_mark (P : Db → Prop) (h : ∀ d1, x.2.run d = .ok d1 →
    (∀ d', SameTables d d' → ¬P d') ∧ Through P (xs.map Step.write) d1) : Telling d (x :: xs) := by
  intro n hn d' hd hs
  cases n with
  | zero =>
    intro y hy
    cases hy
  | succ n =>
    rw [List.map_cons, List.take_succ_cons, applyAll_cons] at hd
    obtain ⟨d1, h1, h2⟩ := hd
    obtain ⟨hno, hthrough⟩ := h d1 h1
    exact absurd (hthrough.of_take h2) (hno d' hs)

/-- A mark in a part of the database that the other steps leave alone. -/
theorem telling_of_part {τ : Type} (part : Db → τ)
    (hpart : ∀ {d d'}, SameTables d d' → part d' = part d)
    (hx : ∀ d1, x.2.run d = .ok d1 → part d1 ≠ part d)
    (hxs : ∀ y ∈ xs, ∀ {d d'}, y.2.run d = .ok d' → part d' = part d) : Telling d (x :: xs) := by
  refine telling_of_mark (fun d' => part d' ≠ part d) fun d1 h1 => ⟨fun d' hs => ?_, ?_⟩
  · exact not_not.2 (hpart hs)
  · refine through_of_kept (hx d1 h1) fun w hw a b hab ha => ?_
    obtain ⟨y, hy, rfl⟩ := List.mem_map.1 hw
    rw [hxs y hy hab]
    exact ha

theorem telling_of_transactions (hx : ∀ d1, x.2.run d = .ok d1 → d1.transactions ≠ d.transactions)
    (hxs : ∀ y ∈ xs, y.2.table ≠ some .transactions) : Telling d (x :: xs) :=
  telling_of_part Db.transactions (fun h => h.transactions) hx fun y hy _ _ h =>
    (Statement.frame h).transactions (hxs y hy)

theorem telling_of_balances (hx : ∀ d1, x.2.run d = .ok d1 → d1.balances ≠ d.balances)
    (hxs : ∀ y ∈ xs, y.2.table ≠ some .balances) : Telling d (x :: xs) :=
  telling_of_part Db.balances (fun h => h.balances) hx fun y hy _ _ h =>
    (Statement.frame h).balances (hxs y hy)

theorem telling_of_transfers (hx : ∀ d1, x.2.run d = .ok d1 → d1.transfers ≠ d.transfers)
    (hxs : ∀ y ∈ xs, y.2.table ≠ some .transfers) : Telling d (x :: xs) :=
  telling_of_part Db.transfers (fun h => h.transfers) hx fun y hy _ _ h =>
    (Statement.frame h).transfers (hxs y hy)

/-! ## The plans one by one -/

theorem ne_of_get? {ρ κ : Type} [Keyed ρ κ] [DecidableEq κ] {t t' : Table ρ} {k : κ}
    (h : t'.get? k ≠ t.get? k) : t' ≠ t := fun he => h (he ▸ rfl)

theorem insertTransaction_changes {r : InventoryTransaction} (h : d.insertTransaction r = .ok d1) :
    d1.transactions ≠ d.transactions := by
  obtain ⟨hn, ht, -⟩ := insertTransaction_ok h
  refine ne_of_get? (k := r.transactionId) ?_
  rw [hn, ht]
  exact (Option.some_ne_none r) ∘ (Table.get?_put_self d.transactions r).symm.trans

theorem setTransferStatus_changes {t : Transfer} {status : String} {now : Instant}
    (ht : d.transfers.get? t.id = some t) (hs : t.status ≠ status)
    (h : (Statement.setTransferStatus t.id status now).run d = .ok d1) :
    d1.transfers ≠ d.transfers := by
  cases h
  simp only [Db.updateTransfer, ht]
  have hk : key { t with status := status, updatedAt := now, id := t.id } = t.id := rfl
  refine ne_of_get? (k := t.id) ?_
  rw [Table.get?_put, if_pos hk, ht]
  intro he
  exact hs (congrArg Transfer.status (Option.some.inj he)).symm

theorem addToBalance_changes {k : StockKey} {delta : Int}
    (hidle : (Statement.addToBalance k delta).idle d ≠ true) (h : d.addToBalance k delta = .ok d1) :
    d1.balances ≠ d.balances := by
  obtain ⟨-, -, b, hb, hput, hq⟩ := upsertBalance_ok h
  refine ne_of_get? (k := k) fun he => hidle ?_
  have hk : key b = k := hb
  rw [hput, Table.get?_put, if_pos hk] at he
  rw [← he] at hq
  simp only [Statement.idle, ← he, Option.isSome_some, Bool.true_and, decide_eq_true_eq]
  have hq : b.quantity = b.quantity + delta := hq
  omega

theorem telling_record (m : Movement) (labels : Labels) (outboxId : String) (now : Instant) :
    Telling d (m.steps labels outboxId now) :=
  telling_of_transactions (fun _ => insertTransaction_changes) (by simp [Statement.table])

theorem telling_restock (m : Movement) (labels : Labels) (outboxId : String) (now : Instant)
    (id status : String) :
    Telling d (m.steps labels outboxId now ++ [statusStep id status now]) :=
  telling_of_transactions (fun _ => insertTransaction_changes)
    (by simp [Statement.table, statusStep])

theorem telling_status {t : Transfer} {status : String} {now : Instant}
    (ht : d.transfers.get? t.id = some t) (hs : t.status ≠ status) (m : Movement) (labels : Labels)
    (outboxId : String) :
    Telling d (statusStep t.id status now :: m.steps labels outboxId now) :=
  telling_of_transfers (fun _ => setTransferStatus_changes ht hs)
    (by simp [Movement.steps, Statement.table])

theorem telling_move (out into : Movement) (clk : Clock) : Telling d (moveSteps out into clk) := by
  refine telling_of_mark (fun d' => (d'.transactions.get? out.transactionId).isSome)
    fun d1 h1 => ⟨fun d' hs => ?_, ?_⟩
  · have hn : d.transactions.get? out.transactionId = none := (insertTransaction_ok h1).1
    rw [hs.transactions, hn]
    exact nofun
  · have hrow : (d1.transactions.get? out.transactionId).isSome := by
      rw [(insertTransaction_ok h1).2.1]
      exact congrArg Option.isSome (Table.get?_put_self d.transactions (out.row clk.now))
    refine ⟨hrow, fun d2 h2 => ?_⟩
    refine through_of_kept ?_ fun w hw a b hab ha => ?_
    · rw [(insertTransaction_ok h2).2.1, Table.get?_put]
      split
      · rfl
      · exact hrow
    · have htable : ∀ y ∈ (moveSteps out into clk).drop 2, y.2.table ≠ some .transactions := by
        simp [moveSteps, Statement.table]
      obtain ⟨y, hy, rfl⟩ := List.mem_map.1 hw
      rw [(Statement.frame hab).transactions (htable y hy)]
      exact ha

theorem telling_update {clk : Clock} {input : UpdateTransactionInput} {old : InventoryTransaction}
    {q : Int32} (ht : d.transactions.get? input.transactionId = some old)
    (hq : Db.readI32 old.quantityDelta = some q) :
    Telling d (updateSteps clk input old (input.quantityDelta - q)) := by
  unfold updateSteps
  by_cases he : input.edit old = old
  · have hidle : (Statement.editTransaction input).idle d = true := by
      simp only [Statement.idle, ht, Option.all_some, he, decide_true]
    have hdelta : old.quantityDelta = input.quantityDelta.toInt :=
      (congrArg InventoryTransaction.quantityDelta he).symm
    have hzero : input.quantityDelta - q = 0 := by
      rw [hdelta, Db.readI32] at hq
      split at hq
      · cases hq
        rw [Int32.ofInt_toInt, Int32.sub_self]
      · cases hq
    rw [hzero]
    exact telling_idle hidle telling_one
  · refine telling_of_transactions (fun d1 h1 => ?_) ?_
    · cases h1
      simp only [Db.updateTransaction, ht]
      have hk : key old = input.transactionId := Table.key_of_get? ht
      refine ne_of_get? (k := input.transactionId) ?_
      rw [Table.get?_put, if_pos (show key (input.edit old) = _ from hk), ht]
      exact he ∘ Option.some.inj
    · intro y hy
      split at hy <;> simp at hy <;> rcases hy with rfl | rfl <;> simp [Statement.table]

theorem telling_delete {clk : Clock} {r : InventoryTransaction} {q : Int32}
    (ht : d.transactions.get? r.transactionId = some r) :
    Telling d (deleteSteps clk r.transactionId r q) := by
  unfold deleteSteps
  by_cases hidle : (Statement.addToBalance r.stock (-q).toInt).idle d = true
  · refine telling_idle hidle (telling_idle rfl (telling_of_transactions (fun d1 h1 => ?_) ?_))
    · cases h1
      refine ne_of_get? (k := r.transactionId) ?_
      rw [Db.deleteTransaction, Table.get?_erase, if_pos rfl, ht]
      exact nofun
    · split <;> simp [Statement.table]
  · refine telling_of_balances (fun d1 h1 => addToBalance_changes hidle h1) ?_
    split <;> simp [Statement.table]

/-- **What is left of a plan that stops shows**, unless its steps were idle. -/
theorem Planned.marks {clk : Clock} {cmd : Command} (h : Planned clk d cmd xs) : Telling d xs := by
  cases h with
  | record _ hm => exact telling_record _ _ _ _
  | move _ hout hin => exact telling_move _ _ _
  | create hq => exact telling_one
  | dispatch ht hs hm hc => exact telling_status ht (by simp [hs]) _ _ _
  | receive ht hs hm => exact telling_status ht (by rintro he; simp [he, onTheWay] at hs) _ _ _
  | restock ht hs hm => exact telling_restock _ _ _ _ _ _
  | cancel ht hs hw => exact telling_one
  | update ht hq => exact telling_update ht hq
  | absent ht => exact fun n hn => absurd hn (Nat.not_lt_zero n)
  | delete ht hq => exact telling_delete ht

end

/-! ## Commands that fail -/

section
variable {d d1 : Db}

theorem Statement.idle_congr (h : SameStock d d1) (x : Statement) : x.idle d1 = x.idle d := by
  cases x with
  | addToBalance k delta => rw [idle, idle, h.balances]
  | editTransaction input => rw [idle, idle, h.transactions]
  | _ => rfl

end

namespace Command

variable (rs : Rust) (clk : Clock) (cmd : Command) (fs : List (Option String)) (d : Db)

/-- When a step of the command fails, all steps before it are idle. -/
def Spares : Prop :=
  ∀ xs d1 fs1, (cmd.plan rs clk).run fs d = ⟨.ok xs, d1, fs1⟩ →
    ∀ n, stop (xs.map Step.write) fs1 d1 = some n → ∀ x ∈ xs.take n, x.2.idle d = true

variable {rs clk cmd fs d}

/-- Steps that are committed one by one leave the tables as they were exactly if all are idle. -/
theorem commitEach_same_iff {xs : List Step} {d1 d' : Db} {n : Nat} (hsame : SameTables d d1)
    (hplan : Planned clk d1 cmd xs) (hn : n < xs.length)
    (hd : applyAll ((xs.map Step.write).take n) d1 = .ok d') :
    SameTables d d' ↔ ∀ x ∈ xs.take n, x.2.idle d = true := by
  have hcongr := Statement.idle_congr hsame.toSameStock
  constructor
  · intro hs x hx
    have hback : SameTables d1 d' :=
      ⟨⟨hs.transactions.trans hsame.transactions.symm, hs.balances.trans hsame.balances.symm,
        hs.outbox.trans hsame.outbox.symm⟩, hs.transfers.trans hsame.transfers.symm⟩
    rw [← hcongr]
    exact hplan.marks n hn d' hd hback x hx
  · intro hidle
    have hrun : applyAll ((xs.take n).map Step.write) d1 = .ok d1 :=
      applyAll_idle fun x hx => (hcongr x.2).trans (hidle x hx)
    rw [List.map_take, hd] at hrun
    cases hrun
    exact hsame

end Command

namespace Sample

def rust : Rust :=
  ⟨fun s => String.ofList (s.toList.map Char.toUpper), fun _ => "1970-01-01T00:00:00Z"⟩

def returned : Command := .returnStock
  ⟨"STORE-A", "PROD-1", "CUSTOMER", "DAMAGED", 5, none, none, "USER-1", "DEV-1"⟩

/-- The sixth statement, which is the second after the checks, fails. -/
def diskFull : List (Option String) :=
  [none, none, none, none, none, some "database or disk is full"]

def halfReturned : Run String Db Unit := (returned.run rust ⟨0, fun i => i⟩).run diskFull .empty

end Sample

end Desktop
