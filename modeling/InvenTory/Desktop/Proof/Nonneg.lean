import InvenTory.Desktop.Proof.Atomic

/-!
# Balances do not become negative

Every command that takes stock checks that the balance holds it (`Planned`), except for the
corrections: they are not checked, and leave a balance negative that other commands have used
(`negative_after_delete`). Where each correction is covered (`Command.Covers`) no balance becomes negative
(`Reached.nonneg`).
-/

namespace Desktop

open Relational Sql Sql.Prog
open Server (StockKey)

/-- No balance is negative, and transfers move something. -/
structure Sound (d : Db) : Prop where
  quantity : ∀ k, 0 ≤ d.quantity k
  transfers : ∀ t ∈ d.transfers.rows, 0 < t.quantity

theorem sound_empty : Sound .empty := ⟨fun _ => le_rfl, nofun⟩

theorem Sound.congr {d d' : Db} (h : Sound d) (hb : d'.balances = d.balances)
    (ht : d'.transfers = d.transfers) : Sound d' :=
  ⟨fun k => (quantity_congr hb k).symm ▸ h.quantity k, ht.symm ▸ h.transfers⟩

/-- A balance that is not negative is not after the statement, and neither is a new transfer. -/
def Statement.Safe (d : Db) : Statement → Prop
  | .addToBalance k delta => 0 ≤ d.quantity k + delta
  | .insertTransfer t => 0 < t.quantity
  | _ => True

section
variable {d d' : Db} {x : Step} {xs : List Step}

theorem Sound.updateTransfer {id : String} {f : Transfer → Transfer} (h : Sound d)
    (hf : ∀ t, (f t).quantity = t.quantity) : Sound (d.updateTransfer id f) := by
  unfold Db.updateTransfer
  split
  · rename_i t ht
    refine ⟨h.quantity, fun t' ht' => ?_⟩
    rcases Table.mem_put.1 ht' with rfl | ⟨ht', -⟩
    · exact (hf t).symm ▸ h.transfers t (Table.mem_of_get? ht)
    · exact h.transfers t' ht'
  · exact h

theorem Sound.step {x : Statement} (h : Sound d) (hsafe : x.Safe d) (hr : x.run d = .ok d') :
    Sound d' := by
  have hframe := Statement.frame hr
  cases x with
  | addToBalance k delta =>
    obtain ⟨-, -, hq⟩ := addToBalance_ok hr
    refine ⟨fun k' => ?_, hframe.transfers (by simp [Statement.table]) ▸ h.transfers⟩
    rw [hq]
    split
    · rename_i he
      exact he ▸ hsafe
    · rw [add_zero]
      exact h.quantity k'
  | insertTransfer t =>
    have hbalances := hframe.balances (by simp [Statement.table])
    refine ⟨fun k => (quantity_congr hbalances k).symm ▸ h.quantity k, fun t' ht' => ?_⟩
    simp only [Statement.run, Db.insertTransfer] at hr
    split at hr
    · cases hr
    · split at hr <;> cases hr
      rcases Table.mem_put.1 ht' with rfl | ⟨ht', -⟩
      · exact hsafe
      · exact h.transfers t' ht'
  | setTransferStatus id status now =>
    cases hr
    exact h.updateTransfer fun _ => rfl
  | flagTransfer id notes now =>
    cases hr
    exact h.updateTransfer fun _ => rfl
  | _ =>
    refine h.congr (hframe.balances ?_) (hframe.transfers ?_)
    all_goals simp [Statement.table]

theorem Sound.through_cons (h : Sound d) (hsafe : x.2.Safe d)
    (hxs : ∀ d1, x.2.run d = .ok d1 → Sound d1 → Through Sound (xs.map Step.write) d1) :
    Through Sound ((x :: xs).map Step.write) d :=
  ⟨h, fun d1 h1 => hxs d1 h1 (h.step hsafe h1)⟩

/-! ## The plans one by one -/

theorem Movement.Covered.safe {m : Movement} (hm : m.Covered d) (h : Sound d)
    (hb : d'.balances = d.balances) :
    (Statement.addToBalance m.stock m.quantityDelta.toInt).Safe d' := by
  show 0 ≤ d'.quantity m.stock + m.quantityDelta.toInt
  rw [quantity_congr hb]
  exact hm (h.quantity _)

theorem Sound.record {m : Movement} {labels : Labels} {outboxId : String} {now : Instant}
    (h : Sound d) (hm : m.Covered d)
    (hxs : ∀ d1, Sound d1 → Through Sound (xs.map Step.write) d1) :
    Through Sound ((m.steps labels outboxId now ++ xs).map Step.write) d := by
  refine h.through_cons trivial fun d1 h1 hs1 => ?_
  refine hs1.through_cons (hm.safe h ((Statement.frame h1).balances nofun)) fun d2 _ hs2 => ?_
  exact hs2.through_cons trivial fun d3 _ hs3 => hxs d3 hs3

theorem Sound.status {id status : String} {now : Instant} (h : Sound d)
    (hxs : ∀ d1, d1.balances = d.balances → Sound d1 → Through Sound (xs.map Step.write) d1) :
    Through Sound ((statusStep id status now :: xs).map Step.write) d :=
  h.through_cons trivial fun d1 h1 hs1 => hxs d1 ((Statement.frame h1).balances nofun) hs1

theorem Sound.move {out into : Movement} {clk : Clock} (h : Sound d) (hout : out.Covered d)
    (hin : 0 ≤ into.quantityDelta.toInt) :
    Through Sound ((moveSteps out into clk).map Step.write) d := by
  refine h.through_cons trivial fun d1 h1 hs1 => hs1.through_cons trivial fun d2 h2 hs2 => ?_
  have hb : d2.balances = d.balances :=
    ((Statement.frame h2).balances nofun).trans ((Statement.frame h1).balances nofun)
  refine hs2.through_cons (hout.safe h hb) fun d3 _ hs3 => ?_
  refine hs3.through_cons (add_nonneg (hs3.quantity _) hin) fun d4 _ hs4 => ?_
  exact hs4.through_cons trivial fun d5 _ hs5 => hs5.through_cons trivial fun d6 _ hs6 => hs6

theorem Sound.update {clk : Clock} {input : UpdateTransactionInput} {old : InventoryTransaction}
    {deltaDiff : Int32} (h : Sound d) (hcov : 0 ≤ d.quantity old.stock + deltaDiff.toInt) :
    Through Sound ((updateSteps clk input old deltaDiff).map Step.write) d := by
  have hlast : ∀ d1, Sound d1 → Through Sound ([("Failed to update queued change",
      Statement.requeue input.transactionId (input.payload old clk.now))].map Step.write) d1 :=
    fun d1 hs1 => hs1.through_cons trivial fun d2 _ hs2 => hs2
  refine h.through_cons trivial fun d1 h1 hs1 => ?_
  split
  · refine hs1.through_cons ?_ fun d2 _ hs2 => hlast d2 hs2
    show 0 ≤ d1.quantity old.stock + deltaDiff.toInt
    rw [quantity_congr ((Statement.frame h1).balances nofun)]
    exact hcov
  · exact hlast d1 hs1

theorem Sound.delete {clk : Clock} {id : String} {r : InventoryTransaction} {q : Int32} (h : Sound d)
    (hcov : 0 ≤ d.quantity r.stock + (-q).toInt) :
    Through Sound ((deleteSteps clk id r q).map Step.write) d := by
  refine h.through_cons hcov fun d1 _ hs1 => hs1.through_cons trivial fun d2 _ hs2 => ?_
  refine hs2.through_cons trivial fun d3 _ hs3 => hs3.through_cons ?_ fun d4 _ hs4 => hs4
  split <;> exact trivial

end

/-! ## Runs of commands -/

/-- The balance that a correction changes holds what the correction takes. -/
def Command.Covers (d : Db) : Command → Prop
  | .updateTransaction input => ∀ r q, d.transactions.get? input.transactionId = some r →
    Db.readI32 r.quantityDelta = some q → 0 ≤ d.quantity r.stock + (input.quantityDelta - q).toInt
  | .deleteTransaction id => ∀ r q, d.transactions.get? id = some r →
    Db.readI32 r.quantityDelta = some q → 0 ≤ d.quantity r.stock + (-q).toInt
  | _ => True

theorem Command.Covers.same {d d1 : Db} {cmd : Command} (h : cmd.Covers d) (hs : SameTables d d1) :
    cmd.Covers d1 := by
  cases cmd with
  | updateTransaction input =>
    intro r q hr hq
    rw [quantity_congr hs.balances]
    exact h r q (hs.transactions ▸ hr) hq
  | deleteTransaction id =>
    intro r q hr hq
    rw [quantity_congr hs.balances]
    exact h r q (hs.transactions ▸ hr) hq
  | _ => trivial

theorem Planned.through {clk : Clock} {d : Db} {cmd : Command} {xs : List Step}
    (hp : Planned clk d cmd xs) (hc : cmd.Covers d) (h : Sound d) :
    Through Sound (xs.map Step.write) d := by
  have hend : ∀ d1, Sound d1 → Through Sound (([] : List Step).map Step.write) d1 :=
    fun _ hs => hs
  have hpos : ∀ {t : Transfer}, d.transfers.get? t.id = some t → 0 < t.quantity :=
    fun ht => h.transfers _ (Table.mem_of_get? ht)
  have hin : ∀ {m : Movement} {t : Transfer} {store : String} (d1 : Db),
      d.transfers.get? t.id = some t → m.Carries t store t.quantity → m.Covered d1 :=
    fun d1 ht hm => Movement.covered_of_pos (hm.delta ▸ hpos ht)
  cases hp with
  | record _ hm => exact h.record hm hend
  | move _ hout hin => exact h.move hout hin
  | create hq => exact h.through_cons hq fun d1 _ hs1 => hs1
  | dispatch ht hs hm hcov =>
    refine h.status fun d1 hb hs1 => hs1.record ?_ hend
    unfold Movement.Covered
    rw [quantity_congr hb]
    exact hcov (hpos ht)
  | receive ht hs hm => exact h.status fun d1 _ hs1 => hs1.record (hin d1 ht hm) hend
  | restock ht hs hm => exact h.record (hin d ht hm) fun d1 hs1 => hs1.status fun d2 _ hs2 => hs2
  | cancel ht hs hw => exact h.status fun d1 _ hs1 => hs1
  | update ht hq => exact h.update (hc _ _ ht hq)
  | absent ht => exact h
  | delete ht hq => exact h.delete (hc _ _ ht hq)

/-- A command as it is called, with the faults of its statements. -/
structure Call where
  clk : Clock
  cmd : Command
  faults : List (Option String)

/-- The database after a call, whether or not it has failed. -/
def Call.after (rs : Rust) (c : Call) (d : Db) : Db := ((c.cmd.run rs c.clk).run c.faults d).state

/-- The databases that calls lead to from the empty one, when each correction is covered. -/
inductive Reached (rs : Rust) : Db → Prop
  | empty : Reached rs .empty
  | call {d : Db} (c : Call) (h : Reached rs d) (hc : c.cmd.Covers d) : Reached rs (c.after rs d)

theorem Sound.call {rs : Rust} {d : Db} (c : Call) (h : Sound d) (hc : c.cmd.Covers d) :
    Sound (c.after rs d) :=
  Command.run_keeps c.faults h (fun _ hs h => h.congr hs.balances hs.transfers)
    fun _ _ hs hp h => hp.through (hc.same hs) h

theorem Reached.sound {rs : Rust} {d : Db} (h : Reached rs d) : Sound d := by
  induction h with
  | empty => exact sound_empty
  | call c h hc ih => exact ih.call c hc

/-- **No balance becomes negative** as long as each correction is covered. -/
theorem Reached.nonneg {rs : Rust} {d : Db} (h : Reached rs d) :
    ∀ b ∈ d.balances.rows, 0 ≤ b.quantity := by
  intro b hb
  have hq := h.sound.quantity b.stock
  rwa [Db.quantity, show d.balances.get? b.stock = some b from Table.get?_of_mem hb] at hq

namespace Sample

def clock (nanos : Nat) : Clock := ⟨0, fun i => nanos + i⟩

/-- Ten are received, as `TX-1`. -/
def receipt : Call :=
  ⟨clock 1, .receiveStock ⟨"STORE-A", "PROD-1", 10, none, none, "USER-1", "DEV-1"⟩, []⟩

def sale : Call :=
  ⟨clock 3, .sellStock ⟨"STORE-A", "PROD-1", 8, some "R-1", "USER-1", "DEV-1"⟩, []⟩

def sold : Db := sale.after rust (receipt.after rust .empty)

def edit (quantity : Int32) : Call := ⟨clock 5, .updateTransaction ⟨"TX-1", quantity, none, none⟩, []⟩

theorem edit_covers : (edit 9).cmd.Covers sold := by
  intro r q hr hq
  have hall : (sold.transactions.get? "TX-1").all fun r =>
      (Db.readI32 r.quantityDelta).all fun q => 0 ≤ sold.quantity r.stock + (9 - q).toInt := by
    decide +kernel
  rw [hr, Option.all_some, hq, Option.all_some, decide_eq_true_eq] at hall
  exact hall

end Sample

open Sample in
theorem nonneg_after_edit : Reached rust ((edit 9).after rust sold) ∧
    ∀ b ∈ ((edit 9).after rust sold).balances.rows, 0 ≤ b.quantity := by
  have h : Reached rust ((edit 9).after rust sold) :=
    .call _ (.call sale (.call receipt .empty (by trivial)) (by trivial)) edit_covers
  exact ⟨h, Reached.nonneg h⟩

open Sample in
/-- The receipt of goods that have been sold is deleted. -/
theorem negative_after_delete :
    ([receipt, sale, ⟨clock 5, .deleteTransaction "TX-1", []⟩].foldl
      (fun d (c : Call) => c.after rust d) Db.empty).quantity (available "STORE-A" "PROD-1") = -8 := by
  decide +kernel

end Desktop
