import InvenTory.Sync.Proof.SingleDevice

/-!
# Rows on the wire

A row of the server is the desktop's, column by column, in every run whose commands come between two pushes
and send all that they record (`rows_survive`). The payload of a transfer has no reason. That of an
edit has another time and no transfer, and the server leaves its row's texts alone where the quantity
stays the same or the new text is missing (`edit_changes_time`).
-/

namespace Sync.Flight

open Desktop (Clock Command Db Instant OutboxEvent OutboxPayload RecordsAll SameMovement)
open Relational Sql Sql.Prog

variable {w : Setting} {s : State} {t : String} {d d' : Db} {uid : Int} {now : Instant}
  {r : Desktop.InventoryTransaction} {e : OutboxEvent} {row : Server.InventoryTransaction}
  {o : Option Server.InventoryTransaction} {rs : Desktop.Rust} {clk : Clock} {cmd : Command}
  {F : String → Prop}

/-! ## The same row -/

/-- A row that a payload can carry whole. -/
structure Portable (r : Desktop.InventoryTransaction) : Prop where
  deviceId : Named r.deviceId
  stockBucket : r.stockBucket ≠ ""
  transferId : r.transferId = none

/-- The rows agree, and are portable. -/
def wholeRow : Match where
  Shows r row := Portable r ∧ SameRow r row
  Kin r row := SameOrigin r row
  kin h := h.2.toSameOrigin
  shows_blind := by
    rintro r r' row ⟨_, _, rfl⟩ ⟨⟨hd, hb, ht⟩, hrow⟩
    exact ⟨⟨hd, hb, ht⟩, ⟨hrow.storeId, hrow.productId, hrow.movementType, hrow.stockBucket,
      hrow.occurredAt, hrow.deviceId, hrow.transferId⟩, hrow.quantityDelta, hrow.referenceNumber,
      hrow.reasonCode⟩
  kin_blind := by
    rintro r r' row ⟨_, _, rfl⟩ hrow
    exact ⟨hrow.storeId, hrow.productId, hrow.movementType, hrow.stockBucket, hrow.occurredAt,
      hrow.deviceId, hrow.transferId⟩

/-- The payload says what the row says. -/
structure Says (payload : OutboxPayload) (r : Desktop.InventoryTransaction) : Prop where
  storeId : payload.storeId = r.storeId
  productId : payload.productId = r.productId
  movementType : payload.movementType = r.movementType
  stockBucket : payload.stockBucket = r.stockBucket
  occurredAt : payload.occurredAt = r.occurredAt
  deviceId : payload.deviceId = r.deviceId
  transferId : payload.transferId = r.transferId
  quantityDelta : payload.quantityDelta.toInt = r.quantityDelta
  referenceNumber : payload.referenceNumber = r.referenceNumber
  reasonCode : payload.reasonCode = r.reasonCode

/-- **A new row** is what its payload says. -/
theorem carries_new {payload : OutboxPayload} (hr : Portable r) (h : Says payload r) :
    Carries wholeRow uid r none payload := by
  intro env
  refine ⟨hr, ⟨h.storeId, h.productId, h.movementType, ?_, ?_, ?_, h.transferId⟩, h.quantityDelta,
    h.referenceNumber, h.reasonCode⟩
  · change orDefault payload.stockBucket "AVAILABLE" = r.stockBucket
    rw [h.stockBucket, orDefault_of_ne hr.stockBucket]
  · change (⟨payload.occurredAt * 1000000, some 0⟩ : Server.DateTime) = _
    rw [h.occurredAt]
  · change orDefault (jsTrim payload.deviceId) "SINGLE-USER-DEVICE" = r.deviceId
    rw [h.deviceId]
    exact hr.deviceId

/-! ## New transactions -/

/-- A row of a command that a device was named for. -/
def From (deviceId : String) (r : Desktop.InventoryTransaction) : Prop :=
  r.deviceId = deviceId ∧ r.transferId = none

theorem receiveStock_from {input : Desktop.ReceiveStockInput}
    (h : (Desktop.receiveStock clk input).Yields F d (.ok r) d') : From input.deviceId r := by
  unfold Desktop.receiveStock at h
  obtain ⟨-, h⟩ := Desktop.yields_require_bind h
  obtain ⟨_, _, -, h⟩ := yields_bind_ok h
  obtain ⟨_, _, -, h⟩ := yields_bind_ok h
  cases (yields_pure h).1
  exact ⟨rfl, rfl⟩

theorem sellStock_from {input : Desktop.SellStockInput}
    (h : (Desktop.sellStock clk input).Yields F d (.ok r) d') : From input.deviceId r := by
  unfold Desktop.sellStock at h
  obtain ⟨-, h⟩ := Desktop.yields_require_bind h
  obtain ⟨-, h⟩ := Desktop.yields_require_bind h
  obtain ⟨_, _, -, h⟩ := yields_bind_ok h
  obtain ⟨_, _, -, h⟩ := yields_bind_ok h
  obtain ⟨_, _, -, h⟩ := yields_bind_ok h
  cases (yields_pure h).1
  exact ⟨rfl, rfl⟩

theorem returnStock_from {input : Desktop.ReturnStockInput}
    (h : (Desktop.returnStock rs clk input).Yields F d (.ok r) d') : From input.deviceId r := by
  unfold Desktop.returnStock at h
  obtain ⟨-, h⟩ := Desktop.yields_require_bind h
  obtain ⟨-, h⟩ := Desktop.yields_require_bind h
  obtain ⟨-, h⟩ := Desktop.yields_require_bind h
  obtain ⟨_, _, -, h⟩ := yields_bind_ok h
  obtain ⟨_, _, -, h⟩ := yields_bind_ok h
  obtain ⟨_, _, -, h⟩ := yields_bind_ok h
  cases (yields_pure h).1
  exact ⟨rfl, rfl⟩

theorem moveStockBucket_from {input : Desktop.MoveStockBucketInput}
    {rows : List Desktop.InventoryTransaction}
    (h : (Desktop.moveStockBucket rs clk input).Yields F d (.ok rows) d') :
    ∀ r ∈ rows, From input.deviceId r := by
  unfold Desktop.moveStockBucket at h
  obtain ⟨-, h⟩ := Desktop.yields_require_bind h
  obtain ⟨-, h⟩ := Desktop.yields_require_bind h
  obtain ⟨-, h⟩ := Desktop.yields_require_bind h
  obtain ⟨-, h⟩ := Desktop.yields_require_bind h
  obtain ⟨_, _, -, h⟩ := yields_bind_ok h
  obtain ⟨_, _, -, h⟩ := yields_bind_ok h
  obtain ⟨_, _, -, h⟩ := yields_bind_ok h
  cases (yields_pure h).1
  rw [List.forall_mem_cons, List.forall_mem_singleton]
  exact ⟨⟨rfl, rfl⟩, rfl, rfl⟩

theorem adjustStock_from {input : Desktop.AdjustStockInput}
    (h : (Desktop.adjustStock rs clk input).Yields F d (.ok r) d') : From input.deviceId r := by
  unfold Desktop.adjustStock at h
  obtain ⟨-, h⟩ := Desktop.yields_require_bind h
  obtain ⟨_, _, -, h⟩ := yields_bind_ok h
  obtain ⟨_, _, -, h⟩ := yields_bind_ok h
  obtain ⟨_, _, -, h⟩ := yields_bind_ok h
  cases (yields_pure h).1
  exact ⟨rfl, rfl⟩

/-- Movements are recorded, by a device that is sent as it is, and for no transfer. -/
def RecordsPortable (now : Instant) (d d' : Db) : Prop :=
  ∃ rows, RecordsAll now rows d d' ∧ ∀ r ∈ rows, Named r.deviceId ∧ r.transferId = none

theorem RecordsPortable.one {deviceId : String} (h : RecordsAll now [r] d d') (hr : From deviceId r)
    (hd : Named deviceId) : RecordsPortable now d d' :=
  ⟨[r], h, List.forall_mem_singleton.2 ⟨hr.1.symm ▸ hd, hr.2⟩⟩

/-- **A command that creates transactions** records movements that can be carried. -/
theorem Sendable.records (hok : Sendable clk s cmd) (hc : cmd.creates = true)
    (h : (cmd.run rs clk).Yields F s.desktop (.ok ()) d) : RecordsPortable clk.now s.desktop d := by
  cases cmd with
  | receiveStock _ =>
    obtain ⟨r, h⟩ := Desktop.yields_discard_ok h
    exact .one (Desktop.receiveStock_ok h).records (receiveStock_from h) hok
  | sellStock _ =>
    obtain ⟨r, h⟩ := Desktop.yields_discard_ok h
    exact .one (Desktop.sellStock_ok h).records (sellStock_from h) hok
  | returnStock _ =>
    obtain ⟨r, h⟩ := Desktop.yields_discard_ok h
    exact .one (Desktop.returnStock_ok h).records (returnStock_from h) hok
  | moveStockBucket _ =>
    obtain ⟨rows, h⟩ := Desktop.yields_discard_ok h
    refine ⟨rows, (Desktop.moveStockBucket_ok h).1, fun r hr => ?_⟩
    obtain ⟨hdevice, ht⟩ := moveStockBucket_from h r hr
    exact ⟨hdevice.symm ▸ hok, ht⟩
  | adjustStock _ =>
    obtain ⟨r, h⟩ := Desktop.yields_discard_ok h
    exact .one (Desktop.adjustStock_ok h).records (adjustStock_from h) hok
  | createTransfer _ =>
    obtain ⟨_, h⟩ := Desktop.yields_discard_ok h
    exact ⟨[], .same (Desktop.createTransfer_ok h), by simp⟩
  | dispatchTransfer _ _ _ => exact hok.elim
  | receiveTransfer _ _ _ => exact hok.elim
  | cancelTransfer _ _ _ =>
    obtain ⟨_, h⟩ := Desktop.yields_discard_ok h
    obtain ⟨t, ht, ⟨hstatus, -⟩ | hs⟩ := Desktop.cancelTransfer_ok h
    · exact absurd hstatus (hok t ht)
    · exact ⟨[], .same hs, by simp⟩
  | updateTransaction _ => cases hc
  | deleteTransaction _ => cases hc

theorem carries_recorded {m : Desktop.Movement} (hm : m.Proper) (outboxId : String)
    (hr : Named (m.row now).deviceId ∧ (m.row now).transferId = none) :
    Carries wholeRow uid (m.row now) none (m.event outboxId now).payload := by
  obtain ⟨hdevice, ht⟩ := hr
  have ht : m.transferId = none := ht
  refine carries_new ⟨hdevice, hm.bucket, ht⟩ ⟨rfl, rfl, rfl, rfl, rfl, rfl, rfl, rfl, rfl, ?_⟩
  change (if m.transferId.isSome then none else m.reasonCode) = m.reasonCode
  rw [ht]
  rfl

theorem Aligned.recordsAll {M : Match} {rows : List Desktop.InventoryTransaction}
    (h : Aligned M w s) (hr : RecordsAll now rows s.desktop d)
    (hnew : ∀ m : Desktop.Movement, m.Proper → m.row now ∈ rows → ∀ outboxId,
      Carries M w.authenticatedUserId (m.row now) none (m.event outboxId now).payload) :
    Aligned M w { s with desktop := d } := by
  generalize hd : s.desktop = d0 at hr
  induction hr generalizing s with
  | same hs => exact h.other (hd ▸ hs)
  | cons hm hr _ ih =>
    rw [← hd] at hr
    have h1 := h.recorded hm hr (hnew _ hm List.mem_cons_self _)
    have h2 := ih h1 (fun m hm hmem => hnew m hm (List.mem_cons_of_mem _ hmem)) rfl
    exact h2

/-! ## Edits -/

theorem Alive.portable (ha : Alive wholeRow uid t .idle r o e) : Portable r := by
  have hn : ∀ x ∈ Phase.idle.flying, x.payload.transactionId ≠ t := fun _ hx => absurd hx List.not_mem_nil
  by_cases hd : Deliverable e
  · exact (ha.waits hd hn Server.Sample.env).1
  · obtain ⟨_, -, hshows⟩ := ha.settled hd
    exact hshows.1

theorem SameOrigin.edit (h : SameOrigin r row) (input : Desktop.UpdateTransactionInput) :
    SameOrigin (input.edit r) row :=
  ⟨h.storeId, h.productId, h.movementType, h.stockBucket, h.occurredAt, h.deviceId, h.transferId⟩

theorem or_of_kept {a b : Option String} (h : a = none → b = none) : a.or b = a := by
  cases a with
  | none => exact h rfl
  | some _ => rfl

/-- **An edit that the row takes** leaves it the same as the desktop's. -/
theorem carries_edited {input : Desktop.UpdateTransactionInput} (hr : Portable r)
    (hkin : SameOrigin r row) (hok : Taken now r input (some row)) :
    Carries wholeRow uid (input.edit r) (some row) (input.payload r now) := by
  intro env
  refine ⟨⟨hr.deviceId, hr.stockBucket, hr.transferId⟩, ?_⟩
  have hkin := hkin.edit input
  dsimp only [Taken] at hok
  split at hok
  · rename_i hq
    obtain ⟨hreference, hreason⟩ := hok
    rw [Server.next_of_same hq]
    exact ⟨hkin, hq, hreference, hreason⟩
  · rename_i hq
    obtain ⟨hreference, hreason⟩ := hok
    have hnext : Server.Submission.next
        ⟨(buildPushItem (input.payload r now)).payload uid, env⟩ (some row) =
          row.edit ((buildPushItem (input.payload r now)).payload uid) := if_pos hq
    rw [hnext]
    exact ⟨⟨hkin.storeId, hkin.productId, rfl, hkin.stockBucket, hkin.occurredAt, hkin.deviceId,
      hkin.transferId⟩, rfl, or_of_kept hreference, or_of_kept hreason⟩

theorem edits_wholeRow {input : Desktop.UpdateTransactionInput}
    (ha : Alive wholeRow uid input.transactionId .idle r o e) (hok : Taken now r input o) :
    Edits wholeRow uid input.transactionId .idle (input.edit r) o (input.payload r now) where
  quantity _ hx := absurd hx List.not_mem_nil
  waits _ := by
    have hr := ha.portable
    cases o with
    | none =>
      have hnow : now = r.occurredAt := hok
      exact carries_new ⟨hr.deviceId, hr.stockBucket, hr.transferId⟩
        ⟨rfl, rfl, rfl, rfl, hnow, rfl, hr.transferId.symm, rfl, rfl, rfl⟩
    | some row => exact carries_edited hr (ha.kin row rfl) hok
  flies _ hx := absurd hx List.not_mem_nil
  lands _ hx := absurd hx List.not_mem_nil
  kin row ho := (ha.kin row ho).edit input

/-! ## Runs -/

theorem Reached.wholeRow (hpy : w.py.Conforms) (h : Reached rs w Whole s) : Aligned wholeRow w s :=
  h.aligned hpy fun ha hok hrun =>
    ha.command hrun
      (fun hc => by
        obtain ⟨rows, hr, hrows⟩ := hok.sendable.records (F := fun _ => False) hc (yields_of_eval hrun)
        exact ha.recordsAll hr fun m hm hmem outboxId => carries_recorded hm outboxId (hrows _ hmem))
      (fun input r e hcmd hrow halive => by
        subst hcmd
        rw [hok.idle] at halive ⊢
        exact edits_wholeRow halive (hok.sendable r hrow))
      fun t hcmd => by
        subst hcmd
        exact hok.sendable.elim

/-- **Every row of the desktop** is the server's, once nothing is left to be sent. -/
theorem rows_survive (hpy : w.py.Conforms) (h : Reached rs w Whole s) (hq : Quiet s)
    (hr : r ∈ s.desktop.transactions.rows) :
    ∃ row, s.server.ledger.get? r.transactionId = some row ∧ SameRow r row := by
  obtain ⟨row, hrow, -, hsame⟩ := (h.wholeRow hpy).shows hq hr
  exact ⟨row, hrow, hsame⟩

/-! ## Sample runs -/

namespace Sample

open Sync.Sample

/-- What the server has of `TX-1` before the edit. -/
def takes (s : State) : Bool :=
  isIdle s.phase && (s.server.ledger.get? "TX-1").any fun row =>
    row.quantityDelta = 10 ∧ row.reasonCode = none

theorem named : Named "DEV-1" := by decide +kernel

theorem whole_amended {clk : Clock} {s : State} (h : takes s = true) :
    Whole clk s (.updateTransaction (edit "TX-1" 7)) := by
  obtain ⟨hidle, hrow⟩ := Bool.and_eq_true_iff.1 h
  obtain ⟨row, hget, hrow⟩ := (Option.any_eq_true _ _).1 hrow
  obtain ⟨hquantity, hreason⟩ := of_decide_eq_true hrow
  refine ⟨isIdle_eq hidle, fun r _ => ?_⟩
  have hget' : s.server.ledger.get? (edit "TX-1" 7).transactionId = some row := hget
  rw [hget', Taken, if_neg (by rw [hquantity]; decide)]
  exact ⟨fun h => absurd h (by simp [edit]), fun _ => hreason⟩

/-- When `TX-1` took place: in seconds for the desktop, in microseconds for the server. -/
def times (s : State) : Option Int × Option Int :=
  ((s.desktop.transactions.get? "TX-1").map (·.occurredAt),
    (s.server.ledger.get? "TX-1").map (·.occurredAt.wall))

end Sample

open Flight.Sample Sync.Sample in
/-- A receipt is edited after it was pushed, to another quantity and with another number. -/
theorem amended_row_survives :
    ∃ s, acts start (arrival :: push 1 ++ amended :: push 3) = some s ∧
      ∃ r ∈ s.desktop.transactions.rows, r.quantityDelta = 7 ∧
        ∃ row, s.server.ledger.get? r.transactionId = some row ∧ SameRow r row := by
  have hrun : (acts start (arrival :: push 1 ++ amended :: push 3)).any
      (fun s => Quiet s ∧ quantities s = (some 7, some 7)) = true := by decide +kernel
  have htakes : (acts start (arrival :: push 1)).all takes = true := by decide +kernel
  obtain ⟨s, h, hq, hquantities⟩ := exists_acts hrun
  have hr : Reached rust setting Whole s := by
    refine reached_corrected h (fun clk cmd hmem => ?_) ⟨rfl, named⟩ fun s1 h1 => ?_
    · simp [push] at hmem
    · rw [h1] at htakes
      exact whole_amended htakes
  obtain ⟨r, hrow, hr7⟩ := Option.map_eq_some_iff.1 (Prod.mk.inj hquantities).1
  have hmem := Table.mem_of_get? hrow
  exact ⟨s, h, r, hmem, hr7, rows_survive Server.Sample.conforms hr hq hmem⟩

open Flight.Sample Sync.Sample in
/-- An edit before the first push changes the time that the server has. -/
theorem edit_changes_time : ¬ ∀ s, Reached rust setting
    (fun _ s cmd => s.phase = .idle ∧ ∀ t, cmd ≠ .deleteTransaction t) s → Quiet s →
      ∀ r ∈ s.desktop.transactions.rows,
        ∃ row, s.server.ledger.get? r.transactionId = some row ∧ SameRow r row := by
  intro h
  have hrun : (acts start (arrival :: [] ++ amended :: push 3)).any
      (fun s => Quiet s ∧ times s = (some 0, some 2000000)) = true := by decide +kernel
  have hidle : (acts start [arrival]).all (fun s => isIdle s.phase) = true := by decide +kernel
  obtain ⟨s, hs, hq, htimes⟩ := exists_acts hrun
  have hr : Reached rust setting
      (fun _ s cmd => s.phase = .idle ∧ ∀ t, cmd ≠ .deleteTransaction t) s := by
    refine reached_corrected hs (fun clk cmd hmem => ?_) ⟨rfl, fun t ht => by cases ht⟩
      fun s1 h1 => ⟨?_, fun t ht => by cases ht⟩
    · simp [push] at hmem
    · rw [h1] at hidle
      exact isIdle_eq hidle
  obtain ⟨hdesktop, hserver⟩ := Prod.mk.inj htimes
  obtain ⟨r, hrow, hr0⟩ := Option.map_eq_some_iff.1 hdesktop
  obtain ⟨row, hget, hsame⟩ := h s hr hq r (Table.mem_of_get? hrow)
  have hid : r.transactionId = "TX-1" := Table.key_of_get? hrow
  rw [hid] at hget
  rw [hget, Option.map_some, hsame.occurredAt, hr0] at hserver
  cases hserver

end Sync.Flight
