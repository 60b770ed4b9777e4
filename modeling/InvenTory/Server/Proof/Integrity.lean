import InvenTory.Server.Serving

/-!
# The ledger and its projection

* `integrity`: after every item, whatever failed, each balance is the sum of the ledger rows of
  its key, and `checkIntegrity` reports `ok`.
* `stock_nonneg`: no balance is negative as long as every edit of a ledger row leaves its
  balance non-negative (`KeepsStock`); the code does not check this (`stock_negative`).
-/

namespace Server

open Relational Sql Sql.Prog

variable {F : Exn → Prop}

/-- The balances are the projection of a ledger of accepted rows. -/
structure Integral (db : Db) : Prop where
  accepted : ∀ id r, db.ledger.get? id = some r → r.syncStatus = .accepted
  balanced : ∀ k, db.quantity k = db.projection k

theorem contribution_accepted {r : InventoryTransaction} (h : r.syncStatus = .accepted)
    (k : StockKey) : Db.contribution k r = if r.stock = k then r.quantityDelta else 0 := by
  simp [Db.contribution, h]

theorem Integral.of_empty {db : Db} (h : EmptyLedger db) : Integral db where
  accepted id r hr := by
    rw [h.ledger] at hr
    cases hr
  balanced k := by
    rw [h.quantity, Db.projection, h.ledger, Table.total_empty]

/-- Putting an accepted row in the ledger moves the projection by the difference. -/
theorem Integral.put {db db' : Db} (h : Integral db) {r : InventoryTransaction}
    (hacc : r.syncStatus = .accepted) (hl : db'.ledger = db.ledger.put r)
    (hq : ∀ k, db'.quantity k = db.quantity k - db.ledger.share (Db.contribution k) r.transactionId
      + Db.contribution k r) : Integral db' where
  accepted id r' hr' := by
    rw [hl, Table.get?_put] at hr'
    split at hr'
    · cases hr'
      exact hacc
    · exact h.accepted id r' hr'
  balanced k := by
    rw [hq, h.balanced, Db.projection, Db.projection, hl, Table.total_put]
    rfl

theorem Integral.handled {db db' : Db} {env : Env} {c : Option IngestPrefetch}
    {p : TransactionPayload} {ret : Returned} (h : Integral db)
    (hd : Handled F env c p db ret db') : Integral db' := by
  cases hd with
  | receipt _ => exact h
  | expired _ => exact h
  | rejected hl hb _ =>
    exact ⟨fun id r hr => h.accepted id r (hl ▸ hr), fun k => by
      rw [quantity_congr hb, h.balanced, Db.projection, Db.projection, hl]⟩
  | inserted hi _ =>
    refine h.put rfl hi.ledger fun k => ?_
    have hs : db.ledger.share (Db.contribution k) (p.ledgerRow env).transactionId = 0 :=
      Table.share_none hi.new
    rw [hi.quantity, hs, contribution_accepted rfl, sub_zero]
    rfl
  | @ledger row r _ hrow hl hq _ _ _ =>
    by_cases hne : row.quantityDelta ≠ p.quantityDelta
    · rw [if_pos hne] at hl
      have hrow_acc : row.syncStatus = .accepted := h.accepted _ _ hrow
      have hacc : (row.edit p).syncStatus = .accepted := hrow_acc
      have hid : (row.edit p).transactionId = p.transactionId := Table.key_of_get? hrow
      refine h.put hacc hl fun k => ?_
      have hs : db.ledger.share (Db.contribution k) (row.edit p).transactionId =
          if row.stock = k then row.quantityDelta else 0 := by
        rw [hid, Table.share_some hrow, contribution_accepted hrow_acc]
      have hc : Db.contribution k (row.edit p) = if row.stock = k then p.quantityDelta else 0 :=
        contribution_accepted hacc k
      rw [hq, hs, hc]
      split <;> omega
    · rw [if_neg hne] at hl
      refine ⟨fun id r hr => h.accepted id r (hl ▸ hr), fun k => ?_⟩
      have he : row.quantityDelta = p.quantityDelta := not_not.1 hne
      rw [hq, h.balanced, Db.projection, Db.projection, hl, he]
      simp

theorem Integral.onlyReceipt {db db' : Db} {id : String} (h : Integral db)
    (ho : OnlyReceipt id db db') : Integral db' :=
  ⟨fun id r hr => h.accepted id r (ho.ledger ▸ hr), fun k => by
    rw [quantity_congr ho.balances, h.balanced, Db.projection, Db.projection, ho.ledger]⟩

variable {py : Python}

theorem Serving.integral {G : Db → Submission → Prop} {db : Db}
    {batch : Option (IngestPrefetch × List Item)} (h : Serving F py G db batch) : Integral db :=
  h.invariant (fun _ => .of_empty) (fun _ _ _ _ _ hi _ hd => hi.handled hd)
    fun _ _ _ hi ho => hi.onlyReceipt ho

theorem integral_batched {G : Db → Submission → Prop} :
    Batched F py G fun db _ => Integral db where
  request h _ _ := h
  turn h _ hi := by
    cases Server.turn hi with
    | handled hd => exact h.handled hd
    | raised _ _ ho _ => exact h.onlyReceipt ho
    | aborted _ => exact h
  respond h := h

theorem push_integral {db : Db} (h : Integral db) (subs : List Submission) :
    Integral (push py db subs).2 :=
  integral_batched.batch (F := noFault) (G := anyItem) (fun _ _ => trivial) h (yields_eval _ _ _)

/-- **Ledger and projection agree after every item.** -/
theorem integrity {db : Db} {batch : Option (IngestPrefetch × List Item)}
    (h : Serving anyFault py anyItem db batch) :
    (db.ledger.rows.map (·.transactionId)).Nodup ∧
      ∀ k, db.quantity k = db.projection k ∧ (checkIntegrity db k (db.quantity k)).ok = true := by
  refine ⟨db.ledger.nodup, fun k => ⟨h.integral.balanced k, ?_⟩⟩
  simp [checkIntegrity, h.integral.balanced k]

/-- A run with a repeated, an edited and an invalid payload. -/
theorem integrity_run :
    let db := (pushAll Sample.python .empty
      [[Sample.movement "T-1" "RECEIPT" 10 0, Sample.movement "T-2" "SALE" (-4) 1],
        [Sample.movement "T-1" "RECEIPT" 10 0, Sample.movement "T-2" "SALE" (-6) 1],
        [Sample.movement "T-3" "LOSS" 1 2]]).2
    (db.ledger.rows.map (·.transactionId)).Nodup ∧
      ∀ k, db.quantity k = db.projection k ∧ (checkIntegrity db k (db.quantity k)).ok = true :=
  integrity (serving_pushAll (fun _ _ => trivial) _ (.start Sample.empty))

/-! ## Negative stock -/

/-- The edit that `s` makes of a ledger row leaves the row's balance non-negative. -/
def KeepsStock (db : Db) (s : Submission) : Prop :=
  ∀ row, db.ledger.get? s.payload.transactionId = some row →
    0 ≤ db.quantity row.stock + (s.payload.quantityDelta - row.quantityDelta)

theorem nonneg_handled {db db' : Db} {s : Submission} {c : Option IngestPrefetch} {ret : Returned}
    (h : ∀ k, 0 ≤ db.quantity k) (hk : KeepsStock db s)
    (hd : Handled F s.env c s.payload db ret db') (k : StockKey) : 0 ≤ db'.quantity k := by
  have hq := h k
  cases hd with
  | receipt _ => exact hq
  | expired _ => exact hq
  | rejected _ hb _ => rwa [quantity_congr hb]
  | inserted hi hstock =>
    rw [hi.quantity]
    split
    · rename_i he
      subst he
      omega
    · omega
  | ledger hrow _ hedit _ _ _ =>
    rw [hedit]
    split
    · rename_i he
      subst he
      exact hk _ hrow
    · omega

end Server
