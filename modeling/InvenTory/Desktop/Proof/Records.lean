import InvenTory.Desktop.Proof.Effect

/-!
# Commands

`Command` lists the stock commands. Those that only create transactions (`Command.creates`) record
movements and change nothing else the sync reads (`Records`).
-/

namespace Desktop

open Relational Sql Sql.Prog
open Server (StockKey)

inductive Command
  | receiveStock (input : ReceiveStockInput)
  | sellStock (input : SellStockInput)
  | returnStock (input : ReturnStockInput)
  | moveStockBucket (input : MoveStockBucketInput)
  | adjustStock (input : AdjustStockInput)
  | createTransfer (input : CreateTransferInput)
  | dispatchTransfer (transferId userId deviceId : String)
  | receiveTransfer (transferId userId deviceId : String)
  | cancelTransfer (transferId userId deviceId : String)
  | updateTransaction (input : UpdateTransactionInput)
  | deleteTransaction (transactionId : String)

namespace Command

/-- Run a command, without its result. -/
def run (rs : Rust) (clk : Clock) : Command → Prog String Db Unit
  | .receiveStock input => discard (Desktop.receiveStock clk input)
  | .sellStock input => discard (Desktop.sellStock clk input)
  | .returnStock input => discard (Desktop.returnStock rs clk input)
  | .moveStockBucket input => discard (Desktop.moveStockBucket rs clk input)
  | .adjustStock input => discard (Desktop.adjustStock rs clk input)
  | .createTransfer input => discard (Desktop.createTransfer clk input)
  | .dispatchTransfer t user device => discard (Desktop.dispatchTransfer clk t user device)
  | .receiveTransfer t user device => discard (Desktop.receiveTransfer clk t user device)
  | .cancelTransfer t user device => discard (Desktop.cancelTransfer clk t user device)
  | .updateTransaction input => discard (Desktop.updateTransaction clk input)
  | .deleteTransaction t => Desktop.deleteTransaction clk t
where
  discard {α : Type} (p : Prog String Db α) : Prog String Db Unit := do
    let _ ← p
    pure ()

/-- The command only creates transactions. -/
def creates : Command → Bool
  | .updateTransaction _ | .deleteTransaction _ => false
  | _ => true

end Command

variable {F : String → Prop} {d d' : Db}

theorem yields_discard_ok {α : Type} {p : Prog String Db α} {u : Unit}
    (h : (Command.run.discard p).Yields F d (.ok u) d') : ∃ a, p.Yields F d (.ok a) d' := by
  obtain ⟨a, d1, h1, h2⟩ := yields_bind_ok h
  obtain ⟨-, rfl⟩ := yields_pure h2
  exact ⟨a, h1⟩

/-- What the commands see to: the bucket is not empty, and the id does not look like a tombstone. -/
structure Movement.Proper (m : Movement) : Prop where
  bucket : m.stockBucket ≠ ""
  id : ∃ rest, m.transactionId = "TX" ++ rest

theorem generateId_proper (n : Nat) : ∃ rest, generateId "TX" n = "TX" ++ rest :=
  ⟨"-" ++ _, String.append_assoc ..⟩

theorem generateId_adj_proper (n : Nat) : ∃ rest, generateId "TX-ADJ" n = "TX" ++ rest :=
  ⟨"-ADJ" ++ ("-" ++ _), by rw [generateId, String.append_assoc, ← String.append_assoc]; rfl⟩

theorem available_ne : "AVAILABLE" ≠ "" := by decide

/-- Movements are recorded, which have become `rows`. -/
inductive RecordsAll (now : Instant) : List InventoryTransaction → Db → Db → Prop
  | same {d d' : Db} (h : SameStock d d') : RecordsAll now [] d d'
  | cons {m : Movement} {outboxId : String} {rows : List InventoryTransaction} {d d1 d' : Db}
    (hm : m.Proper) (h : Recorded m outboxId now d d1) (hr : RecordsAll now rows d1 d') :
    RecordsAll now (m.row now :: rows) d d'

/-- Any number of movements are recorded. -/
inductive Records (now : Instant) : Db → Db → Prop
  | same {d d' : Db} (h : SameStock d d') : Records now d d'
  | cons {m : Movement} {outboxId : String} {d d1 d' : Db} (hm : m.Proper)
    (h : Recorded m outboxId now d d1) (hr : Records now d1 d') : Records now d d'

theorem RecordsAll.records {now : Instant} {rows : List InventoryTransaction}
    (h : RecordsAll now rows d d') : Records now d d' := by
  induction h with
  | same hs => exact .same hs
  | cons hm hr _ ih => exact .cons hm hr ih

theorem Recorded.records {m : Movement} {outboxId : String} {now : Instant} {d1 : Db}
    (hm : m.Proper) (h : Recorded m outboxId now d d1) (hs : SameStock d1 d') :
    RecordsAll now [m.row now] d d' := .cons hm h (.same hs)

theorem SameStock.records {now : Instant} {rows : List InventoryTransaction} {d1 : Db}
    (h : SameStock d d1) (hr : RecordsAll now rows d1 d') : RecordsAll now rows d d' := by
  cases hr with
  | same h' => exact .same (h.trans h')
  | cons hm hr hrest => exact .cons hm (hr.of_same h) hrest

/-- The movement that has become `r` is recorded. -/
structure Posts (now : Instant) (k : StockKey) (delta : Int) (r : InventoryTransaction) (d d' : Db) :
    Prop where
  records : RecordsAll now [r] d d'
  stock : r.stock = k
  delta : r.quantityDelta = delta

/-- A movement between stores is recorded for a transfer. -/
def CarriesFor (now : Instant) (storeId : String) (d d' : Db) : Prop :=
  ∃ r, r.storeId = storeId ∧ RecordsAll now [r] d d'

/-! ## The commands one by one -/

variable {rs : Rust} {clk : Clock}

theorem receiveStock_ok {input : ReceiveStockInput} {r : InventoryTransaction}
    (h : (receiveStock clk input).Yields F d (.ok r) d') :
    Posts clk.now (available input.storeId input.productId) input.quantity.toInt r d d' := by
  unfold receiveStock at h
  obtain ⟨-, h⟩ := yields_require_bind h
  obtain ⟨_, d1, h1, h⟩ := yields_bind_ok h
  obtain ⟨_, d2, h2, h⟩ := yields_bind_ok h
  obtain ⟨hr, rfl⟩ := yields_pure h
  cases hr
  have hm : Movement.Proper ⟨generateId "TX" (clk.nanos 0), input.storeId, input.productId,
      "RECEIPT", "AVAILABLE", input.quantity, input.userId, input.deviceId, input.referenceNumber,
      input.supplier, none⟩ := ⟨available_ne, generateId_proper _⟩
  exact ⟨(ensureForeignKeysExist_ok h1).records ((record_session_ok h2).records hm (.refl _)), rfl,
    rfl⟩

theorem sellStock_ok {input : SellStockInput} {r : InventoryTransaction}
    (h : (sellStock clk input).Yields F d (.ok r) d') :
    Posts clk.now (available input.storeId input.productId) (-input.quantity).toInt r d d' := by
  unfold sellStock at h
  obtain ⟨-, h⟩ := yields_require_bind h
  obtain ⟨-, h⟩ := yields_require_bind h
  obtain ⟨_, d1, h1, h⟩ := yields_bind_ok h
  obtain ⟨_, d2, h2, h⟩ := yields_bind_ok h
  cases (requireStock_ok h2).1
  obtain ⟨_, d3, h3, h⟩ := yields_bind_ok h
  obtain ⟨hr, rfl⟩ := yields_pure h
  cases hr
  have hm : Movement.Proper ⟨generateId "TX" (clk.nanos 0), input.storeId, input.productId,
      "SALE", "AVAILABLE", -input.quantity, input.userId, input.deviceId, input.referenceNumber,
      none, none⟩ := ⟨available_ne, generateId_proper _⟩
  exact ⟨(ensureForeignKeysExist_ok h1).records ((record_session_ok h3).records hm (.refl _)), rfl,
    rfl⟩

theorem onlyIf_requireStock_ok {p : Prop} [Decidable p] {k : StockKey} {q : Int32}
    {m : Int32 → String} {u : Unit}
    (h : (onlyIf p (requireStock k q m)).Yields F d (.ok u) d') : d' = d := by
  rcases yields_onlyIf_ok h with ⟨-, h⟩ | ⟨-, h⟩
  · exact (requireStock_ok h).1
  · exact h

theorem ne_of_mem_buckets {b : String}
    (h : b ∈ ["AVAILABLE", "DAMAGED", "QUARANTINE", "IN_TRANSIT"]) : b ≠ "" := by
  rintro rfl
  exact absurd h (by decide)

/-- The bucket that a return goes to. -/
def ReturnStockInput.bucket (rs : Rust) (input : ReturnStockInput) : String :=
  rs.toUppercase (trim input.stockBucket)

def ReturnStockInput.delta (rs : Rust) (input : ReturnStockInput) : Int32 :=
  if rs.toUppercase (trim input.returnType) = "CUSTOMER" then input.quantity else -input.quantity

theorem returnStock_ok {input : ReturnStockInput} {r : InventoryTransaction}
    (h : (returnStock rs clk input).Yields F d (.ok r) d') :
    Posts clk.now ⟨input.storeId, input.productId, input.bucket rs⟩ (input.delta rs).toInt r d d' := by
  unfold returnStock at h
  obtain ⟨-, h⟩ := yields_require_bind h
  obtain ⟨-, h⟩ := yields_require_bind h
  obtain ⟨hb, h⟩ := yields_require_bind h
  obtain ⟨_, d1, h1, h⟩ := yields_bind_ok h
  cases onlyIf_requireStock_ok h1
  obtain ⟨_, d2, h2, h⟩ := yields_bind_ok h
  obtain ⟨_, d3, h3, h⟩ := yields_bind_ok h
  obtain ⟨hr, rfl⟩ := yields_pure h
  cases hr
  exact ⟨(ensureForeignKeysExist_ok h2).records
    ((record_autocommit_ok h3).records ⟨ne_of_mem_buckets hb, generateId_proper _⟩ (.refl _)), rfl,
    rfl⟩

/-- The statements of a move come to its two movements, one after the other. -/
theorem recordMove_ok {out into : Movement} {u : Unit} (hout : out.Proper) (hin : into.Proper)
    (h : (recordMove out into clk).Yields F d (.ok u) d') :
    RecordsAll clk.now [out.row clk.now, into.row clk.now] d d' := by
  unfold recordMove at h
  obtain ⟨_, d1, h1, h⟩ := yields_bind_ok h
  obtain ⟨_, d2, h2, h⟩ := yields_bind_ok h
  obtain ⟨_, d3, h3, h⟩ := yields_bind_ok h
  obtain ⟨_, d4, h4, h⟩ := yields_bind_ok h
  obtain ⟨_, d5, h5, h6⟩ := yields_bind_ok h
  obtain ⟨n1, t1, b1, o1⟩ := insertTransaction_ok (yields_autocommit_ok (yields_context_ok h1))
  obtain ⟨n2, t2, b2, o2⟩ := insertTransaction_ok (yields_autocommit_ok (yields_context_ok h2))
  obtain ⟨t3, o3, q3⟩ := addToBalance_ok (yields_autocommit_ok (yields_context_ok h3))
  obtain ⟨t4, o4, q4⟩ := addToBalance_ok (yields_autocommit_ok (yields_context_ok h4))
  obtain ⟨f5, o5, t5, b5⟩ := insertEvent_ok (yields_autocommit_ok (yields_context_ok h5))
  obtain ⟨f6, o6, t6, b6⟩ := insertEvent_ok (yields_autocommit_ok (yields_context_ok h6))
  have hq3 : ∀ k, d3.quantity k =
      d.quantity k + if out.stock = k then out.quantityDelta.toInt else 0 := fun k => by
    rw [q3, quantity_congr b2, quantity_congr b1]
  have hf5 : d.outbox.get? (eventId out.transactionId) = none := by
    rwa [o4, o3, o2, o1] at f5
  have hmid : Recorded out (generateId "OB" (clk.nanos 2)) clk.now d
      { d3 with transactions := d1.transactions, outbox := d5.outbox } :=
    ⟨n1, t1, hq3, hf5, by rw [o5, o4, o3, o2, o1]⟩
  refine .cons hout hmid (.cons hin ⟨n2, ?_, fun k => ?_, f6, o6⟩ (.same (.refl d')))
  · rw [t6, t5, t4, t3, t2]
  · rw [quantity_congr b6, quantity_congr b5, q4]
    rfl

theorem moveStockBucket_ok {input : MoveStockBucketInput} {rows : List InventoryTransaction}
    (h : (moveStockBucket rs clk input).Yields F d (.ok rows) d') :
    RecordsAll clk.now rows d d' ∧ ∃ out into, rows = [out, into] ∧
      out.stock = ⟨input.storeId, input.productId, rs.toUppercase (trim input.fromBucket)⟩ ∧
      out.quantityDelta = (-input.quantity).toInt ∧
      into.stock = ⟨input.storeId, input.productId, rs.toUppercase (trim input.toBucket)⟩ ∧
      into.quantityDelta = input.quantity.toInt := by
  unfold moveStockBucket at h
  obtain ⟨-, h⟩ := yields_require_bind h
  obtain ⟨-, h⟩ := yields_require_bind h
  obtain ⟨hb, h⟩ := yields_require_bind h
  obtain ⟨-, h⟩ := yields_require_bind h
  obtain ⟨_, d1, h1, h⟩ := yields_bind_ok h
  cases (requireStock_ok h1).1
  obtain ⟨_, d2, h2, h⟩ := yields_bind_ok h
  obtain ⟨_, d3, h3, h⟩ := yields_bind_ok h
  obtain ⟨hrows, rfl⟩ := yields_pure h
  cases hrows
  have hne : ∀ b ∈ ["AVAILABLE", "DAMAGED", "QUARANTINE"], b ≠ "" := by decide
  exact ⟨(ensureForeignKeysExist_ok h2).records (recordMove_ok ⟨hne _ hb.1, generateId_proper _⟩
    ⟨hne _ hb.2, generateId_proper _⟩ h3), _, _, rfl, rfl, rfl, rfl, rfl⟩

theorem adjustStock_ok {input : AdjustStockInput} {r : InventoryTransaction}
    (h : (adjustStock rs clk input).Yields F d (.ok r) d') :
    Posts clk.now (available input.storeId input.productId) input.quantityDelta.toInt r d d' := by
  unfold adjustStock at h
  obtain ⟨-, h⟩ := yields_require_bind h
  obtain ⟨_, d1, h1, h⟩ := yields_bind_ok h
  have hd1 : d1 = d := by
    rcases yields_onlyIf_ok h1 with ⟨-, h1⟩ | ⟨-, h1⟩
    · exact (requireAdjustable_ok h1).1
    · exact h1
  rw [hd1] at h
  obtain ⟨_, d2, h2, h⟩ := yields_bind_ok h
  obtain ⟨_, d3, h3, h⟩ := yields_bind_ok h
  obtain ⟨hr, rfl⟩ := yields_pure h
  cases hr
  exact ⟨(ensureForeignKeysExist_ok h2).records ((record_autocommit_ok h3).records
    ⟨available_ne, generateId_adj_proper _⟩ (.refl _)), rfl, rfl⟩

theorem createTransfer_ok {input : CreateTransferInput} {t : Transfer}
    (h : (createTransfer clk input).Yields F d (.ok t) d') : SameStock d d' := by
  unfold createTransfer at h
  obtain ⟨-, h⟩ := yields_require_bind h
  obtain ⟨-, h⟩ := yields_require_bind h
  obtain ⟨_, d1, h1, h⟩ := yields_bind_ok h
  obtain ⟨_, d2, h2, h⟩ := yields_bind_ok h
  obtain ⟨_, d3, h3, h⟩ := yields_bind_ok h
  obtain ⟨-, rfl⟩ := yields_pure h
  have hs : SameStock d2 d' := by
    have h3 := yields_autocommit_ok (yields_context_ok h3)
    unfold Db.insertTransfer at h3
    split at h3
    · cases h3
    · split at h3 <;> cases h3
      exact ⟨rfl, rfl, rfl⟩
  exact ((ensureForeignKeysExist_ok h1).trans (ensureForeignKeysExist_ok h2)).trans hs

theorem selectTransfer_ok {id : String} {t : Transfer}
    (h : (selectTransfer id).Yields F d (.ok t) d') : d' = d ∧ d.transfers.get? id = some t := by
  have h := yields_query_bind h
  split at h
  · rename_i t' ht
    obtain ⟨he, rfl⟩ := yields_pure h
    cases he
    exact ⟨rfl, ht⟩
  · cases (yields_throw h).1

theorem setTransferStatus_ok {id status : String} {now : Instant} {u : Unit}
    (h : (setTransferStatus id status now).Yields F d (.ok u) d') : SameStock d d' := by
  cases yields_autocommit_ok (yields_context_ok h)
  unfold Db.updateTransfer
  split <;> exact ⟨rfl, rfl, rfl⟩

theorem dispatchTransfer_ok {id user device : String} {t : Transfer}
    (h : (dispatchTransfer clk id user device).Yields F d (.ok t) d') :
    ∃ t0, d.transfers.get? id = some t0 ∧ CarriesFor clk.now t0.sourceStoreId d d' := by
  unfold dispatchTransfer at h
  obtain ⟨t0, d1, h1, h'⟩ := yields_bind_ok h
  obtain ⟨rfl, ht⟩ := selectTransfer_ok h1
  obtain ⟨-, h⟩ := yields_require_bind h'
  obtain ⟨_, d2, h2, h⟩ := yields_bind_ok h
  cases (requireStock_ok h2).1
  obtain ⟨_, d3, h3, h⟩ := yields_bind_ok h
  obtain ⟨_, d4, h4, h⟩ := yields_bind_ok h
  obtain ⟨_, d5, h5, h⟩ := yields_bind_ok h
  obtain ⟨-, rfl⟩ := yields_pure h
  exact ⟨t0, ht, _, rfl, ((ensureForeignKeysExist_ok h3).trans (setTransferStatus_ok h4)).records
    ((record_autocommit_ok h5).records ⟨available_ne, generateId_proper _⟩ (.refl _))⟩

theorem receiveTransfer_ok {id user device : String} {t : Transfer}
    (h : (receiveTransfer clk id user device).Yields F d (.ok t) d') :
    ∃ t0, d.transfers.get? id = some t0 ∧ CarriesFor clk.now t0.destinationStoreId d d' := by
  unfold receiveTransfer at h
  obtain ⟨t0, d1, h1, h'⟩ := yields_bind_ok h
  obtain ⟨rfl, ht⟩ := selectTransfer_ok h1
  obtain ⟨-, h⟩ := yields_require_bind h'
  obtain ⟨_, d3, h3, h⟩ := yields_bind_ok h
  obtain ⟨_, d4, h4, h⟩ := yields_bind_ok h
  obtain ⟨_, d5, h5, h⟩ := yields_bind_ok h
  obtain ⟨-, rfl⟩ := yields_pure h
  exact ⟨t0, ht, _, rfl, ((ensureForeignKeysExist_ok h3).trans (setTransferStatus_ok h4)).records
    ((record_autocommit_ok h5).records ⟨available_ne, generateId_proper _⟩ (.refl _))⟩

theorem cancelTransfer_ok {id user device : String} {t : Transfer}
    (h : (cancelTransfer clk id user device).Yields F d (.ok t) d') :
    ∃ t0, d.transfers.get? id = some t0 ∧
      (t0.status ∈ ["DISPATCHED", "EXCEPTION"] ∧ CarriesFor clk.now t0.sourceStoreId d d' ∨
        SameStock d d') := by
  unfold cancelTransfer at h
  obtain ⟨t0, d1, h1, h'⟩ := yields_bind_ok h
  obtain ⟨rfl, ht⟩ := selectTransfer_ok h1
  obtain ⟨-, h⟩ := yields_require_bind h'
  obtain ⟨_, d3, h3, h⟩ := yields_bind_ok h
  obtain ⟨_, d4, h4, h⟩ := yields_bind_ok h
  obtain ⟨_, d5, h5, h⟩ := yields_bind_ok h
  obtain ⟨-, rfl⟩ := yields_pure h
  have hs := setTransferStatus_ok h5
  have hsame := ensureForeignKeysExist_ok h3
  refine ⟨t0, ht, ?_⟩
  rcases yields_onlyIf_ok h4 with ⟨hw, h4⟩ | ⟨-, rfl⟩
  · exact .inl ⟨hw, _, rfl, hsame.records
      ((record_autocommit_ok h4).records ⟨available_ne, generateId_proper _⟩ hs)⟩
  · exact .inr (hsame.trans hs)

/-- **A command that only creates transactions records movements.** -/
theorem Command.records {cmd : Command} {u : Unit} (hc : cmd.creates = true)
    (h : (cmd.run rs clk).Yields F d (.ok u) d') : Records clk.now d d' := by
  cases cmd with
  | receiveStock _ => exact (receiveStock_ok (yields_discard_ok h).choose_spec).records.records
  | sellStock _ => exact (sellStock_ok (yields_discard_ok h).choose_spec).records.records
  | returnStock _ => exact (returnStock_ok (yields_discard_ok h).choose_spec).records.records
  | moveStockBucket _ => exact (moveStockBucket_ok (yields_discard_ok h).choose_spec).1.records
  | adjustStock _ => exact (adjustStock_ok (yields_discard_ok h).choose_spec).records.records
  | createTransfer _ => exact .same (createTransfer_ok (yields_discard_ok h).choose_spec)
  | dispatchTransfer _ _ _ =>
    obtain ⟨_, -, _, -, hr⟩ := dispatchTransfer_ok (yields_discard_ok h).choose_spec
    exact hr.records
  | receiveTransfer _ _ _ =>
    obtain ⟨_, -, _, -, hr⟩ := receiveTransfer_ok (yields_discard_ok h).choose_spec
    exact hr.records
  | cancelTransfer _ _ _ =>
    obtain ⟨_, -, ⟨-, _, -, hr⟩ | hs⟩ := cancelTransfer_ok (yields_discard_ok h).choose_spec
    · exact hr.records
    · exact .same hs
  | updateTransaction _ => cases hc
  | deleteTransaction _ => cases hc

end Desktop
