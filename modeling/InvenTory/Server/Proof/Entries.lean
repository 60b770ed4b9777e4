import InvenTory.Server.Proof.Books

/-!
# The entries of the day book

Every ledger row has exactly one entry, which agrees with it, as long as no id is ingested again with
another quantity (`mirrored`): such a resubmission edits the ledger row, and leaves the entry as it
was (`edit_not_mirrored`).
-/

namespace Server

open Relational Sql Sql.Prog

variable {F : Exn → Prop} {py : Python} {env : Env} {p : TransactionPayload} {db db' : Db}

/-- The entry shows the ledger row. -/
structure DayBookEntry.Shows (e : DayBookEntry) (r : InventoryTransaction) : Prop where
  movementType : e.movementType = r.movementType
  productId : e.productId = r.productId
  quantityDelta : e.quantityDelta = r.quantityDelta
  stockBucket : e.stockBucket = r.stockBucket
  referenceNumber : e.referenceNumber = r.referenceNumber
  reasonCode : e.reasonCode = r.reasonCode
  occurredAt : e.occurredAt = r.occurredAt

/-- Every ledger row has one entry, which shows it. -/
def Mirrored (db : Db) : Prop :=
  ∀ r ∈ db.ledger.rows, ∃ e : DayBookEntry,
    db.entries.filter (·.transactionId = r.transactionId) = [e] ∧ e.Shows r

/-- The id of the item is new, or its ledger row has the quantity of the item. -/
def SameQuantity (db : Db) (s : Submission) : Prop :=
  ∀ row, db.ledger.get? s.payload.transactionId = some row →
    row.quantityDelta = s.payload.quantityDelta

/-- A new ledger row gets the only entry with its id, and no other row does. -/
theorem Mirrored.insert (h : Mirrored db) (hb : Backed db)
    (hnew : db.ledger.get? p.transactionId = none)
    (hledger : db'.ledger = db.ledger.put (p.ledgerRow env)) {bookId : String}
    (hentries : db'.entries = db.entries ++ [(p.ledgerRow env).entry env bookId]) :
    Mirrored db' := by
  intro r hr
  rw [hledger] at hr
  rw [hentries, List.filter_append]
  rcases Table.mem_put.1 hr with rfl | ⟨hr, hne⟩
  · have hnone : db.entries.filter (·.transactionId = p.transactionId) = [] := by
      refine List.filter_eq_nil_iff.2 fun e he heq => ?_
      have hsome := hb.entries e he
      rw [of_decide_eq_true heq, hnew] at hsome
      cases hsome
    refine ⟨(p.ledgerRow env).entry env bookId, ?_, ⟨rfl, rfl, rfl, rfl, rfl, rfl, rfl⟩⟩
    show db.entries.filter (·.transactionId = p.transactionId) ++ _ = _
    rw [hnone]
    simp [InventoryTransaction.entry, TransactionPayload.ledgerRow]
  · obtain ⟨e, he, hshows⟩ := h r hr
    refine ⟨e, ?_, hshows⟩
    rw [he, List.filter_cons_of_neg fun heq => hne (of_decide_eq_true heq).symm]
    rfl

theorem Booked.keeps_mirrored (h : Booked py env p db db') (hb : Backed db) (hm : Mirrored db)
    (hsame : ∀ row, db.ledger.get? p.transactionId = some row → row.quantityDelta = p.quantityDelta) :
    Mirrored db' := by
  cases h with
  | unchanged h =>
    unfold Mirrored
    rw [h.ledger, h.entries]
    exact hm
  | edited hrow hne => exact absurd (hsame _ hrow) hne
  | inserted hnew _ _ hledger _ _ hentries => exact hm.insert hb hnew hledger hentries

/-- **The day book mirrors the ledger** in every state of a run in which no id comes with another
quantity than its ledger row has. -/
theorem mirrored {batch : Option (IngestPrefetch × List Item)}
    (h : Bookkeeping F py SameQuantity db batch) : Mirrored db := by
  refine (h.invariant (fun db hdb r hr => ?_) (fun _ _ _ hb hm hG hbooked =>
    hbooked.keeps_mirrored hb hm hG) fun _ _ hm => hm).2
  rw [hdb.ledger] at hr
  cases hr

/-! ## Runs -/

/-- A receipt, and its redelivery under another reference. -/
theorem mirrored_redelivery :
    let receipt := Sample.movement "T-1" "RECEIPT" 10 0
    let again := { receipt with payload := { receipt.payload with referenceNumber := some "R-2" } }
    let db := (push Sample.python (push Sample.python .empty [receipt]).2 [again]).2
    db.entries.length = 1 ∧ Mirrored db := by
  intro receipt again db
  have h1 : Bookkeeping anyFault Sample.python SameQuantity
      (push Sample.python .empty [receipt]).2 none :=
    bookkeeping_batched.pushSingle (.start Sample.unbooked) fun row hrow => by cases hrow
  have h2 : Bookkeeping anyFault Sample.python SameQuantity db none := by
    refine bookkeeping_batched.pushSingle h1 fun row hrow => ?_
    have hq : ∀ row ∈ (push Sample.python .empty [receipt]).2.ledger.get? "T-1",
        row.quantityDelta = 10 := by decide +kernel
    exact hq row hrow
  exact ⟨by decide +kernel, mirrored h2⟩

/-- The ledger has the corrected quantity, the entry the old one. -/
theorem edit_not_mirrored : ¬ ∀ db batch, Bookkeeping noFault Sample.python anyItem db batch →
    Mirrored db := by
  intro h
  have hrun : Bookkeeping noFault Sample.python anyItem (pushAll Sample.python .empty
      [[Sample.movement "T-1" "RECEIPT" 10 0], [Sample.movement "T-1" "RECEIPT" 12 0]]).2 none :=
    bookkeeping_pushAll (fun _ _ => trivial) _ (.start Sample.unbooked)
  generalize hdb : (pushAll Sample.python .empty
    [[Sample.movement "T-1" "RECEIPT" 10 0], [Sample.movement "T-1" "RECEIPT" 12 0]]).2 = db at hrun
  have hrow : (db.ledger.get? "T-1").map (·.quantityDelta) = some 12 := by
    rw [← hdb]
    decide +kernel
  have hentry : ∀ e ∈ db.entries, e.quantityDelta = 10 := by
    rw [← hdb]
    decide +kernel
  obtain ⟨row, hget, hq⟩ := Option.map_eq_some_iff.1 hrow
  obtain ⟨e, he, hshows⟩ := h _ _ hrun row (Table.mem_of_get? hget)
  have hmem : e ∈ db.entries := List.mem_of_mem_filter (he ▸ List.mem_singleton.2 rfl)
  have hne := (hentry e hmem).symm.trans (hshows.quantityDelta.trans hq)
  omega

end Server
