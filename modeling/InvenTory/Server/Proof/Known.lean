import InvenTory.Server.Proof.Admission

/-!
# Ids that the ledger holds

Without faults every ledger row keeps a balance row and an accepted receipt (`Sound`), and the
cache of a batch knows the rows and the receipts of the items to come (`Tracks`). So a payload
whose id is in the ledger is answered with that receipt, and one that also has the quantity of the
row leaves the database alone (`eval_ingestItem_copy`). `turn_sound` is the step lemma.
-/

namespace Server

open Relational Sql Sql.Prog

variable {py : Python}

/-- Every ledger row has its balance row and an accepted receipt. -/
structure Sound (db : Db) : Prop where
  balance : ∀ id row, db.ledger.get? id = some row → (db.balances.get? row.stock).isSome
  receipt : ∀ id row, db.ledger.get? id = some row →
    ∃ r, db.receipts.get? id = some r ∧ r.accepted = true

/-- The cache knows the ledger rows and the receipts of `items`. -/
structure Tracks (c : IngestPrefetch) (items : List Item) (db : Db) : Prop where
  ledger : ∀ x ∈ items, (db.ledger.get? x.2.id).isSome → x.2.id ∈ c.ledgerTxIds
  receipt : ∀ x ∈ items, c.receiptByTx x.2.id = db.receipts.get? x.2.id

theorem EmptyLedger.sound {db : Db} (h : EmptyLedger db) : Sound db := by
  have hn : ∀ id row, db.ledger.get? id ≠ some row := by
    intro id row hr
    rw [h.ledger] at hr
    cases hr
  exact ⟨fun id row hr => absurd hr (hn id row), fun id row hr => absurd hr (hn id row)⟩

theorem Tracks.of_subset {c : IngestPrefetch} {items items' : List Item} {db : Db}
    (h : Tracks c items db) (hs : items' ⊆ items) : Tracks c items' db :=
  ⟨fun x hx => h.ledger x (hs hx), fun x hx => h.receipt x (hs hx)⟩

theorem tracks_loaded {ps : List TransactionPayload} {items : List Item} (db : Db)
    (h : ∀ x ∈ items, x.2.payload ∈ ps) : Tracks (.loaded ps db) items db where
  ledger x hx hl := List.mem_filter.2 ⟨List.mem_map_of_mem (h x hx), hl⟩
  receipt x hx := if_pos (List.mem_map_of_mem (h x hx))

/-! ## The ledger answers -/

theorem eval_editLedgerRow (env : Env) (p : TransactionPayload) {row : InventoryTransaction}
    {db : Db} (hb : (db.balances.get? row.stock).isSome) :
    ∃ w, (editLedgerRow env p row).eval ⟨db, db⟩ = (.ok (), ⟨db, w⟩) := by
  unfold editLedgerRow
  split
  · obtain ⟨w, hw, -⟩ := eval_upsertStockBalance db env.balanceId row.stock
      (p.quantityDelta - row.quantityDelta) env.now (.inl hb)
    refine ⟨w.updateLedger (row.edit p), ?_⟩
    rw [eval_execute_bind hw]
    exact eval_execute_ok rfl
  · exact ⟨db, rfl⟩

theorem eval_selectLedgerRow_some {c : IngestPrefetch} {id : String} {cn : Conn Db}
    {row : InventoryTransaction} (hl : id ∈ c.ledgerTxIds)
    (hrow : cn.work.ledger.get? id = some row) :
    (selectLedgerRow (some c) id).eval cn = (.ok (some row), cn) := by
  unfold selectLedgerRow
  rw [if_neg (by simpa using hl), eval_mapError, eval_select, hrow]
  rfl

/-- An id in the ledger is answered with its accepted receipt, after the edit. -/
theorem eval_impl_known (env : Env) {c : IngestPrefetch} {p : TransactionPayload} {db w : Db}
    {row : InventoryTransaction} {r : SyncReceipt}
    (hrow : db.ledger.get? p.transactionId = some row) (hl : p.transactionId ∈ c.ledgerTxIds)
    (hr : c.receiptByTx p.transactionId = some r) (hacc : r.accepted = true)
    (hw : (editLedgerRow env p row).eval ⟨db, db⟩ = (.ok (), ⟨db, w⟩)) :
    (ingestTransactionImpl py env p (some c)).eval ⟨db, db⟩ = (.ok (.live r), ⟨db, w⟩) := by
  have hf : (ledgerFirst env (some c) p row).eval ⟨db, db⟩ = (.ok r, ⟨db, w⟩) := by
    have hlook : lookupReceipt (some c) p.transactionId = pure (some r) := by
      simp [lookupReceipt, hr, hacc]
    unfold ledgerFirst
    rw [eval_bind_ok hw, hlook, eval_bind_ok (eval_pure _ _)]
    simp [hacc]
  unfold ingestTransactionImpl
  rw [eval_bind_ok (eval_selectLedgerRow_some hl hrow)]
  simp only
  rw [eval_bind_ok hf]
  rfl

variable {c : IngestPrefetch} {i : Nat} {s : Submission} {items : List Item} {db : Db}

variable (py) in
theorem eval_ingestItem_known {row : InventoryTransaction} (hs : Sound db)
    (ht : Tracks c ((i, s) :: items) db) (hrow : db.ledger.get? s.id = some row) :
    ∃ r w, (ingestItem py c s).eval db = (.ok (r, c.record s.payload r), w) ∧
      r.accepted = true ∧ db.receipts.get? s.id = some r ∧
      (editLedgerRow s.env s.payload row).eval ⟨db, db⟩ = (.ok (), ⟨db, w⟩) := by
  obtain ⟨r, hr, hacc⟩ := hs.receipt _ _ hrow
  have hl := ht.ledger _ List.mem_cons_self (by simp [hrow])
  have hc := (ht.receipt _ List.mem_cons_self).trans hr
  obtain ⟨w, hw⟩ := eval_editLedgerRow s.env s.payload (hs.balance _ _ hrow)
  exact ⟨r, w, eval_ingestItem (eval_impl_known s.env hrow hl hc hacc hw) rfl, hacc, hr, hw⟩

variable (py) in
/-- **A copy changes nothing**: the quantity is that of the ledger row. -/
theorem eval_ingestItem_copy (hs : Sound db) (ht : Tracks c ((i, s) :: items) db)
    (hd : (db.ledger.get? s.id).map (·.quantityDelta) = some s.payload.quantityDelta) :
    ∃ r, (ingestItem py c s).eval db = (.ok (r, c.record s.payload r), db) ∧
      r.accepted = true ∧ db.receipts.get? s.id = some r := by
  obtain ⟨row, hrow, hq⟩ := Option.map_eq_some_iff.1 hd
  obtain ⟨r, w, hw, hacc, hr, hedit⟩ := eval_ingestItem_known py hs ht hrow
  have hnone : editLedgerRow s.env s.payload row = pure () := if_neg (not_not.2 hq)
  rw [hnone] at hedit
  cases hedit
  exact ⟨r, hw, hacc, hr⟩

/-! ## The step -/

theorem Sound.onlyReceipt {db' : Db} {id : String} (hs : Sound db) (ho : OnlyReceipt id db db')
    (hn : db.ledger.get? id = none) : Sound db' where
  balance id' row hrow := by
    rw [ho.ledger] at hrow
    rw [ho.balances]
    exact hs.balance id' row hrow
  receipt id' row hrow := by
    rw [ho.ledger] at hrow
    have hne : id' ≠ id := by
      rintro rfl
      rw [hn] at hrow
      cases hrow
    rw [ho.receipts id' hne]
    exact hs.receipt id' row hrow

theorem Sound.inserted {db' : Db} {env : Env} {p : TransactionPayload} (hs : Sound db)
    (hi : Inserted env p db db') : Sound db' where
  balance id row hrow := by
    rw [hi.ledger, Table.get?_put] at hrow
    split at hrow
    · cases hrow
      exact (hi.rows _).2 (.inl rfl)
    · exact (hi.rows _).2 (.inr (hs.balance id row hrow))
  receipt id row hrow := by
    have hkey : key (p.ledgerRow env) = p.transactionId := rfl
    rw [hi.receipts]
    split
    · exact ⟨_, rfl, rfl⟩
    · rename_i hne
      rw [hi.ledger, Table.get?_put_of_ne _ (hkey ▸ hne)] at hrow
      exact hs.receipt id row hrow

/-- An edit keeps the keys and the balances of the rows. -/
theorem Sound.edited {db' : Db} {p : TransactionPayload} {row : InventoryTransaction}
    (hs : Sound db) (hrow : db.ledger.get? p.transactionId = some row)
    (hl : db'.ledger = if row.quantityDelta ≠ p.quantityDelta then db.ledger.put (row.edit p)
      else db.ledger)
    (hrows : ∀ k, (db.balances.get? k).isSome → (db'.balances.get? k).isSome)
    (hr : db'.receipts = db.receipts) : Sound db' := by
  have hkey : key (row.edit p) = key row := rfl
  have hold : ∀ id row', db'.ledger.get? id = some row' →
      ∃ row0, db.ledger.get? id = some row0 ∧ row0.stock = row'.stock := by
    intro id row' h
    rw [hl] at h
    split at h
    · rw [Table.get?_put] at h
      split at h
      · rename_i he
        cases h
        rw [hkey, Table.key_of_get? hrow] at he
        exact ⟨row, he ▸ hrow, rfl⟩
      · exact ⟨row', h, rfl⟩
    · exact ⟨row', h, rfl⟩
  constructor
  · intro id row' h
    obtain ⟨row0, h0, he⟩ := hold id row' h
    exact he ▸ hrows _ (hs.balance id row0 h0)
  · intro id row' h
    obtain ⟨row0, h0, -⟩ := hold id row' h
    rw [hr]
    exact hs.receipt id row0 h0

theorem Tracks.stored {r : SyncReceipt} (ht : Tracks c ((i, s) :: items) db)
    (h : Stored (some c) db s.id r) : db.receipts.get? s.id = some r := by
  rcases h with ⟨_, he, hr, -⟩ | hr
  · cases he
    exact (ht.receipt _ List.mem_cons_self).symm.trans hr
  · exact hr

/-- The cache after a turn that answered `r`. -/
theorem Tracks.record {r : SyncReceipt} {db' : Db} (ht : Tracks c ((i, s) :: items) db)
    (hl : ∀ id, (db'.ledger.get? id).isSome →
      (db.ledger.get? id).isSome ∨ id = s.id ∧ r.accepted = true)
    (hr : db'.receipts.get? s.id = some r)
    (ho : ∀ id, id ≠ s.id → db'.receipts.get? id = db.receipts.get? id) :
    Tracks (c.record s.payload r) items db' := by
  constructor
  · intro x hx hsome
    have hmem : r.accepted = true ∧ x.2.id = s.id ∨ x.2.id ∈ c.ledgerTxIds := by
      rcases hl _ hsome with h | ⟨h, hacc⟩
      · exact .inr (ht.ledger x (List.mem_cons_of_mem _ hx) h)
      · exact .inl ⟨hacc, h⟩
    simp only [IngestPrefetch.record]
    split
    · exact List.mem_cons.2 (hmem.imp_left And.right)
    · rename_i hacc
      exact hmem.resolve_left fun h => hacc h.1
  · intro x hx
    have hid : r.transactionId = s.id := Table.key_of_get? hr
    simp only [IngestPrefetch.record]
    by_cases h : x.2.id = s.id
    · rw [h, Function.update_self, hr]
      exact congrArg some (by rw [← show r.transactionId = s.payload.transactionId from hid])
    · rw [Function.update_of_ne h, ho _ h]
      exact ht.receipt x (List.mem_cons_of_mem _ hx)

/-- **A turn without faults** answers the item, and the cache knows what it stored. -/
theorem turn_tracks {res : Except Exn (SyncReceipt × IngestPrefetch)} {db' : Db}
    (ht : Tracks c ((i, s) :: items) db) (h : (ingestItem py c s).eval db = (res, db')) :
    ∃ r, res = .ok (r, c.record s.payload r) ∧ Tracks (c.record s.payload r) items db' := by
  cases turn (yields_of_eval (F := noFault) h) with
  | aborted hF => exact hF.elim fun _ he => he.elim
  | raised _ _ ho hst =>
    have hr := hst.resolve_left fun ⟨_, he⟩ => he
    refine ⟨_, rfl, ht.record (fun id hid => .inl ?_) hr ho.receipts⟩
    rwa [ho.ledger] at hid
  | handled hd =>
    refine ⟨_, rfl, ?_⟩
    cases hd with
    | @ledger row _ _ hrow hl _ _ hacc hrec =>
      have hkey : key row = s.id := Table.key_of_get? hrow
      have hedit : key (row.edit s.payload) = s.id := hkey
      refine ht.record (fun id hid => ?_) ?_ fun id hne => ?_
      · by_cases he : id = s.id
        · exact .inr ⟨he, hacc⟩
        · refine .inl ?_
          rw [hl] at hid
          split at hid
          · rwa [Table.get?_put_of_ne _ (hedit ▸ Ne.symm he)] at hid
          · exact hid
      · rcases hrec with ⟨hrec, hr⟩ | ⟨hrec, hr⟩
        · rw [hrec]
          exact ht.stored hr
        · rw [hrec]
          exact (onlyReceipt_put db _ hr).2
      · rcases hrec with ⟨hrec, -⟩ | ⟨hrec, hr⟩
        · rw [hrec]
        · rw [hrec]
          exact (onlyReceipt_put db _ hr).1.receipts id hne
    | receipt hr => exact ht.record (fun id hid => .inl hid) (ht.stored hr) fun _ _ => rfl
    | rejected hl hb hr =>
      refine ht.record (fun id hid => .inl (hl ▸ hid)) ((hr _).trans (if_pos rfl)) fun id hne =>
        (hr id).trans (if_neg (Ne.symm hne))
    | inserted hi =>
      refine ht.record (fun id hid => ?_) ((hi.receipts _).trans (if_pos rfl))
        fun id hne => (hi.receipts id).trans (if_neg (Ne.symm hne))
      by_cases he : id = s.id
      · exact .inr ⟨he, rfl⟩
      · refine .inl ?_
        rw [hi.ledger, Table.get?_put_of_ne _ (Ne.symm he)] at hid
        exact hid

/-- A turn without faults keeps `Sound`. -/
theorem turn_sound {res : Except Exn (SyncReceipt × IngestPrefetch)} {db' : Db} (hs : Sound db)
    (ht : Tracks c ((i, s) :: items) db) (h : (ingestItem py c s).eval db = (res, db')) :
    ∃ r, res = .ok (r, c.record s.payload r) ∧ Sound db' ∧
      Tracks (c.record s.payload r) items db' := by
  obtain ⟨r, hres, ht'⟩ := turn_tracks ht h
  refine ⟨r, hres, ?_, ht'⟩
  cases hrow : db.ledger.get? s.id with
  | some row =>
    obtain ⟨r', w, hw, -, -, hedit⟩ := eval_ingestItem_known py hs ht hrow
    rw [hw] at h
    cases h
    obtain ⟨hr', hl, -, hrows⟩ := editLedgerRow_ok (yields_of_eval (F := noFault) hedit)
    exact hs.edited hrow hl hrows hr'
  | none =>
    cases turn (yields_of_eval (F := noFault) h) with
    | aborted hF => exact hF.elim fun _ he => he.elim
    | raised _ _ ho _ => exact hs.onlyReceipt ho hrow
    | handled hd =>
      cases hd with
      | ledger hsome => simp [Submission.id, hsome] at hrow
      | receipt _ => exact hs
      | rejected hl hb hr =>
        exact hs.onlyReceipt ⟨hl, hb, fun id hne => (hr id).trans (if_neg (Ne.symm hne))⟩ hrow
      | inserted hi => exact hs.inserted hi

end Server
