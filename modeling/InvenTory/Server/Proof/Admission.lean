import InvenTory.Server.Serving
import InvenTory.Lib.Counters

/-!
# Fresh payloads, without faults

A payload is `Ready` if it passes `validatePayload` and its store, product and device exist, and
`Pending` if the server has no ledger row for it and at most a rejection for want of stock. Without
faults a turn of the loop admits such a payload exactly if its balance can take it
(`pending_turn`), so that a batch of them is a sequence of offers to the counters of
`Lib.Counters`.
-/

namespace Server

open Relational Sql Sql.Prog Py

variable {py : Python}

/-! ## The text of a rejection -/

theorem toList_insufficientStock (current delta : Int) :
    (insufficientStock current delta).toList = "Insufficient stock: current ".toList ++
      ((toString current).toList ++ (", would result in ".toList ++
        ((toString (current + delta)).toList ++ []))) := by
  unfold insufficientStock
  rw [String.toList_append, String.toList_append, String.toList_append, List.append_nil,
    List.append_assoc, List.append_assoc]

theorem matchInsufficientStock_insufficientStock (current delta : Int) :
    matchInsufficientStock (insufficientStock current delta) = some current := by
  have hsep : ", would result in ".toList = ',' :: " would result in ".toList := by simp
  have h1 : (", would result in ".toList ++ ((toString (current + delta)).toList ++ [])).head?.all
      (fun c : Char => !c.isDigit) := by
    rw [hsep]
    rfl
  have h2 : ([] : List Char).head?.all (fun c : Char => !c.isDigit) := rfl
  unfold matchInsufficientStock
  rw [toList_insufficientStock]
  generalize "Insufficient stock: current " = a, ", would result in " = b at *
  simp only [matchText_append, Option.bind_eq_bind, Option.bind_some, matchInt_toString _ h1,
    matchInt_toString _ h2, true_or, if_true]

theorem forall_mem_insufficientStock {P : Char → Prop}
    (h1 : ∀ c ∈ "Insufficient stock: current ".toList, P c)
    (h2 : ∀ c ∈ ", would result in ".toList, P c) (h3 : ∀ c ∈ "-0123456789".toList, P c)
    (current delta : Int) : ∀ c ∈ (insufficientStock current delta).toList, P c := by
  rw [toList_insufficientStock]
  intro c hc
  simp only [List.append_nil, List.mem_append] at hc
  rcases hc with hc | hc | hc | hc
  · exact h1 c hc
  · exact h3 c (mem_toString_int hc)
  · exact h2 c hc
  · exact h3 c (mem_toString_int hc)

/-- Every marker of a server error has an `a`, a rejection for want of stock has none. -/
theorem not_isServerInternalErrorReason_insufficientStock (current delta : Int) :
    isServerInternalErrorReason py (some (insufficientStock current delta)) = false := by
  have hchars : ∀ c ∈ (insufficientStock current delta).toList, c.val < 128 ∧ c.toLower ≠ 'a' :=
    forall_mem_insufficientStock (by simp) (by simp) (by simp) _ _
  have hlower := py.caseMap.lower_ascii _ fun c hc => (hchars c hc).1
  have ha : 'a' ∉ (py.caseMap.lower (insufficientStock current delta)).toList := by
    rw [hlower, String.toList_ofList, List.mem_map]
    rintro ⟨c, hc, he⟩
    exact (hchars c hc).2 he
  have hmarkers : ∀ m ∈ internalErrorMarkers, 'a' ∈ m.toList := by simp [internalErrorMarkers]
  have hany : (internalErrorMarkers.any fun m =>
      isIn m (py.caseMap.lower (insufficientStock current delta))) = false :=
    List.any_eq_false.2 fun m hm => by simp [isIn_eq_false (hmarkers m hm) ha]
  have hstart : startsWith (insufficientStock current delta) "Unexpected error:" = false := by
    have hI : "Insufficient stock: current ".toList = 'I' :: "nsufficient stock: current ".toList := by
      simp
    have hU : "Unexpected error:".toList = 'U' :: "nexpected error:".toList := by simp
    unfold startsWith
    rw [toList_insufficientStock, hI, hU]
    rfl
  unfold isServerInternalErrorReason
  simp only [hstart, hany, Bool.or_self, Bool.and_false]

/-! ## Inserting a movement -/

/-- `db'` has the stores, products and devices of `db`. -/
structure Masters (db db' : Db) : Prop where
  stores : db'.stores = db.stores
  products : db'.products = db.products
  devices : db'.devices = db.devices

namespace Masters

theorem refl (db : Db) : Masters db db := ⟨rfl, rfl, rfl⟩

theorem trans {a b c : Db} (h : Masters a b) (h' : Masters b c) : Masters a c :=
  ⟨h'.stores.trans h.stores, h'.products.trans h.products, h'.devices.trans h.devices⟩

end Masters

/-- A valid payload whose store, product and device exist. -/
structure Ready (py : Python) (db : Db) (p : TransactionPayload) : Prop where
  valid : validatePayload py p = none
  store : (db.stores.get? p.storeId).isSome
  product : (db.products.get? p.productId).isSome
  device : (db.devices.get? p.deviceId).isSome

theorem Ready.of_masters {db db' : Db} {p : TransactionPayload} (h : Ready py db p)
    (hm : Masters db db') : Ready py db' p :=
  ⟨h.valid, hm.stores ▸ h.store, hm.products ▸ h.product, hm.devices ▸ h.device⟩

theorem eval_getOrCreateDayBook (env : Env) {id : String} (d : DateTime) {cn : Conn Db}
    (hs : (cn.work.stores.get? id).isSome) :
    ∃ b w, (getOrCreateDayBook env id d).eval cn = (.ok b, ⟨cn.base, w⟩) ∧
      Masters cn.work w ∧ b ∈ w.dayBooks := by
  unfold getOrCreateDayBook
  rw [eval_select_bind]
  cases hb : cn.work.dayBookOf id d.startOfDay with
  | some b => exact ⟨b, cn.work, rfl, .refl _, List.mem_of_find?_eq_some hb⟩
  | none =>
    let b : DayBook := ⟨env.dayBookId, id, d.startOfDay, 0, false⟩
    have he : cn.work.insertDayBook b =
        .ok { cn.work with dayBooks := cn.work.dayBooks ++ [b] } := by
      have hn := Option.isSome_iff_ne_none.1 hs
      simp [Db.insertDayBook, b, hn]
    exact ⟨b, _, eval_execute_bind he, ⟨rfl, rfl, rfl⟩, by simp⟩

theorem eval_recalculateDayBookBalance (b : DayBook) (cn : Conn Db) :
    (recalculateDayBookBalance b).eval cn =
      (.ok (), ⟨cn.base, cn.work.setOpeningBalance b.id (cn.work.openingTotal b)⟩) := by
  unfold recalculateDayBookBalance
  rw [eval_select_bind]
  exact eval_execute_ok rfl

theorem eval_addTransactionToDayBook (env : Env) (tx : InventoryTransaction) (cn : Conn Db)
    (hs : (cn.work.stores.get? tx.storeId).isSome)
    (hl : (cn.work.ledger.get? tx.transactionId).isSome)
    (hp : (cn.work.products.get? tx.productId).isSome) :
    ∃ e w, (addTransactionToDayBook env tx).eval cn = (.ok e, ⟨cn.base, w⟩) ∧
      Masters cn.work w := by
  obtain ⟨b, w1, h1, hm, hb⟩ := eval_getOrCreateDayBook env tx.occurredAt hs
  have hf := getOrCreateDayBook_frame (yields_of_eval (F := noFault) h1)
  unfold addTransactionToDayBook
  rw [eval_bind_ok h1, eval_select_bind]
  split
  · exact ⟨_, w1, rfl, hm⟩
  · let e : DayBookEntry :=
      ⟨env.entryId, b.id, tx.transactionId, tx.movementType, tx.productId, tx.quantityDelta,
        tx.stockBucket, tx.referenceNumber, tx.reasonCode, tx.occurredAt⟩
    have he : w1.insertDayBookEntry e = .ok { w1 with entries := w1.entries ++ [e] } := by
      have hbook : w1.dayBooks.any (fun x => x.id = b.id) = true :=
        List.any_eq_true.2 ⟨b, hb, by simp⟩
      have hl1 := Option.isSome_iff_ne_none.1 (hf.ledger ▸ hl)
      have hp1 := Option.isSome_iff_ne_none.1 (hm.products ▸ hp)
      simp [Db.insertDayBookEntry, e, hbook, hl1, hp1]
    let w2 : Db := { w1 with entries := w1.entries ++ [e] }
    refine ⟨e, w2.setOpeningBalance b.id (w2.openingTotal b), ?_, hm.trans ⟨rfl, rfl, rfl⟩⟩
    rw [eval_execute_bind he, eval_bind_ok (eval_recalculateDayBookBalance ..)]
    rfl

theorem eval_upsertStockBalance (db : Db) (id : String) (k : StockKey) (d : Int) (now : DateTime)
    (h : (db.balances.get? k).isSome ∨
      (db.stores.get? k.storeId).isSome ∧ (db.products.get? k.productId).isSome) :
    ∃ w, db.upsertStockBalance id k d now = .ok w ∧ Masters db w := by
  unfold Db.upsertStockBalance
  split
  · exact ⟨_, rfl, rfl, rfl, rfl⟩
  · rename_i hn
    rcases h with h | ⟨hs, hp⟩
    · simp [hn] at h
    · simp only [Option.isNone_eq_false_iff.2 hs, Option.isNone_eq_false_iff.2 hp]
      exact ⟨_, rfl, rfl, rfl, rfl⟩

/-- A movement without a ledger row or a receipt, whose master data exists, is inserted. -/
theorem eval_insertMovement (env : Env) {p : TransactionPayload} {cn : Conn Db}
    (hr : Ready py cn.work p) (hl : cn.work.ledger.get? p.transactionId = none)
    (hn : cn.work.receipts.get? p.transactionId = none) :
    ∃ w, (insertMovement env p).eval cn =
      (.ok (.live (makeAcceptedReceipt env p.transactionId)), ⟨cn.base, w⟩) ∧
      Masters cn.work w := by
  let row := p.ledgerRow env
  let w1 : Db := { cn.work with ledger := cn.work.ledger.put row }
  have h1 : cn.work.insertLedger row = .ok w1 := by
    have hs := Option.isNone_eq_false_iff.2 hr.store
    have hp := Option.isNone_eq_false_iff.2 hr.product
    have hd := Option.isNone_eq_false_iff.2 hr.device
    simp [Db.insertLedger, row, w1, TransactionPayload.ledgerRow, hl, hs, hp, hd]
  have hrow : (w1.ledger.get? row.transactionId).isSome := by
    change ((cn.work.ledger.put row).get? (key row)).isSome
    rw [Table.get?_put_self]
    rfl
  obtain ⟨e, w2, h2, hm2⟩ := eval_addTransactionToDayBook env row ⟨cn.base, w1⟩
    hr.store hrow hr.product
  obtain ⟨w3, h3, hm3⟩ := eval_upsertStockBalance w2 env.balanceId p.stock
    p.quantityDelta env.now (.inr ⟨hm2.stores ▸ hr.store, hm2.products ▸ hr.product⟩)
  have hf := addTransactionToDayBook_frame (yields_of_eval (F := noFault) h2)
  have h4 : w3.insertReceipt (makeAcceptedReceipt env p.transactionId) =
      .ok { w3 with receipts := w3.receipts.put (makeAcceptedReceipt env p.transactionId) } := by
    refine insertReceipt_none ?_
    rw [(upsertStockBalance_ok h3).2.1, hf.receipts]
    exact hn
  have hm1 : Masters cn.work w1 := ⟨rfl, rfl, rfl⟩
  refine ⟨{ w3 with receipts := w3.receipts.put (makeAcceptedReceipt env p.transactionId) }, ?_,
    hm1.trans (hm2.trans (hm3.trans ⟨rfl, rfl, rfl⟩))⟩
  unfold insertMovement
  rw [eval_execute_bind h1, eval_bind_ok h2, eval_execute_bind h3, eval_execute_bind h4]
  rfl

/-! ## One payload -/

/-- `p` is not in the ledger, and its receipt, if it has one, is a rejection for want of stock that
was right about a non-negative balance. -/
structure Pending (db : Db) (p : TransactionPayload) : Prop where
  ledger : db.ledger.get? p.transactionId = none
  receipt : ∀ r, db.receipts.get? p.transactionId = some r → r.accepted = false ∧
    ∃ n, r.rejectionReason = some (insufficientStock n p.quantityDelta) ∧ 0 ≤ n ∧
      n + p.quantityDelta < 0

/-- The balance of `p` can take it. -/
abbrev Admits (db : Db) (p : TransactionPayload) : Prop :=
  Counters.Admits TransactionPayload.stock TransactionPayload.quantityDelta db.quantity p

theorem eval_isKnown (b : Bool) {f : Db → Bool} {cn : Conn Db} (h : f cn.work = true) :
    (isKnown b f).eval cn = (.ok true, cn) := by
  unfold isKnown
  split
  · rfl
  · rw [eval_select, h]

/-- Nothing is provisioned for a payload that is ready. -/
theorem eval_ingestNew (env : Env) (c : Option IngestPrefetch) {p : TransactionPayload}
    {cn : Conn Db} (hr : Ready py cn.work p) :
    (ingestNew py env c p).eval cn = (checkAndInsert env p).eval cn := by
  have hs : (provisionStore py env c p.storeId).eval cn = (.ok (), cn) :=
    (eval_bind_ok (eval_isKnown _ hr.store)).trans rfl
  have hp : (provisionProduct env c p.productId).eval cn = (.ok (), cn) :=
    (eval_bind_ok (eval_isKnown _ hr.product)).trans rfl
  have hd : (provisionDevice c p.deviceId p.storeId).eval cn = (.ok (), cn) :=
    (eval_bind_ok (eval_isKnown _ hr.device)).trans rfl
  unfold ingestNew
  rw [hr.valid]
  simp only
  rw [eval_bind_ok hs, eval_bind_ok hp, eval_bind_ok hd]

theorem eval_checkAndInsert_admits (env : Env) {p : TransactionPayload} (cn : Conn Db)
    (hr : Ready py cn.work p) (hl : cn.work.ledger.get? p.transactionId = none)
    (hn : cn.work.receipts.get? p.transactionId = none) (ha : Admits cn.work p) :
    ∃ w, (checkAndInsert env p).eval cn =
      (.ok (.live (makeAcceptedReceipt env p.transactionId)), ⟨cn.base, w⟩) ∧
      Masters cn.work w ∧ Inserted env p cn.work w := by
  obtain ⟨w, hw, hm⟩ := eval_insertMovement env hr hl hn
  have hi := (insertMovement_inserted rfl rfl (fun _ _ => rfl) (yields_of_eval (F := noFault) hw)).2
  refine ⟨w, ?_, hm, hi⟩
  unfold checkAndInsert
  split
  · rename_i hneg
    have hge : ¬ cn.work.quantity p.stock + p.quantityDelta < 0 := by
      rcases ha with h0 | h0 <;> omega
    rw [eval_select_bind, if_neg hge, hw]
  · exact hw

theorem eval_checkAndInsert_refuses (env : Env) {p : TransactionPayload} (cn : Conn Db)
    (hn : cn.work.receipts.get? p.transactionId = none) (ha : ¬ Admits cn.work p) :
    (checkAndInsert env p).eval cn =
      let r := makeRejectedReceipt env p.transactionId
        (insufficientStock (cn.work.quantity p.stock) p.quantityDelta)
      (.ok (.live r), ⟨cn.base, { cn.work with receipts := cn.work.receipts.put r }⟩) := by
  simp only [Admits, Counters.Admits, not_or, not_le] at ha
  unfold checkAndInsert
  rw [if_pos ha.1, eval_select_bind, if_pos ha.2]
  unfold reject
  exact (eval_execute_bind (insertReceipt_none hn)).trans rfl

theorem eval_selectLedgerRow (c : Option IngestPrefetch) {id : String} {cn : Conn Db}
    (h : cn.work.ledger.get? id = none) : (selectLedgerRow c id).eval cn = (.ok none, cn) := by
  unfold selectLedgerRow
  split
  · rfl
  · rw [eval_mapError, eval_select, h]
    rfl

theorem eval_lookupReceipt {c : IngestPrefetch} {id : String} {cn : Conn Db}
    (h : c.receiptByTx id = cn.work.receipts.get? id) :
    (lookupReceipt (some c) id).eval cn = (.ok (cn.work.receipts.get? id), cn) := by
  unfold lookupReceipt
  simp only [h]
  split
  · rename_i hn
    rw [hn]
    rfl
  · rename_i hs
    split
    · rw [hs]
      rfl
    · rfl

/-- The check of a rejection for want of stock asks whether the balance can take it now. -/
theorem eval_staleCheck {r : SyncReceipt} {p : TransactionPayload} {cn : Conn Db} {n : Int}
    (hreason : r.rejectionReason = some (insufficientStock n p.quantityDelta)) (h0 : 0 ≤ n)
    (hn : n + p.quantityDelta < 0) :
    (staleDomainRejectionShouldRetry r p).eval cn =
      (.ok (.answered (decide (Admits cn.work p))), cn) := by
  have hm := matchInsufficientStock_insufficientStock n p.quantityDelta
  unfold staleDomainRejectionShouldRetry
  simp only [hreason, Option.bind_some, hm]
  rw [if_neg (by omega), eval_bind_ok (eval_attempt ..)]
  simp only [eval_select]
  rw [eval_pure]
  have hiff : (0 ≤ cn.work.quantity p.stock + p.quantityDelta ∧ cn.work.quantity p.stock ≠ n) ↔
      Admits cn.work p := by
    unfold Admits Counters.Admits
    constructor
    · exact fun h => .inr h.1
    · rintro (h | h)
      · omega
      · exact ⟨h, by omega⟩
  simp only [hiff]

theorem masters_deleteReceipt (db : Db) (id : String) : Masters db (db.deleteReceipt id) :=
  ⟨rfl, rfl, rfl⟩

theorem eval_retryStale (env : Env) (c : Option IngestPrefetch) (p : TransactionPayload)
    (cn : Conn Db) : (retryStale py env c p).eval cn =
      (ingestNew py env c p).eval ⟨cn.base, cn.work.deleteReceipt p.transactionId⟩ := by
  unfold retryStale
  exact eval_bind_ok (eval_execute_ok rfl)

/-- Deleting the stale receipt first makes no difference. -/
theorem Inserted.of_delete {env : Env} {p : TransactionPayload} {db w : Db}
    (h : Inserted env p (db.deleteReceipt p.transactionId) w) : Inserted env p db w where
  new := h.new
  ledger := h.ledger
  quantity := h.quantity
  rows := h.rows
  receipts id := by
    rw [h.receipts]
    split
    · rfl
    · rename_i hne
      exact get?_deleteReceipt (Ne.symm hne)

/-- A pending payload that its balance can take is inserted. -/
theorem eval_impl_admits (env : Env) {c : IngestPrefetch} {p : TransactionPayload} {db : Db}
    (hr : Ready py db p) (hp : Pending db p)
    (hc : c.receiptByTx p.transactionId = db.receipts.get? p.transactionId) (ha : Admits db p) :
    ∃ w, (ingestTransactionImpl py env p (some c)).eval ⟨db, db⟩ =
      (.ok (.live (makeAcceptedReceipt env p.transactionId)), ⟨db, w⟩) ∧
      Masters db w ∧ Inserted env p db w := by
  unfold ingestTransactionImpl
  rw [eval_bind_ok (eval_selectLedgerRow _ hp.ledger)]
  simp only
  rw [eval_bind_ok (eval_lookupReceipt hc)]
  cases hs : db.receipts.get? p.transactionId with
  | none =>
    obtain ⟨w, hw, hm, hi⟩ := eval_checkAndInsert_admits env ⟨db, db⟩ hr hp.ledger hs ha
    exact ⟨w, (eval_ingestNew env _ hr).trans hw, hm, hi⟩
  | some r =>
    obtain ⟨hrej, n, hreason, h0, hn⟩ := hp.receipt r hs
    simp only [hrej, Bool.false_eq_true, if_false, hreason,
      not_isServerInternalErrorReason_insufficientStock]
    rw [eval_bind_ok (eval_staleCheck hreason h0 hn)]
    simp only [ha, decide_true]
    have hd : Masters db (db.deleteReceipt p.transactionId) := masters_deleteReceipt ..
    have hn1 : (db.deleteReceipt p.transactionId).receipts.get? p.transactionId = none :=
      (Table.get?_erase ..).trans (if_pos rfl)
    have hr1 : Ready py (db.deleteReceipt p.transactionId) p := hr.of_masters hd
    obtain ⟨w, hw, hm, hi⟩ := eval_checkAndInsert_admits env
      ⟨db, db.deleteReceipt p.transactionId⟩ hr1 hp.ledger hn1 ha
    refine ⟨w, ?_, hd.trans hm, hi.of_delete⟩
    rw [eval_retryStale, eval_ingestNew env _ hr1, hw]

/-- A pending payload that its balance cannot take keeps its rejection, or gets one. -/
theorem eval_impl_refuses (env : Env) {c : IngestPrefetch} {p : TransactionPayload} {db : Db}
    (hr : Ready py db p) (hp : Pending db p)
    (hc : c.receiptByTx p.transactionId = db.receipts.get? p.transactionId) (ha : ¬ Admits db p) :
    ∃ r w, (ingestTransactionImpl py env p (some c)).eval ⟨db, db⟩ = (.ok (.live r), ⟨db, w⟩) ∧
      Masters db w ∧ OnlyReceipt p.transactionId db w ∧ r.accepted = false ∧
      w.receipts.get? p.transactionId = some r ∧ (0 ≤ db.quantity p.stock → Pending w p) := by
  unfold ingestTransactionImpl
  rw [eval_bind_ok (eval_selectLedgerRow _ hp.ledger)]
  simp only
  rw [eval_bind_ok (eval_lookupReceipt hc)]
  cases hs : db.receipts.get? p.transactionId with
  | none =>
    have hw := eval_checkAndInsert_refuses env ⟨db, db⟩ hs ha
    have hput := onlyReceipt_put db (makeRejectedReceipt env p.transactionId
      (insufficientStock (db.quantity p.stock) p.quantityDelta)) rfl
    refine ⟨_, _, (eval_ingestNew env _ hr).trans hw, ⟨rfl, rfl, rfl⟩, hput.1, rfl, hput.2,
      fun h0 => ⟨hp.ledger, fun r hr' => ?_⟩⟩
    have he := hput.2.symm.trans hr'
    cases he
    simp only [Admits, Counters.Admits, not_or, not_le] at ha
    exact ⟨rfl, _, rfl, h0, ha.2⟩
  | some r =>
    obtain ⟨hrej, n, hreason, h0, hn⟩ := hp.receipt r hs
    simp only [hrej, Bool.false_eq_true, if_false, hreason,
      not_isServerInternalErrorReason_insufficientStock]
    rw [eval_bind_ok (eval_staleCheck hreason h0 hn)]
    simp only [ha, decide_false]
    exact ⟨r, db, rfl, .refl _, .refl _ _, hrej, hs, fun _ => hp⟩

/-! ## One turn -/

/-- What a turn without faults does to a pending payload: the outcome is `r`. -/
structure Offered (db : Db) (s : Submission) (r : SyncReceipt) (w : Db) : Prop where
  masters : Masters db w
  ledgerElse : ∀ id, id ≠ s.payload.transactionId → w.ledger.get? id = db.ledger.get? id
  receiptElse : ∀ id, id ≠ s.payload.transactionId → w.receipts.get? id = db.receipts.get? id
  stored : w.receipts.get? s.payload.transactionId = some r
  admitted : Admits db s.payload → r.accepted = true ∧
    w.ledger.get? s.payload.transactionId = some (s.payload.ledgerRow s.env) ∧
    w.quantity = Counters.move TransactionPayload.stock TransactionPayload.quantityDelta db.quantity
      s.payload
  refused : ¬ Admits db s.payload → r.accepted = false ∧ w.quantity = db.quantity ∧
    (0 ≤ db.quantity s.payload.stock → Pending w s.payload)

theorem eval_ingestItem {c : IngestPrefetch} {s : Submission} {r : SyncReceipt} {db w : Db}
    {cn : Conn Db}
    (h : (ingestTransactionImpl py s.env s.payload (some c)).eval ⟨db, db⟩ = (.ok (.live r), cn))
    (hw : cn.work = w) :
    (ingestItem py c s).eval db = (.ok (r, c.record s.payload r), w) := by
  subst hw
  unfold ingestItem
  rw [eval_bind_ok (eval_attempt ..), eval_session_ok h]
  rfl

/-- **A turn offers the payload to its balance.** -/
theorem pending_turn {c : IngestPrefetch} {s : Submission} {db : Db} (hr : Ready py db s.payload)
    (hp : Pending db s.payload)
    (hc : c.receiptByTx s.payload.transactionId = db.receipts.get? s.payload.transactionId) :
    ∃ r w, (ingestItem py c s).eval db = (.ok (r, c.record s.payload r), w) ∧
      Offered db s r w := by
  by_cases ha : Admits db s.payload
  · obtain ⟨w, hw, hm, hi⟩ := eval_impl_admits s.env hr hp hc ha
    have hkey : key (s.payload.ledgerRow s.env) = s.payload.transactionId := rfl
    refine ⟨_, w, eval_ingestItem hw rfl, hm, fun id hne => ?_, fun id hne => ?_, ?_, fun _ => ?_,
      fun hn => absurd ha hn⟩
    · rw [hi.ledger]
      exact Table.get?_put_of_ne _ (Ne.symm hne)
    · rw [hi.receipts, if_neg (Ne.symm hne)]
    · rw [hi.receipts, if_pos rfl]
    · refine ⟨rfl, ?_, funext fun k => hi.quantity k⟩
      rw [hi.ledger, ← hkey, Table.get?_put_self]
  · obtain ⟨r, w, hw, hm, ho, hrej, hs, hpend⟩ := eval_impl_refuses s.env hr hp hc ha
    exact ⟨r, w, eval_ingestItem hw rfl, hm, fun id _ => by rw [ho.ledger], ho.receipts, hs,
      fun h => absurd h ha, fun _ => ⟨hrej, funext (quantity_congr ho.balances), hpend⟩⟩

/-! ## Several turns -/

abbrev Submission.id (s : Submission) : String := s.payload.transactionId

/-- The payloads that are turned down when they are offered to the balances of `db` in turn. -/
abbrev turnedDown (db : Db) (subs : List Submission) : List TransactionPayload :=
  Counters.refused TransactionPayload.stock TransactionPayload.quantityDelta db.quantity
    (subs.map Submission.payload)

/-- What offering the pending payloads `subs` one after the other comes to. -/
structure Settled (db : Db) (subs : List Submission) (db' : Db) : Prop where
  masters : Masters db db'
  quantity : db'.quantity = Counters.final TransactionPayload.stock
    TransactionPayload.quantityDelta db.quantity (subs.map Submission.payload)
  ledgerElse : ∀ id, id ∉ subs.map Submission.id → db'.ledger.get? id = db.ledger.get? id
  receiptElse : ∀ id, id ∉ subs.map Submission.id → db'.receipts.get? id = db.receipts.get? id
  admitted : ∀ s ∈ subs, s.payload ∉ turnedDown db subs →
    db'.ledger.get? s.id = some (s.payload.ledgerRow s.env) ∧
      ∃ r, db'.receipts.get? s.id = some r ∧ r.accepted = true
  refused : ∀ s ∈ subs, s.payload ∈ turnedDown db subs →
    (∃ r, db'.receipts.get? s.id = some r ∧ r.accepted = false) ∧
      ((∀ k, 0 ≤ db.quantity k) → Pending db' s.payload)

theorem Pending.congr {db db' : Db} {p : TransactionPayload} (h : Pending db p)
    (hl : db'.ledger.get? p.transactionId = db.ledger.get? p.transactionId)
    (hr : db'.receipts.get? p.transactionId = db.receipts.get? p.transactionId) : Pending db' p :=
  ⟨hl ▸ h.ledger, fun r hs => h.receipt r (hr ▸ hs)⟩

theorem mem_ids {subs : List Submission} {s : Submission}
    (h : s.payload ∈ subs.map Submission.payload) : s.id ∈ subs.map Submission.id := by
  obtain ⟨x, hx, he⟩ := List.mem_map.1 h
  exact List.mem_map.2 ⟨x, hx, congrArg TransactionPayload.transactionId he⟩

namespace Settled

theorem nil (db : Db) : Settled db [] db where
  masters := .refl db
  quantity := rfl
  ledgerElse _ _ := rfl
  receiptElse _ _ := rfl
  admitted _ h := (List.not_mem_nil h).elim
  refused _ h := (List.not_mem_nil h).elim

theorem quantity_nonneg {db db' : Db} {subs : List Submission} (h : Settled db subs db')
    (h0 : ∀ k, 0 ≤ db.quantity k) (k : StockKey) : 0 ≤ db'.quantity k := by
  rw [h.quantity]
  exact Counters.final_nonneg h0 k

section
variable {db db1 db' : Db} {xs ys : List Submission} (h1 : Settled db xs db1)
  (h2 : Settled db1 ys db') (hd : (xs.map Submission.id).Disjoint (ys.map Submission.id))
include h1 h2

omit h2 in
theorem turnedDown_append : turnedDown db (xs ++ ys) =
    turnedDown db xs ++ turnedDown db1 ys := by
  unfold turnedDown
  rw [List.map_append, Counters.refused_append, h1.quantity]

include hd

omit h2 in
theorem mem_turnedDown_left {s : Submission} (hs : s ∈ xs) :
    s.payload ∈ turnedDown db (xs ++ ys) ↔ s.payload ∈ turnedDown db xs := by
  rw [turnedDown_append h1, List.mem_append, or_iff_left]
  exact fun hm => hd (List.mem_map_of_mem hs) (mem_ids (Counters.refused_sublist.subset hm))

omit h2 in
theorem mem_turnedDown_right {s : Submission} (hs : s ∈ ys) :
    s.payload ∈ turnedDown db (xs ++ ys) ↔ s.payload ∈ turnedDown db1 ys := by
  rw [turnedDown_append h1, List.mem_append, or_iff_right]
  exact fun hm => hd (mem_ids (Counters.refused_sublist.subset hm)) (List.mem_map_of_mem hs)

/-- Offering `xs`, and then `ys`. -/
theorem append : Settled db (xs ++ ys) db' where
  masters := h1.masters.trans h2.masters
  quantity := by rw [h2.quantity, h1.quantity, List.map_append, Counters.final_append]
  ledgerElse id hid := by
    rw [List.map_append, List.mem_append, not_or] at hid
    rw [h2.ledgerElse id hid.2, h1.ledgerElse id hid.1]
  receiptElse id hid := by
    rw [List.map_append, List.mem_append, not_or] at hid
    rw [h2.receiptElse id hid.2, h1.receiptElse id hid.1]
  admitted s hs hdown := by
    rcases List.mem_append.1 hs with hx | hy
    · have hn : s.id ∉ ys.map Submission.id := hd (List.mem_map_of_mem hx)
      rw [h2.ledgerElse _ hn, h2.receiptElse _ hn]
      exact h1.admitted s hx ((mem_turnedDown_left h1 hd hx).not.1 hdown)
    · exact h2.admitted s hy ((mem_turnedDown_right h1 hd hy).not.1 hdown)
  refused s hs hdown := by
    rcases List.mem_append.1 hs with hx | hy
    · have hn : s.id ∉ ys.map Submission.id := hd (List.mem_map_of_mem hx)
      obtain ⟨hr, hp⟩ := h1.refused s hx ((mem_turnedDown_left h1 hd hx).1 hdown)
      rw [h2.receiptElse _ hn]
      exact ⟨hr, fun h0 => (hp h0).congr (h2.ledgerElse _ hn) (h2.receiptElse _ hn)⟩
    · obtain ⟨hr, hp⟩ := h2.refused s hy ((mem_turnedDown_right h1 hd hy).1 hdown)
      exact ⟨hr, fun h0 => hp (h1.quantity_nonneg h0)⟩

end

end Settled

/-- A turn settles its payload. -/
theorem Offered.settled {db w : Db} {s : Submission} {r : SyncReceipt} (h : Offered db s r w) :
    Settled db [s] w := by
  have hmem : ∀ x ∈ [s], x = s := fun x hx => List.mem_singleton.1 hx
  by_cases ha : Admits db s.payload
  · obtain ⟨hacc, hrow, hq⟩ := h.admitted ha
    have hdown : turnedDown db [s] = [] := if_pos ha
    refine ⟨h.masters, hq.trans (if_pos ha).symm, fun id hid => h.ledgerElse id (by simpa using hid),
      fun id hid => h.receiptElse id (by simpa using hid), fun x hx _ => ?_, fun x _ hx' => ?_⟩
    · rw [hmem x hx]
      exact ⟨hrow, r, h.stored, hacc⟩
    · rw [hdown] at hx'
      exact (List.not_mem_nil hx').elim
  · obtain ⟨hrej, hq, hpend⟩ := h.refused ha
    have hdown : turnedDown db [s] = [s.payload] := if_neg ha
    refine ⟨h.masters, hq.trans (if_neg ha).symm, fun id hid => h.ledgerElse id (by simpa using hid),
      fun id hid => h.receiptElse id (by simpa using hid), fun x hx hx' => ?_, fun x hx _ => ?_⟩
    · rw [hdown, hmem x hx] at hx'
      exact absurd List.mem_cons_self hx'
    · rw [hmem x hx]
      exact ⟨⟨r, h.stored, hrej⟩, fun h0 => hpend (h0 _)⟩

/-! ## The loop -/

/-- The answers `rs` to `items` are the receipts that `db` holds for them. -/
structure Answers (items : List Item) (rs : List (Nat × SyncReceipt)) (db : Db) : Prop where
  places : rs.map Prod.fst = items.map Prod.fst
  stored : ∀ i r, (i, r) ∈ rs → ∃ x ∈ items, x.1 = i ∧ db.receipts.get? x.2.id = some r

/-- **A batch of pending payloads is a sequence of offers.** -/
theorem eval_ingestItems : ∀ {items : List Item} {c : IngestPrefetch} {db : Db},
    (items.map fun x => x.2.id).Nodup → (∀ x ∈ items, Ready py db x.2.payload) →
    (∀ x ∈ items, Pending db x.2.payload) →
    (∀ x ∈ items, c.receiptByTx x.2.id = db.receipts.get? x.2.id) →
    ∃ rs db', (ingestItems py c items).eval db = (.ok rs, db') ∧
      Settled db (items.map Prod.snd) db' ∧ Answers items rs db'
  | [], _, db, _, _, _, _ => ⟨[], db, rfl, .nil db, rfl, fun _ _ h => (List.not_mem_nil h).elim⟩
  | (i, s) :: items, c, db, hnodup, hready, hpend, hc => by
    obtain ⟨hn, hnodup'⟩ := List.nodup_cons.1 hnodup
    have hne : ∀ x ∈ items, x.2.id ≠ s.id := fun x hx he => hn (List.mem_map.2 ⟨x, hx, he⟩)
    have htail : ∀ x ∈ items, x ∈ (i, s) :: items := fun x hx => List.mem_cons_of_mem _ hx
    obtain ⟨r, w, hw, ho⟩ := pending_turn (hready _ List.mem_cons_self)
      (hpend _ List.mem_cons_self) (hc _ List.mem_cons_self)
    obtain ⟨rs, db', hdb', hs, ha⟩ := eval_ingestItems (c := c.record s.payload r) hnodup'
      (fun x hx => (hready x (htail x hx)).of_masters ho.masters)
      (fun x hx => (hpend x (htail x hx)).congr (ho.ledgerElse _ (hne x hx))
        (ho.receiptElse _ (hne x hx)))
      fun x hx => by
        rw [ho.receiptElse _ (hne x hx), ← hc x (htail x hx)]
        exact Function.update_of_ne (hne x hx) _ _
    have hn' : s.id ∉ (items.map Prod.snd).map Submission.id := by
      rwa [List.map_map]
    refine ⟨(i, r) :: rs, db', ?_, ho.settled.append hs ?_, ?_⟩
    · unfold ingestItems
      rw [eval_bind_ok hw, eval_bind_ok hdb']
      rfl
    · exact fun id hid => by rw [List.mem_singleton.1 hid]; exact hn'
    · refine ⟨by simp [ha.places], fun j r' hr' => ?_⟩
      rcases List.mem_cons.1 hr' with he | hr'
      · cases he
        exact ⟨(i, s), List.mem_cons_self, rfl, (hs.receiptElse _ hn').trans ho.stored⟩
      · obtain ⟨x, hx, hrest⟩ := ha.stored j r' hr'
        exact ⟨x, htail x hx, hrest⟩

end Server
