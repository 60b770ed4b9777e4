import InvenTory.Server.Proof.Known

/-!
# What an item takes from the cache

Two caches that agree on the id of a payload (`Agree`) answer it alike: one of them may know more
stores, products and devices, as long as the payload is not `Misled`, that is, provisioned with one
of these missing from the database (`eval_ingestItem_agree`).
-/

namespace Server

open Relational Sql Sql.Prog

variable {py : Python}

/-- The balance has moved since the rejection `r` for want of stock, and can take `p` now. -/
def Stale (db : Db) (p : TransactionPayload) (r : SyncReceipt) : Prop :=
  ∃ n, r.rejectionReason.bind matchInsufficientStock = some n ∧ 0 ≤ n ∧
    0 ≤ db.quantity p.stock + p.quantityDelta ∧ db.quantity p.stock ≠ n

/-- `p` is valid, and neither the ledger nor a stored receipt answers it. -/
structure Provisioned (py : Python) (db : Db) (p : TransactionPayload) : Prop where
  valid : validatePayload py p = none
  ledger : db.ledger.get? p.transactionId = none
  receipt : ∀ r, db.receipts.get? p.transactionId = some r → r.accepted = false ∧
    (isServerInternalErrorReason py r.rejectionReason = true ∨ Stale db p r)

/-- The store, product and device of `p` exist if the cache `c` does not know them, but `known` names
them. -/
structure Vouched (c : IngestPrefetch) (known : List TransactionPayload) (db : Db)
    (p : TransactionPayload) : Prop where
  store : p.storeId ∈ known.map (·.storeId) → p.storeId ∉ c.storeIds →
    (db.stores.get? p.storeId).isSome
  product : p.productId ∈ known.map (·.productId) → p.productId ∉ c.productIds →
    (db.products.get? p.productId).isSome
  device : p.deviceId ∈ known.map (·.deviceId) → p.deviceId ∉ c.deviceIds →
    (db.devices.get? p.deviceId).isSome

/-- `p` is provisioned, but takes a store, product or device to exist that does not. -/
def Misled (py : Python) (c : IngestPrefetch) (known : List TransactionPayload) (db : Db)
    (p : TransactionPayload) : Prop := Provisioned py db p ∧ ¬ Vouched c known db p

/-- `big` knows what `small` knows, and more only of `known`. -/
structure Extends (small big known : List String) (id : String) : Prop where
  mono : id ∈ small → id ∈ big
  more : id ∈ big → id ∈ small ∨ id ∈ known

/-- `c'` answers `p` as `c` does, but for the master data of `known`. -/
structure Agree (c c' : IngestPrefetch) (known : List TransactionPayload)
    (p : TransactionPayload) : Prop where
  ledger : p.transactionId ∈ c'.ledgerTxIds ↔ p.transactionId ∈ c.ledgerTxIds
  receipt : c'.receiptByTx p.transactionId = c.receiptByTx p.transactionId
  store : Extends c.storeIds c'.storeIds (known.map (·.storeId)) p.storeId
  product : Extends c.productIds c'.productIds (known.map (·.productId)) p.productId
  device : Extends c.deviceIds c'.deviceIds (known.map (·.deviceId)) p.deviceId

/-! ## Provisioning -/

theorem eval_isKnown_or (b : Bool) (f : Db → Bool) (cn : Conn Db) :
    (isKnown b f).eval cn = (.ok (b || f cn.work), cn) := by
  cases b <;> rfl

theorem eval_isKnown_extends {small big known : List String} {id : String} {f : Db → Bool}
    {cn : Conn Db} (h : Extends small big known id)
    (hf : id ∈ known → id ∉ small → f cn.work = true) :
    (isKnown (id ∈ big) f).eval cn = (isKnown (id ∈ small) f).eval cn := by
  rw [eval_isKnown_or, eval_isKnown_or]
  by_cases hs : id ∈ small
  · simp [hs, h.mono hs]
  · by_cases hb : id ∈ big
    · simp [hs, hb, hf ((h.more hb).resolve_left hs) hs]
    · simp [hs, hb]

/-- `db'` has the products and devices of `db`. -/
def KeepsGoods (db db' : Db) : Prop := db'.products = db.products ∧ db'.devices = db.devices

theorem provisionStore_goods {F : Exn → Prop} {env : Env} {c : Option IngestPrefetch} {id : String}
    {cn cn' : Conn Db} {u : Unit} (h : (provisionStore py env c id).Yields F cn (.ok u) cn') :
    KeepsGoods cn.work cn'.work := by
  have hins : ∀ r db db', Db.insertStore db r = .ok db' → KeepsGoods db db' := by
    intro r db db' hok
    obtain ⟨-, -, rfl⟩ := insertStore_ok hok
    exact ⟨rfl, rfl⟩
  have hdel : ∀ id db db', Db.deleteStore db id = .ok db' → KeepsGoods db db' := by
    intro id db db' hok
    obtain ⟨-, -, -, -, rfl⟩ := deleteStore_ok hok
    exact ⟨rfl, rfl⟩
  have htrans : ∀ a b c, KeepsGoods a b → KeepsGoods b c → KeepsGoods a c :=
    fun _ _ _ h h' => ⟨h'.1.trans h.1, h'.2.trans h.2⟩
  exact isKnown_rel (fun _ => ⟨rfl, rfl⟩) (fun _ _ => createStore_rel htrans hins hdel) h

theorem provisionProduct_devices {F : Exn → Prop} {env : Env} {c : Option IngestPrefetch}
    {id : String} {cn cn' : Conn Db} {u : Unit}
    (h : (provisionProduct env c id).Yields F cn (.ok u) cn') :
    cn'.work.devices = cn.work.devices := by
  let R : Db → Db → Prop := fun db db' => db'.devices = db.devices
  have hins : ∀ r db db', Db.insertProduct db r = .ok db' → R db db' := by
    intro r db db' hi
    obtain ⟨-, -, rfl⟩ := insertProduct_ok hi
    rfl
  have hcreate : ∀ c c', (createProduct env id).Yields F c (.ok u) c' → R c.work c'.work :=
    fun _ _ hc => execute_rel (hins _) (yields_select_bind hc)
  exact isKnown_rel (R := R) (fun _ => rfl) hcreate h

/-- Two caches that answer each of the three questions alike take the same course. -/
theorem eval_ingestNew_congr (env : Env) {c c' : Option IngestPrefetch} {p : TransactionPayload}
    {cn : Conn Db}
    (hs : (provisionStore py env c' p.storeId).eval cn = (provisionStore py env c p.storeId).eval cn)
    (hp : ∀ cn1 : Conn Db, cn1.work.products = cn.work.products →
      (provisionProduct env c' p.productId).eval cn1 = (provisionProduct env c p.productId).eval cn1)
    (hd : ∀ cn2 : Conn Db, cn2.work.devices = cn.work.devices →
      (provisionDevice c' p.deviceId p.storeId).eval cn2 =
        (provisionDevice c p.deviceId p.storeId).eval cn2) :
    (ingestNew py env c' p).eval cn = (ingestNew py env c p).eval cn := by
  unfold ingestNew
  split
  · rfl
  rw [eval_bind, eval_bind, hs]
  rcases hr1 : (provisionStore py env c p.storeId).eval cn with ⟨_ | _, cn1⟩
  · rfl
  have hk1 := provisionStore_goods (yields_of_eval (F := noFault) hr1)
  simp only [eval_bind, hp cn1 hk1.1]
  rcases hr2 : (provisionProduct env c p.productId).eval cn1 with ⟨_ | _, cn2⟩
  · rfl
  have hk2 := provisionProduct_devices (yields_of_eval (F := noFault) hr2)
  simp only [hd cn2 (hk2.trans hk1.2)]

/-- The provisioning of `p` takes the same course. -/
theorem eval_ingestNew_agree (env : Env) {c c' : IngestPrefetch} {known : List TransactionPayload}
    {p : TransactionPayload} {cn : Conn Db} (h : Agree c c' known p)
    (hm : Vouched c known cn.work p) :
    (ingestNew py env (some c') p).eval cn = (ingestNew py env (some c) p).eval cn := by
  refine eval_ingestNew_congr env ?_ (fun cn1 h1 => ?_) fun cn2 h2 => ?_
  · unfold provisionStore
    simp only [Option.any_some, eval_bind]
    rw [eval_isKnown_extends h.store hm.store]
  · unfold provisionProduct
    simp only [Option.any_some, eval_bind]
    rw [eval_isKnown_extends h.product (h1 ▸ hm.product)]
  · unfold provisionDevice
    simp only [Option.any_some, eval_bind]
    rw [eval_isKnown_extends h.device (h2 ▸ hm.device)]

/-! ## The item -/

theorem staleCheck_true {r : SyncReceipt} {p : TransactionPayload} {cn cn' : Conn Db}
    (h : (staleDomainRejectionShouldRetry r p).eval cn = (.ok (.answered true), cn')) :
    Stale cn.work p r := by
  unfold staleDomainRejectionShouldRetry at h
  split at h
  · cases h
  rename_i n hn
  split at h
  · cases h
  rename_i h0
  rw [eval_bind_ok (eval_attempt ..)] at h
  simp only [eval_select, eval_pure, Prod.mk.injEq, Except.ok.injEq, StaleCheck.answered.injEq,
    decide_eq_true_eq] at h
  exact ⟨n, hn, by omega, h.1⟩

/-- With the cache `c`, the ledger row and the receipt of `id` are read as they are in `db`. -/
structure Reads (c : Option IngestPrefetch) (db : Db) (id : String) : Prop where
  row : (selectLedgerRow c id).eval ⟨db, db⟩ = (.ok (db.ledger.get? id), ⟨db, db⟩)
  receipt : ∀ cn : Conn Db, cn.work.receipts = db.receipts →
    (lookupReceipt c id).eval cn = (.ok (db.receipts.get? id), cn)

theorem reads_some {c : IngestPrefetch} {db : Db} {id : String}
    (hl : (db.ledger.get? id).isSome → id ∈ c.ledgerTxIds)
    (hr : c.receiptByTx id = db.receipts.get? id) : Reads (some c) db id where
  row := by
    cases hrow : db.ledger.get? id with
    | some row => exact eval_selectLedgerRow_some (hl (by simp [hrow])) hrow
    | none => exact eval_selectLedgerRow _ hrow
  receipt cn hcn := by
    rw [← hcn] at hr ⊢
    exact eval_lookupReceipt hr

/-- **Two caches that read alike** differ only in what they provision. -/
theorem eval_impl_congr (env : Env) {c c' : Option IngestPrefetch} {p : TransactionPayload}
    {db : Db} (h : Reads c db p.transactionId) (h' : Reads c' db p.transactionId)
    (hnew : Provisioned py db p → ∀ w, Masters db w →
      (ingestNew py env c' p).eval ⟨db, w⟩ = (ingestNew py env c p).eval ⟨db, w⟩) :
    (ingestTransactionImpl py env p c').eval ⟨db, db⟩ =
      (ingestTransactionImpl py env p c).eval ⟨db, db⟩ := by
  -- a payload that is not valid is not provisioned
  have hvalid : (validatePayload py p = none → Provisioned py db p) → ∀ w, Masters db w →
      (ingestNew py env c' p).eval ⟨db, w⟩ = (ingestNew py env c p).eval ⟨db, w⟩ := by
    intro hp w hw
    cases hv : validatePayload py p with
    | none => exact hnew (hp hv) w hw
    | some reason =>
      unfold ingestNew
      rw [hv]
  unfold ingestTransactionImpl
  rw [eval_bind_ok h'.row, eval_bind_ok h.row]
  cases hrow : db.ledger.get? p.transactionId with
  | some row =>
    have hf : (ledgerFirst env c' p row).eval ⟨db, db⟩ = (ledgerFirst env c p row).eval ⟨db, db⟩ := by
      unfold ledgerFirst
      rw [eval_bind, eval_bind]
      rcases he : (editLedgerRow env p row).eval ⟨db, db⟩ with ⟨_ | _, cn⟩
      · rfl
      have hcn := (editLedgerRow_ok (yields_of_eval (F := noFault) he)).1
      simp only
      rw [eval_bind_ok (h'.receipt cn hcn), eval_bind_ok (h.receipt cn hcn)]
    simp only
    rw [eval_bind, eval_bind, hf]
  | none =>
    simp only
    rw [eval_bind_ok (h'.receipt _ rfl), eval_bind_ok (h.receipt _ rfl)]
    cases hs : db.receipts.get? p.transactionId with
    | none =>
      exact hvalid (fun hv => ⟨hv, hrow, fun r he => by rw [hs] at he; cases he⟩) db (.refl db)
    | some r =>
      simp only
      -- a rejection that is not final is deleted, and the payload ingested as a new one
      have hretry : r.accepted = false →
          (isServerInternalErrorReason py r.rejectionReason = true ∨ Stale db p r) →
          (retryStale py env c' p).eval ⟨db, db⟩ = (retryStale py env c p).eval ⟨db, db⟩ := by
        intro hacc hwhy
        rw [eval_retryStale, eval_retryStale]
        refine hvalid (fun hv => ⟨hv, hrow, fun r' he => ?_⟩) _ (masters_deleteReceipt db _)
        rw [hs] at he
        cases he
        exact ⟨hacc, hwhy⟩
      split
      · rfl
      rename_i hacc
      rw [Bool.not_eq_true] at hacc
      split
      · rename_i hint
        exact hretry hacc (.inl hint)
      rw [eval_bind, eval_bind]
      rcases hst : (staleDomainRejectionShouldRetry r p).eval ⟨db, db⟩ with ⟨_ | a, cn⟩
      · rfl
      obtain ⟨hcn, -⟩ := staleCheck_work (yields_of_eval (F := noFault) hst)
      subst hcn
      rcases a with (_ | _) | _
      · rfl
      · exact hretry hacc (.inr (staleCheck_true hst))
      · rfl

/-- **An item that is not misled** takes the same course with either cache. -/
theorem eval_impl_agree (env : Env) {c c' : IngestPrefetch} {known : List TransactionPayload}
    {p : TransactionPayload} {db : Db} (h : Agree c c' known p)
    (hl : (db.ledger.get? p.transactionId).isSome → p.transactionId ∈ c.ledgerTxIds)
    (hr : c.receiptByTx p.transactionId = db.receipts.get? p.transactionId)
    (hm : ¬ Misled py c known db p) :
    (ingestTransactionImpl py env p (some c')).eval ⟨db, db⟩ =
      (ingestTransactionImpl py env p (some c)).eval ⟨db, db⟩ := by
  refine eval_impl_congr env (reads_some hl hr)
    (reads_some (fun hs => h.ledger.2 (hl hs)) (h.receipt.trans hr)) fun hp w hw => ?_
  have hv : Vouched c known db p := by
    by_contra hno
    exact hm ⟨hp, hno⟩
  refine eval_ingestNew_agree env h ⟨?_, ?_, ?_⟩
  · exact hw.stores ▸ hv.store
  · exact hw.products ▸ hv.product
  · exact hw.devices ▸ hv.device

/-- A turn answers the same with either cache. -/
theorem eval_ingestItem_agree {c c' : IngestPrefetch} {known : List TransactionPayload}
    {s : Submission} {db w : Db} {r : SyncReceipt} (h : Agree c c' known s.payload)
    (hl : (db.ledger.get? s.id).isSome → s.id ∈ c.ledgerTxIds)
    (hr : c.receiptByTx s.id = db.receipts.get? s.id) (hm : ¬ Misled py c known db s.payload)
    (hi : (ingestItem py c' s).eval db = (.ok (r, c'.record s.payload r), w)) :
    (ingestItem py c s).eval db = (.ok (r, c.record s.payload r), w) := by
  have hses := eval_session_congr (eval_impl_agree s.env h hl hr hm)
  unfold ingestItem at hi ⊢
  rw [eval_bind_ok (eval_attempt ..)] at hi ⊢
  rw [hses] at hi
  generalize (session (ingestTransactionImpl py s.env s.payload (some c))).eval db = o at hi ⊢
  rcases o with ⟨e | a, db1⟩
  · simp only at hi ⊢
    rw [eval_bind] at hi ⊢
    generalize (handleError s e).eval db1 = o at hi ⊢
    rcases o with ⟨_ | r', db2⟩
    · cases hi
    · simp only [eval_pure, Prod.mk.injEq, Except.ok.injEq] at hi ⊢
      obtain ⟨⟨rfl, -⟩, rfl⟩ := hi
      exact ⟨⟨rfl, rfl⟩, rfl⟩
  · cases a with
    | expired => cases hi
    | live r' =>
      simp only [eval_pure, Prod.mk.injEq, Except.ok.injEq] at hi ⊢
      obtain ⟨⟨rfl, -⟩, rfl⟩ := hi
      exact ⟨⟨rfl, rfl⟩, rfl⟩

end Server
