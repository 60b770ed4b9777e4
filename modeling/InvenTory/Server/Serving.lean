import InvenTory.Server.Proof.Item

/-!
# The server at work

`Serving F py G db batch`: a server that started with an empty ledger and whose every item met `G`
has the database `db`, and `batch` is the cache and the rest of the batch it is working on. Any
statement may have failed on the way. `serving_batch` says that a call of `ingestBatch` is a run
of this machine, so that what holds of every `Serving` state holds after every item of every
sequence of calls.
-/

namespace Server

open Relational Sql Sql.Prog

/-- Nothing was ever ingested. -/
structure EmptyLedger (db : Db) : Prop where
  ledger : db.ledger = ∅
  quantity : ∀ k, db.quantity k = 0

inductive Serving (F : Exn → Prop) (py : Python) (G : Db → Submission → Prop) :
    Db → Option (IngestPrefetch × List Item) → Prop
  | start {db : Db} (h : EmptyLedger db) : Serving F py G db none
  | request {db : Db} {subs : List Submission} {c : IngestPrefetch} (h : Serving F py G db none)
    (hs : Sortable subs)
    (hc : (reading (IngestPrefetch.load (subs.map (·.payload)))).Yields F db (.ok c) db) :
    Serving F py G db (some (c, ordered subs))
  | turn {db db' : Db} {c : IngestPrefetch} {i : Nat} {s : Submission} {rest : List Item}
    {res : Except Exn (SyncReceipt × IngestPrefetch)}
    (h : Serving F py G db (some (c, (i, s) :: rest))) (hG : G db s)
    (hi : (ingestItem py c s).Yields F db res db') :
    Serving F py G db' (res.toOption.map fun x => (x.2, rest))
  | respond {db : Db} {c : IngestPrefetch} (h : Serving F py G db (some (c, []))) :
    Serving F py G db none

/-- Any statement may fail, in any way. -/
def anyFault (_ : Exn) : Prop := True

/-- No statement is made to fail. -/
def noFault (_ : Exn) : Prop := False

/-- Every payload is allowed. -/
def anyItem (_ : Db) (_ : Submission) : Prop := True

variable {F : Exn → Prop} {py : Python} {G : Db → Submission → Prop}

/-- A machine that goes through batches as `Serving` does. -/
structure Batched (F : Exn → Prop) (py : Python) (G : Db → Submission → Prop)
    (M : Db → Option (IngestPrefetch × List Item) → Prop) : Prop where
  request : ∀ {db : Db} {subs : List Submission} {c : IngestPrefetch}, M db none → Sortable subs →
    (reading (IngestPrefetch.load (subs.map (·.payload)))).Yields F db (.ok c) db →
      M db (some (c, ordered subs))
  turn : ∀ {db db' : Db} {c : IngestPrefetch} {i : Nat} {s : Submission} {rest : List Item}
    {res : Except Exn (SyncReceipt × IngestPrefetch)}, M db (some (c, (i, s) :: rest)) → G db s →
      (ingestItem py c s).Yields F db res db' → M db' (res.toOption.map fun x => (x.2, rest))
  respond : ∀ {db : Db} {c : IngestPrefetch}, M db (some (c, [])) → M db none

section
variable {M : Db → Option (IngestPrefetch × List Item) → Prop} (hM : Batched F py G M)
  (hG : ∀ db s, G db s)
include hM hG

theorem Batched.items : ∀ {items : List Item} {c : IngestPrefetch} {db db' : Db}
    {res : Except Exn (List (Nat × SyncReceipt))},
    M db (some (c, items)) → (ingestItems py c items).Yields F db res db' → M db' none
  | [], _, _, _, _, h, hr => by
    rw [(yields_pure hr).2]
    exact hM.respond h
  | (i, s) :: rest, c, db, db', res, h, hr => by
    rcases yields_bind hr with ⟨e, h1, -⟩ | ⟨⟨r, c'⟩, db1, h1, h2⟩
    · exact hM.turn h (hG _ _) h1
    have hn := hM.turn h (hG _ _) h1
    rcases yields_bind h2 with ⟨e, h3, -⟩ | ⟨rs, db2, h3, h4⟩
    · exact Batched.items hn h3
    · rw [(yields_pure h4).2]
      exact Batched.items hn h3

/-- A call of `ingestBatch` is a run of such a machine. -/
theorem Batched.batch {subs : List Submission} {db db' : Db} {res : Except Exn (List SyncReceipt)}
    (h : M db none) (hr : (ingestBatch py subs).Yields F db res db') : M db' none := by
  unfold ingestBatch at hr
  split at hr
  · rename_i hs
    rcases yields_bind hr with ⟨e, h1, -⟩ | ⟨c, db1, h1, h2⟩
    · rw [(yields_reading h1).1]
      exact h
    have hdb := (yields_reading h1).1
    subst hdb
    have hreq := hM.request h hs h1
    rcases yields_bind h2 with ⟨e, h3, -⟩ | ⟨rs, db2, h3, h4⟩
    · exact hM.items hG hreq h3
    · rw [(yields_pure h4).2]
      exact hM.items hG hreq h3
  · rw [(yields_throw hr).2]
    exact h

end

theorem serving_batched : Batched F py G (Serving F py G) := ⟨.request, .turn, .respond⟩

/-- **A call of `ingestBatch` is a run of the machine.** -/
theorem serving_batch (hG : ∀ db s, G db s) {subs : List Submission} {db db' : Db}
    {res : Except Exn (List SyncReceipt)} (h : Serving F py G db none)
    (hr : (ingestBatch py subs).Yields F db res db') : Serving F py G db' none :=
  serving_batched.batch hG h hr

/-- What a turn of the loop keeps holds of every state. -/
theorem Serving.invariant {P : Db → Prop} (h0 : ∀ db, EmptyLedger db → P db)
    (hstep : ∀ db db' s c ret, P db → G db s →
      Handled F s.env (some c) s.payload db ret db' → P db')
    (hreceipt : ∀ db db' id, P db → OnlyReceipt id db db' → P db')
    {db : Db} {batch : Option (IngestPrefetch × List Item)} (h : Serving F py G db batch) :
    P db := by
  induction h with
  | start h => exact h0 _ h
  | request _ _ _ ih => exact ih
  | respond _ ih => exact ih
  | turn _ hG hi ih =>
    cases Server.turn hi with
    | handled hd => exact hstep _ _ _ _ _ ih hG hd
    | raised _ _ ho _ => exact hreceipt _ _ _ ih ho
    | aborted _ => exact ih

/-! ## Calls without faults -/

/-- What a call answers, and the database it leaves, when no statement is made to fail. -/
def push (py : Python) (db : Db) (subs : List Submission) : Except Exn (List SyncReceipt) × Db :=
  (ingestBatch py subs).eval db

/-- A sequence of calls: the answers, and the last database. -/
def pushAll (py : Python) : Db → List (List Submission) →
    List (Except Exn (List SyncReceipt)) × Db
  | db, [] => ([], db)
  | db, subs :: rest =>
    let r := push py db subs
    let rs := pushAll py r.2 rest
    (r.1 :: rs.1, rs.2)

theorem Batched.pushAll {M : Db → Option (IngestPrefetch × List Item) → Prop}
    (hM : Batched F py G M) (hG : ∀ db s, G db s) : ∀ (batches : List (List Submission)) {db : Db},
      M db none → M (Server.pushAll py db batches).2 none
  | [], _, h => h
  | subs :: rest, db, h => by
    have h1 := hM.batch hG h (yields_eval F (ingestBatch py subs) db)
    exact Batched.pushAll hM hG rest h1

theorem serving_pushAll (hG : ∀ db s, G db s) (batches : List (List Submission)) {db : Db}
    (h : Serving F py G db none) : Serving F py G (pushAll py db batches).2 none :=
  serving_batched.pushAll hG batches h

/-- The cache that a batch starts with. -/
def IngestPrefetch.loaded (ps : List TransactionPayload) (db : Db) : IngestPrefetch where
  ledgerTxIds := (ps.map (·.transactionId)).filter fun id => (db.ledger.get? id).isSome
  receiptByTx id := if id ∈ ps.map (·.transactionId) then db.receipts.get? id else none
  storeIds := ((ps.map (·.storeId)).filter (· ≠ "")).filter fun id => (db.stores.get? id).isSome
  productIds := ((ps.map (·.productId)).filter (· ≠ "")).filter
    fun id => (db.products.get? id).isSome
  deviceIds := ((ps.map (·.deviceId)).filter (· ≠ "")).filter
    fun id => (db.devices.get? id).isSome

theorem eval_prefetchIds (values : List String) (holds : Db → String → Bool) (cn : Conn Db) :
    (IngestPrefetch.prefetchIds values holds).eval cn = (.ok (values.filter (holds cn.work)), cn) := by
  unfold IngestPrefetch.prefetchIds
  split
  · rename_i h
    simp [h]
  · simp

theorem eval_prefetchReceipts (txIds : List String) (cn : Conn Db) :
    (IngestPrefetch.prefetchReceipts txIds).eval cn =
      (.ok fun id => if id ∈ txIds then cn.work.receipts.get? id else none, cn) := by
  unfold IngestPrefetch.prefetchReceipts
  split
  · rename_i h
    simp [h]
  · simp

theorem eval_load (ps : List TransactionPayload) (cn : Conn Db) :
    (IngestPrefetch.load ps).eval cn = (.ok (.loaded ps cn.work), cn) := by
  unfold IngestPrefetch.load
  rw [eval_bind_ok (eval_prefetchIds ..), eval_bind_ok (eval_prefetchReceipts ..), eval_bind_ok (eval_prefetchIds ..),
    eval_bind_ok (eval_prefetchIds ..), eval_bind_ok (eval_prefetchIds ..)]
  rfl

theorem eval_reading_load (ps : List TransactionPayload) (db : Db) :
    (reading (IngestPrefetch.load ps)).eval db = (.ok (.loaded ps db), db) := by
  rw [eval_reading, eval_load]

theorem sortable_single (s : Submission) : Sortable [s] := by
  intro a ha b hb _
  rw [List.mem_singleton.1 ha, List.mem_singleton.1 hb]

/-- A batch of one item. -/
theorem eval_push_single (db : Db) (s : Submission) :
    (push py db [s]).2 = ((ingestItem py (.loaded [s.payload] db) s).eval db).2 := by
  unfold push ingestBatch
  rw [if_pos (sortable_single s)]
  show ((reading (IngestPrefetch.load [s.payload]) >>= fun prefetch =>
    ingestItems py prefetch [(0, s)] >>= _).eval db).2 = _
  rw [eval_bind_ok (eval_reading_load [s.payload] db), eval_bind]
  unfold ingestItems
  rw [eval_bind]
  generalize (ingestItem py (.loaded [s.payload] db) s).eval db = res
  obtain ⟨e | ⟨r, c⟩, db'⟩ := res
  · rfl
  · rfl

theorem Batched.pushSingle {M : Db → Option (IngestPrefetch × List Item) → Prop}
    (hM : Batched F py G M) {db : Db} (h : M db none) {s : Submission} (hG : G db s) :
    M (push py db [s]).2 none := by
  have hc := yields_eval F (reading (IngestPrefetch.load [s.payload])) db
  rw [eval_reading_load] at hc
  have hturn := hM.turn (hM.request h (sortable_single s) hc) hG (yields_eval F _ db)
  rw [eval_push_single]
  generalize (ingestItem py (.loaded [s.payload] db) s).eval db = res at hturn ⊢
  obtain ⟨e | ⟨r, c⟩, db'⟩ := res
  · exact hturn
  · exact hM.respond hturn

/-! ## Sample values -/

namespace Sample

def python : Python := ⟨.ascii, "\x7b'SALE', 'RECEIPT', ..\x7d"⟩

def env : Env := ⟨⟨0, some 0⟩, "0a1b2c3d", "4e5f6a7b", "DB-1", "DE-1", "SB-1"⟩

/-- A movement of the AVAILABLE bucket of one store and product. -/
def movement (transactionId movementType : String) (quantityDelta : Int) (occurredAt : Int) :
    Submission where
  payload :=
    { transactionId, storeId := "STORE-A", productId := "PROD-1", movementType, quantityDelta
      occurredAt := ⟨occurredAt, some 0⟩, userId := 1, deviceId := "DEV-1"
      stockBucket := "AVAILABLE", referenceNumber := some "R-1", reasonCode := none
      transferId := none, purchaseOrderId := none, batchId := none, clientSequence := none
      originalTransactionId := none }
  env := env

def stock : StockKey := ⟨"STORE-A", "PROD-1", "AVAILABLE"⟩

theorem empty : EmptyLedger Db.empty := ⟨rfl, fun _ => rfl⟩

end Sample

end Server
