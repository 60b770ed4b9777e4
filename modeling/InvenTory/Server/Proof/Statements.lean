import InvenTory.Lib.Statements
import InvenTory.Server.Batch

/-!
# The statements of ingestion

`ItemStatement env` are the statements that an item with the environment `env` may run, with any
rows; `impl_runsOnly` says that it runs no others, and `ingestBatch_keeps` that a batch keeps what
each of them keeps. Only the check of a stored rejection rolls back.
-/

namespace Server

open Sql Sql.Prog

inductive ItemStatement (env : Env) : (Db → Except Exn Db) → Prop
  | insertStore (r : Store) : ItemStatement env (·.insertStore r)
  | deleteStore (id : String) : ItemStatement env (·.deleteStore id)
  | insertProduct (r : Product) : ItemStatement env (·.insertProduct r)
  | insertDevice (r : Device) : ItemStatement env (·.insertDevice r)
  | insertLedger (r : InventoryTransaction) : ItemStatement env (·.insertLedger r)
  | updateLedger (r : InventoryTransaction) : ItemStatement env fun db => .ok (db.updateLedger r)
  | insertReceipt (r : SyncReceipt) : ItemStatement env (·.insertReceipt r)
  | updateReceipt (r : SyncReceipt) : ItemStatement env fun db => .ok (db.updateReceipt r)
  | deleteReceipt (id : String) : ItemStatement env fun db => .ok (db.deleteReceipt id)
  | upsertStockBalance (k : StockKey) (delta : Int) :
    ItemStatement env (·.upsertStockBalance env.balanceId k delta env.now)
  | insertDayBook (b : DayBook) : ItemStatement env (·.insertDayBook b)
  | insertDayBookEntry (e : DayBookEntry) : ItemStatement env (·.insertDayBookEntry e)
  | setOpeningBalance (id : String) (total : Int) :
    ItemStatement env fun db => .ok (db.setOpeningBalance id total)

variable {env : Env} {R : Prop}

/-! ## Provisioning -/

theorem isKnown_runsOnly (b : Bool) (holds : Db → Bool) :
    RunsOnly (ItemStatement env) R (isKnown b holds) := by
  unfold isKnown
  split
  · exact .ret _
  · exact .select _

theorem createStore_runsOnly (py : Python) (id : String) :
    RunsOnly (ItemStatement env) R (createStore py env id) := by
  unfold createStore
  extract_lets rawId suffix targetCode autoStore aliasCode
  refine .seq (.select _) fun owner => ?_
  split
  · exact .execute (.insertStore _)
  refine .seq (.select _) fun existing => ?_
  split
  · split
    · exact .seq (.execute (.deleteStore _)) fun _ => .execute (.insertStore _)
    · exact .execute (.insertStore _)
  · exact .execute (.insertStore _)

theorem provisionStore_runsOnly (py : Python) (c : Option IngestPrefetch) (id : String) :
    RunsOnly (ItemStatement env) R (provisionStore py env c id) := by
  unfold provisionStore
  refine .seq (isKnown_runsOnly _ _) fun known => ?_
  split
  · exact .ret _
  · exact createStore_runsOnly py id

theorem provisionProduct_runsOnly (c : Option IngestPrefetch) (id : String) :
    RunsOnly (ItemStatement env) R (provisionProduct env c id) := by
  unfold provisionProduct
  refine .seq (isKnown_runsOnly _ _) fun known => ?_
  split
  · exact .ret _
  · unfold createProduct
    exact .seq (.select _) fun _ => .execute (.insertProduct _)

theorem provisionDevice_runsOnly (c : Option IngestPrefetch) (id storeId : String) :
    RunsOnly (ItemStatement env) R (provisionDevice c id storeId) := by
  unfold provisionDevice
  refine .seq (isKnown_runsOnly _ _) fun known => ?_
  split
  · exact .ret _
  · exact .execute (.insertDevice _)

/-! ## The movement -/

theorem reject_runsOnly (p : TransactionPayload) (reason : String) :
    RunsOnly (ItemStatement env) R (reject env p reason) := by
  unfold reject
  exact .seq (.execute (.insertReceipt _)) fun _ => .ret _

theorem addTransactionToDayBook_runsOnly (tx : InventoryTransaction) :
    RunsOnly (ItemStatement env) R (addTransactionToDayBook env tx) := by
  have hget : RunsOnly (ItemStatement env) R
      (getOrCreateDayBook env tx.storeId tx.occurredAt) := by
    unfold getOrCreateDayBook
    extract_lets d
    refine .seq (.select _) fun b => ?_
    split
    · exact .ret _
    · exact .seq (.execute (.insertDayBook _)) fun _ => .ret _
  have hrecalc : ∀ b, RunsOnly (ItemStatement env) R (recalculateDayBookBalance b) := by
    intro b
    unfold recalculateDayBookBalance
    exact .seq (.select _) fun total => .execute (.setOpeningBalance _ _)
  unfold addTransactionToDayBook
  refine .seq hget fun b => .seq (.select _) fun e => ?_
  split
  · exact .ret _
  · exact .seq (.execute (.insertDayBookEntry _)) fun _ => .seq (hrecalc b) fun _ => .ret _

theorem insertMovement_runsOnly (p : TransactionPayload) :
    RunsOnly (ItemStatement env) R (insertMovement env p) := by
  unfold insertMovement
  refine .seq (.execute (.insertLedger _)) fun _ => ?_
  refine .seq (addTransactionToDayBook_runsOnly _) fun _ => ?_
  refine .seq (.execute (.upsertStockBalance _ _)) fun _ => ?_
  exact .seq (.execute (.insertReceipt _)) fun _ => .ret _

theorem checkAndInsert_runsOnly (p : TransactionPayload) :
    RunsOnly (ItemStatement env) R (checkAndInsert env p) := by
  unfold checkAndInsert
  split
  · refine .seq (.select _) fun current => ?_
    split
    · exact reject_runsOnly p _
    · exact insertMovement_runsOnly p
  · exact insertMovement_runsOnly p

theorem ingestNew_runsOnly (py : Python) (c : Option IngestPrefetch) (p : TransactionPayload) :
    RunsOnly (ItemStatement env) R (ingestNew py env c p) := by
  unfold ingestNew
  split
  · exact reject_runsOnly p _
  · refine .seq (provisionStore_runsOnly py c _) fun _ => ?_
    refine .seq (provisionProduct_runsOnly c _) fun _ => ?_
    exact .seq (provisionDevice_runsOnly c _ _) fun _ => checkAndInsert_runsOnly p

/-! ## The item -/

theorem retryStale_runsOnly (py : Python) (c : Option IngestPrefetch) (p : TransactionPayload) :
    RunsOnly (ItemStatement env) R (retryStale py env c p) := by
  unfold retryStale
  exact .seq (.execute (.deleteReceipt _)) fun _ => ingestNew_runsOnly py c p

theorem selectLedgerRow_runsOnly (c : Option IngestPrefetch) (id : String) :
    RunsOnly (ItemStatement env) R (selectLedgerRow c id) := by
  unfold selectLedgerRow
  split
  · exact .ret _
  · exact .mapError _ (.select _)

theorem lookupReceipt_runsOnly (c : Option IngestPrefetch) (id : String) :
    RunsOnly (ItemStatement env) R (lookupReceipt c id) := by
  unfold lookupReceipt
  split
  · exact .select _
  · split
    · exact .ret _
    · split
      · exact .ret _
      · exact .select _

theorem ledgerFirst_runsOnly (c : Option IngestPrefetch) (p : TransactionPayload)
    (row : InventoryTransaction) : RunsOnly (ItemStatement env) R (ledgerFirst env c p row) := by
  have hedit : RunsOnly (ItemStatement env) R (editLedgerRow env p row) := by
    unfold editLedgerRow
    split
    · exact .seq (.execute (.upsertStockBalance _ _)) fun _ => .execute (.updateLedger _)
    · exact .ret _
  unfold ledgerFirst
  refine .seq hedit fun _ => .seq (lookupReceipt_runsOnly c _) fun o => ?_
  split
  · split
    · exact .ret _
    · exact .seq (.execute (.updateReceipt _)) fun _ => .ret _
  · exact .seq (.execute (.insertReceipt _)) fun _ => .ret _

theorem staleCheck_runsOnly (r : SyncReceipt) (p : TransactionPayload) :
    RunsOnly (ItemStatement env) True (staleDomainRejectionShouldRetry r p) := by
  unfold staleDomainRejectionShouldRetry
  split
  · exact .ret _
  split
  · exact .ret _
  refine .seq (.attempt (.select _)) fun o => ?_
  split
  · exact .ret _
  · exact .seq (.rollback trivial) fun _ => .ret _

theorem impl_runsOnly (py : Python) (p : TransactionPayload) (c : Option IngestPrefetch) :
    RunsOnly (ItemStatement env) True (ingestTransactionImpl py env p c) := by
  unfold ingestTransactionImpl
  refine .seq (selectLedgerRow_runsOnly c _) fun o => ?_
  split
  · exact .seq (ledgerFirst_runsOnly c p _) fun _ => .ret _
  refine .seq (lookupReceipt_runsOnly c _) fun o => ?_
  split
  · exact ingestNew_runsOnly py c p
  split
  · exact .ret _
  split
  · exact retryStale_runsOnly py c p
  refine .seq (staleCheck_runsOnly _ p) fun a => ?_
  split
  · exact retryStale_runsOnly py c p
  · exact .ret _
  · exact .ret _

/-! ## The batch -/

/-- The statements that answer an item which raised. -/
inductive ReceiptStatement : (Db → Except Exn Db) → Prop
  | insertReceipt (r : SyncReceipt) : ReceiptStatement (·.insertReceipt r)
  | updateReceipt (r : SyncReceipt) : ReceiptStatement fun db => .ok (db.updateReceipt r)

theorem ReceiptStatement.item {f : Db → Except Exn Db} (h : ReceiptStatement f) (env : Env) :
    ItemStatement env f := by
  cases h with
  | insertReceipt r => exact .insertReceipt r
  | updateReceipt r => exact .updateReceipt r

/-- The handling of an exception keeps what its statements keep. -/
theorem handleError_keeps_of {I : Db → Prop}
    (hI : ∀ f, ReceiptStatement f → ∀ db db', I db → f db = .ok db' → I db')
    (s : Submission) (exc : Exn) : Keeps I (handleError s exc) := by
  have hacc : Keeps I (ensureAcceptedReceipt s.env s.payload.transactionId) := by
    unfold ensureAcceptedReceipt
    refine .session (S := ReceiptStatement) (R := False) ?_ hI
    refine .seq (.select _) fun o => ?_
    split
    · exact .seq (.execute (.updateReceipt _)) fun _ => .ret _
    · exact .seq (.execute (.insertReceipt _)) fun _ => .ret _
  have hrej : Keeps I (persistRejection s.env s.payload.transactionId exc) := by
    unfold persistRejection
    refine .session (S := ReceiptStatement) (R := False) ?_ hI
    refine .seq (.attempt (.select _)) fun o => ?_
    split
    · exact .seq (.execute (.updateReceipt _)) fun _ => .ret _
    · exact .seq (.execute (.insertReceipt _)) fun _ => .ret _
  unfold handleError
  extract_lets id
  split
  · refine .seq (.attempt hacc) fun o => ?_
    split <;> exact .ret _
  · refine .seq (.attempt hrej) fun o => ?_
    split <;> exact .ret _

section
variable {I : Db → Prop}
  (hI : ∀ env f, ItemStatement env f → ∀ db db', I db → f db = .ok db' → I db')
include hI

theorem handleError_keeps (s : Submission) (exc : Exn) : Keeps I (handleError s exc) :=
  handleError_keeps_of (fun f hf => hI s.env f (hf.item s.env)) s exc

theorem ingestItem_keeps (py : Python) (c : IngestPrefetch) (s : Submission) :
    Keeps I (ingestItem py c s) := by
  unfold ingestItem
  refine .seq (.attempt (.session (impl_runsOnly py s.payload (some c)) (hI s.env))) fun o => ?_
  split
  · exact .ret _
  · exact .raise _
  · exact .seq (handleError_keeps hI s _) fun _ => .ret _

end

section
variable {I : Db → Prop} {py : Python} (hitem : ∀ c s, Keeps I (ingestItem py c s))
include hitem

theorem ingestItems_keeps : ∀ (c : IngestPrefetch) (items : List Item),
    Keeps I (ingestItems py c items)
  | _, [] => .ret _
  | c, (_, s) :: rest => .seq (hitem c s) fun x =>
      .seq (ingestItems_keeps x.2 rest) fun _ => .ret _

/-- A batch keeps what its items keep. -/
theorem ingestBatch_keeps_of (subs : List Submission) : Keeps I (ingestBatch py subs) := by
  unfold ingestBatch
  split
  · exact .seq (.reading _) fun c => .seq (ingestItems_keeps hitem c _) fun _ => .ret _
  · exact .raise _

end

/-- **A batch keeps what its statements keep**, whatever fails. -/
theorem ingestBatch_keeps {I : Db → Prop}
    (hI : ∀ env f, ItemStatement env f → ∀ db db', I db → f db = .ok db' → I db') (py : Python)
    (subs : List Submission) : Keeps I (ingestBatch py subs) :=
  ingestBatch_keeps_of (ingestItem_keeps hI py) subs

end Server
