import InvenTory.Lib.Interleave
import InvenTory.Server.Proof.Statements

/-!
# Concurrent requests

`ingestBatch.code` takes a request apart into its sessions and their statements, so that requests can
be interleaved (`requests`): each runs `ingestBatch` on its own submissions, and a statement waits
while it would change a row that an open session of another request has changed (`Db.locks`).
-/

namespace Server

open Sql Sql.Prog

/-! ## The sessions -/

/-- The statements that change neither the ledger nor a balance. -/
inductive SideStatement : (Db → Except Exn Db) → Prop
  | insertStore (r : Store) : SideStatement (·.insertStore r)
  | deleteStore (id : String) : SideStatement (·.deleteStore id)
  | insertProduct (r : Product) : SideStatement (·.insertProduct r)
  | insertDevice (r : Device) : SideStatement (·.insertDevice r)
  | insertReceipt (r : SyncReceipt) : SideStatement (·.insertReceipt r)
  | updateReceipt (r : SyncReceipt) : SideStatement fun db => .ok (db.updateReceipt r)
  | deleteReceipt (id : String) : SideStatement fun db => .ok (db.deleteReceipt id)
  | insertDayBook (b : DayBook) : SideStatement (·.insertDayBook b)
  | insertDayBookEntry (e : DayBookEntry) : SideStatement (·.insertDayBookEntry e)
  | setOpeningBalance (id : String) (total : Int) :
    SideStatement fun db => .ok (db.setOpeningBalance id total)

/-- The statements of ingestion. -/
def AnyStatement (f : Db → Except Exn Db) : Prop := SideStatement f ∨ ∃ env, ItemStatement env f

theorem SideStatement.anyStatement {f : Db → Except Exn Db} (h : SideStatement f) :
    AnyStatement f := .inl h

theorem ItemStatement.anyStatement {env : Env} {f : Db → Except Exn Db} (h : ItemStatement env f) :
    AnyStatement f := .inr ⟨env, h⟩

theorem SideStatement.any {f : Db → Except Exn Db} (env : Env) (h : SideStatement f) :
    ItemStatement env f := by
  cases h with
  | insertStore r => exact .insertStore r
  | deleteStore id => exact .deleteStore id
  | insertProduct r => exact .insertProduct r
  | insertDevice r => exact .insertDevice r
  | insertReceipt r => exact .insertReceipt r
  | updateReceipt r => exact .updateReceipt r
  | deleteReceipt id => exact .deleteReceipt id
  | insertDayBook b => exact .insertDayBook b
  | insertDayBookEntry e => exact .insertDayBookEntry e
  | setOpeningBalance id total => exact .setOpeningBalance id total

def isKnown.code (cached : Bool) (holds : Db → Bool) :
    Code SideStatement False (isKnown cached holds) :=
  .cond (fun _ => .ret true) fun _ => .select holds

def createStore.code (py : Python) (env : Env) (storeId : String) :
    Code SideStatement False (createStore py env storeId) :=
  .seq (.select _) fun owner =>
    match owner.filter (· ≠ "") with
    | none => .execute (.insertStore _)
    | some _ => .seq (.select _) fun existing =>
      match existing with
      | some _ => .cond
          (fun _ => .seq (.execute (.deleteStore _)) fun _ => .execute (.insertStore _))
          fun _ => .execute (.insertStore _)
      | none => .execute (.insertStore _)

def provisionStore.code (py : Python) (env : Env) (c : Option IngestPrefetch) (storeId : String) :
    Code SideStatement False (provisionStore py env c storeId) :=
  .seq (isKnown.code _ _) fun _ => .cond (fun _ => .ret ()) fun _ => createStore.code py env storeId

def provisionProduct.code (env : Env) (c : Option IngestPrefetch) (productId : String) :
    Code SideStatement False (provisionProduct env c productId) :=
  .seq (isKnown.code _ _) fun _ => .cond (fun _ => .ret ()) fun _ =>
    .seq (.select _) fun _ => .execute (.insertProduct _)

def provisionDevice.code (c : Option IngestPrefetch) (deviceId storeId : String) :
    Code SideStatement False (provisionDevice c deviceId storeId) :=
  .seq (isKnown.code _ _) fun _ => .cond (fun _ => .ret ()) fun _ => .execute (.insertDevice _)

def reject.code (env : Env) (p : TransactionPayload) (reason : String) :
    Code SideStatement False (reject env p reason) :=
  .seq (.execute (.insertReceipt _)) fun _ => .ret _

def getOrCreateDayBook.code (env : Env) (storeId : String) (bookDate : DateTime) :
    Code SideStatement False (getOrCreateDayBook env storeId bookDate) :=
  .seq (.select _) fun b =>
    match b with
    | some b => .ret b
    | none => .seq (.execute (.insertDayBook _)) fun _ => .ret _

def recalculateDayBookBalance.code (b : DayBook) :
    Code SideStatement False (recalculateDayBookBalance b) :=
  .seq (.select _) fun _ => .execute (.setOpeningBalance _ _)

def addTransactionToDayBook.code (env : Env) (tx : InventoryTransaction) :
    Code SideStatement False (addTransactionToDayBook env tx) :=
  .seq (getOrCreateDayBook.code _ _ _) fun b => .seq (.select _) fun e =>
    match e with
    | some e => .ret e
    | none => .seq (.execute (.insertDayBookEntry _)) fun _ =>
      .seq (recalculateDayBookBalance.code b) fun _ => .ret _

section
variable {env : Env} {R : Prop}

/-- A part of a session that only runs side statements. -/
def sideCode {α : Type} {p : Tx α} (c : Code SideStatement False p) :
    Code (ItemStatement env) R p :=
  c.mono (fun _ h => h.any env) False.elim

end

def insertMovement.code (env : Env) (R : Prop) (p : TransactionPayload) :
    Code (ItemStatement env) R (insertMovement env p) :=
  .seq (.execute (.insertLedger _)) fun _ =>
    .seq (sideCode (addTransactionToDayBook.code _ _)) fun _ =>
      .seq (.execute (.upsertStockBalance _ _)) fun _ =>
        .seq (.execute (.insertReceipt _)) fun _ => .ret _

def checkAndInsert.code (env : Env) (R : Prop) (p : TransactionPayload) :
    Code (ItemStatement env) R (checkAndInsert env p) :=
  .cond
    (fun _ => .seq (.select _) fun _ =>
      .cond (fun _ => sideCode (reject.code _ _ _)) fun _ => insertMovement.code env R p)
    fun _ => insertMovement.code env R p

def ingestNew.code (py : Python) (env : Env) (R : Prop) (c : Option IngestPrefetch)
    (p : TransactionPayload) : Code (ItemStatement env) R (ingestNew py env c p) := by
  delta ingestNew
  exact match validatePayload py p with
    | some _ => sideCode (reject.code _ _ _)
    | none =>
      .seq (sideCode (provisionStore.code _ _ _ _)) fun _ =>
        .seq (sideCode (provisionProduct.code _ _ _)) fun _ =>
          .seq (sideCode (provisionDevice.code _ _ _)) fun _ => checkAndInsert.code env R p

def retryStale.code (py : Python) (env : Env) (R : Prop) (c : Option IngestPrefetch)
    (p : TransactionPayload) : Code (ItemStatement env) R (retryStale py env c p) :=
  .seq (.execute (.deleteReceipt _)) fun _ => ingestNew.code py env R c p

def selectLedgerRow.code (c : Option IngestPrefetch) (id : String) :
    Code SideStatement False (selectLedgerRow c id) :=
  .cond (fun _ => .ret none) fun _ => .mapError _ (.select _)

def lookupReceipt.code (c : Option IngestPrefetch) (id : String) :
    Code SideStatement False (lookupReceipt c id) := by
  delta lookupReceipt
  cases c with
  | none => exact .select _
  | some c =>
    dsimp only
    exact match c.receiptByTx id with
      | none => .ret none
      | some snap => .cond (fun _ => .ret (some snap)) fun _ => .select _

def editLedgerRow.code (env : Env) (R : Prop) (p : TransactionPayload)
    (row : InventoryTransaction) : Code (ItemStatement env) R (editLedgerRow env p row) :=
  .cond
    (fun _ => .seq (.execute (.upsertStockBalance _ _)) fun _ => .execute (.updateLedger _))
    fun _ => .ret ()

def ledgerFirst.code (env : Env) (R : Prop) (c : Option IngestPrefetch) (p : TransactionPayload)
    (row : InventoryTransaction) : Code (ItemStatement env) R (ledgerFirst env c p row) :=
  .seq (editLedgerRow.code env R p row) fun _ => .seq (sideCode (lookupReceipt.code c _)) fun r =>
    match r with
    | some r => .cond (fun _ => .ret r) fun _ => .seq (.execute (.updateReceipt _)) fun _ => .ret _
    | none => .seq (.execute (.insertReceipt _)) fun _ => .ret _

def staleDomainRejectionShouldRetry.code (r : SyncReceipt) (p : TransactionPayload) :
    Code SideStatement True (staleDomainRejectionShouldRetry r p) := by
  delta staleDomainRejectionShouldRetry
  exact match r.rejectionReason.bind matchInsufficientStock with
    | none => .ret _
    | some _ => .cond (fun _ => .ret _) fun _ => .seq (.attempt (.select _)) fun o =>
      match o with
      | .ok _ => .ret _
      | .error _ => .seq (.rollback trivial) fun _ => .ret _

def ingestTransactionImpl.code (py : Python) (env : Env) (p : TransactionPayload)
    (c : Option IngestPrefetch) :
    Code (ItemStatement env) True (ingestTransactionImpl py env p c) :=
  .seq (sideCode (selectLedgerRow.code c _)) fun row =>
    match row with
    | some row => .seq (ledgerFirst.code env True c p row) fun _ => .ret _
    | none => .seq (sideCode (lookupReceipt.code c _)) fun r =>
      match r with
      | none => ingestNew.code py env True c p
      | some r => .cond (fun _ => .ret _) fun _ => .cond
        (fun _ => retryStale.code py env True c p)
        fun _ => .seq ((staleDomainRejectionShouldRetry.code r p).mono (fun _ h => h.any env) id) fun a =>
          match a with
          | .answered true => retryStale.code py env True c p
          | .answered false => .ret _
          | .rolledBack => .ret _

def IngestPrefetch.prefetchIds.code (values : List String) (holds : Db → String → Bool) :
    Code SideStatement False (IngestPrefetch.prefetchIds values holds) :=
  .cond (fun _ => .ret []) fun _ => .select _

def IngestPrefetch.prefetchReceipts.code (txIds : List String) :
    Code SideStatement False (IngestPrefetch.prefetchReceipts txIds) :=
  .cond (fun _ => .ret _) fun _ => .select _

def IngestPrefetch.load.code (payloads : List TransactionPayload) :
    Code SideStatement False (IngestPrefetch.load payloads) :=
  .seq (prefetchIds.code _ _) fun _ => .seq (prefetchReceipts.code _) fun _ =>
    .seq (prefetchIds.code _ _) fun _ => .seq (prefetchIds.code _ _) fun _ =>
      .seq (prefetchIds.code _ _) fun _ => .ret _

/-! ## The batch -/

def ensureAcceptedReceipt.code (env : Env) (id : String) :
    FlowCode SideStatement False (ensureAcceptedReceipt env id) :=
  .session <| .seq (.select _) fun existing =>
    match existing with
    | some _ => .seq (.execute (.updateReceipt _)) fun _ => .ret _
    | none => .seq (.execute (.insertReceipt _)) fun _ => .ret _

def persistRejection.code (env : Env) (id : String) (exc : Exn) :
    FlowCode SideStatement False (persistRejection env id exc) :=
  .session <| .seq (.attempt (.select _)) fun existing =>
    match existing with
    | .ok (some _) => .seq (.execute (.updateReceipt _)) fun _ => .ret _
    | .ok none => .seq (.execute (.insertReceipt _)) fun _ => .ret _
    | .error _ => .seq (.execute (.insertReceipt _)) fun _ => .ret _

def handleError.code (s : Submission) (exc : Exn) :
    FlowCode SideStatement False (handleError s exc) :=
  .cond
    (fun _ => .seq (.attempt (ensureAcceptedReceipt.code _ _)) fun o =>
      match o with
      | .ok r => .ret r
      | .error _ => .ret _)
    fun _ => .seq (.attempt (persistRejection.code _ _ _)) fun o =>
      match o with
      | .ok r => .ret r
      | .error _ => .ret _

def ingestItem.code (py : Python) (c : IngestPrefetch) (s : Submission) :
    FlowCode AnyStatement True (ingestItem py c s) :=
  .seq (.attempt (.session ((ingestTransactionImpl.code py s.env s.payload (some c)).mono
    (fun _ h => h.anyStatement) id))) fun o =>
    match o with
    | .ok (.live _) => .ret _
    | .ok .expired => .raise _
    | .error exc => .seq ((handleError.code s exc).mono (fun _ h => h.anyStatement) False.elim)
      fun _ => .ret _

def ingestItems.code (py : Python) : (c : IngestPrefetch) → (items : List Item) →
    FlowCode AnyStatement True (ingestItems py c items)
  | _, [] => .ret []
  | c, (_, s) :: rest => .seq (ingestItem.code py c s) fun x =>
    .seq (ingestItems.code py x.2 rest) fun _ => .ret _

def ingestBatch.code (py : Python) (subs : List Submission) :
    FlowCode AnyStatement True (ingestBatch py subs) :=
  .cond
    (fun _ => .seq (.reading ((IngestPrefetch.load.code _).mono
      (fun _ h => h.anyStatement) False.elim)) fun c =>
      .seq (ingestItems.code py c _) fun _ => .ret _)
    fun _ => .raise _

/-! ## Requests -/

/-- What a statement locks: rows, and values of unique columns. -/
inductive Lock
  | store (id : String)
  | storeCode (code : String)
  | product (id : String)
  | productSku (sku : String)
  | device (id : String)
  | ledger (id : String)
  | balance (k : StockKey)
  | receipt (id : String)
  | dayBook (id : String)
  deriving DecidableEq

/-- What is locked by the statement that changed `db` to `db'`. The shared locks of foreign keys are
left out: they only make some statements wait. -/
def Db.locks (db db' : Db) : Lock → Prop
  | .store id => db.stores.get? id ≠ db'.stores.get? id
  | .storeCode code => db.stores.rows.any (·.code = code) ≠ db'.stores.rows.any (·.code = code)
  | .product id => db.products.get? id ≠ db'.products.get? id
  | .productSku sku => db.products.rows.any (·.sku = sku) ≠ db'.products.rows.any (·.sku = sku)
  | .device id => db.devices.get? id ≠ db'.devices.get? id
  | .ledger id => db.ledger.get? id ≠ db'.ledger.get? id
  | .balance k => db.balances.get? k ≠ db'.balances.get? k
  | .receipt id => db.receipts.get? id ≠ db'.receipts.get? id
  | .dayBook id => db.dayBooks.find? (·.id = id) ≠ db'.dayBooks.find? (·.id = id)

/-- Requests at work. -/
abbrev Requests (ι : Type) := Pool ι Exn Db (List SyncReceipt)

/-- Requests, none of which has done anything yet. -/
def requests {ι : Type} (py : ι → Python) (subs : ι → List Submission) (db : Db) : Requests ι :=
  .start db fun i => (ingestBatch.code (py i) (subs i)).flow

end Server
