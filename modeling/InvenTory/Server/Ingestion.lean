import InvenTory.Server.DayBook

/-!
# Ingesting one transaction

`app/services/ingestion.py` up to `_ingest_transaction_impl`. A payload whose id is in the ledger
is answered from there, after an in-place edit if its quantity differs (`ledgerFirst`); one with a
stored receipt gets that receipt, unless the rejection it records may be stale; any other payload
is validated, its master data is provisioned, and it is inserted with its day-book entry, its
balance and its receipt (`ingestNew`).
-/

namespace Server

open Sql Sql.Prog Py

/-- What the code takes from Python: the case mappings, and the `repr` of the set of movement
types, whose order differs from process to process. -/
structure Python where
  caseMap : CaseMap
  validTypesRepr : String

structure TransactionPayload where
  transactionId : String
  storeId : String
  productId : String
  movementType : String
  quantityDelta : Int
  occurredAt : DateTime
  userId : Int
  deviceId : String
  stockBucket : String
  referenceNumber : Option String
  reasonCode : Option String
  transferId : Option String
  purchaseOrderId : Option String
  batchId : Option String
  clientSequence : Option Int
  originalTransactionId : Option String
  deriving DecidableEq, Repr

def TransactionPayload.stock (p : TransactionPayload) : StockKey :=
  ⟨p.storeId, p.productId, p.stockBucket⟩

/-! ## Receipts and their reasons -/

def makeAcceptedReceipt (env : Env) (transactionId : String) : SyncReceipt :=
  ⟨transactionId, true, none, env.now, env.now⟩

def makeRejectedReceipt (env : Env) (transactionId reason : String) : SyncReceipt :=
  ⟨transactionId, false, some reason, env.now, env.now⟩

/-- The receipt `r` turned into an accepted one. -/
def SyncReceipt.accept (r : SyncReceipt) (env : Env) : SyncReceipt :=
  { r with accepted := true, rejectionReason := none, processedAt := env.now }

def isInventoryTransactionsPkeyCollision (exc : Exn) : Bool :=
  exc.type = "IntegrityError" && (isIn "inventory_transactions_pkey" exc.text ||
    (isIn "UNIQUE constraint failed" exc.text && isIn "inventory_transactions" exc.text))

def internalErrorMarkers : List String :=
  ["query-invoked autoflush", "datatypemismatch", "programmingerror", "internalerror",
    "operationalerror", "interfaceerror", "databaseerror", "sqlalchemy"]

def isServerInternalErrorReason (py : Python) : Option String → Bool
  | none => false
  | some reason =>
    reason ≠ "" && (startsWith reason "Unexpected error:" ||
      internalErrorMarkers.any fun m => isIn m (py.caseMap.lower reason))

def insufficientStock (current delta : Int) : String :=
  "Insufficient stock: current " ++ toString current ++ ", would result in " ++
    toString (current + delta)

/-- `_INSUFFICIENT_STOCK_RE`, with the first of its groups; `$` also matches before a last
newline. -/
def matchInsufficientStock (reason : String) : Option Int := do
  let cs ← matchText "Insufficient stock: current " reason.toList
  let (recorded, cs) ← matchInt cs
  let cs ← matchText ", would result in " cs
  let (_, cs) ← matchInt cs
  if cs = [] ∨ cs = ['\n'] then some recorded else none

/-- What the check of a stored rejection comes to. -/
inductive StaleCheck
  | answered (retry : Bool)
  /-- The SELECT failed, and the rollback expired the receipt that was loaded before. -/
  | rolledBack

def staleDomainRejectionShouldRetry (receipt : SyncReceipt) (p : TransactionPayload) :
    Tx StaleCheck :=
  match receipt.rejectionReason.bind matchInsufficientStock with
  | none => pure (.answered false)
  | some previousBalanceRecorded =>
    if previousBalanceRecorded < 0 then pure (.answered false)
    else do
      match ← attempt (select (·.quantity p.stock)) with
      | .ok current =>
        pure (.answered (0 ≤ current + p.quantityDelta ∧ current ≠ previousBalanceRecorded))
      | .error _ =>
        rollback
        pure .rolledBack

/-! ## The prefetch cache -/

/-- Lookups shared by the items of one `ingestBatch` call. -/
structure IngestPrefetch where
  ledgerTxIds : List String
  receiptByTx : String → Option SyncReceipt
  storeIds : List String
  productIds : List String
  deviceIds : List String

namespace IngestPrefetch

def prefetchIds (values : List String) (holds : Db → String → Bool) : Tx (List String) :=
  if values = [] then pure [] else select fun db => values.filter (holds db)

def prefetchReceipts (txIds : List String) : Tx (String → Option SyncReceipt) :=
  if txIds = [] then pure fun _ => none
  else select fun db id => if id ∈ txIds then db.receipts.get? id else none

def load (payloads : List TransactionPayload) : Tx IngestPrefetch := do
  let txIds := payloads.map (·.transactionId)
  let ledgerTxIds ← prefetchIds txIds fun db id => (db.ledger.get? id).isSome
  let receiptByTx ← prefetchReceipts txIds
  let storeIds ← prefetchIds ((payloads.map (·.storeId)).filter (· ≠ ""))
    fun db id => (db.stores.get? id).isSome
  let productIds ← prefetchIds ((payloads.map (·.productId)).filter (· ≠ ""))
    fun db id => (db.products.get? id).isSome
  let deviceIds ← prefetchIds ((payloads.map (·.deviceId)).filter (· ≠ ""))
    fun db id => (db.devices.get? id).isSome
  pure ⟨ledgerTxIds, receiptByTx, storeIds, productIds, deviceIds⟩

/-- Fold the outcome of a processed item back into the cache. -/
def record (c : IngestPrefetch) (p : TransactionPayload) (receipt : SyncReceipt) :
    IngestPrefetch where
  ledgerTxIds := if receipt.accepted then p.transactionId :: c.ledgerTxIds else c.ledgerTxIds
  receiptByTx := Function.update c.receiptByTx p.transactionId
    (some { receipt with transactionId := p.transactionId })
  storeIds := if p.storeId ≠ "" then p.storeId :: c.storeIds else c.storeIds
  productIds := if p.productId ≠ "" then p.productId :: c.productIds else c.productIds
  deviceIds := if p.deviceId ≠ "" then p.deviceId :: c.deviceIds else c.deviceIds

end IngestPrefetch

/-! ## Step 1: the ledger and the stored receipt -/

def selectLedgerRow (prefetch : Option IngestPrefetch) (id : String) :
    Tx (Option InventoryTransaction) :=
  if prefetch.any (id ∉ ·.ledgerTxIds) then pure none
  else mapError (fun e => ⟨"RuntimeError",
      "_ingest_transaction_impl step 1a SELECT failed: " ++ e.type ++ ": " ++ e.text⟩)
    (select (·.ledger.get? id))

/-- The receipt of `id`: an accepted one from the cache, else the row. -/
def lookupReceipt (prefetch : Option IngestPrefetch) (id : String) : Tx (Option SyncReceipt) :=
  match prefetch with
  | none => select (·.receipts.get? id)
  | some c =>
    match c.receiptByTx id with
    | none => pure none
    | some snap => if snap.accepted then pure (some snap) else select (·.receipts.get? id)

/-- The ledger row with the quantity and the texts of a resubmission. -/
def InventoryTransaction.edit (row : InventoryTransaction) (p : TransactionPayload) :
    InventoryTransaction :=
  { row with
    quantityDelta := p.quantityDelta
    referenceNumber := p.referenceNumber.or row.referenceNumber
    reasonCode := p.reasonCode.or row.reasonCode
    movementType := p.movementType }

/-- The in-place update of a ledger row whose quantity differs from the payload's. -/
def editLedgerRow (env : Env) (p : TransactionPayload) (row : InventoryTransaction) : Tx Unit :=
  if row.quantityDelta ≠ p.quantityDelta then do
    execute (·.upsertStockBalance env.balanceId row.stock (p.quantityDelta - row.quantityDelta)
      env.now)
    execute fun db => .ok (db.updateLedger (row.edit p))
  else pure ()

def ledgerFirst (env : Env) (prefetch : Option IngestPrefetch) (p : TransactionPayload)
    (row : InventoryTransaction) : Tx SyncReceipt := do
  editLedgerRow env p row
  match ← lookupReceipt prefetch p.transactionId with
  | some r =>
    if r.accepted then pure r
    else do
      execute fun db => .ok (db.updateReceipt (r.accept env))
      pure (r.accept env)
  | none =>
    let r := makeAcceptedReceipt env p.transactionId
    execute (·.insertReceipt r)
    pure r

/-! ## Step 2: validation and provisioning -/

def validMovementTypes : List String :=
  ["RECEIPT", "SALE", "RETURN", "DAMAGE", "ADJUSTMENT", "TRANSFER_OUT", "TRANSFER_IN"]

def validatePayload (py : Python) (p : TransactionPayload) : Option String :=
  if strip p.transactionId = "" then some "transaction_id is required"
  else if strip p.storeId = "" then some "store_id is required"
  else if strip p.productId = "" then some "product_id is required"
  else if p.userId ≤ 0 then some "user_id must be a positive integer"
  else if strip p.deviceId = "" then some "device_id is required"
  else if strip p.movementType = "" then some "movement_type is required"
  else if p.quantityDelta = 0 then some "quantity_delta must be non-zero"
  else if p.movementType ∉ validMovementTypes then
    some ("movement_type must be one of " ++ py.validTypesRepr)
  else if p.movementType = "SALE" ∧ strip (p.referenceNumber.getD "") = "" then
    some "reference_number is required for SALE transactions"
  else none

/-- Answer from the cache if it can, else with a SELECT. -/
def isKnown (cached : Bool) (holds : Db → Bool) : Tx Bool :=
  if cached then pure true else select holds

/-- `Auto Store (..)` -/
def autoStoreName (suffix storeId : String) : String :=
  "Auto Store (" ++ orElse (takeFirst 30 suffix) (takeFirst 30 storeId) ++ ")"

def createStore (py : Python) (env : Env) (storeId : String) : Tx Unit := do
  let rawId := strip storeId
  let suffix := if startsWith (py.caseMap.upper rawId) "STORE-" then dropFirst 6 rawId else rawId
  let targetCode := orElse (strip (py.caseMap.upper (takeFirst 20 suffix)))
    (py.caseMap.upper (takeFirst 20 rawId))
  let autoStore : Store := ⟨storeId, targetCode, autoStoreName suffix storeId, true⟩
  let aliasCode := py.caseMap.upper (takeFirst 12 targetCode ++ "-" ++ env.storeHex)
  let owner ← select fun db => (db.stores.rows.find? (·.code = targetCode)).map Store.id
  match owner.filter (· ≠ "") with
  | none => execute (·.insertStore autoStore)
  | some owner =>
    match ← select (·.stores.get? owner) with
    | some existing =>
      if startsWith existing.name "Auto Store (" then do
        -- a placeholder is replaced by the store with the right id
        execute (·.deleteStore existing.id)
        execute (·.insertStore autoStore)
      else execute (·.insertStore { autoStore with code := aliasCode })
    | none => execute (·.insertStore { autoStore with code := aliasCode })

def provisionStore (py : Python) (env : Env) (prefetch : Option IngestPrefetch)
    (storeId : String) : Tx Unit := do
  let known ← isKnown (prefetch.any (storeId ∈ ·.storeIds))
    fun db => (db.stores.get? storeId).isSome
  if known then pure () else createStore py env storeId

def createProduct (env : Env) (productId : String) : Tx Unit := do
  let skuToken := takeFirst 80 productId
  let targetSku := "OFFLINE-" ++ skuToken
  let owner ← select fun db => (db.products.rows.find? (·.sku = targetSku)).map Product.id
  let sku := if (owner.filter (· ≠ "")).isSome then
      "OFFLINE-" ++ takeFirst 70 skuToken ++ "-" ++ env.productHex else targetSku
  execute (·.insertProduct
    ⟨productId, sku, "OFFLINE-PROD-" ++ takeFirst 70 skuToken, "General", "pcs", true⟩)

def provisionProduct (env : Env) (prefetch : Option IngestPrefetch) (productId : String) :
    Tx Unit := do
  let known ← isKnown (prefetch.any (productId ∈ ·.productIds))
    fun db => (db.products.get? productId).isSome
  if known then pure () else createProduct env productId

def provisionDevice (prefetch : Option IngestPrefetch) (deviceId storeId : String) :
    Tx Unit := do
  let known ← isKnown (prefetch.any (deviceId ∈ ·.deviceIds))
    fun db => (db.devices.get? deviceId).isSome
  if known then pure ()
  else execute (·.insertDevice
    ⟨deviceId, storeId, "Auto Device (" ++ takeFirst 12 deviceId ++ ")", true⟩)

/-! ## Steps 3 to 6 -/

/-- What `ingestTransaction` hands back: a receipt, or an ORM object that can no longer be read
because its session was rolled back. -/
inductive Returned
  | live (receipt : SyncReceipt)
  | expired

def TransactionPayload.ledgerRow (p : TransactionPayload) (env : Env) : InventoryTransaction where
  transactionId := p.transactionId
  storeId := p.storeId
  productId := p.productId
  movementType := p.movementType
  stockBucket := p.stockBucket
  quantityDelta := p.quantityDelta
  occurredAt := p.occurredAt
  recordedAt := env.now
  userId := p.userId
  deviceId := p.deviceId
  referenceNumber := p.referenceNumber
  reasonCode := p.reasonCode
  transferId := p.transferId
  purchaseOrderId := p.purchaseOrderId
  batchId := p.batchId
  clientSequence := p.clientSequence
  syncStatus := .accepted
  serverAcceptedAt := some env.now
  originalTransactionId := p.originalTransactionId

def reject (env : Env) (p : TransactionPayload) (reason : String) : Tx Returned := do
  let r := makeRejectedReceipt env p.transactionId reason
  execute (·.insertReceipt r)
  pure (.live r)

def insertMovement (env : Env) (p : TransactionPayload) : Tx Returned := do
  let row := p.ledgerRow env
  execute (·.insertLedger row)
  let _ ← addTransactionToDayBook env row
  execute (·.upsertStockBalance env.balanceId p.stock p.quantityDelta env.now)
  let r := makeAcceptedReceipt env p.transactionId
  execute (·.insertReceipt r)
  pure (.live r)

/-- The check against negative stock, for a movement out of the bucket only. -/
def checkAndInsert (env : Env) (p : TransactionPayload) : Tx Returned :=
  if p.quantityDelta < 0 then do
    let current ← select (·.quantity p.stock)
    if current + p.quantityDelta < 0 then reject env p (insufficientStock current p.quantityDelta)
    else insertMovement env p
  else insertMovement env p

def ingestNew (py : Python) (env : Env) (prefetch : Option IngestPrefetch)
    (p : TransactionPayload) : Tx Returned :=
  match validatePayload py p with
  | some reason => reject env p reason
  | none => do
    provisionStore py env prefetch p.storeId
    provisionProduct env prefetch p.productId
    provisionDevice prefetch p.deviceId p.storeId
    checkAndInsert env p

/-- Delete a stale receipt and ingest the payload as a new one. -/
def retryStale (py : Python) (env : Env) (prefetch : Option IngestPrefetch)
    (p : TransactionPayload) : Tx Returned := do
  execute fun db => .ok (db.deleteReceipt p.transactionId)
  ingestNew py env prefetch p

def ingestTransactionImpl (py : Python) (env : Env) (p : TransactionPayload)
    (prefetch : Option IngestPrefetch) : Tx Returned := do
  match ← selectLedgerRow prefetch p.transactionId with
  | some row =>
    let r ← ledgerFirst env prefetch p row
    pure (.live r)
  | none =>
    match ← lookupReceipt prefetch p.transactionId with
    | none => ingestNew py env prefetch p
    | some r =>
      if r.accepted then pure (.live r)
      else if isServerInternalErrorReason py r.rejectionReason then retryStale py env prefetch p
      else
        match ← staleDomainRejectionShouldRetry r p with
        | .answered true => retryStale py env prefetch p
        | .answered false => pure (.live r)
        | .rolledBack => pure .expired

end Server
