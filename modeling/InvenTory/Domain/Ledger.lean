import InvenTory.Lib.PyString
import InvenTory.Lib.Tally

/-!
# The ledger rules of the domain package

The event of the ledger (`InventoryTransaction`), its projections, the check of strict mode and the two
corrections, a reversal and an adjustment. A stock balance is never stored here: it is always a
projection of the history. `T` is the type of the times, which nothing here compares.
-/

namespace Domain

open Relational

variable {T : Type}

/-! ## The event -/

inductive MovementType
  | receipt
  | sale
  | return
  | transfer
  | transferIn
  | transferOut
  | adjustment
  | damage
  | count
  | other
  deriving DecidableEq, Repr

inductive StockBucket
  | available
  | damaged
  | quarantine
  | inTransit
  deriving DecidableEq, Repr

def StockBucket.value : StockBucket → String
  | .available => "AVAILABLE"
  | .damaged => "DAMAGED"
  | .quarantine => "QUARANTINE"
  | .inTransit => "IN_TRANSIT"

/-- `SENT` and `REJECTED` are older names of `SENDING` and `PERMANENT_REJECTION`, but other values. -/
inductive SyncStatus
  | pending
  | sending
  | sent
  | accepted
  | synced
  | rejected
  | retryableError
  | permanentRejection
  | exceptionReview
  deriving DecidableEq, Repr

structure InventoryTransaction (T : Type) where
  storeId : String
  productId : String
  movementType : MovementType
  quantityDelta : Int
  occurredAt : T
  userId : String
  deviceId : String
  transactionId : String
  stockBucket : StockBucket := .available
  recordedAt : T
  referenceNumber : Option String := none
  reasonCode : Option String := none
  transferId : Option String := none
  purchaseOrderId : Option String := none
  batchId : Option String := none
  clientSequence : Option Int := none
  syncStatus : SyncStatus := .pending
  serverAcceptedAt : Option T := none
  originalTransactionId : Option String := none
  deriving DecidableEq, Repr

/-- What the default factories of a new event give, and `datetime.now` at the call. -/
structure Factories (T : Type) where
  generateUlid : String
  currentUtcNow : T
  now : T

/-! ## The projections -/

def projectBalance (events : List (InventoryTransaction T)) (storeId productId : Option String)
    (stockBucket : Option StockBucket) : Int :=
  events.foldl (fun total event =>
    if event.syncStatus = .rejected then total
    else if storeId.any (event.storeId ≠ ·) then total
    else if productId.any (event.productId ≠ ·) then total
    else if stockBucket.any (event.stockBucket ≠ ·) then total
    else total + event.quantityDelta) 0

def projectBalancesByStore (events : List (InventoryTransaction T)) (productId : Option String)
    (stockBucket : Option StockBucket) : Tally String Int :=
  events.foldl (fun storeBalances event =>
    if event.syncStatus = .rejected then storeBalances
    else if productId.any (event.productId ≠ ·) then storeBalances
    else if stockBucket.any (event.stockBucket ≠ ·) then storeBalances
    else storeBalances.put
      ⟨event.storeId, storeBalances.of event.storeId + event.quantityDelta⟩) ∅

def projectGlobalBalance (events : List (InventoryTransaction T)) (productId : Option String)
    (stockBucket : Option StockBucket) : Int :=
  projectBalance events none productId stockBucket

/-! ## Strict mode -/

structure NegativeStockError where
  message : String
  deriving DecidableEq, Repr

def validateTransaction (transaction : InventoryTransaction T) (history : List (InventoryTransaction T))
    (strictMode : Bool) : Except NegativeStockError Unit :=
  if !strictMode then .ok ()
  else
    let futureHistory := history ++ [transaction]
    let projected := projectBalance futureHistory (some transaction.storeId)
      (some transaction.productId) (some transaction.stockBucket)
    if projected < 0 then
      .error ⟨"Transaction would drive stock negative (" ++ toString projected ++ ") for store '" ++
        transaction.storeId ++ "', product '" ++ transaction.productId ++ "', bucket '" ++
        transaction.stockBucket.value ++ "' in strict mode."⟩
    else .ok ()

/-! ## Corrections -/

/-- A new event with the negated quantity; the original stays as it is. -/
def createReversal (fresh : Factories T) (originalTransaction : InventoryTransaction T) (reason : String)
    (userId deviceId : Option String) (occurredAt : Option T) : InventoryTransaction T where
  storeId := originalTransaction.storeId
  productId := originalTransaction.productId
  movementType := originalTransaction.movementType
  quantityDelta := -originalTransaction.quantityDelta
  occurredAt := occurredAt.getD fresh.now
  userId := Py.orElse (userId.getD "") originalTransaction.userId
  deviceId := Py.orElse (deviceId.getD "") originalTransaction.deviceId
  transactionId := fresh.generateUlid
  stockBucket := originalTransaction.stockBucket
  recordedAt := fresh.currentUtcNow
  reasonCode := some ("REVERSAL: " ++ reason)
  referenceNumber := some ("REV-" ++ originalTransaction.transactionId)
  transferId := originalTransaction.transferId
  purchaseOrderId := originalTransaction.purchaseOrderId
  batchId := originalTransaction.batchId
  originalTransactionId := some originalTransaction.transactionId

structure MissingAdjustmentReasonError where
  message : String
  deriving DecidableEq, Repr

/-- The event of a physical count. -/
def createAdjustmentTransaction (fresh : Factories T) (storeId productId : String)
    (systemQuantity countedQuantity : Int) (reason userId deviceId : String) (occurredAt : Option T)
    (countReference : Option String) :
    Except MissingAdjustmentReasonError (InventoryTransaction T) :=
  if Py.strip reason = "" then
    .error ⟨"Adjustment reason is required for physical count reconciliation."⟩
  else
    .ok {
      storeId
      productId
      movementType := .adjustment
      stockBucket := .available
      quantityDelta := countedQuantity - systemQuantity
      occurredAt := occurredAt.getD fresh.now
      userId
      deviceId
      transactionId := fresh.generateUlid
      recordedAt := fresh.currentUtcNow
      reasonCode := some (Py.strip reason)
      referenceNumber :=
        some (Py.orElse (countReference.getD "") ("COUNT-ADJ-" ++ storeId ++ "-" ++ productId)) }

end Domain
