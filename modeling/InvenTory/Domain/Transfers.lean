import InvenTory.Domain.Ledger

/-!
# The transfer rules of the domain package

A transfer between two stores, the statuses it may go through, and the events that the ledger gets for them. A
transfer that `__post_init__` refuses cannot be built.
-/

namespace Domain

variable {T : Type}

inductive TransferStatus
  | draft
  | dispatched
  | received
  | exception
  | cancelled
  deriving DecidableEq, Repr

def TransferStatus.value : TransferStatus → String
  | .draft => "DRAFT"
  | .dispatched => "DISPATCHED"
  | .received => "RECEIVED"
  | .exception => "EXCEPTION"
  | .cancelled => "CANCELLED"

structure Transfer (T : Type) where
  sourceStoreId : String
  destinationStoreId : String
  productId : String
  quantity : Int
  createdByUserId : String
  id : String
  status : TransferStatus := .draft
  notes : Option String := none
  createdAt : T
  updatedAt : T
  quantity_pos : 0 < quantity
  stores_ne : sourceStoreId ≠ destinationStoreId

/-! ## Statuses -/

def allowedTransitions : TransferStatus → List TransferStatus
  | .draft => [.dispatched, .cancelled]
  | .dispatched => [.received, .exception, .cancelled]
  | .exception => [.received, .cancelled]
  | .received => []
  | .cancelled => []

structure InvalidTransferStateTransitionError where
  message : String
  deriving DecidableEq, Repr

def validateTransferTransition (currentStatus newStatus : TransferStatus) :
    Except InvalidTransferStateTransitionError Unit :=
  if currentStatus = newStatus then .ok ()
  else if newStatus ∉ allowedTransitions currentStatus then
    .error ⟨"Cannot transition transfer from status '" ++ currentStatus.value ++ "' to '" ++
      newStatus.value ++ "'."⟩
  else .ok ()

/-! ## Events -/

section
variable (fresh : Factories T) (transfer : Transfer T) (userId deviceId : String) (occurredAt : Option T)

def createDispatchTransaction : InventoryTransaction T where
  storeId := transfer.sourceStoreId
  productId := transfer.productId
  movementType := .transfer
  stockBucket := .available
  quantityDelta := -transfer.quantity
  occurredAt := occurredAt.getD fresh.now
  userId := userId
  deviceId := deviceId
  transactionId := fresh.generateUlid
  recordedAt := fresh.currentUtcNow
  transferId := some transfer.id
  reasonCode := some ("TRANSFER DISPATCH -> Store " ++ transfer.destinationStoreId)
  referenceNumber := some ("TRF-DISP-" ++ transfer.id)

def createReceiveTransaction : InventoryTransaction T where
  storeId := transfer.destinationStoreId
  productId := transfer.productId
  movementType := .transfer
  stockBucket := .available
  quantityDelta := transfer.quantity
  occurredAt := occurredAt.getD fresh.now
  userId := userId
  deviceId := deviceId
  transactionId := fresh.generateUlid
  recordedAt := fresh.currentUtcNow
  transferId := some transfer.id
  reasonCode := some ("TRANSFER RECEIVE <- Store " ++ transfer.sourceStoreId)
  referenceNumber := some ("TRF-RECV-" ++ transfer.id)

def createCancelCompensationTransaction : Option (InventoryTransaction T) :=
  if transfer.status ∉ [TransferStatus.dispatched, .exception] then none
  else some {
    storeId := transfer.sourceStoreId
    productId := transfer.productId
    movementType := .transfer
    stockBucket := .available
    quantityDelta := transfer.quantity
    occurredAt := occurredAt.getD fresh.now
    userId := userId
    deviceId := deviceId
    transactionId := fresh.generateUlid
    recordedAt := fresh.currentUtcNow
    transferId := some transfer.id
    reasonCode := some "TRANSFER CANCELLED -> Stock Restored"
    referenceNumber := some ("TRF-CNCL-" ++ transfer.id) }

end

/-- The deltas of a dispatch and its receipt are equal and opposite. -/
def validateTransferDeltas (dispatchTx receiveTx : InventoryTransaction T) : Except String Unit :=
  if dispatchTx.transferId = none ∨ dispatchTx.transferId ≠ receiveTx.transferId then
    .error "Dispatch and receive transactions must share the same transfer_id."
  else if dispatchTx.productId ≠ receiveTx.productId then
    .error "Dispatch and receive transactions must involve the same product_id."
  else if dispatchTx.quantityDelta + receiveTx.quantityDelta ≠ 0 then
    .error ("Transfer deltas must be equal and opposite. Got dispatch delta " ++
      toString dispatchTx.quantityDelta ++ " and receive delta " ++ toString receiveTx.quantityDelta ++ ".")
  else .ok ()

/-! ## The life of a transfer -/

/-- What the rules have for a transfer that goes to a status. -/
def Transfer.bookings (fresh : Factories T) (t : Transfer T) (userId deviceId : String)
    (occurredAt : Option T) : TransferStatus → List (InventoryTransaction T)
  | .dispatched => [createDispatchTransaction fresh t userId deviceId occurredAt]
  | .received => [createReceiveTransaction fresh t userId deviceId occurredAt]
  | .cancelled => (createCancelCompensationTransaction fresh t userId deviceId occurredAt).toList
  | .draft => []
  | .exception => []

/-- The transfers that the rules lead to from drafts, with the events of the ledger. -/
inductive Life : Transfer T → List (InventoryTransaction T) → Prop
  | draft {t : Transfer T} (h : t.status = .draft) : Life t []
  | change {t : Transfer T} {events : List (InventoryTransaction T)} {status : TransferStatus}
      (h : Life t events) (hstatus : t.status ≠ status)
      (hallowed : validateTransferTransition t.status status = .ok ()) (fresh : Factories T)
      (userId deviceId : String) (occurredAt : Option T) (notes : Option String) (updatedAt : T) :
    Life { t with status := status, notes := notes, updatedAt := updatedAt }
      (events ++ t.bookings fresh userId deviceId occurredAt status)

end Domain
