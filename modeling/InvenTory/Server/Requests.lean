import InvenTory.Lib.Guard
import InvenTory.Server.Sessions
import InvenTory.Server.Widths

/-!
# The items of a push request

`TransactionPushItem` with the bounds that the request model checks, and the ingestion of an item on a
database that enforces the widths of its columns (`ingestFitting`). `FitsColumns` is what the payload has
to keep besides, and the model does not check.
-/

namespace Server

open Relational Sql Sql.Prog Py

/-- The fields that nothing reads are left out (`product_name`, ..). -/
structure TransactionPushItem where
  transactionId : String
  storeId : String
  productId : String
  movementType : String
  quantityDelta : Int
  occurredAt : DateTime
  userId : Int
  deviceId : String
  stockBucket : String
  referenceNumber : Option String
  reasonCode : Option String
  transferId : Option String
  purchaseOrderId : Option String
  batchId : Option String
  clientSequence : Option Int
  originalTransactionId : Option String
  deriving DecidableEq, Repr

/-- `Field(..., min_length=1, max_length=n)` -/
def nonempty (n : Nat) (s : String) : Bool := s ≠ "" && fits n s

/-- The constraints of the model; `_coerce_int` has the user. -/
def TransactionPushItem.valid (i : TransactionPushItem) : Bool :=
  nonempty 36 i.transactionId && nonempty 36 i.storeId && nonempty 36 i.productId &&
    nonempty 50 i.movementType && 0 < i.userId && nonempty 36 i.deviceId && fits 50 i.stockBucket

/-- The payload, under the user who is signed in. -/
def TransactionPushItem.payload (i : TransactionPushItem) (userId : Int) : TransactionPayload where
  transactionId := i.transactionId
  storeId := i.storeId
  productId := i.productId
  movementType := i.movementType
  quantityDelta := i.quantityDelta
  occurredAt := i.occurredAt
  userId := userId
  deviceId := i.deviceId
  stockBucket := i.stockBucket
  referenceNumber := i.referenceNumber
  reasonCode := i.reasonCode
  transferId := i.transferId
  purchaseOrderId := i.purchaseOrderId
  batchId := i.batchId
  clientSequence := i.clientSequence
  originalTransactionId := i.originalTransactionId

/-! ## Where widths are enforced -/

/-- `ingestTransactionImpl` on a database that takes no text that is too long for its column. -/
def ingestFitting (py : Python) (env : Env) (p : TransactionPayload) (c : Option IngestPrefetch) :
    Tx Returned := (ingestTransactionImpl.code py env p c).guarded Db.fits valueTooLong

/-- The session commits, and returns an accepted receipt. -/
def Accepts (x : Tx Returned) (db : Db) : Prop :=
  ∃ r db', (session x).eval db = (.ok (.live r), db') ∧ r.accepted = true

/-- The keys from `uuid4`. -/
def Env.fits (env : Env) : Bool :=
  Server.fits 8 env.storeHex && Server.fits 8 env.productHex && Server.fits 36 env.dayBookId &&
    Server.fits 36 env.entryId && Server.fits 36 env.balanceId

/-- Neither the database nor the cache has anything of the transaction. -/
structure New (c : Option IngestPrefetch) (db : Db) (id : String) : Prop where
  ledger : db.ledger.get? id = none
  receipt : db.receipts.get? id = none
  entries : ∀ e ∈ db.entries, e.transactionId ≠ id
  cached : ∀ x ∈ c, x.receiptByTx id = none

/-- The code that is derived from the id of a store. -/
def derivedCode (py : Python) (storeId : String) : String :=
  let rawId := strip storeId
  let suffix := if startsWith (py.caseMap.upper rawId) "STORE-" then dropFirst 6 rawId else rawId
  orElse (strip (py.caseMap.upper (takeFirst 20 suffix))) (py.caseMap.upper (takeFirst 20 rawId))

/-- The code of the store that is created: another one if a store has the derived one that is no
placeholder. -/
def createdCode (py : Python) (env : Env) (db : Db) (storeId : String) : String :=
  let code := derivedCode py storeId
  match ((db.stores.rows.find? (·.code = code)).map Store.id).filter (· ≠ "") with
  | none => code
  | some owner =>
    if (db.stores.get? owner).any fun s => startsWith s.name "Auto Store (" then code
    else py.caseMap.upper (takeFirst 12 code ++ "-" ++ env.storeHex)

def storeKnown (c : Option IngestPrefetch) (db : Db) (storeId : String) : Bool :=
  c.any (storeId ∈ ·.storeIds) || (db.stores.get? storeId).isSome

/-- The texts that the request model does not bound fit the columns. -/
structure FitsColumns (py : Python) (env : Env) (c : Option IngestPrefetch) (db : Db)
    (p : TransactionPayload) : Prop where
  storeCode : storeKnown c db p.storeId = false → fits 50 (createdCode py env db p.storeId) = true
  referenceNumber : p.referenceNumber.all (fits 100) = true
  reasonCode : p.reasonCode.all (fits 50) = true
  transferId : p.transferId.all (fits 36) = true
  purchaseOrderId : p.purchaseOrderId.all (fits 36) = true
  batchId : p.batchId.all (fits 36) = true
  originalTransactionId : p.originalTransactionId.all (fits 36) = true

end Server
