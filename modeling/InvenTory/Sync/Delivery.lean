import InvenTory.Server.Fitting
import InvenTory.Sync.Products
import InvenTory.Sync.PushLoop

/-!
# A push as the server takes it

What the request model of the server makes of the events that a turn of the push loop sends
(`validateItem`), and the reply of the handler, on a database that enforces widths. The request is taken
as a whole or not at all, and so are its products.
-/

namespace Sync.Delivery

open Desktop (Instant Queue)
open PushLoop
open Server (CentralDb PushCall SyncReceipt TransactionPushItem)
open Wire (Json Message Number Row Runtime)

/-- `JSON.stringify` of a number -/
def numberJson (rt : Runtime) : Number → Json
  | .finite q => .num (rt.numberText (.finite q))
  | .infinite _ | .nan => .null

/-- The `int` that Python reads, unless the literal has a point or an exponent. -/
def readInt (literal : String) : Option Int :=
  match Py.matchInt literal.toList with
  | some (n, []) => some n
  | _ => none

/-- `_coerce_int`, of what a client sends: a number, or `null`. -/
def coerceInt : Json → Option Int
  | .num literal => (readInt literal).filter (0 < ·)
  | _ => none

/-- The `TransactionPushItem` of the server. -/
def validateItem (py : Pydantic) (rt : Runtime) (i : Wire.PushItem) : Option TransactionPushItem := do
  let item : TransactionPushItem := {
    transactionId := i.transactionId
    storeId := i.storeId
    productId := i.productId
    movementType := i.movementType
    quantityDelta := ← py.int (numberJson rt i.quantityDelta)
    occurredAt := ← py.datetime (.str i.occurredAt)
    userId := ← coerceInt (numberJson rt i.userId)
    deviceId := i.deviceId
    stockBucket := i.stockBucket
    referenceNumber := ← readOptional readStr i.referenceNumber
    reasonCode := ← readOptional readStr i.reasonCode
    transferId := ← readOptional readStr i.transferId
    purchaseOrderId := ← readOptional readStr i.purchaseOrderId
    batchId := none
    clientSequence := none
    originalTransactionId := none }
  if item.valid then some item else none

/-- `PushRequest` -/
def validateRequest (py : Pydantic) (rt : Runtime) (events : List Wire.PushItem)
    (products : List Wire.ProductSnapshot) :
    Option (List TransactionPushItem × List PushedProduct) := do
  let events ← events.mapM (validateItem py rt)
  let products ← products.mapM (validateProduct py)
  if events.length ≤ 1000 ∧ ¬(events = [] ∧ products = []) then some (events, products) else none

/-- A push of the loop, and the server that it meets: its tables keep their constraints. -/
structure Push where
  config : Config
  outbox : Queue Message
  readAt : Instant
  isoNow : String
  pushedAnything : Bool
  pydantic : Pydantic
  call : PushCall
  central : CentralDb
  kept : central.Kept

namespace Push

variable (p : Push)

def rows : List Row := pending p.config p.readAt p.outbox

def events : List Wire.PushItem := (items p.config p.isoNow p.rows).map (·.1)

def products : List Wire.ProductSnapshot :=
  pushProducts p.config (p.config.force && !p.pushedAnything) (productUpdates p.config p.isoNow p.rows)

/-- The receipts of the response, `none` if it is an error. -/
def reply : Option (List SyncReceipt) := do
  let (events, products) ← validateRequest p.pydantic p.config.rt p.events p.products
  (Server.pushEvents p.call p.central events (products.map (·.toProductSnapshot))).1.toOption

/-- What the server reads of an event, if its item is well formed. -/
def read (i : Wire.PushItem) : Option TransactionPushItem := validateItem p.pydantic p.config.rt i

/-- **Every event with a well-formed item gets a receipt.** -/
def Answered : Prop :=
  ∀ i ∈ p.events, (p.read i).isSome →
    ∃ receipts, p.reply = some receipts ∧ ∃ r ∈ receipts, r.transactionId = i.transactionId

/-- The whole request is in order: all items and products are well formed, each product finds room at its
turn, and the times of the events can be compared. -/
structure InOrder : Prop where
  events : ∀ i ∈ p.events, (p.read i).isSome
  products : ∀ w ∈ p.products, (validateProduct p.pydantic w).isSome
  room : Runs.Along (CentralDb.pushed p.call.now) CentralDb.Room p.central
    ((p.products.filterMap (validateProduct p.pydantic)).map (·.toProductSnapshot))
  sortable : Server.Sortable (p.call.submissions (p.events.filterMap p.read))

end Push

end Sync.Delivery
