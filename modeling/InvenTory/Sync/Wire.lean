import InvenTory.Desktop.Queue
import InvenTory.Sync.Push

/-!
# Outbox payloads of any content

The payload of an outbox event is a text, and what is pushed depends on what `JSON.parse` makes of
it. `Message` is an event with the parsed payload, and `buildPushItem` and `buildProductUpdate` are
`_buildPushItem` and `_buildProductUpdate` on any JSON value; they fail (`none`) where the
source's `catch` returns null. `Message.repair` is the rewrite of legacy `TRANSFER` events, which Rust
does on the same text.
-/

namespace Sync.Wire

open Desktop (Queue QueuedEvent)

/-- What `JSON.parse` returns; a number is kept as it is written. -/
inductive Json
  | null
  | bool (b : Bool)
  | num (literal : String)
  | str (s : String)
  | arr (items : List Json)
  | obj (fields : List (String × Json))

inductive Number
  | finite (q : Rat)
  | infinite (negative : Bool)
  | nan
  deriving DecidableEq, Repr

/-- What else the code takes from JavaScript: `Number(s)` of a string, which is also how a literal is
read, and `String(n)` of a number. -/
structure Runtime extends Js where
  number : String → Number
  numberText : Number → String

namespace Json

/-- `p.name`, `none` inside where it is undefined; a property of `null` throws. -/
def property (p : Json) (name : String) : Option (Option Json) :=
  match p with
  | .null => none
  | .obj fields => some (fields.lookup name)
  | _ => some none

mutual

/-- `String(j)`; an object with a property `toString` of its own cannot be converted. -/
def text (rt : Runtime) : Json → Option String
  | .null => some "null"
  | .bool b => some (if b then "true" else "false")
  | .num literal => some (rt.numberText (rt.number literal))
  | .str s => some s
  | .arr items => (texts rt items).map (String.intercalate ",")
  | .obj fields => if (fields.lookup "toString").isSome then none else some "[object Object]"

/-- The parts of an array's text; `null` is empty there. -/
def texts (rt : Runtime) : List Json → Option (List String)
  | [] => some []
  | .null :: items => (texts rt items).map ("" :: ·)
  | item :: items => do
    let s ← text rt item
    let rest ← texts rt items
    some (s :: rest)

end

/-- `Number(j)` -/
def toNumber (rt : Runtime) : Json → Option Number
  | .null => some (.finite 0)
  | .bool b => some (.finite (if b then 1 else 0))
  | .num literal => some (rt.number literal)
  | .str s => some (rt.number s)
  | j => (text rt j).map rt.number

def truthy (rt : Runtime) : Json → Bool
  | .null => false
  | .bool b => b
  | .num literal => rt.number literal ≠ .finite 0 && rt.number literal ≠ .nan
  | .str s => s ≠ ""
  | _ => true

end Json

/-- `x ?? d` -/
def nullish (x : Option Json) (d : Json) : Json :=
  match x with
  | none | some .null => d
  | some j => j

/-- `x || d` -/
def orElse (rt : Runtime) (x : Option Json) (d : Json) : Json :=
  match x with
  | some j => if j.truthy rt then j else d
  | none => d

/-! ## What is pushed -/

/-- A `TransactionPushItem` as it is built; the last four fields are copied without conversion. -/
structure PushItem where
  transactionId : String
  storeId : String
  productId : String
  movementType : String
  quantityDelta : Number
  occurredAt : String
  userId : Number
  deviceId : String
  stockBucket : String
  referenceNumber : Json
  reasonCode : Json
  transferId : Json
  purchaseOrderId : Json

/-- `userIdStr` is a number, or the user is 1. -/
def userIdOf (rt : Runtime) (userIdStr : String) : Number :=
  if userIdStr ≠ "" ∧ rt.number userIdStr ≠ .nan then rt.number userIdStr else .finite 1

def buildPushItem (rt : Runtime) (now : String) (p : Json) : Option PushItem := do
  let userIdStr ← (nullish (← p.property "user_id") (.str "")).text rt
  let deviceIdStr ← (nullish (← p.property "device_id") (.str "")).text rt
  let transactionId ← (nullish (← p.property "transaction_id") (.str "")).text rt
  let storeId ← (nullish (← p.property "store_id") (.str "")).text rt
  let productId ← (nullish (← p.property "product_id") (.str "")).text rt
  let movementType ← (nullish (← p.property "movement_type") (.str "")).text rt
  let quantityDelta ← (nullish (← p.property "quantity_delta") (.num "0")).toNumber rt
  let occurredAt ← (orElse rt (← p.property "occurred_at") (.str now)).text rt
  let stockBucket ← (orElse rt (← p.property "stock_bucket") (.str "AVAILABLE")).text rt
  some {
    transactionId, storeId, productId, movementType, quantityDelta, occurredAt, stockBucket
    userId := userIdOf rt (jsTrim userIdStr)
    deviceId := orDefault (jsTrim deviceIdStr) "SINGLE-USER-DEVICE"
    referenceNumber := nullish (← p.property "reference_number") .null
    reasonCode := nullish (← p.property "reason_code") .null
    transferId := nullish (← p.property "transfer_id") .null
    purchaseOrderId := nullish (← p.property "purchase_order_id") .null }

/-- A pushed `ProductSnapshot`; what is undefined is not sent. -/
structure ProductSnapshot where
  id : Option Json
  sku : Option Json
  name : Option Json
  brand : Json
  model : Json
  category : Option Json
  unit : Option Json
  barcode : Json
  alternateNames : Json
  serialTrackingEnabled : Option Json
  isActive : Option Json
  createdAt : Option Json
  updatedAt : Json

/-- An update has no `created_at`. -/
def buildProductUpdate (rt : Runtime) (now : String) (p : Json) : Option ProductSnapshot := do
  some {
    id := ← p.property "product_id"
    sku := ← p.property "sku"
    name := ← p.property "name"
    brand := nullish (← p.property "brand") .null
    model := nullish (← p.property "model") .null
    category := ← p.property "category"
    unit := ← p.property "unit"
    barcode := nullish (← p.property "barcode") .null
    alternateNames := nullish (← p.property "alternate_names") .null
    serialTrackingEnabled := ← p.property "serial_tracking_enabled"
    isActive := ← p.property "is_active"
    createdAt := none
    updatedAt := orElse rt (← p.property "updated_at") (.str now) }

/-! ## Events -/

/-- The type of an event and its payload, `none` if the text is no JSON. -/
structure Message where
  eventType : String
  payload : Option Json

abbrev Row := QueuedEvent Message

/-- What the push loop makes of a row. -/
inductive Parsed
  | item (i : PushItem)
  | product (p : ProductSnapshot)
  | unparseable

def Message.parse (rt : Runtime) (now : String) (m : Message) : Parsed :=
  if m.eventType = "PRODUCT_UPDATE" then
    ((m.payload.bind (buildProductUpdate rt now)).map .product).getD .unparseable
  else ((m.payload.bind (buildPushItem rt now)).map .item).getD .unparseable

/-- `val.as_i64()` -/
def Json.asInt64 : Json → Option Int
  | .num literal => literal.toInt?.filter fun n => -2 ^ 63 ≤ n ∧ n < 2 ^ 63
  | _ => none

def Json.asStr : Json → Option String
  | .str s => some s
  | _ => none

/-- The type of a legacy `TRANSFER` payload. -/
def repairedType (fields : List (String × Json)) : String :=
  let reference := ((fields.lookup "reference_number").bind Json.asStr).getD ""
  let delta := ((fields.lookup "quantity_delta").bind Json.asInt64).getD 0
  if reference.startsWith "TRF-RECV-" then "TRANSFER_IN"
  else if reference.startsWith "TRF-DISP-" || reference.startsWith "TRF-CNCL-" then "TRANSFER_OUT"
  else if delta < 0 then "TRANSFER_OUT"
  else "TRANSFER_IN"

/-- Another value of a field that is there. -/
def setField (name : String) (j : Json) (fields : List (String × Json)) : List (String × Json) :=
  fields.map fun f => if f.1 = name then (name, j) else f

def Message.repair (m : Message) : Message :=
  match m.payload with
  | some (.obj fields) =>
    if m.eventType = "INVENTORY_TRANSACTION" ∧
        (fields.lookup "movement_type").bind Json.asStr = some "TRANSFER" then
      { m with payload := some (.obj (setField "movement_type" (.str (repairedType fields)) fields)) }
    else m
  | _ => m

end Sync.Wire
