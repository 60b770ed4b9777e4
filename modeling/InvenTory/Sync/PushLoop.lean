import InvenTory.Lib.Window
import InvenTory.Sync.Run
import InvenTory.Sync.Wire

/-!
# The push loop

The `while` loop of `triggerSync`, over an outbox of any content (`Wire.Message`). `turn` is an
iteration: it reads and marks a batch, pushes it and writes the outcomes. What it takes from the
outside is a `Turn`; a run is a sequence of turns that a server and a clock can produce (`Run`). The
statuses of the transactions are not modelled, the loop does not read them; nor is the order of a
request, whose reply has a receipt per transaction.

`Clears` is the condition on the outbox under which the loop ends; it is stated with the line of events
that a read can still take (`line`) and what becomes of each (`Kind`).
-/

namespace Sync.PushLoop

open Relational
open Desktop (Instant Queue QueuedEvent Status StatusUpdate)
open Server (SyncReceipt)
open Wire

/-- The settings of a sync, with the products that `_loadLocalProducts` finds. -/
structure Config where
  rt : Runtime
  batchSize : Int32
  force : Bool
  maxRetries : Nat
  catalogue : List ProductSnapshot

/-- What an iteration takes from the outside. -/
structure Turn where
  aborted : Bool
  readAt : Instant
  writeAt : Instant
  isoNow : String
  reply : Except String (List SyncReceipt)

structure State where
  outbox : Queue Message
  keepGoing : Bool
  pushedAnything : Bool
  retryCount : Nat
  totalRejected : Nat
  hadRetryableError : Bool
  lastErrorMsg : Option String

def start (outbox : Queue Message) : State := ⟨outbox, true, false, 0, 0, false, none⟩

/-! ## An iteration -/

/-- Rewrite legacy `TRANSFER` events. -/
def repairRow (row : Row) : Row := { row with payload := row.payload.repair }

/-- `get_pending_outbox_events` before its select. -/
def recovered (force : Bool) (outbox : Queue Message) : Queue Message :=
  if force then (outbox.reset true).change repairRow fun _ => rfl else outbox.reset false

def limit (c : Config) : Nat := Desktop.batchLimit (some c.batchSize)

def pending (c : Config) (now : Instant) (outbox : Queue Message) : List Row :=
  (recovered c.force outbox).selectDue now (limit c)

/-- Statuses are written all or none; a failure is dropped. -/
def write (now : Instant) (updates : List StatusUpdate) (outbox : Queue Message) : Queue Message :=
  match outbox.updateStatuses now updates with
  | .ok outbox => outbox
  | .error _ => outbox

def items (c : Config) (isoNow : String) (rows : List Row) : List (Wire.PushItem × Row) :=
  rows.filterMap fun row => match row.payload.parse c.rt isoNow with
    | .item i => some (i, row)
    | _ => none

def productUpdates (c : Config) (isoNow : String) (rows : List Row) :
    List (ProductSnapshot × Row) :=
  rows.filterMap fun row => match row.payload.parse c.rt isoNow with
    | .product p => some (p, row)
    | _ => none

def unparseable (c : Config) (isoNow : String) (rows : List Row) : List Row :=
  rows.filter fun row => match row.payload.parse c.rt isoNow with
    | .unparseable => true
    | _ => false

def sendingUpdates (rows : List Row) : List StatusUpdate :=
  rows.map fun row => ⟨row.eventId, .sending, none⟩

def unparseableUpdates (rows : List Row) : List StatusUpdate :=
  rows.map fun row => ⟨row.eventId, .permanentRejection, some "Outbox payload could not be parsed"⟩

/-- What the receipts make of an item. -/
def itemUpdate (js : Js) (receipts : List SyncReceipt) (x : Wire.PushItem × Row) : StatusUpdate :=
  match receiptOf receipts x.1.transactionId with
  | none => ⟨x.2.eventId, .retryableError, some "No receipt returned from server"⟩
  | some r =>
    if r.accepted then ⟨x.2.eventId, .synced, none⟩
    else
      let reason := r.rejectionReason.getD "Server rejected transaction"
      ⟨x.2.eventId, rejectedStatus js reason, some reason⟩

def outcomes (js : Js) (receipts : List SyncReceipt) (items : List (Wire.PushItem × Row))
    (products : List (ProductSnapshot × Row)) : List StatusUpdate :=
  items.map (itemUpdate js receipts) ++ products.map fun x => ⟨x.2.eventId, .synced, none⟩

/-- The items that a receipt rejects, for good or not. -/
def rejections (js : Js) (receipts : List SyncReceipt) (items : List (Wire.PushItem × Row)) :
    List Status :=
  items.filterMap fun x => match receiptOf receipts x.1.transactionId with
    | some r => if r.accepted then none
      else some (rejectedStatus js (r.rejectionReason.getD "Server rejected transaction"))
    | none => none

def failureUpdates (items : List (Wire.PushItem × Row)) (error : String) : List StatusUpdate :=
  items.map fun x => ⟨x.2.eventId, .retryableError, some error⟩

/-- The products of a request: the local ones too in the first push of a forced sync. -/
def pushProducts (c : Config) (pushCatalogue : Bool) (products : List (ProductSnapshot × Row)) :
    List ProductSnapshot :=
  (if pushCatalogue then c.catalogue else []) ++ products.map (·.1)

/-- After a response. -/
def accepted (c : Config) (t : Turn) (receipts : List SyncReceipt) (rows : List Row) (s : State) :
    State :=
  let js := c.rt.toJs
  let items := items c t.isoNow rows
  let rejected := rejections js receipts items
  { s with
    outbox := write t.writeAt (outcomes js receipts items (productUpdates c t.isoNow rows)) s.outbox
    keepGoing := !((rows.length : Int) < c.batchSize.toInt)
    pushedAnything := true
    retryCount := min c.maxRetries (rejected.count .retryableError)
    totalRejected := s.totalRejected + rejected.length
    hadRetryableError := s.hadRetryableError ||
      items.any fun x => (receiptOf receipts x.1.transactionId).isNone }

/-- After an error: try again, or give up. -/
def failed (c : Config) (t : Turn) (error : String) (rows : List Row) (s : State) : State :=
  let s := { s with lastErrorMsg := some error, hadRetryableError := true }
  if s.retryCount < c.maxRetries then { s with retryCount := s.retryCount + 1 }
  else
    { s with
      outbox := write t.writeAt (failureUpdates (items c t.isoNow rows) error) s.outbox
      keepGoing := false }

/-- The outbox while a batch is under way. -/
def marked (c : Config) (t : Turn) (rows : List Row) (outbox : Queue Message) : Queue Message :=
  write t.writeAt (unparseableUpdates (unparseable c t.isoNow rows))
    (write t.writeAt (sendingUpdates rows) (recovered c.force outbox))

def turn (c : Config) (t : Turn) (s : State) : State :=
  if !s.keepGoing then s
  else if t.aborted then { s with keepGoing := false }
  else
    let rows := pending c t.readAt s.outbox
    let pushCatalogue := c.force && !s.pushedAnything
    if rows.isEmpty && !pushCatalogue then
      { s with outbox := recovered c.force s.outbox, keepGoing := false }
    else
      let s := { s with outbox := marked c t rows s.outbox }
      if (items c t.isoNow rows).isEmpty && (productUpdates c t.isoNow rows).isEmpty &&
          !pushCatalogue then s
      else match t.reply with
        | .ok receipts => accepted c t receipts rows s
        | .error error => failed c t error rows s

/-! ## Runs -/

/-- The state after `n` turns. -/
def states (c : Config) (turns : Nat → Turn) (s : State) : Nat → State
  | 0 => s
  | n + 1 => turn c (turns n) (states c turns s n)

/-- A reply that a server can give: a request without events and products is an error, and a response
has a receipt for each item. -/
structure Possible (c : Config) (s : State) (t : Turn) : Prop where
  nonempty : items c t.isoNow (pending c t.readAt s.outbox) = [] →
    pushProducts c (c.force && !s.pushedAnything)
      (productUpdates c t.isoNow (pending c t.readAt s.outbox)) = [] →
    ∃ error, t.reply = .error error
  receipts : ∀ receipts, t.reply = .ok receipts →
    ∀ x ∈ items c t.isoNow (pending c t.readAt s.outbox),
      (receiptOf receipts x.1.transactionId).isSome = true

structure Run (c : Config) (s : State) (turns : Nat → Turn) : Prop where
  possible : ∀ n, Possible c (states c turns s n) (turns n)
  clock : ∀ n, (turns n).readAt ≤ (turns n).writeAt ∧ (turns n).writeAt ≤ (turns (n + 1)).readAt

/-- Whatever the server answers, the loop ends. -/
def Terminates (c : Config) (outbox : Queue Message) : Prop :=
  ∀ turns, Run c (start outbox) turns →
    ∃ n, (states c turns (start outbox) n).keepGoing = false

/-! ## The condition -/

inductive Kind
  | transaction (transactionId : String)
  | product
  | unparseable
  deriving DecidableEq, Repr

def Kind.of : Parsed → Kind
  | .item i => .transaction i.transactionId
  | .product _ => .product
  | .unparseable => .unparseable

/-- The kind of a message does not depend on the time it is parsed at (`kind_parse`). -/
def kind (rt : Runtime) (m : Message) : Kind := .of (m.parse rt "")

/-- The states from which a read can take an event. -/
def live (force : Bool) (status : Status) : Bool :=
  status ∈ [.pending, .sending, .retryableError] || (force && status = .permanentRejection)

structure Entry where
  eventId : String
  kind : Kind
  deriving DecidableEq, Repr

def Entry.isProduct (x : Entry) : Bool := x.kind = .product

def Entry.isUnparseable (x : Entry) : Bool := x.kind = .unparseable

def Entry.isTransaction (x : Entry) : Bool := !x.isProduct && !x.isUnparseable

def entry (rt : Runtime) (row : Row) : Entry := ⟨row.eventId, kind rt row.payload⟩

/-- The live events, oldest first. -/
def line (c : Config) (outbox : Queue Message) : List Entry :=
  ((outbox.rows.insertionSort fun a b => a.createdAt ≤ b.createdAt).filter
    fun row => live c.force row.status).map (entry c.rt)

/-- A read takes at most 500 events, fewer than a batch then. Otherwise: if not forced, less than a batch
of the live events are transactions; and forced, the line of live events clears, or there is nothing to
push at first. -/
def Clears (c : Config) (outbox : Queue Message) : Prop :=
  500 < c.batchSize.toInt ∨
  if c.force then
    (c.catalogue = [] ∧
      ∀ x ∈ (line c outbox).take c.batchSize.toInt.toNat, x.isUnparseable = true) ∨
    Window.Clears c.batchSize.toInt.toNat Entry.isProduct Entry.isUnparseable (line c outbox)
  else (((line c outbox).countP Entry.isTransaction : Nat) : Int) < c.batchSize.toInt

def Kind.transactionId? : Kind → Option String
  | .transaction id => some id
  | _ => none

/-- No two live events are of one transaction. -/
def DistinctTransactions (c : Config) (outbox : Queue Message) : Prop :=
  ((line c outbox).filterMap (·.kind.transactionId?)).Nodup

/-! ## Sample values -/

namespace Sample

def runtime : Runtime := { Sync.Sample.js with
  number := fun s => (s.toInt?.map fun n => Number.finite n).getD .nan
  numberText := fun n => match n with
    | .finite q => toString q.num
    | _ => "NaN" }

/-- A forced sync in batches of one event. -/
def forced : Config := ⟨runtime, 1, true, 3, []⟩

def emptySale : Message := ⟨"INVENTORY_TRANSACTION", some (.obj [("transaction_id", .str "TX-1"),
  ("movement_type", .str "SALE"), ("quantity_delta", .num "0")])⟩

def outbox (status : Status) (lastError : Option String) : Queue Message :=
  ⟨[⟨"OUT-1", "EVT-1", emptySale, status, 0, none, 0, lastError⟩], by simp⟩

/-- Each time the server rejects the event for good. -/
def rejecting (n : Nat) : Turn :=
  ⟨false, n, n, "", .ok [⟨"TX-1", false, some "quantity_delta must be non-zero", ⟨0, some 0⟩,
    ⟨0, some 0⟩⟩]⟩

/-- After `n` rejections. -/
def rejected (n : Nat) : State :=
  ⟨outbox .permanentRejection (some "quantity_delta must be non-zero"), true, true, 0, n, false, none⟩

end Sample

end Sync.PushLoop
