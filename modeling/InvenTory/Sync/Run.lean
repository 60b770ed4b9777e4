import InvenTory.Sync.Push
import InvenTory.Sync.Pull
import InvenTory.Server.Serving

/-!
# A desktop, the server and a sync run

`State` is a desktop database, the central database and the phase of the push loop of
`triggerSync`. The steps of the loop are functions on it (`State.fetch`, `State.mark`,
`State.post`, `State.writeOutbox`, `State.writeTxs`); what a failed database command of the loop
raises is caught and dropped, as in the source. `State.cycle` is one pass of the loop without
anything in between.
-/

namespace Sync

open Desktop (OutboxEvent)
open Server (SyncReceipt)

/-- Where the push loop stands, with the rows that it read and the receipts that it got. The two
outcomes of a push are written in any order; the flags say which is still to be written. -/
inductive Phase
  | idle
  | fetched (rows : List OutboxEvent)
  | marked (rows : List OutboxEvent)
  | writing (rows : List OutboxEvent) (receipts : List SyncReceipt) (outbox txs : Bool)

structure State where
  desktop : Desktop.Db
  server : Server.Db
  phase : Phase

/-- What a push cycle takes from the outside. -/
structure Setting where
  py : Server.Python
  js : Js
  batchSize : Int32
  authenticatedUserId : Int

namespace State

variable (w : Setting) (s : State)

/-- Read the next events; the loop ends when there are none. -/
def fetch (now : Desktop.Instant) : State :=
  let r := (Desktop.getPendingOutboxEvents now (some w.batchSize) (some false)).eval s.desktop
  let phase := match r.1 with
    | .ok [] => .idle
    | .ok rows => .fetched rows
    | .error _ => .idle
  ⟨r.2, s.server, phase⟩

def mark (now : Desktop.Instant) (rows : List OutboxEvent) : State :=
  ⟨((Desktop.updateOutboxEventStatuses now (sendingUpdates rows)).eval s.desktop).2, s.server,
    .marked rows⟩

/-- The order of the request, in which the receipts are handled too. -/
def post (env : Nat → Server.Env) (rows : List OutboxEvent) : State :=
  let sorted := sortPushItems w.js rows
  let r := Server.push w.py s.server (request w.authenticatedUserId env sorted)
  let phase := match r.1 with
    | .ok receipts => .writing sorted receipts true true
    | .error _ => .idle
  ⟨s.desktop, r.2, phase⟩

def writeOutbox (now : Desktop.Instant) (rows : List OutboxEvent) (receipts : List SyncReceipt)
    (txs : Bool) : State :=
  ⟨((Desktop.updateOutboxEventStatuses now (outboxStatusUpdates w.js receipts rows)).eval
    s.desktop).2, s.server, .writing rows receipts false txs⟩

def writeTxs (rows : List OutboxEvent) (receipts : List SyncReceipt) (outbox : Bool) : State :=
  ⟨((Desktop.updateTransactionSyncStatuses (txStatusUpdates w.js receipts rows)).eval
    s.desktop).2, s.server, .writing rows receipts outbox false⟩

/-- A pass of the loop from reading to writing, with nothing else in between. -/
def cycle (now : Desktop.Instant) (env : Nat → Server.Env) : State :=
  let s1 := s.fetch w now
  match s1.phase with
  | .fetched rows =>
    let s2 := (s1.mark now rows).post w env rows
    match s2.phase with
    | .writing rows receipts _ _ =>
      { (s2.writeOutbox w now rows receipts true).writeTxs w rows receipts false with
        phase := .idle }
    | _ => s2
  | _ => s1

end State

/-! ## Sample values -/

namespace Sample

open Desktop

def rust : Rust := ⟨fun s => String.ofList (s.toList.map Char.toUpper), fun _ => "1970-01-01T00:00:00Z"⟩

def js : Js := ⟨fun s => String.ofList (s.toList.map Char.toLower), fun a b => decide (a ≤ b)⟩

def setting : Setting := ⟨Server.Sample.python, js, 500, 1⟩

/-- A clock at `now`, with ids drawn from `nanos` on. -/
def clock (now : Instant) (nanos : Nat) : Clock := ⟨now, fun i => nanos + i⟩

def receipt (quantity : Int32) : ReceiveStockInput :=
  ⟨"STORE-A", "PROD-1", quantity, some "R-1", none, "USER-1", "DEV-1"⟩

def sale (quantity : Int32) : SellStockInput :=
  ⟨"STORE-A", "PROD-1", quantity, some "R-2", "USER-1", "DEV-1"⟩

def edit (transactionId : String) (quantityDelta : Int32) : UpdateTransactionInput :=
  ⟨transactionId, quantityDelta, some "R-3", none⟩

/-- A receipt of ten, recorded as `TX-1` and pushed. -/
def received : Db := ((receiveStock (clock 0 1) (receipt 10)).eval .empty).2

def pushed : State := State.cycle setting ⟨received, .empty, .idle⟩ 1 fun _ => Server.Sample.env

end Sample

end Sync
