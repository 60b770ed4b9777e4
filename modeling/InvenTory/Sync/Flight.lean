import InvenTory.Sync.Run
import InvenTory.Desktop.Proof.Projection
import InvenTory.Server.Proof.Acceptance

/-!
# Corrections while a push is in flight

Stock commands that succeed, at any moment of any number of pushes, one push after the other (`Reached`).
Nothing fails, and no item is rejected. A step does not say when it comes: a command comes between any
two steps of a push, and the two outcomes of a push are written in any order.
-/

namespace Sync

open Desktop (Clock Command Db Instant OutboxEvent)
open Server (SyncReceipt)

namespace Phase

/-- The events that have been read and are still to be posted. -/
def unposted : Phase → List OutboxEvent
  | .fetched rows | .marked rows => rows
  | _ => []

/-- The events that have been posted, with the outcome still to be written to the outbox. -/
def unwritten : Phase → List OutboxEvent
  | .writing rows _ true _ => rows
  | _ => []

/-- The events that have been posted, with the outcome still to be written to the transactions. -/
def unmarked : Phase → List OutboxEvent
  | .writing rows _ _ true => rows
  | _ => []

/-- The events that a push is under way with: what it writes to the outbox is for these. -/
def flying (p : Phase) : List OutboxEvent := p.unposted ++ p.unwritten

end Phase

namespace Flight

/-- The event is one that a push sends, now or later. -/
def Deliverable (e : OutboxEvent) : Prop := e.status ∈ [.pending, .sending, .retryableError]

instance : DecidablePred Deliverable := fun e =>
  inferInstanceAs (Decidable (e.status ∈ [.pending, .sending, .retryableError]))

/-- No outbox event is deliverable. -/
def Quiet (s : State) : Prop := ∀ e ∈ s.desktop.outbox.rows, ¬ Deliverable e

instance : DecidablePred Quiet := fun s =>
  inferInstanceAs (Decidable (∀ e ∈ s.desktop.outbox.rows, ¬ Deliverable e))

/-- What is posted for the events `rows`. -/
def submissions (w : Setting) (env : Nat → Server.Env) (rows : List OutboxEvent) :
    List Server.Submission :=
  request w.authenticatedUserId env (sortPushItems w.js rows)

/-- The server rejects none of `subs`. -/
def Unrejected (w : Setting) (db : Server.Db) (subs : List Server.Submission) : Prop :=
  ∀ receipts, (Server.push w.py db subs).1 = .ok receipts → ∀ r ∈ receipts, r.accepted = true

/-- The states that an empty desktop and an empty server come to, by commands that meet `ok`. Other
commands of the desktop leave its stock alone, and other calls to the server its ledger. -/
inductive Reached (rs : Desktop.Rust) (w : Setting) (ok : Clock → State → Command → Prop) :
    State → Prop
  | start : Reached rs w ok ⟨.empty, .empty, .idle⟩
  | command {s : State} {d : Db} (clk : Clock) (cmd : Command) (h : Reached rs w ok s)
      (hrun : (cmd.run rs clk).eval s.desktop = (.ok (), d)) (hok : ok clk s cmd) :
      Reached rs w ok { s with desktop := d }
  | other {s : State} {d : Db} (h : Reached rs w ok s) (hd : Desktop.SameStock s.desktop d) :
      Reached rs w ok { s with desktop := d }
  | serve {s : State} {db : Server.Db} (h : Reached rs w ok s) (hdb : Server.Frame s.server db)
      (hclean : Server.CleanStores db) : Reached rs w ok { s with server := db }
  | fetch {s : State} (now : Instant) (h : Reached rs w ok s) (hp : s.phase = .idle) :
      Reached rs w ok (s.fetch w now)
  | mark {s : State} {rows : List OutboxEvent} (now : Instant) (h : Reached rs w ok s)
      (hp : s.phase = .fetched rows) : Reached rs w ok (s.mark now rows)
  | post {s : State} {rows : List OutboxEvent} (env : Nat → Server.Env) (h : Reached rs w ok s)
      (hp : s.phase = .marked rows) (hplain : ∀ x ∈ submissions w env rows, Server.Plain x)
      (hacc : Unrejected w s.server (submissions w env rows)) : Reached rs w ok (s.post w env rows)
  | writeOutbox {s : State} {rows : List OutboxEvent} {receipts : List SyncReceipt} {txs : Bool}
      (now : Instant) (h : Reached rs w ok s) (hp : s.phase = .writing rows receipts true txs) :
      Reached rs w ok (s.writeOutbox w now rows receipts txs)
  | writeTxs {s : State} {rows : List OutboxEvent} {receipts : List SyncReceipt} {outbox : Bool}
      (h : Reached rs w ok s) (hp : s.phase = .writing rows receipts outbox true) :
      Reached rs w ok (s.writeTxs w rows receipts outbox)
  | finish {s : State} {rows : List OutboxEvent} {receipts : List SyncReceipt} (h : Reached rs w ok s)
      (hp : s.phase = .writing rows receipts false false) : Reached rs w ok { s with phase := .idle }

/-- The server has what the desktop has: each transaction with its quantity, and nothing of those that
the desktop does not have. -/
structure InLine (s : State) : Prop where
  kept : ∀ r ∈ s.desktop.transactions.rows, ∃ row,
    s.server.ledger.get? r.transactionId = some row ∧ row.quantityDelta = r.quantityDelta
  deleted : ∀ t row, s.server.ledger.get? t = some row → s.desktop.transactions.get? t = none →
    ∀ k, Server.Db.contribution k row = 0
  balanced : ∀ k, s.server.quantity k = s.server.projection k

/-! ## When a correction arrives -/

/-- The status of a transaction whose deletion is sent on. -/
abbrev Synced (r : Desktop.InventoryTransaction) : Prop := r.syncStatus ∈ [.synced, .accepted]

/-- Neither the server nor a push has a quantity other than 0 for `t`. -/
def Weightless (s : State) (t : String) : Prop :=
  (∀ row, s.server.ledger.get? t = some row → row.quantityDelta = 0) ∧
    ∀ e ∈ s.phase.unposted, e.payload.transactionId = t → e.payload.quantityDelta = 0

/-- A deletion leaves nothing behind: of a synced transaction it is sent as the opposite quantity, which
the server takes for the new one, and of another it withdraws the event. -/
def Deletable (s : State) (t : String) : Prop :=
  ∀ r, s.desktop.transactions.get? t = some r →
    if Synced r then r.quantityDelta = 0 else Weightless s t

/-- An edit comes before its event is read or after the outcome is written, or does not change the
quantity that is on its way. -/
def InTime (s : State) : Command → Prop
  | .updateTransaction input => ∀ e ∈ s.phase.flying,
    e.payload.transactionId = input.transactionId → e.payload.quantityDelta = input.quantityDelta
  | .deleteTransaction t => Deletable s t
  | _ => True

/-- A command comes between two pushes, in numbers that an `i32` holds, and does not delete a transaction
that is synced, unless its quantity is 0. -/
structure Between (s : State) (cmd : Command) : Prop where
  idle : s.phase = .idle
  fits : cmd.Fits s.desktop
  deletion : ∀ t, cmd = .deleteTransaction t → ∀ r, s.desktop.transactions.get? t = some r →
    Synced r → r.quantityDelta = 0

/-! ## What a row keeps on the wire -/

/-- The rows agree in what an edit leaves alone. -/
structure SameOrigin (r : Desktop.InventoryTransaction) (row : Server.InventoryTransaction) :
    Prop where
  storeId : row.storeId = r.storeId
  productId : row.productId = r.productId
  movementType : row.movementType = r.movementType
  stockBucket : row.stockBucket = r.stockBucket
  occurredAt : row.occurredAt = ⟨r.occurredAt * 1000000, some 0⟩
  deviceId : row.deviceId = r.deviceId
  transferId : row.transferId = r.transferId

/-- The rows agree in all that is sent of a transaction. -/
structure SameRow (r : Desktop.InventoryTransaction) (row : Server.InventoryTransaction) : Prop
    extends SameOrigin r row where
  quantityDelta : row.quantityDelta = r.quantityDelta
  referenceNumber : row.referenceNumber = r.referenceNumber
  reasonCode : row.reasonCode = r.reasonCode

/-- The name of a device that is sent as it is. -/
def Named (deviceId : String) : Prop :=
  orDefault (jsTrim deviceId) "SINGLE-USER-DEVICE" = deviceId

instance : DecidablePred Named := fun deviceId =>
  inferInstanceAs (Decidable (orDefault (jsTrim deviceId) "SINGLE-USER-DEVICE" = deviceId))

/-- The row of the server takes all of the edit: it is for another quantity and clears no text, or for the
same with the same texts. As long as there is no row, the edit is made in the second of the movement. -/
def Taken (now : Instant) (r : Desktop.InventoryTransaction) (input : Desktop.UpdateTransactionInput) :
    Option Server.InventoryTransaction → Prop
  | none => now = r.occurredAt
  | some row =>
    if row.quantityDelta = input.quantityDelta.toInt then
      row.referenceNumber = input.referenceNumber ∧ row.reasonCode = input.reasonCode
    else (input.referenceNumber = none → row.referenceNumber = none) ∧
      (input.reasonCode = none → row.reasonCode = none)

/-- What the payload of a command says is what its rows say. -/
def Sendable (clk : Clock) (s : State) : Command → Prop
  | .receiveStock input => Named input.deviceId
  | .sellStock input => Named input.deviceId
  | .returnStock input => Named input.deviceId
  | .moveStockBucket input => Named input.deviceId
  | .adjustStock input => Named input.deviceId
  | .createTransfer _ => True
  | .dispatchTransfer _ _ _ | .receiveTransfer _ _ _ => False
  | .cancelTransfer transferId _ _ => ∀ t, s.desktop.transfers.get? transferId = some t →
    t.status ∉ ["DISPATCHED", "EXCEPTION"]
  | .updateTransaction input => ∀ r, s.desktop.transactions.get? input.transactionId = some r →
    Taken clk.now r input (s.server.ledger.get? input.transactionId)
  | .deleteTransaction _ => False

/-- A command comes between two pushes, and what it records can be sent whole. -/
structure Whole (clk : Clock) (s : State) (cmd : Command) : Prop where
  idle : s.phase = .idle
  sendable : Sendable clk s cmd

/-! ## Sample values -/

namespace Sample

open Sync.Sample

/-- A step, with what it takes from the outside. -/
inductive Act
  | command (clk : Clock) (cmd : Command)
  | fetch (now : Instant)
  | mark (now : Instant)
  | post (env : Server.Env)
  | writeOutbox (now : Instant)
  | writeTxs
  | finish

/-- Every answer is an acceptance. -/
def accepted : Except Server.Exn (List SyncReceipt) → Bool
  | .ok receipts => receipts.all (·.accepted)
  | .error _ => true

/-- Where a step leads to, if it can come next. -/
def act (s : State) : Act → Option State
  | .command clk cmd =>
    match (cmd.run rust clk).eval s.desktop with
    | (.ok _, d) => some { s with desktop := d }
    | (.error _, _) => none
  | .fetch now =>
    match s.phase with
    | .idle => some (s.fetch setting now)
    | _ => none
  | .mark now =>
    match s.phase with
    | .fetched rows => some (s.mark now rows)
    | _ => none
  | .post env =>
    match s.phase with
    | .marked rows =>
      let subs := submissions setting (fun _ => env) rows
      if (∀ x ∈ subs, Server.Plain x) ∧ accepted (Server.push setting.py s.server subs).1 then
        some (s.post setting (fun _ => env) rows)
      else none
    | _ => none
  | .writeOutbox now =>
    match s.phase with
    | .writing rows receipts true txs => some (s.writeOutbox setting now rows receipts txs)
    | _ => none
  | .writeTxs =>
    match s.phase with
    | .writing rows receipts outbox true => some (s.writeTxs setting rows receipts outbox)
    | _ => none
  | .finish =>
    match s.phase with
    | .writing _ _ false false => some { s with phase := .idle }
    | _ => none

def acts (s : State) (as : List Act) : Option State := as.foldlM act s

/-- A push, from reading to the end. -/
def push (now : Instant) : List Act :=
  [.fetch now, .mark now, .post Server.Sample.env, .writeOutbox now, .writeTxs, .finish]

end Sample

end Flight

end Sync
