import InvenTory.Desktop.Proof.Nonneg
import InvenTory.Lib.Runs
import InvenTory.Desktop.Pull
import InvenTory.Sync.Push

/-!
# Deletions and sync runs

A desktop on which the stock commands run between the steps of any number of `triggerSync` runs, each with
its own place in the push loop (`Stage`), and the requests that it has sent (`Station.sent`). Statements
fail by themselves or by a fault. A forced run may also send a request of products alone; it has no items.
-/

namespace Sync.Deletions

open Desktop (Db Instant OutboxEvent)
open Server (SyncReceipt)
open Sql (Prog)

/-- Where a run stands in the push loop. The two outcomes of a push are written in any order; the flags
say which is still to be written. -/
inductive Stage
  | idle
  | fetched (rows : List OutboxEvent)
  | marked (rows : List OutboxEvent)
  | writing (rows : List OutboxEvent) (receipts : List SyncReceipt) (outbox txs : Bool)
  | failed (rows : List OutboxEvent) (error : String)

/-- What a read leads to: the loop ends when there is nothing to be pushed. -/
def Stage.read : Except String (List OutboxEvent) → Stage
  | .ok [] => .idle
  | .ok rows => .fetched rows
  | .error _ => .idle

/-- What a request leads to. -/
def Stage.reply (rows sorted : List OutboxEvent) : Except String (List SyncReceipt) → Stage
  | .ok receipts => .writing sorted receipts true true
  | .error e => .failed rows e

/-- A desktop with its runs, and the requests so far. -/
structure Station where
  desktop : Db
  stage : Nat → Stage
  sent : List (List PushItem)

/-- A step of a run. After a request that fails a run reads again, or gives up. -/
inductive Action
  | fetch (now : Instant) (limit : Int32) (force : Bool)
  | mark (now : Instant)
  | post (reply : Except String (List SyncReceipt))
  | writeOutbox (now : Instant)
  | writeTxs
  | giveUp (now : Instant)
  | finish

/-- What happens: a command, a step of the run `k`, the clean-up of the outbox, or a snapshot that is
applied. -/
inductive Event
  | command (c : Desktop.Call)
  | act (k : Nat) (faults : List (Option String)) (a : Action)
  | cleanup (faults : List (Option String)) (now : Instant) (retentionDays : Option Int)
  | pull (faults : List (Option String)) (products : List Desktop.Product)
    (stores : List Desktop.Store) (stockBalances : List Desktop.StockBalanceSnapshot)

/-- What the code takes from Rust and JavaScript. -/
structure Setting where
  rs : Desktop.Rust
  js : Js

namespace Station

def start : Station := ⟨.empty, fun _ => .idle, []⟩

variable (w : Setting) (s : Station) (faults : List (Option String)) (k : Nat)

def setStage (x : Stage) : Station := { s with stage := Function.update s.stage k x }

def fetch (now : Instant) (limit : Int32) (force : Bool) : Station :=
  let r := (Desktop.getPendingOutboxEvents now (some limit) (some force)).run faults s.desktop
  { s with desktop := r.state }.setStage k (.read r.result)

/-- Run a command of the loop and go on; what it raises is dropped. -/
def write (p : Prog String Db Unit) (x : Stage) : Station :=
  { s with desktop := (p.run faults s.desktop).state }.setStage k x

def post (reply : Except String (List SyncReceipt)) (rows : List OutboxEvent) : Station :=
  let sorted := sortPushItems w.js rows
  { s with sent := s.sent ++ [sorted.map fun e : OutboxEvent => buildPushItem e.payload] }.setStage k
    (.reply rows sorted reply)

/-- A step of a run that stands elsewhere does nothing. -/
def act (a : Action) : Station :=
  match s.stage k, a with
  | .idle, .fetch now limit force => s.fetch faults k now limit force
  | .fetched rows, .mark now =>
    s.write faults k (Desktop.updateOutboxEventStatuses now (sendingUpdates rows)) (.marked rows)
  | .marked rows, .post reply => s.post w k reply rows
  | .writing rows receipts true txs, .writeOutbox now =>
    s.write faults k (Desktop.updateOutboxEventStatuses now (outboxStatusUpdates w.js receipts rows))
      (.writing rows receipts false txs)
  | .writing rows receipts outbox true, .writeTxs =>
    s.write faults k (Desktop.updateTransactionSyncStatuses (txStatusUpdates w.js receipts rows))
      (.writing rows receipts outbox false)
  | .failed rows error, .giveUp now =>
    s.write faults k (Desktop.updateOutboxEventStatuses now (failureUpdates rows error)) .idle
  | _, .finish => s.setStage k .idle
  | _, _ => s

def step (s : Station) : Event → Station
  | .command c => { s with desktop := c.after w.rs s.desktop }
  | .act k faults a => s.act w faults k a
  | .cleanup faults now retentionDays =>
    { s with desktop :=
      ((Desktop.cleanupExpiredOutboxEvents now retentionDays).run faults s.desktop).state }
  | .pull faults products stores stockBalances =>
    { s with desktop :=
      ((Desktop.applySyncPull products stores stockBalances).run faults s.desktop).state }

/-- A request with an item for the transaction `t` was sent. -/
def Sent (t : String) : Prop := ∃ items ∈ s.sent, ∃ i ∈ items, i.transactionId = t

instance (t : String) : Decidable (s.Sent t) :=
  inferInstanceAs (Decidable (∃ items ∈ s.sent, ∃ i ∈ items, i.transactionId = t))

end Station

end Sync.Deletions
