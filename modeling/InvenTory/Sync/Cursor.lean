import InvenTory.Sync.Proof.Apply

/-!
# The cursor of the pull

The pull of `triggerSync`: what becomes of the page requests of `_httpPullAll` and of
`apply_sync_pull`, and the value that `last_sync_at` is set to. A pull that fails is not fatal, and
neither is a snapshot that cannot be applied. `Syncs` are runs of it, one after the other, against a
server that changes on its own; each value of the cursor leaves a `Mark`.
-/

namespace Sync

open Sql
open Server (CentralDb DateTime)

/-- What the pull of a run meets: the outcome of the push, of the requests and of the statements, and
the desktop's clock. -/
structure PullRun where
  hadRetryableError : Bool
  answers : List Answer
  faults : List (Option String)
  now : DateTime

structure Client where
  db : Desktop.Db
  lastSyncAt : Option DateTime

/-- The database after `invoke('apply_sync_pull', ..)`, whose error is logged. -/
def invokeApply (faults : List (Option String)) (r : Rows) (d : Desktop.Db) : Desktop.Db :=
  match arguments r with
  | none => d
  | some (ps, ss, bs) => ((Desktop.applySyncPull ps ss bs).run faults d).state

/-- The pull of a run, with the value that the cursor is set to. -/
def Client.pull (limit : Nat) (x : PullRun) (s : Client) : Client × Option DateTime :=
  if x.hadRetryableError then (s, none)
  else
    match httpPullAll s.lastSyncAt limit 0 none x.answers with
    | .waiting => (s, none)
    -- without a response, `syncTime` is the time of the desktop
    | .failed => (⟨s.db, some x.now⟩, some x.now)
    | .done resp =>
      (⟨invokeApply x.faults resp.rows s.db, some resp.serverTime⟩, some resp.serverTime)

/-- The answers come one after the other, each from the server of a time after its `server_time`. -/
def Answered (server : Int → CentralDb) : Int → List Answer → Prop
  | _, [] => True
  | t, none :: rest => Answered server t rest
  | t, some (c, now) :: rest => t ≤ now.instant ∧
    ∃ read, now.instant ≤ read ∧ c = server read ∧ Answered server read rest

/-- The cursor was set to `time`, and the desktop then had the database `db`. -/
structure Mark where
  previous : Option DateTime
  time : DateTime
  db : Desktop.Db

def Client.mark (limit : Nat) (x : PullRun) (s : Client) : List Mark :=
  (s.pull limit x).2.toList.map fun time => ⟨s.lastSyncAt, time, (s.pull limit x).1.db⟩

/-- Runs of `triggerSync`, each of which meets `G`, and the marks that they left. Between two of them
the desktop may do anything to its database. -/
inductive Syncs (server : Int → CentralDb) (limit : Nat) (G : Client → PullRun → Prop) :
    Client → List Mark → Prop
  | start (s : Client) : Syncs server limit G s []
  | run {s : Client} {marks : List Mark} (h : Syncs server limit G s marks) (x : PullRun) (t : Int)
    (ha : Answered server t x.answers) (hG : G s x) :
    Syncs server limit G (s.pull limit x).1 (marks ++ s.mark limit x)
  | work {s : Client} {marks : List Mark} (h : Syncs server limit G s marks) (db : Desktop.Db) :
    Syncs server limit G { s with db } marks

end Sync
