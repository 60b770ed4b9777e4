import InvenTory.Server.Requests
import InvenTory.Sync.Proof.Pushes

/-!
# A push where widths are enforced

The handler `push_events` behind its request model: the products are upserted in one transaction, and then
the events are ingested, each in a session of its own. The receipt of an item that raises always fits,
its reason is a `TEXT`, so `handleError` is that of `Batch.lean`.
-/

namespace Server

open Sql Sql.Prog

/-- `ingestItem` -/
def ingestItemFitting (py : Python) (c : IngestPrefetch) (s : Submission) :
    Prog Exn Db (SyncReceipt × IngestPrefetch) := do
  match ← attempt (session (ingestFitting py s.env s.payload (some c))) with
  | .ok (.live r) => pure (r, c.record s.payload r)
  | .ok .expired => throw detachedInstanceError
  | .error exc =>
    let r ← handleError s exc
    pure (r, c.record s.payload r)

/-- `ingestItems` -/
def ingestItemsFitting (py : Python) : IngestPrefetch → List Item →
    Prog Exn Db (List (Nat × SyncReceipt))
  | _, [] => pure []
  | c, (i, s) :: rest => do
    let (r, c') ← ingestItemFitting py c s
    let rs ← ingestItemsFitting py c' rest
    pure ((i, r) :: rs)

/-- `ingestBatch` -/
def ingestBatchFitting (py : Python) (subs : List Submission) : Prog Exn Db (List SyncReceipt) :=
  if Sortable subs then do
    let prefetch ← reading (IngestPrefetch.load (subs.map (·.payload)))
    let rs ← ingestItemsFitting py prefetch (ordered subs)
    pure (receiptsByIndex subs.length rs)
  else throw cannotCompare

/-- What a request takes from the outside: who is signed in, the time, and what each item needs. -/
structure PushCall where
  py : Python
  userId : Int
  now : DateTime
  env : Nat → Env

def PushCall.submissions (call : PushCall) (events : List TransactionPushItem) : List Submission :=
  events.zipIdx.map fun x => ⟨x.1.payload call.userId, call.env x.2⟩

/-- `push_events` -/
def pushEvents (call : PushCall) (c : CentralDb) (events : List TransactionPushItem)
    (products : List ProductSnapshot) : Except Exn (List SyncReceipt) × CentralDb :=
  match c.upsertAllFitting call.now products with
  | .error e => (.error e, c)
  | .ok c =>
    let (receipts, db) := (ingestBatchFitting call.py (call.submissions events)).eval c.db
    (receipts, { c with db := db })

end Server
