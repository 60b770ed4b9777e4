import InvenTory.Lib.Faults
import InvenTory.Server.Batch

/-!
# Two strategies for a batch

`ingest_batch` with a `session_factory`, where the statements of each item run under a schedule of
their own (`ingestBatchUnder`), and without one: all items in the session of the caller, each in a
savepoint (`ingestBatchLegacy`). `Session.rollback()` gives up the whole transaction, also inside
`begin_nested()`; it expires the receipts that were loaded before, and keeps the values of those that
the transaction created.
-/

namespace Server

open Sql Sql.Prog

/-! ## A session for each item -/

/-- `ingestItem` with the item's statements under `fs`. -/
def ingestItemUnder (py : Python) (fs : List (Option Exn)) (c : IngestPrefetch) (s : Submission) :
    Prog Exn Db (SyncReceipt × IngestPrefetch) := do
  match ← attempt (session (under fs (ingestTransactionImpl py s.env s.payload (some c)))) with
  | .ok (.live r) => pure (r, c.record s.payload r)
  | .ok .expired => throw detachedInstanceError
  | .error exc =>
    let r ← handleError s exc
    pure (r, c.record s.payload r)

def ingestItemsUnder (py : Python) (plan : Nat → List (Option Exn)) :
    IngestPrefetch → List Item → Prog Exn Db (List (Nat × SyncReceipt))
  | _, [] => pure []
  | c, (i, s) :: rest => do
    let (r, c') ← ingestItemUnder py (plan i) c s
    let rs ← ingestItemsUnder py plan c' rest
    pure ((i, r) :: rs)

/-- `ingestBatch` with the schedule `plan i` for the item in place `i` of the request. -/
def ingestBatchUnder (py : Python) (plan : Nat → List (Option Exn)) (subs : List Submission) :
    Prog Exn Db (List SyncReceipt) :=
  if Sortable subs then do
    let prefetch ← reading (IngestPrefetch.load (subs.map (·.payload)))
    let rs ← ingestItemsUnder py plan prefetch (ordered subs)
    pure (receiptsByIndex subs.length rs)
  else throw cannotCompare

/-! ## One session for all -/

/-- A receipt of the answer: a plain or a new object, a row of the session, or a row that a rollback
expired and that can no longer be read. -/
inductive Held
  | own (receipt : SyncReceipt)
  | row (receipt : SyncReceipt)
  | expired

namespace Held

def expire : Held → Held
  | .own r => .own r
  | _ => .expired

def accepted : Held → Option Bool
  | .own r => some r.accepted
  | .row r => some r.accepted
  | .expired => none

end Held

/-- Where an item's receipt comes from. -/
inductive Origin
  | snapshot
  | loaded
  | created

def staleRetry (r : SyncReceipt) (p : TransactionPayload) (db : Db) : Bool :=
  match r.rejectionReason.bind matchInsufficientStock with
  | none => false
  | some previous => ¬ previous < 0 ∧ 0 ≤ db.quantity p.stock + p.quantityDelta ∧
      db.quantity p.stock ≠ previous

/-- The receipt that `ingestTransactionImpl` returns is a snapshot of the cache, an object of the
session, or a new one. -/
def receiptOrigin (py : Python) (c : IngestPrefetch) (db : Db) (p : TransactionPayload) : Origin :=
  match c.receiptByTx p.transactionId with
  | none => .created
  | some snap =>
    if snap.accepted then .snapshot
    else
      match db.receipts.get? p.transactionId with
      | none => .created
      | some r =>
        if p.transactionId ∈ c.ledgerTxIds ∧ (db.ledger.get? p.transactionId).isSome then .loaded
        else if r.accepted then .loaded
        else if isServerInternalErrorReason py r.rejectionReason ∨ staleRetry r p db then .created
        else .loaded

/-- The state of the loop: the cache, the transactions whose receipt objects are new in the
transaction, and the answers. -/
structure LegacyState where
  cache : IngestPrefetch
  created : List String
  answers : List (Nat × Held)

namespace LegacyState

def rolledBack (st : LegacyState) : LegacyState :=
  { st with created := [], answers := st.answers.map fun x => (x.1, x.2.expire) }

/-- An object of the session is a row unless the transaction created it. -/
def hold (st : LegacyState) (id : String) (r : SyncReceipt) : Origin → Held
  | .snapshot => .own r
  | .created => .own r
  | .loaded => if id ∈ st.created then .own r else .row r

/-- `_finish` -/
def finish (st : LegacyState) (i : Nat) (s : Submission) (r : SyncReceipt) (o : Origin) :
    LegacyState where
  cache := st.cache.record s.payload r
  created := match o with
    | .created => s.payload.transactionId :: st.created
    | _ => st.created
  answers := st.answers ++ [(i, st.hold s.payload.transactionId r o)]

end LegacyState

/-- What the session sees, without a statement. -/
def peek : Tx Db := ⟨fun fs c => ⟨.ok c.work, c, fs⟩, fun _ _ => List.suffix_rfl⟩

/-- `ingest_transaction` -/
def orRollback {α : Type} (p : Tx α) : Tx α := do
  match ← attempt p with
  | .ok a => pure a
  | .error e =>
    rollback
    throw e

/-- `_ensure_accepted_receipt` without a `session_factory`. -/
def ensureAcceptedReceiptIn (env : Env) (transactionId : String) : Tx (SyncReceipt × Origin) := do
  match ← select (·.receipts.get? transactionId) with
  | some existing =>
    execute fun db => .ok (db.updateReceipt (existing.accept env))
    pure (existing.accept env, .loaded)
  | none =>
    let receipt := makeAcceptedReceipt env transactionId
    execute (·.insertReceipt receipt)
    pure (receipt, .created)

def insertRejectionIn (env : Env) (transactionId : String) (exc : Exn) :
    Tx (SyncReceipt × Origin) := do
  let r := makeRejectedReceipt env transactionId (unexpectedError exc)
  execute (·.insertReceipt r)
  pure (r, .created)

def persistRejectionIn (env : Env) (transactionId : String) (exc : Exn) :
    Tx (SyncReceipt × Origin) := do
  match ← attempt (select (·.receipts.get? transactionId)) with
  | .ok (some r) =>
    let r' := { r with
      accepted := false
      rejectionReason := some (unexpectedError exc)
      processedAt := env.now }
    execute fun db => .ok (db.updateReceipt r')
    pure (r', .loaded)
  | .ok none => insertRejectionIn env transactionId exc
  | .error _ =>
    rollback
    insertRejectionIn env transactionId exc

/-- The receipt of an item that raised `exc`; one that cannot be written is a plain object. -/
def handleErrorIn (s : Submission) (exc : Exn) : Tx (SyncReceipt × Origin) := do
  let id := s.payload.transactionId
  rollback
  if isInventoryTransactionsPkeyCollision exc then
    match ← attempt (ensureAcceptedReceiptIn s.env id) with
    | .ok x => pure x
    | .error _ =>
      rollback
      pure (makeAcceptedReceipt s.env id, .snapshot)
  else
    match ← attempt (persistRejectionIn s.env id exc) with
    | .ok x => pure x
    | .error _ =>
      rollback
      pure (makeRejectedReceipt s.env id (unexpectedError exc), .snapshot)

def missingGreenlet : Exn := ⟨"MissingGreenlet", "greenlet_spawn has not been called; can't call " ++
  "await_only() here. Was IO attempted in an unexpected place?"⟩

/-- One turn of the loop in the session of the caller. -/
def ingestItemIn (py : Python) (fs : List (Option Exn)) (st : LegacyState) (i : Nat)
    (s : Submission) : Tx LegacyState := do
  let before ← peek
  match ← attempt (orRollback (under fs (ingestTransactionImpl py s.env s.payload
    (some st.cache)))) with
  | .ok (.live r) => pure (st.finish i s r (receiptOrigin py st.cache before s.payload))
  | .ok .expired =>
    -- `record` reads the expired receipt, inside the `try`
    let (r, o) ← handleErrorIn s missingGreenlet
    pure (st.rolledBack.finish i s r o)
  | .error exc =>
    let (r, o) ← handleErrorIn s exc
    pure (st.rolledBack.finish i s r o)

def ingestItemsIn (py : Python) (plan : Nat → List (Option Exn)) :
    LegacyState → List Item → Tx LegacyState
  | st, [] => pure st
  | st, (i, s) :: rest => do
    let st' ← ingestItemIn py (plan i) st i s
    ingestItemsIn py plan st' rest

def ingestBatchLegacy (py : Python) (plan : Nat → List (Option Exn)) (subs : List Submission) :
    Tx (List Held) :=
  if Sortable subs then do
    let prefetch ← IngestPrefetch.load (subs.map (·.payload))
    let st ← ingestItemsIn py plan ⟨prefetch, [], []⟩ (ordered subs)
    pure ((List.range subs.length).filterMap fun i => st.answers.lookup i)
  else throw cannotCompare

end Server
