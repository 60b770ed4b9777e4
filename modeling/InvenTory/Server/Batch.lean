import InvenTory.Server.Ingestion
import Mathlib.Data.List.Sort

/-!
# Ingesting a batch

`ingest_batch` on its `session_factory` path: the payloads are sorted by movement type, time and
id, and each is ingested in a session of its own against one prefetch cache (`ingestItem`). An
item that raises is answered with a receipt all the same: accepted when the exception is a
duplicate key of the ledger, else a rejection with the text of the exception.

`checkIntegrity` compares a balance with the ledger.
-/

namespace Server

open Sql Sql.Prog Py

/-- A payload of a request, with what its processing takes from the outside. -/
structure Submission where
  payload : TransactionPayload
  env : Env
  deriving DecidableEq, Repr

/-! ## The order of a batch -/

/-- `MOVEMENT_PRIORITY.get(movement_type, 3)` -/
def movementPriority (movementType : String) : Nat :=
  if movementType = "ADJUSTMENT" then 0
  else if movementType ∈ ["RECEIPT", "TRANSFER_IN", "RETURN"] then 1
  else if movementType ∈ ["SALE", "TRANSFER_OUT", "DAMAGE"] then 2
  else 3

namespace TransactionPayload

def priority (p : TransactionPayload) : Nat := movementPriority p.movementType

/-- `_sort_key(p) <= _sort_key(q)` -/
def SortLe (p q : TransactionPayload) : Prop :=
  p.priority < q.priority ∨ p.priority = q.priority ∧
    (p.occurredAt.instant < q.occurredAt.instant ∨ p.occurredAt.instant = q.occurredAt.instant ∧
      p.transactionId ≤ q.transactionId)

instance : DecidableRel SortLe := fun p q => by
  unfold SortLe
  infer_instance

/-- The sort keys of `p` and `q` can be compared: it takes two times of one kind, unless the
priorities already differ. -/
def Comparable (p q : TransactionPayload) : Prop :=
  p.priority = q.priority → p.occurredAt.aware = q.occurredAt.aware

instance : DecidableRel Comparable := fun p q => by
  unfold Comparable
  infer_instance

end TransactionPayload

/-- An item of a batch and its place in the request. -/
abbrev Item := Nat × Submission

def Item.Le (a b : Item) : Prop := a.2.payload.SortLe b.2.payload

instance : DecidableRel Item.Le := fun a b =>
  inferInstanceAs (Decidable (a.2.payload.SortLe b.2.payload))

/-- `list(enumerate(payloads))` -/
def enumerate (subs : List Submission) : List Item := subs.zipIdx.map fun x => (x.2, x.1)

/-- All sort keys can be compared with each other. -/
def Sortable (subs : List Submission) : Prop :=
  ∀ a ∈ subs, ∀ b ∈ subs, a.payload.Comparable b.payload

instance : DecidablePred Sortable := fun subs => by
  unfold Sortable
  infer_instance

/-- The items in processing order. -/
def ordered (subs : List Submission) : List Item := (enumerate subs).insertionSort Item.Le

def cannotCompare : Exn := ⟨"TypeError", "can't compare offset-naive and offset-aware datetimes"⟩

/-! ## One item -/

def ensureAcceptedReceipt (env : Env) (transactionId : String) : Prog Exn Db SyncReceipt :=
  session do
    match ← select (·.receipts.get? transactionId) with
    | some existing =>
      execute fun db => .ok (db.updateReceipt (existing.accept env))
      pure (existing.accept env)
    | none =>
      let receipt := makeAcceptedReceipt env transactionId
      execute (·.insertReceipt receipt)
      pure receipt

def unexpectedError (exc : Exn) : String := "Unexpected error: " ++ exc.text

/-- Store the receipt of an item that raised `exc`. -/
def persistRejection (env : Env) (transactionId : String) (exc : Exn) :
    Prog Exn Db SyncReceipt :=
  session do
    let existing ← attempt (select (·.receipts.get? transactionId))
    match existing with
    | .ok (some r) =>
      let r' := { r with
        accepted := false
        rejectionReason := some (unexpectedError exc)
        processedAt := env.now }
      execute fun db => .ok (db.updateReceipt r')
      pure r'
    | _ =>
      let r := makeRejectedReceipt env transactionId (unexpectedError exc)
      execute (·.insertReceipt r)
      pure r

/-- The receipt of an item whose session raised `exc`. -/
def handleError (s : Submission) (exc : Exn) : Prog Exn Db SyncReceipt := do
  let id := s.payload.transactionId
  if isInventoryTransactionsPkeyCollision exc then
    match ← attempt (ensureAcceptedReceipt s.env id) with
    | .ok r => pure r
    | .error _ => pure (makeAcceptedReceipt s.env id)
  else
    match ← attempt (persistRejection s.env id exc) with
    | .ok r => pure r
    | .error _ => pure (makeRejectedReceipt s.env id (unexpectedError exc))

def detachedInstanceError : Exn := ⟨"DetachedInstanceError",
  "Instance is not bound to a Session; attribute refresh operation cannot proceed"⟩

/-- One turn of the loop: the receipt of an item, and the cache for the next one. -/
def ingestItem (py : Python) (c : IngestPrefetch) (s : Submission) :
    Prog Exn Db (SyncReceipt × IngestPrefetch) := do
  match ← attempt (session (ingestTransactionImpl py s.env s.payload (some c))) with
  | .ok (.live r) => pure (r, c.record s.payload r)
  | .ok .expired => throw detachedInstanceError
  | .error exc =>
    let r ← handleError s exc
    pure (r, c.record s.payload r)

/-! ## The batch -/

/-- The loop over the items: their receipts, each with the item's place in the request. -/
def ingestItems (py : Python) : IngestPrefetch → List Item → Prog Exn Db (List (Nat × SyncReceipt))
  | _, [] => pure []
  | c, (i, s) :: rest => do
    let (r, c') ← ingestItem py c s
    let rs ← ingestItems py c' rest
    pure ((i, r) :: rs)

/-- `[receipts_by_index[i] for i in range(n)]` -/
def receiptsByIndex (n : Nat) (rs : List (Nat × SyncReceipt)) : List SyncReceipt :=
  (List.range n).filterMap fun i => rs.lookup i

def ingestBatch (py : Python) (subs : List Submission) : Prog Exn Db (List SyncReceipt) :=
  if Sortable subs then do
    let prefetch ← reading (IngestPrefetch.load (subs.map (·.payload)))
    let rs ← ingestItems py prefetch (ordered subs)
    pure (receiptsByIndex subs.length rs)
  else throw cannotCompare

/-! ## The integrity check -/

structure IntegrityCheckResult where
  ok : Bool
  stock : StockKey
  storedQuantity : Int
  computedQuantity : Int
  delta : Int
  deriving DecidableEq, Repr

def checkIntegrity (db : Db) (k : StockKey) (expectedQuantity : Int) : IntegrityCheckResult :=
  let computedQuantity := db.projection k
  let delta := computedQuantity - expectedQuantity
  ⟨delta = 0, k, expectedQuantity, computedQuantity, delta⟩

end Server
