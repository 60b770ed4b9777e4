import InvenTory.Server.Proof.Redelivery
import InvenTory.Server.Proof.Run

/-!
# The plain path

`ingestBatchPlain` runs the items of a batch without a prefetch cache. The cache knows the ledger
and the receipts of every item when its turn comes (`Tracks`), whatever happened before; its stores,
products and devices are those that earlier items named, whether or not they exist. So the two paths
agree as long as no item is `Deceived` at its turn (`prefetch_agrees`).
-/

namespace Server

open Relational Sql Sql.Prog

/-! ## The code without the cache -/

/-- `ingestItem` with `prefetch=None`. -/
def ingestItemPlain (py : Python) (s : Submission) : Prog Exn Db SyncReceipt := do
  match ← attempt (session (ingestTransactionImpl py s.env s.payload none)) with
  | .ok (.live r) => pure r
  | .ok .expired => throw detachedInstanceError
  | .error exc => handleError s exc

def ingestItemsPlain (py : Python) : List Item → Prog Exn Db (List (Nat × SyncReceipt))
  | [] => pure []
  | (i, s) :: rest => do
    let r ← ingestItemPlain py s
    let rs ← ingestItemsPlain py rest
    pure ((i, r) :: rs)

/-- The payloads in the order of `ingestBatch`, each in a session of its own. -/
def ingestBatchPlain (py : Python) (subs : List Submission) : Prog Exn Db (List SyncReceipt) :=
  if Sortable subs then do
    let rs ← ingestItemsPlain py (ordered subs)
    pure (receiptsByIndex subs.length rs)
  else throw cannotCompare

/-! ## Where the cache is wrong -/

/-- The store, product and device of `p` exist if the cache lists them. -/
structure Honest (c : IngestPrefetch) (db : Db) (p : TransactionPayload) : Prop where
  store : p.storeId ∈ c.storeIds → (db.stores.get? p.storeId).isSome
  product : p.productId ∈ c.productIds → (db.products.get? p.productId).isSome
  device : p.deviceId ∈ c.deviceIds → (db.devices.get? p.deviceId).isSome

/-- `p` is provisioned, and the cache lists a store, product or device of it that is missing. -/
def Deceived (py : Python) (c : IngestPrefetch) (db : Db) (p : TransactionPayload) : Prop :=
  Provisioned py db p ∧ ¬ Honest c db p

/-- No item is deceived at its turn. -/
def Faithful (py : Python) : IngestPrefetch → List Item → Db → Prop
  | _, [], _ => True
  | c, (_, s) :: rest, db => ¬ Deceived py c db s.payload ∧
      ∀ x w, (ingestItem py c s).eval db = (.ok x, w) → Faithful py x.2 rest w

variable {py : Python} {c : IngestPrefetch} {i : Nat} {s : Submission} {items : List Item} {db : Db}

/-! ## One item -/

theorem reads_none (db : Db) (id : String) : Reads none db id :=
  ⟨rfl, fun cn hcn => by rw [← hcn]; rfl⟩

theorem eval_isKnown_honest {b : Bool} {f : Db → Bool} {cn : Conn Db}
    (h : b = true → f cn.work = true) : (isKnown b f).eval cn = (isKnown false f).eval cn := by
  rw [eval_isKnown_or, eval_isKnown_or]
  cases b with
  | false => rfl
  | true => rw [h rfl]; rfl

theorem eval_ingestNew_honest (env : Env) {p : TransactionPayload} {cn : Conn Db}
    (h : Honest c cn.work p) :
    (ingestNew py env (some c) p).eval cn = (ingestNew py env none p).eval cn := by
  refine eval_ingestNew_congr env ?_ (fun cn1 h1 => ?_) fun cn2 h2 => ?_
  · unfold provisionStore
    simp only [Option.any_some, Option.any_none, eval_bind]
    rw [eval_isKnown_honest fun hb => h.store (by simpa using hb)]
  · unfold provisionProduct
    simp only [Option.any_some, Option.any_none, eval_bind]
    rw [eval_isKnown_honest fun hb => h1 ▸ h.product (by simpa using hb)]
  · unfold provisionDevice
    simp only [Option.any_some, Option.any_none, eval_bind]
    rw [eval_isKnown_honest fun hb => h2 ▸ h.device (by simpa using hb)]

theorem eval_impl_plain (ht : Tracks c ((i, s) :: items) db) (hd : ¬ Deceived py c db s.payload) :
    (ingestTransactionImpl py s.env s.payload (some c)).eval ⟨db, db⟩ =
      (ingestTransactionImpl py s.env s.payload none).eval ⟨db, db⟩ := by
  have hreads := reads_some (ht.ledger _ List.mem_cons_self) (ht.receipt _ List.mem_cons_self)
  refine eval_impl_congr s.env (reads_none db _) hreads fun hp w hw => ?_
  have hh : Honest c db s.payload := by
    by_contra hno
    exact hd ⟨hp, hno⟩
  refine eval_ingestNew_honest s.env ⟨?_, ?_, ?_⟩
  · exact hw.stores ▸ hh.store
  · exact hw.products ▸ hh.product
  · exact hw.devices ▸ hh.device

theorem eval_ingestItemPlain {r : SyncReceipt} {w : Db} (ht : Tracks c ((i, s) :: items) db)
    (hd : ¬ Deceived py c db s.payload)
    (h : (ingestItem py c s).eval db = (.ok (r, c.record s.payload r), w)) :
    (ingestItemPlain py s).eval db = (.ok r, w) := by
  have hses := eval_session_congr (eval_impl_plain ht hd)
  unfold ingestItem at h
  unfold ingestItemPlain
  rw [eval_bind_ok (eval_attempt ..)] at h ⊢
  rw [hses] at h
  generalize (session (ingestTransactionImpl py s.env s.payload none)).eval db = o at h ⊢
  rcases o with ⟨e | _ | _, db1⟩
  · simp only at h ⊢
    rw [eval_bind] at h
    generalize (handleError s e).eval db1 = o at h ⊢
    rcases o with ⟨_ | r', db2⟩ <;> cases h
    rfl
  · cases h
    rfl
  · cases h

/-! ## The batch -/

theorem eval_ingestItemsPlain : ∀ {items : List Item} {c : IngestPrefetch} {db : Db},
    Tracks c items db → Faithful py c items db →
      (ingestItems py c items).eval db = (ingestItemsPlain py items).eval db
  | [], _, _, _, _ => rfl
  | (i, s) :: rest, c, db, ht, hf => by
    obtain ⟨hd, hrest⟩ := hf
    rcases hi : (ingestItem py c s).eval db with ⟨res, w⟩
    obtain ⟨r, rfl, ht'⟩ := turn_tracks ht hi
    have ih := eval_ingestItemsPlain ht' (hrest _ w hi)
    unfold ingestItems ingestItemsPlain
    rw [eval_bind_ok hi, eval_bind_ok (eval_ingestItemPlain ht hd hi)]
    simp only
    rw [eval_bind, eval_bind, ih]

end Server
