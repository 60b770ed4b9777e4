import InvenTory.Lib.Endings
import InvenTory.Server.Fitting
import InvenTory.Server.Proof.Convergence

/-!
# Every item is answered

Whatever the database holds and whichever of its statements fail, an item ends with a receipt of its
transaction or with an exception (`gives_ingest`), and gets a receipt in both cases (`answers_item`). So a
batch that can be sorted answers all of its items (`answers_batch`).
-/

namespace Server

open Relational Sql Sql.Prog

variable {py : Python} {env : Env} {o : Option IngestPrefetch} {p : TransactionPayload} {R : Prop}

/-- A receipt of the transaction `id`, which is not expired. -/
def Receipted (id : String) : Returned → Prop
  | .live r => r.transactionId = id
  | .expired => False

/-- The receipts of the cache are filed under their transactions. -/
def FiledUnder (c : IngestPrefetch) : Prop := ∀ id, ∀ r ∈ c.receiptByTx id, r.transactionId = id

theorem filedUnder_loaded (ps : List TransactionPayload) (db : Db) : FiledUnder (.loaded ps db) := by
  intro id r hr
  unfold IngestPrefetch.loaded at hr
  dsimp only at hr
  split at hr
  · exact Table.key_of_get? hr
  · cases hr

theorem FiledUnder.record {c : IngestPrefetch} (h : FiledUnder c) (p : TransactionPayload) (r : SyncReceipt) :
    FiledUnder (c.record p r) := by
  intro id r' hr'
  unfold IngestPrefetch.record at hr'
  dsimp only at hr'
  by_cases hid : id = p.transactionId
  · subst hid
    rw [Function.update_self] at hr'
    cases hr'
    rfl
  · rw [Function.update_of_ne hid] at hr'
    exact h id r' hr'

/-! ## The end of an item -/

open Code

theorem gives_lookupReceipt (ho : ∀ c ∈ o, FiledUnder c) (id : String) :
    (lookupReceipt.code o id).Gives fun x => ∀ r ∈ x, r.transactionId = id := by
  have hselect : ∀ db : Db, ∀ r ∈ db.receipts.get? id, r.transactionId = id := fun db r hr =>
    Table.key_of_get? hr
  unfold lookupReceipt.code
  delta lookupReceipt
  simp only [id_eq]
  cases o with
  | none => exact Gives.select hselect
  | some c =>
    have hc := ho c rfl id
    dsimp only
    generalize c.receiptByTx id = x at hc
    cases x with
    | none => exact Gives.ret nofun
    | some r => exact Gives.cond (fun _ => Gives.ret hc) fun _ => Gives.select hselect

theorem gives_reject (reason : String) : (reject.code env p reason).Gives (Receipted p.transactionId) :=
  Gives.last fun _ => Gives.ret rfl

theorem gives_insertMovement : (insertMovement.code env R p).Gives (Receipted p.transactionId) :=
  Gives.last fun _ => Gives.last fun _ => Gives.last fun _ => Gives.last fun _ => Gives.ret rfl

theorem gives_checkAndInsert : (checkAndInsert.code env R p).Gives (Receipted p.transactionId) :=
  Gives.cond
    (fun _ => Gives.last fun _ => Gives.cond (fun _ => Gives.weaken (gives_reject _)) fun _ =>
      gives_insertMovement)
    fun _ => gives_insertMovement

theorem gives_ingestNew : (ingestNew.code py env R o p).Gives (Receipted p.transactionId) := by
  unfold ingestNew.code
  delta ingestNew
  simp only [id]
  cases validatePayload py p with
  | some reason => exact Gives.weaken (gives_reject reason)
  | none =>
    exact Gives.last fun _ => Gives.last fun _ => Gives.last fun _ => gives_checkAndInsert

theorem gives_retryStale : (retryStale.code py env R o p).Gives (Receipted p.transactionId) :=
  Gives.last fun _ => gives_ingestNew

theorem gives_ledgerFirst (ho : ∀ c ∈ o, FiledUnder c) (row : InventoryTransaction) :
    (ledgerFirst.code env R o p row).Gives (·.transactionId = p.transactionId) := by
  refine Gives.last fun _ => Gives.seq (Gives.weaken (gives_lookupReceipt ho _)) fun x hx => ?_
  cases x with
  | none => exact Gives.last fun _ => Gives.ret rfl
  | some r =>
    have hr := hx r rfl
    exact Gives.cond (fun _ => Gives.ret hr) fun _ => Gives.last fun _ => Gives.ret hr

/-- The check of a stored rejection reads, and reads go through. -/
theorem gives_staleCheck (r : SyncReceipt) :
    (staleDomainRejectionShouldRetry.code r p).Gives (· ≠ .rolledBack) := by
  unfold staleDomainRejectionShouldRetry.code
  delta staleDomainRejectionShouldRetry
  simp only [id_eq]
  cases r.rejectionReason.bind matchInsufficientStock with
  | none => exact Gives.ret (by simp)
  | some n =>
    refine Gives.cond (fun _ => Gives.ret (by simp)) fun _ => ?_
    refine Gives.seq (P := fun x => ∃ q, x = .ok q) (Gives.attemptSelect fun _ => ⟨_, rfl⟩) ?_
    rintro _ ⟨q, rfl⟩
    exact Gives.ret (by simp)

/-- **An item** ends with a receipt of its transaction, if it does not raise. -/
theorem gives_ingest (ho : ∀ c ∈ o, FiledUnder c) :
    (ingestTransactionImpl.code py env p o).Gives (Receipted p.transactionId) := by
  refine Gives.last fun row => ?_
  cases row with
  | some row => exact Gives.seq (gives_ledgerFirst ho row) fun r hr => Gives.ret hr
  | none =>
    refine Gives.seq (Gives.weaken (gives_lookupReceipt ho _)) fun x hx => ?_
    cases x with
    | none => exact gives_ingestNew
    | some r =>
      refine Gives.cond (fun _ => Gives.ret (hx r rfl)) fun _ => ?_
      refine Gives.cond (fun _ => gives_retryStale) fun _ => ?_
      refine Gives.seq (Gives.weaken (gives_staleCheck r)) fun a ha => ?_
      cases a with
      | answered retry =>
        cases retry with
        | true => exact gives_retryStale
        | false => exact Gives.ret (hx r rfl)
      | rolledBack => exact absurd rfl ha

/-! ## The answer of an item -/

/-- A raised item is answered. -/
theorem eval_handleError_answers (s : Submission) (exc : Exn) (db : Db) :
    ∃ r db', (handleError s exc).eval db = (.ok r, db') ∧ r.transactionId = s.id := by
  have hy := yields_eval (fun _ => False) (handleError s exc) db
  obtain ⟨r, hr, -, -, hstored⟩ := handleError_stores hy
  have hget := hstored.resolve_left fun ⟨_, h⟩ => h
  exact ⟨r, _, Prod.ext hr rfl, Table.key_of_get? hget⟩

/-- **Every item is answered**, and the cache stays in order. -/
theorem answers_item (py : Python) {c : IngestPrefetch} (hc : FiledUnder c) (s : Submission) (db : Db) :
    ∃ r db', (ingestItemFitting py c s).eval db = (.ok (r, c.record s.payload r), db') ∧
      r.transactionId = s.id := by
  unfold ingestItemFitting
  rw [eval_bind, eval_attempt]
  dsimp only
  rcases hrun : (ingestFitting py s.env s.payload (some c)).eval ⟨db, db⟩ with ⟨e | ret, cn⟩
  · rw [eval_session_error hrun]
    obtain ⟨r, db', hr, hid⟩ := eval_handleError_answers s e db
    refine ⟨r, db', ?_, hid⟩
    dsimp only
    rw [eval_bind_ok hr]
    rfl
  · rw [eval_session_ok hrun]
    have hcache : ∀ x ∈ some c, FiledUnder x := by
      rintro x ⟨⟩
      exact hc
    have hret : Receipted s.id ret := (gives_ingest hcache).guarded _ _ hrun
    cases ret with
    | live r => exact ⟨r, cn.work, rfl, hret⟩
    | expired => exact hret.elim

/-- The places of the items and the transactions of their receipts. -/
def Answered (items : List Item) (rs : List (Nat × SyncReceipt)) : Prop :=
  List.Forall₂ (fun x y => y.1 = x.1 ∧ y.2.transactionId = x.2.id) items rs

theorem Answered.mem {items : List Item} {rs : List (Nat × SyncReceipt)} {x : Item}
    (h : Answered items rs) (hx : x ∈ items) : ∃ y ∈ rs, y.2.transactionId = x.2.id := by
  induction h with
  | nil => cases hx
  | cons hxy _ ih =>
    rcases List.mem_cons.1 hx with rfl | hx
    · exact ⟨_, List.mem_cons_self, hxy.2⟩
    · obtain ⟨y, hy, hid⟩ := ih hx
      exact ⟨y, List.mem_cons_of_mem _ hy, hid⟩

theorem answers_items (py : Python) {c : IngestPrefetch} (hc : FiledUnder c) (items : List Item) (db : Db) :
    ∃ rs db', (ingestItemsFitting py c items).eval db = (.ok rs, db') ∧ Answered items rs := by
  induction items generalizing c db with
  | nil => exact ⟨[], db, rfl, .nil⟩
  | cons x rest ih =>
    obtain ⟨i, s⟩ := x
    obtain ⟨r, db1, hr, hid⟩ := answers_item py hc s db
    obtain ⟨rs, db2, hrs, hanswered⟩ := ih (hc.record s.payload r) db1
    refine ⟨(i, r) :: rs, db2, ?_, .cons ⟨rfl, hid⟩ hanswered⟩
    unfold ingestItemsFitting
    rw [eval_bind_ok hr]
    dsimp only
    rw [eval_bind_ok hrs, eval_pure]

/-- **A batch** that can be sorted answers its items. -/
theorem answers_batch (py : Python) {subs : List Submission} (hs : Sortable subs) (db : Db) :
    ∃ rs db', (ingestBatchFitting py subs).eval db = (.ok rs, db') ∧
      ∀ s ∈ subs, ∃ r ∈ rs, r.transactionId = s.id := by
  obtain ⟨rs, db', hrs, hanswered⟩ :=
    answers_items py (filedUnder_loaded (subs.map (·.payload)) db) (ordered subs) db
  refine ⟨receiptsByIndex subs.length rs, db', ?_, fun s hmem => ?_⟩
  · unfold ingestBatchFitting
    rw [if_pos hs, eval_bind_ok (eval_reading_load ..), eval_bind_ok hrs]
    rfl
  · have hfst : rs.map Prod.fst = (ordered subs).map Prod.fst := by
      rw [← List.forall₂_eq_eq_eq, List.forall₂_map_left_iff, List.forall₂_map_right_iff]
      exact hanswered.flip.imp fun _ _ h => h.1
    have hplaces : (rs.map Prod.fst).Perm (List.range subs.length) := by
      rw [hfst, ← enumerate_fst]
      exact (ordered_perm subs).map _
    obtain ⟨x, hx, rfl⟩ := List.mem_map.1 ((processed_perm subs).mem_iff.2 hmem)
    obtain ⟨⟨i, r⟩, hr, hid⟩ := hanswered.mem hx
    exact ⟨r, (mem_receiptsByIndex hplaces).2 ⟨i, hr⟩, hid⟩

/-- Otherwise it answers none. -/
theorem eval_batch_unsortable {subs : List Submission} (hs : ¬ Sortable subs) (db : Db) :
    (ingestBatchFitting py subs).eval db = (.error cannotCompare, db) := by
  unfold ingestBatchFitting
  rw [if_neg hs]
  rfl

end Server
