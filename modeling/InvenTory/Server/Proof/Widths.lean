import InvenTory.Server.Proof.Admission
import InvenTory.Server.Requests

/-!
# Rows that are too long

A new item whose movement is admitted is taken by a database that enforces the widths of its columns
exactly if its texts that the request model does not bound fit (`accepts_fitting_iff`). There is a lemma
for each function of ingestion, with what it adds to the condition.
-/

namespace Server

open Relational Sql Sql.Prog Sql.Code Py

variable {db w : Db} {c : Conn Db} {env : Env} {py : Python}

/-! ## Statements -/

theorem all_put {ρ κ : Type} [Keyed ρ κ] [DecidableEq κ] {t : Table ρ} {r : ρ} {f : ρ → Bool}
    (h : t.rows.all f = true) : (t.put r).rows.all f = true ↔ f r = true := by
  rw [List.all_eq_true] at h ⊢
  constructor
  · exact fun hall => hall r (Table.mem_put.2 (.inl rfl))
  · intro hr x hx
    rcases Table.mem_put.1 hx with rfl | ⟨hx, -⟩
    · exact hr
    · exact h x hx

/-- The parts of `Db.fits`. -/
structure Fits (db : Db) : Prop where
  stores : db.stores.rows.all Store.fits = true
  products : db.products.rows.all Product.fits = true
  devices : db.devices.rows.all Device.fits = true
  ledger : db.ledger.rows.all InventoryTransaction.fits = true
  balances : db.balances.rows.all StockBalance.fits = true
  receipts : db.receipts.rows.all SyncReceipt.fits = true
  dayBooks : db.dayBooks.all DayBook.fits = true
  entries : db.entries.all DayBookEntry.fits = true

theorem fits_iff : db.fits = true ↔ Fits db := by
  simp only [Db.fits, Bool.and_eq_true]
  constructor
  · rintro ⟨⟨⟨⟨⟨⟨⟨h1, h2⟩, h3⟩, h4⟩, h5⟩, h6⟩, h7⟩, h8⟩
    exact ⟨h1, h2, h3, h4, h5, h6, h7, h8⟩
  · rintro ⟨h1, h2, h3, h4, h5, h6, h7, h8⟩
    exact ⟨⟨⟨⟨⟨⟨⟨h1, h2⟩, h3⟩, h4⟩, h5⟩, h6⟩, h7⟩, h8⟩

section
variable (h : db.fits = true)
include h

theorem insertStore_fits {r : Store} (hok : db.insertStore r = .ok w) :
    w.fits = true ↔ r.fits = true := by
  unfold Db.insertStore at hok
  split at hok <;> [cases hok; split at hok] <;> cases hok
  have hdb := fits_iff.1 h
  rw [fits_iff, ← all_put (r := r) hdb.stores]
  exact ⟨Fits.stores, fun hs => { hdb with stores := hs }⟩

theorem insertProduct_fits {r : Product} (hok : db.insertProduct r = .ok w) :
    w.fits = true ↔ r.fits = true := by
  unfold Db.insertProduct at hok
  split at hok <;> [cases hok; split at hok] <;> cases hok
  have hdb := fits_iff.1 h
  rw [fits_iff, ← all_put (r := r) hdb.products]
  exact ⟨Fits.products, fun hs => { hdb with products := hs }⟩

theorem insertDevice_fits {r : Device} (hok : db.insertDevice r = .ok w) :
    w.fits = true ↔ r.fits = true := by
  unfold Db.insertDevice at hok
  split at hok <;> [cases hok; split at hok] <;> cases hok
  have hdb := fits_iff.1 h
  rw [fits_iff, ← all_put (r := r) hdb.devices]
  exact ⟨Fits.devices, fun hs => { hdb with devices := hs }⟩

theorem deleteStore_fits {id : String} (hok : db.deleteStore id = .ok w) : w.fits = true := by
  simp only [Db.deleteStore] at hok
  repeat' split at hok
  all_goals cases hok
  have hdb := fits_iff.1 h
  refine fits_iff.2 { hdb with stores := ?_, dayBooks := ?_, entries := ?_ }
  · exact List.all_eq_true.2 fun x hx =>
      List.all_eq_true.1 hdb.stores x (List.mem_of_mem_filter hx)
  · exact List.all_eq_true.2 fun x hx =>
      List.all_eq_true.1 hdb.dayBooks x (List.mem_of_mem_filter hx)
  · exact List.all_eq_true.2 fun x hx =>
      List.all_eq_true.1 hdb.entries x (List.mem_of_mem_filter hx)

theorem insertLedger_fits {r : InventoryTransaction} (hok : db.insertLedger r = .ok w) :
    w.fits = true ↔ r.fits = true := by
  obtain ⟨-, rfl⟩ := insertLedger_ok hok
  have hdb := fits_iff.1 h
  rw [fits_iff, ← all_put (r := r) hdb.ledger]
  exact ⟨Fits.ledger, fun hs => { hdb with ledger := hs }⟩

theorem insertReceipt_fits {r : SyncReceipt} (hok : db.insertReceipt r = .ok w) :
    w.fits = true ↔ r.fits = true := by
  obtain ⟨-, rfl⟩ := insertReceipt_ok hok
  have hdb := fits_iff.1 h
  rw [fits_iff, ← all_put (r := r) hdb.receipts]
  exact ⟨Fits.receipts, fun hs => { hdb with receipts := hs }⟩

theorem insertDayBook_fits {b : DayBook} (hok : db.insertDayBook b = .ok w) :
    w.fits = true ↔ b.fits = true := by
  unfold Db.insertDayBook at hok
  split at hok <;> cases hok
  have hdb := fits_iff.1 h
  have hall : (db.dayBooks ++ [b]).all DayBook.fits = true ↔ b.fits = true := by
    simp [List.all_append, hdb.dayBooks]
  rw [fits_iff, ← hall]
  exact ⟨Fits.dayBooks, fun hs => { hdb with dayBooks := hs }⟩

theorem insertDayBookEntry_fits {e : DayBookEntry} (hok : db.insertDayBookEntry e = .ok w) :
    w.fits = true ↔ e.fits = true := by
  simp only [Db.insertDayBookEntry] at hok
  repeat' split at hok
  all_goals cases hok
  have hdb := fits_iff.1 h
  have hall : (db.entries ++ [e]).all DayBookEntry.fits = true ↔ e.fits = true := by
    simp [List.all_append, hdb.entries]
  rw [fits_iff, ← hall]
  exact ⟨Fits.entries, fun hs => { hdb with entries := hs }⟩

theorem setOpeningBalance_fits (id : String) (total : Int) :
    (db.setOpeningBalance id total).fits = true := by
  have hdb := fits_iff.1 h
  refine fits_iff.2 { hdb with dayBooks := ?_ }
  rw [Db.setOpeningBalance, List.all_map, List.all_eq_true]
  intro b hb
  have hfits := List.all_eq_true.1 hdb.dayBooks b hb
  rw [Function.comp_apply]
  split
  · exact hfits
  · exact hfits

/-- A balance keeps its id and its stock. -/
theorem upsertStockBalance_fits {id : String} {k : StockKey} {d : Int} {now : DateTime}
    (hnew : (⟨id, k, d, now⟩ : StockBalance).fits = true)
    (hok : db.upsertStockBalance id k d now = .ok w) : w.fits = true := by
  have hdb := fits_iff.1 h
  simp only [Db.upsertStockBalance] at hok
  repeat' split at hok
  all_goals cases hok
  · rename_i b hb
    have hfits := List.all_eq_true.1 hdb.balances b (Table.mem_of_get? hb)
    exact fits_iff.2 { hdb with balances := (all_put hdb.balances).2 hfits }
  · exact fits_iff.2 { hdb with balances := (all_put hdb.balances).2 hnew }

end

/-! ## Texts -/

theorem fits_iff_length {n : Nat} {s : String} : fits n s = true ↔ s.length ≤ n :=
  decide_eq_true_iff

theorem length_takeFirst (n : Nat) (s : String) : (takeFirst n s).length ≤ n := by
  rw [takeFirst, String.length_ofList]
  exact List.length_take_le n _

theorem fits_autoStoreName (suffix id : String) : fits 255 (autoStoreName suffix id) = true := by
  have horElse : (orElse (takeFirst 30 suffix) (takeFirst 30 id)).length ≤ 30 := by
    unfold orElse
    split
    · exact length_takeFirst 30 id
    · exact length_takeFirst 30 suffix
  have hprefix : "Auto Store (".length = 12 := rfl
  have hclose : ")".length = 1 := rfl
  rw [fits_iff_length, autoStoreName, String.length_append, String.length_append]
  omega

theorem autoStore_fits {id : String} (hid : fits 36 id = true) (code suffix : String) :
    (⟨id, code, autoStoreName suffix id, true⟩ : Store).fits = true ↔ fits 50 code = true := by
  simp only [Store.fits, hid, fits_autoStoreName, Bool.true_and, Bool.and_true]

/-- The SKU and the name of a product that is created have 88 characters at most. -/
theorem createdProduct_fits {id : String} (hid : fits 36 id = true)
    (hhex : fits 8 env.productHex = true) (owned : Prop) [Decidable owned] :
    let token := takeFirst 80 id
    (⟨id, if owned then "OFFLINE-" ++ takeFirst 70 token ++ "-" ++ env.productHex
      else "OFFLINE-" ++ token, "OFFLINE-PROD-" ++ takeFirst 70 token, "General", "pcs", true⟩ :
      Product).fits = true := by
  intro token
  have htoken : token.length ≤ 80 := length_takeFirst 80 id
  have hshort : (takeFirst 70 token).length ≤ 70 := length_takeFirst 70 token
  have hhex' : env.productHex.length ≤ 8 := fits_iff_length.1 hhex
  have hsku : "OFFLINE-".length = 8 := rfl
  have hname : "OFFLINE-PROD-".length = 13 := rfl
  have hdash : "-".length = 1 := rfl
  simp only [Product.fits, hid, Bool.true_and, Bool.and_eq_true]
  refine ⟨⟨⟨?_, ?_⟩, rfl⟩, rfl⟩
  · rw [fits_iff_length]
    split
    · simp only [String.length_append]
      omega
    · rw [String.length_append]
      omega
  · rw [fits_iff_length, String.length_append]
    omega

theorem autoDevice_fits {id storeId : String} (hid : fits 36 id = true)
    (hstore : fits 36 storeId = true) :
    (⟨id, storeId, "Auto Device (" ++ takeFirst 12 id ++ ")", true⟩ : Device).fits = true := by
  have htake : (takeFirst 12 id).length ≤ 12 := length_takeFirst 12 id
  have hprefix : "Auto Device (".length = 13 := rfl
  have hclose : ")".length = 1 := rfl
  simp only [Device.fits, hid, hstore, Bool.true_and]
  rw [fits_iff_length, String.length_append, String.length_append]
  omega

/-! ## The code of a store -/

section
variable {id : String}

theorem createdCode_free
    (hown : ((db.stores.rows.find? (·.code = derivedCode py id)).map Store.id).filter (· ≠ "") =
      none) :
    createdCode py env db id = derivedCode py id := by
  unfold createdCode
  simp only [hown]

variable {owner : String}
  (hown : ((db.stores.rows.find? (·.code = derivedCode py id)).map Store.id).filter (· ≠ "") =
    some owner)
include hown

theorem createdCode_auto
    (hauto : ((db.stores.get? owner).any fun s => startsWith s.name "Auto Store (") = true) :
    createdCode py env db id = derivedCode py id := by
  unfold createdCode
  simp only [hown, hauto, if_true]

theorem createdCode_taken
    (hauto : ¬ ((db.stores.get? owner).any fun s => startsWith s.name "Auto Store (") = true) :
    createdCode py env db id =
      py.caseMap.upper (takeFirst 12 (derivedCode py id) ++ "-" ++ env.storeHex) := by
  unfold createdCode
  simp only [hown]
  exact if_neg hauto

end

/-! ## Provisioning -/

section
variable (h : c.work.fits = true)
include h

theorem isKnown_checked (cached : Bool) (holds : Db → Bool) :
    Checked Db.fits valueTooLong (isKnown.code cached holds) c True := by
  unfold isKnown.code
  exact .cond (fun _ => .ret h true) fun _ => .select h holds

theorem createStore_checked {id : String} (hid : fits 36 id = true) :
    Checked Db.fits valueTooLong (createStore.code py env id) c
      (fits 50 (createdCode py env c.work id) = true) := by
  have hins : ∀ (c' : Conn Db) (code suffix : String), c'.work.fits = true →
      (fits 50 code = true ↔ fits 50 (createdCode py env c.work id) = true) →
      Checked Db.fits valueTooLong
        (.execute (.insertStore ⟨id, code, autoStoreName suffix id, true⟩) :
          Code SideStatement False _) c'
        (fits 50 (createdCode py env c.work id) = true) := by
    intro c' code suffix hc' hcode
    refine .execute _ fun w hw => ?_
    rw [insertStore_fits hc' hw, autoStore_fits hid, hcode]
  unfold createStore.code
  refine (Checked.seq (.select h _) fun owner c' hsel _ => ?_).congr (iff_of_eq (true_and _))
  rw [eval_select] at hsel
  cases hsel
  generalize hown : Option.filter _ _ = owner
  cases owner with
  | none => exact hins c _ _ h (by rw [createdCode_free hown]; rfl)
  | some owner =>
    refine (Checked.seq (.select h _) fun existing c' hsel _ => ?_).congr (iff_of_eq (true_and _))
    rw [eval_select] at hsel
    cases hsel
    generalize hex : c.work.stores.get? owner = existing
    cases existing with
    | none =>
      exact hins c _ _ h (by rw [createdCode_taken hown (by rw [hex]; exact nofun)]; rfl)
    | some existing =>
      refine .cond (fun hauto => ?_) fun hauto => ?_
      · -- the placeholder gives its code away
        refine (Checked.seq (P := True) ?_ fun _ c' _ hc' => ?_).congr (iff_of_eq (true_and _))
        · exact .execute _ fun w hw => iff_of_true (deleteStore_fits h hw) trivial
        · exact hins c' _ _ hc' (by rw [createdCode_auto hown (by rw [hex]; exact hauto)]; rfl)
      · exact hins c _ _ h (by rw [createdCode_taken hown (by rw [hex]; exact hauto)]; rfl)

omit h in
theorem eval_isKnown_eq (cached : Bool) (holds : Db → Bool) :
    (isKnown cached holds).eval c = (.ok (cached || holds c.work), c) := by
  unfold isKnown
  cases cached with
  | true => rfl
  | false => rw [if_neg nofun, eval_select, Bool.false_or]

/-- What is not known is created. -/
theorem unlessKnown_checked {cached : Bool} {holds : Db → Bool} {create : Tx Unit}
    {x : Code SideStatement False create} {P : Prop}
    (hx : (cached || holds c.work) = false → Checked Db.fits valueTooLong x c P) :
    Checked Db.fits valueTooLong
      ((isKnown.code cached holds).seq fun known =>
        .cond (c := known = true) (fun _ => .ret ()) fun _ => x) c
      ((cached || holds c.work) = false → P) := by
  refine ((isKnown_checked h cached holds).seq fun known c' hknown hc' => ?_).congr
    (iff_of_eq (true_and _))
  rw [eval_isKnown_eq] at hknown
  cases hknown
  refine .cond (fun hk => (Checked.ret h ()).congr ?_) fun hk => ?_
  · exact iff_of_true trivial fun hn => absurd (hk.symm.trans hn) nofun
  · have hk' := Bool.eq_false_iff.2 hk
    exact (hx hk').congr ⟨fun hP _ => hP, fun hP => hP hk'⟩

theorem provisionStore_checked (p : Option IngestPrefetch) {id : String} (hid : fits 36 id = true) :
    Checked Db.fits valueTooLong (provisionStore.code py env p id) c
      (storeKnown p c.work id = false → fits 50 (createdCode py env c.work id) = true) :=
  unlessKnown_checked h fun _ => createStore_checked h hid

theorem provisionProduct_checked (p : Option IngestPrefetch) {id : String}
    (hid : fits 36 id = true) (hhex : fits 8 env.productHex = true) :
    Checked Db.fits valueTooLong (provisionProduct.code env p id) c True := by
  refine (unlessKnown_checked (P := True) h fun _ => ?_).congr (iff_of_true (fun _ => trivial) trivial)
  refine (Checked.seq (.select h _) fun owner c' _ hc' => ?_).congr (iff_of_eq (and_self True))
  refine .execute _ fun w hw => iff_of_true ?_ trivial
  exact (insertProduct_fits hc' hw).2 (createdProduct_fits hid hhex _)

theorem provisionDevice_checked (p : Option IngestPrefetch) {id storeId : String}
    (hid : fits 36 id = true) (hstore : fits 36 storeId = true) :
    Checked Db.fits valueTooLong (provisionDevice.code p id storeId) c True := by
  refine (unlessKnown_checked (P := True) h fun _ => ?_).congr (iff_of_true (fun _ => trivial) trivial)
  refine .execute _ fun w hw => iff_of_true ?_ trivial
  exact (insertDevice_fits h hw).2 (autoDevice_fits hid hstore)

/-! ## The movement -/

/-- The book is of the day, or new. -/
theorem getOrCreateDayBook_checked {storeId : String} {d : DateTime}
    (hid : fits 36 env.dayBookId = true) (hstore : fits 36 storeId = true) :
    Checked Db.fits valueTooLong (getOrCreateDayBook.code env storeId d) c True := by
  refine (Checked.seq (.select h _) fun b c' hsel hc' => ?_).congr (iff_of_eq (and_self True))
  cases b with
  | some b => exact .ret hc' b
  | none =>
    refine (Checked.seq (P := True) ?_ fun _ c2 _ hc2 => .ret hc2 _).congr (iff_of_eq (and_self True))
    refine .execute _ fun w hw => iff_of_true ?_ trivial
    rw [insertDayBook_fits hc' hw, DayBook.fits, hid, hstore]
    rfl

theorem getOrCreateDayBook_id {storeId : String} {d : DateTime} {b : DayBook} {c' : Conn Db}
    (hid : fits 36 env.dayBookId = true)
    (hb : (getOrCreateDayBook env storeId d).eval c = (.ok b, c')) :
    fits 36 b.id = true ∧ c'.work.entries = c.work.entries := by
  unfold getOrCreateDayBook at hb
  rw [eval_select_bind] at hb
  split at hb
  · rename_i x hx
    rw [eval_pure] at hb
    cases hb
    have hfits := List.all_eq_true.1 (fits_iff.1 h).dayBooks _ (List.mem_of_find?_eq_some hx)
    simp only [DayBook.fits, Bool.and_eq_true] at hfits
    exact ⟨hfits.1, rfl⟩
  · obtain ⟨w, hw, hret⟩ := yields_execute_bind (yields_of_eval (F := noFault) hb)
    obtain ⟨he, rfl⟩ := yields_pure hret
    cases he
    refine ⟨hid, ?_⟩
    unfold Db.insertDayBook at hw
    split at hw <;> cases hw
    rfl

theorem addTransactionToDayBook_checked {tx : InventoryTransaction} (henv : env.fits = true)
    (htx : tx.fits = true) (hnew : ∀ e ∈ c.work.entries, e.transactionId ≠ tx.transactionId) :
    Checked Db.fits valueTooLong (addTransactionToDayBook.code env tx) c
      (tx.reasonCode.all (fits 50) = true) := by
  simp only [Env.fits, Bool.and_eq_true] at henv
  simp only [InventoryTransaction.fits, Bool.and_eq_true] at htx
  have hstore : fits 36 tx.storeId = true := by tauto
  refine ((getOrCreateDayBook_checked h henv.1.1.2 hstore).seq fun b c' hget hc' => ?_).congr
    (iff_of_eq (true_and _))
  obtain ⟨hbook, hentries⟩ := getOrCreateDayBook_id h henv.1.1.2 hget
  refine (Checked.seq (.select hc' _) fun e c2 hsel hc2 => ?_).congr (iff_of_eq (true_and _))
  have hnone : c'.work.entries.find? (·.transactionId = tx.transactionId) = none := by
    rw [hentries]
    exact List.find?_eq_none.2 fun e he => by simpa using hnew e he
  rw [eval_select] at hsel
  cases hsel
  generalize List.find? _ _ = found at hnone ⊢
  subst hnone
  refine (Checked.seq (Q := True) ?_ fun _ c3 _ hc3 => ?_).congr (iff_of_eq (and_true _))
  · refine .execute _ fun w hw => ?_
    rw [insertDayBookEntry_fits hc2 hw]
    simp only [DayBookEntry.fits, Bool.and_eq_true]
    tauto
  · refine (Checked.seq (P := True) ?_ fun _ c4 _ hc4 => .ret hc4 _).congr (iff_of_eq (and_self True))
    refine (Checked.seq (.select hc3 _) fun total c4 _ hc4 => ?_).congr (iff_of_eq (and_self True))
    refine .execute _ fun w hw => iff_of_true ?_ trivial
    cases hw
    exact setOpeningBalance_fits hc4 _ _

omit h in
/-- The texts of the payload that the request model bounds. -/
structure Bounded (p : TransactionPayload) : Prop where
  transactionId : fits 36 p.transactionId = true
  storeId : fits 36 p.storeId = true
  productId : fits 36 p.productId = true
  movementType : fits 50 p.movementType = true
  deviceId : fits 36 p.deviceId = true
  stockBucket : fits 50 p.stockBucket = true

/-- The texts that it does not bound. -/
structure TextsFit (p : TransactionPayload) : Prop where
  referenceNumber : p.referenceNumber.all (fits 100) = true
  reasonCode : p.reasonCode.all (fits 50) = true
  transferId : p.transferId.all (fits 36) = true
  purchaseOrderId : p.purchaseOrderId.all (fits 36) = true
  batchId : p.batchId.all (fits 36) = true
  originalTransactionId : p.originalTransactionId.all (fits 36) = true

variable {p : TransactionPayload} {R : Prop}

/-- **The movement** needs its reason to fit the day book. -/
theorem insertMovement_checked (henv : env.fits = true) (hp : Bounded p)
    (hnew : ∀ e ∈ c.work.entries, e.transactionId ≠ p.transactionId) :
    Checked Db.fits valueTooLong (insertMovement.code env R p) c (TextsFit p) := by
  have hbook : p.reasonCode.all (fits 50) = true → p.reasonCode.all (fits 100) = true := by
    cases p.reasonCode with
    | none => exact id
    | some r =>
      simp only [Option.all_some, fits_iff_length]
      omega
  have hrow : (p.ledgerRow env).fits = true ∧ p.reasonCode.all (fits 50) = true ↔ TextsFit p := by
    simp only [InventoryTransaction.fits, TransactionPayload.ledgerRow, Bool.and_eq_true]
    constructor
    · rintro ⟨⟨⟨⟨⟨⟨⟨-, href⟩, -⟩, htr⟩, hpo⟩, hba⟩, hor⟩, hre⟩
      exact ⟨href, hre, htr, hpo, hba, hor⟩
    · rintro ⟨href, hre, htr, hpo, hba, hor⟩
      exact ⟨⟨⟨⟨⟨⟨⟨⟨⟨⟨⟨⟨hp.transactionId, hp.storeId⟩, hp.productId⟩, hp.movementType⟩,
        hp.stockBucket⟩, hp.deviceId⟩, href⟩, hbook hre⟩, htr⟩, hpo⟩, hba⟩, hor⟩, hre⟩
  have hbalance : fits 36 env.balanceId = true := by
    simp only [Env.fits, Bool.and_eq_true] at henv
    exact henv.2
  refine (Checked.seq (.execute _ fun w hw => insertLedger_fits h hw)
    fun _ c1 hins hc1 => ?_).congr hrow
  obtain ⟨hw1, -⟩ := yields_execute_ok (yields_of_eval (F := noFault) hins)
  have hfits : (p.ledgerRow env).fits = true := (insertLedger_fits h hw1).1 hc1
  have hnew1 : ∀ e ∈ c1.work.entries, e.transactionId ≠ p.transactionId := by
    obtain ⟨-, he⟩ := insertLedger_ok hw1
    rw [he]
    exact hnew
  refine (Checked.seq (.mono (addTransactionToDayBook_checked hc1 henv hfits hnew1))
    fun _ c2 _ hc2 => ?_).congr (iff_of_eq (and_true _))
  refine (Checked.seq (P := True) ?_ fun _ c3 _ hc3 => ?_).congr (iff_of_eq (and_self True))
  · refine .execute _ fun w hw => iff_of_true (upsertStockBalance_fits hc2 ?_ hw) trivial
    simp only [StockBalance.fits, TransactionPayload.stock, hbalance, hp.storeId, hp.productId,
      hp.stockBucket, Bool.and_self]
  · refine (Checked.seq (P := True) ?_ fun _ c4 _ hc4 => .ret hc4 _).congr (iff_of_eq (and_self True))
    exact .execute _ fun w hw => iff_of_true ((insertReceipt_fits hc3 hw).2 hp.transactionId) trivial

/-- Its balance can take the movement. -/
theorem checkAndInsert_checked (henv : env.fits = true) (hp : Bounded p) (ha : Admits c.work p)
    (hnew : ∀ e ∈ c.work.entries, e.transactionId ≠ p.transactionId) :
    Checked Db.fits valueTooLong (checkAndInsert.code env R p) c (TextsFit p) := by
  refine .cond (fun hneg => ?_) fun _ => insertMovement_checked h henv hp hnew
  refine (Checked.seq (.select h _) fun current c' hsel _ => ?_).congr (iff_of_eq (true_and _))
  rw [eval_select] at hsel
  cases hsel
  refine .cond (fun hlow => ?_) fun _ => insertMovement_checked h henv hp hnew
  rcases ha with h0 | h0 <;> omega

end

/-! ## The item -/

/-- Entries only go. -/
def FewerEntries (db db' : Db) : Prop := ∀ e ∈ db'.entries, e ∈ db.entries

theorem FewerEntries.trans {a b d : Db} (h : FewerEntries a b) (h' : FewerEntries b d) :
    FewerEntries a d := fun e he => h e (h' e he)

theorem insertStore_entries {r : Store} (hok : db.insertStore r = .ok w) : FewerEntries db w := by
  unfold Db.insertStore at hok
  split at hok <;> [cases hok; split at hok] <;> cases hok
  exact fun _ => id

theorem insertProduct_entries {r : Product} (hok : db.insertProduct r = .ok w) :
    FewerEntries db w := by
  unfold Db.insertProduct at hok
  split at hok <;> [cases hok; split at hok] <;> cases hok
  exact fun _ => id

theorem insertDevice_entries {r : Device} (hok : db.insertDevice r = .ok w) :
    FewerEntries db w := by
  unfold Db.insertDevice at hok
  split at hok <;> [cases hok; split at hok] <;> cases hok
  exact fun _ => id

theorem deleteStore_entries {id : String} (hok : db.deleteStore id = .ok w) : FewerEntries db w := by
  simp only [Db.deleteStore] at hok
  repeat' split at hok
  all_goals cases hok
  exact fun _ => List.mem_of_mem_filter

section
variable {F : Exn → Prop} {c' : Conn Db} {u : Unit} {q : Option IngestPrefetch} {id store : String}

theorem provisionStore_entries (hy : (provisionStore py env q id).Yields F c (.ok u) c') :
    FewerEntries c.work c'.work :=
  isKnown_rel (fun _ _ he => he) (fun _ _ => createStore_rel (fun _ _ _ => .trans)
    (fun _ _ _ => insertStore_entries) fun _ _ _ => deleteStore_entries) hy

theorem provisionProduct_entries (hy : (provisionProduct env q id).Yields F c (.ok u) c') :
    FewerEntries c.work c'.work :=
  isKnown_rel (fun _ _ he => he) (fun _ _ hc => execute_rel (fun _ _ => insertProduct_entries)
    (yields_select_bind hc)) hy

theorem provisionDevice_entries (hy : (provisionDevice q id store).Yields F c (.ok u) c') :
    FewerEntries c.work c'.work :=
  isKnown_rel (fun _ _ he => he) (fun _ _ => execute_rel fun _ _ => insertDevice_entries) hy

end

/-- **A new item** fits if its store and its texts do. -/
theorem ingestNew_checked {p : TransactionPayload} {R : Prop} (q : Option IngestPrefetch)
    (h : c.work.fits = true) (henv : env.fits = true) (hp : Bounded p)
    (hv : validatePayload py p = none) (ha : Admits c.work p)
    (hnew : ∀ e ∈ c.work.entries, e.transactionId ≠ p.transactionId) :
    Checked Db.fits valueTooLong (ingestNew.code py env R q p) c (FitsColumns py env q c.work p) := by
  have hparts : (storeKnown q c.work p.storeId = false →
      fits 50 (createdCode py env c.work p.storeId) = true) ∧ TextsFit p ↔
      FitsColumns py env q c.work p := by
    constructor
    · rintro ⟨hst, ht⟩
      exact ⟨hst, ht.referenceNumber, ht.reasonCode, ht.transferId, ht.purchaseOrderId, ht.batchId,
        ht.originalTransactionId⟩
    · rintro ⟨hst, href, hre, htr, hpo, hba, hor⟩
      exact ⟨hst, href, hre, htr, hpo, hba, hor⟩
  have hproduct : fits 8 env.productHex = true := by
    simp only [Env.fits, Bool.and_eq_true] at henv
    tauto
  unfold ingestNew.code ingestNew
  dsimp only [id]
  generalize validatePayload py p = v at hv ⊢
  subst hv
  have hstore : Checked Db.fits valueTooLong (provisionStore.code py env q p.storeId) c
      (storeKnown q c.work p.storeId = false → fits 50 (createdCode py env c.work p.storeId) = true) :=
    provisionStore_checked h q hp.storeId
  refine (Checked.seq hstore.mono fun _ c1 h1 hc1 => ?_).congr hparts
  have hy1 := yields_of_eval (F := noFault) h1
  refine (Checked.seq (provisionProduct_checked hc1 q hp.productId hproduct).mono
    fun _ c2 h2 hc2 => ?_).congr (iff_of_eq (true_and _))
  have hy2 := yields_of_eval (F := noFault) h2
  refine (Checked.seq (provisionDevice_checked hc2 q hp.deviceId hp.storeId).mono
    fun _ c3 h3 hc3 => ?_).congr (iff_of_eq (true_and _))
  have hy3 := yields_of_eval (F := noFault) h3
  have hbalances : c3.work.balances = c.work.balances := by
    rw [(provisionDevice_frame hy3).balances, (provisionProduct_frame hy2).balances,
      (provisionStore_frame hy1).balances]
  have hentries : FewerEntries c.work c3.work :=
    ((provisionStore_entries hy1).trans (provisionProduct_entries hy2)).trans
      (provisionDevice_entries hy3)
  refine checkAndInsert_checked hc3 henv hp ?_ fun e he => hnew e (hentries e he)
  unfold Admits
  rwa [show c3.work.quantity = c.work.quantity from funext (quantity_congr hbalances)]

/-! ### Nothing is found of it -/

theorem eval_lookupReceipt_new {q : Option IngestPrefetch} {tx : String} (hn : New q c.work tx) :
    (lookupReceipt q tx).eval c = (.ok none, c) := by
  cases q with
  | none =>
    have hsel : (lookupReceipt none tx).eval c = (.ok (c.work.receipts.get? tx), c) := rfl
    rw [hsel, hn.receipt]
  | some x => rw [eval_lookupReceipt ((hn.cached x rfl).trans hn.receipt.symm), hn.receipt]

theorem selectLedgerRow_checked (h : c.work.fits = true) (q : Option IngestPrefetch) (id : String) :
    Checked Db.fits valueTooLong (selectLedgerRow.code q id) c True := by
  unfold selectLedgerRow.code
  exact .cond (fun _ => .ret h none) fun _ => .mapError (.select h _)

theorem lookupReceipt_checked (h : c.work.fits = true) {q : Option IngestPrefetch} {tx : String}
    (hn : New q c.work tx) : Checked Db.fits valueTooLong (lookupReceipt.code q tx) c True := by
  unfold lookupReceipt.code
  cases q with
  | none => exact .select h _
  | some x =>
    have hx := hn.cached x rfl
    unfold lookupReceipt
    dsimp only [id]
    generalize x.receiptByTx tx = r at hx ⊢
    subst hx
    exact .ret h none

/-- **What a new item comes to** where widths are enforced. -/
theorem ingestTransactionImpl_checked {p : TransactionPayload} {q : Option IngestPrefetch}
    (h : c.work.fits = true) (henv : env.fits = true) (hp : Bounded p)
    (hv : validatePayload py p = none) (ha : Admits c.work p) (hn : New q c.work p.transactionId) :
    Checked Db.fits valueTooLong (ingestTransactionImpl.code py env p q) c
      (FitsColumns py env q c.work p) := by
  unfold ingestTransactionImpl.code
  refine (Checked.seq (.mono (selectLedgerRow_checked h q _)) fun row c1 h1 _ => ?_).congr
    (iff_of_eq (true_and _))
  rw [eval_selectLedgerRow q hn.ledger] at h1
  cases h1
  refine (Checked.seq (.mono (lookupReceipt_checked h hn)) fun r c2 h2 _ => ?_).congr
    (iff_of_eq (true_and _))
  rw [eval_lookupReceipt_new hn] at h2
  cases h2
  exact ingestNew_checked q h henv hp hv ha hn.entries

/-! ## The request -/

theorem TransactionPushItem.bounded {i : TransactionPushItem} (hi : i.valid = true) (user : Int) :
    Bounded (i.payload user) := by
  simp only [TransactionPushItem.valid, nonempty, Bool.and_eq_true] at hi
  exact ⟨by tauto, by tauto, by tauto, by tauto, by tauto, by tauto⟩

theorem accepts_iff (x : Tx Returned) :
    Accepts x db ↔ ∃ r c', x.eval ⟨db, db⟩ = (.ok (.live r), c') ∧ r.accepted = true := by
  constructor
  · rintro ⟨r, db', h, hacc⟩
    rcases hx : x.eval ⟨db, db⟩ with ⟨e | a, c'⟩
    · rw [eval_session_error hx] at h
      cases h
    · rw [eval_session_ok hx] at h
      cases h
      exact ⟨r, c', rfl, hacc⟩
  · rintro ⟨r, c', h, hacc⟩
    exact ⟨r, c'.work, eval_session_ok h, hacc⟩

/-- **An item that the request model and the validation let through** is accepted by a database that
enforces the widths of its columns if and only if it is accepted by one that does not, and the texts
that nothing has bounded fit. -/
theorem accepts_fitting_iff {i : TransactionPushItem} {user : Int} {q : Option IngestPrefetch}
    (hi : i.valid = true) (hv : validatePayload py (i.payload user) = none)
    (ha : Admits db (i.payload user)) (hn : New q db i.transactionId) (hdb : db.fits = true)
    (henv : env.fits = true) :
    Accepts (ingestFitting py env (i.payload user) q) db ↔
      Accepts (ingestTransactionImpl py env (i.payload user) q) db ∧
        FitsColumns py env q db (i.payload user) := by
  have hc := ingestTransactionImpl_checked (c := ⟨db, db⟩) hdb henv (i.bounded hi user) hv ha hn
  rw [accepts_iff, accepts_iff]
  constructor
  · rintro ⟨r, c', hr, hacc⟩
    obtain ⟨hx, hfits⟩ := (hc.iff _ _).1 hr
    exact ⟨⟨r, c', hx, hacc⟩, hfits⟩
  · rintro ⟨⟨r, c', hr, hacc⟩, hfits⟩
    exact ⟨r, c', (hc.iff _ _).2 ⟨hr, hfits⟩, hacc⟩

namespace Sample

/-- 40 units returned under a reason. -/
def returned (reasonCode : Option String) : TransactionPushItem where
  transactionId := "T-1"
  storeId := "STORE-1"
  productId := "P-1"
  movementType := "RECEIPT"
  quantityDelta := 40
  occurredAt := ⟨0, some 0⟩
  userId := 1
  deviceId := "D-1"
  stockBucket := "AVAILABLE"
  referenceNumber := none
  reasonCode := reasonCode
  transferId := none
  purchaseOrderId := none
  batchId := none
  clientSequence := none
  originalTransactionId := none

/-- A reason of 52 characters. -/
def longReason : String := "Customer returned the goods at the branch in Aveiro."

end Sample

open Sample in
theorem accepts_fitting_iff_returned :
    Accepts (ingestFitting python Sample.env ((returned none).payload 1) none) .empty ↔
      Accepts (ingestTransactionImpl python Sample.env ((returned none).payload 1) none) .empty ∧
        FitsColumns python Sample.env none .empty ((returned none).payload 1) :=
  accepts_fitting_iff (by decide +kernel) (by decide +kernel) (.inl (by decide))
    ⟨rfl, rfl, nofun, nofun⟩ (by decide +kernel) (by decide +kernel)

/-- What a session answers: whether its receipt is accepted, or the exception. -/
def outcome (x : Tx Returned) (db : Db) : Exn ⊕ Bool :=
  match ((session x).eval db).1 with
  | .ok (.live r) => .inr r.accepted
  | .ok .expired => .inr false
  | .error e => .inl e

theorem accepts_of_outcome {x : Tx Returned} (h : outcome x db = .inr true) : Accepts x db := by
  rcases hx : (session x).eval db with ⟨e | r | _, db'⟩ <;> simp only [outcome, hx] at h
  · cases h
  · exact ⟨r, db', hx, Sum.inr.inj h⟩
  · cases h

theorem refused_of_outcome {x : Tx Returned} {e : Exn} (h : outcome x db = .inl e) :
    (session x).eval db = (.error e, db) ∧ ¬ Accepts x db := by
  rcases hx : x.eval ⟨db, db⟩ with ⟨e' | r | _, c'⟩
  · have hs := eval_session_error hx
    simp only [outcome, hs] at h
    cases h
    refine ⟨hs, fun ⟨r, db', hr, _⟩ => ?_⟩
    rw [hs] at hr
    cases hr
  · simp only [outcome, eval_session_ok hx] at h
    cases h
  · simp only [outcome, eval_session_ok hx] at h
    cases h

open Sample in
/-- The ledger has room for the reason and the day book does not. The item is refused with a reason
that is retried. -/
theorem long_reason_refused :
    (returned longReason).valid = true ∧
      validatePayload python ((returned longReason).payload 1) = none ∧
      Admits .empty ((returned longReason).payload 1) ∧ New none .empty "T-1" ∧
      Accepts (ingestTransactionImpl python Sample.env ((returned longReason).payload 1) none)
        .empty ∧
      (session (ingestFitting python Sample.env ((returned longReason).payload 1) none)).eval
        .empty = (.error valueTooLong, .empty) ∧
      ¬ Accepts (ingestFitting python Sample.env ((returned longReason).payload 1) none) .empty ∧
      isServerInternalErrorReason python (some (unexpectedError valueTooLong)) = true := by
  refine ⟨by decide +kernel, by decide +kernel, .inl (by decide), ⟨rfl, rfl, nofun, nofun⟩,
    accepts_of_outcome ?_, and_assoc.1 ⟨refused_of_outcome ?_, by decide +kernel⟩⟩
  · decide +kernel
  · decide +kernel

end Server
