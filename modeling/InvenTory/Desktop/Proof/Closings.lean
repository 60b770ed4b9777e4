import InvenTory.Desktop.Proof.DayBooks
import InvenTory.Desktop.Proof.Referenced

/-!
# The day books over runs

A transfer changes what a store has available today without closing its day book of today, and a
correction of an earlier transaction closes that of today only, while those since the day of the
transaction are now wrong. In every run without such a step (`BookCommand.Covers`) each closing balance is
what the transactions up to its day add up to (`closing_to_date`).
-/

namespace Desktop

open Relational Sql Sql.Prog
open Server (StockKey)

/-! ## Commands with their day book -/

inductive BookCommand
  | command (cmd : Command)
  | markTransferException (transferId : String) (notes : Option String)

namespace BookCommand

variable (rs : Rust) (clk : Clock)

def run : BookCommand → Prog String BooksDb Unit
  | .command (.receiveStock input) => forget (Books.receiveStock clk input)
  | .command (.sellStock input) => forget (Books.sellStock clk input)
  | .command (.returnStock input) => forget (Books.returnStock rs clk input)
  | .command (.moveStockBucket input) => forget (Books.moveStockBucket rs clk input)
  | .command (.adjustStock input) => forget (Books.adjustStock rs clk input)
  | .command (.createTransfer input) => onBooks (forget (createTransfer clk input))
  | .command (.dispatchTransfer t user device) =>
    onBooks (forget (dispatchTransfer clk t user device))
  | .command (.receiveTransfer t user device) =>
    onBooks (forget (receiveTransfer clk t user device))
  | .command (.cancelTransfer t user device) => onBooks (forget (cancelTransfer clk t user device))
  | .command (.updateTransaction input) => forget (Books.updateTransaction clk input)
  | .command (.deleteTransaction t) => Books.deleteTransaction clk t
  | .markTransferException t notes => onBooks (forget (Desktop.markTransferException clk t notes))

/-- The store whose day book is closed, and what the command adds to the available stock there. -/
def closes (d : Db) : BookCommand → Option (String × Int)
  | .command (.receiveStock input) => some (input.storeId, input.quantity.toInt)
  | .command (.sellStock input) => some (input.storeId, (-input.quantity).toInt)
  | .command (.returnStock input) =>
    some (input.storeId, if input.bucket rs = "AVAILABLE" then (input.delta rs).toInt else 0)
  | .command (.moveStockBucket input) => some (input.storeId,
    (if rs.toUppercase (trim input.fromBucket) = "AVAILABLE" then (-input.quantity).toInt else 0) +
      if rs.toUppercase (trim input.toBucket) = "AVAILABLE" then input.quantity.toInt else 0)
  | .command (.adjustStock input) => some (input.storeId, input.quantityDelta.toInt)
  | .command (.updateTransaction input) => (d.transactions.get? input.transactionId).map fun r =>
    (r.storeId, if r.stockBucket = "AVAILABLE" then input.quantityDelta.toInt - r.quantityDelta else 0)
  | .command (.deleteTransaction id) => (d.transactions.get? id).map fun r =>
    (r.storeId, if r.stockBucket = "AVAILABLE" then -r.quantityDelta else 0)
  | _ => none

/-- The days from `since` on for which the store has a day book, if there are any: only today. -/
def OnlyToday (db : BooksDb) (storeId : String) (since : Instant) : Prop :=
  ∀ b ∈ db.dayBooks.rows, b.storeId = storeId → bookDate since ≤ b.bookDate →
    b.bookDate = bookDate clk.now

/-- The store has no day book of today. -/
def NotToday (db : BooksDb) (storeId : String) : Prop :=
  db.dayBooks.get? (storeId, bookDate clk.now) = none

/-- A transfer does not work on a store that has a day book of today; a correction of available stock
does not on one that has a day book of an earlier day, since the transaction. -/
def Covers (db : BooksDb) : BookCommand → Prop
  | .command (.dispatchTransfer id _ _) => ∀ t, db.stock.transfers.get? id = some t →
    NotToday clk db t.sourceStoreId
  | .command (.receiveTransfer id _ _) => ∀ t, db.stock.transfers.get? id = some t →
    NotToday clk db t.destinationStoreId
  | .command (.cancelTransfer id _ _) => ∀ t, db.stock.transfers.get? id = some t →
    t.status ∈ ["DISPATCHED", "EXCEPTION"] → NotToday clk db t.sourceStoreId
  | .command (.updateTransaction input) => ∀ r, db.stock.transactions.get? input.transactionId = some r →
    r.stockBucket = "AVAILABLE" → input.quantityDelta.toInt ≠ r.quantityDelta →
      OnlyToday clk db r.storeId r.occurredAt
  | .command (.deleteTransaction id) => ∀ r, db.stock.transactions.get? id = some r →
    r.stockBucket = "AVAILABLE" → r.quantityDelta ≠ 0 → OnlyToday clk db r.storeId r.occurredAt
  | _ => True

/-- The numbers are `i32`s: what is corrected by, and what the store has available then. -/
structure Fits (db : BooksDb) (cmd : BookCommand) : Prop where
  correction : ∀ c, cmd = .command c → c.Fits db.stock
  closing : ∀ storeId n, cmd.closes rs db.stock = some (storeId, n) →
    -2 ^ 31 ≤ db.availableStock storeId + n ∧ db.availableStock storeId + n < 2 ^ 31

end BookCommand

/-- The databases that commands lead to from the empty one, each of them successful and with `ok`; the
days do not decrease. -/
inductive BooksReached (rs : Rust) (ok : Clock → BooksDb → BookCommand → Prop) : Int → BooksDb → Prop
  | empty (date : Int) : BooksReached rs ok date .empty
  | call {date : Int} {db db' : BooksDb} (clk : Clock) (cmd : BookCommand)
    (h : BooksReached rs ok date db) (hdate : date ≤ bookDate clk.now) (hok : ok clk db cmd)
    (hrun : (cmd.run rs clk).eval db = (.ok (), db')) : BooksReached rs ok (bookDate clk.now) db'

/-! ## The invariant -/

/-- What holds on the day `date`, after the last command. -/
structure Balanced (date : Int) (db : BooksDb) : Prop where
  projects : Projects db.stock
  referenced : Referenced db.stock
  dated : ∀ r ∈ db.stock.transactions.rows, bookDate r.occurredAt ≤ date
  booked : ∀ b ∈ db.dayBooks.rows, b.bookDate ≤ date
  closed : ∀ b ∈ db.dayBooks.rows, b.closingBalance.toInt = db.stock.ledgerTo b.storeId b.bookDate

theorem balanced_empty (date : Int) : Balanced date .empty where
  projects := projects_empty
  referenced := referenced_empty
  dated := List.forall_mem_nil _
  booked := List.forall_mem_nil _
  closed := List.forall_mem_nil _

namespace Balanced

variable {date today : Int} {db db' : BooksDb} {d : Db} {k : String × Int}

theorem later (h : Balanced date db) (hdate : date ≤ today) : Balanced today db where
  projects := h.projects
  referenced := h.referenced
  dated r hr := (h.dated r hr).trans hdate
  booked b hb := (h.booked b hb).trans hdate
  closed := h.closed

/-- What has changed in the ledger is not in a day book. -/
theorem unbooked (h : Balanced today db) (hp : Projects d) (href : Referenced d)
    (hdated : ∀ r ∈ d.transactions.rows, bookDate r.occurredAt ≤ today)
    (hledger : ∀ b ∈ db.dayBooks.rows, d.ledgerTo b.storeId b.bookDate =
      db.stock.ledgerTo b.storeId b.bookDate) : Balanced today { db with stock := d } where
  projects := hp
  referenced := href
  dated := hdated
  booked := h.booked
  closed b hb := (h.closed b hb).trans (hledger b hb).symm

/-- What has changed in the ledger is in the day book that is closed, if it is in any. -/
theorem refreshed (h : Balanced today db) (hp : Projects d) (href : Referenced d)
    (hdated : ∀ r ∈ d.transactions.rows, bookDate r.occurredAt ≤ today) {storeId : String} {n : Int}
    (hledger : ∀ b ∈ db.dayBooks.rows, key b ≠ (storeId, today) →
      d.ledgerTo b.storeId b.bookDate = db.stock.ledgerTo b.storeId b.bookDate)
    (hadded : d.ledgerTo storeId today = db.stock.ledgerTo storeId today + n)
    (hfits : -2 ^ 31 ≤ db.availableStock storeId + n ∧ db.availableStock storeId + n < 2 ^ 31)
    (hr : Refreshed (storeId, today) { db with stock := d } db') : Balanced today db' := by
  have hbook : ∀ b ∈ db'.dayBooks.rows, key b = (storeId, today) ∨ b ∈ db.dayBooks.rows :=
    fun b hb => (hr.books b hb).imp And.left And.right
  refine ⟨hr.stock ▸ hp, hr.stock ▸ href, hr.stock ▸ hdated, fun b hb => ?_, fun b hb => ?_⟩
  · rcases hbook b hb with hk | hb
    · exact le_of_eq (congrArg Prod.snd hk)
    · exact h.booked b hb
  · rw [hr.stock]
    rcases hr.books b hb with ⟨hk, hc⟩ | ⟨hk, hb⟩
    · have hstore : b.storeId = storeId := congrArg Prod.fst hk
      have hday : b.bookDate = today := congrArg Prod.snd hk
      have hsum : ({ db with stock := d } : BooksDb).availableStock storeId =
          db.availableStock storeId + n := by
        rw [availableStock_eq { db with stock := d } hp hdated, hadded,
          availableStock_eq db h.projects h.dated]
      rw [hc, BooksDb.closing, hsum, Db.readI32, if_pos hfits, hstore, hday, hadded,
        ← availableStock_eq db h.projects h.dated]
      exact Int32.toInt_ofInt_of_le hfits.1 hfits.2
    · exact (h.closed b hb).trans (hledger b hb hk).symm

/-- A transaction of today is in no day book but that of its store of today. -/
theorem ledger_of_today (h : Balanced today db) {rows : List InventoryTransaction} {now : Instant}
    {storeId : String} (hnow : bookDate now = today) (hrec : RecordsAll now rows db.stock d)
    (hstore : ∀ r ∈ rows, r.storeId = storeId) :
    ∀ b ∈ db.dayBooks.rows, key b ≠ (storeId, today) →
      d.ledgerTo b.storeId b.bookDate = db.stock.ledgerTo b.storeId b.bookDate := by
  intro b hb hne
  rw [hrec.ledgerTo, addedTo_eq_zero, add_zero]
  intro r hr hs
  rw [(hrec.entered r hr).1, hnow]
  refine lt_of_le_of_ne (h.booked b hb) fun hday => hne ?_
  exact Prod.ext (hs.symm.trans (hstore r hr)) hday

theorem dated_of_records (h : Balanced today db) {rows : List InventoryTransaction} {now : Instant}
    (hnow : bookDate now = today) (hrec : RecordsAll now rows db.stock d) :
    ∀ r ∈ d.transactions.rows, bookDate r.occurredAt ≤ today := by
  intro r hr
  rcases hrec.old_or_new r hr with hr | hr
  · exact h.dated r hr
  · exact le_of_eq (by rw [hr, hnow])

/-! ## Commands -/

variable {clk : Clock} {F : String → Prop} {α : Type}

/-- Movements of one store, whose day book is closed then. -/
theorem recorded (h : Balanced (bookDate clk.now) db) {rows : List InventoryTransaction}
    {storeId : String} {n : Int} (hrec : RecordsAll clk.now rows db.stock d)
    (hstore : ∀ r ∈ rows, r.storeId = storeId) (href : Referenced d)
    (hn : addedTo rows storeId (bookDate clk.now) = n)
    (hfits : -2 ^ 31 ≤ db.availableStock storeId + n ∧ db.availableStock storeId + n < 2 ^ 31)
    (hr : Refreshed (storeId, bookDate clk.now) { db with stock := d } db') :
    Balanced (bookDate clk.now) db' := by
  refine h.refreshed (h.projects.records hrec.records) href (h.dated_of_records rfl hrec)
    (h.ledger_of_today rfl hrec hstore) ?_ hfits hr
  rw [hrec.ledgerTo, hn]

/-- A movement that is recorded for a transfer goes into no day book. -/
theorem carried (h : Balanced (bookDate clk.now) db) {storeId : String}
    (hrec : CarriesFor clk.now storeId db.stock d) (href : Referenced d)
    (hbook : BookCommand.NotToday clk db storeId) :
    Balanced (bookDate clk.now) { db with stock := d } := by
  obtain ⟨r, hstore, hrec⟩ := hrec
  refine h.unbooked (h.projects.records hrec.records) href (h.dated_of_records rfl hrec)
    fun b hb => h.ledger_of_today rfl hrec (List.forall_mem_singleton.2 hstore) b hb fun he => ?_
  have hget := Table.get?_of_mem hb
  rw [he, hbook] at hget
  cases hget

theorem same (h : Balanced (bookDate clk.now) db) (hs : SameStock db.stock d) (href : Referenced d) :
    Balanced (bookDate clk.now) { db with stock := d } :=
  h.unbooked (h.projects.same hs) href (hs.transactions.symm ▸ h.dated) fun b _ =>
    ledgerTo_congr hs.transactions b.storeId b.bookDate

end Balanced

theorem isSome_of_mem {d : Db} {r : InventoryTransaction} (h : r ∈ d.transactions.rows) :
    (d.transactions.get? r.transactionId).isSome := by
  rw [show r.transactionId = key r from rfl, Table.get?_of_mem h]
  rfl

/-! ## Runs of programs -/

section
variable {clk : Clock} {db db' : BooksDb} {α : Type}

theorem eval_onBooks (p : Prog String Db α) (db : BooksDb) :
    (onBooks p).eval db = ((p.eval db.stock).1, { db with stock := (p.eval db.stock).2 }) :=
  eval_zoom _ _ p db

theorem eval_bind_inv {σ β : Type} {p : Prog String σ α} {k : α → Prog String σ β} {s s' : σ} {b : β}
    (h : (p >>= k).eval s = (.ok b, s')) :
    ∃ a s1, p.eval s = (.ok a, s1) ∧ (k a).eval s1 = (.ok b, s') := by
  rw [eval_bind] at h
  rcases hp : p.eval s with ⟨_ | a, s1⟩
  · rw [hp] at h
    cases h
  · rw [hp] at h
    exact ⟨a, s1, rfl, h⟩

theorem forget_ok {σ : Type} {p : Prog String σ α} {s s' : σ}
    (h : (forget p).eval s = (.ok (), s')) : ∃ a, p.eval s = (.ok a, s') := by
  obtain ⟨a, s1, hp, hk⟩ := eval_bind_inv h
  cases hk
  exact ⟨a, hp⟩

theorem onBooks_ok {p : Prog String Db α} {a : α} (h : (onBooks p).eval db = (.ok a, db')) :
    ∃ d, p.eval db.stock = (.ok a, d) ∧ db' = { db with stock := d } := by
  rw [eval_onBooks] at h
  obtain ⟨hresult, hstate⟩ := Prod.mk.inj h
  exact ⟨_, Prod.ext hresult rfl, hstate.symm⟩

/-- A command with its day book is the command, and then the day book. -/
theorem withDayBook_ok {p : Prog String Db InventoryTransaction}
    (h : (forget (withDayBook p)).eval db = (.ok (), db')) : ∃ r d, p.eval db.stock = (.ok r, d) ∧
      (enterInDayBook r).eval { db with stock := d } = (.ok (), db') := by
  obtain ⟨r, h⟩ := forget_ok h
  obtain ⟨r', db1, h1, h⟩ := eval_bind_inv h
  obtain ⟨d, hp, rfl⟩ := onBooks_ok h1
  obtain ⟨_, db2, h2, h3⟩ := eval_bind_inv h
  cases h3
  exact ⟨r, d, hp, h2⟩

theorem moveStockBucket_inv {rs : Rust} {input : MoveStockBucketInput}
    (h : (forget (Books.moveStockBucket rs clk input)).eval db = (.ok (), db')) :
    ∃ rows d, (moveStockBucket rs clk input).eval db.stock = (.ok rows, d) ∧
      (Books.enterAllInDayBook rows).eval { db with stock := d } = (.ok (), db') := by
  obtain ⟨rows, h⟩ := forget_ok h
  obtain ⟨rows', db1, h1, h⟩ := eval_bind_inv h
  obtain ⟨d, hp, rfl⟩ := onBooks_ok h1
  obtain ⟨_, db2, h2, h3⟩ := eval_bind_inv h
  cases h3
  exact ⟨rows, d, hp, h2⟩

theorem context_ok {σ : Type} {label : String} {p : Prog String σ α} {s s' : σ} {a : α}
    (h : (context label p).eval s = (.ok a, s')) : p.eval s = (.ok a, s') := by
  rw [context, eval_mapError] at h
  obtain ⟨hresult, hstate⟩ := Prod.mk.inj h
  refine Prod.ext ?_ hstate
  cases hp : (p.eval s).1 with
  | error e =>
    rw [hp] at hresult
    cases hresult
  | ok a' =>
    rw [hp] at hresult
    exact hresult

/-- In the stock tables a deletion does what it does without day books. -/
theorem deleteRow_views (clk : Clock) (t : String) :
    Views BooksDb.stock (fun _ => ()) (Books.deleteRow clk t) (deleteTransaction clk t) := by
  have hzoom : ∀ {β : Type} (q : Prog String Db β), Views BooksDb.stock id (onBooks q) q :=
    fun q => .zoom (fun _ _ => rfl) q
  have hentries : Views BooksDb.stock id (autocommit fun db : BooksDb =>
      (.ok (db.deleteEntries t) : Except String BooksDb)) (autocommit .ok) := .autocommit fun _ => rfl
  refine .seq (hzoom (selectTransaction t)) fun row => ?_
  cases row with
  | none => exact .ret _ _
  | some x =>
    refine .seq ((hzoom _).mapError _) fun _ => ?_
    refine .seq (hentries.mapError _) fun _ => ?_
    refine .seq ((hzoom _).mapError _) fun _ => ?_
    exact (hzoom _).before fun _ => rfl

theorem deleteRow_ok {t : String} {o : Option String} {db1 : BooksDb}
    (h : (Books.deleteRow clk t).eval db = (.ok o, db1)) :
    o = (db.stock.transactions.get? t).map InventoryTransaction.storeId ∧
      db1.dayBooks = db.dayBooks ∧ (deleteTransaction clk t).eval db.stock = (.ok (), db1.stock) := by
  have hview := deleteRow_views clk t db
  rw [h] at hview
  suffices hrow : o = (db.stock.transactions.get? t).map InventoryTransaction.storeId ∧
      db1.dayBooks = db.dayBooks from ⟨hrow.1, hrow.2, hview⟩
  obtain ⟨row, db2, h1, h2⟩ := eval_bind_inv h
  obtain ⟨d, hp, rfl⟩ := onBooks_ok h1
  have hy : (selectTransaction t).Yields (fun _ => False) db.stock (.ok row) d := yields_of_eval hp
  obtain ⟨-, ⟨rfl, hn⟩ | ⟨r, q, rfl, hr, -⟩⟩ := selectTransaction_ok hy
  · cases h2
    rw [hn]
    exact ⟨rfl, rfl⟩
  · obtain ⟨_, db3, h3, h2⟩ := eval_bind_inv h2
    obtain ⟨_, -, rfl⟩ := onBooks_ok (context_ok h3)
    obtain ⟨_, db4, h4, h2⟩ := eval_bind_inv h2
    cases context_ok h4
    obtain ⟨_, db5, h5, h2⟩ := eval_bind_inv h2
    obtain ⟨_, -, rfl⟩ := onBooks_ok (context_ok h5)
    obtain ⟨_, db6, h6, h2⟩ := eval_bind_inv h2
    obtain ⟨_, -, rfl⟩ := onBooks_ok h6
    cases h2
    rw [hr]
    exact ⟨rfl, rfl⟩

/-- A deletion closes the day book of today, if there is one. -/
theorem deleteTransaction_inv {t : String}
    (h : (Books.deleteTransaction clk t).eval db = (.ok (), db')) :
    ∃ d, (deleteTransaction clk t).eval db.stock = (.ok (), d) ∧
      match db.stock.transactions.get? t with
      | none => db'.stock = d ∧ db'.dayBooks = db.dayBooks
      | some r => Refreshed (r.storeId, bookDate clk.now) { db with stock := d } db' := by
  obtain ⟨o, db1, h1, h2⟩ := eval_bind_inv h
  obtain ⟨ho, hbooks, hd⟩ := deleteRow_ok h1
  refine ⟨db1.stock, hd, ?_⟩
  cases hr : db.stock.transactions.get? t with
  | none =>
    rw [hr] at ho
    subst ho
    obtain rfl : db1 = db' := (Prod.mk.inj h2).2
    exact ⟨rfl, hbooks⟩
  | some r =>
    rw [hr] at ho
    subst ho
    obtain ⟨c, db2, h3, h4⟩ := eval_bind_inv h2
    rw [eval_selectClosing] at h3
    cases h3
    cases h4
    exact (setClosing_refreshed db1 (r.storeId, bookDate clk.now)).of_before rfl fun b hb _ => hbooks ▸ hb

end

/-! ## The commands -/

theorem markTransferException_same {clk : Clock} {id : String} {notes : Option String} {d d' : Db}
    {F : String → Prop} {t : Transfer}
    (h : (markTransferException clk id notes).Yields F d (.ok t) d') :
    SameStock d d' ∧ d'.products = d.products := by
  obtain ⟨t0, d1, h1, h'⟩ := yields_bind_ok h
  obtain ⟨rfl, -⟩ := selectTransfer_ok h1
  obtain ⟨-, h2⟩ := yields_require_bind h'
  obtain ⟨_, d2, h3, h4⟩ := yields_bind_ok h2
  obtain ⟨-, rfl⟩ := yields_pure h4
  cases yields_autocommit_ok (yields_context_ok h3)
  unfold Db.updateTransfer
  split <;> exact ⟨⟨rfl, rfl, rfl⟩, rfl⟩

namespace Balanced

variable {rs : Rust} {clk : Clock} {db db' : BooksDb}

/-- A movement with its day book. -/
theorem withDayBook (h : Balanced (bookDate clk.now) db) {p : Prog String Db InventoryTransaction}
    (hkeep : Keeping p) {stock : StockKey} {delta n : Int}
    (hpost : ∀ {r d}, p.Yields (fun _ => False) db.stock (.ok r) d →
      Posts clk.now stock delta r db.stock d)
    (hn : n = if stock.stockBucket = "AVAILABLE" then delta else 0)
    (hfits : -2 ^ 31 ≤ db.availableStock stock.storeId + n ∧
      db.availableStock stock.storeId + n < 2 ^ 31)
    (hrun : (forget (withDayBook p)).eval db = (.ok (), db')) : Balanced (bookDate clk.now) db' := by
  obtain ⟨r, d, hp, henter⟩ := withDayBook_ok hrun
  have hy : p.Yields (fun _ => False) db.stock (.ok r) d := yields_of_eval hp
  have hposts := hpost hy
  have href := hkeep _ _ _ _ hy h.referenced
  obtain ⟨hnow, hmem⟩ := hposts.records.entered r (List.mem_singleton_self r)
  have hstore : r.storeId = stock.storeId := congrArg StockKey.storeId hposts.stock
  have hbucket : r.stockBucket = stock.stockBucket := congrArg StockKey.stockBucket hposts.stock
  obtain ⟨db1, hdb1, hr⟩ := eval_enterInDayBook { db with stock := d }
    (isSome_of_mem hmem) (href r hmem)
  rw [henter] at hdb1
  cases hdb1
  rw [hnow, hstore] at hr
  refine h.recorded hposts.records (List.forall_mem_singleton.2 hstore) href ?_ hfits hr
  rw [hn, addedTo, List.map_singleton, List.sum_singleton, InventoryTransaction.availableTo, hnow,
    hposts.delta, hstore, hbucket]
  simp

/-- Both movements of a move close the same day book. -/
theorem moved (h : Balanced (bookDate clk.now) db) {input : MoveStockBucketInput}
    (hfits : BookCommand.Fits rs db (.command (.moveStockBucket input)))
    (hrun : (forget (Books.moveStockBucket rs clk input)).eval db = (.ok (), db')) :
    Balanced (bookDate clk.now) db' := by
  obtain ⟨rows, d, hp, henter⟩ := moveStockBucket_inv hrun
  have hy : (moveStockBucket rs clk input).Yields (fun _ => False) db.stock (.ok rows) d :=
    yields_of_eval hp
  obtain ⟨hrec, out, into, rfl, hout, hdout, hin, hdin⟩ := moveStockBucket_ok hy
  have href := moveStockBucket_keeping rs clk input _ _ _ _ hy h.referenced
  obtain ⟨hnow, hmem⟩ := hrec.entered out (List.mem_cons_self ..)
  obtain ⟨hnow', hmem'⟩ := hrec.entered into (List.mem_cons_of_mem _ (List.mem_singleton_self _))
  have hstore : out.storeId = input.storeId := congrArg StockKey.storeId hout
  have hstore' : into.storeId = input.storeId := congrArg StockKey.storeId hin
  have hbucket : out.stockBucket = rs.toUppercase (trim input.fromBucket) :=
    congrArg StockKey.stockBucket hout
  have hbucket' : into.stockBucket = rs.toUppercase (trim input.toBucket) :=
    congrArg StockKey.stockBucket hin
  obtain ⟨db1, hdb1, hr1⟩ := eval_enterInDayBook { db with stock := d }
    (isSome_of_mem hmem) (href out hmem)
  have hs1 : db1.stock = d := hr1.stock
  obtain ⟨db2, hdb2, hr2⟩ := eval_enterInDayBook db1 (hs1.symm ▸ isSome_of_mem hmem')
    (hs1.symm ▸ href into hmem')
  have hboth : (Books.enterAllInDayBook [out, into]).eval { db with stock := d } = (.ok (), db2) := by
    unfold Books.enterAllInDayBook Books.enterAllInDayBook Books.enterAllInDayBook
    rw [eval_bind_ok hdb1, eval_bind_ok hdb2, eval_pure]
  rw [henter] at hboth
  cases hboth
  rw [hnow, hstore] at hr1
  rw [hnow', hstore'] at hr2
  refine h.recorded hrec (List.forall_mem_cons.2 ⟨hstore, List.forall_mem_singleton.2 hstore'⟩) href
    ?_ (hfits.closing _ _ rfl) (hr1.trans hr2)
  rw [addedTo, List.map_cons, List.map_singleton, List.sum_cons, List.sum_singleton,
    InventoryTransaction.availableTo, InventoryTransaction.availableTo, hnow, hnow', hstore, hstore',
    hbucket, hbucket', hdout, hdin]
  simp

/-- An available transaction changes by `n`. -/
theorem corrected (h : Balanced (bookDate clk.now) db) {d : Db} {r : InventoryTransaction} {n : Int}
    (hr : r ∈ db.stock.transactions.rows) (hp : Projects d) (href : Referenced d)
    (hdated : ∀ x ∈ d.transactions.rows, bookDate x.occurredAt ≤ bookDate clk.now)
    (hledger : ∀ s date, d.ledgerTo s date = db.stock.ledgerTo s date +
      if r.storeId = s ∧ r.stockBucket = "AVAILABLE" ∧ bookDate r.occurredAt ≤ date then n else 0)
    (hcover : r.stockBucket = "AVAILABLE" → n ≠ 0 →
      BookCommand.OnlyToday clk db r.storeId r.occurredAt)
    (hfits : -2 ^ 31 ≤ db.availableStock r.storeId + (if r.stockBucket = "AVAILABLE" then n else 0) ∧
      db.availableStock r.storeId + (if r.stockBucket = "AVAILABLE" then n else 0) < 2 ^ 31)
    (hrefreshed : Refreshed (r.storeId, bookDate clk.now) { db with stock := d } db') :
    Balanced (bookDate clk.now) db' := by
  refine h.refreshed hp href hdated (fun b hb hne => ?_) ?_ hfits hrefreshed
  · rw [hledger]
    by_contra hz
    obtain ⟨⟨hs, ha, hday⟩, hn⟩ := ite_ne_right_iff.1 fun h0 => hz (by rw [h0, add_zero])
    exact hne (Prod.ext hs.symm (hcover ha hn b hb hs.symm hday))
  · rw [hledger]
    have hday := h.dated r hr
    simp [hday]

theorem edited (h : Balanced (bookDate clk.now) db) {input : UpdateTransactionInput}
    (hcover : BookCommand.Covers clk db (.command (.updateTransaction input)))
    (hfits : BookCommand.Fits rs db (.command (.updateTransaction input)))
    (hrun : (forget (Books.updateTransaction clk input)).eval db = (.ok (), db')) :
    Balanced (bookDate clk.now) db' := by
  obtain ⟨x, d, hp, henter⟩ := withDayBook_ok hrun
  have hy : (updateTransaction clk input).Yields (fun _ => False) db.stock (.ok x) d :=
    yields_of_eval hp
  obtain ⟨r, q, hu, rfl⟩ := updateTransaction_ok hy
  have href := updateTransaction_keeping clk input _ _ _ _ hy h.referenced
  have hr := Table.mem_of_get? hu.row
  have hmem : input.edit r ∈ d.transactions.rows := by
    rw [hu.transactions]
    exact Table.mem_put.2 (.inl rfl)
  have hprojects := h.projects.updated (hfits.correction _ rfl) hu
  have hin : (d.transactions.get? (input.edit r).transactionId).isSome := isSome_of_mem hmem
  obtain ⟨db1, hdb1, hbooks⟩ := eval_enterInDayBook { db with stock := d }
    (r := input.returned r clk.now) hin (href (input.edit r) hmem)
  rw [henter] at hdb1
  cases hdb1
  have hclosing := hfits.closing r.storeId _ (by
    show (db.stock.transactions.get? input.transactionId).map _ = _
    rw [hu.row]
    rfl)
  refine h.corrected hr hprojects href (fun y hy => ?_) (fun s date => ?_)
    (fun hb hn => hcover r hu.row hb fun he => hn (by rw [he, sub_self])) hclosing hbooks
  · rcases Table.mem_put.1 (hu.transactions ▸ hy) with rfl | ⟨hy, -⟩
    · exact h.dated r hr
    · exact h.dated y hy
  · rw [hu.ledgerTo, InventoryTransaction.availableTo, InventoryTransaction.availableTo]
    show _ - _ + (if r.storeId = s ∧ r.stockBucket = "AVAILABLE" ∧ bookDate r.occurredAt ≤ date then
      input.quantityDelta.toInt else 0) = _
    split <;> omega

theorem removed (h : Balanced (bookDate clk.now) db) {t : String}
    (hcover : BookCommand.Covers clk db (.command (.deleteTransaction t)))
    (hfits : BookCommand.Fits rs db (.command (.deleteTransaction t)))
    (hrun : (Books.deleteTransaction clk t).eval db = (.ok (), db')) :
    Balanced (bookDate clk.now) db' := by
  obtain ⟨d, hp, hbooks⟩ := deleteTransaction_inv hrun
  have hy : (deleteTransaction clk t).Yields (fun _ => False) db.stock (.ok ()) d := yields_of_eval hp
  have href := deleteTransaction_keeping clk t _ _ _ _ hy h.referenced
  rcases deleteTransaction_ok hy with ⟨rfl, hn⟩ | ⟨r, q, outboxId, rfl, hd⟩
  · rw [hn] at hbooks
    obtain ⟨hstock, hbooks⟩ := hbooks
    exact ⟨hstock ▸ h.projects, hstock ▸ h.referenced, hstock ▸ h.dated, hbooks ▸ h.booked,
      hstock ▸ hbooks ▸ h.closed⟩
  · rw [hd.row] at hbooks
    have hr := Table.mem_of_get? hd.row
    have hprojects := h.projects.deleted (hfits.correction _ rfl) hd
    have hclosing := hfits.closing r.storeId _ (by
      show (db.stock.transactions.get? r.transactionId).map _ = _
      rw [hd.row]
      rfl)
    refine h.corrected hr hprojects href (fun y hy => ?_) (fun s date => ?_)
      (fun hb hn => hcover r hd.row hb fun he => hn (by rw [he, neg_zero])) hclosing hbooks
    · rw [hd.transactions] at hy
      exact h.dated y (List.mem_of_mem_filter hy)
    · rw [hd.ledgerTo, InventoryTransaction.availableTo]
      split <;> omega

/-- **A command that covers the day books** keeps them right. -/
theorem step (h : Balanced (bookDate clk.now) db) {cmd : BookCommand}
    (hcover : cmd.Covers clk db) (hfits : cmd.Fits rs db)
    (hrun : (cmd.run rs clk).eval db = (.ok (), db')) : Balanced (bookDate clk.now) db' := by
  have hstock : ∀ {α : Type} {p : Prog String Db α}, (onBooks (forget p)).eval db = (.ok (), db') →
      ∃ a d, p.Yields (fun _ => False) db.stock (.ok a) d ∧ db' = { db with stock := d } := by
    intro α p hp
    obtain ⟨d, hd, rfl⟩ := onBooks_ok hp
    obtain ⟨a, ha⟩ := forget_ok hd
    exact ⟨a, d, yields_of_eval ha, rfl⟩
  cases cmd with
  | markTransferException t notes =>
    obtain ⟨a, d, hy, rfl⟩ := hstock hrun
    obtain ⟨hs, hproducts⟩ := markTransferException_same hy
    exact h.same hs (h.referenced.grown (fun _ hr => hs.transactions ▸ hr) fun _ hid => hproducts ▸ hid)
  | command cmd =>
    cases cmd with
    | receiveStock input =>
      exact h.withDayBook (receiveStock_keeping clk input) receiveStock_ok
        (if_pos rfl).symm (hfits.closing _ _ rfl) hrun
    | sellStock input =>
      exact h.withDayBook (sellStock_keeping clk input) sellStock_ok
        (if_pos rfl).symm (hfits.closing _ _ rfl) hrun
    | returnStock input =>
      exact h.withDayBook (returnStock_keeping rs clk input) returnStock_ok
        rfl (hfits.closing _ _ rfl) hrun
    | adjustStock input =>
      exact h.withDayBook (adjustStock_keeping rs clk input) adjustStock_ok
        (if_pos rfl).symm (hfits.closing _ _ rfl) hrun
    | moveStockBucket input => exact h.moved hfits hrun
    | updateTransaction input => exact h.edited hcover hfits hrun
    | deleteTransaction t => exact h.removed hcover hfits hrun
    | createTransfer input =>
      obtain ⟨a, d, hy, rfl⟩ := hstock hrun
      exact h.same (createTransfer_ok hy) (createTransfer_keeping clk input _ _ _ _ hy h.referenced)
    | dispatchTransfer t user device =>
      obtain ⟨a, d, hy, rfl⟩ := hstock hrun
      obtain ⟨t0, ht, hrec⟩ := dispatchTransfer_ok hy
      exact h.carried hrec (dispatchTransfer_keeping clk t user device _ _ _ _ hy h.referenced)
        (hcover t0 ht)
    | receiveTransfer t user device =>
      obtain ⟨a, d, hy, rfl⟩ := hstock hrun
      obtain ⟨t0, ht, hrec⟩ := receiveTransfer_ok hy
      exact h.carried hrec (receiveTransfer_keeping clk t user device _ _ _ _ hy h.referenced)
        (hcover t0 ht)
    | cancelTransfer t user device =>
      obtain ⟨a, d, hy, rfl⟩ := hstock hrun
      have href := cancelTransfer_keeping clk t user device _ _ _ _ hy h.referenced
      obtain ⟨t0, ht, ⟨hw, hrec⟩ | hs⟩ := cancelTransfer_ok hy
      · exact h.carried hrec href (hcover t0 ht hw)
      · exact h.same hs href

end Balanced

/-! ## Runs -/

theorem BooksReached.balanced {rs : Rust} {date : Int} {db : BooksDb}
    (h : BooksReached rs (fun clk db cmd => cmd.Covers clk db ∧ cmd.Fits rs db) date db) :
    Balanced date db := by
  induction h with
  | empty date => exact balanced_empty date
  | call clk cmd _ hdate hok hrun ih => exact (ih.later hdate).step hok.1 hok.2 hrun

/-- **Each closing balance is what the transactions up to its day add up to**, when no transfer works on
a store that has a day book of today and no correction reaches back behind another day book. -/
theorem closing_to_date {rs : Rust} {date : Int} {db : BooksDb}
    (h : BooksReached rs (fun clk db cmd => cmd.Covers clk db ∧ cmd.Fits rs db) date db) :
    ∀ b ∈ db.dayBooks.rows, b.closingBalance.toInt = db.stock.ledgerTo b.storeId b.bookDate :=
  h.balanced.closed

namespace Sample

/-- A clock of day `n`. -/
def onDay (n : Int) (nanos : Nat) : Clock := ⟨86400 * n, fun i => nanos + i⟩

def booksAfter (db : BooksDb) (clk : Clock) (cmd : BookCommand) : BooksDb :=
  ((cmd.run catalogueRust.toRust clk).eval db).2

theorem books_after {ok : Clock → BooksDb → BookCommand → Prop} {date : Int} {db : BooksDb} (n : Int)
    (nanos : Nat) (cmd : BookCommand) (h : BooksReached catalogueRust.toRust ok date db)
    (hdate : date ≤ n) (hok : ok (onDay n nanos) db cmd)
    (hrun : ((cmd.run catalogueRust.toRust (onDay n nanos)).eval db).1.toBool = true) :
    BooksReached catalogueRust.toRust ok n (booksAfter db (onDay n nanos) cmd) := by
  have hday : bookDate (onDay n nanos).now = n := Int.mul_ediv_cancel_left n (by decide)
  have hresult : ((cmd.run catalogueRust.toRust (onDay n nanos)).eval db).1 = .ok () := by
    cases hr : ((cmd.run catalogueRust.toRust (onDay n nanos)).eval db).1 with
    | ok u => rfl
    | error e =>
      rw [hr] at hrun
      cases hrun
  have hcall := BooksReached.call (onDay n nanos) cmd h (hday.symm ▸ hdate) hok (Prod.ext hresult rfl)
  rwa [hday] at hcall

def delivery : BookCommand :=
  .command (.receiveStock ⟨"STORE-A", "PROD-1", 10, none, none, "USER-1", "DEV-1"⟩)

def counterSale : BookCommand :=
  .command (.sellStock ⟨"STORE-A", "PROD-1", 4, some "R-1", "USER-1", "DEV-1"⟩)

/-- Ten come in on the first day. -/
def delivered : BooksDb := booksAfter .empty (onDay 0 1) delivery

/-- Four are sold on the second. -/
def soldNextDay : BooksDb := booksAfter delivered (onDay 1 3) counterSale

theorem delivered_covers : delivery.Covers (onDay 0 1) .empty ∧
    delivery.Fits catalogueRust.toRust .empty := by
  refine ⟨trivial, fun c hc => ?_, fun s n hn => ?_⟩
  · cases hc
    trivial
  · cases hn
    decide +kernel

theorem sold_covers : counterSale.Covers (onDay 1 3) delivered ∧
    counterSale.Fits catalogueRust.toRust delivered := by
  refine ⟨trivial, fun c hc => ?_, fun s n hn => ?_⟩
  · cases hc
    trivial
  · cases hn
    decide +kernel

def planned : BookCommand :=
  .command (.createTransfer ⟨"STORE-A", "STORE-B", "PROD-1", 4, "USER-1", none⟩)

def sentOut : BookCommand := .command (.dispatchTransfer "TRF-3" "USER-1" "DEV-1")

/-- Four leave for another store on the day of the delivery. -/
def sentSameDay : BooksDb :=
  booksAfter (booksAfter delivered (onDay 0 3) planned) (onDay 0 4) sentOut

end Sample

open Sample in
/-- The day book of the first day still says ten after the sale. -/
theorem closing_of_first_day : soldNextDay.stock.ledgerTo "STORE-A" 0 = 10 := by
  have hfirst : BooksReached catalogueRust.toRust
      (fun clk db cmd => cmd.Covers clk db ∧ cmd.Fits catalogueRust.toRust db) 0 delivered :=
    books_after 0 1 delivery (.empty 0) le_rfl delivered_covers (by decide +kernel)
  have hsold := books_after 1 3 counterSale hfirst (by decide) sold_covers (by decide +kernel)
  exact (closing_to_date hsold ⟨"STORE-A", 0, 10⟩ (by decide +kernel)).symm

open Sample in
/-- A dispatch leaves the day book of today as it was. -/
theorem stale_after_dispatch : ∃ date db, BooksReached catalogueRust.toRust (fun _ _ _ => True) date db ∧
    ∃ b ∈ db.dayBooks.rows, b.closingBalance.toInt ≠ db.stock.ledgerTo b.storeId b.bookDate := by
  have hfirst : BooksReached catalogueRust.toRust (fun _ _ _ => True) 0 delivered :=
    books_after 0 1 delivery (.empty 0) le_rfl trivial (by decide +kernel)
  have hplanned := books_after 0 3 planned hfirst le_rfl trivial (by decide +kernel)
  have hsent := books_after 0 4 sentOut hplanned le_rfl trivial (by decide +kernel)
  exact ⟨0, sentSameDay, hsent, ⟨"STORE-A", 0, 10⟩, by decide +kernel, by decide +kernel⟩

end Desktop
