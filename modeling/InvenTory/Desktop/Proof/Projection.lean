import InvenTory.Desktop.Proof.Records
import InvenTory.Desktop.Provision

/-!
# The balances are the sums of the ledger

Each local command that succeeds changes a balance by what it changes in the ledger rows of its key
(`LocalCommand.keeps_projects`), so that in every database that such commands lead to from the empty one a
balance is the sum of its ledger rows (`LocalReached.projects`).
-/

namespace Desktop

open Relational Sql Sql.Prog
open Server (StockKey)
open Catalogue (CatalogueRust NewProductInput)

/-- The sum of the ledger rows of a key. -/
def Db.ledgerSum (d : Db) (k : StockKey) : Int :=
  d.transactions.total fun r => if r.stock = k then r.quantityDelta else 0

/-- Each balance is the sum of its ledger rows; one that is missing is 0. -/
def Projects (d : Db) : Prop := ∀ k, d.quantity k = d.ledgerSum k

theorem projects_empty : Projects .empty := fun _ => rfl

/-! ## Stock commands -/

section
variable {d d' : Db}

theorem Projects.same (h : Projects d) (hs : SameStock d d') : Projects d' := by
  intro k
  rw [quantity_congr hs.balances, Db.ledgerSum, hs.transactions]
  exact h k

theorem Projects.recorded {m : Movement} {outboxId : String} {now : Instant} (h : Projects d)
    (hr : Recorded m outboxId now d d') : Projects d' := by
  intro k
  rw [hr.quantity, Db.ledgerSum, hr.transactions, Table.total_put_new _ hr.new, h k]
  rfl

theorem Projects.records {now : Instant} (h : Projects d) (hr : Records now d d') : Projects d' := by
  induction hr with
  | same hs => exact h.same hs
  | cons hm hr _ ih => exact ih (h.recorded hr)

/-- The row with key `id` takes another quantity, or none. -/
theorem Projects.changed {r : InventoryTransaction} {change : Int} (h : Projects d)
    (hq : ∀ k, d'.quantity k = d.quantity k + if r.stock = k then change else 0)
    (hl : ∀ k, d'.ledgerSum k = d.ledgerSum k + if r.stock = k then change else 0) :
    Projects d' := fun k => by rw [hq, hl, h k]

/-- The corrections do not overflow an `i32`. -/
def Command.Fits (d : Db) : Command → Prop
  | .updateTransaction input => ∀ r, d.transactions.get? input.transactionId = some r →
    -2 ^ 31 ≤ input.quantityDelta.toInt - r.quantityDelta ∧
      input.quantityDelta.toInt - r.quantityDelta < 2 ^ 31
  | .deleteTransaction id => ∀ r, d.transactions.get? id = some r → -r.quantityDelta < 2 ^ 31
  | _ => True

theorem bmod_of_fits {n : Int} (hlo : -2 ^ 31 ≤ n) (hhi : n < 2 ^ 31) : n.bmod (2 ^ 32) = n :=
  Int.bmod_eq_of_le (by simp at *; omega) (by simp at *; omega)

theorem Projects.updated {input : UpdateTransactionInput} {now : Instant}
    {r : InventoryTransaction} {q : Int32} (h : Projects d)
    (hfits : (Command.updateTransaction input).Fits d) (hu : Updated input now r q d d') :
    Projects d' := by
  have hrange := hfits r hu.row
  have hread := readI32_eq hu.delta
  have hkey : key r = input.transactionId := Table.key_of_get? hu.row
  have hnew : key (input.edit r) = key r := rfl
  have hdiff : (input.quantityDelta - q).toInt = input.quantityDelta.toInt - r.quantityDelta := by
    rw [Int32.toInt_sub, hread]
    exact bmod_of_fits hrange.1 hrange.2
  refine h.changed hu.quantity fun k => ?_
  rw [Db.ledgerSum, hu.transactions, Table.total_put, hnew, hkey, Table.share_some hu.row, hdiff]
  have hstock : (input.edit r).stock = r.stock := rfl
  have hdelta : (input.edit r).quantityDelta = input.quantityDelta.toInt := rfl
  rw [hstock, hdelta, Db.ledgerSum]
  split <;> omega

theorem Projects.deleted {outboxId : String} {now : Instant} {r : InventoryTransaction} {q : Int32}
    (h : Projects d) (hfits : (Command.deleteTransaction r.transactionId).Fits d)
    (hd : Deleted outboxId now r q d d') : Projects d' := by
  have hlt := hfits r hd.row
  have hread := readI32_eq hd.delta
  have hhi := q.toInt_lt
  have hneg : (-q).toInt = -r.quantityDelta := by
    rw [Int32.toInt_neg, hread]
    exact bmod_of_fits (by omega) hlt
  refine h.changed hd.quantity fun k => ?_
  rw [Db.ledgerSum, hd.transactions, Table.total_erase, Table.share_some hd.row, hneg, Db.ledgerSum]
  split <;> omega

theorem Projects.command {F : String → Prop} {rs : Rust} {clk : Clock} {cmd : Command} {u : Unit}
    (h : Projects d) (hfits : cmd.Fits d) (hrun : (cmd.run rs clk).Yields F d (.ok u) d') :
    Projects d' := by
  cases hc : cmd.creates with
  | true => exact h.records (cmd.records hc hrun)
  | false =>
    cases cmd with
    | updateTransaction input =>
      obtain ⟨_, hok⟩ := yields_discard_ok hrun
      obtain ⟨r, q, hu, -⟩ := updateTransaction_ok hok
      exact h.updated hfits hu
    | deleteTransaction id =>
      rcases deleteTransaction_ok hrun with ⟨rfl, -⟩ | ⟨r, q, outboxId, rfl, hd⟩
      · exact h
      · exact h.deleted hfits hd
    | _ => cases hc

end

/-! ## Stores, products and flags -/

/-- The ledger is as before, and so are the quantities. -/
structure SameLedger (d d' : Db) : Prop where
  transactions : d'.transactions = d.transactions
  quantity : ∀ k, d'.quantity k = d.quantity k

theorem sameLedger_refl (d : Db) : SameLedger d d := ⟨rfl, fun _ => rfl⟩

theorem sameLedger_trans (a b c : Db) (h : SameLedger a b) (h' : SameLedger b c) : SameLedger a c :=
  ⟨h'.transactions.trans h.transactions, fun k => (h'.quantity k).trans (h.quantity k)⟩

theorem sameLedger_of_same {d d' : Db} (ht : d'.transactions = d.transactions)
    (hb : d'.balances = d.balances) : SameLedger d d' := ⟨ht, quantity_congr hb⟩

theorem Projects.sameLedger {d d' : Db} (h : Projects d) (hs : SameLedger d d') : Projects d' := by
  intro k
  rw [hs.quantity, Db.ledgerSum, hs.transactions]
  exact h k

section
variable {d d' : Db}

theorem insertStore_same {s : Store} (h : d.insertStore s = .ok d') : SameLedger d d' := by
  unfold Db.insertStore at h
  split at h
  · cases h
  · split at h <;> cases h
    exact sameLedger_of_same rfl rfl

theorem insertProduct_same {p : Product} (h : d.insertProduct p = .ok d') : SameLedger d d' := by
  unfold Db.insertProduct at h
  split at h
  · cases h
  · split at h <;> cases h
    exact sameLedger_of_same rfl rfl

/-- A new balance of nothing is what a missing one is. -/
theorem insertBalance_same {b : StockBalance} (hb : b.quantity = 0)
    (h : d.insertBalance b = .ok d') : SameLedger d d' := by
  unfold Db.insertBalance at h
  split at h
  · cases h
  · split at h
    · cases h
    · rename_i hnew
      split at h <;> cases h
      refine ⟨rfl, fun k => ?_⟩
      rw [quantity_put rfl]
      split
      · rename_i hk
        have hnone : d.balances.get? k = none := by simpa [hk] using hnew
        rw [hb, Db.quantity, hnone]
        rfl
      · rfl

theorem insertBalanceOrNothing_same {b : StockBalance} (hb : b.quantity = 0)
    (h : d.insertBalanceOrNothing b = .ok d') : SameLedger d d' := by
  unfold Db.insertBalanceOrNothing at h
  split at h
  · cases h
    exact sameLedger_refl d
  · exact insertBalance_same hb h

end

section
variable {α β : Type}

/-- A statement that keeps the ledger, with its error named. -/
theorem within_named {label : String} {f : Db → Except String Db}
    (hf : ∀ d d', f d = .ok d' → SameLedger d d') :
    Within SameLedger (context label (autocommit f)) :=
  .mapError _ (.autocommit sameLedger_refl hf)

theorem within_createBalances (storeId : String) : ∀ productIds : List String,
    Within SameLedger (createBalances storeId productIds)
  | [] => .ret sameLedger_refl ()
  | _ :: productIds => .seq sameLedger_trans (within_named fun _ _ => insertBalance_same rfl)
      fun _ => within_createBalances storeId productIds

theorem within_createStore (rs : Rust) (input : NewStoreInput) :
    Within SameLedger (createStore rs input) := by
  unfold createStore
  refine .seq sameLedger_trans (within_require_of sameLedger_refl _ _) fun _ => ?_
  refine .seq sameLedger_trans (within_require_of sameLedger_refl _ _) fun _ => ?_
  refine .seq sameLedger_trans (.mapError _ (.query sameLedger_refl _)) fun _ => ?_
  refine .seq sameLedger_trans (within_require_of sameLedger_refl _ _) fun _ => ?_
  refine .seq sameLedger_trans (within_named fun _ _ => insertStore_same) fun _ => ?_
  refine .seq sameLedger_trans (.mapError _ (.query sameLedger_refl _)) fun _ => ?_
  exact .seq sameLedger_trans (within_createBalances _ _) fun _ => .ret sameLedger_refl _

/-- `SameLedger`, of the tables of a local database. -/
def SameLocal (db db' : LocalDb) : Prop := SameLedger db.stock db'.stock

theorem sameLocal_refl (db : LocalDb) : SameLocal db db := sameLedger_refl _

theorem sameLocal_trans (a b c : LocalDb) : SameLocal a b → SameLocal b c → SameLocal a c :=
  sameLedger_trans _ _ _

theorem yields_onStock {p : Prog String Db α} {F : String → Prop} {db db' : LocalDb}
    {r : Except String α} (h : (LocalDb.onStock p).Yields F db r db') :
    p.Yields F db.stock r db'.stock := by
  obtain ⟨t, ht, rfl⟩ := yields_zoom h
  exact ht

theorem within_onStock {p : Prog String Db α} (hp : Within SameLedger p) :
    Within SameLocal (LocalDb.onStock p) :=
  fun F _ r _ hy => hp F _ r _ (yields_onStock hy)

theorem within_onEvents (p : Prog String Catalogue.ProductsDb α) :
    Within SameLocal (LocalDb.onEvents p) := by
  intro F s r s' hy
  obtain ⟨t, -, rfl⟩ := yields_zoom hy
  exact sameLedger_refl _

theorem within_createProduct (rs : CatalogueRust) (clk : Clock) (earlier : Instant)
    (input : NewProductInput) : Within SameLocal (createProduct rs clk earlier input) := by
  unfold createProduct
  refine .seq sameLocal_trans (within_require_of sameLocal_refl _ _) fun _ => ?_
  refine .seq sameLocal_trans (within_require_of sameLocal_refl _ _) fun _ => ?_
  refine .seq sameLocal_trans (within_onStock (.mapError _ (.query sameLedger_refl _))) fun _ => ?_
  refine .seq sameLocal_trans (within_require_of sameLocal_refl _ _) fun _ => ?_
  refine .seq sameLocal_trans (within_onStock (within_named fun _ _ => insertProduct_same))
    fun _ => ?_
  exact .seq sameLocal_trans (within_onEvents _) fun _ => .ret sameLocal_refl _

theorem within_createBalancesOrNothing (productId : String) : ∀ storeIds : List String,
    Within SameLedger (createBalancesOrNothing productId storeIds)
  | [] => .ret sameLedger_refl ()
  | _ :: storeIds => .seq sameLedger_trans
      (.attempt (.autocommit sameLedger_refl fun _ _ => insertBalanceOrNothing_same rfl))
      fun _ => within_createBalancesOrNothing productId storeIds

theorem within_createBatchProduct (rs : CatalogueRust) (clk : Clock) (storeIds : List String)
    (idx : Nat) (input : BatchProductItem) :
    Within SameLocal (createBatchProduct rs clk storeIds idx input) := by
  have hquery : ∀ f : Db → Bool, Within SameLocal (attempt (LocalDb.onStock (query f))) :=
    fun f => .attempt (within_onStock (.query sameLedger_refl f))
  unfold createBatchProduct
  dsimp only
  split
  · exact .ret sameLocal_refl _
  refine .seq sameLocal_trans (hquery _) fun _ => ?_
  split
  · exact .ret sameLocal_refl _
  refine .seq sameLocal_trans (hquery _) fun _ => ?_
  split
  · exact .ret sameLocal_refl _
  refine .seq sameLocal_trans
    (.attempt (within_onStock (.autocommit sameLedger_refl fun _ _ => insertProduct_same)))
    fun inserted => ?_
  cases inserted with
  | error e => exact .ret sameLocal_refl _
  | ok _ =>
    refine .seq sameLocal_trans (within_onStock (within_createBalancesOrNothing _ _)) fun _ => ?_
    exact .seq sameLocal_trans (.attempt (within_onEvents _)) fun _ => .ret sameLocal_refl _

theorem within_createBatchProducts (rs : CatalogueRust) (clk : Clock) (storeIds : List String) :
    ∀ (idx : Nat) (inputs : List BatchProductItem),
      Within SameLocal (createBatchProducts rs clk storeIds idx inputs)
  | _, [] => .ret sameLocal_refl _
  | idx, input :: inputs =>
    .seq sameLocal_trans (within_createBatchProduct rs clk storeIds idx input) fun _ =>
      .seq sameLocal_trans (within_createBatchProducts rs clk storeIds (idx + 1) inputs) fun _ =>
        .ret sameLocal_refl _

theorem within_createProductsBatch (rs : CatalogueRust) (clk : Clock)
    (inputs : List BatchProductItem) : Within SameLocal (createProductsBatch rs clk inputs) :=
  .seq sameLocal_trans (within_onStock (.mapError _ (.query sameLedger_refl _))) fun _ =>
    within_createBatchProducts rs clk _ 0 inputs

theorem within_markTransferException (clk : Clock) (id : String) (notes : Option String) :
    Within SameLedger (markTransferException clk id notes) := by
  unfold markTransferException
  refine .seq sameLedger_trans (within_selectTransfer_of sameLedger_refl sameLedger_trans id) fun _ => ?_
  refine .seq sameLedger_trans (within_require_of sameLedger_refl _ _) fun _ => ?_
  refine .seq sameLedger_trans (within_named fun d d' h => ?_) fun _ => .ret sameLedger_refl _
  cases h
  unfold Db.updateTransfer
  split <;> exact sameLedger_of_same rfl rfl

end

/-! ## Runs of commands -/

inductive LocalCommand
  | stock (cmd : Command)
  | markTransferException (transferId : String) (notes : Option String)
  | createProduct (earlier : Instant) (input : NewProductInput)
  | createProductsBatch (inputs : List BatchProductItem)
  | createStore (input : NewStoreInput)

namespace LocalCommand

def run (rs : CatalogueRust) (clk : Clock) : LocalCommand → Prog String LocalDb Unit
  | .stock cmd => LocalDb.onStock (cmd.run rs.toRust clk)
  | .markTransferException t notes =>
    LocalDb.onStock (forget (Desktop.markTransferException clk t notes))
  | .createProduct earlier input => forget (Desktop.createProduct rs clk earlier input)
  | .createProductsBatch inputs => forget (Desktop.createProductsBatch rs clk inputs)
  | .createStore input => LocalDb.onStock (forget (Desktop.createStore rs.toRust input))

/-- The `i32` arithmetic of the command does not overflow. -/
def Fits (db : LocalDb) : LocalCommand → Prop
  | .stock cmd => cmd.Fits db.stock
  | _ => True

theorem within_forget {σ α : Type} {Q : σ → σ → Prop} {p : Prog String σ α} (hrefl : ∀ s, Q s s)
    (htrans : ∀ a b c, Q a b → Q b c → Q a c) (hp : Within Q p) : Within Q (forget p) :=
  .seq htrans hp fun _ => .ret hrefl ()

/-- **A command that succeeds keeps the balances the sums of the ledger.** -/
theorem keeps_projects {F : String → Prop} {rs : CatalogueRust} {clk : Clock} {cmd : LocalCommand}
    {db db' : LocalDb} (h : Projects db.stock) (hfits : cmd.Fits db)
    (hrun : (cmd.run rs clk).Yields F db (.ok ()) db') : Projects db'.stock := by
  cases cmd with
  | stock cmd => exact h.command hfits (yields_onStock hrun)
  | markTransferException t notes =>
    have hwithin := within_forget sameLedger_refl sameLedger_trans
      (within_markTransferException clk t notes)
    exact h.sameLedger (within_onStock hwithin F db _ db' hrun)
  | createProduct earlier input =>
    have hwithin := within_forget sameLocal_refl sameLocal_trans
      (within_createProduct rs clk earlier input)
    exact h.sameLedger (hwithin F db _ db' hrun)
  | createProductsBatch inputs =>
    have hwithin := within_forget sameLocal_refl sameLocal_trans
      (within_createProductsBatch rs clk inputs)
    exact h.sameLedger (hwithin F db _ db' hrun)
  | createStore input =>
    have hwithin := within_forget sameLedger_refl sameLedger_trans
      (within_createStore rs.toRust input)
    exact h.sameLedger (within_onStock hwithin F db _ db' hrun)

end LocalCommand

/-- The databases that local commands lead to from the empty one, each of them successful. -/
inductive LocalReached (rs : CatalogueRust) : LocalDb → Prop
  | empty : LocalReached rs .empty
  | call {db db' : LocalDb} {F : String → Prop} (clk : Clock) (cmd : LocalCommand)
      (h : LocalReached rs db) (hfits : cmd.Fits db)
      (hrun : (cmd.run rs clk).Yields F db (.ok ()) db') : LocalReached rs db'

/-- **The balances are the sums of the ledger.** -/
theorem LocalReached.projects {rs : CatalogueRust} {db : LocalDb} (h : LocalReached rs db) :
    ∀ k, db.stock.quantity k = db.stock.ledgerSum k := by
  induction h with
  | empty => exact projects_empty
  | call clk cmd _ hfits hrun ih => exact LocalCommand.keeps_projects ih hfits hrun

namespace Sample

def catalogueRust : CatalogueRust where
  toUppercase s := String.ofList (s.toList.map Char.toUpper)
  rfc3339 _ := "1970-01-01T00:00:00Z"
  isAlphanumeric := Char.isAlphanum

def ids (nanos : Nat) : Clock := ⟨0, fun i => nanos + i⟩

/-- Where a local command leads to. -/
def next (db : LocalDb) (nanos : Nat) (cmd : LocalCommand) : LocalDb :=
  ((cmd.run catalogueRust (ids nanos)).eval db).2

theorem reached_next {db : LocalDb} {nanos : Nat} {cmd : LocalCommand}
    (h : LocalReached catalogueRust db) (hfits : cmd.Fits db)
    (hok : ((cmd.run catalogueRust (ids nanos)).eval db).1.toBool = true) :
    LocalReached catalogueRust (next db nanos cmd) := by
  refine .call (F := fun _ => True) (ids nanos) cmd h hfits (yields_of_eval (Prod.ext ?_ rfl))
  cases hr : ((cmd.run catalogueRust (ids nanos)).eval db).1 with
  | ok u => rfl
  | error e =>
    rw [hr] at hok
    cases hok

/-- A product, `PROD-1`, and a store, `STORE-A`, with a balance of nothing. -/
def opened : LocalDb :=
  next (next .empty 1 (.createProduct 0
    ⟨"SKU-1", "Cable", none, none, "Parts", none, none, none, none, none⟩)) 3
    (.createStore ⟨"A", "Main", none⟩)

/-- Ten are received. -/
def filled : LocalDb := next opened 5
  (.stock (.receiveStock ⟨"STORE-A", "PROD-1", 10, none, none, "USER-1", "DEV-1"⟩))

def correction : LocalCommand := .stock (.updateTransaction ⟨"TX-5", 7, none, none⟩)

theorem correction_fits : correction.Fits filled := by
  intro r hr
  have hall : (filled.stock.transactions.get? "TX-5").all fun r =>
      -2 ^ 31 ≤ 7 - r.quantityDelta ∧ 7 - r.quantityDelta < 2 ^ 31 := by decide +kernel
  rw [hr, Option.all_some, decide_eq_true_eq] at hall
  exact hall

theorem reached_filled : LocalReached catalogueRust filled :=
  reached_next (reached_next (reached_next .empty trivial (by decide +kernel)) trivial
    (by decide +kernel)) trivial (by decide +kernel)

end Sample

open Sample in
theorem projects_corrected :
    (next filled 7 correction).stock.ledgerSum (available "STORE-A" "PROD-1") = 7 :=
  ((reached_next reached_filled correction_fits (by decide +kernel)).projects _).symm.trans
    (by decide +kernel)

end Desktop
