import InvenTory.Desktop.Proof.Records

/-!
# The products of the transactions

A transaction is only inserted for a product that is there, and no stock command deletes a product: the
foreign keys of the ledger hold after every command (`Command.referenced`).
-/

namespace Desktop

open Relational Sql Sql.Prog
open Server (StockKey)

/-- The product of every transaction is there. -/
def Referenced (d : Db) : Prop := ∀ r ∈ d.transactions.rows, (d.products.get? r.productId).isSome

theorem referenced_empty : Referenced .empty := List.forall_mem_nil _

/-- If the products are there before, so they are after. -/
def KeepsReferenced (d d' : Db) : Prop := Referenced d → Referenced d'

/-! ## Statements -/

section
variable {d d' : Db}

theorem Referenced.grown (h : Referenced d) (ht : ∀ r ∈ d'.transactions.rows, r ∈ d.transactions.rows)
    (hp : ∀ id, (d.products.get? id).isSome → (d'.products.get? id).isSome) : Referenced d' :=
  fun r hr => hp _ (h r (ht r hr))

theorem referenced_same (ht : d'.transactions = d.transactions) (hp : d'.products = d.products) :
    KeepsReferenced d d' := fun h => h.grown (fun _ hr => ht ▸ hr) fun _ hid => hp.symm ▸ hid

theorem ensureUser_referenced {id : String} (h : d.ensureUser id = .ok d') : KeepsReferenced d d' := by
  unfold Db.ensureUser at h
  split at h
  · cases h
    exact referenced_same rfl rfl
  · split at h <;> cases h
    exact referenced_same rfl rfl

theorem ensureStore_referenced {id : String} (h : d.ensureStore id = .ok d') :
    KeepsReferenced d d' := by
  unfold Db.ensureStore at h
  split at h
  · cases h
    exact referenced_same rfl rfl
  · split at h <;> cases h
    exact referenced_same rfl rfl

theorem ensureProduct_referenced {id : String} (h : d.ensureProduct id = .ok d') :
    KeepsReferenced d d' := by
  unfold Db.ensureProduct at h
  split at h
  · cases h
    exact referenced_same rfl rfl
  · split at h <;> cases h
    refine fun hd => hd.grown (fun _ hr => hr) fun k hk => ?_
    rw [Table.get?_put]
    split
    · rfl
    · exact hk

theorem ensureDevice_referenced {id store : String} (h : d.ensureDevice id store = .ok d') :
    KeepsReferenced d d' := by
  unfold Db.ensureDevice at h
  split at h
  · cases h
    exact referenced_same rfl rfl
  · split at h <;> cases h
    exact referenced_same rfl rfl

theorem insertTransaction_referenced {r : InventoryTransaction} (h : d.insertTransaction r = .ok d') :
    KeepsReferenced d d' := by
  unfold Db.insertTransaction at h
  split at h
  · cases h
  · split at h
    · cases h
    · rename_i hkeys
      cases h
      intro hd x hx
      rcases Table.mem_put.1 hx with rfl | ⟨hx, -⟩
      · have hp : (d.products.get? x.productId).isNone ≠ true := fun hn => hkeys (.inr hn)
        simpa [Option.isSome_iff_ne_none] using hp
      · exact hd x hx

theorem addToBalance_referenced {k : StockKey} {delta : Int} (h : d.addToBalance k delta = .ok d') :
    KeepsReferenced d d' := by
  unfold Db.addToBalance Db.upsertBalance at h
  split at h
  · cases h
    exact referenced_same rfl rfl
  · split at h
    · cases h
    · split at h <;> cases h
      exact referenced_same rfl rfl

theorem insertEvent_referenced {e : OutboxEvent} (h : d.insertEvent e = .ok d') :
    KeepsReferenced d d' := by
  unfold Db.insertEvent at h
  split at h
  · cases h
  · split at h <;> cases h
    exact referenced_same rfl rfl

theorem insertTransfer_referenced {t : Transfer} (h : d.insertTransfer t = .ok d') :
    KeepsReferenced d d' := by
  unfold Db.insertTransfer at h
  split at h
  · cases h
  · split at h <;> cases h
    exact referenced_same rfl rfl

theorem updateTransfer_referenced (d : Db) (id : String) (f : Transfer → Transfer) :
    KeepsReferenced d (d.updateTransfer id f) := by
  unfold Db.updateTransfer
  split <;> exact referenced_same rfl rfl

theorem updateTransaction_referenced (d : Db) (input : UpdateTransactionInput) :
    KeepsReferenced d (d.updateTransaction input.transactionId input.edit) := by
  intro hd
  unfold Db.updateTransaction
  split
  · rename_i r hr
    intro x hx
    rcases Table.mem_put.1 hx with rfl | ⟨hx, -⟩
    · exact hd r (Table.mem_of_get? hr)
    · exact hd x hx
  · exact hd

theorem deleteTransaction_referenced (d : Db) (id : String) :
    KeepsReferenced d (d.deleteTransaction id) := fun hd =>
  hd.grown (fun _ hr => List.mem_of_mem_filter hr) fun _ hk => hk

end

/-! ## Programs -/

/-- What the rules on programs ask for. -/
def Keeping {α : Type} (p : Prog String Db α) : Prop := Within KeepsReferenced p

namespace Keeping

variable {α β : Type}

theorem refl (d : Db) : KeepsReferenced d d := id

theorem ret (a : α) : Keeping (pure a) := Within.ret refl a

theorem seq {p : Prog String Db α} {k : α → Prog String Db β} (hp : Keeping p)
    (hk : ∀ a, Keeping (k a)) : Keeping (p >>= k) :=
  Within.seq (fun _ _ _ h h' hd => h' (h hd)) hp hk

theorem named {label : String} {f : Db → Except String Db}
    (h : ∀ d d', f d = .ok d' → KeepsReferenced d d') : Keeping (context label (autocommit f)) :=
  Within.mapError _ (.autocommit refl h)

theorem require (p : Prop) [Decidable p] (m : String) : Keeping (require p m) :=
  within_require_of refl p m

theorem onlyIf {p : Prop} [Decidable p] {x : Prog String Db Unit} (h : Keeping x) :
    Keeping (onlyIf p x) := within_onlyIf_of refl h

theorem selectBalance (k : StockKey) : Keeping (selectBalance k) :=
  seq (Within.attempt (.query refl _)) fun _ => ret _

theorem requireStock (k : StockKey) (q : Int32) (m : Int32 → String) : Keeping (requireStock k q m) :=
  seq (selectBalance k) fun _ => require _ _

theorem selectTransfer (id : String) : Keeping (selectTransfer id) :=
  within_selectTransfer_of refl (fun _ _ _ h h' hd => h' (h hd)) id

theorem selectTransaction (id : String) : Keeping (selectTransaction id) := by
  refine seq (Within.query refl _) fun r => ?_
  split
  · exact ret _
  · split
    · exact ret _
    · exact Within.raise refl _

theorem setTransferStatus (id status : String) (now : Instant) :
    Keeping (setTransferStatus id status now) :=
  named fun d _ h => by
    cases h
    exact updateTransfer_referenced d id _

theorem ensureForeignKeysExist (user device store product : String) :
    Keeping (ensureForeignKeysExist user device store product) := by
  unfold Desktop.ensureForeignKeysExist
  refine seq (onlyIf (named fun _ _ => ensureUser_referenced)) fun _ => ?_
  refine seq (onlyIf (named fun _ _ => ensureStore_referenced)) fun _ => ?_
  refine seq (onlyIf (named fun _ _ => ensureProduct_referenced)) fun _ => ?_
  exact onlyIf (named fun _ _ => ensureDevice_referenced)

theorem recordMovement (labels : Labels) (m : Movement) (outboxId : String) (now : Instant) :
    Keeping (recordMovement autocommit labels m outboxId now) := by
  unfold Desktop.recordMovement
  refine seq (named fun _ _ => insertTransaction_referenced) fun _ => ?_
  refine seq (named fun _ _ => addToBalance_referenced) fun _ => ?_
  exact named fun _ _ => insertEvent_referenced

/-- The three statements in one transaction. -/
theorem recordSession (labels : Labels) (m : Movement) (outboxId : String) (now : Instant) :
    Keeping (session (Desktop.recordMovement execute labels m outboxId now)) := by
  have hstep : ∀ (label : String) (f : Db → Except String Db),
      (∀ d d', f d = .ok d' → KeepsReferenced d d') →
      Within (fun c c' : Conn Db => KeepsReferenced c.work c'.work) (context label (execute f)) :=
    fun label f hf => .mapError _ (.execute refl hf)
  have htrans : ∀ a b c : Conn Db, KeepsReferenced a.work b.work → KeepsReferenced b.work c.work →
      KeepsReferenced a.work c.work := fun _ _ _ h h' hd => h' (h hd)
  refine Within.session refl ?_
  unfold Desktop.recordMovement
  refine .seq htrans (hstep _ _ fun _ _ => insertTransaction_referenced) fun _ => ?_
  refine .seq htrans (hstep _ _ fun _ _ => addToBalance_referenced) fun _ => ?_
  exact hstep _ _ fun _ _ => insertEvent_referenced

theorem recordMove (out into : Movement) (clk : Clock) : Keeping (recordMove out into clk) := by
  unfold Desktop.recordMove
  refine seq (named fun _ _ => insertTransaction_referenced) fun _ => ?_
  refine seq (named fun _ _ => insertTransaction_referenced) fun _ => ?_
  refine seq (named fun _ _ => addToBalance_referenced) fun _ => ?_
  refine seq (named fun _ _ => addToBalance_referenced) fun _ => ?_
  refine seq (named fun _ _ => insertEvent_referenced) fun _ => ?_
  exact named fun _ _ => insertEvent_referenced

end Keeping

/-! ## The commands -/

section
variable (rs : Rust) (clk : Clock)

theorem receiveStock_keeping (input : ReceiveStockInput) : Keeping (receiveStock clk input) :=
  .seq (.require _ _) fun _ => .seq (.ensureForeignKeysExist _ _ _ _) fun _ =>
    .seq (.recordSession _ _ _ _) fun _ => .ret _

theorem sellStock_keeping (input : SellStockInput) : Keeping (sellStock clk input) :=
  .seq (.require _ _) fun _ => .seq (.require _ _) fun _ =>
    .seq (.ensureForeignKeysExist _ _ _ _) fun _ => .seq (.requireStock _ _ _) fun _ =>
      .seq (.recordSession _ _ _ _) fun _ => .ret _

theorem returnStock_keeping (input : ReturnStockInput) : Keeping (returnStock rs clk input) :=
  .seq (.require _ _) fun _ => .seq (.require _ _) fun _ => .seq (.require _ _) fun _ =>
    .seq (.onlyIf (.requireStock _ _ _)) fun _ => .seq (.ensureForeignKeysExist _ _ _ _) fun _ =>
      .seq (.recordMovement _ _ _ _) fun _ => .ret _

theorem moveStockBucket_keeping (input : MoveStockBucketInput) :
    Keeping (moveStockBucket rs clk input) :=
  .seq (.require _ _) fun _ => .seq (.require _ _) fun _ => .seq (.require _ _) fun _ =>
    .seq (.require _ _) fun _ => .seq (.requireStock _ _ _) fun _ =>
      .seq (.ensureForeignKeysExist _ _ _ _) fun _ => .seq (.recordMove _ _ _) fun _ => .ret _

theorem adjustStock_keeping (input : AdjustStockInput) : Keeping (adjustStock rs clk input) :=
  .seq (.require _ _) fun _ =>
    .seq (.onlyIf (.seq (.selectBalance _) fun _ => .require _ _)) fun _ =>
      .seq (.ensureForeignKeysExist _ _ _ _) fun _ => .seq (.recordMovement _ _ _ _) fun _ => .ret _

theorem createTransfer_keeping (input : CreateTransferInput) : Keeping (createTransfer clk input) :=
  .seq (.require _ _) fun _ => .seq (.require _ _) fun _ =>
    .seq (.ensureForeignKeysExist _ _ _ _) fun _ => .seq (.ensureForeignKeysExist _ _ _ _) fun _ =>
      .seq (.named fun _ _ => insertTransfer_referenced) fun _ => .ret _

theorem dispatchTransfer_keeping (id user device : String) :
    Keeping (dispatchTransfer clk id user device) :=
  .seq (.selectTransfer _) fun _ => .seq (.require _ _) fun _ => .seq (.requireStock _ _ _) fun _ =>
    .seq (.ensureForeignKeysExist _ _ _ _) fun _ => .seq (.setTransferStatus _ _ _) fun _ =>
      .seq (.recordMovement _ _ _ _) fun _ => .ret _

theorem receiveTransfer_keeping (id user device : String) :
    Keeping (receiveTransfer clk id user device) :=
  .seq (.selectTransfer _) fun _ => .seq (.require _ _) fun _ =>
    .seq (.ensureForeignKeysExist _ _ _ _) fun _ => .seq (.setTransferStatus _ _ _) fun _ =>
      .seq (.recordMovement _ _ _ _) fun _ => .ret _

theorem cancelTransfer_keeping (id user device : String) :
    Keeping (cancelTransfer clk id user device) :=
  .seq (.selectTransfer _) fun _ => .seq (.require _ _) fun _ =>
    .seq (.ensureForeignKeysExist _ _ _ _) fun _ => .seq (.onlyIf (.recordMovement _ _ _ _)) fun _ =>
      .seq (.setTransferStatus _ _ _) fun _ => .ret _

theorem updateTransaction_keeping (input : UpdateTransactionInput) :
    Keeping (updateTransaction clk input) := by
  refine .seq (.selectTransaction _) fun row => ?_
  cases row with
  | none => exact Within.raise Keeping.refl _
  | some x =>
    refine .seq (.require _ _) fun _ => .seq (.named fun d _ h => ?_) fun _ =>
      .seq (.onlyIf (.named fun _ _ => addToBalance_referenced)) fun _ =>
        .seq (.named fun d _ h => ?_) fun _ => .ret _
    · cases h
      exact updateTransaction_referenced d input
    · cases h
      exact referenced_same rfl rfl

theorem deleteTransaction_keeping (id : String) : Keeping (deleteTransaction clk id) := by
  refine .seq (.selectTransaction _) fun row => ?_
  cases row with
  | none => exact .ret _
  | some x =>
    refine .seq (.named fun _ _ => addToBalance_referenced) fun _ => .seq (.named fun d _ h => ?_)
      fun _ => .seq (.named fun d _ h => ?_) fun _ => ?_
    · cases h
      exact Keeping.refl d
    · cases h
      exact deleteTransaction_referenced d id
    · split
      · exact .named fun _ _ => insertEvent_referenced
      · refine .named fun d _ h => ?_
        cases h
        exact referenced_same rfl rfl

end

end Desktop
