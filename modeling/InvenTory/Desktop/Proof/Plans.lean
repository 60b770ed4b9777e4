import InvenTory.Desktop.Proof.Records
import InvenTory.Lib.Writes

/-!
# The writes of a command

A command first checks its input against the database, which changes no transaction, balance, transfer
or event (`SameTables`), and then carries out what it has planned (`Command.plan`): `receive_stock` and
`sell_stock` in one transaction, the others statement by statement (`Command.run_eq`). `Shape` lists what
can be planned.
-/

namespace Desktop

open Relational Sql Sql.Prog
open Server (StockKey)

/-- The statements on transactions, balances, transfers and events. -/
inductive Statement
  | insertTransaction (r : InventoryTransaction)
  | addToBalance (k : StockKey) (delta : Int)
  | insertEvent (e : OutboxEvent)
  | insertTransfer (t : Transfer)
  | setTransferStatus (transferId status : String) (now : Instant)
  | flagTransfer (transferId notes : String) (now : Instant)
  | editTransaction (input : UpdateTransactionInput)
  | requeue (transactionId : String) (p : OutboxPayload)
  | deleteDayBookEntries
  | deleteTransaction (transactionId : String)
  | withdraw (transactionId : String)

def Statement.run (d : Db) : Statement → Except String Db
  | .insertTransaction r => d.insertTransaction r
  | .addToBalance k delta => d.addToBalance k delta
  | .insertEvent e => d.insertEvent e
  | .insertTransfer t => d.insertTransfer t
  | .setTransferStatus id status now =>
    .ok (d.updateTransfer id fun t => { t with status := status, updatedAt := now })
  | .flagTransfer id notes now => .ok (d.updateTransfer id (Transfer.flag notes now))
  | .editTransaction input => .ok (d.updateTransaction input.transactionId input.edit)
  | .requeue id p => .ok (d.updateEvent (eventId id) (OutboxEvent.requeue p))
  | .deleteDayBookEntries => .ok d
  | .deleteTransaction id => .ok (d.deleteTransaction id)
  | .withdraw id => .ok (d.updateEvent (eventId id) OutboxEvent.withdraw)

/-- A statement, and what its error says. -/
abbrev Step := String × Statement

def Step.write (x : Step) : Write String Db := ⟨fun e => x.1 ++ ": " ++ e, fun d => x.2.run d⟩

/-- Run the steps one by one. -/
def commitSteps (xs : List Step) : Prog String Db Unit := carryOut false (xs.map Step.write)

/-! ## The steps of the commands -/

def Movement.steps (m : Movement) (labels : Labels) (outboxId : String) (now : Instant) :
    List Step :=
  [(labels.transaction, .insertTransaction (m.row now)),
    (labels.balance, .addToBalance m.stock m.quantityDelta.toInt),
    (queueFailed, .insertEvent (m.event outboxId now))]

def moveSteps (out into : Movement) (clk : Clock) : List Step :=
  [("Failed to insert outflow inventory transaction", .insertTransaction (out.row clk.now)),
    ("Failed to insert inflow inventory transaction", .insertTransaction (into.row clk.now)),
    ("Failed to update source stock balance", .addToBalance out.stock out.quantityDelta.toInt),
    ("Failed to update destination stock balance", .addToBalance into.stock into.quantityDelta.toInt),
    (queueFailed, .insertEvent (out.event (generateId "OB" (clk.nanos 2)) clk.now)),
    (queueFailed, .insertEvent (into.event (generateId "OB" (clk.nanos 3)) clk.now))]

/-- The row of a new transfer. -/
def CreateTransferInput.transfer (clk : Clock) (input : CreateTransferInput) : Transfer where
  id := generateId "TRF" (clk.nanos 0)
  sourceStoreId := input.sourceStoreId
  destinationStoreId := input.destinationStoreId
  productId := input.productId
  quantity := input.quantity
  status := "DRAFT"
  createdByUserId := input.createdByUserId
  notes := input.notes
  createdAt := clk.now
  updatedAt := clk.now

def createStep (clk : Clock) (input : CreateTransferInput) : Step :=
  ("Failed to insert transfer into database", .insertTransfer (input.transfer clk))

def statusStep (transferId status : String) (now : Instant) : Step :=
  ("Failed to update transfer status", .setTransferStatus transferId status now)

def flagStep (transferId notes : String) (now : Instant) : Step :=
  ("Failed to update transfer status", .flagTransfer transferId notes now)

def updateSteps (clk : Clock) (input : UpdateTransactionInput) (old : InventoryTransaction)
    (deltaDiff : Int32) : List Step :=
  [("Failed to update transaction", .editTransaction input)] ++
    (if deltaDiff ≠ 0 then [(balanceFailed, .addToBalance old.stock deltaDiff.toInt)] else []) ++
    [("Failed to update queued change", .requeue input.transactionId (input.payload old clk.now))]

def deleteSteps (clk : Clock) (transactionId : String) (r : InventoryTransaction) (q : Int32) :
    List Step :=
  [("Failed to reverse stock balance", .addToBalance r.stock (-q).toInt),
    ("Failed to delete day-book entries", .deleteDayBookEntries),
    ("Failed to delete transaction", .deleteTransaction transactionId),
    if r.syncStatus ∈ [.synced, .accepted] then
      ("Failed to queue tombstone change for sync", .insertEvent (newEvent
        (generateId "OB" (clk.nanos 0)) (voidEventId transactionId) (voidPayload r q clk.now)
        clk.now))
    else ("Failed to update queued change status", .withdraw transactionId)]

/-! ## Sequences of steps -/

theorem commitSteps_cons (x : Step) (xs : List Step) : commitSteps (x :: xs) =
    context x.1 (autocommit fun d => x.2.run d) >>= fun _ => commitSteps xs := rfl

theorem commitSteps_one (x : Step) :
    commitSteps [x] = context x.1 (autocommit fun d => x.2.run d) := forget_unit _

theorem recordMovement_autocommit (m : Movement) (labels : Labels) (outboxId : String)
    (now : Instant) : recordMovement autocommit labels m outboxId now =
      commitSteps (m.steps labels outboxId now) := by
  unfold recordMovement Movement.steps
  rw [commitSteps_cons, commitSteps_cons, commitSteps_one]
  rfl

theorem recordMovement_execute (m : Movement) (labels : Labels) (outboxId : String)
    (now : Instant) : recordMovement execute labels m outboxId now =
      executeAll ((m.steps labels outboxId now).map Step.write) := by
  unfold recordMovement Movement.steps
  show _ = context _ _ >>= fun _ => context _ _ >>= fun _ => forget (context _ _)
  rw [forget_unit]
  rfl

theorem commitSteps_append (xs ys : List Step) :
    commitSteps (xs ++ ys) = commitSteps xs >>= fun _ => commitSteps ys := by
  induction xs with
  | nil => rfl
  | cons x xs ih =>
    rw [List.cons_append, commitSteps_cons, commitSteps_cons, ih, Prog.bind_assoc]

theorem recordMove_eq (out into : Movement) (clk : Clock) :
    recordMove out into clk = commitSteps (moveSteps out into clk) := by
  unfold recordMove moveSteps
  rw [commitSteps_cons, commitSteps_cons, commitSteps_cons, commitSteps_cons, commitSteps_cons,
    commitSteps_one]
  rfl

/-! ## The checks -/

/-- The tables that commands write are as before. -/
structure SameTables (d d' : Db) : Prop extends SameStock d d' where
  transfers : d'.transfers = d.transfers

namespace SameTables

theorem refl (d : Db) : SameTables d d := ⟨.refl d, rfl⟩

theorem trans (a b c : Db) (h : SameTables a b) (h' : SameTables b c) : SameTables a c :=
  ⟨h.toSameStock.trans h'.toSameStock, h'.transfers.trans h.transfers⟩

end SameTables

section
variable {α β : Type}

theorem within_require (p : Prop) [Decidable p] (m : String) : Within SameTables (require p m) :=
  within_require_of SameTables.refl p m

theorem within_onlyIf {p : Prop} [Decidable p] {x : Prog String Db Unit}
    (h : Within SameTables x) : Within SameTables (onlyIf p x) := within_onlyIf_of SameTables.refl h

theorem within_selectBalance (k : StockKey) : Within SameTables (selectBalance k) :=
  .seq SameTables.trans (.attempt (.query SameTables.refl _)) fun _ => .ret SameTables.refl _

theorem within_requireStock (k : StockKey) (q : Int32) (m : Int32 → String) :
    Within SameTables (requireStock k q m) :=
  .seq SameTables.trans (within_selectBalance k) fun _ => within_require _ _

theorem within_requireAdjustable (input : AdjustStockInput) :
    Within SameTables (requireAdjustable input) :=
  .seq SameTables.trans (within_selectBalance _) fun _ => within_require _ _

theorem ensureUser_same {d d' : Db} {id : String} (h : d.ensureUser id = .ok d') :
    SameTables d d' := by
  refine ⟨ensureUser_ok h, ?_⟩
  unfold Db.ensureUser at h
  split at h <;> [cases h; split at h <;> cases h] <;> rfl

theorem ensureStore_same {d d' : Db} {id : String} (h : d.ensureStore id = .ok d') :
    SameTables d d' := by
  refine ⟨ensureStore_ok h, ?_⟩
  unfold Db.ensureStore at h
  split at h <;> [cases h; split at h <;> cases h] <;> rfl

theorem ensureProduct_same {d d' : Db} {id : String} (h : d.ensureProduct id = .ok d') :
    SameTables d d' := by
  refine ⟨ensureProduct_ok h, ?_⟩
  unfold Db.ensureProduct at h
  split at h <;> [cases h; split at h <;> cases h] <;> rfl

theorem ensureDevice_same {d d' : Db} {id store : String} (h : d.ensureDevice id store = .ok d') :
    SameTables d d' := by
  refine ⟨ensureDevice_ok h, ?_⟩
  unfold Db.ensureDevice at h
  split at h <;> [cases h; split at h <;> cases h] <;> rfl

theorem within_ensureForeignKeysExist (user device store product : String) :
    Within SameTables (ensureForeignKeysExist user device store product) := by
  have hstep : ∀ (label : String) (f : Db → Except String Db),
      (∀ d d', f d = .ok d' → SameTables d d') → Within SameTables (context label (autocommit f)) :=
    fun label f hf => .mapError _ (.autocommit SameTables.refl hf)
  unfold ensureForeignKeysExist
  refine .seq SameTables.trans (within_onlyIf (hstep _ _ fun _ _ => ensureUser_same)) fun _ => ?_
  refine .seq SameTables.trans (within_onlyIf (hstep _ _ fun _ _ => ensureStore_same)) fun _ => ?_
  refine .seq SameTables.trans (within_onlyIf (hstep _ _ fun _ _ => ensureProduct_same)) fun _ => ?_
  exact within_onlyIf (hstep _ _ fun _ _ => ensureDevice_same)

theorem within_selectTransfer (id : String) : Within SameTables (selectTransfer id) :=
  within_selectTransfer_of SameTables.refl SameTables.trans id

theorem within_selectTransaction (id : String) : Within SameTables (selectTransaction id) := by
  refine .seq SameTables.trans (.query SameTables.refl _) fun r => ?_
  split
  · exact .ret SameTables.refl _
  · split
    · exact .ret SameTables.refl _
    · exact .raise SameTables.refl _

end

/-! ## The commands -/

theorem record_session (m : Movement) (labels : Labels) (outboxId : String) (now : Instant)
    {α : Type} (a : α) : forget (session (recordMovement execute labels m outboxId now) >>=
      fun _ => pure a) = carryOut true ((m.steps labels outboxId now).map Step.write) := by
  rw [forget_bind_pure, recordMovement_execute]
  rfl

theorem record_autocommit (m : Movement) (labels : Labels) (outboxId : String) (now : Instant)
    {α : Type} (a : α) : forget (recordMovement autocommit labels m outboxId now >>=
      fun _ => pure a) = carryOut false ((m.steps labels outboxId now).map Step.write) := by
  rw [forget_bind_pure, recordMovement_autocommit]
  rfl

theorem single_autocommit (x : Step) {α : Type} (a : α) :
    forget (context x.1 (autocommit fun d => x.2.run d) >>= fun _ => pure a) =
      carryOut false ([x].map Step.write) :=
  (forget_bind_pure _ _).trans (commitSteps_one x).symm

section
variable (rs : Rust) (clk : Clock)

def receiveStock.staged (input : ReceiveStockInput) : Staged SameTables Step.write true (receiveStock clk input) :=
  .check (within_require _ _) fun _ => .check (within_ensureForeignKeysExist _ _ _ _) fun _ =>
    .writes _ (record_session _ _ _ _ _)

def sellStock.staged (input : SellStockInput) : Staged SameTables Step.write true (sellStock clk input) :=
  .check (within_require _ _) fun _ => .check (within_require _ _) fun _ =>
    .check (within_ensureForeignKeysExist _ _ _ _) fun _ =>
      .check (within_requireStock _ _ _) fun _ => .writes _ (record_session _ _ _ _ _)

def returnStock.staged (input : ReturnStockInput) :
    Staged SameTables Step.write false (returnStock rs clk input) :=
  .check (within_require _ _) fun _ => .check (within_require _ _) fun _ =>
    .check (within_require _ _) fun _ =>
      .check (within_onlyIf (within_requireStock _ _ _)) fun _ =>
        .check (within_ensureForeignKeysExist _ _ _ _) fun _ =>
          .writes _ (record_autocommit _ _ _ _ _)

def moveStockBucket.staged (input : MoveStockBucketInput) :
    Staged SameTables Step.write false (moveStockBucket rs clk input) :=
  .check (within_require _ _) fun _ => .check (within_require _ _) fun _ =>
    .check (within_require _ _) fun _ => .check (within_require _ _) fun _ =>
      .check (within_requireStock _ _ _) fun _ =>
        .check (within_ensureForeignKeysExist _ _ _ _) fun _ =>
          .writes _ ((forget_bind_pure _ _).trans (recordMove_eq _ _ _))

def adjustStock.staged (input : AdjustStockInput) :
    Staged SameTables Step.write false (adjustStock rs clk input) :=
  .check (within_require _ _) fun _ =>
    .check (within_onlyIf (within_requireAdjustable _)) fun _ =>
      .check (within_ensureForeignKeysExist _ _ _ _) fun _ => .writes _ (record_autocommit _ _ _ _ _)

def createTransfer.staged (input : CreateTransferInput) :
    Staged SameTables Step.write false (createTransfer clk input) :=
  .check (within_require _ _) fun _ => .check (within_require _ _) fun _ =>
    .check (within_ensureForeignKeysExist _ _ _ _) fun _ =>
      .check (within_ensureForeignKeysExist _ _ _ _) fun _ =>
        .writes _ (single_autocommit (createStep clk input) _)

theorem status_record (x : Step) (m : Movement) (labels : Labels) (outboxId : String)
    (now : Instant) {α : Type} (a : α) :
    forget (context x.1 (autocommit fun d => x.2.run d) >>= fun _ =>
      recordMovement autocommit labels m outboxId now >>= fun _ => pure a) =
      carryOut false ((x :: m.steps labels outboxId now).map Step.write) := by
  rw [← Prog.bind_assoc, forget_bind_pure, recordMovement_autocommit]
  rfl

def dispatchTransfer.staged (transferId userId deviceId : String) :
    Staged SameTables Step.write false (dispatchTransfer clk transferId userId deviceId) :=
  .check (within_selectTransfer _) fun _ => .check (within_require _ _) fun _ =>
    .check (within_requireStock _ _ _) fun _ =>
      .check (within_ensureForeignKeysExist _ _ _ _) fun _ =>
        .writes _ (status_record (statusStep transferId "DISPATCHED" clk.now) _ _ _ _ _)

def receiveTransfer.staged (transferId userId deviceId : String) :
    Staged SameTables Step.write false (receiveTransfer clk transferId userId deviceId) :=
  .check (within_selectTransfer _) fun _ => .check (within_require _ _) fun _ =>
    .check (within_ensureForeignKeysExist _ _ _ _) fun _ =>
      .writes _ (status_record (statusStep transferId "RECEIVED" clk.now) _ _ _ _ _)

theorem onlyIf_record_status (p : Prop) [Decidable p] (x : Step) (m : Movement) (labels : Labels)
    (outboxId : String) (now : Instant) {α : Type} (a : α) :
    forget (onlyIf p (recordMovement autocommit labels m outboxId now) >>= fun _ =>
      context x.1 (autocommit fun d => x.2.run d) >>= fun _ => pure a) =
      carryOut false (((if p then m.steps labels outboxId now else []) ++ [x]).map Step.write) := by
  rw [← Prog.bind_assoc, forget_bind_pure, recordMovement_autocommit]
  refine Eq.trans ?_ (commitSteps_append _ [x]).symm
  rw [commitSteps_one]
  unfold onlyIf
  split <;> rfl

def cancelTransfer.staged (transferId userId deviceId : String) :
    Staged SameTables Step.write false (cancelTransfer clk transferId userId deviceId) :=
  .check (within_selectTransfer _) fun _ => .check (within_require _ _) fun _ =>
    .check (within_ensureForeignKeysExist _ _ _ _) fun _ =>
      .writes _ (onlyIf_record_status _ (statusStep transferId "CANCELLED" clk.now) _ _ _ _ _)

def markTransferException.staged (transferId : String) (notes : Option String) :
    Staged SameTables Step.write false (markTransferException clk transferId notes) :=
  .check (within_selectTransfer _) fun t => .check (within_require _ _) fun _ =>
    .writes _ (single_autocommit (flagStep transferId (exceptionNotes t.notes notes) clk.now) _)

theorem updateSteps_eq (input : UpdateTransactionInput) (old : InventoryTransaction)
    (deltaDiff : Int32) {α : Type} (a : α) :
    forget (context "Failed to update transaction"
        (autocommit fun db => .ok (db.updateTransaction input.transactionId input.edit)) >>= fun _ =>
      onlyIf (deltaDiff ≠ 0)
        (context balanceFailed (autocommit (·.addToBalance old.stock deltaDiff.toInt))) >>= fun _ =>
      context "Failed to update queued change"
        (autocommit fun db => .ok (db.updateEvent (eventId input.transactionId)
          (OutboxEvent.requeue (input.payload old clk.now)))) >>= fun _ => pure a) =
      carryOut false ((updateSteps clk input old deltaDiff).map Step.write) := by
  rw [← Prog.bind_assoc, ← Prog.bind_assoc, forget_bind_pure, Prog.bind_assoc]
  unfold updateSteps
  refine Eq.trans ?_ (commitSteps_append _ _).symm
  rw [commitSteps_append, commitSteps_one, commitSteps_one, Prog.bind_assoc]
  refine Prog.bind_congr fun _ => ?_
  unfold onlyIf
  split
  · rw [commitSteps_one]
    rfl
  · rfl

def updateTransaction.staged (input : UpdateTransactionInput) :
    Staged SameTables Step.write false (updateTransaction clk input) :=
  .check (within_selectTransaction _) fun row =>
    match row with
    | none => .raise _
    | some (old, oldDelta) => .check (within_require _ _) fun _ =>
      .writes _ (updateSteps_eq clk input old (input.quantityDelta - oldDelta) _)

theorem deleteSteps_eq (id : String) (r : InventoryTransaction) (q : Int32) :
    forget (context "Failed to reverse stock balance"
        (autocommit (·.addToBalance r.stock (-q).toInt)) >>= fun _ =>
      context "Failed to delete day-book entries" (autocommit .ok) >>= fun _ =>
      context "Failed to delete transaction"
        (autocommit fun db => .ok (db.deleteTransaction id)) >>= fun _ =>
      if r.syncStatus ∈ [.synced, .accepted] then
        context "Failed to queue tombstone change for sync"
          (autocommit (·.insertEvent (newEvent (generateId "OB" (clk.nanos 0))
            (voidEventId id) (voidPayload r q clk.now) clk.now)))
      else
        context "Failed to update queued change status"
          (autocommit fun db => .ok (db.updateEvent (eventId id) OutboxEvent.withdraw))) =
      carryOut false ((deleteSteps clk id r q).map Step.write) := by
  rw [forget_unit]
  refine Eq.trans ?_ (commitSteps_cons _ _).symm
  rw [commitSteps_cons, commitSteps_cons, commitSteps_one]
  split <;> rfl

def deleteTransaction.staged (transactionId : String) :
    Staged SameTables Step.write false (deleteTransaction clk transactionId) :=
  .check (within_selectTransaction _) fun row =>
    match row with
    | none => .writes [] rfl
    | some (r, q) => .writes _ (deleteSteps_eq clk transactionId r q)

end

namespace Command

/-- The command writes in one transaction. -/
def transactional : Command → Bool
  | .receiveStock _ | .sellStock _ => true
  | _ => false

/-- The checks of a command, with the steps that it is then to run. -/
def plan (rs : Rust) (clk : Clock) : Command → Prog String Db (List Step)
  | .receiveStock input => (receiveStock.staged clk input).plan
  | .sellStock input => (sellStock.staged clk input).plan
  | .returnStock input => (returnStock.staged rs clk input).plan
  | .moveStockBucket input => (moveStockBucket.staged rs clk input).plan
  | .adjustStock input => (adjustStock.staged rs clk input).plan
  | .createTransfer input => (createTransfer.staged clk input).plan
  | .dispatchTransfer t user device => (dispatchTransfer.staged clk t user device).plan
  | .receiveTransfer t user device => (receiveTransfer.staged clk t user device).plan
  | .cancelTransfer t user device => (cancelTransfer.staged clk t user device).plan
  | .updateTransaction input => (updateTransaction.staged clk input).plan
  | .deleteTransaction t => (deleteTransaction.staged clk t).plan

/-- **A command carries out its plan.** -/
theorem run_eq (rs : Rust) (clk : Clock) (cmd : Command) : cmd.run rs clk =
    cmd.plan rs clk >>= fun xs => carryOut cmd.transactional (xs.map Step.write) := by
  cases cmd with
  | receiveStock input => exact (receiveStock.staged clk input).forget_eq
  | sellStock input => exact (sellStock.staged clk input).forget_eq
  | returnStock input => exact (returnStock.staged rs clk input).forget_eq
  | moveStockBucket input => exact (moveStockBucket.staged rs clk input).forget_eq
  | adjustStock input => exact (adjustStock.staged rs clk input).forget_eq
  | createTransfer input => exact (createTransfer.staged clk input).forget_eq
  | dispatchTransfer t user device => exact (dispatchTransfer.staged clk t user device).forget_eq
  | receiveTransfer t user device => exact (receiveTransfer.staged clk t user device).forget_eq
  | cancelTransfer t user device => exact (cancelTransfer.staged clk t user device).forget_eq
  | updateTransaction input => exact (updateTransaction.staged clk input).forget_eq
  | deleteTransaction t =>
    exact (forget_unit _).symm.trans (deleteTransaction.staged clk t).forget_eq

end Command

end Desktop
