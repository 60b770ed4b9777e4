import InvenTory.Desktop.Proof.Effect

/-!
# What a sync run does to the desktop

The commands with which a sync run moves events and transactions through their states, when no statement is
made to fail. Reading and writing outcomes change the outbox event by event (`PerEvent`), and no payload;
the outcomes of the transactions change the ledger row by row (`PerTransaction`), and only where it says how far the
sync is.
-/

namespace Desktop

open Relational Sql Sql.Prog

/-- Each event has become `g` of it. -/
structure PerEvent (g : OutboxEvent → OutboxEvent) (d d' : Db) : Prop where
  transactions : d'.transactions = d.transactions
  balances : d'.balances = d.balances
  outbox : ∀ id, d'.outbox.get? id = (d.outbox.get? id).map g

/-- Each transaction has become `f` of it. -/
structure PerTransaction (f : InventoryTransaction → InventoryTransaction) (d d' : Db) : Prop where
  transactions : ∀ id, d'.transactions.get? id = (d.transactions.get? id).map f
  balances : d'.balances = d.balances
  outbox : d'.outbox = d.outbox

/-- `r'` is `r`, but for what it says of the sync. -/
def SameMovement (r r' : InventoryTransaction) : Prop :=
  ∃ syncStatus serverAcceptedAt, r' = { r with syncStatus, serverAcceptedAt }

variable {d d' d'' : Db} {now : Instant}

theorem PerEvent.refl (d : Db) : PerEvent id d d := ⟨rfl, rfl, fun _ => by rw [Option.map_id]; rfl⟩

theorem PerEvent.trans {g g' : OutboxEvent → OutboxEvent} (h : PerEvent g d d') (h' : PerEvent g' d' d'') :
    PerEvent (g' ∘ g) d d'' where
  transactions := h'.transactions.trans h.transactions
  balances := h'.balances.trans h.balances
  outbox id := by rw [h'.outbox, h.outbox, Option.map_map]

theorem perEvent_updateEvents (p : OutboxEvent → Bool) (f : OutboxEvent → OutboxEvent) :
    PerEvent (Db.changeWhere p f) d (d.updateEvents p f) :=
  ⟨rfl, rfl, Table.get?_modify d.outbox (Db.key_changeWhere p f)⟩

theorem PerTransaction.refl (d : Db) : PerTransaction id d d := ⟨fun _ => by rw [Option.map_id]; rfl, rfl, rfl⟩

theorem PerTransaction.trans {f f' : InventoryTransaction → InventoryTransaction} (h : PerTransaction f d d')
    (h' : PerTransaction f' d' d'') : PerTransaction (f' ∘ f) d d'' where
  transactions id := by rw [h'.transactions, h.transactions, Option.map_map]
  balances := h'.balances.trans h.balances
  outbox := h'.outbox.trans h.outbox

theorem SameMovement.refl (r : InventoryTransaction) : SameMovement r r := ⟨_, _, rfl⟩

theorem SameMovement.trans {r r' r'' : InventoryTransaction} (h : SameMovement r r')
    (h' : SameMovement r' r'') : SameMovement r r'' := by
  obtain ⟨_, _, rfl⟩ := h
  obtain ⟨_, _, rfl⟩ := h'
  exact ⟨_, _, rfl⟩

/-! ## Reading -/

/-- What a read that is not forced makes of an event. -/
def OutboxEvent.reread : OutboxEvent → OutboxEvent := Db.changeWhere (·.status = .sending) .recover

theorem reread_payload (e : OutboxEvent) : e.reread.payload = e.payload := by
  unfold OutboxEvent.reread Db.changeWhere
  split <;> rfl

theorem reread_eventId (e : OutboxEvent) : e.reread.eventId = e.eventId := Db.key_changeWhere _ _ e

theorem eval_getPendingOutboxEvents (now : Instant) (limit : Int32) (d : Db) : ∃ d',
    (getPendingOutboxEvents now (some limit) (some false)).eval d =
      (.ok (selectDue now (batchLimit (some limit)) d'), d') ∧ PerEvent OutboxEvent.reread d d' :=
  ⟨d.updateEvents (·.status = .sending) .recover, rfl, perEvent_updateEvents _ _⟩

/-- The events that are read are in the outbox, and due. -/
theorem mem_selectDue {limit : Nat} {e : OutboxEvent} (h : e ∈ selectDue now limit d) :
    e ∈ d.outbox.rows ∧ e.due now = true := by
  have hsorted := List.mem_of_mem_take h
  rw [List.mem_insertionSort] at hsorted
  exact List.mem_filter.1 hsorted

/-- No event is read twice. -/
theorem nodup_selectDue (now : Instant) (limit : Nat) (d : Db) :
    ((selectDue now limit d).map (·.eventId)).Nodup := by
  have hperm := (d.outbox.rows.filter (·.due now)).perm_insertionSort
    fun a b : OutboxEvent => a.createdAt ≤ b.createdAt
  have hsorted := (hperm.map (·.eventId)).nodup_iff.2
    (d.outbox.nodup.sublist (List.filter_sublist.map _))
  exact hsorted.sublist ((List.take_sublist _ _).map _)

/-! ## Outcomes of events -/

/-- What the updates make of an event. -/
def OutboxEvent.advance (now : Instant) (us : List StatusUpdate) (e : OutboxEvent) : OutboxEvent :=
  us.foldl (fun e u => Db.changeWhere (·.eventId = u.eventId) (.transition u now) e) e

theorem transition_status (u : StatusUpdate) (e : OutboxEvent) :
    (e.transition u now).status = u.targetStatus := by
  unfold OutboxEvent.transition
  split <;> simp [*]

theorem advance_cons (u : StatusUpdate) (us : List StatusUpdate) (e : OutboxEvent) :
    e.advance now (u :: us) =
      (Db.changeWhere (·.eventId = u.eventId) (.transition u now) e).advance now us := rfl

theorem advance_eventId (us : List StatusUpdate) (e : OutboxEvent) :
    (e.advance now us).eventId = e.eventId := by
  induction us generalizing e with
  | nil => rfl
  | cons u us ih => exact (ih _).trans (Db.key_changeWhere _ _ e)

theorem advance_payload (us : List StatusUpdate) (e : OutboxEvent) :
    (e.advance now us).payload = e.payload := by
  induction us generalizing e with
  | nil => rfl
  | cons u us ih =>
    rw [advance_cons, ih]
    unfold Db.changeWhere
    split
    · unfold OutboxEvent.transition
      split <;> rfl
    · rfl

theorem advance_other {us : List StatusUpdate} {e : OutboxEvent}
    (h : ∀ u ∈ us, u.eventId ≠ e.eventId) : e.advance now us = e := by
  induction us with
  | nil => rfl
  | cons u us ih =>
    rw [List.forall_mem_cons] at h
    have hsame : Db.changeWhere (·.eventId = u.eventId) (.transition u now) e = e :=
      if_neg fun he => h.1 (of_decide_eq_true he).symm
    rw [advance_cons, hsame]
    exact ih h.2

/-- An event with an update takes the status of the updates. -/
theorem advance_status {us : List StatusUpdate} {e : OutboxEvent} {status : Status}
    (hall : ∀ u ∈ us, u.targetStatus = status)
    (h : e.status = status ∨ ∃ u ∈ us, u.eventId = e.eventId) :
    (e.advance now us).status = status := by
  induction us generalizing e with
  | nil =>
    refine h.resolve_right ?_
    rintro ⟨u, hu, -⟩
    cases hu
  | cons u us ih =>
    rw [List.forall_mem_cons] at hall
    rw [advance_cons]
    refine ih hall.2 ?_
    by_cases hid : e.eventId = u.eventId
    · left
      have hnew : (Db.changeWhere (·.eventId = u.eventId) (.transition u now) e).status =
          (e.transition u now).status := by
        unfold Db.changeWhere
        rw [if_pos (decide_eq_true hid)]
      rw [hnew, transition_status, hall.1]
    · have hsame : Db.changeWhere (·.eventId = u.eventId) (.transition u now) e = e :=
        if_neg fun he => hid (of_decide_eq_true he)
      rw [hsame]
      refine h.imp_right ?_
      rintro ⟨v, hv, hve⟩
      rcases List.mem_cons.1 hv with rfl | hv
      · exact absurd hve.symm hid
      · exact ⟨v, hv, hve⟩

theorem eval_applyStatusUpdates (now : Instant) : ∀ (us : List StatusUpdate) (c : Conn Db),
    (∀ u ∈ us, (c.work.outbox.get? u.eventId).isSome) → ∃ c',
      (applyStatusUpdates now us).eval c = (.ok (), c') ∧
        PerEvent (OutboxEvent.advance now us) c.work c'.work
  | [], c, _ => ⟨c, rfl, .refl c.work⟩
  | u :: us, c, h => by
    rw [List.forall_mem_cons] at h
    obtain ⟨e, he⟩ := Option.isSome_iff_exists.1 h.1
    have hper := perEvent_updateEvents (d := c.work) (·.eventId = u.eventId) (.transition u now)
    have hfirst : (applyStatusUpdate now u).eval c =
        (.ok (), { c with work := c.work.updateEvent u.eventId (.transition u now) }) := by
      unfold applyStatusUpdate
      rw [eval_select_bind, he]
      rfl
    obtain ⟨c', hrest, hper'⟩ := eval_applyStatusUpdates now us
      { c with work := c.work.updateEvent u.eventId (.transition u now) } fun v hv => by
        obtain ⟨x, hx⟩ := Option.isSome_iff_exists.1 (h.2 v hv)
        exact (congrArg Option.isSome (hper.outbox v.eventId)).trans (by rw [hx]; rfl)
    refine ⟨c', ?_, hper.trans hper'⟩
    unfold applyStatusUpdates
    rw [eval_bind_ok hfirst]
    exact hrest

/-- **The outcomes of events** that there are. -/
theorem eval_updateOutboxEventStatuses (now : Instant) {us : List StatusUpdate}
    (h : ∀ u ∈ us, (d.outbox.get? u.eventId).isSome) : ∃ d',
      (updateOutboxEventStatuses now us).eval d = (.ok (), d') ∧
        PerEvent (OutboxEvent.advance now us) d d' := by
  obtain ⟨c, hc, hper⟩ := eval_applyStatusUpdates now us ⟨d, d⟩ h
  exact ⟨c.work, eval_session_ok hc, hper⟩

/-! ## Outcomes of transactions -/

/-- What an update makes of a transaction. -/
def TransactionUpdate.applyTo (u : TransactionUpdate) (r : InventoryTransaction) :
    InventoryTransaction :=
  if r.transactionId = u.transactionId then u.apply r else r

theorem sameMovement_applyTo (u : TransactionUpdate) (r : InventoryTransaction) :
    SameMovement r (u.applyTo r) := by
  unfold TransactionUpdate.applyTo
  split
  · exact ⟨_, _, rfl⟩
  · exact .refl r

theorem perTransaction_updateTransaction (u : TransactionUpdate) :
    PerTransaction u.applyTo d (d.updateTransaction u.transactionId u.apply) := by
  unfold Db.updateTransaction
  cases hr : d.transactions.get? u.transactionId with
  | none =>
    refine ⟨fun id => ?_, rfl, rfl⟩
    cases hid : d.transactions.get? id with
    | none => rfl
    | some r =>
      have hne : r.transactionId ≠ u.transactionId := fun he => by
        have hkey : r.transactionId = id := Table.key_of_get? hid
        rw [← he, hkey, hid] at hr
        cases hr
      rw [Option.map_some, TransactionUpdate.applyTo, if_neg hne]
  | some r =>
    have hkey : key r = u.transactionId := Table.key_of_get? hr
    have hnew : key (u.apply r) = key r := rfl
    refine ⟨fun id => ?_, rfl, rfl⟩
    rw [Table.get?_put, hnew, hkey]
    split
    · rename_i hid
      have hkey' : r.transactionId = u.transactionId := hkey
      rw [← hid, hr, Option.map_some, TransactionUpdate.applyTo, if_pos hkey']
    · rename_i hid
      cases hid' : d.transactions.get? id with
      | none => rfl
      | some r' =>
        have hkey' : r'.transactionId = id := Table.key_of_get? hid'
        rw [Option.map_some, TransactionUpdate.applyTo, if_neg fun he => hid (he.symm.trans hkey')]

/-- What the updates make of a transaction. -/
def InventoryTransaction.settle (us : List TransactionUpdate) (r : InventoryTransaction) :
    InventoryTransaction :=
  us.foldl (fun r u => u.applyTo r) r

theorem sameMovement_settle (us : List TransactionUpdate) (r : InventoryTransaction) :
    SameMovement r (r.settle us) := by
  induction us generalizing r with
  | nil => exact .refl r
  | cons u us ih => exact (sameMovement_applyTo u r).trans (ih _)

/-- A transaction takes the status of the updates, or there is none for it. -/
theorem settle_cases {us : List TransactionUpdate} {status : Status}
    (hall : ∀ u ∈ us, u.syncStatus = status) (r : InventoryTransaction) :
    (r.settle us).syncStatus = status ∨ (r.settle us).syncStatus = r.syncStatus ∧
      ∀ u ∈ us, u.transactionId ≠ r.transactionId := by
  induction us generalizing r with
  | nil => exact .inr ⟨rfl, fun _ hu => absurd hu List.not_mem_nil⟩
  | cons u us ih =>
    rw [List.forall_mem_cons] at hall
    have hfold : r.settle (u :: us) = (u.applyTo r).settle us := rfl
    rw [hfold]
    rcases ih hall.2 (u.applyTo r) with h | ⟨h, hrest⟩
    · exact .inl h
    · by_cases hid : r.transactionId = u.transactionId
      · left
        have hnew : (u.applyTo r).syncStatus = u.syncStatus := by
          rw [TransactionUpdate.applyTo, if_pos hid]
          rfl
        rw [h, hnew, hall.1]
      · right
        have hsame : u.applyTo r = r := if_neg hid
        rw [hsame] at h hrest ⊢
        exact ⟨h, List.forall_mem_cons.2 ⟨Ne.symm hid, hrest⟩⟩

theorem eval_applyTransactionUpdates : ∀ (us : List TransactionUpdate) (c : Conn Db), ∃ c',
    (applyTransactionUpdates us).eval c = (.ok (), c') ∧
      PerTransaction (InventoryTransaction.settle us) c.work c'.work
  | [], c => ⟨c, rfl, .refl c.work⟩
  | u :: us, c => by
    obtain ⟨c', hrest, hper⟩ := eval_applyTransactionUpdates us
      { c with work := c.work.updateTransaction u.transactionId u.apply }
    have hfirst : (context "Failed to update transaction sync status"
        (execute fun db => .ok (db.updateTransaction u.transactionId u.apply))).eval c =
          (.ok (), { c with work := c.work.updateTransaction u.transactionId u.apply }) := rfl
    refine ⟨c', ?_, (perTransaction_updateTransaction u).trans hper⟩
    unfold applyTransactionUpdates
    rw [eval_bind_ok hfirst]
    exact hrest

/-- **The outcomes of transactions.** -/
theorem eval_updateTransactionSyncStatuses (us : List TransactionUpdate) (d : Db) : ∃ d',
    (updateTransactionSyncStatuses us).eval d = (.ok (), d') ∧
      PerTransaction (InventoryTransaction.settle us) d d' := by
  obtain ⟨c, hc, hper⟩ := eval_applyTransactionUpdates us ⟨d, d⟩
  exact ⟨c.work, eval_session_ok hc, hper⟩

end Desktop
