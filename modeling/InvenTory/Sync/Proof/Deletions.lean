import InvenTory.Desktop.Proof.Drawn
import InvenTory.Sync.Deletions
import InvenTory.Sync.Proof.Corrections

/-!
# A transaction that is deleted before it is pushed

`delete_transaction` withdraws the event of a transaction that is not synced (`Retired`), so that no later
request has an item for it. A forced read takes the event back (`forced_read_sends`), and a run that has read
it before posts it (`earlier_read_sends`); without these no request has an item (`deleted_unsent`).
-/

namespace Sync.Deletions

open Desktop (Clock Command Db Instant OutboxEvent Planned SameTables Statement StatusUpdate Step
  TransactionUpdate eventId voidEventId)
open Relational Runs Sql Sql.Prog

/-! ## What the push loop changes -/

/-- Nothing is new in `d'`: an event is as before or has `p`, and so is the status of a transaction
or it has `q`. -/
structure Altered (p : OutboxEvent → Prop) (q : String → Prop) (d d' : Db) : Prop where
  rows : ∀ r' ∈ d'.transactions.rows, ∃ r ∈ d.transactions.rows,
    r'.transactionId = r.transactionId ∧ (r'.syncStatus = r.syncStatus ∨ q r.transactionId)
  events : ∀ e' ∈ d'.outbox.rows, ∃ e ∈ d.outbox.rows, e'.eventId = e.eventId ∧
    e'.payload.transactionId = e.payload.transactionId ∧ (e' = e ∨ p e)

/-- No event. -/
abbrev Nothing {α : Type} : α → Prop := fun _ => False

/-- Any event. -/
abbrev Anything {α : Type} : α → Prop := fun _ => True

section
variable {p p' : OutboxEvent → Prop} {q q' : String → Prop} {d d0 d1 d' : Db} {α : Type}

theorem Altered.refl (p : OutboxEvent → Prop) (q : String → Prop) (d : Db) : Altered p q d d where
  rows r hr := ⟨r, hr, rfl, .inl rfl⟩
  events e he := ⟨e, he, rfl, rfl, .inl rfl⟩

theorem Altered.mono (h : Altered p q d d') (hp : ∀ e, p e → p' e) (hq : ∀ t, q t → q' t) :
    Altered p' q' d d' where
  rows r' hr' := by
    obtain ⟨r, hr, hid, hs⟩ := h.rows r' hr'
    exact ⟨r, hr, hid, hs.imp_right (hq _)⟩
  events e' he' := by
    obtain ⟨e, he, hid, ht, hs⟩ := h.events e' he'
    exact ⟨e, he, hid, ht, hs.imp_right (hp _)⟩

/-- `p` only looks at the id of an event. -/
def ById (p : OutboxEvent → Prop) : Prop := ∀ e e', e.eventId = e'.eventId → p e → p e'

theorem Altered.trans (hp : ById p) (a b c : Db) (h : Altered p q a b) (h' : Altered p q b c) :
    Altered p q a c where
  rows r'' hr'' := by
    obtain ⟨r', hr', hid', hs'⟩ := h'.rows r'' hr''
    obtain ⟨r, hr, hid, hs⟩ := h.rows r' hr'
    refine ⟨r, hr, hid'.trans hid, ?_⟩
    rcases hs' with hs' | hq
    · exact hs.imp_left hs'.trans
    · exact .inr (hid ▸ hq)
  events e'' he'' := by
    obtain ⟨e', he', hid', ht', hs'⟩ := h'.events e'' he''
    obtain ⟨e, he, hid, ht, hs⟩ := h.events e' he'
    refine ⟨e, he, hid'.trans hid, ht'.trans ht, ?_⟩
    rcases hs' with rfl | hq
    · exact hs
    · exact .inr (hp e' e hid hq)

/-- Other tables are changed. -/
theorem Altered.of_same (ht : d'.transactions = d.transactions) (ho : d'.outbox = d.outbox) :
    Altered p q d d' where
  rows r hr := ⟨r, ht ▸ hr, rfl, .inl rfl⟩
  events e he := ⟨e, ho ▸ he, rfl, rfl, .inl rfl⟩

theorem altered_updateEvents {P : OutboxEvent → Bool} {f : OutboxEvent → OutboxEvent}
    (hf : ∀ e ∈ d.outbox.rows, P e = true →
      (f e).payload.transactionId = e.payload.transactionId) :
    Altered (fun e => P e = true) q d (d.updateEvents P f) where
  rows r hr := ⟨r, hr, rfl, .inl rfl⟩
  events e' he' := by
    obtain ⟨e, he, rfl⟩ := mem_updateEvents.1 he'
    refine ⟨e, he, Db.key_changeWhere P f e, ?_⟩
    unfold Db.changeWhere
    split
    · rename_i hP
      exact ⟨hf e he hP, .inr hP⟩
    · exact ⟨rfl, .inl rfl⟩

theorem altered_updateTransaction {id : String}
    {f : Desktop.InventoryTransaction → Desktop.InventoryTransaction}
    (hid : ∀ r, (f r).transactionId = r.transactionId)
    (hf : ∀ r, (f r).syncStatus = r.syncStatus ∨ q id) :
    Altered p q d (d.updateTransaction id f) := by
  unfold Db.updateTransaction
  split
  · rename_i r hr
    have hkey : r.transactionId = id := Table.key_of_get? hr
    refine ⟨fun r' hr' => ?_, (Altered.refl p q d).events⟩
    rcases Table.mem_put.1 hr' with rfl | ⟨hr', -⟩
    · exact ⟨r, Table.mem_of_get? hr, hid r, (hf r).imp_right fun h => hkey.symm ▸ h⟩
    · exact ⟨r', hr', rfl, .inl rfl⟩
  · exact .refl p q d

/-! ## The programs of the push loop -/

/-- The event has an update. -/
def Updates (us : List StatusUpdate) (e : OutboxEvent) : Prop := ∃ u ∈ us, u.eventId = e.eventId

theorem byId_updates (us : List StatusUpdate) : ById (Updates us) := by
  rintro e e' he ⟨u, hu, hid⟩
  exact ⟨u, hu, hid.trans he⟩

theorem byId_nothing : ById Nothing := fun _ _ _ h => h

theorem byId_anything : ById Anything := fun _ _ _ _ => trivial

theorem transition_payload (u : StatusUpdate) (now : Instant) (e : OutboxEvent) :
    (e.transition u now).payload = e.payload := by
  unfold OutboxEvent.transition
  split <;> rfl

theorem within_applyStatusUpdate (now : Instant) {us : List StatusUpdate} {u : StatusUpdate}
    (hu : u ∈ us) : Within (fun c c' => Altered (Updates us) Nothing c.work c'.work)
      (Desktop.applyStatusUpdate now u) := by
  have hrefl : ∀ d, Altered (Updates us) Nothing d d := .refl _ _
  refine .seq (fun a b c => Altered.trans (byId_updates us) a.work b.work c.work)
    (.select hrefl _) fun e => ?_
  split
  · exact .raise (fun c => hrefl c.work) _
  · refine .mapError _ (.execute hrefl fun d d' h => ?_)
    cases h
    refine Altered.mono (altered_updateEvents fun e _ _ => ?_) (fun e he => ?_) fun _ h => h
    · exact congrArg _ (transition_payload u now e)
    · exact ⟨u, hu, (of_decide_eq_true he).symm⟩

theorem within_applyStatusUpdates (now : Instant) (us : List StatusUpdate) :
    ∀ vs : List StatusUpdate, vs ⊆ us →
      Within (fun c c' => Altered (Updates us) Nothing c.work c'.work)
        (Desktop.applyStatusUpdates now vs)
  | [], _ => .ret (fun c => .refl _ _ c.work) ()
  | v :: vs, h =>
    .seq (fun a b c => Altered.trans (byId_updates us) a.work b.work c.work)
      (within_applyStatusUpdate now (h List.mem_cons_self))
      fun _ => within_applyStatusUpdates now us vs fun _ hx => h (List.mem_cons_of_mem v hx)

/-- **Status updates** change the events that they are for. -/
theorem within_updateStatuses (now : Instant) (us : List StatusUpdate) :
    Within (Altered (Updates us) Nothing) (Desktop.updateOutboxEventStatuses now us) :=
  .session (.refl _ _) (within_applyStatusUpdates now us us fun _ h => h)

theorem within_applyTransactionUpdates (us : List TransactionUpdate) :
    ∀ vs : List TransactionUpdate, vs ⊆ us →
      Within (fun c c' => Altered Nothing (fun t => ∃ u ∈ us, u.transactionId = t) c.work c'.work)
        (Desktop.applyTransactionUpdates vs)
  | [], _ => .ret (fun c => .refl _ _ c.work) ()
  | v :: vs, h => by
    refine .seq (fun a b c => Altered.trans byId_nothing a.work b.work c.work) ?_ fun _ =>
      within_applyTransactionUpdates us vs fun _ hx => h (List.mem_cons_of_mem v hx)
    refine .mapError _ (.execute (.refl _ _) fun d d' hd => ?_)
    cases hd
    exact altered_updateTransaction (fun _ => rfl) fun _ => .inr ⟨v, h List.mem_cons_self, rfl⟩

theorem within_updateTransactionStatuses (us : List TransactionUpdate) :
    Within (Altered Nothing fun t => ∃ u ∈ us, u.transactionId = t)
      (Desktop.updateTransactionSyncStatuses us) :=
  .session (.refl _ _) (within_applyTransactionUpdates us us fun _ h => h)

theorem within_cleanup (now : Instant) (retentionDays : Option Int) :
    Within (Altered Nothing Nothing) (Desktop.cleanupExpiredOutboxEvents now retentionDays) := by
  refine .mapError _ (.autocommit (.refl _ _) fun d d' h => ?_)
  cases h
  refine ⟨(Altered.refl Nothing _ d).rows, fun e he => ?_⟩
  exact ⟨e, (Table.mem_filter.1 he).1, rfl, rfl, .inl rfl⟩

/-! ## Applying a snapshot -/

/-- What a snapshot is to leave as it is. -/
abbrev Unaltered (c c' : Conn Db) : Prop := Altered Nothing Nothing c.work c'.work

theorem unaltered_refl (c : Conn Db) : Unaltered c c := .refl _ _ c.work

theorem unaltered_trans (a b c : Conn Db) : Unaltered a b → Unaltered b c → Unaltered a c :=
  Altered.trans byId_nothing a.work b.work c.work

theorem within_upsert {f : Db → Except String Db}
    (hf : ∀ d d', f d = .ok d' → Altered Nothing Nothing d d') (n : Nat) :
    Within Unaltered (execute f >>= fun _ => pure n) :=
  .seq unaltered_trans (.execute (.refl _ _) hf) fun _ => .ret unaltered_refl n

theorem upsertProduct_unaltered {p : Desktop.Product} {d d' : Db} (h : d.upsertProduct p = .ok d') :
    Altered Nothing Nothing d d' := by
  unfold Db.upsertProduct at h
  split at h <;> cases h
  exact .of_same rfl rfl

theorem upsertStore_unaltered {x : Desktop.Store} {d d' : Db} (h : d.upsertStore x = .ok d') :
    Altered Nothing Nothing d d' := by
  unfold Db.upsertStore at h
  split at h <;> cases h
  exact .of_same rfl rfl

theorem setProductActive_unaltered (d : Db) (id : String) (isActive : Bool) :
    Altered Nothing Nothing d (d.setProductActive id isActive) := by
  unfold Db.setProductActive
  split
  · exact .of_same rfl rfl
  · exact .refl _ _ d

theorem setStoreActive_unaltered (d : Db) (id : String) (isActive : Bool) :
    Altered Nothing Nothing d (d.setStoreActive id isActive) := by
  unfold Db.setStoreActive
  split
  · exact .of_same rfl rfl
  · exact .refl _ _ d

theorem setBalance_unaltered {b : Desktop.StockBalance} {d d' : Db} (h : d.setBalance b = .ok d') :
    Altered Nothing Nothing d d' := by
  obtain ⟨ht, ho, -⟩ := Desktop.upsertBalance_ok h
  exact .of_same ht ho

theorem within_pullProduct (p : Desktop.Product) : Within Unaltered (Desktop.pullProduct p) := by
  have hupsert := within_upsert (fun _ _ => upsertProduct_unaltered (p := p)) 1
  unfold Desktop.pullProduct
  split
  · refine .seq unaltered_trans (.attempt (.select (.refl _ _) _)) fun row => ?_
    split
    · split
      · exact hupsert
      · refine within_upsert (fun d d' h => ?_) 0
        cases h
        exact setProductActive_unaltered d _ _
    · exact hupsert
  · exact hupsert

theorem within_pullStore (x : Desktop.Store) : Within Unaltered (Desktop.pullStore x) := by
  have hupsert := within_upsert (fun _ _ => upsertStore_unaltered (x := x)) 1
  unfold Desktop.pullStore
  split
  · refine .seq unaltered_trans (.attempt (.select (.refl _ _) _)) fun row => ?_
    split
    · split
      · exact hupsert
      · refine within_upsert (fun d d' h => ?_) 0
        cases h
        exact setStoreActive_unaltered d _ _
    · exact hupsert
  · exact hupsert

theorem within_pullAll {ρ : Type} {f : ρ → Prog String (Conn Db) Nat}
    (hf : ∀ r, Within Unaltered (f r)) : ∀ rs : List ρ, Within Unaltered (Desktop.pullAll f rs)
  | [] => .ret unaltered_refl 0
  | r :: rs => .seq unaltered_trans (hf r) fun _ =>
      .seq unaltered_trans (within_pullAll hf rs) fun _ => .ret unaltered_refl _

/-- **A snapshot** brings neither transactions nor events. -/
theorem within_applySyncPull (products : List Desktop.Product) (stores : List Desktop.Store)
    (stockBalances : List Desktop.StockBalanceSnapshot) :
    Within (Altered Nothing Nothing) (Desktop.applySyncPull products stores stockBalances) := by
  refine .mapError _ (.session (.refl _ _) ?_)
  refine .seq unaltered_trans (within_pullAll within_pullProduct products) fun _ => ?_
  refine .seq unaltered_trans (within_pullAll within_pullStore stores) fun _ => ?_
  refine .seq unaltered_trans (within_pullAll (fun b => ?_) stockBalances) fun _ =>
    .ret unaltered_refl _
  exact within_upsert (fun _ _ => setBalance_unaltered) 1

/-! ## Reading the queue -/

/-- What the repair of the events `es` makes of a database that has come from `d0`. -/
theorem within_repair {d0 : Db} : ∀ es : List OutboxEvent, es ⊆ d0.outbox.rows →
    Within (fun d d' => Altered Anything Nothing d0 d → Altered Anything Nothing d0 d')
      (Desktop.repairTransfers es)
  | [], _ => .ret (fun _ h => h) ()
  | e :: es, hes => by
    have htrans : ∀ a b c : Db, (Altered Anything Nothing d0 a → Altered Anything Nothing d0 b) →
        (Altered Anything Nothing d0 b → Altered Anything Nothing d0 c) →
        Altered Anything Nothing d0 a → Altered Anything Nothing d0 c := fun _ _ _ h h' => h' ∘ h
    have hrefl : ∀ d : Db, Altered Anything Nothing d0 d → Altered Anything Nothing d0 d :=
      fun _ h => h
    refine .seq htrans (Desktop.within_onlyIf_of hrefl ?_) fun _ => within_repair es fun _ hx =>
      hes (List.mem_cons_of_mem e hx)
    refine .seq htrans (.attempt (.autocommit hrefl fun d d' hd h => ?_)) fun _ =>
      .seq htrans (.attempt (.autocommit hrefl fun d d' hd h => ?_)) fun _ => .ret hrefl ()
    · -- the event that is rewritten has the transaction that it had in `d0`
      cases hd
      refine ⟨h.rows, fun e' he' => ?_⟩
      obtain ⟨x, hx, rfl⟩ := mem_updateEvents.1 he'
      obtain ⟨x0, hx0, hid, ht, -⟩ := h.events x hx
      refine ⟨x0, hx0, (Db.key_changeWhere _ _ x).trans hid, ?_, .inr trivial⟩
      unfold Db.changeWhere
      split
      · rename_i hxe
        have heq : x0 = e := by
          have hget := Table.get?_of_mem hx0
          have hget' := Table.get?_of_mem (hes List.mem_cons_self)
          have hkey : key x0 = key e := hid.symm.trans (of_decide_eq_true hxe)
          rw [hkey, hget'] at hget
          exact (Option.some.inj hget).symm
        rw [heq]
      · exact ht
    · cases hd
      exact h.trans byId_anything _ _ _ (altered_updateTransaction (fun _ => rfl) fun _ => .inl rfl)

theorem within_resetForced : Within (Altered Anything Nothing) Desktop.resetForced := by
  have htrans := Altered.trans (q := Nothing) byId_anything
  have hupdate : ∀ (label : String) (P : OutboxEvent → Bool) (f : OutboxEvent → OutboxEvent),
      (∀ e, (f e).payload = e.payload) → Within (Altered Anything Nothing)
        (Desktop.context label (autocommit fun db => .ok (db.updateEvents P f))) := by
    refine fun label P f hf => .mapError _ (.autocommit (.refl _ _) fun d d' h => ?_)
    cases h
    refine Altered.mono (altered_updateEvents fun e _ _ => ?_) (fun _ _ => trivial) fun _ h => h
    rw [hf]
  refine .seq htrans (hupdate _ _ _ fun _ => rfl) fun _ =>
    .seq htrans (hupdate _ _ _ fun _ => rfl) fun _ => ?_
  intro F d r d' hy
  rcases yields_bind hy with ⟨e, h1, -⟩ | ⟨es, d1, h1, h2⟩
  · exact Within.mapError (Q := Altered Anything Nothing) _ (.query (.refl _ _) _) F d _ d' h1
  · obtain ⟨rfl, rfl⟩ := yields_query_ok (Desktop.yields_context_ok h1)
    exact within_repair _ (fun _ h => h) F d1 _ d' h2 (.refl _ _ _)

theorem within_resetSending :
    Within (Altered (·.status = .sending) Nothing) Desktop.resetSending := by
  refine .mapError _ (.autocommit (.refl _ _) fun d d' h => ?_)
  cases h
  exact Altered.mono (altered_updateEvents fun _ _ _ => rfl) (fun _ => of_decide_eq_true) fun _ h => h

theorem getPending_eq (now : Instant) (limit : Option Int32) (force : Bool) :
    Desktop.getPendingOutboxEvents now limit (some force) =
      (if force then Desktop.resetForced else Desktop.resetSending) >>= fun _ =>
        Desktop.context "Failed to query pending changes"
          (query (Desktop.selectDue now (Desktop.batchLimit limit))) := by
  cases force <;> rfl

/-- **A read** takes back what is being sent; a forced one may take back anything. -/
theorem within_getPending (now : Instant) (limit : Option Int32) (force : Bool) :
    Within (Altered (fun e => force = true ∨ e.status = .sending) Nothing)
      (Desktop.getPendingOutboxEvents now limit (some force)) := by
  rw [getPending_eq]
  refine .before ?_ fun _ => .mapError _ (.query (fun _ => rfl) _)
  cases force with
  | true => exact within_resetForced.mono fun _ _ h => h.mono (fun _ _ => .inl rfl) fun _ h => h
  | false => exact within_resetSending.mono fun _ _ h => h.mono (fun _ => .inr) fun _ h => h

/-- The events that are read are in the outbox, and due. -/
theorem getPending_rows {F : String → Prop} {now : Instant} {limit : Option Int32}
    {force : Bool} {rows : List OutboxEvent}
    (h : (Desktop.getPendingOutboxEvents now limit (some force)).Yields F d (.ok rows) d') :
    ∀ e ∈ rows, e ∈ d'.outbox.rows ∧ e.due now = true := by
  rw [getPending_eq] at h
  obtain ⟨_, d1, -, h1⟩ := yields_bind_ok h
  obtain ⟨rfl, rfl⟩ := yields_query_ok (Desktop.yields_context_ok h1)
  intro e he
  have hsorted := List.mem_of_mem_take he
  rw [List.mem_insertionSort] at hsorted
  exact List.mem_filter.1 hsorted

end

/-! ## The statements of the commands -/

/-- An id that a command draws. -/
def Minted (t : String) : Prop := ∃ rest, t = "TX" ++ rest

theorem eventId_inj {t t' : String} : eventId t = eventId t' ↔ t = t' :=
  String.append_right_inj "EVT-"

/-- No event of a drawn id looks like a tombstone. -/
theorem voidEventId_ne {t : String} (ht : Minted t) (t' : String) : voidEventId t' ≠ eventId t := by
  obtain ⟨rest, rfl⟩ := ht
  intro h
  have hl := congrArg String.toList h
  simp [voidEventId, eventId] at hl

/-- The event of a transaction, or the tombstone of one that was sent. -/
structure Owned (S : String → Prop) (e : OutboxEvent) : Prop where
  minted : Minted e.payload.transactionId
  id : e.eventId = eventId e.payload.transactionId ∨
    e.eventId = voidEventId e.payload.transactionId ∧ S e.payload.transactionId

/-- Every event is owned, and synced transactions were sent. -/
structure Tidy (S : String → Prop) (d : Db) : Prop where
  minted : ∀ r ∈ d.transactions.rows, Minted r.transactionId
  synced : ∀ r ∈ d.transactions.rows, r.syncStatus ∈ [.synced, .accepted] → S r.transactionId
  events : ∀ e ∈ d.outbox.rows, Owned S e

/-- The transaction `t` is deleted and its event withdrawn. -/
structure Gone (t : String) (d : Db) : Prop where
  rows : ∀ r ∈ d.transactions.rows, r.transactionId ≠ t
  events : ∀ e ∈ d.outbox.rows, e.eventId = eventId t → e.status = .permanentRejection

section
variable {p : OutboxEvent → Prop} {S S' : String → Prop} {d d' : Db} {t : String} {x : Statement}

theorem Owned.mono {e : OutboxEvent} (h : Owned S e) (hS : ∀ t, S t → S' t) : Owned S' e :=
  ⟨h.minted, h.id.imp_right fun hv => ⟨hv.1, hS _ hv.2⟩⟩

theorem Tidy.mono (h : Tidy S d) (hS : ∀ t, S t → S' t) : Tidy S' d :=
  ⟨h.minted, fun r hr hs => hS _ (h.synced r hr hs), fun e he => (h.events e he).mono hS⟩

theorem Tidy.altered (h : Tidy S d) (ha : Altered p S d d') : Tidy S d' where
  minted r' hr' := by
    obtain ⟨r, hr, hid, -⟩ := ha.rows r' hr'
    exact hid ▸ h.minted r hr
  synced r' hr' hs' := by
    obtain ⟨r, hr, hid, hs | hs⟩ := ha.rows r' hr'
    · exact hid ▸ h.synced r hr (hs ▸ hs')
    · exact hid ▸ hs
  events e' he' := by
    obtain ⟨e, he, hid, ht, -⟩ := ha.events e' he'
    have howned := h.events e he
    constructor
    · rw [ht]
      exact howned.minted
    · rw [hid, ht]
      exact howned.id

theorem Gone.altered {q : String → Prop} (h : Gone t d) (ha : Altered p q d d')
    (hp : ∀ e ∈ d.outbox.rows, e.eventId = eventId t → ¬ p e) : Gone t d' where
  rows r' hr' := by
    obtain ⟨r, hr, hid, -⟩ := ha.rows r' hr'
    exact hid ▸ h.rows r hr
  events e' he' hid' := by
    obtain ⟨e, he, hid, -, rfl | hpe⟩ := ha.events e' he'
    · exact h.events e' he hid'
    · exact absurd hpe (hp e he (hid.symm.trans hid'))

/-- The statement neither adds a transaction or an event nor changes an event. -/
def Quiet : Statement → Prop
  | .insertTransaction _ | .insertEvent _ | .requeue _ _ | .withdraw _ => False
  | _ => True

theorem altered_quiet {q : String → Prop} (h : x.run d = .ok d') (hx : Quiet x) :
    Altered p q d d' := by
  cases x with
  | insertTransaction r => cases hx
  | insertEvent e => cases hx
  | requeue id y => cases hx
  | withdraw id => cases hx
  | addToBalance k delta =>
    obtain ⟨ht, ho, -⟩ := Desktop.addToBalance_ok h
    exact .of_same ht ho
  | insertTransfer y =>
    simp only [Statement.run, Db.insertTransfer] at h
    split at h
    · cases h
    · split at h <;> cases h
      exact .of_same rfl rfl
  | setTransferStatus id status now =>
    cases h
    unfold Db.updateTransfer
    split
    · exact .of_same rfl rfl
    · exact .refl p q d
  | flagTransfer id notes now =>
    cases h
    unfold Db.updateTransfer
    split
    · exact .of_same rfl rfl
    · exact .refl p q d
  | editTransaction input =>
    cases h
    exact altered_updateTransaction (fun _ => rfl) fun _ => .inl rfl
  | deleteDayBookEntries =>
    cases h
    exact .refl p q d
  | deleteTransaction id =>
    cases h
    exact ⟨fun r hr => ⟨r, (List.mem_filter.1 hr).1, rfl, .inl rfl⟩, (Altered.refl p q d).events⟩

theorem mem_insertTransaction {r r' : Desktop.InventoryTransaction}
    (h : d.insertTransaction r = .ok d') (hr' : r' ∈ d'.transactions.rows) :
    r' = r ∨ r' ∈ d.transactions.rows := by
  obtain ⟨-, ht, -⟩ := Desktop.insertTransaction_ok h
  rw [ht] at hr'
  exact (Table.mem_put.1 hr').imp_right And.left

theorem mem_insertEvent {e e' : OutboxEvent} (h : d.insertEvent e = .ok d')
    (he' : e' ∈ d'.outbox.rows) : e' = e ∨ e' ∈ d.outbox.rows := by
  obtain ⟨-, ho, -⟩ := Desktop.insertEvent_ok h
  rw [ho] at he'
  exact (Table.mem_put.1 he').imp_right And.left

theorem mem_updateEvent {id : String} {f : OutboxEvent → OutboxEvent} {e' : OutboxEvent}
    (he' : e' ∈ (d.updateEvent id f).outbox.rows) : e' ∈ d.outbox.rows ∨
      ∃ e ∈ d.outbox.rows, e.eventId = id ∧ e' = { f e with eventId := id } := by
  obtain ⟨e, he, rfl⟩ := mem_updateEvents.1 he'
  unfold Db.changeWhere
  split
  · rename_i hid
    have hid := of_decide_eq_true hid
    exact .inr ⟨e, he, hid, by rw [hid]⟩
  · exact .inl he

/-- The statement leaves a tidy database tidy. -/
def Fits (S : String → Prop) : Statement → Prop
  | .insertTransaction r => Minted r.transactionId ∧ r.syncStatus = .pending
  | .insertEvent e => Owned S e
  | .requeue id y => Minted id ∧ y.transactionId = id
  | _ => True

theorem Tidy.statement (h : Tidy S d) (hx : Fits S x) (hr : x.run d = .ok d') : Tidy S d' := by
  cases x with
  | insertTransaction r =>
    obtain ⟨-, -, -, ho⟩ := Desktop.insertTransaction_ok hr
    refine ⟨fun r' hr' => ?_, fun r' hr' hs => ?_, fun e he => h.events e (ho ▸ he)⟩
    · rcases mem_insertTransaction hr hr' with rfl | hr'
      · exact hx.1
      · exact h.minted r' hr'
    · rcases mem_insertTransaction hr hr' with rfl | hr'
      · rw [hx.2] at hs
        cases hs with
        | tail _ hs => cases hs with | tail _ hs => cases hs
      · exact h.synced r' hr' hs
  | insertEvent e =>
    obtain ⟨-, -, ht, -⟩ := Desktop.insertEvent_ok hr
    refine ⟨ht ▸ h.minted, ht ▸ h.synced, fun e' he' => ?_⟩
    rcases mem_insertEvent hr he' with rfl | he'
    · exact hx
    · exact h.events e' he'
  | requeue id y =>
    cases hr
    refine ⟨h.minted, h.synced, fun e' he' => ?_⟩
    rcases mem_updateEvent he' with he' | ⟨e, -, -, rfl⟩
    · exact h.events e' he'
    · obtain ⟨hid, rfl⟩ := hx
      exact ⟨hid, .inl rfl⟩
  | withdraw id =>
    cases hr
    exact h.altered (altered_updateEvents fun _ _ _ => rfl)
  | _ => exact h.altered (p := Nothing) (altered_quiet hr trivial)

/-- The statement writes nothing of the transaction `t`. -/
def Avoids (t : String) : Statement → Prop
  | .insertTransaction r => r.transactionId ≠ t
  | .insertEvent e => e.eventId ≠ eventId t
  | .requeue id _ => id ≠ t
  | _ => True

theorem Gone.statement (h : Gone t d) (hx : Avoids t x) (hr : x.run d = .ok d') : Gone t d' := by
  cases x with
  | insertTransaction r =>
    obtain ⟨-, -, -, ho⟩ := Desktop.insertTransaction_ok hr
    refine ⟨fun r' hr' => ?_, ho ▸ h.events⟩
    rcases mem_insertTransaction hr hr' with rfl | hr'
    · exact hx
    · exact h.rows r' hr'
  | insertEvent e =>
    obtain ⟨-, -, ht, -⟩ := Desktop.insertEvent_ok hr
    refine ⟨ht ▸ h.rows, fun e' he' hid => ?_⟩
    rcases mem_insertEvent hr he' with rfl | he'
    · exact absurd hid hx
    · exact h.events e' he' hid
  | requeue id y =>
    cases hr
    refine ⟨h.rows, fun e' he' hid => ?_⟩
    rcases mem_updateEvent he' with he' | ⟨e, -, -, rfl⟩
    · exact h.events e' he' hid
    · exact absurd (eventId_inj.1 hid) hx
  | withdraw id =>
    cases hr
    refine ⟨h.rows, fun e' he' hid => ?_⟩
    rcases mem_updateEvent he' with he' | ⟨e, -, -, rfl⟩
    · exact h.events e' he' hid
    · rfl
  | _ => exact h.altered (p := Nothing) (q := Nothing) (altered_quiet hr trivial) fun _ _ _ h => h

end

/-! ## Commands -/

section
variable {F : String → Prop} {S : String → Prop} {rs : Desktop.Rust} {clk : Clock} {cmd : Command}
  {d d1 : Db} {t : String} {xs : List Step}

theorem mem_deleteSteps {id : String} {r : Desktop.InventoryTransaction} {q : Int32} {x : Step}
    (hx : x ∈ Desktop.deleteSteps clk id r q) : Quiet x.2 ∨ x.2 = .withdraw id ∨
      r.syncStatus ∈ [.synced, .accepted] ∧ ∃ outboxId, x.2 = .insertEvent
        (Desktop.newEvent outboxId (voidEventId id) (Desktop.voidPayload r q clk.now) clk.now) := by
  simp only [Desktop.deleteSteps, List.mem_cons, List.not_mem_nil, or_false] at hx
  rcases hx with rfl | rfl | rfl | rfl
  · exact .inl trivial
  · exact .inl trivial
  · exact .inl trivial
  · split
    · rename_i hs
      exact .inr (.inr ⟨by simpa using hs, _, rfl⟩)
    · exact .inr (.inl rfl)

theorem mem_updateSteps {input : Desktop.UpdateTransactionInput} {r : Desktop.InventoryTransaction}
    {q : Int32} {x : Step} (hx : x ∈ Desktop.updateSteps clk input r q) :
    Quiet x.2 ∨ x.2 = .requeue input.transactionId (input.payload r clk.now) := by
  simp only [Desktop.updateSteps, List.mem_append, List.mem_singleton] at hx
  rcases hx with (rfl | hx) | rfl
  · exact .inl trivial
  · split at hx
    · cases List.mem_singleton.1 hx
      exact .inl trivial
    · cases hx
  · exact .inr rfl

theorem fits_of_quiet {x : Statement} (hx : Quiet x) : Fits S x := by
  cases x <;> trivial

theorem avoids_of_quiet {x : Statement} (hx : Quiet x) : Avoids t x := by
  cases x <;> trivial

theorem fits_of_fresh {x : Statement} (hx : x.Fresh clk) : Fits S x := by
  cases x with
  | insertTransaction r => exact ⟨hx.1.proper, hx.2⟩
  | insertEvent e => exact ⟨hx.1.proper, .inl hx.2⟩
  | requeue id y => cases hx
  | _ => trivial

theorem avoids_of_fresh {x : Statement} (hx : x.Fresh clk) (ht : ¬ clk.Draws t) : Avoids t x := by
  cases x with
  | insertTransaction r => exact fun h => ht (h ▸ hx.1)
  | insertEvent e =>
    intro h
    rw [hx.2] at h
    exact ht (eventId_inj.1 h ▸ hx.1)
  | requeue id y => cases hx
  | _ => trivial

theorem plan_fits (h : Tidy S d1) (hy : (cmd.plan rs clk).Yields F d (.ok xs) d1) :
    ∀ x ∈ xs, Fits S x.2 := by
  intro x hx
  cases hc : cmd.creates with
  | true => exact fits_of_fresh (Command.fresh hc hy x hx)
  | false =>
    cases cmd with
    | updateTransaction input =>
      obtain ⟨old, q, ht, -, rfl⟩ := Desktop.updateTransaction_plan hy
      have hid : old.transactionId = input.transactionId := Table.key_of_get? ht
      rcases mem_updateSteps hx with hx | hx
      · exact fits_of_quiet hx
      · rw [hx]
        exact ⟨hid ▸ h.minted old (Table.mem_of_get? ht), rfl⟩
    | deleteTransaction id =>
      rcases Desktop.deleteTransaction_plan hy with ⟨-, rfl⟩ | ⟨r, q, rfl, ht, -, rfl⟩
      · cases hx
      have hr := Table.mem_of_get? ht
      rcases mem_deleteSteps hx with hx | hx | ⟨hs, outboxId, hx⟩
      · exact fits_of_quiet hx
      · rw [hx]
        trivial
      · rw [hx]
        exact ⟨h.minted r hr, .inr ⟨rfl, h.synced r hr hs⟩⟩
    | _ => cases hc

theorem plan_avoids (h : Gone t d1) (ht : Minted t) (hdraws : ¬ clk.Draws t)
    (hy : (cmd.plan rs clk).Yields F d (.ok xs) d1) : ∀ x ∈ xs, Avoids t x.2 := by
  intro x hx
  cases hc : cmd.creates with
  | true => exact avoids_of_fresh (Command.fresh hc hy x hx) hdraws
  | false =>
    cases cmd with
    | updateTransaction input =>
      obtain ⟨old, q, hold, -, rfl⟩ := Desktop.updateTransaction_plan hy
      have hid : old.transactionId = input.transactionId := Table.key_of_get? hold
      rcases mem_updateSteps hx with hx | hx
      · exact avoids_of_quiet hx
      · rw [hx]
        exact fun he => h.rows old (Table.mem_of_get? hold) (hid.trans he)
    | deleteTransaction id =>
      rcases Desktop.deleteTransaction_plan hy with ⟨-, rfl⟩ | ⟨r, q, rfl, -, -, rfl⟩
      · cases hx
      rcases mem_deleteSteps hx with hx | hx | ⟨-, outboxId, hx⟩
      · exact avoids_of_quiet hx
      · rw [hx]
        trivial
      · rw [hx]
        exact voidEventId_ne ht r.transactionId
    | _ => cases hc

theorem through_steps {P : Db → Prop} {G : Statement → Prop} (h : P d) (hG : ∀ x ∈ xs, G x.2)
    (hstep : ∀ {x : Statement} {a b : Db}, P a → G x → x.run a = .ok b → P b) :
    Through P (xs.map Step.write) d := by
  refine through_of_kept h fun y hy a b hab ha => ?_
  obtain ⟨x, hx, rfl⟩ := List.mem_map.1 hy
  exact hstep ha (hG x hx) hab

/-- **Commands** leave a tidy database tidy, whether or not they fail. -/
theorem Tidy.call (h : Tidy S d) (c : Desktop.Call) : Tidy S (c.after rs d) :=
  Command.run_through c.faults h
    (fun _ hs h => h.altered (p := Nothing) (.of_same hs.transactions hs.outbox))
    fun _ _ _ hy h => through_steps h (plan_fits h hy) fun ha hG => ha.statement hG

/-- **A deleted transaction** stays so, unless its id is drawn again. -/
theorem Gone.call (h : Gone t d) (ht : Minted t) (c : Desktop.Call) (hdraws : ¬ c.clk.Draws t) :
    Gone t (c.after rs d) :=
  Command.run_through c.faults h
    (fun _ hs h => h.altered (p := Nothing) (q := Nothing) (.of_same hs.transactions hs.outbox)
      fun _ _ _ hp => hp)
    fun _ _ _ hy h => through_steps h (plan_avoids h ht hdraws hy) fun ha hG => ha.statement hG

/-- The deletion itself. -/
theorem Gone.of_delete {outboxId : String} {now : Instant} {r : Desktop.InventoryTransaction}
    {q : Int32} {d' : Db} (h : Desktop.Deleted outboxId now r q d d')
    (hs : r.syncStatus ∉ [.synced, .accepted]) : Gone r.transactionId d' where
  rows r' hr' := by
    rw [h.transactions] at hr'
    exact of_decide_eq_true (List.mem_filter.1 hr').2
  events e' he' hid := by
    rw [h.withdrawn hs] at he'
    obtain ⟨e, he, rfl⟩ := mem_updateEvents.1 he'
    have hid' : e.eventId = eventId r.transactionId := (Db.key_changeWhere _ _ e).symm.trans hid
    simp only [Db.changeWhere, hid', decide_true, if_true, OutboxEvent.withdraw]

end

/-! ## Stations -/

namespace Stage

/-- The events that a run has read. -/
def rows : Stage → List OutboxEvent
  | .idle => []
  | .fetched rows | .marked rows | .writing rows _ _ _ | .failed rows _ => rows

/-- The events that a run has posted. -/
def posted : Stage → List OutboxEvent
  | .writing rows _ _ _ | .failed rows _ => rows
  | _ => []

end Stage

/-- What holds of every station of a run. -/
structure Known (s : Station) : Prop where
  tidy : Tidy s.Sent s.desktop
  held : ∀ k, ∀ e ∈ (s.stage k).rows, Owned s.Sent e
  posted : ∀ k, ∀ e ∈ (s.stage k).posted, s.Sent e.payload.transactionId
  minted : ∀ t, s.Sent t → Minted t

/-- `t` is deleted, and no run has its event or has sent it. -/
structure Retired (t : String) (s : Station) : Prop where
  gone : Gone t s.desktop
  held : ∀ k, ∀ e ∈ (s.stage k).rows, e.eventId ≠ eventId t
  unsent : ¬ s.Sent t

section
variable {p : OutboxEvent → Prop} {q : String → Prop} {w : Setting} {s : Station} {t : String}
  {faults : List (Option String)} {k : Nat} {x : Stage} {rows : List OutboxEvent}
  {us : List StatusUpdate}

theorem forall_setStage {P : Stage → Prop} (h : ∀ j, P (s.stage j)) (hx : P x) (j : Nat) :
    P ((s.setStage k x).stage j) := by
  show P (Function.update s.stage k x j)
  by_cases hj : j = k
  · rw [hj, Function.update_self]
    exact hx
  · rw [Function.update_of_ne hj]
    exact h j

theorem known_start : Known .start where
  tidy := ⟨fun _ h => absurd h List.not_mem_nil, fun _ h => absurd h List.not_mem_nil,
    fun _ h => absurd h List.not_mem_nil⟩
  held _ _ h := absurd h List.not_mem_nil
  posted _ _ h := absurd h List.not_mem_nil
  minted _ h := by
    obtain ⟨_, h, -⟩ := h
    exact absurd h List.not_mem_nil

theorem Known.desktop {d' : Db} (h : Known s) (ha : Altered p s.Sent s.desktop d') :
    Known { s with desktop := d' } := ⟨h.tidy.altered ha, h.held, h.posted, h.minted⟩

theorem Known.setStage (h : Known s) (hrows : ∀ e ∈ x.rows, Owned s.Sent e)
    (hposted : ∀ e ∈ x.posted, s.Sent e.payload.transactionId) : Known (s.setStage k x) where
  tidy := h.tidy
  held := forall_setStage (P := fun y => ∀ e ∈ y.rows, Owned s.Sent e) h.held hrows
  posted := forall_setStage (P := fun y => ∀ e ∈ y.posted, s.Sent e.payload.transactionId) h.posted
    hposted
  minted := h.minted

theorem Retired.desktop {d' : Db} (h : Retired t s) (ha : Altered p q s.desktop d')
    (hp : ∀ e ∈ s.desktop.outbox.rows, e.eventId = eventId t → ¬ p e) :
    Retired t { s with desktop := d' } := ⟨h.gone.altered ha hp, h.held, h.unsent⟩

theorem Retired.setStage (h : Retired t s) (hx : ∀ e ∈ x.rows, e.eventId ≠ eventId t) :
    Retired t (s.setStage k x) := 
  ⟨h.gone, forall_setStage (P := fun y => ∀ e ∈ y.rows, e.eventId ≠ eventId t) h.held hx, h.unsent⟩

/-! ### Reading -/

/-- What a run has after a read: nothing, or events of the outbox that are due. -/
theorem fetch_cases (s : Station) (faults : List (Option String)) (k : Nat) (now : Instant)
    (limit : Int32) (force : Bool) : ∃ d' x,
      s.fetch faults k now limit force = { s with desktop := d' }.setStage k x ∧
        Altered (fun e => force = true ∨ e.status = .sending) Nothing s.desktop d' ∧
          (∀ e ∈ x.rows, e ∈ d'.outbox.rows ∧ e.due now = true) ∧ x.posted = [] := by
  refine ⟨_, _, rfl, (within_getPending now _ force).run _ _, ?_⟩
  rcases hr : (Desktop.getPendingOutboxEvents now (some limit) (some force)).run faults s.desktop
    with ⟨e | rows, d', fs'⟩
  · exact ⟨fun _ h => absurd h List.not_mem_nil, rfl⟩
  · have hrows := getPending_rows (F := fun _ => True) ⟨faults, fs', fun _ _ => trivial, hr⟩
    cases rows with
    | nil => exact ⟨hrows, rfl⟩
    | cons e rows => exact ⟨hrows, rfl⟩

theorem Known.fetch (h : Known s) (now : Instant) (limit : Int32) (force : Bool) :
    Known (s.fetch faults k now limit force) := by
  obtain ⟨d', x, hs, ha, hx, hposted⟩ := fetch_cases s faults k now limit force
  rw [hs]
  have hd : Known { s with desktop := d' } := h.desktop (ha.mono (fun _ h => h) fun _ h => h.elim)
  exact hd.setStage (fun e he => hd.tidy.events e (hx e he).1) fun e he => by
    rw [hposted] at he
    exact absurd he List.not_mem_nil

/-- A withdrawn event is not due. -/
theorem not_due {e : OutboxEvent} {now : Instant} (he : e.status = .permanentRejection) :
    e.due now = false := by
  simp [OutboxEvent.due, he]

theorem Retired.fetch (h : Retired t s) (now : Instant) (limit : Int32) {force : Bool}
    (hf : force = true → ∀ e ∈ s.desktop.outbox.rows, e.eventId ≠ eventId t) :
    Retired t (s.fetch faults k now limit force) := by
  obtain ⟨d', x, hs, ha, hx, -⟩ := fetch_cases s faults k now limit force
  rw [hs]
  have hd : Retired t { s with desktop := d' } := by
    refine h.desktop ha fun e he hid hp => ?_
    rcases hp with hforce | hsending
    · exact hf hforce e he hid
    · rw [h.gone.events e he hid] at hsending
      cases hsending
  refine hd.setStage fun e he hid => ?_
  obtain ⟨hmem, hdue⟩ := hx e he
  rw [not_due (hd.gone.events e hmem hid)] at hdue
  cases hdue

/-! ### Writing -/

theorem Known.write {program : Prog String Db Unit} (h : Known s)
    (hp : Within (Altered p q) program) (hq : ∀ t, q t → s.Sent t)
    (hrows : ∀ e ∈ x.rows, Owned s.Sent e)
    (hposted : ∀ e ∈ x.posted, s.Sent e.payload.transactionId) :
    Known (s.write faults k program x) :=
  (h.desktop ((hp.run faults s.desktop).mono (fun _ h => h) hq)).setStage hrows hposted

theorem Retired.write {program : Prog String Db Unit} (h : Retired t s)
    (hp : Within (Altered p q) program)
    (hold : ∀ e ∈ s.desktop.outbox.rows, e.eventId = eventId t → ¬ p e)
    (hx : ∀ e ∈ x.rows, e.eventId ≠ eventId t) : Retired t (s.write faults k program x) :=
  (h.desktop (hp.run faults s.desktop) hold).setStage hx

/-- The updates are for events that a run has. -/
def For (rows : List OutboxEvent) (us : List StatusUpdate) : Prop :=
  ∀ u ∈ us, ∃ e ∈ rows, u.eventId = e.eventId

theorem for_map {f : OutboxEvent → StatusUpdate} (hf : ∀ e, (f e).eventId = e.eventId)
    (rows : List OutboxEvent) : For rows (rows.map f) := by
  intro u hu
  obtain ⟨e, he, rfl⟩ := List.mem_map.1 hu
  exact ⟨e, he, hf e⟩

theorem outcome_eventId (js : Js) (receipts : List Server.SyncReceipt) (e : OutboxEvent) :
    (outcome js receipts e).1.eventId = e.eventId := by
  unfold outcome
  dsimp only
  split
  · rfl
  · split <;> rfl

theorem outcome_transactionId {js : Js} {receipts : List Server.SyncReceipt} {e : OutboxEvent}
    {u : TransactionUpdate} (h : (outcome js receipts e).2 = some u) :
    u.transactionId = e.payload.transactionId := by
  unfold outcome at h
  dsimp only at h
  split at h
  · cases h
  · split at h <;> cases h <;> rfl

theorem For.spares (h : For rows us) (hrows : ∀ e ∈ rows, e.eventId ≠ eventId t)
    (e : OutboxEvent) (hid : e.eventId = eventId t) : ¬ Updates us e := by
  rintro ⟨u, hu, hue⟩
  obtain ⟨row, hrow, hid'⟩ := h u hu
  exact hrows row hrow (hid'.symm.trans (hue.trans hid))

/-! ### Posting -/

theorem sent_post {reply : Except String (List Server.SyncReceipt)} :
    (s.post w k reply rows).Sent t ↔ s.Sent t ∨ ∃ e ∈ rows, e.payload.transactionId = t := by
  simp only [Station.Sent, Station.post, Station.setStage, List.mem_append, List.mem_singleton,
    or_and_right, exists_or, exists_eq_left, List.mem_map, sortPushItems, List.mem_insertionSort]
  refine or_congr_right ⟨?_, ?_⟩
  · rintro ⟨_, ⟨e, he, rfl⟩, ht⟩
    exact ⟨e, he, ht⟩
  · rintro ⟨e, he, ht⟩
    exact ⟨_, ⟨e, he, rfl⟩, ht⟩

theorem post_cases (w : Setting) (s : Station) (k : Nat)
    (reply : Except String (List Server.SyncReceipt)) (rows : List OutboxEvent) :
    ∃ x, (s.post w k reply rows).stage = Function.update s.stage k x ∧
      (∀ e, e ∈ x.rows ↔ e ∈ rows) ∧ ∀ e, e ∈ x.posted ↔ e ∈ rows := by
  refine ⟨_, rfl, ?_⟩
  cases reply with
  | ok receipts => exact ⟨fun e => List.mem_insertionSort _, fun e => List.mem_insertionSort _⟩
  | error err => exact ⟨fun e => Iff.rfl, fun e => Iff.rfl⟩

theorem Known.post {reply : Except String (List Server.SyncReceipt)} (h : Known s)
    (hrows : ∀ e ∈ rows, Owned s.Sent e) : Known (s.post w k reply rows) := by
  have hmono : ∀ t, s.Sent t → (s.post w k reply rows).Sent t := fun t ht => sent_post.2 (.inl ht)
  obtain ⟨x, hx, hxr, hxp⟩ := post_cases w s k reply rows
  constructor
  · exact h.tidy.mono hmono
  · rw [hx]
    refine forall_setStage (s := s) (P := fun y => ∀ e ∈ y.rows, Owned _ e)
      (fun j e he => (h.held j e he).mono hmono) fun e he => ?_
    exact (hrows e ((hxr e).1 he)).mono hmono
  · rw [hx]
    refine forall_setStage (s := s)
      (P := fun y => ∀ e ∈ y.posted, (s.post w k reply rows).Sent e.payload.transactionId)
      (fun j e he => hmono _ (h.posted j e he)) fun e he => ?_
    exact sent_post.2 (.inr ⟨e, (hxp e).1 he, rfl⟩)
  · intro t ht
    rcases sent_post.1 ht with ht | ⟨e, he, rfl⟩
    · exact h.minted t ht
    · exact (hrows e he).minted

theorem Retired.post {reply : Except String (List Server.SyncReceipt)} (h : Retired t s)
    (howned : ∀ e ∈ rows, Owned s.Sent e) (hrows : ∀ e ∈ rows, e.eventId ≠ eventId t) :
    Retired t (s.post w k reply rows) := by
  obtain ⟨x, hx, hxr, -⟩ := post_cases w s k reply rows
  refine ⟨h.gone, ?_, fun ht => ?_⟩
  · rw [hx]
    exact forall_setStage (s := s) (P := fun y => ∀ e ∈ y.rows, e.eventId ≠ eventId t) h.held
      fun e he => hrows e ((hxr e).1 he)
  · rcases sent_post.1 ht with ht | ⟨e, he, rfl⟩
    · exact h.unsent ht
    · rcases (howned e he).id with hid | ⟨-, hsent⟩
      · exact hrows e he hid
      · exact h.unsent hsent

/-! ### The steps of a run -/

theorem for_sending (rows : List OutboxEvent) : For rows (sendingUpdates rows) :=
  for_map (fun _ => rfl) rows

theorem for_outcomes (js : Js) (receipts : List Server.SyncReceipt) (rows : List OutboxEvent) :
    For rows (outboxStatusUpdates js receipts rows) := for_map (outcome_eventId js receipts) rows

theorem for_failures (rows : List OutboxEvent) (error : String) :
    For rows (failureUpdates rows error) := for_map (fun _ => rfl) rows

theorem txStatusUpdates_posted {js : Js} {receipts : List Server.SyncReceipt}
    {u : TransactionUpdate} (hu : u ∈ txStatusUpdates js receipts rows) :
    ∃ e ∈ rows, u.transactionId = e.payload.transactionId := by
  obtain ⟨e, he, hu⟩ := List.mem_filterMap.1 hu
  exact ⟨e, he, outcome_transactionId hu⟩

theorem Known.act (h : Known s) (a : Action) : Known (s.act w faults k a) := by
  have hheld := h.held k
  have hposted := h.posted k
  have hnone : ∀ {P : OutboxEvent → Prop}, ∀ e ∈ ([] : List OutboxEvent), P e :=
    fun _ he => absurd he List.not_mem_nil
  have hnothing : ∀ t, Nothing t → s.Sent t := fun _ h => h.elim
  unfold Station.act
  split
  · exact h.fetch _ _ _
  all_goals try (rename_i hstage; rw [hstage] at hheld hposted)
  · exact h.write (within_updateStatuses _ _) hnothing hheld hnone
  · exact h.post hheld
  · exact h.write (within_updateStatuses _ _) hnothing hheld hposted
  · refine h.write (within_updateTransactionStatuses _) ?_ hheld hposted
    rintro _ ⟨u, hu, rfl⟩
    obtain ⟨e, he, hid⟩ := txStatusUpdates_posted hu
    rw [hid]
    exact hposted e he
  · exact h.write (within_updateStatuses _ _) hnothing hnone hnone
  · exact h.setStage hnone hnone
  · exact h

theorem Retired.act (h : Retired t s) (hk : Known s) (a : Action)
    (ha : ∀ now limit, a = .fetch now limit true →
      ∀ e ∈ s.desktop.outbox.rows, e.eventId ≠ eventId t) :
    Retired t (s.act w faults k a) := by
  have hheld := h.held k
  have howned := hk.held k
  have hnone : ∀ {P : OutboxEvent → Prop}, ∀ e ∈ ([] : List OutboxEvent), P e :=
    fun _ he => absurd he List.not_mem_nil
  unfold Station.act
  split
  · rename_i now limit force _
    exact h.fetch now limit fun hforce => ha now limit (hforce ▸ rfl)
  all_goals try (rename_i hstage; rw [hstage] at hheld howned)
  · exact h.write (within_updateStatuses _ _)
      (fun e _ hid => (for_sending _).spares hheld e hid) hheld
  · exact h.post howned hheld
  · exact h.write (within_updateStatuses _ _)
      (fun e _ hid => (for_outcomes _ _ _).spares hheld e hid) hheld
  · exact h.write (within_updateTransactionStatuses _) (fun _ _ _ hp => hp) hheld
  · exact h.write (within_updateStatuses _ _)
      (fun e _ hid => (for_failures _ _).spares hheld e hid) hnone
  · exact h.setStage hnone
  · exact h

/-! ## Runs -/

/-- **One step** of a run from a station that is known. -/
theorem Known.step (h : Known s) (e : Event) : Known (s.step w e) := by
  cases e with
  | command c => exact ⟨h.tidy.call c, h.held, h.posted, h.minted⟩
  | act k faults a => exact h.act a
  | cleanup faults now retentionDays =>
    exact h.desktop (((within_cleanup now retentionDays).run faults _).mono (fun _ h => h)
      fun _ h => h.elim)
  | pull faults products stores stockBalances =>
    exact h.desktop (((within_applySyncPull products stores stockBalances).run faults _).mono
      (fun _ h => h) fun _ h => h.elim)

/-- A step that lets the withdrawn event of `t` be: the id is not drawn again, and no forced read finds
the event. -/
def Spares (t : String) (s : Station) : Event → Prop
  | .command c => ¬ c.clk.Draws t
  | .act _ _ (.fetch _ _ true) => ∀ e ∈ s.desktop.outbox.rows, e.eventId ≠ eventId t
  | _ => True

theorem Retired.step (h : Retired t s) (hk : Known s) (ht : Minted t) {e : Event}
    (he : Spares t s e) : Retired t (s.step w e) := by
  have hnothing : ∀ e ∈ s.desktop.outbox.rows, e.eventId = eventId t → ¬ Nothing e :=
    fun _ _ _ h => h
  cases e with
  | command c => exact ⟨h.gone.call ht c he, h.held, h.unsent⟩
  | act k faults a =>
    refine h.act hk a fun now limit ha => ?_
    rw [ha] at he
    exact he
  | cleanup faults now retentionDays =>
    exact h.desktop ((within_cleanup now retentionDays).run faults _) hnothing
  | pull faults products stores stockBalances =>
    exact h.desktop ((within_applySyncPull products stores stockBalances).run faults _) hnothing

/-- The stations that a new desktop comes to. -/
def Reached (w : Setting) (s : Station) : Prop :=
  ∃ es : List Event, s = es.foldl (Station.step w) .start

theorem Reached.known (h : Reached w s) : Known s := by
  obtain ⟨es, rfl⟩ := h
  exact (always_of_step known_start (fun _ _ h => h.step _) es).last

/-- The call deletes the transaction `t`, and succeeds. -/
structure Deletes (w : Setting) (t : String) (s : Station) (c : Desktop.Call) : Prop where
  cmd : c.cmd = .deleteTransaction t
  ok : ((c.cmd.run w.rs c.clk).run c.faults s.desktop).result = .ok ()

/-- No run has the event of `t`, and the row of `t` is there or the event is withdrawn. -/
structure Ready (t : String) (s : Station) : Prop where
  held : ∀ k, ∀ e ∈ (s.stage k).rows, e.eventId ≠ eventId t
  row : (s.desktop.transactions.get? t).isSome ∨
    ∀ e ∈ s.desktop.outbox.rows, e.eventId = eventId t → e.status = .permanentRejection

theorem Deletes.retired {c : Desktop.Call} (h : Deletes w t s c) (hk : Known s) (hr : Ready t s)
    (hunsent : ¬ s.Sent t) : Retired t (s.step w (.command c)) := by
  have hy : (Desktop.deleteTransaction c.clk t).Yields (fun _ => True) s.desktop (.ok ())
      (c.after w.rs s.desktop) := by
    obtain ⟨hcmd, hok⟩ := h
    refine ⟨c.faults, ((Desktop.deleteTransaction c.clk t).run c.faults s.desktop).faults,
      fun _ _ => trivial, ?_⟩
    unfold Desktop.Call.after
    rw [← hok, hcmd]
    rfl
  refine ⟨?_, hr.held, hunsent⟩
  show Gone t (c.after w.rs s.desktop)
  rcases Desktop.deleteTransaction_ok hy with ⟨hd, hn⟩ | ⟨r, q, outboxId, rfl, hd⟩
  · rw [hd]
    refine ⟨fun r hr' hid => ?_, hr.row.resolve_left (by rw [hn]; exact Bool.false_ne_true)⟩
    have hget : s.desktop.transactions.get? r.transactionId = some r := Table.get?_of_mem hr'
    rw [hid, hn] at hget
    cases hget
  · exact .of_delete hd fun hs => hunsent (hk.tidy.synced r (Table.mem_of_get? hd.row) hs)

/-- **A transaction that is deleted before it is pushed** is never pushed, in every run whose steps let its
event be. -/
theorem deleted_unsent {c : Desktop.Call} {after : List Event} (hs : Reached w s) (hc : Deletes w t s c)
    (hunsent : ¬ s.Sent t) (hready : Ready t s)
    (hafter : Along (Station.step w) (Spares t) (s.step w (.command c)) after) :
    Always (Station.step w) (fun s => ¬ s.Sent t) (s.step w (.command c)) after := by
  have hk := hs.known
  by_cases ht : Minted t
  · have hstart := And.intro (hk.step (w := w) (.command c)) (hc.retired hk hready hunsent)
    refine (hafter.always (I := fun s => Known s ∧ Retired t s) hstart fun s e h he => ?_).mono
      fun s h => h.2.unsent
    exact ⟨h.1.step e, h.2.step h.1 ht he⟩
  · have hall : Always (Station.step w) Known (s.step w (.command c)) after :=
      always_of_step (hk.step (.command c)) (fun s e h => h.step e) after
    exact hall.mono fun s h hsent => ht (h.minted t hsent)

end

namespace Sample

def setting : Setting := ⟨Sync.Sample.rust, Sync.Sample.js⟩

/-- A receipt of ten, as `TX-1`. -/
def receipt : Desktop.Call := ⟨Sync.Sample.clock 0 1, .receiveStock (Sync.Sample.receipt 10), []⟩

def deletion : Desktop.Call := ⟨Sync.Sample.clock 1 5, .deleteTransaction "TX-1", []⟩

/-- A receipt that has not been pushed. -/
def received : Station := [Event.command receipt].foldl (Station.step setting) .start

theorem reached_received : Reached setting received := ⟨[.command receipt], rfl⟩

theorem deletes_received : Deletes setting "TX-1" received deletion := ⟨rfl, rfl⟩

/-- A run of one push, whose request fails. -/
def push (force : Bool) : List Event :=
  [.act 0 [] (.fetch 2 500 force), .act 0 [] (.mark 2), .act 0 [] (.post (.error "offline"))]

theorem ready_received : Ready "TX-1" received where
  held _ _ h := absurd h List.not_mem_nil
  row := .inl (by decide +kernel)

end Sample

open Deletions.Sample in
theorem unsent_after_push : Always (Station.step setting) (fun s => ¬ s.Sent "TX-1")
    (received.step setting (.command deletion)) (push false) :=
  deleted_unsent reached_received deletes_received (by decide +kernel) ready_received
    ⟨trivial, trivial, trivial, trivial⟩

open Deletions.Sample in
/-- A forced run sends the receipt that was deleted. -/
theorem forced_read_sends : Reached setting received ∧ Deletes setting "TX-1" received deletion ∧
    ¬ received.Sent "TX-1" ∧ ((push true).foldl (Station.step setting)
      (received.step setting (.command deletion))).Sent "TX-1" :=
  ⟨reached_received, deletes_received, by decide +kernel, by decide +kernel⟩

open Deletions.Sample in
/-- So does a run that has read the event before. -/
theorem earlier_read_sends : ((Event.command deletion :: (push false).tail).foldl
    (Station.step setting) ((push false).take 1 |>.foldl (Station.step setting) received)).Sent
      "TX-1" := by
  decide +kernel

end Sync.Deletions
