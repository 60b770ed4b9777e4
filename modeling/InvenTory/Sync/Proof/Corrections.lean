import InvenTory.Sync.Run
import InvenTory.Desktop.Proof.Records
import InvenTory.Server.Proof.Run

/-!
# Corrections of transactions that the server holds

Whether an edit or a deletion is queued for the server (`corrections_queued_iff`). An edit resets
the event `EVT-t` of the transaction and never inserts one, so it is lost when that event was
archived or never existed. A deletion queues the opposite quantity, under the id of the
transaction; the server takes it for an edit, so that it takes the contribution away only if the
quantity was 0.
-/

namespace Sync

open Relational Sql Sql.Prog
open Desktop (OutboxEvent OutboxPayload eventId voidEventId)

variable {F : String → Prop} {w : Setting}

/-- The outbox holds a PENDING event for the transaction `t` whose payload has `P`. -/
def Queued (d : Desktop.Db) (t : String) (P : OutboxPayload → Prop) : Prop :=
  ∃ e ∈ d.outbox.rows, e.status = .pending ∧ e.payload.transactionId = t ∧ P e.payload

/-- Once the payload `p` is pushed, `t` adds nothing to any balance of the server. -/
def TakesAway (w : Setting) (db : Server.Db) (t : String) (p : OutboxPayload) : Prop :=
  ∀ env k, (Server.push w.py db [⟨(buildPushItem p).payload w.authenticatedUserId, env⟩]).2.ledger.share
    (Server.Db.contribution k) t = 0

/-- The server takes the quantity of a payload for the new quantity of its row. -/
theorem takesAway_iff {db : Server.Db} (hs : Server.Served w.py db) {p : OutboxPayload}
    {row : Server.InventoryTransaction} (hrow : db.ledger.get? p.transactionId = some row) :
    TakesAway w db p.transactionId p ↔ p.quantityDelta = 0 := by
  have hshare : ∀ env k, (Server.push w.py db
      [⟨(buildPushItem p).payload w.authenticatedUserId, env⟩]).2.ledger.share
        (Server.Db.contribution k) p.transactionId =
      if row.stock = k then p.quantityDelta.toInt else 0 := by
    intro env k
    obtain ⟨row', hrow', hq, hk⟩ := Server.push_known w.py hs.sound
      (s := ⟨(buildPushItem p).payload w.authenticatedUserId, env⟩) hrow
    have hacc := (hs.call _).integral.accepted _ _ hrow'
    refine (Table.share_some hrow').trans ?_
    rw [Server.contribution_accepted hacc, hk, hq]
    rfl
  constructor
  · intro h
    have h0 := h Server.Sample.env row.stock
    rw [hshare, if_pos rfl] at h0
    exact Int32.toInt_inj.1 h0
  · intro h env k
    rw [hshare, h]
    exact ite_self _

/-! ## The outbox after a correction -/

theorem mem_updateEvents {d : Desktop.Db} {p : OutboxEvent → Bool} {f : OutboxEvent → OutboxEvent}
    {e' : OutboxEvent} : e' ∈ (d.updateEvents p f).outbox.rows ↔
      ∃ e ∈ d.outbox.rows, Desktop.Db.changeWhere p f e = e' := List.mem_map

theorem mem_put {t : Table OutboxEvent} {e e' : OutboxEvent} (hf : t.get? e.eventId = none) :
    e' ∈ (t.put e).rows ↔ e' = e ∨ e' ∈ t.rows := by
  constructor
  · intro h
    have hg := Table.get?_of_mem h
    rw [Table.get?_put] at hg
    split at hg
    · exact .inl (Option.some.inj hg).symm
    · exact .inr (Table.mem_of_get? hg)
  · rintro (rfl | h)
    · exact Table.mem_of_get? (Table.get?_put_self t e')
    · have hg := Table.get?_of_mem h
      have hne : key e ≠ key e' := by
        intro he
        have hf : t.get? (key e) = none := hf
        rw [he, hg] at hf
        cases hf
      exact Table.mem_of_get? ((Table.get?_put_of_ne t hne).trans hg)

/-- After an edit of `t` its event is pending with the new payload, and the others are as before. -/
theorem queued_updated {input : Desktop.UpdateTransactionInput} {now : Desktop.Instant}
    {r : Desktop.InventoryTransaction} {q : Int32} {d d' : Desktop.Db}
    (h : Desktop.Updated input now r q d d') :
    Queued d' input.transactionId (·.quantityDelta = input.quantityDelta) ↔
      (d.outbox.get? (eventId input.transactionId)).isSome ∨
        Queued d input.transactionId (·.quantityDelta = input.quantityDelta) := by
  have hmem : ∀ e', e' ∈ d'.outbox.rows ↔ ∃ e ∈ d.outbox.rows,
      Desktop.Db.changeWhere (·.eventId = eventId input.transactionId)
        (.requeue (input.payload r now)) e = e' := by
    intro e'
    rw [h.outbox]
    exact mem_updateEvents
  constructor
  · rintro ⟨e', he', hpend, ht, hq⟩
    obtain ⟨e, he, rfl⟩ := (hmem e').1 he'
    by_cases hid : e.eventId = eventId input.transactionId
    · left
      have hg : d.outbox.get? e.eventId = some e := Table.get?_of_mem he
      rw [← hid, hg]
      rfl
    · right
      simp only [Desktop.Db.changeWhere, hid, decide_false, Bool.false_eq_true, if_false]
        at hpend ht hq
      exact ⟨e, he, hpend, ht, hq⟩
  · rintro (hsome | ⟨e, he, hpend, ht, hq⟩)
    · obtain ⟨e, he⟩ := Option.isSome_iff_exists.1 hsome
      have hid : e.eventId = eventId input.transactionId := Table.key_of_get? he
      refine ⟨_, (hmem _).2 ⟨e, Table.mem_of_get? he, rfl⟩, ?_⟩
      simp only [Desktop.Db.changeWhere, hid, decide_true, if_true]
      exact ⟨rfl, rfl, rfl⟩
    · by_cases hid : e.eventId = eventId input.transactionId
      · refine ⟨_, (hmem _).2 ⟨e, he, rfl⟩, ?_⟩
        simp only [Desktop.Db.changeWhere, hid, decide_true, if_true]
        exact ⟨rfl, rfl, rfl⟩
      · refine ⟨_, (hmem _).2 ⟨e, he, rfl⟩, ?_⟩
        simp only [Desktop.Db.changeWhere, hid, decide_false, Bool.false_eq_true, if_false]
        exact ⟨hpend, ht, hq⟩

/-- The event of an unsynced transaction is withdrawn when the transaction is deleted. -/
def Withdrawn (d : Desktop.Db) (t : String) (e : OutboxEvent) : Prop :=
  e.eventId = eventId t ∧ ∃ r, d.transactions.get? t = some r ∧ r.syncStatus ∉ [.synced, .accepted]

/-- The condition under which a deletion of `t` leaves an event that takes it away: it has been
synced and its quantity is 0, or such an event was queued before and is not withdrawn. -/
def DeletionQueued (d : Desktop.Db) (t : String) : Prop :=
  (∃ r, d.transactions.get? t = some r ∧ r.syncStatus ∈ [.synced, .accepted] ∧
      r.quantityDelta = 0) ∨
    ∃ e ∈ d.outbox.rows, e.status = .pending ∧ e.payload.transactionId = t ∧
      e.payload.quantityDelta = 0 ∧ ¬ Withdrawn d t e

theorem queued_deleted {outboxId : String} {now : Desktop.Instant}
    {r : Desktop.InventoryTransaction} {q : Int32} {d d' : Desktop.Db}
    (h : Desktop.Deleted outboxId now r q d d') :
    Queued d' r.transactionId (·.quantityDelta = 0) ↔ DeletionQueued d r.transactionId := by
  have hq := Desktop.readI32_eq h.delta
  by_cases hs : r.syncStatus ∈ [.synced, .accepted]
  · obtain ⟨hf, ho⟩ := h.tombstone hs
    have hw : ∀ e, ¬ Withdrawn d r.transactionId e := by
      rintro e ⟨-, r', hr', hn⟩
      rw [h.row] at hr'
      cases hr'
      exact hn hs
    have hneg : -q = 0 ↔ r.quantityDelta = 0 := by
      rw [← hq, show -q = 0 ↔ q = 0 by grind]
      exact Int32.toInt_inj.symm
    unfold Queued
    simp only [ho, mem_put (e := Desktop.newEvent outboxId (voidEventId r.transactionId)
      (Desktop.voidPayload r q now) now) hf]
    constructor
    · rintro ⟨e, rfl | he, hpend, ht, h0⟩
      · exact .inl ⟨r, h.row, hs, hneg.1 h0⟩
      · exact .inr ⟨e, he, hpend, ht, h0, hw e⟩
    · rintro (⟨r', hr', -, h0⟩ | ⟨e, he, hpend, ht, h0, -⟩)
      · rw [h.row] at hr'
        cases hr'
        exact ⟨_, .inl rfl, rfl, rfl, hneg.2 h0⟩
      · exact ⟨e, .inr he, hpend, ht, h0⟩
  · have hmem : ∀ e', e' ∈ d'.outbox.rows ↔ ∃ e ∈ d.outbox.rows,
        Desktop.Db.changeWhere (·.eventId = eventId r.transactionId) .withdraw e = e' := by
      intro e'
      rw [h.withdrawn hs]
      exact mem_updateEvents
    constructor
    · rintro ⟨e', he', hpend, ht, h0⟩
      obtain ⟨e, he, rfl⟩ := (hmem e').1 he'
      by_cases hid : e.eventId = eventId r.transactionId
      · simp [Desktop.Db.changeWhere, hid, OutboxEvent.withdraw] at hpend
      · simp only [Desktop.Db.changeWhere, hid, decide_false, Bool.false_eq_true, if_false]
          at hpend ht h0
        exact .inr ⟨e, he, hpend, ht, h0, fun hw => hid hw.1⟩
    · rintro (⟨r', hr', hs', -⟩ | ⟨e, he, hpend, ht, h0, hw⟩)
      · rw [h.row] at hr'
        cases hr'
        exact absurd hs' hs
      · have hid : e.eventId ≠ eventId r.transactionId := fun hid => hw ⟨hid, r, h.row, hs⟩
        refine ⟨_, (hmem _).2 ⟨e, he, rfl⟩, ?_⟩
        simp only [Desktop.Db.changeWhere, hid, decide_false, Bool.false_eq_true, if_false]
        exact ⟨hpend, ht, h0⟩

/-- Without a local row a deletion leaves the outbox alone. -/
theorem deletionQueued_of_none {d : Desktop.Db} {t : String} (hn : d.transactions.get? t = none) :
    Queued d t (·.quantityDelta = 0) ↔ DeletionQueued d t := by
  have hrow : ∀ r, d.transactions.get? t ≠ some r := by
    intro r hr
    rw [hn] at hr
    cases hr
  constructor
  · rintro ⟨e, he, hpend, ht, h0⟩
    exact .inr ⟨e, he, hpend, ht, h0, fun ⟨_, r, hr, _⟩ => hrow r hr⟩
  · rintro (⟨r, hr, -⟩ | ⟨e, he, hpend, ht, h0, -⟩)
    · exact absurd hr (hrow r)
    · exact ⟨e, he, hpend, ht, h0⟩

/-- **When a correction of a transaction that the server holds is queued.** -/
theorem corrections_queued_iff {db : Server.Db} (hs : Server.Served w.py db) {t : String}
    {row : Server.InventoryTransaction} (hrow : db.ledger.get? t = some row) :
    (∀ clk input x d d', input.transactionId = t →
      (Desktop.updateTransaction clk input).Yields F d (.ok x) d' →
        (Queued d' t (·.quantityDelta = input.quantityDelta) ↔
          (d.outbox.get? (eventId t)).isSome ∨
            Queued d t (·.quantityDelta = input.quantityDelta))) ∧
      ∀ clk u d d', (Desktop.deleteTransaction clk t).Yields F d (.ok u) d' →
        (Queued d' t (TakesAway w db t) ↔ DeletionQueued d t) := by
  constructor
  · rintro clk input x d d' rfl h
    obtain ⟨r, q, hu, -⟩ := Desktop.updateTransaction_ok h
    exact queued_updated hu
  · intro clk u d d' h
    have haway : Queued d' t (TakesAway w db t) ↔ Queued d' t (·.quantityDelta = 0) := by
      refine exists_congr fun e => and_congr_right fun _ => and_congr_right fun _ =>
        and_congr_right fun ht => ?_
      have hi := takesAway_iff (w := w) hs (p := e.payload) (ht ▸ hrow)
      rwa [ht] at hi
    rw [haway]
    rcases Desktop.deleteTransaction_ok h with ⟨rfl, hn⟩ | ⟨r, q, outboxId, rfl, hd⟩
    · exact deletionQueued_of_none hn
    · exact queued_deleted hd

namespace Sample

/-- The server after a receipt of ten. -/
def held : Server.Db :=
  (Server.push setting.py .empty [Server.Sample.movement "TX-1" "RECEIPT" 10 0]).2

end Sample

/-- An edit right after the push is queued. -/
theorem corrections_queued_run :
    let d := Sample.pushed.desktop
    let p := Desktop.updateTransaction (Sample.clock 2 5) (Sample.edit "TX-1" 7)
    Queued (p.eval d).2 "TX-1" (·.quantityDelta = 7) := by
  have hs : Server.Served Sample.setting.py Sample.held := .call (.start Server.Sample.empty) _
  have hrow : Sample.held.ledger.get? "TX-1" =
      some ((Sample.held.ledger.get? "TX-1").get (by decide)) := (Option.some_get _).symm
  have hok : ((Desktop.updateTransaction (Sample.clock 2 5) (Sample.edit "TX-1" 7)).eval
      Sample.pushed.desktop).1.isOk := by decide
  obtain ⟨x, hx⟩ : ∃ x, ((Desktop.updateTransaction (Sample.clock 2 5) (Sample.edit "TX-1" 7)).eval
      Sample.pushed.desktop).1 = .ok x := by
    rcases hr : ((Desktop.updateTransaction (Sample.clock 2 5) (Sample.edit "TX-1" 7)).eval
      Sample.pushed.desktop).1 with e | x
    · rw [hr] at hok
      cases hok
    · exact ⟨x, rfl⟩
  have hy : (Desktop.updateTransaction (Sample.clock 2 5) (Sample.edit "TX-1" 7)).Yields
      (fun _ => False) Sample.pushed.desktop (.ok x) _ := yields_of_eval (Prod.ext hx rfl)
  exact ((corrections_queued_iff hs hrow).1 _ _ _ _ _ rfl hy).2 (.inl (by decide))

/-- An edit after the event was archived is lost; and the tombstone of a deletion of ten leaves the
server at -10. -/
theorem archived_edit_unqueued :
    let archived := ((Desktop.cleanupExpiredOutboxEvents 864000 none).eval Sample.pushed.desktop).2
    let edited := (Desktop.updateTransaction (Sample.clock 864000 5) (Sample.edit "TX-1" 7)).eval
      archived
    let deleted := (Desktop.deleteTransaction (Sample.clock 2 5) "TX-1").eval Sample.pushed.desktop
    (Sample.pushed.server.ledger.get? "TX-1").isSome ∧ edited.1.isOk ∧
      ¬ Queued edited.2 "TX-1" (·.quantityDelta = 7) ∧
      (State.cycle Sample.setting ⟨deleted.2, Sample.pushed.server, .idle⟩ 3
        fun _ => Server.Sample.env).server.quantity Server.Sample.stock = -10 := by
  unfold Queued
  decide

end Sync
