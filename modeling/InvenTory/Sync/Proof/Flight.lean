import InvenTory.Sync.Proof.Aligned
import InvenTory.Server.Proof.Integrity

/-!
# Corrections while a push is in flight

An edit is lost when it comes while a push has its event and brings another quantity, and what a deletion
leaves behind is lost or counted the other way when it comes after the transaction was posted, unless the
quantity is 0 (`InTime`). Runs without these keep the server in line with the desktop
(`corrections_in_flight`).
-/

namespace Sync.Flight

open Desktop (Clock Command Db Instant OutboxEvent OutboxPayload PerEvent eventId voidEventId)
open Deletions (Minted Owned Tidy eventId_inj voidEventId_ne)
open Relational Sql Sql.Prog

variable {M : Match} {w : Setting} {s : State} {t : String} {d d' : Db} {p : Phase} {uid : Int}
  {r r' : Desktop.InventoryTransaction} {e x : OutboxEvent} {now : Instant} {outboxId : String}
  {o : Option Server.InventoryTransaction}

/-! ## New transactions -/

theorem get?_put_event {e : OutboxEvent} {id : String} (h : e.eventId ≠ id) (d : Db) :
    (d.outbox.put e).get? id = d.outbox.get? id := Table.get?_put_of_ne _ h

/-- An event with a new id takes none away. -/
theorem Held.put (h : Held d p) (hfresh : d.outbox.get? e.eventId = none)
    (ho : d'.outbox = d.outbox.put e) : Held d' p := by
  intro x hx
  obtain ⟨y, hy, ht⟩ := h x hx
  have hne : e.eventId ≠ x.eventId := fun he => by
    rw [he, hy] at hfresh
    cases hfresh
  exact ⟨y, by rw [ho, get?_put_event hne, hy], ht⟩

theorem tidy_recorded {m : Desktop.Movement} (h : Tidy (fun _ => True) d) (hm : m.Proper)
    (hr : Desktop.Recorded m outboxId now d d') : Tidy (fun _ => True) d' where
  minted r' hr' := by
    rw [hr.transactions] at hr'
    rcases Table.mem_put.1 hr' with rfl | ⟨hr', -⟩
    · exact hm.id
    · exact h.minted r' hr'
  synced _ _ _ := trivial
  events e' he' := by
    rw [hr.outbox] at he'
    rcases Table.mem_put.1 he' with rfl | ⟨he', -⟩
    · exact ⟨hm.id, .inl rfl⟩
    · exact h.events e' he'

/-- **A movement is recorded**, with a payload that carries it. -/
theorem Aligned.recorded {m : Desktop.Movement} (h : Aligned M w s) (hm : m.Proper)
    (hr : Desktop.Recorded m outboxId now s.desktop d)
    (hnew : Carries M w.authenticatedUserId (m.row now) none (m.event outboxId now).payload) :
    Aligned M w { s with desktop := d } := by
  have hid : (m.event outboxId now).eventId = eventId m.transactionId := rfl
  refine ⟨h.lasting, h.ledger, tidy_recorded h.tidy hm hr, h.held.put hr.fresh hr.outbox, h.distinct,
    h.answered, fun t ht => ?_⟩
  have hvoid : d.outbox.get? (voidEventId t) = s.desktop.outbox.get? (voidEventId t) := by
    rw [hr.outbox, get?_put_event]
    rw [hid]
    exact (voidEventId_ne hm.id t).symm
  change Fine M _ t s.phase (d.transactions.get? t) (d.outbox.get? (eventId t))
    (d.outbox.get? (voidEventId t)) (s.server.ledger.get? t)
  rw [hvoid]
  have hfine := h.fine t ht
  by_cases hmt : m.transactionId = t
  · subst hmt
    have htr := h.held.tracked h.tidy ht
    have hrow : d.transactions.get? m.transactionId = some (m.row now) := by
      rw [hr.transactions]
      exact Table.get?_put_self _ (m.row now)
    have hevent : d.outbox.get? (eventId m.transactionId) = some (m.event outboxId now) := by
      rw [hr.outbox]
      exact Table.get?_put_self _ (m.event outboxId now)
    rw [hr.new, hr.fresh] at hfine
    rw [hr.fresh] at htr
    rw [hrow, hevent]
    generalize s.desktop.outbox.get? (voidEventId m.transactionId) = v at hfine htr ⊢
    generalize s.server.ledger.get? m.transactionId = o at hfine ⊢
    cases hfine
    have hnone : ∀ y ∈ s.phase.flying, y.payload.transactionId ≠ m.transactionId := by
      intro y hy hyt
      obtain ⟨_, hx | hx, -⟩ := (htr y hy).1 hyt
      · cases hx
      · cases hx
    refine .alive ⟨rfl, rfl, fun _ _ => hnew, fun y hy hyt => ?_, fun y hy hyt => ?_, fun hd => ?_,
      fun ho => ?_, fun _ ho => by cases ho⟩
    · exact absurd hyt (hnone y (List.mem_append_left _ hy))
    · exact absurd hyt (hnone y (List.mem_append_right _ hy))
    · exact absurd (show Deliverable _ from List.mem_cons_self) hd
    · cases ho
  · have hrow : d.transactions.get? t = s.desktop.transactions.get? t := by
      rw [hr.transactions]
      exact Table.get?_put_of_ne _ hmt
    have hevent : d.outbox.get? (eventId t) = s.desktop.outbox.get? (eventId t) := by
      rw [hr.outbox, get?_put_event]
      rw [hid]
      exact fun he => hmt (eventId_inj.1 he)
    rw [hrow, hevent]
    exact hfine

theorem Aligned.records (h : Aligned M w s) (hr : Desktop.Records now s.desktop d)
    (hnew : ∀ m : Desktop.Movement, m.Proper → ∀ outboxId,
      Carries M w.authenticatedUserId (m.row now) none (m.event outboxId now).payload) :
    Aligned M w { s with desktop := d } := by
  generalize hd : s.desktop = d0 at hr
  induction hr generalizing s with
  | same hs => exact h.other (hd ▸ hs)
  | cons hm hr _ ih =>
    rw [← hd] at hr
    have h1 := h.recorded hm hr (hnew _ hm _)
    have h2 := ih h1 rfl
    exact h2

/-! ## Edits -/

/-- What an edit to `r'` has to see to: the new payload carries it as soon as no other one is on its way,
and one that is has the same quantity. -/
structure Edits (M : Match) (uid : Int) (t : String) (p : Phase) (r' : Desktop.InventoryTransaction)
    (o : Option Server.InventoryTransaction) (payload : OutboxPayload) : Prop where
  quantity : ∀ x ∈ p.flying, x.payload.transactionId = t →
    x.payload.quantityDelta = payload.quantityDelta
  waits : (∀ x ∈ p.flying, x.payload.transactionId ≠ t) → Carries M uid r' o payload
  flies : ∀ x ∈ p.unposted, x.payload.transactionId = t → Carries M uid r' o x.payload
  lands : ∀ x ∈ p.unwritten, x.payload.transactionId = t → Shown M r' o
  kin : ∀ row, o = some row → M.Kin r' row

theorem changeWhere_other {id : String} {f : OutboxEvent → OutboxEvent} {e : OutboxEvent}
    (h : e.eventId ≠ id) : Db.changeWhere (·.eventId = id) f e = e :=
  if_neg fun he => h (of_decide_eq_true he)

theorem changeWhere_self {id : String} {f : OutboxEvent → OutboxEvent} {e : OutboxEvent}
    (h : e.eventId = id) :
    Db.changeWhere (·.eventId = id) f e = { f e with eventId := e.eventId } :=
  if_pos (decide_eq_true h)

/-- An update of one event leaves the others. -/
theorem get?_updateEvent_other {id id' : String} {f : OutboxEvent → OutboxEvent} (h : id ≠ id')
    (d : Db) : (d.updateEvent id f).outbox.get? id' = d.outbox.get? id' := by
  rw [Db.updateEvent, (Desktop.perEvent_updateEvents _ f).outbox]
  cases he : d.outbox.get? id' with
  | none => rfl
  | some e =>
    have hkey : e.eventId = id' := Table.key_of_get? he
    rw [Option.map_some, changeWhere_other fun hid => h (hid.symm.trans hkey)]

theorem get?_updateEvent_self {id : String} {f : OutboxEvent → OutboxEvent} {e : OutboxEvent}
    (he : d.outbox.get? id = some e) :
    (d.updateEvent id f).outbox.get? id = some { f e with eventId := e.eventId } := by
  rw [Db.updateEvent, (Desktop.perEvent_updateEvents _ f).outbox, he, Option.map_some,
    changeWhere_self (Table.key_of_get? he)]

/-- The event of a transaction that exists. -/
theorem Aligned.event (h : Aligned M w s) (hr : s.desktop.transactions.get? t = some r) :
    Minted t ∧ s.desktop.outbox.get? (voidEventId t) = none ∧
      ∃ e, s.desktop.outbox.get? (eventId t) = some e ∧
        Alive M w.authenticatedUserId t s.phase r (s.server.ledger.get? t) e := by
  have hid : r.transactionId = t := Table.key_of_get? hr
  have ht : Minted t := hid ▸ h.tidy.minted r (Table.mem_of_get? hr)
  have hfine := h.fine t ht
  rw [hr] at hfine
  generalize s.desktop.outbox.get? (voidEventId t) = v at hfine ⊢
  generalize s.desktop.outbox.get? (eventId t) = ev at hfine ⊢
  cases hfine with
  | alive ha => exact ⟨ht, rfl, _, rfl, ha⟩

/-- **A transaction is edited**, in time. -/
theorem Aligned.updated {input : Desktop.UpdateTransactionInput} {q : Int32} (h : Aligned M w s)
    (hu : Desktop.Updated input now r q s.desktop d) (htidy : Tidy (fun _ => True) d)
    (hedit : ∀ e, Alive M w.authenticatedUserId input.transactionId s.phase r
      (s.server.ledger.get? input.transactionId) e →
        Edits M w.authenticatedUserId input.transactionId s.phase (input.edit r)
          (s.server.ledger.get? input.transactionId) (input.payload r now)) :
    Aligned M w { s with desktop := d } := by
  obtain ⟨hminted, hvoid, e, hevent, ha⟩ := h.event hu.row
  have hkey : key (input.edit r) = input.transactionId := (Table.key_of_get? hu.row : key r = _)
  have hother : ∀ id, eventId input.transactionId ≠ id →
      d.outbox.get? id = s.desktop.outbox.get? id := fun id hid => by
    rw [hu.outbox, get?_updateEvent_other hid]
  have hself : d.outbox.get? (eventId input.transactionId) =
      some { OutboxEvent.requeue (input.payload r now) e with eventId := e.eventId } := by
    rw [hu.outbox, get?_updateEvent_self hevent]
  refine ⟨h.lasting, h.ledger, htidy, fun x hx => ?_, h.distinct, h.answered, fun t ht => ?_⟩
  · obtain ⟨y, hy, hyt⟩ := h.held x hx
    by_cases hid : eventId input.transactionId = x.eventId
    · rw [← hid, hevent] at hy
      cases hy
      exact ⟨_, hid ▸ hself, ha.id.symm.trans hyt⟩
    · exact ⟨y, (hother _ hid).trans hy, hyt⟩
  change Fine M _ t s.phase (d.transactions.get? t) (d.outbox.get? (eventId t))
    (d.outbox.get? (voidEventId t)) (s.server.ledger.get? t)
  rw [hother _ (voidEventId_ne hminted t).symm, hu.transactions, Table.get?_put, hkey]
  by_cases hit : input.transactionId = t
  · subst hit
    obtain ⟨hquantity, hwaits, hflies, hlands, hkin⟩ := hedit e ha
    have hpending : Deliverable
        { OutboxEvent.requeue (input.payload r now) e with eventId := e.eventId } :=
      List.mem_cons_self
    rw [if_pos rfl, hself, hvoid]
    refine .alive ⟨rfl, rfl, fun _ => hwaits, fun x hx hxt => ?_, fun x hx hxt => ?_,
      fun hd => absurd hpending hd, ha.marked, hkin⟩
    · exact ⟨hpending, hquantity x (List.mem_append_left _ hx) hxt, hflies x hx hxt⟩
    · exact ⟨hpending, hquantity x (List.mem_append_right _ hx) hxt, hlands x hx hxt⟩
  · rw [if_neg hit, hother _ fun hid => hit (eventId_inj.1 hid)]
    exact h.fine t ht

/-! ## Deletions -/

theorem Aligned.deleted {q : Int32} (h : Aligned M w s)
    (hdel : Desktop.Deleted outboxId now r q s.desktop d) (htidy : Tidy (fun _ => True) d)
    (hok : Deletable s r.transactionId) : Aligned M w { s with desktop := d } := by
  obtain ⟨hminted, hvoid, e, hevent, ha⟩ := h.event hdel.row
  have hq : q.toInt = r.quantityDelta := Desktop.readI32_eq hdel.delta
  have hrow : ∀ t, d.transactions.get? t =
      if r.transactionId = t then none else s.desktop.transactions.get? t := fun t => by
    rw [hdel.transactions, Table.get?_erase]
  have htr := h.held.tracked h.tidy hminted
  rw [hvoid, hevent] at htr
  have hflown : ∀ y ∈ s.phase.unposted, y.payload.transactionId = r.transactionId →
      y.payload.quantityDelta = e.payload.quantityDelta := fun y hy hyt => (ha.flies y hy hyt).2.1
  have hcase := hok r hdel.row
  by_cases hs : Synced r
  · -- a tombstone is queued, of the quantity 0
    obtain ⟨hfresh, ho⟩ := hdel.tombstone hs
    rw [if_pos hs] at hcase
    have hheld : Held d s.phase := h.held.put hfresh ho
    have hzero : q = 0 := Int32.toInt_inj.1 (hq.trans hcase)
    have hezero : e.payload.quantityDelta = 0 := Int32.toInt_inj.1 (ha.paid.trans hcase)
    refine ⟨h.lasting, h.ledger, htidy, hheld, h.distinct, h.answered, fun t ht => ?_⟩
    change Fine M _ t s.phase (d.transactions.get? t) (d.outbox.get? (eventId t))
      (d.outbox.get? (voidEventId t)) (s.server.ledger.get? t)
    rw [hrow, ho, get?_put_event (voidEventId_ne ht r.transactionId)]
    by_cases hrt : r.transactionId = t
    · subst hrt
      have hself : (s.desktop.outbox.put (Desktop.newEvent outboxId (voidEventId r.transactionId)
          (Desktop.voidPayload r q now) now)).get? (voidEventId r.transactionId) =
            some (Desktop.newEvent outboxId (voidEventId r.transactionId)
              (Desktop.voidPayload r q now) now) := Table.get?_put_self _ _
      rw [if_pos rfl, hevent, hself]
      refine .gone ⟨fun x hx _ => ?_, fun y hy hyt => (hflown y hy hyt).trans hezero, .inr ?_⟩
      · rcases hx with rfl | hx
        · exact hezero
        · cases hx
          change -q = 0
          rw [hzero]
          rfl
      · refine ⟨_, rfl, List.mem_cons_self, fun y hy hid => ?_⟩
        obtain ⟨_, hy, -⟩ := h.held y (List.mem_append_right _ hy)
        rw [hid] at hy
        exact absurd (hfresh.symm.trans hy) (by simp)
    · have hvt : (Desktop.newEvent outboxId (voidEventId r.transactionId)
          (Desktop.voidPayload r q now) now).eventId ≠ voidEventId t :=
        fun hid => hrt ((String.append_right_inj "EVT-VOID-").1 hid)
      rw [if_neg hrt, get?_put_event hvt]
      exact h.fine t ht
  · -- the event is withdrawn
    have ho := hdel.withdrawn hs
    rw [if_neg hs] at hcase
    obtain ⟨hserver, hunposted⟩ := hcase
    have hother : ∀ id, eventId r.transactionId ≠ id →
        d.outbox.get? id = s.desktop.outbox.get? id := fun id hid => by
      rw [ho, get?_updateEvent_other hid]
    have hself : d.outbox.get? (eventId r.transactionId) =
        some { OutboxEvent.withdraw e with eventId := e.eventId } := by
      rw [ho, get?_updateEvent_self hevent]
    refine ⟨h.lasting, h.ledger, htidy, fun x hx => ?_, h.distinct, h.answered, fun t ht => ?_⟩
    · obtain ⟨y, hy, hyt⟩ := h.held x hx
      by_cases hid : eventId r.transactionId = x.eventId
      · rw [← hid, hevent] at hy
        cases hy
        exact ⟨{ OutboxEvent.withdraw e with eventId := e.eventId }, hid ▸ hself, hyt⟩
      · exact ⟨y, (hother _ hid).trans hy, hyt⟩
    change Fine M _ t s.phase (d.transactions.get? t) (d.outbox.get? (eventId t))
      (d.outbox.get? (voidEventId t)) (s.server.ledger.get? t)
    rw [hrow, hother _ (voidEventId_ne hminted t).symm]
    by_cases hrt : r.transactionId = t
    · subst hrt
      rw [if_pos rfl, hself, hvoid]
      refine .gone ⟨fun x hx hd => ?_, hunposted, .inl hserver⟩
      obtain rfl := hx.resolve_right (by simp)
      obtain ⟨y, hy, hid⟩ := hd.resolve_left (by simp [Deliverable, OutboxEvent.withdraw])
      have hyt := (htr y (List.mem_append_left _ hy)).2 ⟨e, .inl rfl, hid⟩
      exact (hflown y hy hyt).symm.trans (hunposted y hy hyt)
    · rw [if_neg hrt, hother _ fun hid => hrt (eventId_inj.1 hid)]
      exact h.fine t ht

/-! ## Commands and runs -/

section
variable {rs : Desktop.Rust} {clk : Clock} {cmd : Command} {ok : Clock → State → Command → Prop}

theorem Aligned.command (h : Aligned M w s) (hrun : (cmd.run rs clk).eval s.desktop = (.ok (), d))
    (hnew : cmd.creates = true → Aligned M w { s with desktop := d })
    (hedit : ∀ input r e, cmd = .updateTransaction input →
      s.desktop.transactions.get? input.transactionId = some r →
      Alive M w.authenticatedUserId input.transactionId s.phase r
        (s.server.ledger.get? input.transactionId) e →
      Edits M w.authenticatedUserId input.transactionId s.phase (input.edit r)
        (s.server.ledger.get? input.transactionId) (input.payload r clk.now))
    (hdel : ∀ t, cmd = .deleteTransaction t → Deletable s t) :
    Aligned M w { s with desktop := d } := by
  have hy : (cmd.run rs clk).Yields (fun _ => False) s.desktop (.ok ()) d := yields_of_eval hrun
  have htidy : Tidy (fun _ => True) d := by
    have hcall : Tidy (fun _ => True) (Desktop.Call.after rs ⟨clk, cmd, []⟩ s.desktop) :=
      h.tidy.call ⟨clk, cmd, []⟩
    have hafter : Desktop.Call.after rs ⟨clk, cmd, []⟩ s.desktop = d := congrArg Prod.snd hrun
    rwa [hafter] at hcall
  cases hc : cmd.creates with
  | true => exact hnew hc
  | false =>
    cases cmd with
    | updateTransaction input =>
      obtain ⟨_, hupdate⟩ := Desktop.yields_discard_ok hy
      obtain ⟨r, q, hu, -⟩ := Desktop.updateTransaction_ok hupdate
      exact h.updated hu htidy fun e => hedit input r e rfl hu.row
    | deleteTransaction t =>
      rcases Desktop.deleteTransaction_ok hy with ⟨rfl, -⟩ | ⟨r, q, outboxId, rfl, hd⟩
      · exact h
      · exact h.deleted hd htidy (hdel _ rfl)
    | _ => cases hc

/-- A command that only creates transactions, whose payloads carry them. -/
theorem Aligned.creates (h : Aligned M w s) (hc : cmd.creates = true)
    (hrun : (cmd.run rs clk).eval s.desktop = (.ok (), d))
    (hnew : ∀ m : Desktop.Movement, m.Proper → ∀ outboxId,
      Carries M w.authenticatedUserId (m.row clk.now) none (m.event outboxId clk.now).payload) :
    Aligned M w { s with desktop := d } := by
  have hy : (cmd.run rs clk).Yields (fun _ => False) s.desktop (.ok ()) d := yields_of_eval hrun
  exact h.records (cmd.records hc hy) hnew

/-- **A run** keeps the three aligned, if its commands do. -/
theorem Reached.aligned (hpy : w.py.Conforms)
    (hcmd : ∀ {clk s cmd d}, Aligned M w s → ok clk s cmd →
      (cmd.run rs clk).eval s.desktop = (.ok (), d) → Aligned M w { s with desktop := d })
    (h : Reached rs w ok s) : Aligned M w s := by
  induction h with
  | start => exact aligned_start
  | command clk cmd _ hrun hok ih => exact hcmd ih hok hrun
  | other _ hd ih => exact ih.other hd
  | serve _ hdb hclean ih => exact ih.serve hdb hclean
  | fetch now _ hp ih => exact ih.fetch hp now
  | mark now _ hp ih => exact ih.mark hp now
  | post env _ hp hplain hacc ih => exact ih.post hpy hp hplain hacc
  | writeOutbox now _ hp ih => exact ih.writeOutbox hp now
  | writeTxs _ hp ih => exact ih.writeTxs hp
  | finish _ hp ih => exact ih.finish hp

theorem Aligned.shows (h : Aligned M w s) (hq : Quiet s) (hr : r ∈ s.desktop.transactions.rows) :
    ∃ row, s.server.ledger.get? r.transactionId = some row ∧ M.Shows r row := by
  obtain ⟨-, -, e, he, ha⟩ := h.event (Table.get?_of_mem hr)
  exact ha.settled (hq e (Table.mem_of_get? he))

/-- Of a transaction that is deleted the server has the quantity 0, if anything. -/
theorem Aligned.weightless (h : Aligned M w s) (hq : Quiet s) {row : Server.InventoryTransaction}
    (hrow : s.server.ledger.get? t = some row) (ht : s.desktop.transactions.get? t = none) :
    row.quantityDelta = 0 := by
  have hfine := h.fine t (h.ledger t (by rw [hrow]; rfl))
  rw [hrow, ht] at hfine
  have hvoid : ∀ x, s.desktop.outbox.get? (voidEventId t) = some x → ¬ Deliverable x := fun x hx =>
    hq x (Table.mem_of_get? hx)
  generalize s.desktop.outbox.get? (voidEventId t) = v at hfine hvoid
  generalize s.desktop.outbox.get? (eventId t) = ev at hfine
  cases hfine with
  | gone hg =>
    rcases hg.ends with hzero | ⟨x, hx, hd, -⟩
    · exact hzero row rfl
    · exact absurd hd (hvoid x hx)

theorem Reached.integral (h : Reached rs w ok s) : Server.Integral s.server := by
  induction h with
  | start => exact .of_empty Server.Sample.empty
  | serve _ hdb _ ih =>
    obtain ⟨hacc, hbal⟩ := ih
    refine ⟨fun id r hr => hacc id r (hdb.ledger ▸ hr), fun k => ?_⟩
    rw [Server.quantity_congr hdb.balances, hbal, Server.Db.projection, Server.Db.projection,
      hdb.ledger]
  | post env _ _ _ _ ih => exact Server.push_integral ih _
  | _ => assumption

end

/-! ## The quantities -/

/-- The quantities agree. -/
def sameQuantity : Match where
  Shows r row := row.quantityDelta = r.quantityDelta
  Kin _ _ := True
  kin _ := trivial
  shows_blind := by
    rintro r r' row ⟨_, _, rfl⟩ h
    exact h
  kin_blind _ _ := trivial

theorem carries_sameQuantity {payload : OutboxPayload} :
    Carries sameQuantity uid r o payload ↔ payload.quantityDelta.toInt = r.quantityDelta := by
  simp only [Carries, sameQuantity, Server.next_quantityDelta]
  exact ⟨fun h => h Server.Sample.env, fun h _ => h⟩

/-- **An edit in time** changes no quantity that is on its way. -/
theorem edits_sameQuantity {input : Desktop.UpdateTransactionInput} (now : Instant)
    (hok : InTime s (.updateTransaction input))
    (ha : Alive sameQuantity uid input.transactionId s.phase r o e) :
    Edits sameQuantity uid input.transactionId s.phase (input.edit r) o (input.payload r now) where
  quantity := hok
  waits _ := carries_sameQuantity.2 rfl
  flies x hx hxt := by
    rw [carries_sameQuantity, hok x (List.mem_append_left _ hx) hxt]
    rfl
  lands x hx hxt := by
    obtain ⟨-, hq, row, ho, hrow⟩ := ha.lands x hx hxt
    refine ⟨row, ho, ?_⟩
    have hinput : x.payload.quantityDelta = input.quantityDelta :=
      hok x (List.mem_append_right _ hx) hxt
    change row.quantityDelta = input.quantityDelta.toInt
    rw [← hinput, hq, ha.paid]
    exact hrow
  kin _ _ := trivial

/-- **Corrections in time** are never lost. -/
theorem corrections_in_flight {rs : Desktop.Rust} (hpy : w.py.Conforms)
    (h : Reached rs w (fun _ => InTime) s) (hq : Quiet s) : InLine s := by
  have ha : Aligned sameQuantity w s := h.aligned hpy fun ha hok hrun =>
    ha.command hrun (fun hc => ha.creates hc hrun fun _ _ _ => carries_sameQuantity.2 rfl)
      (fun input r e hcmd _ halive => edits_sameQuantity _ (hcmd ▸ hok) halive)
      fun t hcmd => by
        subst hcmd
        exact hok
  refine ⟨fun r hr => ha.shows hq hr, fun t row hrow ht k => ?_, h.integral.balanced⟩
  unfold Server.Db.contribution
  rw [ha.weightless hq hrow ht, ite_self]

/-! ## Sample runs -/

namespace Sample

open Sync.Sample

theorem unrejected_of_accepted {db : Server.Db} {subs : List Server.Submission}
    (h : accepted (Server.push setting.py db subs).1 = true) : Unrejected setting db subs := by
  intro receipts hr
  rw [hr] at h
  exact List.all_eq_true.1 h

theorem reached_act {ok : Clock → State → Command → Prop} {s s' : State} {a : Act}
    (h : Reached rust setting ok s) (ha : act s a = some s')
    (hok : ∀ clk cmd, a = .command clk cmd → ok clk s cmd) : Reached rust setting ok s' := by
  cases a with
  | command clk cmd =>
    have hcmd := hok clk cmd rfl
    simp only [act] at ha
    rcases hrun : (cmd.run rust clk).eval s.desktop with ⟨_ | _, d⟩ <;> rw [hrun] at ha <;> cases ha
    exact .command clk cmd h hrun hcmd
  | fetch now =>
    simp only [act] at ha
    split at ha <;> cases ha
    exact .fetch now h ‹_›
  | mark now =>
    simp only [act] at ha
    split at ha <;> cases ha
    exact .mark now h ‹_›
  | post env =>
    simp only [act] at ha
    split at ha
    · split at ha <;> cases ha
      rename_i hp hposts
      exact .post _ h hp hposts.1 (unrejected_of_accepted hposts.2)
    · cases ha
  | writeOutbox now =>
    simp only [act] at ha
    split at ha <;> cases ha
    exact .writeOutbox now h ‹_›
  | writeTxs =>
    simp only [act] at ha
    split at ha <;> cases ha
    exact .writeTxs h ‹_›
  | finish =>
    simp only [act] at ha
    split at ha <;> cases ha
    exact .finish h ‹_›

theorem reached_acts {ok : Clock → State → Command → Prop} {s s' : State} {as : List Act}
    (h : Reached rust setting ok s) (ha : acts s as = some s')
    (hok : ∀ clk cmd, .command clk cmd ∈ as → ∀ s, ok clk s cmd) : Reached rust setting ok s' := by
  induction as generalizing s with
  | nil =>
    cases ha
    exact h
  | cons a as ih =>
    rw [acts, List.foldlM_cons] at ha
    obtain ⟨s1, h1, h2⟩ := Option.bind_eq_some_iff.1 ha
    refine ih (reached_act h h1 fun clk cmd hcmd => ?_) h2 fun clk cmd hmem =>
      hok clk cmd (List.mem_cons_of_mem a hmem)
    exact hok clk cmd (hcmd ▸ List.mem_cons_self) s

def start : State := ⟨.empty, .empty, .idle⟩

/-- Ten are received, as `TX-1`. -/
def arrival : Act := .command (clock 0 1) (.receiveStock (receipt 10))

/-- There were only seven. -/
def amended : Act := .command (clock 2 5) (.updateTransaction (edit "TX-1" 7))

theorem exists_acts {s : State} {as : List Act} {P : State → Prop} [DecidablePred P]
    (h : (acts s as).any (fun s => P s) = true) : ∃ s', acts s as = some s' ∧ P s' := by
  cases hs : acts s as with
  | none =>
    rw [hs] at h
    cases h
  | some s' =>
    rw [hs] at h
    exact ⟨s', rfl, of_decide_eq_true h⟩

/-- A run with the arrival and one more command. -/
theorem reached_corrected {ok : Clock → State → Command → Prop} {before after : List Act} {clk : Clock}
    {cmd : Command} {s : State} (h : acts start (arrival :: before ++ .command clk cmd :: after) = some s)
    (hsteps : ∀ clk cmd, .command clk cmd ∉ before ++ after)
    (harrival : ok (clock 0 1) start (.receiveStock (receipt 10)))
    (hok : ∀ s1, acts start (arrival :: before) = some s1 → ok clk s1 cmd) :
    Reached rust setting ok s := by
  rw [acts, List.foldlM_append] at h
  obtain ⟨s1, h1, h⟩ := Option.bind_eq_some_iff.1 h
  rw [List.foldlM_cons] at h
  obtain ⟨s2, h2, h3⟩ := Option.bind_eq_some_iff.1 h
  have hcmd := hok s1 h1
  rw [List.foldlM_cons] at h1
  obtain ⟨s0, h0, h1⟩ := Option.bind_eq_some_iff.1 h1
  have hr0 : Reached rust setting ok s0 := reached_act .start h0 fun _ _ ha => by
    cases ha
    exact harrival
  have hr1 := reached_acts hr0 h1 fun clk cmd hmem =>
    absurd (List.mem_append_left _ hmem) (hsteps clk cmd)
  have hr2 := reached_act hr1 h2 fun _ _ ha => by
    cases ha
    exact hcmd
  exact reached_acts hr2 h3 fun clk cmd hmem => absurd (List.mem_append_right _ hmem) (hsteps clk cmd)

/-- What the desktop and the server have of `TX-1`. -/
def quantities (s : State) : Option Int × Option Int :=
  ((s.desktop.transactions.get? "TX-1").map (·.quantityDelta),
    (s.server.ledger.get? "TX-1").map (·.quantityDelta))

end Sample

open Flight.Sample Sync.Sample in
/-- An edit after the outcome is written to the outbox, and before it is written to the transaction. -/
theorem late_edit_pushed :
    ∃ s, acts start (arrival :: (push 1).take 4 ++ amended :: ((push 1).drop 4 ++ push 3)) = some s ∧
      quantities s = (some 7, some 7) ∧ InLine s := by
  have hrun : (acts start (arrival :: (push 1).take 4 ++ amended :: ((push 1).drop 4 ++ push 3))).any
      (fun s => Quiet s ∧ quantities s = (some 7, some 7)) = true := by decide +kernel
  have hearly : (acts start (arrival :: (push 1).take 4)).all (fun s => s.phase.flying = []) = true := by
    decide +kernel
  obtain ⟨s, h, hq, hquantities⟩ := exists_acts hrun
  have hr : Reached rust setting (fun _ => InTime) s := by
    refine reached_corrected h (fun clk cmd hmem => ?_) trivial fun s1 h1 e he => ?_
    · simp [push] at hmem
    · rw [h1] at hearly
      rw [of_decide_eq_true hearly] at he
      cases he
  exact ⟨s, h, hquantities, corrections_in_flight Server.Sample.conforms hr hq⟩

open Flight.Sample Sync.Sample in
/-- An edit is lost that comes after its event is marked: the desktop has seven, the server ten, and nothing
is left to be sent. -/
theorem edit_in_flight_lost : ¬ ∀ s, Reached rust setting (fun _ _ _ => True) s → Quiet s → InLine s := by
  intro h
  have hrun : (acts start (arrival :: (push 1).take 2 ++ amended :: ((push 1).drop 2 ++ [.fetch 3]))).any
      (fun s => Quiet s ∧ quantities s = (some 7, some 10)) = true := by decide +kernel
  obtain ⟨s, hs, hq, hquantities⟩ := exists_acts hrun
  have hline := h s (reached_acts .start hs fun _ _ _ _ => trivial) hq
  obtain ⟨hdesktop, hserver⟩ := Prod.mk.inj hquantities
  obtain ⟨r, hr, hr7⟩ := Option.map_eq_some_iff.1 hdesktop
  obtain ⟨row, hrow, hq⟩ := hline.kept r (Table.mem_of_get? hr)
  have hid : r.transactionId = "TX-1" := Table.key_of_get? hr
  rw [hid] at hrow
  rw [hrow] at hserver
  have h10 : row.quantityDelta = 10 := Option.some.inj hserver
  omega

end Sync.Flight
