import InvenTory.Lib.Runs
import InvenTory.Sync.Proof.PushLoop
import InvenTory.Sync.Rejections

/-!
# Rejections for good

The client tells from the head of a reason whether a rejection is for good. It knows all reasons of
`_validate_payload` but that of a sale without a reference (`isPermanentRejection_iff`), so such a sale
is sent again and again, and every other invalid payload once (`rejections_iff`).
-/

namespace Sync

open Server (validatePayload insufficientStock unexpectedError TransactionPayload)

/-! ## Reasons -/

/-- What `toLowerCase` does to ASCII, as a text or at the head of one. -/
structure LowerCase (js : Js) : Prop where
  ascii : ∀ s : String, (∀ ch ∈ s.toList, ch.val < 128) →
    js.toLowerCase s = String.ofList (s.toList.map Char.toLower)
  head : ∀ s s' : String, (∀ ch ∈ s.toList, ch.val < 128) →
    s.toList.map Char.toLower <+: (js.toLowerCase (s ++ s')).toList

def referenceRequired : String := "reference_number is required for SALE transactions"

/-- A sale that has everything but a reference. -/
structure LacksReference (p : TransactionPayload) : Prop where
  transactionId : Py.strip p.transactionId ≠ ""
  storeId : Py.strip p.storeId ≠ ""
  productId : Py.strip p.productId ≠ ""
  userId : 0 < p.userId
  deviceId : Py.strip p.deviceId ≠ ""
  quantityDelta : p.quantityDelta ≠ 0
  movementType : p.movementType = "SALE"
  referenceNumber : Py.strip (p.referenceNumber.getD "") = ""

variable {js : Js} {py : Server.Python} {p : TransactionPayload} {reason : String}

/-- A reason is one of the fixed ones, or lists the movement types, or asks for the reference. -/
theorem validatePayload_cases (h : validatePayload py p = some reason) :
    reason ∈ permanentRejectionPrefixes ∨ reason = "movement_type must be one of " ++ py.validTypesRepr ∨
      reason = referenceRequired ∧ LacksReference p := by
  unfold validatePayload at h
  split at h
  · cases h; exact .inl (by decide)
  split at h
  · cases h; exact .inl (by decide)
  split at h
  · cases h; exact .inl (by decide)
  split at h
  · cases h; exact .inl (by decide)
  split at h
  · cases h; exact .inl (by decide)
  split at h
  · cases h; exact .inl (by decide)
  split at h
  · cases h; exact .inl (by decide)
  split at h
  · cases h; exact .inr (.inl rfl)
  split at h
  · rename_i h1 h2 h3 h4 h5 h6 h7 h8 h9
    cases h
    exact .inr (.inr ⟨rfl, h1, h2, h3, not_le.1 h4, h5, h7, h9.1, h9.2⟩)
  · cases h

theorem validatePayload_lacksReference (h : LacksReference p) :
    validatePayload py p = some referenceRequired := by
  obtain ⟨h1, h2, h3, h4, h5, h6, h7, h8⟩ := h
  unfold validatePayload
  rw [if_neg h1, if_neg h2, if_neg h3, if_neg (not_le.2 h4), if_neg h5, if_neg (by rw [h7]; decide),
    if_neg h6, if_neg (by rw [h7]; decide), if_pos ⟨h7, h8⟩]
  rfl

-- the checks that evaluate a text go through the list of its characters, not through all characters
theorem ascii_of_all {s : String} (h : (s.toList.all fun ch => decide (ch.val < 128)) = true) :
    ∀ ch ∈ s.toList, ch.val < 128 := by
  simpa only [List.all_eq_true, decide_eq_true_eq] using h

/-- A head of a reason that no prefix agrees with. -/
theorem isPermanentRejection_false (hjs : LowerCase js) (s s' : String)
    (hs : ∀ ch ∈ s.toList, ch.val < 128)
    (hno : ∀ m ∈ permanentRejectionPrefixes, ¬ m.toList <+: s.toList.map Char.toLower ∧
      ¬ s.toList.map Char.toLower <+: m.toList) : isPermanentRejection js (s ++ s') = false := by
  unfold isPermanentRejection
  rw [List.any_eq_false]
  intro m hm
  rw [List.isPrefixOf_iff_prefix]
  intro hprefix
  rcases List.prefix_or_prefix_of_prefix hprefix (hjs.head s s' hs) with h | h
  · exact (hno m hm).1 h
  · exact (hno m hm).2 h

/-- **The client** takes a reason of `_validate_payload` to be for good, unless it asks for the
reference. -/
theorem isPermanentRejection_iff (hjs : LowerCase js) (h : validatePayload py p = some reason) :
    isPermanentRejection js reason = true ↔ ¬ LacksReference p := by
  rcases validatePayload_cases h with hfixed | rfl | ⟨rfl, hlacks⟩
  · have hne : reason ≠ referenceRequired := by
      rintro rfl
      exact absurd hfixed (by decide)
    refine iff_of_true ?_ fun hlacks => hne ?_
    · have hlower : ∀ m ∈ permanentRejectionPrefixes,
          (m.toList.all fun ch => decide (ch.val < 128)) = true ∧
            m.toList.map Char.toLower = m.toList := by decide
      obtain ⟨hall, hsame⟩ := hlower reason hfixed
      have hascii := ascii_of_all hall
      refine List.any_eq_true.2 ⟨reason, hfixed, List.isPrefixOf_iff_prefix.2 ?_⟩
      rw [hjs.ascii reason hascii, hsame, String.toList_ofList]
    · exact Option.some.inj (h.symm.trans (validatePayload_lacksReference hlacks))
  · refine iff_of_true ?_ fun hlacks => ?_
    · have hsplit : "movement_type must be one of " ++ py.validTypesRepr =
          "movement_type must be one of" ++ (" " ++ py.validTypesRepr) := by
        rw [← String.append_assoc]
        rfl
      rw [hsplit]
      refine List.any_eq_true.2 ⟨"movement_type must be one of", by decide, ?_⟩
      exact List.isPrefixOf_iff_prefix.2 (hjs.head "movement_type must be one of" _ (ascii_of_all (by decide)))
    · have heq := congrArg (fun s => s.toList.head?)
        (Option.some.inj (h.symm.trans (validatePayload_lacksReference hlacks)))
      simp [referenceRequired] at heq
  · refine iff_of_false (Bool.eq_false_iff.1 ?_) (not_not.2 hlacks)
    exact isPermanentRejection_false hjs "reference_number" " is required for SALE transactions"
      (ascii_of_all (by decide)) (by decide)

theorem LowerCase.not_permanent (hjs : LowerCase js) : isPermanentRejection js "" = false := by
  unfold isPermanentRejection
  rw [hjs.ascii "" (by simp)]
  decide

theorem insufficientStock_retried (hjs : LowerCase js) (current delta : Int) :
    isPermanentRejection js (insufficientStock current delta) = false := by
  unfold insufficientStock
  rw [String.append_assoc, String.append_assoc]
  exact isPermanentRejection_false hjs _ _ (ascii_of_all (by decide)) (by decide)

theorem unexpectedError_retried (hjs : LowerCase js) (exc : Server.Exn) :
    isPermanentRejection js (unexpectedError exc) = false :=
  isPermanentRejection_false hjs _ _ (ascii_of_all (by decide)) (by decide)

end Sync

namespace Sync.PushLoop

open Relational
open Desktop (Instant Queue QueuedEvent Status StatusUpdate)
open Server (SyncReceipt validatePayload)
open Wire

variable {c : Config} {t : Turn} {s : State} {q : Queue Message} {now : Instant} {eventId : String}

/-! ## What a turn does to an event -/

/-- The updates of an event change its status only, to one of theirs. -/
theorem advanceAll_cases (now : Instant) (updates : List StatusUpdate) (e : Row) :
    (Queue.advanceAll now updates e).status = e.status ∨
      ∃ u ∈ updates, u.eventId = e.eventId ∧
        (Queue.advanceAll now updates e).status = u.targetStatus := by
  induction updates generalizing e with
  | nil => exact .inl rfl
  | cons u us ih =>
    have hid := Queue.advance_eventId now u e
    have hall : Queue.advanceAll now (u :: us) e =
        Queue.advanceAll now us (Queue.advance now u e) := rfl
    rw [hall]
    rcases ih (Queue.advance now u e) with h | ⟨v, hv, hvid, h⟩
    · by_cases hu : e.eventId = u.eventId
      · refine .inr ⟨u, List.mem_cons_self, hu.symm, ?_⟩
        rw [h, Queue.advance, if_pos hu, QueuedEvent.transition_status]
      · rw [h, Queue.advance, if_neg hu]
        exact .inl rfl
    · exact .inr ⟨v, List.mem_cons_of_mem _ hv, hvid.trans hid, h⟩

theorem write_cases {updates : List StatusUpdate} {row : Row}
    (h : row ∈ (write now updates q).rows) :
    ∃ r ∈ q.rows, row.eventId = r.eventId ∧ row.payload = r.payload ∧
      (row.status = r.status ∨
        ∃ u ∈ updates, u.eventId = r.eventId ∧ row.status = u.targetStatus) := by
  unfold write at h
  cases hq : q.updateStatuses now updates with
  | error e =>
    rw [hq] at h
    exact ⟨row, h, rfl, rfl, .inl rfl⟩
  | ok q' =>
    rw [hq, Queue.updateStatuses_eq hq] at h
    obtain ⟨r, hr, rfl⟩ := List.mem_map.1 h
    exact ⟨r, hr, Queue.advanceAll_eventId .., Queue.advanceAll_payload ..,
      advanceAll_cases now updates r⟩

/-- What becomes of the status of a row. -/
inductive Moves (c : Config) (t : Turn) (s : State) (r : Row) : Status → Prop
  | stays : Moves c t s r r.status
  | read : Moves c t s r (prep c.force r).status
  | sending (hp : prep c.force r ∈ pending c t.readAt s.outbox) : Moves c t s r .sending
  | unparseable (hp : prep c.force r ∈ pending c t.readAt s.outbox)
    (hk : kind c.rt r.payload = .unparseable) : Moves c t s r .permanentRejection
  | synced (hp : prep c.force r ∈ pending c t.readAt s.outbox) : Moves c t s r .synced
  | settles (hp : prep c.force r ∈ pending c t.readAt s.outbox) {receipts : List SyncReceipt}
    (hreply : t.reply = .ok receipts) {id : String} (hk : kind c.rt r.payload = .transaction id) :
    Moves c t s r (settled c.rt.toJs receipts id)
  | fails (hp : prep c.force r ∈ pending c t.readAt s.outbox) : Moves c t s r .retryableError

/-- A row that comes from `r`. -/
structure From (c : Config) (t : Turn) (s : State) (r row : Row) : Prop where
  mem : r ∈ s.outbox.rows
  eventId : row.eventId = r.eventId
  kind : kind c.rt row.payload = kind c.rt r.payload
  moves : Moves c t s r row.status

/-- Updates of events of a batch. -/
theorem From.write {updates : List StatusUpdate} (hq : ∀ row ∈ q.rows, ∃ r, From c t s r row)
    (hu : ∀ u ∈ updates, ∃ row ∈ pending c t.readAt s.outbox, u.eventId = row.eventId ∧
      ∀ r, row = prep c.force r → Moves c t s r u.targetStatus) :
    ∀ row ∈ (write now updates q).rows, ∃ r, From c t s r row := by
  intro row hrow
  obtain ⟨row', hrow', hid, hpay, hstatus⟩ := write_cases hrow
  obtain ⟨r, hr, hid', hk, hmoves⟩ := hq row' hrow'
  refine ⟨r, hr, hid.trans hid', by rw [hpay, hk], ?_⟩
  rcases hstatus with hstatus | ⟨u, hmem, huid, hstatus⟩
  · rwa [hstatus]
  · obtain ⟨row'', hpend, huid', hall⟩ := hu u hmem
    rw [hstatus]
    refine hall r (pending_eventId hr hpend ?_)
    rw [← huid', huid, hid']

theorem from_recovered : ∀ row ∈ (recovered c.force s.outbox).rows, ∃ r, From c t s r row := by
  intro row hrow
  rw [recovered_eq] at hrow
  obtain ⟨r, hr, rfl⟩ := List.mem_map.1 hrow
  exact ⟨r, hr, prep_eventId .., (restates_prep c.rt c.force).kind r, .read⟩

theorem from_marked : ∀ row ∈ (marked c t (pending c t.readAt s.outbox) s.outbox).rows,
    ∃ r, From c t s r row := by
  refine From.write (From.write from_recovered ?_) ?_
  · intro u hu
    obtain ⟨row, hrow, rfl⟩ := List.mem_map.1 hu
    exact ⟨row, hrow, rfl, fun r hr => .sending (hr ▸ hrow)⟩
  · intro u hu
    obtain ⟨row, hrow, rfl⟩ := List.mem_map.1 hu
    obtain ⟨hrow, hk⟩ := mem_unparseable.1 hrow
    refine ⟨row, hrow, rfl, fun r hr => .unparseable (hr ▸ hrow) ?_⟩
    rw [← (restates_prep c.rt c.force).kind r, ← hr, hk]

theorem from_accepted {receipts : List SyncReceipt} (hr : t.reply = .ok receipts) :
    ∀ row ∈ (write t.writeAt (outcomes c.rt.toJs receipts
        (items c t.isoNow (pending c t.readAt s.outbox))
        (productUpdates c t.isoNow (pending c t.readAt s.outbox)))
      (marked c t (pending c t.readAt s.outbox) s.outbox)).rows, ∃ r, From c t s r row := by
  refine From.write from_marked fun u hu => ?_
  obtain ⟨row, hrow, hid, hcase⟩ := mem_outcomes hu
  refine ⟨row, hrow, hid, fun r hprep => ?_⟩
  have hkind := (restates_prep c.rt c.force).kind r
  rcases hcase with ⟨-, htarget⟩ | ⟨id, hk, htarget⟩
  · rw [htarget]
    exact .synced (hprep ▸ hrow)
  · rw [htarget]
    exact .settles (hprep ▸ hrow) hr (by rw [← hkind, ← hprep, hk])

theorem from_failed (error : String) :
    ∀ row ∈ (write t.writeAt (failureUpdates (items c t.isoNow (pending c t.readAt s.outbox)) error)
      (marked c t (pending c t.readAt s.outbox) s.outbox)).rows, ∃ r, From c t s r row := by
  refine From.write from_marked fun u hu => ?_
  obtain ⟨x, hx, rfl⟩ := List.mem_map.1 hu
  obtain ⟨hrow, -⟩ := mem_items hx
  exact ⟨x.2, hrow, rfl, fun r hprep => .fails (hprep ▸ hrow)⟩

theorem turn_aborted_outbox (ha : t.aborted = true) : (turn c t s).outbox = s.outbox := by
  unfold turn
  rw [ha]
  split <;> rfl

/-- **A turn** moves the rows of the outbox. -/
theorem from_turn (c : Config) (t : Turn) (s : State) :
    ∀ row ∈ (turn c t s).outbox.rows, ∃ r, From c t s r row := by
  have hstay : ∀ row ∈ s.outbox.rows, ∃ r, From c t s r row :=
    fun row hrow => ⟨row, hrow, rfl, rfl, .stays⟩
  cases hk : s.keepGoing with
  | false =>
    rw [turn_stopped hk]
    exact hstay
  | true =>
    cases ha : t.aborted with
    | true =>
      rw [turn_aborted_outbox ha]
      exact hstay
    | false =>
      rw [turn_eq hk ha]
      dsimp only
      split
      · exact from_recovered
      split
      · exact from_marked
      cases hr : t.reply with
      | ok receipts =>
        have h := from_accepted (c := c) (s := s) hr
        dsimp only
        rw [accepted_outbox]
        dsimp only
        exact h
      | error error =>
        have h := from_failed (c := c) (t := t) (s := s) error
        dsimp only
        unfold failed
        dsimp only
        split
        · dsimp only
          exact from_marked
        · dsimp only
          exact h

/-! ## What else becomes of an event -/

/-- A row of an event that nothing edits. -/
theorem step_row {e : Event} (ha : e.Avoids eventId) {row : Row} (h : row ∈ (step s e).outbox.rows)
    (hid : row.eventId = eventId) : (∃ c t, e = .turn c t) ∨ row ∈ s.outbox.rows ∨
      e = .withdraw eventId ∧ row.status = .permanentRejection := by
  cases e with
  | begin => exact .inr (.inl h)
  | turn c t => exact .inl ⟨c, t, rfl⟩
  | insert new =>
    refine .inr (.inl ?_)
    change row ∈ (insertRow new s.outbox).rows at h
    unfold insertRow at h
    split at h
    · exact h
    · rcases Table.mem_put.1 h with rfl | ⟨h, -⟩
      · exact absurd hid ha
      · exact h
  | upsert new =>
    refine .inr (.inl ?_)
    change row ∈ (upsertRow new s.outbox).rows at h
    unfold upsertRow at h
    split at h
    · exact h
    · rcases Table.mem_put.1 h with rfl | ⟨h, -⟩
      · exact absurd hid ha
      · exact h
  | edit id payload =>
    obtain ⟨r, hr, rfl⟩ := List.mem_map.1 h
    rw [editedRow_eventId] at hid
    have hsame : editedRow id payload r = r := if_neg fun he => ha (he.symm.trans hid)
    rw [hsame]
    exact .inr (.inl hr)
  | withdraw id =>
    obtain ⟨r, hr, rfl⟩ := List.mem_map.1 h
    rw [withdrawnRow_eventId] at hid
    by_cases he : r.eventId = id
    · refine .inr (.inr ⟨by rw [← he, hid], ?_⟩)
      unfold withdrawnRow
      rw [if_pos he]
    · have hsame : withdrawnRow id r = r := if_neg he
      rw [hsame]
      exact .inr (.inl hr)
  | archive cutoff => exact .inr (.inl (Table.mem_filter.1 h).1)
  | clear => cases h

/-! ## An event that is settled -/

/-- The event is not live. -/
def Quiet (eventId : String) (s : State) : Prop :=
  ∀ row ∈ s.outbox.rows, row.eventId = eventId → live false row.status = false

theorem Quiet.not_pending (h : Quiet eventId s) (hf : c.force = false) {row : Row}
    (hrow : row ∈ pending c now s.outbox) : row.eventId ≠ eventId := by
  obtain ⟨r, hr, rfl, hlive⟩ := mem_pending hrow
  rw [prep_eventId]
  intro hid
  rw [hf, h r hr hid] at hlive
  cases hlive

/-- **An event that is not live** stays so. -/
theorem Quiet.step (h : Quiet eventId s) {e : Event} (hl : e.Leaves eventId) :
    Quiet eventId (PushLoop.step s e) := by
  intro row hrow hid
  rcases step_row hl.1 hrow hid with ⟨c, t, rfl⟩ | hrow | ⟨-, hstatus⟩
  · have hf := hl.2 c t rfl
    obtain ⟨r, hr, hid', -, hmoves⟩ := from_turn c t s row hrow
    have hquiet := h r hr (hid'.symm.trans hid)
    have hno : prep c.force r ∉ pending c t.readAt s.outbox := fun hp =>
      h.not_pending hf hp ((prep_eventId ..).trans (hid'.symm.trans hid))
    generalize row.status = status at hmoves ⊢
    cases hmoves with
    | stays => exact hquiet
    | read =>
      rw [hf]
      exact (live_prep false r).trans hquiet
    | sending hp => exact absurd hp hno
    | unparseable hp hk => exact absurd hp hno
    | synced hp => exact absurd hp hno
    | settles hp hreply hk => exact absurd hp hno
    | fails hp => exact absurd hp hno
  · exact h row hrow hid
  · rw [hstatus]
    rfl

theorem Quiet.neverAgain (h : Quiet eventId s) : NeverAgain s eventId := by
  intro es hes c t hf hsends
  have hrun : Quiet eventId (es.foldl PushLoop.step s) := by
    have hall : Runs.Along PushLoop.step (fun _ e => e.Leaves eventId) s es :=
      Runs.along_of_mem (fun e he _ => hes e he) s
    exact (hall.always h fun s e hq hl => hq.step hl).last
  obtain ⟨-, -, x, hx, hid⟩ := hsends
  exact hrun.not_pending hf (mem_items hx).1 hid

/-! ## An event that is not given up -/

/-- The event is not among the rejections for good, and is of the transaction. -/
def Open (rt : Runtime) (eventId transactionId : String) (s : State) : Prop :=
  ∀ row ∈ s.outbox.rows, row.eventId = eventId →
    row.status ≠ .permanentRejection ∧ kind rt row.payload = .transaction transactionId

theorem Transient.retried {js : Js} (hjs : LowerCase js) {reason : String} (h : Transient reason) :
    rejectedStatus js reason = .retryableError := by
  have hno : isPermanentRejection js reason = false := by
    rcases h with ⟨current, delta, rfl⟩ | ⟨exc, rfl⟩
    · exact insufficientStock_retried hjs current delta
    · exact unexpectedError_retried hjs exc
  unfold rejectedStatus
  rw [hno]
  rfl

theorem prep_not_rejected {r : Row} (force : Bool) (h : r.status ≠ .permanentRejection) :
    (prep force r).status ≠ .permanentRejection := by
  obtain ⟨id, eventId, payload, status, retry, next, created, err⟩ := r
  cases force <;> cases status <;> first | exact Status.noConfusion | exact absurd rfl h

/-- **An event rejected for transient reasons only** is not given up. -/
theorem Open.step {rt : Runtime} (hjs : LowerCase rt.toJs) {transactionId : String}
    (h : Open rt eventId transactionId s) {e : Event} (hp : e.Passes rt eventId transactionId) :
    Open rt eventId transactionId (PushLoop.step s e) := by
  intro row hrow hid
  obtain ⟨ha, hw, hturn⟩ := hp
  rcases step_row ha hrow hid with ⟨c, t, rfl⟩ | hrow | ⟨he, -⟩
  · obtain ⟨rfl, hreply⟩ := hturn c t rfl
    obtain ⟨r, hr, hid', hkind, hmoves⟩ := from_turn c t s row hrow
    obtain ⟨hstatus, hk⟩ := h r hr (hid'.symm.trans hid)
    refine ⟨?_, hkind.trans hk⟩
    generalize row.status = status at hmoves ⊢
    cases hmoves with
    | stays => exact hstatus
    | read => exact prep_not_rejected c.force hstatus
    | sending hp => exact Status.noConfusion
    | unparseable hp hk' => rw [hk] at hk'; cases hk'
    | synced hp => exact Status.noConfusion
    | settles hp hok hk' =>
      rename_i receipts id
      obtain rfl : transactionId = id := Kind.transaction.inj (hk.symm.trans hk')
      unfold settled
      cases hreceipt : receiptOf receipts transactionId with
      | none => exact Status.noConfusion
      | some r =>
        cases hacc : r.accepted with
        | true => simp [hacc]
        | false =>
          obtain ⟨reason, hreason, htransient⟩ := hreply receipts r hok hreceipt hacc
          simp [hacc, hreason, htransient.retried hjs]
    | fails hp => exact Status.noConfusion
  · exact h row hrow hid
  · exact absurd he hw

/-! ## A rejection -/

variable {x : Wire.PushItem × Row} {reason : String}

theorem Rejected.settled_eq (h : Rejected c t s x reason) :
    ∃ receipts, t.reply = .ok receipts ∧
      settled c.rt.toJs receipts x.1.transactionId = rejectedStatus c.rt.toJs reason := by
  obtain ⟨receipts, r, hreply, hreceipt, hacc, hreason⟩ := h.reply
  refine ⟨receipts, hreply, ?_⟩
  unfold settled
  rw [hreceipt]
  simp [hacc, hreason]

/-- The outbox after the answer. -/
theorem Rejected.outbox_eq (h : Rejected c t s x reason) {receipts : List SyncReceipt}
    (hreply : t.reply = .ok receipts) : (turn c t s).outbox =
      s.outbox.change (settle c t receipts (pending c t.readAt s.outbox))
        (restates_settle _).eventId := by
  obtain ⟨hrow, -⟩ := mem_items h.sent
  have hrows : (pending c t.readAt s.outbox).isEmpty = false :=
    List.isEmpty_eq_false_iff_exists_mem.2 ⟨_, hrow⟩
  have hitems : (items c t.isoNow (pending c t.readAt s.outbox)).isEmpty = false :=
    List.isEmpty_eq_false_iff_exists_mem.2 ⟨_, h.sent⟩
  rw [turn_eq h.keepGoing h.aborted]
  dsimp only
  rw [hrows, hitems, hreply, Bool.false_and, Bool.false_and, Bool.false_and,
    if_neg Bool.false_ne_true, if_neg Bool.false_ne_true]
  dsimp only
  rw [accepted_outbox]
  dsimp only
  exact PushLoop.settled_eq

theorem Rejected.status (h : Rejected c t s x reason) {row : Row}
    (hrow : row ∈ (turn c t s).outbox.rows) (hid : row.eventId = x.2.eventId) :
    row.status = rejectedStatus c.rt.toJs reason ∧
      kind c.rt row.payload = .transaction x.1.transactionId := by
  obtain ⟨receipts, hreply, hsettled⟩ := h.settled_eq
  obtain ⟨hpend, hk⟩ := mem_items h.sent
  rw [h.outbox_eq hreply] at hrow
  obtain ⟨r, hr, rfl⟩ := List.mem_map.1 hrow
  have hrest : Restates c.rt (settle c t receipts (pending c t.readAt s.outbox)) := restates_settle _
  rw [hrest.eventId] at hid
  have hprep := pending_eventId hr hpend hid.symm
  have hkind : kind c.rt r.payload = .transaction x.1.transactionId := by
    rw [← (restates_prep c.rt c.force).kind r, ← hprep, hk]
  refine ⟨?_, (hrest.kind r).trans hkind⟩
  rw [status_settle hr, if_pos ((mem_batch c t.readAt hr).2 (hprep ▸ hpend)), hkind]
  exact hsettled

theorem Rejected.exists_row (h : Rejected c t s x reason) :
    ∃ row ∈ (turn c t s).outbox.rows, row.eventId = x.2.eventId := by
  obtain ⟨receipts, hreply, -⟩ := h.settled_eq
  obtain ⟨r, hr, he, -⟩ := mem_pending (mem_items h.sent).1
  rw [h.outbox_eq hreply]
  refine ⟨_, List.mem_map_of_mem hr, ?_⟩
  rw [(restates_settle _).eventId, he, prep_eventId]

/-! ## An event that is sent again -/

/-- The first event of the line is pushed, and accepted. -/
theorem exists_next (hjs : LowerCase c.rt.toJs) (hb : c.batchSize = 1) (hf : c.force = false)
    {z : Entry} {l : List Entry} (hk : s.keepGoing = true) (hline : line c s.outbox = z :: l) :
    ∃ now, batch c now s.outbox = [z] ∧ ∃ t, (turn c t s).keepGoing = true ∧
      line c (turn c t s).outbox = l := by
  obtain ⟨now, -, hdue⟩ := exists_due s.outbox 0
  have hlimit : limit c = 1 := by
    rw [limit_eq (by rw [hb]; decide), hb]
    rfl
  have hbatch : batch c now s.outbox = [z] := by
    rw [batch_eq_take (.inr hdue), hlimit, hline]
    rfl
  have hz : z ∉ l := (List.nodup_cons.1 (hline ▸ nodup_line (c := c) (q := s.outbox))).1
  -- what is left of the line, if `z` goes
  have hleft : ∀ f : Entry → Bool, f z = false → (line c s.outbox).filter (fun x =>
      decide (x ∉ batch c now s.outbox) || f x) = l := by
    intro f hfz
    rw [hline, hbatch, List.filter_cons_of_neg (by simp [hfz])]
    refine List.filter_eq_self.2 fun x hx => ?_
    have hne : x ≠ z := fun he => hz (he ▸ hx)
    simp [hne]
  have hne : batch c now s.outbox ≠ [] := by
    rw [hbatch]
    exact List.cons_ne_nil z []
  have hfull : c.batchSize.toInt ≤ (batch c now s.outbox).length := by
    rw [hbatch, hb]
    exact le_rfl
  refine ⟨now, hbatch, ?_⟩
  cases hu : z.isUnparseable with
  | true =>
    obtain ⟨-, hgo, hnext, -⟩ := quiet_turn hk hne (by rw [hbatch]; simpa using hu)
      (fun h => by rw [hf] at h; cases h)
    exact ⟨_, hgo, hnext.trans (hleft _ (by simp [hu, hf]))⟩
  | false =>
    obtain ⟨-, hgo, hnext, -⟩ := answered_turn hjs.not_permanent hk (fun _ => true) hne hfull
      (fun h => by rw [h z (by rw [hbatch]; simp)] at hu; cases hu)
    refine ⟨_, hgo, hnext.trans (hleft _ ?_)⟩
    unfold kept
    cases hz : z.kind with
    | unparseable => exact hf
    | _ => rfl

/-- **An event that waits** has its turn. -/
theorem exists_sends (hjs : LowerCase c.rt.toJs) (hb : c.batchSize = 1) (hf : c.force = false)
    {y : Entry} {id : String} (hy : y.kind = .transaction id) (hk : s.keepGoing = true)
    (hmem : y ∈ line c s.outbox) : ∃ ts : List Turn, ∃ t,
      Sends c t ((ts.map (Event.turn c)).foldl step s) y.eventId := by
  generalize hl : line c s.outbox = l at hmem
  induction l generalizing s with
  | nil => cases hmem
  | cons z l ih =>
    obtain ⟨now, hbatch, t, hgo, hnext⟩ := exists_next hjs hb hf hk hl
    rcases List.mem_cons.1 hmem with rfl | hmem
    · have hin : y ∈ batch c now s.outbox := by
        rw [hbatch]
        exact List.mem_singleton_self y
      obtain ⟨row, hrow, rfl⟩ := List.mem_map.1 hin
      obtain ⟨i, hi, -⟩ := exists_item "" hrow hy
      exact ⟨[], noAnswer now, hk, rfl, _, hi, rfl⟩
    · obtain ⟨ts, t', hsends⟩ := ih hgo hnext hmem
      exact ⟨t :: ts, t', hsends⟩

/-- **A rejected event** is sent again if it is only not given up. -/
theorem Rejected.sends_again (h : Rejected c t s x reason) (hjs : LowerCase c.rt.toJs)
    (hreason : isPermanentRejection c.rt.toJs reason = false) :
    ¬ NeverAgain (turn c t s) x.2.eventId := by
  obtain ⟨row, hrow, hid⟩ := h.exists_row
  obtain ⟨hstatus, hk⟩ := h.status hrow hid
  have hlive : row.status = .retryableError := by
    rw [hstatus, rejectedStatus, hreason]
    rfl
  let next : Config := { c with batchSize := 1, force := false }
  have hmem : entry next.rt row ∈ line next (start (turn c t s).outbox).outbox := by
    refine mem_line.2 ⟨row, hrow, ?_, rfl⟩
    rw [hlive]
    rfl
  obtain ⟨ts, t', hsends⟩ := exists_sends (c := next) hjs rfl rfl hk rfl hmem
  intro hnever
  refine hnever (.begin :: ts.map (Event.turn next)) ?_ next t' rfl ?_
  · intro e he
    rcases List.mem_cons.1 he with rfl | he
    · exact ⟨trivial, fun _ _ h => by cases h⟩
    · obtain ⟨t'', -, rfl⟩ := List.mem_map.1 he
      exact ⟨trivial, fun _ _ h => by cases h; rfl⟩
  · rw [← hid]
    exact hsends

theorem Rejected.neverAgain_iff (h : Rejected c t s x reason) (hjs : LowerCase c.rt.toJs) :
    NeverAgain (turn c t s) x.2.eventId ↔ isPermanentRejection c.rt.toJs reason = true := by
  refine ⟨fun hnever => ?_, fun hreason => ?_⟩
  · by_contra hno
    exact h.sends_again hjs (by simpa using hno) hnever
  · refine Quiet.neverAgain fun row hrow hid => ?_
    rw [(h.status hrow hid).1, rejectedStatus, hreason]
    rfl

/-- **A payload that `_validate_payload` rejects** is not sent again once the server has answered,
exactly if it lacks more than the reference of a sale. What is rejected for a transient reason is not
given up as long as its answers are such. -/
theorem rejections_iff (hjs : LowerCase c.rt.toJs) (t : Turn) (s : State) (x : Wire.PushItem × Row) :
    (∀ (py : Server.Python) (p : Server.TransactionPayload) (reason : String),
      validatePayload py p = some reason → Rejected c t s x reason →
        (NeverAgain (turn c t s) x.2.eventId ↔ ¬ LacksReference p)) ∧
    ∀ reason : String, Transient reason → Rejected c t s x reason →
      ∀ es : List Event, (∀ e ∈ es, e.Passes c.rt x.2.eventId x.1.transactionId) →
        ¬ GivenUp (es.foldl step (turn c t s)) x.2.eventId := by
  refine ⟨fun py p reason hreason h => ?_, fun reason htransient h es hes => ?_⟩
  · exact (h.neverAgain_iff hjs).trans (isPermanentRejection_iff hjs hreason)
  · have hopen : Open c.rt x.2.eventId x.1.transactionId (turn c t s) := by
      intro row hrow hid
      obtain ⟨hstatus, hk⟩ := h.status hrow hid
      refine ⟨?_, hk⟩
      rw [hstatus, htransient.retried hjs]
      exact Status.noConfusion
    have hall : Runs.Along step (fun _ e => e.Passes c.rt x.2.eventId x.1.transactionId)
        (turn c t s) es := Runs.along_of_mem (fun e he _ => hes e he) _
    rintro ⟨row, hrow, hid, hgiven⟩
    exact ((hall.always hopen fun s e ho hp => ho.step hjs hp).last row hrow hid).1 hgiven

/-- The sample sale is rejected. -/
theorem rejected_sold (quantityDelta reason : String)
    (h : (items Sample.unforced "" (pending Sample.unforced 0 (Sample.sold quantityDelta).outbox)).map
      (fun x => (x.1.transactionId, x.2.eventId)) = [("TX-1", "EVT-1")]) :
    ∃ x, Rejected Sample.unforced (Sample.answered reason) (Sample.sold quantityDelta) x reason ∧
      x.1.transactionId = "TX-1" ∧ x.2.eventId = "EVT-1" := by
  have hmem : (("TX-1", "EVT-1") : String × String) ∈ [("TX-1", "EVT-1")] := List.mem_singleton_self _
  rw [← h] at hmem
  obtain ⟨x, hx, hids⟩ := List.mem_map.1 hmem
  obtain ⟨htx, hid⟩ := Prod.mk.inj hids
  refine ⟨x, ⟨rfl, rfl, hx, _, ⟨"TX-1", false, some reason, ⟨0, some 0⟩, ⟨0, some 0⟩⟩, rfl, ?_, rfl,
    rfl⟩, htx, hid⟩
  rw [htx]
  rfl

theorem lowerCase_sample : LowerCase Sync.Sample.js where
  ascii _ _ := rfl
  head s s' _ := by simp [Sync.Sample.js]

theorem rejections_sold :
    NeverAgain (turn Sample.unforced (Sample.answered "quantity_delta must be non-zero")
      (Sample.sold "0")) "EVT-1" ∧
    ¬ GivenUp (turn Sample.unforced (Sample.answered (Server.insufficientStock 0 (-1)))
      (Sample.sold "-1")) "EVT-1" := by
  obtain ⟨x, hx, -, hid⟩ := rejected_sold "0" "quantity_delta must be non-zero" rfl
  obtain ⟨x', hx', -, hid'⟩ := rejected_sold "-1" (Server.insufficientStock 0 (-1)) rfl
  have hnever := (rejections_iff (c := Sample.unforced) lowerCase_sample
    (Sample.answered "quantity_delta must be non-zero") (Sample.sold "0") x).1
    Server.Sample.python (Sample.payload 0) "quantity_delta must be non-zero" (by decide) hx
  have hopen := (rejections_iff (c := Sample.unforced) lowerCase_sample
    (Sample.answered (Server.insufficientStock 0 (-1))) (Sample.sold "-1") x').2
    (Server.insufficientStock 0 (-1)) (.inl ⟨0, -1, rfl⟩) hx' [] (by simp)
  rw [hid] at hnever
  rw [hid'] at hopen
  exact ⟨hnever.2 fun h => h.quantityDelta rfl, hopen⟩

/-- A sale without a reference comes again and again. -/
theorem unreferenced_recurs :
    validatePayload Server.Sample.python (Sample.payload (-1)) = some referenceRequired ∧
      ∃ x, Rejected Sample.unforced (Sample.answered referenceRequired) (Sample.sold "-1") x
        referenceRequired ∧
      ¬ NeverAgain (turn Sample.unforced (Sample.answered referenceRequired) (Sample.sold "-1"))
        x.2.eventId := by
  obtain ⟨x, hx, -, -⟩ := rejected_sold "-1" referenceRequired rfl
  have hreason : validatePayload Server.Sample.python (Sample.payload (-1)) =
      some referenceRequired := by decide
  refine ⟨hreason, x, hx, hx.sends_again lowerCase_sample ?_⟩
  have hlacks : LacksReference (Sample.payload (-1)) := by
    constructor <;> decide
  have hiff := isPermanentRejection_iff lowerCase_sample hreason
  exact Bool.eq_false_iff.2 fun h => hiff.1 h hlacks

end Sync.PushLoop
