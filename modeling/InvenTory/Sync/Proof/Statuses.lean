import InvenTory.Domain.Outbox
import InvenTory.Sync.Proof.Turn

/-!
# The statuses of a run

The push loop takes the events of the outbox through statuses by the rules of the domain package, if an event
that it writes as synced at once counts as accepted before (`turn_course`, `statuses_follow`). Each time that
it reads an event to send it is one time that the event enters `SENDING`. While a request is on its way, the
events with that status are those of the request (`in_flight_iff`).
-/

namespace Sync.PushLoop

open Relational
open Desktop (Instant Queue QueuedEvent Status StatusUpdate)
open Server (SyncReceipt)
open Wire
open Domain (SyncStatus)
open Domain.OutboxStateMachine (Advances Course)

/-- The status of the rules that has the same text. -/
def syncStatus : Status → SyncStatus
  | .pending => .pending
  | .sending => .sending
  | .accepted => .accepted
  | .synced => .synced
  | .retryableError => .retryableError
  | .permanentRejection => .permanentRejection
  | .exceptionReview => .exceptionReview

/-- A turn reads the event, to send it. -/
def Takes (c : Config) (t : Turn) (s : State) (eventId : String) : Prop :=
  s.keepGoing = true ∧ t.aborted = false ∧
    eventId ∈ (pending c t.readAt s.outbox).map (·.eventId)

instance (c : Config) (t : Turn) (s : State) (eventId : String) : Decidable (Takes c t s eventId) :=
  inferInstanceAs (Decidable (_ ∧ _ ∧ _))

/-- How many of the `n` turns from the `m`-th on do. -/
def attempts (c : Config) (turns : Nat → Turn) (s : State) (eventId : String) (m n : Nat) : Nat :=
  (List.range' m n).countP fun k => decide (Takes c (turns k) (states c turns s k) eventId)

theorem attempts_succ (c : Config) (turns : Nat → Turn) (s : State) (eventId : String) (m n : Nat) :
    attempts c turns s eventId m (n + 1) = attempts c turns s eventId m n +
      if Takes c (turns (m + n)) (states c turns s (m + n)) eventId then 1 else 0 := by
  unfold attempts
  rw [List.range'_concat, List.countP_append, List.countP_singleton]
  simp

variable {c : Config} {t : Turn} {q q' : Queue Message}

/-! ## A turn -/

/-- Where a turn may leave an event that it has read. -/
def reached : List Status := [.sending, .synced, .retryableError, .permanentRejection]

/-- The rows after a turn, by those before. -/
def Processed (c : Config) (t : Turn) (q q' : Queue Message) : Prop :=
  ∀ r ∈ q.rows, ∃ r' ∈ q'.rows, r'.eventId = r.eventId ∧
    if entry c.rt r ∈ batch c t.readAt q then r'.status ∈ reached
    else r'.status = (prep c.force r).status

theorem processed_of_change {f : Row → Row} (hf : ∀ row, (f row).eventId = row.eventId)
    (h : ∀ r ∈ q.rows, if entry c.rt r ∈ batch c t.readAt q then (f r).status ∈ reached
      else (f r).status = (prep c.force r).status) : Processed c t q (q.change f hf) := by
  intro r hr
  refine ⟨f r, ?_, hf r, h r hr⟩
  rw [Queue.rows_change]
  exact List.mem_map_of_mem hr

theorem processed_recovered (h : pending c t.readAt q = []) : Processed c t q (recovered c.force q) := by
  rw [recovered_eq]
  refine processed_of_change _ fun r _ => ?_
  rw [if_neg (by simp [batch_eq_nil.2 h])]

theorem reached_mark {r : Row} (hr : r ∈ q.rows) :
    if entry c.rt r ∈ batch c t.readAt q then
      (mark c t (pending c t.readAt q) r).status ∈ reached
    else (mark c t (pending c t.readAt q) r).status = (prep c.force r).status := by
  rw [status_mark c t t.readAt hr]
  split
  · split <;> simp [reached]
  · rfl

theorem processed_marked : Processed c t q (marked c t (pending c t.readAt q) q) := by
  rw [marked_eq]
  exact processed_of_change _ fun r hr => reached_mark hr

theorem reached_settled (js : Js) (receipts : List SyncReceipt) (id : String) :
    settled js receipts id ∈ reached := by
  unfold settled
  split
  · simp [reached]
  · unfold rejectedStatus
    split_ifs <;> simp [reached]

theorem processed_settled (receipts : List SyncReceipt) :
    Processed c t q (write t.writeAt (outcomes c.rt.toJs receipts (items c t.isoNow (pending c t.readAt q))
      (productUpdates c t.isoNow (pending c t.readAt q))) (marked c t (pending c t.readAt q) q)) := by
  rw [settled_eq]
  refine processed_of_change _ fun r hr => ?_
  rw [status_settle hr]
  split
  · split
    · simp [reached]
    · simp [reached]
    · exact reached_settled _ receipts _
  · rfl

/-- The events of a request that is given up can be sent again; those that are products are left as they
are. -/
theorem processed_failed (error : String) :
    Processed c t q (write t.writeAt (failureUpdates (items c t.isoNow (pending c t.readAt q)) error)
      (marked c t (pending c t.readAt q) q)) := by
  have hrow : ∀ u ∈ failureUpdates (items c t.isoNow (pending c t.readAt q)) error,
      u.targetStatus = .retryableError ∧ ∃ row ∈ pending c t.readAt q, u.eventId = row.eventId :=
    fun u hu => by
      obtain ⟨x, hx, rfl⟩ := List.mem_map.1 hu
      exact ⟨rfl, x.2, (mem_items hx).1, rfl⟩
  rw [marked_eq, write_eq fun u hu => (mem_ids_change _).2 ?_]
  · refine fun r hr => ⟨_, List.mem_map_of_mem (List.mem_map_of_mem hr), ?_, ?_⟩
    · rw [Queue.advanceAll_eventId, (restates_mark _).eventId]
    have hid := (restates_mark (c := c) (t := t) (pending c t.readAt q)).eventId r
    by_cases hex : ∃ u ∈ failureUpdates (items c t.isoNow (pending c t.readAt q)) error,
        u.eventId = (mark c t (pending c t.readAt q) r).eventId
    · rw [Queue.advanceAll_status hex fun u hu _ => (hrow u hu).1]
      obtain ⟨u, hu, huid⟩ := hex
      obtain ⟨-, row, hpend, hrid⟩ := hrow u hu
      have hprep := pending_eventId hr hpend (hrid.symm.trans (huid.trans hid))
      rw [if_pos ((mem_batch c t.readAt hr).2 (hprep ▸ hpend))]
      simp [reached]
    · rw [Queue.advanceAll_other fun u hu huid => hex ⟨u, hu, huid⟩]
      exact reached_mark hr
  · obtain ⟨-, row, hpend, hrid⟩ := hrow u hu
    exact hrid ▸ pending_mem_ids hpend

theorem failed_outbox (error : String) (rows : List Row) (s : State) :
    (failed c t error rows s).outbox = if s.retryCount < c.maxRetries then s.outbox
      else write t.writeAt (failureUpdates (items c t.isoNow rows) error) s.outbox := by
  unfold failed
  dsimp only
  split <;> rfl

theorem processed_turn {s : State} (hk : s.keepGoing = true) (ha : t.aborted = false) :
    Processed c t s.outbox (turn c t s).outbox := by
  have hmarked : Processed c t s.outbox (marked c t (pending c t.readAt s.outbox) s.outbox) := processed_marked
  rw [turn_eq hk ha]
  dsimp only
  split
  · rename_i h
    apply processed_recovered
    simp only [Bool.and_eq_true, List.isEmpty_iff] at h
    exact h.1
  split
  · exact hmarked
  cases t.reply with
  | ok receipts =>
    dsimp only
    rw [accepted_outbox]
    dsimp only
    exact processed_settled receipts
  | error error =>
    have hfailed := processed_failed (c := c) (t := t) (q := s.outbox) error
    dsimp only
    rw [failed_outbox]
    dsimp only
    split
    · exact hmarked
    · exact hfailed

/-! ## By the rules -/

theorem due_of_pending {now : Instant} {row : Row} (h : row ∈ pending c now q) :
    row.status = .pending ∨ row.status = .retryableError := by
  have hdue := (List.mem_filter.1 ((List.mem_insertionSort _).1 (List.mem_of_mem_take h))).2
  simp only [QueuedEvent.due, Bool.or_eq_true, Bool.and_eq_true, decide_eq_true_eq] at hdue
  exact hdue.imp_right And.left

/-- A read takes back what was being sent, and a forced one also what was rejected. -/
theorem prep_course (force : Bool) (row : Row) : ∃ entered,
    Course (syncStatus row.status) entered (syncStatus (prep force row).status) ∧
      entered.count .sending = 0 := by
  obtain ⟨id, eventId, payload, status, retry, next, created, err⟩ := row
  cases force <;> cases status <;>
    first
    | exact ⟨[], .stay _, rfl⟩
    | exact ⟨[.pending], .one (show Advances .sending .pending by decide), rfl⟩
    | exact ⟨[.pending], .one (show Advances .permanentRejection .pending by decide), rfl⟩

/-- From `SENDING` on. -/
theorem reached_course {status : Status} (h : status ∈ reached) : ∃ entered,
    Course .sending entered (syncStatus status) ∧ entered.count .sending = 0 := by
  simp only [reached, List.mem_cons, List.not_mem_nil, or_false] at h
  rcases h with rfl | rfl | rfl | rfl
  · exact ⟨[], .stay _, rfl⟩
  · exact ⟨[.accepted, .synced], .enter (by decide) (.one (by decide)), rfl⟩
  · exact ⟨[.retryableError], .one (by decide), rfl⟩
  · exact ⟨[.permanentRejection], .one (by decide), rfl⟩

theorem takes_iff {s : State} (hk : s.keepGoing = true) (ha : t.aborted = false) {r : Row}
    (hr : r ∈ s.outbox.rows) : Takes c t s r.eventId ↔ entry c.rt r ∈ batch c t.readAt s.outbox := by
  rw [mem_batch c t.readAt hr]
  constructor
  · intro h
    obtain ⟨row, hrow, hid⟩ := List.mem_map.1 h.2.2
    exact pending_eventId hr hrow hid ▸ hrow
  · exact fun h => ⟨hk, ha, List.mem_map.2 ⟨_, h, prep_eventId c.force r⟩⟩

/-- **A turn** moves an event by the rules, and through `SENDING` if it takes the event. -/
theorem turn_course (c : Config) (t : Turn) (s : State) {r : Row} (hr : r ∈ s.outbox.rows) :
    ∃ r' ∈ (turn c t s).outbox.rows, r'.eventId = r.eventId ∧ ∃ entered,
      Course (syncStatus r.status) entered (syncStatus r'.status) ∧
        entered.count .sending = if Takes c t s r.eventId then 1 else 0 := by
  by_cases hactive : s.keepGoing = true ∧ t.aborted = false
  · obtain ⟨hk, ha⟩ := hactive
    obtain ⟨r', hr', hid, hstatus⟩ := processed_turn hk ha r hr
    obtain ⟨before, hbefore, hnone⟩ := prep_course c.force r
    refine ⟨r', hr', hid, ?_⟩
    rw [if_congr (takes_iff hk ha hr) rfl rfl]
    by_cases hin : entry c.rt r ∈ batch c t.readAt s.outbox
    · rw [if_pos hin] at hstatus ⊢
      obtain ⟨after, hafter, hnone'⟩ := reached_course hstatus
      have hsend : Advances (syncStatus (prep c.force r).status) .sending := by
        rcases due_of_pending ((mem_batch c t.readAt hr).1 hin) with h | h <;> rw [h] <;> decide
      refine ⟨before ++ .sending :: after, hbefore.append (.enter hsend hafter), ?_⟩
      rw [List.count_append, List.count_cons_self, hnone, hnone']
    · rw [if_neg hin] at hstatus ⊢
      rw [hstatus]
      exact ⟨before, hbefore, hnone⟩
  · have houtbox : (turn c t s).outbox = s.outbox := by
      unfold turn
      cases hk : s.keepGoing <;> cases ha : t.aborted <;> simp_all
    rw [if_neg fun h => hactive ⟨h.1, h.2.1⟩, houtbox]
    exact ⟨r, hr, rfl, [], .stay _, rfl⟩

/-- **A run** keeps to the rules between any two of its turns, and an event enters `SENDING` as often as it
is taken. -/
theorem statuses_follow (c : Config) (turns : Nat → Turn) (s : State) (m n : Nat) {r : Row}
    (hr : r ∈ (states c turns s m).outbox.rows) :
    ∃ r' ∈ (states c turns s (m + n)).outbox.rows, r'.eventId = r.eventId ∧ ∃ entered,
      Course (syncStatus r.status) entered (syncStatus r'.status) ∧
        entered.count .sending = attempts c turns s r.eventId m n := by
  induction n with
  | zero => exact ⟨r, hr, rfl, [], .stay _, rfl⟩
  | succ n ih =>
    obtain ⟨r1, hr1, hid1, before, hbefore, hcount⟩ := ih
    obtain ⟨r', hr', hid, after, hafter, hlast⟩ := turn_course c (turns (m + n)) _ hr1
    refine ⟨r', hr', hid.trans hid1, before ++ after, hbefore.append hafter, ?_⟩
    rw [List.count_append, hcount, hlast, hid1, attempts_succ]

/-- The event is rejected twice. -/
theorem follows_rejections :
    ∃ r' ∈ (states Sample.forced Sample.rejecting (start (Sample.outbox .pending none)) 2).outbox.rows,
      r'.eventId = "EVT-1" ∧ ∃ entered, Course .pending entered (syncStatus r'.status) ∧
        entered.count .sending =
          attempts Sample.forced Sample.rejecting (start (Sample.outbox .pending none)) "EVT-1" 0 2 :=
  statuses_follow Sample.forced Sample.rejecting (start (Sample.outbox .pending none)) 0 2
    (List.mem_singleton.2 rfl)

/-! ## In flight -/

theorem prep_not_sending (force : Bool) (row : Row) : (prep force row).status ≠ .sending := by
  obtain ⟨id, eventId, payload, status, retry, next, created, err⟩ := row
  cases force <;> cases status <;> exact Status.noConfusion

/-- The events of the request of a turn. -/
def requested (c : Config) (t : Turn) (q : Queue Message) : List String :=
  (items c t.isoNow (pending c t.readAt q)).map (·.2.eventId) ++
    (productUpdates c t.isoNow (pending c t.readAt q)).map (·.2.eventId)

theorem requested_row {eventId : String} (h : eventId ∈ requested c t q) :
    ∃ row ∈ pending c t.readAt q, row.eventId = eventId ∧ kind c.rt row.payload ≠ .unparseable := by
  rcases List.mem_append.1 h with h | h
  · obtain ⟨x, hx, rfl⟩ := List.mem_map.1 h
    obtain ⟨hrow, hk⟩ := mem_items hx
    exact ⟨x.2, hrow, rfl, by simp [hk]⟩
  · obtain ⟨x, hx, rfl⟩ := List.mem_map.1 h
    obtain ⟨hrow, hk⟩ := mem_productUpdates hx
    exact ⟨x.2, hrow, rfl, by simp [hk]⟩

theorem mem_requested {r : Row} (hr : r ∈ q.rows) : r.eventId ∈ requested c t q ↔
    entry c.rt r ∈ batch c t.readAt q ∧ kind c.rt r.payload ≠ .unparseable := by
  have hkind := (restates_prep c.rt c.force).kind r
  rw [mem_batch c t.readAt hr]
  constructor
  · intro h
    obtain ⟨row, hrow, hid, hk⟩ := requested_row h
    obtain rfl := pending_eventId hr hrow hid
    rw [hkind] at hk
    exact ⟨hrow, hk⟩
  · intro ⟨hrow, hk⟩
    have hid := prep_eventId c.force r
    cases hkr : kind c.rt r.payload with
    | unparseable => exact absurd hkr hk
    | product =>
      obtain ⟨p, hp⟩ := exists_productUpdate t.isoNow hrow (hkind.trans hkr)
      exact List.mem_append_right _ (List.mem_map.2 ⟨_, hp, hid⟩)
    | transaction id =>
      obtain ⟨i, hi, -⟩ := exists_item t.isoNow hrow (hkind.trans hkr)
      exact List.mem_append_left _ (List.mem_map.2 ⟨_, hi, hid⟩)

/-- **While a request is on its way**, the events that are being sent are those of the request, whatever was
left in the outbox before. -/
theorem in_flight_iff (c : Config) (t : Turn) (q : Queue Message) (eventId : String) :
    (∃ r ∈ (marked c t (pending c t.readAt q) q).rows, r.eventId = eventId ∧ r.status = .sending) ↔
      eventId ∈ requested c t q := by
  rw [marked_eq, Queue.rows_change]
  constructor
  · intro ⟨r, hr, hid, hsending⟩
    obtain ⟨r0, hr0, rfl⟩ := List.mem_map.1 hr
    rw [(restates_mark _).eventId] at hid
    rw [← hid]
    apply (mem_requested hr0).2
    rw [status_mark c t t.readAt hr0] at hsending
    by_cases hin : entry c.rt r0 ∈ batch c t.readAt q
    · rw [if_pos hin] at hsending
      refine ⟨hin, fun hk => ?_⟩
      rw [if_pos hk] at hsending
      cases hsending
    · rw [if_neg hin] at hsending
      exact absurd hsending (prep_not_sending c.force r0)
  · intro h
    obtain ⟨row, hrow, rfl, -⟩ := requested_row h
    obtain ⟨r0, hr0, rfl, -⟩ := mem_pending hrow
    rw [prep_eventId] at h ⊢
    obtain ⟨hin, hk⟩ := (mem_requested hr0).1 h
    refine ⟨_, List.mem_map_of_mem hr0, (restates_mark _).eventId r0, ?_⟩
    rw [status_mark c t t.readAt hr0, if_pos hin, if_neg hk]

end Sync.PushLoop
