import InvenTory.Desktop.Outbox

/-!
# The outbox, whatever its payloads

A row of `outbox_events` with a payload of any type, and the commands of `Outbox.lean` on a table of
such rows: the two resets and the select of `get_pending_outbox_events`, and
`update_outbox_event_statuses`. `OutboxEvent.queued` makes the events of `Outbox.lean` such rows, and the
functions agree (`queued_recover`, `queued_due`, `queued_transition`, `queued_selectDue`).
-/

namespace Desktop

open Relational

variable {π : Type}

structure QueuedEvent (π : Type) where
  id : String
  eventId : String
  payload : π
  status : Status
  retryCount : Int
  nextAttemptAt : Option Instant
  createdAt : Instant
  lastError : Option String
  deriving DecidableEq, Repr

instance : Keyed (QueuedEvent π) String := ⟨QueuedEvent.eventId⟩

/-- The table `outbox_events`. -/
abbrev Queue (π : Type) := Table (QueuedEvent π)

namespace QueuedEvent

/-- `SET status = 'PENDING' WHERE status = 'SENDING'`; forced, permanent rejections are taken back too,
and there is no backoff any more. -/
def recover (force : Bool) (e : QueuedEvent π) : QueuedEvent π :=
  if force then
    if e.status ∈ [.sending, .permanentRejection] then { e with status := .pending }
    else if e.status = .retryableError then { e with nextAttemptAt := none }
    else e
  else if e.status = .sending then { e with status := .pending }
  else e

def due (now : Instant) (e : QueuedEvent π) : Bool :=
  e.status = .pending || (e.status = .retryableError && e.nextAttemptAt.all (· ≤ now))

def transition (u : StatusUpdate) (now : Instant) (e : QueuedEvent π) : QueuedEvent π :=
  match u.targetStatus with
  | .retryableError =>
    { e with
      status := u.targetStatus
      retryCount := e.retryCount + 1
      nextAttemptAt := some (now + backoff (e.retryCount + 1))
      lastError := u.errorMsg }
  | .accepted | .synced =>
    { e with status := u.targetStatus, lastError := none, nextAttemptAt := none }
  | .permanentRejection | .exceptionReview =>
    { e with status := u.targetStatus, lastError := u.errorMsg }
  | .pending | .sending => { e with status := u.targetStatus }

@[simp] theorem recover_eventId (force : Bool) (e : QueuedEvent π) :
    (e.recover force).eventId = e.eventId := by
  unfold recover
  split_ifs <;> rfl

@[simp] theorem recover_payload (force : Bool) (e : QueuedEvent π) :
    (e.recover force).payload = e.payload := by
  unfold recover
  split_ifs <;> rfl

@[simp] theorem transition_eventId (u : StatusUpdate) (now : Instant) (e : QueuedEvent π) :
    (e.transition u now).eventId = e.eventId := by
  unfold transition
  split <;> rfl

@[simp] theorem transition_payload (u : StatusUpdate) (now : Instant) (e : QueuedEvent π) :
    (e.transition u now).payload = e.payload := by
  unfold transition
  split <;> rfl

@[simp] theorem transition_status (u : StatusUpdate) (now : Instant) (e : QueuedEvent π) :
    (e.transition u now).status = u.targetStatus := by
  unfold transition
  split <;> simp [*]

end QueuedEvent

namespace Queue

/-- Change the events, without their keys. -/
def change (f : QueuedEvent π → QueuedEvent π) (hf : ∀ e, (f e).eventId = e.eventId)
    (q : Queue π) : Queue π := q.modify f hf

@[simp] theorem rows_change (f : QueuedEvent π → QueuedEvent π)
    (hf : ∀ e, (f e).eventId = e.eventId) (q : Queue π) :
    (q.change f hf).rows = q.rows.map f := rfl

/-- The resets that `get_pending_outbox_events` begins with. -/
def reset (force : Bool) (q : Queue π) : Queue π :=
  q.change (QueuedEvent.recover force) (QueuedEvent.recover_eventId force)

/-- `ORDER BY created_at ASC LIMIT ..` of the events that are due. -/
def selectDue (now : Instant) (limit : Nat) (q : Queue π) : List (QueuedEvent π) :=
  ((q.rows.filter (·.due now)).insertionSort fun a b => a.createdAt ≤ b.createdAt).take limit

/-- One update of a batch, of the event with its id. -/
def advance (now : Instant) (u : StatusUpdate) (e : QueuedEvent π) : QueuedEvent π :=
  if e.eventId = u.eventId then e.transition u now else e

theorem advance_eventId (now : Instant) (u : StatusUpdate) (e : QueuedEvent π) :
    (advance now u e).eventId = e.eventId := by
  unfold advance
  split <;> simp

/-- `update_outbox_event_statuses`: all updates, in one transaction. -/
def updateStatuses (now : Instant) (updates : List StatusUpdate) (q : Queue π) :
    Except String (Queue π) :=
  updates.foldlM (fun q u =>
    match q.get? u.eventId with
    | none => .error ("Outbox event '" ++ u.eventId ++ "' not found.")
    | some _ => .ok (q.change (advance now u) (advance_eventId now u))) q

/-- The row that the updates leave. -/
def advanceAll (now : Instant) (updates : List StatusUpdate) (e : QueuedEvent π) : QueuedEvent π :=
  updates.foldl (fun e u => advance now u e) e

@[simp] theorem advanceAll_eventId (now : Instant) (updates : List StatusUpdate)
    (e : QueuedEvent π) : (advanceAll now updates e).eventId = e.eventId := by
  induction updates generalizing e with
  | nil => rfl
  | cons u us ih => exact (ih (advance now u e)).trans (advance_eventId now u e)

@[simp] theorem advanceAll_payload (now : Instant) (updates : List StatusUpdate)
    (e : QueuedEvent π) : (advanceAll now updates e).payload = e.payload := by
  induction updates generalizing e with
  | nil => rfl
  | cons u us ih =>
    refine (ih (advance now u e)).trans ?_
    unfold advance
    split <;> simp

/-- **Updates of events that exist** all take place. -/
theorem updateStatuses_ok {now : Instant} {updates : List StatusUpdate} {q : Queue π}
    (h : ∀ u ∈ updates, u.eventId ∈ q.rows.map (·.eventId)) :
    q.updateStatuses now updates =
      .ok (q.change (advanceAll now updates) (advanceAll_eventId now updates)) := by
  induction updates generalizing q with
  | nil =>
    refine congrArg Except.ok (Table.ext ?_)
    show q.rows = q.rows.map (fun e => e)
    simp
  | cons u us ih =>
    obtain ⟨e, he, hid⟩ := List.mem_map.1 (h u List.mem_cons_self)
    have hget : q.get? u.eventId = some e := by
      rw [← hid]
      exact Table.get?_of_mem he
    have hids : ((q.change (advance now u) (advance_eventId now u)).rows.map (·.eventId)) =
        q.rows.map (·.eventId) := by
      simp [List.map_map, Function.comp_def, advance_eventId]
    unfold updateStatuses at ih ⊢
    rw [List.foldlM_cons, hget]
    refine (ih fun v hv => ?_).trans (congrArg Except.ok (Table.ext ?_))
    · rw [hids]
      exact h v (List.mem_cons_of_mem _ hv)
    · simp only [rows_change, List.map_map]
      rfl

/-- Updates that go through take place one by one. -/
theorem updateStatuses_eq {now : Instant} {updates : List StatusUpdate} {q q' : Queue π}
    (h : q.updateStatuses now updates = .ok q') :
    q' = q.change (advanceAll now updates) (advanceAll_eventId now updates) := by
  induction updates generalizing q with
  | nil =>
    cases h
    refine Table.ext ?_
    show q'.rows = q'.rows.map (fun e => e)
    simp
  | cons u us ih =>
    unfold updateStatuses at h ih
    rw [List.foldlM_cons] at h
    cases hget : q.get? u.eventId with
    | none =>
      rw [hget] at h
      cases h
    | some e =>
      rw [hget] at h
      refine (ih h).trans (Table.ext ?_)
      simp only [rows_change, List.map_map]
      rfl

/-- An event without an update stays as it is. -/
theorem advanceAll_other {now : Instant} {updates : List StatusUpdate} {e : QueuedEvent π}
    (h : ∀ u ∈ updates, u.eventId ≠ e.eventId) : advanceAll now updates e = e := by
  induction updates with
  | nil => rfl
  | cons u us ih =>
    have hu : advance now u e = e := if_neg fun he => h u List.mem_cons_self he.symm
    unfold advanceAll at ih ⊢
    rw [List.foldl_cons, hu]
    exact ih fun v hv => h v (List.mem_cons_of_mem _ hv)

/-- An event with one update gets it. -/
theorem advanceAll_one {now : Instant} {updates : List StatusUpdate} {e : QueuedEvent π}
    {u : StatusUpdate} (hn : (updates.map (·.eventId)).Nodup) (hu : u ∈ updates)
    (he : u.eventId = e.eventId) : advanceAll now updates e = e.transition u now := by
  induction updates generalizing e with
  | nil => cases hu
  | cons v us ih =>
    obtain ⟨hv, hus⟩ := List.nodup_cons.1 hn
    change advanceAll now us (advance now v e) = _
    rcases List.mem_cons.1 hu with rfl | hu
    · have hother : ∀ w ∈ us, w.eventId ≠ (advance now u e).eventId := fun w hw hwe => by
        rw [advance_eventId, ← he] at hwe
        exact hv (List.mem_map.2 ⟨w, hw, hwe⟩)
      rw [advanceAll_other hother]
      exact if_pos he.symm
    · have hne : e.eventId ≠ v.eventId := fun h =>
        hv (List.mem_map.2 ⟨u, hu, he.trans h⟩)
      have hsame : advance now v e = e := if_neg hne
      rw [hsame]
      exact ih hus hu he

/-- The status that all updates of an event give it. -/
theorem advanceAll_status {now : Instant} {updates : List StatusUpdate} {e : QueuedEvent π}
    {status : Status} (hex : ∃ u ∈ updates, u.eventId = e.eventId)
    (hall : ∀ u ∈ updates, u.eventId = e.eventId → u.targetStatus = status) :
    (advanceAll now updates e).status = status := by
  induction updates generalizing e with
  | nil =>
    obtain ⟨u, hu, -⟩ := hex
    cases hu
  | cons u us ih =>
    change (advanceAll now us (advance now u e)).status = status
    have hid := advance_eventId now u e
    by_cases hus : ∃ v ∈ us, v.eventId = e.eventId
    · refine ih (by rw [hid]; exact hus) fun v hv hvid => hall v (List.mem_cons_of_mem _ hv) ?_
      rw [hvid, hid]
    · obtain ⟨v, hv, hvid⟩ := hex
      have hu : u.eventId = e.eventId := by
        rcases List.mem_cons.1 hv with rfl | hv
        · exact hvid
        · exact absurd ⟨v, hv, hvid⟩ hus
      rw [advanceAll_other fun v hv hvid => hus ⟨v, hv, hvid.trans hid⟩]
      unfold advance
      rw [if_pos hu.symm, QueuedEvent.transition_status]
      exact hall u List.mem_cons_self hu

end Queue

/-! ## The events of the stock commands -/

def OutboxEvent.queued (e : OutboxEvent) : QueuedEvent OutboxPayload :=
  ⟨e.id, e.eventId, e.payload, e.status, e.retryCount, e.nextAttemptAt, e.createdAt, e.lastError⟩

theorem queued_due (now : Instant) (e : OutboxEvent) : e.queued.due now = e.due now := rfl

theorem queued_transition (u : StatusUpdate) (now : Instant) (e : OutboxEvent) :
    (e.transition u now).queued = e.queued.transition u now := by
  unfold OutboxEvent.transition QueuedEvent.transition
  split <;> simp_all [OutboxEvent.queued]

theorem queued_recover (e : OutboxEvent) :
    (Db.changeWhere (·.status = .sending) OutboxEvent.recover e).queued = e.queued.recover false := by
  by_cases h : e.status = .sending <;>
    simp [Db.changeWhere, QueuedEvent.recover, OutboxEvent.queued, OutboxEvent.recover, h]

theorem queued_insertionSort (es : List OutboxEvent) :
    (es.map OutboxEvent.queued).insertionSort (fun a b => a.createdAt ≤ b.createdAt) =
      (es.insertionSort fun a b => a.createdAt ≤ b.createdAt).map OutboxEvent.queued :=
  (List.map_insertionSort _ _ OutboxEvent.queued es fun _ _ _ _ => Iff.rfl).symm

/-- **The select reads the same events.** -/
theorem queued_selectDue (now : Instant) (limit : Nat) (db : Db) (q : Queue OutboxPayload)
    (h : q.rows = db.outbox.rows.map OutboxEvent.queued) :
    q.selectDue now limit = (selectDue now limit db).map OutboxEvent.queued := by
  unfold Queue.selectDue selectDue
  rw [h, List.filter_map, queued_insertionSort, ← List.map_take]
  rfl

end Desktop
