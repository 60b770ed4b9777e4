import InvenTory.Sync.PushLoop

/-!
# Rejected events

What happens to the outbox of a desktop: the turns of its sync runs (`PushLoop.turn`), one run after
another, and between them the commands that write to the outbox.
-/

namespace Sync.PushLoop

open Relational
open Desktop (Instant Queue QueuedEvent Status)
open Wire

/-- A command of the desktop, as the outbox sees it, a new run, or a turn of it. -/
inductive Event
  | begin
  | turn (c : Config) (t : Turn)
  /-- A transaction is recorded, or deleted after it was synced. -/
  | insert (row : Row)
  /-- A product is created or changed. -/
  | upsert (row : Row)
  /-- `update_transaction` -/
  | edit (eventId : String) (payload : Message)
  /-- `delete_transaction` of one that is not synced. -/
  | withdraw (eventId : String)
  | archive (cutoff : Instant)
  | clear

/-- `SET payload = ?, status = 'PENDING', retry_count = 0, last_error = NULL` -/
def editedRow (eventId : String) (payload : Message) (row : Row) : Row :=
  if row.eventId = eventId then
    { row with payload := payload, status := .pending, retryCount := 0, lastError := none }
  else row

/-- `SET status = 'PERMANENT_REJECTION', last_error = ..` -/
def withdrawnRow (eventId : String) (row : Row) : Row :=
  if row.eventId = eventId then
    { row with
      status := .permanentRejection
      lastError := some "Transaction deleted locally before sync" }
  else row

theorem editedRow_eventId (eventId : String) (payload : Message) (row : Row) :
    (editedRow eventId payload row).eventId = row.eventId := by
  unfold editedRow
  split <;> rfl

theorem withdrawnRow_eventId (eventId : String) (row : Row) :
    (withdrawnRow eventId row).eventId = row.eventId := by
  unfold withdrawnRow
  split <;> rfl

/-- A statement that fails changes nothing. -/
def insertRow (row : Row) (q : Queue Message) : Queue Message :=
  if q.rows.any (·.id = row.id) || (q.get? row.eventId).isSome then q else q.put row

/-- `ON CONFLICT(event_id) DO UPDATE SET` of all columns but the ids. -/
def upsertRow (row : Row) (q : Queue Message) : Queue Message :=
  if q.rows.any (·.id = row.id) then q
  else q.put { row with id := ((q.get? row.eventId).map QueuedEvent.id).getD row.id }

def step (s : State) : Event → State
  | .begin => start s.outbox
  | .turn c t => turn c t s
  | .insert row => { s with outbox := insertRow row s.outbox }
  | .upsert row => { s with outbox := upsertRow row s.outbox }
  | .edit id payload =>
    { s with outbox := s.outbox.change (editedRow id payload) (editedRow_eventId id payload) }
  | .withdraw id => { s with outbox := s.outbox.change (withdrawnRow id) (withdrawnRow_eventId id) }
  | .archive cutoff =>
    { s with outbox := s.outbox.filter fun row => !(row.createdAt < cutoff && row.status.terminal) }
  | .clear => { s with outbox := ∅ }

/-- A turn sends the event. -/
def Sends (c : Config) (t : Turn) (s : State) (eventId : String) : Prop :=
  s.keepGoing = true ∧ t.aborted = false ∧
    ∃ x ∈ items c t.isoNow (pending c t.readAt s.outbox), x.2.eventId = eventId

/-- Nothing that edits the event, or uses its id. -/
def Event.Avoids (eventId : String) : Event → Prop
  | .insert row => row.eventId ≠ eventId
  | .upsert row => row.eventId ≠ eventId
  | .edit id _ => id ≠ eventId
  | _ => True

/-- A forced sync takes rejections back. -/
def Event.Leaves (eventId : String) (e : Event) : Prop :=
  e.Avoids eventId ∧ ∀ c t, e = .turn c t → c.force = false

/-- A push has been answered with a rejection of the event of `x`. -/
structure Rejected (c : Config) (t : Turn) (s : State) (x : Wire.PushItem × Row) (reason : String) :
    Prop where
  keepGoing : s.keepGoing = true
  aborted : t.aborted = false
  sent : x ∈ items c t.isoNow (pending c t.readAt s.outbox)
  reply : ∃ receipts r, t.reply = .ok receipts ∧ receiptOf receipts x.1.transactionId = some r ∧
    r.accepted = false ∧ r.rejectionReason = some reason

/-- Whatever comes, the event is not sent again. -/
def NeverAgain (s : State) (eventId : String) : Prop :=
  ∀ es : List Event, (∀ e ∈ es, e.Leaves eventId) → ∀ c t, c.force = false →
    ¬ Sends c t (es.foldl step s) eventId

/-- A reason that may be gone the next time. -/
def Transient (reason : String) : Prop :=
  (∃ current delta, reason = Server.insufficientStock current delta) ∨
    ∃ exc, reason = Server.unexpectedError exc

/-- The event is not deleted, and its transaction is rejected for transient reasons only. -/
def Event.Passes (rt : Runtime) (eventId transactionId : String) (e : Event) : Prop :=
  e.Avoids eventId ∧ e ≠ .withdraw eventId ∧ ∀ c t, e = .turn c t → c.rt = rt ∧
    ∀ receipts r, t.reply = .ok receipts → receiptOf receipts transactionId = some r →
      r.accepted = false → ∃ reason, r.rejectionReason = some reason ∧ Transient reason

/-- The event is among the permanent rejections. -/
def GivenUp (s : State) (eventId : String) : Prop :=
  ∃ row ∈ s.outbox.rows, row.eventId = eventId ∧ row.status = .permanentRejection

/-! ## Sample values -/

namespace Sample

def unforced : Config := ⟨runtime, 500, false, 3, []⟩

def message (quantityDelta : String) : Message :=
  ⟨"INVENTORY_TRANSACTION", some (.obj [("transaction_id", .str "TX-1"), ("store_id", .str "STORE"),
    ("product_id", .str "PROD"), ("movement_type", .str "SALE"), ("device_id", .str "DEVICE"),
    ("quantity_delta", .num quantityDelta), ("user_id", .str "1"),
    ("occurred_at", .str "1970-01-01T00:00:00Z")])⟩

def row (quantityDelta : String) : Row :=
  ⟨"OUT-1", "EVT-1", message quantityDelta, .pending, 0, none, 0, none⟩

/-- A sale that waits for its first push. -/
def sold (quantityDelta : String) : State := start ⟨[row quantityDelta], by simp⟩

def answered (reason : String) : Turn :=
  ⟨false, 0, 0, "", .ok [⟨"TX-1", false, some reason, ⟨0, some 0⟩, ⟨0, some 0⟩⟩]⟩

/-- The sale as the server validates it. -/
def payload (quantityDelta : Int) : Server.TransactionPayload :=
  ⟨"TX-1", "STORE", "PROD", "SALE", quantityDelta, ⟨0, some 0⟩, 1, "DEVICE", "AVAILABLE", none, none,
    none, none, none, none, none⟩

end Sample

end Sync.PushLoop
