import InvenTory.Desktop.Proof.Products
import InvenTory.Lib.Sort
import InvenTory.Sync.Proof.Posted

/-!
# No edit is lost

One desktop edits its products and syncs. The events that a run has read and not posted, and after them
the pending events that no run has read, are the `line` of what the server will get; as long as the last
event of each product in this line has its row (`Current`), the server is up to date when nothing is left
(`NotLost`). Every step of a run keeps this, and a command does if it is `Careful`
(`edits_not_lost`).
-/

namespace Sync.Edits

open Desktop (Clock Instant Queue QueuedEvent Status StatusUpdate)
open Desktop.Catalogue
open Latest Relational Runs
open Server (CentralDb DateTime)

variable {w : Setting} {s : Station} {q : Queue ProductPayload} {st : Stage} {k : Nat}

/-! ## What is on its way -/

namespace Stage

/-- What the run has read and not posted. -/
def unposted : Stage → List Row
  | .fetched rows _ | .marked rows _ | .ready rows _ => rows
  | .idle | .answered _ => []

/-- What the run has read and not marked. -/
def taken : Stage → List Row
  | .fetched rows _ => rows
  | _ => []

/-- What the run has marked. -/
def held : Stage → List Row
  | .marked rows _ | .ready rows _ | .answered rows => rows
  | .idle | .fetched .. => []

/-- The run pushes the events only. -/
def Plain : Stage → Prop
  | .fetched _ catalogue | .marked _ catalogue => catalogue = false
  | .ready _ products => products = []
  | .idle | .answered _ => True

end Stage

/-- The pending events that are not taken, in the order of the select. -/
def waiting (q : Queue ProductPayload) (taken : List Row) : List Row :=
  (q.rows.filter fun e => e.status = .pending ∧ e ∉ taken).insertionSort
    fun a b => a.createdAt ≤ b.createdAt

/-- What the server will get. -/
def line (q : Queue ProductPayload) (st : Stage) : List ProductPayload :=
  (st.unposted ++ waiting q st.taken).map (·.payload)

/-! ## What is claimed -/

/-- No event is deliverable. -/
def Delivered (q : Queue ProductPayload) : Prop :=
  ∀ e ∈ q.rows, e.status ∉ [.pending, .sending, .retryableError]

/-- The server has every product as the desktop has it. -/
def InSync (s : Station) : Prop :=
  ∀ p ∈ s.desk.tables.products.rows, Agrees s.server.central p.payload

def NotLost (s : Station) : Prop := Delivered s.desk.outbox → InSync s

/-- No run is under way, and nothing has to be delivered. -/
structure Settled (s : Station) : Prop where
  idle : ∀ k, s.desk.stage k = .idle
  delivered : Delivered s.desk.outbox
  inSync : InSync s

/-- A command that succeeds, or a step of a run that is not forced and does not fail. -/
def Succeeds (w : Setting) (s : Station) : Event → Prop
  | .command c => ∃ p, ((c.run w).eval s.desk.db).1 = .ok p
  | .fetch _ _ _ force catalogue => force = false ∧ catalogue = false
  | .mark .. | .load _ | .settle .. => True
  | .post k jsNow now => ∀ rows products, s.desk.stage k = .ready rows products →
      (pushAll w jsNow now rows products s.server).isSome
  | .pull _ => False

theorem isOk_iff {ε α : Type} {x : Except ε α} : x.toOption.isSome = true ↔ ∃ a, x = .ok a := by
  cases x <;> simp [Except.toOption]

instance : ∀ s x, Decidable (Succeeds w s x)
  | s, .command c => decidable_of_iff (((c.run w).eval s.desk.db).1.toOption.isSome = true) isOk_iff
  | s, .fetch _ _ _ force catalogue =>
    inferInstanceAs (Decidable (force = false ∧ catalogue = false))
  | _, .mark .. | _, .load _ | _, .settle .. => isTrue trivial
  | s, .post k jsNow now =>
    match hst : s.desk.stage k with
    | .ready rows products =>
      decidable_of_iff ((pushAll w jsNow now rows products s.server).isSome = true)
        ⟨fun h rows' products' h' => by cases hst.symm.trans h'; exact h, fun h => h rows products hst⟩
    | .idle | .fetched .. | .marked .. | .answered .. =>
      isTrue fun _ _ h => by cases hst.symm.trans h
  | _, .pull _ => isFalse fun h => h

namespace Command

def productId : Command → String
  | .create clk .. => Desktop.generateId "PROD" (clk.nanos 0)
  | .update _ input => input.id
  | .toggle _ id _ => id

def now : Command → Instant
  | .create clk .. | .update clk _ | .toggle clk .. => clk.now

/-- The product gets a unit and a category; the code checks the category where it is entered. -/
def Fills (d : Desk) : Command → Prop
  | .create _ _ input => Desktop.trim (input.unit.getD "pcs") ≠ ""
  | .update _ input => Desktop.trim input.unit ≠ ""
  | .toggle _ id _ => ∀ p ∈ d.tables.products.get? id, Filled p.payload

end Command

/-- The event of the product is one of this product, and no run has read it and not marked it; and all
other events of the product that wait are older. -/
structure Orderly (d : Desk) (id : String) (now : Instant) : Prop where
  own : ∀ e ∈ d.outbox.get? (baseEventId id), e.payload.productId = id
  unread : ∀ e ∈ d.outbox.get? (baseEventId id), ∀ k, e ∉ (d.stage k).taken
  older : ∀ e ∈ d.outbox.rows, e.status = .pending → (∀ k, e ∉ (d.stage k).taken) →
    e.payload.productId = id → e.eventId ≠ baseEventId id →
      e.createdAt < now ∨ e.createdAt ≤ now ∧ Sending d.outbox id

/-- A command that fills the product, and finds its events in order; a run that reads while no other is
under way. -/
def Careful (s : Station) : Event → Prop
  | .command c => c.Fills s.desk ∧ Orderly s.desk c.productId c.now
  | .fetch k .. => ∀ j ≠ k, s.desk.stage j = .idle
  | _ => True

/-! ## The invariant -/

/-- The outbox knows what the run does. -/
structure Clean (q : Queue ProductPayload) (st : Stage) : Prop where
  plain : st.Plain
  taken : ∀ e ∈ st.taken, e ∈ q.rows ∧ e.status = .pending
  held : ∀ e ∈ st.held, ∃ e' ∈ q.rows, e'.eventId = e.eventId ∧ e'.status = .sending
  sending : ∀ e ∈ q.rows, e.status = .sending → e.eventId ∈ st.held.map (·.eventId)
  fresh : ∀ e ∈ q.rows, e.status ≠ .retryableError
  unposted : ∀ e ∈ st.unposted, Filled e.payload
  pending : ∀ e ∈ q.rows, e.status = .pending → Filled e.payload

/-- The last payload of each product in the line is that of its row; where there is none, the server has
the row. -/
def Current (t : Table Product) (c : CentralDb) (l : List ProductPayload) : Prop :=
  ∀ p ∈ t.rows, Ends ProductPayload.productId (Agrees c p.payload) p.payload l

/-- Only the run `k` is under way. -/
structure Kept (s : Station) (k : Nat) : Prop where
  alone : ∀ j ≠ k, s.desk.stage j = .idle
  clean : Clean s.desk.outbox (s.desk.stage k)
  current : Current s.desk.tables.products s.server.central (line s.desk.outbox (s.desk.stage k))

variable {rows taken : List Row} {now : Instant} {e : Row}

theorem mem_waiting : e ∈ waiting q taken ↔ e ∈ q.rows ∧ e.status = .pending ∧ e ∉ taken := by
  simp [waiting]

theorem waiting_nil (h : ∀ e ∈ q.rows, e.status ≠ .pending) : waiting q taken = [] :=
  List.eq_nil_iff_forall_not_mem.2 fun e he => h e (mem_waiting.1 he).1 (mem_waiting.1 he).2.1

/-- When nothing is deliverable, nothing is left in the line. -/
theorem line_nil (h : Clean q st) (hd : Delivered q) : line q st = [] := by
  have hrows : st.unposted = [] := by
    refine List.eq_nil_iff_forall_not_mem.2 fun e he => ?_
    cases st with
    | idle | answered rows => cases he
    | fetched rows catalogue =>
      obtain ⟨hmem, hpending⟩ := h.taken e he
      exact hd e hmem (by simp [hpending])
    | marked rows catalogue | ready rows products =>
      obtain ⟨e', hmem, -, hsending⟩ := h.held e he
      exact hd e' hmem (by simp [hsending])
  rw [line, hrows, waiting_nil fun e he hs => hd e he (by simp [hs])]
  rfl

/-- **Nothing is lost** where the invariant holds. -/
theorem Kept.notLost (h : Kept s k) : NotLost s := fun hd p hp => by
  have hends := h.current p hp
  rwa [line_nil h.clean hd, ends_nil] at hends

theorem clean_of_delivered (hd : Delivered q) : Clean q .idle where
  plain := trivial
  taken _ he := absurd he List.not_mem_nil
  held _ he := absurd he List.not_mem_nil
  sending e he hs := absurd (by simp [hs]) (hd e he)
  fresh e he hs := hd e he (by simp [hs])
  unposted _ he := absurd he List.not_mem_nil
  pending e he hs := absurd (by simp [hs]) (hd e he)

theorem Settled.kept (h : Settled s) : Kept s 0 := by
  have hclean : Clean s.desk.outbox (s.desk.stage 0) := (h.idle 0).symm ▸ clean_of_delivered h.delivered
  refine ⟨fun j _ => h.idle j, hclean, fun p hp => ?_⟩
  rw [line_nil hclean h.delivered, ends_nil]
  exact h.inSync p hp

/-! ## Reading -/

/-- What is taken does not wait. -/
theorem waiting_eq_filter : waiting q taken = (waiting q []).filter fun e => e ∉ taken := by
  unfold waiting
  have : IsTrans Row fun a b => a.createdAt ≤ b.createdAt := ⟨fun _ _ _ => le_trans⟩
  have : Std.Total fun a b : Row => a.createdAt ≤ b.createdAt := ⟨fun a b => le_total _ _⟩
  rw [StableSort.filter_insertionSort, List.filter_filter]
  congr 1
  refine List.filter_congr fun e _ => ?_
  simp [Bool.and_comm]

theorem nodup_waiting : (waiting q taken).Nodup :=
  (List.perm_insertionSort _ _).nodup_iff.2 ((List.Nodup.of_map _ q.nodup).filter _)

theorem waiting_take (n : Nat) : waiting q ((waiting q []).take n) = (waiting q []).drop n := by
  have hnodup : (waiting q []).Nodup := nodup_waiting
  have hpass : Window.pass n (fun _ => false) (waiting q []) = _ := Window.pass_eq_filter hnodup
  rw [waiting_eq_filter]
  simpa [Window.pass] using hpass.symm

/-- What is read before anything else is under way. -/
theorem selectDue_eq (now : Instant) (h : Clean q .idle) (limit : Nat) :
    (q.reset false).selectDue now limit = (waiting q []).take limit ∧ q.reset false = q := by
  have hreset : q.reset false = q := by
    apply Table.ext
    show q.rows.map (QueuedEvent.recover false) = q.rows
    have hsame : ∀ e ∈ q.rows, e.recover false = e := fun e he => by
      have hs : e.status ≠ .sending := fun hs => by simpa [Stage.held] using h.sending e he hs
      simp [QueuedEvent.recover, hs]
    rw [List.map_congr_left hsame, List.map_id']
  rw [hreset]
  refine ⟨?_, rfl⟩
  unfold Queue.selectDue waiting
  congr 2
  refine List.filter_congr fun e he => ?_
  simp [QueuedEvent.due, h.fresh e he]

theorem line_fetched (n : Nat) (catalogue : Bool) :
    line q (.fetched ((waiting q []).take n) catalogue) = line q .idle := by
  simp only [line, Stage.unposted, Stage.taken, waiting_take, List.take_append_drop, List.nil_append]

theorem Clean.fetched (h : Clean q .idle) (n : Nat) :
    Clean q (.fetched ((waiting q []).take n) false) where
  plain := rfl
  taken e he := by
    obtain ⟨hmem, hpending, -⟩ := mem_waiting.1 (List.mem_of_mem_take he)
    exact ⟨hmem, hpending⟩
  held _ he := absurd he List.not_mem_nil
  sending := h.sending
  fresh := h.fresh
  unposted e he := by
    obtain ⟨hmem, hpending, -⟩ := mem_waiting.1 (List.mem_of_mem_take he)
    exact h.pending e hmem hpending
  pending := h.pending

/-! ## Marking -/

/-- The updates of all events of a batch to one status. -/
def marks (status : Status) (rows : List Row) : List StatusUpdate :=
  rows.map fun e => ⟨e.eventId, status, none⟩

/-- The outbox after these updates. -/
def moved (now : Instant) (status : Status) (rows : List Row) (q : Queue ProductPayload) :
    Queue ProductPayload :=
  q.change (Queue.advanceAll now (marks status rows)) (Queue.advanceAll_eventId now _)

theorem update_eq {d : Desk} (now : Instant) (status : Status)
    (h : ∀ e ∈ rows, e.eventId ∈ d.outbox.rows.map (·.eventId)) :
    d.update now (marks status rows) = { d with outbox := moved now status rows d.outbox } := by
  unfold Desk.update
  rw [Queue.updateStatuses_ok]
  · rfl
  · intro u hu
    obtain ⟨e, he, rfl⟩ := List.mem_map.1 hu
    exact h e he

theorem advance_other {status : Status} (h : e.eventId ∉ rows.map (·.eventId)) :
    Queue.advanceAll now (marks status rows) e = e := by
  refine Queue.advanceAll_other fun u hu he => ?_
  obtain ⟨x, hx, rfl⟩ := List.mem_map.1 hu
  exact h (List.mem_map.2 ⟨x, hx, he⟩)

theorem advance_status {status : Status} (h : e.eventId ∈ rows.map (·.eventId)) :
    (Queue.advanceAll now (marks status rows) e).status = status := by
  obtain ⟨x, hx, hid⟩ := List.mem_map.1 h
  refine Queue.advanceAll_status ⟨_, List.mem_map.2 ⟨x, hx, rfl⟩, hid⟩ fun u hu _ => ?_
  obtain ⟨y, -, rfl⟩ := List.mem_map.1 hu
  rfl

/-- An event of the outbox after the updates. -/
theorem mem_moved {status : Status} : e ∈ (moved now status rows q).rows ↔
    ∃ x ∈ q.rows, e = Queue.advanceAll now (marks status rows) x := by
  rw [moved, Queue.rows_change, List.mem_map]
  exact ⟨fun ⟨x, hx, he⟩ => ⟨x, hx, he.symm⟩, fun ⟨x, hx, he⟩ => ⟨x, hx, he.symm⟩⟩

/-- An event that has another status than that of the updates is as it was. -/
theorem mem_moved_of_ne {status : Status} (he : e.status ≠ status) :
    e ∈ (moved now status rows q).rows ↔ e ∈ q.rows ∧ e.eventId ∉ rows.map (·.eventId) := by
  rw [mem_moved]
  constructor
  · rintro ⟨x, hx, rfl⟩
    by_cases hid : x.eventId ∈ rows.map (·.eventId)
    · exact absurd (advance_status hid) he
    · rw [advance_other hid]
      exact ⟨hx, hid⟩
  · rintro ⟨hmem, hid⟩
    exact ⟨e, hmem, (advance_other hid).symm⟩

theorem eq_of_eventId {e e' : Row} (he : e ∈ q.rows) (he' : e' ∈ q.rows)
    (hid : e.eventId = e'.eventId) : e = e' := by
  have h := Table.get?_of_mem he
  have h' := Table.get?_of_mem he'
  rw [show key e = key e' from hid, h'] at h
  exact (Option.some.inj h).symm

/-- What waits after the updates: the same, without what was taken. -/
theorem waiting_moved {status : Status} (hs : status ≠ .pending)
    (h : ∀ e ∈ q.rows, e.status = .pending → (e.eventId ∈ rows.map (·.eventId) ↔ e ∈ taken)) :
    waiting (moved now status rows q) [] = waiting q taken := by
  unfold waiting
  congr 1
  rw [moved, Queue.rows_change, List.filter_map]
  have hfilter : q.rows.filter ((fun e : Row => decide (e.status = .pending ∧ e ∉ ([] : List Row))) ∘
      Queue.advanceAll now (marks status rows)) =
      q.rows.filter fun e => decide (e.status = .pending ∧ e ∉ taken) := by
    refine List.filter_congr fun e he => ?_
    by_cases hid : e.eventId ∈ rows.map (·.eventId)
    · have hnot : e.status = .pending → e ∈ taken := fun hp => (h e he hp).1 hid
      simpa [advance_status hid, hs] using hnot
    · have hnot : e.status = .pending → e ∉ taken := fun hp ht => hid ((h e he hp).2 ht)
      rw [Function.comp_apply, advance_other hid]
      by_cases hp : e.status = .pending <;> simp [hp, hnot]
  rw [hfilter, List.map_congr_left (g := fun e => e), List.map_id']
  intro e he
  obtain ⟨hmem, hp⟩ := List.mem_filter.1 he
  obtain ⟨hp, ht⟩ := of_decide_eq_true hp
  exact advance_other fun hid => ht ((h e hmem hp).1 hid)

section
variable {catalogue : Bool} {products : List Product}

theorem Clean.ids (h : Clean q (.fetched rows catalogue)) :
    ∀ e ∈ rows, e.eventId ∈ q.rows.map (·.eventId) :=
  fun e he => List.mem_map.2 ⟨e, (h.taken e he).1, rfl⟩

/-- An event that is read is in the batch if its id is. -/
theorem Clean.mem_batch (h : Clean q (.fetched rows catalogue)) (he : e ∈ q.rows) :
    e.eventId ∈ rows.map (·.eventId) ↔ e ∈ rows := by
  refine ⟨fun hid => ?_, fun he => List.mem_map.2 ⟨e, he, rfl⟩⟩
  obtain ⟨x, hx, hxe⟩ := List.mem_map.1 hid
  exact eq_of_eventId (h.taken x hx).1 he hxe ▸ hx

theorem line_marked (h : Clean q (.fetched rows catalogue)) :
    line (moved now .sending rows q) (.marked rows catalogue) = line q (.fetched rows catalogue) := by
  simp only [line, Stage.unposted, Stage.taken]
  rw [waiting_moved (by simp) fun e he _ => h.mem_batch he]

theorem Clean.marked (h : Clean q (.fetched rows catalogue)) :
    Clean (moved now .sending rows q) (.marked rows catalogue) where
  plain := h.plain
  taken _ he := absurd he List.not_mem_nil
  held e he := by
    have hid : e.eventId ∈ rows.map (·.eventId) := List.mem_map.2 ⟨e, he, rfl⟩
    exact ⟨_, mem_moved.2 ⟨e, (h.taken e he).1, rfl⟩, Queue.advanceAll_eventId .., advance_status hid⟩
  sending e he hs := by
    obtain ⟨x, hx, rfl⟩ := mem_moved.1 he
    by_cases hid : x.eventId ∈ rows.map (·.eventId)
    · rwa [Queue.advanceAll_eventId]
    · rw [advance_other hid] at hs
      exact absurd (h.sending x hx hs) List.not_mem_nil
  fresh e he hs := h.fresh e ((mem_moved_of_ne (by simp [hs])).1 he).1 hs
  unposted := h.unposted
  pending e he hs := h.pending e ((mem_moved_of_ne (by simp [hs])).1 he).1 hs

theorem Clean.loaded (h : Clean q (.marked rows false)) : Clean q (.ready rows []) where
  plain := rfl
  taken := h.taken
  held := h.held
  sending := h.sending
  fresh := h.fresh
  unposted := h.unposted
  pending := h.pending

theorem Clean.answered (h : Clean q (.ready rows products)) : Clean q (.answered rows) where
  plain := trivial
  taken := h.taken
  held := h.held
  sending := h.sending
  fresh := h.fresh
  unposted _ he := absurd he List.not_mem_nil
  pending := h.pending

theorem line_settled (h : Clean q (.answered rows)) :
    line (moved now .synced rows q) .idle = line q (.answered rows) := by
  simp only [line, Stage.unposted, Stage.taken]
  rw [waiting_moved (by simp) fun e he hp => ⟨fun hid => ?_, fun ht => absurd ht List.not_mem_nil⟩]
  obtain ⟨x, hx, hxe⟩ := List.mem_map.1 hid
  obtain ⟨e', he', hid', hs⟩ := h.held x hx
  rw [eq_of_eventId he he' (hxe.symm.trans hid'.symm), hs] at hp
  cases hp

theorem Clean.settled (h : Clean q (.answered rows)) : Clean (moved now .synced rows q) .idle where
  plain := trivial
  taken _ he := absurd he List.not_mem_nil
  held _ he := absurd he List.not_mem_nil
  sending e he hs := by
    obtain ⟨hmem, hid⟩ := (mem_moved_of_ne (by simp [hs])).1 he
    exact absurd (h.sending e hmem hs) hid
  fresh e he hs := h.fresh e ((mem_moved_of_ne (by simp [hs])).1 he).1 hs
  unposted _ he := absurd he List.not_mem_nil
  pending e he hs := h.pending e ((mem_moved_of_ne (by simp [hs])).1 he).1 hs

end

/-! ## Posting -/

/-- **The rows that are posted** are what the server has now. -/
theorem Current.posted {t : Table Product} {r r' : Replica} {jsNow : String} {now : DateTime}
    (hb : ReadsBool w.py) (hclean : Clean q (.ready rows []))
    (h : Current t r.central (line q (.ready rows [])))
    (hpost : pushAll w jsNow now rows [] r = some r') :
    Current t r'.central (line q (.answered rows)) := by
  intro p hp
  have hends := h p hp
  simp only [line, Stage.unposted, Stage.taken, List.map_append, ends_append, List.nil_append] at hends ⊢
  refine hends.mono fun hrows => pushAll_agrees hb hpost (fun hsent => ?_) hrows
  obtain ⟨e, he, hpayload⟩ := List.mem_map.1 hsent
  exact hpayload ▸ hclean.unposted e he

/-! ## Commands -/

/-- The last payload of a product that waits. -/
theorem latest_waiting (id : String) :
    latest ProductPayload.productId id ((waiting q taken).map (·.payload)) =
      (((q.rows.filter fun e => (e.status = .pending ∧ e ∉ taken) ∧ e.payload.productId = id).insertionSort
        fun a b => a.createdAt ≤ b.createdAt).getLast?).map (·.payload) := by
  have : IsTrans Row fun a b => a.createdAt ≤ b.createdAt := ⟨fun _ _ _ => le_trans⟩
  have : Std.Total fun a b : Row => a.createdAt ≤ b.createdAt := ⟨fun a b => le_total _ _⟩
  unfold latest waiting
  rw [List.filter_map, List.getLast?_map, StableSort.filter_insertionSort, List.filter_filter]
  congr 3
  refine List.filter_congr fun e _ => ?_
  simp [Bool.and_comm]

variable {p : Product} {db : ProductsDb}

/-- What is queued overwrites at most an event of the product that waits. -/
theorem overwrites {q' : Queue ProductPayload} (he : Enqueued p now e q q')
    (own : ∀ x ∈ q.get? (baseEventId p.id), x.payload.productId = p.id)
    (unread : ∀ x ∈ q.get? (baseEventId p.id), x ∉ taken) {x : Row} (hx : x ∈ q.rows)
    (hid : x.eventId = e.eventId) :
    x.payload.productId = p.id ∧ x ∉ taken ∧ x.status ≠ .sending := by
  have hget : q.get? e.eventId = some x := hid ▸ Table.get?_of_mem hx
  obtain ⟨-, hnone⟩ | ⟨hsending, hbase⟩ := he.event
  · rw [hnone] at hget
    cases hget
  · rw [hbase] at hget
    exact ⟨own x hget, unread x hget, fun hs => hsending ⟨x, hget, hs⟩⟩

section
variable {q' : Queue ProductPayload} (he : Enqueued p now e q q')
  (own : ∀ x ∈ q.get? (baseEventId p.id), x.payload.productId = p.id)
  (unread : ∀ x ∈ q.get? (baseEventId p.id), x ∉ st.taken)

include he own unread

theorem Clean.enqueued (h : Clean q st) (hf : Filled p.payload) : Clean q' st := by
  have hkeep : ∀ x ∈ q.rows, x ∈ st.taken ∨ x.status = .sending → x ∈ q'.rows := by
    intro x hx hx'
    rw [he.outbox]
    refine Table.mem_put.2 (.inr ⟨hx, fun hid => ?_⟩)
    obtain ⟨-, ht, hs⟩ := overwrites he own unread hx hid
    rcases hx' with hx' | hx'
    · exact ht hx'
    · exact hs hx'
  have hold : ∀ x ∈ q'.rows, x = e ∨ x ∈ q.rows := by
    intro x hx
    rw [he.outbox] at hx
    exact (Table.mem_put.1 hx).imp_right And.left
  constructor
  · exact h.plain
  · exact fun x hx => ⟨hkeep x (h.taken x hx).1 (.inl hx), (h.taken x hx).2⟩
  · intro x hx
    obtain ⟨x', hx', hid, hs⟩ := h.held x hx
    exact ⟨x', hkeep x' hx' (.inr hs), hid, hs⟩
  · intro x hx hs
    rcases hold x hx with rfl | hx
    · rw [he.status] at hs
      cases hs
    · exact h.sending x hx hs
  · intro x hx hs
    rcases hold x hx with rfl | hx
    · rw [he.status] at hs
      cases hs
    · exact h.fresh x hx hs
  · exact h.unposted
  · intro x hx hs
    rcases hold x hx with rfl | hx
    · rwa [he.payload]
    · exact h.pending x hx hs

/-- The events of another product wait as before. -/
theorem waiting_enqueued_other {id : String} (hne : id ≠ p.id) :
    latest ProductPayload.productId id ((waiting q' st.taken).map (·.payload)) =
      latest ProductPayload.productId id ((waiting q st.taken).map (·.payload)) := by
  obtain ⟨l₁, l₂, hrows, hsplit⟩ := Table.rows_put q e
  have hnew : e.payload.productId ≠ id := by
    rw [he.payload]
    exact hne.symm
  rw [latest_waiting, latest_waiting, he.outbox, hrows]
  rcases hsplit with ⟨-, hq, hl⟩ | ⟨x, hx, hq⟩
  · simp [hq, hl, hnew]
  · have hmem : x ∈ q.rows := Table.mem_of_get? hx
    have hxid : x.eventId = e.eventId := Table.key_of_get? hx
    have hother : x.payload.productId ≠ id := by
      rw [(overwrites he own unread hmem hxid).1]
      exact hne.symm
    simp [hq, hnew, hother]

omit own unread in
/-- The product's own event is the last one of it that waits. -/
theorem waiting_enqueued_self (ht : e ∉ st.taken)
    (older : ∀ x ∈ q.rows, x.status = .pending → x ∉ st.taken → x.payload.productId = p.id →
      x.eventId ≠ baseEventId p.id → x.createdAt < now ∨ x.createdAt ≤ now ∧ Sending q p.id) :
    latest ProductPayload.productId p.id ((waiting q' st.taken).map (·.payload)) = some p.payload := by
  obtain ⟨l₁, l₂, hrows, hsplit⟩ := Table.rows_put q e
  have hnodup : (l₁ ++ e :: l₂).Nodup := hrows ▸ List.Nodup.of_map _ (q.put e).nodup
  have hold : ∀ x, x ∈ l₁ ∨ x ∈ l₂ → x ∈ q.rows ∧ x.eventId ≠ e.eventId := by
    intro x hx
    have hmem : x ∈ (q.put e).rows := by
      rw [hrows]
      simpa [or_left_comm] using Or.inr hx
    refine (Table.mem_put.1 hmem).resolve_left ?_
    rintro rfl
    rw [List.nodup_append, List.nodup_cons] at hnodup
    rcases hx with hx | hx
    · exact hnodup.2.2 x hx x List.mem_cons_self rfl
    · exact hnodup.2.1.1 hx
  have horder : ∀ x, x ∈ l₁ ∨ x ∈ l₂ → x.status = .pending → x ∉ st.taken →
      x.payload.productId = p.id → x.createdAt < now ∨ x.createdAt ≤ now ∧ Sending q p.id := by
    intro x hx hpending htaken hid
    obtain ⟨hmem, hkey⟩ := hold x hx
    refine older x hmem hpending htaken hid fun hbase => ?_
    obtain ⟨⟨y, hy, hs⟩, -⟩ | ⟨-, heq⟩ := he.event
    · have hxy : q.get? x.eventId = some x := Table.get?_of_mem hmem
      rw [hbase, hy] at hxy
      cases hxy
      rw [hpending] at hs
      cases hs
    · exact hkey (hbase.trans heq.symm)
  rw [latest_waiting, he.outbox, hrows, List.filter_append, List.filter_cons, if_pos]
  · rw [StableSort.getLast?_insertionSort (f := QueuedEvent.createdAt), Option.map_some, he.payload]
    · intro x hx
      obtain ⟨hx, hpx⟩ := List.mem_filter.1 hx
      obtain ⟨⟨hpending, htaken⟩, hid⟩ := of_decide_eq_true hpx
      rw [he.createdAt]
      exact (horder x (.inl hx) hpending htaken hid).elim le_of_lt And.left
    · intro x hx
      obtain ⟨hx, hpx⟩ := List.mem_filter.1 hx
      obtain ⟨⟨hpending, htaken⟩, hid⟩ := of_decide_eq_true hpx
      rw [he.createdAt]
      refine (horder x (.inr hx) hpending htaken hid).elim (fun h => h) fun h => ?_
      -- a follow-up is at the end of the table
      obtain ⟨-, hnone⟩ | ⟨hnot, -⟩ := he.event
      · rcases hsplit with ⟨-, -, hl⟩ | ⟨y, hy, -⟩
        · rw [hl] at hx
          cases hx
        · rw [show key e = e.eventId from rfl, hnone] at hy
          cases hy
      · exact absurd h.2 hnot
  · have hid : e.payload.productId = p.id := by
      rw [he.payload]
      rfl
    simp [he.status, ht, hid]

end

/-- What a command that succeeds leaves. -/
theorem run_ok {c : Command} {d : Desk} (h : ((c.run w).eval d.db).1 = .ok p) :
    p.id = c.productId ∧ (c.Fills d → Filled p.payload) ∧
      Desktop.Catalogue.Queued p c.now d.db ((c.run w).eval d.db).2 := by
  have hy := Sql.Prog.yields_eval (fun _ => True) (c.run w) d.db
  rw [h] at hy
  cases c with
  | create clk earlier input =>
    obtain ⟨⟨sku, hp⟩, hcategory, hq⟩ := createProduct_ok hy
    refine ⟨by rw [hp]; rfl, fun hunit => ⟨hcategory, ?_⟩, hq⟩
    rw [hp]
    exact hunit
  | update clk input =>
    obtain ⟨old, hold, hp, hcategory, hq⟩ := updateProduct_ok hy
    have hid : old.id = input.id := Table.key_of_get? hold
    refine ⟨?_, fun hunit => ⟨hcategory, ?_⟩, hq⟩
    · rw [hp]
      exact hid
    · rw [hp]
      exact hunit
  | toggle clk id isActive =>
    obtain ⟨old, hold, hp, hq⟩ := toggleProductActive_ok hy
    have hid : old.id = id := Table.key_of_get? hold
    refine ⟨?_, fun hf => ?_, hq⟩
    · rw [hp]
      exact hid
    · rw [hp]
      exact hf old hold

theorem Kept.command (h : Kept s k) {c : Command} (hs : Succeeds w s (.command c))
    (hc : Careful s (.command c)) : Kept (s.step w (.command c)) k := by
  obtain ⟨p, hp⟩ := hs
  obtain ⟨hfills, horderly⟩ := hc
  obtain ⟨hid, hf, hproducts, e, he⟩ := run_ok hp
  have hfilled := hf hfills
  rw [← hid] at horderly
  have hidle : ∀ x, x ∉ (s.desk.stage k).taken → ∀ j, x ∉ (s.desk.stage j).taken := by
    intro x hx j
    by_cases hj : j = k
    · rwa [hj]
    · rw [h.alone j hj]
      exact List.not_mem_nil
  have hunread : ∀ x ∈ s.desk.outbox.get? (baseEventId p.id), x ∉ (s.desk.stage k).taken :=
    fun x hx => horderly.unread x hx k
  have htaken : e ∉ (s.desk.stage k).taken := fun ht =>
    (overwrites he horderly.own hunread (h.clean.taken e ht).1 rfl).2.1 ht
  refine ⟨h.alone, h.clean.enqueued he horderly.own hunread hfilled, fun x hx => ?_⟩
  change x ∈ ((c.run w).eval s.desk.db).2.products.rows at hx
  rw [hproducts] at hx
  simp only [Station.step, Desk.withDb, line, List.map_append, ends_append]
  by_cases hxp : x.id = p.id
  · have hsame : x = p := (Table.mem_put.1 hx).resolve_right fun hne => hne.2 hxp
    have hlast := waiting_enqueued_self he htaken fun y hy hpending hyt =>
      horderly.older y hy hpending (hidle y hyt)
    unfold Ends
    rw [hsame, show p.payload.productId = p.id from rfl, hlast]
    rfl
  · have hold : x ∈ s.desk.tables.products.rows := by
      rcases Table.mem_put.1 hx with rfl | hx
      · exact absurd rfl hxp
      · exact hx.1
    have hother := waiting_enqueued_other he horderly.own hunread hxp
    have hcurrent := h.current x hold
    simp only [line, List.map_append, ends_append] at hcurrent
    unfold Ends at hcurrent ⊢
    rw [show x.payload.productId = x.id from rfl] at hcurrent ⊢
    rwa [hother]

/-! ## Steps and runs -/

@[simp] theorem setStage_self (d : Desk) : (d.setStage k st).stage k = st := Function.update_self ..

theorem setStage_other (d : Desk) {j : Nat} (h : j ≠ k) : (d.setStage k st).stage j = d.stage j :=
  Function.update_of_ne h ..

/-- The run `k` goes on. -/
theorem Kept.move (h : Kept s k) {server : Replica} (hclean : Clean q st)
    (hcurrent : Current s.desk.tables.products server.central (line q st)) :
    Kept ⟨({ s.desk with outbox := q } : Desk).setStage k st, server⟩ k where
  alone j hj := (setStage_other _ hj).trans (h.alone j hj)
  clean := by
    rw [setStage_self]
    exact hclean
  current := by
    rw [setStage_self]
    exact hcurrent

theorem Kept.active (h : Kept s k) {j : Nat} (hj : s.desk.stage j ≠ .idle) : k = j := by
  by_contra hne
  exact hj (h.alone j (Ne.symm hne))

/-- While no run is under way, any can be the one. -/
theorem Kept.any (h : Kept s k) (hidle : ∀ j, s.desk.stage j = .idle) (j : Nat) : Kept s j where
  alone i _ := hidle i
  clean := by
    have hclean := h.clean
    rwa [hidle k, ← hidle j] at hclean
  current := by
    have hcurrent := h.current
    rwa [hidle k, ← hidle j] at hcurrent

theorem Kept.fetch (h : Kept s k) (hidle : s.desk.stage k = .idle) (limit : Nat) :
    Kept ⟨s.desk.fetch k now limit false false, s.server⟩ k := by
  have hclean := h.clean
  have hcurrent := h.current
  rw [hidle] at hclean hcurrent
  obtain ⟨hread, hreset⟩ := selectDue_eq now hclean limit
  unfold Desk.fetch
  dsimp only
  rw [hread, hreset]
  split
  · exact h.move hclean hcurrent
  · apply h.move (hclean.fetched limit)
    rwa [line_fetched]

/-- **A step that is careful and succeeds** keeps the invariant. -/
theorem Kept.step (hb : ReadsBool w.py) (h : Kept s k) {x : Event} (hs : Succeeds w s x)
    (hc : Careful s x) : ∃ j, Kept (s.step w x) j := by
  cases x with
  | command c => exact ⟨k, h.command hs hc⟩
  | fetch j now limit force catalogue =>
    obtain ⟨rfl, rfl⟩ := hs
    cases hst : s.desk.stage j with
    | idle =>
      have hidle : ∀ i, s.desk.stage i = .idle := fun i => by
        by_cases hi : i = j
        · rwa [hi]
        · exact hc i hi
      simp only [Station.step, hst]
      exact ⟨j, (h.any hidle j).fetch hst limit⟩
    | fetched _ _ | marked _ _ | ready _ _ | answered _ =>
      simp only [Station.step, hst]
      exact ⟨k, h⟩
  | mark j now =>
    cases hst : s.desk.stage j with
    | fetched rows catalogue =>
      obtain rfl := h.active (by rw [hst]; simp)
      have hclean := h.clean
      have hcurrent := h.current
      rw [hst] at hclean hcurrent
      simp only [Station.step, hst, Desk.mark]
      have hupdate := update_eq now .sending hclean.ids
      unfold marks at hupdate
      rw [hupdate]
      refine ⟨k, h.move hclean.marked ?_⟩
      rwa [line_marked hclean]
    | idle | marked _ _ | ready _ _ | answered _ =>
      simp only [Station.step, hst]
      exact ⟨k, h⟩
  | load j =>
    cases hst : s.desk.stage j with
    | marked rows catalogue =>
      obtain rfl := h.active (by rw [hst]; simp)
      have hclean := h.clean
      have hcurrent := h.current
      rw [hst] at hclean hcurrent
      obtain rfl : catalogue = false := hclean.plain
      simp only [Station.step, hst, Desk.load]
      exact ⟨k, h.move hclean.loaded hcurrent⟩
    | idle | fetched _ _ | ready _ _ | answered _ =>
      simp only [Station.step, hst]
      exact ⟨k, h⟩
  | post j jsNow now =>
    cases hst : s.desk.stage j with
    | ready rows products =>
      obtain rfl := h.active (by rw [hst]; simp)
      have hclean := h.clean
      have hcurrent := h.current
      rw [hst] at hclean hcurrent
      obtain rfl : products = [] := hclean.plain
      obtain ⟨server, hpost⟩ := Option.isSome_iff_exists.1 (hs rows [] hst)
      simp only [Station.step, hst, Station.post, hpost]
      exact ⟨k, h.move hclean.answered (hcurrent.posted hb hclean hpost)⟩
    | idle | fetched _ _ | marked _ _ | answered _ =>
      simp only [Station.step, hst]
      exact ⟨k, h⟩
  | settle j now =>
    cases hst : s.desk.stage j with
    | answered rows =>
      obtain rfl := h.active (by rw [hst]; simp)
      have hclean := h.clean
      have hcurrent := h.current
      rw [hst] at hclean hcurrent
      simp only [Station.step, hst, Desk.settle]
      have hids : ∀ e ∈ rows, e.eventId ∈ s.desk.outbox.rows.map (·.eventId) := by
        intro e he
        obtain ⟨e', he', hid, -⟩ := hclean.held e he
        exact List.mem_map.2 ⟨e', he', hid⟩
      have hupdate := update_eq now .synced hids
      unfold marks at hupdate
      rw [hupdate]
      refine ⟨k, h.move hclean.settled ?_⟩
      rwa [line_settled hclean]
    | idle | fetched _ _ | marked _ _ | ready _ _ =>
      simp only [Station.step, hst]
      exact ⟨k, h⟩
  | pull response => exact hs.elim

/-- **No edit is lost** in a run that is careful: whenever nothing is deliverable, the server has every
product as the desktop has it. -/
theorem edits_not_lost (hb : ReadsBool w.py) {xs : List Event} (h : Settled s)
    (hs : Along (Station.step w) (Succeeds w) s xs) (hc : Along (Station.step w) Careful s xs) :
    Always (Station.step w) NotLost s xs := by
  have hboth : Along (Station.step w) (fun s x => Succeeds w s x ∧ Careful s x) s xs :=
    along_and.2 ⟨hs, hc⟩
  have hkept : Always (Station.step w) (fun s => ∃ k, Kept s k) s xs :=
    hboth.always ⟨0, h.kept⟩ fun s x ⟨k, hk⟩ hx => hk.step hb hx.1 hx.2
  exact hkept.mono fun s ⟨k, hk⟩ => hk.notLost

namespace Sample

def setting : Setting where
  rs := { Sync.Sample.rust with isAlphanumeric := Char.isAlphanum }
  rt := PushLoop.Sample.runtime
  py := Sync.Sample.pydantic
  text := Sync.Sample.written

/-- A desktop without products, and the server. -/
def fresh : Station := ⟨⟨.empty, .empty, fun _ => .idle⟩, Sync.Sample.replica⟩

def eight : Instant := 1714550400

def bolt : Event := .command (.create (Sync.Sample.clock eight 1) eight
  ⟨"BOLT", "Bolt", none, none, "General", none, none, none, none, none⟩)

/-- The same product, a minute later. -/
def nut : Event := .command (.update (Sync.Sample.clock (eight + 60) 3)
  ⟨"PROD-1", "Nut", none, none, "General", "pcs", none, none, false⟩)

def read : Event := .fetch 0 eight 500 false false

def rest : List Event := [.mark 0 eight, .load 0, .post 0 "" Sync.Sample.atOnce, .settle 0 eight]

theorem fresh_settled : Settled fresh where
  idle _ := rfl
  delivered _ he := absurd he List.not_mem_nil
  inSync _ hp := absurd hp List.not_mem_nil

theorem bolt_careful : Along (Station.step setting) Careful fresh (bolt :: read :: rest) := by
  have hunit : Desktop.trim "pcs" ≠ "" := by decide
  have horderly : ∀ id, Orderly fresh.desk id eight := fun id =>
    ⟨fun _ he => absurd (Table.mem_of_get? he) List.not_mem_nil,
      fun _ he => absurd (Table.mem_of_get? he) List.not_mem_nil,
      fun _ he => absurd he List.not_mem_nil⟩
  exact ⟨⟨hunit, horderly _⟩, fun _ _ => rfl, trivial, trivial, trivial, trivial, trivial⟩

/-- The product is changed between the read and the mark. -/
def overtaken : List Event := bolt :: read :: nut :: rest

end Sample

theorem edits_not_lost_made : Always (Station.step Sample.setting) NotLost Sample.fresh
    (Sample.bolt :: Sample.read :: Sample.rest) :=
  edits_not_lost (fun _ => rfl) Sample.fresh_settled (by decide +kernel) Sample.bolt_careful

/-- An edit after the event is read overwrites it, and is marked as synced with it. -/
theorem overtaken_edit_lost : Settled Sample.fresh ∧
    Along (Station.step Sample.setting) (Succeeds Sample.setting) Sample.fresh Sample.overtaken ∧
    ¬ Always (Station.step Sample.setting) NotLost Sample.fresh Sample.overtaken := by
  refine ⟨Sample.fresh_settled, by decide +kernel, fun h => ?_⟩
  let final := Sample.overtaken.foldl (Station.step Sample.setting) Sample.fresh
  have hdelivered : Delivered final.desk.outbox := by
    have hstatus : ∀ e ∈ final.desk.outbox.rows, e.status = .synced := by decide +kernel
    intro e he
    simp [hstatus e he]
  have hlocal : ∃ p ∈ final.desk.tables.products.rows, p.name = "Nut" := by decide +kernel
  have hserver : ∀ row ∈ final.server.central.db.products.rows, row.name = "Bolt" := by decide +kernel
  obtain ⟨p, hp, hname⟩ := hlocal
  obtain ⟨row, hrow, hsame, -⟩ := (h.last hdelivered p hp).row
  rw [hserver row (Table.mem_of_get? hrow)] at hsame
  rw [show p.payload.name = p.name from rfl, hname] at hsame
  exact absurd hsame (by decide)

end Sync.Edits
