import InvenTory.Lib.Spans
import InvenTory.Server.Proof.Filing

/-!
# The days of the books

Requests at work, statement by statement and in any order. Nothing in the code or in the schema keeps
the books of a store apart: a book is looked for and then inserted, at the midnight of the event's own
offset. They stay apart as long as no book is inserted that meets another one of its store, whether the
session sees it or a session that is still open has inserted it (`requests_placed`).
-/

namespace Server

open Relational Sql Sql.Prog

variable {ι : Type}

/-- In how many books of the store the time is. -/
def Db.load (db : Db) (storeId : String) (t : Int) : Nat :=
  Spans.load DayBook.storeId (·.bookDate.instant) DateTime.day db.dayBooks storeId t

/-- The days of two books of one store do not meet. -/
abbrev DayBook.Apart (a b : DayBook) : Prop :=
  Spans.Apart DayBook.storeId (·.bookDate.instant) DateTime.day a b

/-- Entries are in books that contain them, and the books of a store do not meet. -/
structure WellPlaced (db : Db) : Prop where
  book : ∀ e ∈ db.entries, ∃ b ∈ db.dayBooks, b.id = e.dayBookId
  holds : ∀ e ∈ db.entries, ∀ b ∈ db.dayBooks, b.id = e.dayBookId →
    b.bookDate.DayHolds e.occurredAt
  apart : db.dayBooks.Pairwise DayBook.Apart

theorem WellPlaced.filed {keys : String → String × DateTime} {db : Db} (h : WellPlaced db)
    (hkeys : ∀ b ∈ db.dayBooks, keys b.id = (b.storeId, b.bookDate)) : Filed keys db := by
  refine ⟨hkeys, h.book, fun e he => ?_⟩
  obtain ⟨b, hb, hid⟩ := h.book e he
  rw [← hid, hkeys b hb]
  exact h.holds e he b hb hid

theorem Filed.placed {keys : String → String × DateTime} {db : Db} (h : Filed keys db)
    (hload : ∀ s t, db.load s t ≤ 1) : WellPlaced db := by
  refine ⟨h.book, fun e he b hb hid => ?_, (Spans.pairwise_apart_iff (by decide)).2 hload⟩
  have hholds := h.holds e he
  rwa [← hid, h.drawn b hb] at hholds

theorem WellPlaced.load {db : Db} (h : WellPlaced db) : ∀ s t, db.load s t ≤ 1 :=
  (Spans.pairwise_apart_iff (by decide)).1 h.apart

/-! ## The condition -/

/-- A book is inserted when the session sees no other of its store that meets it, and an entry when
it fits. -/
def placeable : Statement Exn Db → Db → Prop
  | .read _, _ => True
  | .write f, db =>
    (∀ b, (f = fun db => db.insertDayBook b) → ∀ x ∈ db.dayBooks, x.Apart b) ∧
      ∀ e, (f = fun db => db.insertDayBookEntry e) → Fitting db e

/-- The locks of the rows, and of the times at which a book of a store is inserted. -/
def Db.dayLocks (db db' : Db) : Lock ⊕ String × Int → Prop
  | .inl l => db.locks db' l
  | .inr (storeId, t) => db.load storeId t < db'.load storeId t

/-- Such runs are runs of the requests. -/
theorem reaches_of_dayLocks [DecidableEq ι] {F : Exn → Prop} {y y' : Requests ι}
    (h : Pool.Reaches ⟨F, placeable⟩ Db.dayLocks y y') :
    Pool.Reaches ⟨F, fun _ _ => True⟩ Db.locks y y' := by
  induction h with
  | refl => exact .refl
  | tail _ hs ih =>
    refine ih.tail ?_
    cases hs with
    | move hm => exact .move (hm.weaken (fun _ he => he) (fun _ _ _ => trivial) fun v v' hfree j hj x hx l hl hl' =>
        hfree j hj x hx (.inl l) hl hl')

/-! ## Statements -/

/-- `f` takes away the books of the stores in `r` and adds `q` to the loads. -/
def Loads (r : String → Bool) (q : String → Int → Nat) (f : Db → Except Exn Db) : Prop :=
  ∀ db db', f db = .ok db' → ∀ s t, db'.load s t = (if r s then 0 else db.load s t) + q s t

/-- `f` leaves the loads alone. -/
def KeepsLoads (f : Db → Except Exn Db) : Prop :=
  ∀ db db', f db = .ok db' → ∀ s t, db'.load s t = db.load s t

theorem load_congr {db db' : Db} (h : db'.dayBooks = db.dayBooks) (s : String) (t : Int) :
    db'.load s t = db.load s t := by
  unfold Db.load
  rw [h]

/-- **A statement** inserts a book, deletes a store, or leaves the loads alone. -/
theorem AnyStatement.loads {f : Db → Except Exn Db} (h : AnyStatement f) :
    (∃ b, f = fun db => db.insertDayBook b) ∨ (∃ id, f = fun db => db.deleteStore id) ∨
      KeepsLoads f := by
  obtain ⟨env, h⟩ : ∃ env, ItemStatement env f := by
    rcases h with h | h
    · exact ⟨Sample.env, h.any _⟩
    · exact h
  cases h with
  | insertDayBook b => exact .inl ⟨b, rfl⟩
  | deleteStore id => exact .inr (.inl ⟨id, rfl⟩)
  | insertStore r =>
    refine .inr (.inr fun db db' hf => load_congr ?_)
    rw [(insertStore_ok hf).2.2]
  | insertProduct r =>
    refine .inr (.inr fun db db' hf => load_congr ?_)
    rw [(insertProduct_ok hf).2.2]
  | insertDevice r =>
    refine .inr (.inr fun db db' hf => load_congr ?_)
    rw [(insertDevice_ok hf).2.2]
  | insertLedger r =>
    refine .inr (.inr fun db db' hf => load_congr ?_)
    rw [(insertLedger_ok hf).2]
  | updateLedger r =>
    refine .inr (.inr fun db db' hf => ?_)
    cases hf
    exact load_congr rfl
  | insertReceipt r =>
    refine .inr (.inr fun db db' hf => load_congr ?_)
    rw [(insertReceipt_ok hf).2]
  | updateReceipt r =>
    refine .inr (.inr fun db db' hf => ?_)
    cases hf
    exact load_congr rfl
  | deleteReceipt id =>
    refine .inr (.inr fun db db' hf => ?_)
    cases hf
    exact load_congr rfl
  | upsertStockBalance k delta =>
    exact .inr (.inr fun db db' hf => load_congr (upsertStockBalance_books hf).dayBooks)
  | insertDayBookEntry e =>
    refine .inr (.inr fun db db' hf => load_congr ?_)
    rw [(insertDayBookEntry_ok hf).2.2.2]
  | setOpeningBalance id total =>
    refine .inr (.inr fun db db' hf => ?_)
    cases hf
    refine Spans.load_map (fun b => ?_) (fun b => ?_) _
    · split
      · rfl
      · rfl
    · split
      · rfl
      · rfl

/-- The load of one book. -/
def DayBook.load (b : DayBook) (s : String) (t : Int) : Nat :=
  if Spans.Covers DayBook.storeId (·.bookDate.instant) DateTime.day s t b then 1 else 0

theorem load_insertDayBook {db db' : Db} {b : DayBook} (h : db.insertDayBook b = .ok db')
    (s : String) (t : Int) : db'.load s t = db.load s t + b.load s t := by
  obtain ⟨-, rfl⟩ := insertDayBook_ok h
  refine (Spans.load_append _ [b] s t).trans (congrArg _ ?_)
  rw [Spans.load_cons]
  exact Nat.zero_add _

theorem load_deleteStore {db db' : Db} {id : String} (h : db.deleteStore id = .ok db')
    (s : String) (t : Int) : db'.load s t = if s = id then 0 else db.load s t := by
  obtain ⟨-, -, -, -, rfl⟩ := deleteStore_ok h
  exact Spans.load_filter_ne _ s id t

/-! ## Sessions -/

/-- What the open session of a thread has done to the books: it has locked the times that it has put
in a book, and no time would be in two books of a store if it committed now. -/
def Booking (db : Db) (t : Thread Exn Db (List SyncReceipt)) : Prop :=
  ∃ r q, Loads r q (replay t.log) ∧
    (∀ s u, q s u ≠ 0 → ∃ x ∈ t.changes, Db.dayLocks x.1 x.2 (.inr (s, u))) ∧
      ∀ s u, (if r s then 0 else db.load s u) + q s u ≤ 1

variable {db : Db}

theorem booking_nil {t : Thread Exn Db (List SyncReceipt)} (hl : t.log = [])
    (h : ∀ s u, db.load s u ≤ 1) : Booking db t := by
  refine ⟨fun _ => false, fun _ _ => 0, ?_, fun _ _ hk => absurd rfl hk, fun s u => h s u⟩
  intro db db' hr s u
  rw [hl] at hr
  cases hr
  rfl

/-- A statement that is placeable. -/
theorem Booking.wrote {t t' : Thread Exn Db (List SyncReceipt)} (h : Booking db t)
    {f : Db → Except Exn Db} {v v' : Db} (hf : AnyStatement f) (hv : replay t.log db = .ok v)
    (hw : f v = .ok v') (hg : placeable (.write f) v) (hl : t'.log = t.log ++ [f])
    (hc : t'.changes = t.changes ++ [(v, v')]) : Booking db t' := by
  obtain ⟨r, q, hq, hlock, hle⟩ := h
  have hlock' : ∀ s u, q s u ≠ 0 → ∃ x ∈ t'.changes, Db.dayLocks x.1 x.2 (.inr (s, u)) := by
    intro s u hne
    obtain ⟨x, hx, hxl⟩ := hlock s u hne
    rw [hc]
    exact ⟨x, List.mem_append_left _ hx, hxl⟩
  rcases hf.loads with ⟨b, rfl⟩ | ⟨id, rfl⟩ | hsame
  · refine ⟨r, fun s u => q s u + b.load s u, ?_, fun s u hne => ?_, fun s u => ?_⟩
    · intro db db' hr s u
      rw [hl] at hr
      obtain ⟨w, hw, hfw⟩ := replay_concat_ok hr
      rw [load_insertDayBook hfw, hq db w hw]
      exact Nat.add_assoc ..
    · dsimp only at hne
      by_cases hzero : q s u = 0
      · refine ⟨(v, v'), hc ▸ List.mem_append_right _ List.mem_cons_self, ?_⟩
        show v.load s u < v'.load s u
        rw [load_insertDayBook hw]
        omega
      · exact hlock' s u hzero
    · -- the session sees no book where it inserts one
      show (if r s then 0 else db.load s u) + (q s u + b.load s u) ≤ 1
      have hseen := hq db v hv s u
      have hone : b.load s u ≤ 1 := by
        unfold DayBook.load
        split <;> omega
      by_cases hcov : Spans.Covers DayBook.storeId (·.bookDate.instant) DateTime.day s u b
      · have hnone : v.load s u = 0 := by
          refine Spans.load_eq_zero fun x hx hcov' => ?_
          obtain ⟨hs, h1, h2⟩ := hcov
          obtain ⟨hs', h3, h4⟩ := hcov'
          rcases hg.1 b rfl x hx (hs'.trans hs.symm) with hap | hap <;> omega
        omega
      · have hzero : b.load s u = 0 := if_neg hcov
        have hu := hle s u
        omega
  · refine ⟨fun s => r s || s = id, fun s u => if s = id then 0 else q s u, ?_, fun s u hne => ?_,
      fun s u => ?_⟩
    · intro db db' hr s u
      rw [hl] at hr
      obtain ⟨w, hw, hfw⟩ := replay_concat_ok hr
      rw [load_deleteStore hfw, hq db w hw]
      by_cases hs : s = id
      · simp [hs]
      · simp [hs]
    · dsimp only at hne
      by_cases hs : s = id
      · exact absurd (if_pos hs) hne
      · rw [if_neg hs] at hne
        exact hlock' s u hne
    · by_cases hs : s = id
      · simp [hs]
      · simpa [hs] using hle s u
  · refine ⟨r, q, ?_, hlock', hle⟩
    intro db db' hr s u
    rw [hl] at hr
    obtain ⟨w, hw, hfw⟩ := replay_concat_ok hr
    rw [hsame w db' hfw, hq db w hw]

/-- No time is in two books of a store, and none will be when the open sessions commit. -/
structure Spaced (y : Requests ι) : Prop where
  only : ∀ i, (y.threads i).Only AnyStatement True
  exclusive : y.Exclusive Db.dayLocks
  load : ∀ s t, y.store.load s t ≤ 1
  booking : ∀ i, Booking y.store (y.threads i)

variable [DecidableEq ι]

theorem Spaced.step {F : Exn → Prop} {y y' : Requests ι} (h : Spaced y)
    (hs : Pool.Step ⟨F, placeable⟩ Db.dayLocks y y') : Spaced y' := by
  cases hs with
  | @move i db' t' hm =>
    obtain ⟨honly, heff⟩ := (h.only i).move hm
    have hthreads : ∀ {P : Thread Exn Db (List SyncReceipt) → Prop}, P t' →
        (∀ j, j ≠ i → P (y.threads j)) → ∀ j, P (Function.update y.threads i t' j) := by
      intro P hi hj j
      by_cases hji : j = i
      · subst hji
        rwa [Function.update_self]
      · rw [Function.update_of_ne hji]
        exact hj j hji
    have honly' := hthreads honly fun j _ => h.only j
    have hexcl := h.exclusive.effect heff
    cases heff with
    | quiet hl hc =>
      refine ⟨honly', hexcl, h.load, hthreads ?_ fun j _ => h.booking j⟩
      have hb := h.booking i
      unfold Booking at hb ⊢
      rwa [hl, hc]
    | cleared hl hc =>
      exact ⟨honly', hexcl, h.load, hthreads (booking_nil hl h.load) fun j _ => h.booking j⟩
    | wrote hf hv hw _ hg hl hc =>
      exact ⟨honly', hexcl, h.load,
        hthreads ((h.booking i).wrote hf hv hw hg hl hc) fun j _ => h.booking j⟩
    | committed hv hl hc =>
      obtain ⟨r, q, hq, hlock, hle⟩ := h.booking i
      have hstore := hq y.store db' hv
      have hload : ∀ s t, db'.load s t ≤ 1 := fun s t => by
        rw [hstore]
        exact hle s t
      refine ⟨honly', hexcl, hload, hthreads (booking_nil hl hload) fun j hj => ?_⟩
      obtain ⟨r', q', hq', hlock', hle'⟩ := h.booking j
      refine ⟨r', q', hq', hlock', fun s t => ?_⟩
      show (if r' s then 0 else db'.load s t) + q' s t ≤ 1
      have hs := hstore s t
      have h1 := hload s t
      have h2 := hle' s t
      by_cases hzero : q' s t = 0
      · split <;> omega
      · -- the other session has locked this time, so the one that commits has added nothing to it
        have hkeep : q s t = 0 := by
          by_contra hne
          obtain ⟨x, hx, hxl⟩ := hlock s t hne
          obtain ⟨x', hx', hxl'⟩ := hlock' s t hzero
          exact h.exclusive i j (Ne.symm hj) x hx x' hx' _ hxl hxl'
        split at h2 <;> split at hs <;> split <;> omega

omit [DecidableEq ι] in
theorem requests_spaced {py : ι → Python} {subs : ι → List Submission}
    (h : ∀ s t, db.load s t ≤ 1) : Spaced (requests py subs db) where
  only i := (ingestBatch.code (py i) (subs i)).only
  exclusive := fun _ _ _ x hx => by cases hx
  load := h
  booking _ := booking_nil rfl h

/-- **The day books of requests at work**: in every state of a run of placeable statements each entry
is in a book that contains it, and the books of a store do not meet. -/
theorem requests_placed {keys : String → String × DateTime} {py : ι → Python}
    {subs : ι → List Submission} (h : WellPlaced db) (hkeys : Drawn keys subs db) {y : Requests ι}
    (hr : Pool.Reaches ⟨anyFault, placeable⟩ Db.dayLocks (requests py subs db) y) :
    WellPlaced y.store := by
  have hspaced : Spaced y := hr.invariant (fun _ _ hy hs => hy.step hs) (requests_spaced h.load)
  have hρ : ∀ e v, placeable (.write fun db => db.insertDayBookEntry e) v → Fitting v e :=
    fun e v hg => hg.2 e rfl
  have hfiled := requests_files hρ hkeys (h.filed hkeys.books) hr
  exact hfiled.placed hspaced.load

/-! ## Runs -/

namespace Sample

/-- The books are apart, and contain the entries of the days on which they begin. -/
def tidy (db : Db) : Bool :=
  decide (db.dayBooks.Pairwise DayBook.Apart) && db.entries.all fun e => db.dayBooks.all fun b =>
    decide (e.occurredAt.OnDayOf b.bookDate → b.bookDate.DayHolds e.occurredAt)

theorem placeable_checks (F : Exn → Prop) :
    (⟨F, placeable⟩ : Rules Exn Db).Checks fun _ db => tidy db where
  read _ _ _ := trivial
  write f v v' hf hc := by
    simp only [tidy, Bool.and_eq_true, decide_eq_true_eq, List.all_eq_true] at hc
    constructor
    · intro b he x hx
      subst he
      rw [(insertDayBook_ok hf).2] at hc
      exact (List.pairwise_append.1 hc.1).2.2 x hx b (List.mem_singleton.2 rfl)
    · intro e he r _ b hb _ hon
      subst he
      rw [(insertDayBookEntry_ok hf).2.2.2] at hc
      exact hc.2 e (List.mem_append_right _ (List.mem_singleton.2 rfl)) b hb hon

/-- A receipt with a wall clock and an offset, whose book would get the key `dayBookId`. -/
def receiptAt (transactionId dayBookId : String) (occurredAt : DateTime) : Submission :=
  let s := movement transactionId "RECEIPT" 10 0
  ⟨{ s.payload with occurredAt }, { env with dayBookId }⟩

def hour : Int := 3600000000

/-- At 20:00 in UTC, and at 01:00 of the next day in UTC+05:00, which is the same moment. -/
def evening : Submission := receiptAt "T-1" "DB-1" ⟨20 * hour, some 0⟩

def nextMorning : Submission := receiptAt "T-2" "DB-2" ⟨25 * hour, some (5 * hour)⟩

/-- At 21:00 in UTC. -/
def later : Submission := receiptAt "T-2" "DB-2" ⟨21 * hour, some 0⟩

end Sample

/-- Two receipts of one evening, one after the other: one book. -/
theorem requests_placed_evening : ∃ y, (requests (fun _ => Sample.python)
      (Sample.two Sample.evening Sample.later) .empty).turns (fun _ db => Sample.tidy db)
        [(false, 60), (true, 60)] = some y ∧
    (y.store.dayBooks.length, y.store.entries.length) = (1, 2) ∧ WellPlaced y.store := by
  have hrun : ((requests (fun _ => Sample.python) (Sample.two Sample.evening Sample.later)
      .empty).turns (fun _ db => Sample.tidy db) [(false, 60), (true, 60)]).any
        (fun y => (y.store.dayBooks.length, y.store.entries.length) = (1, 2)) = true := by
    decide +kernel
  obtain ⟨y, hy, hlen⟩ := (Option.any_eq_true _ _).1 hrun
  have hempty : WellPlaced Db.empty :=
    ⟨List.forall_mem_nil _, List.forall_mem_nil _, List.Pairwise.nil⟩
  have hdrawn : Drawn (fun _ => ("STORE-A", ⟨0, some 0⟩))
      (Sample.two Sample.evening Sample.later) Db.empty := by
    refine ⟨List.forall_mem_nil _, fun i s hs => ?_⟩
    cases i <;> cases List.mem_singleton.1 hs <;> decide
  exact ⟨y, hy, of_decide_eq_true hlen, requests_placed hempty hdrawn
    (Pool.turns_reaches (Sample.placeable_checks anyFault) Db.dayLocks _ hy)⟩

/-- Two receipts of the same moment, one after the other, with different offsets: two books that
meet. -/
theorem offsets_meet : ¬ ∀ (subs : Bool → List Submission) (keys : String → String × DateTime),
    Drawn keys subs .empty → ∀ y, Pool.Reaches Rules.free Db.locks
      (requests (fun _ => Sample.python) subs .empty) y → WellPlaced y.store := by
  intro h
  have hdrawn : Drawn (fun id => ("STORE-A",
      if id = "DB-1" then ⟨0, some 0⟩ else ⟨24 * Sample.hour, some (5 * Sample.hour)⟩))
      (Sample.two Sample.evening Sample.nextMorning) Db.empty := by
    refine ⟨List.forall_mem_nil _, fun i s hs => ?_⟩
    cases i <;> cases List.mem_singleton.1 hs <;> decide
  have hrun : ((requests (fun _ => Sample.python) (Sample.two Sample.evening Sample.nextMorning)
      .empty).turns (fun _ _ => true) [(false, 60), (true, 60)]).any
        (fun y => ¬ y.store.dayBooks.Pairwise DayBook.Apart) = true := by decide +kernel
  obtain ⟨y, hy, hmeet⟩ := (Option.any_eq_true _ _).1 hrun
  exact of_decide_eq_true hmeet (h _ _ hdrawn y
    (Pool.turns_reaches Rules.free_checks Db.locks _ hy)).apart

end Server
