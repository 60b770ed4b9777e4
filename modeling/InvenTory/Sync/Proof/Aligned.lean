import InvenTory.Desktop.Proof.Outbox
import InvenTory.Server.Proof.Arrivals
import InvenTory.Sync.Flight
import InvenTory.Sync.Proof.Deletions

/-!
# What a push under way may and may not change

`Aligned M` relates a desktop, the server and the push between them, transaction by transaction. A
transaction that exists has one event (`Alive`): as long as that is deliverable, its payload would bring the
row of the server to what `M` asks for (`Carries`), and after that it has (`Shown`). Of a transaction
that is deleted nothing is left that has a weight (`Gone`). Every step of a push keeps this; what a
command has to see to is stated with `M` open.
-/

namespace Sync.Flight

open Desktop (Db Instant OutboxEvent OutboxPayload PerEvent PerTransaction SameMovement eventId voidEventId)
open Deletions (Minted Owned Tidy eventId_inj voidEventId_ne)
open Relational Sql Sql.Prog

/-- What a transaction and its row at the server are to have in common, once its event is sent (`Shows`) and
ever since the server has a row (`Kin`). It does not matter how far the sync is. -/
structure Match where
  Shows : Desktop.InventoryTransaction → Server.InventoryTransaction → Prop
  Kin : Desktop.InventoryTransaction → Server.InventoryTransaction → Prop
  kin : ∀ {r row}, Shows r row → Kin r row
  shows_blind : ∀ {r r' row}, SameMovement r r' → Shows r row → Shows r' row
  kin_blind : ∀ {r r' row}, SameMovement r r' → Kin r row → Kin r' row

section
variable (M : Match) (uid : Int) (t : String) (p : Phase) (r : Desktop.InventoryTransaction)
  (o : Option Server.InventoryTransaction)

/-- The payload brings the row `o` of the server to a match. -/
def Carries (payload : OutboxPayload) : Prop :=
  ∀ env, M.Shows r (Server.Submission.next ⟨(buildPushItem payload).payload uid, env⟩ o)

/-- The server has what it is to have. -/
def Shown : Prop := ∃ row, o = some row ∧ M.Shows r row

/-- A transaction that exists, with its event. -/
structure Alive (e : OutboxEvent) : Prop where
  id : e.payload.transactionId = t
  paid : e.payload.quantityDelta.toInt = r.quantityDelta
  waits : Deliverable e → (∀ x ∈ p.flying, x.payload.transactionId ≠ t) →
    Carries M uid r o e.payload
  flies : ∀ x ∈ p.unposted, x.payload.transactionId = t → Deliverable e ∧
    x.payload.quantityDelta = e.payload.quantityDelta ∧ Carries M uid r o x.payload
  lands : ∀ x ∈ p.unwritten, x.payload.transactionId = t → Deliverable e ∧
    x.payload.quantityDelta = e.payload.quantityDelta ∧ Shown M r o
  settled : ¬ Deliverable e → Shown M r o
  marked : o.isSome → Synced r ∨ ∃ x ∈ p.unmarked, x.payload.transactionId = t
  kin : ∀ row, o = some row → M.Kin r row

/-- A transaction that is deleted, with its event and its tombstone, if there is one. -/
structure Gone (e : OutboxEvent) (v : Option OutboxEvent) : Prop where
  light : ∀ x, (e = x ∨ v = some x) →
    (Deliverable x ∨ ∃ y ∈ p.unposted, y.eventId = x.eventId) → x.payload.quantityDelta = 0
  flown : ∀ y ∈ p.unposted, y.payload.transactionId = t → y.payload.quantityDelta = 0
  ends : (∀ row, o = some row → row.quantityDelta = 0) ∨
    ∃ x, v = some x ∧ Deliverable x ∧ ∀ y ∈ p.unwritten, y.eventId ≠ x.eventId

/-- The row of a transaction, its event, its tombstone and its row at the server are in order. -/
inductive Fine : Option Desktop.InventoryTransaction → Option OutboxEvent → Option OutboxEvent →
    Option Server.InventoryTransaction → Prop
  | absent : Fine none none none none
  | alive {r : Desktop.InventoryTransaction} {e : OutboxEvent}
    {o : Option Server.InventoryTransaction} (h : Alive M uid t p r o e) :
    Fine (some r) (some e) none o
  | gone {e : OutboxEvent} {v : Option OutboxEvent} {o : Option Server.InventoryTransaction}
    (h : Gone t p o e v) : Fine none (some e) v o

end

/-- Every event under way has been accepted, if it was posted. -/
def Answered : Phase → Prop
  | .writing rows receipts _ _ => ∀ x ∈ rows, ∃ r,
    receiptOf receipts x.payload.transactionId = some r ∧ r.accepted = true
  | _ => True

/-- Every event under way is in the outbox. -/
def Held (d : Db) (p : Phase) : Prop := ∀ x ∈ p.flying, ∃ e, d.outbox.get? x.eventId = some e ∧
  e.payload.transactionId = x.payload.transactionId

/-- A desktop, the server and a push. -/
structure Aligned (M : Match) (w : Setting) (s : State) : Prop where
  lasting : Server.Lasting s.server
  ledger : ∀ t, (s.server.ledger.get? t).isSome → Minted t
  tidy : Tidy (fun _ => True) s.desktop
  held : Held s.desktop s.phase
  distinct : (s.phase.flying.map (·.eventId)).Nodup
  answered : Answered s.phase
  fine : ∀ t, Minted t → Fine M w.authenticatedUserId t s.phase (s.desktop.transactions.get? t)
    (s.desktop.outbox.get? (eventId t)) (s.desktop.outbox.get? (voidEventId t))
    (s.server.ledger.get? t)

variable {M : Match} {w : Setting} {s : State} {t : String} {d d' : Db} {p p' : Phase} {uid : Int}
  {r r' : Desktop.InventoryTransaction} {e e' x : OutboxEvent}
  {o o' : Option Server.InventoryTransaction} {g : OutboxEvent → OutboxEvent}

/-! ## Events under way -/

theorem Held.id {S : String → Prop} (h : Held d p) (htidy : Tidy S d) (hx : x ∈ p.flying) :
    Minted x.payload.transactionId ∧ (x.eventId = eventId x.payload.transactionId ∨
      x.eventId = voidEventId x.payload.transactionId) := by
  obtain ⟨e, he, ht⟩ := h x hx
  have hkey : e.eventId = x.eventId := Table.key_of_get? he
  have howned := htidy.events e (Table.mem_of_get? he)
  rw [← ht, ← hkey]
  exact ⟨howned.minted, howned.id.imp_right And.left⟩

/-! ## The desktop -/

/-- An event with another state, and the same payload. -/
structure Kept (g : OutboxEvent → OutboxEvent) : Prop where
  payload : ∀ e, (g e).payload = e.payload
  eventId : ∀ e, (g e).eventId = e.eventId

theorem mem_perEvent (hd : PerEvent g d d') {e' : OutboxEvent} (he' : e' ∈ d'.outbox.rows) :
    ∃ e ∈ d.outbox.rows, g e = e' := by
  have hget : d'.outbox.get? (key e') = some e' := Table.get?_of_mem he'
  rw [hd.outbox] at hget
  obtain ⟨e, he, hge⟩ := Option.map_eq_some_iff.1 hget
  exact ⟨e, Table.mem_of_get? he, hge⟩

theorem tidy_perEvent {S : String → Prop} (h : Tidy S d) (hd : PerEvent g d d') (hg : Kept g) :
    Tidy S d' where
  minted := hd.transactions ▸ h.minted
  synced := hd.transactions ▸ h.synced
  events e' he' := by
    obtain ⟨e, he, rfl⟩ := mem_perEvent hd he'
    have howned := h.events e he
    constructor
    · rw [hg.payload]
      exact howned.minted
    · rw [hg.payload, hg.eventId]
      exact howned.id

theorem tidy_perTransaction {S : String → Prop}
    {f : Desktop.InventoryTransaction → Desktop.InventoryTransaction} (h : Tidy S d)
    (hd : PerTransaction f d d') (hf : ∀ r, SameMovement r (f r)) (hS : ∀ t, S t) : Tidy S d' where
  minted r' hr' := by
    have hget : d'.transactions.get? (key r') = some r' := Table.get?_of_mem hr'
    rw [hd.transactions] at hget
    obtain ⟨r, hr, rfl⟩ := Option.map_eq_some_iff.1 hget
    obtain ⟨_, _, hsame⟩ := hf r
    rw [hsame]
    exact h.minted r (Table.mem_of_get? hr)
  synced _ _ _ := hS _
  events := hd.outbox ▸ h.events

/-! ## Events of one transaction -/

section
variable {row : Option Desktop.InventoryTransaction} {ev v : Option OutboxEvent}

/-- The events under way for `t` are those that the outbox has. -/
def Tracked (t : String) (p : Phase) (ev v : Option OutboxEvent) : Prop :=
  ∀ y ∈ p.flying, y.payload.transactionId = t ↔
    ∃ x, (ev = some x ∨ v = some x) ∧ y.eventId = x.eventId

theorem Held.tracked {S : String → Prop} (h : Held d p) (htidy : Tidy S d) (ht : Minted t) :
    Tracked t p (d.outbox.get? (eventId t)) (d.outbox.get? (voidEventId t)) := by
  intro y hy
  obtain ⟨hm, hid⟩ := h.id htidy hy
  constructor
  · rintro rfl
    obtain ⟨x, hx, -⟩ := h y hy
    have hkey : x.eventId = y.eventId := Table.key_of_get? hx
    refine ⟨x, ?_, hkey.symm⟩
    rcases hid with hid | hid
    · exact .inl (hid ▸ hx)
    · exact .inr (hid ▸ hx)
  · rintro ⟨x, hx | hx, hxy⟩
    · have hkey : x.eventId = eventId t := Table.key_of_get? hx
      rcases hid with hid | hid
      · exact eventId_inj.1 (hid.symm.trans (hxy.trans hkey))
      · exact absurd (hid.symm.trans (hxy.trans hkey)) (voidEventId_ne ht _)
    · have hkey : x.eventId = voidEventId t := Table.key_of_get? hx
      rcases hid with hid | hid
      · exact absurd ((hxy.trans hkey).symm.trans hid) (voidEventId_ne hm _)
      · have heq := hid.symm.trans (hxy.trans hkey)
        exact (String.append_right_inj "EVT-VOID-").1 heq

theorem not_deliverable_synced (h : e.status = .synced) : ¬ Deliverable e := by
  rw [Deliverable, h]
  decide

theorem deliverable_due {now : Instant} (h : e.due now = true) : Deliverable e := by
  unfold OutboxEvent.due at h
  unfold Deliverable
  rcases Bool.or_eq_true_iff.1 h with h | h
  · rw [of_decide_eq_true h]
    decide
  · rw [of_decide_eq_true (Bool.and_eq_true_iff.1 h).1]
    decide

theorem deliverable_reread : Deliverable e.reread ↔ Deliverable e := by
  unfold OutboxEvent.reread Db.changeWhere
  split
  · rename_i hs
    have hs := of_decide_eq_true hs
    simp [Deliverable, OutboxEvent.recover, hs]
  · exact Iff.rfl

/-! ## Reading -/

/-- What a read leads to. -/
def afterRead : List OutboxEvent → Phase
  | [] => .idle
  | rows => .fetched rows

theorem unposted_afterRead (rows : List OutboxEvent) : (afterRead rows).unposted = rows := by
  cases rows <;> rfl

theorem unwritten_afterRead (rows : List OutboxEvent) : (afterRead rows).unwritten = [] := by
  cases rows <;> rfl

theorem flying_afterRead (rows : List OutboxEvent) : (afterRead rows).flying = rows := by
  rw [Phase.flying, unposted_afterRead, unwritten_afterRead, List.append_nil]

theorem exists_event (hx : g e = x ∨ v.map g = some x) : ∃ x', (e = x' ∨ v = some x') ∧ g x' = x := by
  rcases hx with rfl | hx
  · exact ⟨e, .inl rfl, rfl⟩
  · obtain ⟨x', hx', rfl⟩ := Option.map_eq_some_iff.1 hx
    exact ⟨x', .inr hx', rfl⟩

theorem Fine.fetch {rows : List OutboxEvent} (h : Fine M uid t .idle row ev v o)
    (htr : Tracked t (afterRead rows) (ev.map .reread) (v.map .reread))
    (hrows : ∀ y ∈ rows, Deliverable y ∧ ∀ x, (ev.map .reread = some x ∨ v.map .reread = some x) →
      y.eventId = x.eventId → y = x) :
    Fine M uid t (afterRead rows) row (ev.map .reread) (v.map .reread) o := by
  have hmem : ∀ y ∈ rows, y.payload.transactionId = t → ∃ x, (ev = some x ∨ v = some x) ∧
      y = x.reread ∧ Deliverable x := by
    intro y hy hyt
    rw [Tracked, flying_afterRead] at htr
    obtain ⟨x, hx, hid⟩ := (htr y hy).1 hyt
    obtain ⟨hdel, heq⟩ := hrows y hy
    have hyx := heq x hx hid
    have hx' : ∃ x', (ev = some x' ∨ v = some x') ∧ x'.reread = x := by
      rcases hx with hx | hx
      · obtain ⟨e, he, rfl⟩ := Option.map_eq_some_iff.1 hx
        exact ⟨e, .inl he, rfl⟩
      · obtain ⟨e, he, rfl⟩ := Option.map_eq_some_iff.1 hx
        exact ⟨e, .inr he, rfl⟩
    obtain ⟨x', hx', rfl⟩ := hx'
    exact ⟨x', hx', hyx, deliverable_reread.1 (hyx ▸ hdel)⟩
  cases h with
  | absent => exact .absent
  | @alive r e _ ha =>
    refine .alive ⟨?_, ?_, fun hd _ => ?_, fun x hx hxt => ?_, fun x hx => ?_, fun hd => ?_,
      fun ho => ?_, ha.kin⟩
    · rw [Desktop.reread_payload]
      exact ha.id
    · rw [Desktop.reread_payload]
      exact ha.paid
    · rw [Desktop.reread_payload]
      exact ha.waits (deliverable_reread.1 hd) fun _ hx => absurd hx List.not_mem_nil
    · rw [unposted_afterRead] at hx
      obtain ⟨x', hx' | hx', rfl, hd⟩ := hmem x hx hxt
      · cases hx'
        refine ⟨deliverable_reread.2 hd, rfl, ?_⟩
        rw [Desktop.reread_payload]
        exact ha.waits hd fun _ hx => absurd hx List.not_mem_nil
      · cases hx'
    · rw [unwritten_afterRead] at hx
      cases hx
    · exact ha.settled fun hd' => hd (deliverable_reread.2 hd')
    · refine .inl ((ha.marked ho).resolve_right ?_)
      rintro ⟨x, hx, -⟩
      cases hx
  | @gone e _ _ hg =>
    refine .gone ⟨?_, fun y hy hyt => ?_, ?_⟩
    · intro x hx hd
      have hdel : Deliverable x := by
        refine hd.elim id ?_
        rintro ⟨y, hy, hid⟩
        rw [unposted_afterRead] at hy
        obtain ⟨hdel, heq⟩ := hrows y hy
        have hyx : y = x := heq x (hx.imp_left (congrArg some)) hid
        exact hyx ▸ hdel
      obtain ⟨x', hx', rfl⟩ := exists_event hx
      rw [Desktop.reread_payload]
      exact hg.light x' hx' (.inl (deliverable_reread.1 hdel))
    · rw [unposted_afterRead] at hy
      obtain ⟨x, hx, rfl, hd⟩ := hmem y hy hyt
      rw [Desktop.reread_payload]
      exact hg.light x (hx.imp_left Option.some.inj) (.inl hd)
    · refine hg.ends.imp_right ?_
      rintro ⟨x, hx, hd, -⟩
      refine ⟨x.reread, by rw [hx]; rfl, deliverable_reread.2 hd, fun y hy => ?_⟩
      rw [unwritten_afterRead] at hy
      cases hy

/-! ## Marking -/

/-- The events of `rows` take the status `status`, the others are as before. -/
structure Sets (rows : List OutboxEvent) (status : Desktop.Status) (g : OutboxEvent → OutboxEvent) :
    Prop where
  kept : Kept g
  hit : ∀ e, (∃ y ∈ rows, y.eventId = e.eventId) → (g e).status = status
  other : ∀ e, (∀ y ∈ rows, y.eventId ≠ e.eventId) → g e = e

theorem Sets.cases {rows : List OutboxEvent} {status : Desktop.Status} (hg : Sets rows status g)
    (e : OutboxEvent) : (∃ y ∈ rows, y.eventId = e.eventId) ∧ (g e).status = status ∨
      (∀ y ∈ rows, y.eventId ≠ e.eventId) ∧ g e = e := by
  by_cases h : ∃ y ∈ rows, y.eventId = e.eventId
  · exact .inl ⟨h, hg.hit e h⟩
  · have hn : ∀ y ∈ rows, y.eventId ≠ e.eventId := fun y hy he => h ⟨y, hy, he⟩
    exact .inr ⟨hn, hg.other e hn⟩

theorem deliverable_sending (h : e.status = .sending) : Deliverable e := by
  rw [Deliverable, h]
  decide

/-- Marking an event makes it deliverable, if it was not. -/
theorem Sets.deliverable {rows : List OutboxEvent} (hg : Sets rows .sending g) (h : Deliverable e) :
    Deliverable (g e) := by
  rcases hg.cases e with ⟨-, hs⟩ | ⟨-, he⟩
  · exact deliverable_sending hs
  · rwa [he]

theorem Fine.mark {rows : List OutboxEvent} (h : Fine M uid t (.fetched rows) row ev v o)
    (htr : Tracked t (.fetched rows) ev v) (hg : Sets rows .sending g) :
    Fine M uid t (.marked rows) row (ev.map g) (v.map g) o := by
  have hfly : ∀ y ∈ rows, y ∈ (Phase.fetched rows).flying := fun y hy => List.mem_append_left _ hy
  cases h with
  | absent => exact .absent
  | @alive r e _ ha =>
    refine .alive ⟨?_, ?_, fun hd hn => ?_, fun x hx hxt => ?_, fun x hx => ?_, fun hd => ?_, ha.marked,
      ha.kin⟩
    · rw [hg.kept.payload]
      exact ha.id
    · rw [hg.kept.payload]
      exact ha.paid
    · rw [hg.kept.payload]
      rcases hg.cases e with ⟨⟨y, hy, hye⟩, -⟩ | ⟨-, he⟩
      · exact absurd ((htr y (hfly y hy)).2 ⟨e, .inl rfl, hye⟩) (hn y (hfly y hy))
      · exact ha.waits (he ▸ hd) hn
    · obtain ⟨hd, hq, hc⟩ := ha.flies x hx hxt
      rw [hg.kept.payload]
      exact ⟨hg.deliverable hd, hq, hc⟩
    · cases hx
    · exact ha.settled fun hd' => hd (hg.deliverable hd')
  | @gone e _ _ hgone =>
    refine .gone ⟨fun x hx hd => ?_, hgone.flown, ?_⟩
    · obtain ⟨x', hx', rfl⟩ := exists_event hx
      rw [hg.kept.payload]
      rw [hg.kept.eventId] at hd
      refine hgone.light x' hx' ?_
      rcases hg.cases x' with ⟨hmem, -⟩ | ⟨-, he⟩
      · exact .inr hmem
      · rwa [he] at hd
    · refine hgone.ends.imp_right ?_
      rintro ⟨x, rfl, hd, -⟩
      refine ⟨g x, rfl, hg.deliverable hd, fun y hy => ?_⟩
      cases hy

/-! ## Posting -/

theorem filter_eq_singleton {α β : Type} {l : List α} {f : α → β} {q : α → Bool} {x : α}
    (hn : (l.map f).Nodup) (hx : x ∈ l) (hq : q x = true) (h : ∀ y ∈ l, q y = true → f y = f x) :
    l.filter q = [x] := by
  induction l with
  | nil => cases hx
  | cons y l ih =>
    obtain ⟨hy, hn⟩ := List.nodup_cons.1 hn
    rw [List.forall_mem_cons] at h
    rcases List.mem_cons.1 hx with rfl | hx
    · have hrest : l.filter q = [] := List.filter_eq_nil_iff.2 fun z hz hqz =>
        hy (h.2 z hz hqz ▸ List.mem_map_of_mem hz)
      rw [List.filter_cons_of_pos hq, hrest]
    · have hqy : ¬ q y = true := fun hqy => hy (h.1 hqy ▸ List.mem_map_of_mem hx)
      rw [List.filter_cons_of_neg hqy]
      exact ih hn hx h.2

theorem mem_request {env : Nat → Server.Env} {rows : List OutboxEvent} {x : Server.Submission}
    (hx : x ∈ request uid env rows) :
    ∃ y ∈ rows, x.payload = (buildPushItem y.payload).payload uid := by
  obtain ⟨z, hz, rfl⟩ := List.mem_map.1 hx
  exact ⟨z.1, List.fst_mem_of_mem_zipIdx hz, rfl⟩

theorem exists_request (uid : Int) (env : Nat → Server.Env) {rows : List OutboxEvent} {y : OutboxEvent}
    (hy : y ∈ rows) : ∃ x ∈ request uid env rows,
      x.payload = (buildPushItem y.payload).payload uid := by
  have hfst : y ∈ rows.zipIdx.map Prod.fst := by rwa [List.zipIdx_map_fst]
  obtain ⟨z, hz, rfl⟩ := List.mem_map.1 hfst
  exact ⟨_, List.mem_map_of_mem hz, rfl⟩

theorem request_filter (uid : Int) (env : Nat → Server.Env) {rows : List OutboxEvent}
    (h : rows.filter (·.payload.transactionId = t) = [x]) : ∃ i,
      (request uid env rows).filter (·.id = t) =
        [⟨(buildPushItem x.payload).payload uid, env i⟩] := by
  have hfst : (rows.zipIdx.filter fun z => z.1.payload.transactionId = t).map Prod.fst = [x] := by
    rw [← h]
    conv_rhs => rw [← List.zipIdx_map_fst 0 rows, List.filter_map]
    rfl
  obtain ⟨z, hz, rfl⟩ := List.map_eq_singleton_iff.1 hfst
  refine ⟨z.2, ?_⟩
  unfold request
  rw [List.filter_map]
  exact congrArg (List.map _) hz

theorem sortable_request (env : Nat → Server.Env) (rows : List OutboxEvent) :
    Server.Sortable (request uid env rows) := by
  intro a ha b hb _
  obtain ⟨_, -, ha⟩ := mem_request ha
  obtain ⟨_, -, hb⟩ := mem_request hb
  rw [ha, hb]
  rfl

theorem Fine.post {rows sorted : List OutboxEvent} (receipts : List Server.SyncReceipt)
    (env : Nat → Server.Env) (h : Fine M uid t (.marked rows) row ev v o)
    (htr : Tracked t (.marked rows) ev v) (hn : (rows.map (·.eventId)).Nodup)
    (hs : sorted.Perm rows) :
    Fine M uid t (.writing sorted receipts true true) row ev v
      (Server.arrivals t o (Server.processed (request uid env sorted))) := by
  have hmem : ∀ y, y ∈ sorted ↔ y ∈ rows := fun y => hs.mem_iff
  have hfly : ∀ y ∈ rows, y ∈ (Phase.marked rows).flying := fun y hy => List.mem_append_left _ hy
  have hid : ∀ {x : Server.Submission}, x ∈ Server.processed (request uid env sorted) → x.id = t →
      ∃ y ∈ rows, y.payload.transactionId = t ∧ x.payload = (buildPushItem y.payload).payload uid := by
    intro x hx hxt
    obtain ⟨y, hy, hxy⟩ := mem_request ((Server.processed_perm _).mem_iff.1 hx)
    refine ⟨y, (hmem y).1 hy, ?_, hxy⟩
    rw [← hxt, Server.Submission.id, hxy]
    rfl
  cases h with
  | absent =>
    rw [Server.arrivals_other]
    · exact .absent
    · intro x hx hxt
      obtain ⟨y, hy, hyt, -⟩ := hid hx hxt
      obtain ⟨_, hnone | hnone, -⟩ := (htr y (hfly y hy)).1 hyt
      · cases hnone
      · cases hnone
  | @alive r e _ ha =>
    by_cases hany : ∃ x ∈ rows, x.payload.transactionId = t
    · obtain ⟨x, hx, hxt⟩ := hany
      have hevent : ∀ y ∈ rows, y.payload.transactionId = t → y.eventId = e.eventId := by
        intro y hy hyt
        obtain ⟨_, he | he, hye⟩ := (htr y (hfly y hy)).1 hyt
        · cases he
          exact hye
        · cases he
      have hone : sorted.filter (·.payload.transactionId = t) = [x] := by
        refine filter_eq_singleton (f := OutboxEvent.eventId) ((hs.map _).nodup_iff.2 hn)
          ((hmem x).2 hx) (decide_eq_true hxt) fun y hy hyt => ?_
        rw [hevent y ((hmem y).1 hy) (of_decide_eq_true hyt), hevent x hx hxt]
      obtain ⟨i, hi⟩ := request_filter uid env hone
      have hshows : Shown M r (Server.arrivals t o (Server.processed (request uid env sorted))) :=
        ⟨_, Server.arrivals_one hi, (ha.flies x hx hxt).2.2 _⟩
      refine .alive ⟨ha.id, ha.paid, fun _ hnot => ?_, fun y hy => absurd hy List.not_mem_nil,
        fun y hy hyt => ?_, fun _ => hshows, fun _ => .inr ⟨x, (hmem x).2 hx, hxt⟩, ?_⟩
      · exact absurd hxt (hnot x ((hmem x).2 hx))
      · obtain ⟨hd, hq, -⟩ := ha.flies y ((hmem y).1 hy) hyt
        exact ⟨hd, hq, hshows⟩
      · obtain ⟨row, hrow, hm⟩ := hshows
        rw [hrow]
        rintro _ ⟨⟩
        exact M.kin hm
    · have hsame : Server.arrivals t o (Server.processed (request uid env sorted)) = o := by
        refine Server.arrivals_other fun x hx hxt => ?_
        obtain ⟨y, hy, hyt, -⟩ := hid hx hxt
        exact hany ⟨y, hy, hyt⟩
      rw [hsame]
      refine .alive ⟨ha.id, ha.paid, fun hd _ => ha.waits hd fun y hy hyt => ?_,
        fun y hy => absurd hy List.not_mem_nil, fun y hy hyt => ?_, ha.settled, fun ho => ?_, ha.kin⟩
      · rcases List.mem_append.1 hy with hy | hy
        · exact hany ⟨y, hy, hyt⟩
        · cases hy
      · exact absurd ⟨y, (hmem y).1 hy, hyt⟩ hany
      · refine .inl ((ha.marked ho).resolve_right ?_)
        rintro ⟨y, hy, -⟩
        cases hy
  | @gone e _ _ hg =>
    have hlight : ∀ x ∈ Server.processed (request uid env sorted), x.id = t →
        ∀ o, (x.next o).quantityDelta = 0 := by
      intro x hx hxt o
      obtain ⟨y, hy, hyt, hxy⟩ := hid hx hxt
      rw [Server.next_quantityDelta, hxy]
      change y.payload.quantityDelta.toInt = 0
      rw [hg.flown y hy hyt]
      rfl
    refine .gone ⟨fun x hx hd => hg.light x hx (.inl (hd.resolve_right ?_)),
      fun y hy => absurd hy List.not_mem_nil, ?_⟩
    · rintro ⟨y, hy, -⟩
      cases hy
    rcases hg.ends with hzero | ⟨x, hx, hd, -⟩
    · exact .inl (Server.arrivals_all hlight hzero)
    · by_cases hany : ∃ y ∈ rows, y.eventId = x.eventId
      · left
        obtain ⟨y, hy, hye⟩ := hany
        have hyt := (htr y (hfly y hy)).2 ⟨x, .inr hx, hye⟩
        obtain ⟨z, hz, hzy⟩ := exists_request uid env ((hmem y).2 hy)
        refine Server.arrivals_hit hlight ⟨z, (Server.processed_perm _).mem_iff.2 hz, ?_⟩
        rw [Server.Submission.id, hzy]
        exact hyt
      · exact .inr ⟨x, hx, hd, fun y hy hye => hany ⟨y, (hmem y).1 hy, hye⟩⟩

/-! ## Writing the outcomes -/

theorem Fine.writeOutbox {rows : List OutboxEvent} {receipts : List Server.SyncReceipt} {txs : Bool}
    (h : Fine M uid t (.writing rows receipts true txs) row ev v o)
    (htr : Tracked t (.writing rows receipts true txs) ev v) (hg : Sets rows .synced g) :
    Fine M uid t (.writing rows receipts false txs) row (ev.map g) (v.map g) o := by
  have hfly : ∀ y ∈ rows, y ∈ (Phase.writing rows receipts true txs).flying := fun y hy => hy
  have hnone : ∀ y, y ∉ (Phase.writing rows receipts false txs).flying :=
    fun y => List.not_mem_nil
  have hunmarked : (Phase.writing rows receipts false txs).unmarked =
      (Phase.writing rows receipts true txs).unmarked := by
    cases txs <;> rfl
  have hstill : ∀ x, Deliverable (g x) → (∀ y ∈ rows, y.eventId ≠ x.eventId) ∧ g x = x := fun x hd =>
    (hg.cases x).resolve_left fun hs => not_deliverable_synced hs.2 hd
  cases h with
  | absent => exact .absent
  | @alive r e _ ha =>
    refine .alive ⟨?_, ?_, fun hd _ => ?_, fun x hx => absurd hx List.not_mem_nil,
      fun x hx => absurd hx List.not_mem_nil, fun hd => ?_, hunmarked ▸ ha.marked, ha.kin⟩
    · rw [hg.kept.payload]
      exact ha.id
    · rw [hg.kept.payload]
      exact ha.paid
    · obtain ⟨hother, he⟩ := hstill e hd
      rw [he] at hd ⊢
      refine ha.waits hd fun y hy hyt => ?_
      obtain ⟨x, hx, hid⟩ := (htr y hy).1 hyt
      rcases hx with hx | hx
      · cases hx
        exact hother y hy hid
      · cases hx
    · rcases hg.cases e with ⟨⟨y, hy, hye⟩, -⟩ | ⟨-, he⟩
      · have hyt := (htr y (hfly y hy)).2 ⟨e, .inl rfl, hye⟩
        exact (ha.lands y hy hyt).2.2
      · exact ha.settled (he ▸ hd)
  | @gone e _ _ hgone =>
    refine .gone ⟨fun x hx hd => ?_, fun y hy => absurd hy List.not_mem_nil, ?_⟩
    · obtain ⟨x', hx', rfl⟩ := exists_event hx
      have hd : Deliverable (g x') := by
        refine hd.resolve_right ?_
        rintro ⟨y, hy, -⟩
        cases hy
      rw [hg.kept.payload]
      exact hgone.light x' hx' (.inl ((hstill x' hd).2 ▸ hd))
    · refine hgone.ends.imp_right ?_
      rintro ⟨x, rfl, hd, hx⟩
      have he : g x = x := hg.other x hx
      exact ⟨g x, rfl, he.symm ▸ hd, fun y hy => absurd hy (hnone y)⟩

theorem Fine.writeTxs {rows : List OutboxEvent} {receipts : List Server.SyncReceipt} {outbox : Bool}
    {f : Desktop.InventoryTransaction → Desktop.InventoryTransaction}
    (h : Fine M uid t (.writing rows receipts outbox true) row ev v o)
    (hf : ∀ r, SameMovement r (f r)) (hs : ∀ r, Synced r → Synced (f r))
    (hrows : ∀ r, row = some r → (∃ y ∈ rows, y.payload.transactionId = t) → Synced (f r)) :
    Fine M uid t (.writing rows receipts outbox false) (row.map f) ev v o := by
  have hunwritten : (Phase.writing rows receipts outbox false).unwritten =
      (Phase.writing rows receipts outbox true).unwritten := by
    cases outbox <;> rfl
  have hflying : (Phase.writing rows receipts outbox false).flying =
      (Phase.writing rows receipts outbox true).flying := hunwritten
  cases h with
  | absent => exact .absent
  | @alive r e _ ha =>
    obtain ⟨_, _, hr⟩ := hf r
    refine .alive ⟨ha.id, ?_, fun hd hn env => ?_, fun x hx => absurd hx List.not_mem_nil,
      fun x hx hxt => ?_, fun hd => ?_, fun ho => ?_, fun row ho => M.kin_blind (hf r) (ha.kin row ho)⟩
    · rw [hr]
      exact ha.paid
    · exact M.shows_blind (hf r) (ha.waits hd (hflying ▸ hn) env)
    · obtain ⟨hd, hq, row, ho, hm⟩ := ha.lands x (hunwritten ▸ hx) hxt
      exact ⟨hd, hq, row, ho, M.shows_blind (hf r) hm⟩
    · obtain ⟨row, ho, hm⟩ := ha.settled hd
      exact ⟨row, ho, M.shows_blind (hf r) hm⟩
    · left
      exact (ha.marked ho).elim (hs r) (hrows r rfl)
  | gone hgone =>
    refine .gone ⟨hgone.light, hgone.flown, ?_⟩
    rw [hunwritten]
    exact hgone.ends

theorem Fine.finish {rows : List OutboxEvent} {receipts : List Server.SyncReceipt}
    (h : Fine M uid t (.writing rows receipts false false) row ev v o) :
    Fine M uid t .idle row ev v o := by
  cases h with
  | absent => exact .absent
  | alive ha => exact .alive ⟨ha.id, ha.paid, ha.waits, ha.flies, ha.lands, ha.settled, ha.marked,
    ha.kin⟩
  | gone hg => exact .gone ⟨hg.light, hg.flown, hg.ends⟩

end

/-! ## The steps of a push -/

theorem aligned_start : Aligned M w ⟨.empty, .empty, .idle⟩ where
  lasting := (Server.keeps_start Server.Sample.empty rfl fun _ h => by cases h).1
  ledger _ h := by cases h
  tidy := ⟨fun _ h => absurd h List.not_mem_nil, fun _ h => absurd h List.not_mem_nil,
    fun _ h => absurd h List.not_mem_nil⟩
  held _ h := absurd h List.not_mem_nil
  distinct := List.nodup_nil
  answered := trivial
  fine _ _ := .absent

theorem Aligned.other (h : Aligned M w s) (hd : Desktop.SameStock s.desktop d) :
    Aligned M w { s with desktop := d } where
  lasting := h.lasting
  ledger := h.ledger
  tidy := ⟨hd.transactions ▸ h.tidy.minted, hd.transactions ▸ h.tidy.synced, hd.outbox ▸ h.tidy.events⟩
  held x hx := hd.outbox ▸ h.held x hx
  distinct := h.distinct
  answered := h.answered
  fine := hd.transactions ▸ hd.outbox ▸ h.fine

theorem Aligned.serve {db : Server.Db} (h : Aligned M w s) (hdb : Server.Frame s.server db)
    (hclean : Server.CleanStores db) : Aligned M w { s with server := db } where
  lasting := by
    obtain ⟨⟨hbalance, hreceipt⟩, hledger, -⟩ := h.lasting
    refine ⟨⟨?_, ?_⟩, ?_, hclean⟩
    · rw [hdb.ledger, hdb.balances]
      exact hbalance
    · rw [hdb.ledger, hdb.receipts]
      exact hreceipt
    · rw [hdb.ledger, hdb.receipts]
      exact hledger
  ledger := hdb.ledger ▸ h.ledger
  tidy := h.tidy
  held := h.held
  distinct := h.distinct
  answered := h.answered
  fine := hdb.ledger ▸ h.fine

theorem kept_reread : Kept OutboxEvent.reread := ⟨Desktop.reread_payload, Desktop.reread_eventId⟩

theorem answered_afterRead (rows : List OutboxEvent) : Answered (afterRead rows) := by
  cases rows <;> trivial

theorem fetch_eq (w : Setting) (s : State) (now : Instant) : ∃ d rows,
    s.fetch w now = ⟨d, s.server, afterRead rows⟩ ∧ PerEvent OutboxEvent.reread s.desktop d ∧
      rows = Desktop.selectDue now (Desktop.batchLimit (some w.batchSize)) d := by
  obtain ⟨d, he, hd⟩ := Desktop.eval_getPendingOutboxEvents now w.batchSize s.desktop
  refine ⟨d, _, ?_, hd, rfl⟩
  unfold State.fetch
  rw [he]
  cases Desktop.selectDue now (Desktop.batchLimit (some w.batchSize)) d <;> rfl

theorem Aligned.fetch (h : Aligned M w s) (hp : s.phase = .idle) (now : Instant) :
    Aligned M w (s.fetch w now) := by
  obtain ⟨d, rows, hs, hd, hrows⟩ := fetch_eq w s now
  have hdue : ∀ y ∈ rows, d.outbox.get? y.eventId = some y ∧ Deliverable y := by
    intro y hy
    rw [hrows] at hy
    obtain ⟨hy, hdue⟩ := Desktop.mem_selectDue hy
    exact ⟨Table.get?_of_mem hy, deliverable_due hdue⟩
  have htidy := tidy_perEvent h.tidy hd kept_reread
  have hheld : Held d (afterRead rows) := by
    rw [Held, flying_afterRead]
    exact fun x hx => ⟨x, (hdue x hx).1, rfl⟩
  rw [hs]
  refine ⟨h.lasting, h.ledger, htidy, hheld, ?_, answered_afterRead rows, fun t ht => ?_⟩
  · change ((afterRead rows).flying.map (·.eventId)).Nodup
    rw [flying_afterRead, hrows]
    exact Desktop.nodup_selectDue _ _ _
  · have htr := hheld.tracked htidy ht
    have hfine := h.fine t ht
    rw [hp] at hfine
    change Fine M _ t (afterRead rows) (d.transactions.get? t) (d.outbox.get? (eventId t))
      (d.outbox.get? (voidEventId t)) (s.server.ledger.get? t)
    have hget : ∀ y ∈ rows, Deliverable y ∧ ∀ x, (d.outbox.get? (eventId t) = some x ∨
        d.outbox.get? (voidEventId t) = some x) → y.eventId = x.eventId → y = x := by
      intro y hy
      obtain ⟨hget, hdel⟩ := hdue y hy
      refine ⟨hdel, fun x hx hid => ?_⟩
      have hx : d.outbox.get? x.eventId = some x := by
        rcases hx with hx | hx
        · exact Table.get?_of_mem (Table.mem_of_get? hx)
        · exact Table.get?_of_mem (Table.mem_of_get? hx)
      rw [hid, hx] at hget
      exact (Option.some.inj hget).symm
    rw [hd.transactions]
    rw [hd.outbox, hd.outbox] at htr hget ⊢
    exact hfine.fetch htr hget

theorem sets_advance {rows : List OutboxEvent} {us : List Desktop.StatusUpdate}
    {status : Desktop.Status} {now : Instant}
    (hids : us.map (·.eventId) = rows.map (·.eventId)) (hall : ∀ u ∈ us, u.targetStatus = status) :
    Sets rows status (OutboxEvent.advance now us) where
  kept := ⟨Desktop.advance_payload us, Desktop.advance_eventId us⟩
  hit e he := by
    obtain ⟨y, hy, hye⟩ := he
    have hmem : y.eventId ∈ us.map (·.eventId) := hids ▸ List.mem_map_of_mem hy
    obtain ⟨u, hu, huy⟩ := List.mem_map.1 hmem
    exact Desktop.advance_status hall (.inr ⟨u, hu, huy.trans hye⟩)
  other e he := by
    refine Desktop.advance_other fun u hu hue => ?_
    have hmem : u.eventId ∈ rows.map (·.eventId) := hids ▸ List.mem_map_of_mem hu
    obtain ⟨y, hy, hyu⟩ := List.mem_map.1 hmem
    exact he y hy (hyu.trans hue)

/-- What a push writes to the outbox, for events that there are. -/
theorem exists_advanced (now : Instant) {rows : List OutboxEvent} {us : List Desktop.StatusUpdate}
    (hids : us.map (·.eventId) = rows.map (·.eventId))
    (hrows : ∀ y ∈ rows, ∃ e, d.outbox.get? y.eventId = some e ∧
      e.payload.transactionId = y.payload.transactionId) : ∃ d',
    ((Desktop.updateOutboxEventStatuses now us).eval d).2 = d' ∧
      PerEvent (OutboxEvent.advance now us) d d' := by
  obtain ⟨d', he, hd⟩ := Desktop.eval_updateOutboxEventStatuses now (d := d) fun u (hu : u ∈ us) => by
      have hmem : u.eventId ∈ rows.map (·.eventId) := hids ▸ List.mem_map_of_mem hu
      obtain ⟨y, hy, hyu⟩ := List.mem_map.1 hmem
      obtain ⟨e, he, -⟩ := hrows y hy
      rw [← hyu, he]
      rfl
  exact ⟨d', by rw [he], hd⟩

theorem Held.perEvent (h : Held d p) (hd : PerEvent g d d') (hg : Kept g) : Held d' p := by
  intro x hx
  obtain ⟨e, he, ht⟩ := h x hx
  refine ⟨g e, by rw [hd.outbox, he]; rfl, ?_⟩
  rw [hg.payload]
  exact ht

theorem sets_sending (rows : List OutboxEvent) (now : Instant) :
    (sendingUpdates rows).map (·.eventId) = rows.map (·.eventId) ∧
      Sets rows .sending (OutboxEvent.advance now (sendingUpdates rows)) := by
  have hids : (sendingUpdates rows).map (·.eventId) = rows.map (·.eventId) := by
    rw [sendingUpdates, List.map_map]
    rfl
  refine ⟨hids, sets_advance hids fun u hu => ?_⟩
  obtain ⟨_, -, rfl⟩ := List.mem_map.1 hu
  rfl

theorem Aligned.mark_eq {rows : List OutboxEvent} (h : Aligned M w s) (hp : s.phase = .fetched rows)
    (now : Instant) : ∃ d, s.mark now rows = ⟨d, s.server, .marked rows⟩ ∧
      PerEvent (OutboxEvent.advance now (sendingUpdates rows)) s.desktop d := by
  have hheld := h.held
  rw [hp] at hheld
  obtain ⟨d, hd, hper⟩ := exists_advanced now (sets_sending rows now).1 fun y hy =>
    hheld y (List.mem_append_left _ hy)
  refine ⟨d, ?_, hper⟩
  unfold State.mark
  rw [hd]

theorem Aligned.mark {rows : List OutboxEvent} (h : Aligned M w s) (hp : s.phase = .fetched rows)
    (now : Instant) : Aligned M w (s.mark now rows) := by
  obtain ⟨d, hs, hper⟩ := h.mark_eq hp now
  obtain ⟨hlasting, hledger, htidy, hheld, hdistinct, -, hfine⟩ := h
  rw [hp] at hheld hdistinct hfine
  have hg := (sets_sending rows now).2
  rw [hs]
  refine ⟨hlasting, hledger, tidy_perEvent htidy hper hg.kept, ?_, hdistinct, trivial, fun t ht => ?_⟩
  · exact Held.perEvent (p := .fetched rows) hheld hper hg.kept
  · have htr := hheld.tracked htidy ht
    have hnew := (hfine t ht).mark htr hg
    rw [← hper.transactions, ← hper.outbox, ← hper.outbox] at hnew
    exact hnew

theorem receiptOf_accepted {receipts : List Server.SyncReceipt}
    (hans : ∃ r ∈ receipts, r.transactionId = t) (hacc : ∀ r ∈ receipts, r.accepted = true) :
    ∃ r, receiptOf receipts t = some r ∧ r.accepted = true := by
  obtain ⟨r, hr, hrt⟩ := hans
  have hsome : (receiptOf receipts t).isSome := by
    rw [receiptOf, List.find?_isSome]
    exact ⟨r, List.mem_reverse.2 hr, decide_eq_true hrt⟩
  obtain ⟨r', hr'⟩ := Option.isSome_iff_exists.1 hsome
  exact ⟨r', hr', hacc r' (List.mem_reverse.1 (List.mem_of_find?_eq_some hr'))⟩

theorem Aligned.post {rows : List OutboxEvent} {env : Nat → Server.Env} (hpy : w.py.Conforms)
    (h : Aligned M w s) (hp : s.phase = .marked rows)
    (hplain : ∀ x ∈ submissions w env rows, Server.Plain x)
    (hacc : Unrejected w s.server (submissions w env rows)) : Aligned M w (s.post w env rows) := by
  obtain ⟨receipts, hrs, hlasting, hans, harr⟩ :=
    Server.push_arrivals hpy (sortable_request env _) hplain h.lasting
  obtain ⟨-, hledger, htidy, hheld, hdistinct, -, hfine⟩ := h
  rw [hp] at hheld hdistinct hfine
  have hrej := hacc receipts hrs
  have hledger' : ∀ t, (Server.push w.py s.server (submissions w env rows)).2.ledger.get? t =
      Server.arrivals t (s.server.ledger.get? t) (Server.processed (submissions w env rows)) :=
    harr hrej
  have hperm : (sortPushItems w.js rows).Perm rows := List.perm_insertionSort ..
  have hmem : ∀ y, y ∈ sortPushItems w.js rows ↔ y ∈ rows := fun y => hperm.mem_iff
  have hfly : ∀ y ∈ rows, y ∈ (Phase.marked rows).flying := fun y hy => List.mem_append_left _ hy
  have hs : s.post w env rows = ⟨s.desktop,
      (Server.push w.py s.server (submissions w env rows)).2,
      .writing (sortPushItems w.js rows) receipts true true⟩ := by
    have hpush : (Server.push w.py s.server
      (request w.authenticatedUserId env (sortPushItems w.js rows))).1 = .ok receipts := hrs
    unfold State.post
    dsimp only
    rw [hpush]
    rfl
  rw [hs]
  refine ⟨hlasting, fun t ht => ?_, htidy, fun y hy => ?_, ?_, fun y hy => ?_, fun t ht => ?_⟩
  · -- a new row is for an event that was under way
    by_cases hany : ∃ y ∈ rows, y.payload.transactionId = t
    · obtain ⟨y, hy, rfl⟩ := hany
      exact (hheld.id htidy (hfly y hy)).1
    · refine hledger t ?_
      change ((Server.push w.py s.server (submissions w env rows)).2.ledger.get? t).isSome at ht
      rw [hledger', Server.arrivals_other] at ht
      · exact ht
      · intro x hx hxt
        obtain ⟨y, hy, hxy⟩ := mem_request ((Server.processed_perm _).mem_iff.1 hx)
        refine hany ⟨y, (hmem y).1 hy, ?_⟩
        rw [← hxt, Server.Submission.id, hxy]
        rfl
  · exact hheld y (hfly y ((hmem y).1 hy))
  · have hnodup : ((rows ++ []).map OutboxEvent.eventId).Nodup := hdistinct
    rw [List.append_nil] at hnodup
    exact (hperm.map _).nodup_iff.2 hnodup
  · obtain ⟨x, hx, hxy⟩ := exists_request w.authenticatedUserId env hy
    refine receiptOf_accepted ?_ hrej
    obtain ⟨r, hr, hrx⟩ := hans x hx
    refine ⟨r, hr, hrx.trans ?_⟩
    rw [Server.Submission.id, hxy]
    rfl
  · have htr := hheld.tracked htidy ht
    have hnodup : ((rows ++ []).map OutboxEvent.eventId).Nodup := hdistinct
    rw [List.append_nil] at hnodup
    have hnew := (hfine t ht).post receipts env htr hnodup hperm
    change Fine M _ t _ _ _ _ ((Server.push w.py s.server (submissions w env rows)).2.ledger.get? t)
    rw [hledger']
    exact hnew

/-- The outcome of an event that was accepted. -/
theorem outcome_accepted {receipts : List Server.SyncReceipt} (js : Js)
    (h : ∃ r, receiptOf receipts x.payload.transactionId = some r ∧ r.accepted = true) :
    ∃ acceptedAt, outcome js receipts x =
      (⟨x.eventId, .synced, none⟩, some ⟨x.payload.transactionId, .synced, acceptedAt⟩) := by
  obtain ⟨r, hr, hacc⟩ := h
  refine ⟨some r.receivedAt, ?_⟩
  unfold outcome
  simp only [hr, hacc, if_true]

theorem sets_synced {rows : List OutboxEvent} {receipts : List Server.SyncReceipt} (js : Js) (now : Instant)
    (hans : ∀ x ∈ rows, ∃ r, receiptOf receipts x.payload.transactionId = some r ∧
      r.accepted = true) :
    (outboxStatusUpdates js receipts rows).map (·.eventId) = rows.map (·.eventId) ∧
      Sets rows .synced (OutboxEvent.advance now (outboxStatusUpdates js receipts rows)) := by
  have hids : (outboxStatusUpdates js receipts rows).map (·.eventId) = rows.map (·.eventId) := by
    rw [outboxStatusUpdates, List.map_map]
    exact List.map_congr_left fun x _ => Deletions.outcome_eventId js receipts x
  refine ⟨hids, sets_advance hids fun u hu => ?_⟩
  obtain ⟨x, hx, rfl⟩ := List.mem_map.1 hu
  obtain ⟨_, hout⟩ := outcome_accepted js (hans x hx)
  rw [hout]

theorem Aligned.writeOutbox_eq {rows : List OutboxEvent} {receipts : List Server.SyncReceipt}
    {txs : Bool} (h : Aligned M w s) (hp : s.phase = .writing rows receipts true txs)
    (now : Instant) : ∃ d,
      s.writeOutbox w now rows receipts txs = ⟨d, s.server, .writing rows receipts false txs⟩ ∧
        PerEvent (OutboxEvent.advance now (outboxStatusUpdates w.js receipts rows)) s.desktop d := by
  have hheld := h.held
  have hans := h.answered
  rw [hp] at hheld hans
  obtain ⟨d, hd, hper⟩ := exists_advanced now (sets_synced w.js now hans).1 hheld
  refine ⟨d, ?_, hper⟩
  unfold State.writeOutbox
  rw [hd]

theorem Aligned.writeOutbox {rows : List OutboxEvent} {receipts : List Server.SyncReceipt}
    {txs : Bool} (h : Aligned M w s) (hp : s.phase = .writing rows receipts true txs)
    (now : Instant) : Aligned M w (s.writeOutbox w now rows receipts txs) := by
  obtain ⟨d, hs, hper⟩ := h.writeOutbox_eq hp now
  obtain ⟨hlasting, hledger, htidy, hheld, -, hans, hfine⟩ := h
  rw [hp] at hheld hans hfine
  have hg := (sets_synced w.js now hans).2
  rw [hs]
  refine ⟨hlasting, hledger, tidy_perEvent htidy hper hg.kept, fun _ hx => absurd hx List.not_mem_nil,
    List.nodup_nil, hans, fun t ht => ?_⟩
  have htr := hheld.tracked htidy ht
  have hnew := (hfine t ht).writeOutbox htr hg
  rw [← hper.transactions, ← hper.outbox, ← hper.outbox] at hnew
  exact hnew

theorem writeTxs_eq (w : Setting) (s : State) (rows : List OutboxEvent)
    (receipts : List Server.SyncReceipt) (outbox : Bool) : ∃ d,
      s.writeTxs w rows receipts outbox = ⟨d, s.server, .writing rows receipts outbox false⟩ ∧
        PerTransaction (Desktop.InventoryTransaction.settle (txStatusUpdates w.js receipts rows))
          s.desktop d := by
  obtain ⟨d, hd, hper⟩ := Desktop.eval_updateTransactionSyncStatuses
    (txStatusUpdates w.js receipts rows) s.desktop
  refine ⟨d, ?_, hper⟩
  unfold State.writeTxs
  rw [hd]

theorem Aligned.writeTxs {rows : List OutboxEvent} {receipts : List Server.SyncReceipt}
    {outbox : Bool} (h : Aligned M w s)
    (hp : s.phase = .writing rows receipts outbox true) :
    Aligned M w (s.writeTxs w rows receipts outbox) := by
  obtain ⟨hlasting, hledger, htidy, hheld, hdistinct, hans, hfine⟩ := h
  rw [hp] at hheld hdistinct hans hfine
  obtain ⟨d, hs, hper⟩ := writeTxs_eq w s rows receipts outbox
  have hflying : (Phase.writing rows receipts outbox false).flying =
      (Phase.writing rows receipts outbox true).flying := by
    cases outbox <;> rfl
  have hstatus : ∀ u ∈ txStatusUpdates w.js receipts rows, u.syncStatus = .synced := by
    intro u hu
    obtain ⟨x, hx, hxu⟩ := List.mem_filterMap.1 hu
    obtain ⟨_, hout⟩ := outcome_accepted w.js (hans x hx)
    rw [hout] at hxu
    cases hxu
    rfl
  have hcases := Desktop.settle_cases hstatus
  have hsynced : ∀ r : Desktop.InventoryTransaction, r.syncStatus = .synced → Synced r := by
    intro r hr
    rw [Synced, hr]
    decide
  rw [hs]
  refine ⟨hlasting, hledger, tidy_perTransaction htidy hper (Desktop.sameMovement_settle _)
    fun _ => trivial, fun x hx => ?_, ?_, hans, fun t ht => ?_⟩
  · obtain ⟨e, he, hid⟩ := hheld x (hflying ▸ hx)
    exact ⟨e, by rw [hper.outbox, he], hid⟩
  · rw [hflying]
    exact hdistinct
  · have hnew := (hfine t ht).writeTxs (Desktop.sameMovement_settle
      (txStatusUpdates w.js receipts rows)) (fun r hr => ?_) fun r hr hany => ?_
    · rw [← hper.transactions, ← hper.outbox] at hnew
      exact hnew
    · rcases hcases r with hs | ⟨hs, -⟩
      · exact hsynced _ hs
      · rw [Synced, hs]
        exact hr
    · have hid : r.transactionId = t := Table.key_of_get? hr
      refine hsynced _ ((hcases r).resolve_right ?_)
      rintro ⟨-, hnone⟩
      obtain ⟨y, hy, hyt⟩ := hany
      obtain ⟨acceptedAt, hout⟩ := outcome_accepted w.js (hans y hy)
      have hmem : ⟨y.payload.transactionId, .synced, acceptedAt⟩ ∈ txStatusUpdates w.js receipts rows :=
        List.mem_filterMap.2 ⟨y, hy, by rw [hout]⟩
      exact hnone _ hmem (hyt.trans hid.symm)

theorem Aligned.finish {rows : List OutboxEvent} {receipts : List Server.SyncReceipt}
    (h : Aligned M w s) (hp : s.phase = .writing rows receipts false false) :
    Aligned M w { s with phase := .idle } := by
  obtain ⟨hlasting, hledger, htidy, -, -, -, hfine⟩ := h
  rw [hp] at hfine
  exact ⟨hlasting, hledger, htidy, fun _ hx => absurd hx List.not_mem_nil, List.nodup_nil, trivial,
    fun t ht => (hfine t ht).finish⟩

end Sync.Flight
