import InvenTory.Sync.Run
import InvenTory.Server.Proof.Run

/-!
# Late copies of a push

A push that the client gave up on may still be processed, any number of times. The payload has no
version: the server takes the quantity of whatever copy comes last for the newest one
(`late_copies_iff`, `late_copy_reverts`).
-/

namespace Server

open Relational Sql Sql.Prog

variable {py : Python}

/-! ## The databases on the way -/

/-- The databases after each item of a batch; an exception ends the batch. -/
def trail (py : Python) : IngestPrefetch → List Item → Db → List Db
  | _, [], _ => []
  | c, (_, s) :: rest, db =>
    match (ingestItem py c s).eval db with
    | (.ok (_, c'), db') => db' :: trail py c' rest db'
    | (.error _, db') => [db']

/-- The databases after each item of a request. -/
def pushTrail (py : Python) (db : Db) (subs : List Submission) : List Db :=
  if Sortable subs then trail py (.loaded (subs.map (·.payload)) db) (ordered subs) db else []

/-- The databases after each item of a sequence of requests. -/
def pushTrails (py : Python) : Db → List (List Submission) → List Db
  | _, [] => []
  | db, subs :: rest => pushTrail py db subs ++ pushTrails py (push py db subs).2 rest

/-- The ledger row of the payload has its quantity. -/
def Holds (db : Db) (p : TransactionPayload) : Prop :=
  (db.ledger.get? p.transactionId).map (·.quantityDelta) = some p.quantityDelta

instance (db : Db) (p : TransactionPayload) : Decidable (Holds db p) := by
  unfold Holds
  infer_instance

/-! ## One item -/

variable {c : IngestPrefetch} {i : Nat} {s : Submission} {items : List Item} {db db' : Db}

/-- A turn leaves the ledger rows of the other ids alone. -/
theorem Turn.ledgerElse {F : Exn → Prop} {res : Except Exn (SyncReceipt × IngestPrefetch)}
    (h : Turn F py c s db res db') {id : String} (hne : id ≠ s.id) :
    db'.ledger.get? id = db.ledger.get? id := by
  cases h with
  | raised _ _ ho _ => rw [ho.ledger]
  | aborted _ => rfl
  | handled hd =>
    cases hd with
    | receipt _ => rfl
    | rejected hl _ _ => rw [hl]
    | inserted hi _ =>
      have hkey : key (s.payload.ledgerRow s.env) = s.id := rfl
      rw [hi.ledger, Table.get?_put_of_ne _ (hkey ▸ Ne.symm hne)]
    | @ledger row _ _ hrow hl _ _ _ _ =>
      have hid : key row = s.id := Table.key_of_get? hrow
      have hkey : key (row.edit s.payload) = s.id := hid
      rw [hl]
      split
      · rw [Table.get?_put_of_ne _ (hkey ▸ Ne.symm hne)]
      · rfl

variable (py) in
/-- An item whose id is in the ledger leaves its own quantity there. -/
theorem holds_item (hs : Sound db) (ht : Tracks c ((i, s) :: items) db)
    (hrow : (db.ledger.get? s.id).isSome) : Holds ((ingestItem py c s).eval db).2 s.payload := by
  obtain ⟨row, hrow⟩ := Option.isSome_iff_exists.1 hrow
  obtain ⟨r, w, hw, -, -, hedit⟩ := eval_ingestItem_known py hs ht hrow
  obtain ⟨-, hl, -, -⟩ := editLedgerRow_ok (yields_of_eval (F := noFault) hedit)
  have hl : w.ledger = if row.quantityDelta ≠ s.payload.quantityDelta then
      db.ledger.put (row.edit s.payload) else db.ledger := hl
  rw [hw]
  unfold Holds
  rw [hl]
  split
  · have hid : key row = s.payload.transactionId := Table.key_of_get? hrow
    have hkey : key (row.edit s.payload) = s.payload.transactionId := hid
    rw [← hkey, Table.get?_put_self]
    rfl
  · rename_i heq
    rw [show db.ledger.get? s.payload.transactionId = some row from hrow]
    exact congrArg some (not_not.1 heq)

/-! ## Requests -/

variable {p : TransactionPayload}

theorem Holds.isSome (h : Holds db p) : (db.ledger.get? p.transactionId).isSome := by
  obtain ⟨row, hrow, -⟩ := Option.map_eq_some_iff.1 h
  rw [hrow]
  rfl

/-- Two payloads of one id are both held only if they have one quantity. -/
theorem Holds.quantity_eq {q : TransactionPayload} (h : Holds db p) (hq : Holds db q)
    (hid : q.transactionId = p.transactionId) : q.quantityDelta = p.quantityDelta := by
  unfold Holds at h hq
  rw [hid, h] at hq
  exact (Option.some.inj hq).symm

theorem Holds.congr {q : TransactionPayload} (hq : Holds db q)
    (hid : q.transactionId = p.transactionId) (hd : q.quantityDelta = p.quantityDelta) :
    Holds db p := by
  unfold Holds at hq ⊢
  rw [← hid, ← hd]
  exact hq

variable (py) in
/-- The item leaves the quantity of `p` as long as it is not a copy with another one. -/
theorem holds_turn_iff (hs : Sound db) (ht : Tracks c ((i, s) :: items) db) (h : Holds db p) :
    Holds ((ingestItem py c s).eval db).2 p ↔
      (s.id = p.transactionId → s.payload.quantityDelta = p.quantityDelta) := by
  by_cases hid : s.id = p.transactionId
  · have hitem := holds_item py hs ht (hid ▸ h.isSome)
    exact ⟨fun hp _ => hp.quantity_eq hitem hid, fun hd => hitem.congr hid (hd hid)⟩
  · have hturn := turn (yields_eval noFault (ingestItem py c s) db)
    refine ⟨fun _ he => absurd he hid, fun _ => ?_⟩
    unfold Holds
    rw [hturn.ledgerElse (Ne.symm hid)]
    exact h

theorem trail_holds_iff : ∀ {items : List Item} {c : IngestPrefetch} {db : Db}, Sound db →
    Tracks c items db → Holds db p → ((∀ d ∈ trail py c items db, Holds d p) ↔
      ∀ x ∈ items, x.2.id = p.transactionId → x.2.payload.quantityDelta = p.quantityDelta)
  | [], _, _, _, _, _ => ⟨fun _ _ hx => (List.not_mem_nil hx).elim,
      fun _ _ hd => (List.not_mem_nil hd).elim⟩
  | (i, s) :: rest, c, db, hs, ht, h => by
    rcases hi : (ingestItem py c s).eval db with ⟨res, db1⟩
    obtain ⟨r, rfl, hs1, ht1⟩ := turn_sound hs ht hi
    have hturn := holds_turn_iff py hs ht h
    rw [hi] at hturn
    have htrail : trail py c ((i, s) :: rest) db =
        db1 :: trail py (c.record s.payload r) rest db1 := by
      rw [trail, hi]
    rw [htrail, List.forall_mem_cons, List.forall_mem_cons]
    constructor
    · rintro ⟨h1, hrest⟩
      exact ⟨hturn.1 h1, (trail_holds_iff hs1 ht1 h1).1 hrest⟩
    · rintro ⟨hd, hrest⟩
      have h1 : Holds db1 p := hturn.2 hd
      exact ⟨h1, (trail_holds_iff hs1 ht1 h1).2 hrest⟩

/-- The last database of a trail is the one that the batch leaves. -/
theorem trail_last {P : Db → Prop} : ∀ {items : List Item} {c : IngestPrefetch} {db : Db}, P db →
    (∀ d ∈ trail py c items db, P d) → P ((ingestItems py c items).eval db).2
  | [], _, _, h, _ => h
  | (i, s) :: rest, c, db, h, hall => by
    unfold trail at hall
    unfold ingestItems
    rw [eval_bind]
    rcases hi : (ingestItem py c s).eval db with ⟨_ | ⟨r, c'⟩, db1⟩ <;> rw [hi] at hall
    · exact hall db1 List.mem_cons_self
    · simp only [List.forall_mem_cons] at hall
      have hlast := trail_last hall.1 hall.2
      change P ((ingestItems py c' rest >>= fun rs => pure ((i, r) :: rs)).eval db1).2
      rw [eval_bind]
      rcases hr : (ingestItems py c' rest).eval db1 with ⟨_ | rs, db2⟩ <;> rw [hr] at hlast
      · exact hlast
      · exact hlast

variable (py) in
theorem pushTrail_holds_iff (subs : List Submission) (hs : Sound db) (h : Holds db p) :
    (∀ d ∈ pushTrail py db subs, Holds d p) ↔
      (Sortable subs → ∀ s ∈ subs, s.id = p.transactionId →
        s.payload.quantityDelta = p.quantityDelta) := by
  unfold pushTrail
  split
  · rename_i hsort
    rw [trail_holds_iff hs (tracks_ordered subs db) h]
    constructor
    · intro hall _ s hs'
      obtain ⟨x, hx, rfl⟩ := List.mem_map.1 ((processed_perm subs).mem_iff.2 hs')
      exact hall x hx
    · intro hall x hx
      exact hall hsort x.2 ((processed_perm subs).mem_iff.1 (List.mem_map_of_mem hx))
  · rename_i hsort
    exact ⟨fun _ h => absurd h hsort, fun _ d hd => (List.not_mem_nil hd).elim⟩

theorem pushTrail_last {P : Db → Prop} {subs : List Submission} (h : P db)
    (hall : ∀ d ∈ pushTrail py db subs, P d) : P (push py db subs).2 := by
  unfold pushTrail at hall
  split at hall
  · rename_i hsort
    have hlast := trail_last h hall
    unfold push ingestBatch
    rw [if_pos hsort, eval_bind_ok (eval_reading_load ..), eval_bind]
    rcases hi : (ingestItems py (.loaded (subs.map (·.payload)) db) (ordered subs)).eval db with
      ⟨_ | rs, db1⟩ <;> rw [hi] at hlast ⊢
    · exact hlast
    · exact hlast
  · rename_i hsort
    rw [push_unsortable hsort]
    exact h

/-- **When the newest edit is kept.** Once its payload has been processed, the requests `late`
leave the quantity of the row alone exactly if none of them has a copy with another one. -/
theorem late_copies_iff : ∀ {late : List (List Submission)} {db : Db}, Served py db →
    Holds db p → ((∀ d ∈ pushTrails py db late, Holds d p) ↔
      ∀ subs ∈ late, Sortable subs → ∀ s ∈ subs, s.id = p.transactionId →
        s.payload.quantityDelta = p.quantityDelta)
  | [], _, _, _ => ⟨fun _ _ hx => (List.not_mem_nil hx).elim,
      fun _ _ hd => (List.not_mem_nil hd).elim⟩
  | subs :: rest, db, hs, h => by
    have hpush := pushTrail_holds_iff py subs hs.sound h
    rw [pushTrails, List.forall_mem_append, List.forall_mem_cons]
    constructor
    · rintro ⟨h1, hrest⟩
      exact ⟨hpush.1 h1, (late_copies_iff (hs.call subs) (pushTrail_last h h1)).1 hrest⟩
    · rintro ⟨hd, hrest⟩
      have h1 := hpush.2 hd
      exact ⟨h1, (late_copies_iff (hs.call subs) (pushTrail_last h h1)).2 hrest⟩

end Server

namespace Sync

open Server (pushTrails)

namespace Sample

/-- The movement `TX-1` edited to seven after it was pushed. -/
def edited : Desktop.Db :=
  ((Desktop.updateTransaction (clock 2 5) (edit "TX-1" 7)).eval pushed.desktop).2

/-- The request that a push of the event of `TX-1` makes. -/
def wired (d : Desktop.Db) : List Server.Submission :=
  request 1 (fun _ => Server.Sample.env) (d.outbox.get? "EVT-TX-1").toList

/-- The server after the first payload of `TX-1` and after its edit. -/
def central : Server.Db :=
  (Server.pushAll setting.py .empty [wired received, wired edited]).2

/-- The payload of the edit. -/
def newest : Server.TransactionPayload := (Server.Sample.movement "TX-1" "RECEIPT" 7 0).payload

end Sample

/-- Copies of the newest payload do no harm, whenever they come. -/
theorem late_copies_newest : Server.Served Sample.setting.py Sample.central ∧
    ∀ d ∈ pushTrails Sample.setting.py Sample.central
      [Sample.wired Sample.edited, Sample.wired Sample.edited], Server.Holds d Sample.newest := by
  have hs : Server.Served Sample.setting.py Sample.central :=
    ((Server.Served.start Server.Sample.empty).call _).call _
  refine ⟨hs, (Server.late_copies_iff hs (by decide)).2 ?_⟩
  decide

/-- The first payload, processed again after the edit, takes the edit back. -/
theorem late_copy_reverts :
    (Sample.wired Sample.edited).map (·.payload.quantityDelta) = [7] ∧
      Server.Holds Sample.central Sample.newest ∧
      ¬ ∀ d ∈ pushTrails Sample.setting.py Sample.central [Sample.wired Sample.received],
        Server.Holds d Sample.newest := by
  decide

end Sync
