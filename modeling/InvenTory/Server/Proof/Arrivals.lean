import InvenTory.Server.Proof.Acceptance
import InvenTory.Server.Proof.Answers

/-!
# What an accepted batch leaves in the ledger

An accepted payload is inserted, or it edits the row of its id (`Submission.next`). A batch of plain
payloads whose items are all accepted has done this with each of them, in processing order, and nothing
else (`push_arrivals`).
-/

namespace Server

open Relational Sql Sql.Prog

variable {py : Python} {c : IngestPrefetch} {i : Nat} {s : Submission} {items : List Item}
  {db db' : Db} {t : String}

/-- The ledger row that an accepted payload leaves, given the row with its id. -/
def Submission.next (s : Submission) : Option InventoryTransaction → InventoryTransaction
  | none => s.payload.ledgerRow s.env
  | some row => if row.quantityDelta ≠ s.payload.quantityDelta then row.edit s.payload else row

/-- The row with the id `t` after `subs` have been accepted in turn. -/
def arrivals (t : String) (o : Option InventoryTransaction) (subs : List Submission) :
    Option InventoryTransaction :=
  subs.foldl (fun o s => if s.id = t then some (s.next o) else o) o

theorem arrivals_cons (o : Option InventoryTransaction) (s : Submission) (subs : List Submission) :
    arrivals t o (s :: subs) = arrivals t (if s.id = t then some (s.next o) else o) subs := rfl

@[simp] theorem next_quantityDelta (o : Option InventoryTransaction) :
    (s.next o).quantityDelta = s.payload.quantityDelta := by
  unfold Submission.next
  split
  · rfl
  · split
    · rfl
    · rename_i he
      exact not_not.1 he

theorem next_of_same {row : InventoryTransaction} (h : row.quantityDelta = s.payload.quantityDelta) :
    s.next (some row) = row := if_neg (not_not.2 h)

/-! ## One item -/

/-- The ledger after an item is what it was, but for the row of an item that is accepted. -/
def Arrives (s : Submission) (r : SyncReceipt) (db db' : Db) : Prop :=
  ∀ id, db'.ledger.get? id =
    if s.id = id ∧ r.accepted = true then some (s.next (db.ledger.get? id)) else db.ledger.get? id

theorem arrives_refused {r : SyncReceipt} (hl : db'.ledger = db.ledger) (hr : r.accepted = false) :
    Arrives s r db db' := by
  intro id
  rw [hl, if_neg]
  rintro ⟨-, ha⟩
  rw [hr] at ha
  cases ha

/-- The row of an id that the ledger has is edited. -/
theorem arrives_known {row : InventoryTransaction} {r : SyncReceipt}
    (hrow : db.ledger.get? s.id = some row) (hr : r.accepted = true)
    (hl : db'.ledger = if row.quantityDelta ≠ s.payload.quantityDelta then
      db.ledger.put (row.edit s.payload) else db.ledger) : Arrives s r db db' := by
  have hkey : key row = s.id := Table.key_of_get? hrow
  change key (row.edit s.payload) = s.id at hkey
  intro id
  by_cases hid : s.id = id
  · subst hid
    rw [if_pos ⟨rfl, hr⟩, hrow, hl, Submission.next]
    split
    · rw [Table.get?_put, if_pos hkey]
    · exact hrow
  · rw [if_neg fun h => hid h.1, hl]
    split
    · exact Table.get?_put_of_ne _ (hkey ▸ hid)
    · rfl

theorem arrives_inserted (h : Inserted s.env s.payload db db') {r : SyncReceipt}
    (hr : r.accepted = true) : Arrives s r db db' := by
  intro id
  have hkey : key (s.payload.ledgerRow s.env) = s.id := rfl
  have hnew : db.ledger.get? s.id = none := h.new
  rw [h.ledger]
  by_cases hid : s.id = id
  · subst hid
    rw [Table.get?_put, if_pos hkey, if_pos ⟨rfl, hr⟩, hnew]
    rfl
  · rw [Table.get?_put_of_ne _ (hkey ▸ hid), if_neg fun hs => hid hs.1]

/-- **An item of a plain payload**, when nothing fails. -/
theorem item_arrives (hpy : py.Conforms) (hs : Plain s) (h : Lasting db)
    (ht : Tracks c ((i, s) :: items) db) : ∃ r db',
      (ingestItem py c s).eval db = (.ok (r, c.record s.payload r), db') ∧ r.transactionId = s.id ∧
        Lasting db' ∧ Tracks (c.record s.payload r) items db' ∧ Arrives s r db db' := by
  have hg := h.grasp ht
  rcases hi : (ingestItem py c s).eval db with ⟨res, db'⟩
  obtain ⟨r, rfl, ht'⟩ := turn_tracks ht hi
  cases hrow : db.ledger.get? s.id with
  | some row =>
    obtain ⟨r', w, hw, hacc, hr, hedit⟩ := eval_ingestItem_known py h.sound ht hrow
    have hspares := spares_known h hg (by rw [hrow]; rfl) hi
    rw [hw] at hi
    cases hi
    obtain ⟨-, hl, -, -⟩ := editLedgerRow_ok (yields_of_eval (F := noFault) hedit)
    exact ⟨_, _, rfl, Table.key_of_get? hr, hspares.lasting, ht', arrives_known hrow hacc hl⟩
  | none =>
    have hout : ∀ e, noFault e → isInventoryTransactionsPkeyCollision e = false := fun _ he => he.elim
    have hspares := spares_new hpy hs h hg hrow (yields_of_eval hi)
    refine ⟨r, db', rfl, ?_⟩
    suffices hr : r.transactionId = s.id ∧ Arrives s r db db' from
      ⟨hr.1, hspares.lasting, ht', hr.2⟩
    cases turn (yields_of_eval (F := noFault) hi) with
    | raised hexc hacc honly hst =>
      refine ⟨Table.key_of_get? (hst.resolve_left fun ⟨_, he⟩ => he), arrives_refused honly.ledger ?_⟩
      rw [hacc, ← Bool.not_eq_true]
      intro hcol
      obtain ⟨cn, hcn⟩ := hexc.resolve_left id
      have hsome := collision_ledger hpy hout hs h.clean hcn hcol
      rw [show db.ledger.get? s.payload.transactionId = none from hrow] at hsome
      cases hsome
    | handled hd =>
      cases hd with
      | ledger hsome =>
        rw [show db.ledger.get? s.payload.transactionId = none from hrow] at hsome
        cases hsome
      | receipt hr =>
        exact ⟨Table.key_of_get? (ht.stored hr), arrives_refused rfl (grasp_not_accepted h hg hrow hr)⟩
      | rejected hl _ _ => exact ⟨rfl, arrives_refused hl rfl⟩
      | inserted hi => exact ⟨rfl, arrives_inserted hi rfl⟩

/-! ## A batch -/

theorem items_arrivals (hpy : py.Conforms) : ∀ {items : List Item} {c : IngestPrefetch} {db : Db},
    (∀ x ∈ items, Plain x.2) → Lasting db → Tracks c items db → ∃ rs db',
      (ingestItems py c items).eval db = (.ok rs, db') ∧ Lasting db' ∧ Answered items rs ∧
        ((∀ y ∈ rs, y.2.accepted = true) → ∀ t,
          db'.ledger.get? t = arrivals t (db.ledger.get? t) (items.map Prod.snd))
  | [], _, db, _, h, _ => ⟨[], db, rfl, h, .nil, fun _ _ => rfl⟩
  | (i, s) :: rest, c, db, hs, h, ht => by
    rw [List.forall_mem_cons] at hs
    obtain ⟨r, db1, hr, hid, h1, ht1, harr⟩ := item_arrives hpy hs.1 h ht
    obtain ⟨rs, db2, hrs, h2, hans, hrest⟩ := items_arrivals hpy hs.2 h1 ht1
    refine ⟨(i, r) :: rs, db2, ?_, h2, .cons ⟨rfl, hid⟩ hans, fun hacc t => ?_⟩
    · unfold ingestItems
      rw [eval_bind_ok hr]
      change (ingestItems py (c.record s.payload r) rest >>= _).eval db1 = _
      rw [eval_bind_ok hrs]
      rfl
    · rw [List.forall_mem_cons] at hacc
      have hr : r.accepted = true := hacc.1
      rw [hrest hacc.2, harr, List.map_cons, arrivals_cons]
      simp only [hr, and_true]

/-- **A batch of plain payloads** answers them all. Where every answer is an acceptance, the ledger is
that of the arrivals. -/
theorem push_arrivals (hpy : py.Conforms) {subs : List Submission} (hsort : Sortable subs)
    (hs : ∀ s ∈ subs, Plain s) (h : Lasting db) : ∃ rs, (push py db subs).1 = .ok rs ∧
      Lasting (push py db subs).2 ∧ (∀ s ∈ subs, ∃ r ∈ rs, r.transactionId = s.id) ∧
        ((∀ r ∈ rs, r.accepted = true) → ∀ t, (push py db subs).2.ledger.get? t =
          arrivals t (db.ledger.get? t) (processed subs)) := by
  have hmem : ∀ x ∈ ordered subs, x.2 ∈ subs := fun x hx =>
    (processed_perm subs).mem_iff.1 (List.mem_map_of_mem hx)
  obtain ⟨rs, db', hrs, h', hans, harr⟩ := items_arrivals hpy (fun x hx => hs _ (hmem x hx)) h
    (tracks_ordered subs db)
  have hfst : rs.map Prod.fst = (ordered subs).map Prod.fst := by
    rw [← List.forall₂_eq_eq_eq, List.forall₂_map_left_iff, List.forall₂_map_right_iff]
    exact hans.flip.imp fun _ _ h => h.1
  have hplaces : (rs.map Prod.fst).Perm (List.range subs.length) := by
    rw [hfst, ← enumerate_fst]
    exact (ordered_perm subs).map _
  rw [eval_push hsort hrs]
  refine ⟨_, rfl, h', fun s hmem => ?_, fun hacc => ?_⟩
  · obtain ⟨x, hx, rfl⟩ := List.mem_map.1 ((processed_perm subs).mem_iff.2 hmem)
    obtain ⟨⟨j, r⟩, hr, hid⟩ := hans.mem hx
    exact ⟨r, (mem_receiptsByIndex hplaces).2 ⟨j, hr⟩, hid⟩
  · exact harr fun y hy => hacc y.2 ((mem_receiptsByIndex hplaces).2 ⟨y.1, hy⟩)

/-! ## The row at the end -/

theorem arrivals_other {o : Option InventoryTransaction} {subs : List Submission}
    (h : ∀ s ∈ subs, s.id ≠ t) : arrivals t o subs = o := by
  induction subs generalizing o with
  | nil => rfl
  | cons s subs ih =>
    rw [List.forall_mem_cons] at h
    rw [arrivals_cons, if_neg h.1]
    exact ih h.2

theorem arrivals_filter (o : Option InventoryTransaction) (subs : List Submission) :
    arrivals t o (subs.filter (·.id = t)) = arrivals t o subs := by
  induction subs generalizing o with
  | nil => rfl
  | cons s subs ih =>
    rw [arrivals_cons, List.filter_cons]
    by_cases hs : s.id = t
    · simp only [hs, decide_true, if_true, arrivals_cons, ih]
    · simp only [hs, decide_false, Bool.false_eq_true, if_false, ih]

/-- One payload of `t` in a batch, in whatever place. -/
theorem arrivals_one {o : Option InventoryTransaction} {subs : List Submission}
    (h : subs.filter (·.id = t) = [s]) : arrivals t o (processed subs) = some (s.next o) := by
  have hperm := (processed_perm subs).filter (·.id = t)
  rw [h, List.perm_singleton] at hperm
  have hs : s ∈ subs.filter (·.id = t) := h ▸ List.mem_singleton_self s
  rw [← arrivals_filter, hperm, arrivals_cons,
    if_pos (of_decide_eq_true (List.mem_filter.1 hs).2)]
  rfl

section
variable {Q : InventoryTransaction → Prop} {o : Option InventoryTransaction} {subs : List Submission}
  (hQ : ∀ s ∈ subs, s.id = t → ∀ o, Q (s.next o))
include hQ

/-- What the payloads of `t` bring about holds of its row, if it held before. -/
theorem arrivals_all (h : ∀ row, o = some row → Q row) :
    ∀ row, arrivals t o subs = some row → Q row := by
  induction subs generalizing o with
  | nil => exact h
  | cons s subs ih =>
    rw [List.forall_mem_cons] at hQ
    rw [arrivals_cons]
    refine ih hQ.2 fun row hrow => ?_
    split at hrow
    · rename_i hid
      cases hrow
      exact hQ.1 hid o
    · exact h row hrow

/-- And whatever held before, if there is one. -/
theorem arrivals_hit (hex : ∃ s ∈ subs, s.id = t) : ∀ row, arrivals t o subs = some row → Q row := by
  induction subs generalizing o with
  | nil =>
    obtain ⟨s, hs, -⟩ := hex
    cases hs
  | cons s subs ih =>
    have hQ' := hQ
    rw [List.forall_mem_cons] at hQ'
    rw [arrivals_cons]
    split
    · rename_i hid
      refine arrivals_all hQ'.2 fun row hrow => ?_
      cases hrow
      exact hQ'.1 hid o
    · rename_i hid
      refine ih hQ'.2 ?_
      obtain ⟨s', hs', ht'⟩ := hex
      rcases List.mem_cons.1 hs' with rfl | hs'
      · exact absurd ht' hid
      · exact ⟨s', hs', ht'⟩

end

end Server
