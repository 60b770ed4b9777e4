import InvenTory.Server.Proof.Known
import InvenTory.Server.Proof.Convergence
import InvenTory.Server.Proof.Integrity

/-!
# Calls without faults

Every call on a sound database answers all of its items and leaves a sound database
(`items_sound`, `push_sound`). `Served` is a server after any number of calls. A call with one payload whose id the ledger holds
leaves the row with the quantity of the payload (`push_known`).
-/

namespace Server

open Relational Sql Sql.Prog

variable {py : Python}

variable (py) in
theorem items_sound : ∀ {items : List Item} {c : IngestPrefetch} {db : Db}, Sound db →
    Tracks c items db → ∃ rs db', (ingestItems py c items).eval db = (.ok rs, db') ∧ Sound db'
  | [], _, db, hs, _ => ⟨[], db, rfl, hs⟩
  | (i, s) :: rest, c, db, hs, ht => by
    rcases h1 : (ingestItem py c s).eval db with ⟨res, db1⟩
    obtain ⟨r, rfl, hs1, ht1⟩ := turn_sound hs ht h1
    obtain ⟨rs, db2, h2, hs2⟩ := items_sound hs1 ht1
    refine ⟨(i, r) :: rs, db2, ?_, hs2⟩
    unfold ingestItems
    rw [eval_bind_ok h1]
    change (ingestItems py (c.record s.payload r) rest >>= _).eval db1 = _
    rw [eval_bind_ok h2]
    rfl

/-- The cache that a batch starts with tracks its items. -/
theorem tracks_ordered (subs : List Submission) (db : Db) :
    Tracks (.loaded (subs.map (·.payload)) db) (ordered subs) db :=
  tracks_loaded db fun _ hx =>
    List.mem_map_of_mem ((processed_perm subs).mem_iff.1 (List.mem_map_of_mem hx))

theorem push_sound {db : Db} (hs : Sound db) (subs : List Submission) :
    Sound (push py db subs).2 := by
  by_cases hsort : Sortable subs
  · obtain ⟨rs, db', h, hs'⟩ := items_sound py hs (tracks_ordered subs db)
    rw [eval_push hsort h]
    exact hs'
  · rw [push_unsortable hsort]
    exact hs

/-- A server that started with an empty ledger and answered calls without faults. -/
inductive Served (py : Python) : Db → Prop
  | start {db : Db} (h : EmptyLedger db) : Served py db
  | call {db : Db} (h : Served py db) (subs : List Submission) : Served py (push py db subs).2

namespace Served

variable {db : Db}

theorem sound (h : Served py db) : Sound db := by
  induction h with
  | start h => exact h.sound
  | call _ subs ih => exact push_sound ih subs

theorem serving (h : Served py db) : Serving noFault py anyItem db none := by
  induction h with
  | start h => exact .start h
  | call _ subs ih => exact serving_batch (fun _ _ => trivial) ih (yields_eval _ _ _)

theorem integral (h : Served py db) : Integral db := h.serving.integral

end Served

/-- A batch of one can be sorted. -/
theorem sortable_singleton (s : Submission) : Sortable [s] := by
  intro a ha b hb _
  rw [List.mem_singleton.1 ha, List.mem_singleton.1 hb]

variable (py) in
/-- **A payload whose id is in the ledger** leaves the row with its quantity. -/
theorem push_known {db : Db} (hs : Sound db) {s : Submission} {row : InventoryTransaction}
    (hrow : db.ledger.get? s.id = some row) : ∃ row', (push py db [s]).2.ledger.get? s.id = some row' ∧
      row'.quantityDelta = s.payload.quantityDelta ∧ row'.stock = row.stock := by
  have ht : Tracks (.loaded [s.payload] db) [(0, s)] db := tracks_ordered [s] db
  obtain ⟨r, w, hw, -, -, hedit⟩ := eval_ingestItem_known py hs ht hrow
  have hitems : (ingestItems py (.loaded [s.payload] db) [(0, s)]).eval db = (.ok [(0, r)], w) := by
    unfold ingestItems
    rw [eval_bind_ok hw]
    rfl
  have hpush : push py db [s] = (.ok (receiptsByIndex 1 [(0, r)]), w) :=
    eval_push (sortable_singleton s) hitems
  obtain ⟨-, hl, -, -⟩ := editLedgerRow_ok (yields_of_eval (F := noFault) hedit)
  rw [hpush]
  by_cases hne : row.quantityDelta ≠ s.payload.quantityDelta
  · have hrow' : key row = s.id := Table.key_of_get? hrow
    have hkey : key (row.edit s.payload) = s.id := hrow'
    refine ⟨row.edit s.payload, ?_, rfl, rfl⟩
    rw [hl, if_pos hne, Table.get?_put, if_pos hkey]
  · refine ⟨row, ?_, not_not.1 hne, rfl⟩
    rw [hl, if_neg hne]
    exact hrow

end Server
