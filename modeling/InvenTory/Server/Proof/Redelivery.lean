import InvenTory.Server.Proof.Cache
import InvenTory.Server.Proof.Convergence
import InvenTory.Lib.Sort

/-!
# Delivering a payload again

Some items of a sequence of batches are further copies of payloads that were accepted before. The
run with the copies and the run without them end in the same database and give the same answers,
and the copies are accepted (`redelivery_harmless`), provided the batches with copies can be sorted
and no copy misleads a later item of its batch (`Harmless`): the cache takes every id that a copy
names to exist, which fails for a copy that was accepted for its transaction id alone
(`copy_misleads`).

The copies stay in step by `eval_ingestItem_copy`, the other items by `eval_ingestItem_agree`.
-/

namespace Server

open Relational Sql Sql.Prog

variable {py : Python}

/-- An item of a request, marked if it is a further copy. -/
structure Delivery where
  copy : Bool
  submission : Submission
  deriving DecidableEq, Repr

/-- The batch with its copies. -/
def delivered (batch : List Delivery) : List Submission := batch.map Delivery.submission

/-- The batch without its copies. -/
def originals (batch : List Delivery) : List Submission :=
  (batch.filter (!·.copy)).map Delivery.submission

def marks (batch : List Delivery) : List Bool := batch.map Delivery.copy

/-- The loop over `items` without the copies, from the cache `c` and the database `db`. Each copy
meets a ledger row with its quantity; no other item is misled by the payloads `known` that were
copied before it. -/
def Harmless (py : Python) (copy : Nat → Bool) :
    IngestPrefetch → List TransactionPayload → Db → List Item → Prop
  | _, _, _, [] => True
  | c, known, db, x :: rest =>
    if copy x.1 then
      (db.ledger.get? x.2.id).map (·.quantityDelta) = some x.2.payload.quantityDelta ∧
        Harmless py copy c (x.2.payload :: known) db rest
    else
      ¬ Misled py c known db x.2.payload ∧ ∀ r c1 db1,
        (ingestItem py c x.2).eval db = (.ok (r, c1), db1) → Harmless py copy c1 known db1 rest

/-- A batch with copies can be sorted, and its copies are harmless. -/
def HarmlessBatch (py : Python) (db : Db) (batch : List Delivery) : Prop :=
  (∃ d ∈ batch, d.copy = true) → Sortable (delivered batch) ∧
    Harmless py (Places.dropped (marks batch)) (.loaded ((originals batch).map (·.payload)) db) [] db
      (ordered (delivered batch))

/-- The calls without the copies, one batch after the other. -/
def HarmlessRun (py : Python) : Db → List (List Delivery) → Prop
  | _, [] => True
  | db, batch :: rest => HarmlessBatch py db batch ∧
    HarmlessRun py (push py db (originals batch)).2 rest

/-- The answers to a batch with copies, and to the batch without: the copies are accepted, and the
other receipts are the same. -/
def SameAnswers (batch : List Delivery) :
    Except Exn (List SyncReceipt) → Except Exn (List SyncReceipt) → Prop
  | .ok rs, .ok rs0 => rs.length = batch.length ∧ rs0 = Places.keep (marks batch) rs ∧
    ∀ x ∈ batch.zip rs, x.1.copy = true → x.2.accepted = true
  | .error e, .error e0 => e = e0 ∧ ∀ d ∈ batch, d.copy = false
  | _, _ => False

/-! ## The caches of the two loops -/

namespace Agree

variable {c c' : IngestPrefetch} {known : List TransactionPayload} {p q : TransactionPayload}
  {r : SyncReceipt}

/-- Both caches record the same item. -/
theorem record (h : Agree c c' known p) : Agree (c.record q r) (c'.record q r) known p := by
  have hcons : ∀ {small big names : List String} {id : String} (b : Prop) [Decidable b] (x : String),
      Extends small big names id →
      Extends (if b then x :: small else small) (if b then x :: big else big) names id := by
    intro small big names id b _ x he
    split
    · constructor
      · intro hm
        exact List.mem_cons.2 ((List.mem_cons.1 hm).imp_right he.mono)
      · intro hm
        rcases List.mem_cons.1 hm with rfl | hm
        · exact .inl List.mem_cons_self
        · exact (he.more hm).imp_left (List.mem_cons_of_mem _)
    · exact he
  refine ⟨?_, ?_, hcons _ _ h.store, hcons _ _ h.product, hcons _ _ h.device⟩
  · simp only [IngestPrefetch.record]
    split
    · simp only [List.mem_cons, h.ledger]
    · exact h.ledger
  · by_cases hq : p.transactionId = q.transactionId
    · simp [IngestPrefetch.record, hq]
    · simp [IngestPrefetch.record, Function.update_of_ne hq, h.receipt]

/-- Only the second cache records the copy `q`, which the ledger holds. -/
theorem copy (h : Agree c c' known p) (hq : q.transactionId ∈ c'.ledgerTxIds)
    (hr : c'.receiptByTx q.transactionId = some r) (hid : r.transactionId = q.transactionId) :
    Agree c (c'.record q r) (q :: known) p := by
  have hcons : ∀ {small big names : List String} {id : String} (b : Prop) [Decidable b] (x : String),
      Extends small big names id → Extends small (if b then x :: big else big) (x :: names) id := by
    intro small big names id b _ x he
    have hmore : id ∈ big → id ∈ small ∨ id ∈ x :: names := fun hm =>
      (he.more hm).imp_right (List.mem_cons_of_mem _)
    split
    · constructor
      · exact fun hm => List.mem_cons_of_mem _ (he.mono hm)
      · intro hm
        rcases List.mem_cons.1 hm with rfl | hm
        · exact .inr List.mem_cons_self
        · exact hmore hm
    · exact ⟨he.mono, hmore⟩
  refine ⟨?_, ?_, hcons _ _ h.store, hcons _ _ h.product, hcons _ _ h.device⟩
  · rw [← h.ledger]
    simp only [IngestPrefetch.record]
    split
    · rw [List.mem_cons]
      constructor
      · rintro (he | hm)
        · exact he ▸ hq
        · exact hm
      · exact .inr
    · rfl
  · have hsame : Function.update c'.receiptByTx q.transactionId
        (some { r with transactionId := q.transactionId }) = c'.receiptByTx := by
      rw [← hid, ← hr, hid]
      exact Function.update_eq_self ..
    rw [← h.receipt]
    exact congrFun hsame _

theorem loaded {ps ps' : List TransactionPayload} (db : Db) (hsub : ∀ x ∈ ps, x ∈ ps')
    (hp : p ∈ ps) : Agree (.loaded ps db) (.loaded ps' db) [] p := by
  have hid : ∀ {α : Type} (f : TransactionPayload → α), f p ∈ ps.map f ∧ f p ∈ ps'.map f :=
    fun f => ⟨List.mem_map_of_mem hp, List.mem_map_of_mem (hsub p hp)⟩
  have hext : ∀ (f : TransactionPayload → String) (b g : String → Bool) (names : List String),
      Extends (((ps.map f).filter b).filter g) (((ps'.map f).filter b).filter g) names (f p) := by
    intro f b g names
    have h1 := (hid f).1
    have h2 := (hid f).2
    constructor
    · intro hm
      simp only [List.mem_filter] at hm ⊢
      exact ⟨⟨h2, hm.1.2⟩, hm.2⟩
    · intro hm
      simp only [List.mem_filter] at hm ⊢
      exact .inl ⟨⟨h1, hm.1.2⟩, hm.2⟩
  refine ⟨?_, ?_, hext _ _ _ _, hext _ _ _ _, hext _ _ _ _⟩
  · simp only [IngestPrefetch.loaded, List.mem_filter, (hid (·.transactionId)).1,
      (hid (·.transactionId)).2]
  · simp only [IngestPrefetch.loaded, (hid (·.transactionId)).1, (hid (·.transactionId)).2, if_true]

end Agree

/-! ## The loop -/

/-- **The two loops stay in step.** -/
theorem eval_ingestItems_harmless (copy : Nat → Bool) : ∀ {items : List Item}
    {c c' : IngestPrefetch} {known : List TransactionPayload} {db : Db},
    Harmless py copy c known db items → Sound db → Tracks c' items db →
    (∀ x ∈ items, copy x.1 = false → Agree c c' known x.2.payload) →
    ∃ rs db', (ingestItems py c' items).eval db = (.ok rs, db') ∧
      (ingestItems py c (items.filter fun x => !copy x.1)).eval db =
        (.ok (rs.filter fun x => !copy x.1), db') ∧ Sound db' ∧
      rs.map Prod.fst = items.map Prod.fst ∧ ∀ x ∈ rs, copy x.1 = true → x.2.accepted = true
  | [], _, _, _, db, _, hs, _, _ => ⟨[], db, rfl, rfl, hs, rfl, fun _ h => (List.not_mem_nil h).elim⟩
  | (i, s) :: rest, c, c', known, db, hh, hs, ht, ha => by
    have htail : ∀ x ∈ rest, x ∈ (i, s) :: rest := fun x hx => List.mem_cons_of_mem _ hx
    unfold Harmless at hh
    cases hcopy : copy i with
    | true =>
      simp only [hcopy, if_true] at hh
      obtain ⟨r, hr, hacc, hst⟩ := eval_ingestItem_copy py hs ht hh.1
      obtain ⟨row, hrow, -⟩ := Option.map_eq_some_iff.1 hh.1
      have hrec := (ht.receipt _ List.mem_cons_self).trans hst
      have hl := ht.ledger _ List.mem_cons_self (by simp [hrow])
      obtain ⟨r', he, -, ht'⟩ := turn_sound hs ht hr
      cases he
      obtain ⟨rs, db', h1, h2, hs', hfst, hacc'⟩ := eval_ingestItems_harmless copy hh.2 hs ht'
        fun x hx hx' => (ha x (htail x hx) hx').copy hl hrec (Table.key_of_get? hst)
      refine ⟨(i, r) :: rs, db', ?_, ?_, hs', by simp [hfst], ?_⟩
      · unfold ingestItems
        rw [eval_bind_ok hr, eval_bind_ok h1]
        rfl
      · simp only [List.filter_cons, hcopy, Bool.not_true, Bool.false_eq_true, if_false]
        exact h2
      · intro x hx hx'
        rcases List.mem_cons.1 hx with rfl | hx
        · exact hacc
        · exact hacc' x hx hx'
    | false =>
      simp only [hcopy, Bool.false_eq_true, if_false] at hh
      have hagree := ha _ List.mem_cons_self hcopy
      rcases hi : (ingestItem py c' s).eval db with ⟨res, db1⟩
      obtain ⟨r, rfl, hs1, ht1⟩ := turn_sound hs ht hi
      have hi0 : (ingestItem py c s).eval db = (.ok (r, c.record s.payload r), db1) := by
        refine eval_ingestItem_agree hagree (fun hsome => ?_) ?_ hh.1 hi
        · exact hagree.ledger.1 (ht.ledger _ List.mem_cons_self hsome)
        · exact hagree.receipt.symm.trans (ht.receipt _ List.mem_cons_self)
      obtain ⟨rs, db', h1, h2, hs', hfst, hacc'⟩ := eval_ingestItems_harmless copy
        (hh.2 _ _ _ hi0) hs1 ht1 fun x hx hx' => (ha x (htail x hx) hx').record
      refine ⟨(i, r) :: rs, db', ?_, ?_, hs', by simp [hfst], ?_⟩
      · unfold ingestItems
        rw [eval_bind_ok hi, eval_bind_ok h1]
        rfl
      · simp only [List.filter_cons, hcopy, Bool.not_false, if_true]
        unfold ingestItems
        rw [eval_bind_ok hi0, eval_bind_ok h2]
        rfl
      · intro x hx hx'
        rcases List.mem_cons.1 hx with rfl | hx
        · rw [hcopy] at hx'
          cases hx'
        · exact hacc' x hx hx'

/-! ## The batch -/

instance : IsTrans Item Item.Le where
  trans := by
    intro a b c h1 h2
    unfold Item.Le TransactionPayload.SortLe at *
    rcases h1 with h1 | ⟨h1, h1' | ⟨h1', h1''⟩⟩ <;> rcases h2 with h2 | ⟨h2, h2' | ⟨h2', h2''⟩⟩
    case inr.inr.inr.inr =>
      exact .inr ⟨h1.trans h2, .inr ⟨h1'.trans h2', String.le_trans h1'' h2''⟩⟩
    all_goals omega

instance : Std.Total Item.Le where
  total := by
    intro a b
    unfold Item.Le TransactionPayload.SortLe
    have h := String.le_total a.2.payload.transactionId b.2.payload.transactionId
    rcases Nat.lt_trichotomy a.2.payload.priority b.2.payload.priority with h1 | h1 | h1
    · exact .inl (.inl h1)
    · rcases Int.lt_trichotomy a.2.payload.occurredAt.instant b.2.payload.occurredAt.instant
        with h2 | h2 | h2
      · exact .inl (.inr ⟨h1, .inl h2⟩)
      · exact h.imp (fun h => .inr ⟨h1, .inr ⟨h2, h⟩⟩) fun h => .inr ⟨h1.symm, .inr ⟨h2.symm, h⟩⟩
      · exact .inr (.inr ⟨h1.symm, .inl h2⟩)
    · exact .inr (.inl h1)

theorem originals_eq (batch : List Delivery) :
    originals batch = Places.keep (marks batch) (delivered batch) := by
  unfold originals Places.keep marks delivered
  rw [List.zip_map', List.filter_map, List.map_map]
  rfl

/-- The places of a batch's items do not matter to their order. -/
theorem ordered_originals (batch : List Delivery) : ordered (originals batch) =
    ((ordered (delivered batch)).filter fun x => !Places.dropped (marks batch) x.1).map
      (Prod.map (Places.rank (marks batch)) id) := by
  unfold ordered
  rw [enumerate_eq, enumerate_eq, originals_eq,
    Places.number_keep (by simp [marks, delivered]), StableSort.filter_insertionSort]
  symm
  exact List.map_insertionSort _ _ _ _ fun _ _ _ _ => Iff.rfl

/-- Nor do they to what becomes of them. -/
theorem eval_ingestItems_map (f : Nat → Nat) : ∀ {items : List Item} {c : IngestPrefetch}
    {db db' : Db} {rs : List (Nat × SyncReceipt)},
    (ingestItems py c items).eval db = (.ok rs, db') →
    (ingestItems py c (items.map (Prod.map f id))).eval db = (.ok (rs.map (Prod.map f id)), db')
  | [], _, _, _, _, h => by
    cases h
    rfl
  | (i, s) :: rest, c, db, db', rs, h => by
    change (ingestItems py c ((f i, s) :: rest.map (Prod.map f id))).eval db = _
    unfold ingestItems at h ⊢
    rw [eval_bind] at h ⊢
    generalize (ingestItem py c s).eval db = o at h ⊢
    rcases o with ⟨_ | ⟨r, c1⟩, db1⟩
    · cases h
    simp only [eval_bind] at h ⊢
    rcases h1 : (ingestItems py c1 rest).eval db1 with ⟨_ | rs', db2⟩
    · rw [h1] at h
      cases h
    · rw [h1] at h
      cases h
      rw [eval_ingestItems_map f h1]
      rfl

theorem harmless_of_no_copies {copy : Nat → Bool} : ∀ {items : List Item} {c : IngestPrefetch}
    {db : Db}, (∀ x ∈ items, copy x.1 = false) → Harmless py copy c [] db items
  | [], _, _, _ => trivial
  | x :: rest, c, db, h => by
    unfold Harmless
    rw [if_neg (by simp [h x List.mem_cons_self])]
    refine ⟨fun hm => hm.2 ⟨?_, ?_, ?_⟩, fun _ _ _ _ =>
      harmless_of_no_copies fun y hy => h y (List.mem_cons_of_mem _ hy)⟩ <;>
      exact fun hn => (List.not_mem_nil hn).elim

theorem harmless_loop {batch : List Delivery} {db : Db} (h : HarmlessBatch py db batch) :
    Harmless py (Places.dropped (marks batch)) (.loaded ((originals batch).map (·.payload)) db) [] db
      (ordered (delivered batch)) := by
  by_cases hc : ∃ d ∈ batch, d.copy = true
  · exact (h hc).2
  · refine harmless_of_no_copies fun x _ => ?_
    unfold Places.dropped
    rcases hm : (marks batch)[x.1]? with _ | b
    · rfl
    obtain ⟨d, hd, rfl⟩ := List.mem_map.1 (List.mem_of_getElem? hm)
    simpa using fun he => hc ⟨d, hd, he⟩

/-- **A batch with harmless copies** ends in the database, and gives the answers, of the batch
without. -/
theorem push_harmless {batch : List Delivery} {db : Db} (hs : Sound db)
    (h : HarmlessBatch py db batch) :
    (push py db (delivered batch)).2 = (push py db (originals batch)).2 ∧
      Sound (push py db (delivered batch)).2 ∧
      SameAnswers batch (push py db (delivered batch)).1 (push py db (originals batch)).1 := by
  have hmem : ∀ {subs : List Submission}, ∀ x ∈ ordered subs, x.2 ∈ subs := by
    intro subs x hx
    exact (processed_perm subs).mem_iff.1 (List.mem_map_of_mem hx)
  have hsub : ∀ s ∈ originals batch, s ∈ delivered batch := by
    intro s hs
    obtain ⟨d, hd, rfl⟩ := List.mem_map.1 hs
    exact List.mem_map_of_mem (List.mem_of_mem_filter hd)
  by_cases hsort : Sortable (delivered batch)
  · have hh := harmless_loop h
    have hagree : ∀ x ∈ ordered (delivered batch), Places.dropped (marks batch) x.1 = false →
        Agree (.loaded ((originals batch).map (·.payload)) db)
          (.loaded ((delivered batch).map (·.payload)) db) [] x.2.payload := by
      intro x hx hx'
      have hm : Prod.map (Places.rank (marks batch)) id x ∈ ordered (originals batch) := by
        rw [ordered_originals]
        exact List.mem_map_of_mem (List.mem_filter.2 ⟨hx, by simp [hx']⟩)
      have hx0 : (Prod.map (Places.rank (marks batch)) id x).2 ∈ originals batch := hmem _ hm
      refine .loaded db (fun p hp => ?_) (List.mem_map_of_mem hx0)
      obtain ⟨s, hs, rfl⟩ := List.mem_map.1 hp
      exact List.mem_map_of_mem (hsub s hs)
    obtain ⟨rs, db', h1, h2, hs', hfst, hacc⟩ := eval_ingestItems_harmless _ hh hs
      (tracks_loaded db fun x hx => List.mem_map_of_mem (hmem x hx)) hagree
    have h2' := eval_ingestItems_map (Places.rank (marks batch)) h2
    rw [← ordered_originals] at h2'
    rw [eval_push hsort h1, eval_push (fun a ha b hb => hsort a (hsub a ha) b (hsub b hb)) h2']
    have hplaces : (rs.map Prod.fst).Perm (List.range (delivered batch).length) := by
      rw [hfst, ← enumerate_fst]
      exact (ordered_perm _).map _
    obtain ⟨xs, hlen, hp⟩ := Places.exists_perm_number hplaces
    have hxs : receiptsByIndex (delivered batch).length rs = xs :=
      hlen ▸ Places.collect_of_perm hp
    have hmarks : (marks batch).length = xs.length := by simp [hlen, marks, delivered]
    have hp0 : ((rs.filter fun x => !Places.dropped (marks batch) x.1).map
        (Prod.map (Places.rank (marks batch)) id)).Perm
        (Places.number (Places.keep (marks batch) xs)) := by
      rw [Places.number_keep hmarks]
      exact (hp.filter _).map _
    have hlen0 : (originals batch).length = (Places.keep (marks batch) xs).length := by
      rw [originals_eq, Places.length_keep hmarks, Places.length_keep (by simp [marks, delivered])]
    refine ⟨rfl, hs', hxs ▸ (hlen.trans (by simp [delivered])), ?_, ?_⟩
    · rw [hxs, hlen0]
      exact Places.collect_of_perm hp0
    · rw [hxs]
      intro x hx hcopy
      obtain ⟨i, hi⟩ := List.mem_iff_getElem?.1 hx
      obtain ⟨hd, hr⟩ := List.getElem?_zip_eq_some.1 hi
      refine hacc (i, x.2) (hp.mem_iff.2 (Places.mem_number.2 hr)) ?_
      simp [Places.dropped, marks, hd, hcopy]
  · have hno : ∀ d ∈ batch, d.copy = false := by
      intro d hd
      by_contra hne
      exact hsort (h ⟨d, hd, by simpa using hne⟩).1
    have hsame : originals batch = delivered batch := by
      unfold originals delivered
      rw [List.filter_eq_self.2 fun d hd => by simp [hno d hd]]
    rw [hsame, push_unsortable hsort]
    exact ⟨rfl, hs, rfl, hno⟩

/-- The answers to a sequence of batches with copies, and to the batches without. -/
def AllSameAnswers : List (List Delivery) → List (Except Exn (List SyncReceipt)) →
    List (Except Exn (List SyncReceipt)) → Prop
  | [], [], [] => True
  | batch :: batches, a :: as, a0 :: as0 => SameAnswers batch a a0 ∧ AllSameAnswers batches as as0
  | _, _, _ => False

theorem pushAll_harmless : ∀ {batches : List (List Delivery)} {db : Db}, Sound db →
    HarmlessRun py db batches →
    (pushAll py db (batches.map delivered)).2 = (pushAll py db (batches.map originals)).2 ∧
      AllSameAnswers batches (pushAll py db (batches.map delivered)).1
        (pushAll py db (batches.map originals)).1
  | [], _, _, _ => ⟨rfl, trivial⟩
  | batch :: rest, db, hs, h => by
    obtain ⟨hdb, hs1, hans⟩ := push_harmless hs h.1
    have hrest := pushAll_harmless hs1 (hdb ▸ h.2)
    simp only [List.map_cons, pushAll]
    rw [← hdb]
    exact ⟨hrest.1, hans, hrest.2⟩

/-- **At-least-once delivery is harmless** if the copies are. -/
theorem redelivery_harmless {db : Db} (h0 : EmptyLedger db) {batches : List (List Delivery)}
    (h : HarmlessRun py db batches) :
    (pushAll py db (batches.map delivered)).2 = (pushAll py db (batches.map originals)).2 ∧
      AllSameAnswers batches (pushAll py db (batches.map delivered)).1
        (pushAll py db (batches.map originals)).1 := pushAll_harmless h0.sound h

/-! ## A copy that misleads -/

namespace Sample

/-- The same movement from another device. -/
def fromDevice (s : Submission) (deviceId : String) : Submission :=
  { s with payload := { s.payload with deviceId } }

/-- Which items of a batch were accepted. -/
def accepted : Except Exn (List SyncReceipt) → List Bool
  | .ok rs => rs.map (·.accepted)
  | .error _ => []

end Sample

theorem redelivery_run :
    AllSameAnswers [[⟨false, Sample.movement "T-1" "RECEIPT" 5 0⟩],
        [⟨true, Sample.movement "T-1" "RECEIPT" 5 0⟩, ⟨false, Sample.movement "T-2" "SALE" (-2) 1⟩]]
      (pushAll Sample.python Db.empty [[Sample.movement "T-1" "RECEIPT" 5 0],
        [Sample.movement "T-1" "RECEIPT" 5 0, Sample.movement "T-2" "SALE" (-2) 1]]).1
      (pushAll Sample.python Db.empty [[Sample.movement "T-1" "RECEIPT" 5 0],
        [Sample.movement "T-2" "SALE" (-2) 1]]).1 := by
  have h : HarmlessRun Sample.python Db.empty [[⟨false, Sample.movement "T-1" "RECEIPT" 5 0⟩],
      [⟨true, Sample.movement "T-1" "RECEIPT" 5 0⟩,
        ⟨false, Sample.movement "T-2" "SALE" (-2) 1⟩]] := by
    refine ⟨?_, ?_, trivial⟩
    · rintro ⟨d, hd, hc⟩
      rw [List.mem_singleton.1 hd] at hc
      cases hc
    · intro _
      have ho : ordered (delivered [⟨true, Sample.movement "T-1" "RECEIPT" 5 0⟩,
            ⟨false, Sample.movement "T-2" "SALE" (-2) 1⟩]) =
          [(0, Sample.movement "T-1" "RECEIPT" 5 0), (1, Sample.movement "T-2" "SALE" (-2) 1)] := by
        decide
      rw [ho]
      refine ⟨by decide, by decide, ?_, fun _ _ _ _ => trivial⟩
      intro hm
      exact hm.2 ⟨fun _ _ => by decide, fun _ _ => by decide, fun _ _ => by decide⟩
  exact (redelivery_harmless Sample.empty h).2

/-- A movement sent again from a new device is accepted for its id alone. A further copy of it makes
the cache take that device to exist, so that a later item of the batch does not create it. -/
theorem copy_misleads :
    let t := Sample.movement "T-1" "RECEIPT" 5 0
    let p := Sample.fromDevice t "DEV-2"
    let other := Sample.fromDevice (Sample.movement "T-2" "SALE" (-9) 1) "DEV-2"
    let first := pushAll Sample.python Sample.opened [[t], [p]]
    first.1.map Sample.accepted = [[true], [true]] ∧
      (first.2.ledger.get? p.id).map (·.quantityDelta) = some p.payload.quantityDelta ∧
      Sample.accepted (push Sample.python first.2 [p, other]).1 = [true, false] ∧
      ((push Sample.python first.2 [other]).2.devices.get? "DEV-2").isSome = true ∧
      ((push Sample.python first.2 [p, other]).2.devices.get? "DEV-2").isSome = false := by
  decide +kernel

end Server
