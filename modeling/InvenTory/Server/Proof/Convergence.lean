import InvenTory.Server.Proof.Admission
import InvenTory.Lib.Places

/-!
# Batches of fresh payloads

* `batch_accepted_iff`: a batch of fresh payloads is accepted whole exactly if it can be sorted and
  no balance runs short in the order of `ordered`, which puts ADJUSTMENT first whatever its sign
  (`batch_not_accepted`).
* `retry_converges_iff`: when the balances can take all payloads together, pushing everything once
  and the rejected payloads once more gets everything accepted, in any batches and order, exactly
  if every batch can be sorted (`mixed_times_dropped`).
-/

namespace Server

open Relational Sql Sql.Prog

variable {py : Python}

/-! ## The answers of a batch -/

theorem enumerate_eq (subs : List Submission) : enumerate subs = Places.number subs := by
  have hfst : (enumerate subs).map Prod.fst = List.range subs.length := by
    simp [enumerate, Function.comp_def, List.range_eq_range']
  have hsnd : (enumerate subs).map Prod.snd = subs := by simp [enumerate, Function.comp_def]
  exact List.zip_of_prod hfst hsnd

theorem enumerate_fst (subs : List Submission) :
    (enumerate subs).map Prod.fst = List.range subs.length := by
  rw [enumerate_eq, Places.number_fst]

theorem enumerate_snd (subs : List Submission) : (enumerate subs).map Prod.snd = subs := by
  rw [enumerate_eq, Places.number_snd]

theorem mem_receiptsByIndex {n : Nat} {rs : List (Nat × SyncReceipt)} {r : SyncReceipt}
    (h : (rs.map Prod.fst).Perm (List.range n)) :
    r ∈ receiptsByIndex n rs ↔ ∃ i, (i, r) ∈ rs := by
  obtain ⟨xs, rfl, hp⟩ := Places.exists_perm_number h
  have hc : receiptsByIndex xs.length rs = xs := Places.collect_of_perm hp
  rw [hc, List.mem_iff_getElem?]
  simp only [hp.mem_iff, Places.mem_number]

/-- The submissions of a batch in processing order. -/
def processed (subs : List Submission) : List Submission := (ordered subs).map Prod.snd

theorem ordered_perm (subs : List Submission) : (ordered subs).Perm (enumerate subs) :=
  List.perm_insertionSort ..

theorem processed_perm (subs : List Submission) : (processed subs).Perm subs := by
  have h := (ordered_perm subs).map Prod.snd
  rwa [enumerate_snd] at h

/-- What a batch can be made of: distinct, pending payloads that are ready. -/
structure Offerable (py : Python) (db : Db) (subs : List Submission) : Prop where
  nodup : (subs.map Submission.id).Nodup
  ready : ∀ s ∈ subs, Ready py db s.payload
  pending : ∀ s ∈ subs, Pending db s.payload

theorem Offerable.perm {db : Db} {xs ys : List Submission} (h : Offerable py db xs)
    (hp : ys.Perm xs) : Offerable py db ys :=
  ⟨(hp.map _).nodup_iff.2 h.nodup, fun s hs => h.ready s (hp.mem_iff.1 hs),
    fun s hs => h.pending s (hp.mem_iff.1 hs)⟩

theorem push_unsortable {subs : List Submission} (h : ¬ Sortable subs) (db : Db) :
    push py db subs = (.error cannotCompare, db) := by
  unfold push ingestBatch
  rw [if_neg h]
  rfl

theorem eval_push {subs : List Submission} (hs : Sortable subs) {db db' : Db}
    {rs : List (Nat × SyncReceipt)}
    (h : (ingestItems py (.loaded (subs.map (·.payload)) db) (ordered subs)).eval db =
      (.ok rs, db')) : push py db subs = (.ok (receiptsByIndex subs.length rs), db') := by
  unfold push ingestBatch
  rw [if_pos hs, eval_bind_ok (eval_reading_load ..), eval_bind_ok h]
  rfl

/-- **A call with pending payloads** offers them in processing order; its answers are the receipts
that it stores. -/
theorem push_settled {db : Db} {subs : List Submission} (hs : Sortable subs)
    (h : Offerable py db subs) : ∃ rs db', push py db subs = (.ok rs, db') ∧
      Settled db (processed subs) db' ∧
      (∀ r ∈ rs, ∃ s ∈ subs, db'.receipts.get? s.id = some r) ∧
      ∀ s ∈ subs, ∃ r ∈ rs, db'.receipts.get? s.id = some r := by
  have hp := ordered_perm subs
  have hmem : ∀ x ∈ ordered subs, x.2 ∈ subs := fun x hx =>
    (processed_perm subs).mem_iff.1 (List.mem_map_of_mem hx)
  have hnodup : ((ordered subs).map fun x => x.2.id).Nodup := by
    have hn := ((processed_perm subs).map Submission.id).nodup_iff.2 h.nodup
    rwa [processed, List.map_map] at hn
  have hcache : ∀ x ∈ ordered subs, (IngestPrefetch.loaded (subs.map (·.payload)) db).receiptByTx
      x.2.id = db.receipts.get? x.2.id := fun x hx =>
    if_pos (List.mem_map.2 ⟨x.2.payload, List.mem_map_of_mem (hmem x hx), rfl⟩)
  obtain ⟨rs, db', hrs, hset, hans⟩ := eval_ingestItems hnodup
    (fun x hx => h.ready _ (hmem x hx)) (fun x hx => h.pending _ (hmem x hx)) hcache
  have hplaces : (rs.map Prod.fst).Perm (List.range subs.length) := by
    rw [hans.places, ← enumerate_fst]
    exact hp.map _
  refine ⟨_, db', eval_push hs hrs, hset, fun r hr => ?_, fun s hs' => ?_⟩
  · obtain ⟨i, hi⟩ := (mem_receiptsByIndex hplaces).1 hr
    obtain ⟨x, hx, -, hst⟩ := hans.stored i r hi
    exact ⟨x.2, hmem x hx, hst⟩
  · obtain ⟨x, hx, rfl⟩ := List.mem_map.1 ((processed_perm subs).mem_iff.2 hs')
    have hfst : x.1 ∈ rs.map Prod.fst := by
      rw [hans.places]
      exact List.mem_map_of_mem hx
    obtain ⟨⟨i, r⟩, hr, hi⟩ := List.mem_map.1 hfst
    obtain ⟨y, hy, hyi, hst⟩ := hans.stored i r hr
    have hxy : y = x := by
      have hno : ((ordered subs).map Prod.fst).Nodup := by
        rw [(hp.map Prod.fst).nodup_iff, enumerate_fst]
        exact List.nodup_range
      exact List.inj_on_of_nodup_map hno hy hx (hyi.trans hi)
    subst hxy
    exact ⟨r, (mem_receiptsByIndex hplaces).2 ⟨i, hr⟩, hst⟩

/-! ## One batch -/

/-- Distinct payloads that are ready, and that the server has never seen. -/
structure Fresh (py : Python) (db : Db) (subs : List Submission) : Prop where
  nodup : (subs.map Submission.id).Nodup
  ready : ∀ s ∈ subs, Ready py db s.payload
  ledger : ∀ s ∈ subs, db.ledger.get? s.id = none
  receipt : ∀ s ∈ subs, db.receipts.get? s.id = none

theorem Fresh.offerable {db : Db} {subs : List Submission} (h : Fresh py db subs) :
    Offerable py db subs :=
  ⟨h.nodup, h.ready, fun s hs => ⟨h.ledger s hs, fun r hr => by rw [h.receipt s hs] at hr; cases hr⟩⟩

/-- The call answers every payload, and accepts it. -/
def AcceptsAll (py : Python) (db : Db) (subs : List Submission) : Prop :=
  ∃ rs, (push py db subs).1 = .ok rs ∧ (∀ r ∈ rs, r.accepted = true) ∧
    ∀ s ∈ subs, ∃ r ∈ rs, r.transactionId = s.id

/-- In processing order no balance runs short. -/
abbrev NeverShort (db : Db) (subs : List Submission) : Prop :=
  Counters.NeverShort TransactionPayload.stock TransactionPayload.quantityDelta db.quantity
    ((processed subs).map Submission.payload)

theorem sortable_of_acceptsAll {db : Db} {subs : List Submission} (ha : AcceptsAll py db subs) :
    Sortable subs := by
  by_contra hs
  obtain ⟨rs, hrs, -, -⟩ := ha
  rw [push_unsortable hs] at hrs
  cases hrs

theorem neverShort_of_acceptsAll {db : Db} {subs : List Submission} (h : Fresh py db subs)
    (ha : AcceptsAll py db subs) : NeverShort db subs := by
  obtain ⟨rs, db', hpush, hset, -, hall⟩ := push_settled (sortable_of_acceptsAll ha) h.offerable
  obtain ⟨rs', hrs', hacc, -⟩ := ha
  rw [hpush] at hrs'
  cases hrs'
  refine Counters.refused_eq_nil.1 (List.eq_nil_iff_forall_not_mem.2 fun p hp => ?_)
  obtain ⟨s, hs, rfl⟩ := List.mem_map.1 (Counters.refused_sublist.subset hp)
  obtain ⟨⟨r, hr, hrej⟩, -⟩ := hset.refused s hs hp
  obtain ⟨r', hr', hst⟩ := hall s ((processed_perm subs).mem_iff.1 hs)
  have he : r' = r := Option.some.inj (hst.symm.trans hr)
  rw [← he, hacc r' hr'] at hrej
  cases hrej

/-- **A batch of fresh payloads is accepted whole** exactly if it can be sorted and no balance
runs short in processing order. -/
theorem batch_accepted_iff {db : Db} {subs : List Submission} (h : Fresh py db subs) :
    AcceptsAll py db subs ↔ Sortable subs ∧ NeverShort db subs := by
  refine ⟨fun ha => ⟨sortable_of_acceptsAll ha, neverShort_of_acceptsAll h ha⟩, fun ⟨hs, hn⟩ => ?_⟩
  obtain ⟨rs, db', hpush, hset, hans, hall⟩ := push_settled hs h.offerable
  refine ⟨rs, by rw [hpush], fun r hr => ?_, fun s hs' => ?_⟩
  · obtain ⟨s, hs', hst⟩ := hans r hr
    have hdown : s.payload ∉ turnedDown db (processed subs) := by
      rw [turnedDown, Counters.refused_eq_nil.2 hn]
      exact List.not_mem_nil
    obtain ⟨-, r', hst', hacc⟩ := hset.admitted s ((processed_perm subs).mem_iff.2 hs') hdown
    rwa [Option.some.inj (hst.symm.trans hst')]
  · obtain ⟨r, hr, hst⟩ := hall s hs'
    exact ⟨r, hr, Table.key_of_get? hst⟩

/-- Applied in the order of `occurred_at` the payloads never leave a balance negative. -/
def ValidInTime (db : Db) (subs : List Submission) : Prop :=
  Counters.NeverNegative TransactionPayload.stock TransactionPayload.quantityDelta db.quantity
    ((subs.map Submission.payload).insertionSort
      fun p q => p.occurredAt.instant ≤ q.occurredAt.instant)

namespace Sample

/-- A database with the master data of `movement`. -/
def opened : Db := { Db.empty with
  stores := (∅ : Table Store).put ⟨"STORE-A", "A", "Store A", true⟩
  products := (∅ : Table Product).put ⟨"PROD-1", "SKU-1", "Product 1", "General", "pcs", true⟩
  devices := (∅ : Table Device).put ⟨"DEV-1", "STORE-A", "Till", true⟩ }

theorem fresh {subs : List Submission} (hn : (subs.map Submission.id).Nodup)
    (hv : ∀ s ∈ subs, validatePayload python s.payload = none ∧ s.payload.storeId = "STORE-A" ∧
      s.payload.productId = "PROD-1" ∧ s.payload.deviceId = "DEV-1") : Fresh python opened subs where
  nodup := hn
  ready s hs := by
    obtain ⟨h1, h2, h3, h4⟩ := hv s hs
    exact ⟨h1, h2 ▸ by decide, h3 ▸ by decide, h4 ▸ by decide⟩
  ledger _ _ := rfl
  receipt _ _ := rfl

end Sample

theorem batch_accepted_run : AcceptsAll Sample.python Sample.opened
    [Sample.movement "T-1" "SALE" (-4) 1, Sample.movement "T-2" "RECEIPT" 5 0] :=
  (batch_accepted_iff (Sample.fresh (by decide) (by decide))).2 (by decide)

/-- A negative ADJUSTMENT is processed before the RECEIPT that it takes from. -/
theorem batch_not_accepted : ¬ ∀ py db subs, Fresh py db subs → ValidInTime db subs →
    AcceptsAll py db subs := by
  intro h
  have hf : Fresh Sample.python Sample.opened
      [Sample.movement "T-1" "RECEIPT" 5 0, Sample.movement "T-2" "ADJUSTMENT" (-5) 1] :=
    Sample.fresh (by decide) (by decide)
  have hvalid : ValidInTime Sample.opened
      [Sample.movement "T-1" "RECEIPT" 5 0, Sample.movement "T-2" "ADJUSTMENT" (-5) 1] := by
    unfold ValidInTime
    decide
  exact absurd (neverShort_of_acceptsAll hf (h _ _ _ hf hvalid)) (by decide)

/-! ## Several batches -/

/-- The batches that can be sorted. -/
def sortableOnes (batches : List (List Submission)) : List (List Submission) :=
  batches.filter fun b => Sortable b

/-- The submissions of several batches in processing order. -/
def processedAll (batches : List (List Submission)) : List Submission :=
  (batches.map processed).flatten

/-- All answers of a sequence of calls. -/
def answered (outs : List (Except Exn (List SyncReceipt))) : List SyncReceipt :=
  (outs.filterMap Except.toOption).flatten

theorem processedAll_perm (batches : List (List Submission)) :
    (processedAll batches).Perm batches.flatten := by
  induction batches with
  | nil => exact .nil
  | cons b batches ih => exact (processed_perm b).append ih

theorem mem_sortableOnes_flatten {batches : List (List Submission)} {s : Submission}
    (h : s ∈ (sortableOnes batches).flatten) : s ∈ batches.flatten := by
  obtain ⟨b, hb, hs⟩ := List.mem_flatten.1 h
  exact List.mem_flatten.2 ⟨b, (List.mem_filter.1 hb).1, hs⟩

theorem mem_processedAll {batches : List (List Submission)} {s : Submission} :
    s ∈ processedAll batches ↔ s ∈ batches.flatten := (processedAll_perm batches).mem_iff

theorem Offerable.settled {db db' : Db} {xs ys : List Submission} (hset : Settled db xs db')
    (h : Offerable py db ys) (hd : (xs.map Submission.id).Disjoint (ys.map Submission.id)) :
    Offerable py db' ys where
  nodup := h.nodup
  ready s hs := (h.ready s hs).of_masters hset.masters
  pending s hs := by
    have hn : s.id ∉ xs.map Submission.id := fun hm => hd hm (List.mem_map_of_mem hs)
    exact (h.pending s hs).congr (hset.ledgerElse _ hn) (hset.receiptElse _ hn)

/-- **A sequence of calls with pending payloads** offers those of the sortable batches, in order;
its answers are the receipts that it stores. -/
theorem pushAll_settled : ∀ {batches : List (List Submission)} {db : Db},
    Offerable py db batches.flatten →
    Settled db (processedAll (sortableOnes batches)) (pushAll py db batches).2 ∧
    (∀ r ∈ answered (pushAll py db batches).1, ∃ s ∈ (sortableOnes batches).flatten,
      (pushAll py db batches).2.receipts.get? s.id = some r) ∧
    ∀ s ∈ (sortableOnes batches).flatten, ∃ r ∈ answered (pushAll py db batches).1,
      (pushAll py db batches).2.receipts.get? s.id = some r
  | [], db, _ => ⟨.nil db, fun _ h => (List.not_mem_nil h).elim, fun _ h => (List.not_mem_nil h).elim⟩
  | b :: rest, db, h => by
    have hnodup := h.nodup
    rw [List.flatten_cons, List.map_append, List.nodup_append'] at hnodup
    obtain ⟨hb, hrest, hdisj⟩ := hnodup
    have hoff : Offerable py db rest.flatten :=
      ⟨hrest, fun s hs => h.ready s (List.mem_append_right _ hs),
        fun s hs => h.pending s (List.mem_append_right _ hs)⟩
    by_cases hs : Sortable b
    · have hlive : sortableOnes (b :: rest) = b :: sortableOnes rest := by
        simp [sortableOnes, hs]
      obtain ⟨rs, db1, hpush, hset, hans, hall⟩ := push_settled hs
        ⟨hb, fun s hs => h.ready s (List.mem_append_left _ hs),
          fun s hs => h.pending s (List.mem_append_left _ hs)⟩
      have hd : ((processed b).map Submission.id).Disjoint (rest.flatten.map Submission.id) :=
        fun id h1 h2 => hdisj (((processed_perm b).map _).mem_iff.1 h1) h2
      obtain ⟨hset2, hans2, hall2⟩ := pushAll_settled (hoff.settled hset hd)
      have hout : pushAll py db (b :: rest) =
          (.ok rs :: (pushAll py db1 rest).1, (pushAll py db1 rest).2) := by
        simp [pushAll, hpush]
      have hd2 : ((processed b).map Submission.id).Disjoint
          ((processedAll (sortableOnes rest)).map Submission.id) := fun id h1 h2 => by
        obtain ⟨x, hx, rfl⟩ := List.mem_map.1 h2
        exact hd h1 (List.mem_map_of_mem (mem_sortableOnes_flatten (mem_processedAll.1 hx)))
      have hkeep : ∀ s ∈ b, (pushAll py db1 rest).2.receipts.get? s.id = db1.receipts.get? s.id :=
        fun s hs => hset2.receiptElse _ fun hm =>
          hd2 (List.mem_map_of_mem ((processed_perm b).mem_iff.2 hs)) hm
      rw [hout, hlive]
      refine ⟨hset.append hset2 hd2, fun r hr => ?_, fun s hs' => ?_⟩
      · change r ∈ rs ++ answered (pushAll py db1 rest).1 at hr
        rcases List.mem_append.1 hr with hr | hr
        · obtain ⟨s, hs', hst⟩ := hans r hr
          exact ⟨s, List.mem_append_left _ hs', (hkeep s hs').trans hst⟩
        · obtain ⟨s, hs', hst⟩ := hans2 r hr
          exact ⟨s, List.mem_append_right _ hs', hst⟩
      · rcases List.mem_append.1 hs' with hs' | hs'
        · obtain ⟨r, hr, hst⟩ := hall s hs'
          exact ⟨r, List.mem_append_left _ hr, (hkeep s hs').trans hst⟩
        · obtain ⟨r, hr, hst⟩ := hall2 s hs'
          exact ⟨r, List.mem_append_right _ hr, hst⟩
    · have hlive : sortableOnes (b :: rest) = sortableOnes rest := by
        simp [sortableOnes, hs]
      have hout : pushAll py db (b :: rest) =
          (.error cannotCompare :: (pushAll py db rest).1, (pushAll py db rest).2) := by
        simp [pushAll, push_unsortable hs]
      rw [hout, hlive]
      exact pushAll_settled hoff

/-! ## Everything once, the rejected once more -/

/-- The submissions that were answered with a rejection. -/
def rejectedOnes (outs : List (Except Exn (List SyncReceipt))) (subs : List Submission) :
    List Submission :=
  subs.filter fun s => (answered outs).any fun r => r.transactionId = s.id ∧ r.accepted = false

/-- The ledger holds the movement of `s`, and its receipt is an accepted one. -/
def Accepted (db : Db) (s : Submission) : Prop :=
  (∃ row, db.ledger.get? s.id = some row ∧ row.quantityDelta = s.payload.quantityDelta) ∧
    ∃ r, db.receipts.get? s.id = some r ∧ r.accepted = true

/-- Every submission is accepted, and each balance moved by the sum of their deltas. -/
def Converged (db : Db) (subs : List Submission) (db' : Db) : Prop :=
  (∀ s ∈ subs, Accepted db' s) ∧ ∀ k, db'.quantity k = db.quantity k +
    Counters.sum TransactionPayload.stock TransactionPayload.quantityDelta k
      (subs.map Submission.payload)

theorem eq_of_id {subs : List Submission} (hn : (subs.map Submission.id).Nodup) {s t : Submission}
    (hs : s ∈ subs) (ht : t ∈ subs) (h : s.id = t.id) : s = t :=
  List.inj_on_of_nodup_map hn hs ht h

/-- A submission of a batch that cannot be sorted is in none that can. -/
theorem not_mem_sortableOnes {batches : List (List Submission)} {b : List Submission}
    {s : Submission} (hn : (batches.flatten.map Submission.id).Nodup) (hb : b ∈ batches)
    (hun : ¬ Sortable b) (hs : s ∈ b) :
    s.id ∉ (processedAll (sortableOnes batches)).map Submission.id := by
  intro hm
  obtain ⟨x, hx, hid⟩ := List.mem_map.1 hm
  obtain ⟨b', hb', hx'⟩ := List.mem_flatten.1 (mem_processedAll.1 hx)
  obtain ⟨hb', hsort⟩ := List.mem_filter.1 hb'
  have hxs : x = s := eq_of_id hn (List.mem_flatten.2 ⟨b', hb', hx'⟩)
    (List.mem_flatten.2 ⟨b, hb, hs⟩) hid
  subst hxs
  have hne : b ≠ b' := fun he => hun (he ▸ of_decide_eq_true hsort)
  have hdisj := (List.nodup_flatten.1 (List.Nodup.of_map _ hn)).2
  have : Std.Symm (@List.Disjoint Submission) := ⟨fun _ _ => List.disjoint_symm⟩
  exact hdisj.forall hb hb' hne hs hx'

/-- What is rejected is what the balances turned down. -/
theorem rejectedOnes_perm {batches : List (List Submission)} {db : Db}
    (h : Offerable py db batches.flatten) :
    ((rejectedOnes (pushAll py db batches).1 batches.flatten).map Submission.payload).Perm
      (turnedDown db (processedAll (sortableOnes batches))) := by
  obtain ⟨hset, hans, hall⟩ := pushAll_settled h
  have hpay : (batches.flatten.map Submission.payload).Nodup :=
    List.Nodup.of_map TransactionPayload.transactionId (by rw [List.map_map]; exact h.nodup)
  have hsub : (sortableOnes batches).flatten ⊆ batches.flatten :=
    fun _ hs => mem_sortableOnes_flatten hs
  have hid : ((processedAll (sortableOnes batches)).map Submission.payload).Nodup := by
    rw [((processedAll_perm _).map _).nodup_iff]
    exact hpay.sublist ((List.filter_sublist.flatten).map _)
  refine (List.perm_ext_iff_of_nodup (hpay.sublist (List.filter_sublist.map _))
    (hid.sublist Counters.refused_sublist)).2 fun p => ⟨fun hp => ?_, fun hp => ?_⟩
  · obtain ⟨s, hs, rfl⟩ := List.mem_map.1 hp
    obtain ⟨hs, hany⟩ := List.mem_filter.1 hs
    obtain ⟨r, hr, hrej⟩ := List.any_eq_true.1 hany
    simp only [decide_eq_true_eq] at hrej
    obtain ⟨t, ht, hst⟩ := hans r hr
    have hts : t = s := eq_of_id h.nodup (hsub ht) hs ((Table.key_of_get? hst).symm.trans hrej.1)
    subst hts
    by_contra hdown
    obtain ⟨-, r', hst', hacc⟩ := hset.admitted t (mem_processedAll.2 ht) hdown
    rw [Option.some.inj (hst.symm.trans hst'), hacc] at hrej
    exact absurd hrej.2 (by decide)
  · obtain ⟨s, hs, rfl⟩ := List.mem_map.1 (Counters.refused_sublist.subset hp)
    obtain ⟨⟨r, hst, hrej⟩, -⟩ := hset.refused s hs hp
    have hs' := mem_processedAll.1 hs
    obtain ⟨r', hr', hst'⟩ := hall s hs'
    have hrr : r' = r := Option.some.inj (hst'.symm.trans hst)
    subst hrr
    refine List.mem_map_of_mem (List.mem_filter.2 ⟨hsub hs', List.any_eq_true.2 ⟨r', hr', ?_⟩⟩)
    simp [hrej, show r'.transactionId = s.id from Table.key_of_get? hst]

section
variable {db : Db} {round1 round2 : List (List Submission)} (h : Fresh py db round1.flatten)
  (h0 : ∀ k, 0 ≤ db.quantity k)
  (hround2 : (round2.flatten.map Submission.payload).Perm
    ((rejectedOnes (pushAll py db round1).1 round1.flatten).map Submission.payload))
include h hround2

theorem round2_perm : (round2.flatten.map Submission.payload).Perm
    (turnedDown db (processedAll (sortableOnes round1))) :=
  hround2.trans (rejectedOnes_perm h.offerable)

/-- A submission of the second round repeats one of the first that was turned down. -/
theorem round2_repeats {s : Submission} (hs : s ∈ round2.flatten) :
    ∃ t ∈ processedAll (sortableOnes round1), t.payload = s.payload ∧
      t.payload ∈ turnedDown db (processedAll (sortableOnes round1)) := by
  have hm := (round2_perm h hround2).mem_iff.1 (List.mem_map_of_mem hs)
  obtain ⟨t, ht, he⟩ := List.mem_map.1 (Counters.refused_sublist.subset hm)
  exact ⟨t, ht, he, by rw [he]; exact hm⟩

include h0

theorem round2_offerable : Offerable py (pushAll py db round1).2 round2.flatten := by
  have hset := (pushAll_settled h.offerable).1
  have hp1 : ((processedAll (sortableOnes round1)).map Submission.id).Nodup := by
    rw [((processedAll_perm _).map _).nodup_iff]
    exact h.nodup.sublist ((List.filter_sublist.flatten).map _)
  refine ⟨?_, fun s hs => ?_, fun s hs => ?_⟩
  · have he := (round2_perm h hround2).map TransactionPayload.transactionId
    rw [List.map_map] at he
    refine he.nodup_iff.2 (List.Nodup.sublist (Counters.refused_sublist.map _) ?_)
    rwa [List.map_map]
  · obtain ⟨t, ht, he, -⟩ := round2_repeats h hround2 hs
    rw [← he]
    exact (h.ready t (mem_sortableOnes_flatten (mem_processedAll.1 ht))).of_masters hset.masters
  · obtain ⟨t, ht, he, hdown⟩ := round2_repeats h hround2 hs
    rw [← he]
    exact (hset.refused t ht hdown).2 h0

theorem sortable_of_converged (hc : Converged db round1.flatten
    (pushAll py (pushAll py db round1).2 round2).2) : ∀ b ∈ round1 ++ round2, Sortable b := by
  have hoff := round2_offerable h h0 hround2
  have hset1 := (pushAll_settled h.offerable).1
  have hset2 := (pushAll_settled hoff).1
  intro b hb
  by_contra hun
  have hne : b ≠ [] := fun he => hun (he ▸ fun _ hx => (List.not_mem_nil hx).elim)
  obtain ⟨s, hs⟩ := List.exists_mem_of_ne_nil b hne
  rcases List.mem_append.1 hb with hb | hb
  · have hn1 := not_mem_sortableOnes h.nodup hb hun hs
    have hs1 : s ∈ round1.flatten := List.mem_flatten.2 ⟨b, hb, hs⟩
    have hn2 : s.id ∉ (processedAll (sortableOnes round2)).map Submission.id := fun hm => by
      obtain ⟨x, hx, hid⟩ := List.mem_map.1 hm
      obtain ⟨t, ht, he, -⟩ :=
        round2_repeats h hround2 (mem_sortableOnes_flatten (mem_processedAll.1 hx))
      refine hn1 (List.mem_map.2 ⟨t, ht, ?_⟩)
      rw [Submission.id, he]
      exact hid
    obtain ⟨⟨row, hrow, -⟩, -⟩ := hc.1 s hs1
    rw [hset2.ledgerElse _ hn2, hset1.ledgerElse _ hn1, h.ledger s hs1] at hrow
    cases hrow
  · have hs2 : s ∈ round2.flatten := List.mem_flatten.2 ⟨b, hb, hs⟩
    have hn2 := not_mem_sortableOnes hoff.nodup hb hun hs
    obtain ⟨t, ht, he, -⟩ := round2_repeats h hround2 hs2
    obtain ⟨⟨row, hrow, -⟩, -⟩ := hc.1 t (mem_sortableOnes_flatten (mem_processedAll.1 ht))
    have hid : t.id = s.id := congrArg TransactionPayload.transactionId he
    rw [hid, hset2.ledgerElse _ hn2, (hoff.pending s hs2).ledger] at hrow
    cases hrow

variable (hsum : ∀ k, 0 ≤ db.quantity k + Counters.sum TransactionPayload.stock
  TransactionPayload.quantityDelta k (round1.flatten.map Submission.payload))
include hsum

theorem converged_of_sortable (hsort : ∀ b ∈ round1 ++ round2, Sortable b) :
    Converged db round1.flatten (pushAll py (pushAll py db round1).2 round2).2 := by
  have hoff := round2_offerable h h0 hround2
  have hset1 := (pushAll_settled h.offerable).1
  have hset2 := (pushAll_settled hoff).1
  have hlive1 : sortableOnes round1 = round1 := List.filter_eq_self.2 fun b hb => by
    simpa using hsort b (List.mem_append_left _ hb)
  have hlive2 : sortableOnes round2 = round2 := List.filter_eq_self.2 fun b hb => by
    simpa using hsort b (List.mem_append_right _ hb)
  have hperm := round2_perm h hround2
  rw [hlive1] at hset1 hperm
  rw [hlive2] at hset2
  have hp1 := (processedAll_perm round1).map Submission.payload
  obtain ⟨hshort, hfinal⟩ := Counters.retry_converges
    (fun k => by rw [Counters.sum_perm hp1]; exact hsum k)
    (((processedAll_perm round2).map Submission.payload).trans hperm)
  rw [← hset1.quantity] at hshort hfinal
  have hnone : turnedDown (pushAll py db round1).2 (processedAll round2) = [] :=
    Counters.refused_eq_nil.2 hshort
  refine ⟨fun s hs => ?_, fun k => ?_⟩
  · have hs1 : s ∈ processedAll round1 := mem_processedAll.2 hs
    by_cases hdown : s.payload ∈ turnedDown db (processedAll round1)
    · obtain ⟨t, ht, he⟩ := List.mem_map.1 (hperm.mem_iff.2 hdown)
      obtain ⟨hrow, hr⟩ := hset2.admitted t (mem_processedAll.2 ht)
        (by rw [hnone]; exact List.not_mem_nil)
      have hid : t.id = s.id := congrArg TransactionPayload.transactionId he
      rw [hid] at hrow hr
      exact ⟨⟨_, hrow, congrArg TransactionPayload.quantityDelta he⟩, hr⟩
    · have hn : s.id ∉ (processedAll round2).map Submission.id := fun hm => by
        obtain ⟨x, hx, hid⟩ := List.mem_map.1 hm
        have hx' := hperm.mem_iff.1 (List.mem_map_of_mem (mem_processedAll.1 hx))
        obtain ⟨t, ht, he⟩ := List.mem_map.1 (Counters.refused_sublist.subset hx')
        have hts : t = s := eq_of_id h.nodup (mem_processedAll.1 ht) hs
          ((congrArg TransactionPayload.transactionId he).trans hid)
        rw [← hts, he] at hdown
        exact hdown hx'
      obtain ⟨hrow, hr⟩ := hset1.admitted s hs1 hdown
      rw [← hset2.ledgerElse _ hn] at hrow
      rw [← hset2.receiptElse _ hn] at hr
      exact ⟨⟨_, hrow, rfl⟩, hr⟩
  · rw [hset2.quantity, hfinal, Counters.sum_perm hp1]

/-- **Retry convergence**: everything once and the rejected once more is enough, in any batches
and any order, exactly if every batch can be sorted. -/
theorem retry_converges_iff :
    Converged db round1.flatten (pushAll py (pushAll py db round1).2 round2).2 ↔
      ∀ b ∈ round1 ++ round2, Sortable b :=
  ⟨sortable_of_converged h h0 hround2, converged_of_sortable h h0 hround2 hsum⟩

end

/-- A sale that comes before its receipt is accepted when it is pushed again. -/
theorem retry_converges_run :
    let round1 := [[Sample.movement "T-1" "SALE" (-4) 1], [Sample.movement "T-2" "RECEIPT" 5 0]]
    let round2 := [[Sample.movement "T-1" "SALE" (-4) 1]]
    Converged Sample.opened round1.flatten (pushAll Sample.python
      (pushAll Sample.python Sample.opened round1).2 round2).2 := by
  refine (retry_converges_iff (Sample.fresh (by decide) (by decide)) (fun _ => le_rfl) (by decide)
    fun k => ?_).2 (by decide)
  have hk : Counters.sum TransactionPayload.stock TransactionPayload.quantityDelta k
      [(Sample.movement "T-1" "SALE" (-4) 1).payload, (Sample.movement "T-2" "RECEIPT" 5 0).payload] =
      if Sample.stock = k then 1 else 0 := by
    simp only [Counters.sum, Counters.share, List.map_cons, List.map_nil, List.sum_cons,
      List.sum_nil]
    change (if Sample.stock = k then (-4 : Int) else 0) + ((if Sample.stock = k then 5 else 0) + 0) = _
    split <;> rfl
  change 0 ≤ (0 : Int) + Counters.sum _ _ k [_, _]
  rw [hk]
  split <;> decide

/-- The payload of a client that sends no time zone. -/
def Sample.naive (s : Submission) : Submission :=
  { s with payload := { s.payload with occurredAt := { s.payload.occurredAt with offset := none } } }

/-- Two receipts, one of them without a time zone, are both dropped. -/
theorem mixed_times_dropped : ¬ ∀ py db (round1 round2 : List (List Submission)),
    Fresh py db round1.flatten → (∀ k, 0 ≤ db.quantity k) →
    (round2.flatten.map Submission.payload).Perm
      ((rejectedOnes (pushAll py db round1).1 round1.flatten).map Submission.payload) →
    (∀ k, 0 ≤ db.quantity k + Counters.sum TransactionPayload.stock
      TransactionPayload.quantityDelta k (round1.flatten.map Submission.payload)) →
    Converged db round1.flatten (pushAll py (pushAll py db round1).2 round2).2 := by
  intro h
  have hc := h Sample.python Sample.opened
    [[Sample.movement "T-1" "RECEIPT" 1 0, Sample.naive (Sample.movement "T-2" "RECEIPT" 1 1)]] []
    (Sample.fresh (by decide) (by decide)) (fun _ => le_rfl) (by decide) fun k => by
      change 0 ≤ (0 : Int) + ((if _ then (1 : Int) else 0) + ((if _ then 1 else 0) + 0))
      split <;> split <;> decide
  obtain ⟨⟨row, hrow, -⟩, -⟩ := hc.1 (Sample.movement "T-1" "RECEIPT" 1 0) (by decide)
  have hnone : (pushAll Sample.python Sample.opened [[Sample.movement "T-1" "RECEIPT" 1 0,
      Sample.naive (Sample.movement "T-2" "RECEIPT" 1 1)]]).2.ledger.get? "T-1" = none := by
    decide
  exact absurd (hnone.symm.trans hrow) (by simp)

end Server
