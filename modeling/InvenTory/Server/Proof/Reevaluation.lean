import InvenTory.Server.Proof.Admission

/-!
# Payloads with a stored rejection

What becomes of a payload that has a rejected receipt and no ledger row depends on the reason that is
stored. The receipt of a server error is deleted, and the payload ingested as a new one; so is that of a
rejection for want of stock, if the balance can take the payload and is no longer the one that the
reason records. Any other rejection is the answer again (`reevaluated`), even if the payload is now one
that a new id would be accepted for (`correction_rejected`).
-/

namespace Server

open Relational Sql Sql.Prog Py

variable {py : Python} {env : Env} {o : Option IngestPrefetch} {p : TransactionPayload} {db : Db}

/-- The store, the product and the device of a payload exist. -/
structure Known (db : Db) (p : TransactionPayload) : Prop where
  store : (db.stores.get? p.storeId).isSome
  product : (db.products.get? p.productId).isSome
  device : (db.devices.get? p.deviceId).isSome

/-- The payload is rejected with a receipt and has no ledger row, and the cache, if there is one, says
so. -/
structure Rejected (o : Option IngestPrefetch) (db : Db) (p : TransactionPayload)
    (r : SyncReceipt) : Prop where
  ledger : db.ledger.get? p.transactionId = none
  receipt : db.receipts.get? p.transactionId = some r
  rejected : r.accepted = false
  cache : ∀ c, o = some c → c.receiptByTx p.transactionId = some r

/-- The balance that a rejection for want of stock records, if it is not negative. -/
def SyncReceipt.recordedBalance (r : SyncReceipt) : Option Int :=
  (r.rejectionReason.bind matchInsufficientStock).filter (0 ≤ ·)

/-- The payload passes the validation, and its balance can take it. -/
def Merits (py : Python) (db : Db) (p : TransactionPayload) : Prop :=
  validatePayload py p = none ∧ (0 ≤ db.quantity p.stock + p.quantityDelta ∨ 0 < p.quantityDelta)

theorem nonzero_of_valid (h : validatePayload py p = none) : p.quantityDelta ≠ 0 := by
  unfold validatePayload at h
  intro h0
  simp only [h0, if_true] at h
  split at h <;> [cases h; split at h] <;> [cases h; split at h] <;> [cases h; split at h] <;>
    [cases h; split at h] <;> [cases h; split at h] <;> cases h

theorem merits_iff (h : validatePayload py p = none) : Merits py db p ↔ Admits db p := by
  have hne := nonzero_of_valid h
  unfold Merits Admits Counters.Admits
  rw [and_iff_right h]
  omega

/-- A payload without a ledger row or a receipt is accepted on its merits. -/
theorem eval_ingestNew_merits (env : Env) (o : Option IngestPrefetch) {cn : Conn Db}
    (hk : Known cn.work p) (hl : cn.work.ledger.get? p.transactionId = none)
    (hn : cn.work.receipts.get? p.transactionId = none) :
    ∃ r cn', (ingestNew py env o p).eval cn = (.ok (.live r), cn') ∧
      (r.accepted = true ↔ Merits py cn.work p) := by
  cases hv : validatePayload py p with
  | some reason =>
    have hput := insertReceipt_none (r := makeRejectedReceipt env p.transactionId reason) hn
    have hreject : (ingestNew py env o p).eval cn =
        (.ok (.live (makeRejectedReceipt env p.transactionId reason)), ⟨cn.base, { cn.work with
          receipts := cn.work.receipts.put (makeRejectedReceipt env p.transactionId reason) }⟩) := by
      unfold ingestNew
      rw [hv]
      exact (eval_execute_bind hput).trans rfl
    refine ⟨_, _, hreject, ?_⟩
    · refine iff_of_false (by simp [makeRejectedReceipt]) fun hm => ?_
      rw [hm.1] at hv
      cases hv
  | none =>
    have hr : Ready py cn.work p := ⟨hv, hk.store, hk.product, hk.device⟩
    rw [eval_ingestNew env o hr, merits_iff hv]
    by_cases ha : Admits cn.work p
    · obtain ⟨w, hw, -⟩ := eval_checkAndInsert_admits env cn hr hl hn ha
      exact ⟨_, _, hw, iff_of_true rfl ha⟩
    · exact ⟨_, _, eval_checkAndInsert_refuses env cn hn ha, iff_of_false (by simp [makeRejectedReceipt]) ha⟩

theorem eval_retryStale_merits (py : Python) (env : Env) (o : Option IngestPrefetch) (hk : Known db p)
    (hl : db.ledger.get? p.transactionId = none) :
    ∃ r cn', (retryStale py env o p).eval ⟨db, db⟩ = (.ok (.live r), cn') ∧
      (r.accepted = true ↔ Merits py db p) := by
  have hn : (db.deleteReceipt p.transactionId).receipts.get? p.transactionId = none :=
    (Table.get?_erase ..).trans (if_pos rfl)
  have hknown : Known (db.deleteReceipt p.transactionId) p := ⟨hk.store, hk.product, hk.device⟩
  rw [eval_retryStale]
  exact eval_ingestNew_merits env o hknown hl hn

/-- The check of a stored rejection asks whether the balance can take the payload and has changed. -/
theorem eval_staleCheck_answers (r : SyncReceipt) (p : TransactionPayload) (cn : Conn Db) :
    ∃ retry, (staleDomainRejectionShouldRetry r p).eval cn = (.ok (.answered retry), cn) ∧
      (retry = true ↔ ∃ n, r.recordedBalance = some n ∧
        0 ≤ cn.work.quantity p.stock + p.quantityDelta ∧ cn.work.quantity p.stock ≠ n) := by
  unfold staleDomainRejectionShouldRetry SyncReceipt.recordedBalance
  cases r.rejectionReason.bind matchInsufficientStock with
  | none => exact ⟨false, rfl, by simp⟩
  | some n =>
    by_cases hn : n < 0
    · simp only [hn, if_true]
      exact ⟨false, rfl, by simp [hn]⟩
    · simp only [hn, if_false]
      rw [eval_bind_ok (eval_attempt ..)]
      have hn' : 0 ≤ n := by omega
      exact ⟨_, rfl, by simp [hn']⟩

/-- **A stored rejection.** What happens to a payload whose store, product and device exist, and that has
a rejected receipt and no ledger row, when no statement fails: after a server error it is accepted on its merits;
after a rejection for want of stock it is accepted on its merits and only if its balance can take it,
provided that the balance has changed or the payload is still too much for it; after any other
rejection that one is the answer. -/
theorem reevaluated (py : Python) (env : Env) {old : SyncReceipt} (hk : Known db p) (hr : Rejected o db p old)
    (hslip : isServerInternalErrorReason py old.rejectionReason = false →
      old.recordedBalance = some (db.quantity p.stock) → db.quantity p.stock + p.quantityDelta < 0) :
    ∃ r cn, (ingestTransactionImpl py env p o).eval ⟨db, db⟩ = (.ok (.live r), cn) ∧
      (r.accepted = true ↔ Merits py db p ∧
        (isServerInternalErrorReason py old.rejectionReason = false →
          old.recordedBalance.isSome ∧ 0 ≤ db.quantity p.stock + p.quantityDelta)) ∧
      (isServerInternalErrorReason py old.rejectionReason = false → old.recordedBalance = none →
        r = old ∧ cn = ⟨db, db⟩) := by
  have hlookup : (lookupReceipt o p.transactionId).eval ⟨db, db⟩ = (.ok (some old), ⟨db, db⟩) := by
    cases o with
    | none =>
      unfold lookupReceipt
      rw [eval_select, hr.receipt]
    | some c =>
      have hc : (lookupReceipt (some c) p.transactionId).eval ⟨db, db⟩ =
          (.ok (db.receipts.get? p.transactionId), ⟨db, db⟩) :=
        eval_lookupReceipt ((hr.cache c rfl).trans hr.receipt.symm)
      rwa [hr.receipt] at hc
  unfold ingestTransactionImpl
  rw [eval_bind_ok (eval_selectLedgerRow _ hr.ledger)]
  simp only
  rw [eval_bind_ok hlookup]
  simp only [hr.rejected, Bool.false_eq_true, if_false]
  cases hinternal : isServerInternalErrorReason py old.rejectionReason with
  | true =>
    obtain ⟨r, cn, hretry, hacc⟩ := eval_retryStale_merits py env o hk hr.ledger
    exact ⟨r, cn, hretry, by simp [hacc], fun h => by cases h⟩
  | false =>
    obtain ⟨retry, hcheck, hiff⟩ := eval_staleCheck_answers old p ⟨db, db⟩
    simp only [Bool.false_eq_true, if_false, true_implies]
    rw [eval_bind_ok hcheck]
    cases retry with
    | true =>
      obtain ⟨n, hn, hge, -⟩ := hiff.1 rfl
      obtain ⟨r, cn, hretry, hacc⟩ := eval_retryStale_merits py env o hk hr.ledger
      refine ⟨r, cn, hretry, ?_, fun h => ?_⟩
      · rw [hacc, hn]
        exact ⟨fun h => ⟨h, rfl, hge⟩, And.left⟩
      · rw [hn] at h
        cases h
    | false =>
      refine ⟨old, _, rfl, ?_, fun _ => ⟨rfl, rfl⟩⟩
      rw [hr.rejected]
      refine iff_of_false (by simp) fun ⟨_, hsome, hge⟩ => ?_
      obtain ⟨n, hn⟩ := Option.isSome_iff_exists.1 hsome
      by_cases heq : db.quantity p.stock = n
      · have hlt := hslip hinternal (heq ▸ hn)
        omega
      · exact absurd (hiff.2 ⟨n, hn, hge, heq⟩) (by simp)

/-! ## Runs -/

namespace Sample

/-- A sale without stock, then a receipt. -/
def restocked : Db :=
  (push python (push python .empty [movement "T-1" "SALE" (-5) 0]).2
    [movement "T-2" "RECEIPT" 10 1000]).2

/-- A receipt, and one of the quantity 0. -/
def refused : Db :=
  (push python .empty [movement "T-0" "RECEIPT" 10 0, movement "T-1" "RECEIPT" 0 1000]).2

end Sample

/-- The sale again, now of six. -/
theorem reevaluated_sale : ∃ r cn, (ingestTransactionImpl Sample.python Sample.env
    (Sample.movement "T-1" "SALE" (-6) 0).payload none).eval ⟨Sample.restocked, Sample.restocked⟩ =
      (.ok (.live r), cn) ∧ r.accepted = true := by
  obtain ⟨old, hold⟩ : ∃ old, Sample.restocked.receipts.get? "T-1" = some old :=
    Option.isSome_iff_exists.1 (by decide +kernel)
  have hfacts : ∀ r ∈ Sample.restocked.receipts.get? "T-1", r.accepted = false ∧
      isServerInternalErrorReason Sample.python r.rejectionReason = false ∧
        r.recordedBalance = some 0 := by decide +kernel
  obtain ⟨hrejected, hinternal, hbalance⟩ := hfacts old hold
  have hknown : Known Sample.restocked (Sample.movement "T-1" "SALE" (-6) 0).payload :=
    ⟨by decide +kernel, by decide +kernel, by decide +kernel⟩
  obtain ⟨r, cn, hr, hiff, -⟩ := reevaluated Sample.python Sample.env (o := none) hknown
    ⟨by decide +kernel, hold, hrejected, fun _ h => by cases h⟩ fun _ h => by
      rw [hbalance] at h
      exact absurd (Option.some.inj h) (by decide +kernel)
  refine ⟨r, cn, hr, hiff.2 ⟨⟨by decide +kernel, .inl ?_⟩, fun _ => ⟨by rw [hbalance]; rfl, ?_⟩⟩⟩
  · decide +kernel
  · decide +kernel

/-- **A corrected quantity** is answered with the rejection of the one that was 0. -/
theorem correction_rejected : ¬ ∀ py env o p db old, Known db p → Rejected o db p old →
    ∃ r cn, (ingestTransactionImpl py env p o).eval ⟨db, db⟩ = (.ok (.live r), cn) ∧
      (r.accepted = true ↔ Merits py db p) := by
  intro h
  obtain ⟨old, hold⟩ : ∃ old, Sample.refused.receipts.get? "T-1" = some old :=
    Option.isSome_iff_exists.1 (by decide +kernel)
  have hrejected : ∀ r ∈ Sample.refused.receipts.get? "T-1", r.accepted = false := by decide +kernel
  let p := (Sample.movement "T-1" "RECEIPT" 5 1000).payload
  obtain ⟨r, cn, hr, hiff⟩ := h Sample.python Sample.env none p Sample.refused old
    ⟨by decide +kernel, by decide +kernel, by decide +kernel⟩
    ⟨by decide +kernel, hold, hrejected old hold, fun _ h => by cases h⟩
  have hmerits : Merits Sample.python Sample.refused p := ⟨by decide +kernel, .inr (by decide)⟩
  have hanswer : ((ingestTransactionImpl Sample.python Sample.env p none).eval
      ⟨Sample.refused, Sample.refused⟩).1.toOption.map (fun
        | .live r => r.accepted
        | .expired => false) = some false := by decide +kernel
  rw [hr] at hanswer
  have hfalse : r.accepted = false := Option.some.inj hanswer
  have htrue := hiff.2 hmerits
  rw [hfalse] at htrue
  cases htrue

end Server
