import InvenTory.Server.Legacy
import InvenTory.Server.Proof.Statements
import InvenTory.Server.Serving

/-!
# When the two strategies agree

Without rollbacks the items of a batch do the same in one session as in sessions of their own
(`impl_baseFree`). A rollback gives up what the items before have done, so an item may fail only
when those were answered from accepted receipts and did nothing (`failsAlone`). Then the strategies
agree (`strategies_agree`); else what was accepted can be lost (`legacy_loses`).
-/

namespace Server

open Relational Sql Sql.Prog

variable {py : Python}

/-! ## An item and the committed database -/

theorem staleCheck_baseFree (r : SyncReceipt) (p : TransactionPayload) :
    BaseFree (· = .rolledBack) (staleDomainRejectionShouldRetry r p) := by
  unfold staleDomainRejectionShouldRetry
  split
  · exact .ret _
  split
  · exact .ret _
  intro fs b b' w
  cases hfs : fs.head?.join with
  | some e =>
    have hrun : ∀ b, (attempt (select (·.quantity p.stock) : Tx Int)).run fs ⟨b, w⟩ =
        ⟨.ok (.error e), ⟨b, w⟩, fs.tail⟩ := by
      intro b
      simp only [attempt, select, stmt, hfs]
    refine .inl ⟨.rolledBack, rfl, ?_, ?_⟩
    · rw [run_bind_ok (hrun b)]
      rfl
    · rw [run_bind_ok (hrun b')]
      rfl
  | none =>
    have hrun : ∀ b, (attempt (select (·.quantity p.stock) : Tx Int)).run fs ⟨b, w⟩ =
        ⟨.ok (.ok (w.quantity p.stock)), ⟨b, w⟩, fs.tail⟩ := by
      intro b
      simp only [attempt, select, stmt, hfs]
    rw [run_bind_ok (hrun b), run_bind_ok (hrun b')]
    exact .inr ⟨_, w, fs.tail, rfl, rfl⟩

/-- **An item does the same in any session**, unless it hands back an expired receipt. -/
theorem impl_baseFree (env : Env) (p : TransactionPayload) (c : Option IngestPrefetch) :
    BaseFree (· = .expired) (ingestTransactionImpl py env p c) := by
  have hret : ∀ {r : Returned}, BaseFree (· = .expired) (pure r : Tx Returned) := .ret _
  have hweak : ∀ {q : Tx Returned}, BaseFree (fun _ => False) q → BaseFree (· = .expired) q :=
    fun h => h.weaken fun _ h => h.elim
  have hrow : RunsOnly (ItemStatement env) False (selectLedgerRow c p.transactionId) :=
    selectLedgerRow_runsOnly c _
  have hlook : RunsOnly (ItemStatement env) False (lookupReceipt c p.transactionId) :=
    lookupReceipt_runsOnly c _
  unfold ingestTransactionImpl
  refine hrow.baseFree.seq_always fun o => ?_
  split
  · exact (ledgerFirst_runsOnly c p _).baseFree.seq_always fun _ => .ret _
  refine hlook.baseFree.seq_always fun o => ?_
  split
  · exact hweak (ingestNew_runsOnly py c p).baseFree
  split
  · exact hret
  split
  · exact hweak (retryStale_runsOnly py c p).baseFree
  refine (staleCheck_baseFree _ p).seq ?_ fun a ha => ?_
  · rintro a rfl
    exact ⟨.expired, rfl, rfl⟩
  · cases a with
    | rolledBack => exact absurd rfl ha
    | answered retry =>
      cases retry with
      | true => exact hweak (retryStale_runsOnly py c p).baseFree
      | false => exact hret

/-- An item in a session of its own, and in one with another committed database. -/
theorem eval_item {env : Env} {p : TransactionPayload} {c : Option IngestPrefetch}
    {fs : List (Option Exn)} {db : Db} (b : Db) {res : Except Exn Returned} {cn : Conn Db}
    (h : (under fs (ingestTransactionImpl py env p c)).eval ⟨db, db⟩ = (res, cn))
    (hres : res ≠ .ok .expired) :
    cn.base = db ∧ (under fs (ingestTransactionImpl py env p c)).eval ⟨b, db⟩ = (res, ⟨b, cn.work⟩) := by
  rw [eval_under] at h ⊢
  rcases impl_baseFree env p c fs db b db with ⟨a, rfl, h1, -⟩ | ⟨r, w', fs', h1, h2⟩
  · rw [h1] at h
    cases h
    exact absurd rfl hres
  · rw [h1] at h
    cases h
    rw [h2]
    exact ⟨rfl, rfl⟩

/-! ## The handler -/

/-- In a session that has done nothing yet, both programs write and return the same receipt. -/
def SameReceipt (db : Db) (p : Tx SyncReceipt) (q : Tx (SyncReceipt × Origin)) : Prop :=
  (∃ r o w, p.eval ⟨db, db⟩ = (.ok r, ⟨db, w⟩) ∧ q.eval ⟨db, db⟩ = (.ok (r, o), ⟨db, w⟩)) ∨
    ∃ e w w', p.eval ⟨db, db⟩ = (.error e, ⟨db, w⟩) ∧ q.eval ⟨db, db⟩ = (.error e, ⟨db, w'⟩)

namespace SameReceipt

variable {db : Db}

theorem write {f : Db → Except Exn Db} (r : SyncReceipt) (o : Origin) :
    SameReceipt db (execute f >>= fun _ => pure r) (execute f >>= fun _ => pure (r, o)) := by
  cases h : f db with
  | ok w => exact .inl ⟨r, o, w, eval_execute_bind h, eval_execute_bind h⟩
  | error e =>
    exact .inr ⟨e, db, db, eval_bind_error (eval_execute_error h),
      eval_bind_error (eval_execute_error h)⟩

theorem select {α : Type} {f : Db → α} {k : α → Tx SyncReceipt} {k' : α → Tx (SyncReceipt × Origin)}
    (h : SameReceipt db (k (f db)) (k' (f db))) :
    SameReceipt db (select f >>= k) (select f >>= k') := by
  unfold SameReceipt
  rw [eval_select_bind, eval_select_bind]
  exact h

theorem attemptSelect {α : Type} {f : Db → α} {k : Except Exn α → Tx SyncReceipt}
    {k' : Except Exn α → Tx (SyncReceipt × Origin)}
    (h : SameReceipt db (k (.ok (f db))) (k' (.ok (f db)))) :
    SameReceipt db (attempt (Prog.select f) >>= k) (attempt (Prog.select f) >>= k') := h

/-- The receipt is committed, or handed to the session of the caller. -/
theorem handled {p : Tx SyncReceipt} {q : Tx (SyncReceipt × Origin)} (h : SameReceipt db p q)
    (fallback : SyncReceipt) : ∃ r o db',
      (do
        match ← attempt (session p) with
        | .ok r => pure r
        | .error _ => pure fallback : Prog Exn Db SyncReceipt).eval db = (.ok r, db') ∧
      (do
        match ← attempt q with
        | .ok x => pure x
        | .error _ =>
          rollback
          pure (fallback, .snapshot) : Tx (SyncReceipt × Origin)).eval ⟨db, db⟩ =
        (.ok (r, o), ⟨db, db'⟩) := by
  rcases h with ⟨r, o, w, hp, hq⟩ | ⟨e, w, w', hp, hq⟩
  · refine ⟨r, o, w, ?_, ?_⟩
    · rw [eval_bind, eval_attempt, eval_session_ok hp]
      rfl
    · rw [eval_bind, eval_attempt, hq]
      rfl
  · refine ⟨fallback, .snapshot, db, ?_, ?_⟩
    · rw [eval_bind, eval_attempt, eval_session_error hp]
      rfl
    · rw [eval_bind, eval_attempt, hq]
      rfl

end SameReceipt

/-- The handler writes the same receipt, in the session of the caller. -/
theorem eval_handleErrorIn (s : Submission) (exc : Exn) (db w : Db) : ∃ r o db',
    (handleError s exc).eval db = (.ok r, db') ∧
      (handleErrorIn s exc).eval ⟨db, w⟩ = (.ok (r, o), ⟨db, db'⟩) := by
  have hroll : ∀ {α : Type} (k : Unit → Tx α),
      (rollback >>= k).eval ⟨db, w⟩ = (k ()).eval ⟨db, db⟩ := fun _ => rfl
  unfold handleError handleErrorIn
  simp only
  rw [hroll]
  split
  · refine SameReceipt.handled (.select ?_) _
    cases db.receipts.get? s.payload.transactionId with
    | some existing => exact .write _ _
    | none => exact .write _ _
  · refine SameReceipt.handled (.attemptSelect ?_) _
    cases db.receipts.get? s.payload.transactionId with
    | some r => exact .write _ _
    | none => exact .write _ _

/-! ## Replays -/

/-- The item is answered from an accepted receipt of the cache, and changes no quantity. -/
def replays (c : IngestPrefetch) (db : Db) (p : TransactionPayload) : Bool :=
  (c.receiptByTx p.transactionId).any (·.accepted) &&
    (p.transactionId ∉ c.ledgerTxIds ||
      (db.ledger.get? p.transactionId).all (·.quantityDelta = p.quantityDelta))

theorem replays_iff {c : IngestPrefetch} {db : Db} {p : TransactionPayload} :
    replays c db p = true ↔
      (∃ snap, c.receiptByTx p.transactionId = some snap ∧ snap.accepted = true) ∧
        ∀ row, p.transactionId ∈ c.ledgerTxIds → db.ledger.get? p.transactionId = some row →
          row.quantityDelta = p.quantityDelta := by
  unfold replays
  rw [Bool.and_eq_true, Option.any_eq_true, Bool.or_eq_true, decide_eq_true_eq, Option.all_eq_true]
  simp only [decide_eq_true_eq]
  refine and_congr_right fun _ => ⟨fun h row hk hrow => ?_, fun h => ?_⟩
  · exact h.resolve_left (fun hn => hn hk) row hrow
  · by_cases hk : p.transactionId ∈ c.ledgerTxIds
    · exact .inr fun row hrow => h row hk hrow
    · exact .inl hk

/-- A replay writes nothing. -/
theorem replays_unchanged {env : Env} {p : TransactionPayload} {c : IngestPrefetch}
    {fs : List (Option Exn)} {db b : Db} {a : Returned} {cn : Conn Db} (h : replays c db p = true)
    (hr : (under fs (ingestTransactionImpl py env p (some c))).eval ⟨b, db⟩ = (.ok a, cn)) :
    cn.work = db := by
  obtain ⟨⟨snap, hsnap, hacc⟩, hrow⟩ := replays_iff.1 h
  have hlookup : lookupReceipt (some c) p.transactionId = pure (some snap) := by
    unfold lookupReceipt
    simp only [hsnap, hacc, if_true]
  have hy := yields_under hr
  unfold ingestTransactionImpl at hy
  obtain ⟨o, c1, h1, h2⟩ := yields_bind_ok hy
  -- the ledger row is selected, or known to be absent
  have hsel : c1 = ⟨b, db⟩ ∧ ∀ row, o = some row → row.quantityDelta = p.quantityDelta := by
    unfold selectLedgerRow at h1
    split at h1
    · obtain ⟨he, rfl⟩ := yields_pure h1
      cases he
      exact ⟨rfl, fun row hr => by cases hr⟩
    · rename_i hknown
      obtain ⟨rfl, rfl⟩ := yields_select_ok (yields_mapError_ok h1)
      refine ⟨rfl, fun row hr => hrow row ?_ hr⟩
      by_contra hn
      exact hknown (by simpa using hn)
  obtain ⟨rfl, hq⟩ := hsel
  cases o with
  | some row =>
    have hedit : editLedgerRow env p row = pure () := by
      unfold editLedgerRow
      exact if_neg fun hne => hne (hq row rfl)
    obtain ⟨r, c2, h3, h4⟩ := yields_bind_ok h2
    unfold ledgerFirst at h3
    rw [hedit, hlookup] at h3
    obtain ⟨_, c3, h5, h6⟩ := yields_bind_ok h3
    obtain ⟨-, rfl⟩ := yields_pure h5
    obtain ⟨o', c4, h7, h8⟩ := yields_bind_ok h6
    obtain ⟨he, rfl⟩ := yields_pure h7
    cases he
    simp only [hacc, if_true] at h8
    rw [(yields_pure h4).2, (yields_pure h8).2]
  | none =>
    simp only at h2
    rw [hlookup] at h2
    obtain ⟨o', c2, h3, h4⟩ := yields_bind_ok h2
    obtain ⟨he, rfl⟩ := yields_pure h3
    cases he
    simp only [hacc, if_true] at h4
    rw [(yields_pure h4).2]

/-- In the sessions of their own an item fails only if all items before it were replays (`clean`), and
no check of a stored rejection fails. -/
def failsAlone (py : Python) (plan : Nat → List (Option Exn)) :
    Bool → IngestPrefetch → Db → List Item → Bool
  | _, _, _, [] => true
  | clean, c, db, (i, s) :: rest =>
    match (under (plan i) (ingestTransactionImpl py s.env s.payload (some c))).eval ⟨db, db⟩ with
    | (.ok (.live r), cn) =>
      failsAlone py plan (clean && replays c db s.payload) (c.record s.payload r) cn.work rest
    | (.ok .expired, _) => false
    | (.error exc, _) => clean &&
      match (handleError s exc).eval db with
      | (.ok r, db') => failsAlone py plan false (c.record s.payload r) db' rest
      | (.error _, _) => true

/-! ## The loops in step -/

/-- The answers that a rollback does not touch. -/
def Owned (st : LegacyState) : Prop := ∀ x ∈ st.answers, ∃ r, x.2 = .own r

theorem Owned.rolledBack {st : LegacyState} (h : Owned st) : st.rolledBack.answers = st.answers := by
  show st.answers.map (fun x => (x.1, x.2.expire)) = st.answers
  refine (List.map_congr_left fun x hx => ?_).trans (List.map_id _)
  obtain ⟨r, hr⟩ := h x hx
  obtain ⟨i, held⟩ := x
  cases hr
  rfl

theorem accepted_hold (st : LegacyState) (id : String) (r : SyncReceipt) (o : Origin) :
    (st.hold id r o).accepted = some r.accepted := by
  unfold LegacyState.hold
  cases o with
  | snapshot => rfl
  | created => rfl
  | loaded => simp only; split <;> rfl

/-- The flags of answers in either form. -/
def flags (rs : List (Nat × SyncReceipt)) : List (Nat × Option Bool) :=
  rs.map fun x => (x.1, some x.2.accepted)

def heldFlags (hs : List (Nat × Held)) : List (Nat × Option Bool) := hs.map fun x => (x.1, x.2.accepted)

theorem heldFlags_finish (st : LegacyState) (i : Nat) (s : Submission) (r : SyncReceipt) (o : Origin) :
    heldFlags (st.finish i s r o).answers = heldFlags st.answers ++ [(i, some r.accepted)] := by
  unfold heldFlags LegacyState.finish
  rw [List.map_append, List.map_singleton, accepted_hold]

section
variable {fs : List (Option Exn)} {st : LegacyState} {c : IngestPrefetch} {i : Nat} {s : Submission}
  {r : SyncReceipt} {o : Origin} {exc : Exn} {b db db' : Db} {cn : Conn Db}

theorem eval_ingestItemUnder_live (h : (under fs (ingestTransactionImpl py s.env s.payload
    (some c))).eval ⟨db, db⟩ = (.ok (.live r), cn)) :
    (ingestItemUnder py fs c s).eval db = (.ok (r, c.record s.payload r), cn.work) := by
  unfold ingestItemUnder
  rw [eval_bind, eval_attempt, eval_session_ok h]
  rfl

theorem eval_ingestItemUnder_error (h : (under fs (ingestTransactionImpl py s.env s.payload
    (some c))).eval ⟨db, db⟩ = (.error exc, cn)) (hh : (handleError s exc).eval db = (.ok r, db')) :
    (ingestItemUnder py fs c s).eval db = (.ok (r, c.record s.payload r), db') := by
  unfold ingestItemUnder
  rw [eval_bind, eval_attempt, eval_session_error h]
  simp only
  rw [eval_bind_ok hh, eval_pure]

theorem eval_ingestItemIn_live (h : (under fs (ingestTransactionImpl py s.env s.payload
    (some st.cache))).eval ⟨b, db⟩ = (.ok (.live r), cn)) :
    (ingestItemIn py fs st i s).eval ⟨b, db⟩ =
      (.ok (st.finish i s r (receiptOrigin py st.cache db s.payload)), cn) := by
  have hor : (orRollback (under fs (ingestTransactionImpl py s.env s.payload
      (some st.cache)))).eval ⟨b, db⟩ = (.ok (.live r), cn) := by
    unfold orRollback
    rw [eval_bind, eval_attempt, h]
    rfl
  unfold ingestItemIn
  rw [eval_bind_ok (show peek.eval ⟨b, db⟩ = (.ok db, ⟨b, db⟩) from rfl), eval_bind, eval_attempt, hor]
  rfl

theorem eval_ingestItemIn_error (h : (under fs (ingestTransactionImpl py s.env s.payload
    (some st.cache))).eval ⟨b, db⟩ = (.error exc, cn))
    (hh : (handleErrorIn s exc).eval ⟨cn.base, cn.base⟩ = (.ok (r, o), ⟨b, db'⟩)) :
    (ingestItemIn py fs st i s).eval ⟨b, db⟩ = (.ok (st.rolledBack.finish i s r o), ⟨b, db'⟩) := by
  have hor : (orRollback (under fs (ingestTransactionImpl py s.env s.payload
      (some st.cache)))).eval ⟨b, db⟩ = (.error exc, ⟨cn.base, cn.base⟩) := by
    unfold orRollback
    rw [eval_bind, eval_attempt, h]
    rfl
  unfold ingestItemIn
  rw [eval_bind_ok (show peek.eval ⟨b, db⟩ = (.ok db, ⟨b, db⟩) from rfl), eval_bind, eval_attempt, hor]
  simp only
  rw [eval_bind_ok hh, eval_pure]

end

theorem owned_finish {st : LegacyState} {db : Db} {i : Nat} {s : Submission}
    {r : SyncReceipt} (h : Owned st) (hr : replays st.cache db s.payload = true) :
    Owned (st.finish i s r (receiptOrigin py st.cache db s.payload)) := by
  obtain ⟨⟨snap, hsnap, hacc⟩, -⟩ := replays_iff.1 hr
  have ho : receiptOrigin py st.cache db s.payload = .snapshot := by
    unfold receiptOrigin
    simp only [hsnap, hacc, if_true]
  rw [ho]
  intro x hx
  rcases List.mem_append.1 hx with hx | hx
  · exact h x hx
  · cases List.mem_singleton.1 hx
    exact ⟨r, rfl⟩

/-- **The loops agree**: `b` is the database at the start of the transaction. -/
theorem eval_items {plan : Nat → List (Option Exn)} {b : Db} : ∀ {items : List Item} {clean : Bool}
    {st : LegacyState} {db : Db}, failsAlone py plan clean st.cache db items = true →
      (clean = true → db = b ∧ Owned st) → ∃ rs st' db',
        (ingestItemsUnder py plan st.cache items).eval db = (.ok rs, db') ∧
          (ingestItemsIn py plan st items).eval ⟨b, db⟩ = (.ok st', ⟨b, db'⟩) ∧
            heldFlags st'.answers = heldFlags st.answers ++ flags rs
  | [], clean, st, db, _, _ => ⟨[], st, db, rfl, rfl, by simp [flags]⟩
  | (i, s) :: rest, clean, st, db, hf, hclean => by
    unfold failsAlone at hf
    unfold ingestItemsUnder ingestItemsIn
    cases hrun : (under (plan i) (ingestTransactionImpl py s.env s.payload (some st.cache))).eval
        ⟨db, db⟩ with
    | mk res cn =>
    rw [hrun] at hf
    cases res with
    | ok a =>
      cases a with
      | expired => cases hf
      | live r =>
        obtain ⟨-, hrun'⟩ := eval_item b hrun (by simp)
        have hin := eval_ingestItemIn_live (i := i) hrun'
        have hrest : failsAlone py plan (clean && replays st.cache db s.payload)
          (st.finish i s r (receiptOrigin py st.cache db s.payload)).cache cn.work rest = true := hf
        obtain ⟨rs, st', db', h1, h2, h3⟩ := eval_items (b := b) hrest fun h => by
            obtain ⟨hc, hr⟩ := Bool.and_eq_true_iff.1 h
            obtain ⟨rfl, howned⟩ := hclean hc
            exact ⟨replays_unchanged hr hrun, owned_finish howned hr⟩
        refine ⟨(i, r) :: rs, st', db', ?_, ?_, ?_⟩
        · rw [eval_bind_ok (eval_ingestItemUnder_live hrun)]
          exact eval_bind_ok h1
        · rw [eval_bind_ok hin, h2]
        · rw [h3, heldFlags_finish, List.append_assoc]
          rfl
    | error exc =>
      obtain ⟨hc, hf⟩ := Bool.and_eq_true_iff.1 hf
      obtain ⟨rfl, howned⟩ := hclean hc
      obtain ⟨hbase, hrun'⟩ := eval_item db hrun (by simp)
      obtain ⟨r, o, db1, hout, hin⟩ := eval_handleErrorIn s exc db db
      rw [hout] at hf
      have hstep : (ingestItemIn py (plan i) st i s).eval ⟨db, db⟩ = _ :=
        eval_ingestItemIn_error hrun' hin
      have hrest : failsAlone py plan false (st.rolledBack.finish i s r o).cache db1 rest = true := hf
      obtain ⟨rs, st', db', h1, h2, h3⟩ := eval_items (b := db) hrest fun h => by cases h
      refine ⟨(i, r) :: rs, st', db', ?_, ?_, ?_⟩
      · rw [eval_bind_ok (eval_ingestItemUnder_error hrun hout)]
        exact eval_bind_ok h1
      · rw [eval_bind_ok hstep, h2]
      · rw [h3, heldFlags_finish, howned.rolledBack, List.append_assoc]
        rfl

/-! ## The batch -/

theorem lookup_map {α β : Type} (f : α → β) (i : Nat) : ∀ xs : List (Nat × α),
    (xs.map fun x => (x.1, f x.2)).lookup i = (xs.lookup i).map f
  | [] => rfl
  | (j, a) :: xs => by
    rw [List.map_cons, List.lookup_cons, List.lookup_cons, lookup_map f i xs]
    cases i == j <;> rfl

/-- Answers with the same flags, in the order of the request. -/
theorem flags_by_index {rs : List (Nat × SyncReceipt)} {hs : List (Nat × Held)}
    (h : heldFlags hs = flags rs) (n : Nat) :
    ((List.range n).filterMap fun i => hs.lookup i).map Held.accepted =
      (receiptsByIndex n rs).map fun r => some r.accepted := by
  unfold receiptsByIndex
  rw [List.map_filterMap, List.map_filterMap]
  refine List.filterMap_congr fun i _ => ?_
  have hi := congrArg (List.lookup i) h
  unfold heldFlags flags at hi
  rwa [lookup_map Held.accepted, lookup_map fun r : SyncReceipt => some r.accepted] at hi

/-- **The two strategies agree** on the accepted flags and on the database, if an item fails only when
those before it were replays. -/
theorem strategies_agree {plan : Nat → List (Option Exn)} {subs : List Submission} {db : Db}
    (h : Sortable subs →
      failsAlone py plan true (.loaded (subs.map (·.payload)) db) db (ordered subs) = true) :
    ((session (ingestBatchLegacy py plan subs)).eval db).1.map (List.map Held.accepted) =
        ((ingestBatchUnder py plan subs).eval db).1.map (List.map fun r => some r.accepted) ∧
      ((session (ingestBatchLegacy py plan subs)).eval db).2 =
        ((ingestBatchUnder py plan subs).eval db).2 := by
  unfold ingestBatchLegacy ingestBatchUnder
  split
  · rename_i hs
    let st0 : LegacyState := ⟨.loaded (subs.map (·.payload)) db, [], []⟩
    have h0 : failsAlone py plan true st0.cache db (ordered subs) = true := h hs
    obtain ⟨rs, st', db', h1, h2, h3⟩ := eval_items (b := db) h0 fun _ =>
      ⟨rfl, fun x hx => by cases hx⟩
    have hlegacy : (IngestPrefetch.load (subs.map (·.payload)) >>= fun prefetch =>
        ingestItemsIn py plan ⟨prefetch, [], []⟩ (ordered subs) >>= fun st =>
          pure ((List.range subs.length).filterMap fun i => st.answers.lookup i)).eval ⟨db, db⟩ =
        (.ok ((List.range subs.length).filterMap fun i => st'.answers.lookup i), ⟨db, db'⟩) := by
      rw [eval_bind_ok (eval_load _ _), eval_bind_ok h2, eval_pure]
    rw [eval_session_ok hlegacy, eval_bind_ok (eval_reading_load _ _), eval_bind_ok h1, eval_pure]
    refine ⟨?_, rfl⟩
    show Except.ok _ = Except.ok _
    rw [flags_by_index h3 subs.length]
  · exact ⟨rfl, rfl⟩

/-! ## Without faults -/

theorem eval_ingestItemsUnder_nil : ∀ {items : List Item} {c : IngestPrefetch} {db : Db},
    (ingestItemsUnder py (fun _ => []) c items).eval db = (ingestItems py c items).eval db
  | [], _, _ => rfl
  | (i, s) :: rest, c, db => by
    have hitem : (ingestItemUnder py [] c s).eval db = (ingestItem py c s).eval db := by
      unfold ingestItemUnder ingestItem
      rw [eval_bind, eval_bind, eval_attempt, eval_attempt,
        eval_session_congr (eval_under_nil (ingestTransactionImpl py s.env s.payload (some c)) ⟨db, db⟩)]
        <;> rfl
    unfold ingestItemsUnder ingestItems
    rw [eval_bind, eval_bind, hitem]
    cases (ingestItem py c s).eval db with
    | mk res db1 =>
      cases res with
      | error e => rfl
      | ok x =>
        simp only
        rw [eval_bind, eval_bind, eval_ingestItemsUnder_nil]

/-- Under empty schedules the items run as they do in `ingestBatch`. -/
theorem eval_ingestBatchUnder_nil (subs : List Submission) (db : Db) :
    (ingestBatchUnder py (fun _ => []) subs).eval db = (ingestBatch py subs).eval db := by
  unfold ingestBatchUnder ingestBatch
  split
  · rw [eval_bind_ok (eval_reading_load _ _), eval_bind_ok (eval_reading_load _ _), eval_bind,
      eval_bind, eval_ingestItemsUnder_nil]
  · rfl

/-! ## Sample runs -/

namespace Sample

def connectionLost : Exn := ⟨"OperationalError", "server closed the connection unexpectedly"⟩

/-- The first statement of the second item fails. -/
def secondFails (i : Nat) : List (Option Exn) := if i = 1 then [some connectionLost] else []

def twoReceipts : List Submission := [movement "T-1" "RECEIPT" 5 0, movement "T-2" "RECEIPT" 5 1]

/-- The database after the first of them. -/
def firstReceived : Db := (push python .empty [movement "T-1" "RECEIPT" 5 0]).2

end Sample

/-- A replay and a failure. -/
theorem strategies_agree_replay :
    ((session (ingestBatchLegacy Sample.python Sample.secondFails Sample.twoReceipts)).eval
        Sample.firstReceived).2 =
      ((ingestBatchUnder Sample.python Sample.secondFails Sample.twoReceipts).eval
        Sample.firstReceived).2 :=
  (strategies_agree fun _ => by decide +kernel).2

/-- What was accepted before a failure is lost. -/
theorem legacy_loses : ¬ ∀ py plan subs db,
    ((session (ingestBatchLegacy py plan subs)).eval db).1.map (List.map Held.accepted) =
        ((ingestBatchUnder py plan subs).eval db).1.map (List.map fun r => some r.accepted) ∧
      ((session (ingestBatchLegacy py plan subs)).eval db).2.ledger =
        ((ingestBatchUnder py plan subs).eval db).2.ledger ∧
      ((session (ingestBatchLegacy py plan subs)).eval db).2.balances =
        ((ingestBatchUnder py plan subs).eval db).2.balances ∧
      ((session (ingestBatchLegacy py plan subs)).eval db).2.receipts =
        ((ingestBatchUnder py plan subs).eval db).2.receipts := by
  intro h
  have hl := (h Sample.python Sample.secondFails Sample.twoReceipts .empty).2.1
  have h1 : (((session (ingestBatchLegacy Sample.python Sample.secondFails
      Sample.twoReceipts)).eval .empty).2.ledger.get? "T-1").isSome = false := by decide +kernel
  have h2 : (((ingestBatchUnder Sample.python Sample.secondFails
      Sample.twoReceipts).eval .empty).2.ledger.get? "T-1").isSome = true := by decide +kernel
  rw [hl, h2] at h1
  cases h1

end Server
