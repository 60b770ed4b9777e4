import InvenTory.Server.Sessions
import InvenTory.Server.Proof.Convergence
import InvenTory.Server.Proof.Integrity

/-!
# Concurrent movements of a balance

Requests with new and distinct ids, statement by statement and in any order. Whatever fails, each
session that commits moves the balances as it moves the ledger, so that they agree in every state
(`concurrent_integrity`). No balance is negative as long as a movement that takes stock finds enough
of it when its upsert is executed (`concurrent_stock`): the check of the item is an earlier statement,
and two items that both pass it can sell the same units (`concurrent_oversell`).
-/

namespace Server

open Relational Sql Sql.Prog

variable {ι : Type}

/-- By how much the balance of a key exceeds the sum of its ledger rows. -/
def Db.drift (db : Db) (k : StockKey) : Int := db.quantity k - db.projection k

/-! ## Statements -/

/-- `f` moves the drifts by `d`, and no ledger row but that of `id`. -/
def Drifts (id : String) (d : StockKey → Int) (f : Db → Except Exn Db) : Prop :=
  ∀ db db', f db = .ok db' → (∀ k, db'.drift k = db.drift k + d k) ∧
    ∀ id', id' ≠ id → db'.ledger.get? id' = db.ledger.get? id'

theorem SideStatement.keeps {f : Db → Except Exn Db} (h : SideStatement f) {db db' : Db}
    (hf : f db = .ok db') : db'.ledger = db.ledger ∧ db'.balances = db.balances := by
  cases h with
  | insertStore r => exact ⟨(insertStore_frame hf).ledger, (insertStore_frame hf).balances⟩
  | deleteStore id => exact ⟨(deleteStore_frame hf).ledger, (deleteStore_frame hf).balances⟩
  | insertProduct r => exact ⟨(insertProduct_frame hf).ledger, (insertProduct_frame hf).balances⟩
  | insertDevice r => exact ⟨(insertDevice_frame hf).ledger, (insertDevice_frame hf).balances⟩
  | insertReceipt r =>
    rw [(insertReceipt_ok hf).2]
    exact ⟨rfl, rfl⟩
  | updateReceipt r =>
    cases hf
    exact ⟨rfl, rfl⟩
  | deleteReceipt id =>
    cases hf
    exact ⟨rfl, rfl⟩
  | insertDayBook b => exact ⟨(insertDayBook_frame hf).ledger, (insertDayBook_frame hf).balances⟩
  | insertDayBookEntry e =>
    exact ⟨(insertDayBookEntry_frame hf).ledger, (insertDayBookEntry_frame hf).balances⟩
  | setOpeningBalance id total =>
    cases hf
    exact ⟨rfl, rfl⟩

theorem SideStatement.drifts {f : Db → Except Exn Db} (h : SideStatement f) (id : String) :
    Drifts id 0 f := by
  intro db db' hf
  obtain ⟨hl, hb⟩ := h.keeps hf
  refine ⟨fun k => ?_, fun id' _ => by rw [hl]⟩
  unfold Db.drift Db.projection
  rw [quantity_congr hb, hl]
  simp

theorem insertLedger_drifts (r : InventoryTransaction) :
    Drifts r.transactionId (fun k => -Db.contribution k r) (·.insertLedger r) := by
  intro db db' hf
  obtain ⟨hnew, rfl⟩ := insertLedger_ok hf
  refine ⟨fun k => ?_, fun id' hne => Table.get?_put_of_ne _ (Ne.symm hne)⟩
  have ht := Table.total_put_new (Db.contribution k) hnew
  show db.quantity k - (db.ledger.put r).total (Db.contribution k) = _
  rw [ht]
  show _ = db.quantity k - db.ledger.total (Db.contribution k) + -Db.contribution k r
  omega

theorem upsertStockBalance_drifts (id balanceId : String) (k : StockKey) (delta : Int)
    (now : DateTime) : Drifts id (fun k' => if k = k' then delta else 0)
      (·.upsertStockBalance balanceId k delta now) := by
  intro db db' hf
  obtain ⟨hl, -, hq, -⟩ := upsertStockBalance_ok hf
  refine ⟨fun k' => ?_, fun id' _ => by rw [hl]⟩
  unfold Db.drift Db.projection
  rw [hq, hl]
  dsimp only
  omega

theorem Drifts.nil (id : String) : Drifts id 0 (replay ([] : Log Exn Db)) := by
  intro db db' hf
  cases hf
  exact ⟨fun k => (add_zero _).symm, fun _ _ => rfl⟩

theorem Drifts.concat {id : String} {d e : StockKey → Int} {l : Log Exn Db}
    {f : Db → Except Exn Db} (h : Drifts id d (replay l)) (hf : Drifts id e f) :
    Drifts id (d + e) (replay (l ++ [f])) := by
  intro db db' hr
  obtain ⟨v, hv, hfv⟩ := replay_concat_ok hr
  obtain ⟨hd, hl⟩ := h db v hv
  obtain ⟨he, hl'⟩ := hf v db' hfv
  refine ⟨fun k => ?_, fun id' hne => (hl' id' hne).trans (hl id' hne)⟩
  rw [he, hd]
  show _ = db.drift k + (d k + e k)
  omega

theorem Drifts.side {id : String} {d : StockKey → Int} (f : Db → Except Exn Db) (l : Log Exn Db)
    (hf : SideStatement f) (h : Drifts id d (replay l)) : Drifts id d (replay (l ++ [f])) := by
  have hc := h.concat (hf.drifts id)
  rwa [add_zero] at hc

/-! ## An item -/

/-- A session that returns leaves the drifts as they were. -/
def Balances {α : Type} (id : String) (r : Except Exn α) (l : Log Exn Db) (_ : Db) : Prop :=
  ∀ a, r = .ok a → Drifts id 0 (replay l)

theorem balances_error {α : Type} (id : String) (e : Exn) (l : Log Exn Db) (db : Db) :
    Balances (α := α) id (.error e) l db := fun _ h => by cases h

section
variable {ρ : Rules Exn Db} {inv : Db → Prop} {π : Party Db} {env : Env} {l : Log Exn Db} {db : Db}
  {p : TransactionPayload}

/-- A part of a session that only runs side statements keeps the drift of the log. -/
theorem side_meets {α : Type} {prog : Tx α} {c : Code SideStatement False prog} {R : Prop}
    {id : String} {d : StockKey → Int} (h : Drifts id d (replay l)) :
    (sideCode c : Code (ItemStatement env) R prog).script.Meets ρ inv π
      (fun _ l _ => Drifts id d (replay l)) l db := by
  unfold sideCode
  rw [c.script_mono]
  exact c.only.meets Drifts.side False.elim h

/-- A side part that ends a session. -/
theorem side_balances {α : Type} {prog : Tx α} {c : Code SideStatement False prog} {R : Prop}
    {id : String} (h : Drifts id 0 (replay l)) :
    (sideCode c : Code (ItemStatement env) R prog).script.Meets ρ inv π (Balances id) l db :=
  (side_meets h).mono fun _ _ _ _ hl _ _ => hl

theorem insertMovement_meets {R : Prop} (h : Drifts p.transactionId 0 (replay l)) :
    (insertMovement.code env R p).script.Meets ρ inv π (Balances p.transactionId) l db := by
  have hQ := balances_error (α := Returned) p.transactionId
  refine Code.meets_execute_seq_ok hQ fun _ _ _ _ _ _ _ _ => ?_
  have h1 := h.concat (insertLedger_drifts (p.ledgerRow env))
  refine Code.meets_seq_ok hQ ((side_meets h1).mono fun _ _ _ _ h2 _ _ => ?_)
  refine Code.meets_execute_seq_ok hQ fun _ _ _ _ _ _ _ _ => ?_
  have h3 := h2.concat (upsertStockBalance_drifts p.transactionId env.balanceId p.stock
    p.quantityDelta env.now)
  refine Code.meets_execute_seq_ok hQ fun _ _ _ _ _ _ _ _ => ?_
  have h4 := h3.side _ _ (.insertReceipt (makeAcceptedReceipt env p.transactionId))
  -- the upsert makes up for the ledger row
  have hsum : ((0 + fun k => -Db.contribution k (p.ledgerRow env)) + fun k =>
      if p.stock = k then p.quantityDelta else 0) = (0 : StockKey → Int) := by
    funext k
    show 0 + -Db.contribution k (p.ledgerRow env) + (if p.stock = k then p.quantityDelta else 0) = 0
    rw [contribution_accepted rfl]
    show 0 + -(if p.stock = k then p.quantityDelta else 0) +
      (if p.stock = k then p.quantityDelta else 0) = 0
    omega
  rw [hsum] at h4
  exact fun _ _ _ _ _ => h4

theorem checkAndInsert_meets {R : Prop} (h : Drifts p.transactionId 0 (replay l)) :
    (checkAndInsert.code env R p).script.Meets ρ inv π (Balances p.transactionId) l db := by
  refine Code.meets_cond (fun _ => ?_) fun _ => insertMovement_meets h
  refine Code.meets_select_seq_ok (balances_error _) fun _ _ _ _ _ _ => ?_
  exact Code.meets_cond (fun _ => side_balances h) fun _ => insertMovement_meets h

theorem ingestNew_meets {py : Python} {R : Prop} {c : Option IngestPrefetch}
    (h : Drifts p.transactionId 0 (replay l)) :
    (ingestNew.code py env R c p).script.Meets ρ inv π (Balances p.transactionId) l db := by
  have hQ := balances_error (α := Returned) p.transactionId
  unfold ingestNew.code
  delta ingestNew
  simp only [id]
  generalize validatePayload py p = o
  cases o with
  | some reason => exact side_balances h
  | none => ?_
  refine Code.meets_seq_ok hQ ((side_meets h).mono fun _ _ _ _ h1 _ _ => ?_)
  refine Code.meets_seq_ok hQ ((side_meets h1).mono fun _ _ _ _ h2 _ _ => ?_)
  exact Code.meets_seq_ok hQ ((side_meets h2).mono fun _ _ _ _ h3 _ _ => checkAndInsert_meets h3)

theorem retryStale_meets {py : Python} {R : Prop} {c : Option IngestPrefetch}
    (h : Drifts p.transactionId 0 (replay l)) :
    (retryStale.code py env R c p).script.Meets ρ inv π (Balances p.transactionId) l db :=
  Code.meets_execute_seq_ok (balances_error _) fun _ _ _ _ _ _ _ _ =>
    ingestNew_meets (h.side _ _ (.deleteReceipt p.transactionId))

/-- An id that the cache does not have is not looked up. -/
theorem selectLedgerRow_meets {R : Prop} {c : IngestPrefetch} {id : String}
    (hc : id ∉ c.ledgerTxIds) {Q : Except Exn (Option InventoryTransaction) → Log Exn Db → Db → Prop}
    (h : ∀ db', π.rely db db' → inv db' → Q (.ok none) l db') :
    (sideCode (selectLedgerRow.code (some c) id) :
      Code (ItemStatement env) R _).script.Meets ρ inv π Q l db := by
  unfold sideCode
  rw [Code.script_mono]
  refine Code.meets_cond (fun _ => h) fun hn => absurd ?_ hn
  simpa using hc

theorem ingestTransactionImpl_meets {py : Python} {c : IngestPrefetch}
    (hc : p.transactionId ∉ c.ledgerTxIds) (h : Drifts p.transactionId 0 (replay l)) :
    (ingestTransactionImpl.code py env p (some c)).script.Meets ρ inv π
      (Balances p.transactionId) l db := by
  have hQ := balances_error (α := Returned) p.transactionId
  refine Code.meets_seq_ok hQ (selectLedgerRow_meets hc fun _ _ _ row hrow => ?_)
  cases hrow
  refine Code.meets_seq_ok hQ ((side_meets h).mono fun _ _ _ _ h1 r _ => ?_)
  cases r with
  | none => exact ingestNew_meets h1
  | some r =>
    refine Code.meets_cond (fun _ _ _ _ _ _ => h1) fun _ => ?_
    refine Code.meets_cond (fun _ => retryStale_meets h1) fun _ => ?_
    refine Code.meets_seq_ok hQ ?_
    rw [Code.script_mono]
    refine ((staleDomainRejectionShouldRetry.code r p).only.meets Drifts.side
      (fun _ => Drifts.nil _) h1).mono fun _ _ _ _ h2 a _ => ?_
    cases a with
    | answered retry =>
      cases retry with
      | true => exact retryStale_meets h2
      | false => exact fun _ _ _ _ _ => h2
    | rolledBack => exact fun _ _ _ _ _ => h2

end

/-! ## A request -/

/-- A request relies on the others not to touch the ledger rows of its ids, and does not touch
theirs. -/
def owner (ids : List String) : Party Db where
  rely db db' := ∀ id ∈ ids, db'.ledger.get? id = db.ledger.get? id
  guar db db' := ∀ id, id ∉ ids → db'.ledger.get? id = db.ledger.get? id
  refl _ _ _ := rfl
  trans h h' id hid := (h' id hid).trans (h id hid)

/-- The balances agree with the ledger. -/
def Db.Balanced (db : Db) : Prop := ∀ k, db.drift k = 0

/-- The commit of a session that leaves the drifts alone. -/
theorem Drifts.commit {id : String} {ids : List String} (hid : id ∈ ids) {l : Log Exn Db}
    {db db' : Db} (h : Drifts id 0 (replay l)) (hi : db.Balanced) (hr : replay l db = .ok db') :
    db'.Balanced ∧ (owner ids).guar db db' := by
  obtain ⟨hd, hl⟩ := h db db' hr
  refine ⟨fun k => ?_, fun id' hne => hl id' ?_⟩
  · rw [hd, hi k]
    rfl
  · rintro rfl
    exact hne hid

section
variable {ρ : Rules Exn Db} {ids : List String} {py : Python} {db : Db}

theorem handleError_meets {s : Submission} (exc : Exn) (hid : s.id ∈ ids) :
    (handleError.code s exc).flow.Meets ρ Db.Balanced (owner ids) (fun _ _ => True) db :=
  (handleError.code s exc).only.meets Drifts.side (Drifts.nil s.id)
    fun _ _ _ hi hl hr => hl.commit hid hi hr

/-- The answer of an item whose session raised or could not be committed. -/
theorem handled_meets {c : IngestPrefetch} {s : Submission} {exc : Exn} (hid : s.id ∈ ids)
    {hS : ∀ f, SideStatement f → AnyStatement f} {hR : False → True} :
    (FlowCode.seq ((handleError.code s exc).mono hS hR) fun r =>
      FlowCode.ret (r, c.record s.payload r)).flow.Meets ρ Db.Balanced (owner ids)
        (fun r _ => ∀ x, r = .ok x → ∃ r, x.2 = c.record s.payload r) db := by
  refine FlowCode.meets_seq ?_
  rw [FlowCode.flow_mono]
  refine (handleError_meets exc hid).mono fun r db' _ _ => ?_
  cases r with
  | error e => exact fun _ _ _ x hx => by cases hx
  | ok r =>
    intro _ _ _ x hx
    cases hx
    exact ⟨r, rfl⟩

theorem ingestItem_meets {c : IngestPrefetch} {s : Submission} (hid : s.id ∈ ids)
    (hc : s.id ∉ c.ledgerTxIds) : (ingestItem.code py c s).flow.Meets ρ Db.Balanced (owner ids)
      (fun r _ => ∀ x, r = .ok x → ∃ r, x.2 = c.record s.payload r) db := by
  refine FlowCode.meets_attempt_session_seq ?_
  rw [Code.script_mono]
  refine (ingestTransactionImpl_meets hc (Drifts.nil s.id)).mono fun r l db hi hr => ?_
  cases r with
  | error exc => exact handled_meets hid
  | ok a =>
    refine ⟨fun db' hr' => ?_, fun e _ => handled_meets hid⟩
    obtain ⟨hi', hg⟩ := (hr a rfl).commit hid hi hr'
    refine ⟨hi', hg, ?_⟩
    cases a with
    | live r =>
      intro _ _ _ x hx
      cases hx
      exact ⟨r, rfl⟩
    | expired => exact fun _ _ _ x hx => by cases hx

theorem ingestItems_meets : ∀ {items : List Item} {c : IngestPrefetch} {db : Db},
    (∀ x ∈ items, x.2.id ∈ ids) → (items.map (·.2.id)).Nodup →
      (∀ x ∈ items, x.2.id ∉ c.ledgerTxIds) →
        (ingestItems.code py c items).flow.Meets ρ Db.Balanced (owner ids) (fun _ _ => True) db
  | [], _, _, _, _, _ => fun _ _ _ => trivial
  | (i, s) :: rest, c, db, hid, hn, hc => by
    obtain ⟨hs, hn⟩ := List.nodup_cons.1 hn
    refine FlowCode.meets_seq ((ingestItem_meets (hid _ List.mem_cons_self)
      (hc _ List.mem_cons_self)).mono fun r db' _ hr => ?_)
    cases r with
    | error e => exact fun _ _ _ => trivial
    | ok x =>
      obtain ⟨receipt, hx⟩ := hr x rfl
      have hrest : ∀ y ∈ rest, y.2.id ∉ x.2.ledgerTxIds := by
        intro y hy hmem
        rw [hx] at hmem
        unfold IngestPrefetch.record at hmem
        dsimp only at hmem
        have hne : y.2.id ∉ c.ledgerTxIds := hc y (List.mem_cons_of_mem _ hy)
        split at hmem
        · rcases List.mem_cons.1 hmem with he | hmem
          · exact hs (List.mem_map.2 ⟨y, hy, he⟩)
          · exact hne hmem
        · exact hne hmem
      refine FlowCode.meets_seq ((ingestItems_meets (fun y hy => hid y (List.mem_cons_of_mem _ hy))
        hn hrest).mono fun r _ _ _ => ?_)
      cases r with
      | error e => exact fun _ _ _ => trivial
      | ok rs => exact fun _ _ _ => trivial

/-- The cache of a request does not know ids that are new. -/
theorem load_meets {ps : List TransactionPayload}
    (hnew : ∀ id ∈ ids, db.ledger.get? id = none) :
    (IngestPrefetch.load.code ps).script.Meets ρ Db.Balanced (owner ids)
      (fun r _ _ => ∀ c, r = .ok c → ∀ id ∈ ids, id ∉ c.ledgerTxIds) [] db := by
  have hQ : ∀ (e : Exn) (_ : Log Exn Db) (_ : Db), ∀ c : IngestPrefetch,
      Except.error e = Except.ok c → ∀ id ∈ ids, id ∉ c.ledgerTxIds := fun _ _ _ _ h => by cases h
  have hledger : (IngestPrefetch.prefetchIds.code (ps.map (·.transactionId))
      fun db id => (db.ledger.get? id).isSome).script.Meets ρ Db.Balanced (owner ids)
      (fun r _ _ => ∀ known, r = .ok known → ∀ id ∈ ids, id ∉ known) [] db := by
    refine Code.meets_cond (fun _ _ _ _ known hk => ?_) fun _ => ?_
    · cases hk
      exact fun _ _ h => List.not_mem_nil h
    · refine fun db' hrely _ => ⟨fun v hv _ _ _ _ known hk => ?_, fun e _ _ _ _ _ hk => by cases hk⟩
      cases hv
      cases hk
      intro id hid hmem
      have hsome : (db'.ledger.get? id).isSome = true := (List.mem_filter.1 hmem).2
      rw [hrely id hid, hnew id hid] at hsome
      cases hsome
  refine Code.meets_seq_ok hQ (hledger.mono fun r l db' _ hr known hk => ?_)
  have hknown := hr known hk
  refine Code.meets_seq_ok hQ (Script.meets_of_post (fun _ _ _ _ _ => ?_) _ _ _)
  refine Code.meets_seq_ok hQ (Script.meets_of_post (fun _ _ _ _ _ => ?_) _ _ _)
  refine Code.meets_seq_ok hQ (Script.meets_of_post (fun _ _ _ _ _ => ?_) _ _ _)
  refine Code.meets_seq_ok hQ (Script.meets_of_post (fun _ _ _ _ _ => ?_) _ _ _)
  intro _ _ _ c hc
  cases hc
  exact hknown

theorem ingestBatch_meets {subs : List Submission} (hn : (subs.map Submission.id).Nodup)
    (hnew : ∀ id ∈ subs.map Submission.id, db.ledger.get? id = none) :
    (ingestBatch.code py subs).flow.Meets ρ Db.Balanced (owner (subs.map Submission.id))
      (fun _ _ => True) db := by
  refine FlowCode.meets_cond (fun _ => FlowCode.meets_seq (FlowCode.meets_reading ?_))
    fun _ _ _ _ => trivial
  rw [Code.script_mono]
  refine (load_meets hnew).mono fun r _ db' _ hr db'' _ _ => ?_
  cases r with
  | error e => exact fun _ _ _ => trivial
  | ok c =>
    have hids : ∀ x ∈ ordered subs, x.2.id ∈ subs.map Submission.id := fun x hx =>
      List.mem_map_of_mem ((processed_perm subs).mem_iff.1 (List.mem_map_of_mem hx))
    have hnodup : ((ordered subs).map (·.2.id)).Nodup := by
      have hp := ((processed_perm subs).map Submission.id).nodup_iff.2 hn
      rwa [processed, List.map_map] at hp
    refine FlowCode.meets_seq ((ingestItems_meets hids hnodup
      fun x hx => hr c rfl _ (hids x hx)).mono fun r _ _ _ => ?_)
    cases r with
    | error e => exact fun _ _ _ => trivial
    | ok rs => exact fun _ _ _ => trivial

end

/-! ## Requests -/

/-- The ids of the requests are distinct, and the ledger has none of them. -/
structure NewIds (subs : ι → List Submission) (db : Db) : Prop where
  nodup : ∀ i, ((subs i).map Submission.id).Nodup
  apart : ∀ i j, i ≠ j → ∀ id ∈ (subs i).map Submission.id, id ∉ (subs j).map Submission.id
  new : ∀ i, ∀ id ∈ (subs i).map Submission.id, db.ledger.get? id = none

variable {py : ι → Python} {subs : ι → List Submission} {db : Db}

theorem requests_meets (ρ : Rules Exn Db) (h : NewIds subs db) (hb : db.Balanced) :
    (requests py subs db).Meets ρ Db.Balanced (fun i => owner ((subs i).map Submission.id))
      (fun _ _ _ => True) :=
  ⟨hb, fun i => ingestBatch_meets (h.nodup i) (h.new i)⟩

variable [DecidableEq ι]

/-- **The balances agree with the ledger** in every state of every run. -/
theorem concurrent_integrity {ρ : Rules Exn Db} (h : NewIds subs db) (hb : db.Balanced)
    {y : Requests ι} (hr : Pool.Reaches ρ Db.locks (requests py subs db) y) : y.store.Balanced := by
  refine ((requests_meets ρ h hb).reaches (fun i j hij db db' hg id hid => ?_) hr).store
  exact hg id fun hi => h.apart i j hij id hi hid

/-! ## The stock -/

/-- An upsert that takes stock finds enough of it. -/
def enough : Statement Exn Db → Db → Prop
  | .read _, _ => True
  | .write f, db => ∀ id k delta now, (f = fun db => db.upsertStockBalance id k delta now) →
    delta < 0 → 0 ≤ db.quantity k + delta

/-- `f` moves the balances by `d`. -/
def Shifts (d : StockKey → Int) (f : Db → Except Exn Db) : Prop :=
  ∀ db db', f db = .ok db' → ∀ k, db'.quantity k = db.quantity k + d k

theorem Shifts.concat {d e : StockKey → Int} {l : Log Exn Db} {f : Db → Except Exn Db}
    (h : Shifts d (replay l)) (hf : Shifts e f) : Shifts (d + e) (replay (l ++ [f])) := by
  intro db db' hr k
  obtain ⟨v, hv, hfv⟩ := replay_concat_ok hr
  rw [hf v db' hfv, h db v hv]
  show _ = db.quantity k + (d k + e k)
  omega

/-- A statement of ingestion is an upsert of a balance, or changes none. -/
theorem AnyStatement.balances {f : Db → Except Exn Db} (h : AnyStatement f) :
    (∃ id k delta now, f = fun db => db.upsertStockBalance id k delta now) ∨
      ∀ db db', f db = .ok db' → db'.balances = db.balances := by
  rcases h with h | ⟨env, h⟩
  · exact .inr fun _ _ hf => (h.keeps hf).2
  cases h with
  | insertStore r => exact .inr fun _ _ hf => (insertStore_frame hf).balances
  | deleteStore id => exact .inr fun _ _ hf => (deleteStore_frame hf).balances
  | insertProduct r => exact .inr fun _ _ hf => (insertProduct_frame hf).balances
  | insertDevice r => exact .inr fun _ _ hf => (insertDevice_frame hf).balances
  | insertLedger r =>
    refine .inr fun _ _ hf => ?_
    rw [(insertLedger_ok hf).2]
  | updateLedger r =>
    refine .inr fun _ _ hf => ?_
    cases hf
    rfl
  | insertReceipt r => exact .inr fun _ _ hf => ((SideStatement.insertReceipt r).keeps hf).2
  | updateReceipt r => exact .inr fun _ _ hf => ((SideStatement.updateReceipt r).keeps hf).2
  | deleteReceipt id => exact .inr fun _ _ hf => ((SideStatement.deleteReceipt id).keeps hf).2
  | upsertStockBalance k delta => exact .inl ⟨_, _, _, _, rfl⟩
  | insertDayBook b => exact .inr fun _ _ hf => (insertDayBook_frame hf).balances
  | insertDayBookEntry e => exact .inr fun _ _ hf => (insertDayBookEntry_frame hf).balances
  | setOpeningBalance id total =>
    exact .inr fun _ _ hf => ((SideStatement.setOpeningBalance id total).keeps hf).2

/-- What the open session of a thread has done to the balances: it has locked the ones that it
moves, and none would be negative if it committed now. -/
def Covered (db : Db) (t : Thread Exn Db (List SyncReceipt)) : Prop :=
  ∃ q, Shifts q (replay t.log) ∧
    (∀ k, q k ≠ 0 → ∃ x ∈ t.changes, Db.locks x.1 x.2 (.balance k)) ∧ ∀ k, 0 ≤ db.quantity k + q k

theorem covered_nil {t : Thread Exn Db (List SyncReceipt)} (hl : t.log = [])
    (h : ∀ k, 0 ≤ db.quantity k) : Covered db t := by
  refine ⟨0, ?_, fun k hk => absurd rfl hk, fun k => ?_⟩
  · intro db db' hr k
    rw [hl] at hr
    cases hr
    exact (add_zero _).symm
  · rw [Pi.zero_apply, add_zero]
    exact h k

/-- A statement with enough stock. -/
theorem Covered.wrote {t t' : Thread Exn Db (List SyncReceipt)} (h : Covered db t)
    {f : Db → Except Exn Db} {v v' : Db} (hf : AnyStatement f) (hv : replay t.log db = .ok v)
    (hw : f v = .ok v') (hg : enough (.write f) v) (hl : t'.log = t.log ++ [f])
    (hc : t'.changes = t.changes ++ [(v, v')]) : Covered db t' := by
  obtain ⟨q, hq, hlock, hpos⟩ := h
  rcases hf.balances with ⟨id, k, delta, now, rfl⟩ | hsame
  · have hd : Shifts (fun k' => if k = k' then delta else 0)
        (·.upsertStockBalance id k delta now) :=
      fun _ _ hu => (upsertStockBalance_ok hu).2.2.1
    refine ⟨_, hl ▸ hq.concat hd, fun k' hk' => ?_, fun k' => ?_⟩
    · rw [hc]
      by_cases hq' : q k' = 0
      · refine ⟨(v, v'), List.mem_append_right _ List.mem_cons_self, fun he => hk' ?_⟩
        -- the row is as before, and so is its quantity
        have hquant : v'.quantity k' = v.quantity k' := by
          unfold Db.quantity
          rw [he]
        rw [hd v v' hw] at hquant
        change v.quantity k' + (if k = k' then delta else 0) = v.quantity k' at hquant
        show q k' + (if k = k' then delta else 0) = 0
        omega
      · obtain ⟨x, hx, hxl⟩ := hlock k' hq'
        exact ⟨x, List.mem_append_left _ hx, hxl⟩
    · show 0 ≤ db.quantity k' + (q k' + if k = k' then delta else 0)
      have h0 := hpos k'
      split
      · rename_i he
        subst he
        by_cases hneg : delta < 0
        · have hleft := hg id k delta now rfl hneg
          rw [hq db v hv] at hleft
          omega
        · omega
      · omega
  · have hd : Shifts 0 f := fun _ _ hu k => by
      rw [quantity_congr (hsame _ _ hu)]
      exact (add_zero _).symm
    refine ⟨q, ?_, fun k' hk' => ?_, hpos⟩
    · have hcat := hq.concat hd
      rwa [add_zero, ← hl] at hcat
    · obtain ⟨x, hx, hxl⟩ := hlock k' hk'
      rw [hc]
      exact ⟨x, List.mem_append_left _ hx, hxl⟩

/-- No balance is negative, and none will be when the open sessions commit. -/
structure Stocked (y : Requests ι) : Prop where
  only : ∀ i, (y.threads i).Only AnyStatement True
  exclusive : y.Exclusive Db.locks
  nonneg : ∀ k, 0 ≤ y.store.quantity k
  covered : ∀ i, Covered y.store (y.threads i)

theorem Stocked.step {F : Exn → Prop} {y y' : Requests ι} (h : Stocked y)
    (hs : Pool.Step ⟨F, enough⟩ Db.locks y y') : Stocked y' := by
  cases hs with
  | @move i db' t' hm =>
    obtain ⟨honly, heff⟩ := (h.only i).move hm
    have hthreads : ∀ {P : Thread Exn Db (List SyncReceipt) → Prop}, P t' →
        (∀ j, j ≠ i → P (y.threads j)) → ∀ j, P (Function.update y.threads i t' j) := by
      intro P hi hj j
      by_cases hji : j = i
      · subst hji
        rwa [Function.update_self]
      · rw [Function.update_of_ne hji]
        exact hj j hji
    have honly' := hthreads honly fun j _ => h.only j
    have hexcl := h.exclusive.effect heff
    cases heff with
    | quiet hl hc =>
      refine ⟨honly', hexcl, h.nonneg, hthreads ?_ fun j _ => h.covered j⟩
      have hcov := h.covered i
      unfold Covered at hcov ⊢
      rwa [hl, hc]
    | cleared hl hc =>
      exact ⟨honly', hexcl, h.nonneg, hthreads (covered_nil hl h.nonneg) fun j _ => h.covered j⟩
    | wrote hf hv hw _ hg hl hc =>
      exact ⟨honly', hexcl, h.nonneg,
        hthreads ((h.covered i).wrote hf hv hw hg hl hc) fun j _ => h.covered j⟩
    | committed hv hl hc =>
      obtain ⟨q, hq, hlock, hpos⟩ := h.covered i
      have hstore : ∀ k, db'.quantity k = y.store.quantity k + q k := hq y.store db' hv
      have hnonneg : ∀ k, 0 ≤ db'.quantity k := fun k => by
        rw [hstore]
        exact hpos k
      refine ⟨honly', hexcl, hnonneg, hthreads (covered_nil hl hnonneg) fun j hj => ?_⟩
      obtain ⟨q', hq', hlock', hpos'⟩ := h.covered j
      refine ⟨q', hq', hlock', fun k => ?_⟩
      by_cases hk : q' k = 0
      · rw [hk, add_zero]
        exact hnonneg k
      · -- the other session has locked this balance, so the one that commits has not moved it
        have hkeep : q k = 0 := by
          by_contra hne
          obtain ⟨x, hx, hxl⟩ := hlock k hne
          obtain ⟨x', hx', hxl'⟩ := hlock' k hk
          exact h.exclusive i j (Ne.symm hj) x hx x' hx' _ hxl hxl'
        show 0 ≤ db'.quantity k + q' k
        rw [hstore, hkeep, add_zero]
        exact hpos' k

omit [DecidableEq ι] in
theorem requests_stocked (h : ∀ k, 0 ≤ db.quantity k) : Stocked (requests py subs db) where
  only i := (ingestBatch.code (py i) (subs i)).only
  exclusive := fun _ _ _ x hx => by cases hx
  nonneg := h
  covered _ := covered_nil rfl h

/-- **Enough stock at every upsert**: then no balance is negative in any state of the run. -/
theorem concurrent_stock (h : NewIds subs db) (hb : db.Balanced) (hpos : ∀ k, 0 ≤ db.quantity k)
    {y : Requests ι} (hr : Pool.Reaches ⟨anyFault, enough⟩ Db.locks (requests py subs db) y)
    (k : StockKey) : 0 ≤ y.store.quantity k ∧ y.store.quantity k = y.store.projection k := by
  have hstock : Stocked y := hr.invariant (fun _ _ hy hs => hy.step hs) (requests_stocked hpos)
  have hdrift : y.store.drift k = 0 := concurrent_integrity h hb hr k
  refine ⟨hstock.nonneg k, ?_⟩
  unfold Db.drift at hdrift
  omega

/-! ### Runs -/

namespace Sample

/-- One receipt of five units has been ingested. -/
def fiveUnits : Db := (pushAll python .empty [[movement "T-1" "RECEIPT" 5 0]]).2

/-- Two requests with one payload each. -/
def two (a b : Submission) (i : Bool) : List Submission := if i then [b] else [a]

theorem fiveUnits_balanced : fiveUnits.Balanced := fun k => by
  have hs : Serving anyFault python anyItem fiveUnits none :=
    serving_pushAll (fun _ _ => trivial) _ (.start empty)
  exact sub_eq_zero.2 (hs.integral.balanced k)

theorem nonneg_of_rows {db : Db} (h : ∀ b ∈ db.balances.rows, 0 ≤ b.quantity) (k : StockKey) :
    0 ≤ db.quantity k := by
  unfold Db.quantity
  cases hb : db.balances.get? k with
  | none => exact le_refl 0
  | some b => exact h b (Table.mem_of_get? hb)

/-- No balance is negative. -/
def inStock (db : Db) : Bool := db.balances.rows.all fun b => 0 ≤ b.quantity

theorem inStock_nonneg {db : Db} (h : inStock db = true) (k : StockKey) : 0 ≤ db.quantity k :=
  nonneg_of_rows (fun b hb => of_decide_eq_true (List.all_eq_true.1 h b hb)) k

theorem enough_checks (F : Exn → Prop) : (⟨F, enough⟩ : Rules Exn Db).Checks fun _ db => inStock db where
  read _ _ _ := trivial
  write f db db' hf hc id k delta now he _ := by
    subst he
    have hq := (upsertStockBalance_ok hf).2.2.1 k
    rw [if_pos rfl] at hq
    rw [← hq]
    exact inStock_nonneg hc k

theorem newIds_two {a b : Submission} {db : Db} (hne : a.id ≠ b.id)
    (ha : db.ledger.get? a.id = none) (hb : db.ledger.get? b.id = none) :
    NewIds (two a b) db := by
  constructor
  · intro i
    cases i <;> exact List.nodup_singleton _
  · intro i j hij id hi hj
    cases i <;> cases j <;> simp_all [two]
  · intro i id hi
    cases i <;> simp_all [two]

/-- Two requests that sell `n` units each: the first stops before its stock check, or after it. -/
def sales (n : Int) (steps : Nat) (check : Db → Db → Bool) : Option (Requests Bool) :=
  (requests (fun _ => python) (two (movement "T-2" "SALE" (-n) 1) (movement "T-3" "SALE" (-n) 1))
    fiveUnits).turns check [(false, steps), (true, 40), (false, 40)]

end Sample

/-- Two sales that the stock allows. -/
theorem concurrent_stock_two : ∃ y, Sample.sales 2 9 (fun _ db => Sample.inStock db) = some y ∧
    y.store.quantity Sample.stock = 1 ∧
      ∀ k, 0 ≤ y.store.quantity k ∧ y.store.quantity k = y.store.projection k := by
  have hrun : (Sample.sales 2 9 fun _ db => Sample.inStock db).any
      (fun y => y.store.quantity Sample.stock = 1) = true := by decide +kernel
  obtain ⟨y, hy, hq⟩ := (Option.any_eq_true _ _).1 hrun
  have hnew : NewIds (Sample.two (Sample.movement "T-2" "SALE" (-2) 1)
      (Sample.movement "T-3" "SALE" (-2) 1)) Sample.fiveUnits :=
    Sample.newIds_two (by decide) (by decide +kernel) (by decide +kernel)
  have hr := Pool.turns_reaches (Sample.enough_checks anyFault) Db.locks _ hy
  exact ⟨y, hy, of_decide_eq_true hq, concurrent_stock hnew Sample.fiveUnits_balanced
    (Sample.inStock_nonneg (by decide +kernel)) hr⟩

/-- **The last units are sold twice**: both requests check the stock before either takes it. -/
theorem concurrent_oversell : ¬ ∀ (py : Bool → Python) (subs : Bool → List Submission) (db : Db),
    NewIds subs db → db.Balanced → (∀ k, 0 ≤ db.quantity k) → ∀ y : Requests Bool,
      Pool.Reaches .free Db.locks (requests py subs db) y → ∀ k,
        0 ≤ y.store.quantity k ∧ y.store.quantity k = y.store.projection k := by
  intro h
  have hrun : (Sample.sales 5 9 fun _ _ => true).any
      (fun y => y.store.quantity Sample.stock = -5) = true := by decide +kernel
  obtain ⟨y, hy, hq⟩ := (Option.any_eq_true _ _).1 hrun
  have hnew : NewIds (Sample.two (Sample.movement "T-2" "SALE" (-5) 1)
      (Sample.movement "T-3" "SALE" (-5) 1)) Sample.fiveUnits :=
    Sample.newIds_two (by decide) (by decide +kernel) (by decide +kernel)
  have hr := Pool.turns_reaches Rules.free_checks Db.locks _ hy
  have hpos := (h _ _ _ hnew Sample.fiveUnits_balanced
    (Sample.inStock_nonneg (by decide +kernel)) y hr Sample.stock).1
  rw [of_decide_eq_true hq] at hpos
  exact absurd hpos (by decide)

end Server
