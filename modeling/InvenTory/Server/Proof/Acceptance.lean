import InvenTory.Server.Proof.Collision
import InvenTory.Server.Proof.Run
import Mathlib.Logic.Relation

/-!
# Acceptance under failures

Every statement and every commit may fail. `Step T` is a step of a server whose turns are in `T`;
in `Failing` turns anything fails, in `Spared` turns nothing does while the item is one of the
ledger. In runs of spared turns an accepted receipt stays accepted, and the receipts agree with the
ledger (`acceptance_permanent`). A failure in the edit of a ledger row turns its receipt into a
rejection (`acceptance_lost`).
-/

namespace Server

open Relational Sql Sql.Prog

/-! ## Runs -/

/-- A database, with the cache and the rest of the batch that is worked on. -/
abbrev Stage := Db × Option (IngestPrefetch × List Item)

/-- What a turn may do: a cache, an item and a database, and the result and the database after. -/
abbrev Turns := IngestPrefetch → Submission → Db → Except Exn (SyncReceipt × IngestPrefetch) →
  Db → Prop

inductive Step (T : Turns) : Stage → Stage → Prop
  | request {F : Exn → Prop} {db : Db} {subs : List Submission} {c : IngestPrefetch}
    (hs : Sortable subs)
    (hc : (reading (IngestPrefetch.load (subs.map (·.payload)))).Yields F db (.ok c) db) :
    Step T (db, none) (db, some (c, ordered subs))
  | turn {db db' : Db} {c : IngestPrefetch} {i : Nat} {s : Submission} {rest : List Item}
    {res : Except Exn (SyncReceipt × IngestPrefetch)} (hT : T c s db res db') :
    Step T (db, some (c, (i, s) :: rest)) (db', res.toOption.map fun x => (x.2, rest))
  | respond {db : Db} {c : IngestPrefetch} : Step T (db, some (c, [])) (db, none)

abbrev Steps (T : Turns) : Stage → Stage → Prop := Relation.ReflTransGen (Step T)

/-- Any statement of the turn may fail, in any way. -/
def Failing (py : Python) : Turns := fun c s db res db' =>
  (ingestItem py c s).Yields anyFault db res db'

/-- A failure of the database, not a duplicate key. -/
def Outage (e : Exn) : Prop := isInventoryTransactionsPkeyCollision e = false

/-- The item is plain, and no statement fails if the ledger has its id. -/
def Spared (py : Python) : Turns := fun c s db res db' => Plain s ∧
  if (db.ledger.get? s.id).isSome then (ingestItem py c s).eval db = (res, db')
  else (ingestItem py c s).Yields Outage db res db'

/-! ## One turn -/

variable {F : Exn → Prop} {py : Python} {c : IngestPrefetch} {i : Nat} {s : Submission}
  {db db' : Db}

theorem storedReceipt_ok {r r' : SyncReceipt} {cn' : Conn Db} {f : Db → Except Exn Db}
    (hf : ∀ w, f db = .ok w → w = { db with receipts := db.receipts.put r })
    (h : (do execute f; pure r : Tx SyncReceipt).Yields F ⟨db, db⟩ (.ok r') cn') :
    r' = r ∧ cn'.work = { db with receipts := db.receipts.put r } := by
  obtain ⟨w, hw, h1⟩ := yields_execute_bind h
  obtain ⟨he, rfl⟩ := yields_pure h1
  cases he
  exact ⟨rfl, hf w hw⟩

theorem insertReceipt_exact {r : SyncReceipt} (w : Db) (h : db.insertReceipt r = .ok w) :
    w = { db with receipts := db.receipts.put r } := (insertReceipt_ok h).2

theorem updateReceipt_exact {r : SyncReceipt} (w : Db)
    (h : (.ok (db.updateReceipt r) : Except Exn Db) = .ok w) :
    w = { db with receipts := db.receipts.put r } := by
  cases h
  rfl

/-- A session that ends well stores the receipt it returns, and nothing else. -/
theorem ensureAcceptedReceipt_exact {env : Env} {id : String} {r : SyncReceipt}
    (h : (ensureAcceptedReceipt env id).Yields F db (.ok r) db') :
    db' = { db with receipts := db.receipts.put r } := by
  rcases yields_session h with ⟨_, he, -⟩ | ⟨r', cn, he, hb, rfl⟩
  · cases he
  cases he
  have h1 := yields_select_bind hb
  split at h1
  · obtain ⟨rfl, hw⟩ := storedReceipt_ok updateReceipt_exact h1
    exact hw
  · obtain ⟨rfl, hw⟩ := storedReceipt_ok insertReceipt_exact h1
    exact hw

theorem persistRejection_exact {env : Env} {id : String} {exc : Exn} {r : SyncReceipt}
    (h : (persistRejection env id exc).Yields F db (.ok r) db') :
    db' = { db with receipts := db.receipts.put r } := by
  rcases yields_session h with ⟨_, he, -⟩ | ⟨r', cn, he, hb, rfl⟩
  · cases he
  cases he
  obtain ⟨o, c1, h1, h2⟩ := yields_bind_ok hb
  obtain ⟨o', ho, h3⟩ := yields_attempt h1
  cases ho
  cases o with
  | error e =>
    obtain ⟨rfl, -⟩ := yields_select_error h3
    obtain ⟨rfl, hw⟩ := storedReceipt_ok insertReceipt_exact h2
    exact hw
  | ok o =>
    obtain ⟨-, rfl⟩ := yields_select_ok h3
    cases o with
    | some r0 =>
      obtain ⟨rfl, hw⟩ := storedReceipt_ok updateReceipt_exact h2
      exact hw
    | none =>
      obtain ⟨rfl, hw⟩ := storedReceipt_ok insertReceipt_exact h2
      exact hw

/-- The receipt of an exception is stored, or nothing is. -/
theorem handleError_exact {exc : Exn} {r : SyncReceipt}
    (h : (handleError s exc).Yields F db (.ok r) db') :
    db' = db ∨ db' = { db with receipts := db.receipts.put r } := by
  unfold handleError at h
  simp only at h
  split at h
  all_goals
    obtain ⟨o, c1, h1, h2⟩ := yields_bind_ok h
    obtain ⟨o', ho, h3⟩ := yields_attempt h1
    cases ho
  · cases o with
    | ok r' =>
      obtain ⟨he, rfl⟩ := yields_pure h2
      cases he
      exact .inr (ensureAcceptedReceipt_exact h3)
    | error e =>
      obtain ⟨he, rfl⟩ := yields_pure h2
      exact .inl (ensureAcceptedReceipt_stores h3).1
  · cases o with
    | ok r' =>
      obtain ⟨he, rfl⟩ := yields_pure h2
      cases he
      exact .inr (persistRejection_exact h3)
    | error e =>
      obtain ⟨he, rfl⟩ := yields_pure h2
      exact .inl (persistRejection_stores h3).1

/-- How a turn ends: the session of the item is committed, or it raised and at most a receipt is
stored, or the batch is aborted. -/
inductive Turned (F : Exn → Prop) (py : Python) (c : IngestPrefetch) (s : Submission) (db : Db) :
    Except Exn (SyncReceipt × IngestPrefetch) → Db → Prop
  | committed {r : SyncReceipt} {cn : Conn Db}
    (h : (ingestTransactionImpl py s.env s.payload (some c)).Yields F ⟨db, db⟩ (.ok (.live r)) cn) :
    Turned F py c s db (.ok (r, c.record s.payload r)) cn.work
  | raised {exc : Exn} {r : SyncReceipt} {db' : Db}
    (hexc : F exc ∨ ∃ cn,
      (ingestTransactionImpl py s.env s.payload (some c)).Yields F ⟨db, db⟩ (.error exc) cn)
    (hacc : r.accepted = isInventoryTransactionsPkeyCollision exc)
    (honly : OnlyReceipt s.id db db')
    (hst : db' = db ∨ db' = { db with receipts := db.receipts.put r }) :
    Turned F py c s db (.ok (r, c.record s.payload r)) db'
  | aborted {e : Exn} : Turned F py c s db (.error e) db

theorem turned {res : Except Exn (SyncReceipt × IngestPrefetch)}
    (h : (ingestItem py c s).Yields F db res db') : Turned F py c s db res db' := by
  rcases yields_bind h with ⟨e, h1, -⟩ | ⟨o, db1, h1, h2⟩
  · obtain ⟨_, he, _⟩ := yields_attempt h1
    cases he
  obtain ⟨o', ho, h3⟩ := yields_attempt h1
  cases ho
  rcases yields_session h3 with ⟨exc, rfl, rfl, hexc⟩ | ⟨ret, cn, rfl, hb, rfl⟩
  · rcases yields_bind h2 with ⟨e, h4, -⟩ | ⟨r, db2, h4, h5⟩
    · obtain ⟨_, he, _⟩ := handleError_stores h4
      cases he
    · obtain ⟨r', hr, hacc, honly, -⟩ := handleError_stores h4
      cases hr
      obtain ⟨rfl, rfl⟩ := yields_pure h5
      exact .raised hexc hacc honly (handleError_exact h4)
  · cases ret with
    | live r =>
      obtain ⟨rfl, rfl⟩ := yields_pure h2
      exact .committed hb
    | expired =>
      obtain ⟨rfl, rfl⟩ := yields_throw h2
      have hd := handled hb
      generalize cn.work = w at hd ⊢
      cases hd with
      | expired _ => exact .aborted

/-! ## The invariant -/

/-- The receipts agree with the ledger. -/
structure Lasting (db : Db) : Prop where
  sound : Sound db
  ledger : ∀ id r, db.receipts.get? id = some r → r.accepted = true → (db.ledger.get? id).isSome
  clean : CleanStores db

/-- The cache knows what the ledger has of `items`, and takes nothing else for accepted. -/
structure Grasp (c : IngestPrefetch) (items : List Item) (db : Db) : Prop where
  known : ∀ x ∈ items, (db.ledger.get? x.2.id).isSome →
    x.2.id ∈ c.ledgerTxIds ∧ c.receiptByTx x.2.id = db.receipts.get? x.2.id
  accepted : ∀ x ∈ items, ∀ r, c.receiptByTx x.2.id = some r → r.accepted = true →
    (db.ledger.get? x.2.id).isSome

theorem prefetchIds_ok {values : List String} {holds : Db → String → Bool} {cn cn' : Conn Db}
    {ids : List String} (h : (IngestPrefetch.prefetchIds values holds).Yields F cn (.ok ids) cn') :
    ids = values.filter (holds cn.work) ∧ cn' = cn := by
  unfold IngestPrefetch.prefetchIds at h
  split at h
  · rename_i hv
    obtain ⟨he, rfl⟩ := yields_pure h
    cases he
    simp [hv]
  · exact yields_select_ok h

theorem prefetchReceipts_ok {txIds : List String} {cn cn' : Conn Db}
    {f : String → Option SyncReceipt}
    (h : (IngestPrefetch.prefetchReceipts txIds).Yields F cn (.ok f) cn') :
    (f = fun id => if id ∈ txIds then cn.work.receipts.get? id else none) ∧ cn' = cn := by
  unfold IngestPrefetch.prefetchReceipts at h
  split at h
  · rename_i hv
    obtain ⟨he, rfl⟩ := yields_pure h
    cases he
    simp [hv]
  · exact yields_select_ok h

theorem load_ok {ps : List TransactionPayload}
    (h : (reading (IngestPrefetch.load ps)).Yields F db (.ok c) db') : c = .loaded ps db := by
  obtain ⟨-, cn, hb⟩ := yields_reading h
  unfold IngestPrefetch.load at hb
  obtain ⟨_, _, h1, h2⟩ := yields_bind_ok hb
  obtain ⟨rfl, rfl⟩ := prefetchIds_ok h1
  obtain ⟨_, _, h3, h4⟩ := yields_bind_ok h2
  obtain ⟨rfl, rfl⟩ := prefetchReceipts_ok h3
  obtain ⟨_, _, h5, h6⟩ := yields_bind_ok h4
  obtain ⟨rfl, rfl⟩ := prefetchIds_ok h5
  obtain ⟨_, _, h7, h8⟩ := yields_bind_ok h6
  obtain ⟨rfl, rfl⟩ := prefetchIds_ok h7
  obtain ⟨_, _, h9, h10⟩ := yields_bind_ok h8
  obtain ⟨rfl, rfl⟩ := prefetchIds_ok h9
  obtain ⟨he, -⟩ := yields_pure h10
  cases he
  rfl

theorem Lasting.grasp (h : Lasting db) {items : List Item} (ht : Tracks c items db) :
    Grasp c items db where
  known x hx hl := ⟨ht.ledger x hx hl, ht.receipt x hx⟩
  accepted x hx r hr hacc := by
    rw [ht.receipt x hx] at hr
    exact h.ledger _ r hr hacc

theorem Grasp.tail {items : List Item} (h : Grasp c ((i, s) :: items) db) : Grasp c items db :=
  ⟨fun x hx => h.known x (List.mem_cons_of_mem _ hx),
    fun x hx => h.accepted x (List.mem_cons_of_mem _ hx)⟩

/-- What was answered goes into the cache: a receipt that is accepted exactly when the ledger has
the id, and then is the stored one. -/
theorem Grasp.record {items : List Item} {r : SyncReceipt} (h : Grasp c ((i, s) :: items) db)
    (hl : ∀ id, id ≠ s.id → (db'.ledger.get? id).isSome = (db.ledger.get? id).isSome)
    (hr : ∀ id, id ≠ s.id → db'.receipts.get? id = db.receipts.get? id)
    (hacc : r.accepted = true ↔ (db'.ledger.get? s.id).isSome)
    (hst : r.accepted = true → db'.receipts.get? s.id = some r) :
    Grasp (c.record s.payload r) items db' := by
  constructor
  · intro x hx hsome
    by_cases he : x.2.id = s.id
    · rw [he] at hsome ⊢
      have ha := hacc.2 hsome
      have hid : r.transactionId = s.id := Table.key_of_get? (hst ha)
      refine ⟨by simp [IngestPrefetch.record, ha], ?_⟩
      rw [hst ha]
      simp only [IngestPrefetch.record, Function.update_self]
      rw [← show r.transactionId = s.payload.transactionId from hid]
    · rw [hl _ he] at hsome
      obtain ⟨h1, h2⟩ := h.tail.known x hx hsome
      refine ⟨?_, ?_⟩
      · simp only [IngestPrefetch.record]
        split
        · exact List.mem_cons_of_mem _ h1
        · exact h1
      · simp only [IngestPrefetch.record]
        rw [Function.update_of_ne he, h2, hr _ he]
  · intro x hx r' hr' ha
    simp only [IngestPrefetch.record] at hr'
    by_cases he : x.2.id = s.id
    · rw [he, Function.update_self] at hr'
      cases hr'
      rw [he]
      exact hacc.1 ha
    · rw [Function.update_of_ne he] at hr'
      rw [hl _ he]
      exact h.tail.accepted x hx r' hr' ha

/-! ## The step -/

/-- What a spared turn leaves. -/
structure Spares (items : List Item) (db : Db)
    (res : Except Exn (SyncReceipt × IngestPrefetch)) (db' : Db) : Prop where
  lasting : Lasting db'
  mono : ∀ id, (db.ledger.get? id).isSome → (db'.ledger.get? id).isSome
  grasp : ∀ x, res = .ok x → Grasp x.2 items db'

/-- The id is in the ledger: nothing fails, and the row may be edited. -/
theorem spares_known {items : List Item} {res : Except Exn (SyncReceipt × IngestPrefetch)}
    (h : Lasting db) (hg : Grasp c ((i, s) :: items) db) (hl : (db.ledger.get? s.id).isSome)
    (hT : (ingestItem py c s).eval db = (res, db')) : Spares items db res db' := by
  obtain ⟨row, hrow⟩ := Option.isSome_iff_exists.1 hl
  obtain ⟨hid, hrec⟩ := hg.known _ List.mem_cons_self hl
  have ht : Tracks c [(i, s)] db := by
    constructor
    · intro x hx _
      rw [List.mem_singleton.1 hx]
      exact hid
    · intro x hx
      rw [List.mem_singleton.1 hx]
      exact hrec
  obtain ⟨r, w, hw, hacc, hr, hedit⟩ := eval_ingestItem_known py h.sound ht hrow
  rw [hw] at hT
  cases hT
  obtain ⟨hr', hl', -, hrows⟩ := editLedgerRow_ok (yields_of_eval (F := noFault) hedit)
  have hst : CleanStores db' := (editLedgerRow_triple (F := noFault) (E := anyFault)
    (fun _ => trivial) s.env s.payload row).ok (s := ⟨db, db⟩) h.clean (yields_of_eval hedit)
  -- the edit keeps the keys of the ledger
  have hkeys : ∀ id, (db'.ledger.get? id).isSome = (db.ledger.get? id).isSome := by
    intro id
    rw [hl']
    split
    · have hkey : key row = s.id := Table.key_of_get? hrow
      rw [Table.get?_put, show key (row.edit s.payload) = s.id from hkey]
      split
      · rename_i he
        rw [← he, hrow]
        rfl
      · rfl
    · rfl
  refine ⟨⟨h.sound.edited hrow hl' hrows hr', fun id r0 h0 ha => ?_, hst⟩, fun id hs => ?_,
    fun x hx => ?_⟩
  · rw [hr'] at h0
    rw [hkeys]
    exact h.ledger id r0 h0 ha
  · rw [hkeys]
    exact hs
  · cases hx
    refine hg.record (fun id _ => hkeys id) (fun id _ => by rw [hr']) ?_ fun _ => by rw [hr', hr]
    rw [hkeys]
    exact ⟨fun _ => hl, fun _ => hacc⟩

/-- An answer that leaves the ledger alone and stores at most a rejection. -/
theorem spares_refused {items : List Item} {r : SyncReceipt} (h : Lasting db)
    (hg : Grasp c ((i, s) :: items) db) (hl : db.ledger.get? s.id = none)
    (ho : OnlyReceipt s.id db db') (hrej : r.accepted = false)
    (hst : db'.receipts.get? s.id = db.receipts.get? s.id ∨ db'.receipts.get? s.id = some r)
    (hclean : CleanStores db') : Spares items db (.ok (r, c.record s.payload r)) db' := by
  refine ⟨⟨h.sound.onlyReceipt ho hl, fun id r0 h0 ha => ?_, hclean⟩, fun id hs => ?_,
    fun x hx => ?_⟩
  · rw [ho.ledger]
    by_cases he : id = s.id
    · rw [he] at h0 ⊢
      rcases hst with hst | hst
      · exact h.ledger _ r0 (hst ▸ h0) ha
      · rw [hst] at h0
        cases h0
        rw [hrej] at ha
        cases ha
    · rw [ho.receipts id he] at h0
      exact h.ledger id r0 h0 ha
  · rw [ho.ledger]
    exact hs
  · cases hx
    have hnot : ¬ r.accepted = true := by
      rw [hrej]
      exact Bool.false_ne_true
    refine hg.record (fun id _ => by rw [ho.ledger]) ho.receipts ?_ fun ha => absurd ha hnot
    rw [ho.ledger, hl]
    exact ⟨fun ha => absurd ha hnot, fun hs => by cases hs⟩

theorem grasp_not_accepted {items : List Item} {r : SyncReceipt} (h : Lasting db)
    (hg : Grasp c ((i, s) :: items) db) (hl : db.ledger.get? s.id = none)
    (hr : Stored (some c) db s.id r) : r.accepted = false := by
  rw [← Bool.not_eq_true]
  intro ha
  have hsome : (db.ledger.get? s.id).isSome := by
    rcases hr with ⟨_, he, hc, -⟩ | hr
    · cases he
      exact hg.accepted _ List.mem_cons_self r hc ha
    · exact h.ledger _ r hr ha
  rw [hl] at hsome
  cases hsome

/-- The id is not in the ledger: a failure leaves a rejection or nothing, since no exception can
be taken for a duplicate key. -/
theorem spares_new {items : List Item} {res : Except Exn (SyncReceipt × IngestPrefetch)}
    (hpy : py.Conforms) (hs : Plain s) (h : Lasting db) (hg : Grasp c ((i, s) :: items) db)
    (hl : db.ledger.get? s.id = none) (hT : (ingestItem py c s).Yields Outage db res db') :
    Spares items db res db' := by
  have hout : ∀ e, Outage e → isInventoryTransactionsPkeyCollision e = false := fun _ he => he
  have hnone : ¬ (db.ledger.get? s.id).isSome := by simp [hl]
  cases turned hT with
  | aborted => exact ⟨h, fun _ hid => hid, fun _ hx => by cases hx⟩
  | raised hexc hacc honly hst =>
    rename_i exc r
    have hrej : r.accepted = false := by
      rw [hacc, ← Bool.not_eq_true]
      intro hcol
      rcases hexc with he | ⟨cn, hcn⟩
      · rw [hout exc he] at hcol
        cases hcol
      · exact hnone (collision_ledger hpy hout hs h.clean hcn hcol)
    rcases hst with rfl | rfl
    · exact spares_refused h hg hl honly hrej (.inl rfl) h.clean
    · refine spares_refused h hg hl honly hrej ?_ (h.clean.congr rfl)
      by_cases he : r.transactionId = s.id
      · exact .inr (he ▸ Table.get?_put_self ..)
      · exact .inl (Table.get?_put_of_ne _ he)
  | committed hc =>
    rename_i r cn
    have hclean := cleanStores_impl hpy hout hs h.clean hc
    have hd := handled hc
    generalize cn.work = w at hd hclean ⊢
    cases hd with
    | ledger hrow => exact absurd (by simp [Submission.id, hrow]) hnone
    | receipt hr =>
      exact spares_refused h hg hl (.refl _ _) (grasp_not_accepted h hg hl hr) (.inl rfl) hclean
    | rejected hl' hb hr =>
      have ho : OnlyReceipt s.id db w :=
        ⟨hl', hb, fun id hne => (hr id).trans (if_neg (Ne.symm hne))⟩
      exact spares_refused h hg hl ho rfl (.inr ((hr _).trans (if_pos rfl))) hclean
    | inserted hi =>
      have hkey : key (s.payload.ledgerRow s.env) = s.id := rfl
      have hrow : (w.ledger.get? s.id).isSome := by
        rw [hi.ledger, ← hkey, Table.get?_put_self]
        rfl
      have hother : ∀ id, id ≠ s.id → w.ledger.get? id = db.ledger.get? id := fun id hne => by
        rw [hi.ledger, Table.get?_put_of_ne _ (hkey ▸ Ne.symm hne)]
      have hrec : ∀ id, id ≠ s.id → w.receipts.get? id = db.receipts.get? id := fun id hne =>
        (hi.receipts id).trans (if_neg (Ne.symm hne))
      refine ⟨⟨h.sound.inserted hi, fun id r0 h0 ha => ?_, hclean⟩, fun id hid => ?_,
        fun x hx => ?_⟩
      · by_cases he : id = s.id
        · exact he ▸ hrow
        · rw [hother id he]
          exact h.ledger id r0 (hrec id he ▸ h0) ha
      · by_cases he : id = s.id
        · exact he ▸ hrow
        · rwa [hother id he]
      · cases hx
        exact hg.record (fun id hne => by rw [hother id hne]) hrec ⟨fun _ => hrow, fun _ => rfl⟩
          fun _ => (hi.receipts _).trans (if_pos rfl)

/-! ## Runs of spared turns -/

/-- The invariant of a run. -/
def Keeps (x : Stage) : Prop :=
  Lasting x.1 ∧ ∀ c items, x.2 = some (c, items) → Grasp c items x.1

theorem step_keeps {x y : Stage} (hpy : py.Conforms) (h : Keeps x) (hs : Step (Spared py) x y) :
    Keeps y ∧ ∀ id, (x.1.ledger.get? id).isSome → (y.1.ledger.get? id).isSome := by
  cases hs with
  | request hsort hc =>
    rename_i subs c
    refine ⟨⟨h.1, fun c' items hx => ?_⟩, fun _ hid => hid⟩
    cases hx
    rw [load_ok hc]
    exact h.1.grasp (tracks_ordered subs _)
  | respond => exact ⟨⟨h.1, fun _ _ hx => by cases hx⟩, fun _ hid => hid⟩
  | turn hT =>
    rename_i db db' c i s rest res
    have hsp : Spares rest db res db' := by
      obtain ⟨hs, hT⟩ := hT
      split at hT
      · rename_i hl
        exact spares_known h.1 (h.2 _ _ rfl) hl hT
      · rename_i hl
        exact spares_new hpy hs h.1 (h.2 _ _ rfl) (by simpa using hl) hT
    refine ⟨⟨hsp.lasting, fun c' items hx => ?_⟩, hsp.mono⟩
    cases res with
    | error e => cases hx
    | ok x =>
      cases hx
      exact hsp.grasp x rfl

theorem steps_keep {x y : Stage} (hpy : py.Conforms) (h : Keeps x) (hs : Steps (Spared py) x y) :
    Keeps y ∧ ∀ id, (x.1.ledger.get? id).isSome → (y.1.ledger.get? id).isSome := by
  induction hs with
  | refl => exact ⟨h, fun _ hid => hid⟩
  | tail _ hstep ih =>
    obtain ⟨hk, hm⟩ := step_keeps hpy ih.1 hstep
    exact ⟨hk, fun id hid => hm id (ih.2 id hid)⟩

theorem keeps_start {db : Db} (h0 : EmptyLedger db) (hr : db.receipts = ∅) (hst : CleanStores db) :
    Keeps (db, none) := by
  refine ⟨⟨h0.sound, fun id r h => ?_, hst⟩, fun _ _ hx => by cases hx⟩
  rw [hr] at h
  cases h

/-- **Acceptance is permanent in spared runs**, and the receipts agree with the ledger. -/
theorem acceptance_permanent {db : Db} (hpy : py.Conforms) (h0 : EmptyLedger db)
    (hr : db.receipts = ∅) (hst : CleanStores db) {x y : Stage}
    (hx : Steps (Spared py) (db, none) x) (hy : Steps (Spared py) x y) :
    (∀ id r, y.1.receipts.get? id = some r →
      (r.accepted = true ↔ (y.1.ledger.get? id).isSome)) ∧
    ∀ id r, x.1.receipts.get? id = some r → r.accepted = true →
      ∃ r', y.1.receipts.get? id = some r' ∧ r'.accepted = true := by
  obtain ⟨hkx, -⟩ := steps_keep hpy (keeps_start h0 hr hst) hx
  obtain ⟨hky, hm⟩ := steps_keep hpy hkx hy
  refine ⟨fun id r h => ⟨hky.1.ledger id r h, fun hs => ?_⟩, fun id r h ha => ?_⟩
  · obtain ⟨row, hrow⟩ := Option.isSome_iff_exists.1 hs
    obtain ⟨r', h', ha⟩ := hky.1.sound.receipt id row hrow
    rw [h] at h'
    cases h'
    exact ha
  · obtain ⟨row, hrow⟩ := Option.isSome_iff_exists.1 (hm id (hkx.1.ledger id r h ha))
    exact hky.1.sound.receipt id row hrow

/-! ## Failures -/

namespace Sample

/-- A connection that is lost, at a statement or at a commit. -/
def lost : Exn := ⟨"OperationalError", "server closed the connection unexpectedly"⟩

def receipt : Submission := movement "TX-1" "RECEIPT" 10 0

/-- The receipt of goods, counted again. -/
def recount : Submission := movement "TX-1" "RECEIPT" 12 0

theorem conforms : python.Conforms where
  upper s c hc := by
    rw [show python.caseMap.upper s = String.ofList (s.toList.map Char.toUpper) from rfl,
      String.toList_ofList] at hc
    obtain ⟨c', -, rfl⟩ := List.mem_map.1 hc
    exact Py.not_isLower_toUpper c'
  repr := by decide +kernel

end Sample

/-- The first turn of a call with `s` alone. -/
def only (py : Python) (db : Db) (s : Submission) : Prog Exn Db (SyncReceipt × IngestPrefetch) :=
  ingestItem py (.loaded [s.payload] db) s

theorem steps_only {T : Turns} {x : SyncReceipt × IngestPrefetch}
    (hT : T (.loaded [s.payload] db) s db (.ok x) db') : Steps T (db, none) (db', none) := by
  have hs : Sortable [s] := by
    intro a ha b hb _
    rw [List.mem_singleton.1 ha, List.mem_singleton.1 hb]
  have h1 : Step T (db, none) (db, some (.loaded [s.payload] db, [(0, s)])) :=
    .request (F := noFault) hs (yields_of_eval (eval_reading_load _ _))
  exact ((Relation.ReflTransGen.single h1).tail (.turn hT)).tail .respond

/-- A call without failures is a spared run. -/
theorem steps_spared (hs : Plain s) (hok : ((only py db s).eval db).1.isOk = true) :
    Steps (Spared py) (db, none) (((only py db s).eval db).2, none) := by
  rcases h : (only py db s).eval db with ⟨_ | x, db'⟩ <;> rw [h] at hok
  · cases hok
  refine steps_only (s := s) (x := x) ⟨hs, ?_⟩
  split
  · exact h
  · exact yields_of_eval h

/-- A call whose statements fail as `fs` says. -/
theorem steps_failing (fs : List (Option Exn)) (hok : ((only py db s).run fs db).result.isOk = true) :
    Steps (Failing py) (db, none) (((only py db s).run fs db).state, none) := by
  rcases h : (only py db s).run fs db with ⟨_ | x, db', fs'⟩ <;> rw [h] at hok
  · cases hok
  exact steps_only (s := s) (x := x) ⟨fs, fs', fun _ _ => trivial, h⟩

namespace Sample

def received : Db := ((only python .empty receipt).eval .empty).2

def revised : Db := ((only python received recount).eval received).2

/-- The call with the recount, whose commit is lost. -/
def recounted : Db := ((only python received recount).run [none, none, none, some lost] received).state

theorem steps_received : Steps (Spared python) (.empty, none) (received, none) :=
  steps_spared (by unfold Plain; decide +kernel) (by decide +kernel)

theorem steps_revised : Steps (Spared python) (received, none) (revised, none) :=
  steps_spared (by unfold Plain; decide +kernel) (by decide +kernel)

end Sample

/-- An edit that goes through keeps the receipt accepted. -/
theorem acceptance_permanent_run :
    (∀ id r, Sample.revised.receipts.get? id = some r →
      (r.accepted = true ↔ (Sample.revised.ledger.get? id).isSome)) ∧
    ∀ id r, Sample.received.receipts.get? id = some r → r.accepted = true →
      ∃ r', Sample.revised.receipts.get? id = some r' ∧ r'.accepted = true :=
  acceptance_permanent (x := (Sample.received, none)) (y := (Sample.revised, none))
    Sample.conforms Sample.empty rfl (fun _ h => by cases h) Sample.steps_received
    Sample.steps_revised

/-- The commit of an edit that is lost turns the receipt of a ledger row into a rejection. -/
theorem acceptance_lost : ¬ ∀ x y : Stage, Steps (Failing Sample.python) (.empty, none) x →
    Steps (Failing Sample.python) x y → ∀ id r, x.1.receipts.get? id = some r →
      r.accepted = true → ∃ r', y.1.receipts.get? id = some r' ∧ r'.accepted = true := by
  intro h
  have hx : Steps (Failing Sample.python) (.empty, none) (Sample.received, none) :=
    steps_failing [] (by decide +kernel)
  have hy : Steps (Failing Sample.python) (Sample.received, none) (Sample.recounted, none) :=
    steps_failing _ (by decide +kernel)
  have hr : (Sample.received.receipts.get? "TX-1").map SyncReceipt.accepted = some true := by
    decide +kernel
  have hr' : (Sample.recounted.receipts.get? "TX-1").map SyncReceipt.accepted = some false := by
    decide +kernel
  obtain ⟨r, h1, ha⟩ := Option.map_eq_some_iff.1 hr
  obtain ⟨r', h2, ha'⟩ := h _ _ hx hy _ r h1 ha
  rw [h2] at hr'
  simp [ha'] at hr'

end Server
