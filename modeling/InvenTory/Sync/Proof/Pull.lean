import InvenTory.Lib.Runs
import InvenTory.Sync.Run
import InvenTory.Desktop.Proof.Records

/-!
# A pull replaces the local balances

`applySyncPull_ok`: a snapshot that is applied leaves its own quantities, whatever the balances
were. So the stock that local transactions moved since the snapshot is lost from the projection
(`pull_keeps_iff`, `pull_loses_sale`).
-/

namespace Sync

open Relational Sql Sql.Prog
open Desktop (StockBalanceSnapshot)
open Server (StockKey)

variable {F : String → Prop}

/-- What the transactions of `k` that are not in the server's ledger add up to. -/
def unaccepted (d : Desktop.Db) (db : Server.Db) (k : StockKey) : Int :=
  d.transactions.total fun r =>
    if r.stock = k ∧ (db.ledger.get? r.transactionId).isNone then r.quantityDelta else 0

/-! ## Applying a snapshot -/

/-- The statements of products and stores leave transactions and balances alone. -/
structure SameBalances (d d' : Desktop.Db) : Prop where
  transactions : d'.transactions = d.transactions
  balances : d'.balances = d.balances

theorem SameBalances.refl (d : Desktop.Db) : SameBalances d d := ⟨rfl, rfl⟩

theorem SameBalances.trans {d d' d'' : Desktop.Db} (h : SameBalances d d')
    (h' : SameBalances d' d'') : SameBalances d d'' :=
  ⟨h'.transactions.trans h.transactions, h'.balances.trans h.balances⟩

theorem executed {f : Desktop.Db → Except String Desktop.Db} {n m : Nat}
    {c c' : Conn Desktop.Db} (hf : ∀ {d d'}, f d = .ok d' → SameBalances d d')
    (h : (execute f >>= fun _ => (pure n : Prog String (Conn Desktop.Db) Nat)).Yields F c (.ok m) c') :
    SameBalances c.work c'.work := by
  obtain ⟨w, hw, h⟩ := yields_execute_bind h
  obtain ⟨-, rfl⟩ := yields_pure h
  exact hf hw

theorem upsertProduct_ok {p : Desktop.Product} {d d' : Desktop.Db}
    (h : d.upsertProduct p = .ok d') : SameBalances d d' := by
  unfold Desktop.Db.upsertProduct at h
  split at h <;> cases h
  exact ⟨rfl, rfl⟩

theorem upsertStore_ok {s : Desktop.Store} {d d' : Desktop.Db} (h : d.upsertStore s = .ok d') :
    SameBalances d d' := by
  unfold Desktop.Db.upsertStore at h
  split at h <;> cases h
  exact ⟨rfl, rfl⟩

theorem setProductActive_ok {id : String} {a : Bool} {d d' : Desktop.Db}
    (h : (.ok (d.setProductActive id a) : Except String Desktop.Db) = .ok d') :
    SameBalances d d' := by
  cases h
  unfold Desktop.Db.setProductActive
  split <;> exact ⟨rfl, rfl⟩

theorem setStoreActive_ok {id : String} {a : Bool} {d d' : Desktop.Db}
    (h : (.ok (d.setStoreActive id a) : Except String Desktop.Db) = .ok d') : SameBalances d d' := by
  cases h
  unfold Desktop.Db.setStoreActive
  split <;> exact ⟨rfl, rfl⟩

theorem attempt_select {α : Type} {f : Desktop.Db → α} {c c' : Conn Desktop.Db}
    {r : Except String α}
    (h : (attempt (select f)).Yields F c (.ok r) c') : c' = c := by
  obtain ⟨_, he, h⟩ := yields_attempt h
  cases he
  cases r with
  | ok a => exact (yields_select_ok h).2
  | error e => exact (yields_select_error h).1

theorem pullProduct_ok {p : Desktop.Product} {c c' : Conn Desktop.Db} {n : Nat}
    (h : (Desktop.pullProduct p).Yields F c (.ok n) c') : SameBalances c.work c'.work := by
  unfold Desktop.pullProduct at h
  split at h
  · obtain ⟨r, c1, h1, h⟩ := yields_bind_ok h
    cases attempt_select h1
    split at h
    · split at h
      · exact executed upsertProduct_ok h
      · exact executed setProductActive_ok h
    · exact executed upsertProduct_ok h
  · exact executed upsertProduct_ok h

theorem pullStore_ok {s : Desktop.Store} {c c' : Conn Desktop.Db} {n : Nat}
    (h : (Desktop.pullStore s).Yields F c (.ok n) c') : SameBalances c.work c'.work := by
  unfold Desktop.pullStore at h
  split at h
  · obtain ⟨r, c1, h1, h⟩ := yields_bind_ok h
    cases attempt_select h1
    split at h
    · split at h
      · exact executed upsertStore_ok h
      · exact executed setStoreActive_ok h
    · exact executed upsertStore_ok h
  · exact executed upsertStore_ok h

theorem pullAll_same {ρ : Type} {f : ρ → Prog String (Conn Desktop.Db) Nat}
    (hf : ∀ {r : ρ} {c c' n}, (f r).Yields F c (.ok n) c' → SameBalances c.work c'.work) :
    ∀ {rs : List ρ} {c c' : Conn Desktop.Db} {n : Nat},
      (Desktop.pullAll f rs).Yields F c (.ok n) c' → SameBalances c.work c'.work
  | [], _, _, _, h => by
    obtain ⟨-, rfl⟩ := yields_pure h
    exact .refl _
  | r :: rs, c, c', n, h => by
    obtain ⟨_, c1, h1, h⟩ := yields_bind_ok h
    obtain ⟨_, c2, h2, h⟩ := yields_bind_ok h
    obtain ⟨-, rfl⟩ := yields_pure h
    exact (hf h1).trans (pullAll_same hf h2)

theorem setBalance_ok {d d' : Desktop.Db} {b : Desktop.StockBalance}
    (h : d.setBalance b = .ok d') : d'.transactions = d.transactions ∧
      ∀ k, d'.quantity k = if b.stock = k then b.quantity else d.quantity k := by
  obtain ⟨ht, -, b', hb, hput, hq⟩ := Desktop.upsertBalance_ok h
  refine ⟨ht, fun k => ?_⟩
  rw [Desktop.quantity_put hput, hb, hq]
  cases d.balances.get? b.stock <;> rfl

/-- Every balance of the snapshot is as in the snapshot afterwards. -/
theorem pullBalances_ok : ∀ {bs : List StockBalanceSnapshot} {c c' : Conn Desktop.Db} {n : Nat},
    (Desktop.pullAll Desktop.pullBalance bs).Yields F c (.ok n) c' → (bs.map (·.stock)).Nodup →
      c'.work.transactions = c.work.transactions ∧
      (∀ b ∈ bs, c'.work.quantity b.stock = b.quantity.toInt) ∧
      ∀ k ∉ bs.map (·.stock), c'.work.quantity k = c.work.quantity k
  | [], c, _, _, h, _ => by
    obtain ⟨-, rfl⟩ := yields_pure h
    exact ⟨rfl, fun _ hb => (List.not_mem_nil hb).elim, fun _ _ => rfl⟩
  | b :: bs, c, c', n, h, hn => by
    obtain ⟨hb, hn⟩ := List.nodup_cons.1 hn
    obtain ⟨_, c1, h1, h⟩ := yields_bind_ok h
    obtain ⟨_, c2, h2, h⟩ := yields_bind_ok h
    obtain ⟨-, rfl⟩ := yields_pure h
    obtain ⟨w, hw, h1⟩ := yields_execute_bind h1
    obtain ⟨-, rfl⟩ := yields_pure h1
    obtain ⟨ht, hq⟩ := setBalance_ok hw
    obtain ⟨ht2, hin, hout⟩ := pullBalances_ok h2 hn
    refine ⟨ht2.trans ht, fun b' hb' => ?_, fun k hk => ?_⟩
    · rcases List.mem_cons.1 hb' with rfl | hb'
      · exact (hout _ hb).trans ((hq _).trans (if_pos rfl))
      · exact hin _ hb'
    · obtain ⟨hne, hk⟩ := not_or.1 (List.mem_cons.not.1 hk)
      exact (hout _ hk).trans ((hq _).trans (if_neg (Ne.symm hne)))

theorem applySyncPull_ok {products : List Desktop.Product} {stores : List Desktop.Store}
    {bs : List StockBalanceSnapshot} {d d' : Desktop.Db} {sum : Desktop.PullSummary}
    (hn : (bs.map (·.stock)).Nodup)
    (h : (Desktop.applySyncPull products stores bs).Yields F d (.ok sum) d') :
    d'.transactions = d.transactions ∧ ∀ b ∈ bs, d'.quantity b.stock = b.quantity.toInt := by
  rcases yields_session (Desktop.yields_context_ok h) with ⟨_, he, -⟩ | ⟨_, c, he, h, rfl⟩
  · cases he
  cases he
  obtain ⟨_, c1, h1, h⟩ := yields_bind_ok h
  obtain ⟨_, c2, h2, h⟩ := yields_bind_ok h
  obtain ⟨_, c3, h3, h⟩ := yields_bind_ok h
  obtain ⟨-, rfl⟩ := yields_pure h
  have hs := (pullAll_same pullProduct_ok h1).trans (pullAll_same pullStore_ok h2)
  obtain ⟨ht, hin, -⟩ := pullBalances_ok h3 hn
  exact ⟨ht.trans hs.transactions, hin⟩

/-! ## The snapshot -/

theorem decodeBalance_stock {b : Server.StockBalance} {s : StockBalanceSnapshot}
    (h : decodeBalance b = some s) : s.stock = b.stock := by
  obtain ⟨q, -, rfl⟩ := Option.map_eq_some_iff.1 h
  rfl

theorem map_stock_of_mapM {bs : List Server.StockBalance} {snap : List StockBalanceSnapshot}
    (h : bs.mapM decodeBalance = some snap) : snap.map (·.stock) = bs.map (·.stock) := by
  rw [← List.forall₂_eq_eq_eq, List.forall₂_map_left_iff, List.forall₂_map_right_iff]
  exact (Runs.forall₂_of_mapM h).flip.imp fun s b hs => decodeBalance_stock hs

/-- A snapshot has one row for a key. -/
theorem snapshot_nodup {since : Option Server.DateTime} {db : Server.Db}
    {snap : List StockBalanceSnapshot} (h : snapshot since db = some snap) :
    (snap.map (·.stock)).Nodup := by
  rw [map_stock_of_mapM h]
  have hp : (pulledBalances since db).Perm (db.balances.rows.filter (newerThan since)) :=
    List.perm_insertionSort ..
  exact (hp.map _).nodup_iff.2 (db.balances.nodup.sublist (List.filter_sublist.map _))

/-- **A pull keeps the local work on a key exactly when there is none.** -/
theorem pull_keeps_iff {since : Option Server.DateTime} {db : Server.Db}
    {products : List Desktop.Product} {stores : List Desktop.Store}
    {snap : List StockBalanceSnapshot} {d d' : Desktop.Db} {sum : Desktop.PullSummary}
    (hs : snapshot since db = some snap)
    (h : (Desktop.applySyncPull products stores snap).Yields F d (.ok sum) d') :
    ∀ b ∈ snap, d'.quantity b.stock = b.quantity.toInt + unaccepted d' db b.stock ↔
      unaccepted d db b.stock = 0 := by
  intro b hb
  obtain ⟨ht, hq⟩ := applySyncPull_ok (snapshot_nodup hs) h
  have hu : unaccepted d' db b.stock = unaccepted d db b.stock := by
    rw [unaccepted, unaccepted, ht]
  rw [hq b hb, hu]
  omega

namespace Sample

/-- The receipt of ten as the server sends it back. -/
def tenReceived : StockBalanceSnapshot := ⟨"SB-1", Server.Sample.stock, 10⟩

/-- Four are sold after the last push. -/
def sold : Desktop.Db := ((Desktop.sellStock (clock 2 5) (sale 4)).eval pushed.desktop).2

end Sample

/-- A pull with nothing in between. -/
theorem pull_keeps_run :
    let d' := ((Desktop.applySyncPull [] [] [Sample.tenReceived]).eval Sample.pushed.desktop).2
    d'.quantity Server.Sample.stock =
        (10 : Int32).toInt + unaccepted d' Sample.pushed.server Server.Sample.stock ↔
      unaccepted Sample.pushed.desktop Sample.pushed.server Server.Sample.stock = 0 := by
  have hs : snapshot none Sample.pushed.server = some [Sample.tenReceived] := by decide
  have hy : (Desktop.applySyncPull [] [] [Sample.tenReceived]).Yields (fun _ => False)
      Sample.pushed.desktop (.ok ⟨0, 0, 1⟩)
      ((Desktop.applySyncPull [] [] [Sample.tenReceived]).eval Sample.pushed.desktop).2 :=
    yields_of_eval (Prod.ext (by decide) rfl)
  exact pull_keeps_iff hs hy Sample.tenReceived (List.mem_singleton.2 rfl)

/-- A sale between the last push and `apply_sync_pull` is lost from the local balance: it is the
snapshot's 10 again, not 10 - 4. -/
theorem pull_loses_sale :
    let d' := ((Desktop.applySyncPull [] [] [Sample.tenReceived]).eval Sample.sold).2
    snapshot none Sample.pushed.server = some [Sample.tenReceived] ∧
      ((Desktop.applySyncPull [] [] [Sample.tenReceived]).eval Sample.sold).1 = .ok ⟨0, 0, 1⟩ ∧
      d'.quantity Server.Sample.stock = 10 ∧
      ¬ d'.quantity Server.Sample.stock =
        (10 : Int32).toInt + unaccepted d' Sample.pushed.server Server.Sample.stock := by
  decide

end Sync
