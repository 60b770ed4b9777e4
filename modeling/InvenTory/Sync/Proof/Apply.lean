import InvenTory.Sync.Pages

/-!
# Applying the rows of a pull

The server sends no placeholders, so `apply_sync_pull` upserts every row (`eval_applySyncPull`): it
goes through when no upsert breaks a constraint (`upsertAll`), and else changes nothing.
-/

namespace Sync

open Relational Sql Sql.Prog
open Desktop (StockBalanceSnapshot pullAll)

/-- A product as the desktop keeps it. -/
def desktopProduct (p : Server.Product) : Desktop.Product := ⟨p.id, p.sku, p.name, p.isActive⟩

def desktopStore (s : Server.Store) : Desktop.Store := ⟨s.id, s.code, s.name, s.isActive⟩

/-- The rows as the arguments of the command, which takes quantities of an `i32` only. -/
def arguments (r : Rows) :
    Option (List Desktop.Product × List Desktop.Store × List StockBalanceSnapshot) :=
  (r.stockBalances.mapM decodeBalance).map fun bs =>
    (r.products.map fun p => desktopProduct p.1, r.stores.map fun s => desktopStore s.1, bs)

/-- The database after `apply_sync_pull`, if it goes through. -/
def applyRows (r : Rows) (d : Desktop.Db) : Option Desktop.Db := do
  let (ps, ss, bs) ← arguments r
  match (Desktop.applySyncPull ps ss bs).eval d with
  | (.ok _, d') => some d'
  | (.error _, _) => none

/-- The statements of the command. -/
def upsertAll (ps : List Desktop.Product) (ss : List Desktop.Store) (bs : List StockBalanceSnapshot)
    (d : Desktop.Db) : Except String Desktop.Db := do
  let d ← ps.foldlM (fun d p => d.upsertProduct p) d
  let d ← ss.foldlM (fun d s => d.upsertStore s) d
  bs.foldlM (fun d b => d.setBalance b.row) d

/-! ## Running the command -/

section
variable {ρ : Type} {f : ρ → Prog String (Conn Desktop.Db) Nat}
  {g : ρ → Desktop.Db → Except String Desktop.Db}

theorem eval_pullAll_ok : ∀ {rs : List ρ}, (∀ r ∈ rs, f r = execute (g r) >>= fun _ => pure 1) →
    ∀ {c : Conn Desktop.Db} {d : Desktop.Db}, rs.foldlM (fun d r => g r d) c.work = .ok d →
      (pullAll f rs).eval c = (.ok rs.length, ⟨c.base, d⟩)
  | [], _, c, d, hd => by
    cases hd
    rfl
  | r :: rs, h, c, d, hd => by
    rw [List.foldlM_cons] at hd
    cases hg : g r c.work with
    | error e =>
      rw [hg] at hd
      cases hd
    | ok w =>
      rw [hg] at hd
      have hr : (f r).eval c = (.ok 1, ⟨c.base, w⟩) := by
        rw [h r List.mem_cons_self]
        exact eval_execute_bind hg
      have ih := eval_pullAll_ok (fun r' hr' => h r' (List.mem_cons_of_mem _ hr'))
        (c := ⟨c.base, w⟩) hd
      unfold pullAll
      rw [eval_bind_ok hr, eval_bind_ok ih, eval_pure, List.length_cons, Nat.add_comm]

theorem eval_pullAll_error : ∀ {rs : List ρ}, (∀ r ∈ rs, f r = execute (g r) >>= fun _ => pure 1) →
    ∀ {c : Conn Desktop.Db} {e : String}, rs.foldlM (fun d r => g r d) c.work = .error e →
      ∃ c', (pullAll f rs).eval c = (.error e, c')
  | [], _, c, e, hd => by cases hd
  | r :: rs, h, c, e, hd => by
    rw [List.foldlM_cons] at hd
    unfold pullAll
    cases hg : g r c.work with
    | error e' =>
      rw [hg] at hd
      cases hd
      refine ⟨c, ?_⟩
      have hr : (f r).eval c = (.error e, c) := by
        rw [h r List.mem_cons_self]
        exact eval_bind_error (eval_execute_error hg)
      rw [eval_bind_error hr]
    | ok w =>
      rw [hg] at hd
      have hr : (f r).eval c = (.ok 1, ⟨c.base, w⟩) := by
        rw [h r List.mem_cons_self]
        exact eval_execute_bind hg
      obtain ⟨c', ih⟩ := eval_pullAll_error (fun r' hr' => h r' (List.mem_cons_of_mem _ hr'))
        (c := ⟨c.base, w⟩) hd
      exact ⟨c', by rw [eval_bind_ok hr, eval_bind_error ih]⟩

end

/-- Rows that the command only upserts. -/
structure Real (ps : List Desktop.Product) (ss : List Desktop.Store) : Prop where
  product : ∀ p ∈ ps, Desktop.isPlaceholderProduct p.sku p.name = false
  store : ∀ s ∈ ss, Desktop.isPlaceholderStore s.name = false

variable {ps : List Desktop.Product} {ss : List Desktop.Store} {bs : List StockBalanceSnapshot}
  {d d' : Desktop.Db}

/-- Each loop of the command runs its statement on every row. -/
theorem Real.loops (h : Real ps ss) :
    (∀ p ∈ ps, Desktop.pullProduct p = execute (·.upsertProduct p) >>= fun _ => pure 1) ∧
    (∀ s ∈ ss, Desktop.pullStore s = execute (·.upsertStore s) >>= fun _ => pure 1) := by
  constructor
  · intro p hp
    simp [Desktop.pullProduct, h.product p hp]
  · intro s hs
    simp [Desktop.pullStore, h.store s hs]

theorem pullBalance_eq (b : StockBalanceSnapshot) :
    Desktop.pullBalance b = execute (·.setBalance b.row) >>= fun _ => pure 1 := rfl

/-- **The command is its upserts**, if they go through. -/
theorem eval_applySyncPull_ok (h : Real ps ss) (hd : upsertAll ps ss bs d = .ok d') :
    ∃ summary, (Desktop.applySyncPull ps ss bs).eval d = (.ok summary, d') := by
  obtain ⟨hp, hs⟩ := h.loops
  unfold upsertAll at hd
  cases h1 : ps.foldlM (fun d p => d.upsertProduct p) d with
  | error e =>
    rw [h1] at hd
    cases hd
  | ok d1 =>
    rw [h1] at hd
    change (ss.foldlM (fun d s => d.upsertStore s) d1 >>= _) = _ at hd
    cases h2 : ss.foldlM (fun d s => d.upsertStore s) d1 with
    | error e =>
      rw [h2] at hd
      cases hd
    | ok d2 =>
      rw [h2] at hd
      have e1 := eval_pullAll_ok hp (c := ⟨d, d⟩) h1
      have e2 := eval_pullAll_ok hs (c := ⟨d, d1⟩) h2
      have e3 := eval_pullAll_ok (fun b _ => pullBalance_eq b) (c := ⟨d, d2⟩) hd
      refine ⟨⟨ps.length, ss.length, bs.length⟩, ?_⟩
      unfold Desktop.applySyncPull Desktop.context
      have hbody : (do
          let p ← pullAll Desktop.pullProduct ps
          let s ← pullAll Desktop.pullStore ss
          let b ← pullAll Desktop.pullBalance bs
          pure (⟨p, s, b⟩ : Desktop.PullSummary) :
            Prog String (Conn Desktop.Db) Desktop.PullSummary).eval ⟨d, d⟩ =
          (.ok ⟨ps.length, ss.length, bs.length⟩, ⟨d, d'⟩) := by
        rw [eval_bind_ok e1, eval_bind_ok e2, eval_bind_ok e3]
        rfl
      rw [eval_mapError, eval_session_ok hbody]
      rfl

/-- If one of them fails, nothing is written. -/
theorem eval_applySyncPull_error (h : Real ps ss) {e : String}
    (hd : upsertAll ps ss bs d = .error e) :
    ∃ e', (Desktop.applySyncPull ps ss bs).eval d = (.error e', d) := by
  obtain ⟨hp, hs⟩ := h.loops
  have hbody : ∃ c', (do
      let p ← pullAll Desktop.pullProduct ps
      let s ← pullAll Desktop.pullStore ss
      let b ← pullAll Desktop.pullBalance bs
      pure (⟨p, s, b⟩ : Desktop.PullSummary) :
        Prog String (Conn Desktop.Db) Desktop.PullSummary).eval ⟨d, d⟩ = (.error e, c') := by
    unfold upsertAll at hd
    cases h1 : ps.foldlM (fun d p => d.upsertProduct p) d with
    | error e1 =>
      rw [h1] at hd
      cases hd
      obtain ⟨c', hc⟩ := eval_pullAll_error hp (c := ⟨d, d⟩) h1
      exact ⟨c', eval_bind_error hc⟩
    | ok d1 =>
      rw [h1] at hd
      change (ss.foldlM (fun d s => d.upsertStore s) d1 >>= _) = _ at hd
      rw [eval_bind_ok (eval_pullAll_ok hp (c := ⟨d, d⟩) h1)]
      cases h2 : ss.foldlM (fun d s => d.upsertStore s) d1 with
      | error e2 =>
        rw [h2] at hd
        cases hd
        obtain ⟨c', hc⟩ := eval_pullAll_error hs (c := ⟨d, d1⟩) h2
        exact ⟨c', eval_bind_error hc⟩
      | ok d2 =>
        rw [h2] at hd
        rw [eval_bind_ok (eval_pullAll_ok hs (c := ⟨d, d1⟩) h2)]
        obtain ⟨c', hc⟩ := eval_pullAll_error (fun b _ => pullBalance_eq b) (c := ⟨d, d2⟩) hd
        exact ⟨c', eval_bind_error hc⟩
  obtain ⟨c', hc⟩ := hbody
  refine ⟨"Failed to apply sync pull (rolled back)" ++ ": " ++ e, ?_⟩
  unfold Desktop.applySyncPull Desktop.context
  rw [eval_mapError, eval_session_error hc]
  rfl

end Sync
