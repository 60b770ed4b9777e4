import InvenTory.Lib.Faults
import InvenTory.Sync.Cursor
import InvenTory.Sync.Proof.Closure

/-!
# The cursor and the rows applied

When all pages come, no row changes meanwhile and the snapshot can be applied, the desktop has every
row that the server had at the new cursor (`pull_marks`). So it is in every sequence of such runs
(`cursor_sound`). A run that fails moves the cursor all the same (`cursor_overtakes`), so that it must
find nothing new on the server.
-/

namespace Sync

open Relational Sql Sql.Prog
open Server (CentralDb DateTime)

/-- Every row is in the database. -/
structure Holds (r : Rows) (d : Desktop.Db) : Prop where
  products : ∀ p ∈ r.products, d.products.get? p.1.id = some (desktopProduct p.1)
  stores : ∀ s ∈ r.stores, d.stores.get? s.1.id = some (desktopStore s.1)
  balances : ∀ b ∈ r.stockBalances,
    (d.balances.get? b.stock).map Desktop.StockBalance.quantity = some b.quantity

/-- The time of the first page. -/
def FirstPage (x : PullRun) (time : DateTime) : Prop := ∃ c, x.answers.head? = some (some (c, time))

/-- Every page comes and the snapshot can be applied, and meanwhile no row changes that is newer than
the cursor. -/
structure Undisturbed (server : Int → CentralDb) (s : Client) (x : PullRun) : Prop where
  answered : none ∉ x.answers
  steady : ∀ time, FirstPage x time → ∀ c now, some (c, now) ∈ x.answers →
    pulledRows s.lastSyncAt c = pulledRows s.lastSyncAt (server time.instant)
  applied : FaultFree x.faults
  fits : ∀ time, FirstPage x time → Fits (pulledRows s.lastSyncAt (server time.instant)) s.db

/-- What keeps the cursor behind the rows that were applied. -/
inductive Careful (server : Int → CentralDb) (s : Client) (x : PullRun) : Prop
  | skipped (h : x.hadRetryableError = true)
  | undisturbed (h : Undisturbed server s x)
  /-- The server has nothing new, neither at the first page nor by the desktop's clock. -/
  | nothing (h : ∀ time, time = x.now ∨ FirstPage x time →
    (pulledRows s.lastSyncAt (server time.instant)).length = 0)

/-! ## One run -/

theorem holds_nothing {r : Rows} (h : r.length = 0) (d : Desktop.Db) : Holds r d := by
  unfold Rows.length at h
  have hp : r.products = [] := List.eq_nil_of_length_eq_zero (by omega)
  have hs : r.stores = [] := List.eq_nil_of_length_eq_zero (by omega)
  have hb : r.stockBalances = [] := List.eq_nil_of_length_eq_zero (by omega)
  constructor
  · rw [hp]
    intro p hm
    cases hm
  · rw [hs]
    intro s hm
    cases hm
  · rw [hb]
    intro b hm
    cases hm

theorem Written.holds {r : Rows} {d d' : Desktop.Db} (h : Written r d d') (hr : Distinct r) :
    Holds r d' where
  products p hp := by
    rw [h.products]
    exact Table.get?_putAll_mem hr.desktopProducts.1 (List.mem_map_of_mem hp)
  stores s hs := by
    rw [h.stores]
    exact Table.get?_putAll_mem hr.desktopStores.1 (List.mem_map_of_mem hs)
  balances := h.balances

/-- The loop of the command over the rows of a table. -/
theorem scheduled_pullAll {ρ : Type} {f : ρ → Prog String (Conn Desktop.Db) Nat}
    (hf : ∀ r, Scheduled (f r)) : ∀ rs : List ρ, Scheduled (Desktop.pullAll f rs)
  | [] => .ret 0
  | r :: rs => .seq (hf r) fun _ => .seq (scheduled_pullAll hf rs) fun _ => .ret _

theorem scheduled_pullProduct (p : Desktop.Product) : Scheduled (Desktop.pullProduct p) := by
  unfold Desktop.pullProduct
  simp only
  have hup : Scheduled (execute (fun d : Desktop.Db => d.upsertProduct p) >>= fun _ =>
      (pure 1 : Prog String (Conn Desktop.Db) Nat)) := .seq (.execute _) fun _ => .ret _
  split
  · refine .seq (.attempt (.select _)) fun row => ?_
    split
    · split
      · exact hup
      · exact .seq (.execute _) fun _ => .ret _
    · exact hup
  · exact hup

theorem scheduled_pullStore (s : Desktop.Store) : Scheduled (Desktop.pullStore s) := by
  unfold Desktop.pullStore
  simp only
  have hup : Scheduled (execute (fun d : Desktop.Db => d.upsertStore s) >>= fun _ =>
      (pure 1 : Prog String (Conn Desktop.Db) Nat)) := .seq (.execute _) fun _ => .ret _
  split
  · refine .seq (.attempt (.select _)) fun row => ?_
    split
    · split
      · exact hup
      · exact .seq (.execute _) fun _ => .ret _
    · exact hup
  · exact hup

theorem scheduled_applySyncPull (ps : List Desktop.Product) (ss : List Desktop.Store)
    (bs : List Desktop.StockBalanceSnapshot) : Scheduled (Desktop.applySyncPull ps ss bs) := by
  refine .mapError _ (.session ?_)
  refine .seq (scheduled_pullAll scheduled_pullProduct ps) fun _ => ?_
  refine .seq (scheduled_pullAll scheduled_pullStore ss) fun _ => ?_
  refine .seq (scheduled_pullAll (fun b => ?_) bs) fun _ => .ret _
  exact .seq (.execute _) fun _ => .ret _

theorem invokeApply_eq {faults : List (Option String)} (hf : FaultFree faults) {r : Rows}
    {d d' : Desktop.Db} (h : applyRows r d = some d') : invokeApply faults r d = d' := by
  unfold invokeApply
  unfold applyRows at h
  cases ha : arguments r with
  | none =>
    rw [ha] at h
    cases h
  | some args =>
    obtain ⟨ps, ss, bs⟩ := args
    rw [ha] at h
    simp only [Option.bind_eq_bind, Option.bind_some] at h
    show ((Desktop.applySyncPull ps ss bs).run faults d).state = d'
    rw [(scheduled_applySyncPull ps ss bs faults d hf).2]
    split at h
    · rename_i he
      rw [he]
      exact Option.some.inj h
    · cases h

variable {server : Int → CentralDb} {limit : Nat} {s : Client} {x : PullRun}

theorem pullAll_not_failed {since : Option DateTime} : ∀ {answers : List Answer} {offset : Nat}
    {merged : Option PullResponse}, none ∉ answers →
      httpPullAll since limit offset merged answers ≠ .failed
  | [], _, _, _, h => by cases h
  | none :: _, _, _, hn, _ => hn List.mem_cons_self
  | some (c, now) :: rest, offset, merged, hn, h => by
    unfold httpPullAll at h
    simp only at h
    split at h
    · exact pullAll_not_failed (fun hm => hn (List.mem_cons_of_mem _ hm)) h
    · cases h

theorem pullAll_first {since : Option DateTime} {answers : List Answer} {resp : PullResponse}
    (h : httpPullAll since limit 0 none answers = .done resp) :
    ∃ c, answers.head? = some (some (c, resp.serverTime)) := by
  cases answers with
  | nil => cases h
  | cons a rest =>
    cases a with
    | none => cases h
    | some p =>
      obtain ⟨c, now⟩ := p
      refine ⟨c, ?_⟩
      unfold httpPullAll at h
      simp only at h
      split at h
      · rw [pullAll_serverTime h]
        rfl
      · cases h
        rfl

/-- **A careful run** sets the cursor to a time whose rows the desktop has. -/
theorem pull_marks (hserver : ∀ t, Constrained (server t).db) (hx : Careful server s x)
    {time : DateTime} (h : (s.pull limit x).2 = some time) :
    Holds (pulledRows s.lastSyncAt (server time.instant)) (s.pull limit x).1.db := by
  unfold Client.pull at h ⊢
  split at h
  · cases h
  rename_i hno
  rw [if_neg hno]
  cases hp : httpPullAll s.lastSyncAt limit 0 none x.answers with
  | waiting =>
    rw [hp] at h
    cases h
  | failed =>
    rw [hp] at h
    cases h
    cases hx with
    | skipped hs => exact absurd hs hno
    | undisturbed hu => exact absurd hp (pullAll_not_failed hu.answered)
    | nothing hn => exact holds_nothing (hn _ (.inl rfl)) _
  | done resp =>
    rw [hp] at h
    cases h
    have hfirst : FirstPage x resp.serverTime := pullAll_first hp
    cases hx with
    | skipped hs => exact absurd hs hno
    | nothing hn => exact holds_nothing (hn _ (.inr hfirst)) _
    | undisturbed hu =>
      have hrows : resp.rows = pulledRows s.lastSyncAt (server resp.serverTime.instant) :=
        pullAll_rows (hu.steady _ hfirst) (merged_start _) hp
      have hdist : Distinct (pulledRows s.lastSyncAt (server resp.serverTime.instant)) :=
        pulled_distinct (hserver _) _
      obtain ⟨d', hd'⟩ := Option.isSome_iff_exists.1
        ((applyRows_isSome pulled_real hdist).2 (hu.fits _ hfirst))
      show Holds _ (invokeApply x.faults resp.rows s.db)
      rw [hrows, invokeApply_eq hu.applied hd']
      exact (applyRows_written pulled_real hdist hd').holds hdist

/-! ## All runs -/

/-- **The cursor never overtakes the rows applied**, in any sequence of careful runs. -/
theorem cursor_sound (hserver : ∀ t, Constrained (server t).db) {marks : List Mark}
    (h : Syncs server limit (Careful server) s marks) :
    ∀ m ∈ marks, Holds (pulledRows m.previous (server m.time.instant)) m.db := by
  induction h with
  | start s =>
    intro m hm
    cases hm
  | run h x t ha hx ih =>
    intro m hm
    rcases List.mem_append.1 hm with hm | hm
    · exact ih m hm
    · obtain ⟨time, htime, rfl⟩ := List.mem_map.1 hm
      exact pull_marks hserver hx (Option.mem_toList.1 htime)
  | work h db ih => exact ih

namespace Sample

/-- A device that was never synchronized. -/
def fresh : Client := ⟨.empty, none⟩

/-- All rows of `stocked`, in two pages. -/
def twoPages : PullRun := ⟨false, [some (stocked, noon), some (stocked, noon)], [], noon⟩

/-- The first page does not come. -/
def noPage : PullRun := ⟨false, [none], [], ⟨200, some 0⟩⟩

theorem twoPages_careful : Careful (fun _ => stocked) fresh twoPages := by
  refine .undisturbed ⟨by simp [twoPages], fun _ _ c now h => ?_, ?_, fun _ _ => ?_⟩
  · simp only [twoPages, List.mem_cons, Option.some.injEq, Prod.mk.injEq, List.not_mem_nil,
      or_false, or_self] at h
    rw [h.1]
  · intro e he
    cases he
  · exact fits_closed stocked_typed ((closed_iff stocked_reachable.referenced).2 stocked_visible)

end Sample

theorem cursor_sound_run : (Sample.fresh.mark 2 Sample.twoPages).length = 1 ∧
    ∀ m ∈ Sample.fresh.mark 2 Sample.twoPages, Holds (pulledRows m.previous Sample.stocked) m.db := by
  refine ⟨by decide +kernel, ?_⟩
  have hrun : Syncs (fun _ => Sample.stocked) 2 (Careful fun _ => Sample.stocked)
      (Sample.fresh.pull 2 Sample.twoPages).1 ([] ++ Sample.fresh.mark 2 Sample.twoPages) :=
    .run (.start _) Sample.twoPages 0
      ⟨by decide, 100, by decide, rfl, by decide, 100, by decide, rfl, trivial⟩
      Sample.twoPages_careful
  exact cursor_sound (fun _ => ⟨Sample.stocked_reachable.referenced, Sample.stocked_typed.ids⟩) hrun

/-- The cursor passes rows that no page brought. -/
theorem cursor_overtakes : ¬ ∀ (server : Int → CentralDb) limit s marks,
    (∀ t, Constrained (server t).db) → Syncs server limit (fun _ _ => True) s marks →
      ∀ m ∈ marks, Holds (pulledRows m.previous (server m.time.instant)) m.db := by
  intro h
  have hrun : Syncs (fun _ => Sample.stocked) 2 (fun _ _ => True)
      (Sample.fresh.pull 2 Sample.noPage).1 ([] ++ Sample.fresh.mark 2 Sample.noPage) :=
    .run (.start _) Sample.noPage 0 trivial trivial
  have hm := h _ _ _ _ (fun _ => ⟨Sample.stocked_reachable.referenced, Sample.stocked_typed.ids⟩)
    hrun ⟨none, ⟨200, some 0⟩, .empty⟩ (List.mem_singleton_self _)
  have hlen : (pulledRows none Sample.stocked).products.length = 1 := by decide +kernel
  obtain ⟨p, hp⟩ := List.length_eq_one_iff.1 hlen
  have hget := hm.products p (by rw [hp]; exact List.mem_singleton_self p)
  cases hget

end Sync
