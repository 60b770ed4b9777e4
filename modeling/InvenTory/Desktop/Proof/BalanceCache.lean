import InvenTory.Desktop.BalanceCache
import InvenTory.Desktop.Proof.Transfers
import InvenTory.Lib.Runs
import InvenTory.Lib.Upserts

/-!
# When the cache is coherent

`Fresh` says that what the cache answers is not older than the last mutation that resolved. It is what a
careful step keeps (`Fresh.step`), and a step that keeps it is careful (`careful_of_fresh`); a read that the
cache answers is right exactly if it holds. So the reads of a run, started at any moment, are all right
exactly if its steps are careful (`reads_coherent_iff`).
-/

namespace Desktop

open Relational
open Server (StockKey)

/-! ## Answers of the database -/

theorem balanceCacheKey_inj {k k' : StockKey} (hs : k.storeId = k'.storeId)
    (hb : k.stockBucket = k'.stockBucket) (h : balanceCacheKey k = balanceCacheKey k') : k = k' := by
  obtain ⟨s, p, b⟩ := k
  obtain ⟨s', p', b'⟩ := k'
  obtain ⟨rfl, rfl⟩ : s = s' ∧ b = b' := ⟨hs, hb⟩
  simp only [balanceCacheKey] at h
  have hp := congrArg String.toList h
  simp only [String.toList_append, List.append_cancel_right_eq, List.append_cancel_left_eq,
    String.toList_inj] at hp
  rw [hp]

theorem getStockBalancesForStore_some {db : Db} {storeId : String} {rows : List (String × Int32)}
    (h : db.getStockBalancesForStore storeId = some rows) :
    (rows.map (·.1)).Nodup ∧ ∀ row ∈ rows, db.readBalance ⟨storeId, row.1, "AVAILABLE"⟩ = row.2 := by
  have hread : ∀ {b : StockBalance} {row : String × Int32},
      (Db.readI32 b.quantity).map (fun quantity => (b.stock.productId, quantity)) = some row →
        b.stock.productId = row.1 ∧ Db.readI32 b.quantity = some row.2 := fun hb => by
    obtain ⟨q, hq, rfl⟩ := Option.map_eq_some_iff.1 hb
    exact ⟨rfl, hq⟩
  refine ⟨?_, fun row hrow => ?_⟩
  · have hproducts : (db.balances.rows.filter fun b =>
        b.stock.storeId = storeId ∧ b.stock.stockBucket = "AVAILABLE").map (·.stock.productId) =
          rows.map (·.1) := by
      rw [← List.forall₂_eq_eq_eq, List.forall₂_map_left_iff, List.forall₂_map_right_iff]
      exact (Runs.forall₂_of_mapM h).imp fun b row hb => (hread hb).1
    rw [← hproducts]
    have hstock := db.balances.nodup.sublist ((List.filter_sublist (p := fun b : StockBalance =>
      b.stock.storeId = storeId ∧ b.stock.stockBucket = "AVAILABLE")).map key)
    refine (List.nodup_map_iff_inj_on (List.Nodup.of_map _ hstock)).2 fun a ha b hb hab => ?_
    refine List.inj_on_of_nodup_map hstock ha hb ?_
    have hfa := (List.mem_filter.1 ha).2
    have hfb := (List.mem_filter.1 hb).2
    simp only [decide_eq_true_eq] at hfa hfb
    show (⟨a.stock.storeId, a.stock.productId, a.stock.stockBucket⟩ : StockKey) =
      ⟨b.stock.storeId, b.stock.productId, b.stock.stockBucket⟩
    rw [hfa.1, hfa.2, hfb.1, hfb.2, hab]
  · obtain ⟨-, rfl⟩ := Runs.mapM_eq_some_iff.1 h
    obtain ⟨b, hb, hrow⟩ := List.mem_filterMap.1 hrow
    obtain ⟨hp, hq⟩ := hread hrow
    obtain ⟨hm, hf⟩ := List.mem_filter.1 hb
    simp only [decide_eq_true_eq] at hf
    have hkey : (⟨storeId, row.1, "AVAILABLE"⟩ : StockKey) = b.stock := by
      rw [← hp, ← hf.1, ← hf.2]
    have hget : db.balances.get? b.stock = some b := Table.get?_of_mem hm
    rw [hkey, Db.readBalance, hget, Option.bind_some, hq]
    rfl

namespace ReadRequest

theorem select_quantity {db : Db} {request : ReadRequest} {row : StockKey × Int32}
    (h : row ∈ request.select db) : db.readBalance row.1 = row.2 := by
  cases request with
  | getStockBalance storeId productId => rw [List.mem_singleton.1 h]; rfl
  | getStockBalanceForBucket storeId productId stockBucket => rw [List.mem_singleton.1 h]; rfl
  | getStockBalancesForStore storeId =>
    obtain ⟨r, hr, rfl⟩ := List.mem_map.1 h
    cases hrows : db.getStockBalancesForStore storeId with
    | none => simp [hrows] at hr
    | some rows => exact (getStockBalancesForStore_some hrows).2 r (by simpa [hrows] using hr)

theorem select_nodup (db : Db) (request : ReadRequest) :
    ((request.select db).map fun row => balanceCacheKey row.1).Nodup := by
  cases request with
  | getStockBalance storeId productId => exact List.nodup_singleton _
  | getStockBalanceForBucket storeId productId stockBucket => exact List.nodup_singleton _
  | getStockBalancesForStore storeId =>
    cases hrows : db.getStockBalancesForStore storeId with
    | none => simp [select, hrows]
    | some rows =>
      have hn := (getStockBalancesForStore_some hrows).1
      simp only [select, hrows, Option.getD_some, List.map_map]
      refine (List.nodup_map_iff_inj_on (List.Nodup.of_map _ hn)).2 fun a ha b hb hab => ?_
      have hstock : (⟨storeId, a.1, "AVAILABLE"⟩ : StockKey) = ⟨storeId, b.1, "AVAILABLE"⟩ :=
        balanceCacheKey_inj rfl rfl hab
      exact List.inj_on_of_nodup_map hn ha hb (congrArg StockKey.productId hstock)

end ReadRequest

/-! ## What the cache answers -/

namespace StockBalanceCache

variable {cache : StockBalanceCache} {now : Nat} {key' : String} {quantity : Int32}

theorem read_some_iff : (cache.readBalanceCache now key').1 = some quantity ↔
    ∃ hit, cache.get? key' = some hit ∧ now - hit.cachedAt ≤ stockBalanceTtlMs ∧
      hit.quantity = quantity := by
  unfold readBalanceCache
  cases hget : cache.get? key' with
  | none => simp
  | some hit =>
    simp only [Option.some.injEq, exists_eq_left']
    split
    · rename_i hold
      exact ⟨(fun h => by cases h), fun h => absurd h.1 (not_le.2 hold)⟩
    · rename_i hold
      exact ⟨fun h => ⟨not_lt.1 hold, Option.some.inj h⟩, fun h => congrArg some h.2⟩

/-- Looking an entry up changes no answer. -/
theorem read_after_read (cache : StockBalanceCache) (now : Nat) (key' k : String) :
    ((cache.readBalanceCache now key').2.readBalanceCache now k).1 =
      (cache.readBalanceCache now k).1 := by
  cases hget : cache.get? key' with
  | none => simp only [readBalanceCache, hget]
  | some hit =>
    by_cases hold : stockBalanceTtlMs < now - hit.cachedAt
    · have herase : (cache.readBalanceCache now key').2 = cache.erase key' := by
        simp only [readBalanceCache, hget, hold, if_true]
      rw [herase]
      by_cases hk : k = key'
      · subst hk
        simp [readBalanceCache, hget, hold, Table.get?_erase]
      · simp only [readBalanceCache, Table.get?_erase, Ne.symm hk, if_false]
        cases cache.get? k with
        | none => rfl
        | some hit' => dsimp only; split <;> rfl
    · simp only [readBalanceCache, hget, hold, if_false]

/-- An entry that has expired stays expired. -/
theorem read_later {ms : Nat} (h : (cache.readBalanceCache (now + ms) key').1 = some quantity) :
    (cache.readBalanceCache now key').1 = some quantity := by
  obtain ⟨hit, hget, hold, hq⟩ := read_some_iff.1 h
  exact read_some_iff.2 ⟨hit, hget, by omega, hq⟩

theorem writeBalances_eq (rows : List (StockKey × Int32)) :
    cache.writeBalances now rows =
      cache.putAll (rows.map fun row => CachedBalance.mk (balanceCacheKey row.1) row.2 now) := by
  rw [Table.putAll, List.foldl_map]
  rfl

theorem read_written (cache : StockBalanceCache) (now : Nat) {rows : List (StockKey × Int32)}
    {row : StockKey × Int32}
    (hn : (rows.map fun row => balanceCacheKey row.1).Nodup) (hrow : row ∈ rows) :
    ((cache.writeBalances now rows).readBalanceCache now (balanceCacheKey row.1)).1 =
      some row.2 := by
  rw [writeBalances_eq, read_some_iff]
  refine ⟨⟨balanceCacheKey row.1, row.2, now⟩, ?_, by simp, rfl⟩
  refine Table.get?_putAll_mem (r := CachedBalance.mk (balanceCacheKey row.1) row.2 now) ?_
    (List.mem_map_of_mem hrow)
  rw [List.map_map]
  exact hn

theorem read_unwritten (cache : StockBalanceCache) (now : Nat) {rows : List (StockKey × Int32)}
    (h : ∀ row ∈ rows, balanceCacheKey row.1 ≠ key') :
    ((cache.writeBalances now rows).readBalanceCache now key').1 =
      (cache.readBalanceCache now key').1 := by
  have hget : (cache.writeBalances now rows).get? key' = cache.get? key' := by
    rw [writeBalances_eq]
    refine Table.get?_putAll fun hm => ?_
    rw [List.map_map] at hm
    obtain ⟨row, hrow, hk⟩ := List.mem_map.1 hm
    exact h row hrow hk
  unfold readBalanceCache
  rw [hget]
  cases cache.get? key' with
  | none => rfl
  | some hit => dsimp only; split <;> rfl

end StockBalanceCache

/-! ## Runs -/

namespace BalanceServices

variable {s : BalanceServices} {i j : Nat} {k : StockKey} {quantity : Int32}

theorem Since.mono (h : s.Since j k quantity) (hij : i ≤ j) : s.Since i k quantity := by
  obtain ⟨db, hdb, hq⟩ := h
  exact ⟨db, (List.drop_sublist_drop_left s.versions hij).subset hdb, hq⟩

theorem since_now (h : i ≤ s.earlier.length) : s.Since i k (s.db.readBalance k) := by
  refine ⟨s.db, ?_, rfl⟩
  rw [versions, List.drop_append_of_le_length h]
  exact List.mem_append_right _ List.mem_cons_self

/-- The versions stay when another one comes. -/
theorem Since.append {s' : BalanceServices} (h : s.Since i k quantity) (dbs : List Db)
    (hv : s'.versions = s.versions ++ dbs) : s'.Since i k quantity := by
  obtain ⟨db, hdb, hq⟩ := h
  refine ⟨db, ?_, hq⟩
  rw [hv, List.drop_append]
  exact List.mem_append_left _ hdb

/-- What holds in every run. -/
structure Kept (s : BalanceServices) : Prop where
  resolved : s.resolved ≤ s.earlier.length
  written : ∀ call m, s.mutations call = some m → m.written ≤ s.earlier.length
  since : ∀ call r, s.reads call = some r → r.since ≤ s.resolved
  read : ∀ call request since rows, s.reads call = some ⟨request, since, some rows⟩ →
    (rows.map fun row => balanceCacheKey row.1).Nodup ∧ ∀ row ∈ rows, s.Since since row.1 row.2

theorem kept_opened (db : Db) : Kept (opened db) where
  resolved := le_refl 0
  written _ _ h := by cases h
  since _ _ h := by cases h
  read _ _ _ _ h := by cases h

namespace Kept

/-- A call that is not on its way any more. -/
theorem dropRead (h : Kept s) (call : Nat) :
    Kept { s with reads := Function.update s.reads call none } where
  resolved := h.resolved
  written := h.written
  since c r hr := by
    simp only [Function.update_apply] at hr
    split at hr
    · cases hr
    · exact h.since c r hr
  read c request since rows hr := by
    simp only [Function.update_apply] at hr
    split at hr
    · cases hr
    · exact h.read c request since rows hr

theorem setMutation (h : Kept s) (call : Nat) {m : Option Mutating}
    (hm : ∀ m' ∈ m, m'.written ≤ s.earlier.length) :
    Kept { s with mutations := Function.update s.mutations call m } where
  resolved := h.resolved
  written c m' hc := by
    simp only [Function.update_apply] at hc
    split at hc
    · exact hm m' hc
    · exact h.written c m' hc
  since := h.since
  read := h.read

theorem withCache (h : Kept s) (cache : StockBalanceCache) (returned : List Returned) :
    Kept { s with cache, returned } := ⟨h.resolved, h.written, h.since, h.read⟩

theorem ask (h : Kept s) (call : Nat) (request : ReadRequest) : Kept (s.ask call request) where
  resolved := h.resolved
  written := h.written
  since c r hr := by
    simp only [BalanceServices.ask, Function.update_apply] at hr
    split at hr
    · cases hr
      exact le_refl _
    · exact h.since c r hr
  read c request' since rows hr := by
    simp only [BalanceServices.ask, Function.update_apply] at hr
    split at hr
    · cases hr
    · exact h.read c request' since rows hr

theorem start (h : Kept s) (call : Nat) (request : ReadRequest) : Kept (s.start call request) := by
  unfold BalanceServices.start
  cases request.cachedKey with
  | none => exact h.ask call request
  | some k =>
    dsimp only
    split
    · exact h.withCache _ _
    · exact (h.withCache _ _).ask call request

theorem answer (h : Kept s) (call : Nat) : Kept (s.answer call) := by
  unfold BalanceServices.answer
  split
  · rename_i request since hcall
    have hsince : since ≤ s.resolved := h.since call ⟨request, since, none⟩ hcall
    refine ⟨h.resolved, h.written, fun c r hr => ?_, fun c request' since' rows hr => ?_⟩
    · simp only [Function.update_apply] at hr
      split at hr
      · cases hr
        exact hsince
      · exact h.since c r hr
    · simp only [Function.update_apply] at hr
      split at hr
      · cases hr
        refine ⟨ReadRequest.select_nodup s.db request, fun row hrow => ?_⟩
        have hnow : s.Since since row.1 (s.db.readBalance row.1) :=
          since_now (hsince.trans h.resolved)
        rw [ReadRequest.select_quantity hrow] at hnow
        exact hnow
      · exact h.read c request' since' rows hr
  · exact h

theorem finish (h : Kept s) (call : Nat) : Kept (s.finish call) := by
  unfold BalanceServices.finish
  split
  · have hd := h.dropRead call
    exact ⟨hd.resolved, hd.written, hd.since, hd.read⟩
  · exact h

theorem write (h : Kept s) (call : Nat) (db : Db) : Kept (s.write call db) := by
  unfold BalanceServices.write
  split
  · rename_i m hcall
    have hlength : s.versions.length = s.earlier.length + 1 := by simp [versions]
    refine ⟨?_, fun c m' hc => ?_, h.since, fun c request since rows hr => ?_⟩
    · have := h.resolved
      dsimp only
      omega
    · simp only [Function.update_apply] at hc
      split at hc
      · cases hc
        exact le_refl _
      · have := h.written c m' hc
        dsimp only
        omega
    · obtain ⟨hn, hq⟩ := h.read c request since rows hr
      exact ⟨hn, fun row hrow => (hq row hrow).append [db] rfl⟩
  · exact h

theorem resolve (h : Kept s) (call : Nat) : Kept (s.resolve call) := by
  unfold BalanceServices.resolve
  split
  · rename_i m hcall
    have hm := h.setMutation call (m := none) fun _ hm => by cases hm
    exact ⟨max_le h.resolved (h.written call m hcall), hm.written,
      fun c r hr => (h.since c r hr).trans (le_max_left _ _), h.read⟩
  · exact h

theorem step (h : Kept s) (e : Event) : Kept (BalanceServices.step s e) := by
  cases e with
  | start call request => exact h.start call request
  | answer call => exact h.answer call
  | finish call => exact h.finish call
  | failRead call => exact h.dropRead call
  | issue call service =>
    refine h.setMutation call fun m' hm => ?_
    cases hm
    exact Nat.zero_le _
  | write call db => exact h.write call db
  | resolve call => exact h.resolve call
  | reject call => exact h.setMutation call fun _ hm => by cases hm
  | pass ms => exact ⟨h.resolved, h.written, h.since, h.read⟩

end Kept

/-- What the cache answers is not older than the last mutation that resolved. -/
def Fresh (s : BalanceServices) : Prop :=
  ∀ k quantity, s.cached k = some quantity → s.Since s.resolved k quantity

theorem cached_start (call : Nat) (request : ReadRequest) (k : StockKey) :
    (s.start call request).cached k = s.cached k := by
  unfold BalanceServices.start
  cases request.cachedKey with
  | none => rfl
  | some k' =>
    have hread := StockBalanceCache.read_after_read s.cache s.now (balanceCacheKey k')
      (balanceCacheKey k)
    dsimp only
    split
    all_goals
      rename_i heq
      rw [heq] at hread
      exact hread

theorem start_versions (call : Nat) (request : ReadRequest) :
    (s.start call request).versions = s.versions ∧
      (s.start call request).resolved = s.resolved := by
  unfold BalanceServices.start
  cases request.cachedKey with
  | none => exact ⟨rfl, rfl⟩
  | some k =>
    dsimp only
    split
    · exact ⟨rfl, rfl⟩
    · exact ⟨rfl, rfl⟩

theorem fresh_finish {call : Nat} (hk : Kept s) (h : Fresh s) (he : Careful s (.finish call)) :
    Fresh (s.finish call) := by
  unfold finish
  split
  · rename_i request since rows hcall
    intro k quantity hq
    by_cases hrow : ∃ row ∈ rows, balanceCacheKey row.1 = balanceCacheKey k
    · obtain ⟨row, hrow, hkey⟩ := hrow
      have hread := StockBalanceCache.read_written s.cache s.now
        (hk.read call request since rows hcall).1 hrow
      rw [hkey] at hread
      obtain rfl : row.2 = quantity := Option.some.inj (hread.symm.trans hq)
      exact he request since rows hcall row hrow k hkey.symm
    · have hread := StockBalanceCache.read_unwritten s.cache s.now
        (fun row hr hkey => hrow ⟨row, hr, hkey⟩)
      exact h k quantity (hread.symm.trans hq)
  · exact h

theorem fresh_resolve {call : Nat} (h : Fresh s) (he : Careful s (.resolve call)) :
    Fresh (s.resolve call) := by
  unfold resolve
  split
  · rename_i m hcall
    intro k quantity hq
    cases hinv : m.service.invalidates with
    | true => simp [cached, hinv, StockBalanceCache.readBalanceCache] at hq
    | false =>
      have hold : s.cached k = some quantity := by simpa [cached, hinv] using hq
      rcases max_choice s.resolved m.written with hmax | hmax
      · have hs := h k quantity hold
        rw [← hmax] at hs
        exact hs
      · have hs := he m hcall hinv k quantity hold
        rw [← hmax] at hs
        exact hs
  · exact h

/-- **A careful step keeps the cache fresh.** -/
theorem Fresh.step {e : Event} (hk : Kept s) (h : Fresh s) (he : Careful s e) :
    Fresh (BalanceServices.step s e) := by
  cases e with
  | start call request =>
    intro k quantity hq
    have hs := h k quantity ((cached_start call request k).symm.trans hq)
    obtain ⟨hversions, hresolved⟩ := start_versions (s := s) call request
    rw [← hresolved] at hs
    exact hs.append [] (hversions.trans (List.append_nil _).symm)
  | answer call =>
    show Fresh (s.answer call)
    unfold answer
    split
    · exact h
    · exact h
  | finish call => exact fresh_finish hk h he
  | failRead call => exact h
  | issue call service => exact h
  | write call db =>
    show Fresh (s.write call db)
    unfold write
    split
    · exact fun k quantity hq => (h k quantity hq).append [db] rfl
    · exact h
  | resolve call => exact fresh_resolve h he
  | reject call => exact h
  | pass ms => exact fun k quantity hq => h k quantity (StockBalanceCache.read_later hq)

/-- **A step that leaves the cache fresh was careful.** -/
theorem careful_of_fresh {e : Event} (hk : Kept s) (h : Fresh (BalanceServices.step s e)) :
    Careful s e := by
  cases e with
  | finish call =>
    intro request since rows hcall row hrow k hkey
    have hread := StockBalanceCache.read_written s.cache s.now
      (hk.read call request since rows hcall).1 hrow
    rw [← hkey] at hread
    simp only [BalanceServices.step, finish, hcall] at h
    exact h k row.2 hread
  | resolve call =>
    intro m hcall hinv k quantity hq
    simp only [BalanceServices.step, resolve, hcall, hinv, Bool.false_eq_true, if_false] at h
    exact Since.mono (h k quantity hq) (le_max_right _ _)
  | _ => trivial

/-- A read that starts over a fresh cache returns nothing old. -/
theorem Coherent.step {e : Event} (hk : Kept s) (hf : Fresh s) (h : Coherent s) :
    Coherent (BalanceServices.step s e) := by
  cases e with
  | start call request =>
    show Coherent (s.start call request)
    unfold start
    cases request.cachedKey with
    | none => exact h
    | some k =>
      dsimp only
      split
      · rename_i quantity cache heq
        intro r hr
        rcases List.mem_cons.1 hr with rfl | hr
        · exact hf k quantity (congrArg Prod.fst heq)
        · exact h r hr
      · exact h
  | answer call =>
    show Coherent (s.answer call)
    unfold answer
    split
    · exact h
    · exact h
  | finish call =>
    show Coherent (s.finish call)
    unfold finish
    split
    · rename_i request since rows hcall
      intro r hr
      rcases List.mem_append.1 hr with hr | hr
      · obtain ⟨row, hrow, rfl⟩ := List.mem_map.1 hr
        exact (hk.read call request since rows hcall).2 row hrow
      · exact h r hr
    · exact h
  | failRead call => exact h
  | issue call service => exact h
  | write call db =>
    show Coherent (s.write call db)
    unfold write
    split
    · exact fun r hr => (h r hr).append [db] rfl
    · exact h
  | resolve call =>
    show Coherent (s.resolve call)
    unfold resolve
    split
    · exact h
    · exact h
  | reject call => exact h
  | pass ms => exact h

theorem returned_start {call : Nat} (hq : s.cached k = some quantity) :
    ⟨k, s.resolved, quantity⟩ ∈
      (s.start call (.getStockBalanceForBucket k.storeId k.productId k.stockBucket)).returned := by
  unfold start
  simp only [ReadRequest.cachedKey]
  split
  · rename_i quantity' cache heq
    have hq' : s.cached k = some quantity' := congrArg Prod.fst heq
    obtain rfl : quantity = quantity' := Option.some.inj (hq.symm.trans hq')
    exact List.mem_cons_self
  · rename_i cache heq
    have hnone : s.cached k = none := congrArg Prod.fst heq
    cases hq.symm.trans hnone

/-- If every read that could start now is right, then the cache is fresh. -/
theorem fresh_of_coherent (h : ∀ call request, Coherent (s.start call request)) : Fresh s := by
  intro k quantity hq
  have hr := h 0 (.getStockBalanceForBucket k.storeId k.productId k.stockBucket) _ (returned_start hq)
  have hversions := (start_versions (s := s) 0
    (.getStockBalanceForBucket k.storeId k.productId k.stockBucket)).1
  exact hr.append [] (hversions.symm.trans (List.append_nil _).symm)

theorem fresh_opened (db : Db) : Fresh (opened db) := fun k quantity hq => by
  simp [opened, cached, StockBalanceCache.readBalanceCache] at hq

/-- What holds along a careful run. -/
theorem careful_always {db : Db} {es : List Event}
    (h : Runs.Along BalanceServices.step Careful (opened db) es) :
    Runs.Always BalanceServices.step (fun s => Kept s ∧ Fresh s ∧ Coherent s) (opened db) es :=
  h.always ⟨kept_opened db, fresh_opened db, fun _ hr => by cases hr⟩
    fun _ e ⟨hk, hf, hc⟩ he => ⟨hk.step e, hf.step hk he, hc.step hk hf⟩

/-- **The reads of a run are coherent**, those it makes and one more that starts at any moment of it, exactly
if no step of the run puts an older quantity in the cache and no transfer resolves over one. -/
theorem reads_coherent_iff (db : Db) (es : List Event) :
    (∀ n call request, Coherent
      ((es.take n ++ [Event.start call request]).foldl BalanceServices.step (opened db))) ↔
    Runs.Along BalanceServices.step Careful (opened db) es := by
  simp only [List.foldl_append, List.foldl_cons, List.foldl_nil]
  constructor
  · intro h
    have hkept := Runs.always_of_step (kept_opened db) (fun s e hs => hs.step e) es
    have hfresh : Runs.Always BalanceServices.step Fresh (opened db) es :=
      Runs.always_iff_take.2 fun n => fresh_of_coherent (h n)
    exact hfresh.along hkept fun s e hk _ hf => careful_of_fresh hk hf
  · intro h n call request
    obtain ⟨hk, hf, hc⟩ := Runs.always_iff_take.1 (careful_always h) n
    exact hc.step hk hf

instance (s : BalanceServices) (i : Nat) (k : StockKey) (quantity : Int32) :
    Decidable (s.Since i k quantity) :=
  inferInstanceAs (Decidable (∃ db ∈ s.versions.drop i, db.readBalance k = quantity))

instance (s : BalanceServices) : Decidable (Coherent s) :=
  inferInstanceAs (Decidable (∀ r ∈ s.returned, s.Since r.since r.stock r.quantity))

def readOnHand (call : Nat) : Event := .start call (.getStockBalance "STORE-A" "PROD-1")

/-- The ten on hand are in the cache when four of them are dispatched. -/
def dispatchedAfterRead : List Event :=
  [readOnHand 0, .answer 0, .finish 0, .issue 0 .dispatchTransfer, .write 0 Sample.underWay, .resolve 0,
    readOnHand 0]

/-- The answer of the database is older than the sale, and comes after it. -/
def soldDuringRead : List Event :=
  [readOnHand 0, .answer 0, .issue 0 .sellStock, .write 0 Sample.sold, .resolve 0, .finish 0,
    readOnHand 0]

theorem stale_reads :
    ¬Coherent (dispatchedAfterRead.foldl BalanceServices.step (opened Sample.drafted)) ∧
      ¬Coherent (soldDuringRead.foldl BalanceServices.step (opened Sample.stocked)) := by
  decide +kernel

end BalanceServices

end Desktop
