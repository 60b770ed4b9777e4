import Mathlib.Algebra.BigOperators.Group.Finset.Basic
import Mathlib.Algebra.BigOperators.Group.Finset.Piecewise
import Mathlib.Data.List.Nodup
import Mathlib.Tactic.Abel

/-!
# Tables with a primary key

`Table ρ` holds rows of type `ρ` in insertion order; two rows never have the same key
(`Table.nodup`), so a table that breaks its primary key cannot be built. The operations are
`get?` (select by key), `put` (insert, or replace the row with the same key) and `erase`;
`total f` adds up `f` over the rows. What the projections of an event log need:

* `get?_put`, `get?_erase`: an operation changes the row of one key.
* `total_put`, `total_erase`: and the total by that row's share.
* `total_congr`: two tables with the same share at every key have the same total.
-/

namespace Relational

universe u v

/-- The primary key of a row. -/
class Keyed (ρ : Type u) (κ : outParam (Type v)) where
  key : ρ → κ

export Keyed (key)

variable {ρ : Type u} {κ : Type v} [Keyed ρ κ]

/-- Rows with distinct keys. -/
structure Table (ρ : Type u) {κ : Type v} [Keyed ρ κ] where
  rows : List ρ
  nodup : (rows.map key).Nodup

namespace Table

/-- The table without rows. -/
def empty : Table ρ := ⟨[], by simp⟩

instance : EmptyCollection (Table ρ) := ⟨empty⟩

@[simp] theorem rows_empty : (∅ : Table ρ).rows = [] := rfl

theorem ext {t t' : Table ρ} (h : t.rows = t'.rows) : t = t' := by
  cases t; cases t'; cases h; rfl

variable [DecidableEq κ]

/-! ## Operations -/

/-- The row with key `k`. -/
def get? (t : Table ρ) (k : κ) : Option ρ := t.rows.find? fun x => key x = k

/-- `xs` with `r` in the place of the row with its key, or at the end. -/
def putRows (r : ρ) : List ρ → List ρ
  | [] => [r]
  | x :: xs => if key x = key r then r :: xs else x :: putRows r xs

theorem mem_keys_putRows {r : ρ} {k : κ} : ∀ {l : List ρ},
    k ∈ (putRows r l).map key ↔ k = key r ∨ k ∈ l.map key
  | [] => by simp [putRows]
  | x :: xs => by
    unfold putRows
    split
    · rename_i h
      simp [h]
    · simp only [List.map_cons, List.mem_cons, mem_keys_putRows (l := xs)]
      exact or_left_comm

theorem nodup_putRows {r : ρ} : ∀ {xs : List ρ}, (xs.map key).Nodup →
    ((putRows r xs).map key).Nodup
  | [], _ => by simp [putRows]
  | x :: xs, h => by
    obtain ⟨hx, hxs⟩ := List.nodup_cons.1 h
    unfold putRows
    split
    · rename_i he
      simpa [← he] using h
    · rename_i hne
      refine List.nodup_cons.2 ⟨fun hm => ?_, nodup_putRows hxs⟩
      rcases mem_keys_putRows.1 hm with h1 | h1
      · exact hne h1
      · exact hx h1

/-- Insert `r`, or replace the row with its key. -/
def put (t : Table ρ) (r : ρ) : Table ρ := ⟨putRows r t.rows, nodup_putRows t.nodup⟩

/-- Delete the row with key `k`. -/
def erase (t : Table ρ) (k : κ) : Table ρ :=
  ⟨t.rows.filter fun x => key x ≠ k, t.nodup.sublist (List.filter_sublist.map _)⟩

/-- Change the rows in place, without touching their keys. -/
def modify (t : Table ρ) (f : ρ → ρ) (hf : ∀ r, key (f r) = key r) : Table ρ where
  rows := t.rows.map f
  nodup := by
    rw [List.map_map, show key ∘ f = key from funext hf]
    exact t.nodup

/-- Keep the rows with `p`. -/
def filter (t : Table ρ) (p : ρ → Bool) : Table ρ :=
  ⟨t.rows.filter p, t.nodup.sublist (List.filter_sublist.map _)⟩

/-! ## Selecting a row -/

@[simp] theorem get?_empty (k : κ) : (∅ : Table ρ).get? k = none := rfl

theorem key_of_get? {t : Table ρ} {k : κ} {r : ρ} (h : t.get? k = some r) : key r = k := by
  simpa using List.find?_some h

theorem mem_of_get? {t : Table ρ} {k : κ} {r : ρ} (h : t.get? k = some r) : r ∈ t.rows :=
  List.mem_of_find?_eq_some h

theorem find?_of_mem {r : ρ} : ∀ {xs : List ρ}, (xs.map key).Nodup → r ∈ xs →
    xs.find? (fun x => decide (key x = key r)) = some r
  | x :: xs, hn, hm => by
    obtain ⟨hx, hxs⟩ := List.nodup_cons.1 hn
    rcases List.mem_cons.1 hm with rfl | hm
    · simp
    · have hne : key x ≠ key r := fun he => hx (he ▸ List.mem_map_of_mem hm)
      simp [hne, find?_of_mem hxs hm]

theorem get?_of_mem {t : Table ρ} {r : ρ} (h : r ∈ t.rows) : t.get? (key r) = some r :=
  find?_of_mem t.nodup h

theorem get?_eq_none {t : Table ρ} {k : κ} : t.get? k = none ↔ k ∉ t.rows.map key := by
  simp [get?, List.find?_eq_none]

theorem isSome_get?_iff {t : Table ρ} {k : κ} : (t.get? k).isSome ↔ k ∈ t.rows.map key := by
  rw [Option.isSome_iff_ne_none, ne_eq, get?_eq_none, not_not]

theorem find?_putRows {r : ρ} {k : κ} : ∀ {l : List ρ},
    (putRows r l).find? (fun x => decide (key x = k)) =
      if key r = k then some r else l.find? fun x => decide (key x = k)
  | [] => by by_cases h : key r = k <;> simp [putRows, h]
  | x :: xs => by
    by_cases hx : key x = key r
    · by_cases h : key r = k <;> simp [putRows, hx, h]
    · by_cases h : key r = k
      · subst h
        simp [putRows, hx, find?_putRows (l := xs)]
      · rw [putRows, if_neg hx, List.find?_cons, List.find?_cons, find?_putRows (l := xs), if_neg h]
        split <;> simp [h]

theorem get?_put (t : Table ρ) (r : ρ) (k : κ) :
    (t.put r).get? k = if key r = k then some r else t.get? k := find?_putRows

@[simp] theorem get?_put_self (t : Table ρ) (r : ρ) : (t.put r).get? (key r) = some r := by
  simp [get?_put]

theorem get?_put_of_ne (t : Table ρ) {r : ρ} {k : κ} (h : key r ≠ k) :
    (t.put r).get? k = t.get? k := by simp [get?_put, h]

theorem get?_erase (t : Table ρ) (k k' : κ) :
    (t.erase k).get? k' = if k = k' then none else t.get? k' := by
  unfold get? erase
  rw [List.find?_filter]
  by_cases h : k = k'
  · subst h
    simp
  · rw [if_neg h]
    congr 1
    funext x
    by_cases hx : key x = k'
    · simp [hx, Ne.symm h]
    · simp [hx]

theorem get?_modify (t : Table ρ) {f : ρ → ρ} (hf : ∀ r, key (f r) = key r) (k : κ) :
    (t.modify f hf).get? k = (t.get? k).map f := by
  unfold get? modify
  rw [List.find?_map]
  congr 2
  funext x
  simp [hf]

omit [DecidableEq κ] in
theorem mem_filter {t : Table ρ} {p : ρ → Bool} {r : ρ} :
    r ∈ (t.filter p).rows ↔ r ∈ t.rows ∧ p r := List.mem_filter

theorem get?_filter (t : Table ρ) (p : ρ → Bool) (k : κ) :
    (t.filter p).get? k = (t.get? k).filter p := by
  cases h : t.get? k with
  | none =>
    refine get?_eq_none.2 fun hm => ?_
    obtain ⟨r, hr, he⟩ := List.mem_map.1 hm
    exact get?_eq_none.1 h (List.mem_map.2 ⟨r, (mem_filter.1 hr).1, he⟩)
  | some r =>
    have hk := key_of_get? h
    by_cases hp : p r
    · rw [Option.filter_some, if_pos hp, ← hk]
      exact get?_of_mem (mem_filter.2 ⟨mem_of_get? h, hp⟩)
    · rw [Option.filter_some, if_neg hp]
      refine get?_eq_none.2 fun hm => ?_
      obtain ⟨r', hr', he⟩ := List.mem_map.1 hm
      have hr'' := get?_of_mem (mem_filter.1 hr').1
      rw [he, h] at hr''
      cases hr''
      exact hp (mem_filter.1 hr').2

theorem mem_rows_iff {t : Table ρ} {r : ρ} : r ∈ t.rows ↔ t.get? (key r) = some r :=
  ⟨get?_of_mem, mem_of_get?⟩

theorem mem_put {t : Table ρ} {r x : ρ} :
    x ∈ (t.put r).rows ↔ x = r ∨ x ∈ t.rows ∧ key x ≠ key r := by
  rw [mem_rows_iff, get?_put, mem_rows_iff]
  by_cases h : key r = key x
  · rw [if_pos h, Option.some.injEq]
    exact ⟨fun he => .inl he.symm, fun hx => hx.elim Eq.symm fun hx => absurd h.symm hx.2⟩
  · rw [if_neg h]
    exact ⟨fun hx => .inr ⟨hx, Ne.symm h⟩, fun hx => hx.elim (fun he => absurd (he ▸ rfl) h) And.left⟩

theorem putRows_eq (r : ρ) : ∀ xs : List ρ, ∃ l₁ l₂, putRows r xs = l₁ ++ r :: l₂ ∧
    (xs = l₁ ∧ l₂ = [] ∧ key r ∉ xs.map key ∨ ∃ x, key x = key r ∧ xs = l₁ ++ x :: l₂)
  | [] => ⟨[], [], rfl, .inl (by simp)⟩
  | x :: xs => by
    unfold putRows
    split
    · rename_i h
      exact ⟨[], xs, rfl, .inr ⟨x, h, rfl⟩⟩
    · rename_i h
      obtain ⟨l₁, l₂, heq, hxs⟩ := putRows_eq r xs
      refine ⟨x :: l₁, l₂, by simp [heq], ?_⟩
      rcases hxs with ⟨rfl, rfl, hr⟩ | ⟨y, hy, rfl⟩
      · exact .inl ⟨rfl, rfl, by simpa [Ne.symm h] using hr⟩
      · exact .inr ⟨y, hy, rfl⟩

/-- Where the row is put: in the place of the one with its key, or at the end. -/
theorem rows_put (t : Table ρ) (r : ρ) : ∃ l₁ l₂, (t.put r).rows = l₁ ++ r :: l₂ ∧
    (t.get? (key r) = none ∧ t.rows = l₁ ∧ l₂ = [] ∨
      ∃ x, t.get? (key r) = some x ∧ t.rows = l₁ ++ x :: l₂) := by
  obtain ⟨l₁, l₂, heq, ⟨hxs, hl, hr⟩ | ⟨x, hx, hxs⟩⟩ := putRows_eq r t.rows
  · exact ⟨l₁, l₂, heq, .inl ⟨get?_eq_none.2 hr, hxs, hl⟩⟩
  · have hmem : x ∈ t.rows := by simp [hxs]
    exact ⟨l₁, l₂, heq, .inr ⟨x, hx ▸ get?_of_mem hmem, hxs⟩⟩

/-- A new row is put at the end. -/
theorem rows_put_new {t : Table ρ} {r : ρ} (h : t.get? (key r) = none) : (t.put r).rows = t.rows ++ [r] := by
  obtain ⟨l₁, l₂, heq, ⟨-, hrows, hl⟩ | ⟨x, hx, -⟩⟩ := t.rows_put r
  · rw [heq, hrows, hl]
  · cases h.symm.trans hx

/-- Putting a row that is there changes nothing. -/
theorem put_of_get? {t : Table ρ} {r : ρ} (h : t.get? (key r) = some r) : t.put r = t := by
  obtain ⟨l₁, l₂, heq, ⟨hn, -, -⟩ | ⟨x, hx, hrows⟩⟩ := t.rows_put r
  · rw [hn] at h
    cases h
  · rw [hx] at h
    cases h
    exact ext (heq.trans hrows.symm)

theorem putRows_putRows {r r' : ρ} (h : key r = key r') : ∀ xs : List ρ,
    putRows r' (putRows r xs) = putRows r' xs
  | [] => by simp [putRows, h]
  | x :: xs => by
    by_cases hx : key x = key r
    · rw [putRows, if_pos hx, putRows, if_pos h, putRows, if_pos (hx.trans h)]
    · have hx' : ¬ key x = key r' := fun he => hx (he.trans h.symm)
      rw [putRows, if_neg hx, putRows, if_neg hx', putRows_putRows h xs, putRows, if_neg hx']

/-- The last row that is put under a key stays. -/
theorem put_put (t : Table ρ) {r r' : ρ} (h : key r = key r') : (t.put r).put r' = t.put r' :=
  ext (putRows_putRows h t.rows)

/-! ## Unique columns -/

variable {ι : Type*}

omit [DecidableEq κ] in
/-- No two rows agree on `f`. -/
def Unique (f : ρ → ι) (t : Table ρ) : Prop := ∀ a ∈ t.rows, ∀ b ∈ t.rows, f a = f b → a = b

theorem Unique.put {f : ρ → ι} {t : Table ρ} (h : t.Unique f) {r : ρ}
    (hr : ∀ x ∈ t.rows, f x = f r → key x = key r) : (t.put r).Unique f := by
  intro a ha b hb hab
  rcases mem_put.1 ha with har | ⟨hat, hka⟩ <;> rcases mem_put.1 hb with hbr | ⟨hbt, hkb⟩
  · exact har.trans hbr.symm
  · exact absurd (hr b hbt (har ▸ hab.symm)) hkb
  · exact absurd (hr a hat (hbr ▸ hab)) hka
  · exact h a hat b hbt hab

theorem Unique.erase {f : ρ → ι} {t : Table ρ} (h : t.Unique f) (k : κ) : (t.erase k).Unique f :=
  fun a ha b hb => h a (List.mem_of_mem_filter ha) b (List.mem_of_mem_filter hb)

/-! ## Totals -/

variable {M : Type} [AddCommGroup M]

/-- `f` added up over the rows. -/
def total (t : Table ρ) (f : ρ → M) : M := (t.rows.map f).sum

/-- What the row with key `k` adds to `total f`. -/
def share (t : Table ρ) (f : ρ → M) (k : κ) : M := ((t.get? k).map f).getD 0

omit [DecidableEq κ] in
@[simp] theorem total_empty (f : ρ → M) : (∅ : Table ρ).total f = 0 := rfl

theorem share_none {t : Table ρ} {f : ρ → M} {k : κ} (h : t.get? k = none) : t.share f k = 0 := by
  simp [share, h]

theorem share_some {t : Table ρ} {f : ρ → M} {k : κ} {r : ρ} (h : t.get? k = some r) :
    t.share f k = f r := by simp [share, h]

theorem sum_putRows {r : ρ} {f : ρ → M} : ∀ {xs : List ρ}, (xs.map key).Nodup →
    ((putRows r xs).map f).sum = (xs.map f).sum -
      ((xs.find? fun x => decide (key x = key r)).map f).getD 0 + f r
  | [], _ => by simp [putRows]
  | x :: xs, h => by
    by_cases hx : key x = key r
    · simp [putRows, hx]
      abel
    · simp only [putRows, hx, if_false, List.map_cons, List.sum_cons, List.find?_cons,
        decide_false, sum_putRows (List.nodup_cons.1 h).2]
      abel

theorem total_put (t : Table ρ) (r : ρ) (f : ρ → M) :
    (t.put r).total f = t.total f - t.share f (key r) + f r := sum_putRows t.nodup

/-- A new row adds its own share. -/
theorem total_put_new {t : Table ρ} {r : ρ} (f : ρ → M) (h : t.get? (key r) = none) :
    (t.put r).total f = t.total f + f r := by
  rw [total_put, share_none h, sub_zero]

theorem sum_eq_keys {f : ρ → M} : ∀ {xs : List ρ}, (xs.map key).Nodup →
    (xs.map f).sum = ((xs.map key).map fun k =>
      ((xs.find? fun x => decide (key x = k)).map f).getD 0).sum
  | [], _ => rfl
  | x :: xs, h => by
    obtain ⟨hx, hxs⟩ := List.nodup_cons.1 h
    simp only [List.map_cons, List.sum_cons, List.find?_cons, decide_true, Option.map_some,
      Option.getD_some]
    rw [sum_eq_keys hxs]
    congr 2
    refine List.map_congr_left fun k hk => ?_
    have hne : key x ≠ k := fun he => hx (he ▸ hk)
    simp [hne]

/-- The total is the sum of the shares over any list of keys that holds the table's keys. -/
theorem total_eq_sum (t : Table ρ) (f : ρ → M) {ks : List κ} (hn : ks.Nodup)
    (hs : ∀ k, t.share f k ≠ 0 → k ∈ ks) : t.total f = (ks.map (t.share f)).sum := by
  classical
  have h1 : t.total f = ((t.rows.map key).map (t.share f)).sum := sum_eq_keys t.nodup
  rw [h1, ← List.sum_toFinset _ t.nodup, ← List.sum_toFinset _ hn]
  have h2 : ∀ k ∈ (t.rows.map key).toFinset ∪ ks.toFinset, k ∉ ks.toFinset → t.share f k = 0 :=
    fun k _ hk => by
      by_contra hne
      exact hk (List.mem_toFinset.2 (hs k hne))
  have h3 : ∀ k ∈ (t.rows.map key).toFinset ∪ ks.toFinset, k ∉ (t.rows.map key).toFinset →
      t.share f k = 0 := fun k _ hk =>
    share_none (get?_eq_none.2 fun hm => hk (List.mem_toFinset.2 hm))
  rw [Finset.sum_subset Finset.subset_union_left h3, Finset.sum_subset Finset.subset_union_right h2]

/-- Tables, possibly of different rows, with equal shares have equal totals. -/
theorem total_congr {ρ' : Type u} [Keyed ρ' κ] {t : Table ρ} {t' : Table ρ'} {f : ρ → M}
    {f' : ρ' → M} (h : ∀ k, t.share f k = t'.share f' k) : t.total f = t'.total f' := by
  have hs : ∀ k, t.share f k ≠ 0 → k ∈ t.rows.map key := fun k hk => by
    by_contra hm
    exact hk (share_none (get?_eq_none.2 hm))
  rw [t.total_eq_sum f t.nodup hs, t'.total_eq_sum f' t.nodup fun k hk => hs k (h k ▸ hk)]
  exact congrArg List.sum (List.map_congr_left fun k _ => h k)

/-- What the rows with key `k` add up to. -/
theorem total_at (t : Table ρ) (f : ρ → M) (k : κ) :
    t.total (fun x => if key x = k then f x else 0) = t.share f k := by
  have hshare : ∀ k', t.share (fun x => if key x = k then f x else 0) k' =
      if k' = k then t.share f k else 0 := by
    intro k'
    unfold share
    cases hx : t.get? k' with
    | none =>
      split
      · rename_i h
        rw [← h, hx]
        rfl
      · rfl
    | some x =>
      have hk := key_of_get? hx
      rw [Option.map_some, Option.getD_some, hk]
      split
      · rename_i h
        rw [← h, hx]
        rfl
      · rfl
  rw [t.total_eq_sum _ (List.nodup_singleton k) fun k' hk' => ?_, List.map_singleton,
    List.sum_singleton, hshare, if_pos rfl]
  rw [hshare] at hk'
  by_contra hne
  exact hk' (if_neg fun h => hne (List.mem_singleton.2 h))

omit [DecidableEq κ] in
/-- The rows added up group by group. -/
theorem total_by {ι : Type*} [DecidableEq ι] (t : Table ρ) (f : ρ → M) (g : ρ → ι) {K : Finset ι}
    (h : ∀ x ∈ t.rows, g x ∈ K) :
    t.total f = ∑ k ∈ K, t.total fun x => if g x = k then f x else 0 := by
  unfold total
  revert h
  generalize t.rows = xs
  intro h
  induction xs with
  | nil => simp
  | cons x xs ih =>
    simp only [List.map_cons, List.sum_cons, Finset.sum_add_distrib, Finset.sum_ite_eq]
    rw [if_pos (h x List.mem_cons_self), ih fun y hy => h y (List.mem_cons_of_mem x hy)]

omit [DecidableEq κ] in
/-- One group of the rows whose group has `p`. -/
theorem total_group {ι : Type*} [DecidableEq ι] (t : Table ρ) (f : ρ → M) (g : ρ → ι) (p : ι → Prop)
    [DecidablePred p] (k : ι) :
    t.total (fun x => if g x = k then if p (g x) then f x else 0 else 0) =
      if p k then t.total (fun x => if g x = k then f x else 0) else 0 := by
  split
  · rename_i hk
    refine congrArg List.sum (List.map_congr_left fun x _ => ?_)
    split
    · rename_i hx
      rw [if_pos (hx ▸ hk)]
    · rfl
  · rename_i hk
    refine List.sum_eq_zero fun y hy => ?_
    obtain ⟨x, -, rfl⟩ := List.mem_map.1 hy
    split
    · rename_i hx
      rw [if_neg (hx ▸ hk)]
    · rfl

/-- **Rows by group**: where the row of each key has what the rows of its group add up to, the totals over
the keys and over the groups with `p` are the same. -/
theorem total_groups {ρ' : Type u} {κ' : Type v} [Keyed ρ' κ'] {t : Table ρ} {t' : Table ρ'}
    {f : ρ → M} {f' : ρ' → M} {g : ρ' → κ} (p : κ → Prop) [DecidablePred p]
    (h : ∀ k, p k → t.share f k = t'.total fun x => if g x = k then f' x else 0) :
    t.total (fun x => if p (key x) then f x else 0) =
      t'.total fun x => if p (g x) then f' x else 0 := by
  let K : Finset κ := (t.rows.map key).toFinset ∪ (t'.rows.map g).toFinset
  rw [total_by t _ key (K := K) fun x hx =>
      Finset.mem_union_left _ (List.mem_toFinset.2 (List.mem_map_of_mem hx)),
    total_by t' _ g (K := K) fun x hx =>
      Finset.mem_union_right _ (List.mem_toFinset.2 (List.mem_map_of_mem hx))]
  refine Finset.sum_congr rfl fun k _ => ?_
  rw [total_group, total_group, total_at]
  split
  · rename_i hk
    exact h k hk
  · rfl

theorem share_put (t : Table ρ) (r : ρ) (f : ρ → M) (k : κ) :
    (t.put r).share f k = if key r = k then f r else t.share f k := by
  unfold share
  rw [get?_put]
  split <;> rfl

theorem share_erase (t : Table ρ) (f : ρ → M) (k k' : κ) :
    (t.erase k).share f k' = if k = k' then 0 else t.share f k' := by
  unfold share
  rw [get?_erase]
  split <;> rfl

/-- Deleting a row takes its share away. -/
theorem total_erase (t : Table ρ) (k : κ) (f : ρ → M) :
    (t.erase k).total f = t.total f - t.share f k := by
  cases hr : t.get? k with
  | none =>
    rw [share_none hr, sub_zero]
    refine total_congr fun k' => ?_
    rw [share_erase]
    split
    · rename_i h
      rw [← h, share_none hr]
    · rfl
  | some r =>
    have hk := key_of_get? hr
    have h1 : t.total f = ((t.erase k).put r).total f := total_congr fun k' => by
      rw [share_put, share_erase, hk]
      split
      · rename_i h
        rw [← h, share_some hr]
      · rfl
    rw [h1, total_put, hk, share_erase, if_pos rfl, share_some hr, sub_zero, add_sub_cancel_right]

end Table

end Relational
