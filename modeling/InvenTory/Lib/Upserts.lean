import InvenTory.Lib.Runs
import InvenTory.Lib.Table

/-!
# Upserts into a table with a unique column

`upsert f e` replaces a row or inserts it, unless another row has its value of the unique column `f`.
`upserts_iff` says when a list of rows can be upserted: each must find no row with its value, but
for those that are replaced before it (`Room`). Then the rows are in the table, and all others are as
they were (`get?_putAll_mem`, `get?_putAll`).
-/

namespace Relational.Table

variable {ρ κ ι ε : Type} [Keyed ρ κ] [DecidableEq κ] [DecidableEq ι] {f : ρ → ι} {e : ρ → ε}

/-- `INSERT .. ON CONFLICT(key) DO UPDATE SET` of all other columns. -/
def upsert (f : ρ → ι) (e : ρ → ε) (t : Table ρ) (r : ρ) : Except ε (Table ρ) :=
  if t.rows.any fun q => f q = f r ∧ key q ≠ key r then .error (e r) else .ok (t.put r)

def putAll (t : Table ρ) (rs : List ρ) : Table ρ := rs.foldl put t

/-- Where a row of `t` has the value of a row of `rs`, it is that row, or is replaced before. -/
def Room (f : ρ → ι) (t : Table ρ) (rs : List ρ) : Prop :=
  ∀ pre r post, rs = pre ++ r :: post → ∀ q ∈ t.rows, f q = f r →
    key q = key r ∨ key q ∈ pre.map key

theorem upsert_ok_iff {t t' : Table ρ} {r : ρ} : upsert f e t r = .ok t' ↔
    (∀ q ∈ t.rows, f q = f r → key q = key r) ∧ t' = t.put r := by
  unfold upsert
  split
  · rename_i h
    obtain ⟨q, hq, hc⟩ := List.any_eq_true.1 h
    simp only [decide_eq_true_eq] at hc
    exact ⟨(fun he => by cases he), fun ⟨hall, _⟩ => absurd (hall q hq hc.1) hc.2⟩
  · rename_i h
    refine ⟨fun he => ?_, fun ⟨_, he⟩ => he ▸ rfl⟩
    cases he
    refine ⟨fun q hq hf => ?_, rfl⟩
    by_contra hne
    exact h (List.any_eq_true.2 ⟨q, hq, by simpa using ⟨hf, hne⟩⟩)

omit [DecidableEq ι] in
/-- Room for `r :: rs` is room for `r`, and then for `rs`. -/
theorem room_cons {t : Table ρ} {r : ρ} {rs : List ρ} (hinj : ∀ b ∈ rs, f r = f b → r = b) :
    Room f t (r :: rs) ↔ (∀ q ∈ t.rows, f q = f r → key q = key r) ∧ Room f (t.put r) rs := by
  constructor
  · intro h
    refine ⟨fun q hq hf => (h [] r rs rfl q hq hf).resolve_right (by simp), ?_⟩
    intro pre r' post hrs q hq hf
    rcases mem_put.1 hq with rfl | ⟨hq, hne⟩
    · exact .inl (by rw [hinj r' (by rw [hrs]; simp) hf])
    · rcases h (r :: pre) r' post (by rw [hrs]; rfl) q hq hf with h1 | h1
      · exact .inl h1
      · rw [List.map_cons, List.mem_cons] at h1
        exact .inr (h1.resolve_left hne)
  · rintro ⟨hr, hrs⟩ pre r' post he q hq hf
    cases pre with
    | nil =>
      cases he
      exact .inl (hr q hq hf)
    | cons p pre =>
      cases he
      rw [List.map_cons, List.mem_cons]
      by_cases hk : key q = key r
      · exact .inr (.inl hk)
      · rcases hrs pre r' post rfl q (mem_put.2 (.inr ⟨hq, hk⟩)) hf with h1 | h1
        · exact .inl h1
        · exact .inr (.inr h1)

/-- **When a list of rows can be upserted.** No two of them have one value of `f`. -/
theorem upserts_iff : ∀ {rs : List ρ} {t t' : Table ρ}, (rs.Pairwise fun a b => f a ≠ f b) →
    (rs.foldlM (upsert f e) t = .ok t' ↔ Room f t rs ∧ t' = t.putAll rs)
  | [], t, t', _ => by
    have hroom : Room f t [] := fun pre r post h => by simp at h
    exact ⟨(fun h => by cases h; exact ⟨hroom, rfl⟩), fun h => h.2 ▸ rfl⟩
  | r :: rs, t, t', hp => by
    obtain ⟨hr, hrs⟩ := List.pairwise_cons.1 hp
    rw [List.foldlM_cons, room_cons fun b hb h => absurd h (hr b hb)]
    cases hu : upsert f e t r with
    | error err =>
      refine ⟨(fun h => by cases h), fun ⟨⟨hok, _⟩, _⟩ => ?_⟩
      rw [upsert_ok_iff.2 ⟨hok, rfl⟩] at hu
      cases hu
    | ok t1 =>
      obtain ⟨hok, rfl⟩ := upsert_ok_iff.1 hu
      exact (upserts_iff hrs).trans ⟨fun h => ⟨⟨hok, h.1⟩, h.2⟩, fun h => ⟨h.1.2, h.2⟩⟩

/-! ## A table of a database -/

/-- `set` replaces the table that `get` reads. -/
structure Field {σ : Type} (get : σ → Table ρ) (set : σ → Table ρ → σ) : Prop where
  get_set : ∀ d t, get (set d t) = t
  set_set : ∀ d t t', set (set d t) t' = set d t'
  set_get : ∀ d, set d (get d) = d

section
variable {σ : Type} {get : σ → Table ρ} {set : σ → Table ρ → σ} {up : σ → ρ → Except ε σ}

omit [DecidableEq κ] [DecidableEq ι] in
theorem Field.foldlM (hf : Field get set) {g : Table ρ → ρ → Except ε (Table ρ)}
    (hup : ∀ d r, up d r = (g (get d) r).map (set d)) : ∀ (rs : List ρ) (d : σ),
      rs.foldlM up d = (rs.foldlM g (get d)).map (set d)
  | [], d => congrArg Except.ok (hf.set_get d).symm
  | r :: rs, d => by
    rw [List.foldlM_cons, List.foldlM_cons, hup]
    cases g (get d) r with
    | error err => rfl
    | ok t =>
      show rs.foldlM up (set d t) = (rs.foldlM g t).map (set d)
      rw [hf.foldlM hup rs (set d t), hf.get_set, funext (hf.set_set d t)]

/-- Upserts into a table of a database. -/
theorem Field.upserts_iff (hf : Field get set)
    (hup : ∀ d r, up d r = ((get d).upsert f e r).map (set d)) {rs : List ρ} {d d' : σ}
    (hrs : (rs.map f).Nodup) :
    rs.foldlM up d = .ok d' ↔ (get d).Room f rs ∧ d' = set d ((get d).putAll rs) := by
  rw [hf.foldlM hup]
  cases h : rs.foldlM (upsert f e) (get d) with
  | error err =>
    refine ⟨(fun h => by cases h), fun ⟨hroom, _⟩ => ?_⟩
    rw [(Table.upserts_iff (List.pairwise_map.1 hrs)).2 ⟨hroom, rfl⟩] at h
    cases h
  | ok t =>
    obtain ⟨hroom, rfl⟩ := (Table.upserts_iff (List.pairwise_map.1 hrs)).1 h
    exact ⟨fun h => ⟨hroom, (Except.ok.inj h).symm⟩, fun h => congrArg _ h.2.symm⟩

end

/-! ## The rows afterwards -/

omit [DecidableEq ι] in
theorem get?_putAll : ∀ {rs : List ρ} {t : Table ρ} {k : κ}, k ∉ rs.map key →
    (t.putAll rs).get? k = t.get? k
  | [], _, _, _ => rfl
  | r :: rs, t, k, h => by
    rw [List.map_cons, List.mem_cons, not_or] at h
    show ((t.put r).putAll rs).get? k = _
    rw [get?_putAll h.2, get?_put_of_ne t (Ne.symm h.1)]

omit [DecidableEq ι] in
theorem mem_putAll {r : ρ} : ∀ {rs : List ρ} {t : Table ρ}, r ∈ (t.putAll rs).rows → r ∈ rs ∨ r ∈ t.rows
  | [], _, h => .inr h
  | x :: rs, t, h => by
    rcases mem_putAll (t := t.put x) h with h | h
    · exact .inl (List.mem_cons_of_mem _ h)
    · rcases mem_put.1 h with rfl | ⟨h, -⟩
      · exact .inl List.mem_cons_self
      · exact .inr h

omit [DecidableEq ι] in
theorem get?_putAll_mem : ∀ {rs : List ρ} {t : Table ρ} {r : ρ}, (rs.map key).Nodup → r ∈ rs →
    (t.putAll rs).get? (key r) = some r
  | x :: rs, t, r, hn, hr => by
    obtain ⟨hx, hrs⟩ := List.nodup_cons.1 hn
    show ((t.put x).putAll rs).get? (key r) = _
    rcases List.mem_cons.1 hr with rfl | hr
    · rw [get?_putAll hx, get?_put_self]
    · exact get?_putAll_mem hrs hr

omit [DecidableEq ι] in
theorem isSome_get?_putAll {rs : List ρ} {t : Table ρ} {k : κ} (hn : (rs.map key).Nodup) :
    ((t.putAll rs).get? k).isSome ↔ (t.get? k).isSome ∨ k ∈ rs.map key := by
  by_cases h : k ∈ rs.map key
  · obtain ⟨r, hr, rfl⟩ := List.mem_map.1 h
    rw [get?_putAll_mem hn hr]
    exact ⟨fun _ => .inr h, fun _ => rfl⟩
  · rw [get?_putAll h]
    exact ⟨.inl, fun hk => hk.resolve_right h⟩

/-! ## Rows that depend on what is there -/

section
variable {α : Type} {id : α → κ} {write : Option ρ → α → ρ}

/-- Write a row that is made of `a` and of the row with the key of `a`. -/
def merge (id : α → κ) (write : Option ρ → α → ρ) (t : Table ρ) (a : α) : Table ρ :=
  t.put (write (t.get? (id a)) a)

omit [DecidableEq ι] in
theorem get?_merge_self (hid : ∀ o a, key (write o a) = id a) (t : Table ρ) (a : α) :
    (t.merge id write a).get? (id a) = some (write (t.get? (id a)) a) := by
  have h := get?_put_self t (write (t.get? (id a)) a)
  rwa [hid] at h

omit [DecidableEq ι] in
theorem get?_merge_of_ne (hid : ∀ o a, key (write o a) = id a) (t : Table ρ) {a : α} {k : κ}
    (h : id a ≠ k) : (t.merge id write a).get? k = t.get? k :=
  get?_put_of_ne t (by rwa [hid])

omit [DecidableEq ι] in
theorem get?_mergeAll (hid : ∀ o a, key (write o a) = id a) : ∀ {as : List α} {t : Table ρ} {k : κ},
    k ∉ as.map id → (as.foldl (merge id write) t).get? k = t.get? k
  | [], _, _, _ => rfl
  | a :: as, t, k, h => by
    rw [List.map_cons, List.mem_cons, not_or] at h
    rw [List.foldl_cons, get?_mergeAll hid h.2, get?_merge_of_ne hid t (Ne.symm h.1)]

omit [DecidableEq ι] in
theorem get?_mergeAll_mem (hid : ∀ o a, key (write o a) = id a) : ∀ {as : List α} {t : Table ρ} {a : α},
    (as.map id).Nodup → a ∈ as →
      (as.foldl (merge id write) t).get? (id a) = some (write (t.get? (id a)) a)
  | x :: as, t, a, hn, ha => by
    obtain ⟨hx, has⟩ := List.nodup_cons.1 hn
    rw [List.foldl_cons]
    rcases List.mem_cons.1 ha with rfl | ha
    · rw [get?_mergeAll hid hx, get?_merge_self hid]
    · have hne : id x ≠ id a := fun h => hx (h ▸ List.mem_map_of_mem ha)
      rw [get?_mergeAll_mem hid has ha, get?_merge_of_ne hid t hne]

omit [DecidableEq ι] in
theorem isSome_get?_mergeAll (hid : ∀ o a, key (write o a) = id a) : ∀ {as : List α} {t : Table ρ}
    {k : κ}, ((as.foldl (merge id write) t).get? k).isSome ↔ (t.get? k).isSome ∨ k ∈ as.map id
  | [], _, _ => by simp
  | a :: as, t, k => by
    rw [List.foldl_cons, isSome_get?_mergeAll hid, List.map_cons, List.mem_cons]
    by_cases h : id a = k
    · subst h
      simp [get?_merge_self hid]
    · rw [get?_merge_of_ne hid t h]
      simp [Ne.symm h]

omit [DecidableEq ι] in
/-- A condition on each row and the row that is there, if no key comes twice. -/
theorem along_merge (hid : ∀ o a, key (write o a) = id a) {G : Option ρ → α → Prop} : ∀ {as : List α}
    {t : Table ρ}, (as.map id).Nodup →
      (Runs.Along (merge id write) (fun t a => G (t.get? (id a)) a) t as ↔
        ∀ a ∈ as, G (t.get? (id a)) a)
  | [], t, _ => by simp [Runs.Along]
  | x :: as, t, hn => by
    obtain ⟨hx, has⟩ := List.nodup_cons.1 hn
    rw [Runs.Along, along_merge hid has, List.forall_mem_cons]
    refine and_congr_right' (forall₂_congr fun a ha => ?_)
    have hne : id x ≠ id a := fun h => hx (h ▸ List.mem_map_of_mem ha)
    rw [get?_merge_of_ne hid t hne]

end

/-! ## Upserts with an exception

Some rows are not upserted: the row that is there is kept, but for a few of its columns. -/

/-- When the row that is there is kept (`keeps`), and as what; and the row that an upsert leaves. -/
structure Rule (ρ ι : Type) {κ : Type} [Keyed ρ κ] where
  column : ρ → ι
  keeps : Option ρ → ρ → Bool
  kept : ρ → ρ → ρ
  merged : ρ → ρ → ρ
  keeps_none : ∀ r, keeps none r = false
  key_kept : ∀ old r, key (kept old r) = key r
  key_merged : ∀ old r, key (merged old r) = key r
  column_merged : ∀ old r, column (merged old r) = column r

namespace Rule

variable (u : Rule ρ ι)

/-- The row that `r` leaves. -/
def write (local? : Option ρ) (r : ρ) : ρ :=
  match local? with
  | some old => if u.keeps (some old) r then u.kept old r else u.merged old r
  | none => r

omit [DecidableEq κ] [DecidableEq ι] in
theorem key_write (local? : Option ρ) (r : ρ) : key (u.write local? r) = key r := by
  unfold write
  split
  · split
    · exact u.key_kept ..
    · exact u.key_merged ..
  · rfl

/-- The row that an upsert of `r` writes. -/
def upserted (local? : Option ρ) (r : ρ) : ρ :=
  match local? with
  | some old => u.merged old r
  | none => r

omit [DecidableEq κ] [DecidableEq ι] in
theorem column_upserted (local? : Option ρ) (r : ρ) : u.column (u.upserted local? r) = u.column r := by
  cases local? with
  | none => rfl
  | some old => exact u.column_merged old r

omit [DecidableEq κ] [DecidableEq ι] in
theorem write_of_keeps {local? : Option ρ} {r : ρ} (h : u.keeps local? r = false) :
    u.write local? r = u.upserted local? r := by
  cases local? with
  | none => rfl
  | some old => simp [write, upserted, h]

/-- No other row has the value of the column, or it is not written. -/
def Free (t : Table ρ) (r : ρ) : Prop :=
  u.keeps (t.get? (key r)) r = true ∨ ∀ q ∈ t.rows, u.column q = u.column r → key q = key r

variable {u}

/-- **Statements that follow a rule**: a row is written exactly if it is free. -/
theorem steps {σ : Type} (get : σ → Table ρ) (set : σ → Table ρ → σ) (e : ρ → ε)
    {status : σ → ρ → σ} {up : σ → ρ → Except ε σ}
    (hstatus : ∀ d r old, (get d).get? (key r) = some old →
      status d r = set d ((get d).put (u.kept old r)))
    (hup : ∀ d r, up d r =
      ((get d).upsert u.column e (u.upserted ((get d).get? (key r)) r)).map (set d)) :
    Runs.Steps (fun d r => if u.keeps ((get d).get? (key r)) r then .ok (status d r) else up d r)
      (fun d r => set d ((get d).merge key u.write r)) fun d r => u.Free (get d) r := by
  intro d r d'
  dsimp only [Free]
  cases hk : u.keeps ((get d).get? (key r)) r with
  | true =>
    cases h : (get d).get? (key r) with
    | none => simp [h, u.keeps_none] at hk
    | some old =>
      rw [h] at hk
      simp [hstatus d r old h, merge, write, h, hk, eq_comm]
  | false =>
    have hcol := u.column_upserted ((get d).get? (key r)) r
    have hkey : key (u.upserted ((get d).get? (key r)) r) = key r := by
      rw [← u.write_of_keeps hk, key_write]
    have hmerge : (get d).merge key u.write r =
        (get d).put (u.upserted ((get d).get? (key r)) r) := by
      rw [merge, u.write_of_keeps hk]
    rw [if_neg Bool.false_ne_true, hup, hmerge]
    cases hu : (get d).upsert u.column e (u.upserted ((get d).get? (key r)) r) with
    | error err =>
      refine ⟨(fun h => by cases h), fun ⟨hfree, _⟩ => ?_⟩
      rw [upsert_ok_iff.2 ⟨?_, rfl⟩] at hu
      · cases hu
      · rw [hcol, hkey]
        exact hfree.resolve_left Bool.false_ne_true
    | ok t =>
      obtain ⟨hfree, rfl⟩ := upsert_ok_iff.1 hu
      rw [hcol, hkey] at hfree
      exact ⟨fun h => ⟨.inr hfree, (Except.ok.inj h).symm⟩, fun h => congrArg _ h.2.symm⟩

omit [DecidableEq ι] in
/-- Rows with new keys and new values are all free. -/
theorem along_free : ∀ {rs : List ρ} {t : Table ρ}, (rs.map key).Nodup → (rs.map u.column).Nodup →
    (∀ q ∈ t.rows, key q ∉ rs.map key ∧ u.column q ∉ rs.map u.column) →
      Runs.Along (merge key u.write) u.Free t rs
  | [], _, _, _, _ => trivial
  | r :: rs, t, hkeys, hcols, hnew => by
    obtain ⟨hkey, hkeys⟩ := List.nodup_cons.1 hkeys
    obtain ⟨hcol, hcols⟩ := List.nodup_cons.1 hcols
    have hnone : t.get? (key r) = none := by
      rw [get?_eq_none, List.mem_map]
      rintro ⟨q, hq, hqr⟩
      exact (hnew q hq).1 (by simp [hqr])
    have hput : t.merge key u.write r = t.put r := by
      rw [merge, hnone]
      rfl
    refine ⟨.inr fun q hq hc => absurd (by simp [hc]) (hnew q hq).2, ?_⟩
    rw [hput]
    refine along_free hkeys hcols fun q hq => ?_
    rcases mem_put.1 hq with rfl | ⟨hq, -⟩
    · exact ⟨hkey, hcol⟩
    · obtain ⟨h1, h2⟩ := hnew q hq
      simp only [List.map_cons, List.mem_cons, not_or] at h1 h2
      exact ⟨h1.2, h2.2⟩

end Rule

end Relational.Table
