import InvenTory.Lib.Upserts

/-!
# Tallies and groups

Two maps that are built value by value. A tally adds an amount to what its key has (`Tally.add`), a group
appends a value to those of its key (`Groups.push`). What a key has in the end is the sum, or the list,
of the values with the key.
-/

namespace Relational

variable {α κ M : Type}

/-! ## Tallies -/

structure Amount (κ M : Type) where
  key : κ
  amount : M
  deriving DecidableEq, Repr

instance : Keyed (Amount κ M) κ := ⟨Amount.key⟩

abbrev Tally (κ M : Type) := Table (Amount κ M)

namespace Tally

variable [DecidableEq κ] [AddCommGroup M] {m m' : Tally κ M} {k k' : κ} {x : M} {f : α → κ} {g : α → M}

/-- What a key has. -/
def of (m : Tally κ M) (k : κ) : M := m.share Amount.amount k

/-- What all keys have. -/
def sum (m : Tally κ M) : M := m.total Amount.amount

def add (m : Tally κ M) (k : κ) (x : M) : Tally κ M := m.put ⟨k, m.of k + x⟩

def addAll (f : α → κ) (g : α → M) (as : List α) (m : Tally κ M) : Tally κ M :=
  as.foldl (fun m a => m.add (f a) (g a)) m

@[simp] theorem of_empty (k : κ) : (∅ : Tally κ M).of k = 0 := rfl

omit [DecidableEq κ] in
@[simp] theorem sum_empty : (∅ : Tally κ M).sum = 0 := rfl

theorem of_of_mem {r : Amount κ M} (h : r ∈ m.rows) : m.of r.key = r.amount :=
  Table.share_some (Table.get?_of_mem h)

theorem of_not_mem (h : k ∉ m.rows.map Amount.key) : m.of k = 0 :=
  Table.share_none (Table.get?_eq_none.2 h)

theorem get?_eq (m : Tally κ M) (k : κ) :
    m.get? k = if k ∈ m.rows.map Amount.key then some ⟨k, m.of k⟩ else none := by
  split
  · rename_i h
    obtain ⟨r, hr, rfl⟩ := List.mem_map.1 h
    rw [of_of_mem hr]
    exact Table.get?_of_mem hr
  · rename_i h
    exact Table.get?_eq_none.2 h

/-- A tally is known by its keys and what they have. -/
theorem get?_congr (hof : m.of k = m'.of k)
    (hkeys : k ∈ m.rows.map Amount.key ↔ k ∈ m'.rows.map Amount.key) : m.get? k = m'.get? k := by
  rw [get?_eq, get?_eq, hof]
  simp only [hkeys]

theorem of_put (m : Tally κ M) (r : Amount κ M) (k : κ) :
    Tally.of (m.put r) k = if r.key = k then r.amount else m.of k := Table.share_put m r _ k

theorem of_add (m : Tally κ M) (k : κ) (x : M) (k' : κ) :
    (m.add k x).of k' = m.of k' + if k = k' then x else 0 := by
  unfold add
  rw [of_put]
  by_cases h : k = k'
  · subst h
    rw [if_pos rfl, if_pos rfl]
  · rw [if_neg h, if_neg h, add_zero]

theorem sum_add (m : Tally κ M) (k : κ) (x : M) : (m.add k x).sum = m.sum + x := by
  unfold sum add
  rw [Table.total_put]
  show m.total Amount.amount - m.of k + (m.of k + x) = _
  abel

theorem mem_keys_add : k' ∈ (m.add k x).rows.map Amount.key ↔ k' = k ∨ k' ∈ m.rows.map Amount.key :=
  Table.mem_keys_putRows

/-- **What a key has in the end.** -/
theorem of_addAll (f : α → κ) (g : α → M) (as : List α) (m : Tally κ M) (k : κ) :
    (addAll f g as m).of k = m.of k + ((as.filter fun a => f a = k).map g).sum := by
  induction as generalizing m with
  | nil => simp [addAll]
  | cons a as ih =>
    have hstep : addAll f g (a :: as) m = addAll f g as (m.add (f a) (g a)) := rfl
    rw [hstep, ih, of_add, List.filter_cons]
    by_cases h : f a = k
    · simp [h, add_assoc]
    · simp [h]

theorem sum_addAll (f : α → κ) (g : α → M) (as : List α) (m : Tally κ M) :
    (addAll f g as m).sum = m.sum + (as.map g).sum := by
  induction as generalizing m with
  | nil => simp [addAll]
  | cons a as ih =>
    have hstep : addAll f g (a :: as) m = addAll f g as (m.add (f a) (g a)) := rfl
    rw [hstep, ih, sum_add, List.map_cons, List.sum_cons, add_assoc]

/-- Tallies with the same amounts have the same sum. -/
theorem sum_congr (h : ∀ k, m.of k = m'.of k) : m.sum = m'.sum := Table.total_congr h

/-- The sum, over any list of keys that holds those with an amount. -/
theorem sum_eq {ks : List κ} (hn : ks.Nodup) (h : ∀ k, m.of k ≠ 0 → k ∈ ks) :
    m.sum = (ks.map m.of).sum := Table.total_eq_sum m _ hn h

theorem mem_keys_addAll {as : List α} : k ∈ (addAll f g as m).rows.map Amount.key ↔
    k ∈ m.rows.map Amount.key ∨ ∃ a ∈ as, f a = k := by
  induction as generalizing m with
  | nil => simp [addAll]
  | cons a as ih =>
    have hstep : addAll f g (a :: as) m = addAll f g as (m.add (f a) (g a)) := rfl
    rw [hstep, ih, mem_keys_add, List.exists_mem_cons_iff, or_comm (a := k = f a), or_assoc,
      eq_comm (a := k)]

/-- **Summing by keys**, over a list that has them all. -/
theorem sum_by_keys {as : List α} {ks : List κ} (hn : ks.Nodup) (h : ∀ a ∈ as, f a ∈ ks) :
    (ks.map fun k => ((as.filter fun a => f a = k).map g).sum).sum = (as.map g).sum := by
  have hof : ∀ k, (addAll f g as ∅).of k = ((as.filter fun a => f a = k).map g).sum := fun k => by
    rw [of_addAll, of_empty, zero_add]
  have hsum := sum_addAll f g as ∅
  rw [sum_empty, zero_add] at hsum
  rw [← hsum, sum_eq hn fun k hk => ?_]
  · exact congrArg List.sum (List.map_congr_left fun k _ => (hof k).symm)
  · by_contra hno
    refine hk ((hof k).trans ?_)
    have hnil : as.filter (fun a => f a = k) = [] :=
      List.filter_eq_nil_iff.2 fun a ha hf => hno (of_decide_eq_true hf ▸ h a ha)
    rw [hnil]
    rfl

/-- **Copying** a tally onto one with fewer keys. -/
theorem of_putAll (h : ∀ k ∈ m.rows.map Amount.key, k ∈ m'.rows.map Amount.key) (k : κ) :
    Tally.of (m.putAll m'.rows) k = m'.of k := by
  by_cases hk : k ∈ m'.rows.map Amount.key
  · obtain ⟨r, hr, rfl⟩ := List.mem_map.1 hk
    rw [of_of_mem hr]
    exact Table.share_some (Table.get?_putAll_mem m'.nodup hr)
  · rw [of_not_mem hk]
    refine Table.share_none ((Table.get?_putAll hk).trans ?_)
    exact Table.get?_eq_none.2 fun hm => hk (h k hm)

end Tally

/-! ## Groups -/

structure Group (κ α : Type) where
  key : κ
  members : List α
  deriving DecidableEq, Repr

instance : Keyed (Group κ α) κ := ⟨Group.key⟩

abbrev Groups (κ α : Type) := Table (Group κ α)

namespace Groups

variable [DecidableEq κ] {t : Groups κ α} {f : α → κ} {as : List α} {k : κ}

/-- The values of a key. -/
def membersOf (t : Groups κ α) (k : κ) : List α := ((t.get? k).map Group.members).getD []

def push (t : Groups κ α) (k : κ) (a : α) : Groups κ α := t.put ⟨k, t.membersOf k ++ [a]⟩

def group (f : α → κ) (as : List α) : Groups κ α := as.foldl (fun t a => t.push (f a) a) ∅

theorem membersOf_push (t : Groups κ α) (k : κ) (a : α) (k' : κ) :
    (t.push k a).membersOf k' = t.membersOf k' ++ if k = k' then [a] else [] := by
  have hget : (t.push k a).get? k' =
      if k = k' then some ⟨k, t.membersOf k ++ [a]⟩ else t.get? k' := Table.get?_put ..
  unfold membersOf at hget ⊢
  rw [hget]
  by_cases h : k = k'
  · subst h
    rw [if_pos rfl, if_pos rfl, Option.map_some, Option.getD_some]
  · rw [if_neg h, if_neg h, List.append_nil]

theorem foldl_push (f : α → κ) (as : List α) (t : Groups κ α) (k : κ) :
    membersOf (as.foldl (fun t a => t.push (f a) a) t) k =
      t.membersOf k ++ as.filter fun a => f a = k := by
  induction as generalizing t with
  | nil => simp
  | cons a as ih =>
    rw [List.foldl_cons, ih, membersOf_push, List.filter_cons, List.append_assoc]
    by_cases h : f a = k <;> simp [h]

/-- **The values of a key** come in their order. -/
theorem membersOf_group (f : α → κ) (as : List α) (k : κ) :
    (group f as).membersOf k = as.filter fun a => f a = k := foldl_push f as ∅ k

theorem keys_foldl_push (f : α → κ) (as : List α) (t : Groups κ α) (k : κ) :
    k ∈ (as.foldl (fun t a => t.push (f a) a) t).rows.map Group.key ↔
      k ∈ t.rows.map Group.key ∨ ∃ a ∈ as, f a = k := by
  induction as generalizing t with
  | nil => simp
  | cons a as ih =>
    have hkeys : k ∈ (t.push (f a) a).rows.map Group.key ↔ k = f a ∨ k ∈ t.rows.map Group.key :=
      Table.mem_keys_putRows
    rw [List.foldl_cons, ih, hkeys, List.exists_mem_cons_iff, or_comm (a := k = f a), or_assoc,
      eq_comm (a := k)]

theorem mem_keys_group : k ∈ (group f as).rows.map Group.key ↔ ∃ a ∈ as, f a = k := by
  have h := keys_foldl_push f as ∅ k
  simpa [group] using h

theorem members_of_mem {g : Group κ α} (hg : g ∈ (group f as).rows) :
    g.members = as.filter fun a => f a = g.key := by
  have hget : (group f as).get? g.key = some g := Table.get?_of_mem hg
  rw [← membersOf_group, membersOf, hget]
  rfl

end Groups

end Relational
