import Mathlib.Data.List.Sort

/-!
# Sorting a part of a list

A stable sort of a list and of one of its parts agree on the part (`filter_insertionSort`). So the
last of the greatest elements becomes the last (`getLast?_insertionSort`), and the greatest one where
there is only one (`drop_insertionSort`).
-/

namespace StableSort

variable {α : Type} {r : α → α → Prop} [DecidableRel r] [IsTrans α r]

theorem filter_orderedInsert (p : α → Bool) (a : α) : ∀ {l : List α}, l.Pairwise r →
    (l.orderedInsert r a).filter p =
      if p a then (l.filter p).orderedInsert r a else l.filter p
  | [], _ => by cases h : p a <;> simp [h]
  | b :: l, hl => by
    have ih := filter_orderedInsert p a (List.pairwise_cons.1 hl).2
    by_cases hab : r a b
    · rw [List.orderedInsert_cons_of_le r _ hab, List.filter_cons]
      split
      · -- all of the part comes after `a`, too
        have hall : ∀ c ∈ (b :: l).filter p, r a c := by
          intro c hc
          rcases List.mem_cons.1 (List.mem_of_mem_filter hc) with rfl | hc
          · exact hab
          · exact IsTrans.trans _ _ _ hab ((List.pairwise_cons.1 hl).1 c hc)
        cases hf : (b :: l).filter p with
        | nil => rfl
        | cons c cs => rw [List.orderedInsert_cons_of_le r _ (hall c (hf ▸ List.mem_cons_self))]
      · rfl
    · rw [List.orderedInsert_of_not_le r _ hab, List.filter_cons, List.filter_cons, ih]
      cases hb : p b <;> cases ha : p a <;> simp [hab]

/-- **Sorting commutes with filtering.** -/
theorem filter_insertionSort [Std.Total r] (p : α → Bool) (l : List α) :
    (l.insertionSort r).filter p = (l.filter p).insertionSort r := by
  induction l with
  | nil => rfl
  | cons a l ih =>
    rw [List.insertionSort_cons, filter_orderedInsert p a (List.pairwise_insertionSort r l), ih]
    cases h : p a <;> simp [h]

/-- The last element of a list is also that of a part which it is in. -/
theorem getLast?_filter_of_last {p : α → Bool} {l : List α} {a : α} (h : l.getLast? = some a)
    (ha : p a = true) : (l.filter p).getLast? = some a := by
  obtain ⟨l', rfl⟩ := List.getLast?_eq_some_iff.1 h
  simp [List.filter_append, ha]

/-- The element that is less than no other one is the last one. -/
theorem drop_insertionSort [Std.Total r] {l : List α} {a : α} {n : Nat} (hlen : l.length = n + 1)
    (ha : a ∈ l) (hgreatest : ∀ b ∈ l, r a b → b = a) : (l.insertionSort r).drop n = [a] := by
  have hsorted := List.pairwise_insertionSort r l
  have hlen' : ((l.insertionSort r).drop n).length = 1 := by
    rw [List.length_drop, List.length_insertionSort]
    omega
  obtain ⟨b, hb⟩ := List.length_eq_one_iff.1 hlen'
  rw [← List.take_append_drop n (l.insertionSort r), hb] at hsorted
  have hmem : a ∈ (l.insertionSort r).take n ++ [b] := by
    rw [← hb, List.take_append_drop]
    exact (List.mem_insertionSort r).2 ha
  have hbl : b ∈ l := by
    have hdrop : b ∈ (l.insertionSort r).drop n := hb ▸ List.mem_singleton_self b
    exact (List.mem_insertionSort r).1 (List.mem_of_mem_drop hdrop)
  rcases List.mem_append.1 hmem with h | h
  · have hab := (List.pairwise_append.1 hsorted).2.2 a h b (List.mem_singleton_self b)
    rw [hb, hgreatest b hbl hab]
  · rw [hb, List.mem_singleton.1 h]

omit [IsTrans α r] in
theorem orderedInsert_last {a : α} : ∀ {l : List α}, (∀ x ∈ l, ¬ r a x) → l.orderedInsert r a = l ++ [a]
  | [], _ => rfl
  | x :: l, h => by
    rw [List.orderedInsert_of_not_le r _ (h x List.mem_cons_self),
      orderedInsert_last fun y hy => h y (List.mem_cons_of_mem _ hy)]
    rfl

omit [IsTrans α r] in
/-- **Sorting the wrong way round.** -/
theorem insertionSort_reverse : ∀ {l : List α}, (l.Pairwise fun a b => ¬ r a b) →
    l.insertionSort r = l.reverse
  | [], _ => rfl
  | a :: l, h => by
    obtain ⟨ha, hl⟩ := List.pairwise_cons.1 h
    rw [List.insertionSort_cons, insertionSort_reverse hl, List.reverse_cons]
    exact orderedInsert_last fun x hx => ha x (List.mem_reverse.1 hx)

section
variable {β : Type} [LinearOrder β] {f : α → β} {l₁ l₂ : List α} {a : α}

/-- **The last element** of a sorted list: none is greater, and none of those after it is equal. -/
theorem getLast?_insertionSort (h₁ : ∀ x ∈ l₁, f x ≤ f a) (h₂ : ∀ x ∈ l₂, f x < f a) :
    ((l₁ ++ a :: l₂).insertionSort fun x y => f x ≤ f y).getLast? = some a := by
  let r : α → α → Prop := fun x y => f x ≤ f y
  have : IsTrans α r := ⟨fun _ _ _ => le_trans⟩
  have : Std.Total r := ⟨fun x y => le_total (f x) (f y)⟩
  have hperm := List.perm_insertionSort r (l₁ ++ a :: l₂)
  have hsorted := List.pairwise_insertionSort r (l₁ ++ a :: l₂)
  have ha : a ∈ (l₁ ++ a :: l₂).insertionSort r := hperm.mem_iff.2 (by simp)
  have hne := List.ne_nil_of_mem ha
  obtain ⟨b, hb⟩ := Option.isSome_iff_exists.1 (List.getLast?_isSome.2 hne)
  -- the last element is as great as `a`, so it is the last one of those that are
  obtain ⟨l, hl⟩ := List.getLast?_eq_some_iff.1 hb
  have hab : f a ≤ f b := by
    rw [hl] at ha hsorted
    rcases List.mem_append.1 ha with h | h
    · exact (List.pairwise_append.1 hsorted).2.2 a h b (by simp)
    · rw [List.mem_singleton.1 h]
  have hba : f b ≤ f a := by
    have hmem : b ∈ l₁ ++ a :: l₂ := hperm.mem_iff.1 (hl ▸ by simp)
    rcases List.mem_append.1 hmem with h | h
    · exact h₁ b h
    · rcases List.mem_cons.1 h with rfl | h
      · exact le_rfl
      · exact (h₂ b h).le
  have heq : decide (f b = f a) = true := decide_eq_true (le_antisymm hba hab)
  have hlast := getLast?_filter_of_last (p := fun x => decide (f x = f a)) hb heq
  have hnone : l₂.filter (fun x => decide (f x = f a)) = [] :=
    List.filter_eq_nil_iff.2 fun x hx h => (h₂ x hx).ne (of_decide_eq_true h)
  have hconst : ((l₁ ++ a :: l₂).filter fun x => decide (f x = f a)).Pairwise r :=
    List.pairwise_of_forall_mem_list fun x hx y hy =>
      ((of_decide_eq_true (List.mem_filter.1 hx).2).trans
        (of_decide_eq_true (List.mem_filter.1 hy).2).symm).le
  rw [filter_insertionSort, hconst.insertionSort_eq, List.filter_append, List.filter_cons,
    hnone] at hlast
  simpa [r, hb] using hlast.symm

end

end StableSort
