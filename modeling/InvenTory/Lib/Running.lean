import Mathlib.Algebra.BigOperators.Group.List.Basic
import Mathlib.Data.List.Sort
import Mathlib.Tactic.Abel

/-!
# Running totals

Movements have a key, a time and an amount. `totals` goes through the visible ones in their order, and
books those hidden ones first that have the same key and are earlier. The total of a visible movement
is then that of all movements of its key up to its time (`totals_upTo`), if the visible movements of a
key come one after the other.
-/

namespace Running

variable {α β κ M : Type} [DecidableEq κ] [AddCommGroup M]

structure Move (κ M : Type) where
  key : κ
  time : Int
  amount : M

/-- Same key, and earlier. -/
def Move.Before (x m : Move κ M) : Prop := x.key = m.key ∧ x.time < m.time

/-- Same key, and not later. -/
def Move.UpTo (x m : Move κ M) : Prop := x.key = m.key ∧ x.time ≤ m.time

instance (x m : Move κ M) : Decidable (x.Before m) := by
  unfold Move.Before
  infer_instance

instance (x m : Move κ M) : Decidable (x.UpTo m) := by
  unfold Move.UpTo
  infer_instance

/-- The total of each key, after one more movement. -/
def book (running : κ → M) (m : Move κ M) : κ → M :=
  Function.update running m.key (running m.key + m.amount)

/-- The amounts of the movements with `p`. -/
def sumIf (p : Move κ M → Prop) [DecidablePred p] (xs : List (Move κ M)) : M :=
  (xs.map fun x => if p x then x.amount else 0).sum

variable (f : α → Move κ M) (g : β → Move κ M)

def totals : (κ → M) → List β → List α → List (α × M)
  | _, _, [] => []
  | running, hidden, a :: rest =>
    let running := hidden.foldl (fun running h => if (g h).Before (f a) then book running (g h)
      else running) running
    let hidden := hidden.filter fun h => ¬ (g h).Before (f a)
    let running := book running (f a)
    (a, running (f a).key) :: totals running hidden rest

variable {f g}

section
variable {p q : Move κ M → Prop} [DecidablePred p] [DecidablePred q]

omit [DecidableEq κ] in
theorem sumIf_cons (x : Move κ M) (xs : List (Move κ M)) :
    sumIf p (x :: xs) = (if p x then x.amount else 0) + sumIf p xs := by
  unfold sumIf
  rw [List.map_cons, List.sum_cons]

omit [DecidableEq κ] in
theorem sumIf_append (xs ys : List (Move κ M)) : sumIf p (xs ++ ys) = sumIf p xs + sumIf p ys := by
  unfold sumIf
  rw [List.map_append, List.sum_append]

omit [DecidableEq κ] in
theorem sumIf_congr {xs : List (Move κ M)} (h : ∀ x ∈ xs, p x ↔ q x) : sumIf p xs = sumIf q xs := by
  unfold sumIf
  refine congrArg List.sum (List.map_congr_left fun x hx => ?_)
  simp only [h x hx]

omit [DecidableEq κ] in
theorem sumIf_eq_zero {xs : List (Move κ M)} (h : ∀ x ∈ xs, ¬ p x) : sumIf p xs = 0 := by
  induction xs with
  | nil => rfl
  | cons x xs ih =>
    rw [sumIf_cons, if_neg (h x List.mem_cons_self), zero_add]
    exact ih fun y hy => h y (List.mem_cons_of_mem _ hy)

omit [DecidableEq κ] in
theorem sumIf_sorted (h : α → Move κ M) (le : α → α → Prop) [DecidableRel le] (xs : List α) :
    sumIf p ((xs.insertionSort le).map h) = (xs.map fun x => if p (h x) then (h x).amount else 0).sum := by
  unfold sumIf
  rw [List.map_map]
  exact ((List.perm_insertionSort le xs).map _).sum_eq

end

theorem sum_filter (p : α → Bool) (φ : α → M) (xs : List α) :
    ((xs.filter p).map φ).sum = (xs.map fun x => if p x then φ x else 0).sum := by
  have h := List.sum_map_ite (fun x => p x = true) φ (fun _ => 0) xs
  simpa using h.symm

theorem sum_filterMap (p : α → Option β) (φ : β → M) (xs : List α) :
    ((xs.filterMap p).map φ).sum = (xs.map fun x => ((p x).map φ).getD 0).sum := by
  induction xs with
  | nil => rfl
  | cons x xs ih =>
    rw [List.filterMap_cons, List.map_cons, List.sum_cons, ← ih]
    cases p x with
    | none => exact (zero_add _).symm
    | some y => rfl

theorem book_apply (running : κ → M) (m : Move κ M) (k : κ) :
    book running m k = running k + if m.key = k then m.amount else 0 := by
  unfold book
  by_cases h : m.key = k
  · subst h
    rw [Function.update_self, if_pos rfl]
  · rw [Function.update_of_ne (Ne.symm h), if_neg h, add_zero]

/-- Booking the earlier ones of a key. -/
theorem foldl_book (m : Move κ M) (hidden : List β) (running : κ → M) (k : κ) :
    hidden.foldl (fun running h => if (g h).Before m then book running (g h) else running) running k =
      running k + if m.key = k then sumIf (·.Before m) (hidden.map g) else 0 := by
  induction hidden generalizing running with
  | nil => simp [sumIf]
  | cons h hidden ih =>
    rw [List.foldl_cons, ih, List.map_cons, sumIf_cons]
    by_cases hb : (g h).Before m
    · rw [if_pos hb, if_pos hb, book_apply, hb.1]
      split
      · abel
      · abel
    · rw [if_neg hb, if_neg hb, zero_add]

/-- The hidden movements before `m` are those that have been booked for `x` and those that have not. -/
theorem sumIf_filter {x m : Move κ M} (hxm : x.key = m.key → x.time ≤ m.time) (hidden : List β) :
    (if x.key = m.key then sumIf (·.Before x) (hidden.map g) else 0) +
        sumIf (·.Before m) ((hidden.filter fun h => ¬ (g h).Before x).map g) =
      sumIf (·.Before m) (hidden.map g) := by
  induction hidden with
  | nil => simp [sumIf]
  | cons h hidden ih =>
    rw [List.map_cons, sumIf_cons, sumIf_cons, ← ih, List.filter_cons]
    by_cases hb : (g h).Before x
    · have hkey : (if x.key = m.key then (g h).amount else 0) = if (g h).Before m then (g h).amount
          else 0 := by
        by_cases hk : x.key = m.key
        · have hbm : (g h).Before m := ⟨hb.1.trans hk, Int.lt_of_lt_of_le hb.2 (hxm hk)⟩
          rw [if_pos hk, if_pos hbm]
        · rw [if_neg hk, if_neg fun hbm => hk (hb.1.symm.trans hbm.1)]
      rw [← hkey, if_pos hb]
      simp only [hb, not_true_eq_false, decide_false, Bool.false_eq_true, if_false]
      split
      · abel
      · abel
    · rw [if_neg hb]
      simp only [hb, not_false_eq_true, decide_true, if_true, List.map_cons, sumIf_cons]
      split
      · abel
      · abel

/-- **The total of a visible movement** `a`: the visible ones before it have been booked, and the hidden
ones that are earlier. -/
theorem mem_totals {running : κ → M} {hidden : List β} {xs : List α} {a : α} {t : M}
    (hsorted : xs.Pairwise fun a b => (f a).key = (f b).key → (f a).time ≤ (f b).time)
    (h : (a, t) ∈ totals f g running hidden xs) : ∃ pre post, xs = pre ++ a :: post ∧
      t = running (f a).key + sumIf (·.Before (f a)) (hidden.map g) +
        sumIf (·.key = (f a).key) (pre.map f) + (f a).amount := by
  induction xs generalizing running hidden with
  | nil => cases h
  | cons x xs ih =>
    obtain ⟨hx, hxs⟩ := List.pairwise_cons.1 hsorted
    unfold totals at h
    rcases List.mem_cons.1 h with h | h
    · cases h
      refine ⟨[], xs, rfl, ?_⟩
      rw [book_apply, foldl_book, if_pos rfl, if_pos rfl]
      simp [sumIf]
    · obtain ⟨pre, post, rfl, ht⟩ := ih hxs h
      refine ⟨x :: pre, post, rfl, ?_⟩
      have hxa := hx a (List.mem_append_right _ List.mem_cons_self)
      rw [ht, book_apply, foldl_book, List.map_cons, sumIf_cons, ← sumIf_filter hxa hidden]
      abel

/-- **Up to its time**: when the times of the visible movements of a key increase. -/
theorem totals_upTo {running : κ → M} {hidden : List β} {xs : List α} {a : α} {t : M}
    (hsorted : xs.Pairwise fun a b => (f a).key = (f b).key → (f a).time < (f b).time)
    (h : (a, t) ∈ totals f g running hidden xs) :
    t = running (f a).key + sumIf (·.Before (f a)) (hidden.map g) +
      sumIf (·.UpTo (f a)) (xs.map f) := by
  obtain ⟨pre, post, rfl, ht⟩ := mem_totals (hsorted.imp fun h hk => Int.le_of_lt (h hk)) h
  obtain ⟨-, hpost, hpre⟩ := List.pairwise_append.1 hsorted
  have hbefore : sumIf (·.UpTo (f a)) (pre.map f) = sumIf (·.key = (f a).key) (pre.map f) := by
    refine sumIf_congr fun x hx => ?_
    obtain ⟨b, hb, rfl⟩ := List.mem_map.1 hx
    exact ⟨And.left, fun hk => ⟨hk, Int.le_of_lt (hpre b hb a List.mem_cons_self hk)⟩⟩
  have hafter : sumIf (·.UpTo (f a)) (post.map f) = 0 := by
    refine sumIf_eq_zero fun x hx hup => ?_
    obtain ⟨b, hb, rfl⟩ := List.mem_map.1 hx
    have hlt := (List.pairwise_cons.1 hpost).1 b hb hup.1.symm
    exact absurd hup.2 (Int.not_le.2 hlt)
  rw [List.map_append, List.map_cons, sumIf_append, sumIf_cons, hbefore, hafter,
    if_pos ⟨rfl, Int.le_refl _⟩, ht]
  abel

end Running
