import Mathlib.Data.List.Basic
import Mathlib.Tactic.Common

/-!
# Spans of one length

Every element of a list has a key and a span of the length `d` that begins at `start`. The spans of a
key are pairwise disjoint exactly if no point is in two of them (`pairwise_apart_iff`), which is a
count that a list operation changes point by point (`load_append`, `load_filter_ne`).
-/

namespace Spans

variable {α κ : Type} [DecidableEq κ] (key : α → κ) (start : α → Int) (d : Int)

/-- The point `t` of the key `k` is in the span of `a`. -/
def Covers (k : κ) (t : Int) (a : α) : Prop := key a = k ∧ start a ≤ t ∧ t < start a + d

instance (k : κ) (t : Int) : DecidablePred (Covers key start d k t) := fun a => by
  unfold Covers
  infer_instance

/-- In how many spans the point is. -/
def load (xs : List α) (k : κ) (t : Int) : Nat := xs.countP fun a => decide (Covers key start d k t a)

/-- Spans of one key do not meet. -/
def Apart (a b : α) : Prop := key a = key b → start a + d ≤ start b ∨ start b + d ≤ start a

instance : DecidableRel (Apart key start d) := fun a b => by
  unfold Apart
  infer_instance

variable {key start d}

theorem load_append (xs ys : List α) (k : κ) (t : Int) :
    load key start d (xs ++ ys) k t = load key start d xs k t + load key start d ys k t :=
  List.countP_append

theorem load_cons (a : α) (xs : List α) (k : κ) (t : Int) :
    load key start d (a :: xs) k t =
      load key start d xs k t + if Covers key start d k t a then 1 else 0 := by
  unfold load
  rw [List.countP_cons]
  by_cases h : Covers key start d k t a
  · simp [h]
  · simp [h]

/-- Without the spans of a key. -/
theorem load_filter_ne (xs : List α) (k k' : κ) (t : Int) :
    load key start d (xs.filter fun a => decide (key a ≠ k')) k t =
      if k = k' then 0 else load key start d xs k t := by
  unfold load
  rw [List.countP_filter]
  split
  · rename_i h
    subst h
    refine List.countP_eq_zero.2 fun a _ ha => ?_
    simp only [Bool.and_eq_true, decide_eq_true_eq] at ha
    exact ha.2 ha.1.1
  · rename_i h
    refine List.countP_congr fun a _ => ?_
    simp only [Bool.and_eq_true, decide_eq_true_eq, and_iff_left_iff_imp]
    rintro ⟨rfl, -⟩
    exact h

/-- A change that keeps the spans keeps the loads. -/
theorem load_map {f : α → α} (hk : ∀ a, key (f a) = key a) (hs : ∀ a, start (f a) = start a)
    (xs : List α) (k : κ) (t : Int) :
    load key start d (xs.map f) k t = load key start d xs k t := by
  unfold load
  rw [List.countP_map]
  refine List.countP_congr fun a _ => ?_
  simp only [Function.comp_apply, decide_eq_true_eq]
  unfold Covers
  rw [hk, hs]

theorem load_eq_zero {xs : List α} {k : κ} {t : Int}
    (h : ∀ a ∈ xs, ¬ Covers key start d k t a) : load key start d xs k t = 0 :=
  List.countP_eq_zero.2 fun a ha hc => h a ha (of_decide_eq_true hc)

/-- **Spans are pairwise disjoint** exactly if no point is in two of them. -/
theorem pairwise_apart_iff (_hd : 0 < d) {xs : List α} :
    xs.Pairwise (Apart key start d) ↔ ∀ k t, load key start d xs k t ≤ 1 := by
  induction xs with
  | nil => exact iff_of_true .nil fun _ _ => Nat.zero_le _
  | cons a xs ih =>
    rw [List.pairwise_cons, ih]
    constructor
    · rintro ⟨ha, hxs⟩ k t
      rw [load_cons]
      split
      · rename_i hcov
        have hnone : load key start d xs k t = 0 := by
          refine load_eq_zero fun b hb hcov' => ?_
          obtain ⟨hk, h1, h2⟩ := hcov
          obtain ⟨hk', h3, h4⟩ := hcov'
          rcases ha b hb (hk.trans hk'.symm) with h | h <;> omega
        omega
      · exact hxs k t
    · intro h
      refine ⟨fun b hb hkey => ?_, fun k t => ?_⟩
      · -- the later of the two beginnings would be in both
        by_contra hmeet
        have hcova : Covers key start d (key a) (max (start a) (start b)) a :=
          ⟨rfl, by omega, by omega⟩
        have hcovb : Covers key start d (key a) (max (start a) (start b)) b :=
          ⟨hkey.symm, by omega, by omega⟩
        have hpos : 0 < load key start d xs (key a) (max (start a) (start b)) :=
          List.countP_pos_iff.2 ⟨b, hb, decide_eq_true hcovb⟩
        have hone := h (key a) (max (start a) (start b))
        rw [load_cons, if_pos hcova] at hone
        omega
      · have hle := h k t
        rw [load_cons] at hle
        omega

end Spans
