import Mathlib.Algebra.BigOperators.Group.List.Basic
import Mathlib.Algebra.Order.Group.Int
import Mathlib.Algebra.Ring.Int.Defs
import Mathlib.Tactic.Common

/-!
# Running totals over days

`accumulate` adds the change of each day to what it starts from. Started from the level before the first
day it gives the level of each day, and started from another one it is off by the difference on every day
(`mem_accumulate`). Levels and changes are those of rows that have a day and an amount.
-/

namespace Trend

/-- `n` days from `first` on. -/
def datesFrom : Int → Nat → List Int
  | _, 0 => []
  | first, n + 1 => first :: datesFrom (first + 1) n

/-- The days from `first` to `last`. -/
def dates (first last : Int) : List Int := datesFrom first (last - first + 1).toNat

def accumulate (change : Int → Int) : Int → List Int → List (Int × Int)
  | _, [] => []
  | running, d :: ds => (d, running + change d) :: accumulate change (running + change d) ds

variable {change level : Int → Int} {first last running d v : Int} {n : Nat}

theorem mem_datesFrom : d ∈ datesFrom first n ↔ first ≤ d ∧ d < first + n := by
  induction n generalizing first with
  | zero => simp [datesFrom]
  | succ n ih =>
    rw [datesFrom, List.mem_cons, ih]
    omega

theorem mem_dates : d ∈ dates first last ↔ first ≤ d ∧ d ≤ last := by
  rw [dates, mem_datesFrom]
  omega

theorem map_fst_accumulate (change : Int → Int) (running : Int) (ds : List Int) :
    (accumulate change running ds).map (·.1) = ds := by
  induction ds generalizing running with
  | nil => rfl
  | cons d ds ih => rw [accumulate, List.map_cons, ih]

/-- **Every value** is the level of its day, and as much more as it was started from above the level before
the first day. -/
theorem mem_accumulate (hchange : ∀ d ∈ datesFrom first n, change d = level d - level (d - 1))
    (h : (d, v) ∈ accumulate change running (datesFrom first n)) :
    v = level d + (running - level (first - 1)) := by
  induction n generalizing first running with
  | zero => cases h
  | succ n ih =>
    have hfirst := hchange first List.mem_cons_self
    rcases List.mem_cons.1 h with h | h
    · cases h
      omega
    · rw [ih (fun d hd => hchange d (List.mem_cons_of_mem first hd)) h, add_sub_cancel_right]
      omega

/-- There is a value for every day. -/
theorem exists_mem_accumulate (change : Int → Int) (running : Int) (hd : d ∈ datesFrom first n) :
    ∃ v, (d, v) ∈ accumulate change running (datesFrom first n) := by
  rw [← map_fst_accumulate change running (datesFrom first n)] at hd
  obtain ⟨p, hp, rfl⟩ := List.mem_map.1 hd
  exact ⟨p.2, hp⟩

/-- The level of each day, and no less than nothing. -/
def Truthful (level : Int → Int) (trend : List (Int × Int)) : Prop := ∀ p ∈ trend, p.2 = max 0 (level p.1)

/-- The shift is none, or there is nothing on any day, shifted or not. -/
def Unshifted (level : Int → Int) (shift first last : Int) : Prop :=
  shift = 0 ∨ ∀ d, first ≤ d → d ≤ last → level d ≤ 0 ∧ level d + shift ≤ 0

/-- **A trend is truthful** exactly if what it is started from does not show. -/
theorem truthful_iff (hchange : ∀ d ∈ dates first last, change d = level d - level (d - 1)) :
    Truthful level ((accumulate change running (dates first last)).map fun p => (p.1, max 0 p.2)) ↔
      Unshifted level (running - level (first - 1)) first last := by
  have hvalue : ∀ d v, (d, v) ∈ accumulate change running (dates first last) →
      v = level d + (running - level (first - 1)) := fun d v h => mem_accumulate hchange h
  constructor
  · intro h
    by_cases hshift : running - level (first - 1) = 0
    · exact .inl hshift
    · refine .inr fun d h1 h2 => ?_
      obtain ⟨v, hv⟩ := exists_mem_accumulate change running (mem_dates.2 ⟨h1, h2⟩)
      have htrue := h _ (List.mem_map_of_mem hv)
      have := hvalue d v hv
      simp only at htrue
      omega
  · intro h p hp
    obtain ⟨⟨d, v⟩, hv, rfl⟩ := List.mem_map.1 hp
    have hd : d ∈ dates first last := by
      rw [← map_fst_accumulate change running (dates first last)]
      exact List.mem_map_of_mem hv
    obtain ⟨h1, h2⟩ := mem_dates.1 hd
    have := hvalue d v hv
    rcases h with h | h
    · simp only
      omega
    · have := h d h1 h2
      simp only
      omega

/-! ## Rows -/

section
variable {ρ : Type*} (day amount : ρ → Int) (rows : List ρ)

def onDay (d : Int) : Int := (rows.map fun r => if day r = d then amount r else 0).sum

def upTo (d : Int) : Int := (rows.map fun r => if day r ≤ d then amount r else 0).sum

def since (d : Int) : Int := (rows.map fun r => if d ≤ day r then amount r else 0).sum

theorem onDay_eq (d : Int) :
    onDay day amount rows d = upTo day amount rows d - upTo day amount rows (d - 1) := by
  unfold onDay upTo
  induction rows with
  | nil => rfl
  | cons r rows ih =>
    simp only [List.map_cons, List.sum_cons]
    split <;> split <;> split <;> omega

theorem sum_sub_upTo (d : Int) :
    (rows.map amount).sum - upTo day amount rows (d - 1) = since day amount rows d := by
  unfold since upTo
  induction rows with
  | nil => rfl
  | cons r rows ih =>
    simp only [List.map_cons, List.sum_cons]
    split <;> split <;> omega

end

end Trend
