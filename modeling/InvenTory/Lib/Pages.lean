import Mathlib.Tactic.Common

/-!
# Pages of a stream of sections

A stream is the concatenation of several lists, its sections. A page of it is the range from `start`
to `stop`, of which a section that begins at `base` gets the part that `sectionSlice` computes
(`window_sectionSlice`). Consecutive pages make up the whole section (`slice_append`, `slice_all`).

`readAll` reads a list that changes between the pages. It finds an element that stays behind the offset
between two pages (`Orderly`, `mem_readAll`).
-/

namespace Pages

variable {α : Type}

/-- `xs[lo:hi]` -/
def slice (xs : List α) (lo hi : Nat) : List α := (xs.take hi).drop lo

theorem slice_append (xs : List α) {a b c : Nat} (hab : a ≤ b) (hbc : b ≤ c) :
    slice xs a b ++ slice xs b c = slice xs a c := by
  unfold slice
  have hb : xs.take b = (xs.take c).take b := by
    rw [List.take_take, Nat.min_eq_left hbc]
  rw [hb]
  generalize xs.take c = ys
  have hsplit : ys.drop a = (ys.take b).drop a ++ ys.drop b := by
    rw [List.drop_take]
    have hd : ys.drop b = (ys.drop a).drop (b - a) := by
      rw [List.drop_drop, Nat.add_sub_cancel' hab]
    rw [hd, List.take_append_drop]
  exact hsplit.symm

theorem slice_all (xs : List α) {hi : Nat} (h : xs.length ≤ hi) : slice xs 0 hi = xs := by
  simp [slice, List.take_of_length_le h]

theorem slice_empty (xs : List α) {lo hi : Nat} (h : hi ≤ lo) : slice xs lo hi = [] := by
  unfold slice
  rw [List.drop_eq_nil_iff, List.length_take]
  omega

/-- The rows of a section that lie between `start` and `stop`: the offset of the first in the section,
and their number. -/
def sectionSlice (start stop base len : Nat) : Option (Nat × Nat) :=
  let lo := max start base
  let hi := min stop (base + len)
  if hi ≤ lo then none else some (lo - base, hi - lo)

/-- `OFFSET .. LIMIT ..`; no rows without them. -/
def window (xs : List α) : Option (Nat × Nat) → List α
  | none => []
  | some (offset, count) => (xs.drop offset).take count

theorem window_sectionSlice (xs : List α) (start stop base : Nat) :
    window xs (sectionSlice start stop base xs.length) = slice xs (start - base) (stop - base) := by
  unfold sectionSlice
  simp only
  split
  · rename_i h
    show [] = _
    by_cases hs : stop - base ≤ start - base
    · rw [slice_empty xs hs]
    · -- the section ends before `start`
      have hlen : xs.length ≤ start - base := by omega
      unfold slice
      rw [eq_comm, List.drop_eq_nil_iff, List.length_take]
      omega
  · rename_i h
    show (xs.drop (max start base - base)).take (min stop (base + xs.length) - max start base) = _
    have hlo : max start base - base = start - base := by omega
    unfold slice
    rw [hlo, List.drop_take]
    by_cases hs : stop ≤ base + xs.length
    · congr 1
      omega
    · rw [List.take_of_length_le, List.take_of_length_le]
      · rw [List.length_drop]
        omega
      · rw [List.length_drop]
        omega

theorem slice_append_lists (xs ys : List α) (lo hi : Nat) :
    slice (xs ++ ys) lo hi = slice xs lo hi ++ slice ys (lo - xs.length) (hi - xs.length) := by
  unfold slice
  rw [List.take_append, List.drop_append, List.length_take]
  by_cases h : hi ≤ xs.length
  · rw [Nat.sub_eq_zero_of_le h, List.take_zero, List.drop_nil, List.drop_nil]
  · rw [Nat.min_eq_right (by omega)]

/-- What is left from `lo` on begins with a page from there. -/
theorem drop_eq_slice (xs : List α) {lo hi : Nat} (h : lo ≤ hi) :
    xs.drop lo = slice xs lo hi ++ xs.drop hi := by
  unfold slice
  by_cases hlen : hi ≤ xs.length
  · conv_lhs => rw [← List.take_append_drop hi xs]
    rw [List.drop_append_of_le_length (by rw [List.length_take]; omega)]
  · have hnil : xs.drop hi = [] := List.drop_eq_nil_of_le (by omega)
    rw [List.take_of_length_le (by omega), hnil, List.append_nil]

/-! ## Lists that change -/

/-- Read pages of at most `limit` elements, each from where the last one ended, until one ends with the
list; `lists` are what the requests find. -/
def readAll (limit : Nat) : Nat → List (List α) → Option (List α)
  | _, [] => none
  | offset, xs :: rest =>
    let stop := min (offset + limit) xs.length
    if stop < xs.length then (readAll limit stop rest).map (slice xs offset stop ++ ·)
    else some (slice xs offset stop)

/-- Two pages of streams that have one element more than a page. -/
theorem readAll_two {limit : Nat} {xs ys : List α} {x y : α} (hlimit : 0 < limit)
    (hx : xs.length = limit) (hy : ys.length = limit) :
    readAll limit 0 [xs ++ [x], ys ++ [y]] = some (xs ++ [y]) := by
  have hstop : min (0 + limit) (limit + 1) = limit := by omega
  have hstop' : min (limit + limit) (limit + 1) = limit + 1 := by omega
  simp only [readAll, List.length_append, List.length_singleton, hx, hy, hstop, hstop']
  rw [if_pos (Nat.lt_succ_self _), if_neg (Nat.lt_irrefl _)]
  have hfirst : slice (xs ++ [x]) 0 limit = xs := by
    simp [slice, ← hx]
  have hsecond : slice (ys ++ [y]) limit (limit + 1) = [y] := by
    unfold slice
    rw [List.take_of_length_le (by simp [hy]), ← hy, List.drop_left]
  rw [hfirst, hsecond, Option.map_some]

/-- Wherever one page ends, `x` does not move to before that place until the next page is read. -/
def Orderly (limit : Nat) (x : α) : Nat → List (List α) → Prop
  | offset, xs :: ys :: rest =>
    (x ∈ xs.drop (offset + limit) → x ∈ ys.drop (offset + limit)) ∧
      Orderly limit x (offset + limit) (ys :: rest)
  | _, _ => True

theorem mem_last_page {x : α} {xs : List α} {lo hi : Nat} (hx : x ∈ xs.drop lo)
    (hlen : xs.length ≤ hi) : x ∈ slice xs lo hi := by
  unfold slice
  rw [List.take_of_length_le hlen]
  exact hx

/-- **An element that keeps behind the offset** is read. -/
theorem mem_readAll {limit : Nat} {x : α} {offset : Nat} {xs read : List α} {rest : List (List α)}
    (h : Orderly limit x offset (xs :: rest)) (hx : x ∈ xs.drop offset)
    (hread : readAll limit offset (xs :: rest) = some read) : x ∈ read := by
  induction rest generalizing offset xs read with
  | nil =>
    simp only [readAll, Option.map_none] at hread
    split at hread
    · cases hread
    · cases hread
      exact mem_last_page hx (by omega)
  | cons ys rest ih =>
    unfold readAll at hread
    simp only at hread
    split at hread
    · rename_i hmore
      have hstop : min (offset + limit) xs.length = offset + limit := by omega
      rw [hstop] at hread
      obtain ⟨read', hread', rfl⟩ := Option.map_eq_some_iff.1 hread
      rw [drop_eq_slice xs (Nat.le_add_right offset limit), List.mem_append] at hx
      rcases hx with hx | hx
      · exact List.mem_append_left _ hx
      · exact List.mem_append_right _ (ih h.2 (h.1 hx) hread')
    · cases hread
      exact mem_last_page hx (by omega)

end Pages
