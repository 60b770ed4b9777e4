import Mathlib.Algebra.BigOperators.Group.List.Basic
import Mathlib.Algebra.Order.Group.Int
import Mathlib.Algebra.Ring.Int.Defs
import Mathlib.Tactic.Common

/-!
# Counters that refuse to go below zero

Moves of type `ι` change integer counters: the move `m` adds `amount m` to the counter `key m`.
A counter refuses a move that would take something from it and leave it negative (`Admits`).
`final q ms` is the state after offering the moves `ms` in turn, `refused q ms` the moves that
were refused.

* `refused_eq_nil`: nothing is refused exactly if no counter runs short (`NeverShort`).
* `retry_converges`: if the counters can take all moves together, then offering the refused moves
  once more, in any order, leaves none refused.
-/

namespace Counters

variable {ι κ : Type} [DecidableEq κ] (key : ι → κ) (amount : ι → Int)

/-- What `m` adds to the counter `k`. -/
def share (k : κ) (m : ι) : Int := if key m = k then amount m else 0

/-- What all of `ms` add to the counter `k`. -/
def sum (k : κ) (ms : List ι) : Int := (ms.map (share key amount k)).sum

def move (q : κ → Int) (m : ι) : κ → Int := fun k => q k + share key amount k m

def Admits (q : κ → Int) (m : ι) : Prop := 0 ≤ amount m ∨ 0 ≤ q (key m) + amount m

instance (q : κ → Int) (m : ι) : Decidable (Admits key amount q m) :=
  inferInstanceAs (Decidable (_ ∨ _))

def final : (κ → Int) → List ι → κ → Int
  | q, [] => q
  | q, m :: ms => if Admits key amount q m then final (move key amount q m) ms else final q ms

def refused : (κ → Int) → List ι → List ι
  | _, [] => []
  | q, m :: ms =>
    if Admits key amount q m then refused (move key amount q m) ms else m :: refused q ms

/-- Moves made one after the other never find too little to take from. -/
def NeverShort : (κ → Int) → List ι → Prop
  | _, [] => True
  | q, m :: ms => Admits key amount q m ∧ NeverShort (move key amount q m) ms

instance : ∀ (q : κ → Int) (ms : List ι), Decidable (NeverShort key amount q ms)
  | _, [] => inferInstanceAs (Decidable True)
  | q, m :: ms =>
    have := instDecidableNeverShort (move key amount q m) ms
    inferInstanceAs (Decidable (_ ∧ _))

/-- Moves made one after the other never leave a counter negative. -/
def NeverNegative : (κ → Int) → List ι → Prop
  | _, [] => True
  | q, m :: ms => 0 ≤ q (key m) + amount m ∧ NeverNegative (move key amount q m) ms

instance : ∀ (q : κ → Int) (ms : List ι), Decidable (NeverNegative key amount q ms)
  | _, [] => inferInstanceAs (Decidable True)
  | q, m :: ms =>
    have := instDecidableNeverNegative (move key amount q m) ms
    inferInstanceAs (Decidable (_ ∧ _))

variable {key amount}

theorem NeverNegative.neverShort : ∀ {ms : List ι} {q : κ → Int}, NeverNegative key amount q ms →
    NeverShort key amount q ms
  | [], _, _ => trivial
  | _ :: _, _, h => ⟨.inr h.1, h.2.neverShort⟩

theorem sum_cons (k : κ) (m : ι) (ms : List ι) :
    sum key amount k (m :: ms) = share key amount k m + sum key amount k ms := by
  simp [sum]

theorem sum_perm {ms ms' : List ι} (h : ms.Perm ms') (k : κ) :
    sum key amount k ms = sum key amount k ms' := (h.map _).sum_eq

theorem refused_append (ms' : List ι) : ∀ {ms : List ι} {q : κ → Int},
    refused key amount q (ms ++ ms') =
      refused key amount q ms ++ refused key amount (final key amount q ms) ms'
  | [], _ => rfl
  | m :: ms, q => by
    simp only [List.cons_append, refused, final]
    split
    · exact refused_append ms'
    · rw [refused_append ms', List.cons_append]

theorem final_append (ms' : List ι) : ∀ {ms : List ι} {q : κ → Int},
    final key amount q (ms ++ ms') = final key amount (final key amount q ms) ms'
  | [], _ => rfl
  | m :: ms, q => by
    simp only [List.cons_append, final]
    split <;> exact final_append ms'

theorem refused_sublist : ∀ {ms : List ι} {q : κ → Int}, (refused key amount q ms).Sublist ms
  | [], _ => .slnil
  | m :: ms, q => by
    unfold refused
    split
    · exact refused_sublist.cons m
    · exact refused_sublist.cons_cons m

theorem amount_neg_of_refused : ∀ {ms : List ι} {q : κ → Int} {m : ι},
    m ∈ refused key amount q ms → amount m < 0
  | x :: ms, q, m, h => by
    unfold refused at h
    split at h
    · exact amount_neg_of_refused h
    · rename_i hn
      rcases List.mem_cons.1 h with rfl | h
      · exact not_le.1 fun h0 => hn (.inl h0)
      · exact amount_neg_of_refused h

theorem refused_eq_nil : ∀ {ms : List ι} {q : κ → Int},
    refused key amount q ms = [] ↔ NeverShort key amount q ms
  | [], _ => ⟨fun _ => trivial, fun _ => rfl⟩
  | m :: ms, q => by
    by_cases h : Admits key amount q m <;> simp [refused, NeverShort, h, refused_eq_nil]

theorem move_nonneg {q : κ → Int} {m : ι} (h : ∀ k, 0 ≤ q k) (ha : Admits key amount q m) (k : κ) :
    0 ≤ move key amount q m k := by
  have hk := h k
  unfold move share
  split
  · rename_i he
    subst he
    rcases ha with h0 | h0
    · omega
    · exact h0
  · omega

theorem final_nonneg : ∀ {ms : List ι} {q : κ → Int}, (∀ k, 0 ≤ q k) →
    ∀ k, 0 ≤ final key amount q ms k
  | [], _, h => h
  | m :: ms, q, h => by
    unfold final
    split
    · rename_i ha
      exact final_nonneg (move_nonneg h ha)
    · exact final_nonneg h

variable (key amount) in
/-- Nothing gets lost: what was admitted and what was refused add up to what was offered. -/
theorem final_add_refused : ∀ (ms : List ι) (q : κ → Int) (k : κ),
    final key amount q ms k + sum key amount k (refused key amount q ms) =
      q k + sum key amount k ms
  | [], _, _ => rfl
  | m :: ms, q, k => by
    have h1 := final_add_refused ms (move key amount q m) k
    have h2 := final_add_refused ms q k
    rw [sum_cons]
    unfold refused final
    split
    · rw [h1, move]
      omega
    · rw [sum_cons]
      omega

theorem sum_nonpos {ms : List ι} (h : ∀ m ∈ ms, amount m < 0) (k : κ) :
    sum key amount k ms ≤ 0 := by
  induction ms with
  | nil => exact le_rfl
  | cons m ms ih =>
    have hm := h m List.mem_cons_self
    have hms := ih fun x hx => h x (List.mem_cons_of_mem m hx)
    rw [sum_cons, share]
    split <;> omega

/-- Moves that only take are all admitted if the counters can take them together. -/
theorem neverShort_of_sum : ∀ {ms : List ι} {q : κ → Int}, (∀ m ∈ ms, amount m < 0) →
    (∀ k, 0 ≤ q k + sum key amount k ms) → NeverShort key amount q ms
  | [], _, _, _ => trivial
  | m :: ms, q, hneg, hsum => by
    have hneg' : ∀ x ∈ ms, amount x < 0 := fun x hx => hneg x (List.mem_cons_of_mem m hx)
    refine ⟨.inr ?_, neverShort_of_sum hneg' fun k => ?_⟩
    · have h1 := hsum (key m)
      have h2 : sum key amount (key m) ms ≤ 0 := sum_nonpos hneg' (key m)
      rw [sum_cons, share, if_pos rfl] at h1
      omega
    · have h1 := hsum k
      rw [sum_cons] at h1
      unfold move
      omega

/-- **One retry is enough**, in whatever order. -/
theorem retry_converges {ms rs : List ι} {q : κ → Int}
    (hsum : ∀ k, 0 ≤ q k + sum key amount k ms) (hrs : rs.Perm (refused key amount q ms)) :
    NeverShort key amount (final key amount q ms) rs ∧
      ∀ k, final key amount (final key amount q ms) rs k = q k + sum key amount k ms := by
  have hshort : NeverShort key amount (final key amount q ms) rs := by
    refine neverShort_of_sum (fun m hm => amount_neg_of_refused (hrs.mem_iff.1 hm)) fun k => ?_
    rw [sum_perm hrs, final_add_refused]
    exact hsum k
  refine ⟨hshort, fun k => ?_⟩
  have h1 := final_add_refused key amount rs (final key amount q ms) k
  have h2 := final_add_refused key amount ms q k
  rw [refused_eq_nil.2 hshort, sum_perm hrs] at h1
  simp only [sum, List.map_nil, List.sum_nil] at h1 h2 ⊢
  omega

end Counters
