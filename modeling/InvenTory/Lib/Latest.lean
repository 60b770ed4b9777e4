import Mathlib.Data.List.Forall2
import Mathlib.Tactic.Common

/-!
# The last write to a key

A line of writes, each to its own key, reaches a store in order. What the store shows of a write at the
end is a matter of the last write to its key (`Ends`, `shows_foldl`).
-/

namespace Latest

variable {α β κ σ : Type} [DecidableEq κ] {id : β → κ} {x : β} {k : κ} {A B : Prop} {l l' : List β}

/-- The last write to a key. -/
def latest (id : β → κ) (k : κ) (l : List β) : Option β := (l.filter fun b => id b = k).getLast?

/-- The last write to the key of `x` is `x`; or there is none, and `A`. -/
def Ends (id : β → κ) (A : Prop) (x : β) (l : List β) : Prop := (latest id (id x) l).elim A (· = x)

@[simp] theorem latest_append : latest id k (l ++ l') = (latest id k l').or (latest id k l) := by
  simp [latest, List.filter_append]

theorem latest_singleton (b : β) : latest id k [b] = if id b = k then some b else none := by
  by_cases h : id b = k <;> simp [latest, h]

theorem latest_eq_none : latest id k l = none ↔ ∀ b ∈ l, id b ≠ k := by
  simp [latest]

theorem mem_of_latest {b : β} (h : latest id k l = some b) : b ∈ l :=
  List.mem_of_mem_filter (List.mem_of_getLast? h)

@[simp] theorem ends_nil : Ends id A x [] ↔ A := Iff.rfl

/-- What comes later counts. -/
theorem ends_append : Ends id A x (l ++ l') ↔ Ends id (Ends id A x l) x l' := by
  unfold Ends
  rw [latest_append]
  cases latest id (id x) l' <;> rfl

theorem Ends.mono (h : Ends id A x l) (hAB : A → B) : Ends id B x l := by
  unfold Ends at h ⊢
  cases hl : latest id (id x) l with
  | none =>
    rw [hl] at h
    exact hAB h
  | some b =>
    rw [hl] at h
    exact h

theorem ends_cons {b : β} : Ends id A x (b :: l) ↔ Ends id (if id b = id x then b = x else A) x l := by
  rw [← List.singleton_append, ends_append]
  have hb : Ends id A x [b] = if id b = id x then b = x else A := by
    unfold Ends
    rw [latest_singleton]
    split <;> rfl
  rw [hb]

/-- **The store at the end of the line** shows the last write to the key. A step that carries `x` shows it,
and one of another key keeps it. -/
theorem shows_foldl {step : σ → α → σ} {Carries : α → β → Prop} {Shows : σ → Prop}
    (hself : ∀ s a, Carries a x → Shows (step s a))
    (hother : ∀ s a b, Carries a b → id b ≠ id x → Shows s → Shows (step s a))
    {as : List α} (h : List.Forall₂ Carries as l) {s : σ} (hx : Ends id (Shows s) x l) :
    Shows (as.foldl step s) := by
  induction h generalizing s with
  | nil => exact hx
  | @cons a b as l hab _ ih =>
    refine ih ((ends_cons.1 hx).mono fun hb => ?_)
    split at hb
    · exact hself s a (hb ▸ hab)
    · rename_i hne
      exact hother s a b hab hne hb

end Latest
