import Mathlib.Logic.Function.Basic

/-!
# Remembered answers

A memo has for each key the last answer with the time until which it counts, and the number of the call
that is on its way. An answer is found by `lookup` if its time has not come; the calls that ask for a key
while one is on its way join it.
-/

universe u

structure Memo (K D : Type u) where
  entries : K → Option (D × Int)
  inFlight : K → Option Nat

namespace Memo

variable {K D : Type u} [DecidableEq K] {m : Memo K D} {k k' : K} {d d' : D} {n : Nat} {now t : Int}

def empty : Memo K D := ⟨fun _ => none, fun _ => none⟩

/-- The answer of the key, if it still counts. -/
def lookup (m : Memo K D) (now : Int) (k : K) : Option D :=
  ((m.entries k).filter fun e => now < e.2).map (·.1)

/-- An answer that counts until `t`. -/
def store (m : Memo K D) (k : K) (d : D) (t : Int) : Memo K D :=
  { m with entries := Function.update m.entries k (some (d, t)) }

def drop (m : Memo K D) (k : K) : Memo K D := { m with entries := Function.update m.entries k none }

def join (m : Memo K D) (k : K) (n : Nat) : Memo K D :=
  { m with inFlight := Function.update m.inFlight k (some n) }

def leave (m : Memo K D) (k : K) : Memo K D := { m with inFlight := Function.update m.inFlight k none }

def forget (m : Memo K D) : Memo K D := { m with entries := fun _ => none }

def abandon (m : Memo K D) : Memo K D := { m with inFlight := fun _ => none }

@[simp] theorem entries_store :
    (m.store k d t).entries k' = if k' = k then some (d, t) else m.entries k' := Function.update_apply ..

@[simp] theorem entries_drop : (m.drop k).entries k' = if k' = k then none else m.entries k' :=
  Function.update_apply ..

@[simp] theorem entries_join : (m.join k n).entries = m.entries := rfl

@[simp] theorem entries_leave : (m.leave k).entries = m.entries := rfl

@[simp] theorem inFlight_store : (m.store k d t).inFlight = m.inFlight := rfl

@[simp] theorem inFlight_drop : (m.drop k).inFlight = m.inFlight := rfl

@[simp] theorem inFlight_join : (m.join k n).inFlight k' = if k' = k then some n else m.inFlight k' :=
  Function.update_apply ..

@[simp] theorem inFlight_leave : (m.leave k).inFlight k' = if k' = k then none else m.inFlight k' :=
  Function.update_apply ..

omit [DecidableEq K] in
theorem lookup_eq_some : m.lookup now k = some d ↔ ∃ t, m.entries k = some (d, t) ∧ now < t := by
  unfold lookup
  simp only [Option.map_eq_some_iff, Option.filter_eq_some_iff, decide_eq_true_eq]
  constructor
  · rintro ⟨⟨d', t⟩, ⟨he, ht⟩, rfl⟩
    exact ⟨t, he, ht⟩
  · rintro ⟨t, he, ht⟩
    exact ⟨(d, t), ⟨he, ht⟩, rfl⟩

/-- Every answer counts as long as `P` says, also after one more is stored. -/
theorem forall_store {P : K → D → Int → Prop} (h : ∀ k d t, m.entries k = some (d, t) → P k d t)
    (hnew : P k d t) : ∀ k' d' t', (m.store k d t).entries k' = some (d', t') → P k' d' t' := by
  intro k' d' t' he
  rw [entries_store] at he
  split at he
  · rename_i hk
    cases he
    exact hk ▸ hnew
  · exact h k' d' t' he

theorem forall_drop {P : K → D → Int → Prop} (h : ∀ k d t, m.entries k = some (d, t) → P k d t) :
    ∀ k' d' t', (m.drop k).entries k' = some (d', t') → P k' d' t' := by
  intro k' d' t' he
  rw [entries_drop] at he
  split at he
  · cases he
  · exact h k' d' t' he

end Memo
