import Mathlib.Tactic.Common

/-!
# Runs of a machine

A machine is a `step` of its states on events; a list of events is a run of it. `Along G` says that
every event of a run meets `G` in the state that it comes to, and `Always P` that `P` holds of every
state of the run. `Along.always` gets the one from the other by an invariant.
-/

namespace Runs

variable {σ ε : Type} {step : σ → ε → σ} {G H : σ → ε → Prop} {P Q I : σ → Prop} {s : σ} {e : ε}
  {es fs : List ε}

/-- Every event meets `G` in the state before it. -/
def Along (step : σ → ε → σ) (G : σ → ε → Prop) : σ → List ε → Prop
  | _, [] => True
  | s, e :: es => G s e ∧ Along step G (step s e) es

/-- Every state of the run meets `P`, the first and the last one too. -/
def Always (step : σ → ε → σ) (P : σ → Prop) : σ → List ε → Prop
  | s, [] => P s
  | s, e :: es => P s ∧ Always step P (step s e) es

instance decidableAlong [∀ s e, Decidable (G s e)] : ∀ s es, Decidable (Along step G s es)
  | _, [] => isTrue trivial
  | s, e :: es =>
    have := decidableAlong (step s e) es
    inferInstanceAs (Decidable (G s e ∧ Along step G (step s e) es))

theorem Always.first (h : Always step P s es) : P s := by
  cases es with
  | nil => exact h
  | cons e es => exact h.1

theorem Always.last (h : Always step P s es) : P (es.foldl step s) := by
  induction es generalizing s with
  | nil => exact h
  | cons e es ih => exact ih h.2

theorem Always.mono (h : Always step P s es) (hPQ : ∀ s, P s → Q s) : Always step Q s es := by
  induction es generalizing s with
  | nil => exact hPQ s h
  | cons e es ih => exact ⟨hPQ s h.1, ih h.2⟩

theorem Along.mono (h : Along step G s es) (hGH : ∀ s e, G s e → H s e) : Along step H s es := by
  induction es generalizing s with
  | nil => trivial
  | cons e es ih => exact ⟨hGH s e h.1, ih h.2⟩

theorem along_and : Along step (fun s e => G s e ∧ H s e) s es ↔
    Along step G s es ∧ Along step H s es := by
  induction es generalizing s with
  | nil => simp [Along]
  | cons e es ih =>
    simp only [Along, ih]
    exact and_and_and_comm

theorem along_of_forall (h : ∀ s e, G s e) (s : σ) (es : List ε) : Along step G s es := by
  induction es generalizing s with
  | nil => trivial
  | cons e es ih => exact ⟨h s e, ih (step s e)⟩

theorem along_of_mem (h : ∀ e ∈ es, ∀ s, G s e) (s : σ) : Along step G s es := by
  induction es generalizing s with
  | nil => trivial
  | cons e es ih =>
    exact ⟨h e List.mem_cons_self s, ih (fun e' he' => h e' (List.mem_cons_of_mem _ he')) (step s e)⟩

/-- **What good events keep** holds of every state. -/
theorem Along.always (h : Along step G s es) (h0 : I s)
    (hstep : ∀ s e, I s → G s e → I (step s e)) : Always step I s es := by
  induction es generalizing s with
  | nil => exact h0
  | cons e es ih => exact ⟨h0, ih h.2 (hstep s e h0 h.1)⟩

/-- An invariant of all events. -/
theorem always_of_step (h0 : I s) (hstep : ∀ s e, I s → I (step s e)) (es : List ε) :
    Always step I s es := by
  induction es generalizing s with
  | nil => exact h0
  | cons e es ih => exact ⟨h0, ih (hstep s e h0)⟩

/-- Conditions that agree where an invariant of the one holds. -/
theorem along_congr (h0 : I s) (hstep : ∀ s e, I s → G s e → I (step s e))
    (hGH : ∀ s e, I s → (G s e ↔ H s e)) : Along step G s es ↔ Along step H s es := by
  induction es generalizing s with
  | nil => exact Iff.rfl
  | cons e es ih =>
    refine ⟨fun h => ⟨(hGH s e h0).1 h.1, (ih (hstep s e h0 h.1)).1 h.2⟩, fun h => ?_⟩
    have hG := (hGH s e h0).2 h.1
    exact ⟨hG, (ih (hstep s e h0 hG)).2 h.2⟩

/-- What the states before and after an event show of it. -/
theorem Always.along (h : Always step P s es) (hI : Always step I s es)
    (hstep : ∀ s e, I s → P s → P (step s e) → G s e) : Along step G s es := by
  induction es generalizing s with
  | nil => trivial
  | cons e es ih => exact ⟨hstep s e hI.1 h.1 h.2.first, ih h.2 hI.2⟩

theorem along_append : Along step G s (es ++ fs) ↔
    Along step G s es ∧ Along step G (es.foldl step s) fs := by
  induction es generalizing s with
  | nil => simp [Along]
  | cons e es ih => simp [Along, ih, and_assoc]

theorem always_append : Always step P s (es ++ fs) ↔
    Always step P s es ∧ Always step P (es.foldl step s) fs := by
  induction es generalizing s with
  | nil => exact ⟨fun h => ⟨h.first, h⟩, fun h => h.2⟩
  | cons e es ih => simp [Always, ih, and_assoc]

/-- A condition on a part of the state, which runs on its own. -/
theorem along_map {τ : Type} (view : σ → τ) {step' : τ → ε → τ} {G' : τ → ε → Prop}
    (hview : ∀ s e, view (step s e) = step' (view s) e) :
    Along step (fun s e => G' (view s) e) s es ↔ Along step' G' (view s) es := by
  induction es generalizing s with
  | nil => exact Iff.rfl
  | cons e es ih => simp only [Along, ih, hview]

/-! ## Runs that can stop with an error -/

theorem bind_ok_iff {ε α β : Type} {x : Except ε α} {f : α → Except ε β} {b : β} :
    (x >>= f) = .ok b ↔ ∃ a, x = .ok a ∧ f a = .ok b := by
  cases x with
  | error e => exact ⟨(fun h => by cases h), fun ⟨_, h, _⟩ => by cases h⟩
  | ok a => exact ⟨fun h => ⟨a, rfl, h⟩, fun ⟨_, h, hf⟩ => by cases h; exact hf⟩

theorem mapError_ok_iff {ε χ α : Type} {x : Except ε α} {f : ε → χ} {a : α} :
    x.mapError f = .ok a ↔ x = .ok a := by
  cases x <;> simp [Except.mapError]

section
variable {χ : Type} {f g : σ → ε → Except χ σ} {s' : σ}

/-- A step that goes through exactly on the events of `G`. -/
def Steps (f : σ → ε → Except χ σ) (step : σ → ε → σ) (G : σ → ε → Prop) : Prop :=
  ∀ s e s', f s e = .ok s' ↔ G s e ∧ s' = step s e

/-- **A run goes through** exactly if each of its events does. -/
theorem Steps.foldlM_ok_iff (hf : Steps f step G) :
    es.foldlM f s = .ok s' ↔ Along step G s es ∧ s' = es.foldl step s := by
  induction es generalizing s with
  | nil => exact ⟨fun h => ⟨trivial, (Except.ok.inj h).symm⟩, fun h => congrArg _ h.2.symm⟩
  | cons e es ih =>
    rw [List.foldlM_cons]
    cases h : f s e with
    | error err =>
      refine ⟨(fun h => by cases h), fun ⟨hG, _⟩ => ?_⟩
      rw [(hf ..).2 ⟨hG.1, rfl⟩] at h
      cases h
    | ok s1 =>
      obtain ⟨hG, rfl⟩ := (hf ..).1 h
      exact ih.trans ⟨fun h => ⟨⟨hG, h.1⟩, h.2⟩, fun h => ⟨h.1.2, h.2⟩⟩

/-- Two runs with the same steps on the events of `H`. -/
theorem Along.foldlM_congr (h : Along step H s es) (hg : Steps g step G)
    (hfg : ∀ s e s', H s e → (f s e = .ok s' ↔ g s e = .ok s')) :
    es.foldlM f s = .ok s' ↔ es.foldlM g s = .ok s' := by
  induction es generalizing s with
  | nil => exact Iff.rfl
  | cons e es ih =>
    rw [List.foldlM_cons, List.foldlM_cons]
    cases hge : g s e with
    | error err =>
      cases hfe : f s e with
      | error err' => exact ⟨(fun h => by cases h), fun h => by cases h⟩
      | ok s1 =>
        rw [(hfg _ _ _ h.1).1 hfe] at hge
        cases hge
    | ok s1 =>
      rw [(hfg _ _ _ h.1).2 hge]
      obtain ⟨-, rfl⟩ := (hg ..).1 hge
      exact ih h.2

end

/-! ## Lists that are read element by element -/

theorem mapM_eq_some_iff {α β : Type} {f : α → Option β} {xs : List α} {ys : List β} :
    xs.mapM f = some ys ↔ (∀ x ∈ xs, (f x).isSome) ∧ xs.filterMap f = ys := by
  induction xs generalizing ys with
  | nil => simp
  | cons x xs ih =>
    rw [List.mapM_cons, List.forall_mem_cons]
    cases hx : f x with
    | none => simp
    | some y =>
      rw [List.filterMap_cons_some hx]
      simp only [Option.bind_eq_bind, Option.bind_some, Option.isSome_some, true_and]
      constructor
      · intro h
        obtain ⟨zs, hzs, rfl⟩ : ∃ zs, xs.mapM f = some zs ∧ y :: zs = ys := by
          cases hm : xs.mapM f with
          | none =>
            rw [hm] at h
            cases h
          | some zs =>
            rw [hm] at h
            exact ⟨zs, rfl, Option.some.inj h⟩
        obtain ⟨hall, rfl⟩ := ih.1 hzs
        exact ⟨hall, rfl⟩
      · rintro ⟨hall, rfl⟩
        rw [ih.2 ⟨hall, rfl⟩]
        rfl

/-- What each element gives, if all of them give something. -/
theorem forall₂_of_mapM {α β : Type} {f : α → Option β} : ∀ {as : List α} {bs : List β},
    as.mapM f = some bs → List.Forall₂ (fun a b => f a = some b) as bs
  | [], bs, h => by
    cases h
    exact .nil
  | a :: as, bs, h => by
    rw [List.mapM_cons] at h
    simp only [Option.bind_eq_bind, Option.bind_eq_some_iff] at h
    obtain ⟨b, hb, bs', hbs, h⟩ := h
    cases h
    exact .cons hb (forall₂_of_mapM hbs)

/-! ## States by their place -/

/-- The states of a run are those of its beginnings. -/
theorem always_iff_take : Always step P s es ↔ ∀ n, P ((es.take n).foldl step s) := by
  induction es generalizing s with
  | nil => simp [Always]
  | cons e es ih =>
    simp only [Always, ih]
    refine ⟨fun h n => ?_, fun h => ⟨h 0, fun n => h (n + 1)⟩⟩
    cases n with
    | zero => exact h.1
    | succ n => exact h.2 n

end Runs
