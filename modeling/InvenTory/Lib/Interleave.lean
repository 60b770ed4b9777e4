import InvenTory.Lib.Script
import Mathlib.Logic.Relation

/-!
# Interleaved sessions

Threads run flows against one store, statement by statement and in any order (`Pool.Step`). A
statement of a session sees the committed store of its moment with the session's own changes, which
are its statements so far replayed on it (READ COMMITTED). A statement that would change what an open
session of another thread has changed has to wait. A session that commits has its statements replayed
on the committed store; one whose statements no longer apply never does. `Thread.Effect` is what the
steps do to the store and to the logs.

`Script.Meets` and `Flow.Meets` are the rules of such threads: what holds at the end of a session or a
flow, if the others change the store only as `Party.rely` allows. A pool whose threads all meet their
rules goes on to do so (`Pool.Meets.step`).
-/

namespace Sql

variable {ι ε σ α β L : Type}

/-- The statements that change the store, and have been executed. -/
abbrev Log (ε σ : Type) := List (σ → Except ε σ)

/-- The store after the statements of a log. -/
def replay (log : Log ε σ) (s : σ) : Except ε σ := log.foldlM (fun s f => f s) s

theorem replay_concat {log : Log ε σ} {f : σ → Except ε σ} {s v v' : σ}
    (hv : replay log s = .ok v) (hf : f v = .ok v') : replay (log ++ [f]) s = .ok v' := by
  unfold replay at hv ⊢
  rw [List.foldlM_append, hv]
  show ([f].foldlM (fun s f => f s) v) = _
  simp [hf]

theorem replay_concat_ok {log : Log ε σ} {f : σ → Except ε σ} {s v' : σ}
    (h : replay (log ++ [f]) s = .ok v') : ∃ v, replay log s = .ok v ∧ f v = .ok v' := by
  unfold replay at h ⊢
  rw [List.foldlM_append] at h
  cases hv : log.foldlM (fun s f => f s) s with
  | error e =>
    rw [hv] at h
    cases h
  | ok v =>
    rw [hv] at h
    refine ⟨v, rfl, ?_⟩
    change [f].foldlM (fun s f => f s) v = _ at h
    simpa using h

/-- A statement, before it is executed. -/
inductive Statement (ε σ : Type) : Type 1
  | read {β : Type} (f : σ → β)
  | write (f : σ → Except ε σ)

/-- What the runs may do: which statements can fail, and what holds of a statement and of the store
that it sees when it is executed. -/
structure Rules (ε σ : Type) : Type 1 where
  fault : ε → Prop
  guard : Statement ε σ → σ → Prop

/-- A thread between two sessions, or in one: with its log, and with the changes of its statements. -/
inductive Thread (ε σ α : Type) : Type 1
  | idle (flow : Flow ε σ α)
  | running {β : Type} (commits : Bool) (script : Script ε σ β) (next : Except ε β → Flow ε σ α)
    (log : Log ε σ) (changes : List (σ × σ))

namespace Thread

def log : Thread ε σ α → Log ε σ
  | idle _ => []
  | running _ _ _ log _ => log

/-- What the statements of the open session have changed. -/
def changes : Thread ε σ α → List (σ × σ)
  | idle _ => []
  | running _ _ _ _ changes => changes

/-- No session is open. -/
def isIdle : Thread ε σ α → Bool
  | idle _ => true
  | running _ _ _ _ _ => false

/-- The statements of all its sessions are of `S`. -/
def Only (S : (σ → Except ε σ) → Prop) (R : Prop) : Thread ε σ α → Prop
  | idle flow => flow.Only S R
  | running _ script next _ _ => script.Only S R ∧ ∀ r, (next r).Only S R

end Thread

/-- A step of a thread, with the committed store before and after it. A change has to be `free`. -/
inductive Thread.Move (ρ : Rules ε σ) (free : σ → σ → Prop) (s : σ) :
    Thread ε σ α → σ → Thread ε σ α → Prop
  | start {β : Type} {commits : Bool} {body : Script ε σ β} {next : Except ε β → Flow ε σ α} :
    Move ρ free s (.idle (.session commits body next)) s (.running commits body next [] [])
  | read {β γ : Type} {commits : Bool} {f : σ → γ} {k : Except ε γ → Script ε σ β}
    {next : Except ε β → Flow ε σ α} {log : Log ε σ} {changes : List (σ × σ)} {v : σ}
    (hv : replay log s = .ok v) (hg : ρ.guard (.read f) v) :
    Move ρ free s (.running commits (.read f k) next log changes) s
      (.running commits (k (.ok (f v))) next log changes)
  | write {β : Type} {commits : Bool} {f : σ → Except ε σ} {k : Except ε Unit → Script ε σ β}
    {next : Except ε β → Flow ε σ α} {log : Log ε σ} {changes : List (σ × σ)} {v v' : σ}
    (hv : replay log s = .ok v) (hf : f v = .ok v') (hfree : free v v')
    (hg : ρ.guard (.write f) v) :
    Move ρ free s (.running commits (.write f k) next log changes) s
      (.running commits (k (.ok ())) next (log ++ [f]) (changes ++ [(v, v')]))
  /-- The statement violates a constraint. -/
  | refuse {β : Type} {commits : Bool} {f : σ → Except ε σ} {k : Except ε Unit → Script ε σ β}
    {next : Except ε β → Flow ε σ α} {log : Log ε σ} {changes : List (σ × σ)} {v : σ} {e : ε}
    (hv : replay log s = .ok v) (hf : f v = .error e) :
    Move ρ free s (.running commits (.write f k) next log changes) s
      (.running commits (k (.error e)) next log changes)
  | readFault {β γ : Type} {commits : Bool} {f : σ → γ} {k : Except ε γ → Script ε σ β}
    {next : Except ε β → Flow ε σ α} {log : Log ε σ} {changes : List (σ × σ)} {e : ε}
    (he : ρ.fault e) :
    Move ρ free s (.running commits (.read f k) next log changes) s
      (.running commits (k (.error e)) next log changes)
  | writeFault {β : Type} {commits : Bool} {f : σ → Except ε σ} {k : Except ε Unit → Script ε σ β}
    {next : Except ε β → Flow ε σ α} {log : Log ε σ} {changes : List (σ × σ)} {e : ε}
    (he : ρ.fault e) :
    Move ρ free s (.running commits (.write f k) next log changes) s
      (.running commits (k (.error e)) next log changes)
  | rollback {β : Type} {commits : Bool} {k : Script ε σ β} {next : Except ε β → Flow ε σ α}
    {log : Log ε σ} {changes : List (σ × σ)} :
    Move ρ free s (.running commits (.rollback k) next log changes) s
      (.running commits k next [] [])
  | commit {β : Type} {a : β} {next : Except ε β → Flow ε σ α} {log : Log ε σ}
    {changes : List (σ × σ)} {s' : σ} (hv : replay log s = .ok s') :
    Move ρ free s (.running true (.done (.ok a)) next log changes) s' (.idle (next (.ok a)))
  | commitFault {β : Type} {a : β} {next : Except ε β → Flow ε σ α} {log : Log ε σ}
    {changes : List (σ × σ)} {e : ε} (he : ρ.fault e) :
    Move ρ free s (.running true (.done (.ok a)) next log changes) s (.idle (next (.error e)))
  | close {β : Type} {a : β} {next : Except ε β → Flow ε σ α} {log : Log ε σ}
    {changes : List (σ × σ)} :
    Move ρ free s (.running false (.done (.ok a)) next log changes) s (.idle (next (.ok a)))
  | raise {β : Type} {commits : Bool} {e : ε} {next : Except ε β → Flow ε σ α} {log : Log ε σ}
    {changes : List (σ × σ)} :
    Move ρ free s (.running commits (.done (.error e)) next log changes) s
      (.idle (next (.error e)))

/-- A step under other rules, which allow as much. -/
theorem Thread.Move.weaken {ρ ρ' : Rules ε σ} {free free' : σ → σ → Prop} {s s' : σ}
    {t t' : Thread ε σ α} (h : t.Move ρ free s s' t') (hfault : ∀ e, ρ.fault e → ρ'.fault e)
    (hguard : ∀ f v, ρ.guard f v → ρ'.guard f v) (hfree : ∀ v v', free v v' → free' v v') :
    t.Move ρ' free' s s' t' := by
  cases h with
  | start => exact .start
  | read hv hg => exact .read hv (hguard _ _ hg)
  | write hv hf hw hg => exact .write hv hf (hfree _ _ hw) (hguard _ _ hg)
  | refuse hv hf => exact .refuse hv hf
  | readFault he => exact .readFault (hfault _ he)
  | writeFault he => exact .writeFault (hfault _ he)
  | rollback => exact .rollback
  | commit hv => exact .commit hv
  | commitFault he => exact .commitFault (hfault _ he)
  | close => exact .close
  | raise => exact .raise

/-! ## The effect of a step -/

/-- What a step does to the store, the log and the changes. -/
inductive Thread.Effect (ρ : Rules ε σ) (S : (σ → Except ε σ) → Prop) (free : σ → σ → Prop) (s : σ)
    (t : Thread ε σ α) : σ → Thread ε σ α → Prop
  | quiet {t' : Thread ε σ α} (hl : t'.log = t.log) (hc : t'.changes = t.changes) :
    Effect ρ S free s t s t'
  | cleared {t' : Thread ε σ α} (hl : t'.log = []) (hc : t'.changes = []) : Effect ρ S free s t s t'
  | wrote {t' : Thread ε σ α} {f : σ → Except ε σ} {v v' : σ} (hf : S f)
    (hv : replay t.log s = .ok v) (hw : f v = .ok v') (hfree : free v v')
    (hg : ρ.guard (.write f) v) (hl : t'.log = t.log ++ [f])
    (hc : t'.changes = t.changes ++ [(v, v')]) : Effect ρ S free s t s t'
  | committed {t' : Thread ε σ α} {s' : σ} (hv : replay t.log s = .ok s') (hl : t'.log = [])
    (hc : t'.changes = []) : Effect ρ S free s t s' t'

theorem Thread.Only.move {S : (σ → Except ε σ) → Prop} {R : Prop} {ρ : Rules ε σ}
    {free : σ → σ → Prop} {s s' : σ} {t t' : Thread ε σ α} (h : t.Only S R)
    (hm : t.Move ρ free s s' t') : t'.Only S R ∧ t.Effect ρ S free s s' t' := by
  cases hm with
  | start => exact ⟨h, .quiet rfl rfl⟩
  | read _ _ => exact ⟨⟨h.1 _, h.2⟩, .quiet rfl rfl⟩
  | write hv hw hfree hg => exact ⟨⟨h.1.2 _, h.2⟩, .wrote h.1.1 hv hw hfree hg rfl rfl⟩
  | refuse _ _ => exact ⟨⟨h.1.2 _, h.2⟩, .quiet rfl rfl⟩
  | readFault _ => exact ⟨⟨h.1 _, h.2⟩, .quiet rfl rfl⟩
  | writeFault _ => exact ⟨⟨h.1.2 _, h.2⟩, .quiet rfl rfl⟩
  | rollback => exact ⟨⟨h.1.2, h.2⟩, .cleared rfl rfl⟩
  | commit hv => exact ⟨h.2 _, .committed hv rfl rfl⟩
  | commitFault _ => exact ⟨h.2 _, .cleared rfl rfl⟩
  | close => exact ⟨h.2 _, .cleared rfl rfl⟩
  | raise => exact ⟨h.2 _, .cleared rfl rfl⟩

/-- Threads and the store that they have committed. -/
structure Pool (ι ε σ α : Type) : Type 1 where
  store : σ
  threads : ι → Thread ε σ α

namespace Pool

/-- All threads at the start of their flows. -/
def start (s : σ) (flows : ι → Flow ε σ α) : Pool ι ε σ α := ⟨s, fun i => .idle (flows i)⟩

/-- A change of what `locks` says of it does not touch what the other threads have changed. -/
def Free (locks : σ → σ → L → Prop) (y : Pool ι ε σ α) (i : ι) (v v' : σ) : Prop :=
  ∀ j, j ≠ i → ∀ x ∈ (y.threads j).changes, ∀ l, locks x.1 x.2 l → ¬locks v v' l

variable [DecidableEq ι]

def set (y : Pool ι ε σ α) (s : σ) (i : ι) (t : Thread ε σ α) : Pool ι ε σ α :=
  ⟨s, Function.update y.threads i t⟩

/-- A step of one of the threads. -/
inductive Step (ρ : Rules ε σ) (locks : σ → σ → L → Prop) (y : Pool ι ε σ α) : Pool ι ε σ α → Prop
  | move {i : ι} {s' : σ} {t' : Thread ε σ α}
    (h : (y.threads i).Move ρ (y.Free locks i) y.store s' t') : Step ρ locks y (y.set s' i t')

/-- The states that some run from `y` reaches. -/
def Reaches (ρ : Rules ε σ) (locks : σ → σ → L → Prop) :
    Pool ι ε σ α → Pool ι ε σ α → Prop :=
  Relation.ReflTransGen (Step ρ locks)

/-- No two threads have changed the same row. -/
def Exclusive (locks : σ → σ → L → Prop) (y : Pool ι ε σ α) : Prop :=
  ∀ i j, i ≠ j → ∀ x ∈ (y.threads i).changes, ∀ x' ∈ (y.threads j).changes, ∀ l,
    locks x.1 x.2 l → ¬locks x'.1 x'.2 l

/-- The changes of the thread that has moved are its own before, or are free. -/
theorem Exclusive.set {locks : σ → σ → L → Prop} {y : Pool ι ε σ α} (h : y.Exclusive locks) {i : ι}
    {s' : σ} {t' : Thread ε σ α}
    (ht : ∀ x ∈ t'.changes, x ∈ (y.threads i).changes ∨ y.Free locks i x.1 x.2) :
    (y.set s' i t').Exclusive locks := by
  have hone : ∀ j, j ≠ i → ∀ x ∈ t'.changes, ∀ x' ∈ (y.threads j).changes, ∀ l,
      locks x.1 x.2 l → ¬locks x'.1 x'.2 l := by
    intro j hj x hx x' hx' l hl hl'
    rcases ht x hx with hx | hfree
    · exact h i j (Ne.symm hj) x hx x' hx' l hl hl'
    · exact hfree j hj x' hx' l hl' hl
  intro j k hjk x hx x' hx' l hl hl'
  change x ∈ (Function.update y.threads i t' j).changes at hx
  change x' ∈ (Function.update y.threads i t' k).changes at hx'
  by_cases hj : j = i
  · subst hj
    rw [Function.update_self] at hx
    rw [Function.update_of_ne (Ne.symm hjk)] at hx'
    exact hone k (Ne.symm hjk) x hx x' hx' l hl hl'
  · rw [Function.update_of_ne hj] at hx
    by_cases hk : k = i
    · subst hk
      rw [Function.update_self] at hx'
      exact hone j hj x' hx' x hx l hl' hl
    · rw [Function.update_of_ne hk] at hx'
      exact h j k hjk x hx x' hx' l hl hl'

theorem Exclusive.effect {ρ : Rules ε σ} {S : (σ → Except ε σ) → Prop}
    {locks : σ → σ → L → Prop} {y : Pool ι ε σ α} (h : y.Exclusive locks) {i : ι} {s' : σ}
    {t' : Thread ε σ α} (he : (y.threads i).Effect ρ S (y.Free locks i) y.store s' t') :
    (y.set s' i t').Exclusive locks := by
  refine h.set fun x hx => ?_
  cases he with
  | quiet _ hc =>
    rw [hc] at hx
    exact .inl hx
  | cleared _ hc =>
    rw [hc] at hx
    cases hx
  | wrote _ _ _ hfree _ _ hc =>
    rw [hc] at hx
    rcases List.mem_append.1 hx with hx | hx
    · exact .inl hx
    · rw [List.mem_singleton.1 hx]
      exact .inr hfree
  | committed _ _ hc =>
    rw [hc] at hx
    cases hx

theorem Reaches.invariant {ρ : Rules ε σ} {locks : σ → σ → L → Prop} {P : Pool ι ε σ α → Prop}
    (hstep : ∀ y y', P y → Step ρ locks y y' → P y') {y y' : Pool ι ε σ α}
    (h : Reaches ρ locks y y') (h0 : P y) : P y' := by
  induction h with
  | refl => exact h0
  | tail _ hs ih => exact hstep _ _ ih hs

end Pool

/-! ## Rules -/

/-- What a thread relies on: how the commits of the others change the store; and what it promises
of its own. -/
structure Party (σ : Type) where
  rely : σ → σ → Prop
  guar : σ → σ → Prop
  refl : ∀ s, rely s s
  trans : ∀ {a b c}, rely a b → rely b c → rely a c

section
variable (ρ : Rules ε σ) (inv : σ → Prop) (π : Party σ)

/-- The session ends with `Q`, of its result, its log and the committed store. -/
def Script.Meets (Q : Except ε α → Log ε σ → σ → Prop) : Script ε σ α → Log ε σ → σ → Prop
  | done r, l, s => ∀ s', π.rely s s' → inv s' → Q r l s'
  | read f k, l, s => ∀ s', π.rely s s' → inv s' →
    (∀ v, replay l s' = .ok v → ρ.guard (.read f) v → (k (.ok (f v))).Meets Q l s') ∧
      ∀ e, ρ.fault e → (k (.error e)).Meets Q l s'
  | write f k, l, s => ∀ s', π.rely s s' → inv s' →
    (∀ v, replay l s' = .ok v →
      (∀ v', f v = .ok v' → ρ.guard (.write f) v → (k (.ok ())).Meets Q (l ++ [f]) s') ∧
        ∀ e, f v = .error e → (k (.error e)).Meets Q l s') ∧
      ∀ e, ρ.fault e → (k (.error e)).Meets Q l s'
  | rollback k, _, s => ∀ s', π.rely s s' → inv s' → k.Meets Q [] s'

/-- What follows the end of a session, which commits its log if it is to. -/
def Ends : Bool → (Except ε β → σ → Prop) → Except ε β → Log ε σ → σ → Prop
  | _, next, .error e, _, s => next (.error e) s
  | false, next, .ok a, _, s => next (.ok a) s
  | true, next, .ok a, l, s =>
    (∀ s', replay l s = .ok s' → inv s' ∧ π.guar s s' ∧ next (.ok a) s') ∧
      ∀ e, ρ.fault e → next (.error e) s

/-- The flow ends with `P`, of its result and the committed store. -/
def Flow.Meets (P : Except ε α → σ → Prop) : Flow ε σ α → σ → Prop
  | done r, s => ∀ s', π.rely s s' → inv s' → P r s'
  | session commits body next, s =>
    body.Meets ρ inv π (Ends ρ inv π commits fun r s => (next r).Meets P s) [] s

def Thread.Meets (P : Except ε α → σ → Prop) : Thread ε σ α → σ → Prop
  | idle flow, s => flow.Meets ρ inv π P s
  | running commits script next log _, s =>
    script.Meets ρ inv π (Ends ρ inv π commits fun r s => (next r).Meets ρ inv π P s) log s

end

section
variable {ρ : Rules ε σ} {inv : σ → Prop} {π : Party σ}

/-! ### Sessions -/

namespace Script

variable {Q Q' : Except ε α → Log ε σ → σ → Prop} {c : Script ε σ α} {l : Log ε σ} {s : σ}

/-- The others do not disturb. -/
theorem Meets.stable (h : c.Meets ρ inv π Q l s) {s' : σ} (hs : π.rely s s') :
    c.Meets ρ inv π Q l s' := by
  cases c with
  | done r => exact fun s'' h' => h s'' (π.trans hs h')
  | read f k => exact fun s'' h' => h s'' (π.trans hs h')
  | write f k => exact fun s'' h' => h s'' (π.trans hs h')
  | rollback k => exact fun s'' h' => h s'' (π.trans hs h')

/-- The rules are about stores with the invariant, and may be shown at a later one. -/
theorem meets_of_later (h : ∀ s', π.rely s s' → inv s' → c.Meets ρ inv π Q l s') :
    c.Meets ρ inv π Q l s := by
  cases c with
  | done r => exact fun s' hr hi => h s' hr hi s' (π.refl s') hi
  | read f k => exact fun s' hr hi => h s' hr hi s' (π.refl s') hi
  | write f k => exact fun s' hr hi => h s' hr hi s' (π.refl s') hi
  | rollback k => exact fun s' hr hi => h s' hr hi s' (π.refl s') hi

theorem Meets.mono (hQ : ∀ r l s, inv s → Q r l s → Q' r l s) :
    ∀ {c : Script ε σ α} {l : Log ε σ} {s : σ}, c.Meets ρ inv π Q l s → c.Meets ρ inv π Q' l s
  | done _, _, _, h => fun s' hr hi => hQ _ _ _ hi (h s' hr hi)
  | read _ _, _, _, h => fun s' hr hi =>
    ⟨fun v hv hg => ((h s' hr hi).1 v hv hg).mono hQ, fun e he => ((h s' hr hi).2 e he).mono hQ⟩
  | write _ _, _, _, h => fun s' hr hi =>
    ⟨fun v hv => ⟨fun v' hf hg => (((h s' hr hi).1 v hv).1 v' hf hg).mono hQ,
      fun e hf => (((h s' hr hi).1 v hv).2 e hf).mono hQ⟩,
      fun e he => ((h s' hr hi).2 e he).mono hQ⟩
  | rollback _, _, _, h => fun s' hr hi => (h s' hr hi).mono hQ

/-- One session after the other. -/
theorem Meets.andThen {next : Except ε α → Script ε σ β} {P : Except ε β → Log ε σ → σ → Prop} :
    ∀ {c : Script ε σ α} {l : Log ε σ} {s : σ},
      c.Meets ρ inv π (fun r l s => (next r).Meets ρ inv π P l s) l s →
        (c.andThen next).Meets ρ inv π P l s
  | done _, _, _, h => meets_of_later h
  | read _ _, _, _, h => fun s' hr hi =>
    ⟨fun v hv hg => ((h s' hr hi).1 v hv hg).andThen, fun e he => ((h s' hr hi).2 e he).andThen⟩
  | write _ _, _, _, h => fun s' hr hi =>
    ⟨fun v hv => ⟨fun v' hf hg => (((h s' hr hi).1 v hv).1 v' hf hg).andThen,
      fun e hf => (((h s' hr hi).1 v hv).2 e hf).andThen⟩,
      fun e he => ((h s' hr hi).2 e he).andThen⟩
  | rollback _, _, _, h => fun s' hr hi => (h s' hr hi).andThen

/-- A session that ends with anything. -/
theorem meets_of_post (hQ : ∀ r l s, Q r l s) : ∀ (c : Script ε σ α) (l : Log ε σ) (s : σ),
    c.Meets ρ inv π Q l s
  | done _, _, _ => fun _ _ _ => hQ _ _ _
  | read _ k, _, _ => fun _ _ _ =>
    ⟨fun _ _ _ => meets_of_post hQ (k _) _ _, fun _ _ => meets_of_post hQ (k _) _ _⟩
  | write _ k, _, _ => fun _ _ _ =>
    ⟨fun _ _ => ⟨fun _ _ _ => meets_of_post hQ (k _) _ _, fun _ _ => meets_of_post hQ (k _) _ _⟩,
      fun _ _ => meets_of_post hQ (k _) _ _⟩
  | rollback k, _, _ => fun _ _ _ => meets_of_post hQ k _ _

/-- A session of statements that keep a property of the log. -/
theorem Only.meets {S : (σ → Except ε σ) → Prop} {R : Prop} {J : Log ε σ → Prop}
    (hS : ∀ f l, S f → J l → J (l ++ [f])) (hR : R → J []) :
    ∀ {c : Script ε σ α} {l : Log ε σ} {s : σ}, c.Only S R → J l →
      c.Meets ρ inv π (fun _ l _ => J l) l s
  | done _, _, _, _, hl => fun _ _ _ => hl
  | read _ _, _, _, hc, hl => fun _ _ _ =>
    ⟨fun _ _ _ => (hc _).meets hS hR hl, fun _ _ => (hc _).meets hS hR hl⟩
  | write _ _, _, _, hc, hl => fun _ _ _ =>
    ⟨fun _ _ => ⟨fun _ _ _ => (hc.2 _).meets hS hR (hS _ _ hc.1 hl),
      fun _ _ => (hc.2 _).meets hS hR hl⟩, fun _ _ => (hc.2 _).meets hS hR hl⟩
  | rollback _, _, _, hc, _ => fun _ _ _ => hc.2.meets hS hR (hR hc.1)

end Script

namespace Code

variable {S : (σ → Except ε σ) → Prop} {R : Prop} {Q : Except ε α → Log ε σ → σ → Prop}
  {l : Log ε σ} {s : σ}

theorem meets_seq {p : Prog ε (Conn σ) β} {k : β → Prog ε (Conn σ) α} {hp : Code S R p}
    {hk : ∀ a, Code S R (k a)}
    (h : hp.script.Meets ρ inv π
      (fun r l s => (Script.onOk (fun a => (hk a).script) r).Meets ρ inv π Q l s) l s) :
    (seq hp hk).script.Meets ρ inv π Q l s := by
  rw [script]
  exact h.andThen

theorem meets_select_seq {f : σ → β} {k : β → Prog ε (Conn σ) α} {hk : ∀ a, Code S R (k a)}
    (h : ∀ s', π.rely s s' → inv s' →
      (∀ v, replay l s' = .ok v → ρ.guard (.read f) v → (hk (f v)).script.Meets ρ inv π Q l s') ∧
        ∀ e, ρ.fault e → ∀ s'', π.rely s' s'' → inv s'' → Q (.error e) l s'') :
    (seq (.select f) hk).script.Meets ρ inv π Q l s := by
  rw [script]
  exact h

theorem meets_execute_seq {f : σ → Except ε σ} {hS : S f} {k : Unit → Prog ε (Conn σ) α}
    {hk : ∀ a, Code S R (k a)}
    (h : ∀ s', π.rely s s' → inv s' →
      (∀ v, replay l s' = .ok v →
        (∀ v', f v = .ok v' → ρ.guard (.write f) v → (hk ()).script.Meets ρ inv π Q (l ++ [f]) s') ∧
          ∀ e, f v = .error e → ∀ s'', π.rely s' s'' → inv s'' → Q (.error e) l s'') ∧
        ∀ e, ρ.fault e → ∀ s'', π.rely s' s'' → inv s'' → Q (.error e) l s'') :
    (seq (.execute hS) hk).script.Meets ρ inv π Q l s := by
  rw [script]
  exact h

section
variable (hQ : ∀ e l s, Q (.error e) l s)
include hQ

/-- The rule of sequences where every exception will do. -/
theorem meets_seq_ok {p : Prog ε (Conn σ) β} {k : β → Prog ε (Conn σ) α} {hp : Code S R p}
    {hk : ∀ a, Code S R (k a)}
    (h : hp.script.Meets ρ inv π
      (fun r l s => ∀ a, r = .ok a → (hk a).script.Meets ρ inv π Q l s) l s) :
    (seq hp hk).script.Meets ρ inv π Q l s := by
  refine meets_seq (h.mono fun r l s _ hr => ?_)
  cases r with
  | ok a => exact hr a rfl
  | error e => exact fun s' _ _ => hQ e l s'

theorem meets_select_seq_ok {f : σ → β} {k : β → Prog ε (Conn σ) α} {hk : ∀ a, Code S R (k a)}
    (h : ∀ s', π.rely s s' → inv s' → ∀ v, replay l s' = .ok v → ρ.guard (.read f) v →
      (hk (f v)).script.Meets ρ inv π Q l s') :
    (seq (.select f) hk).script.Meets ρ inv π Q l s :=
  meets_select_seq fun s' hr hi => ⟨h s' hr hi, fun e _ s'' _ _ => hQ e l s''⟩

theorem meets_execute_seq_ok {f : σ → Except ε σ} {hS : S f} {k : Unit → Prog ε (Conn σ) α}
    {hk : ∀ a, Code S R (k a)}
    (h : ∀ s', π.rely s s' → inv s' → ∀ v, replay l s' = .ok v → ∀ v', f v = .ok v' →
      ρ.guard (.write f) v → (hk ()).script.Meets ρ inv π Q (l ++ [f]) s') :
    (seq (.execute hS) hk).script.Meets ρ inv π Q l s :=
  meets_execute_seq fun s' hr hi =>
    ⟨fun v hv => ⟨h s' hr hi v hv, fun e _ s'' _ _ => hQ e l s''⟩, fun e _ s'' _ _ => hQ e l s''⟩

end

theorem meets_cond {c : Prop} [Decidable c] {p q : Prog ε (Conn σ) α} {hp : c → Code S R p}
    {hq : ¬c → Code S R q} (h : ∀ h, (hp h).script.Meets ρ inv π Q l s)
    (h' : ∀ h, (hq h).script.Meets ρ inv π Q l s) :
    (cond hp hq).script.Meets ρ inv π Q l s := by
  rw [script]
  split
  · exact h _
  · exact h' _

end Code

/-! ### Flows -/

namespace Flow

variable {P P' : Except ε α → σ → Prop} {w : Flow ε σ α} {s : σ}

theorem Meets.stable (h : w.Meets ρ inv π P s) {s' : σ} (hs : π.rely s s') :
    w.Meets ρ inv π P s' := by
  cases w with
  | done r => exact fun s'' h' => h s'' (π.trans hs h')
  | session commits body next => exact Script.Meets.stable h hs

theorem meets_of_later (h : ∀ s', π.rely s s' → inv s' → w.Meets ρ inv π P s') :
    w.Meets ρ inv π P s := by
  cases w with
  | done r => exact fun s' hr hi => h s' hr hi s' (π.refl s') hi
  | session commits body next => exact Script.meets_of_later h

theorem ends_mono {commits : Bool} {next next' : Except ε β → σ → Prop}
    (hn : ∀ r s, inv s → next r s → next' r s) (r : Except ε β) (l : Log ε σ) (s : σ)
    (hi : inv s) (h : Ends ρ inv π commits next r l s) : Ends ρ inv π commits next' r l s := by
  cases r with
  | error e => cases commits <;> exact hn _ _ hi h
  | ok a =>
    cases commits with
    | false => exact hn _ _ hi h
    | true =>
      refine ⟨fun s' hs => ?_, fun e he => hn _ _ hi (h.2 e he)⟩
      obtain ⟨hi', hg, hnext⟩ := h.1 s' hs
      exact ⟨hi', hg, hn _ _ hi' hnext⟩

theorem Meets.andThen {next : Except ε α → Flow ε σ β} {P : Except ε β → σ → Prop} :
    ∀ {w : Flow ε σ α} {s : σ}, w.Meets ρ inv π (fun r s => (next r).Meets ρ inv π P s) s →
      (w.andThen next).Meets ρ inv π P s
  | done _, _, h => meets_of_later h
  | session _ _ _, _, h => Script.Meets.mono (ends_mono fun _ _ _ h => h.andThen) h

theorem Meets.mono (hP : ∀ r s, inv s → P r s → P' r s) : ∀ {w : Flow ε σ α} {s : σ},
    w.Meets ρ inv π P s → w.Meets ρ inv π P' s
  | done _, _, h => fun s' hr hi => hP _ _ hi (h s' hr hi)
  | session _ _ _, _, h => Script.Meets.mono (ends_mono fun _ _ _ h => h.mono hP) h

/-- A flow whose sessions may all be committed. -/
theorem Only.meets {S : (σ → Except ε σ) → Prop} {R : Prop} {J : Log ε σ → Prop}
    (hS : ∀ f l, S f → J l → J (l ++ [f])) (hnil : J [])
    (hend : ∀ l s s', inv s → J l → replay l s = .ok s' → inv s' ∧ π.guar s s') :
    ∀ {w : Flow ε σ α} {s : σ}, w.Only S R → w.Meets ρ inv π (fun _ _ => True) s
  | done _, _, _ => fun _ _ _ => trivial
  | session commits _ next, s, h => by
    refine Script.Meets.mono (fun r l s hi hl => ?_) (h.1.meets hS (fun _ => hnil) hnil)
    have hn : ∀ r s, (next r).Meets ρ inv π (fun _ _ => True) s :=
      fun r _ => (h.2 r).meets hS hnil hend
    cases r with
    | error e => cases commits <;> exact hn _ _
    | ok a =>
      cases commits with
      | false => exact hn _ _
      | true =>
        refine ⟨fun s' hs' => ?_, fun e _ => hn _ _⟩
        obtain ⟨hi', hg⟩ := hend l s s' hi hl hs'
        exact ⟨hi', hg, hn _ _⟩

end Flow

namespace FlowCode

variable {S : (σ → Except ε σ) → Prop} {R : Prop} {P : Except ε α → σ → Prop} {s : σ}

theorem meets_session {p : Prog ε (Conn σ) α} {c : Code S R p}
    (h : c.script.Meets ρ inv π
      (Ends ρ inv π true fun r s => ∀ s', π.rely s s' → inv s' → P r s') [] s) :
    (session c).flow.Meets ρ inv π P s := h

theorem meets_reading {p : Prog ε (Conn σ) α} {c : Code S R p}
    (h : c.script.Meets ρ inv π (fun r _ s => ∀ s', π.rely s s' → inv s' → P r s') [] s) :
    (reading c).flow.Meets ρ inv π P s := by
  refine Script.Meets.mono (fun r l s _ hr => ?_) h
  cases r with
  | error e => exact hr
  | ok a => exact hr

theorem meets_attempt {p : Prog ε σ α} {hp : FlowCode S R p} {P : Except ε (Except ε α) → σ → Prop}
    (h : hp.flow.Meets ρ inv π (fun r s => ∀ s', π.rely s s' → inv s' → P (.ok r) s') s) :
    (attempt hp).flow.Meets ρ inv π P s := by
  rw [flow]
  exact h.andThen

theorem meets_seq {p : Prog ε σ β} {k : β → Prog ε σ α} {hp : FlowCode S R p}
    {hk : ∀ a, FlowCode S R (k a)}
    (h : hp.flow.Meets ρ inv π
      (fun r s => (Flow.onOk (fun a => (hk a).flow) r).Meets ρ inv π P s) s) :
    (seq hp hk).flow.Meets ρ inv π P s := by
  rw [flow]
  exact h.andThen

/-- A session whose outcome is looked at. -/
theorem meets_attempt_session_seq {p : Prog ε (Conn σ) β} {c : Code S R p}
    {k : Except ε β → Prog ε σ α} {hk : ∀ o, FlowCode S R (k o)}
    (h : c.script.Meets ρ inv π
      (Ends ρ inv π true fun o s => (hk o).flow.Meets ρ inv π P s) [] s) :
    (seq (attempt (session c)) hk).flow.Meets ρ inv π P s := by
  rw [flow, flow, flow]
  exact h

theorem meets_cond {c : Prop} [Decidable c] {p q : Prog ε σ α} {hp : c → FlowCode S R p}
    {hq : ¬c → FlowCode S R q} (h : ∀ h, (hp h).flow.Meets ρ inv π P s)
    (h' : ∀ h, (hq h).flow.Meets ρ inv π P s) : (cond hp hq).flow.Meets ρ inv π P s := by
  rw [flow]
  split
  · exact h _
  · exact h' _

end FlowCode

/-! ### Pools -/

/-- A step of a thread that meets its rules. -/
theorem Thread.Meets.move {P : Except ε α → σ → Prop} {free : σ → σ → Prop} {s s' : σ}
    {t t' : Thread ε σ α} (h : t.Meets ρ inv π P s) (hi : inv s) (hm : t.Move ρ free s s' t') :
    inv s' ∧ (s' = s ∨ π.guar s s') ∧ t'.Meets ρ inv π P s' := by
  cases hm with
  | start => exact ⟨hi, .inl rfl, h⟩
  | read hv hg => exact ⟨hi, .inl rfl, (h s (π.refl s) hi).1 _ hv hg⟩
  | write hv hf _ hg => exact ⟨hi, .inl rfl, ((h s (π.refl s) hi).1 _ hv).1 _ hf hg⟩
  | refuse hv hf => exact ⟨hi, .inl rfl, ((h s (π.refl s) hi).1 _ hv).2 _ hf⟩
  | readFault he => exact ⟨hi, .inl rfl, (h s (π.refl s) hi).2 _ he⟩
  | writeFault he => exact ⟨hi, .inl rfl, (h s (π.refl s) hi).2 _ he⟩
  | rollback => exact ⟨hi, .inl rfl, h s (π.refl s) hi⟩
  | commit hv =>
    obtain ⟨hi', hg, hn⟩ := (h s (π.refl s) hi).1 s' hv
    exact ⟨hi', .inr hg, hn⟩
  | commitFault he => exact ⟨hi, .inl rfl, (h s (π.refl s) hi).2 _ he⟩
  | close => exact ⟨hi, .inl rfl, h s (π.refl s) hi⟩
  | raise => exact ⟨hi, .inl rfl, h s (π.refl s) hi⟩

theorem Thread.Meets.stable {P : Except ε α → σ → Prop} {s s' : σ} {t : Thread ε σ α}
    (h : t.Meets ρ inv π P s) (hs : π.rely s s') : t.Meets ρ inv π P s' := by
  cases t with
  | idle flow => exact Flow.Meets.stable h hs
  | running commits script next log changes => exact Script.Meets.stable h hs

end

/-- Every thread meets its rules. -/
structure Pool.Meets (ρ : Rules ε σ) (inv : σ → Prop) (π : ι → Party σ)
    (P : ι → Except ε α → σ → Prop) (y : Pool ι ε σ α) : Prop where
  store : inv y.store
  threads : ∀ i, (y.threads i).Meets ρ inv (π i) (P i) y.store

variable {ρ : Rules ε σ} {inv : σ → Prop} {π : ι → Party σ} {P : ι → Except ε α → σ → Prop}

/-- What a finished thread leaves. -/
theorem Pool.Meets.finished {y : Pool ι ε σ α} (h : y.Meets ρ inv π P) {i : ι} {r : Except ε α}
    (hi : y.threads i = .idle (.done r)) : P i r y.store := by
  have ht := h.threads i
  rw [hi] at ht
  exact ht y.store ((π i).refl _) h.store

variable [DecidableEq ι] {locks : σ → σ → L → Prop}

/-- **Threads that do what the others rely on** meet their rules after every step. -/
theorem Pool.Meets.step (hπ : ∀ i j, i ≠ j → ∀ s s', (π i).guar s s' → (π j).rely s s')
    {y y' : Pool ι ε σ α} (h : y.Meets ρ inv π P) (hs : Step ρ locks y y') :
    y'.Meets ρ inv π P := by
  cases hs with
  | @move i s' t' hm =>
    obtain ⟨hi, hg, ht⟩ := (h.threads i).move h.store hm
    refine ⟨hi, fun j => ?_⟩
    show (Function.update y.threads i t' j).Meets ρ inv (π j) (P j) s'
    by_cases hj : j = i
    · subst hj
      rw [Function.update_self]
      exact ht
    · rw [Function.update_of_ne hj]
      rcases hg with rfl | hg
      · exact h.threads j
      · exact (h.threads j).stable (hπ i j (Ne.symm hj) _ _ hg)

theorem Pool.Meets.reaches (hπ : ∀ i j, i ≠ j → ∀ s s', (π i).guar s s' → (π j).rely s s')
    {y y' : Pool ι ε σ α} (h : y.Meets ρ inv π P) (hr : Reaches ρ locks y y') :
    y'.Meets ρ inv π P :=
  hr.invariant (fun _ _ hy hs => hy.step hπ hs) h

/-! ## Runs that can be computed -/

/-- The next step of a thread that no other hinders, without a fault. The store that a statement sees
and the one that it leaves have to pass a check. -/
def Thread.next (check : σ → σ → Bool) (s : σ) : Thread ε σ α → Option (σ × Thread ε σ α)
  | .idle (.done _) => none
  | .idle (.session commits body next) => some (s, .running commits body next [] [])
  | .running commits (.read f k) next log changes =>
    match replay log s with
    | .ok v =>
      if check v v then some (s, .running commits (k (.ok (f v))) next log changes) else none
    | .error _ => none
  | .running commits (.write f k) next log changes =>
    match replay log s with
    | .ok v =>
      match f v with
      | .ok v' =>
        if check v v' then
          some (s, .running commits (k (.ok ())) next (log ++ [f]) (changes ++ [(v, v')]))
        else none
      | .error e => some (s, .running commits (k (.error e)) next log changes)
    | .error _ => none
  | .running commits (.rollback k) next _ _ => some (s, .running commits k next [] [])
  | .running commits (.done (.ok a)) next log _ =>
    if commits then
      match replay log s with
      | .ok s' => some (s', .idle (next (.ok a)))
      | .error _ => none
    else some (s, .idle (next (.ok a)))
  | .running _ (.done (.error e)) next _ _ => some (s, .idle (next (.error e)))

/-- Nothing is ruled out, and nothing fails. -/
def Rules.free : Rules ε σ := ⟨fun _ => False, fun _ _ => True⟩

/-- What passes the check is allowed. -/
structure Rules.Checks (ρ : Rules ε σ) (check : σ → σ → Bool) : Prop where
  read : ∀ {β : Type} (f : σ → β) v, check v v = true → ρ.guard (.read f) v
  write : ∀ f v v', f v = .ok v' → check v v' = true → ρ.guard (.write f) v

theorem Rules.free_checks : (Rules.free : Rules ε σ).Checks fun _ _ => true :=
  ⟨fun _ _ _ => trivial, fun _ _ _ _ _ => trivial⟩

theorem Thread.next_move {ρ : Rules ε σ} {check : σ → σ → Bool} (hρ : ρ.Checks check) {s s' : σ}
    {t t' : Thread ε σ α} {free : σ → σ → Prop} (hfree : ∀ v v', free v v')
    (h : t.next check s = some (s', t')) : t.Move ρ free s s' t' := by
  unfold Thread.next at h
  split at h
  · cases h
  · cases h
    exact .start
  · split at h
    · split at h <;> cases h
      exact .read (by assumption) (hρ.read _ _ (by assumption))
    · cases h
  · split at h
    · split at h
      · rename_i hf
        split at h <;> cases h
        exact .write (by assumption) hf (hfree _ _) (hρ.write _ _ _ hf (by assumption))
      · cases h
        exact .refuse (by assumption) (by assumption)
    · cases h
  · cases h
    exact .rollback
  · split at h
    · rename_i hc
      subst hc
      split at h <;> cases h
      exact .commit (by assumption)
    · rename_i hc
      rw [Bool.not_eq_true] at hc
      subst hc
      cases h
      exact .close
  · cases h
    exact .raise

/-- `n` steps of the thread `i`, as long as the other one has changed nothing. -/
def Pool.advance (check : σ → σ → Bool) (i : Bool) : Nat → Pool Bool ε σ α → Option (Pool Bool ε σ α)
  | 0, y => some y
  | n + 1, y =>
    if (y.threads (!i)).changes.isEmpty then
      match (y.threads i).next check y.store with
      | some (s', t') => (y.set s' i t').advance check i n
      | none => some y
    else none

theorem Pool.advance_reaches {ρ : Rules ε σ} {check : σ → σ → Bool} (hρ : ρ.Checks check)
    (locks : σ → σ → L → Prop) (i : Bool) : ∀ (n : Nat) {y y' : Pool Bool ε σ α},
      y.advance check i n = some y' → Reaches ρ locks y y'
  | 0, y, y', h => by
    cases h
    exact .refl
  | n + 1, y, y', h => by
    unfold advance at h
    split at h
    · rename_i hq
      split at h
      · rename_i s' t' hn
        have hfree : ∀ v v', y.Free locks i v v' := by
          intro v v' j hj x hx
          have hji : j = !i := Bool.eq_not_of_ne hj
          subst hji
          rw [List.isEmpty_iff.1 hq] at hx
          cases hx
        exact Relation.ReflTransGen.head ⟨Thread.next_move hρ hfree hn⟩
          (advance_reaches hρ locks i n h)
      · cases h
        exact .refl
    · cases h

/-- Turns of the threads, one after the other: each takes up to a number of steps. -/
def Pool.turns (check : σ → σ → Bool) : List (Bool × Nat) → Pool Bool ε σ α →
    Option (Pool Bool ε σ α)
  | [], y => some y
  | (i, n) :: rest, y => (y.advance check i n).bind (turns check rest)

theorem Pool.turns_reaches {ρ : Rules ε σ} {check : σ → σ → Bool} (hρ : ρ.Checks check)
    (locks : σ → σ → L → Prop) : ∀ (schedule : List (Bool × Nat)) {y y' : Pool Bool ε σ α},
      y.turns check schedule = some y' → Reaches ρ locks y y'
  | [], y, y', h => by
    cases h
    exact .refl
  | (i, n) :: rest, y, y', h => by
    obtain ⟨y1, h1, h2⟩ := Option.bind_eq_some_iff.1 h
    exact (advance_reaches hρ locks i n h1).trans (turns_reaches hρ locks rest h2)

end Sql
