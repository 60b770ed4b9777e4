import Mathlib.Tactic.Common

/-!
# Programs over a transactional store

`Prog ε σ α` is a program that runs statements against a store `σ`, raises exceptions `ε` and
returns an `α`. A run is given a *fault schedule*, one entry for each statement it will execute:
`some e` makes that statement fail with `e`, and when the schedule is used up nothing fails any
more. `session` runs a body on a working copy of the store and commits it, so that a body or a
commit that fails leaves the store as it was.

Programs are used in two ways:

* `p.Yields F s r s'`: under some schedule of faults in `F`, `p` takes `s` to `s'` with result `r`.
  The `yields_*` lemmas take such a run apart, statement by statement.
* `p.eval s`: the run without faults, with its `eval_*` equations; it is a run with faults in no
  set at all (`yields_eval`).
-/

namespace Sql

/-- What a run leaves: its result, the store and the rest of the schedule. -/
structure Run (ε σ α : Type) where
  result : Except ε α
  state : σ
  faults : List (Option ε)

/-- A program; what it leaves of its schedule is the end of the schedule. -/
structure Prog (ε σ α : Type) where
  run : List (Option ε) → σ → Run ε σ α
  suffix : ∀ fs s, (run fs s).faults <:+ fs

/-- An open session: the committed store, and the store as the session sees it. -/
structure Conn (σ : Type) where
  base : σ
  work : σ

variable {ε σ α β : Type}

namespace Prog

/-! ## Constructors -/

/-- Return `a`. -/
protected def pure (a : α) : Prog ε σ α := ⟨fun fs s => ⟨.ok a, s, fs⟩, fun _ _ => List.suffix_rfl⟩

/-- Run `p`, then `k` on what it returns. -/
protected def bind (p : Prog ε σ α) (k : α → Prog ε σ β) : Prog ε σ β where
  run fs s :=
    match p.run fs s with
    | ⟨.ok a, s', fs'⟩ => (k a).run fs' s'
    | ⟨.error e, s', fs'⟩ => ⟨.error e, s', fs'⟩
  suffix fs s := by
    have hp := p.suffix fs s
    split
    · rename_i a s' fs' h
      rw [h] at hp
      exact ((k a).suffix fs' s').trans hp
    · rename_i h
      rwa [h] at hp

instance : Monad (Prog ε σ) where
  pure := Prog.pure
  bind := Prog.bind

/-- Raise `e`. -/
def throw (e : ε) : Prog ε σ α := ⟨fun fs s => ⟨.error e, s, fs⟩, fun _ _ => List.suffix_rfl⟩

/-- Run `p` and return its result, whether it is a value or an exception. -/
def attempt (p : Prog ε σ α) : Prog ε σ (Except ε α) where
  run fs s := ⟨.ok (p.run fs s).result, (p.run fs s).state, (p.run fs s).faults⟩
  suffix fs s := p.suffix fs s

/-- Run `p`, raising `f e` where it raises `e`. -/
def mapError (f : ε → ε) (p : Prog ε σ α) : Prog ε σ α where
  run fs s := ⟨(p.run fs s).result.mapError f, (p.run fs s).state, (p.run fs s).faults⟩
  suffix fs s := p.suffix fs s

/-- One statement: it uses up an entry of the schedule, and fails if the entry says so. -/
def stmt (f : σ → Except ε (α × σ)) : Prog ε σ α where
  run fs s :=
    match fs.head?.join with
    | some e => ⟨.error e, s, fs.tail⟩
    | none =>
      match f s with
      | .ok (a, s') => ⟨.ok a, s', fs.tail⟩
      | .error e => ⟨.error e, s, fs.tail⟩
  suffix fs s := by
    split
    · exact List.tail_suffix fs
    · split <;> exact List.tail_suffix fs

/-- Read from the session's view of the store. -/
def select (f : σ → α) : Prog ε (Conn σ) α := stmt fun c => .ok (f c.work, c)

/-- A statement that changes the session's view of the store, or violates a constraint. -/
def execute (f : σ → Except ε σ) : Prog ε (Conn σ) Unit :=
  stmt fun c => (f c.work).map fun w => ((), { c with work := w })

/-- Read the store outside a session. -/
def query (f : σ → α) : Prog ε σ α := stmt fun s => .ok (f s, s)

/-- A statement outside a session, committed by itself. -/
def autocommit (f : σ → Except ε σ) : Prog ε σ Unit := stmt fun s => (f s).map fun s' => ((), s')

/-- Give up what the session has done so far. -/
def rollback : Prog ε (Conn σ) Unit :=
  ⟨fun fs c => ⟨.ok (), { c with work := c.base }, fs⟩, fun _ _ => List.suffix_rfl⟩

/-- Run `body` in a session of its own and commit it. -/
def session (body : Prog ε (Conn σ) α) : Prog ε σ α where
  run fs s :=
    match body.run fs ⟨s, s⟩ with
    | ⟨.error e, _, fs'⟩ => ⟨.error e, s, fs'⟩
    | ⟨.ok a, c, fs'⟩ =>
      match fs'.head?.join with
      | some e => ⟨.error e, s, fs'.tail⟩
      | none => ⟨.ok a, c.work, fs'.tail⟩
  suffix fs s := by
    have hb := body.suffix fs ⟨s, s⟩
    split
    · rename_i h
      rwa [h] at hb
    · rename_i fs' h
      rw [h] at hb
      split <;> exact (List.tail_suffix fs').trans hb

/-- Run `body` in a session that is closed without a commit. -/
def reading (body : Prog ε (Conn σ) α) : Prog ε σ α where
  run fs s := ⟨(body.run fs ⟨s, s⟩).result, s, (body.run fs ⟨s, s⟩).faults⟩
  suffix fs s := body.suffix fs ⟨s, s⟩

/-! ## Runs under some schedule -/

/-- Under some schedule of faults in `F`, `p` takes `s` to `s'` with result `r`. -/
def Yields (F : ε → Prop) (p : Prog ε σ α) (s : σ) (r : Except ε α) (s' : σ) : Prop :=
  ∃ fs fs', (∀ e, some e ∈ fs → F e) ∧ p.run fs s = ⟨r, s', fs'⟩

section
variable {F : ε → Prop}

theorem yields_pure {a : α} {s s' : σ} {r : Except ε α}
    (h : (pure a : Prog ε σ α).Yields F s r s') : r = .ok a ∧ s' = s := by
  obtain ⟨fs, fs', -, h⟩ := h
  cases h
  exact ⟨rfl, rfl⟩

theorem yields_throw {e : ε} {s s' : σ} {r : Except ε α}
    (h : (throw e : Prog ε σ α).Yields F s r s') : r = .error e ∧ s' = s := by
  obtain ⟨fs, fs', -, h⟩ := h
  cases h
  exact ⟨rfl, rfl⟩

/-- A run of `p >>= k` is a run of `p` that raises, or one of `p` followed by one of `k`. -/
theorem yields_bind {p : Prog ε σ α} {k : α → Prog ε σ β} {s s' : σ} {r : Except ε β}
    (h : (p >>= k).Yields F s r s') :
    (∃ e, p.Yields F s (.error e) s' ∧ r = .error e) ∨
      ∃ a s1, p.Yields F s (.ok a) s1 ∧ (k a).Yields F s1 r s' := by
  obtain ⟨fs, fs', hF, h⟩ := h
  have hs := p.suffix fs s
  change (Prog.bind p k).run fs s = _ at h
  unfold Prog.bind at h
  rcases hp : p.run fs s with ⟨_ | a, s1, fs1⟩ <;> simp only [hp] at h hs
  · cases h
    exact .inl ⟨_, ⟨_, _, hF, hp⟩, rfl⟩
  · exact .inr ⟨_, _, ⟨_, _, hF, hp⟩, ⟨_, _, fun e he => hF e (hs.subset he), h⟩⟩

/-- A run of `p >>= k` that returns is a run of `p` that returns, followed by one of `k`. -/
theorem yields_bind_ok {p : Prog ε σ α} {k : α → Prog ε σ β} {s s' : σ} {b : β}
    (h : (p >>= k).Yields F s (.ok b) s') :
    ∃ a s1, p.Yields F s (.ok a) s1 ∧ (k a).Yields F s1 (.ok b) s' := by
  rcases yields_bind h with ⟨e, _, he⟩ | h
  · cases he
  · exact h

theorem yields_attempt {p : Prog ε σ α} {s s' : σ} {r : Except ε (Except ε α)}
    (h : (attempt p).Yields F s r s') : ∃ r', r = .ok r' ∧ p.Yields F s r' s' := by
  obtain ⟨fs, fs', hF, h⟩ := h
  cases h
  exact ⟨_, rfl, fs, _, hF, rfl⟩

theorem yields_mapError {f : ε → ε} {p : Prog ε σ α} {s s' : σ} {r : Except ε α}
    (h : (mapError f p).Yields F s r s') : ∃ r', p.Yields F s r' s' ∧ r = r'.mapError f := by
  obtain ⟨fs, fs', hF, h⟩ := h
  cases h
  exact ⟨_, ⟨fs, _, hF, rfl⟩, rfl⟩

theorem yields_mapError_ok {f : ε → ε} {p : Prog ε σ α} {s s' : σ} {a : α}
    (h : (mapError f p).Yields F s (.ok a) s') : p.Yields F s (.ok a) s' := by
  obtain ⟨r', hr, he⟩ := yields_mapError h
  cases r' <;> cases he
  exact hr

/-- A statement does what it says, or fails: by a fault, or by itself. -/
theorem yields_stmt {f : σ → Except ε (α × σ)} {s s' : σ} {r : Except ε α}
    (h : (stmt f).Yields F s r s') :
    (∃ a, r = .ok a ∧ f s = .ok (a, s')) ∨
      ∃ e, r = .error e ∧ s' = s ∧ (F e ∨ f s = .error e) := by
  obtain ⟨fs, fs', hF, h⟩ := h
  simp only [stmt] at h
  split at h
  · rename_i e he
    cases h
    refine .inr ⟨e, rfl, rfl, .inl (hF e ?_)⟩
    cases fs with
    | nil => cases he
    | cons x xs =>
      cases he
      exact List.mem_cons_self
  · split at h <;> cases h
    · exact .inl ⟨_, rfl, by assumption⟩
    · exact .inr ⟨_, rfl, rfl, .inr (by assumption)⟩

theorem yields_select_ok {f : σ → α} {c c' : Conn σ} {a : α}
    (h : (select f : Prog ε (Conn σ) α).Yields F c (.ok a) c') : a = f c.work ∧ c' = c := by
  rcases yields_stmt h with ⟨_, hr, he⟩ | ⟨_, hr, _⟩
  · cases hr
    cases he
    exact ⟨rfl, rfl⟩
  · cases hr

theorem yields_select_error {f : σ → α} {c c' : Conn σ} {e : ε}
    (h : (select f : Prog ε (Conn σ) α).Yields F c (.error e) c') : c' = c ∧ F e := by
  rcases yields_stmt h with ⟨_, hr, _⟩ | ⟨_, hr, rfl, hF | he⟩
  · cases hr
  · cases hr
    exact ⟨rfl, hF⟩
  · cases he

theorem yields_execute_ok {f : σ → Except ε σ} {c c' : Conn σ} {u : Unit}
    (h : (execute f).Yields F c (.ok u) c') : f c.work = .ok c'.work ∧ c'.base = c.base := by
  rcases yields_stmt h with ⟨_, hr, he⟩ | ⟨_, hr, _⟩
  · rcases hf : f c.work with e | w <;> rw [hf] at he <;> cases he
    exact ⟨rfl, rfl⟩
  · cases hr

theorem yields_query_ok {f : σ → α} {s s' : σ} {a : α}
    (h : (query f : Prog ε σ α).Yields F s (.ok a) s') : a = f s ∧ s' = s := by
  rcases yields_stmt h with ⟨_, hr, he⟩ | ⟨_, hr, _⟩
  · cases hr
    cases he
    exact ⟨rfl, rfl⟩
  · cases hr

theorem yields_autocommit_ok {f : σ → Except ε σ} {s s' : σ} {u : Unit}
    (h : (autocommit f).Yields F s (.ok u) s') : f s = .ok s' := by
  rcases yields_stmt h with ⟨_, hr, he⟩ | ⟨_, hr, _⟩
  · rcases hf : f s with e | w <;> rw [hf] at he <;> cases he
    rfl
  · cases hr

theorem yields_query {f : σ → α} {s s' : σ} {r : Except ε α} (h : (query f).Yields F s r s') :
    s' = s ∧ (r = .ok (f s) ∨ ∃ e, F e ∧ r = .error e) := by
  rcases yields_stmt h with ⟨a, rfl, hf⟩ | ⟨e, rfl, rfl, hF | hf⟩
  · cases hf
    exact ⟨rfl, .inl rfl⟩
  · exact ⟨rfl, .inr ⟨e, hF, rfl⟩⟩
  · cases hf

theorem yields_autocommit {f : σ → Except ε σ} {s s' : σ} {r : Except ε Unit}
    (h : (autocommit f).Yields F s r s') :
    r = .ok () ∧ f s = .ok s' ∨ (∃ e, r = .error e) ∧ s' = s := by
  cases r with
  | ok u => exact .inl ⟨rfl, yields_autocommit_ok h⟩
  | error e =>
    rcases yields_stmt h with ⟨_, hr, -⟩ | ⟨_, -, rfl, -⟩
    · cases hr
    · exact .inr ⟨⟨e, rfl⟩, rfl⟩

/-- The exception of `p` is handed on as a value. -/
theorem yields_attempt_bind {p : Prog ε σ α} {k : Except ε α → Prog ε σ β} {s s' : σ} {r : Except ε β}
    (h : (attempt p >>= k).Yields F s r s') :
    ∃ x s1, p.Yields F s x s1 ∧ (k x).Yields F s1 r s' := by
  rcases yields_bind h with ⟨e, h1, -⟩ | ⟨x, s1, h1, h2⟩
  · obtain ⟨_, hr, -⟩ := yields_attempt h1
    cases hr
  · obtain ⟨_, hr, h1⟩ := yields_attempt h1
    cases hr
    exact ⟨_, _, h1, h2⟩

/-- A statement fails by a fault or for its constraint. -/
theorem yields_execute_error {f : σ → Except ε σ} {c c' : Conn σ} {e : ε}
    (h : (execute f).Yields F c (.error e) c') : F e ∨ f c.work = .error e := by
  rcases yields_stmt h with ⟨_, hr, _⟩ | ⟨_, hr, _, hF | he⟩
  · cases hr
  · cases hr
    exact .inl hF
  · cases hr
    rcases hf : f c.work with e | w <;> rw [hf] at he <;> cases he
    exact .inr rfl

/-- A SELECT that succeeds hands the rest of the program what it reads. -/
theorem yields_select_bind {f : σ → α} {k : α → Prog ε (Conn σ) β} {c c' : Conn σ} {b : β}
    (h : (select f >>= k).Yields F c (.ok b) c') : (k (f c.work)).Yields F c (.ok b) c' := by
  obtain ⟨a, c1, h1, h2⟩ := yields_bind_ok h
  obtain ⟨rfl, rfl⟩ := yields_select_ok h1
  exact h2

/-- A statement that succeeds leaves its store to the rest of the program. -/
theorem yields_execute_bind {f : σ → Except ε σ} {k : Unit → Prog ε (Conn σ) β} {c c' : Conn σ}
    {b : β} (h : (execute f >>= k).Yields F c (.ok b) c') :
    ∃ w, f c.work = .ok w ∧ (k ()).Yields F { c with work := w } (.ok b) c' := by
  obtain ⟨a, c1, h1, h2⟩ := yields_bind_ok h
  obtain ⟨hw, hb⟩ := yields_execute_ok h1
  refine ⟨c1.work, hw, ?_⟩
  rw [← hb]
  exact h2

/-- After a SELECT an exception is a fault or comes from the rest of the program. -/
theorem yields_select_bind_error {f : σ → α} {k : α → Prog ε (Conn σ) β} {c c' : Conn σ} {e : ε}
    (h : (select f >>= k).Yields F c (.error e) c') :
    F e ∨ (k (f c.work)).Yields F c (.error e) c' := by
  rcases yields_bind h with ⟨e', h1, he⟩ | ⟨a, c1, h1, h2⟩
  · cases he
    exact .inl (yields_select_error h1).2
  · obtain ⟨rfl, rfl⟩ := yields_select_ok h1
    exact .inr h2

/-- After a statement an exception is a fault, its own, or comes from the rest of the program. -/
theorem yields_execute_bind_error {f : σ → Except ε σ} {k : Unit → Prog ε (Conn σ) β}
    {c c' : Conn σ} {e : ε} (h : (execute f >>= k).Yields F c (.error e) c') :
    F e ∨ f c.work = .error e ∨
      ∃ w, f c.work = .ok w ∧ (k ()).Yields F { c with work := w } (.error e) c' := by
  rcases yields_bind h with ⟨e', h1, he⟩ | ⟨a, c1, h1, h2⟩
  · cases he
    rcases yields_execute_error h1 with h3 | h3
    · exact .inl h3
    · exact .inr (.inl h3)
  · obtain ⟨hw, hb⟩ := yields_execute_ok h1
    refine .inr (.inr ⟨c1.work, hw, ?_⟩)
    rw [← hb]
    exact h2

theorem yields_rollback {c c' : Conn σ} {r : Except ε Unit}
    (h : (rollback : Prog ε (Conn σ) Unit).Yields F c r c') :
    r = .ok () ∧ c' = { c with work := c.base } := by
  obtain ⟨fs, fs', -, h⟩ := h
  cases h
  exact ⟨rfl, rfl⟩

/-- A session commits what its body did, or leaves no trace. -/
theorem yields_session {body : Prog ε (Conn σ) α} {s s' : σ} {r : Except ε α}
    (h : (session body).Yields F s r s') :
    (∃ e, r = .error e ∧ s' = s ∧ (F e ∨ ∃ c, body.Yields F ⟨s, s⟩ (.error e) c)) ∨
      ∃ a c, r = .ok a ∧ body.Yields F ⟨s, s⟩ (.ok a) c ∧ s' = c.work := by
  obtain ⟨fs, fs', hF, h⟩ := h
  have hs := body.suffix fs ⟨s, s⟩
  rcases hb : body.run fs ⟨s, s⟩ with ⟨e | a, c, fs1⟩ <;> simp only [session, hb] at h hs
  · cases h
    exact .inl ⟨_, rfl, rfl, .inr ⟨c, _, _, hF, hb⟩⟩
  · split at h
    · rename_i e he
      cases h
      refine .inl ⟨_, rfl, rfl, .inl (hF _ (hs.subset ?_))⟩
      cases fs1 with
      | nil => cases he
      | cons x xs =>
        cases he
        exact List.mem_cons_self
    · cases h
      exact .inr ⟨a, c, rfl, ⟨_, _, hF, hb⟩, rfl⟩

theorem yields_reading {body : Prog ε (Conn σ) α} {s s' : σ} {r : Except ε α}
    (h : (reading body).Yields F s r s') : s' = s ∧ ∃ c, body.Yields F ⟨s, s⟩ r c := by
  obtain ⟨fs, fs', hF, h⟩ := h
  cases h
  exact ⟨rfl, _, fs, _, hF, rfl⟩

end

/-! ## Runs without faults -/

/-- The run of `p` in which no statement is made to fail. -/
def eval (p : Prog ε σ α) (s : σ) : Except ε α × σ := ((p.run [] s).result, (p.run [] s).state)

/-- The run without faults is a run whose faults are in any given set. -/
theorem yields_eval (F : ε → Prop) (p : Prog ε σ α) (s : σ) :
    p.Yields F s (p.eval s).1 (p.eval s).2 := ⟨[], _, fun _ he => (List.not_mem_nil he).elim, rfl⟩

theorem yields_of_eval {F : ε → Prop} {p : Prog ε σ α} {s s' : σ} {r : Except ε α}
    (h : p.eval s = (r, s')) : p.Yields F s r s' := by
  have hy := yields_eval F p s
  rwa [h] at hy

@[simp] theorem eval_pure (a : α) (s : σ) : (pure a : Prog ε σ α).eval s = (.ok a, s) := rfl

@[simp] theorem eval_throw (e : ε) (s : σ) :
    (throw e : Prog ε σ α).eval s = (.error e, s) := rfl

theorem run_nil (p : Prog ε σ α) (s : σ) : p.run [] s = ⟨(p.eval s).1, (p.eval s).2, []⟩ := by
  have h : p.run [] s = ⟨(p.eval s).1, (p.eval s).2, (p.run [] s).faults⟩ := rfl
  rwa [List.suffix_nil.1 (p.suffix [] s)] at h

theorem eval_bind (p : Prog ε σ α) (k : α → Prog ε σ β) (s : σ) :
    (p >>= k).eval s = match p.eval s with
      | (.ok a, s') => (k a).eval s'
      | (.error e, s') => (.error e, s') := by
  change (Prog.bind p k).eval s = _
  rw [eval, Prog.bind]
  simp only [run_nil]
  rcases p.eval s with ⟨_ | a, s'⟩ <;> rfl

theorem eval_bind_ok {p : Prog ε σ α} {k : α → Prog ε σ β} {s s' : σ} {a : α}
    (h : p.eval s = (.ok a, s')) : (p >>= k).eval s = (k a).eval s' := by
  rw [eval_bind, h]

theorem eval_bind_error {p : Prog ε σ α} {k : α → Prog ε σ β} {s s' : σ} {e : ε}
    (h : p.eval s = (.error e, s')) : (p >>= k).eval s = (.error e, s') := by
  rw [eval_bind, h]

@[simp] theorem eval_attempt (p : Prog ε σ α) (s : σ) :
    (attempt p).eval s = (.ok (p.eval s).1, (p.eval s).2) := rfl

@[simp] theorem eval_mapError (f : ε → ε) (p : Prog ε σ α) (s : σ) :
    (mapError f p).eval s = ((p.eval s).1.mapError f, (p.eval s).2) := rfl

@[simp] theorem eval_select (f : σ → α) (c : Conn σ) :
    (select f : Prog ε (Conn σ) α).eval c = (.ok (f c.work), c) := rfl

theorem eval_execute_ok {f : σ → Except ε σ} {c : Conn σ} {w : σ} (h : f c.work = .ok w) :
    (execute f).eval c = (.ok (), { c with work := w }) := by
  simp [eval, execute, stmt, h, Except.map]

theorem eval_execute_error {f : σ → Except ε σ} {c : Conn σ} {e : ε} (h : f c.work = .error e) :
    (execute f).eval c = (.error e, c) := by
  simp [eval, execute, stmt, h, Except.map]

theorem eval_select_bind (f : σ → α) (k : α → Prog ε (Conn σ) β) (c : Conn σ) :
    (select f >>= k).eval c = (k (f c.work)).eval c := eval_bind_ok (eval_select f c)

theorem eval_execute_bind {f : σ → Except ε σ} {k : Unit → Prog ε (Conn σ) β} {c : Conn σ} {w : σ}
    (h : f c.work = .ok w) : (execute f >>= k).eval c = (k ()).eval { c with work := w } :=
  eval_bind_ok (eval_execute_ok h)

theorem eval_session_ok {body : Prog ε (Conn σ) α} {s : σ} {a : α} {c : Conn σ}
    (h : body.eval ⟨s, s⟩ = (.ok a, c)) : (session body).eval s = (.ok a, c.work) := by
  have hr := run_nil body ⟨s, s⟩
  rw [h] at hr
  simp [eval, session, hr]

theorem eval_session_error {body : Prog ε (Conn σ) α} {s : σ} {e : ε} {c : Conn σ}
    (h : body.eval ⟨s, s⟩ = (.error e, c)) : (session body).eval s = (.error e, s) := by
  have hr := run_nil body ⟨s, s⟩
  rw [h] at hr
  simp [eval, session, hr]

/-- A session runs as its body does. -/
theorem eval_session_congr {p q : Prog ε (Conn σ) α} {s : σ} (h : p.eval ⟨s, s⟩ = q.eval ⟨s, s⟩) :
    (session p).eval s = (session q).eval s := by
  rcases hq : q.eval ⟨s, s⟩ with ⟨_ | _, cn⟩
  · rw [eval_session_error hq, eval_session_error (h.trans hq)]
  · rw [eval_session_ok hq, eval_session_ok (h.trans hq)]

@[simp] theorem eval_reading (body : Prog ε (Conn σ) α) (s : σ) :
    (reading body).eval s = ((body.eval ⟨s, s⟩).1, s) := rfl

end Prog

end Sql
