import InvenTory.Lib.Script
import InvenTory.Lib.Statements

/-!
# Sequences of statements

`commitEach` runs statements one after the other, each committed by itself, and `executeAll` runs them in
an open session. `stop ws fs s` is the place of the statement that fails, by a fault of the schedule
`fs` or by itself: the statements before it have been committed, if each is, and none has been in a
session (`run_commitEach`, `run_session_executeAll`).
-/

namespace Sql

variable {ε σ α β ι : Type}

/-- A statement, and what becomes of its exception. -/
structure Write (ε σ : Type) where
  label : ε → ε
  apply : σ → Except ε σ

/-- All statements, if none fails. -/
def applyAll (ws : List (Write ε σ)) (s : σ) : Except ε σ := ws.foldlM (fun s w => w.apply s) s

@[simp] theorem applyAll_nil (s : σ) : applyAll ([] : List (Write ε σ)) s = .ok s := rfl

theorem applyAll_cons_ok {w : Write ε σ} {ws : List (Write ε σ)} {s s1 s' : σ}
    (h : w.apply s = .ok s1) : applyAll (w :: ws) s = .ok s' ↔ applyAll ws s1 = .ok s' := by
  simp only [applyAll, List.foldlM_cons, h]
  rfl

theorem applyAll_cons {w : Write ε σ} {ws : List (Write ε σ)} {s s' : σ} :
    applyAll (w :: ws) s = .ok s' ↔ ∃ s1, w.apply s = .ok s1 ∧ applyAll ws s1 = .ok s' := by
  cases h : w.apply s with
  | ok s1 => simp [applyAll_cons_ok h]
  | error e =>
    simp only [applyAll, List.foldlM_cons, h, reduceCtorEq, false_and, exists_false, iff_false]
    exact nofun

theorem applyAll_append {ws ws' : List (Write ε σ)} {s s' : σ} : applyAll (ws ++ ws') s = .ok s' ↔
    ∃ s1, applyAll ws s = .ok s1 ∧ applyAll ws' s1 = .ok s' := by
  induction ws generalizing s with
  | nil => simp
  | cons w ws ih =>
    simp only [List.cons_append, applyAll_cons, ih]
    exact ⟨fun ⟨a, ha, b, hb, h⟩ => ⟨b, ⟨a, ha, hb⟩, h⟩, fun ⟨b, ⟨a, ha, hb⟩, h⟩ => ⟨a, ha, b, hb, h⟩⟩

/-- `P` holds between the statements, as far as they come. -/
def Through (P : σ → Prop) : List (Write ε σ) → σ → Prop
  | [], s => P s
  | w :: ws, s => P s ∧ ∀ s', w.apply s = .ok s' → Through P ws s'

theorem Through.of_take {P : σ → Prop} {ws : List (Write ε σ)} {s s' : σ} {n : Nat}
    (h : Through P ws s) (hs : applyAll (ws.take n) s = .ok s') : P s' := by
  induction ws generalizing n s with
  | nil =>
    rw [List.take_nil] at hs
    cases hs
    exact h
  | cons w ws ih =>
    cases n with
    | zero =>
      cases hs
      exact h.1
    | succ n =>
      obtain ⟨s1, h1, h2⟩ := applyAll_cons.1 hs
      exact ih (h.2 s1 h1) h2

theorem through_of_kept {P : σ → Prop} {ws : List (Write ε σ)} {s : σ} (hs : P s)
    (h : ∀ w ∈ ws, ∀ s s', w.apply s = .ok s' → P s → P s') : Through P ws s := by
  induction ws generalizing s with
  | nil => exact hs
  | cons w ws ih =>
    refine ⟨hs, fun s' hw => ih (h w List.mem_cons_self s s' hw hs) fun w' hm => ?_⟩
    exact h w' (List.mem_cons_of_mem w hm)

/-- The place of the statement that fails. -/
def stop : List (Write ε σ) → List (Option ε) → σ → Option Nat
  | [], _, _ => none
  | w :: ws, fs, s =>
    match fs.head?.join with
    | some _ => some 0
    | none =>
      match w.apply s with
      | .error _ => some 0
      | .ok s' => (stop ws fs.tail s').map (· + 1)

namespace Prog

/-! ## Equations -/

theorem bind_assoc {γ : Type} (p : Prog ε σ α) (k : α → Prog ε σ β) (l : β → Prog ε σ γ) :
    (p >>= k) >>= l = p >>= fun a => k a >>= l := by
  apply ext
  intro fs s
  simp only [run_bind]
  rcases p.run fs s with ⟨_ | a, s', fs'⟩
  · rfl
  · rfl

theorem pure_bind (a : α) (k : α → Prog ε σ β) : (pure a >>= k) = k a := rfl

theorem throw_bind (e : ε) (k : α → Prog ε σ β) : (throw e >>= k : Prog ε σ β) = throw e := rfl

theorem bind_congr {p : Prog ε σ α} {k l : α → Prog ε σ β} (h : ∀ a, k a = l a) :
    p >>= k = p >>= l := by
  rw [funext h]

/-! ## Sequences -/

/-- Each statement is committed by itself. -/
def commitEach : List (Write ε σ) → Prog ε σ Unit
  | [] => pure ()
  | w :: ws => do
    mapError w.label (autocommit w.apply)
    commitEach ws

def executeAll : List (Write ε σ) → Prog ε (Conn σ) Unit
  | [] => pure ()
  | w :: ws => do
    mapError w.label (execute w.apply)
    executeAll ws

theorem run_mapError {f : ε → ε} {p : Prog ε σ α} {fs fs' : List (Option ε)} {s s' : σ}
    {r : Except ε α} (h : p.run fs s = ⟨r, s', fs'⟩) :
    (mapError f p).run fs s = ⟨r.mapError f, s', fs'⟩ := by
  simp only [mapError, h]

theorem run_stmt_ok {f : σ → Except ε (α × σ)} {fs : List (Option ε)} {s s' : σ} {a : α}
    (h : fs.head?.join = none) (hf : f s = .ok (a, s')) :
    (stmt f).run fs s = ⟨.ok a, s', fs.tail⟩ := by
  simp only [stmt, h, hf]

/-- A statement fails by a fault or by itself. -/
theorem run_stmt_error {f : σ → Except ε (α × σ)} {fs : List (Option ε)} {s : σ}
    (h : fs.head?.join = none → ∃ e, f s = .error e) :
    ∃ e, (stmt f).run fs s = ⟨.error e, s, fs.tail⟩ := by
  cases hf : fs.head?.join with
  | some e => exact ⟨e, by simp only [stmt, hf]⟩
  | none =>
    obtain ⟨e, he⟩ := h hf
    exact ⟨e, by simp only [stmt, hf, he]⟩

theorem run_execute_ok {f : σ → Except ε σ} {fs : List (Option ε)} {c : Conn σ} {w : σ}
    (h : fs.head?.join = none) (hf : f c.work = .ok w) :
    (execute f).run fs c = ⟨.ok (), { c with work := w }, fs.tail⟩ :=
  run_stmt_ok h (by rw [hf]; rfl)

theorem run_autocommit_ok {f : σ → Except ε σ} {fs : List (Option ε)} {s s' : σ}
    (h : fs.head?.join = none) (hf : f s = .ok s') :
    (autocommit f).run fs s = ⟨.ok (), s', fs.tail⟩ :=
  run_stmt_ok h (by rw [hf]; rfl)

/-- How a sequence of statements ends in the store `s'`. -/
inductive Halts (ws : List (Write ε σ)) (fs : List (Option ε)) (s : σ) :
    Except ε Unit → σ → Prop
  | ok {s' : σ} (hstop : stop ws fs s = none) (hs : applyAll ws s = .ok s') : Halts ws fs s (.ok ()) s'
  | error {n : Nat} {e : ε} {s' : σ} (hstop : stop ws fs s = some n) (hn : n < ws.length)
    (hs : applyAll (ws.take n) s = .ok s') : Halts ws fs s (.error e) s'

theorem Halts.cons {w : Write ε σ} {ws : List (Write ε σ)} {fs : List (Option ε)} {s s1 s' : σ}
    {r : Except ε Unit} (hf : fs.head?.join = none) (hw : w.apply s = .ok s1)
    (h : Halts ws fs.tail s1 r s') : Halts (w :: ws) fs s r s' := by
  cases h with
  | ok hstop hs =>
    refine .ok ?_ ((applyAll_cons_ok hw).2 hs)
    simp only [stop, hf, hw, hstop, Option.map_none]
  | error hstop hn hs =>
    refine .error ?_ (Nat.succ_lt_succ hn) ((applyAll_cons_ok hw).2 hs)
    simp only [stop, hf, hw, hstop, Option.map_some]

/-- The first statement fails. -/
theorem stop_eq_zero {w : Write ε σ} {ws : List (Write ε σ)} {fs : List (Option ε)} {s : σ}
    (h : fs.head?.join = none → ∃ e, w.apply s = .error e) : stop (w :: ws) fs s = some 0 := by
  unfold stop
  cases hf : fs.head?.join with
  | some e => rfl
  | none =>
    obtain ⟨e, he⟩ := h hf
    simp only [he]

/-- Either the first statement fails, or it takes the store to the others. -/
theorem first_cases (w : Write ε σ) (fs : List (Option ε)) (s : σ) :
    (fs.head?.join = none → ∃ e, w.apply s = .error e) ∨
      fs.head?.join = none ∧ ∃ s1, w.apply s = .ok s1 := by
  cases hf : fs.head?.join with
  | some e => exact .inl nofun
  | none =>
    cases hw : w.apply s with
    | error e => exact .inl fun _ => ⟨e, rfl⟩
    | ok s1 => exact .inr ⟨rfl, s1, rfl⟩

/-- **Statements that are committed one by one** stay when one fails. -/
theorem run_commitEach (ws : List (Write ε σ)) (fs : List (Option ε)) (s : σ) :
    Halts ws fs s ((commitEach ws).run fs s).result ((commitEach ws).run fs s).state := by
  induction ws generalizing fs s with
  | nil => exact .ok rfl rfl
  | cons w ws ih =>
    rcases first_cases w fs s with h | ⟨hf, s1, hw⟩
    · obtain ⟨e, he⟩ : ∃ e, (autocommit w.apply).run fs s = ⟨.error e, s, fs.tail⟩ :=
        run_stmt_error fun hn => (h hn).imp fun e he => by rw [he]; rfl
      have hrun : (commitEach (w :: ws)).run fs s = ⟨.error (w.label e), s, fs.tail⟩ :=
        run_bind_error (run_mapError he)
      rw [hrun]
      exact .error (stop_eq_zero h) (Nat.succ_pos _) rfl
    · have hrun : (commitEach (w :: ws)).run fs s = (commitEach ws).run fs.tail s1 :=
        run_bind_ok (run_mapError (run_autocommit_ok hf hw))
      rw [hrun]
      exact (ih fs.tail s1).cons hf hw

theorem run_executeAll (ws : List (Write ε σ)) (fs : List (Option ε)) (c : Conn σ) :
    Halts ws fs c.work ((executeAll ws).run fs c).result ((executeAll ws).run fs c).state.work ∧
      ((executeAll ws).run fs c).state.base = c.base := by
  induction ws generalizing fs c with
  | nil => exact ⟨.ok rfl rfl, rfl⟩
  | cons w ws ih =>
    rcases first_cases w fs c.work with h | ⟨hf, w1, hw⟩
    · obtain ⟨e, he⟩ : ∃ e, (execute w.apply).run fs c = ⟨.error e, c, fs.tail⟩ :=
        run_stmt_error fun hn => (h hn).imp fun e he => by rw [he]; rfl
      have hrun : (executeAll (w :: ws)).run fs c = ⟨.error (w.label e), c, fs.tail⟩ :=
        run_bind_error (run_mapError he)
      rw [hrun]
      exact ⟨.error (stop_eq_zero h) (Nat.succ_pos _) rfl, rfl⟩
    · have hrun : (executeAll (w :: ws)).run fs c =
          (executeAll ws).run fs.tail { c with work := w1 } :=
        run_bind_ok (run_mapError (run_execute_ok hf hw))
      rw [hrun]
      exact ⟨((ih fs.tail { c with work := w1 }).1).cons hf hw, (ih fs.tail _).2⟩

/-- **A session** leaves all of its statements or none. -/
theorem run_session_executeAll (ws : List (Write ε σ)) (fs : List (Option ε)) (s : σ) :
    (∃ e, ((session (executeAll ws)).run fs s).result = .error e ∧
      ((session (executeAll ws)).run fs s).state = s) ∨
    ((session (executeAll ws)).run fs s).result = .ok () ∧
      applyAll ws s = .ok ((session (executeAll ws)).run fs s).state := by
  obtain ⟨h, -⟩ := run_executeAll ws fs ⟨s, s⟩
  rcases hb : (executeAll ws).run fs ⟨s, s⟩ with ⟨e | u, c, fs'⟩
  · exact .inl ⟨e, by simp only [session, hb], by simp only [session, hb]⟩
  · rw [hb] at h
    cases hf : fs'.head?.join with
    | some e => exact .inl ⟨e, by simp only [session, hb, hf], by simp only [session, hb, hf]⟩
    | none =>
      cases h with
      | ok hstop hs =>
        exact .inr ⟨by simp only [session, hb, hf], by simp only [session, hb, hf]; exact hs⟩

/-! ## Checks and writes -/

/-- Run `p`, without its result. -/
def forget (p : Prog ε σ α) : Prog ε σ Unit := p >>= fun _ => pure ()

theorem forget_bind (p : Prog ε σ α) (k : α → Prog ε σ β) :
    forget (p >>= k) = p >>= fun a => forget (k a) := bind_assoc ..

/-- A program that only is to do something has no result to drop. -/
theorem forget_unit (p : Prog ε σ Unit) : forget p = p := by
  apply ext
  intro fs s
  rw [forget, run_bind]
  rcases p.run fs s with ⟨_ | u, s', fs'⟩
  · rfl
  · rfl

theorem forget_bind_pure (p : Prog ε σ Unit) (a : α) : forget (p >>= fun _ => pure a) = p :=
  (forget_bind ..).trans (forget_unit p)

/-- Every run of `p` leads to a store that is related to the first one. -/
def Within (Q : σ → σ → Prop) (p : Prog ε σ α) : Prop :=
  ∀ (F : ε → Prop) s r s', p.Yields F s r s' → Q s s'

namespace Within

variable {Q : σ → σ → Prop}

theorem ret (hrefl : ∀ s, Q s s) (a : α) : Within Q (pure a : Prog ε σ α) := by
  intro F s r s' hy
  rw [(yields_pure hy).2]
  exact hrefl s

theorem raise (hrefl : ∀ s, Q s s) (e : ε) : Within Q (throw e : Prog ε σ α) := by
  intro F s r s' hy
  rw [(yields_throw hy).2]
  exact hrefl s

theorem seq (htrans : ∀ a b c, Q a b → Q b c → Q a c) {p : Prog ε σ α} {k : α → Prog ε σ β}
    (hp : Within Q p) (hk : ∀ a, Within Q (k a)) : Within Q (p >>= k) := by
  intro F s r s' hy
  rcases yields_bind hy with ⟨e, h1, -⟩ | ⟨a, s1, h1, h2⟩
  · exact hp F s _ s' h1
  · exact htrans _ _ _ (hp F s _ s1 h1) (hk a F s1 r s' h2)

theorem query (hrefl : ∀ s, Q s s) (f : σ → α) : Within Q (Prog.query f : Prog ε σ α) := by
  intro F s r s' hy
  rcases yields_stmt hy with ⟨_, -, he⟩ | ⟨_, -, rfl, -⟩
  · cases he
    exact hrefl s
  · exact hrefl s'

theorem attempt {p : Prog ε σ α} (hp : Within Q p) : Within Q (attempt p) := by
  intro F s r s' hy
  obtain ⟨r', -, h1⟩ := yields_attempt hy
  exact hp F s r' s' h1

theorem mapError (f : ε → ε) {p : Prog ε σ α} (hp : Within Q p) : Within Q (mapError f p) := by
  intro F s r s' hy
  obtain ⟨r', h1, -⟩ := yields_mapError hy
  exact hp F s r' s' h1

theorem autocommit (hrefl : ∀ s, Q s s) {f : σ → Except ε σ}
    (h : ∀ s s', f s = .ok s' → Q s s') : Within Q (autocommit f) := by
  intro F s r s' hy
  cases r with
  | ok u => exact h s s' (yields_autocommit_ok hy)
  | error e =>
    rcases yields_stmt hy with ⟨_, hr, -⟩ | ⟨_, -, rfl, -⟩
    · cases hr
    · exact hrefl s'

/-- The rest of the program leaves the store alone. -/
theorem before {p : Prog ε σ α} {k : α → Prog ε σ β} (hp : Within Q p)
    (hk : ∀ a, Within Eq (k a)) : Within Q (p >>= k) := by
  intro F s r s' hy
  rcases yields_bind hy with ⟨e, h1, -⟩ | ⟨a, s1, h1, h2⟩
  · exact hp F s _ s' h1
  · rw [← hk a F s1 r s' h2]
    exact hp F s _ s1 h1

theorem select (hrefl : ∀ s, Q s s) (f : σ → α) :
    Within (fun c c' : Conn σ => Q c.work c'.work) (Prog.select f : Prog ε (Conn σ) α) := by
  intro F c r c' hy
  cases r with
  | ok a =>
    rw [(yields_select_ok hy).2]
    exact hrefl _
  | error e =>
    rw [(yields_select_error hy).1]
    exact hrefl _

theorem execute (hrefl : ∀ s, Q s s) {f : σ → Except ε σ} (h : ∀ s s', f s = .ok s' → Q s s') :
    Within (fun c c' : Conn σ => Q c.work c'.work) (Prog.execute f) := by
  intro F c r c' hy
  cases r with
  | ok u => exact h _ _ (yields_execute_ok hy).1
  | error e =>
    rcases yields_stmt hy with ⟨_, hr, -⟩ | ⟨_, -, rfl, -⟩
    · cases hr
    · exact hrefl _

theorem session (hrefl : ∀ s, Q s s) {body : Prog ε (Conn σ) α}
    (h : Within (fun c c' : Conn σ => Q c.work c'.work) body) : Within Q (session body) := by
  intro F s r s' hy
  rcases yields_session hy with ⟨_, -, rfl, -⟩ | ⟨a, c, -, hc, rfl⟩
  · exact hrefl s'
  · exact h F _ _ _ hc

theorem run {p : Prog ε σ α} (hp : Within Q p) (fs : List (Option ε)) (s : σ) :
    Q s (p.run fs s).state :=
  hp (fun _ => True) s _ _ ⟨fs, _, fun _ _ => trivial, rfl⟩

theorem mono {Q' : σ → σ → Prop} (h : ∀ s s', Q s s' → Q' s s') {p : Prog ε σ α}
    (hp : Within Q p) : Within Q' p := fun F s r s' hy => h s s' (hp F s r s' hy)

end Within

/-! ## Programs on a part of the store -/

/-- Run `p` on the part of the store that `get` reads and `set` writes. -/
def zoom {τ : Type} (get : σ → τ) (set : τ → σ → σ) (p : Prog ε τ α) : Prog ε σ α where
  run fs s := ⟨(p.run fs (get s)).result, set (p.run fs (get s)).state s, (p.run fs (get s)).faults⟩
  suffix fs s := p.suffix fs (get s)

theorem yields_zoom {τ : Type} {get : σ → τ} {set : τ → σ → σ} {p : Prog ε τ α} {F : ε → Prop}
    {s s' : σ} {r : Except ε α} (h : (zoom get set p).Yields F s r s') :
    ∃ t, p.Yields F (get s) r t ∧ s' = set t s := by
  obtain ⟨fs, fs', hF, hrun⟩ := h
  cases hrun
  exact ⟨(p.run fs (get s)).state, ⟨fs, (p.run fs (get s)).faults, hF, rfl⟩, rfl⟩

theorem eval_zoom {τ : Type} (get : σ → τ) (set : τ → σ → σ) (p : Prog ε τ α) (s : σ) :
    (zoom get set p).eval s = ((p.eval (get s)).1, set (p.eval (get s)).2 s) := rfl

/-- Without faults `p` comes to its end. -/
def Total (p : Prog ε σ α) : Prop := ∀ s, ∃ a s', p.eval s = (.ok a, s')

namespace Total

theorem ret (a : α) : Total (pure a : Prog ε σ α) := fun s => ⟨a, s, rfl⟩

theorem attempt (p : Prog ε σ α) : Total (attempt p) := fun s => ⟨_, _, eval_attempt p s⟩

theorem seq {p : Prog ε σ α} {k : α → Prog ε σ β} (hp : Total p) (hk : ∀ a, Total (k a)) :
    Total (p >>= k) := by
  intro s
  obtain ⟨a, s1, h⟩ := hp s
  obtain ⟨b, s', hb⟩ := hk a s1
  exact ⟨b, s', (eval_bind_ok h).trans hb⟩

theorem zoom {τ : Type} {get : σ → τ} {set : τ → σ → σ} {p : Prog ε τ α} (hp : Total p) :
    Total (zoom get set p) := by
  intro s
  obtain ⟨a, t, h⟩ := hp (get s)
  exact ⟨a, set t s, by rw [eval_zoom, h]⟩

end Total

/-- Without faults `q` does to a part of the store what `p` does to the whole, with a result that can
be told from that of `p`. -/
def Views {τ : Type} (get : σ → τ) (φ : α → β) (p : Prog ε σ α) (q : Prog ε τ β) : Prop :=
  ∀ s, q.eval (get s) = ((p.eval s).1.map φ, get (p.eval s).2)

namespace Views

variable {τ γ δ : Type} {get : σ → τ}

theorem ret (φ : α → β) (a : α) : Views get φ (pure a : Prog ε σ α) (pure (φ a)) := fun _ => rfl

theorem zoom {set : τ → σ → σ} (hget : ∀ t s, get (set t s) = t) (q : Prog ε τ α) :
    Views get id (zoom get set q) q := by
  intro s
  rw [eval_zoom, hget]
  exact Prod.ext (by cases (q.eval (get s)).1 <;> rfl) rfl

theorem autocommit {f : σ → Except ε σ} {g : τ → Except ε τ}
    (h : ∀ s, g (get s) = (f s).map get) : Views get id (autocommit f) (autocommit g) := by
  intro s
  cases hf : f s with
  | error e =>
    have hg : g (get s) = .error e := by rw [h, hf]; rfl
    simp [eval, Prog.autocommit, stmt, hf, hg, Except.map]
  | ok s' =>
    have hg : g (get s) = .ok (get s') := by rw [h, hf]; rfl
    simp [eval, Prog.autocommit, stmt, hf, hg, Except.map]

theorem mapError {φ : α → β} {p : Prog ε σ α} {q : Prog ε τ β} (h : Views get φ p q) (f : ε → ε) :
    Views get φ (mapError f p) (mapError f q) := by
  intro s
  rw [eval_mapError, eval_mapError, h s]
  cases (p.eval s).1 <;> rfl

theorem seq {φ : α → β} {ψ : γ → δ} {p : Prog ε σ α} {q : Prog ε τ β} {k : α → Prog ε σ γ}
    {l : β → Prog ε τ δ} (h : Views get φ p q) (hk : ∀ a, Views get ψ (k a) (l (φ a))) :
    Views get ψ (p >>= k) (q >>= l) := by
  intro s
  rw [eval_bind, eval_bind, h s]
  rcases p.eval s with ⟨_ | a, s'⟩
  · rfl
  · exact hk a s'

/-- The program goes on to return something else. -/
theorem before {φ : α → β} {ψ : γ → β} {p : Prog ε σ α} {q : Prog ε τ β} {f : α → γ}
    (h : Views get φ p q) (hf : ∀ a, ψ (f a) = φ a) :
    Views get ψ (p >>= fun a => pure (f a)) q := by
  intro s
  rw [eval_bind, h s]
  rcases p.eval s with ⟨_ | a, s'⟩
  · rfl
  · exact Prod.ext (congrArg Except.ok (hf a).symm) rfl

end Views

/-- Run the statements in one transaction, or each by itself. -/
def carryOut (tx : Bool) (ws : List (Write ε σ)) : Prog ε σ Unit :=
  if tx then session (executeAll ws) else commitEach ws

/-- What is carried out is a first part of the statements. -/
theorem run_carryOut (tx : Bool) (ws : List (Write ε σ)) (fs : List (Option ε)) (s : σ) :
    ∃ n, applyAll (ws.take n) s = .ok ((carryOut tx ws).run fs s).state := by
  cases tx with
  | true =>
    rcases run_session_executeAll ws fs s with ⟨_, -, hs⟩ | ⟨-, hs⟩
    · exact ⟨0, congrArg Except.ok hs.symm⟩
    · exact ⟨ws.length, by rw [List.take_length]; exact hs⟩
  | false =>
    have hhalts := run_commitEach ws fs s
    show ∃ n, applyAll (ws.take n) s = .ok ((commitEach ws).run fs s).state
    generalize ((commitEach ws).run fs s).result = r at hhalts
    cases hhalts with
    | ok hstop hs => exact ⟨ws.length, by rw [List.take_length]; exact hs⟩
    | error hstop hn hs => exact ⟨_, hs⟩

/-- The program checks the store, staying within `Q`, and then carries out the statements it has
planned. -/
inductive Staged (Q : σ → σ → Prop) (w : ι → Write ε σ) (tx : Bool) :
    {α : Type} → Prog ε σ α → Type 1
  | raise {α : Type} (e : ε) : Staged Q w tx (throw e : Prog ε σ α)
  | check {α β : Type} {p : Prog ε σ α} {k : α → Prog ε σ β} (hp : Within Q p)
    (hk : ∀ a, Staged Q w tx (k a)) : Staged Q w tx (p >>= k)
  | writes {α : Type} {p : Prog ε σ α} (xs : List ι) (h : forget p = carryOut tx (xs.map w)) :
    Staged Q w tx p

namespace Staged

variable {Q : σ → σ → Prop} {w : ι → Write ε σ} {tx : Bool}

/-- The checks, with the statements that are planned. -/
def plan : {α : Type} → {p : Prog ε σ α} → Staged Q w tx p → Prog ε σ (List ι)
  | _, _, raise e => throw e
  | _, _, check (p := p) _ hk => p >>= fun a => (hk a).plan
  | _, _, writes xs _ => pure xs

/-- **What is planned is carried out.** -/
theorem forget_eq {p : Prog ε σ α} (x : Staged Q w tx p) :
    forget p = x.plan >>= fun xs => carryOut tx (xs.map w) := by
  induction x with
  | raise e => rfl
  | check hp hk ih =>
    rw [forget_bind, plan, bind_assoc]
    exact bind_congr ih
  | writes xs h => exact h

theorem plan_within (hrefl : ∀ s, Q s s) (htrans : ∀ a b c, Q a b → Q b c → Q a c)
    {p : Prog ε σ α} (x : Staged Q w tx p) : Within Q x.plan := by
  induction x with
  | raise e => exact .raise hrefl e
  | check hp hk ih => exact .seq htrans hp ih
  | writes xs h => exact .ret hrefl xs

/-- Whatever is planned has `P`. -/
def Every (P : ι → Prop) : {α : Type} → {p : Prog ε σ α} → Staged Q w tx p → Prop
  | _, _, raise _ => True
  | _, _, check _ hk => ∀ a, (hk a).Every P
  | _, _, writes xs _ => ∀ x ∈ xs, P x

theorem Every.of_plan {P : ι → Prop} {p : Prog ε σ α} {x : Staged Q w tx p} (hx : x.Every P)
    {F : ε → Prop} {s s' : σ} {xs : List ι} (h : x.plan.Yields F s (.ok xs) s') : ∀ y ∈ xs, P y := by
  induction x generalizing s with
  | raise e => cases (yields_throw h).1
  | check hp hk ih =>
    obtain ⟨a, s1, -, h1⟩ := yields_bind_ok h
    exact ih a (hx a) h1
  | writes ys hys =>
    obtain ⟨he, -⟩ := yields_pure h
    cases he
    exact hx

end Staged

end Prog

end Sql
