import InvenTory.Lib.Session

/-!
# The statements of a program

`RunsOnly S R p`: the statements that change the store in the session `p` are of the set `S`, and
there are rollbacks in `p` only if `R` holds. What every statement of `S` keeps, `p` keeps
(`RunsOnly.preserves`), whatever fails. A program without rollbacks does not depend on the store that
it would roll back to (`RunsOnly.baseFree`).
-/

namespace Sql.Prog

variable {ε σ α β : Type}

inductive RunsOnly (S : (σ → Except ε σ) → Prop) (R : Prop) :
    {α : Type} → Prog ε (Conn σ) α → Prop
  | ret {α : Type} (a : α) : RunsOnly S R (pure a)
  | raise {α : Type} (e : ε) : RunsOnly S R (throw e : Prog ε (Conn σ) α)
  | select {α : Type} (f : σ → α) : RunsOnly S R (select f)
  | execute {f : σ → Except ε σ} (h : S f) : RunsOnly S R (execute f)
  | seq {α β : Type} {p : Prog ε (Conn σ) α} {k : α → Prog ε (Conn σ) β} (hp : RunsOnly S R p)
    (hk : ∀ a, RunsOnly S R (k a)) : RunsOnly S R (p >>= k)
  | attempt {α : Type} {p : Prog ε (Conn σ) α} (hp : RunsOnly S R p) : RunsOnly S R (attempt p)
  | mapError {α : Type} (f : ε → ε) {p : Prog ε (Conn σ) α} (hp : RunsOnly S R p) :
    RunsOnly S R (mapError f p)
  | rollback (h : R) : RunsOnly S R rollback

namespace RunsOnly

variable {S : (σ → Except ε σ) → Prop} {R : Prop}

theorem mono {S' : (σ → Except ε σ) → Prop} {R' : Prop} {p : Prog ε (Conn σ) α}
    (h : RunsOnly S R p) (hS : ∀ f, S f → S' f) (hR : R → R') : RunsOnly S' R' p := by
  induction h with
  | ret a => exact .ret a
  | raise e => exact .raise e
  | select f => exact .select f
  | execute hf => exact .execute (hS _ hf)
  | seq _ _ ihp ihk => exact .seq ihp ihk
  | attempt _ ih => exact .attempt ih
  | mapError f _ ih => exact .mapError f ih
  | rollback h => exact .rollback (hR h)

/-- **An invariant of the statements** is one of the program. -/
theorem preserves {I : σ → Prop} (hI : ∀ f, S f → ∀ s s', I s → f s = .ok s' → I s')
    {p : Prog ε (Conn σ) α} (h : RunsOnly S R p) {F : ε → Prop} : ∀ {c c' : Conn σ}
      {r : Except ε α}, p.Yields F c r c' → I c.base → I c.work → c'.base = c.base ∧ I c'.work := by
  induction h with
  | ret a =>
    intro c c' r hy _ hw
    rw [(yields_pure hy).2]
    exact ⟨rfl, hw⟩
  | raise e =>
    intro c c' r hy _ hw
    rw [(yields_throw hy).2]
    exact ⟨rfl, hw⟩
  | select f =>
    intro c c' r hy _ hw
    rcases yields_stmt hy with ⟨_, -, he⟩ | ⟨_, -, rfl, -⟩
    · cases he
      exact ⟨rfl, hw⟩
    · exact ⟨rfl, hw⟩
  | execute hf =>
    intro c c' r hy _ hw
    cases r with
    | ok u =>
      obtain ⟨hok, hbase⟩ := yields_execute_ok hy
      exact ⟨hbase, hI _ hf _ _ hw hok⟩
    | error e =>
      rcases yields_stmt hy with ⟨_, hr, -⟩ | ⟨_, -, rfl, -⟩
      · cases hr
      · exact ⟨rfl, hw⟩
  | seq _ _ ihp ihk =>
    intro c c' r hy hb hw
    rcases yields_bind hy with ⟨e, h1, -⟩ | ⟨a, c1, h1, h2⟩
    · exact ihp h1 hb hw
    · obtain ⟨hb1, hw1⟩ := ihp h1 hb hw
      obtain ⟨hb2, hw2⟩ := ihk a h2 (hb1 ▸ hb) hw1
      exact ⟨hb2.trans hb1, hw2⟩
  | attempt _ ih =>
    intro c c' r hy hb hw
    obtain ⟨r', -, h1⟩ := yields_attempt hy
    exact ih h1 hb hw
  | mapError f _ ih =>
    intro c c' r hy hb hw
    obtain ⟨r', h1, -⟩ := yields_mapError hy
    exact ih h1 hb hw
  | rollback _ =>
    intro c c' r hy hb hw
    rw [(yields_rollback hy).2]
    exact ⟨rfl, hb⟩

end RunsOnly

/-! ## The committed store -/

theorem run_bind_ok {p : Prog ε σ α} {k : α → Prog ε σ β} {fs fs' : List (Option ε)} {s s' : σ}
    {a : α} (h : p.run fs s = ⟨.ok a, s', fs'⟩) : (p >>= k).run fs s = (k a).run fs' s' := by
  change (Prog.bind p k).run fs s = _
  simp only [Prog.bind, h]

theorem run_bind_error {p : Prog ε σ α} {k : α → Prog ε σ β} {fs fs' : List (Option ε)} {s s' : σ}
    {e : ε} (h : p.run fs s = ⟨.error e, s', fs'⟩) : (p >>= k).run fs s = ⟨.error e, s', fs'⟩ := by
  change (Prog.bind p k).run fs s = _
  simp only [Prog.bind, h]

/-- Unless it returns a value in `E`, `p` does the same whatever the committed store is, and leaves
that store alone. -/
def BaseFree (E : α → Prop) (p : Prog ε (Conn σ) α) : Prop :=
  ∀ fs b b' w, (∃ a, E a ∧ (p.run fs ⟨b, w⟩).result = .ok a ∧ (p.run fs ⟨b', w⟩).result = .ok a) ∨
    ∃ r w' fs', p.run fs ⟨b, w⟩ = ⟨r, ⟨b, w'⟩, fs'⟩ ∧ p.run fs ⟨b', w⟩ = ⟨r, ⟨b', w'⟩, fs'⟩

namespace BaseFree

variable {E : α → Prop}

theorem ret (a : α) : BaseFree E (pure a : Prog ε (Conn σ) α) :=
  fun fs _ _ w => .inr ⟨.ok a, w, fs, rfl, rfl⟩

theorem raise (e : ε) : BaseFree E (throw e : Prog ε (Conn σ) α) :=
  fun fs _ _ w => .inr ⟨.error e, w, fs, rfl, rfl⟩

theorem stmt {f : Conn σ → Except ε (α × Conn σ)} {g : σ → Except ε (α × σ)}
    (hf : ∀ b w, f ⟨b, w⟩ = (g w).map fun x => (x.1, ⟨b, x.2⟩)) : BaseFree E (stmt f) := by
  intro fs b b' w
  unfold Prog.stmt
  cases hfs : fs.head?.join with
  | some e => exact .inr ⟨.error e, w, fs.tail, by simp only [hfs], by simp only [hfs]⟩
  | none =>
    cases hg : g w with
    | error e =>
      have herr : ∀ b, f ⟨b, w⟩ = .error e := fun b => by rw [hf, hg]; rfl
      exact .inr ⟨.error e, w, fs.tail, by simp only [hfs, herr], by simp only [hfs, herr]⟩
    | ok x =>
      have hok : ∀ b, f ⟨b, w⟩ = .ok (x.1, ⟨b, x.2⟩) := fun b => by rw [hf, hg]; rfl
      exact .inr ⟨.ok x.1, x.2, fs.tail, by simp only [hfs, hok], by simp only [hfs, hok]⟩

theorem select (f : σ → α) : BaseFree E (select f : Prog ε (Conn σ) α) :=
  stmt (g := fun w => .ok (f w, w)) fun _ _ => rfl

theorem execute {E : Unit → Prop} (f : σ → Except ε σ) : BaseFree E (execute f) :=
  stmt (g := fun w => (f w).map fun w' => ((), w')) fun b w => by cases f w <;> rfl

/-- Where the first program returns a value in `E`, the second must return at once. -/
theorem seq {E' : β → Prop} {p : Prog ε (Conn σ) α} {k : α → Prog ε (Conn σ) β} (hp : BaseFree E p)
    (hE : ∀ a, E a → ∃ a', E' a' ∧ k a = pure a') (hk : ∀ a, ¬ E a → BaseFree E' (k a)) :
    BaseFree E' (p >>= k) := by
  intro fs b b' w
  rcases hp fs b b' w with ⟨a, ha, h1, h2⟩ | ⟨r, w', fs', h1, h2⟩
  · obtain ⟨a', ha', hka⟩ := hE a ha
    have hret : ∀ c, (p.run fs c).result = .ok a → ((p >>= k).run fs c).result = .ok a' := by
      intro c hr
      rw [run_bind_ok (show p.run fs c = ⟨.ok a, _, _⟩ by rw [← hr]), hka]
      rfl
    exact .inl ⟨a', ha', hret _ h1, hret _ h2⟩
  · cases r with
    | error e =>
      exact .inr ⟨.error e, w', fs', run_bind_error h1, run_bind_error h2⟩
    | ok a =>
      rw [run_bind_ok h1, run_bind_ok h2]
      by_cases ha : E a
      · obtain ⟨a', -, hka⟩ := hE a ha
        rw [hka]
        exact .inr ⟨.ok a', w', fs', rfl, rfl⟩
      · exact hk a ha fs' b b' w'

/-- A program that always does the same. -/
theorem seq_always {E' : β → Prop} {p : Prog ε (Conn σ) α} {k : α → Prog ε (Conn σ) β}
    (hp : BaseFree (fun _ => False) p) (hk : ∀ a, BaseFree E' (k a)) : BaseFree E' (p >>= k) :=
  hp.seq (fun _ h => h.elim) fun a _ => hk a

theorem attempt {p : Prog ε (Conn σ) α} (hp : BaseFree (fun _ => False) p) {E' : Except ε α → Prop} :
    BaseFree E' (attempt p) := by
  intro fs b b' w
  rcases hp fs b b' w with ⟨a, ha, -⟩ | ⟨r, w', fs', h1, h2⟩
  · exact ha.elim
  · refine .inr ⟨.ok r, w', fs', ?_, ?_⟩
    · simp only [Prog.attempt, h1]
    · simp only [Prog.attempt, h2]

theorem mapError (f : ε → ε) {p : Prog ε (Conn σ) α} (hp : BaseFree (fun _ => False) p) :
    BaseFree E (mapError f p) := by
  intro fs b b' w
  rcases hp fs b b' w with ⟨a, ha, -⟩ | ⟨r, w', fs', h1, h2⟩
  · exact ha.elim
  · refine .inr ⟨r.mapError f, w', fs', ?_, ?_⟩
    · simp only [Prog.mapError, h1]
    · simp only [Prog.mapError, h2]

theorem weaken {E' : α → Prop} {p : Prog ε (Conn σ) α} (hp : BaseFree E p) (h : ∀ a, E a → E' a) :
    BaseFree E' p := by
  intro fs b b' w
  exact (hp fs b b' w).imp (fun ⟨a, ha, hr⟩ => ⟨a, h a ha, hr⟩) id

end BaseFree

/-- **A program without rollbacks** always does the same. -/
theorem RunsOnly.baseFree {S : (σ → Except ε σ) → Prop} {p : Prog ε (Conn σ) α}
    (h : RunsOnly S False p) : BaseFree (fun _ => False) p := by
  induction h with
  | ret a => exact .ret a
  | raise e => exact .raise e
  | select f => exact .select f
  | execute _ => exact .execute _
  | seq _ _ ihp ihk => exact ihp.seq_always ihk
  | attempt _ ih => exact ih.attempt
  | mapError f _ ih => exact ih.mapError f
  | rollback h => exact h.elim

/-! ## Outside a session -/

/-- Every run of `p` keeps `I`. -/
def Keeps (I : σ → Prop) (p : Prog ε σ α) : Prop :=
  ∀ (F : ε → Prop) s r s', p.Yields F s r s' → I s → I s'

namespace Keeps

variable {I : σ → Prop}

theorem ret (a : α) : Keeps I (pure a : Prog ε σ α) := by
  intro F s r s' hy hs
  rwa [(yields_pure hy).2]

theorem raise (e : ε) : Keeps I (throw e : Prog ε σ α) := by
  intro F s r s' hy hs
  rwa [(yields_throw hy).2]

theorem seq {p : Prog ε σ α} {k : α → Prog ε σ β} (hp : Keeps I p) (hk : ∀ a, Keeps I (k a)) :
    Keeps I (p >>= k) := by
  intro F s r s' hy hs
  rcases yields_bind hy with ⟨e, h1, -⟩ | ⟨a, s1, h1, h2⟩
  · exact hp F s _ s' h1 hs
  · exact hk a F s1 r s' h2 (hp F s _ s1 h1 hs)

theorem attempt {p : Prog ε σ α} (hp : Keeps I p) : Keeps I (attempt p) := by
  intro F s r s' hy hs
  obtain ⟨r', -, h1⟩ := yields_attempt hy
  exact hp F s r' s' h1 hs

theorem reading (p : Prog ε (Conn σ) α) : Keeps I (reading p) := by
  intro F s r s' hy hs
  rwa [(yields_reading hy).1]

/-- A session keeps what its statements keep. -/
theorem session {S : (σ → Except ε σ) → Prop} {R : Prop} {p : Prog ε (Conn σ) α}
    (h : RunsOnly S R p) (hI : ∀ f, S f → ∀ s s', I s → f s = .ok s' → I s') :
    Keeps I (session p) := by
  intro F s r s' hy hs
  rcases yields_session hy with ⟨e, -, rfl, -⟩ | ⟨a, c, -, h1, rfl⟩
  · exact hs
  · exact (h.preserves hI h1 hs hs).2

theorem mapError (f : ε → ε) {p : Prog ε σ α} (hp : Keeps I p) : Keeps I (mapError f p) := by
  intro F s r s' hy hs
  obtain ⟨r', h1, -⟩ := yields_mapError hy
  exact hp F s r' s' h1 hs

theorem autocommit {f : σ → Except ε σ} (h : ∀ s s', I s → f s = .ok s' → I s') :
    Keeps I (autocommit f) := by
  intro F s r s' hy hs
  cases r with
  | ok u => exact h s s' hs (yields_autocommit_ok hy)
  | error e =>
    rcases yields_stmt hy with ⟨_, hr, -⟩ | ⟨_, -, rfl, -⟩
    · cases hr
    · exact hs

/-- What follows a labelled SELECT works on a store that it has read. -/
theorem query {g : ε → ε} {f : σ → α} {k : α → Prog ε σ β} (h : ∀ s, Keeps I (k (f s))) :
    Keeps I (Prog.mapError g (query f) >>= k) := by
  intro F s r s' hy hs
  rcases yields_bind hy with ⟨e, h1, -⟩ | ⟨a, s1, h1, h2⟩
  · obtain ⟨_, h1, -⟩ := yields_mapError h1
    rcases yields_stmt h1 with ⟨_, -, he⟩ | ⟨_, -, rfl, -⟩
    · cases he
      exact hs
    · exact hs
  · obtain ⟨rfl, rfl⟩ := yields_query_ok (yields_mapError_ok h1)
    exact h _ F _ r s' h2 hs

end Keeps

end Sql.Prog
