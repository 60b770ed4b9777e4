import InvenTory.Lib.Session

/-!
# Triples over transactional programs

`Triple F P p Q E`: from a store with `P`, and with statements failing in `F` only, a run of `p`
that returns `a` ends in a store with `Q a`, and one that raises `e` has `E e`. There is a rule for
every constructor of a program; a statement's rule asks for its success and for its own failure,
and for `E` to hold of the faults.
-/

namespace Sql.Prog

variable {ε σ α β : Type} {F : ε → Prop} {P : σ → Prop} {E : ε → Prop}

/-- What holds of an outcome: `Q` of a value and the store it is returned in, `E` of an
exception. -/
def Ends (Q : α → σ → Prop) (E : ε → Prop) (s : σ) : Except ε α → Prop
  | .ok a => Q a s
  | .error e => E e

def Triple (F : ε → Prop) (P : σ → Prop) (p : Prog ε σ α) (Q : α → σ → Prop) (E : ε → Prop) :
    Prop :=
  ∀ s r s', P s → p.Yields F s r s' → Ends Q E s' r

namespace Triple

theorem ok {p : Prog ε σ α} {Q : α → σ → Prop} (h : Triple F P p Q E) {s s' : σ} {a : α}
    (hP : P s) (hy : p.Yields F s (.ok a) s') : Q a s' := h s _ s' hP hy

theorem error {p : Prog ε σ α} {Q : α → σ → Prop} (h : Triple F P p Q E) {s s' : σ} {e : ε}
    (hP : P s) (hy : p.Yields F s (.error e) s') : E e := h s _ s' hP hy

/-! ## Consequence -/

theorem pre {P' : σ → Prop} {p : Prog ε σ α} {Q : α → σ → Prop} (h : Triple F P p Q E)
    (hP : ∀ s, P' s → P s) : Triple F P' p Q E := fun s r s' hs hy => h s r s' (hP s hs) hy

theorem post {p : Prog ε σ α} {Q Q' : α → σ → Prop} (h : Triple F P p Q E)
    (hQ : ∀ a s, Q a s → Q' a s) : Triple F P p Q' E := by
  intro s r s' hs hy
  have hr := h s r s' hs hy
  cases r with
  | ok a => exact hQ a s' hr
  | error e => exact hr

/-- A fact about the store at the start may be used as a hypothesis. -/
theorem assume {p : Prog ε σ α} {Q : α → σ → Prop} (h : ∀ s, P s → Triple F (· = s) p Q E) :
    Triple F P p Q E := fun s r s' hs hy => h s hs s r s' rfl hy

/-! ## Constructors -/

theorem ret {a : α} {Q : α → σ → Prop} (h : ∀ s, P s → Q a s) :
    Triple F P (pure a : Prog ε σ α) Q E := by
  intro s r s' hs hy
  obtain ⟨rfl, rfl⟩ := yields_pure hy
  exact h _ hs

theorem raise {e : ε} {Q : α → σ → Prop} (h : E e) : Triple F P (throw e : Prog ε σ α) Q E := by
  intro s r s' _ hy
  obtain ⟨rfl, rfl⟩ := yields_throw hy
  exact h

theorem seq {p : Prog ε σ α} {k : α → Prog ε σ β} {R : α → σ → Prop} {Q : β → σ → Prop}
    (hp : Triple F P p R E) (hk : ∀ a, Triple F (R a) (k a) Q E) : Triple F P (p >>= k) Q E := by
  intro s r s' hs hy
  rcases yields_bind hy with ⟨e, h1, rfl⟩ | ⟨a, s1, h1, h2⟩
  · exact hp.error hs h1
  · exact hk a s1 r s' (hp.ok hs h1) h2

theorem mapError {f : ε → ε} {p : Prog ε σ α} {Q : α → σ → Prop}
    (h : Triple F P p Q fun e => E (f e)) : Triple F P (mapError f p) Q E := by
  intro s r s' hs hy
  obtain ⟨r', hr', rfl⟩ := yields_mapError hy
  cases r' with
  | ok a => exact h.ok hs hr'
  | error e => exact h.error hs hr'

/-! ## Statements -/

section
variable {Pc : Conn σ → Prop} (hF : ∀ e, F e → E e)
include hF

theorem select {f : σ → α} {Q : α → Conn σ → Prop} (h : ∀ c, Pc c → Q (f c.work) c) :
    Triple F Pc (Prog.select f : Prog ε (Conn σ) α) Q E := by
  intro c r c' hc hy
  cases r with
  | ok a =>
    obtain ⟨rfl, rfl⟩ := yields_select_ok hy
    exact h _ hc
  | error e => exact hF e (yields_select_error hy).2

theorem execute {f : σ → Except ε σ} {Q : Conn σ → Prop}
    (hok : ∀ c w, Pc c → f c.work = .ok w → Q { c with work := w })
    (herr : ∀ c e, Pc c → f c.work = .error e → E e) :
    Triple F Pc (Prog.execute f) (fun _ => Q) E := by
  intro c r c' hc hy
  cases r with
  | ok u =>
    obtain ⟨hw, hb⟩ := yields_execute_ok hy
    have hq := hok c c'.work hc hw
    rw [← hb] at hq
    exact hq
  | error e =>
    rcases yields_execute_error hy with h | h
    · exact hF e h
    · exact herr c e hc h

end

/-- A SELECT that may fail, and whose exception is caught. -/
theorem attemptSelect {f : σ → α} {Q : Except ε α → Conn σ → Prop}
    (hok : ∀ c, Pc c → Q (.ok (f c.work)) c) (herr : ∀ c e, Pc c → F e → Q (.error e) c) :
    Triple F Pc (attempt (Prog.select f)) Q E := by
  intro c r c' hc hy
  obtain ⟨r', rfl, hr'⟩ := yields_attempt hy
  cases r' with
  | ok a =>
    obtain ⟨rfl, rfl⟩ := yields_select_ok hr'
    exact hok _ hc
  | error e =>
    obtain ⟨rfl, hFe⟩ := yields_select_error hr'
    exact herr _ e hc hFe

theorem rollback {Pc : Conn σ → Prop} {Q : Conn σ → Prop}
    (h : ∀ c, Pc c → Q { c with work := c.base }) :
    Triple F Pc (rollback : Prog ε (Conn σ) Unit) (fun _ => Q) E := by
  intro c r c' hc hy
  obtain ⟨rfl, rfl⟩ := yields_rollback hy
  exact h c hc

end Triple

end Sql.Prog
