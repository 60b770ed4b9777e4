import InvenTory.Lib.Script

/-!
# A constraint on the store

`Code.guarded ok e` is a session on a database that refuses, with the error `e`, every statement that
would leave a store which is not `ok`. It is put together as the session is (`guarded_seq`, ..), and
`Checked x c P` says when it goes through: if the session does, and `P`.
-/

namespace Sql

open Prog

variable {ε σ α β : Type}

/-- The statement, refused if it leaves a store that is not `ok`. -/
def checked (ok : σ → Bool) (e : ε) (f : σ → Except ε σ) (s : σ) : Except ε σ :=
  match f s with
  | .ok s' => if ok s' then .ok s' else .error e
  | .error x => .error x

theorem checked_ok_iff {ok : σ → Bool} {e : ε} {f : σ → Except ε σ} {s s' : σ} :
    checked ok e f s = .ok s' ↔ f s = .ok s' ∧ ok s' = true := by
  unfold checked
  cases f s with
  | error x => simp
  | ok w =>
    dsimp only
    split
    · rename_i h
      simp only [Except.ok.injEq]
      exact ⟨fun he => ⟨he, he ▸ h⟩, And.left⟩
    · rename_i h
      simp only [Except.ok.injEq, false_iff, not_and, Bool.not_eq_true, reduceCtorEq]
      exact fun he => he ▸ Bool.eq_false_iff.2 h

namespace Script

/-- The script with its statements checked. -/
def guard (ok : σ → Bool) (e : ε) : Script ε σ α → Script ε σ α
  | done r => done r
  | read f k => read f fun r => (k r).guard ok e
  | write f k => write (checked ok e f) fun r => (k r).guard ok e
  | rollback k => rollback (k.guard ok e)

theorem guard_andThen (ok : σ → Bool) (e : ε) (next : Except ε α → Script ε σ β)
    (s : Script ε σ α) :
    (s.andThen next).guard ok e = (s.guard ok e).andThen fun r => (next r).guard ok e := by
  induction s with
  | done r => rfl
  | read f k ih =>
    simp only [andThen, guard, ih]
  | write f k ih =>
    simp only [andThen, guard, ih]
  | rollback k ih =>
    simp only [andThen, guard, ih]

end Script

namespace Code

variable {S : (σ → Except ε σ) → Prop} {R : Prop} {ok : σ → Bool} {e : ε}

/-- The program with its statements checked. -/
def guarded {p : Prog ε (Conn σ) α} (x : Code S R p) (ok : σ → Bool) (e : ε) : Prog ε (Conn σ) α :=
  (x.script.guard ok e).prog

theorem guarded_select (f : σ → α) : (select f : Code S R _).guarded ok e = Prog.select f :=
  attempt_bind_ofExcept _

theorem guarded_execute {f : σ → Except ε σ} (h : S f) :
    (execute h : Code S R _).guarded ok e = Prog.execute (checked ok e f) :=
  attempt_bind_ofExcept _

theorem guarded_seq {p : Prog ε (Conn σ) α} {k : α → Prog ε (Conn σ) β} (x : Code S R p)
    (y : ∀ a, Code S R (k a)) :
    (x.seq y).guarded ok e = x.guarded ok e >>= fun a => (y a).guarded ok e := by
  unfold guarded
  rw [script, Script.guard_andThen, Script.prog_andThen]
  exact attempt_bind_eq (fun _ => rfl) fun _ => rfl

theorem guarded_mapError (f : ε → ε) {p : Prog ε (Conn σ) α} (x : Code S R p) :
    (x.mapError f).guarded ok e = Prog.mapError f (x.guarded ok e) := by
  unfold guarded
  rw [script, Script.guard_andThen, Script.prog_andThen]
  exact attempt_bind_mapError f _

theorem guarded_mono {S' : (σ → Except ε σ) → Prop} {R' : Prop} (hS : ∀ f, S f → S' f) (hR : R → R')
    {p : Prog ε (Conn σ) α} (x : Code S R p) : (x.mono hS hR).guarded ok e = x.guarded ok e := by
  unfold guarded
  rw [x.script_mono]

/-- The checked session returns what the session does, if `P`; and in a store that is `ok`. -/
structure Checked (ok : σ → Bool) (e : ε) {p : Prog ε (Conn σ) α} (x : Code S R p) (c : Conn σ)
    (P : Prop) : Prop where
  iff : ∀ a c', (x.guarded ok e).eval c = (.ok a, c') ↔ p.eval c = (.ok a, c') ∧ P
  ok : ∀ a c', (x.guarded ok e).eval c = (.ok a, c') → ok c'.work = true

namespace Checked

variable {c : Conn σ} {P Q : Prop}

theorem congr {p : Prog ε (Conn σ) α} {x : Code S R p} (h : Checked ok e x c P) (hPQ : P ↔ Q) :
    Checked ok e x c Q := ⟨fun a c' => (h.iff a c').trans (and_congr_right fun _ => hPQ), h.ok⟩

theorem ret (hc : ok c.work = true) (a : α) : Checked ok e (.ret a : Code S R _) c True where
  iff _ _ := (and_iff_left trivial).symm
  ok _ _ h := by
    cases h
    exact hc

theorem select (hc : ok c.work = true) (f : σ → α) :
    Checked ok e (.select f : Code S R _) c True where
  iff _ _ := by rw [guarded_select, and_iff_left trivial]
  ok _ _ h := by
    rw [guarded_select, eval_select] at h
    cases h
    exact hc

/-- A statement that may leave a store which is not `ok`. -/
theorem execute {f : σ → Except ε σ} (hf : S f) (h : ∀ w, f c.work = .ok w → (ok w = true ↔ P)) :
    Checked ok e (.execute hf : Code S R _) c P := by
  have heval : ∀ (g : σ → Except ε σ) (a : Unit) (c' : Conn σ),
      (Prog.execute g).eval c = (.ok a, c') ↔ g c.work = .ok c'.work ∧ c'.base = c.base := by
    intro g a c'
    cases hg : g c.work with
    | error x => simp [eval_execute_error hg]
    | ok w =>
      rw [eval_execute_ok hg]
      cases c'
      simp [eq_comm, and_comm]
  constructor
  · intro a c'
    rw [guarded_execute, heval, heval, checked_ok_iff]
    constructor
    · rintro ⟨⟨hw, hok⟩, hbase⟩
      exact ⟨⟨hw, hbase⟩, (h _ hw).1 hok⟩
    · rintro ⟨⟨hw, hbase⟩, hP⟩
      exact ⟨⟨hw, (h _ hw).2 hP⟩, hbase⟩
  · intro a c' hc
    rw [guarded_execute, heval, checked_ok_iff] at hc
    exact hc.1.2

/-- **One after the other.** -/
theorem seq {p : Prog ε (Conn σ) α} {k : α → Prog ε (Conn σ) β} {x : Code S R p}
    {y : ∀ a, Code S R (k a)} (hx : Checked ok e x c P)
    (hy : ∀ a c', p.eval c = (.ok a, c') → ok c'.work = true → Checked ok e (y a) c' Q) :
    Checked ok e (x.seq y) c (P ∧ Q) := by
  constructor
  · intro b c'
    rw [guarded_seq, eval_bind, eval_bind]
    rcases hg : (x.guarded ok e).eval c with ⟨e' | a, c₁⟩
    · -- the first part is refused, or fails by itself
      refine ⟨(fun h => by cases h), fun ⟨h, hP, _⟩ => ?_⟩
      rcases hp : p.eval c with ⟨_ | a, c₂⟩
      · rw [hp] at h
        cases h
      · rw [(hx.iff a c₂).2 ⟨hp, hP⟩] at hg
        cases hg
    · obtain ⟨hp, hP⟩ := (hx.iff a c₁).1 hg
      rw [hp]
      exact ((hy a c₁ hp (hx.ok a c₁ hg)).iff b c').trans
        ⟨fun h => ⟨h.1, hP, h.2⟩, fun h => ⟨h.1, h.2.2⟩⟩
  · intro b c' h
    rw [guarded_seq, eval_bind] at h
    rcases hg : (x.guarded ok e).eval c with ⟨e' | a, c₁⟩
    · rw [hg] at h
      cases h
    · rw [hg] at h
      exact (hy a c₁ ((hx.iff a c₁).1 hg).1 (hx.ok a c₁ hg)).ok b c' h

theorem mapError {f : ε → ε} {p : Prog ε (Conn σ) α} {x : Code S R p} (hx : Checked ok e x c P) :
    Checked ok e (x.mapError f) c P := by
  have heval : ∀ (q : Prog ε (Conn σ) α) a c', (Prog.mapError f q).eval c = (.ok a, c') ↔
      q.eval c = (.ok a, c') := by
    intro q a c'
    rw [eval_mapError]
    rcases q.eval c with ⟨_ | _, _⟩ <;> simp [Except.mapError]
  constructor
  · intro a c'
    rw [guarded_mapError, heval, heval]
    exact hx.iff a c'
  · intro a c' h
    rw [guarded_mapError, heval] at h
    exact hx.ok a c' h

theorem cond {q : Prop} [Decidable q] {p p' : Prog ε (Conn σ) α} {x : q → Code S R p}
    {y : ¬ q → Code S R p'} (hx : ∀ h, Checked ok e (x h) c P) (hy : ∀ h, Checked ok e (y h) c P) :
    Checked ok e (.cond x y) c P := by
  by_cases h : q
  · have hg : (Code.cond x y).guarded ok e = (x h).guarded ok e := by
      unfold guarded
      rw [script, dif_pos h]
    exact ⟨by rw [hg, if_pos h]; exact (hx h).iff, by rw [hg]; exact (hx h).ok⟩
  · have hg : (Code.cond x y).guarded ok e = (y h).guarded ok e := by
      unfold guarded
      rw [script, dif_neg h]
    exact ⟨by rw [hg, if_neg h]; exact (hy h).iff, by rw [hg]; exact (hy h).ok⟩

theorem mono {S' : (σ → Except ε σ) → Prop} {R' : Prop} {hS : ∀ f, S f → S' f} {hR : R → R'}
    {p : Prog ε (Conn σ) α} {x : Code S R p} (hx : Checked ok e x c P) :
    Checked ok e (x.mono hS hR) c P := by
  constructor
  · rw [guarded_mono]
    exact hx.iff
  · rw [guarded_mono]
    exact hx.ok

end Checked

end Code

end Sql
