import InvenTory.Lib.Guard

/-!
# What a session can end with

`Code.Gives x P` says that a session returns only what has `P`, whatever the store holds and whichever of
the statements fail that change it; the reads go through. It is put together as the session is
(`Gives.seq`, ..), and holds as well where the statements are checked (`Gives.guarded`).
-/

namespace Sql

open Prog

variable {ε σ α β : Type}

namespace Script

/-- The script ends with `P`, whatever is read and whichever changes fail. -/
def Gives (P : Except ε α → Prop) : Script ε σ α → Prop
  | done r => P r
  | read f k => ∀ s, (k (.ok (f s))).Gives P
  | write _ k => ∀ r, (k r).Gives P
  | rollback k => k.Gives P

theorem Gives.mono {P Q : Except ε α → Prop} (hPQ : ∀ r, P r → Q r) :
    ∀ {s : Script ε σ α}, s.Gives P → s.Gives Q
  | done r, h => hPQ r h
  | read _ _, h => fun s => (h s).mono hPQ
  | write _ _, h => fun r => (h r).mono hPQ
  | rollback k, h => Gives.mono (s := k) hPQ h

theorem gives_andThen {next : Except ε α → Script ε σ β} {P : Except ε β → Prop} :
    ∀ {s : Script ε σ α}, (s.andThen next).Gives P ↔ s.Gives fun r => (next r).Gives P
  | done _ => Iff.rfl
  | read _ _ => forall_congr' fun _ => gives_andThen
  | write _ _ => forall_congr' fun _ => gives_andThen
  | rollback k => gives_andThen (s := k)

theorem gives_guard {P : Except ε α → Prop} (ok : σ → Bool) (e : ε) :
    ∀ {s : Script ε σ α}, (s.guard ok e).Gives P ↔ s.Gives P
  | done _ => Iff.rfl
  | read _ _ => forall_congr' fun _ => gives_guard ok e
  | write _ _ => forall_congr' fun _ => gives_guard ok e
  | rollback k => gives_guard (s := k) ok e

/-- **A run** ends with `P`. -/
theorem Gives.eval {P : Except ε α → Prop} :
    ∀ {s : Script ε σ α}, s.Gives P → ∀ c : Conn σ, P (s.prog.eval c).1
  | done r, h, c => by
    cases r <;> exact h
  | read f k, h, c => by
    have heval : (read f k).prog.eval c = (k (.ok (f c.work))).prog.eval c := by
      show (attempt (select f) >>= fun r => (k r).prog).eval c = _
      rw [eval_bind, eval_attempt, eval_select]
    rw [heval]
    exact (h c.work).eval c
  | write f k, h, c => by
    show P ((attempt (execute f) >>= fun r => (k r).prog).eval c).1
    rw [eval_bind, eval_attempt]
    exact (h _).eval _
  | rollback k, h, c => by
    show P ((attempt Prog.rollback >>= fun _ => k.prog).eval c).1
    rw [eval_bind, eval_attempt]
    exact Gives.eval (s := k) h _

end Script

namespace Code

variable {S : (σ → Except ε σ) → Prop} {R : Prop} {P : α → Prop}

/-- The session returns what has `P`, or raises. -/
def Gives {p : Prog ε (Conn σ) α} (x : Code S R p) (P : α → Prop) : Prop :=
  x.script.Gives fun r => ∀ a, r = .ok a → P a

namespace Gives

theorem ret {a : α} (h : P a) : Gives (.ret a : Code S R _) P := by
  rintro b ⟨⟩
  exact h

theorem raise (e : ε) : Gives (.raise e : Code S R (throw e : Prog ε (Conn σ) α)) P := nofun

theorem select {f : σ → α} (h : ∀ s, P (f s)) : Gives (.select f : Code S R _) P := by
  rintro s b ⟨⟩
  exact h s

theorem execute {f : σ → Except ε σ} {hf : S f} {P : Unit → Prop} (h : P ()) :
    Gives (.execute hf : Code S R _) P := fun _ _ _ => h

/-- An attempt to read. -/
theorem attemptSelect {f : σ → α} {P : Except ε α → Prop} (h : ∀ s, P (.ok (f s))) :
    Gives (.attempt (.select f) : Code S R _) P := by
  rintro s b ⟨⟩
  exact h s

theorem mono {Q : α → Prop} {p : Prog ε (Conn σ) α} {x : Code S R p} (h : x.Gives P)
    (hPQ : ∀ a, P a → Q a) : x.Gives Q :=
  Script.Gives.mono (fun _ hr a ha => hPQ a (hr a ha)) h

/-- **One after the other.** -/
theorem seq {p : Prog ε (Conn σ) α} {k : α → Prog ε (Conn σ) β} {x : Code S R p}
    {y : ∀ a, Code S R (k a)} {Q : β → Prop} (hx : x.Gives P) (hy : ∀ a, P a → (y a).Gives Q) :
    (x.seq y).Gives Q := by
  unfold Gives
  rw [script, Script.gives_andThen]
  refine Script.Gives.mono (fun r hr => ?_) hx
  cases r with
  | ok a => exact hy a (hr a rfl)
  | error e =>
    intro a ha
    cases ha

/-- Whatever the first part returns. -/
theorem last {p : Prog ε (Conn σ) α} {k : α → Prog ε (Conn σ) β} {x : Code S R p}
    {y : ∀ a, Code S R (k a)} {Q : β → Prop} (hy : ∀ a, (y a).Gives Q) : (x.seq y).Gives Q := by
  have htrue : ∀ s : Script ε σ α, s.Gives fun r => ∀ a, r = .ok a → True := by
    intro s
    induction s with
    | done r => exact fun _ _ => trivial
    | read f k ih => exact fun s => ih _
    | write f k ih => exact fun r => ih r
    | rollback k ih => exact ih
  exact seq (P := fun _ => True) (htrue _) fun a _ => hy a

theorem mapError {f : ε → ε} {p : Prog ε (Conn σ) α} {x : Code S R p} (h : x.Gives P) :
    (x.mapError f).Gives P := by
  unfold Gives
  rw [script, Script.gives_andThen]
  refine Script.Gives.mono (fun r hr a ha => ?_) h
  cases r with
  | ok b =>
    cases ha
    exact hr a rfl
  | error e => cases ha

theorem cond {q : Prop} [Decidable q] {p p' : Prog ε (Conn σ) α} {x : q → Code S R p}
    {y : ¬ q → Code S R p'} (hx : ∀ h, (x h).Gives P) (hy : ∀ h, (y h).Gives P) :
    (Code.cond x y).Gives P := by
  unfold Gives
  rw [script]
  split
  · exact hx _
  · exact hy _

theorem weaken {S' : (σ → Except ε σ) → Prop} {R' : Prop} {hS : ∀ f, S f → S' f} {hR : R → R'}
    {p : Prog ε (Conn σ) α} {x : Code S R p} (h : x.Gives P) : (x.mono hS hR).Gives P := by
  unfold Gives
  rw [script_mono]
  exact h

/-- **Where the statements are checked**, too. -/
theorem guarded {p : Prog ε (Conn σ) α} {x : Code S R p} (h : x.Gives P) (ok : σ → Bool) (e : ε)
    {c c' : Conn σ} {a : α} (hrun : (x.guarded ok e).eval c = (.ok a, c')) : P a := by
  have hend := Script.Gives.eval ((Script.gives_guard ok e).2 h) c
  exact hend a (congrArg Prod.fst hrun)

end Gives

end Code

end Sql
