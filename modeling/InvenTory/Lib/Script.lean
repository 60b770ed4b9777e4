import InvenTory.Lib.Session

/-!
# Programs statement by statement

A `Prog` runs as a whole. A `Script` is a session as the tree of its statements, which can be stopped
between any two of them, and a `Flow` is a program as the sequence of its sessions. A `Code S R p`
says how `p` is put together, so that `p` has a script (`Code.script`), which runs as `p` does
(`Code.prog_script`); the statements that change the store are of the set `S`, and there are rollbacks
only if `R` holds (`Code.only`). `FlowCode` is the same for programs that open sessions.
-/

namespace Sql

/-- A session; what it goes on with depends on how the statement ends. -/
inductive Script (ε σ α : Type) : Type 1
  | done (r : Except ε α)
  | read {β : Type} (f : σ → β) (next : Except ε β → Script ε σ α)
  | write (f : σ → Except ε σ) (next : Except ε Unit → Script ε σ α)
  | rollback (next : Script ε σ α)

/-- A program; the sessions that do not commit only read. -/
inductive Flow (ε σ α : Type) : Type 1
  | done (r : Except ε α)
  | session {β : Type} (commits : Bool) (body : Script ε σ β) (next : Except ε β → Flow ε σ α)

variable {ε σ α β : Type}

namespace Prog

/-! ## Equations -/

theorem ext {p q : Prog ε σ α} (h : ∀ fs s, p.run fs s = q.run fs s) : p = q := by
  cases p
  cases q
  congr
  funext fs s
  exact h fs s

/-- Return or raise `r`. -/
def ofExcept : Except ε α → Prog ε σ α
  | .ok a => pure a
  | .error e => throw e

theorem run_bind (p : Prog ε σ α) (k : α → Prog ε σ β) (fs : List (Option ε)) (s : σ) :
    (p >>= k).run fs s = match p.run fs s with
      | ⟨.ok a, s', fs'⟩ => (k a).run fs' s'
      | ⟨.error e, s', fs'⟩ => ⟨.error e, s', fs'⟩ := rfl

theorem run_attempt_bind (p : Prog ε σ α) (k : Except ε α → Prog ε σ β) (fs : List (Option ε))
    (s : σ) : (attempt p >>= k).run fs s =
      (k (p.run fs s).result).run (p.run fs s).faults (p.run fs s).state := rfl

theorem attempt_ofExcept_bind (r : Except ε α) (k : Except ε α → Prog ε σ β) :
    attempt (ofExcept r) >>= k = k r := by
  apply ext
  intro fs s
  cases r <;> rfl

/-- An attempt that goes on with `k` is an attempt of what `k` goes on with. -/
theorem attempt_attempt_bind {γ : Type} (p : Prog ε σ α) (k : Except ε α → Prog ε σ β)
    (l : Except ε β → Prog ε σ γ) :
    (attempt (attempt p >>= k) >>= l) = attempt p >>= fun r => attempt (k r) >>= l := by
  apply ext
  intro fs s
  simp only [run_attempt_bind]

/-- What follows `p` only if it returns. -/
theorem attempt_bind_eq {p : Prog ε σ α} {k : α → Prog ε σ β} {k' : Except ε α → Prog ε σ β}
    (hok : ∀ a, k' (.ok a) = k a) (herr : ∀ e, k' (.error e) = throw e) :
    attempt p >>= k' = p >>= k := by
  apply ext
  intro fs s
  rw [run_attempt_bind, run_bind]
  rcases p.run fs s with ⟨e | a, s', fs'⟩
  · rw [herr]
    rfl
  · rw [hok]

theorem attempt_bind_ofExcept (p : Prog ε σ α) : (attempt p >>= ofExcept) = p := by
  apply ext
  intro fs s
  rw [run_attempt_bind]
  rcases p.run fs s with ⟨_ | a, s', fs'⟩ <;> rfl

theorem attempt_bind_pure (p : Prog ε σ α) : (attempt p >>= pure) = attempt p := rfl

theorem attempt_bind_mapError (f : ε → ε) (p : Prog ε σ α) :
    (attempt p >>= fun r => ofExcept (r.mapError f)) = mapError f p := by
  apply ext
  intro fs s
  rw [run_attempt_bind]
  show _ = (⟨(p.run fs s).result.mapError f, (p.run fs s).state, (p.run fs s).faults⟩ : Run ε σ α)
  rcases p.run fs s with ⟨_ | a, s', fs'⟩ <;> rfl

end Prog

open Prog

/-! ## Scripts -/

namespace Script

/-- `k` if the session has returned so far. -/
def onOk (k : α → Script ε σ β) : Except ε α → Script ε σ β
  | .ok a => k a
  | .error e => done (.error e)

/-- `next` after the end of a script. -/
def andThen (next : Except ε α → Script ε σ β) : Script ε σ α → Script ε σ β
  | done r => next r
  | read f k => read f fun r => (k r).andThen next
  | write f k => write f fun r => (k r).andThen next
  | rollback k => rollback (k.andThen next)

/-- The script run as a whole. -/
def prog : Script ε σ α → Prog ε (Conn σ) α
  | done r => ofExcept r
  | read f k => attempt (select f) >>= fun r => (k r).prog
  | write f k => attempt (execute f) >>= fun r => (k r).prog
  | rollback k => attempt Prog.rollback >>= fun _ => k.prog

theorem prog_andThen (next : Except ε α → Script ε σ β) (s : Script ε σ α) :
    (s.andThen next).prog = attempt s.prog >>= fun r => (next r).prog := by
  induction s with
  | done r => exact (attempt_ofExcept_bind r fun r => (next r).prog).symm
  | read f k ih =>
    show (attempt (select f) >>= fun r => ((k r).andThen next).prog) = _
    simp only [ih]
    exact (attempt_attempt_bind _ _ _).symm
  | write f k ih =>
    show (attempt (execute f) >>= fun r => ((k r).andThen next).prog) = _
    simp only [ih]
    exact (attempt_attempt_bind _ _ _).symm
  | rollback k ih =>
    show (attempt Prog.rollback >>= fun _ => (k.andThen next).prog) = _
    rw [ih]
    exact (attempt_attempt_bind _ _ _).symm

/-- The statements that change the store are of `S`, and there are rollbacks only if `R` holds. -/
def Only (S : (σ → Except ε σ) → Prop) (R : Prop) : Script ε σ α → Prop
  | done _ => True
  | read _ k => ∀ r, (k r).Only S R
  | write f k => S f ∧ ∀ r, (k r).Only S R
  | rollback k => R ∧ k.Only S R

theorem Only.andThen {S : (σ → Except ε σ) → Prop} {R : Prop} {next : Except ε α → Script ε σ β}
    (hn : ∀ r, (next r).Only S R) : ∀ {s : Script ε σ α}, s.Only S R → (s.andThen next).Only S R
  | done r, _ => hn r
  | read _ _, h => fun r => (h r).andThen hn
  | write _ _, h => ⟨h.1, fun r => (h.2 r).andThen hn⟩
  | rollback _, h => ⟨h.1, h.2.andThen hn⟩

end Script

/-- How the session `p` is put together. -/
inductive Code (S : (σ → Except ε σ) → Prop) (R : Prop) :
    {α : Type} → Prog ε (Conn σ) α → Type 1
  | ret {α : Type} (a : α) : Code S R (pure a)
  | raise {α : Type} (e : ε) : Code S R (throw e : Prog ε (Conn σ) α)
  | select {α : Type} (f : σ → α) : Code S R (select f)
  | execute {f : σ → Except ε σ} (h : S f) : Code S R (execute f)
  | seq {α β : Type} {p : Prog ε (Conn σ) α} {k : α → Prog ε (Conn σ) β} (hp : Code S R p)
    (hk : ∀ a, Code S R (k a)) : Code S R (p >>= k)
  | attempt {α : Type} {p : Prog ε (Conn σ) α} (hp : Code S R p) : Code S R (attempt p)
  | mapError {α : Type} (f : ε → ε) {p : Prog ε (Conn σ) α} (hp : Code S R p) :
    Code S R (mapError f p)
  | rollback (h : R) : Code S R Prog.rollback
  | cond {α : Type} {c : Prop} [Decidable c] {p q : Prog ε (Conn σ) α} (hp : c → Code S R p)
    (hq : ¬c → Code S R q) : Code S R (if c then p else q)

namespace Code

variable {S : (σ → Except ε σ) → Prop} {R : Prop}

def script : {α : Type} → {p : Prog ε (Conn σ) α} → Code S R p → Script ε σ α
  | _, _, ret a => .done (.ok a)
  | _, _, raise e => .done (.error e)
  | _, _, select f => .read f .done
  | _, _, execute (f := f) _ => .write f .done
  | _, _, seq hp hk => hp.script.andThen (.onOk fun a => (hk a).script)
  | _, _, attempt hp => hp.script.andThen fun r => .done (.ok r)
  | _, _, mapError f hp => hp.script.andThen fun r => .done (r.mapError f)
  | _, _, rollback _ => .rollback (.done (.ok ()))
  | _, _, cond (c := c) hp hq => if h : c then (hp h).script else (hq h).script

/-- **The script of a program** runs as the program does. -/
theorem prog_script {p : Prog ε (Conn σ) α} (c : Code S R p) : c.script.prog = p := by
  induction c with
  | ret a => rfl
  | raise e => rfl
  | select f => exact attempt_bind_ofExcept _
  | execute h => exact attempt_bind_ofExcept _
  | @seq _ _ p k hp hk ihp ihk =>
    rw [script, Script.prog_andThen, ihp]
    exact attempt_bind_eq ihk fun _ => rfl
  | attempt hp ih =>
    rw [script, Script.prog_andThen, ih]
    exact attempt_bind_pure _
  | mapError f hp ih =>
    rw [script, Script.prog_andThen, ih]
    exact attempt_bind_mapError f _
  | rollback h => rfl
  | @cond _ c _ p q hp hq ihp ihq =>
    by_cases h : c
    · rw [script, dif_pos h, if_pos h]
      exact ihp h
    · rw [script, dif_neg h, if_neg h]
      exact ihq h

theorem only {p : Prog ε (Conn σ) α} (c : Code S R p) : c.script.Only S R := by
  induction c with
  | ret a => trivial
  | raise e => trivial
  | select f => exact fun _ => trivial
  | execute h => exact ⟨h, fun _ => trivial⟩
  | seq hp hk ihp ihk =>
    rw [script]
    refine ihp.andThen fun r => ?_
    cases r with
    | ok a => exact ihk a
    | error e => trivial
  | attempt hp ih =>
    rw [script]
    refine ih.andThen fun _ => ?_
    trivial
  | mapError f hp ih =>
    rw [script]
    refine ih.andThen fun _ => ?_
    trivial
  | rollback h => exact ⟨h, trivial⟩
  | @cond _ c _ p q hp hq ihp ihq =>
    unfold script
    split
    · exact ihp _
    · exact ihq _

/-- The statements that change the store are of `T`, too. -/
def All (T : (σ → Except ε σ) → Prop) : {α : Type} → {p : Prog ε (Conn σ) α} → Code S R p → Prop
  | _, _, ret _ => True
  | _, _, raise _ => True
  | _, _, select _ => True
  | _, _, execute (f := f) _ => T f
  | _, _, seq hp hk => hp.All T ∧ ∀ a, (hk a).All T
  | _, _, attempt hp => hp.All T
  | _, _, mapError _ hp => hp.All T
  | _, _, rollback _ => True
  | _, _, cond hp hq => (∀ h, (hp h).All T) ∧ ∀ h, (hq h).All T

theorem All.only {T : (σ → Except ε σ) → Prop} {p : Prog ε (Conn σ) α} {c : Code S R p}
    (h : c.All T) : c.script.Only T R := by
  induction c with
  | ret a => trivial
  | raise e => trivial
  | select f => exact fun _ => trivial
  | execute hf => exact ⟨h, fun _ => trivial⟩
  | seq hp hk ihp ihk =>
    rw [script]
    refine (ihp h.1).andThen fun r => ?_
    cases r with
    | ok a => exact ihk a (h.2 a)
    | error e => trivial
  | attempt hp ih =>
    rw [script]
    refine (ih h).andThen fun _ => ?_
    trivial
  | mapError f hp ih =>
    rw [script]
    refine (ih h).andThen fun _ => ?_
    trivial
  | rollback hr => exact ⟨hr, trivial⟩
  | @cond _ c _ p q hp hq ihp ihq =>
    unfold script
    split
    · exact ihp _ (h.1 _)
    · exact ihq _ (h.2 _)

/-- The same program, in a larger set of statements. -/
def mono {S' : (σ → Except ε σ) → Prop} {R' : Prop} (hS : ∀ f, S f → S' f) (hR : R → R') :
    {α : Type} → {p : Prog ε (Conn σ) α} → Code S R p → Code S' R' p
  | _, _, ret a => .ret a
  | _, _, raise e => .raise e
  | _, _, select f => .select f
  | _, _, execute h => .execute (hS _ h)
  | _, _, seq hp hk => .seq (hp.mono hS hR) fun a => (hk a).mono hS hR
  | _, _, attempt hp => .attempt (hp.mono hS hR)
  | _, _, mapError f hp => .mapError f (hp.mono hS hR)
  | _, _, rollback h => .rollback (hR h)
  | _, _, cond hp hq => .cond (fun h => (hp h).mono hS hR) fun h => (hq h).mono hS hR

theorem script_mono {S' : (σ → Except ε σ) → Prop} {R' : Prop} (hS : ∀ f, S f → S' f)
    (hR : R → R') {p : Prog ε (Conn σ) α} (c : Code S R p) : (c.mono hS hR).script = c.script := by
  induction c with
  | ret a => rfl
  | raise e => rfl
  | select f => rfl
  | execute h => rfl
  | seq hp hk ihp ihk =>
    unfold mono script
    simp only [ihp, ihk]
  | attempt hp ih =>
    unfold mono script
    rw [ih]
  | mapError f hp ih =>
    unfold mono script
    rw [ih]
  | rollback h => rfl
  | cond hp hq ihp ihq =>
    unfold mono script
    simp only [ihp, ihq]

end Code

/-! ## Flows -/

namespace Flow

/-- `k` if the program has returned so far. -/
def onOk (k : α → Flow ε σ β) : Except ε α → Flow ε σ β
  | .ok a => k a
  | .error e => done (.error e)

/-- `next` after the end of a flow. -/
def andThen (next : Except ε α → Flow ε σ β) : Flow ε σ α → Flow ε σ β
  | done r => next r
  | session commits body k => session commits body fun r => (k r).andThen next

/-- The flow run as a whole. -/
def prog : Flow ε σ α → Prog ε σ α
  | done r => ofExcept r
  | session commits body k =>
    attempt (if commits then Prog.session body.prog else reading body.prog) >>= fun r => (k r).prog

theorem prog_andThen (next : Except ε α → Flow ε σ β) (w : Flow ε σ α) :
    (w.andThen next).prog = attempt w.prog >>= fun r => (next r).prog := by
  induction w with
  | done r => exact (attempt_ofExcept_bind r fun r => (next r).prog).symm
  | session commits body k ih =>
    rw [andThen, prog, prog]
    simp only [ih]
    exact (attempt_attempt_bind _ _ _).symm

/-- The statements of all sessions are of `S`. -/
def Only (S : (σ → Except ε σ) → Prop) (R : Prop) : Flow ε σ α → Prop
  | done _ => True
  | session _ body k => body.Only S R ∧ ∀ r, (k r).Only S R

theorem Only.andThen {S : (σ → Except ε σ) → Prop} {R : Prop} {next : Except ε α → Flow ε σ β}
    (hn : ∀ r, (next r).Only S R) : ∀ {w : Flow ε σ α}, w.Only S R → (w.andThen next).Only S R
  | done r, _ => hn r
  | session _ _ _, h => ⟨h.1, fun r => (h.2 r).andThen hn⟩

end Flow

/-- How the program `p` is put together from sessions. -/
inductive FlowCode (S : (σ → Except ε σ) → Prop) (R : Prop) :
    {α : Type} → Prog ε σ α → Type 1
  | ret {α : Type} (a : α) : FlowCode S R (pure a)
  | raise {α : Type} (e : ε) : FlowCode S R (throw e : Prog ε σ α)
  | session {α : Type} {p : Prog ε (Conn σ) α} (c : Code S R p) : FlowCode S R (session p)
  | reading {α : Type} {p : Prog ε (Conn σ) α} (c : Code S R p) : FlowCode S R (reading p)
  | seq {α β : Type} {p : Prog ε σ α} {k : α → Prog ε σ β} (hp : FlowCode S R p)
    (hk : ∀ a, FlowCode S R (k a)) : FlowCode S R (p >>= k)
  | attempt {α : Type} {p : Prog ε σ α} (hp : FlowCode S R p) : FlowCode S R (attempt p)
  | cond {α : Type} {c : Prop} [Decidable c] {p q : Prog ε σ α} (hp : c → FlowCode S R p)
    (hq : ¬c → FlowCode S R q) : FlowCode S R (if c then p else q)

namespace FlowCode

variable {S : (σ → Except ε σ) → Prop} {R : Prop}

def flow : {α : Type} → {p : Prog ε σ α} → FlowCode S R p → Flow ε σ α
  | _, _, ret a => .done (.ok a)
  | _, _, raise e => .done (.error e)
  | _, _, session c => .session true c.script .done
  | _, _, reading c => .session false c.script .done
  | _, _, seq hp hk => hp.flow.andThen (.onOk fun a => (hk a).flow)
  | _, _, attempt hp => hp.flow.andThen fun r => .done (.ok r)
  | _, _, cond (c := c) hp hq => if h : c then (hp h).flow else (hq h).flow

/-- **The flow of a program** runs as the program does. -/
theorem prog_flow {p : Prog ε σ α} (c : FlowCode S R p) : c.flow.prog = p := by
  induction c with
  | ret a => rfl
  | raise e => rfl
  | session c =>
    unfold flow Flow.prog
    rw [c.prog_script]
    exact attempt_bind_ofExcept _
  | reading c =>
    unfold flow Flow.prog
    rw [c.prog_script]
    exact attempt_bind_ofExcept _
  | @seq _ _ p k hp hk ihp ihk =>
    rw [flow, Flow.prog_andThen, ihp]
    exact attempt_bind_eq ihk fun _ => rfl
  | attempt hp ih =>
    rw [flow, Flow.prog_andThen, ih]
    exact attempt_bind_pure _
  | @cond _ c _ p q hp hq ihp ihq =>
    by_cases h : c
    · rw [flow, dif_pos h, if_pos h]
      exact ihp h
    · rw [flow, dif_neg h, if_neg h]
      exact ihq h

theorem only {p : Prog ε σ α} (c : FlowCode S R p) : c.flow.Only S R := by
  induction c with
  | ret a => trivial
  | raise e => trivial
  | session c => exact ⟨c.only, fun _ => trivial⟩
  | reading c => exact ⟨c.only, fun _ => trivial⟩
  | seq hp hk ihp ihk =>
    rw [flow]
    refine ihp.andThen fun r => ?_
    cases r with
    | ok a => exact ihk a
    | error e => trivial
  | attempt hp ih =>
    rw [flow]
    refine ih.andThen fun _ => ?_
    trivial
  | @cond _ c _ p q hp hq ihp ihq =>
    unfold flow
    split
    · exact ihp _
    · exact ihq _

/-- The statements of all sessions are of `T`, too. -/
def All (T : (σ → Except ε σ) → Prop) : {α : Type} → {p : Prog ε σ α} → FlowCode S R p → Prop
  | _, _, ret _ => True
  | _, _, raise _ => True
  | _, _, session c => c.All T
  | _, _, reading c => c.All T
  | _, _, seq hp hk => hp.All T ∧ ∀ a, (hk a).All T
  | _, _, attempt hp => hp.All T
  | _, _, cond hp hq => (∀ h, (hp h).All T) ∧ ∀ h, (hq h).All T

theorem All.only {T : (σ → Except ε σ) → Prop} {p : Prog ε σ α} {c : FlowCode S R p}
    (h : c.All T) : c.flow.Only T R := by
  induction c with
  | ret a => trivial
  | raise e => trivial
  | session c => exact ⟨Code.All.only h, fun _ => trivial⟩
  | reading c => exact ⟨Code.All.only h, fun _ => trivial⟩
  | seq hp hk ihp ihk =>
    rw [flow]
    refine (ihp h.1).andThen fun r => ?_
    cases r with
    | ok a => exact ihk a (h.2 a)
    | error e => trivial
  | attempt hp ih =>
    rw [flow]
    refine (ih h).andThen fun _ => ?_
    trivial
  | @cond _ c _ p q hp hq ihp ihq =>
    unfold flow
    split
    · exact ihp _ (h.1 _)
    · exact ihq _ (h.2 _)

/-- The same program, in a larger set of statements. -/
def mono {S' : (σ → Except ε σ) → Prop} {R' : Prop} (hS : ∀ f, S f → S' f) (hR : R → R') :
    {α : Type} → {p : Prog ε σ α} → FlowCode S R p → FlowCode S' R' p
  | _, _, ret a => .ret a
  | _, _, raise e => .raise e
  | _, _, session c => .session (c.mono hS hR)
  | _, _, reading c => .reading (c.mono hS hR)
  | _, _, seq hp hk => .seq (hp.mono hS hR) fun a => (hk a).mono hS hR
  | _, _, attempt hp => .attempt (hp.mono hS hR)
  | _, _, cond hp hq => .cond (fun h => (hp h).mono hS hR) fun h => (hq h).mono hS hR

theorem flow_mono {S' : (σ → Except ε σ) → Prop} {R' : Prop} (hS : ∀ f, S f → S' f) (hR : R → R')
    {p : Prog ε σ α} (c : FlowCode S R p) : (c.mono hS hR).flow = c.flow := by
  induction c with
  | ret a => rfl
  | raise e => rfl
  | session c =>
    unfold mono flow
    rw [c.script_mono]
  | reading c =>
    unfold mono flow
    rw [c.script_mono]
  | seq hp hk ihp ihk =>
    unfold mono flow
    simp only [ihp, ihk]
  | attempt hp ih =>
    unfold mono flow
    rw [ih]
  | cond hp hq ihp ihq =>
    unfold mono flow
    simp only [ihp, ihq]

end FlowCode

end Sql
