import InvenTory.Lib.Session

/-!
# Schedules without faults

`Scheduled p`: a schedule that makes no statement fail is as good as none. It holds of what the
combinators of `Prog` build. `under fs p` runs `p` under the schedule `fs`, whatever the schedule
of the program around it.
-/

namespace Sql.Prog

variable {ε σ α β : Type}

def FaultFree (fs : List (Option ε)) : Prop := ∀ e, some e ∉ fs

theorem FaultFree.head {fs : List (Option ε)} (h : FaultFree fs) : fs.head?.join = none := by
  cases fs with
  | nil => rfl
  | cons x xs =>
    cases x with
    | none => rfl
    | some e => exact absurd List.mem_cons_self (h e)

/-- Under a schedule without faults `p` runs as it does without a schedule. -/
def Scheduled (p : Prog ε σ α) : Prop :=
  ∀ fs s, FaultFree fs → (p.run fs s).result = (p.eval s).1 ∧ (p.run fs s).state = (p.eval s).2

namespace Scheduled

theorem run {p : Prog ε σ α} (h : Scheduled p) {fs : List (Option ε)} {s : σ} (hfs : FaultFree fs) :
    ∃ fs', FaultFree fs' ∧ p.run fs s = ⟨(p.eval s).1, (p.eval s).2, fs'⟩ := by
  obtain ⟨h1, h2⟩ := h fs s hfs
  refine ⟨(p.run fs s).faults, fun e he => hfs e ((p.suffix fs s).subset he), ?_⟩
  rw [← h1, ← h2]

theorem ret (a : α) : Scheduled (pure a : Prog ε σ α) := fun _ _ _ => ⟨rfl, rfl⟩

theorem raise (e : ε) : Scheduled (throw e : Prog ε σ α) := fun _ _ _ => ⟨rfl, rfl⟩

theorem stmt (f : σ → Except ε (α × σ)) : Scheduled (stmt f) := by
  intro fs s hfs
  unfold eval Prog.stmt
  simp only [hfs.head, List.head?_nil, Option.join_none]
  cases f s <;> exact ⟨rfl, rfl⟩

theorem seq {p : Prog ε σ α} {k : α → Prog ε σ β} (hp : Scheduled p) (hk : ∀ a, Scheduled (k a)) :
    Scheduled (p >>= k) := by
  intro fs s hfs
  obtain ⟨fs1, hfs1, hrun⟩ := hp.run (s := s) hfs
  rw [eval_bind]
  change ((Prog.bind p k).run fs s).result = _ ∧ ((Prog.bind p k).run fs s).state = _
  unfold Prog.bind
  simp only [hrun]
  cases hr : p.eval s with
  | mk r s1 =>
    cases r with
    | ok a => exact hk a fs1 s1 hfs1
    | error e => exact ⟨rfl, rfl⟩

theorem attempt {p : Prog ε σ α} (hp : Scheduled p) : Scheduled (attempt p) := by
  intro fs s hfs
  obtain ⟨h1, h2⟩ := hp fs s hfs
  exact ⟨congrArg Except.ok h1, h2⟩

theorem mapError (f : ε → ε) {p : Prog ε σ α} (hp : Scheduled p) : Scheduled (mapError f p) := by
  intro fs s hfs
  obtain ⟨h1, h2⟩ := hp fs s hfs
  exact ⟨congrArg (Except.mapError f) h1, h2⟩

theorem select (f : σ → α) : Scheduled (select f : Prog ε (Conn σ) α) := stmt _

theorem execute (f : σ → Except ε σ) : Scheduled (execute f) := stmt _

theorem session {p : Prog ε (Conn σ) α} (hp : Scheduled p) : Scheduled (session p) := by
  intro fs s hfs
  obtain ⟨fs1, hfs1, hrun⟩ := hp.run (s := ⟨s, s⟩) hfs
  cases hr : p.eval ⟨s, s⟩ with
  | mk r c =>
    rw [hr] at hrun
    cases r with
    | ok a =>
      rw [eval_session_ok hr]
      unfold Prog.session
      simp only [hrun, hfs1.head, and_self]
    | error e =>
      rw [eval_session_error hr]
      unfold Prog.session
      simp only [hrun, and_self]

end Scheduled

/-! ## A schedule of its own -/

/-- Run `p` under the schedule `fs`. -/
def under (fs : List (Option ε)) (p : Prog ε σ α) : Prog ε σ α :=
  ⟨fun gs s => ⟨(p.run fs s).result, (p.run fs s).state, gs⟩, fun _ _ => List.suffix_rfl⟩

@[simp] theorem eval_under (fs : List (Option ε)) (p : Prog ε σ α) (s : σ) :
    (under fs p).eval s = ((p.run fs s).result, (p.run fs s).state) := rfl

theorem eval_under_nil (p : Prog ε σ α) (s : σ) : (under [] p).eval s = p.eval s := rfl

theorem yields_under {fs : List (Option ε)} {p : Prog ε σ α} {s s' : σ} {r : Except ε α}
    (h : (under fs p).eval s = (r, s')) : p.Yields (fun _ => True) s r s' := by
  refine ⟨fs, (p.run fs s).faults, fun _ _ => trivial, ?_⟩
  rw [eval_under] at h
  cases h
  rfl

end Sql.Prog
