import InvenTory.Desktop.AuthService
import InvenTory.Lib.Runs

/-!
# The session belongs to the last login

A call that goes on writes what it carries, whoever has logged in or out in the meantime. As long as no
call goes on after a later login or logout (`Timely`), the variable and the store hold sessions of the
user who is signed in (`Inv`), and once every call has returned the session is that of the last login, or
none after a logout (`session_of_last_login`).
-/

namespace Desktop.Auth

variable (jwt : Jwt) (B : Backend)

/-! ## In time -/

/-- The store has nothing from before the last login or logout. -/
def Shared.Fresh (sh : Shared) : Prop := sh.disk = none ∨ sh.diskEpoch = sh.epoch

/-- The variable is written again after the write. -/
def AfterWrite.Rewrites : AfterWrite → Prop
  | .merged _ => True
  | _ => False

/-- A call goes on in time: no login or logout has come in between where it writes, a login is not
accepted after a logout that it has not waited for, the store is not read before it is up to date, and the
plugin fails only where nothing is left behind. -/
def Task.Timely (sh : Shared) : Task → Answer → Prop
  | .loggingIn _, .login (.ok _) _ => sh.loggedOut = false
  | .loggingInOnline _, .api (.ok _) _ => sh.loggedOut = false
  | .setting _ _ e, .stored true _ => e = sh.epoch
  | .setting _ k e, .stored false _ => (k.Rewrites → e = sh.epoch) ∧ (e = sh.epoch → sh.Fresh)
  | .saving _ k e, .stored _ _ => k.Rewrites → e = sh.epoch
  | .upgrading _ _ e, .api (.ok _) _ => e = sh.epoch
  | .reading _, .got true => sh.Fresh
  | .caching (some _) _ e, .resumed _ _ => e = sh.epoch
  | .resuming (some x) .refresh e, .resumed online now =>
    online = false → x.isExpired now = true → e = sh.epoch
  | .refreshing x e, .refresh r now => (r = .failed → x.isExpired now = true) → e = sh.epoch
  | .deleting e, .stored ok _ => e = sh.epoch ∧ (ok = false → sh.disk = none)
  | .cleared e, .stored _ _ => e = sh.epoch
  | _, _ => True

def Timely (s : State) (e : Event) : Prop := s.Reply (Task.Timely s.shared) e

/-! ## The property -/

/-- Once every call has returned: after a logout there is no session, and otherwise what is kept is a
session of the last login, and there is one while its user is signed in. -/
def Settled (s : State) : Prop :=
  s.tasks = [] →
    if s.shared.loggedOut then s.shared.session = none
    else (∀ x, s.shared.mem = some x ∨ s.shared.disk = some x →
        ∃ u, s.shared.lastLogin = some u ∧ SessionOf jwt B u x) ∧
      (s.shared.signedIn.isSome → s.shared.session.isSome)

/-- A session of the user who is signed in. -/
def Owned (user : Option String) (x : AuthSession) : Prop := ∃ u, user = some u ∧ SessionOf jwt B u x

namespace Task

/-- The epoch of what the call carries. -/
def epoch? : Task → Option Nat
  | .loggingIn _ | .loggingInOnline _ | .reading _ => none
  | .setting _ _ e | .saving _ _ e | .checkingHealth _ _ e | .upgrading _ _ e | .caching _ _ e
  | .resuming _ _ e | .refreshing _ e | .deleting e | .cleared e => some e

/-- What is true of the call in its epoch. -/
def Holds (user : Option String) : Task → Prop
  | .loggingIn _ | .loggingInOnline _ | .reading _ => True
  | .setting x k _ | .saving x k _ => Owned jwt B user x ∧ ∀ u, k = .upgrade u → user = some u
  | .checkingHealth u _ _ | .upgrading u _ _ => user = some u
  | .caching v _ _ | .resuming v _ _ => ∀ x, v = some x → Owned jwt B user x
  | .refreshing x _ => Owned jwt B user x
  | .deleting _ | .cleared _ => user = none

/-- The call will bring the store up to date. -/
def Settles (epoch : Nat) : Task → Prop
  | .setting _ _ e | .deleting e => e = epoch
  | _ => False

end Task

/-- What every reachable state has, with the calls `tasks`. -/
structure Inv (sh : Shared) (tasks : List Task) : Prop where
  mem : ∀ x, sh.mem = some x → Owned jwt B sh.signedIn x
  disk : sh.diskEpoch = sh.epoch → ∀ x, sh.disk = some x → Owned jwt B sh.signedIn x
  kept : sh.signedIn.isSome → sh.session.isSome
  diskEpoch : sh.diskEpoch ≤ sh.epoch
  fresh : sh.Fresh ∨ ∃ t ∈ tasks, t.Settles sh.epoch
  epochs : ∀ t ∈ tasks, ∀ e, t.epoch? = some e → e ≤ sh.epoch
  calls : ∀ t ∈ tasks, (∀ e, t.epoch? = some e → e = sh.epoch) → t.Holds jwt B sh.signedIn
  loggedOut : sh.loggedOut = true → sh.signedIn = none
  lastLogin : ∀ u, sh.signedIn = some u → sh.lastLogin = some u

variable {jwt B} {sh : Shared} {tasks next : List Task} {x : AuthSession} {u : String}

namespace Inv

/-- **Settled.** Nothing is waiting, so the store is up to date. -/
theorem settled {s : State} (h : Inv jwt B s.shared s.tasks) : Settled jwt B s := by
  intro hs
  have hfresh : s.shared.disk = none ∨ s.shared.diskEpoch = s.shared.epoch := by
    rcases h.fresh with hf | ⟨t, ht, -⟩
    · exact hf
    · rw [hs] at ht
      cases ht
  have hdisk : ∀ x, s.shared.disk = some x → Owned jwt B s.shared.signedIn x := by
    intro x hx
    rcases hfresh with hn | he
    · rw [hn] at hx
      cases hx
    · exact h.disk he x hx
  have hany : ∀ x, s.shared.mem = some x ∨ s.shared.disk = some x →
      Owned jwt B s.shared.signedIn x := fun x hx => hx.elim (h.mem x) (hdisk x)
  split
  · rename_i hout
    have hnone := h.loggedOut hout
    cases hsession : s.shared.session with
    | none => rfl
    | some x =>
      obtain ⟨u, hu, -⟩ := hany x (by
        rw [Shared.session, Option.or_eq_some_iff] at hsession
        exact hsession.imp_right (·.2))
      rw [hnone] at hu
      cases hu
  · refine ⟨fun x hx => ?_, h.kept⟩
    obtain ⟨u, hu, hx⟩ := hany x hx
    exact ⟨u, h.lastLogin u hu, hx⟩

/-! ## Calls -/

/-- A call returns, or goes on. -/
theorem drop {i : Nat} {t : Task} (h : Inv jwt B sh tasks) (ht : tasks[i]? = some t)
    (hfresh : t.Settles sh.epoch → sh.Fresh) : Inv jwt B sh (tasks.eraseIdx i) := by
  have hmem : ∀ t ∈ tasks.eraseIdx i, t ∈ tasks := fun t => List.mem_of_mem_eraseIdx
  refine ⟨h.mem, h.disk, h.kept, h.diskEpoch, ?_, fun t ht => h.epochs t (hmem t ht),
    fun t ht => h.calls t (hmem t ht), h.loggedOut, h.lastLogin⟩
  rcases h.fresh with hf | ⟨t', ht', hset⟩
  · exact .inl hf
  · obtain ⟨j, hj⟩ := List.mem_iff_getElem?.1 ht'
    by_cases hij : i = j
    · subst hij
      rw [hj] at ht
      cases ht
      exact .inl (hfresh hset)
    · exact .inr ⟨t', List.mem_eraseIdx_iff_getElem?.2 ⟨j, Ne.symm hij, hj⟩, hset⟩

theorem add (h : Inv jwt B sh tasks)
    (hepochs : ∀ t ∈ next, ∀ e, t.epoch? = some e → e ≤ sh.epoch)
    (hcalls : ∀ t ∈ next, (∀ e, t.epoch? = some e → e = sh.epoch) → t.Holds jwt B sh.signedIn) :
    Inv jwt B sh (tasks ++ next) := by
  refine ⟨h.mem, h.disk, h.kept, h.diskEpoch, ?_, ?_, ?_, h.loggedOut, h.lastLogin⟩
  · exact h.fresh.imp_right fun ⟨t, ht, hset⟩ => ⟨t, List.mem_append_left _ ht, hset⟩
  · exact fun t ht => (List.mem_append.1 ht).elim (h.epochs t) (hepochs t)
  · exact fun t ht => (List.mem_append.1 ht).elim (h.calls t) (hcalls t)

/-! ## The state -/

/-- A session of the user who is signed in is written. -/
theorem setMem (h : Inv jwt B sh tasks) (hx : Owned jwt B sh.signedIn x) :
    Inv jwt B (sh.setMem x) tasks := by
  refine ⟨fun y hy => ?_, h.disk, fun _ => rfl, h.diskEpoch, h.fresh, h.epochs, h.calls, h.loggedOut,
    h.lastLogin⟩
  cases hy
  exact hx

theorem setDisk (h : Inv jwt B sh tasks) (hx : Owned jwt B sh.signedIn x) :
    Inv jwt B (sh.setDisk x) tasks := by
  refine ⟨h.mem, fun _ y hy => ?_, fun _ => ?_, le_rfl, .inl (.inr rfl), h.epochs, h.calls, h.loggedOut,
    h.lastLogin⟩
  · cases hy
    exact hx
  · simp [Shared.session, Shared.setDisk]

/-- **A new epoch** begins with a call that brings the store up to date: nothing is said of what the
other calls carry any more. -/
theorem newEpoch {sh' : Shared} {t : Task} (h : Inv jwt B sh tasks) (hepoch : sh'.epoch = sh.epoch + 1)
    (hdisk : sh'.diskEpoch = sh.diskEpoch) (ht : t.epoch? = some sh'.epoch) (hset : t.Settles sh'.epoch)
    (hholds : t.Holds jwt B sh'.signedIn) (hmem : ∀ x, sh'.mem = some x → Owned jwt B sh'.signedIn x)
    (hkept : sh'.signedIn.isSome → sh'.session.isSome)
    (hout : sh'.loggedOut = true → sh'.signedIn = none)
    (hlast : ∀ u, sh'.signedIn = some u → sh'.lastLogin = some u) : Inv jwt B sh' (tasks ++ [t]) := by
  have hle := h.diskEpoch
  refine ⟨hmem, by omega, hkept, by omega, .inr ⟨t, by simp, hset⟩, fun t' ht' e he => ?_,
    fun t' ht' hcur => ?_, hout, hlast⟩
  · rcases List.mem_append.1 ht' with ht' | ht'
    · have := h.epochs t' ht' e he
      omega
    · cases List.mem_singleton.1 ht'
      rw [ht] at he
      exact (Option.some.inj he).ge
  · rcases List.mem_append.1 ht' with ht' | ht'
    · cases he : t'.epoch? with
      | none => cases t' <;> trivial
      | some e =>
        have h1 := h.epochs t' ht' e he
        have h2 := hcur e he
        omega
    · cases List.mem_singleton.1 ht'
      exact hholds

/-- **A login** is accepted. -/
theorem accept {k : AfterWrite} (h : Inv jwt B sh tasks) (hout : sh.loggedOut = false)
    (hx : SessionOf jwt B u x) (hk : ∀ v, k = .upgrade v → v = u) :
    Inv jwt B (sh.accept u x) (tasks ++ [.setting x k (sh.epoch + 1)]) := by
  have howned : Owned jwt B (some u) x := ⟨u, rfl, hx⟩
  refine h.newEpoch rfl rfl rfl rfl ⟨howned, fun v hv => congrArg some (hk v hv).symm⟩
    (fun y hy => ?_) (fun _ => rfl) (fun ht => ?_) (fun v hv => hv)
  · cases hy
    exact howned
  · rw [show (sh.accept u x).loggedOut = false from hout] at ht
    cases ht

/-- **A logout** clears the variable. -/
theorem clear (h : Inv jwt B sh tasks) :
    Inv jwt B sh.clear (tasks ++ [.deleting (sh.epoch + 1)]) :=
  h.newEpoch rfl rfl rfl rfl rfl nofun nofun (fun _ => rfl) nofun

theorem delete (h : Inv jwt B sh tasks) (hnone : sh.signedIn = none) :
    Inv jwt B { sh with disk := none } tasks := by
  refine ⟨h.mem, nofun, fun hs => ?_, h.diskEpoch, .inl (.inl rfl), h.epochs, h.calls, h.loggedOut,
    h.lastLogin⟩
  rw [hnone] at hs
  cases hs

theorem setLoggedOut (h : Inv jwt B sh tasks) {b : Bool} (hb : b = true → sh.signedIn = none) :
    Inv jwt B { sh with loggedOut := b } tasks :=
  ⟨h.mem, h.disk, h.kept, h.diskEpoch, h.fresh, h.epochs, h.calls, hb, h.lastLogin⟩

theorem add_one {t : Task} {e : Nat} (h : Inv jwt B sh tasks) (ht : t.epoch? = some e)
    (he : e ≤ sh.epoch) (hholds : e = sh.epoch → t.Holds jwt B sh.signedIn) :
    Inv jwt B sh (tasks ++ [t]) := by
  refine h.add (fun t' ht' e' he' => ?_) fun t' ht' hcur => ?_
  · cases List.mem_singleton.1 ht'
    rw [ht] at he'
    exact Option.some.inj he' ▸ he
  · cases List.mem_singleton.1 ht'
    exact hholds (hcur e ht)

/-- A call that carries nothing yet. -/
theorem add_free {t : Task} (h : Inv jwt B sh tasks) (ht : t.epoch? = none) :
    Inv jwt B sh (tasks ++ [t]) := by
  refine h.add (fun t' ht' e he => ?_) fun t' ht' _ => ?_
  · cases List.mem_singleton.1 ht'
    rw [ht] at he
    cases he
  · cases List.mem_singleton.1 ht'
    cases t <;> trivial

theorem add_nil (h : Inv jwt B sh tasks) : Inv jwt B sh (tasks ++ []) := by
  rwa [List.append_nil]

/-! ## Steps -/

theorem secureWrite (h : Inv jwt B sh tasks) {k : AfterWrite} {e : Nat} (he : e = sh.epoch)
    (hx : Owned jwt B sh.signedIn x) (hk : ∀ v, k = .upgrade v → sh.signedIn = some v) :
    Inv jwt B (secureWrite sh x k e).1 (tasks ++ (secureWrite sh x k e).2) :=
  (h.setMem hx).add_one rfl he.le fun _ => ⟨hx, hk⟩

theorem markExpired (h : Inv jwt B sh tasks) {e : Nat} {now : Int}
    (he : x.isExpired now = true → e = sh.epoch) (hx : e = sh.epoch → Owned jwt B sh.signedIn x) :
    Inv jwt B (markExpired sh x e now).1 (tasks ++ (markExpired sh x e now).2) := by
  unfold Auth.markExpired
  split
  · rename_i hexp
    obtain ⟨u, hu, hx⟩ := hx (he hexp)
    exact h.secureWrite (he hexp) ⟨u, hu, hx.mark true⟩ nofun
  · exact h.add_nil

theorem afterWrite (h : Inv jwt B sh tasks) {k : AfterWrite} {e : Nat} {online : Bool}
    (hle : e ≤ sh.epoch) (he : k.Rewrites → e = sh.epoch)
    (hx : e = sh.epoch → Owned jwt B sh.signedIn x ∧ ∀ v, k = .upgrade v → sh.signedIn = some v) :
    Inv jwt B (k.continue sh x e online).1 (tasks ++ (k.continue sh x e online).2) := by
  cases k with
  | upgrade v =>
    cases online with
    | false => exact h.add_nil
    | true => exact h.add_one rfl hle fun hcur => (hx hcur).2 v rfl
  | merged current => exact h.secureWrite (he trivial) (hx (he trivial)).1 nofun
  | nothing => exact h.add_nil

theorem afterRead (h : Inv jwt B sh tasks) {v : Option AuthSession} {k : AfterRead} {e : Nat}
    {online : Bool} {now : Int} (hle : e ≤ sh.epoch)
    (htimely : (Task.resuming v k e).Timely sh (.resumed online now))
    (hv : e = sh.epoch → ∀ x, v = some x → Owned jwt B sh.signedIn x) :
    Inv jwt B (k.continue sh v e online now).1 (tasks ++ (k.continue sh v e online now).2) := by
  cases k with
  | refresh =>
    cases v with
    | none => exact h.add_nil
    | some x =>
      cases online with
      | true => exact h.add_one rfl hle fun hcur => hv hcur x rfl
      | false => exact h.markExpired (htimely rfl) fun hcur => hv hcur x rfl
  | logout => exact h.clear
  | nothing => exact h.add_nil

/-- What is true of a call that goes on in its own epoch, and the epoch it is from. -/
theorem call {i : Nat} {t : Task} {e : Nat} (h : Inv jwt B sh tasks) (ht : tasks[i]? = some t)
    (he : t.epoch? = some e) : e ≤ sh.epoch ∧ (e = sh.epoch → t.Holds jwt B sh.signedIn) := by
  have hmem := List.mem_of_getElem? ht
  refine ⟨h.epochs t hmem e he, fun hcur => h.calls t hmem fun e' he' => ?_⟩
  rw [he] at he'
  cases he'
  exact hcur

/-- **One call goes on**: the invariant is kept. -/
theorem goOn {i : Nat} {t : Task} {a : Answer} {res : Shared × List Task} (h : Inv jwt B sh tasks)
    (ht : tasks[i]? = some t) (ha : t.Answered B a) (htimely : t.Timely sh a)
    (hstep : t.step jwt sh a = some res) : Inv jwt B res.1 (tasks.eraseIdx i ++ res.2) := by
  have hkeep : ¬ t.Settles sh.epoch → Inv jwt B sh (tasks.eraseIdx i) := fun hn =>
    h.drop ht fun hset => absurd hset hn
  cases t with
  | loggingIn u =>
    cases a with
    | login r now =>
      cases r with
      | ok r =>
        cases hstep
        exact (hkeep id).accept htimely (.offline ha now) fun v hv => (AfterWrite.upgrade.inj hv).symm
      | error msg =>
        cases hstep
        split
        · exact (hkeep id).add_free rfl
        · exact (hkeep id).add_nil
    | _ => cases hstep
  | loggingInOnline u =>
    cases a with
    | api r now =>
      cases r with
      | ok d =>
        cases hstep
        exact (hkeep id).accept htimely (.server ha now) nofun
      | error msg =>
        cases hstep
        exact (hkeep id).add_nil
    | _ => cases hstep
  | setting x k e =>
    obtain ⟨hle, hcall⟩ := h.call ht rfl
    cases a with
    | stored ok online =>
      cases ok with
      | true =>
        cases hstep
        have hx := hcall htimely
        exact ((h.setDisk hx.1).drop ht fun _ => .inr rfl).add_one rfl hle fun _ => hx
      | false =>
        cases hstep
        exact (h.drop ht htimely.2).afterWrite hle htimely.1 hcall
    | _ => cases hstep
  | saving x k e =>
    obtain ⟨hle, hcall⟩ := h.call ht rfl
    cases a with
    | stored ok online =>
      cases hstep
      exact (hkeep id).afterWrite hle htimely hcall
    | _ => cases hstep
  | checkingHealth u current e =>
    obtain ⟨hle, hcall⟩ := h.call ht rfl
    cases a with
    | health ok =>
      cases hstep
      split
      · exact (hkeep id).add_one rfl hle hcall
      · exact (hkeep id).add_nil
    | _ => cases hstep
  | upgrading u current e =>
    obtain ⟨hle, hcall⟩ := h.call ht rfl
    cases a with
    | api r now =>
      cases r with
      | ok d =>
        cases hstep
        exact (hkeep id).secureWrite htimely ⟨u, hcall htimely, .server ha now⟩ nofun
      | error msg =>
        cases hstep
        exact (hkeep id).add_nil
    | _ => cases hstep
  | reading k =>
    cases a with
    | got ok =>
      cases ok with
      | true =>
        cases hstep
        refine (hkeep id).add_one rfl le_rfl fun _ x hx => ?_
        rcases htimely with hn | he
        · rw [hn] at hx
          cases hx
        · exact h.disk he x hx
      | false =>
        cases hstep
        exact (hkeep id).add_one rfl le_rfl fun _ => h.mem
    | _ => cases hstep
  | caching v k e =>
    obtain ⟨hle, hcall⟩ := h.call ht rfl
    cases a with
    | resumed online now =>
      cases v with
      | none =>
        cases hstep
        exact (hkeep id).add_one rfl hle hcall
      | some x =>
        cases hstep
        exact ((hkeep id).setMem (hcall htimely x rfl)).add_one rfl hle hcall
    | _ => cases v <;> cases hstep
  | resuming v k e =>
    obtain ⟨hle, hcall⟩ := h.call ht rfl
    cases a with
    | resumed online now =>
      cases hstep
      exact (hkeep id).afterRead hle htimely hcall
    | _ => cases hstep
  | refreshing x e =>
    obtain ⟨hle, hcall⟩ := h.call ht rfl
    cases a with
    | refresh r now =>
      cases r with
      | ok d =>
        cases hstep
        have he := htimely nofun
        obtain ⟨u, hu, hx⟩ := hcall he
        exact (hkeep id).secureWrite he ⟨u, hu, hx.refreshed ha now⟩ nofun
      | refused =>
        cases hstep
        have he := htimely nofun
        obtain ⟨u, hu, hx⟩ := hcall he
        exact (hkeep id).secureWrite he ⟨u, hu, hx.mark false⟩ nofun
      | failed =>
        cases hstep
        exact (hkeep id).markExpired (fun hexp => htimely fun _ => hexp) hcall
    | _ => cases hstep
  | deleting e =>
    obtain ⟨hle, hcall⟩ := h.call ht rfl
    cases a with
    | stored ok online =>
      have hnone := hcall htimely.1
      cases ok with
      | true =>
        cases hstep
        exact ((h.delete hnone).drop ht fun _ => .inl rfl).add_one rfl hle fun _ => hnone
      | false =>
        cases hstep
        exact ((h.drop ht fun _ => .inl (htimely.2 rfl)).setLoggedOut fun _ => hnone).add_nil
    | _ => cases hstep
  | cleared e =>
    obtain ⟨hle, hcall⟩ := h.call ht rfl
    cases a with
    | stored ok online =>
      cases hstep
      exact ((hkeep id).setLoggedOut fun _ => hcall htimely).add_nil
    | _ => cases hstep

theorem start (h : Inv jwt B sh tasks) (k : AfterRead) : Inv jwt B sh (tasks ++ [secureRead sh k]) := by
  unfold secureRead
  split
  · rename_i x hmem
    refine h.add_one rfl le_rfl fun _ y hy => ?_
    cases hy
    exact h.mem x hmem
  · exact h.add_free rfl

/-- **One step** keeps the invariant. -/
theorem step {s : State} {e : Event} (h : Inv jwt B s.shared s.tasks) (ha : Admitted B s e)
    (ht : Timely s e) : Inv jwt B (perform jwt s e).shared (perform jwt s e).tasks := by
  cases e with
  | login u =>
    have h' : Inv jwt B { s.shared with loggedOut := false } s.tasks := h.setLoggedOut (by simp)
    exact h'.add_free rfl
  | tryRefreshToken => exact h.start .refresh
  | logout => exact h.start .logout
  | getSession => exact h.start .nothing
  | reply i a =>
    simp only [perform]
    split
    · rename_i sh next hstep
      obtain ⟨t, hget, hstep⟩ := Option.bind_eq_some_iff.1 hstep
      exact h.goOn hget (ha t hget) (ht t hget) hstep
    · exact h

theorem launched {stored : Option (String × AuthSession)}
    (h : ∀ u x, stored = some (u, x) → SessionOf jwt B u x) :
    Inv jwt B (launched stored).shared (launched stored).tasks := by
  refine ⟨by simp [Auth.launched], fun _ x hx => ?_, fun hs => ?_, le_rfl, .inl (.inr rfl),
    List.forall_mem_nil _, List.forall_mem_nil _, by simp [Auth.launched], fun _ hu => hu⟩
  · obtain ⟨⟨u, y⟩, hstored, rfl⟩ := Option.map_eq_some_iff.1 hx
    exact ⟨u, by simp [Auth.launched, hstored], h u y hstored⟩
  · cases stored with
    | none => cases hs
    | some p => rfl

end Inv

/-- **The session of the last login.** Whatever calls of `login`, `tryRefreshToken`, `logout` and
`getSession` run interleaved and in whatever order the answers arrive: as long as the calls go on in time,
whenever all have returned there is no session after a logout, and otherwise the session is of the user of
the last login. -/
theorem session_of_last_login (jwt : Jwt) (B : Backend) (stored : Option (String × AuthSession))
    (hstored : ∀ u x, stored = some (u, x) → SessionOf jwt B u x) (es : List Event)
    (hes : Runs.Along (perform jwt) (fun s e => Admitted B s e ∧ Timely s e) (launched stored) es) :
    Runs.Always (perform jwt) (Settled jwt B) (launched stored) es :=
  (Runs.Along.always (I := fun s => Inv jwt B s.shared s.tasks) hes (.launched hstored)
    fun _ _ h he => h.step he.1 he.2).mono fun _ h => h.settled

/-! ## A late upgrade -/

def clerk (u : String) : LocalSession := ⟨"id-" ++ u, u, none, "STORE_CLERK"⟩

def clerkToken (u : String) : TokenResponse :=
  ⟨"jwt-" ++ u, "refresh-" ++ u, "STORE_CLERK", .text ("id-" ++ u), u, none, none⟩

/-- Every user is a clerk, and a token of the server can be refreshed. -/
def clerks : Backend where
  localLogin u r := r = clerk u
  apiLogin u d := d = clerkToken u
  refresh token d := token ≠ "" ∧ d = ⟨"new-" ++ token, "STORE_CLERK"⟩

def plainJwt : Jwt := ⟨fun _ => none⟩

/-- A login up to the request for a token of the server. -/
def loginOf (u : String) : List Event :=
  [.login u, .reply 0 (.login (.ok (clerk u)) 0), .reply 0 (.stored true true),
    .reply 0 (.stored true true), .reply 0 (.health true)]

/-- The reply to this request, and what follows. -/
def upgradeOf (u : String) : List Event :=
  [.reply 0 (.api (.ok (clerkToken u)) 0), .reply 0 (.stored true true), .reply 0 (.stored true true),
    .reply 0 (.stored true true), .reply 0 (.stored true true)]

/-- A logout, beside `n` other calls. -/
def logoutBeside (n : Nat) : List Event :=
  [.logout, .reply n (.resumed true 0), .reply n (.stored true true), .reply n (.stored true true)]

theorem clerk_logged_out : Runs.Always (perform plainJwt) (Settled plainJwt clerks) (launched none)
    (loginOf "alice" ++ upgradeOf "alice" ++ logoutBeside 0) :=
  session_of_last_login plainJwt clerks none nofun _ (by
    simp [loginOf, upgradeOf, logoutBeside, Runs.Along, Admitted, Timely, State.Reply, perform,
      Task.step, Task.Answered, Task.Timely, launched, clerks, accepted, Auth.secureWrite,
      Shared.accept, Shared.setMem, Shared.setDisk, Shared.clear, AfterWrite.continue,
      AfterRead.continue, AfterWrite.Rewrites, Auth.secureRead])

/-- The reply to the upgrade comes after the logout. -/
def lateUpgrade : List Event := loginOf "alice" ++ logoutBeside 1 ++ upgradeOf "alice"

theorem late_upgrade : ∃ es : List Event,
    Runs.Along (perform plainJwt) (Admitted clerks) (launched none) es ∧
      ∃ s, es.foldl (perform plainJwt) (launched none) = s ∧
        s.tasks = [] ∧ s.shared.loggedOut = true ∧ s.shared.session ≠ none := by
  refine ⟨lateUpgrade, ?_, _, rfl, by decide +kernel⟩
  simp [lateUpgrade, loginOf, upgradeOf, logoutBeside, Runs.Along, Admitted, State.Reply, perform,
    Task.step, Task.Answered, launched, clerks, accepted, Auth.secureWrite, Shared.accept,
    Shared.setMem, Shared.setDisk, Shared.clear, AfterWrite.continue, AfterRead.continue,
    Auth.secureRead]

/-- The session is back. -/
theorem session_after_logout : ¬ ∀ (jwt : Jwt) (B : Backend) (stored : Option (String × AuthSession)),
    (∀ u x, stored = some (u, x) → SessionOf jwt B u x) → ∀ es : List Event,
    Runs.Along (perform jwt) (Admitted B) (launched stored) es →
    Runs.Always (perform jwt) (Settled jwt B) (launched stored) es := by
  intro h
  obtain ⟨es, hes, s, rfl, htasks, hout, hback⟩ := late_upgrade
  have hlast := (h plainJwt clerks none nofun es hes).last
  have hnone := hlast htasks
  rw [if_pos hout] at hnone
  exact hback hnone

end Desktop.Auth
