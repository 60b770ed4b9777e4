import InvenTory.Sync.Flag

/-!
# One sync run at a time

* `step_effect`: what an event can do to the flag, and to the calls that are in a run.
* `flag_owned`: while the flag is set some call is in a run, so that it is clear when all calls have
  settled, whatever happened.
* `one_sync_iff`: at most one call is in a run in every state of an interleaving if and only if each call
  of `triggerSync` that gets to the line that sets the flag finds it clear there. The flag is tested
  several awaits before that line.
-/

namespace Sync.Calls

open Runs

/-! ## What an event does -/

/-- What a call that runs up to its next await does: it keeps the flag, enters a run or leaves one.
`sets` is whether it passes the line of `triggerSync` that sets the flag. -/
inductive Effect (sets : Prop) (flag was : Bool) : Bool × Call → Prop
  | keeps {c : Call} (h : c.inRun = was) : Effect sets flag was (flag, c)
  | enters {c : Call} (h : c.inRun = true) (hw : was = false) (hs : sets ∨ flag = false) :
    Effect sets flag was (true, c)
  | leaves {c : Call} (h : c.inRun = false) (hw : was = true) : Effect sets flag was (false, c)

theorem tokenAttempt_effect (sets : Prop) (config : SyncConfig) (n : Nat) (flag : Bool) :
    Effect sets flag false (tokenAttempt config n flag) := by
  unfold tokenAttempt resolvedToken
  split
  · exact .keeps rfl
  · exact .keeps rfl

theorem tokenMissed_effect (sets : Prop) (config : SyncConfig) (n : Nat) (flag : Bool) :
    Effect sets flag false (tokenMissed config n flag) := by
  unfold tokenMissed
  split
  · exact .keeps rfl
  · exact tokenAttempt_effect sets config (n + 1) flag

theorem triggerSync_effect (sets : Prop) (config : SyncConfig) (flag : Bool) :
    Effect sets flag false (triggerSync config flag) := by
  unfold triggerSync triggerRestoreSync
  cases flag with
  | true => exact .keeps rfl
  | false => cases config.mode with
    | incremental => exact .keeps rfl
    | restore => exact .enters rfl rfl (.inr rfl)

theorem resume_effect (config : SyncConfig) (flag : Bool) (what : Await) (outcome : Outcome) :
    Effect (what = .lastSyncTimestamp ∧ outcome ≠ .rejected ∧ config.hasToken = true ∨
      (∃ attempt, what = .accessToken attempt) ∧ outcome = .token) flag what.inRun
      (resume config flag what outcome) := by
  cases what with
  | lastSyncTimestamp =>
    by_cases hr : outcome = .rejected
    · subst hr
      exact .keeps rfl
    by_cases ht : config.hasToken = true
    · have : resume config flag .lastSyncTimestamp outcome = (true, .waiting config .reconcileStores) := by
        cases outcome <;> simp_all [resume, resolvedToken]
      rw [this]
      exact .enters rfl rfl (.inl (.inl ⟨rfl, hr, ht⟩))
    · have : resume config flag .lastSyncTimestamp outcome = tokenAttempt config 0 flag := by
        cases outcome <;> simp_all [resume]
      rw [this]
      exact tokenAttempt_effect _ config 0 flag
  | accessToken n =>
    cases outcome with
    | token => exact .enters rfl rfl (.inl (.inr ⟨⟨n, rfl⟩, rfl⟩))
    | rejected => exact tokenMissed_effect _ config n flag
    | resolved => exact tokenMissed_effect _ config n flag
    | another => exact tokenMissed_effect _ config n flag
  | retryDelay n => exact tokenAttempt_effect _ config (n + 1) flag
  | reconcileStores => cases outcome <;> exact .keeps rfl
  | pushAndPull =>
    cases outcome with
    | another => exact .keeps rfl
    | rejected => exact .leaves rfl rfl
    | resolved => exact .leaves rfl rfl
    | token => exact .leaves rfl rfl
  | restoreTimestamp =>
    cases outcome with
    | rejected => exact .leaves rfl rfl
    | resolved => exact .keeps (by simp only [Call.inRun]; split <;> rfl)
    | token => exact .keeps (by simp only [Call.inRun]; split <;> rfl)
    | another => exact .keeps (by simp only [Call.inRun]; split <;> rfl)
  | restoreToken =>
    cases outcome with
    | token => exact .keeps rfl
    | rejected => exact .leaves rfl rfl
    | resolved => exact .leaves rfl rfl
    | another => exact .leaves rfl rfl
  | restoreData =>
    cases outcome with
    | another => exact .keeps rfl
    | rejected => exact .leaves rfl rfl
    | resolved => exact .leaves rfl rfl
    | token => exact .leaves rfl rfl
  | syncStatus => exact .keeps rfl

variable {ι : Type} [DecidableEq ι] {s : Calls ι}

/-- **An event** changes nothing, or has its effect on one call. -/
theorem step_effect (s : Calls ι) (e : Event ι) : s.step e = s ∨
    ∃ i r, s.step e = s.put i r ∧ Effect (s.SetsFlag e) s.syncInProgress (s.call i).inRun r := by
  cases e with
  | call i config =>
    simp only [step]
    split
    · rename_i hi
      refine .inr ⟨i, _, rfl, ?_⟩
      rw [hi]
      exact triggerSync_effect _ config _
    · exact .inl rfl
  | settle i outcome =>
    simp only [step]
    split
    · rename_i config what hi
      refine .inr ⟨i, _, rfl, ?_⟩
      have h := resume_effect config s.syncInProgress what outcome
      rw [hi]
      cases hr : resume config s.syncInProgress what outcome with
      | mk flag c =>
        rw [hr] at h
        cases h with
        | keeps h => exact .keeps h
        | leaves h hw => exact .leaves h hw
        | enters h hw hs => exact .enters h hw (hs.imp_left fun hs => ⟨config, what, hi, hs⟩)
    · exact .inl rfl

@[simp] theorem put_flag (s : Calls ι) (i : ι) (r : Bool × Call) :
    (s.put i r).syncInProgress = r.1 := rfl

@[simp] theorem put_self (s : Calls ι) (i : ι) (r : Bool × Call) : (s.put i r).call i = r.2 := by
  simp [put]

theorem put_other (s : Calls ι) {i j : ι} (r : Bool × Call) (h : j ≠ i) :
    (s.put i r).call j = s.call j := by
  simp [put, h]

/-- A call that goes on as it was leaves all as they were. -/
theorem put_inRun {i : ι} {r : Bool × Call} (h : r.2.inRun = (s.call i).inRun) (j : ι) :
    ((s.put i r).call j).inRun = (s.call j).inRun := by
  by_cases hj : j = i
  · subst hj
    simpa using h
  · rw [put_other s r hj]

/-! ## The flag -/

/-- While the flag is set some call is in a run. -/
def Owned (s : Calls ι) : Prop := s.syncInProgress = true → ∃ i, (s.call i).inRun = true

theorem Owned.step (h : s.Owned) (e : Event ι) : (s.step e).Owned := by
  rcases step_effect s e with he | ⟨i, r, he, hr⟩ <;> rw [he]
  · exact h
  intro hflag
  cases hr with
  | keeps hc =>
    obtain ⟨j, hj⟩ := h hflag
    exact ⟨j, by rw [put_inRun hc]; exact hj⟩
  | enters hc => exact ⟨i, by simpa using hc⟩
  | leaves => simp at hflag

/-- **The flag is owned in every state** of every interleaving. -/
theorem flag_owned (events : List (Event ι)) : Always Calls.step Owned start events :=
  always_of_step (fun h => by cases h) (fun _ e h => h.step e) events

theorem settled_clear {events : List (Event ι)} (h : (after events).AllSettled) :
    (after events).syncInProgress = false := by
  by_contra hne
  obtain ⟨i, hi⟩ := (flag_owned events).last (by simpa [after] using hne)
  change ((after events).call i).inRun = true at hi
  rcases h i with hc | hc <;> rw [hc] at hi <;> cases hi

/-! ## One run at a time -/

/-- A call is in a run exactly while it holds the flag. -/
structure Exclusive (s : Calls ι) : Prop where
  atMostOne : s.AtMostOne
  held : ∀ i, (s.call i).inRun = true → s.syncInProgress = true

omit [DecidableEq ι] in
theorem exclusive_start : (start : Calls ι).Exclusive :=
  ⟨(fun _ _ hi => by cases hi), fun _ hi => by cases hi⟩

theorem Exclusive.step {e : Event ι} (h : s.Exclusive) (hc : s.FindsClear e) :
    (s.step e).Exclusive := by
  rcases step_effect s e with he | ⟨i, r, he, hr⟩ <;> rw [he]
  · exact h
  cases hr with
  | keeps hk =>
    refine ⟨fun j k hj hk' => ?_, fun j hj => ?_⟩
    · rw [put_inRun hk] at hj hk'
      exact h.atMostOne j k hj hk'
    · rw [put_inRun hk] at hj
      exact h.held j hj
  | @enters c _ _ hs =>
    -- the flag was clear, so that nobody else is in a run
    have hclear : s.syncInProgress = false := hs.elim hc id
    have hnone : ∀ j, (s.call j).inRun = false := fun j => by
      by_contra hj
      rw [h.held j (by simpa using hj)] at hclear
      cases hclear
    have honly : ∀ j, ((s.put i (true, c)).call j).inRun = true → j = i := fun j hj => by
      by_contra hne
      rw [put_other s _ hne, hnone] at hj
      cases hj
    exact ⟨fun j k hj hk => (honly j hj).trans (honly k hk).symm, fun _ _ => rfl⟩
  | @leaves c hn hw =>
    have hnone : ∀ j, ((s.put i (false, c)).call j).inRun = false := fun j => by
      by_cases hj : j = i
      · subst hj
        simpa using hn
      · rw [put_other s _ hj]
        by_contra hr
        exact hj (h.atMostOne j i (by simpa using hr) hw)
    exact ⟨fun j _ hj => by simp [hnone j] at hj, fun j hj => by simp [hnone j] at hj⟩

/-- A second call gets into a run when it does not find the flag clear. -/
theorem findsClear_of_atMostOne (e : Event ι) (ho : s.Owned) (h : (s.step e).AtMostOne) :
    s.FindsClear e := by
  intro hs
  by_contra hflag
  obtain ⟨j, hj⟩ := ho (by simpa using hflag)
  cases e with
  | call => exact hs
  | settle i outcome =>
    obtain ⟨config, what, hi, hw⟩ := hs
    have hij : j ≠ i := by
      rintro rfl
      rw [hi] at hj
      rcases hw with ⟨rfl, -⟩ | ⟨⟨n, rfl⟩, -⟩ <;> cases hj
    have hin : (resume config s.syncInProgress what outcome).2.inRun = true := by
      rcases hw with ⟨rfl, hne, ht⟩ | ⟨⟨n, rfl⟩, rfl⟩
      · cases outcome <;> simp_all [resume, resolvedToken, Call.inRun, Await.inRun]
      · rfl
    have hstep : s.step (.settle i outcome) =
        s.put i (resume config s.syncInProgress what outcome) := by
      simp [Calls.step, hi]
    rw [hstep] at h
    exact hij (h j i (by rw [put_other s _ hij]; exact hj) (by simpa using hin))

/-- **At most one sync run at a time**, and no flag is left set. -/
theorem one_sync_iff (events : List (Event ι)) :
    (Always step AtMostOne start events ∧
      ((after events).AllSettled → (after events).syncInProgress = false)) ↔
    Along step FindsClear start events := by
  constructor
  · rintro ⟨h, -⟩
    exact h.along (flag_owned events) fun _ e ho _ hn => findsClear_of_atMostOne e ho hn
  · intro h
    have hx := h.always exclusive_start fun s e hs hc => hs.step hc
    exact ⟨hx.mono fun _ hs => hs.atMostOne, settled_clear⟩

/-! ## Two calls -/

/-- A call without a token in its configuration, as the background timer makes it. -/
def Sample.background : SyncConfig := ⟨.incremental, false, 3⟩

/-- Two calls test the flag, and then both get their token. -/
def Sample.overlap : List (Event Bool) :=
  [.call false background, .call true background, .settle false .resolved, .settle true .resolved,
    .settle false .token, .settle true .token]

theorem two_syncs_run : ¬ (after Sample.overlap).AtMostOne := by
  intro h
  exact absurd (h false true rfl rfl) (by decide)

end Sync.Calls
