import Mathlib.Data.List.Sort
import Mathlib.Data.Nat.Init
import Mathlib.Tactic.Common

/-!
# A line that is served in windows

The first `b` entries of a line are its window. A pass (`pass`) takes some entries of the window out
of the line: those that leave always go, those that stay never do, and the others go or not
(`Keeps`). `Lasts` says that passes can be chosen such that no window becomes short, or such that
only entries that stay are left. Whether they can is a matter of how far two lines are read: the one
from which nothing goes that need not (`readSlow`), and the one from which everything goes that can
(`readFast`); `lasts_iff`.
-/

namespace Window

variable {α : Type} {b : Nat} {leaves stays keep : α → Bool} {v w : List α} {x y j : Nat}

/-- Take the entries of the window out that are not kept. -/
def pass (b : Nat) (keep : α → Bool) (v : List α) : List α := (v.take b).filter keep ++ v.drop b

structure Keeps (leaves stays keep : α → Bool) : Prop where
  out : ∀ a, leaves a = true → keep a = false
  on : ∀ a, stays a = true → keep a = true

/-- Windows can stay full, or become full of entries that stay, for ever. -/
inductive Lasts (b : Nat) (leaves stays : α → Bool) : List α → Prop
  | stuck {v : List α} : b ≤ v.length → (∀ a ∈ v.take b, leaves a = false) → Lasts b leaves stays v
  | dry {v : List α} : v ≠ [] → (∀ a ∈ v, stays a = true) → Lasts b leaves stays v
  | next {v : List α} {keep : α → Bool} : b ≤ v.length → Keeps leaves stays keep →
      Lasts b leaves stays (pass b keep v) → Lasts b leaves stays v

/-- How much of the line `j + 1` windows read if only the entries go that leave. -/
def readSlow (b : Nat) (leaves : α → Bool) (w : List α) : Nat → Nat
  | 0 => b
  | j + 1 => b + (w.take (readSlow b leaves w j)).countP leaves

/-- How much of the line `j + 1` windows read if all entries go that do not stay. -/
def readFast (b : Nat) (stays : α → Bool) (w : List α) : Nat → Nat
  | 0 => b
  | j + 1 => b + (w.take (readFast b stays w j)).countP (!stays ·)

/-- As long as the slow line has full windows, each has an entry that leaves; and if there are entries
that stay, the fast line has not read all others by then. -/
def Clears (b : Nat) (leaves stays : α → Bool) (w : List α) : Prop :=
  ∀ j, readSlow b leaves w j ≤ w.length →
    readSlow b leaves w j < readSlow b leaves w (j + 1) ∧
      ((∀ a ∈ w, stays a = false) ∨ ∃ a ∈ w.drop (readFast b stays w j), stays a = false)

/-! ## Passes -/

theorem countP_add_not (p : α → Bool) (l : List α) :
    l.countP p + l.countP (!p ·) = l.length := by
  simpa using (List.length_eq_countP_add_countP (p := p) (l := l)).symm

theorem mem_pass {a : α} (h : a ∈ pass b keep v) : a ∈ v := by
  rcases List.mem_append.1 h with h | h
  · exact List.mem_of_mem_take (List.mem_of_mem_filter h)
  · exact List.mem_of_mem_drop h

theorem nodup_pass (h : v.Nodup) : (pass b keep v).Nodup := by
  have hsub : (pass b keep v).Sublist v := by
    conv_rhs => rw [← List.take_append_drop b v]
    exact List.filter_sublist.append (List.Sublist.refl _)
  exact h.sublist hsub

/-- Where an entry is in the line decides whether it is in the window. -/
theorem pass_eq_filter [DecidableEq α] (h : v.Nodup) :
    pass b keep v = v.filter fun a => decide (a ∉ v.take b) || keep a := by
  have hdisj : (v.take b).Disjoint (v.drop b) :=
    List.disjoint_of_nodup_append (by rwa [List.take_append_drop])
  conv_rhs =>
    arg 2
    rw [← List.take_append_drop b v]
  rw [List.filter_append, pass]
  congr 1
  · refine List.filter_congr fun a ha => ?_
    simp [ha]
  · refine (List.filter_eq_self.2 fun a ha => ?_).symm
    have hno : a ∉ v.take b := fun h => hdisj h ha
    simp [hno]

theorem length_pass (b : Nat) (keep : α → Bool) (v : List α) :
    (pass b keep v).length + (v.take b).countP (!keep ·) = v.length := by
  have hw := countP_add_not keep (v.take b)
  have ht := congrArg List.length (List.take_append_drop b v)
  rw [List.length_append] at ht
  rw [pass, List.length_append, ← List.countP_eq_length_filter]
  omega

/-- **A window with an entry that leaves** makes the line shorter. -/
theorem length_pass_lt (hk : Keeps leaves stays keep) (h : ∃ a ∈ v.take b, leaves a = true) :
    (pass b keep v).length < v.length := by
  obtain ⟨a, ha, hl⟩ := h
  have hpos : 0 < (v.take b).countP (!keep ·) :=
    List.countP_pos_iff.2 ⟨a, ha, by simp [hk.out a hl]⟩
  have := length_pass b keep v
  omega

/-! ## How far a line is read

`Stage w x v`: of the line `w`, `v` is left, with a full window, and `x` entries were read. -/

structure Stage (b : Nat) (stays : α → Bool) (w : List α) (x : Nat) (v : List α) : Prop where
  full : b ≤ v.length
  read : x ≤ w.length
  rest : v.drop b = w.drop x
  window : (v.take b).Sublist (w.take x)
  staying : (v.take b).countP stays = (w.take x).countP stays

theorem Stage.start (h : b ≤ w.length) : Stage b stays w b w :=
  ⟨h, h, rfl, List.Sublist.refl _, rfl⟩

theorem Stage.rest_length (h : Stage b stays w x v) : v.length = b + (w.length - x) := by
  have := congrArg List.length h.rest
  simp only [List.length_drop] at this
  have := h.full
  omega

/-- What the next window reads: as many more entries as went. -/
theorem Stage.next (h : Stage b stays w x v) (hk : Keeps leaves stays keep)
    (hfull : x + (b - (v.take b).countP keep) ≤ w.length) :
    Stage b stays w (x + (b - (v.take b).countP keep)) (pass b keep v) := by
  have hlen : ((v.take b).filter keep).length = (v.take b).countP keep :=
    List.countP_eq_length_filter.symm
  have hle : (v.take b).countP keep ≤ b :=
    List.countP_le_length.trans ((List.length_take ..).trans_le (min_le_left ..))
  have htake : (pass b keep v).take b =
      (v.take b).filter keep ++ (w.drop x).take (b - (v.take b).countP keep) := by
    rw [pass, List.take_append, hlen, h.rest, List.take_of_length_le (by omega)]
  have hdrop : (pass b keep v).drop b = w.drop (x + (b - (v.take b).countP keep)) := by
    rw [pass, List.drop_append, hlen, h.rest, List.drop_drop, List.drop_of_length_le (by omega),
      List.nil_append]
  refine ⟨?_, hfull, hdrop, ?_, ?_⟩
  · have := h.rest_length
    have := congrArg List.length h.rest
    simp only [pass, List.length_append, hlen, List.length_drop] at *
    omega
  · rw [htake, List.take_add]
    exact (List.filter_sublist.trans h.window).append (List.Sublist.refl _)
  · rw [htake, List.take_add, List.countP_append, List.countP_append, ← h.staying, List.countP_filter]
    congr 1
    refine List.countP_congr fun a _ => ?_
    constructor
    · exact fun ha => (Bool.and_eq_true_iff.1 ha).1
    · exact fun ha => Bool.and_eq_true_iff.2 ⟨ha, hk.on a ha⟩

theorem Stage.countP_window (h : Stage b stays w x v) (hk : Keeps leaves stays keep) :
    (w.take x).countP stays ≤ (v.take b).countP keep := by
  rw [← h.staying]
  exact List.countP_mono_left fun a _ ha => hk.on a ha

theorem Stage.countP_gone (h : Stage b stays w x v) (hk : Keeps leaves stays keep) :
    (v.take b).countP keep + (w.take x).countP leaves ≤ x := by
  have hkeep : (v.take b).countP keep ≤ (w.take x).countP (!leaves ·) := by
    refine le_trans ?_ h.window.countP_le
    refine List.countP_mono_left fun a _ ha => ?_
    cases hl : leaves a with
    | false => rfl
    | true => rw [hk.out a hl] at ha; cases ha
  have hsum := countP_add_not leaves (w.take x)
  have := List.length_take_le x w
  omega

theorem countP_take_add (stays : α → Bool) (hx : x ≤ w.length) :
    (w.take x).countP stays + (w.take x).countP (!stays ·) = x := by
  rw [countP_add_not, List.length_take_of_le hx]

/-! ## The slow and the fast line -/

theorem countP_take_mono (p : α → Bool) (h : x ≤ y) : (w.take x).countP p ≤ (w.take y).countP p :=
  (List.take_sublist_take_left h).countP_le

theorem countP_take_succ (p : α → Bool) : (w.take (x + 1)).countP p ≤ (w.take x).countP p + 1 := by
  rw [List.take_add, List.countP_append]
  have := List.countP_le_length (p := p) (l := (w.drop x).take 1)
  have := List.length_take_le 1 (w.drop x)
  omega

theorem readSlow_mono : readSlow b leaves w j ≤ readSlow b leaves w (j + 1) := by
  induction j with
  | zero => exact Nat.le_add_right ..
  | succ j ih => exact Nat.add_le_add_left (countP_take_mono leaves ih) b

theorem readSlow_mono_le {i : Nat} (h : i ≤ j) : readSlow b leaves w i ≤ readSlow b leaves w j :=
  monotone_nat_of_le_succ (f := readSlow b leaves w) (fun _ => readSlow_mono) h

/-- A line that clears has less than a window of entries that need not leave. -/
theorem Clears.countP_lt (h : Clears b leaves stays w) (hb : b ≤ w.length) :
    w.countP (!leaves ·) < b := by
  by_contra hge
  have hsum := countP_add_not leaves w
  -- the slow line has full windows for ever, and reads more with each of them
  have hall : ∀ j, readSlow b leaves w j ≤ w.length := by
    intro j
    cases j with
    | zero => exact hb
    | succ j =>
      have := (List.take_sublist (readSlow b leaves w j) w).countP_le (p := leaves)
      simp only [readSlow]
      omega
  have hgrow : ∀ j, j ≤ readSlow b leaves w j := by
    intro j
    induction j with
    | zero => exact Nat.zero_le _
    | succ j ih =>
      have := (h j (hall j)).1
      omega
  have := hgrow (w.length + 1)
  have := hall (w.length + 1)
  omega

/-- What was read lies between the slow and the fast line. -/
theorem Stage.next_bounds (h : Stage b stays w x v) (hk : Keeps leaves stays keep)
    (hslow : readSlow b leaves w j ≤ x) (hfast : x ≤ readFast b stays w j) :
    readSlow b leaves w (j + 1) ≤ x + (b - (v.take b).countP keep) ∧
      x + (b - (v.take b).countP keep) ≤ readFast b stays w (j + 1) := by
  have hle : (v.take b).countP keep ≤ b :=
    List.countP_le_length.trans ((List.length_take ..).trans_le (min_le_left ..))
  have hgone := h.countP_gone hk
  have hstay := h.countP_window hk
  have hslow' := countP_take_mono (w := w) leaves hslow
  have hfast' := countP_take_mono (w := w) (!stays ·) hfast
  have hsum := countP_take_add stays h.read
  simp only [readSlow, readFast]
  omega

theorem Stage.countP_le (_ : Stage b stays w x v) (keep : α → Bool) :
    (v.take b).countP keep ≤ b :=
  List.countP_le_length.trans ((List.length_take ..).trans_le (min_le_left ..))

theorem Stage.next_full (h : Stage b stays w x v) (hfull : b ≤ (pass b keep v).length) :
    x + (b - (v.take b).countP keep) ≤ w.length := by
  have hrest := congrArg List.length h.rest
  have hread := h.read
  rw [pass, List.length_append, ← List.countP_eq_length_filter] at hfull
  simp only [List.length_drop] at hrest hfull
  omega

/-! ## Lines that clear do not last -/

theorem Stage.mem (h : Stage b stays w x v) {a : α} (ha : a ∈ v) : a ∈ w := by
  rw [← List.take_append_drop b v, h.rest] at ha
  rcases List.mem_append.1 ha with ha | ha
  · exact List.mem_of_mem_take (h.window.subset ha)
  · exact List.mem_of_mem_drop ha

/-- A pass of such a line does not leave only entries that stay. -/
theorem Clears.not_dry (hc : Clears b leaves stays w) (keep : α → Bool) (h : Stage b stays w x v)
    (hslow : readSlow b leaves w j ≤ x) (hfast : x ≤ readFast b stays w j)
    (hne : pass b keep v ≠ []) : ∃ a ∈ pass b keep v, stays a = false := by
  rcases (hc j (hslow.trans h.read)).2 with hno | ⟨a, ha, hs⟩
  · obtain ⟨a, ha⟩ := List.exists_mem_of_ne_nil _ hne
    exact ⟨a, ha, hno a (h.mem (mem_pass ha))⟩
  · refine ⟨a, List.mem_append_right _ ?_, hs⟩
    rw [h.rest]
    exact (List.drop_sublist_drop_left w hfast).subset ha

theorem Lasts.not_clears (h : Lasts b leaves stays v) : ∀ {j x}, Stage b stays w x v →
    readSlow b leaves w j ≤ x → x ≤ readFast b stays w j → ¬ Clears b leaves stays w := by
  induction h with
  | @stuck v hfull hstuck =>
    intro j x hst hslow _ hc
    have hb : b ≤ w.length := (readSlow_mono_le (Nat.zero_le j)).trans (hslow.trans hst.read)
    have hlt := hc.countP_lt hb
    have hall : (v.take b).countP (!leaves ·) = (v.take b).length :=
      List.countP_eq_length.2 fun a ha => by simp [hstuck a ha]
    have hle := (hst.window.trans (List.take_sublist x w)).countP_le (p := (!leaves ·))
    rw [hall, List.length_take_of_le hfull] at hle
    omega
  | @dry v hne hdry =>
    intro j x hst hslow hfast hc
    have hsame : pass b (fun _ => true) v = v := by
      rw [pass, List.filter_eq_self.2 fun _ _ => rfl, List.take_append_drop]
    obtain ⟨a, ha, hs⟩ := hc.not_dry (fun _ => true) hst hslow hfast (hsame.symm ▸ hne)
    rw [hsame] at ha
    simp [hdry a ha] at hs
  | @next v keep hfull hk hnext ih =>
    intro j x hst hslow hfast hc
    by_cases hb : b ≤ (pass b keep v).length
    · obtain ⟨hslow', hfast'⟩ := hst.next_bounds hk hslow hfast
      exact ih (hst.next hk (hst.next_full hb)) hslow' hfast' hc
    · cases hnext with
      | stuck h _ => exact hb h
      | next h _ _ => exact hb h
      | dry hne hdry =>
        obtain ⟨a, ha, hs⟩ := hc.not_dry _ hst hslow hfast hne
        simp [hdry a ha] at hs

/-! ## Lines that do not clear last -/

theorem keeps_slow (hdisj : ∀ a, leaves a = true → stays a = false) :
    Keeps leaves stays (!leaves ·) := by
  refine ⟨fun a ha => by simp [ha], fun a ha => ?_⟩
  cases hl : leaves a with
  | false => rfl
  | true => simp [hdisj a hl] at ha

theorem keeps_fast (hdisj : ∀ a, leaves a = true → stays a = false) :
    Keeps leaves stays stays := ⟨hdisj, fun _ h => h⟩

/-- The slow line, after passes from which nothing goes that need not. -/
theorem exists_slow (hdisj : ∀ a, leaves a = true → stays a = false) :
    ∀ j, readSlow b leaves w j ≤ w.length → ∃ v, Stage b stays w (readSlow b leaves w j) v ∧
      (v.take b).countP (!leaves ·) + (w.take (readSlow b leaves w j)).countP leaves =
        readSlow b leaves w j ∧
      (Lasts b leaves stays v → Lasts b leaves stays w) := by
  have hk := keeps_slow hdisj
  intro j
  induction j with
  | zero =>
    intro hb
    refine ⟨w, Stage.start hb, ?_, id⟩
    have hsum := countP_take_add leaves (show b ≤ w.length from hb)
    simp only [readSlow]
    omega
  | succ j ih =>
    intro hb
    obtain ⟨v, hst, hcount, hlast⟩ := ih (readSlow_mono.trans hb)
    have hle := hst.countP_le (!leaves ·)
    have hread : readSlow b leaves w j + (b - (v.take b).countP (!leaves ·)) =
        readSlow b leaves w (j + 1) := by
      simp only [readSlow]
      omega
    have hnext := hst.next hk (hread.trans_le hb)
    refine ⟨pass b (!leaves ·) v, hread ▸ hnext, ?_, fun h => hlast (.next hst.full hk h)⟩
    have hlen : ((v.take b).filter (!leaves ·)).length = (v.take b).countP (!leaves ·) :=
      List.countP_eq_length_filter.symm
    have hwin : (pass b (!leaves ·) v).take b = (v.take b).filter (!leaves ·) ++
        (w.drop (readSlow b leaves w j)).take (b - (v.take b).countP (!leaves ·)) := by
      rw [pass, List.take_append, hlen, hst.rest, List.take_of_length_le (by omega)]
    have hsum := countP_add_not leaves
      ((w.drop (readSlow b leaves w j)).take (b - (v.take b).countP (!leaves ·)))
    simp only [List.length_take, List.length_drop] at hsum
    rw [hwin, ← hread, List.take_add, List.countP_append, List.countP_append, List.countP_filter]
    simp only [Bool.and_self]
    omega

/-- A window can keep any number of entries between those that stay and those that do not leave. -/
theorem exists_keep (hdisj : ∀ a, leaves a = true → stays a = false) [DecidableEq α] {l : List α}
    (hl : l.Nodup) : ∀ {n}, l.countP stays ≤ n → n ≤ l.countP (!leaves ·) →
      ∃ keep, Keeps leaves stays keep ∧ l.countP keep = n := by
  have hslow := keeps_slow hdisj
  induction l with
  | nil =>
    intro n _ hn
    exact ⟨_, hslow, (Nat.le_zero.1 hn).symm⟩
  | cons a l ih =>
    intro n hlow hhigh
    obtain ⟨ha, hl⟩ := List.nodup_cons.1 hl
    simp only [List.countP_cons] at hlow hhigh
    cases hstay : stays a with
    | true =>
      have hleave : leaves a = false := by
        cases h : leaves a with
        | false => rfl
        | true => rw [hdisj a h] at hstay; cases hstay
      simp only [hstay, hleave, if_true, Bool.not_false] at hlow hhigh
      obtain ⟨keep, hk, hn⟩ := ih hl (n := n - 1) (by omega) (by omega)
      refine ⟨keep, hk, ?_⟩
      rw [List.countP_cons_of_pos (hk.on a hstay)]
      omega
    | false =>
      simp only [hstay, Bool.false_eq_true, if_false] at hlow
      by_cases hn : n ≤ l.countP (!leaves ·)
      · obtain ⟨keep, hk, hn⟩ := ih hl hlow hn
        refine ⟨fun c => keep c && decide (c ≠ a), ⟨fun c hc => by simp [hk.out c hc], fun c hc => ?_⟩,
          ?_⟩
        · have hca : c ≠ a := fun h => by rw [h, hstay] at hc; cases hc
          simp [hk.on c hc, hca]
        · rw [List.countP_cons_of_neg (by simp), ← hn]
          refine List.countP_congr fun c hc => ?_
          have hca : c ≠ a := fun h => ha (h ▸ hc)
          simp [hca]
      · refine ⟨_, hslow, ?_⟩
        rw [List.countP_cons]
        have hle : (if (!leaves a) = true then 1 else 0) ≤ 1 := by split <;> omega
        omega

/-- A sequence that grows by at most one has all values in between. -/
theorem exists_eq_of_step {f : Nat → Nat} (hstep : ∀ y, f (y + 1) ≤ f y + 1) {lo hi x : Nat}
    (hle : lo ≤ hi) (hlo : f lo ≤ x) (hhi : x ≤ f hi) : ∃ y, lo ≤ y ∧ y ≤ hi ∧ f y = x := by
  induction hi, hle using Nat.le_induction with
  | base => exact ⟨lo, le_rfl, le_rfl, le_antisymm hlo hhi⟩
  | succ hi hle ih =>
    by_cases h : x ≤ f hi
    · obtain ⟨y, h1, h2, h3⟩ := ih h
      exact ⟨y, h1, by omega, h3⟩
    · have := hstep hi
      exact ⟨hi + 1, by omega, le_rfl, by omega⟩

theorem readSlow_le_readFast (hdisj : ∀ a, leaves a = true → stays a = false)
    (hj : readSlow b leaves w j ≤ w.length) : readSlow b leaves w j ≤ readFast b stays w j := by
  induction j with
  | zero => exact le_rfl
  | succ j ih =>
    refine Nat.add_le_add_left ((countP_take_mono leaves (ih (readSlow_mono.trans hj))).trans ?_) b
    exact List.countP_mono_left fun a _ ha => by simp [hdisj a ha]

/-- **Everything between** the slow and the fast line can have been read. -/
theorem exists_between (hdisj : ∀ a, leaves a = true → stays a = false) (hw : w.Nodup) :
    ∀ j x, readSlow b leaves w j ≤ x → x ≤ readFast b stays w j → x ≤ w.length →
      ∃ v, Stage b stays w x v ∧ (Lasts b leaves stays v → Lasts b leaves stays w) := by
  classical
  have hfast := keeps_fast hdisj
  intro j
  induction j with
  | zero =>
    intro x hlo hhi hx
    obtain rfl : b = x := le_antisymm hlo hhi
    exact ⟨w, Stage.start hx, id⟩
  | succ j ih =>
    intro x hlo hhi hx
    have hj : readSlow b leaves w j ≤ w.length := readSlow_mono.trans (hlo.trans hx)
    have hlo' : b + (w.take (readSlow b leaves w j)).countP leaves ≤ x := hlo
    have hhi' : x ≤ b + (w.take (readFast b stays w j)).countP (!stays ·) := hhi
    by_cases hfew : x ≤ b + (w.take (readSlow b leaves w j)).countP (!stays ·)
    · -- the slow line, with some of its entries gone in the last pass
      obtain ⟨v, hst, hcount, hlast⟩ := exists_slow hdisj j hj
      have hnd : (v.take b).Nodup := hst.window.nodup (hw.sublist (List.take_sublist _ w))
      have hsum := countP_take_add stays hst.read
      have hstay := hst.staying
      obtain ⟨keep, hk, hn⟩ := exists_keep hdisj hnd (n := readSlow b leaves w j + b - x)
        (by omega) (by omega)
      have hle := hst.countP_le keep
      have hread : readSlow b leaves w j + (b - (v.take b).countP keep) = x := by omega
      exact ⟨pass b keep v, hread ▸ hst.next hk (hread.trans_le hx),
        fun h => hlast (.next hst.full hk h)⟩
    · -- a line that read more before, with everything gone that can go
      have hstep : ∀ y, b + (w.take (y + 1)).countP (!stays ·) ≤
          b + (w.take y).countP (!stays ·) + 1 := fun y => by
        have := countP_take_succ (w := w) (x := y) (!stays ·)
        omega
      have hmin : (w.take (min (readFast b stays w j) w.length)).countP (!stays ·) =
          (w.take (readFast b stays w j)).countP (!stays ·) := by
        rw [← List.take_take, List.take_length]
      have hle : readSlow b leaves w j ≤ min (readFast b stays w j) w.length := by
        refine le_min ?_ hj
        by_contra hlt
        have := countP_take_mono (w := w) (!stays ·) (Nat.le_of_not_le hlt)
        omega
      obtain ⟨y, hy, hy', heq⟩ := exists_eq_of_step
        (f := fun y => b + (w.take y).countP (!stays ·)) hstep hle (x := x) (by omega)
        (by rw [hmin]; exact hhi')
      obtain ⟨v, hst, hlast⟩ := ih y hy (hy'.trans (min_le_left ..)) (hy'.trans (min_le_right ..))
      have hsum := countP_take_add stays hst.read
      have hstay := hst.staying
      have hle' := hst.countP_le stays
      have hread : y + (b - (v.take b).countP stays) = x := by omega
      exact ⟨pass b stays v, hread ▸ hst.next hfast (hread.trans_le hx),
        fun h => hlast (.next hst.full hfast h)⟩

/-- **A line lasts** exactly if it has a full window and does not clear. -/
theorem lasts_iff (hdisj : ∀ a, leaves a = true → stays a = false) (hw : w.Nodup) :
    (b ≤ w.length ∧ Lasts b leaves stays w) ↔ ¬ Clears b leaves stays w := by
  constructor
  · rintro ⟨hb, h⟩
    exact h.not_clears (j := 0) (Stage.start hb) le_rfl le_rfl
  · intro h
    unfold Clears at h
    push Not at h
    obtain ⟨j, hj, h⟩ := h
    refine ⟨(readSlow_mono_le (Nat.zero_le j)).trans hj, ?_⟩
    by_cases hstuck : readSlow b leaves w j < readSlow b leaves w (j + 1)
    · obtain ⟨⟨a, ha, hs⟩, hall⟩ := h hstuck
      -- all that can go is gone once the fast line has read it
      have hle : readSlow b leaves w j ≤ min (readFast b stays w j) w.length :=
        le_min (readSlow_le_readFast hdisj hj) hj
      obtain ⟨v, hst, hlast⟩ := exists_between hdisj hw j _ hle (min_le_left ..) (min_le_right ..)
      have hrest : ∀ c ∈ v.drop b, stays c = true := by
        intro c hc
        rw [hst.rest] at hc
        rcases le_total (readFast b stays w j) w.length with hx | hx
        · rw [min_eq_left hx] at hc
          simpa using hall c hc
        · rw [min_eq_right hx, List.drop_length] at hc
          cases hc
      have hne : pass b stays v ≠ [] := by
        rw [← List.take_append_drop (min (readFast b stays w j) w.length) w] at ha
        rcases List.mem_append.1 ha with ha | ha
        · have hpos : 0 < (v.take b).countP stays := by
            rw [hst.staying]
            exact List.countP_pos_iff.2 ⟨a, ha, by simpa using hs⟩
          obtain ⟨c, hc, hcs⟩ := List.countP_pos_iff.1 hpos
          exact List.ne_nil_of_mem (List.mem_append_left _ (List.mem_filter.2 ⟨hc, hcs⟩))
        · exact List.ne_nil_of_mem (List.mem_append_right _ (hst.rest ▸ ha))
      refine hlast (.next hst.full (keeps_fast hdisj) (.dry hne ?_))
      intro c hc
      rcases List.mem_append.1 hc with hc | hc
      · exact (List.mem_filter.1 hc).2
      · exact hrest c hc
    · obtain ⟨v, hst, hcount, hlast⟩ := exists_slow hdisj j hj
      refine hlast (.stuck hst.full fun a ha => ?_)
      have hlen : (v.take b).countP (!leaves ·) = (v.take b).length := by
        have := hst.countP_le (!leaves ·)
        rw [List.length_take_of_le hst.full]
        simp only [readSlow] at hstuck
        omega
      simpa using List.countP_eq_length.1 hlen a ha

end Window
