import Mathlib.Data.List.Perm.Basic
import Mathlib.Data.List.Zip
import Mathlib.Data.List.Nodup
import Mathlib.Data.List.Induction

/-!
# Lists by places

`number xs` pairs the members of a list with their places, and `collect` reads a list back from
such pairs in any order (`collect_of_perm`). Leaving out the places marked in `drop` keeps the
others in order: `number_keep` says what becomes of their numbers.
-/

namespace Places

variable {α β : Type}

def number (xs : List α) : List (Nat × α) := (List.range xs.length).zip xs

/-- The values at the places `0 .. n - 1`. -/
def collect (n : Nat) (ys : List (Nat × α)) : List α :=
  (List.range n).filterMap fun i => ys.lookup i

theorem number_fst (xs : List α) : (number xs).map Prod.fst = List.range xs.length :=
  List.map_fst_zip (by simp)

theorem number_snd (xs : List α) : (number xs).map Prod.snd = xs := List.map_snd_zip (by simp)

theorem number_append_singleton (xs : List α) (a : α) :
    number (xs ++ [a]) = number xs ++ [(xs.length, a)] := by
  simp only [number, List.length_append, List.length_singleton, List.range_succ]
  exact List.zip_append (by simp)

theorem lookup_eq_some {i : Nat} {a : α} : ∀ {ys : List (Nat × α)},
    (ys.map Prod.fst).Nodup → (ys.lookup i = some a ↔ (i, a) ∈ ys)
  | [], _ => by simp
  | (j, b) :: ys, hn => by
    obtain ⟨hj, hn'⟩ := List.nodup_cons.1 hn
    by_cases h : i = j
    · subst h
      have hm : (i, a) ∉ ys := fun hm => hj (List.mem_map.2 ⟨_, hm, rfl⟩)
      simp [hm, eq_comm]
    · have hb : (i == j) = false := by simpa using h
      simp [List.lookup_cons, hb, lookup_eq_some hn', h]

theorem mem_number {xs : List α} {i : Nat} {a : α} : (i, a) ∈ number xs ↔ xs[i]? = some a := by
  have hz : number xs = xs.zipIdx.map fun x => (x.2, x.1) := by
    refine (List.zip_of_prod (number_fst xs) (number_snd xs)).trans ?_
    symm
    exact List.zip_of_prod (by simp [Function.comp_def, List.range_eq_range'])
      (by simp [Function.comp_def])
  rw [hz]
  simp only [List.mem_map, Prod.mk.injEq, Prod.exists]
  constructor
  · rintro ⟨b, j, hm, rfl, rfl⟩
    exact List.mem_zipIdx_iff_getElem?.1 hm
  · intro h
    exact ⟨a, i, List.mem_zipIdx_iff_getElem?.2 h, rfl, rfl⟩

theorem filterMap_getElem? (xs : List α) :
    ((List.range xs.length).filterMap fun i => xs[i]?) = xs := by
  induction xs using List.reverseRecOn with
  | nil => rfl
  | append_singleton xs a ih =>
    rw [List.length_append, List.length_singleton, List.range_succ, List.filterMap_append]
    have hl : (List.range xs.length).filterMap (fun i => (xs ++ [a])[i]?) =
        (List.range xs.length).filterMap fun i => xs[i]? := by
      apply List.filterMap_congr
      intro i hi
      exact List.getElem?_append_left (List.mem_range.1 hi)
    rw [hl, ih]
    simp

/-- **Reading back** what was numbered, in any order. -/
theorem collect_of_perm {xs : List α} {ys : List (Nat × α)} (h : ys.Perm (number xs)) :
    collect xs.length ys = xs := by
  have hn : (ys.map Prod.fst).Nodup := by
    rw [(h.map _).nodup_iff, number_fst]
    exact List.nodup_range
  conv_rhs => rw [← filterMap_getElem? xs]
  unfold collect
  congr 1
  funext i
  apply Option.ext
  intro a
  rw [lookup_eq_some hn, h.mem_iff, mem_number]

/-- Pairs whose places are `0 .. n - 1` number some list. -/
theorem exists_perm_number {n : Nat} {ys : List (Nat × α)}
    (h : (ys.map Prod.fst).Perm (List.range n)) :
    ∃ xs : List α, xs.length = n ∧ ys.Perm (number xs) := by
  obtain ⟨zs, hz, hp⟩ : Relation.Comp (fun l m => l = m.map Prod.fst) List.Perm
      (List.range n) ys := by
    rw [List.eq_map_comp_perm]
    exact h.symm
  have hl : (zs.map Prod.snd).length = n := by
    rw [List.length_map, ← List.length_map (f := Prod.fst), ← hz, List.length_range]
  refine ⟨zs.map Prod.snd, hl, hp.symm.trans (List.Perm.of_eq ?_)⟩
  unfold number
  rw [hl]
  exact List.zip_of_prod hz.symm rfl

/-! ## Leaving places out -/

/-- The members of `xs` at the places that `drop` does not mark. -/
def keep (drop : List Bool) (xs : List α) : List α := ((drop.zip xs).filter (!·.1)).map Prod.snd

/-- How many places before `i` are not marked. -/
def rank (drop : List Bool) (i : Nat) : Nat := ((drop.take i).filter (!·)).length

def dropped (drop : List Bool) (i : Nat) : Bool := drop[i]?.getD false

theorem length_keep {drop : List Bool} {xs : List α} (h : drop.length = xs.length) :
    (keep drop xs).length = (drop.filter (!·)).length := by
  have hz : drop = (drop.zip xs).map Prod.fst := (List.map_fst_zip (Nat.le_of_eq h)).symm
  conv_rhs => rw [hz, List.filter_map]
  simp [keep, Function.comp_def]

theorem number_keep {drop : List Bool} {xs : List α} (h : drop.length = xs.length) :
    number (keep drop xs) =
      ((number xs).filter fun x => !dropped drop x.1).map (Prod.map (rank drop) id) := by
  induction xs using List.reverseRecOn generalizing drop with
  | nil =>
    obtain rfl := List.eq_nil_of_length_eq_zero h
    rfl
  | append_singleton xs a ih =>
    obtain ⟨init, b, rfl⟩ : ∃ init b, drop = init ++ [b] := by
      rcases List.eq_nil_or_concat drop with rfl | ⟨init, b, rfl⟩
      · simp at h
      · exact ⟨init, b, List.concat_eq_append⟩
    have hlen : init.length = xs.length := by simpa using h
    -- earlier places keep their mark and their rank
    have hold : ∀ x ∈ number xs, dropped (init ++ [b]) x.1 = dropped init x.1 ∧
        rank (init ++ [b]) x.1 = rank init x.1 := by
      intro x hx
      have hlt : x.1 < init.length := by
        have hm := List.mem_map_of_mem (f := Prod.fst) hx
        rw [number_fst, List.mem_range] at hm
        omega
      unfold dropped rank
      rw [List.getElem?_append_left hlt, List.take_append_of_le_length (Nat.le_of_lt hlt)]
      exact ⟨rfl, rfl⟩
    have hfilter : ((number xs).filter fun x => !dropped (init ++ [b]) x.1) =
        (number xs).filter fun x => !dropped init x.1 :=
      List.filter_congr fun x hx => by rw [(hold x hx).1]
    have hmap : ((number xs).filter fun x => !dropped init x.1).map
          (Prod.map (rank (init ++ [b])) id) =
        ((number xs).filter fun x => !dropped init x.1).map (Prod.map (rank init) id) :=
      List.map_congr_left fun x hx =>
        Prod.ext (hold x (List.mem_of_mem_filter hx)).2 rfl
    have hlast : dropped (init ++ [b]) xs.length = b := by simp [dropped, ← hlen]
    have hrank : rank (init ++ [b]) xs.length = (keep init xs).length := by
      simp [rank, ← hlen, length_keep hlen]
    have hkeep : keep (init ++ [b]) (xs ++ [a]) = keep init xs ++ if b then [] else [a] := by
      unfold keep
      rw [List.zip_append hlen]
      cases b <;> simp
    rw [number_append_singleton, List.filter_append, List.map_append, hfilter, hmap, ← ih hlen,
      hkeep]
    cases b
    · simp [hlast, hrank, number_append_singleton]
    · simp [hlast]

end Places
