import Mathlib.Data.List.DropRight

/-!
# Trimming

`trimBoth p l` is `l` without the elements with `p` at its two ends. A function that keeps `p` is
mapped before or after, so that no trimmed list is the image of a list that is not trimmed
(`exists_trimBoth_map`).
-/

namespace List

variable {α : Type*} {p q : α → Bool}

def trimBoth (p : α → Bool) (l : List α) : List α := (l.dropWhile p).rdropWhile p

theorem dropWhile_of_prefix {l l' : List α} (h : l.dropWhile p = l) (hl : l' <+: l) :
    l'.dropWhile p = l' := by
  cases l' with
  | nil => rfl
  | cons a as =>
    obtain ⟨bs, rfl⟩ := hl
    rw [dropWhile_eq_self_iff] at h ⊢
    exact fun _ => h (by simp)

theorem trimBoth_idem (p : α → Bool) (l : List α) : trimBoth p (trimBoth p l) = trimBoth p l := by
  have hfirst : (trimBoth p l).dropWhile p = trimBoth p l :=
    dropWhile_of_prefix (dropWhile_idempotent p l) ( rdropWhile_prefix p _)
  unfold trimBoth at hfirst ⊢
  rw [hfirst]
  exact rdropWhile_idempotent ..

theorem trimBoth_map {f : α → α} (h : ∀ a, p (f a) = p a) (l : List α) :
    trimBoth p (l.map f) = (trimBoth p l).map f := by
  have hcomp : p ∘ f = p := funext h
  unfold trimBoth rdropWhile
  rw [dropWhile_map, hcomp, ← map_reverse, dropWhile_map, hcomp, map_reverse]

theorem trimBoth_part (p : α → Bool) (l : List α) : trimBoth p l <:+: l :=
  ( rdropWhile_prefix p _).isInfix.trans (dropWhile_suffix p).isInfix

theorem trimBoth_eq_self_iff {l : List α} :
    trimBoth p l = l ↔ l.dropWhile p = l ∧ l.rdropWhile p = l := by
  constructor
  · intro h
    have hle : l.length ≤ (l.dropWhile p).length :=
      (congrArg length h).symm.le.trans ( rdropWhile_prefix p _).length_le
    have hdrop : l.dropWhile p = l :=
      (dropWhile_suffix p).eq_of_length (le_antisymm (dropWhile_suffix p).length_le hle)
    exact ⟨hdrop, by rwa [trimBoth, hdrop] at h⟩
  · rintro ⟨hdrop, hrdrop⟩
    rw [trimBoth, hdrop, hrdrop]

/-- What is trimmed of more is trimmed of less. -/
theorem trimBoth_mono (h : ∀ a, p a = true → q a = true) {l : List α} (hl : trimBoth q l = l) :
    trimBoth p l = l := by
  rw [trimBoth_eq_self_iff, dropWhile_eq_self_iff, rdropWhile_eq_self_iff] at hl ⊢
  exact ⟨fun hne hp => hl.1 hne (h _ hp), fun hne hp => hl.2 hne (h _ hp)⟩

/-- Only trimmed lists are the images of trimmed ones. -/
theorem exists_trimBoth_map {f : α → α} (h : ∀ a, p (f a) = p a) {l : List α} :
    (∃ l', (trimBoth p l').map f = l.map f) ↔ trimBoth p l = l := by
  constructor
  · rintro ⟨l', hl⟩
    have hmap : (trimBoth p l).map f = l.map f := by
      calc (trimBoth p l).map f = trimBoth p (l.map f) := (trimBoth_map h l).symm
        _ = trimBoth p ((trimBoth p l').map f) := by rw [hl]
        _ = l.map f := by rw [trimBoth_map h, trimBoth_idem, hl]
    have hlen := congrArg length hmap
    rw [length_map, length_map] at hlen
    exact (trimBoth_part p l).eq_of_length hlen
  · exact fun hl => ⟨l, by rw [hl]⟩

end List
