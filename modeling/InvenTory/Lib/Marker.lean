import InvenTory.Lib.PyString

/-!
# Texts without a marker

`Lacks ms s`: none of the texts `ms` occurs in `s`. A character that no marker has separates: a
text made of pieces with such characters between them lacks the markers if the pieces do
(`Lacks.append_cons`). So a text that is assembled from quoted pieces can be checked piece by
piece.
-/

namespace Py

def Lacks (ms : List String) (s : List Char) : Prop := ∀ m ∈ ms, ¬ m.toList <:+: s

/-- `c` occurs in none of the texts `ms`. -/
def Separates (ms : List String) (c : Char) : Prop := ∀ m ∈ ms, c ∉ m.toList

instance (ms : List String) (s : List Char) : Decidable (Lacks ms s) := by
  unfold Lacks
  infer_instance

instance (ms : List String) (c : Char) : Decidable (Separates ms c) := by
  unfold Separates
  infer_instance

/-- A text without `c` lies on one side of it. -/
theorem part_append_cons {α : Type} {m a b : List α} {c : α} (hc : c ∉ m)
    (h : m <:+: a ++ c :: b) : m <:+: a ∨ m <:+: b := by
  rcases List.infix_append_iff.1 h with h | h | ⟨t, u, rfl, ht, hu⟩
  · exact .inl h
  · rcases List.infix_cons_iff.1 h with h | h
    · cases m with
      | nil => exact .inl List.nil_infix
      | cons x xs =>
        have hx : x = c := (List.cons_prefix_cons.1 h).1
        exact absurd (hx ▸ List.mem_cons_self) hc
    · exact .inr h
  · cases u with
    | nil =>
      rw [List.append_nil]
      exact .inl ht.isInfix
    | cons x xs =>
      have hx : x = c := (List.cons_prefix_cons.1 hu).1
      exact absurd (List.mem_append_right t (hx ▸ List.mem_cons_self)) hc

variable {ms : List String} {a b s t : List Char} {c : Char}

namespace Lacks

theorem of_part (h : Lacks ms s) (hi : t <:+: s) : Lacks ms t :=
  fun m hm hin => h m hm (hin.trans hi)

theorem append_cons (hc : Separates ms c) (ha : Lacks ms a) (hb : Lacks ms b) :
    Lacks ms (a ++ c :: b) := by
  intro m hm h
  rcases part_append_cons (hc m hm) h with h | h
  · exact ha m hm h
  · exact hb m hm h

theorem nil (hs : ∀ m ∈ ms, m.toList ≠ []) : Lacks ms [] :=
  fun m hm h => hs m hm (List.infix_nil.1 h)

theorem cons (hs : ∀ m ∈ ms, m.toList ≠ []) (hc : Separates ms c) (h : Lacks ms s) :
    Lacks ms (c :: s) := append_cons hc (nil hs) h

theorem concat (hs : ∀ m ∈ ms, m.toList ≠ []) (hc : Separates ms c) (h : Lacks ms s) :
    Lacks ms (s ++ [c]) := append_cons hc h (nil hs)

/-- No marker can begin in `a`. -/
theorem append_of_heads (ha : ∀ m ∈ ms, ∃ c, m.toList.head? = some c ∧ c ∉ a) (hb : Lacks ms b) :
    Lacks ms (a ++ b) := by
  intro m hm h
  obtain ⟨c, hc, hn⟩ := ha m hm
  obtain ⟨rest, hrest⟩ : ∃ rest, m.toList = c :: rest := by
    cases hml : m.toList with
    | nil =>
      rw [hml] at hc
      cases hc
    | cons x xs =>
      rw [hml] at hc
      exact ⟨xs, by rw [Option.some.inj hc]⟩
  rw [hrest] at h
  rcases List.infix_append_iff.1 h with h | h | ⟨t, u, htu, ht, hu⟩
  · exact hn (h.subset List.mem_cons_self)
  · rw [← hrest] at h
    exact hb m hm h
  · cases t with
    | nil =>
      rw [List.nil_append] at htu
      rw [← htu, ← hrest] at hu
      exact hb m hm hu.isInfix
    | cons x xs =>
      cases htu
      exact hn (ht.subset List.mem_cons_self)

/-- Every marker has a character that the text has not. -/
theorem of_missing (h : ∀ m ∈ ms, ∃ c ∈ m.toList, c ∉ s) : Lacks ms s := by
  intro m hm hin
  obtain ⟨c, hc, hn⟩ := h m hm
  exact hn (hin.subset hc)

end Lacks

/-! ## Texts of Python -/

theorem toList_takeFirst_part (n : Nat) (s : String) : (takeFirst n s).toList <:+: s.toList := by
  rw [takeFirst, String.toList_ofList]
  exact (List.take_prefix n _).isInfix

theorem toList_dropFirst_part (n : Nat) (s : String) : (dropFirst n s).toList <:+: s.toList := by
  rw [dropFirst, String.toList_ofList]
  exact (List.drop_suffix n _).isInfix

theorem toList_strip_part (s : String) : (strip s).toList <:+: s.toList := by
  rw [strip, String.toList_ofList]
  have h1 := List.reverse_prefix.2
    (List.dropWhile_suffix isSpace (l := (s.toList.dropWhile isSpace).reverse))
  rw [List.reverse_reverse] at h1
  exact h1.isInfix.trans (List.dropWhile_suffix isSpace).isInfix

theorem Lacks.orElse {s t : String} (hs : Lacks ms s.toList) (ht : Lacks ms t.toList) :
    Lacks ms (orElse s t).toList := by
  unfold Py.orElse
  split
  · exact ht
  · exact hs

/-- Pieces joined with a separator that starts with a separating character. -/
theorem Lacks.intercalate {sep : List Char} (hs : ∀ m ∈ ms, m.toList ≠ []) (hc : Separates ms c)
    (hsep : ∀ s, Lacks ms s → Lacks ms (sep ++ s)) : ∀ {ss : List (List Char)},
    (∀ s ∈ ss, Lacks ms s) → Lacks ms ((c :: sep).intercalate ss)
  | [], _ => nil hs
  | [s], h => by simpa using h s
  | s :: t :: ss, h => by
    have hrest : Lacks ms ((c :: sep).intercalate (t :: ss)) :=
      Lacks.intercalate hs hc hsep fun x hx => h x (List.mem_cons_of_mem _ hx)
    have hjoin : (c :: sep).intercalate (s :: t :: ss) =
        s ++ c :: (sep ++ (c :: sep).intercalate (t :: ss)) := by
      simp [List.intercalate, List.intersperse]
    rw [hjoin]
    exact append_cons hc (h s List.mem_cons_self) (hsep _ hrest)

end Py
