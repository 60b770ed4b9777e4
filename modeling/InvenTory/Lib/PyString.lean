import Mathlib.Data.List.Infix
import Mathlib.Tactic.Common

/-!
# Python's strings

The string operations of a Python service: `str.strip`, slices, `in`, `str.startswith`, the
case mappings (`CaseMap`) and the regular expression `-?\d+` with the `int` it stands for.
`matchInt_toString` is the round trip of a number through an f-string and that expression.
-/

namespace Py

/-- The characters `str.strip` and `str.isspace` take for white space. -/
def isSpace (c : Char) : Bool :=
  (9 ≤ c.val && c.val ≤ 13) || (28 ≤ c.val && c.val ≤ 32) || c.val = 0x85 || c.val = 0xa0 ||
  c.val = 0x1680 || (0x2000 ≤ c.val && c.val ≤ 0x200a) || c.val = 0x2028 || c.val = 0x2029 ||
  c.val = 0x202f || c.val = 0x205f || c.val = 0x3000

/-- `s.strip()` -/
def strip (s : String) : String :=
  String.ofList ((s.toList.dropWhile isSpace).reverse.dropWhile isSpace).reverse

/-- `s[:n]` -/
def takeFirst (n : Nat) (s : String) : String := String.ofList (s.toList.take n)

/-- `s[n:]` -/
def dropFirst (n : Nat) (s : String) : String := String.ofList (s.toList.drop n)

/-- `s.startswith(p)` -/
def startsWith (s p : String) : Bool := p.toList.isPrefixOf s.toList

/-- `m in s` -/
def isIn (m s : String) : Bool := decide (m.toList <:+: s.toList)

/-- `s or t` -/
def orElse (s t : String) : String := if s = "" then t else s

/-- `str.upper` and `str.lower`; only what they do to ASCII text is fixed. -/
structure CaseMap where
  upper : String → String
  lower : String → String
  lower_ascii : ∀ s, (∀ c ∈ s.toList, c.val < 128) →
    lower s = String.ofList (s.toList.map Char.toLower)

/-- The case mappings of ASCII. -/
def CaseMap.ascii : CaseMap where
  upper s := String.ofList (s.toList.map Char.toUpper)
  lower s := String.ofList (s.toList.map Char.toLower)
  lower_ascii _ _ := rfl

theorem not_isLower_toUpper (c : Char) : ¬ c.toUpper.isLower = true := by
  unfold Char.toUpper
  split
  · rename_i h
    obtain ⟨h1, h2⟩ := h
    delta Char.isLower
    simp only [Bool.and_eq_true, decide_eq_true_eq, not_and]
    intro h3
    rw [UInt32.le_iff_toNat_le] at h1 h2
    have h4 : ('a'.val).toNat ≤ (c.val + ('A'.val - 'a'.val)).toNat := UInt32.le_iff_toNat_le.1 h3
    have ha : ('a'.val).toNat = 97 := rfl
    have hz : ('z'.val).toNat = 122 := rfl
    have hd : ('A'.val - 'a'.val).toNat = 4294967264 := rfl
    rw [UInt32.toNat_add, hd, ha] at h4
    rw [ha] at h1
    rw [hz] at h2
    omega
  · rename_i h
    delta Char.isLower
    simp only [Bool.and_eq_true, decide_eq_true_eq]
    exact h

/-! ## Numbers in texts -/

/-- Match `\d+` at the head of a text: the number and the rest. -/
def matchNat (cs : List Char) : Option (Nat × List Char) :=
  let ds := cs.takeWhile Char.isDigit
  if ds = [] then none else some (Nat.ofDigitChars 10 ds 0, cs.dropWhile Char.isDigit)

/-- Match `-?\d+` at the head of a text. -/
def matchInt : List Char → Option (Int × List Char)
  | '-' :: cs => (matchNat cs).map fun r => (-(r.1 : Int), r.2)
  | cs => (matchNat cs).map fun r => ((r.1 : Int), r.2)

/-- Match the fixed text `t` at the head of a text. -/
def matchText (t : String) (cs : List Char) : Option (List Char) :=
  if t.toList.isPrefixOf cs then some (cs.drop t.toList.length) else none

theorem matchText_append (t : String) (cs : List Char) :
    matchText t (t.toList ++ cs) = some cs := by
  have h : t.toList.isPrefixOf (t.toList ++ cs) = true :=
    List.isPrefixOf_iff_prefix.2 (List.prefix_append ..)
  simp [matchText, h]

theorem isDigit_toDigits (n : Nat) : ∀ c ∈ Nat.toDigits 10 n, c.isDigit = true :=
  fun _ hc => Nat.isDigit_of_mem_toDigits (by decide) (by decide) hc

theorem matchNat_toDigits (n : Nat) {cs : List Char} (h : cs.head?.all (!·.isDigit)) :
    matchNat (Nat.toDigits 10 n ++ cs) = some (n, cs) := by
  have hd := isDigit_toDigits n
  have ht : cs.takeWhile Char.isDigit = [] := by
    cases cs <;> simp_all
  have hr : cs.dropWhile Char.isDigit = cs := by
    cases cs <;> simp_all
  simp only [matchNat, List.takeWhile_append_of_pos hd, List.dropWhile_append_of_pos hd, ht, hr,
    List.append_nil, Nat.toDigits_ne_nil, if_false, Nat.ofDigitChars_ten_toDigits]

theorem toList_toString_ofNat (n : Nat) : (toString (n : Int)).toList = Nat.toDigits 10 n := by
  change (Nat.repr n).toList = _
  exact Nat.toList_repr

theorem toList_toString_negSucc (n : Nat) :
    (toString (Int.negSucc n)).toList = '-' :: Nat.toDigits 10 (n + 1) := by
  change ("-" ++ Nat.repr (n + 1)).toList = _
  rw [String.toList_append, Nat.toList_repr]
  rfl

/-- A number printed and matched again. -/
theorem matchInt_toString (z : Int) {cs : List Char} (h : cs.head?.all (!·.isDigit)) :
    matchInt ((toString z).toList ++ cs) = some (z, cs) := by
  cases z with
  | negSucc n =>
    rw [toList_toString_negSucc]
    simp [matchInt, matchNat_toDigits _ h, Int.negSucc_eq]
  | ofNat n =>
    have hn := matchNat_toDigits n h
    rw [Int.ofNat_eq_natCast, toList_toString_ofNat]
    cases hds : Nat.toDigits 10 n with
    | nil => exact absurd hds Nat.toDigits_ne_nil
    | cons d ds =>
      have hd : d.isDigit = true := isDigit_toDigits n d (by simp [hds])
      have hne : d ≠ '-' := fun he => by simp [he] at hd
      rw [hds] at hn
      simp only [List.cons_append] at hn ⊢
      rw [matchInt]
      · simp [hn]
      · intro cs' he
        exact hne (List.cons.inj he).1

theorem mem_digits {c : Char} (h : c.isDigit = true) : c ∈ "0123456789".toList := by
  have hc : c = Char.ofNat c.toNat := (Char.ofNat_toNat c).symm
  simp only [Char.isDigit, Bool.and_eq_true, decide_eq_true_eq, UInt32.le_iff_toNat_le] at h
  have hlo : 48 ≤ c.toNat := h.1
  have hhi : c.toNat ≤ 57 := h.2
  rw [hc]
  generalize c.toNat = n at hlo hhi
  have hn : n = 48 ∨ n = 49 ∨ n = 50 ∨ n = 51 ∨ n = 52 ∨ n = 53 ∨ n = 54 ∨ n = 55 ∨ n = 56 ∨
    n = 57 := by omega
  rcases hn with rfl | rfl | rfl | rfl | rfl | rfl | rfl | rfl | rfl | rfl <;> decide

/-- The characters of a printed number. -/
theorem mem_toString_int {z : Int} {c : Char} (h : c ∈ (toString z).toList) :
    c ∈ "-0123456789".toList := by
  cases z with
  | negSucc n =>
    rw [toList_toString_negSucc, List.mem_cons] at h
    rcases h with rfl | h
    · decide
    · exact List.mem_cons_of_mem _ (mem_digits (isDigit_toDigits _ c h))
  | ofNat n =>
    rw [Int.ofNat_eq_natCast, toList_toString_ofNat] at h
    exact List.mem_cons_of_mem _ (mem_digits (isDigit_toDigits n c h))

/-- A text without the character `c` contains no text with it. -/
theorem isIn_eq_false {m s : String} {c : Char} (hm : c ∈ m.toList) (hs : c ∉ s.toList) :
    isIn m s = false := by
  simp only [isIn, decide_eq_false_iff_not]
  exact fun h => hs (h.subset hm)

end Py
