import AdkGateway.Foundation.Splitting
import Mathlib.Algebra.Group.Int.Defs

namespace AdkGateway.Foundation.Decimal

open Text

/-- A numeral as unsigned integers are read: decimal digits, with a plus sign or without. -/
def IsNumeral (cs : List Char) (n : ℕ) : Prop :=
  ∃ digits, (cs = digits ∨ cs = '+' :: digits) ∧ digits ≠ [] ∧
    (∀ c ∈ digits, c.isDigit = true) ∧ Nat.ofDigitChars 10 digits 0 = n

/-- `parse` of an unsigned integer of so many bits -/
def parseUnsigned (bits : ℕ) (cs : List Char) : Option ℕ :=
  let digits : List Char := if cs.head? = some '+' then cs.tail else cs
  let n := Nat.ofDigitChars 10 digits 0
  if digits ≠ [] ∧ digits.all Char.isDigit = true ∧ n < 2 ^ bits then some n else none

variable {cs : List Char} {n m bits : ℕ}

theorem parseUnsigned_plus (bits : ℕ) (digits : List Char) :
    parseUnsigned bits ('+' :: digits) =
      if digits ≠ [] ∧ digits.all Char.isDigit = true ∧ Nat.ofDigitChars 10 digits 0 < 2 ^ bits then
        some (Nat.ofDigitChars 10 digits 0)
      else none := rfl

theorem parseUnsigned_of_head_ne (bits : ℕ) (h : cs.head? ≠ some '+') :
    parseUnsigned bits cs =
      if cs ≠ [] ∧ cs.all Char.isDigit = true ∧ Nat.ofDigitChars 10 cs 0 < 2 ^ bits then
        some (Nat.ofDigitChars 10 cs 0)
      else none := by
  rw [parseUnsigned, if_neg h]

theorem head_ne_plus {digits : List Char} (h : ∀ c ∈ digits, c.isDigit = true) :
    digits.head? ≠ some '+' := by
  intro hhead
  exact absurd (h '+' (List.mem_of_mem_head? hhead)) (by decide)

theorem parseUnsigned_eq_some_iff :
    parseUnsigned bits cs = some n ↔ IsNumeral cs n ∧ n < 2 ^ bits := by
  constructor
  · intro h
    by_cases hplus : cs.head? = some '+'
    · obtain ⟨digits, rfl⟩ := List.head?_eq_some_iff.mp hplus
      rw [parseUnsigned_plus, Option.ite_none_right_eq_some] at h
      obtain ⟨⟨hne, hall, hlt⟩, heq⟩ := h
      cases heq
      exact ⟨⟨digits, .inr rfl, hne, List.all_eq_true.mp hall, rfl⟩, hlt⟩
    · rw [parseUnsigned_of_head_ne bits hplus, Option.ite_none_right_eq_some] at h
      obtain ⟨⟨hne, hall, hlt⟩, heq⟩ := h
      cases heq
      exact ⟨⟨cs, .inl rfl, hne, List.all_eq_true.mp hall, rfl⟩, hlt⟩
  · rintro ⟨⟨digits, hcs, hne, hall, rfl⟩, hlt⟩
    have hdigits := List.all_eq_true.mpr hall
    obtain rfl | rfl := hcs
    · rw [parseUnsigned_of_head_ne bits (head_ne_plus hall), if_pos ⟨hne, hdigits, hlt⟩]
    · rw [parseUnsigned_plus, if_pos ⟨hne, hdigits, hlt⟩]

theorem parseUnsigned_eq_none_iff :
    parseUnsigned bits cs = none ↔ ∀ n, IsNumeral cs n → 2 ^ bits ≤ n := by
  simp only [Option.eq_none_iff_forall_ne_some, ne_eq, parseUnsigned_eq_some_iff, not_and, not_lt]

theorem IsNumeral.unique (h : IsNumeral cs n) (h' : IsNumeral cs m) : n = m := by
  have hn : n < 2 ^ max n m := (le_max_left n m).trans_lt Nat.lt_two_pow_self
  have hm : m < 2 ^ max n m := (le_max_right n m).trans_lt Nat.lt_two_pow_self
  have hparse := parseUnsigned_eq_some_iff.mpr ⟨h, hn⟩
  rw [parseUnsigned_eq_some_iff.mpr ⟨h', hm⟩] at hparse
  exact (Option.some.inj hparse).symm

theorem all_isDigit_toString (n : ℕ) : ∀ c ∈ (toString n).toList, c.isDigit = true := by
  intro c hc
  simp only [Nat.toString_eq_repr, Nat.toList_repr] at hc
  exact Nat.isDigit_of_mem_toDigits (by decide) (by decide) hc

theorem isNumeral_toString (n : ℕ) : IsNumeral (toString n).toList n := by
  refine ⟨(toString n).toList, .inl rfl, ?_, all_isDigit_toString n, ?_⟩
  · simp [Nat.toDigits_ne_nil]
  · simp [Nat.ofDigitChars_ten_toDigits]

theorem IsNumeral.not_whitespace (h : IsNumeral cs n) {c : Char} (hc : c ∈ cs) :
    isWhitespace c = false := by
  obtain ⟨digits, hcs, -, hall, -⟩ := h
  have hdigit : c = '+' ∨ c.isDigit = true := by
    obtain rfl | rfl := hcs
    · exact .inr (hall c hc)
    · exact (List.mem_cons.mp hc).imp_right (hall c)
  obtain rfl | hdigit := hdigit
  · decide
  · have hrange : 48 ≤ c.toNat ∧ c.toNat ≤ 57 := Char.isDigit_iff_toNat.mp hdigit
    simp only [isWhitespace, Bool.or_eq_false_iff, Bool.and_eq_false_iff, decide_eq_false_iff_not,
      beq_eq_false_iff_ne]
    omega

theorem IsNumeral.ne_nil (h : IsNumeral cs n) : cs ≠ [] := by
  obtain ⟨digits, hcs, hne, -, -⟩ := h
  obtain rfl | rfl := hcs
  · exact hne
  · simp

/-- `parse` of a signed integer of so many bits -/
def parseSigned (bits : ℕ) : List Char → Option ℤ
  | '-' :: digits =>
    let n := Nat.ofDigitChars 10 digits 0
    if digits ≠ [] ∧ digits.all Char.isDigit = true ∧ n ≤ 2 ^ (bits - 1) then some (-n) else none
  | cs => (parseUnsigned (bits - 1) cs).map Int.ofNat

theorem parseSigned_of_head_ne (h : cs.head? ≠ some '-') :
    parseSigned bits cs = (parseUnsigned (bits - 1) cs).map Int.ofNat := by
  unfold parseSigned
  split
  · exact absurd rfl h
  · rfl

theorem parseSigned_toString {z : ℤ} (hlow : -2 ^ (bits - 1) ≤ z) (hhigh : z < 2 ^ (bits - 1)) :
    parseSigned bits (toString z).toList = some z := by
  cases z with
  | ofNat n =>
    have hhead : (toString n).toList.head? ≠ some '-' := by
      intro hhead
      exact absurd (all_isDigit_toString n '-' (List.mem_of_mem_head? hhead)) (by decide)
    have hlt : n < 2 ^ (bits - 1) := by
      have : (n : ℤ) < ((2 ^ (bits - 1) : ℕ) : ℤ) := by simpa using hhigh
      exact_mod_cast this
    change parseSigned bits (toString n).toList = _
    rw [parseSigned_of_head_ne hhead, parseUnsigned_eq_some_iff.mpr ⟨isNumeral_toString n, hlt⟩]
    rfl
  | negSucc n =>
    have hle : n + 1 ≤ 2 ^ (bits - 1) := by
      rw [Int.negSucc_eq] at hlow
      have : ((n + 1 : ℕ) : ℤ) ≤ ((2 ^ (bits - 1) : ℕ) : ℤ) := by push_cast; omega
      exact_mod_cast this
    have htext : (toString (Int.negSucc n)).toList = '-' :: (toString (n + 1)).toList := by
      change ("-" ++ toString (n + 1)).toList = _
      rw [String.toList_append]
      rfl
    have hvalue : Nat.ofDigitChars 10 (toString (n + 1)).toList 0 = n + 1 := by
      simp [Nat.ofDigitChars_ten_toDigits]
    have hne : (toString (n + 1)).toList ≠ [] := by simp [Nat.toDigits_ne_nil]
    rw [htext]
    change (if (toString (n + 1)).toList ≠ [] ∧ (toString (n + 1)).toList.all Char.isDigit = true ∧
      Nat.ofDigitChars 10 (toString (n + 1)).toList 0 ≤ 2 ^ (bits - 1) then
        some (-(Nat.ofDigitChars 10 (toString (n + 1)).toList 0 : ℤ)) else none) = _
    have hall := List.all_eq_true.mpr (all_isDigit_toString (n + 1))
    rw [if_pos ⟨hne, hall, hvalue.le.trans hle⟩, hvalue]
    rfl

end AdkGateway.Foundation.Decimal
