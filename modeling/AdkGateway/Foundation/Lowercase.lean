import AdkGateway.Foundation.Text
import Mathlib.Data.List.Infix

namespace AdkGateway.Foundation.Text

theorem toLower_eq_self {c : Char} (h : c.toNat < 65 ∨ 90 < c.toNat) : c.toLower = c := by
  refine dif_neg fun hupper ↦ ?_
  have hge : 65 ≤ c.toNat := hupper.1
  have hle : c.toNat ≤ 90 := hupper.2
  omega

theorem toNat_lt_of_toLower {c : Char} (h : c.toLower.toNat < 128) : c.toNat < 128 := by
  by_contra hc
  rw [toLower_eq_self (by omega)] at h
  exact hc h

/-- What the lower case of a text needs from the Unicode tables: the lower case of each character,
and whether a capital sigma between two texts (the first of them from its end) is the last of its
word. Beyond ASCII, only the capital I with a dot and the Kelvin sign have ASCII in their lower
case. -/
structure CaseTable where
  lower : Char → List Char
  finalSigma : List Char → List Char → Bool
  lower_ascii : ∀ c, c.toNat < 128 → lower c = [c.toLower]
  lower_ne_nil : ∀ c, lower c ≠ []
  eq_i_or_k : ∀ c, 128 ≤ c.toNat → ∀ d ∈ lower c, d.toNat < 128 → d = 'i' ∨ d = 'k'

namespace CaseTable

def asciiLower (c : Char) : List Char :=
  if c = 'İ' then ['i', '\u0307'] else if c = '\u212a' then ['k'] else [c.toLower]

theorem asciiLower_eq {c : Char} (hc : c.toNat < 128) : asciiLower c = [c.toLower] := by
  have hne {d : Char} (hd : 128 ≤ d.toNat) : c ≠ d := by
    intro heq
    rw [heq] at hc
    omega
  rw [asciiLower, if_neg (hne (by decide)), if_neg (hne (by decide))]

theorem asciiLower_ne_nil (c : Char) : asciiLower c ≠ [] := by
  unfold asciiLower
  split_ifs <;> simp

theorem eq_of_mem_asciiLower {c d : Char} (hc : 128 ≤ c.toNat) (hd : d ∈ asciiLower c)
    (hascii : d.toNat < 128) : d = 'i' ∨ d = 'k' := by
  unfold asciiLower at hd
  split_ifs at hd
  · rcases List.mem_pair.mp hd with rfl | rfl
    · exact .inl rfl
    · exact absurd hascii (by decide)
  · exact .inr (List.mem_singleton.mp hd)
  · rw [List.mem_singleton.mp hd, toLower_eq_self (by omega)] at hascii
    omega

/-- The table of the characters that lead to ASCII. -/
def ascii : CaseTable where
  lower := asciiLower
  finalSigma _ _ := false
  lower_ascii _ := asciiLower_eq
  lower_ne_nil := asciiLower_ne_nil
  eq_i_or_k _ hc _ hd := eq_of_mem_asciiLower hc hd

instance : Inhabited CaseTable := ⟨ascii⟩

variable (t : CaseTable)

/-- `before` is the text that has been read, from its end. -/
def lowerChars (before : List Char) : List Char → List Char
  | [] => []
  | c :: cs =>
    (if c = 'Σ' then [if t.finalSigma before cs then 'ς' else 'σ'] else t.lower c) ++
      lowerChars (c :: before) cs

def toLowercase (s : String) : String := String.ofList (t.lowerChars [] s.toList)

end CaseTable

variable {t : CaseTable} {pattern : List Char}

/-- Where the pattern is ASCII and has neither `i` nor `k`, a text begins with it in lower case just
if the same number of its own characters are the pattern, up to the case of ASCII letters. -/
theorem isPrefix_lowerChars_iff
    (hpattern : ∀ d ∈ pattern, d.toNat < 128 ∧ d ≠ 'i' ∧ d ≠ 'k') (before cs : List Char) :
    pattern <+: t.lowerChars before cs ↔ (cs.take pattern.length).map Char.toLower = pattern := by
  induction pattern generalizing before cs with
  | nil => simp
  | cons d pattern ih =>
    obtain ⟨⟨hascii, hi, hk⟩, hrest⟩ := List.forall_mem_cons.mp hpattern
    cases cs with
    | nil => simp [CaseTable.lowerChars]
    | cons c cs =>
      rw [List.length_cons, List.take_succ_cons, List.map_cons, CaseTable.lowerChars]
      by_cases hc : c.toNat < 128
      · have hsigma : c ≠ 'Σ' := by
          rintro rfl
          revert hc
          decide
        rw [if_neg hsigma, t.lower_ascii c hc, List.singleton_append, List.cons_prefix_cons,
          ih hrest, List.cons.injEq, @eq_comm _ d]
      · have hother : c.toLower ≠ d := by
          rintro rfl
          exact hc (toNat_lt_of_toLower hascii)
        refine iff_of_false ?_ fun h ↦ hother (List.cons.inj h).1
        split
        · rw [List.singleton_append, List.cons_prefix_cons]
          rintro ⟨rfl, -⟩
          revert hascii
          split <;> decide
        · obtain ⟨e, es, hlower⟩ := List.exists_cons_of_ne_nil (t.lower_ne_nil c)
          rw [hlower, List.cons_append, List.cons_prefix_cons]
          rintro ⟨rfl, -⟩
          have hmem : d ∈ t.lower c := hlower ▸ List.mem_cons_self
          exact (t.eq_i_or_k c (by omega) d hmem hascii).elim hi hk

/-- The characters whose lower case is an ASCII text take one byte each. -/
theorem byteLength_of_map_toLower {cs : List Char} (hpattern : ∀ d ∈ pattern, d.toNat < 128)
    (h : cs.map Char.toLower = pattern) : byteLength cs = pattern.length := by
  subst h
  induction cs with
  | nil => rfl
  | cons c cs ih =>
    obtain ⟨hc, hcs⟩ := List.forall_mem_cons.mp hpattern
    have hsize : c.utf8Size = 1 := by
      have hlt := toNat_lt_of_toLower hc
      rw [Char.utf8Size_eq_one_iff]
      exact Nat.le_of_lt_succ hlt
    rw [byteLength_cons, ih hcs, hsize, List.map_cons, List.length_cons, Nat.add_comm]

end AdkGateway.Foundation.Text
