import Mathlib.Algebra.Order.Group.Nat
import Mathlib.Data.List.Basic
import Mathlib.Data.List.TakeWhile

namespace AdkGateway.Foundation.Text

/-- The characters of the Unicode property `White_Space`. -/
def isWhitespace (c : Char) : Bool :=
  let n := c.toNat
  (9 ≤ n && n ≤ 13) || n == 32 || n == 0x85 || n == 0xA0 || n == 0x1680 ||
    (0x2000 ≤ n && n ≤ 0x200A) || n == 0x2028 || n == 0x2029 || n == 0x202F || n == 0x205F ||
    n == 0x3000

def trimStartChars (cs : List Char) : List Char := cs.dropWhile isWhitespace

def trimEndChars (cs : List Char) : List Char := (cs.reverse.dropWhile isWhitespace).reverse

def trim (s : String) : String := String.ofList (trimEndChars (trimStartChars s.toList))

/-- `trim_matches` of one character -/
def trimMatches (c : Char) (s : String) : String :=
  String.ofList ((s.toList.dropWhile (· == c)).reverse.dropWhile (· == c)).reverse

def splitOnceChars (pattern : List Char) : List Char → Option (List Char × List Char)
  | [] => if pattern = [] then some ([], []) else none
  | c :: cs =>
    if pattern.isPrefixOf (c :: cs) then some ([], (c :: cs).drop pattern.length)
    else (splitOnceChars pattern cs).map fun (before, after) ↦ (c :: before, after)

/-- What is before and after the first occurrence of a pattern. -/
def splitOnce (pattern s : String) : Option (String × String) :=
  (splitOnceChars pattern.toList s.toList).map fun (before, after) ↦
    (String.ofList before, String.ofList after)

/-- How many bytes the characters take in UTF-8. -/
def byteLength (cs : List Char) : ℕ := cs.foldr (fun c n ↦ c.utf8Size + n) 0

/-- Cut after a number of bytes, if that is between two characters. -/
def splitAtByte : List Char → ℕ → Option (List Char × List Char)
  | cs, 0 => some ([], cs)
  | [], _ + 1 => none
  | c :: cs, n + 1 =>
    if c.utf8Size ≤ n + 1 then
      (splitAtByte cs (n + 1 - c.utf8Size)).map fun (before, after) ↦ (c :: before, after)
    else none

theorem length_splitAtByte_lt {cs before after : List Char} {n : ℕ} (hn : n ≠ 0)
    (h : splitAtByte cs n = some (before, after)) : after.length < cs.length := by
  induction cs generalizing n before with
  | nil =>
    cases n with
    | zero => exact absurd rfl hn
    | succ n => cases h
  | cons c cs ih =>
    cases n with
    | zero => exact absurd rfl hn
    | succ n =>
      rw [splitAtByte] at h
      split at h
      case isTrue hsize =>
        obtain ⟨⟨before', after'⟩, hcut, heq⟩ := Option.map_eq_some_iff.mp h
        cases heq
        cases hrest : n + 1 - c.utf8Size with
        | zero =>
          rw [hrest, splitAtByte] at hcut
          cases hcut
          exact Nat.lt_succ_self _
        | succ m => exact Nat.lt_succ_of_lt (ih (by omega) hcut)
      case isFalse => cases h

theorem length_trimStartChars_le (cs : List Char) : (trimStartChars cs).length ≤ cs.length :=
  (List.dropWhile_suffix isWhitespace).length_le

def rfindByte (c : Char) (cs : List Char) : Option ℕ :=
  if c ∈ cs then some (byteLength (cs.reverse.dropWhile (· != c)).tail) else none

variable {cs before after : List Char} {n : ℕ}

theorem byteLength_cons (c : Char) (cs : List Char) :
    byteLength (c :: cs) = c.utf8Size + byteLength cs := rfl

theorem byteLength_append (cs ds : List Char) :
    byteLength (cs ++ ds) = byteLength cs + byteLength ds := by
  induction cs with
  | nil => exact (Nat.zero_add _).symm
  | cons c cs ih => rw [List.cons_append, byteLength_cons, byteLength_cons, ih, Nat.add_assoc]

theorem byteLength_reverse (cs : List Char) : byteLength cs.reverse = byteLength cs := by
  induction cs with
  | nil => rfl
  | cons c cs ih =>
    have hone : byteLength [c] = c.utf8Size := Nat.add_zero _
    rw [List.reverse_cons, byteLength_append, ih, hone, byteLength_cons, Nat.add_comm]

theorem length_le_byteLength (cs : List Char) : cs.length ≤ byteLength cs := by
  induction cs with
  | nil => exact le_rfl
  | cons c cs ih =>
    have hpos := c.utf8Size_pos
    rw [List.length_cons, byteLength_cons]
    omega

theorem byteLength_eq_zero_iff : byteLength cs = 0 ↔ cs = [] := by
  cases cs with
  | nil => exact iff_of_true rfl rfl
  | cons c cs =>
    have hpos := c.utf8Size_pos
    rw [byteLength_cons]
    exact iff_of_false (by omega) (List.cons_ne_nil _ _)

theorem splitAtByte_append (before after : List Char) :
    splitAtByte (before ++ after) (byteLength before) = some (before, after) := by
  induction before with
  | nil => cases after <;> rfl
  | cons c before ih =>
    have hpos := c.utf8Size_pos
    obtain ⟨k, hk⟩ : ∃ k, byteLength (c :: before) = k + 1 :=
      Nat.exists_eq_succ_of_ne_zero (by rw [byteLength_cons]; omega)
    have hrest : k + 1 - c.utf8Size = byteLength before := by
      rw [← hk, byteLength_cons, Nat.add_sub_cancel_left]
    rw [hk, List.cons_append, splitAtByte, if_pos (by rw [byteLength_cons] at hk; omega), hrest, ih]
    rfl

/-- A cut is possible just where the text is two texts, of which the first has that many bytes. -/
theorem splitAtByte_eq_some_iff :
    splitAtByte cs n = some (before, after) ↔ cs = before ++ after ∧ byteLength before = n := by
  constructor
  · intro h
    induction cs generalizing n before with
    | nil =>
      cases n with
      | zero =>
        cases h
        exact ⟨rfl, rfl⟩
      | succ n => cases h
    | cons c cs ih =>
      cases n with
      | zero =>
        cases h
        exact ⟨rfl, rfl⟩
      | succ n =>
        rw [splitAtByte] at h
        split at h
        case isTrue hsize =>
          obtain ⟨⟨before', after'⟩, hcut, heq⟩ := Option.map_eq_some_iff.mp h
          cases heq
          obtain ⟨rfl, hlength⟩ := ih hcut
          refine ⟨rfl, ?_⟩
          rw [byteLength_cons]
          omega
        case isFalse => cases h
  · intro h
    obtain ⟨rfl, rfl⟩ := h
    exact splitAtByte_append before after

theorem rfindByte_eq_some {c : Char} (h : rfindByte c cs = some n) :
    ∃ before after, cs = before ++ c :: after ∧ byteLength before = n := by
  rw [rfindByte] at h
  split at h
  case isTrue hc =>
    have hsplit := List.takeWhile_append_dropWhile (p := (· != c)) (l := cs.reverse)
    cases hdrop : cs.reverse.dropWhile (· != c) with
    | nil =>
      have hnone := List.dropWhile_eq_nil_iff.mp hdrop c (List.mem_reverse.mpr hc)
      simp at hnone
    | cons d rest =>
      have hd : d = c := by
        have hhead := List.head_dropWhile_not (· != c) (l := cs.reverse) (by simp [hdrop])
        simpa [hdrop] using hhead
      subst hd
      rw [hdrop] at hsplit h
      refine ⟨rest.reverse, (cs.reverse.takeWhile (· != d)).reverse, ?_, ?_⟩
      · have hreverse := congrArg List.reverse hsplit
        rw [List.reverse_reverse, List.reverse_append, List.reverse_cons,
          List.append_assoc] at hreverse
        exact hreverse.symm
      · rw [byteLength_reverse]
        exact Option.some_inj.mp h
  case isFalse => cases h

end AdkGateway.Foundation.Text
