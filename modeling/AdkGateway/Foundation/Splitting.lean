import AdkGateway.Foundation.Text
import Mathlib.Data.List.DropRight
import Mathlib.Data.List.Infix

namespace AdkGateway.Foundation.Text

section Strip

variable {α : Type} {p : α → Bool}

def strip (p : α → Bool) (cs : List α) : List α := (cs.dropWhile p).rdropWhile p

theorem trim_eq_strip (s : String) : trim s = String.ofList (strip isWhitespace s.toList) := rfl

theorem trim_ofList (cs : List Char) :
    trim (String.ofList cs) = String.ofList (strip isWhitespace cs) := by
  rw [trim_eq_strip, String.toList_ofList]

theorem trimMatches_eq_strip (c : Char) (s : String) :
    trimMatches c s = String.ofList (strip (· == c) s.toList) := rfl

theorem strip_cons {c : α} (hc : p c = true) (cs : List α) : strip p (c :: cs) = strip p cs := by
  rw [strip, List.dropWhile_cons_of_pos hc, strip]

theorem strip_concat {c : α} (hc : p c = true) (cs : List α) :
    strip p (cs ++ [c]) = strip p cs := by
  rw [strip, strip, List.dropWhile_append]
  split
  next hempty => rw [List.isEmpty_iff.mp hempty, List.dropWhile_cons_of_pos hc, List.dropWhile_nil]
  next => exact List.rdropWhile_concat_pos p _ c hc

theorem strip_dropWhile (cs : List α) : strip p (cs.dropWhile p) = strip p cs := by
  rw [strip, List.dropWhile_idempotent, strip]

theorem strip_append {b c : α} (hb : p b = false) (hc : p c = false) (as bs : List α) :
    strip p (as ++ (b :: bs ++ [c])) = as.dropWhile p ++ (b :: bs ++ [c]) := by
  have hstop : (as ++ (b :: bs ++ [c])).dropWhile p = as.dropWhile p ++ (b :: bs ++ [c]) := by
    rw [List.dropWhile_append]
    split
    next hempty =>
      rw [List.isEmpty_iff.mp hempty, List.nil_append, List.cons_append,
        List.dropWhile_cons_of_neg (by simp [hb])]
    next => rfl
  rw [strip, hstop, ← List.append_assoc]
  exact List.rdropWhile_concat_neg p _ c (by simp [hc])

theorem strip_append_of_all {as bs : List α} (ha : ∀ a ∈ as, p a = true)
    (hb : ∀ b ∈ bs, p b = true) (cs : List α) : strip p (as ++ cs ++ bs) = strip p cs := by
  induction as with
  | nil =>
    induction bs using List.reverseRecOn with
    | nil => rw [List.nil_append, List.append_nil]
    | append_singleton bs b ih =>
      rw [← List.append_assoc, strip_concat (hb b (by simp))]
      exact ih fun b' hb' ↦ hb b' (List.mem_append_left _ hb')
  | cons a as ih =>
    rw [List.cons_append, List.cons_append, strip_cons (ha a List.mem_cons_self)]
    exact ih fun a' ha' ↦ ha a' (List.mem_cons_of_mem a ha')

theorem strip_eq_self_of_forall {cs : List α} (h : ∀ c ∈ cs, p c = false) :
    strip p cs = cs := by
  have hdrop : cs.dropWhile p = cs := by
    rw [List.dropWhile_eq_self_iff]
    exact fun hl ↦ by simpa using h _ (List.getElem_mem hl)
  rw [strip, hdrop, List.rdropWhile_eq_self_iff]
  exact fun hne ↦ by simpa using h _ (List.getLast_mem hne)

/-- Trimming takes a text off at each end that has nothing else than what is trimmed. -/
theorem exists_eq_append_strip (p : α → Bool) (cs : List α) :
    ∃ as bs, (∀ a ∈ as, p a = true) ∧ (∀ b ∈ bs, p b = true) ∧ cs = as ++ strip p cs ++ bs := by
  refine ⟨cs.takeWhile p, (cs.dropWhile p).rtakeWhile p, ?_, ?_, ?_⟩
  · exact fun a ha ↦ List.mem_takeWhile_imp ha
  · exact fun b hb ↦ List.mem_rtakeWhile_imp hb
  · rw [strip, List.append_assoc, List.rdropWhile_append_rtakeWhile]
    exact List.takeWhile_append_dropWhile.symm

theorem strip_strip (cs : List α) : strip p (strip p cs) = strip p cs := by
  obtain ⟨as, bs, ha, hb, hcs⟩ := exists_eq_append_strip p cs
  conv_rhs => rw [hcs]
  exact (strip_append_of_all ha hb _).symm

theorem head_of_strip_eq_self {c : α} {cs : List α} (h : strip p (c :: cs) = c :: cs) :
    p c = false := by
  by_contra hc
  rw [strip_cons (by simpa using hc)] at h
  have hle : (strip p cs).length ≤ cs.length :=
    (List.rdropWhile_prefix p _).length_le.trans (List.dropWhile_suffix p).length_le
  rw [h, List.length_cons] at hle
  omega

theorem last_of_strip_eq_self {c : α} {cs : List α} (h : strip p (cs ++ [c]) = cs ++ [c]) :
    p c = false := by
  by_contra hc
  rw [strip_concat (by simpa using hc)] at h
  have hle : (strip p cs).length ≤ cs.length :=
    (List.rdropWhile_prefix p _).length_le.trans (List.dropWhile_suffix p).length_le
  rw [h, List.length_append, List.length_singleton] at hle
  omega

end Strip

section StripPrefix

def stripPrefix (start : String) (cs : List Char) : Option (List Char) :=
  if start.toList.isPrefixOf cs then some (cs.drop start.toList.length) else none

theorem stripPrefix_append (start : String) (rest : List Char) :
    stripPrefix start (start.toList ++ rest) = some rest := by
  rw [stripPrefix, if_pos (by simp), List.drop_left]

theorem stripPrefix_eq_some_iff {start : String} {cs rest : List Char} :
    stripPrefix start cs = some rest ↔ cs = start.toList ++ rest := by
  constructor
  · intro h
    rw [stripPrefix, Option.ite_none_right_eq_some, List.isPrefixOf_iff_prefix] at h
    obtain ⟨⟨tail, rfl⟩, heq⟩ := h
    rw [List.drop_left] at heq
    rw [Option.some.inj heq]
  · rintro rfl
    exact stripPrefix_append start rest

end StripPrefix

section SplitOnce

variable {c : Char} {pattern before cs : List Char}

theorem splitOnceChars_append (h : c ∉ before) :
    splitOnceChars (c :: pattern) (before ++ cs) =
      (splitOnceChars (c :: pattern) cs).map fun found ↦ (before ++ found.1, found.2) := by
  induction before with
  | nil => exact Option.map_id'.symm
  | cons d before ih =>
    obtain ⟨hd, hbefore⟩ := not_or.mp (mt List.mem_cons.mpr h)
    have hno : (c :: pattern).isPrefixOf (d :: (before ++ cs)) = false := by
      simp [List.isPrefixOf, hd]
    rw [List.cons_append, splitOnceChars, hno, ih hbefore, Option.map_map]
    rfl

theorem splitOnceChars_self (cs : List Char) :
    splitOnceChars (c :: pattern) (c :: pattern ++ cs) = some ([], cs) := by
  have hyes : (c :: pattern).isPrefixOf (c :: (pattern ++ cs)) = true :=
    List.isPrefixOf_iff_prefix.mpr ⟨cs, rfl⟩
  rw [List.cons_append, splitOnceChars, if_pos hyes]
  simp

theorem splitOnceChars_eq_none_iff (cs : List Char) :
    splitOnceChars (c :: pattern) cs = none ↔ ¬ (c :: pattern) <:+: cs := by
  induction cs with
  | nil => simp [splitOnceChars]
  | cons d cs ih =>
    rw [splitOnceChars, List.infix_cons_iff]
    by_cases hyes : (c :: pattern).isPrefixOf (d :: cs) = true
    · rw [if_pos hyes]
      exact iff_of_false (fun h ↦ by cases h) fun h ↦ h (.inl (List.isPrefixOf_iff_prefix.mp hyes))
    · rw [if_neg hyes, Option.map_eq_none_iff, ih, not_or]
      exact (and_iff_right fun h ↦ hyes (List.isPrefixOf_iff_prefix.mpr h)).symm

theorem splitOnceChars_singleton_eq_some_iff {after : List Char} :
    splitOnceChars [c] cs = some (before, after) ↔ cs = before ++ c :: after ∧ c ∉ before := by
  constructor
  · intro h
    induction cs generalizing before with
    | nil => cases h
    | cons d cs ih =>
      rw [splitOnceChars] at h
      split at h
      case isTrue hyes =>
        have hc : c = d := by simpa using hyes
        cases h
        exact ⟨by simp [hc], List.not_mem_nil⟩
      case isFalse hno =>
        have hc : c ≠ d := by simpa using hno
        obtain ⟨⟨before', after'⟩, hfound, heq⟩ := Option.map_eq_some_iff.mp h
        cases heq
        obtain ⟨rfl, hbefore⟩ := ih hfound
        exact ⟨rfl, fun hmem ↦ (List.mem_cons.mp hmem).elim hc hbefore⟩
  · intro h
    obtain ⟨rfl, hbefore⟩ := h
    have hself := @splitOnceChars_self c [] after
    rw [List.singleton_append] at hself
    rw [splitOnceChars_append hbefore, hself, Option.map_some, List.append_nil]

end SplitOnce

section First

variable {p cs before after : List Char}

theorem eq_of_splitOnceChars (h : splitOnceChars p cs = some (before, after)) :
    cs = before ++ (p ++ after) := by
  induction cs generalizing before with
  | nil =>
    rw [splitOnceChars] at h
    split_ifs at h with hp
    cases h
    rw [hp]
    rfl
  | cons c cs ih =>
    rw [splitOnceChars] at h
    split at h
    case isTrue hyes =>
      obtain ⟨rest, hrest⟩ := List.isPrefixOf_iff_prefix.mp hyes
      cases h
      rw [← hrest, List.drop_left, List.nil_append]
    case isFalse =>
      obtain ⟨⟨before', after'⟩, hfound, heq⟩ := Option.map_eq_some_iff.mp h
      cases heq
      rw [ih hfound, List.cons_append]

theorem exists_splitOnceChars (hp : p ≠ []) (before rest : List Char) :
    ∃ first after, splitOnceChars p (before ++ (p ++ rest)) = some (first, after) ∧
      first <+: before := by
  induction before with
  | nil =>
    obtain ⟨c, p, rfl⟩ := List.exists_cons_of_ne_nil hp
    exact ⟨[], rest, splitOnceChars_self rest, List.prefix_rfl⟩
  | cons c before ih =>
    obtain ⟨first, after, hfound, hfirst⟩ := ih
    rw [List.cons_append, splitOnceChars]
    split
    case isTrue => exact ⟨[], _, rfl, List.nil_prefix⟩
    case isFalse =>
      rw [hfound, Option.map_some]
      exact ⟨c :: first, after, rfl, List.cons_prefix_cons.mpr ⟨rfl, hfirst⟩⟩

theorem exists_splitOnceChars_of_infix {x : List Char} (hp : p ≠ []) (h : p <:+: x)
    (y : List Char) : ∃ first after, splitOnceChars p (x ++ y) = some (first, after) ∧
      first.length + p.length ≤ x.length := by
  obtain ⟨s, t, rfl⟩ := h
  obtain ⟨first, after, hfound, hfirst⟩ := exists_splitOnceChars hp s (t ++ y)
  refine ⟨first, after, by simpa only [List.append_assoc] using hfound, ?_⟩
  have hle := hfirst.length_le
  rw [List.length_append, List.length_append]
  omega

theorem splitOnceChars_eq_some_of_first (hp : p ≠ []) (rest : List Char)
    (h : ¬ p <:+: before ++ p.dropLast) :
    splitOnceChars p (before ++ (p ++ rest)) = some (before, rest) := by
  induction before with
  | nil =>
    obtain ⟨c, p, rfl⟩ := List.exists_cons_of_ne_nil hp
    exact splitOnceChars_self rest
  | cons c before ih =>
    have hno : ¬ p.isPrefixOf (c :: (before ++ (p ++ rest))) = true := by
      intro hyes
      refine h (List.IsPrefix.isInfix ?_)
      have hsame : c :: (before ++ (p ++ rest)) =
          c :: before ++ p.dropLast ++ (p.getLast hp :: rest) := by
        conv_lhs => rw [← List.dropLast_append_getLast hp]
        simp
      refine List.prefix_of_prefix_length_le (List.isPrefixOf_iff_prefix.mp hyes)
        ⟨_, hsame.symm⟩ ?_
      rw [List.length_append, List.length_cons, List.length_dropLast]
      omega
    rw [List.cons_append, splitOnceChars, if_neg hno,
      ih fun hin ↦ h (hin.trans (List.suffix_cons c _).isInfix)]
    rfl

theorem infix_append_cons_iff {c : Char} (hc : c ∉ p) (x y : List Char) :
    p <:+: x ++ c :: y ↔ p <:+: x ∨ p <:+: y := by
  constructor
  · intro h
    obtain ⟨s, t, h⟩ := h
    rcases List.append_eq_append_iff.mp h with ⟨u, hx, -⟩ | ⟨u, hsp, hu⟩
    · exact .inl ⟨s, u, hx.symm⟩
    · cases u with
      | nil =>
        rw [List.append_nil] at hsp
        exact .inl ⟨s, [], by rw [hsp, List.append_nil]⟩
      | cons d u =>
        obtain ⟨rfl, hy⟩ := List.cons.inj hu
        rcases List.append_eq_append_iff.mp hsp with ⟨v, -, hpv⟩ | ⟨v, -, hv⟩
        · rw [hpv] at hc
          simp at hc
        · cases v with
          | nil =>
            rw [List.nil_append] at hv
            rw [← hv] at hc
            simp at hc
          | cons e v =>
            obtain ⟨-, hu⟩ := List.cons.inj hv
            refine .inr ⟨v, t, ?_⟩
            rw [hy, hu]
            rfl
  · intro h
    rcases h with h | h
    · exact h.trans (List.prefix_append x _).isInfix
    · exact h.trans ((List.suffix_cons c y).trans (List.suffix_append x _)).isInfix

structure Solid (p : List Char) : Prop where
  ne_nil : p ≠ []
  head : p.head? ≠ some ' '
  last : p.getLast? ≠ some ' '

theorem Solid.infix_append_spaces (hp : Solid p) {spaces : List Char}
    (h : ∀ c ∈ spaces, c = ' ') (x : List Char) : p <:+: x ++ spaces ↔ p <:+: x := by
  induction spaces using List.reverseRecOn with
  | nil => rw [List.append_nil]
  | append_singleton spaces c ih =>
    have hc : c = ' ' := h c (by simp)
    rw [← List.append_assoc, List.infix_concat_iff, hc,
      ih fun c hc ↦ h c (List.mem_append_left _ hc)]
    refine or_iff_right fun hsuffix ↦ ?_
    rcases List.suffix_concat_iff.mp hsuffix with hnil | ⟨t, ht, -⟩
    · exact hp.ne_nil hnil
    · exact hp.last (by rw [ht, List.getLast?_concat])

theorem Solid.infix_spaces_append (hp : Solid p) {spaces : List Char}
    (h : ∀ c ∈ spaces, c = ' ') (y : List Char) : p <:+: spaces ++ y ↔ p <:+: y := by
  induction spaces with
  | nil => rw [List.nil_append]
  | cons c spaces ih =>
    obtain ⟨rfl, hspaces⟩ := List.forall_mem_cons.mp h
    rw [List.cons_append, List.infix_cons_iff, ih hspaces]
    refine or_iff_right fun hprefix ↦ ?_
    obtain ⟨d, rest, rfl⟩ := List.exists_cons_of_ne_nil hp.ne_nil
    exact hp.head (congrArg some (List.cons_prefix_cons.mp hprefix).1)

def startsForeign (p text : List Char) : Bool :=
  (text.dropWhile (· == ' ')).head?.any fun c ↦ !p.contains c

def endsForeign (p text : List Char) : Bool := startsForeign p text.reverse

theorem exists_of_startsForeign {text : List Char} (h : startsForeign p text = true) :
    ∃ spaces c rest, text = spaces ++ c :: rest ∧ (∀ b ∈ spaces, b = ' ') ∧ c ∉ p := by
  rw [startsForeign] at h
  cases hrest : text.dropWhile (· == ' ') with
  | nil =>
    rw [hrest] at h
    cases h
  | cons c rest =>
    rw [hrest] at h
    refine ⟨text.takeWhile (· == ' '), c, rest, ?_, ?_, by simpa using h⟩
    · rw [← hrest]
      exact List.takeWhile_append_dropWhile.symm
    · intro b hb
      simpa using List.mem_takeWhile_imp hb

theorem Solid.infix_append_of_starts (hp : Solid p) {text : List Char}
    (h : startsForeign p text = true) (x y : List Char) :
    p <:+: x ++ (text ++ y) ↔ p <:+: x ∨ p <:+: text ++ y := by
  obtain ⟨spaces, c, rest, rfl, hspaces, hc⟩ := exists_of_startsForeign h
  have hleft : p <:+: x ++ (spaces ++ c :: rest ++ y) ↔ p <:+: x ∨ p <:+: rest ++ y := by
    rw [List.append_assoc, List.cons_append, ← List.append_assoc,
      infix_append_cons_iff hc, hp.infix_append_spaces hspaces]
  have hright : p <:+: spaces ++ c :: rest ++ y ↔ p <:+: rest ++ y := by
    have hnil : ¬ p <:+: spaces := by
      rw [← List.nil_append spaces, hp.infix_append_spaces hspaces, List.infix_nil]
      exact hp.ne_nil
    rw [List.append_assoc, List.cons_append, infix_append_cons_iff hc,
      or_iff_right hnil]
  rw [hleft, hright]

theorem Solid.infix_append_of_ends (hp : Solid p) {text : List Char}
    (h : endsForeign p text = true) (hno : ¬ p <:+: text) (y : List Char) :
    p <:+: text ++ y ↔ p <:+: y := by
  obtain ⟨spaces, c, rest, heq, hspaces, hc⟩ := exists_of_startsForeign h
  have htext : text = rest.reverse ++ c :: spaces.reverse := by
    rw [← List.reverse_reverse text, heq]
    simp
  have hbefore : ¬ p <:+: rest.reverse := by
    intro hin
    rw [htext] at hno
    exact hno (hin.trans (List.prefix_append _ _).isInfix)
  rw [htext, List.append_assoc, List.cons_append, infix_append_cons_iff hc,
    or_iff_right hbefore,
    hp.infix_spaces_append fun c hc ↦ hspaces c (List.mem_reverse.mp hc)]

theorem endsForeign_append {text : List Char} (h : endsForeign p text = true) (x : List Char) :
    endsForeign p (x ++ text) = true := by
  rw [endsForeign, startsForeign] at h
  rw [endsForeign, startsForeign, List.reverse_append, List.dropWhile_append]
  cases hrest : text.reverse.dropWhile (· == ' ') with
  | nil =>
    rw [hrest] at h
    cases h
  | cons c rest =>
    rw [hrest] at h
    exact h

/-- The first occurrence is found behind a text that has none. -/
theorem Solid.splitOnceChars_of_ends (hp : Solid p) (h : endsForeign p before = true)
    (hno : ¬ p <:+: before) (rest : List Char) :
    splitOnceChars p (before ++ (p ++ rest)) = some (before, rest) := by
  refine splitOnceChars_eq_some_of_first hp.ne_nil rest ?_
  rw [hp.infix_append_of_ends h hno]
  intro hin
  have hle := hin.length_le
  have hpos := List.length_pos_of_ne_nil hp.ne_nil
  rw [List.length_dropLast] at hle
  omega

end First

end AdkGateway.Foundation.Text
