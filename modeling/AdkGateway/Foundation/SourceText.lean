import AdkGateway.Foundation.JsonText

namespace AdkGateway.Foundation

/-- How the text between two double quotes is read: the characters that stand for themselves, and
what another one and some of the text behind it stand for, which is less than they are. -/
structure Quoting where
  plain : Char → Bool
  other : Char → List Char → Option (List Char × List Char)
  plain_quote : plain '"' = false
  length_other : ∀ {c : Char} {cs value rest : List Char}, other c cs = some (value, rest) →
    value.length + rest.length ≤ cs.length

namespace Quoting

variable (q : Quoting)

/-- The text up to the quote that closes it, as it is read, and what is behind that. -/
def read : List Char → Option (List Char × List Char)
  | [] => none
  | c :: cs =>
    if c = '"' then some ([], cs)
    else if q.plain c then (read cs).map fun found ↦ (c :: found.1, found.2)
    else
      match _h : q.other c cs with
      | none => none
      | some (value, rest) => (read rest).map fun found ↦ (value ++ found.1, found.2)
termination_by cs => cs.length
decreasing_by
  · exact Nat.lt_succ_self _
  · have hle := q.length_other _h
    rw [List.length_cons]
    omega

variable {q} {c : Char} {cs rest value after : List Char}

theorem read_quote (cs : List Char) : q.read ('"' :: cs) = some ([], cs) := by
  rw [read, if_pos rfl]

theorem read_plain (hc : q.plain c = true) (cs : List Char) :
    q.read (c :: cs) = (q.read cs).map fun found ↦ (c :: found.1, found.2) := by
  have hne : c ≠ '"' := by
    intro heq
    rw [heq, q.plain_quote] at hc
    cases hc
  rw [read, if_neg hne, if_pos hc]

theorem read_other (hc : q.plain c = false) (hne : c ≠ '"')
    (h : q.other c cs = some (value, rest)) :
    q.read (c :: cs) = (q.read rest).map fun found ↦ (value ++ found.1, found.2) := by
  rw [read, if_neg hne, if_neg (by simp [hc])]
  split
  case h_1 hnone =>
    rw [h] at hnone
    cases hnone
  case h_2 hsome =>
    rw [h] at hsome
    cases hsome
    rfl

theorem read_none (hc : q.plain c = false) (hne : c ≠ '"') (h : q.other c cs = none) :
    q.read (c :: cs) = none := by
  rw [read, if_neg hne, if_neg (by simp [hc])]
  split
  case h_1 => rfl
  case h_2 hsome =>
    rw [h] at hsome
    cases hsome

theorem read_cases (h : q.read cs = some (value, after)) :
    (cs = value ++ '"' :: after ∧ ∀ c ∈ value, q.plain c = true) ∨
      value.length + after.length + 1 < cs.length := by
  induction hsize : cs.length using Nat.strong_induction_on generalizing cs value after with
  | _ size ih =>
    cases cs with
    | nil =>
      rw [read] at h
      cases h
    | cons c cs =>
      rw [List.length_cons] at hsize
      by_cases hquote : c = '"'
      · rw [hquote, read_quote] at h
        cases h
        exact .inl ⟨by rw [hquote, List.nil_append], fun c hc ↦ by cases hc⟩
      cases hplain : q.plain c with
      | true =>
        rw [read_plain hplain] at h
        obtain ⟨⟨found, after'⟩, hfound, heq⟩ := Option.map_eq_some_iff.mp h
        obtain ⟨rfl, rfl⟩ := Prod.mk.inj heq
        dsimp only
        rcases ih cs.length (by omega) hfound rfl with ⟨hcs, hall⟩ | hshort
        · exact .inl ⟨by rw [hcs, List.cons_append], List.forall_mem_cons.mpr ⟨hplain, hall⟩⟩
        · refine .inr ?_
          rw [List.length_cons]
          omega
      | false =>
        cases hother : q.other c cs with
        | none =>
          rw [read_none hplain hquote hother] at h
          cases h
        | some found =>
          obtain ⟨first, rest⟩ := found
          have hle := q.length_other hother
          rw [read_other hplain hquote hother] at h
          obtain ⟨⟨found, after'⟩, hfound, heq⟩ := Option.map_eq_some_iff.mp h
          obtain ⟨rfl, rfl⟩ := Prod.mk.inj heq
          dsimp only
          refine .inr ?_
          rw [List.length_append]
          rcases ih rest.length (by omega) hfound rfl with ⟨hrest, -⟩ | hshort
          · have hlength := congrArg List.length hrest
            rw [List.length_append, List.length_cons] at hlength
            omega
          · omega

/-- A text within quotes is read as it is just if all its characters stand for themselves. -/
theorem read_append_eq_iff (cs after : List Char) :
    q.read (cs ++ '"' :: after) = some (cs, after) ↔ ∀ c ∈ cs, q.plain c = true := by
  constructor
  · intro h
    rcases read_cases h with ⟨-, hall⟩ | hshort
    · exact hall
    · rw [List.length_append, List.length_cons] at hshort
      omega
  · intro h
    induction cs with
    | nil => exact read_quote after
    | cons c cs ih =>
      obtain ⟨hc, hcs⟩ := List.forall_mem_cons.mp h
      rw [List.cons_append, read_plain hc, ih hcs, Option.map_some]

section Escaped

def escape (c : Char) : List Char := if c = '"' ∨ c = '\\' then ['\\', c] else [c]

structure Unescapes (q : Quoting) : Prop where
  plain_slash : q.plain '\\' = false
  quote : ∀ cs, q.other '\\' ('"' :: cs) = some (['"'], cs)
  slash : ∀ cs, q.other '\\' ('\\' :: cs) = some (['\\'], cs)
  changes : ∀ {c cs value rest}, c ≠ '\\' → q.other c cs = some (value, rest) →
    ∃ d, value = [d] ∧ d ≠ c

theorem Unescapes.read_escape (h : q.Unescapes) (hc : c = '"' ∨ c = '\\') (cs : List Char) :
    q.read ('\\' :: c :: cs) = (q.read cs).map fun found ↦ (c :: found.1, found.2) := by
  rcases hc with rfl | rfl
  · exact read_other h.plain_slash (by decide) (h.quote cs)
  · exact read_other h.plain_slash (by decide) (h.slash cs)

/-- An escaped text is read as it was just if its other characters stand for themselves. -/
theorem Unescapes.read_escaped_eq_iff (h : q.Unescapes) (cs after : List Char) :
    q.read (cs.flatMap escape ++ '"' :: after) = some (cs, after) ↔
      ∀ c ∈ cs, c = '"' ∨ c = '\\' ∨ q.plain c = true := by
  induction cs with
  | nil => exact iff_of_true (read_quote after) (by simp)
  | cons c cs ih =>
    have hmap {found : Option (List Char × List Char)} :
        (found.map fun found ↦ (c :: found.1, found.2)) = some (c :: cs, after) ↔
          found = some (cs, after) := by
      cases found with
      | none => simp
      | some found => simp [Prod.ext_iff]
    rw [List.flatMap_cons, List.forall_mem_cons, ← ih, escape]
    by_cases hspecial : c = '"' ∨ c = '\\'
    · rw [if_pos hspecial]
      have hread := h.read_escape hspecial (cs.flatMap escape ++ '"' :: after)
      rw [List.append_assoc, List.cons_append, List.singleton_append, hread, hmap]
      exact (and_iff_right (by tauto)).symm
    rw [if_neg hspecial, List.append_assoc, List.singleton_append]
    obtain ⟨hquote, hslash⟩ := not_or.mp hspecial
    cases hplain : q.plain c with
    | true =>
      rw [read_plain hplain, hmap]
      exact (and_iff_right (by tauto)).symm
    | false =>
      refine iff_of_false (fun heq ↦ ?_) (by simp [hquote, hslash])
      cases hother : q.other c (cs.flatMap escape ++ '"' :: after) with
      | none =>
        rw [read_none hplain hquote hother] at heq
        cases heq
      | some found =>
        obtain ⟨value, rest⟩ := found
        obtain ⟨d, rfl, hne⟩ := h.changes hslash hother
        rw [read_other hplain hquote hother] at heq
        obtain ⟨found, -, heq⟩ := Option.map_eq_some_iff.mp heq
        exact hne (List.cons.inj (Prod.ext_iff.mp heq).1).1

/-- Escaping puts nothing into a text that has no special character. -/
theorem isPrefix_escaped_iff {p : List Char} (hquote : '"' ∉ p) (hslash : '\\' ∉ p)
    (cs : List Char) : p <+: cs.flatMap escape ↔ p <+: cs := by
  induction cs generalizing p with
  | nil => rfl
  | cons c cs ih =>
    cases p with
    | nil => exact iff_of_true List.nil_prefix List.nil_prefix
    | cons d p =>
      obtain ⟨hd, hquote⟩ := not_or.mp (mt List.mem_cons.mpr hquote)
      obtain ⟨hd', hslash⟩ := not_or.mp (mt List.mem_cons.mpr hslash)
      rw [List.flatMap_cons, List.cons_prefix_cons, escape]
      split_ifs with hc
      · rw [List.cons_append, List.cons_prefix_cons]
        refine iff_of_false (fun h ↦ hd' h.1.symm) fun h ↦ ?_
        rcases hc with hc | hc
        · exact hd (hc.symm.trans h.1.symm)
        · exact hd' (hc.symm.trans h.1.symm)
      · rw [List.singleton_append, List.cons_prefix_cons, ih hquote hslash]

theorem isInfix_escaped_iff {p : List Char} (hp : p ≠ []) (hquote : '"' ∉ p) (hslash : '\\' ∉ p)
    (cs : List Char) : p <:+: cs.flatMap escape ↔ p <:+: cs := by
  have hskip {c : Char} (hc : c ∉ p) (rest : List Char) : p <:+: c :: rest ↔ p <:+: rest := by
    rw [List.infix_cons_iff]
    refine or_iff_right fun hprefix ↦ ?_
    obtain ⟨d, p, rfl⟩ := List.exists_cons_of_ne_nil hp
    exact hc (by rw [(List.cons_prefix_cons.mp hprefix).1]; exact List.mem_cons_self)
  induction cs with
  | nil => rfl
  | cons c cs ih =>
    by_cases hc : c = '"' ∨ c = '\\'
    · have hno : c ∉ p := by
        rcases hc with rfl | rfl
        · exact hquote
        · exact hslash
      rw [List.flatMap_cons, escape, if_pos hc, List.cons_append, List.singleton_append,
        hskip hslash, hskip hno, hskip hno]
      exact ih
    · have hsame : (c :: cs).flatMap escape = c :: cs.flatMap escape := by
        rw [List.flatMap_cons, escape, if_neg hc, List.singleton_append]
      rw [hsame, List.infix_cons_iff, List.infix_cons_iff, ← hsame,
        isPrefix_escaped_iff hquote hslash]
      exact or_congr_right ih

end Escaped

end Quoting

end AdkGateway.Foundation

namespace AdkGateway.Foundation.SourceText

section Escapes

def charOf (ds : List Char) : Option Char :=
  (ds.foldlM (fun n d ↦ (JsonText.hexDigitValue d).map (n * 16 + ·)) 0).bind fun n ↦
    if n.isValidChar then some (Char.ofNat n) else none

def rustEscapes : List (Char × Char) :=
  [('n', '\n'), ('r', '\r'), ('t', '\t'), ('0', '\x00'), ('\\', '\\'), ('"', '"'), ('\'', '\'')]

def isBlank (c : Char) : Bool := c == ' ' || c == '\n' || c == '\r' || c == '\t'

/-- What follows a backslash in a Rust string: what it stands for, and what is behind it. -/
def rustEscape : List Char → Option (List Char × List Char)
  | [] => none
  | c :: cs =>
    match rustEscapes.lookup c with
    | some d => some ([d], cs)
    | none =>
      if c = 'x' then
        (charOf (cs.take 2)).bind fun d ↦
          if d.toNat < 128 ∧ 2 ≤ cs.length then some ([d], cs.drop 2) else none
      else if c = 'u' ∧ cs.head? = some '{' then
        let digits := (cs.tail.takeWhile (· != '}')).filter (· != '_')
        match cs.tail.dropWhile (· != '}') with
        | [] => none
        | _ :: rest =>
          if 1 ≤ digits.length ∧ digits.length ≤ 6 ∧ cs.tail.head? ≠ some '_' then
            (charOf digits).map fun d ↦ ([d], rest)
          else none
      -- the string goes on behind the blanks of the next line
      else if c = '\n' ∨ c = '\r' ∧ cs.head? = some '\n' then some ([], cs.dropWhile isBlank)
      else none

theorem length_rustEscape {cs value rest : List Char} (h : rustEscape cs = some (value, rest)) :
    value.length + rest.length ≤ cs.length := by
  cases cs with
  | nil => cases h
  | cons c cs =>
    rw [rustEscape] at h
    rw [List.length_cons]
    split at h
    case h_1 =>
      cases h
      rw [List.length_singleton]
      omega
    case h_2 =>
      split_ifs at h
      · obtain ⟨d, -, hd⟩ := Option.bind_eq_some_iff.mp h
        split_ifs at hd
        cases hd
        rw [List.length_singleton, List.length_drop]
        omega
      · dsimp only at h
        split at h
        case h_1 => cases h
        case h_2 hrest =>
          split_ifs at h
          obtain ⟨d, -, heq⟩ := Option.map_eq_some_iff.mp h
          cases heq
          have hle := (List.dropWhile_suffix (l := cs.tail) (· != '}')).length_le
          rw [hrest, List.length_cons, List.length_tail] at hle
          rw [List.length_singleton]
          omega
      · cases h
        have hle := (List.dropWhile_suffix (l := cs) isBlank).length_le
        rw [List.length_nil]
        omega

def tomlEscapes : List (Char × Char) :=
  [('b', '\x08'), ('t', '\t'), ('n', '\n'), ('f', '\x0c'), ('r', '\r'), ('"', '"'), ('\\', '\\')]

def tomlEscape : List Char → Option (List Char × List Char)
  | [] => none
  | c :: cs =>
    match tomlEscapes.lookup c with
    | some d => some ([d], cs)
    | none =>
      let size := if c = 'u' then 4 else if c = 'U' then 8 else 0
      if size ≠ 0 ∧ size ≤ cs.length then
        (charOf (cs.take size)).map fun d ↦ ([d], cs.drop size)
      else none

theorem length_tomlEscape {cs value rest : List Char} (h : tomlEscape cs = some (value, rest)) :
    value.length + rest.length ≤ cs.length := by
  cases cs with
  | nil => cases h
  | cons c cs =>
    rw [tomlEscape] at h
    rw [List.length_cons]
    split at h
    case h_1 =>
      cases h
      rw [List.length_singleton]
      omega
    case h_2 =>
      dsimp only at h
      generalize (if c = 'u' then 4 else if c = 'U' then 8 else 0) = size at h
      split_ifs at h
      obtain ⟨d, -, heq⟩ := Option.map_eq_some_iff.mp h
      cases heq
      rw [List.length_singleton, List.length_drop]
      omega

end Escapes

section Strings

/-- A string of Rust, in a file whose lines may end in `\r\n`: a `\r` of its own is an error. -/
def rustOther (c : Char) (cs : List Char) : Option (List Char × List Char) :=
  if c = '\\' then rustEscape cs
  else if c = '\r' ∧ cs.head? = some '\n' then some (['\n'], cs.tail)
  else none

def rust : Quoting where
  plain c := c != '"' && c != '\\' && c != '\r'
  other := rustOther
  plain_quote := rfl
  length_other {c cs value rest} h := by
    rw [rustOther] at h
    split_ifs at h with hslash hline
    · exact length_rustEscape h
    · cases h
      have hpos : cs ≠ [] := by
        intro hnil
        rw [hnil] at hline
        cases hline.2
      have hlength := List.length_pos_of_ne_nil hpos
      rw [List.length_singleton, List.length_tail]
      omega

def toml : Quoting where
  plain c := c != '"' && c != '\\' && (c == '\t' || 32 ≤ c.toNat && c.toNat != 127)
  other c cs := if c = '\\' then tomlEscape cs else none
  plain_quote := rfl
  length_other {c cs value rest} h := by
    split_ifs at h
    exact length_tomlEscape h

theorem unescapes_rust : rust.Unescapes where
  plain_slash := rfl
  quote _ := rfl
  slash _ := rfl
  changes {c cs value rest} hc h := by
    have hother : rustOther c cs = some (value, rest) := h
    rw [rustOther, if_neg hc] at hother
    split_ifs at hother with hline
    cases hother
    rw [hline.1]
    exact ⟨'\n', rfl, by decide⟩

end Strings

section Places

/-- Where in a Rust source a text ends: a literal has just been opened, or there is something of it;
a bare `\r` may be in a comment, but not in one for the documentation. -/
inductive Place
  | code
  | comment
  | doc
  | opened
  | literal
  deriving DecidableEq

/-- The place after some more text, with none of the other forms of comments and literals. -/
def scan : Place → List Char → Place
  | place, [] => place
  | .code, '/' :: '/' :: '!' :: cs => scan .doc cs
  | .code, '/' :: '/' :: cs => scan .comment cs
  | .code, '"' :: cs => scan .opened cs
  | .code, _ :: cs => scan .code cs
  | .comment, '\n' :: cs => scan .code cs
  | .comment, _ :: cs => scan .comment cs
  | .doc, '\n' :: cs => scan .code cs
  | .doc, _ :: cs => scan .doc cs
  | .opened, '"' :: cs => scan .code cs
  | .opened, '\\' :: _ :: cs => scan .literal cs
  | .opened, _ :: cs => scan .literal cs
  | .literal, '"' :: cs => scan .code cs
  | .literal, '\\' :: _ :: cs => scan .literal cs
  | .literal, _ :: cs => scan .literal cs

/-- What is put into a source at a place, for some text: in a comment it does not leave it, in a
literal it is all of it, up to the quote that closes it, and is read as the text. -/
def Stands (place : Place) (value emitted after : List Char) : Prop :=
  match place with
  | .comment => '\n' ∉ emitted
  | .doc => '\n' ∉ emitted ∧ '\r' ∉ emitted
  | .opened => ∃ rest, after = '"' :: rest ∧ rust.read (emitted ++ after) = some (value, rest)
  | .code => False
  | .literal => False

/-- A quote opens a string of TOML, or closes the one that is open. -/
def insideString (inside : Bool) (cs : List Char) : Bool :=
  cs.foldl (fun inside c ↦ inside != (c == '"')) inside

/-- What is put into an open string of TOML is all of it, and is read as the text; three quotes
would have opened a string of another kind. -/
def StandsInToml (value emitted after : List Char) : Prop :=
  ¬ ['"', '"'] <+: emitted ++ after ∧
    ∃ rest, after = '"' :: rest ∧ toml.read (emitted ++ after) = some (value, rest)

end Places

end AdkGateway.Foundation.SourceText
