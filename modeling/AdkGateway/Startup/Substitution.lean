import AdkGateway.Foundation.JsonText
import AdkGateway.Foundation.Marked
import AdkGateway.Startup.Load
import Mathlib.Data.List.Induction
import Mathlib.Logic.Function.Basic

namespace AdkGateway.Startup

open Foundation Replace MarkedText

section Once

inductive Token
  | char (c : Char)
  | reference (name : List Char)

def tokensFrom : ℕ → List Char → List Token
  | _, [] => []
  | skip + 1, _ :: cs => tokensFrom skip cs
  | 0, c :: cs =>
    match reference? (c :: cs) with
    | some name => .reference name :: tokensFrom (name.length + 2) cs
    | none => .char c :: tokensFrom 0 cs

def tokens (input : List Char) : List Token := tokensFrom 0 input

namespace Token

def name? : Token → Option (List Char)
  | char _ => none
  | reference name => some name

variable (value : List Char → Option (List Char))

def text : Token → List Char
  | char c => [c]
  | reference name => (value name).getD (fullMatch name)

/-- The text in which the references that are left are marked. -/
def marked : Token → MarkedText Char
  | char c => unmarked [c]
  | reference name =>
    match value name with
    | some val => unmarked val
    | none => opened (fullMatch name)

end Token

/-- What is put in for a variable that is set. -/
def Host.value (host : Host) (name : List Char) : Option (List Char) :=
  (host.var (String.ofList name)).map fun val ↦ escapeValue val.toList

/-- The references to variables that are set, all replaced at once. -/
def substitute (host : Host) (input : List Char) : List Char :=
  (tokens input).flatMap (Token.text host.value)

def render (value : List Char → Option (List Char)) (input : List Char) : MarkedText Char :=
  (tokens input).flatMap (Token.marked value)

def expandMarked (host : Host) (result : MarkedText Char) (name : List Char) : MarkedText Char :=
  match host.value name with
  | none => result
  | some val => MarkedText.replaceAll (fullMatch name) val result

/-- What a reader takes from between double quotation marks, as far as it needs the short escapes
alone. As JSON5 has it, all but the ends of lines may stand for themselves. -/
def readString : List Char → Option (List Char)
  | [] => some []
  | '\\' :: e :: cs =>
    match JsonText.shortEscapes.lookup e with
    | some c => (readString cs).map (c :: ·)
    | none => none
  | c :: cs =>
    if c ∈ ['"', '\\', '\n', '\r'] then none else (readString cs).map (c :: ·)

/-- All variables are put in as if at once: only references of the text itself are replaced, and
what is put in is read as the value. -/
structure SubstitutesOnce (host : Host) (input : List Char) : Prop where
  result : expandEnvVars host input = substitute host input
  once : ∀ before name, before ++ [name] <+: captures input → (host.value name).isSome →
    OnlyAtMarks (fullMatch name)
      (before.foldl (expandMarked host) (render (fun _ ↦ none) input))
  denotes : ∀ val, readString (escapeValue val) = some val

def valuesOf (host : Host) (names : List (List Char)) (name : List Char) : Option (List Char) :=
  if name ∈ names then host.value name else none

/-- Where the variables before a reference have been put in, all at once, no other reference to its
variable has come about. -/
def NoNewReference (host : Host) (input : List Char) : Prop :=
  ∀ before name, before ++ [name] <+: captures input → (host.value name).isSome →
    OnlyAtMarks (fullMatch name) (render (valuesOf host before) input)

end Once

section Tokens

variable {input name : List Char} {value : List Char → Option (List Char)}

theorem eq_of_reference? (h : reference? input = some name) :
    ∃ rest, input = fullMatch name ++ rest := by
  unfold reference? at h
  split at h
  · next rest =>
    simp only at h
    split at h
    · next hname =>
      obtain rfl := Option.some_inj.mp h
      rw [Bool.and_eq_true, beq_iff_eq] at hname
      obtain ⟨after, hafter⟩ := List.takeWhile_prefix (l := rest) isNameChar
      have hdrop : rest.drop (rest.takeWhile isNameChar).length = after := by
        have hleft := @List.drop_left _ (rest.takeWhile isNameChar) after
        rwa [hafter] at hleft
      rw [hdrop] at hname
      cases after with
      | nil => cases hname.2
      | cons c after =>
        obtain rfl := Option.some_inj.mp hname.2
        refine ⟨after, ?_⟩
        conv_lhs => rw [← hafter]
        simp [fullMatch]
    · cases h
  · cases h

theorem capturesFrom_eq (skip : ℕ) (input : List Char) :
    capturesFrom skip input = (tokensFrom skip input).filterMap Token.name? := by
  induction input generalizing skip with
  | nil =>
    cases skip with
    | zero => rfl
    | succ skip => rfl
  | cons c cs ih =>
    cases skip with
    | succ skip => exact ih skip
    | zero =>
      rw [capturesFrom, tokensFrom]
      cases reference? (c :: cs) with
      | none => exact ih 0
      | some name => exact congrArg (name :: ·) (ih (name.length + 2))

theorem mem_captures_of_mem_tokens (h : .reference name ∈ tokens input) : name ∈ captures input := by
  rw [captures, capturesFrom_eq]
  exact List.mem_filterMap.mpr ⟨_, h, rfl⟩

theorem text_tokensFrom (skip : ℕ) (input : List Char) :
    (tokensFrom skip input).flatMap (Token.text fun _ ↦ none) = input.drop skip := by
  induction input generalizing skip with
  | nil =>
    cases skip with
    | zero => rfl
    | succ skip => rfl
  | cons c cs ih =>
    cases skip with
    | succ skip => exact ih skip
    | zero =>
      rw [tokensFrom]
      cases hname : reference? (c :: cs) with
      | none => exact congrArg (c :: ·) (ih 0)
      | some name =>
        obtain ⟨rest, hrest⟩ := eq_of_reference? hname
        have hdrop : cs.drop (name.length + 2) = rest := by
          have hcs : cs = ('\x7b' :: (name ++ ['\x7d'])) ++ rest := (List.cons.inj hrest).2
          have hlength : name.length + 2 = ('\x7b' :: (name ++ ['\x7d'])).length := by simp
          rw [hcs, hlength, List.drop_left]
        simp only [List.flatMap_cons, ih, hdrop]
        exact hrest.symm

theorem plain_render (value : List Char → Option (List Char)) (input : List Char) :
    plain (render value input) = (tokens input).flatMap (Token.text value) := by
  rw [render]
  induction tokens input with
  | nil => rfl
  | cons token toks ih =>
    rw [List.flatMap_cons, List.flatMap_cons, plain_append, ih]
    cases token with
    | char c => rfl
    | reference name =>
      rw [Token.marked, Token.text]
      cases value name with
      | none => rw [plain_opened, Option.getD_none]
      | some val => rw [plain_unmarked, Option.getD_some]

theorem eq_of_fullMatch_starts {name' rest : List Char} (hname : ∀ c ∈ name, isNameChar c = true)
    (hname' : ∀ c ∈ name', isNameChar c = true) (h : fullMatch name <+: fullMatch name' ++ rest) :
    name = name' := by
  have hbrace : isNameChar '\x7d' = false := by decide
  have hrest : name ++ ['\x7d'] <+: name' ++ ['\x7d'] ++ rest :=
    (List.cons_prefix_cons.mp (List.cons_prefix_cons.mp h).2).2
  induction name generalizing name' with
  | nil =>
    cases name' with
    | nil => rfl
    | cons c name' =>
      have hc : '\x7d' = c := (List.cons_prefix_cons.mp hrest).1
      rw [hc, hname' c List.mem_cons_self] at hbrace
      cases hbrace
  | cons c name ih =>
    cases name' with
    | nil =>
      have hc : c = '\x7d' := (List.cons_prefix_cons.mp hrest).1
      rw [← hc, hname c List.mem_cons_self] at hbrace
      cases hbrace
    | cons c' name' =>
      obtain ⟨rfl, hstarts⟩ := List.cons_prefix_cons.mp hrest
      have hnext : fullMatch name <+: fullMatch name' ++ rest :=
        List.cons_prefix_cons.mpr ⟨rfl, List.cons_prefix_cons.mpr ⟨rfl, hstarts⟩⟩
      rw [ih (List.forall_mem_cons.mp hname).2 (List.forall_mem_cons.mp hname').2 hnext hstarts]

end Tokens

section Steps

variable {host : Host} {input name : List Char} {value : List Char → Option (List Char)}
  {val : List Char}

/-- Where all references to a variable stand in the text itself, it is put in for them, and for
nothing else. -/
theorem replaceAll_flatMap_marked {toks : List Token} (hname : ∀ c ∈ name, isNameChar c = true)
    (htoks : ∀ name', .reference name' ∈ toks → ∀ c ∈ name', isNameChar c = true)
    (hvalue : ∀ val', value name = some val' → val' = val)
    (h : OnlyAtMarks (fullMatch name) (toks.flatMap (Token.marked value))) :
    MarkedText.replaceAll (fullMatch name) val (toks.flatMap (Token.marked value)) =
      toks.flatMap (Token.marked (Function.update value name (some val))) := by
  have hne : fullMatch name ≠ [] := List.cons_ne_nil _ _
  induction toks with
  | nil => rfl
  | cons token toks ih =>
    rw [List.flatMap_cons] at h
    have hrest := ih (fun name' hmem ↦ htoks name' (List.mem_cons_of_mem _ hmem)) h.of_append
    rw [List.flatMap_cons, List.flatMap_cons, ← hrest]
    cases token with
    | char c => exact replaceAll_unmarked_append [c] h
    | reference name' =>
      have hname' := htoks name' List.mem_cons_self
      by_cases heq : name' = name
      · subst heq
        rw [Token.marked, Token.marked, Function.update_self]
        cases hval : value name' with
        | none => exact replaceAll_append_of_plain hne (plain_opened _)
        | some val' =>
          obtain rfl := hvalue val' hval
          rw [Token.marked, hval] at h
          exact replaceAll_unmarked_append val' h
      · have hsame : Token.marked (Function.update value name (some val)) (.reference name') =
            Token.marked value (.reference name') := by
          rw [Token.marked, Token.marked, Function.update_of_ne heq]
        rw [hsame]
        rw [Token.marked] at h ⊢
        cases hval : value name' with
        | some val' =>
          rw [hval] at h
          exact replaceAll_unmarked_append val' h
        | none =>
          rw [hval] at h
          -- the reference to another variable is passed over from its mark on
          let tail : List Char := '\x7b' :: (name' ++ ['\x7d'])
          have hopened : opened (fullMatch name') ++ toks.flatMap (Token.marked value) =
              ('$', true) :: (unmarked tail ++ toks.flatMap (Token.marked value)) := rfl
          have hnot : ¬ fullMatch name <+:
              plain (opened (fullMatch name') ++ toks.flatMap (Token.marked value)) := by
            intro hstarts
            rw [plain_append, plain_opened] at hstarts
            exact heq (eq_of_fullMatch_starts hname hname' hstarts).symm
          rw [hopened] at h hnot ⊢
          rw [MarkedText.replaceAll_cons _ hnot,
            replaceAll_unmarked_append tail (h.of_append (x := [('$', true)]))]
          rfl

theorem replaceAll_render_marked (hname : name ∈ captures input)
    (hvalue : ∀ val', value name = some val' → val' = val)
    (h : OnlyAtMarks (fullMatch name) (render value input)) :
    MarkedText.replaceAll (fullMatch name) val (render value input) =
      render (Function.update value name (some val)) input :=
  replaceAll_flatMap_marked (isNameChar_of_capturesFrom 0 hname)
    (fun _ hmem ↦ isNameChar_of_capturesFrom 0 (mem_captures_of_mem_tokens hmem)) hvalue h

theorem valuesOf_concat (host : Host) (names : List (List Char)) (name : List Char) :
    valuesOf host (names ++ [name]) =
      Function.update (valuesOf host names) name (host.value name) := by
  funext name'
  by_cases heq : name' = name
  · subst heq
    simp [valuesOf]
  · simp [valuesOf, heq]

theorem plain_foldl_expandMarked (host : Host) (names : List (List Char))
    (text : MarkedText Char) : plain (names.foldl (expandMarked host) text) =
      expandNames host names (plain text) := by
  induction names generalizing text with
  | nil => rfl
  | cons name names ih =>
    have hstep : plain (expandMarked host text name) = expandName host (plain text) name := by
      unfold expandMarked expandName Host.value
      cases host.var (String.ofList name) with
      | none => rfl
      | some val => exact plain_replaceAll text
    rw [List.foldl_cons, ih, hstep]
    rfl

theorem foldl_expandMarked {names : List (List Char)} (hstarts : names <+: captures input)
    (h : ∀ before name, before ++ [name] <+: names → (host.value name).isSome →
      OnlyAtMarks (fullMatch name) (render (valuesOf host before) input) ∨
        OnlyAtMarks (fullMatch name)
          (before.foldl (expandMarked host) (render (fun _ ↦ none) input))) :
    names.foldl (expandMarked host) (render (fun _ ↦ none) input) =
      render (valuesOf host names) input := by
  induction names using List.reverseRecOn with
  | nil =>
    have hnone : valuesOf host [] = fun _ ↦ none := funext fun _ ↦ if_neg List.not_mem_nil
    rw [hnone]
    rfl
  | append_singleton names name ih =>
    have hshorter : names <+: names ++ [name] := List.prefix_append _ _
    have hbefore := ih (hshorter.trans hstarts)
      fun before name' hstarts' ↦ h before name' (hstarts'.trans hshorter)
    rw [List.foldl_concat, hbefore, expandMarked, valuesOf_concat]
    cases hvalue : host.value name with
    | none =>
      have hsame : Function.update (valuesOf host names) name none = valuesOf host names := by
        rw [Function.update_eq_self_iff, valuesOf, hvalue, ite_self]
      rw [hsame]
    | some val =>
      have hmarks := h names name (List.prefix_refl _) (Option.isSome_of_eq_some hvalue)
      rw [hbefore, or_self] at hmarks
      refine replaceAll_render_marked (hstarts.subset (by simp)) ?_ hmarks
      intro val' hval'
      unfold valuesOf at hval'
      split at hval'
      · rw [hvalue] at hval'
        exact (Option.some_inj.mp hval').symm
      · cases hval'

end Steps

section Strings

theorem readString_escapeValueChar (c : Char) (cs : List Char) :
    readString (escapeValueChar c ++ cs) = (readString cs).map (c :: ·) := by
  unfold escapeValueChar
  split_ifs with hbackslash hquote hnewline hreturn htab
  · rw [hbackslash]
    rfl
  · rw [hquote]
    rfl
  · rw [hnewline]
    rfl
  · rw [hreturn]
    rfl
  · rw [htab]
    rfl
  · have hplain : c ∉ ['"', '\\', '\n', '\r'] := by
      simp [hbackslash, hquote, hnewline, hreturn]
    rw [List.singleton_append, readString, if_neg hplain]
    exact fun _ _ h _ ↦ hbackslash h

theorem readString_escapeValue (val : List Char) : readString (escapeValue val) = some val := by
  rw [escapeValue_eq_flatMap]
  induction val with
  | nil => rfl
  | cons c val ih =>
    rw [List.flatMap_cons, readString_escapeValueChar, ih]
    rfl

end Strings

section Expansion

variable {host : Host} {input : List Char}

theorem render_valuesOf_captures (host : Host) (input : List Char) :
    plain (render (valuesOf host (captures input)) input) = substitute host input := by
  rw [plain_render, substitute]
  refine List.flatMap_congr fun token htoken ↦ ?_
  cases token with
  | char c => rfl
  | reference name =>
    rw [Token.text, Token.text, valuesOf, if_pos (mem_captures_of_mem_tokens htoken)]

theorem expandEnvVars_eq_plain (host : Host) (input : List Char) : expandEnvVars host input =
    plain ((captures input).foldl (expandMarked host) (render (fun _ ↦ none) input)) := by
  have htext := text_tokensFrom 0 input
  rw [List.drop_zero] at htext
  rw [plain_foldl_expandMarked, plain_render, tokens, htext]
  rfl

/-- The text changes under the replacements, and so a reference that has come about by one is
replaced by the next. -/
theorem substitutesOnce_iff (host : Host) (input : List Char) :
    SubstitutesOnce host input ↔ NoNewReference host input := by
  constructor
  · intro h before name hstarts hset
    have hbefore : before <+: captures input := (List.prefix_append _ _).trans hstarts
    rw [← foldl_expandMarked hbefore fun before' name' hstarts' hset' ↦
      .inr (h.once before' name' (hstarts'.trans hbefore) hset')]
    exact h.once before name hstarts hset
  · intro h
    have hfold {names : List (List Char)} (hnames : names <+: captures input) :=
      foldl_expandMarked hnames fun before name hstarts hset ↦
        .inl (h before name (hstarts.trans hnames) hset)
    refine ⟨?_, ?_, readString_escapeValue⟩
    · rw [expandEnvVars_eq_plain, hfold (List.prefix_refl _)]
      exact render_valuesOf_captures host input
    · intro before name hstarts hset
      rw [hfold ((List.prefix_append _ _).trans hstarts)]
      exact h before name hstarts hset

/-- The value of `A` refers to `B`. -/
def nestedHost : Host where
  var name :=
    if name = "A" then some "$\x7bB\x7d"
    else if name = "B" then some "x"
    else none
  keyFile _ := none
  utf8Lossy _ := ""

theorem not_substitutesOnce : ¬ ∀ host input, SubstitutesOnce host input := by
  intro h
  have hresult := (h nestedHost "$\x7bA\x7d$\x7bB\x7d".toList).result
  exact absurd hresult (by decide)

end Expansion

end AdkGateway.Startup
