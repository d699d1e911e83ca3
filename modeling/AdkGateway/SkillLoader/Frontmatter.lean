import AdkGateway.Foundation.Splitting

namespace AdkGateway.SkillLoader

open Foundation Text

section Code

def dashes : List Char := ['-', '-', '-']

/-- `strip_prefix` of either line ending -/
def stripEol : List Char → List Char
  | '\n' :: cs => cs
  | '\r' :: '\n' :: cs => cs
  | cs => cs

def splitChars (content : List Char) : Option (List Char) × List Char :=
  let trimmed := trimStartChars content
  if dashes.isPrefixOf trimmed then
    match splitOnceChars ('\n' :: dashes) (stripEol (trimmed.drop 3)) with
    | some (yaml, rest) => (some yaml, stripEol rest)
    | none => (none, content)
  else (none, content)

def splitFrontmatter (content : String) : Option String × String :=
  let split := splitChars content.toList
  (split.1.map String.ofList, String.ofList split.2)

end Code

section Lines

def lines : List Char → List (List Char)
  | [] => []
  | c :: cs =>
    if c = '\n' then ['\n'] :: lines cs
    else
      match lines cs with
      | [] => [[c]]
      | line :: rest => (c :: line) :: rest

theorem flatten_lines (cs : List Char) : (lines cs).flatten = cs := by
  induction cs with
  | nil => rfl
  | cons c cs ih =>
    rw [lines]
    split
    case isTrue h => rw [List.flatten_cons, ih, h]; rfl
    case isFalse =>
      cases hlines : lines cs with
      | nil =>
        rw [hlines] at ih
        rw [← ih]
        rfl
      | cons line rest =>
        rw [hlines] at ih
        rw [← ih]
        rfl

theorem lines_eq_nil_iff {cs : List Char} : lines cs = [] ↔ cs = [] := by
  constructor
  · intro h
    rw [← flatten_lines cs, h]
    rfl
  · rintro rfl
    rfl

theorem ne_nil_of_mem_lines {cs line : List Char} (h : line ∈ lines cs) : line ≠ [] := by
  induction cs generalizing line with
  | nil => cases h
  | cons c cs ih =>
    rw [lines] at h
    split at h
    case isTrue =>
      rcases List.mem_cons.mp h with rfl | h
      · exact List.cons_ne_nil _ _
      · exact ih h
    case isFalse =>
      cases hlines : lines cs with
      | nil =>
        rw [hlines] at h
        rw [List.mem_singleton.mp h]
        exact List.cons_ne_nil _ _
      | cons first rest =>
        rw [hlines] at h ih
        rcases List.mem_cons.mp h with rfl | h
        · exact List.cons_ne_nil _ _
        · exact ih (List.mem_cons_of_mem first h)

/-- A text has one line, which does not end, or it begins with a line that does. -/
theorem lines_append {body : List Char} (hbody : '\n' ∉ body) (tail : List Char) :
    lines (body ++ '\n' :: tail) = (body ++ ['\n']) :: lines tail := by
  induction body with
  | nil => simp [lines]
  | cons c body ih =>
    obtain ⟨hc, hbody⟩ := not_or.mp (mt List.mem_cons.mpr hbody)
    rw [List.cons_append, lines, if_neg (Ne.symm hc), ih hbody]
    rfl

theorem lines_of_notMem {body : List Char} (hbody : '\n' ∉ body) (hne : body ≠ []) :
    lines body = [body] := by
  induction body with
  | nil => exact absurd rfl hne
  | cons c body ih =>
    obtain ⟨hc, hbody⟩ := not_or.mp (mt List.mem_cons.mpr hbody)
    rw [lines, if_neg (Ne.symm hc)]
    cases body with
    | nil => rfl
    | cons d body => rw [ih hbody (List.cons_ne_nil _ _)]

theorem lines_cases (cs : List Char) :
    cs = [] ∨ (cs ≠ [] ∧ '\n' ∉ cs ∧ lines cs = [cs]) ∨
      ∃ body tail, '\n' ∉ body ∧ cs = body ++ '\n' :: tail ∧
        lines cs = (body ++ ['\n']) :: lines tail := by
  by_cases hmem : '\n' ∈ cs
  · obtain ⟨body, tail, rfl, hbody⟩ := List.eq_append_cons_of_mem hmem
    exact .inr (.inr ⟨body, tail, hbody, rfl, lines_append hbody tail⟩)
  · by_cases hne : cs = []
    · exact .inl hne
    · exact .inr (.inl ⟨hne, hmem, lines_of_notMem hmem hne⟩)

end Lines

section Grammar

/-- A line of nothing but three dashes; only the last line of a text has no end. -/
def isDelimiter (line : List Char) : Bool :=
  line = dashes ++ ['\n'] || line = dashes ++ ['\r', '\n'] || line = dashes

def untilDelimiter : List (List Char) → Option (List (List Char) × List (List Char))
  | [] => none
  | line :: rest =>
    if isDelimiter line then some ([], rest)
    else (untilDelimiter rest).map fun (between, after) ↦ (line :: between, after)

def frontmatterLines (content : List Char) : Option (List (List Char) × List (List Char)) :=
  match lines content with
  | [] => none
  | first :: rest => if isDelimiter first then untilDelimiter rest else none

/-- The lines between the delimiters, less the `\n` of the last of them, and the text behind. -/
def frontmatter (content : List Char) : Option (List Char) × List Char :=
  match frontmatterLines content with
  | some (between, after) => (some between.flatten.dropLast, after.flatten)
  | none => (none, content)

def SplitsByGrammar (content : String) : Prop :=
  splitFrontmatter content =
    ((frontmatter content.toList).1.map String.ofList, String.ofList (frontmatter content.toList).2)

/-- Behind space and three dashes, and the end of a line if it comes next, there is a line with
three dashes at its start that is not the first. -/
def OpensAndCloses (content : List Char) : Prop :=
  dashes <+: trimStartChars content ∧
    ∃ line ∈ (lines (stripEol ((trimStartChars content).drop 3))).tail, dashes <+: line

/-- Where there is a frontmatter, it is not empty, and from its second line on none begins with
three dashes; where there is none, nothing is taken for one. -/
structure FrontmatterFits (content : String) : Prop where
  between : ∀ between after, frontmatterLines content.toList = some (between, after) →
    between ≠ [] ∧ ∀ line ∈ between.tail, ¬ dashes <+: line
  nothing : frontmatterLines content.toList = none → ¬ OpensAndCloses content.toList

end Grammar

section Search

variable {cs first line : List Char} {before after rest : List (List Char)}

theorem isPrefix_iff_line (h : lines cs = first :: rest) : dashes <+: cs ↔ dashes <+: first := by
  have hcs : cs = first ++ rest.flatten := by
    rw [← flatten_lines cs, h]
    rfl
  refine ⟨fun hprefix ↦ ?_, fun hprefix ↦ hprefix.trans ⟨rest.flatten, hcs.symm⟩⟩
  have hstart : first <+: cs := ⟨rest.flatten, hcs.symm⟩
  rcases le_total dashes.length first.length with hle | hle
  · exact List.prefix_of_prefix_length_le hprefix hstart hle
  · obtain rfl | ⟨-, -, hone⟩ | ⟨body, tail, -, -, hmore⟩ := lines_cases cs
    · cases h
    · rw [h] at hone
      rw [(List.cons.inj hone).1]
      exact hprefix
    · -- a line that ends is not within the dashes
      rw [h] at hmore
      have hmem : '\n' ∈ first := by
        rw [(List.cons.inj hmore).1]
        simp
      have hin := (List.prefix_of_prefix_length_le hstart hprefix hle).subset hmem
      exact absurd hin (by decide)

/-- The search passes one line and looks at the start of the next. -/
theorem splitOnceChars_line {body tail : List Char} (hbody : '\n' ∉ body) :
    splitOnceChars ('\n' :: dashes) (body ++ '\n' :: tail) =
      if dashes.isPrefixOf tail then some (body, tail.drop 3)
      else (splitOnceChars ('\n' :: dashes) tail).map fun found ↦
        (body ++ '\n' :: found.1, found.2) := by
  rw [splitOnceChars_append hbody, splitOnceChars]
  have hhead : ('\n' :: dashes).isPrefixOf ('\n' :: tail) = dashes.isPrefixOf tail := by
    simp [List.isPrefixOf]
  rw [hhead]
  by_cases hdashes : dashes.isPrefixOf tail = true
  · rw [if_pos hdashes, if_pos hdashes, Option.map_some, List.append_nil]
    rfl
  · rw [if_neg hdashes, if_neg hdashes, Option.map_map]
    rfl

/-- A line with another one behind it ends. -/
theorem exists_of_lines {second : List Char} (h : lines cs = first :: second :: rest) :
    ∃ body tail, '\n' ∉ body ∧ cs = body ++ '\n' :: tail ∧ first = body ++ ['\n'] ∧
      lines tail = second :: rest := by
  obtain rfl | ⟨-, -, hone⟩ | ⟨body, tail, hbody, rfl, hmore⟩ := lines_cases cs
  · cases h
  · rw [h] at hone
    cases hone
  · rw [h] at hmore
    obtain ⟨hfirst, htail⟩ := List.cons.inj hmore
    exact ⟨body, tail, hbody, rfl, hfirst, htail.symm⟩

theorem splitOnceChars_eq_none (h : lines cs = first :: rest)
    (hrest : ∀ line ∈ rest, ¬ dashes <+: line) : splitOnceChars ('\n' :: dashes) cs = none := by
  induction rest generalizing cs first with
  | nil =>
    obtain rfl | ⟨-, hmem, -⟩ | ⟨body, tail, hbody, rfl, hmore⟩ := lines_cases cs
    · cases h
    · rw [splitOnceChars_eq_none_iff]
      exact fun hin ↦ hmem (hin.subset List.mem_cons_self)
    · rw [h] at hmore
      have htail : tail = [] := lines_eq_nil_iff.mp (List.cons.inj hmore).2.symm
      rw [splitOnceChars_line hbody, htail]
      rfl
  | cons second rest ih =>
    obtain ⟨hsecond, hrest⟩ := List.forall_mem_cons.mp hrest
    obtain ⟨body, tail, hbody, rfl, -, htail⟩ := exists_of_lines h
    have hno : ¬ dashes.isPrefixOf tail = true := by
      rw [List.isPrefixOf_iff_prefix, isPrefix_iff_line htail]
      exact hsecond
    rw [splitOnceChars_line hbody, if_neg hno, ih htail hrest, Option.map_none]

theorem splitOnceChars_eq_some (h : lines cs = first :: (before ++ line :: after))
    (hbefore : ∀ line ∈ before, ¬ dashes <+: line) (hline : dashes <+: line) :
    splitOnceChars ('\n' :: dashes) cs =
      some ((first :: before).flatten.dropLast, line.drop 3 ++ after.flatten) := by
  induction before generalizing cs first with
  | nil =>
    obtain ⟨body, tail, hbody, rfl, rfl, htail⟩ := exists_of_lines h
    have hflat : tail = line ++ after.flatten := by
      rw [← flatten_lines tail, htail]
      rfl
    have hyes : dashes.isPrefixOf tail = true := by
      rw [List.isPrefixOf_iff_prefix, isPrefix_iff_line htail]
      exact hline
    have hdrop : (line ++ after.flatten).drop 3 = line.drop 3 ++ after.flatten :=
      List.drop_append_of_le_length hline.length_le
    rw [splitOnceChars_line hbody, if_pos hyes, hflat, hdrop]
    simp
  | cons second before ih =>
    obtain ⟨hsecond, hbefore⟩ := List.forall_mem_cons.mp hbefore
    obtain ⟨body, tail, hbody, rfl, rfl, htail⟩ := exists_of_lines h
    have hno : ¬ dashes.isPrefixOf tail = true := by
      rw [List.isPrefixOf_iff_prefix, isPrefix_iff_line htail]
      exact hsecond
    rw [splitOnceChars_line hbody, if_neg hno, ih htail hbefore, Option.map_some]
    have hne : (second :: before).flatten ≠ [] := by
      have hsecond : second ≠ [] := by
        have hmem : second ∈ lines tail := by simp [htail]
        exact ne_nil_of_mem_lines hmem
      simp [hsecond]
    have hlast : ((body ++ ['\n']) :: second :: before).flatten.dropLast =
        body ++ '\n' :: (second :: before).flatten.dropLast := by
      rw [List.flatten_cons, List.append_assoc, List.singleton_append,
        List.dropLast_append_of_ne_nil (List.cons_ne_nil _ _), List.dropLast_cons_of_ne_nil hne]
    rw [hlast]

end Search

section Agreement

variable {content : List Char} {between after : List (List Char)}

theorem untilDelimiter_eq_some {ls : List (List Char)}
    (h : untilDelimiter ls = some (between, after)) :
    ∃ delimiter, ls = between ++ delimiter :: after ∧ isDelimiter delimiter = true ∧
      ∀ line ∈ between, isDelimiter line = false := by
  induction ls generalizing between with
  | nil => cases h
  | cons line ls ih =>
    rw [untilDelimiter] at h
    split at h
    case isTrue hline =>
      cases h
      exact ⟨line, rfl, hline, by simp⟩
    case isFalse hline =>
      obtain ⟨⟨between', after'⟩, hrest, heq⟩ := Option.map_eq_some_iff.mp h
      cases heq
      obtain ⟨delimiter, rfl, hdelimiter, hall⟩ := ih hrest
      refine ⟨delimiter, rfl, hdelimiter, ?_⟩
      rw [List.forall_mem_cons]
      exact ⟨by simpa using hline, hall⟩

theorem isDelimiter_iff {line : List Char} : isDelimiter line = true ↔
    line = dashes ++ ['\n'] ∨ line = dashes ++ ['\r', '\n'] ∨ line = dashes := by
  simp [isDelimiter, or_assoc]

theorem dashes_isPrefix_of_isDelimiter {line : List Char} (h : isDelimiter line = true) :
    dashes <+: line := by
  rcases isDelimiter_iff.mp h with rfl | rfl | rfl
  · exact List.prefix_append _ _
  · exact List.prefix_append _ _
  · exact List.prefix_rfl

theorem eq_nil_of_lines {cs line : List Char} {before : List (List Char)}
    (h : lines cs = before ++ line :: after) (hline : '\n' ∉ line) : after = [] := by
  induction before generalizing cs with
  | nil =>
    obtain rfl | ⟨-, -, hone⟩ | ⟨body, tail, -, -, hmore⟩ := lines_cases cs
    · cases h
    · rw [h] at hone
      exact (List.cons.inj hone).2
    · rw [h] at hmore
      rw [(List.cons.inj hmore).1] at hline
      simp at hline
  | cons first before ih =>
    obtain rfl | ⟨-, -, hone⟩ | ⟨body, tail, -, -, hmore⟩ := lines_cases cs
    · cases h
    · rw [h] at hone
      simp at hone
    · rw [h] at hmore
      exact ih (List.cons.inj hmore).2.symm

/-- What is left behind a delimiter is left after the end of its line. -/
theorem stripEol_delimiter {delimiter : List Char} (h : isDelimiter delimiter = true)
    (hafter : '\n' ∉ delimiter → after = []) :
    stripEol (delimiter.drop 3 ++ after.flatten) = after.flatten := by
  rcases isDelimiter_iff.mp h with rfl | rfl | rfl
  · rfl
  · rfl
  · rw [hafter (by decide)]
    rfl

theorem exists_first_dashes (ls : List (List Char)) : (∀ line ∈ ls, ¬ dashes <+: line) ∨
    ∃ before line rest, ls = before ++ line :: rest ∧ (∀ line ∈ before, ¬ dashes <+: line) ∧
      dashes <+: line := by
  induction ls with
  | nil => exact .inl (by simp)
  | cons first ls ih =>
    by_cases hfirst : dashes <+: first
    · exact .inr ⟨[], first, ls, rfl, by simp, hfirst⟩
    · obtain hnone | ⟨before, line, rest, rfl, hbefore, hline⟩ := ih
      · exact .inl (List.forall_mem_cons.mpr ⟨hfirst, hnone⟩)
      · exact .inr ⟨first :: before, line, rest, rfl,
          List.forall_mem_cons.mpr ⟨hfirst, hbefore⟩, hline⟩

/-- A text that begins with a delimiter is looked through from its second line on. -/
theorem splitChars_of_frontmatterLines (h : frontmatterLines content = some (between, after)) :
    ∃ delimiter text, lines text = between ++ delimiter :: after ∧ isDelimiter delimiter = true ∧
      splitChars content = match splitOnceChars ('\n' :: dashes) text with
        | some (yaml, rest) => (some yaml, stripEol rest)
        | none => (none, content) := by
  rw [frontmatterLines] at h
  cases hlines : lines content with
  | nil =>
    rw [hlines] at h
    cases h
  | cons first rest =>
    simp only [hlines] at h
    split at h
    case isFalse => cases h
    case isTrue hfirst =>
      obtain ⟨delimiter, rfl, hdelimiter, -⟩ := untilDelimiter_eq_some h
      obtain rfl | ⟨-, hmem, hone⟩ | ⟨body, tail, hbody, rfl, hmore⟩ := lines_cases content
      · cases hlines
      · rw [hlines] at hone
        simp at hone
      · rw [hlines] at hmore
        obtain ⟨rfl, htail⟩ := List.cons.inj hmore
        refine ⟨delimiter, tail, htail.symm, hdelimiter, ?_⟩
        rcases isDelimiter_iff.mp hfirst with heq | heq | heq
        · obtain rfl : body = dashes := (List.append_inj' heq rfl).1
          rfl
        · have heq' : body ++ ['\n'] = (dashes ++ ['\r']) ++ ['\n'] := heq
          obtain rfl : body = dashes ++ ['\r'] := (List.append_inj' heq' rfl).1
          rfl
        · have hmem : '\n' ∈ dashes := heq ▸ List.mem_append_right body List.mem_cons_self
          exact absurd hmem (by decide)

theorem splitChars_eq_iff_of_frontmatterLines
    (h : frontmatterLines content = some (between, after)) :
    splitChars content = (some between.flatten.dropLast, after.flatten) ↔
      between ≠ [] ∧ ∀ line ∈ between.tail, ¬ dashes <+: line := by
  obtain ⟨delimiter, text, hlines, hdelimiter, hsplit⟩ := splitChars_of_frontmatterLines h
  rw [hsplit]
  cases between with
  | nil =>
    refine iff_of_false (fun heq ↦ ?_) fun hne ↦ hne.1 rfl
    obtain hnone | ⟨before, line, rest, rfl, hbefore, hline⟩ := exists_first_dashes after
    · rw [splitOnceChars_eq_none hlines hnone] at heq
      cases heq
    · rw [splitOnceChars_eq_some hlines hbefore hline] at heq
      have hempty := congrArg List.length (Option.some.inj (Prod.ext_iff.mp heq).1)
      have hlong : 3 ≤ delimiter.length := (dashes_isPrefix_of_isDelimiter hdelimiter).length_le
      simp only [List.flatten_cons, List.length_dropLast, List.length_append, List.flatten_nil,
        List.length_nil] at hempty
      omega
  | cons first between =>
    obtain hnone | ⟨before, line, rest, rfl, hbefore, hline⟩ := exists_first_dashes between
    · rw [splitOnceChars_eq_some hlines hnone (dashes_isPrefix_of_isDelimiter hdelimiter)]
      refine iff_of_true ?_ ⟨List.cons_ne_nil _ _, hnone⟩
      have hlast (hline : '\n' ∉ delimiter) : after = [] :=
        @eq_nil_of_lines _ _ _ (first :: between) hlines hline
      simp only [stripEol_delimiter hdelimiter hlast]
    · rw [List.cons_append, List.append_assoc, List.cons_append] at hlines
      rw [splitOnceChars_eq_some hlines hbefore hline]
      refine iff_of_false (fun heq ↦ ?_) fun hall ↦ hall.2 line (by simp) hline
      have hlength := congrArg List.length (Option.some.inj (Prod.ext_iff.mp heq).1)
      have hfirst : 0 < first.length :=
        List.length_pos_of_ne_nil (ne_nil_of_mem_lines (hlines ▸ List.mem_cons_self))
      have hpos := hline.length_le
      simp only [dashes, List.flatten_cons, List.flatten_append, List.length_dropLast,
        List.length_append, List.length_cons, List.length_nil] at hlength hpos
      omega

theorem splitChars_eq_none_iff :
    splitChars content = (none, content) ↔ ¬ OpensAndCloses content := by
  rw [splitChars, OpensAndCloses, ← List.isPrefixOf_iff_prefix]
  by_cases hopen : dashes.isPrefixOf (trimStartChars content) = true
  · simp only [hopen, if_true, true_and]
    generalize stripEol ((trimStartChars content).drop 3) = text
    cases hlines : lines text with
    | nil =>
      rw [lines_eq_nil_iff.mp hlines]
      exact iff_of_true rfl (by simp)
    | cons first rest =>
      rw [List.tail_cons]
      obtain hnone | ⟨before, line, rest, rfl, hbefore, hline⟩ := exists_first_dashes rest
      · rw [splitOnceChars_eq_none hlines hnone]
        refine iff_of_true rfl fun hex ↦ ?_
        obtain ⟨line, hmem, hline⟩ := hex
        exact hnone line hmem hline
      · rw [splitOnceChars_eq_some hlines hbefore hline]
        refine iff_of_false (fun heq ↦ by cases heq) fun hno ↦ hno ⟨line, by simp, hline⟩
  · simp only [if_neg hopen]
    exact iff_of_true trivial fun hno ↦ hopen hno.1

theorem splitsByGrammar_iff (content : String) :
    SplitsByGrammar content ↔ FrontmatterFits content := by
  have hinj : Function.Injective String.ofList := fun cs ds h ↦ by
    rw [← String.toList_ofList (l := cs), h, String.toList_ofList]
  have hchars : SplitsByGrammar content ↔
      splitChars content.toList = frontmatter content.toList := by
    rw [SplitsByGrammar, splitFrontmatter, Prod.ext_iff, Prod.ext_iff]
    exact and_congr (Option.map_injective hinj).eq_iff hinj.eq_iff
  rw [hchars, frontmatter]
  cases hfound : frontmatterLines content.toList with
  | none =>
    rw [splitChars_eq_none_iff]
    exact ⟨fun h ↦ ⟨fun _ _ hsome ↦ (by rw [hfound] at hsome; cases hsome), fun _ ↦ h⟩,
      fun h ↦ h.nothing hfound⟩
  | some found =>
    obtain ⟨between, after⟩ := found
    simp only [splitChars_eq_iff_of_frontmatterLines hfound]
    constructor
    · refine fun h ↦ ⟨fun between' after' hsome ↦ ?_, fun hnone ↦ ?_⟩
      · rw [hfound] at hsome
        cases hsome
        exact h
      · rw [hfound] at hnone
        cases hnone
    · exact fun h ↦ h.between between after hfound

end Agreement

end AdkGateway.SkillLoader
