import AdkGateway.Foundation.Lowercase
import AdkGateway.Foundation.Splitting

namespace AdkGateway.CodingAgent

open Foundation Foundation.Text

structure DelegationCommand where
  agentName : String
  taskDescription : String
  deriving DecidableEq

namespace TaskDelegator

def keyword : String := "delegate to "

theorem toList_keyword :
    keyword.toList = ['d', 'e', 'l', 'e', 'g', 'a', 't', 'e', ' ', 't', 'o', ' '] := rfl

end TaskDelegator

namespace DelegationCommand

open TaskDelegator (keyword)

/-- A name has no colon, and both texts begin and end with something else than space. -/
structure WellFormed (command : DelegationCommand) : Prop where
  name_ne : command.agentName ≠ ""
  name_trim : trim command.agentName = command.agentName
  colon : ':' ∉ command.agentName.toList
  task_ne : command.taskDescription ≠ ""
  task_trim : trim command.taskDescription = command.taskDescription

def print (command : DelegationCommand) : String :=
  keyword ++ command.agentName ++ ": " ++ command.taskDescription

/-- The keyword in any case of its letters, the name, a colon and the task, with any space around
the whole and around the two texts. -/
def IsForm (message : String) (command : DelegationCommand) : Prop :=
  command.WellFormed ∧ ∃ lead word pad₁ pad₂ pad₃ trail : List Char,
    (∀ c ∈ lead ++ pad₁ ++ pad₂ ++ pad₃ ++ trail, isWhitespace c = true) ∧
    word.map Char.toLower = keyword.toList ∧
    message.toList = lead ++ (word ++ (pad₁ ++ command.agentName.toList ++ pad₂ ++
      ':' :: (pad₃ ++ command.taskDescription.toList))) ++ trail

end DelegationCommand

namespace TaskDelegator

def parseAfterKeyword (afterPrefix : List Char) : Option DelegationCommand :=
  match splitOnceChars [':'] afterPrefix with
  | none => none
  | some (before, after) =>
    let agentName := trim (String.ofList before)
    let taskDescription := trim (String.ofList after)
    if agentName = "" ∨ taskDescription = "" then none else some ⟨agentName, taskDescription⟩

/-- The keyword takes twelve bytes. `none` is a panic: the twelfth byte ends no character. -/
def parseDelegationCommand (t : CaseTable) (input : String) : Option (Option DelegationCommand) :=
  let trimmed := trim input
  if keyword.toList.isPrefixOf (t.toLowercase trimmed).toList then
    (splitAtByte trimmed.toList 12).map fun cut ↦ parseAfterKeyword cut.2
  else some none

end TaskDelegator

theorem trim_eq_self_iff {s : String} : trim s = s ↔ strip isWhitespace s.toList = s.toList := by
  rw [trim_eq_strip, ← String.toList_inj, String.toList_ofList]

theorem notMem_of_whitespace {cs : List Char} (h : ∀ c ∈ cs, isWhitespace c = true) :
    ':' ∉ cs := by
  intro hmem
  exact absurd (h ':' hmem) (by decide)

namespace TaskDelegator

theorem keyword_ascii : ∀ d ∈ keyword.toList, d.toNat < 128 ∧ d ≠ 'i' ∧ d ≠ 'k' := by
  have hall : keyword.toList.all (fun d ↦ d.toNat < 128 ∧ d ≠ 'i' ∧ d ≠ 'k') = true := by
    rw [toList_keyword]
    decide
  exact fun d hd ↦ of_decide_eq_true (List.all_eq_true.mp hall d hd)

variable {command : DelegationCommand}

theorem parseAfterKeyword_eq_some {pad₁ pad₂ pad₃ trail : List Char} (h : command.WellFormed)
    (hpads : ∀ c ∈ pad₁ ++ pad₂ ++ pad₃ ++ trail, isWhitespace c = true) :
    parseAfterKeyword (pad₁ ++ command.agentName.toList ++ pad₂ ++
      ':' :: (pad₃ ++ command.taskDescription.toList ++ trail)) = some command := by
  simp only [List.forall_mem_append] at hpads
  obtain ⟨⟨⟨h₁, h₂⟩, h₃⟩, h₄⟩ := hpads
  have hcolon : ':' ∉ pad₁ ++ command.agentName.toList ++ pad₂ := by
    simp only [List.mem_append, not_or]
    exact ⟨⟨notMem_of_whitespace h₁, h.colon⟩, notMem_of_whitespace h₂⟩
  have hname : trim (String.ofList (pad₁ ++ command.agentName.toList ++ pad₂)) =
      command.agentName := by
    rw [trim_ofList, strip_append_of_all h₁ h₂, trim_eq_self_iff.mp h.name_trim,
      String.ofList_toList]
  have htask : trim (String.ofList (pad₃ ++ command.taskDescription.toList ++ trail)) =
      command.taskDescription := by
    rw [trim_ofList, strip_append_of_all h₃ h₄, trim_eq_self_iff.mp h.task_trim,
      String.ofList_toList]
  rw [parseAfterKeyword, splitOnceChars_singleton_eq_some_iff.mpr ⟨rfl, hcolon⟩]
  simp only [hname, htask, h.name_ne, h.task_ne, or_self, if_false]

theorem of_parseAfterKeyword {cs : List Char} (h : parseAfterKeyword cs = some command) :
    command.WellFormed ∧ ∃ pad₁ pad₂ pad₃ trail : List Char,
      (∀ c ∈ pad₁ ++ pad₂ ++ pad₃ ++ trail, isWhitespace c = true) ∧
      cs = pad₁ ++ command.agentName.toList ++ pad₂ ++
        ':' :: (pad₃ ++ command.taskDescription.toList ++ trail) := by
  cases hsplit : splitOnceChars [':'] cs with
  | none => simp [parseAfterKeyword, hsplit] at h
  | some found =>
    obtain ⟨before, after⟩ := found
    obtain ⟨rfl, hcolon⟩ := splitOnceChars_singleton_eq_some_iff.mp hsplit
    simp only [parseAfterKeyword, hsplit, trim_ofList] at h
    split at h
    case isTrue => cases h
    case isFalse hne =>
      cases h
      obtain ⟨hname, htask⟩ := not_or.mp hne
      obtain ⟨pad₁, pad₂, h₁, h₂, hbefore⟩ := exists_eq_append_strip isWhitespace before
      obtain ⟨pad₃, trail, h₃, h₄, hafter⟩ := exists_eq_append_strip isWhitespace after
      refine ⟨⟨hname, ?_, ?_, htask, ?_⟩, pad₁, pad₂, pad₃, trail, ?_, ?_⟩
      · rw [trim_ofList, strip_strip]
      · rw [String.toList_ofList]
        intro hmem
        rw [hbefore] at hcolon
        simp [hmem] at hcolon
      · rw [trim_ofList, strip_strip]
      · simp only [List.forall_mem_append]
        exact ⟨⟨⟨h₁, h₂⟩, h₃⟩, h₄⟩
      · rw [String.toList_ofList, String.toList_ofList, ← hbefore, ← hafter]

variable {t : CaseTable} {message : String}

/-- A message with the keyword is cut right after it, whatever else is in it. -/
theorem parseDelegationCommand_of_keyword {word rest : List Char}
    (htrim : (trim message).toList = word ++ rest)
    (hword : word.map Char.toLower = keyword.toList) :
    parseDelegationCommand t message = some (parseAfterKeyword rest) := by
  have hlength : word.length = keyword.toList.length := by
    rw [← hword, List.length_map]
  have hstarts : keyword.toList.isPrefixOf (t.toLowercase (trim message)).toList = true := by
    rw [List.isPrefixOf_iff_prefix, CaseTable.toLowercase, String.toList_ofList,
      isPrefix_lowerChars_iff keyword_ascii, htrim, ← hlength, List.take_left]
    exact hword
  have hbytes : byteLength word = 12 :=
    byteLength_of_map_toLower (fun d hd ↦ (keyword_ascii d hd).1) hword
  rw [parseDelegationCommand, if_pos hstarts, htrim, ← hbytes, splitAtByte_append, Option.map_some]

theorem parseDelegationCommand_of_no_keyword
    (h : ((trim message).toList.take keyword.toList.length).map Char.toLower ≠
      keyword.toList) : parseDelegationCommand t message = some none := by
  rw [parseDelegationCommand, if_neg]
  rw [List.isPrefixOf_iff_prefix, CaseTable.toLowercase, String.toList_ofList,
    isPrefix_lowerChars_iff keyword_ascii]
  exact h

theorem parseDelegationCommand_isSome (t : CaseTable) (message : String) :
    (parseDelegationCommand t message).isSome := by
  by_cases h : ((trim message).toList.take keyword.toList.length).map Char.toLower =
      keyword.toList
  · rw [parseDelegationCommand_of_keyword (List.take_append_drop _ _).symm h]
    rfl
  · rw [parseDelegationCommand_of_no_keyword h]
    rfl

theorem isForm_of_parse (h : parseDelegationCommand t message = some (some command)) :
    command.IsForm message := by
  by_cases hkeyword : ((trim message).toList.take keyword.toList.length).map Char.toLower =
      keyword.toList
  · rw [parseDelegationCommand_of_keyword (List.take_append_drop _ _).symm hkeyword,
      Option.some.injEq] at h
    obtain ⟨hformed, pad₁, pad₂, pad₃, trail, hpads, hrest⟩ := of_parseAfterKeyword h
    obtain ⟨lead, trail', hlead, htrail', hmessage⟩ :=
      exists_eq_append_strip isWhitespace message.toList
    refine ⟨hformed, lead, _, pad₁, pad₂, pad₃, trail ++ trail', ?_, hkeyword, ?_⟩
    · simp only [List.forall_mem_append] at hpads ⊢
      exact ⟨⟨⟨⟨hlead, hpads.1.1.1⟩, hpads.1.1.2⟩, hpads.1.2⟩, hpads.2, htrail'⟩
    · have htrim : (trim message).toList = strip isWhitespace message.toList := by
        rw [trim_eq_strip, String.toList_ofList]
      rw [hmessage, ← htrim]
      conv_lhs => rw [← List.take_append_drop keyword.toList.length (trim message).toList,
        hrest]
      simp only [List.append_assoc, List.cons_append]
  · rw [parseDelegationCommand_of_no_keyword hkeyword] at h
    cases h

theorem toLower_of_isWhitespace {c : Char} (h : isWhitespace c = true) : c.toLower = c := by
  refine toLower_eq_self ?_
  simp only [isWhitespace, Bool.or_eq_true, Bool.and_eq_true, decide_eq_true_eq, beq_iff_eq] at h
  omega

theorem isWhitespace_of_toLower {c : Char} (h : c.toLower = 'd') : isWhitespace c = false := by
  by_contra hspace
  have hc : isWhitespace c = true := by simpa using hspace
  rw [toLower_of_isWhitespace hc] at h
  subst h
  exact absurd hc (by decide)

theorem parse_of_isForm (h : command.IsForm message) :
    parseDelegationCommand t message = some (some command) := by
  obtain ⟨hformed, lead, word, pad₁, pad₂, pad₃, trail, hpads, hkeyword, hmessage⟩ := h
  simp only [List.forall_mem_append] at hpads
  obtain ⟨⟨⟨⟨hlead, h₁⟩, h₂⟩, h₃⟩, htrail⟩ := hpads
  rw [toList_keyword] at hkeyword
  obtain ⟨k, ks, rfl⟩ : ∃ k ks, word = k :: ks := by
    cases word with
    | nil => cases hkeyword
    | cons k ks => exact ⟨k, ks, rfl⟩
  have hfirst : isWhitespace k = false := isWhitespace_of_toLower (List.cons.inj hkeyword).1
  obtain ⟨ts, c, htask⟩ : ∃ ts c, command.taskDescription.toList = ts ++ [c] := by
    have hne : command.taskDescription.toList ≠ [] := by
      simpa using hformed.task_ne
    exact ⟨_, _, (List.dropLast_append_getLast hne).symm⟩
  have hlast : isWhitespace c = false :=
    last_of_strip_eq_self (htask ▸ trim_eq_self_iff.mp hformed.task_trim)
  have htrim : (trim message).toList = k :: ks ++ (pad₁ ++ command.agentName.toList ++ pad₂ ++
      ':' :: (pad₃ ++ command.taskDescription.toList)) := by
    rw [trim_eq_strip, String.toList_ofList, hmessage, strip_append_of_all hlead htrail, htask]
    have hends := strip_append hfirst hlast []
      (ks ++ (pad₁ ++ command.agentName.toList ++ pad₂ ++ ':' :: (pad₃ ++ ts)))
    simpa only [List.nil_append, List.dropWhile_nil, List.append_assoc, List.cons_append] using hends
  rw [parseDelegationCommand_of_keyword htrim hkeyword]
  have hpads : ∀ c ∈ pad₁ ++ pad₂ ++ pad₃ ++ [], isWhitespace c = true := by
    simp only [List.forall_mem_append]
    exact ⟨⟨⟨h₁, h₂⟩, h₃⟩, by simp⟩
  have hparse := parseAfterKeyword_eq_some hformed hpads
  rw [List.append_nil] at hparse
  rw [hparse]

theorem isForm_print (h : command.WellFormed) : command.IsForm command.print := by
  refine ⟨h, [], keyword.toList, [], [], [' '], [], List.all_eq_true.mp rfl, ?_, ?_⟩
  · rw [toList_keyword]
    decide
  · have hcolon : ": ".toList = [':', ' '] := rfl
    simp [DelegationCommand.print, String.toList_append, hcolon]

/-- Whatever the message, the parser returns, and the commands it gives are those whose documented
form the message has. A command that is printed is read back. -/
theorem parseDelegationCommand_grammar (t : CaseTable) :
    (∀ command : DelegationCommand, command.WellFormed →
      parseDelegationCommand t command.print = some (some command)) ∧
    ∀ message, ∃ result, parseDelegationCommand t message = some result ∧
      ∀ command, result = some command ↔ command.IsForm message := by
  constructor
  · exact fun command h ↦ parse_of_isForm (isForm_print h)
  · intro message
    obtain ⟨result, hresult⟩ := Option.isSome_iff_exists.mp (parseDelegationCommand_isSome t message)
    refine ⟨result, hresult, fun command ↦ ⟨?_, fun h ↦ ?_⟩⟩
    · rintro rfl
      exact isForm_of_parse hresult
    · exact Option.some.inj (hresult.symm.trans (parse_of_isForm h))

end TaskDelegator

end AdkGateway.CodingAgent
