import AdkGateway.EventStream.Collector
import AdkGateway.Foundation.Text
import AdkGateway.Foundation.Splitting

namespace AdkGateway.EventStream

open Foundation Text

def messageKey : String := "\"message\":"

def isWrapped (error : AgentError) : Bool :=
  (splitOnce "bad response from server" error.lower).isSome

/-- The content of a string of JSON that is written without escapes. -/
def PlainContent (content : String) : Prop :=
  content ≠ "" ∧ '"' ∉ content.toList ∧ '\\' ∉ content.toList

/-- A fragment of JSON in a text has a member `message` with some content. -/
def HasMessage (text content : String) : Prop :=
  PlainContent content ∧ ∃ before after : String,
    text = before ++ messageKey ++ " \"" ++ content ++ "\"" ++ after

/-- The formatting does not panic, and something of every message is shown, from its beginning. -/
def ShowsMessage (error : AgentError) : Prop :=
  ∃ shown, formatAgentError error = some shown ∧ ∀ content, HasMessage error.text content →
    ∃ part, part ≠ [] ∧ part <+: content.toList ∧ part <:+: shown.toList

theorem formatAgentError_of_notice {error : AgentError} {notice : Notice}
    (h : notices.find? (fun notice ↦ notice.applies error.lower) = some notice) :
    formatAgentError error = some notice.text := by
  rw [formatAgentError, h]

variable {error : AgentError}

/-- Blanks as JSON has them between its tokens. -/
def IsBlank (pad : String) : Prop := ∀ c ∈ pad.toList, c ∈ [' ', '\t', '\n', '\r']

/-- The byte that is skipped is the first blank behind the colon. -/
theorem innerMessage_of_first {before pad content after : String}
    (hwrapped : isWrapped error = true) (hplain : PlainContent content) (hpad : pad ≠ "")
    (hblank : IsBlank pad) (hfirst : splitOnce messageKey error.text =
      some (before, pad ++ "\"" ++ content ++ "\"" ++ after)) :
    innerMessage error = some (some content) := by
  obtain ⟨hne, hquote, -⟩ := hplain
  obtain ⟨⟨before', rest⟩, hsplit, heq⟩ := Option.map_eq_some_iff.mp hfirst
  have htext : String.ofList rest = pad ++ "\"" ++ content ++ "\"" ++ after := congrArg Prod.snd heq
  have hchar : "\"".toList = ['"'] := rfl
  have hrest : rest = pad.toList ++ '"' :: (content.toList ++ '"' :: after.toList) := by
    rw [← String.toList_ofList (l := rest), htext]
    simp [String.toList_append, hchar]
  obtain ⟨c, cs, hcs⟩ := List.exists_cons_of_ne_nil (mt String.toList_eq_nil_iff.mp hpad)
  have hall : ∀ d ∈ c :: cs, d.utf8Size = 1 ∧ d ≠ '"' := fun d hd ↦ by
    have hd : d = ' ' ∨ d = '\t' ∨ d = '\n' ∨ d = '\r' := by simpa using hblank d (hcs ▸ hd)
    obtain rfl | rfl | rfl | rfl := hd <;> decide
  have hskip : splitAtByte rest 1 =
      some ([c], cs ++ '"' :: (content.toList ++ '"' :: after.toList)) := by
    have hbyte : byteLength [c] = 1 := by
      rw [byteLength_cons, (hall c List.mem_cons_self).1]
      rfl
    rw [hrest, hcs, ← hbyte]
    exact splitAtByte_append [c] _
  have hopen : splitOnceChars ['"'] (cs ++ '"' :: (content.toList ++ '"' :: after.toList)) =
      some (cs, content.toList ++ '"' :: after.toList) :=
    splitOnceChars_singleton_eq_some_iff.mpr
      ⟨rfl, fun hmem ↦ (hall _ (List.mem_cons_of_mem c hmem)).2 rfl⟩
  have hclose : splitOnceChars ['"'] (content.toList ++ '"' :: after.toList) =
      some (content.toList, after.toList) :=
    splitOnceChars_singleton_eq_some_iff.mpr ⟨rfl, hquote⟩
  have hcontent : content.toList.isEmpty = false := by
    simpa using hne
  rw [isWrapped] at hwrapped
  rw [messageKey] at hsplit
  simp only [innerMessage, hwrapped, if_true, hsplit, hskip, Option.map_some, hopen, hclose,
    hcontent, Bool.false_eq_true, if_false, String.ofList_toList]

theorem innerMessage_of_not
    (h : isWrapped error = false ∨ splitOnce messageKey error.text = none) :
    innerMessage error = some none := by
  rw [innerMessage]
  split
  case isTrue hwrapped =>
    have hnone := h.resolve_left (by simp [isWrapped, hwrapped])
    rw [splitOnce, Option.map_eq_none_iff, messageKey] at hnone
    rw [hnone]
  case isFalse => rfl

/-- What is shown of an error. First come the notices. Without one, a wrapped error is shown by the
content of its first message, where this is plain and a blank stands before it; and an error that
has no message or is not wrapped is shown as it is, or up to its first 120 bytes. -/
theorem formatAgentError_shows (error : AgentError) :
    (∀ notice, notices.find? (fun notice ↦ notice.applies error.lower) = some notice →
      formatAgentError error = some notice.text) ∧
    (notices.find? (fun notice ↦ notice.applies error.lower) = none →
      (∀ before pad content after, isWrapped error = true → PlainContent content → pad ≠ "" →
        IsBlank pad → splitOnce messageKey error.text =
            some (before, pad ++ "\"" ++ content ++ "\"" ++ after) →
          formatAgentError error = some ("⚠️ " ++ content)) ∧
      (isWrapped error = false ∨ splitOnce messageKey error.text = none →
        (byteLength error.text.toList ≤ 120 →
          formatAgentError error = some ("⚠️ " ++ error.text)) ∧
        ∀ start rest, error.text = start ++ rest → rest ≠ "" → byteLength start.toList = 120 →
          formatAgentError error = some ("⚠️ " ++ start))) := by
  refine ⟨fun notice h ↦ formatAgentError_of_notice h, fun hnone ↦ ⟨?_, fun h ↦ ⟨?_, ?_⟩⟩⟩
  · intro before pad content after hwrapped hplain hpad hblank hfirst
    rw [formatAgentError, hnone, innerMessage_of_first hwrapped hplain hpad hblank hfirst]
    rfl
  · intro hshort
    rw [formatAgentError, hnone, innerMessage_of_not h]
    simp only [Option.bind_some, if_neg (Nat.not_lt.mpr hshort)]
  · intro start rest htext hrest hbytes
    have hlong : 120 < byteLength error.text.toList := by
      have hpos : byteLength rest.toList ≠ 0 := by
        rw [ne_eq, byteLength_eq_zero_iff]
        simpa using hrest
      rw [htext, String.toList_append, byteLength_append]
      omega
    have hcut : splitAtByte error.text.toList 120 = some (start.toList, rest.toList) := by
      rw [htext, String.toList_append, ← hbytes]
      exact splitAtByte_append _ _
    rw [formatAgentError, hnone, innerMessage_of_not h]
    simp only [Option.bind_some, if_pos hlong, hcut, Option.map_some, String.ofList_toList]

/-- A notice takes the place of the message. -/
theorem not_showsMessage_of_quota :
    ¬ ShowsMessage ⟨"\x7b\"message\": \"Quota hit\"\x7d",
      "\x7b\"message\": \"quota hit\"\x7d"⟩ := by
  intro h
  obtain ⟨shown, hshown, hall⟩ := h
  have hnotice : formatAgentError
      ⟨"\x7b\"message\": \"Quota hit\"\x7d", "\x7b\"message\": \"quota hit\"\x7d"⟩ =
      some ("⚠️ Rate limit or quota exceeded.\n\n" ++
        "Wait a moment and try again, or check your API plan limits.") := by
    decide
  obtain ⟨part, hne, hstart, hin⟩ := hall "Quota hit"
    ⟨⟨by decide, by decide, by decide⟩, "\x7b", "\x7d", by decide⟩
  obtain rfl := Option.some.inj (hshown.symm.trans hnotice)
  cases part with
  | nil => exact hne rfl
  | cons c part =>
    have hc : c = 'Q' := (List.cons_prefix_cons.mp hstart).1
    have hmem := hin.subset List.mem_cons_self
    rw [hc] at hmem
    revert hmem
    decide

end AdkGateway.EventStream
