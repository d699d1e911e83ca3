import AdkGateway.CodingAgent.Formatting

namespace AdkGateway.CodingAgent.Formatting

open Foundation Text JsonText

section Truncation

variable {msg taskId out : String}

theorem truncateMessage_short (h : byteLength msg.toList ≤ maxMessageLength) :
    truncateMessage msg taskId = some msg := if_pos h

/-- A long message is truncated just if there is room for the link and the cut is between two
characters. -/
theorem truncateMessage_long_iff (h : maxMessageLength < byteLength msg.toList) :
    truncateMessage msg taskId = some out ↔
      byteLength (fullOutputLink taskId).toList ≤ maxMessageLength ∧ ∃ before after,
        splitAtByte msg.toList (maxMessageLength - byteLength (fullOutputLink taskId).toList) =
            some (before, after) ∧ String.ofList before ++ fullOutputLink taskId = out := by
  rw [truncateMessage, if_neg (by omega)]
  by_cases hlink : maxMessageLength < byteLength (fullOutputLink taskId).toList
  · rw [if_pos hlink]
    exact iff_of_false (fun h ↦ by cases h) fun h ↦ by omega
  · rw [if_neg hlink, Option.map_eq_some_iff]
    constructor
    · intro h
      obtain ⟨⟨before, after⟩, hcut, heq⟩ := h
      exact ⟨by omega, before, after, hcut, heq⟩
    · intro h
      obtain ⟨-, before, after, hcut, heq⟩ := h
      exact ⟨(before, after), hcut, heq⟩

theorem byteLength_of_truncateMessage (h : truncateMessage msg taskId = some out) :
    byteLength out.toList ≤ maxMessageLength := by
  by_cases hshort : byteLength msg.toList ≤ maxMessageLength
  · rw [truncateMessage_short hshort] at h
    rwa [← Option.some_inj.mp h]
  · obtain ⟨hlink, before, after, hcut, rfl⟩ := (truncateMessage_long_iff (by omega)).mp h
    obtain ⟨-, hlength⟩ := splitAtByte_eq_some_iff.mp hcut
    rw [String.toList_append, String.toList_ofList, byteLength_append]
    omega

theorem fullOutputLink_toList (taskId : String) :
    ∃ before, (fullOutputLink taskId).toList = before ++ [')'] := by
  refine ⟨("\n\n... [View full output](" ++ controlPanelUrl taskId).toList, ?_⟩
  unfold fullOutputLink
  exact String.toList_append

theorem not_document_of_truncated (hlong : maxMessageLength < byteLength msg.toList)
    (h : truncateMessage msg taskId = some out) (fields : List (String × Json)) :
    ¬ DocumentText (.object fields) out.toList := by
  obtain ⟨-, before, after, -, rfl⟩ := (truncateMessage_long_iff hlong).mp h
  intro hdocument
  obtain ⟨c, hlast, hc⟩ := hdocument.getLast?_object
  have hlink : (String.ofList before ++ fullOutputLink taskId).toList.getLast? = some ')' := by
    obtain ⟨link, hlink⟩ := fullOutputLink_toList taskId
    rw [String.toList_append, hlink, ← List.append_assoc, List.getLast?_concat]
  rw [hlink] at hlast
  obtain rfl := Option.some_inj.mp hlast
  rcases hc with hc | hc
  · exact absurd hc (by decide)
  · exact absurd hc (by decide)

end Truncation

section Documents

variable (showUsd : ℚ → String) (display : PathBuf → String) (result : TaskResult) (taskId : String)

theorem valueText_sectionBlock (text : String) :
    ValueText (sectionBlock text) (write (sectionBlock text)) := by
  refine valueText_object ?_
  intro field hfield
  rcases List.mem_cons.mp hfield with rfl | hfield
  · exact valueText_string _
  · rw [List.mem_singleton.mp hfield]
    refine valueText_object ?_
    intro field hfield
    rcases List.mem_cons.mp hfield with rfl | hfield
    · exact valueText_string _
    · rw [List.mem_singleton.mp hfield]
      exact valueText_string _

theorem filesSection_eq_sectionBlock :
    ∃ text, filesSection display result taskId = sectionBlock text := by
  rw [filesSection]
  split
  · exact ⟨_, rfl⟩
  · split
    · exact ⟨_, rfl⟩
    · exact ⟨_, rfl⟩

theorem mem_slackBlocks {block : Json} (h : block ∈ slackBlocks showUsd display result taskId) :
    ∃ text, block = sectionBlock text := by
  have hmem : block ∈ [sectionBlock "*✅ Task Completed*",
      sectionBlock (statsText showUsd result), filesSection display result taskId] ++
        [sectionBlock ("*Output:*\n```" ++ result.output ++ "```")] := by
    rw [slackBlocks] at h
    split at h
    · exact List.mem_append_left _ h
    · exact h
  obtain ⟨text, hfiles⟩ := filesSection_eq_sectionBlock display result taskId
  rw [hfiles] at hmem
  rcases List.mem_append.mp hmem with hmem | hmem
  · rcases List.mem_cons.mp hmem with rfl | hmem
    · exact ⟨_, rfl⟩
    · rcases List.mem_cons.mp hmem with rfl | hmem
      · exact ⟨_, rfl⟩
      · exact ⟨_, List.mem_singleton.mp hmem⟩
  · exact ⟨_, List.mem_singleton.mp hmem⟩

theorem documentText_slackText :
    DocumentText (slackPayload showUsd display result taskId)
      (slackText showUsd display result taskId).toList := by
  rw [slackText, String.toList_ofList]
  refine documentText_write (valueText_object ?_)
  intro field hfield
  rw [List.mem_singleton.mp hfield]
  refine valueText_array ?_
  intro block hblock
  obtain ⟨text, rfl⟩ := mem_slackBlocks showUsd display result taskId hblock
  exact valueText_sectionBlock text

theorem length_le_sectionBlock (text : String) :
    text.toList.length ≤ (write (sectionBlock text)).length := by
  have hstring := length_le_writeString text
  have hinner := @length_write_field [("type", .string "mrkdwn"), ("text", .string text)]
    ("text", .string text) (List.mem_cons_of_mem _ (List.mem_singleton_self _))
  have houter := @length_write_field [("type", .string "section"),
      ("text", .object [("type", .string "mrkdwn"), ("text", .string text)])]
    ("text", .object [("type", .string "mrkdwn"), ("text", .string text)])
    (List.mem_cons_of_mem _ (List.mem_singleton_self _))
  dsimp only at hinner houter
  rw [write] at hinner
  exact hstring.trans (hinner.trans houter)

theorem length_output_le (h : result.output ≠ "") : result.output.toList.length ≤
    byteLength (slackText showUsd display result taskId).toList := by
  have hblock : sectionBlock ("*Output:*\n```" ++ result.output ++ "```") ∈
      slackBlocks showUsd display result taskId := by
    rw [slackBlocks, if_neg h]
    exact List.mem_append_right _ (List.mem_singleton_self _)
  have htext : result.output.toList.length ≤
      ("*Output:*\n```" ++ result.output ++ "```").toList.length := by
    rw [String.toList_append, String.toList_append, List.length_append, List.length_append]
    omega
  have hpayload := @length_write_field
    [("blocks", .array (slackBlocks showUsd display result taskId))]
    ("blocks", .array (slackBlocks showUsd display result taskId)) (List.mem_singleton_self _)
  rw [slackText, String.toList_ofList]
  exact htext.trans ((length_le_sectionBlock _).trans ((length_write_item hblock).trans
    (hpayload.trans (length_le_byteLength _))))

end Documents

section Verdict

variable (showUsd : ℚ → String) (display : PathBuf → String) (result : TaskResult)
  (channel : ChannelType) (taskId : String)

/-- The message comes out, is short enough, and in Slack it is a document with blocks. -/
def Presented : Prop :=
  ∃ msg, formatResultMessage showUsd display result channel taskId = some msg ∧
    byteLength msg.toList ≤ maxMessageLength ∧
    (channel = .slack → ∃ fields blocks, DocumentText (.object fields) msg.toList ∧
      fields.lookup "blocks" = some (.array blocks))

def fullText : String :=
  match channel with
  | .telegram => telegramText showUsd display result taskId
  | .slack => slackText showUsd display result taskId

/-- Nothing is to be truncated, or it is plain text that can be cut before the link. -/
def Fitting : Prop :=
  byteLength (fullText showUsd display result channel taskId).toList ≤ maxMessageLength ∨
    channel = .telegram ∧ byteLength (fullOutputLink taskId).toList ≤ maxMessageLength ∧
      ∃ before after, splitAtByte (fullText showUsd display result channel taskId).toList
        (maxMessageLength - byteLength (fullOutputLink taskId).toList) = some (before, after)

theorem formatResultMessage_eq : formatResultMessage showUsd display result channel taskId =
    truncateMessage (fullText showUsd display result channel taskId) taskId := by
  cases channel with
  | telegram => rfl
  | slack => rfl

variable {showUsd display result taskId} in
theorem not_presented_of_long
    (hlong : maxMessageLength < byteLength (slackText showUsd display result taskId).toList) :
    ¬ Presented showUsd display result .slack taskId := by
  intro h
  rw [Presented, formatResultMessage_eq] at h
  obtain ⟨msg, hmsg, -, hslack⟩ := h
  obtain ⟨fields, blocks, hdocument, -⟩ := hslack rfl
  exact not_document_of_truncated hlong hmsg fields hdocument

/-- The result is presented in a channel just if its message fits. -/
theorem presented_iff : Presented showUsd display result channel taskId ↔
    Fitting showUsd display result channel taskId := by
  by_cases hshort :
      byteLength (fullText showUsd display result channel taskId).toList ≤ maxMessageLength
  · refine iff_of_true ?_ (.inl hshort)
    rw [Presented, formatResultMessage_eq]
    refine ⟨_, truncateMessage_short hshort, hshort, ?_⟩
    rintro rfl
    exact ⟨_, _, documentText_slackText showUsd display result taskId, rfl⟩
  · have hlong : maxMessageLength <
        byteLength (fullText showUsd display result channel taskId).toList := by omega
    constructor
    · intro h
      cases channel with
      | slack => exact absurd h (not_presented_of_long hlong)
      | telegram =>
        rw [Presented, formatResultMessage_eq] at h
        obtain ⟨msg, hmsg, -⟩ := h
        obtain ⟨hlink, before, after, hcut, -⟩ := (truncateMessage_long_iff hlong).mp hmsg
        exact .inr ⟨rfl, hlink, before, after, hcut⟩
    · intro h
      obtain ⟨rfl, hlink, before, after, hcut⟩ := h.resolve_left hshort
      rw [Presented, formatResultMessage_eq]
      have hmsg := (truncateMessage_long_iff hlong).mpr ⟨hlink, before, after, hcut, rfl⟩
      refine ⟨_, hmsg, byteLength_of_truncateMessage hmsg, ?_⟩
      intro hslack
      cases hslack

end Verdict

def longOutput (n : ℕ) : TaskResult := ⟨String.ofList (List.replicate n 'a'), [], 0, none⟩

theorem lt_slackText_longOutput {showUsd : ℚ → String} {display : PathBuf → String}
    {taskId : String} {n : ℕ} (hn : maxMessageLength < n) :
    maxMessageLength < byteLength (slackText showUsd display (longOutput n) taskId).toList := by
  have hlength : (longOutput n).output.toList.length = n := by
    rw [longOutput, String.toList_ofList, List.length_replicate]
  have hne : (longOutput n).output ≠ "" := by
    intro heq
    rw [heq] at hlength
    rw [← hlength] at hn
    exact absurd hn (Nat.not_lt_zero _)
  have hle := length_output_le showUsd display (longOutput n) taskId hne
  omega

theorem not_presented : ¬ ∀ (showUsd : ℚ → String) (display : PathBuf → String)
    (result : TaskResult) (channel : ChannelType) (taskId : String),
      Presented showUsd display result channel taskId := by
  intro h
  have hlong : maxMessageLength < 4001 := Nat.lt_succ_self 4000
  exact not_presented_of_long (lt_slackText_longOutput hlong)
    (h (fun _ ↦ "0.0000") String.join (longOutput 4001) .slack "t")

end AdkGateway.CodingAgent.Formatting
