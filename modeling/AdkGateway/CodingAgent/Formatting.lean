import AdkGateway.CodingAgent.Executor
import AdkGateway.Foundation.JsonText

namespace AdkGateway.CodingAgent.Formatting

open Foundation Text

def maxMessageLength : ℕ := 4000

def condensedFileThreshold : ℕ := 5

inductive ChannelType
  | telegram
  | slack
  deriving DecidableEq

def changeTypeIcon : FileChangeType → String
  | .added => "➕"
  | .modified => "📝"
  | .deleted => "🗑️"

def formatDuration (durationMs : UInt64) : String :=
  let secs := durationMs.toNat / 1000
  if secs < 60 then toString secs ++ "s"
  else if secs < 3600 then
    let mins := secs / 60
    let remainingSecs := secs % 60
    if remainingSecs = 0 then toString mins ++ "m"
    else toString mins ++ "m " ++ toString remainingSecs ++ "s"
  else
    let hours := secs / 3600
    let mins := secs % 3600 / 60
    if mins = 0 then toString hours ++ "h"
    else toString hours ++ "h " ++ toString mins ++ "m"

def controlPanelUrl (taskId : String) : String := "https://gateway.local/ui/tasks/" ++ taskId

def fullOutputLink (taskId : String) : String :=
  "\n\n... [View full output](" ++ controlPanelUrl taskId ++ ")"

/-- `none` is a panic: the link alone is too long, or the cut is inside a character. -/
def truncateMessage (msg taskId : String) : Option String :=
  if byteLength msg.toList ≤ maxMessageLength then some msg
  else if maxMessageLength < byteLength (fullOutputLink taskId).toList then none
  else
    (splitAtByte msg.toList (maxMessageLength - byteLength (fullOutputLink taskId).toList)).map
      fun (truncated, _) ↦ String.ofList truncated ++ fullOutputLink taskId

def trimEnd (s : String) : String := String.ofList (trimEndChars s.toList)

section Channels

-- how a cost is shown with four decimals, and a path
variable (showUsd : ℚ → String) (display : PathBuf → String)

def tokenUsageText (usage : TokenUsage) : String :=
  "*Tokens:* " ++ toString usage.inputTokens.toNat ++ " in / " ++
    toString usage.outputTokens.toNat ++ " out ($" ++ showUsd usage.estimatedCostUsd ++ ")"

def formatTokenUsageTelegram (usage : TokenUsage) : String := tokenUsageText showUsd usage ++ "\n"

def fullFileLine (file : FileChange) : String :=
  "  " ++ changeTypeIcon file.changeType ++ " `" ++ display file.path ++ "` (+" ++
    toString file.linesAdded.toNat ++ "/-" ++ toString file.linesRemoved.toNat ++ ")\n"

def condensedFileLine (file : FileChange) : String :=
  "  " ++ changeTypeIcon file.changeType ++ " `" ++ display file.path ++ "`\n"

def filesCountLine (files : List FileChange) : String :=
  "*Modified Files (" ++ toString files.length ++ " files):*\n"

def formatFilesFullTelegram (files : List FileChange) : String :=
  files.foldl (fun msg file ↦ msg ++ fullFileLine display file) "*Modified Files:*\n"

def formatFilesCondensedTelegram (files : List FileChange) (taskId : String) : String :=
  files.foldl (fun msg file ↦ msg ++ condensedFileLine display file) (filesCountLine files) ++
    "\n[View Full Details](" ++ controlPanelUrl taskId ++ ")\n"

def telegramText (result : TaskResult) (taskId : String) : String :=
  let msg := "*✅ Task Completed*\n\n"
  let msg := msg ++ ("*Duration:* " ++ formatDuration result.durationMs ++ "\n")
  let msg := match result.tokenUsage with
    | some usage => msg ++ formatTokenUsageTelegram showUsd usage
    | none => msg
  let msg := msg ++ "\n"
  let msg :=
    if result.modifiedFiles.isEmpty then msg ++ "_No files modified._\n"
    else if result.modifiedFiles.length ≤ condensedFileThreshold then
      msg ++ formatFilesFullTelegram display result.modifiedFiles
    else msg ++ formatFilesCondensedTelegram display result.modifiedFiles taskId
  if result.output = "" then msg
  else msg ++ "\n*Output:*\n" ++ "```\n" ++ result.output ++ "\n```\n"

def formatResultTelegram (result : TaskResult) (taskId : String) : Option String :=
  truncateMessage (telegramText showUsd display result taskId) taskId

def sectionBlock (text : String) : Json :=
  .object [("type", .string "section"),
    ("text", .object [("type", .string "mrkdwn"), ("text", .string text)])]

def formatFilesFullSlack (files : List FileChange) : Json :=
  sectionBlock <| trimEnd <|
    files.foldl (fun text file ↦ text ++ fullFileLine display file) "*Modified Files:*\n"

def formatFilesCondensedSlack (files : List FileChange) (taskId : String) : Json :=
  sectionBlock <| trimEnd <|
    files.foldl (fun text file ↦ text ++ condensedFileLine display file) (filesCountLine files) ++
      "\n<" ++ controlPanelUrl taskId ++ "|View Full Details>"

def statsText (result : TaskResult) : String :=
  let stats := "*Duration:* " ++ formatDuration result.durationMs
  match result.tokenUsage with
  | some usage => stats ++ "\n" ++ tokenUsageText showUsd usage
  | none => stats

def filesSection (result : TaskResult) (taskId : String) : Json :=
  if result.modifiedFiles.isEmpty then sectionBlock "_No files modified._"
  else if result.modifiedFiles.length ≤ condensedFileThreshold then
    formatFilesFullSlack display result.modifiedFiles
  else formatFilesCondensedSlack display result.modifiedFiles taskId

def slackBlocks (result : TaskResult) (taskId : String) : List Json :=
  let blocks := [sectionBlock "*✅ Task Completed*", sectionBlock (statsText showUsd result),
    filesSection display result taskId]
  if result.output = "" then blocks
  else blocks ++ [sectionBlock ("*Output:*\n```" ++ result.output ++ "```")]

def slackPayload (result : TaskResult) (taskId : String) : Json :=
  .object [("blocks", .array (slackBlocks showUsd display result taskId))]

def slackText (result : TaskResult) (taskId : String) : String :=
  String.ofList (JsonText.write (slackPayload showUsd display result taskId))

def formatResultSlack (result : TaskResult) (taskId : String) : Option String :=
  truncateMessage (slackText showUsd display result taskId) taskId

def formatResultMessage (result : TaskResult) (channel : ChannelType) (taskId : String) :
    Option String :=
  match channel with
  | .telegram => formatResultTelegram showUsd display result taskId
  | .slack => formatResultSlack showUsd display result taskId

end Channels

end AdkGateway.CodingAgent.Formatting
