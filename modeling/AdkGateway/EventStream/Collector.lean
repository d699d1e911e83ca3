import AdkGateway.Foundation.Json
import AdkGateway.Foundation.Text
import Mathlib.Data.UInt

namespace AdkGateway.EventStream

open Foundation

structure ToolCallInfo where
  name : String
  args : Json
  id : Option String
  deriving DecidableEq

structure TokenCount where
  promptTokens : Int32
  completionTokens : Int32
  totalTokens : Int32
  deriving DecidableEq

structure ImageData where
  mimeType : String
  data : List UInt8
  deriving DecidableEq

structure CollectedResponse where
  text : String
  toolCalls : List ToolCallInfo
  images : List ImageData
  tokenCount : Option TokenCount
  duration : ℕ
  maxIterationsReached : Bool
  iterationCount : Option UInt32

inductive Part
  | text (text : String)
  | functionCall (name : String) (args : Json) (id : Option String)
  | inlineData (mimeType : String) (data : List UInt8)
  | other

structure UsageMetadata where
  promptTokenCount : Int32
  candidatesTokenCount : Int32
  totalTokenCount : Int32

def UsageMetadata.tokenCount (usage : UsageMetadata) : TokenCount :=
  ⟨usage.promptTokenCount, usage.candidatesTokenCount, usage.totalTokenCount⟩

structure LlmResponse where
  isPartial : Bool
  errorMessage : Option String
  usageMetadata : Option UsageMetadata
  content : Option (List Part)

structure Event where
  author : String
  llmResponse : LlmResponse
  providerMetadata : List (String × String)

structure AgentError where
  text : String
  lower : String

section Errors

structure Notice where
  words : List String
  others : List String
  text : String

def Notice.applies (notice : Notice) (lower : String) : Bool :=
  let contains := fun word ↦ (Text.splitOnce word lower).isSome
  notice.words.any contains && (notice.others.isEmpty || notice.others.any contains)

def notices : List Notice := [
  ⟨["api key expired", "api_key_invalid"], [],
    "⚠️ API key expired or invalid.\n\nUpdate your GOOGLE_API_KEY in ~/.zshrc and restart the gateway."⟩,
  ⟨["api key not valid", "invalid api key", "incorrect api key"], [],
    "⚠️ Invalid API key.\n\nCheck your API key configuration and restart the gateway."⟩,
  ⟨["quota", "rate limit", "resource exhausted"], [],
    "⚠️ Rate limit or quota exceeded.\n\nWait a moment and try again, or check your API plan limits."⟩,
  ⟨["billing", "credit balance", "insufficient_quota"], [],
    "⚠️ Billing issue — out of credits.\n\nAdd credits to your API provider account."⟩,
  ⟨["not found"], ["model", "models/"],
    "⚠️ Model not available.\n\nThe configured model may have been deprecated. " ++
      "Update the model in gateway.json."⟩,
  ⟨["context length", "token limit", "too many tokens", "max.*tokens"], [],
    "⚠️ Message too long for the model's context window.\n\n" ++
      "Try a shorter message or start a new session with /new."⟩,
  ⟨["timeout", "timed out"], [],
    "⚠️ Request timed out.\n\nThe model took too long to respond. Try again."⟩,
  ⟨["connection", "network", "dns"], [],
    "⚠️ Network error — couldn't reach the model provider.\n\nCheck your internet connection."⟩,
  ⟨["safety", "blocked", "content filter", "harm"], [],
    "⚠️ Response blocked by safety filter.\n\nTry rephrasing your request."⟩,
  ⟨["500", "internal server error", "503", "overloaded"], [],
    "⚠️ Model provider is temporarily unavailable.\n\nTry again in a moment."⟩]

/-- Nothing where a text is cut within a character or behind its end, at which the code panics. -/
def innerMessage (error : AgentError) : Option (Option String) :=
  if (Text.splitOnce "bad response from server" error.lower).isSome then
    match Text.splitOnceChars "\"message\":".toList error.text.toList with
    | none => some none
    | some (_, rest) =>
      -- one byte behind the colon is skipped
      (Text.splitAtByte rest 1).map fun (_, afterMsg) ↦
        match Text.splitOnceChars ['"'] afterMsg with
        | none => none
        | some (_, afterQuote) =>
          match Text.splitOnceChars ['"'] afterQuote with
          | none => none
          | some (inner, _) => if inner.isEmpty then none else some (String.ofList inner)
  else some none

def formatAgentError (error : AgentError) : Option String :=
  match notices.find? fun notice ↦ notice.applies error.lower with
  | some notice => some notice.text
  | none =>
    (innerMessage error).bind fun
      | some inner => some ("⚠️ " ++ inner)
      | none =>
        if 120 < Text.byteLength error.text.toList then
          (Text.splitAtByte error.text.toList 120).map fun (clean, _) ↦ "⚠️ " ++ String.ofList clean
        else some ("⚠️ " ++ error.text)

end Errors

structure Collected where
  lastPartialText : String
  finalText : Option String
  toolCalls : List ToolCallInfo
  images : List ImageData
  tokenCount : Option TokenCount
  maxIterationsReached : Bool
  iterationCount : Option UInt32

namespace Collected

def new : Collected := ⟨"", none, [], [], none, false, none⟩

def parseU32 (s : String) : Option UInt32 :=
  let digits : List Char := if s.toList.head? = some '+' then s.toList.tail else s.toList
  let n : ℕ := digits.foldl (fun n c ↦ n * 10 + (c.toNat - '0'.toNat)) 0
  if digits ≠ [] ∧ digits.all Char.isDigit ∧ n < 2 ^ 32 then some (UInt32.ofNat n) else none

def readMetadata (event : Event) (collected : Collected) : Collected :=
  if event.providerMetadata.lookup "max_iterations_reached" = some "true" then
    { collected with
      maxIterationsReached := true
      iterationCount := match event.providerMetadata.lookup "iteration_count" with
        | some count => parseU32 count
        | none => collected.iterationCount }
  else collected

def processPart : String × Collected → Part → String × Collected
  | (eventText, collected), .text text => (eventText ++ text, collected)
  | (eventText, collected), .functionCall name args id =>
    (eventText, { collected with toolCalls := collected.toolCalls ++ [⟨name, args, id⟩] })
  | (eventText, collected), .inlineData mimeType data =>
    if "image/".toList.isPrefixOf mimeType.toList then
      (eventText, { collected with images := collected.images ++ [⟨mimeType, data⟩] })
    else (eventText, collected)
  | (eventText, collected), .other => (eventText, collected)

def addText (response : LlmResponse) (eventText : String) (collected : Collected) : Collected :=
  if eventText = "" then collected
  else if response.isPartial then
    { collected with lastPartialText := collected.lastPartialText ++ eventText }
  else { collected with finalText := some eventText }

def readUsage (response : LlmResponse) (collected : Collected) : Collected :=
  match response.usageMetadata with
  | some usage => { collected with tokenCount := some usage.tokenCount }
  | none => collected

def readContent (response : LlmResponse) (collected : Collected) : Collected :=
  match response.content with
  | some parts =>
    let (eventText, collected) := parts.foldl processPart ("", collected)
    collected.addText response eventText
  | none => collected

def processEvent (event : Event) (collected : Collected) : Collected :=
  if event.author = "user" then collected
  else
    match event.llmResponse.errorMessage with
    | some errMsg => { collected with finalText := some ("\u26a0\ufe0f Error: " ++ errMsg) }
    | none => (collected.readUsage event.llmResponse).readContent event.llmResponse

def callback (prevPartial : String) (collected : Collected) : List String :=
  if collected.lastPartialText ≠ prevPartial ∧ collected.finalText = none then
    [collected.lastPartialText]
  else []

def resolveText (finalText : Option String) (lastPartialText : String)
    (errorText : Option String) : String :=
  match errorText with
  | some err => err
  | none =>
    match finalText with
    | some text => text
    | none => if lastPartialText ≠ "" then lastPartialText else ""

def response (collected : Collected) (errorText : Option String) (duration : ℕ) :
    CollectedResponse where
  text := resolveText collected.finalText collected.lastPartialText errorText
  toolCalls := collected.toolCalls
  images := collected.images
  tokenCount := collected.tokenCount
  duration := duration
  maxIterationsReached := collected.maxIterationsReached
  iterationCount := collected.iterationCount

/-- The response, if the formatting of an error does not panic, and what the callback is given. -/
def collectFrom (duration : ℕ) (collected : Collected) :
    List (Except AgentError Event) → Option CollectedResponse × List String
  | [] => (some (collected.response none duration), [])
  | .ok event :: stream =>
    let prevPartial := collected.lastPartialText
    let collected := (collected.readMetadata event).processEvent event
    (collectFrom duration collected stream).map id (collected.callback prevPartial ++ ·)
  | .error e :: _ =>
    ((formatAgentError e).map fun text ↦ collected.response (some text) duration, [])

end Collected

/-- A stream yields events, and may end with an error. -/
def collectInner (stream : List (Except AgentError Event)) (duration : ℕ) :
    Option CollectedResponse × List String := Collected.collectFrom duration .new stream

def collect (stream : List (Except AgentError Event)) (duration : ℕ) : Option CollectedResponse :=
  (collectInner stream duration).1

end AdkGateway.EventStream
