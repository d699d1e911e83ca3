import AdkGateway.Foundation.Machine
import AdkGateway.Foundation.Replace
import AdkGateway.Foundation.Text
import AdkGateway.Foundation.Value
import AdkGateway.Reconnect.Backoff

namespace AdkGateway.Discord

open Foundation Reconnect
open Value (index)

def gatewayUrl : String := "wss://gateway.discord.gg/?v=10&encoding=json"

section Indexing

def asU64 (v : Value) : Option ℤ := v.asNumber.bind Number.asU64

def asBool : Value → Option Bool
  | .bool b => some b
  | _ => none

end Indexing

structure Message where
  senderId : String
  senderName : Option String
  text : String
  isGroup : Bool
  groupId : Option String
  isMention : Bool
  platformMessageId : String
  metadata : List (String × String)

def removeAll (pattern s : String) : String :=
  String.ofList (Replace.replaceAll pattern.toList [] s.toList)

def cleanText (botId content : String) : String :=
  Text.trim (removeAll ("<@!" ++ botId ++ ">") (removeAll ("<@" ++ botId ++ ">") content))

/-- The message of a `MESSAGE_CREATE`, unless it is to be left alone. -/
def inbound (botId : String) (d : Value) : Option Message :=
  let author := index d "author"
  let authorId := (index author "id").asStr.getD ""
  let content := (index d "content").asStr.getD ""
  let channelId := (index d "channel_id").asStr.getD ""
  let guildId := (index d "guild_id").asStr
  let mentions := (index d "mentions").asArray.getD []
  let isMention := mentions.any fun m ↦ (index m "id").asStr = some botId
  if authorId = botId then none
  else if asBool (index author "bot") = some true then none
  else if content = "" then none
  else if guildId.isSome ∧ isMention = false then none
  else some
    { senderId := authorId
      senderName := (index author "username").asStr
      text := if cleanText botId content = "" then content else cleanText botId content
      isGroup := guildId.isSome
      groupId := if guildId.isSome then some channelId else none
      isMention
      platformMessageId := (index d "id").asStr.getD ""
      metadata := ("discord_channel_id", channelId) ::
        (guildId.map fun gid ↦ ("discord_guild_id", gid)).toList }

inductive Frame
  | identify
  | resume (sessionId : String) (seq : Option ℤ)
  | heartbeat (seq : Option ℤ)
  | close

/-- A frame that is sent, but for a heartbeat that is due, may fail to be delivered, and a message
that is forwarded to be taken: the channel goes on. -/
inductive Event
  | dialled (url : String)
  | connected
  | refused
  | waits (delay : Duration)
  | pauses (delay : Duration)
  | lost
  | gaveUp
  | received (payload : Value)
  | sent (frame : Frame)
  | forwarded (msg : Message)

inductive Ending
  | failed
  | panicked
  | shutDown

/-- Between two attempts the channel may be waiting; a connection has an interval for its
heartbeats once the server has said it. -/
inductive Phase
  | connecting (waiting : Bool)
  | connected (heartbeat : Option ℤ)
  | ended (ending : Ending)

structure Gateway where
  phase : Phase
  sessionId : Option String
  sequence : Option ℤ
  resumeGatewayUrl : Option String
  reconnect : ReconnectState

/-- What happens to the channel: an attempt to connect is made, a frame comes in (a text that is no
document among them), the connection goes down, a heartbeat is due, or the end. -/
inductive Input
  | accepted
  | refused (now : ℕ)
  | text (payload : Option Value)
  | other
  | down
  | tick (delivered : Bool)
  | shutdown

namespace Gateway

def new (policy : ReconnectPolicy) : Gateway := ⟨.connecting false, none, none, none, .new policy⟩

def reconnecting (g : Gateway) : Gateway := { g with phase := .connecting false }

def ended (ending : Ending) (g : Gateway) : Gateway := { g with phase := .ended ending }

def url (g : Gateway) : String := g.resumeGatewayUrl.getD gatewayUrl

def greeting (g : Gateway) : Frame :=
  match g.sessionId with
  | some sid => .resume sid g.sequence
  | none => .identify

/-- A ticker without a period panics. -/
def hello (d : Value) (g : Gateway) : List Event × Gateway :=
  let interval := (asU64 (index d "heartbeat_interval")).getD 41250
  if interval = 0 then ([], g.ended .panicked)
  else ([.sent g.greeting], { g with phase := .connected (some interval) })

/-- Two seconds, in which a shutdown goes unnoticed. -/
def invalidSessionPause : Duration := ⟨2 * 10 ^ 9, by decide⟩

def invalidSession (d : Value) (g : Gateway) : List Event × Gateway :=
  if (asBool d).getD false then ([.pauses invalidSessionPause], g.reconnecting)
  else ([.pauses invalidSessionPause],
    { g.reconnecting with sessionId := none, sequence := none })

def dispatch (botId : String) (payload : Value) (g : Gateway) : List Event × Gateway :=
  let name := (index payload "t").asStr.getD ""
  let d := index payload "d"
  if name = "READY" then
    ([], { g with
      sessionId := (index d "session_id").asStr
      resumeGatewayUrl := (index d "resume_gateway_url").asStr })
  else if name = "MESSAGE_CREATE" then ((inbound botId d).toList.map .forwarded, g)
  else ([], g)

def opcode (payload : Value) : ℤ := (asU64 (index payload "op")).getD 0

def counted (payload : Value) (g : Gateway) : Gateway :=
  { g with sequence := (asU64 (index payload "s")).or g.sequence }

def receive (botId : String) (payload : Value) (g : Gateway) : List Event × Gateway :=
  let g := g.counted payload
  let d := index payload "d"
  match opcode payload with
  | 10 => g.hello d
  | 1 => ([.sent (.heartbeat g.sequence)], g)
  | 7 => ([], g.reconnecting)
  | 9 => g.invalidSession d
  | 0 => g.dispatch botId payload
  | _ => ([], g)

def step (botId : String) (g : Gateway) (input : Input) : List Event × Gateway :=
  match g.phase, input with
  | .connecting _, .accepted =>
    ([.dialled g.url, .connected],
      { g with phase := .connected none, reconnect := g.reconnect.reset })
  | .connecting _, .refused now =>
    if g.reconnect.shouldMarkFailed then
      ([.dialled g.url, .refused, .gaveUp], g.ended .failed)
    else
      ([.dialled g.url, .refused, .waits (g.reconnect.nextDelay now).1],
        { g with phase := .connecting true, reconnect := (g.reconnect.nextDelay now).2 })
  | .connecting true, .shutdown => ([], g.ended .shutDown)
  | .connected _, .text (some payload) =>
    (.received payload :: (g.receive botId payload).1, (g.receive botId payload).2)
  | .connected _, .down => ([.lost], g.reconnecting)
  | .connected (some _), .tick true => ([.sent (.heartbeat g.sequence)], g)
  | .connected (some _), .tick false => ([.lost], g.reconnecting)
  | .connected _, .shutdown => ([.sent .close], g.ended .shutDown)
  | _, _ => ([], g)

/-- What happens in a run, from the start of the channel. -/
def trace (botId : String) (policy : ReconnectPolicy) (inputs : List Input) : List Event :=
  (Machine.outputs (step botId) (new policy) inputs).flatten

end Gateway

open Discord.Gateway

section History

def dropsSession (payload : Value) : Bool :=
  opcode payload = 9 && !(asBool (index payload "d")).getD false

def isReady (payload : Value) : Bool :=
  opcode payload = 0 && (index payload "t").asStr.getD "" = "READY"

def sessionWord : Event → Option (Option String)
  | .received payload =>
    if isReady payload then some (index (index payload "d") "session_id").asStr
    else if dropsSession payload then some none
    else none
  | _ => none

def urlWord : Event → Option (Option String)
  | .received payload =>
    if isReady payload then some (index (index payload "d") "resume_gateway_url").asStr else none
  | _ => none

def sequenceWord : Event → Option (Option ℤ)
  | .received payload =>
    if dropsSession payload then some none else (asU64 (index payload "s")).map some
  | _ => none

def message (botId : String) (payload : Value) : Option Message :=
  if opcode payload = 0 ∧ (index payload "t").asStr.getD "" = "MESSAGE_CREATE" then
    inbound botId (index payload "d")
  else none

/-- The attempts that have failed since the last one that did not. -/
def refusals (h : List Event) : ℕ :=
  h.foldl (fun n e ↦ match e with
    | .refused => n + 1
    | .connected => 0
    | _ => n) 0

/-- What the channel does, as its history has it: it goes to the address of the last session, takes
that session up again where it stands unless the server has dropped it, forwards the message that
has just come, and gives up at the first refusal above the bound. -/
def Justified (botId : String) (policy : ReconnectPolicy) (h : List Event) : Event → Prop
  | .dialled url => url = (Machine.latest urlWord h).getD gatewayUrl
  | .sent .identify => Machine.latest sessionWord h = none
  | .sent (.resume sid seq) =>
    Machine.latest sessionWord h = some sid ∧ seq = Machine.latest sequenceWord h
  | .sent (.heartbeat seq) => seq = Machine.latest sequenceWord h
  | .waits delay => refusals h ≤ policy.maxAttempts.toNat ∧
    (policy.initialDelay.nanos ≤ policy.maxDelay.nanos → delay.nanos = policy.delay (refusals h))
  | .gaveUp => refusals h = policy.maxAttempts.toNat + 1
  | .forwarded msg => ∃ before payload,
    h = before ++ [.received payload] ∧ message botId payload = some msg
  | _ => True

def linkWord : Event → Option (Option Bool)
  | .connected => some (some false)
  | .lost => some none
  | .received payload =>
    if opcode payload = 10 then some (some true)
    else if opcode payload = 7 ∨ opcode payload = 9 then some none
    else none
  | _ => none

def link (h : List Event) : Option Bool := Machine.latest linkWord h

/-- The wait that a refusal asks for, or the pause of an invalid session, is over. -/
def Rested (h : List Event) : Prop := ∀ before e, h = before ++ [e] →
  e ≠ .refused ∧ ∀ payload, e = .received payload → opcode payload ≠ 9

def JustReceived (op : ℤ) (h : List Event) : Prop :=
  ∃ before payload, h = before ++ [.received payload] ∧ opcode payload = op

/-- An attempt is made without a connection and after the wait for the last one, the channel greets
a server that has just greeted it, and its heart beats by itself only after that. -/
def Timely (h : List Event) : Event → Prop
  | .dialled _ => link h = none ∧ Rested h
  | .connected => ∃ before url, h = before ++ [.dialled url]
  | .refused => ∃ before url, h = before ++ [.dialled url]
  | .waits _ => ∃ before, h = before ++ [.refused]
  | .pauses delay => delay = invalidSessionPause ∧ JustReceived 9 h
  | .lost => link h ≠ none
  | .gaveUp => ∃ before, h = before ++ [.refused]
  | .received _ => link h ≠ none
  | .sent .identify => JustReceived 10 h
  | .sent (.resume _ _) => JustReceived 10 h
  | .sent (.heartbeat _) => JustReceived 1 h ∨ link h = some true
  | .sent .close => link h ≠ none
  | .forwarded _ => JustReceived 0 h

def Open (h : List Event) : Prop := .gaveUp ∉ h ∧ .sent .close ∉ h

def Fits (botId : String) (policy : ReconnectPolicy) (h : List Event) (e : Event) : Prop :=
  (Open h ∧ Timely h e) ∧ Justified botId policy h e

end History

section Receipts

variable {botId : String} {payload : Value} {g : Gateway}

inductive Receipt (botId : String) (payload : Value) (g : Gateway) : List Event × Gateway → Prop
  | ready : opcode payload = 0 → isReady payload = true → dropsSession payload = false →
      message botId payload = none → Receipt botId payload g ([], { g with
        sessionId := (index (index payload "d") "session_id").asStr
        resumeGatewayUrl := (index (index payload "d") "resume_gateway_url").asStr })
  | drops : opcode payload = 9 → isReady payload = false → dropsSession payload = true →
      message botId payload = none → Receipt botId payload g
        ([.pauses invalidSessionPause], { g.reconnecting with sessionId := none, sequence := none })
  | pauses : opcode payload = 9 → isReady payload = false → dropsSession payload = false →
      message botId payload = none →
      Receipt botId payload g ([.pauses invalidSessionPause], g.reconnecting)
  | greets (interval : ℤ) : opcode payload = 10 → isReady payload = false →
      dropsSession payload = false → message botId payload = none →
      Receipt botId payload g ([.sent g.greeting], { g with phase := .connected (some interval) })
  | panics : opcode payload = 10 → isReady payload = false → dropsSession payload = false →
      message botId payload = none → Receipt botId payload g ([], g.ended .panicked)
  | beats : opcode payload = 1 → isReady payload = false → dropsSession payload = false →
      message botId payload = none → Receipt botId payload g ([.sent (.heartbeat g.sequence)], g)
  | leaves : opcode payload = 7 → isReady payload = false → dropsSession payload = false →
      message botId payload = none → Receipt botId payload g ([], g.reconnecting)
  | forwards (msg : Message) : opcode payload = 0 → isReady payload = false →
      dropsSession payload = false → message botId payload = some msg →
      Receipt botId payload g ([.forwarded msg], g)
  | quiet : linkWord (.received payload) = none → isReady payload = false →
      dropsSession payload = false → message botId payload = none → Receipt botId payload g ([], g)

theorem receipt_hello (hop : opcode payload = 10) :
    Receipt botId payload g (g.hello (index payload "d")) := by
  have hready : isReady payload = false := by simp [isReady, hop]
  have hdrops : dropsSession payload = false := by simp [dropsSession, hop]
  have hmessage : message botId payload = none := by simp [message, hop]
  rw [hello]
  split
  · exact .panics hop hready hdrops hmessage
  · exact .greets _ hop hready hdrops hmessage

theorem receipt_invalidSession (hop : opcode payload = 9) :
    Receipt botId payload g (g.invalidSession (index payload "d")) := by
  have hready : isReady payload = false := by simp [isReady, hop]
  have hmessage : message botId payload = none := by simp [message, hop]
  rw [invalidSession]
  split
  next hresumable =>
    have hdrops : dropsSession payload = false := by simp [dropsSession, hresumable]
    exact .pauses hop hready hdrops hmessage
  next hresumable =>
    have hdrops : dropsSession payload = true := by simp [dropsSession, hop, hresumable]
    exact .drops hop hready hdrops hmessage

theorem receipt_dispatch (hop : opcode payload = 0) :
    Receipt botId payload g (g.dispatch botId payload) := by
  have hlink : linkWord (.received payload) = none := by simp [linkWord, hop]
  have hdrops : dropsSession payload = false := by simp [dropsSession, hop]
  rw [dispatch]
  split
  next hname =>
    exact .ready hop (by simp [isReady, hop, hname]) hdrops (by simp [message, hop, hname])
  next hname =>
    have hready : isReady payload = false := by simp [isReady, hop, hname]
    split
    next hcreate =>
      have hmessage : message botId payload = inbound botId (index payload "d") :=
        if_pos ⟨hop, hcreate⟩
      cases hmsg : inbound botId (index payload "d") with
      | none => exact .quiet hlink hready hdrops (hmessage.trans hmsg)
      | some msg => exact .forwards msg hop hready hdrops (hmessage.trans hmsg)
    next hcreate =>
      exact .quiet hlink hready hdrops (if_neg fun h ↦ hcreate h.2)

theorem receipt (botId : String) (payload : Value) (g : Gateway) :
    Receipt botId payload (g.counted payload) (g.receive botId payload) := by
  have hother {op : ℤ} (hop : opcode payload = op) (h₀ : op ≠ 0) (h₉ : op ≠ 9) :
      isReady payload = false ∧ dropsSession payload = false ∧ message botId payload = none := by
    subst hop
    simp [isReady, dropsSession, message, h₀, h₉]
  unfold receive
  dsimp only
  split
  next hop => exact receipt_hello hop
  next hop =>
    obtain ⟨hready, hdrops, hmessage⟩ := hother hop (by decide) (by decide)
    exact .beats hop hready hdrops hmessage
  next hop =>
    obtain ⟨hready, hdrops, hmessage⟩ := hother hop (by decide) (by decide)
    exact .leaves hop hready hdrops hmessage
  next hop => exact receipt_invalidSession hop
  next hop => exact receipt_dispatch hop
  next hten hone hseven hnine hzero =>
    obtain ⟨hready, hdrops, hmessage⟩ := hother rfl hzero hnine
    have hlink : linkWord (.received payload) = none := by
      rw [linkWord, if_neg hten, if_neg (not_or.mpr ⟨hseven, hnine⟩)]
    exact .quiet hlink hready hdrops hmessage

end Receipts

structure Recalls (policy : ReconnectPolicy) (g : Gateway) (h : List Event) : Prop where
  sessionId : g.sessionId = Machine.latest sessionWord h
  sequence : g.sequence = Machine.latest sequenceWord h
  resumeGatewayUrl : g.resumeGatewayUrl = Machine.latest urlWord h
  reconnect : (∀ ending, g.phase ≠ .ended ending) →
    Tracks policy (refusals h) g.reconnect ∧ refusals h ≤ policy.maxAttempts.toNat

namespace Recalls

variable {botId : String} {policy : ReconnectPolicy} {g g' : Gateway} {h : List Event}
  {payload : Value}

theorem new (policy : ReconnectPolicy) : Recalls policy (new policy) [] :=
  ⟨rfl, rfl, rfl, fun _ ↦ ⟨tracks_new policy, Nat.zero_le _⟩⟩

theorem refusals_concat (h : List Event) (e : Event) : refusals (h ++ [e]) =
    match e with
    | .refused => refusals h + 1
    | .connected => 0
    | _ => refusals h := by
  rw [refusals, List.foldl_concat]
  cases e <;> rfl

/-- An event that tells no register anything and is no attempt. -/
theorem concat (hg : Recalls policy g h) {e : Event} (hsession : sessionWord e = none)
    (hsequence : sequenceWord e = none) (hurl : urlWord e = none)
    (hrefusals : refusals (h ++ [e]) = refusals h) : Recalls policy g (h ++ [e]) where
  sessionId := by rw [Machine.latest_concat_of_none hsession, hg.sessionId]
  sequence := by rw [Machine.latest_concat_of_none hsequence, hg.sequence]
  resumeGatewayUrl := by rw [Machine.latest_concat_of_none hurl, hg.resumeGatewayUrl]
  reconnect := by
    rw [hrefusals]
    exact hg.reconnect

theorem concat_sent (hg : Recalls policy g h) (frame : Frame) :
    Recalls policy g (h ++ [.sent frame]) := hg.concat rfl rfl rfl (refusals_concat h _)

theorem concat_pauses {delay : Duration} (hg : Recalls policy g h) :
    Recalls policy g (h ++ [.pauses delay]) := hg.concat rfl rfl rfl (refusals_concat h _)

theorem concat_lost (hg : Recalls policy g h) : Recalls policy g (h ++ [.lost]) :=
  hg.concat rfl rfl rfl (refusals_concat h .lost)

theorem withPhase (hg : Recalls policy g h) {phase : Phase}
    (hphase : ∀ ending, g.phase ≠ .ended ending) : Recalls policy { g with phase } h :=
  ⟨hg.sessionId, hg.sequence, hg.resumeGatewayUrl, fun _ ↦ hg.reconnect hphase⟩

theorem greeting (hg : Recalls policy g h) : Justified botId policy h (.sent g.greeting) := by
  rw [Gateway.greeting]
  cases hsid : g.sessionId with
  | none => exact hg.sessionId.symm.trans hsid
  | some sid => exact ⟨hg.sessionId.symm.trans hsid, hg.sequence⟩

theorem sequence_counted (hg : Recalls policy g h) (hdrops : dropsSession payload = false) :
    (g.counted payload).sequence = Machine.latest sequenceWord (h ++ [.received payload]) := by
  rw [Machine.latest_concat, sequenceWord, if_neg (by simp [hdrops]), Gateway.counted, hg.sequence]
  cases asU64 (index payload "s") <;> rfl

theorem counted (hg : Recalls policy g h) (hready : isReady payload = false)
    (hdrops : dropsSession payload = false) :
    Recalls policy (g.counted payload) (h ++ [.received payload]) where
  sessionId := by
    rw [Machine.latest_concat_of_none (by simp [sessionWord, hready, hdrops])]
    exact hg.sessionId
  sequence := hg.sequence_counted hdrops
  resumeGatewayUrl := by
    rw [Machine.latest_concat_of_none (by simp [urlWord, hready])]
    exact hg.resumeGatewayUrl
  reconnect := by
    rw [refusals_concat]
    exact hg.reconnect

theorem ready (hg : Recalls policy g h) (hready : isReady payload = true)
    (hdrops : dropsSession payload = false) :
    Recalls policy { g.counted payload with
      sessionId := (index (index payload "d") "session_id").asStr
      resumeGatewayUrl := (index (index payload "d") "resume_gateway_url").asStr }
      (h ++ [.received payload]) where
  sessionId := (Machine.latest_concat_of_some (by simp [sessionWord, hready]) h).symm
  sequence := hg.sequence_counted hdrops
  resumeGatewayUrl := (Machine.latest_concat_of_some (by simp [urlWord, hready]) h).symm
  reconnect := by
    rw [refusals_concat]
    exact hg.reconnect

theorem drops (hg : Recalls policy g h) (hready : isReady payload = false)
    (hdrops : dropsSession payload = true) (hphase : ∀ ending, g.phase ≠ .ended ending) :
    Recalls policy { (g.counted payload).reconnecting with sessionId := none, sequence := none }
      (h ++ [.received payload]) where
  sessionId := (Machine.latest_concat_of_some (by simp [sessionWord, hready, hdrops]) h).symm
  sequence := (Machine.latest_concat_of_some (by simp [sequenceWord, hdrops]) h).symm
  resumeGatewayUrl := by
    rw [Machine.latest_concat_of_none (by simp [urlWord, hready])]
    exact hg.resumeGatewayUrl
  reconnect := by
    rw [refusals_concat]
    exact fun _ ↦ hg.reconnect hphase

theorem receive (hg : Recalls policy g h) (hphase : ∀ ending, g.phase ≠ .ended ending)
    (payload : Value) :
    Machine.EachFits (Justified botId policy) (h ++ [.received payload])
        (g.receive botId payload).1 ∧
      Recalls policy (g.receive botId payload).2
        (h ++ .received payload :: (g.receive botId payload).1) := by
  have hreceipt := receipt botId payload g
  generalize g.receive botId payload = out at hreceipt ⊢
  have hsplit (es : List Event) :
      h ++ .received payload :: es = h ++ [.received payload] ++ es := by simp
  rw [hsplit out.1]
  cases hreceipt with
  | ready _ hready hdrops => exact ⟨trivial, by simpa using hg.ready hready hdrops⟩
  | drops _ hready hdrops =>
    exact ⟨⟨trivial, trivial⟩, (hg.drops hready hdrops hphase).concat_pauses⟩
  | pauses _ hready hdrops =>
    exact ⟨⟨trivial, trivial⟩, ((hg.counted hready hdrops).withPhase hphase).concat_pauses⟩
  | greets interval _ hready hdrops =>
    have hcounted := hg.counted hready hdrops
    exact ⟨⟨hcounted.greeting, trivial⟩, (hcounted.withPhase hphase).concat_sent _⟩
  | beats _ hready hdrops =>
    have hcounted := hg.counted hready hdrops
    exact ⟨⟨hcounted.sequence, trivial⟩, hcounted.concat_sent _⟩
  | forwards msg _ hready hdrops hmessage =>
    have hcounted := hg.counted hready hdrops
    exact ⟨⟨⟨h, payload, rfl, hmessage⟩, trivial⟩,
      hcounted.concat (e := .forwarded msg) rfl rfl rfl (refusals_concat _ (.forwarded msg))⟩
  | panics _ hready hdrops | leaves _ hready hdrops =>
    rw [List.append_nil]
    exact ⟨trivial, (hg.counted hready hdrops).withPhase hphase⟩
  | quiet _ hready hdrops => exact ⟨trivial, by simpa using hg.counted hready hdrops⟩

theorem dialled (hg : Recalls policy g h) : Justified botId policy h (.dialled g.url) :=
  congrArg (Option.getD · gatewayUrl) hg.resumeGatewayUrl

theorem concat_dialled (hg : Recalls policy g h) (url : String) :
    Recalls policy g (h ++ [.dialled url]) := hg.concat rfl rfl rfl (refusals_concat h _)

theorem accepted (hg : Recalls policy g h) (hphase : ∀ ending, g.phase ≠ .ended ending) :
    Recalls policy { g with phase := .connected none, reconnect := g.reconnect.reset }
      (h ++ [.dialled g.url, .connected]) := by
  have hdialled := hg.concat_dialled g.url
  rw [show h ++ [.dialled g.url, .connected] = h ++ [.dialled g.url] ++ [.connected] by simp]
  refine ⟨?_, ?_, ?_, fun _ ↦ ?_⟩
  · exact hdialled.sessionId.trans (Machine.latest_concat_of_none rfl _).symm
  · exact hdialled.sequence.trans (Machine.latest_concat_of_none rfl _).symm
  · exact hdialled.resumeGatewayUrl.trans (Machine.latest_concat_of_none rfl _).symm
  · rw [refusals_concat]
    exact ⟨(hg.reconnect hphase).1.reset, Nat.zero_le _⟩

theorem refusals_refused (h : List Event) (url : String) :
    refusals (h ++ [.dialled url] ++ [.refused]) = refusals h + 1 := by
  rw [refusals_concat, refusals_concat]

/-- The registers are untouched by an attempt that fails, and by what comes of it. -/
theorem refused (hg : Recalls policy g h) {e : Event} (he : sessionWord e = none ∧
      sequenceWord e = none ∧ urlWord e = none) {phase : Phase} {reconnect : ReconnectState}
    (hreconnect : (∀ ending, phase ≠ .ended ending) →
      Tracks policy (refusals (h ++ [.dialled g.url, .refused, e])) reconnect ∧
        refusals (h ++ [.dialled g.url, .refused, e]) ≤ policy.maxAttempts.toNat) :
    Recalls policy { g with phase, reconnect } (h ++ [.dialled g.url, .refused, e]) := by
  have hsplit : h ++ [.dialled g.url, .refused, e] =
      h ++ [.dialled g.url] ++ [.refused] ++ [e] := by simp
  refine ⟨?_, ?_, ?_, hreconnect⟩
  · rw [hsplit, Machine.latest_concat_of_none he.1, Machine.latest_concat_of_none rfl,
      Machine.latest_concat_of_none rfl]
    exact hg.sessionId
  · rw [hsplit, Machine.latest_concat_of_none he.2.1, Machine.latest_concat_of_none rfl,
      Machine.latest_concat_of_none rfl]
    exact hg.sequence
  · rw [hsplit, Machine.latest_concat_of_none he.2.2, Machine.latest_concat_of_none rfl,
      Machine.latest_concat_of_none rfl]
    exact hg.resumeGatewayUrl

theorem gaveUp (hg : Recalls policy g h) (hphase : ∀ ending, g.phase ≠ .ended ending)
    (hfailed : g.reconnect.shouldMarkFailed = true) :
    Machine.EachFits (Justified botId policy) h [.dialled g.url, .refused, .gaveUp] ∧
      Recalls policy (g.ended .failed) (h ++ [.dialled g.url, .refused, .gaveUp]) := by
  obtain ⟨htracks, hle⟩ := hg.reconnect hphase
  have hcount : refusals (h ++ [.dialled g.url] ++ [.refused]) = policy.maxAttempts.toNat + 1 := by
    rw [refusals_refused, (htracks.shouldMarkFailed_iff hle).mp hfailed]
  exact ⟨⟨hg.dialled, trivial, hcount, trivial⟩,
    hg.refused ⟨rfl, rfl, rfl⟩ fun hending ↦ absurd rfl (hending .failed)⟩

theorem waits (hg : Recalls policy g h) (hphase : ∀ ending, g.phase ≠ .ended ending)
    (hfailed : g.reconnect.shouldMarkFailed ≠ true) (now : ℕ) :
    Machine.EachFits (Justified botId policy) h
        [.dialled g.url, .refused, .waits (g.reconnect.nextDelay now).1] ∧
      Recalls policy
        { g with phase := .connecting true, reconnect := (g.reconnect.nextDelay now).2 }
        (h ++ [.dialled g.url, .refused, .waits (g.reconnect.nextDelay now).1]) := by
  obtain ⟨htracks, hle⟩ := hg.reconnect hphase
  have hne := mt (htracks.shouldMarkFailed_iff hle).mpr hfailed
  have hcount := refusals_refused h g.url
  have hcountWait (delay : Duration) :
      refusals (h ++ [.dialled g.url, .refused, .waits delay]) = refusals h + 1 := by
    rw [show h ++ [.dialled g.url, .refused, .waits delay] =
      h ++ [.dialled g.url] ++ [.refused] ++ [.waits delay] by simp, refusals_concat, hcount]
  refine ⟨⟨hg.dialled, trivial, ⟨?_, fun hcap ↦ ?_⟩, trivial⟩,
    hg.refused ⟨rfl, rfl, rfl⟩ fun _ ↦ ?_⟩
  · omega
  · rw [hcount]
    exact htracks.delay_eq hcap now
  · rw [hcountWait]
    exact ⟨htracks.nextDelay now, by omega⟩

theorem step (hg : Recalls policy g h) (input : Input) :
    Machine.EachFits (Justified botId policy) h (Gateway.step botId g input).1 ∧
      Recalls policy (Gateway.step botId g input).2 (h ++ (Gateway.step botId g input).1) := by
  have hquiet (phase : Phase) (hphase : ∀ ending, g.phase ≠ .ended ending) :
      Machine.EachFits (Justified botId policy) h [] ∧ Recalls policy { g with phase } (h ++ []) :=
    ⟨trivial, by simpa using hg.withPhase hphase⟩
  unfold Gateway.step
  split
  next waiting hphase =>
    exact ⟨⟨hg.dialled, trivial, trivial⟩, hg.accepted (by simp [hphase])⟩
  next waiting now hphase =>
    split
    next hfailed => exact hg.gaveUp (by simp [hphase]) hfailed
    next hfailed => exact hg.waits (by simp [hphase]) hfailed now
  next hphase => exact hquiet (.ended .shutDown) (by simp [hphase])
  next payload hphase =>
    obtain ⟨hfits, hrecalls⟩ := hg.receive (by simp [hphase]) payload
    exact ⟨⟨trivial, hfits⟩, hrecalls⟩
  next hphase => exact ⟨⟨trivial, trivial⟩, (hg.withPhase (by simp [hphase])).concat_lost⟩
  next hphase => exact ⟨⟨hg.sequence, trivial⟩, hg.concat_sent _⟩
  next hphase => exact ⟨⟨trivial, trivial⟩, (hg.withPhase (by simp [hphase])).concat_lost⟩
  next hphase =>
    exact ⟨⟨trivial, trivial⟩, (hg.withPhase (by simp [hphase])).concat_sent _⟩
  next => exact ⟨trivial, by simpa using hg⟩

end Recalls

section Order

variable {botId : String} {policy : ReconnectPolicy} {g : Gateway} {h : List Event} {e : Event}
  {payload : Value}

theorem Open.concat (hopen : Open h) (hgaveUp : e ≠ .gaveUp) (hclose : e ≠ .sent .close) :
    Open (h ++ [e]) := by
  refine ⟨fun hmem ↦ ?_, fun hmem ↦ ?_⟩
  · obtain hmem | hmem := List.mem_append.mp hmem
    · exact hopen.1 hmem
    · exact hgaveUp (List.mem_singleton.mp hmem).symm
  · obtain hmem | hmem := List.mem_append.mp hmem
    · exact hopen.2 hmem
    · exact hclose (List.mem_singleton.mp hmem).symm

theorem rested_concat (h : List Event) (hrefused : e ≠ .refused)
    (hnine : ∀ payload, e = .received payload → opcode payload ≠ 9) : Rested (h ++ [e]) := by
  intro before e' heq
  obtain ⟨-, rfl⟩ := List.append_singleton_inj.mp heq
  exact ⟨hrefused, hnine⟩

/-- Whether there is a connection is the same for the channel and its history, and the channel
that makes the next attempt has waited. -/
structure Situated (phase : Phase) (h : List Event) : Prop where
  connecting : ∀ waiting, phase = .connecting waiting → link h = none ∧ Rested h
  connected : ∀ heartbeat, phase = .connected heartbeat → link h = some heartbeat.isSome
  opened : (∀ ending, phase ≠ .ended ending) → Open h

namespace Situated

theorem ended (ending : Ending) (h : List Event) : Situated (.ended ending) h :=
  ⟨nofun, nofun, fun hphase ↦ absurd rfl (hphase ending)⟩

theorem of_connecting (waiting : Bool) (hlink : link h = none) (hrested : Rested h)
    (hopen : Open h) : Situated (.connecting waiting) h :=
  ⟨fun _ _ ↦ ⟨hlink, hrested⟩, nofun, fun _ ↦ hopen⟩

theorem of_connected {heartbeat : Option ℤ} (hlink : link h = some heartbeat.isSome)
    (hopen : Open h) : Situated (.connected heartbeat) h :=
  ⟨nofun, fun _ heq ↦ by rw [hlink, Phase.connected.inj heq], fun _ ↦ hopen⟩

theorem stays {heartbeat : Option ℤ} (hs : Situated (.connected heartbeat) h)
    (hword : linkWord e = none) (hgaveUp : e ≠ .gaveUp) (hclose : e ≠ .sent .close) :
    Situated (.connected heartbeat) (h ++ [e]) := by
  refine of_connected ?_ ((hs.opened nofun).concat hgaveUp hclose)
  rw [link, Machine.latest_concat_of_none hword]
  exact hs.connected heartbeat rfl

theorem dials {waiting : Bool} (hs : Situated (.connecting waiting) h) (url : String) :
    (Open h ∧ Timely h (.dialled url)) ∧ Open (h ++ [.dialled url]) ∧
      link (h ++ [.dialled url]) = none := by
  have hopen := hs.opened nofun
  obtain ⟨hlink, hrested⟩ := hs.connecting waiting rfl
  refine ⟨⟨hopen, hlink, hrested⟩, hopen.concat nofun nofun, ?_⟩
  rw [link, Machine.latest_concat_of_none rfl]
  exact hlink

theorem accepted {waiting : Bool} (hs : Situated (.connecting waiting) h) (url : String) :
    Machine.EachFits (fun h e ↦ Open h ∧ Timely h e) h [.dialled url, .connected] ∧
      Situated (.connected none) (h ++ [.dialled url, .connected]) := by
  obtain ⟨hdials, hopen, -⟩ := hs.dials url
  have hword : linkWord .connected = some (some false) := rfl
  rw [show h ++ [.dialled url, .connected] = h ++ [.dialled url] ++ [.connected] by simp]
  exact ⟨⟨hdials, ⟨hopen, h, url, rfl⟩, trivial⟩,
    of_connected (Machine.latest_concat_of_some hword _) (hopen.concat nofun nofun)⟩

/-- An attempt that fails is the last, or it is waited for. -/
theorem refused {waiting : Bool} (hs : Situated (.connecting waiting) h) (url : String)
    (hcases : e = .gaveUp ∨ ∃ delay, e = .waits delay) :
    Machine.EachFits (fun h e ↦ Open h ∧ Timely h e) h [.dialled url, .refused, e] ∧
      (e ≠ .gaveUp → Situated (.connecting true) (h ++ [.dialled url, .refused, e])) := by
  obtain ⟨hdials, hopen, hlink⟩ := hs.dials url
  have hopen' : Open (h ++ [.dialled url] ++ [.refused]) := hopen.concat nofun nofun
  rw [show h ++ [.dialled url, .refused, e] = h ++ [.dialled url] ++ [.refused] ++ [e] by simp]
  obtain rfl | ⟨delay, rfl⟩ := hcases
  · exact ⟨⟨hdials, ⟨hopen, h, url, rfl⟩, ⟨hopen', _, rfl⟩, trivial⟩, fun hne ↦ absurd rfl hne⟩
  · refine ⟨⟨hdials, ⟨hopen, h, url, rfl⟩, ⟨hopen', _, rfl⟩, trivial⟩, fun _ ↦ ?_⟩
    refine of_connecting true ?_ (rested_concat _ nofun nofun) (hopen'.concat nofun nofun)
    rw [link, Machine.latest_concat_of_none rfl, Machine.latest_concat_of_none rfl]
    exact hlink

theorem lost {heartbeat : Option ℤ} (hs : Situated (.connected heartbeat) h) :
    Machine.EachFits (fun h e ↦ Open h ∧ Timely h e) h [.lost] ∧
      Situated (.connecting false) (h ++ [.lost]) := by
  have hopen := hs.opened nofun
  have hlink : link h ≠ none := by simp [hs.connected heartbeat rfl]
  have hword : linkWord .lost = some none := rfl
  exact ⟨⟨⟨hopen, hlink⟩, trivial⟩, of_connecting false (Machine.latest_concat_of_some hword h)
    (rested_concat h nofun nofun) (hopen.concat nofun nofun)⟩

theorem receive {heartbeat : Option ℤ} (hs : Situated (.connected heartbeat) h)
    (hphase : g.phase = .connected heartbeat) (botId : String) (payload : Value) :
    Machine.EachFits (fun h e ↦ Open h ∧ Timely h e) h
        (.received payload :: (g.receive botId payload).1) ∧
      Situated (g.receive botId payload).2.phase
        (h ++ .received payload :: (g.receive botId payload).1) := by
  have hopen := hs.opened nofun
  have hlink : link h = some heartbeat.isSome := hs.connected heartbeat rfl
  have hreceived : Open h ∧ Timely h (.received payload) := ⟨hopen, by simp [Timely, hlink]⟩
  have hopen' : Open (h ++ [.received payload]) := hopen.concat nofun nofun
  have hstays {op : ℤ} (hop : opcode payload = op) (h₇ : op ≠ 7) (h₉ : op ≠ 9) (h₁₀ : op ≠ 10) :
      Situated (.connected heartbeat) (h ++ [.received payload]) := by
    have hword : linkWord (.received payload) = none := by
      rw [linkWord, hop, if_neg h₁₀, if_neg (not_or.mpr ⟨h₇, h₉⟩)]
    exact hs.stays hword nofun nofun
  have hpauses (hop : opcode payload = 9) : Machine.EachFits (fun h e ↦ Open h ∧ Timely h e) h
        [.received payload, .pauses invalidSessionPause] ∧
      Situated (.connecting false) (h ++ [.received payload] ++ [.pauses invalidSessionPause]) := by
    have hword : linkWord (.received payload) = some none := by simp [linkWord, hop]
    refine ⟨⟨hreceived, ⟨hopen', rfl, h, payload, rfl, hop⟩, trivial⟩,
      of_connecting false ?_ (rested_concat _ nofun nofun) (hopen'.concat nofun nofun)⟩
    rw [link, Machine.latest_concat_of_none rfl, Machine.latest_concat_of_some hword]
  have hsplit (es : List Event) :
      h ++ .received payload :: es = h ++ [.received payload] ++ es := by simp
  have hcounted : (g.counted payload).phase = .connected heartbeat := hphase
  have hreceipt := receipt botId payload g
  generalize g.receive botId payload = out at hreceipt ⊢
  rw [hsplit out.1]
  cases hreceipt with
  | ready hop =>
    rw [List.append_nil, hcounted]
    exact ⟨⟨hreceived, trivial⟩, hstays hop (by decide) (by decide) (by decide)⟩
  | drops hop => exact hpauses hop
  | pauses hop => exact hpauses hop
  | greets interval hop =>
    have hword : linkWord (.received payload) = some (some true) := by simp [linkWord, hop]
    have hgreets : Timely (h ++ [.received payload]) (.sent (g.counted payload).greeting) := by
      rw [Gateway.greeting]
      cases (g.counted payload).sessionId <;> exact ⟨h, payload, rfl, hop⟩
    refine ⟨⟨hreceived, ⟨hopen', hgreets⟩, trivial⟩, of_connected ?_ (hopen'.concat nofun ?_)⟩
    · rw [link, Machine.latest_concat_of_none rfl, Machine.latest_concat_of_some hword]
      rfl
    · rw [Gateway.greeting]
      cases (g.counted payload).sessionId <;> exact nofun
  | panics hop => exact ⟨⟨hreceived, trivial⟩, ended .panicked _⟩
  | beats hop =>
    refine ⟨⟨hreceived, ⟨hopen', .inl ⟨h, payload, rfl, hop⟩⟩, trivial⟩, ?_⟩
    rw [hcounted]
    exact (hstays hop (by decide) (by decide) (by decide)).stays rfl nofun nofun
  | leaves hop =>
    have hword : linkWord (.received payload) = some none := by simp [linkWord, hop]
    rw [List.append_nil]
    refine ⟨⟨hreceived, trivial⟩, of_connecting false (Machine.latest_concat_of_some hword h)
      (rested_concat h nofun fun payload' heq ↦ ?_) hopen'⟩
    rw [← Event.received.inj heq, hop]
    decide
  | forwards msg hop =>
    refine ⟨⟨hreceived, ⟨hopen', h, payload, rfl, hop⟩, trivial⟩, ?_⟩
    rw [hcounted]
    exact (hstays hop (by decide) (by decide) (by decide)).stays rfl nofun nofun
  | quiet hword =>
    rw [List.append_nil, hcounted]
    exact ⟨⟨hreceived, trivial⟩, hs.stays hword nofun nofun⟩

theorem step (hs : Situated g.phase h) (input : Input) :
    Machine.EachFits (fun h e ↦ Open h ∧ Timely h e) h (Gateway.step botId g input).1 ∧
      Situated (Gateway.step botId g input).2.phase (h ++ (Gateway.step botId g input).1) := by
  unfold Gateway.step
  split
  next waiting hphase => exact (hphase ▸ hs).accepted g.url
  next waiting now hphase =>
    split
    · exact ⟨((hphase ▸ hs).refused g.url (.inl rfl)).1, ended .failed _⟩
    · obtain ⟨hfits, hsituated⟩ := (hphase ▸ hs).refused (e := .waits (g.reconnect.nextDelay now).1)
        g.url (.inr ⟨_, rfl⟩)
      exact ⟨hfits, hsituated nofun⟩
  next hphase => exact ⟨trivial, ended .shutDown _⟩
  next heartbeat payload hphase => exact (hphase ▸ hs).receive hphase botId payload
  next heartbeat hphase => exact (hphase ▸ hs).lost
  next interval hphase =>
    have hconnected := hphase ▸ hs
    refine ⟨⟨⟨hconnected.opened nofun, .inr (hconnected.connected _ rfl)⟩, trivial⟩, ?_⟩
    rw [hphase]
    exact hconnected.stays rfl nofun nofun
  next interval hphase => exact (hphase ▸ hs).lost
  next heartbeat hphase =>
    have hconnected := hphase ▸ hs
    have hlink : link h ≠ none := by simp [hconnected.connected heartbeat rfl]
    exact ⟨⟨⟨hconnected.opened nofun, hlink⟩, trivial⟩, ended .shutDown _⟩
  next => exact ⟨trivial, by simpa using hs⟩

end Situated

end Order

/-- Whatever the server and the network do, each thing the channel does fits what came before, and
nothing follows its end. -/
theorem eachFits_trace (botId : String) (policy : ReconnectPolicy) (inputs : List Input) :
    Machine.EachFits (Fits botId policy) [] (trace botId policy inputs) := by
  have hsituated : Situated (Gateway.new policy).phase [] :=
    .of_connecting false rfl (fun _ _ heq ↦ by simp at heq) ⟨List.not_mem_nil, List.not_mem_nil⟩
  exact Machine.eachFits_and
    (Machine.eachFits_flatten_outputs (I := fun g h ↦ Situated g.phase h)
      (fun _ _ input hs ↦ hs.step input) hsituated inputs)
    (Machine.eachFits_flatten_outputs (I := Recalls policy) (fun _ _ input hg ↦ hg.step input)
      (.new policy) inputs)

section Messages

def received? : Event → Option Value
  | .received payload => some payload
  | _ => none

def forwarded? : Event → Option Message
  | .forwarded msg => some msg
  | _ => none

structure Wanted (botId : String) (msg : Message) : Prop where
  sender : msg.senderId ≠ botId
  text : msg.text ≠ ""
  mention : msg.isGroup = true → msg.isMention = true
  group : msg.groupId.isSome = msg.isGroup

variable {botId : String} {policy : ReconnectPolicy} {g : Gateway}

theorem wanted_of_inbound {d : Value} {msg : Message} (h : inbound botId d = some msg) :
    Wanted botId msg := by
  simp only [inbound, Option.ite_none_left_eq_some] at h
  obtain ⟨hsender, -, hcontent, hmention, heq⟩ := h
  cases heq
  refine ⟨hsender, ?_, ?_, ?_⟩
  · dsimp only
    split
    · exact hcontent
    · assumption
  · intro hgroup
    exact Bool.eq_true_of_not_eq_false fun hnot ↦ hmention ⟨hgroup, hnot⟩
  · dsimp only
    cases (index d "guild_id").asStr <;> rfl

theorem wanted_of_message {payload : Value} {msg : Message}
    (h : message botId payload = some msg) : Wanted botId msg :=
  wanted_of_inbound (Option.ite_none_right_eq_some.mp h).2

theorem forwarded_receive (payload : Value) (g : Gateway) :
    (g.receive botId payload).1.filterMap forwarded? = (message botId payload).toList ∧
      (g.receive botId payload).1.filterMap received? = [] := by
  have hreceipt := receipt botId payload g
  generalize g.receive botId payload = out at hreceipt ⊢
  cases hreceipt with
  | forwards msg _ _ _ hmessage =>
    rw [hmessage]
    exact ⟨rfl, rfl⟩
  | ready _ _ _ hmessage | drops _ _ _ hmessage | pauses _ _ _ hmessage
  | greets _ _ _ _ hmessage | panics _ _ _ hmessage | beats _ _ _ hmessage
  | leaves _ _ _ hmessage | quiet _ _ _ hmessage =>
    rw [hmessage]
    exact ⟨rfl, rfl⟩

theorem forwarded_step (input : Input) : (g.step botId input).1.filterMap forwarded? =
    ((g.step botId input).1.filterMap received?).filterMap (message botId) := by
  unfold Gateway.step
  split
  next => rfl
  next => split <;> rfl
  next => rfl
  next payload _ =>
    obtain ⟨hforwarded, hreceived⟩ := forwarded_receive payload g
    rw [List.filterMap_cons_none rfl, List.filterMap_cons, received?, hreceived, hforwarded]
    change _ = [payload].filterMap (message botId)
    cases hmessage : message botId payload with
    | none =>
      rw [List.filterMap_cons_none hmessage]
      rfl
    | some msg =>
      rw [List.filterMap_cons_some hmessage]
      rfl
  all_goals rfl

/-- The messages that reach the gateway are those of the payloads, each once and in order. -/
theorem forwarded_trace (botId : String) (policy : ReconnectPolicy) (inputs : List Input) :
    (trace botId policy inputs).filterMap forwarded? =
        ((trace botId policy inputs).filterMap received?).filterMap (message botId) ∧
      ∀ msg, .forwarded msg ∈ trace botId policy inputs → Wanted botId msg := by
  have hall : (trace botId policy inputs).filterMap forwarded? =
      ((trace botId policy inputs).filterMap received?).filterMap (message botId) := by
    rw [trace]
    generalize Gateway.new policy = g
    induction inputs generalizing g with
    | nil => rfl
    | cons input inputs ih =>
      rw [Machine.outputs, List.flatten_cons, List.filterMap_append, List.filterMap_append,
        List.filterMap_append, ih, forwarded_step]
  refine ⟨hall, fun msg hmsg ↦ ?_⟩
  have hmem : msg ∈ (trace botId policy inputs).filterMap forwarded? :=
    List.mem_filterMap.mpr ⟨_, hmsg, rfl⟩
  rw [hall] at hmem
  obtain ⟨payload, -, hmessage⟩ := List.mem_filterMap.mp hmem
  exact wanted_of_message hmessage

end Messages

end AdkGateway.Discord
