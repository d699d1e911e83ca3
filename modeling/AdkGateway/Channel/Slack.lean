import AdkGateway.Channel
import AdkGateway.Foundation.Machine
import AdkGateway.Foundation.Replace
import AdkGateway.Foundation.Text
import AdkGateway.Foundation.Value
import AdkGateway.Reconnect.Backoff

namespace AdkGateway.Slack

open Foundation Reconnect
open Value (index)

structure Message extends InboundMessage where
  senderName : Option String
  text : String
  isGroup : Bool
  groupId : Option String
  isMention : Bool
  platformMessageId : String

def mention (botId : String) : List Char := ("<@" ++ botId ++ ">").toList

def cleanText (botId text : String) : String :=
  Text.trim (String.ofList (Replace.replaceAll (mention botId) [] text.toList))

def inbound (botId : String) (event : Value) : Option Message :=
  let senderId := (index event "user").asStr.getD ""
  let text := (index event "text").asStr.getD ""
  let channelId := (index event "channel").asStr.getD ""
  let isDm := (index event "channel_type").asStr.getD "channel" = "im"
  let isMention := mention botId <:+: text.toList
  if (index event "type").asStr.getD "" ≠ "message" then none
  else if (index event "subtype").asStr.isSome then none
  else if senderId = "" ∨ senderId = botId then none
  else if text = "" then none
  else if ¬isDm ∧ ¬isMention then none
  else some
    { channelType := .slack
      accountId := ""
      senderId
      senderName := none
      text := if cleanText botId text = "" then text else cleanText botId text
      isGroup := !isDm
      groupId := if isDm then none else some channelId
      isMention
      platformMessageId := (index event "ts").asStr.getD "" }

inductive Frame
  | ack (envelopeId : String)
  | pong (data : List UInt8)
  | close

/-- An attempt to connect is refused if there is no address for it or no connection to that address;
a frame that is sent may fail to be delivered, and a message that is forwarded to be taken. -/
inductive Event
  | obtained (url : String)
  | dialled (url : String)
  | connected
  | refused
  | waits (delay : Duration)
  | gaveUp
  | received (envelope : Value)
  | pinged (data : List UInt8)
  | sent (frame : Frame) (delivered : Bool)
  | forwarded (msg : Message)

/-- An acknowledgement that fails to be delivered does not keep the message back. -/
def handleSlackEnvelope (botId : String) (delivered : Bool) (envelope : Value) : List Event :=
  let envelopeType := (index envelope "type").asStr.getD ""
  let acks := (index envelope "envelope_id").asStr.toList.map fun id ↦
    Event.sent (.ack id) delivered
  if envelopeType = "hello" then []
  else if envelopeType = "disconnect" then []
  else if envelopeType ≠ "events_api" then acks
  else acks ++ (inbound botId (index (index envelope "payload") "event")).toList.map .forwarded

inductive Ending
  | failed
  | shutDown

/-- Between two attempts the channel may be waiting. A connection that has run dry is not read any
more, nor is it opened again. -/
inductive Phase
  | opening (waiting : Bool)
  | connected
  | dry
  | ended (ending : Ending)

structure Client where
  phase : Phase
  reconnect : ReconnectState

/-- What happens to the channel: an attempt to connect, which fails at the address or at the
connection or does not, a frame (a text that is no document among them), the end of a connection,
with a word or without one, or that of the channel. -/
inductive Input
  | noAddress (now : ℕ)
  | noConnection (url : String) (now : ℕ)
  | accepted (url : String)
  | text (envelope : Option Value) (delivered : Bool)
  | ping (data : List UInt8) (delivered : Bool)
  | other
  | down
  | dry
  | shutdown (delivered : Bool)

namespace Client

def new (policy : ReconnectPolicy) : Client := ⟨.opening false, .new policy⟩

def ended (ending : Ending) (c : Client) : Client := { c with phase := .ended ending }

def refuse (c : Client) (now : ℕ) : List Event × Client :=
  if c.reconnect.shouldMarkFailed then ([.refused, .gaveUp], c.ended .failed)
  else ([.refused, .waits (c.reconnect.nextDelay now).1],
    ⟨.opening true, (c.reconnect.nextDelay now).2⟩)

def step (botId : String) (c : Client) (input : Input) : List Event × Client :=
  match c.phase, input with
  | .opening _, .noAddress now => c.refuse now
  | .opening _, .noConnection url now =>
    (.obtained url :: .dialled url :: (c.refuse now).1, (c.refuse now).2)
  | .opening _, .accepted url =>
    ([.obtained url, .dialled url, .connected], ⟨.connected, c.reconnect.reset⟩)
  | .opening true, .shutdown _ => ([], c.ended .shutDown)
  | .connected, .text (some envelope) delivered =>
    (.received envelope :: handleSlackEnvelope botId delivered envelope, c)
  | .connected, .ping data delivered => ([.pinged data, .sent (.pong data) delivered], c)
  | .connected, .down => ([], { c with phase := .opening false })
  | .connected, .dry => ([], { c with phase := .dry })
  | .connected, .shutdown delivered => ([.sent .close delivered], c.ended .shutDown)
  | .dry, .shutdown delivered => ([.sent .close delivered], c.ended .shutDown)
  | _, _ => ([], c)

def trace (botId : String) (policy : ReconnectPolicy) (inputs : List Input) : List Event :=
  (Machine.outputs (step botId) (new policy) inputs).flatten

end Client

open Client

section History

def ackId (envelope : Value) : Option String :=
  if (index envelope "type").asStr.getD "" ∈ ["hello", "disconnect"] then none
  else (index envelope "envelope_id").asStr

def message (botId : String) (envelope : Value) : Option Message :=
  if (index envelope "type").asStr.getD "" = "events_api" then
    inbound botId (index (index envelope "payload") "event")
  else none

def acks (delivered : Bool) (envelope : Value) : List Event :=
  (ackId envelope).toList.map fun id ↦ .sent (.ack id) delivered

def forwards (botId : String) (envelope : Value) : List Event :=
  (message botId envelope).toList.map .forwarded

theorem handleSlackEnvelope_eq (botId : String) (delivered : Bool) (envelope : Value) :
    handleSlackEnvelope botId delivered envelope =
      acks delivered envelope ++ forwards botId envelope := by
  simp only [handleSlackEnvelope, acks, ackId, forwards, message, List.mem_cons, List.not_mem_nil,
    or_false]
  by_cases hhello : (index envelope "type").asStr.getD "" = "hello"
  · simp [hhello]
  by_cases hdisconnect : (index envelope "type").asStr.getD "" = "disconnect"
  · simp [hdisconnect]
  by_cases hevents : (index envelope "type").asStr.getD "" = "events_api" <;>
    simp [hhello, hdisconnect, hevents]

/-- The attempts that have failed since the last one that did not. -/
def refusals (h : List Event) : ℕ :=
  h.foldl (fun n e ↦ match e with
    | .refused => n + 1
    | .connected => 0
    | _ => n) 0

def Open (h : List Event) : Prop := .gaveUp ∉ h ∧ ∀ delivered, .sent .close delivered ∉ h

def Rested (h : List Event) : Prop := h.getLast? ≠ some .refused

/-- What an event follows from: no attempt comes before the wait for the last is over, an address
is dialled that has just been obtained, an envelope that has just come is acknowledged, its message
is forwarded after that, and the channel gives up at the first refusal above the bound. -/
def Follows (botId : String) (policy : ReconnectPolicy) (h : List Event) : Event → Prop
  | .obtained _ => Rested h
  | .dialled url => ∃ before, h = before ++ [.obtained url]
  | .connected => ∃ before url, h = before ++ [.dialled url]
  | .refused => Rested h
  | .waits delay => (∃ before, h = before ++ [.refused]) ∧ refusals h ≤ policy.maxAttempts.toNat ∧
    (policy.initialDelay.nanos ≤ policy.maxDelay.nanos → delay.nanos = policy.delay (refusals h))
  | .gaveUp => (∃ before, h = before ++ [.refused]) ∧ refusals h = policy.maxAttempts.toNat + 1
  | .sent (.ack id) _ => ∃ before envelope,
    h = before ++ [.received envelope] ∧ ackId envelope = some id
  | .sent (.pong data) _ => ∃ before, h = before ++ [.pinged data]
  | .forwarded msg => ∃ before envelope delivered,
    h = before ++ .received envelope :: acks delivered envelope ∧
      message botId envelope = some msg
  | _ => True

def Fits (botId : String) (policy : ReconnectPolicy) (h : List Event) (e : Event) : Prop :=
  Open h ∧ Follows botId policy h e

end History

section Refusals

variable {h : List Event} {e : Event}

theorem refusals_concat (h : List Event) (e : Event) : refusals (h ++ [e]) =
    match e with
    | .refused => refusals h + 1
    | .connected => 0
    | _ => refusals h := by
  rw [refusals, List.foldl_concat]
  cases e <;> rfl

theorem Open.concat (hopen : Open h) (hgaveUp : e ≠ .gaveUp)
    (hclose : ∀ delivered, e ≠ .sent .close delivered) : Open (h ++ [e]) := by
  refine ⟨fun hmem ↦ ?_, fun delivered hmem ↦ ?_⟩
  · obtain hmem | hmem := List.mem_append.mp hmem
    · exact hopen.1 hmem
    · exact hgaveUp (List.mem_singleton.mp hmem).symm
  · obtain hmem | hmem := List.mem_append.mp hmem
    · exact hopen.2 delivered hmem
    · exact hclose delivered (List.mem_singleton.mp hmem).symm

theorem rested_concat (h : List Event) (he : e ≠ .refused) : Rested (h ++ [e]) := by
  rw [Rested, List.getLast?_concat]
  exact fun hlast ↦ he (Option.some.inj hlast)

end Refusals

def Recalls (policy : ReconnectPolicy) (c : Client) (h : List Event) : Prop :=
  (∀ ending, c.phase ≠ .ended ending) → Open h ∧ Rested h ∧
    Tracks policy (refusals h) c.reconnect ∧ refusals h ≤ policy.maxAttempts.toNat

namespace Recalls

variable {botId : String} {policy : ReconnectPolicy} {c : Client} {h : List Event} {e : Event}

theorem new (policy : ReconnectPolicy) : Recalls policy (new policy) [] :=
  fun _ ↦ ⟨⟨List.not_mem_nil, fun _ ↦ List.not_mem_nil⟩, nofun, tracks_new policy, Nat.zero_le _⟩

theorem ended (policy : ReconnectPolicy) (ending : Ending) (c : Client) (h : List Event) :
    Recalls policy (c.ended ending) h := fun hphase ↦ absurd rfl (hphase ending)

theorem concat (hc : Recalls policy c h) (hgaveUp : e ≠ .gaveUp)
    (hclose : ∀ delivered, e ≠ .sent .close delivered) (hrefused : e ≠ .refused)
    (hrefusals : refusals (h ++ [e]) = refusals h) : Recalls policy c (h ++ [e]) := by
  intro hphase
  obtain ⟨hopen, -, hattempts⟩ := hc hphase
  rw [hrefusals]
  exact ⟨hopen.concat hgaveUp hclose, rested_concat h hrefused, hattempts⟩

theorem refuse (hc : Recalls policy c h) (hphase : ∀ ending, c.phase ≠ .ended ending) (now : ℕ) :
    Machine.EachFits (Fits botId policy) h (c.refuse now).1 ∧
      Recalls policy (c.refuse now).2 (h ++ (c.refuse now).1) := by
  obtain ⟨hopen, hrested, htracks, hle⟩ := hc hphase
  have hrefused : refusals (h ++ [.refused]) = refusals h + 1 := refusals_concat h .refused
  have hopen' : Open (h ++ [.refused]) := hopen.concat nofun nofun
  unfold Client.refuse
  split
  next hfailed =>
    have hbound := (htracks.shouldMarkFailed_iff hle).mp hfailed
    exact ⟨⟨⟨hopen, hrested⟩,
      ⟨hopen', ⟨h, rfl⟩, hrefused.trans (congrArg (· + 1) hbound)⟩, trivial⟩,
      ended policy .failed c _⟩
  next hfailed =>
    have hbound := mt (htracks.shouldMarkFailed_iff hle).mpr hfailed
    have hlt : refusals (h ++ [.refused]) ≤ policy.maxAttempts.toNat := by omega
    refine ⟨⟨⟨hopen, hrested⟩, ⟨hopen', ⟨h, rfl⟩, hlt, fun hcap ↦ ?_⟩, trivial⟩, fun _ ↦ ?_⟩
    · rw [hrefused]
      exact htracks.delay_eq hcap now
    · rw [show h ++ [.refused, .waits (c.reconnect.nextDelay now).1] =
        h ++ [.refused] ++ [.waits (c.reconnect.nextDelay now).1] by simp, refusals_concat]
      refine ⟨hopen'.concat nofun nofun, rested_concat _ nofun, ?_, hlt⟩
      rw [hrefused]
      exact htracks.nextDelay now

theorem dial (hc : Recalls policy c h) (hphase : ∀ ending, c.phase ≠ .ended ending) (url : String) :
    Machine.EachFits (Fits botId policy) h [.obtained url, .dialled url] ∧
      Recalls policy c (h ++ [.obtained url, .dialled url]) := by
  have hobtained := hc.concat (e := .obtained url) nofun nofun nofun (refusals_concat h _)
  have hdialled := hobtained.concat (e := .dialled url) nofun nofun nofun (refusals_concat _ _)
  rw [List.append_assoc] at hdialled
  obtain ⟨hopen, hrested, -⟩ := hc hphase
  exact ⟨⟨⟨hopen, hrested⟩, ⟨(hobtained hphase).1, h, rfl⟩, trivial⟩, hdialled⟩

theorem handle (hc : Recalls policy c h) (hphase : ∀ ending, c.phase ≠ .ended ending)
    (delivered : Bool) (envelope : Value) :
    Machine.EachFits (Fits botId policy) h
        (.received envelope :: handleSlackEnvelope botId delivered envelope) ∧
      Recalls policy c
        (h ++ .received envelope :: handleSlackEnvelope botId delivered envelope) := by
  have hreceived := hc.concat (e := .received envelope) nofun nofun nofun (refusals_concat h _)
  have hacks : Machine.EachFits (Fits botId policy) (h ++ [.received envelope])
        (acks delivered envelope) ∧
      Recalls policy c (h ++ [.received envelope] ++ acks delivered envelope) := by
    rw [acks]
    cases hid : ackId envelope with
    | none => exact ⟨trivial, by simpa using hreceived⟩
    | some id =>
      exact ⟨⟨⟨(hreceived hphase).1, h, envelope, rfl, hid⟩, trivial⟩,
        hreceived.concat nofun nofun nofun (refusals_concat _ _)⟩
  obtain ⟨hacksFit, hacked⟩ := hacks
  have hforwards : Machine.EachFits (Fits botId policy)
        (h ++ [.received envelope] ++ acks delivered envelope) (forwards botId envelope) ∧
      Recalls policy c
        (h ++ [.received envelope] ++ acks delivered envelope ++ forwards botId envelope) := by
    rw [forwards]
    cases hmsg : message botId envelope with
    | none => exact ⟨trivial, by simpa using hacked⟩
    | some msg =>
      exact ⟨⟨⟨(hacked hphase).1, h, envelope, delivered, by simp, hmsg⟩, trivial⟩,
        hacked.concat nofun nofun nofun (refusals_concat _ _)⟩
  obtain ⟨hforwardsFit, hforwarded⟩ := hforwards
  rw [handleSlackEnvelope_eq]
  refine ⟨⟨⟨(hc hphase).1, trivial⟩, (Machine.eachFits_append _).mpr ⟨hacksFit, hforwardsFit⟩⟩, ?_⟩
  simpa using hforwarded

theorem step (hc : Recalls policy c h) (input : Input) :
    Machine.EachFits (Fits botId policy) h (Client.step botId c input).1 ∧
      Recalls policy (Client.step botId c input).2 (h ++ (Client.step botId c input).1) := by
  have hquiet (phase : Phase) (hphase : ∀ ending, c.phase ≠ .ended ending) :
      Machine.EachFits (Fits botId policy) h [] ∧ Recalls policy { c with phase } (h ++ []) := by
    rw [List.append_nil]
    exact ⟨trivial, fun _ ↦ hc hphase⟩
  unfold Client.step
  split
  next waiting now hphase => exact hc.refuse (by simp [hphase]) now
  next waiting url now hphase =>
    obtain ⟨hdials, hdialled⟩ := hc.dial (by simp [hphase]) url
    obtain ⟨hfits, hrecalls⟩ := hdialled.refuse (by simp [hphase]) now
    rw [List.append_assoc] at hrecalls
    exact ⟨⟨hdials.1, hdials.2.1, by simpa using hfits⟩, hrecalls⟩
  next waiting url hphase =>
    obtain ⟨hdials, hdialled⟩ := hc.dial (by simp [hphase]) url
    obtain ⟨hopen, -, htracks, -⟩ := hdialled (by simp [hphase])
    refine ⟨⟨hdials.1, hdials.2.1, ⟨by simpa using hopen, h ++ [.obtained url], url, rfl⟩, trivial⟩,
      fun _ ↦ ?_⟩
    rw [show h ++ [.obtained url, .dialled url, .connected] =
      h ++ [.obtained url, .dialled url] ++ [.connected] by simp, refusals_concat]
    exact ⟨hopen.concat nofun nofun, rested_concat _ nofun, htracks.reset, Nat.zero_le _⟩
  next delivered hphase =>
    rw [List.append_nil]
    exact ⟨trivial, ended policy .shutDown c h⟩
  next envelope delivered hphase => exact hc.handle (by simp [hphase]) delivered envelope
  next data delivered hphase =>
    have hpinged := hc.concat (e := .pinged data) nofun nofun nofun (refusals_concat h _)
    have hponged := hpinged.concat (e := .sent (.pong data) delivered) nofun nofun nofun
      (refusals_concat _ _)
    rw [List.append_assoc] at hponged
    exact ⟨⟨⟨(hc (by simp [hphase])).1, trivial⟩,
      ⟨(hpinged (by simp [hphase])).1, h, rfl⟩, trivial⟩, hponged⟩
  next hphase => exact hquiet (.opening false) (by simp [hphase])
  next hphase => exact hquiet .dry (by simp [hphase])
  next delivered hphase =>
    exact ⟨⟨⟨(hc (by simp [hphase])).1, trivial⟩, trivial⟩, ended policy .shutDown c _⟩
  next delivered hphase =>
    exact ⟨⟨⟨(hc (by simp [hphase])).1, trivial⟩, trivial⟩, ended policy .shutDown c _⟩
  next => exact ⟨trivial, by simpa using hc⟩

end Recalls

/-- Whatever the server and the network do, each thing the channel does follows from what came
before, and nothing follows its end. -/
theorem follows_trace (botId : String) (policy : ReconnectPolicy) (inputs : List Input) :
    Machine.EachFits (Fits botId policy) [] (trace botId policy inputs) :=
  Machine.eachFits_flatten_outputs (I := Recalls policy) (fun _ _ input hc ↦ hc.step input)
    (.new policy) inputs

section Conversation

def received? : Event → Option Value
  | .received envelope => some envelope
  | _ => none

inductive Talk
  | envelope (v : Value)
  | ack (envelopeId : String)
  | message (msg : Message)

/-- What an event says, an acknowledgement whether it was delivered or not. -/
def talk? : Event → Option Talk
  | .received v => some (.envelope v)
  | .sent (.ack id) _ => some (.ack id)
  | .forwarded msg => some (.message msg)
  | _ => none

def talk (botId : String) (envelope : Value) : List Talk :=
  .envelope envelope ::
    ((ackId envelope).toList.map .ack ++ (message botId envelope).toList.map .message)

/-- A message for the bot: from someone else, with a text, and by name if it is not a direct one. -/
structure Wanted (botId : String) (msg : Message) : Prop where
  sender : msg.senderId ≠ "" ∧ msg.senderId ≠ botId
  text : msg.text ≠ ""
  mention : msg.isGroup = true → msg.isMention = true
  group : msg.groupId.isSome = msg.isGroup

variable {botId : String} {policy : ReconnectPolicy} {c : Client}

theorem wanted_of_inbound {event : Value} {msg : Message} (h : inbound botId event = some msg) :
    Wanted botId msg := by
  simp only [inbound, Option.ite_none_left_eq_some, not_or] at h
  obtain ⟨-, -, hsender, htext, hmention, heq⟩ := h
  cases heq
  refine ⟨hsender, ?_, ?_, ?_⟩
  · dsimp only
    split
    · exact htext
    · assumption
  · intro hgroup
    by_contra hnot
    exact hmention ⟨by simpa using hgroup, by simpa using hnot⟩
  · dsimp only
    split <;> simp_all

theorem talk_handle (botId : String) (delivered : Bool) (envelope : Value) :
    (handleSlackEnvelope botId delivered envelope).filterMap talk? =
        (ackId envelope).toList.map .ack ++ (message botId envelope).toList.map .message ∧
      (handleSlackEnvelope botId delivered envelope).filterMap received? = [] := by
  rw [handleSlackEnvelope_eq, acks, forwards]
  cases ackId envelope <;> cases message botId envelope <;> exact ⟨rfl, rfl⟩

theorem talk_refuse (c : Client) (now : ℕ) : (c.refuse now).1.filterMap talk? = [] ∧
    (c.refuse now).1.filterMap received? = [] := by
  unfold Client.refuse
  split <;> exact ⟨rfl, rfl⟩

theorem talk_step (input : Input) : (c.step botId input).1.filterMap talk? =
    ((c.step botId input).1.filterMap received?).flatMap (talk botId) := by
  unfold Client.step
  split
  next waiting now _ =>
    obtain ⟨htalk, hreceived⟩ := talk_refuse c now
    rw [htalk, hreceived]
    rfl
  next waiting url now _ =>
    obtain ⟨htalk, hreceived⟩ := talk_refuse c now
    have hdials : Event.obtained url :: .dialled url :: (c.refuse now).1 =
      [.obtained url, .dialled url] ++ (c.refuse now).1 := rfl
    rw [hdials, List.filterMap_append, List.filterMap_append, htalk, hreceived]
    rfl
  next => rfl
  next => rfl
  next envelope delivered _ =>
    obtain ⟨htalk, hreceived⟩ := talk_handle botId delivered envelope
    have hsaid : talk? (.received envelope) = some (.envelope envelope) := rfl
    have hcame : received? (.received envelope) = some envelope := rfl
    dsimp only
    rw [List.filterMap_cons_some hsaid, htalk, List.filterMap_cons_some hcame, hreceived]
    exact (List.flatMap_singleton (talk botId) envelope).symm
  all_goals rfl

/-- The envelopes that come are answered and their messages forwarded, each once and in order. -/
theorem talk_trace (botId : String) (policy : ReconnectPolicy) (inputs : List Input) :
    (trace botId policy inputs).filterMap talk? =
        ((trace botId policy inputs).filterMap received?).flatMap (talk botId) ∧
      ∀ msg, .forwarded msg ∈ trace botId policy inputs → Wanted botId msg := by
  have hall : (trace botId policy inputs).filterMap talk? =
      ((trace botId policy inputs).filterMap received?).flatMap (talk botId) := by
    rw [trace]
    generalize Client.new policy = c
    induction inputs generalizing c with
    | nil => rfl
    | cons input inputs ih =>
      rw [Machine.outputs, List.flatten_cons, List.filterMap_append, List.filterMap_append,
        List.flatMap_append, ih, talk_step]
  refine ⟨hall, fun msg hmsg ↦ ?_⟩
  have hmem : .message msg ∈ (trace botId policy inputs).filterMap talk? :=
    List.mem_filterMap.mpr ⟨_, hmsg, rfl⟩
  rw [hall] at hmem
  obtain ⟨envelope, -, hmem⟩ := List.mem_flatMap.mp hmem
  have hmessage : message botId envelope = some msg := by simpa [talk] using hmem
  exact wanted_of_inbound (Option.ite_none_right_eq_some.mp hmessage).2

end Conversation

end AdkGateway.Slack
