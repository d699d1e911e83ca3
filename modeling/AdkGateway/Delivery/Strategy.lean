import AdkGateway.Channel
import AdkGateway.Foundation.Text
import AdkGateway.Foundation.Time

namespace AdkGateway.Delivery

open Foundation Text

structure MessageRef where
  channelType : ChannelType
  accountId : String
  recipientId : String
  messageId : Option String
  replyTo : Option String

structure OutboundMessage where
  channelType : ChannelType
  accountId : String
  recipientId : String
  text : String
  replyTo : Option String
  isPartial : Bool

structure EditMessage where
  channelType : ChannelType
  accountId : String
  messageId : String
  recipientId : String
  text : String

/-- How partial and final texts reach the user, where `σ` is all that a call may read or
change. -/
structure DeliveryStrategy (σ : Type) where
  onPartial : String → MessageRef → σ → Except String Unit × σ
  onComplete : String → MessageRef → σ → Except String Unit × σ

structure ChatMessage where
  id : Option String
  text : String
  deriving DecidableEq

abbrev Chat := List ChatMessage

/-- What the channel answers to the operations of one call, and what the clock says before and
after. The second edit is the retry. -/
structure Outcomes where
  now : DateTime
  sent : Except String (Option String)
  sentAt : DateTime
  edited : Except String Unit
  retried : Except String Unit

def send (chat : Chat) (msg : OutboundMessage) (answer : Except String (Option String)) :
    Except String (Option String) × Chat :=
  match answer with
  | .ok id => (.ok id, chat ++ [⟨id, msg.text⟩])
  | .error e => (.error e, chat)

def edit (chat : Chat) (msg : EditMessage) (answer : Except String Unit) : Except String Unit × Chat :=
  match answer with
  | .ok () =>
    (.ok (), chat.map fun m ↦ if m.id = some msg.messageId then { m with text := msg.text } else m)
  | .error e => (.error e, chat)

structure StreamingDelivery where
  sentMessageId : Option String
  lastEdit : Option DateTime
  latestText : String
  editInterval : DateTime

namespace StreamingDelivery

def new : StreamingDelivery := ⟨none, none, "", DateTime.seconds 1⟩

/-- `str::contains` -/
def contains (s pattern : String) : Bool :=
  s.toList.tails.any fun rest ↦ pattern.toList.isPrefixOf rest

def tryEdit (d : StreamingDelivery) (chat : Chat) (msgRef : MessageRef) (text messageId : String)
    (o : Outcomes) : Except String Unit × Chat :=
  let editMsg : EditMessage := ⟨msgRef.channelType, msgRef.accountId, messageId, msgRef.recipientId, text⟩
  match edit chat editMsg o.edited with
  | (.ok (), chat) => (.ok (), chat)
  | (.error e, chat) =>
    if contains e "message is not modified" then (.ok (), chat)
    else
      let retryText := if d.latestText.isEmpty then text else d.latestText
      edit chat { editMsg with text := retryText } o.retried

def onPartial (d : StreamingDelivery) (chat : Chat) (text : String) (msgRef : MessageRef)
    (o : Outcomes) : Except String Unit × StreamingDelivery × Chat :=
  let d := { d with latestText := text }
  match d.sentMessageId with
  | none =>
    let outbound : OutboundMessage :=
      ⟨msgRef.channelType, msgRef.accountId, msgRef.recipientId, text, msgRef.replyTo, true⟩
    match send chat outbound o.sent with
    | (.error e, chat) => (.error e, d, chat)
    | (.ok sentId, chat) =>
      (.ok (), { d with sentMessageId := sentId.or msgRef.messageId, lastEdit := some o.sentAt }, chat)
  | some messageId =>
    if (d.lastEdit.map fun last ↦ decide (o.now - last < d.editInterval)).getD false then
      (.ok (), d, chat)
    else
      let d := { d with lastEdit := some o.now }
      let (answer, chat) := d.tryEdit chat msgRef text messageId o
      (answer, d, chat)

def onComplete (d : StreamingDelivery) (chat : Chat) (text : String) (msgRef : MessageRef)
    (o : Outcomes) : Except String Unit × StreamingDelivery × Chat :=
  let d := { d with latestText := text }
  match d.sentMessageId with
  | some messageId =>
    let (answer, chat) := d.tryEdit chat msgRef text messageId o
    (answer, d, chat)
  | none =>
    let outbound : OutboundMessage :=
      ⟨msgRef.channelType, msgRef.accountId, msgRef.recipientId, text, msgRef.replyTo, false⟩
    match send chat outbound o.sent with
    | (.error e, chat) => (.error e, d, chat)
    | (.ok _, chat) => (.ok (), d, chat)

end StreamingDelivery

end AdkGateway.Delivery
