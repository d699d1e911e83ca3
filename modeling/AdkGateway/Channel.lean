import Mathlib.Data.List.Basic

namespace AdkGateway

inductive ChannelType
  | telegram
  | slack
  | discord
  | whatsapp
  | matrix
  | signal
  | imessage
  | webhook
  deriving DecidableEq

namespace ChannelType

def toString : ChannelType → String
  | .telegram => "telegram"
  | .slack => "slack"
  | .discord => "discord"
  | .whatsapp => "whatsapp"
  | .matrix => "matrix"
  | .signal => "signal"
  | .imessage => "imessage"
  | .webhook => "webhook"

theorem toString_injective : toString.Injective := by
  intro c c' h
  cases c <;> cases c' <;> first | rfl | exact absurd h (by decide)

end ChannelType

/-- An empty account stands for the account `default`. -/
structure InboundMessage where
  channelType : ChannelType
  accountId : String
  senderId : String

end AdkGateway
