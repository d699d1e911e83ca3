import AdkGateway.Channel
import AdkGateway.Foundation.Separator

namespace AdkGateway.SessionBridge

open Foundation

def accountOrDefault (msg : InboundMessage) : String :=
  if msg.accountId = "" then "default" else msg.accountId

def sessionKey (dmScope : String) (msg : InboundMessage) : String :=
  match dmScope with
  | "main" => "main"
  | "per-peer" => msg.senderId
  | "per-channel-peer" => msg.channelType.toString ++ ":" ++ msg.senderId
  | "per-account-channel-peer" =>
    accountOrDefault msg ++ ":" ++ msg.channelType.toString ++ ":" ++ msg.senderId
  | _ => msg.channelType.toString ++ ":" ++ msg.senderId

/-- Two messages agree on what a scope names. -/
def SameComponents (dmScope : String) (msg msg' : InboundMessage) : Prop :=
  match dmScope with
  | "main" => True
  | "per-peer" => msg.senderId = msg'.senderId
  | "per-account-channel-peer" => accountOrDefault msg = accountOrDefault msg' ∧
    msg.channelType = msg'.channelType ∧ msg.senderId = msg'.senderId
  | _ => msg.channelType = msg'.channelType ∧ msg.senderId = msg'.senderId

/-- The account of the second message says the account and the channel of the first, and the
sender of the first says the rest. -/
def AccountOverlaps (msg msg' : InboundMessage) : Prop :=
  Separator.Overlaps ':' (accountOrDefault msg).toList msg.channelType.toString.toList
    msg.senderId.toList (accountOrDefault msg').toList msg'.channelType.toString.toList
    msg'.senderId.toList

theorem separator_notMem_channel (c : ChannelType) : ':' ∉ c.toString.toList := by
  cases c <;> decide

theorem toList_channelKey (c : ChannelType) (sender : String) :
    (c.toString ++ ":" ++ sender).toList =
      Separator.join ':' c.toString.toList sender.toList := by
  simp [Separator.join]

theorem channelKey_eq_iff (c c' : ChannelType) (sender sender' : String) :
    c.toString ++ ":" ++ sender = c'.toString ++ ":" ++ sender' ↔ c = c' ∧ sender = sender' := by
  rw [← String.toList_inj, toList_channelKey, toList_channelKey,
    Separator.join_inj (separator_notMem_channel c) (separator_notMem_channel c'),
    String.toList_inj, String.toList_inj, ChannelType.toString_injective.eq_iff]

theorem toList_accountKey (account : String) (c : ChannelType) (sender : String) :
    (account ++ ":" ++ c.toString ++ ":" ++ sender).toList =
      Separator.join ':' account.toList (Separator.join ':' c.toString.toList sender.toList) := by
  simp [Separator.join]

theorem accountKey_eq_iff (msg msg' : InboundMessage) :
    accountOrDefault msg ++ ":" ++ msg.channelType.toString ++ ":" ++ msg.senderId =
        accountOrDefault msg' ++ ":" ++ msg'.channelType.toString ++ ":" ++ msg'.senderId ↔
      (accountOrDefault msg = accountOrDefault msg' ∧ msg.channelType = msg'.channelType ∧
        msg.senderId = msg'.senderId) ∨ AccountOverlaps msg msg' ∨ AccountOverlaps msg' msg := by
  rw [← String.toList_inj, toList_accountKey, toList_accountKey,
    Separator.join_join_eq_iff (separator_notMem_channel _) (separator_notMem_channel _),
    String.toList_inj, String.toList_inj, String.toList_inj,
    ChannelType.toString_injective.eq_iff]
  rfl

theorem AccountOverlaps.ne {msg msg' : InboundMessage} (h : AccountOverlaps msg msg') :
    accountOrDefault msg ≠ accountOrDefault msg' :=
  fun heq ↦ Separator.Overlaps.ne h (congrArg String.toList heq)

theorem sessionKey_identifies_iff (dmScope : String) (msg msg' : InboundMessage) :
    (sessionKey dmScope msg = sessionKey dmScope msg' ↔ SameComponents dmScope msg msg') ↔
      (dmScope = "per-account-channel-peer" →
        ¬ AccountOverlaps msg msg' ∧ ¬ AccountOverlaps msg' msg) := by
  by_cases hscope : dmScope = "per-account-channel-peer"
  · subst hscope
    simp only [sessionKey, SameComponents, accountKey_eq_iff, true_imp_iff]
    constructor
    · intro h
      refine ⟨fun hover ↦ ?_, fun hover ↦ ?_⟩
      · exact hover.ne (h.mp (.inr (.inl hover))).1
      · exact hover.ne (h.mp (.inr (.inr hover))).1.symm
    · rintro ⟨hright, hleft⟩
      simp only [hright, hleft, or_false]
  · refine iff_of_true ?_ fun h ↦ absurd h hscope
    unfold sessionKey SameComponents
    split
    · exact iff_of_true rfl trivial
    · rfl
    · exact channelKey_eq_iff _ _ _ _
    · exact absurd rfl hscope
    · next hmain hpeer _ haccount =>
      split
      · exact absurd rfl hmain
      · exact absurd rfl hpeer
      · exact absurd rfl haccount
      · exact channelKey_eq_iff _ _ _ _

def slackUser : InboundMessage := ⟨.telegram, "x", "slack:y"⟩

def telegramAccount : InboundMessage := ⟨.slack, "x:telegram", "y"⟩

theorem not_sessionKey_identifies :
    ¬ (sessionKey "per-account-channel-peer" slackUser =
        sessionKey "per-account-channel-peer" telegramAccount ↔
      SameComponents "per-account-channel-peer" slackUser telegramAccount) := by
  intro h
  have hkey : sessionKey "per-account-channel-peer" slackUser =
      sessionKey "per-account-channel-peer" telegramAccount := by decide
  exact absurd (h.mp hkey).1 (by decide)

end AdkGateway.SessionBridge
