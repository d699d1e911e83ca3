import AdkGateway.Channel
import AdkGateway.Config

namespace AdkGateway

open Foundation

structure ChannelKey where
  channelType : ChannelType
  accountId : String
  deriving DecidableEq

namespace HotReload

def flag (settings : Json) (key : String) (default : Bool) : Bool :=
  match settings.get key with
  | some (.bool b) => b
  | _ => default

/-- A text of a section, with its default. -/
def text (settings : Json) (key default : String) : String :=
  ((settings.get key).bind Json.asStr).getD default

def accounts (config : ChannelsConfig) (key : String) : List Json :=
  ((config.others.get key).bind Json.asArray).getD []

def accountKey (channelType : ChannelType) (enabledDefault : Bool) (credentials : List String)
    (account : Json) : Option ChannelKey :=
  if flag account "enabled" enabledDefault && credentials.all (text account · "" != "") then
    some ⟨channelType, text account "accountId" "default"⟩
  else none

def telegramKey (tg : TelegramConfig) : Option ChannelKey :=
  if flag tg.others "enabled" true && tg.botToken != "" then
    some ⟨.telegram, text tg.others "accountId" "default"⟩
  else none

def slackKey (sl : SlackConfig) : Option ChannelKey :=
  if flag sl.others "enabled" true && sl.botToken != "" then
    some ⟨.slack, text sl.others "accountId" "default"⟩
  else none

def telegramAccountKey : Json → Option ChannelKey := accountKey .telegram true ["botToken"]

def slackAccountKey : Json → Option ChannelKey := accountKey .slack true ["botToken"]

def whatsappKey : Json → Option ChannelKey :=
  accountKey .whatsapp false ["accessToken", "phoneNumberId"]

def discordKey : Json → Option ChannelKey := accountKey .discord false ["botToken"]

def matrixKey : Json → Option ChannelKey := accountKey .matrix false ["accessToken", "homeserverUrl"]

def enabledKeys (config : ChannelsConfig) : List ChannelKey :=
  (config.telegram.bind telegramKey).toList ++
    (accounts config "telegramAccounts").filterMap telegramAccountKey ++
    (config.slack.bind slackKey).toList ++
    (accounts config "slackAccounts").filterMap slackAccountKey ++
    ((config.others.get "whatsapp").bind whatsappKey).toList ++
    ((config.others.get "discord").bind discordKey).toList ++
    ((config.others.get "matrix").bind matrixKey).toList

def buildChannels (config : ChannelsConfig) (built : ℕ) : KeyedMap ChannelKey ℕ :=
  ((enabledKeys config).zipIdx built).foldl (fun channels entry ↦ channels.insert entry.1 entry.2) ∅

/-- The map of the channels, with how many were built, and those on which `start` and `shutdown`
were called. -/
structure Channels where
  channelMap : KeyedMap ChannelKey ℕ
  built : ℕ
  started : List ℕ
  shutDown : List ℕ

namespace Channels

def rebuild (channels : Channels) (config : ChannelsConfig) : Channels :=
  { channels with
    channelMap := buildChannels config channels.built
    built := channels.built + (enabledKeys config).length }

inductive StartupStep
  | insert (key : ChannelKey) (channel : ℕ)
  | start (channel : ℕ)

def startupSteps (config : ChannelsConfig) : List StartupStep :=
  (buildChannels config 0).entries.flatMap fun e ↦ [.insert e.1 e.2, .start e.2]

def startup (channels : Channels) : StartupStep → Channels
  | .insert key channel => { channels with channelMap := channels.channelMap.insert key channel }
  | .start channel => { channels with started := channels.started ++ [channel] }

end Channels

section Built

variable {keys : List ChannelKey} {built : ℕ} {m : KeyedMap ChannelKey ℕ} {key : ChannelKey} {c : ℕ}

theorem lookup_foldl_zipIdx (keys : List ChannelKey) (built : ℕ) (m : KeyedMap ChannelKey ℕ)
    (key : ChannelKey) :
    let m' := (keys.zipIdx built).foldl (fun channels entry ↦ channels.insert entry.1 entry.2) m
    (key ∉ keys ∧ m'.lookup key = m.lookup key) ∨
      ∃ n < keys.length, keys[n]? = some key ∧ m'.lookup key = some (built + n) := by
  induction keys generalizing built m with
  | nil => exact .inl ⟨List.not_mem_nil, rfl⟩
  | cons k keys ih =>
    simp only [List.zipIdx_cons, List.foldl_cons]
    obtain ⟨hnot, hlookup⟩ | ⟨n, hn, hkey, hlookup⟩ := ih (built + 1) (m.insert k built)
    · by_cases hk : key = k
      · subst hk
        refine .inr ⟨0, Nat.succ_pos _, rfl, ?_⟩
        rw [hlookup, AList.lookup_insert]
        rfl
      · refine .inl ⟨by simp [hk, hnot], ?_⟩
        rw [hlookup, AList.lookup_insert_ne hk]
    · refine .inr ⟨n + 1, Nat.succ_lt_succ hn, hkey, ?_⟩
      rw [hlookup, Nat.add_assoc, Nat.add_comm 1 n]

theorem lookup_buildChannels_isSome (config : ChannelsConfig) (built : ℕ) (key : ChannelKey) :
    ((buildChannels config built).lookup key).isSome ↔ key ∈ enabledKeys config := by
  obtain ⟨hnot, hlookup⟩ | ⟨n, -, hkey, hlookup⟩ :=
    lookup_foldl_zipIdx (enabledKeys config) built ∅ key
  · rw [buildChannels, hlookup, AList.lookup_empty]
    exact iff_of_false Bool.false_ne_true hnot
  · rw [buildChannels, hlookup]
    exact iff_of_true rfl (List.mem_of_getElem? hkey)

theorem key_unique {config : ChannelsConfig} {key' : ChannelKey}
    (h : (buildChannels config built).lookup key = some c)
    (h' : (buildChannels config built).lookup key' = some c) : key = key' := by
  have hnumber : ∀ {k}, (buildChannels config built).lookup k = some c →
      (enabledKeys config)[c - built]? = some k := by
    intro k hk
    obtain ⟨-, hlookup⟩ | ⟨n, -, hkey, hlookup⟩ :=
      lookup_foldl_zipIdx (enabledKeys config) built ∅ k
    · rw [buildChannels, hlookup, AList.lookup_empty] at hk
      cases hk
    · rw [buildChannels, hlookup, Option.some_inj] at hk
      rw [← hk, Nat.add_sub_cancel_left]
      exact hkey
  exact Option.some_inj.mp ((hnumber h).symm.trans (hnumber h'))

theorem nodup_values_buildChannels (config : ChannelsConfig) (built : ℕ) :
    (KeyedMap.values (buildChannels config built)).Nodup := by
  refine List.Nodup.map_on (fun e he e' he' hvalue ↦ ?_) (buildChannels config built).nodupKeys.nodup
  obtain ⟨key, c⟩ := e
  obtain ⟨key', c'⟩ := e'
  obtain rfl : c = c' := hvalue
  rw [key_unique (KeyedMap.lookup_eq_some_iff.mpr he) (KeyedMap.lookup_eq_some_iff.mpr he')]

theorem buildChannels_of_no_keys {config : ChannelsConfig} (h : enabledKeys config = [])
    (built : ℕ) : buildChannels config built = ∅ := by
  rw [buildChannels, h]
  rfl

end Built

end HotReload

end AdkGateway
