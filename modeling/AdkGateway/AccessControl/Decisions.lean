import AdkGateway.Channel
import AdkGateway.Config
import Mathlib.Data.List.Induction

namespace AdkGateway.AccessControl

open Foundation

inductive AuthDecision
  | allowed
  | denied (reason : String)
  | requiresPairing
  deriving DecidableEq

structure Role where
  name : String
  permissions : List String
  scopes : List String

structure AuthIdentity where
  canonicalId : String
  platformId : String
  channelType : ChannelType

structure ChannelPolicy where
  dmPolicy : DmPolicy
  allowList : List String
  roles : List Role

/-- A set of strings is listed in the order in which it yields them. -/
structure AccessControlBridge where
  roles : KeyedMap String Role
  userRoles : KeyedMap String (List String)
  pairedUsers : List String
  channelPolicies : KeyedMap String ChannelPolicy
  defaultPolicy : ChannelPolicy

namespace AccessControlBridge

def role (rc : RoleConfig) : Role := ⟨rc.name, rc.permissions, rc.scopes⟩

/-- `entry(user).or_default().insert(role)` -/
def addUserRole (userRoles : KeyedMap String (List String)) (userId roleName : String) :
    KeyedMap String (List String) :=
  userRoles.insert userId (((userRoles.lookup userId).getD []).insert roleName)

def loadAuthConfig (auth : AuthConfig) (roles : KeyedMap String Role)
    (userRoles : KeyedMap String (List String)) :
    KeyedMap String Role × KeyedMap String (List String) :=
  (auth.roles.foldl (fun roles rc ↦ roles.insert rc.name (role rc)) roles,
    auth.userMappings.foldl (fun userRoles mapping ↦
      addUserRole userRoles mapping.userId mapping.role) userRoles)

def buildChannelPolicyFromOverride (overrideCfg : ChannelAuthOverride) (_config : GatewayConfig) :
    ChannelPolicy where
  dmPolicy := overrideCfg.dmPolicy.getD .pairing
  allowList := []
  roles := overrideCfg.roles.map role

def new (config : GatewayConfig) : AccessControlBridge :=
  let loaded := config.auth.elim (∅, ∅) fun auth ↦ loadAuthConfig auth ∅ ∅
  let channelPolicies := config.auth.elim ∅ fun auth ↦
    auth.channelOverrides.entries.foldl (fun policies entry ↦
      policies.insert entry.1 (buildChannelPolicyFromOverride entry.2 config)) ∅
  let channelPolicies := config.channels.telegram.elim channelPolicies fun tg ↦
    KeyedMap.orInsert "telegram" ⟨tg.dmPolicy, tg.allowFrom, []⟩ channelPolicies
  let channelPolicies := config.channels.slack.elim channelPolicies fun sl ↦
    KeyedMap.orInsert "slack" ⟨sl.dmPolicy, sl.allowFrom, []⟩ channelPolicies
  { roles := loaded.1
    userRoles := loaded.2
    pairedUsers := []
    channelPolicies := channelPolicies
    defaultPolicy := ⟨.pairing, [], []⟩ }

def mapIdentity (msg : InboundMessage) : AuthIdentity :=
  ⟨msg.channelType.toString ++ ":" ++ msg.senderId, msg.senderId, msg.channelType⟩

def evaluatePolicy (policy : ChannelPolicy) (identity : AuthIdentity) (pairedUsers : List String) :
    AuthDecision :=
  match policy.dmPolicy with
  | .open => .allowed
  | .allowlist =>
    if policy.allowList.contains identity.canonicalId || policy.allowList.contains identity.platformId
    then .allowed
    else .denied "user not in allow list"
  | .pairing => if pairedUsers.contains identity.canonicalId then .allowed else .requiresPairing
  | .disabled => .denied "DMs are disabled for this channel"

def checkMessageAccess (bridge : AccessControlBridge) (msg : InboundMessage) : AuthDecision :=
  let policy := (bridge.channelPolicies.lookup msg.channelType.toString).getD bridge.defaultPolicy
  evaluatePolicy policy (mapIdentity msg) bridge.pairedUsers

def markPaired (bridge : AccessControlBridge) (canonicalId : String) : AccessControlBridge :=
  { bridge with
    pairedUsers := bridge.pairedUsers.insert canonicalId
    userRoles := addUserRole bridge.userRoles canonicalId "paired" }

def rebuild (bridge : AccessControlBridge) (config : GatewayConfig) : AccessControlBridge :=
  let loaded := config.auth.elim (∅, ∅) fun auth ↦ loadAuthConfig auth ∅ ∅
  let channelPolicies := config.auth.elim ∅ fun auth ↦
    auth.channelOverrides.entries.foldl (fun policies entry ↦
      policies.insert entry.1 (buildChannelPolicyFromOverride entry.2 config)) ∅
  let channelPolicies := config.channels.telegram.elim channelPolicies fun tg ↦
    KeyedMap.orInsert "telegram" ⟨tg.dmPolicy, tg.allowFrom, []⟩ channelPolicies
  let channelPolicies := config.channels.slack.elim channelPolicies fun sl ↦
    KeyedMap.orInsert "slack" ⟨sl.dmPolicy, sl.allowFrom, []⟩ channelPolicies
  let userRoles := bridge.pairedUsers.foldl (fun userRoles canonicalId ↦
    addUserRole userRoles canonicalId "paired") loaded.2
  { bridge with
    roles := loaded.1
    userRoles := userRoles
    channelPolicies := channelPolicies }

end AccessControlBridge

end AdkGateway.AccessControl

namespace AdkGateway.AccessControl.AccessControlBridge

open Foundation

inductive Op
  | rebuild (config : GatewayConfig)
  | markPaired (canonicalId : String)

def apply (bridge : AccessControlBridge) : Op → AccessControlBridge
  | .rebuild config => bridge.rebuild config
  | .markPaired canonicalId => bridge.markPaired canonicalId

def run (bridge : AccessControlBridge) (ops : List Op) : AccessControlBridge := ops.foldl apply bridge

def latest (config : GatewayConfig) (ops : List Op) : GatewayConfig :=
  ops.foldl (fun config op ↦ match op with
    | .rebuild config' => config'
    | .markPaired _ => config) config

def marked (ops : List Op) : List String :=
  ops.filterMap fun | .rebuild _ => none | .markPaired canonicalId => some canonicalId

section Rebuild

variable {bridge bridge' : AccessControlBridge} {config : GatewayConfig} {ops : List Op}

structure Alike (bridge bridge' : AccessControlBridge) : Prop where
  policies : bridge.channelPolicies = bridge'.channelPolicies
  default : bridge.defaultPolicy = bridge'.defaultPolicy
  paired : bridge.pairedUsers = bridge'.pairedUsers

theorem Alike.decides (h : Alike bridge bridge') (msg : InboundMessage) :
    bridge.checkMessageAccess msg = bridge'.checkMessageAccess msg := by
  simp only [checkMessageAccess, h.policies, h.default, h.paired]

theorem Alike.markPaired (h : Alike bridge bridge') (canonicalId : String) :
    Alike (bridge.markPaired canonicalId) (bridge'.markPaired canonicalId) :=
  ⟨h.policies, h.default, congrArg (List.insert canonicalId) h.paired⟩

/-- The bridge built anew, on which the same users are marked as paired. -/
def fresh (config : GatewayConfig) (canonicalIds : List String) : AccessControlBridge :=
  canonicalIds.foldl AccessControlBridge.markPaired (new config)

theorem fresh_concat (config : GatewayConfig) (canonicalIds : List String) (canonicalId : String) :
    fresh config (canonicalIds ++ [canonicalId]) =
      (fresh config canonicalIds).markPaired canonicalId := List.foldl_append

theorem fresh_fields (config : GatewayConfig) (canonicalIds : List String) :
    (fresh config canonicalIds).channelPolicies = (new config).channelPolicies ∧
      (fresh config canonicalIds).defaultPolicy = ⟨.pairing, [], []⟩ := by
  induction canonicalIds using List.reverseRecOn with
  | nil => exact ⟨rfl, rfl⟩
  | append_singleton canonicalIds canonicalId ih =>
    rw [fresh_concat]
    exact ih

theorem pairedUsers_fresh (config config' : GatewayConfig) (canonicalIds : List String) :
    (fresh config canonicalIds).pairedUsers = (fresh config' canonicalIds).pairedUsers := by
  induction canonicalIds using List.reverseRecOn with
  | nil => rfl
  | append_singleton canonicalIds canonicalId ih =>
    rw [fresh_concat, fresh_concat]
    exact congrArg (List.insert canonicalId) ih

theorem alike_rebuild {config' : GatewayConfig} {canonicalIds : List String}
    (h : Alike bridge (fresh config canonicalIds)) :
    Alike (bridge.rebuild config') (fresh config' canonicalIds) := by
  obtain ⟨hpolicies, hdefault⟩ := fresh_fields config' canonicalIds
  refine ⟨hpolicies.symm, ?_, ?_⟩
  · exact h.default.trans ((fresh_fields config canonicalIds).2.trans hdefault.symm)
  · exact h.paired.trans (pairedUsers_fresh config config' canonicalIds)

theorem alike_run (config : GatewayConfig) (ops : List Op) :
    Alike ((new config).run ops) (fresh (latest config ops) (marked ops)) := by
  unfold run latest marked
  induction ops using List.reverseRecOn with
  | nil => exact ⟨rfl, rfl, rfl⟩
  | append_singleton ops op ih =>
    rw [List.foldl_append, List.foldl_append, List.filterMap_append]
    cases op with
    | rebuild config' =>
      rw [List.filterMap_cons_none rfl, List.filterMap_nil, List.append_nil]
      exact alike_rebuild ih
    | markPaired canonicalId =>
      have hmarked := ih.markPaired canonicalId
      rw [← fresh_concat] at hmarked
      exact hmarked

/-- After any rebuilds and pairings, the bridge decides as one built anew. -/
theorem checkMessageAccess_run (config : GatewayConfig) (ops : List Op) (msg : InboundMessage) :
    ((new config).run ops).checkMessageAccess msg =
      (fresh (latest config ops) (marked ops)).checkMessageAccess msg :=
  (alike_run config ops).decides msg

end Rebuild

def ownPolicy (config : GatewayConfig) (channelType : ChannelType) : ChannelPolicy :=
  match channelType with
  | .telegram => config.channels.telegram.elim ⟨.pairing, [], []⟩ fun tg ↦ ⟨tg.dmPolicy, tg.allowFrom, []⟩
  | .slack => config.channels.slack.elim ⟨.pairing, [], []⟩ fun sl ↦ ⟨sl.dmPolicy, sl.allowFrom, []⟩
  | _ => ⟨.pairing, [], []⟩

def channelOverride (config : GatewayConfig) (channelType : ChannelType) :
    Option ChannelAuthOverride :=
  config.auth.bind fun auth ↦ auth.channelOverrides.lookup channelType.toString

def listed (policy : ChannelPolicy) (identity : AuthIdentity) : Bool :=
  policy.allowList.contains identity.canonicalId || policy.allowList.contains identity.platformId

section Overrides

theorem lookup_overrides (config : GatewayConfig) (channelType : ChannelType) :
    (config.auth.elim ∅ fun auth ↦ auth.channelOverrides.entries.foldl (fun policies entry ↦
      policies.insert entry.1 (buildChannelPolicyFromOverride entry.2 config))
        (∅ : KeyedMap String ChannelPolicy)).lookup channelType.toString =
      (channelOverride config channelType).map (buildChannelPolicyFromOverride · config) := by
  unfold channelOverride
  cases config.auth with
  | none => rfl
  | some auth =>
    refine (KeyedMap.lookup_foldl_insert (buildChannelPolicyFromOverride · config)
      auth.channelOverrides ∅ channelType.toString).trans ?_
    simp

theorem policy_fresh (config : GatewayConfig) (canonicalIds : List String)
    (channelType : ChannelType) :
    ((fresh config canonicalIds).channelPolicies.lookup channelType.toString).getD
        (fresh config canonicalIds).defaultPolicy =
      ((channelOverride config channelType).map
        (buildChannelPolicyFromOverride · config)).getD (ownPolicy config channelType) := by
  obtain ⟨hpolicies, hdefault⟩ := fresh_fields config canonicalIds
  rw [hpolicies, hdefault, ← lookup_overrides]
  simp only [new]
  generalize config.auth.elim (∅ : KeyedMap String ChannelPolicy) _ = policies
  unfold ownPolicy
  cases config.channels.telegram <;> cases config.channels.slack <;> cases channelType <;>
    simp [ChannelType.toString, KeyedMap.lookup_orInsert_if]

end Overrides

/-- An override without a DM policy leaves the channel's own decision, and one that
sets the allowlist admits the senders on the channel's own list. -/
def Refines (config : GatewayConfig) (canonicalIds : List String) (msg : InboundMessage) : Prop :=
  ∀ overrideCfg, channelOverride config msg.channelType = some overrideCfg →
    (overrideCfg.dmPolicy = none → (fresh config canonicalIds).checkMessageAccess msg =
      evaluatePolicy (ownPolicy config msg.channelType) (mapIdentity msg)
        (fresh config canonicalIds).pairedUsers) ∧
    (overrideCfg.dmPolicy = some .allowlist →
      ((fresh config canonicalIds).checkMessageAccess msg = .allowed ↔
        listed (ownPolicy config msg.channelType) (mapIdentity msg)))

/-- An override without a DM policy stands over a channel whose own policy treats
the sender as pairing does, one that sets the allowlist over a list without the sender. -/
def Harmless (config : GatewayConfig) (paired : Bool) (msg : InboundMessage) : Prop :=
  ∀ overrideCfg, channelOverride config msg.channelType = some overrideCfg →
    let own := ownPolicy config msg.channelType
    match overrideCfg.dmPolicy with
    | none =>
      match own.dmPolicy with
      | .pairing => True
      | .open => paired
      | .allowlist => paired ∧ listed own (mapIdentity msg)
      | .disabled => False
    | some .allowlist => ¬ listed own (mapIdentity msg)
    | some _ => True

section Harmless

variable {config : GatewayConfig} {msg : InboundMessage} {overrideCfg : ChannelAuthOverride}

theorem contains_pairedUsers_fresh (config : GatewayConfig) (canonicalIds : List String)
    (canonicalId : String) :
    (fresh config canonicalIds).pairedUsers.contains canonicalId = canonicalIds.contains canonicalId := by
  induction canonicalIds using List.reverseRecOn with
  | nil => rfl
  | append_singleton canonicalIds canonicalId' ih =>
    rw [fresh_concat]
    simp only [markPaired, List.contains_eq_mem, List.mem_insert_iff, List.mem_append,
      List.mem_singleton, decide_eq_decide] at ih ⊢
    rw [ih, or_comm]

theorem checkMessageAccess_of_override (canonicalIds : List String)
    (h : channelOverride config msg.channelType = some overrideCfg) :
    (fresh config canonicalIds).checkMessageAccess msg =
      evaluatePolicy (buildChannelPolicyFromOverride overrideCfg config) (mapIdentity msg)
        (fresh config canonicalIds).pairedUsers := by
  simp only [checkMessageAccess, policy_fresh, h, Option.map_some, Option.getD_some]

/-- Pairing decides as the policy does if and only if the sender is let in by both
or has yet to be paired for both. -/
theorem evaluatePolicy_pairing_iff (policy : ChannelPolicy) (roles : List Role)
    (identity : AuthIdentity) (pairedUsers : List String) :
    evaluatePolicy ⟨.pairing, [], roles⟩ identity pairedUsers =
        evaluatePolicy policy identity pairedUsers ↔
      match policy.dmPolicy with
      | .pairing => True
      | .open => pairedUsers.contains identity.canonicalId
      | .allowlist => pairedUsers.contains identity.canonicalId ∧ listed policy identity
      | .disabled => False := by
  obtain ⟨dmPolicy, allowList, roles'⟩ := policy
  simp only [evaluatePolicy, listed]
  cases pairedUsers.contains identity.canonicalId <;>
    cases allowList.contains identity.canonicalId || allowList.contains identity.platformId <;>
      cases dmPolicy <;> simp

theorem evaluatePolicy_allowlist (roles : List Role) (identity : AuthIdentity)
    (pairedUsers : List String) : evaluatePolicy ⟨.allowlist, [], roles⟩ identity pairedUsers =
      .denied "user not in allow list" := rfl

end Harmless

theorem refines_iff_harmless (config : GatewayConfig) (canonicalIds : List String)
    (msg : InboundMessage) : Refines config canonicalIds msg ↔
      Harmless config (canonicalIds.contains (mapIdentity msg).canonicalId) msg := by
  refine forall_congr' fun overrideCfg ↦ forall_congr' fun hoverride ↦ ?_
  rw [checkMessageAccess_of_override canonicalIds hoverride]
  obtain ⟨dmPolicy, roles⟩ := overrideCfg
  cases dmPolicy with
  | none =>
    have hiff := evaluatePolicy_pairing_iff (ownPolicy config msg.channelType)
      (roles.map role) (mapIdentity msg) (fresh config canonicalIds).pairedUsers
    rw [contains_pairedUsers_fresh] at hiff
    simpa [buildChannelPolicyFromOverride] using hiff
  | some dmPolicy =>
    cases dmPolicy with
    | allowlist => simp [buildChannelPolicyFromOverride, evaluatePolicy_allowlist]
    | _ => simp

def disabledTelegram : GatewayConfig where
  agent := .null
  agents := ⟨[], .null⟩
  gateway := ⟨18789, 30, .null⟩
  channels := ⟨some ⟨"token", .disabled, [], .null⟩, none, .null⟩
  routing := ⟨[]⟩
  session := ⟨"per-channel-peer", ⟨"daily", some 4, some 120⟩, .null⟩
  hooks := .null
  cron := ⟨[]⟩
  memory := none
  rag := none
  auth := some ⟨[], [], AList.singleton "telegram" ⟨none, [⟨"editor", [], []⟩]⟩, .null⟩
  plugins := []
  conventions := .null
  telemetry := .null
  graphWorkflow := .null
  mcpServers := []
  awp := .null
  runner := ⟨100⟩
  rateLimiter := .null
  toolApproval := .null
  staleContext := .null
  heartbeatV2 := .null
  multiUser := .null
  healthMonitor := .null
  codingAgents := .null

theorem not_refines : ¬ ∀ config canonicalIds msg, Refines config canonicalIds msg := by
  intro h
  have hsame := (h disabledTelegram [] ⟨.telegram, "", "ann"⟩ ⟨none, [⟨"editor", [], []⟩]⟩ rfl).1 rfl
  exact absurd hsame (by decide)

end AdkGateway.AccessControl.AccessControlBridge
