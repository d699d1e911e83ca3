import AdkGateway.Foundation.Machine
import AdkGateway.HotReload.Dispatch

namespace AdkGateway.HotReload

open AccessControl AccessControlBridge ConfigWatcher Foundation Machine

structure SamePolicy (channelType : ChannelType) (p p' : ChannelPolicy) : Prop where
  dmPolicy : p.dmPolicy = p'.dmPolicy
  listed : p.dmPolicy = .allowlist → ∀ msg : InboundMessage, msg.channelType = channelType →
    listed p (mapIdentity msg) = listed p' (mapIdentity msg)

section Policies

variable {channelType : ChannelType} {p p' p'' : ChannelPolicy}

theorem SamePolicy.symm (h : SamePolicy channelType p p') : SamePolicy channelType p' p :=
  ⟨h.dmPolicy.symm, fun hp msg hmsg ↦ (h.listed (h.dmPolicy.trans hp) msg hmsg).symm⟩

theorem SamePolicy.trans (h : SamePolicy channelType p p') (h' : SamePolicy channelType p' p'') :
    SamePolicy channelType p p'' :=
  ⟨h.dmPolicy.trans h'.dmPolicy, fun hp msg hmsg ↦
    (h.listed hp msg hmsg).trans (h'.listed (h.dmPolicy.symm.trans hp) msg hmsg)⟩

theorem SamePolicy.refl (channelType : ChannelType) (p : ChannelPolicy) :
    SamePolicy channelType p p :=
  ⟨rfl, fun _ _ _ ↦ rfl⟩

theorem length_le_foldr {names : List String} {name : String} (h : name ∈ names) :
    name.length ≤ names.foldr (fun n total ↦ n.length + total) 0 := by
  induction names with
  | nil => cases h
  | cons n names ih =>
    rw [List.foldr_cons]
    cases h with
    | head => exact Nat.le_add_right _ _
    | tail _ h => exact Nat.le_trans (ih h) (Nat.le_add_left _ _)

theorem exists_stranger (channelType : ChannelType) (names : List String) :
    ∃ msg : InboundMessage, msg.channelType = channelType ∧
      (mapIdentity msg).canonicalId ∉ names ∧ (mapIdentity msg).platformId ∉ names := by
  let total := names.foldr (fun n total ↦ n.length + total) 0
  let sender := String.ofList (List.replicate (total + 1) 'a')
  have hsender : sender.length = total + 1 := by
    simp only [sender, String.length_ofList, List.length_replicate]
  refine ⟨⟨channelType, "", sender⟩, rfl, fun h ↦ ?_, fun h ↦ ?_⟩
  · have hle : (channelType.toString ++ ":" ++ sender).length ≤ total := length_le_foldr h
    rw [String.length_append, hsender] at hle
    omega
  · have hle : sender.length ≤ total := length_le_foldr h
    omega

theorem evaluatePolicy_stranger {identity : AuthIdentity} {pairedUsers : List String}
    (hpaired : identity.canonicalId ∉ pairedUsers) (hcanonical : identity.canonicalId ∉ p.allowList)
    (hplatform : identity.platformId ∉ p.allowList) :
    evaluatePolicy p identity pairedUsers =
      match p.dmPolicy with
      | .open => .allowed
      | .allowlist => .denied "user not in allow list"
      | .pairing => .requiresPairing
      | .disabled => .denied "DMs are disabled for this channel" := by
  unfold evaluatePolicy
  cases p.dmPolicy <;> simp [hpaired, hcanonical, hplatform]

/-- A stranger tells two policies apart if their kinds differ, and a sender on one of the lists
does if these differ. -/
theorem samePolicy_iff (pairedUsers : List String) :
    SamePolicy channelType p p' ↔ ∀ msg : InboundMessage, msg.channelType = channelType →
      evaluatePolicy p (mapIdentity msg) pairedUsers =
        evaluatePolicy p' (mapIdentity msg) pairedUsers := by
  constructor
  · intro h msg hmsg
    have hkind := h.dmPolicy
    cases hp : p.dmPolicy with
    | allowlist =>
      have hlisted := h.listed hp msg hmsg
      simp only [listed] at hlisted
      simp only [evaluatePolicy, ← hkind, hp, hlisted]
    | _ => simp only [evaluatePolicy, ← hkind, hp]
  · intro h
    have hkind : p.dmPolicy = p'.dmPolicy := by
      obtain ⟨msg, hmsg, hcanonical, hplatform⟩ :=
        exists_stranger channelType (pairedUsers ++ (p.allowList ++ p'.allowList))
      simp only [List.mem_append, not_or] at hcanonical hplatform
      have hsame := h msg hmsg
      rw [evaluatePolicy_stranger hcanonical.1 hcanonical.2.1 hplatform.2.1,
        evaluatePolicy_stranger hcanonical.1 hcanonical.2.2 hplatform.2.2] at hsame
      cases hp : p.dmPolicy <;> cases hp' : p'.dmPolicy <;> simp [hp, hp'] at hsame ⊢
    refine ⟨hkind, fun hp msg hmsg ↦ ?_⟩
    have hsame := h msg hmsg
    simp only [evaluatePolicy, ← hkind, hp] at hsame
    simp only [listed]
    revert hsame
    generalize (p.allowList.contains (mapIdentity msg).canonicalId ||
      p.allowList.contains (mapIdentity msg).platformId) = l
    generalize (p'.allowList.contains (mapIdentity msg).canonicalId ||
      p'.allowList.contains (mapIdentity msg).platformId) = l'
    cases l <;> cases l' <;> simp

end Policies

def policyOf (bridge : AccessControlBridge) (channelType : ChannelType) : ChannelPolicy :=
  (bridge.channelPolicies.lookup channelType.toString).getD bridge.defaultPolicy

def configPolicy (config : GatewayConfig) (channelType : ChannelType) : ChannelPolicy :=
  policyOf (.new config) channelType

structure AccessReload where
  live : Live
  latest : GatewayConfig
  marked : List String

inductive AccessEvent
  | config (newConfig : GatewayConfig)
  | paired (canonicalId : String)

namespace AccessReload

def start (config : GatewayConfig) (codingAgents : Option Json) : AccessReload :=
  ⟨.start config codingAgents, config, []⟩

def apply (s : AccessReload) : AccessEvent → AccessReload
  | .config newConfig => { s with live := s.live.dispatch newConfig, latest := newConfig }
  | .paired canonicalId =>
    { s with
      live := { s.live with accessControl := s.live.accessControl.markPaired canonicalId }
      marked := s.marked ++ [canonicalId] }

/-- A step answers with the state it leads to. -/
def step (s : AccessReload) (event : AccessEvent) : AccessReload × AccessReload :=
  (s.apply event, s.apply event)

/-- The bridge decides on every message as one built anew, on which the same users are marked. -/
def Decides (s : AccessReload) : Prop :=
  ∀ msg, s.live.accessControl.checkMessageAccess msg =
    (fresh s.latest s.marked).checkMessageAccess msg

/-- The config changes the auth section, or it gives every channel the policy it has. -/
def Kept (s : AccessReload) : AccessEvent → Prop
  | .config newConfig => authEq? s.latest.auth newConfig.auth = false ∨
      ∀ channelType, SamePolicy channelType (configPolicy s.latest channelType)
        (configPolicy newConfig channelType)
  | .paired _ => True

structure Inv (s : AccessReload) : Prop where
  old : SameSections s.live.oldConfig s.latest
  paired : s.live.accessControl.pairedUsers = (fresh s.latest s.marked).pairedUsers
  default : s.live.accessControl.defaultPolicy = ⟨.pairing, [], []⟩
  policies : ∀ channelType,
    SamePolicy channelType (policyOf s.live.accessControl channelType)
      (configPolicy s.latest channelType)

end AccessReload

section Runs

variable {s : AccessReload} {config : GatewayConfig} {codingAgents : Option Json}

theorem policyOf_fresh (config : GatewayConfig) (canonicalIds : List String)
    (channelType : ChannelType) :
    policyOf (fresh config canonicalIds) channelType = configPolicy config channelType := by
  obtain ⟨hpolicies, hdefault⟩ := fresh_fields config canonicalIds
  rw [configPolicy, policyOf, policyOf, hpolicies, hdefault]
  rfl

theorem policyOf_rebuild (bridge : AccessControlBridge) (config : GatewayConfig)
    (hdefault : bridge.defaultPolicy = ⟨.pairing, [], []⟩) (channelType : ChannelType) :
    policyOf (bridge.rebuild config) channelType = configPolicy config channelType := by
  have hkept : (bridge.rebuild config).defaultPolicy = (AccessControlBridge.new config).defaultPolicy :=
    hdefault
  rw [configPolicy, policyOf, policyOf, hkept]
  rfl

theorem decides_iff (hpaired : s.live.accessControl.pairedUsers = (fresh s.latest s.marked).pairedUsers) :
    s.Decides ↔ ∀ channelType,
      SamePolicy channelType (policyOf s.live.accessControl channelType)
        (configPolicy s.latest channelType) := by
  simp only [samePolicy_iff s.live.accessControl.pairedUsers, ← policyOf_fresh s.latest s.marked]
  constructor
  · rintro h channelType msg rfl
    have hmsg := h msg
    rw [checkMessageAccess, checkMessageAccess, ← hpaired] at hmsg
    exact hmsg
  · intro h msg
    rw [checkMessageAccess, checkMessageAccess, ← hpaired]
    exact h msg.channelType msg rfl

theorem inv_start (config : GatewayConfig) (codingAgents : Option Json) :
    (AccessReload.start config codingAgents).Inv :=
  ⟨.refl config, rfl, rfl, fun channelType ↦ .refl channelType _⟩

theorem paired_apply (h : s.Inv) (event : AccessEvent) :
    (s.apply event).live.accessControl.pairedUsers =
      (fresh (s.apply event).latest (s.apply event).marked).pairedUsers := by
  cases event with
  | config newConfig =>
    have hkept : (s.live.dispatch newConfig).accessControl.pairedUsers =
        s.live.accessControl.pairedUsers := by
      rw [accessControl_dispatch]
      split <;> rfl
    exact hkept.trans (h.paired.trans (pairedUsers_fresh s.latest newConfig s.marked))
  | paired canonicalId =>
    have hmarked : (fresh s.latest (s.marked ++ [canonicalId])).pairedUsers =
        (fresh s.latest s.marked).pairedUsers.insert canonicalId := by
      rw [fresh_concat]
      rfl
    exact (congrArg (List.insert canonicalId) h.paired).trans hmarked.symm

theorem default_apply (h : s.Inv) (event : AccessEvent) :
    (s.apply event).live.accessControl.defaultPolicy = ⟨.pairing, [], []⟩ := by
  cases event with
  | config newConfig =>
    have hkept : (s.live.dispatch newConfig).accessControl.defaultPolicy =
        s.live.accessControl.defaultPolicy := by
      rw [accessControl_dispatch]
      split <;> rfl
    exact hkept.trans h.default
  | paired canonicalId => exact h.default

theorem old_apply (h : s.Inv) (event : AccessEvent) :
    SameSections (s.apply event).live.oldConfig (s.apply event).latest := by
  cases event with
  | config newConfig => exact same_oldConfig_dispatch s.live newConfig
  | paired canonicalId => exact h.old

/-- Without a change of the auth section the bridge stays; then it has the policies of the new
config just if these are the policies of the one before. -/
theorem policies_apply_iff (h : s.Inv) (event : AccessEvent) :
    (∀ channelType, SamePolicy channelType (policyOf (s.apply event).live.accessControl channelType)
      (configPolicy (s.apply event).latest channelType)) ↔ s.Kept event := by
  cases event with
  | config newConfig =>
    have hbridge : (s.apply (.config newConfig)).live.accessControl =
        if authEq? s.latest.auth newConfig.auth then s.live.accessControl
        else s.live.accessControl.rebuild newConfig := by
      rw [← authEq?_congr h.old.auth]
      exact accessControl_dispatch s.live newConfig
    simp only [AccessReload.Kept, hbridge]
    cases hauth : authEq? s.latest.auth newConfig.auth with
    | false =>
      simp only [Bool.false_eq_true, if_false, true_or, iff_true]
      intro channelType
      rw [policyOf_rebuild _ _ h.default]
      exact .refl channelType _
    | true =>
      simp only [if_true, Bool.true_eq_false, false_or]
      exact forall_congr' fun channelType ↦
        ⟨fun hnew ↦ (h.policies channelType).symm.trans hnew, (h.policies channelType).trans⟩
  | paired canonicalId => exact iff_of_true h.policies trivial

/-- After every config that the dispatch task processes, and every pairing, the bridge decides as
one built from the latest config just if every config that leaves the auth section alone gives
each channel the policy that the config before gave it. -/
theorem decides_iff_kept (config : GatewayConfig) (codingAgents : Option Json)
    (events : List AccessEvent) :
    (∀ s ∈ outputs AccessReload.step (.start config codingAgents) events, s.Decides) ↔
      Along AccessReload.step AccessReload.Kept (.start config codingAgents) events := by
  refine forall_outputs_iff AccessReload.step (fun s event h ↦ ?_) (inv_start config codingAgents)
    events
  have hiff := policies_apply_iff h event
  exact ⟨(decides_iff (paired_apply h event)).trans hiff, fun hkept ↦
    ⟨old_apply h event, paired_apply h event, default_apply h event, hiff.mpr hkept⟩⟩

def telegramConfig (dmPolicy : DmPolicy) : GatewayConfig :=
  { GatewayConfig.default with
    channels := ⟨some ⟨"token", dmPolicy, [], .object []⟩, none, .object []⟩ }

/-- Telegram is closed by a reload, and a stranger still is let in. -/
theorem not_decides :
    validateConfig (telegramConfig .open) = .ok () ∧
    validateConfig (telegramConfig .disabled) = .ok () ∧
    ¬ ∀ (config : GatewayConfig) (codingAgents : Option Json) (events : List AccessEvent),
      ∀ s ∈ outputs AccessReload.step (.start config codingAgents) events, s.Decides := by
  refine ⟨by decide, by decide, fun h ↦ ?_⟩
  have hsame := h (telegramConfig .open) none [.config (telegramConfig .disabled)] _ (.head _)
    ⟨.telegram, "default", "eve"⟩
  exact absurd hsame (by decide)

end Runs

end AdkGateway.HotReload
