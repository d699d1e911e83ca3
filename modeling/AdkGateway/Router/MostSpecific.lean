import AdkGateway.Foundation.Tiers
import AdkGateway.Router.Resolver

namespace AdkGateway.Router

open Foundation

namespace AgentBinding

def matching (msg : InboundMessage) (ab : AgentBinding) : Bool :=
  ab.channelType == msg.channelType.toString && ab.accountId.all (· == msg.accountId) &&
    ab.peerFilter.all (· == msg.senderId)

def rank (ab : AgentBinding) : ℕ :=
  (if ab.accountId.isSome then 2 else 0) + if ab.peerFilter.isSome then 1 else 0

def overlooked (ab : AgentBinding) : Bool :=
  ab.accountId == some "" || (ab.accountId.isNone && ab.peerFilter.isSome)

end AgentBinding

namespace RoutingBinding

def matching (msg : InboundMessage) (binding : RoutingBinding) : Bool :=
  binding.matchRule.channel.all (· == msg.channelType.toString) &&
    binding.matchRule.accountId.all (· == msg.accountId) &&
    binding.matchRule.peer.all (peerMatches msg)

def overlooked (binding : RoutingBinding) : Bool := binding.matchRule.accountId == some ""

end RoutingBinding

namespace MessageRouter

/-- The binding that names the agent: the first of the most specific that match, else the first
legacy binding that matches. -/
def decider (router : MessageRouter) (msg : InboundMessage) : Option (AgentBinding ⊕ RoutingBinding) :=
  match (router.agentBindings.filter (AgentBinding.matching msg)).argmax AgentBinding.rank with
  | some ab => some (.inl ab)
  | none => (router.bindings.find? (RoutingBinding.matching msg)).map .inr

def namedBy (defaultAgentId : String) : Option (AgentBinding ⊕ RoutingBinding) → String
  | some (.inl ab) => ab.agentId
  | some (.inr binding) => binding.agentId
  | none => defaultAgentId

def mostSpecific (router : MessageRouter) (msg : InboundMessage) : String :=
  namedBy router.defaultAgentId (router.decider msg)

def deciderOverlooked (router : MessageRouter) (msg : InboundMessage) : Bool :=
  match router.decider msg with
  | some (.inl ab) => ab.overlooked
  | some (.inr binding) => binding.overlooked
  | none => false

def withoutOverlooked (router : MessageRouter) : MessageRouter :=
  { router with
    bindings := router.bindings.filter fun b ↦ !b.overlooked
    agentBindings := router.agentBindings.filter fun ab ↦ !ab.overlooked }

section Phases

variable (msg : InboundMessage)

theorem accountMatches_eq (bindAccount : Option String) :
    accountMatches bindAccount (if msg.accountId.isEmpty then none else some msg.accountId) =
      (bindAccount.isSome && !(bindAccount == some "") && bindAccount.all (· == msg.accountId)) := by
  cases bindAccount with
  | none => split <;> rfl
  | some account =>
    split
    case isTrue hempty =>
      have hmsg : msg.accountId = "" := by simpa using hempty
      rw [accountMatches, hmsg]
      simp
    case isFalse hne =>
      have hmsg : msg.accountId ≠ "" := by simpa using hne
      rw [accountMatches, Option.isSome_some, Option.all_some, Bool.true_and]
      by_cases heq : account = msg.accountId
      · simp [heq, hmsg]
      · simp [heq]

theorem exactMatch_eq (ab : AgentBinding) :
    exactMatch msg.channelType.toString (if msg.accountId.isEmpty then none else some msg.accountId) msg ab =
      (ab.matching msg && !ab.overlooked && ab.rank == 3) := by
  obtain ⟨channelType, accountId, peerFilter, agentId⟩ := ab
  simp only [exactMatch, accountMatches_eq, AgentBinding.matching, AgentBinding.overlooked,
    AgentBinding.rank]
  cases accountId with
  | none => cases peerFilter <;> simp
  | some account =>
    cases peerFilter with
    | none => simp
    | some peer =>
      rw [Bool.eq_iff_iff]
      simp
      tauto

theorem accountMatch_eq (ab : AgentBinding) :
    accountMatch msg.channelType.toString (if msg.accountId.isEmpty then none else some msg.accountId) ab =
      (ab.matching msg && !ab.overlooked && ab.rank == 2) := by
  obtain ⟨channelType, accountId, peerFilter, agentId⟩ := ab
  simp only [accountMatch, accountMatches_eq, AgentBinding.matching, AgentBinding.overlooked,
    AgentBinding.rank]
  cases accountId with
  | none => cases peerFilter <;> simp
  | some account =>
    cases peerFilter with
    | none =>
      rw [Bool.eq_iff_iff]
      simp
      tauto
    | some peer => simp

theorem channelMatch_eq (ab : AgentBinding) :
    channelMatch msg.channelType.toString ab = (ab.matching msg && !ab.overlooked && ab.rank == 0) := by
  obtain ⟨channelType, accountId, peerFilter, agentId⟩ := ab
  simp only [channelMatch, AgentBinding.matching, AgentBinding.overlooked, AgentBinding.rank]
  cases accountId <;> cases peerFilter <;> simp

theorem rank_one_overlooked {ab : AgentBinding} (h : ab.rank = 1) : ab.overlooked = true := by
  obtain ⟨channelType, accountId, peerFilter, agentId⟩ := ab
  cases accountId <;> cases peerFilter <;> simp [AgentBinding.rank, AgentBinding.overlooked] at h ⊢

theorem rank_le (ab : AgentBinding) : ab.rank ≤ 3 := by
  unfold AgentBinding.rank
  split <;> split <;> decide

theorem legacyMatch_eq (binding : RoutingBinding) :
    legacyMatch msg.channelType.toString
        (if msg.accountId.isEmpty then none else some msg.accountId) msg binding =
      (binding.matching msg && !binding.overlooked) := by
  obtain ⟨agentId, channel, accountId, peer⟩ := binding
  have hchannel : (channel.map (· == msg.channelType.toString)).getD true =
      channel.all (· == msg.channelType.toString) := by cases channel <;> rfl
  simp only [legacyMatch, RoutingBinding.matching, RoutingBinding.overlooked, hchannel]
  cases accountId with
  | none => simp
  | some account =>
    have haccount : (if msg.accountId.isEmpty then none else some msg.accountId) = some account ↔
        account = msg.accountId ∧ account ≠ "" := by
      by_cases hempty : msg.accountId = ""
      · simp [hempty]
      · simp only [String.isEmpty_iff, hempty, if_false, Option.some_inj, eq_comm (a := account)]
        exact (and_iff_left_of_imp fun heq ↦ heq ▸ hempty).symm
    rw [Bool.eq_iff_iff]
    simp only [Option.all_some, Bool.and_eq_true, beq_iff_eq, haccount]
    simp
    tauto

end Phases

variable {router : MessageRouter} {msg : InboundMessage}

theorem find?_phase (bindings : List AgentBinding) (n : ℕ) {phase : AgentBinding → Bool}
    (h : ∀ ab, phase ab = (ab.matching msg && !ab.overlooked && ab.rank == n)) :
    bindings.find? phase =
      (((bindings.filter fun ab ↦ !ab.overlooked).filter (AgentBinding.matching msg)).find?
        fun ab ↦ ab.rank == n) := by
  rw [List.filter_filter, List.find?_filter]
  exact congrArg (bindings.find? ·) (funext fun ab ↦ by rw [h, Bool.decide_and, Bool.decide_eq_true,
    Bool.decide_eq_true])

theorem phases_eq_argmax (bindings : List AgentBinding) (msg : InboundMessage) :
    ((bindings.find? (exactMatch msg.channelType.toString
        (if msg.accountId.isEmpty then none else some msg.accountId) msg)).or
      ((bindings.find? (accountMatch msg.channelType.toString
        (if msg.accountId.isEmpty then none else some msg.accountId))).or
      (bindings.find? (channelMatch msg.channelType.toString)))) =
      ((bindings.filter fun ab ↦ !ab.overlooked).filter (AgentBinding.matching msg)).argmax
        AgentBinding.rank := by
  rw [find?_phase bindings 3 (exactMatch_eq msg), find?_phase bindings 2 (accountMatch_eq msg),
    find?_phase bindings 0 (channelMatch_eq msg),
    ← Tiers.cascade_eq_argmax (n := 3) fun ab _ ↦ rank_le ab]
  have hone : (((bindings.filter fun ab ↦ !ab.overlooked).filter (AgentBinding.matching msg)).find?
      fun ab ↦ ab.rank == 1) = none := by
    refine List.find?_eq_none.mpr fun ab hab hrank ↦ ?_
    have hkept := List.of_mem_filter (p := fun ab ↦ !AgentBinding.overlooked ab)
      (List.mem_of_mem_filter hab)
    rw [rank_one_overlooked (by simpa using hrank)] at hkept
    cases hkept
  simp only [Tiers.cascade, hone, Option.none_or]

theorem resolveAgent_eq (router : MessageRouter) (msg : InboundMessage) :
    router.resolveAgent msg = router.withoutOverlooked.mostSpecific msg := by
  have hlegacy : router.bindings.find? (legacyMatch msg.channelType.toString
        (if msg.accountId.isEmpty then none else some msg.accountId) msg) =
      (router.bindings.filter fun b ↦ !b.overlooked).find? (RoutingBinding.matching msg) := by
    rw [List.find?_filter]
    refine congrArg (router.bindings.find? ·) (funext fun b ↦ ?_)
    rw [legacyMatch_eq, Bool.and_comm, Bool.decide_and, Bool.decide_eq_true, Bool.decide_eq_true]
  simp only [mostSpecific, decider, withoutOverlooked, ← phases_eq_argmax, ← hlegacy, resolveAgent]
  cases router.agentBindings.find? (exactMatch msg.channelType.toString
      (if msg.accountId.isEmpty then none else some msg.accountId) msg) with
  | some ab => rfl
  | none =>
    cases router.agentBindings.find? (accountMatch msg.channelType.toString
        (if msg.accountId.isEmpty then none else some msg.accountId)) with
    | some ab => rfl
    | none =>
      cases router.agentBindings.find? (channelMatch msg.channelType.toString) with
      | some ab => rfl
      | none =>
        cases router.bindings.find? (legacyMatch msg.channelType.toString
            (if msg.accountId.isEmpty then none else some msg.accountId) msg) with
        | some b => rfl
        | none => rfl

theorem decider_withoutOverlooked (h : router.deciderOverlooked msg = false) :
    router.withoutOverlooked.decider msg = router.decider msg := by
  unfold deciderOverlooked at h
  cases hbest : (router.agentBindings.filter (AgentBinding.matching msg)).argmax AgentBinding.rank with
  | some ab =>
    have hdecider : router.decider msg = some (.inl ab) := by rw [decider, hbest]
    rw [hdecider] at h
    have hkept := Tiers.argmax_filter (p := fun ab ↦ !ab.overlooked) hbest (by simpa using h)
    rw [List.filter_comm] at hkept
    rw [hdecider, decider, withoutOverlooked, hkept]
  | none =>
    have hdecider : router.decider msg =
        (router.bindings.find? (RoutingBinding.matching msg)).map .inr := by rw [decider, hbest]
    rw [hdecider] at h
    have hnone : ((router.agentBindings.filter fun ab ↦ !ab.overlooked).filter
        (AgentBinding.matching msg)).argmax AgentBinding.rank = none := by
      rw [List.argmax_eq_none] at hbest ⊢
      rw [List.filter_comm, hbest]
      rfl
    rw [hdecider, decider, withoutOverlooked, hnone]
    cases hlegacy : router.bindings.find? (RoutingBinding.matching msg) with
    | none =>
      have hrest : (router.bindings.filter fun b ↦ !b.overlooked).find? (RoutingBinding.matching msg) =
          none := List.find?_eq_none.mpr fun b hb ↦
        List.find?_eq_none.mp hlegacy b (List.mem_of_mem_filter hb)
      rw [hrest]
    | some b =>
      rw [hlegacy] at h
      have hrest := Tiers.find?_filter_of_pos (p := fun b ↦ !RoutingBinding.overlooked b) hlegacy
        (by simpa using h)
      rw [hrest]

theorem resolveAgent_most_specific_iff (router : MessageRouter) (msg : InboundMessage) :
    router.resolveAgent msg = router.mostSpecific msg ↔
      (router.deciderOverlooked msg = true →
        router.withoutOverlooked.mostSpecific msg = router.mostSpecific msg) := by
  rw [resolveAgent_eq]
  constructor
  · exact fun h _ ↦ h
  · intro h
    cases hdecider : router.deciderOverlooked msg with
    | true => exact h hdecider
    | false =>
      unfold mostSpecific
      rw [decider_withoutOverlooked hdecider]
      rfl

/-- A binding of a peer on all accounts is never matched. -/
theorem resolveAgent_peer_only :
    ((new [] "system").addAgentBindings "vip" [⟨"telegram", none, some "u"⟩]).resolveAgent
        ⟨⟨.telegram, "default", "u"⟩, none, none⟩ ≠
      ((new [] "system").addAgentBindings "vip" [⟨"telegram", none, some "u"⟩]).mostSpecific
        ⟨⟨.telegram, "default", "u"⟩, none, none⟩ := by
  decide

end MessageRouter

open Tiers

namespace MessageRouter

def phases (msg : InboundMessage) : List (AgentBinding → Bool) :=
  let channelName := msg.channelType.toString
  let msgAccount := if msg.accountId.isEmpty then none else some msg.accountId
  [exactMatch channelName msgAccount msg, accountMatch channelName msgAccount,
    channelMatch channelName]

variable (router : MessageRouter) (msg : InboundMessage) (agentId : String)
  (channelBindings : List ChannelBinding)

def unboundAgent : String :=
  let channelName := msg.channelType.toString
  let msgAccount := if msg.accountId.isEmpty then none else some msg.accountId
  ((router.bindings.find? (legacyMatch channelName msgAccount msg)).map fun binding ↦
    binding.agentId).getD router.defaultAgentId

theorem resolveAgent_eq_firstMatch : router.resolveAgent msg =
    ((firstMatch (phases msg) router.agentBindings).map fun ab ↦ ab.agentId).getD
      (router.unboundAgent msg) := by
  simp only [resolveAgent, phases, firstMatch, Option.or_none, unboundAgent]
  cases router.agentBindings.find? (exactMatch msg.channelType.toString
      (if msg.accountId.isEmpty then none else some msg.accountId) msg) with
  | some ab => rfl
  | none =>
    cases router.agentBindings.find? (accountMatch msg.channelType.toString
        (if msg.accountId.isEmpty then none else some msg.accountId)) with
    | some ab => rfl
    | none =>
      cases router.agentBindings.find? (channelMatch msg.channelType.toString) with
      | some ab => rfl
      | none =>
        cases router.bindings.find? (legacyMatch msg.channelType.toString
            (if msg.accountId.isEmpty then none else some msg.accountId) msg) with
        | some binding => rfl
        | none => rfl

theorem resolveAgent_add :
    (router.addAgentBindings agentId channelBindings).resolveAgent msg = router.resolveAgent msg ∨
      (router.addAgentBindings agentId channelBindings).resolveAgent msg = agentId := by
  rw [resolveAgent_eq_firstMatch, resolveAgent_eq_firstMatch, addAgentBindings]
  rcases firstMatch_append (phases msg) router.agentBindings (channelBindings.map fun cb ↦
      ⟨cb.channelType, cb.accountId, cb.peerFilter, agentId⟩) with hsame | ⟨ab, hab, hnew⟩
  · rw [hsame]
    exact .inl rfl
  · obtain ⟨cb, -, rfl⟩ := List.mem_map.mp hab
    rw [hnew]
    exact .inr rfl

theorem resolveAgent_remove :
    (router.removeAgentBindings agentId).resolveAgent msg = router.resolveAgent msg ∨
      router.resolveAgent msg = agentId := by
  rw [resolveAgent_eq_firstMatch, resolveAgent_eq_firstMatch, removeAgentBindings]
  by_cases hfound : ∃ ab, firstMatch (phases msg) router.agentBindings = some ab ∧
      ab.agentId = agentId
  · obtain ⟨ab, hab, rfl⟩ := hfound
    rw [hab]
    exact .inr rfl
  · rw [firstMatch_filter fun ab hab ↦ bne_iff_ne.mpr fun heq ↦ hfound ⟨ab, hab, heq⟩]
    exact .inl rfl

theorem resolveAgent_update :
    (router.updateAgentBindings agentId channelBindings).resolveAgent msg =
        router.resolveAgent msg ∨
      router.resolveAgent msg = agentId ∨
        (router.updateAgentBindings agentId channelBindings).resolveAgent msg = agentId := by
  rcases (router.removeAgentBindings agentId).resolveAgent_add msg agentId channelBindings with
    hadd | hadd
  · rcases router.resolveAgent_remove msg agentId with hremove | hremove
    · exact .inl (hadd.trans hremove)
    · exact .inr (.inl hremove)
  · exact .inr (.inr hadd)

/-- An agent's bindings decide on the messages of no other agent. -/
theorem resolveAgent_local :
    ((router.addAgentBindings agentId channelBindings).resolveAgent msg = router.resolveAgent msg ∨
      (router.addAgentBindings agentId channelBindings).resolveAgent msg = agentId) ∧
    ((router.removeAgentBindings agentId).resolveAgent msg = router.resolveAgent msg ∨
      router.resolveAgent msg = agentId) :=
  ⟨router.resolveAgent_add msg agentId channelBindings, router.resolveAgent_remove msg agentId⟩

end MessageRouter

end AdkGateway.Router
