import AdkGateway.Cron.Trigger

namespace AdkGateway.Cron

open AccessControl Foundation Gateway Pairing

def reorder (s : GatewayState) (users : KeyedMap String PairedUser) : GatewayState :=
  { s with pairingService := { s.pairingService with pairedUsers := users } }

section Statement

variable (namesChat : String → Bool) (w : Surroundings) (r : CronRun) (s : GatewayState)

def MayGet (delivery : CronDelivery) (channelType : ChannelType) (recipientId : String) : Prop :=
  channelType.toString = delivery.channel ∧
    (recipientId = delivery.target ∨
      namesChat delivery.target = false ∧
        ∃ user ∈ pairedOn s channelType, user.userId = recipientId)

/-- Only those get it who may, and the order of the paired users has no part in who does, nor in
whether the job runs. -/
structure TargetOnly (job : CronJob) (delivery : CronDelivery) : Prop where
  onTarget : ∀ outputs, fire w r s job = some outputs → ∀ sent ∈ outputs,
    MayGet namesChat s delivery sent.channelType sent.recipientId
  anyOrder : ∀ users : KeyedMap String PairedUser,
    users.entries.Perm s.pairingService.pairedUsers.entries →
      fire w r (reorder s users) job = fire w r s job

def Hands (channelType : ChannelType) (texts : List String) : Prop :=
  ⟨channelType, "default"⟩ ∈ w.channels ∧ texts ≠ []

def passes (channelType : ChannelType) (user : PairedUser) : Bool :=
  s.accessControl.checkMessageAccess ⟨channelType, "default", user.userId⟩ = .allowed

/-- All of the users paired on the channel pass the access check, or none does; and if they do,
what is replied to the sender, and what is answered to the one of them who gets it, may get there. -/
def OneRecipient (delivery : CronDelivery) (jobId : String) (msg : InboundMessage) : Prop :=
  ∀ user ∈ pairedOn s msg.channelType,
    (∀ other ∈ pairedOn s msg.channelType,
      passes s msg.channelType other = passes s msg.channelType user) ∧
    (passes s msg.channelType user = true →
      (Hands w msg.channelType r.replies →
        MayGet namesChat s delivery msg.channelType msg.senderId) ∧
      ∀ answer, r.answer = some answer →
        Hands w msg.channelType (w.handedOver jobId msg.channelType answer) →
          (∀ other ∈ pairedOn s msg.channelType, other.userId = user.userId) ∧
            msg.channelType.toString = delivery.channel ∧
              (user.userId = delivery.target ∨ namesChat delivery.target = false))

/-- When the output goes where it is to go. -/
def Addressed (job : CronJob) (delivery : CronDelivery) : Prop :=
  match job.codingAgent with
  | some _ => r.delegated = true → ∀ answer, r.answer = some answer →
      Hands w (replyChannel w delivery.channel) (answer.partialTexts ++ [answer.response]) →
        (replyChannel w delivery.channel).toString = delivery.channel
  | none =>
    let incoming := (buildInboundMessage job).incoming
    if isStop incoming.text then
      Hands w incoming.message.channelType r.replies →
        MayGet namesChat s delivery incoming.message.channelType (senderId job)
    else OneRecipient namesChat w r s delivery job.id incoming.message

end Statement

section Users

variable {s : GatewayState} {users : KeyedMap String PairedUser}

theorem pairedOn_reorder (h : users.entries.Perm s.pairingService.pairedUsers.entries)
    (channelType : ChannelType) :
    (pairedOn (reorder s users) channelType).Perm (pairedOn s channelType) := by
  have hvalues : (KeyedMap.values users).Perm (KeyedMap.values s.pairingService.pairedUsers) :=
    h.map fun entry : (_ : String) × PairedUser ↦ entry.2
  exact hvalues.filter _

theorem exists_first {channelType : ChannelType} {user : PairedUser}
    (h : user ∈ pairedOn s channelType) :
    ∃ users : KeyedMap String PairedUser,
      users.entries.Perm s.pairingService.pairedUsers.entries ∧
        (pairedOn (reorder s users) channelType).head? = some user := by
  obtain ⟨hmem, hon⟩ := List.mem_filter.mp h
  obtain ⟨entry, hentry, rfl⟩ := List.mem_map.mp hmem
  obtain ⟨before, after, hsplit⟩ := List.append_of_mem hentry
  have hperm : (entry :: (before ++ after)).Perm s.pairingService.pairedUsers.entries := by
    rw [hsplit]
    exact List.perm_middle.symm
  have hkeys : (entry :: (before ++ after)).NodupKeys :=
    (List.perm_nodupKeys hperm).mpr s.pairingService.pairedUsers.nodupKeys
  refine ⟨⟨entry :: (before ++ after), hkeys⟩, hperm, ?_⟩
  have hvalues : KeyedMap.values ⟨entry :: (before ++ after), hkeys⟩ =
      entry.2 :: (before ++ after).map Sigma.snd := rfl
  rw [pairedOn, reorder, hvalues, List.filter_cons, if_pos hon]
  rfl

theorem senderId_not_numeric (job : CronJob) : (senderId job).toList.all Char.isDigit = false := by
  rw [senderId, String.toList_append, List.all_append]
  rfl

theorem resolveRecipient_of_first {msg : InboundMessage} {user : PairedUser}
    (hsender : msg.senderId.toList.all Char.isDigit = false)
    (hfirst : (pairedOn s msg.channelType).head? = some user) :
    resolveRecipient s msg = user.userId := by
  rw [pairedOn, List.head?_filter] at hfirst
  rw [resolveRecipient, if_neg (Bool.eq_false_iff.mp hsender), hfirst]

theorem cronAccess_of_first {msg : InboundMessage} {user : PairedUser}
    (haccount : msg.accountId = "default")
    (hfirst : (pairedOn s msg.channelType).head? = some user) :
    cronAccess s msg = passes s msg.channelType user := by
  obtain ⟨rest, husers⟩ := List.head?_eq_some_iff.mp hfirst
  rw [cronAccess, husers, passes, ← haccount]

end Users

section Outputs

variable {w : Surroundings} {channelType : ChannelType} {texts : List String}

theorem forall_mem_send (P : ChannelType → String → Prop) (recipientId : String) :
    (∀ sent ∈ w.send channelType recipientId texts, P sent.channelType sent.recipientId) ↔
      (Hands w channelType texts → P channelType recipientId) := by
  rw [Surroundings.send, Hands]
  split
  · next hchannel =>
    constructor
    · rintro h ⟨-, hne⟩
      obtain ⟨text, htext⟩ := List.exists_mem_of_ne_nil texts hne
      exact h _ (List.mem_map_of_mem htext)
    · intro h sent hsent
      obtain ⟨text, htext, rfl⟩ := List.mem_map.mp hsent
      exact h ⟨hchannel, List.ne_nil_of_mem htext⟩
  · next hchannel => exact iff_of_true nofun fun h ↦ absurd h.1 hchannel

theorem send_eq_iff {recipientId recipientId' : String} :
    w.send channelType recipientId texts = w.send channelType recipientId' texts ↔
      (Hands w channelType texts → recipientId = recipientId') := by
  constructor
  · intro heq
    refine (forall_mem_send (fun _ k ↦ k = recipientId') recipientId).mp ?_
    rw [heq]
    exact (forall_mem_send (fun _ k ↦ k = recipientId') recipientId').mpr fun _ ↦ rfl
  · intro h
    by_cases hands : Hands w channelType texts
    · rw [h hands]
    · rw [Hands, not_and_or, not_not] at hands
      rcases hands with hchannel | rfl
      · rw [Surroundings.send, Surroundings.send, if_neg hchannel, if_neg hchannel]
      · rfl

variable {r : CronRun} {jobId : String}

theorem deliver_eq_iff {recipientId recipientId' : String} :
    deliver w r jobId channelType recipientId = deliver w r jobId channelType recipientId' ↔
      ∀ answer, r.answer = some answer → Hands w channelType (w.handedOver jobId channelType answer) →
        recipientId = recipientId' := by
  rw [deliver, deliver]
  cases r.answer with
  | none => exact iff_of_true rfl nofun
  | some answer => simp only [send_eq_iff, Option.some_inj, forall_eq']

theorem forall_mem_deliver (P : ChannelType → String → Prop) (recipientId : String) :
    (∀ sent ∈ deliver w r jobId channelType recipientId, P sent.channelType sent.recipientId) ↔
      ∀ answer, r.answer = some answer → Hands w channelType (w.handedOver jobId channelType answer) →
        P channelType recipientId := by
  rw [deliver]
  cases r.answer with
  | none => exact iff_of_true nofun nofun
  | some answer => simp only [forall_mem_send, Option.some_inj, forall_eq']

end Outputs

section Jobs

variable {namesChat : String → Bool} {w : Surroundings} {r : CronRun} {s : GatewayState}

/-- What comes of a trigger if this user is the first that is paired on the channel. -/
def outcome (w : Surroundings) (r : CronRun) (s : GatewayState) (jobId : String)
    (msg : InboundMessage) (user : PairedUser) : Option (List Sent) :=
  if passes s msg.channelType user then
    some (w.send msg.channelType msg.senderId r.replies ++
      deliver w r jobId msg.channelType user.userId)
  else none

theorem processMessage_of_first {jobId : String} {incoming : Incoming} {user : PairedUser}
    (hstop : isStop incoming.text = false) (haccount : incoming.message.accountId = "default")
    (hsender : incoming.message.senderId.toList.all Char.isDigit = false)
    (hfirst : (pairedOn s incoming.message.channelType).head? = some user) :
    processMessage w r s jobId incoming = outcome w r s jobId incoming.message user := by
  simp only [processMessage, hstop, Bool.false_eq_true, if_false,
    cronAccess_of_first haccount hfirst, resolveRecipient_of_first hsender hfirst, outcome]

theorem outcome_eq_iff {jobId : String} {msg : InboundMessage} {user other : PairedUser} :
    outcome w r s jobId msg other = outcome w r s jobId msg user ↔
      passes s msg.channelType other = passes s msg.channelType user ∧
        (passes s msg.channelType user = true →
          deliver w r jobId msg.channelType other.userId =
            deliver w r jobId msg.channelType user.userId) := by
  rw [outcome, outcome]
  cases passes s msg.channelType other <;> cases passes s msg.channelType user <;> simp

theorem forall_mem_outcome {jobId : String} {msg : InboundMessage} {user : PairedUser}
    (P : ChannelType → String → Prop) :
    (∀ outputs, outcome w r s jobId msg user = some outputs → ∀ sent ∈ outputs,
      P sent.channelType sent.recipientId) ↔
      (passes s msg.channelType user = true →
        (Hands w msg.channelType r.replies → P msg.channelType msg.senderId) ∧
        ∀ answer, r.answer = some answer →
          Hands w msg.channelType (w.handedOver jobId msg.channelType answer) →
            P msg.channelType user.userId) := by
  rw [outcome]
  cases passes s msg.channelType user with
  | false => exact iff_of_true nofun nofun
  | true =>
    simp only [if_true, Option.some_inj, forall_eq', forall_const, List.forall_mem_append]
    rw [forall_mem_send, forall_mem_deliver]

theorem mayGet_of_mem {delivery : CronDelivery} {channelType : ChannelType} {user : PairedUser}
    (h : user ∈ pairedOn s channelType) :
    MayGet namesChat s delivery channelType user.userId ↔
      channelType.toString = delivery.channel ∧
        (user.userId = delivery.target ∨ namesChat delivery.target = false) := by
  rw [MayGet]
  refine and_congr_right fun _ ↦ or_congr_right ?_
  exact and_iff_left ⟨user, h, rfl⟩

theorem oneRecipient_iff {delivery : CronDelivery} {jobId : String} {incoming : Incoming}
    (hstop : isStop incoming.text = false) (haccount : incoming.message.accountId = "default")
    (hsender : incoming.message.senderId.toList.all Char.isDigit = false) :
    ((∀ outputs, processMessage w r s jobId incoming = some outputs → ∀ sent ∈ outputs,
        MayGet namesChat s delivery sent.channelType sent.recipientId) ∧
      ∀ users : KeyedMap String PairedUser,
        users.entries.Perm s.pairingService.pairedUsers.entries →
          processMessage w r (reorder s users) jobId incoming =
            processMessage w r s jobId incoming) ↔
      OneRecipient namesChat w r s delivery jobId incoming.message := by
  have hfirst (s : GatewayState) (user : PairedUser) :
      (pairedOn s incoming.message.channelType).head? = some user →
        processMessage w r s jobId incoming = outcome w r s jobId incoming.message user :=
    processMessage_of_first hstop haccount hsender
  have hsame (users : KeyedMap String PairedUser) (user : PairedUser) :
      outcome w r (reorder s users) jobId incoming.message user =
        outcome w r s jobId incoming.message user := rfl
  constructor
  · rintro ⟨honTarget, hanyOrder⟩ user huser
    -- the user may come first, and so may each other
    have hall : ∀ other ∈ pairedOn s incoming.message.channelType,
        processMessage w r s jobId incoming = outcome w r s jobId incoming.message other := by
      intro other hother
      obtain ⟨users, hperm, hhead⟩ := exists_first hother
      rw [← hanyOrder users hperm, hfirst _ _ hhead, hsame]
    have houtcomes : ∀ other ∈ pairedOn s incoming.message.channelType,
        outcome w r s jobId incoming.message other = outcome w r s jobId incoming.message user :=
      fun other hother ↦ (hall other hother).symm.trans (hall user huser)
    rw [hall user huser, forall_mem_outcome (MayGet namesChat s delivery)] at honTarget
    refine ⟨fun other hother ↦ (outcome_eq_iff.mp (houtcomes other hother)).1, fun hpass ↦
      ⟨(honTarget hpass).1, fun answer hanswer hands ↦ ⟨fun other hother ↦ ?_, ?_⟩⟩⟩
    · have hdeliver := (outcome_eq_iff.mp (houtcomes other hother)).2 hpass
      exact deliver_eq_iff.mp hdeliver answer hanswer hands
    · exact (mayGet_of_mem huser).mp ((honTarget hpass).2 answer hanswer hands)
  · intro h
    have hnil (s' : GatewayState) (husers : pairedOn s' incoming.message.channelType = []) :
        processMessage w r s' jobId incoming = none := by
      simp only [processMessage, hstop, Bool.false_eq_true, if_false, cronAccess, husers]
    cases husers : pairedOn s incoming.message.channelType with
    | nil =>
      refine ⟨?_, fun users hperm ↦ ?_⟩
      · rw [hnil s husers]
        exact nofun
      · have hperm' := pairedOn_reorder hperm incoming.message.channelType
        rw [husers] at hperm'
        rw [hnil s husers, hnil _ hperm'.eq_nil]
    | cons user others =>
      have huser : user ∈ pairedOn s incoming.message.channelType := husers ▸ List.mem_cons_self
      have hrun := hfirst s user (by rw [husers]; rfl)
      obtain ⟨hpasses, hrecipient⟩ := h user huser
      refine ⟨?_, fun users hperm ↦ ?_⟩
      · rw [hrun, forall_mem_outcome (MayGet namesChat s delivery)]
        refine fun hpass ↦ ⟨(hrecipient hpass).1, fun answer hanswer hands ↦ ?_⟩
        exact (mayGet_of_mem huser).mpr ((hrecipient hpass).2 answer hanswer hands).2
      · have hperm' := pairedOn_reorder hperm incoming.message.channelType
        have hne : pairedOn (reorder s users) incoming.message.channelType ≠ [] := fun hnone ↦ by
          rw [hnone, husers] at hperm'
          exact List.cons_ne_nil _ _ hperm'.symm.eq_nil
        obtain ⟨other, hother⟩ := Option.ne_none_iff_exists'.mp (mt List.head?_eq_none_iff.mp hne)
        have hmem : other ∈ pairedOn s incoming.message.channelType :=
          hperm'.mem_iff.mp (List.mem_of_head? hother)
        rw [hrun, hfirst _ _ hother, hsame, outcome_eq_iff]
        refine ⟨hpasses other hmem, fun hpass ↦ deliver_eq_iff.mpr fun answer hanswer hands ↦ ?_⟩
        exact ((hrecipient hpass).2 answer hanswer hands).1 other hmem

theorem codingAgent_iff {job : CronJob} {delivery : CronDelivery} {agentId : String}
    (hdelivery : job.deliverTo = some delivery) (hagent : job.codingAgent = some agentId) :
    TargetOnly namesChat w r s job delivery ↔
      (r.delegated = true → ∀ answer, r.answer = some answer →
        Hands w (replyChannel w delivery.channel) (answer.partialTexts ++ [answer.response]) →
          (replyChannel w delivery.channel).toString = delivery.channel) := by
  have hfire (s : GatewayState) : fire w r s job = fireCodingAgentTarget w r job := by
    rw [fire, hagent]
  have honTarget : TargetOnly namesChat w r s job delivery ↔
      ∀ outputs, fireCodingAgentTarget w r job = some outputs → ∀ sent ∈ outputs,
        MayGet namesChat s delivery sent.channelType sent.recipientId :=
    ⟨fun h ↦ hfire s ▸ h.onTarget, fun h ↦ ⟨(hfire s).symm ▸ h, fun users _ ↦ by rw [hfire, hfire]⟩⟩
  have hmayGet (channelType : ChannelType) :
      MayGet namesChat s delivery channelType delivery.target ↔
        channelType.toString = delivery.channel := and_iff_left (.inl rfl)
  rw [honTarget, fireCodingAgentTarget, hdelivery, Option.getD_some]
  cases r.delegated with
  | false => exact iff_of_true nofun nofun
  | true =>
    simp only [if_true, Option.some_inj, forall_eq', forall_const]
    cases r.answer with
    | none => exact iff_of_true nofun nofun
    | some answer =>
      simp only [forall_mem_send (MayGet namesChat s delivery), hmayGet, Option.some_inj,
        forall_eq']

/-- For every job with a delivery, whoever is paired and whatever a run meets with. -/
theorem targetOnly_iff (namesChat : String → Bool) (w : Surroundings) (r : CronRun)
    (s : GatewayState) (job : CronJob) (delivery : CronDelivery)
    (hdelivery : job.deliverTo = some delivery) :
    TargetOnly namesChat w r s job delivery ↔ Addressed namesChat w r s job delivery := by
  rw [Addressed]
  cases hagent : job.codingAgent with
  | some agentId => exact codingAgent_iff hdelivery hagent
  | none =>
    have hfire (s : GatewayState) :
        fire w r s job = processMessage w r s job.id (buildInboundMessage job).incoming := by
      rw [fire, hagent]
    have hsplit : TargetOnly namesChat w r s job delivery ↔
        (∀ outputs, fire w r s job = some outputs → ∀ sent ∈ outputs,
          MayGet namesChat s delivery sent.channelType sent.recipientId) ∧
        ∀ users : KeyedMap String PairedUser,
          users.entries.Perm s.pairingService.pairedUsers.entries →
            fire w r (reorder s users) job = fire w r s job :=
      ⟨fun h ↦ ⟨h.onTarget, h.anyOrder⟩, fun h ↦ ⟨h.1, h.2⟩⟩
    simp only [hsplit, hfire]
    cases hstop : isStop (buildInboundMessage job).incoming.text with
    | false =>
      simp only [Bool.false_eq_true, if_false]
      exact oneRecipient_iff hstop rfl (senderId_not_numeric job)
    | true =>
      simp only [if_true, processMessage, hstop, Option.some_inj, forall_eq', implies_true, and_true]
      exact forall_mem_send (MayGet namesChat s delivery) (senderId job)

def reportTo (target : String) : CronJob :=
  ⟨"report", "@every 1h", .object [("message", .string "ask: report"),
    ("deliverTo", .object [("channel", .string "telegram"), ("target", .string target)])]⟩

/-- On Telegram, where everybody is let in who is paired. -/
def pairedWith (userIds : List String) : GatewayState where
  pairingService := { DmPairingService.new with
    pairedUsers := userIds.foldl (fun users id ↦ users.insert id ⟨id, 0, "telegram"⟩) ∅ }
  accessControl := { AccessControlBridge.new .default with
    pairedUsers := userIds.map ("telegram:" ++ ·) }

def telegramOnly : Surroundings := ⟨id, [⟨.telegram, "default"⟩], []⟩

def answered (response : String) : CronRun := ⟨false, [], some ⟨[], response, []⟩⟩

theorem targetOnly_one :
    TargetOnly (fun _ ↦ true) telegramOnly (answered "the report") (pairedWith ["1001"])
      (reportTo "1001") ⟨"telegram", "1001"⟩ := by
  refine (targetOnly_iff _ _ _ _ _ _ rfl).mpr ?_
  have husers : pairedOn (pairedWith ["1001"]) .telegram = [⟨"1001", 0, "telegram"⟩] := rfl
  change OneRecipient _ _ _ _ _ _ ⟨.telegram, "default", "cron:report"⟩
  intro user huser
  rw [husers] at huser
  obtain rfl := List.mem_singleton.mp huser
  refine ⟨fun other hother ↦ ?_, fun _ ↦ ⟨fun hands ↦ absurd rfl hands.2, fun _ _ _ ↦ ?_⟩⟩
  · rw [husers] at hother
    rw [List.mem_singleton.mp hother]
  · refine ⟨fun other hother ↦ ?_, rfl, .inl rfl⟩
    rw [husers] at hother
    rw [List.mem_singleton.mp hother]

/-- Two users are paired, and the one who is not the target gets the output. -/
theorem not_targetOnly :
    (∃ user ∈ pairedOn (pairedWith ["1001", "2002"]) .telegram, user.userId = "2002") ∧
    ¬ ∀ (namesChat : String → Bool) (w : Surroundings) (r : CronRun) (s : GatewayState)
      (job : CronJob) (delivery : CronDelivery), job.deliverTo = some delivery →
        TargetOnly namesChat w r s job delivery := by
  refine ⟨⟨⟨"2002", 0, "telegram"⟩, .head _, rfl⟩, fun h ↦ ?_⟩
  have honTarget := (h (fun _ ↦ true) telegramOnly (answered "the report")
    (pairedWith ["1001", "2002"]) (reportTo "1001") ⟨"telegram", "1001"⟩ rfl).onTarget
    [⟨.telegram, "default", "2002", "the report"⟩] (by decide +kernel) _ (.head _)
  rcases honTarget.2 with htarget | ⟨hnames, -⟩
  · exact absurd htarget (by decide)
  · exact absurd hnames (by decide)

end Jobs

end AdkGateway.Cron
