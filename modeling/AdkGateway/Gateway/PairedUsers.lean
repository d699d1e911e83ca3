import AdkGateway.Foundation.Machine
import AdkGateway.Gateway.PairingStep
import AdkGateway.SessionBridge.Key

namespace AdkGateway.Gateway

open AccessControl Foundation Pairing

/-- The pairing service has a record of the sender, on that channel. -/
def Recorded (s : GatewayState) (channelType : ChannelType) (senderId : String) : Prop :=
  ∃ user, s.pairingService.pairedUsers.lookup senderId = some user ∧
    user.channelType = channelType.toString

def policyOf (s : GatewayState) (channelType : ChannelType) : ChannelPolicy :=
  (s.accessControl.channelPolicies.lookup channelType.toString).getD s.accessControl.defaultPolicy

def Agree (s : GatewayState) : Prop :=
  ∀ msg : InboundMessage, (policyOf s msg.channelType).dmPolicy = .pairing →
    (s.accessControl.checkMessageAccess msg = .allowed ↔ Recorded s msg.channelType msg.senderId)

/-- The code is good and the user is not locked out. -/
def Accepts (s : DmPairingService) (userId code : String) (t : DmPairingService.Readings) : Prop :=
  s.lockedUntil? userId t.checked = none ∧
    ∃ pc, s.codes.lookup code = some pc ∧ pc.used = false ∧ t.looked < pc.expiresAt

/-- A good code does not come from a user whose record is of another channel,
and the gateway restarts only while there are no records. -/
def Respects (s : GatewayState) : Op → Prop
  | .message inbound t => ∀ code, pairingCode? inbound.text = some code →
    Accepts s.pairingService inbound.message.senderId code t →
      ∀ user, s.pairingService.pairedUsers.lookup inbound.message.senderId = some user →
        user.channelType = inbound.message.channelType.toString
  | .restart _ => KeyedMap.size s.pairingService.pairedUsers = 0
  | _ => True

/-- The bridge knows the pairs of channel and sender that the service has a record of. -/
def InStep (s : GatewayState) : Prop :=
  ∀ channelType senderId, channelType.toString ++ ":" ++ senderId ∈ s.accessControl.pairedUsers ↔
    Recorded s channelType senderId

section Steps

variable {s : GatewayState} {format : TimeFormat}

theorem InStep.agree (hs : InStep s) : Agree s := by
  intro msg hpolicy
  have hmem := hs msg.channelType msg.senderId
  rw [← hmem]
  change AccessControlBridge.evaluatePolicy (policyOf s msg.channelType)
    (AccessControlBridge.mapIdentity msg) s.accessControl.pairedUsers = .allowed ↔ _
  simp only [AccessControlBridge.evaluatePolicy, hpolicy, AccessControlBridge.mapIdentity,
    List.contains_iff_mem]
  split
  next hin => simp [hin]
  next hout => simp [hout]

theorem inStep_startup (config : GatewayConfig) {file : Option Json}
    (hfile : DmPairingService.loadPersisted format file = []) :
    InStep (startup format config file) := by
  intro channelType senderId
  have hnone : (startup format config file).pairingService.pairedUsers.lookup senderId = none := by
    simp [startup, hfile, DmPairingService.restorePairedUsers, DmPairingService.new]
  simp only [Recorded, hnone]
  simp [startup, AccessControlBridge.new]

theorem loadPersisted_persist_nil {service : DmPairingService}
    (hsize : KeyedMap.size service.pairedUsers = 0) :
    DmPairingService.loadPersisted format (some (service.persist format)) = [] := by
  have hentries : service.pairedUsers.entries = [] := List.eq_nil_of_length_eq_zero hsize
  simp [DmPairingService.persist, KeyedMap.values, hentries, DmPairingService.loadPersisted]

theorem not_recorded_of_size (hsize : KeyedMap.size s.pairingService.pairedUsers = 0)
    (channelType : ChannelType) (senderId : String) : ¬ Recorded s channelType senderId := by
  intro hrecorded
  obtain ⟨user, huser, -⟩ := hrecorded
  have hentries : s.pairingService.pairedUsers.entries = [] := List.eq_nil_of_length_eq_zero hsize
  have hmem := KeyedMap.lookup_eq_some_iff.mp huser
  rw [hentries] at hmem
  cases hmem

theorem refusal_eq_none_iff {pc : PairingCode} {now : DateTime} :
    DmPairingService.refusal pc now = none ↔ pc.used = false ∧ now < pc.expiresAt := by
  unfold DmPairingService.refusal PairingCode.isValid
  cases pc.used <;> simp

theorem refusal_ne_success {pc : PairingCode} {now : DateTime} {result : PairingResult}
    (h : DmPairingService.refusal pc now = some result) : result ≠ .success := by
  unfold DmPairingService.refusal at h
  split at h
  · cases h
    nofun
  · split at h
    · cases h
    · cases h
      nofun

theorem recordFailure_ne_success (service : DmPairingService) (userId : String)
    (checked locked : DateTime) : (service.recordFailure userId checked locked).2 ≠ .success := by
  intro h
  simp only [DmPairingService.recordFailure, LockoutInfo.fail] at h
  split at h <;> split at h <;> cases h

theorem validateCode_cases (service : DmPairingService) (userId code channelType : String)
    (t : DmPairingService.Readings) :
    ((service.validateCode userId code channelType t).1 = .success ∧ Accepts service userId code t ∧
      (service.validateCode userId code channelType t).2.pairedUsers =
        service.pairedUsers.insert userId ⟨userId, t.paired, channelType⟩) ∨
    ((service.validateCode userId code channelType t).1 ≠ .success ∧
      (service.validateCode userId code channelType t).2.pairedUsers = service.pairedUsers) := by
  unfold DmPairingService.validateCode
  split
  · exact .inr ⟨nofun, rfl⟩
  next hopen =>
    split
    · refine .inr ⟨?_, rfl⟩
      exact recordFailure_ne_success _ _ _ _
    next pc hfound =>
      split
      next result hrefused => exact .inr ⟨refusal_ne_success hrefused, rfl⟩
      next hgood =>
        obtain ⟨hused, hfresh⟩ := refusal_eq_none_iff.mp hgood
        exact .inl ⟨rfl, ⟨hopen, pc, hfound, hused, hfresh⟩, rfl⟩

theorem recorded_congr {s' : GatewayState}
    (h : s'.pairingService.pairedUsers = s.pairingService.pairedUsers) (channelType : ChannelType)
    (senderId : String) : Recorded s' channelType senderId ↔ Recorded s channelType senderId := by
  rw [Recorded, h, Recorded]

theorem processMessage_cases (s : GatewayState) (inbound : Incoming)
    (t : DmPairingService.Readings) :
    ((processMessage s inbound t).2.pairingService.pairedUsers = s.pairingService.pairedUsers ∧
      (processMessage s inbound t).2.accessControl = s.accessControl) ∨
    ∃ code, pairingCode? inbound.text = some code ∧
      Accepts s.pairingService inbound.message.senderId code t ∧
      (processMessage s inbound t).2.pairingService.pairedUsers =
        s.pairingService.pairedUsers.insert inbound.message.senderId
          ⟨inbound.message.senderId, t.paired, inbound.message.channelType.toString⟩ ∧
      (processMessage s inbound t).2.accessControl = s.accessControl.markPaired
        (AccessControlBridge.mapIdentity inbound.message).canonicalId := by
  unfold processMessage
  split
  · exact .inl ⟨rfl, rfl⟩
  split
  · exact .inl ⟨rfl, rfl⟩
  split
  · exact .inl ⟨rfl, rfl⟩
  · exact .inl ⟨rfl, rfl⟩
  unfold tryPairing
  split
  · exact .inl ⟨rfl, rfl⟩
  next code hcode =>
    obtain ⟨hsuccess, haccepts, hpaired⟩ | ⟨hfails, hpaired⟩ := validateCode_cases
      s.pairingService inbound.message.senderId code inbound.message.channelType.toString t
    · refine .inr ⟨code, hcode, haccepts, ?_, ?_⟩
      · simpa only [afterValidation, hsuccess] using hpaired
      · simp only [afterValidation, hsuccess]
    · refine .inl ?_
      simp only [afterValidation]
      split
      next hsuccess => exact absurd hsuccess hfails
      · exact ⟨hpaired, rfl⟩
      · exact ⟨hpaired, rfl⟩

theorem recorded_insert {s' : GatewayState} {msg : InboundMessage} {pairedAt : DateTime}
    (h : s'.pairingService.pairedUsers = s.pairingService.pairedUsers.insert msg.senderId
      ⟨msg.senderId, pairedAt, msg.channelType.toString⟩)
    (hsame : ∀ user, s.pairingService.pairedUsers.lookup msg.senderId = some user →
      user.channelType = msg.channelType.toString)
    (channelType : ChannelType) (senderId : String) : Recorded s' channelType senderId ↔
      (channelType = msg.channelType ∧ senderId = msg.senderId) ∨
        Recorded s channelType senderId := by
  simp only [Recorded, h, KeyedMap.lookup_insert_if]
  by_cases hsender : senderId = msg.senderId
  · subst hsender
    have hold (user : PairedUser)
        (huser : s.pairingService.pairedUsers.lookup msg.senderId = some user)
        (hchannel : user.channelType = channelType.toString) : channelType = msg.channelType :=
      ChannelType.toString_injective (hchannel.symm.trans (hsame user huser))
    simp only [if_true, Option.some.injEq, exists_eq_left', ChannelType.toString_injective.eq_iff,
      and_true]
    constructor
    · intro heq
      exact .inl heq.symm
    · intro hrecorded
      obtain heq | ⟨user, huser, hchannel⟩ := hrecorded
      · exact heq.symm
      · exact (hold user huser hchannel).symm
  · simp only [hsender, if_false, and_false, false_or]

theorem InStep.congr {s' : GatewayState} (hs : InStep s)
    (hservice : s'.pairingService.pairedUsers = s.pairingService.pairedUsers)
    (hbridge : s'.accessControl.pairedUsers = s.accessControl.pairedUsers) : InStep s' := by
  intro channelType senderId
  rw [recorded_congr hservice, hbridge]
  exact hs channelType senderId

theorem inStep_message (hs : InStep s) {inbound : Incoming} {t : DmPairingService.Readings}
    (hok : Respects s (.message inbound t)) : InStep (processMessage s inbound t).2 := by
  obtain ⟨hpaired, hbridge⟩ | ⟨code, hcode, haccepts, hpaired, hbridge⟩ :=
    processMessage_cases s inbound t
  · exact hs.congr hpaired (congrArg AccessControlBridge.pairedUsers hbridge)
  · intro channelType senderId
    rw [recorded_insert hpaired (hok code hcode haccepts), hbridge, ← hs channelType senderId]
    simp only [AccessControlBridge.markPaired, AccessControlBridge.mapIdentity,
      List.mem_insert_iff, SessionBridge.channelKey_eq_iff]

theorem step_message (inbound : Incoming) (t : DmPairingService.Readings) :
    (step format s (.message inbound t)).2 = (processMessage s inbound t).2 := by
  rw [step]

theorem inStep_step (hs : InStep s) {op : Op} (hok : Respects s op) :
    InStep (step format s op).2 := by
  cases op with
  | generateCode draw now => exact hs.congr rfl rfl
  | cleanup codesNow lockoutsNow => exact hs.congr rfl rfl
  | message inbound t =>
    rw [step_message]
    exact inStep_message hs hok
  | rebuild config => exact hs.congr rfl rfl
  | restart config => exact inStep_startup config (loadPersisted_persist_nil hok)

theorem recorded_step {op : Op} (hok : Respects s op) {channelType : ChannelType}
    {senderId : String} (hrecorded : Recorded s channelType senderId) :
    Recorded (step format s op).2 channelType senderId := by
  cases op with
  | generateCode draw now => exact (recorded_congr rfl channelType senderId).mpr hrecorded
  | cleanup codesNow lockoutsNow => exact (recorded_congr rfl channelType senderId).mpr hrecorded
  | message inbound t =>
    rw [step_message]
    obtain ⟨hpaired, -⟩ | ⟨code, hcode, haccepts, hpaired, -⟩ := processMessage_cases s inbound t
    · exact (recorded_congr hpaired channelType senderId).mpr hrecorded
    · have hsame := hok code hcode haccepts
      exact (recorded_insert hpaired hsame channelType senderId).mpr (.inr hrecorded)
  | rebuild config => exact (recorded_congr rfl channelType senderId).mpr hrecorded
  | restart config => exact absurd hrecorded (not_recorded_of_size hok channelType senderId)

end Steps

section Runs

variable {format : TimeFormat} {s : GatewayState} {ops : List Op}

theorem inStep_run (hs : InStep s) (hok : Machine.Along (step format) Respects s ops) :
    InStep (Machine.run (step format) s ops) := by
  induction ops generalizing s with
  | nil => exact hs
  | cons op ops ih => exact ih (inStep_step hs hok.1) hok.2

theorem recorded_run (hok : Machine.Along (step format) Respects s ops) {channelType : ChannelType}
    {senderId : String} (hrecorded : Recorded s channelType senderId) :
    Recorded (Machine.run (step format) s ops) channelType senderId := by
  induction ops generalizing s with
  | nil => exact hrecorded
  | cons op ops ih => exact ih hok.2 (recorded_step hok.1 hrecorded)

end Runs

/-- While every restart finds no records and no user pairs on a second channel,
service and bridge agree in every state, and who is paired stays so. -/
theorem agree_of_run (format : TimeFormat) (config : GatewayConfig) (ops : List Op)
    (hok : Machine.Along (step format) Respects (startup format config none) ops) :
    Agree (Machine.run (step format) (startup format config none) ops) ∧
      ∀ earlier later, ops = earlier ++ later → ∀ channelType senderId,
        Recorded (Machine.run (step format) (startup format config none) earlier)
          channelType senderId →
        Recorded (Machine.run (step format) (startup format config none) ops)
          channelType senderId := by
  have hstart : InStep (startup format config none) := inStep_startup config rfl
  refine ⟨(inStep_run hstart hok).agree, ?_⟩
  intro earlier later heq channelType senderId hrecorded
  subst heq
  rw [Machine.run_append]
  exact recorded_run (Machine.along_append (step format)|>.mp hok).2 hrecorded

def epoch : TimeFormat := ⟨fun _ ↦ "1970-01-01T00:00:00Z", fun _ ↦ some 0⟩

/-- The user writes on a channel. -/
def write (channelType : ChannelType) (text : String) : Op :=
  .message ⟨⟨channelType, "", "+15550100"⟩, text, .channel⟩ (DmPairingService.readings 0)

/-- A code is generated, and the user sends it on a channel. -/
def pairOn (channelType : ChannelType) (draw : Fin 32) : List Op :=
  [.generateCode (fun _ ↦ draw) 0,
    write channelType (generatePairingCode fun _ ↦ draw)]

theorem agree_of_run_once :
    Machine.Along (step epoch) Respects (startup epoch .default none)
      (.restart .default :: pairOn .signal 0 ++ [.rebuild .default, write .imessage "hello"]) ∧
    Agree (Machine.run (step epoch) (startup epoch .default none)
      (.restart .default :: pairOn .signal 0 ++ [.rebuild .default, write .imessage "hello"])) := by
  have hok : Machine.Along (step epoch) Respects (startup epoch .default none)
      (.restart .default :: pairOn .signal 0 ++ [.rebuild .default, write .imessage "hello"]) := by
    refine ⟨rfl, trivial, ?_, trivial, ?_, trivial⟩
    · intro code _ _ user huser
      cases huser
    · intro code hcode
      cases hcode
  exact ⟨hok, (agree_of_run epoch .default _ hok).1⟩

theorem restart_forgets_and_second_channel_unpairs :
    ¬ Agree (Machine.run (step epoch) (startup epoch .default none)
      (pairOn .signal 0 ++ [.restart .default])) ∧
    ¬ Agree (Machine.run (step epoch) (startup epoch .default none)
      (pairOn .signal 0 ++ pairOn .imessage 1)) := by
  constructor
  · intro hagree
    have hsignal := hagree ⟨.signal, "", "+15550100"⟩ rfl
    have hrecorded : Recorded (Machine.run (step epoch) (startup epoch .default none)
        (pairOn .signal 0 ++ [.restart .default])) .signal "+15550100" := ⟨_, rfl, rfl⟩
    exact absurd (hsignal.mpr hrecorded) (by decide)
  · intro hagree
    have hsignal := hagree ⟨.signal, "", "+15550100"⟩ rfl
    obtain ⟨user, huser, hchannel⟩ := hsignal.mp rfl
    cases huser
    exact absurd hchannel (by decide)

end AdkGateway.Gateway
