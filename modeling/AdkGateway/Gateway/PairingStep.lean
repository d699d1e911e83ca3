import AdkGateway.AccessControl.Decisions
import AdkGateway.Foundation.Text
import AdkGateway.Pairing.Lockout

namespace AdkGateway.Gateway

open AccessControl Foundation Pairing

structure GatewayState where
  pairingService : DmPairingService
  accessControl : AccessControlBridge

inductive MessageSource
  | channel
  | webhook (requestId : String)
  | cron (jobId : String)
  deriving DecidableEq

def MessageSource.isCron : MessageSource → Bool
  | cron _ => true
  | _ => false

structure Incoming where
  message : InboundMessage
  text : String
  source : MessageSource

inductive Outcome
  | stopped
  | replied (text : String)
  | proceeds
  deriving DecidableEq

def isStop (text : String) : Bool :=
  let command := (Text.trim text).toList.map Char.toLower
  command == "/stop".toList || command == "stop".toList

def pairingCode? (text : String) : Option String :=
  let code := Text.trim text
  if Text.byteLength code.toList == 6 && code.toList.all Char.isAlphanum then some code else none

def afterValidation (s : GatewayState) (msg : InboundMessage) :
    PairingResult → Outcome × GatewayState
  | .success => (.replied "✅ Paired! You can now use the bot.",
      { s with accessControl :=
          s.accessControl.markPaired (AccessControlBridge.mapIdentity msg).canonicalId })
  | .locked _ => (.replied "🔒 Too many failed attempts. Try again later.", s)
  | _ => (.replied "❌ Invalid code. Try again.", s)

def tryPairing (s : GatewayState) (inbound : Incoming) (t : DmPairingService.Readings) :
    Outcome × GatewayState :=
  match pairingCode? inbound.text with
  | none => (.replied "🔑 Send your 6-digit pairing code to get started.", s)
  | some code =>
    let validated := s.pairingService.validateCode inbound.message.senderId code
      inbound.message.channelType.toString t
    afterValidation { s with pairingService := validated.2 } inbound.message validated.1

def processMessage (s : GatewayState) (inbound : Incoming) (t : DmPairingService.Readings) :
    Outcome × GatewayState :=
  if isStop inbound.text then (.stopped, s)
  else if inbound.source.isCron then (.proceeds, s)
  else
    match s.accessControl.checkMessageAccess inbound.message with
    | .allowed => (.proceeds, s)
    | .denied reason => (.replied ("⛔ Access denied: " ++ reason), s)
    | .requiresPairing => tryPairing s inbound t

/-- The gateway starts with the file of paired users as the last shutdown left it. -/
def startup (format : TimeFormat) (config : GatewayConfig) (file : Option Json) : GatewayState where
  pairingService := DmPairingService.new.restorePairedUsers
    (DmPairingService.loadPersisted format file)
  accessControl := .new config

inductive Op
  | generateCode (draw : Fin 6 → Fin 32) (now : DateTime)
  | cleanup (codesNow lockoutsNow : String → DateTime)
  | message (inbound : Incoming) (t : DmPairingService.Readings)
  | rebuild (config : GatewayConfig)
  | restart (config : GatewayConfig)

def step (format : TimeFormat) (s : GatewayState) : Op → Option Outcome × GatewayState
  | .generateCode draw now =>
    (none, { s with pairingService := (s.pairingService.apply (.generateCode draw now)).2 })
  | .cleanup codesNow lockoutsNow =>
    (none, { s with pairingService := (s.pairingService.apply (.cleanup codesNow lockoutsNow)).2 })
  | .message inbound t =>
    (some (processMessage s inbound t).1, (processMessage s inbound t).2)
  | .rebuild config => (none, { s with accessControl := s.accessControl.rebuild config })
  | .restart config => (none, startup format config (some (s.pairingService.persist format)))

end AdkGateway.Gateway
