import AdkGateway.CodingAgent.StatusEvents
import AdkGateway.Foundation.JsonEdit
import Mathlib.Data.Rat.Defs

namespace AdkGateway.CodingAgent.Registration

open Foundation Json
open StatusEvents (BackendDefinition)

inductive AgentTransport
  | stdio (command : String) (args : List String) (env : List (String × String))
  | http (url : String)

structure AgentAuthConfig where
  credentials : Option String
  token : Option String
  expiresAt : Option DateTime

structure CodingAgentInstanceConfig where
  id : String
  backendType : String
  endpoint : String
  transport : Option AgentTransport
  workspaces : List String
  timeoutSecs : Option ℕ
  costCapUsd : Option ℚ
  monthlyBudgetUsd : Option ℚ
  agentAlias : Option String
  auth : Option AgentAuthConfig

abbrev Agents := KeyedMap String CodingAgentInstanceConfig

section Registry

def display : StatusEvents.CodingAgentError → String
  | .configValidation message => "Configuration validation error: " ++ message
  | .agentNotFound agentId => "Agent not found: " ++ agentId

def registerAgent (agents : Agents) (config : CodingAgentInstanceConfig) :
    Except StatusEvents.CodingAgentError Agents :=
  if config.id ∈ agents then
    .error (.configValidation ("Agent with id '" ++ config.id ++ "' is already registered"))
  else .ok (agents.insert config.id config)

def unregisterAgent (agents : Agents) (agentId : String) :
    Except StatusEvents.CodingAgentError Agents :=
  if agentId ∈ agents then .ok (agents.erase agentId) else .error (.agentNotFound agentId)

def registerAll (configs : List CodingAgentInstanceConfig) (agents : Agents) : Agents :=
  configs.foldl (fun agents config ↦ (registerAgent agents config).toOption.getD agents) agents

theorem lookup_registerAgent (agents : Agents) (config : CodingAgentInstanceConfig)
    (agentId : String) :
    AList.lookup agentId ((registerAgent agents config).toOption.getD agents) =
      (agents.lookup agentId).or (if agentId = config.id then some config else none) := by
  by_cases hmem : config.id ∈ agents
  · rw [registerAgent, if_pos hmem]
    split
    next h =>
      obtain ⟨old, hold⟩ := Option.isSome_iff_exists.mp (AList.lookup_isSome.mpr hmem)
      rw [h, hold]
      exact hold
    next => exact Option.or_none.symm
  · rw [registerAgent, if_neg hmem, Except.toOption, Option.getD_some, KeyedMap.lookup_insert_if]
    split
    next h => rw [h, AList.lookup_eq_none.mpr hmem, Option.none_or]
    next => exact Option.or_none.symm

end Registry

section Documents

structure Formats where
  number : ℚ → String
  time : DateTime → String

variable (formats : Formats)

def optional {α : Type} (write : α → Json) (value : Option α) : Json := (value.map write).getD .null

def AgentTransport.toValue : AgentTransport → Json
  | .stdio command args env => .object [("type", .string "stdio"), ("command", .string command),
      ("args", .array (args.map .string)), ("env", .object (env.map fun e ↦ (e.1, .string e.2)))]
  | .http url => .object [("type", .string "http"), ("url", .string url)]

def AgentAuthConfig.toValue (auth : AgentAuthConfig) : Json :=
  .object [("credentials", optional .string auth.credentials),
    ("token", optional .string auth.token),
    ("expiresAt", optional (.string ∘ formats.time) auth.expiresAt)]

def CodingAgentInstanceConfig.toValue (config : CodingAgentInstanceConfig) : Json :=
  .object [("id", .string config.id), ("backendType", .string config.backendType),
    ("endpoint", .string config.endpoint),
    ("transport", optional AgentTransport.toValue config.transport),
    ("workspaces", .array (config.workspaces.map .string)),
    ("timeoutSecs", optional (fun n ↦ .number (toString n)) config.timeoutSecs),
    ("costCapUsd", optional (.number ∘ formats.number) config.costCapUsd),
    ("monthlyBudgetUsd", optional (.number ∘ formats.number) config.monthlyBudgetUsd),
    ("alias", optional .string config.agentAlias),
    ("auth", optional (AgentAuthConfig.toValue formats) config.auth)]

def named (agentId : String) (entry : Json) : Bool := (entry.get "id").bind asStr = some agentId

theorem named_iff {agentId : String} {entry : Json} :
    named agentId entry = true ↔ entry.get "id" = some (.string agentId) := by
  rw [named, decide_eq_true_iff, Option.bind_eq_some_iff]
  constructor
  · rintro ⟨value, hget, hvalue⟩
    cases value with
    | string s =>
      cases hvalue
      exact hget
    | _ => cases hvalue
  · exact fun h ↦ ⟨_, h, rfl⟩

theorem get_id_toValue (config : CodingAgentInstanceConfig) :
    (config.toValue formats).get "id" = some (.string config.id) := rfl

def editAgents (fresh : Json) (edit : List Json → List Json) (value : Json) :
    Except String Json := do
  let .object fields := value | .error "Config is not a JSON object"
  let .object codingAgents := (fields.lookup "codingAgents").getD fresh
    | .error "codingAgents is not an object"
  let .array arr := (codingAgents.lookup "agents").getD (.array [])
    | .error "codingAgents.agents is not an array"
  .ok (.object (insertField "codingAgents"
    (.object (insertField "agents" (.array (edit arr)) codingAgents)) fields))

end Documents

section Files

/-- What the file holds, and why only a lenient reader can read it, if so. -/
structure ConfigFile where
  value : Json
  strictError : Option String

/-- Why the file cannot be read or written while a request is served, if so. -/
structure Access where
  readError : Option String
  writeError : Option String

def check (text : String) : Option String → Except String Unit
  | none => .ok ()
  | some e => .error (text ++ e)

namespace Access

def load (access : Access) (strictly : Bool) (strictError : Option String) :
    Except String Unit := do
  check "Failed to read config file: " access.readError
  if strictly then check "Failed to parse config file: " strictError

def store (access : Access) : Except String Unit :=
  check "Failed to write config file: " access.writeError

def rewrites (access : Access) (strictly : Bool) (strictError : Option String) :
    Except String Unit := do
  access.load strictly strictError
  access.store

end Access

variable (formats : Formats) (access : Access) (config : CodingAgentInstanceConfig)
  (agentId : String) (file : ConfigFile)

def persist (strictly : Bool) (fresh : Json) (edit : List Json → List Json) :
    Except String ConfigFile := do
  access.load strictly file.strictError
  let value ← editAgents fresh edit file.value
  access.store
  pure ⟨value, none⟩

def persistAgentToConfig : Except String ConfigFile :=
  persist access file true (.object [("enabled", .bool true), ("agents", .array [])])
    fun arr ↦ (arr.filter fun entry ↦ !named config.id entry) ++ [config.toValue formats]

def persistAgentConfig : Except String ConfigFile :=
  persist access file false
    (.object [("enabled", .bool true), ("agents", .array []), ("backends", .array [])])
    fun arr ↦ arr ++ [config.toValue formats]

def removeAgentFromConfig : Except String ConfigFile := do
  access.load true file.strictError
  match (file.value.get "codingAgents").bind fun codingAgents ↦
      (codingAgents.get "agents").bind asArray with
  | none => pure file
  | some arr =>
    let kept := arr.filter fun entry ↦ !named agentId entry
    if kept.length = arr.length then pure file
    else
      access.store
      pure ⟨adjustAt (fun _ ↦ .array kept) ["codingAgents", "agents"] file.value, none⟩

end Files

section Requests

structure UpdateConfigRequest where
  costCapUsd : Option ℚ
  monthlyBudgetUsd : Option ℚ
  timeoutSecs : Option ℕ
  workspaces : Option (List String)
  agentAlias : Option String

def UpdateConfigRequest.updated (payload : UpdateConfigRequest)
    (current : CodingAgentInstanceConfig) : CodingAgentInstanceConfig :=
  { current with
    workspaces := payload.workspaces.getD current.workspaces
    timeoutSecs := payload.timeoutSecs.or current.timeoutSecs
    costCapUsd := payload.costCapUsd.or current.costCapUsd
    monthlyBudgetUsd := payload.monthlyBudgetUsd.or current.monthlyBudgetUsd
    agentAlias := payload.agentAlias.or current.agentAlias }

structure OnboardingCompleteRequest where
  id : String
  backendType : String
  endpoint : String
  workspaces : List String
  timeoutSecs : Option ℕ
  costCapUsd : Option ℚ
  monthlyBudgetUsd : Option ℚ
  agentAlias : Option String
  credentials : Option String

namespace OnboardingCompleteRequest

variable (payload : OnboardingCompleteRequest)

def refusal (backends : KeyedMap String BackendDefinition) : Option String :=
  if payload.backendType ∉ backends then some ("Unknown backend type: " ++ payload.backendType)
  else if Text.trim payload.id = "" then some "Agent ID is required"
  else if Text.trim payload.endpoint = "" then some "Endpoint URL is required"
  else if payload.workspaces.isEmpty then some "At least one workspace directory is required"
  else none

def agentConfig : CodingAgentInstanceConfig where
  id := payload.id
  backendType := payload.backendType
  endpoint := payload.endpoint
  transport := none
  workspaces := payload.workspaces
  timeoutSecs := payload.timeoutSecs
  costCapUsd := payload.costCapUsd
  monthlyBudgetUsd := payload.monthlyBudgetUsd
  agentAlias := payload.agentAlias
  auth := payload.credentials.map fun credentials ↦ ⟨some credentials, none, none⟩

end OnboardingCompleteRequest

structure Reply where
  ok : Bool
  agentId : Option String
  message : String

inductive Request
  | register (config : CodingAgentInstanceConfig) (access : Access)
  | onboard (payload : OnboardingCompleteRequest) (access : Access)
  | unregister (agentId : String) (access : Access)
  | update (agentId : String) (payload : UpdateConfigRequest)
  | reload

end Requests

namespace Reply

def failed (text : String) (e : StatusEvents.CodingAgentError) : Reply :=
  ⟨false, none, text ++ display e⟩

def alreadyRegistered (agentId : String) : Reply :=
  failed "Failed to register agent: "
    (.configValidation ("Agent with id '" ++ agentId ++ "' is already registered"))

def registered (agentId : String) : Reply :=
  ⟨true, none, "Agent '" ++ agentId ++ "' registered successfully"⟩

def mayNotPersist (agentId e : String) : Reply :=
  ⟨true, none,
    "Agent '" ++ agentId ++ "' registered but may not persist across restarts: " ++ e⟩

def refused (message : String) : Reply := ⟨false, none, message⟩

def onboarded (agentId : String) : Reply :=
  ⟨true, some agentId, "Agent registered and configuration saved successfully."⟩

def onboardedUnsaved (agentId : String) : Reply :=
  ⟨true, some agentId, "Agent registered successfully, but config file could not be updated. " ++
    "Changes may not persist across restarts."⟩

def unregistered (agentId : String) : Reply :=
  ⟨true, none, "Agent '" ++ agentId ++ "' unregistered successfully"⟩

def notFound (agentId : String) : Reply := ⟨false, none, "Agent '" ++ agentId ++ "' not found"⟩

def updated (agentId : String) : Reply :=
  ⟨true, none, "Agent '" ++ agentId ++ "' configuration updated"⟩

end Reply

structure Panel where
  agents : Agents
  backends : KeyedMap String BackendDefinition
  file : ConfigFile

section Panel

variable (formats : Formats) (read : Json → Option CodingAgentInstanceConfig)

def agentItems (value : Json) : Option (List Json) :=
  match value.get "codingAgents" with
  | none => some []
  | some (.object codingAgents) => ((codingAgents.lookup "agents").getD (.array [])).asArray
  | some _ => none

def isEnabled (value : Json) : Prop :=
  (value.get "codingAgents").bind (Json.get "enabled") = some (.bool true)

instance (value : Json) : Decidable (isEnabled value) := inferInstanceAs (Decidable (_ = _))

def fromConfig (value : Json) : Option Agents := do
  let items ← agentItems value
  let configs ← items.mapM read
  some (registerAll configs ∅)

namespace Panel

def start (backends : KeyedMap String BackendDefinition) (file : ConfigFile) : Option Panel :=
  if isEnabled file.value then
    (fromConfig read file.value).map fun agents ↦ ⟨agents, backends, file⟩
  else none

variable (panel : Panel)

def registerCodingAgent (config : CodingAgentInstanceConfig) (access : Access) : Reply × Panel :=
  match registerAgent panel.agents config with
  | .error e => (.failed "Failed to register agent: " e, panel)
  | .ok agents =>
    match persistAgentToConfig formats access config panel.file with
    | .error e => (.mayNotPersist config.id e, { panel with agents })
    | .ok file => (.registered config.id, { panel with agents, file })

def onboardingComplete (payload : OnboardingCompleteRequest) (access : Access) : Reply × Panel :=
  match payload.refusal panel.backends with
  | some message => (.refused message, panel)
  | none =>
    match registerAgent panel.agents payload.agentConfig with
    | .error e => (.failed "Failed to register agent: " e, panel)
    | .ok agents =>
      match persistAgentConfig formats access payload.agentConfig panel.file with
      | .error _ => (.onboardedUnsaved payload.id, { panel with agents })
      | .ok file => (.onboarded payload.id, { panel with agents, file })

def unregisterCodingAgent (agentId : String) (access : Access) : Reply × Panel :=
  match unregisterAgent panel.agents agentId with
  | .error e => (.failed "Failed to unregister agent: " e, panel)
  | .ok agents =>
    match removeAgentFromConfig access agentId panel.file with
    | .error _ => (.unregistered agentId, { panel with agents })
    | .ok file => (.unregistered agentId, { panel with agents, file })

def updateAgentConfig (agentId : String) (payload : UpdateConfigRequest) : Reply × Panel :=
  match panel.agents.lookup agentId with
  | none => (.notFound agentId, panel)
  | some current =>
    match unregisterAgent panel.agents agentId with
    | .error e => (.failed "Failed to update agent config: " e, panel)
    | .ok agents =>
      match registerAgent agents (payload.updated current) with
      | .error e =>
        (.failed "Failed to re-register agent with updated config: " e, { panel with agents })
      | .ok agents => (.updated agentId, { panel with agents })

def reloadFromConfig : Panel :=
  match (agentItems panel.file.value).bind (·.mapM read) with
  | none => panel
  | some configs => { panel with agents := registerAll configs panel.agents }

def step (panel : Panel) : Request → Option Reply × Panel
  | .register config access => (panel.registerCodingAgent formats config access).map some id
  | .onboard payload access => (panel.onboardingComplete formats payload access).map some id
  | .unregister agentId access => (panel.unregisterCodingAgent agentId access).map some id
  | .update agentId payload => (panel.updateAgentConfig agentId payload).map some id
  | .reload => (none, panel.reloadFromConfig read)

end Panel

end Panel

structure Ledger where
  backends : KeyedMap String BackendDefinition
  running : String → Option CodingAgentInstanceConfig
  saved : String → Option CodingAgentInstanceConfig
  strictError : Option String

namespace Ledger

variable (l : Ledger)

def run (config : CodingAgentInstanceConfig) : Ledger :=
  { l with running := Function.update l.running config.id (some config) }

def save (config : CodingAgentInstanceConfig) : Ledger :=
  { l with saved := Function.update l.saved config.id (some config) }

/-- The file is written again, and what it has of the agent already comes first. -/
def add (config : CodingAgentInstanceConfig) : Ledger :=
  { l with
    saved := Function.update l.saved config.id ((l.saved config.id).or (some config))
    strictError := none }

def forget (agentId : String) : Ledger :=
  { l with saved := Function.update l.saved agentId none }

def stop (agentId : String) : Ledger :=
  { l with running := Function.update l.running agentId none }

def step (l : Ledger) : Request → Option Reply × Ledger
  | .register config access =>
    if (l.running config.id).isSome then (some (.alreadyRegistered config.id), l)
    else
      match access.rewrites true l.strictError with
      | .error e => (some (.mayNotPersist config.id e), l.run config)
      | .ok () => (some (.registered config.id), (l.run config).save config)
  | .onboard payload access =>
    match payload.refusal l.backends with
    | some message => (some (.refused message), l)
    | none =>
      if (l.running payload.id).isSome then (some (.alreadyRegistered payload.id), l)
      else
        match access.rewrites false l.strictError with
        | .error _ => (some (.onboardedUnsaved payload.id), l.run payload.agentConfig)
        | .ok () =>
          (some (.onboarded payload.id), (l.run payload.agentConfig).add payload.agentConfig)
  | .unregister agentId access =>
    if (l.running agentId).isSome then
      match access.rewrites true l.strictError with
      | .error _ => (some (.unregistered agentId), l.stop agentId)
      | .ok () => (some (.unregistered agentId), (l.stop agentId).forget agentId)
    else (some (.failed "Failed to unregister agent: " (.agentNotFound agentId)), l)
  | .update agentId payload =>
    match l.running agentId with
    | none => (some (.notFound agentId), l)
    | some current => (some (.updated agentId), l.run (payload.updated current))
  | .reload => (none, { l with running := fun agentId ↦ (l.running agentId).or (l.saved agentId) })

theorem running_run (config : CodingAgentInstanceConfig) (agentId : String) :
    (l.run config).running agentId =
      if agentId = config.id then some config else l.running agentId := Function.update_apply ..

theorem running_stop (agentId agentId' : String) : (l.stop agentId).running agentId' =
    if agentId' = agentId then none else l.running agentId' := Function.update_apply ..

theorem run_stop {config : CodingAgentInstanceConfig} {agentId : String}
    (hid : config.id = agentId) : (l.stop agentId).run config = l.run config := by
  subst hid
  rw [run, stop, run]
  dsimp only
  rw [Function.update_idem]

end Ledger

section Items

variable {formats : Formats} {read : Json → Option CodingAgentInstanceConfig} {items : List Json}
  {saved : String → Option CodingAgentInstanceConfig} {config : CodingAgentInstanceConfig}

structure Holds (read : Json → Option CodingAgentInstanceConfig) (items : List Json)
    (saved : String → Option CodingAgentInstanceConfig) : Prop where
  entries : ∀ entry ∈ items, ∃ config, read entry = some config ∧
    entry.get "id" = some (.string config.id)
  first : ∀ agentId, saved agentId = (items.find? (named agentId)).bind read

theorem named_eq_iff {entry : Json} (hid : entry.get "id" = some (.string config.id))
    {agentId : String} : named agentId entry = true ↔ agentId = config.id := by
  rw [named_iff, hid, Option.some.injEq, Json.string.injEq, eq_comm]

theorem find?_unnamed (items : List Json) (agentId agentId' : String) :
    (items.filter fun entry ↦ !named agentId entry).find? (named agentId') =
      if agentId' = agentId then none else items.find? (named agentId') := by
  rw [List.find?_filter]
  split
  next h =>
    subst h
    exact List.find?_eq_none.mpr fun entry _ ↦ by simp
  next h =>
    refine congrArg (items.find? ·) (funext fun entry ↦ ?_)
    cases hnamed : named agentId' entry with
    | false => simp
    | true =>
      have hother : named agentId entry = false := by
        refine Bool.eq_false_iff.mpr fun hentry ↦ h ?_
        have hsame := (named_iff.mp hnamed).symm.trans (named_iff.mp hentry)
        rwa [Option.some.injEq, Json.string.injEq] at hsame
      simp [hother]

theorem find?_written (formats : Formats) (config : CodingAgentInstanceConfig) (agentId : String) :
    [config.toValue formats].find? (named agentId) =
      if agentId = config.id then some (config.toValue formats) else none := by
  have hid := get_id_toValue formats config
  split
  next h => exact List.find?_cons_of_pos ((named_eq_iff hid).mpr h)
  next h =>
    rw [List.find?_cons_of_neg (fun hnamed ↦ h ((named_eq_iff hid).mp hnamed)), List.find?_nil]

namespace Holds

theorem id_eq (h : Holds read items saved) {agentId : String}
    (hsaved : saved agentId = some config) : config.id = agentId := by
  obtain ⟨entry, hfind, hread⟩ := Option.bind_eq_some_iff.mp ((h.first agentId).symm.trans hsaved)
  obtain ⟨config', hread', hid⟩ := h.entries entry (List.mem_of_find?_eq_some hfind)
  cases hread.symm.trans hread'
  exact ((named_eq_iff hid).mp (List.find?_some hfind)).symm

theorem entries_append (h : Holds read items saved)
    (hread : read (config.toValue formats) = some config) {kept : List Json}
    (hkept : ∀ entry ∈ kept, entry ∈ items) :
    ∀ entry ∈ kept ++ [config.toValue formats], ∃ config, read entry = some config ∧
      entry.get "id" = some (.string config.id) := by
  intro entry hentry
  obtain hentry | hentry := List.mem_append.mp hentry
  · exact h.entries entry (hkept entry hentry)
  · rw [List.mem_singleton.mp hentry]
    exact ⟨config, hread, get_id_toValue formats config⟩

theorem append (h : Holds read items saved) (hread : read (config.toValue formats) = some config) :
    Holds read (items ++ [config.toValue formats])
      (Function.update saved config.id ((saved config.id).or (some config))) := by
  refine ⟨h.entries_append hread fun _ ↦ id, fun agentId ↦ ?_⟩
  rw [List.find?_append, find?_written, Function.update_apply, h.first config.id]
  split
  next hnew =>
    subst hnew
    cases hfind : items.find? (named config.id) with
    | none => exact hread.symm
    | some entry =>
      obtain ⟨config', hread', -⟩ := h.entries entry (List.mem_of_find?_eq_some hfind)
      rw [Option.some_or, Option.bind_some, hread']
      rfl
  next => rw [Option.or_none, h.first]

theorem replace (h : Holds read items saved) (hread : read (config.toValue formats) = some config) :
    Holds read ((items.filter fun entry ↦ !named config.id entry) ++ [config.toValue formats])
      (Function.update saved config.id (some config)) := by
  refine ⟨h.entries_append hread fun _ ↦ List.mem_of_mem_filter, fun agentId ↦ ?_⟩
  rw [List.find?_append, find?_written, find?_unnamed, Function.update_apply]
  split
  next => exact hread.symm
  next => rw [Option.or_none, h.first]

theorem remove (h : Holds read items saved) (agentId : String) :
    Holds read (items.filter fun entry ↦ !named agentId entry)
      (Function.update saved agentId none) := by
  refine ⟨fun entry hentry ↦ h.entries entry (List.mem_of_mem_filter hentry), fun agentId' ↦ ?_⟩
  rw [find?_unnamed, Function.update_apply]
  split
  next => rfl
  next => exact h.first agentId'

theorem unlisted (h : Holds read items saved) {agentId : String}
    (hlength : (items.filter fun entry ↦ !named agentId entry).length = items.length) :
    saved agentId = none := by
  rw [h.first, List.find?_eq_none.mpr, Option.bind_none]
  intro entry hentry hnamed
  have hkept := List.length_filter_eq_length_iff.mp hlength entry hentry
  rw [hnamed] at hkept
  exact Bool.noConfusion hkept

theorem registerAll (h : Holds read items saved) : ∃ configs, items.mapM read = some configs ∧
    ∀ agents agentId, AList.lookup agentId (Registration.registerAll configs agents) =
      (agents.lookup agentId).or (saved agentId) := by
  obtain ⟨hentries, hfirst⟩ := h
  suffices hall : ∃ configs, items.mapM read = some configs ∧
      ∀ agents agentId, AList.lookup agentId (Registration.registerAll configs agents) =
        (agents.lookup agentId).or ((items.find? (named agentId)).bind read) by
    obtain ⟨configs, hread, hlookup⟩ := hall
    exact ⟨configs, hread, fun agents agentId ↦ by rw [hlookup, hfirst]⟩
  clear hfirst
  induction items with
  | nil => exact ⟨[], rfl, fun agents agentId ↦ by simp [Registration.registerAll]⟩
  | cons entry items ih =>
    obtain ⟨⟨config, hread, hid⟩, hrest⟩ := List.forall_mem_cons.mp hentries
    obtain ⟨configs, hconfigs, hlookup⟩ := ih hrest
    have hall : (entry :: items).mapM read = some (config :: configs) := by
      rw [List.mapM_cons, hread, hconfigs]
      rfl
    refine ⟨config :: configs, hall, fun agents agentId ↦ ?_⟩
    have hnext := hlookup ((registerAgent agents config).toOption.getD agents) agentId
    rw [Registration.registerAll, List.foldl_cons]
    refine hnext.trans ?_
    rw [lookup_registerAgent, Option.or_assoc]
    by_cases hnew : agentId = config.id
    · rw [if_pos hnew, List.find?_cons_of_pos ((named_eq_iff hid).mpr hnew), Option.bind_some,
        hread, Option.some_or]
    · rw [if_neg hnew, List.find?_cons_of_neg fun hnamed ↦ hnew ((named_eq_iff hid).mp hnamed),
        Option.none_or]

end Holds

end Items

section Edits

variable {formats : Formats} {read : Json → Option CodingAgentInstanceConfig} {items : List Json}
  {saved : String → Option CodingAgentInstanceConfig} {config : CodingAgentInstanceConfig}
  {value value' value'' : Json} {file : ConfigFile} {access : Access}

structure SameBut (value value' : Json) : Prop where
  elsewhere : ∀ key, key ≠ "codingAgents" → value'.get key = value.get key
  beside : ∀ key, key ≠ "agents" →
    (value'.get "codingAgents").bind (Json.get key) =
      (value.get "codingAgents").bind (Json.get key)

namespace SameBut

theorem refl (value : Json) : SameBut value value := ⟨fun _ _ ↦ rfl, fun _ _ ↦ rfl⟩

theorem trans (h : SameBut value value') (h' : SameBut value' value'') : SameBut value value'' where
  elsewhere key hkey := (h'.elsewhere key hkey).trans (h.elsewhere key hkey)
  beside key hkey := (h'.beside key hkey).trans (h.beside key hkey)

theorem isEnabled (h : SameBut value value') (hon : isEnabled value) :
    Registration.isEnabled value' := (h.beside "enabled" (by decide)).trans hon

end SameBut

theorem exists_of_isEnabled (hon : isEnabled value) : ∃ fields codingAgents,
    value = .object fields ∧ fields.lookup "codingAgents" = some (.object codingAgents) := by
  obtain ⟨inner, hinner, henabled⟩ := Option.bind_eq_some_iff.mp hon
  cases value with
  | object fields =>
    cases inner with
    | object codingAgents => exact ⟨fields, codingAgents, rfl, hinner⟩
    | _ => cases henabled
  | _ => cases hinner

theorem get_object (key : String) (fields : List (String × Json)) :
    (Json.object fields).get key = fields.lookup key := rfl

theorem editAgents_ok (hon : isEnabled value) (hitems : agentItems value = some items)
    (fresh : Json) (edit : List Json → List Json) : ∃ value',
      editAgents fresh edit value = .ok value' ∧ SameBut value value' ∧
        agentItems value' = some (edit items) := by
  obtain ⟨fields, codingAgents, rfl, hsection⟩ := exists_of_isEnabled hon
  have hget : (Json.object fields).get "codingAgents" = some (.object codingAgents) := hsection
  have harray : (codingAgents.lookup "agents").getD (.array []) = .array items := by
    rw [agentItems, hget] at hitems
    dsimp only at hitems
    cases hagents : (codingAgents.lookup "agents").getD (.array []) with
    | array arr =>
      rw [hagents] at hitems
      exact congrArg Json.array (Option.some.inj hitems)
    | _ =>
      rw [hagents] at hitems
      cases hitems
  refine ⟨.object (insertField "codingAgents"
    (.object (insertField "agents" (.array (edit items)) codingAgents)) fields), ?_, ⟨?_, ?_⟩, ?_⟩
  · simp only [editAgents, hsection, Option.getD_some, harray]
  · intro key hkey
    rw [get_object, get_object, lookup_insertField_ne hkey]
  · intro key hkey
    rw [get_object, lookup_insertField_self, hget, Option.bind_some, Option.bind_some, get_object,
      get_object, lookup_insertField_ne hkey]
  · rw [agentItems, get_object, lookup_insertField_self]
    dsimp only
    rw [lookup_insertField_self]
    rfl

theorem adjustAt_agents {codingAgents : List (String × Json)} {agents : Json}
    (hget : value.get "codingAgents" = some (.object codingAgents))
    (hagents : codingAgents.lookup "agents" = some agents) (kept : List Json) :
    SameBut value (adjustAt (fun _ ↦ .array kept) ["codingAgents", "agents"] value) ∧
      agentItems (adjustAt (fun _ ↦ .array kept) ["codingAgents", "agents"] value) = some kept := by
  have hadjusted : adjustAt (fun _ ↦ .array kept) ["codingAgents", "agents"] value =
      adjust "codingAgents" (adjust "agents" fun _ ↦ .array kept) value := rfl
  have hinner : (adjust "agents" (fun _ ↦ .array kept) (.object codingAgents)).get "agents" =
      some (.array kept) := by
    rw [get_adjust_self, get_object, hagents, Option.map_some]
  rw [hadjusted]
  refine ⟨⟨fun key hkey ↦ get_adjust_ne hkey _, fun key hkey ↦ ?_⟩, ?_⟩
  · rw [get_adjust_self, hget, Option.map_some, Option.bind_some, Option.bind_some,
      get_adjust_ne hkey]
  · rw [agentItems, get_adjust_self, hget, Option.map_some]
    rw [adjust, get_object] at hinner
    rw [adjust]
    dsimp only
    rw [hinner]
    rfl

structure Saves (read : Json → Option CodingAgentInstanceConfig) (value : Json)
    (saved : String → Option CodingAgentInstanceConfig) : Prop where
  isEnabled : isEnabled value
  holds : ∃ items, agentItems value = some items ∧ Holds read items saved

theorem strictError_of_load {strictError : Option String}
    (h : access.load true strictError = .ok ()) : strictError = none := by
  cases strictError with
  | none => rfl
  | some e =>
    rw [Access.load] at h
    cases hread : access.readError with
    | none =>
      rw [hread] at h
      cases h
    | some e' =>
      rw [hread] at h
      cases h

theorem strictError_of_rewrites {strictError : Option String}
    (h : access.rewrites true strictError = .ok ()) : strictError = none := by
  rw [Access.rewrites] at h
  cases hload : access.load true strictError with
  | error e =>
    rw [hload] at h
    cases h
  | ok => exact strictError_of_load hload

namespace Saves

theorem persist (h : Saves read file.value saved) (access : Access) (strictly : Bool) (fresh : Json)
    {edit : List Json → List Json} {saved' : String → Option CodingAgentInstanceConfig}
    (hedit : ∀ items, Holds read items saved → Holds read (edit items) saved') :
    ∃ value', SameBut file.value value' ∧ Saves read value' saved' ∧
      Registration.persist access file strictly fresh edit =
        (access.rewrites strictly file.strictError).map fun _ ↦ ⟨value', none⟩ := by
  obtain ⟨items, hitems, hholds⟩ := h.holds
  obtain ⟨value', hvalue, hsame, hitems'⟩ := editAgents_ok h.isEnabled hitems fresh edit
  refine ⟨value', hsame, ⟨hsame.isEnabled h.isEnabled, edit items, hitems', hedit items hholds⟩, ?_⟩
  rw [Registration.persist, hvalue, Access.rewrites]
  cases access.load strictly file.strictError with
  | error e => rfl
  | ok =>
    cases access.store with
    | error e => rfl
    | ok => rfl

theorem withheld (h : Saves read file.value saved) {agentId : String}
    (hnone : saved agentId = none) :
    Saves read file.value (Function.update saved agentId none) := by
  rwa [← hnone, Function.update_eq_self]

theorem remove (h : Saves read file.value saved) (access : Access) (agentId : String) :
    SameBut file.value ((removeAgentFromConfig access agentId file).toOption.getD file).value ∧
      ((removeAgentFromConfig access agentId file).toOption.getD file).strictError =
        file.strictError ∧
      Saves read ((removeAgentFromConfig access agentId file).toOption.getD file).value
        (match access.rewrites true file.strictError with
          | .error _ => saved
          | .ok () => Function.update saved agentId none) := by
  obtain ⟨fields, codingAgents, hvalue, hsection⟩ := exists_of_isEnabled h.isEnabled
  obtain ⟨items, hitems, hholds⟩ := h.holds
  have hget : file.value.get "codingAgents" = some (.object codingAgents) := by
    rw [hvalue]
    exact hsection
  rw [agentItems, hget] at hitems
  dsimp only at hitems
  -- where the file is left as it is, the agent is not in it
  have hkeep (hnone : saved agentId = none) : SameBut file.value file.value ∧
      file.strictError = file.strictError ∧ Saves read file.value
        (match access.store with
          | .error _ => saved
          | .ok () => Function.update saved agentId none) := by
    refine ⟨.refl _, rfl, ?_⟩
    cases access.store with
    | error e => exact h
    | ok => exact h.withheld hnone
  rw [removeAgentFromConfig, Access.rewrites]
  cases hload : access.load true file.strictError with
  | error e => exact ⟨.refl _, rfl, h⟩
  | ok =>
    rw [hget, Option.bind_some, get_object]
    cases hagents : codingAgents.lookup "agents" with
    | none =>
      rw [hagents] at hitems
      cases Option.some.inj hitems
      exact hkeep (hholds.first agentId)
    | some agents =>
      rw [hagents, Option.getD_some] at hitems
      rw [Option.bind_some, hitems]
      have hkept := hholds.remove agentId
      by_cases hlength : (items.filter fun entry ↦ !named agentId entry).length = items.length
      · simp only [hlength]
        exact hkeep (hholds.unlisted hlength)
      · obtain ⟨hsame, hlist⟩ := adjustAt_agents hget hagents
          (items.filter fun entry ↦ !named agentId entry)
        have hstrict := strictError_of_load hload
        simp only [hlength]
        cases hstore : access.store with
        | error e => exact ⟨.refl _, rfl, h⟩
        | ok => exact ⟨hsame, hstrict.symm, hsame.isEnabled h.isEnabled, _, hlist, hkept⟩

end Saves

end Edits

section Representation

variable {formats : Formats} {read : Json → Option CodingAgentInstanceConfig} {first : Json}
  {panel : Panel} {l : Ledger} {config : CodingAgentInstanceConfig} {access : Access}

structure Represents (read : Json → Option CodingAgentInstanceConfig) (first : Json)
    (panel : Panel) (l : Ledger) : Prop where
  running : ∀ agentId, panel.agents.lookup agentId = l.running agentId
  keyed : ∀ agentId config, l.running agentId = some config → config.id = agentId
  backends : panel.backends = l.backends
  strictError : panel.file.strictError = l.strictError
  saves : Saves read panel.file.value l.saved
  same : SameBut first panel.file.value

/-- A new agent reads back from the file as the one that was written. -/
def Request.ReadsBack (formats : Formats) (read : Json → Option CodingAgentInstanceConfig) :
    Request → Prop
  | .register config _ => read (config.toValue formats) = some config
  | .onboard payload _ => read (payload.agentConfig.toValue formats) = some payload.agentConfig
  | _ => True

namespace Represents

theorem mem_agents (h : Represents read first panel l) (agentId : String) :
    agentId ∈ panel.agents ↔ (l.running agentId).isSome := by
  rw [← AList.lookup_isSome, h.running]

theorem run (h : Represents read first panel l) (config : CodingAgentInstanceConfig) :
    Represents read first { panel with agents := panel.agents.insert config.id config }
      (l.run config) := by
  refine ⟨fun agentId ↦ ?_, fun agentId config' hrunning ↦ ?_, h.backends, h.strictError, h.saves,
    h.same⟩
  · rw [KeyedMap.lookup_insert_if, l.running_run, h.running]
  · rw [l.running_run] at hrunning
    split at hrunning
    next hnew =>
      cases hrunning
      exact hnew.symm
    next => exact h.keyed agentId config' hrunning

theorem stop (h : Represents read first panel l) (agentId : String) :
    Represents read first { panel with agents := panel.agents.erase agentId } (l.stop agentId) := by
  refine ⟨fun agentId' ↦ ?_, fun agentId' config hrunning ↦ ?_, h.backends, h.strictError, h.saves,
    h.same⟩
  · rw [KeyedMap.lookup_erase_if, l.running_stop, h.running]
  · rw [l.running_stop] at hrunning
    split at hrunning
    next => cases hrunning
    next => exact h.keyed agentId' config hrunning

theorem register (h : Represents read first panel l) (config : CodingAgentInstanceConfig)
    (access : Access) (hread : read (config.toValue formats) = some config) :
    (panel.step formats read (.register config access)).1 =
        (l.step (.register config access)).1 ∧
      Represents read first (panel.step formats read (.register config access)).2
        (l.step (.register config access)).2 := by
  obtain ⟨value', hsame, hsaves, hpersist⟩ := h.saves.persist access true
    (.object [("enabled", .bool true), ("agents", .array [])]) fun items hitems ↦
      hitems.replace hread
  rw [h.strictError] at hpersist
  rw [Panel.step, Panel.registerCodingAgent, registerAgent, Ledger.step]
  simp only [h.mem_agents]
  by_cases hknown : (l.running config.id).isSome
  · rw [if_pos hknown, if_pos hknown]
    exact ⟨rfl, h⟩
  · rw [if_neg hknown, if_neg hknown]
    dsimp only
    rw [persistAgentToConfig, hpersist]
    cases hrewrites : access.rewrites true l.strictError with
    | error e => exact ⟨rfl, h.run config⟩
    | ok =>
      have hrun := h.run config
      exact ⟨rfl, hrun.running, hrun.keyed, hrun.backends, (strictError_of_rewrites hrewrites).symm,
        hsaves, h.same.trans hsame⟩

theorem onboard (h : Represents read first panel l) (payload : OnboardingCompleteRequest)
    (access : Access) (hread : read (payload.agentConfig.toValue formats) =
      some payload.agentConfig) :
    (panel.step formats read (.onboard payload access)).1 =
        (l.step (.onboard payload access)).1 ∧
      Represents read first (panel.step formats read (.onboard payload access)).2
        (l.step (.onboard payload access)).2 := by
  obtain ⟨value', hsame, hsaves, hpersist⟩ := h.saves.persist access false
    (.object [("enabled", .bool true), ("agents", .array []), ("backends", .array [])])
    fun items hitems ↦ hitems.append hread
  rw [h.strictError] at hpersist
  have hrefusal : payload.refusal panel.backends = payload.refusal l.backends := by rw [h.backends]
  rw [Panel.step, Panel.onboardingComplete, hrefusal, Ledger.step]
  cases payload.refusal l.backends with
  | some message => exact ⟨rfl, h⟩
  | none =>
    have hid : payload.agentConfig.id = payload.id := rfl
    rw [registerAgent]
    simp only [h.mem_agents, hid]
    by_cases hknown : (l.running payload.id).isSome
    · rw [if_pos hknown, if_pos hknown]
      exact ⟨rfl, h⟩
    · rw [if_neg hknown, if_neg hknown]
      dsimp only
      rw [persistAgentConfig, hpersist]
      cases access.rewrites false l.strictError with
      | error e => exact ⟨rfl, h.run payload.agentConfig⟩
      | ok =>
        have hrun := h.run payload.agentConfig
        exact ⟨rfl, hrun.running, hrun.keyed, hrun.backends, rfl, hsaves, h.same.trans hsame⟩

theorem unregister (h : Represents read first panel l) (agentId : String) (access : Access) :
    (panel.step formats read (.unregister agentId access)).1 =
        (l.step (.unregister agentId access)).1 ∧
      Represents read first (panel.step formats read (.unregister agentId access)).2
        (l.step (.unregister agentId access)).2 := by
  have hremove := h.saves.remove access agentId
  rw [h.strictError] at hremove
  rw [Panel.step, Panel.unregisterCodingAgent, unregisterAgent, Ledger.step]
  simp only [h.mem_agents]
  by_cases hknown : (l.running agentId).isSome
  · rw [if_pos hknown, if_pos hknown]
    have hstop := h.stop agentId
    cases hremoved : removeAgentFromConfig access agentId panel.file <;>
      cases hrewrites : access.rewrites true l.strictError <;>
      rw [hremoved, hrewrites] at hremove <;>
      obtain ⟨hsame, hstrict, hsaves⟩ := hremove <;>
      exact ⟨rfl, hstop.running, hstop.keyed, hstop.backends, hstrict, hsaves, h.same.trans hsame⟩
  · rw [if_neg hknown, if_neg hknown]
    exact ⟨rfl, h⟩

theorem update (h : Represents read first panel l) (agentId : String)
    (payload : UpdateConfigRequest) :
    (panel.step formats read (.update agentId payload)).1 = (l.step (.update agentId payload)).1 ∧
      Represents read first (panel.step formats read (.update agentId payload)).2
        (l.step (.update agentId payload)).2 := by
  rw [Panel.step, Panel.updateAgentConfig, h.running, Ledger.step]
  cases hrunning : l.running agentId with
  | none => exact ⟨rfl, h⟩
  | some current =>
    have hmem : agentId ∈ panel.agents := by rw [h.mem_agents, hrunning, Option.isSome_some]
    have hid : (payload.updated current).id = agentId := h.keyed agentId current hrunning
    have hnew : (payload.updated current).id ∉ panel.agents.erase agentId := by
      rw [hid, AList.mem_erase]
      exact fun hmem ↦ hmem.1 rfl
    dsimp only
    rw [unregisterAgent, if_pos hmem]
    dsimp only
    rw [registerAgent, if_neg hnew]
    refine ⟨rfl, ?_⟩
    have hrun := (h.stop agentId).run (payload.updated current)
    rwa [l.run_stop hid] at hrun

theorem reload (h : Represents read first panel l) :
    (panel.step formats read .reload).1 = (l.step .reload).1 ∧
      Represents read first (panel.step formats read .reload).2 (l.step .reload).2 := by
  obtain ⟨items, hitems, hholds⟩ := h.saves.holds
  obtain ⟨configs, hconfigs, hlookup⟩ := hholds.registerAll
  refine ⟨rfl, ?_⟩
  rw [Panel.step, Panel.reloadFromConfig, hitems, Option.bind_some, hconfigs, Ledger.step]
  refine ⟨fun agentId ↦ ?_, fun agentId config hrunning ↦ ?_, h.backends, h.strictError, h.saves,
    h.same⟩
  · exact (hlookup panel.agents agentId).trans (by rw [h.running])
  · dsimp only at hrunning
    cases hold : l.running agentId with
    | some old =>
      rw [hold, Option.some_or] at hrunning
      cases hrunning
      exact h.keyed agentId _ hold
    | none =>
      rw [hold, Option.none_or] at hrunning
      exact hholds.id_eq hrunning

theorem step (h : Represents read first panel l) (request : Request)
    (hread : request.ReadsBack formats read) :
    (panel.step formats read request).1 = (l.step request).1 ∧
      Represents read first (panel.step formats read request).2 (l.step request).2 := by
  cases request with
  | register config access => exact h.register config access hread
  | onboard payload access => exact h.onboard payload access hread
  | unregister agentId access => exact h.unregister agentId access
  | update agentId payload => exact h.update agentId payload
  | reload => exact h.reload

end Represents

/-- The entries of the file spell out the ids that they are read with. -/
def Named (read : Json → Option CodingAgentInstanceConfig) (value : Json) : Prop :=
  ∀ items, agentItems value = some items → ∀ entry ∈ items, ∀ config,
    read entry = some config → entry.get "id" = some (.string config.id)

end Representation

section Example

def plainFormats : Formats := ⟨fun _ ↦ "0.0", fun _ ↦ "1970-01-01T00:00:00Z"⟩

def claude : CodingAgentInstanceConfig :=
  ⟨"cc", "claude-code", "http", none, ["/src"], none, none, none, none, none⟩

def limited : List Request :=
  [.register claude ⟨none, none⟩, .update "cc" ⟨none, none, some 60, none, none⟩]

end Example

end AdkGateway.CodingAgent.Registration
