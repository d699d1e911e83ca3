import AdkGateway.CodingAgent.StatusEvents
import AdkGateway.HealthMonitor.Alternation
import Mathlib.Data.List.DropRight

namespace AdkGateway.CodingAgent.StatusEvents.Probes

open Foundation Machine HealthMonitor

structure HealthMonitorConfig where
  failureThreshold : UInt32

structure HealthStatus where
  reachable : Bool

structure FailureTracker where
  counts : KeyedMap String UInt32

namespace FailureTracker

def new : FailureTracker := ⟨∅⟩

def recordSuccess (tracker : FailureTracker) (agentId : String) : FailureTracker :=
  ⟨tracker.counts.insert agentId 0⟩

def recordFailure (tracker : FailureTracker) (agentId : String) : UInt32 × FailureTracker :=
  let failures := (tracker.counts.lookup agentId).getD 0 + 1
  (failures, ⟨tracker.counts.insert agentId failures⟩)

def clean (tracker : FailureTracker) (agentIds : List String) : FailureTracker :=
  ⟨KeyedMap.retain (fun agentId _ ↦ agentIds.contains agentId) tracker.counts⟩

end FailureTracker

/-- Where the loop stands: it waits for the next tick, it goes through the agents that it found,
or it has probed one of them. -/
inductive Phase
  | ticking
  | visiting (stdio : String → Bool) (agents : List RegisteredAgent)
  | settling (agent : RegisteredAgent) (health : Except CodingAgentError HealthStatus)
      (stdio : String → Bool) (agents : List RegisteredAgent)

structure Monitor where
  registry : CodingAgentRegistry
  tracker : FailureTracker
  phase : Phase

/-- A listing comes with the agents whose transport is stdio, which the registry's record of an
agent leaves out. -/
inductive Input
  | other (call : StatusEvents.Call)
  | tick (stdio : String → Bool)
  | visit (health : Except CodingAgentError HealthStatus) (now : DateTime)
  | settle (since now : DateTime)

inductive Mark
  | listed (stdio : String → Bool) (agents : List RegisteredAgent)
  | checked (agent : RegisteredAgent) (reachable : Bool)
  | sent (event : AgentStatusEvent)

def reached (health : Except CodingAgentError HealthStatus) : Bool :=
  match health with
  | .ok status => status.reachable
  | .error _ => false

def isError : AgentConnectionStatus → Bool
  | .error _ _ => true
  | _ => false

def isDisconnected : AgentConnectionStatus → Bool
  | .disconnected _ => true
  | _ => false

def probed (stdio : String → Bool) (agent : RegisteredAgent) : Bool :=
  !stdio agent.id && !("acp://".toList.isPrefixOf agent.endpoint.toList || agent.endpoint = "")

def unreachable (failures : UInt32) : String :=
  "Unreachable after " ++ toString failures.toNat ++ " consecutive health checks"

namespace Monitor

def new : Monitor := ⟨.new, .new, .ticking⟩

def update (m : Monitor) (agentId : String) (status : AgentConnectionStatus) (now : DateTime) :
    List Mark × Monitor :=
  (StatusEvents.step m.registry (.updateStatus agentId status now)).map (List.map .sent)
    fun registry ↦ { m with registry }

def count (m : Monitor) (agentId : String) (reachable : Bool) : Monitor :=
  { m with
    tracker := if reachable then m.tracker.recordSuccess agentId
      else (m.tracker.recordFailure agentId).2 }

def succeed (m : Monitor) (agent : RegisteredAgent) (now : DateTime) : List Mark × Monitor :=
  if agent.status ≠ .connected then (m.count agent.id true).update agent.id .connected now
  else ([], m.count agent.id true)

def fail (config : HealthMonitorConfig) (m : Monitor) (agent : RegisteredAgent)
    (since now : DateTime) : List Mark × Monitor :=
  if config.failureThreshold ≤ (m.tracker.recordFailure agent.id).1 then
    if isError agent.status then ([], m.count agent.id false)
    else (m.count agent.id false).update agent.id
      (.error (unreachable (m.tracker.recordFailure agent.id).1) since) now
  else if isDisconnected agent.status then ([], m.count agent.id false)
  else (m.count agent.id false).update agent.id (.disconnected since) now

def settle (config : HealthMonitorConfig) (m : Monitor) (agent : RegisteredAgent)
    (health : Except CodingAgentError HealthStatus) (since now : DateTime) : List Mark × Monitor :=
  (if reached health then m.succeed agent now else m.fail config agent since now).map
    (.checked agent (reached health) :: ·) id

def list (m : Monitor) (stdio : String → Bool) (agents : List RegisteredAgent) :
    List Mark × Monitor :=
  if agents.isEmpty then ([], m)
  else ([.listed stdio agents],
    { m with tracker := m.tracker.clean (agents.map (·.id)), phase := .visiting stdio agents })

def step (config : HealthMonitorConfig) (m : Monitor) : Input → List Mark × Monitor
  | .other call => ([], { m with registry := (StatusEvents.step m.registry call).2 })
  | .tick stdio =>
    match m.phase with
    | .ticking => m.list stdio (KeyedMap.values m.registry.agents)
    | _ => ([], m)
  | .visit health now =>
    match m.phase with
    | .visiting stdio (agent :: agents) =>
      if probed stdio agent then
        ([], { m with
          registry := m.registry.recordHealthCheck agent.id now
          phase := .settling agent health stdio agents })
      else ([], { m with phase := .visiting stdio agents })
    | .visiting _ [] => ([], { m with phase := .ticking })
    | _ => ([], m)
  | .settle since now =>
    match m.phase with
    | .settling agent health stdio agents =>
      (m.settle config agent health since now).map id ({ · with phase := .visiting stdio agents })
    | _ => ([], m)

def marks (config : HealthMonitorConfig) (inputs : List Input) : List Mark :=
  (Machine.outputs (step config) new inputs).flatten

end Monitor

section History

def forgets (agentId : String) : Mark → Bool
  | .listed _ agents => !(agents.map (·.id)).contains agentId
  | _ => false

def outcome (agentId : String) : Mark → Option Bool
  | .checked agent reachable => if agent.id = agentId then some reachable else none
  | _ => none

/-- What came of the checks of an agent since it was last missing. -/
def outcomes (agentId : String) (h : List Mark) : List Bool :=
  (h.rtakeWhile fun mark ↦ !forgets agentId mark).filterMap (outcome agentId)

def listing : Mark → Option (Option ((String → Bool) × List RegisteredAgent))
  | .listed stdio agents => some (some (stdio, agents))
  | _ => none

def Tells (threshold : UInt32) (results : List Bool) : AgentConnectionStatus → Prop
  | .connected => streak results = 0
  | .disconnected _ => 0 < streak results ∧ UInt32.ofNat (streak results) < threshold
  | .error _ _ => 0 < streak results ∧ threshold ≤ UInt32.ofNat (streak results)
  | .unknown => False

/-- What the monitor does, as its history has it: it checks what it found at its last tick, and the
status that it sets after a check is what the checks in a row ask for. -/
def Fits (threshold : UInt32) (h : List Mark) : Mark → Prop
  | .listed _ _ => True
  | .checked agent _ => ∃ stdio agents, latest listing h = some (stdio, agents) ∧ agent ∈ agents ∧
      probed stdio agent
  | .sent event => (∃ before agent reachable, h = before ++ [.checked agent reachable] ∧
      agent.id = event.agentId) ∧ Tells threshold (outcomes event.agentId h) event.newStatus ∧
      ∀ message since, event.newStatus = .error message since →
        message = unreachable (UInt32.ofNat (streak (outcomes event.agentId h)))

end History

section Outcomes

variable {agentId : String} {h : List Mark}

theorem outcomes_concat (mark : Mark) : outcomes agentId (h ++ [mark]) =
    if forgets agentId mark then [] else outcomes agentId h ++ (outcome agentId mark).toList := by
  rw [outcomes, List.rtakeWhile_concat]
  cases forgets agentId mark with
  | true => rfl
  | false =>
    simp only [Bool.not_false, if_true, List.filterMap_append, Bool.false_eq_true, if_false]
    rw [outcomes]
    cases hmark : outcome agentId mark <;> simp [hmark]

theorem outcomes_checked (agent : RegisteredAgent) (reachable : Bool) :
    outcomes agentId (h ++ [.checked agent reachable]) =
      outcomes agentId h ++ if agent.id = agentId then [reachable] else [] := by
  have hkeeps : forgets agentId (.checked agent reachable) = false := rfl
  rw [outcomes_concat, hkeeps, if_neg Bool.false_ne_true, outcome]
  split <;> rfl

theorem outcomes_sent (event : AgentStatusEvent) :
    outcomes agentId (h ++ [.sent event]) = outcomes agentId h := by
  have hkeeps : forgets agentId (.sent event) = false := rfl
  rw [outcomes_concat, hkeeps, if_neg Bool.false_ne_true]
  exact List.append_nil _

theorem outcomes_listed (stdio : String → Bool) (agents : List RegisteredAgent) :
    outcomes agentId (h ++ [.listed stdio agents]) =
      if (agents.map (·.id)).contains agentId then outcomes agentId h else [] := by
  rw [outcomes_concat, forgets]
  cases (agents.map (·.id)).contains agentId with
  | true => exact List.append_nil _
  | false => rfl

end Outcomes

section Settling

variable {config : HealthMonitorConfig} {m : Monitor} {agent : RegisteredAgent}
  {health : Except CodingAgentError HealthStatus} {since now : DateTime}

def change (threshold : UInt32) (agent : RegisteredAgent) (reachable : Bool) (failures : UInt32)
    (since : DateTime) : Option AgentConnectionStatus :=
  if reachable then
    if agent.status ≠ .connected then some .connected else none
  else if threshold ≤ failures then
    if isError agent.status then none else some (.error (unreachable failures) since)
  else if isDisconnected agent.status then none else some (.disconnected since)

theorem settle_eq : m.settle config agent health since now =
    match change config.failureThreshold agent (reached health)
      (m.tracker.recordFailure agent.id).1 since with
    | some status => ((m.count agent.id (reached health)).update agent.id status now).map
      (.checked agent (reached health) :: ·) id
    | none => ([.checked agent (reached health)], m.count agent.id (reached health)) := by
  rw [Monitor.settle, change]
  cases reached health with
  | true =>
    rw [if_pos rfl, if_pos rfl, Monitor.succeed]
    by_cases hconnected : agent.status = .connected
    · rw [if_neg (not_not.mpr hconnected), if_neg (not_not.mpr hconnected)]
      rfl
    · rw [if_pos hconnected, if_pos hconnected]
  | false =>
    rw [if_neg Bool.false_ne_true, if_neg Bool.false_ne_true, Monitor.fail]
    split
    · cases isError agent.status <;> rfl
    · cases isDisconnected agent.status <;> rfl

theorem lookup_count (agentId : String) (reachable : Bool) (agentId' : String) :
    ((m.count agentId reachable).tracker.counts.lookup agentId').getD 0 =
      if agentId' = agentId then
        if reachable then 0 else (m.tracker.counts.lookup agentId).getD 0 + 1
      else (m.tracker.counts.lookup agentId').getD 0 := by
  cases reachable with
  | true =>
    have hcounts : (m.count agentId true).tracker.counts = m.tracker.counts.insert agentId 0 := rfl
    rw [hcounts, KeyedMap.lookup_insert_if]
    split <;> rfl
  | false =>
    have hcounts : (m.count agentId false).tracker.counts =
      m.tracker.counts.insert agentId ((m.tracker.counts.lookup agentId).getD 0 + 1) := rfl
    rw [hcounts, KeyedMap.lookup_insert_if]
    split <;> rfl

theorem marks_update (m : Monitor) (agentId : String) (status : AgentConnectionStatus)
    (now : DateTime) : (m.update agentId status now).1 = [] ∨
      ∃ previous, (m.update agentId status now).1 = [.sent ⟨agentId, previous, status, now⟩] := by
  obtain hstep | ⟨old, -, -, hstep⟩ := step_updateStatus m.registry agentId status now
  · left
    rw [Monitor.update, hstep]
    rfl
  · right
    exact ⟨old.status, by rw [Monitor.update, hstep]; rfl⟩

variable {threshold failures : UInt32} {results : List Bool} {reachable : Bool}
  {status : AgentConnectionStatus}

theorem tells_change (hfailures : failures = UInt32.ofNat (streak results + 1))
    (hchange : change threshold agent reachable failures since = some status) :
    Tells threshold (results ++ [reachable]) status ∧
      ∀ message since', status = .error message since' →
        message = unreachable (UInt32.ofNat (streak (results ++ [reachable]))) := by
  rw [streak_concat]
  cases reachable with
  | true =>
    rw [change, if_pos rfl, Option.ite_none_right_eq_some] at hchange
    obtain rfl := Option.some.inj hchange.2
    exact ⟨by rw [Tells, streak_concat, if_pos rfl], nofun⟩
  | false =>
    rw [change, if_neg Bool.false_ne_true] at hchange
    rw [if_neg Bool.false_ne_true, ← hfailures]
    split at hchange
    case isTrue hle =>
      rw [Option.ite_none_left_eq_some] at hchange
      obtain rfl := Option.some.inj hchange.2
      refine ⟨?_, fun message since' heq ↦ ?_⟩
      · rw [Tells, streak_concat, if_neg Bool.false_ne_true, ← hfailures]
        exact ⟨Nat.succ_pos _, hle⟩
      · cases heq
        rfl
    case isFalse hlt =>
      rw [Option.ite_none_left_eq_some] at hchange
      obtain rfl := Option.some.inj hchange.2
      refine ⟨?_, nofun⟩
      rw [Tells, streak_concat, if_neg Bool.false_ne_true, ← hfailures]
      exact ⟨Nat.succ_pos _, UInt32.not_le.mp hlt⟩

theorem tells_of_change_eq_none (hfailures : failures = UInt32.ofNat (streak results + 1))
    (hchange : change threshold agent reachable failures since = none) :
    Tells threshold (results ++ [reachable]) agent.status := by
  cases reachable with
  | true =>
    rw [change, if_pos rfl, ite_eq_right_iff] at hchange
    have hconnected : agent.status = .connected := by
      by_contra hne
      cases hchange hne
    rw [hconnected, Tells, streak_concat, if_pos rfl]
  | false =>
    rw [change, if_neg Bool.false_ne_true] at hchange
    split at hchange
    case isTrue hle =>
      split at hchange
      · rename_i herror
        cases hstatus : agent.status with
        | error message since' =>
          rw [Tells, streak_concat, if_neg Bool.false_ne_true, ← hfailures]
          exact ⟨Nat.succ_pos _, hle⟩
        | _ => simp [isError, hstatus] at herror
      · cases hchange
    case isFalse hlt =>
      split at hchange
      · rename_i hdisconnected
        cases hstatus : agent.status with
        | disconnected since' =>
          rw [Tells, streak_concat, if_neg Bool.false_ne_true, ← hfailures]
          exact ⟨Nat.succ_pos _, UInt32.not_le.mp hlt⟩
        | _ => simp [isDisconnected, hstatus] at hdisconnected
      · cases hchange

end Settling

section Justification

variable {config : HealthMonitorConfig} {m : Monitor} {h : List Mark}

def Listed (h : List Mark) : Phase → Prop
  | .ticking => True
  | .visiting stdio agents => ∃ all, latest listing h = some (stdio, all) ∧ agents ⊆ all
  | .settling agent _ stdio agents => ∃ all, latest listing h = some (stdio, all) ∧
      agent ∈ all ∧ probed stdio agent ∧ agents ⊆ all

theorem lookup_clean (tracker : FailureTracker) (agentIds : List String) (agentId : String) :
    ((tracker.clean agentIds).counts.lookup agentId).getD 0 =
      if agentIds.contains agentId then (tracker.counts.lookup agentId).getD 0 else 0 := by
  rw [FailureTracker.clean, KeyedMap.lookup_retain]
  cases agentIds.contains agentId <;> cases tracker.counts.lookup agentId <;> rfl

structure Tracks (m : Monitor) (h : List Mark) : Prop where
  counts : ∀ agentId, (m.tracker.counts.lookup agentId).getD 0 =
    UInt32.ofNat (streak (outcomes agentId h))
  phase : Listed h m.phase

theorem tracks_new : Tracks Monitor.new [] := ⟨fun _ ↦ rfl, trivial⟩

theorem Listed.of_latest {phase : Phase} {mark : Mark} (hp : Listed h phase)
    (hmark : listing mark = none) : Listed (h ++ [mark]) phase := by
  cases phase with
  | ticking => trivial
  | visiting => simpa only [Listed, latest_concat_of_none hmark] using hp
  | settling => simpa only [Listed, latest_concat_of_none hmark] using hp

theorem Tracks.count (ht : Tracks m h) (agent : RegisteredAgent) (reachable : Bool)
    (agentId : String) :
    ((m.count agent.id reachable).tracker.counts.lookup agentId).getD 0 =
      UInt32.ofNat (streak (outcomes agentId (h ++ [.checked agent reachable]))) := by
  rw [lookup_count, outcomes_checked]
  by_cases hid : agentId = agent.id
  · rw [if_pos hid, if_pos hid.symm, streak_concat, ht.counts, hid]
    cases reachable with
    | true => rfl
    | false =>
      rw [if_neg Bool.false_ne_true, if_neg Bool.false_ne_true]
      exact (UInt32.ofNat_add _ 1).symm
  · rw [if_neg hid, if_neg (Ne.symm hid), List.append_nil, ht.counts]

theorem Tracks.failures (ht : Tracks m h) (agentId : String) :
    (m.tracker.recordFailure agentId).1 = UInt32.ofNat (streak (outcomes agentId h) + 1) := by
  rw [FailureTracker.recordFailure, ht.counts]
  exact (UInt32.ofNat_add _ 1).symm

theorem Tracks.settle (ht : Tracks m h) {agent : RegisteredAgent}
    {health : Except CodingAgentError HealthStatus} {stdio : String → Bool}
    {agents all : List RegisteredAgent} (hlatest : latest listing h = some (stdio, all))
    (hmem : agent ∈ all) (hprobed : probed stdio agent) (hsub : agents ⊆ all)
    (since now : DateTime) :
    EachFits (Fits config.failureThreshold) h (m.settle config agent health since now).1 ∧
      Tracks { (m.settle config agent health since now).2 with phase := .visiting stdio agents }
        (h ++ (m.settle config agent health since now).1) := by
  have hchecked : Fits config.failureThreshold h (.checked agent (reached health)) :=
    ⟨stdio, all, hlatest, hmem, hprobed⟩
  have hcounts := ht.count agent (reached health)
  have hlisted : Listed (h ++ [.checked agent (reached health)]) (.visiting stdio agents) :=
    ⟨all, (latest_concat_of_none rfl h).trans hlatest, hsub⟩
  rw [settle_eq]
  split
  case h_2 hchange => exact ⟨⟨hchecked, trivial⟩, hcounts, hlisted⟩
  case h_1 status hchange =>
    obtain ⟨htells, hmessage⟩ := tells_change (ht.failures agent.id) hchange
    simp only [Prod.map_fst, Prod.map_snd, id_eq]
    obtain hnil | ⟨previous, hsent⟩ :=
      marks_update (m.count agent.id (reached health)) agent.id status now
    · rw [hnil]
      exact ⟨⟨hchecked, trivial⟩, hcounts, hlisted⟩
    · have houtcomes : outcomes agent.id (h ++ [.checked agent (reached health)]) =
          outcomes agent.id h ++ [reached health] := by
        rw [outcomes_checked, if_pos rfl]
      rw [hsent]
      refine ⟨⟨hchecked, ⟨⟨h, agent, reached health, rfl, rfl⟩, ?_, ?_⟩, trivial⟩,
        fun agentId ↦ ?_, ?_⟩
      · rwa [houtcomes]
      · rwa [houtcomes]
      · rw [List.append_cons, outcomes_sent]
        exact hcounts agentId
      · rw [List.append_cons]
        exact hlisted.of_latest rfl

theorem Tracks.step (ht : Tracks m h) (i : Input) :
    EachFits (Fits config.failureThreshold) h (m.step config i).1 ∧
      Tracks (m.step config i).2 (h ++ (m.step config i).1) := by
  have hsame : ∀ {m' : Monitor}, m'.tracker = m.tracker → Listed h m'.phase →
      EachFits (Fits config.failureThreshold) h [] ∧ Tracks m' (h ++ []) := by
    intro m' htracker hphase
    rw [List.append_nil]
    exact ⟨trivial, htracker ▸ ht.counts, hphase⟩
  have hphase := ht.phase
  cases i with
  | other call => exact hsame rfl hphase
  | tick stdio =>
    rw [Monitor.step]
    split
    · rw [Monitor.list]
      split
      · exact hsame rfl hphase
      · have hlatest : ∀ agents, latest listing (h ++ [.listed stdio agents]) =
            some (stdio, agents) := by
          intro agents
          have hlisting : listing (.listed stdio agents) = some (some (stdio, agents)) := rfl
          exact latest_concat_of_some hlisting h
        refine ⟨⟨trivial, trivial⟩, fun agentId ↦ ?_, _, hlatest _, List.Subset.refl _⟩
        rw [outcomes_listed, lookup_clean]
        split
        · exact ht.counts agentId
        · rfl
    · exact hsame rfl hphase
  | visit health now =>
    rw [Monitor.step]
    split
    · rename_i stdio agent agents hvisiting
      rw [hvisiting] at hphase
      obtain ⟨all, hlatest, hsub⟩ := hphase
      obtain ⟨hmem, hsub⟩ := List.cons_subset.mp hsub
      split
      · rename_i hprobed
        exact hsame rfl ⟨all, hlatest, hmem, hprobed, hsub⟩
      · exact hsame rfl ⟨all, hlatest, hsub⟩
    · exact hsame rfl trivial
    · exact hsame rfl hphase
  | settle since now =>
    rw [Monitor.step]
    split
    · rename_i agent health stdio agents hsettling
      rw [hsettling] at hphase
      obtain ⟨all, hlatest, hmem, hprobed, hsub⟩ := hphase
      exact ht.settle hlatest hmem hprobed hsub since now
    · exact hsame rfl hphase

/-- Whatever else happens to the registry, all that the monitor does fits what it has found. -/
theorem eachFits_marks (config : HealthMonitorConfig) (inputs : List Input) :
    EachFits (Fits config.failureThreshold) [] (Monitor.marks config inputs) :=
  eachFits_flatten_outputs (I := Tracks) (fun _ _ i ht ↦ ht.step i) tracks_new inputs

end Justification

section Reflection

/-- Nobody but the monitor sets the status of the agent or takes it out. -/
def Undisturbed (agentId : String) : Input → Prop
  | .other (.updateStatus target _ _) | .other (.unregisterAgent target) => target ≠ agentId
  | _ => True

def Keyed (registry : CodingAgentRegistry) : Prop :=
  ∀ key agent, registry.agents.lookup key = some agent → agent.id = key

def Phase.agents : Phase → List RegisteredAgent
  | .ticking => []
  | .visiting _ agents => agents
  | .settling agent _ _ agents => agent :: agents

variable {config : HealthMonitorConfig} {m : Monitor} {h : List Mark} {agentId : String}
  {registry : CodingAgentRegistry}

theorem Keyed.modify (hk : Keyed registry) (target : String) (f : RegisteredAgent → RegisteredAgent)
    (hf : ∀ agent, (f agent).id = agent.id) :
    Keyed { registry with agents := KeyedMap.modify target f registry.agents } := by
  intro key agent hfound
  rw [KeyedMap.lookup_modify_if] at hfound
  split at hfound
  · rename_i heq
    obtain ⟨agent', hfound', rfl⟩ := Option.map_eq_some_iff.mp hfound
    exact (hf agent').trans (heq ▸ hk target agent' hfound')
  · exact hk key agent hfound

theorem Keyed.registerAgent (hk : Keyed registry) (instanceConfig : CodingAgentInstanceConfig) :
    Keyed ((registry.registerAgent instanceConfig).toOption.getD registry) := by
  rw [CodingAgentRegistry.registerAgent]
  split
  · exact hk
  · refine KeyedMap.forall_lookup_insert
      (P := fun key (agent : RegisteredAgent) ↦ agent.id = key) ?_ hk
    rfl

theorem Keyed.registerMissing (configs : List CodingAgentInstanceConfig) (hk : Keyed registry) :
    Keyed (configs.foldl CodingAgentRegistry.registerMissing registry) := by
  induction configs generalizing registry with
  | nil => exact hk
  | cons instanceConfig configs ih =>
    refine ih ?_
    rw [CodingAgentRegistry.registerMissing_eq]
    exact hk.registerAgent instanceConfig

theorem Keyed.step (hk : Keyed registry) (call : Call) :
    Keyed (StatusEvents.step registry call).2 := by
  cases call with
  | registerAgent instanceConfig => exact hk.registerAgent instanceConfig
  | unregisterAgent target =>
    rw [StatusEvents.step, CodingAgentRegistry.unregisterAgent]
    cases registry.agents.lookup target with
    | none => exact hk
    | some agent => exact KeyedMap.forall_lookup_erase hk
  | updateStatus target status now =>
    obtain hstep | ⟨old, hfound, -, hstep⟩ := step_updateStatus registry target status now
    · rw [hstep]
      exact hk
    · rw [hstep]
      refine KeyedMap.forall_lookup_insert
        (P := fun key (agent : RegisteredAgent) ↦ agent.id = key) ?_ hk
      exact hk target old hfound
  | recordSuccessfulTask target now => exact hk.modify target _ fun _ ↦ rfl
  | recordHealthCheck target now => exact hk.modify target _ fun _ ↦ rfl
  | reloadFromConfig instances =>
    rw [StatusEvents.step, CodingAgentRegistry.reloadFromConfig]
    exact Keyed.registerMissing _ hk

theorem status_recordHealthCheck (registry : CodingAgentRegistry) (target agentId : String)
    (now : DateTime) :
    (registry.recordHealthCheck target now).status agentId = registry.status agentId :=
  registry.status_modify target agentId ({ · with lastHealthCheck := some now }) fun _ ↦ rfl

theorem status_step {status : AgentConnectionStatus} (hs : registry.status agentId = some status)
    {call : Call} (hcall : Undisturbed agentId (.other call)) :
    (StatusEvents.step registry call).2.status agentId = some status := by
  cases call with
  | registerAgent instanceConfig =>
    rw [StatusEvents.step, CodingAgentRegistry.status_registerAgent, hs]
    exact ite_self _
  | unregisterAgent target =>
    rw [StatusEvents.step, CodingAgentRegistry.unregisterAgent]
    cases registry.agents.lookup target with
    | none => exact hs
    | some agent =>
      exact (registry.status_erase target agentId).trans ((if_neg hcall.symm).trans hs)
  | updateStatus target newStatus now =>
    obtain hstep | ⟨old, -, -, hstep⟩ := step_updateStatus registry target newStatus now
    · rw [hstep]
      exact hs
    · rw [hstep, CodingAgentRegistry.status_insert, if_neg hcall.symm]
      exact hs
  | recordSuccessfulTask target now =>
    have hkeep := registry.status_modify target agentId
      ({ · with lastSuccessfulTask := some now }) fun _ ↦ rfl
    exact hkeep.trans hs
  | recordHealthCheck target now => exact (status_recordHealthCheck ..).trans hs
  | reloadFromConfig instances =>
    rw [StatusEvents.step, CodingAgentRegistry.reloadFromConfig,
      CodingAgentRegistry.status_foldl_registerMissing,
      CodingAgentRegistry.status_loadBackendsFromConfig, hs]
    exact ite_self _

structure Mirrors (threshold : UInt32) (agentId : String) (m : Monitor) (h : List Mark) : Prop where
  keyed : Keyed m.registry
  fresh : ∀ agent ∈ m.phase.agents, agent.id = agentId →
    m.registry.status agentId = some agent.status
  once : (m.phase.agents.map (·.id)).Nodup
  tells : outcomes agentId h ≠ [] → ∃ status, m.registry.status agentId = some status ∧
    Tells threshold (outcomes agentId h) status

theorem mirrors_new (threshold : UInt32) (agentId : String) :
    Mirrors threshold agentId Monitor.new [] :=
  ⟨nofun, nofun, List.Pairwise.nil, fun hne ↦ absurd rfl hne⟩

theorem Keyed.map_values (hk : Keyed registry) :
    (KeyedMap.values registry.agents).map (·.id) = registry.agents.keys := by
  rw [KeyedMap.values, List.map_map, AList.keys, List.keys]
  refine List.map_congr_left fun entry hentry ↦ ?_
  exact hk entry.1 entry.2 (KeyedMap.lookup_eq_some_iff.mpr hentry)

theorem Mirrors.other (hm : Mirrors config.failureThreshold agentId m h) {call : Call}
    (hcall : Undisturbed agentId (.other call)) : Mirrors config.failureThreshold agentId
      { m with registry := (StatusEvents.step m.registry call).2 } h where
  keyed := hm.keyed.step call
  fresh agent hagent hid := status_step (hm.fresh agent hagent hid) hcall
  once := hm.once
  tells hne := by
    obtain ⟨status, hstatus, htells⟩ := hm.tells hne
    exact ⟨status, status_step hstatus hcall, htells⟩

theorem Mirrors.list (hm : Mirrors config.failureThreshold agentId m h) (stdio : String → Bool) :
    Mirrors config.failureThreshold agentId
      (m.list stdio (KeyedMap.values m.registry.agents)).2
      (h ++ (m.list stdio (KeyedMap.values m.registry.agents)).1) := by
  rw [Monitor.list]
  split
  · rwa [List.append_nil]
  · refine ⟨hm.keyed, fun agent hagent hid ↦ ?_, ?_, fun hne ↦ ?_⟩
    · obtain ⟨key, hfound⟩ := KeyedMap.mem_values.mp hagent
      have hkey : key = agentId := (hm.keyed key agent hfound).symm.trans hid
      rw [CodingAgentRegistry.status, ← hkey, hfound]
      rfl
    · rw [Phase.agents, hm.keyed.map_values]
      exact m.registry.agents.nodupKeys
    · rw [outcomes_listed] at hne ⊢
      split
      · rename_i hcontains
        rw [if_pos hcontains] at hne
        exact hm.tells hne
      · rename_i hcontains
        rw [if_neg hcontains] at hne
        exact absurd rfl hne

theorem status_update (m : Monitor) (target : String) (status : AgentConnectionStatus)
    (now : DateTime) {old : AgentConnectionStatus} (hold : m.registry.status agentId = some old) :
    (m.update target status now).2.registry.status agentId =
      some (if target = agentId then status else old) := by
  by_cases htarget : target = agentId
  · rw [if_pos htarget]
    subst htarget
    obtain ⟨agent, hfound, rfl⟩ := Option.map_eq_some_iff.mp hold
    by_cases hstatus : agent.status ≠ status
    · simp only [Monitor.update, StatusEvents.step, CodingAgentRegistry.updateStatus, hfound,
        if_pos hstatus, Except.toOption, Option.getD_some, Prod.map_snd]
      rw [CodingAgentRegistry.status_insert, if_pos rfl]
    · simp only [Monitor.update, StatusEvents.step, CodingAgentRegistry.updateStatus, hfound,
        if_neg hstatus, Except.toOption, Option.getD_some, Prod.map_snd]
      rw [hold, not_not.mp hstatus]
  · rw [if_neg htarget]
    have hother : Undisturbed agentId (.other (.updateStatus target status now)) := htarget
    exact status_step hold hother

section Settle

variable {agent : RegisteredAgent} {health : Except CodingAgentError HealthStatus}
  {since now : DateTime}

theorem outcomes_settle : outcomes agentId (h ++ (m.settle config agent health since now).1) =
    outcomes agentId h ++ if agent.id = agentId then [reached health] else [] := by
  rw [settle_eq]
  split
  · rename_i status _
    rw [Prod.map_fst]
    obtain hnil | ⟨previous, hsent⟩ :=
      marks_update (m.count agent.id (reached health)) agent.id status now
    · rw [hnil, outcomes_checked]
    · rw [hsent, List.append_cons, outcomes_sent, outcomes_checked]
  · exact outcomes_checked agent (reached health)

theorem keyed_settle (hk : Keyed m.registry) :
    Keyed (m.settle config agent health since now).2.registry := by
  rw [settle_eq]
  split
  · rename_i status _
    exact hk.step (.updateStatus agent.id status now)
  · exact hk

theorem status_settle {old : AgentConnectionStatus} (hold : m.registry.status agentId = some old) :
    (m.settle config agent health since now).2.registry.status agentId =
      some (if agent.id = agentId then (change config.failureThreshold agent (reached health)
        (m.tracker.recordFailure agent.id).1 since).getD old else old) := by
  rw [settle_eq]
  split
  · rename_i status hchange
    rw [hchange]
    exact status_update _ agent.id status now hold
  · rename_i hchange
    rw [hchange, Option.getD_none, ite_self]
    exact hold

theorem Mirrors.settle (hm : Mirrors config.failureThreshold agentId m h) (ht : Tracks m h)
    {stdio : String → Bool} {agents : List RegisteredAgent}
    (hphase : m.phase = .settling agent health stdio agents) :
    Mirrors config.failureThreshold agentId
      { (m.settle config agent health since now).2 with phase := .visiting stdio agents }
      (h ++ (m.settle config agent health since now).1) := by
  have hfresh := hm.fresh
  have honce := hm.once
  rw [hphase] at hfresh honce
  obtain ⟨hnot, hnodup⟩ := List.nodup_cons.mp honce
  refine ⟨keyed_settle hm.keyed, fun other hother hid ↦ ?_, hnodup, fun hne ↦ ?_⟩
  · have hapart : agent.id ≠ agentId := by
      intro hsame
      exact hnot (List.mem_map.mpr ⟨other, hother, hid.trans hsame.symm⟩)
    have hstatus := hfresh other (List.mem_cons_of_mem _ hother) hid
    refine (status_settle hstatus).trans ?_
    rw [if_neg hapart]
  · rw [outcomes_settle] at hne ⊢
    by_cases hid : agent.id = agentId
    · subst hid
      have hstatus := hfresh agent List.mem_cons_self rfl
      refine ⟨_, status_settle hstatus, ?_⟩
      rw [if_pos rfl, if_pos rfl]
      have hfailures := ht.failures agent.id
      cases hchange : change config.failureThreshold agent (reached health)
          (m.tracker.recordFailure agent.id).1 since with
      | none => exact tells_of_change_eq_none hfailures hchange
      | some status => exact (tells_change hfailures hchange).1
    · rw [if_neg hid, List.append_nil] at hne ⊢
      obtain ⟨status, hstatus, htells⟩ := hm.tells hne
      refine ⟨status, (status_settle hstatus).trans ?_, htells⟩
      rw [if_neg hid]

end Settle

theorem Mirrors.step (hm : Mirrors config.failureThreshold agentId m h) (ht : Tracks m h)
    {i : Input} (hi : Undisturbed agentId i) :
    Mirrors config.failureThreshold agentId (m.step config i).2 (h ++ (m.step config i).1) := by
  cases i with
  | other call =>
    rw [Monitor.step, List.append_nil]
    exact hm.other hi
  | tick stdio =>
    rw [Monitor.step]
    split
    · exact hm.list stdio
    · rwa [List.append_nil]
  | visit health now =>
    rw [Monitor.step]
    split
    · rename_i stdio agent agents hvisiting
      have hfresh := hm.fresh
      have honce := hm.once
      rw [hvisiting] at hfresh honce
      split
      · rw [List.append_nil]
        refine ⟨hm.keyed.step (.recordHealthCheck agent.id now), fun other hother hid ↦ ?_, honce,
          fun hne ↦ ?_⟩
        · exact (status_recordHealthCheck ..).trans (hfresh other hother hid)
        · obtain ⟨status, hstatus, htells⟩ := hm.tells hne
          exact ⟨status, (status_recordHealthCheck ..).trans hstatus, htells⟩
      · rw [List.append_nil]
        exact ⟨hm.keyed, fun other hother hid ↦ hfresh other (List.mem_cons_of_mem _ hother) hid,
          (List.nodup_cons.mp honce).2, hm.tells⟩
    · rw [List.append_nil]
      exact ⟨hm.keyed, nofun, List.Pairwise.nil, hm.tells⟩
    · rwa [List.append_nil]
  | settle since now =>
    rw [Monitor.step]
    split
    · rename_i agent health stdio agents hsettling
      exact hm.settle ht hsettling
    · rwa [List.append_nil]

theorem mirrors_run {inputs : List Input} {m : Monitor} {h : List Mark}
    (hm : Mirrors config.failureThreshold agentId m h) (ht : Tracks m h)
    (hi : ∀ i ∈ inputs, Undisturbed agentId i) :
    Mirrors config.failureThreshold agentId (Machine.run (Monitor.step config) m inputs)
      (h ++ (Machine.outputs (Monitor.step config) m inputs).flatten) := by
  induction inputs generalizing m h with
  | nil => simpa [Machine.outputs] using hm
  | cons i inputs ih =>
    obtain ⟨hi, his⟩ := List.forall_mem_cons.mp hi
    have hrest := ih (hm.step ht hi) (ht.step i).2 his
    rwa [List.append_assoc] at hrest

/-- As long as nobody else sets the status of an agent or takes the agent out, the status tells what
the checks since its last success tell, once it has been checked. -/
theorem status_of_checked (config : HealthMonitorConfig) (agentId : String) (inputs : List Input)
    (hi : ∀ i ∈ inputs, Undisturbed agentId i)
    (hchecked : outcomes agentId (Monitor.marks config inputs) ≠ []) : ∃ status,
    (Machine.run (Monitor.step config) .new inputs).registry.status agentId = some status ∧
      Tells config.failureThreshold (outcomes agentId (Monitor.marks config inputs)) status :=
  (mirrors_run (mirrors_new _ _) tracks_new hi).tells hchecked

/-- An agent is checked twice and fails both times. -/
def failTwice : List Input :=
  [.other (.registerAgent ⟨"cc", "claude-code", "http"⟩), .tick fun _ ↦ false,
    .visit (.ok ⟨false⟩) 1, .settle 1 1, .visit (.ok ⟨false⟩) 1, .tick fun _ ↦ false,
    .visit (.ok ⟨false⟩) 2, .settle 2 2]

theorem status_of_checked_failTwice : ∃ status,
    (Machine.run (Monitor.step ⟨2⟩) .new failTwice).registry.status "cc" = some status ∧
      Tells 2 (outcomes "cc" (Monitor.marks ⟨2⟩ failTwice)) status := by
  refine status_of_checked ⟨2⟩ "cc" failTwice ?_ ?_
  · simp [failTwice, Undisturbed]
  · have houtcomes : outcomes "cc" (Monitor.marks ⟨2⟩ failTwice) = [false, false] := by decide
    simp [houtcomes]

end Reflection

end AdkGateway.CodingAgent.StatusEvents.Probes
