import AdkGateway.Foundation.Machine
import AdkGateway.HotReload.Dispatch

namespace AdkGateway.HotReload

open ConfigWatcher Foundation Machine

/-- What has been processed last, and what is left of the startup loop, beside what is live. -/
structure ChannelReload where
  live : Live
  latest : GatewayConfig
  pending : List Channels.StartupStep

inductive ChannelEvent
  | startup
  | config (newConfig : GatewayConfig)

namespace ChannelReload

def start (config : GatewayConfig) (codingAgents : Option Json) : ChannelReload :=
  ⟨.start config codingAgents, config, Channels.startupSteps config.channels⟩

def apply (s : ChannelReload) : ChannelEvent → ChannelReload
  | .startup =>
    match s.pending with
    | [] => s
    | i :: pending =>
      { s with live := { s.live with channels := s.live.channels.startup i }, pending := pending }
  | .config newConfig => { s with live := s.live.dispatch newConfig, latest := newConfig }

/-- A step answers with the state it leads to. -/
def step (s : ChannelReload) (event : ChannelEvent) : ChannelReload × ChannelReload :=
  (s.apply event, s.apply event)

structure AllLive (s : ChannelReload) : Prop where
  started_once : ∀ key c, s.live.channels.channelMap.lookup key = some c →
    s.live.channels.started.count c = 1
  shutDown : ∀ c ∈ s.live.channels.started,
    (∀ key, s.live.channels.channelMap.lookup key ≠ some c) → c ∈ s.live.channels.shutDown
  keys : ∀ key, (s.live.channels.channelMap.lookup key).isSome ↔
    ((buildChannels s.latest.channels s.live.channels.built).lookup key).isSome

/-- The config leaves the channels as they are, or there are none to be built before and after. -/
def Kept (s : ChannelReload) : ChannelEvent → Prop
  | .startup => True
  | .config newConfig => s.latest.channels = newConfig.channels ∨
      enabledKeys s.latest.channels = [] ∧ enabledKeys newConfig.channels = []

structure Inv (config : GatewayConfig) (s : ChannelReload) : Prop where
  old : s.live.oldConfig.channels = s.latest.channels
  keys : enabledKeys s.latest.channels = enabledKeys config.channels
  progress : ∃ done, Channels.startupSteps config.channels = done ++ s.pending ∧
    s.live.channels.channelMap =
      (done.foldl Channels.startup (Live.start config none).channels).channelMap ∧
    s.live.channels.started =
      (done.foldl Channels.startup (Live.start config none).channels).started

end ChannelReload

section Startup

variable {config : GatewayConfig}

theorem foldl_startup (es : List (Sigma fun _ : ChannelKey ↦ ℕ)) (channels : Channels) :
    let steps : List Channels.StartupStep := es.flatMap fun e ↦ [.insert e.1 e.2, .start e.2]
    (steps.foldl Channels.startup channels).channelMap =
        es.foldl (fun m e ↦ m.insert e.1 e.2) channels.channelMap ∧
      (steps.foldl Channels.startup channels).started = channels.started ++ es.map Sigma.snd := by
  induction es generalizing channels with
  | nil => exact ⟨rfl, (List.append_nil _).symm⟩
  | cons e es ih =>
    obtain ⟨hmap, hstarted⟩ := ih ((channels.startup (.insert e.1 e.2)).startup (.start e.2))
    refine ⟨hmap, hstarted.trans ?_⟩
    rw [List.map_cons, List.append_cons]
    rfl

theorem startup_done (config : GatewayConfig) (key : ChannelKey) :
    let channels := (Channels.startupSteps config.channels).foldl Channels.startup
      (Live.start config none).channels
    channels.channelMap.lookup key = (buildChannels config.channels 0).lookup key ∧
      channels.started = KeyedMap.values (buildChannels config.channels 0) := by
  obtain ⟨hmap, hstarted⟩ := foldl_startup (buildChannels config.channels 0).entries
    (Live.start config none).channels
  refine ⟨?_, hstarted⟩
  have hlookup := KeyedMap.lookup_foldl_insert id (buildChannels config.channels 0) ∅ key
  rw [Option.map_id, id, AList.lookup_empty, Option.or_none] at hlookup
  exact (congrArg (AList.lookup key) hmap).trans hlookup

theorem startupSteps_of_no_keys (h : enabledKeys config.channels = []) :
    Channels.startupSteps config.channels = [] := by
  rw [Channels.startupSteps, buildChannels_of_no_keys h]
  rfl

end Startup

section Runs

variable {s : ChannelReload} {config : GatewayConfig} {event : ChannelEvent}

theorem inv_channelReload (config : GatewayConfig) (codingAgents : Option Json) :
    (ChannelReload.start config codingAgents).Inv config :=
  ⟨rfl, rfl, [], rfl, rfl, rfl⟩

theorem inv_apply (h : s.Inv config) (hkept : s.Kept event) : (s.apply event).Inv config := by
  cases event with
  | startup =>
    obtain ⟨done, hsteps, hmap, hstarted⟩ := h.progress
    cases hpending : s.pending with
    | nil =>
      have hsame : s.apply .startup = s := by simp only [ChannelReload.apply, hpending]
      rw [hsame]
      exact h
    | cons i pending =>
      have hnext : s.apply .startup =
          { s with
            live := { s.live with channels := s.live.channels.startup i }, pending := pending } := by
        simp only [ChannelReload.apply, hpending]
      rw [hnext]
      refine ⟨h.old, h.keys, done ++ [i], ?_, ?_, ?_⟩
      · rw [hsteps, hpending, List.append_assoc, List.singleton_append]
      · rw [List.foldl_append]
        cases i with
        | insert key c => exact congrArg (AList.insert key c) hmap
        | start c => exact hmap
      · rw [List.foldl_append]
        cases i with
        | insert key c => exact hstarted
        | start c => exact congrArg (· ++ [c]) hstarted
  | config newConfig =>
    have hold := (same_oldConfig_dispatch s.live newConfig).channels
    have hchannels := channels_dispatch s.live newConfig
    rw [h.old] at hchannels
    rcases hkept with hsame | ⟨hno, hno'⟩
    · rw [if_pos hsame] at hchannels
      refine ⟨hold, (congrArg enabledKeys hsame).symm.trans h.keys, ?_⟩
      obtain ⟨done, hsteps, hmap, hstarted⟩ := h.progress
      exact ⟨done, hsteps, (congrArg Channels.channelMap hchannels).trans hmap,
        (congrArg Channels.started hchannels).trans hstarted⟩
    · -- the map is replaced, but it was empty, and so is the new one
      have hnone : enabledKeys config.channels = [] := h.keys.symm.trans hno
      obtain ⟨done, hsteps, hmap, hstarted⟩ := h.progress
      have hdone : done = [] := by
        rw [startupSteps_of_no_keys hnone] at hsteps
        exact (List.append_eq_nil_iff.mp hsteps.symm).1
      subst hdone
      have hkeep : (s.live.dispatch newConfig).channels.channelMap = ∅ ∧
          (s.live.dispatch newConfig).channels.started = s.live.channels.started := by
        rw [hchannels]
        split
        · exact ⟨hmap, rfl⟩
        · exact ⟨buildChannels_of_no_keys hno' _, rfl⟩
      exact ⟨hold, hno'.trans hnone.symm, [], hsteps, hkeep.1, hkeep.2.trans hstarted⟩

theorem allLive_of_inv (h : s.Inv config) (hquiet : s.pending = []) : s.AllLive := by
  obtain ⟨done, hsteps, hmap, hstarted⟩ := h.progress
  rw [hquiet, List.append_nil] at hsteps
  subst hsteps
  have hlookup : ∀ key, s.live.channels.channelMap.lookup key =
      (buildChannels config.channels 0).lookup key := fun key ↦
    (congrArg (AList.lookup key) hmap).trans (startup_done config key).1
  have hvalues : s.live.channels.started = KeyedMap.values (buildChannels config.channels 0) :=
    hstarted.trans (startup_done config ⟨.webhook, ""⟩).2
  refine ⟨fun key c hc ↦ ?_, fun c hc hgone ↦ ?_, fun key ↦ ?_⟩
  · rw [hvalues]
    rw [hlookup] at hc
    exact List.count_eq_one_of_mem (nodup_values_buildChannels _ _)
      (KeyedMap.mem_values.mpr ⟨key, hc⟩)
  · rw [hvalues] at hc
    obtain ⟨key, hkey⟩ := KeyedMap.mem_values.mp hc
    exact absurd ((hlookup key).trans hkey) (hgone key)
  · rw [hlookup, lookup_buildChannels_isSome, lookup_buildChannels_isSome, h.keys]

/-- In a run whose configs keep the channels as they are, exactly the configured channels are live
whenever the startup loop is over. -/
theorem allLive_of_run (config : GatewayConfig) (codingAgents : Option Json)
    (events : List ChannelEvent)
    (hkept : Along ChannelReload.step ChannelReload.Kept (.start config codingAgents) events) :
    ∀ s ∈ outputs ChannelReload.step (.start config codingAgents) events,
      s.pending = [] → s.AllLive := by
  refine forall_outputs_of_along ChannelReload.step (fun s event h hkept ↦ ?_)
    (inv_channelReload config codingAgents) hkept
  exact ⟨allLive_of_inv (inv_apply h hkept), inv_apply h hkept⟩

end Runs

def telegramAt (account : String) : GatewayConfig :=
  { GatewayConfig.default with
    channels := ⟨some ⟨"token", .pairing, [], .object [("accountId", .string account)]⟩, none,
      .object []⟩ }

theorem allLive_of_run_started :
    Along ChannelReload.step ChannelReload.Kept (.start (telegramAt "a") none)
      [.startup, .startup, .config { telegramAt "a" with hooks := .null }] ∧
    ∀ s ∈ outputs ChannelReload.step (.start (telegramAt "a") none)
        [.startup, .startup, .config { telegramAt "a" with hooks := .null }],
      s.pending = [] → s.AllLive := by
  have hkept : Along ChannelReload.step ChannelReload.Kept (.start (telegramAt "a") none)
      [.startup, .startup, .config { telegramAt "a" with hooks := .null }] :=
    ⟨trivial, trivial, .inl rfl, trivial⟩
  exact ⟨hkept, allLive_of_run _ none _ hkept⟩

/-- A reload leaves the old channel running, and it does not start the new one. -/
theorem not_allLive :
    validateConfig (telegramAt "a") = .ok () ∧ validateConfig (telegramAt "b") = .ok () ∧
    ¬ ∀ (config : GatewayConfig) (codingAgents : Option Json) (events : List ChannelEvent),
      ∀ s ∈ outputs ChannelReload.step (.start config codingAgents) events,
        s.pending = [] → s.AllLive := by
  refine ⟨by decide, by decide, fun h ↦ ?_⟩
  have hlive := h (telegramAt "a") none [.startup, .startup, .config (telegramAt "b")] _
    (.tail _ (.tail _ (.head _))) rfl
  have hstarted := hlive.started_once ⟨.telegram, "b"⟩ 1 rfl
  exact absurd hstarted (by decide)

end AdkGateway.HotReload
