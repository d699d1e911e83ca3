import AdkGateway.AgentTools.Sequence
import AdkGateway.Foundation.Machine

namespace AdkGateway.AgentTools

open Foundation Machine AgentRegistry ControlPanel

def View.Running (v : View) : Prop := ∃ record, v.record = some record ∧ record.state = .running

def View.Up (v : View) : Prop :=
  (∃ process, v.process = some process ∧ process.live = true) ∧ ∃ port, v.proxy = some port

def RunningIsUp (sys : Bool) (v : View) : Prop := sys = false → (v.Running ↔ v.Up)

/-- A user agent is in state Running just if the process manager holds a live process for it and
the proxy pool a proxy. -/
def RunningMeansRunning (s : Stores) : Prop :=
  ∀ id, s.registry.isSystemAgent id = false →
    ((∃ record, s.registry.agents.lookup id = some record ∧ record.state = .running) ↔
      (∃ process, s.processes.lookup id = some process ∧ process.live = true) ∧
        ∃ port, s.proxyPool.lookup id = some port)

section Conditions

variable (F : Formats) (codec : Codec) (persistDir : Path)

def StopPersists (s : Stores) (id : String) (env : Op → Input) : Prop :=
  s.registry.isSystemAgent id = false → ∀ record, s.registry.agents.lookup id = some record →
    record.state = .running → (env (.transition id .stopping)).persist = .ok ()

/-- No user agent is loaded as running, the control panel neither starts nor stops one, and the
first state of a stop is written. -/
def Agreeing (s : Stores) (event : Event) : Prop :=
  match event.request with
  | .boot b => ∀ id record,
    (loadRegistry codec persistDir b).2.agents.lookup id = some record →
    (loadRegistry codec persistDir b).2.isSystemAgent id = false →
      id ≠ "system" ∧ record.state ≠ .running
  | .agentStop args => ∀ id, (args.get "agent_id").bind Json.asStr = some id →
    StopPersists s id event.env
  | .agentConfigure args => ∀ id, (args.get "agent_id").bind Json.asStr = some id →
    ∀ value config, args.get "config" = some value → F.fromValue value = .ok config →
      config.id = id → StopPersists s id event.env
  | .apiAgentsStart id => s.registry.isSystemAgent id = false →
    ∀ record, s.registry.agents.lookup id = some record → startable record.state = true →
      (event.env (.transition id .starting)).persist ≠ .ok ()
  | .apiAgentsStop id => s.registry.isSystemAgent id = false →
    ∀ record, s.registry.agents.lookup id = some record → record.state ≠ .running
  | _ => True

end Conditions

section Local

variable {F : Formats} {env : Op → Input} {id : String} {v v' : View} {entry : AgentRecord}

theorem running_iff (h : v.record = some entry) : v.Running ↔ entry.state = .running := by
  constructor
  · rintro ⟨record, hrecord, hstate⟩
    rwa [Option.some_inj.mp (h.symm.trans hrecord)]
  · exact fun hstate ↦ ⟨entry, h, hstate⟩

theorem running_congr (h : v'.record.map (·.state) = v.record.map (·.state)) :
    v'.Running ↔ v.Running := by
  cases hrecord : v.record with
  | none =>
    rw [hrecord, Option.map_none, Option.map_eq_none_iff] at h
    simp [View.Running, hrecord, h]
  | some entry =>
    rw [hrecord, Option.map_some] at h
    obtain ⟨entry', hrecord', hstate⟩ := Option.map_eq_some_iff.mp h
    rw [running_iff hrecord', running_iff hrecord, hstate]

theorem not_running_of_none (h : v.record = none) : ¬ v.Running := by
  rintro ⟨record, hrecord, -⟩
  cases h.symm.trans hrecord

theorem not_up_of_none (h : v.proxy = none) : ¬ v.Up := by
  rintro ⟨-, port, hport⟩
  cases h.symm.trans hport

theorem up_congr (hprocess : v'.process = v.process) (hproxy : v'.proxy = v.proxy) :
    v'.Up ↔ v.Up := by
  rw [View.Up, View.Up, hprocess, hproxy]

theorem Fails.not_up (h : Fails entry v v') (hup : ¬ v.Up) : ¬ v'.Up := by
  obtain ⟨hprocess, hproxy⟩ | ⟨-, hproxy⟩ := h.process
  · rwa [up_congr hprocess hproxy]
  · exact not_up_of_none hproxy

theorem Fails.not_running (h : Fails entry v v') : ¬ v'.Running := by
  obtain ⟨state, now, hstate, hrecord⟩ := h.record
  rwa [running_iff hrecord]

theorem halt_running_iff (F : Formats) (env : Op → Input) (id : String) (h : v.Running ↔ v.Up) :
    (((halt F id).run View.exec env v).1.Running ↔ ((halt F id).run View.exec env v).1.Up) ↔
      ∀ record, v.record = some record → record.state = .running →
        (env (.transition id .stopping)).persist = .ok () := by
  obtain ⟨entry, now, hrecord, hstate, hpersist, heq⟩ |
    ⟨entry, now, e, hrecord, hstate, hpersist, heq⟩ | ⟨⟨e, heq⟩, hnot⟩ := halt_cases F env id v
  · rw [heq]
    refine iff_of_true (iff_of_false ?_ (not_up_of_none rfl)) fun _ _ _ ↦ hpersist
    intro hrunning
    cases (running_iff rfl).mp hrunning
  · rw [heq]
    refine iff_of_false (fun hiff ↦ ?_) fun hall ↦ hpersist (hall entry hrecord hstate)
    have hup : v.Up := h.mp ((running_iff hrecord).mpr hstate)
    cases (running_iff rfl).mp (hiff.mpr hup)
  · rw [heq]
    exact iff_of_true h fun record hrecord hstate ↦ absurd hstate (hnot record hrecord)

theorem start_running (h : v.Running ↔ v.Up) :
    ((startAgent F id).run View.exec env v).1.Running ↔
      ((startAgent F id).run View.exec env v).1.Up := by
  obtain ⟨heq, -⟩ | ⟨entry, hrecord, hstartable, -, hfails⟩ |
    ⟨entry, now, port, -, -, -, heq⟩ := start_cases F env id v
  · rw [heq]
    exact h
  · have hnot : ¬ v.Up := fun hup ↦
      not_running_of_startable hstartable ((running_iff hrecord).mp (h.mpr hup))
    exact iff_of_false hfails.not_running (hfails.not_up hnot)
  · rw [heq]
    exact iff_of_true ⟨_, rfl, rfl⟩ ⟨⟨_, rfl, rfl⟩, _, rfl⟩

theorem restart_running {config : AgentConfig} (hrecord : v.record = some entry)
    (hstartable : startable entry.state = true) (hup : ¬ v.Up) :
    ((restart F id config).run View.exec env v).1.Running ↔
      ((restart F id config).run View.exec env v).1.Up := by
  obtain ⟨-, hfails⟩ | ⟨-, now, port, heq⟩ :=
    restart_cases F env id config hrecord hstartable
  · exact iff_of_false hfails.not_running (hfails.not_up hup)
  · rw [heq]
    exact iff_of_true ⟨_, rfl, rfl⟩ ⟨⟨_, rfl, rfl⟩, _, rfl⟩

theorem reconfigure_running {config : AgentConfig} (hrecord : v.record = some entry)
    (hid : config.id = id) (wasRunning : Bool) (oldBindings : List ChannelBinding)
    (hrestart : wasRunning = true → startable entry.state = true ∧ ¬ v.Up)
    (h : v.Running ↔ v.Up) :
    ((reconfigure F id config wasRunning oldBindings).run View.exec env v).1.Running ↔
      ((reconfigure F id config wasRunning oldBindings).run View.exec env v).1.Up := by
  obtain ⟨now, ⟨-, heq⟩ | ⟨-, v', hv', heq⟩⟩ :=
    reconfigure_cases F env id wasRunning oldBindings hrecord hid
  · rw [heq]
    refine (running_congr ?_).trans (h.trans (up_congr rfl rfl).symm)
    rw [hrecord]
    rfl
  · have hrecord' : v'.record = some { entry with config := config, updatedAt := now } := by
      rw [hv']
    have hup : v'.Up ↔ v.Up := up_congr (by rw [hv']) (by rw [hv'])
    rw [heq]
    cases wasRunning with
    | true =>
      obtain ⟨hstartable, hnot⟩ := hrestart rfl
      exact restart_running hrecord' hstartable (mt hup.mp hnot)
    | false => exact (running_iff hrecord').trans ((running_iff hrecord).symm.trans (h.trans hup.symm))

theorem configure_running_iff {config : AgentConfig} (hid : config.id = id)
    (h : v.Running ↔ v.Up) :
    (((configureAgent F id config).run View.exec env v).1.Running ↔
        ((configureAgent F id config).run View.exec env v).1.Up) ↔
      ∀ record, v.record = some record → record.state = .running →
        (env (.transition id .stopping)).persist = .ok () := by
  rw [configureAgent, Script.run_bind, call, Script.run_perform, exec_get]
  cases hrecord : v.record with
  | none => exact iff_of_true h fun _ h ↦ by cases h
  | some entry =>
    dsimp only
    by_cases hstate : entry.state = .running
    · rw [if_pos hstate, Script.run_bind]
      have hhalt := halt_running_iff F env id h
      rw [hrecord] at hhalt
      obtain ⟨entry', now, -, -, hpersist, heq⟩ | ⟨entry', now, e, -, -, -, heq⟩ | ⟨-, hnot⟩ :=
        halt_cases F env id v
      · rw [heq]
        refine iff_of_true ?_ fun _ _ _ ↦ hpersist
        refine reconfigure_running rfl hid true _ (fun _ ↦ ⟨rfl, not_up_of_none rfl⟩) ?_
        refine iff_of_false (fun hrunning ↦ ?_) (not_up_of_none rfl)
        cases (running_iff rfl).mp hrunning
      · rw [heq] at hhalt ⊢
        exact hhalt
      · exact absurd hstate (hnot entry hrecord)
    · rw [if_neg hstate]
      refine iff_of_true (reconfigure_running hrecord hid false _ (fun h ↦ by cases h) h) fun record hsome hrunning ↦ ?_
      exact absurd (Option.some_inj.mp hsome ▸ hrunning) hstate

theorem delete_running {α : Type} {rest : Except RegistryError AgentRecord → Code α}
    (hrest : ∀ answer v, ((rest answer).run View.exec env v).1.record = v.record ∧
      ((rest answer).run View.exec env v).1.process = v.process ∧
      ((rest answer).run View.exec env v).1.proxy = v.proxy) (h : v.Running ↔ v.Up) :
    ((AgentTools.delete id >>= rest).run View.exec env v).1.Running ↔
      ((AgentTools.delete id >>= rest).run View.exec env v).1.Up := by
  rw [Script.run_bind]
  obtain ⟨record, hrecord, hdeletable, heq⟩ | ⟨⟨e, heq⟩, -⟩ := delete_cases env id v
  · rw [heq]
    obtain ⟨hnone, hprocess, hproxy⟩ := hrest (.ok record) { v with record := none }
    have hnot : ¬ v.Up := by
      rw [← h, running_iff hrecord]
      rintro hstate
      rw [hstate] at hdeletable
      cases hdeletable
    refine iff_of_false (not_running_of_none hnone) ?_
    exact mt (up_congr (v := v) hprocess hproxy).mp hnot
  · rw [heq]
    obtain ⟨hrecord, hprocess, hproxy⟩ := hrest (.error e) v
    rw [View.Running, hrecord, up_congr hprocess hproxy]
    exact h

theorem create_running {α : Type} {config : AgentConfig}
    {rest : Except RegistryError Unit → Code α}
    (hrest : ∀ answer v, ((rest answer).run View.exec env v).1.record = v.record ∧
      ((rest answer).run View.exec env v).1.process = v.process ∧
      ((rest answer).run View.exec env v).1.proxy = v.proxy) (h : v.Running ↔ v.Up) :
    ((call (.createAgent config) >>= rest).run View.exec env v).1.Running ↔
      ((call (.createAgent config) >>= rest).run View.exec env v).1.Up := by
  rw [Script.run_bind, call, Script.run_perform]
  have hsame (answer : Except RegistryError Unit) :
      ((rest answer).run View.exec env v).1.Running ↔
        ((rest answer).run View.exec env v).1.Up := by
    obtain ⟨hrecord, hprocess, hproxy⟩ := hrest answer v
    rw [View.Running, hrecord, up_congr hprocess hproxy]
    exact h
  cases hrecord : v.record with
  | some record =>
    simp only [View.exec, hrecord]
    exact hsame _
  | none =>
    simp only [View.exec, hrecord]
    cases hpersist : (env (.createAgent config)).persist with
    | error e => exact hsame _
    | ok =>
      dsimp only
      obtain ⟨hcreated, hprocess, hproxy⟩ := hrest (.ok ())
        { v with record := some (newRecord config (env (.createAgent config)).now) }
      have hnot : ¬ v.Up := fun hup ↦ not_running_of_none hrecord (h.mpr hup)
      refine iff_of_false (fun hrunning ↦ ?_) (mt (up_congr (v := v) hprocess hproxy).mp hnot)
      cases (running_iff hcreated).mp hrunning

theorem autoStart_running_iff (id : String) (v : View) :
    (((autoStartAgent id).run View.exec env v).1.Running ↔
      ((autoStartAgent id).run View.exec env v).1.Up) ↔ (v.Running ↔ v.Up) := by
  rw [autoStartAgent, Script.run_bind, call, Script.run_perform]
  by_cases hstart : ∃ entry, v.record = some entry ∧ startable entry.state = true
  · obtain ⟨entry, hrecord, hstartable⟩ := hstart
    have hnot : ¬ v.Running := fun hrunning ↦
      not_running_of_startable hstartable ((running_iff hrecord).mp hrunning)
    -- as long as no new process comes up, all is as before
    have hsame {v' : View} (hrunning : ¬ v'.Running) (hprocess : v'.process = v.process)
        (hproxy : v'.proxy = v.proxy) : (v'.Running ↔ v'.Up) ↔ (v.Running ↔ v.Up) := by
      rw [iff_false_left hrunning, iff_false_left hnot, up_congr hprocess hproxy]
    rw [exec_transition _ hrecord hstartable]
    cases (env (.transition id .starting)).persist with
    | error e => exact hsame (fun hrunning ↦ by cases (running_iff rfl).mp hrunning) rfl rfl
    | ok =>
      simp only [answer]
      rw [Script.run_bind, call, Script.run_perform, exec_get]
      dsimp only [View.withState]
      rw [Script.run_bind, call, Script.run_perform, exec_build]
      cases (env (.build entry.config)).build with
      | error e => exact hsame (fun hrunning ↦ by cases (running_iff rfl).mp hrunning) rfl rfl
      | ok path =>
        dsimp only
        rw [Script.run_bind, call, Script.run_perform]
        obtain ⟨record, process, proxy, role, router⟩ := v
        cases process with
        | some process => exact hsame (fun hrunning ↦ by cases (running_iff rfl).mp hrunning) rfl rfl
        | none =>
          rw [exec_spawn]
          cases (env (.spawn id)).spawn with
          | error e => exact hsame (fun hrunning ↦ by cases (running_iff rfl).mp hrunning) rfl rfl
          | ok port =>
            refine iff_of_true (iff_of_true ⟨_, rfl, rfl⟩ ⟨⟨_, rfl, rfl⟩, _, rfl⟩) ?_
            refine iff_of_false hnot ?_
            intro h
            obtain ⟨⟨process, hprocess, -⟩, -⟩ := h
            cases hprocess
  · obtain ⟨e, he⟩ := exec_transition_refused id .starting
      (env (.transition id .starting)) fun entry hrecord ↦
        eq_false_of_ne_true fun hstartable ↦ hstart ⟨entry, hrecord, hstartable⟩
    rw [he]
    rfl

theorem apiStart_running_iff (h : v.Running ↔ v.Up) :
    (((apiAgentsStart F id).run View.exec env v).1.Running ↔
        ((apiAgentsStart F id).run View.exec env v).1.Up) ↔
      ∀ record, v.record = some record → startable record.state = true →
        (env (.transition id .starting)).persist ≠ .ok () := by
  rw [apiAgentsStart, Script.run_bind, call, Script.run_perform]
  by_cases hstart : ∃ entry, v.record = some entry ∧ startable entry.state = true
  · obtain ⟨entry, hrecord, hstartable⟩ := hstart
    have hnot : ¬ v.Up := fun hup ↦
      not_running_of_startable hstartable ((running_iff hrecord).mp (h.mpr hup))
    rw [exec_transition _ hrecord hstartable]
    cases hpersist : (env (.transition id .starting)).persist with
    | error e =>
      refine iff_of_true (iff_of_false (fun hrunning ↦ ?_) hnot) fun _ _ _ h ↦ by cases h
      cases (running_iff rfl).mp hrunning
    | ok =>
      refine iff_of_false (fun hiff ↦ ?_) fun hall ↦ hall entry hrecord hstartable rfl
      exact hnot (hiff.mp ⟨_, rfl, rfl⟩)
  · obtain ⟨e, he⟩ := exec_transition_refused id .starting
      (env (.transition id .starting)) fun entry hrecord ↦
        eq_false_of_ne_true fun hstartable ↦ hstart ⟨entry, hrecord, hstartable⟩
    rw [he]
    exact iff_of_true h fun record hrecord hstartable ↦ absurd ⟨record, hrecord, hstartable⟩ hstart

theorem apiStop_running_iff (h : v.Running ↔ v.Up) :
    (((apiAgentsStop F id).run View.exec env v).1.Running ↔
        ((apiAgentsStop F id).run View.exec env v).1.Up) ↔
      ∀ record, v.record = some record → record.state ≠ .running := by
  rw [apiAgentsStop, Script.run_bind, call, Script.run_perform]
  by_cases hrunning : v.Running
  · obtain ⟨entry, hrecord, hstate⟩ := hrunning
    have hup : v.Up := h.mp ⟨entry, hrecord, hstate⟩
    have hvalid : isValidTransition entry.state .stopping = true := by rw [hstate]; rfl
    rw [exec_transition _ hrecord hvalid]
    -- whether that is written or not, the process stays
    cases (env (.transition id .stopping)).persist with
    | error e =>
      refine iff_of_false (fun hiff ↦ ?_) fun hall ↦ hall entry hrecord hstate
      cases (running_iff rfl).mp (hiff.mpr hup)
    | ok =>
      refine iff_of_false (fun hiff ↦ ?_) fun hall ↦ hall entry hrecord hstate
      cases (running_iff rfl).mp (hiff.mpr hup)
  · have hnot (entry : AgentRecord) (hrecord : v.record = some entry) : entry.state ≠ .running :=
      fun hstate ↦ hrunning ⟨entry, hrecord, hstate⟩
    obtain ⟨e, he⟩ := exec_transition_refused id .stopping
      (env (.transition id .stopping)) fun entry hrecord ↦ by
        have hstate := hnot entry hrecord
        cases hs : entry.state <;> first | rfl | exact absurd hs hstate
    rw [he]
    exact iff_of_true h hnot

theorem apiConfigure_running (payload : ConfigureAgentPayload) (h : v.Running ↔ v.Up) :
    ((apiAgentsConfigure F id payload).run View.exec env v).1.Running ↔
      ((apiAgentsConfigure F id payload).run View.exec env v).1.Up := by
  rw [apiAgentsConfigure, Script.run_bind, call, Script.run_perform, exec_get]
  cases hrecord : v.record with
  | none => exact h
  | some record =>
    dsimp only
    cases payload.config record.config with
    | none => exact h
    | some config =>
      dsimp only
      rw [Script.run_bind, call, Script.run_perform]
      have hsame (v' : View) (hstate : v'.record.map (·.state) = v.record.map (·.state))
          (hprocess : v'.process = v.process) (hproxy : v'.proxy = v.proxy) :
          v'.Running ↔ v'.Up :=
        (running_congr hstate).trans (h.trans (up_congr hprocess hproxy).symm)
      by_cases hid : config.id = id
      · simp only [View.exec, hrecord, hid, if_true, View.setEntry]
        cases (env (.updateConfig id config)).persist <;>
          exact hsame _ (by rw [hrecord]; rfl) rfl rfl
      · simp only [View.exec, hrecord, hid, if_false]
        exact h

theorem onFailure_running (reason : String) :
    ((onFailure id reason).run View.exec env v).1.Running ↔
      ((onFailure id reason).run View.exec env v).1.Up := by
  obtain ⟨record, process, proxy, role, router⟩ := v
  have hproxy (v : View) (hnone : v.proxy = none) :
      ((View.exec (.transition id (.error reason)) (env (.transition id (.error reason))) v).1.Running ↔
        (View.exec (.transition id (.error reason))
          (env (.transition id (.error reason))) v).1.Up) := by
    cases hrecord : v.record with
    | none =>
      simp only [View.exec, hrecord]
      exact iff_of_false (not_running_of_none hrecord) (not_up_of_none hnone)
    | some entry =>
      cases hvalid : isValidTransition entry.state (.error reason) with
      | true =>
        rw [exec_transition _ hrecord hvalid]
        refine iff_of_false (fun hrunning ↦ ?_) (not_up_of_none hnone)
        cases (running_iff rfl).mp hrunning
      | false =>
        simp only [View.exec, hrecord, hvalid, Bool.false_eq_true, if_false]
        refine iff_of_false (fun hrunning ↦ ?_) (not_up_of_none hnone)
        rw [(running_iff hrecord).mp hrunning] at hvalid
        cases hvalid
  exact hproxy ⟨record, process, none, role, router⟩ rfl

end Local

section Steps

variable {F : Formats} {codec : Codec} {persistDir : Path} {s : Stores}

theorem ignoresRouter_runningIsUp : IgnoresRouter RunningIsUp := fun _ _ _ ↦ Iff.rfl

theorem repaired_running_iff {now : DateTime} {id : String} {record : AgentRecord} :
    (repaired now id record).state = .running ↔ id = "system" ∨ record.state = .running := by
  rw [repaired, repairedState]
  by_cases hid : id = "system"
  · by_cases hstate : record.state = .running <;> simp [hid, hstate]
  · cases hstate : record.state <;> simp [hid, hstate]

theorem runningIsUp_assemble_iff (b : Boot) :
    Everywhere RunningIsUp (assemble codec persistDir b) ↔ ∀ id record,
      (loadRegistry codec persistDir b).2.agents.lookup id = some record →
      (loadRegistry codec persistDir b).2.isSystemAgent id = false →
        id ≠ "system" ∧ record.state ≠ .running := by
  obtain ⟨hsystem, hlookup⟩ :=
    repair_list b.now b.persistRepaired (loadRegistry codec persistDir b).2
  refine forall_congr' fun id ↦ ?_
  have hrecord : ((assemble codec persistDir b).view id).record =
      ((loadRegistry codec persistDir b).2.agents.lookup id).map (repaired b.now id) := hlookup id
  have hdown : ¬ ((assemble codec persistDir b).view id).Up :=
    not_up_of_none rfl
  have hsys : (assemble codec persistDir b).registry.isSystemAgent id =
      (loadRegistry codec persistDir b).2.isSystemAgent id := isSystemAgent_congr hsystem id
  rw [RunningIsUp, hsys, iff_false_right hdown]
  cases hloaded : (loadRegistry codec persistDir b).2.agents.lookup id with
  | none =>
    rw [hloaded, Option.map_none] at hrecord
    exact iff_of_true (fun _ ↦ not_running_of_none hrecord) nofun
  | some record =>
    rw [hloaded, Option.map_some] at hrecord
    rw [running_iff hrecord, repaired_running_iff, not_or]
    constructor
    · intro h record' hrecord' huser
      rw [← Option.some_inj.mp hrecord']
      exact h huser
    · exact fun h huser ↦ h record rfl huser

theorem runningIsUp_apply_iff (F : Formats) (codec : Codec) (persistDir : Path)
    (h : Everywhere RunningIsUp s) (event : Event) :
    Everywhere RunningIsUp (apply F codec persistDir s event) ↔
      Agreeing F codec persistDir s event := by
  have hP := ignoresRouter_runningIsUp
  obtain ⟨request, env⟩ := event
  cases request with
  | boot b =>
    refine (everywhere_autoStart hP fun id sys v ↦ ?_).trans (runningIsUp_assemble_iff b)
    exact imp_congr_right fun _ ↦ autoStart_running_iff id v
  | agentCreate args =>
    refine iff_of_true ?_ trivial
    simp only [apply, Request.code, run_discard, agentCreate]
    cases (args.get "name").bind Json.asStr with
    | none => exact h
    | some name =>
      refine (h.run_iff hP about_createFrom).mpr fun hsys ↦ create_running (fun answer v ↦ ?_) (h _ hsys)
      cases answer <;> exact ⟨rfl, rfl, rfl⟩
  | agentStop args =>
    refine h.withAgentId_iff hP (fun _ ↦ about_stopAgent) fun id hid ↦ ?_
    rw [RunningIsUp, run_stopAgent]
    exact forall_congr' fun hsys ↦ halt_running_iff _ _ _ (hid hsys)
  | agentStart args =>
    refine iff_of_true ?_ trivial
    exact h.withAgentId hP (fun _ ↦ about_startAgent) fun id hid hsys ↦ start_running (hid hsys)
  | agentDelete args =>
    refine iff_of_true ?_ trivial
    refine h.withAgentId hP (fun _ ↦ about_deleteAgent) fun id hid hsys ↦ ?_
    refine delete_running (fun answer v ↦ ?_) (hid hsys)
    cases answer <;> exact ⟨rfl, rfl, rfl⟩
  | agentConfigure args =>
    refine h.withAgentId_iff hP (fun _ ↦ about_configureFrom args) fun id hid ↦ ?_
    refine (configureFrom_iff (R := fun tool ↦ RunningIsUp (s.registry.isSystemAgent id)
      (tool.run View.exec env (s.view id)).1) (fun _ ↦ hid) args).trans ?_
    refine forall₅_congr fun value config _ _ hmatch ↦ ?_
    exact forall_congr' fun hsys ↦ configure_running_iff hmatch (hid hsys)
  | apiAgentsCreate payload =>
    refine iff_of_true ?_ trivial
    simp only [apply, Request.code, run_discard, ControlPanel.apiAgentsCreate]
    split
    · exact h
    · split
      · exact h
      · split
        · exact h
        · refine (h.run_iff hP about_createAs).mpr fun hsys ↦
            create_running (fun answer v ↦ ?_) (h _ hsys)
          cases answer <;> exact ⟨rfl, rfl, rfl⟩
  | apiAgentsStart id =>
    simp only [apply, Request.code, run_discard]
    rw [h.run_iff hP about_apiAgentsStart]
    exact forall_congr' fun hsys ↦ apiStart_running_iff (h id hsys)
  | apiAgentsStop id =>
    simp only [apply, Request.code, run_discard]
    rw [h.run_iff hP about_apiAgentsStop]
    exact forall_congr' fun hsys ↦ apiStop_running_iff (h id hsys)
  | apiAgentsDelete id =>
    refine iff_of_true ?_ trivial
    simp only [apply, Request.code, run_discard]
    refine (h.run_iff hP about_apiAgentsDelete).mpr fun hsys ↦ delete_running (fun answer v ↦ ?_) (h id hsys)
    cases answer <;> exact ⟨rfl, rfl, rfl⟩
  | apiAgentsConfigure id payload =>
    refine iff_of_true ?_ trivial
    simp only [apply, Request.code, run_discard]
    exact (h.run_iff hP (about_apiAgentsConfigure payload)).mpr fun hsys ↦
      apiConfigure_running payload (h id hsys)
  | healthFails id live reason =>
    refine iff_of_true (h.healthFails hP codec persistDir live reason ?_) trivial
    exact fun _ _ ↦ onFailure_running reason

theorem runningIsUp_off : Everywhere RunningIsUp off := fun _ _ ↦
  iff_of_false (not_running_of_none rfl) (not_up_of_none rfl)

end Steps

/-- From a start on, the states are true just if all requests are agreeing ones. -/
theorem runningMeansRunning_iff (F : Formats) (codec : Codec) (persistDir : Path) (start : Boot)
    (env : Op → Input) (events : List Event) :
    (∀ s ∈ outputs (step F codec persistDir) off (⟨.boot start, env⟩ :: events),
      RunningMeansRunning s) ↔
      Along (step F codec persistDir) (Agreeing F codec persistDir) off
        (⟨.boot start, env⟩ :: events) := by
  refine forall_outputs_iff (step F codec persistDir)
    (fun s event (hs : Everywhere RunningIsUp s) ↦ ?_) runningIsUp_off _
  have hevent := runningIsUp_apply_iff F codec persistDir hs event
  exact ⟨hevent, hevent.mpr⟩

section Vectors

def startFromPanel : List Event :=
  [⟨.boot firstBoot, allGoesWell⟩,
    ⟨.agentCreate (.object [("name", .string "a")]), allGoesWell⟩,
    ⟨.apiAgentsStart "a", allGoesWell⟩]

theorem not_runningMeansRunning : ¬ ∀ (F : Formats) (codec : Codec) (persistDir : Path)
    (start : Boot) (env : Op → Input) (events : List Event),
    ∀ s ∈ outputs (step F codec persistDir) off (⟨.boot start, env⟩ :: events),
      RunningMeansRunning s := by
  intro h
  have hstart := h plainFormats noFiles [] firstBoot allGoesWell startFromPanel.tail _
    (.tail _ (.tail _ (.head _))) "a" (by decide)
  obtain ⟨⟨process, hprocess, -⟩, -⟩ := hstart.mp ⟨_, rfl, rfl⟩
  cases hprocess

end Vectors

end AdkGateway.AgentTools
