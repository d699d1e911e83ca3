import AdkGateway.AgentTools.Sequence
import AdkGateway.Foundation.Machine

namespace AdkGateway.AgentTools

open Foundation Machine Rbac AgentRegistry ControlPanel

/-- Each agent may use the tools that it might if it were registered as the registry has it now,
and an agent that is not there may use none. -/
def RbacFollows (debugStr : String → String) (s : Stores) : Prop :=
  ∀ id tool, s.rbac.checkTool debugStr id tool = .ok () ↔
    ∃ record, s.registry.agents.lookup id = some record ∧
      (RbacBridge.new.registerRecord s.registry (id, record)).checkTool debugStr id tool = .ok ()

def Permits (role : AgentRoleConfig) (tool : String) : Prop :=
  tool ∈ role.allow ∧ tool ∉ systemTools ∧ tool ∉ role.deny

def Accepted (payload : CreateAgentPayload) : Prop :=
  (Text.trim payload.name).isEmpty = false ∧ (Text.trim payload.model).isEmpty = false ∧
    (Text.trim payload.name).utf8ByteSize ≤ 128

section Conditions

variable (F : Formats) (codec : Codec) (persistDir : Path)

def NoChange (sys : Bool) (role role' : AgentRoleConfig) : Prop :=
  sys = true ∨ ∀ tool, Permits role' tool ↔ Permits role tool

def GetsToUpdate (s : Stores) (id : String) (env : Op → Input) (record : AgentRecord) : Prop :=
  s.registry.agents.lookup id = some record ∧
    (record.state = .running → (env (.transition id .stopping)).persist = .ok ())

def Following (s : Stores) (event : Event) : Prop :=
  match event.request with
  | .boot b =>
    (∃ count, (loadRegistry codec persistDir b).1 = .ok count ∧ 0 < count) ∨
      b.persistSystem = .ok () ∧ ∀ id record,
        (loadRegistry codec persistDir b).2.agents.lookup id = some record → id ≠ "system" →
          ∀ tool, ¬ Permits record.config.role tool
  | .agentCreate args => ∀ name, (args.get "name").bind Json.asStr = some name →
    let config := createdConfig F args name
    s.registry.agents.lookup config.id = none →
      (event.env (.createAgent config)).persist = .ok () →
        s.registry.isSystemAgent config.id = false
  | .agentStart args => ∀ id, (args.get "agent_id").bind Json.asStr = some id →
    ∀ record, s.registry.agents.lookup id = some record → startable record.state = true →
      Starts (s.view id) event.env id record.config → s.registry.isSystemAgent id = false
  | .agentConfigure args => ∀ id, (args.get "agent_id").bind Json.asStr = some id →
    ∀ value config, args.get "config" = some value → F.fromValue value = .ok config →
      config.id = id → ∀ record, GetsToUpdate s id event.env record →
        if (event.env (.updateConfig id config)).persist = .ok () then
          s.registry.isSystemAgent id = false
        else NoChange (s.registry.isSystemAgent id) record.config.role config.role
  | .apiAgentsCreate payload =>
    let config := payload.config F (Text.trim payload.name)
    Accepted payload → s.registry.agents.lookup config.id = none →
      (event.env (.createAgent config)).persist = .ok () →
        s.registry.isSystemAgent config.id = false ∧ ∀ tool, ¬ Permits config.role tool
  | .apiAgentsConfigure id payload =>
    ∀ record config, s.registry.agents.lookup id = some record →
      payload.config record.config = some config → config.id = id →
        NoChange (s.registry.isSystemAgent id) record.config.role config.role
  | .apiAgentsDelete id =>
    ∀ record, s.registry.agents.lookup id = some record → record.state.deletable = true →
      s.registry.isSystemAgent id = false ∧ ∀ tool, ¬ Permits record.config.role tool
  | _ => True

end Conditions

def View.Allows (v : View) (tool : String) : Prop :=
  ∃ role, v.role = some role ∧ .tool tool ∉ role.deny ∧
    (.tool tool ∈ role.allow ∨ .allTools ∈ role.allow)

def View.Entitled (sys : Bool) (v : View) (tool : String) : Prop :=
  ∃ record, v.record = some record ∧ (sys = true ∨ Permits record.config.role tool)

def RoleFollows (sys : Bool) (v : View) : Prop := ∀ tool, v.Allows tool ↔ v.Entitled sys tool

section Local

variable {sys : Bool} {id tool : String} {v v' : View} {entry entry' : AgentRecord}
  {role : AgentRoleConfig}

theorem permits_agentCreate (role : AgentRoleConfig) : ¬ Permits role "agent_create" := by
  intro h
  exact h.2.1 (by decide)

theorem allows_userAgent (id : String) (h : v.role = some (Rbac.role id (.userAgent role))) :
    v.Allows tool ↔ Permits role tool := by
  simp only [View.Allows, h, Option.some.injEq, exists_eq_left', Rbac.role, mem_collect,
    mem_allowed, Permits, List.mem_map, Permission.tool.injEq]
  grind

theorem allows_systemAgent (id : String) (h : v.role = some (Rbac.role id .systemAgent)) : v.Allows tool :=
  ⟨_, h, List.not_mem_nil, .inr (by rw [Rbac.role, mem_collect]; exact List.mem_cons_self)⟩

theorem not_allows_of_none (h : v.role = none) : ¬ v.Allows tool := by
  rintro ⟨role, hrole, -⟩
  cases h.symm.trans hrole

theorem allows_congr (h : v'.role = v.role) : v'.Allows tool ↔ v.Allows tool := by
  rw [View.Allows, View.Allows, h]

theorem entitled_iff (h : v.record = some entry) :
    v.Entitled sys tool ↔ sys = true ∨ Permits entry.config.role tool := by
  simp only [View.Entitled, h, Option.some.injEq, exists_eq_left']

theorem not_entitled_of_none (h : v.record = none) : ¬ v.Entitled sys tool := by
  rintro ⟨record, hrecord, -⟩
  cases h.symm.trans hrecord

theorem forall_entitled_iff (v : View) (sys : Bool) : (∀ tool, v.Entitled sys tool) ↔ v.record ≠ none ∧ sys = true := by
  constructor
  · intro h
    obtain ⟨record, hrecord, hsys | hpermits⟩ := h "agent_create"
    · exact ⟨hrecord ▸ Option.some_ne_none record, hsys⟩
    · exact absurd hpermits (permits_agentCreate _)
  · rintro ⟨hsome, hsys⟩ tool
    obtain ⟨record, hrecord⟩ := Option.ne_none_iff_exists'.mp hsome
    exact ⟨record, hrecord, .inl hsys⟩

theorem forall_not_entitled_iff (h : v.record = some entry) :
    (∀ tool, ¬ v.Entitled sys tool) ↔ sys = false ∧ ∀ tool, ¬ Permits entry.config.role tool := by
  simp only [entitled_iff h, not_or, Bool.not_eq_true]
  exact ⟨fun hall ↦ ⟨(hall "").1, fun tool ↦ (hall tool).2⟩, fun hall tool ↦ ⟨hall.1, hall.2 tool⟩⟩

theorem roleFollows_of_userAgent (id : String) (hrecord : v.record = some entry)
    (hrole : v.role = some (Rbac.role id (.userAgent entry.config.role))) :
    RoleFollows sys v ↔ sys = false := by
  simp only [RoleFollows, allows_userAgent _ hrole, entitled_iff hrecord]
  constructor
  · intro h
    have hnot : ¬ sys = true := fun hsys ↦
      permits_agentCreate _ ((h "agent_create").mpr (.inl hsys))
    exact eq_false_of_ne_true hnot
  · rintro rfl tool
    exact ⟨.inr, fun h ↦ h.resolve_left nofun⟩

theorem roleFollows_congr (hrole : v'.role = v.role)
    (hconfig : v'.record.map (·.config) = v.record.map (·.config)) :
    RoleFollows sys v' ↔ RoleFollows sys v := by
  refine forall_congr' fun tool ↦ ?_
  rw [allows_congr hrole]
  cases hrecord : v.record with
  | none =>
    rw [hrecord, Option.map_none, Option.map_eq_none_iff] at hconfig
    rw [iff_false_right (not_entitled_of_none hconfig), iff_false_right (not_entitled_of_none hrecord)]
  | some entry =>
    rw [hrecord, Option.map_some] at hconfig
    obtain ⟨entry', hrecord', hsame⟩ := Option.map_eq_some_iff.mp hconfig
    rw [entitled_iff hrecord', entitled_iff hrecord, hsame]

theorem roleFollows_reconfigured_iff (h : RoleFollows sys v) (hrecord : v.record = some entry) :
    RoleFollows sys { v with record := some entry' } ↔
      NoChange sys entry.config.role entry'.config.role := by
  have hbefore (tool : String) : View.Allows { v with record := some entry' } tool ↔
      sys = true ∨ Permits entry.config.role tool := (h tool).trans (entitled_iff hrecord)
  have hafter (tool : String) : View.Entitled sys { v with record := some entry' } tool ↔
      sys = true ∨ Permits entry'.config.role tool := entitled_iff rfl
  simp only [RoleFollows, hbefore, hafter, NoChange]
  cases sys with
  | true => simp
  | false => simp [iff_comm]

theorem roleFollows_deleted_iff (h : RoleFollows sys v) (hrecord : v.record = some entry) :
    RoleFollows sys { v with record := none } ↔
      sys = false ∧ ∀ tool, ¬ Permits entry.config.role tool := by
  rw [← forall_not_entitled_iff hrecord]
  refine forall_congr' fun tool ↦ ?_
  exact (iff_false_right (not_entitled_of_none rfl)).trans (not_congr (h tool))

theorem roleFollows_added_iff (h : RoleFollows sys v) (hrecord : v.record = none) :
    RoleFollows sys { v with record := some entry } ↔
      sys = false ∧ ∀ tool, ¬ Permits entry.config.role tool := by
  rw [← forall_not_entitled_iff (v := { v with record := some entry }) rfl]
  refine forall_congr' fun tool ↦ iff_false_left ?_
  exact mt (h tool).mp (not_entitled_of_none hrecord)

def KeepsRole : Op → Prop
  | .createAgent _ => False
  | .updateConfig _ _ => False
  | .deleteRemove _ => False
  | .registerAgent _ _ => False
  | .removeAgent _ => False
  | _ => True

theorem exec_keepsRole (o : Op) (i : Input) (v : View) (ho : KeepsRole o) :
    (View.exec o i v).1.role = v.role ∧
      (View.exec o i v).1.record.map (·.config) = v.record.map (·.config) := by
  obtain ⟨record, process, proxy, role, router⟩ := v
  cases o with
  | createAgent config => exact ho.elim
  | updateConfig id config => exact ho.elim
  | deleteRemove id => exact ho.elim
  | registerAgent id role => exact ho.elim
  | removeAgent id => exact ho.elim
  | transition id newState =>
    cases record with
    | none => exact ⟨rfl, rfl⟩
    | some entry =>
      simp only [View.exec]
      split <;> exact ⟨rfl, rfl⟩
  | deleteCheck id => cases record <;> exact ⟨rfl, rfl⟩
  | spawn id => cases process <;> cases hspawn : i.spawn <;> simp [View.exec, hspawn]
  | waitReady id => cases process <;> exact ⟨rfl, rfl⟩
  | stopProcess id drainSeconds => cases process <;> exact ⟨rfl, rfl⟩
  | _ => exact ⟨rfl, rfl⟩

theorem run_roleFollows {α : Type} {m : Code α} (env : Op → Input) (hm : m.Only KeepsRole) (v : View) :
    RoleFollows sys (m.run View.exec env v).1 ↔ RoleFollows sys v := by
  obtain ⟨hrole, hconfig⟩ := Script.run_keeps View.exec env
    (I := fun v' ↦ v'.role = v.role ∧ v'.record.map (·.config) = v.record.map (·.config))
    (fun o i v' ho hv' ↦
      ⟨(exec_keepsRole o i v' ho).1.trans hv'.1, (exec_keepsRole o i v' ho).2.trans hv'.2⟩)
    hm ⟨rfl, rfl⟩
  exact roleFollows_congr hrole hconfig

theorem keepsRole_autoStartAgent (id : String) : (autoStartAgent id).Only KeepsRole := by
  refine only_call trivial fun starting ↦ ?_
  cases starting with
  | error e => trivial
  | ok =>
    refine only_call trivial fun entry ↦ ?_
    cases entry with
    | none => trivial
    | some entry =>
      refine only_call trivial fun built ↦ ?_
      cases built with
      | error e => exact only_call trivial fun _ ↦ trivial
      | ok path =>
        refine only_call trivial fun spawned ↦ ?_
        cases spawned with
        | error e => exact only_call trivial fun _ ↦ trivial
        | ok port => exact only_call trivial fun _ ↦ only_call trivial fun _ ↦ trivial

theorem keepsRole_apiAgentsStart (F : Formats) (id : String) :
    (apiAgentsStart F id).Only KeepsRole := by
  refine only_call trivial fun starting ↦ ?_
  cases starting with
  | error e => trivial
  | ok => exact only_call trivial fun _ ↦ trivial

theorem keepsRole_apiAgentsStop (F : Formats) (id : String) :
    (apiAgentsStop F id).Only KeepsRole := by
  refine only_call trivial fun stopping ↦ ?_
  cases stopping with
  | error e => trivial
  | ok => exact only_call trivial fun _ ↦ trivial

theorem keepsRole_onFailure (id reason : String) : (onFailure id reason).Only KeepsRole :=
  only_call trivial fun _ ↦ only_call trivial fun _ ↦ trivial

end Local

section Tools

variable {F : Formats} {env : Op → Input} {sys : Bool} {id : String} {v v' : View}
  {entry : AgentRecord} {config : AgentConfig}

theorem Fails.roleFollows (h : Fails entry v v') (hrecord : v.record = some entry) :
    RoleFollows sys v' ↔ RoleFollows sys v := by
  obtain ⟨state, now, -, hrecord'⟩ := h.record
  refine roleFollows_congr h.role ?_
  rw [hrecord', hrecord]
  rfl

theorem halt_roleFollows : RoleFollows sys ((halt F id).run View.exec env v).1 ↔ RoleFollows sys v := by
  obtain ⟨entry, now, hrecord, -, -, heq⟩ | ⟨entry, now, e, hrecord, -, -, heq⟩ | ⟨⟨e, heq⟩, -⟩ :=
    halt_cases F env id v
  · rw [heq]
    exact roleFollows_congr rfl (congrArg (Option.map (·.config)) hrecord).symm
  · rw [heq]
    exact roleFollows_congr rfl (congrArg (Option.map (·.config)) hrecord).symm
  · rw [heq]

theorem create_roleFollows_iff (h : RoleFollows sys v) :
    RoleFollows sys ((createFrom F config).run View.exec env v).1 ↔
      (v.record = none → (env (.createAgent config)).persist = .ok () → sys = false) := by
  rw [createFrom, Script.run_bind, call, Script.run_perform]
  cases hrecord : v.record with
  | some record =>
    simp only [View.exec, hrecord]
    exact iff_of_true h fun hnew ↦ by cases hnew
  | none =>
    simp only [View.exec, hrecord]
    cases hpersist : (env (.createAgent config)).persist with
    | error e => exact iff_of_true h fun _ hok ↦ by cases hok
    | ok =>
      refine (roleFollows_of_userAgent config.id rfl rfl).trans ?_
      exact ⟨fun hsys _ _ ↦ hsys, fun hall ↦ hall trivial rfl⟩

theorem createAs_roleFollows_iff (h : RoleFollows sys v) :
    RoleFollows sys ((createAs F config).run View.exec env v).1 ↔
      (v.record = none → (env (.createAgent config)).persist = .ok () →
        sys = false ∧ ∀ tool, ¬ Permits config.role tool) := by
  rw [createAs, Script.run_bind, call, Script.run_perform]
  cases hrecord : v.record with
  | some record =>
    simp only [View.exec, hrecord]
    exact iff_of_true h fun hnew ↦ by cases hnew
  | none =>
    simp only [View.exec, hrecord]
    cases hpersist : (env (.createAgent config)).persist with
    | error e => exact iff_of_true h fun _ hok ↦ by cases hok
    | ok =>
      refine (roleFollows_added_iff h hrecord).trans ?_
      exact ⟨fun hnew _ _ ↦ hnew, fun hall ↦ hall trivial rfl⟩

theorem start_roleFollows_iff (h : RoleFollows sys v) :
    RoleFollows sys ((startAgent F id).run View.exec env v).1 ↔
      ∀ record, v.record = some record → startable record.state = true →
        Starts v env id record.config → sys = false := by
  obtain ⟨heq, hnot⟩ | ⟨entry, hrecord, -, hnot, hfails⟩ |
    ⟨entry, now, port, hrecord, hstartable, hstarts, heq⟩ := start_cases F env id v
  · rw [heq]
    refine iff_of_true h fun record hrecord hstartable ↦ ?_
    cases (hnot record hrecord).symm.trans hstartable
  · refine iff_of_true ((hfails.roleFollows hrecord).mpr h) fun record hrecord' _ hstarts ↦ ?_
    obtain rfl := Option.some_inj.mp (hrecord.symm.trans hrecord')
    exact absurd hstarts hnot
  · rw [heq]
    refine (roleFollows_of_userAgent id rfl rfl).trans ?_
    refine ⟨fun hsys record hrecord' _ _ ↦ hsys, fun hall ↦ ?_⟩
    exact hall entry hrecord hstartable hstarts

theorem restart_roleFollows (hrecord : v.record = some entry)
    (hstartable : startable entry.state = true) :
    RoleFollows sys ((restart F id config).run View.exec env v).1 ↔ RoleFollows sys v := by
  obtain ⟨-, hfails⟩ | ⟨-, now, port, heq⟩ :=
    restart_cases F env id config hrecord hstartable
  · exact hfails.roleFollows hrecord
  · rw [heq]
    exact roleFollows_congr rfl (congrArg (Option.map (·.config)) hrecord).symm

theorem reconfigure_roleFollows_iff (h : RoleFollows sys v) (hrecord : v.record = some entry)
    (hid : config.id = id) (wasRunning : Bool) (oldBindings : List ChannelBinding)
    (hstartable : wasRunning = true → startable entry.state = true) :
    RoleFollows sys ((reconfigure F id config wasRunning oldBindings).run View.exec env v).1 ↔
      if (env (.updateConfig id config)).persist = .ok () then sys = false
      else NoChange sys entry.config.role config.role := by
  obtain ⟨now, ⟨hpersist, heq⟩ | ⟨hpersist, v', hv', heq⟩⟩ :=
    reconfigure_cases F env id wasRunning oldBindings hrecord hid
  · rw [heq, if_neg hpersist]
    exact roleFollows_reconfigured_iff h hrecord
  · have hrecord' : v'.record = some { entry with config := config, updatedAt := now } := by
      rw [hv']
    have hfollows : RoleFollows sys v' ↔ sys = false := by
      rw [hv']
      exact roleFollows_of_userAgent id rfl rfl
    rw [heq, if_pos hpersist, ← hfollows]
    cases wasRunning with
    | true => exact restart_roleFollows hrecord' (hstartable rfl)
    | false => rfl

theorem configure_roleFollows_iff (h : RoleFollows sys v) (hid : config.id = id) :
    RoleFollows sys ((configureAgent F id config).run View.exec env v).1 ↔
      ∀ record, v.record = some record →
        (record.state = .running → (env (.transition id .stopping)).persist = .ok ()) →
          if (env (.updateConfig id config)).persist = .ok () then sys = false
          else NoChange sys record.config.role config.role := by
  rw [configureAgent, Script.run_bind, call, Script.run_perform, exec_get]
  cases hrecord : v.record with
  | none => exact iff_of_true h fun _ h ↦ by cases h
  | some entry =>
    simp only [Option.some.injEq, forall_eq']
    by_cases hstate : entry.state = .running
    · rw [if_pos hstate, Script.run_bind]
      have hhalt : RoleFollows sys ((halt F id).run View.exec env v).1 := halt_roleFollows.mpr h
      obtain ⟨entry', now, hrecord', -, hpersist, heq⟩ | ⟨entry', now, e, -, -, hpersist, heq⟩ |
        ⟨-, hnot⟩ := halt_cases F env id v
      · obtain rfl := Option.some_inj.mp (hrecord.symm.trans hrecord')
        rw [heq] at hhalt ⊢
        refine (reconfigure_roleFollows_iff hhalt rfl hid true _ fun _ ↦ rfl).trans ?_
        exact ⟨fun hall _ ↦ hall, fun hall ↦ hall fun _ ↦ hpersist⟩
      · rw [heq] at hhalt ⊢
        exact iff_of_true hhalt fun hall ↦ absurd (hall hstate) hpersist
      · exact absurd hstate (hnot entry hrecord)
    · rw [if_neg hstate]
      refine (reconfigure_roleFollows_iff h hrecord hid false _ (fun h ↦ by cases h)).trans ?_
      exact ⟨fun hall _ ↦ hall, fun hall ↦ hall fun hrunning ↦ absurd hrunning hstate⟩

theorem delete_roleFollows (h : RoleFollows sys v) :
    RoleFollows sys ((deleteAgent F id).run View.exec env v).1 := by
  rw [deleteAgent, Script.run_bind]
  obtain ⟨record, -, -, heq⟩ | ⟨⟨e, heq⟩, -⟩ := delete_cases env id v
  · rw [heq]
    exact fun tool ↦ iff_of_false (not_allows_of_none rfl) (not_entitled_of_none rfl)
  · rw [heq]
    exact h

theorem apiDelete_roleFollows_iff (h : RoleFollows sys v) :
    RoleFollows sys ((apiAgentsDelete F id).run View.exec env v).1 ↔
      ∀ record, v.record = some record → record.state.deletable = true →
        sys = false ∧ ∀ tool, ¬ Permits record.config.role tool := by
  rw [apiAgentsDelete, Script.run_bind]
  obtain ⟨record, hrecord, hdeletable, heq⟩ | ⟨⟨e, heq⟩, hnot⟩ := delete_cases env id v
  · rw [heq, hrecord]
    simp only [Option.some.injEq, forall_eq', hdeletable, forall_const]
    exact roleFollows_deleted_iff h hrecord
  · rw [heq]
    refine iff_of_true h fun record hrecord hdeletable ↦ ?_
    cases (hnot record hrecord).symm.trans hdeletable

theorem apiConfigure_roleFollows_iff (payload : ConfigureAgentPayload) (h : RoleFollows sys v) :
    RoleFollows sys ((apiAgentsConfigure F id payload).run View.exec env v).1 ↔
      ∀ record config, v.record = some record → payload.config record.config = some config →
        config.id = id → NoChange sys record.config.role config.role := by
  rw [apiAgentsConfigure, Script.run_bind, call, Script.run_perform, exec_get]
  cases hrecord : v.record with
  | none => exact iff_of_true h fun _ _ h ↦ by cases h
  | some record =>
    dsimp only
    cases hconfig : payload.config record.config with
    | none =>
      refine iff_of_true h fun record' config hrecord' hconfig' ↦ ?_
      obtain rfl := Option.some_inj.mp hrecord'
      cases hconfig.symm.trans hconfig'
    | some config =>
      have hall : (∀ record' config', some record = some record' →
          payload.config record'.config = some config' → config'.id = id →
            NoChange sys record'.config.role config'.role) ↔
          (config.id = id → NoChange sys record.config.role config.role) := by
        constructor
        · exact fun hall ↦ hall record config rfl hconfig
        · intro h record' config' heq hconfig'
          cases heq
          obtain rfl := Option.some_inj.mp (hconfig.symm.trans hconfig')
          exact h
      rw [hall]
      dsimp only
      rw [Script.run_bind, call, Script.run_perform]
      by_cases hid : config.id = id
      · simp only [View.exec, hrecord, if_pos hid, View.setEntry, forall_prop_of_true hid]
        cases (env (.updateConfig id config)).persist with
        | error e => exact roleFollows_reconfigured_iff h hrecord
        | ok => exact roleFollows_reconfigured_iff h hrecord
      · simp only [View.exec, hrecord, if_neg hid]
        exact iff_of_true h fun hid' ↦ absurd hid' hid

end Tools

section Start

variable {codec : Codec} {persistDir : Path} {b : Boot} {id : String}

theorem ignoresRouter_roleFollows : IgnoresRouter RoleFollows := fun _ _ _ ↦ Iff.rfl

theorem repaired_config (now : DateTime) (id : String) (record : AgentRecord) :
    (repaired now id record).config = record.config := by
  rw [repaired]
  split <;> rfl

theorem loaded_isSystemAgent : (loadRegistry codec persistDir b).2.isSystemAgent id = true ↔
    b.persistSystem = .ok () ∧ id = "system" := by
  have hsystem : (loadRegistry codec persistDir b).2.systemAgentId =
      (new.registerSystemAgent (systemConfig b.model) b.now b.persistSystem).registry.systemAgentId :=
    loadEntries_keeps (I := fun registry ↦ registry.systemAgentId = _)
      (fun _ _ h ↦ h) _ _ _ rfl
  rw [isSystemAgent_congr hsystem]
  cases b.persistSystem with
  | error e =>
    refine iff_of_false ?_ nofun
    exact Bool.false_ne_true
  | ok =>
    rw [and_iff_right rfl]
    exact beq_iff_eq.trans eq_comm

theorem loaded_systemAgent (h : b.persistSystem = .ok ()) :
    (loadRegistry codec persistDir b).2.agents.lookup "system" ≠ none := by
  refine loadEntries_keeps (I := fun registry ↦ registry.agents.lookup "system" ≠ none)
    (fun registry record hregistry ↦ ?_) _ _ _ ?_
  · rw [KeyedMap.lookup_insert_if]
    split
    · exact Option.some_ne_none record
    · exact hregistry
  · rw [h]
    exact Option.some_ne_none _

def loadedView (codec : Codec) (persistDir : Path) (b : Boot) (id : String) : View :=
  ⟨(loadRegistry codec persistDir b).2.agents.lookup id, none, none,
    (loadRbac codec persistDir b).accessControl.roles.lookup id,
    Router.MessageRouter.new b.bindings b.defaultAgent⟩

theorem everywhere_assemble_iff : Everywhere RoleFollows (assemble codec persistDir b) ↔
    ∀ id, RoleFollows ((loadRegistry codec persistDir b).2.isSystemAgent id)
      (loadedView codec persistDir b id) := by
  obtain ⟨hsystem, hlookup⟩ :=
    repair_list b.now b.persistRepaired (loadRegistry codec persistDir b).2
  refine forall_congr' fun id ↦ ?_
  have hsys : (assemble codec persistDir b).registry.isSystemAgent id =
      (loadRegistry codec persistDir b).2.isSystemAgent id := isSystemAgent_congr hsystem id
  rw [hsys]
  refine roleFollows_congr rfl ?_
  have hrecord : ((assemble codec persistDir b).view id).record =
      (loadedView codec persistDir b id).record.map (repaired b.now id) := hlookup id
  rw [hrecord, Option.map_map]
  exact congrArg (fun f ↦ Option.map f _) (funext (repaired_config b.now id))

theorem roleFollows_rebuilt {count : ℕ} (hcount : (loadRegistry codec persistDir b).1 = .ok count)
    (hpos : 0 < count) (id : String) :
    RoleFollows ((loadRegistry codec persistDir b).2.isSystemAgent id)
      (loadedView codec persistDir b id) := by
  have hrole : (loadedView codec persistDir b id).role =
      (Registration.ofRegistry (loadRegistry codec persistDir b).2 id).map (Rbac.role id) := by
    have hload : loadRegistry codec persistDir b =
        (.ok count, (loadRegistry codec persistDir b).2) := Prod.ext hcount rfl
    have hrebuilt : loadRbac codec persistDir b =
        (RbacBridge.new.registerSystemAgent "system").rebuildFromRegistry
          (loadRegistry codec persistDir b).2 := by
      rw [loadRbac, hload]
      exact if_pos hpos
    rw [loadedView, hrebuilt, RbacBridge.rebuildFromRegistry_eq]
    exact RbacBridge.lookup_registered _ (List.Perm.refl _) id
  rw [Registration.ofRegistry] at hrole
  cases hrecord : (loadRegistry codec persistDir b).2.agents.lookup id with
  | none =>
    rw [hrecord] at hrole
    exact fun tool ↦ iff_of_false (not_allows_of_none hrole) (not_entitled_of_none hrecord)
  | some record =>
    rw [hrecord] at hrole
    cases hsys : (loadRegistry codec persistDir b).2.isSystemAgent id with
    | true =>
      rw [hsys] at hrole
      exact fun tool ↦ iff_of_true (allows_systemAgent _ hrole) ⟨record, hrecord, .inl rfl⟩
    | false =>
      rw [hsys] at hrole
      exact (roleFollows_of_userAgent _ hrecord hrole).mpr rfl

theorem roleFollows_systemOnly_iff
    (h : ¬ ∃ count, (loadRegistry codec persistDir b).1 = .ok count ∧ 0 < count) :
    (∀ id, RoleFollows ((loadRegistry codec persistDir b).2.isSystemAgent id)
      (loadedView codec persistDir b id)) ↔
      b.persistSystem = .ok () ∧ ∀ id record,
        (loadRegistry codec persistDir b).2.agents.lookup id = some record → id ≠ "system" →
          ∀ tool, ¬ Permits record.config.role tool := by
  have hrole (id : String) : (loadedView codec persistDir b id).role =
      if id = "system" then some (Rbac.role "system" .systemAgent) else none := by
    have hrbac : loadRbac codec persistDir b = RbacBridge.new.registerSystemAgent "system" := by
      rw [loadRbac]
      split
      next count registry hload =>
        exact if_neg fun hpos ↦ h ⟨count, congrArg Prod.fst hload, hpos⟩
      next => rfl
    rw [loadedView, hrbac, RbacBridge.registerSystemAgent_roles, KeyedMap.lookup_insert_if]
    rfl
  have hsystem : RoleFollows ((loadRegistry codec persistDir b).2.isSystemAgent "system")
      (loadedView codec persistDir b "system") ↔ b.persistSystem = .ok () := by
    have hallows (tool : String) : (loadedView codec persistDir b "system").Allows tool :=
      allows_systemAgent _ ((hrole "system").trans (if_pos rfl))
    have hentitled := forall_entitled_iff (loadedView codec persistDir b "system")
      ((loadRegistry codec persistDir b).2.isSystemAgent "system")
    have hthere : b.persistSystem = .ok () → (loadedView codec persistDir b "system").record ≠ none :=
      loaded_systemAgent
    rw [loaded_isSystemAgent, and_iff_left rfl, and_iff_right_of_imp hthere] at hentitled
    rw [← hentitled]
    exact forall_congr' fun tool ↦ iff_true_left (hallows tool)
  have hother (id : String) (hid : id ≠ "system") :
      RoleFollows ((loadRegistry codec persistDir b).2.isSystemAgent id)
        (loadedView codec persistDir b id) ↔
      ∀ record, (loadRegistry codec persistDir b).2.agents.lookup id = some record →
        ∀ tool, ¬ Permits record.config.role tool := by
    have hnot (tool : String) : ¬ (loadedView codec persistDir b id).Allows tool :=
      not_allows_of_none ((hrole id).trans (if_neg hid))
    have hsys : (loadRegistry codec persistDir b).2.isSystemAgent id = false :=
      eq_false_of_ne_true fun hsys ↦ hid (loaded_isSystemAgent.mp hsys).2
    rw [RoleFollows, hsys]
    constructor
    · intro hall record hrecord tool hpermits
      exact hnot tool ((hall tool).mpr ⟨record, hrecord, .inr hpermits⟩)
    · refine fun hall tool ↦ iff_of_false (hnot tool) ?_
      rintro ⟨record, hrecord, hfalse | hpermits⟩
      · cases hfalse
      · exact hall record hrecord tool hpermits
  constructor
  · intro hall
    refine ⟨hsystem.mp (hall "system"), fun id record hrecord hid ↦ ?_⟩
    exact (hother id hid).mp (hall id) record hrecord
  · rintro ⟨hpersist, hall⟩ id
    by_cases hid : id = "system"
    · rw [hid]
      exact hsystem.mpr hpersist
    · exact (hother id hid).mpr fun record hrecord ↦ hall id record hrecord hid

end Start

section Steps

variable {F : Formats} {codec : Codec} {persistDir : Path} {s : Stores}

theorem checkTool_iff {debugStr : String → String} {bridge : RbacBridge} {id tool : String} {v : View}
    (h : bridge.accessControl.roles.lookup id = v.role) :
    bridge.checkTool debugStr id tool = .ok () ↔ v.Allows tool := by
  rw [RbacBridge.checkTool, AccessControl.check, h]
  cases hrole : v.role with
  | none => exact iff_of_false (fun h ↦ by cases h) (not_allows_of_none hrole)
  | some role =>
    simp only [View.Allows, hrole, Option.some.injEq, exists_eq_left', List.contains_iff_mem]
    by_cases hdeny : Permission.tool tool ∈ role.deny
    · simp [hdeny]
    · by_cases hallow : Permission.tool tool ∈ role.allow
      · simp [hdeny, hallow]
      · by_cases hall : Permission.allTools ∈ role.allow <;> simp [hdeny, hallow, hall]

theorem rbacFollows_iff_everywhere {debugStr : String → String} :
    RbacFollows debugStr s ↔ Everywhere RoleFollows s := by
  refine forall_congr' fun id ↦ forall_congr' fun tool ↦ ?_
  have hnow : s.rbac.checkTool debugStr id tool = .ok () ↔ (s.view id).Allows tool :=
    checkTool_iff rfl
  have hregistered (record : AgentRecord) :
      (RbacBridge.new.registerRecord s.registry (id, record)).checkTool debugStr id tool = .ok () ↔
        s.registry.isSystemAgent id = true ∨ Permits record.config.role tool := by
    have hrole : (RbacBridge.new.registerRecord s.registry (id, record)).accessControl.roles.lookup id =
        some (Rbac.role id (if s.registry.isSystemAgent id then .systemAgent
          else .userAgent record.config.role)) := by
      rw [RbacBridge.registerRecord_roles]
      exact AList.lookup_insert _
    rw [checkTool_iff (v := ⟨none, none, none, _, s.router⟩) hrole]
    cases s.registry.isSystemAgent id with
    | true => exact iff_of_true (allows_systemAgent id rfl) (.inl rfl)
    | false => exact (allows_userAgent id rfl).trans ⟨.inr, fun h ↦ h.resolve_left nofun⟩
  rw [hnow]
  refine iff_congr Iff.rfl (exists_congr fun record ↦ and_congr_right fun _ ↦ hregistered record)

theorem roleFollows_off : Everywhere RoleFollows off := fun _ _ ↦
  iff_of_false (not_allows_of_none rfl) (not_entitled_of_none rfl)

theorem roleFollows_apply_iff (F : Formats) (codec : Codec) (persistDir : Path)
    (h : Everywhere RoleFollows s) (event : Event) :
    Everywhere RoleFollows (apply F codec persistDir s event) ↔
      Following F codec persistDir s event := by
  have hP := ignoresRouter_roleFollows
  obtain ⟨request, env⟩ := event
  cases request with
  | boot b =>
    refine (everywhere_autoStart hP fun id sys v ↦
      run_roleFollows env (keepsRole_autoStartAgent id) v).trans ?_
    rw [everywhere_assemble_iff]
    by_cases hrebuilt : ∃ count, (loadRegistry codec persistDir b).1 = .ok count ∧ 0 < count
    · obtain ⟨count, hcount, hpos⟩ := hrebuilt
      exact iff_of_true (roleFollows_rebuilt hcount hpos) (.inl ⟨count, hcount, hpos⟩)
    · rw [roleFollows_systemOnly_iff hrebuilt]
      exact (or_iff_right hrebuilt).symm
  | agentCreate args =>
    simp only [apply, Request.code, run_discard, agentCreate, Following]
    cases (args.get "name").bind Json.asStr with
    | none => exact iff_of_true h fun _ h ↦ by cases h
    | some name =>
      simp only [Option.some.injEq, forall_eq']
      exact (h.run_iff hP about_createFrom).trans (create_roleFollows_iff (h _))
  | agentStop args =>
    refine iff_of_true ?_ trivial
    refine h.withAgentId hP (fun _ ↦ about_stopAgent) fun id hid ↦ ?_
    rw [run_stopAgent]
    exact halt_roleFollows.mpr hid
  | agentStart args =>
    exact h.withAgentId_iff hP (fun _ ↦ about_startAgent) fun id hid ↦ start_roleFollows_iff hid
  | agentDelete args =>
    refine iff_of_true ?_ trivial
    exact h.withAgentId hP (fun _ ↦ about_deleteAgent) fun id hid ↦ delete_roleFollows hid
  | agentConfigure args =>
    refine h.withAgentId_iff hP (fun _ ↦ about_configureFrom args) fun id hid ↦ ?_
    refine (configureFrom_iff (R := fun tool ↦ RoleFollows (s.registry.isSystemAgent id)
      (tool.run View.exec env (s.view id)).1) (fun _ ↦ hid) args).trans ?_
    refine forall₅_congr fun value config _ _ hmatch ↦ ?_
    rw [configure_roleFollows_iff hid hmatch]
    exact forall_congr' fun record ↦ and_imp.symm
  | apiAgentsCreate payload =>
    simp only [apply, Request.code, run_discard, ControlPanel.apiAgentsCreate, Following, Accepted]
    by_cases hname : (Text.trim payload.name).isEmpty = true
    · rw [if_pos hname]
      exact iff_of_true h fun haccepted ↦ absurd (haccepted.1.symm.trans hname) Bool.false_ne_true
    · rw [if_neg hname]
      by_cases hmodel : (Text.trim payload.model).isEmpty = true
      · rw [if_pos hmodel]
        exact iff_of_true h fun haccepted ↦ absurd (haccepted.2.1.symm.trans hmodel) Bool.false_ne_true
      · rw [if_neg hmodel]
        by_cases hlong : (Text.trim payload.name).utf8ByteSize > 128
        · rw [if_pos hlong]
          exact iff_of_true h fun haccepted ↦ absurd haccepted.2.2 (Nat.not_le.mpr hlong)
        · rw [if_neg hlong]
          refine (h.run_iff hP about_createAs).trans ((createAs_roleFollows_iff (h _)).trans ?_)
          exact ⟨fun hall _ ↦ hall, fun hall ↦ hall ⟨eq_false_of_ne_true hname,
            eq_false_of_ne_true hmodel, Nat.le_of_not_lt hlong⟩⟩
  | apiAgentsStart id =>
    simp only [apply, Request.code, run_discard]
    refine iff_of_true ((h.run_iff hP about_apiAgentsStart).mpr ?_) trivial
    exact (run_roleFollows env (keepsRole_apiAgentsStart F id) _).mpr (h id)
  | apiAgentsStop id =>
    simp only [apply, Request.code, run_discard]
    refine iff_of_true ((h.run_iff hP about_apiAgentsStop).mpr ?_) trivial
    exact (run_roleFollows env (keepsRole_apiAgentsStop F id) _).mpr (h id)
  | apiAgentsDelete id =>
    simp only [apply, Request.code, run_discard]
    exact (h.run_iff hP about_apiAgentsDelete).trans (apiDelete_roleFollows_iff (h id))
  | apiAgentsConfigure id payload =>
    simp only [apply, Request.code, run_discard]
    exact (h.run_iff hP (about_apiAgentsConfigure payload)).trans
      (apiConfigure_roleFollows_iff payload (h id))
  | healthFails id live reason =>
    refine iff_of_true (h.healthFails hP codec persistDir live reason fun process ↦ ?_) trivial
    exact (run_roleFollows env (keepsRole_onFailure id reason) _).mpr (h id)

end Steps

/-- From a start on, the roles follow the registry just if all requests are following ones. -/
theorem rbacFollows_iff (F : Formats) (codec : Codec) (persistDir : Path) (start : Boot)
    (env : Op → Input) (events : List Event) :
    (∀ s ∈ outputs (step F codec persistDir) off (⟨.boot start, env⟩ :: events),
      RbacFollows F.debugStr s) ↔
      Along (step F codec persistDir) (Following F codec persistDir) off
        (⟨.boot start, env⟩ :: events) := by
  refine forall_outputs_iff (step F codec persistDir)
    (fun s event (hs : Everywhere RoleFollows s) ↦ ?_) roleFollows_off _
  have hevent := roleFollows_apply_iff F codec persistDir hs event
  exact ⟨rbacFollows_iff_everywhere.trans hevent, hevent.mpr⟩

section Vectors

def deleteFromPanel : List Event :=
  [⟨.boot firstBoot, allGoesWell⟩,
    ⟨.agentCreate (.object [("name", .string "a"), ("tools", .array [.string "web_search"])]),
      allGoesWell⟩,
    ⟨.agentStart (.object [("agent_id", .string "a")]), allGoesWell⟩,
    ⟨.agentStop (.object [("agent_id", .string "a")]), allGoesWell⟩,
    ⟨.apiAgentsDelete "a", allGoesWell⟩]

theorem not_rbacFollows : ¬ ∀ (F : Formats) (codec : Codec) (persistDir : Path)
    (start : Boot) (env : Op → Input) (events : List Event),
    ∀ s ∈ outputs (step F codec persistDir) off (⟨.boot start, env⟩ :: events),
      RbacFollows F.debugStr s := by
  intro h
  have hdeleted := h plainFormats noFiles [] firstBoot allGoesWell deleteFromPanel.tail _
    (.tail _ (.tail _ (.tail _ (.tail _ (.head _))))) "a" "web_search"
  obtain ⟨record, hrecord, -⟩ := hdeleted.mp (by decide)
  cases hrecord

end Vectors

end AdkGateway.AgentTools
