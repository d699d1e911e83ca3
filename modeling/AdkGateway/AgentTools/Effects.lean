import AdkGateway.AgentTools.View

namespace AdkGateway.AgentTools

open Foundation Rbac Router AgentRegistry

namespace View

def withState (v : View) (entry : AgentRecord) (state : LifecycleState) (now : DateTime) : View :=
  { v with record := some { entry with state := state, updatedAt := now } }

end View

def startable (state : LifecycleState) : Bool := isValidTransition state .starting

structure Launches (v : View) (env : Op → Input) (id : String) (config : AgentConfig) : Prop where
  built : ∃ path, (env (.build config)).build = .ok path
  free : v.process = none
  spawned : ∃ port, (env (.spawn id)).spawn = .ok port
  ready : (env (.waitReady id)).ready = .ok ()

structure Starts (v : View) (env : Op → Input) (id : String) (config : AgentConfig) : Prop where
  persisted : (env (.transition id .starting)).persist = .ok ()
  launches : Launches v env id config

structure Fails (entry : AgentRecord) (v v' : View) : Prop where
  record : ∃ state now, state ≠ .running ∧
    v'.record = some { entry with state := state, updatedAt := now }
  role : v'.role = v.role
  router : v'.router = v.router
  process : v'.process = v.process ∧ v'.proxy = v.proxy ∨ v'.process = none ∧ v'.proxy = none

section Effects

variable {F : Formats} {env : Op → Input} {id : String} {v : View} {entry : AgentRecord}

theorem not_running_of_startable (h : startable entry.state = true) : entry.state ≠ .running := by
  intro hstate
  rw [hstate] at h
  cases h

theorem exec_transition (i : Input) {newState : LifecycleState} (h : v.record = some entry)
    (hvalid : isValidTransition entry.state newState = true) :
    View.exec (.transition id newState) i v =
      (v.withState entry newState i.now, answer i.persist ()) := by
  simp only [View.exec, h, hvalid, if_true, View.setEntry, View.withState]

theorem exec_transition_refused (id : String) (newState : LifecycleState) (i : Input)
    (h : ∀ entry, v.record = some entry → isValidTransition entry.state newState = false) :
    ∃ e, View.exec (.transition id newState) i v = (v, .error e) := by
  cases hrecord : v.record with
  | none => exact ⟨_, by simp only [View.exec, hrecord]; rfl⟩
  | some entry =>
    refine ⟨.invalidTransition id entry.state newState, ?_⟩
    simp only [View.exec, hrecord, h entry hrecord, Bool.false_eq_true, if_false]

theorem run_changeRouter (change : MessageRouter → MessageRouter) :
    (changeRouter change).run View.exec env v = ({ v with router := change v.router }, ()) := rfl

theorem exec_get (i : Input) (id : String) : View.exec (.get id) i v = (v, v.record) := rfl

theorem exec_build (i : Input) (config : AgentConfig) :
    View.exec (.build config) i v = (v, i.build) := rfl

theorem exec_spawn (i : Input) {record : Option AgentRecord} {proxy : Option UInt16}
    {role : Option Role} {router : MessageRouter} :
    View.exec (.spawn id) i ⟨record, none, proxy, role, router⟩ =
      match i.spawn with
      | .error e => (⟨record, none, proxy, role, router⟩, .error e)
      | .ok port => (⟨record, some ⟨port, true⟩, proxy, role, router⟩, .ok port) := by
  cases h : i.spawn <;> simp [View.exec, h]

theorem exec_waitReady (i : Input) {record : Option AgentRecord} {process : AgentProcess}
    {proxy : Option UInt16} {role : Option Role} {router : MessageRouter} :
    View.exec (.waitReady id) i ⟨record, some process, proxy, role, router⟩ =
      (⟨record, some process, proxy, role, router⟩, i.ready) := rfl

theorem exec_stopProcess (i : Input) (drainSeconds : ℕ) :
    (View.exec (.stopProcess id drainSeconds) i v).1 = { v with process := none } := by
  obtain ⟨record, process, proxy, role, router⟩ := v
  cases process <;> rfl

/-- A running agent is stopped, unless its state cannot be written; others are left alone. -/
theorem halt_cases (F : Formats) (env : Op → Input) (id : String) (v : View) :
    (∃ entry now, v.record = some entry ∧ entry.state = .running ∧
      (env (.transition id .stopping)).persist = .ok () ∧ (halt F id).run View.exec env v =
        ({ v.withState entry .stopped now with
            process := none, proxy := none, router := v.router.removeAgentBindings id }, .ok ())) ∨
    (∃ entry now e, v.record = some entry ∧ entry.state = .running ∧
      (env (.transition id .stopping)).persist ≠ .ok () ∧
      (halt F id).run View.exec env v = (v.withState entry .stopping now, .error e)) ∨
    (∃ e, (halt F id).run View.exec env v = (v, .error e)) ∧
      ∀ entry, v.record = some entry → entry.state ≠ .running := by
  by_cases hrunning : ∃ entry, v.record = some entry ∧ entry.state = .running
  · obtain ⟨entry, hrecord, hstate⟩ := hrunning
    have hvalid : isValidTransition entry.state .stopping = true := by rw [hstate]; rfl
    rw [halt, Script.run_bind, call, Script.run_perform, exec_transition _ hrecord hvalid]
    cases hpersist : (env (.transition id .stopping)).persist with
    | error e => exact .inr (.inl ⟨entry, _, _, hrecord, hstate, nofun, rfl⟩)
    | ok =>
      refine .inl ⟨entry, (env (.transition id .stopped)).now, hrecord, hstate, rfl, ?_⟩
      simp only [answer, Script.run_bind, call, Script.run_perform, exec_stopProcess,
        run_changeRouter]
      rfl
  · rw [not_exists] at hrunning
    have hnot (entry : AgentRecord) (hrecord : v.record = some entry) : entry.state ≠ .running :=
      fun hstate ↦ hrunning entry ⟨hrecord, hstate⟩
    obtain ⟨e, he⟩ := exec_transition_refused id .stopping
      (env (.transition id .stopping)) fun entry hrecord ↦ by
        have hstate := hnot entry hrecord
        cases hs : entry.state <;> first | rfl | exact absurd hs hstate
    refine .inr (.inr ⟨⟨failedToTransition id "Stopping" (e.message F.debugStr), ?_⟩, hnot⟩)
    rw [halt, Script.run_bind, call, Script.run_perform, he]
    rfl

theorem run_giveUp {v' : View} (message : String) (failure : Failure)
    (hrecord : v'.record = some entry) (hstate : entry.state = .starting) (hrole : v'.role = v.role)
    (hrouter : v'.router = v.router)
    (hprocess : v'.process = v.process ∧ v'.proxy = v.proxy ∨ v'.process = none ∧ v'.proxy = none) :
    ∃ v'' failure', (do
      let _ ← call (.transition id (.error message))
      pure (.error failure) : Code (Except Failure UInt16)).run View.exec env v' =
        (v'', .error failure') ∧ Fails entry v v'' := by
  have hvalid : isValidTransition entry.state (.error message) = true := by rw [hstate]; rfl
  refine ⟨v'.withState entry (.error message) (env (.transition id (.error message))).now, failure, ?_,
    ⟨.error message, _, fun h ↦ ?_, rfl⟩, hrole, hrouter, hprocess⟩
  · rw [Script.run_bind, call, Script.run_perform, exec_transition _ hrecord hvalid]
    rfl
  · cases h

theorem launch_cases (env : Op → Input) (id : String) (config : AgentConfig) (during : String)
    (hrecord : v.record = some entry)
    (hstate : entry.state = .starting) :
    (Launches v env id config ∧ ∃ port, (launch id config during).run View.exec env v =
      ({ v with process := some ⟨port, true⟩, proxy := some port }, .ok port)) ∨
    ¬ Launches v env id config ∧ ∃ v' failure, (launch id config during).run View.exec env v =
      (v', .error failure) ∧ Fails entry v v' := by
  rw [launch, Script.run_bind, call, Script.run_perform, exec_build]
  cases hbuild : (env (.build config)).build with
  | error e =>
    refine .inr ⟨fun h ↦ ?_, run_giveUp _ _ hrecord hstate rfl rfl (.inl ⟨rfl, rfl⟩)⟩
    obtain ⟨path, hpath⟩ := h.built
    cases hbuild.symm.trans hpath
  | ok path =>
    dsimp only
    rw [Script.run_bind, call, Script.run_perform]
    obtain ⟨record, process, proxy, role, router⟩ := v
    cases process with
    | some process =>
      refine .inr ⟨fun h ↦ ?_, run_giveUp _ _ hrecord hstate rfl rfl (.inl ⟨rfl, rfl⟩)⟩
      cases h.free
    | none =>
      rw [exec_spawn]
      cases hspawn : (env (.spawn id)).spawn with
      | error e =>
        refine .inr ⟨fun h ↦ ?_, run_giveUp _ _ hrecord hstate rfl rfl (.inl ⟨rfl, rfl⟩)⟩
        obtain ⟨port, hport⟩ := h.spawned
        cases hspawn.symm.trans hport
      | ok port =>
        dsimp only
        rw [Script.run_bind, call, Script.run_perform, exec_waitReady]
        cases hready : (env (.waitReady id)).ready with
        | error e =>
          refine .inr ⟨fun h ↦ ?_, run_giveUp _ _ hrecord hstate rfl rfl (.inr ⟨rfl, rfl⟩)⟩
          cases hready.symm.trans h.ready
        | ok => exact .inl ⟨⟨⟨path, hbuild⟩, rfl, ⟨port, hspawn⟩, hready⟩, port, rfl⟩

theorem Launches.congr {v' : View} {config : AgentConfig} (h : Launches v env id config)
    (hprocess : v'.process = v.process) : Launches v' env id config :=
  ⟨h.built, hprocess.trans h.free, h.spawned, h.ready⟩

theorem Fails.of_withState {now : DateTime} {state : LifecycleState} {v' : View}
    (h : Fails { entry with state := state, updatedAt := now } (v.withState entry state now) v') :
    Fails entry v v' := ⟨h.record, h.role, h.router, h.process⟩

/-- The code that a start and a restart have in common: either it comes to nothing, or it goes on
with a process and a proxy. -/
theorem launched_cases {α : Type} (env : Op → Input) (id : String) (config : AgentConfig)
    (during : String)
    (refused : RegistryError → α) (failed : Failure → α) (rest : UInt16 → Code α)
    (hrecord : v.record = some entry) (hstartable : startable entry.state = true) :
    let code : Code α := do
      match ← call (.transition id .starting) with
      | .error e => pure (refused e)
      | .ok () =>
        match ← launch id config during with
        | .error failure => pure (failed failure)
        | .ok port => rest port
    (¬ Starts v env id config ∧ Fails entry v (code.run View.exec env v).1) ∨
    Starts v env id config ∧ ∃ now port, code.run View.exec env v = (rest port).run View.exec env
      { v.withState entry .starting now with process := some ⟨port, true⟩, proxy := some port } := by
  dsimp only
  rw [Script.run_bind, call, Script.run_perform, exec_transition _ hrecord hstartable]
  cases hpersist : (env (.transition id .starting)).persist with
  | error e =>
    refine .inl ⟨fun h ↦ ?_, ⟨.starting, _, nofun, rfl⟩, rfl, rfl, .inl ⟨rfl, rfl⟩⟩
    cases hpersist.symm.trans h.persisted
  | ok =>
    simp only [answer]
    rw [Script.run_bind]
    obtain ⟨hlaunches, port, heq⟩ | ⟨hnot, v', failure, heq, hfails⟩ :=
      launch_cases env id config during
        (v := v.withState entry .starting (env (.transition id .starting)).now) rfl rfl
    · rw [heq]
      exact .inr ⟨⟨hpersist, hlaunches.congr rfl⟩, _, port, rfl⟩
    · rw [heq]
      exact .inl ⟨fun h ↦ hnot (h.launches.congr rfl), hfails.of_withState⟩

theorem start_cases (F : Formats) (env : Op → Input) (id : String) (v : View) :
    (((startAgent F id).run View.exec env v).1 = v ∧
      ∀ entry, v.record = some entry → startable entry.state = false) ∨
    (∃ entry, v.record = some entry ∧ startable entry.state = true ∧
      ¬ Starts v env id entry.config ∧ Fails entry v ((startAgent F id).run View.exec env v).1) ∨
    ∃ entry now port, v.record = some entry ∧ startable entry.state = true ∧
      Starts v env id entry.config ∧ ((startAgent F id).run View.exec env v).1 =
        { v.withState entry .running now with
          process := some ⟨port, true⟩
          proxy := some port
          role := some (Rbac.role id (.userAgent entry.config.role))
          router := if entry.config.channelBindings ≠ [] then
            v.router.addAgentBindings id entry.config.channelBindings else v.router } := by
  rw [startAgent, Script.run_bind, call, Script.run_perform, exec_get]
  cases hrecord : v.record with
  | none => exact .inl ⟨rfl, nofun⟩
  | some entry =>
    dsimp only
    cases hstartable : startable entry.state with
    | false =>
      obtain ⟨e, he⟩ := exec_transition_refused id .starting
        (env (.transition id .starting)) fun entry' hrecord' ↦ by
          rw [← Option.some_inj.mp (hrecord.symm.trans hrecord')]
          exact hstartable
      rw [Script.run_bind, call, Script.run_perform, he]
      refine .inl ⟨rfl, fun entry' hrecord' ↦ ?_⟩
      rw [← Option.some_inj.mp hrecord']
      exact hstartable
    | true =>
      obtain ⟨hnot, hfails⟩ | ⟨hstarts, now, port, heq⟩ :=
        launched_cases env id entry.config "" _ _ _ hrecord hstartable
      · exact .inr (.inl ⟨entry, rfl, hstartable, hnot, hfails⟩)
      · refine .inr (.inr ⟨entry, (env (.transition id .running)).now, port, rfl, hstartable,
          hstarts, (congrArg Prod.fst heq).trans ?_⟩)
        by_cases hbindings : entry.config.channelBindings = []
        · simp only [Script.run_bind, call, Script.run_perform, if_neg (not_not.mpr hbindings)]
          rfl
        · simp only [Script.run_bind, call, Script.run_perform, if_pos hbindings, run_changeRouter]
          rfl

theorem restart_cases (F : Formats) (env : Op → Input) (id : String) (config : AgentConfig)
    (hrecord : v.record = some entry) (hstartable : startable entry.state = true) :
    (¬ Starts v env id config ∧ Fails entry v ((restart F id config).run View.exec env v).1) ∨
    Starts v env id config ∧ ∃ now port, ((restart F id config).run View.exec env v).1 =
      { v.withState entry .running now with
        process := some ⟨port, true⟩
        proxy := some port
        router := if config.channelBindings ≠ [] then
          v.router.updateAgentBindings id config.channelBindings else v.router } := by
  rw [restart]
  obtain ⟨hnot, hfails⟩ | ⟨hstarts, now, port, heq⟩ :=
    launched_cases env id config " during configure" _ _ _ hrecord
      hstartable
  · exact .inl ⟨hnot, hfails⟩
  · refine .inr ⟨hstarts, (env (.transition id .running)).now, port,
      (congrArg Prod.fst heq).trans ?_⟩
    by_cases hbindings : config.channelBindings = []
    · simp only [Script.run_bind, call, Script.run_perform, if_neg (not_not.mpr hbindings)]
      rfl
    · simp only [Script.run_bind, call, Script.run_perform, if_pos hbindings, run_changeRouter]
      rfl

/-- The definition is changed before it is written; the rest is left out if that fails. -/
theorem reconfigure_cases (F : Formats) (env : Op → Input) (id : String) {config : AgentConfig}
    (wasRunning : Bool) (oldBindings : List ChannelBinding) (hrecord : v.record = some entry)
    (hid : config.id = id) :
    ∃ now,
      ((env (.updateConfig id config)).persist ≠ .ok () ∧
        ((reconfigure F id config wasRunning oldBindings).run View.exec env v).1 =
          { v with record := some { entry with config := config, updatedAt := now } }) ∨
      (env (.updateConfig id config)).persist = .ok () ∧ ∃ v',
        v' = { v with
          record := some { entry with config := config, updatedAt := now }
          role := some (Rbac.role id (.userAgent config.role))
          router := if config.channelBindings ≠ oldBindings then
            v.router.updateAgentBindings id config.channelBindings else v.router } ∧
        ((reconfigure F id config wasRunning oldBindings).run View.exec env v).1 =
          if wasRunning then ((restart F id config).run View.exec env v').1 else v' := by
  have hupdate (i : Input) : View.exec (.updateConfig id config) i v =
      ({ v with record := some { entry with config := config, updatedAt := i.now } },
        answer i.persist ()) := by
    simp only [View.exec, hrecord, hid, if_true, View.setEntry]
  refine ⟨(env (.updateConfig id config)).now, ?_⟩
  rw [reconfigure, Script.run_bind, call, Script.run_perform, hupdate]
  cases hpersist : (env (.updateConfig id config)).persist with
  | error e => exact .inl ⟨(fun h ↦ by cases h), rfl⟩
  | ok =>
    refine .inr ⟨rfl, _, rfl, ?_⟩
    by_cases hbindings : config.channelBindings = oldBindings
    · simp only [answer, Script.run_bind, call, Script.run_perform, if_neg (not_not.mpr hbindings)]
      cases wasRunning <;> rfl
    · simp only [answer, Script.run_bind, call, Script.run_perform, if_pos hbindings,
        run_changeRouter]
      cases wasRunning <;> rfl

theorem run_stopAgent (F : Formats) (env : Op → Input) (id : String) (v : View) :
    ((stopAgent F id).run View.exec env v).1 = ((halt F id).run View.exec env v).1 := by
  rw [stopAgent, Script.run_bind, call, Script.run_perform, exec_get]
  cases hrecord : v.record with
  | none =>
    obtain ⟨entry, -, hsome, -⟩ | ⟨entry, -, -, hsome, -⟩ | ⟨⟨e, heq⟩, -⟩ := halt_cases F env id v
    · cases hrecord.symm.trans hsome
    · cases hrecord.symm.trans hsome
    · rw [heq]
      rfl
  | some entry =>
    dsimp only
    rw [Script.run_bind]
    cases ((halt F id).run View.exec env v).2 <;> rfl

theorem delete_cases (env : Op → Input) (id : String) (v : View) :
    (∃ record, v.record = some record ∧ record.state.deletable = true ∧
      (AgentTools.delete id).run View.exec env v = ({ v with record := none }, .ok record)) ∨
    (∃ e, (AgentTools.delete id).run View.exec env v = (v, .error e)) ∧
      ∀ record, v.record = some record → record.state.deletable = false := by
  rw [AgentTools.delete, Script.run_bind, call, Script.run_perform]
  cases hrecord : v.record with
  | none =>
    refine .inr ⟨⟨.notFound id, ?_⟩, nofun⟩
    simp only [View.exec, hrecord, Script.run_pure]
  | some record =>
    cases hdeletable : record.state.deletable with
    | true =>
      refine .inl ⟨record, rfl, hdeletable, ?_⟩
      simp only [View.exec, hrecord, hdeletable, if_true, call, Script.run_perform]
    | false =>
      refine .inr ⟨⟨.notDeletable id record.state, ?_⟩, fun record' h ↦ ?_⟩
      · simp only [View.exec, hrecord, hdeletable, Bool.false_eq_true, if_false, Script.run_pure]
      · rw [← Option.some_inj.mp h]
        exact hdeletable

end Effects

end AdkGateway.AgentTools
