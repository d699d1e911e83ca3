import AdkGateway.AgentRegistry.Operations
import AdkGateway.Foundation.Interleaving

namespace AdkGateway.AgentRegistry

open Foundation Interleaving

/-- The transitions that the documentation of the life cycle lists. -/
inductive Documented : LifecycleState → LifecycleState → Prop
  | createdStarting : Documented .created .starting
  | startingRunning : Documented .starting .running
  | startingError (message : String) : Documented .starting (.error message)
  | runningStopping : Documented .running .stopping
  | runningError (message : String) : Documented .running (.error message)
  | stoppingStopped : Documented .stopping .stopped
  | stoppedStarting : Documented .stopped .starting
  | errorStarting (message : String) : Documented (.error message) .starting

theorem isValidTransition_iff {old new : LifecycleState} :
    isValidTransition old new = true ↔ Documented old new := by
  constructor
  · intro h
    cases old <;> cases new <;> first | constructor | cases h
  · intro h
    cases h <;> rfl

theorem eq_starting_of_deletable {old new : LifecycleState} (hold : old.deletable = true)
    (hvalid : isValidTransition old new = true) : new = .starting := by
  cases isValidTransition_iff.mp hvalid <;> first | rfl | cases hold

inductive Call
  | createAgent (config : AgentConfig)
  | transition (id : String) (newState : LifecycleState)
  | updateConfig (id : String) (config : AgentConfig)
  | delete (id : String)

/-- Where a call is: `delete` accesses the registry twice, the others hold the entry throughout. -/
inductive Point
  | create (config : AgentConfig)
  | transition (id : String) (newState : LifecycleState)
  | update (id : String) (config : AgentConfig)
  | check (id : String)
  | remove (id : String)

/-- The clock, and what `persist` answers if it is called. -/
structure Input where
  now : DateTime
  persist : Except String Unit

inductive Answer
  | created (result : Except RegistryError String)
  | done (result : Except RegistryError Unit)
  | deleted (result : Except RegistryError AgentRecord)

def start : Call → Point
  | .createAgent config => .create config
  | .transition id newState => .transition id newState
  | .updateConfig id config => .update id config
  | .delete id => .check id

def step (i : Input) (registry : AgentRegistry) : Point → AgentRegistry × (Point ⊕ Answer)
  | .create config =>
    let called := registry.createAgent config i.now i.persist
    (called.registry, .inr (.created called.result))
  | .transition id newState =>
    let called := registry.transition id newState i.now i.persist
    (called.registry, .inr (.done called.result))
  | .update id config =>
    let called := registry.updateConfig id config i.now i.persist
    (called.registry, .inr (.done called.result))
  | .check id =>
    match registry.deleteCheck id with
    | .ok () => (registry, .inl (.remove id))
    | .error e => (registry, .inr (.deleted (.error e)))
  | .remove id =>
    let (result, registry) := registry.deleteRemove id
    (registry, .inr (.deleted result))

def program : Program AgentRegistry Call Point Answer Input Empty where
  start := start
  step i p registry := some ((step i registry p).1, (step i registry p).2, [])

/-- Between the two accesses of a `delete` nobody starts the agent, or files one of that id. -/
def Undisturbed (c : Config AgentRegistry Point Empty) : Label Call Point Input → Prop
  | .act (.transition id .starting) _ =>
    c.shared.agents.lookup id = none ∨ .remove id ∉ c.inFlight
  | .act (.create config) i => (∃ record, c.shared.agents.lookup config.id = some record) ∨
    i.persist ≠ .ok () ∨ .remove config.id ∉ c.inFlight
  | _ => True

/-- States change along the life cycle only, and what is removed is in one of the two states. -/
structure LifecycleKept (registry registry' : AgentRegistry) : Prop where
  state : ∀ id record record', registry.agents.lookup id = some record →
    registry'.agents.lookup id = some record' →
    record'.state = record.state ∨ Documented record.state record'.state
  removed : ∀ id record, registry.agents.lookup id = some record →
    registry'.agents.lookup id = none → record.state = .stopped ∨
      ∃ message, record.state = .error message

theorem deletable_iff {s : LifecycleState} :
    s.deletable = true ↔ s = .stopped ∨ ∃ message, s = .error message := by
  cases s <;> simp [LifecycleState.deletable]

section Steps

variable {registry : AgentRegistry} {id : String}

theorem lifecycleKept_refl (registry : AgentRegistry) : LifecycleKept registry registry := by
  refine ⟨fun id record record' h h' ↦ .inl ?_, fun id record h h' ↦ ?_⟩
  · rw [Option.some_inj.mp (h.symm.trans h')]
  · cases h.symm.trans h'

theorem lifecycleKept_insert {record : AgentRecord}
    (h : ∀ old, registry.agents.lookup id = some old →
      record.state = old.state ∨ Documented old.state record.state) :
    LifecycleKept registry { registry with agents := registry.agents.insert id record } := by
  refine ⟨fun id' old new hold hnew ↦ ?_, fun id' old hold hnone ↦ ?_⟩
  · obtain ⟨rfl, rfl⟩ | ⟨-, hnew⟩ := KeyedMap.lookup_insert_eq_some.mp hnew
    · exact h old hold
    · exact (lifecycleKept_refl registry).state id' old new hold hnew
  · rw [KeyedMap.lookup_insert_if] at hnone
    split at hnone
    · cases hnone
    · cases hold.symm.trans hnone

theorem lifecycleKept_erase
    (h : ∀ record, registry.agents.lookup id = some record → record.state.deletable = true) :
    LifecycleKept registry { registry with agents := registry.agents.erase id } := by
  refine ⟨fun id' old new hold hnew ↦ ?_, fun id' old hold hnone ↦ ?_⟩
  · have hnew := (KeyedMap.lookup_erase_eq_some.mp hnew).2
    exact (lifecycleKept_refl registry).state id' old new hold hnew
  · rw [KeyedMap.lookup_erase_if] at hnone
    split at hnone
    next heq =>
      subst heq
      exact deletable_iff.mp (h old hold)
    next => cases hold.symm.trans hnone

end Steps

/-- What a `delete` has checked still holds when it comes to remove the record. -/
def Checked (registry : AgentRegistry) (points : List Point) : Prop :=
  ∀ id, .remove id ∈ points → ∀ record, registry.agents.lookup id = some record →
    record.state.deletable = true

section Runs

variable {registry : AgentRegistry} {points l r : List Point} {h : List Empty} {p : Point}

theorem Checked.subset {points' : List Point} (hc : Checked registry points)
    (hsub : ∀ id, .remove id ∈ points' → .remove id ∈ points) : Checked registry points' :=
  fun id hid ↦ hc id (hsub id hid)

theorem Checked.insert {id : String} {record : AgentRecord} (hc : Checked registry points)
    (hrecord : .remove id ∈ points → record.state.deletable = true) :
    Checked { registry with agents := registry.agents.insert id record } points := by
  intro id' hid' new hnew
  obtain ⟨rfl, rfl⟩ | ⟨-, hold⟩ := KeyedMap.lookup_insert_eq_some.mp hnew
  · exact hrecord hid'
  · exact hc id' hid' new hold

/-- A step that nobody's `delete` is disturbed by keeps to the life cycle. -/
theorem checked_step (i : Input) (hc : Checked registry (l ++ p :: r))
    (hok : Undisturbed ⟨registry, l ++ p :: r, h⟩ (.act p i)) :
    LifecycleKept registry (step i registry p).1 ∧
      Checked (step i registry p).1 (l ++ (remaining (step i registry p).2 ++ r)) := by
  have hrest {registry' : AgentRegistry} {o : Point ⊕ Answer} (hc : Checked registry' (l ++ p :: r))
      (ho : ∀ id, o ≠ .inl (.remove id)) : Checked registry' (l ++ (remaining o ++ r)) := by
    refine hc.subset fun id hid ↦ ?_
    obtain hid | hid := mem_act.mp hid
    · exact mem_middle.mpr (.inl hid)
    · exact absurd hid (ho id)
  cases p with
  | create config =>
    rw [step]
    obtain ⟨hnone, hpersist, heq⟩ | ⟨heq, -⟩ := createAgent_cases registry config i.now i.persist
    · rw [heq]
      refine ⟨lifecycleKept_insert fun old hold ↦ ?_, hrest (hc.insert fun hin ↦ ?_) (fun _ h ↦ by cases h)⟩
      · cases hold.symm.trans hnone
      · obtain ⟨record, hsome⟩ | hfailed | hout := hok
        · cases hsome.symm.trans hnone
        · exact absurd hpersist hfailed
        · exact absurd hin hout
    · simp only [heq]
      exact ⟨lifecycleKept_refl registry, hrest hc (fun _ h ↦ by cases h)⟩
  | transition id newState =>
    rw [step]
    obtain ⟨entry, hentry, hvalid, heq⟩ | ⟨heq, -⟩ :=
      transition_cases registry id newState i.now i.persist
    · rw [heq]
      refine ⟨lifecycleKept_insert fun old hold ↦ .inr ?_, hrest (hc.insert fun hin ↦ ?_) (fun _ h ↦ by cases h)⟩
      · obtain rfl := Option.some_inj.mp (hentry.symm.trans hold)
        exact isValidTransition_iff.mp hvalid
      · -- only a start could leave the states in which the agent may be deleted
        obtain rfl := eq_starting_of_deletable (hc id hin entry hentry) hvalid
        obtain hnone | hout := hok
        · cases hentry.symm.trans hnone
        · exact absurd hin hout
    · simp only [heq]
      exact ⟨lifecycleKept_refl registry, hrest hc (fun _ h ↦ by cases h)⟩
  | update id config =>
    rw [step]
    obtain ⟨entry, hentry, -, heq⟩ | ⟨heq, -⟩ := updateConfig_cases registry id config i.now i.persist
    · rw [heq]
      refine ⟨lifecycleKept_insert fun old hold ↦ .inl ?_, hrest (hc.insert fun hin ↦ ?_) (fun _ h ↦ by cases h)⟩
      · rw [Option.some_inj.mp (hentry.symm.trans hold)]
      · exact hc id hin entry hentry
    · simp only [heq]
      exact ⟨lifecycleKept_refl registry, hrest hc (fun _ h ↦ by cases h)⟩
  | check id =>
    rw [step]
    cases hcheck : registry.deleteCheck id with
    | error e => exact ⟨lifecycleKept_refl registry, hrest hc (fun _ h ↦ by cases h)⟩
    | ok =>
      refine ⟨lifecycleKept_refl registry, fun id' hid' ↦ ?_⟩
      obtain hid' | hid' := mem_act.mp hid'
      · exact hc id' (mem_middle.mpr (.inl hid'))
      · cases hid'
        obtain ⟨entry, hentry, hdeletable⟩ := deleteCheck_eq_ok_iff.mp hcheck
        intro record hrecord
        rwa [Option.some_inj.mp (hrecord.symm.trans hentry)]
  | remove id =>
    have hdeletable := hc id (mem_middle.mpr (.inr rfl))
    rw [step, deleteRemove]
    cases hlookup : registry.agents.lookup id with
    | none => exact ⟨lifecycleKept_refl registry, hrest hc (fun _ h ↦ by cases h)⟩
    | some record =>
      refine ⟨lifecycleKept_erase hdeletable, hrest (fun id' hid' new hnew ↦ ?_) (fun _ h ↦ by cases h)⟩
      exact hc id' hid' new (KeyedMap.lookup_erase_eq_some.mp hnew).2

theorem checked_of_run {c : Config AgentRegistry Point Empty}
    (hrun : Run program Undisturbed (initial registry) c) : Checked c.shared c.inFlight := by
  refine hrun.invariant (Q := fun _ ↦ True) (I := fun c ↦ Checked c.shared c.inFlight)
    (fun _ _ ↦ trivial) (fun id hid ↦ absurd hid List.not_mem_nil) ?_ ?_
  · intro s l r h k _ _ hc
    refine hc.subset fun id hid ↦ ?_
    obtain hid | hid := mem_middle.mp hid
    · exact hid
    · cases k <;> cases hid
  · intro s s' l r h evs p o i hstep hok _ hc
    cases hstep
    exact (checked_step i hc hok).2

/-- In a run in which no `delete` is disturbed, every step keeps to the life cycle. -/
theorem lifecycleKept_of_run (registry : AgentRegistry) {c c' : Config AgentRegistry Point Empty}
    {a : Label Call Point Input} (hrun : Run program Undisturbed (initial registry) c)
    (hok : Undisturbed c a) (hs : Step program a c c') : LifecycleKept c.shared c'.shared := by
  have hc := checked_of_run hrun
  cases hs with
  | call k => exact lifecycleKept_refl _
  | act i hstep =>
    cases hstep
    exact (checked_step i hc hok).1

end Runs

section Vectors

def stoppedAgent : AgentRecord := ⟨makeConfig "a", .stopped, none, none, 0, 0⟩

def oneStopped : AgentRegistry := ⟨(∅ : KeyedMap String AgentRecord).insert "a" stoppedAgent, none⟩

def noted : Input := ⟨1, .ok ()⟩

def updatedMeanwhile : Config AgentRegistry Point Empty :=
  ⟨⟨(∅ : KeyedMap String AgentRecord).insert "a" { stoppedAgent with updatedAt := 1 }, none⟩,
    [.remove "a"], []⟩

theorem lifecycleKept_of_run_updated :
    LifecycleKept updatedMeanwhile.shared (step noted updatedMeanwhile.shared (.remove "a")).1 ∧
      (step noted updatedMeanwhile.shared (.remove "a")).1.agents.lookup "a" = none := by
  have hpermits : Permits program Undisturbed (initial oneStopped)
      [.call (.delete "a"), .act 0 noted, .call (.updateConfig "a" (makeConfig "a")),
        .act 1 noted] := ⟨trivial, trivial, trivial, trivial, trivial⟩
  have hrun : Run program Undisturbed (initial oneStopped) updatedMeanwhile :=
    run_of_permits hpermits rfl
  have hs : Step program (.act (.remove "a") noted) updatedMeanwhile
      ⟨(step noted updatedMeanwhile.shared (.remove "a")).1, [], []⟩ :=
    step_act (n := 0) rfl rfl
  refine ⟨lifecycleKept_of_run oneStopped hrun ?_ hs, rfl⟩
  trivial

def startedMeanwhile : Config AgentRegistry Point Empty :=
  ⟨⟨(∅ : KeyedMap String AgentRecord).insert "a"
      { stoppedAgent with state := .starting, updatedAt := 1 }, none⟩, [.remove "a"], []⟩

theorem delete_not_lifecycleKept :
    ¬ ∀ (registry : AgentRegistry) (c c' : Config AgentRegistry Point Empty)
        (a : Label Call Point Input), Reachable program registry c → Step program a c c' →
        LifecycleKept c.shared c'.shared := by
  intro hall
  have hrun : Reachable program oneStopped startedMeanwhile :=
    run_of_play [.call (.delete "a"), .act 0 noted, .call (.transition "a" .starting),
      .act 1 noted] rfl
  have hs : Step program (.act (.remove "a") noted) startedMeanwhile
      ⟨(step noted startedMeanwhile.shared (.remove "a")).1, [], []⟩ :=
    step_act (n := 0) rfl rfl
  obtain hstopped | ⟨message, herror⟩ := (hall _ _ _ _ hrun hs).removed "a" _ rfl rfl
  · cases hstopped
  · cases herror

end Vectors

end AdkGateway.AgentRegistry
