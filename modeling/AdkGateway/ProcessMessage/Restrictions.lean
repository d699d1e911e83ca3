import AdkGateway.ProcessMessage.Handler

namespace AdkGateway.ProcessMessage

open Foundation
open Gateway (Incoming isStop)

variable (r : Reads) (inbound : Incoming) (toLowercase : String → String)

def IsResolved (tool : String) : Prop := ∃ entry ∈ resolvedTools r, entry.name = tool

def Allowed (tool : String) : Prop :=
  (∃ entry ∈ grantedTools r inbound, entry.name = tool) ∧
    ∀ skill allowed, selectedSkill r inbound toLowercase = some skill →
      skill.allowedTools = some allowed → tool ∈ allowed

def Op.isRun : Op → Bool
  | .run _ _ => true
  | _ => false

instance (o : Op) : Nonempty o.Answer := by
  cases o <;> exact inferInstance

def Binds (o : Op) : Prop :=
  ∀ tools token, o = .run tools token → ∀ tool ∈ tools, IsResolved r tool →
    Allowed r inbound toLowercase tool

structure RunsAttached : Prop where
  notStop : isStop inbound.text = false
  begins : beforeTyping r inbound = none
  reaches : beforeRun r inbound = none
  prepared : preparation r = none
  direct : r.hasFallbacks = false

def SkillAllows : Prop :=
  ∀ skill allowed, selectedSkill r inbound toLowercase = some skill →
    skill.allowedTools = some allowed → ∀ tool ∈ (agentTools? r).getD [], IsResolved r tool →
      tool ∈ allowed

section Lists

variable {r inbound toLowercase} {tool : String}

theorem grantedTools_eq : grantedTools r inbound = resolvedTools r := by
  apply List.filter_eq_self.mpr
  intro entry _
  rw [decide_eq_true_eq]
  exact wrapToolCheck_none _ _ _ _

theorem allowed_iff (hresolved : IsResolved r tool) : Allowed r inbound toLowercase tool ↔
    ∀ skill allowed, selectedSkill r inbound toLowercase = some skill →
      skill.allowedTools = some allowed → tool ∈ allowed := by
  rw [Allowed, grantedTools_eq]
  exact and_iff_right hresolved

theorem mem_filterTools {skill : SkillDocument} {entry : ToolEntry} :
    entry ∈ filterTools (resolvedTools r) skill ↔ entry ∈ resolvedTools r ∧
      ∀ allowed, skill.allowedTools = some allowed → entry.name ∈ allowed := by
  rw [filterTools]
  cases skill.allowedTools with
  | none => simp
  | some allowed => simp

/-- The list that is computed for the turn is what is allowed, unless the skill names no tool. -/
theorem mem_allowedTools_iff (h : ∀ skill, selectedSkill r inbound toLowercase = some skill →
    filterTools (resolvedTools r) skill ≠ []) :
    (∃ entry ∈ allowedTools r inbound toLowercase, entry.name = tool) ↔
      Allowed r inbound toLowercase tool := by
  rw [allowedTools, Allowed, grantedTools_eq]
  cases hskill : selectedSkill r inbound toLowercase with
  | none => simp
  | some skill =>
    cases hfilter : filterTools (resolvedTools r) skill with
    | nil => exact absurd hfilter (h skill hskill)
    | cons first rest =>
      simp only [Option.map_some, hfilter]
      rw [← hfilter]
      constructor
      · rintro ⟨entry, hentry, rfl⟩
        obtain ⟨hresolved, hlisted⟩ := List.mem_filter.mp hentry
        obtain ⟨entry', hentry', hname⟩ := List.mem_map.mp (List.contains_iff_mem.mp hlisted)
        refine ⟨⟨entry, hresolved, rfl⟩, fun skill' allowed hskill' hallowed ↦ ?_⟩
        obtain rfl := Option.some_inj.mp hskill'
        rw [← hname]
        exact (mem_filterTools.mp hentry').2 allowed hallowed
      · rintro ⟨⟨entry, hresolved, rfl⟩, hlisted⟩
        refine ⟨entry, List.mem_filter.mpr ⟨hresolved, List.contains_iff_mem.mpr ?_⟩, rfl⟩
        refine List.mem_map_of_mem (mem_filterTools.mpr ⟨hresolved, fun allowed hallowed ↦ ?_⟩)
        exact hlisted skill allowed rfl hallowed

end Lists

section Run

variable {r inbound toLowercase}

theorem binds_run_iff {tools : List String} {token : Option ℕ} :
    Binds r inbound toLowercase (.run tools token) ↔
      ∀ tool ∈ tools, IsResolved r tool → Allowed r inbound toLowercase tool := by
  constructor
  · intro h
    exact h tools token rfl
  · intro h tools' token' heq
    obtain ⟨rfl, -⟩ := Op.run.inj heq
    exact h

theorem binds_of_not_isRun {o : Op} (h : o.isRun = false) : Binds r inbound toLowercase o := by
  rintro tools token rfl
  cases h

theorem only_call {o : Op} (h : o.isRun = false) : (call o).Only (Binds r inbound toLowercase) :=
  Script.only_perform (binds_of_not_isRun h)

theorem only_leave (exit : Exit) : (leave exit).Only (Binds r inbound toLowercase) := by
  cases exit with
  | silent => trivial
  | replied text => exact Script.only_bind (only_call rfl) fun _ ↦ trivial
  | posted reply =>
    exact Script.only_bind (only_call rfl) fun _ ↦
      Script.only_bind (only_call rfl) fun _ ↦ trivial
  | failed e => trivial

theorem only_stopRequest : (stopRequest inbound).Only (Binds r inbound toLowercase) := by
  refine Script.only_bind (only_call rfl) fun stopped ↦ ?_
  cases stopped
  · exact Script.only_bind (only_call rfl) fun _ ↦ trivial
  · exact Script.only_bind (only_call rfl) fun _ ↦ trivial

theorem only_deliver : (deliver r).Only (Binds r inbound toLowercase) := by
  refine Script.only_bind (only_call rfl) fun _ ↦ ?_
  split
  · trivial
  · exact Script.only_bind (only_call rfl) fun _ ↦ trivial

theorem only_afterRun (typing : Option ℕ) :
    Script.Only (Binds r inbound toLowercase) (match runExit r with
      | some exit => leave exit
      | none => do
        stopTyping typing
        call (.removeRequest inbound.message.senderId)
        deliver r) := by
  cases runExit r with
  | some exit => exact only_leave exit
  | none =>
    refine Script.only_bind ?_ fun _ ↦ Script.only_bind (only_call rfl) fun _ ↦ only_deliver
    cases typing with
    | none => trivial
    | some task => exact only_call rfl

theorem only_request_iff (typing : Option ℕ) :
    (request r inbound typing).Only (Binds r inbound toLowercase) ↔
      (preparation r = none → r.hasFallbacks = false → SkillAllows r inbound toLowercase) := by
  rw [request, call, Script.only_perform_bind, and_iff_right (binds_of_not_isRun rfl)]
  cases hprepared : preparation r with
  | some exit =>
    refine iff_of_true (fun token ↦ only_leave exit) fun h ↦ ?_
    cases h
  | none =>
    cases hdirect : r.hasFallbacks with
    | true =>
      refine iff_of_true (fun token ↦ ?_) fun _ h ↦ ?_
      · refine Script.only_bind ?_ fun _ ↦ only_afterRun typing
        rw [runAgent, hdirect]
        exact Script.only_perform (binds_run_iff.mpr fun _ h ↦ by cases h)
      · cases h
    | false =>
      simp only [forall_const]
      constructor
      · intro h
        have hrun := h 0
        rw [runAgent, hdirect] at hrun
        have hbinds := binds_run_iff.mp (Script.only_perform_bind.mp hrun).1
        intro skill allowed hskill hallowed tool htool hresolved
        exact (hbinds tool htool hresolved).2 skill allowed hskill hallowed
      · intro h token
        refine Script.only_bind ?_ fun _ ↦ only_afterRun typing
        rw [runAgent, hdirect]
        refine Script.only_perform (binds_run_iff.mpr fun tool htool hresolved ↦ ?_)
        refine (allowed_iff hresolved).mpr fun skill allowed hskill hallowed ↦ ?_
        exact h skill allowed hskill hallowed tool htool hresolved

theorem only_startTyping : (startTyping r).Only (Binds r inbound toLowercase) := by
  rw [startTyping]
  split
  · exact Script.only_bind (only_call rfl) fun _ ↦
      Script.only_bind (only_call rfl) fun _ ↦ trivial
  · trivial

theorem only_welcomeBack : (welcomeBack r).Only (Binds r inbound toLowercase) := by
  rw [welcomeBack]
  split
  · exact only_call rfl
  · trivial

set_option linter.constructorNameAsVariable false in
theorem skillAllows_of_only (h : (processMessage r inbound).Only (Binds r inbound toLowercase))
    (hruns : RunsAttached r inbound) : SkillAllows r inbound toLowercase := by
  rw [processMessage, hruns.notStop] at h
  simp only [Bool.false_eq_true, if_false] at h
  obtain ⟨-, hbegins⟩ := Script.Only.exists_of_bind h
  simp only [hruns.begins] at hbegins
  obtain ⟨-, hwelcomed⟩ := Script.Only.exists_of_bind hbegins
  obtain ⟨typing, htyping⟩ := Script.Only.exists_of_bind hwelcomed
  obtain ⟨-, hopened⟩ := Script.Only.exists_of_bind htyping
  obtain ⟨-, hrequest⟩ := Script.Only.exists_of_bind hopened
  simp only [hruns.reaches] at hrequest
  exact (only_request_iff typing).mp hrequest hruns.prepared hruns.direct

end Run

/-- The tools of a run are bound by the restrictions just if the message is not run by the agent
that was built at the start, or the selected skill allows all that is attached to it. -/
theorem binds_iff : (processMessage r inbound).Only (Binds r inbound toLowercase) ↔
    (RunsAttached r inbound → SkillAllows r inbound toLowercase) := by
  refine ⟨skillAllows_of_only, fun h ↦ ?_⟩
  rw [processMessage]
  cases hstop : isStop inbound.text with
  | true => exact only_stopRequest
  | false =>
    simp only [Bool.false_eq_true, if_false]
    refine Script.only_bind (only_call rfl) fun _ ↦ ?_
    cases hbegins : beforeTyping r inbound with
    | some exit => exact only_leave exit
    | none =>
      refine Script.only_bind only_welcomeBack fun _ ↦
        Script.only_bind only_startTyping fun typing ↦ ?_
      refine Script.only_bind (only_call rfl) fun _ ↦ Script.only_bind (only_call rfl) fun _ ↦ ?_
      cases hreaches : beforeRun r inbound with
      | some exit => exact only_leave exit
      | none =>
        refine (only_request_iff typing).mpr fun hprepared hdirect ↦ ?_
        exact h ⟨hstop, hbegins, hreaches, hprepared, hdirect⟩

section Writer

def plainSources : ToolSources := ⟨false, false, [], [], [], false, false, false⟩

def writerSkill : SkillDocument := ⟨"writer", [], some ["fs_read"], some "@writer", [], ""⟩

def writerReads : Reads where
  access := .allowed
  pairing := .expired
  pairedOnChannel := []
  pairedAccess _ := .allowed
  hook _ := none
  welcome := none
  hasChannel := true
  toolRegistry := buildRegistry plainSources
  accessControl := .new .default
  resolveScopes _ := []
  skills := [writerSkill]
  agentId := "main"
  agentState := none
  isSystem := false
  messageReceive := .ok ()
  proxy := none
  workflow := none
  agents := AList.singleton "assistant" (attachedTools plainSources)
  runnerBuilt := .ok ()
  userId := .ok ()
  sessionId := .ok ()
  hasFallbacks := false
  run := .ok ()
  fallbackRun := false
  response := "done"
  suppressed := false
  deliverable := true
  delivery := .ok ()

def writerMessage : Incoming := ⟨⟨.telegram, "", "7"⟩, "@writer hello", .channel⟩

/-- Agents can be deleted although the skill allows no more than to read files. -/
theorem not_binds : ¬ ∀ (r : Reads) (inbound : Incoming) (toLowercase : String → String),
    (processMessage r inbound).Only (Binds r inbound toLowercase) := by
  intro h
  have hstop : isStop writerMessage.text = false := by decide +kernel
  have hbegins : (beforeTyping writerReads writerMessage).isNone = true := by decide +kernel
  have hreaches : (beforeRun writerReads writerMessage).isNone = true := by decide +kernel
  have hprepared : (preparation writerReads).isNone = true := by decide +kernel
  have hruns : RunsAttached writerReads writerMessage :=
    ⟨hstop, Option.isNone_iff_eq_none.mp hbegins, Option.isNone_iff_eq_none.mp hreaches,
      Option.isNone_iff_eq_none.mp hprepared, rfl⟩
  have hallows := @skillAllows_of_only writerReads writerMessage id
    (h writerReads writerMessage id) hruns
  have hskill : selectedSkill writerReads writerMessage id = some writerSkill := by decide +kernel
  have hlisted := hallows writerSkill ["fs_read"] hskill rfl "agent_delete" (by decide +kernel)
    ⟨⟨"agent_delete"⟩, by decide +kernel, rfl⟩
  exact absurd hlisted (by decide)

end Writer

end AdkGateway.ProcessMessage
