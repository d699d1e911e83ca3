import AdkGateway.CodingAgent.Executor
import AdkGateway.Foundation.Files

namespace AdkGateway.CodingAgent

open Foundation

inductive CodingAgentError
  | agentNotFound (agentId : String)
  | agentDisconnected (agentId : String)
  | workspaceViolation (path : String)
  | costCapExceeded (spentUsd capUsd : ℚ)
  deriving DecidableEq

/-- The components of a path, as it is written: `/` where it is absolute, and a dot only at the
start. -/
def pathComponents (text : String) : PathBuf :=
  if text.toList.head? = some '/' then "/" :: (Path.components text).filter Path.isStep
  else if (Path.components text).head? = some "." then
    "." :: (Path.components text).filter Path.isStep
  else (Path.components text).filter Path.isStep

structure WorkspaceValidator where
  allowedWorkspaces : List PathBuf

namespace WorkspaceValidator

variable (disk : Disk) (cwd : Path)

def canonicalize (path : String) : Option PathBuf := (disk.canonicalize cwd path).map ("/" :: ·)

def new (workspaces : List String) : WorkspaceValidator :=
  ⟨workspaces.filterMap (canonicalize disk cwd)⟩

def fromCanonical (workspaces : List PathBuf) : WorkspaceValidator := ⟨workspaces⟩

def isWithinWorkspace (validator : WorkspaceValidator) (canonicalPath : PathBuf) : Bool :=
  validator.allowedWorkspaces.any (·.isPrefixOf canonicalPath)

def validatePath (validator : WorkspaceValidator) (path : String) : Except CodingAgentError Unit :=
  match canonicalize disk cwd path with
  | some canonical =>
    if validator.isWithinWorkspace canonical then .ok () else .error (.workspaceViolation path)
  | none => .error (.workspaceViolation path)

def validatePaths (validator : WorkspaceValidator) (paths : List String) :
    Except CodingAgentError Unit :=
  paths.forM (validator.validatePath disk cwd)

end WorkspaceValidator

open TaskExecutor

section Components

variable {text path workspace : String}

def lead (text : String) : PathBuf :=
  if text.toList.head? = some '/' then ["/"]
  else if (Path.components text).head? = some "." then ["."]
  else []

def steps (text : String) : PathBuf := (Path.components text).filter Path.isStep

theorem pathComponents_eq (text : String) : pathComponents text = lead text ++ steps text := by
  rw [pathComponents, lead, steps]
  split
  · rfl
  · split <;> rfl

theorem lead_eq_slash_iff : lead text = ["/"] ↔ text.toList.head? = some '/' := by
  rw [lead]
  by_cases hslash : text.toList.head? = some '/'
  · exact iff_of_true (if_pos hslash) hslash
  · refine iff_of_false ?_ hslash
    rw [if_neg hslash]
    split
    · decide
    · decide

theorem lead_cases (text : String) :
    lead text = [] ∨ ∃ mark, lead text = [mark] ∧ mark ≠ ".." ∧ ∀ path, mark ∉ steps path := by
  rw [lead]
  split
  · exact .inr ⟨"/", rfl, by decide, fun path h ↦
      Path.slash_notMem_components path (List.mem_of_mem_filter h)⟩
  · split
    · exact .inr ⟨".", rfl, by decide, fun path h ↦ absurd (List.mem_filter.mp h).2 (by decide)⟩
    · exact .inl rfl

theorem parent_mem_pathComponents :
    ".." ∈ pathComponents text ↔ ".." ∈ Path.components text := by
  have hsteps : ".." ∈ steps text ↔ ".." ∈ Path.components text := by
    rw [steps, List.mem_filter]
    exact and_iff_left (by decide)
  rw [pathComponents_eq, List.mem_append, hsteps]
  rcases lead_cases text with hlead | ⟨mark, hlead, hmark, -⟩
  · simp [hlead]
  · simp [hlead, Ne.symm hmark]

theorem steps_ne_nil (h : text ≠ "") (hlead : lead text = []) : steps text ≠ [] := by
  rw [lead] at hlead
  split at hlead
  · cases hlead
  case isFalse hslash =>
  split at hlead
  · cases hlead
  case isFalse hdot =>
  rw [Path.components, List.splitOn_eq_splitOnP] at hdot
  rw [steps, Path.components, List.splitOn_eq_splitOnP]
  cases hchars : text.toList with
  | nil => exact absurd (String.toList_eq_nil_iff.mp hchars) h
  | cons c cs =>
    rw [hchars] at hslash hdot
    rw [List.splitOnP_cons_eq_if_modifyHead, if_neg (by simpa using hslash)] at hdot ⊢
    cases hpieces : cs.splitOnP (· == '/') with
    | nil => exact absurd hpieces (List.splitOnP_ne_nil _ _)
    | cons first rest =>
      rw [hpieces] at hdot
      have hstep : Path.isStep (String.ofList (c :: first)) = true := by
        have hne : String.ofList (c :: first) ≠ "" := by
          intro heq
          simpa using congrArg String.toList heq
        have hne' : String.ofList (c :: first) ≠ "." := by
          intro heq
          exact hdot (congrArg some heq)
        exact decide_eq_true ⟨hne, hne'⟩
      rw [List.modifyHead_cons, List.map_cons, List.filter_cons_of_pos hstep]
      exact List.cons_ne_nil _ _

theorem steps_of_pathComponents (hne : workspace ≠ "")
    (h : pathComponents workspace <+: pathComponents path) :
    lead workspace = lead path ∧ steps workspace <+: steps path := by
  rw [pathComponents_eq, pathComponents_eq] at h
  rcases lead_cases workspace with hlead | ⟨mark, hlead, -, hmark⟩
  · rcases lead_cases path with hlead' | ⟨mark', hlead', -, hmark'⟩
    · rw [hlead, hlead'] at h
      exact ⟨hlead.trans hlead'.symm, h⟩
    · rw [hlead, hlead', List.nil_append] at h
      cases hsteps : steps workspace with
      | nil => exact absurd hsteps (steps_ne_nil hne hlead)
      | cons step rest =>
        rw [hsteps] at h
        obtain ⟨rfl, -⟩ := List.cons_prefix_cons.mp h
        exact absurd (hsteps ▸ List.mem_cons_self) (hmark' workspace)
  · rcases lead_cases path with hlead' | ⟨mark', hlead', -, hmark'⟩
    · rw [hlead, hlead', List.nil_append] at h
      exact absurd (h.subset (List.mem_append_left _ (List.mem_singleton_self mark))) (hmark path)
    · rw [hlead, hlead'] at h
      obtain ⟨rfl, hsteps⟩ := List.cons_prefix_cons.mp h
      exact ⟨hlead.trans hlead'.symm, hsteps⟩

theorem join_prefix (cwd : Path) (hne : workspace ≠ "") (hpath : ".." ∉ Path.components path)
    (h : pathComponents workspace <+: pathComponents path) :
    Path.join cwd workspace <+: Path.join cwd path := by
  obtain ⟨hlead, hsteps⟩ := steps_of_pathComponents hne h
  have hworkspace : ".." ∉ Path.components workspace := fun hmem ↦
    hpath (parent_mem_pathComponents.mp (h.subset (parent_mem_pathComponents.mpr hmem)))
  rw [Path.join_eq_filter hworkspace, Path.join_eq_filter hpath]
  have hstart : (workspace.toList.head? = some '/') = (path.toList.head? = some '/') := by
    rw [← lead_eq_slash_iff, ← lead_eq_slash_iff, hlead]
  simp only [hstart]
  exact (List.prefix_append_right_inj _).mpr hsteps

end Components

section Verdicts

variable {disk : Disk} {cwd : Path} {workspaces : List String} {path : String}

theorem validateWorkspace_eq_ok_iff :
    validateWorkspace (workspaces.map pathComponents) (pathComponents path) = .ok () ↔
      workspaces = [] ∨
        ∃ workspace ∈ workspaces, pathComponents workspace <+: pathComponents path := by
  rw [validateWorkspace]
  by_cases hnone : workspaces = []
  · simp [hnone]
  · rw [if_neg (by simpa using hnone)]
    split
    case isTrue h =>
      obtain ⟨allowed, hallowed, hprefix⟩ := List.any_eq_true.mp h
      obtain ⟨workspace, hworkspace, rfl⟩ := List.mem_map.mp hallowed
      refine iff_of_true rfl (.inr ⟨workspace, hworkspace, ?_⟩)
      rcases Bool.or_eq_true_iff.mp hprefix with hprefix | heq
      · exact List.isPrefixOf_iff_prefix.mp hprefix
      · exact ⟨[], by rw [List.append_nil, eq_of_beq heq]⟩
    case isFalse h =>
      refine iff_of_false (fun h ↦ by cases h) ?_
      intro hor
      obtain ⟨workspace, hworkspace, hprefix⟩ := hor.resolve_left hnone
      refine h (List.any_eq_true.mpr ⟨_, List.mem_map_of_mem hworkspace, ?_⟩)
      rw [List.isPrefixOf_iff_prefix.mpr hprefix, Bool.true_or]

theorem isWithinWorkspace_new_iff {place : Path} :
    (WorkspaceValidator.new disk cwd workspaces).isWithinWorkspace ("/" :: place) = true ↔
      ∃ workspace ∈ workspaces, ∃ above, disk.canonicalize cwd workspace = some above ∧
        above <+: place := by
  rw [WorkspaceValidator.isWithinWorkspace, WorkspaceValidator.new, List.any_eq_true]
  constructor
  · intro h
    obtain ⟨allowed, hallowed, hprefix⟩ := h
    obtain ⟨workspace, hworkspace, hcanonical⟩ := List.mem_filterMap.mp hallowed
    obtain ⟨above, habove, rfl⟩ := Option.map_eq_some_iff.mp hcanonical
    have hcons := List.isPrefixOf_iff_prefix.mp hprefix
    exact ⟨workspace, hworkspace, above, habove, (List.cons_prefix_cons.mp hcons).2⟩
  · intro h
    obtain ⟨workspace, hworkspace, above, habove, hprefix⟩ := h
    refine ⟨"/" :: above, List.mem_filterMap.mpr ⟨workspace, hworkspace, ?_⟩, ?_⟩
    · rw [WorkspaceValidator.canonicalize, habove]
      rfl
    · exact List.isPrefixOf_iff_prefix.mpr (List.cons_prefix_cons.mpr ⟨rfl, hprefix⟩)

theorem validatePath_new_eq_ok_iff :
    (WorkspaceValidator.new disk cwd workspaces).validatePath disk cwd path = .ok () ↔
      ∃ place, disk.canonicalize cwd path = some place ∧
        ∃ workspace ∈ workspaces, ∃ above, disk.canonicalize cwd workspace = some above ∧
          above <+: place := by
  simp only [← isWithinWorkspace_new_iff]
  rw [WorkspaceValidator.validatePath, WorkspaceValidator.canonicalize]
  cases hplace : disk.canonicalize cwd path with
  | none => simp
  | some place => simp

theorem pathComponents_of_absolute (h : path.toList.head? = some '/') :
    pathComponents path = "/" :: steps path := if_pos h

theorem join_of_absolute (h : path.toList.head? = some '/') (hpath : ".." ∉ Path.components path) :
    Path.join cwd path = steps path := by
  rw [Path.join_eq_filter hpath, if_pos h]
  rfl

end Verdicts

/-- What the two validators make of a path: they differ where there are no workspaces, and where
something is missing on the disk. -/
structure Confines (disk : Disk) (cwd : Path) (workspaces : List String) (path : String) :
    Prop where
  unrestricted : workspaces = [] →
    validateWorkspace (workspaces.map pathComponents) (pathComponents path) = .ok () ∧
      (WorkspaceValidator.new disk cwd workspaces).validatePath disk cwd path =
        .error (.workspaceViolation path)
  below : workspaces ≠ [] → "" ∉ workspaces → ".." ∉ Path.components path →
    validateWorkspace (workspaces.map pathComponents) (pathComponents path) = .ok () →
      ∃ workspace ∈ workspaces, Path.join cwd workspace <+: Path.join cwd path
  accepted : workspaces ≠ [] → ".." ∉ Path.components path →
    (∀ text ∈ path :: workspaces, (disk.canonicalize cwd text).isSome) →
    validateWorkspace (workspaces.map pathComponents) (pathComponents path) = .ok () →
      (WorkspaceValidator.new disk cwd workspaces).validatePath disk cwd path = .ok ()
  refused : (∀ text ∈ path :: workspaces,
      text.toList.head? = some '/' ∧ ".." ∉ Path.components text) →
    (WorkspaceValidator.new disk cwd workspaces).validatePath disk cwd path = .ok () →
      validateWorkspace (workspaces.map pathComponents) (pathComponents path) = .ok ()
  onDisk : disk.isDir cwd = true →
    (WorkspaceValidator.new disk cwd workspaces).validatePath disk cwd path = .ok () →
      disk.Exists (Path.join cwd path)
  missing : disk.canonicalize cwd path = none →
    (WorkspaceValidator.new disk cwd workspaces).validatePath disk cwd path =
      .error (.workspaceViolation path)

theorem confines (disk : Disk) (cwd : Path) (workspaces : List String) (path : String) :
    Confines disk cwd workspaces path := by
  refine ⟨?_, ?_, ?_, ?_, ?_, ?_⟩
  · intro hnone
    subst hnone
    refine ⟨rfl, ?_⟩
    rw [WorkspaceValidator.validatePath]
    cases WorkspaceValidator.canonicalize disk cwd path with
    | none => rfl
    | some canonical => rfl
  · intro hsome hempty hpath hok
    obtain ⟨workspace, hworkspace, hprefix⟩ :=
      (validateWorkspace_eq_ok_iff.mp hok).resolve_left hsome
    refine ⟨workspace, hworkspace, join_prefix cwd ?_ hpath hprefix⟩
    exact fun he ↦ hempty (he ▸ hworkspace)
  · intro hsome hpath hexists hok
    obtain ⟨workspace, hworkspace, hprefix⟩ :=
      (validateWorkspace_eq_ok_iff.mp hok).resolve_left hsome
    obtain ⟨place, hplace⟩ := Option.isSome_iff_exists.mp (hexists path List.mem_cons_self)
    obtain ⟨above, habove⟩ :=
      Option.isSome_iff_exists.mp (hexists workspace (List.mem_cons_of_mem _ hworkspace))
    refine validatePath_new_eq_ok_iff.mpr ⟨place, hplace, workspace, hworkspace, above, habove, ?_⟩
    rw [Disk.canonicalize_eq_join hplace, Disk.canonicalize_eq_join habove]
    exact join_prefix cwd (Disk.ne_empty_of_canonicalize habove) hpath hprefix
  · intro hplain hok
    obtain ⟨place, hplace, workspace, hworkspace, above, habove, hprefix⟩ :=
      validatePath_new_eq_ok_iff.mp hok
    obtain ⟨habsolute, hpath⟩ := hplain path List.mem_cons_self
    obtain ⟨habsolute', hpath'⟩ := hplain workspace (List.mem_cons_of_mem _ hworkspace)
    refine validateWorkspace_eq_ok_iff.mpr (.inr ⟨workspace, hworkspace, ?_⟩)
    rw [Disk.canonicalize_eq_join hplace, Disk.canonicalize_eq_join habove,
      join_of_absolute habsolute hpath, join_of_absolute habsolute' hpath'] at hprefix
    rw [pathComponents_of_absolute habsolute, pathComponents_of_absolute habsolute']
    exact List.cons_prefix_cons.mpr ⟨rfl, hprefix⟩
  · intro hcwd hok
    obtain ⟨place, hplace, -⟩ := validatePath_new_eq_ok_iff.mp hok
    rw [← Disk.canonicalize_eq_join hplace]
    exact Disk.canonicalize_exists hcwd hplace
  · intro hmissing
    rw [WorkspaceValidator.validatePath, WorkspaceValidator.canonicalize, hmissing]
    rfl

/-- Without workspaces the validators disagree, and a step up leads out of the one there is. -/
theorem verdicts_differ :
    validateWorkspace ([].map pathComponents) (pathComponents "/etc") = .ok () ∧
      (WorkspaceValidator.new (.ofDirs [[], ["ws"], ["etc"]] (by decide)) [] []).validatePath
          (.ofDirs [[], ["ws"], ["etc"]] (by decide)) [] "/etc" =
        .error (.workspaceViolation "/etc") ∧
      validateWorkspace (["/ws"].map pathComponents) (pathComponents "/ws/../etc") = .ok () ∧
      ¬ Path.join [] "/ws" <+: Path.join [] "/ws/../etc" := by
  decide

end AdkGateway.CodingAgent
