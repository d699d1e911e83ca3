import AdkGateway.AgentRegistry.Operations
import AdkGateway.Foundation.Files

namespace AdkGateway.AgentRegistry

open Foundation

structure Codec where
  toStringPretty : AgentRecord → String
  fromStr : String → Except String AgentRecord

/-- How a write ends: one that fails may have emptied the file and written the start of it. -/
inductive Writing
  | written
  | unopened (reason : String)
  | cut (n : ℕ) (reason : String)

def Writing.result : Writing → Except String Unit
  | .written => .ok ()
  | .unopened reason => .error reason
  | .cut _ reason => .error reason

def recordPath (persistDir : Path) (id : String) : Path := persistDir.join (id ++ ".json")

/-- The files after `persist`, and those that it wrote. -/
def persist (codec : Codec) (persistDir : Path) (id : String) (record : AgentRecord)
    (writing : Writing) (files : FileTree) : FileTree × List Path :=
  let path := recordPath persistDir id
  let data := codec.toStringPretty record
  match writing with
  | .written => (files.insert path data, [path])
  | .unopened _ => (files, [])
  | .cut n _ => (files.insert path (String.ofList (data.toList.take n)), [path])

def removePersisted (persistDir : Path) (id : String) (removing : Except String Unit)
    (files : FileTree) : FileTree × List Path :=
  let path := recordPath persistDir id
  match files.lookup path, removing with
  | some _, .ok () => (files.erase path, [path])
  | _, _ => (files, [])

def agentDir (persistDir : Path) (id : String) : Path := (persistDir.join "..").join id

def archiveDest (persistDir : Path) (id timestamp : String) : Path :=
  ((persistDir.join "..").join ".archive").join (id ++ "-" ++ timestamp)

/-- The workspace is moved if there is one and the system lets it be: never into itself. -/
def archiveWorkspace (persistDir : Path) (id timestamp : String) (moves : Bool)
    (files : FileTree) : FileTree :=
  let src := agentDir persistDir id
  let dest := archiveDest persistDir id timestamp
  if moves && !src.isPrefixOf dest then files.move src dest else files

/-- The files of the directory are read one by one, in whatever order they come. -/
def loadEntries (codec : Codec) (persistDir : Path) :
    List (Sigma fun _ : Path ↦ String) → AgentRegistry → ℕ → Except String ℕ × AgentRegistry
  | [], registry, count => (.ok count, registry)
  | ⟨path, data⟩ :: entries, registry, count =>
    match (Path.childName persistDir path).bind Path.extension with
    | some "json" =>
      match codec.fromStr data with
      | .error e => (.error e, registry)
      | .ok record =>
        loadEntries codec persistDir entries
          { registry with agents := registry.agents.insert record.config.id record } (count + 1)
    | _ => loadEntries codec persistDir entries registry count

def loadFromDisk (codec : Codec) (persistDir : Path) (files : FileTree) (registry : AgentRegistry) :
    Except String ℕ × AgentRegistry :=
  loadEntries codec persistDir files.entries registry 0

/-- The files that `load_from_disk` reads. -/
def Listed (persistDir path : Path) : Prop :=
  (Path.childName persistDir path).bind Path.extension = some "json"

section Paths

variable {persistDir path : Path} {id : String}

theorem persistDir_prefix_of_listed (h : Listed persistDir path) : persistDir <+: path := by
  obtain ⟨name, hname, -⟩ := Option.bind_eq_some_iff.mp h
  rw [Path.childName_eq_some_iff.mp hname]
  exact List.prefix_append persistDir [name]

/-- An id that is a plain name has its file right in the directory. -/
theorem recordPath_eq_append (persistDir : Path) (hslash : '/' ∉ id.toList) :
    recordPath persistDir id = persistDir ++ [id ++ ".json"] := by
  have hlong : ∀ short : String, short.length < 5 → id ++ ".json" ≠ short := by
    rintro short hshort rfl
    rw [String.length_append] at hshort
    exact absurd hshort (Nat.not_lt.mpr (Nat.le_add_left 5 id.length))
  exact Path.join_eq_append (by simpa using hslash) (hlong _ (by decide)) (hlong _ (by decide))
    (hlong _ (by decide))

theorem listed_recordPath (hslash : '/' ∉ id.toList) (hempty : id ≠ "") :
    Listed persistDir (recordPath persistDir id) := by
  rw [recordPath_eq_append persistDir hslash, Listed,
    Path.childName_eq_some_iff.mpr rfl, Option.bind_some]
  exact Path.extension_append_json hempty

theorem recordPath_inj {id' : String} (hslash : '/' ∉ id.toList) (hslash' : '/' ∉ id'.toList)
    (h : recordPath persistDir id = recordPath persistDir id') : id = id' := by
  rw [recordPath_eq_append persistDir hslash, recordPath_eq_append persistDir hslash',
    List.append_cancel_left_eq, List.cons.injEq] at h
  exact (String.append_left_inj ".json").mp h.1

end Paths

section Loading

variable {codec : Codec} {persistDir : Path}

/-- The files hold just the records of a registry. -/
def Holds (codec : Codec) (persistDir : Path) (entries : List (Sigma fun _ : Path ↦ String))
    (agents : KeyedMap String AgentRecord) : Prop :=
  ∀ e ∈ entries, Listed persistDir e.1 → ∃ record, codec.fromStr e.2 = .ok record ∧
    agents.lookup record.config.id = some record

theorem loadEntries_keeps {I : AgentRegistry → Prop} (h : ∀ registry : AgentRegistry, ∀ record,
      I registry → I { registry with agents := registry.agents.insert record.config.id record })
    (entries : List (Sigma fun _ : Path ↦ String)) (registry : AgentRegistry) (count : ℕ)
    (hregistry : I registry) : I (loadEntries codec persistDir entries registry count).2 := by
  induction entries generalizing registry count with
  | nil => exact hregistry
  | cons e entries ih =>
    rw [loadEntries]
    split
    · cases codec.fromStr e.2 with
      | error message => exact hregistry
      | ok record => exact ih _ _ (h registry record hregistry)
    · exact ih _ _ hregistry

/-- Files that hold records of a registry add these to what has been loaded. -/
theorem loadEntries_spec {agents : KeyedMap String AgentRecord}
    (entries : List (Sigma fun _ : Path ↦ String)) (h : Holds codec persistDir entries agents)
    (registry : AgentRegistry) (count : ℕ) :
    ∃ n registry', loadEntries codec persistDir entries registry count = (.ok n, registry') ∧
      (∀ id, registry'.agents.lookup id = registry.agents.lookup id ∨
        registry'.agents.lookup id = agents.lookup id) ∧
      (∀ id, registry.agents.lookup id = agents.lookup id →
        registry'.agents.lookup id = agents.lookup id) ∧
      ∀ e ∈ entries, Listed persistDir e.1 → ∀ record, codec.fromStr e.2 = .ok record →
        registry'.agents.lookup record.config.id = some record := by
  induction entries generalizing registry count with
  | nil => exact ⟨count, registry, rfl, fun _ ↦ .inl rfl, fun _ heq ↦ heq, nofun⟩
  | cons e entries ih =>
    obtain ⟨path, data⟩ := e
    obtain ⟨hhead, htail⟩ := List.forall_mem_cons.mp h
    by_cases hlisted : Listed persistDir path
    · obtain ⟨record, hdata, hrecord⟩ := hhead hlisted
      obtain ⟨n, registry', heq, hfrom, hkeep, hloaded⟩ := ih htail
        { registry with agents := registry.agents.insert record.config.id record } (count + 1)
      have hset : ∀ id, registry.agents.lookup id = agents.lookup id ∨ id = record.config.id →
          (registry.agents.insert record.config.id record).lookup id = agents.lookup id := by
        intro id hid
        rw [KeyedMap.lookup_insert_if]
        split
        next hself => rw [hself, hrecord]
        next hother => exact hid.resolve_right hother
      refine ⟨n, registry', ?_, fun id ↦ ?_, fun id hid ↦ hkeep id (hset id (.inl hid)), ?_⟩
      · rw [loadEntries, hlisted, hdata]
        exact heq
      · by_cases hself : id = record.config.id
        · exact .inr (hkeep id (hset id (.inr hself)))
        · refine (hfrom id).imp (fun hid ↦ hid.trans ?_) fun hid ↦ hid
          exact AList.lookup_insert_ne hself
      · rintro e' he' hlisted' record' hdata'
        obtain rfl | he' := List.mem_cons.mp he'
        · cases hdata.symm.trans hdata'
          exact (hkeep _ (hset _ (.inr rfl))).trans hrecord
        · exact hloaded e' he' hlisted' record' hdata'
    · obtain ⟨n, registry', heq, hfrom, hkeep, hloaded⟩ := ih htail registry count
      refine ⟨n, registry', ?_, hfrom, hkeep, ?_⟩
      · rw [loadEntries]
        split
        next hjson => exact absurd hjson hlisted
        next => exact heq
      · intro e' he' hlisted'
        obtain rfl | he' := List.mem_cons.mp he'
        · exact absurd hlisted' hlisted
        · exact hloaded e' he' hlisted'

end Loading

end AdkGateway.AgentRegistry
