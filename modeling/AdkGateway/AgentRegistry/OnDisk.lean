import AdkGateway.AgentRegistry.Persistence
import AdkGateway.Foundation.Machine

namespace AdkGateway.AgentRegistry.OnDisk

open Foundation Machine

structure State where
  registry : AgentRegistry
  files : FileTree

inductive Operation
  | createAgent (config : AgentConfig)
  | transition (id : String) (newState : LifecycleState)
  | forceState (id : String) (newState : LifecycleState)
  | updateConfig (id : String) (config : AgentConfig)
  | delete (id : String)

/-- An operation, the clock, and what comes of its accesses to the disk. -/
structure Request where
  operation : Operation
  now : DateTime
  timestamp : String
  writing : Writing
  archives : Bool
  removing : Except String Unit

structure Told where
  before : State
  succeeded : Bool
  touched : List Path
  after : State

section Machine

variable (codec : Codec) (persistDir : Path)

def settle {α : Type} (s : State) (id : String) (writing : Writing) (called : Called α) : Told :=
  let (files, touched) := match called.persisted with
    | some record => persist codec persistDir id record writing s.files
    | none => (s.files, [])
  ⟨s, called.result.isOk, touched, ⟨called.registry, files⟩⟩

def apply (s : State) (request : Request) : Told :=
  let ⟨operation, now, timestamp, writing, archives, removing⟩ := request
  match operation with
  | .createAgent config =>
    settle codec persistDir s config.id writing
      (s.registry.createAgent config now writing.result)
  | .transition id newState =>
    settle codec persistDir s id writing (s.registry.transition id newState now writing.result)
  | .forceState id newState =>
    settle codec persistDir s id writing (s.registry.forceState id newState now writing.result)
  | .updateConfig id config =>
    settle codec persistDir s id writing (s.registry.updateConfig id config now writing.result)
  | .delete id =>
    match s.registry.delete id with
    | (.error _, registry) => ⟨s, false, [], ⟨registry, s.files⟩⟩
    | (.ok _, registry) =>
      let files := archiveWorkspace persistDir id timestamp archives s.files
      let (files, touched) := removePersisted persistDir id removing files
      ⟨s, true, touched, ⟨registry, files⟩⟩

def step (s : State) (request : Request) : Told × State :=
  (apply codec persistDir s request, (apply codec persistDir s request).after)

/-- A call that fails changes no record, after one that succeeds the records are those that a new
registry would load, and only files in the directory are written or removed. -/
structure Agrees (told : Told) : Prop where
  failed : told.succeeded = false → ∀ id,
    told.after.registry.agents.lookup id = told.before.registry.agents.lookup id
  succeeded : told.succeeded = true → ∃ n registry,
    loadFromDisk codec persistDir told.after.files new = (.ok n, registry) ∧
      ∀ id, registry.agents.lookup id = told.after.registry.agents.lookup id
  inside : ∀ path ∈ told.touched, persistDir <+: path

structure Filed (s : State) : Prop where
  record : ∀ id record, s.registry.agents.lookup id = some record →
    record.config.id = id ∧ Listed persistDir (recordPath persistDir id) ∧
      ∃ text, s.files.lookup (recordPath persistDir id) = some text ∧
        codec.fromStr text = .ok record
  file : ∀ path text, Listed persistDir path → s.files.lookup path = some text →
    ∃ id record, s.registry.agents.lookup id = some record ∧ path = recordPath persistDir id

def ReadsBack (record : AgentRecord) : Prop :=
  codec.fromStr (codec.toStringPretty record) = .ok record

def Distinct (registry : AgentRegistry) (id : String) : Prop :=
  Listed persistDir (recordPath persistDir id) ∧ ∀ id' record, id' ≠ id →
    registry.agents.lookup id' = some record →
    recordPath persistDir id' ≠ recordPath persistDir id

/-- The archive takes away no other agent's file, and brings no file to be loaded. -/
def Apart (registry : AgentRegistry) (id timestamp : String) : Prop :=
  (∀ id' record, id' ≠ id → registry.agents.lookup id' = some record →
    ¬ agentDir persistDir id <+: recordPath persistDir id') ∧
  ∀ path, Listed persistDir path → ¬ archiveDest persistDir id timestamp <+: path

/-- What is applied gets written and reads back, what is deleted gets removed, and the files of the
others are neither hit nor hidden. -/
def Untroubled (s : State) (request : Request) : Prop :=
  match request.operation with
  | .createAgent config => s.registry.agents.lookup config.id = none →
    match request.writing with
    | .written => Distinct persistDir s.registry config.id ∧
      ReadsBack codec (newRecord config request.now)
    | .unopened _ => True
    | .cut _ _ => persistDir <+: recordPath persistDir config.id ∧
      ¬ Listed persistDir (recordPath persistDir config.id)
  | .transition id newState => ∀ entry, s.registry.agents.lookup id = some entry →
    isValidTransition entry.state newState = true → request.writing = .written ∧
      ReadsBack codec { entry with state := newState, updatedAt := request.now }
  | .forceState id newState => ∀ entry, s.registry.agents.lookup id = some entry →
    request.writing = .written ∧
      ReadsBack codec { entry with state := newState, updatedAt := request.now }
  | .updateConfig id config => ∀ entry, s.registry.agents.lookup id = some entry →
    config.id = id → request.writing = .written ∧
      ReadsBack codec { entry with config := config, updatedAt := request.now }
  | .delete id => ∀ record, s.registry.agents.lookup id = some record →
    record.state.deletable = true → request.removing = .ok () ∧
      (request.archives = true → Apart persistDir s.registry id request.timestamp)

end Machine

section Steps

variable {codec : Codec} {persistDir : Path} {s : State} {id : String}

theorem distinct_of_plain {registry : AgentRegistry} (hslash : '/' ∉ id.toList) (hempty : id ≠ "")
    (hothers : ∀ id' record, registry.agents.lookup id' = some record → '/' ∉ id'.toList) :
    Distinct persistDir registry id :=
  ⟨listed_recordPath hslash hempty, fun id' record hne hlookup hpath ↦
    hne (recordPath_inj (hothers id' record hlookup) hslash hpath)⟩

theorem Filed.load (h : Filed codec persistDir s) : ∃ n registry,
    loadFromDisk codec persistDir s.files new = (.ok n, registry) ∧
      ∀ id, registry.agents.lookup id = s.registry.agents.lookup id := by
  have hholds : Holds codec persistDir s.files.entries s.registry.agents := by
    rintro ⟨path, text⟩ hmem hlisted
    obtain ⟨id, record, hlookup, rfl⟩ :=
      h.file path text hlisted (KeyedMap.lookup_eq_some_iff.mpr hmem)
    obtain ⟨hid, -, text', htext, hread⟩ := h.record id record hlookup
    obtain rfl := Option.some_inj.mp (htext.symm.trans (KeyedMap.lookup_eq_some_iff.mpr hmem))
    exact ⟨record, hread, by rw [hid]; exact hlookup⟩
  obtain ⟨n, registry, heq, hfrom, -, hloaded⟩ := loadEntries_spec s.files.entries hholds new 0
  refine ⟨n, registry, heq, fun id ↦ ?_⟩
  cases hlookup : s.registry.agents.lookup id with
  | none =>
    obtain hnew | hsame := hfrom id
    · exact hnew.trans (AList.lookup_empty id)
    · exact hsame.trans hlookup
  | some record =>
    obtain ⟨hid, hlisted, text, htext, hread⟩ := h.record id record hlookup
    rw [← hid]
    exact hloaded _ (KeyedMap.lookup_eq_some_iff.mp htext) hlisted record hread

theorem Filed.distinct {record : AgentRecord} (h : Filed codec persistDir s)
    (hlookup : s.registry.agents.lookup id = some record) : Distinct persistDir s.registry id := by
  obtain ⟨hid, hlisted, text, htext, hread⟩ := h.record id record hlookup
  refine ⟨hlisted, fun id' record' hne hlookup' hpath ↦ ?_⟩
  obtain ⟨hid', -, text', htext', hread'⟩ := h.record id' record' hlookup'
  rw [hpath, htext] at htext'
  cases htext'
  cases hread.symm.trans hread'
  exact hne (hid'.symm.trans hid)

theorem Filed.insert {record : AgentRecord} (h : Filed codec persistDir s)
    (hid : record.config.id = id) (hdistinct : Distinct persistDir s.registry id)
    (hread : ReadsBack codec record) :
    Filed codec persistDir
      ⟨{ s.registry with agents := s.registry.agents.insert id record },
        s.files.insert (recordPath persistDir id) (codec.toStringPretty record)⟩ := by
  obtain ⟨hlisted, hothers⟩ := hdistinct
  refine ⟨fun id' record' hlookup ↦ ?_, fun path text hpath htext ↦ ?_⟩
  · obtain ⟨rfl, rfl⟩ | ⟨hne, hold⟩ := KeyedMap.lookup_insert_eq_some.mp hlookup
    · exact ⟨hid, hlisted, _, AList.lookup_insert _, hread⟩
    · obtain ⟨hid', hlisted', text, htext, hread'⟩ := h.record id' record' hold
      refine ⟨hid', hlisted', text, ?_, hread'⟩
      exact (AList.lookup_insert_ne (hothers id' record' hne hold)).trans htext
  · obtain ⟨rfl, rfl⟩ | ⟨hne, hold⟩ := KeyedMap.lookup_insert_eq_some.mp htext
    · exact ⟨id, record, AList.lookup_insert _, rfl⟩
    · obtain ⟨id', record', hlookup, rfl⟩ := h.file path text hpath hold
      refine ⟨id', record', ?_, rfl⟩
      refine (AList.lookup_insert_ne ?_).trans hlookup
      rintro rfl
      exact hne rfl

theorem Filed.erase {files : FileTree} (h : Filed codec persistDir s)
    (hothers : ∀ id' record, id' ≠ id → s.registry.agents.lookup id' = some record →
      files.lookup (recordPath persistDir id') = s.files.lookup (recordPath persistDir id'))
    (hfiles : ∀ path text, Listed persistDir path → files.lookup path = some text →
      path ≠ recordPath persistDir id ∧ s.files.lookup path = some text) :
    Filed codec persistDir
      ⟨{ s.registry with agents := s.registry.agents.erase id }, files⟩ := by
  refine ⟨fun id' record hlookup ↦ ?_, fun path text hpath htext ↦ ?_⟩
  · obtain ⟨hne, hold⟩ := KeyedMap.lookup_erase_eq_some.mp hlookup
    obtain ⟨hid, hlisted, text, htext, hread⟩ := h.record id' record hold
    exact ⟨hid, hlisted, text, (hothers id' record hne hold).trans htext, hread⟩
  · obtain ⟨hne, hold⟩ := hfiles path text hpath htext
    obtain ⟨id', record, hlookup, rfl⟩ := h.file path text hpath hold
    refine ⟨id', record, ?_, rfl⟩
    refine (AList.lookup_erase_ne ?_).trans hlookup
    rintro rfl
    exact hne rfl

theorem agrees_of_filed {told : Told} (h : Filed codec persistDir told.after)
    (hsucceeded : told.succeeded = true) (hinside : ∀ path ∈ told.touched, persistDir <+: path) :
    Agrees codec persistDir told :=
  ⟨fun hfailed ↦ absurd (hfailed.symm.trans hsucceeded) Bool.false_ne_true, fun _ ↦ h.load,
    hinside⟩

theorem Filed.congr {files : FileTree} (h : Filed codec persistDir s)
    (hsame : ∀ path, Listed persistDir path → files.lookup path = s.files.lookup path) :
    Filed codec persistDir ⟨s.registry, files⟩ := by
  refine ⟨fun id record hlookup ↦ ?_, fun path text hpath htext ↦ ?_⟩
  · obtain ⟨hid, hlisted, text, htext, hread⟩ := h.record id record hlookup
    exact ⟨hid, hlisted, text, (hsame _ hlisted).trans htext, hread⟩
  · exact h.file path text hpath ((hsame path hpath).symm.trans htext)

theorem settle_of_failed {α : Type} {writing : Writing} {called : Called α}
    (h : Filed codec persistDir s) (hregistry : called.registry = s.registry)
    (hpersisted : ∀ record, called.persisted = some record →
      (∀ path, Listed persistDir path →
        (persist codec persistDir id record writing s.files).1.lookup path = s.files.lookup path) ∧
      ∀ path ∈ (persist codec persistDir id record writing s.files).2, persistDir <+: path)
    (hresult : ∃ e, called.result = .error e) :
    Agrees codec persistDir (settle codec persistDir s id writing called) ∧
      Filed codec persistDir (settle codec persistDir s id writing called).after := by
  obtain ⟨result, registry, persisted⟩ := called
  obtain ⟨e, rfl⟩ := hresult
  obtain rfl : registry = s.registry := hregistry
  cases persisted with
  | none => exact ⟨⟨fun _ _ ↦ rfl, nofun, nofun⟩, h⟩
  | some record =>
    obtain ⟨hsame, hinside⟩ := hpersisted record rfl
    exact ⟨⟨fun _ _ ↦ rfl, nofun, hinside⟩, h.congr hsame⟩

theorem settle_setEntry {entry record : AgentRecord} {writing : Writing}
    (h : Filed codec persistDir s) (hlookup : s.registry.agents.lookup id = some entry)
    (hid : record.config.id = id) (hwritten : writing = .written) (hread : ReadsBack codec record) :
    let told := settle codec persistDir s id writing
      (s.registry.setEntry id record writing.result)
    Agrees codec persistDir told ∧ Filed codec persistDir told.after := by
  subst hwritten
  have hfiled := h.insert hid (h.distinct hlookup) hread
  refine ⟨agrees_of_filed hfiled rfl fun path hpath ↦ ?_, hfiled⟩
  rw [List.mem_singleton.mp hpath]
  exact persistDir_prefix_of_listed (h.distinct hlookup).1

theorem lookup_archiveWorkspace {timestamp : String} {archives : Bool} {path : Path}
    (files : FileTree)
    (hdest : archives = true → ¬ archiveDest persistDir id timestamp <+: path) :
    (archiveWorkspace persistDir id timestamp archives files).lookup path = files.lookup path ∨
      archives = true ∧ agentDir persistDir id <+: path ∧
        (archiveWorkspace persistDir id timestamp archives files).lookup path = none := by
  rw [archiveWorkspace]
  cases archives with
  | false => exact .inl rfl
  | true =>
    simp only [Bool.true_and]
    split
    · rw [FileTree.lookup_move files (hdest rfl)]
      by_cases hsrc : agentDir persistDir id <+: path
      · exact .inr ⟨trivial, hsrc, if_pos hsrc⟩
      · exact .inl (if_neg hsrc)
    · exact .inl rfl

theorem removePersisted_spec (persistDir : Path) (id : String) (files : FileTree) :
    (∀ path, (removePersisted persistDir id (.ok ()) files).1.lookup path =
      if path = recordPath persistDir id then none else files.lookup path) ∧
    ∀ path ∈ (removePersisted persistDir id (.ok ()) files).2, path = recordPath persistDir id := by
  simp only [removePersisted]
  cases hlookup : files.lookup (recordPath persistDir id) with
  | none =>
    refine ⟨fun path ↦ ?_, nofun⟩
    by_cases hpath : path = recordPath persistDir id
    · rw [if_pos hpath, hpath]
      exact hlookup
    · rw [if_neg hpath]
  | some text =>
    exact ⟨KeyedMap.lookup_erase_if files _, fun path hpath ↦ List.mem_singleton.mp hpath⟩

theorem delete_spec {record : AgentRecord} {timestamp : String} {archives : Bool}
    (h : Filed codec persistDir s) (hlookup : s.registry.agents.lookup id = some record)
    (hapart : archives = true → Apart persistDir s.registry id timestamp) :
    let removed := removePersisted persistDir id (.ok ())
      (archiveWorkspace persistDir id timestamp archives s.files)
    Filed codec persistDir
        ⟨{ s.registry with agents := s.registry.agents.erase id }, removed.1⟩ ∧
      ∀ path ∈ removed.2, persistDir <+: path := by
  obtain ⟨hremoved, htouched⟩ := removePersisted_spec persistDir id
    (archiveWorkspace persistDir id timestamp archives s.files)
  obtain ⟨hlisted, hothers⟩ := h.distinct hlookup
  refine ⟨h.erase (fun id' record' hne hlookup' ↦ ?_) fun path text hpath htext ↦ ?_, ?_⟩
  · have hlisted' := (h.distinct hlookup').1
    rw [hremoved, if_neg (hothers id' record' hne hlookup')]
    refine (lookup_archiveWorkspace s.files fun ha ↦ (hapart ha).2 _ hlisted').resolve_right ?_
    rintro ⟨ha, hsrc, -⟩
    exact (hapart ha).1 id' record' hne hlookup' hsrc
  · rw [hremoved] at htext
    split at htext
    · cases htext
    next hne =>
      refine ⟨hne, ?_⟩
      obtain hsame | ⟨-, -, hgone⟩ :=
        lookup_archiveWorkspace s.files fun ha ↦ (hapart ha).2 path hpath
      · exact hsame.symm.trans htext
      · cases hgone.symm.trans htext
  · intro path hpath
    rw [htouched path hpath]
    exact persistDir_prefix_of_listed hlisted

theorem step_agrees (s : State) (request : Request) (h : Filed codec persistDir s)
    (hok : Untroubled codec persistDir s request) :
    Agrees codec persistDir (apply codec persistDir s request) ∧
      Filed codec persistDir (apply codec persistDir s request).after := by
  obtain ⟨operation, now, timestamp, writing, archives, removing⟩ := request
  cases operation with
  | createAgent config =>
    simp only [apply]
    obtain ⟨hnone, hpersist, heq⟩ | ⟨hregistry, hresult, hpersisted⟩ :=
      createAgent_cases s.registry config now writing.result
    · cases writing with
      | unopened reason => cases hpersist
      | cut n reason => cases hpersist
      | written =>
        obtain ⟨hdistinct, hread⟩ := hok hnone
        rw [heq]
        have hid : (newRecord config now).config.id = config.id := rfl
        have hfiled := h.insert hid hdistinct hread
        refine ⟨agrees_of_filed hfiled rfl fun path hpath ↦ ?_, hfiled⟩
        rw [List.mem_singleton.mp hpath]
        exact persistDir_prefix_of_listed hdistinct.1
    · refine settle_of_failed h hregistry (fun record hrecord ↦ ?_) hresult
      obtain ⟨hnone, -, hpersist⟩ := hpersisted record hrecord
      cases writing with
      | written => exact absurd rfl hpersist
      | unopened reason => exact ⟨fun _ _ ↦ rfl, nofun⟩
      | cut n reason =>
        obtain ⟨hinside, hunlisted⟩ := hok hnone
        refine ⟨fun path hpath ↦ AList.lookup_insert_ne ?_, fun path hpath ↦ ?_⟩
        · rintro rfl
          exact hunlisted hpath
        · rw [List.mem_singleton.mp hpath]
          exact hinside
  | transition id newState =>
    simp only [apply]
    obtain ⟨entry, hentry, hvalid, heq⟩ | ⟨hregistry, hpersisted, hresult, -⟩ :=
      transition_cases s.registry id newState now writing.result
    · obtain ⟨hwritten, hread⟩ := hok entry hentry hvalid
      rw [heq]
      exact settle_setEntry h hentry (h.record id entry hentry).1 hwritten hread
    · exact settle_of_failed h hregistry (by rw [hpersisted]; nofun) hresult
  | forceState id newState =>
    simp only [apply]
    obtain ⟨entry, hentry, heq⟩ | ⟨hregistry, hpersisted, hresult, -⟩ :=
      forceState_cases s.registry id newState now writing.result
    · obtain ⟨hwritten, hread⟩ := hok entry hentry
      rw [heq]
      exact settle_setEntry h hentry (h.record id entry hentry).1 hwritten hread
    · exact settle_of_failed h hregistry (by rw [hpersisted]; nofun) hresult
  | updateConfig id config =>
    simp only [apply]
    obtain ⟨entry, hentry, hid, heq⟩ | ⟨hregistry, hpersisted, hresult, -⟩ :=
      updateConfig_cases s.registry id config now writing.result
    · obtain ⟨hwritten, hread⟩ := hok entry hentry hid
      rw [heq]
      exact settle_setEntry h hentry hid hwritten hread
    · exact settle_of_failed h hregistry (by rw [hpersisted]; nofun) hresult
  | delete id =>
    simp only [apply]
    obtain ⟨record, hlookup, hdeletable, heq⟩ | ⟨⟨e, heq⟩, -⟩ := delete_cases s.registry id
    · obtain ⟨rfl, hapart⟩ := hok record hlookup hdeletable
      rw [heq]
      obtain ⟨hfiled, hinside⟩ := delete_spec h hlookup hapart
      exact ⟨agrees_of_filed hfiled rfl hinside, hfiled⟩
    · rw [heq]
      exact ⟨⟨fun _ _ ↦ rfl, nofun, nofun⟩, h⟩

end Steps

theorem filed_empty (codec : Codec) (persistDir : Path) : Filed codec persistDir ⟨new, ∅⟩ := by
  refine ⟨fun id record hlookup ↦ ?_, fun path text _ hlookup ↦ ?_⟩
  · cases (AList.lookup_empty id).symm.trans hlookup
  · cases (AList.lookup_empty path).symm.trans hlookup

/-- In an untroubled run the registry and the disk agree after every call. -/
theorem agrees_run (codec : Codec) (persistDir : Path) {s : State} (hs : Filed codec persistDir s)
    {requests : List Request}
    (hok : Along (step codec persistDir) (Untroubled codec persistDir) s requests) :
    ∀ told ∈ outputs (step codec persistDir) s requests, Agrees codec persistDir told :=
  forall_outputs_of_along (step codec persistDir) step_agrees hs hok

section Vectors

def createdText : String := String.intercalate "\n"
  ["\x7b", "  \"config\": \x7b", "    \"id\": \"a\",", "    \"name\": \"Agent a\",",
    "    \"description\": \"test agent\",", "    \"agent_type\": \"Llm\",",
    "    \"model\": \"test/model\",", "    \"api_key_env\": \"TEST_KEY\",",
    "    \"instruction\": \"do stuff\",", "    \"tools\": [],", "    \"action_nodes\": [],",
    "    \"workflow_edges\": [],", "    \"sub_agents\": [],", "    \"role\": \x7b",
    "      \"allow\": [],", "      \"deny\": []", "    \x7d,", "    \"channel_bindings\": [],",
    "    \"auto_start\": false,", "    \"temperature\": null,", "    \"max_output_tokens\": null",
    "  \x7d,", "  \"state\": \"Created\",", "  \"port\": null,", "  \"pid\": null,",
    "  \"created_at\": \"1970-01-01T00:00:00Z\",", "  \"updated_at\": \"1970-01-01T00:00:00Z\"",
    "\x7d"]

def createdCodec : Codec where
  toStringPretty _ := createdText
  fromStr text :=
    if text = createdText then .ok (newRecord (makeConfig "a") 0)
    else .error "expected value at line 1 column 1"

theorem readsBack_created : ReadsBack createdCodec (newRecord (makeConfig "a") 0) := by
  simp only [ReadsBack, createdCodec, if_true]

def persistDir : Path := ["data", "agents", "registry"]

def request (operation : Operation) (writing : Writing) : Request :=
  ⟨operation, 0, "19700101T000000", writing, false, .ok ()⟩

def createTwice : List Request :=
  [request (.createAgent (makeConfig "a")) .written,
    request (.createAgent (makeConfig "b")) (.unopened "No space left on device"),
    request (.createAgent (makeConfig "a")) .written]

theorem agrees_run_createTwice :
    (outputs (step createdCodec persistDir) ⟨new, ∅⟩ createTwice).length = 3 ∧
      ∀ told ∈ outputs (step createdCodec persistDir) ⟨new, ∅⟩ createTwice,
        Agrees createdCodec persistDir told := by
  refine ⟨rfl, ?_⟩
  refine agrees_run createdCodec persistDir (filed_empty createdCodec persistDir)
    ⟨fun _ ↦ ⟨distinct_of_plain (by decide) (by decide) nofun, readsBack_created⟩, fun _ ↦ trivial,
      ?_, trivial⟩
  intro hnone
  cases hnone

def startUnwritten : List Request :=
  [request (.createAgent (makeConfig "a")) .written,
    request (.transition "a" .starting) (.unopened "No space left on device")]

theorem not_agrees_run :
    ¬ ∀ (codec : Codec) (persistDir : Path) (requests : List Request),
      ∀ told ∈ outputs (step codec persistDir) ⟨new, ∅⟩ requests,
        Agrees codec persistDir told := by
  intro h
  have hstart := (h createdCodec persistDir startUnwritten _ (.tail _ (.head _))).failed rfl "a"
  cases hstart

end Vectors

end AdkGateway.AgentRegistry.OnDisk
