import AdkGateway.ControlPanel.Sections
import AdkGateway.Startup.Decryption

namespace AdkGateway.ControlPanel

open ConfigWatcher hiding Step
open Encryption Foundation Json Startup

inductive SectionPayload
  | channels (payload : ChannelsPayload)
  | settings (payload : SettingsPayload)
  | agent (payload : AgentPayload)

namespace SectionPayload

def save (serde : Readers) (files : FileAccess) :
    SectionPayload → Process → Option SaveResponse × Process
  | channels payload => channelsSave serde files payload
  | settings payload => settingsSave serde files payload
  | agent payload => agentSave serde files payload

def edits (config : GatewayConfig) :
    SectionPayload → Except String (List (Except String Edit))
  | channels payload => .ok (channelEdits config payload)
  | settings payload => (checkSettings payload).map fun _ ↦ (settingsEdits payload).map .ok
  | agent payload => (primaryId payload).map fun primaryId ↦ (agentEdits payload primaryId).map .ok

def prepare : SectionPayload → Json → Except Failure Json
  | channels _ => ensureChannels
  | _ => .ok

def assign : SectionPayload → List (String × String) × Except Failure Unit
  | agent payload => setVariables payload
  | _ => ([], .ok ())

def done : SectionPayload → String
  | channels _ => "Channels saved and applied."
  | settings _ => "Settings saved and applied."
  | agent _ => "Agent config saved and applied."

theorem save_eq (serde : Readers) (files : FileAccess) (payload : SectionPayload) (s : Process) :
    payload.save serde files s =
      saveSections serde files (payload.edits s.panel.config) payload.prepare payload.assign
        payload.done s := by
  cases payload <;> rfl

section Touched

def parent : SectionPayload → List String
  | channels _ => ["channels"]
  | settings _ => []
  | agent _ => ["agent"]

def names : SectionPayload → List String
  | channels payload =>
    (payload.telegram.toList.map fun _ ↦ "telegram") ++
      (payload.slack.toList.map fun _ ↦ "slack") ++
      (payload.whatsapp.toList.map fun _ ↦ "whatsapp") ++
      (payload.discord.toList.map fun _ ↦ "discord") ++
      (payload.matrix.toList.map fun _ ↦ "matrix")
  | settings _ => ["memory", "rag"]
  | agent payload => "model" :: payload.cloudProvider.toList.map fun _ ↦ "cloud_provider"

def place (payload : SectionPayload) (name : String) : List Step := keyPath (payload.parent ++ [name])

def places (payload : SectionPayload) : List (List Step) := payload.names.map payload.place

def sectionGiven (place : List String) (enabled : Bool) (fields : List (List String × Bool)) :
    List (List Step) :=
  if enabled then
    (fields.filter fun field ↦ field.2).map fun field ↦ keyPath (place ++ field.1)
  else [keyPath place]

def isGiven (token : Option String) : Bool := token.any fun token ↦ !token.isEmpty

/-- The fields that the payload gives a value for. An empty token is none. -/
def given : SectionPayload → List (List Step)
  | channels payload =>
    (payload.telegram.toList.flatMap fun tg ↦
      sectionGiven ["channels", "telegram"] tg.enabled
        [(["enabled"], true), (["botToken"], isGiven tg.botToken),
          (["dmPolicy"], tg.dmPolicy.isSome), (["streamMode"], tg.streamMode.isSome)]) ++
    (payload.slack.toList.flatMap fun sl ↦
      sectionGiven ["channels", "slack"] sl.enabled
        [(["enabled"], true), (["botToken"], isGiven sl.botToken),
          (["appToken"], isGiven sl.appToken), (["dmPolicy"], sl.dmPolicy.isSome)]) ++
    (payload.whatsapp.toList.flatMap fun wa ↦
      sectionGiven ["channels", "whatsapp"] wa.enabled
        [(["enabled"], true), (["phoneNumberId"], wa.phoneNumberId.isSome),
          (["accessToken"], isGiven wa.accessToken), (["verifyToken"], wa.verifyToken.isSome),
          (["webhookPath"], wa.webhookPath.isSome)]) ++
    (payload.discord.toList.flatMap fun dc ↦
      sectionGiven ["channels", "discord"] dc.enabled
        [(["enabled"], true), (["botToken"], isGiven dc.botToken),
          (["applicationId"], dc.applicationId.isSome), (["guildIds"], dc.guildIds.isSome)]) ++
    (payload.matrix.toList.flatMap fun mx ↦
      sectionGiven ["channels", "matrix"] mx.enabled
        [(["enabled"], true), (["homeserverUrl"], mx.homeserverUrl.isSome),
          (["accessToken"], isGiven mx.accessToken), (["userId"], mx.userId.isSome),
          (["roomIds"], mx.roomIds.isSome)])
  | settings payload =>
    sectionGiven ["memory"] payload.memoryEnabled
      [(["backend"], payload.memoryBackend.isSome),
        (["embedding", "provider"], payload.memoryEmbeddingProvider.isSome),
        (["embedding", "model"], payload.memoryEmbeddingModel.isSome)] ++
    sectionGiven ["rag"] payload.ragEnabled
      [(["vectorStore"], payload.ragVectorStore.isSome),
        (["embedding", "provider"], payload.ragEmbeddingProvider.isSome),
        (["embedding", "model"], payload.ragEmbeddingModel.isSome),
        (["chunkSize"], payload.ragChunkSize.isSome)]
  | agent payload =>
    sectionGiven ["agent"] true <|
      (["model", "primary"], payload.primary.isSome || payload.modelName.isSome) ::
        (["cloud_provider"], payload.cloudProvider.isSome) ::
          ModelCategory.all.map fun category ↦
            (["model", category.key], (payload.field category).isSome)

def Touches (payload : SectionPayload) (p : List Step) : Prop :=
  (∃ field ∈ payload.given, Comparable p field) ∨ ∃ place ∈ payload.places, p <+: place

end Touched

end SectionPayload

section Saved

variable (P : Primitives) (host : Host) (defaultText : String) (serde : Readers)
  (files : FileAccess) (payload : SectionPayload) (s : Process)

def isOk (answer : Option SaveResponse) : Bool := answer.any fun answer ↦ answer.ok

def Active (s : Process) : Prop :=
  ∃ loaded, (configFormat serde.toSerde { host with var := s.var } defaultText).load s.panel.file =
      .ok loaded ∧
    decryptAtStartup P { host with var := s.var } serde.toSerde loaded = .ok s.panel.config

structure SavesSection (answer : Option SaveResponse) (s' : Process) : Prop where
  onlyTouched : isOk answer = true → ∃ old new, parseDocument serde s.panel.file = .ok old ∧
    parseDocument serde s'.panel.file = .ok new ∧
    ∀ p, ¬ payload.Touches p → new.valueAt p = old.valueAt p
  active : isOk answer = true → Active P host defaultText serde s'
  unchanged : isOk answer = false → s' = s

/-- The document with the sections put in is there: nothing has been refused so far. -/
structure Reaches (old : Json) (edits : List Edit) (document : Json) : Prop where
  configPath : s.panel.configPath.isSome
  checked : payload.edits s.panel.config = .ok (edits.map .ok)
  read : files.read = .ok ()
  parsed : parseDocument serde s.panel.file = .ok old
  applied : ∃ base, payload.prepare old = .ok base ∧ Edit.applyAll edits base = some document

/-- No variable is refused, and the file can be written. -/
def Finishes : Prop := payload.assign.2 = .ok () ∧ files.write = .ok ()

structure KeepsRest (old : Json) (edits : List Edit) : Prop where
  sections : ∀ edit ∈ edits, ∀ rest, ¬ payload.Touches (edit.target ++ rest) →
    edit.value.bind (valueAt rest) = old.valueAt (edit.target ++ rest)
  named : payload.places = [] → (old.get "channels").isSome

structure TakenAsWritten (var : String → Option String) (document : Json) : Prop where
  plain : ∀ name ∈ captures (serde.toStringPretty document).toList, var (String.ofList name) = none
  config : ∃ config, serde.fromValue document = .ok config ∧ validateRunner config = .ok config ∧
    hasEncryptedValues config.toValue = false

/-- A save leaves alone what the payload says nothing about. -/
structure LeavesRest : Prop where
  keepsRest : ∀ old edits document, Reaches serde files payload s old edits document →
    Finishes files payload → KeepsRest payload old edits
  alreadySet : ∀ old edits document, Reaches serde files payload s old edits document →
    ¬ Finishes files payload → ∀ x ∈ payload.assign.1, s.var x.1 = some x.2

structure CarefulSave : Prop extends LeavesRest serde files payload s where
  takenAsWritten : ∀ old edits document, Reaches serde files payload s old edits document →
    Finishes files payload → TakenAsWritten serde (s.setVars payload.assign.1).var document

structure ReadsBack (document : Json) : Prop where
  fromStr : serde.fromStr (serde.toStringPretty document) = .ok document
  readConfig : ∀ config, serde.fromValue document = .ok config →
    serde.readConfig (serde.toStringPretty document) = .ok config

end Saved

section Targets

variable {payload : SectionPayload} {edits : List Edit} {config : GatewayConfig}

theorem not_comparable_keyPath {keys keys' : List String} (hlen : keys.length = keys'.length)
    (hne : keys ≠ keys') : ¬ Comparable (keyPath keys) (keyPath keys') := by
  have hpaths : (keyPath keys).length = (keyPath keys').length := by simpa [keyPath] using hlen
  have hinj : keyPath keys = keyPath keys' → keys = keys' := by
    intro heq
    exact List.map_injective_iff.mpr (fun _ _ h ↦ by injection h) heq
  intro h
  rcases h with h | h
  · exact hne (hinj (h.eq_of_length hpaths))
  · exact hne (hinj (h.eq_of_length hpaths.symm).symm)

theorem target_channelEdit (channel : String) (value : Option Json) :
    (channelEdit channel value).target = keyPath ["channels", channel] := by
  cases value <;> rfl

theorem targets_of_map {sections : List (String × Except String (Option Json))}
    (h : (sections.map fun x ↦ x.2.map (channelEdit x.1)) = edits.map Except.ok) :
    edits.map Edit.target = sections.map fun x ↦ keyPath ["channels", x.1] := by
  induction sections generalizing edits with
  | nil =>
    obtain rfl := List.map_eq_nil_iff.mp h.symm
    rfl
  | cons x sections ih =>
    cases edits with
    | nil => cases h
    | cons edit edits =>
      obtain ⟨channel, answer⟩ := x
      obtain ⟨hedit, hedits⟩ := List.cons_eq_cons.mp h
      rw [List.map_cons, List.map_cons, ih hedits]
      congr 1
      cases answer with
      | error message => cases hedit
      | ok value => rw [← Except.ok.inj hedit, target_channelEdit]

theorem map_ok_injective : Function.Injective (List.map (Except.ok : Edit → Except String Edit)) :=
  List.map_injective_iff.mpr fun _ _ h ↦ Except.ok.inj h

theorem targets_eq (h : payload.edits config = .ok (edits.map .ok)) :
    edits.map Edit.target = payload.places := by
  cases payload with
  | channels payload =>
    rw [targets_of_map (Except.ok.inj h), channelSections, SectionPayload.places,
      SectionPayload.names]
    simp only [List.map_append, List.map_map]
    rfl
  | settings payload =>
    cases hcheck : checkSettings payload with
    | error message =>
      rw [SectionPayload.edits, hcheck] at h
      cases h
    | ok =>
      rw [SectionPayload.edits, hcheck] at h
      rw [← map_ok_injective (Except.ok.inj h)]
      rfl
  | agent payload =>
    cases hprimary : primaryId payload with
    | error message =>
      rw [SectionPayload.edits, hprimary] at h
      cases h
    | ok primaryId =>
      rw [SectionPayload.edits, hprimary] at h
      rw [← map_ok_injective (Except.ok.inj h), agentEdits, SectionPayload.places,
        SectionPayload.names]
      simp only [List.map_cons, List.map_map]
      rfl

theorem nodup_names (payload : SectionPayload) : payload.names.Nodup := by
  cases payload with
  | channels payload =>
    have hone : ∀ {α : Type} (x : Option α) (name : String),
        (x.toList.map fun _ ↦ name).Sublist [name] := by
      intro α x name
      cases x <;> simp
    have hsub : (SectionPayload.names (.channels payload)).Sublist
        ["telegram", "slack", "whatsapp", "discord", "matrix"] := by
      exact ((((hone _ _).append (hone _ _)).append (hone _ _)).append (hone _ _)).append (hone _ _)
    exact hsub.nodup (by decide)
  | settings payload => simp [SectionPayload.names]
  | agent payload =>
    rw [SectionPayload.names]
    cases payload.cloudProvider <;> simp

theorem pairwise_apart (h : payload.edits config = .ok (edits.map .ok)) :
    edits.Pairwise fun e e' ↦ ¬ Comparable e.target e'.target := by
  rw [← List.pairwise_map (f := Edit.target) (R := fun p q ↦ ¬ Comparable p q), targets_eq h,
    SectionPayload.places, List.pairwise_map]
  refine (nodup_names payload).imp ?_
  intro name name' hne
  refine not_comparable_keyPath (by simp) ?_
  simpa using hne

end Targets

section Run

variable {serde : Readers} {files : FileAccess} {payload : SectionPayload} {s : Process}
  {old base document : Json} {edits : List Edit}

theorem applyEdits_eq_ok_iff {checked : List (Except String Edit)} :
    applyEdits checked base = .ok document ↔
      ∃ edits, checked = edits.map .ok ∧ Edit.applyAll edits base = some document := by
  induction checked generalizing base with
  | nil =>
    constructor
    · intro h
      exact ⟨[], rfl, congrArg some (Except.ok.inj h)⟩
    · rintro ⟨edits, hedits, happly⟩
      obtain rfl := List.map_eq_nil_iff.mp hedits.symm
      exact congrArg Except.ok (Option.some_inj.mp happly)
  | cons answer checked ih =>
    cases answer with
    | error message =>
      refine iff_of_false (fun h ↦ ?_) ?_
      · cases h
      · rintro ⟨edits, hedits, -⟩
        cases edits with
        | nil => cases hedits
        | cons edit edits => cases (List.cons_eq_cons.mp hedits).1
    | ok edit =>
      rw [applyEdits]
      cases happly : edit.apply base with
      | none =>
        refine iff_of_false (fun h ↦ ?_) ?_
        · cases h
        · rintro ⟨edits, hedits, happlied⟩
          cases edits with
          | nil => cases hedits
          | cons edit' edits =>
            obtain rfl := Except.ok.inj (List.cons_eq_cons.mp hedits).1
            obtain ⟨base', hbase', -⟩ := Option.bind_eq_some_iff.mp happlied
            cases happly.symm.trans hbase'
      | some base' =>
        rw [ih]
        constructor
        · rintro ⟨edits, rfl, happlied⟩
          exact ⟨edit :: edits, rfl, Option.bind_eq_some_iff.mpr ⟨base', happly, happlied⟩⟩
        · rintro ⟨edits, hedits, happlied⟩
          cases edits with
          | nil => cases hedits
          | cons edit' edits =>
            obtain ⟨hedit, hchecked⟩ := List.cons_eq_cons.mp hedits
            obtain rfl := Except.ok.inj hedit
            obtain ⟨base'', hbase'', hrest⟩ := Option.bind_eq_some_iff.mp happlied
            obtain rfl := Option.some_inj.mp (happly.symm.trans hbase'')
            exact ⟨edits, hchecked, hrest⟩

theorem not_isOk_answer (failure : Failure) : isOk failure.answer = false := by
  cases failure <;> rfl

theorem Reaches.unique {old' document' : Json} {edits' : List Edit}
    (h : Reaches serde files payload s old edits document)
    (h' : Reaches serde files payload s old' edits' document') :
    old' = old ∧ edits' = edits ∧ document' = document := by
  obtain rfl := Except.ok.inj (h.parsed.symm.trans h'.parsed)
  obtain rfl := map_ok_injective (Except.ok.inj (h.checked.symm.trans h'.checked))
  obtain ⟨base, hbase, happly⟩ := h.applied
  obtain ⟨base', hbase', happly'⟩ := h'.applied
  obtain rfl := Except.ok.inj (hbase.symm.trans hbase')
  exact ⟨rfl, rfl, (Option.some_inj.mp (happly.symm.trans happly')).symm⟩

def readStrictly (serde : Serde) (document : Json) (config : GatewayConfig) : GatewayConfig :=
  match (serde.fromStr (serde.toStringPretty document)).bind serde.fromValue with
  | .ok config => config
  | .error _ => config

theorem save_cases (serde : Readers) (files : FileAccess) (payload : SectionPayload) (s : Process) :
    (∃ old edits document, Reaches serde files payload s old edits document ∧
      Finishes files payload ∧ isOk (payload.save serde files s).1 = true ∧
      (payload.save serde files s).2 =
        { s.setVars payload.assign.1 with
          panel := { s.panel with
            config := readStrictly serde.toSerde document s.panel.config
            file := serde.toStringPretty document } }) ∨
    (∃ old edits document, Reaches serde files payload s old edits document ∧
      ¬ Finishes files payload ∧ isOk (payload.save serde files s).1 = false ∧
      (payload.save serde files s).2 = s.setVars payload.assign.1) ∨
    ((∀ old edits document, ¬ Reaches serde files payload s old edits document) ∧
      isOk (payload.save serde files s).1 = false ∧ (payload.save serde files s).2 = s) := by
  rw [SectionPayload.save_eq]
  unfold saveSections
  cases hpath : s.panel.configPath with
  | none =>
    refine .inr (.inr ⟨fun old edits document h ↦ ?_, rfl, rfl⟩)
    have hsome := h.configPath
    rw [hpath] at hsome
    cases hsome
  | some path =>
    cases hedits : payload.edits s.panel.config with
    | error message =>
      refine .inr (.inr ⟨fun old edits document h ↦ ?_, rfl, rfl⟩)
      cases hedits.symm.trans h.checked
    | ok checked =>
      cases hread : files.read with
      | error e =>
        refine .inr (.inr ⟨fun old edits document h ↦ ?_, rfl, rfl⟩)
        cases hread.symm.trans h.read
      | ok =>
        cases hparsed : parseDocument serde s.panel.file with
        | error e =>
          refine .inr (.inr ⟨fun old edits document h ↦ ?_, rfl, rfl⟩)
          cases hparsed.symm.trans h.parsed
        | ok old =>
          dsimp only
          cases happlied : (payload.prepare old).bind (applyEdits checked) with
          | error failure =>
            refine .inr (.inr ⟨fun old' edits document h ↦ ?_, not_isOk_answer failure, rfl⟩)
            obtain rfl := Except.ok.inj (hparsed.symm.trans h.parsed)
            obtain ⟨base, hbase, happly⟩ := h.applied
            rw [hbase, Except.ok.inj (hedits.symm.trans h.checked)] at happlied
            cases (applyEdits_eq_ok_iff.mpr ⟨edits, rfl, happly⟩).symm.trans happlied
          | ok document =>
            have hreaches : ∃ edits, Reaches serde files payload s old edits document := by
              cases hbase : payload.prepare old with
              | error failure =>
                rw [hbase] at happlied
                cases happlied
              | ok base =>
                rw [hbase] at happlied
                obtain ⟨edits, rfl, happly⟩ := applyEdits_eq_ok_iff.mp happlied
                exact ⟨edits, by rw [hpath]; rfl, hedits, hread, hparsed, base, hbase, happly⟩
            obtain ⟨edits, hreaches⟩ := hreaches
            dsimp only
            cases hassign : payload.assign.2 with
            | error failure =>
              refine .inr (.inl ⟨old, edits, document, hreaches, ?_, not_isOk_answer failure, rfl⟩)
              intro h
              cases hassign.symm.trans h.1
            | ok =>
              dsimp only
              rw [writeDocument]
              cases hwrite : files.write with
              | error e =>
                refine .inr (.inl ⟨old, edits, document, hreaches, ?_, rfl, rfl⟩)
                intro h
                cases hwrite.symm.trans h.2
              | ok => exact .inl ⟨old, edits, document, hreaches, ⟨hassign, hwrite⟩, rfl, rfl⟩

end Run

end AdkGateway.ControlPanel
