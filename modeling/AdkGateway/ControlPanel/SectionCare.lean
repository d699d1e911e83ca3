import AdkGateway.ControlPanel.SectionSaves
import AdkGateway.Startup.ReloadedConfig

namespace AdkGateway.ControlPanel

open ConfigWatcher hiding Step
open Encryption Foundation Json Startup

section Assignments

variable {κ ν : Type} [DecidableEq κ] {f : κ → Option ν} {xs : List (κ × ν)}

theorem foldl_update_of_not_mem {key : κ} (h : key ∉ xs.map Prod.fst) :
    xs.foldl (fun (f : κ → Option ν) x ↦ Function.update f x.1 (some x.2)) f key = f key := by
  induction xs generalizing f with
  | nil => rfl
  | cons x xs ih =>
    rw [List.map_cons, List.mem_cons, not_or] at h
    obtain ⟨hne, hrest⟩ := h
    rw [List.foldl_cons, ih hrest, Function.update_of_ne hne]

/-- If each variable is set once, nothing is changed just if all have the value already. -/
theorem foldl_update_eq_self_iff (h : (xs.map Prod.fst).Nodup) :
    xs.foldl (fun (f : κ → Option ν) x ↦ Function.update f x.1 (some x.2)) f = f ↔
      ∀ x ∈ xs, f x.1 = some x.2 := by
  induction xs generalizing f with
  | nil => simp
  | cons x xs ih =>
    obtain ⟨hnew, hrest⟩ := List.nodup_cons.mp h
    rw [List.foldl_cons, List.forall_mem_cons]
    constructor
    · intro hself
      have hx : f x.1 = some x.2 := by
        rw [← congrFun hself x.1, foldl_update_of_not_mem hnew, Function.update_self]
      rw [← hx, Function.update_eq_self] at hself
      exact ⟨hx, (ih hrest).mp hself⟩
    · rintro ⟨hx, hxs⟩
      rw [← hx, Function.update_eq_self]
      exact (ih hrest).mpr hxs

theorem setKeys_sublist (apiKeys : KeyedMap String String) (rest : List (String × String)) :
    ((setKeys apiKeys rest).1.map Prod.fst).Sublist (rest.flatMap fun x ↦ keyVars x.1 x.2) := by
  induction rest with
  | nil => exact List.Sublist.refl _
  | cons x rest ih =>
    obtain ⟨providerId, envVar⟩ := x
    rw [setKeys, List.flatMap_cons]
    cases (apiKeys.lookup providerId).filter fun key ↦ !envVar.isEmpty && !key.isEmpty with
    | none => exact ih.trans (List.sublist_append_right _ _)
    | some key =>
      dsimp only
      split
      · exact List.nil_sublist _
      · have hkeys : ((keyVars providerId envVar).map (·, key)).map Prod.fst =
            keyVars providerId envVar := by
          simp [Function.comp_def]
        rw [List.map_append, hkeys]
        exact (List.Sublist.refl _).append ih

theorem setBaseUrl_sublist (baseUrl : Option String) :
    ((setBaseUrl baseUrl).1.map Prod.fst).Sublist ["OPENAI_COMPATIBLE_BASE_URL"] := by
  rw [setBaseUrl]
  split
  · exact List.nil_sublist _
  · split
    · exact List.nil_sublist _
    · split
      · exact List.nil_sublist _
      · exact List.Sublist.refl _

theorem nodup_assign (payload : SectionPayload) : (payload.assign.1.map Prod.fst).Nodup := by
  cases payload with
  | agent payload =>
    have hsub : ((setVariables payload).1.map Prod.fst).Sublist
        ((providers.flatMap fun x ↦ keyVars x.1 x.2) ++ ["OPENAI_COMPATIBLE_BASE_URL"]) := by
      have hkeys := setKeys_sublist payload.apiKeys providers
      rw [setVariables]
      split
      · next assigned failure heq =>
        rw [heq] at hkeys
        exact hkeys.trans (List.sublist_append_left _ _)
      · next assigned heq =>
        rw [heq] at hkeys
        rw [List.map_append]
        exact hkeys.append (setBaseUrl_sublist _)
    exact hsub.nodup (by decide)
  | _ => exact List.nodup_nil

theorem setVars_eq_self_iff {payload : SectionPayload} {s : Process} :
    s.setVars payload.assign.1 = s ↔ ∀ x ∈ payload.assign.1, s.var x.1 = some x.2 := by
  rw [← foldl_update_eq_self_iff (nodup_assign payload)]
  constructor
  · intro h
    exact congrArg Process.var h
  · intro h
    rw [Process.setVars, h]

end Assignments

section Sections

variable {serde : Readers} {files : FileAccess} {payload : SectionPayload} {s : Process}
  {old base document : Json} {edits : List Edit}

theorem prepare_spec (h : payload.prepare old = .ok base) :
    base = old ∧ (payload.places = [] → (old.get "channels").isSome) ∨
    payload.parent = ["channels"] ∧ old.get "channels" = none ∧
      base.get "channels" = some (.object []) ∧
      ∀ p, ¬ p <+: keyPath ["channels"] → base.valueAt p = old.valueAt p := by
  cases payload with
  | channels payload =>
    rw [SectionPayload.prepare, ensureChannels] at h
    cases hget : old.get "channels" with
    | some channels =>
      rw [hget] at h
      exact .inl ⟨(Except.ok.inj h).symm, fun _ ↦ rfl⟩
    | none =>
      rw [hget, Option.isNone_none, if_pos rfl, applyEdits_eq_ok_iff] at h
      obtain ⟨edits, hedits, happly⟩ := h
      have hput : edits = [.put ["channels"] (.object [])] :=
        map_ok_injective (hedits.symm : _ = List.map Except.ok [Edit.put ["channels"] (.object [])])
      rw [hput, Edit.applyAll, List.foldlM_cons] at happly
      obtain ⟨base', hbase, hsame⟩ := Option.bind_eq_some_iff.mp happly
      obtain rfl := Option.some_inj.mp hsame
      have hvalue : ∀ rest, base'.valueAt (keyPath ["channels"] ++ rest) =
          (Json.object []).valueAt rest := Edit.valueAt_apply hbase
      refine .inr ⟨rfl, rfl, ?_, ?_⟩
      · have hempty := hvalue []
        rwa [List.append_nil, valueAt_keyPath_singleton] at hempty
      · intro p hp
        by_cases hcomparable : Comparable p (keyPath ["channels"])
        · rcases hcomparable with hbefore | ⟨rest, rfl⟩
          · exact absurd hbefore hp
          · cases rest with
            | nil => exact absurd (by simp) hp
            | cons step rest =>
              rw [hvalue, valueAt_append, valueAt_keyPath_singleton, hget]
              cases step <;> rfl
        · exact Edit.valueAt_apply_of_apart hbase hcomparable
  | _ => exact .inl ⟨(Except.ok.inj h).symm, fun hplaces ↦ by cases hplaces⟩

theorem Touches.of_place {name : String} (hname : name ∈ payload.names) {p : List Json.Step}
    (hp : p <+: payload.place name) : payload.Touches p :=
  .inr ⟨payload.place name, List.mem_map_of_mem hname, hp⟩

theorem given_of_not_named (h : payload.places = []) : payload.given = [] := by
  have hnames := List.map_eq_nil_iff.mp h
  cases payload with
  | channels payload =>
    obtain ⟨telegram, slack, whatsapp, discord, matrix⟩ := payload
    simp only [SectionPayload.names, List.append_eq_nil_iff, List.map_eq_nil_iff,
      Option.toList_eq_nil_iff] at hnames
    obtain ⟨⟨⟨⟨rfl, rfl⟩, rfl⟩, rfl⟩, rfl⟩ := hnames
    rfl
  | _ => cases hnames

theorem valueAt_base (h : payload.prepare old = .ok base)
    (hnamed : payload.places = [] → (old.get "channels").isSome) {p : List Json.Step}
    (hp : ¬ payload.Touches p) : base.valueAt p = old.valueAt p := by
  rcases prepare_spec h with ⟨rfl, -⟩ | ⟨hparent, hmissing, -, hother⟩
  · rfl
  · apply hother
    intro hbefore
    have hplaces : payload.names ≠ [] := by
      intro hnames
      have hthere := hnamed (by rw [SectionPayload.places, hnames, List.map_nil])
      rw [hmissing] at hthere
      cases hthere
    obtain ⟨name, hname⟩ := List.exists_mem_of_ne_nil _ hplaces
    refine hp (Touches.of_place hname (hbefore.trans ⟨keyPath [name], ?_⟩))
    rw [SectionPayload.place, hparent, keyPath, keyPath, keyPath, ← List.map_append]

theorem onlyTouched_iff (h : Reaches serde files payload s old edits document) :
    (∀ p, ¬ payload.Touches p → document.valueAt p = old.valueAt p) ↔
      KeepsRest payload old edits := by
  obtain ⟨base, hbase, happly⟩ := h.applied
  obtain ⟨hvalues, hframe⟩ := Edit.applyAll_spec happly (pairwise_apart h.checked)
  have htargets := targets_eq h.checked
  constructor
  · intro honly
    refine ⟨fun edit hedit rest hrest ↦ ?_, fun hplaces ↦ ?_⟩
    · rw [← hvalues edit hedit rest, honly _ hrest]
    · rw [hplaces, List.map_eq_nil_iff] at htargets
      rw [htargets] at happly
      obtain rfl := Option.some_inj.mp happly
      rcases prepare_spec hbase with ⟨-, hthere⟩ | ⟨-, hmissing, hput, -⟩
      · exact hthere hplaces
      · have huntouched : ¬ payload.Touches (keyPath ["channels"]) := by
          rintro (⟨field, hfield, -⟩ | ⟨place, hplace, -⟩)
          · rw [given_of_not_named hplaces] at hfield
            cases hfield
          · rw [hplaces] at hplace
            cases hplace
        have hsame := honly _ huntouched
        rw [valueAt_keyPath_singleton, valueAt_keyPath_singleton, hput, hmissing] at hsame
        cases hsame
  · intro hkeeps p hp
    by_cases hsection : ∃ edit ∈ edits, Comparable p edit.target
    · obtain ⟨edit, hedit, hbefore | ⟨rest, rfl⟩⟩ := hsection
      · have hplace : edit.target ∈ payload.places := htargets ▸ List.mem_map_of_mem hedit
        exact absurd (.inr ⟨edit.target, hplace, hbefore⟩) hp
      · rw [hvalues edit hedit rest]
        exact hkeeps.sections edit hedit rest hp
    · have hapart : ∀ edit ∈ edits, ¬ Comparable p edit.target := by
        intro edit hedit hcomparable
        exact hsection ⟨edit, hedit, hcomparable⟩
      rw [hframe p hapart]
      exact valueAt_base hbase hkeeps.named hp

end Sections

section Taken

theorem expandEnvVars_of_unset {host : Host} {input : List Char}
    (h : ∀ name ∈ captures input, host.var (String.ofList name) = none) :
    expandEnvVars host input = input := by
  have hfold : ∀ (names : List (List Char)) (text : List Char),
      (∀ name ∈ names, host.var (String.ofList name) = none) →
        names.foldl (expandName host) text = text := by
    intro names text hnames
    induction names with
    | nil => rfl
    | cons name names ih =>
      obtain ⟨hname, hrest⟩ := List.forall_mem_cons.mp hnames
      rw [List.foldl_cons, expandName, hname]
      exact ih hrest
  exact hfold _ _ h

variable {P : Primitives} {host : Host} {defaultText : String} {serde : Readers}
  {files : FileAccess} {payload : SectionPayload} {s : Process} {document : Json}

theorem active_of_taken (hback : ReadsBack serde document) (h : TakenAsWritten serde s.var document)
    (hfile : s.panel.file = serde.toStringPretty document) {config : GatewayConfig}
    (hconfig : s.panel.config = readStrictly serde.toSerde document config) :
    Active P host defaultText serde s := by
  obtain ⟨read, hread, hrunner, hplain⟩ := h.config
  have hactive : s.panel.config = read := by
    rw [hconfig, readStrictly, hback.fromStr, Except.bind, hread]
  have hparse : (configFormat serde.toSerde { host with var := s.var } defaultText).parse
      s.panel.file = .ok read := by
    have hexpand : expandEnvVars { host with var := s.var }
        (serde.toStringPretty document).toList = (serde.toStringPretty document).toList :=
      expandEnvVars_of_unset h.plain
    simp only [configFormat, hfile, hexpand, String.ofList_toList]
    exact hback.readConfig read hread
  refine ⟨read, ?_, ?_⟩
  · rw [ConfigFormat.load, hparse]
    exact hrunner
  · rw [hactive]
    exact decryptAtStartup_of_plain hplain

/-- A careful payload is saved with no more than it says, and at once active; and only such a one
leaves all else alone. -/
theorem savesSection_careful (P : Primitives) (host : Host) (defaultText : String)
    (hback : ∀ old edits document, Reaches serde files payload s old edits document →
      Finishes files payload → ReadsBack serde document) :
    (CarefulSave serde files payload s → SavesSection P host defaultText serde payload s
      (payload.save serde files s).1 (payload.save serde files s).2) ∧
    (SavesSection P host defaultText serde payload s (payload.save serde files s).1
      (payload.save serde files s).2 → LeavesRest serde files payload s) := by
  rcases save_cases serde files payload s with
    ⟨old, edits, document, hreaches, hfinishes, hok, hsave⟩ |
    ⟨old, edits, document, hreaches, hstops, hok, hsave⟩ | ⟨hnever, hok, hsave⟩
  · have hread := hback old edits document hreaches hfinishes
    have hnew : parseDocument serde (serde.toStringPretty document) = .ok document := by
      rw [parseDocument, hread.fromStr]
    rw [hsave]
    constructor
    · intro hcareful
      refine ⟨fun _ ↦ ⟨old, document, hreaches.parsed, hnew, ?_⟩, fun _ ↦ ?_, fun hfailed ↦ ?_⟩
      · exact (onlyTouched_iff hreaches).mpr (hcareful.keepsRest old edits document hreaches hfinishes)
      · exact active_of_taken hread (hcareful.takenAsWritten old edits document hreaches hfinishes)
          rfl rfl
      · cases hok.symm.trans hfailed
    · intro hsaves
      refine ⟨fun old' edits' document' hreaches' _ ↦ ?_, fun _ _ _ _ hstops ↦ absurd hfinishes hstops⟩
      obtain ⟨rfl, rfl, rfl⟩ := hreaches.unique hreaches'
      obtain ⟨old', new, hold, hnew', honly⟩ := hsaves.onlyTouched hok
      obtain rfl := Except.ok.inj (hreaches.parsed.symm.trans hold)
      obtain rfl := Except.ok.inj (hnew.symm.trans hnew')
      exact (onlyTouched_iff hreaches).mp honly
  · rw [hsave]
    constructor
    · intro hcareful
      refine ⟨fun hdone ↦ ?_, fun hdone ↦ ?_, fun _ ↦ ?_⟩
      · cases hok.symm.trans hdone
      · cases hok.symm.trans hdone
      · exact setVars_eq_self_iff.mpr (hcareful.alreadySet old edits document hreaches hstops)
    · intro hsaves
      refine ⟨fun _ _ _ _ hfinishes ↦ absurd hfinishes hstops, fun _ _ _ _ _ ↦ ?_⟩
      exact setVars_eq_self_iff.mp (hsaves.unchanged hok)
  · rw [hsave]
    constructor
    · intro _
      refine ⟨fun hdone ↦ ?_, fun hdone ↦ ?_, fun _ ↦ rfl⟩
      · cases hok.symm.trans hdone
      · cases hok.symm.trans hdone
    · intro _
      exact ⟨fun old edits document hreaches ↦ absurd hreaches (hnever old edits document),
        fun old edits document hreaches ↦ absurd hreaches (hnever old edits document)⟩

end Taken

section Keys

def agentPayload (apiKeys : KeyedMap String String) : SectionPayload :=
  .agent ⟨none, none, none, apiKeys, some (.string "openai/gpt-4o"), none, none, none, none, none, none,
    none, none, none, none⟩

def agentDocument : Json :=
  .object [("agent", .object [("model", .object [("primary", .string "openai/gpt-4o")])])]

def agentText : String :=
  String.ofList (Replace.render '"' String.toList (prettyPieces 0 agentDocument))

def agentConfig : GatewayConfig :=
  { GatewayConfig.default with agent := .object [("model", .string "openai/gpt-4o")] }

def agentReadings : Readers where
  pieces := prettyPieces 0
  escapeChar c := [c]
  fromStr content :=
    if content = "\x7b\x7d" then .ok (.object [])
    else if content = agentText then .ok agentDocument
    else .error "expected value"
  readConfig content :=
    if content = "\x7b\x7d" then .ok .default
    else if content = agentText then .ok agentConfig
    else .error "expected a value"
  readContent := some
  fromValue document := if document = agentDocument then .ok agentConfig else .error "not the document"
  readValue _ := .error "expected a value"

def emptyProcess : Process := ⟨⟨some "gateway.json", .default, "\x7b\x7d"⟩, fun _ ↦ none⟩

def freeAccess : FileAccess := ⟨.ok (), .ok ()⟩

def anthropicKey : KeyedMap String String := AList.singleton "anthropic" "sk-ant"

theorem reaches_agentDocument : Reaches agentReadings freeAccess (agentPayload anthropicKey)
    emptyProcess (.object []) [.put ["agent", "model"] (.object [("primary", .string "openai/gpt-4o")])]
    agentDocument :=
  ⟨rfl, rfl, rfl, rfl, .object [], rfl, rfl⟩

theorem readsBack_agentDocument : ReadsBack agentReadings agentDocument := by
  have hne : agentText ≠ "\x7b\x7d" := by decide +kernel
  have htext : agentReadings.toStringPretty agentDocument = agentText := by decide +kernel
  refine ⟨?_, fun config hconfig ↦ ?_⟩
  · rw [htext]
    simp only [agentReadings, if_neg hne, if_true]
  · rw [htext]
    simp only [agentReadings, if_true] at hconfig
    simp only [agentReadings, if_neg hne, if_true]
    exact hconfig

theorem savesSection_careful_anthropic :
    (CarefulSave agentReadings freeAccess (agentPayload anthropicKey) emptyProcess →
      SavesSection twoVectors zeroHost "" agentReadings (agentPayload anthropicKey) emptyProcess
        ((agentPayload anthropicKey).save agentReadings freeAccess emptyProcess).1
        ((agentPayload anthropicKey).save agentReadings freeAccess emptyProcess).2) ∧
    (SavesSection twoVectors zeroHost "" agentReadings (agentPayload anthropicKey) emptyProcess
        ((agentPayload anthropicKey).save agentReadings freeAccess emptyProcess).1
        ((agentPayload anthropicKey).save agentReadings freeAccess emptyProcess).2 →
      LeavesRest agentReadings freeAccess (agentPayload anthropicKey) emptyProcess) := by
  refine savesSection_careful twoVectors zeroHost "" ?_
  intro old edits document hreaches _
  obtain ⟨rfl, rfl, rfl⟩ := reaches_agentDocument.unique hreaches
  exact readsBack_agentDocument

/-- The key of one provider stays set when the key of the next one is refused. -/
theorem not_savesSection : ¬ ∀ (P : Primitives) (host : Host) (defaultText : String)
    (serde : Readers) (files : FileAccess) (payload : SectionPayload) (s : Process),
    (∃ config, (configFormat serde.toSerde { host with var := s.var } defaultText).load
      s.panel.file = .ok config) →
    (∀ old edits document, Reaches serde files payload s old edits document →
      Finishes files payload → ReadsBack serde document) →
    SavesSection P host defaultText serde payload s (payload.save serde files s).1
      (payload.save serde files s).2 := by
  intro h
  have hload : (configFormat agentReadings.toSerde { zeroHost with var := emptyProcess.var } "").load
      emptyProcess.panel.file = .ok .default := rfl
  have hrefused : ¬ Finishes freeAccess (agentPayload (anthropicKey.insert "openai" "sk\n")) := by
    intro hfinishes
    cases hfinishes.1
  have hsame := (h twoVectors zeroHost "" agentReadings freeAccess
    (agentPayload (anthropicKey.insert "openai" "sk\n")) emptyProcess ⟨_, hload⟩
    fun _ _ _ _ hfinishes ↦ absurd hfinishes hrefused).unchanged (by decide +kernel)
  have hset : ((agentPayload (anthropicKey.insert "openai" "sk\n")).save agentReadings freeAccess
      emptyProcess).2.var "ANTHROPIC_API_KEY" = some "sk-ant" := by
    decide +kernel
  rw [hsame] at hset
  cases hset

end Keys

end AdkGateway.ControlPanel
