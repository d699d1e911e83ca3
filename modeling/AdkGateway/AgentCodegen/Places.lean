import AdkGateway.AgentCodegen.Source

namespace AdkGateway.AgentCodegen

open Foundation Foundation.SourceText

section Statement

def Faithful : Place → List Fragment → List Char → Prop
  | _, [], _ => True
  | place, .template text :: rest, after => Faithful (scan place text.toList) rest after
  | place, .field value escape :: rest, after =>
    Stands place value.toList (emitted value escape) (render rest ++ after) ∧
      Faithful place rest after
  | place, .number _ :: rest, after => place = .code ∧ Faithful place rest after

def TomlFaithful : Bool → List Fragment → Prop
  | _, [] => True
  | inside, .template text :: rest => TomlFaithful (insideString inside text.toList) rest
  | inside, .field value escape :: rest =>
    inside = true ∧ StandsInToml value.toList (emitted value escape) (render rest) ∧
      TomlFaithful inside rest
  | inside, .number _ :: rest => inside = false ∧ TomlFaithful inside rest

/-- What is generated for an agent: the server is where the loop was, with all else as it was, and
each text of the configuration is in a comment, or in a literal that is read as the text. -/
structure CodegenRight (adkCrateRoot : Option String) (config : AgentConfig) : Prop where
  replaced : injectA2aServer (generateMainRs (toProjectSchema adkCrateRoot config)) config =
    render (beforeLoop (toProjectSchema adkCrateRoot config)) ++
      (render (serverCode config) ++ '\n' :: afterLoop.toList)
  stands : Faithful .code (beforeLoop (toProjectSchema adkCrateRoot config) ++ serverCode config)
    ('\n' :: afterLoop.toList)
  cargo : TomlFaithful false (generateCargoToml (toProjectSchema adkCrateRoot config))

def configured (config : AgentConfig) : List String :=
  [config.id, config.name, config.description, config.model, config.instruction,
    config.apiKeyEnv] ++
  (config.tools ++ config.actionNodes.flatMap fun node ↦ [node.id, configText node])

/-- The texts that are put in as they are have nothing special where they are put, and none of them
has a marker of the loop. -/
structure FieldsFit (config : AgentConfig) : Prop where
  id : ∀ c ∈ config.id.toList, toml.plain c = true
  name : '\n' ∉ config.name.toList ∧ '\r' ∉ config.name.toList
  description : '\r' ∉ config.description.toList
  model : ∀ c ∈ config.model.toList, rust.plain c = true
  instruction : '\r' ∉ config.instruction.toList
  apiKeyEnv : ∀ c ∈ config.apiKeyEnv.toList, rust.plain c = true
  tools : ∀ tool ∈ config.tools, '\n' ∉ tool.toList
  actionNodes : ∀ node ∈ config.actionNodes, '\n' ∉ node.id.toList
  markers : ∀ text ∈ configured config, ¬ stdinLoopMarker.toList <:+: text.toList ∧
    ¬ stdinLoopEndMarker.toList <:+: text.toList

end Statement

section Places

theorem escaped_eq (s : String) : escaped s = s.toList.flatMap Quoting.escape := by
  rw [escaped, replace, replace, List.flatMap_assoc]
  refine List.flatMap_congr fun c _ ↦ ?_
  by_cases hslash : c = '\\'
  · subst hslash
    decide
  by_cases hquote : c = '"'
  · subst hquote
    decide
  simp [Quoting.escape, hslash, hquote]

theorem mem_escaped_iff {c : Char} (hquote : c ≠ '"') (hslash : c ≠ '\\') (s : String) :
    c ∈ escaped s ↔ c ∈ s.toList := by
  rw [escaped_eq, List.mem_flatMap]
  constructor
  · intro h
    obtain ⟨d, hd, hc⟩ := h
    rw [Quoting.escape] at hc
    split_ifs at hc
    · simp only [List.mem_cons, List.not_mem_nil, or_false, hslash, false_or] at hc
      rwa [hc]
    · rwa [List.mem_singleton.mp hc]
  · intro h
    refine ⟨c, h, ?_⟩
    rw [Quoting.escape, if_neg (by tauto)]
    exact List.mem_singleton_self c

theorem rust_plain_iff {c : Char} : rust.plain c = true ↔ c ≠ '"' ∧ c ≠ '\\' ∧ c ≠ '\r' := by
  have hplain : rust.plain c = (c != '"' && c != '\\' && c != '\r') := rfl
  simp [hplain, and_assoc]

variable {cs : List Char} {place : Place} {rest : List Fragment} {after : List Char}

theorem faithful_template_iff (text : String) (place' : Place) (htext : String.ofList cs = text)
    (hplace : scan place cs = place') :
    Faithful place (.template text :: rest) after ↔ Faithful place' rest after := by
  rw [Faithful, ← htext, String.toList_ofList, hplace]

theorem faithful_doc_iff (value : String) :
    Faithful .doc (.field value true :: rest) after ↔
      ('\n' ∉ value.toList ∧ '\r' ∉ value.toList) ∧ Faithful .doc rest after := by
  have hemitted : emitted value true = escaped value := rfl
  rw [Faithful, Stands, hemitted, mem_escaped_iff (by decide) (by decide),
    mem_escaped_iff (by decide) (by decide)]

theorem faithful_comment_iff (value : String) :
    Faithful .comment (.field value false :: rest) after ↔
      '\n' ∉ value.toList ∧ Faithful .comment rest after := by
  have hemitted : emitted value false = value.toList := rfl
  rw [Faithful, Stands, hemitted]

theorem stands_opened_iff (value : List Char) (emitted rest : List Char) :
    Stands .opened value emitted ('"' :: rest) ↔
      rust.read (emitted ++ '"' :: rest) = some (value, rest) := by
  constructor
  · intro h
    obtain ⟨rest', heq, hread⟩ := h
    rw [← (List.cons.inj heq).2] at hread
    exact hread
  · exact fun h ↦ ⟨rest, rfl, h⟩

theorem faithful_opened_iff (value : String) (escape : Bool) (text : String) (place' : Place)
    (htext : String.ofList ('"' :: cs) = text) (hplace : scan .code cs = place') :
    Faithful .opened (.field value escape :: .template text :: rest) after ↔
      rust.read (emitted value escape ++ '"' :: (cs ++ (render rest ++ after))) =
        some (value.toList, cs ++ (render rest ++ after)) ∧ Faithful place' rest after := by
  have hrender : render (.template text :: rest) ++ after =
      '"' :: (cs ++ (render rest ++ after)) := by
    rw [render, List.flatMap_cons, Fragment.text, ← htext, String.toList_ofList]
    simp [render]
  rw [Faithful, hrender, stands_opened_iff, faithful_template_iff text place' htext]
  exact hplace

theorem faithful_plain_iff (value text : String) (place' : Place)
    (htext : String.ofList ('"' :: cs) = text) (hplace : scan .code cs = place') :
    Faithful .opened (.field value false :: .template text :: rest) after ↔
      (∀ c ∈ value.toList, rust.plain c = true) ∧ Faithful place' rest after := by
  have hemitted : emitted value false = value.toList := rfl
  rw [faithful_opened_iff value false text place' htext hplace, hemitted,
    Quoting.read_append_eq_iff]

theorem faithful_escaped_iff (value text : String) (place' : Place)
    (htext : String.ofList ('"' :: cs) = text) (hplace : scan .code cs = place') :
    Faithful .opened (.field value true :: .template text :: rest) after ↔
      '\r' ∉ value.toList ∧ Faithful place' rest after := by
  have hemitted : emitted value true = value.toList.flatMap Quoting.escape := escaped_eq value
  have hplain : (∀ c ∈ value.toList, c = '"' ∨ c = '\\' ∨ rust.plain c = true) ↔
      '\r' ∉ value.toList := by
    constructor
    · intro h hmem
      exact absurd (h '\r' hmem) (by decide)
    · intro h c hc
      have hne : c ≠ '\r' := by
        intro heq
        exact h (heq ▸ hc)
      rw [rust_plain_iff]
      tauto
  rw [faithful_opened_iff value true text place' htext hplace, hemitted,
    unescapes_rust.read_escaped_eq_iff, hplain]

theorem faithful_number_iff (t : NumberText) :
    Faithful .code (.number t :: .template ";\n" :: rest) after ↔ Faithful .code rest after := by
  rw [Faithful, faithful_template_iff _ .code rfl (by decide), and_iff_right rfl]

theorem faithful_tempLine_iff (temperature : Option NumberText) :
    Faithful .code (tempLine temperature ++ rest) after ↔ Faithful .code rest after := by
  cases temperature with
  | none => rfl
  | some t =>
    rw [tempLine, List.cons_append, faithful_template_iff _ .code rfl (by decide),
      List.cons_append, List.cons_append, List.nil_append, faithful_number_iff]

theorem faithful_maxTokensLine_iff (maxOutputTokens : Option NumberText) :
    Faithful .code (maxTokensLine maxOutputTokens ++ rest) after ↔ Faithful .code rest after := by
  cases maxOutputTokens with
  | none => rfl
  | some t =>
    rw [maxTokensLine, List.cons_append, faithful_template_iff _ .code rfl (by decide),
      List.cons_append, List.cons_append, List.nil_append, faithful_number_iff]

theorem faithful_toolRegistrations_iff (tools : List String) :
    Faithful .code (toolRegistrations tools ++ rest) after ↔
      (∀ tool ∈ tools, '\n' ∉ tool.toList) ∧ Faithful .code rest after := by
  induction tools with
  | nil => exact (and_iff_right (by simp)).symm
  | cons tool tools ih =>
    rw [toolRegistrations] at ih
    rw [toolRegistrations, List.flatMap_cons, List.append_assoc, List.cons_append,
      faithful_template_iff _ .comment rfl (by decide), List.cons_append, faithful_comment_iff,
      List.cons_append, faithful_template_iff _ .code rfl (by decide), List.nil_append, ih,
      List.forall_mem_cons, and_assoc]

theorem newline_notMem_configText (node : ActionNodeConfig) :
    '\n' ∉ (configText node).toList := by
  rw [configText, String.toList_ofList]
  exact node.valid.newline_notMem

theorem faithful_nodes_iff (nodes : List ActionNodeConfig) :
    Faithful .code (nodes.flatMap (fun node ↦ [.template "    // node: ", .field node.id false,
      .template " config=", .field (configText node) false, .template "\n"]) ++ rest) after ↔
      (∀ node ∈ nodes, '\n' ∉ node.id.toList) ∧ Faithful .code rest after := by
  induction nodes with
  | nil => exact (and_iff_right (by simp)).symm
  | cons node nodes ih =>
    rw [List.flatMap_cons, List.append_assoc, List.cons_append,
      faithful_template_iff _ .comment rfl (by decide), List.cons_append, faithful_comment_iff,
      List.cons_append, faithful_template_iff _ .comment rfl (by decide), List.cons_append,
      faithful_comment_iff, List.cons_append, faithful_template_iff _ .code rfl (by decide),
      List.nil_append, ih, List.forall_mem_cons, and_assoc,
      and_iff_right (newline_notMem_configText node)]

theorem faithful_actionNodeSetup_iff (nodes : List ActionNodeConfig) :
    Faithful .code (actionNodeSetup nodes ++ rest) after ↔
      (∀ node ∈ nodes, '\n' ∉ node.id.toList) ∧ Faithful .code rest after := by
  cases nodes with
  | nil => exact (and_iff_right (by simp)).symm
  | cons node nodes =>
    rw [actionNodeSetup, if_neg (by simp), List.cons_append,
      faithful_template_iff _ .code rfl (by decide), faithful_nodes_iff]

theorem plain_provider (model : String) :
    ∀ c ∈ (provider model).toList, rust.plain c = true := by
  refine List.all_eq_true.mp ?_
  unfold provider
  dsimp only
  split_ifs <;> decide

theorem plain_agentType (agentType : AgentType) :
    ∀ c ∈ agentType.str.toList, rust.plain c = true := by
  refine List.all_eq_true.mp ?_
  cases agentType <;> decide

theorem newline_notMem_agentType (agentType : AgentType) : '\n' ∉ agentType.str.toList := by
  cases agentType <;> decide

theorem faithful_generateModelSetup_iff (model apiKeyEnv : String) :
    Faithful .code (generateModelSetup model apiKeyEnv ++ rest) after ↔
      (∀ c ∈ model.toList, rust.plain c = true) ∧ (∀ c ∈ apiKeyEnv.toList, rust.plain c = true) ∧
        Faithful .code rest after := by
  rw [generateModelSetup, List.cons_append,
    faithful_template_iff providerStart .opened rfl (by decide), List.cons_append,
    List.cons_append, faithful_plain_iff _ modelStart .opened rfl (by decide),
    and_iff_right (plain_provider model), List.cons_append, List.cons_append,
    faithful_plain_iff _ apiKeyStart .opened rfl (by decide), List.cons_append, List.cons_append,
    faithful_plain_iff _ statementEnd .code rfl (by decide), List.nil_append]

set_option maxRecDepth 8000 in
theorem faithful_serverCode_iff (config : AgentConfig) :
    Faithful .code (serverCode config) after ↔
      '\r' ∉ config.name.toList ∧ '\r' ∉ config.description.toList := by
  rw [serverCode, faithful_template_iff cardStart .opened rfl (by decide +kernel),
    faithful_escaped_iff _ cardDescription .opened rfl (by decide +kernel),
    faithful_escaped_iff _ cardEnd .code rfl (by decide +kernel), Faithful, and_true]

set_option maxRecDepth 4000 in
theorem faithful_beforeLoop_iff (adkCrateRoot : Option String) (config : AgentConfig) :
    Faithful .code (beforeLoop (toProjectSchema adkCrateRoot config) ++ rest) after ↔
      ('\n' ∉ config.name.toList ∧ '\r' ∉ config.name.toList) ∧
      (∀ c ∈ config.id.toList, rust.plain c = true) ∧ '\r' ∉ config.description.toList ∧
      '\r' ∉ config.instruction.toList ∧ (∀ c ∈ config.model.toList, rust.plain c = true) ∧
      (∀ c ∈ config.apiKeyEnv.toList, rust.plain c = true) ∧
      (∀ tool ∈ config.tools, '\n' ∉ tool.toList) ∧
      (∀ node ∈ config.actionNodes, '\n' ∉ node.id.toList) ∧ Faithful .code rest after := by
  simp only [beforeLoop, toProjectSchema, List.append_assoc, List.cons_append, List.nil_append]
  rw [faithful_template_iff docStart .doc rfl (by decide), faithful_doc_iff,
    faithful_template_iff idStart .opened rfl (by decide),
    faithful_plain_iff _ nameStart .opened rfl (by decide),
    faithful_escaped_iff _ descriptionStart .opened rfl (by decide),
    faithful_escaped_iff _ typeStart .opened rfl (by decide),
    faithful_plain_iff _ instructionStart .opened rfl (by decide),
    and_iff_right (plain_agentType config.agentType),
    faithful_escaped_iff _ instructionEnd .code rfl (by decide), faithful_generateModelSetup_iff,
    faithful_template_iff _ .code rfl (by decide), faithful_tempLine_iff,
    faithful_maxTokensLine_iff, faithful_toolRegistrations_iff, faithful_actionNodeSetup_iff,
    faithful_template_iff buildStart .comment rfl (by decide), faithful_comment_iff,
    and_iff_right (newline_notMem_agentType config.agentType),
    faithful_template_iff buildEnd .code rfl (by decide)]
  tauto

end Places

section CargoToml

variable {cs : List Char} {inside : Bool} {rest : List Fragment}

theorem toml_plain_iff {c : Char} : toml.plain c = true ↔
    c ≠ '"' ∧ c ≠ '\\' ∧ (c = '\t' ∨ 32 ≤ c.toNat ∧ c.toNat ≠ 127) := by
  have hplain : toml.plain c =
      (c != '"' && c != '\\' && (c == '\t' || 32 ≤ c.toNat && c.toNat != 127)) := rfl
  simp [hplain, and_assoc]

theorem rust_plain_of_toml {c : Char} (h : toml.plain c = true) : rust.plain c = true := by
  obtain ⟨hquote, hslash, hplain⟩ := toml_plain_iff.mp h
  refine rust_plain_iff.mpr ⟨hquote, hslash, ?_⟩
  intro heq
  rw [heq] at hplain
  revert hplain
  decide

theorem standsInToml_iff (value : List Char) {c : Char} (hc : c ≠ '"') (rest : List Char) :
    StandsInToml value value ('"' :: c :: rest) ↔ ∀ c ∈ value, toml.plain c = true := by
  rw [StandsInToml, ← Quoting.read_append_eq_iff value (c :: rest)]
  constructor
  · intro h
    obtain ⟨-, rest', heq, hread⟩ := h
    rw [← (List.cons.inj heq).2] at hread
    exact hread
  · intro h
    refine ⟨fun hprefix ↦ ?_, c :: rest, rfl, h⟩
    cases value with
    | nil => exact hc (List.cons_prefix_cons.mp (List.cons_prefix_cons.mp hprefix).2).1.symm
    | cons d value =>
      have hplain := (Quoting.read_append_eq_iff (d :: value) (c :: rest)).mp h d List.mem_cons_self
      rw [← (List.cons_prefix_cons.mp hprefix).1] at hplain
      cases hplain

theorem tomlFaithful_field_iff (value text : String) (inside : Bool) {c : Char}
    (htext : String.ofList ('"' :: c :: cs) = text) (hc : c ≠ '"')
    (hinside : insideString false (c :: cs) = inside) :
    TomlFaithful true (.field value false :: .template text :: rest) ↔
      (∀ c ∈ value.toList, toml.plain c = true) ∧ TomlFaithful inside rest := by
  have hrender : render (.template text :: rest) = '"' :: c :: (cs ++ render rest) := by
    rw [render, List.flatMap_cons, Fragment.text, ← htext, String.toList_ofList]
    simp [render]
  have hemitted : emitted value false = value.toList := rfl
  rw [TomlFaithful, TomlFaithful, hrender, hemitted, standsInToml_iff _ hc, ← htext,
    String.toList_ofList, and_iff_right rfl]
  have hclosed : insideString true ('"' :: c :: cs) = inside := hinside
  rw [hclosed]

set_option maxRecDepth 4000 in
theorem tomlFaithful_iff (schema : ProjectSchema) :
    TomlFaithful false (generateCargoToml schema) ↔
      ∀ c ∈ schema.agent.id.toList, toml.plain c = true := by
  have hstart : insideString false packageStart.toList = true := by decide
  rw [generateCargoToml, TomlFaithful, hstart,
    tomlFaithful_field_iff _ binStart true rfl (by decide) (by decide),
    tomlFaithful_field_iff _ dependenciesStart false rfl (by decide) (by decide)]
  exact and_iff_left_of_imp fun h ↦ ⟨h, trivial⟩

end CargoToml

end AdkGateway.AgentCodegen
