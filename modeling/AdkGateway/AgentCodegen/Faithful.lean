import AdkGateway.AgentCodegen.Places

namespace AdkGateway.AgentCodegen

open Foundation Foundation.SourceText

section Markers

def markers : List (List Char) := [stdinLoopMarker.toList, stdinLoopEndMarker.toList]

variable {p cs : List Char} {rest fragments : List Fragment}

theorem solid_of_mem_markers (hp : p ∈ markers) : Text.Solid p := by
  have hall : ∀ p ∈ markers, p ≠ [] ∧ p.head? ≠ some ' ' ∧ p.getLast? ≠ some ' ' := by decide
  obtain ⟨hne, hhead, hlast⟩ := hall p hp
  exact ⟨hne, hhead, hlast⟩

/-- A template without the marker, which keeps it apart from what is behind. -/
def Ends (p text : List Char) : Prop := Text.endsForeign p text = true ∧ ¬ p <:+: text

instance : DecidableRel Ends := fun _ _ ↦ inferInstanceAs (Decidable (_ ∧ _))

inductive Alternates (p : List Char) : List Fragment → Prop
  | nil : Alternates p []
  | template {text : String} {rest : List Fragment} : Ends p text.toList → Alternates p rest →
      Alternates p (.template text :: rest)
  | field {value text : String} {escape : Bool} {rest : List Fragment} :
      Text.startsForeign p text.toList = true → Ends p text.toList → Alternates p rest →
      Alternates p (.field value escape :: .template text :: rest)
  | number {n : NumberText} {text : String} {rest : List Fragment} :
      Text.startsForeign p text.toList = true → Ends p text.toList → Alternates p rest →
      Alternates p (.number n :: .template text :: rest)

theorem Alternates.append {fragments' : List Fragment} (h : Alternates p fragments)
    (h' : Alternates p fragments') : Alternates p (fragments ++ fragments') := by
  induction h with
  | nil => exact h'
  | template hends _ ih => exact .template hends ih
  | field hstarts hends _ ih => exact .field hstarts hends ih
  | number hstarts hends _ ih => exact .number hstarts hends ih

theorem alternates_template (hp : p ∈ markers) (text : String) (htext : String.ofList cs = text)
    (h : ∀ p ∈ markers, Ends p cs) (hrest : Alternates p rest) :
    Alternates p (.template text :: rest) := by
  refine .template ?_ hrest
  rw [← htext, String.toList_ofList]
  exact h p hp

theorem starts_and_ends (hp : p ∈ markers) (text : String) (htext : String.ofList cs = text)
    (h : ∀ p ∈ markers, Text.startsForeign p cs = true ∧ Ends p cs) :
    Text.startsForeign p text.toList = true ∧ Ends p text.toList := by
  rw [← htext, String.toList_ofList]
  exact h p hp

theorem alternates_field (hp : p ∈ markers) (text : String) (htext : String.ofList cs = text)
    (h : ∀ p ∈ markers, Text.startsForeign p cs = true ∧ Ends p cs) (hrest : Alternates p rest)
    (value : String) (escape : Bool) :
    Alternates p (.field value escape :: .template text :: rest) := by
  obtain ⟨hstarts, hends⟩ := starts_and_ends hp text htext h
  exact .field hstarts hends hrest

theorem alternates_number (hp : p ∈ markers) (hrest : Alternates p rest) (n : NumberText) :
    Alternates p (.number n :: .template ";\n" :: rest) := by
  obtain ⟨hstarts, hends⟩ := starts_and_ends hp ";\n" rfl (by decide)
  exact .number hstarts hends hrest

def fieldTexts (fragments : List Fragment) : List String :=
  fragments.filterMap fun
    | .field value _ => some value
    | _ => none

theorem infix_emitted_iff (hp : p ∈ markers) (value : String) (escape : Bool) :
    p <:+: emitted value escape ↔ p <:+: value.toList := by
  have hall : ∀ p ∈ markers, '"' ∉ p ∧ '\\' ∉ p := by decide
  obtain ⟨hquote, hslash⟩ := hall p hp
  cases escape with
  | false => rfl
  | true =>
    have hemitted : emitted value true = value.toList.flatMap Quoting.escape := escaped_eq value
    rw [hemitted, Quoting.isInfix_escaped_iff (solid_of_mem_markers hp).ne_nil hquote hslash]

theorem not_infix_number (hp : p ∈ markers) (n : NumberText) : ¬ p <:+: n.text.toList := by
  have hall : ∀ p ∈ markers, '/' ∈ p := by decide
  intro h
  have hplain := n.plain '/' (h.subset (hall p hp))
  revert hplain
  decide

theorem infix_render_iff (hp : p ∈ markers) (h : Alternates p fragments) :
    p <:+: render fragments ↔ ∃ text ∈ fieldTexts fragments, p <:+: text.toList := by
  have hsolid := solid_of_mem_markers hp
  have hrender (fragment : Fragment) (rest : List Fragment) :
      render (fragment :: rest) = fragment.text ++ render rest := List.flatMap_cons
  induction h with
  | nil =>
    refine iff_of_false (fun h ↦ hsolid.ne_nil (List.infix_nil.mp h)) ?_
    simp [fieldTexts]
  | @template text rest hends _ ih =>
    have htexts : fieldTexts (.template text :: rest) = fieldTexts rest := rfl
    rw [hrender, Fragment.text, htexts, hsolid.infix_append_of_ends hends.1 hends.2]
    exact ih
  | @field value text escape rest hstarts hends _ ih =>
    have htexts : fieldTexts (.field value escape :: .template text :: rest) =
        value :: fieldTexts rest := rfl
    rw [hrender, hrender, Fragment.text, Fragment.text, hsolid.infix_append_of_starts hstarts,
      hsolid.infix_append_of_ends hends.1 hends.2, htexts, infix_emitted_iff hp,
      List.exists_mem_cons_iff]
    exact or_congr_right ih
  | @number n text rest hstarts hends _ ih =>
    have htexts : fieldTexts (.number n :: .template text :: rest) = fieldTexts rest := rfl
    rw [hrender, hrender, Fragment.text, Fragment.text, hsolid.infix_append_of_starts hstarts,
      hsolid.infix_append_of_ends hends.1 hends.2, htexts, or_iff_right (not_infix_number hp n)]
    exact ih

theorem alternates_tempLine (hp : p ∈ markers) (temperature : Option NumberText) :
    Alternates p (tempLine temperature) := by
  cases temperature with
  | none => exact .nil
  | some t =>
    refine alternates_template hp _ rfl (by decide) ?_
    exact alternates_number hp .nil t

theorem alternates_maxTokensLine (hp : p ∈ markers) (maxOutputTokens : Option NumberText) :
    Alternates p (maxTokensLine maxOutputTokens) := by
  cases maxOutputTokens with
  | none => exact .nil
  | some t =>
    refine alternates_template hp _ rfl (by decide) ?_
    exact alternates_number hp .nil t

theorem alternates_toolRegistrations (hp : p ∈ markers) (tools : List String) :
    Alternates p (toolRegistrations tools) := by
  induction tools with
  | nil => exact .nil
  | cons tool tools ih =>
    refine alternates_template hp _ rfl (by decide) ?_
    exact alternates_field hp _ rfl (by decide) ih tool false

theorem alternates_actionNodeSetup (hp : p ∈ markers) (nodes : List ActionNodeConfig) :
    Alternates p (actionNodeSetup nodes) := by
  have hnodes : Alternates p (nodes.flatMap fun node ↦ [.template "    // node: ",
      .field node.id false, .template " config=", .field (configText node) false,
      .template "\n"]) := by
    induction nodes with
    | nil => exact .nil
    | cons node nodes ih =>
      refine alternates_template hp _ rfl (by decide) ?_
      refine alternates_field hp _ rfl (by decide) ?_ node.id false
      exact alternates_field hp _ rfl (by decide) ih (configText node) false
  cases nodes with
  | nil => exact .nil
  | cons node nodes => exact alternates_template hp _ rfl (by decide) hnodes

set_option maxRecDepth 4000 in
theorem alternates_beforeLoop (hp : p ∈ markers) (schema : ProjectSchema) :
    Alternates p (beforeLoop schema) := by
  rw [beforeLoop]
  refine .append ?_ (.append ?_ ?_)
  · refine alternates_template hp docStart rfl (by decide) ?_
    refine alternates_field hp idStart rfl (by decide) ?_ _ _
    refine alternates_field hp nameStart rfl (by decide) ?_ _ _
    refine alternates_field hp descriptionStart rfl (by decide) ?_ _ _
    refine alternates_field hp typeStart rfl (by decide) ?_ _ _
    refine alternates_field hp instructionStart rfl (by decide) ?_ _ _
    exact alternates_field hp instructionEnd rfl (by decide) .nil _ _
  · refine alternates_template hp providerStart rfl (by decide) ?_
    refine alternates_field hp modelStart rfl (by decide) ?_ _ _
    refine alternates_field hp apiKeyStart rfl (by decide) ?_ _ _
    exact alternates_field hp statementEnd rfl (by decide) .nil _ _
  · refine alternates_template hp _ rfl (by decide) ?_
    refine .append (alternates_tempLine hp _) (.append (alternates_maxTokensLine hp _) ?_)
    refine .append (alternates_toolRegistrations hp _) ?_
    refine .append (alternates_actionNodeSetup hp _) ?_
    refine alternates_template hp buildStart rfl (by decide) ?_
    exact alternates_field hp buildEnd rfl (by decide) .nil _ _

theorem not_infix_of_notMem (hp : p ∈ markers) {cs : List Char} (h : '/' ∉ cs) : ¬ p <:+: cs := by
  have hall : ∀ p ∈ markers, '/' ∈ p := by decide
  exact fun hin ↦ h (hin.subset (hall p hp))

theorem fieldTexts_append (fragments fragments' : List Fragment) :
    fieldTexts (fragments ++ fragments') = fieldTexts fragments ++ fieldTexts fragments' :=
  List.filterMap_append

theorem fieldTexts_toolRegistrations (tools : List String) :
    fieldTexts (toolRegistrations tools) = tools := by
  induction tools with
  | nil => rfl
  | cons tool tools ih => exact congrArg (tool :: ·) ih

theorem fieldTexts_actionNodeSetup (nodes : List ActionNodeConfig) :
    fieldTexts (actionNodeSetup nodes) = nodes.flatMap fun node ↦ [node.id, configText node] := by
  cases nodes with
  | nil => rfl
  | cons node nodes =>
    rw [actionNodeSetup, if_neg (by simp)]
    generalize node :: nodes = nodes
    induction nodes with
    | nil => rfl
    | cons node nodes ih => exact congrArg (node.id :: configText node :: ·) ih

theorem fieldTexts_beforeLoop (adkCrateRoot : Option String) (config : AgentConfig) :
    fieldTexts (beforeLoop (toProjectSchema adkCrateRoot config)) =
      [config.name, config.id, config.name, config.description, config.agentType.str,
        config.instruction, provider config.model, config.model, config.apiKeyEnv] ++
      (config.tools ++ ((config.actionNodes.flatMap fun node ↦ [node.id, configText node]) ++
        [config.agentType.str])) := by
  have htemp : fieldTexts (tempLine config.temperature) = [] := by
    cases config.temperature <;> rfl
  have htokens : fieldTexts (maxTokensLine config.maxOutputTokens) = [] := by
    cases config.maxOutputTokens <;> rfl
  have hcons (text : String) (rest : List Fragment) :
      fieldTexts (.template text :: rest) = fieldTexts rest := rfl
  simp only [beforeLoop, toProjectSchema, fieldTexts_append, hcons, htemp, htokens,
    fieldTexts_toolRegistrations, fieldTexts_actionNodeSetup, List.nil_append]
  rfl

theorem infix_beforeLoop_iff (hp : p ∈ markers) (adkCrateRoot : Option String)
    (config : AgentConfig) :
    p <:+: render (beforeLoop (toProjectSchema adkCrateRoot config)) ↔
      ∃ text ∈ configured config, p <:+: text.toList := by
  have htype : ¬ p <:+: config.agentType.str.toList := by
    refine not_infix_of_notMem hp ?_
    cases config.agentType <;> decide
  have hprovider : ¬ p <:+: (provider config.model).toList := by
    refine not_infix_of_notMem hp ?_
    unfold provider
    dsimp only
    split_ifs <;> decide
  rw [infix_render_iff hp (alternates_beforeLoop hp _), fieldTexts_beforeLoop, configured]
  generalize (config.actionNodes.flatMap fun node ↦ [node.id, configText node]) = nodes
  constructor
  · intro h
    obtain ⟨text, hmem, hin⟩ := h
    refine ⟨text, ?_, hin⟩
    have hne : text ≠ config.agentType.str := fun heq ↦ htype (heq ▸ hin)
    have hne' : text ≠ provider config.model := fun heq ↦ hprovider (heq ▸ hin)
    simp only [List.mem_append, List.mem_cons, List.not_mem_nil, or_false, hne, hne'] at hmem ⊢
    clear hin hne hne' htype hprovider
    tauto
  · intro h
    obtain ⟨text, hmem, hin⟩ := h
    refine ⟨text, ?_, hin⟩
    simp only [List.mem_append, List.mem_cons, List.not_mem_nil, or_false] at hmem ⊢
    clear hin htype hprovider
    tauto

end Markers

section Loop

/-- The source up to the loop ends with a line that is always there. -/
theorem endsForeign_beforeLoop {p : List Char} (hp : p ∈ markers) (schema : ProjectSchema) :
    Text.endsForeign p (render (beforeLoop schema)) = true := by
  have hend : [.template buildEnd] <:+ beforeLoop schema := by
    have hlast : [Fragment.template buildEnd] <:+ [.template buildStart,
        .field schema.agent.agentType false, .template buildEnd] := ⟨[_, _], rfl⟩
    rw [beforeLoop]
    refine .trans (.trans ?_ (List.suffix_append _ _)) (List.suffix_append _ _)
    refine .trans (.trans ?_ (List.suffix_append _ _)) (List.suffix_cons _ _)
    refine .trans (.trans ?_ (List.suffix_append _ _)) (List.suffix_append _ _)
    exact .trans hlast (List.suffix_append _ _)
  obtain ⟨init, hinit⟩ := hend
  have hrender : render (beforeLoop schema) = render init ++ buildEnd.toList := by
    rw [← hinit, render, List.flatMap_append, List.flatMap_singleton]
    rfl
  have hall : ∀ p ∈ markers, Text.endsForeign p buildEnd.toList = true := by decide
  rw [hrender]
  exact Text.endsForeign_append (hall p hp) _

theorem generateMainRs_eq (schema : ProjectSchema) : generateMainRs schema =
    render (beforeLoop schema) ++ (stdinLoopMarker.toList ++ loopBody.toList) ++
      (stdinLoopEndMarker.toList ++ afterLoop.toList) := by
  simp only [generateMainRs, List.append_assoc]

set_option maxRecDepth 4000 in
theorem splitOnce_end (schema : ProjectSchema)
    (hend : ¬ stdinLoopEndMarker.toList <:+: render (beforeLoop schema)) :
    Text.splitOnceChars stdinLoopEndMarker.toList (generateMainRs schema) =
      some (render (beforeLoop schema) ++ (stdinLoopMarker.toList ++ loopBody.toList),
        afterLoop.toList) := by
  have hmem : stdinLoopEndMarker.toList ∈ markers := by simp [markers]
  have hsolid := solid_of_mem_markers hmem
  obtain ⟨hstarts, hends, hbody⟩ := starts_and_ends hmem loopBody rfl (by decide)
  have hno : ¬ stdinLoopEndMarker.toList <:+: stdinLoopMarker.toList ++ loopBody.toList := by
    have hmarker : ¬ stdinLoopEndMarker.toList <:+: stdinLoopMarker.toList := by decide
    have hsplit := hsolid.infix_append_of_starts hstarts stdinLoopMarker.toList []
    rw [List.append_nil] at hsplit
    rw [hsplit, not_or]
    exact ⟨hmarker, hbody⟩
  rw [generateMainRs_eq]
  refine hsolid.splitOnceChars_of_ends ?_ ?_ _
  · rw [← List.append_assoc]
    exact Text.endsForeign_append hends _
  · rw [hsolid.infix_append_of_ends (endsForeign_beforeLoop hmem schema) hend]
    exact hno

theorem splitOnce_start (schema : ProjectSchema)
    (hstart : ¬ stdinLoopMarker.toList <:+: render (beforeLoop schema)) :
    Text.splitOnceChars stdinLoopMarker.toList (generateMainRs schema) =
      some (render (beforeLoop schema),
        loopBody.toList ++ (stdinLoopEndMarker.toList ++ afterLoop.toList)) := by
  have hmem : stdinLoopMarker.toList ∈ markers := by simp [markers]
  exact (solid_of_mem_markers hmem).splitOnceChars_of_ends (endsForeign_beforeLoop hmem schema)
    hstart _

theorem injectA2aServer_eq {mainRs before rest first after : List Char} (config : AgentConfig)
    (hstart : Text.splitOnceChars stdinLoopMarker.toList mainRs = some (before, rest))
    (hend : Text.splitOnceChars stdinLoopEndMarker.toList mainRs = some (first, after)) :
    injectA2aServer mainRs config = before ++ (render (serverCode config) ++ '\n' :: after) := by
  rw [injectA2aServer, hstart, hend]
  exact List.append_assoc _ _ _

/-- What is replaced from too early on begins otherwise than what is there. -/
theorem head?_eq_of_append_eq {first before marker server rest rest' after after' : List Char}
    (hmarker : marker ≠ []) (hserver : server ≠ []) (hlt : first.length < before.length)
    (hsource : before ++ after = first ++ (marker ++ rest))
    (hresult : first ++ (server ++ rest') = before ++ after') : marker.head? = server.head? := by
  obtain ⟨more, rfl⟩ : first <+: before := by
    refine List.prefix_of_prefix_length_le ⟨_, hsource.symm⟩ ⟨_, rfl⟩ hlt.le
  rw [List.append_assoc, List.append_cancel_left_eq] at hsource hresult
  obtain ⟨c, more, rfl⟩ : ∃ c more', more = c :: more' := by
    refine List.exists_cons_of_ne_nil fun hnil ↦ ?_
    rw [hnil, List.append_nil] at hlt
    omega
  obtain ⟨d, marker, rfl⟩ := List.exists_cons_of_ne_nil hmarker
  obtain ⟨e, server, rfl⟩ := List.exists_cons_of_ne_nil hserver
  rw [List.head?_cons, List.head?_cons, ← (List.cons.inj hsource).1, (List.cons.inj hresult).1]

set_option maxRecDepth 4000 in
theorem head?_serverCode (config : AgentConfig) :
    (render (serverCode config)).head? = some ' ' := by
  have hofList {cs : List Char} (hcs : String.ofList (' ' :: cs) = cardStart) :
      (render (serverCode config)).head? = some ' ' := by
    rw [serverCode, render, List.flatMap_cons, Fragment.text, ← hcs, String.toList_ofList]
    rfl
  exact hofList rfl

theorem replaced_iff (schema : ProjectSchema) (config : AgentConfig) :
    injectA2aServer (generateMainRs schema) config =
      render (beforeLoop schema) ++ (render (serverCode config) ++ '\n' :: afterLoop.toList) ↔
    ¬ stdinLoopMarker.toList <:+: render (beforeLoop schema) ∧
      ¬ stdinLoopEndMarker.toList <:+: render (beforeLoop schema) := by
  have hnil : stdinLoopMarker.toList ≠ [] ∧ stdinLoopEndMarker.toList ≠ [] := by decide
  have hpos := List.length_pos_of_ne_nil hnil.1
  have hpos' := List.length_pos_of_ne_nil hnil.2
  constructor
  · intro h
    have hstart : ¬ stdinLoopMarker.toList <:+: render (beforeLoop schema) := by
      intro hin
      obtain ⟨first, rest, hfirst, hlt⟩ := Text.exists_splitOnceChars_of_infix hnil.1 hin
        (stdinLoopMarker.toList ++ (loopBody.toList ++
          (stdinLoopEndMarker.toList ++ afterLoop.toList)))
      have hsource := Text.eq_of_splitOnceChars hfirst
      obtain ⟨first', after, hend, -⟩ := Text.exists_splitOnceChars hnil.2
        (render (beforeLoop schema) ++ (stdinLoopMarker.toList ++ loopBody.toList)) afterLoop.toList
      rw [← generateMainRs] at hfirst
      rw [← generateMainRs_eq] at hend
      rw [injectA2aServer_eq config hfirst hend] at h
      have hhead := head?_serverCode config
      have hserver : render (serverCode config) ≠ [] := by
        intro hempty
        rw [hempty] at hhead
        cases hhead
      have hsame := head?_eq_of_append_eq hnil.1 hserver (by omega) hsource h
      rw [hhead] at hsame
      exact absurd hsame (by decide)
    refine ⟨hstart, fun hin ↦ ?_⟩
    obtain ⟨first, after, hend, hlt⟩ := Text.exists_splitOnceChars_of_infix hnil.2 hin
      (stdinLoopMarker.toList ++ (loopBody.toList ++
        (stdinLoopEndMarker.toList ++ afterLoop.toList)))
    have hsource := congrArg List.length (Text.eq_of_splitOnceChars hend)
    rw [← generateMainRs] at hend
    rw [injectA2aServer_eq config (splitOnce_start schema hstart) hend, List.append_cancel_left_eq,
      List.append_cancel_left_eq, List.cons.injEq] at h
    simp only [List.length_append, ← h.2] at hsource
    omega
  · intro h
    exact injectA2aServer_eq config (splitOnce_start schema h.1) (splitOnce_end schema h.2)

end Loop

theorem mem_markers_iff {p : List Char} :
    p ∈ markers ↔ p = stdinLoopMarker.toList ∨ p = stdinLoopEndMarker.toList := by
  simp [markers]

/-- What is generated for an agent is right just if its texts fit where they are put in. -/
theorem codegenRight_iff (adkCrateRoot : Option String) (config : AgentConfig) :
    CodegenRight adkCrateRoot config ↔ FieldsFit config := by
  have hmarkers : (¬ stdinLoopMarker.toList <:+:
        render (beforeLoop (toProjectSchema adkCrateRoot config)) ∧
      ¬ stdinLoopEndMarker.toList <:+:
        render (beforeLoop (toProjectSchema adkCrateRoot config))) ↔
      ∀ text ∈ configured config, ¬ stdinLoopMarker.toList <:+: text.toList ∧
        ¬ stdinLoopEndMarker.toList <:+: text.toList := by
    rw [infix_beforeLoop_iff (mem_markers_iff.mpr (.inl rfl)),
      infix_beforeLoop_iff (mem_markers_iff.mpr (.inr rfl))]
    simp only [not_exists, not_and, forall_and]
  have hstands := @faithful_beforeLoop_iff (serverCode config) ('\n' :: afterLoop.toList)
    adkCrateRoot config
  rw [faithful_serverCode_iff] at hstands
  constructor
  · intro h
    obtain ⟨hreplaced, hfaithful, hcargo⟩ := h
    obtain ⟨hname, -, hdescription, hinstruction, hmodel, hapiKeyEnv, htools, hnodes, -⟩ :=
      hstands.mp hfaithful
    exact ⟨(tomlFaithful_iff _).mp hcargo, hname, hdescription, hmodel, hinstruction, hapiKeyEnv,
      htools, hnodes, hmarkers.mp ((replaced_iff _ config).mp hreplaced)⟩
  · intro h
    exact ⟨(replaced_iff _ config).mpr (hmarkers.mpr h.markers),
      hstands.mpr ⟨h.name, fun c hc ↦ rust_plain_of_toml (h.id c hc), h.description, h.instruction,
        h.model, h.apiKeyEnv, h.tools, h.actionNodes, h.name.2, h.description⟩,
      (tomlFaithful_iff _).mpr h.id⟩

/-- A model whose name ends the literal that it is put into. -/
def quotedModel : AgentConfig :=
  ⟨⟨"a", "A", "", "m\"; std::process::abort(); //", "", [], ⟨[], []⟩, [], false, .null⟩, .llm,
    "KEY", [], [], none, none⟩

theorem not_codegenRight_of_quoted_model : ¬ CodegenRight none quotedModel := by
  intro h
  have hplain := ((faithful_beforeLoop_iff none quotedModel).mp h.stands).2.2.2.2.1 '"' (by decide)
  cases hplain

end AdkGateway.AgentCodegen
