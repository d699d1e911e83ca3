import AdkGateway.Foundation.Splitting
import AdkGateway.Workflow.Execution

namespace AdkGateway.Workflow

open Foundation Text GraphWorkflow

section Texts

variable (key v : String)

def equality : String := key ++ " == \"" ++ v ++ "\""

def inequality : String := key ++ " != \"" ++ v ++ "\""

def PlainKey : Prop := ∀ c ∈ key.toList, c ∉ ['=', '!', '<', '>']

/-- The two texts are evaluated as what they say. -/
def Coherent (floats : Floats) : Prop :=
  ∀ state : WorkflowState,
    evaluateCondition floats (inequality key v) state =
        !evaluateCondition floats (equality key v) state ∧
      (evaluateCondition floats (equality key v) state = true ↔
        (state.lookup key).bind comparable = some v)

def trimmedKey : List Char := (key.toList ++ [' ']).dropWhile isWhitespace

variable {key v}

theorem trim_trimmedKey : trim (String.ofList (trimmedKey key)) = trim key := by
  rw [trim_eq_strip, String.toList_ofList, trimmedKey, strip_dropWhile, strip_concat rfl]
  rfl

theorem notMem_trimmedKey {c : Char} (hkey : PlainKey key) (hc : c ∈ ['=', '!', '<', '>']) :
    c ∉ trimmedKey key := by
  intro hmem
  have hmem' := (List.dropWhile_suffix isWhitespace).subset hmem
  rcases List.mem_append.mp hmem' with hmem' | hmem'
  · exact hkey c hmem' hc
  · rw [List.mem_singleton.mp hmem'] at hc
    exact absurd hc (by decide)

theorem trim_condition {symbol : String} {c d : Char}
    (hsymbol : symbol.toList = [' ', c, d, ' ', '"']) (hc : isWhitespace c = false) : trim (key ++ symbol ++ v ++ "\"") =
      String.ofList (trimmedKey key ++ c :: d :: ' ' :: '"' :: (v.toList ++ ['"'])) := by
  have htext : (key ++ symbol ++ v ++ "\"").toList =
      (key.toList ++ [' ']) ++ (c :: (d :: ' ' :: '"' :: v.toList) ++ ['"']) := by
    simp [hsymbol]
  rw [trim_eq_strip, htext, strip_append hc rfl]
  rfl

theorem trim_literal : trimMatches '"' (trim (String.ofList (' ' :: '"' :: (v.toList ++ ['"'])))) =
    trimMatches '"' v := by
  have htrim : trim (String.ofList (' ' :: '"' :: (v.toList ++ ['"']))) =
      String.ofList ('"' :: (v.toList ++ ['"'])) := by
    rw [trim_eq_strip, String.toList_ofList, strip_cons rfl]
    exact congrArg String.ofList (strip_append rfl rfl [] v.toList)
  rw [htrim, trimMatches_eq_strip, String.toList_ofList, strip_cons rfl, strip_concat rfl]
  rfl

theorem splitOnce_condition {symbol : String} {c d : Char} (hkey : PlainKey key)
    (hc : c ∈ ['=', '!', '<', '>']) (hsymbol : symbol.toList = [c, d]) :
    splitOnce symbol
        (String.ofList (trimmedKey key ++ c :: d :: ' ' :: '"' :: (v.toList ++ ['"']))) =
      some (String.ofList (trimmedKey key), String.ofList (' ' :: '"' :: (v.toList ++ ['"']))) := by
  rw [splitOnce, hsymbol, String.toList_ofList, splitOnceChars_append (notMem_trimmedKey hkey hc)]
  have hself := @splitOnceChars_self c [d] (' ' :: '"' :: (v.toList ++ ['"']))
  rw [List.cons_append, List.singleton_append] at hself
  rw [hself]
  simp

theorem splitOnce_equality (hkey : PlainKey key) :
    splitOnce "==" (trim (equality key v)) = some (String.ofList (trimmedKey key),
      String.ofList (' ' :: '"' :: (v.toList ++ ['"']))) := by
  rw [equality, trim_condition (c := '=') (d := '=') rfl rfl]
  exact splitOnce_condition hkey (by decide) rfl

theorem splitOnce_inequality (hkey : PlainKey key) :
    splitOnce "!=" (trim (inequality key v)) = some (String.ofList (trimmedKey key),
      String.ofList (' ' :: '"' :: (v.toList ++ ['"']))) := by
  rw [inequality, trim_condition (c := '!') (d := '=') rfl rfl]
  exact splitOnce_condition hkey (by decide) rfl

theorem splitOnce_inequality_eq_none_iff (hkey : PlainKey key) :
    splitOnce "==" (trim (inequality key v)) = none ↔ ¬ ['=', '='] <:+: v.toList := by
  rw [inequality, trim_condition (c := '!') (d := '=') rfl rfl, splitOnce, String.toList_ofList,
    Option.map_eq_none_iff]
  have hbefore : '=' ∉ trimmedKey key ++ ['!'] := by
    rw [List.mem_append, not_or]
    exact ⟨notMem_trimmedKey hkey (by decide), by decide⟩
  have htext : trimmedKey key ++ '!' :: '=' :: ' ' :: '"' :: (v.toList ++ ['"']) =
      (trimmedKey key ++ ['!']) ++ ('=' :: ([' ', '"'] ++ (v.toList ++ ['"']))) := by simp
  rw [htext, String.toList_ofList, splitOnceChars_append hbefore, Option.map_eq_none_iff,
    splitOnceChars_eq_none_iff, not_iff_not]
  constructor
  · intro h
    rcases List.infix_cons_iff.mp h with h | h
    · obtain ⟨rest, hrest⟩ := h
      simp at hrest
    · rcases List.infix_cons_iff.mp h with h | h
      · obtain ⟨rest, hrest⟩ := h
        simp at hrest
      · rcases List.infix_cons_iff.mp h with h | h
        · obtain ⟨rest, hrest⟩ := h
          simp at hrest
        · rcases List.infix_concat_iff.mp h with h | h
          · obtain ⟨rest, hrest⟩ := h
            have hlast := congrArg List.getLast? hrest
            simp at hlast
          · exact h
  · intro h
    obtain ⟨before, after, heq⟩ := h
    exact ⟨['=', ' ', '"'] ++ before, after ++ ['"'], by simp [← heq]⟩

variable (floats : Floats) {state : WorkflowState}

theorem evaluateCondition_equality (hkey : PlainKey key) :
    evaluateCondition floats (equality key v) state = ((state.lookup (trim key)).map fun value ↦
      ((comparable value).map (· == trimMatches '"' v)).getD false).getD false := by
  simp only [evaluateCondition, splitOnce_equality hkey, trim_literal]
  rw [trim_trimmedKey]

theorem evaluateCondition_inequality (hkey : PlainKey key) (hv : ¬ ['=', '='] <:+: v.toList) :
    evaluateCondition floats (inequality key v) state = ((state.lookup (trim key)).map fun value ↦
      ((comparable value).map (· != trimMatches '"' v)).getD true).getD true := by
  simp only [evaluateCondition, (splitOnce_inequality_eq_none_iff hkey).mpr hv,
    splitOnce_inequality hkey, trim_literal]
  rw [trim_trimmedKey]

/-- Read as an equality, an inequality does not hold where nothing is stored. -/
theorem evaluateCondition_misread (hkey : PlainKey key) (hv : ['=', '='] <:+: v.toList) :
    evaluateCondition floats (inequality key v) ∅ = false := by
  cases hsplit : splitOnce "==" (trim (inequality key v)) with
  | none => exact absurd hv ((splitOnce_inequality_eq_none_iff hkey).mp hsplit)
  | some found => simp only [evaluateCondition, hsplit, AList.lookup_empty, Option.map_none,
      Option.getD_none]

end Texts

variable {key v : String} (floats : Floats)

/-- The texts are evaluated as what they say just if nothing is to be trimmed from the key, and the
literal has no sign of an equality and no quotes at its ends. -/
theorem coherent_iff (hkey : PlainKey key) : Coherent key v floats ↔
    trim key = key ∧ trimMatches '"' v = v ∧ ¬ ['=', '='] <:+: v.toList := by
  constructor
  · intro h
    have hstored (state : WorkflowState) (hstate : state.lookup key = some (.string v)) :=
      (h state).2.mpr (by rw [hstate]; rfl)
    have hone := hstored (AList.insert key (.string v) ∅) (AList.lookup_insert _)
    rw [evaluateCondition_equality floats hkey, KeyedMap.lookup_insert_if] at hone
    have htrim : trim key = key := by
      by_contra hne
      rw [if_neg hne] at hone
      cases hone
    refine ⟨htrim, ?_, fun hv ↦ ?_⟩
    · rw [if_pos htrim] at hone
      exact (beq_iff_eq.mp hone).symm
    · have hempty := (h ∅).1
      rw [evaluateCondition_misread floats hkey hv,
        evaluateCondition_equality floats hkey] at hempty
      cases hempty
  · intro h state
    obtain ⟨htrim, hquotes, hv⟩ := h
    rw [evaluateCondition_equality floats hkey, evaluateCondition_inequality floats hkey hv, htrim,
      hquotes]
    cases state.lookup key with
    | none => simp
    | some value =>
      cases hvalue : comparable value with
      | none => simp [hvalue]
      | some text => simp [hvalue, bne]

section Literals

theorem coherent_iff_status : Coherent "status" "done" integers ↔
    trim "status" = "status" ∧ trimMatches '"' "done" = "done" ∧
      ¬ ['=', '='] <:+: "done".toList :=
  coherent_iff integers (by simp [PlainKey])

/-- A literal with the sign of an equality differs from nothing. -/
theorem not_coherent :
    ¬ ∀ (floats : Floats) (key v : String), PlainKey key → Coherent key v floats := by
  intro h
  have hkey : PlainKey "expr" := by simp [PlainKey]
  have hempty := (h integers "expr" "a==b" hkey ∅).1
  rw [evaluateCondition_misread integers hkey (by decide),
    evaluateCondition_equality integers hkey] at hempty
  cases hempty

end Literals

end AdkGateway.Workflow
