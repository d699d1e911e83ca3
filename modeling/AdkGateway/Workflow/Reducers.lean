import AdkGateway.Workflow.Execution

namespace AdkGateway.Workflow

open Foundation

/-- An array stands for its elements, and any other value for itself alone. -/
def listForm : Json → List Json
  | .array items => items
  | value => [value]

namespace GraphWorkflow

variable (floats : Floats) (wf : GraphWorkflow) (key : String)

def writeAll (state : WorkflowState) (values : List Json) : WorkflowState :=
  values.foldl (fun state value ↦ wf.applyReducer floats state key value) state

/-- What is stored in the end is the list of all that was there and was written. -/
def Concatenates (state : WorkflowState) (values : List Json) : Prop :=
  (wf.writeAll floats key state values).lookup key = some (.array
    (((state.lookup key).map listForm).getD [] ++ values.flatMap listForm))

variable {floats wf key} {state : WorkflowState}

theorem listForm_of_asArray_eq_none {value : Json} (h : value.asArray = none) :
    listForm value = [value] := by
  cases value with
  | array items => cases h
  | _ => rfl

theorem ne_singleton_array (items : List Json) : items ≠ [.array items] := by
  intro h
  have hsize := congrArg sizeOf h
  simp at hsize
  omega

section Step

variable (happend : wf.stateReducers.lookup key = some .append)

include happend

theorem lookup_append_array {items : List Json} (hitems : state.lookup key = some (.array items))
    (value : Json) : (wf.applyReducer floats state key value).lookup key =
      some (.array (items ++ listForm value)) := by
  cases value <;> simp [applyReducer, happend, hitems, listForm]

theorem lookup_append_absent (hnone : state.lookup key = none) (value : Json) :
    (wf.applyReducer floats state key value).lookup key = some (.array (listForm value)) := by
  cases value <;> simp [applyReducer, happend, hnone, listForm]

theorem lookup_append_other {old : Json} (hold : state.lookup key = some old)
    (hother : old.asArray = none) (value : Json) :
    (wf.applyReducer floats state key value).lookup key = some (.array [old, value]) := by
  cases old with
  | array items => cases hother
  | _ => simp [applyReducer, happend, hold]

theorem lookup_writeAll_array {items : List Json} (hitems : state.lookup key = some (.array items))
    (values : List Json) : (wf.writeAll floats key state values).lookup key =
      some (.array (items ++ values.flatMap listForm)) := by
  induction values generalizing state items with
  | nil => simpa [writeAll] using hitems
  | cons value values ih =>
    have hnext := ih (@lookup_append_array floats _ _ _ happend _ hitems value)
    rw [List.append_assoc] at hnext
    rw [List.flatMap_cons]
    exact hnext

end Step

/-- The law fails where nothing is written over a value that is no list, and where the first value
that is written over it is a list. -/
theorem concatenates_iff (happend : wf.stateReducers.lookup key = some .append)
    (values : List Json) : Concatenates floats wf key state values ↔
      (∃ items, state.lookup key = some (.array items)) ∨
        ∃ value, values.head? = some value ∧ (state.lookup key = none ∨ value.asArray = none) := by
  by_cases harray : ∃ items, state.lookup key = some (.array items)
  · obtain ⟨items, hitems⟩ := harray
    refine iff_of_true ?_ (.inl ⟨items, hitems⟩)
    rw [Concatenates, lookup_writeAll_array happend hitems, hitems]
    rfl
  · rw [or_iff_right harray]
    cases values with
    | nil =>
      refine iff_of_false (fun h ↦ harray ⟨_, h⟩) ?_
      intro h
      obtain ⟨value, hvalue, -⟩ := h
      cases hvalue
    | cons value values =>
      simp only [List.head?_cons, Option.some.injEq, exists_eq_left']
      cases hold : state.lookup key with
      | none =>
        refine iff_of_true ?_ (.inl rfl)
        have hfirst := @lookup_append_absent floats _ _ _ happend hold value
        rw [Concatenates, hold]
        exact lookup_writeAll_array happend hfirst values
      | some old =>
        have hother : old.asArray = none := by
          cases old with
          | array items => exact absurd ⟨items, hold⟩ harray
          | _ => rfl
        have hfirst := @lookup_append_other floats _ _ _ happend _ hold hother value
        have hall := @lookup_writeAll_array floats _ _ _ happend _ hfirst values
        rw [Concatenates, hold, writeAll, List.foldl_cons, ← writeAll, hall]
        cases hvalue : value.asArray with
        | none => simp [listForm_of_asArray_eq_none hother, listForm_of_asArray_eq_none hvalue]
        | some items =>
          have hitems : value = .array items := by
            cases value with
            | array items' => exact congrArg Json.array (Option.some_inj.mp hvalue)
            | _ => cases hvalue
          subst hitems
          refine iff_of_false (fun h ↦ ?_) (by simp)
          rw [Option.map_some, Option.getD_some, listForm_of_asArray_eq_none hother] at h
          have hlists : [old] ++ ([.array items] ++ values.flatMap listForm) =
              [old] ++ (items ++ values.flatMap listForm) := Json.array.inj (Option.some_inj.mp h)
          have hitems := List.append_cancel_right (List.append_cancel_left hlists)
          exact ne_singleton_array items hitems.symm

section Vectors

def collecting : GraphWorkflow :=
  ⟨[], [], AList.singleton "results" .append, none, none, 100, none⟩

theorem concatenates_iff_collecting :
    Concatenates integers collecting "results" ∅ [.string "a", .array [.string "b"]] ↔
      (∃ items, (∅ : WorkflowState).lookup "results" = some (.array items)) ∨
        ∃ value, [Json.string "a", .array [.string "b"]].head? = some value ∧
          ((∅ : WorkflowState).lookup "results" = none ∨ value.asArray = none) :=
  concatenates_iff rfl _

/-- A list that is written over a text becomes one element. -/
theorem not_concatenates :
    ¬ ∀ (floats : Floats) (wf : GraphWorkflow) (key : String) (state : WorkflowState)
      (values : List Json), wf.stateReducers.lookup key = some .append →
        Concatenates floats wf key state values := by
  intro h
  have hlist := h integers collecting "results" (AList.singleton "results" (.string "a"))
    [.array [.string "b"]] rfl
  have hne : ((collecting.writeAll integers "results" (AList.singleton "results" (.string "a"))
      [.array [.string "b"]]).lookup "results") ≠ some (.array [.string "a", .string "b"]) := by
    decide
  exact hne hlist

end Vectors

end GraphWorkflow

end AdkGateway.Workflow
