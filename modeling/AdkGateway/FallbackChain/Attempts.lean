import Mathlib.Data.List.Basic

namespace AdkGateway.FallbackChain

variable {Model : Type}

structure FallbackModelChain (Model : Type) where
  models : List Model
  modelIds : List String
  deriving DecidableEq

structure ChainBuildResult (Model : Type) where
  chain : FallbackModelChain Model
  failed : List (String × String)

inductive BuildError
  | allFailedToInitialize (modelIds : List String)
  deriving DecidableEq

inductive FallbackOutcome
  | primarySuccess
  | fallbackUsed (primaryId fallbackId : String) (fallbackIndex : ℕ) (primaryError : String)
  | allFailed (errors : List (String × String))
  deriving DecidableEq

def FallbackOutcome.isDegraded : FallbackOutcome → Bool
  | .fallbackUsed .. => true
  | _ => false

namespace FallbackModelChain

/-- One round of `build`: a model that cannot be created is skipped. -/
def addModel (createModel : String → Except String Model) (built : ChainBuildResult Model)
    (id : String) : ChainBuildResult Model :=
  match createModel id with
  | .ok model => { built with
      chain := ⟨built.chain.models ++ [model], built.chain.modelIds ++ [id]⟩ }
  | .error e => { built with failed := built.failed ++ [(id, e)] }

def build (createModel : String → Except String Model) (modelIds : List String) :
    Except BuildError (ChainBuildResult Model) :=
  let built := modelIds.foldl (addModel createModel) ⟨⟨[], []⟩, []⟩
  if built.chain.models.isEmpty then
    .error (.allFailedToInitialize modelIds)
  else
    .ok built

def single (model : Model) (modelId : String) : FallbackModelChain Model :=
  ⟨[model], [modelId]⟩

def hasFallbacks (chain : FallbackModelChain Model) : Bool :=
  1 < chain.models.length

section Build

variable (createModel : String → Except String Model)

/-- The two lists of a chain are about the same models, in one order. -/
def Paired (chain : FallbackModelChain Model) : Prop :=
  chain.modelIds.map createModel = chain.models.map .ok

inductive Built : FallbackModelChain Model → Prop
  | build {modelIds : List String} {built : ChainBuildResult Model}
      (h : build createModel modelIds = .ok built) : Built built.chain
  | single {modelId : String} {model : Model} (h : createModel modelId = .ok model) :
      Built (single model modelId)

variable {createModel} {modelIds : List String} {built : ChainBuildResult Model}
  {chain : FallbackModelChain Model}

theorem addModel_paired (h : Paired createModel built.chain) (id : String) :
    Paired createModel (addModel createModel built id).chain := by
  rw [addModel]
  cases hid : createModel id with
  | ok model =>
    rw [Paired] at h
    simp [Paired, h, hid]
  | error e => exact h

theorem foldl_addModel_paired (h : Paired createModel built.chain) :
    Paired createModel (modelIds.foldl (addModel createModel) built).chain := by
  induction modelIds generalizing built with
  | nil => exact h
  | cons id modelIds ih => exact ih (addModel_paired h id)

theorem foldl_addModel_modelIds :
    (modelIds.foldl (addModel createModel) built).chain.modelIds =
      built.chain.modelIds ++ modelIds.filter fun id ↦ (createModel id).isOk := by
  induction modelIds generalizing built with
  | nil => simp
  | cons id modelIds ih =>
    rw [List.foldl_cons, ih, addModel]
    cases hid : createModel id with
    | ok model => simp [hid, Except.isOk, Except.toBool]
    | error e => simp [hid, Except.isOk, Except.toBool]

theorem build_eq_ok (h : build createModel modelIds = .ok built) :
    modelIds.foldl (addModel createModel) ⟨⟨[], []⟩, []⟩ = built ∧ built.chain.models ≠ [] := by
  rw [build] at h
  split at h
  case isTrue => cases h
  case isFalse hne =>
    obtain rfl : modelIds.foldl (addModel createModel) ⟨⟨[], []⟩, []⟩ = built := by
      simpa using h
    exact ⟨rfl, by simpa using hne⟩

/-- A model that cannot be created is left out of the chain, and the others keep their order. -/
theorem build_modelIds (h : build createModel modelIds = .ok built) :
    built.chain.modelIds = modelIds.filter fun id ↦ (createModel id).isOk := by
  obtain ⟨rfl, -⟩ := build_eq_ok h
  rw [foldl_addModel_modelIds, List.nil_append]

theorem Built.paired (h : Built createModel chain) : Paired createModel chain := by
  cases h with
  | build h =>
    obtain ⟨rfl, -⟩ := build_eq_ok h
    exact foldl_addModel_paired rfl
  | single h => simp [Paired, FallbackModelChain.single, h]

theorem Built.length (h : Built createModel chain) :
    chain.modelIds.length = chain.models.length := by
  simpa using congrArg List.length h.paired

end Build

section Run

variable {World Error Response : Type}

abbrev RunResult (Response : Type) : Type :=
  Except (List (String × String)) (Response × FallbackOutcome)

/-- `none` is a panic: an index is not in a list. -/
def outcome (modelIds : List String) (idx : ℕ) (errors : List (String × String)) :
    Option FallbackOutcome :=
  if idx = 0 then
    some .primarySuccess
  else do
    let primaryId ← modelIds[0]?
    let fallbackId ← modelIds[idx]?
    let error ← errors[0]?
    some (.fallbackUsed primaryId fallbackId idx error.2)

/-- The loop of `runWithFallback` from the model at `idx` on. A request may depend on all that
happened before it and change it: the world is passed along. -/
def runFrom (display : Error → String) (request : Model → World → Except Error Response × World)
    (modelIds : List String) :
    ℕ → List (String × String) → List Model → World → Option (RunResult Response × World)
  | _, errors, [], world => some (.error errors, world)
  | idx, errors, model :: models, world =>
    match request model world with
    | (.ok response, world') =>
      (outcome modelIds idx errors).map fun outcome ↦ (.ok (response, outcome), world')
    | (.error e, world') =>
      modelIds[idx]?.bind fun id ↦
        runFrom display request modelIds (idx + 1) (errors ++ [(id, display e)]) models world'

def runWithFallback (display : Error → String)
    (request : Model → World → Except Error Response × World) (chain : FallbackModelChain Model)
    (world : World) : Option (RunResult Response × World) :=
  runFrom display request chain.modelIds 0 [] chain.models world

end Run

end FallbackModelChain

end AdkGateway.FallbackChain

namespace AdkGateway.FallbackChain.FallbackModelChain

variable {Model World Error Response : Type}

/-- The same requests, with every call and its answer noted. -/
def recorded (request : Model → World → Except Error Response × World) (model : Model)
    (world : List (Model × Except Error Response) × World) :
    Except Error Response × List (Model × Except Error Response) × World :=
  ((request model world.2).1, world.1 ++ [(model, (request model world.2).1)],
    (request model world.2).2)

def failed (failures : List (Model × Error)) : List (Model × Except Error Response) :=
  failures.map fun failure ↦ (failure.1, .error failure.2)

section Recorded

variable (display : Error → String) (request : Model → World → Except Error Response × World)

theorem runFrom_recorded (modelIds : List String) {idx : ℕ} {errors : List (String × String)}
    {models : List Model} {log : List (Model × Except Error Response)} {world : World} :
    (runFrom display (recorded request) modelIds idx errors models (log, world)).map
        (fun out ↦ (out.1, out.2.2)) =
      runFrom display request modelIds idx errors models world := by
  induction models generalizing idx errors log world with
  | nil => rfl
  | cons model models ih =>
    simp only [runFrom, recorded]
    cases hanswer : request model world with
    | mk answer world' =>
      cases answer with
      | ok response => simp [Function.comp_def]
      | error e =>
        dsimp only
        cases hid : modelIds[idx]? with
        | none => rfl
        | some id => exact ih

end Recorded

/-- What a run returns, read off the calls it made. -/
inductive Told (display : Error → String) (chain : FallbackModelChain Model) :
    List (Model × Except Error Response) → RunResult Response → Prop
  | primary {model : Model} {response : Response} :
      Told display chain [(model, .ok response)] (.ok (response, .primarySuccess))
  | fallback {first : Model × Error} {failures : List (Model × Error)} {model : Model}
      {response : Response} {primaryId fallbackId : String}
      (hprimary : chain.modelIds[0]? = some primaryId)
      (hfallback : chain.modelIds[failures.length + 1]? = some fallbackId) :
      Told display chain (failed (first :: failures) ++ [(model, .ok response)])
        (.ok (response,
          .fallbackUsed primaryId fallbackId (failures.length + 1) (display first.2)))
  | failure {failures : List (Model × Error)} {errors : List (String × String)}
      (hall : failures.map Prod.fst = chain.models)
      (hids : errors.map Prod.fst = chain.modelIds)
      (herrors : errors.map Prod.snd = failures.map fun failure ↦ display failure.2) :
      Told display chain (failed failures) (.error errors)

theorem map_fst_failed (failures : List (Model × Error)) :
    (@failed _ _ Response failures).map Prod.fst = failures.map Prod.fst := by
  simp [failed, Function.comp_def]

theorem failed_concat (failures : List (Model × Error)) (failure : Model × Error) :
    @failed _ _ Response (failures ++ [failure]) =
      failed failures ++ [(failure.1, .error failure.2)] := by
  simp [failed]

section Run

variable {display : Error → String} {request : Model → World → Except Error Response × World}
  {chain : FallbackModelChain Model} {failures : List (Model × Error)}
  {errors : List (String × String)}

theorem outcome_told (model : Model) (response : Response)
    (hlt : failures.length < chain.modelIds.length)
    (herrors : errors.map Prod.snd = failures.map fun failure ↦ display failure.2) :
    ∃ told, outcome chain.modelIds failures.length errors = some told ∧
      Told display chain (failed failures ++ [(model, .ok response)]) (.ok (response, told)) := by
  cases failures with
  | nil => exact ⟨.primarySuccess, rfl, .primary⟩
  | cons first failures =>
    cases errors with
    | nil => cases herrors
    | cons error errors =>
      obtain ⟨herror, -⟩ := List.cons.inj herrors
      have hprimary : chain.modelIds[0]? = some chain.modelIds[0] :=
        List.getElem?_eq_getElem (by omega)
      have hfallback := List.getElem?_eq_getElem hlt
      refine ⟨_, ?_, .fallback hprimary hfallback⟩
      rw [outcome, if_neg (by simp), hprimary, hfallback]
      exact congrArg (fun text ↦ some (FallbackOutcome.fallbackUsed _ _ _ text)) herror

/-- What one step of the loop has to keep: the models asked so far all failed, and their errors
stand in the list with their identifiers. -/
theorem runFrom_told (hlength : chain.modelIds.length = chain.models.length)
    {models : List Model} (hmodels : failures.map Prod.fst ++ models = chain.models)
    (hids : errors.map Prod.fst = chain.modelIds.take failures.length)
    (herrors : errors.map Prod.snd = failures.map fun failure ↦ display failure.2)
    (world : World) :
    ∃ result log world', runFrom display (recorded request) chain.modelIds failures.length errors
        models (failed failures, world) = some (result, log, world') ∧
      log.map Prod.fst <+: chain.models ∧ Told display chain log result := by
  induction models generalizing failures errors world with
  | nil =>
    rw [List.append_nil] at hmodels
    have hall : failures.length = chain.modelIds.length := by
      rw [hlength, ← hmodels, List.length_map]
    rw [hall, List.take_length] at hids
    refine ⟨_, _, world, rfl, ⟨[], ?_⟩, .failure hmodels hids herrors⟩
    rw [List.append_nil, map_fst_failed, hmodels]
  | cons model models ih =>
    have hlt : failures.length < chain.modelIds.length := by
      rw [hlength, ← hmodels, List.length_append, List.length_map, List.length_cons]
      omega
    have hbefore : failures.map Prod.fst ++ [model] <+: chain.models :=
      ⟨models, by rw [List.append_assoc, List.singleton_append, hmodels]⟩
    simp only [runFrom, recorded]
    cases hanswer : request model world with
    | mk answer world' =>
      cases answer with
      | ok response =>
        obtain ⟨told, htold, hlog⟩ := outcome_told model response hlt herrors
        refine ⟨.ok (response, told), _, world', by simp [htold], ?_, hlog⟩
        rw [List.map_append, map_fst_failed]
        exact hbefore
      | error e =>
        have hid := List.getElem?_eq_getElem hlt
        dsimp only
        rw [hid, Option.bind_some]
        have hnext := @ih (failures ++ [(model, e)])
          (errors ++ [(chain.modelIds[failures.length], display e)])
          (by rw [List.map_append, List.append_assoc]; exact hmodels)
          (by rw [List.map_append, hids, List.length_append]
              exact (List.take_append_getElem hlt))
          (by rw [List.map_append, List.map_append, herrors]; rfl) world'
        rw [failed_concat, List.length_append] at hnext
        exact hnext

/-- A run asks the models of the chain in order, each entry once at most, stops at the first that
answers, and tells what the calls say. -/
theorem runWithFallback_told {createModel : String → Except String Model}
    (h : Built createModel chain) (display : Error → String)
    (request : Model → World → Except Error Response × World) (world : World) :
    ∃ result log world',
      runWithFallback display (recorded request) chain ([], world) = some (result, log, world') ∧
        runWithFallback display request chain world = some (result, world') ∧
        Paired createModel chain ∧ log.map Prod.fst <+: chain.models ∧
        Told display chain log result := by
  obtain ⟨result, log, world', hrun, hlog, htold⟩ :=
    @runFrom_told _ _ _ _ display request chain [] [] h.length chain.models rfl rfl rfl world
  refine ⟨result, log, world', hrun, ?_, h.paired, hlog, htold⟩
  rw [runWithFallback, ← runFrom_recorded display request chain.modelIds, Option.map_eq_some_iff]
  exact ⟨_, hrun, rfl⟩

def answerOfLast (e : String) (model : String) (world : Unit) : Except String Unit × Unit :=
  (if model = "c" then .ok () else if model = "b" then .error e else .error "x", world)

theorem runWithFallback_told_answerOfLast :
    ∃ result log world', runWithFallback id (recorded (answerOfLast "y"))
          ⟨["a", "b", "c"], ["a", "b", "c"]⟩ ([], ()) = some (result, log, world') ∧
        runWithFallback id (answerOfLast "y") ⟨["a", "b", "c"], ["a", "b", "c"]⟩ () =
          some (result, world') ∧
        Paired .ok ⟨["a", "b", "c"], ["a", "b", "c"]⟩ ∧ log.map Prod.fst <+: ["a", "b", "c"] ∧
        Told id ⟨["a", "b", "c"], ["a", "b", "c"]⟩ log result :=
  runWithFallback_told
    (@Built.build _ .ok ["a", "b", "c"] ⟨⟨["a", "b", "c"], ["a", "b", "c"]⟩, []⟩ rfl) id
    (answerOfLast "y") ()

theorem runWithFallback_answerOfLast (e : String) :
    runWithFallback id (recorded (answerOfLast e)) ⟨["a", "b", "c"], ["a", "b", "c"]⟩ ([], ()) =
      some (.ok ((), .fallbackUsed "a" "c" 2 "x"),
        failed [("a", "x"), ("b", e)] ++ [("c", .ok ())], ()) := by
  simp [runWithFallback, runFrom, recorded, answerOfLast, outcome, failed]

/-- The error of the second model cannot be read off what is returned. -/
theorem not_returns_errors :
    Built (.ok : String → Except String String) ⟨["a", "b", "c"], ["a", "b", "c"]⟩ ∧
      ¬ ∃ errorsOf : Unit × FallbackOutcome → List (String × String), ∀ e failures answer world,
        runWithFallback id (recorded (answerOfLast e)) ⟨["a", "b", "c"], ["a", "b", "c"]⟩
            ([], ()) = some (.ok answer, failed failures ++ [("c", .ok ())], world) →
          errorsOf answer = failures := by
  constructor
  · exact @Built.build _ .ok ["a", "b", "c"] ⟨⟨["a", "b", "c"], ["a", "b", "c"]⟩, []⟩ rfl
  · intro h
    obtain ⟨errorsOf, h⟩ := h
    have hy := h "y" _ _ _ (runWithFallback_answerOfLast "y")
    have hz := h "z" _ _ _ (runWithFallback_answerOfLast "z")
    rw [hy] at hz
    exact absurd hz (by decide)

end Run

end AdkGateway.FallbackChain.FallbackModelChain
