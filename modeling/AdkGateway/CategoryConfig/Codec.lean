import AdkGateway.FallbackChain.Attempts
import AdkGateway.Foundation.Json

namespace AdkGateway

open Foundation

inductive ModelSpec
  | simple (model : String)
  | withFallbacks (primary : String) (fallbacks : List String)
  deriving DecidableEq

inductive ModelCategory
  | vision
  | omni
  | imageGeneration
  | tts
  | stt
  | code
  | embedding
  | search
  | music
  deriving DecidableEq

structure CategoryConfig where
  primary : ModelSpec
  vision : Option (List String)
  omni : Option (List String)
  imageGeneration : Option (List String)
  tts : Option (List String)
  stt : Option (List String)
  code : Option (List String)
  embedding : Option (List String)
  search : Option (List String)
  music : Option (List String)
  deriving DecidableEq

namespace ModelCategory

def key : ModelCategory → String
  | vision => "vision"
  | omni => "omni"
  | imageGeneration => "image_generation"
  | tts => "tts"
  | stt => "stt"
  | code => "code"
  | embedding => "embedding"
  | search => "search"
  | music => "music"

/-- In the order in which they are written. -/
def all : List ModelCategory :=
  [vision, omni, imageGeneration, tts, stt, code, embedding, search, music]

theorem mem_all (category : ModelCategory) : category ∈ all := by
  cases category <;> simp [all]

theorem key_injective : Function.Injective key := by
  intro category category' h
  cases category <;> cases category' <;> first | rfl | exact absurd h (by decide)

end ModelCategory

namespace ModelSpec

def primary : ModelSpec → String
  | simple model => model
  | withFallbacks primary _ => primary

def fallbacks : ModelSpec → List String
  | simple _ => []
  | withFallbacks _ fallbacks => fallbacks

def serialize : ModelSpec → Json
  | simple model => .string model
  | withFallbacks primary fallbacks =>
    .object [("primary", .string primary), ("fallbacks", .array (fallbacks.map .string))]

/-- The variants are tried in order, and only the last is an object. -/
def deserialize : Json → Except String ModelSpec
  | .string model => .ok (simple model)
  | .object fields =>
    let fallbacks := ((fields.lookup "fallbacks").map Json.asStrings).getD (some [])
    match (fields.lookup "primary").bind Json.asStr, fallbacks with
    | some primary, some fallbacks => .ok (withFallbacks primary fallbacks)
    | _, _ => .error "data did not match any variant of untagged enum ModelSpec"
  | _ => .error "data did not match any variant of untagged enum ModelSpec"

end ModelSpec

namespace CategoryConfig

def chain (config : CategoryConfig) : ModelCategory → Option (List String)
  | .vision => config.vision
  | .omni => config.omni
  | .imageGeneration => config.imageGeneration
  | .tts => config.tts
  | .stt => config.stt
  | .code => config.code
  | .embedding => config.embedding
  | .search => config.search
  | .music => config.music

def serializeVec (key : String) (val : Option (List String)) : List (String × Json) :=
  match val with
  | some v => if v.isEmpty then [] else [(key, .array (v.map .string))]
  | none => []

def entries (config : CategoryConfig) : List (String × Json) :=
  ("primary", config.primary.serialize) ::
    ModelCategory.all.flatMap fun category ↦ serializeVec category.key (config.chain category)

def serialize (config : CategoryConfig) : Json := .object config.entries

def primaryOnly (primary : ModelSpec) : CategoryConfig where
  primary := primary
  vision := none
  omni := none
  imageGeneration := none
  tts := none
  stt := none
  code := none
  embedding := none
  search := none
  music := none

def missingPrimary : String := "missing field `primary`"

def deserializeLegacy (fields : List (String × Json)) : Except String CategoryConfig :=
  match (fields.lookup "primary").bind Json.asStr with
  | none => .error missingPrimary
  | some primary =>
    -- anything but an array of strings counts as no fallbacks
    .ok (primaryOnly (.withFallbacks primary
      (((fields.lookup "fallbacks").bind Json.asStrings).getD [])))

def deserializePrimary : Json → Except String ModelSpec
  | .string model => .ok (.simple model)
  | .array items =>
    match items.filterMap Json.asStr with
    | [] => .error "primary array must not be empty"
    | [model] => .ok (.simple model)
    | primary :: fallbacks => .ok (.withFallbacks primary fallbacks)
  | .object fields => ModelSpec.deserialize (.object fields)
  | _ => .error "primary must be a string, array, or object"

def optVec (fields : List (String × Json)) (key : String) : Option (List String) :=
  match fields.lookup key with
  | none | some .null => none
  | some (.string model) => if model.isEmpty then none else some [model]
  | some (.array items) =>
    let models := items.filterMap Json.asStr
    if models.isEmpty then none else some models
  | _ => none

def deserializeFull (fields : List (String × Json)) : Except String CategoryConfig :=
  match fields.lookup "primary" with
  | none => .error missingPrimary
  | some value => (deserializePrimary value).map fun primary ↦
    { primary := primary
      vision := optVec fields "vision"
      omni := optVec fields "omni"
      imageGeneration := optVec fields "image_generation"
      tts := optVec fields "tts"
      stt := optVec fields "stt"
      code := optVec fields "code"
      embedding := optVec fields "embedding"
      search := optVec fields "search"
      music := optVec fields "music" }

def deserialize : Json → Except String CategoryConfig
  | .string model => .ok (primaryOnly (.simple model))
  | .object fields =>
    if (fields.lookup "fallbacks").isSome then deserializeLegacy fields
    else deserializeFull fields
  | _ => .error "expected string or object for model config"

@[simp] theorem chain_primaryOnly (primary : ModelSpec) (category : ModelCategory) :
    (primaryOnly primary).chain category = none := by
  cases category <;> rfl

theorem ext_chain {config config' : CategoryConfig} (primary : config.primary = config'.primary)
    (chain : ∀ category, config.chain category = config'.chain category) : config = config' := by
  have hvision := chain .vision
  have homni := chain .omni
  have himageGeneration := chain .imageGeneration
  have htts := chain .tts
  have hstt := chain .stt
  have hcode := chain .code
  have hembedding := chain .embedding
  have hsearch := chain .search
  have hmusic := chain .music
  cases config
  cases config'
  simp_all [CategoryConfig.chain]

theorem deserialize_legacy {fields : List (String × Json)} {primary : String} {fallbacks : Json}
    (hprimary : fields.lookup "primary" = some (.string primary))
    (hfallbacks : fields.lookup "fallbacks" = some fallbacks) :
    deserialize (.object fields) =
      .ok (primaryOnly (.withFallbacks primary (fallbacks.asStrings.getD []))) := by
  simp [deserialize, deserializeLegacy, hprimary, hfallbacks, Json.asStr]

theorem deserialize_full {fields : List (String × Json)} {value : Json} {primary : ModelSpec}
    (hfallbacks : fields.lookup "fallbacks" = none) (hvalue : fields.lookup "primary" = some value)
    (hprimary : deserializePrimary value = .ok primary) :
    ∃ config, deserialize (.object fields) = .ok config ∧ config.primary = primary ∧
      ∀ category, config.chain category = optVec fields category.key := by
  simp only [deserialize, hfallbacks, deserializeFull, hvalue, hprimary]
  exact ⟨_, rfl, rfl, fun category ↦ by cases category <;> rfl⟩

end CategoryConfig

end AdkGateway

namespace AdkGateway

open FallbackChain

namespace CategoryConfig

def firstOr (opt : Option (List String)) : Option String := opt.bind List.head?

def resolve (config : CategoryConfig) (category : String) : Option String :=
  match category with
  | "primary" => some config.primary.primary
  | "vision" => (firstOr config.vision).or (firstOr config.omni)
  | "tts" => (firstOr config.tts).or (firstOr config.omni)
  | "stt" => (firstOr config.stt).or (firstOr config.omni)
  | "omni" => firstOr config.omni
  | "image_generation" => firstOr config.imageGeneration
  | "code" => firstOr config.code
  | "embedding" => firstOr config.embedding
  | "search" => firstOr config.search
  | "music" => firstOr config.music
  | _ => none

def resolveChain (config : CategoryConfig) (category : String) : Option (List String) :=
  let chain := match category with
    | "primary" => none
    | "vision" => config.vision.or config.omni
    | "tts" => config.tts.or config.omni
    | "stt" => config.stt.or config.omni
    | "omni" => config.omni
    | "image_generation" => config.imageGeneration
    | "code" => config.code
    | "embedding" => config.embedding
    | "search" => config.search
    | "music" => config.music
    | _ => none
  chain.filter fun chain ↦ !chain.isEmpty

inductive ModelError
  | chain (e : BuildError)
  | model (e : String)

def primaryChain {Model : Type} (createModel : String → Except String Model)
    (config : CategoryConfig) : Except ModelError (FallbackModelChain Model) :=
  let modelIds := (config.resolveChain "primary").getD [config.primary.primary]
  if 1 < modelIds.length then
    match FallbackModelChain.build createModel modelIds with
    | .ok result => .ok result.chain
    | .error e => .error (.chain e)
  else
    match createModel config.primary.primary with
    | .ok model => .ok (FallbackModelChain.single model config.primary.primary)
    | .error e => .error (.model e)

def Agrees (chain : Option (List String)) (model : Option String) : Prop :=
  (chain.isSome ↔ model.isSome) ∧ ∀ models, chain = some models → models ≠ [] ∧ models.head? = model

structure ChainsAgree (config : CategoryConfig) : Prop where
  resolves : ∀ category, category ≠ "primary" →
    Agrees (config.resolveChain category) (config.resolve category)
  fallbacks : ∀ primary fallbacks, config.primary = .withFallbacks primary fallbacks →
    ∀ (Model : Type) (createModel : String → Except String Model) chain,
      config.primaryChain createModel = .ok chain →
        chain.modelIds = (primary :: fallbacks).filter fun id ↦ (createModel id).isOk

/-- A category is set to no models, although there are models for all. -/
def Shadows (own omni : Option (List String)) : Prop := own = some [] ∧ (firstOr omni).isSome

section Resolution

variable {config : CategoryConfig} {own omni : Option (List String)}

theorem agrees_filter (own : Option (List String)) :
    Agrees (own.filter fun chain ↦ !chain.isEmpty) (firstOr own) := by
  cases own with
  | none => exact ⟨Iff.rfl, fun _ h ↦ by cases h⟩
  | some models =>
    cases models with
    | nil => exact ⟨Iff.rfl, fun _ h ↦ by cases h⟩
    | cons model models =>
      refine ⟨Iff.rfl, fun models' h ↦ ?_⟩
      obtain rfl := Option.some_inj.mp h
      exact ⟨List.cons_ne_nil _ _, rfl⟩

theorem agrees_or_iff : Agrees ((own.or omni).filter fun chain ↦ !chain.isEmpty)
    ((firstOr own).or (firstOr omni)) ↔ ¬ Shadows own omni := by
  cases own with
  | none =>
    rw [Option.none_or]
    exact iff_of_true (agrees_filter omni) fun h ↦ by cases h.1
  | some models =>
    cases models with
    | nil =>
      have hnone : ((some []).or omni).filter (fun chain : List String ↦ !chain.isEmpty) = none := rfl
      have hmodel : (firstOr (some [])).or (firstOr omni) = firstOr omni := rfl
      rw [hnone, hmodel, Shadows, Agrees]
      simp
    | cons model models =>
      rw [Option.some_or]
      have hmodel : (firstOr (some (model :: models))).or (firstOr omni) =
          firstOr (some (model :: models)) := rfl
      rw [hmodel]
      exact iff_of_true (agrees_filter _) fun h ↦ by cases h.1

theorem agrees_of_not_shadows (hvision : ¬ Shadows config.vision config.omni)
    (htts : ¬ Shadows config.tts config.omni) (hstt : ¬ Shadows config.stt config.omni)
    {category : String} (hne : category ≠ "primary") :
    Agrees (config.resolveChain category) (config.resolve category) := by
  unfold resolveChain resolve
  split
  · exact absurd rfl hne
  · exact agrees_or_iff.mpr hvision
  · exact agrees_or_iff.mpr htts
  · exact agrees_or_iff.mpr hstt
  all_goals exact agrees_filter _

theorem primaryChain_modelIds {Model : Type} {createModel : String → Except String Model}
    {chain : FallbackModelChain Model} (h : config.primaryChain createModel = .ok chain) :
    chain.modelIds = [config.primary.primary].filter fun id ↦ (createModel id).isOk := by
  have hcreated : config.primaryChain createModel = match createModel config.primary.primary with
      | .ok model => .ok (FallbackModelChain.single model config.primary.primary)
      | .error e => .error (.model e) := rfl
  rw [hcreated] at h
  cases hmodel : createModel config.primary.primary with
  | error e =>
    rw [hmodel] at h
    cases h
  | ok model =>
    rw [hmodel] at h
    cases h
    simp [FallbackModelChain.single, hmodel, Except.isOk, Except.toBool]

theorem chainsAgree_iff (config : CategoryConfig) : ChainsAgree config ↔
    (¬ Shadows config.vision config.omni ∧ ¬ Shadows config.tts config.omni ∧
      ¬ Shadows config.stt config.omni) ∧ config.primary.fallbacks = [] := by
  constructor
  · intro h
    refine ⟨⟨?_, ?_, ?_⟩, ?_⟩
    · exact agrees_or_iff.mp (h.resolves "vision" (by decide))
    · exact agrees_or_iff.mp (h.resolves "tts" (by decide))
    · exact agrees_or_iff.mp (h.resolves "stt" (by decide))
    · cases hprimary : config.primary with
      | simple model => rfl
      | withFallbacks primary fallbacks =>
        have hids := h.fallbacks primary fallbacks hprimary Unit (fun _ ↦ .ok ())
          (FallbackModelChain.single () config.primary.primary) rfl
        have hall : (primary :: fallbacks).filter
            (fun id ↦ Except.isOk (Except.ok () : Except String Unit)) = primary :: fallbacks :=
          List.filter_true _
        rw [hall] at hids
        exact (List.cons.inj hids).2.symm
  · intro hconditions
    obtain ⟨⟨hvision, htts, hstt⟩, hnone⟩ := hconditions
    refine ⟨fun category hne ↦ agrees_of_not_shadows hvision htts hstt hne, ?_⟩
    intro primary fallbacks hprimary Model createModel chain hchain
    rw [hprimary] at hnone
    obtain rfl : fallbacks = [] := hnone
    rw [primaryChain_modelIds hchain, hprimary]
    rfl

/-- The fallback is not even tried. -/
theorem not_chainsAgree : ¬ ∀ config, ChainsAgree config := by
  intro h
  have hids := (h (primaryOnly (.withFallbacks "anthropic/claude" ["openai/gpt"]))).fallbacks _ _ rfl
    Unit (fun _ ↦ .ok ()) (FallbackModelChain.single () "anthropic/claude") rfl
  exact absurd hids (by decide)

end Resolution

end CategoryConfig

end AdkGateway
