import AdkGateway.CategoryConfig.Codec
import Mathlib.Data.List.Perm.Basic

namespace AdkGateway.CategoryConfig

open Foundation

/-- The models that the value of a category writes: one name or a list of
them. The empty name and `null` write none. -/
inductive Written : Json → List String → Prop
  | null : Written .null []
  | empty : Written (.string "") []
  | name (model : String) (h : model ≠ "") : Written (.string model) [model]
  | list (models : List String) : Written (.array (models.map .string)) models

inductive WrittenPrimary (fields : List (String × Json)) : String → List String → Prop
  | name {primary : String} (hfallbacks : fields.lookup "fallbacks" = none)
      (hprimary : fields.lookup "primary" = some (.string primary)) :
      WrittenPrimary fields primary []
  | beside {primary : String} {fallbacks : List String}
      (hfallbacks : fields.lookup "fallbacks" = some (.array (fallbacks.map .string)))
      (hprimary : fields.lookup "primary" = some (.string primary)) :
      WrittenPrimary fields primary fallbacks
  | list {primary : String} {fallbacks : List String}
      (hfallbacks : fields.lookup "fallbacks" = none)
      (hprimary : fields.lookup "primary" = some (.array ((primary :: fallbacks).map .string))) :
      WrittenPrimary fields primary fallbacks
  | within {primary : String} {fallbacks : List String} {spec : List (String × Json)}
      (hfallbacks : fields.lookup "fallbacks" = none)
      (hspec : fields.lookup "primary" = some (.object spec))
      (hprimary : spec.lookup "primary" = some (.string primary))
      (hwithin : spec.lookup "fallbacks" = some (.array (fallbacks.map .string))) :
      WrittenPrimary fields primary fallbacks
  | alone {primary : String} {spec : List (String × Json)}
      (hfallbacks : fields.lookup "fallbacks" = none)
      (hspec : fields.lookup "primary" = some (.object spec))
      (hprimary : spec.lookup "primary" = some (.string primary))
      (hwithin : spec.lookup "fallbacks" = none) :
      WrittenPrimary fields primary []

/-- An object in one of the formats of the configuration file. -/
structure Documented (fields : List (String × Json)) : Prop where
  primary : ∃ primary fallbacks, WrittenPrimary fields primary fallbacks
  category : ∀ (category : ModelCategory) (value : Json),
    fields.lookup category.key = some value → ∃ models, Written value models

/-- What an object writes is what the configuration says. -/
structure Kept (fields : List (String × Json)) (config : CategoryConfig) : Prop where
  primary : ∀ primary fallbacks, WrittenPrimary fields primary fallbacks →
    config.primary.primary = primary ∧ config.primary.fallbacks = fallbacks
  category : ∀ (category : ModelCategory) (value : Json) (models : List String),
    fields.lookup category.key = some value → Written value models → models ≠ [] →
    config.chain category = some models

/-- No category key of an object writes a model. -/
def NoCategory (fields : List (String × Json)) : Prop :=
  ∀ (category : ModelCategory) (value : Json) (models : List String),
    fields.lookup category.key = some value → Written value models → models = []

theorem optVec_written {fields : List (String × Json)} {key : String} {value : Json}
    {models : List String} (hvalue : fields.lookup key = some value)
    (hwritten : Written value models) :
    optVec fields key = if models.isEmpty then none else some models := by
  cases hwritten with
  | null => simp [optVec, hvalue]
  | empty => simp [optVec, hvalue]
  | name model h => simp [optVec, hvalue, h]
  | list models => simp only [optVec, hvalue, Json.filterMap_asStr_map_string]

theorem deserializePrimary_list (primary : String) (fallbacks : List String) :
    ∃ spec, deserializePrimary (.array ((primary :: fallbacks).map .string)) = .ok spec ∧
      spec.primary = primary ∧ spec.fallbacks = fallbacks := by
  rw [deserializePrimary, Json.filterMap_asStr_map_string]
  cases fallbacks with
  | nil => exact ⟨_, rfl, rfl, rfl⟩
  | cons fallback fallbacks => exact ⟨_, rfl, rfl, rfl⟩

theorem deserializePrimary_within {fields : List (String × Json)} {primary : String}
    {fallbacks : List String} (hprimary : fields.lookup "primary" = some (.string primary))
    (hfallbacks : fields.lookup "fallbacks" = some (.array (fallbacks.map .string))) :
    deserializePrimary (.object fields) = .ok (.withFallbacks primary fallbacks) := by
  simp [deserializePrimary, ModelSpec.deserialize, hprimary, hfallbacks, Json.asStr]

theorem deserializePrimary_alone {fields : List (String × Json)} {primary : String}
    (hprimary : fields.lookup "primary" = some (.string primary))
    (hfallbacks : fields.lookup "fallbacks" = none) :
    deserializePrimary (.object fields) = .ok (.withFallbacks primary []) := by
  simp [deserializePrimary, ModelSpec.deserialize, hprimary, hfallbacks, Json.asStr]

theorem deserializePrimary_serialize (spec : ModelSpec) :
    deserializePrimary spec.serialize = .ok spec := by
  cases spec with
  | simple model => rfl
  | withFallbacks primary fallbacks =>
    exact deserializePrimary_within rfl rfl

theorem writtenPrimary_full {fields : List (String × Json)} {primary : String}
    {fallbacks : List String} (hfallbacks : fields.lookup "fallbacks" = none)
    (h : WrittenPrimary fields primary fallbacks) :
    ∃ value spec, fields.lookup "primary" = some value ∧ deserializePrimary value = .ok spec ∧
      spec.primary = primary ∧ spec.fallbacks = fallbacks := by
  cases h with
  | name _ hprimary => exact ⟨_, _, hprimary, rfl, rfl, rfl⟩
  | beside hpresent => simp [hpresent] at hfallbacks
  | list _ hprimary =>
    obtain ⟨spec, hspec⟩ := deserializePrimary_list primary fallbacks
    exact ⟨_, spec, hprimary, hspec⟩
  | within _ hspec hprimary hwithin =>
    exact ⟨_, _, hspec, deserializePrimary_within hprimary hwithin, rfl, rfl⟩
  | alone _ hspec hprimary hwithin =>
    exact ⟨_, _, hspec, deserializePrimary_alone hprimary hwithin, rfl, rfl⟩

theorem kept_full {fields : List (String × Json)} (hdocumented : Documented fields)
    (hfallbacks : fields.lookup "fallbacks" = none) :
    ∃ config, deserialize (.object fields) = .ok config ∧ Kept fields config := by
  obtain ⟨primary, fallbacks, hwritten⟩ := hdocumented.primary
  obtain ⟨value, spec, hvalue, hspec, -, -⟩ := writtenPrimary_full hfallbacks hwritten
  obtain ⟨config, hconfig, hprimary, hchain⟩ := deserialize_full hfallbacks hvalue hspec
  refine ⟨config, hconfig, ⟨?_, ?_⟩⟩
  · intro primary' fallbacks' hwritten'
    obtain ⟨value', spec', hvalue', hspec', hread⟩ := writtenPrimary_full hfallbacks hwritten'
    obtain rfl : value = value' := Option.some.inj (hvalue.symm.trans hvalue')
    obtain rfl : spec = spec' := Except.ok.inj (hspec.symm.trans hspec')
    rwa [hprimary]
  · intro category value models hlookup hmodels hne
    rw [hchain, optVec_written hlookup hmodels, if_neg (by simpa using hne)]

theorem writtenPrimary_legacy {fields : List (String × Json)} {value : Json} {primary : String}
    {fallbacks : List String} (hfallbacks : fields.lookup "fallbacks" = some value)
    (h : WrittenPrimary fields primary fallbacks) :
    fields.lookup "primary" = some (.string primary) ∧ value.asStrings = some fallbacks := by
  cases h with
  | beside hlist hprimary =>
    obtain rfl := Option.some.inj (hfallbacks.symm.trans hlist)
    exact ⟨hprimary, Json.asStrings_array fallbacks⟩
  | name hnone | list hnone | within hnone | alone hnone => simp [hfallbacks] at hnone

/-- With the key of the old format present, the category keys are not looked at. -/
theorem kept_legacy_iff {fields : List (String × Json)} (hdocumented : Documented fields)
    {value : Json} (hfallbacks : fields.lookup "fallbacks" = some value) :
    ∃ config, deserialize (.object fields) = .ok config ∧
      (Kept fields config ↔ NoCategory fields) := by
  obtain ⟨primary, fallbacks, hwritten⟩ := hdocumented.primary
  obtain ⟨hprimary, hvalue⟩ := writtenPrimary_legacy hfallbacks hwritten
  have hread := deserialize_legacy hprimary hfallbacks
  rw [hvalue, Option.getD_some] at hread
  refine ⟨_, hread, ?_, ?_⟩
  · intro hkept category value' models hlookup hmodels
    by_contra hne
    simpa using hkept.category category value' models hlookup hmodels hne
  · intro hnone
    refine ⟨?_, fun category value' models hlookup hmodels hne ↦
      absurd (hnone category value' models hlookup hmodels) hne⟩
    intro primary' fallbacks' hwritten'
    obtain ⟨hprimary', hvalue'⟩ := writtenPrimary_legacy hfallbacks hwritten'
    have heq : primary = primary' := by
      simpa using hprimary.symm.trans hprimary'
    exact ⟨heq, Option.some.inj (hvalue.symm.trans hvalue')⟩

/-- The empty lists of models become absent. -/
def dropEmpty (config : CategoryConfig) : CategoryConfig where
  primary := config.primary
  vision := config.vision.filter fun v ↦ !v.isEmpty
  omni := config.omni.filter fun v ↦ !v.isEmpty
  imageGeneration := config.imageGeneration.filter fun v ↦ !v.isEmpty
  tts := config.tts.filter fun v ↦ !v.isEmpty
  stt := config.stt.filter fun v ↦ !v.isEmpty
  code := config.code.filter fun v ↦ !v.isEmpty
  embedding := config.embedding.filter fun v ↦ !v.isEmpty
  search := config.search.filter fun v ↦ !v.isEmpty
  music := config.music.filter fun v ↦ !v.isEmpty

@[simp] theorem chain_dropEmpty (config : CategoryConfig) (category : ModelCategory) :
    config.dropEmpty.chain category = (config.chain category).filter fun v ↦ !v.isEmpty := by
  cases category <;> rfl

theorem mem_serializeVec {key : String} {val : Option (List String)} {entry : String × Json} :
    entry ∈ serializeVec key val ↔
      ∃ models, val = some models ∧ models ≠ [] ∧ entry = (key, .array (models.map .string)) := by
  cases val with
  | none => simp [serializeVec]
  | some models => cases models <;> simp [serializeVec]

theorem mem_entries {config : CategoryConfig} {key : String} {value : Json} :
    (key, value) ∈ config.entries ↔
      (key = "primary" ∧ value = config.primary.serialize) ∨
        ∃ category models, config.chain category = some models ∧ models ≠ [] ∧
          key = category.key ∧ value = .array (models.map .string) := by
  simp only [entries, List.mem_cons, Prod.mk.injEq, List.mem_flatMap, ModelCategory.mem_all,
    true_and, mem_serializeVec]

theorem keys_serializeVec_sublist (key : String) (val : Option (List String)) :
    ((serializeVec key val).map Prod.fst).Sublist [key] := by
  cases val with
  | none => simp [serializeVec]
  | some models => cases models <;> simp [serializeVec]

theorem nodup_keys_entries (config : CategoryConfig) : (config.entries.map Prod.fst).Nodup := by
  have hsub (categories : List ModelCategory) :
      ((categories.flatMap fun category ↦
        serializeVec category.key (config.chain category)).map Prod.fst).Sublist
        (categories.map ModelCategory.key) := by
    induction categories with
    | nil => simp
    | cons category categories ih =>
      simpa using (keys_serializeVec_sublist category.key (config.chain category)).append ih
  have hall : ("primary" :: ModelCategory.all.map ModelCategory.key).Nodup := by decide
  exact hall.sublist ((hsub ModelCategory.all).cons_cons _)

theorem lookup_of_perm_entries {config : CategoryConfig} {fields : List (String × Json)}
    (h : fields.Perm config.entries) {key : String} {value : Json} :
    fields.lookup key = some value ↔ (key, value) ∈ config.entries := by
  have hnodup : (fields.map Prod.fst).Nodup :=
    (h.map Prod.fst).nodup_iff.mpr (nodup_keys_entries config)
  rw [Json.lookup_eq_some_iff_mem hnodup, h.mem_iff]

theorem optVec_of_perm_entries {config : CategoryConfig} {fields : List (String × Json)}
    (h : fields.Perm config.entries) (category : ModelCategory) :
    optVec fields category.key = (config.chain category).filter fun v ↦ !v.isEmpty := by
  have hkey : category.key ≠ "primary" := by cases category <;> decide
  by_cases hmodels : ∃ models, config.chain category = some models ∧ models ≠ []
  · obtain ⟨models, hchain, hne⟩ := hmodels
    have hlookup : fields.lookup category.key = some (.array (models.map .string)) :=
      (lookup_of_perm_entries h).mpr
        (mem_entries.mpr (.inr ⟨category, models, hchain, hne, rfl, rfl⟩))
    rw [optVec_written hlookup (.list models), hchain]
    cases models with
    | nil => exact absurd rfl hne
    | cons model models => rfl
  · have hlookup : fields.lookup category.key = none := by
      rw [Option.eq_none_iff_forall_ne_some]
      intro value hvalue
      obtain ⟨hprimary, -⟩ | ⟨category', models, hchain, hne, hcategory, -⟩ :=
        mem_entries.mp ((lookup_of_perm_entries h).mp hvalue)
      · exact hkey hprimary
      · obtain rfl := ModelCategory.key_injective hcategory
        exact hmodels ⟨models, hchain, hne⟩
    have hempty (models : List String) (hchain : config.chain category = some models) :
        models = [] := by
      by_contra hne
      exact hmodels ⟨models, hchain, hne⟩
    cases hchain : config.chain category with
    | none => simp [optVec, hlookup]
    | some models =>
      rw [hempty models hchain]
      simp only [optVec, hlookup]
      rfl

/-- Whatever the order in which the entries are read back. -/
theorem deserialize_of_perm_entries (config : CategoryConfig) {fields : List (String × Json)}
    (h : fields.Perm config.entries) :
    deserialize (.object fields) = .ok config.dropEmpty := by
  have hfallbacks : fields.lookup "fallbacks" = none := by
    rw [Option.eq_none_iff_forall_ne_some]
    intro value hvalue
    obtain ⟨hprimary, -⟩ | ⟨category, models, -, -, hcategory, -⟩ :=
      mem_entries.mp ((lookup_of_perm_entries h).mp hvalue)
    · exact absurd hprimary (by decide)
    · exact absurd hcategory (by cases category <;> decide)
  have hvalue : fields.lookup "primary" = some config.primary.serialize :=
    (lookup_of_perm_entries h).mpr (mem_entries.mpr (.inl ⟨rfl, rfl⟩))
  obtain ⟨config', hconfig, hprimary, hchain⟩ :=
    deserialize_full hfallbacks hvalue (deserializePrimary_serialize config.primary)
  have hread : config' = config.dropEmpty := by
    refine ext_chain hprimary fun category ↦ ?_
    rw [hchain, optVec_of_perm_entries h, chain_dropEmpty]
  rw [hconfig, hread]

/-- What is serialized is read back, the empty lists apart. A documented object
is read as it is written exactly when it does not write both the fallbacks
of the old format and a category. -/
theorem deserialize_faithful (config : CategoryConfig) {serialized : List (String × Json)}
    (hserialized : serialized.Perm config.entries) {fields : List (String × Json)}
    (hdocumented : Documented fields) :
    deserialize (.object serialized) = .ok config.dropEmpty ∧
      ∃ read, deserialize (.object fields) = .ok read ∧
        (Kept fields read ↔ fields.lookup "fallbacks" = none ∨ NoCategory fields) := by
  refine ⟨deserialize_of_perm_entries config hserialized, ?_⟩
  cases hfallbacks : fields.lookup "fallbacks" with
  | none =>
    obtain ⟨read, hread, hkept⟩ := kept_full hdocumented hfallbacks
    exact ⟨read, hread, by simp [hkept]⟩
  | some value => simpa using kept_legacy_iff hdocumented hfallbacks

theorem deserialize_faithful_once :
    deserialize (.object [("tts", .array [.string "t"]), ("primary", .string "p")]) =
      .ok (dropEmpty { primaryOnly (.simple "p") with vision := some [], tts := some ["t"] }) ∧
    ∃ read, deserialize (.object [("primary", .string "p"), ("code", .string "c")]) = .ok read ∧
      Kept [("primary", .string "p"), ("code", .string "c")] read := by
  have hdocumented : Documented [("primary", .string "p"), ("code", .string "c")] := by
    refine ⟨⟨"p", [], .name rfl rfl⟩, ?_⟩
    intro category value hvalue
    cases category <;> cases hvalue
    exact ⟨["c"], .name "c" (by decide)⟩
  obtain ⟨hserialized, read, hread, hkept⟩ := deserialize_faithful
    { primaryOnly (.simple "p") with vision := some [], tts := some ["t"] } (.swap _ _ [])
    hdocumented
  exact ⟨hserialized, read, hread, hkept.mpr (.inl rfl)⟩

/-- An object with the fallbacks of the old format loses its model for images. -/
theorem deserialize_fallbacks_and_vision :
    Documented [("primary", .string "p"), ("fallbacks", .array [.string "f"]),
      ("vision", .string "v")] ∧
    ∃ config, deserialize (.object [("primary", .string "p"),
        ("fallbacks", .array [.string "f"]), ("vision", .string "v")]) = .ok config ∧
      config.vision = none ∧
      ¬ Kept [("primary", .string "p"), ("fallbacks", .array [.string "f"]),
        ("vision", .string "v")] config := by
  refine ⟨⟨⟨"p", ["f"], .beside rfl rfl⟩, ?_⟩,
    primaryOnly (.withFallbacks "p" ["f"]), rfl, rfl, ?_⟩
  · intro category value hvalue
    cases category <;> cases hvalue
    exact ⟨["v"], .name "v" (by decide)⟩
  · intro hkept
    have hvision := hkept.category .vision (.string "v") ["v"] rfl (.name "v" (by decide))
      (by decide)
    exact absurd hvision (by decide)

end AdkGateway.CategoryConfig
