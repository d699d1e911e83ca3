import AdkGateway.SchemaSanitizer.Depth

namespace AdkGateway.SchemaSanitizer

open Foundation

def dataKeywords : List String := ["default", "const", "enum", "examples"]

structure Intact (p : Provider) (schema sanitized : Value) : Prop where
  properties : ∀ declared, schema.get "properties" = some (.object declared) →
    ∀ property ∈ declared, (sanitized.get "properties").bind (Value.get property.1) =
      some (sanitizeRecursive p property.2)
  data : ∀ key ∈ dataKeywords, ∀ value, schema.get key = some value →
    sanitized.get key = some value

structure StaysIntact (p : Provider) (sanitize : Value → Value) (schema : Value) : Prop where
  whole : Intact p schema (sanitize schema)
  nested : Value.Each positions (fun k fields ↦ k = .schema →
    Intact p (.object fields) (sanitizeRecursive p (.object fields))) .schema schema

/-- A list of objects is taken for positional parameters. -/
def Untupled (p : Provider) (value : Value) : Prop :=
  p.convertsTuples = true → ∀ items, value = .array items → isTuple items = false

/-- Neither the names of what is declared nor the data look like anything to sanitize. -/
structure Unmistakable (p : Provider) (fields : Fields) : Prop where
  properties : ∀ declared, fields.lookup "properties" = some (.object declared) → Quiet p declared
  data : ∀ key ∈ dataKeywords, ∀ value, fields.lookup key = some value →
    Inert p value ∧ Untupled p value

def NothingMistaken (p : Provider) (schema : Value) : Prop :=
  Value.Each positions (fun k fields ↦ k = .schema → Unmistakable p fields) .schema schema

section Node

variable {p : Provider} {fields : Fields} {key : String} {value : Value}

theorem quiet_iff_declared (hkeys : fields.keys.Nodup) : Quiet p fields ↔
    ∀ property ∈ fields,
      (newFields p fields).lookup property.1 = some (sanitizeRecursive p property.2) := by
  constructor
  · intro h property hproperty
    obtain ⟨name, declared⟩ := property
    have hlookup := (Fields.mem_iff_lookup hkeys).mp hproperty
    rw [lookup_of_part hkeys hproperty (part_of_quiet h hlookup), sanitizeAs_of_quiet h hlookup]
  · intro h
    refine quiet_of_sameShape hkeys fun name declared hlookup ↦ ?_
    have hproperty := (Fields.mem_iff_lookup hkeys).mpr hlookup
    exact ⟨_, h _ hproperty, isArray_sanitizeRecursive declared, frontDepth_sanitizeRecursive declared⟩

def handledKeys : List String :=
  ["propertyNames", "type", "items", "nullable", "minimum", "maximum", "exclusiveMinimum",
    "exclusiveMaximum"]

theorem lookup_unhandled (hkeys : fields.keys.Nodup) (hkey : key ∉ handledKeys) :
    (newFields p fields).lookup key = (fields.lookup key).map (sanitizeValue p) := by
  simp only [handledKeys, List.mem_cons, List.not_mem_nil, or_false, not_or] at hkey
  obtain ⟨hnames, htype, hitems, hnullable, hminimum, hmaximum, hlower, hupper⟩ := hkey
  rw [lookup_newFields _ hkeys (not_isBound hminimum hmaximum) fun h ↦ hnullable h.1]
  cases fields.lookup key with
  | none => rfl
  | some value =>
    have hexclusive (side : Side) : key ≠ side.exclusive := by
      cases side with
      | lower => exact hlower
      | upper => exact hupper
    rw [Option.bind_some, own_plain hnames (fun h ↦ absurd h htype) fun _ ↦ hexclusive]
    exact if_neg hitems

theorem dataKeywords_unhandled : ∀ key ∈ dataKeywords, key ∉ handledKeys := by decide

theorem sanitizeValue_eq_self_iff (hv : value.Distinct) :
    sanitizeValue p value = value ↔ Inert p value ∧ Untupled p value := by
  cases value with
  | array items =>
    rw [sanitizeValue_array]
    cases htuple : p.convertsTuples && isTuple items with
    | true =>
      rw [if_pos rfl]
      obtain ⟨hp, hitems⟩ := Bool.and_eq_true_iff.mp htuple
      refine iff_of_false nofun fun h ↦ ?_
      cases (h.2 hp items rfl).symm.trans hitems
    | false =>
      rw [if_neg Bool.false_ne_true, ← sanitizeRecursive_array, sanitizeRecursive_eq_self_iff hv]
      refine (and_iff_left_of_imp fun _ hp items' heq ↦ ?_).symm
      obtain rfl := Value.array.inj heq
      rwa [hp, Bool.true_and] at htuple
  | object fields =>
    have huntupled : Untupled p (.object fields) := fun _ _ heq ↦ nomatch heq
    exact (sanitizeRecursive_eq_self_iff hv).trans (and_iff_left huntupled).symm
  | _ =>
    refine (sanitizeRecursive_eq_self_iff hv).trans (and_iff_left ?_).symm
    exact fun _ _ heq ↦ nomatch heq

theorem intact_iff (hv : (Value.object fields).Distinct) :
    Intact p (.object fields) (sanitizeRecursive p (.object fields)) ↔ Unmistakable p fields := by
  obtain ⟨hkeys, hvalues⟩ := Value.distinct_object.mp hv
  rw [sanitizeRecursive_object]
  have hproperties (declared : Fields) (hlookup : fields.lookup "properties" = some (.object declared)) :
      (∀ property ∈ declared, ((newFields p fields).lookup "properties").bind
          (Value.get property.1) = some (sanitizeRecursive p property.2)) ↔ Quiet p declared := by
    have hdistinct := hvalues _ ((Fields.mem_iff_lookup hkeys).mpr hlookup)
    obtain ⟨hdeclared, -⟩ := Value.distinct_object.mp hdistinct
    have hnew : sanitizeValue p (.object declared) = .object (newFields p declared) :=
      sanitizeRecursive_object p declared
    rw [quiet_iff_declared hdeclared, lookup_unhandled hkeys (by decide), hlookup,
      Option.map_some, hnew]
    rfl
  have hdata {key : String} (hkey : key ∈ dataKeywords) {value : Value}
      (hlookup : fields.lookup key = some value) :
      (newFields p fields).lookup key = some value ↔ Inert p value ∧ Untupled p value := by
    rw [lookup_unhandled hkeys (dataKeywords_unhandled key hkey), hlookup, Option.map_some,
      Option.some_inj]
    exact sanitizeValue_eq_self_iff (hvalues _ ((Fields.mem_iff_lookup hkeys).mpr hlookup))
  constructor
  · intro h
    refine ⟨fun declared hlookup ↦ ?_, fun key hkey value hlookup ↦ ?_⟩
    · exact (hproperties declared hlookup).mp (h.properties declared hlookup)
    · exact (hdata hkey hlookup).mp (h.data key hkey value hlookup)
  · intro h
    refine ⟨fun declared hlookup ↦ ?_, fun key hkey value hlookup ↦ ?_⟩
    · exact (hproperties declared hlookup).mpr (h.properties declared hlookup)
    · exact (hdata hkey hlookup).mpr (h.data key hkey value hlookup)

end Node

section Whole

variable {p : Provider} {v : Value}

theorem intact_of_not_object {sanitized : Value} (hv : v.isObject = false) :
    Intact p v sanitized := by
  have hget (key : String) : v.get key = none := by
    cases v with
    | object fields => cases hv
    | _ => rfl
  refine ⟨fun declared hlookup ↦ ?_, fun key _ value hlookup ↦ ?_⟩
  · cases (hget _).symm.trans hlookup
  · cases (hget _).symm.trans hlookup

theorem intact_congr {schema sanitized sanitized' : Value}
    (h : ∀ key ∈ "properties" :: dataKeywords, sanitized'.get key = sanitized.get key) :
    Intact p schema sanitized' ↔ Intact p schema sanitized := by
  have hdata (key : String) (hkey : key ∈ dataKeywords) := h key (List.mem_cons_of_mem _ hkey)
  constructor
  · intro hintact
    refine ⟨fun declared hlookup ↦ ?_, fun key hkey value hlookup ↦ ?_⟩
    · exact h "properties" List.mem_cons_self ▸ hintact.properties declared hlookup
    · exact hdata key hkey ▸ hintact.data key hkey value hlookup
  · intro hintact
    refine ⟨fun declared hlookup ↦ ?_, fun key hkey value hlookup ↦ ?_⟩
    · exact (h "properties" List.mem_cons_self).symm ▸ hintact.properties declared hlookup
    · exact (hdata key hkey).symm ▸ hintact.data key hkey value hlookup

theorem staysIntact_iff {sanitize : Value → Value} (hv : v.Distinct)
    (hsame : v.isObject = true → ∀ key ∈ "properties" :: dataKeywords,
      (sanitize v).get key = (sanitizeRecursive p v).get key) :
    StaysIntact p sanitize v ↔ NothingMistaken p v := by
  have hnested : Value.Each positions (fun k fields ↦ k = .schema →
      Intact p (.object fields) (sanitizeRecursive p (.object fields))) .schema v ↔
      NothingMistaken p v :=
    Value.each_congr hv fun _ _ hfields ↦ forall_congr' fun _ ↦ intact_iff hfields
  rw [← hnested]
  refine ⟨StaysIntact.nested, fun h ↦ ⟨?_, h⟩⟩
  cases v with
  | object fields => exact (intact_congr (hsame rfl)).mpr ((Value.each_object.mp h).1 rfl)
  | _ => exact intact_of_not_object rfl

end Whole

/-- Both sanitizers keep what is declared and the data just where nothing can be mistaken. -/
theorem staysIntact_both_iff (schema : Document) :
    StaysIntact gemini GeminiSanitizer.sanitize schema.value ∧
        StaysIntact openAI OpenAISanitizer.sanitize schema.value ↔
      NothingMistaken gemini schema.value ∧ NothingMistaken openAI schema.value := by
  refine and_congr (staysIntact_iff schema.distinct fun _ _ _ ↦ rfl)
    (staysIntact_iff schema.distinct fun hobject key hkey ↦ ?_)
  cases hschema : schema.value with
  | object fields =>
    have hne : key ≠ "type" := by
      rintro rfl
      exact absurd hkey (by decide)
    rw [sanitize_object, sanitizeRecursive_object]
    exact (rooted_spec _).1 key hne
  | _ =>
    rw [hschema] at hobject
    cases hobject

def declaresPropertyNames : Value :=
  .object [("type", .string "object"),
    ("properties", .object [("propertyNames", .object [("type", .string "string")])])]

theorem not_staysIntact : ¬ ∀ schema : Document,
    StaysIntact gemini GeminiSanitizer.sanitize schema.value ∧
      StaysIntact openAI OpenAISanitizer.sanitize schema.value := by
  intro h
  have hstring (s : String) : (Value.string s).Distinct := trivial
  have hdistinct : declaresPropertyNames.Distinct := by
    simp [declaresPropertyNames, Value.distinct_object, Fields.keys, hstring]
  have hmistaken := (staysIntact_iff hdistinct fun _ _ _ ↦ rfl).mp (h ⟨_, hdistinct⟩).1
  have hquiet := ((Value.each_object.mp hmistaken).1 rfl).properties _ rfl
  cases hquiet.noNames

end AdkGateway.SchemaSanitizer
