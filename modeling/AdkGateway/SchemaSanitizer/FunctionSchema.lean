import AdkGateway.SchemaSanitizer.Declared

namespace AdkGateway.SchemaSanitizer

open Foundation OpenAISanitizer

def combinators : List String := ["anyOf", "oneOf", "allOf"]

def MembersStay (schema sanitized : Value) : Prop :=
  ∀ key ∈ combinators, ∀ items, schema.get key = some (.array items) →
    (∀ item ∈ items, item.isObject = true) →
    sanitized.get key = some (.array (items.map (sanitizeRecursive openAI)))

structure MakesFunctionSchema (schema : Value) : Prop where
  object : (sanitize schema).get "type" = some (.string "object")
  whole : MembersStay schema (sanitize schema)
  nested : Value.Each positions (fun k fields ↦ k = .schema →
    MembersStay (.object fields) (sanitizeRecursive openAI (.object fields))) .schema schema

/-- The single type that is left of the `type` of an object. -/
def topType (fields : Fields) : Option String :=
  (typeInfo openAI fields).resolvedType.or ((fields.lookup "type").bind Value.asStr)

/-- A list, or an object that is typed as one, has properties, or has no type and something else
that is not left out. -/
def Rooted : Value → Prop
  | .array _ => True
  | .object fields => topType fields = some "object" ∨ fields.lookup "properties" ≠ none ∨
      topType fields = none ∧
        ∃ field ∈ fields, field.1 ≠ "propertyNames" ∧ field ≠ ("items", .array [])
  | _ => False

/-- There are no objects to combine. -/
def NothingCombined (fields : Fields) : Prop :=
  ∀ key ∈ combinators, ∀ items, fields.lookup key = some (.array items) → isTuple items = false

section Members

variable {fields : Fields}

theorem combinators_unhandled : ∀ key ∈ combinators, key ∉ handledKeys := by decide

theorem membersStay_iff (hkeys : fields.keys.Nodup) :
    MembersStay (.object fields) (sanitizeRecursive openAI (.object fields)) ↔
      NothingCombined fields := by
  rw [sanitizeRecursive_object]
  refine forall₂_congr fun key hkey ↦ forall₂_congr fun items hitems ↦ ?_
  have hlookup : (newFields openAI fields).lookup key = some (sanitizeValue openAI (.array items)) := by
    rw [lookup_unhandled hkeys (combinators_unhandled key hkey), show fields.lookup key = _ from hitems,
      Option.map_some]
  rw [Value.get, hlookup, sanitizeValue_array, show openAI.convertsTuples = true from rfl,
    Bool.true_and]
  cases htuple : isTuple items with
  | true =>
    have hall : ∀ item ∈ items, item.isObject = true :=
      List.all_eq_true.mp (Bool.and_eq_true_iff.mp htuple).2
    rw [if_pos rfl]
    exact iff_of_false (fun h ↦ nomatch h hall) nofun
  | false =>
    rw [if_neg Bool.false_ne_true]
    exact iff_of_true (fun _ ↦ rfl) rfl

theorem membersStay_whole {schema : Value}
    (h : ∀ fields, schema = .object fields →
      MembersStay schema (sanitizeRecursive openAI (.object fields))) :
    MembersStay schema (sanitize schema) := by
  intro key hkey items hitems hall
  cases schema with
  | object fields =>
    have hne : key ≠ "type" := by
      rintro rfl
      exact absurd hkey (by decide)
    have hnested := h fields rfl key hkey items hitems hall
    rw [sanitizeRecursive_object] at hnested
    rw [sanitize_object]
    exact ((rooted_spec _).1 key hne).trans hnested
  | _ => cases hitems

end Members

section Root

variable {fields : Fields}

theorem asStr_sanitizeValue (value : Value) : (sanitizeValue openAI value).asStr = value.asStr := by
  cases value with
  | array items =>
    rw [sanitizeValue_array]
    split <;> rfl
  | _ => exact asStr_sanitizeRecursive _

theorem topType_newFields (hkeys : fields.keys.Nodup) :
    ((newFields openAI fields).lookup "type").bind Value.asStr = topType fields := by
  rw [lookup_type hkeys, topType]
  cases hresolved : (typeInfo openAI fields).resolvedType with
  | some type =>
    obtain ⟨items, hitems⟩ := resolvedType_eq_some hresolved
    rw [hitems]
    rfl
  | none =>
    rw [Option.none_or]
    cases fields.lookup "type" with
    | none => rfl
    | some value => exact asStr_sanitizeValue value

theorem entry_eq_none_iff {field : String × Value}
    (h : (typeInfo openAI fields).resolvedType = none) :
    entry openAI (typeInfo openAI fields) field = none ↔
      field.1 = "propertyNames" ∨ field = ("items", .array []) := by
  obtain ⟨key, value⟩ := field
  have hinteger : (typeInfo openAI fields).isIntegerType = false := rfl
  by_cases hnames : key = "propertyNames"
  · subst hnames
    exact iff_of_true rfl (.inl rfl)
  · rw [entry_plain hnames (fun _ ↦ h) fun htrue ↦ absurd (hinteger.symm.trans htrue) Bool.false_ne_true,
      or_iff_right hnames, Prod.mk.injEq]
    split
    next hitems =>
      rw [Option.map_eq_none_iff, and_iff_right hitems]
      cases value with
      | array items => cases items <;> simp [single]
      | _ => simp [single]
    next hitems => exact iff_of_false (fun h ↦ by cases h) fun heq ↦ hitems heq.1

theorem insertAll_eq_nil_iff {entries : Fields} : Fields.insertAll entries [] = [] ↔ entries = [] := by
  constructor
  · intro h
    cases hreverse : entries.reverse with
    | nil => exact List.reverse_eq_nil_iff.mp hreverse
    | cons entry rest =>
      have hlookup : (Fields.insertAll entries []).lookup entry.1 = some entry.2 := by
        rw [Fields.lookup_insertAll, hreverse, Fields.lookup_cons, if_pos rfl, Option.some_or]
      rw [h] at hlookup
      cases hlookup
  · rintro rfl
    rfl

theorem newFields_eq_nil_iff (h : (typeInfo openAI fields).resolvedType = none) :
    newFields openAI fields = [] ↔
      ∀ field ∈ fields, field.1 = "propertyNames" ∨ field = ("items", .array []) := by
  have hnullable : nullableEntry (typeInfo openAI fields) = [] := rfl
  rw [newFields, hnullable, List.append_nil, insertAll_eq_nil_iff, List.filterMap_eq_nil_iff]
  exact forall₂_congr fun field _ ↦ entry_eq_none_iff h

theorem type_rooted_iff : (rooted fields).lookup "type" = some (.string "object") ↔
    (fields.lookup "type").bind Value.asStr = some "object" ∨ fields.lookup "properties" ≠ none ∨
      (fields.lookup "type").bind Value.asStr = none ∧ fields ≠ [] := by
  rw [rooted]
  split
  next htype =>
    refine iff_of_true ?_ (.inl htype)
    obtain ⟨value, hvalue, hstr⟩ := Option.bind_eq_some_iff.mp htype
    rw [hvalue, Value.asStr_eq_some hstr]
  next htype =>
    rw [or_iff_right htype]
    split
    next h =>
      refine iff_of_true (Fields.lookup_insert.trans (if_pos rfl)) ?_
      simpa [Option.ne_none_iff_isSome, List.isEmpty_iff] using h
    next h =>
      refine iff_of_false (fun hlookup ↦ htype ?_) ?_
      · rw [hlookup]
        rfl
      · simpa [Option.ne_none_iff_isSome, List.isEmpty_iff] using h

theorem sanitize_type_iff {schema : Value} (hv : schema.Distinct) :
    (sanitize schema).get "type" = some (.string "object") ↔ Rooted schema := by
  cases schema with
  | array items =>
    refine iff_of_true ?_ trivial
    cases items <;> rfl
  | object fields =>
    obtain ⟨hkeys, -⟩ := Value.distinct_object.mp hv
    rw [sanitize_object, Value.get, type_rooted_iff, topType_newFields hkeys,
      lookup_unhandled hkeys (by decide), Rooted]
    refine or_congr_right (or_congr ?_ (and_congr_right fun htop ↦ ?_))
    · rw [Ne, Option.map_eq_none_iff]
    · have hresolved : (typeInfo openAI fields).resolvedType = none :=
        (Option.or_eq_none_iff.mp htop).1
      rw [Ne, newFields_eq_nil_iff hresolved]
      simp only [not_forall, not_or, exists_prop, Ne]
  | _ => exact iff_of_false nofun id

end Root

/-- The OpenAI sanitizer makes a function schema just of a document that is rooted and has no objects
to combine anywhere. -/
theorem makesFunctionSchema_iff (schema : Document) : MakesFunctionSchema schema.value ↔
    Rooted schema.value ∧
      Value.Each positions (fun k fields ↦ k = .schema → NothingCombined fields) .schema
        schema.value := by
  have hnested : Value.Each positions (fun k fields ↦ k = .schema →
      MembersStay (.object fields) (sanitizeRecursive openAI (.object fields))) .schema
        schema.value ↔
      Value.Each positions (fun k fields ↦ k = .schema → NothingCombined fields) .schema
        schema.value :=
    Value.each_congr schema.distinct fun _ _ hfields ↦
      forall_congr' fun _ ↦ membersStay_iff (Value.distinct_object.mp hfields).1
  rw [← hnested, ← sanitize_type_iff schema.distinct]
  refine ⟨fun h ↦ ⟨h.object, h.nested⟩, fun h ↦ ⟨h.1, membersStay_whole fun fields heq ↦ ?_, h.2⟩⟩
  have heach := h.2
  rw [heq] at heach ⊢
  exact (Value.each_object.mp heach).1 rfl

def oneChoice : Value := .object [("anyOf", .array [.object [("type", .string "string")]])]

theorem not_makesFunctionSchema : ¬ ∀ schema : Document, MakesFunctionSchema schema.value := by
  intro h
  have hstring (s : String) : (Value.string s).Distinct := trivial
  have hdistinct : oneChoice.Distinct := by
    simp [oneChoice, Value.distinct_object, Value.distinct_array, Fields.keys, hstring]
  have hwhole := (Value.each_object.mp (h ⟨_, hdistinct⟩).nested).1 rfl
  have hcombined := (membersStay_iff (Value.distinct_object.mp hdistinct).1).mp hwhole
  cases hcombined "anyOf" (by decide) _ rfl

end AdkGateway.SchemaSanitizer
