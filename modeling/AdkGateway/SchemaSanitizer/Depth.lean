import AdkGateway.SchemaSanitizer.Inert

namespace AdkGateway.SchemaSanitizer

open Foundation

inductive Kind
  | schema
  | schemas
  | data
  deriving DecidableEq

def mapKeywords : List String :=
  ["properties", "patternProperties", "$defs", "definitions", "dependentSchemas"]

def schemaKeywords : List String :=
  ["items", "prefixItems", "additionalItems", "contains", "additionalProperties", "propertyNames",
    "unevaluatedItems", "unevaluatedProperties", "not", "if", "then", "else", "allOf", "anyOf",
    "oneOf"]

def positions : Positions Kind where
  child
    | .schema, key =>
      if key ∈ mapKeywords then .schemas else if key ∈ schemaKeywords then .schema else .data
    | .schemas, _ => .schema
    | .data, _ => .data
  element
    | .schema => .schema
    | _ => .data

structure Plain (fields : Fields) : Prop where
  items : ∀ value, fields.lookup "items" = some value → value.isArray = false
  type : ∀ value, fields.lookup "type" = some value → value.isArray = false
  names : fields.lookup "propertyNames" = none

structure ReachesEveryDepth (sanitize : Value → Value) (schema : Value) : Prop where
  plain : Value.Each positions (fun k fields ↦ k = .schema → Plain fields) .schema (sanitize schema)
  settled : sanitize (sanitize schema) = sanitize schema

/-- A list of types names one that is not null, or is taken for positional parameters. -/
def TypeResolves (p : Provider) (fields : Fields) : Prop :=
  ∀ items, fields.lookup "type" = some (.array items) →
    nonNullTypes items ≠ [] ∨ p.convertsTuples = true ∧ isTuple items = true

def ItemsResolve (fields : Fields) : Prop :=
  ∀ first rest, fields.lookup "items" = some (.array (first :: rest)) → first.isArray = false

def Resolves (p : Provider) (k : Kind) (fields : Fields) : Prop :=
  (k = .schema → TypeResolves p fields) ∧ ItemsResolve fields

def FitsGemini (schema : Value) : Prop := Visited positions gemini (Resolves gemini) .schema schema

/-- The type of the whole is always a single one, and a list is turned into an object only as a
whole. -/
def FitsOpenAI : Value → Prop
  | .array items => ∀ item ∈ items, Visited positions openAI (Resolves openAI) .schema item ∧
    ∀ items', item = .array items' → isTuple items' = false
  | .object fields => ItemsResolve fields ∧ ∀ field ∈ fields, field.1 ≠ "type" →
    ∀ w, part openAI fields field = some w →
      Visited positions openAI (Resolves openAI) (positions.child .schema field.1) w
  | _ => True

section Lookups

variable {p : Provider} {fields : Fields} {value : Value}

theorem lookup_propertyNames (hkeys : fields.keys.Nodup) :
    (newFields p fields).lookup "propertyNames" = none := by
  rw [lookup_newFields _ hkeys (not_isBound (by decide) (by decide))
    (fun hkey ↦ absurd hkey.1 (by decide)), Option.bind_eq_none_iff]
  exact fun value _ ↦ rfl

theorem lookup_items (hkeys : fields.keys.Nodup) : (newFields p fields).lookup "items" =
    (fields.lookup "items").bind fun value ↦ (single value).map (sanitizeRecursive p) := by
  rw [lookup_newFields _ hkeys (not_isBound (by decide) (by decide))
    (fun hkey ↦ absurd hkey.1 (by decide))]
  refine Option.bind_congr fun value _ ↦ ?_
  rw [own_plain (by decide) (fun hkey ↦ absurd hkey (by decide))
      (fun _ side ↦ by cases side <;> decide), if_pos rfl]

theorem lookup_type (hkeys : fields.keys.Nodup) : (newFields p fields).lookup "type" =
    (fields.lookup "type").map fun value ↦
      match (typeInfo p fields).resolvedType with
      | some type => .string type
      | none => sanitizeValue p value := by
  rw [lookup_newFields _ hkeys (not_isBound (by decide) (by decide))
    (fun hkey ↦ absurd hkey.1 (by decide))]
  cases fields.lookup "type" with
  | none => rfl
  | some value =>
    rw [Option.bind_some, Option.map_some]
    cases hresolved : (typeInfo p fields).resolvedType with
    | some type => exact own_type hresolved
    | none =>
      rw [own_plain (by decide) (fun _ ↦ hresolved) (fun _ side ↦ by cases side <;> decide)]
      exact if_neg (by decide)

theorem asStr_sanitizeRecursive (value : Value) : (sanitizeRecursive p value).asStr = value.asStr := by
  cases value with
  | object fields => rw [sanitizeRecursive_object]; rfl
  | array items => rw [sanitizeRecursive_array]; rfl
  | _ => rw [sanitizeRecursive]

theorem isArray_sanitizeRecursive (value : Value) :
    (sanitizeRecursive p value).isArray = value.isArray := by
  cases value with
  | object fields => rw [sanitizeRecursive_object]; rfl
  | array items => rw [sanitizeRecursive_array]; rfl
  | _ => rw [sanitizeRecursive]

theorem nonNullTypes_map (items : List Value) :
    nonNullTypes (items.map (sanitizeRecursive p)) = nonNullTypes items := by
  rw [nonNullTypes, nonNullTypes, List.filterMap_map]
  refine congrArg _ (List.filterMap_congr fun item _ ↦ ?_)
  exact asStr_sanitizeRecursive item

theorem isTuple_map (items : List Value) :
    isTuple (items.map (sanitizeRecursive p)) = isTuple items := by
  rw [isTuple, isTuple, List.all_map, List.isEmpty_map]
  congr 2
  funext item
  exact isObject_sanitizeRecursive item

end Lookups

section Rules

variable {p : Provider} {fields : Fields} {k : Kind}

theorem resolvedType_eq (p : Provider) (fields : Fields) : (typeInfo p fields).resolvedType =
    ((fields.lookup "type").bind Value.asArray).bind fun items ↦ (nonNullTypes items).head? := rfl

theorem isIntegerType_eq (p : Provider) (fields : Fields) : (typeInfo p fields).isIntegerType =
    (p.convertsBounds && ((typeInfo p fields).resolvedType <|>
      (fields.lookup "type").bind Value.asStr) = some "integer") := rfl

theorem items_newFields_iff (hkeys : fields.keys.Nodup) :
    (∀ value, (newFields p fields).lookup "items" = some value → value.isArray = false) ↔
      ItemsResolve fields := by
  rw [lookup_items hkeys]
  constructor
  · intro h first rest hitems
    rw [hitems] at h
    rw [← isArray_sanitizeRecursive (p := p)]
    exact h _ rfl
  · intro h value hvalue
    obtain ⟨whole, hwhole, hsingle⟩ := Option.bind_eq_some_iff.mp hvalue
    obtain ⟨w, hw, rfl⟩ := Option.map_eq_some_iff.mp hsingle
    rw [isArray_sanitizeRecursive]
    cases whole with
    | array items =>
      cases items with
      | nil => cases hw
      | cons first rest =>
        obtain rfl := Option.some_inj.mp hw
        exact h first rest hwhole
    | _ =>
      obtain rfl := Option.some_inj.mp hw
      rfl

theorem isArray_sanitizeValue {items : List Value} :
    (sanitizeValue p (.array items)).isArray = false ↔
      p.convertsTuples = true ∧ isTuple items = true := by
  rw [sanitizeValue_array, ← Bool.and_eq_true_iff]
  split
  next htuple => exact iff_of_true rfl htuple
  next htuple => exact iff_of_false Bool.noConfusion htuple

theorem sanitizeValue_of_not_array {value : Value} (h : value.isArray = false) :
    sanitizeValue p value = sanitizeRecursive p value := by
  cases value with
  | array items => cases h
  | _ => rfl

theorem type_newFields_iff (hkeys : fields.keys.Nodup) :
    (∀ value, (newFields p fields).lookup "type" = some value → value.isArray = false) ↔
      TypeResolves p fields := by
  rw [lookup_type hkeys]
  constructor
  · intro h items hitems
    have hnew := h _ (congrArg (Option.map _) hitems)
    by_cases hnone : nonNullTypes items = []
    · right
      have hresolved : (typeInfo p fields).resolvedType = none := by
        rw [resolvedType_eq, hitems, Option.bind_some, Value.asArray, Option.bind_some, hnone]
        rfl
      rw [hresolved] at hnew
      exact isArray_sanitizeValue.mp hnew
    · exact .inl hnone
  · intro h value hvalue
    obtain ⟨whole, hwhole, rfl⟩ := Option.map_eq_some_iff.mp hvalue
    cases hresolved : (typeInfo p fields).resolvedType with
    | some type => rfl
    | none =>
      dsimp only
      cases hwholeArray : whole.isArray with
      | false => rw [sanitizeValue_of_not_array hwholeArray, isArray_sanitizeRecursive, hwholeArray]
      | true =>
        cases whole with
        | array items =>
          refine isArray_sanitizeValue.mpr ((h items hwhole).resolve_left fun hsome ↦ ?_)
          rw [resolvedType_eq, hwhole, Option.bind_some, Value.asArray, Option.bind_some,
            List.head?_eq_none_iff] at hresolved
          exact hsome hresolved
        | _ => cases hwholeArray

theorem plain_newFields_iff (hkeys : fields.keys.Nodup) :
    Plain (newFields p fields) ↔ TypeResolves p fields ∧ ItemsResolve fields := by
  rw [← type_newFields_iff hkeys, ← items_newFields_iff (p := p) hkeys]
  exact ⟨fun h ↦ ⟨h.type, h.items⟩, fun h ↦ ⟨h.2, h.1, lookup_propertyNames hkeys⟩⟩

theorem typeInfo_newFields (hkeys : fields.keys.Nodup) :
    (typeInfo p (newFields p fields)).resolvedType = none ∧
      (typeInfo p (newFields p fields)).isIntegerType = (typeInfo p fields).isIntegerType := by
  have hnone : (typeInfo p (newFields p fields)).resolvedType = none := by
    rw [resolvedType_eq, lookup_type hkeys]
    cases htype : fields.lookup "type" with
    | none => rfl
    | some value =>
      rw [Option.map_some, Option.bind_some]
      cases hresolved : (typeInfo p fields).resolvedType with
      | some type => rfl
      | none =>
        rw [resolvedType_eq, htype, Option.bind_some] at hresolved
        dsimp only
        cases value with
        | array items =>
          rw [Value.asArray, Option.bind_some] at hresolved
          rw [sanitizeValue_array]
          by_cases htuple : (p.convertsTuples && isTuple items) = true
          · rw [if_pos htuple]
            rfl
          · rw [if_neg htuple, Value.asArray, Option.bind_some, nonNullTypes_map, hresolved]
        | object fields' => rw [sanitizeValue_of_not_array rfl, sanitizeRecursive_object]; rfl
        | _ => rw [sanitizeValue_of_not_array rfl, sanitizeRecursive]; rfl
  refine ⟨hnone, ?_⟩
  rw [isIntegerType_eq, isIntegerType_eq, hnone, lookup_type hkeys]
  cases htype : fields.lookup "type" with
  | none => rw [resolvedType_eq, htype]; rfl
  | some value =>
    rw [Option.map_some, Option.bind_some, Option.bind_some]
    cases hresolved : (typeInfo p fields).resolvedType with
    | some type => rfl
    | none =>
      dsimp only
      have hstr : (sanitizeValue p value).asStr = value.asStr := by
        cases value with
        | array items =>
          rw [sanitizeValue_array]
          split <;> rfl
        | _ => rw [sanitizeValue_of_not_array rfl, asStr_sanitizeRecursive]
      rw [hstr]

theorem quiet_newFields_iff (hkeys : fields.keys.Nodup) :
    Quiet p (newFields p fields) ↔ ItemsResolve fields := by
  obtain ⟨hunresolved, hinteger⟩ := typeInfo_newFields (p := p) hkeys
  rw [← items_newFields_iff (p := p) hkeys]
  refine ⟨Quiet.single, fun hsingle ↦ ⟨lookup_propertyNames hkeys, hunresolved, ?_, hsingle, ?_⟩⟩
  · intro hint side
    rw [lookup_newFields _ hkeys (fun ⟨side', heq⟩ ↦ side'.inclusive_ne_exclusive side heq.symm)
      (fun hkey ↦ absurd hkey.1 (by cases side <;> decide)), Option.bind_eq_none_iff]
    exact fun value _ ↦ own_exclusive side (hinteger.symm.trans hint)
  · intro hp key items hitems
    obtain hscalar | ⟨value, -, w, -, heq⟩ := part_of_lookup hkeys hitems
    · cases hscalar
    · by_cases hkey : key = "items"
      · subst hkey
        cases hsingle _ hitems
      · rw [sanitizeAs, if_neg hkey] at heq
        cases w with
        | array items' =>
          rw [sanitizeValue_array, hp, Bool.true_and] at heq
          cases htuple : isTuple items' with
          | false =>
            rw [htuple] at heq
            cases heq
            rw [isTuple_map, htuple]
          | true =>
            rw [htuple] at heq
            cases heq
        | object fields' =>
          rw [sanitizeValue_of_not_array rfl, sanitizeRecursive_object] at heq
          cases heq
        | _ =>
          rw [sanitizeValue_of_not_array rfl, sanitizeRecursive] at heq
          cases heq

end Rules

section Tuples

variable {p : Provider}

theorem argName_notMem {keys : List String} (h : ∀ key ∈ keys, key.toList.take 3 ≠ "arg".toList)
    (i : ℕ) : argName i ∉ keys := fun hmem ↦ argName_ne (h _ hmem) i rfl

theorem positional_positions : Positional positions := by
  intro k i
  have hmap : argName i ∉ mapKeywords := argName_notMem (by decide) i
  have hschema : argName i ∉ schemaKeywords := argName_notMem (by decide) i
  cases k with
  | schema => rfl
  | schemas =>
    change (if argName i ∈ mapKeywords then Kind.schemas
      else if argName i ∈ schemaKeywords then .schema else .data) = .data
    rw [if_neg hmap, if_neg hschema]
  | data => rfl

theorem positional_anywhere : Positional Value.anywhere := fun _ _ ↦ rfl

theorem lookup_arguments {key : String} (h : key.toList.take 3 ≠ "arg".toList) (items : List Value) :
    (arguments items).lookup key = none := by
  rw [List.lookup_eq_none_iff]
  intro field hfield
  obtain ⟨-, i, hi⟩ := mem_arguments hfield
  have hne : key ≠ field.1 := fun heq ↦ argName_ne h i (hi.symm.trans heq.symm)
  simpa using hne

theorem lookup_positionalFields {key : String} (h : key ∉ ["type", "properties", "required"])
    (items : List Value) : (positionalFields items).lookup key = none := by
  rw [List.lookup_eq_none_iff]
  intro field hfield
  have hmem : field.1 ∈ ["type", "properties", "required"] :=
    List.mem_map_of_mem (f := Prod.fst) hfield
  have hne : key ≠ field.1 := fun heq ↦ h (heq ▸ hmem)
  simpa using hne

theorem plain_positionalFields (items : List Value) : Plain (positionalFields items) where
  items value hvalue := by
    cases (lookup_positionalFields (by decide) items).symm.trans hvalue
  type value hvalue := by
    obtain rfl := Option.some_inj.mp hvalue
    rfl
  names := lookup_positionalFields (by decide) items

theorem plain_arguments (items : List Value) : Plain (arguments items) where
  items value hvalue := by cases (lookup_arguments (by decide) items).symm.trans hvalue
  type value hvalue := by cases (lookup_arguments (by decide) items).symm.trans hvalue
  names := lookup_arguments (by decide) items

theorem typeInfo_of_no_type {fields : Fields} (h : fields.lookup "type" = none) :
    (typeInfo p fields).resolvedType = none ∧ (typeInfo p fields).isIntegerType = false := by
  rw [isIntegerType_eq, resolvedType_eq, h]
  exact ⟨rfl, by simp⟩

theorem nodup_positionalFields (items : List Value) : (positionalFields items).keys.Nodup := by
  change ["type", "properties", "required"].Nodup
  decide

theorem quiet_positionalFields (items : List Value) : Quiet p (positionalFields items) where
  noNames := lookup_positionalFields (by decide) items
  unresolved := rfl
  inclusive _ side := lookup_positionalFields (by cases side <;> decide) items
  single value hvalue := by
    cases (lookup_positionalFields (by decide) items).symm.trans hvalue
  untupled _ key items' hlookup := by
    have hmem := (Fields.mem_iff_lookup (nodup_positionalFields items)).mpr hlookup
    simp only [positionalFields, List.mem_cons, List.not_mem_nil, or_false, Prod.mk.injEq] at hmem
    obtain ⟨-, heq⟩ | ⟨-, heq⟩ | ⟨-, heq⟩ := hmem
    · cases heq
    · cases heq
    · cases heq
      cases argNames items.length <;> rfl

theorem nodup_arguments (items : List Value) : (arguments items).keys.Nodup :=
  Fields.nodup_keys_insertAll List.nodup_nil

/-- Parameters are left as they are if none of them is a list of schemas. -/
theorem quiet_arguments_iff (items : List Value) : Quiet p (arguments items) ↔
    (p.convertsTuples = true → ∀ items', .array items' ∈ items → isTuple items' = false) := by
  obtain ⟨hresolved, hinteger⟩ := typeInfo_of_no_type (p := p) (lookup_arguments (by decide) items)
  constructor
  · intro h hp items' hmem
    obtain ⟨i, hi⟩ := mem_arguments_of_mem hmem
    exact h.untupled hp _ items' ((Fields.mem_iff_lookup (nodup_arguments items)).mp hi)
  · refine fun h ↦ ⟨lookup_arguments (by decide) items, hresolved, ?_, ?_, ?_⟩
    · exact fun hint ↦ absurd (hinteger.symm.trans hint) Bool.false_ne_true
    · intro value hvalue
      cases (lookup_arguments (by decide) items).symm.trans hvalue
    · intro hp key items' hlookup
      have hmem := (Fields.mem_iff_lookup (nodup_arguments items)).mpr hlookup
      exact h hp items' (mem_arguments hmem).1

theorem holdsOfTuples_plain :
    HoldsOfTuples positions p (fun k fields ↦ k = .schema → Plain fields) :=
  fun _ items _ _ ↦ ⟨fun _ ↦ plain_positionalFields items, fun _ ↦ plain_arguments items⟩

theorem holdsOfTuples_quiet {κ : Type} {positions : Positions κ} :
    HoldsOfTuples positions p (fun _ fields ↦ Quiet p fields) := by
  refine fun _ items _ hitems ↦ ⟨quiet_positionalFields items, (quiet_arguments_iff items).mpr ?_⟩
  intro _ items' hmem
  cases hitems _ hmem

end Tuples

section Walk

variable {p : Provider} {k : Kind} {v : Value}

theorem visited_true : Visited positions p (fun _ _ ↦ True) k v := by
  induction v using Value.induct_deep generalizing k with
  | array items ih => exact visited_array.mpr fun item hitem ↦ ih item hitem
  | object fields ih =>
    refine visited_object.mpr ⟨trivial, fun field hfield w hpart ↦ ?_⟩
    obtain ⟨hwhole, hitems⟩ := ih field hfield
    rcases part_cases hpart with rfl | ⟨items, heq, hitem⟩
    · exact hwhole
    · exact hitems items heq w hitem
  | _ => exact visited_scalar rfl

theorem visited_and {P Q : Kind → Fields → Prop} :
    Visited positions p P k v ∧ Visited positions p Q k v ↔
      Visited positions p (fun k fields ↦ P k fields ∧ Q k fields) k v := by
  induction v using Value.induct_deep generalizing k with
  | array items ih =>
    rw [visited_array, visited_array, visited_array, ← forall₂_and]
    exact forall₂_congr fun item hitem ↦ ih item hitem
  | object fields ih =>
    rw [visited_object, visited_object, visited_object, and_and_and_comm, ← forall₂_and]
    refine and_congr_right fun _ ↦ forall₂_congr fun field hfield ↦ ?_
    rw [← forall₂_and]
    refine forall₂_congr fun w hpart ↦ ?_
    obtain ⟨hwhole, hitems⟩ := ih field hfield
    rcases part_cases hpart with rfl | ⟨items, heq, hitem⟩
    · exact hwhole
    · exact hitems items heq w hitem
  | _ => exact iff_of_true ⟨visited_scalar rfl, visited_scalar rfl⟩ (visited_scalar rfl)

theorem distinct_sanitizeRecursive (hv : v.Distinct) : (sanitizeRecursive p v).Distinct := by
  have hkeys : HoldsOfTuples positions p (fun _ fields ↦ fields.keys.Nodup) :=
    fun _ items _ _ ↦ ⟨nodup_positionalFields items, nodup_arguments items⟩
  have hvisited : Visited positions p (fun _ _ ↦ True) .schema v := visited_true
  refine Value.each_congr_positions.mp ((each_sanitize positional_positions hkeys
    (fun _ fields _ ↦ ?_) hv).mpr hvisited)
  exact iff_of_true (nodup_newFields p fields) trivial

theorem plain_sanitizeRecursive_iff (hv : v.Distinct) :
    Value.Each positions (fun k fields ↦ k = .schema → Plain fields) k (sanitizeRecursive p v) ↔
      Visited positions p (fun k fields ↦ k = .schema → TypeResolves p fields ∧ ItemsResolve fields)
        k v :=
  each_sanitize positional_positions holdsOfTuples_plain
    (fun _ _ hkeys ↦ forall_congr' fun _ ↦ plain_newFields_iff hkeys) hv

theorem inert_sanitizeRecursive_iff (hv : v.Distinct) (k : Kind) : Inert p (sanitizeRecursive p v) ↔
    Visited positions p (fun _ fields ↦ ItemsResolve fields) k v := by
  rw [Inert]
  refine Value.each_congr_positions.trans (each_sanitize positional_positions holdsOfTuples_quiet
    (fun _ _ hkeys ↦ ?_) hv)
  exact quiet_newFields_iff hkeys

theorem resolves_iff (hv : v.Distinct) :
    Value.Each positions (fun k fields ↦ k = .schema → Plain fields) k (sanitizeRecursive p v) ∧
      Inert p (sanitizeRecursive p v) ↔ Visited positions p (Resolves p) k v := by
  rw [plain_sanitizeRecursive_iff hv, inert_sanitizeRecursive_iff hv k, visited_and]
  have hnode (k : Kind) (fields : Fields) :
      ((k = .schema → TypeResolves p fields ∧ ItemsResolve fields) ∧ ItemsResolve fields) ↔
        Resolves p k fields := by
    exact ⟨fun h ↦ ⟨fun hk ↦ (h.1 hk).1, h.2⟩, fun h ↦ ⟨fun hk ↦ ⟨h.1 hk, h.2⟩, h.2⟩⟩
  simp only [hnode]

theorem gemini_reachesEveryDepth_iff (hv : v.Distinct) :
    ReachesEveryDepth GeminiSanitizer.sanitize v ↔ FitsGemini v := by
  rw [FitsGemini, ← resolves_iff hv,
    ← sanitizeRecursive_eq_self_iff (distinct_sanitizeRecursive hv)]
  exact ⟨fun h ↦ ⟨h.plain, h.settled⟩, fun h ↦ ⟨h.1, h.2⟩⟩

end Walk

section Root

open OpenAISanitizer

variable {fields : Fields}

def rooted (fields : Fields) : Fields :=
  let topType := (fields.lookup "type").bind Value.asStr
  if topType = some "object" then fields
  else if (fields.lookup "properties").isSome || topType.isNone && !fields.isEmpty then
    fields.insert "type" (.string "object")
  else fields

theorem ensureObjectType_object (fields : Fields) :
    ensureObjectType (.object fields) = .object (rooted fields) := by
  rw [ensureObjectType, rooted]
  split
  · rfl
  · split <;> rfl

theorem rooted_spec (fields : Fields) :
    (∀ key, key ≠ "type" → (rooted fields).lookup key = fields.lookup key) ∧
      ((rooted fields).lookup "type" = some (.string "object") ∨
        (∃ type, (rooted fields).lookup "type" = some (.string type) ∧
          fields.lookup "properties" = none) ∨ rooted fields = []) := by
  rw [rooted]
  split
  next htype =>
    refine ⟨fun _ _ ↦ rfl, .inl ?_⟩
    obtain ⟨value, hvalue, hstr⟩ := Option.bind_eq_some_iff.mp htype
    rw [hvalue, Value.asStr_eq_some hstr]
  next htype =>
    split
    next hinsert =>
      refine ⟨fun key hkey ↦ Fields.lookup_insert.trans (if_neg hkey), .inl ?_⟩
      exact Fields.lookup_insert.trans (if_pos rfl)
    next hinsert =>
      refine ⟨fun _ _ ↦ rfl, .inr ?_⟩
      simp only [Bool.or_eq_true, Bool.and_eq_true, not_or, not_and, Bool.not_eq_true,
        Option.isSome_eq_false_iff, Bool.not_eq_false', List.isEmpty_iff,
        Option.isNone_iff_eq_none] at hinsert
      cases htop : (fields.lookup "type").bind Value.asStr with
      | none => exact .inr (hinsert.2 htop)
      | some type =>
        obtain ⟨value, hvalue, hstr⟩ := Option.bind_eq_some_iff.mp htop
        rw [Value.asStr_eq_some hstr] at hvalue
        exact .inl ⟨type, hvalue, hinsert.1⟩

theorem nodup_rooted (h : fields.keys.Nodup) : (rooted fields).keys.Nodup := by
  rw [rooted]
  split
  · exact h
  · split
    · exact Fields.nodup_keys_insert h
    · exact h

theorem string_of_rooted {fields : Fields} {value : Value}
    (h : (rooted fields).lookup "type" = some value) : ∃ type, value = .string type := by
  obtain ⟨-, htype | ⟨type, htype, -⟩ | hempty⟩ := rooted_spec fields
  · exact ⟨_, Option.some_inj.mp (h.symm.trans htype)⟩
  · exact ⟨type, Option.some_inj.mp (h.symm.trans htype)⟩
  · rw [hempty] at h
    cases h

/-- What comes out for the whole, and then goes in again, has the right type. -/
theorem rooted_newFields_rooted (hkeys : fields.keys.Nodup) :
    rooted (newFields openAI (rooted fields)) = newFields openAI (rooted fields) := by
  have hkeys' := nodup_rooted hkeys
  have htype {type : String} (h : (rooted fields).lookup "type" = some (.string type)) :
      ((newFields openAI (rooted fields)).lookup "type").bind Value.asStr = some type := by
    have hresolved : (typeInfo openAI (rooted fields)).resolvedType = none := by
      rw [resolvedType_eq, h]
      rfl
    rw [lookup_type hkeys', h, hresolved, Option.map_some, Option.bind_some,
      sanitizeValue_of_not_array rfl, asStr_sanitizeRecursive]
    rfl
  obtain ⟨hsame, hobject | ⟨type, hstring, hproperties⟩ | hempty⟩ := rooted_spec fields
  · rw [rooted, if_pos (htype hobject)]
  · have hnone : (newFields openAI (rooted fields)).lookup "properties" = none := by
      rw [lookup_newFields _ hkeys' (not_isBound (by decide) (by decide))
        (fun hkey ↦ absurd hkey.1 (by decide)), hsame _ (by decide), hproperties]
      rfl
    rw [rooted, htype hstring, hnone]
    split
    · rfl
    · exact if_neg Bool.false_ne_true
  · rw [hempty]
    rfl

theorem forall_rooted_iff (hkeys : fields.keys.Nodup) {Q : String → Value → Prop}
    (hQ : ∀ key v, scalar v = true → Q key v) :
    (∀ field ∈ rooted (newFields openAI fields), Q field.1 field.2) ↔
      ∀ field ∈ fields, field.1 ≠ "type" → ∀ w, part openAI fields field = some w →
        Q field.1 (sanitizeAs openAI field.1 w) := by
  have hnew := nodup_newFields openAI fields
  have hsame := (rooted_spec (newFields openAI fields)).1
  constructor
  · intro h field hfield hkey w hpart
    have hlookup := lookup_of_part hkeys hfield hpart
    rw [← hsame field.1 hkey] at hlookup
    exact h (field.1, _) ((Fields.mem_iff_lookup (nodup_rooted hnew)).mpr hlookup)
  · intro h field hfield
    obtain ⟨key, value⟩ := field
    have hlookup := (Fields.mem_iff_lookup (nodup_rooted hnew)).mp hfield
    by_cases hkey : key = "type"
    · subst hkey
      obtain ⟨type, rfl⟩ := string_of_rooted hlookup
      exact hQ _ _ rfl
    · rw [hsame key hkey] at hlookup
      obtain hscalar | ⟨whole, hwhole, w, hpart, rfl⟩ := part_of_lookup hkeys hlookup
      · exact hQ _ _ hscalar
      · exact h (key, whole) hwhole hkey w hpart

theorem plain_rooted_iff (hkeys : fields.keys.Nodup) :
    Plain (rooted (newFields openAI fields)) ↔ ItemsResolve fields := by
  have hsame := (rooted_spec (newFields openAI fields)).1
  rw [← items_newFields_iff (p := openAI) hkeys, ← hsame "items" (by decide)]
  refine ⟨Plain.items, fun hitems ↦ ⟨hitems, fun value hvalue ↦ ?_, ?_⟩⟩
  · obtain ⟨type, rfl⟩ := string_of_rooted hvalue
    rfl
  · rw [hsame _ (by decide), lookup_propertyNames hkeys]

theorem quiet_rooted_iff (hkeys : fields.keys.Nodup) :
    Quiet openAI (rooted (newFields openAI fields)) ↔ ItemsResolve fields := by
  have hsame := (rooted_spec (newFields openAI fields)).1
  constructor
  · intro h
    rw [← items_newFields_iff (p := openAI) hkeys, ← hsame "items" (by decide)]
    exact h.single
  · intro h
    have hquiet := (quiet_newFields_iff (p := openAI) hkeys).mpr h
    refine ⟨(hsame _ (by decide)).trans hquiet.noNames, ?_, nofun, ?_, ?_⟩
    · cases hresolved : (typeInfo openAI (rooted (newFields openAI fields))).resolvedType with
      | none => rfl
      | some type =>
        obtain ⟨items, hitems⟩ := resolvedType_eq_some hresolved
        obtain ⟨type', heq⟩ := string_of_rooted hitems
        cases heq
    · intro value hvalue
      exact hquiet.single value ((hsame "items" (by decide)).symm.trans hvalue)
    · intro hp key items hlookup
      by_cases hkey : key = "type"
      · subst hkey
        obtain ⟨type, heq⟩ := string_of_rooted hlookup
        cases heq
      · exact hquiet.untupled hp key items ((hsame key hkey).symm.trans hlookup)

theorem distinct_sanitizeAs (key : String) {v : Value} (hv : v.Distinct) :
    (sanitizeAs openAI key v).Distinct := by
  have hkeys : HoldsOfTuples Value.anywhere openAI (fun _ fields ↦ fields.keys.Nodup) :=
    fun _ items _ _ ↦ ⟨nodup_positionalFields items, nodup_arguments items⟩
  exact (each_sanitizeAs positional_anywhere hkeys key v).mpr (distinct_sanitizeRecursive hv)

theorem sanitize_object (fields : Fields) :
    sanitize (.object fields) = .object (rooted (newFields openAI fields)) := by
  simp only [sanitize, sanitizeRecursive_object, ensureObjectType_object]

theorem openAI_object_iff (hv : (Value.object fields).Distinct) :
    ReachesEveryDepth sanitize (.object fields) ↔ FitsOpenAI (.object fields) := by
  obtain ⟨hkeys, -⟩ := Value.distinct_object.mp hv
  have hdistinct : (Value.object (rooted (newFields openAI fields))).Distinct := by
    refine Value.distinct_object.mpr ⟨nodup_rooted (nodup_newFields openAI fields), ?_⟩
    refine (forall_rooted_iff hkeys (Q := fun _ v ↦ v.Distinct) fun _ _ ↦ each_scalar).mpr ?_
    exact fun field hfield _ w hpart ↦ distinct_sanitizeAs _ (distinct_part hv hfield hpart)
  have hsettled : sanitize (sanitize (.object fields)) = sanitize (.object fields) ↔
      ItemsResolve fields ∧ ∀ field ∈ fields, field.1 ≠ "type" →
        ∀ w, part openAI fields field = some w → Inert openAI (sanitizeRecursive openAI w) := by
    rw [sanitize_object, sanitize_object, rooted_newFields_rooted (nodup_newFields openAI fields),
      ← sanitizeRecursive_object, sanitizeRecursive_eq_self_iff hdistinct, inert_object,
      quiet_rooted_iff hkeys,
      forall_rooted_iff hkeys (Q := fun _ v ↦ Inert openAI v) fun _ _ ↦ each_scalar]
    refine and_congr_right fun _ ↦ forall₂_congr fun field _ ↦ forall_congr' fun _ ↦
      forall₂_congr fun w _ ↦ ?_
    exact each_sanitizeAs positional_anywhere holdsOfTuples_quiet field.1 w
  have hplain : Value.Each positions (fun k fields ↦ k = .schema → Plain fields) .schema
        (sanitize (.object fields)) ↔
      ItemsResolve fields ∧ ∀ field ∈ fields, field.1 ≠ "type" →
        ∀ w, part openAI fields field = some w →
          Value.Each positions (fun k fields ↦ k = .schema → Plain fields)
            (positions.child .schema field.1) (sanitizeRecursive openAI w) := by
    rw [sanitize_object, Value.each_object, forall_prop_of_true rfl, plain_rooted_iff hkeys,
      forall_rooted_iff hkeys (Q := fun key v ↦ Value.Each positions
        (fun k fields ↦ k = .schema → Plain fields) (positions.child .schema key) v)
        fun _ _ ↦ each_scalar]
    refine and_congr_right fun _ ↦ forall₂_congr fun field _ ↦ forall_congr' fun _ ↦
      forall₂_congr fun w _ ↦ ?_
    exact each_sanitizeAs positional_positions holdsOfTuples_plain field.1 w
  have hparts (field : String × Value) (hfield : field ∈ fields) (w : Value)
      (hpart : part openAI fields field = some w) :=
    resolves_iff (p := openAI) (k := positions.child .schema field.1) (distinct_part hv hfield hpart)
  constructor
  · intro h
    obtain ⟨hitems, hplains⟩ := hplain.mp h.plain
    obtain ⟨-, hinerts⟩ := hsettled.mp h.settled
    exact ⟨hitems, fun field hfield hkey w hpart ↦ (hparts field hfield w hpart).mp
      ⟨hplains field hfield hkey w hpart, hinerts field hfield hkey w hpart⟩⟩
  · rintro ⟨hitems, hall⟩
    refine ⟨hplain.mpr ⟨hitems, ?_⟩, hsettled.mpr ⟨hitems, ?_⟩⟩
    · exact fun field hfield hkey w hpart ↦
        ((hparts field hfield w hpart).mpr (hall field hfield hkey w hpart)).1
    · exact fun field hfield hkey w hpart ↦
        ((hparts field hfield w hpart).mpr (hall field hfield hkey w hpart)).2

theorem inert_positional_iff {p : Provider} (items : List Value) : Inert p (positional items) ↔
    (p.convertsTuples = true → ∀ items', .array items' ∈ items → isTuple items' = false) ∧
      ∀ item ∈ items, Inert p item := by
  rw [← quiet_arguments_iff, ← inert_array]
  have hpositional (hquiet : Quiet p (arguments items)) :
      Inert p (positional items) ↔ Inert p (.array items) :=
    each_positional (P := fun _ fields ↦ Quiet p fields) positional_anywhere
      (quiet_positionalFields items) hquiet
  constructor
  · intro h
    obtain ⟨-, hparts⟩ := (inert_object p).mp h
    have harguments := hparts ("properties", .object (arguments items)) (by simp)
    obtain ⟨hquiet, -⟩ := (inert_object p).mp harguments
    exact ⟨hquiet, (hpositional hquiet).mp h⟩
  · rintro ⟨hquiet, hitems⟩
    exact (hpositional hquiet).mpr hitems

theorem each_plain_positional_iff (items : List Value) :
    Value.Each positions (fun k fields ↦ k = .schema → Plain fields) .schema (positional items) ↔
      ∀ item ∈ items,
        Value.Each positions (fun k fields ↦ k = .schema → Plain fields) .schema item := by
  rw [each_positional positional_positions (P := fun k fields ↦ k = .schema → Plain fields)
    (fun _ ↦ plain_positionalFields items) (fun _ ↦ plain_arguments items), Value.each_array]
  rfl

theorem openAI_array_iff {items : List Value} (hv : (Value.array items).Distinct) :
    ReachesEveryDepth sanitize (.array items) ↔ FitsOpenAI (.array items) := by
  cases items with
  | nil =>
    refine iff_of_true ⟨?_, rfl⟩ (fun item hitem ↦ absurd hitem List.not_mem_nil)
    refine Value.each_object.mpr ⟨fun _ ↦ ⟨fun value hvalue ↦ ?_, fun value hvalue ↦ ?_, rfl⟩, ?_⟩
    · cases (show none = some value from hvalue)
    · obtain rfl := Option.some_inj.mp hvalue
      rfl
    · simp only [List.forall_mem_cons, List.not_mem_nil, false_imp_iff, implies_true, and_true]
      refine ⟨trivial, Value.each_object.mpr ⟨nofun, fun field hfield ↦ ?_⟩⟩
      exact absurd hfield List.not_mem_nil
  | cons first rest =>
    generalize hitems : first :: rest = items at hv ⊢
    have hdistinct := Value.distinct_array.mp hv
    have hsanitize : sanitize (.array items) = positional (items.map (sanitizeRecursive openAI)) := by
      rw [← hitems, ← sanitizeItems_eq]
      rfl
    have hms : (positional (items.map (sanitizeRecursive openAI))).Distinct := by
      refine (each_positional positional_anywhere (P := fun _ fields ↦ fields.keys.Nodup)
        (nodup_positionalFields _) (nodup_arguments _)).mpr ?_
      rw [Value.each_array, List.forall_mem_map]
      exact fun item hitem ↦ distinct_sanitizeRecursive (hdistinct item hitem)
    have hrooted (ms : List Value) : rooted (positionalFields ms) = positionalFields ms := by
      rw [rooted]
      exact if_pos rfl
    have hagain (ms : List Value) :
        sanitize (positional ms) = sanitizeRecursive openAI (positional ms) := by
      have hsettled := rooted_newFields_rooted (nodup_positionalFields ms)
      rw [hrooted] at hsettled
      rw [positional_eq, sanitize_object, hsettled, sanitizeRecursive_object]
    have hsettled : sanitize (sanitize (.array items)) = sanitize (.array items) ↔
        (∀ item ∈ items, ∀ items', item = .array items' → isTuple items' = false) ∧
          ∀ item ∈ items, Inert openAI (sanitizeRecursive openAI item) := by
      rw [hsanitize, hagain, sanitizeRecursive_eq_self_iff hms, inert_positional_iff,
        forall_prop_of_true (show openAI.convertsTuples = true from rfl), List.forall_mem_map]
      refine and_congr_left fun _ ↦ ⟨fun h item hitem items' heq ↦ ?_, fun h items' hmem ↦ ?_⟩
      · subst heq
        rw [← isTuple_map (p := openAI)]
        refine h _ (List.mem_map.mpr ⟨_, hitem, sanitizeRecursive_array openAI items'⟩)
      · obtain ⟨item, hitem, heq⟩ := List.mem_map.mp hmem
        cases item with
        | array items'' =>
          rw [sanitizeRecursive_array] at heq
          cases heq
          rw [isTuple_map]
          exact h _ hitem items'' rfl
        | object fields =>
          rw [sanitizeRecursive_object] at heq
          cases heq
        | _ =>
          rw [sanitizeRecursive] at heq
          cases heq
    have hplain : Value.Each positions (fun k fields ↦ k = .schema → Plain fields) .schema
          (sanitize (.array items)) ↔ ∀ item ∈ items, Value.Each positions
            (fun k fields ↦ k = .schema → Plain fields) .schema (sanitizeRecursive openAI item) := by
      rw [hsanitize, each_plain_positional_iff, List.forall_mem_map]
    have hitem (item : Value) (hmem : item ∈ items) :=
      resolves_iff (p := openAI) (k := .schema) (hdistinct item hmem)
    constructor
    · intro h item hmem
      obtain ⟨hlists, hinert⟩ := hsettled.mp h.settled
      exact ⟨(hitem item hmem).mp ⟨hplain.mp h.plain item hmem, hinert item hmem⟩, hlists item hmem⟩
    · intro h
      refine ⟨hplain.mpr fun item hmem ↦ ?_, hsettled.mpr ⟨fun item hmem ↦ (h item hmem).2,
        fun item hmem ↦ ?_⟩⟩
      · exact ((hitem item hmem).mpr (h item hmem).1).1
      · exact ((hitem item hmem).mpr (h item hmem).1).2

theorem openAI_reachesEveryDepth_iff {v : Value} (hv : v.Distinct) :
    ReachesEveryDepth OpenAISanitizer.sanitize v ↔ FitsOpenAI v := by
  have hscalar (hv : scalar v = true) (hsame : sanitize v = v) (hfits : FitsOpenAI v) :
      ReachesEveryDepth sanitize v ↔ FitsOpenAI v := by
    refine iff_of_true ⟨?_, ?_⟩ hfits
    · rw [hsame]
      exact each_scalar hv
    · rw [hsame, hsame]
  cases v with
  | array items => exact openAI_array_iff hv
  | object fields => exact openAI_object_iff hv
  | _ => exact hscalar rfl rfl trivial

end Root

/-- Both sanitizers reach every depth just of the schemas that fit. -/
theorem reachesEveryDepth_iff (schema : Document) :
    ReachesEveryDepth GeminiSanitizer.sanitize schema.value ∧
        ReachesEveryDepth OpenAISanitizer.sanitize schema.value ↔
      FitsGemini schema.value ∧ FitsOpenAI schema.value :=
  and_congr (gemini_reachesEveryDepth_iff schema.distinct) (openAI_reachesEveryDepth_iff schema.distinct)

/-- A schema for null alone, given as a list of types. -/
def nullOnly : Value := .object [("type", .array [.string "null"])]

theorem not_reachesEveryDepth : ¬ ∀ schema : Document,
    ReachesEveryDepth GeminiSanitizer.sanitize schema.value ∧
      ReachesEveryDepth OpenAISanitizer.sanitize schema.value := by
  intro h
  have hdistinct : nullOnly.Distinct := by
    refine Value.distinct_object.mpr ⟨by decide, fun field hfield ↦ ?_⟩
    obtain rfl := List.mem_singleton.mp hfield
    exact Value.distinct_array.mpr fun item hitem ↦ by
      obtain rfl := List.mem_singleton.mp hitem
      trivial
  have hplain := (h ⟨nullOnly, hdistinct⟩).1.plain
  have hnode := (Value.each_object.mp hplain).1 rfl
  cases hnode.type _ rfl

end AdkGateway.SchemaSanitizer
