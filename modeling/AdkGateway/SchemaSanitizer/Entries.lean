import AdkGateway.SchemaSanitizer.Sanitizers

namespace AdkGateway.SchemaSanitizer

open Foundation

def scalar : Value → Bool
  | .array _ => false
  | .object _ => false
  | _ => true

section Entries

variable (p : Provider)

/-- What becomes of the value of a field other than `items`. -/
def sanitizeValue (value : Value) : Value := convertTuple p value (sanitizeRecursive p value)

def sanitizeAs (key : String) (value : Value) : Value :=
  if key = "items" then sanitizeRecursive p value else sanitizeValue p value

def entry (info : TypeInfo) (field : String × Value) : Option (String × Value) :=
  if field.1 = "propertyNames" then none
  else
    match if field.1 = "type" then info.resolvedType else none with
    | some type => some ("type", .string type)
    | none =>
      if field.1 = "exclusiveMinimum" ∧ info.isIntegerType then
        (exclusiveMinimum field.2).map fun n ↦ ("minimum", .number n)
      else if field.1 = "exclusiveMaximum" ∧ info.isIntegerType then
        (exclusiveMaximum field.2).map fun n ↦ ("maximum", .number n)
      else if field.1 = "items" then
        (single field.2).map fun value ↦ ("items", sanitizeRecursive p value)
      else some (field.1, sanitizeValue p field.2)

def nullableEntry (info : TypeInfo) : List (String × Value) :=
  if info.addNullable then [("nullable", .bool true)] else []

def newFields (fields : Fields) : Fields :=
  Fields.insertAll (fields.filterMap (entry p (typeInfo p fields)) ++
    nullableEntry (typeInfo p fields)) []

theorem sanitizeItems_eq (items : List Value) :
    sanitizeItems p items = items.map (sanitizeRecursive p) := by
  induction items with
  | nil => rw [sanitizeItems, List.map_nil]
  | cons item items ih => rw [sanitizeItems, ih, List.map_cons]

theorem sanitizeRecursive_array (items : List Value) :
    sanitizeRecursive p (.array items) = .array (items.map (sanitizeRecursive p)) := by
  rw [sanitizeRecursive, sanitizeItems_eq]

theorem sanitizeValue_array (items : List Value) : sanitizeValue p (.array items) =
    if p.convertsTuples && isTuple items then positional (items.map (sanitizeRecursive p))
    else .array (items.map (sanitizeRecursive p)) := by
  rw [sanitizeValue, sanitizeRecursive_array]
  rfl

theorem single_sanitizeRecursive (value : Value) :
    single (sanitizeRecursive p value) = (single value).map (sanitizeRecursive p) := by
  cases value with
  | array items =>
    rw [sanitizeRecursive_array]
    cases items <;> rfl
  | object fields => rw [sanitizeRecursive]; rfl
  | _ => rw [sanitizeRecursive]; rfl

theorem sanitizeFields_eq (info : TypeInfo) (fields newMap : Fields) :
    sanitizeFields p info fields newMap =
      Fields.insertAll (fields.filterMap (entry p info)) newMap := by
  induction fields generalizing newMap with
  | nil => rw [sanitizeFields]; rfl
  | cons field fields ih =>
    obtain ⟨key, value⟩ := field
    have hcons : Fields.insertAll (((key, value) :: fields).filterMap (entry p info)) newMap =
        Fields.insertAll (fields.filterMap (entry p info))
          (Fields.insertAll (entry p info (key, value)).toList newMap) := by
      cases hentry : entry p info (key, value) with
      | none => rw [List.filterMap_cons_none hentry]; rfl
      | some e => rw [List.filterMap_cons_some hentry]; rfl
    rw [sanitizeFields, ih, hcons]
    congr 1
    rw [sanitizeField, entry]
    dsimp only
    by_cases hnames : key = "propertyNames"
    · rw [if_pos hnames, if_pos hnames]
      rfl
    · rw [if_neg hnames, if_neg hnames]
      cases (if key = "type" then info.resolvedType else none) with
      | some type => rfl
      | none =>
        dsimp only
        split
        · cases exclusiveMinimum value <;> rfl
        · split
          · cases exclusiveMaximum value <;> rfl
          · split
            · rw [single_sanitizeRecursive]
              cases single value <;> rfl
            · rfl

theorem sanitizeRecursive_object (fields : Fields) :
    sanitizeRecursive p (.object fields) = .object (newFields p fields) := by
  rw [sanitizeRecursive, sanitizeFields_eq, newFields, nullableEntry]
  cases (typeInfo p fields).addNullable with
  | false => rw [if_neg Bool.false_ne_true, if_neg Bool.false_ne_true, List.append_nil]
  | true =>
    rw [if_pos rfl, if_pos rfl, Fields.insertAll, Fields.insertAll, List.foldl_append]
    rfl

theorem nodup_newFields (fields : Fields) : (newFields p fields).keys.Nodup :=
  Fields.nodup_keys_insertAll List.nodup_nil

theorem sanitizeRecursive_scalar {value : Value} (h : scalar value = true) :
    sanitizeRecursive p value = value := by
  cases value with
  | array items => cases h
  | object fields => cases h
  | _ => rw [sanitizeRecursive]

end Entries

inductive Side
  | lower
  | upper
  deriving DecidableEq

namespace Side

def inclusive : Side → String
  | lower => "minimum"
  | upper => "maximum"

def exclusive : Side → String
  | lower => "exclusiveMinimum"
  | upper => "exclusiveMaximum"

def convert : Side → Value → Option Number
  | lower => exclusiveMinimum
  | upper => exclusiveMaximum

theorem inclusive_ne_exclusive (side side' : Side) : side.inclusive ≠ side'.exclusive := by
  cases side <;> cases side' <;> decide

theorem inclusive_injective : inclusive.Injective := by
  intro side side' h
  cases side <;> cases side' <;> first | rfl | exact absurd h (by decide)

end Side

section Lookups

variable {p : Provider} {info : TypeInfo} {fields : Fields} {key : String} {value : Value}

theorem entry_exclusive (side : Side) (h : info.isIntegerType = true) :
    entry p info (side.exclusive, value) =
      (side.convert value).map fun n ↦ (side.inclusive, .number n) := by
  have hnames : side.exclusive ≠ "propertyNames" := by cases side <;> decide
  have htype : side.exclusive ≠ "type" := by cases side <;> decide
  rw [entry, if_neg hnames, if_neg htype]
  cases side with
  | lower => exact if_pos ⟨rfl, h⟩
  | upper =>
    have hlower : ¬ (Side.upper.exclusive = "exclusiveMinimum" ∧ info.isIntegerType = true) :=
      fun hkey ↦ absurd hkey.1 (by decide)
    exact (if_neg hlower).trans (if_pos ⟨rfl, h⟩)

theorem entry_plain (hnames : key ≠ "propertyNames")
    (htype : key = "type" → info.resolvedType = none)
    (hexclusive : info.isIntegerType = true → ∀ side : Side, key ≠ side.exclusive) :
    entry p info (key, value) =
      if key = "items" then (single value).map fun value ↦ ("items", sanitizeRecursive p value)
      else some (key, sanitizeValue p value) := by
  have hresolved : (if key = "type" then info.resolvedType else none) = none := by
    split
    next hkey => exact htype hkey
    next => rfl
  rw [entry, if_neg hnames, hresolved]
  dsimp only
  rw [if_neg fun h ↦ hexclusive h.2 .lower h.1, if_neg fun h ↦ hexclusive h.2 .upper h.1]

theorem entry_type {type : String} (h : info.resolvedType = some type) :
    entry p info ("type", value) = some ("type", .string type) := by
  have hnames : "type" ≠ "propertyNames" := by decide
  rw [entry, if_neg hnames, if_pos rfl, h]

/-- A field gives something for its own key, or an exclusive bound is converted. -/
theorem entry_cases {field e : String × Value} (h : entry p info field = some e) :
    field.1 ≠ "propertyNames" ∧ (e.1 = field.1 ∨
      ∃ side n, e = (Side.inclusive side, .number n) ∧ field.1 = side.exclusive) := by
  obtain ⟨key, value⟩ := field
  by_cases hnames : key = "propertyNames"
  · subst hnames
    cases h
  · refine ⟨hnames, ?_⟩
    by_cases hexclusive : info.isIntegerType = true ∧ ∃ side : Side, key = side.exclusive
    · obtain ⟨hinteger, side, rfl⟩ := hexclusive
      rw [entry_exclusive side hinteger] at h
      obtain ⟨n, -, rfl⟩ := Option.map_eq_some_iff.mp h
      exact .inr ⟨side, n, rfl, rfl⟩
    · left
      cases htype : (if key = "type" then info.resolvedType else none) with
      | some type =>
        split at htype
        next hkey =>
          subst hkey
          rw [entry_type htype] at h
          cases h
          rfl
        next => cases htype
      | none =>
        rw [entry_plain hnames _ fun hinteger side hkey ↦ hexclusive ⟨hinteger, side, hkey⟩] at h
        · split at h
          next hitems =>
            obtain ⟨first, -, rfl⟩ := Option.map_eq_some_iff.mp h
            exact hitems.symm
          next =>
            cases h
            rfl
        · intro hkey
          rwa [if_pos hkey] at htype

def isBound (key : String) : Prop := ∃ side : Side, key = side.inclusive

def own (p : Provider) (info : TypeInfo) (key : String) (value : Value) : Option Value :=
  (entry p info (key, value)).bind fun e ↦ if e.1 = key then some e.2 else none

def converted (info : TypeInfo) (fields : Fields) (side : Side) : Option Number :=
  if info.isIntegerType then (fields.lookup side.exclusive).bind side.convert else none

theorem given_entry_self : Fields.given (entry p info) fields key key =
    (fields.lookup key).bind (own p info key) := rfl

theorem own_plain (hnames : key ≠ "propertyNames")
    (htype : key = "type" → info.resolvedType = none)
    (hexclusive : info.isIntegerType = true → ∀ side : Side, key ≠ side.exclusive) :
    own p info key value =
      if key = "items" then (single value).map (sanitizeRecursive p)
      else some (sanitizeValue p value) := by
  rw [own, entry_plain hnames htype hexclusive]
  split
  next hitems =>
    subst hitems
    cases single value <;> rfl
  next => simp

theorem own_type {type : String} (h : info.resolvedType = some type) :
    own p info "type" value = some (.string type) := by
  rw [own, entry_type h]
  rfl

theorem own_exclusive (side : Side) (h : info.isIntegerType = true) :
    own p info side.exclusive value = none := by
  rw [own, entry_exclusive side h]
  cases side.convert value with
  | none => rfl
  | some n => exact if_neg (side.inclusive_ne_exclusive side)

theorem own_inclusive (side : Side) : own p info side.inclusive value =
    some (sanitizeValue p value) := by
  rw [own_plain]
  · exact if_neg (by cases side <;> decide)
  · cases side <;> decide
  · exact fun hkey ↦ absurd hkey (by cases side <;> decide)
  · exact fun _ side' ↦ side.inclusive_ne_exclusive side'

theorem given_exclusive (side : Side) :
    Fields.given (entry p info) fields side.inclusive side.exclusive =
      (converted info fields side).map .number := by
  rw [Fields.given, converted]
  cases hinteger : info.isIntegerType with
  | false =>
    rw [if_neg Bool.false_ne_true, Option.map_none, Option.bind_eq_none_iff]
    intro value _
    rw [entry_plain (by cases side <;> decide) (fun hkey ↦ absurd hkey (by cases side <;> decide))
      (fun h ↦ absurd (hinteger.symm.trans h) Bool.false_ne_true),
      if_neg (by cases side <;> decide)]
    exact if_neg (side.inclusive_ne_exclusive side).symm
  | true =>
    rw [if_pos rfl]
    cases fields.lookup side.exclusive with
    | none => rfl
    | some value =>
      rw [Option.bind_some, Option.bind_some, entry_exclusive side hinteger]
      cases side.convert value with
      | none => rfl
      | some n => exact if_pos rfl

theorem lookup_newFields_eq : (newFields p fields).lookup key =
    if key = "nullable" ∧ (typeInfo p fields).addNullable = true then some (.bool true)
    else (fields.filterMap (entry p (typeInfo p fields))).reverse.lookup key := by
  rw [newFields, Fields.lookup_insertAll, List.reverse_append, List.lookup_append, nullableEntry]
  cases (typeInfo p fields).addNullable with
  | false => simp
  | true =>
    rw [if_pos rfl, List.reverse_singleton, Fields.lookup_cons]
    by_cases hkey : key = "nullable" <;> simp [hkey]

theorem lookup_newFields (key : String) (h : fields.keys.Nodup) (hbound : ¬ isBound key)
    (hnullable : ¬ (key = "nullable" ∧ (typeInfo p fields).addNullable = true)) :
    (newFields p fields).lookup key =
      (fields.lookup key).bind (own p (typeInfo p fields) key) := by
  rw [lookup_newFields_eq, if_neg hnullable]
  have hown {field e : String × Value} (hentry : entry p (typeInfo p fields) field = some e)
      (hkey : e.1 = key) : field.1 ≠ "propertyNames" ∧ field.1 = key := by
    obtain ⟨hnames, heq | ⟨side, n, rfl, -⟩⟩ := entry_cases hentry
    · exact ⟨hnames, heq.symm.trans hkey⟩
    · exact absurd ⟨side, hkey.symm⟩ hbound
  by_cases hnames : key = "propertyNames"
  · have hnone : (fields.lookup key).bind (own p (typeInfo p fields) key) = none := by
      rw [hnames, Option.bind_eq_none_iff]
      exact fun value _ ↦ rfl
    rw [hnone, List.lookup_eq_none_iff]
    intro e he
    obtain ⟨field, -, hentry⟩ := List.mem_filterMap.mp (List.mem_reverse.mp he)
    have hne : key ≠ e.1 := by
      intro heq
      obtain ⟨hne, hfield⟩ := hown hentry heq.symm
      exact hne (hfield.trans hnames)
    simpa using hne
  · rw [Fields.lookup_reverse_filterMap (b := "propertyNames") hnames
      (fun field e hentry hkey ↦ .inl (hown hentry hkey).2) h]
    have hnone : Fields.given (entry p (typeInfo p fields)) fields key "propertyNames" = none := by
      rw [Fields.given, Option.bind_eq_none_iff]
      exact fun value _ ↦ rfl
    rw [hnone, Option.or_none, Option.none_or, ite_self, given_entry_self]

theorem lookup_inclusive (h : fields.keys.Nodup) (side : Side) :
    (newFields p fields).lookup side.inclusive =
      if fields.before side.inclusive side.exclusive then
        ((converted (typeInfo p fields) fields side).map .number).or
          ((fields.lookup side.inclusive).map (sanitizeValue p))
      else ((fields.lookup side.inclusive).map (sanitizeValue p)).or
        ((converted (typeInfo p fields) fields side).map .number) := by
  have hself : Fields.given (entry p (typeInfo p fields)) fields side.inclusive side.inclusive =
      (fields.lookup side.inclusive).map (sanitizeValue p) := by
    rw [given_entry_self]
    cases fields.lookup side.inclusive with
    | none => rfl
    | some value => exact own_inclusive side
  rw [lookup_newFields_eq, if_neg fun hkey ↦ absurd hkey.1 (by cases side <;> decide),
    Fields.lookup_reverse_filterMap (side.inclusive_ne_exclusive side) _ h, given_exclusive, hself]
  intro field e hentry hkey
  obtain ⟨-, heq | ⟨side', n, rfl, hsource⟩⟩ := entry_cases hentry
  · exact .inl (heq.symm.trans hkey)
  · obtain rfl := Side.inclusive_injective hkey
    exact .inr hsource

end Lookups

end AdkGateway.SchemaSanitizer
