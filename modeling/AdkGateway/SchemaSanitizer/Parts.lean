import AdkGateway.SchemaSanitizer.Entries
import Mathlib.Data.List.Nodup

namespace AdkGateway.SchemaSanitizer

open Foundation

def givesWay (info : TypeInfo) (fields : Fields) (side : Side) : Bool :=
  fields.before side.inclusive side.exclusive && (converted info fields side).isSome

def dropped (p : Provider) (fields : Fields) (key : String) : Bool :=
  let info := typeInfo p fields
  key = "propertyNames" ||
    (key = "type" && info.resolvedType.isSome) ||
    (info.isIntegerType && (key = Side.lower.exclusive || key = Side.upper.exclusive)) ||
    (key = Side.lower.inclusive && givesWay info fields .lower) ||
    (key = Side.upper.inclusive && givesWay info fields .upper) ||
    (key = "nullable" && info.addNullable)

def part (p : Provider) (fields : Fields) (field : String × Value) : Option Value :=
  if dropped p fields field.1 then none
  else if field.1 = "items" then single field.2
  else some field.2

section Dropped

variable {p : Provider} {fields : Fields} {key : String}

theorem dropped_eq_false_iff : dropped p fields key = false ↔
    key ≠ "propertyNames" ∧
      (key = "type" → (typeInfo p fields).resolvedType = none) ∧
      ((typeInfo p fields).isIntegerType = true → ∀ side : Side, key ≠ side.exclusive) ∧
      (∀ side : Side, key = side.inclusive → givesWay (typeInfo p fields) fields side = false) ∧
      ¬ (key = "nullable" ∧ (typeInfo p fields).addNullable = true) := by
  have hsides (Q : Side → Prop) : (∀ side, Q side) ↔ Q .lower ∧ Q .upper :=
    ⟨fun h ↦ ⟨h .lower, h .upper⟩, fun h side ↦ by cases side; exacts [h.1, h.2]⟩
  rw [hsides, hsides]
  simp only [dropped, Bool.or_eq_false_iff, Bool.and_eq_false_imp, decide_eq_false_iff_not,
    decide_eq_true_eq, Option.isSome_eq_false_iff, Option.isNone_iff_eq_none, not_and,
    Bool.not_eq_true]
  tauto

end Dropped

section Lookups

variable {p : Provider} {fields : Fields} {key : String} {value w : Value}

theorem lookup_of_part (h : fields.keys.Nodup) (hfield : (key, value) ∈ fields)
    (hpart : part p fields (key, value) = some w) :
    (newFields p fields).lookup key = some (sanitizeAs p key w) := by
  rw [part] at hpart
  split at hpart
  · cases hpart
  next hdropped =>
    obtain ⟨hnames, htype, hexclusive, hinclusive, hnullable⟩ :=
      dropped_eq_false_iff.mp (Bool.eq_false_iff.mpr hdropped)
    rw [Fields.mem_iff_lookup h] at hfield
    by_cases hbound : isBound key
    · obtain ⟨side, rfl⟩ := hbound
      have hitems : side.inclusive ≠ "items" := by cases side <;> decide
      rw [if_neg hitems] at hpart
      obtain rfl := Option.some_inj.mp hpart
      have hstays := hinclusive side rfl
      rw [lookup_inclusive h side, hfield, sanitizeAs, if_neg hitems]
      rw [givesWay, Bool.and_eq_false_imp] at hstays
      split
      next hbefore =>
        have hnone := hstays hbefore
        rw [Option.isSome_eq_false_iff, Option.isNone_iff_eq_none] at hnone
        rw [hnone, Option.map_none, Option.none_or, Option.map_some]
      next => rfl
    · rw [lookup_newFields _ h hbound hnullable, hfield, Option.bind_some,
        own_plain hnames htype hexclusive, sanitizeAs]
      split at hpart
      next hitems =>
        change single value = some w at hpart
        rw [if_pos hitems, if_pos hitems, hpart, Option.map_some]
      next hitems =>
        obtain rfl := Option.some_inj.mp hpart
        rw [if_neg hitems, if_neg hitems]

theorem part_of_not_dropped (h : dropped p fields key = false) :
    part p fields (key, value) = if key = "items" then single value else some value := by
  rw [part, h, if_neg Bool.false_ne_true]

theorem part_of_lookup (h : fields.keys.Nodup) {v : Value}
    (hlookup : (newFields p fields).lookup key = some v) : scalar v = true ∨
      ∃ value, (key, value) ∈ fields ∧ ∃ w, part p fields (key, value) = some w ∧
        v = sanitizeAs p key w := by
  by_cases hbound : isBound key
  · obtain ⟨side, rfl⟩ := hbound
    have hitems : side.inclusive ≠ "items" := by cases side <;> decide
    rw [lookup_inclusive h side] at hlookup
    have hkept (hstays : givesWay (typeInfo p fields) fields side = false)
        (hfield : (fields.lookup side.inclusive).map (sanitizeValue p) = some v) :
        ∃ value, (side.inclusive, value) ∈ fields ∧ ∃ w,
          part p fields (side.inclusive, value) = some w ∧ v = sanitizeAs p side.inclusive w := by
      obtain ⟨value, hvalue, rfl⟩ := Option.map_eq_some_iff.mp hfield
      refine ⟨value, (Fields.mem_iff_lookup h).mpr hvalue, value, ?_, (if_neg hitems).symm⟩
      rw [part_of_not_dropped, if_neg hitems]
      refine dropped_eq_false_iff.mpr ⟨?_, ?_, fun _ side' ↦ side.inclusive_ne_exclusive side', ?_, ?_⟩
      · cases side <;> decide
      · exact fun hkey ↦ absurd hkey (by cases side <;> decide)
      · intro side' hside
        obtain rfl := Side.inclusive_injective hside
        exact hstays
      · exact fun hkey ↦ absurd hkey.1 (by cases side <;> decide)
    cases hconverted : converted (typeInfo p fields) fields side with
    | some n =>
      rw [hconverted] at hlookup
      split at hlookup
      · left
        obtain rfl := Option.some_inj.mp hlookup
        rfl
      next hbefore =>
        cases hfield : fields.lookup side.inclusive with
        | none =>
          left
          rw [hfield] at hlookup
          obtain rfl := Option.some_inj.mp hlookup
          rfl
        | some value =>
          right
          rw [hfield] at hlookup
          refine hkept ?_ (by rw [hfield]; exact hlookup)
          rw [givesWay, Bool.eq_false_iff.mpr hbefore, Bool.false_and]
    | none =>
      right
      rw [hconverted, Option.map_none, Option.none_or, Option.or_none, ite_self] at hlookup
      refine hkept ?_ hlookup
      rw [givesWay, hconverted, Option.isSome_none, Bool.and_false]
  · by_cases hnullable : key = "nullable" ∧ (typeInfo p fields).addNullable = true
    · left
      rw [lookup_newFields_eq, if_pos hnullable] at hlookup
      obtain rfl := Option.some_inj.mp hlookup
      rfl
    · rw [lookup_newFields _ h hbound hnullable] at hlookup
      obtain ⟨value, hvalue, hown⟩ := Option.bind_eq_some_iff.mp hlookup
      have hnames : key ≠ "propertyNames" := by
        rintro rfl
        cases hown
      have hexclusive (hinteger : (typeInfo p fields).isIntegerType = true) (side : Side) :
          key ≠ side.exclusive := by
        rintro rfl
        rw [own_exclusive side hinteger] at hown
        cases hown
      by_cases htype : key = "type" → (typeInfo p fields).resolvedType = none
      · right
        refine ⟨value, (Fields.mem_iff_lookup h).mpr hvalue, ?_⟩
        rw [own_plain hnames htype hexclusive] at hown
        rw [part_of_not_dropped]
        · split at hown
          next hitems =>
            obtain ⟨w, hsingle, rfl⟩ := Option.map_eq_some_iff.mp hown
            refine ⟨w, ?_, (if_pos hitems).symm⟩
            rw [if_pos hitems, hsingle]
          next hitems =>
            obtain rfl := Option.some_inj.mp hown
            refine ⟨value, if_neg hitems, (if_neg hitems).symm⟩
        · refine dropped_eq_false_iff.mpr ⟨hnames, htype, hexclusive, ?_, hnullable⟩
          exact fun side hside ↦ absurd ⟨side, hside⟩ hbound
      · left
        obtain ⟨rfl, hresolved⟩ := Classical.not_imp.mp htype
        obtain ⟨type, hresolved⟩ := Option.ne_none_iff_exists'.mp hresolved
        rw [own_type hresolved] at hown
        obtain rfl := Option.some_inj.mp hown
        rfl

end Lookups

section Visited

variable {κ : Type} (positions : Positions κ) (p : Provider) (P : κ → Fields → Prop)

mutual

def Visited : κ → Value → Prop
  | k, .array items => VisitedItems (positions.element k) items
  | k, .object fields => P k fields ∧ VisitedFields fields k fields
  | _, _ => True

def VisitedItems : κ → List Value → Prop
  | _, [] => True
  | k, item :: items => Visited k item ∧ VisitedItems k items

def VisitedFields (whole : Fields) : κ → List (String × Value) → Prop
  | _, [] => True
  | k, (key, value) :: fields =>
    (dropped p whole key = false →
      if key = "items" then VisitedSingle (positions.child k key) value
      else Visited (positions.child k key) value) ∧ VisitedFields whole k fields

def VisitedSingle : κ → Value → Prop
  | _, .array [] => True
  | k, .array (item :: _) => Visited k item
  | k, value => Visited k value

end

variable {positions p P} {k : κ}

theorem visited_array {items : List Value} : Visited positions p P k (.array items) ↔
    ∀ item ∈ items, Visited positions p P (positions.element k) item := by
  rw [Visited]
  induction items with
  | nil => simp [VisitedItems]
  | cons item items ih => rw [VisitedItems, ih, List.forall_mem_cons]

theorem visitedSingle_iff {value : Value} : VisitedSingle positions p P k value ↔
    ∀ w, single value = some w → Visited positions p P k w := by
  cases value with
  | array items =>
    cases items with
    | nil => simp [VisitedSingle, single]
    | cons first rest => simp [VisitedSingle, single]
  | _ => simp [VisitedSingle, single]

theorem visited_object {fields : Fields} : Visited positions p P k (.object fields) ↔
    P k fields ∧ ∀ field ∈ fields, ∀ w, part p fields field = some w →
      Visited positions p P (positions.child k field.1) w := by
  have hparts (rest : Fields) : VisitedFields positions p P fields k rest ↔
      ∀ field ∈ rest, ∀ w, part p fields field = some w →
        Visited positions p P (positions.child k field.1) w := by
    induction rest with
    | nil => simp [VisitedFields]
    | cons field rest ih =>
      obtain ⟨key, value⟩ := field
      rw [VisitedFields, ih, List.forall_mem_cons]
      refine and_congr_left fun _ ↦ ?_
      rw [part]
      cases hdropped : dropped p fields key with
      | true => simp
      | false =>
        rw [forall_prop_of_true rfl, if_neg Bool.false_ne_true]
        split
        · exact visitedSingle_iff
        · simp
  rw [Visited, hparts]

end Visited

section Arguments

theorem argName_injective : argName.Injective := by
  intro i j h
  have hrepr : toString i = toString j := (String.append_right_inj "arg").mp h
  have hdigits : Nat.toDigits 10 i = Nat.toDigits 10 j := by
    simpa using congrArg String.toList hrepr
  rw [← Nat.ofDigitChars_ten_toDigits (n := i), hdigits, Nat.ofDigitChars_ten_toDigits]

theorem arguments_eq (items : List Value) : arguments items = (argNames items.length).zip items := by
  have hkeys : Fields.keys ((argNames items.length).zip items) = argNames items.length :=
    List.map_fst_zip (by simp [argNames])
  refine Fields.insertAll_of_nodup ?_
  rw [List.nil_append, hkeys]
  exact List.Nodup.map argName_injective List.nodup_range

theorem mem_arguments {items : List Value} {field : String × Value} (h : field ∈ arguments items) :
    field.2 ∈ items ∧ ∃ i, field.1 = argName i := by
  rw [arguments_eq] at h
  obtain ⟨hname, hitem⟩ := List.of_mem_zip h
  obtain ⟨i, -, hi⟩ := List.mem_map.mp hname
  exact ⟨hitem, i, hi.symm⟩

theorem mem_arguments_of_mem {items : List Value} {item : Value} (h : item ∈ items) :
    ∃ i, (argName i, item) ∈ arguments items := by
  obtain ⟨i, hi, rfl⟩ := List.getElem_of_mem h
  refine ⟨i, ?_⟩
  rw [arguments_eq, List.mem_iff_getElem]
  refine ⟨i, by simpa [argNames] using hi, ?_⟩
  simp [argNames]

theorem argName_ne {key : String} (h : key.toList.take 3 ≠ "arg".toList) (i : ℕ) :
    argName i ≠ key := by
  rintro rfl
  exact h (by simp [argName])

def positionalFields (items : List Value) : Fields :=
  [("type", .string "object"), ("properties", .object (arguments items)),
    ("required", .array ((argNames items.length).map .string))]

theorem positional_eq (items : List Value) : positional items = .object (positionalFields items) := rfl

end Arguments

section Rule

variable {κ : Type} {positions : Positions κ} {p : Provider} {P P' : κ → Fields → Prop} {k : κ}

def Positional (positions : Positions κ) : Prop :=
  ∀ k i, positions.child (positions.child k "properties") (argName i) = positions.element k

def HoldsOfTuples (positions : Positions κ) (p : Provider) (P : κ → Fields → Prop) : Prop :=
  ∀ k items, p.convertsTuples = true → (∀ item ∈ items, item.isObject = true) →
    P k (positionalFields items) ∧ P (positions.child k "properties") (arguments items)

theorem isObject_sanitizeRecursive (value : Value) :
    (sanitizeRecursive p value).isObject = value.isObject := by
  cases value with
  | object fields => rw [sanitizeRecursive_object]; rfl
  | array items => rw [sanitizeRecursive_array]; rfl
  | _ => rw [sanitizeRecursive]

theorem each_positional (hpos : Positional positions) {items : List Value}
    (hfields : P k (positionalFields items))
    (harguments : P (positions.child k "properties") (arguments items)) :
    Value.Each positions P k (positional items) ↔
      Value.Each positions P k (.array items) := by
  rw [positional_eq, Value.each_object, Value.each_array]
  constructor
  · rintro ⟨-, hparts⟩ item hitem
    obtain ⟨i, hi⟩ := mem_arguments_of_mem hitem
    have hproperties := hparts ("properties", .object (arguments items)) (by simp [positionalFields])
    rw [← hpos k i]
    exact (Value.each_object.mp hproperties).2 _ hi
  · intro hitem
    refine ⟨hfields, ?_⟩
    simp only [positionalFields, List.forall_mem_cons, List.not_mem_nil, false_imp_iff,
      implies_true, and_true]
    refine ⟨trivial, Value.each_object.mpr ⟨harguments, ?_⟩, Value.each_array.mpr ?_⟩
    · intro field hfield
      obtain ⟨hmem, i, hi⟩ := mem_arguments hfield
      rw [hi, hpos k i]
      exact hitem _ hmem
    · intro item hmem
      obtain ⟨name, -, rfl⟩ := List.mem_map.mp hmem
      trivial

theorem each_sanitizeValue (hpos : Positional positions) (hP : HoldsOfTuples positions p P)
    (value : Value) : Value.Each positions P k (sanitizeValue p value) ↔
      Value.Each positions P k (sanitizeRecursive p value) := by
  cases value with
  | array items =>
    rw [sanitizeValue_array, sanitizeRecursive_array]
    split
    next htuple =>
      obtain ⟨hp, hall⟩ := Bool.and_eq_true_iff.mp htuple
      obtain ⟨-, hall⟩ := Bool.and_eq_true_iff.mp hall
      suffices hobjects : ∀ item ∈ items.map (sanitizeRecursive p), item.isObject = true by
        obtain ⟨hfields, harguments⟩ := hP k _ hp hobjects
        exact each_positional hpos hfields harguments
      intro item hitem
      obtain ⟨item', hitem', rfl⟩ := List.mem_map.mp hitem
      rw [isObject_sanitizeRecursive]
      exact List.all_eq_true.mp hall item' hitem'
    next => rfl
  | _ => rfl

theorem each_scalar {v : Value} (h : scalar v = true) : Value.Each positions P k v := by
  cases v with
  | array items => cases h
  | object fields => cases h
  | _ => trivial

theorem visited_scalar {v : Value} (h : scalar v = true) : Visited positions p P k v := by
  cases v with
  | array items => cases h
  | object fields => cases h
  | _ => simp [Visited]

theorem part_cases {fields : Fields} {key : String} {value w : Value}
    (h : part p fields (key, value) = some w) :
    w = value ∨ ∃ items, value = .array items ∧ w ∈ items := by
  rw [part] at h
  split at h
  · cases h
  · split at h
    · cases value with
      | array items => exact .inr ⟨items, rfl, List.mem_of_mem_head? h⟩
      | _ => exact .inl (Option.some_inj.mp h).symm
    · exact .inl (Option.some_inj.mp h).symm

theorem each_sanitizeAs (hpos : Positional positions) (hP : HoldsOfTuples positions p P)
    (key : String) (value : Value) : Value.Each positions P k (sanitizeAs p key value) ↔
      Value.Each positions P k (sanitizeRecursive p value) := by
  rw [sanitizeAs]
  split
  · rfl
  · exact each_sanitizeValue hpos hP value

theorem distinct_part {fields : Fields} (hv : (Value.object fields).Distinct) {field : String × Value}
    {w : Value} (hfield : field ∈ fields) (hpart : part p fields field = some w) : w.Distinct := by
  have hvalue := (Value.distinct_object.mp hv).2 field hfield
  rcases part_cases hpart with rfl | ⟨items, heq, hitem⟩
  · exact hvalue
  · rw [heq] at hvalue
    exact Value.distinct_array.mp hvalue w hitem

/-- What holds of all objects of a sanitized document can be told from those that the sanitizer
comes to. -/
theorem each_sanitize (hpos : Positional positions) (htuples : HoldsOfTuples positions p P)
    (hP : ∀ k fields, fields.keys.Nodup → (P k (newFields p fields) ↔ P' k fields)) {v : Value}
    (hv : v.Distinct) : Value.Each positions P k (sanitizeRecursive p v) ↔
      Visited positions p P' k v := by
  induction v using Value.induct_deep generalizing k with
  | array items ih =>
    rw [sanitizeRecursive_array, Value.each_array, visited_array, List.forall_mem_map]
    exact forall₂_congr fun item hitem ↦ ih item hitem (Value.distinct_array.mp hv item hitem)
  | object fields ih =>
    obtain ⟨hkeys, -⟩ := Value.distinct_object.mp hv
    rw [sanitizeRecursive_object, Value.each_object, visited_object, hP k fields hkeys]
    refine and_congr_right fun _ ↦ ?_
    have hparts {key : String} {value w : Value} (hfield : (key, value) ∈ fields)
        (hpart : part p fields (key, value) = some w) :
        Value.Each positions P (positions.child k key) (sanitizeAs p key w) ↔
          Visited positions p P' (positions.child k key) w := by
      have hw : Value.Each positions P (positions.child k key) (sanitizeRecursive p w) ↔
          Visited positions p P' (positions.child k key) w := by
        have hdistinct := distinct_part hv hfield hpart
        obtain ⟨hwhole, hitems⟩ := ih _ hfield
        rcases part_cases hpart with rfl | ⟨items, heq, hitem⟩
        · exact hwhole hdistinct
        · exact hitems items heq w hitem hdistinct
      exact (each_sanitizeAs hpos htuples key w).trans hw
    constructor
    · intro hall field hfield w hpart
      have hlookup := lookup_of_part hkeys hfield hpart
      exact (hparts hfield hpart).mp
        (hall (field.1, _) ((Fields.mem_iff_lookup (nodup_newFields p fields)).mpr hlookup))
    · intro hall field hfield
      obtain hscalar | ⟨value, hvalue, w, hpart, heq⟩ := part_of_lookup hkeys
        ((Fields.mem_iff_lookup (nodup_newFields p fields)).mp hfield)
      · exact each_scalar hscalar
      · rw [heq]
        exact (hparts hvalue hpart).mpr (hall _ hvalue w hpart)
  | _ =>
    rw [sanitizeRecursive_scalar p rfl]
    exact iff_of_true (each_scalar rfl) (visited_scalar rfl)

end Rule

end AdkGateway.SchemaSanitizer
