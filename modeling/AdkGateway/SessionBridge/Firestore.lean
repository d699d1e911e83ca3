import AdkGateway.Foundation.Decimal
import AdkGateway.Foundation.KeyedMap
import AdkGateway.Foundation.Time
import AdkGateway.Foundation.Value
import Mathlib.Tactic.Linarith

namespace AdkGateway.SessionBridge.Firestore

open Foundation

/-- The multiple of a unit that is nearest, an even one where two are. -/
def nearestEven (unit n : ℕ) : ℕ :=
  let q := n / unit
  let r := n % unit
  if 2 * r < unit ∨ 2 * r = unit ∧ q % 2 = 0 then q * unit else (q + 1) * unit

/-- An integer with at most 53 significant binary digits is kept as it is. -/
def asF64 : Number → ℚ
  | .int n _ => n.sign * nearestEven (2 ^ (Nat.log2 n.natAbs - 52)) n.natAbs
  | .float x => x

def numberToFirestore (n : Number) : Value :=
  match n.asI64 with
  | some i => .object [("integerValue", .string (toString i))]
  | none => .object [("doubleValue", .number (.float (asF64 n)))]

mutual

def jsonToFirestoreValue : Value → Value
  | .null => .object [("nullValue", .null)]
  | .bool b => .object [("booleanValue", .bool b)]
  | .number n => numberToFirestore n
  | .string s => .object [("stringValue", .string s)]
  | .array items => .object [("arrayValue", .object [("values", .array (itemsToFirestore items))])]
  | .object fields => .object [("mapValue", .object
      [("fields", .object (Fields.insertAll (fieldsToFirestore fields) []))])]

def itemsToFirestore : List Value → List Value
  | [] => []
  | item :: items => jsonToFirestoreValue item :: itemsToFirestore items

def fieldsToFirestore : List (String × Value) → List (String × Value)
  | [] => []
  | (key, value) :: fields => (key, jsonToFirestoreValue value) :: fieldsToFirestore fields

end

def integerToJson (i : Value) : Value :=
  match i.asStr.bind fun s ↦ Decimal.parseSigned 64 s.toList with
  | some n => if h : -2 ^ 63 ≤ n ∧ n < 2 ^ 64 then .number (.int n h) else i
  | none => i

def valuesOf (arr : Value) : List Value :=
  match arr.get "values" with
  | some (.array values) => values
  | _ => []

def fieldsOf (map : Value) : Fields :=
  match map.get "fields" with
  | some (.object fields) => fields
  | _ => []

theorem sizeOf_lookup {fields : Fields} {key : String} {value : Value}
    (h : fields.lookup key = some value) : sizeOf value < sizeOf (Value.object fields) := by
  induction fields with
  | nil => cases h
  | cons field fields ih =>
    obtain ⟨key', value'⟩ := field
    rw [Fields.lookup_cons] at h
    split at h
    · cases h
      simp +arith
    · have := ih h
      simp only [Value.object.sizeOf_spec, List.cons.sizeOf_spec] at this ⊢
      omega

theorem sizeOf_get {v : Value} {key : String} {value : Value} (h : v.get key = some value) :
    sizeOf value < sizeOf v := by
  cases v with
  | object fields => exact sizeOf_lookup h
  | _ => cases h

theorem sizeOf_valuesOf {arr v : Value} (h : v ∈ valuesOf arr) : sizeOf v < sizeOf arr := by
  rw [valuesOf] at h
  split at h
  next values hvalues =>
    have hget := sizeOf_get hvalues
    have hmem := List.sizeOf_lt_of_mem h
    simp only [Value.array.sizeOf_spec] at hget
    omega
  next => cases h

theorem sizeOf_fieldsOf {map : Value} {field : String × Value} (h : field ∈ fieldsOf map) :
    sizeOf field.2 < sizeOf map := by
  rw [fieldsOf] at h
  split at h
  next fields hfields =>
    have hget := sizeOf_get hfields
    have hmem := List.sizeOf_lt_of_mem h
    obtain ⟨key, value⟩ := field
    simp only [Value.object.sizeOf_spec, Prod.mk.sizeOf_spec] at hget hmem ⊢
    omega
  next => cases h

/-- The kinds are asked for in turn; what has none of them is left as it is. -/
def firestoreValueToJson : Value → Value
  | .object obj =>
    match obj.lookup "stringValue", obj.lookup "booleanValue", obj.lookup "integerValue",
      obj.lookup "doubleValue", obj.lookup "nullValue" with
    | some s, _, _, _, _ => s
    | none, some b, _, _, _ => b
    | none, none, some i, _, _ => integerToJson i
    | none, none, none, some f, _ => f
    | none, none, none, none, some _ => .null
    | none, none, none, none, none =>
      match _harr : obj.lookup "arrayValue", _hmap : obj.lookup "mapValue" with
      | some arr, _ => .array ((valuesOf arr).attach.map fun v ↦ firestoreValueToJson v.1)
      | none, some map => .object (Fields.insertAll
          ((fieldsOf map).attach.map fun f ↦ (f.1.1, firestoreValueToJson f.1.2)) [])
      | none, none => (obj.lookup "timestampValue").getD (.object obj)
  | fv => fv
termination_by fv => sizeOf fv
decreasing_by
  · exact (sizeOf_valuesOf v.2).trans (sizeOf_lookup ‹_›)
  · exact (sizeOf_fieldsOf f.2).trans (sizeOf_lookup ‹_›)

theorem itemsToFirestore_eq_map (items : List Value) :
    itemsToFirestore items = items.map jsonToFirestoreValue := by
  induction items with
  | nil => rfl
  | cons item items ih => rw [itemsToFirestore, ih, List.map_cons]

theorem fieldsToFirestore_eq_map (fields : Fields) :
    fieldsToFirestore fields = fields.map fun f ↦ (f.1, jsonToFirestoreValue f.2) := by
  induction fields with
  | nil => rfl
  | cons field fields ih => rw [fieldsToFirestore, ih, List.map_cons]

section Decoding

theorem decode_string (s : Value) : firestoreValueToJson (.object [("stringValue", s)]) = s := by
  rw [firestoreValueToJson]
  rfl

theorem decode_bool (b : Value) : firestoreValueToJson (.object [("booleanValue", b)]) = b := by
  rw [firestoreValueToJson]
  rfl

theorem decode_integer (i : Value) :
    firestoreValueToJson (.object [("integerValue", i)]) = integerToJson i := by
  rw [firestoreValueToJson]
  rfl

theorem decode_double (f : Value) : firestoreValueToJson (.object [("doubleValue", f)]) = f := by
  rw [firestoreValueToJson]
  rfl

theorem decode_null (v : Value) : firestoreValueToJson (.object [("nullValue", v)]) = .null := by
  rw [firestoreValueToJson]
  rfl

theorem decode_array (arr : Value) : firestoreValueToJson (.object [("arrayValue", arr)]) =
    .array ((valuesOf arr).map firestoreValueToJson) := by
  rw [firestoreValueToJson]
  change Value.array ((valuesOf arr).attach.map fun v ↦ firestoreValueToJson v.1) = _
  rw [List.attach_map_val]

theorem decode_map (map : Value) : firestoreValueToJson (.object [("mapValue", map)]) =
    .object (Fields.insertAll
      ((fieldsOf map).map fun f ↦ (f.1, firestoreValueToJson f.2)) []) := by
  rw [firestoreValueToJson]
  change Value.object (Fields.insertAll
    ((fieldsOf map).attach.map fun f ↦ (f.1.1, firestoreValueToJson f.1.2)) []) = _
  rw [← List.attach_map_val (l := fieldsOf map)
    (f := fun f : String × Value ↦ (f.1, firestoreValueToJson f.2))]

end Decoding

mutual

def mapNumbers (f : Number → Number) : Value → Value
  | .number n => .number (f n)
  | .array items => .array (mapNumbersItems f items)
  | .object fields => .object (mapNumbersFields f fields)
  | v => v

def mapNumbersItems (f : Number → Number) : List Value → List Value
  | [] => []
  | item :: items => mapNumbers f item :: mapNumbersItems f items

def mapNumbersFields (f : Number → Number) : List (String × Value) → List (String × Value)
  | [] => []
  | (key, value) :: fields => (key, mapNumbers f value) :: mapNumbersFields f fields

end

mutual

def numbers : Value → List Number
  | .number n => [n]
  | .array items => numbersItems items
  | .object fields => numbersFields fields
  | _ => []

def numbersItems : List Value → List Number
  | [] => []
  | item :: items => numbers item ++ numbersItems items

def numbersFields : List (String × Value) → List Number
  | [] => []
  | (_, value) :: fields => numbers value ++ numbersFields fields

end

variable {f : Number → Number}

theorem mapNumbersItems_eq_map (items : List Value) :
    mapNumbersItems f items = items.map (mapNumbers f) := by
  induction items with
  | nil => rfl
  | cons item items ih => rw [mapNumbersItems, ih, List.map_cons]

theorem mapNumbersFields_eq_map (fields : Fields) :
    mapNumbersFields f fields = fields.map fun field ↦ (field.1, mapNumbers f field.2) := by
  induction fields with
  | nil => rfl
  | cons field fields ih => rw [mapNumbersFields, ih, List.map_cons]

theorem mapNumbers_eq_self_iff (v : Value) : mapNumbers f v = v ↔ ∀ n ∈ numbers v, f n = n := by
  induction v using Value.induct with
  | number n => simp [mapNumbers, numbers]
  | array items ih =>
    have hitems : mapNumbersItems f items = items ↔ ∀ n ∈ numbersItems items, f n = n := by
      induction items with
      | nil => simp [mapNumbersItems, numbersItems]
      | cons item items ihItems =>
        obtain ⟨hitem, hrest⟩ := List.forall_mem_cons.mp ih
        rw [mapNumbersItems, numbersItems, List.forall_mem_append, List.cons.injEq, hitem,
          ihItems hrest]
    rw [mapNumbers, numbers, Value.array.injEq, hitems]
  | object fields ih =>
    have hfields : mapNumbersFields f fields = fields ↔ ∀ n ∈ numbersFields fields, f n = n := by
      induction fields with
      | nil => simp [mapNumbersFields, numbersFields]
      | cons field fields ihFields =>
        obtain ⟨hfield, hrest⟩ := List.forall_mem_cons.mp ih
        obtain ⟨key, value⟩ := field
        rw [mapNumbersFields, numbersFields, List.forall_mem_append, List.cons.injEq,
          Prod.mk.injEq, hfield, ihFields hrest]
        exact and_congr_left fun _ ↦ and_iff_right rfl
    rw [mapNumbers, numbers, Value.object.injEq, hfields]
  | _ => simp [mapNumbers, numbers]

/-- What is read again of a number: an integer that no signed machine word holds comes back as a
floating-point number. -/
def keptNumber (n : Number) : Number :=
  match n.asI64 with
  | some _ => n
  | none => .float (asF64 n)

theorem decode_number (n : Number) :
    firestoreValueToJson (numberToFirestore n) = .number (keptNumber n) := by
  rw [numberToFirestore, keptNumber]
  cases hn : n.asI64 with
  | none => exact decode_double _
  | some i =>
    obtain ⟨m, h⟩ | x := n
    · obtain ⟨hlt, rfl⟩ : m < 2 ^ 63 ∧ m = i := by simpa [Number.asI64] using hn
      have hread : Decimal.parseSigned 64 (toString m).toList = some m :=
        Decimal.parseSigned_toString h.1 hlt
      change firestoreValueToJson (.object [("integerValue", .string (toString m))]) = _
      rw [decode_integer, integerToJson, Value.asStr, Option.bind_some, hread]
      exact dif_pos h
    · cases hn

theorem keys_map_values (g : Value → Value) (fields : Fields) :
    Fields.keys (fields.map fun field ↦ (field.1, g field.2)) = fields.keys := by
  rw [Fields.keys, Fields.keys, List.map_map]
  rfl

/-- What is read of a stored document is the document with its numbers as they are kept, whatever
names it uses itself. -/
theorem decode_encode {v : Value} (hv : v.Distinct) :
    firestoreValueToJson (jsonToFirestoreValue v) = mapNumbers keptNumber v := by
  induction v using Value.induct with
  | null => exact decode_null _
  | bool b => exact decode_bool _
  | number n => exact decode_number n
  | string s => exact decode_string _
  | array items ih =>
    rw [Value.distinct_array] at hv
    rw [jsonToFirestoreValue, decode_array, mapNumbers, itemsToFirestore_eq_map,
      mapNumbersItems_eq_map]
    change Value.array ((items.map jsonToFirestoreValue).map firestoreValueToJson) = _
    rw [List.map_map]
    exact congrArg Value.array (List.map_congr_left fun item hitem ↦ ih item hitem (hv item hitem))
  | object fields ih =>
    obtain ⟨hnodup, hvalues⟩ := Value.distinct_object.mp hv
    have hmap (g : Value → Value) :
        Fields.insertAll (fields.map fun field ↦ (field.1, g field.2)) [] =
          fields.map fun field ↦ (field.1, g field.2) := by
      refine Fields.insertAll_of_nodup ?_
      rw [List.nil_append, keys_map_values]
      exact hnodup
    rw [jsonToFirestoreValue, decode_map, mapNumbers, fieldsToFirestore_eq_map,
      mapNumbersFields_eq_map, hmap]
    change Value.object (Fields.insertAll ((fields.map fun field ↦
      (field.1, jsonToFirestoreValue field.2)).map fun field ↦
        (field.1, firestoreValueToJson field.2)) []) = _
    rw [List.map_map]
    change Value.object (Fields.insertAll (fields.map fun field ↦
      (field.1, firestoreValueToJson (jsonToFirestoreValue field.2))) []) = _
    rw [hmap fun value ↦ firestoreValueToJson (jsonToFirestoreValue value)]
    refine congrArg Value.object (List.map_congr_left fun field hfield ↦ ?_)
    rw [ih field hfield (hvalues field hfield)]

/-- A number that is not an integer above the signed words. -/
def Fits : Number → Prop
  | .int n _ => n < 2 ^ 63
  | .float _ => True

theorem keptNumber_eq_self_iff (n : Number) : keptNumber n = n ↔ Fits n := by
  obtain ⟨m, h⟩ | x := n
  · by_cases hlt : m < 2 ^ 63
    · have hsome : (Number.int m h).asI64 = some m := if_pos hlt
      exact iff_of_true (by rw [keptNumber, hsome]) hlt
    · have hnone : (Number.int m h).asI64 = none := if_neg hlt
      refine iff_of_false ?_ hlt
      rw [keptNumber, hnone]
      nofun
  · exact iff_of_true rfl trivial

/-- The round trip is exact just if no number is an integer above the signed words. -/
theorem decode_encode_eq_self_iff (d : Document) :
    firestoreValueToJson (jsonToFirestoreValue d.value) = d.value ↔
      ∀ n ∈ numbers d.value, Fits n := by
  rw [decode_encode d.distinct, mapNumbers_eq_self_iff]
  exact forall₂_congr fun n _ ↦ keptNumber_eq_self_iff n

abbrev State := KeyedMap String Document

def State.values (state : State) (name : String) : Option Value :=
  (state.lookup name).map Document.value

def stateToFirestoreMap (state : State) : Value :=
  .object [("mapValue", .object [("fields", .object (Fields.insertAll
    (state.entries.map fun e ↦ (e.1, jsonToFirestoreValue e.2.value)) []))])]

def sessionDocument (toRfc3339 : DateTime → String) (state : State) (now : DateTime) : Value :=
  .object [("fields", .object
    [("state", stateToFirestoreMap state),
      ("created_at", .object [("timestampValue", .string (toRfc3339 now))]),
      ("updated_at", .object [("timestampValue", .string (toRfc3339 now))])])]

def parseState (fields : Fields) : KeyedMap String Value :=
  match ((fields.lookup "state").bind (Value.get "mapValue")) with
  | some map => (fieldsOf map).foldl (fun state f ↦ state.insert f.1 (firestoreValueToJson f.2)) ∅
  | none => ∅

def parseDocument (parseRfc3339 : String → Option DateTime) (now : DateTime) (doc : Value) :
    Option (KeyedMap String Value × DateTime) :=
  match doc.get "fields" with
  | some (.object fields) =>
    let updatedAt :=
      ((fields.lookup "updated_at").bind (Value.get "timestampValue")).bind Value.asStr
    some (parseState fields, (updatedAt.bind parseRfc3339).getD now)
  | _ => none

variable {toRfc3339 : DateTime → String} {parseRfc3339 : String → Option DateTime}

theorem lookup_foldl_insert (fields : Fields) (hnodup : fields.keys.Nodup) (g : Value → Value)
    (state : KeyedMap String Value) (name : String) :
    (fields.foldl (fun state f ↦ state.insert f.1 (g f.2)) state).lookup name =
      ((fields.lookup name).map g).or (state.lookup name) := by
  induction fields generalizing state with
  | nil => rfl
  | cons field fields ih =>
    obtain ⟨key, value⟩ := field
    obtain ⟨hnot, hrest⟩ := List.nodup_cons.mp hnodup
    rw [List.foldl_cons, ih hrest, Fields.lookup_cons, KeyedMap.lookup_insert_if]
    by_cases hname : name = key
    · have hnone : fields.lookup name = none := by
        rw [List.lookup_eq_none_iff]
        intro field hfield
        have hne : name ≠ field.1 := fun heq ↦
          hnot (List.mem_map.mpr ⟨field, hfield, heq.symm.trans hname⟩)
        simpa using hne
      rw [if_pos hname, if_pos hname, hnone]
      rfl
    · rw [if_neg hname, if_neg hname]

theorem parseState_sessionDocument (state : State) (rest : Fields) (name : String) :
    (parseState (("state", stateToFirestoreMap state) :: rest)).lookup name =
      (state.values name).map (mapNumbers keptNumber) := by
  let stored : Fields := state.entries.map fun e ↦ (e.1, jsonToFirestoreValue e.2.value)
  have hkeys : stored.keys = state.keys := by
    rw [Fields.keys, List.map_map]
    rfl
  have hnodup : stored.keys.Nodup := by
    rw [hkeys]
    exact state.keys_nodup
  have hfields :
      fieldsOf (.object [("fields", .object (Fields.insertAll stored []))]) = stored := by
    change Fields.insertAll stored [] = stored
    exact Fields.insertAll_of_nodup hnodup
  have hlookup :
      stored.lookup name = (state.lookup name).map fun d ↦ jsonToFirestoreValue d.value := by
    refine Option.ext fun value ↦ ?_
    rw [← Fields.mem_iff_lookup hnodup, List.mem_map, Option.map_eq_some_iff]
    constructor
    · rintro ⟨e, he, heq⟩
      cases heq
      exact ⟨e.2, KeyedMap.lookup_eq_some_iff.mpr he, rfl⟩
    · rintro ⟨d, hd, rfl⟩
      exact ⟨⟨name, d⟩, KeyedMap.lookup_eq_some_iff.mp hd, rfl⟩
  change ((fieldsOf (.object [("fields", .object (Fields.insertAll stored []))])).foldl
    (fun (read : KeyedMap String Value) f ↦ read.insert f.1 (firestoreValueToJson f.2)) ∅).lookup
      name = _
  rw [hfields, lookup_foldl_insert stored hnodup firestoreValueToJson, AList.lookup_empty,
    Option.or_none, hlookup, Option.map_map, State.values, Option.map_map]
  exact congrArg (Option.map · (state.lookup name)) (funext fun d ↦ decode_encode d.distinct)

theorem parseDocument_sessionDocument (state : State) {t : DateTime}
    (ht : parseRfc3339 (toRfc3339 t) = some t) (now : DateTime) : ∃ read,
      parseDocument parseRfc3339 now (sessionDocument toRfc3339 state t) = some (read, t) ∧
      ∀ name, read.lookup name = (state.values name).map (mapNumbers keptNumber) := by
  let stamp : Value := .object [("timestampValue", .string (toRfc3339 t))]
  refine ⟨_, ?_, parseState_sessionDocument state [("created_at", stamp), ("updated_at", stamp)]⟩
  change some (_, ((some (toRfc3339 t)).bind parseRfc3339).getD now) = _
  rw [Option.bind_some, ht, Option.getD_some]

/-- A session that is made and then read again has its time and its state, a field of it exactly
if its numbers fit. -/
theorem read_eq_created_iff (state : State) {t : DateTime}
    (ht : parseRfc3339 (toRfc3339 t) = some t) (now : DateTime) : ∃ read,
      parseDocument parseRfc3339 now (sessionDocument toRfc3339 state t) = some (read, t) ∧
      ∀ name, read.lookup name = state.values name ↔
        ∀ d, state.lookup name = some d → ∀ n ∈ numbers d.value, Fits n := by
  obtain ⟨read, hread, hlookup⟩ := parseDocument_sessionDocument state ht now
  refine ⟨read, hread, fun name ↦ ?_⟩
  rw [hlookup, State.values]
  cases state.lookup name with
  | none => exact iff_of_true rfl nofun
  | some d =>
    simp only [Option.map_some, Option.some.injEq, forall_eq', mapNumbers_eq_self_iff]
    exact forall₂_congr fun n _ ↦ keptNumber_eq_self_iff n

def epochText : String := "1970-01-01T00:00:00+00:00"

def lookalike : Document where
  value := .object [("stringValue", .array [.number (.int (2 ^ 63) (by decide)), .null])]
  distinct := by simp [Value.Distinct, Value.Each, Value.EachField, Value.EachItem, Fields.keys]

def lookalikeState : State := AList.singleton "topic" lookalike

theorem read_eq_created_iff_epoch : ∃ read,
    parseDocument (fun text ↦ if text = epochText then some 0 else none) 1
        (sessionDocument (fun _ ↦ epochText) lookalikeState 0) = some (read, 0) ∧
    ∀ name, read.lookup name = lookalikeState.values name ↔
      ∀ d, lookalikeState.lookup name = some d → ∀ n ∈ numbers d.value, Fits n :=
  read_eq_created_iff lookalikeState (if_pos rfl) 1

end AdkGateway.SessionBridge.Firestore
