import Mathlib.Data.List.Basic

namespace AdkGateway.Foundation

/-- A number is kept as it is written; an object lists its entries, in the order
in which the map yields them. -/
inductive Json
  | null
  | bool (b : Bool)
  | number (literal : String)
  | string (s : String)
  | array (items : List Json)
  | object (fields : List (String × Json))

namespace Json

/-- What holds of the scalars, and of a document whenever it holds of its parts. -/
@[elab_as_elim]
theorem induct {P : Json → Prop} (null : P .null) (bool : ∀ b, P (.bool b))
    (number : ∀ literal, P (.number literal)) (string : ∀ s, P (.string s))
    (array : ∀ items, (∀ item ∈ items, P item) → P (.array items))
    (object : ∀ fields, (∀ field ∈ fields, P field.2) → P (.object fields)) (j : Json) : P j := by
  refine @Json.rec P (fun items ↦ ∀ item ∈ items, P item)
    (fun fields ↦ ∀ field ∈ fields, P field.2) (fun field ↦ P field.2)
    null bool number string array object nofun ?_ nofun ?_ (fun _ _ h ↦ h) j
  · exact fun item items hitem hitems ↦ List.forall_mem_cons.mpr ⟨hitem, hitems⟩
  · exact fun field fields hfield hfields ↦ List.forall_mem_cons.mpr ⟨hfield, hfields⟩

mutual

def same : Json → Json → Bool
  | .null, .null => true
  | .bool b, .bool b' => b == b'
  | .number literal, .number literal' => literal == literal'
  | .string s, .string s' => s == s'
  | .array items, .array items' => sameItems items items'
  | .object fields, .object fields' => sameFields fields fields'
  | _, _ => false

def sameItems : List Json → List Json → Bool
  | [], [] => true
  | item :: items, item' :: items' => same item item' && sameItems items items'
  | _, _ => false

def sameFields : List (String × Json) → List (String × Json) → Bool
  | [], [] => true
  | (key, value) :: fields, (key', value') :: fields' =>
    key == key' && same value value' && sameFields fields fields'
  | _, _ => false

end

theorem sameItems_iff {items : List Json} (h : ∀ item ∈ items, ∀ j, same item j = true ↔ item = j)
    (items' : List Json) : sameItems items items' = true ↔ items = items' := by
  induction items generalizing items' with
  | nil => cases items' <;> simp [sameItems]
  | cons item items ih =>
    obtain ⟨hitem, hitems⟩ := List.forall_mem_cons.mp h
    cases items' with
    | nil => simp [sameItems]
    | cons item' items' => simp [sameItems, hitem, ih hitems]

theorem sameFields_iff {fields : List (String × Json)}
    (h : ∀ field ∈ fields, ∀ j, same field.2 j = true ↔ field.2 = j)
    (fields' : List (String × Json)) : sameFields fields fields' = true ↔ fields = fields' := by
  induction fields generalizing fields' with
  | nil => cases fields' <;> simp [sameFields]
  | cons field fields ih =>
    obtain ⟨hfield, hfields⟩ := List.forall_mem_cons.mp h
    cases fields' with
    | nil => simp [sameFields]
    | cons field' fields' => simp [sameFields, hfield, ih hfields, Prod.ext_iff]

theorem same_iff (j j' : Json) : same j j' = true ↔ j = j' := by
  induction j using induct generalizing j' with
  | array items ih => cases j' <;> simp [same, sameItems_iff ih]
  | object fields ih => cases j' <;> simp [same, sameFields_iff ih]
  | _ => cases j' <;> simp [same]

def get (key : String) : Json → Option Json
  | .object fields => fields.lookup key
  | _ => none

def asStr : Json → Option String
  | .string s => some s
  | _ => none

def asArray : Json → Option (List Json)
  | .array items => some items
  | _ => none

def asStrings : Json → Option (List String)
  | .array items => items.mapM asStr
  | _ => none

@[simp] theorem filterMap_asStr_map_string (names : List String) :
    (names.map string).filterMap asStr = names := by
  induction names with
  | nil => rfl
  | cons name names ih => simpa [asStr] using ih

@[simp] theorem asStrings_array (names : List String) :
    asStrings (.array (names.map string)) = some names := by
  induction names with
  | nil => rfl
  | cons name names ih => simp_all [asStrings, asStr]

/-- With distinct keys the order of the entries does not matter. -/
theorem lookup_eq_some_iff_mem {fields : List (String × Json)}
    (h : (fields.map Prod.fst).Nodup) {key : String} {value : Json} :
    fields.lookup key = some value ↔ (key, value) ∈ fields := by
  induction fields with
  | nil => simp
  | cons field fields ih =>
    obtain ⟨key', value'⟩ := field
    rw [List.map_cons, List.nodup_cons] at h
    by_cases hkey : key = key'
    · subst hkey
      have hnot : (key, value) ∉ fields := fun hmem ↦
        h.1 (List.mem_map.mpr ⟨_, hmem, rfl⟩)
      simp [hnot, eq_comm]
    · have hbeq : (key == key') = false := by simpa using hkey
      simp [List.lookup_cons, hbeq, hkey, ih h.2]

instance : DecidableEq Json := fun j j' ↦ decidable_of_iff _ (same_iff j j')

end Json

end AdkGateway.Foundation
