import Mathlib.Data.List.Basic
import Mathlib.Data.Rat.Floor

namespace AdkGateway.Foundation

/-- A number in memory: an integer that fits a signed or an unsigned machine word, or a finite
floating-point number. -/
inductive Number
  | int (n : ℤ) (h : -2 ^ 63 ≤ n ∧ n < 2 ^ 64)
  | float (x : ℚ)
  deriving DecidableEq

namespace Number

def value : Number → ℚ
  | int n _ => n
  | float x => x

def asI64 : Number → Option ℤ
  | int n _ => if n < 2 ^ 63 then some n else none
  | float _ => none

def asU64 : Number → Option ℤ
  | int n _ => if 0 ≤ n then some n else none
  | float _ => none

end Number

/-- A document in memory: an object yields its entries in the order in which they were put in. -/
inductive Value
  | null
  | bool (b : Bool)
  | number (n : Number)
  | string (s : String)
  | array (items : List Value)
  | object (fields : List (String × Value))

abbrev Fields := List (String × Value)

namespace Value

@[elab_as_elim]
theorem induct {P : Value → Prop} (null : P .null) (bool : ∀ b, P (.bool b))
    (number : ∀ n, P (.number n)) (string : ∀ s, P (.string s))
    (array : ∀ items, (∀ item ∈ items, P item) → P (.array items))
    (object : ∀ fields : Fields, (∀ field ∈ fields, P field.2) → P (.object fields)) (v : Value) :
    P v := by
  refine @Value.rec P (fun items ↦ ∀ item ∈ items, P item)
    (fun fields ↦ ∀ field ∈ fields, P field.2) (fun field ↦ P field.2)
    null bool number string array object nofun ?_ nofun ?_ (fun _ _ h ↦ h) v
  · exact fun item items hitem hitems ↦ List.forall_mem_cons.mpr ⟨hitem, hitems⟩
  · exact fun field fields hfield hfields ↦ List.forall_mem_cons.mpr ⟨hfield, hfields⟩

/-- The parts of an object's fields count as parts of the object, those of a list among them too. -/
@[elab_as_elim]
theorem induct_deep {P : Value → Prop} (null : P .null) (bool : ∀ b, P (.bool b))
    (number : ∀ n, P (.number n)) (string : ∀ s, P (.string s))
    (array : ∀ items, (∀ item ∈ items, P item) → P (.array items))
    (object : ∀ fields : Fields, (∀ field ∈ fields, P field.2 ∧
      ∀ items, field.2 = .array items → ∀ item ∈ items, P item) → P (.object fields)) (v : Value) :
    P v := by
  refine And.left (b := ∀ items, v = .array items → ∀ item ∈ items, P item) ?_
  induction v using induct with
  | null => exact ⟨null, nofun⟩
  | bool b => exact ⟨bool b, nofun⟩
  | number n => exact ⟨number n, nofun⟩
  | string s => exact ⟨string s, nofun⟩
  | array items ih =>
    refine ⟨array items fun item hitem ↦ (ih item hitem).1, fun items' heq item hitem ↦ ?_⟩
    cases heq
    exact (ih item hitem).1
  | object fields ih => exact ⟨object fields ih, nofun⟩

def get (key : String) : Value → Option Value
  | .object fields => fields.lookup key
  | _ => none

def index (v : Value) (key : String) : Value := (v.get key).getD .null

def asStr : Value → Option String
  | .string s => some s
  | _ => none

def asNumber : Value → Option Number
  | .number n => some n
  | _ => none

def asArray : Value → Option (List Value)
  | .array items => some items
  | _ => none

def isArray : Value → Bool
  | .array _ => true
  | _ => false

def isObject : Value → Bool
  | .object _ => true
  | _ => false

theorem asStr_eq_some {v : Value} {s : String} (h : v.asStr = some s) : v = .string s := by
  cases v with
  | string s' => exact congrArg string (Option.some_inj.mp h)
  | _ => cases h

end Value

namespace Fields

def insert (key : String) (value : Value) : Fields → Fields
  | [] => [(key, value)]
  | field :: fields =>
    if field.1 = key then (key, value) :: fields else field :: insert key value fields

def insertAll (entries : List (String × Value)) (fields : Fields) : Fields :=
  entries.foldl (fun fields entry ↦ fields.insert entry.1 entry.2) fields

def keys (fields : Fields) : List String := fields.map Prod.fst

variable {fields : Fields} {entries : List (String × Value)} {key key' : String} {value value' : Value}

theorem lookup_cons : List.lookup key ((key', value) :: fields) =
    if key = key' then some value else fields.lookup key := by
  rw [List.lookup_cons]
  by_cases h : key = key'
  · simp [h]
  · have hbeq : (key == key') = false := by simpa using h
    simp [hbeq, h]

theorem lookup_insert : (fields.insert key value).lookup key' =
    if key' = key then some value else fields.lookup key' := by
  induction fields with
  | nil => exact lookup_cons
  | cons field fields ih =>
    obtain ⟨key₀, value₀⟩ := field
    rw [insert]
    split
    next h =>
      change key₀ = key at h
      subst h
      rw [lookup_cons, lookup_cons]
      by_cases hkey : key' = key₀ <;> simp [hkey]
    next h =>
      rw [lookup_cons, lookup_cons, ih]
      by_cases hkey : key' = key₀
      · subst hkey
        rw [if_pos rfl, if_pos rfl, if_neg h]
      · rw [if_neg hkey, if_neg hkey]

theorem keys_insert : (fields.insert key value).keys =
    if key ∈ fields.keys then fields.keys else fields.keys ++ [key] := by
  induction fields with
  | nil => rfl
  | cons field fields ih =>
    rw [insert]
    by_cases h : field.1 = key
    · simp [keys, h]
    · have ih' : (insert key value fields).map Prod.fst =
          if key ∈ fields.map Prod.fst then fields.map Prod.fst else fields.map Prod.fst ++ [key] := ih
      simp only [keys, if_neg h, List.map_cons, ih', List.mem_cons, Ne.symm h, false_or]
      split <;> rfl

theorem nodup_keys_insert (h : fields.keys.Nodup) : (fields.insert key value).keys.Nodup := by
  rw [keys_insert]
  split
  · exact h
  next hnot =>
    rw [List.nodup_append]
    refine ⟨h, List.nodup_cons.mpr ⟨List.not_mem_nil, List.nodup_nil⟩, ?_⟩
    intro a ha b hb hab
    rw [List.mem_singleton.mp hb] at hab
    exact hnot (hab ▸ ha)

theorem insert_of_notMem (h : key ∉ fields.keys) :
    fields.insert key value = fields ++ [(key, value)] := by
  induction fields with
  | nil => rfl
  | cons field fields ih =>
    obtain ⟨hne, hnot⟩ := List.ne_and_not_mem_of_not_mem_cons h
    rw [insert, if_neg (Ne.symm hne), ih hnot, List.cons_append]

theorem nodup_keys_insertAll (h : fields.keys.Nodup) : (insertAll entries fields).keys.Nodup := by
  induction entries generalizing fields with
  | nil => exact h
  | cons entry entries ih => exact ih (nodup_keys_insert h)

theorem lookup_insertAll : (insertAll entries fields).lookup key =
    (entries.reverse.lookup key).or (fields.lookup key) := by
  induction entries generalizing fields with
  | nil => rfl
  | cons entry entries ih =>
    obtain ⟨key', value⟩ := entry
    change (insertAll entries (fields.insert key' value)).lookup key = _
    rw [ih, lookup_insert, List.reverse_cons, List.lookup_append, Option.or_assoc]
    rw [lookup_cons]
    by_cases hkey : key = key' <;> simp [hkey]

theorem insertAll_of_nodup (h : (fields ++ entries).keys.Nodup) :
    insertAll entries fields = fields ++ entries := by
  induction entries generalizing fields with
  | nil => exact (List.append_nil fields).symm
  | cons entry entries ih =>
    have hnew : entry.1 ∉ fields.keys := by
      intro hmem
      rw [keys, List.map_append, List.map_cons] at h
      exact (List.nodup_append.mp h).2.2 _ hmem _ List.mem_cons_self rfl
    change insertAll entries (fields.insert entry.1 entry.2) = _
    rw [insert_of_notMem hnew, ih (by simpa [keys] using h), List.append_assoc, List.singleton_append]

theorem mem_iff_lookup (h : fields.keys.Nodup) :
    (key, value) ∈ fields ↔ fields.lookup key = some value := by
  induction fields with
  | nil => simp
  | cons field fields ih =>
    obtain ⟨key', value'⟩ := field
    obtain ⟨hnot, hrest⟩ := List.nodup_cons.mp h
    rw [lookup_cons]
    by_cases hkey : key = key'
    · subst hkey
      have hnone : (key, value) ∉ fields := by
        intro hmem
        exact hnot (List.mem_map.mpr ⟨_, hmem, rfl⟩)
      simp [hnone, eq_comm]
    · simp [hkey, ih hrest]

/-- The first key stands before the second one, or the second one is not there. -/
def before (fields : Fields) (key key' : String) : Bool := fields.keys.idxOf key < fields.keys.idxOf key'

/-- What a field gives for a key. -/
def given (f : String × Value → Option (String × Value)) (fields : Fields) (key source : String) :
    Option Value :=
  (fields.lookup source).bind fun value ↦
    (f (source, value)).bind fun e ↦ if e.1 = key then some e.2 else none

/-- Of the two fields that may give something for a key the later one counts. -/
theorem lookup_reverse_filterMap {f : String × Value → Option (String × Value)} {a b : String}
    (hab : a ≠ b) (hf : ∀ field e, f field = some e → e.1 = a → field.1 = a ∨ field.1 = b)
    (h : fields.keys.Nodup) : (fields.filterMap f).reverse.lookup a =
      if fields.before a b then (given f fields a b).or (given f fields a a)
      else (given f fields a a).or (given f fields a b) := by
  induction fields with
  | nil => rfl
  | cons field fields ih =>
    obtain ⟨key, value⟩ := field
    obtain ⟨hnot, hrest⟩ := List.nodup_cons.mp h
    have hown : (((key, value) :: fields).filterMap f).reverse.lookup a =
        ((fields.filterMap f).reverse.lookup a).or
          ((f (key, value)).bind fun e ↦ if e.1 = a then some e.2 else none) := by
      cases he : f (key, value) with
      | none => rw [List.filterMap_cons_none he, Option.bind_none, Option.or_none]
      | some e =>
        obtain ⟨key', value'⟩ := e
        rw [List.filterMap_cons_some he, List.reverse_cons, List.lookup_append, lookup_cons,
          Option.bind_some]
        by_cases hkey : a = key' <;> simp [hkey, eq_comm]
    have habsent (source : String) (hsource : source = key) : given f fields a source = none := by
      have hnone : fields.lookup source = none := by
        rw [List.lookup_eq_none_iff]
        intro field hfield
        have hne : source ≠ field.1 := fun heq ↦
          hnot (List.mem_map.mpr ⟨field, hfield, (heq.symm.trans hsource)⟩)
        simpa using hne
      rw [given, hnone, Option.bind_none]
    have hgiven (source : String) : given f ((key, value) :: fields) a source =
        if source = key then (f (key, value)).bind fun e ↦ if e.1 = a then some e.2 else none
        else given f fields a source := by
      rw [given, lookup_cons]
      split
      next hsource =>
        rw [hsource, Option.bind_some]
      next => rfl
    rw [hown, ih hrest, hgiven, hgiven]
    by_cases hkeya : key = a
    · subst hkeya
      have hbefore : before ((key, value) :: fields) key b = true := by
        simp [before, keys, List.idxOf_cons_ne _ hab]
      rw [hbefore, if_pos rfl, if_pos rfl, if_neg hab.symm, habsent key rfl]
      simp
    · by_cases hkeyb : key = b
      · subst hkeyb
        have hbefore : before ((key, value) :: fields) a key = false := by
          simp [before, keys]
        rw [hbefore, if_neg Bool.false_ne_true, if_neg hab, if_pos rfl, habsent key rfl]
        simp
      · have hbefore : before ((key, value) :: fields) a b = before fields a b := by
          refine decide_eq_decide.mpr ?_
          rw [keys, List.map_cons, List.idxOf_cons_ne _ hkeya, List.idxOf_cons_ne _ hkeyb]
          exact Nat.succ_lt_succ_iff
        have hnone : ((f (key, value)).bind fun e ↦ if e.1 = a then some e.2 else none) = none := by
          rw [Option.bind_eq_none_iff]
          intro e he
          refine if_neg fun heq ↦ ?_
          exact (hf _ e he heq).elim hkeya hkeyb
        rw [hbefore, hnone, Option.or_none, if_neg (Ne.symm hkeya), if_neg (Ne.symm hkeyb)]

end Fields

structure Positions (κ : Type) where
  child : κ → String → κ
  element : κ → κ

namespace Value

variable {κ : Type} (positions : Positions κ) (P : κ → Fields → Prop)

mutual

/-- What holds of all objects in a document, each in its position. -/
def Each : κ → Value → Prop
  | k, .array items => EachItem (positions.element k) items
  | k, .object fields => P k fields ∧ EachField k fields
  | _, _ => True

def EachItem : κ → List Value → Prop
  | _, [] => True
  | k, item :: items => Each k item ∧ EachItem k items

def EachField : κ → List (String × Value) → Prop
  | _, [] => True
  | k, (key, value) :: fields => Each (positions.child k key) value ∧ EachField k fields

end

variable {positions P} {k : κ}

theorem each_array {items : List Value} : Each positions P k (.array items) ↔
    ∀ item ∈ items, Each positions P (positions.element k) item := by
  rw [Each]
  induction items with
  | nil => simp [EachItem]
  | cons item items ih => rw [EachItem, ih, List.forall_mem_cons]

theorem each_object {fields : Fields} : Each positions P k (.object fields) ↔
    P k fields ∧ ∀ field ∈ fields, Each positions P (positions.child k field.1) field.2 := by
  have hparts : EachField positions P k fields ↔
      ∀ field ∈ fields, Each positions P (positions.child k field.1) field.2 := by
    induction fields with
    | nil => simp [EachField]
    | cons field fields ih => rw [EachField, ih, List.forall_mem_cons]
  rw [Each, hparts]

def anywhere : Positions Unit := ⟨fun _ _ ↦ (), fun _ ↦ ()⟩

/-- No object has a key twice. -/
def Distinct : Value → Prop := Each anywhere (fun _ fields ↦ fields.keys.Nodup) ()

theorem distinct_array {items : List Value} : Distinct (.array items) ↔ ∀ item ∈ items, Distinct item :=
  each_array

theorem distinct_object {fields : Fields} : Distinct (.object fields) ↔
    fields.keys.Nodup ∧ ∀ field ∈ fields, Distinct field.2 := each_object

theorem each_congr {P' : κ → Fields → Prop} {v : Value} (hv : v.Distinct)
    (h : ∀ k fields, Distinct (.object fields) → (P k fields ↔ P' k fields)) :
    Each positions P k v ↔ Each positions P' k v := by
  induction v using Value.induct generalizing k with
  | array items ih =>
    rw [each_array, each_array]
    exact forall₂_congr fun item hitem ↦ ih item hitem (distinct_array.mp hv item hitem)
  | object fields ih =>
    obtain ⟨-, hvalues⟩ := distinct_object.mp hv
    rw [each_object, each_object, h k fields hv]
    exact and_congr_right fun _ ↦ forall₂_congr fun field hfield ↦
      ih field hfield (hvalues field hfield)
  | _ => exact iff_of_true trivial trivial

theorem each_congr_positions {κ' : Type} {positions' : Positions κ'} {k' : κ'} {Q : Fields → Prop}
    {v : Value} : Each positions (fun _ ↦ Q) k v ↔ Each positions' (fun _ ↦ Q) k' v := by
  induction v using Value.induct generalizing k k' with
  | array items ih =>
    rw [each_array, each_array]
    exact forall₂_congr fun item hitem ↦ ih item hitem
  | object fields ih =>
    rw [each_object, each_object]
    exact and_congr_right fun _ ↦ forall₂_congr fun field hfield ↦ ih field hfield
  | _ => exact iff_of_true trivial trivial

end Value

structure Document where
  value : Value
  distinct : value.Distinct

end AdkGateway.Foundation
