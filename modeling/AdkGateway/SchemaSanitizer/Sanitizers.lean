import AdkGateway.Foundation.Value

namespace AdkGateway.SchemaSanitizer

open Foundation

structure Provider where
  convertsBounds : Bool
  marksNullable : Bool
  convertsTuples : Bool

def gemini : Provider := ⟨true, true, false⟩

def openAI : Provider := ⟨false, false, true⟩

structure TypeInfo where
  resolvedType : Option String
  addNullable : Bool
  isIntegerType : Bool

def nonNullTypes (items : List Value) : List String :=
  (items.filterMap Value.asStr).filter (· ≠ "null")

def hasNull (items : List Value) : Bool := items.any fun item ↦ item.asStr = some "null"

def typeInfo (p : Provider) (fields : Fields) : TypeInfo :=
  let types := (fields.lookup "type").bind Value.asArray
  let resolvedType := types.bind fun items ↦ (nonNullTypes items).head?
  { resolvedType
    addNullable := p.marksNullable && types.any fun items ↦ hasNull items && resolvedType.isSome
    isIntegerType := p.convertsBounds &&
      (resolvedType <|> (fields.lookup "type").bind Value.asStr) = some "integer" }

section Bounds

/-- What is left of a sum or a difference in a machine word, as in a release build. -/
def wrapI64 (n : ℤ) : ℤ := n.bmod (2 ^ 64)

theorem wrapI64_range (n : ℤ) : -2 ^ 63 ≤ wrapI64 n ∧ wrapI64 n < 2 ^ 64 := by
  have hlower := Int.le_bmod (x := n) (m := 2 ^ 64) (by decide)
  have hupper := Int.bmod_lt (x := n) (m := 2 ^ 64) (by decide)
  rw [wrapI64]
  omega

def wrapU64 (n : ℤ) : ℤ := n % 2 ^ 64

theorem wrapU64_range (n : ℤ) : -2 ^ 63 ≤ wrapU64 n ∧ wrapU64 n < 2 ^ 64 := by
  rw [wrapU64]
  omega

/-- `n - 1`, or zero. -/
def saturatingPred (n : ℕ) : ℤ := (n - 1 : ℕ)

def ofI64 (n : ℤ) : Number := .int (wrapI64 n) (wrapI64_range n)

def ofU64 (n : ℤ) : Number := .int (wrapU64 n) (wrapU64_range n)

def exclusiveMinimum (value : Value) : Option Number :=
  match value with
  | .number number =>
    match number.asI64, number.asU64 with
    | some n, _ => some (ofI64 (n + 1))
    | none, some n => some (ofU64 (n + 1))
    | none, none => none
  | _ => none

def exclusiveMaximum (value : Value) : Option Number :=
  match value with
  | .number number =>
    match number.asI64, number.asU64 with
    | some n, _ => some (ofI64 (n - 1))
    | none, some n => some (ofU64 (saturatingPred n.toNat))
    | none, none => none
  | _ => none

end Bounds

/-- A list of schemas that stand for positional parameters. -/
def isTuple (items : List Value) : Bool := !items.isEmpty && items.all Value.isObject

def argName (i : ℕ) : String := "arg" ++ toString i

def argNames (n : ℕ) : List String := (List.range n).map argName

def arguments (items : List Value) : Fields :=
  Fields.insertAll ((argNames items.length).zip items) []

def positional (items : List Value) : Value :=
  .object [("type", .string "object"), ("properties", .object (arguments items)),
    ("required", .array ((argNames items.length).map .string))]

/-- The schema that is left of `items`: of an array the first one, if it has one. -/
def single : Value → Option Value
  | .array items => items.head?
  | value => some value

def convertTuple (p : Provider) (value sanitized : Value) : Value :=
  match value.asArray, sanitized.asArray with
  | some items, some sanitizedItems =>
    if p.convertsTuples && isTuple items then positional sanitizedItems else sanitized
  | _, _ => sanitized

/-- What a field puts into the new object; `sanitized` is its value, sanitized element by element if
it is an array. -/
def sanitizeField (p : Provider) (info : TypeInfo) (key : String) (value sanitized : Value)
    (newMap : Fields) : Fields :=
  if key = "propertyNames" then newMap
  else
    match if key = "type" then info.resolvedType else none with
    | some type => newMap.insert "type" (.string type)
    | none =>
      if key = "exclusiveMinimum" ∧ info.isIntegerType then
        match exclusiveMinimum value with
        | some n => newMap.insert "minimum" (.number n)
        | none => newMap
      else if key = "exclusiveMaximum" ∧ info.isIntegerType then
        match exclusiveMaximum value with
        | some n => newMap.insert "maximum" (.number n)
        | none => newMap
      else if key = "items" then
        match single sanitized with
        | some schema => newMap.insert "items" schema
        | none => newMap
      else newMap.insert key (convertTuple p value sanitized)

mutual

def sanitizeRecursive (p : Provider) : Value → Value
  | .object fields =>
    let info := typeInfo p fields
    let newMap := sanitizeFields p info fields []
    .object (if info.addNullable then newMap.insert "nullable" (.bool true) else newMap)
  | .array items => .array (sanitizeItems p items)
  | .null => .null
  | .bool b => .bool b
  | .number n => .number n
  | .string s => .string s

def sanitizeItems (p : Provider) : List Value → List Value
  | [] => []
  | item :: items => sanitizeRecursive p item :: sanitizeItems p items

def sanitizeFields (p : Provider) (info : TypeInfo) : List (String × Value) → Fields → Fields
  | [], newMap => newMap
  | (key, value) :: fields, newMap =>
    sanitizeFields p info fields
      (sanitizeField p info key value (sanitizeRecursive p value) newMap)

end

def GeminiSanitizer.sanitize (schema : Value) : Value := sanitizeRecursive gemini schema

namespace OpenAISanitizer

def ensureObjectType : Value → Value
  | .array items => positional (sanitizeItems openAI items)
  | .object fields =>
    let topType := (fields.lookup "type").bind Value.asStr
    if topType = some "object" then .object fields
    else if (fields.lookup "properties").isSome || topType.isNone && !fields.isEmpty then
      .object (Fields.insert "type" (.string "object") fields)
    else .object fields
  | schema => schema

def sanitize : Value → Value
  | .array [] => .object [("type", .string "object"), ("properties", .object [])]
  | .array items => positional (sanitizeItems openAI items)
  | schema => ensureObjectType (sanitizeRecursive openAI schema)

end OpenAISanitizer

end AdkGateway.SchemaSanitizer
