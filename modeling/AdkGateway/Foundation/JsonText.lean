import AdkGateway.Foundation.Text
import AdkGateway.Foundation.Json
import Mathlib.Algebra.Ring.Int.Defs

namespace AdkGateway.Foundation.JsonText

section Grammar

def isBlank (c : Char) : Bool := c == ' ' || c == '\t' || c == '\n' || c == '\r'

def Blank (cs : List Char) : Prop := ∀ c ∈ cs, isBlank c = true

def Digits (cs : List Char) : Prop := cs ≠ [] ∧ ∀ c ∈ cs, c.isDigit = true

def IsNumber (cs : List Char) : Prop :=
  ∃ sign whole fraction exponent, cs = sign ++ whole ++ fraction ++ exponent ∧
    (sign = [] ∨ sign = ['-']) ∧
    (Digits whole ∧ (whole.head? = some '0' → whole = ['0'])) ∧
    (fraction = [] ∨ ∃ ds, fraction = '.' :: ds ∧ Digits ds) ∧
    (exponent = [] ∨ ∃ e plus ds, exponent = e :: (plus ++ ds) ∧ (e = 'e' ∨ e = 'E') ∧
      (plus = [] ∨ plus = ['+'] ∨ plus = ['-']) ∧ Digits ds)

def hexDigit (n : ℕ) : Char := Char.ofNat (if n < 10 then 48 + n else 87 + n)

def hexDigitValue (c : Char) : Option ℕ :=
  if '0' ≤ c ∧ c ≤ '9' then some (c.toNat - 48)
  else if 'a' ≤ c ∧ c ≤ 'f' then some (c.toNat - 87)
  else if 'A' ≤ c ∧ c ≤ 'F' then some (c.toNat - 55)
  else none

def hexValue : List Char → Option ℕ
  | [a, b, c, d] => do
    let a ← hexDigitValue a
    let b ← hexDigitValue b
    let c ← hexDigitValue c
    let d ← hexDigitValue d
    return ((a * 16 + b) * 16 + c) * 16 + d
  | _ => none

def shortEscapes : List (Char × Char) :=
  [('"', '"'), ('\\', '\\'), ('/', '/'), ('b', '\x08'), ('f', '\x0c'), ('n', '\n'), ('r', '\r'),
    ('t', '\t')]

inductive CharText : Char → List Char → Prop
  | plain {c : Char} : 32 ≤ c.toNat → c ≠ '"' → c ≠ '\\' → CharText c [c]
  | short {c e : Char} : (e, c) ∈ shortEscapes → CharText c ['\\', e]
  | unicode {c : Char} {ds : List Char} : hexValue ds = some c.toNat →
      CharText c ('\\' :: 'u' :: ds)
  | pair {c : Char} {ds es : List Char} {high low : ℕ} :
      hexValue ds = some high → hexValue es = some low →
      0xD800 ≤ high → high < 0xDC00 → 0xDC00 ≤ low → low < 0xE000 →
      c.toNat = 0x10000 + (high - 0xD800) * 0x400 + (low - 0xDC00) →
      CharText c ('\\' :: 'u' :: (ds ++ '\\' :: 'u' :: es))

theorem CharText.length_pos {c : Char} {text : List Char} (h : CharText c text) :
    0 < text.length := by
  cases h with
  | plain => exact Nat.succ_pos _
  | short => exact Nat.succ_pos _
  | unicode => exact Nat.succ_pos _
  | pair => exact Nat.succ_pos _

inductive CharsText : List Char → List Char → Prop
  | nil : CharsText [] []
  | cons {c : Char} {cs text rest : List Char} : CharText c text → CharsText cs rest →
      CharsText (c :: cs) (text ++ rest)

def StringText (s : String) (text : List Char) : Prop :=
  ∃ body, CharsText s.toList body ∧ text = '"' :: (body ++ ['"'])

inductive Separated {α : Type} (R : α → List Char → Prop) : List α → List Char → Prop
  | nil {blank : List Char} : Blank blank → Separated R [] blank
  | single {a : α} {before text after : List Char} : Blank before → R a text → Blank after →
      Separated R [a] (before ++ text ++ after)
  | cons {a b : α} {as : List α} {before text after rest : List Char} :
      Blank before → R a text → Blank after → Separated R (b :: as) rest →
      Separated R (a :: b :: as) (before ++ text ++ after ++ ',' :: rest)

inductive FieldText (R : Json → List Char → Prop) : String × Json → List Char → Prop
  | mk {key : String} {value : Json} {name before after text : List Char} :
      StringText key name → Blank before → Blank after → R value text →
      FieldText R (key, value) (name ++ before ++ ':' :: (after ++ text))

inductive ValueText : Json → List Char → Prop
  | null : ValueText .null ['n', 'u', 'l', 'l']
  | true : ValueText (.bool true) ['t', 'r', 'u', 'e']
  | false : ValueText (.bool false) ['f', 'a', 'l', 's', 'e']
  | number {literal : String} : IsNumber literal.toList → ValueText (.number literal) literal.toList
  | string {s : String} {text : List Char} : StringText s text → ValueText (.string s) text
  | array {items : List Json} {body : List Char} : Separated ValueText items body →
      ValueText (.array items) ('[' :: (body ++ [']']))
  | object {fields : List (String × Json)} {body : List Char} :
      Separated (FieldText ValueText) fields body →
      ValueText (.object fields) ('{' :: (body ++ ['}']))

def DocumentText (j : Json) (text : List Char) : Prop :=
  ∃ before value after, Blank before ∧ ValueText j value ∧ Blank after ∧
    text = before ++ value ++ after

/-- The last character of an object's text is its brace, or a blank. -/
theorem DocumentText.getLast?_object {fields : List (String × Json)} {text : List Char}
    (h : DocumentText (.object fields) text) :
    ∃ c, text.getLast? = some c ∧ (c = '}' ∨ isBlank c = true) := by
  obtain ⟨before, value, after, -, hvalue, hafter, rfl⟩ := h
  cases hvalue with
  | @object fields body hfields =>
    rcases List.eq_nil_or_concat after with rfl | ⟨rest, c, rfl⟩
    · have hlast : before ++ '{' :: (body ++ ['}']) ++ [] = (before ++ '{' :: body) ++ ['}'] := by
        simp
      rw [hlast, List.getLast?_concat]
      exact ⟨'}', rfl, .inl rfl⟩
    · rw [List.concat_eq_append, ← List.append_assoc, List.getLast?_concat]
      exact ⟨c, rfl, .inr (hafter c (by simp))⟩

end Grammar

section Writer

def escapeChar (c : Char) : List Char :=
  if c = '"' then ['\\', '"']
  else if c = '\\' then ['\\', '\\']
  else if c = '\x08' then ['\\', 'b']
  else if c = '\x0c' then ['\\', 'f']
  else if c = '\n' then ['\\', 'n']
  else if c = '\r' then ['\\', 'r']
  else if c = '\t' then ['\\', 't']
  else if c.toNat < 32 then
    ['\\', 'u', '0', '0', hexDigit (c.toNat / 16), hexDigit (c.toNat % 16)]
  else [c]

def writeString (s : String) : List Char := '"' :: (s.toList.flatMap escapeChar ++ ['"'])

mutual

/-- The compact text of a value, as it is written by `to_string`. -/
def write : Json → List Char
  | .null => ['n', 'u', 'l', 'l']
  | .bool true => ['t', 'r', 'u', 'e']
  | .bool false => ['f', 'a', 'l', 's', 'e']
  | .number literal => literal.toList
  | .string s => writeString s
  | .array items => '[' :: (writeItems items ++ [']'])
  | .object fields => '{' :: (writeFields fields ++ ['}'])

def writeItems : List Json → List Char
  | [] => []
  | [item] => write item
  | item :: item' :: items => write item ++ ',' :: writeItems (item' :: items)

def writeFields : List (String × Json) → List Char
  | [] => []
  | [(key, value)] => writeString key ++ ':' :: write value
  | (key, value) :: field :: fields =>
    writeString key ++ ':' :: (write value ++ ',' :: writeFields (field :: fields))

end

theorem charText_escapeChar (c : Char) : CharText c (escapeChar c) := by
  rw [escapeChar]
  by_cases hquote : c = '"'
  · rw [if_pos hquote, hquote]
    exact .short (by decide)
  rw [if_neg hquote]
  by_cases hslash : c = '\\'
  · rw [if_pos hslash, hslash]
    exact .short (by decide)
  rw [if_neg hslash]
  split
  case isTrue h =>
    rw [h]
    exact .short (by decide)
  split
  case isTrue h =>
    rw [h]
    exact .short (by decide)
  split
  case isTrue h =>
    rw [h]
    exact .short (by decide)
  split
  case isTrue h =>
    rw [h]
    exact .short (by decide)
  split
  case isTrue h =>
    rw [h]
    exact .short (by decide)
  split
  case isTrue hcontrol =>
    have hvalue : ∀ n < 32, hexValue ['0', '0', hexDigit (n / 16), hexDigit (n % 16)] = some n := by
      decide
    exact .unicode (hvalue c.toNat hcontrol)
  case isFalse hplain => exact .plain (by omega) hquote hslash

theorem charsText_flatMap (cs : List Char) : CharsText cs (cs.flatMap escapeChar) := by
  induction cs with
  | nil => exact .nil
  | cons c cs ih => exact .cons (charText_escapeChar c) ih

theorem stringText_writeString (s : String) : StringText s (writeString s) :=
  ⟨_, charsText_flatMap s.toList, rfl⟩

theorem blank_nil : Blank [] := by
  intro c hc
  cases hc

theorem separated_writeItems {items : List Json}
    (h : ∀ item ∈ items, ValueText item (write item)) :
    Separated ValueText items (writeItems items) := by
  induction items with
  | nil => exact .nil blank_nil
  | cons item items ih =>
    obtain ⟨hitem, hitems⟩ := List.forall_mem_cons.mp h
    cases items with
    | nil =>
      have hsingle := Separated.single blank_nil hitem blank_nil
      rwa [List.nil_append, List.append_nil] at hsingle
    | cons item' items =>
      have hcons := Separated.cons blank_nil hitem blank_nil (ih hitems)
      rwa [List.nil_append, List.append_nil] at hcons

theorem valueText_array {items : List Json} (h : ∀ item ∈ items, ValueText item (write item)) :
    ValueText (.array items) (write (.array items)) := by
  rw [write]
  exact .array (separated_writeItems h)

theorem fieldText_write {key : String} {value : Json} (h : ValueText value (write value)) :
    FieldText ValueText (key, value) (writeString key ++ ':' :: write value) := by
  have hfield := FieldText.mk (stringText_writeString key) blank_nil blank_nil h
  rwa [List.append_nil, List.nil_append] at hfield

theorem separated_writeFields {fields : List (String × Json)}
    (h : ∀ field ∈ fields, ValueText field.2 (write field.2)) :
    Separated (FieldText ValueText) fields (writeFields fields) := by
  induction fields with
  | nil => exact .nil blank_nil
  | cons field fields ih =>
    obtain ⟨key, value⟩ := field
    obtain ⟨hvalue, hfields⟩ := List.forall_mem_cons.mp h
    cases fields with
    | nil =>
      have hsingle := Separated.single blank_nil (@fieldText_write key _ hvalue) blank_nil
      rwa [List.nil_append, List.append_nil] at hsingle
    | cons field fields =>
      have hcons := Separated.cons blank_nil (@fieldText_write key _ hvalue) blank_nil (ih hfields)
      rwa [List.nil_append, List.append_nil, List.append_assoc, List.cons_append] at hcons

theorem valueText_object {fields : List (String × Json)}
    (h : ∀ field ∈ fields, ValueText field.2 (write field.2)) :
    ValueText (.object fields) (write (.object fields)) := by
  rw [write]
  exact .object (separated_writeFields h)

theorem valueText_string (s : String) : ValueText (.string s) (write (.string s)) := by
  rw [write]
  exact .string (stringText_writeString s)

theorem documentText_write {j : Json} (h : ValueText j (write j)) : DocumentText j (write j) :=
  ⟨[], write j, [], blank_nil, h, blank_nil, by simp⟩

theorem length_le_writeString (s : String) : s.toList.length ≤ (writeString s).length := by
  have hchars : ∀ cs : List Char, cs.length ≤ (cs.flatMap escapeChar).length := by
    intro cs
    induction cs with
    | nil => exact le_rfl
    | cons c cs ih =>
      have hc := (charText_escapeChar c).length_pos
      rw [List.flatMap_cons, List.length_append, List.length_cons]
      omega
  have hbody := hchars s.toList
  rw [writeString, List.length_cons, List.length_append]
  omega

theorem length_write_item {items : List Json} {item : Json} (h : item ∈ items) :
    (write item).length ≤ (write (.array items)).length := by
  have hitems : (write item).length ≤ (writeItems items).length := by
    induction items with
    | nil => cases h
    | cons first items ih =>
      cases items with
      | nil =>
        rw [List.mem_singleton.mp h, writeItems]
      | cons second items =>
        rw [writeItems, List.length_append, List.length_cons]
        rcases List.mem_cons.mp h with rfl | h
        · omega
        · have hle := ih h
          omega
  rw [write, List.length_cons, List.length_append]
  omega

theorem length_write_field {fields : List (String × Json)} {field : String × Json}
    (h : field ∈ fields) : (write field.2).length ≤ (write (.object fields)).length := by
  have hfields : (write field.2).length ≤ (writeFields fields).length := by
    induction fields with
    | nil => cases h
    | cons first fields ih =>
      cases fields with
      | nil =>
        rw [List.mem_singleton.mp h, writeFields, List.length_append, List.length_cons]
        omega
      | cons second fields =>
        rw [writeFields, List.length_append, List.length_cons, List.length_append,
          List.length_cons]
        rcases List.mem_cons.mp h with rfl | h
        · omega
        · have hle := ih h
          omega
  rw [write, List.length_cons, List.length_append]
  omega

end Writer

section Weight

def weight (cs : List Char) : ℤ := 4 * cs.length - 7 * cs.count '"'

@[simp] theorem weight_nil : weight [] = 0 := rfl

theorem weight_append (as bs : List Char) : weight (as ++ bs) = weight as + weight bs := by
  simp only [weight, List.length_append, List.count_append]
  omega

theorem weight_cons {c : Char} (hc : c ≠ '"') (cs : List Char) :
    weight (c :: cs) = 4 + weight cs := by
  rw [weight, weight, List.count_cons_of_ne hc, List.length_cons]
  omega

theorem weight_quote (cs : List Char) : weight ('"' :: cs) = weight cs - 3 := by
  rw [weight, weight, List.count_cons_self, List.length_cons]
  omega

theorem weight_of_notMem {cs : List Char} (h : '"' ∉ cs) : weight cs = 4 * cs.length := by
  rw [weight, List.count_eq_zero.mpr h]
  omega

/-- Each text of a list and the comma behind it, but there is none behind the last. -/
theorem weight_intercalate (texts : List (List Char)) (h : texts ≠ []) :
    weight (List.intercalate [','] texts) + 4 = (texts.map fun t ↦ weight t + 4).sum := by
  induction texts with
  | nil => exact absurd rfl h
  | cons text texts ih =>
    cases texts with
    | nil => simp
    | cons text' texts =>
      rw [List.intercalate_cons_cons, weight_append, weight_append, List.map_cons, List.sum_cons,
        ← ih (List.cons_ne_nil _ _), weight_cons (by decide), weight_nil]
      omega

theorem hexValue_length {ds : List Char} {n : ℕ} (h : hexValue ds = some n) : ds.length = 4 := by
  unfold hexValue at h
  split at h
  · rfl
  · cases h

theorem notMem_of_hexValue {a : Char} (ha : hexDigitValue a = none) {ds : List Char} {n : ℕ}
    (h : hexValue ds = some n) : a ∉ ds := by
  have hdigit {c : Char} {k : ℕ} (hc : hexDigitValue c = some k) : a ≠ c := by
    intro heq
    rw [← heq, ha] at hc
    cases hc
  unfold hexValue at h
  split at h
  · simp only [Option.bind_eq_bind, Option.bind_eq_some_iff] at h
    obtain ⟨_, ha, _, hb, _, hc, _, hd, -⟩ := h
    simp only [List.mem_cons, List.not_mem_nil, or_false, not_or]
    exact ⟨hdigit ha, hdigit hb, hdigit hc, hdigit hd⟩
  · cases h

theorem weight_of_hexValue {ds : List Char} {n : ℕ} (h : hexValue ds = some n) :
    weight ds = 16 := by
  rw [weight_of_notMem (notMem_of_hexValue (by decide) h), hexValue_length h]
  rfl

theorem escapeChar_plain {c : Char} (hcontrol : 32 ≤ c.toNat) (hquote : c ≠ '"')
    (hslash : c ≠ '\\') : escapeChar c = [c] := by
  have hne {d : Char} (hd : d.toNat < 32) : c ≠ d := by
    intro heq
    rw [heq] at hcontrol
    omega
  rw [escapeChar, if_neg hquote, if_neg hslash, if_neg (hne (by decide)), if_neg (hne (by decide)),
    if_neg (hne (by decide)), if_neg (hne (by decide)), if_neg (hne (by decide)),
    if_neg (by omega)]

theorem weight_escapeChar_le (c : Char) : weight (escapeChar c) ≤ 24 := by
  have hlength : (escapeChar c).length ≤ 6 := by
    unfold escapeChar
    split_ifs <;> simp
  rw [weight]
  omega

/-- No way to write a character weighs less than the one of the writer. -/
theorem CharText.weight_le {c : Char} {text : List Char} (h : CharText c text) :
    weight (escapeChar c) ≤ weight text := by
  cases h with
  | plain hcontrol hquote hslash => rw [escapeChar_plain hcontrol hquote hslash]
  | short hmem =>
    have hall : ∀ p ∈ shortEscapes, weight (escapeChar p.2) ≤ weight ['\\', p.1] := by
      simp only [shortEscapes, List.forall_mem_cons]
      decide
    have hle := hall _ hmem
    exact hle
  | unicode hvalue =>
    have hle := weight_escapeChar_le c
    rw [weight_cons (by decide), weight_cons (by decide), weight_of_hexValue hvalue]
    omega
  | pair hhigh hlow =>
    have hle := weight_escapeChar_le c
    rw [weight_cons (by decide), weight_cons (by decide), weight_append, weight_of_hexValue hhigh,
      weight_cons (by decide), weight_cons (by decide), weight_of_hexValue hlow]
    omega

theorem CharsText.weight_le {cs text : List Char} (h : CharsText cs text) :
    weight (cs.flatMap escapeChar) ≤ weight text := by
  induction h with
  | nil => exact le_rfl
  | cons hc _ ih =>
    have hle := hc.weight_le
    rw [List.flatMap_cons, weight_append, weight_append]
    omega

theorem StringText.weight_le {s : String} {text : List Char} (h : StringText s text) :
    weight (writeString s) ≤ weight text := by
  obtain ⟨body, hbody, rfl⟩ := h
  have hle := hbody.weight_le
  rw [writeString, weight_quote, weight_append, weight_quote (body ++ _), weight_append]
  omega

theorem weight_of_blank {cs : List Char} (h : Blank cs) : 0 ≤ weight cs := by
  rw [weight_of_notMem fun hmem ↦ absurd (h '"' hmem) (by decide)]
  omega

theorem writeItems_eq (items : List Json) :
    writeItems items = List.intercalate [','] (items.map write) := by
  induction items with
  | nil => rfl
  | cons item items ih =>
    cases items with
    | nil => rw [writeItems, List.map_singleton, List.intercalate_singleton]
    | cons item' items =>
      rw [writeItems, ih, List.map_cons, List.map_cons, List.map_cons, List.intercalate_cons_cons,
        List.append_assoc, List.singleton_append]

def writeField (field : String × Json) : List Char := writeString field.1 ++ ':' :: write field.2

theorem writeFields_eq (fields : List (String × Json)) :
    writeFields fields = List.intercalate [','] (fields.map writeField) := by
  induction fields with
  | nil => rfl
  | cons field fields ih =>
    obtain ⟨key, value⟩ := field
    cases fields with
    | nil => rw [writeFields, List.map_singleton, List.intercalate_singleton, writeField]
    | cons field fields =>
      rw [writeFields, ih, List.map_cons, List.map_cons, List.map_cons, List.intercalate_cons_cons,
        writeField.eq_1 (key, value), List.append_assoc, List.append_assoc, List.singleton_append,
        List.cons_append]

theorem Separated.weight_le {α : Type} {R : α → List Char → Prop} {items : List α}
    {body : List Char} (h : Separated R items body) (text : α → List Char)
    (hitems : ∀ item ∈ items, ∀ t, R item t → weight (text item) ≤ weight t) :
    weight (List.intercalate [','] (items.map text)) ≤ weight body := by
  induction h with
  | nil hblank => exact weight_of_blank hblank
  | single hbefore hitem hafter =>
    have hle := hitems _ List.mem_cons_self _ hitem
    have hpos := weight_of_blank hbefore
    have hpos' := weight_of_blank hafter
    rw [List.map_singleton, List.intercalate_singleton, weight_append, weight_append]
    omega
  | cons hbefore hitem hafter _ ih =>
    have hle := hitems _ List.mem_cons_self _ hitem
    have hpos := weight_of_blank hbefore
    have hpos' := weight_of_blank hafter
    have hrest := ih fun item hmem ↦ hitems item (List.mem_cons_of_mem _ hmem)
    rw [List.map_cons] at hrest
    rw [List.map_cons, List.map_cons, List.intercalate_cons_cons, weight_append, weight_append,
      weight_append, weight_append, weight_append, weight_cons (by decide),
      weight_cons (by decide), weight_nil]
    omega

theorem ValueText.weight_le {j : Json} {text : List Char} (h : ValueText j text) :
    weight (write j) ≤ weight text := by
  induction j using Json.induct generalizing text with
  | null =>
    cases h
    exact le_rfl
  | bool b =>
    cases h with
    | true => exact le_rfl
    | false => exact le_rfl
  | number literal =>
    cases h
    exact le_rfl
  | string s =>
    cases h with
    | string hs =>
      rw [write]
      exact hs.weight_le
  | array items ih =>
    cases h with
    | array hitems =>
      have hle := hitems.weight_le write fun item hmem t ht ↦ ih item hmem ht
      rw [write, writeItems_eq, weight_cons (by decide), weight_cons (by decide), weight_append,
        weight_append]
      omega
  | object fields ih =>
    cases h with
    | object hfields =>
      have hle := hfields.weight_le writeField fun field hmem t ht ↦ by
        cases ht with
        | mk hkey hbefore hafter hvalue =>
          have hname := hkey.weight_le
          have hpos := weight_of_blank hbefore
          have hpos' := weight_of_blank hafter
          have hrest := ih _ hmem hvalue
          dsimp only at hrest
          rw [writeField, weight_append, weight_append, weight_append, weight_cons (by decide),
            weight_cons (by decide), weight_append]
          dsimp only
          omega
      rw [write, writeFields_eq, weight_cons (by decide), weight_cons (by decide), weight_append,
        weight_append]
      omega

theorem DocumentText.weight_le {j : Json} {text : List Char} (h : DocumentText j text) :
    weight (write j) ≤ weight text := by
  obtain ⟨before, value, after, hbefore, hvalue, hafter, rfl⟩ := h
  have hle := hvalue.weight_le
  have hpos := weight_of_blank hbefore
  have hpos' := weight_of_blank hafter
  rw [weight_append, weight_append]
  omega

end Weight

section Lines

theorem CharText.newline_notMem {c : Char} {text : List Char} (h : CharText c text) :
    '\n' ∉ text := by
  have hhex {ds : List Char} {n : ℕ} (hds : hexValue ds = some n) : '\n' ∉ ds :=
    notMem_of_hexValue (by decide) hds
  cases h with
  | plain hcontrol =>
    intro hmem
    rw [← List.mem_singleton.mp hmem] at hcontrol
    exact absurd hcontrol (by decide)
  | short hshort =>
    have hall : ∀ p ∈ shortEscapes, '\n' ∉ ['\\', p.1] := by decide
    exact hall _ hshort
  | unicode hvalue =>
    have hds := hhex hvalue
    simp [hds]
  | pair hhigh hlow =>
    have hds := hhex hhigh
    have hes := hhex hlow
    simp [hds, hes]

theorem newline_notMem_writeString (s : String) : '\n' ∉ writeString s := by
  have hbody : '\n' ∉ s.toList.flatMap escapeChar := by
    intro hmem
    obtain ⟨c, -, hc⟩ := List.mem_flatMap.mp hmem
    exact (charText_escapeChar c).newline_notMem hc
  rw [writeString, List.mem_cons, List.mem_append]
  simp [hbody]

theorem Digits.newline_notMem {cs : List Char} (h : Digits cs) : '\n' ∉ cs :=
  fun hmem ↦ absurd (h.2 '\n' hmem) (by decide)

theorem IsNumber.newline_notMem {cs : List Char} (h : IsNumber cs) : '\n' ∉ cs := by
  obtain ⟨sign, whole, fraction, exponent, rfl, hsign, ⟨hwhole, -⟩, hfraction, hexponent⟩ := h
  simp only [List.mem_append, not_or]
  refine ⟨⟨⟨?_, hwhole.newline_notMem⟩, ?_⟩, ?_⟩
  · rcases hsign with rfl | rfl <;> decide
  · rcases hfraction with rfl | ⟨ds, rfl, hds⟩
    · decide
    · have hnot := hds.newline_notMem
      simp [hnot]
  · rcases hexponent with rfl | ⟨e, plus, ds, rfl, he, hplus, hds⟩
    · decide
    · have hnot := hds.newline_notMem
      rcases he with rfl | rfl <;> rcases hplus with rfl | rfl | rfl <;> simp [hnot]

theorem Separated.exists_of_mem {α : Type} {R : α → List Char → Prop} {items : List α}
    {body : List Char} (h : Separated R items body) : ∀ item ∈ items, ∃ text, R item text := by
  induction h with
  | nil => exact fun item hitem ↦ by cases hitem
  | single _ hitem =>
    intro item hmem
    rw [List.mem_singleton.mp hmem]
    exact ⟨_, hitem⟩
  | cons _ hitem _ _ ih => exact List.forall_mem_cons.mpr ⟨⟨_, hitem⟩, ih⟩

theorem newline_notMem_intercalate (texts : List (List Char)) (h : ∀ text ∈ texts, '\n' ∉ text) :
    '\n' ∉ List.intercalate [','] texts := by
  induction texts with
  | nil => exact List.not_mem_nil
  | cons text texts ih =>
    obtain ⟨htext, hrest⟩ := List.forall_mem_cons.mp h
    cases texts with
    | nil => rwa [List.intercalate_singleton]
    | cons text' texts =>
      have hmore := ih hrest
      rw [List.intercalate_cons_cons, List.mem_append, List.mem_append]
      simp [htext, hmore]

theorem ValueText.newline_notMem {j : Json} {text : List Char} (h : ValueText j text) :
    '\n' ∉ write j := by
  induction j using Json.induct generalizing text with
  | null => decide
  | bool b => cases b <;> decide
  | number literal =>
    cases h with
    | number hnumber =>
      rw [write]
      exact hnumber.newline_notMem
  | string s =>
    rw [write]
    exact newline_notMem_writeString s
  | array items ih =>
    cases h with
    | array hitems =>
      have hall : '\n' ∉ List.intercalate [','] (items.map write) := by
        refine newline_notMem_intercalate _ fun text htext ↦ ?_
        obtain ⟨item, hitem, rfl⟩ := List.mem_map.mp htext
        obtain ⟨t, ht⟩ := hitems.exists_of_mem item hitem
        exact ih item hitem ht
      rw [write, writeItems_eq]
      simp [hall]
  | object fields ih =>
    cases h with
    | object hfields =>
      have hall : '\n' ∉ List.intercalate [','] (fields.map writeField) := by
        refine newline_notMem_intercalate _ fun text htext ↦ ?_
        obtain ⟨field, hfield, rfl⟩ := List.mem_map.mp htext
        obtain ⟨t, ht⟩ := hfields.exists_of_mem field hfield
        cases ht with
        | mk _ _ _ hvalue =>
          have hname := newline_notMem_writeString
          have hrest := ih _ hfield hvalue
          simp [writeField, hname, hrest]
      rw [write, writeFields_eq]
      simp [hall]

end Lines

end AdkGateway.Foundation.JsonText
