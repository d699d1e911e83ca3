import AdkGateway.Foundation.JsonText
import AdkGateway.SkillLoader.Frontmatter

namespace AdkGateway.SkillLoader

open Foundation JsonText Text

section Code

/-- `lines` of a text: without `\n`, or `\r\n`, at the end -/
def lineText (line : List Char) : List Char :=
  if line.getLast? = some '\n' then
    if line.dropLast.getLast? = some '\r' then line.dropLast.dropLast else line.dropLast
  else line

/-- `trim_matches` of the two quotes, one after the other -/
def unquoted (val : List Char) : List Char := strip (· == '\'') (strip (· == '"') val)

def escapeQuote (c : Char) : List Char := if c = '"' then ['\\', '"'] else [c]

def quoted (val : List Char) : List Char := '"' :: (val.flatMap escapeQuote ++ ['"'])

def jsonArr (listItems : List (List Char)) : List Char :=
  '[' :: (List.intercalate [','] (listItems.map quoted) ++ [']'])

structure Walk where
  map : List (List Char × List Char)
  currentKey : Option (List Char)
  listItems : List (List Char)
  inList : Bool

namespace Walk

def start : Walk := ⟨[], none, [], false⟩

def pushList (w : Walk) : List (List Char × List Char) :=
  match w.currentKey with
  | some key => w.map ++ [(key, jsonArr w.listItems)]
  | none => w.map

def flush (w : Walk) : Walk := if w.inList then ⟨w.pushList, none, [], false⟩ else w

def keyValue (w : Walk) (trimmed : List Char) : Walk :=
  match splitOnceChars [':'] trimmed with
  | none => w
  | some (key, val) =>
    let key := strip isWhitespace key
    let val := strip isWhitespace val
    if val.isEmpty then { w with currentKey := some key, inList := true }
    else if val.head? = some '[' ∧ val.getLast? = some ']' then
      let items := (val.tail.dropLast.splitOn ',').map fun s ↦ unquoted (strip isWhitespace s)
      { w with map := w.map ++ [(key, jsonArr items)] }
    else { w with map := w.map ++ [(key, quoted (unquoted val))] }

def line (w : Walk) (line : List Char) : Walk :=
  let trimmed := strip isWhitespace line
  if trimmed.isEmpty ∨ trimmed.head? = some '#' then w
  else if w.inList ∧ ['-', ' '].isPrefixOf trimmed then
    let val := unquoted (strip isWhitespace (trimmed.drop 2))
    { w with listItems := w.listItems ++ [val] }
  else w.flush.keyValue trimmed

end Walk

def yamlToJsonChars (yaml : List Char) : List Char :=
  let map := (((lines yaml).map lineText).foldl Walk.line .start).flush.map
  '{' :: (List.intercalate [','] (map.map fun (k, v) ↦ quoted k ++ ':' :: v) ++ ['}'])

def yamlToJsonMinimal (yaml : String) : String := String.ofList (yamlToJsonChars yaml.toList)

end Code

section Written

inductive Value
  | scalar (text : List Char)
  | items (texts : List (List Char))

structure Entry where
  key : List Char
  value : Value

def isItem (line : List Char) : Bool := ['-', ' '].isPrefixOf line

def itemText (line : List Char) : List Char := strip isWhitespace (line.drop 2)

def inlineValue (val : List Char) : Value :=
  if val.head? = some '[' ∧ val.getLast? = some ']' then
    .items ((val.tail.dropLast.splitOn ',').map (strip isWhitespace))
  else .scalar val

/-- The keys and what is written for them; where the line has nothing for it, these are the list
items on the next lines. -/
def entries : List (List Char) → List Entry
  | [] => []
  | line :: rest =>
    match splitOnceChars [':'] line with
    | none => entries rest
    | some (key, val) =>
      if strip isWhitespace val = [] then
        ⟨strip isWhitespace key, .items ((rest.takeWhile isItem).map itemText)⟩ ::
          entries (rest.dropWhile isItem)
      else ⟨strip isWhitespace key, inlineValue (strip isWhitespace val)⟩ :: entries rest
termination_by ls => ls.length
decreasing_by
  · exact Nat.lt_succ_self _
  · exact Nat.lt_succ_of_le (List.dropWhile_suffix _).length_le
  · exact Nat.lt_succ_self _

def isMeant (line : List Char) : Bool := !(line.isEmpty || line.head? == some '#')

/-- The entries of a frontmatter, whose blank lines and comments do not count. -/
def entriesOf (yaml : List Char) : List Entry :=
  entries (((lines yaml).map (strip isWhitespace)).filter isMeant)

def Wrapped (quote : Char) (text : List Char) : Prop :=
  2 ≤ text.length ∧ text.head? = some quote ∧ text.getLast? = some quote

instance (quote : Char) (text : List Char) : Decidable (Wrapped quote text) := by
  unfold Wrapped
  infer_instance

def unwrapped (text : List Char) : List Char :=
  if Wrapped '"' text ∨ Wrapped '\'' text then text.tail.dropLast else text

def Value.json : Value → Json
  | .scalar text => .string (String.ofList (unwrapped text))
  | .items texts =>
    .array ((texts.filter (· ≠ [])).map fun text ↦ .string (String.ofList (unwrapped text)))

def Entry.field (e : Entry) : String × Json := (String.ofList e.key, e.value.json)

def written (yaml : List Char) : Json := .object ((entriesOf yaml).map Entry.field)

def JsonRight (yaml : String) : Prop :=
  DocumentText (written yaml.toList) (yamlToJsonMinimal yaml).toList

end Written

section Fits

def PlainText (cs : List Char) : Prop := ∀ c ∈ cs, c ≠ '\\' ∧ 32 ≤ c.toNat

def NoneAtEnds (p : Char → Bool) (cs : List Char) : Prop :=
  (∀ c ∈ cs.head?, p c = false) ∧ ∀ c ∈ cs.getLast?, p c = false

def isQuote (c : Char) : Bool := c == '"' || c == '\''

def QuotesFit (text : List Char) : Prop :=
  if Wrapped '"' text then NoneAtEnds isQuote text.tail.dropLast
  else if Wrapped '\'' text then NoneAtEnds (· == '\'') text.tail.dropLast
  else NoneAtEnds isQuote text

def TextFits (text : List Char) : Prop := PlainText text ∧ QuotesFit text

def Value.Fits : Value → Prop
  | .scalar text => TextFits text
  | .items texts => ∀ text ∈ texts, text ≠ [] ∧ TextFits text

/-- No backslash or control character is written in a key or a value, no more quotes than one pair
around a value, and no empty item in a list. -/
def YamlFits (yaml : String) : Prop :=
  ∀ e ∈ entriesOf yaml.toList, PlainText e.key ∧ e.value.Fits

end Fits

section Walking

def Value.text : Value → List Char
  | .scalar text => quoted (unquoted text)
  | .items texts => jsonArr (texts.map unquoted)

def Entry.pair (e : Entry) : List Char × List Char := (e.key, e.value.text)

theorem strip_lineText (line : List Char) :
    strip isWhitespace (lineText line) = strip isWhitespace line := by
  have hdrop {c : Char} (hc : isWhitespace c = true) {cs : List Char}
      (hlast : cs.getLast? = some c) : strip isWhitespace cs.dropLast = strip isWhitespace cs := by
    obtain ⟨body, rfl⟩ := List.getLast?_eq_some_iff.mp hlast
    rw [List.dropLast_concat, strip_concat hc]
  rw [lineText]
  split_ifs with hn hr
  · rw [hdrop (by decide) hr, hdrop (by decide) hn]
  · exact hdrop (by decide) hn
  · rfl

/-- What a line does that is neither blank nor a comment. -/
def Walk.meant (w : Walk) (line : List Char) : Walk :=
  if w.inList ∧ isItem line then { w with listItems := w.listItems ++ [unquoted (itemText line)] }
  else w.flush.keyValue line

theorem foldl_line (w : Walk) (ls : List (List Char)) :
    (ls.map lineText).foldl Walk.line w =
      ((ls.map (strip isWhitespace)).filter isMeant).foldl Walk.meant w := by
  induction ls generalizing w with
  | nil => rfl
  | cons line ls ih =>
    rw [List.map_cons, List.foldl_cons, ih, List.map_cons, List.filter_cons, Walk.line,
      strip_lineText]
    dsimp only
    by_cases hmeant : isMeant (strip isWhitespace line) = true
    · have hno : ¬ ((strip isWhitespace line).isEmpty = true ∨
          (strip isWhitespace line).head? = some '#') := by
        simpa [isMeant] using hmeant
      rw [if_pos hmeant, if_neg hno, List.foldl_cons]
      rfl
    · have hyes : (strip isWhitespace line).isEmpty = true ∨
          (strip isWhitespace line).head? = some '#' := by
        simpa [isMeant, or_iff_not_imp_left] using hmeant
      rw [if_neg hmeant, if_pos hyes]

/-- A key and its value on the next lines are read when the first line comes that is no item. -/
theorem foldl_meant (ls : List (List Char)) :
    (∀ map, (ls.foldl Walk.meant ⟨map, none, [], false⟩).flush.map =
      map ++ (entries ls).map Entry.pair) ∧
    ∀ map key items,
      (ls.foldl Walk.meant ⟨map, some key, List.map unquoted items, true⟩).flush.map =
        map ++ Entry.pair ⟨key, .items (items ++ (ls.takeWhile isItem).map itemText)⟩ ::
          (entries (ls.dropWhile isItem)).map Entry.pair := by
  induction ls with
  | nil =>
    constructor
    · intro map
      simp [Walk.flush, entries]
    · intro map key items
      simp [Walk.flush, Walk.pushList, entries, Entry.pair, Value.text]
  | cons line ls ih =>
    obtain ⟨ihout, ihin⟩ := ih
    have hout : ∀ map, ((line :: ls).foldl Walk.meant ⟨map, none, [], false⟩).flush.map =
        map ++ (entries (line :: ls)).map Entry.pair := by
      intro map
      have hstep : Walk.meant ⟨map, none, [], false⟩ line =
          Walk.keyValue ⟨map, none, [], false⟩ line := by
        simp [Walk.meant, Walk.flush]
      rw [List.foldl_cons, hstep, Walk.keyValue, entries]
      cases splitOnceChars [':'] line with
      | none => exact ihout map
      | some found =>
        obtain ⟨key, val⟩ := found
        dsimp only
        by_cases hempty : strip isWhitespace val = []
        · rw [if_pos (List.isEmpty_iff.mpr hempty), if_pos hempty, List.map_cons]
          exact ihin map _ []
        · rw [if_neg (mt List.isEmpty_iff.mp hempty), if_neg hempty, inlineValue]
          split_ifs
          · rw [ihout]
            simp [Entry.pair, Value.text, Function.comp_def]
          · rw [ihout]
            simp [Entry.pair, Value.text]
    refine ⟨hout, fun map key items ↦ ?_⟩
    by_cases hitem : isItem line = true
    · have hstep : Walk.meant ⟨map, some key, items.map unquoted, true⟩ line =
          ⟨map, some key, (items ++ [itemText line]).map unquoted, true⟩ := by
        simp [Walk.meant, hitem]
      rw [List.foldl_cons, hstep, ihin, List.takeWhile_cons_of_pos hitem,
        List.dropWhile_cons_of_pos hitem, List.map_cons, List.append_assoc, List.singleton_append]
    · have hstep : Walk.meant ⟨map, some key, items.map unquoted, true⟩ line =
          Walk.meant ⟨map ++ [Entry.pair ⟨key, .items items⟩], none, [], false⟩ line := by
        simp [Walk.meant, hitem, Walk.flush, Walk.pushList, Entry.pair, Value.text]
      have hrest := hout (map ++ [Entry.pair ⟨key, .items items⟩])
      rw [List.foldl_cons] at hrest
      rw [List.foldl_cons, hstep, hrest, List.takeWhile_cons_of_neg hitem,
        List.dropWhile_cons_of_neg hitem, List.map_nil, List.append_nil, List.append_assoc,
        List.singleton_append]

/-- The text for an entry, as it is put together. -/
def Entry.text (e : Entry) : List Char := quoted e.key ++ ':' :: e.value.text

theorem yamlToJsonChars_eq (yaml : List Char) : yamlToJsonChars yaml =
    '{' :: (List.intercalate [','] ((entriesOf yaml).map Entry.text) ++ ['}']) := by
  have hmap := (foldl_meant (((lines yaml).map (strip isWhitespace)).filter isMeant)).1 []
  rw [List.nil_append, ← foldl_line] at hmap
  rw [yamlToJsonChars, Walk.start, hmap, List.map_map]
  rfl

end Walking

section Quotes

variable {p : Char → Bool} {quote : Char} {text cs : List Char}

theorem strip_isInfix (p : Char → Bool) (cs : List Char) : strip p cs <:+: cs :=
  (List.rdropWhile_prefix p _).isInfix.trans (List.dropWhile_suffix p).isInfix

theorem strip_eq_self_iff : strip p cs = cs ↔ NoneAtEnds p cs := by
  constructor
  · intro h
    constructor
    · intro c hc
      obtain ⟨rest, rfl⟩ := List.head?_eq_some_iff.mp hc
      exact head_of_strip_eq_self h
    · intro c hc
      obtain ⟨body, rfl⟩ := List.getLast?_eq_some_iff.mp hc
      exact last_of_strip_eq_self h
  · intro h
    obtain ⟨hhead, hlast⟩ := h
    have hdrop : cs.dropWhile p = cs := by
      cases cs with
      | nil => rfl
      | cons c cs => exact List.dropWhile_cons_of_neg (by simp [hhead c rfl])
    rw [strip, hdrop, List.rdropWhile_eq_self_iff]
    intro hne
    rw [hlast _ (List.getLast?_eq_some_getLast hne)]
    exact Bool.false_ne_true

theorem unquoted_isInfix (text : List Char) : unquoted text <:+: text :=
  (strip_isInfix _ _).trans (strip_isInfix _ _)

/-- Trimming the one quote and then the other leaves a text just if neither is at an end. -/
theorem unquoted_eq_self_iff : unquoted cs = cs ↔ NoneAtEnds isQuote cs := by
  have hboth : NoneAtEnds isQuote cs ↔
      NoneAtEnds (· == '"') cs ∧ NoneAtEnds (· == '\'') cs := by
    simp only [NoneAtEnds, isQuote, Bool.or_eq_false_iff, forall_and]
    exact and_and_and_comm
  rw [hboth, ← strip_eq_self_iff, ← strip_eq_self_iff, unquoted]
  constructor
  · intro h
    have hin := strip_isInfix (· == '\'') (strip (· == '"') cs)
    rw [h] at hin
    have hfirst : strip (· == '"') cs = cs :=
      (strip_isInfix _ _).eq_of_length_le hin.length_le
    rw [hfirst] at h
    exact ⟨hfirst, h⟩
  · intro h
    rw [h.1, h.2]

theorem Wrapped.eq (h : Wrapped quote text) : text = quote :: (text.tail.dropLast ++ [quote]) := by
  obtain ⟨hlength, hhead, hlast⟩ := h
  obtain ⟨rest, rfl⟩ := List.head?_eq_some_iff.mp hhead
  have hne : rest ≠ [] := by
    intro heq
    rw [heq] at hlength
    simp at hlength
  rw [List.getLast?_cons, List.getLast?_eq_some_getLast hne] at hlast
  have hget : rest.getLast hne = quote := Option.some.inj hlast
  rw [List.tail_cons, ← hget, List.dropLast_append_getLast]

theorem unquoted_wrapped (h : Wrapped '"' text) : unquoted text = unquoted text.tail.dropLast := by
  conv_lhs => rw [h.eq]
  rw [unquoted, strip_cons (by decide), strip_concat (by decide), unquoted]

theorem unquoted_wrapped_single (h : Wrapped '\'' text) :
    unquoted text = strip (· == '\'') text.tail.dropLast := by
  have hself : strip (· == '"') text = text := by
    rw [strip_eq_self_iff, NoneAtEnds, h.2.1, h.2.2]
    simp
  rw [unquoted, hself]
  conv_lhs => rw [h.eq]
  rw [strip_cons (by decide), strip_concat (by decide)]

theorem unquoted_unwrapped (text : List Char) :
    unquoted text <:+: unwrapped text ∧ (unquoted text = unwrapped text ↔ QuotesFit text) := by
  rw [unwrapped, QuotesFit]
  by_cases hdouble : Wrapped '"' text
  · rw [if_pos (.inl hdouble), if_pos hdouble, unquoted_wrapped hdouble]
    exact ⟨unquoted_isInfix _, unquoted_eq_self_iff⟩
  rw [if_neg hdouble]
  by_cases hsingle : Wrapped '\'' text
  · rw [if_pos (.inr hsingle), if_pos hsingle, unquoted_wrapped_single hsingle]
    exact ⟨strip_isInfix _ _, strip_eq_self_iff⟩
  · rw [if_neg (not_or.mpr ⟨hdouble, hsingle⟩), if_neg hsingle]
    exact ⟨unquoted_isInfix _, unquoted_eq_self_iff⟩

theorem Wrapped.mem {c : Char} (h : Wrapped quote text) (hquote : isQuote quote = true)
    (hc : c ∈ text) : c ∈ text.tail.dropLast ∨ isQuote c = true := by
  rw [h.eq] at hc
  simp only [List.mem_cons, List.mem_append, List.not_mem_nil, or_false] at hc
  rcases hc with rfl | hc | rfl
  · exact .inr hquote
  · exact .inl hc
  · exact .inr hquote

theorem mem_unwrapped {c : Char} (hc : c ∈ text) : c ∈ unwrapped text ∨ isQuote c = true := by
  rw [unwrapped]
  split_ifs with h
  · rcases h with h | h
    · exact h.mem rfl hc
    · exact h.mem rfl hc
  · exact .inl hc

theorem unwrapped_isInfix (text : List Char) : unwrapped text <:+: text := by
  rw [unwrapped]
  split_ifs
  · exact (List.dropLast_prefix _).isInfix.trans (List.tail_suffix _).isInfix
  · exact List.infix_rfl

theorem plainText_unwrapped_iff : PlainText (unwrapped text) ↔ PlainText text := by
  refine ⟨fun h c hc ↦ ?_, fun h c hc ↦ h c ((unwrapped_isInfix text).subset hc)⟩
  rcases mem_unwrapped hc with hc | hc
  · exact h c hc
  · have hquote : c = '"' ∨ c = '\'' := by simpa [isQuote] using hc
    rcases hquote with rfl | rfl
    · decide
    · decide

end Quotes

section Weighing

theorem weight_escapeQuote (c : Char) : 1 ≤ weight (escapeQuote c) ∧
    weight (escapeQuote c) ≤ weight (escapeChar c) ∧
    (weight (escapeChar c) ≤ weight (escapeQuote c) → c ≠ '\\' ∧ 32 ≤ c.toNat) := by
  by_cases hquote : c = '"'
  · rw [hquote]
    decide
  have hfour : weight (escapeQuote c) = 4 := by
    rw [escapeQuote, if_neg hquote, weight_cons hquote, weight_nil]
    rfl
  rw [hfour]
  by_cases hslash : c = '\\'
  · rw [hslash]
    decide
  by_cases hcontrol : 32 ≤ c.toNat
  · rw [escapeChar_plain hcontrol hquote hslash, weight_cons hquote, weight_nil]
    exact ⟨by omega, by omega, fun _ ↦ ⟨hslash, hcontrol⟩⟩
  · have hall : ∀ n < 32, 8 ≤ weight (escapeChar (Char.ofNat n)) := by decide
    have hle := hall c.toNat (by omega)
    rw [Char.ofNat_toNat] at hle
    omega

theorem length_le_weight (cs : List Char) : cs.length ≤ weight (cs.flatMap escapeQuote) := by
  induction cs with
  | nil => exact le_rfl
  | cons c cs ih =>
    have hle := (weight_escapeQuote c).1
    rw [List.flatMap_cons, weight_append, List.length_cons]
    omega

theorem weight_flatMap_le (cs : List Char) :
    weight (cs.flatMap escapeQuote) ≤ weight (cs.flatMap escapeChar) ∧
      (weight (cs.flatMap escapeChar) ≤ weight (cs.flatMap escapeQuote) → PlainText cs) := by
  induction cs with
  | nil =>
    refine ⟨le_rfl, fun _ c hc ↦ ?_⟩
    cases hc
  | cons c cs ih =>
    obtain ⟨-, hle, hfits⟩ := weight_escapeQuote c
    rw [List.flatMap_cons, List.flatMap_cons, weight_append, weight_append]
    refine ⟨by omega, fun h ↦ ?_⟩
    exact List.forall_mem_cons.mpr ⟨hfits (by omega), ih.2 (by omega)⟩

theorem weight_quoted (cs : List Char) :
    weight (quoted cs) = weight (cs.flatMap escapeQuote) - 6 := by
  rw [quoted, weight_quote, weight_append, weight_quote, weight_nil]
  omega

theorem weight_writeString (cs : List Char) :
    weight (writeString (String.ofList cs)) = weight (cs.flatMap escapeChar) - 6 := by
  rw [writeString, String.toList_ofList, weight_quote, weight_append, weight_quote, weight_nil]
  omega

theorem weight_quoted_le {cs ds : List Char} (h : cs <:+: ds) :
    weight (quoted cs) ≤ weight (writeString (String.ofList ds)) ∧
      (weight (writeString (String.ofList ds)) ≤ weight (quoted cs) →
        cs = ds ∧ PlainText ds) := by
  obtain ⟨as, bs, rfl⟩ := h
  obtain ⟨hle, hplain⟩ := weight_flatMap_le (as ++ cs ++ bs)
  have has := length_le_weight as
  have hbs := length_le_weight bs
  have hsum : weight ((as ++ cs ++ bs).flatMap escapeQuote) = weight (as.flatMap escapeQuote) +
      weight (cs.flatMap escapeQuote) + weight (bs.flatMap escapeQuote) := by
    rw [List.flatMap_append, List.flatMap_append, weight_append, weight_append]
  rw [weight_quoted, weight_writeString]
  refine ⟨by omega, fun h ↦ ?_⟩
  have hnil : as = [] := List.length_eq_zero_iff.mp (by omega)
  have hnil' : bs = [] := List.length_eq_zero_iff.mp (by omega)
  refine ⟨by rw [hnil, hnil', List.nil_append, List.append_nil], hplain (by omega)⟩

theorem weight_unquoted_le (text : List Char) :
    weight (quoted (unquoted text)) ≤ weight (writeString (String.ofList (unwrapped text))) ∧
      (weight (writeString (String.ofList (unwrapped text))) ≤ weight (quoted (unquoted text)) →
        TextFits text) := by
  obtain ⟨hin, hquotes⟩ := unquoted_unwrapped text
  obtain ⟨hle, hfits⟩ := weight_quoted_le hin
  refine ⟨hle, fun h ↦ ?_⟩
  obtain ⟨heq, hplain⟩ := hfits h
  exact ⟨plainText_unwrapped_iff.mp hplain, hquotes.mp heq⟩

/-- If nothing in one list is more than its counterpart in the other, and less where `P` fails,
then neither are the sums. -/
theorem sum_map_le {α : Type} {f g : α → ℤ} {P : α → Prop} (as : List α)
    (h : ∀ a ∈ as, f a ≤ g a ∧ (g a ≤ f a → P a)) :
    (as.map f).sum ≤ (as.map g).sum ∧ ((as.map g).sum ≤ (as.map f).sum → ∀ a ∈ as, P a) := by
  induction as with
  | nil => exact ⟨le_rfl, fun _ _ ha ↦ by cases ha⟩
  | cons a as ih =>
    obtain ⟨⟨hle, hfits⟩, hrest⟩ := List.forall_mem_cons.mp h
    obtain ⟨ihle, ihfits⟩ := ih hrest
    simp only [List.map_cons, List.sum_cons]
    refine ⟨by omega, fun hsum ↦ ?_⟩
    exact List.forall_mem_cons.mpr ⟨hfits (by omega), ihfits (by omega)⟩

def writeText (text : List Char) : List Char := writeString (String.ofList (unwrapped text))

theorem sum_map_filter {α : Type} (p : α → Bool) (f : α → ℤ) (as : List α) :
    ((as.filter p).map f).sum = (as.map fun a ↦ if p a then f a else 0).sum := by
  induction as with
  | nil => rfl
  | cons a as ih =>
    rw [List.filter_cons, List.map_cons, List.sum_cons, ← ih]
    split_ifs
    · rw [List.map_cons, List.sum_cons]
    · exact (Int.zero_add _).symm

theorem weight_jsonArr (texts : List (List Char)) : weight (jsonArr texts) =
    8 + weight (List.intercalate [','] (texts.map quoted)) := by
  rw [jsonArr, weight_cons (by decide), weight_append, weight_cons (by decide), weight_nil]
  omega

theorem write_items (texts : List (List Char)) : write (Value.items texts).json =
    '[' :: (List.intercalate [','] ((texts.filter (· ≠ [])).map writeText) ++ [']']) := by
  rw [Value.json, write, writeItems_eq, List.map_map]
  rfl

theorem weight_write_items (texts : List (List Char)) : weight (write (Value.items texts).json) =
    8 + weight (List.intercalate [','] ((texts.filter (· ≠ [])).map writeText)) := by
  rw [write_items, weight_cons (by decide), weight_append, weight_cons (by decide), weight_nil]
  omega

/-- An item that is not written is one text more, but its quotes weigh more than its length. -/
theorem weight_items_le (texts : List (List Char)) :
    weight (jsonArr (texts.map unquoted)) ≤ weight (write (Value.items texts).json) ∧
      (weight (write (Value.items texts).json) ≤ weight (jsonArr (texts.map unquoted)) →
        (Value.items texts).Fits) := by
  have hsum := sum_map_le (f := fun t ↦ weight (quoted (unquoted t)) + 4)
    (g := fun t ↦ if t ≠ [] then weight (writeText t) + 4 else 0)
    (P := fun t ↦ t ≠ [] ∧ TextFits t) texts fun t _ ↦ by
      by_cases ht : t = []
      · rw [if_neg (not_not.mpr ht), ht]
        have hnil : weight (quoted (unquoted [])) = -6 := rfl
        exact ⟨by omega, by omega⟩
      · rw [if_pos ht, writeText]
        obtain ⟨hle, hfits⟩ := weight_unquoted_le t
        exact ⟨by omega, fun h ↦ ⟨ht, hfits (by omega)⟩⟩
  rw [weight_jsonArr, weight_write_items]
  by_cases hempty : texts = []
  · rw [hempty]
    exact ⟨le_rfl, fun _ t ht ↦ by cases ht⟩
  have hcode := weight_intercalate ((texts.map unquoted).map quoted)
    (by simpa using hempty)
  have hfilter := sum_map_filter (· ≠ []) (fun t ↦ weight (writeText t) + 4) texts
  simp only [List.map_map, Function.comp_def, decide_eq_true_eq] at hcode hfilter hsum ⊢
  rw [← hfilter, ← hcode] at hsum
  by_cases hnone : texts.filter (· ≠ []) = []
  · -- what is in none of the items written cannot be made up for
    rw [hnone] at hsum ⊢
    simp only [List.map_nil, List.sum_nil] at hsum
    rw [List.map_nil, List.intercalate_nil, weight_nil]
    exact ⟨by omega, by omega⟩
  · have hwritten := weight_intercalate ((texts.filter (· ≠ [])).map writeText)
      (by simpa using hnone)
    simp only [List.map_map, Function.comp_def] at hwritten
    rw [← hwritten] at hsum
    exact ⟨by omega, fun h ↦ hsum.2 (by omega)⟩

theorem weight_value_le (value : Value) : weight value.text ≤ weight (write value.json) ∧
    (weight (write value.json) ≤ weight value.text → value.Fits) := by
  cases value with
  | scalar text =>
    rw [Value.json, write]
    exact weight_unquoted_le text
  | items texts => exact weight_items_le texts

theorem weight_entry_le (e : Entry) : weight e.text ≤ weight (writeField e.field) ∧
    (weight (writeField e.field) ≤ weight e.text → PlainText e.key ∧ e.value.Fits) := by
  obtain ⟨hkey, hkeyfits⟩ := weight_quoted_le (List.infix_refl e.key)
  obtain ⟨hvalue, hvaluefits⟩ := weight_value_le e.value
  rw [Entry.text, Entry.field, writeField, weight_append, weight_append, weight_cons (by decide),
    weight_cons (by decide)]
  dsimp only
  exact ⟨by omega, fun h ↦ ⟨(hkeyfits (by omega)).2, hvaluefits (by omega)⟩⟩

theorem yamlFits_of_jsonRight {yaml : String} (h : JsonRight yaml) : YamlFits yaml := by
  have hle := DocumentText.weight_le h
  rw [written, write, writeFields_eq, yamlToJsonMinimal, String.toList_ofList, yamlToJsonChars_eq,
    weight_cons (by decide), weight_cons (by decide), weight_append, weight_append] at hle
  rw [YamlFits]
  generalize entriesOf yaml.toList = es at hle
  by_cases hempty : es = []
  · rw [hempty]
    exact fun e he ↦ by cases he
  have hcode := weight_intercalate (es.map Entry.text) (by simpa using hempty)
  have hwritten := weight_intercalate ((es.map Entry.field).map writeField)
    (by simpa using hempty)
  simp only [List.map_map, Function.comp_def] at hcode hwritten hle
  have hsum := sum_map_le (f := fun e ↦ weight (Entry.text e) + 4)
    (g := fun e ↦ weight (writeField (Entry.field e)) + 4)
    (P := fun e ↦ PlainText e.key ∧ e.value.Fits) es fun e _ ↦ by
      obtain ⟨hle, hfits⟩ := weight_entry_le e
      exact ⟨by omega, fun h ↦ hfits (by omega)⟩
  exact hsum.2 (by omega)

end Weighing

section Writing

theorem quoted_eq_writeString {cs : List Char} (h : PlainText cs) :
    quoted cs = writeString (String.ofList cs) := by
  have hchar : ∀ c ∈ cs, escapeQuote c = escapeChar c := by
    intro c hc
    by_cases hquote : c = '"'
    · rw [hquote]
      rfl
    · rw [escapeQuote, if_neg hquote, escapeChar_plain (h c hc).2 hquote (h c hc).1]
  rw [quoted, writeString, String.toList_ofList, List.flatMap_congr hchar]

theorem quoted_unquoted {text : List Char} (h : TextFits text) :
    quoted (unquoted text) = writeText text := by
  rw [(unquoted_unwrapped text).2.mpr h.2, writeText]
  exact quoted_eq_writeString (plainText_unwrapped_iff.mpr h.1)

theorem Value.text_eq_write {value : Value} (h : value.Fits) : value.text = write value.json := by
  cases value with
  | scalar text =>
    rw [Value.json, write]
    exact quoted_unquoted h
  | items texts =>
    have hfilter : texts.filter (· ≠ []) = texts := by
      rw [List.filter_eq_self]
      intro t ht
      simpa using (h t ht).1
    have hmap : texts.map (quoted ∘ unquoted) = texts.map writeText :=
      List.map_congr_left fun t ht ↦ quoted_unquoted (h t ht).2
    rw [write_items, hfilter, Value.text, jsonArr, List.map_map, hmap]

theorem valueText_written (yaml : List Char) : ValueText (written yaml) (write (written yaml)) := by
  refine valueText_object fun field hfield ↦ ?_
  obtain ⟨e, -, rfl⟩ := List.mem_map.mp hfield
  rw [Entry.field]
  cases e.value with
  | scalar text => exact valueText_string _
  | items texts =>
    refine valueText_array fun item hitem ↦ ?_
    obtain ⟨t, -, rfl⟩ := List.mem_map.mp hitem
    exact valueText_string _

theorem jsonRight_iff (yaml : String) : JsonRight yaml ↔ YamlFits yaml := by
  refine ⟨yamlFits_of_jsonRight, fun h ↦ ?_⟩
  have htext : (entriesOf yaml.toList).map Entry.text =
      ((entriesOf yaml.toList).map Entry.field).map writeField := by
    rw [List.map_map]
    refine List.map_congr_left fun e he ↦ ?_
    obtain ⟨hkey, hvalue⟩ := h e he
    rw [Function.comp_apply, Entry.text, Entry.field, writeField, quoted_eq_writeString hkey,
      Value.text_eq_write hvalue]
  have hwrite : yamlToJsonChars yaml.toList = write (written yaml.toList) := by
    rw [yamlToJsonChars_eq, htext, written, write, writeFields_eq]
  rw [JsonRight, yamlToJsonMinimal, String.toList_ofList, hwrite]
  exact documentText_write (valueText_written yaml.toList)

end Writing

section Files

/-- A file is split as the grammar says, and what is taken for its frontmatter gives its JSON. -/
def ParsesRight (content : String) : Prop :=
  SplitsByGrammar content ∧ ∀ yaml, (splitFrontmatter content).1 = some yaml → JsonRight yaml

theorem parsesRight_iff (content : String) : ParsesRight content ↔ FrontmatterFits content ∧
    ∀ yaml, (frontmatter content.toList).1 = some yaml → YamlFits (String.ofList yaml) := by
  rw [ParsesRight, splitsByGrammar_iff]
  refine and_congr_right fun hfits ↦ ?_
  have hsplit : splitFrontmatter content = _ := (splitsByGrammar_iff content).mpr hfits
  simp only [hsplit, Option.map_eq_some_iff, jsonRight_iff, forall_exists_index, and_imp,
    forall_apply_eq_imp_iff₂]

/-- A frontmatter of no line is not found; a backslash is left as it is. -/
theorem not_parsesRight_of_empty_of_backslash :
    ¬ ParsesRight "---\n---\n" ∧ ¬ ParsesRight "---\na: x\\y\n---\n" := by
  constructor
  · intro h
    exact absurd h.1 (by unfold SplitsByGrammar; decide)
  · intro h
    have hjson := (jsonRight_iff _).mp (h.2 "a: x\\y" (by decide))
    have hentries : entriesOf "a: x\\y".toList = [⟨['a'], .scalar ['x', '\\', 'y']⟩] := by
      have hlines : ((lines "a: x\\y".toList).map (strip isWhitespace)).filter isMeant =
          [['a', ':', ' ', 'x', '\\', 'y']] := by
        decide
      rw [entriesOf, hlines, entries, entries]
      rfl
    rw [YamlFits, hentries] at hjson
    obtain ⟨-, hplain, -⟩ := hjson _ List.mem_cons_self
    exact (hplain '\\' (by decide)).1 rfl

end Files

end AdkGateway.SkillLoader
