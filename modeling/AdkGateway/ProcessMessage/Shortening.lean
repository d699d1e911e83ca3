import AdkGateway.Foundation.Text

namespace AdkGateway.ProcessMessage

open Foundation Text

/-- A slice of so many bytes; `none` is a panic. -/
def firstBytes (n : ℕ) (s : List Char) : Option (List Char) := (splitAtByte s n).map (·.1)

def truncateStr (s : List Char) (maxLen : ℕ) : Option (List Char) :=
  if byteLength s ≤ maxLen then some s else (firstBytes (maxLen - 1) s).map (· ++ ['…'])

def replyPart (response : List Char) : Option (List Char) :=
  if byteLength response > 200 then firstBytes 200 response else some response

def observations (text response : List Char) : Option (List (List Char)) :=
  (replyPart response).map fun reply ↦
    ["User said: ".toList ++ text, "Assistant replied: ".toList ++ reply]

def preview (response : List Char) : Option (List Char) :=
  if byteLength response > 100 then firstBytes 100 response else some response

def deliveredDetail (response : List Char) : Option (List Char) :=
  (preview response).map ("Delivered: ".toList ++ ·)

inductive FileContent
  | text (content : List Char)
  | binary (size : ℕ)

def FileContent.size : FileContent → ℕ
  | .text content => byteLength content
  | .binary size => size

structure FileRead where
  path : String
  truncated : Bool
  size : ℕ
  content : List Char

def maxSize : ℕ := 50 * 1024

def binaryNote (size : ℕ) : List Char :=
  "[Binary file, ".toList ++ (toString size).toList ++ " bytes]".toList

def fsRead (path : String) (file : FileContent) : Option FileRead :=
  if file.size > maxSize then
    match file with
    | .text content => (firstBytes maxSize content).map (⟨path, true, file.size, ·⟩)
    | .binary size => some ⟨path, true, size, binaryNote size⟩
  else
    match file with
    | .text content => some ⟨path, false, file.size, content⟩
    | .binary size => some ⟨path, false, size, binaryNote size⟩

inductive Site
  | progress (maxLen : ℕ)
  | memory
  | taskLog
  | fsRead (path : String)

namespace Site

def shorten : Site → List Char → Option (List Char)
  | progress maxLen, s => truncateStr s maxLen
  | memory, s => replyPart s
  | taskLog, s => preview s
  | fsRead path, s => (ProcessMessage.fsRead path (.text s)).map (·.content)

def limit : Site → ℕ
  | progress maxLen => maxLen
  | memory => 200
  | taskLog => 100
  | fsRead _ => maxSize

/-- The byte at which a longer text is cut. -/
def offset : Site → ℕ
  | progress maxLen => maxLen - 1
  | memory => 200
  | taskLog => 100
  | fsRead _ => maxSize

def ending : Site → List Char
  | progress _ => ['…']
  | _ => []

end Site

/-- A text that fits is kept, and of a longer one so much that not two characters more would fit,
with an ellipsis or without. -/
def Shortened (limit : ℕ) (s result : List Char) : Prop :=
  if byteLength s ≤ limit then result = s
  else ∃ cut rest, s = cut ++ rest ∧ byteLength cut ≤ limit ∧
    (∀ c d later, rest = c :: d :: later → limit < byteLength (cut ++ [c, d])) ∧
    (result = cut ∨ result = cut ++ ['…'])

def ShortensRightly (site : Site) (s : List Char) : Prop :=
  ∃ result, site.shorten s = some result ∧ Shortened site.limit s result

/-- So many bytes of a text end with a character. -/
def IsCharBoundary (s : List Char) (n : ℕ) : Prop :=
  ∃ before after, s = before ++ after ∧ byteLength before = n

variable {site : Site} {s : List Char} {n : ℕ}

theorem firstBytes_eq_some_iff {cut : List Char} :
    firstBytes n s = some cut ↔ ∃ rest, s = cut ++ rest ∧ byteLength cut = n := by
  simp only [firstBytes, Option.map_eq_some_iff, Prod.exists, splitAtByte_eq_some_iff]
  constructor
  · rintro ⟨before, after, hsplit, rfl⟩
    exact ⟨after, hsplit⟩
  · rintro ⟨rest, hsplit⟩
    exact ⟨cut, rest, hsplit, rfl⟩

theorem shorten_eq (site : Site) (s : List Char) : site.shorten s =
    if byteLength s ≤ site.limit then some s
    else (firstBytes site.offset s).map (· ++ site.ending) := by
  cases site with
  | progress maxLen => rfl
  | memory =>
    simp only [Site.shorten, replyPart, gt_iff_lt, ← not_le, ite_not, Site.limit, Site.offset,
      Site.ending, List.append_nil, Option.map_id']
  | taskLog =>
    simp only [Site.shorten, preview, gt_iff_lt, ← not_le, ite_not, Site.limit, Site.offset,
      Site.ending, List.append_nil, Option.map_id']
  | fsRead path =>
    simp only [Site.shorten, fsRead, FileContent.size, gt_iff_lt, ← not_le, ite_not, Site.limit,
      Site.offset, Site.ending, List.append_nil, Option.map_id']
    split
    · rfl
    · cases firstBytes maxSize s <;> rfl

theorem offset_le_limit (site : Site) : site.offset ≤ site.limit ∧ site.limit < site.offset + 2 := by
  cases site <;> simp only [Site.offset, Site.limit] <;> omega

theorem ending_eq (site : Site) : site.ending = [] ∨ site.ending = ['…'] := by
  cases site <;> simp [Site.ending]

/-- A text is shortened as it should be if and only if it fits, or the byte at which it is cut
begins a character. -/
theorem shortensRightly_iff (site : Site) (s : List Char) : ShortensRightly site s ↔
    byteLength s ≤ site.limit ∨ IsCharBoundary s site.offset := by
  rw [ShortensRightly, shorten_eq]
  by_cases hfits : byteLength s ≤ site.limit
  · refine iff_of_true ⟨s, if_pos hfits, ?_⟩ (.inl hfits)
    rw [Shortened, if_pos hfits]
  · rw [if_neg hfits]
    constructor
    · rintro ⟨result, hcut, -⟩
      obtain ⟨cut, hfirst, -⟩ := Option.map_eq_some_iff.mp hcut
      obtain ⟨rest, hsplit⟩ := firstBytes_eq_some_iff.mp hfirst
      exact .inr ⟨cut, rest, hsplit⟩
    · intro h
      obtain ⟨cut, rest, hsplit, hlength⟩ := h.resolve_left hfits
      obtain ⟨hle, hlt⟩ := offset_le_limit site
      refine ⟨cut ++ site.ending, ?_, ?_⟩
      · rw [firstBytes_eq_some_iff.mpr ⟨rest, hsplit, hlength⟩, Option.map_some]
      · rw [Shortened, if_neg hfits]
        refine ⟨cut, rest, hsplit, hlength ▸ hle, fun c d later _ ↦ ?_, ?_⟩
        · have hc := c.utf8Size_pos
          have hd := d.utf8Size_pos
          rw [byteLength_append, byteLength_cons, byteLength_cons]
          omega
        · obtain hending | hending := ending_eq site
          · exact .inl (by rw [hending, List.append_nil])
          · exact .inr (by rw [hending])

def accentedReply : List Char := List.replicate 199 'a' ++ ['é']

set_option maxRecDepth 4000 in
theorem replyPart_accentedReply : replyPart accentedReply = none := by decide

theorem not_shortensRightly : ¬ ∀ site s, ShortensRightly site s := by
  intro h
  obtain ⟨result, hcut, -⟩ := h .memory accentedReply
  rw [Site.shorten, replyPart_accentedReply] at hcut
  cases hcut

end AdkGateway.ProcessMessage
