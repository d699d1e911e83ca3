import AdkGateway.Channel
import AdkGateway.Foundation.Text

namespace AdkGateway

def ChannelType.maxMessageLength : ChannelType → ℕ
  | .telegram => 4096
  | .slack => 4000
  | .discord => 2000
  | .whatsapp => 4096
  | .matrix => 65536
  | .signal => 6000
  | .imessage => 20000
  | .webhook => 65536

namespace Delivery

open Foundation Text

/-- The loop of `splitMessage` for chunks of up to `n + 1` bytes. There is no answer where the
code panics, for it cuts within a character. -/
def splitLoop (n : ℕ) (remaining : List Char) : Option (List String) :=
  if remaining = [] then some []
  else if byteLength remaining ≤ n + 1 then some [String.ofList remaining]
  else
    match splitAtByte remaining (n + 1) with
    | none => none
    | some (slice, _) =>
      let found := ((rfindByte '\n' slice).or (rfindByte ' ' slice)).getD (n + 1)
      let cut := if found = 0 then n + 1 else found
      match _hcut : splitAtByte remaining cut with
      | none => none
      | some (chunk, rest) => (splitLoop n (trimStartChars rest)).map (String.ofList chunk :: ·)
termination_by remaining.length
decreasing_by
  have hpos : cut ≠ 0 := by
    simp only [cut]
    split
    · exact Nat.succ_ne_zero n
    · assumption
  exact Nat.lt_of_le_of_lt (length_trimStartChars_le rest) (length_splitAtByte_lt hpos _hcut)

def splitMessage (text : String) (maxLen : ℕ) : Option (List String) :=
  match maxLen with
  | 0 => some [text]
  | n + 1 => if byteLength text.toList ≤ n + 1 then some [text] else splitLoop n text.toList

theorem splitLoop_ne_nil {n : ℕ} {remaining : List Char} {chunks : List String}
    (hne : remaining ≠ []) (h : splitLoop n remaining = some chunks) : chunks ≠ [] := by
  rw [splitLoop, if_neg hne] at h
  split at h
  · cases h
    exact List.cons_ne_nil _ _
  · split at h
    · cases h
    · dsimp only at h
      split at h
      · cases h
      · obtain ⟨rest, -, rfl⟩ := Option.map_eq_some_iff.mp h
        exact List.cons_ne_nil _ _

theorem splitMessage_ne_nil {text : String} {maxLen : ℕ} {chunks : List String}
    (h : splitMessage text maxLen = some chunks) : chunks ≠ [] := by
  unfold splitMessage at h
  split at h
  · cases h
    exact List.cons_ne_nil _ _
  · split at h
    case isTrue =>
      cases h
      exact List.cons_ne_nil _ _
    case isFalse hlong =>
      refine splitLoop_ne_nil (fun hnil ↦ hlong ?_) h
      rw [hnil]
      exact Nat.zero_le _

end Delivery

end AdkGateway

namespace AdkGateway.Delivery

open Foundation Text

variable {n : ℕ} {remaining slice after : List Char} {chunks : List String}

/-- Where a chunk of up to `n + 1` bytes ends. -/
def cutAt (n : ℕ) (slice : List Char) : ℕ :=
  let found := ((rfindByte '\n' slice).or (rfindByte ' ' slice)).getD (n + 1)
  if found = 0 then n + 1 else found

theorem splitLoop_nil : splitLoop n [] = some [] := by rw [splitLoop, if_pos rfl]

theorem splitLoop_short (hne : remaining ≠ []) (h : byteLength remaining ≤ n + 1) :
    splitLoop n remaining = some [String.ofList remaining] := by
  rw [splitLoop, if_neg hne, if_pos h]

theorem ne_nil_of_long (h : n + 1 < byteLength remaining) : remaining ≠ [] := by
  rintro rfl
  exact absurd h (Nat.not_lt_zero _)

theorem splitLoop_panics (h : n + 1 < byteLength remaining)
    (hcut : splitAtByte remaining (n + 1) = none) : splitLoop n remaining = none := by
  rw [splitLoop, if_neg (ne_nil_of_long h), if_neg (by omega), hcut]

theorem cutAt_cases (n : ℕ) (slice : List Char) : cutAt n slice = n + 1 ∨
    cutAt n slice ≠ 0 ∧ ∃ c, rfindByte c slice = some (cutAt n slice) := by
  rw [cutAt]
  by_cases hzero : ((rfindByte '\n' slice).or (rfindByte ' ' slice)).getD (n + 1) = 0
  · exact .inl (if_pos hzero)
  · rw [if_neg hzero]
    cases hline : rfindByte '\n' slice with
    | some k =>
      rw [hline] at hzero
      exact .inr ⟨hzero, '\n', hline⟩
    | none =>
      cases hspace : rfindByte ' ' slice with
      | some k =>
        rw [hline, hspace] at hzero
        exact .inr ⟨hzero, ' ', hspace⟩
      | none => exact .inl rfl

theorem cutAt_spec (hslice : splitAtByte remaining (n + 1) = some (slice, after)) :
    ∃ chunk rest, splitAtByte remaining (cutAt n slice) = some (chunk, rest) ∧
      cutAt n slice ≠ 0 ∧ cutAt n slice ≤ n + 1 := by
  obtain ⟨rfl, hlength⟩ := splitAtByte_eq_some_iff.mp hslice
  rcases cutAt_cases n slice with hwhole | ⟨hzero, c, hfound⟩
  · rw [hwhole]
    exact ⟨slice, after, hslice, Nat.succ_ne_zero n, le_rfl⟩
  · obtain ⟨before, rest, rfl, hbefore⟩ := rfindByte_eq_some hfound
    rw [byteLength_append] at hlength
    refine ⟨before, c :: rest ++ after, ?_, hzero, by omega⟩
    rw [List.append_assoc, ← hbefore]
    exact splitAtByte_append _ _

theorem splitLoop_cut (h : n + 1 < byteLength remaining)
    (hslice : splitAtByte remaining (n + 1) = some (slice, after)) :
    ∃ chunk rest, splitAtByte remaining (cutAt n slice) = some (chunk, rest) ∧
      splitLoop n remaining = (splitLoop n (trimStartChars rest)).map (String.ofList chunk :: ·) ∧
      remaining = chunk ++ rest ∧ chunk ≠ [] ∧ byteLength chunk ≤ n + 1 := by
  obtain ⟨chunk, rest, hcut, hzero, hle⟩ := cutAt_spec hslice
  obtain ⟨happend, hlength⟩ := splitAtByte_eq_some_iff.mp hcut
  refine ⟨chunk, rest, hcut, ?_, happend, ?_, by omega⟩
  · rw [splitLoop, if_neg (ne_nil_of_long h), if_neg (by omega), hslice]
    dsimp only
    split
    case h_1 hnone => exact absurd (hnone.symm.trans hcut) (by simp)
    case h_2 chunk' rest' hsome =>
      obtain ⟨rfl, rfl⟩ := Prod.mk.inj (Option.some_inj.mp (hsome.symm.trans hcut))
      rfl
  · rintro rfl
    exact hzero hlength.symm

/-- Wherever more than a chunk is left, a character begins right after its last byte. -/
inductive Fits (n : ℕ) : List Char → Prop
  | short {remaining : List Char} : byteLength remaining ≤ n + 1 → Fits n remaining
  | cut {remaining slice after chunk rest : List Char} : n + 1 < byteLength remaining →
      splitAtByte remaining (n + 1) = some (slice, after) →
      splitAtByte remaining (cutAt n slice) = some (chunk, rest) →
      Fits n (trimStartChars rest) → Fits n remaining

inductive Rejoins : List String → List Char → Prop
  | nil : Rejoins [] []
  | cons {chunk : String} {chunks : List String} {gap rest : List Char} :
      (∀ c ∈ gap, isWhitespace c = true) → Rejoins chunks rest →
      Rejoins (chunk :: chunks) (chunk.toList ++ gap ++ rest)

/-- The text is split into chunks of up to `n + 1` bytes, and nothing is lost but whitespace. -/
def Lossless (n : ℕ) (text : List Char) (chunks : List String) : Prop :=
  (∀ chunk ∈ chunks, chunk ≠ "" ∧ byteLength chunk.toList ≤ n + 1) ∧ Rejoins chunks text

theorem fits_of_splitLoop (h : splitLoop n remaining = some chunks) : Fits n remaining := by
  induction hsize : remaining.length using Nat.strong_induction_on
    generalizing remaining chunks with
  | _ size ih =>
    by_cases hshort : byteLength remaining ≤ n + 1
    · exact .short hshort
    · have hlong : n + 1 < byteLength remaining := by omega
      cases hslice : splitAtByte remaining (n + 1) with
      | none =>
        rw [splitLoop_panics hlong hslice] at h
        cases h
      | some parts =>
        obtain ⟨slice, after⟩ := parts
        obtain ⟨chunk, rest, hcut, heq, rfl, hne, -⟩ := splitLoop_cut hlong hslice
        rw [heq] at h
        obtain ⟨chunks', hrest, -⟩ := Option.map_eq_some_iff.mp h
        refine .cut hlong hslice hcut (ih _ ?_ hrest rfl)
        have hle := length_trimStartChars_le rest
        have hpos := List.length_pos_of_ne_nil hne
        rw [← hsize, List.length_append]
        omega

theorem lossless_of_fits (h : Fits n remaining) :
    ∃ chunks, splitLoop n remaining = some chunks ∧ Lossless n remaining chunks := by
  induction h with
  | @short remaining hshort =>
    by_cases hne : remaining = []
    · rw [hne]
      refine ⟨[], splitLoop_nil, ?_, .nil⟩
      intro chunk hchunk
      cases hchunk
    · refine ⟨_, splitLoop_short hne hshort, ?_, ?_⟩
      · intro chunk hchunk
        rw [List.mem_singleton.mp hchunk, String.toList_ofList]
        exact ⟨fun heq ↦ hne (by simpa using congrArg String.toList heq), hshort⟩
      · have hjoin := @Rejoins.cons (String.ofList remaining) [] [] []
          (fun c hc ↦ by cases hc) Rejoins.nil
        rwa [String.toList_ofList, List.append_nil, List.append_nil] at hjoin
  | @cut remaining slice after chunk rest hlong hslice hcut _ ih =>
    obtain ⟨chunks, hrest, hfit, hrejoins⟩ := ih
    obtain ⟨chunk', rest', hcut', heq, happend, hne, hle⟩ := splitLoop_cut hlong hslice
    obtain ⟨rfl, rfl⟩ := Prod.mk.inj (Option.some_inj.mp (hcut'.symm.trans hcut))
    refine ⟨String.ofList chunk' :: chunks, by rw [heq, hrest]; rfl, ?_, ?_⟩
    · intro piece hpiece
      rcases List.mem_cons.mp hpiece with rfl | hpiece
      · rw [String.toList_ofList]
        exact ⟨fun heq ↦ hne (by simpa using congrArg String.toList heq), hle⟩
      · exact hfit piece hpiece
    · have hgap : ∀ c ∈ rest'.takeWhile isWhitespace, isWhitespace c = true := fun c hc ↦
        List.mem_takeWhile_imp hc
      have hjoin := @Rejoins.cons (String.ofList chunk') _ _ _ hgap hrejoins
      rw [String.toList_ofList, List.append_assoc] at hjoin
      rw [happend]
      rwa [trimStartChars, List.takeWhile_append_dropWhile] at hjoin

/-- A text is split without loss just if it is not empty and a character begins wherever a chunk may
have to end. -/
theorem lossless_iff (text : String) (n : ℕ) :
    (∃ chunks, splitMessage text (n + 1) = some chunks ∧ Lossless n text.toList chunks) ↔
      text ≠ "" ∧ Fits n text.toList := by
  rw [splitMessage]
  by_cases hshort : byteLength text.toList ≤ n + 1
  · rw [if_pos hshort]
    constructor
    · intro h
      obtain ⟨chunks, hchunks, hfit, -⟩ := h
      obtain rfl := Option.some_inj.mp hchunks
      exact ⟨(hfit text (List.mem_singleton_self text)).1, .short hshort⟩
    · intro h
      refine ⟨[text], rfl, ?_, ?_⟩
      · intro chunk hchunk
        rw [List.mem_singleton.mp hchunk]
        exact ⟨h.1, hshort⟩
      · have hjoin := @Rejoins.cons text [] [] [] (fun c hc ↦ by cases hc) Rejoins.nil
        rwa [List.append_nil, List.append_nil] at hjoin
  · rw [if_neg hshort]
    constructor
    · intro h
      obtain ⟨chunks, hchunks, -⟩ := h
      refine ⟨?_, fits_of_splitLoop hchunks⟩
      rintro rfl
      exact hshort (Nat.zero_le _)
    · intro h
      exact lossless_of_fits h.2

/-- The third byte is the first one of a character of two. -/
theorem not_lossless : ¬ ∀ (text : String) (n : ℕ), (∀ c ∈ text.toList, c.utf8Size ≤ n + 1) →
    ∃ chunks, splitMessage text (n + 1) = some chunks ∧ Lossless n text.toList chunks := by
  intro h
  have hsizes : ∀ c ∈ "abé".toList, c.utf8Size ≤ 2 + 1 :=
    @of_decide_eq_true _ (List.decidableBAll _ _) rfl
  obtain ⟨chunks, hchunks, -⟩ := h "abé" 2 hsizes
  rw [splitMessage, if_neg (by decide), splitLoop_panics (by decide) (by decide)] at hchunks
  cases hchunks

end AdkGateway.Delivery
