import AdkGateway.Foundation.Replace

namespace AdkGateway.Foundation.Replace

variable {α : Type}

abbrev MarkedText (α : Type) := List (α × Bool)

namespace MarkedText

def plain (text : MarkedText α) : List α := text.map Prod.fst

def unmarked (text : List α) : MarkedText α := text.map fun c ↦ (c, false)

def opened : List α → MarkedText α
  | [] => []
  | c :: cs => (c, true) :: unmarked cs

@[simp] theorem plain_unmarked (text : List α) : plain (unmarked text) = text := by
  simp [plain, unmarked, Function.comp_def]

@[simp] theorem plain_opened (text : List α) : plain (opened text) = text := by
  cases text with
  | nil => rfl
  | cons c cs => exact congrArg (c :: ·) (plain_unmarked cs)

theorem plain_append (x y : MarkedText α) : plain (x ++ y) = plain x ++ plain y := List.map_append

def OnlyAtMarks (pattern : List α) (text : MarkedText α) : Prop :=
  ∀ before c after, text = before ++ c :: after → pattern <+: plain (c :: after) → c.2 = true

variable {pattern new : List α} {text x y : MarkedText α}

theorem OnlyAtMarks.of_append (h : OnlyAtMarks pattern (x ++ y)) : OnlyAtMarks pattern y := by
  intro before c after hy
  exact h (x ++ before) c after (by rw [hy, List.append_assoc])

variable [DecidableEq α]

def replaceFrom (pattern new : List α) : ℕ → MarkedText α → MarkedText α
  | _, [] => []
  | skip + 1, _ :: cs => replaceFrom pattern new skip cs
  | 0, c :: cs =>
    if pattern.isPrefixOf (plain (c :: cs)) then
      unmarked new ++ replaceFrom pattern new (pattern.length - 1) cs
    else c :: replaceFrom pattern new 0 cs

def replaceAll (pattern new : List α) (text : MarkedText α) : MarkedText α :=
  replaceFrom pattern new 0 text

theorem plain_replaceFrom (skip : ℕ) (text : MarkedText α) :
    plain (replaceFrom pattern new skip text) = Replace.replaceFrom pattern new skip (plain text) := by
  induction text generalizing skip with
  | nil =>
    cases skip with
    | zero => rfl
    | succ skip => rfl
  | cons c cs ih =>
    cases skip with
    | succ skip => exact ih skip
    | zero =>
      have hplain : plain (c :: cs) = c.1 :: plain cs := rfl
      rw [replaceFrom, hplain, Replace.replaceFrom]
      split
      · rw [plain_append, plain_unmarked, ih]
      · exact congrArg (c.1 :: ·) (ih 0)

theorem plain_replaceAll (text : MarkedText α) :
    plain (replaceAll pattern new text) = Replace.replaceAll pattern new (plain text) :=
  plain_replaceFrom 0 text

theorem replaceAll_cons (c : α × Bool) (h : ¬ pattern <+: plain (c :: y)) :
    replaceAll pattern new (c :: y) = c :: replaceAll pattern new y := by
  rw [replaceAll, replaceFrom, if_neg fun hp ↦ h (List.isPrefixOf_iff_prefix.mp hp), replaceAll]

theorem replaceAll_unmarked_append (text : List α) (h : OnlyAtMarks pattern (unmarked text ++ y)) :
    replaceAll pattern new (unmarked text ++ y) = unmarked text ++ replaceAll pattern new y := by
  induction text with
  | nil => rfl
  | cons c text ih =>
    have hcons : unmarked (c :: text) ++ y = (c, false) :: (unmarked text ++ y) := rfl
    rw [hcons] at h ⊢
    have hnot : ¬ pattern <+: plain ((c, false) :: (unmarked text ++ y)) := by
      intro hp
      cases h [] _ _ rfl hp
    rw [replaceAll_cons _ hnot, ih (h.of_append (x := [(c, false)]))]
    rfl

theorem replaceFrom_length_append (x y : MarkedText α) :
    replaceFrom pattern new x.length (x ++ y) = replaceAll pattern new y := by
  induction x with
  | nil => rfl
  | cons c x ih => exact ih

theorem replaceAll_append_of_plain (hne : pattern ≠ []) (hx : plain x = pattern) :
    replaceAll pattern new (x ++ y) = unmarked new ++ replaceAll pattern new y := by
  cases x with
  | nil => exact absurd hx.symm hne
  | cons c x =>
    have hlength : pattern.length - 1 = x.length := by
      rw [← hx, plain, List.length_map]
      rfl
    have hstarts : pattern.isPrefixOf (plain (c :: (x ++ y))) = true := by
      rw [List.isPrefixOf_iff_prefix, ← hx, ← List.cons_append, plain_append]
      exact List.prefix_append _ _
    rw [List.cons_append, replaceAll, replaceFrom, if_pos hstarts, hlength,
      replaceFrom_length_append]

end MarkedText

end AdkGateway.Foundation.Replace
