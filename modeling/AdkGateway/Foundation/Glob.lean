import Mathlib.Data.List.Infix

namespace AdkGateway.Foundation.Glob

variable {α : Type} {star : α}

inductive Matches (star : α) : List α → List α → Prop
  | nil : Matches star [] []
  | char {a : α} {pattern text : List α} : a ≠ star → Matches star pattern text →
      Matches star (a :: pattern) (a :: text)
  | star {pattern text : List α} (s : List α) : Matches star pattern text →
      Matches star (star :: pattern) (s ++ text)

variable {pattern pattern' text text' : List α}

theorem Matches.append (h : Matches star pattern text) (h' : Matches star pattern' text') :
    Matches star (pattern ++ pattern') (text ++ text') := by
  induction h with
  | nil => exact h'
  | char hne _ ih => exact .char hne ih
  | star s _ ih =>
    rw [List.append_assoc]
    exact .star s ih

theorem Matches.exists_of_append (h : Matches star (pattern ++ pattern') text) :
    ∃ before after, text = before ++ after ∧ Matches star pattern before ∧
      Matches star pattern' after := by
  induction pattern generalizing text with
  | nil => exact ⟨[], text, rfl, .nil, h⟩
  | cons a pattern ih =>
    cases h with
    | char hne h =>
      obtain ⟨before, after, rfl, hbefore, hafter⟩ := ih h
      exact ⟨a :: before, after, rfl, .char hne hbefore, hafter⟩
    | star s h =>
      obtain ⟨before, after, rfl, hbefore, hafter⟩ := ih h
      exact ⟨s ++ before, after, (List.append_assoc _ _ _).symm, .star s hbefore, hafter⟩

theorem matches_star (text : List α) : Matches star [star] text := by
  have h : Matches star [star] (text ++ []) := .star text .nil
  rwa [List.append_nil] at h

theorem matches_literal (h : star ∉ pattern) : Matches star pattern text ↔ text = pattern := by
  induction pattern generalizing text with
  | nil =>
    constructor
    · intro hmatch
      cases hmatch
      rfl
    · intro heq
      rw [heq]
      exact .nil
  | cons a pattern ih =>
    obtain ⟨hne, hrest⟩ := not_or.mp fun hor ↦ h (List.mem_cons.mpr hor)
    constructor
    · intro hmatch
      cases hmatch with
      | char _ hmatch => rw [(ih hrest).mp hmatch]
      | star => exact absurd rfl hne
    · intro heq
      rw [heq]
      exact .char (Ne.symm hne) ((ih hrest).mpr rfl)

theorem matches_concat_star (h : star ∉ pattern) :
    Matches star (pattern ++ [star]) text ↔ pattern <+: text := by
  constructor
  · intro hmatch
    obtain ⟨before, after, rfl, hbefore, -⟩ := hmatch.exists_of_append
    rw [(matches_literal h).mp hbefore]
    exact List.prefix_append _ _
  · intro hstarts
    obtain ⟨rest, rfl⟩ := hstarts
    exact ((matches_literal h).mpr rfl).append (matches_star rest)

theorem matches_cons_star (h : star ∉ pattern) :
    Matches star (star :: pattern) text ↔ pattern <:+ text := by
  constructor
  · intro hmatch
    rw [← List.singleton_append] at hmatch
    obtain ⟨before, after, rfl, -, hafter⟩ := hmatch.exists_of_append
    rw [(matches_literal h).mp hafter]
    exact List.suffix_append _ _
  · intro hends
    obtain ⟨s, rfl⟩ := hends
    exact .star s ((matches_literal h).mpr rfl)

theorem matches_between_stars (h : star ∉ pattern) :
    Matches star (star :: (pattern ++ [star])) text ↔ pattern <:+: text := by
  constructor
  · intro hmatch
    rw [← List.singleton_append] at hmatch
    obtain ⟨before, after, rfl, -, hafter⟩ := hmatch.exists_of_append
    exact ((matches_concat_star h).mp hafter).isInfix.trans (List.suffix_append _ _).isInfix
  · intro hinside
    obtain ⟨s, rest, rfl⟩ := hinside
    rw [List.append_assoc]
    exact .star s ((matches_concat_star h).mpr (List.prefix_append _ _))

theorem matches_filter [DecidableEq α] (pattern : List α) :
    Matches star pattern (pattern.filter fun a ↦ a ≠ star) := by
  induction pattern with
  | nil => exact .nil
  | cons a pattern ih =>
    by_cases h : a = star
    · subst h
      rw [List.filter_cons_of_neg (by simp)]
      exact .star [] ih
    · rw [List.filter_cons_of_pos (by simpa using h)]
      exact .char h ih

end AdkGateway.Foundation.Glob
