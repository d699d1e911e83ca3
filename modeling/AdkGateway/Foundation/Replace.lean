import Mathlib.Data.List.Basic
import Mathlib.Data.List.Infix

namespace AdkGateway.Foundation.Replace

variable {α β : Type} [DecidableEq α]

/-- What becomes of a text of which so many characters are still of the last occurrence. -/
def replaceFrom (pattern new : List α) : ℕ → List α → List α
  | _, [] => []
  | skip + 1, _ :: cs => replaceFrom pattern new skip cs
  | 0, c :: cs =>
    if pattern.isPrefixOf (c :: cs) then new ++ replaceFrom pattern new (pattern.length - 1) cs
    else c :: replaceFrom pattern new 0 cs

def replaceAll (pattern new text : List α) : List α := replaceFrom pattern new 0 text

section Separator

variable {pattern new : List α} {q : α}

theorem isPrefixOf_append_cons (hq : q ∉ pattern) (x y : List α) :
    pattern.isPrefixOf (x ++ q :: y) = pattern.isPrefixOf x := by
  rw [Bool.eq_iff_iff, List.isPrefixOf_iff_prefix, List.isPrefixOf_iff_prefix]
  induction x generalizing pattern with
  | nil =>
    cases pattern with
    | nil => simp
    | cons p ps =>
      have hp : p ≠ q := fun h ↦ hq (h ▸ List.mem_cons_self)
      simp [List.cons_prefix_cons, hp]
  | cons c x ih =>
    cases pattern with
    | nil => simp
    | cons p ps =>
      rw [List.cons_append, List.cons_prefix_cons, List.cons_prefix_cons,
        ih fun h ↦ hq (List.mem_cons_of_mem _ h)]

theorem replaceFrom_append_cons (hne : pattern ≠ []) (hq : q ∉ pattern) (x y : List α) (skip : ℕ)
    (hskip : skip ≤ x.length) :
    replaceFrom pattern new skip (x ++ q :: y) =
      replaceFrom pattern new skip x ++ q :: replaceAll pattern new y := by
  induction x generalizing skip with
  | nil =>
    obtain rfl : skip = 0 := by simpa using hskip
    have hnot : pattern.isPrefixOf (q :: y) = false := by
      have hnil := isPrefixOf_append_cons hq [] y
      rw [List.nil_append] at hnil
      cases pattern with
      | nil => exact absurd rfl hne
      | cons p ps => exact hnil
    simp [replaceFrom, hnot, replaceAll]
  | cons c x ih =>
    cases skip with
    | succ skip => exact ih skip (Nat.le_of_succ_le_succ hskip)
    | zero =>
      have hsame := isPrefixOf_append_cons hq (c :: x) y
      rw [List.cons_append] at hsame
      rw [List.cons_append, replaceFrom, replaceFrom, hsame]
      split
      · next hmatch =>
        have hlength := (List.isPrefixOf_iff_prefix.mp hmatch).length_le
        rw [List.length_cons] at hlength
        rw [ih (pattern.length - 1) (by omega), List.append_assoc]
      · rw [ih 0 (Nat.zero_le _), List.cons_append]

/-- What stands on the two sides of a character that the pattern lacks is replaced by itself. -/
theorem replaceAll_append_cons (hne : pattern ≠ []) (hq : q ∉ pattern) (x y : List α) :
    replaceAll pattern new (x ++ q :: y) = replaceAll pattern new x ++ q :: replaceAll pattern new y :=
  replaceFrom_append_cons hne hq x y 0 (Nat.zero_le _)

/-- What lacks the first character of the pattern stays as it is. -/
theorem replaceAll_append_of_not_mem {p : α} {ps text : List α} (hp : p ∉ text) (y : List α) :
    replaceAll (p :: ps) new (text ++ y) = text ++ replaceAll (p :: ps) new y := by
  induction text with
  | nil => rfl
  | cons c text ih =>
    obtain ⟨hc, htext⟩ := not_or.mp fun h ↦ hp (List.mem_cons.mpr h)
    have hnot : (p :: ps).isPrefixOf (c :: (text ++ y)) = false := by
      simp [List.isPrefixOf, hc]
    have hstep : replaceAll (p :: ps) new (c :: (text ++ y)) =
        c :: replaceAll (p :: ps) new (text ++ y) := by
      rw [replaceAll, replaceFrom, if_neg (Bool.eq_false_iff.mp hnot), replaceAll]
    rw [List.cons_append, hstep, ih htext, List.cons_append]

end Separator

inductive Piece (α β : Type)
  | plain (text : List α)
  | quoted (item : β)

section Render

variable (quote : α) (content : β → List α)

def Piece.render : Piece α β → List α
  | .plain text => text
  | .quoted item => quote :: (content item ++ [quote])

def render (pieces : List (Piece α β)) : List α := pieces.flatMap (Piece.render quote content)

variable {quote content}

/-- In a text that has the first character of the pattern only in what it quotes, and has a
pattern without the mark, the quoted parts are replaced each by itself. -/
theorem replaceAll_render {p : α} {ps new : List α} (hquote : quote ∉ p :: ps)
    {pieces : List (Piece α β)} (hplain : ∀ text, .plain text ∈ pieces → p ∉ text) :
    replaceAll (p :: ps) new (render quote content pieces) =
      render quote (fun item ↦ replaceAll (p :: ps) new (content item)) pieces := by
  have hne : p :: ps ≠ [] := List.cons_ne_nil p ps
  induction pieces with
  | nil => rfl
  | cons piece pieces ih =>
    have hrest := ih fun text htext ↦ hplain text (List.mem_cons_of_mem _ htext)
    rw [render, List.flatMap_cons, render, List.flatMap_cons]
    cases piece with
    | plain text =>
      have hp : p ∉ text := hplain text List.mem_cons_self
      rw [Piece.render, Piece.render, replaceAll_append_of_not_mem hp]
      exact congrArg (text ++ ·) hrest
    | quoted item =>
      have hopen (text : List α) :
          replaceAll (p :: ps) new (quote :: text) = quote :: replaceAll (p :: ps) new text :=
        replaceAll_append_cons hne hquote [] text
      have hclose (text : List α) : replaceAll (p :: ps) new (content item ++ quote :: text) =
          replaceAll (p :: ps) new (content item) ++ quote :: replaceAll (p :: ps) new text :=
        replaceAll_append_cons hne hquote (content item) text
      rw [Piece.render, Piece.render, List.cons_append, List.append_assoc, List.singleton_append,
        hopen, ← render, hclose, hrest, List.cons_append, List.append_assoc, List.singleton_append,
        ← render]

end Render

section Body

/-- What may stand between two quotation marks: an escape takes the next character with it, which is
not one that a pattern begins with. -/
inductive Body (quote esc start : α) : List α → Prop
  | nil : Body quote esc start []
  | char {c cs} : c ≠ quote → c ≠ esc → Body quote esc start cs → Body quote esc start (c :: cs)
  | escape {c cs} : c ≠ start → Body quote esc start cs → Body quote esc start (esc :: c :: cs)

variable {quote esc p : α} {ps new : List α}

omit [DecidableEq α] in
theorem Body.append {x y : List α} (hx : Body quote esc p x) (hy : Body quote esc p y) :
    Body quote esc p (x ++ y) := by
  induction hx with
  | nil => exact hy
  | char hquote hesc _ ih => exact .char hquote hesc ih
  | escape hstart _ ih => exact .escape hstart ih

omit [DecidableEq α] in
theorem Body.flatMap {f : β → List α} (h : ∀ b, Body quote esc p (f b)) (bs : List β) :
    Body quote esc p (bs.flatMap f) := by
  induction bs with
  | nil => exact .nil
  | cons b bs ih => exact (h b).append ih

/-- An occurrence does not begin within an escape, nor does it hold one. -/
theorem Body.replaceFrom {text : List α} (hesc : esc ∉ p :: ps) (hnew : Body quote esc p new)
    (h : Body quote esc p text) (skip : ℕ) (hskip : ∀ c ∈ text.take skip, c ≠ esc) :
    Body quote esc p (Replace.replaceFrom (p :: ps) new skip text) := by
  induction h generalizing skip with
  | nil => exact .nil
  | @char c cs hq he _ ih =>
    cases skip with
    | succ skip => exact ih skip fun d hd ↦ hskip d (List.mem_cons_of_mem _ hd)
    | zero =>
      rw [Replace.replaceFrom]
      split
      · next hmatch =>
        refine hnew.append (ih _ fun d hd ↦ ?_)
        obtain ⟨rest, hrest⟩ := List.isPrefixOf_iff_prefix.mp hmatch
        obtain ⟨-, rfl⟩ := List.cons.inj hrest
        rw [List.length_cons, Nat.add_sub_cancel, List.append_eq, List.take_left] at hd
        exact fun hde ↦ hesc (hde ▸ List.mem_cons_of_mem p hd)
      · exact .char hq he (ih 0 (by simp))
  | @escape c cs hstart _ ih =>
    cases skip with
    | succ skip => exact absurd rfl (hskip esc List.mem_cons_self)
    | zero =>
      have hpe : p ≠ esc := fun hp ↦ hesc (hp ▸ List.mem_cons_self)
      have hpc : p ≠ c := fun hp ↦ hstart hp.symm
      simp only [Replace.replaceFrom, List.isPrefixOf, beq_eq_false_iff_ne.mpr hpe,
        beq_eq_false_iff_ne.mpr hpc, Bool.false_and, Bool.false_eq_true, if_false]
      exact .escape hstart (ih 0 (by simp))

theorem Body.replaceAll {text : List α} (hesc : esc ∉ p :: ps) (hnew : Body quote esc p new)
    (h : Body quote esc p text) : Body quote esc p (Replace.replaceAll (p :: ps) new text) :=
  Body.replaceFrom hesc hnew h 0 (by simp)

end Body

theorem replaceAll_singleton (x : α) (new text : List α) :
    replaceAll [x] new text = text.flatMap fun c ↦ if c = x then new else [c] := by
  induction text with
  | nil => rfl
  | cons c text ih =>
    rw [List.flatMap_cons, ← ih, replaceAll, replaceFrom]
    by_cases hc : c = x
    · rw [if_pos hc, hc, if_pos (by simp [List.isPrefixOf])]
      rfl
    · rw [if_neg hc, if_neg (by simpa [List.isPrefixOf] using Ne.symm hc)]
      rfl

end AdkGateway.Foundation.Replace
