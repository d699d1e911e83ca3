import AdkGateway.Foundation.Interleaving
import Mathlib.Logic.Function.Basic

namespace AdkGateway.Foundation

/-- Things that calls make and are to get rid of again: which of them are there, which have ever
been made, which one a call has on its hands, and which it has made. -/
structure Holding (σ π α : Type) where
  live : σ → α → Prop
  used : σ → α → Prop
  holds : π → Option α
  made : π → List α

namespace Holding

open Interleaving

variable {σ π α : Type}

structure Kept (H : Holding σ π α) (s : σ) (ps : List π) : Prop where
  held : ∀ x, H.live s x → ∃ p ∈ ps, H.holds p = some x
  own : ∀ p ∈ ps, ∀ x ∈ H.made p, H.used s x ∧ (H.live s x → H.holds p = some x)

/-- What a call may do: it makes what is new and takes it on its hands, and it lets go of what is
not there any more. -/
structure Handles (H : Holding σ π α) (s : σ) (p : π) (s' : σ) (p' : π) : Prop where
  used : ∀ x, H.used s x → H.used s' x
  live : ∀ x, H.live s' x → H.live s x ∨ ¬ H.used s x ∧ H.holds p' = some x
  holds : ∀ x, H.live s' x → H.holds p = some x → H.holds p' = some x
  made : ∀ x ∈ H.made p', x ∈ H.made p ∨ H.used s' x ∧ H.holds p' = some x

variable {H : Holding σ π α} {s s' : σ} {ps l r : List π} {p p' : π}

theorem handles_of_same (hused : ∀ x, H.used s x → H.used s' x)
    (hlive : ∀ x, H.live s' x → H.live s x) (hholds : H.holds p' = H.holds p)
    (hmade : H.made p' = H.made p) : H.Handles s p s' p' where
  used := hused
  live _ hx := .inl (hlive _ hx)
  holds _ _ hx := hholds.trans hx
  made _ hx := .inl (hmade ▸ hx)

theorem kept_nil (h : ∀ x, ¬ H.live s x) : H.Kept s [] where
  held x hx := absurd hx (h x)
  own _ hp := by cases hp

theorem Kept.start (h : H.Kept s (l ++ r)) (hp : H.made p = []) : H.Kept s (l ++ p :: r) where
  held x hx := by
    obtain ⟨q, hq, hholds⟩ := h.held x hx
    exact ⟨q, mem_middle.mpr (.inl hq), hholds⟩
  own q hq x hx := by
    rcases mem_middle.mp hq with hq | rfl
    · exact h.own q hq x hx
    · rw [hp] at hx
      cases hx

theorem Kept.finish (h : H.Kept s (l ++ p :: r)) (hp : H.holds p = none) : H.Kept s (l ++ r) where
  held x hx := by
    obtain ⟨q, hq, hholds⟩ := h.held x hx
    rcases mem_middle.mp hq with hq | rfl
    · exact ⟨q, hq, hholds⟩
    · cases hp.symm.trans hholds
  own q hq := h.own q (mem_middle.mpr (.inl hq))

theorem Kept.step (h : H.Kept s (l ++ p :: r)) (hp : H.Handles s p s' p') :
    H.Kept s' (l ++ p' :: r) where
  held x hx := by
    rcases hp.live x hx with hlive | ⟨-, hholds⟩
    · obtain ⟨q, hq, hholds⟩ := h.held x hlive
      rcases mem_middle.mp hq with hq | rfl
      · exact ⟨q, mem_middle.mpr (.inl hq), hholds⟩
      · exact ⟨p', mem_middle.mpr (.inr rfl), hp.holds x hx hholds⟩
    · exact ⟨p', mem_middle.mpr (.inr rfl), hholds⟩
  own q hq x hx := by
    rcases mem_middle.mp hq with hq | rfl
    · obtain ⟨hused, hown⟩ := h.own q (mem_middle.mpr (.inl hq)) x hx
      refine ⟨hp.used x hused, fun hlive ↦ ?_⟩
      rcases hp.live x hlive with hlive | ⟨hnew, -⟩
      · exact hown hlive
      · exact absurd hused hnew
    · rcases hp.made x hx with hx | ⟨hused, hholds⟩
      · obtain ⟨hused, hown⟩ := h.own p (mem_middle.mpr (.inr rfl)) x hx
        refine ⟨hp.used x hused, fun hlive ↦ ?_⟩
        rcases hp.live x hlive with hbefore | ⟨hnew, -⟩
        · exact hp.holds x hlive (hown hbefore)
        · exact absurd hused hnew
      · exact ⟨hused, fun _ ↦ hholds⟩

/-- Nothing is left of what a call has made that has nothing on its hands. -/
theorem Kept.gone (h : H.Kept s ps) (hp : p ∈ ps) (hnone : H.holds p = none) {x : α}
    (hx : x ∈ H.made p) : ¬ H.live s x := by
  intro hlive
  cases hnone.symm.trans ((h.own p hp x hx).2 hlive)

end Holding

end AdkGateway.Foundation

namespace AdkGateway.Foundation.Custody

variable {π τ : Type} [DecidableEq π] {keeps : π → Option τ} {p q : π} {t u : τ}

def Exclusive (keeps : π → Option τ) : Prop :=
  ∀ p q t, keeps p = some t → keeps q = some t → p = q

def Kept (keeps : π → Option τ) (t : τ) : Prop := ∃ p, keeps p = some t

def drop (p : π) (keeps : π → Option τ) : π → Option τ := Function.update keeps p none

def give (p : π) (t : τ) (keeps : π → Option τ) : π → Option τ := Function.update keeps p (some t)

/-- What was kept in `q` is lost. -/
def move (p q : π) (keeps : π → Option τ) : π → Option τ :=
  drop p (Function.update keeps q (keeps p))

theorem drop_eq_some_iff : drop p keeps q = some t ↔ q ≠ p ∧ keeps q = some t := by
  rw [drop, Function.update_apply]
  split
  next h => simp [h]
  next h => simp [h]

theorem give_eq_some_iff : give p t keeps q = some u ↔ q = p ∧ u = t ∨ q ≠ p ∧ keeps q = some u := by
  rw [give, Function.update_apply]
  split
  next h => simp [h, eq_comm]
  next h => simp [h]

theorem move_eq_some_iff {r : π} (hne : p ≠ q) : move p q keeps r = some t ↔
    r = q ∧ keeps p = some t ∨ r ≠ p ∧ r ≠ q ∧ keeps r = some t := by
  rw [move, drop_eq_some_iff, Function.update_apply]
  split
  next h => simp [h, hne.symm]
  next h => simp [h]

theorem drop_of_none (h : keeps p = none) : drop p keeps = keeps := by
  rw [drop, ← h, Function.update_eq_self]

theorem move_of_none (hp : keeps p = none) (hq : keeps q = none) : move p q keeps = keeps := by
  rw [move, hp, ← hq, Function.update_eq_self, drop_of_none hp]

theorem exclusive_drop (h : Exclusive keeps) : Exclusive (drop p keeps) := by
  intro q r t hq hr
  exact h q r t (drop_eq_some_iff.mp hq).2 (drop_eq_some_iff.mp hr).2

theorem exclusive_give (h : Exclusive keeps) (hnew : ¬ Kept keeps t) :
    Exclusive (give p t keeps) := by
  intro q r u hq hr
  rcases give_eq_some_iff.mp hq with ⟨rfl, rfl⟩ | ⟨-, hq'⟩
  · rcases give_eq_some_iff.mp hr with ⟨rfl, -⟩ | ⟨-, hr'⟩
    · rfl
    · exact absurd ⟨r, hr'⟩ hnew
  · rcases give_eq_some_iff.mp hr with ⟨-, rfl⟩ | ⟨-, hr'⟩
    · exact absurd ⟨q, hq'⟩ hnew
    · exact h q r u hq' hr'

theorem exclusive_move (h : Exclusive keeps) (hne : p ≠ q) : Exclusive (move p q keeps) := by
  intro r r' t hr hr'
  rcases (move_eq_some_iff hne).mp hr with ⟨rfl, hp⟩ | ⟨hrp, -, hkeeps⟩
  · rcases (move_eq_some_iff hne).mp hr' with ⟨rfl, -⟩ | ⟨hrp, -, hkeeps⟩
    · rfl
    · exact absurd (h r' p t hkeeps hp) hrp
  · rcases (move_eq_some_iff hne).mp hr' with ⟨rfl, hp⟩ | ⟨-, -, hkeeps'⟩
    · exact absurd (h r p t hkeeps hp) hrp
    · exact h r r' t hkeeps hkeeps'

/-- An item is lost just by dropping it. -/
theorem kept_drop_iff (h : Exclusive keeps) :
    Kept (drop p keeps) t ↔ Kept keeps t ∧ keeps p ≠ some t := by
  constructor
  · intro ⟨q, hq⟩
    obtain ⟨hne, hq⟩ := drop_eq_some_iff.mp hq
    exact ⟨⟨q, hq⟩, fun hp ↦ hne (h q p t hq hp)⟩
  · intro ⟨⟨q, hq⟩, hp⟩
    refine ⟨q, drop_eq_some_iff.mpr ⟨?_, hq⟩⟩
    intro heq
    exact hp (heq ▸ hq)

theorem kept_give (hp : keeps p = none) (h : Kept keeps u) : Kept (give p t keeps) u := by
  obtain ⟨q, hq⟩ := h
  refine ⟨q, give_eq_some_iff.mpr (.inr ⟨?_, hq⟩)⟩
  intro heq
  rw [heq, hp] at hq
  cases hq

theorem kept_move_iff (h : Exclusive keeps) (hne : p ≠ q) :
    Kept (move p q keeps) t ↔ Kept keeps t ∧ keeps q ≠ some t := by
  constructor
  · intro ⟨r, hr⟩
    rcases (move_eq_some_iff hne).mp hr with ⟨rfl, hp⟩ | ⟨-, hrq, hr⟩
    · exact ⟨⟨p, hp⟩, fun hq ↦ hne (h p r t hp hq)⟩
    · exact ⟨⟨r, hr⟩, fun hq ↦ hrq (h r q t hr hq)⟩
  · intro ⟨⟨r, hr⟩, hq⟩
    have hrq : r ≠ q := by
      intro heq
      exact hq (heq ▸ hr)
    by_cases hrp : r = p
    · exact ⟨q, (move_eq_some_iff hne).mpr (.inl ⟨rfl, hrp ▸ hr⟩)⟩
    · exact ⟨r, (move_eq_some_iff hne).mpr (.inr ⟨hrp, hrq, hr⟩)⟩

end AdkGateway.Foundation.Custody
