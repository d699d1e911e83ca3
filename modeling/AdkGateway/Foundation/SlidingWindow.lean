import Mathlib.Data.List.Basic
import Mathlib.Order.Lattice
import Mathlib.Order.Monotone.Defs
import Mathlib.Order.Nat

namespace AdkGateway.Foundation

variable {τ : Type} [Preorder τ]

structure Horizon (τ : Type) [Preorder τ] where
  live : τ → τ → Bool
  live_of_newer : ∀ {now t t' : τ}, live now t = true → t ≤ t' → live now t' = true
  live_of_earlier : ∀ {now later t : τ}, live later t = true → now ≤ later → live now t = true

namespace Horizon

variable (h : Horizon τ) {now later : τ} {l : List τ}

def prune (now : τ) (l : List τ) : List τ := l.dropWhile fun t ↦ !h.live now t

def recent (now : τ) (l : List τ) : List τ := l.filter (h.live now)

theorem recent_append (now : τ) (l l' : List τ) :
    h.recent now (l ++ l') = h.recent now l ++ h.recent now l' := List.filter_append l l'

/-- In a history in order of time the expired entries are all in front. -/
theorem prune_eq_recent (hl : l.Pairwise (· ≤ ·)) : h.prune now l = h.recent now l := by
  induction l with
  | nil => rfl
  | cons t l ih =>
    obtain ⟨hle, hl⟩ := List.pairwise_cons.mp hl
    cases ht : h.live now t with
    | false =>
      rw [prune, List.dropWhile_cons_of_pos (by simp [ht]), recent,
        List.filter_cons_of_neg (by simp [ht])]
      exact ih hl
    | true =>
      have hall : ∀ t' ∈ l, h.live now t' = true := fun t' ht' ↦ h.live_of_newer ht (hle t' ht')
      rw [prune, List.dropWhile_cons_of_neg (by simp [ht]), recent, List.filter_cons_of_pos ht,
        List.filter_eq_self.mpr hall]

theorem recent_recent (hle : now ≤ later) : h.recent later (h.recent now l) = h.recent later l := by
  rw [recent, recent, List.filter_filter, recent]
  refine List.filter_congr fun t _ ↦ ?_
  cases ht : h.live later t with
  | false => rfl
  | true => rw [h.live_of_earlier ht hle]; rfl

theorem pairwise_recent (hl : l.Pairwise (· ≤ ·)) : (h.recent now l).Pairwise (· ≤ ·) :=
  hl.filter _

theorem length_recent_le (hle : now ≤ later) : (h.recent later l).length ≤ (h.recent now l).length := by
  rw [← h.recent_recent hle]
  exact List.length_filter_le _ _

end Horizon

section Spans

variable {τ : Type} [LinearOrder τ] {reach : τ → τ} {l : List τ} {k : ℕ}

/-- The entries of a span of time: from a point as far as it reaches. -/
def within (reach : τ → τ) (t : τ) (l : List τ) : List τ := l.filter fun p ↦ t ≤ p ∧ p ≤ reach t

/-- Entries more than so many places apart are too far apart for one span. -/
def Apart (reach : τ → τ) (k : ℕ) (l : List τ) : Prop :=
  ∀ i a b, l[i]? = some a → l[i + k]? = some b → reach a < b

theorem Apart.infix_append {l₁ l₂ : List τ} (h : Apart reach k (l₁ ++ (l ++ l₂))) :
    Apart reach k l := by
  intro i a b ha hb
  have hget {j : ℕ} {c : τ} (hc : l[j]? = some c) : (l₁ ++ (l ++ l₂))[l₁.length + j]? = some c := by
    rw [List.getElem?_append_right (Nat.le_add_right _ _), Nat.add_sub_cancel_left,
      List.getElem?_append_left (List.getElem?_eq_some_iff.mp hc).1, hc]
  refine h (l₁.length + i) a b (hget ha) ?_
  rw [Nat.add_assoc]
  exact hget hb

theorem length_within_of_apart (hreach : Monotone reach) (hl : l.Pairwise (· ≤ ·))
    (h : Apart reach k l) (t : τ) : (within reach t l).length ≤ k := by
  induction l with
  | nil => exact Nat.zero_le k
  | cons a l ih =>
    obtain ⟨hle, hpairwise⟩ := List.pairwise_cons.mp hl
    have hrest : Apart reach k l := fun i a b ha hb ↦ h (i + 1) a b ha (by
      rw [Nat.add_right_comm, List.getElem?_cons_succ]
      exact hb)
    by_cases ht : t ≤ a
    · -- nothing from the place `k` on is in reach of `t`
      have hfar : ∀ b ∈ (a :: l).drop k, reach t < b := by
        intro b hb
        obtain ⟨c, cs, hdrop⟩ := List.exists_cons_of_ne_nil (List.ne_nil_of_mem hb)
        have hc : (a :: l)[0 + k]? = some c := by
          rw [Nat.zero_add, ← List.head?_drop, hdrop, List.head?_cons]
        have hlt : reach t < c := (hreach ht).trans_lt (h 0 a c rfl hc)
        have hdropped : (c :: cs).Pairwise (· ≤ ·) := hdrop ▸ hl.sublist (List.drop_sublist k _)
        rw [hdrop] at hb
        obtain rfl | hb := List.mem_cons.mp hb
        · exact hlt
        · exact hlt.trans_le ((List.pairwise_cons.mp hdropped).1 b hb)
      have hnone : within reach t ((a :: l).drop k) = [] := by
        refine List.filter_eq_nil_iff.mpr fun b hb ↦ ?_
        simpa using fun _ ↦ hfar b hb
      have hsplit : within reach t (a :: l) = within reach t ((a :: l).take k) := by
        conv_lhs => rw [within, ← List.take_append_drop k (a :: l), List.filter_append]
        rw [show ((a :: l).drop k).filter _ = [] from hnone, List.append_nil, within]
      rw [hsplit]
      exact (List.length_filter_le _ _).trans (List.length_take_le k _)
    · rw [within, List.filter_cons_of_neg (by simp [ht])]
      exact ih hpairwise hrest

theorem apart_of_length_within (hl : l.Pairwise (· ≤ ·))
    (h : ∀ t, (within reach t l).length ≤ k) : Apart reach k l := by
  intro i a b ha hb
  by_contra hlt
  have hle : b ≤ reach a := not_lt.mp hlt
  obtain ⟨hi, rfl⟩ := List.getElem?_eq_some_iff.mp ha
  obtain ⟨hk, rfl⟩ := List.getElem?_eq_some_iff.mp hb
  have hall : ∀ p ∈ (l.drop i).take (k + 1), l[i] ≤ p ∧ p ≤ reach l[i] := by
    intro p hp
    obtain ⟨j, hj, rfl⟩ := List.mem_iff_getElem.mp hp
    rw [List.length_take, List.length_drop] at hj
    rw [List.getElem_take, List.getElem_drop]
    have hmono : ∀ {m n} (hm : m < l.length) (hn : n < l.length), m ≤ n → l[m] ≤ l[n] := by
      intro m n hm hn hmn
      obtain rfl | hlt := hmn.eq_or_lt
      · exact le_rfl
      · exact List.pairwise_iff_getElem.mp hl m n hm hn hlt
    exact ⟨hmono hi _ (by omega), (hmono _ hk (by omega)).trans hle⟩
  have hcount := (((List.take_sublist (k + 1) (l.drop i)).trans (List.drop_sublist i l)).filter
    fun p ↦ decide (l[i] ≤ p ∧ p ≤ reach l[i])).length_le
  rw [List.filter_eq_self.mpr fun p hp ↦ decide_eq_true (hall p hp), List.length_take,
    List.length_drop] at hcount
  have hmost : (l.filter fun p ↦ decide (l[i] ≤ p ∧ p ≤ reach l[i])).length ≤ k := h l[i]
  omega

/-- No span has more than so many entries if and only if entries so many places apart are too far
apart for one. -/
theorem apart_iff (hreach : Monotone reach) (hl : l.Pairwise (· ≤ ·)) :
    Apart reach k l ↔ ∀ t, (within reach t l).length ≤ k :=
  ⟨length_within_of_apart hreach hl, apart_of_length_within hl⟩

end Spans

end AdkGateway.Foundation
