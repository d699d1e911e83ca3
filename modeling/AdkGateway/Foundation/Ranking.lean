import Mathlib.Data.List.DropRight
import Mathlib.Data.List.Infix
import Mathlib.Order.Lattice

namespace AdkGateway.Foundation.Ranking

variable {α κ : Type} [LinearOrder κ] (key : α → κ)

/-- The elements of a list, those with the greater keys first; those with one key in any order. -/
structure Ranked (l ranked : List α) : Prop where
  perm : ranked.Perm l
  sorted : ranked.Pairwise fun a b ↦ key b ≤ key a

structure Top (n : ℕ) (l top : List α) : Prop where
  length : top.length = min n l.length
  sorted : top.Pairwise fun a b ↦ key b ≤ key a
  rest : ∃ rest, (top ++ rest).Perm l ∧ ∀ a ∈ top, ∀ b ∈ rest, key b ≤ key a

structure StrictTop (n : ℕ) (l top : List α) : Prop where
  length : top.length = min n l.length
  sorted : top.Pairwise fun a b ↦ key b < key a
  rest : ∃ rest, (top ++ rest).Perm l ∧ ∀ a ∈ top, ∀ b ∈ rest, key b < key a

def byKey (a b : α) : Bool := decide (key b ≤ key a)

theorem ranked_mergeSort (l : List α) : Ranked key l (l.mergeSort (byKey key)) where
  perm := List.mergeSort_perm l _
  sorted := by
    have hsorted := @List.pairwise_mergeSort _ (byKey key)
      (fun a b c hab hbc ↦ by
        simp only [byKey, decide_eq_true_eq] at hab hbc ⊢
        exact le_trans hbc hab)
      (fun a b ↦ by
        simp only [byKey, Bool.or_eq_true, decide_eq_true_eq]
        exact le_total (key b) (key a)) l
    exact hsorted.imp fun h ↦ of_decide_eq_true h

variable {key} {n : ℕ} {l top ranked : List α}

/-- Whatever the order of equal keys, a list begins with a strict top. -/
theorem StrictTop.take_eq (h : StrictTop key n l top) (hranked : Ranked key l ranked) :
    ranked.take n = top := by
  obtain ⟨hlength, hsorted, rest, hperm, hrest⟩ := h
  obtain ⟨hp, hs⟩ := hranked
  induction top generalizing n l ranked with
  | nil =>
    rw [List.take_eq_nil_iff]
    rw [List.length_nil] at hlength
    rcases (Nat.min_eq_zero_iff.mp hlength.symm) with hn | hl
    · exact .inl hn
    · exact .inr (List.length_eq_zero_iff.mp (hp.length_eq.trans hl))
  | cons a top ih =>
    have hall := hp.trans hperm.symm
    obtain ⟨m, rfl⟩ : ∃ m, n = m + 1 := Nat.exists_eq_succ_of_ne_zero (by
      rintro rfl
      simp at hlength)
    cases ranked with
    | nil => exact absurd hall.symm.eq_nil (List.cons_ne_nil _ _)
    | cons b ranked =>
      obtain ⟨hmax, hless⟩ := List.pairwise_cons.mp hs
      obtain ⟨htop, htops⟩ := List.pairwise_cons.mp hsorted
      have hab : b = a := by
        rcases List.mem_cons.mp (hall.mem_iff.mp List.mem_cons_self) with heq | hmem
        · exact heq
        · -- all the others are below the first, which would not be below them
          have hlt : key b < key a := by
            rcases List.mem_append.mp hmem with hb | hb
            · exact htop b hb
            · exact hrest a List.mem_cons_self b hb
          rcases List.mem_cons.mp (hall.mem_iff.mpr List.mem_cons_self) with heq | ha
          · exact heq.symm
          · exact absurd (hmax a ha) (not_le.mpr hlt)
      subst hab
      rw [List.take_succ_cons]
      refine congrArg (b :: ·) (ih ?_ htops .rfl ?_ ?_ hless)
      · have hlen := hperm.length_eq
        simp only [List.cons_append, List.length_cons, List.length_append] at hlen hlength ⊢
        omega
      · exact fun c hc ↦ hrest c (List.mem_cons_of_mem _ hc)
      · exact hall.cons_inv

/-- What a strict top leaves is known up to its order. -/
theorem StrictTop.lt_of_perm (h : StrictTop key n l top) {rest : List α}
    (hperm : (top ++ rest).Perm l) : ∀ a ∈ top, ∀ b ∈ rest, key b < key a := by
  obtain ⟨rest', hperm', hlt⟩ := h.rest
  have hsame : rest.Perm rest' := (List.perm_append_left_iff top).mp (hperm.trans hperm'.symm)
  exact fun a ha b hb ↦ hlt a ha b (hsame.mem_iff.mp hb)

theorem Top.le_of_perm (h : Top key n l top) {rest : List α} (hperm : (top ++ rest).Perm l) :
    ∀ a ∈ top, ∀ b ∈ rest, key b ≤ key a := by
  obtain ⟨rest', hperm', hle⟩ := h.rest
  have hsame : rest.Perm rest' := (List.perm_append_left_iff top).mp (hperm.trans hperm'.symm)
  exact fun a ha b hb ↦ hle a ha b (hsame.mem_iff.mp hb)

/-- Where two elements side by side have one key, they can change places. -/
theorem Ranked.swap {before after : List α} {a b : α}
    (h : Ranked key l (before ++ a :: b :: after)) (hab : key a = key b) :
    Ranked key l (before ++ b :: a :: after) where
  perm := ((List.Perm.swap a b after).append_left before).trans h.perm
  sorted := by
    have hs := h.sorted
    rw [List.pairwise_append] at hs ⊢
    obtain ⟨hbefore, hafter, hcross⟩ := hs
    rw [List.pairwise_cons, List.pairwise_cons] at hafter
    obtain ⟨ha, hb, hafter⟩ := hafter
    refine ⟨hbefore, ?_, ?_⟩
    · refine .cons ?_ (.cons ?_ hafter)
      · intro c hc
        rcases List.mem_cons.mp hc with rfl | hc
        · exact hab.le
        · exact hb c hc
      · exact fun c hc ↦ ha c (List.mem_cons_of_mem b hc)
    · intro c hc d hd
      refine hcross c hc d ?_
      simpa only [List.mem_cons, or_left_comm] using hd

/-- Where all orders begin alike, no key of the beginning comes again. -/
theorem lt_of_forall_take_eq (hnodup : l.Nodup) (h : ∀ ranked, Ranked key l ranked →
    ranked.take n = top) {before after : List α} {a : α}
    (hranked : Ranked key l (before ++ a :: after)) (hn : before.length < n) :
    ∀ b ∈ after, key b < key a := by
  have hs := (List.pairwise_cons.mp (List.pairwise_append.mp hranked.sorted).2.1)
  cases after with
  | nil => simp
  | cons b after =>
    have hba : key b < key a := by
      refine lt_of_le_of_ne (hs.1 b List.mem_cons_self) fun heq ↦ ?_
      have hsame := (h _ hranked).trans (h _ (hranked.swap heq.symm)).symm
      rw [List.take_append, List.take_append, List.append_right_inj] at hsame
      obtain ⟨k, hk⟩ : ∃ k, n - before.length = k + 1 :=
        Nat.exists_eq_succ_of_ne_zero (by omega)
      rw [hk, List.take_succ_cons, List.take_succ_cons, List.cons.injEq] at hsame
      have hdistinct := (hranked.perm.nodup_iff.mpr hnodup)
      rw [hsame.1] at hdistinct
      exact absurd (List.nodup_append.mp hdistinct).2.1 (by simp)
    intro c hc
    rcases List.mem_cons.mp hc with rfl | hc
    · exact hba
    · exact lt_of_le_of_lt ((List.pairwise_cons.mp hs.2).1 c hc) hba

theorem forall_take_eq_iff (hnodup : l.Nodup) :
    (∀ ranked, Ranked key l ranked → ranked.take n = top) ↔ StrictTop key n l top := by
  refine ⟨fun h ↦ ?_, fun h ranked hranked ↦ h.take_eq hranked⟩
  have hranked := ranked_mergeSort key l
  have htop := h _ hranked
  generalize l.mergeSort (byKey key) = ranked at hranked htop
  have hlt (i j : ℕ) (hi : i < ranked.length) (hj : j < ranked.length) (hij : i < j) (hin : i < n) :
      key ranked[j] < key ranked[i] := by
    have hsplit : ranked = ranked.take i ++ ranked[i] :: ranked.drop (i + 1) := by
      rw [List.getElem_cons_drop, List.take_append_drop]
    refine lt_of_forall_take_eq hnodup h (hsplit ▸ hranked) ?_ _ ?_
    · rw [List.length_take]
      omega
    · rw [List.mem_drop_iff_getElem]
      exact ⟨j - (i + 1), by omega, by congr 1; omega⟩
  subst htop
  refine ⟨by rw [List.length_take, hranked.perm.length_eq], ?_, ranked.drop n, ?_, ?_⟩
  · rw [List.pairwise_iff_getElem]
    intro i j hi hj hij
    rw [List.length_take] at hi hj
    rw [List.getElem_take, List.getElem_take]
    exact hlt i j (by omega) (by omega) hij (by omega)
  · rw [List.take_append_drop]
    exact hranked.perm
  · intro a ha b hb
    obtain ⟨i, hi, rfl⟩ := List.mem_take_iff_getElem.mp ha
    obtain ⟨j, hj, rfl⟩ := List.mem_drop_iff_getElem.mp hb
    exact hlt i (n + j) (by omega) (by omega) (by omega) (by omega)

end AdkGateway.Foundation.Ranking
