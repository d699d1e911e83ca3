import Mathlib.Data.List.Destutter
import Mathlib.Order.Nat

namespace AdkGateway.Foundation.Removal

variable {α : Type}

def pick : (ℕ → Bool) → List α → List α
  | _, [] => []
  | keep, a :: l =>
    if keep 0 then a :: pick (fun i ↦ keep (i + 1)) l else pick (fun i ↦ keep (i + 1)) l

/-- Positions are sorted, and those marked more than once are marked once. -/
def sorted (marks : List ℕ) : List ℕ := (marks.mergeSort fun i j ↦ decide (i ≤ j)).destutter (· ≠ ·)

def removeAll (marks : List ℕ) (l : List α) : List α :=
  (sorted marks).reverse.foldl (fun l i ↦ l.eraseIdx i) l

section Sorted

variable {marks : List ℕ} {i : ℕ}

theorem mem_destutter' {l : List ℕ} {a : ℕ} : i ∈ l.destutter' (· ≠ ·) a ↔ i = a ∨ i ∈ l := by
  induction l generalizing a with
  | nil => simp
  | cons b l ih =>
    by_cases hab : a = b
    · subst hab
      rw [List.destutter'_cons_neg l fun h ↦ h rfl, ih, List.mem_cons, or_self_left]
    · rw [List.destutter'_cons_pos l hab, List.mem_cons, ih, List.mem_cons]

theorem mem_sorted : i ∈ sorted marks ↔ i ∈ marks := by
  have hperm := List.mergeSort_perm marks fun i j ↦ decide (i ≤ j)
  rw [sorted, ← hperm.mem_iff]
  cases marks.mergeSort fun i j ↦ decide (i ≤ j) with
  | nil => rfl
  | cons a l => rw [List.destutter_cons', mem_destutter', List.mem_cons]

theorem pairwise_lt {l : List ℕ} (hle : l.Pairwise (· ≤ ·)) (hne : l.IsChain (· ≠ ·)) :
    l.Pairwise (· < ·) := by
  induction l with
  | nil => exact .nil
  | cons a l ih =>
    obtain ⟨hfirst, hrest⟩ := List.pairwise_cons.mp hle
    have hlater := ih hrest (List.isChain_of_isChain_cons hne)
    refine List.pairwise_cons.mpr ⟨?_, hlater⟩
    intro i hi
    cases l with
    | nil => cases hi
    | cons b l =>
      have hab := hfirst b List.mem_cons_self
      have hdiffer : a ≠ b := (List.isChain_cons_cons.mp hne).1
      rcases List.mem_cons.mp hi with rfl | hi
      · omega
      · have hbi := (List.pairwise_cons.mp hlater).1 i hi
        omega

theorem pairwise_sorted (marks : List ℕ) : (sorted marks).Pairwise (· < ·) := by
  have htrans : ∀ i j k : ℕ, decide (i ≤ j) = true → decide (j ≤ k) = true →
      decide (i ≤ k) = true := by
    intro i j k hij hjk
    rw [decide_eq_true_eq] at hij hjk ⊢
    exact hij.trans hjk
  have htotal : ∀ i j : ℕ, (decide (i ≤ j) || decide (j ≤ i)) = true := by
    intro i j
    rw [Bool.or_eq_true, decide_eq_true_eq, decide_eq_true_eq]
    exact Nat.le_total i j
  have hle := (List.pairwise_mergeSort htrans htotal marks).imp of_decide_eq_true
  exact pairwise_lt (hle.sublist (List.destutter_sublist (· ≠ ·) _))
    (List.isChain_destutter (· ≠ ·) _)

end Sorted

section Pick

theorem eraseIdx_pick {keep : ℕ → Bool} {l : List α} {i : ℕ} (hkeep : ∀ j ≤ i, keep j = true) :
    (pick keep l).eraseIdx i = pick (fun j ↦ keep j && decide (j ≠ i)) l := by
  induction l generalizing keep i with
  | nil => rfl
  | cons a l ih =>
    have hzero : keep 0 = true := hkeep 0 (Nat.zero_le i)
    cases i with
    | zero =>
      simp [pick, hzero]
    | succ i =>
      have hrest := @ih (fun j ↦ keep (j + 1)) i fun j hj ↦ hkeep (j + 1) (Nat.succ_le_succ hj)
      simp only [pick, hzero, if_true, List.eraseIdx_cons_succ, hrest]
      simp

theorem pick_all (l : List α) : pick (fun _ ↦ true) l = l := by
  induction l with
  | nil => rfl
  | cons a l ih => exact congrArg (a :: ·) ih

theorem foldr_eraseIdx {is : List ℕ} (his : is.Pairwise (· < ·)) (l : List α) :
    is.foldr (fun i l ↦ l.eraseIdx i) l = pick (fun j ↦ decide (j ∉ is)) l := by
  induction is with
  | nil =>
    simp only [List.not_mem_nil, not_false_eq_true, decide_true]
    exact (pick_all l).symm
  | cons i is ih =>
    obtain ⟨hfirst, hrest⟩ := List.pairwise_cons.mp his
    have hkeep : ∀ j ≤ i, decide (j ∉ is) = true := by
      intro j hj
      rw [decide_eq_true_eq]
      intro hmem
      have hlt := hfirst j hmem
      omega
    rw [List.foldr_cons, ih hrest, eraseIdx_pick hkeep]
    congr 1
    funext j
    simp only [List.mem_cons, not_or, Bool.decide_and]
    exact Bool.and_comm _ _

theorem removeAll_eq_pick (marks : List ℕ) (l : List α) :
    removeAll marks l = pick (fun j ↦ decide (j ∉ marks)) l := by
  rw [removeAll, List.foldl_reverse, foldr_eraseIdx (pairwise_sorted marks)]
  simp only [mem_sorted]

end Pick

end AdkGateway.Foundation.Removal
