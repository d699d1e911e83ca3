import Mathlib.Data.List.MinMax

namespace AdkGateway.Foundation.Tiers

variable {α : Type} {f : α → ℕ} {p : α → Bool} {l : List α}

/-- Look for an element of each rank in turn, from the highest down. -/
def cascade (f : α → ℕ) (l : List α) : ℕ → Option α
  | 0 => l.find? fun a ↦ f a == 0
  | n + 1 => (l.find? fun a ↦ f a == n + 1).or (cascade f l n)

/-- Where the highest possible rank occurs, the first element of it is the best. -/
theorem argmax_eq_find? {n : ℕ} (hle : ∀ a ∈ l, f a ≤ n) (hmem : ∃ a ∈ l, f a = n) :
    l.argmax f = l.find? fun a ↦ f a == n := by
  induction l with
  | nil =>
    obtain ⟨a, ha, -⟩ := hmem
    cases ha
  | cons a l ih =>
    obtain ⟨ha, hl⟩ := List.forall_mem_cons.mp hle
    rw [List.argmax_cons]
    by_cases htop : f a = n
    · rw [List.find?_cons_of_pos (by simpa using htop)]
      cases hbest : l.argmax f with
      | none => rfl
      | some c =>
        have hc := hl c (List.argmax_mem hbest)
        exact if_neg (by omega)
    · obtain ⟨b, hb, hfb⟩ := hmem
      have hb' : b ∈ l := (List.mem_cons.mp hb).resolve_left fun he ↦ htop (he ▸ hfb)
      rw [ih hl ⟨b, hb', hfb⟩, List.find?_cons_of_neg (by simpa using htop)]
      cases hfind : l.find? fun a ↦ f a == n with
      | none => exact absurd (by simpa using hfb) (List.find?_eq_none.mp hfind b hb')
      | some c =>
        have hc : f c = n := by simpa using List.find?_some hfind
        exact if_pos (by omega)

/-- The cascade finds the first of the elements of the highest rank there is. -/
theorem cascade_eq_argmax {n : ℕ} (hle : ∀ a ∈ l, f a ≤ n) : cascade f l n = l.argmax f := by
  induction n with
  | zero =>
    cases l with
    | nil => rfl
    | cons a l =>
      rw [cascade]
      exact (argmax_eq_find? hle ⟨a, List.mem_cons_self, Nat.le_zero.mp (hle a List.mem_cons_self)⟩).symm
  | succ n ih =>
    rw [cascade]
    by_cases htop : ∃ a ∈ l, f a = n + 1
    · rw [← argmax_eq_find? hle htop]
      cases hbest : l.argmax f with
      | none =>
        obtain ⟨a, ha, -⟩ := htop
        rw [List.argmax_eq_none.mp hbest] at ha
        cases ha
      | some c => rfl
    · have hnone : (l.find? fun a ↦ f a == n + 1) = none :=
        List.find?_eq_none.mpr fun a ha hfa ↦ htop ⟨a, ha, by simpa using hfa⟩
      rw [hnone, Option.none_or]
      exact ih fun a ha ↦ by
        have hfa : f a ≠ n + 1 := fun hfa ↦ htop ⟨a, ha, hfa⟩
        have hle' := hle a ha
        omega

theorem argmax_filter {a : α} (h : l.argmax f = some a) (ha : p a = true) :
    (l.filter p).argmax f = some a := by
  induction l with
  | nil => cases h
  | cons x l ih =>
    rw [List.argmax_cons] at h
    cases hbest : l.argmax f with
    | none =>
      rw [hbest] at h
      obtain rfl : x = a := Option.some_inj.mp h
      rw [List.argmax_eq_none.mp hbest, List.filter_cons_of_pos ha]
      rfl
    | some c =>
      simp only [hbest] at h
      split at h
      case isTrue hlt =>
        have hc := ih (hbest.trans h)
        obtain rfl : c = a := Option.some_inj.mp h
        cases hx : p x with
        | true => rw [List.filter_cons_of_pos hx, List.argmax_cons, hc]; exact if_pos hlt
        | false => rw [List.filter_cons_of_neg (by simp [hx]), hc]
      case isFalse hge =>
        obtain rfl : x = a := Option.some_inj.mp h
        rw [List.filter_cons_of_pos ha, List.argmax_cons]
        cases hd : (l.filter p).argmax f with
        | none => rfl
        | some d =>
          have hle := List.le_of_mem_argmax (List.mem_of_mem_filter (List.argmax_mem hd)) hbest
          exact if_neg (by omega)

theorem find?_filter_of_pos {q : α → Bool} {a : α} (h : l.find? q = some a) (ha : p a = true) :
    (l.filter p).find? q = some a := by
  induction l with
  | nil => cases h
  | cons x l ih =>
    by_cases hx : q x = true
    · rw [List.find?_cons_of_pos hx] at h
      obtain rfl : x = a := Option.some_inj.mp h
      rw [List.filter_cons_of_pos ha, List.find?_cons_of_pos hx]
    · rw [List.find?_cons_of_neg hx] at h
      rw [List.filter_cons]
      split
      · rw [List.find?_cons_of_neg hx]
        exact ih h
      · exact ih h

section FirstMatch

def firstMatch : List (α → Bool) → List α → Option α
  | [], _ => none
  | q :: qs, l => (l.find? q).or (firstMatch qs l)

variable {qs : List (α → Bool)}

/-- Elements that come last are found only by themselves. -/
theorem firstMatch_append (qs : List (α → Bool)) (l l' : List α) :
    firstMatch qs (l ++ l') = firstMatch qs l ∨ ∃ a ∈ l', firstMatch qs (l ++ l') = some a := by
  induction qs with
  | nil => exact .inl rfl
  | cons q qs ih =>
    simp only [firstMatch, List.find?_append]
    cases hl : l.find? q with
    | some a => exact .inl rfl
    | none =>
      cases hl' : l'.find? q with
      | some a => exact .inr ⟨a, List.mem_of_find?_eq_some hl', rfl⟩
      | none => exact ih

theorem firstMatch_filter (h : ∀ a, firstMatch qs l = some a → p a = true) :
    firstMatch qs (l.filter p) = firstMatch qs l := by
  induction qs with
  | nil => rfl
  | cons q qs ih =>
    simp only [firstMatch] at h ⊢
    cases hl : l.find? q with
    | some a =>
      rw [hl] at h
      rw [find?_filter_of_pos hl (h a rfl)]
      rfl
    | none =>
      rw [hl, Option.none_or] at h
      have hnone : (l.filter p).find? q = none := List.find?_eq_none.mpr fun a ha ↦
        List.find?_eq_none.mp hl a (List.mem_of_mem_filter ha)
      rw [hnone, Option.none_or, Option.none_or]
      exact ih h

end FirstMatch

end AdkGateway.Foundation.Tiers

