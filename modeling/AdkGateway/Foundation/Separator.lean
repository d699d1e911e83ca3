import Mathlib.Data.List.Basic

namespace AdkGateway.Foundation.Separator

variable {α : Type} {sep : α} {a a' c c' s s' : List α}

/-- Two fields and a separator between them. -/
def join (sep : α) (c s : List α) : List α := c ++ sep :: s

theorem join_inj (hc : sep ∉ c) (hc' : sep ∉ c') :
    join sep c s = join sep c' s' ↔ c = c' ∧ s = s' := by
  induction c generalizing c' with
  | nil =>
    cases c' with
    | nil => simp [join]
    | cons y c' =>
      have hne : sep ≠ y := fun h ↦ hc' (h ▸ .head c')
      simp [join, hne]
  | cons x c ih =>
    cases c' with
    | nil =>
      have hne : x ≠ sep := fun h ↦ hc (h ▸ .head c)
      simp [join, hne]
    | cons y c' =>
      have hrest := ih (fun h ↦ hc (.tail x h)) fun h ↦ hc' (.tail y h)
      simp only [join, List.cons_append, List.cons.injEq] at hrest ⊢
      rw [hrest, and_assoc]

theorem join_inj_right (hs : sep ∉ s) (hs' : sep ∉ s') :
    join sep c s = join sep c' s' ↔ c = c' ∧ s = s' := by
  have hreverse (c s : List α) : (join sep c s).reverse = join sep s.reverse c.reverse := by
    simp [join]
  rw [← List.reverse_inj, hreverse, hreverse, join_inj (by simpa using hs) (by simpa using hs'),
    List.reverse_inj, List.reverse_inj, and_comm]

/-- The first field of the second list reaches beyond the second field of the first. -/
def Overlaps (sep : α) (a c s a' c' s' : List α) : Prop :=
  ∃ x, a' ++ [sep] = join sep a (join sep c x) ∧ s = x ++ join sep c' s'

theorem Overlaps.ne (h : Overlaps sep a c s a' c' s') : a ≠ a' := by
  rintro rfl
  obtain ⟨x, hx, -⟩ := h
  have hlength := congrArg List.length hx
  simp only [join, List.length_append, List.length_cons, List.length_nil] at hlength
  omega

theorem Overlaps.join_eq (h : Overlaps sep a c s a' c' s') :
    join sep a (join sep c s) = join sep a' (join sep c' s') := by
  obtain ⟨x, hx, rfl⟩ := h
  have hright : join sep a' (join sep c' s') = (a' ++ [sep]) ++ join sep c' s' := by
    simp only [join, List.append_assoc, List.cons_append, List.nil_append]
  rw [hright, hx]
  simp only [join, List.append_assoc, List.cons_append]

theorem overlaps_of_append {t : List α} (hc : sep ∉ c)
    (h : join sep c s = t ++ sep :: join sep c' s') :
    Overlaps sep a c s (a ++ sep :: t) c' s' := by
  rcases List.append_eq_append_iff.mp h with ⟨w, hw, hs⟩ | ⟨w, hw, hs⟩
  · cases w with
    | nil =>
      rw [List.append_nil] at hw
      rw [List.nil_append, List.cons_inj_right] at hs
      exact ⟨[], by simp only [hw, join, List.append_assoc, List.cons_append], hs⟩
    | cons y w =>
      obtain ⟨rfl, hrest⟩ := List.cons_eq_cons.mp hs
      refine ⟨w ++ [sep], by simp only [hw, join, List.append_assoc, List.cons_append], ?_⟩
      rw [hrest, List.append_assoc]
      rfl
  · cases w with
    | nil =>
      rw [List.append_nil] at hw
      rw [List.nil_append, List.cons_inj_right] at hs
      exact ⟨[], by simp only [hw, join, List.append_assoc, List.cons_append], hs.symm⟩
    | cons y w =>
      obtain ⟨rfl, -⟩ := List.cons_eq_cons.mp hs
      exact absurd (hw ▸ List.mem_append_right t (.head w)) hc

/-- Three joined fields, the second of them without a separator, give one list in two ways
just when their first fields overlap. -/
theorem join_join_eq_iff (hc : sep ∉ c) (hc' : sep ∉ c') :
    join sep a (join sep c s) = join sep a' (join sep c' s') ↔
      (a = a' ∧ c = c' ∧ s = s') ∨ Overlaps sep a c s a' c' s' ∨ Overlaps sep a' c' s' a c s := by
  constructor
  · intro h
    rcases List.append_eq_append_iff.mp h with ⟨t, ha, ht⟩ | ⟨t, ha, ht⟩
    · cases t with
      | nil =>
        rw [List.append_nil] at ha
        rw [List.nil_append, List.cons_inj_right] at ht
        exact .inl ⟨ha.symm, (join_inj hc hc').mp ht⟩
      | cons y t =>
        obtain ⟨rfl, hrest⟩ := List.cons_eq_cons.mp ht
        exact .inr (.inl (ha ▸ overlaps_of_append hc hrest))
    · cases t with
      | nil =>
        rw [List.append_nil] at ha
        rw [List.nil_append, List.cons_inj_right] at ht
        exact .inl ⟨ha, (join_inj hc hc').mp ht.symm⟩
      | cons y t =>
        obtain ⟨rfl, hrest⟩ := List.cons_eq_cons.mp ht
        exact .inr (.inr (ha ▸ overlaps_of_append hc' hrest))
  · rintro (⟨rfl, rfl, rfl⟩ | h | h)
    · rfl
    · exact h.join_eq
    · exact h.join_eq.symm

end AdkGateway.Foundation.Separator
