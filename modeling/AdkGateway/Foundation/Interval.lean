import Mathlib.Algebra.Order.Ring.Int

namespace AdkGateway.Foundation.Interval

def Between (lower upper : Option ℤ) (n : ℤ) : Prop :=
  (∀ l ∈ lower, l ≤ n) ∧ ∀ u ∈ upper, n ≤ u

/-- No integer lies within the limits. -/
def Crossed (lower upper : Option ℤ) : Prop := ∃ l ∈ lower, ∃ u ∈ upper, u < l

variable {lower upper lower' upper' : Option ℤ} {n : ℤ}

theorem Crossed.not_between (h : Crossed lower upper) : ¬ Between lower upper n := by
  obtain ⟨l, hl, u, hu, hlt⟩ := h
  intro hn
  have hlower := hn.1 l hl
  have hupper := hn.2 u hu
  omega

theorem exists_between (h : ¬ Crossed lower upper) : ∃ n, Between lower upper n := by
  cases lower with
  | none =>
    cases upper with
    | none => exact ⟨0, nofun, nofun⟩
    | some u => exact ⟨u, nofun, fun u' hu' ↦ (Option.some_inj.mp hu').le⟩
  | some l =>
    refine ⟨l, fun l' hl' ↦ (Option.some_inj.mp hl').ge, fun u hu ↦ ?_⟩
    by_contra hlt
    exact h ⟨l, rfl, u, hu, Int.not_le.mp hlt⟩

theorem crossed_iff : Crossed lower upper ↔ ∀ n, ¬ Between lower upper n := by
  refine ⟨fun h n ↦ h.not_between, fun h ↦ ?_⟩
  by_contra hnot
  obtain ⟨n, hn⟩ := exists_between hnot
  exact h n hn

/-- Limits that hold all integers within others are no tighter than these. -/
theorem lower_le (h : ∀ n, Between lower upper n → Between lower' upper' n)
    (hn : Between lower upper n) {l' : ℤ} (hl' : l' ∈ lower') : ∃ l ∈ lower, l' ≤ l := by
  cases lower with
  | none =>
    have hbelow : Between none upper (min n (l' - 1)) := by
      refine ⟨nofun, fun u hu ↦ ?_⟩
      have hupper := hn.2 u hu
      omega
    have hlower := (h _ hbelow).1 l' hl'
    omega
  | some l =>
    have hl : Between (some l) upper l := by
      refine ⟨fun l'' hl'' ↦ (Option.some_inj.mp hl'').ge, fun u hu ↦ ?_⟩
      exact (hn.1 l rfl).trans (hn.2 u hu)
    exact ⟨l, rfl, (h l hl).1 l' hl'⟩

theorem upper_le (h : ∀ n, Between lower upper n → Between lower' upper' n)
    (hn : Between lower upper n) {u' : ℤ} (hu' : u' ∈ upper') : ∃ u ∈ upper, u ≤ u' := by
  cases upper with
  | none =>
    have habove : Between lower none (max n (u' + 1)) := by
      refine ⟨fun l hl ↦ ?_, nofun⟩
      have hlower := hn.1 l hl
      omega
    have hupper := (h _ habove).2 u' hu'
    omega
  | some u =>
    have hu : Between lower (some u) u := by
      refine ⟨fun l hl ↦ ?_, fun u'' hu'' ↦ (Option.some_inj.mp hu'').le⟩
      exact (hn.1 l hl).trans (hn.2 u rfl)
    exact ⟨u, rfl, (h u hu).2 u' hu'⟩

theorem eq_of_antisymm {r : ℤ → ℤ → Prop} (hr : ∀ x y, r x y → r y x → x = y) {a b : Option ℤ}
    (h : ∀ x ∈ a, ∃ y ∈ b, r x y) (h' : ∀ y ∈ b, ∃ x ∈ a, r y x) : a = b := by
  cases a with
  | none =>
    cases b with
    | none => rfl
    | some y =>
      obtain ⟨x, hx, -⟩ := h' y rfl
      cases hx
  | some x =>
    obtain ⟨y, hy, hxy⟩ := h x rfl
    obtain ⟨x', hx', hyx⟩ := h' y hy
    obtain rfl := Option.some_inj.mp hx'
    rw [Option.mem_def.mp hy, hr x y hxy hyx]

/-- The same integers lie within two pairs of limits just if the limits are the same or both are
crossed. -/
theorem between_iff_between : (∀ n, Between lower upper n ↔ Between lower' upper' n) ↔
    (lower = lower' ∧ upper = upper') ∨ Crossed lower upper ∧ Crossed lower' upper' := by
  constructor
  · intro h
    by_cases hcrossed : Crossed lower upper
    · exact .inr ⟨hcrossed, crossed_iff.mpr fun n hn ↦ hcrossed.not_between ((h n).mpr hn)⟩
    · obtain ⟨n, hn⟩ := exists_between hcrossed
      have hn' := (h n).mp hn
      left
      constructor
      · exact eq_of_antisymm (fun _ _ ↦ le_antisymm)
          (fun l hl ↦ lower_le (fun n ↦ (h n).mpr) hn' hl)
          fun l' hl' ↦ lower_le (fun n ↦ (h n).mp) hn hl'
      · exact eq_of_antisymm (fun _ _ ↦ ge_antisymm)
          (fun u hu ↦ upper_le (fun n ↦ (h n).mpr) hn' hu)
          fun u' hu' ↦ upper_le (fun n ↦ (h n).mp) hn hu'
  · rintro (⟨rfl, rfl⟩ | ⟨hcrossed, hcrossed'⟩) n
    · exact Iff.rfl
    · exact iff_of_false hcrossed.not_between hcrossed'.not_between

end AdkGateway.Foundation.Interval
