import Mathlib.Order.Nat

namespace AdkGateway.Foundation.FreshIds

variable {ω : Type}

/-- Ids drawn from one counter by several owners: who holds an id at present,
and under whom it is filed elsewhere. -/
structure Ledger (ω : Type) where
  next : ℕ
  holds : ω → ℕ → Prop
  filed : ω → ℕ → Prop

/-- No id has been handed out twice, as far as the ledger can tell. -/
structure Ledger.Owned (l : Ledger ω) : Prop where
  holds_below : ∀ u id, l.holds u id → id < l.next
  filed_below : ∀ u id, l.filed u id → id < l.next
  owner : ∀ u v id, l.holds u id → l.filed v id → v = u

/-- A step of one owner: it may forget ids, and the only ones it adds are
freshly drawn and its own. -/
structure Ledger.Step (u : ω) (l l' : Ledger ω) : Prop where
  next_le : l.next ≤ l'.next
  holds : ∀ v id, l'.holds v id → l.holds v id ∨ v = u ∧ l.next ≤ id ∧ id < l'.next
  filed : ∀ v id, l'.filed v id → l.filed v id ∨ v = u ∧ l.next ≤ id ∧ id < l'.next

namespace Ledger

variable {u : ω} {l l₁ l₂ l₃ : Ledger ω}

theorem Step.refl (u : ω) (l : Ledger ω) : Step u l l :=
  ⟨le_rfl, fun _ _ h ↦ .inl h, fun _ _ h ↦ .inl h⟩

theorem Step.trans (h : Step u l₁ l₂) (h' : Step u l₂ l₃) : Step u l₁ l₃ := by
  have hle := h.next_le
  have hle' := h'.next_le
  refine ⟨hle.trans hle', fun v id hv ↦ ?_, fun v id hv ↦ ?_⟩
  · rcases h'.holds v id hv with hv | hv
    · rcases h.holds v id hv with hv | hv
      · exact .inl hv
      · exact .inr ⟨hv.1, by omega⟩
    · exact .inr ⟨hv.1, by omega⟩
  · rcases h'.filed v id hv with hv | hv
    · rcases h.filed v id hv with hv | hv
      · exact .inl hv
      · exact .inr ⟨hv.1, by omega⟩
    · exact .inr ⟨hv.1, by omega⟩

theorem Step.of_subset (u : ω) (hn : l₂.next = l₁.next)
    (hh : ∀ v id, l₂.holds v id → l₁.holds v id) (hf : ∀ v id, l₂.filed v id → l₁.filed v id) :
    Step u l₁ l₂ :=
  ⟨hn.ge, fun v id h ↦ .inl (hh v id h), fun v id h ↦ .inl (hf v id h)⟩

theorem Owned.step (ho : Owned l₁) (h : Step u l₁ l₂) : Owned l₂ := by
  have hle := h.next_le
  refine ⟨fun v id hv ↦ ?_, fun v id hv ↦ ?_, fun v w id hv hw ↦ ?_⟩
  · rcases h.holds v id hv with hv | hv
    · exact (ho.holds_below v id hv).trans_le hle
    · exact hv.2.2
  · rcases h.filed v id hv with hv | hv
    · exact (ho.filed_below v id hv).trans_le hle
    · exact hv.2.2
  · rcases h.holds v id hv with hv | ⟨rfl, hv⟩
    · rcases h.filed w id hw with hw | ⟨rfl, hw⟩
      · exact ho.owner v w id hv hw
      · have := ho.holds_below v id hv
        omega
    · rcases h.filed w id hw with hw | ⟨rfl, hw⟩
      · have := ho.filed_below w id hw
        omega
      · rfl

theorem Owned.of_filed (hh : ∀ u id, l.holds u id → l.filed u id)
    (hb : ∀ u id, l.filed u id → id < l.next)
    (hu : ∀ u v id, l.filed u id → l.filed v id → v = u) : Owned l :=
  ⟨fun u id h ↦ hb u id (hh u id h), hb, fun u v id h h' ↦ hu u v id (hh u id h) h'⟩

end Ledger

end AdkGateway.Foundation.FreshIds
