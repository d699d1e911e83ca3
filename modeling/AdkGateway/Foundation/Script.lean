import Mathlib.Init

namespace AdkGateway.Foundation

inductive Script (Op : Type) (Answer : Op → Type) (α : Type) : Type
  | ret (x : α)
  | op (o : Op) (next : Answer o → Script Op Answer α)

namespace Script

variable {Op : Type} {Answer : Op → Type} {α β : Type}

def bind : Script Op Answer α → (α → Script Op Answer β) → Script Op Answer β
  | ret x, f => f x
  | op o next, f => op o fun a ↦ (next a).bind f

instance : Monad (Script Op Answer) where
  pure := ret
  bind := bind

def perform (o : Op) : Script Op Answer (Answer o) := op o ret

/-- All operations that may come up have a property. -/
def Only (p : Op → Prop) : Script Op Answer α → Prop
  | ret _ => True
  | op o next => p o ∧ ∀ a, (next a).Only p

section Only

variable {p q : Op → Prop} {m : Script Op Answer α} {f : α → Script Op Answer β}

@[simp] theorem only_pure (x : α) : (pure x : Script Op Answer α).Only p := trivial

theorem only_perform {o : Op} (h : p o) : (perform o : Script Op Answer (Answer o)).Only p :=
  ⟨h, fun _ ↦ trivial⟩

theorem only_perform_bind {o : Op} {f : Answer o → Script Op Answer β} :
    (perform o >>= f).Only p ↔ p o ∧ ∀ a, (f a).Only p := Iff.rfl

theorem only_bind (h : m.Only p) (hf : ∀ x, (f x).Only p) : (m >>= f).Only p := by
  induction m with
  | ret x => exact hf x
  | op o next ih => exact ⟨h.1, fun a ↦ ih a (h.2 a)⟩

/-- Code that comes after other code is reached with some result. -/
theorem Only.exists_of_bind [∀ o, Nonempty (Answer o)] (h : (m >>= f).Only p) :
    ∃ x, (f x).Only p := by
  induction m with
  | ret x => exact ⟨x, h⟩
  | op o next ih =>
    obtain ⟨a⟩ := ‹∀ o, Nonempty (Answer o)› o
    exact ih a (h.2 a)

theorem Only.mono (h : m.Only p) (hpq : ∀ o, p o → q o) : m.Only q := by
  induction m with
  | ret x => trivial
  | op o next ih => exact ⟨hpq o h.1, fun a ↦ ih a (h.2 a)⟩

end Only

section Run

variable {σ ι : Type} (exec : (o : Op) → ι → σ → σ × Answer o) (env : Op → ι)

/-- The state and the result when nobody else works on the state; `env` tells what comes of each
operation. -/
def run : Script Op Answer α → σ → σ × α
  | ret x, s => (s, x)
  | op o next, s => run (next (exec o (env o) s).2) (exec o (env o) s).1

@[simp] theorem run_pure (x : α) (s : σ) : run exec env (pure x) s = (s, x) := rfl

@[simp] theorem run_perform (o : Op) (s : σ) : run exec env (perform o) s = exec o (env o) s := rfl

@[simp] theorem run_bind (m : Script Op Answer α) (f : α → Script Op Answer β) (s : σ) :
    run exec env (m >>= f) s = run exec env (f (run exec env m s).2) (run exec env m s).1 := by
  induction m generalizing s with
  | ret x => rfl
  | op o next ih => exact ih (exec o (env o) s).2 (exec o (env o) s).1

/-- The operations of a run in their order. -/
def ops : Script Op Answer α → σ → List Op
  | ret _, _ => []
  | op o next, s => o :: ops (next (exec o (env o) s).2) (exec o (env o) s).1

@[simp] theorem ops_pure (x : α) (s : σ) : ops exec env (pure x) s = [] := rfl

@[simp] theorem ops_perform (o : Op) (s : σ) : ops exec env (perform o) s = [o] := rfl

@[simp] theorem ops_bind (m : Script Op Answer α) (f : α → Script Op Answer β) (s : σ) :
    ops exec env (m >>= f) s =
      ops exec env m s ++ ops exec env (f (run exec env m s).2) (run exec env m s).1 := by
  induction m generalizing s with
  | ret x => rfl
  | op o next ih => exact congrArg (o :: ·) (ih (exec o (env o) s).2 (exec o (env o) s).1)

theorem only_ops {p : Op → Prop} {m : Script Op Answer α} (hm : m.Only p) (s : σ) :
    ∀ o ∈ ops exec env m s, p o := by
  induction m generalizing s with
  | ret x => simp [ops]
  | op o next ih => exact List.forall_mem_cons.mpr ⟨hm.1, ih _ (hm.2 _) _⟩

theorem run_keeps {p : Op → Prop} {I : σ → Prop} (h : ∀ o i s, p o → I s → I (exec o i s).1)
    {m : Script Op Answer α} (hm : m.Only p) {s : σ} (hs : I s) : I (run exec env m s).1 := by
  induction m generalizing s with
  | ret x => exact hs
  | op o next ih => exact ih _ (hm.2 _) (h o (env o) s hm.1 hs)

theorem run_map {τ : Type} {exec' : (o : Op) → ι → τ → τ × Answer o} {f : σ → τ} {p : Op → Prop}
    (h : ∀ o i s, p o → exec' o i (f s) = (f (exec o i s).1, (exec o i s).2))
    {m : Script Op Answer α} (hm : m.Only p) (s : σ) :
    run exec' env m (f s) = (f (run exec env m s).1, (run exec env m s).2) := by
  induction m generalizing s with
  | ret x => rfl
  | op o next ih =>
    rw [run, h o (env o) s hm.1]
    exact ih _ (hm.2 _) _

end Run

section Follows

variable {τ : Type}

/-- How operations are to be used in a state that the code keeps for itself: which it may perform,
and how the state moves on with an answer. -/
structure Protocol (Op : Type) (Answer : Op → Type) (τ : Type) where
  allows : Op → τ → Prop
  moves : (o : Op) → τ → Answer o → τ → Prop

/-- From a state on the code keeps to the protocol, and it ends well. -/
def Follows (P : Protocol Op Answer τ) (Q : α → τ → Prop) : Script Op Answer α → τ → Prop
  | ret x, t => Q x t
  | op o next, t => P.allows o t ∧ ∀ a t', P.moves o t a t' → (next a).Follows P Q t'

variable {P : Protocol Op Answer τ} {Q : β → τ → Prop} {R R' : α → τ → Prop}

theorem follows_bind {m : Script Op Answer α} {f : α → Script Op Answer β} {t : τ}
    (h : m.Follows P R t) (hf : ∀ x t', R x t' → (f x).Follows P Q t') : (m >>= f).Follows P Q t := by
  induction m generalizing t with
  | ret x => exact hf x t h
  | op o next ih =>
    obtain ⟨hallows, hnext⟩ := h
    exact ⟨hallows, fun a t' hmoves ↦ ih a (hnext a t' hmoves)⟩

theorem follows_perform {o : Op} {f : Answer o → Script Op Answer β} {t : τ} (h : P.allows o t)
    (hf : ∀ a t', P.moves o t a t' → (f a).Follows P Q t') : (perform o >>= f).Follows P Q t :=
  ⟨h, hf⟩

theorem Follows.mono {m : Script Op Answer α} {t : τ} (h : m.Follows P R t)
    (hR : ∀ x t', R x t' → R' x t') : m.Follows P R' t := by
  induction m generalizing t with
  | ret x => exact hR x t h
  | op o next ih =>
    obtain ⟨hallows, hnext⟩ := h
    exact ⟨hallows, fun a t' hmoves ↦ ih a (hnext a t' hmoves)⟩

/-- Alone on a state that shows what the code keeps for itself, the code ends well. -/
theorem Follows.run {σ ι : Type} {exec : (o : Op) → ι → σ → σ × Answer o} {env : Op → ι}
    {I : σ → τ → Prop} (hstep : ∀ o s t, P.allows o t → I s t →
      ∃ t', P.moves o t (exec o (env o) s).2 t' ∧ I (exec o (env o) s).1 t')
    {m : Script Op Answer α} {s : σ} {t : τ} (h : m.Follows P R t) (hI : I s t) :
    ∃ t', R (m.run exec env s).2 t' ∧ I (m.run exec env s).1 t' := by
  induction m generalizing s t with
  | ret x => exact ⟨t, h, hI⟩
  | op o next ih =>
    obtain ⟨hallows, hnext⟩ := h
    obtain ⟨t', hmoves, hI'⟩ := hstep o s t hallows hI
    exact ih _ (hnext _ t' hmoves) hI'

end Follows

end Script

end AdkGateway.Foundation
