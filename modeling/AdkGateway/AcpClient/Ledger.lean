import AdkGateway.AcpClient.SessionPool
import AdkGateway.Foundation.Custody

namespace AdkGateway.AcpClient

open Foundation Custody

inductive Place
  | entry (agentId : String)
  | call (i : ℕ)
  deriving DecidableEq

structure Ledger where
  started : List AcpSession
  keeps : Place → Option ℕ
  agentOf : Place → Option String

namespace Ledger

def Active (l : Ledger) (agentId : String) (session : ℕ) : Prop :=
  l.started[session]? = some ⟨agentId, true⟩

def Idle (l : Ledger) (p : Place) : Prop :=
  ∀ session, l.keeps p = some session → ∀ agentId, ¬ l.Active agentId session

structure Tidy (l : Ledger) : Prop where
  exclusive : Exclusive l.keeps
  owned : ∀ p session, l.keeps p = some session → ∃ agentId isActive,
    l.agentOf p = some agentId ∧ l.started[session]? = some ⟨agentId, isActive⟩

structure OneSession (l : Ledger) : Prop where
  unique : ∀ agentId session session', l.Active agentId session → l.Active agentId session' →
    session = session'
  kept : ∀ agentId session, l.Active agentId session →
    ∃ p, l.agentOf p = some agentId ∧ l.keeps p = some session

def start (l : Ledger) (p : Place) (agentId : String) : Ledger :=
  { l with
    started := l.started ++ [⟨agentId, true⟩]
    keeps := give p l.started.length l.keeps }

def move (l : Ledger) (p q : Place) : Ledger := { l with keeps := Custody.move p q l.keeps }

def drop (l : Ledger) (p : Place) : Ledger := { l with keeps := Custody.drop p l.keeps }

def deactivate (l : Ledger) (session : ℕ) : Ledger :=
  { l with started := l.started.modify session fun a ↦ { a with isActive := false } }

variable {l : Ledger} {p q : Place} {agentId agentId' : String} {session session' : ℕ}

theorem Tidy.agentOf_eq (h : l.Tidy) (hkeeps : l.keeps p = some session)
    (hactive : l.Active agentId session) : l.agentOf p = some agentId := by
  obtain ⟨agentId', isActive, hagent, hstarted⟩ := h.owned p session hkeeps
  obtain ⟨rfl, -⟩ := AcpSession.mk.inj (Option.some_inj.mp (hstarted.symm.trans hactive))
  exact hagent

theorem Tidy.lt_length (h : l.Tidy) (hkeeps : l.keeps p = some session) :
    session < l.started.length := by
  obtain ⟨agentId', isActive, -, hstarted⟩ := h.owned p session hkeeps
  exact (List.getElem?_eq_some_iff.mp hstarted).1

theorem oneSession_iff (h : l.Tidy) : l.OneSession ↔
    (∀ agentId session session', l.Active agentId session → l.Active agentId session' →
      session = session') ∧
    ∀ agentId session, l.Active agentId session → Kept l.keeps session := by
  constructor
  · intro hone
    refine ⟨hone.unique, fun agentId session hactive ↦ ?_⟩
    obtain ⟨p, -, hkeeps⟩ := hone.kept agentId session hactive
    exact ⟨p, hkeeps⟩
  · intro ⟨hunique, hkept⟩
    refine ⟨hunique, fun agentId session hactive ↦ ?_⟩
    obtain ⟨p, hkeeps⟩ := hkept agentId session hactive
    exact ⟨p, h.agentOf_eq hkeeps hactive, hkeeps⟩

section Widen

variable {l' : Ledger}

/-- A further place that keeps nothing makes no difference. -/
theorem Tidy.widen (h : l.Tidy) (hstarted : l'.started = l.started) (hkeeps : l'.keeps = l.keeps)
    (hagent : ∀ p agentId, l.agentOf p = some agentId → l'.agentOf p = some agentId) : l'.Tidy where
  exclusive := hkeeps ▸ h.exclusive
  owned p session hp := by
    rw [hkeeps] at hp
    obtain ⟨agentId, isActive, hagentId, hsession⟩ := h.owned p session hp
    rw [hstarted]
    exact ⟨agentId, isActive, hagent p agentId hagentId, hsession⟩

theorem OneSession.widen (h : l.OneSession) (hstarted : l'.started = l.started)
    (hkeeps : l'.keeps = l.keeps)
    (hagent : ∀ p agentId, l.agentOf p = some agentId → l'.agentOf p = some agentId) :
    l'.OneSession := by
  have hactive (agentId : String) (session : ℕ) :
      l'.Active agentId session ↔ l.Active agentId session := by
    rw [Active, Active, hstarted]
  constructor
  · intro agentId session session' hsession hsession'
    exact h.unique agentId session session' ((hactive _ _).mp hsession) ((hactive _ _).mp hsession')
  · intro agentId session hsession
    obtain ⟨p, hp, hkept⟩ := h.kept agentId session ((hactive _ _).mp hsession)
    exact ⟨p, hagent p agentId hp, hkeeps ▸ hkept⟩

end Widen

section Moves

theorem tidy_drop (h : l.Tidy) : (l.drop p).Tidy where
  exclusive := exclusive_drop h.exclusive
  owned q session hq := h.owned q session (drop_eq_some_iff.mp hq).2

theorem tidy_move (h : l.Tidy) (hne : p ≠ q) (hagent : l.agentOf p = l.agentOf q) :
    (l.move p q).Tidy where
  exclusive := exclusive_move h.exclusive hne
  owned r session hr := by
    rcases (move_eq_some_iff hne).mp hr with ⟨rfl, hp⟩ | ⟨-, -, hkeeps⟩
    · obtain ⟨agentId, isActive, hp, hstarted⟩ := h.owned p session hp
      exact ⟨agentId, isActive, hagent.symm.trans hp, hstarted⟩
    · exact h.owned r session hkeeps

theorem oneSession_iff_of_loses {l' : Ledger} (h : l.Tidy) (h' : l'.Tidy) (hone : l.OneSession)
    (hstarted : l'.started = l.started)
    (hkept : ∀ session, Kept l'.keeps session ↔ Kept l.keeps session ∧ l.keeps p ≠ some session) :
    l'.OneSession ↔ l.Idle p := by
  have hactive (agentId : String) (session : ℕ) :
      l'.Active agentId session ↔ l.Active agentId session := by
    rw [Active, Active, hstarted]
  simp only [oneSession_iff h', hactive]
  obtain ⟨hunique, hkept'⟩ := (oneSession_iff h).mp hone
  constructor
  · intro ⟨_, hkeeps⟩ session hsession agentId hactive
    exact ((hkept session).mp (hkeeps agentId session hactive)).2 hsession
  · intro hidle
    refine ⟨hunique, fun agentId session hactive ↦ (hkept session).mpr ?_⟩
    exact ⟨hkept' agentId session hactive, fun hsession ↦ hidle session hsession agentId hactive⟩

theorem oneSession_drop_iff (h : l.Tidy) (hone : l.OneSession) :
    (l.drop p).OneSession ↔ l.Idle p :=
  oneSession_iff_of_loses h (tidy_drop h) hone rfl fun _ ↦ kept_drop_iff h.exclusive

theorem oneSession_move_iff (h : l.Tidy) (hne : p ≠ q) (hagent : l.agentOf p = l.agentOf q)
    (hone : l.OneSession) : (l.move p q).OneSession ↔ l.Idle q :=
  oneSession_iff_of_loses h (tidy_move h hne hagent) hone rfl fun _ ↦
    kept_move_iff h.exclusive hne

end Moves

section Start

theorem active_start_iff : (l.start p agentId).Active agentId' session ↔
    l.Active agentId' session ∨ session = l.started.length ∧ agentId' = agentId := by
  rw [Active, Active, start, List.getElem?_append]
  split
  next hlt =>
    have hne : session ≠ l.started.length := by omega
    simp [hne]
  next hle =>
    have hnone : l.started[session]? = none := List.getElem?_eq_none (by omega)
    rw [hnone, List.getElem?_singleton]
    split
    next hzero =>
      have heq : session = l.started.length := by omega
      simp [heq, eq_comm]
    next hzero =>
      have hne : session ≠ l.started.length := by omega
      simp [hne]

theorem tidy_start (h : l.Tidy) (hagent : l.agentOf p = some agentId) :
    (l.start p agentId).Tidy where
  exclusive := by
    refine exclusive_give h.exclusive ?_
    intro ⟨q, hq⟩
    exact absurd (h.lt_length hq) (by omega)
  owned q session hq := by
    rcases give_eq_some_iff.mp hq with ⟨rfl, rfl⟩ | ⟨-, hkeeps⟩
    · exact ⟨agentId, true, hagent, List.getElem?_concat_length⟩
    · obtain ⟨agentId', isActive, hq, hstarted⟩ := h.owned q session hkeeps
      refine ⟨agentId', isActive, hq, ?_⟩
      exact (List.getElem?_append_left (h.lt_length hkeeps)).trans hstarted

theorem oneSession_start_iff (h : l.Tidy) (hone : l.OneSession) (hp : l.keeps p = none)
    (hagent : l.agentOf p = some agentId) :
    (l.start p agentId).OneSession ↔ ∀ q, l.agentOf q = some agentId → l.Idle q := by
  rw [oneSession_iff (tidy_start h hagent)]
  constructor
  · intro ⟨hunique, _⟩ q hq session hkeeps agentId' hactive
    obtain rfl := Option.some_inj.mp (hq.symm.trans (h.agentOf_eq hkeeps hactive))
    have heq := hunique agentId session l.started.length (active_start_iff.mpr (.inl hactive))
      (active_start_iff.mpr (.inr ⟨rfl, rfl⟩))
    exact absurd (h.lt_length hkeeps) (by omega)
  · intro hidle
    have hnone (session : ℕ) : ¬ l.Active agentId session := by
      intro hactive
      obtain ⟨q, hq, hkeeps⟩ := hone.kept agentId session hactive
      exact hidle q hq session hkeeps agentId hactive
    constructor
    · intro agentId' session session' hactive hactive'
      rcases active_start_iff.mp hactive with hold | ⟨rfl, rfl⟩
      · rcases active_start_iff.mp hactive' with hold' | ⟨rfl, rfl⟩
        · exact hone.unique agentId' session session' hold hold'
        · exact absurd hold (hnone session)
      · rcases active_start_iff.mp hactive' with hold' | ⟨rfl, -⟩
        · exact absurd hold' (hnone session')
        · rfl
    · intro agentId' session hactive
      rcases active_start_iff.mp hactive with hold | ⟨rfl, -⟩
      · obtain ⟨q, -, hkeeps⟩ := hone.kept agentId' session hold
        exact kept_give hp ⟨q, hkeeps⟩
      · exact ⟨p, give_eq_some_iff.mpr (.inl ⟨rfl, rfl⟩)⟩

end Start

section Deactivate

theorem active_of_deactivate (h : (l.deactivate session).Active agentId session') :
    l.Active agentId session' ∧ session' ≠ session := by
  rw [Active, deactivate, List.getElem?_modify] at h
  split at h
  next heq =>
    obtain ⟨a, -, ha⟩ := Option.map_eq_some_iff.mp h
    cases (AcpSession.mk.inj ha).2
  next hne =>
    have hactive : l.Active agentId session' := by
      rw [Active]
      simpa using h
    exact ⟨hactive, fun heq ↦ hne heq.symm⟩

theorem tidy_deactivate (h : l.Tidy) : (l.deactivate session).Tidy where
  exclusive := h.exclusive
  owned p session' hp := by
    obtain ⟨agentId, isActive, hagent, hstarted⟩ := h.owned p session' hp
    rw [deactivate, List.getElem?_modify, hstarted]
    split
    next => exact ⟨agentId, false, hagent, rfl⟩
    next => exact ⟨agentId, isActive, hagent, rfl⟩

theorem oneSession_deactivate (hone : l.OneSession) : (l.deactivate session).OneSession where
  unique _ _ _ h h' := hone.unique _ _ _ (active_of_deactivate h).1 (active_of_deactivate h').1
  kept _ _ h := hone.kept _ _ (active_of_deactivate h).1

theorem idle_deactivate (h : l.keeps p = some session) : (l.deactivate session).Idle p := by
  intro session' hsession' agentId hactive
  exact (active_of_deactivate hactive).2 (Option.some_inj.mp (hsession'.symm.trans h))

end Deactivate

end Ledger

end AdkGateway.AcpClient
