import AdkGateway.ProcessManager.Manager

namespace AdkGateway.ProcessManager

open Foundation

def heldAgent : Point → Option String
  | .fetchAdd args _ | .storeStart args _ | .isPortActive args _ _ | .iterate args _ _ _
  | .bindPort args _ _ | .startChild args _ | .insert args _ _ => some args.agentId
  | .kill agentId _ => some agentId
  | _ => none

def heldPort : Point → Option UInt16
  | .isPortActive _ port _ | .iterate _ port _ _ | .bindPort _ port _ | .startChild _ port
  | .insert _ port _ => some port
  | .kill _ process => some process.port
  | _ => none

def soughtPort : Point → Option (UInt16 × List String)
  | .iterate _ port _ unseen => some (port, unseen)
  | .bindPort _ port _ | .startChild _ port | .insert _ port _ => some (port, [])
  | .kill _ process => some (process.port, [])
  | _ => none

def inHand : Point → Option (String × ManagedProcess)
  | .insert args port child => some (args.agentId, ⟨port, child⟩)
  | .kill agentId process => some (agentId, process)
  | _ => none

theorem heldAgent_of_inHand {p : Point} {agentId : String} {process : ManagedProcess}
    (h : inHand p = some (agentId, process)) : heldAgent p = some agentId := by
  cases p <;> cases h <;> rfl

theorem heldPort_of_inHand {p : Point} {agentId : String} {process : ManagedProcess}
    (h : inHand p = some (agentId, process)) : heldPort p = some process.port := by
  cases p <;> cases h <;> rfl

theorem soughtPort_of_inHand {p : Point} {agentId : String} {process : ManagedProcess}
    (h : inHand p = some (agentId, process)) : soughtPort p = some (process.port, []) := by
  cases p <;> cases h <;> rfl

theorem heldPort_of_soughtPort {p : Point} {port : UInt16} {unseen : List String}
    (h : soughtPort p = some (port, unseen)) : heldPort p = some port := by
  cases p <;> cases h <;> rfl

def FreeUpTo (processes : KeyedMap String ManagedProcess) (port : UInt16) (unseen : List String) :
    Prop :=
  ∀ agentId process, processes.lookup agentId = some process → process.port = port →
    agentId ∈ unseen

/-- What a call goes on with, the table and the children as they are: it claims
nothing more, and knows of its port what the entries it has seen tell. -/
structure Follows (processes : KeyedMap String ManagedProcess) (p p' : Point) : Prop where
  agent : ∀ agentId, heldAgent p' = some agentId → heldAgent p = some agentId
  port : ∀ port, heldPort p' = some port → heldPort p = some port
  sought : ∀ port unseen, soughtPort p' = some (port, unseen) → FreeUpTo processes port unseen ∨
    ∃ unseen', soughtPort p = some (port, unseen') ∧
      ∀ agentId ∈ unseen', agentId ∉ unseen → ∀ process,
        processes.lookup agentId = some process → process.port ≠ port

inductive Moves : Point → ProcessManager → ProcessManager → Point ⊕ Output → Prop
  | absent {pm : ProcessManager} {args : SpawnArgs} {left : ℕ}
      (hnone : pm.processes.lookup args.agentId = none) :
      Moves (.containsKey args) pm pm (.inl (.fetchAdd args left))
  | fetched {pm : ProcessManager} {args : SpawnArgs} {left : ℕ}
      (hle : pm.nextPort ≤ pm.endPort) :
      Moves (.fetchAdd args (left + 1)) pm { pm with nextPort := pm.nextPort + 1 }
        (.inl (.isPortActive args pm.nextPort left))
  | goes {pm : ProcessManager} {nextPort : UInt16} {p : Point} {o : Point ⊕ Output}
      (hp : inHand p = none)
      (ho : ∀ p', o = .inl p' → Follows pm.processes p p') :
      Moves p pm { pm with nextPort := nextPort } o
  | started {pm : ProcessManager} {args : SpawnArgs} {port : UInt16} :
      Moves (.startChild args port) pm { pm with
        running := pm.running.insert pm.started ⟨args.agentId, port⟩
        started := pm.started + 1 } (.inl (.insert args port pm.started))
  | inserted {pm : ProcessManager} {args : SpawnArgs} {port : UInt16} {child : ℕ} {x : Output} :
      Moves (.insert args port child) pm
        { pm with processes := pm.processes.insert args.agentId ⟨port, child⟩ } (.inr x)
  | ended {pm : ProcessManager} {p : Point} {child : ℕ} {o : Point ⊕ Output}
      (hp : ∀ entry, inHand p = some entry → entry.2.child = child)
      (ho : ∀ p', o = .inl p' → Follows pm.processes p p') : Moves p pm (ended child pm) o
  | removed {pm : ProcessManager} {agentId : String} {x : Output} :
      Moves (.remove agentId) pm { pm with processes := pm.processes.erase agentId } (.inr x)
  | killing {pm : ProcessManager} {agentId : String} {process : ManagedProcess}
      (hsome : pm.processes.lookup agentId = some process) :
      Moves (.removeProcess agentId) pm { pm with processes := pm.processes.erase agentId }
        (.inl (.kill agentId process))

section Moves

variable {pm pm' : ProcessManager} {p p' : Point} {o : Point ⊕ Output} {i : Input}
  {evs : List Empty}

theorem follows_without_port {processes : KeyedMap String ManagedProcess}
    (hagent : heldAgent p' = none ∨ heldAgent p' = heldAgent p) (hport : heldPort p' = none) :
    Follows processes p p' where
  agent agentId hheld := by
    obtain hnone | heq := hagent
    · rw [hnone] at hheld
      cases hheld
    · rwa [← heq]
  port := by simp [hport]
  sought port unseen hsought := by simp [heldPort_of_soughtPort hsought] at hport

theorem follows_free {processes : KeyedMap String ManagedProcess} {port : UInt16}
    (hagent : heldAgent p' = heldAgent p) (hport : heldPort p' = heldPort p)
    (hsought : soughtPort p = some (port, [])) (hsought' : soughtPort p' = some (port, [])) :
    Follows processes p p' where
  agent := by simp [hagent]
  port := by simp [hport]
  sought port' unseen h := by
    rw [hsought', Option.some.injEq, Prod.mk.injEq] at h
    obtain ⟨rfl, rfl⟩ := h
    exact .inr ⟨[], hsought, nofun⟩

theorem moves_inl {nextPort : UInt16} (hp : inHand p = none)
    (h : Follows pm.processes p p') : Moves p pm { pm with nextPort := nextPort } (.inl p') := by
  refine .goes hp fun q hq ↦ ?_
  cases hq
  exact h

theorem moves_ended {child : ℕ} (hp : inHand p = none) (hagent : heldAgent p' = none)
    (hport : heldPort p' = none) : Moves p pm (ended child pm) (.inl p') := by
  refine .ended (fun entry hentry ↦ ?_) fun q hq ↦ ?_
  · rw [hp] at hentry
    cases hentry
  · cases hq
    exact follows_without_port (.inl hagent) hport

theorem moves_of_iterate {args : SpawnArgs} {port : UInt16} {left : ℕ} {unseen : List String}
    {agentId : String} : Moves (.iterate args port left unseen) pm pm
      (.inl (if (pm.processes.lookup agentId).any (·.port == port) then .fetchAdd args left
        else .iterate args port left (unseen.erase agentId))) := by
  split
  · exact moves_inl rfl (follows_without_port (.inr rfl) rfl)
  next hany =>
    refine moves_inl rfl ⟨fun _ ↦ id, fun _ ↦ id, ?_⟩
    intro _ _ hsought
    cases hsought
    refine .inr ⟨unseen, rfl, ?_⟩
    intro agentId' hmem hnot process hprocess
    have heq : agentId' = agentId := by
      by_contra hne
      exact hnot ((List.mem_erase_of_ne hne).mpr hmem)
    subst heq
    simpa [hprocess] using hany

theorem moves_of_isPortActive {args : SpawnArgs} {port : UInt16} {left : ℕ} :
    Moves (.isPortActive args port left) pm pm
      (.inl (.iterate args port left pm.processes.keys)) := by
  refine moves_inl rfl ⟨fun _ ↦ id, fun _ ↦ id, ?_⟩
  intro _ _ hsought
  cases hsought
  refine .inl fun agentId process hprocess _ ↦ ?_
  exact AList.lookup_isSome.mp (by rw [hprocess]; rfl)

theorem moves_of_step (h : step i p pm = some (pm', o, evs)) : Moves p pm pm' o := by
  cases p with
  | containsKey args =>
    cases i with
    | go =>
      simp only [step] at h
      split at h
      · cases h
        exact .goes rfl nofun
      next hnone =>
        cases h
        exact .absent (by simpa using hnone)
    | _ => cases h
  | fetchAdd args left =>
    cases i with
    | go =>
      cases left with
      | zero =>
        cases h
        exact .goes rfl nofun
      | succ left =>
        simp only [step] at h
        split at h
        · cases h
          exact moves_inl rfl (follows_without_port (.inr rfl) rfl)
        next hle =>
          cases h
          exact .fetched (by simpa using hle)
    | _ => cases left <;> cases h
  | storeStart args left =>
    cases i with
    | go =>
      cases h
      exact moves_inl rfl (follows_without_port (.inr rfl) rfl)
    | _ => cases h
  | isPortActive args port left =>
    cases i with
    | go =>
      cases h
      exact moves_of_isPortActive
    | _ => cases h
  | iterate args port left unseen =>
    cases i with
    | yield agentId => cases unseen <;> cases h <;> exact moves_of_iterate
    | go =>
      cases unseen with
      | nil =>
        cases h
        exact moves_inl rfl (follows_free rfl rfl rfl rfl)
      | cons => cases h
    | _ => cases unseen <;> cases h
  | bindPort args port left =>
    cases i with
    | go =>
      cases h
      exact moves_inl rfl (follows_free rfl rfl rfl rfl)
    | fail =>
      cases h
      exact moves_inl rfl (follows_without_port (.inr rfl) rfl)
    | _ => cases h
  | startChild args port =>
    cases i with
    | go =>
      cases h
      exact .started
    | fail =>
      cases h
      exact .goes rfl nofun
    | _ => cases h
  | insert args port child =>
    cases i with
    | go =>
      cases h
      exact .inserted
    | _ => cases h
  | stop agentId =>
    cases i with
    | go =>
      simp only [step] at h
      split at h
      · cases h
        exact .goes rfl nofun
      · cases h
        exact moves_inl rfl (follows_without_port (.inl rfl) rfl)
    | _ => cases h
  | wait agentId child | waitKilled agentId child =>
    cases i with
    | go =>
      cases h
      exact moves_ended rfl rfl rfl
    | drop =>
      cases h
      exact .goes rfl nofun
    | yield => cases h
    | _ =>
      cases h
      exact moves_inl rfl (follows_without_port (.inl rfl) rfl)
  | remove agentId =>
    cases i with
    | go =>
      cases h
      exact .removed
    | _ => cases h
  | removeProcess agentId =>
    cases i with
    | go =>
      simp only [step] at h
      split at h
      · cases h
        exact .goes rfl nofun
      next hsome =>
        cases h
        exact .killing hsome
    | _ => cases h
  | kill agentId process =>
    cases i with
    | go =>
      cases h
      refine .ended ?_ nofun
      intro entry hentry
      cases hentry
      rfl
    | _ => cases h
  | exit child =>
    cases i with
    | go =>
      cases h
      exact .ended nofun nofun
    | _ => cases h

end Moves

end AdkGateway.ProcessManager
