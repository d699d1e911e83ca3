import AdkGateway.Foundation.Machine
import AdkGateway.ProcessManager.Manager
import Mathlib.Data.Nat.Find

namespace AdkGateway.ProcessManager

open Foundation

def isPortActive (pm : ProcessManager) (port : UInt16) : Bool :=
  (KeyedMap.values pm.processes).any fun process ↦ process.port == port

/-- What a call returns, and whether the cursor has gone past the last port there is. -/
structure Allocation where
  result : Except String UInt16
  overflowed : Bool

/-- The loop with so many tries left; `binds` are the ports that no other program holds. -/
def allocateFrom (binds : UInt16 → Bool) : ℕ → ProcessManager → Allocation × ProcessManager
  | 0, pm => (⟨.error pm.noPorts, false⟩, pm)
  | left + 1, pm =>
    let port := pm.nextPort
    let overflows := port == 65535
    let fetched := { pm with nextPort := pm.nextPort + 1 }
    let goOn := fun pm ↦ (allocateFrom binds left pm).map
      (fun allocation ↦ { allocation with overflowed := overflows || allocation.overflowed }) id
    if pm.endPort < port then goOn { fetched with nextPort := pm.startPort }
    else if !pm.isPortActive port && binds port then (⟨.ok port, overflows⟩, fetched)
    else goOn fetched

/-- `allocate_port`, when no other thread uses the manager in the meantime. -/
def allocatePort (binds : UInt16 → Bool) (pm : ProcessManager) : Allocation × ProcessManager :=
  allocateFrom binds pm.rangeLen pm

/-- A port that neither a child process nor another program uses. -/
def free (pm : ProcessManager) (binds : UInt16 → Bool) (port : UInt16) : Bool :=
  !pm.isPortActive port && binds port

def inRange (pm : ProcessManager) (port : UInt16) : Prop := pm.startPort ≤ port ∧ port ≤ pm.endPort

/-- The port that is returned is one of the range and not active, none is returned only if none is
free, and the cursor stays within its 16 bits. -/
structure Allocates (pm : ProcessManager) (binds : UInt16 → Bool) : Prop where
  sound : ∀ port, (pm.allocatePort binds).1.result = .ok port →
    pm.inRange port ∧ pm.isPortActive port = false
  complete : ∀ e, (pm.allocatePort binds).1.result = .error e →
    ∀ port, pm.inRange port → pm.free binds port = false
  bounded : (pm.allocatePort binds).1.overflowed = false

/-- Some port from `a` on and before `b` is free. -/
def FreeBetween (pm : ProcessManager) (binds : UInt16 → Bool) (a b : ℕ) : Prop :=
  ∃ port : UInt16, pm.free binds port = true ∧ a ≤ port.toNat ∧ port.toNat < b

/-- Where the range takes up all ports, or none, no try is made. Else a free port is ahead of the
cursor; or the cursor is at the start; or the cursor can go back to the start, and the port before
it, for which no try is left, is not the only one that is free. -/
def Serves (pm : ProcessManager) (binds : UInt16 → Bool) : Prop :=
  if pm.rangeLen = 0 then ¬ pm.FreeBetween binds pm.startPort.toNat (pm.endPort.toNat + 1)
  else if pm.endPort < pm.startPort then pm.startPort ≠ 65535
  else
    pm.FreeBetween binds pm.nextPort.toNat (min (pm.endPort.toNat + 1) 65535) ∨
      (pm.nextPort = pm.startPort ∧ pm.endPort.toNat < 65535) ∨
        (pm.endPort.toNat < 65534 ∧
          (pm.FreeBetween binds (pm.nextPort.toNat - 1) pm.nextPort.toNat →
            pm.FreeBetween binds pm.startPort.toNat (pm.nextPort.toNat - 1)))

structure PortCall where
  processes : KeyedMap String ManagedProcess
  binds : UInt16 → Bool

def found (pm : ProcessManager) (call : PortCall) : ProcessManager :=
  { pm with processes := call.processes }

def portStep (pm : ProcessManager) (call : PortCall) : Allocation × ProcessManager :=
  (pm.found call).allocatePort call.binds

section Alone

variable {binds : UInt16 → Bool} {pm : ProcessManager}

/-- A step of the only call there is, where just the ports of `binds` can be bound. -/
def Alone (binds : UInt16 → Bool) (s s' : Point × ProcessManager) : Prop :=
  ∃ i, step i s.1 s.2 = some (s'.2, .inl s'.1, []) ∧
    ∀ args port left, s.1 = .bindPort args port left → (i = .go ↔ binds port = true)

def afterSearch (args : SpawnArgs) : Except String UInt16 → Point
  | .ok port => .startChild args port
  | .error _ => .fetchAdd args 0

theorem Alone.of_step {i : Input} {p p' : Point} {pm' : ProcessManager}
    (hstep : step i p pm = some (pm', .inl p', []))
    (hp : ∀ args port left, p ≠ .bindPort args port left) : Alone binds (p, pm) (p', pm') :=
  ⟨i, hstep, fun args port left h ↦ absurd h (hp args port left)⟩

theorem alone_iterate {args : SpawnArgs} {port : UInt16} {left : ℕ}
    (hactive : pm.isPortActive port = false) (unseen : List String) :
    Relation.ReflTransGen (Alone binds) (.iterate args port left unseen, pm)
      (.iterate args port left [], pm) := by
  induction unseen with
  | nil => exact .refl
  | cons agentId unseen ih =>
    have hother : (pm.processes.lookup agentId).any (·.port == port) = false := by
      cases hentry : pm.processes.lookup agentId with
      | none => rfl
      | some process =>
        rw [isPortActive, List.any_eq_false] at hactive
        simpa using hactive process (KeyedMap.mem_values.mpr ⟨agentId, hentry⟩)
    refine .head (.of_step (i := .yield agentId) ?_ (by simp)) ih
    rw [step, hother, List.erase_cons_head]
    rfl

theorem alone_active {args : SpawnArgs} {port : UInt16} {left : ℕ}
    (hactive : pm.isPortActive port = true) :
    Relation.ReflTransGen (Alone binds) (.isPortActive args port left, pm)
      (.fetchAdd args left, pm) := by
  obtain ⟨process, hmem, hport⟩ := List.any_eq_true.mp hactive
  obtain ⟨agentId, hentry⟩ := KeyedMap.mem_values.mp hmem
  have hlook : Alone binds (.isPortActive args port left, pm)
      (.iterate args port left pm.processes.keys, pm) := .of_step (i := .go) rfl (by simp)
  refine .head hlook (.single (.of_step (i := .yield agentId) ?_ (by simp)))
  rw [step, hentry, Option.any_some, hport]
  rfl

theorem alone_bindPort {args : SpawnArgs} {port : UInt16} {left : ℕ}
    (hactive : pm.isPortActive port = false) :
    Relation.ReflTransGen (Alone binds) (.isPortActive args port left, pm)
      (.bindPort args port left, pm) := by
  have hlook : Alone binds (.isPortActive args port left, pm)
      (.iterate args port left pm.processes.keys, pm) := .of_step (i := .go) rfl (by simp)
  exact .head hlook (.tail (alone_iterate hactive _) (.of_step (i := .go) rfl (by simp)))

/-- A spawn that no other call comes between allocates its port as the loop does. -/
theorem alone_allocateFrom (args : SpawnArgs) (left : ℕ) (pm : ProcessManager) :
    Relation.ReflTransGen (Alone binds) (.fetchAdd args left, pm)
      (afterSearch args (allocateFrom binds left pm).1.result, (allocateFrom binds left pm).2) := by
  induction left generalizing pm with
  | zero => exact .refl
  | succ left ih =>
    rw [allocateFrom]
    split
    case isTrue hbehind =>
      have hfetch : Alone binds (.fetchAdd args (left + 1), pm)
          (.storeStart args left, { pm with nextPort := pm.nextPort + 1 }) := by
        refine .of_step (i := .go) ?_ (by simp)
        rw [step, if_pos hbehind]
      exact .head hfetch (.head (.of_step (i := .go) rfl (by simp)) (ih _))
    case isFalse hinside =>
      have hfetch : Alone binds (.fetchAdd args (left + 1), pm)
          (.isPortActive args pm.nextPort left, { pm with nextPort := pm.nextPort + 1 }) := by
        refine .of_step (i := .go) ?_ (by simp)
        rw [step, if_neg hinside]
      cases hactive : pm.isPortActive pm.nextPort
      case true =>
        exact .head hfetch (.trans (alone_active hactive) (ih _))
      case false =>
        have htry := @alone_bindPort binds { pm with nextPort := pm.nextPort + 1 } args
          pm.nextPort left hactive
        cases hbinds : binds pm.nextPort
        case true =>
          exact .head hfetch (.tail htry ⟨.go, rfl, by simp [hbinds]⟩)
        case false =>
          refine .head hfetch (.trans htry (.head ⟨.fail, rfl, ?_⟩ (ih _)))
          simp [hbinds]

end Alone

section Cursor

variable {pm : ProcessManager} {binds : UInt16 → Bool}

def moveTo (pm : ProcessManager) (cursor : ℕ) : ProcessManager :=
  { pm with nextPort := UInt16.ofNat cursor }

theorem toNat_ofNat {n : ℕ} (h : n < 65536) : (UInt16.ofNat n).toNat = n :=
  UInt16.toNat_ofNat_of_lt' h

theorem moveTo_nextPort (pm : ProcessManager) : pm.moveTo pm.nextPort.toNat = pm := by
  rw [moveTo, UInt16.ofNat_toNat]

theorem rangeLen_eq (h : pm.startPort.toNat ≤ pm.endPort.toNat) :
    pm.rangeLen = (pm.endPort.toNat + 1 - pm.startPort.toNat) % 65536 := by
  have hend := pm.endPort.toNat_lt
  rw [rangeLen, UInt16.toNat_add, UInt16.toNat_sub, UInt16.toNat_one]
  omega

theorem not_freeBetween {a b : ℕ} : ¬ pm.FreeBetween binds a b ↔
    ∀ n, a ≤ n → n < b → n < 65536 → pm.free binds (UInt16.ofNat n) = false := by
  constructor
  · intro h n ha hb hn
    by_contra hfree
    exact h ⟨UInt16.ofNat n, by simpa using hfree, by rwa [toNat_ofNat hn], by rwa [toNat_ofNat hn]⟩
  · intro h hbetween
    obtain ⟨port, hfree, ha, hb⟩ := hbetween
    have hport := h port.toNat ha hb port.toNat_lt
    rw [UInt16.ofNat_toNat, hfree] at hport
    cases hport

theorem FreeBetween.exists_first {a b : ℕ} (h : pm.FreeBetween binds a b) :
    ∃ k, a + k < b ∧ a + k < 65536 ∧ pm.free binds (UInt16.ofNat (a + k)) = true ∧
      ¬ pm.FreeBetween binds a (a + k) := by
  obtain ⟨port, hfree, ha, hb⟩ := h
  have hlt := port.toNat_lt
  have hsum : a + (port.toNat - a) = port.toNat := by omega
  have hexists : ∃ k, pm.free binds (UInt16.ofNat (a + k)) = true := by
    refine ⟨port.toNat - a, ?_⟩
    rwa [hsum, UInt16.ofNat_toNat]
  have hle : Nat.find hexists ≤ port.toNat - a := Nat.find_min' hexists (by
    rwa [hsum, UInt16.ofNat_toNat])
  refine ⟨Nat.find hexists, by omega, by omega, Nat.find_spec hexists, ?_⟩
  rw [not_freeBetween]
  intro n han hn _
  have hmin := Nat.find_min hexists (show n - a < Nat.find hexists by omega)
  rwa [Bool.not_eq_true, show a + (n - a) = n by omega] at hmin

/-- The cursor comes to a port of the range: it is taken if it is free, and else passed over. -/
theorem allocateFrom_inside (left c : ℕ) (hend : c ≤ pm.endPort.toNat) :
    allocateFrom binds (left + 1) (pm.moveTo c) =
      if pm.free binds (UInt16.ofNat c) then (⟨.ok (UInt16.ofNat c), c == 65535⟩, pm.moveTo (c + 1))
      else (allocateFrom binds left (pm.moveTo (c + 1))).map
        (fun allocation ↦ { allocation with
          overflowed := (c == 65535) || allocation.overflowed }) id := by
  have hlt := pm.endPort.toNat_lt
  have hc : (UInt16.ofNat c).toNat = c := toNat_ofNat (by omega)
  have hinside : ¬ pm.endPort < UInt16.ofNat c := by
    rw [UInt16.lt_iff_toNat_lt, hc]
    omega
  have hlast : (UInt16.ofNat c == 65535) = (c == 65535) := by
    rw [Bool.eq_iff_iff, beq_iff_eq, beq_iff_eq, ← UInt16.toNat_inj, hc]
    rfl
  have hnext : UInt16.ofNat c + 1 = UInt16.ofNat (c + 1) := (UInt16.ofNat_add c 1).symm
  rw [allocateFrom, ← hlast]
  simp only [moveTo, hinside, if_false, hnext]
  rfl

/-- Behind the range it goes back to the start, and the try is lost. -/
theorem allocateFrom_behind (left c : ℕ) (hend : pm.endPort.toNat < c) (hc : c < 65536) :
    allocateFrom binds (left + 1) (pm.moveTo c) =
      (allocateFrom binds left (pm.moveTo pm.startPort.toNat)).map
        (fun allocation ↦ { allocation with
          overflowed := (c == 65535) || allocation.overflowed }) id := by
  have hnat : (UInt16.ofNat c).toNat = c := toNat_ofNat hc
  have hbehind : pm.endPort < UInt16.ofNat c := by
    rwa [UInt16.lt_iff_toNat_lt, hnat]
  have hlast : (UInt16.ofNat c == 65535) = (c == 65535) := by
    rw [Bool.eq_iff_iff, beq_iff_eq, beq_iff_eq, ← UInt16.toNat_inj, hnat]
    rfl
  rw [allocateFrom, ← hlast]
  simp only [moveTo, hbehind, if_true, UInt16.ofNat_toNat]

theorem allocateFrom_add (left c k : ℕ) (hend : c + k ≤ pm.endPort.toNat + 1)
    (hbound : c + k ≤ 65535) (hnone : ¬ pm.FreeBetween binds c (c + k)) :
    allocateFrom binds (left + k) (pm.moveTo c) = allocateFrom binds left (pm.moveTo (c + k)) := by
  induction k generalizing c with
  | zero => rfl
  | succ k ih =>
    have hfree := not_freeBetween.mp hnone c le_rfl (by omega) (by omega)
    have hrest : ¬ pm.FreeBetween binds (c + 1) (c + 1 + k) := by
      rw [not_freeBetween] at hnone ⊢
      exact fun n ha hb ↦ hnone n (by omega) (by omega)
    have hlast : (c == 65535) = false := by
      rw [beq_eq_false_iff_ne]
      omega
    rw [← Nat.add_assoc, allocateFrom_inside _ _ (by omega), hfree, hlast, ih (c + 1) (by omega)
      (by omega) hrest, show c + 1 + k = c + (k + 1) by omega]
    rfl

theorem allocateFrom_first {left c k : ℕ} (hleft : k < left) (hend : c + k ≤ pm.endPort.toNat)
    (hbound : c + k < 65535) (hfree : pm.free binds (UInt16.ofNat (c + k)) = true)
    (hnone : ¬ pm.FreeBetween binds c (c + k)) :
    allocateFrom binds left (pm.moveTo c) =
      (⟨.ok (UInt16.ofNat (c + k)), false⟩, pm.moveTo (c + k + 1)) := by
  obtain ⟨rest, rfl⟩ : ∃ rest, left = rest + 1 + k := ⟨left - 1 - k, by omega⟩
  have hlast : (c + k == 65535) = false := by
    rw [beq_eq_false_iff_ne]
    omega
  rw [allocateFrom_add _ _ _ (by omega) (by omega) hnone, allocateFrom_inside _ _ hend, hfree, hlast]
  rfl

end Cursor

section Calls

variable {pm pm' : ProcessManager} {binds : UInt16 → Bool} {a b c : ℕ}

theorem freeBetween_append (hab : a ≤ b) (hbc : b ≤ c) : pm.FreeBetween binds a c ↔
    pm.FreeBetween binds a b ∨ pm.FreeBetween binds b c := by
  constructor
  · intro h
    obtain ⟨port, hfree, ha, hc⟩ := h
    by_cases hb : port.toNat < b
    · exact .inl ⟨port, hfree, ha, hb⟩
    · exact .inr ⟨port, hfree, Nat.not_lt.mp hb, hc⟩
  · intro h
    rcases h with ⟨port, hfree, ha, hb⟩ | ⟨port, hfree, hb, hc⟩
    · exact ⟨port, hfree, ha, by omega⟩
    · exact ⟨port, hfree, by omega, hc⟩

theorem forall_inRange : (∀ port, pm.inRange port → pm.free binds port = false) ↔
    ¬ pm.FreeBetween binds pm.startPort.toNat (pm.endPort.toNat + 1) := by
  constructor
  · intro h hfree
    obtain ⟨port, hfree, hstart, hend⟩ := hfree
    rw [h port ⟨hstart, Nat.lt_succ_iff.mp hend⟩] at hfree
    cases hfree
  · intro h port hin
    by_contra hfree
    exact h ⟨port, by simpa using hfree, hin.1, Nat.lt_succ_iff.mpr hin.2⟩

theorem allocates_of_ok {port : UInt16} (h : pm.allocatePort binds = (⟨.ok port, false⟩, pm'))
    (hin : pm.inRange port) (hfree : pm.free binds port = true) : pm.Allocates binds := by
  rw [free, Bool.and_eq_true, Bool.not_eq_true'] at hfree
  refine ⟨fun port' hport ↦ ?_, fun e he ↦ ?_, by rw [h]⟩
  · rw [h] at hport
    cases hport
    exact ⟨hin, hfree.1⟩
  · rw [h] at he
    cases he

theorem allocates_of_error {e : String} (h : pm.allocatePort binds = (⟨.error e, false⟩, pm')) :
    pm.Allocates binds ↔
      ¬ pm.FreeBetween binds pm.startPort.toNat (pm.endPort.toNat + 1) := by
  rw [← forall_inRange]
  constructor
  · intro hallocates
    exact hallocates.complete e (by rw [h])
  · intro hnone
    refine ⟨fun port hport ↦ ?_, fun _ _ ↦ hnone, by rw [h]⟩
    rw [h] at hport
    cases hport

theorem not_allocates_of_overflowed (h : (pm.allocatePort binds).1.overflowed = true) : ¬ pm.Allocates binds := by
  intro hallocates
  rw [hallocates.bounded] at h
  cases h

structure Ready (pm : ProcessManager) : Prop where
  within : pm.startPort.toNat ≤ pm.endPort.toNat →
    pm.startPort.toNat ≤ pm.nextPort.toNat ∧ pm.nextPort.toNat ≤ pm.endPort.toNat + 1
  empty : pm.endPort.toNat < pm.startPort.toNat → pm.nextPort = pm.startPort

theorem ready_moveTo (hstart : pm.startPort.toNat ≤ c) (hend : c ≤ pm.endPort.toNat + 1)
    (hbound : c < 65536) (hle : pm.startPort.toNat ≤ pm.endPort.toNat) : Ready (pm.moveTo c) := by
  have hc : (pm.moveTo c).nextPort.toNat = c := toNat_ofNat hbound
  refine ⟨fun _ ↦ ?_, fun hlt ↦ absurd hle (Nat.not_le.mpr hlt)⟩
  rw [hc]
  exact ⟨hstart, hend⟩

/-- In an empty range the cursor is put back to the start again and again. -/
theorem allocateFrom_empty (hempty : pm.endPort.toNat < pm.startPort.toNat) (left : ℕ) :
    allocateFrom binds left (pm.moveTo pm.startPort.toNat) =
      (⟨.error pm.noPorts, decide (left ≠ 0) && pm.startPort.toNat == 65535⟩,
        pm.moveTo pm.startPort.toNat) := by
  induction left with
  | zero => rfl
  | succ left ih =>
    rw [allocateFrom_behind left _ hempty pm.startPort.toNat_lt, ih]
    cases pm.startPort.toNat == 65535 <;> simp

theorem allocateFrom_ok {left : ℕ} (h : pm.FreeBetween binds c b) (hleft : b ≤ c + left)
    (hstart : pm.startPort.toNat ≤ c) (hend : b ≤ pm.endPort.toNat + 1) (hbound : b ≤ 65535) :
    ∃ port pm', allocateFrom binds left (pm.moveTo c) = (⟨.ok port, false⟩, pm') ∧
      pm.inRange port ∧ pm.free binds port = true ∧ Ready pm' := by
  obtain ⟨k, hk, -, hfree, hnone⟩ := h.exists_first
  have hport : (UInt16.ofNat (c + k)).toNat = c + k := toNat_ofNat (by omega)
  refine ⟨_, _, allocateFrom_first (by omega) (by omega) (by omega) hfree hnone, ?_, hfree,
    ready_moveTo (by omega) (by omega) (by omega) (by omega)⟩
  rw [inRange, UInt16.le_iff_toNat_le, UInt16.le_iff_toNat_le, hport]
  omega

theorem allocateFrom_error (left : ℕ) (hnone : ¬ pm.FreeBetween binds c (c + left))
    (hend : c + left ≤ pm.endPort.toNat + 1) (hbound : c + left ≤ 65535) :
    allocateFrom binds left (pm.moveTo c) =
      (⟨.error pm.noPorts, false⟩, pm.moveTo (c + left)) := by
  have hsearch := allocateFrom_add 0 c left hend hbound hnone
  rwa [Nat.zero_add] at hsearch

/-- The search from the cursor on, when there is no free port ahead of it: it goes on from the
start, with no try left for the port before the cursor. -/
theorem allocatePort_behind (hlen : pm.rangeLen = pm.endPort.toNat + 1 - pm.startPort.toNat)
    (hstart : pm.startPort.toNat < pm.nextPort.toNat)
    (hend : pm.nextPort.toNat ≤ pm.endPort.toNat + 1) (hbound : pm.endPort.toNat < 65535)
    (hnone : ¬ pm.FreeBetween binds pm.nextPort.toNat (pm.endPort.toNat + 1)) :
    pm.allocatePort binds =
      (allocateFrom binds (pm.nextPort.toNat - 1 - pm.startPort.toNat)
          (pm.moveTo pm.startPort.toNat)).map
        (fun allocation ↦ { allocation with
          overflowed := (pm.endPort.toNat + 1 == 65535) || allocation.overflowed }) id := by
  have hahead : pm.nextPort.toNat + (pm.endPort.toNat + 1 - pm.nextPort.toNat) =
      pm.endPort.toNat + 1 := by omega
  have hleft : pm.rangeLen = pm.nextPort.toNat - 1 - pm.startPort.toNat + 1 +
      (pm.endPort.toNat + 1 - pm.nextPort.toNat) := by omega
  have hsearch := @allocateFrom_add pm binds (pm.nextPort.toNat - 1 - pm.startPort.toNat + 1)
    pm.nextPort.toNat (pm.endPort.toNat + 1 - pm.nextPort.toNat) (by omega) (by omega)
    (by rwa [hahead])
  rw [hahead, moveTo_nextPort, ← hleft, allocateFrom_behind _ _ (by omega) (by omega)] at hsearch
  exact hsearch

theorem overflowed_of_last (hlen : pm.rangeLen = pm.endPort.toNat + 1 - pm.startPort.toNat)
    (hstart : pm.startPort.toNat ≤ pm.nextPort.toNat) (hlast : pm.endPort.toNat = 65535)
    (hnone : ¬ pm.FreeBetween binds pm.nextPort.toNat 65535) :
    (pm.allocatePort binds).1.overflowed = true := by
  have hcursor := pm.nextPort.toNat_lt
  have hk : pm.nextPort.toNat + (65535 - pm.nextPort.toNat) = 65535 := by omega
  obtain ⟨rest, hrest⟩ : ∃ rest, pm.rangeLen = rest + 1 + (65535 - pm.nextPort.toNat) :=
    ⟨pm.rangeLen - 1 - (65535 - pm.nextPort.toNat), by omega⟩
  have hsearch := @allocateFrom_add pm binds (rest + 1) pm.nextPort.toNat
    (65535 - pm.nextPort.toNat) (by omega) (by omega) (by rwa [hk])
  rw [hk, moveTo_nextPort, ← hrest, allocateFrom_inside _ _ (by omega)] at hsearch
  rw [allocatePort, hsearch]
  split <;> rfl

/-- What a call does is right just if it is served, and then the next call finds the cursor in its
place. -/
def Answers (pm : ProcessManager) (binds : UInt16 → Bool) : Prop :=
  (pm.Allocates binds ↔ pm.Serves binds) ∧ (pm.Serves binds → Ready (pm.allocatePort binds).2)

theorem answers_of_ok (hserves : pm.Serves binds)
    (h : ∃ port pm', pm.allocatePort binds = (⟨.ok port, false⟩, pm') ∧
      pm.inRange port ∧ pm.free binds port = true ∧ Ready pm') : pm.Answers binds := by
  obtain ⟨port, pm', hcall, hin, hfree, hready⟩ := h
  refine ⟨iff_of_true (allocates_of_ok hcall hin hfree) hserves, fun _ ↦ ?_⟩
  rwa [hcall]

theorem answers_of_overflowed (hserves : ¬ pm.Serves binds)
    (h : (pm.allocatePort binds).1.overflowed = true) : pm.Answers binds :=
  ⟨iff_of_false (not_allocates_of_overflowed h) hserves, fun hs ↦ absurd hs hserves⟩

theorem answers_of_error {e : String} (h : pm.allocatePort binds = (⟨.error e, false⟩, pm'))
    (hserves : pm.Serves binds ↔
      ¬ pm.FreeBetween binds pm.startPort.toNat (pm.endPort.toNat + 1)) (hready : Ready pm') :
    pm.Answers binds := by
  refine ⟨(allocates_of_error h).trans hserves.symm, fun _ ↦ ?_⟩
  rwa [h]

theorem answers_within (hle : pm.startPort.toNat ≤ pm.endPort.toNat)
    (hlen : pm.rangeLen = pm.endPort.toNat + 1 - pm.startPort.toNat) (hready : Ready pm) :
    pm.Answers binds := by
  obtain ⟨hstart, hend⟩ := hready.within hle
  have hcursor := pm.nextPort.toNat_lt
  have hlast := pm.endPort.toNat_lt
  have hnotEmpty : ¬ pm.endPort < pm.startPort := Nat.not_lt.mpr hle
  have hserves : pm.Serves binds ↔
      pm.FreeBetween binds pm.nextPort.toNat (min (pm.endPort.toNat + 1) 65535) ∨
        (pm.nextPort = pm.startPort ∧ pm.endPort.toNat < 65535) ∨
          (pm.endPort.toNat < 65534 ∧
            (pm.FreeBetween binds (pm.nextPort.toNat - 1) pm.nextPort.toNat →
              pm.FreeBetween binds pm.startPort.toNat (pm.nextPort.toNat - 1))) := by
    rw [Serves, if_neg (by omega), if_neg hnotEmpty]
  by_cases hahead : pm.FreeBetween binds pm.nextPort.toNat (min (pm.endPort.toNat + 1) 65535)
  · refine answers_of_ok (hserves.mpr (.inl hahead)) ?_
    have hok := @allocateFrom_ok pm binds _ _ pm.rangeLen hahead (by omega) hstart (by omega)
      (by omega)
    rwa [moveTo_nextPort] at hok
  by_cases hbound : pm.endPort.toNat < 65535
  case neg =>
    have hlastPort : pm.endPort.toNat = 65535 := by omega
    rw [hlastPort] at hahead hserves
    refine answers_of_overflowed (fun h ↦ ?_) (overflowed_of_last hlen hstart hlastPort hahead)
    rcases hserves.mp h with h | h | h
    · exact hahead h
    · omega
    · omega
  rw [Nat.min_eq_left (by omega)] at hahead hserves
  by_cases hatStart : pm.nextPort = pm.startPort
  · -- all ports of the range are tried
    have hnat : pm.nextPort.toNat = pm.startPort.toNat := congrArg _ hatStart
    have hsum : pm.startPort.toNat + pm.rangeLen = pm.endPort.toNat + 1 := by omega
    have hcall := @allocateFrom_error pm binds pm.startPort.toNat pm.rangeLen
      (by rwa [hsum, ← hnat]) (by omega) (by omega)
    rw [← hnat, moveTo_nextPort, hnat, hsum] at hcall
    rw [hnat] at hahead
    exact answers_of_error hcall (iff_of_true (hserves.mpr (.inr (.inl ⟨hatStart, hbound⟩))) hahead)
      (ready_moveTo (by omega) le_rfl (by omega) hle)
  have hne : pm.nextPort.toNat ≠ pm.startPort.toNat := fun h ↦ hatStart (UInt16.toNat_inj.mp h)
  have hbehind := allocatePort_behind hlen (by omega) hend hbound hahead
  rw [or_iff_right hahead, or_iff_right fun h ↦ hatStart h.1] at hserves
  by_cases hroom : pm.endPort.toNat < 65534
  case neg =>
    refine answers_of_overflowed (fun h ↦ hroom (hserves.mp h).1) ?_
    have heq : pm.endPort.toNat + 1 = 65535 := by omega
    rw [hbehind, heq]
    rfl
  have hstays : (pm.endPort.toNat + 1 == 65535) = false := beq_eq_false_iff_ne.mpr (by omega)
  rw [hstays] at hbehind
  by_cases hagain : pm.FreeBetween binds pm.startPort.toNat (pm.nextPort.toNat - 1)
  · refine answers_of_ok (hserves.mpr ⟨hroom, fun _ ↦ hagain⟩) ?_
    obtain ⟨port, pm', hok, hrest⟩ := @allocateFrom_ok pm binds _ _
      (pm.nextPort.toNat - 1 - pm.startPort.toNat) hagain (by omega) le_rfl (by omega) (by omega)
    rw [hok] at hbehind
    exact ⟨port, pm', hbehind, hrest⟩
  · -- the port before the cursor is the only one that is not tried
    have hbefore : pm.startPort.toNat + (pm.nextPort.toNat - 1 - pm.startPort.toNat) =
        pm.nextPort.toNat - 1 := by omega
    rw [allocateFrom_error _ (by rwa [hbefore]) (by omega) (by omega), hbefore] at hbehind
    have hsplit : pm.FreeBetween binds pm.startPort.toNat (pm.endPort.toNat + 1) ↔
        pm.FreeBetween binds (pm.nextPort.toNat - 1) pm.nextPort.toNat := by
      rw [freeBetween_append (by omega) hend, or_iff_left hahead,
        @freeBetween_append pm binds _ (pm.nextPort.toNat - 1) _ (by omega) (by omega),
        or_iff_right hagain]
    refine answers_of_error hbehind ?_ (ready_moveTo (by omega) (by omega) (by omega) hle)
    rw [hserves, hsplit, and_iff_right hroom]
    exact ⟨fun h hfree ↦ hagain (h hfree), fun h hfree ↦ absurd hfree h⟩

theorem answers (binds : UInt16 → Bool) (hready : Ready pm) : pm.Answers binds := by
  have hend := pm.endPort.toNat_lt
  have hstart := pm.startPort.toNat_lt
  by_cases hnoTry : pm.rangeLen = 0
  · have hcall : pm.allocatePort binds = (⟨.error pm.noPorts, false⟩, pm) := by
      rw [allocatePort, hnoTry]
      rfl
    refine answers_of_error hcall ?_ hready
    rw [Serves, if_pos hnoTry]
  · by_cases hempty : pm.endPort.toNat < pm.startPort.toNat
    · have hcursor := hready.empty hempty
      have hcall := @allocateFrom_empty pm binds hempty pm.rangeLen
      rw [← hcursor, moveTo_nextPort, hcursor] at hcall
      have hnone : pm.endPort < pm.startPort := hempty
      have hserves : pm.Serves binds ↔ pm.startPort ≠ 65535 := by
        rw [Serves, if_neg hnoTry, if_pos hnone]
      by_cases hlast : pm.startPort = 65535
      · refine answers_of_overflowed (fun h ↦ hserves.mp h hlast) ?_
        rw [allocatePort, hcall, hlast]
        simp [hnoTry]
      · have hstays : (pm.startPort.toNat == 65535) = false := by
          rw [beq_eq_false_iff_ne]
          exact fun h ↦ hlast (UInt16.toNat_inj.mp h)
        rw [hstays, Bool.and_false] at hcall
        refine answers_of_error hcall (iff_of_true (hserves.mpr hlast) ?_) hready
        intro hfree
        obtain ⟨port, -, hfrom, hto⟩ := hfree
        omega
    · have hle := Nat.not_lt.mp hempty
      have hlen := rangeLen_eq hle
      exact answers_within hle (by omega) hready

end Calls

section Runs

/-- At each call, the port that is returned is one of the range and not active, or none is free, and
the cursor does not overflow, just if each call finds a free port ahead of the cursor or can do
without one. -/
theorem allocates_iff_serves (startPort endPort : UInt16) (calls : List PortCall) :
    Machine.Along portStep (fun pm call ↦ (pm.found call).Allocates call.binds)
        (.new startPort endPort) calls ↔
      Machine.Along portStep (fun pm call ↦ (pm.found call).Serves call.binds)
        (.new startPort endPort) calls := by
  refine @Machine.along_iff_along _ _ _ portStep Ready _ _ (fun pm call hready ↦ ?_) _ ?_ calls
  · exact answers call.binds ⟨hready.within, hready.empty⟩
  · exact ⟨fun hle ↦ ⟨le_rfl, Nat.le_succ_of_le hle⟩, fun _ ↦ rfl⟩

/-- In the range from 10 to 11 both ports are given out; then 11 gets free again, but the first try
is lost behind the range and the second goes to 10. -/
def freedAgain : List PortCall :=
  [⟨∅, fun _ ↦ true⟩, ⟨∅, fun _ ↦ true⟩, ⟨AList.singleton "left" ⟨10, 0⟩, fun _ ↦ true⟩]

theorem not_forall_allocates : ¬ ∀ (startPort endPort : UInt16) (calls : List PortCall),
    Machine.Along portStep (fun pm call ↦ (pm.found call).Allocates call.binds)
      (.new startPort endPort) calls := by
  intro h
  obtain ⟨-, -, hthird, -⟩ := h 10 11 freedAgain
  have hfree := hthird.complete _ rfl 11 ⟨by decide, by decide⟩
  exact absurd hfree (by decide)

end Runs

end AdkGateway.ProcessManager
