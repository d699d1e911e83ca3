import AdkGateway.Shutdown.Coordinator

namespace AdkGateway.Shutdown.ShutdownCoordinator

open Foundation Interleaving

/-- A guard that has not been dropped. -/
@[simp] def live : Point → ℕ
  | .guard => 1
  | _ => 0

/-- An `acquire` that has counted itself and neither returned a guard nor undone it. -/
@[simp] def undecided : Point → ℕ
  | .recheck => 1
  | .rollback => 1
  | _ => 0

def held (ps : List Point) : ℕ := load live ps + load undecided ps

def Stopped : Point → Prop
  | .drain | .sleep | .countRemaining | .cancel _ => True
  | _ => False

section Moves

variable {s s' : ShutdownCoordinator} {p p' : Point} {o : Point ⊕ Output} {evs : List Event}

/-- The counter counts guards and undecided calls, as far as it goes. -/
theorem moves_inFlight (hm : Moves s p s' o evs) :
    (s'.inFlight.toNat + live p + undecided p) % 2 ^ 32 =
      (s.inFlight.toNat + held (remaining o)) % 2 ^ 32 := by
  cases hm with
  | increment =>
    simp [held, UInt32.toNat_add]
  | rollback | release =>
    have hlt := s.inFlight.toNat_lt
    simp only [held, UInt32.toNat_sub, remaining_inr, load_nil, live, undecided, UInt32.toNat_one]
    omega
  | _ => simp [held]

theorem moves_accepting (hm : Moves s p s' o evs) (hs : s.accepting = false) :
    s'.accepting = false := by
  cases hm with
  | stopAccepting => rfl
  | _ => exact hs

theorem moves_live (hm : Moves s p s' o evs) (hs : s.accepting = false) :
    load live (remaining o) ≤ live p := by
  cases hm with
  | grant hyes =>
    rw [hs] at hyes
    cases hyes
  | _ => simp

theorem moves_stopped (hm : Moves s p s' o evs) (hp' : p' ∈ remaining o) (hstopped : Stopped p') :
    Stopped p ∨ s'.accepting = false := by
  cases hm with
  | stopAccepting => exact .inr rfl
  | wait | drained | wake | elapsed | countRemaining => exact .inl trivial
  | _ => simp_all [Stopped]

theorem moves_drained (hm : Moves s p s' o evs) (he : .drained ∈ evs) :
    p = .drain ∧ s.inFlight = 0 ∧ s' = s ∧ load live (remaining o) = 0 := by
  cases hm with
  | drained hzero => exact ⟨rfl, hzero, rfl, rfl⟩
  | _ => simp at he

theorem moves_cancelling (hm : Moves s p s' o evs) (hp' : .cancel true ∈ remaining o) :
    .drained ∈ evs := by
  cases hm with
  | drained => simp
  | _ => simp at hp'

theorem moves_cancelled (hm : Moves s p s' o evs) (he : .cancelled true ∈ evs) :
    p = .cancel true := by
  cases hm with
  | cancel =>
    obtain rfl := by simpa using he
    rfl
  | _ => simp at he

theorem moves_granted (hm : Moves s p s' o evs) (he : .granted ∈ evs) :
    s.accepting = true ∧ evs = [.granted] := by
  cases hm with
  | grant hyes => exact ⟨hyes, rfl⟩
  | _ => simp at he

end Moves

def Counted (c : Config ShutdownCoordinator Point Event) : Prop :=
  c.shared.inFlight.toNat = held c.inFlight % 2 ^ 32

structure Sealed (c : Config ShutdownCoordinator Point Event) : Prop where
  stopped : ∀ p ∈ c.inFlight, Stopped p → c.shared.accepting = false
  drained : .drained ∈ c.history → c.shared.accepting = false ∧ load live c.inFlight = 0
  cancelling : .cancel true ∈ c.inFlight → .drained ∈ c.history
  cancelled : .cancelled true ∈ c.history → .drained ∈ c.history
  last : ¬ Before (.cancelled true) .granted c.history

/-- Guards and undecided calls fit into the counter. -/
def Fits (c : Config ShutdownCoordinator Point Event) : Prop := held c.inFlight < 2 ^ 32

section Steps

variable {s s' : ShutdownCoordinator} {l r : List Point} {p : Point} {o : Point ⊕ Output}
  {h evs : List Event}

theorem Counted.act (hc : Counted ⟨s, l ++ p :: r, h⟩) (hm : Moves s p s' o evs) :
    Counted ⟨s', l ++ (remaining o ++ r), h ++ evs⟩ := by
  have hmove := moves_inFlight hm
  have hlive := load_act live l r p o
  have hundecided := load_act undecided l r p o
  have hlt := s'.inFlight.toNat_lt
  unfold Counted held at hc ⊢
  unfold held at hmove
  simp only at hc ⊢
  omega

theorem Sealed.act (hc : Sealed ⟨s, l ++ p :: r, h⟩) (hcounted : Counted ⟨s, l ++ p :: r, h⟩)
    (hfits : Fits ⟨s, l ++ p :: r, h⟩) (hm : Moves s p s' o evs) :
    Sealed ⟨s', l ++ (remaining o ++ r), h ++ evs⟩ := by
  obtain ⟨hstopped, hdrained, hcancelling, hcancelled, hlast⟩ := hc
  have hlive := load_act live l r p o
  have hnow : .drained ∈ evs →
      s'.accepting = false ∧ load live (l ++ (remaining o ++ r)) = 0 := by
    intro he
    obtain ⟨rfl, hzero, rfl, hnone⟩ := moves_drained hm he
    have hheld : held (l ++ .drain :: r) = 0 := by
      unfold Counted at hcounted
      unfold Fits at hfits
      simp only [hzero] at hcounted hfits
      rw [Nat.mod_eq_of_lt hfits] at hcounted
      exact hcounted.symm
    refine ⟨hstopped .drain (by simp) trivial, ?_⟩
    unfold held at hheld
    omega
  refine ⟨fun p' hp' hstop ↦ ?_, fun he ↦ ?_, fun hp' ↦ ?_, fun he ↦ ?_, fun hbefore ↦ ?_⟩
  · obtain hp' | hp' | hp' := by simpa only [List.mem_append] using hp'
    · exact moves_accepting hm (hstopped p' (by simp [hp']) hstop)
    · obtain hbefore | hnow := moves_stopped hm hp' hstop
      · exact moves_accepting hm (hstopped p (by simp) hbefore)
      · exact hnow
    · exact moves_accepting hm (hstopped p' (by simp [hp']) hstop)
  · obtain he | he := List.mem_append.mp he
    · obtain ⟨hno, hzero⟩ := hdrained he
      have hmove := moves_live hm hno
      simp only at hzero
      exact ⟨moves_accepting hm hno, by simp only; omega⟩
    · exact hnow he
  · obtain hp' | hp' | hp' := by simpa only [List.mem_append] using hp'
    · exact List.mem_append_left _ (hcancelling (by simp [hp']))
    · exact List.mem_append_right _ (moves_cancelling hm hp')
    · exact List.mem_append_left _ (hcancelling (by simp [hp']))
  · obtain he | he := List.mem_append.mp he
    · exact List.mem_append_left _ (hcancelled he)
    · obtain rfl := moves_cancelled hm he
      exact List.mem_append_left _ (hcancelling (by simp))
  · obtain hbefore | ⟨hgranted, hbefore⟩ := hbefore.cases_append
    · exact hlast hbefore
    · obtain ⟨hyes, rfl⟩ := moves_granted hm hgranted
      obtain he | hbefore := hbefore
      · have hno := (hdrained (hcancelled he)).1
        simp only [hyes] at hno
        cases hno
      · exact not_before_singleton _ hbefore

end Steps

theorem counted_of_run {ok : Config ShutdownCoordinator Point Event → Label Call Point Input → Prop}
    {c : Config ShutdownCoordinator Point Event} (hc : Run program ok (initial new) c) :
    Counted c := by
  refine hc.invariant (Q := fun _ ↦ True) (fun _ _ ↦ trivial) rfl (fun k _ _ hi ↦ ?_)
    fun _ hstep _ _ hi ↦ hi.act (moves_of_step hstep)
  cases k <;> simpa [Counted, held, program, start] using hi

theorem sealed_of_run {c : Config ShutdownCoordinator Point Event}
    (hc : Run program (fun c _ ↦ Fits c) (initial new) c) : Sealed c := by
  refine hc.invariant (fun _ ↦ counted_of_run) ?_ (fun k _ _ hi ↦ ?_)
    fun _ hstep hok hq hi ↦ hi.act hq hok (moves_of_step hstep)
  · refine ⟨nofun, nofun, nofun, nofun, fun hbefore ↦ ?_⟩
    exact absurd hbefore.mem List.not_mem_nil
  · obtain ⟨hstopped, hdrained, hcancelling, hcancelled, hlast⟩ := hi
    refine ⟨fun p hp hstop ↦ ?_, ?_, fun hp ↦ ?_, hcancelled, hlast⟩
    · obtain hp | rfl | hp := by simpa only [List.mem_append, List.mem_cons] using hp
      · exact hstopped p (by simp [hp]) hstop
      · cases k <;> exact hstop.elim
      · exact hstopped p (by simp [hp]) hstop
    · cases k <;> simpa [program, start] using hdrained
    · cases k <;> exact hcancelling (by simpa [program, start] using hp)

/-- The counter is exact, no decrement finds it at zero, and once the token is
cancelled after a normal drain no guard is live and none is granted. -/
structure Drains (c : Config ShutdownCoordinator Point Event) : Prop where
  counter : c.shared.inFlight.toNat = load live c.inFlight + load undecided c.inFlight
  positive : ∀ p ∈ c.inFlight, p = .rollback ∨ p = .guard → 0 < c.shared.inFlight.toNat
  quiet : .cancelled true ∈ c.history → load live c.inFlight = 0
  refused : ¬ Before (.cancelled true) .granted c.history

theorem drains_of_fits {c : Config ShutdownCoordinator Point Event} (hc : Counted c)
    (hsealed : Sealed c) (hfits : Fits c) : Drains c := by
  have hcounter : c.shared.inFlight.toNat = load live c.inFlight + load undecided c.inFlight :=
    hc.trans (Nat.mod_eq_of_lt hfits)
  refine ⟨hcounter, fun p hp hdecrement ↦ ?_, fun he ↦ ?_, hsealed.last⟩
  · have hlive : live p ≤ load live c.inFlight := le_load hp
    have hundecided : undecided p ≤ load undecided c.inFlight := le_load hp
    obtain rfl | rfl := hdecrement
    · simp only [undecided] at hundecided
      omega
    · simp only [live] at hlive
      omega
  · exact (hsealed.drained (hsealed.cancelled he)).2

theorem drains_iff_fits (cs : List (Config ShutdownCoordinator Point Event))
    (c : Config ShutdownCoordinator Point Event) (h : Trace program (initial new) cs c) :
    (∀ c' ∈ cs ++ [c], Drains c') ↔ ∀ c' ∈ cs ++ [c], Fits c' := by
  constructor
  · intro hall c' hc'
    have hcounter := (hall c' hc').counter
    have hlt := c'.shared.inFlight.toNat_lt
    unfold Fits held
    omega
  · intro hall c' hc'
    obtain ⟨cs', htrace, hsub⟩ : ∃ cs', Trace program (initial new) cs' c' ∧ cs' ⊆ cs := by
      obtain hc' | hc' := List.mem_append.mp hc'
      · exact h.to_mem hc'
      · cases List.mem_singleton.mp hc'
        exact ⟨cs, h, List.Subset.refl cs⟩
    have hrun : Run program (fun c _ ↦ Fits c) (initial new) c' :=
      htrace.run_of fun c hc _ ↦ hall c (List.mem_append_left _ (hsub hc))
    exact drains_of_fits (counted_of_run hrun) (sealed_of_run hrun) (hall c' hc')

instance : DecidablePred Fits := fun c ↦ inferInstanceAs (Decidable (held c.inFlight < 2 ^ 32))

def restartInFlight : List (Move Call Input) :=
  [.call .acquire, .act 0 .poll, .act 0 .poll, .act 0 .poll, .call .initiateRestart, .act 1 .poll,
    .act 1 .poll, .act 1 .poll, .act 1 .poll, .act 0 .poll, .act 0 .poll, .act 0 .poll, .act 0 .poll]

theorem drains_iff_fits_restartInFlight : ∃ c,
    play program (initial new) restartInFlight = some c ∧ .cancelled true ∈ c.history ∧
      ∀ c' ∈ visits program (initial new) restartInFlight ++ [c], Drains c' :=
  ⟨_, rfl, by decide, (drains_iff_fits _ _ (trace_of_play rfl)).mpr (by decide)⟩

def guards (n : ℕ) : Config ShutdownCoordinator Point Event :=
  ⟨{ new with inFlight := UInt32.ofNat n }, List.replicate n .guard, List.replicate n .granted⟩

theorem reachable_guards (n : ℕ) : Reachable program new (guards n) := by
  induction n with
  | zero => exact .refl
  | succ n ih =>
    have hcall := ih.step trivial (Step.call (l := []) .acquire)
    have hcheck := hcall.step trivial (Step.act (l := []) .poll rfl)
    have hincrement := hcheck.step trivial (Step.act (l := []) .poll rfl)
    have hgrant := hincrement.step trivial (Step.act (l := []) .poll rfl)
    have hnext : guards (n + 1) = ⟨{ new with inFlight := UInt32.ofNat n + 1 },
        .guard :: List.replicate n .guard, List.replicate n .granted ++ [.granted]⟩ := by
      rw [guards, UInt32.ofNat_add, List.replicate_succ, List.replicate_succ']
      rfl
    rw [hnext]
    simpa using hgrant

theorem lt_of_drains_guards {n : ℕ} (h : Drains (guards n)) : n < 2 ^ 32 := by
  have hlive : load live (guards n).inFlight = n := by simp [load, guards]
  have hcounter := h.counter
  have hlt := (guards n).shared.inFlight.toNat_lt
  omega

theorem not_drains : ¬ ∀ c, Reachable program new c → Drains c :=
  fun h ↦ absurd (lt_of_drains_guards (h _ (reachable_guards (2 ^ 32)))) (Nat.lt_irrefl _)

end AdkGateway.Shutdown.ShutdownCoordinator
