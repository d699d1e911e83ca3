import AdkGateway.ToolApproval.Resolution

namespace AdkGateway.ToolApproval

open Foundation Interleaving

variable {uuid : ℕ → String}

/-- No callback that approves, made after the request has expired, finds it in the
map; and no timeout task finds the map without it while another call, which has taken it
out, has yet to send to a receiver that waits. -/
def Timely (c : Config World Point Event) : Label Call Point Input → Prop
  | .act (.remove cb) _ => cb.approved → ∀ approval,
    c.shared.service.pending.lookup cb.callbackId = some approval → cb.madeAt ≤ approval.expiresAt
  | .act (.sleeping id _) _ => c.shared.service.pending.lookup id = none → alive c.shared id →
    ∀ p ∈ c.inFlight, held id p = 0
  | _ => True

def callbacks (h : List Event) : List Callback :=
  pick (fun | .returned cb _ => some cb | _ => none) h

structure Told (c : Config World Point Event) : Prop where
  once : ∀ cb, load (answering cb) c.inFlight + (callbacks c.history).count cb ≤ 1
  unmade : ∀ cb, c.shared.callbacks ≤ cb.serial →
    load (answering cb) c.inFlight + (callbacks c.history).count cb = 0
  source : ∀ id state cb, (state, some cb) ∈ received c.shared id →
    id = cb.callbackId ∧ state = cb.state ∧ .returned cb (.ok ()) ∈ c.history
  delivered : ∀ cb, .returned cb (.ok ()) ∈ c.history →
    (cb.state, some cb) ∈ received c.shared cb.callbackId

section Told

variable {w w' : World} {p : Point} {o : Point ⊕ Output} {l r : List Point} {h evs : List Event}

@[simp] theorem callbacks_resolve {approval : PendingApproval} {state : ApprovalState}
    {source : Option Callback} : (w.resolve approval state source).callbacks = w.callbacks := by
  unfold World.resolve
  cases approval.callbackTx <;> rfl

theorem Moves.answering (hm : Moves uuid w p w' o evs) :
    (w'.callbacks = w.callbacks ∧ ∀ cb,
      load (answering cb) (remaining o) + (callbacks evs).count cb ≤ ToolApproval.answering cb p) ∨
    ∃ cb, cb.serial = w.callbacks ∧ w'.callbacks = w.callbacks + 1 ∧ o = .inl (.remove cb) ∧
      evs = [] := by
  cases hm with
  | @made _ _ cb hserial => exact .inr ⟨cb, hserial, rfl, rfl, rfl⟩
  | removed | unknown | answer =>
    exact .inl ⟨by simp [World.setPending], fun cb ↦ by
      simp [callbacks, ToolApproval.answering, List.count_singleton]⟩
  | _ => exact .inl ⟨by simp [World.setPending, World.openChannel, World.dropReceiver],
      fun cb ↦ Nat.zero_le _⟩

theorem Moves.returned_ok (hm : Moves uuid w p w' o evs) (hp : Sound h p) {cb : Callback}
    (hmem : .returned cb (.ok ()) ∈ evs) :
    (cb.state, some cb) ∈ ToolApproval.received w' cb.callbackId := by
  cases hm with
  | @answer cb' approval =>
    obtain ⟨rfl, hok⟩ := Event.returned.inj (List.mem_singleton.mp hmem)
    rw [answered_eq hp.2.1] at hok
    split at hok
    · rename_i hlive
      rw [received_resolve hp.2.1, if_pos ⟨hp.1, hp.1 ▸ hlive⟩]
      exact List.mem_append_right _ (List.mem_singleton.mpr rfl)
    · cases hok
  | request | unknown | gone | timedOut => cases List.mem_singleton.mp hmem
  | _ => cases hmem

theorem Moves.keeps (hm : Moves uuid w p w' o evs) (huuid : uuid.Injective)
    (hc : Tracked uuid ⟨w, l ++ p :: r, h⟩) {id : String} {x : ApprovalState × Option Callback}
    (hx : x ∈ ToolApproval.received w id) : x ∈ ToolApproval.received w' id := by
  obtain heq | ⟨-, expiresAt, hmem⟩ | ⟨heq, -⟩ | ⟨cb, approval, -, -, -, heq⟩ :=
    hm.received (hc.points p (by simp)) id
  · exact heq ▸ hx
  · have hzero := (hc.unknown (fresh_of_drawn hc.drawn huuid hm hmem)).1
    have hnil : ToolApproval.received w id = [] :=
      List.length_eq_zero_iff.mp (Nat.add_eq_zero_iff.mp hzero).2
    exact nomatch hnil ▸ hx
  · exact heq ▸ List.mem_append_left _ hx
  · exact heq ▸ List.mem_append_left _ hx

theorem Told.act (ht : Told ⟨w, l ++ p :: r, h⟩) (hc : Tracked uuid ⟨w, l ++ p :: r, h⟩)
    (huuid : uuid.Injective) (hm : Moves uuid w p w' o evs) :
    Told ⟨w', l ++ (remaining o ++ r), h ++ evs⟩ where
  once := by
    intro cb
    have hone := ht.once cb
    have hload := load_act (answering cb) l r p o
    simp only [callbacks, pick_append, List.count_append] at hone ⊢
    obtain ⟨-, hmove⟩ | ⟨cb', hserial, -, rfl, rfl⟩ := hm.answering
    · have hmove := hmove cb
      simp only [callbacks] at hmove
      omega
    · have hnone := ht.unmade cb' hserial.ge
      have hremove : ToolApproval.answering cb (.remove cb') = if cb' = cb then 1 else 0 := rfl
      simp only [callbacks, remaining_inl, load_cons, load_nil, hremove] at hnone hload
      simp only [remaining_inl, pick_nil, List.count_nil]
      obtain rfl | hne := eq_or_ne cb' cb
      · rw [if_pos rfl] at hload
        omega
      · rw [if_neg hne] at hload
        omega
  unmade := by
    intro cb hserial
    have hload := load_act (answering cb) l r p o
    simp only [callbacks, pick_append, List.count_append] at hserial ⊢
    obtain ⟨hsame, hmove⟩ | ⟨cb', hserial', hnext, rfl, rfl⟩ := hm.answering
    · have hzero := ht.unmade cb (hsame ▸ hserial)
      have hmove := hmove cb
      simp only [callbacks] at hzero hmove
      omega
    · have hzero := ht.unmade cb (by simp only; omega)
      have hne : cb' ≠ cb := by
        rintro rfl
        omega
      have hremove : ToolApproval.answering cb (.remove cb') = 0 := if_neg hne
      simp only [callbacks, remaining_inl, load_cons, load_nil, hremove] at hzero hload
      simp only [remaining_inl, pick_nil, List.count_nil]
      omega
  source := by
    intro id state cb hmem
    have hold : (state, some cb) ∈ received w id →
        id = cb.callbackId ∧ state = cb.state ∧ .returned cb (.ok ()) ∈ h ++ evs := fun hmem ↦
      have hsource := ht.source id state cb hmem
      ⟨hsource.1, hsource.2.1, List.mem_append_left _ hsource.2.2⟩
    have hp := hc.points p (by simp)
    obtain heq | ⟨heq, -⟩ | ⟨heq, -⟩ | ⟨cb', approval, rfl, hid, hreturned, heq⟩ := hm.received hp id
    · exact hold (heq ▸ hmem)
    · simp [heq] at hmem
    · simp only [heq, List.mem_append, List.mem_singleton, Prod.mk.injEq, reduceCtorEq, and_false,
        or_false] at hmem
      exact hold hmem
    · simp only [heq, List.mem_append, List.mem_singleton, Prod.mk.injEq, Option.some.injEq] at hmem
      obtain hmem | ⟨rfl, rfl⟩ := hmem
      · exact hold hmem
      · exact ⟨hid.symm.trans hp.1, rfl, List.mem_append_right _ hreturned⟩
  delivered := by
    intro cb hmem
    obtain hmem | hmem := List.mem_append.mp hmem
    · exact hm.keeps huuid hc (ht.delivered cb hmem)
    · exact hm.returned_ok (hc.points p (by simp)) hmem

end Told

section Runs

variable {ok : Config World Point Event → Label Call Point Input → Prop} {timeoutSecs : UInt64}
  {now : DateTime} {c : Config World Point Event}

theorem accounted_of_run (hc : Run (program uuid) ok (initial (World.new timeoutSecs now)) c)
    (huuid : uuid.Injective) : Accounted c := by
  refine hc.invariant (fun _ hc ↦ tracked_of_run hc huuid) ?_ (fun k _ _ ha ↦ ?_)
    fun {w _ _ _ _ _ _ _} i hstep _ ht ha ↦ ?_
  · exact ⟨fun _ ↦ Nat.zero_le _, nofun, fun _ ↦ Nat.zero_le _⟩
  · cases k <;> exact ⟨by simpa [program, start, held, inserting] using ha.one,
      by simpa [program, start, held, inserting] using ha.live,
      by simpa [program, start, asking] using ha.asked⟩
  · exact Accounted.act (w := w.advance i.elapsed) ⟨ha.one, ha.live, ha.asked⟩
      (ht.advance i.elapsed) huuid (moves_of_step hstep)

theorem told_of_run (hc : Run (program uuid) ok (initial (World.new timeoutSecs now)) c)
    (huuid : uuid.Injective) : Told c := by
  refine hc.invariant (fun _ hc ↦ tracked_of_run hc huuid) ?_ (fun k _ _ ha ↦ ?_)
    fun {w _ _ _ _ _ _ _} i hstep _ ht ha ↦ ?_
  · exact ⟨fun _ ↦ Nat.zero_le _, fun _ _ ↦ rfl, nofun, nofun⟩
  · cases k <;> exact ⟨by simpa [program, start, answering] using ha.once,
      by simpa [program, start, answering] using ha.unmade, ha.source, ha.delivered⟩
  · exact Told.act (w := w.advance i.elapsed) ⟨ha.once, ha.unmade, ha.source, ha.delivered⟩
      (ht.advance i.elapsed) huuid (moves_of_step hstep)

end Runs

structure InTime (c : Config World Point Event) : Prop where
  points : ∀ cb approval, .answer cb approval ∈ c.inFlight → cb.approved →
    cb.madeAt ≤ approval.expiresAt
  approved : ∀ id source, (.approved, source) ∈ received c.shared id →
    ∃ cb expiresAt, source = some cb ∧ .requested id expiresAt ∈ c.history ∧ cb.madeAt ≤ expiresAt
  ran : ∀ id, .timeoutRan id ∈ c.history → c.shared.service.pending.lookup id = none ∧
    (alive c.shared id → load (held id) c.inFlight = 0)

section InTime

variable {w w' : World} {p : Point} {o : Point ⊕ Output} {l r : List Point} {h evs : List Event}
  {i : Input}

theorem Timely.advance {ps : List Point} {a : Label Call Point Input}
    (hok : Timely ⟨w, ps, h⟩ a) (elapsed : ℕ) : Timely ⟨w.advance elapsed, ps, h⟩ a := by
  cases a with
  | call k => trivial
  | act p i =>
    cases p with
    | remove | sleeping => exact hok
    | _ => trivial

/-- A sender that a call holds anew was in the map. -/
theorem Moves.held (hm : Moves uuid w p w' o evs)
    (hstored : ∀ id approval, w.service.pending.lookup id = some approval →
      approval.id = id ∧ Issued h approval) (id : String) :
    load (held id) (remaining o) ≤ ToolApproval.held id p ∨
      ∃ approval, w.service.pending.lookup id = some approval := by
  cases hm with
  | @fired _ _ approval ha | @removed _ approval ha | @expiring _ _ approval ha =>
    have hid := (hstored _ _ ha).1
    obtain rfl | hne := eq_or_ne approval.id id
    · exact .inr ⟨approval, hid ▸ ha⟩
    · exact .inl (by simp [ToolApproval.held, hne])
  | _ => exact .inl (Nat.zero_le _)

theorem Moves.alive (hm : Moves uuid w p w' o evs) {id : String}
    (hlive : ToolApproval.alive w' id) :
    ToolApproval.alive w id ∨ ∃ expiresAt, .requested id expiresAt ∈ evs := by
  cases hm with
  | @request _ _ _ approval _ _ =>
    obtain rfl | hne := eq_or_ne id approval.id
    · exact .inr ⟨approval.expiresAt, by simp⟩
    · exact .inl (by simpa [ToolApproval.alive, World.openChannel, hne] using hlive)
  | timedOut | answer | expired =>
    rw [alive_resolve] at hlive
    exact .inl hlive
  | @dropped id' =>
    simp only [ToolApproval.alive, World.dropReceiver, KeyedMap.lookup_modify_if] at hlive ⊢
    split at hlive
    · cases hrx : w.receivers.lookup id' <;> simp [hrx] at hlive
    · exact .inl hlive
  | _ => exact .inl hlive

theorem Moves.ran_spec (hm : Moves uuid w p w' o evs)
    (hc : Tracked uuid ⟨w, l ++ p :: r, h⟩) (ha : Accounted ⟨w, l ++ p :: r, h⟩)
    (hok : Timely ⟨w, l ++ p :: r, h⟩ (.act p i)) {id : String} (hmem : .timeoutRan id ∈ evs) :
    w'.service.pending.lookup id = none ∧
      (ToolApproval.alive w' id → load (ToolApproval.held id) (l ++ (remaining o ++ r)) = 0) := by
  have hload := load_act (ToolApproval.held id) l r p o
  cases hm with
  | gone hnone =>
    cases List.mem_singleton.mp hmem
    refine ⟨hnone, fun hlive ↦ ?_⟩
    have hzero := load_eq_zero.mpr (hok hnone hlive)
    simp only [remaining_inr, load_nil] at hload hzero ⊢
    omega
  | @timedOut _ approval =>
    cases List.mem_singleton.mp hmem
    have hone := ha.one id
    have hheld : ToolApproval.held id (.timedOut id approval) = 1 :=
      if_pos (hc.points (.timedOut id approval) (by simp)).1
    rw [service_resolve]
    simp only [load_append, load_cons, hheld, kept, remaining_inr, load_nil] at hone hload ⊢
    refine ⟨?_, fun _ ↦ by omega⟩
    cases hpending : w.service.pending.lookup id with
    | none => rfl
    | some approval' =>
      rw [hpending, Option.isSome_some, Bool.toNat_true] at hone
      omega
  | request | unknown | answer => cases List.mem_singleton.mp hmem
  | _ => cases hmem

theorem Moves.answer_point (hm : Moves uuid w p w' o evs) {cb : Callback}
    {approval : PendingApproval} (hmem : .answer cb approval ∈ remaining o) :
    p = .remove cb ∧ w.service.pending.lookup cb.callbackId = some approval := by
  cases hm with
  | removed ha =>
    cases List.mem_singleton.mp hmem
    exact ⟨rfl, ha⟩
  | gone | timedOut | unknown | answer | swept | dropped => cases hmem
  | _ => cases List.mem_singleton.mp hmem

theorem InTime.act (hi : InTime ⟨w, l ++ p :: r, h⟩) (hc : Tracked uuid ⟨w, l ++ p :: r, h⟩)
    (ha : Accounted ⟨w, l ++ p :: r, h⟩) (huuid : uuid.Injective)
    (hok : Timely ⟨w, l ++ p :: r, h⟩ (.act p i)) (hm : Moves uuid w p w' o evs) :
    InTime ⟨w', l ++ (remaining o ++ r), h ++ evs⟩ where
  points := by
    intro cb approval hmem happroved
    simp only [List.mem_append] at hmem
    obtain hmem | hmem | hmem := hmem
    · exact hi.points cb approval (by simp [hmem]) happroved
    · obtain ⟨rfl, hfound⟩ := hm.answer_point hmem
      exact hok happroved approval hfound
    · exact hi.points cb approval (by simp [hmem]) happroved
  approved := by
    intro id source hmem
    have hold : (.approved, source) ∈ received w id → ∃ cb expiresAt, source = some cb ∧
        .requested id expiresAt ∈ h ++ evs ∧ cb.madeAt ≤ expiresAt := fun hmem ↦
      have ⟨cb, expiresAt, hsource, hrequested, hle⟩ := hi.approved id source hmem
      ⟨cb, expiresAt, hsource, List.mem_append_left _ hrequested, hle⟩
    have hp := hc.points p (by simp)
    obtain heq | ⟨heq, -⟩ | ⟨heq, -⟩ | ⟨cb, approval, rfl, rfl, -, heq⟩ := hm.received hp id
    · exact hold (heq ▸ hmem)
    · simp [heq] at hmem
    · simp only [heq, List.mem_append, List.mem_singleton, Prod.mk.injEq, reduceCtorEq, false_and,
        or_false] at hmem
      exact hold hmem
    · simp only [heq, List.mem_append, List.mem_singleton, Prod.mk.injEq] at hmem
      obtain hmem | ⟨hstate, rfl⟩ := hmem
      · exact hold hmem
      · have happroved : cb.approved = true := by
          unfold Callback.state at hstate
          split at hstate
          · assumption
          · cases hstate
        exact ⟨cb, approval.expiresAt, rfl, List.mem_append_left _ hp.2.2,
          hi.points cb approval (by simp) happroved⟩
  ran := by
    intro id hmem
    simp only [List.mem_append] at hmem
    obtain hmem | hmem := hmem
    · obtain ⟨hnone, hheld⟩ := hi.ran id hmem
      have hasked := ha.asked id
      have hcount : 0 < (timeouts h).count id :=
        List.count_pos_iff.mpr ((mem_pick _ _).mpr ⟨_, hmem, rfl⟩)
      refine ⟨?_, fun hlive ↦ ?_⟩
      · refine Option.eq_none_iff_forall_ne_some.mpr fun approval hfound ↦ ?_
        obtain hfound | ⟨rfl, hid⟩ := hm.stored hfound
        · exact nomatch hnone.symm.trans hfound
        · have hasking : asking id (.insert approval) = 1 := if_pos hid
          simp only [load_append, load_cons, hasking] at hasked
          omega
      · obtain ⟨expiresAt, hrequested⟩ := hc.ran id hmem
        have hlive' : alive w id := (hm.alive hlive).resolve_right fun ⟨_, hnew⟩ ↦
          fresh_of_drawn hc.drawn huuid hm hnew _ hrequested
        have hzero := hheld hlive'
        have hmove := (hm.held hc.stored id).resolve_right fun ⟨_, hfound⟩ ↦
          nomatch hnone.symm.trans hfound
        simp only [load_append, load_cons] at hzero ⊢
        omega
    · exact hm.ran_spec hc ha hok hmem

theorem inTime_of_run {timeoutSecs : UInt64} {now : DateTime} {c : Config World Point Event}
    (hc : Run (program uuid) Timely (initial (World.new timeoutSecs now)) c)
    (huuid : uuid.Injective) : InTime c := by
  refine hc.invariant (fun _ hc ↦ And.intro (tracked_of_run hc huuid) (accounted_of_run hc huuid)) ?_
    (fun k _ _ hi ↦ ?_) fun {w _ _ _ _ _ _ _} i hstep hok hq hi ↦ ?_
  · exact ⟨by simp [initial], fun _ _ hmem ↦ absurd hmem List.not_mem_nil,
      by simp [initial]⟩
  · cases k <;> exact ⟨by simpa [program, start] using hi.points, hi.approved,
      by simpa [program, start, held] using hi.ran⟩
  · exact InTime.act (w := w.advance i.elapsed) ⟨hi.points, hi.approved, hi.ran⟩
      (hq.1.advance i.elapsed) ⟨hq.2.one, hq.2.live, hq.2.asked⟩ huuid (hok.advance i.elapsed)
      (moves_of_step hstep)

end InTime

structure ResolvesOnce (c : Config World Point Event) : Prop where
  once : ∀ id, (received c.shared id).length ≤ 1
  decided : ∀ id, .timeoutRan id ∈ c.history → alive c.shared id →
    (received c.shared id).length = 1
  told : ∀ cb result, .returned cb result ∈ c.history →
    (result = .ok () ↔ (cb.state, some cb) ∈ received c.shared cb.callbackId)
  settled : ∀ id, received c.shared id ≠ [] ∨ .timeoutRan id ∈ c.history →
    c.shared.service.pending.lookup id = none
  inTime : ∀ id source expiresAt, (.approved, source) ∈ received c.shared id →
    .requested id expiresAt ∈ c.history → ∃ cb, source = some cb ∧ cb.madeAt ≤ expiresAt

theorem resolvesOnce_of_run (uuid : ℕ → String) (huuid : uuid.Injective) (timeoutSecs : UInt64)
    (now : DateTime) (c : Config World Point Event)
    (hc : Run (program uuid) Timely (initial (World.new timeoutSecs now)) c) : ResolvesOnce c := by
  have htracked := tracked_of_run hc huuid
  have haccounted := accounted_of_run hc huuid
  have htold := told_of_run hc huuid
  have hinTime := inTime_of_run hc huuid
  have hone := haccounted.one
  simp only [kept] at hone
  refine ⟨fun id ↦ ?_, fun id hran hlive ↦ ?_, fun cb result hreturned ↦ ?_, fun id hdecided ↦ ?_,
    fun id source expiresAt happroved hrequested ↦ ?_⟩
  · have := hone id
    omega
  · -- the task that made the request has ended, and nobody holds its sender
    have hinserting : load (inserting id) c.inFlight ≤ load (asking id) c.inFlight := by
      refine load_mono (fun p ↦ ?_) _
      cases p with
      | insert => exact Nat.le_refl _
      | _ => exact Nat.zero_le _
    have hcount : 0 < (timeouts c.history).count id :=
      List.count_pos_iff.mpr ((mem_pick _ _).mpr ⟨_, hran, rfl⟩)
    have hasked := haccounted.asked id
    have hsome := haccounted.live id hlive
    obtain ⟨hnone, hheld⟩ := hinTime.ran id hran
    have hle := hone id
    simp only [kept, hnone, Option.isSome_none, Bool.toNat_false, hheld hlive] at hsome
    omega
  · constructor
    · rintro rfl
      exact htold.delivered cb hreturned
    · intro hmem
      have hok := (htold.source _ _ _ hmem).2.2
      have hcount := (Nat.le_add_left _ _).trans (htold.once cb)
      have hunique := eq_of_count_pick_le_one hcount hreturned hok rfl rfl
      exact (Event.returned.inj hunique).2
  · obtain hne | hran := hdecided
    · have hle := hone id
      have hpos := List.length_pos_iff.mpr hne
      cases hpending : c.shared.service.pending.lookup id with
      | none => rfl
      | some approval =>
        rw [hpending, Option.isSome_some, Bool.toNat_true] at hle
        omega
    · exact (hinTime.ran id hran).1
  · obtain ⟨cb, expiresAt', hsource, hrequested', hle⟩ := hinTime.approved id source happroved
    obtain rfl := htracked.expiry id _ _ hrequested hrequested'
    exact ⟨cb, hsource, hle⟩

def sampleUuid (n : ℕ) : String :=
  String.ofList ("00000000-0000-4000-8000-000000000000".toList ++ List.replicate n '0')

theorem sampleUuid_injective : sampleUuid.Injective := by
  intro m n h
  have hlen := congrArg List.length (String.ofList_injective h)
  rw [List.length_append, List.length_append, List.length_replicate, List.length_replicate] at hlen
  omega

/-- A call is made after so many seconds. -/
def after (seconds : ℕ) : Input := ⟨seconds * 1000000000, none⟩

def requestOne : List (Move Call Input) :=
  [.call (.requestApproval "shell_exec" .null "ann"), .act 0 (after 0), .act 0 (after 0),
    .act 0 (after 0)]

def approveInTime : List (Move Call Input) :=
  requestOne ++ ([.call (.handleCallback (sampleUuid 0) true), .act 1 (after 5), .act 1 (after 0),
    .act 1 (after 0), .act 0 (after 200)] : List (Move Call Input))

theorem resolvesOnce_of_run_approveInTime : ∃ c,
    play (program sampleUuid) (initial (World.new 120 0)) approveInTime = some c ∧
      (timeouts c.history).length = 1 ∧ ResolvesOnce c := by
  have hpermits : Permits (program sampleUuid) Timely (initial (World.new 120 0)) approveInTime := by
    repeat' first
      | exact trivial
      | refine And.intro trivial ?_
      | refine And.intro ?_ ?_
    · intro _ approval hfound
      cases hfound
      decide
    · intro _ _ p hp
      cases List.mem_singleton.mp hp
      rfl
  exact ⟨_, rfl, rfl, resolvesOnce_of_run sampleUuid sampleUuid_injective 120 0 _
    (run_of_permits hpermits rfl)⟩

/-- It is approved ten seconds after it has expired, before the timeout task wakes up. -/
def approveLate : List (Move Call Input) :=
  requestOne ++ ([.call (.handleCallback (sampleUuid 0) true), .act 1 (after 130), .act 1 (after 0),
    .act 1 (after 0)] : List (Move Call Input))

theorem not_resolvesOnce : ¬ ∀ (uuid : ℕ → String) (_ : uuid.Injective) (timeoutSecs : UInt64)
    (now : DateTime) (c : Config World Point Event),
    Reachable (program uuid) (World.new timeoutSecs now) c → ResolvesOnce c := by
  intro h
  have hplay : ∃ c, play (program sampleUuid) (initial (World.new 120 0)) approveLate = some c ∧
      received c.shared (sampleUuid 0) =
        [(.approved, some ⟨0, sampleUuid 0, true, DateTime.seconds 130⟩)] ∧
      .requested (sampleUuid 0) (DateTime.seconds 120) ∈ c.history :=
    ⟨_, rfl, rfl, .head _⟩
  obtain ⟨c, hplay, hreceived, hrequested⟩ := hplay
  have honce := h sampleUuid sampleUuid_injective 120 0 c (run_of_play _ hplay)
  obtain ⟨cb, hcb, hle⟩ := honce.inTime (sampleUuid 0) _ _
    (hreceived ▸ List.mem_singleton.mpr rfl) hrequested
  cases hcb
  exact absurd hle (by decide)

end AdkGateway.ToolApproval
