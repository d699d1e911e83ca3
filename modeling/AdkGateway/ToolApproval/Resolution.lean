import AdkGateway.ToolApproval.Service

namespace AdkGateway.ToolApproval

open Foundation Interleaving

variable {uuid : ℕ → String}

inductive Moves (uuid : ℕ → String) (w : World) : Point → World → Point ⊕ Output → List Event → Prop
  | request {toolName userId : String} {toolArgs : Json} {approval : PendingApproval} :
      approval.id = uuid w.drawn → approval.callbackTx = some ⟨approval.id⟩ →
      Moves uuid w (.request toolName toolArgs userId) (w.openChannel approval.id)
        (.inl (.insert approval)) [.requested approval.id approval.expiresAt]
  | insert {approval : PendingApproval} : Moves uuid w (.insert approval)
      (w.setPending (w.service.pending.insert approval.id approval)) (.inl (.spawned approval.id)) []
  | slept {id : String} {deadline : DateTime} :
      Moves uuid w (.spawned id) w (.inl (.sleeping id deadline)) []
  | fired {id : String} {deadline : DateTime} {approval : PendingApproval} :
      w.service.pending.lookup id = some approval → Moves uuid w (.sleeping id deadline)
        (w.setPending (w.service.pending.erase id)) (.inl (.timedOut id approval)) []
  | gone {id : String} {deadline : DateTime} : w.service.pending.lookup id = none →
      Moves uuid w (.sleeping id deadline) w (.inr .timeoutRan) [.timeoutRan id]
  | timedOut {id : String} {approval : PendingApproval} : Moves uuid w (.timedOut id approval)
      (w.resolve approval .timedOut none) (.inr .timeoutRan) [.timeoutRan id]
  | made {callbackId : String} {approved : Bool} {cb : Callback} : cb.serial = w.callbacks →
      Moves uuid w (.callback callbackId approved) { w with callbacks := w.callbacks + 1 }
        (.inl (.remove cb)) []
  | unknown {cb : Callback} : w.service.pending.lookup cb.callbackId = none →
      Moves uuid w (.remove cb) w (.inr (.handled (.error (notFound cb.callbackId))))
        [.returned cb (.error (notFound cb.callbackId))]
  | removed {cb : Callback} {approval : PendingApproval} :
      w.service.pending.lookup cb.callbackId = some approval → Moves uuid w (.remove cb)
        (w.setPending (w.service.pending.erase cb.callbackId)) (.inl (.answer cb approval)) []
  | answer {cb : Callback} {approval : PendingApproval} : Moves uuid w (.answer cb approval)
      (w.resolve approval cb.state (some cb)) (.inr (.handled (w.answered approval)))
      [.returned cb (w.answered approval)]
  | sweep {now : DateTime} : Moves uuid w .expireStale w (.inl (.scanning now [])) []
  | visited {now : DateTime} {expiredIds expiredIds' : List String} :
      Moves uuid w (.scanning now expiredIds) w (.inl (.scanning now expiredIds')) []
  | scanned {now : DateTime} {expiredIds : List String} :
      Moves uuid w (.scanning now expiredIds) w (.inl (.expiring expiredIds)) []
  | swept : Moves uuid w (.expiring []) w (.inr .swept) []
  | skipped {id : String} {expiredIds : List String} :
      Moves uuid w (.expiring (id :: expiredIds)) w (.inl (.expiring expiredIds)) []
  | expiring {id : String} {expiredIds : List String} {approval : PendingApproval} :
      w.service.pending.lookup id = some approval → Moves uuid w (.expiring (id :: expiredIds))
        (w.setPending (w.service.pending.erase id)) (.inl (.expired approval expiredIds)) []
  | expired {approval : PendingApproval} {expiredIds : List String} :
      Moves uuid w (.expired approval expiredIds) (w.resolve approval .timedOut none)
        (.inl (.expiring expiredIds)) []
  | dropped {id : String} :
      Moves uuid w (.dropReceiver id) (w.dropReceiver id) (.inr .dropped) []

theorem moves_of_step {i : Input} {p : Point} {w w' : World} {o : Point ⊕ Output}
    {evs : List Event} (h : step uuid i p w = some (w', o, evs)) :
    Moves uuid (w.advance i.elapsed) p w' o evs := by
  unfold step at h
  generalize w.advance i.elapsed = w at h ⊢
  cases p with
  | request toolName toolArgs userId =>
    cases h
    have hid : (w.approval (uuid w.drawn) toolName toolArgs userId).id = uuid w.drawn := rfl
    exact .request hid rfl
  | insert approval =>
    cases h
    exact .insert
  | spawned id =>
    cases h
    exact .slept
  | sleeping id deadline =>
    simp only [act] at h
    split at h
    · split at h
      · rename_i approval hfound
        cases h
        exact .fired hfound
      · rename_i hnone
        cases h
        exact .gone hnone
    · cases h
  | timedOut id approval =>
    cases h
    exact .timedOut
  | callback callbackId approved =>
    cases h
    exact .made rfl
  | remove cb =>
    simp only [act] at h
    split at h
    · rename_i approval hfound
      cases h
      exact .removed hfound
    · rename_i hnone
      cases h
      exact .unknown hnone
  | answer cb approval =>
    cases h
    exact .answer
  | expireStale =>
    cases h
    exact .sweep
  | scanning now expiredIds =>
    simp only [act] at h
    split at h
    · split at h
      · cases h
        exact .visited
      · cases h
        exact .visited
    · cases h
      exact .scanned
  | expiring expiredIds =>
    cases expiredIds with
    | nil =>
      cases h
      exact .swept
    | cons id expiredIds =>
      simp only [act] at h
      split at h
      · rename_i approval hfound
        cases h
        exact .expiring hfound
      · cases h
        exact .skipped
  | expired approval expiredIds =>
    cases h
    exact .expired
  | dropReceiver id =>
    cases h
    exact .dropped

section Knowledge

def Issued (h : List Event) (approval : PendingApproval) : Prop :=
  approval.callbackTx = some ⟨approval.id⟩ ∧ .requested approval.id approval.expiresAt ∈ h

/-- What the code knows of the request at each point. -/
def Sound (h : List Event) : Point → Prop
  | .insert approval | .expired approval _ => Issued h approval
  | .spawned id | .sleeping id _ => ∃ expiresAt, .requested id expiresAt ∈ h
  | .timedOut id approval => approval.id = id ∧ Issued h approval
  | .answer cb approval => approval.id = cb.callbackId ∧ Issued h approval
  | _ => True

structure Tracked (uuid : ℕ → String) (c : Config World Point Event) : Prop where
  drawn : ∀ id expiresAt, .requested id expiresAt ∈ c.history → ∃ k < c.shared.drawn, uuid k = id
  expiry : ∀ id expiresAt expiresAt', .requested id expiresAt ∈ c.history →
    .requested id expiresAt' ∈ c.history → expiresAt = expiresAt'
  ran : ∀ id, .timeoutRan id ∈ c.history → ∃ expiresAt, .requested id expiresAt ∈ c.history
  stored : ∀ id approval, c.shared.service.pending.lookup id = some approval →
    approval.id = id ∧ Issued c.history approval
  opened : ∀ id rx, c.shared.receivers.lookup id = some rx →
    ∃ expiresAt, .requested id expiresAt ∈ c.history
  points : ∀ p ∈ c.inFlight, Sound c.history p

variable {w w' : World} {p : Point} {o : Point ⊕ Output} {l r : List Point} {h evs : List Event}

theorem Issued.mono {approval : PendingApproval} (ha : Issued h approval) :
    Issued (h ++ evs) approval := ⟨ha.1, List.mem_append_left _ ha.2⟩

theorem Sound.mono (hp : Sound h p) : Sound (h ++ evs) p := by
  cases p with
  | insert | expired => exact Issued.mono hp
  | spawned | sleeping =>
    obtain ⟨expiresAt, hmem⟩ := hp
    exact ⟨expiresAt, List.mem_append_left _ hmem⟩
  | timedOut | answer => exact ⟨hp.1, hp.2.mono⟩
  | _ => trivial

theorem lookup_resolve_ne_none {approval : PendingApproval} {state : ApprovalState}
    {source : Option Callback} {id : String} {rx : Receiver}
    (hrx : (w.resolve approval state source).receivers.lookup id = some rx) :
    ∃ rx', w.receivers.lookup id = some rx' := by
  unfold World.resolve at hrx
  cases htx : approval.callbackTx with
  | none => exact ⟨rx, by simpa [htx] using hrx⟩
  | some tx =>
    simp only [htx, Option.elim_some, World.send, KeyedMap.lookup_modify_if] at hrx
    split at hrx
    · rename_i heq
      obtain ⟨rx', hrx', -⟩ := Option.map_eq_some_iff.mp hrx
      exact ⟨rx', heq ▸ hrx'⟩
    · exact ⟨rx, hrx⟩

@[simp] theorem service_resolve {approval : PendingApproval} {state : ApprovalState}
    {source : Option Callback} : (w.resolve approval state source).service = w.service := by
  unfold World.resolve
  cases approval.callbackTx <;> rfl

@[simp] theorem drawn_resolve {approval : PendingApproval} {state : ApprovalState}
    {source : Option Callback} : (w.resolve approval state source).drawn = w.drawn := by
  unfold World.resolve
  cases approval.callbackTx <;> rfl

theorem Moves.requested (hm : Moves uuid w p w' o evs) :
    (w'.drawn = w.drawn ∧ ∀ id expiresAt, .requested id expiresAt ∉ evs) ∨
      ∃ toolName toolArgs userId approval, p = .request toolName toolArgs userId ∧
        w' = w.openChannel approval.id ∧ approval.id = uuid w.drawn ∧ o = .inl (.insert approval) ∧
        evs = [.requested approval.id approval.expiresAt] := by
  cases hm with
  | @request toolName userId toolArgs approval hid _ =>
    exact .inr ⟨toolName, toolArgs, userId, approval, rfl, rfl, hid, rfl, rfl⟩
  | _ => exact .inl ⟨by simp [World.setPending, World.dropReceiver], by simp⟩

theorem Moves.stored (hm : Moves uuid w p w' o evs) {id : String} {approval : PendingApproval}
    (ha : w'.service.pending.lookup id = some approval) :
    w.service.pending.lookup id = some approval ∨ p = .insert approval ∧ approval.id = id := by
  cases hm with
  | @insert approval' =>
    obtain ⟨rfl, rfl⟩ | ⟨-, hold⟩ := KeyedMap.lookup_insert_eq_some.mp ha
    · exact .inr ⟨rfl, rfl⟩
    · exact .inl hold
  | fired | removed | expiring => exact .inl (KeyedMap.lookup_erase_eq_some.mp ha).2
  | timedOut | answer | expired => exact .inl (by simpa using ha)
  | _ => exact .inl ha

theorem Moves.opened (hm : Moves uuid w p w' o evs) {id : String} {rx : Receiver}
    (hrx : w'.receivers.lookup id = some rx) : (∃ rx', w.receivers.lookup id = some rx') ∨
      ∃ expiresAt, .requested id expiresAt ∈ evs := by
  cases hm with
  | @request _ _ _ approval _ _ =>
    obtain ⟨rfl, -⟩ | ⟨-, hold⟩ := KeyedMap.lookup_insert_eq_some.mp hrx
    · exact .inr ⟨approval.expiresAt, List.mem_singleton_self _⟩
    · exact .inl ⟨rx, hold⟩
  | timedOut | answer | expired => exact .inl (lookup_resolve_ne_none hrx)
  | dropped =>
    simp only [World.dropReceiver, KeyedMap.lookup_modify_if] at hrx
    split at hrx
    · rename_i heq
      obtain ⟨rx', hrx', -⟩ := Option.map_eq_some_iff.mp hrx
      exact .inl ⟨rx', heq ▸ hrx'⟩
    · exact .inl ⟨rx, hrx⟩
  | _ => exact .inl ⟨rx, hrx⟩

theorem Moves.sound (hm : Moves uuid w p w' o evs)
    (hstored : ∀ id approval, w.service.pending.lookup id = some approval →
      approval.id = id ∧ Issued h approval) (hp : Sound h p) :
    ∀ p' ∈ remaining o, Sound (h ++ evs) p' := by
  intro p' hp'
  cases hm with
  | request hid htx =>
    obtain rfl := List.mem_singleton.mp hp'
    exact ⟨htx, by simp⟩
  | insert =>
    obtain rfl := List.mem_singleton.mp hp'
    exact ⟨_, List.mem_append_left _ hp.2⟩
  | slept =>
    obtain rfl := List.mem_singleton.mp hp'
    exact Sound.mono (p := .spawned _) hp
  | fired ha | removed ha =>
    obtain rfl := List.mem_singleton.mp hp'
    exact ⟨(hstored _ _ ha).1, (hstored _ _ ha).2.mono⟩
  | expiring ha =>
    obtain rfl := List.mem_singleton.mp hp'
    exact (hstored _ _ ha).2.mono
  | made | sweep | visited | scanned | skipped | expired =>
    obtain rfl := List.mem_singleton.mp hp'
    trivial
  | gone | timedOut | unknown | answer | swept | dropped => cases hp'

theorem Moves.ran (hm : Moves uuid w p w' o evs) {id : String} (hmem : .timeoutRan id ∈ evs) :
    (∃ deadline, p = .sleeping id deadline) ∨ ∃ approval, p = .timedOut id approval := by
  cases hm with
  | gone =>
    cases List.mem_singleton.mp hmem
    exact .inl ⟨_, rfl⟩
  | timedOut =>
    cases List.mem_singleton.mp hmem
    exact .inr ⟨_, rfl⟩
  | request | unknown | answer => cases List.mem_singleton.mp hmem
  | _ => cases hmem

theorem fresh_of_drawn (hdrawn : ∀ id expiresAt, .requested id expiresAt ∈ h →
      ∃ k < w.drawn, uuid k = id) (huuid : uuid.Injective) (hm : Moves uuid w p w' o evs)
    {id : String} {expiresAt : DateTime} (hmem : .requested id expiresAt ∈ evs)
    (expiresAt' : DateTime) : .requested id expiresAt' ∉ h := by
  intro hmem'
  obtain ⟨-, hno⟩ | ⟨_, _, _, approval, -, -, hid, -, rfl⟩ := hm.requested
  · exact hno _ _ hmem
  · cases List.mem_singleton.mp hmem
    obtain ⟨k, hk, heq⟩ := hdrawn _ _ hmem'
    exact Nat.ne_of_lt hk (huuid (heq.trans hid))

theorem Tracked.act (hc : Tracked uuid ⟨w, l ++ p :: r, h⟩) (huuid : uuid.Injective)
    (hm : Moves uuid w p w' o evs) : Tracked uuid ⟨w', l ++ (remaining o ++ r), h ++ evs⟩ where
  drawn := by
    intro id expiresAt hmem
    simp only [List.mem_append] at hmem
    obtain ⟨hdrawn, hno⟩ | ⟨_, _, _, approval, -, rfl, hid, -, rfl⟩ := hm.requested
    · obtain ⟨k, hk, rfl⟩ := hc.drawn id expiresAt (hmem.resolve_right (hno id expiresAt))
      exact ⟨k, hdrawn ▸ hk, rfl⟩
    · obtain hmem | hmem := hmem
      · obtain ⟨k, hk, rfl⟩ := hc.drawn id expiresAt hmem
        exact ⟨k, Nat.lt_succ_of_lt hk, rfl⟩
      · cases List.mem_singleton.mp hmem
        exact ⟨w.drawn, Nat.lt_succ_self _, hid.symm⟩
  expiry := by
    intro id expiresAt expiresAt' hmem hmem'
    simp only [List.mem_append] at hmem hmem'
    obtain hmem | hmem := hmem <;> obtain hmem' | hmem' := hmem'
    · exact hc.expiry id _ _ hmem hmem'
    · exact absurd hmem (fresh_of_drawn hc.drawn huuid hm hmem' _)
    · exact absurd hmem' (fresh_of_drawn hc.drawn huuid hm hmem _)
    · obtain ⟨-, hno⟩ | ⟨_, _, _, approval, -, -, -, -, rfl⟩ := hm.requested
      · exact absurd hmem (hno _ _)
      · cases List.mem_singleton.mp hmem
        cases List.mem_singleton.mp hmem'
        rfl
  ran := by
    intro id hmem
    simp only [List.mem_append] at hmem
    obtain hmem | hmem := hmem
    · obtain ⟨expiresAt, hrequested⟩ := hc.ran id hmem
      exact ⟨expiresAt, List.mem_append_left _ hrequested⟩
    · have hp := hc.points p (by simp)
      obtain ⟨deadline, rfl⟩ | ⟨approval, rfl⟩ := hm.ran hmem
      · obtain ⟨expiresAt, hrequested⟩ := hp
        exact ⟨expiresAt, List.mem_append_left _ hrequested⟩
      · exact ⟨approval.expiresAt, List.mem_append_left _ (hp.1 ▸ hp.2.2)⟩
  stored := by
    intro id approval ha
    obtain ha | ⟨rfl, hid⟩ := hm.stored ha
    · exact ⟨(hc.stored id approval ha).1, (hc.stored id approval ha).2.mono⟩
    · exact ⟨hid, Issued.mono (hc.points (.insert approval) (by simp))⟩
  opened := by
    intro id rx hrx
    obtain ⟨rx', hrx'⟩ | ⟨expiresAt, hmem⟩ := hm.opened hrx
    · obtain ⟨expiresAt, hmem⟩ := hc.opened id rx' hrx'
      exact ⟨expiresAt, List.mem_append_left _ hmem⟩
    · exact ⟨expiresAt, List.mem_append_right _ hmem⟩
  points := by
    intro p' hp'
    simp only [List.mem_append] at hp'
    obtain hp' | hp' | hp' := hp'
    · exact (hc.points p' (by simp [hp'])).mono
    · exact hm.sound hc.stored (hc.points p (by simp)) p' hp'
    · exact (hc.points p' (by simp [hp'])).mono

theorem Tracked.advance {ps : List Point} (hc : Tracked uuid ⟨w, ps, h⟩) (elapsed : ℕ) :
    Tracked uuid ⟨w.advance elapsed, ps, h⟩ :=
  ⟨hc.drawn, hc.expiry, hc.ran, hc.stored, hc.opened, hc.points⟩

theorem tracked_of_run {ok : Config World Point Event → Label Call Point Input → Prop}
    {timeoutSecs : UInt64} {now : DateTime} {c : Config World Point Event}
    (hc : Run (program uuid) ok (initial (World.new timeoutSecs now)) c) (huuid : uuid.Injective) :
    Tracked uuid c := by
  refine hc.invariant (Q := fun _ ↦ True) (fun _ _ ↦ trivial) ?_ (fun k _ _ hc ↦ ?_)
    fun i hstep _ _ hc ↦ ?_
  · constructor <;> simp [initial, World.new, DefaultToolApprovalService.new]
  · refine ⟨hc.drawn, hc.expiry, hc.ran, hc.stored, hc.opened, fun p hp ↦ ?_⟩
    obtain hp | rfl | hp := by simpa only [List.mem_append, List.mem_cons] using hp
    · exact hc.points p (by simp [hp])
    · cases k <;> trivial
    · exact hc.points p (by simp [hp])
  · exact (hc.advance i.elapsed).act huuid (moves_of_step hstep)

end Knowledge

section Amounts

def received (w : World) (id : String) : List (ApprovalState × Option Callback) :=
  (w.receivers.lookup id).elim [] Receiver.inbox

def alive (w : World) (id : String) : Bool := (w.receivers.lookup id).any Receiver.alive

def kept (id : String) (w : World) : ℕ :=
  (w.service.pending.lookup id).isSome.toNat + (received w id).length

def held (id : String) : Point → ℕ
  | .timedOut _ approval | .answer _ approval | .expired approval _ =>
    if approval.id = id then 1 else 0
  | _ => 0

def inserting (id : String) : Point → ℕ
  | .insert approval => if approval.id = id then 1 else 0
  | _ => 0

/-- The call of `request_approval`, and then its timeout task. -/
def asking (id : String) : Point → ℕ
  | .insert approval => if approval.id = id then 1 else 0
  | .spawned id' | .sleeping id' _ | .timedOut id' _ => if id' = id then 1 else 0
  | _ => 0

def answering (cb : Callback) : Point → ℕ
  | .remove cb' | .answer cb' _ => if cb' = cb then 1 else 0
  | _ => 0

variable {w w' : World} {p : Point} {o : Point ⊕ Output} {h evs : List Event}

theorem received_resolve {approval : PendingApproval} {state : ApprovalState}
    {source : Option Callback} (htx : approval.callbackTx = some ⟨approval.id⟩) (id : String) :
    received (w.resolve approval state source) id = received w id ++
      if approval.id = id ∧ alive w id then [(state, source)] else [] := by
  simp only [World.resolve, htx, Option.elim_some, received, World.send, KeyedMap.lookup_modify_if]
  by_cases hid : id = approval.id
  · subst hid
    cases hrx : w.receivers.lookup approval.id with
    | none => simp [alive, hrx]
    | some rx => cases hlive : rx.alive <;> simp [alive, hrx, hlive]
  · simp [hid, Ne.symm hid]

theorem alive_resolve {approval : PendingApproval} {state : ApprovalState}
    {source : Option Callback} (id : String) :
    alive (w.resolve approval state source) id = alive w id := by
  unfold World.resolve
  cases htx : approval.callbackTx with
  | none => rfl
  | some tx =>
    simp only [Option.elim_some, alive, World.send, KeyedMap.lookup_modify_if]
    split
    · rename_i heq
      subst heq
      cases hrx : w.receivers.lookup tx.request with
      | none => rfl
      | some rx => cases hlive : rx.alive <;> simp [hlive]
    · rfl

theorem kept_resolve {approval : PendingApproval} {state : ApprovalState} {source : Option Callback}
    (htx : approval.callbackTx = some ⟨approval.id⟩) (id : String) :
    kept id (w.resolve approval state source) =
      kept id w + if approval.id = id ∧ alive w id then 1 else 0 := by
  rw [kept, service_resolve, received_resolve htx, kept, List.length_append, ← Nat.add_assoc]
  split <;> rfl

theorem kept_erase {id : String} {approval : PendingApproval} (hid : approval.id = id)
    (ha : w.service.pending.lookup id = some approval) (id' : String) :
    kept id' (w.setPending (w.service.pending.erase id)) + (if approval.id = id' then 1 else 0) =
      kept id' w := by
  subst hid
  simp only [kept, World.setPending, KeyedMap.lookup_erase_if, received]
  by_cases hid' : id' = approval.id
  · subst hid'
    simp only [if_true, ha, Option.isSome_none, Bool.toNat_false, Option.isSome_some, Bool.toNat_true]
    omega
  · simp [hid', Ne.symm hid']

/-- A step that requests nothing moves a sender on or uses it; only for a receiver
that is gone it is lost. -/
theorem Moves.amount (hm : Moves uuid w p w' o evs) (hp : Sound h p)
    (hstored : ∀ id approval, w.service.pending.lookup id = some approval →
      approval.id = id ∧ Issued h approval)
    (hno : ∀ approval, o ≠ .inl (.insert approval)) (id : String)
    (hone : kept id w + inserting id p ≤ 1) :
    kept id w' + load (held id) (remaining o) + load (inserting id) (remaining o) ≤
      kept id w + held id p + inserting id p ∧
    (alive w' id → alive w id ∧
      kept id w' + load (held id) (remaining o) + load (inserting id) (remaining o) =
        kept id w + held id p + inserting id p) := by
  have hresolve : ∀ {approval : PendingApproval} (state : ApprovalState) (source : Option Callback),
      Issued h approval →
      kept id (w.resolve approval state source) ≤ kept id w + (if approval.id = id then 1 else 0) ∧
      (alive (w.resolve approval state source) id → alive w id ∧
        kept id (w.resolve approval state source) = kept id w + if approval.id = id then 1 else 0) := by
    intro approval state source hissued
    rw [kept_resolve hissued.1, alive_resolve]
    by_cases hid : approval.id = id <;> cases hlive : alive w id <;> simp [hid]
  cases hm with
  | request => exact absurd rfl (hno _)
  | @insert approval =>
    have hinsert : kept id (w.setPending (w.service.pending.insert approval.id approval)) =
        kept id w + if approval.id = id then 1 else 0 := by
      simp only [kept, World.setPending, KeyedMap.lookup_insert_if, received]
      by_cases hid : id = approval.id
      · subst hid
        simp only [kept, inserting, if_true] at hone
        have hnone : (w.service.pending.lookup approval.id).isSome.toNat = 0 := by omega
        simp only [if_true, hnone, Option.isSome_some, Bool.toNat_true]
        omega
      · simp [hid, Ne.symm hid]
    simp only [remaining_inl, load_cons, load_nil, held, inserting]
    exact ⟨by omega, fun hlive ↦ ⟨hlive, by omega⟩⟩
  | fired ha | removed ha | expiring ha =>
    have herase := kept_erase (hstored _ _ ha).1 ha id
    simp only [remaining_inl, load_cons, load_nil, held, inserting]
    exact ⟨by omega, fun hlive ↦ ⟨hlive, by omega⟩⟩
  | timedOut => exact hresolve _ _ hp.2
  | answer => exact hresolve _ _ hp.2
  | expired => exact hresolve _ _ hp
  | @dropped id' =>
    have hsame : kept id (w.dropReceiver id') = kept id w := by
      simp only [kept, World.dropReceiver, received, KeyedMap.lookup_modify_if]
      split
      · rename_i heq
        subst heq
        cases hrx : w.receivers.lookup id <;> simp
      · rfl
    refine ⟨hsame.le, fun hlive ↦ ⟨?_, hsame⟩⟩
    simp only [alive, World.dropReceiver, KeyedMap.lookup_modify_if] at hlive ⊢
    split at hlive
    · cases hrx : w.receivers.lookup id' <;> simp [hrx] at hlive
    · exact hlive
  | _ => exact ⟨Nat.le_refl _, fun hlive ↦ ⟨hlive, rfl⟩⟩

theorem answered_eq {approval : PendingApproval} (htx : approval.callbackTx = some ⟨approval.id⟩) :
    w.answered approval = if alive w approval.id then .ok () else .error receiverDropped := by
  unfold World.answered
  rw [htx]
  rfl

/-- What a step puts into a receiver comes from a timeout, or from the callback
that takes the step. -/
theorem Moves.received (hm : Moves uuid w p w' o evs) (hp : Sound h p) (id : String) :
    received w' id = received w id ∨
    (received w' id = [] ∧ ∃ expiresAt, .requested id expiresAt ∈ evs) ∨
    (received w' id = received w id ++ [(.timedOut, none)] ∧ ∀ cb result, .returned cb result ∉ evs) ∨
    ∃ cb approval, p = .answer cb approval ∧ approval.id = id ∧ .returned cb (.ok ()) ∈ evs ∧
      received w' id = received w id ++ [(cb.state, some cb)] := by
  cases hm with
  | @request _ _ _ approval _ _ =>
    obtain rfl | hid := eq_or_ne id approval.id
    · exact .inr (.inl ⟨by simp [ToolApproval.received, World.openChannel],
        approval.expiresAt, by simp⟩)
    · exact .inl (by simp [ToolApproval.received, World.openChannel, hid])
  | timedOut =>
    rw [received_resolve hp.2.1]
    split
    · exact .inr (.inr (.inl ⟨rfl, by simp⟩))
    · exact .inl (List.append_nil _)
  | expired =>
    rw [received_resolve hp.1]
    split
    · exact .inr (.inr (.inl ⟨rfl, by simp⟩))
    · exact .inl (List.append_nil _)
  | @answer cb approval =>
    rw [received_resolve hp.2.1]
    split
    · rename_i hlive
      refine .inr (.inr (.inr ⟨cb, approval, rfl, hlive.1, ?_, rfl⟩))
      simp [answered_eq hp.2.1, hlive.1, hlive.2]
    · exact .inl (List.append_nil _)
  | @dropped id' =>
    left
    simp only [ToolApproval.received, World.dropReceiver, KeyedMap.lookup_modify_if]
    split
    · rename_i heq
      subst heq
      cases hrx : w.receivers.lookup id <;> rfl
    · rfl
  | _ => exact .inl rfl

def timeouts (h : List Event) : List String :=
  pick (fun | .timeoutRan id => some id | _ => none) h

theorem Moves.asking (hm : Moves uuid w p w' o evs) (hno : ∀ approval, o ≠ .inl (.insert approval))
    (id : String) :
    load (asking id) (remaining o) + (timeouts evs).count id ≤ ToolApproval.asking id p := by
  cases hm with
  | request => exact absurd rfl (hno _)
  | insert | slept | fired | gone | timedOut =>
    simp [timeouts, ToolApproval.asking, List.count_singleton]
  | _ => exact Nat.zero_le _

theorem Tracked.unknown {ps : List Point} {id : String} (hc : Tracked uuid ⟨w, ps, h⟩)
    (hid : ∀ expiresAt, .requested id expiresAt ∉ h) :
    kept id w = 0 ∧ load (held id) ps = 0 ∧ load (inserting id) ps = 0 ∧
      load (ToolApproval.asking id) ps = 0 ∧ (timeouts h).count id = 0 := by
  have hissued : ∀ {approval : PendingApproval}, Issued h approval → approval.id ≠ id := by
    rintro approval ⟨-, hmem⟩ rfl
    exact hid _ hmem
  have hknown : ∀ {id'}, (∃ expiresAt, .requested id' expiresAt ∈ h) → id' ≠ id := by
    rintro id' ⟨expiresAt, hmem⟩ rfl
    exact hid _ hmem
  refine ⟨?_, ?_, ?_, ?_, ?_⟩
  · have hpending : w.service.pending.lookup id = none :=
      Option.eq_none_iff_forall_ne_some.mpr fun approval ha ↦
        hissued (hc.stored id approval ha).2 (hc.stored id approval ha).1
    have hreceivers : w.receivers.lookup id = none :=
      Option.eq_none_iff_forall_ne_some.mpr fun rx hrx ↦ hknown (hc.opened id rx hrx) rfl
    simp [kept, hpending, ToolApproval.received, hreceivers]
  · refine load_eq_zero.mpr fun p hp ↦ ?_
    have hsound := hc.points p hp
    cases p with
    | timedOut | answer => exact if_neg (hissued hsound.2)
    | expired => exact if_neg (hissued hsound)
    | _ => rfl
  · refine load_eq_zero.mpr fun p hp ↦ ?_
    have hsound := hc.points p hp
    cases p with
    | insert => exact if_neg (hissued hsound)
    | _ => rfl
  · refine load_eq_zero.mpr fun p hp ↦ ?_
    have hsound := hc.points p hp
    cases p with
    | insert => exact if_neg (hissued hsound)
    | spawned | sleeping => exact if_neg (hknown hsound)
    | timedOut => exact if_neg (hsound.1 ▸ hissued hsound.2)
    | _ => rfl
  · refine List.count_eq_zero_of_not_mem fun hmem ↦ ?_
    obtain ⟨e, he, hran⟩ := (mem_pick _ _).mp hmem
    cases e with
    | timeoutRan id' =>
      obtain rfl := Option.some_inj.mp hran
      exact hknown (hc.ran id' he) rfl
    | _ => cases hran

/-- For every request there is one sender or one decision, and one call or one
timeout that ran. -/
structure Accounted (c : Config World Point Event) : Prop where
  one : ∀ id, kept id c.shared + load (held id) c.inFlight + load (inserting id) c.inFlight ≤ 1
  live : ∀ id, alive c.shared id →
    1 ≤ kept id c.shared + load (held id) c.inFlight + load (inserting id) c.inFlight
  asked : ∀ id, load (asking id) c.inFlight + (timeouts c.history).count id ≤ 1

theorem kept_openChannel (id id' : String) (hid : kept id w = 0) :
    kept id' (w.openChannel id) = kept id' w := by
  obtain rfl | hne := eq_or_ne id' id
  · simp only [kept, ToolApproval.received] at hid ⊢
    simp only [World.openChannel, AList.lookup_insert, Option.elim_some, List.length_nil]
    omega
  · simp [kept, ToolApproval.received, World.openChannel, hne]

theorem Accounted.act {l r : List Point} (ha : Accounted ⟨w, l ++ p :: r, h⟩)
    (hc : Tracked uuid ⟨w, l ++ p :: r, h⟩) (huuid : uuid.Injective)
    (hm : Moves uuid w p w' o evs) : Accounted ⟨w', l ++ (remaining o ++ r), h ++ evs⟩ := by
  obtain ⟨hdrawn, hno⟩ | ⟨_, _, _, approval, rfl, rfl, hid, rfl, rfl⟩ := hm.requested
  · have hno' : ∀ approval, o ≠ .inl (.insert approval) := by
      rintro approval rfl
      cases hm
      exact hno _ _ (List.mem_singleton.mpr rfl)
    have hamount : ∀ id, _ := fun id ↦
      hm.amount (hc.points p (by simp)) hc.stored hno' id (by
        have hone := ha.one id
        simp only [load_append, load_cons] at hone
        omega)
    refine ⟨fun id ↦ ?_, fun id hlive ↦ ?_, fun id ↦ ?_⟩
    · have hone := ha.one id
      have hle := (hamount id).1
      simp only [load_append, load_cons] at hone ⊢
      omega
    · obtain ⟨hlive, heq⟩ := (hamount id).2 hlive
      have hone := ha.live id hlive
      simp only [load_append, load_cons] at hone ⊢
      omega
    · have hasked := ha.asked id
      have hmove := hm.asking hno' id
      simp only [timeouts, pick_append, List.count_append, load_append, load_cons]
        at hasked hmove ⊢
      omega
  · obtain ⟨hkept, hheld, hinserting, hasking, hran⟩ :=
      hc.unknown (fresh_of_drawn hc.drawn huuid hm (List.mem_singleton.mpr rfl))
    refine ⟨fun id ↦ ?_, fun id hlive ↦ ?_, fun id ↦ ?_⟩
    · have hone := ha.one id
      rw [kept_openChannel _ _ hkept]
      simp only [load_append, load_cons, remaining_inl, load_nil, held, inserting] at hone hheld hinserting ⊢
      split
      · rename_i heq
        subst heq
        omega
      · omega
    · rw [kept_openChannel _ _ hkept]
      simp only [load_append, load_cons, remaining_inl, load_nil, held, inserting]
      split
      · omega
      · rename_i hne
        have hone := ha.live id (by simpa [alive, World.openChannel, Ne.symm hne] using hlive)
        simp only [load_append, load_cons, held, inserting] at hone
        omega
    · have hasked := ha.asked id
      simp only [timeouts, pick_append, List.count_append, load_append, load_cons, remaining_inl,
        load_nil, ToolApproval.asking] at hasked hasking hran ⊢
      simp only [pick_cons, pick_nil, Option.toList_none, List.append_nil, List.count_nil]
      split
      · rename_i heq
        subst heq
        omega
      · omega

end Amounts

end AdkGateway.ToolApproval
