import AdkGateway.Pairing.Service

namespace AdkGateway.Pairing.DmPairingService

open Foundation Interleaving

section Weights

variable (pc : PairingCode)

/-- A `generate_code` about to file the code. -/
@[simp] def inserting : Point → ℕ
  | .insertCode pc' => if pc' = pc then 1 else 0
  | _ => 0

/-- A `validate_code` that found the code good and has not marked it yet. -/
@[simp] def accepted : Point → ℕ
  | .markUsed _ _ _ pc' _ => if pc' = pc then 1 else 0
  | _ => 0

/-- A `validate_code` that has marked the code and succeeds next. -/
@[simp] def marked : Point → ℕ
  | .pair _ _ pc' _ => if pc' = pc then 1 else 0
  | .resetLockout _ pc' _ => if pc' = pc then 1 else 0
  | _ => 0

def stored (s : DmPairingService) : ℕ := if s.codes.lookup pc.code = some pc then 1 else 0

@[simp] def Event.success? : Event → Option PairingCode
  | .succeeded _ pc _ => some pc
  | _ => none

abbrev successes (h : List Event) : List PairingCode := pick Event.success? h

end Weights

section Moves

variable {s s' : DmPairingService} {p p' : Point} {o : Point ⊕ Output} {evs : List Event}
  {pc : PairingCode}

def Keyed (s : DmPairingService) : Prop := ∀ code pc, s.codes.lookup code = some pc → pc.code = code

theorem lookup_markUsed (s : DmPairingService) (code code' : String) :
    (s.markUsed code).codes.lookup code' =
      if code' = code then (s.codes.lookup code).map fun entry ↦ { entry with used := true }
      else s.codes.lookup code' :=
  KeyedMap.lookup_modify_if _ _ _ _

theorem moves_keyed (hm : Moves s p s' o evs) (hs : Keyed s) : Keyed s' := by
  intro code pc hpc
  cases hm with
  | @insert pc' =>
    obtain ⟨rfl, rfl⟩ | ⟨-, hold⟩ := KeyedMap.lookup_insert_eq_some.mp hpc
    · rfl
    · exact hs code pc hold
  | @markUsed _ code' =>
    rw [lookup_markUsed] at hpc
    split at hpc
    · rename_i hcode
      obtain ⟨entry, hentry, rfl⟩ := Option.map_eq_some_iff.mp hpc
      exact (hs code' entry hentry).trans hcode.symm
    · exact hs code pc hpc
  | retainCodes now =>
    simp only [DmPairingService.retainCodes, KeyedMap.lookup_retain] at hpc
    exact hs code pc (Option.eq_some_of_filter_eq_some hpc)
  | _ => exact hs code pc hpc

@[simp] theorem stored_pair (s : DmPairingService) (userId channelType : String) (now : DateTime) :
    stored pc (s.pair userId channelType now) = stored pc s := rfl

@[simp] theorem stored_resetLockout (s : DmPairingService) (userId : String) :
    stored pc (s.resetLockout userId) = stored pc s := rfl

@[simp] theorem stored_recordFailure (s : DmPairingService) (userId : String)
    (checked locked : DateTime) :
    stored pc (s.recordFailure userId checked locked).1 = stored pc s := rfl

@[simp] theorem stored_retainLockouts (s : DmPairingService) (now : String → DateTime) :
    stored pc (s.retainLockouts now) = stored pc s := rfl

theorem stored_insertCode (pc : PairingCode) (s : DmPairingService) (pc' : PairingCode) :
    stored pc (s.insertCode pc') ≤ stored pc s + inserting pc (.insertCode pc') := by
  simp only [stored, insertCode, KeyedMap.lookup_insert_if, inserting]
  by_cases hpc : pc' = pc
  · split <;> simp [hpc]
  · by_cases hcode : pc.code = pc'.code <;> simp [hcode, hpc]

theorem stored_markUsed (s : DmPairingService) (code : String) (hpc : pc.used = false) :
    stored pc (s.markUsed code) ≤ stored pc s ∧
      (pc.code = code → stored pc (s.markUsed code) = 0) := by
  have hzero : pc.code = code → stored pc (s.markUsed code) = 0 := by
    intro hcode
    unfold stored
    rw [lookup_markUsed, if_pos hcode, if_neg]
    intro hsome
    obtain ⟨entry, -, rfl⟩ := Option.map_eq_some_iff.mp hsome
    cases hpc
  refine ⟨?_, hzero⟩
  by_cases hcode : pc.code = code
  · rw [hzero hcode]
    exact Nat.zero_le _
  · unfold stored
    rw [lookup_markUsed, if_neg hcode]

theorem stored_retainCodes (s : DmPairingService) (now : String → DateTime) :
    stored pc (s.retainCodes now) ≤ stored pc s := by
  unfold stored
  split
  · rename_i hkept
    simp only [DmPairingService.retainCodes, KeyedMap.lookup_retain] at hkept
    rw [if_pos (Option.eq_some_of_filter_eq_some hkept)]
  · exact Nat.zero_le _

/-- Filing a code and marking it aside, a code does not get into the store or past
its mark. -/
theorem moves_stored (hm : Moves s p s' o evs) (hpc : pc.used = false) :
    stored pc s' + load (inserting pc) (remaining o) + load (marked pc) (remaining o) +
        (successes evs).count pc ≤ stored pc s + inserting pc p + marked pc p ∨
      p = .generate ∧ pc.serial = s.minted ∧ stored pc s' = stored pc s ∧
        load (inserting pc) (remaining o) + load (marked pc) (remaining o) +
          (successes evs).count pc = 1 ∨
      ∃ userId code channelType now, p = .markUsed userId code channelType pc now ∧
        stored pc s' = stored pc (s.markUsed code) ∧
        load (inserting pc) (remaining o) + load (marked pc) (remaining o) +
          (successes evs).count pc = 1 := by
  cases hm with
  | generate draw now =>
    by_cases hmint : s.mint draw now = pc
    · subst hmint
      exact .inr (.inl ⟨rfl, rfl, rfl, by simp⟩)
    · exact .inl (by simp [hmint, successes, stored])
  | @insert pc' =>
    have hstored := stored_insertCode pc s pc'
    exact .inl (by simpa [successes] using hstored)
  | @markUsed userId code channelType pc' now =>
    by_cases heq : pc' = pc
    · subst heq
      exact .inr (.inr ⟨_, _, _, _, rfl, rfl, by simp⟩)
    · exact .inl (by simpa [heq] using (stored_markUsed s code hpc).1)
  | retainCodes now => exact .inl (by simpa [successes] using stored_retainCodes s now)
  | _ => exact .inl (by simp [List.count_cons])

/-- Apart from new codes, only a look-up that finds the code good begins a use of it. -/
theorem moves_accepted (pc : PairingCode) (hm : Moves s p s' o evs) :
    load (inserting pc) (remaining o) + load (accepted pc) (remaining o) +
        load (marked pc) (remaining o) + (successes evs).count pc ≤
          inserting pc p + accepted pc p + marked pc p ∨
      p = .generate ∧ pc.serial = s.minted ∧ load (inserting pc) (remaining o) +
        load (accepted pc) (remaining o) + load (marked pc) (remaining o) +
          (successes evs).count pc = 1 ∨
      ∃ userId code channelType now, o = .inl (.markUsed userId code channelType pc now) ∧
        p = .lookUp userId code channelType ∧ s.codes.lookup code = some pc ∧ s' = s ∧ evs = [] := by
  cases hm with
  | generate draw now =>
    by_cases hmint : s.mint draw now = pc
    · subst hmint
      exact .inr (.inl ⟨rfl, rfl, by simp⟩)
    · exact .inl (by simp [hmint])
  | @good userId code channelType pc' now hfound hgood =>
    by_cases heq : pc' = pc
    · subst heq
      exact .inr (.inr ⟨_, _, _, _, rfl, rfl, hfound, rfl, rfl⟩)
    · exact .inl (by simp [heq])
  | _ => exact .inl (by simp [List.count_cons])

end Moves

def Judged (h : List Event) : Point → Prop
  | .insertCode pc => pc.used = false
  | .markUsed _ code _ pc now => pc.code = code ∧ pc.isValid now ∧ .generated pc ∈ h
  | .pair _ _ pc now => pc.isValid now ∧ .generated pc ∈ h
  | .resetLockout _ pc now => pc.isValid now ∧ .generated pc ∈ h
  | _ => True

theorem Judged.mono {h : List Event} {p : Point} (hp : Judged h p) (evs : List Event) :
    Judged (h ++ evs) p := by
  cases p with
  | markUsed => exact ⟨hp.1, hp.2.1, List.mem_append_left _ hp.2.2⟩
  | pair | resetLockout => exact ⟨hp.1, List.mem_append_left _ hp.2⟩
  | _ => exact hp

structure Tracked (c : Config DmPairingService Point Event) : Prop where
  keyed : Keyed c.shared
  filed : ∀ code pc, c.shared.codes.lookup code = some pc →
    .generated { pc with used := false } ∈ c.history
  judged : ∀ p ∈ c.inFlight, Judged c.history p
  expiry : ∀ userId pc now, .succeeded userId pc now ∈ c.history →
    pc.isValid now ∧ .generated pc ∈ c.history
  fresh : ∀ pc, pc.used = false → c.shared.minted ≤ pc.serial → stored pc c.shared + load (inserting pc) c.inFlight +
    load (accepted pc) c.inFlight + load (marked pc) c.inFlight + (successes c.history).count pc = 0

section Steps

variable {s s' : DmPairingService} {l r : List Point} {p p' : Point} {o : Point ⊕ Output}
  {h evs : List Event} {pc : PairingCode}

theorem used_of_isValid {now : DateTime} (hvalid : pc.isValid now) : pc.used = false := by
  unfold PairingCode.isValid at hvalid
  cases hused : pc.used with
  | false => rfl
  | true => simp [hused] at hvalid

theorem isValid_of_refusal {now : DateTime} (hgood : refusal pc now = none) : pc.isValid now := by
  unfold refusal at hgood
  split at hgood
  · cases hgood
  · split at hgood
    · assumption
    · cases hgood

theorem moves_filed (hm : Moves s p s' o evs) (hp : Judged h p)
    (hfiled : ∀ code pc, s.codes.lookup code = some pc → .generated { pc with used := false } ∈ h) :
    ∀ code pc, s'.codes.lookup code = some pc →
      .generated { pc with used := false } ∈ h ++ evs := by
  intro code pc hpc
  cases hm with
  | @insert pc' =>
    obtain ⟨rfl, rfl⟩ | ⟨-, hold⟩ := KeyedMap.lookup_insert_eq_some.mp hpc
    · have hunused : pc.used = false := hp
      have hsame : ({ pc with used := false } : PairingCode) = pc := by rw [← hunused]
      rw [hsame]
      simp
    · exact List.mem_append_left _ (hfiled code pc hold)
  | @markUsed _ code' =>
    rw [lookup_markUsed] at hpc
    split at hpc
    · obtain ⟨entry, hentry, rfl⟩ := Option.map_eq_some_iff.mp hpc
      exact List.mem_append_left _ (hfiled code' entry hentry)
    · exact List.mem_append_left _ (hfiled code pc hpc)
  | retainCodes now =>
    simp only [DmPairingService.retainCodes, KeyedMap.lookup_retain] at hpc
    exact List.mem_append_left _ (hfiled code pc (Option.eq_some_of_filter_eq_some hpc))
  | _ => exact List.mem_append_left _ (hfiled code pc hpc)

theorem moves_judged (hm : Moves s p s' o evs) (hp : Judged h p) (hkeyed : Keyed s)
    (hfiled : ∀ code pc, s.codes.lookup code = some pc → .generated { pc with used := false } ∈ h) :
    ∀ p' ∈ remaining o, Judged h p' := by
  intro p' hp'
  cases hm with
  | generate | unlocked | unknown | retainCodes =>
    cases List.mem_singleton.mp hp'
    trivial
  | @good _ code _ pc now hfound hgood =>
    cases List.mem_singleton.mp hp'
    have hvalid := isValid_of_refusal hgood
    have hgenerated := hfiled code pc hfound
    have hsame : ({ pc with used := false } : PairingCode) = pc := by rw [← used_of_isValid hvalid]
    rw [hsame] at hgenerated
    exact ⟨hkeyed code pc hfound, hvalid, hgenerated⟩
  | markUsed =>
    cases List.mem_singleton.mp hp'
    exact hp.2
  | pair =>
    cases List.mem_singleton.mp hp'
    exact hp
  | _ => cases hp'

theorem moves_minted (hm : Moves s p s' o evs) : s.minted ≤ s'.minted := by
  cases hm with
  | generate => exact Nat.le_succ _
  | _ => exact le_rfl

theorem minted_of_generate (hm : Moves s .generate s' o evs) : s'.minted = s.minted + 1 := by
  cases hm
  rfl

theorem stored_of_lookup {code : String} (hkeyed : Keyed s)
    (hfound : s.codes.lookup code = some pc) : stored pc s = 1 := by
  unfold stored
  rw [hkeyed code pc hfound, if_pos hfound]

theorem Tracked.act (hc : Tracked ⟨s, l ++ p :: r, h⟩) (hm : Moves s p s' o evs) :
    Tracked ⟨s', l ++ (remaining o ++ r), h ++ evs⟩ := by
  have hp : Judged h p := hc.judged p (by simp)
  refine ⟨moves_keyed hm hc.keyed, moves_filed hm hp hc.filed, fun p' hp' ↦ ?_,
    fun userId pc now he ↦ ?_, fun pc hpc hserial ↦ ?_⟩
  · obtain hp' | hp' | hp' := by simpa only [List.mem_append] using hp'
    · exact (hc.judged p' (by simp [hp'])).mono evs
    · exact (moves_judged hm hp hc.keyed hc.filed p' hp').mono evs
    · exact (hc.judged p' (by simp [hp'])).mono evs
  · obtain hold | hnew := List.mem_append.mp he
    · have hexpiry := hc.expiry userId pc now hold
      exact ⟨hexpiry.1, List.mem_append_left _ hexpiry.2⟩
    · cases hm with
      | resetLockout =>
        obtain ⟨rfl, rfl, rfl⟩ := by simpa using hnew
        exact ⟨hp.1, List.mem_append_left _ hp.2⟩
      | _ => simp at hnew
  · have hminted := moves_minted hm
    have hnone := hc.fresh pc hpc (hminted.trans hserial)
    have hinserting := load_act (inserting pc) l r p o
    have haccepted := load_act (accepted pc) l r p o
    have hmarked := load_act (marked pc) l r p o
    have hunmarked : accepted pc p ≤ load (accepted pc) (l ++ p :: r) := le_load (by simp)
    simp only [successes, pick_append, List.count_append] at hnone hserial ⊢
    obtain hstored | ⟨rfl, hmint, -⟩ | ⟨userId, code, channelType, now, rfl, -⟩ :=
      moves_stored hm hpc
    · obtain hbegun | ⟨rfl, hmint, -⟩ | ⟨userId, code, channelType, now, rfl, rfl, hfound, rfl, rfl⟩ :=
        moves_accepted pc hm
      · simp only [successes] at hstored hbegun
        omega
      · have hnext := minted_of_generate hm
        omega
      · have hone := stored_of_lookup hc.keyed hfound
        simp only at hone
        omega
    · have hnext := minted_of_generate hm
      omega
    · simp only [accepted, if_true] at hunmarked
      omega

theorem Tracked.call (hc : Tracked ⟨s, l ++ r, h⟩) (k : Call) :
    Tracked ⟨s, l ++ start k :: r, h⟩ := by
  obtain ⟨hkeyed, hfiled, hjudged, hexpiry, hfresh⟩ := hc
  refine ⟨hkeyed, hfiled, fun p hp ↦ ?_, hexpiry, fun pc hpc hserial ↦ ?_⟩
  · obtain hp | rfl | hp := by simpa only [List.mem_append, List.mem_cons] using hp
    · exact hjudged p (by simp [hp])
    · cases k <;> trivial
    · exact hjudged p (by simp [hp])
  · cases k <;> simpa [start] using hfresh pc hpc hserial

end Steps

theorem tracked_of_run {ok : Config DmPairingService Point Event → Label Call Point Input → Prop}
    {c : Config DmPairingService Point Event} (hc : Run program ok (initial new) c) :
    Tracked c := by
  refine hc.invariant (Q := fun _ ↦ True) (fun _ _ ↦ trivial) ?_ (fun k _ _ hc ↦ hc.call k)
    fun _ hstep _ _ hc ↦ hc.act (moves_of_step hstep)
  exact ⟨by simp [initial, new, Keyed], by simp [initial, new], by simp [initial], by simp [initial],
    fun _ _ _ ↦ rfl⟩

/-- No call finds a code good that another call has found good and not marked yet. -/
def Spaced (c : Config DmPairingService Point Event) : Label Call Point Input → Prop
  | .act (.lookUp _ code _) (.clock now) => ∀ pc, c.shared.codes.lookup code = some pc →
    refusal pc now = none → ∀ userId channelType earlier,
      .markUsed userId code channelType pc earlier ∉ c.inFlight
  | _ => True

structure Unspent (pc : PairingCode) (c : Config DmPairingService Point Event) : Prop where
  stored : stored pc c.shared + load (inserting pc) c.inFlight + load (marked pc) c.inFlight +
    (successes c.history).count pc ≤ 1
  used : load (inserting pc) c.inFlight + load (accepted pc) c.inFlight +
    load (marked pc) c.inFlight + (successes c.history).count pc ≤ 1

section Unspent

variable {s s' : DmPairingService} {l r : List Point} {p : Point} {o : Point ⊕ Output}
  {h evs : List Event} {pc : PairingCode} {i : Input}

theorem good_of_step {userId code channelType : String} {now : DateTime}
    (hstep : step i (.lookUp userId code channelType) s =
      some (s', .inl (.markUsed userId code channelType pc now), evs)) :
    i = .clock now ∧ refusal pc now = none := by
  cases i with
  | clock now' =>
    simp only [step] at hstep
    split at hstep
    · cases hstep
    · split at hstep
      · cases hstep
      · rename_i hgood
        cases hstep
        exact ⟨rfl, hgood⟩
  | _ => cases hstep

theorem unmarked_of_spaced {userId code channelType : String} {now : DateTime}
    {c : Config DmPairingService Point Event} (hc : Tracked c)
    (hok : Spaced c (.act (.lookUp userId code channelType) (.clock now)))
    (hfound : c.shared.codes.lookup code = some pc) (hgood : refusal pc now = none) :
    load (accepted pc) c.inFlight = 0 := by
  refine load_eq_zero.mpr fun p hp ↦ ?_
  cases p with
  | markUsed userId' code' channelType' pc' earlier =>
    have hjudged := hc.judged _ hp
    refine if_neg fun heq ↦ ?_
    subst heq
    obtain rfl : code' = code := hjudged.1.symm.trans (hc.keyed code pc' hfound)
    exact hok pc' hfound hgood userId' channelType' earlier hp
  | _ => rfl

theorem Unspent.act (hu : Unspent pc ⟨s, l ++ p :: r, h⟩) (hpc : pc.used = false)
    (hc : Tracked ⟨s, l ++ p :: r, h⟩) (hok : Spaced ⟨s, l ++ p :: r, h⟩ (.act p i))
    (hstep : step i p s = some (s', o, evs)) :
    Unspent pc ⟨s', l ++ (remaining o ++ r), h ++ evs⟩ := by
  have hm : Moves s p s' o evs := moves_of_step hstep
  have hp : Judged h p := hc.judged p (by simp)
  obtain ⟨hstored, hused⟩ := hu
  have hinserting := load_act (inserting pc) l r p o
  have haccepted := load_act (accepted pc) l r p o
  have hmarked := load_act (marked pc) l r p o
  have hunmarked : accepted pc p ≤ load (accepted pc) (l ++ p :: r) := le_load (by simp)
  refine ⟨?_, ?_⟩
  · simp only [successes, pick_append, List.count_append] at hstored hused ⊢
    obtain hmove | ⟨rfl, hmint, hsame, hone⟩ | ⟨userId, code, channelType, now, rfl, hsame, hone⟩ :=
      moves_stored hm hpc
    · simp only [successes] at hmove
      omega
    · have hnone := hc.fresh pc hpc hmint.ge
      simp only [successes, inserting, marked] at hnone hone hinserting hmarked
      omega
    · have hzero := (stored_markUsed s code hpc).2 hp.1
      simp only [successes, accepted, if_true, inserting, marked] at hone hunmarked hinserting hmarked
      omega
  · simp only [successes, pick_append, List.count_append] at hstored hused ⊢
    obtain hmove | ⟨rfl, hmint, hone⟩ | ⟨userId, code, channelType, now, rfl, rfl, hfound, rfl, rfl⟩ :=
      moves_accepted pc hm
    · simp only [successes] at hmove
      omega
    · have hnone := hc.fresh pc hpc hmint.ge
      simp only [successes, inserting, accepted, marked] at hnone hone hinserting haccepted hmarked
      omega
    · have hone := stored_of_lookup hc.keyed hfound
      obtain ⟨rfl, hgood⟩ := good_of_step hstep
      have hnone := unmarked_of_spaced hc hok hfound hgood
      simp only at hone hnone
      simp only [remaining_inl, load_cons, load_nil, inserting, accepted, marked, if_true]
        at hinserting haccepted hmarked
      simp only [remaining_inl, pick_nil, List.count_nil]
      omega

end Unspent

theorem unspent_of_run {c : Config DmPairingService Point Event} {pc : PairingCode}
    (hc : Run program Spaced (initial new) c) (hpc : pc.used = false) : Unspent pc c := by
  refine hc.invariant (fun _ hc ↦ tracked_of_run hc) ?_ (fun k _ _ hu ↦ ?_)
    fun _ hstep hok hc hu ↦ hu.act hpc hc hok hstep
  · exact ⟨Nat.zero_le _, Nat.zero_le _⟩
  · cases k <;> exact ⟨by simpa [program, start] using hu.stored,
      by simpa [program, start] using hu.used⟩

/-- Each code generated is behind at most one success, and before its expiry. -/
structure SingleUse (c : Config DmPairingService Point Event) : Prop where
  once : ∀ pc, .generated pc ∈ c.history → (successes c.history).count pc ≤ 1
  expiry : ∀ userId pc now, .succeeded userId pc now ∈ c.history →
    .generated pc ∈ c.history ∧ now < pc.expiresAt

theorem singleUse_of_run (c : Config DmPairingService Point Event)
    (hc : Run program Spaced (initial new) c) : SingleUse c := by
  have htracked := tracked_of_run hc
  have hvalid : ∀ userId pc now, .succeeded userId pc now ∈ c.history →
      pc.used = false ∧ now < pc.expiresAt := by
    intro userId pc now he
    have hexpiry := (htracked.expiry userId pc now he).1
    refine ⟨used_of_isValid hexpiry, ?_⟩
    unfold PairingCode.isValid at hexpiry
    simp only [Bool.and_eq_true, decide_eq_true_eq] at hexpiry
    exact hexpiry.2
  refine ⟨fun pc _ ↦ ?_, fun userId pc now he ↦ ?_⟩
  · cases hpc : pc.used with
    | false =>
      have hused := (unspent_of_run hc hpc).used
      omega
    | true =>
      rw [List.count_eq_zero_of_not_mem]
      · exact Nat.zero_le _
      · intro hmem
        obtain ⟨e, he, hsuccess⟩ := (mem_pick _ _).mp hmem
        cases e with
        | succeeded userId pc' now =>
          obtain rfl := Option.some_inj.mp hsuccess
          rw [(hvalid userId pc' now he).1] at hpc
          cases hpc
        | _ => cases hsuccess
  · exact ⟨(htracked.expiry userId pc now he).2, (hvalid userId pc now he).2⟩

def generateOne : List (Move Call Input) :=
  [.call .generateCode, .act 0 (.drawn (fun _ ↦ 0) 0), .act 0 .poll]

/-- One user validates the code, then another one tries. -/
def validateTwice : List (Move Call Input) :=
  generateOne ++ ([.call (.validateCode "ann" "AAAAAA" "telegram"), .act 0 (.clock 1),
    .act 0 (.clock 1), .act 0 .poll, .act 0 (.clock 2), .act 0 .poll,
    .call (.validateCode "bob" "AAAAAA" "slack"), .act 0 (.clock 3), .act 0 (.clock 3)] :
      List (Move Call Input))

theorem singleUse_of_run_validateTwice : ∃ c, play program (initial new) validateTwice = some c ∧
    (successes c.history).length = 1 ∧ SingleUse c := by
  have hpermits : Permits program Spaced (initial new) validateTwice := by
    repeat' first
      | exact trivial
      | refine And.intro trivial ?_
      | refine And.intro (fun pc hfound hgood userId channelType earlier hmem ↦ ?_) ?_
    all_goals simp [initial, program, start] at hmem
  exact ⟨_, rfl, rfl, singleUse_of_run _ (run_of_permits hpermits rfl)⟩

/-- Both users look the code up before either marks it. -/
def validateBoth : List (Move Call Input) :=
  generateOne ++ ([.call (.validateCode "ann" "AAAAAA" "telegram"),
    .call (.validateCode "bob" "AAAAAA" "slack"), .act 0 (.clock 1), .act 1 (.clock 1),
    .act 0 (.clock 1), .act 1 (.clock 1), .act 0 .poll, .act 1 .poll, .act 0 (.clock 2),
    .act 1 (.clock 2), .act 0 .poll, .act 0 .poll] : List (Move Call Input))

theorem not_singleUse : ¬ ∀ c, Reachable program new c → SingleUse c := by
  intro h
  have hplay : ∃ c, play program (initial new) validateBoth = some c ∧
      .generated (mint new (fun _ ↦ 0) 0) ∈ c.history ∧
      (successes c.history).count (mint new (fun _ ↦ 0) 0) = 2 := ⟨_, rfl, by decide, by decide⟩
  obtain ⟨c, hplay, hgenerated, htwo⟩ := hplay
  have honce := (h c (run_of_play _ hplay)).once _ hgenerated
  omega

end AdkGateway.Pairing.DmPairingService
