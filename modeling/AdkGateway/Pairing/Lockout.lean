import AdkGateway.Foundation.Machine
import AdkGateway.Pairing.Service

namespace AdkGateway.Pairing

open Foundation Interleaving

namespace DmPairingService

/-- The clock as one `validate_code` reads it; it does not run backwards. -/
structure Readings where
  checked : DateTime
  looked : DateTime
  failed : DateTime
  locked : DateTime
  paired : DateTime
  ordered : checked ≤ looked ∧ looked ≤ failed ∧ failed ≤ locked

def validateCode (s : DmPairingService) (userId code channelType : String) (t : Readings) :
    PairingResult × DmPairingService :=
  match s.lockedUntil? userId t.checked with
  | some lockedUntil => (.locked lockedUntil, s)
  | none =>
    match s.codes.lookup code with
    | none => ((s.recordFailure userId t.failed t.locked).2,
        (s.recordFailure userId t.failed t.locked).1)
    | some pc =>
      match refusal pc t.looked with
      | some result => (result, s)
      | none => (.success, ((s.markUsed code).pair userId channelType t.paired).resetLockout userId)

inductive Op
  | generateCode (draw : Fin 6 → Fin 32) (now : DateTime)
  | validateCode (userId code channelType : String) (t : Readings)
  | cleanup (codesNow lockoutsNow : String → DateTime)

def apply (s : DmPairingService) : Op → Output × DmPairingService
  | .generateCode draw now => (.generated (s.mint draw now).code,
      { s with minted := s.minted + 1 }.insertCode (s.mint draw now))
  | .validateCode userId code channelType t =>
    (.validated (s.validateCode userId code channelType t).1,
      (s.validateCode userId code channelType t).2)
  | .cleanup codesNow lockoutsNow => (.cleaned, (s.retainCodes codesNow).retainLockouts lockoutsNow)

section Alone

variable (s : DmPairingService) (h : List Event)

theorem run_validateCode (userId code channelType : String) (t : Readings) : ∃ evs,
    Run program Any ⟨s, [], h⟩ ⟨(s.validateCode userId code channelType t).2, [], h ++ evs⟩ ∧
      .validated userId (s.validateCode userId code channelType t).1 ∈ evs := by
  suffices hsolo : ∃ evs, Solo program s (.checkLockout userId code channelType)
      (s.validateCode userId code channelType t).2 evs ∧
        .validated userId (s.validateCode userId code channelType t).1 ∈ evs by
    obtain ⟨evs, hsolo, hmem⟩ := hsolo
    exact ⟨evs, Solo.run (k := .validateCode userId code channelType) hsolo h, hmem⟩
  unfold validateCode
  split
  · next lockedUntil hlocked =>
    have hcheck : program.step (.clock t.checked) (.checkLockout userId code channelType) s =
        some (s, .inr (.validated (.locked lockedUntil)),
          [.validated userId (.locked lockedUntil)]) := by
      simp only [program, step, hlocked]
    exact ⟨_, .done _ hcheck, .head _⟩
  · next hopen =>
    have hcheck : program.step (.clock t.checked) (.checkLockout userId code channelType) s =
        some (s, .inl (.lookUp userId code channelType), []) := by
      simp only [program, step, hopen]
    split
    · next hunknown =>
      have hlook : program.step (.clock t.looked) (.lookUp userId code channelType) s =
          some (s, .inl (.recordFailure userId), []) := by
        simp only [program, step, hunknown]
      exact ⟨_, .next _ hcheck (.next _ hlook (.done (.clocks t.failed t.locked) rfl)), .head _⟩
    · next pc hfound =>
      split
      · next result hrefused =>
        have hlook : program.step (.clock t.looked) (.lookUp userId code channelType) s =
            some (s, .inr (.validated result), [.validated userId result]) := by
          simp only [program, step, hfound, hrefused]
        exact ⟨_, .next _ hcheck (.done _ hlook), .head _⟩
      · next hgood =>
        have hlook : program.step (.clock t.looked) (.lookUp userId code channelType) s =
            some (s, .inl (.markUsed userId code channelType pc t.looked), []) := by
          simp only [program, step, hfound, hgood]
        exact ⟨_, .next _ hcheck (.next _ hlook (.next .poll rfl (.next (.clock t.paired) rfl
          (.done .poll rfl)))), .tail _ (.head _)⟩

theorem run_apply (op : Op) : ∃ evs, Run program Any ⟨s, [], h⟩ ⟨(s.apply op).2, [], h ++ evs⟩ := by
  cases op with
  | generateCode draw now =>
    exact ⟨_, Solo.run (k := .generateCode) (.next (.drawn draw now) rfl (.done .poll rfl)) h⟩
  | validateCode userId code channelType t =>
    obtain ⟨evs, hrun, -⟩ := run_validateCode s h userId code channelType t
    exact ⟨evs, hrun⟩
  | cleanup codesNow lockoutsNow =>
    exact ⟨_, Solo.run (k := .cleanup)
      (.next (.readings codesNow) rfl (.done (.readings lockoutsNow) rfl)) h⟩

end Alone

end DmPairingService

namespace LockoutInfo

/-- The failures that count towards the next lock. -/
def failures (info : LockoutInfo) : ℕ :=
  if info.lockedUntil.isSome then 0 else info.failedAttempts.toNat

theorem fail_counts {info : LockoutInfo} {checked : DateTime} (locked : DateTime)
    (hopen : info.isLocked checked = false) (hfew : info.failures + 1 < maxAttempts.toNat) :
    (info.fail checked locked).1.lockedUntil = none ∧
      (info.fail checked locked).1.failures = info.failures + 1 ∧
      ∃ left, (info.fail checked locked).2 = .invalidCode left := by
  obtain ⟨failedAttempts, lockedUntil⟩ := info
  cases lockedUntil with
  | none =>
    have hfew' : failedAttempts.toNat + 1 < 3 := hfew
    have hadd : (failedAttempts + 1).toNat = failedAttempts.toNat + 1 := by
      rw [UInt32.toNat_add, UInt32.toNat_one]
      omega
    have hlow : ¬ maxAttempts ≤ failedAttempts + 1 := by
      rw [UInt32.le_iff_toNat_le, hadd]
      exact Nat.not_le_of_lt hfew
    simp [fail, hlow, failures, hadd]
  | some lockedUntil => simp [fail, hopen, failures, new, maxAttempts]

theorem fail_locks {info : LockoutInfo} {checked : DateTime} (locked : DateTime)
    (hopen : info.isLocked checked = false) (hlast : info.failures + 1 = maxAttempts.toNat) :
    (info.fail checked locked).1.lockedUntil = some (locked + DateTime.minutes lockoutMinutes) ∧
      (info.fail checked locked).2 = .locked (locked + DateTime.minutes lockoutMinutes) := by
  obtain ⟨failedAttempts, lockedUntil⟩ := info
  cases lockedUntil with
  | none =>
    have hlast' : failedAttempts.toNat + 1 = 3 := hlast
    have hadd : (failedAttempts + 1).toNat = failedAttempts.toNat + 1 := by
      rw [UInt32.toNat_add, UInt32.toNat_one]
      omega
    have hhigh : maxAttempts ≤ failedAttempts + 1 := by
      rw [UInt32.le_iff_toNat_le, hadd]
      exact hlast.ge
    simp [fail, hhigh]
  | some lockedUntil => cases hlast

end LockoutInfo

namespace DmPairingService

/-- The failures of a user that count towards the next lock. -/
def tally (s : DmPairingService) (userId : String) : ℕ :=
  ((s.lockouts.lookup userId).getD LockoutInfo.new).failures

def lock (s : DmPairingService) (userId : String) : Option DateTime :=
  ((s.lockouts.lookup userId).getD LockoutInfo.new).lockedUntil

/-- Fewer failures are on record than lock a user out. -/
def Sound (s : DmPairingService) : Prop := ∀ userId, s.tally userId < maxAttempts.toNat

section Calls

variable {s : DmPairingService} {userId userId' code channelType : String} {t : Readings}
  {now now' lockedUntil : DateTime}

theorem isLocked_of_lockedUntil? (h : s.lockedUntil? userId now = none) (hle : now ≤ now') :
    ((s.lockouts.lookup userId).getD LockoutInfo.new).isLocked now' = false := by
  unfold lockedUntil? at h
  cases hl : s.lockouts.lookup userId with
  | none => rfl
  | some info =>
    rw [hl] at h
    obtain ⟨failedAttempts, lockedUntil⟩ := info
    cases lockedUntil with
    | none => rfl
    | some lockedUntil =>
      simp only [Option.bind_some, LockoutInfo.isLocked, ite_eq_right_iff, decide_eq_true_eq] at h
      simp only [Option.getD_some, LockoutInfo.isLocked, decide_eq_false_iff_not]
      intro hlt
      exact nomatch h (Int.lt_of_le_of_lt hle hlt)

theorem lockedUntil?_of_lock (h : s.lock userId = some lockedUntil) (hlt : now < lockedUntil) :
    s.lockedUntil? userId now = some lockedUntil := by
  unfold lock at h
  unfold lockedUntil?
  cases hl : s.lockouts.lookup userId with
  | none => rw [hl] at h; cases h
  | some info =>
    rw [hl] at h
    change info.lockedUntil = some lockedUntil at h
    simp [LockoutInfo.isLocked, h, hlt]

theorem recordFailure_cases (hs : s.Sound) (hopen : s.lockedUntil? userId t.checked = none) :
    (s.tally userId + 1 < maxAttempts.toNat ∧
      (∃ left, (s.recordFailure userId t.failed t.locked).2 = .invalidCode left) ∧
      (s.recordFailure userId t.failed t.locked).1.lock userId = none ∧
      (s.recordFailure userId t.failed t.locked).1.tally userId = s.tally userId + 1) ∨
    (s.tally userId + 1 = maxAttempts.toNat ∧
      (s.recordFailure userId t.failed t.locked).2 =
        .locked (t.locked + DateTime.minutes lockoutMinutes) ∧
      (s.recordFailure userId t.failed t.locked).1.lock userId =
        some (t.locked + DateTime.minutes lockoutMinutes)) := by
  have hunlocked := isLocked_of_lockedUntil? hopen (Int.le_trans t.ordered.1 t.ordered.2.1)
  obtain hfew | hlast := Nat.lt_or_eq_of_le (Nat.succ_le_of_lt (hs userId))
  · obtain ⟨hlock, hcount, hresult⟩ := LockoutInfo.fail_counts t.locked hunlocked hfew
    exact .inl ⟨hfew, hresult, by simpa [lock, recordFailure] using hlock,
      by simpa [tally, recordFailure] using hcount⟩
  · obtain ⟨hlock, hresult⟩ := LockoutInfo.fail_locks t.locked hunlocked hlast
    exact .inr ⟨hlast, hresult, by simpa [lock, recordFailure] using hlock⟩

inductive Validates (s : DmPairingService) (userId code : String) (t : Readings) :
    PairingResult × DmPairingService → Prop
  | locked {lockedUntil : DateTime} : s.lockedUntil? userId t.checked = some lockedUntil →
      Validates s userId code t (.locked lockedUntil, s)
  | failed : s.lockedUntil? userId t.checked = none → s.codes.lookup code = none →
      Validates s userId code t ((s.recordFailure userId t.failed t.locked).2,
        (s.recordFailure userId t.failed t.locked).1)
  | refused {pc : PairingCode} {result : PairingResult} : s.lockedUntil? userId t.checked = none →
      s.codes.lookup code = some pc → refusal pc t.looked = some result →
      Validates s userId code t (result, s)
  | success {pc : PairingCode} {channelType : String} : s.lockedUntil? userId t.checked = none →
      s.codes.lookup code = some pc → Validates s userId code t (.success,
        ((s.markUsed code).pair userId channelType t.paired).resetLockout userId)

theorem validates (s : DmPairingService) (userId code channelType : String) (t : Readings) :
    Validates s userId code t (s.validateCode userId code channelType t) := by
  unfold validateCode
  split
  · rename_i hlocked
    exact .locked hlocked
  · rename_i hopen
    split
    · rename_i hunknown
      exact .failed hopen hunknown
    · rename_i pc hfound
      split
      · rename_i result hrefused
        exact .refused hopen hfound hrefused
      · exact .success hopen hfound

/-- No call for another user touches the lockout of a user. -/
theorem lookup_validateCode (hne : userId' ≠ userId) :
    (s.validateCode userId code channelType t).2.lockouts.lookup userId' =
      s.lockouts.lookup userId' := by
  have hv := validates s userId code channelType t
  generalize s.validateCode userId code channelType t = r at hv ⊢
  cases hv with
  | locked | refused => rfl
  | failed => exact AList.lookup_insert_ne hne
  | success => exact AList.lookup_erase_ne hne

theorem sound_new : new.Sound := fun _ ↦ Nat.zero_lt_succ 2

theorem Sound.validateCode (hs : s.Sound) :
    (s.validateCode userId code channelType t).2.Sound := by
  intro userId'
  obtain rfl | hne := eq_or_ne userId' userId
  · have hv := validates s userId' code channelType t
    generalize s.validateCode userId' code channelType t = r at hv ⊢
    cases hv with
    | locked | refused => exact hs userId'
    | failed hopen _ =>
      obtain ⟨hfew, -, -, hcount⟩ | ⟨-, -, hlock⟩ := recordFailure_cases hs hopen
      · exact hcount ▸ hfew
      · simp only [lock] at hlock
        simp [tally, LockoutInfo.failures, hlock, maxAttempts]
    | success =>
      simp [tally, resetLockout, LockoutInfo.failures, LockoutInfo.new, maxAttempts]
  · simp only [tally, lookup_validateCode hne]
    exact hs userId'

/-- A cleanup drops every count that locks nobody out. -/
theorem tally_cleanup (codesNow lockoutsNow : String → DateTime) :
    ((s.retainCodes codesNow).retainLockouts lockoutsNow).tally userId = 0 := by
  simp only [tally, retainLockouts, retainCodes, KeyedMap.lookup_retain]
  cases s.lockouts.lookup userId with
  | none => rfl
  | some info =>
    rw [Option.filter_some]
    split
    · rename_i hlocked
      obtain ⟨failedAttempts, lockedUntil⟩ := info
      cases lockedUntil with
      | none => cases hlocked
      | some lockedUntil => rfl
    · rfl

theorem Sound.apply (hs : s.Sound) (op : Op) : (s.apply op).2.Sound := by
  cases op with
  | generateCode draw now => exact hs
  | validateCode userId code channelType t => exact hs.validateCode
  | cleanup codesNow lockoutsNow =>
    intro userId
    exact lt_of_eq_of_lt (tally_cleanup codesNow lockoutsNow) (Nat.zero_lt_succ 2)

end Calls

def Op.isCleanup : Op → Bool
  | .cleanup .. => true
  | _ => false

/-- An attempt of the user with a code that is not on file. -/
def unknownAttempt (s : DmPairingService) (userId : String) : Op → Bool
  | .validateCode userId' code _ _ => userId' = userId && (s.codes.lookup code).isNone
  | _ => false

def failures (userId : String) (s : DmPairingService) : List Op → ℕ
  | [] => 0
  | op :: ops => (s.unknownAttempt userId op).toNat + failures userId (s.apply op).2 ops

/-- What a call tells the user about an attempt. -/
def answer (s : DmPairingService) (userId : String) : Op → Option PairingResult
  | .validateCode userId' code channelType t =>
    if userId' = userId then some (s.validateCode userId' code channelType t).1 else none
  | _ => none

def answers (userId : String) (s : DmPairingService) : List Op → List PairingResult
  | [] => []
  | op :: ops => (s.answer userId op).toList ++ answers userId (s.apply op).2 ops

/-- An attempt that neither succeeds nor meets a lockout. -/
def Fails (result : PairingResult) : Prop :=
  result ≠ .success ∧ ∀ lockedUntil, result ≠ .locked lockedUntil

def Op.Before (lockedUntil : DateTime) : Op → Prop
  | .generateCode _ now => now < lockedUntil
  | .validateCode _ _ _ t => t.checked < lockedUntil
  | .cleanup _ lockoutsNow => ∀ userId, lockoutsNow userId < lockedUntil

/-- The call locks the user out: it says so, and no attempt succeeds until the
lockout has passed. -/
def LocksOut (s : DmPairingService) (userId : String) (op : Op) : Prop :=
  ∃ code channelType t, op = .validateCode userId code channelType t ∧
    (s.validateCode userId code channelType t).1 =
      .locked (t.locked + DateTime.minutes lockoutMinutes) ∧
    ∀ later : List Op, (∀ op ∈ later, op.Before (t.locked + DateTime.minutes lockoutMinutes)) →
      .success ∉ answers userId (s.apply op).2 later

section Window

variable {s : DmPairingService} {userId : String} {op : Op} {ops : List Op}

theorem tally_apply (hs : s.Sound) (hfails : ∀ result ∈ s.answer userId op, Fails result) :
    (s.apply op).2.tally userId =
      if op.isCleanup then 0 else s.tally userId + (s.unknownAttempt userId op).toNat := by
  cases op with
  | generateCode draw now => rfl
  | cleanup codesNow lockoutsNow => exact tally_cleanup codesNow lockoutsNow
  | validateCode userId' code channelType t =>
    obtain rfl | hne := eq_or_ne userId' userId
    · simp only [answer, if_true, Option.mem_def, Option.some.injEq, forall_eq'] at hfails
      have hv := validates s userId' code channelType t
      simp only [apply, Op.isCleanup, unknownAttempt]
      generalize s.validateCode userId' code channelType t = r at hv hfails ⊢
      cases hv with
      | locked => exact absurd rfl (hfails.2 _)
      | failed hopen hunknown =>
        obtain ⟨-, -, -, hcount⟩ | ⟨-, hlocked, -⟩ := recordFailure_cases hs hopen
        · simp [hunknown, hcount]
        · exact absurd hlocked (hfails.2 _)
      | refused _ hfound _ => simp [hfound]
      | success => exact absurd rfl hfails.1
    · simp [apply, tally, lookup_validateCode hne.symm, Op.isCleanup, unknownAttempt, hne]

/-- Once an attempt has failed there is no old lock to forget. -/
theorem lock_apply (hs : s.Sound) (hfails : ∀ result ∈ s.answer userId op, Fails result)
    (hlock : s.unknownAttempt userId op ∨ s.lock userId = none) :
    (s.apply op).2.lock userId = none := by
  cases op with
  | generateCode draw now => exact hlock.resolve_left nofun
  | cleanup codesNow lockoutsNow =>
    have hnone := hlock.resolve_left nofun
    simp only [lock, apply, retainLockouts, retainCodes, KeyedMap.lookup_retain] at hnone ⊢
    cases hl : s.lockouts.lookup userId with
    | none => rfl
    | some info =>
      rw [hl] at hnone
      rw [Option.filter_some]
      split
      · exact hnone
      · rfl
  | validateCode userId' code channelType t =>
    obtain rfl | hne := eq_or_ne userId' userId
    · simp only [answer, if_true, Option.mem_def, Option.some.injEq, forall_eq'] at hfails
      have hv := validates s userId' code channelType t
      simp only [unknownAttempt, decide_true, Bool.true_and] at hlock
      simp only [apply]
      generalize s.validateCode userId' code channelType t = r at hv hfails ⊢
      cases hv with
      | locked => exact absurd rfl (hfails.2 _)
      | failed hopen hunknown =>
        obtain ⟨-, -, hnone, -⟩ | ⟨-, hlocked, -⟩ := recordFailure_cases hs hopen
        · exact hnone
        · exact absurd hlocked (hfails.2 _)
      | refused _ hfound _ => exact hlock.resolve_left (by simp [hfound])
      | success => exact absurd rfl hfails.1
    · simp only [lock, apply, lookup_validateCode hne.symm]
      exact hlock.resolve_left (by simp [unknownAttempt, hne])

theorem tally_run_le (hs : s.Sound) (hfails : ∀ result ∈ answers userId s ops, Fails result) :
    (Machine.run apply s ops).tally userId ≤ s.tally userId + failures userId s ops := by
  induction ops generalizing s with
  | nil => exact Nat.le_refl _
  | cons op ops ih =>
    simp only [answers, List.mem_append, Option.mem_toList] at hfails
    have hstep := tally_apply hs fun result hr ↦ hfails result (.inl hr)
    have hrest := ih (hs.apply op) fun result hr ↦ hfails result (.inr hr)
    simp only [Machine.run, failures]
    split at hstep <;> omega

theorem tally_run (hs : s.Sound) (hfails : ∀ result ∈ answers userId s ops, Fails result) :
    if ops.any Op.isCleanup then (Machine.run apply s ops).tally userId ≤ failures userId s ops
    else (Machine.run apply s ops).tally userId = s.tally userId + failures userId s ops := by
  induction ops generalizing s with
  | nil => rfl
  | cons op ops ih =>
    simp only [answers, List.mem_append, Option.mem_toList] at hfails
    have hstep := tally_apply hs fun result hr ↦ hfails result (.inl hr)
    have hle := tally_run_le (hs.apply op) fun result hr ↦ hfails result (.inr hr)
    have hrest := ih (hs.apply op) fun result hr ↦ hfails result (.inr hr)
    simp only [Machine.run, failures, List.any_cons, Bool.or_eq_true]
    cases hop : op.isCleanup with
    | true =>
      simp only [hop, if_true] at hstep
      simp only [true_or, if_true]
      omega
    | false =>
      simp only [hop, Bool.false_eq_true, if_false] at hstep
      simp only [Bool.false_eq_true, false_or]
      split at hrest <;> rename_i hany <;> simp only [hany, if_true, Bool.false_eq_true, if_false] <;> omega

theorem lock_run (hs : s.Sound) (hfails : ∀ result ∈ answers userId s ops, Fails result)
    (hlock : s.lock userId = none) : (Machine.run apply s ops).lock userId = none := by
  induction ops generalizing s with
  | nil => exact hlock
  | cons op ops ih =>
    simp only [answers, List.mem_append, Option.mem_toList] at hfails
    exact ih (hs.apply op) (fun result hr ↦ hfails result (.inr hr))
      (lock_apply hs (fun result hr ↦ hfails result (.inl hr)) (.inr hlock))

theorem sound_run (hs : s.Sound) (ops : List Op) : (Machine.run apply s ops).Sound := by
  induction ops generalizing s with
  | nil => exact hs
  | cons op ops ih => exact ih (hs.apply op)

/-- Before a lock is over, no call lifts it and no attempt succeeds. -/
theorem lock_apply_before {lockedUntil : DateTime} (hlock : s.lock userId = some lockedUntil)
    (hop : op.Before lockedUntil) :
    (s.apply op).2.lock userId = some lockedUntil ∧ s.answer userId op ≠ some .success := by
  cases op with
  | generateCode draw now => exact ⟨hlock, nofun⟩
  | cleanup codesNow lockoutsNow =>
    refine ⟨?_, nofun⟩
    simp only [lock, apply, retainLockouts, retainCodes, KeyedMap.lookup_retain] at hlock ⊢
    cases hl : s.lockouts.lookup userId with
    | none => rw [hl] at hlock; cases hlock
    | some info =>
      rw [hl, Option.getD_some] at hlock
      have hlocked : info.isLocked (lockoutsNow userId) = true := by
        simpa [LockoutInfo.isLocked, hlock] using hop userId
      rw [Option.filter_some, if_pos hlocked]
      exact hlock
  | validateCode userId' code channelType t =>
    obtain rfl | hne := eq_or_ne userId' userId
    · have hlocked := lockedUntil?_of_lock hlock hop
      simp [apply, answer, validateCode, hlocked, hlock]
    · simp [apply, answer, hne, lock, lookup_validateCode hne.symm]
      exact hlock

theorem answers_before {lockedUntil : DateTime} (hlock : s.lock userId = some lockedUntil)
    (hops : ∀ op ∈ ops, op.Before lockedUntil) : .success ∉ answers userId s ops := by
  induction ops generalizing s with
  | nil => exact List.not_mem_nil
  | cons op ops ih =>
    obtain ⟨hstep, hanswer⟩ := lock_apply_before hlock (hops op List.mem_cons_self)
    simp only [answers, List.mem_append, Option.mem_toList, not_or]
    exact ⟨hanswer, ih hstep fun op hop ↦ hops op (List.mem_cons_of_mem _ hop)⟩

/-- With no old lock, an attempt with an unknown code locks the user out exactly
when it is the last one allowed. -/
theorem locksOut_iff_tally (hs : s.Sound) (hlock : s.lock userId = none)
    (hlast : s.unknownAttempt userId op) :
    s.LocksOut userId op ↔ s.tally userId + 1 = maxAttempts.toNat := by
  cases op with
  | generateCode draw now => cases hlast
  | cleanup codesNow lockoutsNow => cases hlast
  | validateCode userId' code channelType t =>
    simp only [unknownAttempt, Bool.and_eq_true, decide_eq_true_eq, Option.isNone_iff_eq_none] at hlast
    obtain ⟨rfl, hunknown⟩ := hlast
    have hopen : s.lockedUntil? userId' t.checked = none := by
      simp only [lock] at hlock
      simp only [lockedUntil?]
      cases hl : s.lockouts.lookup userId' with
      | none => rfl
      | some info =>
        rw [hl, Option.getD_some] at hlock
        simp [hlock]
    have hcall : s.validateCode userId' code channelType t =
        ((s.recordFailure userId' t.failed t.locked).2,
          (s.recordFailure userId' t.failed t.locked).1) := by
      simp [validateCode, hopen, hunknown]
    constructor
    · rintro ⟨code', channelType', t', hop, hlocked, -⟩
      obtain ⟨-, rfl, rfl, rfl⟩ := Op.validateCode.inj hop
      rw [hcall] at hlocked
      obtain ⟨-, ⟨left, hinvalid⟩, -⟩ | ⟨hcount, -⟩ := recordFailure_cases hs hopen
      · cases hinvalid.symm.trans hlocked
      · exact hcount
    · intro hcount
      obtain ⟨hfew, -⟩ | ⟨-, hlocked, hlock⟩ := recordFailure_cases hs hopen
      · omega
      · refine ⟨code, channelType, t, rfl, by rw [hcall, hlocked], fun later hlater ↦ ?_⟩
        refine answers_before ?_ hlater
        rw [apply, hcall]
        exact hlock

end Window

/-- In any history of calls, an attempt of a user with an unknown code is followed
by others until there are as many as a lockout takes, none of which succeeds or
meets a lockout: the last one locks the user out if and only if no cleanup came
between them. -/
theorem locksOut_iff_no_cleanup (earlier mid : List Op) (first last : Op) (userId : String)
    (hfirst : (Machine.run apply new earlier).unknownAttempt userId first)
    (hlast : (Machine.run apply new (earlier ++ first :: mid)).unknownAttempt userId last)
    (hfails : ∀ result ∈ answers userId (Machine.run apply new earlier) (first :: mid), Fails result)
    (hcount : failures userId (Machine.run apply new earlier) (first :: mid) + 1 =
      maxAttempts.toNat) :
    (Machine.run apply new (earlier ++ first :: mid)).LocksOut userId last ↔
      ∀ op ∈ mid, ¬ op.isCleanup := by
  rw [Machine.run_append] at hlast ⊢
  have hs : (Machine.run apply new earlier).Sound := sound_run sound_new earlier
  generalize Machine.run apply new earlier = s at hs hfirst hlast hfails hcount ⊢
  have hfails' := hfails
  simp only [answers, List.mem_append, Option.mem_toList] at hfails'
  have htail : ∀ result ∈ answers userId (s.apply first).2 mid, Fails result :=
    fun result hr ↦ hfails' result (.inr hr)
  have hhead : ∀ result ∈ s.answer userId first, Fails result :=
    fun result hr ↦ hfails' result (.inl hr)
  have hcounted := tally_apply hs hhead
  have hrun := tally_run (hs.apply first) htail
  have hfew := sound_run hs (first :: mid) userId
  have hlock := lock_run (hs.apply first) htail (lock_apply hs hhead (.inl hfirst))
  have hnotCleanup : first.isCleanup = false := by
    cases first with
    | cleanup => cases hfirst
    | _ => rfl
  rw [locksOut_iff_tally (sound_run hs (first :: mid)) hlock hlast]
  simp only [failures, hfirst, Bool.toNat_true, hnotCleanup, Machine.run] at hcount hcounted hfew ⊢
  cases hany : mid.any Op.isCleanup with
  | true =>
    simp only [hany, if_true] at hrun
    refine iff_of_false (by omega) fun hno ↦ ?_
    obtain ⟨op, hop, hcleanup⟩ := List.any_eq_true.mp hany
    exact hno op hop hcleanup
  | false =>
    simp only [hany, Bool.false_eq_true, if_false] at hrun hcounted
    refine iff_of_true (by omega) fun op hop hcleanup ↦ ?_
    rw [List.any_eq_true.mpr ⟨op, hop, hcleanup⟩] at hany
    cases hany

def readings (now : DateTime) : Readings := ⟨now, now, now, now, now, by simp⟩

def guess (userId : String) (now : DateTime) : Op :=
  .validateCode userId "guess" "telegram" (readings now)

theorem locksOut_iff_no_cleanup_threeGuesses : (Machine.run apply new
    [guess "ann" 1, guess "bob" 2, guess "ann" 3]).LocksOut "ann" (guess "ann" 4) := by
  refine (locksOut_iff_no_cleanup [] [guess "bob" 2, guess "ann" 3] (guess "ann" 1) (guess "ann" 4)
    "ann" rfl rfl ?_ rfl).mpr (by decide)
  have hanswers : answers "ann" new [guess "ann" 1, guess "bob" 2, guess "ann" 3] =
      [.invalidCode 2, .invalidCode 1] := rfl
  rw [Machine.run_nil, hanswers]
  simp [Fails]

/-- A cleanup between the second and the third guess: the third is the first again. -/
theorem not_locksOut : ¬ ∀ (earlier mid : List Op) (first last : Op) (userId : String),
    (Machine.run apply new earlier).unknownAttempt userId first →
    (Machine.run apply new (earlier ++ first :: mid)).unknownAttempt userId last →
    (∀ result ∈ answers userId (Machine.run apply new earlier) (first :: mid), Fails result) →
    failures userId (Machine.run apply new earlier) (first :: mid) + 1 = maxAttempts.toNat →
    (Machine.run apply new (earlier ++ first :: mid)).LocksOut userId last := by
  intro h
  have hanswers : answers "ann" new [guess "ann" 1, guess "ann" 2, .cleanup (fun _ ↦ 3) fun _ ↦ 3] =
      [.invalidCode 2, .invalidCode 1] := rfl
  obtain ⟨code, channelType, t, hop, hlocked, -⟩ := h [] [guess "ann" 2, .cleanup (fun _ ↦ 3) fun _ ↦ 3]
    (guess "ann" 1) (guess "ann" 4) "ann" rfl rfl (by rw [Machine.run_nil, hanswers]; simp [Fails]) rfl
  obtain ⟨-, rfl, rfl, rfl⟩ := Op.validateCode.inj hop
  cases hlocked

end DmPairingService

end AdkGateway.Pairing
