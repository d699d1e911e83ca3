import AdkGateway.Foundation.Interleaving
import AdkGateway.Foundation.Json
import AdkGateway.Foundation.KeyedMap
import AdkGateway.Foundation.Time

namespace AdkGateway.Pairing

open Foundation Interleaving

/-- Beside the fields of the code stands its `serial`, which tells apart codes
that happen to be spelled alike. -/
structure PairingCode where
  code : String
  createdAt : DateTime
  expiresAt : DateTime
  used : Bool
  serial : ℕ
  deriving DecidableEq, Repr

def PairingCode.isValid (pc : PairingCode) (now : DateTime) : Bool :=
  !pc.used && decide (now < pc.expiresAt)

structure LockoutInfo where
  failedAttempts : UInt32
  lockedUntil : Option DateTime
  deriving DecidableEq

namespace LockoutInfo

def new : LockoutInfo := ⟨0, none⟩

def isLocked (info : LockoutInfo) (now : DateTime) : Bool :=
  match info.lockedUntil with
  | some lockedUntil => decide (now < lockedUntil)
  | none => false

end LockoutInfo

structure PairedUser where
  userId : String
  pairedAt : DateTime
  channelType : String
  deriving DecidableEq

inductive PairingResult
  | success
  | invalidCode (attemptsRemaining : UInt32)
  | locked (lockedUntil : DateTime)
  | alreadyUsed
  | expired
  deriving DecidableEq

def maxAttempts : UInt32 := 3

def lockoutMinutes : ℤ := 15

def codeExpiryHours : ℤ := 24

def codeChars : List Char := "ABCDEFGHJKLMNPQRSTUVWXYZ23456789".toList

/-- One more failure. The clock is read at the check of the old lock and again
when a new one is set. -/
def LockoutInfo.fail (info : LockoutInfo) (checked locked : DateTime) :
    LockoutInfo × PairingResult :=
  -- an old lock that is over is forgotten, with its count
  let info := if !info.isLocked checked && info.lockedUntil.isSome then LockoutInfo.new else info
  let failedAttempts := info.failedAttempts + 1
  if maxAttempts ≤ failedAttempts then
    let lockedUntil := locked + DateTime.minutes lockoutMinutes
    (⟨failedAttempts, some lockedUntil⟩, .locked lockedUntil)
  else (⟨failedAttempts, info.lockedUntil⟩, .invalidCode (maxAttempts - failedAttempts))

def generatePairingCode (draw : Fin 6 → Fin 32) : String :=
  String.ofList (List.ofFn fun i ↦ codeChars.getD (draw i) 'A')

/-- `minted` counts the codes generated so far. -/
structure DmPairingService where
  codes : KeyedMap String PairingCode
  pairedUsers : KeyedMap String PairedUser
  lockouts : KeyedMap String LockoutInfo
  minted : ℕ

namespace DmPairingService

def new : DmPairingService := ⟨∅, ∅, ∅, 0⟩

/-- What the lockout check of `validate_code` finds. -/
def lockedUntil? (s : DmPairingService) (userId : String) (now : DateTime) : Option DateTime :=
  (s.lockouts.lookup userId).bind fun info ↦ if info.isLocked now then info.lockedUntil else none

/-- What becomes of a code that was found; `none` when it is good. -/
def refusal (pc : PairingCode) (now : DateTime) : Option PairingResult :=
  if pc.used then some .alreadyUsed
  else if pc.isValid now then none
  else some .expired

def markUsed (s : DmPairingService) (code : String) : DmPairingService :=
  { s with codes := KeyedMap.modify code (fun entry ↦ { entry with used := true }) s.codes }

def pair (s : DmPairingService) (userId channelType : String) (now : DateTime) : DmPairingService :=
  { s with pairedUsers := s.pairedUsers.insert userId ⟨userId, now, channelType⟩ }

def resetLockout (s : DmPairingService) (userId : String) : DmPairingService :=
  { s with lockouts := s.lockouts.erase userId }

def recordFailure (s : DmPairingService) (userId : String) (checked locked : DateTime) :
    DmPairingService × PairingResult :=
  let failed := ((s.lockouts.lookup userId).getD LockoutInfo.new).fail checked locked
  ({ s with lockouts := s.lockouts.insert userId failed.1 }, failed.2)

def insertCode (s : DmPairingService) (pc : PairingCode) : DmPairingService :=
  { s with codes := s.codes.insert pc.code pc }

/-- The clock is read anew for every entry. -/
def retainCodes (s : DmPairingService) (now : String → DateTime) : DmPairingService :=
  { s with codes := KeyedMap.retain (fun code pc ↦ !pc.used && decide (now code < pc.expiresAt)) s.codes }

def retainLockouts (s : DmPairingService) (now : String → DateTime) : DmPairingService :=
  { s with lockouts := KeyedMap.retain (fun userId info ↦ info.isLocked (now userId)) s.lockouts }

inductive Call
  | generateCode
  | validateCode (userId code channelType : String)
  | cleanup

/-- Between two locks. A call at `markUsed` has found its code good; `now` is
when it looked. -/
inductive Point
  | generate
  | insertCode (pc : PairingCode)
  | checkLockout (userId code channelType : String)
  | lookUp (userId code channelType : String)
  | recordFailure (userId : String)
  | markUsed (userId code channelType : String) (pc : PairingCode) (now : DateTime)
  | pair (userId channelType : String) (pc : PairingCode) (now : DateTime)
  | resetLockout (userId : String) (pc : PairingCode) (now : DateTime)
  | retainCodes
  | retainLockouts
  deriving DecidableEq

inductive Input
  | drawn (draw : Fin 6 → Fin 32) (now : DateTime)
  | clock (now : DateTime)
  | clocks (checked locked : DateTime)
  | readings (now : String → DateTime)
  | poll

inductive Output
  | generated (code : String)
  | validated (result : PairingResult)
  | cleaned

/-- Beside the result of each `validate_code` stands the code behind a success. -/
inductive Event
  | generated (pc : PairingCode)
  | succeeded (userId : String) (pc : PairingCode) (now : DateTime)
  | validated (userId : String) (result : PairingResult)
  deriving DecidableEq

def start : Call → Point
  | .generateCode => .generate
  | .validateCode userId code channelType => .checkLockout userId code channelType
  | .cleanup => .retainCodes

def mint (s : DmPairingService) (draw : Fin 6 → Fin 32) (now : DateTime) : PairingCode where
  code := generatePairingCode draw
  createdAt := now
  expiresAt := now + DateTime.hours codeExpiryHours
  used := false
  serial := s.minted

def step (i : Input) (p : Point) (s : DmPairingService) :
    Option (DmPairingService × (Point ⊕ Output) × List Event) :=
  match p, i with
  | .generate, .drawn draw now =>
    some ({ s with minted := s.minted + 1 }, .inl (.insertCode (s.mint draw now)), [])
  | .insertCode pc, .poll => some (s.insertCode pc, .inr (.generated pc.code), [.generated pc])
  | .checkLockout userId code channelType, .clock now =>
    match s.lockedUntil? userId now with
    | some lockedUntil =>
      some (s, .inr (.validated (.locked lockedUntil)), [.validated userId (.locked lockedUntil)])
    | none => some (s, .inl (.lookUp userId code channelType), [])
  | .lookUp userId code channelType, .clock now =>
    match s.codes.lookup code with
    | none => some (s, .inl (.recordFailure userId), [])
    | some pc =>
      match refusal pc now with
      | some result => some (s, .inr (.validated result), [.validated userId result])
      | none => some (s, .inl (.markUsed userId code channelType pc now), [])
  | .recordFailure userId, .clocks checked locked =>
    let (s, result) := s.recordFailure userId checked locked
    some (s, .inr (.validated result), [.validated userId result])
  | .markUsed userId code channelType pc now, .poll =>
    some (s.markUsed code, .inl (.pair userId channelType pc now), [])
  | .pair userId channelType pc now, .clock pairedAt =>
    some (s.pair userId channelType pairedAt, .inl (.resetLockout userId pc now), [])
  | .resetLockout userId pc now, .poll =>
    some (s.resetLockout userId, .inr (.validated .success),
      [.succeeded userId pc now, .validated userId .success])
  | .retainCodes, .readings now => some (s.retainCodes now, .inl .retainLockouts, [])
  | .retainLockouts, .readings now => some (s.retainLockouts now, .inr .cleaned, [])
  | _, _ => none

def program : Program DmPairingService Call Point Output Input Event := ⟨start, step⟩

inductive Moves (s : DmPairingService) :
    Point → DmPairingService → Point ⊕ Output → List Event → Prop
  | generate (draw : Fin 6 → Fin 32) (now : DateTime) : Moves s .generate
      { s with minted := s.minted + 1 } (.inl (.insertCode (s.mint draw now))) []
  | insert {pc : PairingCode} :
      Moves s (.insertCode pc) (s.insertCode pc) (.inr (.generated pc.code)) [.generated pc]
  | locked {userId code channelType : String} {result : PairingResult} :
      Moves s (.checkLockout userId code channelType) s (.inr (.validated result))
        [.validated userId result]
  | unlocked {userId code channelType : String} : Moves s (.checkLockout userId code channelType) s
      (.inl (.lookUp userId code channelType)) []
  | unknown {userId code channelType : String} : s.codes.lookup code = none →
      Moves s (.lookUp userId code channelType) s (.inl (.recordFailure userId)) []
  | refused {userId code channelType : String} {result : PairingResult} :
      Moves s (.lookUp userId code channelType) s (.inr (.validated result))
        [.validated userId result]
  | good {userId code channelType : String} {pc : PairingCode} {now : DateTime} :
      s.codes.lookup code = some pc → refusal pc now = none →
      Moves s (.lookUp userId code channelType) s (.inl (.markUsed userId code channelType pc now)) []
  | failed {userId : String} (checked locked : DateTime) : Moves s (.recordFailure userId)
      (s.recordFailure userId checked locked).1
      (.inr (.validated (s.recordFailure userId checked locked).2))
      [.validated userId (s.recordFailure userId checked locked).2]
  | markUsed {userId code channelType : String} {pc : PairingCode} {now : DateTime} :
      Moves s (.markUsed userId code channelType pc now) (s.markUsed code)
        (.inl (.pair userId channelType pc now)) []
  | pair {userId channelType : String} {pc : PairingCode} {now : DateTime} (pairedAt : DateTime) :
      Moves s (.pair userId channelType pc now) (s.pair userId channelType pairedAt)
        (.inl (.resetLockout userId pc now)) []
  | resetLockout {userId : String} {pc : PairingCode} {now : DateTime} :
      Moves s (.resetLockout userId pc now) (s.resetLockout userId) (.inr (.validated .success))
        [.succeeded userId pc now, .validated userId .success]
  | retainCodes (now : String → DateTime) :
      Moves s .retainCodes (s.retainCodes now) (.inl .retainLockouts) []
  | retainLockouts (now : String → DateTime) :
      Moves s .retainLockouts (s.retainLockouts now) (.inr .cleaned) []

theorem moves_of_step {i : Input} {p : Point} {s s' : DmPairingService} {o : Point ⊕ Output}
    {evs : List Event} (h : step i p s = some (s', o, evs)) : Moves s p s' o evs := by
  cases p <;> cases i <;> try cases h
  case generate.drawn draw now => exact .generate draw now
  case insertCode.poll pc => exact .insert
  case checkLockout.clock userId code channelType now =>
    simp only [step] at h
    split at h
    · cases h
      exact .locked
    · cases h
      exact .unlocked
  case lookUp.clock userId code channelType now =>
    simp only [step] at h
    split at h
    · rename_i hnone
      cases h
      exact .unknown hnone
    · rename_i pc hpc
      split at h
      · cases h
        exact .refused
      · rename_i hgood
        cases h
        exact .good hpc hgood
  case recordFailure.clocks userId checked locked => exact .failed checked locked
  case markUsed.poll userId code channelType pc now => exact .markUsed
  case pair.clock userId channelType pc now pairedAt => exact .pair pairedAt
  case resetLockout.poll userId pc now => exact .resetLockout
  case retainCodes.readings now => exact .retainCodes now
  case retainLockouts.readings now => exact .retainLockouts now

end DmPairingService

structure TimeFormat where
  write : DateTime → String
  read : String → Option DateTime

namespace PairedUser

variable (format : TimeFormat)

def toJson (user : PairedUser) : Json :=
  .object [("user_id", .string user.userId), ("paired_at", .string (format.write user.pairedAt)),
    ("channel_type", .string user.channelType)]

/-- The fields stand in an object, or in their order in an array. -/
def ofJson : Json → Option PairedUser
  | .array [.string userId, .string pairedAt, .string channelType] =>
    (format.read pairedAt).map fun time ↦ ⟨userId, time, channelType⟩
  | .object fields => do
    let userId ← (fields.lookup "user_id").bind Json.asStr
    let pairedAt ← (fields.lookup "paired_at").bind Json.asStr
    let channelType ← (fields.lookup "channel_type").bind Json.asStr
    (format.read pairedAt).map fun time ↦ ⟨userId, time, channelType⟩
  | _ => none

variable {format}

theorem ofJson_toJson (hformat : ∀ time, format.read (format.write time) = some time)
    (user : PairedUser) : ofJson format (toJson format user) = some user := by
  have hread : ofJson format (toJson format user) =
      (format.read (format.write user.pairedAt)).map
        fun time ↦ ⟨user.userId, time, user.channelType⟩ := rfl
  rw [hread, hformat, Option.map_some]

end PairedUser

namespace DmPairingService

variable (format : TimeFormat)

/-- The content of the file that is written. -/
def persist (s : DmPairingService) : Json :=
  .array ((KeyedMap.values s.pairedUsers).map (PairedUser.toJson format))

/-- A file that is absent, or holds anything else, holds no users. -/
def loadPersisted : Option Json → List PairedUser
  | some (.array items) => (items.mapM (PairedUser.ofJson format)).getD []
  | _ => []

def restorePairedUsers (s : DmPairingService) (users : List PairedUser) : DmPairingService :=
  let insert (paired : KeyedMap String PairedUser) (user : PairedUser) :=
    paired.insert user.userId user
  { s with pairedUsers := users.foldl insert s.pairedUsers }

variable {format}

theorem loadPersisted_persist (hformat : ∀ time, format.read (format.write time) = some time)
    (s : DmPairingService) :
    loadPersisted format (some (s.persist format)) = KeyedMap.values s.pairedUsers := by
  have hmap (users : List PairedUser) :
      (users.map (PairedUser.toJson format)).mapM (PairedUser.ofJson format) = some users := by
    induction users with
    | nil => rfl
    | cons user users ih => simp [PairedUser.ofJson_toJson hformat, ih]
  rw [persist, loadPersisted, hmap, Option.getD_some]

def UsersKeyed (s : DmPairingService) : Prop :=
  ∀ userId user, s.pairedUsers.lookup userId = some user → user.userId = userId

theorem lookup_restore_persist (hformat : ∀ time, format.read (format.write time) = some time)
    {s : DmPairingService} (hs : s.UsersKeyed) (userId : String) :
    (new.restorePairedUsers (loadPersisted format (some (s.persist format)))).pairedUsers.lookup
      userId = s.pairedUsers.lookup userId := by
  have hfold : (new.restorePairedUsers (KeyedMap.values s.pairedUsers)).pairedUsers =
      s.pairedUsers.entries.foldl (fun paired entry ↦ paired.insert entry.1 (id entry.2)) ∅ := by
    rw [KeyedMap.values, restorePairedUsers, List.foldl_map]
    refine List.foldl_ext _ _ _ fun paired entry hentry ↦ ?_
    rw [hs entry.1 entry.2 (KeyedMap.lookup_eq_some_iff.mpr hentry), id]
  rw [loadPersisted_persist hformat, hfold, KeyedMap.lookup_foldl_insert]
  simp

end DmPairingService

end AdkGateway.Pairing
