import AdkGateway.Channel
import AdkGateway.Foundation.KeyedMap
import AdkGateway.Foundation.Time

namespace AdkGateway.MultiUser

open Foundation

inductive PairingError
  | alreadyPaired (userId : String)
  | userNotFound (userId : String)
  | invalidChannel

structure PairedUser where
  userId : String
  channelType : ChannelType
  pairedAt : DateTime
  displayName : Option String
  heartbeatEnabled : Bool
  heartbeatIntervalSecs : Option UInt64

structure SessionMessage where
  role : String
  content : String
  timestamp : DateTime
  threadId : Option String

structure SessionHandle where
  userId : String
  channelType : ChannelType
  history : List SessionMessage
  createdAt : DateTime
  lastActivity : DateTime

structure HeartbeatSchedule where
  userId : String
  interval : DateTime
  lastFired : Option DateTime
  cancelToken : ℕ

structure HeartbeatV2 where
  schedules : KeyedMap String HeartbeatSchedule
  defaultIntervalSecs : UInt64
  tokens : ℕ
  cancelled : List ℕ

namespace HeartbeatV2

def new : HeartbeatV2 := ⟨∅, 3600, 0, []⟩

def cancelForUser (hb : HeartbeatV2) (userId : String) : HeartbeatV2 :=
  match hb.schedules.lookup userId with
  | some schedule => { hb with
      schedules := hb.schedules.erase userId
      cancelled := hb.cancelled ++ [schedule.cancelToken] }
  | none => hb

def scheduleForUser (hb : HeartbeatV2) (userId : String) (interval : DateTime) : HeartbeatV2 :=
  let hb := hb.cancelForUser userId
  { hb with
    schedules := hb.schedules.insert userId ⟨userId, interval, none, hb.tokens⟩
    tokens := hb.tokens + 1 }

def markFired (hb : HeartbeatV2) (userId : String) (now : DateTime) : HeartbeatV2 :=
  { hb with schedules :=
      KeyedMap.modify userId (fun schedule ↦ { schedule with lastFired := some now }) hb.schedules }

theorem lookup_cancelForUser (hb : HeartbeatV2) (userId userId' : String) :
    (hb.cancelForUser userId).schedules.lookup userId' =
      if userId' = userId then none else hb.schedules.lookup userId' := by
  unfold cancelForUser
  split
  · exact KeyedMap.lookup_erase_if _ _ _
  · rename_i hnone
    split
    · rename_i heq
      exact heq ▸ hnone
    · rfl

end HeartbeatV2

/-- A paired user is identified by channel and user id together. -/
abbrev Identity := ChannelType × String

structure MultiUserManager where
  pairedUsers : KeyedMap Identity PairedUser
  sessions : KeyedMap String SessionHandle
  heartbeat : HeartbeatV2

namespace MultiUserManager

def new : MultiUserManager := ⟨∅, ∅, .new⟩

def isPaired (m : MultiUserManager) (user : Identity) : Bool := (m.pairedUsers.lookup user).isSome

/-- The clock is read for each of the two times of the new session. -/
def addUser (m : MultiUserManager) (user : PairedUser) (createdAt lastActivity : DateTime) :
    Except PairingError Unit × MultiUserManager :=
  let key := (user.channelType, user.userId)
  if m.isPaired key then (.error (.alreadyPaired user.userId), m)
  else
    let session := ⟨user.userId, user.channelType, [], createdAt, lastActivity⟩
    (.ok (), { m with
      pairedUsers := m.pairedUsers.insert key user
      sessions := m.sessions.insert user.userId session })

def findUser (m : MultiUserManager) (userId : String) : Option (Sigma fun _ : Identity ↦ PairedUser) :=
  m.pairedUsers.entries.find? fun entry ↦ entry.2.userId = userId

def removeUser (m : MultiUserManager) (userId : String) :
    Except PairingError Unit × MultiUserManager :=
  match m.findUser userId with
  | some entry => (.ok (), {
      pairedUsers := m.pairedUsers.erase entry.1
      heartbeat := m.heartbeat.cancelForUser userId
      sessions := m.sessions.erase userId })
  | none => (.error (.userNotFound userId), m)

def resolveSession (m : MultiUserManager) (channel : ChannelType) (senderId : String) :
    Option SessionHandle :=
  if m.isPaired (channel, senderId) then m.sessions.lookup senderId else none

def addMessageToSession (m : MultiUserManager) (userId : String) (message : SessionMessage)
    (now : DateTime) : Except PairingError Unit × MultiUserManager :=
  match m.sessions.lookup userId with
  | some session =>
    let session := { session with lastActivity := now, history := session.history ++ [message] }
    (.ok (), { m with sessions := m.sessions.insert userId session })
  | none => (.error (.userNotFound userId), m)

def scheduleHeartbeatForUser (m : MultiUserManager) (userId : String) : MultiUserManager :=
  match m.findUser userId with
  | some ⟨_, user⟩ =>
    if user.heartbeatEnabled then
      let secs := user.heartbeatIntervalSecs.getD m.heartbeat.defaultIntervalSecs
      { m with heartbeat := m.heartbeat.scheduleForUser userId (DateTime.seconds secs.toNat) }
    else m
  | none => m

inductive Op
  | addUser (user : PairedUser) (createdAt lastActivity : DateTime)
  | removeUser (userId : String)
  | resolveSession (channel : ChannelType) (senderId : String)
  | addMessageToSession (userId : String) (message : SessionMessage) (now : DateTime)

def apply (m : MultiUserManager) : Op → MultiUserManager
  | .addUser user createdAt lastActivity => (m.addUser user createdAt lastActivity).2
  | .removeUser userId => (m.removeUser userId).2
  | .resolveSession _ _ => m
  | .addMessageToSession userId message now => (m.addMessageToSession userId message now).2

/-- Heartbeats are scheduled, cancelled and fired between the operations, and the
map may yield its entries in another order each time. -/
inductive Reachable : MultiUserManager → Prop
  | new : Reachable new
  | op {m : MultiUserManager} (op : Op) : Reachable m → Reachable (m.apply op)
  | schedule {m : MultiUserManager} (userId : String) :
      Reachable m → Reachable (m.scheduleHeartbeatForUser userId)
  | cancel {m : MultiUserManager} (userId : String) :
      Reachable m → Reachable { m with heartbeat := m.heartbeat.cancelForUser userId }
  | fired {m : MultiUserManager} (userId : String) (now : DateTime) :
      Reachable m → Reachable { m with heartbeat := m.heartbeat.markFired userId now }
  | reorder {m : MultiUserManager} {pairedUsers : KeyedMap Identity PairedUser} :
      Reachable m → pairedUsers.entries.Perm m.pairedUsers.entries →
        Reachable { m with pairedUsers := pairedUsers }

end MultiUserManager

end AdkGateway.MultiUser

namespace AdkGateway.MultiUser.MultiUserManager

open Foundation

structure Sound (m : MultiUserManager) : Prop where
  keyed : ∀ key user, m.pairedUsers.lookup key = some user → (user.channelType, user.userId) = key
  owned : ∀ userId session, m.sessions.lookup userId = some session →
    m.isPaired (session.channelType, userId)

section Sound

variable {m : MultiUserManager}

theorem findUser_spec (hs : m.Sound) {userId : String} {entry : Sigma fun _ : Identity ↦ PairedUser}
    (h : m.findUser userId = some entry) :
    m.pairedUsers.lookup entry.1 = some entry.2 ∧ entry.1.2 = userId := by
  have hmem := List.mem_of_find?_eq_some h
  have hlookup : m.pairedUsers.lookup entry.1 = some entry.2 :=
    KeyedMap.lookup_eq_some_iff.mpr hmem
  have huser := List.find?_some h
  rw [decide_eq_true_eq] at huser
  exact ⟨hlookup, (congrArg Prod.snd (hs.keyed _ _ hlookup)).symm.trans huser⟩

theorem addUser_of_isPaired {user : PairedUser} (h : m.isPaired (user.channelType, user.userId))
    (createdAt lastActivity : DateTime) : (m.addUser user createdAt lastActivity).2 = m := by
  simp [addUser, h]

theorem addUser_of_not_isPaired {user : PairedUser}
    (h : ¬ m.isPaired (user.channelType, user.userId)) (createdAt lastActivity : DateTime) :
    (m.addUser user createdAt lastActivity).2 = { m with
      pairedUsers := m.pairedUsers.insert (user.channelType, user.userId) user
      sessions := m.sessions.insert user.userId
        ⟨user.userId, user.channelType, [], createdAt, lastActivity⟩ } := by
  simp [addUser, h]

theorem Sound.addUser (hs : m.Sound) (user : PairedUser) (createdAt lastActivity : DateTime) :
    (m.addUser user createdAt lastActivity).2.Sound := by
  by_cases hpaired : m.isPaired (user.channelType, user.userId)
  · rw [addUser_of_isPaired hpaired]
    exact hs
  · rw [addUser_of_not_isPaired hpaired]
    refine ⟨KeyedMap.forall_lookup_insert rfl hs.keyed, fun userId session hlookup ↦ ?_⟩
    rw [isPaired, KeyedMap.lookup_insert_if]
    obtain ⟨rfl, rfl⟩ | ⟨-, hold⟩ := KeyedMap.lookup_insert_eq_some.mp hlookup
    · simp
    · split
      · rfl
      · exact hs.owned userId session hold

theorem Sound.removeUser (hs : m.Sound) (userId : String) : (m.removeUser userId).2.Sound := by
  unfold MultiUserManager.removeUser
  split
  · rename_i entry hfound
    have huser := (findUser_spec hs hfound).2
    refine ⟨KeyedMap.forall_lookup_erase hs.keyed, fun userId' session hlookup ↦ ?_⟩
    obtain ⟨hne, hold⟩ := KeyedMap.lookup_erase_eq_some.mp hlookup
    have hkey : (session.channelType, userId') ≠ entry.1 := by
      intro heq
      exact hne ((congrArg Prod.snd heq).trans huser)
    rw [isPaired, KeyedMap.lookup_erase_if, if_neg hkey]
    exact hs.owned userId' session hold
  · exact hs

theorem Sound.addMessageToSession (hs : m.Sound) (userId : String) (message : SessionMessage)
    (now : DateTime) : (m.addMessageToSession userId message now).2.Sound := by
  unfold MultiUserManager.addMessageToSession
  split
  · rename_i session hsession
    have howned := hs.owned userId session hsession
    exact ⟨hs.keyed, KeyedMap.forall_lookup_insert howned hs.owned⟩
  · exact hs

theorem sound_of_reachable (hr : Reachable m) : m.Sound := by
  induction hr with
  | new =>
    refine ⟨fun key user huser ↦ ?_, fun userId session hsession ↦ ?_⟩
    · cases (AList.lookup_empty key).symm.trans huser
    · cases (AList.lookup_empty userId).symm.trans hsession
  | op op _ hs =>
    cases op with
    | addUser user createdAt lastActivity => exact hs.addUser user createdAt lastActivity
    | removeUser userId => exact hs.removeUser userId
    | resolveSession channel senderId => exact hs
    | addMessageToSession userId message now => exact hs.addMessageToSession userId message now
  | schedule userId _ hs =>
    unfold scheduleHeartbeatForUser
    split
    · split
      · exact ⟨hs.keyed, hs.owned⟩
      · exact hs
    · exact hs
  | cancel | fired => rename_i hs; exact ⟨hs.keyed, hs.owned⟩
  | @reorder m pairedUsers _ hperm hs =>
    have hlookup : ∀ key, pairedUsers.lookup key = m.pairedUsers.lookup key := fun _ ↦
      AList.perm_lookup hperm
    refine ⟨fun key user h ↦ hs.keyed key user (hlookup key ▸ h), fun userId session h ↦ ?_⟩
    rw [isPaired, hlookup]
    exact hs.owned userId session h

end Sound

def Op.performedFor (user : Identity) : Op → Prop
  | .addUser user' _ _ => (user'.channelType, user'.userId) = user
  | .removeUser userId => userId = user.2
  | .resolveSession channel senderId => (channel, senderId) = user
  | .addMessageToSession userId _ _ => userId = user.2

def view (m : MultiUserManager) (user : Identity) :
    Option PairedUser × Option SessionHandle × Option HeartbeatSchedule :=
  (m.pairedUsers.lookup user, m.resolveSession user.1 user.2,
    m.heartbeat.schedules.lookup user.2)

/-- The operation does not touch what users of one id share across channels, or
there is nothing of `user` under it. -/
def Separate (m : MultiUserManager) (user : Identity) : Op → Prop
  | .addUser user' _ _ => user'.userId ≠ user.2 ∨ m.isPaired (user'.channelType, user'.userId)
  | .removeUser userId => userId ≠ user.2 ∨ (∀ entry ∈ m.findUser userId, entry.1 ≠ user) ∧
      m.sessions.lookup userId = none ∧ m.heartbeat.schedules.lookup userId = none
  | .resolveSession _ _ => True
  | .addMessageToSession userId _ _ => userId ≠ user.2 ∨ m.sessions.lookup userId = none

section View

variable {m m' : MultiUserManager} {user : Identity}

theorem view_eq_of (hpaired : m'.pairedUsers.lookup user = m.pairedUsers.lookup user)
    (hsession : m'.sessions.lookup user.2 = m.sessions.lookup user.2)
    (hschedule : m'.heartbeat.schedules.lookup user.2 = m.heartbeat.schedules.lookup user.2) :
    m'.view user = m.view user := by
  obtain ⟨channelType, userId⟩ := user
  have huser : m'.isPaired (channelType, userId) = m.isPaired (channelType, userId) :=
    congrArg Option.isSome hpaired
  simp only [view, resolveSession, hpaired, huser, hsession, hschedule]

theorem of_view_eq (huser : m.isPaired user) (h : m'.view user = m.view user) :
    m'.pairedUsers.lookup user = m.pairedUsers.lookup user ∧
      m'.sessions.lookup user.2 = m.sessions.lookup user.2 ∧
      m'.heartbeat.schedules.lookup user.2 = m.heartbeat.schedules.lookup user.2 := by
  obtain ⟨channelType, userId⟩ := user
  simp only [view, Prod.mk.injEq] at h
  obtain ⟨hpaired, hsession, hschedule⟩ := h
  have huser' : m'.isPaired (channelType, userId) := by rwa [isPaired, hpaired]
  simp only [resolveSession, huser, huser', if_true] at hsession
  exact ⟨hpaired, hsession, hschedule⟩

theorem view_addUser_iff (hs : m.Sound) (user' : PairedUser) (createdAt lastActivity : DateTime)
    (hne : (user'.channelType, user'.userId) ≠ user) (huser : m.isPaired user) :
    (m.addUser user' createdAt lastActivity).2.view user = m.view user ↔
      user'.userId ≠ user.2 ∨ m.isPaired (user'.channelType, user'.userId) := by
  by_cases hpaired : m.isPaired (user'.channelType, user'.userId)
  · simp [addUser_of_isPaired hpaired, hpaired]
  · rw [addUser_of_not_isPaired hpaired]
    simp only [hpaired, or_false, Bool.false_eq_true]
    constructor
    · -- the new session is for the new identity, and no session of that identity was there
      rintro h heq
      obtain ⟨-, hsession, -⟩ := of_view_eq huser h
      rw [← heq, AList.lookup_insert] at hsession
      exact hpaired (hs.owned _ _ hsession.symm)
    · intro hid
      exact view_eq_of (AList.lookup_insert_ne hne.symm) (AList.lookup_insert_ne hid.symm) rfl

theorem view_removeUser_iff (hs : m.Sound) (userId : String) (huser : m.isPaired user) :
    (m.removeUser userId).2.view user = m.view user ↔
      userId ≠ user.2 ∨ (∀ entry ∈ m.findUser userId, entry.1 ≠ user) ∧
        m.sessions.lookup userId = none ∧ m.heartbeat.schedules.lookup userId = none := by
  unfold removeUser
  cases hfound : m.findUser userId with
  | none =>
    refine iff_of_true rfl (.inl ?_)
    rintro rfl
    obtain ⟨user', hlookup⟩ := Option.isSome_iff_exists.mp huser
    have hnot := List.find?_eq_none.mp hfound _ (KeyedMap.lookup_eq_some_iff.mp hlookup)
    exact hnot (decide_eq_true (congrArg Prod.snd (hs.keyed user user' hlookup)))
  | some entry =>
    have hentry := (findUser_spec hs hfound).2
    simp only [Option.mem_def, Option.some.injEq, forall_eq']
    obtain rfl | hid := eq_or_ne userId user.2
    · simp only [ne_eq, not_true_eq_false, false_or]
      constructor
      · intro h
        obtain ⟨hpaired, hsession, hschedule⟩ := of_view_eq huser h
        rw [KeyedMap.lookup_erase_if] at hpaired
        refine ⟨?_, ?_, ?_⟩
        · rintro rfl
          rw [if_pos rfl] at hpaired
          rw [isPaired, ← hpaired] at huser
          cases huser
        · rw [← hsession]
          exact AList.lookup_erase _ _
        · rw [← hschedule, HeartbeatV2.lookup_cancelForUser, if_pos rfl]
      · rintro ⟨hkey, hsession, hschedule⟩
        refine view_eq_of (AList.lookup_erase_ne (Ne.symm hkey)) ?_ ?_
        · rw [hsession]
          exact AList.lookup_erase _ _
        · rw [hschedule, HeartbeatV2.lookup_cancelForUser, if_pos rfl]
    · have hkey : user ≠ entry.1 := by
        rintro rfl
        exact hid hentry.symm
      refine iff_of_true (view_eq_of (AList.lookup_erase_ne hkey)
        (AList.lookup_erase_ne hid.symm) ?_) (.inl hid)
      rw [HeartbeatV2.lookup_cancelForUser, if_neg hid.symm]

theorem view_addMessageToSession_iff (userId : String) (message : SessionMessage) (now : DateTime)
    (huser : m.isPaired user) :
    (m.addMessageToSession userId message now).2.view user = m.view user ↔
      userId ≠ user.2 ∨ m.sessions.lookup userId = none := by
  unfold addMessageToSession
  cases hsession : m.sessions.lookup userId with
  | none => exact iff_of_true rfl (.inr rfl)
  | some session =>
    simp only [reduceCtorEq, or_false]
    constructor
    · rintro h rfl
      have hsame := (of_view_eq huser h).2.1
      rw [AList.lookup_insert, hsession, Option.some.injEq] at hsame
      have hhistory := congrArg (fun session ↦ session.history.length) hsame
      simp at hhistory
    · intro hid
      exact view_eq_of rfl (AList.lookup_insert_ne hid.symm) rfl

end View

/-- What is done for one user leaves another one alone if and only if the two are
kept apart by it. -/
theorem view_apply_iff (m : MultiUserManager) (hm : Reachable m) (user user' : Identity) (op : Op)
    (hop : op.performedFor user') (hne : user' ≠ user) (huser : m.isPaired user) :
    (m.apply op).view user = m.view user ↔ m.Separate user op := by
  have hs := sound_of_reachable hm
  cases op with
  | addUser user'' createdAt lastActivity =>
    exact view_addUser_iff hs user'' createdAt lastActivity (hop.trans_ne hne) huser
  | removeUser userId => exact view_removeUser_iff hs userId huser
  | resolveSession channel senderId => exact iff_of_true rfl trivial
  | addMessageToSession userId message now =>
    exact view_addMessageToSession_iff userId message now huser

def ann (channelType : ChannelType) : PairedUser := ⟨"ann", channelType, 0, none, true, none⟩

def annOnTelegram : MultiUserManager := new.apply (.addUser (ann .telegram) 0 0)

theorem reachable_annOnTelegram : Reachable annOnTelegram := .op _ .new

def addBob : Op := .addUser ⟨"bob", .telegram, 0, none, true, none⟩ 1 1

theorem view_apply_iff_bob :
    (annOnTelegram.apply addBob).view (.telegram, "ann") = annOnTelegram.view (.telegram, "ann") :=
  (view_apply_iff annOnTelegram reachable_annOnTelegram (.telegram, "ann") (.telegram, "bob") addBob
    rfl (by decide) rfl).mpr (.inl (by decide))

def hello : SessionMessage := ⟨"user", "hello", 1, none⟩

theorem not_views_isolated : ¬ ∀ (m : MultiUserManager) (_ : Reachable m) (user user' : Identity) (op : Op),
    op.performedFor user' → user' ≠ user → m.isPaired user →
      (m.apply op).view user = m.view user := by
  intro h
  have hisolated := h _ (.op (.addMessageToSession "ann" hello 1) reachable_annOnTelegram)
    (.telegram, "ann") (.slack, "ann") (.addUser (ann .slack) 2 2) rfl (by decide) rfl
  have hhistory := congrArg (fun view ↦ (view.2.1.map fun session ↦ session.history.length)) hisolated
  exact absurd hhistory (by decide)

end AdkGateway.MultiUser.MultiUserManager
