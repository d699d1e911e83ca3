import AdkGateway.Config
import AdkGateway.Foundation.Interleaving
import AdkGateway.Foundation.Time
import AdkGateway.SessionBridge.Key

namespace AdkGateway.SessionBridge

open Foundation Interleaving

structure SessionInfo where
  sessionId : String
  userId : String
  lastActivity : DateTime
  channelType : ChannelType

def dateNaive (t : DateTime) : ℤ := t / DateTime.hours 24

def hour (t : DateTime) : ℤ := t % DateTime.hours 24 / DateTime.hours 1

def numMinutes (span : DateTime) : ℤ := span.tdiv (DateTime.minutes 1)

def shouldReset (reset : SessionResetConfig) (info : SessionInfo) (now : DateTime) : Bool :=
  match reset.mode with
  | "daily" => decide (dateNaive info.lastActivity < dateNaive now) &&
    decide (((reset.atHour.getD 4).toNat : ℤ) ≤ hour now)
  | "idle" =>
    match reset.idleMinutes with
    | some idleMins => decide (idleMins.toInt64.toInt < numMinutes (now - info.lastActivity))
    | none => false
  | _ => false

structure Bridge where
  sessions : KeyedMap String SessionInfo
  drawn : ℕ

def Bridge.store (b : Bridge) (key : String) (info : SessionInfo) : Bridge :=
  { b with sessions := b.sessions.insert key info }

/-- `resolve_session` before its look-up, and `create_session` before an id is drawn and before
the session is stored. -/
inductive Point
  | lookup (msg : InboundMessage)
  | create (key : String) (msg : InboundMessage)
  | insert (key : String) (info : SessionInfo)

structure Readings where
  now : DateTime
  touched : DateTime

abbrev Output := String × String

structure Resolved where
  key : String
  sessionId : String

def userId (msg : InboundMessage) : String := msg.channelType.toString ++ ":" ++ msg.senderId

def SessionInfo.output (info : SessionInfo) : Output := (info.userId, info.sessionId)

/-- The look-up holds its entry until the call returns or goes on to create a session. -/
def step (uuid : ℕ → String) (config : SessionConfig) (t : Readings) (b : Bridge) :
    Point → Bridge × (Point ⊕ Output) × List Resolved
  | .lookup msg =>
    let key := sessionKey config.dmScope msg
    match b.sessions.lookup key with
    | some info =>
      if shouldReset config.reset info t.now then (b, .inl (.create key msg), [])
      else
        let info := { info with lastActivity := t.touched }
        (b.store key info, .inr info.output, [⟨key, info.sessionId⟩])
    | none => (b, .inl (.create key msg), [])
  | .create key msg =>
    ({ b with drawn := b.drawn + 1 },
      .inl (.insert key ⟨"gw-" ++ uuid b.drawn, userId msg, t.now, msg.channelType⟩), [])
  | .insert key info =>
    (b.store key info, .inr info.output, [⟨key, info.sessionId⟩])

def program (uuid : ℕ → String) (config : SessionConfig) :
    Program Bridge InboundMessage Point Output Readings Resolved where
  start := .lookup
  step t p b := some (step uuid config t b p)

variable {uuid : ℕ → String} {config : SessionConfig}

def creating (key : String) : Point → ℕ
  | .lookup _ => 0
  | .create key' _ | .insert key' _ => if key' = key then 1 else 0

/-- No look-up finds a session due for reset, and none finds no session while another call is
about to create one under the key. -/
def Alone (config : SessionConfig) (c : Config Bridge Point Resolved) :
    Label InboundMessage Point Readings → Prop
  | .act (.lookup msg) t =>
    match c.shared.sessions.lookup (sessionKey config.dmScope msg) with
    | some info => shouldReset config.reset info t.now = false
    | none => ∀ p ∈ c.inFlight, creating (sessionKey config.dmScope msg) p = 0
  | _ => True

def OneSession (c : Config Bridge Point Resolved) : Prop :=
  ∀ e ∈ c.history, (c.shared.sessions.lookup e.key).map SessionInfo.sessionId = some e.sessionId

structure Single (c : Config Bridge Point Resolved) : Prop where
  one : ∀ key, load (creating key) c.inFlight +
    (c.shared.sessions.lookup key).isSome.toNat ≤ 1
  resolved : OneSession c

variable {b b' : Bridge} {l r : List Point} {h evs : List Resolved} {p : Point}
  {o : Point ⊕ Output} {t : Readings}

theorem oneSession_store (hone : OneSession ⟨b, l, h⟩) {key : String} {info : SessionInfo}
    (hkeep : ∀ old, b.sessions.lookup key = some old → old.sessionId = info.sessionId)
    (ps : List Point) :
    OneSession ⟨b.store key info, ps, h ++ [⟨key, info.sessionId⟩]⟩ := by
  intro e he
  simp only [Bridge.store, KeyedMap.lookup_insert_if]
  obtain he | he := List.mem_append.mp he
  · have hold := hone e he
    split
    · next hkey =>
      obtain ⟨old, hlookup, hsession⟩ := Option.map_eq_some_iff.mp hold
      rw [Option.map_some, ← hkeep old (hkey ▸ hlookup), hsession]
    · exact hold
  · obtain rfl := List.mem_singleton.mp he
    rw [if_pos rfl, Option.map_some]

theorem Single.call (hc : Single ⟨b, l ++ r, h⟩) (msg : InboundMessage) :
    Single ⟨b, l ++ Point.lookup msg :: r, h⟩ where
  one key := by
    have hone := hc.one key
    have hzero : creating key (.lookup msg) = 0 := rfl
    rw [load_call, hzero]
    exact hone
  resolved := hc.resolved

theorem load_creating_lookup (key : String) (msg : InboundMessage) (l r : List Point) :
    load (creating key) (l ++ .lookup msg :: r) = load (creating key) (l ++ r) := load_call _ l r _

theorem load_creating_point (key : String) (q : Point) (l r : List Point) :
    load (creating key) (l ++ (remaining (.inl q : Point ⊕ Output) ++ r)) =
      load (creating key) (l ++ r) + creating key q := by
  rw [load_remaining, remaining_inl, load_cons, load_nil, Nat.add_zero]

theorem load_creating_output (key : String) (x : Output) (l r : List Point) :
    load (creating key) (l ++ (remaining (.inr x : Point ⊕ Output) ++ r)) =
      load (creating key) (l ++ r) := by
  rw [load_remaining, remaining_inr, load_nil, Nat.add_zero]

theorem Single.miss {msg : InboundMessage} (hc : Single ⟨b, l ++ .lookup msg :: r, h⟩)
    (hnone : b.sessions.lookup (sessionKey config.dmScope msg) = none)
    (hok : ∀ p ∈ l ++ .lookup msg :: r, creating (sessionKey config.dmScope msg) p = 0) :
    Single ⟨b, l ++ (remaining (.inl (.create (sessionKey config.dmScope msg) msg) :
      Point ⊕ Output) ++ r), h⟩ where
  one key := by
    have hone := hc.one key
    have hzero := load_eq_zero.mpr hok
    rw [load_creating_lookup] at hone hzero
    rw [load_creating_point]
    by_cases hkey : sessionKey config.dmScope msg = key
    · subst hkey
      simp only [creating, if_true, hzero, hnone, Option.isSome_none, Bool.toNat_false]
      omega
    · simp only [creating, if_neg hkey]
      exact hone
  resolved := hc.resolved

theorem Single.hit {msg : InboundMessage} {info : SessionInfo}
    (hc : Single ⟨b, l ++ .lookup msg :: r, h⟩)
    (hsome : b.sessions.lookup (sessionKey config.dmScope msg) = some info) (t : DateTime) :
    Single ⟨b.store (sessionKey config.dmScope msg) { info with lastActivity := t },
      l ++ (remaining (.inr info.output : Point ⊕ Output) ++ r),
      h ++ [⟨sessionKey config.dmScope msg, info.sessionId⟩]⟩ where
  one key := by
    have hone := hc.one key
    rw [load_creating_lookup] at hone
    rw [load_creating_output, Bridge.store, KeyedMap.lookup_insert_if]
    split
    · next hkey =>
      rw [hkey, hsome] at hone
      rw [hkey]
      exact hone
    · exact hone
  resolved := by
    refine oneSession_store hc.resolved ?_ _
    intro old hold
    rw [hsome] at hold
    cases hold
    rfl

theorem Single.draw {key : String} {msg : InboundMessage} {info : SessionInfo}
    (hc : Single ⟨b, l ++ .create key msg :: r, h⟩) :
    Single ⟨{ b with drawn := b.drawn + 1 },
      l ++ (remaining (.inl (.insert key info) : Point ⊕ Output) ++ r), h⟩ where
  one key' := by
    have hone := hc.one key'
    rw [load_call] at hone
    rw [load_creating_point]
    exact hone
  resolved := hc.resolved

theorem Single.store {key : String} {info : SessionInfo}
    (hc : Single ⟨b, l ++ .insert key info :: r, h⟩) :
    Single ⟨b.store key info, l ++ (remaining (.inr info.output : Point ⊕ Output) ++ r),
      h ++ [⟨key, info.sessionId⟩]⟩ where
  one key' := by
    have hone := hc.one key'
    rw [load_call] at hone
    rw [load_creating_output, Bridge.store, KeyedMap.lookup_insert_if]
    split
    · next hkey =>
      rw [creating, if_pos hkey.symm] at hone
      simp only [Option.isSome_some, Bool.toNat_true]
      omega
    · exact (Nat.add_le_add_right (Nat.le_add_right _ _) _).trans hone
  resolved := by
    refine oneSession_store hc.resolved ?_ _
    intro old hold
    have hone := hc.one key
    rw [load_call, creating, if_pos rfl, hold, Option.isSome_some, Bool.toNat_true] at hone
    omega

theorem Single.act (hc : Single ⟨b, l ++ p :: r, h⟩)
    (hok : Alone config ⟨b, l ++ p :: r, h⟩ (.act p t))
    (hstep : step uuid config t b p = (b', o, evs)) :
    Single ⟨b', l ++ (remaining o ++ r), h ++ evs⟩ := by
  cases p with
  | lookup msg =>
    simp only [Alone] at hok
    cases hlookup : b.sessions.lookup (sessionKey config.dmScope msg) with
    | none =>
      simp only [hlookup] at hok
      simp only [step, hlookup] at hstep
      cases hstep
      rw [List.append_nil]
      exact hc.miss hlookup hok
    | some info =>
      simp only [hlookup] at hok
      simp only [step, hlookup, hok, Bool.false_eq_true, if_false] at hstep
      cases hstep
      exact hc.hit hlookup t.touched
  | create key msg =>
    cases hstep
    rw [List.append_nil]
    exact hc.draw
  | insert key info =>
    cases hstep
    exact hc.store

/-- However calls overlap, one session is created under a key, unless a look-up comes between
another's look-up and its insert. -/
theorem oneSession_of_run (uuid : ℕ → String) (config : SessionConfig) (b : Bridge)
    (c : Config Bridge Point Resolved)
    (hc : Run (program uuid config) (Alone config) (initial b) c) : OneSession c := by
  suffices h : Single c from h.resolved
  refine hc.invariant (fun _ _ ↦ trivial) ?_ (fun msg _ _ h ↦ h.call msg)
    fun t hstep hok _ h ↦ h.act hok (Option.some_inj.mp hstep)
  refine ⟨fun key ↦ ?_, nofun⟩
  rw [initial, load_nil, Nat.zero_add]
  exact Bool.toNat_le _

def twoUuids (n : ℕ) : String :=
  if n = 0 then "1b4e28ba-2fa1-41d2-883f-0016d3cca427" else "6fa459ea-ee8a-4ca4-894e-db77e160355e"

def hello : InboundMessage := ⟨.telegram, "", "ann"⟩

def noon : Readings := ⟨DateTime.hours 12, DateTime.hours 12⟩

def noSessions : Bridge := ⟨∅, 0⟩

def oneByOne : List (Move InboundMessage Readings) :=
  [.call hello, .act 0 noon, .act 0 noon, .act 0 noon, .call hello, .act 0 noon]

theorem oneSession_of_run_oneByOne : ∃ c,
    play (program twoUuids GatewayConfig.default.session) (initial noSessions) oneByOne = some c ∧
      c.history.length = 2 ∧ OneSession c := by
  have hpermits : Permits (program twoUuids GatewayConfig.default.session)
      (Alone GatewayConfig.default.session) (initial noSessions) oneByOne := by
    repeat' first
      | exact trivial
      | refine And.intro trivial ?_
      | refine And.intro ?_ ?_
    · intro p hp
      cases List.mem_singleton.mp hp
      rfl
    · rfl
  exact ⟨_, rfl, rfl, oneSession_of_run twoUuids _ noSessions _ (run_of_permits hpermits rfl)⟩

/-- Both look-ups come before the first insert. -/
def overlapping : List (Move InboundMessage Readings) :=
  [.call hello, .call hello, .act 0 noon, .act 1 noon, .act 0 noon, .act 0 noon, .act 0 noon,
    .act 0 noon]

theorem not_oneSession : ¬ ∀ c,
    Reachable (program twoUuids GatewayConfig.default.session) noSessions c → OneSession c := by
  intro h
  have hplay : ∃ c, play (program twoUuids GatewayConfig.default.session) (initial noSessions)
      overlapping = some c ∧
        c.history = [⟨"telegram:ann", "gw-" ++ twoUuids 0⟩, ⟨"telegram:ann", "gw-" ++ twoUuids 1⟩] :=
    ⟨_, rfl, rfl⟩
  obtain ⟨c, hplay, hhistory⟩ := hplay
  have hone := h c (run_of_play _ hplay)
  rw [OneSession, hhistory] at hone
  have hfirst := hone _ (.head _)
  have hsecond := hone _ (.tail _ (.head _))
  exact absurd (Option.some_inj.mp (hfirst.symm.trans hsecond)) (by decide)

def resetHour (reset : SessionResetConfig) : ℤ := ((reset.atHour.getD 4).toNat : ℤ)

def resetTime (reset : SessionResetConfig) (day : ℤ) : DateTime :=
  day * DateTime.hours 24 + resetHour reset * DateTime.hours 1

/-- A reset is due when its time has come since the last activity. -/
def ResetsDaily (reset : SessionResetConfig) (info : SessionInfo) (now : DateTime) : Prop :=
  shouldReset reset info now = true ↔
    ∃ day, info.lastActivity < resetTime reset day ∧ resetTime reset day ≤ now

/-- The hour has not come between two times of one day, nor yesterday after the last activity when
it is still to come today. -/
def Unambiguous (reset : SessionResetConfig) (info : SessionInfo) (now : DateTime) : Prop :=
  ¬ (dateNaive info.lastActivity = dateNaive now ∧ hour info.lastActivity < resetHour reset ∧
      resetHour reset ≤ hour now) ∧
    ¬ (hour now < resetHour reset ∧ info.lastActivity < resetTime reset (dateNaive now - 1))

instance (reset : SessionResetConfig) (info : SessionInfo) (now : DateTime) :
    Decidable (Unambiguous reset info now) := inferInstanceAs (Decidable (_ ∧ _))

section Daily

variable {reset : SessionResetConfig} {info : SessionInfo} {now : DateTime}

theorem shouldReset_daily (hmode : reset.mode = "daily") : shouldReset reset info now = true ↔
    dateNaive info.lastActivity < dateNaive now ∧ resetHour reset ≤ hour now := by
  unfold shouldReset resetHour
  simp only [hmode, Bool.and_eq_true, decide_eq_true_eq]

/-- With days of so many nanoseconds: the last reset that has come tells whether one has come since
the last activity. -/
theorem exists_day {at_ last now : ℤ} : (∃ day, last < day * 86400000000000 + at_ ∧
      day * 86400000000000 + at_ ≤ now) ↔
    last < (now - at_) / 86400000000000 * 86400000000000 + at_ := by
  constructor
  · intro h
    obtain ⟨day, hlast, hnow⟩ := h
    omega
  · intro h
    exact ⟨_, h, by omega⟩

theorem compare_iff {h last now : ℤ} (hpos : 0 ≤ h) (hhour : h < 24) (hle : last ≤ now) :
    ((last / 86400000000000 < now / 86400000000000 ∧ h ≤ now % 86400000000000 / 3600000000000) ↔
        ∃ day, last < day * 86400000000000 + h * 3600000000000 ∧
          day * 86400000000000 + h * 3600000000000 ≤ now) ↔
      ¬ (last / 86400000000000 = now / 86400000000000 ∧
          last % 86400000000000 / 3600000000000 < h ∧ h ≤ now % 86400000000000 / 3600000000000) ∧
        ¬ (now % 86400000000000 / 3600000000000 < h ∧
          last < (now / 86400000000000 - 1) * 86400000000000 + h * 3600000000000) := by
  rw [exists_day]
  omega

/-- Only the date of the last activity is looked at, and only the hour of today. -/
theorem resetsDaily_iff (hmode : reset.mode = "daily") (hhour : resetHour reset < 24)
    (hle : info.lastActivity ≤ now) : ResetsDaily reset info now ↔ Unambiguous reset info now := by
  have hpos : 0 ≤ resetHour reset := Int.natCast_nonneg _
  rw [ResetsDaily, shouldReset_daily hmode]
  exact compare_iff hpos hhour hle

def dailyReset : SessionResetConfig := ⟨"daily", none, none⟩

def morningSession : SessionInfo := ⟨"gw-1", "telegram:7", DateTime.hours 10, .telegram⟩

theorem resetsDaily_iff_morningSession :
    ResetsDaily dailyReset morningSession (DateTime.hours 29) ∧
      shouldReset dailyReset morningSession (DateTime.hours 29) = true :=
  ⟨(resetsDaily_iff rfl (by decide) (by decide)).mpr (by decide), by decide⟩

/-- At two on the day after that it is not. -/
theorem not_resetsDaily : ¬ ∀ reset info now, reset.mode = "daily" → resetHour reset < 24 →
    info.lastActivity ≤ now → ResetsDaily reset info now := by
  intro h
  have hiff := h dailyReset morningSession (DateTime.hours 50) rfl (by decide) (by decide)
  have hreset : shouldReset dailyReset morningSession (DateTime.hours 50) = true :=
    hiff.mpr ⟨1, by decide, by decide⟩
  exact absurd hreset (by decide)

end Daily

end AdkGateway.SessionBridge
