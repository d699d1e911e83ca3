import AdkGateway.Foundation.KeyedMap
import AdkGateway.Foundation.Text
import AdkGateway.Foundation.Time

namespace AdkGateway.ControlPanel

open Foundation

inductive AuthMode
  | token
  | password
  | none
  deriving DecidableEq

structure AuthConfig where
  mode : AuthMode
  token : Option String
  password : Option String

structure UiSession where
  token : String
  createdAt : DateTime

abbrev UiSessions := KeyedMap String UiSession

def cookieName : String := "adk_ui_session"

def sessionMaxAge : DateTime := DateTime.hours 24

def isAuthRequired (auth : Option AuthConfig) : Bool :=
  auth.any fun auth ↦ (auth.mode = .password || auth.mode = .token) &&
    (auth.password.isSome || auth.token.isSome)

def extractCookie (cookieHeader name : String) : Option String :=
  (cookieHeader.toList.splitOn ';').findSome? fun pair ↦
    (name.toList.isPrefixOf? (Text.trimEndChars (Text.trimStartChars pair))).bind fun value ↦
      (['='].isPrefixOf? value).map String.ofList

def sessionToken (cookieHeader : Option String) : Option String :=
  extractCookie (cookieHeader.getD "") cookieName

def UiSession.isLive (session : UiSession) (token : String) (now : DateTime) : Bool :=
  session.token = token && now - session.createdAt < sessionMaxAge

/-- How the guard goes on: with the handler, with it while the session is read, with the removal of
a session that has expired, or with a refusal. -/
inductive GuardOutcome
  | pass
  | enter (token : String)
  | expire (token : String)
  | refuse
  deriving DecidableEq

def authGuard (auth : Option AuthConfig) (sessions : UiSessions) (now : DateTime) (path : String)
    (cookieHeader : Option String) : GuardOutcome :=
  if !isAuthRequired auth then .pass
  else if path = "/ui/api/login" ∨ path = "/ui/api/auth/check" then .pass
  else
    match sessionToken cookieHeader with
    | none => .refuse
    | some token =>
      match sessions.lookup token with
      | none => .refuse
      | some session => if session.isLive token now then .enter token else .expire token

/-- Whether `auth_check` answers that a request is authenticated. -/
def authCheck (auth : Option AuthConfig) (sessions : UiSessions) (cookieHeader : Option String) :
    Bool :=
  if !isAuthRequired auth then true
  else (sessionToken cookieHeader).any fun token ↦ (sessions.lookup token).isSome

def expectedSecret (auth : Option AuthConfig) : String :=
  (auth.bind fun auth ↦
    match auth.mode with
    | .password => auth.password
    | .token => auth.token
    | .none => none).getD ""

def isValidLogin (auth : Option AuthConfig) (password : String) : Bool :=
  password = expectedSecret auth && !(expectedSecret auth).isEmpty

section Decisions

variable {auth : Option AuthConfig} {sessions : UiSessions} {now : DateTime} {path : String}
  {cookieHeader : Option String} {token : String}

def admits (auth : Option AuthConfig) (sessions : UiSessions) (now : DateTime) (path : String)
    (cookieHeader : Option String) : Bool :=
  match authGuard auth sessions now path cookieHeader with
  | .pass => true
  | .enter _ => true
  | _ => false

theorem admits_eq (hauth : isAuthRequired auth = true)
    (hpath : path ≠ "/ui/api/login" ∧ path ≠ "/ui/api/auth/check") :
    admits auth sessions now path cookieHeader =
      (sessionToken cookieHeader).any fun token ↦
        (sessions.lookup token).any fun session ↦ session.isLive token now := by
  rw [admits, authGuard, hauth, if_neg (by decide), if_neg (not_or.mpr hpath)]
  cases sessionToken cookieHeader with
  | none => rfl
  | some token =>
    dsimp only
    rw [Option.any_some]
    cases sessions.lookup token with
    | none => rfl
    | some session =>
      dsimp only
      rw [Option.any_some]
      cases session.isLive token now <;> rfl

theorem admits_iff (hauth : isAuthRequired auth = true)
    (hpath : path ≠ "/ui/api/login" ∧ path ≠ "/ui/api/auth/check") :
    admits auth sessions now path cookieHeader = true ↔
      ∃ token, sessionToken cookieHeader = some token ∧
        ∃ session, sessions.lookup token = some session ∧ session.isLive token now = true := by
  simp only [admits_eq hauth hpath, Option.any_eq_true]

theorem authCheck_eq_admits_iff (hauth : isAuthRequired auth = true)
    (hpath : path ≠ "/ui/api/login" ∧ path ≠ "/ui/api/auth/check") :
    authCheck auth sessions cookieHeader = admits auth sessions now path cookieHeader ↔
      ∀ token, sessionToken cookieHeader = some token →
        ∀ session, sessions.lookup token = some session → session.isLive token now = true := by
  rw [admits_eq hauth hpath, authCheck, hauth, if_neg (by decide)]
  cases sessionToken cookieHeader with
  | none => simp
  | some token =>
    simp only [Option.any_some, Option.some.injEq, forall_eq']
    cases sessions.lookup token with
    | none => simp
    | some session =>
      simp only [Option.isSome_some, Option.any_some, Option.some.injEq, forall_eq']
      exact eq_comm

end Decisions

end AdkGateway.ControlPanel
